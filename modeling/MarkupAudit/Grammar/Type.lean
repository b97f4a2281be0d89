import MarkupAudit.Grammar.Rule

/-! Types and what belongs to them: parameters and arguments of types, and the members of object
types. -/
namespace MarkupAudit.Grammar

open Peg

def typeParameter : Form :=
  seqOf [opt (seqOf [oneOf ["const", "in", "out"], ifAhead anyWord]), anyWord,
    opt (seqOf ["extends", nt .type]), opt (seqOf [markNot "=" "=>", nt .type])]

def typeParametersForm : Form :=
  seqOf ["<", commaListOpen typeParameter, ">"]

def typeArgumentsForm : Form :=
  seqOf ["<", commaListOpen (nt .type), ">"]

/-- A claim about an argument or about `this`. -/
def typePredicate : Form :=
  seqOf [anyWord, sameLine, "is", nt .type]

def returnTypeBody : Form :=
  anyOf [seqOf ["asserts", sameLine, .alt typePredicate anyWord], typePredicate, nt .type]

def returnTypeForm : Form :=
  seqOf [":", returnTypeBody]

def functionType : Form :=
  seqOf [opt (nt .typeParameters), nt .parameters, "=>", returnTypeBody]

def constructorType : Form :=
  seqOf [opt "abstract", "new", opt (nt .typeParameters), nt .parameters, "=>", nt .type]

def typeTemplate : Form :=
  seqOf ["\x60",
    .star (.alt (.adjacent templateRun)
      (seqOf [.adjacent (literal ['$', '\x7b']), nt .type, "\x7d"])),
    .adjacent (literal ['\x60'])]

def dottedWords : Form :=
  seqOf [anyWord, .star (seqOf [".", anyWord])]

def importType : Form :=
  seqOf ["import", "(", expressions, ")", .star (seqOf [".", anyWord]), opt (nt .typeArguments)]

def typeQuery : Form :=
  seqOf ["typeof", .alt importType
    (seqOf [anyWord, .star (.alt (seqOf [".", .alt (.lexeme privateName) anyWord])
      (seqOf [sameLine, "[", nt .expression, "]"])), opt (nt .typeArguments)])]

def tupleMember : Form :=
  anyOf [
    seqOf [opt "...", anyWord, opt "?", ":", nt .type],
    seqOf ["...", nt .type],
    seqOf [nt .type, opt "?"]]

def tupleType : Form :=
  seqOf ["[", opt (commaListOpen tupleMember), "]"]

def primaryType : Form :=
  anyOf [
    seqOf ["(", nt .type, ")"],
    nt .objectType,
    tupleType,
    typeTemplate,
    stringForm,
    seqOf [opt "-", numberForm],
    typeQuery,
    importType,
    seqOf [dottedWords, opt (nt .typeArguments)]]

def suffixedType : Form :=
  seqOf [primaryType, .star (seqOf [sameLine, "[", opt (nt .type), "]"])]

def typeOperandForm : Form :=
  anyOf [
    functionType,
    constructorType,
    seqOf ["infer", anyWord,
      opt (seqOf ["extends", nt .typeOperand, .unless "?"])],
    seqOf [oneOf ["keyof", "readonly", "unique"], nt .typeOperand],
    suffixedType]

def intersectionType : Form :=
  seqOf [opt (markNot "&" "&"), nt .typeOperand,
    .star (seqOf [markNot "&" "&", nt .typeOperand])]

def unionType : Form :=
  seqOf [opt (markNot "|" "|"), intersectionType,
    .star (seqOf [markNot "|" "|", intersectionType])]

def typeForm : Form :=
  seqOf [unionType, opt (seqOf [sameLine, "extends", unionType, "?", nt .type, ":", nt .type])]

def indexSignature : Form :=
  seqOf [
    opt (seqOf [opt (oneOf ["+", "-"]), "readonly"]),
    "[",
    .alt (seqOf [anyWord, ":", nt .type])
      (seqOf [anyWord, "in", nt .type, opt (seqOf ["as", nt .type])]),
    "]",
    opt (oneOf ["+", "-"]), opt "?", opt typeAnnotation]

def methodSignature : Form :=
  seqOf [memberModifiers, opt "*", propertyName, opt "?", callSignature]

def propertySignature : Form :=
  seqOf [memberModifiers, propertyName, opt "?", opt typeAnnotation]

def objectTypeMember : Form :=
  anyOf [
    indexSignature,
    callSignature,
    seqOf [opt "abstract", "new", callSignature],
    methodSignature,
    propertySignature]

def memberEnd : Form := .alt "," semicolonAfterType

def objectTypeForm : Form :=
  seqOf ["\x7b", opt (.alt "," ";"),
    opt (seqOf [objectTypeMember, .star (seqOf [memberEnd, objectTypeMember]),
      opt (.alt "," ";")]), "\x7d"]

def parameterModifiers : Form :=
  .star (seqOf [oneOf ["public", "private", "protected", "override", "readonly"],
    .test fun place =>
      match place.ahead with
      | c :: _ => isWordStart c || c == '\x7b' || c == '['
      | [] => false])

def parameter : Form :=
  seqOf [.star (nt .decorator), parameterModifiers, opt "...", nt .pattern, opt "?",
    opt typeAnnotation, opt initializer]

def parametersForm : Form :=
  seqOf ["(", opt (commaListOpen parameter), ")"]

def objectPattern : Form :=
  seqOf ["\x7b", commaListHoles (anyOf [
    seqOf ["...", nt .pattern],
    seqOf [propertyName, ":", nt .pattern, opt initializer],
    seqOf [anyWord, opt initializer]]), "\x7d"]

def arrayPattern : Form :=
  seqOf ["[", commaListHoles (.alt (seqOf ["...", nt .pattern])
    (seqOf [nt .pattern, opt initializer])), "]"]

def patternForm : Form :=
  anyOf [objectPattern, arrayPattern,
    seqOf [anyWord, .star (.alt (seqOf [".", .alt (.lexeme privateName) anyWord])
      (seqOf [sameLine, "[", expressions, "]"]))]]

end MarkupAudit.Grammar
