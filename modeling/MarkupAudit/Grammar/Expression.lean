import MarkupAudit.Grammar.Type

/-! Expressions. Operators are read as a flat chain of operands, since how they bind has no bearing
on the markup inside. -/
namespace MarkupAudit.Grammar

open Peg

def questionMark : Form :=
  .lexeme fun cs =>
    match cs with
    | '?' :: '?' :: _ => none
    | '?' :: '.' :: c :: _ => if c.isDigit then some 1 else none
    | '?' :: _ => some 1
    | _ => none

def optionalChain : Form :=
  .lexeme fun cs =>
    match cs with
    | '?' :: '.' :: c :: _ => if c.isDigit then none else some 2
    | ['?', '.'] => some 2
    | _ => none

def assignmentMark : Form :=
  .alt (oneOf ["+=", "-=", "*=", "/=", "%=", "^=", "&=", "|=", ">>=", ">>>=", "<<=", "**=", "&&=",
    "||=", "??="]) (markNot "=" "=>")

def binaryMark : Form :=
  anyOf [oneOf ["&&", "||", "??", ">>>", ">>", "<<", "**", "===", "!==", "==", "!=", "<=", ">="],
    oneOf ["<", ">", "+", "-", "*", "/", "%", "&", "|", "^"], "instanceof", "in"]

def unaryMark : Form :=
  anyOf [oneOf ["++", "--", "!", "~", "+", "-"], oneOf ["typeof", "void", "delete", "await"]]

def spread : Form := seqOf ["...", nt .expression]

def arrayForm : Form :=
  seqOf ["[", commaListHoles (.alt spread (nt .expression)), "]"]

def argumentsForm : Form :=
  seqOf ["(", commaListHoles (.alt spread (nt .expression)), ")"]

def methodForm : Form :=
  seqOf [memberModifiers, opt "*", propertyName, opt "?", callSignature, nt .block]

def objectForm : Form :=
  seqOf ["\x7b", commaListHoles (anyOf [
    spread, methodForm, seqOf [propertyName, ":", nt .expression], anyWord]), "\x7d"]

def templateForm : Form :=
  seqOf ["\x60",
    .star (.alt (.adjacent templateRun)
      (seqOf [.adjacent (literal ['$', '\x7b']), expressions, "\x7d"])),
    .adjacent (literal ['\x60'])]

def functionForm : Form :=
  seqOf [opt "async", "function", opt "*", opt anyWord, callSignature, nt .block]

def arrowOf (result : Form) : Form :=
  let signature := .alt name (seqOf [opt (nt .typeParameters), nt .parameters, result])
  let body := .alt (nt .block) (nt .expression)
  .alt (seqOf ["async", signature, "=>", body]) (seqOf [signature, "=>", body])

def arrowForm : Form := arrowOf (opt (nt .returnType))

def classForm : Form :=
  seqOf [.star (nt .decorator), "class",
    opt (.lexeme (wordNot ["extends".toList, "implements".toList])), nt .classTail]

def memberSuffix : Form :=
  anyOf [
    seqOf [.alt optionalChain ".", .alt (.lexeme privateName) anyWord],
    seqOf [opt optionalChain, "[", expressions, "]"],
    seqOf [sameLine, markNot "!" "="]]

/-- Type arguments that stand for themselves: nothing after them can be the right of a comparison. -/
def instantiation : Form :=
  seqOf [nt .typeArguments, .test fun place =>
    match place.ahead with
    | [] => true
    | c :: _ => ")];,:\x7d.?".toList.contains c || place.lineBreak]

def callSuffix : Form :=
  anyOf [
    seqOf [opt optionalChain, nt .arguments],
    seqOf [opt optionalChain, nt .typeArguments, .alt (nt .arguments) (nt .template)],
    nt .template,
    instantiation]

/-- Between the marks of a condition a colon after parentheses may belong to the condition. -/
def consequentForm : Form :=
  .alt (arrowOf .empty)
    (seqOf [.star (seqOf [nt .operand, binaryMark]), .star unaryMark, parenthesised,
      .star (.alt memberSuffix callSuffix)])

def newForm : Form :=
  seqOf ["new", .alt (seqOf [".", "target"])
    (seqOf [nt .primary, .star memberSuffix,
      opt (seqOf [opt (nt .typeArguments), nt .arguments]), opt instantiation])]

def importForm : Form :=
  seqOf ["import", .alt (seqOf [".", anyWord]) (ifAhead "(")]

def primaryForm : Form :=
  anyOf [
    nt .arrow,
    nt .function,
    classForm,
    newForm,
    importForm,
    parenthesised,
    arrayForm,
    nt .object,
    nt .template,
    nt .markup,
    stringForm,
    numberForm,
    .lexeme regularExpression,
    .lexeme privateName,
    name]

def callableForm : Form :=
  let member := seqOf [.star callSuffix, memberSuffix]
  .alt (seqOf [.alt name parenthesised, .star member]) (seqOf [nt .primary, plus member])

def chainForm : Form :=
  seqOf [nt .primary, .star (.alt memberSuffix callSuffix)]

def assignment : Form :=
  .alt (seqOf [ifAhead (oneOf ["[", "\x7b"]), nt .pattern, initializer])
    (seqOf [nt .callable, assignmentMark, nt .expression])

def yieldForm : Form :=
  seqOf ["yield", anyOf [
    seqOf ["*", nt .expression],
    seqOf [.unless (.test (endsHere true)), nt .expression],
    .empty]]

def operandForm : Form :=
  seqOf [.star unaryMark, anyOf [
    yieldForm,
    assignment,
    seqOf [nt .chain, opt (seqOf [sameLine, oneOf ["++", "--"]])]]]

def castForm : Form :=
  seqOf [oneOf ["as", "satisfies"], nt .type]

def conditionTail : Form :=
  .alt (seqOf [questionMark, nt .expression, ":", nt .expression])
    (seqOf [questionMark, nt .consequent, ":", nt .expression])

def expressionForm : Form :=
  seqOf [nt .operand, .star (anyOf [castForm, seqOf [binaryMark, nt .operand], conditionTail])]

end MarkupAudit.Grammar
