import MarkupAudit.Grammar.Markup

/-! Statements, declarations and the members of classes. -/
namespace MarkupAudit.Grammar

open Peg

def blockForm : Form := seqOf ["\x7b", .star (nt .statement), "\x7d"]

def binding : Form :=
  seqOf [nt .pattern, opt (markNot "!" "="), opt typeAnnotation, opt initializer]

def bindings : Form :=
  seqOf [oneOf ["let", "const", "var"], commaList binding, semicolon]

def functionDeclaration : Form :=
  seqOf [opt "async", "function", opt "*", anyWord, callSignature,
    .alt (nt .block) semicolonAfterSignature]

def decoratorForm : Form :=
  seqOf ["@", .alt parenthesised
    (seqOf [dottedWords, .star (.alt (seqOf [opt (nt .typeArguments), nt .arguments])
      (seqOf [".", anyWord]))])]

def superclass : Form := seqOf [nt .chain, opt (nt .typeArguments)]

def heritage : Form :=
  .alt
    (seqOf ["extends", commaList superclass, opt (seqOf ["implements", commaList (nt .type)])])
    (seqOf ["implements", commaList (nt .type)])

def classMember : Form :=
  anyOf [
    ";",
    seqOf ["static", nt .block],
    seqOf [memberModifiers, indexSignature, memberEnd],
    seqOf [.star (nt .decorator), memberModifiers, opt "*", propertyName,
      opt (.alt "?" (markNot "!" "=")),
      anyOf [
        seqOf [callSignature, anyOf [nt .block, ",", semicolonAfterSignature]],
        seqOf [opt typeAnnotation, initializer, .alt "," semicolon],
        seqOf [opt typeAnnotation, memberEnd]]]]

def classTailForm : Form :=
  seqOf [opt (nt .typeParameters), opt heritage, "\x7b", .star classMember, "\x7d"]

def classDeclaration : Form :=
  seqOf [.star (nt .decorator), opt "abstract", "class",
    .lexeme (wordNot ["extends".toList, "implements".toList]), nt .classTail]

def enumDeclaration : Form :=
  seqOf [opt "const", "enum", anyWord, "\x7b",
    opt (commaListOpen (seqOf [propertyName, opt initializer])), "\x7d"]

def interfaceDeclaration : Form :=
  seqOf ["interface", anyWord, opt (nt .typeParameters),
    opt (seqOf ["extends", commaList (nt .type)]), nt .objectType]

def typeAlias : Form :=
  seqOf ["type", anyWord, opt (nt .typeParameters), "=", nt .type, semicolonAfterType]

def moduleDeclaration : Form :=
  seqOf [oneOf ["namespace", "module"], .alt stringForm dottedWords,
    .alt (nt .block) semicolonAfterSignature]

def importAlias : Form :=
  seqOf ["import", opt "type", anyWord, "=",
    .alt (seqOf ["require", "(", stringForm, ")"]) dottedWords, semicolon]

def ambient : Form :=
  seqOf ["declare", .alt (seqOf ["global", nt .block]) (nt .declaration)]

def declarationForm : Form :=
  anyOf [functionDeclaration, classDeclaration, enumDeclaration, interfaceDeclaration, typeAlias,
    moduleDeclaration, ambient, importAlias, bindings]

def moduleName : Form := .alt stringForm anyWord

def fromClause : Form :=
  seqOf ["from", stringForm, opt (seqOf [sameLine, oneOf ["with", "assert"], nt .object])]

def specifier : Form :=
  .alt
    (seqOf [oneOf ["type", "typeof"], moduleName, opt (seqOf ["as", moduleName]),
      ifAhead (.alt "," "\x7d")])
    (seqOf [moduleName, opt (seqOf ["as", moduleName])])

def specifiers : Form := seqOf ["\x7b", opt (commaListOpen specifier), "\x7d"]

def importAll : Form := seqOf ["*", "as", anyWord]

def importClause : Form :=
  anyOf [importAll, specifiers,
    seqOf [anyWord, opt (seqOf [",", .alt importAll specifiers])]]

def importStatement : Form :=
  seqOf ["import", anyOf [
    seqOf [stringForm, opt (seqOf [sameLine, oneOf ["with", "assert"], nt .object])],
    seqOf [importClause, fromClause],
    seqOf [oneOf ["type", "typeof"], importClause, fromClause]], semicolon]

def exportStatement : Form :=
  seqOf [.star (nt .decorator), "export", anyOf [
    seqOf ["*", opt (seqOf ["as", moduleName]), fromClause, semicolon],
    seqOf [opt "type", specifiers, opt fromClause, semicolon],
    seqOf ["type", "*", opt (seqOf ["as", moduleName]), fromClause, semicolon],
    seqOf [markNot "=" "=>", nt .expression, semicolon],
    seqOf ["as", "namespace", anyWord, semicolon],
    seqOf ["default", .alt (nt .declaration) (seqOf [nt .expression, semicolon])],
    nt .declaration]]

def ifStatement : Form :=
  seqOf ["if", parenthesised, nt .statement, opt (seqOf ["else", nt .statement])]

def forHead : Form :=
  let bound := .alt (seqOf [oneOf ["let", "const", "var"], nt .pattern, opt typeAnnotation])
    (.alt (nt .callable) (nt .pattern))
  .alt
    (seqOf [bound, oneOf ["of", "in"], expressions])
    (seqOf [anyOf [bindings, seqOf [expressions, ";"], ";"],
      .alt (seqOf [expressions, ";"]) ";", opt expressions])

def forStatement : Form :=
  seqOf ["for", opt "await", "(", forHead, ")", nt .statement]

def switchCase : Form :=
  seqOf [.alt (seqOf ["case", expressions]) "default", ":", .star (nt .statement)]

def switchStatement : Form :=
  seqOf ["switch", parenthesised, "\x7b", .star switchCase, "\x7d"]

def tryStatement : Form :=
  seqOf ["try", nt .block,
    opt (seqOf ["catch", opt (seqOf ["(", nt .pattern, opt typeAnnotation, ")"]), nt .block]),
    opt (seqOf ["finally", nt .block])]

def jumpStatement : Form :=
  seqOf [oneOf ["break", "continue"],
    .alt semicolonAfterType (seqOf [sameLine, anyWord, semicolonAfterType])]

def returnStatement : Form :=
  seqOf ["return", .alt semicolonAfterType (seqOf [expressions, semicolon])]

def controlStatement : Form :=
  anyOf [
    ifStatement,
    forStatement,
    switchStatement,
    tryStatement,
    jumpStatement,
    returnStatement,
    seqOf ["while", parenthesised, nt .statement],
    seqOf ["do", nt .statement, "while", parenthesised, opt semicolon],
    seqOf ["throw", expressions, semicolon],
    seqOf ["with", parenthesised, nt .statement],
    seqOf ["debugger", semicolonAfterType]]

/-- Words that begin a statement of their own kind and so no expression that is a statement. -/
def statementWords : List (List Char) :=
  ["if", "for", "switch", "try", "break", "continue", "return", "while", "do", "throw", "with",
    "debugger", "var", "const", "enum", "interface", "abstract", "case", "default", "else",
    "catch", "finally"].map String.toList

def plainStatement : Form :=
  seqOf [.unless (.lexeme (wordAmong statementWords)),
    .alt (seqOf [name, ":", nt .statement]) (seqOf [expressions, semicolon])]

/-- A comment in the form that markup pages have, to the end of its line. -/
def pageComment : Form :=
  .lexeme fun cs =>
    if startsWith "<!--".toList cs || startsWith "-->".toList cs then some (toLineEnd cs)
    else none

def statementForm : Form :=
  anyOf [nt .block, ";", pageComment, importStatement, exportStatement, controlStatement,
    nt .declaration, plainStatement]

def program : Form :=
  .node ⟨"program", none, true⟩ (seqOf [
    opt (.lexeme fun cs => if startsWith ['#', '!'] cs then some (toLineEnd cs) else none),
    .star (nt .statement),
    .test fun place => place.ahead.isEmpty])

end MarkupAudit.Grammar
