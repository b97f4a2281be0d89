import MarkupAudit.Grammar.Peg

/-! The rules of the component grammar that refer to one another, and what all parts of the grammar
share: names, lists and the ends of statements. -/
namespace MarkupAudit.Grammar

inductive Rule where
  | statement
  | block
  | declaration
  | expression
  | consequent
  | operand
  | primary
  | chain
  | callable
  | arguments
  | object
  | template
  | function
  | arrow
  | classTail
  | decorator
  | pattern
  | parameters
  | type
  | typeOperand
  | typeArguments
  | typeParameters
  | returnType
  | objectType
  | markup
  | tagHead
  deriving DecidableEq, Hashable, Repr

/-- An expression of the component grammar. -/
abbrev Form := Peg Rule

open Peg

def nt (r : Rule) : Form := .rule r

def markNot (s : String) (next : String) : Form :=
  .lexeme (literalNot s.toList (next.toList.map fun c => [c]))

def oneOf (ss : List String) : Form := anyOf (ss.map mark)

def anyWord : Form := .lexeme word

/-- Words that begin an expression of their own kind and so are no names there. -/
def expressionWords : List (List Char) :=
  ["function", "class", "new", "typeof", "void", "delete", "await", "yield", "import", "case",
    "default"].map String.toList

def name : Form := .lexeme (wordNot expressionWords)

def sameLine : Form := .test fun place => !place.lineBreak

def stringForm : Form := .lexeme string

def numberForm : Form := .lexeme number

def startsRelation (cs : List Char) : Bool :=
  (wordAmong ["in".toList, "instanceof".toList] cs).isSome

/-- Whether a statement may end here without a semicolon: at the end of the text, before a closing
brace, and where a line ends and the next one cannot go on with the statement. After an expression
a bracket or parenthesis goes on with it. -/
def endsHere (afterExpression : Bool) (place : Cursor) : Bool :=
  match place.ahead with
  | [] => true
  | '\x7d' :: rest =>
    place.lineBreak || (rest.drop (run isTextSpace rest)).head? != some ':'
  | c :: rest =>
    place.lineBreak &&
      if "\x60,.;*%><=?^|&/:".toList.contains c then false
      else if c == '(' || c == '[' then !afterExpression
      else if c == '+' || c == '-' then rest.head? == some c
      else if c == '!' then rest.head? != some '='
      else !startsRelation place.ahead

def semicolon : Form := .alt ";" (.test (endsHere true))

def semicolonAfterType : Form := .alt ";" (.test (endsHere false))

/-- The end of a function without a body: a brace on the next line would be its body. -/
def semicolonAfterSignature : Form :=
  .alt ";" (.test fun place => endsHere false place && place.ahead.head? != some '\x7b')

def expressions : Form := commaList (nt .expression)

def parenthesised : Form :=
  seqOf ["(", expressions, opt (seqOf [":", nt .type]), ")"]

def typeAnnotation : Form := seqOf [":", nt .type]

def initializer : Form := seqOf [markNot "=" "=>", nt .expression]

def propertyName : Form :=
  anyOf [seqOf ["[", nt .expression, "]"], stringForm, numberForm, .lexeme privateName, anyWord]

def propertyAhead : Form :=
  .test fun place =>
    match place.ahead with
    | [] => false
    | c :: _ => isWordPart c || c == '\\' || "\x22\x27[#*".toList.contains c

def memberModifiers : Form :=
  .star (seqOf [
    .lexeme (wordAmong (["declare", "public", "private", "protected", "static", "override",
      "readonly", "abstract", "accessor", "async", "get", "set"].map String.toList)),
    propertyAhead])

def callSignature : Form :=
  seqOf [opt (nt .typeParameters), nt .parameters, opt (nt .returnType)]

end MarkupAudit.Grammar
