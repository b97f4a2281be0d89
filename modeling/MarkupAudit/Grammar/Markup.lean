import MarkupAudit.Grammar.Expression

/-! Markup among expressions: elements and fragments with their attributes and contents. These are
the parts of a source that its tree keeps. -/
namespace MarkupAudit.Grammar

open Peg

def tagMark : Form := .lexeme tagWord

def namespacedName : Form := seqOf [tagMark, ":", tagMark]

def tagName : Form :=
  anyOf [namespacedName, seqOf [anyWord, plus (seqOf [".", anyWord])], tagMark]

def container : Form :=
  .node ⟨"jsx_expression", none, false⟩
    (seqOf ["\x7b", opt (.alt spread expressions), "\x7d"])

def attributeValue : Form :=
  anyOf [.node ⟨"string", none, false⟩ (.lexeme attributeString), container, nt .markup]

def attributeForm : Form :=
  .node ⟨"jsx_attribute", none, false⟩
    (seqOf [.node ⟨"property_identifier", none, false⟩ (.alt namespacedName tagMark),
      opt (seqOf ["=", attributeValue])])

def named (p : Form) : Form := .node ⟨"identifier", some "name", false⟩ p

/-- The name and the attributes of a tag. Only plain and dotted names take type arguments. -/
def tagHeadForm : Form :=
  seqOf [
    anyOf [
      named namespacedName,
      seqOf [named dottedWords, .unless (.adjacent (literal ['-'])), opt (nt .typeArguments)],
      named tagMark],
    .star (.alt container attributeForm)]

def content : Form :=
  anyOf [
    .node ⟨"jsx_text", none, true⟩ (.adjacent text),
    .node ⟨"html_character_reference", none, false⟩ (.lexeme characterReference),
    nt .markup,
    container]

def selfClosing : Form :=
  .node ⟨"jsx_self_closing_element", none, false⟩ (seqOf ["<", nt .tagHead, "/>"])

def elementForm : Form :=
  .node ⟨"jsx_element", none, false⟩
    (seqOf [
      .node ⟨"jsx_opening_element", some "open_tag", false⟩ (seqOf ["<", opt (nt .tagHead), ">"]),
      .star content,
      "</", opt tagName, ">"])

def markupForm : Form := .alt selfClosing elementForm

end MarkupAudit.Grammar
