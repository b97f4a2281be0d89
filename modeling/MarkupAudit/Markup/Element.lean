import MarkupAudit.Text.Blank

/-! Markup as the rules see it: elements with attributes and children, text, embedded expressions
and fragments. The queries on an element look at its own tag, attributes and direct children. -/
namespace MarkupAudit

mutual

inductive Node where
  | element (element : Element)
  | text (text : String)
  | expression (expression : Expression)
  | fragment (children : List Node)

/-- The tag is kept as written. Spread attributes carry no name. -/
structure Element where
  tag : String
  attributes : List Attribute := []
  children : List Node := []
  line : Option Int := none
  column : Option Int := none
  spreads : List Expression := []

structure Attribute where
  name : String
  value : AttributeValue

inductive AttributeValue where
  | bare
  | literal (text : String)
  | expression (expression : Expression)

structure Expression where
  source : String
  children : List Node := []

end

deriving instance Repr for Node, Element, Attribute, AttributeValue, Expression

structure Document where
  children : List Node
  deriving Repr

inductive Root where
  | document (document : Document)
  | node (node : Node)
  deriving Repr

def AttributeValue.literal? : AttributeValue → Option String
  | .literal s => some s
  | _ => none

def AttributeValue.children : AttributeValue → List Node
  | .expression e => e.children
  | _ => []

namespace Attribute

def literal? (a : Attribute) : Option String :=
  a.value.literal?

def isLiteral (a : Attribute) : Bool :=
  a.literal?.isSome

def isAria (a : Attribute) : Bool :=
  "aria-".toList.isPrefixOf a.name.toList

end Attribute

def Node.text? : Node → Option String
  | .text s => some s
  | _ => none

def Node.element? : Node → Option Element
  | .element e => some e
  | _ => none

/-- The nodes directly inside a node; an element counts its children alone. -/
def Node.children : Node → List Node
  | .element e => e.children
  | .text _ => []
  | .expression e => e.children
  | .fragment children => children

namespace Element

def attribute? (e : Element) (name : String) : Option Attribute :=
  e.attributes.find? (·.name == name)

def hasAttribute (e : Element) (names : List String) : Bool :=
  e.attributes.any fun a => names.contains a.name

def literal? (e : Element) (name : String) : Option String :=
  (e.attribute? name).bind Attribute.literal?

def attributeNames (e : Element) : List String :=
  e.attributes.map Attribute.name

def ariaAttributes (e : Element) : List Attribute :=
  e.attributes.filter Attribute.isAria

def text (e : Element) : String :=
  Text.trim (String.join (e.children.filterMap Node.text?))

def childElements (e : Element) : List Element :=
  e.children.filterMap Node.element?

def hasChildTag (e : Element) (tags : List String) : Bool :=
  e.childElements.any fun child => tags.contains child.tag

/-- `line:column`, the line alone, or nothing, as far as they are known. -/
def location (e : Element) : String :=
  match e.line, e.column with
  | none, _ => ""
  | some line, none => toString line
  | some line, some column => toString line ++ ":" ++ toString column

end Element

end MarkupAudit
