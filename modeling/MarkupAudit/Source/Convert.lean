import Std.Data.HashMap
import MarkupAudit.Markup.Element
import MarkupAudit.Source.Search
import MarkupAudit.Text.Entity
import MarkupAudit.Text.Position

/-! From a source tree to markup, without recursion. A node goes on the stack twice: first to
schedule the nodes that it is built from, then to be built from their results, which are kept in
tables by node identity. -/
namespace MarkupAudit

inductive ConversionFailure where
  | undecodable (fault : Text.Utf8.Fault)
  | missingEntry (id : Nat)
  | namelessAttribute
  deriving DecidableEq, Repr

def ConversionFailure.message : ConversionFailure → String
  | undecodable fault => fault.message
  | missingEntry id => toString id
  | namelessAttribute => "list index out of range"

namespace SourceNode

def textIn (bytes : Array UInt8) (n : SourceNode) : Except ConversionFailure String :=
  match Text.Utf8.decode (Text.slice bytes n.start n.stop) with
  | .ok s => .ok s
  | .error fault => .error (.undecodable fault)

def openingTag? (n : SourceNode) : Option SourceNode :=
  match n.childInField? "open_tag" with
  | some t => some t
  | none => n.children.find? (·.kind == "jsx_opening_element")

def isSelfClosing (n : SourceNode) : Bool :=
  n.kind == "jsx_self_closing_element"

def tagNode? (n : SourceNode) : Option SourceNode :=
  if n.isSelfClosing then some n
  else if n.kind == "jsx_fragment" then none
  else n.openingTag?

def attributeParts (n : SourceNode) :
    Except ConversionFailure (SourceNode × Option SourceNode) :=
  match n.namedChildren.filter (·.kind != "comment") with
  | [] => .error .namelessAttribute
  | name :: rest => .ok (name, rest.head?)

def tagParts (n : SourceNode) : List SourceNode :=
  match n.tagNode? with
  | some t => t.namedChildren.filter isAttributeLike
  | none => []

def contentParts (n : SourceNode) : List SourceNode :=
  if n.isSelfClosing then [] else n.namedChildren.filter isContainer

/-- The nodes whose converted forms a node is built from. -/
def dependencies (n : SourceNode) : Except ConversionFailure (List SourceNode) :=
  if n.isExpression then .ok n.outermostMarkup
  else if n.kind == "jsx_attribute" then
    match n.attributeParts with
    | .error e => .error e
    | .ok (_, value?) => .ok (value?.filter isContainer).toList
  else .ok (n.tagParts ++ n.contentParts)

theorem weightOf_namedChildren_le (n : SourceNode) :
    weightOf n.namedChildren ≤ weightOf n.children :=
  weightOf_filter_le _ _

theorem mem_children_of_openingTag? {n t : SourceNode} (h : n.openingTag? = some t) :
    t ∈ n.children := by
  unfold openingTag? childInField? at h
  split at h
  · rename_i t' ht
    cases h
    exact List.mem_of_find?_eq_some ht
  · exact List.mem_of_find?_eq_some h

theorem weightOf_tagParts_le (n : SourceNode) : weightOf n.tagParts ≤ weightOf n.children := by
  unfold tagParts
  split
  · rename_i t h
    have hp : weightOf (t.namedChildren.filter isAttributeLike) ≤ weightOf t.children :=
      Nat.le_trans (weightOf_filter_le _ _) t.weightOf_namedChildren_le
    unfold tagNode? at h
    split at h
    · cases h; exact hp
    · split at h
      · cases h
      · have := weight_le_weightOf (mem_children_of_openingTag? h)
        have := t.weight_eq
        omega
  · simp [weightOf]

theorem weightOf_contentParts_le (n : SourceNode) :
    weightOf n.contentParts ≤ weightOf n.children := by
  unfold contentParts
  split
  · simp [weightOf]
  · exact Nat.le_trans (weightOf_filter_le _ _) n.weightOf_namedChildren_le

theorem weightOf_dependencies_le {n : SourceNode} {deps : List SourceNode}
    (h : n.dependencies = .ok deps) : weightOf deps ≤ 2 * weightOf n.children := by
  unfold dependencies at h
  split at h
  · cases h
    have := n.weightOf_outermostMarkup
    omega
  · split at h
    · split at h
      · cases h
      · rename_i name value? hp
        cases h
        unfold attributeParts at hp
        split at hp
        · cases hp
        · rename_i first rest hf
          cases hp
          have hw : weightOf (name :: rest) ≤ weightOf n.children := by
            rw [← hf]
            exact Nat.le_trans (weightOf_filter_le _ _) n.weightOf_namedChildren_le
          cases rest with
          | nil => simp [weightOf]
          | cons v rest =>
            by_cases hv : v.isContainer <;> simp [Option.filter, hv, weightOf] at hw ⊢
            omega
    · cases h
      have := n.weightOf_tagParts_le
      have := n.weightOf_contentParts_le
      simp only [weightOf_append]
      omega

end SourceNode

namespace Conversion

structure Tables where
  elements : Std.HashMap Nat Node := {}
  expressions : Std.HashMap Nat Expression := {}
  attributes : Std.HashMap Nat Attribute := {}

def entry (table : Std.HashMap Nat α) (n : SourceNode) : Except ConversionFailure α :=
  match table[n.id]? with
  | some a => .ok a
  | none => .error (.missingEntry n.id)

def Tables.node (t : Tables) (n : SourceNode) : Except ConversionFailure Node :=
  if n.isExpression then (entry t.expressions n).map .expression else entry t.elements n

def unquoted (s : String) : String :=
  String.ofList (s.toList.drop 1).dropLast

def buildExpression (bytes : Array UInt8) (t : Tables) (n : SourceNode) :
    Except ConversionFailure Expression := do
  let source ← n.textIn bytes
  let children ← n.outermostMarkup.mapM t.node
  return ⟨source, children⟩

/-- Quoted values have their character references replaced and keep their backslashes. -/
def buildValue (bytes : Array UInt8) (t : Tables) (n : SourceNode) :
    Except ConversionFailure AttributeValue :=
  if n.kind == "string" then do
    return .literal (Text.Entity.unescape (unquoted (← n.textIn bytes)))
  else if n.isExpression then do
    return .expression (← entry t.expressions n)
  else if n.isMarkup then do
    let source ← n.textIn bytes
    return .expression ⟨source, [← t.node n]⟩
  else do
    return .expression ⟨← n.textIn bytes, []⟩

def buildAttribute (bytes : Array UInt8) (t : Tables) (n : SourceNode) :
    Except ConversionFailure Attribute := do
  let (nameNode, value?) ← n.attributeParts
  let name ← nameNode.textIn bytes
  match value? with
  | none => return ⟨name, .bare⟩
  | some v => return ⟨name, ← buildValue bytes t v⟩

/-- What a named child of an element becomes; nodes of other kinds hold nothing to keep. -/
def buildChild (bytes : Array UInt8) (t : Tables) (n : SourceNode) :
    Except ConversionFailure (Option Node) :=
  if n.kind == "jsx_text" then do
    return some (.text (← n.textIn bytes))
  else if n.kind == "html_character_reference" then do
    return some (.text (Text.Entity.unescape (← n.textIn bytes)))
  else if n.isContainer then do
    return some (← t.node n)
  else
    return none

def buildChildren (bytes : Array UInt8) (t : Tables) (n : SourceNode) :
    Except ConversionFailure (List Node) :=
  if n.isSelfClosing then .ok []
  else do
    let children ← n.namedChildren.mapM (buildChild bytes t)
    return children.filterMap id

def namedTag? (n : SourceNode) : Option (SourceNode × SourceNode) :=
  n.tagNode?.bind fun tag => (tag.childInField? "name").map fun name => (tag, name)

/-- An element, or a fragment when the tag has no name. -/
def buildElement (bytes : Array UInt8) (t : Tables) (n : SourceNode) :
    Except ConversionFailure Node := do
  let children ← buildChildren bytes t n
  match namedTag? n with
  | none => return .fragment children
  | some (tag, name) =>
    let attributes ← (tag.namedChildren.filter (·.kind == "jsx_attribute")).mapM
      (entry t.attributes)
    let spreads ← (tag.namedChildren.filter SourceNode.isExpression).mapM (entry t.expressions)
    let position := Text.positionAt bytes n.start
    return .element
      { tag := ← name.textIn bytes
        attributes := attributes
        children := children
        line := some position.line
        column := some position.column
        spreads := spreads }

def build (bytes : Array UInt8) (t : Tables) (n : SourceNode) :
    Except ConversionFailure Tables :=
  if n.isExpression then do
    let e ← buildExpression bytes t n
    return { t with expressions := t.expressions.insert n.id e }
  else if n.kind == "jsx_attribute" then do
    let a ← buildAttribute bytes t n
    return { t with attributes := t.attributes.insert n.id a }
  else do
    let e ← buildElement bytes t n
    return { t with elements := t.elements.insert n.id e }

inductive Task where
  | schedule (n : SourceNode)
  | build (n : SourceNode)

def Task.weight : Task → Nat
  | .schedule n => 2 * n.weight
  | .build _ => 1

def weightOfTasks : List Task → Nat
  | [] => 0
  | task :: rest => task.weight + weightOfTasks rest

theorem weightOfTasks_append (first second : List Task) :
    weightOfTasks (first ++ second) = weightOfTasks first + weightOfTasks second := by
  induction first with
  | nil => simp [weightOfTasks]
  | cons task rest ih =>
    simp only [List.cons_append, weightOfTasks, ih]
    omega

theorem weightOfTasks_schedule (ns : List SourceNode) :
    weightOfTasks (ns.map .schedule) = 2 * SourceNode.weightOf ns := by
  induction ns with
  | nil => simp [weightOfTasks, SourceNode.weightOf]
  | cons n ns ih =>
    simp only [List.map_cons, weightOfTasks, Task.weight, SourceNode.weightOf, ih]
    omega

theorem weightOf_reverse (ns : List SourceNode) :
    SourceNode.weightOf ns.reverse = SourceNode.weightOf ns := by
  induction ns with
  | nil => rfl
  | cons n ns ih => simp [SourceNode.weightOf, ih]; omega

/-- Works off the stack. Of the dependencies of a node the last one is converted first. -/
def run (bytes : Array UInt8) (t : Tables) (stack : List Task) :
    Except ConversionFailure Tables :=
  match stack with
  | [] => .ok t
  | .build n :: stack =>
    match build bytes t n with
    | .error e => .error e
    | .ok t => run bytes t stack
  | .schedule n :: stack =>
    match h : n.dependencies with
    | .error e => .error e
    | .ok deps => run bytes t (deps.reverse.map .schedule ++ .build n :: stack)
termination_by weightOfTasks stack
decreasing_by
  · simp [weightOfTasks, Task.weight]
  · have h1 := weightOfTasks_schedule deps.reverse
    have h2 := SourceNode.weightOf_dependencies_le h
    have h3 := n.weight_eq
    rw [weightOf_reverse] at h1
    simp only [weightOfTasks_append, weightOfTasks, Task.weight, h1]
    omega

/-- The markup that the given nodes, each markup or an expression, stand for. -/
def convert (bytes : Array UInt8) (roots : List SourceNode) :
    Except ConversionFailure (List Node) := do
  let tables ← run bytes {} (roots.map .schedule)
  roots.mapM tables.node

end Conversion

end MarkupAudit
