/-! Concrete trees of source files: every node spans a range of bytes and may sit in a named field of
its parent. -/
namespace MarkupAudit

structure SourceNode where
  id : Nat
  kind : String
  start : Nat
  stop : Nat
  named : Bool := true
  field : Option String := none
  missing : Bool := false
  hasError : Bool := false
  children : List SourceNode := []
  deriving Repr

namespace SourceNode

def isError (n : SourceNode) : Bool :=
  n.kind == "ERROR"

/-- Whether the node itself marks a fault: input that does not fit, or input that is not there. -/
def isFault (n : SourceNode) : Bool :=
  n.isError || n.missing

def namedChildren (n : SourceNode) : List SourceNode :=
  n.children.filter SourceNode.named

def childInField? (n : SourceNode) (field : String) : Option SourceNode :=
  n.children.find? fun c => c.field == some field

/-- Elements, and fragments of grammars that have a node of their own for them. -/
def isMarkup (n : SourceNode) : Bool :=
  n.kind == "jsx_element" || n.kind == "jsx_self_closing_element" || n.kind == "jsx_fragment"

def isExpression (n : SourceNode) : Bool :=
  n.kind == "jsx_expression"

/-- Whether the node may hold markup that belongs to the tree around it. -/
def isContainer (n : SourceNode) : Bool :=
  n.isMarkup || n.isExpression

/-- Attributes proper and, on a tag, the expressions that are spreads. -/
def isAttributeLike (n : SourceNode) : Bool :=
  n.kind == "jsx_attribute" || n.isExpression

mutual

/-- More than twice the weight of all that is below, so that a node outweighs any two disjoint
selections of its descendants. -/
def weight : SourceNode → Nat
  | ⟨_, _, _, _, _, _, _, _, children⟩ => 1 + 2 * weightOf children

def weightOf : List SourceNode → Nat
  | [] => 0
  | n :: rest => n.weight + weightOf rest

end

theorem weight_eq (n : SourceNode) : n.weight = 1 + 2 * weightOf n.children := by
  cases n; simp [weight]

theorem weight_pos (n : SourceNode) : 0 < n.weight := by
  rw [weight_eq]; omega

@[simp] theorem weightOf_append (xs ys : List SourceNode) :
    weightOf (xs ++ ys) = weightOf xs + weightOf ys := by
  induction xs with
  | nil => simp [weightOf]
  | cons x xs ih => simp [weightOf, ih]; omega

theorem weightOf_filter_le (p : SourceNode → Bool) (xs : List SourceNode) :
    weightOf (xs.filter p) ≤ weightOf xs := by
  induction xs with
  | nil => simp
  | cons x xs ih =>
    by_cases h : p x <;> simp [h, weightOf] <;> omega

theorem weight_le_weightOf {n : SourceNode} {xs : List SourceNode} (h : n ∈ xs) :
    n.weight ≤ weightOf xs := by
  induction xs with
  | nil => simp at h
  | cons x xs ih =>
    rcases List.mem_cons.1 h with rfl | h
    · simp [weightOf]
    · have := ih h
      simp [weightOf]; omega

end SourceNode

end MarkupAudit
