import MarkupAudit.Source.Tree

/-! Two searches of a source tree, in source order: for the outermost markup below a node, and for
the first fault. Both keep the nodes still to be visited on a stack. -/
namespace MarkupAudit.SourceNode

/-- Adds to `found` the outermost markup of the trees on the stack. -/
def collectMarkup (found : Array SourceNode) : List SourceNode → Array SourceNode
  | [] => found
  | n :: stack =>
    if n.isMarkup then collectMarkup (found.push n) stack
    else collectMarkup found (n.children ++ stack)
termination_by stack => weightOf stack
decreasing_by
  · have := n.weight_pos
    simp [weightOf]; omega
  · have := n.weight_eq
    simp [weightOf]; omega

/-- The markup below a node that is below no other markup there. -/
def outermostMarkup (n : SourceNode) : List SourceNode :=
  (collectMarkup #[] n.children).toList

/-- Searches the trees on the stack, and below a node only when it is marked as holding a fault. -/
def searchFault : List SourceNode → Option SourceNode
  | [] => none
  | n :: stack =>
    if n.isFault then some n
    else if n.hasError then searchFault (n.children ++ stack)
    else searchFault stack
termination_by stack => weightOf stack
decreasing_by
  · have := n.weight_eq
    simp [weightOf]; omega
  · have := n.weight_pos
    simp [weightOf]; omega

def firstFault (n : SourceNode) : Option SourceNode :=
  searchFault [n]

theorem weightOf_collectMarkup (found : Array SourceNode) (stack : List SourceNode) :
    weightOf (collectMarkup found stack).toList ≤ weightOf found.toList + weightOf stack := by
  fun_induction collectMarkup found stack with
  | case1 => simp
  | case2 found n stack h ih => simp [weightOf] at ih ⊢; omega
  | case3 found n stack h ih =>
    have := n.weight_eq
    simp [weightOf] at ih ⊢; omega

theorem weightOf_outermostMarkup (n : SourceNode) :
    weightOf n.outermostMarkup ≤ weightOf n.children := by
  simpa [outermostMarkup, weightOf] using weightOf_collectMarkup #[] n.children

end MarkupAudit.SourceNode
