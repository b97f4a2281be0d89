import MarkupAudit.Markup.Element

/-! Every element of a tree in document order: an element comes before the elements of its attribute
values, then those of its spread attributes, then those of its children. The loop keeps the trees
still to be visited on a stack, so nesting depth is no limit. -/
namespace MarkupAudit

def Element.nested (e : Element) : List Node :=
  e.attributes.flatMap (·.value.children) ++ (e.spreads.flatMap Expression.children ++ e.children)

def Root.nodes : Root → List Node
  | .document d => d.children
  | .node (.element e) => [.element e]
  | .node n => n.children

theorem sizeOf_append_lt {α : Type} [SizeOf α] {xs : List α} (ys : List α) {n : Nat}
    (h : sizeOf xs < n) : sizeOf (xs ++ ys) < n + sizeOf ys := by
  induction xs generalizing n with
  | nil => simp at h ⊢; omega
  | cons x xs ih =>
    simp only [List.cons_append, List.cons.sizeOf_spec] at h ⊢
    have := @ih (n - 1 - sizeOf x) (by omega)
    omega

theorem sizeOf_flatMap_le {α β : Type} [SizeOf α] [SizeOf β] (f : α → List β) (xs : List α)
    (h : ∀ x ∈ xs, sizeOf (f x) ≤ sizeOf x) : sizeOf (xs.flatMap f) ≤ sizeOf xs := by
  induction xs with
  | nil => simp
  | cons x xs ih =>
    have hx := h x (by simp)
    have ih := ih fun y hy => h y (by simp [hy])
    have : sizeOf (f x ++ xs.flatMap f) < sizeOf x + 1 + sizeOf (xs.flatMap f) :=
      sizeOf_append_lt _ (by omega)
    simp only [List.flatMap_cons, List.cons.sizeOf_spec]
    omega

theorem sizeOf_attribute_children_le (a : Attribute) : sizeOf a.value.children ≤ sizeOf a := by
  obtain ⟨name, _ | _ | ⟨source, children⟩⟩ := a <;> simp [AttributeValue.children] <;> omega

theorem sizeOf_expression_children_lt (e : Expression) : sizeOf e.children < sizeOf e := by
  obtain ⟨source, children⟩ := e
  have hparts := Expression.mk.sizeOf_spec source children
  change sizeOf children < _
  omega

theorem sizeOf_nested_lt (e : Element) : sizeOf e.nested < sizeOf e := by
  obtain ⟨tag, attributes, children, line, column, spreads⟩ := e
  have ha := sizeOf_flatMap_le _ attributes fun a _ => sizeOf_attribute_children_le a
  have hs := sizeOf_flatMap_le _ spreads fun e _ => Nat.le_of_lt (sizeOf_expression_children_lt e)
  have h1 : sizeOf (spreads.flatMap Expression.children ++ children) <
      sizeOf spreads + 1 + sizeOf children := sizeOf_append_lt _ (by omega)
  have h2 : sizeOf (attributes.flatMap (·.value.children) ++
      (spreads.flatMap Expression.children ++ children)) <
      sizeOf attributes + 1 + sizeOf (spreads.flatMap Expression.children ++ children) :=
    sizeOf_append_lt _ (by omega)
  simp only [Element.nested, Element.mk.sizeOf_spec]
  omega

/-- Visits the trees on the stack, first to last, after the elements found so far. -/
def visit (found : Array Element) : List Node → Array Element
  | [] => found
  | .element e :: stack => visit (found.push e) (e.nested ++ stack)
  | .text _ :: stack => visit found stack
  | .expression e :: stack => visit found (e.children ++ stack)
  | .fragment children :: stack => visit found (children ++ stack)
termination_by stack => sizeOf stack
decreasing_by
  · have := sizeOf_append_lt stack (sizeOf_nested_lt e)
    rw [List.cons.sizeOf_spec, Node.element.sizeOf_spec]
    omega
  · rw [List.cons.sizeOf_spec]
    omega
  · have := sizeOf_append_lt stack (sizeOf_expression_children_lt e)
    rw [List.cons.sizeOf_spec, Node.expression.sizeOf_spec]
    omega
  · have := sizeOf_append_lt stack (Nat.lt_succ_self (sizeOf children))
    rw [List.cons.sizeOf_spec, Node.fragment.sizeOf_spec]
    omega

def Root.elements (r : Root) : List Element :=
  (visit #[] r.nodes).toList

mutual

/-- The elements of a tree by recursion on it. -/
def Node.elements : Node → List Element
  | .element e => e.elements
  | .text _ => []
  | .expression e => e.elements
  | .fragment children => elementsOf children

def Element.elements : Element → List Element
  | ⟨tag, attributes, children, line, column, spreads⟩ =>
    ⟨tag, attributes, children, line, column, spreads⟩ ::
      (attributeElements attributes ++ (spreadElements spreads ++ elementsOf children))

def Expression.elements : Expression → List Element
  | ⟨_, children⟩ => elementsOf children

def attributeElements : List Attribute → List Element
  | [] => []
  | ⟨_, .expression e⟩ :: rest => e.elements ++ attributeElements rest
  | ⟨_, .bare⟩ :: rest => attributeElements rest
  | ⟨_, .literal _⟩ :: rest => attributeElements rest

def spreadElements : List Expression → List Element
  | [] => []
  | e :: rest => e.elements ++ spreadElements rest

def elementsOf : List Node → List Element
  | [] => []
  | n :: rest => n.elements ++ elementsOf rest

end

end MarkupAudit
