import MarkupAudit.Markup.Walk

/-! The walk with a stack visits the elements that recursion on the tree lists, in the same order. -/
namespace MarkupAudit

theorem elementsOf_eq_flatMap (ns : List Node) : elementsOf ns = ns.flatMap Node.elements := by
  induction ns with
  | nil => rfl
  | cons n ns ih => rw [elementsOf, List.flatMap_cons, ih]

@[simp] theorem elementsOf_append (xs ys : List Node) :
    elementsOf (xs ++ ys) = elementsOf xs ++ elementsOf ys := by
  rw [elementsOf_eq_flatMap, elementsOf_eq_flatMap, elementsOf_eq_flatMap, List.flatMap_append]

theorem Expression.elements_eq (e : Expression) : e.elements = elementsOf e.children := by
  cases e
  rfl

theorem attributeElements_eq (attributes : List Attribute) :
    attributeElements attributes = elementsOf (attributes.flatMap (·.value.children)) := by
  induction attributes with
  | nil => rfl
  | cons a rest ih =>
    obtain ⟨name, value⟩ := a
    cases value with
    | bare => exact ih
    | literal s => exact ih
    | expression e =>
      rw [attributeElements, List.flatMap_cons, elementsOf_append, ih, e.elements_eq]
      rfl

theorem spreadElements_eq (spreads : List Expression) :
    spreadElements spreads = elementsOf (spreads.flatMap Expression.children) := by
  induction spreads with
  | nil => rfl
  | cons e rest ih =>
    rw [spreadElements, List.flatMap_cons, elementsOf_append, ih, e.elements_eq]

theorem Element.elements_eq (e : Element) : e.elements = e :: elementsOf e.nested := by
  cases e
  rw [Element.elements, attributeElements_eq, spreadElements_eq, Element.nested,
    elementsOf_append, elementsOf_append]

theorem visit_eq (found : Array Element) (stack : List Node) :
    (visit found stack).toList = found.toList ++ elementsOf stack := by
  fun_induction visit found stack with
  | case1 found => exact (List.append_nil _).symm
  | case2 found e stack ih =>
    rw [ih, elementsOf_append, elementsOf, Node.elements, e.elements_eq, Array.toList_push]
    simp
  | case3 found s stack ih => exact ih
  | case4 found e stack ih =>
    rw [ih, elementsOf_append, elementsOf, Node.elements, e.elements_eq]
  | case5 found children stack ih =>
    rw [ih, elementsOf_append, elementsOf, Node.elements]

theorem Root.elements_eq (r : Root) : r.elements = elementsOf r.nodes := by
  rw [Root.elements, visit_eq]
  rfl

end MarkupAudit
