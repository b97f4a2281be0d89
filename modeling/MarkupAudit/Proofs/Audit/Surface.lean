import Mathlib.Data.List.Forall2
import Mathlib.Logic.Relation
import MarkupAudit.Proofs.Audit.Queries

/-! What the built-in rules see of an element: its tag, the names of its attributes with the values
that are literal, its own text, and which tags its child elements have. Two elements that agree in
these get the same findings, up to their locations, whatever else is written in them. -/
namespace MarkupAudit

def Attribute.surface (a : Attribute) : String × Option String :=
  (a.name, a.literal?)

/-- Whether two elements look the same to the rules. -/
structure Element.SameSurface (e f : Element) : Prop where
  tag : e.tag = f.tag
  attributes : e.attributes.map Attribute.surface = f.attributes.map Attribute.surface
  ownText : String.join (e.children.filterMap Node.text?) =
    String.join (f.children.filterMap Node.text?)
  childTags : ∀ tag, tag ∈ e.childElements.map Element.tag ↔ tag ∈ f.childElements.map Element.tag

theorem Element.hasAttribute_eq_any_surface (e : Element) (names : List String) :
    e.hasAttribute names = (e.attributes.map Attribute.surface).any fun p => names.contains p.1 := by
  rw [List.any_map]
  rfl

theorem Element.literal?_eq_find_surface (e : Element) (name : String) :
    e.literal? name = ((e.attributes.map Attribute.surface).find? (·.1 == name)).bind Prod.snd := by
  have hname : (fun p : String × Option String => p.1 == name) ∘ Attribute.surface = (·.name == name) := rfl
  rw [List.find?_map, Option.bind_map, hname]
  rfl

namespace Element.SameSurface
variable {e f : Element}

theorem refl (e : Element) : e.SameSurface e :=
  ⟨rfl, rfl, rfl, fun _ => Iff.rfl⟩

theorem symm (h : e.SameSurface f) : f.SameSurface e :=
  ⟨h.tag.symm, h.attributes.symm, h.ownText.symm, fun tag => (h.childTags tag).symm⟩

theorem trans {g : Element} (h : e.SameSurface f) (h' : f.SameSurface g) : e.SameSurface g :=
  ⟨h.tag.trans h'.tag, h.attributes.trans h'.attributes, h.ownText.trans h'.ownText,
    fun tag => (h.childTags tag).trans (h'.childTags tag)⟩

/-! The queries of the rules. -/

theorem hasAttribute (h : e.SameSurface f) (names : List String) :
    e.hasAttribute names = f.hasAttribute names := by
  rw [Element.hasAttribute_eq_any_surface, h.attributes, Element.hasAttribute_eq_any_surface]

theorem literal? (h : e.SameSurface f) (name : String) : e.literal? name = f.literal? name := by
  rw [Element.literal?_eq_find_surface, h.attributes, Element.literal?_eq_find_surface]

theorem text (h : e.SameSurface f) : e.text = f.text :=
  congrArg Text.trim h.ownText

theorem hasChildTag (h : e.SameSurface f) (tags : List String) :
    e.hasChildTag tags = f.hasChildTag tags := by
  have htag : ∀ g : Element, g.hasChildTag tags = true ↔
      ∃ tag ∈ g.childElements.map Element.tag, tag ∈ tags := by
    simp [Element.hasChildTag]
  rw [Bool.eq_iff_iff, htag, htag]
  simp only [h.childTags]

theorem sameAnswers (h : e.SameSurface f) : e.SameAnswers f :=
  ⟨h.tag, h.hasAttribute, h.literal? "type", h.text, h.hasChildTag⟩

theorem forall₂_attributes (h : e.SameSurface f) :
    List.Forall₂ (fun a b => a.surface = b.surface) e.attributes f.attributes := by
  have heq := h.attributes
  rwa [← List.forall₂_eq_eq_eq, List.forall₂_map_left_iff, List.forall₂_map_right_iff] at heq

theorem ariaAttributes (h : e.SameSurface f) :
    List.Forall₂ (fun a b => a.surface = b.surface) e.ariaAttributes f.ariaAttributes := by
  refine List.rel_filter ?_ h.forall₂_attributes
  intro a b hab
  have hname : a.name = b.name := (Prod.mk.inj hab).1
  simp only [Attribute.isAria, hname]

end Element.SameSurface

namespace Catalog

theorem ariaFinding_eq {aria others : List Attribute} {a b : Attribute}
    (haria : List.Forall₂ (fun a b => a.surface = b.surface) aria others)
    (h : a.surface = b.surface) : ariaFinding aria a = ariaFinding others b := by
  obtain ⟨hname, hliteral⟩ := Prod.mk.inj h
  have hany : aria.any (fun other => other.name != "aria-hidden") =
      others.any (fun other => other.name != "aria-hidden") := by
    induction haria with
    | nil => rfl
    | cons hab _ ih => rw [List.any_cons, List.any_cons, ih, (Prod.mk.inj hab).1]
  unfold ariaFinding
  rw [hname, hliteral, hany]

theorem findSome?_ariaFinding_eq {aria others : List Attribute}
    (haria : List.Forall₂ (fun a b => a.surface = b.surface) aria others) :
    aria.findSome? (ariaFinding aria) = others.findSome? (ariaFinding others) := by
  -- the attributes searched become fewer, those looked at beside them stay the same
  suffices hsome : ∀ as bs, List.Forall₂ (fun a b => a.surface = b.surface) as bs →
      as.findSome? (ariaFinding aria) = bs.findSome? (ariaFinding others) from
    hsome _ _ haria
  intro as bs hasbs
  induction hasbs with
  | nil => rfl
  | cons hab _ ih => rw [List.findSome?_cons, List.findSome?_cons, ariaFinding_eq haria hab, ih]

def SeesSurface (detect : Element → Option Finding) : Prop :=
  ∀ ⦃e f : Element⦄, e.SameSurface f → detect e = detect f

theorem seesSurface_detectAriaValidation : SeesSurface detectAriaValidation := by
  intro e f h
  unfold detectAriaValidation
  simp only [h.tag, h.hasAttribute, findSome?_ariaFinding_eq h.ariaAttributes]

theorem SeesAnswers.seesSurface {detect : Element → Option Finding} (h : SeesAnswers detect) :
    SeesSurface detect :=
  fun _ _ hsurface => h hsurface.sameAnswers

theorem exists_detect_of_mem_rules : ∀ r ∈ rules, ∃ detect, SeesSurface detect ∧
    r.detect = fun ctx => .ok (detect ctx.element) := by
  intro r hr
  rcases exists_seesAnswers_of_mem_rules r hr with rfl | ⟨detect, hdetect, heq⟩
  · exact ⟨_, seesSurface_detectAriaValidation, rfl⟩
  · exact ⟨detect, hdetect.seesSurface, heq⟩

end Catalog

/-- The names and literal values stay; whatever else an attribute holds may change. -/
inductive AttributesVary : List Attribute → List Attribute → Prop
  | value (before : List Attribute) (name : String) (v v' : AttributeValue)
    (after : List Attribute) (bare : v.literal? = none) (bare' : v'.literal? = none) :
    AttributesVary (before ++ ⟨name, v⟩ :: after) (before ++ ⟨name, v'⟩ :: after)

/-- One change of the children of an element that the rules do not see. -/
inductive ChildrenVary : List Node → List Node → Prop
  /-- Another inside of a child element. -/
  | child (before : List Node) (c c' : Element) (after : List Node) (tag : c.tag = c'.tag) :
    ChildrenVary (before ++ .element c :: after) (before ++ .element c' :: after)
  /-- An expression, a fragment or an empty text that comes or goes. -/
  | silent (before : List Node) (n : Node) (after : List Node) (element : n.element? = none)
    (text : n.text?.getD "" = "") : ChildrenVary (before ++ n :: after) (before ++ after)
  | split (before : List Node) (s t : String) (after : List Node) :
    ChildrenVary (before ++ .text (s ++ t) :: after) (before ++ .text s :: .text t :: after)
  /-- Neighbours that change places, unless both are texts. -/
  | swap (before : List Node) (n m : Node) (after : List Node)
    (notBoth : n.text? = none ∨ m.text? = none) :
    ChildrenVary (before ++ n :: m :: after) (before ++ m :: n :: after)
  /-- One more child element with the tag of another. -/
  | again (before : List Node) (c : Element) (after : List Node)
    (known : c.tag ∈ ((before ++ after).filterMap Node.element?).map Element.tag) :
    ChildrenVary (before ++ .element c :: after) (before ++ after)

inductive Element.Vary : Element → Element → Prop
  | place (e : Element) (line column : Option Int) :
    Vary e { e with line := line, column := column }
  | spreads (e : Element) (spreads : List Expression) : Vary e { e with spreads := spreads }
  | attributes (e : Element) {as bs : List Attribute} (h : AttributesVary as bs) :
    Vary { e with attributes := as } { e with attributes := bs }
  | children (e : Element) {ns ms : List Node} (h : ChildrenVary ns ms) :
    Vary { e with children := ns } { e with children := ms }

@[simp] theorem Node.text?_text (s : String) : (Node.text s).text? = some s := rfl
@[simp] theorem Node.text?_element (e : Element) : (Node.element e).text? = none := rfl
@[simp] theorem Node.element?_text (s : String) : (Node.text s).element? = none := rfl
@[simp] theorem Node.element?_element (e : Element) : (Node.element e).element? = some e := rfl

theorem AttributesVary.surface {as bs : List Attribute} (h : AttributesVary as bs) :
    as.map Attribute.surface = bs.map Attribute.surface := by
  cases h with
  | value before name v v' after bare bare' =>
    have hv : Attribute.surface ⟨name, v⟩ = Attribute.surface ⟨name, v'⟩ :=
      Prod.ext rfl (bare.trans bare'.symm)
    simp only [List.map_append, List.map_cons, hv]

theorem ChildrenVary.ownText {ns ms : List Node} (h : ChildrenVary ns ms) :
    String.join (ns.filterMap Node.text?) = String.join (ms.filterMap Node.text?) := by
  cases h with
  | child before c c' after tag => simp [List.filterMap_cons]
  | silent before n after element text =>
    cases htext : n.text? with
    | none => simp [htext]
    | some s => simp_all
  | split before s t after => simp [String.append_assoc]
  | swap before n m after notBoth =>
    rcases notBoth with h | h <;> simp [h, List.filterMap_cons]
  | again before c after known => simp [List.filterMap_cons]

theorem ChildrenVary.childTags {ns ms : List Node} (h : ChildrenVary ns ms) (tag : String) :
    tag ∈ (ns.filterMap Node.element?).map Element.tag ↔
      tag ∈ (ms.filterMap Node.element?).map Element.tag := by
  cases h with
  | child before c c' after same => simp [same]
  | silent before n after element text => simp [element]
  | split before s t after => simp
  | swap before n m after notBoth =>
    simp only [List.filterMap_append, List.filterMap_cons, List.map_append, List.mem_append]
    cases n.element? <;> cases m.element? <;> simp [or_left_comm]
  | again before c after known =>
    have hmore : tag ∈ ((before ++ .element c :: after).filterMap Node.element?).map Element.tag ↔
        tag = c.tag ∨ tag ∈ ((before ++ after).filterMap Node.element?).map Element.tag := by
      simp only [List.filterMap_append, List.map_append, List.mem_append,
        List.filterMap_cons_some (Node.element?_element c), List.map_cons, List.mem_cons]
      exact or_left_comm
    rw [hmore, or_iff_right_of_imp]
    rintro rfl
    exact known

theorem Element.Vary.sameSurface {e f : Element} (h : Vary e f) : e.SameSurface f := by
  cases h with
  | place e line column => exact ⟨rfl, rfl, rfl, fun _ => Iff.rfl⟩
  | spreads e spreads => exact ⟨rfl, rfl, rfl, fun _ => Iff.rfl⟩
  | attributes e h => exact ⟨rfl, h.surface, rfl, fun _ => Iff.rfl⟩
  | children e h => exact ⟨rfl, rfl, h.ownText, h.childTags⟩

section
open Relation

theorem eqvGen_map {r : α → α → Prop} {r' : β → β → Prop} (f : α → β)
    (hf : ∀ a b, r a b → r' (f a) (f b)) {a b : α} (h : EqvGen r a b) : EqvGen r' (f a) (f b) := by
  induction h with
  | rel a b h => exact .rel _ _ (hf a b h)
  | refl a => exact .refl _
  | symm a b _ ih => exact .symm _ _ ih
  | trans a b c _ _ ih ih' => exact .trans _ _ _ ih ih'

theorem AttributesVary.cons {as bs : List Attribute} (a : Attribute)
    (h : EqvGen AttributesVary as bs) : EqvGen AttributesVary (a :: as) (a :: bs) := by
  refine eqvGen_map (a :: ·) ?_ h
  rintro _ _ ⟨before, name, v, v', after, bare, bare'⟩
  exact .value (a :: before) name v v' after bare bare'

theorem ChildrenVary.cons {ns ms : List Node} (n : Node) (h : EqvGen ChildrenVary ns ms) :
    EqvGen ChildrenVary (n :: ns) (n :: ms) := by
  refine eqvGen_map (n :: ·) ?_ h
  intro ns ms h
  cases h with
  | child before c c' after tag => exact .child (n :: before) c c' after tag
  | silent before m after element text => exact .silent (n :: before) m after element text
  | split before s t after => exact .split (n :: before) s t after
  | swap before m m' after notBoth => exact .swap (n :: before) m m' after notBoth
  | again before c after known =>
    refine .again (n :: before) c after ?_
    rw [List.cons_append, List.filterMap_cons]
    cases n.element? with
    | none => exact known
    | some c' => exact List.mem_cons_of_mem _ known

theorem AttributesVary.of_surface {as bs : List Attribute}
    (h : List.Forall₂ (fun a b => a.surface = b.surface) as bs) : EqvGen AttributesVary as bs := by
  induction h with
  | nil => exact .refl _
  | @cons a b as bs hab _ ih =>
    refine .trans _ _ _ ?_ (cons b ih)
    obtain ⟨name, v⟩ := a
    obtain ⟨name', v'⟩ := b
    obtain ⟨rfl, hv⟩ := Prod.mk.inj hab
    cases v with
    | literal s =>
      cases v' with
      | literal s' =>
        cases hv
        exact .refl _
      | bare => cases hv
      | expression x => cases hv
    | bare => exact .rel _ _ (.value [] name _ v' as rfl hv.symm)
    | expression x => exact .rel _ _ (.value [] name _ v' as rfl hv.symm)

theorem ChildrenVary.gather (ns : List Node) :
    EqvGen ChildrenVary ns (.text (String.join (ns.filterMap Node.text?)) ::
      (ns.filterMap Node.element?).map .element) := by
  induction ns with
  | nil => exact .symm _ _ (.rel _ _ (.silent [] (.text "") [] rfl rfl))
  | cons n ns ih =>
    refine .trans _ _ _ (cons n ih) ?_
    cases n with
    | text s => simpa using EqvGen.symm _ _ (.rel _ _ (.split [] s _ _))
    | element c => exact .rel _ _ (.swap [] _ _ _ (.inl rfl))
    | expression x => exact .rel _ _ (.silent [] _ _ rfl rfl)
    | fragment ms => exact .rel _ _ (.silent [] _ _ rfl rfl)

theorem ChildrenVary.drop_before (cs : List Element) {ns : List Node}
    (h : ∀ c ∈ cs, c.tag ∈ (ns.filterMap Node.element?).map Element.tag) :
    EqvGen ChildrenVary (cs.map .element ++ ns) ns := by
  -- Each of the children has a tag that occurs further on, and so adds nothing.
  induction cs with
  | nil => exact .refl _
  | cons c cs ih =>
    have hknown : c.tag ∈
        ((cs.map Node.element ++ ns).filterMap Node.element?).map Element.tag := by
      rw [List.filterMap_append, List.map_append]
      exact List.mem_append_right _ (h c List.mem_cons_self)
    exact .trans _ _ _ (.rel _ _ (.again [] c _ hknown))
      (ih fun d hd => h d (List.mem_cons_of_mem _ hd))

theorem ChildrenVary.drop_after (cs : List Element) {ns : List Node}
    (h : ∀ c ∈ cs, c.tag ∈ (ns.filterMap Node.element?).map Element.tag) :
    EqvGen ChildrenVary (ns ++ cs.map .element) ns := by
  induction cs with
  | nil =>
    rw [List.map_nil, List.append_nil]
    exact .refl _
  | cons c cs ih =>
    have hknown : c.tag ∈
        ((ns ++ cs.map Node.element).filterMap Node.element?).map Element.tag := by
      rw [List.filterMap_append, List.map_append]
      exact List.mem_append_left _ (h c List.mem_cons_self)
    exact .trans _ _ _ (.rel _ _ (.again ns c _ hknown))
      (ih fun d hd => h d (List.mem_cons_of_mem _ hd))

theorem filterMap_map_element (cs : List Element) :
    (cs.map Node.element).filterMap Node.element? = cs := by
  have hsome : Node.element? ∘ Node.element = some := rfl
  rw [List.filterMap_map, hsome, List.filterMap_some]

theorem ChildrenVary.of_childTags {cs ds : List Element}
    (h : ∀ tag, tag ∈ cs.map Element.tag ↔ tag ∈ ds.map Element.tag) :
    EqvGen ChildrenVary (cs.map .element) (ds.map .element) := by
  -- by way of both lists together
  refine .trans _ (cs.map .element ++ ds.map .element) _ (.symm _ _ (drop_after ds ?_))
    (drop_before cs ?_)
  · intro d hd
    rw [filterMap_map_element, h]
    exact List.mem_map_of_mem hd
  · intro c hc
    rw [filterMap_map_element, ← h]
    exact List.mem_map_of_mem hc

/-- Two elements have the same surface exactly when changes below it lead from one to the other. -/
theorem Element.sameSurface_iff_eqvGen {e f : Element} :
    e.SameSurface f ↔ EqvGen Vary e f := by
  constructor
  · intro h
    have hattributes := AttributesVary.of_surface h.forall₂_attributes
    have hchildren : EqvGen ChildrenVary e.children f.children := by
      refine .trans _ _ _ (ChildrenVary.gather e.children)
        (.trans _ _ _ ?_ (.symm _ _ (ChildrenVary.gather f.children)))
      rw [h.ownText]
      exact ChildrenVary.cons _ (ChildrenVary.of_childTags h.childTags)
    have htag := h.tag
    obtain ⟨tag, as, ns, line, column, spreads⟩ := e
    obtain ⟨tag', bs, ms, line', column', spreads'⟩ := f
    dsimp only at htag
    subst htag
    have hvalues : EqvGen Vary ⟨tag, as, ns, line, column, spreads⟩
        ⟨tag, bs, ns, line, column, spreads⟩ :=
      eqvGen_map (fun cs => (⟨tag, cs, ns, line, column, spreads⟩ : Element))
        (fun _ _ => Vary.attributes ⟨tag, as, ns, line, column, spreads⟩) hattributes
    have hinner : EqvGen Vary ⟨tag, bs, ns, line, column, spreads⟩
        ⟨tag, bs, ms, line, column, spreads⟩ :=
      eqvGen_map (fun cs => (⟨tag, bs, cs, line, column, spreads⟩ : Element))
        (fun _ _ => Vary.children ⟨tag, bs, ns, line, column, spreads⟩) hchildren
    have houter := EqvGen.trans _ _ _
      (.rel _ _ (Vary.place ⟨tag, bs, ms, line, column, spreads⟩ line' column'))
      (.rel _ _ (Vary.spreads ⟨tag, bs, ms, line', column', spreads⟩ spreads'))
    exact .trans _ _ _ hvalues (.trans _ _ _ hinner houter)
  · intro h
    induction h with
    | rel e f h => exact h.sameSurface
    | refl e => exact .refl e
    | symm e f _ ih => exact ih.symm
    | trans e f g _ _ ih ih' => exact ih.trans ih'

end

/-- Whether two violations agree in all but the location. -/
def Violation.Alike (v w : Violation) : Prop :=
  { v with location := "" } = { w with location := "" }

/-- Two elements look the same to the rules exactly when changes below the surface lead from one to
the other. Of two such elements, be it in different sources, every built-in rule reports the same. -/
theorem Catalog.check_alike {e f : Element} :
    (e.SameSurface f ↔ Relation.EqvGen Element.Vary e f) ∧
    ∀ r ∈ rules, e.SameSurface f → ∀ source source', ∃ found found',
      r.check ⟨e, source⟩ = .ok found ∧ r.check ⟨f, source'⟩ = .ok found' ∧
        Option.Rel Violation.Alike found found' := by
  refine ⟨Element.sameSurface_iff_eqvGen, ?_⟩
  intro r hr h source source'
  obtain ⟨detect, hdetect, heq⟩ := exists_detect_of_mem_rules r hr
  refine ⟨(detect e).map (r.violation e), (detect f).map (r.violation f), ?_, ?_, ?_⟩
  · rw [Rule.check, heq]
    rfl
  · rw [Rule.check, heq]
    rfl
  · rw [hdetect h]
    cases detect f with
    | none => exact .none
    | some finding => exact .some rfl

def shortButton : Element :=
  ⟨"button", [⟨"onClick", .bare⟩, ⟨"aria-label", .literal " "⟩],
    [.element ⟨"b", [], [], none, none, []⟩, .text "Go on"], some 3, some 1, []⟩

def longButton : Element :=
  ⟨"button", [⟨"onClick", .expression ⟨"go", [.text "x"]⟩⟩, ⟨"aria-label", .literal " "⟩],
    [.text "Go", .element ⟨"b", [], [.text "!"], none, none, []⟩, .text " on",
      .expression ⟨"y", []⟩, .element ⟨"b", [], [], none, none, []⟩], some 7, none,
    [⟨"...rest", []⟩]⟩

theorem Catalog.check_alike_button :
    shortButton.SameSurface longButton ∧ ariaValidation ∈ rules ∧
    ∃ v w, ariaValidation.check ⟨shortButton, ""⟩ = .ok (some v) ∧
      ariaValidation.check ⟨longButton, "x"⟩ = .ok (some w) ∧ v.Alike w ∧
      v.location = "3:1" ∧ w.location = "7" := by
  have hsurface : shortButton.SameSurface longButton := by
    refine ⟨rfl, rfl, by decide +kernel, ?_⟩
    intro tag
    change tag ∈ ["b"] ↔ tag ∈ ["b", "b"]
    simp
  have hrule : ariaValidation ∈ rules := by simp [rules]
  refine ⟨hsurface, hrule, ?_⟩
  obtain ⟨found, found', hfound, hfound', halike⟩ :=
    check_alike.2 ariaValidation hrule hsurface "" "x"
  have hshort : ariaValidation.check ⟨shortButton, ""⟩ = .ok (some
      ⟨"aria-validation", "accessibility", "error", "aria-label should not be empty", "3:1"⟩) := by
    decide +kernel
  have hlong : ariaValidation.check ⟨longButton, "x"⟩ = .ok (some
      ⟨"aria-validation", "accessibility", "error", "aria-label should not be empty", "7"⟩) := by
    decide +kernel
  rw [hshort] at hfound
  rw [hlong] at hfound'
  cases hfound
  cases hfound'
  cases halike with
  | some halike => exact ⟨_, _, hshort, hlong, halike, rfl, rfl⟩

end MarkupAudit
