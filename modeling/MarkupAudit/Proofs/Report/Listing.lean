import MarkupAudit.Proofs.Audit.Wording
import MarkupAudit.Proofs.Report.Terminal

/-! The order of a listing. A stable sort by weight puts the errors first, then the warnings, and
then whatever is left, each as it was found; by rules of the catalog only reminders are left. -/
namespace MarkupAudit

section
variable {α : Type} {weight : α → Nat} {l : List α}

theorem eq_filter_append_filter (h : l.Pairwise fun a b => weight b ≤ weight a) (least : Nat) :
    l = l.filter (fun a => least ≤ weight a) ++ l.filter (fun a => weight a < least) := by
  induction l with
  | nil => rfl
  | cons a l ih =>
    obtain ⟨hfirst, hrest⟩ := List.pairwise_cons.1 h
    by_cases ha : least ≤ weight a
    · rw [List.filter_cons_of_pos (by simpa using ha), List.filter_cons_of_neg (by simpa using ha),
        List.cons_append, ← ih hrest]
    · have hlight : ∀ b ∈ a :: l, weight b < least := by
        rw [List.forall_mem_cons]
        exact ⟨Nat.lt_of_not_le ha, fun b hb => (hfirst b hb).trans_lt (Nat.lt_of_not_le ha)⟩
      rw [List.filter_eq_nil_iff.2 fun b hb => by simpa using hlight b hb,
        List.filter_eq_self.2 fun b hb => by simpa using hlight b hb, List.nil_append]

theorem eq_flatMap_filter (h : l.Pairwise fun a b => weight b ≤ weight a) {limit : Nat}
    (hlimit : ∀ a ∈ l, weight a < limit) :
    l = (List.range limit).reverse.flatMap fun w => l.filter fun a => weight a = w := by
  induction limit generalizing l with
  | zero =>
    rw [List.eq_nil_iff_forall_not_mem.2 fun a ha => Nat.not_lt_zero _ (hlimit a ha)]
    rfl
  | succ limit ih =>
    have heaviest :
        l.filter (fun a => limit ≤ weight a) = l.filter (fun a => weight a = limit) := by
      refine List.filter_congr fun a ha => ?_
      have := hlimit a ha
      rw [decide_eq_decide]
      omega
    have hlighter (w : Nat) (hw : w ∈ (List.range limit).reverse) :
        (l.filter fun a => weight a < limit).filter (fun a => weight a = w) =
          l.filter fun a => weight a = w := by
      rw [List.mem_reverse, List.mem_range] at hw
      rw [List.filter_filter]
      refine List.filter_congr fun a _ => ?_
      rw [← Bool.decide_and, decide_eq_decide]
      omega
    calc l = l.filter (fun a => limit ≤ weight a) ++ l.filter (fun a => weight a < limit) :=
          eq_filter_append_filter h limit
      _ = l.filter (fun a => weight a = limit) ++
            (List.range limit).reverse.flatMap fun w => l.filter fun a => weight a = w := by
          rw [heaviest]
          refine congrArg (_ ++ ·) ((ih (h.filter _) fun a ha => ?_).trans ?_)
          · exact of_decide_eq_true (List.mem_filter.1 ha).2
          · exact List.flatMap_congr hlighter
      _ = (List.range (limit + 1)).reverse.flatMap fun w => l.filter fun a => weight a = w := by
          rw [List.range_succ, List.reverse_concat, List.flatMap_cons]

/-- A stable sort, the heaviest first, keeps the order among those of one weight. -/
theorem mergeSort_eq_flatMap_filter {limit : Nat} (hlimit : ∀ a ∈ l, weight a < limit) :
    l.mergeSort (fun a b => weight b ≤ weight a) =
      (List.range limit).reverse.flatMap fun w => l.filter fun a => weight a = w := by
  have trans (a b c : α) : decide (weight b ≤ weight a) → decide (weight c ≤ weight b) →
      decide (weight c ≤ weight a) := by
    simp only [decide_eq_true_eq]
    omega
  have total (a b : α) : decide (weight b ≤ weight a) || decide (weight a ≤ weight b) := by
    simp only [Bool.or_eq_true, decide_eq_true_eq]
    omega
  obtain ⟨sorted, hsorted⟩ :
      ∃ sorted, sorted = l.mergeSort (fun a b => weight b ≤ weight a) := ⟨_, rfl⟩
  have hperm : sorted.Perm l := hsorted ▸ List.mergeSort_perm l _
  have hpairwise : sorted.Pairwise fun a b => weight b ≤ weight a :=
    hsorted ▸ (List.pairwise_mergeSort trans total l).imp fun h => of_decide_eq_true h
  have hclass (w : Nat) :
      sorted.filter (fun a => weight a = w) = l.filter fun a => weight a = w := by
    -- A class is sorted as it stands, so it is a sublist of what is sorted, and has as many members
    -- as its class there.
    have htied : (l.filter fun a => weight a = w).Pairwise
        fun a b => decide (weight b ≤ weight a) := by
      refine List.pairwise_filter.2 (List.pairwise_of_forall fun a b ha hb => ?_)
      simp only [decide_eq_true_eq] at ha hb ⊢
      omega
    have hkept := (hsorted ▸ List.sublist_mergeSort trans total htied List.filter_sublist).filter
      fun a => weight a = w
    rw [List.filter_filter] at hkept
    simp only [Bool.and_self] at hkept
    exact (hkept.eq_of_length (hperm.filter _).length_eq.symm).symm
  rw [← hsorted, eq_flatMap_filter hpairwise fun a ha => hlimit a (hperm.mem_iff.1 ha)]
  exact congrArg (List.flatMap · _) (funext hclass)

end

/-- The violations that are no errors and no warnings, as they were found. -/
def AuditResult.remaining (r : AuditResult) : List Violation :=
  r.violations.filter fun v => v.severity ≠ "error" ∧ v.severity ≠ "warn"

namespace Report
variable {r : AuditResult}

theorem severityRank_eq (severity : String) : severityRank severity =
    if severity = "error" then 2 else if severity = "warn" then 1 else 0 := by
  unfold severityRank Severity.ofName? Severity.all
  by_cases herror : severity = "error"
  · subst herror
    rfl
  by_cases hwarn : severity = "warn"
  · subst hwarn
    rfl
  by_cases hinfo : severity = "info"
  · subst hinfo
    rfl
  simp [Severity.name, herror, hwarn, Ne.symm herror, Ne.symm hwarn, Ne.symm hinfo]

theorem listing_eq (r : AuditResult) :
    listing r.violations = r.errors ++ r.warnings ++ r.remaining := by
  have hranks : ∀ v ∈ r.violations, severityRank v.severity < 3 := by
    intro v _
    rw [severityRank_eq]
    split_ifs <;> omega
  have herror (v : Violation) : severityRank v.severity = 2 ↔ v.severity = "error" := by
    rw [severityRank_eq]
    split_ifs <;> simp_all
  have hwarn (v : Violation) : severityRank v.severity = 1 ↔ v.severity = "warn" := by
    rw [severityRank_eq]
    split_ifs <;> simp_all
  have hrest (v : Violation) :
      severityRank v.severity = 0 ↔ v.severity ≠ "error" ∧ v.severity ≠ "warn" := by
    rw [severityRank_eq]
    split_ifs <;> simp_all
  have hclasses : (List.range 3).reverse = [2, 1, 0] := rfl
  rw [listing, mergeSort_eq_flatMap_filter hranks, hclasses, List.flatMap_cons, List.flatMap_cons,
    List.flatMap_singleton, List.append_assoc]
  simp only [herror, hwarn, hrest]
  rfl

theorem perm_of_severity (r : AuditResult) :
    (r.errors ++ r.warnings ++ r.remaining).Perm r.violations := by
  rw [← listing_eq]
  exact List.mergeSort_perm _ _

theorem remaining_eq_infos (h : ∀ v ∈ r.violations, v.severity ∈ ["error", "warn", "info"]) :
    r.remaining = r.infos := by
  refine List.filter_congr fun v hv => ?_
  have hseverity := h v hv
  simp only [List.mem_cons, List.not_mem_nil, or_false] at hseverity
  rcases hseverity with herror | hwarn | hinfo
  · simp [herror, Severity.name]
  · simp [hwarn, Severity.name]
  · simp [hinfo, Severity.name]

theorem shown_flatMap (color : Bool) (violations : List Violation) :
    shown color (violations.flatMap violationLines) =
      String.join (violations.map fun v => shown color (violationLines v)) := by
  induction violations with
  | nil => rfl
  | cons v violations ih =>
    rw [List.flatMap_cons, shown_append, ih, List.map_cons, String.join_cons]

theorem terminal_eq_of_violations (h : r.violations ≠ []) (target : String) (color : Bool) :
    terminal r target color = shown color (titleRule (titleText target) :: summaryLines r) ++
      String.join ((r.errors ++ r.warnings ++ r.remaining).map fun v =>
        shown color (violationLines v)) := by
  have hlines : violationsLines r.violations = (listing r.violations).flatMap violationLines :=
    if_neg (by simpa using h)
  rw [← shown_flatMap, ← shown_append, ← listing_eq, ← hlines]
  rfl

/-- A listing shows the errors, then the warnings, then all other violations, each as they were
found. An audit by rules of the catalog finds errors, warnings and reminders of the three categories
and nothing else: these three make up its violations, and the listing is one after the other. Only
for more than 2^1000 elements the score may be out of reach. -/
theorem listing_by_severity :
    (∀ r : AuditResult, listing r.violations = r.errors ++ r.warnings ++ r.remaining ∧
      (r.violations ≠ [] → ∀ target color, terminal r target color =
        shown color (titleRule (titleText target) :: summaryLines r) ++
          String.join ((r.errors ++ r.warnings ++ r.remaining).map fun v =>
            shown color (violationLines v)))) ∧
    ∀ (registry : Registry) (root : Root) (source : String),
      (∀ rule ∈ registry.rules, rule ∈ Catalog.rules) →
      (∃ r, (audit registry root source).value = .ok r ∧
        (∀ v ∈ r.violations, v.severity ∈ ["error", "warn", "info"] ∧
          v.category ∈ ["accessibility", "form-semantics", "structural-semantics"]) ∧
        r.remaining = r.infos ∧
        (r.errors ++ r.warnings ++ r.infos).Perm r.violations ∧
        listing r.violations = r.errors ++ r.warnings ++ r.infos ∧
        r.summary.errors + r.summary.warnings + r.summary.infos = r.violations.length) ∨
      2 ^ 1000 < root.elements.length ∧
        ∃ failure, (audit registry root source).value = .error (.score failure) := by
  refine ⟨fun r => ⟨listing_eq r, terminal_eq_of_violations⟩, fun registry root source hrules => ?_⟩
  refine (audit_of_catalog hrules root source).imp_left ?_
  rintro ⟨r, hr, hproper⟩
  have hinfos : r.remaining = r.infos := remaining_eq_infos fun v hv => (hproper v hv).severity
  have hperm : (r.errors ++ r.warnings ++ r.infos).Perm r.violations :=
    hinfos ▸ perm_of_severity r
  refine ⟨r, hr, fun v hv => ⟨(hproper v hv).severity, (hproper v hv).category⟩, hinfos, hperm,
    hinfos ▸ listing_eq r, ?_⟩
  rw [← hperm.length_eq, List.length_append, List.length_append]
  rfl

def untidyRoot : Root :=
  .document ⟨[.element { tag := "h1" }, .element { tag := "a" }, .element { tag := "img" }]⟩

def untidyResult : AuditResult :=
  ⟨11, 8, [⟨"heading-structure", "accessibility", "info",
      "Ensure this h1 is the main heading and there is only one h1 per page", ""⟩,
    ⟨"anchor-without-href", "structural-semantics", "warn", "<a> tag is missing an href attribute",
      ""⟩,
    ⟨"missing-alt", "accessibility", "error", "<img> tag is missing an alt attribute", ""⟩], 73⟩

theorem audit_untidyRoot : (audit Catalog.registry untidyRoot "").value = .ok untidyResult := by
  decide +kernel

theorem listing_by_severity_untidyRoot :
    (∀ rule ∈ Catalog.registry.rules, rule ∈ Catalog.rules) ∧
    (audit Catalog.registry untidyRoot "").value = .ok untidyResult ∧
    (listing untidyResult.violations).map Violation.name =
      ["missing-alt", "anchor-without-href", "heading-structure"] := by
  have hrules : ∀ rule ∈ Catalog.registry.rules, rule ∈ Catalog.rules := fun _ h => h
  refine ⟨hrules, audit_untidyRoot, ?_⟩
  rcases listing_by_severity.2 Catalog.registry untidyRoot "" hrules with
    ⟨r, hr, -, -, -, hlisting, -⟩ | ⟨-, failure, hfailure⟩
  · rw [audit_untidyRoot] at hr
    cases hr
    rw [hlisting]
    decide +kernel
  · rw [audit_untidyRoot] at hfailure
    cases hfailure

end Report

end MarkupAudit
