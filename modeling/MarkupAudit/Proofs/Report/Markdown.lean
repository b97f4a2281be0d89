import MarkupAudit.Proofs.Audit.Wording
import MarkupAudit.Proofs.Report.Terminal
import MarkupAudit.Proofs.Text.Lines
import MarkupAudit.Report.Export

/-! Markdown reports read back. A report is a header of six lines and a body of four lines for each
violation, so that where nothing in a violation breaks a line, its place tells what a line says. -/
namespace MarkupAudit

namespace Text

def ended : List String → String
  | [] => ""
  | l :: ls => l ++ ("\n" ++ ended ls)

theorem toList_ended (ls : List String) :
    (ended ls).toList = ['\n'].intercalate (ls.map String.toList ++ [[]]) := by
  induction ls with
  | nil => rfl
  | cons l ls ih =>
    rw [ended, String.toList_append, String.toList_append, ih, List.map_cons, List.cons_append,
      List.intercalate_cons_of_ne_nil (by simp), List.append_assoc]
    rfl

theorem lines_ended {ls : List String} (h : ∀ l ∈ ls, OneLine l) :
    lines (ended ls) = ls.map String.toList ++ [[]] := by
  rw [lines, toList_ended]
  apply List.splitOn_intercalate
  · simp only [List.forall_mem_append, List.forall_mem_map, List.forall_mem_singleton]
    exact ⟨h, List.not_mem_nil⟩
  · simp

theorem ended_inj {ls ms : List String} (hls : ∀ l ∈ ls, OneLine l) (hms : ∀ m ∈ ms, OneLine m)
    (h : ended ls = ended ms) : ls = ms := by
  have hlines := congrArg lines h
  rw [lines_ended hls, lines_ended hms, List.append_left_inj] at hlines
  exact List.map_injective_iff.2 (fun _ _ => String.toList_injective) hlines

end Text

namespace Report
open Text (OneLine ended)
variable {r s : AuditResult} {vs ws : List Violation}

/-! The lines of a report. -/

def headerLines (r : AuditResult) : List String :=
  ["# UXRay Audit Report", "", "**Score**: " ++ toString r.score ++ "  ",
    "**Passed Checks**: " ++ toString r.passedChecks ++ " / " ++ toString r.totalChecks ++ "  ",
    "**Violations**: " ++ toString r.violations.length, ""]

def heading (number : Nat) (message : String) : String :=
  "### " ++ toString number ++ ". " ++ message

def entryLines (number : Nat) (v : Violation) : List String :=
  [heading number v.message, "- **Type**: " ++ v.category, "- **Severity**: " ++ v.severity, ""]

def entriesLines (number : Nat) : List Violation → List String
  | [] => []
  | v :: vs => entryLines number v ++ entriesLines (number + 1) vs

def bodyLines (vs : List Violation) : List String :=
  if vs.isEmpty then [noViolationsLine] else entriesLines 1 vs

theorem ended_headerLines_append (r : AuditResult) (ls : List String) :
    ended (headerLines r ++ ls) = markdownHeader r ++ ended ls := by
  have hsplit : markdownHeader r =
      ("# UXRay Audit Report" ++ ("\n" ++ ("" ++ ("\n" ++ "**Score**: ")))) ++ toString r.score ++
        ("  " ++ ("\n" ++ "**Passed Checks**: ")) ++ toString r.passedChecks ++ " / " ++
        toString r.totalChecks ++ ("  " ++ ("\n" ++ "**Violations**: ")) ++
        toString r.violations.length ++ ("\n" ++ ("" ++ "\n")) := by
    unfold markdownHeader
    simp only [String.reduceAppend]
  rw [hsplit]
  simp only [headerLines, List.cons_append, List.nil_append, ended, String.append_assoc]

theorem ended_entryLines_append (number : Nat) (v : Violation) (ls : List String) :
    ended (entryLines number v ++ ls) = markdownEntry number v ++ ("\n" ++ ended ls) := by
  have hsplit : markdownEntry number v = "### " ++ toString number ++ ". " ++ v.message ++
      ("\n" ++ "- **Type**: ") ++ v.category ++ ("\n" ++ "- **Severity**: ") ++ v.severity ++
      ("\n" ++ "") := by
    unfold markdownEntry
    simp only [String.reduceAppend]
  rw [hsplit]
  simp only [entryLines, heading, List.cons_append, List.nil_append, ended, String.append_assoc]

theorem ended_entriesLines (number : Nat) (v : Violation) (vs : List Violation) :
    ended (entriesLines number (v :: vs)) =
      "\n".intercalate (markdownEntries number (v :: vs)) ++ "\n" := by
  induction vs generalizing number v with
  | nil =>
    rw [entriesLines, ended_entryLines_append]
    simp only [markdownEntries, String.intercalate_singleton]
    rfl
  | cons w vs ih =>
    rw [entriesLines, ended_entryLines_append, ih, markdownEntries, markdownEntries,
      markdownEntries, String.intercalate_cons_cons, String.append_assoc, String.append_assoc]

theorem markdown_eq_ended (r : AuditResult) :
    markdown r = ended (headerLines r ++ bodyLines r.violations) := by
  rw [ended_headerLines_append, markdown, markdownBody, bodyLines, String.append_assoc]
  apply congrArg (markdownHeader r ++ ·)
  cases r.violations with
  | nil => rfl
  | cons v vs => exact (ended_entriesLines 1 v vs).symm

/-- Whether nothing that a report says of the violations breaks a line. -/
def OnLines (vs : List Violation) : Prop :=
  ∀ v ∈ vs, OneLine v.message ∧ OneLine v.category ∧ OneLine v.severity

theorem oneLine_toString (n : Int) : OneLine (toString n) := by
  intro h
  exact absurd (isPlain_of_mem_toString h) (by decide)

theorem oneLine_toString_nat (n : Nat) : OneLine (toString n) :=
  oneLine_toString (n : Int)

theorem oneLine_headerLines (r : AuditResult) : ∀ l ∈ headerLines r, OneLine l := by
  simp only [headerLines, List.forall_mem_cons, List.not_mem_nil, false_imp_iff, implies_true,
    and_true]
  have hscore : OneLine ("**Score**: " ++ toString r.score ++ "  ") :=
    .append (.append (.ofList (by decide)) (oneLine_toString _)) (.ofList (by decide))
  have hpassed : OneLine ("**Passed Checks**: " ++ toString r.passedChecks ++ " / ") :=
    .append (.append (.ofList (by decide)) (oneLine_toString _)) (.ofList (by decide))
  exact ⟨.ofList (by decide), .ofList (by decide), hscore,
    .append (.append hpassed (oneLine_toString _)) (.ofList (by decide)),
    .append (.ofList (by decide)) (oneLine_toString_nat _), .ofList (by decide)⟩

theorem oneLine_entriesLines (number : Nat) (h : OnLines vs) :
    ∀ l ∈ entriesLines number vs, OneLine l := by
  induction vs generalizing number with
  | nil => exact List.forall_mem_nil _
  | cons v vs ih =>
    obtain ⟨⟨hmessage, hcategory, hseverity⟩, hvs⟩ := List.forall_mem_cons.1 h
    simp only [entriesLines, entryLines, heading, List.forall_mem_append, List.forall_mem_cons,
      List.not_mem_nil, false_imp_iff, implies_true, and_true]
    have hnumber : OneLine ("### " ++ toString number ++ ". ") :=
      .append (.append (.ofList (by decide)) (oneLine_toString_nat _)) (.ofList (by decide))
    exact ⟨⟨.append hnumber hmessage, .append (.ofList (by decide)) hcategory,
      .append (.ofList (by decide)) hseverity, .ofList (by decide)⟩, ih (number + 1) hvs⟩

theorem oneLine_bodyLines (h : OnLines vs) : ∀ l ∈ bodyLines vs, OneLine l := by
  cases vs with
  | nil => exact List.forall_mem_singleton.2 (.ofList (by decide))
  | cons v vs => exact oneLine_entriesLines 1 h

theorem oneLine_reportLines (h : OnLines r.violations) :
    ∀ l ∈ headerLines r ++ bodyLines r.violations, OneLine l :=
  List.forall_mem_append.2 ⟨oneLine_headerLines r, oneLine_bodyLines h⟩

theorem lines_markdown (h : OnLines r.violations) : Text.lines (markdown r) =
    ((headerLines r).map String.toList ++ (bodyLines r.violations).map String.toList) ++ [[]] := by
  rw [markdown_eq_ended, Text.lines_ended (oneLine_reportLines h), List.map_append]

/-! What the lines say. -/

def contents (vs : List Violation) : List (String × String × String) :=
  vs.map fun v => (v.message, v.category, v.severity)

/-- The blank in front of the slash tells the two numbers apart. -/
theorem passedChecks_eq_iff {m n m' n' : Int} :
    toString m ++ (" / " ++ (toString n ++ "  ")) =
        toString m' ++ (" / " ++ (toString n' ++ "  ")) ↔
      m = m' ∧ n = n' := by
  have hhead (rest : String) : (" / " ++ rest).toList.head? = some ' ' := by
    rw [String.toList_append]
    rfl
  constructor
  · intro h
    obtain rfl := eq_of_toString_append (hhead _) (hhead _) h
    rw [String.append_right_inj, String.append_right_inj, String.append_left_inj,
      toString_inj_iff] at h
    exact ⟨rfl, h⟩
  · rintro ⟨rfl, rfl⟩
    rfl

theorem headerLines_eq_iff : headerLines r = headerLines s ↔
    r.score = s.score ∧ (r.passedChecks = s.passedChecks ∧ r.totalChecks = s.totalChecks) ∧
      r.violations.length = s.violations.length := by
  have hlength : toString r.violations.length = toString s.violations.length ↔
      r.violations.length = s.violations.length := by
    change toString (r.violations.length : Int) = toString (s.violations.length : Int) ↔ _
    rw [toString_inj_iff, Int.natCast_inj]
  simp only [headerLines, List.cons.injEq, true_and, and_true, String.append_assoc,
    String.append_right_inj, String.append_left_inj, toString_inj_iff, passedChecks_eq_iff, hlength]

theorem entriesLines_eq_iff {number : Nat} :
    entriesLines number vs = entriesLines number ws ↔ contents vs = contents ws := by
  induction vs generalizing number ws with
  | nil => cases ws <;> simp [entriesLines, entryLines, contents]
  | cons v vs ih =>
    cases ws with
    | nil => simp [entriesLines, entryLines, contents]
    | cons w ws =>
      have hrest := @ih ws (number + 1)
      unfold contents at hrest ⊢
      simp only [entriesLines, entryLines, heading, List.cons_append, List.nil_append,
        List.cons.injEq, String.append_right_inj, true_and, hrest, List.map_cons, Prod.mk.injEq,
        and_assoc]

theorem bodyLines_eq_iff : bodyLines vs = bodyLines ws ↔ contents vs = contents ws := by
  cases vs with
  | nil =>
    cases ws with
    | nil => simp
    | cons w ws => simp [bodyLines, entriesLines, entryLines, contents]
  | cons v vs =>
    cases ws with
    | nil => simp [bodyLines, entriesLines, entryLines, contents]
    | cons w ws => exact entriesLines_eq_iff

theorem markdown_eq_iff (hr : OnLines r.violations) (hs : OnLines s.violations) :
    markdown r = markdown s ↔ r.score = s.score ∧ r.passedChecks = s.passedChecks ∧
      r.totalChecks = s.totalChecks ∧ contents r.violations = contents s.violations := by
  have hlines : markdown r = markdown s ↔
      headerLines r = headerLines s ∧ bodyLines r.violations = bodyLines s.violations := by
    rw [markdown_eq_ended, markdown_eq_ended]
    constructor
    · intro h
      -- Headers are of one length, so the lines of both reports part at one place.
      exact List.append_inj (Text.ended_inj (oneLine_reportLines hr) (oneLine_reportLines hs) h) rfl
    · rintro ⟨hheader, hbody⟩
      rw [hheader, hbody]
  have hlength : contents r.violations = contents s.violations →
      r.violations.length = s.violations.length := by
    intro h
    have := congrArg List.length h
    rwa [contents, contents, List.length_map, List.length_map] at this
  rw [hlines, headerLines_eq_iff, bodyLines_eq_iff]
  constructor
  · rintro ⟨⟨hscore, ⟨hpassed, htotal⟩, -⟩, hcontents⟩
    exact ⟨hscore, hpassed, htotal, hcontents⟩
  · rintro ⟨hscore, hpassed, htotal, hcontents⟩
    exact ⟨⟨hscore, ⟨hpassed, htotal⟩, hlength hcontents⟩, hcontents⟩

def isHeading (line : List Char) : Bool :=
  "### ".toList.isPrefixOf line

theorem filter_headerLines (r : AuditResult) :
    ((headerLines r).map String.toList).filter isHeading = [] := by
  simp [headerLines, isHeading]

theorem filter_entriesLines (number : Nat) (vs : List Violation) :
    ((entriesLines number vs).map String.toList).filter isHeading =
      vs.mapIdx fun i v => (heading (number + i) v.message).toList := by
  induction vs generalizing number with
  | nil => rfl
  | cons v vs ih =>
    have hentry : ((entryLines number v).map String.toList).filter isHeading =
        [(heading number v.message).toList] := by
      simp [entryLines, heading, isHeading]
    rw [entriesLines, List.map_append, List.filter_append, hentry, ih, List.mapIdx_cons]
    simp only [Nat.add_zero, Nat.add_assoc, Nat.add_comm 1, List.singleton_append]

theorem filter_bodyLines (vs : List Violation) :
    ((bodyLines vs).map String.toList).filter isHeading =
      vs.mapIdx fun i v => (heading (i + 1) v.message).toList := by
  cases vs with
  | nil => simp [bodyLines, noViolationsLine, isHeading]
  | cons v vs =>
    have hbody : bodyLines (v :: vs) = entriesLines 1 (v :: vs) := rfl
    rw [hbody, filter_entriesLines]
    simp only [Nat.add_comm 1]

theorem filter_lines_markdown (h : OnLines r.violations) :
    (Text.lines (markdown r)).filter isHeading =
      r.violations.mapIdx fun i v => (heading (i + 1) v.message).toList := by
  rw [lines_markdown h, List.filter_append, List.filter_append, filter_headerLines,
    filter_bodyLines]
  exact List.append_nil _

theorem noViolationsLine_notMem_entriesLines (number : Nat) (vs : List Violation) :
    noViolationsLine ∉ entriesLines number vs := by
  induction vs generalizing number with
  | nil => exact List.not_mem_nil
  | cons v vs ih =>
    rw [entriesLines, List.mem_append, not_or]
    refine ⟨?_, ih (number + 1)⟩
    -- Lines of an entry begin with a mark or are empty, and this one begins with a sign of its own.
    simp [entryLines, heading, noViolationsLine, ← String.toList_inj]

theorem noViolationsLine_notMem_headerLines (r : AuditResult) :
    noViolationsLine ∉ headerLines r := by
  simp [headerLines, noViolationsLine, ← String.toList_inj]

theorem noViolationsLine_mem_bodyLines {vs : List Violation} :
    noViolationsLine ∈ bodyLines vs ↔ vs = [] := by
  cases vs with
  | nil => simp [bodyLines]
  | cons v vs =>
    exact iff_of_false (noViolationsLine_notMem_entriesLines 1 (v :: vs)) (List.cons_ne_nil v vs)

theorem noViolationsLine_mem_lines_markdown (h : OnLines r.violations) :
    noViolationsLine.toList ∈ Text.lines (markdown r) ↔ r.violations = [] := by
  have hinjective : Function.Injective String.toList := fun _ _ => String.toList_injective
  have hlast : noViolationsLine.toList ∉ [[]] := by simp [noViolationsLine]
  rw [lines_markdown h, List.mem_append, List.mem_append, or_iff_left hlast,
    List.mem_map_of_injective hinjective, List.mem_map_of_injective hinjective,
    or_iff_right (noViolationsLine_notMem_headerLines r), noViolationsLine_mem_bodyLines]

theorem body_lines_markdown (h : OnLines r.violations) :
    (Text.lines (markdown r)).drop 6 = [noViolationsLine.toList, []] ↔ r.violations = [] := by
  have hbody :
      (Text.lines (markdown r)).drop 6 = (bodyLines r.violations).map String.toList ++ [[]] := by
    rw [lines_markdown h, List.append_assoc]
    rfl
  rw [hbody]
  cases hviolations : r.violations with
  | nil => exact iff_of_true rfl rfl
  | cons v vs => exact iff_of_false (by simp [bodyLines, entriesLines, entryLines]) (by simp)

theorem onLines_of_proper (h : ∀ v ∈ vs, v.Proper) : OnLines vs := by
  have hcategories : ∀ name ∈ ["accessibility", "form-semantics", "structural-semantics"],
      '\n' ∉ name.toList := by
    decide +kernel
  have hseverities : ∀ name ∈ ["error", "warn", "info"], '\n' ∉ name.toList := by
    decide +kernel
  intro v hv
  obtain ⟨hmessage, hseverity, hcategory⟩ := h v hv
  exact ⟨hmessage, hcategories v.category hcategory, hseverities v.severity hseverity⟩

/-- Two reports on results whose violations break no line are equal just where the results have the
same score, the same numbers of checks and violations that say the same in the same order. The
headings of such a report are the messages, numbered from one, and its body, of which no violation
can write the line, is the line for no violations just where there are none. An audit by rules of
the catalog has such a result; only for more than 2^1000 elements the score may be out of reach. -/
theorem markdown_readable :
    (∀ r s : AuditResult, OnLines r.violations → OnLines s.violations →
      (markdown r = markdown s ↔ r.score = s.score ∧ r.passedChecks = s.passedChecks ∧
        r.totalChecks = s.totalChecks ∧
        (r.violations.map fun v => (v.message, v.category, v.severity)) =
          s.violations.map fun v => (v.message, v.category, v.severity))) ∧
    (∀ r : AuditResult, OnLines r.violations →
      (Text.lines (markdown r)).filter ("### ".toList.isPrefixOf ·) =
        r.violations.mapIdx (fun i v =>
          ("### " ++ toString (i + 1) ++ ". " ++ v.message).toList) ∧
      ((Text.lines (markdown r)).drop 6 = ["✅ No violations found!".toList, []] ↔
        r.violations = []) ∧
      ("✅ No violations found!".toList ∈ Text.lines (markdown r) ↔ r.violations = [])) ∧
    ∀ (registry : Registry) (root : Root) (source : String),
      (∀ rule ∈ registry.rules, rule ∈ Catalog.rules) →
      (∃ r, (audit registry root source).value = .ok r ∧ OnLines r.violations) ∨
        2 ^ 1000 < root.elements.length ∧
          ∃ failure, (audit registry root source).value = .error (.score failure) := by
  refine ⟨fun r s => markdown_eq_iff, fun r hr => ?_, fun registry root source hrules => ?_⟩
  · exact ⟨filter_lines_markdown hr, body_lines_markdown hr, noViolationsLine_mem_lines_markdown hr⟩
  · exact (audit_of_catalog hrules root source).imp_left fun ⟨r, hr, hproper⟩ =>
      ⟨r, hr, onLines_of_proper hproper⟩

def imageRoot : Root :=
  .document ⟨[.element { tag := "img" }]⟩

def imageResult : AuditResult :=
  ⟨11, 10, [⟨"missing-alt", "accessibility", "error", "<img> tag is missing an alt attribute",
    ""⟩], 91⟩

/-- A message that looks like a heading and like the line for no violations. -/
def lookalikeResult : AuditResult :=
  { imageResult with
    violations := [⟨"missing-alt", "accessibility", "error", "### 2. ✅ No violations found!", ""⟩] }

theorem audit_imageRoot : (audit Catalog.registry imageRoot "").value = .ok imageResult := by
  decide +kernel

theorem markdown_readable_lookalike :
    (∀ rule ∈ Catalog.registry.rules, rule ∈ Catalog.rules) ∧
    (audit Catalog.registry imageRoot "").value = .ok imageResult ∧
    OnLines imageResult.violations ∧ OnLines lookalikeResult.violations ∧
    markdown imageResult ≠ markdown lookalikeResult ∧
    (Text.lines (markdown lookalikeResult)).filter ("### ".toList.isPrefixOf ·) =
      ["### 1. ### 2. ✅ No violations found!".toList] ∧
    "✅ No violations found!".toList ∉ Text.lines (markdown lookalikeResult) := by
  have hrules : ∀ rule ∈ Catalog.registry.rules, rule ∈ Catalog.rules := fun _ h => h
  have himage : OnLines imageResult.violations := by
    rcases markdown_readable.2.2 Catalog.registry imageRoot "" hrules with
      ⟨r, hr, hlines⟩ | ⟨-, failure, hfailure⟩
    · rw [audit_imageRoot] at hr
      cases hr
      exact hlines
    · rw [audit_imageRoot] at hfailure
      cases hfailure
  have hlookalike : OnLines lookalikeResult.violations := by
    refine List.forall_mem_singleton.2 ⟨.ofList (by decide), .ofList (by decide), ?_⟩
    exact .ofList (by decide)
  obtain ⟨hheadings, -, hempty⟩ := markdown_readable.2.1 lookalikeResult hlookalike
  refine ⟨hrules, audit_imageRoot, himage, hlookalike, fun hequal => ?_, hheadings.trans rfl, ?_⟩
  · obtain ⟨-, -, -, hcontents⟩ :=
      (markdown_readable.1 imageResult lookalikeResult himage hlookalike).1 hequal
    exact absurd hcontents (by decide)
  · exact fun hline => absurd (hempty.1 hline) (List.cons_ne_nil _ _)

end Report
end MarkupAudit
