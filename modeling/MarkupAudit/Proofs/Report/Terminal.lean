import Mathlib.Data.Bool.AllAny
import Mathlib.Data.List.Basic
import Mathlib.Data.String.Basic
import MarkupAudit.Proofs.Number.Decimal
import MarkupAudit.Report.Terminal

/-! Lines on the screen. A line of plain characters that fits is printed as it is. The two lines of a
violation show what it says, and the line of the score lets the score be read off a listing. -/
namespace MarkupAudit.Text

theorem cellsOf_append (cs ds : List Char) : cellsOf (cs ++ ds) = cellsOf cs + cellsOf ds := by
  have shift (n : Nat) (ds : List Char) :
      ds.foldl (fun n c => n + cellWidth c) n = n + cellsOf ds := by
    unfold cellsOf
    induction ds generalizing n with
    | nil => rfl
    | cons d ds ih =>
      rw [List.foldl_cons, List.foldl_cons, ih, ih (0 + _)]
      omega
  rw [cellsOf, List.foldl_append]
  exact shift _ _

theorem cellsOf_le_of_prefix {cs ds : List Char} (h : cs <+: ds) : cellsOf cs ≤ cellsOf ds := by
  obtain ⟨rest, rfl⟩ := h
  rw [cellsOf_append]
  exact Nat.le_add_right _ _

end MarkupAudit.Text

namespace MarkupAudit.Report

namespace Line
variable {width : Nat} {line : Line}

/-! Line breaks. -/

theorem prefix_firstWord (cs : List Char) : firstWord cs <+: cs := by
  unfold firstWord
  dsimp only
  split
  · exact List.nil_prefix
  · exact List.take_prefix _ _

theorem prefix_flatten_words (cs : List Char) : (words cs).flatten <+: cs := by
  induction cs using words.induct with
  | case1 cs hnone =>
    rw [words]
    split
    · exact List.nil_prefix
    · rename_i c word hword
      rw [hnone] at hword
      cases hword
  | case2 cs c word hword ih =>
    rw [words]
    split
    · exact List.nil_prefix
    · rename_i c' word' hword'
      rw [hword] at hword'
      cases hword'
      obtain ⟨rest, hrest⟩ := prefix_firstWord cs
      rw [hword] at hrest
      have hdrop : cs.drop (word.length + 1) = rest := by
        rw [← hrest, ← List.length_cons, List.drop_left]
      rw [hdrop] at ih ⊢
      rw [List.flatten_cons, ← hrest]
      exact List.prefix_append_right_inj _ |>.2 ih

theorem prefix_trimEnd (cs : List Char) : trimEnd cs <+: cs := by
  have h : cs.reverse.dropWhile Text.isBlank <:+ cs.reverse := List.dropWhile_suffix _
  rw [← List.reverse_prefix, List.reverse_reverse] at h
  exact h

theorem breaks_eq_nil {words : List (List Char)} {start offset : Nat}
    (h : offset + Text.cellsOf words.flatten ≤ width) : breaks width start offset words = [] := by
  induction words generalizing start offset with
  | nil => rfl
  | cons word rest ih =>
    rw [List.flatten_cons, Text.cellsOf_append] at h
    have hword := Text.cellsOf_le_of_prefix (prefix_trimEnd word)
    unfold breaks
    rw [if_pos (by omega)]
    exact ih (by omega)

/-! Lines of plain characters. -/

/-- Controls take no cell. -/
def IsPlain (c : Char) : Prop :=
  Text.cellWidth c = 1

instance : DecidablePred IsPlain := fun c =>
  inferInstanceAs (Decidable (Text.cellWidth c = 1))

theorem isPlain_of_printable {c : Char} (hlow : 0x20 ≤ c.toNat) (hhigh : c.toNat < 0x7F) :
    IsPlain c :=
  if_pos (by simp [hlow, hhigh])

theorem ne_of_isPlain {c d : Char} (hc : IsPlain c) (hd : ¬IsPlain d) : c ≠ d := by
  rintro rfl
  exact hd hc

theorem isMotion_of_isPlain {c : Char} (h : IsPlain c) : isMotion c = false := by
  have hcodes : ∀ n ∈ [7, 8, 11, 12, 13], ¬IsPlain (Char.ofNat n) := by decide
  unfold isMotion
  rw [List.contains_eq_mem, decide_eq_false_iff_not]
  intro hmem
  rw [← Char.ofNat_toNat c] at h
  exact hcodes _ hmem h

def Plain (line : Line) : Prop :=
  ∀ c ∈ line.chars, IsPlain c

theorem plain_cons_iff {c : Cell} : Plain (c :: line) ↔ IsPlain c.char ∧ Plain line :=
  List.forall_mem_cons

theorem cells_of_plain (h : Plain line) : line.cells = line.length := by
  induction line with
  | nil => rfl
  | cons c line ih =>
    obtain ⟨hc, hline⟩ := plain_cons_iff.1 h
    have hcons : cells (c :: line) = Text.cellsOf [c.char] + cells line :=
      Text.cellsOf_append [c.char] (chars line)
    have hone : Text.cellsOf [c.char] = 1 := (Nat.zero_add _).trans hc
    rw [hcons, hone, ih hline, List.length_cons, Nat.add_comm]

theorem split_of_plain (h : Plain line) : line.split = [line] := by
  induction line with
  | nil => rfl
  | cons c line ih =>
    obtain ⟨hc, hline⟩ := plain_cons_iff.1 h
    rw [split, if_neg (ne_of_isPlain hc (by decide)), ih hline]

theorem expandTabs_of_plain (h : Plain line) (position : Nat) :
    expandTabs position line = line := by
  induction line generalizing position with
  | nil => rfl
  | cons c line ih =>
    obtain ⟨hc, hline⟩ := plain_cons_iff.1 h
    rw [expandTabs, if_neg (ne_of_isPlain hc (by decide)), ih hline]

theorem crop_of_plain (h : Plain line) (hlength : line.length ≤ width) :
    crop width line = line := by
  induction line generalizing width with
  | nil => rfl
  | cons c line ih =>
    obtain ⟨hc, hline⟩ := plain_cons_iff.1 h
    have hone : Text.cellWidth c.char = 1 := hc
    rw [List.length_cons] at hlength
    unfold crop
    rw [hone, if_neg (by omega), if_neg (by omega), ih hline (by omega)]

theorem trimExcess_of_length_le (hlength : line.length ≤ width) : trimExcess width line = line := by
  unfold trimExcess
  dsimp only
  rw [Nat.sub_eq_zero_of_le hlength, Nat.min_zero, Nat.sub_zero, List.take_length]

theorem wrap_of_plain (h : Plain line) (hlength : line.length ≤ width) :
    wrap width line = [line] := by
  have hcells : Text.cellsOf (words line.chars).flatten ≤ width :=
    calc Text.cellsOf (words line.chars).flatten
        ≤ line.cells := Text.cellsOf_le_of_prefix (prefix_flatten_words _)
      _ = line.length := cells_of_plain h
      _ ≤ width := hlength
  unfold wrap
  rw [split_of_plain h, List.flatMap_singleton]
  dsimp only
  rw [expandTabs_of_plain h, breaks_eq_nil (by omega), divide, List.map_singleton,
    trimExcess_of_length_le hlength, crop_of_plain h hlength]

theorem flatten_runs (line : Line) : (line.runs.map Prod.fst).flatten = line.chars := by
  induction line using runs.induct with
  | case1 =>
    rw [runs]
    rfl
  | case2 c rest more ih =>
    have hmore : more <+: rest := List.takeWhile_prefix _
    have hrest : chars more ++ chars (rest.drop more.length) = chars rest := by
      rw [chars, chars, chars, ← List.map_append, List.prefix_iff_eq_append.1 hmore]
    rw [runs, List.map_cons, List.flatten_cons, ih]
    exact congrArg (c.char :: ·) hrest

theorem text_false (line : Line) : line.text false = String.ofList line.chars ++ "\n" := by
  unfold text
  rw [String.join_eq, List.map_map, ← flatten_runs]
  apply congrArg fun texts : List (List Char) => String.ofList texts.flatten ++ "\n"
  apply List.map_congr_left
  intro run _
  exact String.toList_ofList

end Line

/-! Lines of some runs. -/

theorem shown_append (color : Bool) (lines more : List Line) :
    shown color (lines ++ more) = shown color lines ++ shown color more := by
  unfold shown
  rw [List.flatMap_append, List.map_append, String.join_append]

def runsText (runs : List (String × Style)) : String :=
  String.join (runs.map Prod.fst)

theorem chars_styledFrom (run : Nat) (runs : List (String × Style)) :
    (styledFrom run runs).chars = (runsText runs).toList.filter (!isMotion ·) := by
  induction runs generalizing run with
  | nil => rfl
  | cons first rest ih =>
    rw [styledFrom, Line.chars, List.map_append, List.map_map, runsText, List.map_cons,
      String.join_cons, String.toList_append, List.filter_append]
    exact congrArg₂ (· ++ ·) (List.map_id _) (ih (run + 1))

theorem chars_styled (runs : List (String × Style)) :
    (styled runs).chars = (runsText runs).toList.filter (!isMotion ·) :=
  chars_styledFrom 0 runs

/-- Runs of plain characters that fit on the screen are printed as they are. -/
theorem shown_styled {runs : List (String × Style)}
    (plain : ∀ c ∈ (runsText runs).toList, Line.IsPlain c)
    (hlength : (runsText runs).length ≤ screenWidth) :
    shown false [styled runs] = runsText runs ++ "\n" := by
  have hchars : (styled runs).chars = (runsText runs).toList := by
    rw [chars_styled, List.filter_eq_self]
    intro c hc
    rw [Line.isMotion_of_isPlain (plain c hc)]
    rfl
  have hplain : (styled runs).Plain := by
    unfold Line.Plain
    rwa [hchars]
  have hfits : (styled runs).length ≤ screenWidth := by
    rwa [← List.length_map (f := Cell.char), ← Line.chars, hchars, String.length_toList]
  unfold shown
  rw [List.flatMap_singleton, Line.wrap_of_plain hplain hfits, List.map_singleton, Line.text_false,
    hchars, String.ofList_toList, String.join_eq, List.map_singleton, List.flatten_singleton,
    String.ofList_toList]

/-! The lines of a violation. -/

/-- The severity of a violation behind its mark, its name, and its location if that is known. -/
def headText (v : Violation) : String :=
  "  " ++ (severityMark v.severity).1 ++ " " ++ padEnd 5 v.severity ++ " " ++ v.name ++
    if v.location = "" then "" else " [" ++ v.location ++ "]"

def messageText (v : Violation) : String :=
  "      " ++ replaceEmoji v.message

theorem runsText_violationHead (v : Violation) : runsText (violationHead v) = headText v := by
  by_cases hlocation : v.location = ""
  · simp [runsText, violationHead, headText, hlocation, String.append_assoc]
  · simp [runsText, violationHead, headText, hlocation, String.append_assoc]

theorem runsText_message (v : Violation) :
    runsText [("      " ++ replaceEmoji v.message, .plain)] = messageText v := by
  simp [runsText, messageText]

/-- Two lines show the severity, the name and the location of a violation, and its message, but for
characters that move the cursor. -/
theorem chars_violationLines (v : Violation) : (violationLines v).map Line.chars =
    [(headText v).toList.filter (!isMotion ·), (messageText v).toList.filter (!isMotion ·)] := by
  rw [violationLines, List.map_cons, List.map_singleton, chars_styled, chars_styled,
    runsText_violationHead, runsText_message]

theorem shown_violationLines {v : Violation} (plain : ∀ c ∈ (headText v).toList, Line.IsPlain c)
    (plainMessage : ∀ c ∈ (messageText v).toList, Line.IsPlain c)
    (hhead : (headText v).length ≤ screenWidth) (hmessage : (messageText v).length ≤ screenWidth) :
    shown false (violationLines v) = headText v ++ "\n" ++ messageText v ++ "\n" := by
  rw [← runsText_violationHead] at plain hhead ⊢
  rw [← runsText_message] at plainMessage hmessage ⊢
  rw [violationLines, ← List.singleton_append, shown_append, shown_styled plain hhead,
    shown_styled plainMessage hmessage]
  exact String.append_assoc.symm

/-! The line of the score. -/

variable {r : AuditResult} {target text : String} {s t : Int}

theorem isPlain_of_mem_toString {c : Char} (h : c ∈ (toString s).toList) : Line.IsPlain c := by
  rcases isDigit_or_eq_minus_of_mem_toString h with hdigit | rfl
  · obtain ⟨hlow, hhigh⟩ := Char.isDigit_iff_toNat.1 hdigit
    exact Line.isPlain_of_printable (le_trans (by decide) hlow) (hhigh.trans_lt (by decide))
  · decide

theorem length_toString_le (hscore : 0 ≤ s ∧ s ≤ 100) : (toString s).toList.length ≤ 3 := by
  have hdigits : ∀ n ∈ List.range 101, (Nat.toDigits 10 n).length ≤ 3 := by decide
  rw [Int.toString_eq_repr, Int.repr_eq_if, if_pos hscore.1, Nat.toList_repr]
  exact hdigits s.toNat (List.mem_range.2 (by omega))

def scoreText (score : Int) : String :=
  "  Score: " ++ toString score ++ " / 100"

def scoreRuns (score : Int) : List (String × Style) :=
  [("  Score: ", .bold), (toString score, scoreStyle score), (" / 100", .plain)]

theorem runsText_scoreRuns (s : Int) : runsText (scoreRuns s) = scoreText s := by
  simp [runsText, scoreRuns, scoreText, String.append_assoc]

theorem shown_scoreRuns (hscore : 0 ≤ s ∧ s ≤ 100) :
    shown false [styled (scoreRuns s)] = scoreText s ++ "\n" := by
  have hlabel : ∀ c ∈ "  Score: ".toList, Line.IsPlain c :=
    List.all_iff_forall_prop.1 (by decide)
  have hlast : ∀ c ∈ " / 100".toList, Line.IsPlain c := List.all_iff_forall_prop.1 (by decide)
  have hplain : ∀ c ∈ (scoreText s).toList, Line.IsPlain c := by
    simp only [scoreText, String.toList_append, List.forall_mem_append]
    exact ⟨⟨hlabel, fun c hc => isPlain_of_mem_toString hc⟩, hlast⟩
  have hlength : (scoreText s).length = 9 + (toString s).toList.length + 6 := by
    rw [scoreText, String.length_append, String.length_append, String.length_toList]
    rfl
  have hdigits := length_toString_le hscore
  have hscreen : screenWidth = 100 := rfl
  rw [← runsText_scoreRuns] at hplain hlength ⊢
  exact shown_styled hplain (by omega)

/-- Whether a text shows a score, on the line after the title. -/
def ShowsScore (target text : String) (score : Int) : Prop :=
  ∃ rest, text = shown false [titleRule (titleText target)] ++ scoreText score ++ "\n" ++ rest

theorem showsScore_terminal (hscore : 0 ≤ r.score ∧ r.score ≤ 100) :
    ShowsScore target (terminal r target false) r.score := by
  have hlines : titleRule (titleText target) :: summaryLines r ++ violationsLines r.violations =
      [titleRule (titleText target)] ++ ([styled (scoreRuns r.score)] ++
        ((summaryLines r).tail ++ violationsLines r.violations)) := rfl
  rw [terminal, hlines, shown_append, shown_append, shown_scoreRuns hscore, ← String.append_assoc,
    ← String.append_assoc]
  exact ⟨_, rfl⟩

theorem ShowsScore.append (h : ShowsScore target text s) (more : String) :
    ShowsScore target (text ++ more) s := by
  obtain ⟨rest, rfl⟩ := h
  exact ⟨rest ++ more, String.append_assoc⟩

theorem ShowsScore.unique (hs : ShowsScore target text s) (ht : ShowsScore target text t) :
    s = t := by
  obtain ⟨rest, rfl⟩ := hs
  obtain ⟨rest', h⟩ := ht
  unfold scoreText at h
  simp only [String.append_assoc, String.append_right_inj] at h
  have hhead (rest : String) : (" / 100" ++ rest).toList.head? = some ' ' := by
    rw [String.toList_append]
    rfl
  exact eq_of_toString_append (hhead _) (hhead _) h

end MarkupAudit.Report
