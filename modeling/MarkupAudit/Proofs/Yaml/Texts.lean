import MarkupAudit.Proofs.Number.Decimal
import MarkupAudit.Yaml.Value

/-! The texts that values are written as. A date or a time has no letters at all, and the first
letter of a value that is no text is one of a few. -/
namespace MarkupAudit.Yaml

@[simp] theorem figures_padded (width n : Nat) : Figures (padded width n).toList := by
  simp [padded]

@[simp] theorem figures_dateText (d : Date) : Figures d.text.toList := by
  simp [Date.text, figureMarks]

@[simp] theorem figures_offsetText (minutes : Int) : Figures (offsetText minutes).toList := by
  have hsign : Figures (if minutes < 0 then "-" else "+").toList := by
    split <;> simp [figureMarks]
  simp [offsetText, hsign, figureMarks]

theorem figures_momentText (m : Moment) : Figures m.text.toList := by
  have hfraction : Figures
      (if m.microsecond = 0 then "" else "." ++ padded 6 m.microsecond).toList := by
    split <;> simp [figureMarks]
  have hzone : Figures ((m.offset.map offsetText).getD "").toList := by
    cases m.offset <;> simp
  simp [Moment.text, hfraction, hzone, figureMarks]

namespace Value
variable {v : Value}

def IsText (v : Value) : Prop :=
  ∃ s, v = .text s

/-- What the text of a value that is no text begins with, if not with a digit. -/
def leads : List Char :=
  figureMarks ++ ['N', 'T', 'F', 'i', 'n', 'b', '[', '\x7b', 's', '(']

def Led (cs : List Char) : Prop :=
  ∀ c ∈ cs.head?, c.isDigit ∨ c ∈ leads

theorem led_cons {c : Char} {cs : List Char} (h : c ∈ leads) : Led (c :: cs) :=
  fun _ hc => .inr (Option.some.inj hc ▸ h)

theorem led_of_figures {cs : List Char} (h : Figures cs) : Led cs :=
  fun c hc => (h c (List.mem_of_mem_head? hc)).imp_right (List.mem_append_left _)

theorem led_doubleText (x : Double) : Led x.text.toList := by
  cases x with
  | finite negative m =>
    rw [Double.text, Double.signText, String.toList_ofList]
    split
    · exact led_cons (by decide)
    · exact led_of_figures (figures_magnitudeText m)
  | infinite negative =>
    rw [Double.text, Double.signText, String.toList_ofList]
    split <;> exact led_cons (by decide)
  | nan => exact led_cons (by decide)

theorem led_bytesText (bs : List UInt8) : Led (bytesText bs).toList := by
  rw [bytesText, String.toList_append, String.toList_append, String.toList_append,
    List.append_assoc, List.append_assoc]
  exact led_cons (by decide)

theorem led_bracketed (items : List String) : Led (Text.bracketed items).toList := by
  rw [Text.bracketed, String.toList_append, String.toList_append, List.append_assoc]
  exact led_cons (by decide)

theorem led_braced (items : List String) : Led (braced items).toList := by
  rw [braced, String.toList_append, String.toList_append, List.append_assoc]
  exact led_cons (by decide)

theorem led_asText (h : ¬v.IsText) : Led v.asText.toList := by
  cases v with
  | null => exact led_cons (by decide)
  | bool b => cases b <;> exact led_cons (by decide)
  | int i => exact led_of_figures (figures_toString i)
  | float x => exact led_doubleText x
  | text s => exact absurd ⟨s, rfl⟩ h
  | bytes bs => exact led_bytesText bs
  | date d => exact led_of_figures (figures_dateText d)
  | moment m => exact led_of_figures (figures_momentText m)
  | list items => exact led_bracketed _
  | map entries => exact led_braced _
  | set items =>
    rw [asText, shown]
    · split
      · exact led_cons (by decide)
      · exact led_braced _
    all_goals nofun
  | pair a b =>
    rw [asText, shown]
    · simp only [String.toList_append, List.append_assoc]
      exact led_cons (by decide)
    all_goals nofun
  | enclosing levels =>
    rw [asText, shown, List.getElem?_nil]
    · exact led_cons (by decide)
    all_goals nofun

end Value

end MarkupAudit.Yaml
