import MarkupAudit.Proofs.Report.JsonReader
import MarkupAudit.Report.Json

/-! The JSON report of a result is a JSON text, and the result can be rebuilt from the value that it
is read as. No message, whatever its characters, breaks out of its string. -/
namespace MarkupAudit.Report
open JsonText

mutual

/-- The value that a report value is written for. -/
def Json.value : Json → Value
  | .number n => .scalar (.number n)
  | .string s => .scalar (.string s)
  | .array items => .array (itemValues items)
  | .object members => .object (memberValues members)

def itemValues : List Json → List Value
  | [] => []
  | j :: items => j.value :: itemValues items

def memberValues : List (String × Json) → List (String × Value)
  | [] => []
  | (key, j) :: members => (key, j.value) :: memberValues members

end

/-! Strings. -/

theorem charSpelled_escapeChar (c : Char) : CharSpelled c (Json.escapeChar c) := by
  have hcontrol : ∀ n < 0x20, IsCodeUnit (Text.Utf8.hex 4 n).toList n := by
    unfold IsCodeUnit Text.Utf8.hex
    simp only [String.toList_ofList]
    decide
  have hcode : ∀ n : Nat, c.toNat = n → c = Char.ofNat n := fun n h => by
    rw [← h, Char.ofNat_toNat]
  unfold Json.escapeChar
  split
  · subst c; exact .short rfl
  split
  · subst c; exact .short rfl
  split
  · subst c; exact .short rfl
  split
  · subst c; exact .short rfl
  split
  · subst c; exact .short rfl
  split
  · rw [hcode 12 ‹_›]; exact .short rfl
  split
  · rw [hcode 8 ‹_›]; exact .short rfl
  split
  · exact .unit (hcontrol _ ‹_›)
  · exact .raw ‹_› ‹_› (Nat.le_of_not_lt ‹_›)

theorem charsSpelled_escaped (cs : List Char) : CharsSpelled cs (cs.flatMap Json.escapeChar) := by
  induction cs with
  | nil => exact .nil
  | cons c cs ih => exact .cons (charSpelled_escapeChar c) ih

theorem spelled_stringText (s : String) :
    (Scalar.string s).Spelled (Json.stringText s).toList := by
  rw [Json.stringText, String.toList_ofList]
  exact .string (charsSpelled_escaped s.toList)

/-! Numbers. -/

theorem head?_toDigits {n : Nat} (h : n ≠ 0) : (Nat.toDigits 10 n).head? ≠ some '0' := by
  induction n using Nat.strongRecOn with
  | ind n ih =>
    by_cases hn : n < 10
    · have hdigit : ∀ m < 10, m ≠ 0 → some m.digitChar ≠ some '0' := by decide
      rw [Nat.toDigits_of_lt_base hn]
      exact hdigit n hn h
    · have hquotient := ih (n / 10) (by omega) (by omega)
      rw [Nat.toDigits_of_base_le (by decide) (by omega)]
      cases hdigits : Nat.toDigits 10 (n / 10) with
      | nil => exact absurd hdigits Nat.toDigits_ne_nil
      | cons d ds => rwa [hdigits] at hquotient

def integerNumeral (n : Int) : Numeral :=
  ⟨n < 0, Nat.toDigits 10 n.natAbs, none, none⟩

theorem integerNumeral_wellFormed (n : Int) : (integerNumeral n).WellFormed where
  whole := ⟨Nat.toDigits_ne_nil, fun _ hc => Nat.isDigit_of_mem_toDigits (by decide) (by decide) hc⟩
  leading := by
    by_cases h : n.natAbs = 0
    · left
      rw [integerNumeral, h, Nat.toDigits_zero]
    · exact .inr (head?_toDigits h)
  fraction := by simp [integerNumeral]
  exponent := by simp [integerNumeral]

theorem chars_integerNumeral (n : Int) : (integerNumeral n).chars = (toString n).toList := by
  rw [Int.toString_eq_repr, Int.repr_eq_if]
  by_cases h : 0 ≤ n
  · have habs : n.toNat = n.natAbs := by omega
    simp [Numeral.chars, integerNumeral, fractionChars, exponentChars, h, habs, Int.not_lt.2 h]
  · have habs : (-n).toNat = n.natAbs := by omega
    simp [Numeral.chars, integerNumeral, fractionChars, exponentChars, h, habs, Int.not_le.1 h]

theorem value_integerNumeral (n : Int) : (integerNumeral n).value = n := by
  have hvalue : (integerNumeral n).value = (if n < 0 then -1 else 1) * (n.natAbs : Int) := by
    simp [Numeral.value, integerNumeral, digitsValue]
  rw [hvalue]
  split
  · have habs : (n.natAbs : Int) = -n := by omega
    rw [habs, Int.cast_neg, neg_one_mul, neg_neg]
  · have habs : (n.natAbs : Int) = n := by omega
    rw [habs, one_mul]

theorem spelled_integer (n : Int) : (Scalar.number n).Spelled (toString n).toList := by
  rw [← chars_integerNumeral, ← value_integerNumeral]
  exact .number (integerNumeral_wellFormed n)

/-! Layout. -/

theorem spaced_blanks {blank : List Char} (h : ∀ c ∈ blank, c ∈ blanks) {ts : List Token}
    {cs : List Char} (rest : Spaced ts cs) : Spaced ts (blank ++ cs) := by
  induction blank with
  | nil => exact rest
  | cons c blank ih =>
    exact .blank (h c List.mem_cons_self) (ih fun d hd => h d (List.mem_cons_of_mem c hd))

theorem spaced_lineStart (level : Nat) {ts : List Token} {cs : List Char} (rest : Spaced ts cs) :
    Spaced ts ((Json.lineStart level).toList ++ cs) := by
  apply spaced_blanks _ rest
  intro c hc
  have hc : c = '\n' ∨ c = ' ' := by
    simp only [Json.lineStart, String.toList_append, String.toList_ofList, List.mem_append] at hc
    exact hc.imp List.mem_singleton.1 List.eq_of_mem_replicate
  rcases hc with rfl | rfl <;> decide

theorem spaced_structural {t : Token} {c : Char} (h : structurals.lookup c = some t)
    {ts : List Token} {cs : List Char} (rest : Spaced ts cs) : Spaced (t :: ts) (c :: cs) :=
  .token (.structural h) rest

mutual

theorem spaced_textAt (level : Nat) {ts : List Token} {cs : List Char} (rest : Spaced ts cs) :
    ∀ j : Json, Spaced (j.value.tokens ++ ts) ((j.textAt level).toList ++ cs)
  | .number n => by
    rw [Json.value, Value.tokens, Json.textAt]
    exact .token (.scalar (spelled_integer n)) rest
  | .string s => by
    rw [Json.value, Value.tokens, Json.textAt]
    exact .token (.scalar (spelled_stringText s)) rest
  | .array [] => by
    rw [Json.value, itemValues, Value.tokens, Json.textAt]
    exact spaced_structural rfl (spaced_structural rfl rest)
  | .array (j :: items) => by
    rw [Json.value, itemValues, Value.tokens, Json.textAt]
    simp only [String.toList_append, List.append_assoc, List.cons_append, List.nil_append]
    exact spaced_structural rfl (spaced_lineStart _ (spaced_textAt _ (spaced_itemsText _
      (spaced_lineStart _ (spaced_structural rfl rest)) items) j))
  | .object [] => by
    rw [Json.value, memberValues, Value.tokens, Json.textAt]
    exact spaced_structural rfl (spaced_structural rfl rest)
  | .object ((key, j) :: members) => by
    rw [Json.value, memberValues, Value.tokens, Json.textAt]
    simp only [String.toList_append, List.append_assoc, List.cons_append, List.nil_append]
    exact spaced_structural rfl (spaced_lineStart _ (.token (.scalar (spelled_stringText key))
      (spaced_structural rfl (.blank (by decide) (spaced_textAt _ (spaced_membersText _
        (spaced_lineStart _ (spaced_structural rfl rest)) members) j)))))

theorem spaced_itemsText (level : Nat) {ts : List Token} {cs : List Char} (rest : Spaced ts cs) :
    ∀ items : List Json,
      Spaced (moreItems (itemValues items) ++ ts) ((Json.itemsText level items).toList ++ cs)
  | [] => by
    rw [itemValues, moreItems, Json.itemsText]
    exact rest
  | j :: items => by
    rw [itemValues, moreItems, Json.itemsText]
    simp only [String.toList_append, List.append_assoc, List.cons_append]
    exact spaced_structural rfl (spaced_lineStart _ (spaced_textAt _
      (spaced_itemsText _ rest items) j))

theorem spaced_membersText (level : Nat) {ts : List Token} {cs : List Char} (rest : Spaced ts cs) :
    ∀ members : List (String × Json),
      Spaced (moreMembers (memberValues members) ++ ts)
        ((Json.membersText level members).toList ++ cs)
  | [] => by
    rw [memberValues, moreMembers, Json.membersText]
    exact rest
  | (key, j) :: members => by
    rw [memberValues, moreMembers, Json.membersText]
    simp only [String.toList_append, List.append_assoc, List.cons_append]
    exact spaced_structural rfl (spaced_lineStart _ (.token (.scalar (spelled_stringText key))
      (spaced_structural rfl (.blank (by decide) (spaced_textAt _
        (spaced_membersText _ rest members) j)))))

end

theorem written_text (j : Json) : Written j.value j.text := by
  have h := spaced_textAt 0 .nil j
  rwa [List.append_nil, List.append_nil] at h

/-! Rebuilding results. -/

def integer? : Value → Option Int
  | .scalar (.number q) => if q.den = 1 then some q.num else none
  | _ => none

def string? : Value → Option String
  | .scalar (.string s) => some s
  | _ => none

/-- The violation that an object describes; without a location it is unknown. -/
def violationOf? : Value → Option Violation
  | .object members => do
    let name ← (members.lookup "name").bind string?
    let category ← (members.lookup "category").bind string?
    let severity ← (members.lookup "severity").bind string?
    let message ← (members.lookup "message").bind string?
    let location ← string? ((members.lookup "location").getD (.scalar (.string "")))
    some ⟨name, category, severity, message, location⟩
  | _ => none

def items? : Value → Option (List Value)
  | .array items => some items
  | _ => none

def resultOf? : Value → Option AuditResult
  | .object members => do
    let totalChecks ← (members.lookup "totalChecks").bind integer?
    let passedChecks ← (members.lookup "passedChecks").bind integer?
    let items ← (members.lookup "violations").bind items?
    let violations ← items.mapM violationOf?
    let score ← (members.lookup "score").bind integer?
    some ⟨totalChecks, passedChecks, violations, score⟩
  | _ => none

theorem integer?_number (n : Int) : integer? (.scalar (.number n)) = some n := by
  rw [integer?, if_pos (Rat.den_intCast n), Rat.num_intCast]

theorem violationOf?_value (v : Violation) : violationOf? (violationJson v).value = some v := by
  obtain ⟨name, category, severity, message, location⟩ := v
  by_cases h : location = ""
  · subst h
    rfl
  · rw [violationJson, if_neg h]
    rfl

theorem itemValues_map_violationJson (vs : List Violation) :
    (itemValues (vs.map violationJson)).mapM violationOf? = some vs := by
  induction vs with
  | nil => rfl
  | cons v vs ih =>
    rw [List.map_cons, itemValues, List.mapM_cons, violationOf?_value, ih]
    rfl

def resultMembers (r : AuditResult) : List (String × Value) :=
  memberValues [("totalChecks", .number r.totalChecks), ("passedChecks", .number r.passedChecks),
    ("violations", .array (r.violations.map violationJson)), ("score", .number r.score)]

theorem written_json (r : AuditResult) : Written (.object (resultMembers r)) (json r) :=
  written_text (resultJson r)

theorem resultOf?_resultMembers (r : AuditResult) :
    resultOf? (.object (resultMembers r)) = some r := by
  have hresult : resultOf? (.object (resultMembers r)) = (do
      let totalChecks ← integer? (.scalar (.number r.totalChecks))
      let passedChecks ← integer? (.scalar (.number r.passedChecks))
      let violations ← (itemValues (r.violations.map violationJson)).mapM violationOf?
      let score ← integer? (.scalar (.number r.score))
      some ⟨totalChecks, passedChecks, violations, score⟩) := rfl
  rw [hresult, integer?_number, integer?_number, integer?_number, itemValues_map_violationJson]
  rfl

/-- The JSON report of a result is a JSON text of one value only, and it is read as this value: an
object with the four members, in order, from which the result itself can be rebuilt. So no two
results have the same report. -/
theorem json_lossless :
    (∀ r : AuditResult, ∃ members, read (json r) = some (.object members) ∧
      (∀ v, Written v (json r) ↔ v = .object members) ∧
      members.map Prod.fst = ["totalChecks", "passedChecks", "violations", "score"] ∧
      resultOf? (.object members) = some r) ∧
    Function.Injective json := by
  have hread : ∀ r, read (json r) = some (.object (resultMembers r)) := fun r =>
    read_of_written (written_json r)
  constructor
  · intro r
    refine ⟨resultMembers r, hread r, fun v => ⟨fun h => written_unique h (written_json r), ?_⟩, rfl,
      resultOf?_resultMembers r⟩
    rintro rfl
    exact written_json r
  · intro r r' h
    have hsame : Value.object (resultMembers r) = .object (resultMembers r') := by
      rw [← Option.some_inj, ← hread, ← hread, h]
    rw [← Option.some_inj, ← resultOf?_resultMembers, hsame, resultOf?_resultMembers]

end MarkupAudit.Report
