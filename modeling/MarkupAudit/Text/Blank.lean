/-! The blank characters of running text, and text without the blanks at its ends. -/
namespace MarkupAudit.Text

/-- Tabs and line ends, the four information separators, the next-line control, and every Unicode
space or separator. The zero-width characters are not blank. -/
def isBlank (c : Char) : Bool :=
  let n := c.toNat
  (9 ≤ n && n ≤ 13) || (0x1C ≤ n && n ≤ 0x20) || n == 0x85 || n == 0xA0 || n == 0x1680 ||
    (0x2000 ≤ n && n ≤ 0x200A) || n == 0x2028 || n == 0x2029 || n == 0x202F || n == 0x205F ||
    n == 0x3000

def trimBlanks (cs : List Char) : List Char :=
  ((cs.dropWhile isBlank).reverse.dropWhile isBlank).reverse

def trim (s : String) : String :=
  String.ofList (trimBlanks s.toList)

def isAllBlank (s : String) : Bool :=
  s.toList.all isBlank

theorem trimBlanks_eq_nil_iff (cs : List Char) :
    trimBlanks cs = [] ↔ ∀ c ∈ cs, isBlank c = true := by
  induction cs with
  | nil => simp [trimBlanks]
  | cons c cs ih =>
    by_cases h : isBlank c = true
    · have hd : trimBlanks (c :: cs) = trimBlanks cs := by simp [trimBlanks, h]
      simp [hd, ih, h]
    · simp only [Bool.not_eq_true] at h
      simp [trimBlanks, h, List.dropWhile_append]
      split <;> simp_all

theorem trim_eq_empty_iff (s : String) : trim s = "" ↔ isAllBlank s = true := by
  rw [isAllBlank, List.all_eq_true, ← trimBlanks_eq_nil_iff, trim]
  constructor
  · intro h
    simpa using congrArg String.toList h
  · intro h
    simp [h]

end MarkupAudit.Text
