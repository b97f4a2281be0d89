import MarkupAudit.Text.EntityTable

/-! Character references in running text. A named reference that is unknown may begin with a legacy
name, which is then replaced; any other reference that stands for nothing stays as it is. -/
namespace MarkupAudit.Text.Entity

def isHexDigit (c : Char) : Bool :=
  c.isDigit || ('a' ≤ c && c ≤ 'f') || ('A' ≤ c && c ≤ 'F')

def digitValue (c : Char) : Nat :=
  if c.isDigit then c.toNat - 48
  else if 'a' ≤ c && c ≤ 'f' then c.toNat - 87
  else c.toNat - 55

def number (base : Nat) (digits : List Char) : Nat :=
  digits.foldl (fun n c => n * base + digitValue c) 0

/-- What the code points 0x80 to 0x9F stand for: the characters of windows-1252, and themselves
where it has none. -/
def windows1252 : Array Nat := #[
  0x20AC, 0x81, 0x201A, 0x0192, 0x201E, 0x2026, 0x2020, 0x2021, 0x02C6, 0x2030, 0x0160, 0x2039,
  0x0152, 0x8D, 0x017D, 0x8F, 0x90, 0x2018, 0x2019, 0x201C, 0x201D, 0x2022, 0x2013, 0x2014,
  0x02DC, 0x2122, 0x0161, 0x203A, 0x0153, 0x9D, 0x017E, 0x0178]

/-- Control characters without a use in text, and the code points that are no characters. -/
def isUnusable (n : Nat) : Bool :=
  (1 ≤ n && n ≤ 8) || n == 0xB || (0xE ≤ n && n ≤ 0x1F) || n == 0x7F ||
    (0xFDD0 ≤ n && n ≤ 0xFDEF) || n % 0x10000 == 0xFFFE || n % 0x10000 == 0xFFFF

def numeric (n : Nat) : List Char :=
  if n = 0 then ['\uFFFD']
  else if 0x80 ≤ n && n ≤ 0x9F then [Char.ofNat (windows1252.getD (n - 0x80) 0)]
  else if (0xD800 ≤ n && n ≤ 0xDFFF) || 0x10FFFF < n then ['\uFFFD']
  else if isUnusable n then []
  else [Char.ofNat n]

def isNameChar (c : Char) : Bool :=
  !(['\t', '\n', '\x0C', ' ', '<', '&', '#', ';'].contains c)

/-- The longest legacy name among the first `n` characters, at least two of them, with what stands
for it and the rest. -/
def replaceLegacy (name : List Char) : Nat → Option (List Char)
  | 0 => none
  | n + 1 =>
    if n + 1 < 2 then none
    else
      match legacy[String.ofList (name.take (n + 1))]? with
      | some s => some (s.toList ++ name.drop (n + 1))
      | none => replaceLegacy name n

def replaceName (name : List Char) (closed : Bool) : List Char :=
  let whole := if closed then named[String.ofList name]? else legacy[String.ofList name]?
  match whole with
  | some s => s.toList
  | none =>
    let tail := if closed then [';'] else []
    match replaceLegacy name (if closed then name.length else name.length - 1) with
    | some cs => cs ++ tail
    | none => '&' :: name ++ tail

def closing : List Char → Nat
  | ';' :: _ => 1
  | _ => 0

/-- The reference that begins after an ampersand: what stands for it and how many characters it
takes. -/
def reference? : List Char → Option (List Char × Nat)
  | '#' :: rest =>
    let digits := rest.takeWhile Char.isDigit
    if digits ≠ [] then
      some (numeric (number 10 digits), 1 + digits.length + closing (rest.drop digits.length))
    else
      match rest with
      | x :: rest =>
        let digits := rest.takeWhile isHexDigit
        if (x == 'x' || x == 'X') && digits ≠ [] then
          some (numeric (number 16 digits), 2 + digits.length + closing (rest.drop digits.length))
        else none
      | [] => none
  | rest =>
    let name := (rest.take 32).takeWhile isNameChar
    if name = [] then none
    else
      let n := closing (rest.drop name.length)
      some (replaceName name (n == 1), name.length + n)

def unescapeChars : List Char → List Char
  | [] => []
  | c :: cs =>
    if c = '&' then
      match reference? cs with
      | some (replacement, n) => replacement ++ unescapeChars (cs.drop n)
      | none => c :: unescapeChars cs
    else c :: unescapeChars cs
termination_by cs => cs.length
decreasing_by
  · rw [List.length_drop, List.length_cons]
    omega
  · exact Nat.lt_succ_self _
  · exact Nat.lt_succ_self _

def unescape (s : String) : String :=
  String.ofList (unescapeChars s.toList)

end MarkupAudit.Text.Entity
