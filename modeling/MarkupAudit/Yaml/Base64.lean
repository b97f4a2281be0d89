/-! Bytes written with 64 characters, six bits each. Characters that are not among them are passed
over. -/
namespace MarkupAudit.Yaml.Base64

def padChar : Char := '='

def sixBits? (c : Char) : Option Nat :=
  if 'A' ≤ c && c ≤ 'Z' then some (c.toNat - 'A'.toNat)
  else if 'a' ≤ c && c ≤ 'z' then some (c.toNat - 'a'.toNat + 26)
  else if c.isDigit then some (c.toNat - '0'.toNat + 52)
  else if c = '+' then some 62
  else if c = '/' then some 63
  else none

/-- The characters of a group of four so far, and the padding after them. -/
structure Group where
  bits : Nat := 0
  size : Nat := 0
  pads : Nat := 0

def Group.isPadded (g : Group) : Bool :=
  2 ≤ g.size && 4 ≤ g.size + g.pads

def Group.lastByte (g : Group) : List UInt8 :=
  match g.size with
  | 2 => [UInt8.ofNat (g.bits / 16)]
  | 3 => [UInt8.ofNat (g.bits / 4)]
  | 4 => [UInt8.ofNat g.bits]
  | _ => []

/-- Groups of four characters each; padding may complete the last one, and nothing is read after
it. -/
def decodeFrom (g : Group) : List Char → Option (List UInt8)
  | [] => if g.size = 0 then some [] else none
  | c :: rest =>
    if c = padChar then
      let g := if 2 ≤ g.size then { g with pads := g.pads + 1 } else g
      if g.isPadded then some [] else decodeFrom g rest
    else
      match sixBits? c with
      | none => decodeFrom g rest
      | some n =>
        let g : Group := ⟨g.bits * 64 + n, g.size + 1, 0⟩
        (decodeFrom (if g.size = 4 then {} else g) rest).map (g.lastByte ++ ·)

def decode? (cs : List Char) : Option (List UInt8) :=
  decodeFrom {} cs

end MarkupAudit.Yaml.Base64
