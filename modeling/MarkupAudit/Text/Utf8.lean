/-! Reading bytes as UTF-8, one byte at a time. Each piece of the input is a character or the
longest start of one that the next byte, or the end, rules out; the strict reader stops at the first
such fault and the lenient one puts U+FFFD in its place. -/
namespace MarkupAudit.Text.Utf8

/-- A character begun: its bits and number of bytes so far, the bytes it owes, and the range that
the next of them must be in. -/
structure Pending where
  bits : Nat
  size : Nat
  owed : Nat
  low : UInt8
  high : UInt8

inductive Reason where
  | badStart
  | badContinuation
  | endOfData
  deriving DecidableEq, Repr

inductive Piece where
  | char (c : Char)
  | fault (size : Nat) (reason : Reason)
  deriving DecidableEq, Repr

def Piece.size : Piece → Nat
  | .char c => c.utf8Size
  | .fault size _ => size

/-- What the first byte of a character settles: a whole character, a character begun, or nothing. -/
inductive Start where
  | whole (c : Char)
  | begun (p : Pending)
  | bad

/-- The ranges of the second byte keep out long forms, surrogates and code points past U+10FFFF. -/
def start (b : UInt8) : Start :=
  let n := b.toNat
  if n < 0x80 then .whole (Char.ofNat n)
  else if n < 0xC2 then .bad
  else if n < 0xE0 then .begun ⟨n - 0xC0, 1, 1, 0x80, 0xBF⟩
  else if n < 0xF0 then
    .begun ⟨n - 0xE0, 1, 2, if n = 0xE0 then 0xA0 else 0x80, if n = 0xED then 0x9F else 0xBF⟩
  else if n < 0xF5 then
    .begun ⟨n - 0xF0, 1, 3, if n = 0xF0 then 0x90 else 0x80, if n = 0xF4 then 0x8F else 0xBF⟩
  else .bad

mutual

/-- The pieces of a byte sequence, from between two characters. -/
def pieces : List UInt8 → List Piece
  | [] => []
  | b :: bs =>
    match start b with
    | .whole c => .char c :: pieces bs
    | .begun p => piecesWithin p bs
    | .bad => .fault 1 .badStart :: pieces bs

def piecesWithin (p : Pending) : List UInt8 → List Piece
  | [] => [.fault p.size .endOfData]
  | b :: bs =>
    if p.low ≤ b && b ≤ p.high then
      let bits := p.bits * 64 + b.toNat % 64
      if p.owed ≤ 1 then .char (Char.ofNat bits) :: pieces bs
      else piecesWithin ⟨bits, p.size + 1, p.owed - 1, 0x80, 0xBF⟩ bs
    else
      .fault p.size .badContinuation ::
        match start b with
        | .whole c => .char c :: pieces bs
        | .begun q => piecesWithin q bs
        | .bad => .fault 1 .badStart :: pieces bs

end

/-- Where strict reading stops: the offset of the fault, its first byte and its extent. -/
structure Fault where
  offset : Nat
  byte : UInt8
  size : Nat
  reason : Reason
  deriving DecidableEq, Repr

def charsOrFault (offset : Nat) : List Piece → Except (Nat × Nat × Reason) (List Char)
  | [] => .ok []
  | .char c :: rest => (charsOrFault (offset + c.utf8Size) rest).map (c :: ·)
  | .fault size reason :: _ => .error (offset, size, reason)

def decodeChars (bs : List UInt8) : Except Fault (List Char) :=
  match charsOrFault 0 (pieces bs) with
  | .ok cs => .ok cs
  | .error (offset, size, reason) => .error ⟨offset, bs.getD offset 0, size, reason⟩

def decode (bs : List UInt8) : Except Fault String :=
  (decodeChars bs).map String.ofList

/-- The number of bytes at the end of a sequence of pieces that may be the start of a character. -/
def unfinished (ps : List Piece) : Nat :=
  match ps.getLast? with
  | some (.fault size .endOfData) => size
  | _ => 0

def decodePart (bs : List UInt8) : List Char × Option Fault :=
  match decodeChars bs with
  | .ok cs => (cs, none)
  | .error fault => ([], some fault)

/-- The characters of a byte sequence that arrives in parts of a given size, after some bytes left
over from earlier parts; they end before the first part that is at fault. Offsets count from the bytes
left over. -/
def decodeParts (size : Nat) : Nat → List UInt8 → List UInt8 → List Char × Option Fault
  | 0, left, _ => decodePart left
  | fuel + 1, left, bs =>
    if bs.isEmpty then decodePart left
    else
      let part := left ++ bs.take size
      let whole := part.length - unfinished (pieces part)
      match decodePart (part.take whole) with
      | (_, some fault) => ([], some fault)
      | (cs, none) =>
        let (more, fault?) := decodeParts size fuel (part.drop whole) (bs.drop size)
        (cs ++ more, fault?)

/-- The characters of a byte sequence with U+FFFD for every fault. -/
def decodeLenient (bs : List UInt8) : List Char :=
  (pieces bs).map fun
    | .char c => c
    | .fault _ _ => '\uFFFD'

def bytesOf (s : String) : Array UInt8 :=
  s.toUTF8.data

def encode (s : String) : List UInt8 :=
  (bytesOf s).toList

def Reason.text : Reason → String
  | .badStart => "invalid start byte"
  | .badContinuation => "invalid continuation byte"
  | .endOfData => "unexpected end of data"

def hexDigit (n : Nat) : Char :=
  if n < 10 then Char.ofNat (48 + n) else Char.ofNat (87 + n)

def hex (width n : Nat) : String :=
  String.ofList ((List.range width).reverse.map fun i => hexDigit (n / Nat.pow 16 i % 16))

def hexDigit? (c : Char) : Option Nat :=
  if c.isDigit then some (c.toNat - '0'.toNat)
  else if 'a' ≤ c && c ≤ 'f' then some (c.toNat - 'a'.toNat + 10)
  else if 'A' ≤ c && c ≤ 'F' then some (c.toNat - 'A'.toNat + 10)
  else none

def hexValue? (cs : List Char) : Option Nat :=
  cs.foldlM (fun n c => (hexDigit? c).map (16 * n + ·)) 0

def Fault.message (f : Fault) : String :=
  let what :=
    if f.size = 1 then
      "byte 0x" ++ hex 2 f.byte.toNat ++ " in position " ++ toString f.offset
    else
      "bytes in position " ++ toString f.offset ++ "-" ++ toString (f.offset + f.size - 1)
  "'utf-8' codec can't decode " ++ what ++ ": " ++ f.reason.text

end MarkupAudit.Text.Utf8
