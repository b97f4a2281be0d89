import MarkupAudit.Text.Utf8

/-! The texts of files. A carriage return, alone or before a newline, is read as a newline. A text is
read in parts, so bytes that are no text are met only by a reader that comes so far. -/
namespace MarkupAudit.Text

def unifyNewlines : List Char → List Char
  | [] => []
  | '\r' :: '\n' :: cs => '\n' :: unifyNewlines cs
  | c :: cs => (if c = '\r' then '\n' else c) :: unifyNewlines cs

/-- What there is to read of a text, and the fault that reading on meets unless the text ends there. -/
structure Stream where
  text : String
  fault? : Option Utf8.Fault := none
  deriving DecidableEq, Repr

namespace Stream

def partSize : Nat := 8192

/-- A carriage return at the end of a part waits for the next part, which may begin with a newline. -/
def withoutReturn (cs : List Char) : List Char :=
  if cs.getLast? = some '\r' then cs.dropLast else cs

def ofBytes (bytes : List UInt8) : Stream :=
  match Utf8.decodeParts partSize (bytes.length + 1) [] bytes with
  | (cs, none) => { text := String.ofList (unifyNewlines cs) }
  | (cs, some fault) =>
    { text := String.ofList (unifyNewlines (withoutReturn cs)), fault? := some fault }

end Stream

end MarkupAudit.Text
