import MarkupAudit.Text.Printable
import MarkupAudit.Text.Utf8

/-! A text between quotes, with escapes for what a reader could not see or would take for the end. -/
namespace MarkupAudit.Text

/-- The quote that a text is put between: a double one only if the text holds single quotes and no
double ones. -/
def quoteFor (cs : List Char) : Char :=
  if cs.contains '\x27' && !cs.contains '\x22' then '\x22' else '\x27'

def escapeCode (c : Char) : String :=
  let n := c.toNat
  if n < 0x100 then "\\x" ++ Utf8.hex 2 n
  else if n < 0x10000 then "\\u" ++ Utf8.hex 4 n
  else "\\U" ++ Utf8.hex 8 n

def escapeChar (quote c : Char) : String :=
  if c = quote || c = '\\' then String.ofList ['\\', c]
  else if c = '\t' then "\\t"
  else if c = '\n' then "\\n"
  else if c = '\r' then "\\r"
  else if isPrintable c then c.toString
  else escapeCode c

def quoted (s : String) : String :=
  let q := quoteFor s.toList
  q.toString ++ String.join (s.toList.map (escapeChar q)) ++ q.toString

def bracketed (items : List String) : String :=
  "[" ++ ", ".intercalate items ++ "]"

end MarkupAudit.Text
