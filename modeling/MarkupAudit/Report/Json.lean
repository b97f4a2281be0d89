import MarkupAudit.Audit.Result
import MarkupAudit.Text.Utf8

/-! Results as JSON: values with ordered members, written over several lines with two spaces for
each level of nesting. -/
namespace MarkupAudit.Report

inductive Json where
  | number (n : Int)
  | string (s : String)
  | array (items : List Json)
  | object (members : List (String × Json))

namespace Json

def escapeChar (c : Char) : List Char :=
  if c = '\x22' then ['\\', '\x22']
  else if c = '\\' then ['\\', '\\']
  else if c = '\n' then ['\\', 'n']
  else if c = '\r' then ['\\', 'r']
  else if c = '\t' then ['\\', 't']
  else if c.toNat = 12 then ['\\', 'f']
  else if c.toNat = 8 then ['\\', 'b']
  else if c.toNat < 0x20 then "\\u".toList ++ (Text.Utf8.hex 4 c.toNat).toList
  else [c]

def stringText (s : String) : String :=
  String.ofList ('\x22' :: s.toList.flatMap escapeChar ++ ['\x22'])

def lineStart (level : Nat) : String :=
  "\n" ++ String.ofList (List.replicate (2 * level) ' ')

mutual

/-- The text of a value whose first line begins at a level of nesting. -/
def textAt (level : Nat) : Json → String
  | .number n => toString n
  | .string s => stringText s
  | .array [] => "[]"
  | .array (j :: items) =>
    "[" ++ lineStart (level + 1) ++ j.textAt (level + 1) ++ itemsText (level + 1) items ++
      lineStart level ++ "]"
  | .object [] => "\x7b\x7d"
  | .object ((key, j) :: members) =>
    "\x7b" ++ lineStart (level + 1) ++ stringText key ++ ": " ++ j.textAt (level + 1) ++
      membersText (level + 1) members ++ lineStart level ++ "\x7d"

def itemsText (level : Nat) : List Json → String
  | [] => ""
  | j :: items => "," ++ lineStart level ++ j.textAt level ++ itemsText level items

def membersText (level : Nat) : List (String × Json) → String
  | [] => ""
  | (key, j) :: members =>
    "," ++ lineStart level ++ stringText key ++ ": " ++ j.textAt level ++ membersText level members

end

def text (j : Json) : String := j.textAt 0

end Json

/-- A location is a member only if it is known. -/
def violationJson (v : Violation) : Json :=
  .object (
    [("name", .string v.name), ("category", .string v.category), ("severity", .string v.severity),
      ("message", .string v.message)] ++
    if v.location = "" then [] else [("location", .string v.location)])

def resultJson (r : AuditResult) : Json :=
  .object [("totalChecks", .number r.totalChecks), ("passedChecks", .number r.passedChecks),
    ("violations", .array (r.violations.map violationJson)), ("score", .number r.score)]

def json (r : AuditResult) : String :=
  (resultJson r).text

end MarkupAudit.Report
