/-! Paths as slash-separated texts. Empty and `.` components are dropped; `..` is kept, because what
it leads to depends on the files. -/
namespace MarkupAudit

/-- The slashes in front are none, one, or exactly two. -/
structure FilePath where
  root : String
  parts : List String
  deriving DecidableEq, Repr

namespace FilePath

def rootOf (cs : List Char) : String :=
  match (cs.takeWhile (· == '/')).length with
  | 0 => ""
  | 2 => "//"
  | _ => "/"

def splitParts (s : String) : List String :=
  ((s.toList.splitOn '/').map String.ofList).filter fun part => part != "" && part != "."

def ofText (s : String) : FilePath :=
  ⟨rootOf s.toList, splitParts s⟩

def text (p : FilePath) : String :=
  if p.root == "" && p.parts.isEmpty then "."
  else p.root ++ "/".intercalate p.parts

def isAbsolute (p : FilePath) : Bool :=
  p.root != ""

def child (p : FilePath) (name : String) : FilePath :=
  ⟨p.root, p.parts ++ [name]⟩

def name (p : FilePath) : String :=
  p.parts.getLastD ""

/-- The last dot of the name and what follows it, unless the dot begins or ends the name. -/
def suffix (p : FilePath) : String :=
  let cs := p.name.toList
  let extension := (cs.reverse.takeWhile (· != '.')).reverse
  if extension.isEmpty || cs.length ≤ extension.length + 1 then ""
  else String.ofList ('.' :: extension)

end FilePath

end MarkupAudit
