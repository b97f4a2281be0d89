import MarkupAudit.Files.Store
import MarkupAudit.Log
import MarkupAudit.Report.Json

/-! Reports in files. Results are written as JSON, or as Markdown: a header with the score, and a
section for each violation. -/
namespace MarkupAudit.Report

def markdownEntry (number : Nat) (v : Violation) : String :=
  "### " ++ toString number ++ ". " ++ v.message ++ "\n- **Type**: " ++ v.category ++
    "\n- **Severity**: " ++ v.severity ++ "\n"

def markdownEntries (number : Nat) : List Violation → List String
  | [] => []
  | v :: vs => markdownEntry number v :: markdownEntries (number + 1) vs

def noViolationsLine : String := "✅ No violations found!"

def markdownBody (vs : List Violation) : String :=
  if vs.isEmpty then noViolationsLine else "\n".intercalate (markdownEntries 1 vs)

/-- Two blanks at the end of a line break it within the header. -/
def markdownHeader (r : AuditResult) : String :=
  "# UXRay Audit Report\n\n**Score**: " ++ toString r.score ++ "  \n**Passed Checks**: " ++
    toString r.passedChecks ++ " / " ++ toString r.totalChecks ++ "  \n**Violations**: " ++
    toString r.violations.length ++ "\n\n"

def markdown (r : AuditResult) : String :=
  markdownHeader r ++ markdownBody r.violations ++ "\n"

inductive Format where
  | json
  | markdown
  deriving DecidableEq, Repr

def Format.name : Format → String
  | .json => "json"
  | .markdown => "md"

def Format.all : List Format := [.json, .markdown]

structure UnknownFormat where
  name : String
  deriving DecidableEq, Repr

def formatNames : String :=
  Text.bracketed (Format.all.map fun f => Text.quoted f.name)

def UnknownFormat.message (e : UnknownFormat) : String :=
  "Unknown report format '" ++ e.name ++ "', must be one of " ++ formatNames

def Format.ofName (name : String) : Except UnknownFormat Format :=
  match Format.all.find? (·.name == name) with
  | some f => .ok f
  | none => .error ⟨name⟩

def render (r : AuditResult) : Format → String
  | .json => json r
  | .markdown => markdown r

structure ExportError where
  path : FilePath
  error : OsError
  deriving DecidableEq, Repr

def ExportError.message (e : ExportError) : String :=
  "Cannot write report to " ++ e.path.text ++ ": " ++ e.error.message

def markdownSuffixes : List String := [".md", ".markdown"]

/-- The Kelvin sign is the only character beyond ASCII with a small letter in ASCII. -/
def smallLetter (c : Char) : Char :=
  if c = '\u212A' then 'k' else c.toLower

def Format.ofPath (path : FilePath) : Format :=
  if markdownSuffixes.contains (path.suffix.map smallLetter) then .markdown else .json

/-- The name of the format to export in: the one asked for, whatever it is, else the one that the
output path stands for. Without either nothing is exported. -/
def formatName? (asked? : Option String) (out? : Option FilePath) : Option String :=
  match asked? with
  | some name => some name
  | none => out?.map fun path => (Format.ofPath path).name

def defaultPath (format : String) : FilePath :=
  .ofText ("uxray-report." ++ format)

/-- Writes a report; the path that it went to, and the files with the report among them. -/
def exportTo (store : FileStore) (r : AuditResult) (format : Format) (out? : Option FilePath) :
    Logged (Except ExportError (FilePath × FileStore)) :=
  let path := out?.getD (defaultPath format.name)
  match store.writeText path (render r format) with
  | .error e => ⟨.error ⟨path, e⟩, []⟩
  | .ok store =>
    ⟨.ok (path, store),
      [⟨.debug, .report, "Wrote " ++ format.name ++ " report to " ++ path.text⟩]⟩

end MarkupAudit.Report
