import MarkupAudit.Audit.Result
import MarkupAudit.Report.Layout
import MarkupAudit.Text.Emoji

/-! Results for a terminal: a title in a rule across the screen, the counts, and the violations with
the most severe ones first. -/
namespace MarkupAudit.Report

def screenWidth : Nat := 100

def severityRank (severity : String) : Nat :=
  match Severity.ofName? severity with
  | some .error => 2
  | some .warn => 1
  | _ => 0

/-- The violations in the order of the listing: by severity, and as they were found within one. -/
def listing (violations : List Violation) : List Violation :=
  violations.mergeSort fun a b => severityRank b.severity ≤ severityRank a.severity

def severityMark (severity : String) : String × Style :=
  match Severity.ofName? severity with
  | some .error => ("✗", .red)
  | some .warn => ("⚠", .yellow)
  | some .info => ("ℹ", .cyan)
  | none => ("?", .white)

def scoreStyle (score : Int) : Style :=
  if 90 ≤ score then .boldGreen else if 50 ≤ score then .boldYellow else .boldRed

def replaceEmoji (s : String) : String :=
  String.ofList (Text.Emoji.replaceCodes s.toList)

/-- The title with its codes replaced, on one line, cut to the screen less two cells at each end. -/
def titleText (target : String) : List Char :=
  let title := if target = "" then "UXRay Audit Report" else "UXRay Audit Report for " ++ target
  let line := styled [(replaceEmoji title, .bold)]
  let oneLine := line.map fun c => if c.char = '\n' then { c with char := ' ' } else c
  let expanded := Line.expandTabs 0 oneLine
  if expanded.cells ≤ screenWidth - 4 then expanded.chars
  else (Line.crop (screenWidth - 5) expanded).chars ++ ['…']

def titleRule (title : List Char) : Line :=
  let left := (screenWidth - Text.cellsOf title) / 2 - 1
  let bar (n : Nat) := String.ofList (List.replicate n '─')
  Line.crop screenWidth (styled [
    (bar left ++ " ", .blue),
    (String.ofList title, .bold),
    (" " ++ bar screenWidth, .blue)])

def padEnd (width : Nat) (s : String) : String :=
  s ++ String.ofList (List.replicate (width - s.length) ' ')

def violationHead (v : Violation) : List (String × Style) :=
  let (mark, style) := severityMark v.severity
  let head := [("  ", .plain), (mark ++ " " ++ padEnd 5 v.severity, style), (" " ++ v.name, .bold)]
  head ++ if v.location = "" then [] else [(" [" ++ v.location ++ "]", .dim)]

def violationLines (v : Violation) : List Line :=
  [styled (violationHead v), styled [("      " ++ replaceEmoji v.message, .plain)]]

def summaryLines (r : AuditResult) : List Line :=
  let counts := r.summary
  [styled [("  Score: ", .bold), (toString r.score, scoreStyle r.score), (" / 100", .plain)],
    styled [("  Passed Checks: " ++ toString r.passedChecks ++ " / " ++ toString r.totalChecks,
      .plain)],
    styled [("  Violations: " ++ toString r.violations.length ++ " (" ++ toString counts.errors ++
      " errors, " ++ toString counts.warnings ++ " warnings, " ++ toString counts.infos ++ " info)",
      .plain)],
    []]

def violationsLines (violations : List Violation) : List Line :=
  if violations.isEmpty then [styled [("  ", .plain), ("✓ No violations found", .green)]]
  else (listing violations).flatMap violationLines

def shown (color : Bool) (lines : List Line) : String :=
  String.join ((lines.flatMap (Line.wrap screenWidth)).map (Line.text color))

def terminal (r : AuditResult) (target : String) (color : Bool) : String :=
  shown color (titleRule (titleText target) :: summaryLines r ++ violationsLines r.violations)

end MarkupAudit.Report
