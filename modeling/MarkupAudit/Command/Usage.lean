import MarkupAudit.Command.Invocation

/-! The texts that tell how the command is used. -/
namespace MarkupAudit.Command

def programName : String := "uxray"

def programVersion : String := "0.3.0"

def versionText : String :=
  programName ++ ", version " ++ programVersion ++ "\n"

def usageLine : String :=
  "Usage: " ++ programName ++ " [OPTIONS] FILE\n"

def lines (ls : List String) : String :=
  String.join (ls.map (· ++ "\n"))

def helpText : String :=
  usageLine ++ lines [
    "",
    "  Audit the JSX/TSX markup in FILE for accessibility issues.",
    "",
    "  Exit codes: 0 = clean or violations without --strict, 1 = violations with",
    "  --strict or report export failure, 2 = usage, input or configuration error.",
    "",
    "Options:",
    "  --version           Show the version and exit.",
    "  --report [json|md]  Export the report in this format.",
    "  --out FILE          Report output path (default: uxray-report.<format>).",
    "  --config FILE       Config file (default: .uxray.yml in the current",
    "                      directory).",
    "  --disable RULE      Disable a rule by name (repeatable).",
    "  --strict            Exit 1 if violations found.",
    "  -v, --verbose       Verbose output.",
    "  -q, --quiet         Minimal output (errors only).",
    "  --help              Show this message and exit."]

def suggestionText (similar : List String) : String :=
  let names := ", ".intercalate (similar.map Text.quoted)
  match similar with
  | [] => ""
  | [_] => " Did you mean " ++ names ++ "?"
  | _ => " (Did you mean one of: " ++ names ++ "?)"

def WordError.message : WordError → String
  | unknownOption name similar =>
    "No such option " ++ Text.quoted name ++ "." ++ suggestionText similar
  | missingValue flag => "Option " ++ Text.quoted flag.word ++ " requires an argument."
  | unwantedValue flag => "Option " ++ Text.quoted flag.word ++ " does not take a value."

def UsageError.message : UsageError → String
  | words e => e.message
  | unknownFormat name =>
    "Invalid value for '--report': " ++ Text.quoted name ++ " is not one of " ++
      ", ".intercalate (Report.Format.all.map fun f => Text.quoted f.name) ++ "."
  | directory parameter value =>
    "Invalid value for " ++ Text.quoted parameter ++ ": File " ++ Text.quoted value ++
      " is a directory."
  | missingFile => "Missing argument " ++ Text.quoted Invocation.fileParameter ++ "."
  | extraOperands operands =>
    "Got unexpected extra argument" ++ (if operands.length = 1 then "" else "s") ++ " (" ++
      " ".intercalate operands ++ ")"

/-- Errors about the value of an option are told without the usage lines. -/
def UsageError.showsUsage : UsageError → Bool
  | words (.missingValue _) | words (.unwantedValue _) => false
  | _ => true

def errorText (message : String) : String :=
  "Error: " ++ message ++ "\n"

def UsageError.text (e : UsageError) : String :=
  (if e.showsUsage then
    usageLine ++ "Try '" ++ programName ++ " --help' for help.\n\n"
  else "") ++ errorText e.message

end MarkupAudit.Command
