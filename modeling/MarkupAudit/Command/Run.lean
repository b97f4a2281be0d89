import MarkupAudit.Audit.Run
import MarkupAudit.Command.Usage
import MarkupAudit.Config.Load
import MarkupAudit.Config.Rules
import MarkupAudit.Report.Terminal

/-! Running the command: the settings, the audit, the listing, and the report. Errors in the settings
or the input end the run before anything is written. -/
namespace MarkupAudit.Command

/-- Why a run breaks off without an exit of its own. -/
inductive Crash where
  | config (failure : ConfigFailure)
  | registry (error : RegistryError)
  | audit (failure : AuditFailure)
  deriving DecidableEq, Repr

def Crash.message : Crash → String
  | config failure => failure.message
  | registry error => error.message
  | audit failure => failure.message

structure Outcome where
  exitCode : Nat
  stdout : String := ""
  stderr : String := ""
  store : FileStore
  records : List LogRecord := []
  crash : Option Crash := none

def exitClean : Nat := 0

def exitFailure : Nat := 1

def exitUsage : Nat := 2

def failed (store : FileStore) (code : Nat) (message : String) : Outcome :=
  { exitCode := code, stderr := errorText message, store := store }

def crashed (store : FileStore) (crash : Crash) : Outcome :=
  { exitCode := exitFailure, store := store, crash := some crash }

def Outcome.after (records : List LogRecord) (o : Outcome) : Outcome :=
  { o with records := records ++ o.records }

def logThreshold (o : Options) : LogLevel :=
  if o.verbose then .debug else if o.quiet then .error else .warning

def outPath? (o : Options) (c : Config) : Option FilePath :=
  o.out.orElse fun _ => c.out

/-- The format asked for on the command line or in the settings, or else the one that the output path
stands for. -/
def format? (o : Options) (c : Config) : Option Report.Format :=
  match o.report.orElse fun _ => c.report with
  | some format => some format
  | none => (outPath? o c).map Report.Format.ofPath

def exitOf (o : Options) (r : AuditResult) : Nat :=
  if o.strict && !r.violations.isEmpty then exitFailure else exitClean

def listingText (o : Options) (r : AuditResult) : String :=
  if o.quiet then "" else Report.terminal r o.file.text false

def exportedText (o : Options) (path : FilePath) : String :=
  if o.quiet then "" else "\nReport exported to: " ++ path.text ++ "\n"

def finish (store : FileStore) (o : Options) (c : Config) (r : AuditResult) : Outcome :=
  let listing := listingText o r
  match format? o c with
  | none => { exitCode := exitOf o r, stdout := listing, store := store }
  | some format =>
    let run := Report.exportTo store r format (outPath? o c)
    match run.value with
    | .error e => { failed store exitFailure e.message with stdout := listing }
    | .ok (path, store) =>
      { exitCode := exitOf o r, stdout := listing ++ exportedText o path, store := store,
        records := run.records }

def auditAndFinish (grammar : Grammar) (store : FileStore) (o : Options) (c : Config) : Outcome :=
  let rules := c.enabledRules o.disabled
  Outcome.after rules.records <|
    match rules.value with
    | .error e => crashed store (.registry e)
    | .ok registry =>
      let run := auditFile grammar registry store o.file
      Outcome.after run.records <|
        match run.value with
        | .error (.input e) => failed store exitUsage e.message
        | .error failure => crashed store (.audit failure)
        | .ok result => finish store o c result

/-- An audit as the options ask for, with all its records. -/
def auditRun (grammar : Grammar) (store : FileStore) (o : Options) (yaml : Yaml.Loader) : Outcome :=
  match Config.load store o.config store.workingDirectory yaml with
  | .error (.config e) => failed store exitUsage e.message
  | .error failure => crashed store (.config failure)
  | .ok config => auditAndFinish grammar store o config

def runInvocation (grammar : Grammar) (store : FileStore) (invocation : Invocation)
    (yaml : Yaml.Loader) : Outcome :=
  match invocation with
  | .version => { exitCode := exitClean, stdout := versionText, store := store }
  | .help => { exitCode := exitClean, stdout := helpText, store := store }
  | .audit o =>
    let outcome := auditRun grammar store o yaml
    { outcome with records := LogRecord.atLeast (logThreshold o) outcome.records }

/-- Runs the command with its arguments on some files, given what its grammar makes of a source and
how a document is loaded. -/
def run (grammar : Grammar) (store : FileStore) (arguments : List String)
    (yaml : Yaml.Loader := Yaml.loader) : Outcome :=
  match Invocation.ofArguments store arguments with
  | .error e => { exitCode := exitUsage, stderr := e.text, store := store }
  | .ok invocation => runInvocation grammar store invocation yaml

end MarkupAudit.Command
