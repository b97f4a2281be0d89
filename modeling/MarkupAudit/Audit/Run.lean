import MarkupAudit.Audit.Catalog
import MarkupAudit.Audit.Result
import MarkupAudit.Audit.Score
import MarkupAudit.Markup.Walk
import MarkupAudit.Source.Parse

/-! An audit: every rule of a registry against every element of a tree, in document order, and the
score of what was found. Inputs that cannot be audited are kept apart from rules that give up. -/
namespace MarkupAudit

inductive AuditFailure where
  | input (error : MarkupError)
  | conversion (failure : ConversionFailure)
  | detector (failure : DetectorFailure)
  | score (failure : ScoreFailure)
  deriving DecidableEq, Repr

def AuditFailure.message : AuditFailure → String
  | input error => error.message
  | conversion failure => failure.message
  | detector failure => failure.message
  | score failure => failure.message

def AuditFailure.ofParse : ParseFailure → AuditFailure
  | .input e => .input e
  | .conversion e => .conversion e

def tallyElements (registry : Registry) (source : String) (tally : Tally) :
    List Element → Except DetectorFailure Tally
  | [] => .ok tally
  | e :: rest =>
    match runRules registry.rules ⟨e, source⟩ with
    | .error failure => .error failure
    | .ok found => tallyElements registry source (tally.extend found) rest

def auditedRecord (elements rules violations : Nat) : LogRecord :=
  ⟨.debug, .engine, "Audited " ++ toString elements ++ " element(s) with " ++ toString rules ++
    " rule(s): " ++ toString violations ++ " violation(s)"⟩

/-- The result for the violations found by a registry of the given size. -/
def AuditResult.ofViolations (rules : Nat) (violations : List Violation) :
    Except ScoreFailure AuditResult :=
  match MarkupAudit.score rules violations.length with
  | .error e => .error e
  | .ok s => .ok ⟨rules, rules - violations.length, violations, s⟩

def audit (registry : Registry) (root : Root) (source : String) :
    Logged (Except AuditFailure AuditResult) :=
  let elements := root.elements
  match tallyElements registry source .empty elements with
  | .error failure => ⟨.error (.detector failure), []⟩
  | .ok tally =>
    ⟨match AuditResult.ofViolations registry.size tally.violations with
      | .ok result => .ok result
      | .error failure => .error (.score failure),
      [auditedRecord elements.length registry.size tally.size]⟩

def auditSource (grammar : Grammar) (registry : Registry) (source : String) :
    Logged (Except AuditFailure AuditResult) :=
  ((parseSource grammar source).mapError .ofParse).bindOk fun document =>
    audit registry (.document document) source

def auditingRecord (path : FilePath) : LogRecord :=
  ⟨.debug, .engine, "Auditing " ++ path.text⟩

def auditFile (grammar : Grammar) (registry : Registry) (store : FileStore) (path : FilePath) :
    Logged (Except AuditFailure AuditResult) :=
  ((parseFile grammar store path).mapError .ofParse).bindOk fun (document, source) =>
    let run := audit registry (.document document) source
    ⟨run.value, auditingRecord path :: run.records⟩

end MarkupAudit
