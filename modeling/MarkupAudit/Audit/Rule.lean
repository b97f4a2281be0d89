import MarkupAudit.Markup.Element

/-! Rules: named checks of one element, each with a category and a severity. A finding may carry a
severity of its own. -/
namespace MarkupAudit

inductive Severity where
  | error
  | warn
  | info
  deriving DecidableEq, Repr

inductive Category where
  | accessibility
  | formSemantics
  | structuralSemantics
  deriving DecidableEq, Repr

def Severity.name : Severity → String
  | .error => "error"
  | .warn => "warn"
  | .info => "info"

def Severity.all : List Severity := [.error, .info, .warn]

def Severity.ofName? (name : String) : Option Severity :=
  Severity.all.find? (·.name == name)

def Category.name : Category → String
  | .accessibility => "accessibility"
  | .formSemantics => "form-semantics"
  | .structuralSemantics => "structural-semantics"

def Category.all : List Category := [.accessibility, .formSemantics, .structuralSemantics]

def Category.ofName? (name : String) : Option Category :=
  Category.all.find? (·.name == name)

structure RuleContext where
  element : Element
  source : String := ""

structure Finding where
  message : String
  severity : Option String := none
  deriving DecidableEq, Repr

/-- One finding of one rule against one element. The location is empty when it is unknown. -/
structure Violation where
  name : String
  category : String
  severity : String
  message : String
  location : String := ""
  deriving DecidableEq, Repr

/-- A detector gave up with a message. -/
structure DetectorFailure where
  message : String
  deriving DecidableEq, Repr

structure Rule where
  name : String
  description : String
  category : Category
  severity : Severity
  detect : RuleContext → Except DetectorFailure (Option Finding)

inductive RuleError where
  | emptyName
  | invalidSeverity (rule severity : String)
  | invalidCategory (rule category : String)
  deriving DecidableEq, Repr

def quotedList (words : List String) : String :=
  "[" ++ ", ".intercalate (words.map fun w => "'" ++ w ++ "'") ++ "]"

def RuleError.message : RuleError → String
  | .emptyName => "Rule name must not be empty"
  | .invalidSeverity rule severity =>
    "Rule '" ++ rule ++ "': invalid severity '" ++ severity ++ "', must be one of " ++
      quotedList (Severity.all.map Severity.name)
  | .invalidCategory rule category =>
    "Rule '" ++ rule ++ "': invalid category '" ++ category ++ "', must be one of " ++
      quotedList (Category.all.map Category.name)

namespace Rule

/-- A rule from its parts as text; the name is checked first, then the severity, then the
category. -/
def ofParts (name description category severity : String)
    (detect : RuleContext → Except DetectorFailure (Option Finding)) : Except RuleError Rule :=
  if name = "" then .error .emptyName
  else
    match Severity.ofName? severity with
    | none => .error (.invalidSeverity name severity)
    | some s =>
      match Category.ofName? category with
      | none => .error (.invalidCategory name category)
      | some c => .ok ⟨name, description, c, s, detect⟩

/-- The severity of a finding: its own, unless it has none or an empty one. -/
def severityOf (r : Rule) (f : Finding) : String :=
  match f.severity with
  | none => r.severity.name
  | some s => if s = "" then r.severity.name else s

def violation (r : Rule) (e : Element) (f : Finding) : Violation where
  name := r.name
  category := r.category.name
  severity := r.severityOf f
  message := f.message
  location := e.location

def check (r : Rule) (ctx : RuleContext) : Except DetectorFailure (Option Violation) :=
  (r.detect ctx).map fun finding? => finding?.map (r.violation ctx.element)

end Rule

/-- The violations of one element, in rule order. The first detector to give up ends the run. -/
def runRules (rules : List Rule) (ctx : RuleContext) : Except DetectorFailure (List Violation) :=
  match rules with
  | [] => .ok []
  | r :: rest =>
    match r.check ctx with
    | .error e => .error e
    | .ok found =>
      match runRules rest ctx with
      | .error e => .error e
      | .ok others => .ok (found.toList ++ others)

end MarkupAudit
