import MarkupAudit.Report.Export
import MarkupAudit.Yaml.Value

/-! The settings of a project, and how a document says them. A document is a mapping or nothing;
values that are no texts are taken by the texts that they are written as. -/
namespace MarkupAudit

structure Config where
  disabledRules : List String := []
  report : Option Report.Format := none
  out : Option FilePath := none
  deriving DecidableEq, Repr

/-- Why a document holds no settings. -/
inductive SettingsError where
  | notAMapping
  | disabledRulesNotAList
  | unknownFormat (name : String)
  deriving DecidableEq, Repr

namespace Config

/-- The value of a setting; a setting that is null is not given. -/
def setting? (document : Yaml.Value) (name : String) : Option Yaml.Value :=
  match document.entry? name with
  | some .null | none => none
  | some v => some v

def disabledRulesOf : Option Yaml.Value → Except SettingsError (List String)
  | none => .ok []
  | some v =>
    match v.items? with
    | some items => .ok (items.map Yaml.Value.asText)
    | none => .error .disabledRulesNotAList

def reportOf : Option Yaml.Value → Except SettingsError (Option Report.Format)
  | none => .ok none
  | some v =>
    match Report.Format.ofName v.asText with
    | .ok format => .ok (some format)
    | .error e => .error (.unknownFormat e.name)

def outOf (v : Option Yaml.Value) : Option FilePath :=
  v.map fun v => .ofText v.asText

def ofValue : Yaml.Value → Except SettingsError Config
  | .null => .ok {}
  | .map entries => do
    let document := Yaml.Value.map entries
    let disabled ← disabledRulesOf (setting? document "disabled_rules")
    let report ← reportOf (setting? document "report")
    return ⟨disabled, report, outOf (setting? document "out")⟩
  | _ => .error .notAMapping

end Config

end MarkupAudit
