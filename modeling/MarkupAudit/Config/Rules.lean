import MarkupAudit.Audit.Catalog
import MarkupAudit.Config.Settings
import MarkupAudit.Log

/-! The rules that are left when some are disabled. Names that no rule has are reported and left
aside, so that settings made for a larger catalog still load. -/
namespace MarkupAudit

def unknownRuleRecord (name : String) : LogRecord :=
  ⟨.warning, .config, "Unknown rule '" ++ name ++ "' in disabled rules, ignoring"⟩

/-- The rules that the names read so far disable, and the records about the other names. -/
structure Disabled where
  known : List String := []
  records : List LogRecord := []

def Disabled.read (d : Disabled) (name : String) : Disabled :=
  if name ∈ Catalog.registry.names then
    if name ∈ d.known then d else { d with known := d.known ++ [name] }
  else { d with records := d.records ++ [unknownRuleRecord name] }

def Disabled.ofNames (names : List String) : Disabled :=
  names.foldl read {}

def enabledRules (disabled : List String) : Logged (Except RegistryError Registry) :=
  let d := Disabled.ofNames disabled
  ⟨Catalog.registry.without d.known, d.records⟩

def Config.enabledRules (c : Config) (more : List String) : Logged (Except RegistryError Registry) :=
  MarkupAudit.enabledRules (c.disabledRules ++ more)

/-- The same where there may be no settings. -/
def rulesLeft (config? : Option Config) (more : List String) :
    Logged (Except RegistryError Registry) :=
  match config? with
  | none => enabledRules more
  | some c => c.enabledRules more

end MarkupAudit
