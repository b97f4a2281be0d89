import MarkupAudit.Audit.Rule
import MarkupAudit.Text.Quoted

/-! Registries: ordered collections of rules with distinct names. Deriving a smaller registry keeps
the order, and fails on a name that is not registered. -/
namespace MarkupAudit

structure Registry where
  rules : List Rule

inductive RegistryError where
  | duplicateName (name : String)
  | unknownName (name : String)
  deriving DecidableEq, Repr

def RegistryError.message : RegistryError → String
  | duplicateName name => "Duplicate rule name '" ++ name ++ "'"
  | unknownName name => name

/-- The first name that occurred before, in the list or among those seen. -/
def firstRepeated (seen : List String) : List String → Option String
  | [] => none
  | name :: rest => if name ∈ seen then some name else firstRepeated (name :: seen) rest

namespace Registry

def ofRules (rules : List Rule) : Except RegistryError Registry :=
  match firstRepeated [] (rules.map Rule.name) with
  | some name => .error (.duplicateName name)
  | none => .ok ⟨rules⟩

def size (r : Registry) : Nat :=
  r.rules.length

def names (r : Registry) : List String :=
  r.rules.map Rule.name

def text (r : Registry) : String :=
  "RuleRegistry(" ++ Text.bracketed (r.names.map Text.quoted) ++ ")"

def contains (r : Registry) (name : String) : Bool :=
  r.names.contains name

def get? (r : Registry) (name : String) : Option Rule :=
  r.rules.find? (·.name == name)

def firstUnknown (r : Registry) (names : List String) : Option String :=
  names.find? fun name => !r.contains name

/-- The rules that a test on their names keeps, once all the names given are known. -/
def restrict (r : Registry) (names : List String) (keep : String → Bool) :
    Except RegistryError Registry :=
  match r.firstUnknown names with
  | some name => .error (.unknownName name)
  | none => ofRules (r.rules.filter fun rule => keep rule.name)

def without (r : Registry) (names : List String) : Except RegistryError Registry :=
  r.restrict names fun name => !names.contains name

def only (r : Registry) (names : List String) : Except RegistryError Registry :=
  r.restrict names names.contains

end Registry

end MarkupAudit
