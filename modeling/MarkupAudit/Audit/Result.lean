import MarkupAudit.Audit.Rule

/-! The violations of one run: tallied as they are found, with how many there are of each kind, and as
a result with its views by severity. A count lists its keys in the order in which they first
occurred. -/
namespace MarkupAudit

/-- One more of a key; a new key goes to the end. -/
def bump (key : String) : List (String × Nat) → List (String × Nat)
  | [] => [(key, 1)]
  | (k, n) :: rest => if k = key then (k, n + 1) :: rest else (k, n) :: bump key rest

def countKeys (keys : List String) : List (String × Nat) :=
  keys.foldl (fun counts key => bump key counts) []

structure Tally where
  entries : Array Violation := #[]

namespace Tally

def empty : Tally := {}

def add (t : Tally) (v : Violation) : Tally :=
  ⟨t.entries.push v⟩

def extend (t : Tally) (vs : List Violation) : Tally :=
  ⟨t.entries.appendList vs⟩

def violations (t : Tally) : List Violation :=
  t.entries.toList

def size (t : Tally) : Nat :=
  t.entries.size

def countBySeverity (t : Tally) : List (String × Nat) :=
  countKeys (t.violations.map Violation.severity)

def countByCategory (t : Tally) : List (String × Nat) :=
  countKeys (t.violations.map Violation.category)

def countByRule (t : Tally) : List (String × Nat) :=
  countKeys (t.violations.map Violation.name)

@[simp] theorem violations_add (t : Tally) (v : Violation) :
    (t.add v).violations = t.violations ++ [v] := by
  simp [add, violations]

@[simp] theorem violations_extend (t : Tally) (vs : List Violation) :
    (t.extend vs).violations = t.violations ++ vs := by
  simp [extend, violations]

theorem size_eq (t : Tally) : t.size = t.violations.length := by
  simp [size, violations]

end Tally

/-- The number of checks passed may be negative; the score may not. -/
structure AuditResult where
  totalChecks : Int
  passedChecks : Int
  violations : List Violation
  score : Int
  deriving DecidableEq, Repr

structure SeverityCounts where
  errors : Nat
  warnings : Nat
  infos : Nat
  deriving DecidableEq, Repr

namespace AuditResult

def ofSeverity (r : AuditResult) (s : Severity) : List Violation :=
  r.violations.filter fun v => v.severity == s.name

def errors (r : AuditResult) : List Violation := r.ofSeverity .error

def warnings (r : AuditResult) : List Violation := r.ofSeverity .warn

def infos (r : AuditResult) : List Violation := r.ofSeverity .info

def summary (r : AuditResult) : SeverityCounts :=
  ⟨r.errors.length, r.warnings.length, r.infos.length⟩

end AuditResult

end MarkupAudit
