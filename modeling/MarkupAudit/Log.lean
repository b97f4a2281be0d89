/-! Log records, and results that carry the records written on the way to them. -/
namespace MarkupAudit

inductive LogLevel where
  | debug
  | warning
  | error
  deriving DecidableEq, Repr

def LogLevel.name : LogLevel → String
  | .debug => "DEBUG"
  | .warning => "WARNING"
  | .error => "ERROR"

def LogLevel.rank : LogLevel → Nat
  | .debug => 0
  | .warning => 1
  | .error => 2

inductive LogSource where
  | config
  | parsing
  | engine
  | report
  deriving DecidableEq, Repr

structure LogRecord where
  level : LogLevel
  source : LogSource
  message : String
  deriving DecidableEq, Repr

def LogRecord.atLeast (threshold : LogLevel) (records : List LogRecord) : List LogRecord :=
  records.filter fun r => threshold.rank ≤ r.level.rank

structure Logged (α : Type) where
  value : α
  records : List LogRecord := []

namespace Logged

def map (f : α → β) (l : Logged α) : Logged β :=
  ⟨f l.value, l.records⟩

def bind (l : Logged α) (f : α → Logged β) : Logged β :=
  let next := f l.value
  ⟨next.value, l.records ++ next.records⟩

def bindOk (l : Logged (Except ε α)) (f : α → Logged (Except ε β)) : Logged (Except ε β) :=
  match l.value with
  | .ok a =>
    let next := f a
    ⟨next.value, l.records ++ next.records⟩
  | .error e => ⟨.error e, l.records⟩

def mapError (f : ε → δ) (l : Logged (Except ε α)) : Logged (Except δ α) :=
  ⟨l.value.mapError f, l.records⟩

end Logged

end MarkupAudit
