import MarkupAudit.Command.Option
import MarkupAudit.Report.Export

/-! What a command line asks for. Requests for the version or for help come before everything else;
then the options are looked at in the order they were given, and last the operand. -/
namespace MarkupAudit.Command

structure Options where
  file : FilePath
  report : Option Report.Format := none
  out : Option FilePath := none
  config : Option FilePath := none
  disabled : List String := []
  strict : Bool := false
  verbose : Bool := false
  quiet : Bool := false
  deriving DecidableEq, Repr

inductive Invocation where
  | version
  | help
  | audit (options : Options)
  deriving DecidableEq, Repr

inductive UsageError where
  | words (error : WordError)
  | unknownFormat (name : String)
  | directory (parameter : String) (value : String)
  | missingFile
  | extraOperands (operands : List String)
  deriving DecidableEq, Repr

namespace Invocation

def fileParameter : String := "FILE"

/-- A path that may lead to anything but a directory. The empty text is not a path to one. -/
def checkPath (store : FileStore) (parameter value : String) : Except UsageError Unit :=
  if value ≠ "" ∧ store.isDirectory (.ofText value) then .error (.directory parameter value) else .ok ()

def checkFlag (store : FileStore) (w : Words) (flag : Flag) : Except UsageError Unit :=
  match w.value? flag with
  | none => .ok ()
  | some value =>
    match flag with
    | .report =>
      match Report.Format.ofName value with
      | .ok _ => .ok ()
      | .error e => .error (.unknownFormat e.name)
    | .out | .config => checkPath store flag.word value
    | _ => .ok ()

def checkFlags (store : FileStore) (w : Words) : List Flag → Except UsageError Unit
  | [] => .ok ()
  | flag :: rest => do
    checkFlag store w flag
    checkFlags store w rest

def auditOptions (w : Words) (file : String) : Options where
  file := .ofText file
  report := (w.value? .report).bind fun name => (Report.Format.ofName name).toOption
  out := (w.value? .out).map .ofText
  config := (w.value? .config).map .ofText
  disabled := w.values .disable
  strict := w.has .strict
  verbose := w.has .verbose
  quiet := w.has .quiet

def information? (w : Words) : Option Invocation :=
  w.flags.findSome? fun flag =>
    match flag with
    | .version => some version
    | .help => some help
    | _ => none

def ofWords (store : FileStore) (w : Words) : Except UsageError Invocation := do
  match information? w with
  | some request => return request
  | none =>
    checkFlags store w w.flags
    match w.operands with
    | [] => throw .missingFile
    | file :: extra =>
      checkPath store fileParameter file
      if !extra.isEmpty then throw (.extraOperands extra)
      return audit (auditOptions w file)

def ofArguments (store : FileStore) (arguments : List String) : Except UsageError Invocation :=
  match Words.ofArguments arguments with
  | .error e => .error (.words e)
  | .ok w => ofWords store w

end Invocation

end MarkupAudit.Command
