import MarkupAudit.Command.Run
import MarkupAudit.Grammar.Tsx

/-! The command on the files of this machine. Only the files that the arguments and the settings name
are looked at; the run itself is a function of them. -/
namespace MarkupAudit

def placeText (place : List String) : String :=
  "/" ++ "/".intercalate place

def observeAt (store : FileStore) (place : List String) : IO FileStore := do
  let path := (← IO.currentDir) / placeText place
  if ← path.isDir then return store.makeDirectories place
  else if ← path.pathExists then
    return store.withFile place (← IO.FS.readBinFile path).toList
  else return store

def placesOnWay (parts : List String) : List (List String) :=
  parts.foldl (fun done part =>
    let here := done.headD []
    (if part = ".." then here.dropLast else here ++ [part]) :: done) []

/-- Takes what is on the way to a path into the store. -/
def observe (store : FileStore) (path : FilePath) : IO FileStore :=
  (placesOnWay (store.placeOf path)).reverse.foldlM observeAt store

def namedPaths (arguments : List String) : List FilePath :=
  match Command.Words.ofArguments arguments with
  | .error _ => []
  | .ok w => (w.operands ++ w.values .out ++ w.values .config).map .ofText

def settingsPath (store : FileStore) (arguments : List String) : List FilePath :=
  match Command.Invocation.ofArguments store arguments with
  | .ok (.audit o) =>
    match Config.load store o.config store.workingDirectory Yaml.loader with
    | .ok config => config.out.toList
    | .error _ => []
  | _ => []

/-- The part of the files of this machine that a run depends on. -/
def observeFiles (arguments : List String) : IO FileStore := do
  let home := FilePath.ofText (← IO.currentDir).toString
  let store ← (home.child Config.fileName :: namedPaths arguments).foldlM observe
    { workingDirectory := home }
  (settingsPath store arguments).foldlM observe store

def writeChanges (before after : FileStore) : IO Unit :=
  (after.changedSince before).forM fun (place, bytes) =>
    IO.FS.writeBinFile (placeText place) ⟨bytes.toArray⟩

def runOnFiles (arguments : List String) : IO UInt32 := do
  let store ← observeFiles arguments
  let outcome := Command.run Grammar.tsx store arguments Yaml.loader
  for r in outcome.records do
    IO.eprintln (Report.padEnd 8 r.level.name ++ " " ++ r.message)
  writeChanges store outcome.store
  IO.print outcome.stdout
  IO.eprint (outcome.stderr ++ (outcome.crash.map fun c => Command.errorText c.message).getD "")
  return outcome.exitCode.toUInt32

end MarkupAudit

def main (arguments : List String) : IO UInt32 :=
  MarkupAudit.runOnFiles arguments
