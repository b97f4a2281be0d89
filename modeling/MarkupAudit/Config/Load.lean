import MarkupAudit.Config.Settings
import MarkupAudit.Files.Store
import MarkupAudit.Yaml.Document

/-! Loading the settings of a project from a file, by any way to load a document. Files that are
missing or say something else are configuration errors; bytes that are no text and scalars that have
no value are not turned into them. -/
namespace MarkupAudit

inductive ConfigError where
  | fileNotFound (path : FilePath)
  | malformed (path : FilePath)
  | settings (path : FilePath) (error : SettingsError)
  deriving DecidableEq, Repr

inductive ConfigFailure where
  | config (error : ConfigError)
  | inaccessible (error : OsError)
  | undecodable (fault : Text.Utf8.Fault)
  | scalar (fault : Yaml.ScalarFault)
  deriving DecidableEq, Repr

def SettingsError.message : SettingsError → String
  | notAMapping => "top level must be a mapping"
  | disabledRulesNotAList => "disabled_rules must be a list"
  | unknownFormat name =>
    "invalid report format '" ++ name ++ "', must be one of " ++ Report.formatNames

def ConfigError.message : ConfigError → String
  | fileNotFound path => "Config file not found: " ++ path.text
  | malformed path => "Invalid config " ++ path.text ++ ": <yaml error>"
  | settings path error => path.text ++ ": " ++ error.message

def ConfigFailure.message : ConfigFailure → String
  | config error => error.message
  | inaccessible error => error.message
  | undecodable fault => fault.message
  | scalar fault => fault.message

namespace Config

def fileName : String := ".uxray.yml"

def ofStream (yaml : Yaml.Loader) (path : FilePath) (s : Text.Stream) :
    Except ConfigFailure Config :=
  match yaml.load s with
  | .error (.document .malformed) => .error (.config (.malformed path))
  | .error (.document (.scalar fault)) => .error (.scalar fault)
  | .error (.undecodable fault) => .error (.undecodable fault)
  | .ok v => (ofValue v).mapError fun e => .config (.settings path e)

/-- The settings in a file, or what to do where there is none. -/
def ofFile (yaml : Yaml.Loader) (store : FileStore) (path : FilePath)
    (missing : Except ConfigFailure Config) : Except ConfigFailure Config :=
  match store.locate path with
  | .ok (.file _ bytes) => ofStream yaml path (.ofBytes bytes)
  | .error .nameTooLong => .error (.inaccessible ⟨.nameTooLong, path⟩)
  | _ => missing

/-- The settings in the file given, which has to be there, or in the usual file of a directory,
which need not. -/
def load (store : FileStore) (path? : Option FilePath) (directory : FilePath)
    (yaml : Yaml.Loader := Yaml.loader) : Except ConfigFailure Config :=
  match path? with
  | some path => ofFile yaml store path (.error (.config (.fileNotFound path)))
  | none => ofFile yaml store (directory.child fileName) (.ok {})

end Config

end MarkupAudit
