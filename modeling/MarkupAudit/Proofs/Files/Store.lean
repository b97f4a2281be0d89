import MarkupAudit.Files.Store

/-! What writing a text to a file does to the files: the path leads to a file with the text
afterwards, and every other place holds what it held. -/
namespace MarkupAudit.FileStore

variable {s t : FileStore} {place names here : List String} {target : Target}

/-- Whether one file differs after a text was written to it, and nothing else. -/
structure Written (before : FileStore) (path : FilePath) (text : String) (after : FileStore) :
    Prop where
  workingDirectory : after.workingDirectory = before.workingDirectory
  file : ∃ place, after.locate path = .ok (.file place (Text.Utf8.encode text)) ∧
    ∀ q ≠ place, after.entry? q = before.entry? q

end MarkupAudit.FileStore
