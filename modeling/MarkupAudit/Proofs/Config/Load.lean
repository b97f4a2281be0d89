import MarkupAudit.Config.Load
import MarkupAudit.Proofs.Text.Utf8

/-! When the settings of a project cannot be loaded, and with what kind of failure. A failure is a
configuration error unless the path cannot be followed for its length, the bytes of the file are no
text, or a scalar in it has no value. -/
namespace MarkupAudit.Config

/-- Whether a computation fails with configuration errors only. -/
def FailsByConfig (x : Except ConfigFailure Config) : Prop :=
  ∀ failure, x = .error failure → ∃ e, failure = .config e

@[simp] theorem failsByConfig_ok (c : Config) : FailsByConfig (.ok c) := by
  intro failure h
  cases h

@[simp] theorem failsByConfig_error_iff {failure : ConfigFailure} :
    FailsByConfig (.error failure) ↔ ∃ e, failure = .config e := by
  constructor
  · intro h
    exact h failure rfl
  · intro h failure' hfailure
    cases hfailure
    exact h

/-- The file that settings are loaded from. -/
def filePath (path? : Option FilePath) (directory : FilePath) : FilePath :=
  path?.getD (directory.child fileName)

variable {yaml : Yaml.Loader} {path : FilePath}

theorem failsByConfig_ofStream_iff {s : Text.Stream} : FailsByConfig (ofStream yaml path s) ↔
    (∀ fault, yaml.load s ≠ .error (.document (.scalar fault))) ∧
      ∀ fault, yaml.load s ≠ .error (.undecodable fault) := by
  unfold ofStream
  cases yaml.load s with
  | error e =>
    cases e with
    | document fault => cases fault <;> simp
    | undecodable fault => simp
  | ok v =>
    dsimp only
    cases ofValue v <;> simp [Except.mapError]

theorem failsByConfig_ofStream_encode_iff {text : String} :
    FailsByConfig (ofStream yaml path (.ofBytes (Text.Utf8.encode text))) ↔
      ∀ fault, yaml.load ⟨String.ofList (Text.unifyNewlines text.toList), none⟩ ≠
        .error (.document (.scalar fault)) := by
  rw [failsByConfig_ofStream_iff, Text.Stream.ofBytes_encode]
  refine and_iff_left fun fault h => ?_
  cases yaml.fault?_of_undecodable _ _ h

/-- Of bytes that are no text the fault is met, unless loading gives up before it. -/
theorem failsByConfig_ofStream_broken_iff {bytes : List UInt8}
    (hbroken : ∀ text : String, bytes ≠ Text.Utf8.encode text) :
    FailsByConfig (ofStream yaml path (.ofBytes bytes)) ↔
      yaml.load (.ofBytes bytes) = .error (.document .malformed) := by
  have hfault : (Text.Stream.ofBytes bytes).fault? ≠ none := by
    rw [ne_eq, Text.Stream.fault?_ofBytes_eq_none_iff, not_exists]
    exact hbroken
  rw [failsByConfig_ofStream_iff]
  cases h : yaml.load (.ofBytes bytes) with
  | ok v => exact absurd (yaml.fault?_of_load _ _ h) hfault
  | error e =>
    cases e with
    | document fault => cases fault <;> simp
    | undecodable fault => simp

theorem failsByConfig_ofStream_ofBytes_iff {bytes : List UInt8} :
    FailsByConfig (ofStream yaml path (.ofBytes bytes)) ↔
      (∃ text : String, bytes = Text.Utf8.encode text ∧
        ∀ fault, yaml.load ⟨String.ofList (Text.unifyNewlines text.toList), none⟩ ≠
          .error (.document (.scalar fault))) ∨
      (∀ text : String, bytes ≠ Text.Utf8.encode text) ∧
        yaml.load (.ofBytes bytes) = .error (.document .malformed) := by
  by_cases htext : ∃ text : String, bytes = Text.Utf8.encode text
  · obtain ⟨text, rfl⟩ := htext
    rw [failsByConfig_ofStream_encode_iff]
    constructor
    · exact fun h => .inl ⟨text, rfl, h⟩
    · rintro (⟨text', htext', h⟩ | ⟨hbroken, -⟩)
      · rwa [Text.Utf8.encode_inj.1 htext']
      · exact absurd rfl (hbroken text)
  · have hbroken := not_exists.1 htext
    rw [failsByConfig_ofStream_broken_iff hbroken]
    constructor
    · exact fun h => .inr ⟨hbroken, h⟩
    · rintro (⟨text, htext', -⟩ | ⟨-, h⟩)
      · exact absurd htext' (hbroken text)
      · exact h

theorem failsByConfig_ofFile_iff {store : FileStore} {missing : Except ConfigFailure Config}
    (hmissing : FailsByConfig missing) :
    FailsByConfig (ofFile yaml store path missing) ↔ store.locate path ≠ .error .nameTooLong ∧
      ∀ place bytes, store.locate path = .ok (.file place bytes) →
        FailsByConfig (ofStream yaml path (.ofBytes bytes)) := by
  unfold ofFile
  split
  · rename_i place bytes hlocate
    simp [hlocate]
  · rename_i hlocate
    simp [hlocate]
  · rename_i hfile hlong
    simp only [hmissing, true_iff]
    exact ⟨hlong, fun place bytes hlocate => absurd hlocate (hfile place bytes)⟩

theorem failsByConfig_load_iff (store : FileStore) (path? : Option FilePath)
    (directory : FilePath) (yaml : Yaml.Loader) :
    FailsByConfig (load store path? directory yaml) ↔
      store.locate (filePath path? directory) ≠ .error .nameTooLong ∧
      ∀ place bytes, store.locate (filePath path? directory) = .ok (.file place bytes) →
        FailsByConfig (ofStream yaml (filePath path? directory) (.ofBytes bytes)) := by
  cases path? with
  | none => exact failsByConfig_ofFile_iff (failsByConfig_ok _)
  | some path => exact failsByConfig_ofFile_iff (failsByConfig_error_iff.2 ⟨_, rfl⟩)

/-- Loading fails with configuration errors only, if and only if the path is not too long to be
followed and the file it leads to, if any, holds the bytes of a text in which every scalar has a
value, or bytes that are no text and are given up before this shows. -/
theorem load_failsByConfig_iff (store : FileStore) (path? : Option FilePath)
    (directory : FilePath) (yaml : Yaml.Loader) :
    (∀ failure, load store path? directory yaml = .error failure → ∃ e, failure = .config e) ↔
      store.locate (filePath path? directory) ≠ .error .nameTooLong ∧
      ∀ place bytes, store.locate (filePath path? directory) = .ok (.file place bytes) →
        (∃ text : String, bytes = Text.Utf8.encode text ∧
          ∀ fault, yaml.load ⟨String.ofList (Text.unifyNewlines text.toList), none⟩ ≠
            .error (.document (.scalar fault))) ∨
        (∀ text : String, bytes ≠ Text.Utf8.encode text) ∧
          yaml.load (.ofBytes bytes) = .error (.document .malformed) := by
  refine (failsByConfig_load_iff store path? directory yaml).trans (and_congr_right' ?_)
  exact forall₃_congr fun place bytes _ => failsByConfig_ofStream_ofBytes_iff

def invalidStore : FileStore :=
  ⟨⟨"/", []⟩, [(["bad.yml"], .file [0xFF])]⟩

theorem load_invalidStore :
    load invalidStore (some ⟨"", ["bad.yml"]⟩) ⟨"/", []⟩ Yaml.loader =
      .error (.undecodable ⟨0, 0xFF, 1, .badStart⟩) ∧
    ¬∀ failure, load invalidStore (some ⟨"", ["bad.yml"]⟩) ⟨"/", []⟩ Yaml.loader =
      .error failure → ∃ e, failure = .config e := by
  have hload : load invalidStore (some ⟨"", ["bad.yml"]⟩) ⟨"/", []⟩ Yaml.loader =
      .error (.undecodable ⟨0, 0xFF, 1, .badStart⟩) := by
    decide +kernel
  refine ⟨hload, fun h => ?_⟩
  obtain ⟨e, he⟩ := h _ hload
  cases he

end MarkupAudit.Config
