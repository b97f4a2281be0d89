import MarkupAudit.Source.Parse

/-! Reading a source whose tree is given: a document, a refusal at a fault, or a conversion that
fails where there is no fault. -/
namespace MarkupAudit

variable {grammar : Grammar} {source : String} {tree : SourceNode} {bytes : Array UInt8}
  {d : Document} {e : ParseFailure}

theorem Document.ofTree_eq_ok_iff :
    Document.ofTree bytes tree = .ok d ↔
      tree.hasError = false ∧ Conversion.convert bytes tree.outermostMarkup = .ok d.children := by
  unfold Document.ofTree
  cases tree.hasError with
  | true => simp
  | false =>
    cases Conversion.convert bytes tree.outermostMarkup with
    | error e => simp
    | ok children => cases d; simp

theorem conversion_of_ofTree_error (sound : tree.hasError = false) (h : Document.ofTree bytes tree = .error e) :
    ∃ failure, e = .conversion failure := by
  rw [Document.ofTree, if_neg (by simp [sound])] at h
  cases hconvert : Conversion.convert bytes tree.outermostMarkup with
  | ok children =>
    rw [hconvert] at h
    cases h
  | error failure =>
    rw [hconvert] at h
    exact ⟨failure, (Except.error.inj h).symm⟩

section
variable (parsed : grammar source = some tree)
include parsed

theorem value_parseSource :
    (parseSource grammar source).value = Document.ofTree (Text.Utf8.bytesOf source) tree := by
  unfold parseSource
  rw [parsed]
  dsimp only
  cases Document.ofTree (Text.Utf8.bytesOf source) tree <;> rfl

theorem parseSource_of_ofTree_error
    (h : Document.ofTree (Text.Utf8.bytesOf source) tree = .error e) :
    parseSource grammar source = ⟨.error e, []⟩ := by
  unfold parseSource
  rw [parsed]
  dsimp only
  rw [h]

end

theorem parseSource_eq_ok_iff : (parseSource grammar source).value = .ok d ↔
    ∃ tree, grammar source = some tree ∧
      Document.ofTree (Text.Utf8.bytesOf source) tree = .ok d := by
  constructor
  · intro h
    cases hparsed : grammar source with
    | none =>
      rw [parseSource, hparsed] at h
      cases h
    | some tree => exact ⟨tree, rfl, value_parseSource hparsed ▸ h⟩
  · rintro ⟨tree, hparsed, hd⟩
    rw [value_parseSource hparsed, hd]

end MarkupAudit
