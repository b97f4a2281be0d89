import MarkupAudit.Proofs.Audit.File
import MarkupAudit.Proofs.Text.LineEnds
import MarkupAudit.Proofs.Text.Utf8

/-! The audit of a file and the audit of its text. They come to the same result and to the same
failure of a rule; a text that is refused is refused in its file with the path in front. A file with
no text is refused before there is anything to audit. -/
namespace MarkupAudit

theorem FileStore.readText_eq_ok_iff {s : FileStore} {p : FilePath} {source : String} :
    s.readText p = .ok source ↔ ∃ content : String,
      s.readBytes p = .ok (Text.Utf8.encode content) ∧
      source = String.ofList (Text.unifyNewlines content.toList) := by
  simp only [Text.Utf8.encode_eq, readText]
  cases hbytes : s.readBytes p with
  | error e => simp
  | ok bytes =>
    dsimp only
    cases hchars : Text.Utf8.decodeChars bytes with
    | error fault =>
      have hnone : ∀ content : String, bytes ≠ Text.Utf8.encodeChars content.toList := by
        intro content heq
        rw [Text.Utf8.decodeChars_eq_ok_iff.2 heq] at hchars
        cases hchars
      simp [hnone]
    | ok cs =>
      obtain rfl := Text.Utf8.decodeChars_eq_ok_iff.1 hchars
      constructor
      · rintro ⟨⟩
        exact ⟨String.ofList cs, by rw [String.toList_ofList], by rw [String.toList_ofList]⟩
      · rintro ⟨content, hcontent, rfl⟩
        have heq := Text.Utf8.decodeChars_eq_ok_iff.2 (Except.ok.inj hcontent)
        rw [hchars] at heq
        rw [Except.ok.inj heq]

variable {grammar : Grammar} {registry : Registry} {store : FileStore} {path : FilePath}
  {source : String}

theorem readSource_eq_ok_iff : readSource store path = .ok source ↔ ∃ content : String,
    store.readBytes path = .ok (Text.Utf8.encode content) ∧
    source = String.ofList (Text.unifyNewlines content.toList) := by
  rw [← FileStore.readText_eq_ok_iff, readSource]
  split <;> simp [*]

def AuditFailure.inFile (path : FilePath) : AuditFailure → AuditFailure
  | input e => input (e.inFile path)
  | failure => failure

theorem AuditFailure.inFile_eq_input_iff {failure : AuditFailure} {e : MarkupError} :
    failure.inFile path = .input e ↔ ∃ e', failure = .input e' ∧ e'.inFile path = e := by
  cases failure <;> simp [inFile]

theorem AuditFailure.inFile_eq_iff {failure failure' : AuditFailure}
    (h : ∀ e, failure' ≠ .input e) : failure.inFile path = failure' ↔ failure = failure' := by
  cases failure with
  | input e => simp [inFile, (h _).symm]
  | conversion failure => rfl
  | detector failure => rfl
  | score failure => rfl

theorem mapError_inFile_audit (path : FilePath) (registry : Registry) (root : Root)
    (source : String) : (audit registry root source).value.mapError (AuditFailure.inFile path) =
      (audit registry root source).value := by
  cases h : (audit registry root source).value with
  | ok r => rfl
  | error failure =>
    have hinput : ∀ e, failure ≠ .input e := by
      rintro e rfl
      exact audit_ne_input h
    exact congrArg Except.error ((AuditFailure.inFile_eq_iff hinput).2 rfl)

theorem value_auditFile_eq (hsource : readSource store path = .ok source) :
    (auditFile grammar registry store path).value =
      (auditSource grammar registry source).value.mapError (AuditFailure.inFile path) := by
  cases hd : (parseSource grammar source).value with
  | ok d =>
    rw [value_auditFile hsource hd, auditSource_of_parseSource_ok hd, mapError_inFile_audit]
  | error failure =>
    rw [auditSource_of_parseSource_error hd]
    unfold auditFile parseFile Logged.bindOk Logged.mapError
    simp only [hsource, hd]
    cases failure <;> rfl

theorem malformed_of_parseSource {e : MarkupError}
    (h : (parseSource grammar source).value = .error (.input e)) :
    ∃ position, e = .malformed position := by
  cases hparsed : grammar source with
  | none =>
    rw [parseSource, hparsed] at h
    cases h
    exact ⟨none, rfl⟩
  | some tree =>
    rw [value_parseSource hparsed] at h
    cases herror : tree.hasError with
    | false =>
      obtain ⟨failure, hfailure⟩ := conversion_of_ofTree_error herror h
      cases hfailure
    | true =>
      rw [Document.ofTree, if_pos herror] at h
      cases h
      exact ⟨_, rfl⟩

theorem auditFile_eq_input_iff (hsource : readSource store path = .ok source) {e : MarkupError} :
    (auditFile grammar registry store path).value = .error (.input e) ↔
      ∃ position, e = .malformedFile path position ∧
        (auditSource grammar registry source).value = .error (.input (.malformed position)) := by
  rw [value_auditFile_eq hsource, Outcome.mapError_eq_error_iff]
  simp only [AuditFailure.inFile_eq_input_iff]
  constructor
  · rintro ⟨-, h, e', rfl, rfl⟩
    obtain ⟨position, rfl⟩ := malformed_of_parseSource (auditSource_eq_input_iff.1 h)
    exact ⟨position, rfl, h⟩
  · rintro ⟨position, rfl, h⟩
    exact ⟨_, h, _, rfl, rfl⟩

/-- Whether the audit of a file ends as that of a text does: with the same result, refused with the
same message after the path, or with the same failure of another kind, such as that of a rule. -/
structure EndsAlike (grammar : Grammar) (registry : Registry) (store : FileStore) (path : FilePath)
    (source : String) : Prop where
  result : ∀ r, (auditFile grammar registry store path).value = .ok r ↔
    (auditSource grammar registry source).value = .ok r
  refusal : ∀ message, (∃ e, (auditFile grammar registry store path).value = .error (.input e) ∧
      e.message = path.text ++ ": " ++ message) ↔
    ∃ e, (auditSource grammar registry source).value = .error (.input e) ∧ e.message = message
  refused : ∀ e, (auditFile grammar registry store path).value = .error (.input e) →
    ∃ message, e.message = path.text ++ ": " ++ message
  failure : ∀ failure, (∀ e, failure ≠ .input e) →
    ((auditFile grammar registry store path).value = .error failure ↔
      (auditSource grammar registry source).value = .error failure)

theorem endsAlike_of_readSource (hsource : readSource store path = .ok source) :
    EndsAlike grammar registry store path source where
  result r := by
    rw [value_auditFile_eq hsource, Outcome.mapError_eq_ok_iff]
  refusal message := by
    simp only [auditFile_eq_input_iff hsource]
    constructor
    · rintro ⟨-, ⟨position, rfl, h⟩, hmessage⟩
      exact ⟨_, h, (String.append_right_inj _).1 hmessage⟩
    · rintro ⟨e, h, rfl⟩
      obtain ⟨position, rfl⟩ := malformed_of_parseSource (auditSource_eq_input_iff.1 h)
      exact ⟨_, ⟨position, rfl, h⟩, rfl⟩
  refused e h := by
    obtain ⟨position, rfl, -⟩ := (auditFile_eq_input_iff hsource).1 h
    exact ⟨_, rfl⟩
  failure failure h := by
    rw [value_auditFile_eq hsource, Outcome.mapError_eq_error_iff]
    simp only [AuditFailure.inFile_eq_iff h, exists_eq_right]

/-- A file is audited as its text is, once line ends are unified, whatever its rules do. A file that
holds no text, or is none, is refused, and neither the grammar nor any rule plays a part in that. So
a text without carriage returns is audited alike in all files that hold it, in whichever way they
end its lines. -/
theorem auditFile_endsAlike (grammar : Grammar) (registry : Registry) (store : FileStore)
    (path : FilePath) :
    (∀ content : String, store.readBytes path = .ok (Text.Utf8.encode content) →
      EndsAlike grammar registry store path
        (String.ofList (Text.unifyNewlines content.toList))) ∧
    ((∀ content : String, store.readBytes path ≠ .ok (Text.Utf8.encode content)) →
      ∃ e, ∀ grammar registry, auditFile grammar registry store path = ⟨.error (.input e), []⟩) ∧
    ∀ (text : String) (ending : Text.LineEnd), '\r' ∉ text.toList →
      store.readBytes path = .ok (Text.Utf8.encode (ending.writeText text)) →
      EndsAlike grammar registry store path text ∧
      ∀ (store' : FileStore) (path' : FilePath) (ending' : Text.LineEnd),
        store'.readBytes path' = .ok (Text.Utf8.encode (ending'.writeText text)) →
        ∀ r, (auditFile grammar registry store path).value = .ok r ↔
          (auditFile grammar registry store' path').value = .ok r := by
  have hwritten : ∀ (text : String) (ending : Text.LineEnd) (store : FileStore) (path : FilePath),
      '\r' ∉ text.toList →
      store.readBytes path = .ok (Text.Utf8.encode (ending.writeText text)) →
      EndsAlike grammar registry store path text := by
    intro text ending store path hreturn hbytes
    refine endsAlike_of_readSource (readSource_eq_ok_iff.2 ⟨_, hbytes, ?_⟩)
    rw [Text.LineEnd.writeText, String.toList_ofList, Text.unifyNewlines_write ending hreturn,
      String.ofList_toList]
  refine ⟨?_, ?_, ?_⟩
  · intro content hbytes
    exact endsAlike_of_readSource (readSource_eq_ok_iff.2 ⟨content, hbytes, rfl⟩)
  · intro hbytes
    cases hsource : readSource store path with
    | ok source =>
      obtain ⟨content, hcontent, -⟩ := readSource_eq_ok_iff.1 hsource
      exact absurd hcontent (hbytes content)
    | error e =>
      refine ⟨e, fun grammar registry => ?_⟩
      unfold auditFile parseFile
      rw [hsource]
      rfl
  · intro text ending hreturn hbytes
    have halike := hwritten text ending store path hreturn hbytes
    refine ⟨halike, fun store' path' ending' hbytes' r => ?_⟩
    exact (halike.result r).trans ((hwritten text ending' store' path' hreturn hbytes').result r).symm

def blankLinesText : String :=
  "\n\n<p/>"

def thirdLineNode : SourceNode :=
  ⟨2, "jsx_self_closing_element", 2, 6, true, none, false, false, [
    Conversion.token 3 2 "<",
    ⟨4, "identifier", 3, 4, true, some "name", false, false, []⟩,
    Conversion.token 5 4 "/>"]⟩

def blankLinesMarkup : SourceNode :=
  ⟨0, "program", 0, 6, true, none, false, false, [
    ⟨1, "expression_statement", 2, 6, true, none, false, false, [thirdLineNode]⟩]⟩

def blankLinesDocument : Document :=
  ⟨[.element { tag := "p", line := some 3, column := some 1 }]⟩

def blankLinesResult : AuditResult :=
  ⟨3, 2, [⟨"both", "accessibility", "warn", "found p", "3:1"⟩], 67⟩

/-- One text with its lines ended in two ways, and bytes that are no text. -/
def lineEndStore : FileStore :=
  ⟨⟨"/", []⟩, [(["pair.tsx"], .file (Text.Utf8.encode "\r\n\r\n<p/>")),
    (["return.tsx"], .file (Text.Utf8.encode "\r\r<p/>")), (["bytes.tsx"], .file [0xC3])]⟩

def blankLinesGrammar : Grammar :=
  fun source => if source = blankLinesText then some blankLinesMarkup else none

theorem parseSource_blankLinesText :
    (parseSource blankLinesGrammar blankLinesText).value = .ok blankLinesDocument := by
  have distinct : blankLinesMarkup.DistinctIds := by
    unfold SourceNode.DistinctIds
    decide
  have named : blankLinesMarkup.AttributesNamed := by
    unfold SourceNode.AttributesNamed
    decide
  have houtermost : blankLinesMarkup.outermostMarkup = [thirdLineNode] := by
    simp [SourceNode.outermostMarkup, blankLinesMarkup, SourceNode.collectMarkup,
      SourceNode.isMarkup, thirdLineNode]
  have hnodes : blankLinesMarkup.outermostMarkup.mapM
      (SourceNode.nodeIn (Text.Utf8.bytesOf blankLinesText)) = .ok blankLinesDocument.children := by
    rw [houtermost, List.mapM_cons, SourceNode.nodeIn, if_neg (by decide), SourceNode.elementIn_eq]
    rfl
  have hroots : ∀ r ∈ blankLinesMarkup.outermostMarkup,
      r ∈ blankLinesMarkup.nodes ∧ r.isContainer :=
    fun r hr => SourceNode.isContainer_of_mem_outermostMarkup hr
  refine parseSource_eq_ok_iff.2 ⟨blankLinesMarkup, if_pos rfl, Document.ofTree_eq_ok_iff.2 ⟨rfl, ?_⟩⟩
  exact Conversion.convert_eq_of_recursion distinct named hroots hnodes

theorem elements_blankLinesDocument : (Root.document blankLinesDocument).elements =
    [{ tag := "p", line := some 3, column := some 1 }] := by
  rw [Root.elements_eq]
  rfl

theorem auditSource_blankLinesText :
    (auditSource blankLinesGrammar tagRegistry blankLinesText).value = .ok blankLinesResult := by
  have hscore : score 3 1 = .ok 67 := by
    have hpoints : points (share 3 1) = 67 := by decide +kernel
    rw [score_eq_ok_points (by decide) (by decide) (by decide), hpoints]
  rw [auditSource_of_parseSource_ok parseSource_blankLinesText]
  refine audit_eq_ok_iff.2 ⟨⟨blankLinesResult.violations.toArray⟩, 67, ?_, hscore, rfl⟩
  rw [elements_blankLinesDocument]
  rfl

theorem auditSource_blankLinesText_alarm :
    (auditSource blankLinesGrammar alarmRegistry blankLinesText).value =
      .error (.detector ⟨"outer on p"⟩) := by
  rw [auditSource_of_parseSource_ok parseSource_blankLinesText, audit_eq_detector_iff,
    elements_blankLinesDocument]
  refine ⟨[_, _], _, _, _, rfl, ?_, rfl⟩
  exact List.forall_mem_cons.2 ⟨⟨_, rfl⟩, List.forall_mem_singleton.2 ⟨_, rfl⟩⟩

theorem auditFile_endsAlike_lineEndStore :
    '\r' ∉ blankLinesText.toList ∧
    lineEndStore.readBytes ⟨"", ["pair.tsx"]⟩ =
      .ok (Text.Utf8.encode (Text.LineEnd.returnNewline.writeText blankLinesText)) ∧
    lineEndStore.readBytes ⟨"", ["return.tsx"]⟩ =
      .ok (Text.Utf8.encode (Text.LineEnd.carriageReturn.writeText blankLinesText)) ∧
    (∀ content, lineEndStore.readBytes ⟨"", ["bytes.tsx"]⟩ ≠ .ok (Text.Utf8.encode content)) ∧
    (auditFile blankLinesGrammar tagRegistry lineEndStore ⟨"", ["pair.tsx"]⟩).value =
      .ok blankLinesResult ∧
    (auditFile blankLinesGrammar tagRegistry lineEndStore ⟨"", ["return.tsx"]⟩).value =
      .ok blankLinesResult ∧
    (auditFile blankLinesGrammar alarmRegistry lineEndStore ⟨"", ["return.tsx"]⟩).value =
      .error (.detector ⟨"outer on p"⟩) ∧
    (∃ e, (auditFile (fun _ => none) tagRegistry lineEndStore ⟨"", ["pair.tsx"]⟩).value =
      .error (.input e) ∧ e.message = "pair.tsx: Syntax error") ∧
    ∃ e, ∀ grammar registry, auditFile grammar registry lineEndStore ⟨"", ["bytes.tsx"]⟩ =
      ⟨.error (.input e), []⟩ := by
  have hreturn : '\r' ∉ blankLinesText.toList := by decide
  have hpair : lineEndStore.readBytes ⟨"", ["pair.tsx"]⟩ =
      .ok (Text.Utf8.encode (Text.LineEnd.returnNewline.writeText blankLinesText)) := by
    decide +kernel
  have hsingle : lineEndStore.readBytes ⟨"", ["return.tsx"]⟩ =
      .ok (Text.Utf8.encode (Text.LineEnd.carriageReturn.writeText blankLinesText)) := by
    decide +kernel
  have hbytes : ∀ content,
      lineEndStore.readBytes ⟨"", ["bytes.tsx"]⟩ ≠ .ok (Text.Utf8.encode content) := by
    intro content h
    have hfile : lineEndStore.readBytes ⟨"", ["bytes.tsx"]⟩ = .ok [0xC3] := by decide +kernel
    have hfault : Text.Utf8.decodeChars [0xC3] ≠ .ok content.toList := by
      intro hdecoded
      have herror : (Text.Utf8.decodeChars [0xC3]).toOption = none := by decide
      rw [hdecoded] at herror
      cases herror
    rw [hfile, Text.Utf8.encode_eq] at h
    exact hfault (Text.Utf8.decodeChars_eq_ok_iff.2 (Except.ok.inj h))
  obtain ⟨-, -, htagged⟩ :=
    auditFile_endsAlike blankLinesGrammar tagRegistry lineEndStore ⟨"", ["pair.tsx"]⟩
  obtain ⟨-, -, halarmed⟩ :=
    auditFile_endsAlike blankLinesGrammar alarmRegistry lineEndStore ⟨"", ["return.tsx"]⟩
  obtain ⟨hread, -, -⟩ :=
    auditFile_endsAlike (fun _ => none) tagRegistry lineEndStore ⟨"", ["pair.tsx"]⟩
  obtain ⟨-, hunread, -⟩ :=
    auditFile_endsAlike blankLinesGrammar tagRegistry lineEndStore ⟨"", ["bytes.tsx"]⟩
  obtain ⟨halike, hsame⟩ := htagged _ .returnNewline hreturn hpair
  have hresult := (halike.result _).2 auditSource_blankLinesText
  have hfailure := ((halarmed _ .carriageReturn hreturn hsingle).1.failure _ (by simp)).2
    auditSource_blankLinesText_alarm
  have hrefusal := ((hread _ hpair).refusal "Syntax error").2
    ⟨.malformed none, rfl, rfl⟩
  exact ⟨hreturn, hpair, hsingle, hbytes, hresult, (hsame _ _ .carriageReturn hsingle _).1 hresult,
    hfailure, hrefusal, hunread hbytes⟩

end MarkupAudit
