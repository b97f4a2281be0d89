import MarkupAudit.Command.Run
import MarkupAudit.Proofs.Audit.File
import MarkupAudit.Proofs.Config.Settings
import MarkupAudit.Proofs.Files.Store

/-! How a run of the command ends. Wrong settings and inputs end it with a message before anything is
printed or written; a result is listed, and reported in the one format that is asked for, if any. The
only file that a run writes is that report. -/
namespace MarkupAudit

namespace Command
variable {grammar : Grammar} {store : FileStore} {arguments : List String} {w : Words}
  {o : Options} {yaml : Yaml.Loader}

/-! What the words of a command line ask for. -/

/-- Whether a run comes to a result, with some settings. -/
structure Audited (grammar : Grammar) (store : FileStore) (o : Options) (yaml : Yaml.Loader)
    (c : Config) (r : AuditResult) : Prop where
  loaded : Config.load store o.config store.workingDirectory yaml = .ok c
  audited : ∃ registry, (c.enabledRules o.disabled).value = .ok registry ∧
    (auditFile grammar registry store o.file).value = .ok r

def verdict (o : Options) (r : AuditResult) : Nat :=
  if o.strict ∧ r.violations ≠ [] then 1 else 0

theorem exitOf_eq_verdict (o : Options) (r : AuditResult) : exitOf o r = verdict o r := by
  unfold exitOf verdict exitFailure exitClean
  cases r.violations <;> simp

theorem exists_records_run (grammar : Grammar) (yaml : Yaml.Loader)
    (parsed : Invocation.ofArguments store arguments = .ok (.audit o)) :
    ∃ records, run grammar store arguments yaml =
      { auditRun grammar store o yaml with records := records } := by
  rw [run, parsed]
  exact ⟨_, rfl⟩

theorem exists_records_auditRun {c : Config} {r : AuditResult}
    (h : Audited grammar store o yaml c r) :
    ∃ records, auditRun grammar store o yaml = { finish store o c r with records := records } := by
  obtain ⟨loaded, registry, enabled, audited⟩ := h
  rw [auditRun, loaded]
  dsimp only
  rw [auditAndFinish, enabled]
  dsimp only
  rw [audited]
  exact ⟨_, rfl⟩

def pageGrammar : Grammar :=
  fun source => if source = sequenceText then some sequenceMarkup else none

def pageStore : FileStore :=
  ⟨⟨"/", []⟩, [(["page.tsx"], .file (Text.Utf8.encode sequenceText))]⟩

def pageArguments : List String := ["page.tsx", "--report", "md"]

def pageOptions : Options :=
  { file := ⟨"", ["page.tsx"]⟩, report := some .markdown }

theorem load_pageStore :
    Config.load pageStore pageOptions.config pageStore.workingDirectory Yaml.loader = .ok {} := by
  decide +kernel

theorem readSource_pageStore : readSource pageStore pageOptions.file = .ok sequenceText := by
  decide +kernel

theorem parseSource_pageGrammar :
    (parseSource pageGrammar sequenceText).value = .ok sequenceDocument :=
  parseSource_eq_ok_iff.2 ⟨sequenceMarkup, if_pos rfl, ofTree_sequenceMarkup⟩

end Command

end MarkupAudit
