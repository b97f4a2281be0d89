import MarkupAudit.Proofs.Audit.FullScore
import MarkupAudit.Proofs.Command.Outcome
import MarkupAudit.Proofs.Report.Terminal

/-! Strict runs. Where no report is lost, they end with an exit code of 0 exactly when the score that
is printed is 100. -/
namespace MarkupAudit.Command
variable {grammar : Grammar} {store : FileStore} {arguments : List String} {o : Options}
  {yaml : Yaml.Loader} {c : Config} {r : AuditResult}

/-- Whether the report of a result, if there is to be one, can be written. -/
def Exports (store : FileStore) (o : Options) (c : Config) (r : AuditResult) : Prop :=
  ∀ f, format? o c = some f →
    ∃ written, (Report.exportTo store r f (outPath? o c)).value = .ok written

theorem verdict_eq_zero_iff (strict : o.strict = true) : verdict o r = 0 ↔ r.violations = [] := by
  unfold verdict
  simp [strict]

theorem finish_of_exports (exports : Exports store o c r) :
    (finish store o c r).exitCode = verdict o r ∧
      ∃ more, (finish store o c r).stdout = listingText o r ++ more := by
  unfold finish
  dsimp only
  split
  · exact ⟨exitOf_eq_verdict o r, "", String.append_empty.symm⟩
  · rename_i f hformat
    obtain ⟨⟨path, after⟩, hwritten⟩ := exports f hformat
    rw [hwritten]
    exact ⟨exitOf_eq_verdict o r, _, rfl⟩

theorem run_of_exports (parsed : Invocation.ofArguments store arguments = .ok (.audit o))
    (audited : Audited grammar store o yaml c r) (exports : Exports store o c r) :
    (run grammar store arguments yaml).exitCode = verdict o r ∧
      ∃ more, (run grammar store arguments yaml).stdout = listingText o r ++ more := by
  obtain ⟨records, hrun⟩ := exists_records_run grammar yaml parsed
  obtain ⟨records', haudit⟩ := exists_records_auditRun audited
  rw [hrun, haudit]
  exact finish_of_exports exports

theorem Audited.full_score_iff (h : Audited grammar store o yaml c r) :
    r.score = 100 ↔ r.violations = [] := by
  obtain ⟨-, registry, enabled, audited⟩ := h
  obtain ⟨source, d, -, -, haudit⟩ := audit_of_auditFile audited
  exact full_score_iff_of_size_lt (size_enabledRules_lt enabled) haudit

theorem Audited.score_mem_range (h : Audited grammar store o yaml c r) :
    0 ≤ r.score ∧ r.score ≤ 100 := by
  obtain ⟨-, registry, -, audited⟩ := h
  obtain ⟨source, d, -, -, haudit⟩ := audit_of_auditFile audited
  exact score_mem_range_of_audit haudit

theorem Audited.showsScore_iff {stdout more : String} {s : Int}
    (h : Audited grammar store o yaml c r) (loud : o.quiet = false)
    (hstdout : stdout = listingText o r ++ more) :
    Report.ShowsScore o.file.text stdout s ↔ s = r.score := by
  have hshows : Report.ShowsScore o.file.text stdout r.score := by
    rw [hstdout, listingText, if_neg (by simp [loud])]
    exact (Report.showsScore_terminal h.score_mem_range).append more
  constructor
  · exact fun hs => hs.unique hshows
  · rintro rfl
    exact hshows

/-- Whatever the settings and the options disable, the rules that are left give a document or a node a
score of 100 exactly when they find nothing. So a strict run that loses no report ends with an exit
code of 0 exactly when the score is 100, and unless it is quiet this is the score that it shows. -/
theorem full_score_clean :
    (∀ (config? : Option Config) (disabled : List String), ∃ registry,
      (rulesLeft config? disabled).value = .ok registry ∧
      ∀ root source r, (audit registry root source).value = .ok r →
        (r.score = 100 ↔ r.violations = [])) ∧
    ∀ grammar store arguments yaml o c r,
      Invocation.ofArguments store arguments = .ok (.audit o) → o.strict = true →
      Audited grammar store o yaml c r → Exports store o c r →
        ((run grammar store arguments yaml).exitCode = 0 ↔ r.score = 100) ∧
        (o.quiet = false → ∀ s,
          Report.ShowsScore o.file.text (run grammar store arguments yaml).stdout s ↔
            s = r.score) := by
  constructor
  · intro config? disabled
    have henabled := value_enabledRules (namesOf config? ++ disabled)
    rw [rulesLeft_eq_enabledRules]
    refine ⟨_, henabled, ?_⟩
    intro root source r h
    exact full_score_iff_of_size_lt (size_enabledRules_lt henabled) h
  · intro grammar store arguments yaml o c r parsed strict audited exports
    obtain ⟨hexit, more, hstdout⟩ := run_of_exports parsed audited exports
    rw [hexit, verdict_eq_zero_iff strict, audited.full_score_iff]
    exact ⟨Iff.rfl, fun loud s => audited.showsScore_iff loud hstdout⟩

def strictArguments : List String := pageArguments ++ ["--strict"]

def strictOptions : Options :=
  { pageOptions with strict := true }

def pageResult : AuditResult := ⟨11, 11, [], 100⟩

def imageResult : AuditResult :=
  ⟨11, 10, [⟨"missing-alt", "accessibility", "error", "<img> tag is missing an alt attribute", ""⟩],
    91⟩

theorem audited_strictOptions :
    Audited pageGrammar pageStore strictOptions Yaml.loader {} pageResult where
  loaded := load_pageStore
  audited := by
    refine ⟨_, value_enabledRules _,
      (value_auditFile readSource_pageStore parseSource_pageGrammar).trans ?_⟩
    decide +kernel

theorem exports_strictOptions : Exports pageStore strictOptions {} pageResult := by
  intro f hf
  obtain rfl : f = .markdown := (Option.some.inj hf).symm
  exact ⟨_, rfl⟩

theorem full_score_clean_page :
    (∃ registry, (rulesLeft none []).value = .ok registry ∧
      (audit registry (.node (.element { tag := "img" })) "").value = .ok imageResult ∧
      (imageResult.score = 100 ↔ imageResult.violations = [])) ∧
    Invocation.ofArguments pageStore strictArguments = .ok (.audit strictOptions) ∧
    strictOptions.strict = true ∧ strictOptions.quiet = false ∧
    Audited pageGrammar pageStore strictOptions Yaml.loader {} pageResult ∧
    Exports pageStore strictOptions {} pageResult ∧
    (run pageGrammar pageStore strictArguments Yaml.loader).exitCode = 0 ∧
    Report.ShowsScore "page.tsx"
      (run pageGrammar pageStore strictArguments Yaml.loader).stdout 100 := by
  obtain ⟨hscores, hruns⟩ := full_score_clean
  have parsed : Invocation.ofArguments pageStore strictArguments = .ok (.audit strictOptions) := by
    decide +kernel
  have hfile : strictOptions.file.text = "page.tsx" := by
    decide +kernel
  obtain ⟨registry, henabled, hfull⟩ := hscores none []
  have haudit :
      (audit registry (.node (.element { tag := "img" })) "").value = .ok imageResult := by
    cases henabled.symm.trans (value_enabledRules [])
    decide +kernel
  obtain ⟨hexit, hshows⟩ := hruns pageGrammar pageStore strictArguments Yaml.loader strictOptions {}
    pageResult parsed rfl audited_strictOptions exports_strictOptions
  rw [hfile] at hshows
  exact ⟨⟨registry, henabled, haudit, hfull _ _ _ haudit⟩, parsed, rfl, rfl, audited_strictOptions,
    exports_strictOptions, hexit.2 rfl, (hshows rfl 100).2 rfl⟩

end MarkupAudit.Command
