import MarkupAudit.Proofs.Audit.Pairs
import MarkupAudit.Proofs.Audit.Surface
import MarkupAudit.Proofs.Config.Rules

/-! The audit of a file by rules of the catalog: with a reliable grammar it comes to a result, unless
the file is refused as input. -/
namespace MarkupAudit

variable {grammar : Grammar} {source : String} {tree : SourceNode} {d : Document}

theorem value_auditFile {registry : Registry} {store : FileStore} {path : FilePath}
    (hsource : readSource store path = .ok source)
    (hd : (parseSource grammar source).value = .ok d) :
    (auditFile grammar registry store path).value =
      (audit registry (.document d) source).value := by
  unfold auditFile parseFile Logged.bindOk Logged.mapError
  simp [hsource, hd, Except.mapError]

theorem audit_of_auditFile {registry : Registry} {store : FileStore} {path : FilePath}
    {r : AuditResult} (h : (auditFile grammar registry store path).value = .ok r) :
    ∃ source d, readSource store path = .ok source ∧ (parseSource grammar source).value = .ok d ∧
      (audit registry (.document d) source).value = .ok r := by
  cases hsource : readSource store path with
  | error e =>
    unfold auditFile parseFile Logged.bindOk Logged.mapError at h
    simp [hsource, Except.mapError] at h
  | ok source =>
    cases hd : (parseSource grammar source).value with
    | error failure =>
      unfold auditFile parseFile Logged.bindOk Logged.mapError at h
      simp [hsource, hd, Except.mapError] at h
    | ok d => exact ⟨source, d, rfl, hd, (value_auditFile hsource hd).symm.trans h⟩

end MarkupAudit
