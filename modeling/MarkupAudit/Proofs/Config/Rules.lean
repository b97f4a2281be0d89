import MarkupAudit.Config.Rules
import MarkupAudit.Proofs.Audit.Registry

/-! The rules that are left when some are disabled. The names are read one after the other: a name that
a rule has is noted once, and any other is reported each time it is read. So there are always rules
left, and they depend on which names were read, and not on where, in what order or how often. -/
namespace MarkupAudit

theorem Catalog.nodup_names : Catalog.registry.names.Nodup :=
  Registry.firstRepeated_names_eq_none_iff.1 Catalog.firstRepeated_names

theorem Catalog.keep_eq_keep_iff {names names' : List String} :
    (registry.keep fun name => !names'.contains name) =
        (registry.keep fun name => !names.contains name) ↔
      ∀ name ∈ registry.names, (name ∈ names' ↔ name ∈ names) := by
  have hkept (ns : List String) (name : String) (h : name ∈ registry.names) :
      name ∈ (registry.keep fun n => !ns.contains n).names ↔ name ∉ ns := by
    simp [Registry.names_keep, h]
  constructor
  · intro h name hname
    rw [← not_iff_not, ← hkept names' name hname, h, hkept names name hname]
  · intro h
    apply congrArg Registry.mk
    apply List.filter_congr
    intro rule hrule
    dsimp only
    rw [List.contains_eq_mem, List.contains_eq_mem,
      decide_eq_decide.2 (h rule.name (List.mem_map_of_mem hrule))]

namespace Disabled
variable {names : List String} {d : Disabled}

/-- What holds once some names were read. -/
structure After (names : List String) (d : Disabled) : Prop where
  distinct : d.known.Nodup
  mem_known_iff : ∀ name, name ∈ d.known ↔ name ∈ names ∧ name ∈ Catalog.registry.names
  records_eq : d.records = (names.filter (· ∉ Catalog.registry.names)).map fun name =>
    ⟨.warning, .config, "Unknown rule '" ++ name ++ "' in disabled rules, ignoring"⟩

theorem after_nil : After [] {} :=
  ⟨List.nodup_nil, by simp, rfl⟩

theorem After.read (h : After names d) (name : String) :
    After (names ++ [name]) (d.read name) := by
  have hmem (other : String) : other ∈ names ++ [name] ↔ other ∈ names ∨ other = name := by
    rw [List.mem_append, List.mem_singleton]
  unfold Disabled.read
  split
  · rename_i hrule
    have hrecords : (names ++ [name]).filter (· ∉ Catalog.registry.names) =
        names.filter (· ∉ Catalog.registry.names) := by
      simp [hrule]
    split
    · rename_i hnoted
      refine ⟨h.distinct, fun other => ?_, hrecords ▸ h.records_eq⟩
      have hagain : other = name → other ∈ names := fun hother =>
        ((h.mem_known_iff other).1 (hother ▸ hnoted)).1
      rw [h.mem_known_iff, hmem, or_iff_left_of_imp hagain]
    · rename_i hnew
      refine ⟨?_, fun other => ?_, hrecords ▸ h.records_eq⟩
      · exact List.nodup_append.2 ⟨h.distinct, List.nodup_singleton _,
          fun a ha b hb hab => hnew (List.mem_singleton.1 hb ▸ hab ▸ ha)⟩
      · have hrule' : other = name → other ∈ Catalog.registry.names := fun hother => hother ▸ hrule
        rw [List.mem_append, List.mem_singleton, h.mem_known_iff, hmem, or_and_right,
          and_iff_left_of_imp hrule']
  · rename_i hunknown
    refine ⟨h.distinct, fun other => ?_, ?_⟩
    · have hnone : ¬(other = name ∧ other ∈ Catalog.registry.names) := fun hother =>
        hunknown (hother.1 ▸ hother.2)
      rw [h.mem_known_iff, hmem, or_and_right, or_iff_left hnone]
    · have hreported : [name].filter (· ∉ Catalog.registry.names) = [name] := by
        simp [hunknown]
      rw [h.records_eq, List.filter_append, hreported, List.map_append]
      rfl

theorem after_foldl {before : List String} (h : After before d) (names : List String) :
    After (before ++ names) (names.foldl Disabled.read d) := by
  induction names generalizing before d with
  | nil => rwa [List.append_nil]
  | cons name names ih =>
    rw [List.append_cons]
    exact ih (h.read name)

theorem after_ofNames (names : List String) : After names (ofNames names) :=
  after_foldl after_nil names

theorem without_known (names : List String) :
    Catalog.registry.without (ofNames names).known =
      .ok (Catalog.registry.keep fun name => !names.contains name) := by
  have h := after_ofNames names
  refine (Registry.without_eq_ok_iff Catalog.nodup_names).2
    ⟨fun name hname => ((h.mem_known_iff name).1 hname).2, ?_⟩
  refine (Catalog.keep_eq_keep_iff.2 fun name hname => ?_).symm
  rw [h.mem_known_iff, and_iff_left hname]

end Disabled

theorem value_enabledRules (disabled : List String) :
    (enabledRules disabled).value =
      .ok (Catalog.registry.keep fun name => !disabled.contains name) :=
  Disabled.without_known disabled

/-- The names that the settings disable, if there are any settings. -/
def namesOf (config? : Option Config) : List String :=
  (config?.map Config.disabledRules).getD []

theorem rulesLeft_eq_enabledRules (config? : Option Config) (more : List String) :
    rulesLeft config? more = enabledRules (namesOf config? ++ more) := by
  cases config? <;> rfl

/-- However the names to disable are given, there are rules left: those of the catalog that neither
the settings nor the other names name, in its order. They are found by leaving out the names noted,
each of them once, and every time that a name of no rule is given there is one warning. Other
settings and other names leave the same rules if and only if they name the same ones. -/
theorem rulesLeft_total (config? : Option Config) (more : List String) :
    ∃ registry, rulesLeft config? more =
        ⟨.ok registry, (Disabled.ofNames (namesOf config? ++ more)).records⟩ ∧
      Catalog.registry.without (Disabled.ofNames (namesOf config? ++ more)).known = .ok registry ∧
      (Disabled.ofNames (namesOf config? ++ more)).known.Nodup ∧
      registry.rules =
        Catalog.rules.filter (fun rule => rule.name ∉ namesOf config? ∧ rule.name ∉ more) ∧
      (rulesLeft config? more).records =
        ((namesOf config? ++ more).filter (· ∉ Catalog.rules.map Rule.name)).map (fun name =>
          ⟨.warning, .config, "Unknown rule '" ++ name ++ "' in disabled rules, ignoring"⟩) ∧
      ∀ (config?' : Option Config) (more' : List String),
        (rulesLeft config?' more').value = .ok registry ↔
          ∀ name ∈ Catalog.rules.map Rule.name,
            (name ∈ namesOf config?' ++ more' ↔ name ∈ namesOf config? ++ more) := by
  have hwithout := Disabled.without_known (namesOf config? ++ more)
  have heq := rulesLeft_eq_enabledRules config? more
  unfold enabledRules at heq
  dsimp only at heq
  rw [hwithout] at heq
  refine ⟨_, heq, hwithout, (Disabled.after_ofNames _).distinct, ?_, ?_, fun config?' more' => ?_⟩
  · apply List.filter_congr
    intro rule _
    simp
  · rw [heq]
    exact (Disabled.after_ofNames _).records_eq
  · rw [rulesLeft_eq_enabledRules, value_enabledRules, Except.ok.injEq]
    exact Catalog.keep_eq_keep_iff

/-- One rule is disabled twice, and a name that no rule has is reported twice. -/
example : rulesLeft (some { disabledRules := ["missing-alt", "none"] }) ["none", "missing-alt"] =
    rulesLeft none ["none", "missing-alt", "missing-alt", "none"] := by
  rfl

end MarkupAudit
