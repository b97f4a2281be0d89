import MarkupAudit.Proofs.Config.Load
import MarkupAudit.Proofs.Yaml.Texts

/-! Which documents hold settings. Values that are no texts are taken by the texts that they are
written as, but none of them is written as the name of a format is. So a report has to be the name
of a format itself, while anything may stand for the output and among the rules to disable. -/
namespace MarkupAudit

namespace Report.Format
variable {f : Format}

theorem ofName_eq_ok_iff {name : String} : ofName name = .ok f ↔ name = f.name := by
  unfold ofName
  constructor
  · intro h
    split at h
    · rename_i g hfind
      cases h
      have hname := List.find?_some hfind
      exact (beq_iff_eq.1 hname).symm
    · cases h
  · rintro rfl
    cases f <;> rfl

theorem exists_toList_name (f : Format) :
    ∃ c cs, f.name.toList = c :: cs ∧ ¬(c.isDigit ∨ c ∈ Yaml.Value.leads) := by
  cases f with
  | json => exact ⟨'j', ['s', 'o', 'n'], String.toList_ofList, by decide⟩
  | markdown => exact ⟨'m', ['d'], String.toList_ofList, by decide⟩

theorem asText_eq_name_iff {v : Yaml.Value} : v.asText = f.name ↔ v = .text f.name := by
  constructor
  · intro h
    by_cases htext : v.IsText
    · obtain ⟨s, rfl⟩ := htext
      exact congrArg Yaml.Value.text h
    · -- The first letter of a name is none that another value is written with in front.
      obtain ⟨c, cs, hname, hlead⟩ := f.exists_toList_name
      have hled := Yaml.Value.led_asText htext
      rw [h, hname] at hled
      exact absurd (hled c rfl) hlead
  · rintro rfl
    rfl

end Report.Format

namespace Config
open Yaml (Value)

variable {document v : Value}

/-- Whether a setting is as it is asked to be; one that is not there or null always is. -/
def Allows (document : Value) (name : String) (asked : Value → Prop) : Prop :=
  ∀ v, document.entry? name = some v → v = .null ∨ asked v

/-- Whether a document is what settings are taken from. -/
def Taken (document : Value) : Prop :=
  document = .null ∨ (∃ entries, document = .map entries) ∧
    Allows document "disabled_rules" (fun v => ∃ items, v = .list items) ∧
    Allows document "report" (fun v => v = .text "json" ∨ v = .text "md")

/-- Whether a document is what the settings are documented to be. -/
def Documented (document : Value) : Prop :=
  document = .null ∨ (∃ entries, document = .map entries) ∧
    Allows document "disabled_rules" (fun v => ∃ items, v = .list items ∧ ∀ i ∈ items, i.IsText) ∧
    Allows document "report" (fun v => v = .text "json" ∨ v = .text "md") ∧
    Allows document "out" Value.IsText

/-- Whether the rules to disable are told by texts, as far as they are listed, and the output is. -/
def Textual (document : Value) : Prop :=
  Allows document "disabled_rules" (fun v => ∀ items, v = .list items → ∀ i ∈ items, i.IsText) ∧
    Allows document "out" Value.IsText

theorem documented_iff : Documented document ↔ Taken document ∧ Textual document := by
  constructor
  · rintro (rfl | ⟨hmap, hdisabled, hreport, hout⟩)
    · exact ⟨.inl rfl, nofun, nofun⟩
    · refine ⟨.inr ⟨hmap, fun v hv => ?_, hreport⟩, fun v hv => ?_, hout⟩
      · exact (hdisabled v hv).imp_right fun ⟨items, hitems, _⟩ => ⟨items, hitems⟩
      · refine (hdisabled v hv).imp_right ?_
        rintro ⟨items, rfl, htexts⟩ _ ⟨⟩
        exact htexts
  · rintro ⟨rfl | ⟨hmap, hdisabled, hreport⟩, htexts, hout⟩
    · exact .inl rfl
    · refine .inr ⟨hmap, fun v hv => ?_, hreport, hout⟩
      rcases hdisabled v hv with hnull | ⟨items, hitems⟩
      · exact .inl hnull
      · exact (htexts v hv).imp_right fun h => ⟨items, hitems, h items hitems⟩

theorem allows_iff {name : String} {asked : Value → Prop} :
    Allows document name asked ↔ ∀ v, setting? document name = some v → asked v := by
  unfold Allows setting?
  split
  · rename_i hentry
    simp [hentry]
  · rename_i hentry
    simp [hentry]
  · rename_i v hnull hentry
    simp only [hentry, Option.some.injEq, forall_eq', or_iff_right hnull]

theorem disabledRulesOf_isOk_iff {v? : Option Value} :
    (∃ names, disabledRulesOf v? = .ok names) ↔ ∀ v, v? = some v → ∃ items, v = .list items := by
  cases v? with
  | none => simp [disabledRulesOf]
  | some v => cases v <;> simp [disabledRulesOf, Value.items?]

theorem reportOf_isOk_iff {v? : Option Value} : (∃ format?, reportOf v? = .ok format?) ↔
    ∀ v, v? = some v → v = .text "json" ∨ v = .text "md" := by
  cases v? with
  | none => simp [reportOf]
  | some v =>
    have hformat : (∃ f, Report.Format.ofName v.asText = .ok f) ↔
        v = .text "json" ∨ v = .text "md" := by
      simp only [Report.Format.ofName_eq_ok_iff, Report.Format.asText_eq_name_iff]
      constructor
      · rintro ⟨f, hf⟩
        cases f with
        | json => exact .inl hf
        | markdown => exact .inr hf
      · rintro (hjson | hmarkdown)
        · exact ⟨.json, hjson⟩
        · exact ⟨.markdown, hmarkdown⟩
    simp only [Option.some.injEq, forall_eq', ← hformat, reportOf]
    cases Report.Format.ofName v.asText <;> simp

theorem ofValue_isOk_iff : (∃ c, ofValue v = .ok c) ↔ Taken v := by
  cases v with
  | null => exact iff_of_true ⟨_, rfl⟩ (.inl rfl)
  | map entries =>
    have hparts : Taken (.map entries) ↔
        (∃ names, disabledRulesOf (setting? (.map entries) "disabled_rules") = .ok names) ∧
        ∃ format?, reportOf (setting? (.map entries) "report") = .ok format? := by
      simp [Taken, allows_iff, disabledRulesOf_isOk_iff, reportOf_isOk_iff]
    rw [hparts, ofValue]
    cases disabledRulesOf (setting? (.map entries) "disabled_rules") with
    | error e => exact iff_of_false nofun nofun
    | ok names =>
      cases reportOf (setting? (.map entries) "report") with
      | error e => exact iff_of_false nofun nofun
      | ok format? => exact iff_of_true ⟨_, rfl⟩ ⟨⟨_, rfl⟩, _, rfl⟩
  | _ => exact iff_of_false nofun (by simp [Taken])

section
variable {yaml : Yaml.Loader} {store : FileStore} {path? : Option FilePath} {directory : FilePath}
  {place : List String} {text : String}

theorem load_eq_of_value
    (hfile : store.locate (filePath path? directory) = .ok (.file place (Text.Utf8.encode text)))
    (hvalue : yaml.load ⟨String.ofList (Text.unifyNewlines text.toList), none⟩ = .ok v) :
    load store path? directory yaml =
      (ofValue v).mapError fun e => .config (.settings (filePath path? directory) e) := by
  have hofFile (missing : Except ConfigFailure Config) :
      ofFile yaml store (filePath path? directory) missing =
        (ofValue v).mapError fun e => .config (.settings (filePath path? directory) e) := by
    rw [ofFile, hfile]
    dsimp only
    rw [ofStream, Text.Stream.ofBytes_encode, hvalue]
  cases path? with
  | none => exact hofFile _
  | some path => exact hofFile _

/-- Loading a file takes settings from its document just where that is nothing or a mapping that
lists the rules to disable, if it tells any, and names a format of reports, if it tells one. Every
other document is a configuration error. So what is taken is what is documented, unless a document
that is taken tells the output or a rule to disable by a value that is no text. -/
theorem load_isOk_iff
    (hfile : store.locate (filePath path? directory) = .ok (.file place (Text.Utf8.encode text)))
    (hvalue : yaml.load ⟨String.ofList (Text.unifyNewlines text.toList), none⟩ = .ok v) :
    ((∃ c, load store path? directory yaml = .ok c) ↔ Taken v) ∧
    (¬Taken v → ∃ e, load store path? directory yaml =
      .error (.config (.settings (filePath path? directory) e))) ∧
    (((∃ c, load store path? directory yaml = .ok c) ↔ Documented v) ↔ (Taken v → Textual v)) := by
  have hload := load_eq_of_value hfile hvalue
  have htaken : (∃ c, load store path? directory yaml = .ok c) ↔ Taken v := by
    rw [hload, ← ofValue_isOk_iff]
    cases ofValue v <;> simp [Except.mapError]
  refine ⟨htaken, fun hrefused => ?_, ?_⟩
  · rw [hload]
    cases hvalue : ofValue v with
    | ok c => exact absurd (ofValue_isOk_iff.1 ⟨c, hvalue⟩) hrefused
    | error e => exact ⟨e, rfl⟩
  · rw [htaken, documented_iff]
    exact iff_self_and

end

def single? : Except Yaml.LoadFault Value → Option (String × String)
  | .ok (.map [(.text name, .list [.text s])]) => some (name, s)
  | _ => none

theorem eq_of_single? {x : Except Yaml.LoadFault Value} {name s : String}
    (h : single? x = some (name, s)) : x = .ok (.map [(.text name, .list [.text s])]) := by
  unfold single? at h
  split at h
  · cases h
    rfl
  · cases h

def listedReport : String := "report: [json]\n"

def listedOut : String := "out: [a]\n"

def storeOf (text : String) : FileStore :=
  ⟨⟨"/", []⟩, [(["c.yml"], .file (Text.Utf8.encode text))]⟩

theorem value_listedReport :
    Yaml.loader.load ⟨String.ofList (Text.unifyNewlines listedReport.toList), none⟩ =
      .ok (.map [(.text "report", .list [.text "json"])]) :=
  eq_of_single? (by decide +kernel)

theorem value_listedOut :
    Yaml.loader.load ⟨String.ofList (Text.unifyNewlines listedOut.toList), none⟩ =
      .ok (.map [(.text "out", .list [.text "a"])]) :=
  eq_of_single? (by decide +kernel)

theorem not_taken_listedReport : ¬Taken (.map [(.text "report", .list [.text "json"])]) := by
  rintro (h | ⟨-, -, hreport⟩)
  · cases h
  · rcases hreport (.list [.text "json"]) rfl with h | h | h <;> cases h

theorem not_textual_listedOut : ¬Textual (.map [(.text "out", .list [.text "a"])]) := by
  rintro ⟨-, hout⟩
  rcases hout (.list [.text "a"]) rfl with h | ⟨s, h⟩ <;> cases h

theorem load_isOk_iff_listedReport :
    (storeOf listedReport).locate (filePath (some ⟨"", ["c.yml"]⟩) ⟨"/", []⟩) =
      .ok (.file ["c.yml"] (Text.Utf8.encode listedReport)) ∧
    Yaml.loader.load ⟨String.ofList (Text.unifyNewlines listedReport.toList), none⟩ =
      .ok (.map [(.text "report", .list [.text "json"])]) ∧
    (∃ e, load (storeOf listedReport) (some ⟨"", ["c.yml"]⟩) ⟨"/", []⟩ Yaml.loader =
      .error (.config (.settings ⟨"", ["c.yml"]⟩ e))) ∧
    ((∃ c, load (storeOf listedReport) (some ⟨"", ["c.yml"]⟩) ⟨"/", []⟩ Yaml.loader = .ok c) ↔
      Documented (.map [(.text "report", .list [.text "json"])])) := by
  have hfile : (storeOf listedReport).locate (filePath (some ⟨"", ["c.yml"]⟩) ⟨"/", []⟩) =
      .ok (.file ["c.yml"] (Text.Utf8.encode listedReport)) := by
    decide +kernel
  obtain ⟨-, hrefused, hdocumented⟩ := load_isOk_iff hfile value_listedReport
  exact ⟨hfile, value_listedReport, hrefused not_taken_listedReport,
    hdocumented.2 fun h => absurd h not_taken_listedReport⟩

theorem load_listedOut :
    load (storeOf listedOut) (some ⟨"", ["c.yml"]⟩) ⟨"/", []⟩ Yaml.loader =
      .ok { out := some ⟨"", ["['a']"]⟩ } ∧
    Yaml.loader.load ⟨String.ofList (Text.unifyNewlines listedOut.toList), none⟩ =
      .ok (.map [(.text "out", .list [.text "a"])]) ∧
    ¬((∃ c, load (storeOf listedOut) (some ⟨"", ["c.yml"]⟩) ⟨"/", []⟩ Yaml.loader = .ok c) ↔
      Documented (.map [(.text "out", .list [.text "a"])])) := by
  have hload : load (storeOf listedOut) (some ⟨"", ["c.yml"]⟩) ⟨"/", []⟩ Yaml.loader =
      .ok { out := some ⟨"", ["['a']"]⟩ } := by
    decide +kernel
  refine ⟨hload, value_listedOut, fun h => not_textual_listedOut ?_⟩
  exact (documented_iff.1 (h.1 ⟨_, hload⟩)).2

end Config
end MarkupAudit
