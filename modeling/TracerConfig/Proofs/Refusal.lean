import TracerConfig.Proofs.Precedence

/-!
# Values that are refused

A source may declare that its values are defaults. Such a value cannot be recorded and is refused,
but only once it has been read in place of what the configuration file has for the field. So a
refused value hides that of the file, as a text that cannot be read does not. It hides nothing
from the application, which overrides either.

Main definitions:
* `Surroundings.onlyFile`: the same surroundings with nothing in the source but the name of the
  configuration file.
* `Hides`: a refused value hides a valid one of the configuration file.

Main statements:
* `get_resolving_of_default`: what is left of the file in front of validation.
* `entries_eq_onlyFile_iff`: the report is the one of the file alone if, and only if, nothing of
  the file is hidden.
* `refused_value_hides`: something can be hidden.
-/

namespace TracerConfig

/-! ## The report of a field -/

/-- The state of a field, as it is reported. -/
def Config.entry (c : Config) (f : Field) : Config.Entry :=
  ⟨f, c.rendered f, c.settings.origin f⟩

/-- A field is reported with what is in force in front of validation, if that is valid. -/
theorem entry_resolve (s : Surroundings) (os : List Override) (f : Field) :
    (resolve s os).entry f =
      if f.IsValid ((resolving s os).settings.value f) then
        ⟨f, f.render ((resolving s os).settings.value f), (resolving s os).settings.origin f⟩
      else ⟨f, f.render f.default, .default⟩ := by
  rw [Config.entry, Config.rendered, Settings.value, Settings.origin, get_resolve]
  split
  · rfl
  · rw [Layered.value_reset, Layered.origin_reset, hasDefaults_resolving]

/-- Reports agree if they agree on every field. -/
theorem entries_eq_iff {c c' : Config} : c.entries = c'.entries ↔ ∀ f, c.entry f = c'.entry f := by
  have hall : c.entries = c'.entries ↔ ∀ f ∈ Field.all, c.entry f = c'.entry f := List.map_inj_left
  rw [hall]
  exact ⟨fun h f => h f f.mem_all, fun h f _ => h f⟩

/-! ## Readings of two layers -/

namespace Surroundings

/-- The value that the source gives for a field. -/
def own? (s : Surroundings) (f : Field) : Option f.Value :=
  (s.source.lookup (.setting f)).bind fun text => (f.read text).toOption

/-- The value that the configuration file gives for a field. -/
def filed? (s : Surroundings) (f : Field) : Option f.Value :=
  (s.layer?.bind (·.lookup (.setting f))).bind fun text => (f.read text).toOption

/-- The value that is read is that of the source, or else that of the configuration file. -/
theorem value_reading_eq (s : Surroundings) (f : Field) :
    (Settings.reading s.sources f).value =
      ((s.own? f).map (·, s.source.origin)).or ((s.filed? f).map (·, .file)) := by
  rw [Settings.reading, Reading.value_first, texts_sources, List.findSome?_append, own?, filed?]
  cases s.source.lookup (.setting f) with
  | none => cases s.layer?.bind (·.lookup (.setting f)) <;> simp [Reading.accept?]
  | some text => cases s.layer?.bind (·.lookup (.setting f)) <;> simp [Reading.accept?]

/-- What is left of the configuration file for a field when the values of the source are
refused. -/
def left? (s : Surroundings) (f : Field) : Option f.Value :=
  if (s.own? f).isSome then none else s.filed? f

/-- A source of any other origin counts with its own value, and without one where there is no
configuration file nothing does. -/
theorem value_resolving_of_unchosen {s : Surroundings} (h : s.source.origin ≠ .default)
    {os : List Override} {f : Field} (hos : lastChoice? os f = none)
    (hlayer : s.own? f = none → s.layer? = none) :
    (resolving s os).settings.value f = (s.own? f).getD f.default := by
  rw [Settings.value, get_resolving, hos]
  simp only [Settings.ofReading, value_reading_eq]
  cases hown : s.own? f with
  | some v => exact (Layered.value_put f.default v _).trans (if_neg h)
  | none =>
    rw [filed?, hlayer hown]
    rfl

theorem ofReading_of_default {s : Surroundings} (h : s.source.origin = .default) (f : Field) :
    Settings.ofReading f (Settings.reading s.sources f) =
      { default := f.default, file := s.left? f } := by
  rw [Settings.ofReading, value_reading_eq, h, left?]
  cases s.own? f with
  | some v => rfl
  | none => cases s.filed? f <;> rfl

/-- The same surroundings, with nothing in the source but the name of its configuration file. -/
def onlyFile (s : Surroundings) : Surroundings where
  source :=
    { origin := s.source.origin
      lookup := fun k => if k = .configFile then s.source.lookup k else none }
  files := s.files

/-- Then nothing of the file is lost. -/
theorem left?_onlyFile (s : Surroundings) (f : Field) : s.onlyFile.left? f = s.filed? f := rfl

end Surroundings

/-! ## What is hidden -/

/-- A refused value hides a valid one of the configuration file: the application chose none, the
source has one and the file has one. -/
structure Hides (s : Surroundings) (os : List Override) (f : Field) : Prop where
  unchosen : ∀ o ∈ os, o.field ≠ f
  refused : ∃ v, s.own? f = some v
  filed : ∃ v, s.filed? f = some v ∧ f.IsValid v

/-- The entry of a field for which nothing but the configuration file counts. -/
def filedEntry (f : Field) (v? : Option f.Value) : Config.Entry :=
  match v? with
  | some v => if f.IsValid v then ⟨f, f.render v, .file⟩ else ⟨f, f.render f.default, .default⟩
  | none => ⟨f, f.render f.default, .default⟩

section

variable {s : Surroundings} (h : s.source.origin = .default)
include h

/-- In front of validation stands what is left of the file, with the application's choice on
top. -/
theorem get_resolving_of_default (os : List Override) (f : Field) :
    (resolving s os).settings.get f =
      match lastChoice? os f with
      | some c => { default := f.default, file := s.left? f, code := some (f.ofChoice c) }
      | none => { default := f.default, file := s.left? f } := by
  rw [get_resolving, Surroundings.ofReading_of_default h]
  rfl

theorem entry_of_unchosen {os : List Override} {f : Field} (hos : lastChoice? os f = none) :
    (resolve s os).entry f = filedEntry f (s.left? f) := by
  have hget : (resolving s os).settings.get f = { default := f.default, file := s.left? f } := by
    rw [get_resolving_of_default h, hos]
  rw [entry_resolve, Settings.value, Settings.origin, hget]
  cases s.left? f with
  | some v => rfl
  | none => exact if_pos f.isValid_default

end

/-- What the application chose counts before anything that sources give. -/
theorem entry_of_chosen (s : Surroundings) {os : List Override} {f : Field} {c : f.Choice}
    (hos : lastChoice? os f = some c) :
    (resolve s os).entry f =
      if f.IsValid (f.ofChoice c) then ⟨f, f.render (f.ofChoice c), .code⟩
      else ⟨f, f.render f.default, .default⟩ := by
  have hget : (resolving s os).settings.get f =
      (Settings.ofReading f (Settings.reading s.sources f)).put .code (f.ofChoice c) := by
    rw [get_resolving, hos]
  rw [entry_resolve, Settings.value, Settings.origin, hget, Layered.value_put_code,
    Layered.origin_put_code]

/-- Without the file a field is reported alike only if the file has no valid value for it. -/
theorem filedEntry_none_eq_iff {f : Field} {v? : Option f.Value} :
    filedEntry f none = filedEntry f v? ↔ ∀ v, v? = some v → ¬ f.IsValid v := by
  cases v? with
  | none => simp
  | some v => by_cases hv : f.IsValid v <;> simp [filedEntry, hv]

section

variable {s : Surroundings} (h : s.source.origin = .default)
include h

theorem entry_eq_onlyFile_iff (os : List Override) (f : Field) :
    (resolve s os).entry f = (resolve s.onlyFile os).entry f ↔ ¬ Hides s os f := by
  cases hos : lastChoice? os f with
  | some c =>
    -- the application chose a value, so nothing is hidden from it
    rw [entry_of_chosen s hos, entry_of_chosen s.onlyFile hos]
    refine iff_of_true rfl fun hh => ?_
    rw [lastChoice?_eq_none_iff.mpr hh.unchosen] at hos
    cases hos
  | none =>
    have hunchosen := lastChoice?_eq_none_iff.mp hos
    rw [entry_of_unchosen h hos, entry_of_unchosen (s := s.onlyFile) h hos, s.left?_onlyFile,
      Surroundings.left?]
    cases hown : s.own? f with
    | none =>
      -- the source gives nothing, so the file is left as it is
      refine iff_of_true rfl fun hh => ?_
      obtain ⟨v, hv⟩ := hh.refused
      rw [hown] at hv
      cases hv
    | some v =>
      rw [Option.isSome_some, if_pos rfl, filedEntry_none_eq_iff]
      constructor
      · rintro hinvalid ⟨_, _, w, hw, hvalid⟩
        exact hinvalid w hw hvalid
      · intro hh w hw hvalid
        exact hh ⟨hunchosen, ⟨v, hown⟩, w, hw, hvalid⟩

/-- The report is the one that the configuration file alone gives if, and only if, no refused value
hides a valid one of the file. A field with a hidden value is reported with its default, where the
file alone has it reported with the value of the file. -/
theorem entries_eq_onlyFile_iff (os : List Override) :
    ((resolve s os).entries = (resolve s.onlyFile os).entries ↔ ∀ f, ¬ Hides s os f) ∧
    ∀ f, Hides s os f → ∃ v, s.filed? f = some v ∧
      ((resolve s os).entries.filter fun e => e.field = f) =
        [⟨f, f.render f.default, .default⟩] ∧
      ((resolve s.onlyFile os).entries.filter fun e => e.field = f) =
        [⟨f, f.render v, .file⟩] := by
  refine ⟨?_, fun f hh => ?_⟩
  · rw [entries_eq_iff]
    exact forall_congr' fun f => entry_eq_onlyFile_iff h os f
  · obtain ⟨v, hfiled, hvalid⟩ := hh.filed
    obtain ⟨w, hown⟩ := hh.refused
    have hos := lastChoice?_eq_none_iff.mpr hh.unchosen
    have hdefault := entry_of_unchosen h hos
    have hfile := entry_of_unchosen (s := s.onlyFile) h hos
    rw [Surroundings.left?, hown, Option.isSome_some, if_pos rfl] at hdefault
    rw [s.left?_onlyFile, hfiled, filedEntry, if_pos hvalid] at hfile
    have hreport : ∀ c : Config, (c.entries.filter fun e => e.field = f) = [c.entry f] :=
      fun c => c.filter_entries f
    refine ⟨v, hfiled, ?_, ?_⟩
    · rw [hreport, hdefault, filedEntry]
    · rw [hreport, hfile]

end

/-- A source of defaults that has an alias, and an unreadable precision. -/
def deferential : Surroundings where
  source := .ofEnvironment .default fun name =>
    if name = "APPOPTICS_CONFIG_FILE" then some "agent.yaml"
    else if name = "APPOPTICS_HOSTNAME_ALIAS" then some "web-1"
    else if name = "APPOPTICS_HISTOGRAM_PRECISION" then some "many"
    else none
  files := File.Tree.empty.put "agent.yaml" (.file "HostAlias: web-2\nPrecision: 4".toUTF8)

theorem hides_deferential : Hides deferential [] .hostAlias where
  unchosen := nofun
  refused := ⟨"web-1", by decide +kernel⟩
  filed := ⟨"web-2", by decide +kernel, trivial⟩

theorem entries_eq_onlyFile_iff_deferential :
    deferential.source.origin = .default ∧
    Hides deferential [] .hostAlias ∧
    (∃ v, deferential.filed? .hostAlias = some v ∧
      ((resolve deferential []).entries.filter fun e => e.field = .hostAlias) =
        [⟨.hostAlias, "", .default⟩] ∧
      ((resolve deferential.onlyFile []).entries.filter fun e => e.field = .hostAlias) =
        [⟨.hostAlias, v, .file⟩]) ∧
    ((resolve deferential []).entries.filter fun e => e.origin ≠ .default) =
      [⟨.precision, "4", .file⟩] :=
  ⟨rfl, hides_deferential, (entries_eq_onlyFile_iff rfl []).2 .hostAlias hides_deferential,
    by decide +kernel⟩

/-- It is not so that a refused value never hides that of the file. -/
theorem refused_value_hides :
    ¬ ∀ (s : Surroundings) (os : List Override), s.source.origin = .default →
        (∃ layer, s.file? = some (.ok layer)) →
        (resolve s os).entries = (resolve s.onlyFile os).entries := by
  intro hnever
  have hfile : ∃ layer, deferential.file? = some (.ok layer) :=
    ⟨⟨[("HostAlias", "web-2"), ("Precision", "4")]⟩, by decide +kernel⟩
  have hentries : (resolve deferential []).entries ≠ (resolve deferential.onlyFile []).entries := by
    decide +kernel
  exact hentries (hnever deferential [] rfl hfile)

end TracerConfig
