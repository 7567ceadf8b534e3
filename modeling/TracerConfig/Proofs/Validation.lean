import TracerConfig.Config
import TracerConfig.Proofs.Settings
import TracerConfig.Proofs.Validity

/-!
# What validation does

A check concerns one field: it leaves every other one alone, and the field it checks it either
leaves alone or drops. So a run of checks drops exactly the invalid ones of the fields it goes
through, and lists them in the order of the run.

Main statements:
* `check_cases`: all that one check can do.
* `get_foldl_check`, `discarded_foldl_check`, `compiled_foldl_check`: the same for a run.
* `discarded_validate`: validation lists every complaint, in report order.
* `validate_drops_invalid`: validation drops the invalid fields and no other, in report order,
  and a second validation drops nothing.
-/

namespace TracerConfig

/-- The place of a field in a report. -/
def Field.index (f : Field) : Nat := Field.all.idxOf f

namespace Settings

theorem get_reset (s : Settings) (f : Field) : (s.reset f).get f = (s.get f).reset := by
  rw [reset, Field.Table.get_set]

theorem get_reset_ne (s : Settings) {f g : Field} (h : f ≠ g) :
    (s.reset f).get g = s.get g := by
  rw [reset, Field.Table.get_set_ne _ h]

theorem complaint?_eq_none_iff {s : Settings} {f : Field} :
    s.complaint? f = none ↔ f.IsValid (s.value f) :=
  Field.complaint?_eq_none_iff

theorem isSome_complaint?_iff {s : Settings} {f : Field} :
    (s.complaint? f).isSome = true ↔ ¬ f.IsValid (s.value f) := by
  rw [← complaint?_eq_none_iff, Option.isSome_iff_ne_none]

end Settings

namespace Config

/-- The filters are those of the specifications in force. -/
def Compiled (c : Config) : Prop :=
  Filter.compileAll (c.settings.value .transactionSettings) = .ok c.filters

/-! ## One check -/

/-- A check either finds nothing, or drops the value of its field with the complaint. -/
theorem check_cases (c : Config) (f : Field) :
    (c.settings.complaint? f = none ∧
      (c.check f).settings = c.settings ∧ (c.check f).discarded = c.discarded) ∨
    ∃ reason, c.settings.complaint? f = some reason ∧
      (c.check f).settings = c.settings.reset f ∧
      (c.check f).discarded = c.discarded ++ [⟨f, reason⟩] := by
  -- the filters have a check of their own, which compiles them
  by_cases hf : f = .transactionSettings
  · subst hf
    have hcomplaint : c.settings.complaint? .transactionSettings =
        Field.filtersComplaint? (c.settings.value .transactionSettings) := rfl
    rw [hcomplaint, check, if_pos rfl, compileFilters]
    unfold Field.filtersComplaint?
    cases Filter.compileAll (c.settings.value .transactionSettings) with
    | ok filters => exact .inl ⟨rfl, rfl, rfl⟩
    | error e => exact .inr ⟨_, rfl, rfl, rfl⟩
  · rw [check, if_neg hf]
    cases hc : c.settings.complaint? f with
    | none => exact .inl ⟨rfl, rfl, rfl⟩
    | some reason => exact .inr ⟨reason, rfl, rfl, rfl⟩

theorem get_check_ne (c : Config) {f g : Field} (h : g ≠ f) :
    (c.check g).settings.get f = c.settings.get f := by
  rcases check_cases c g with ⟨_, hs, _⟩ | ⟨_, _, hs, _⟩
  · rw [hs]
  · rw [hs, Settings.get_reset_ne _ h]

theorem get_check (c : Config) (f : Field) :
    (c.check f).settings.get f =
      if (c.settings.complaint? f).isSome then (c.settings.get f).reset
      else c.settings.get f := by
  rcases check_cases c f with ⟨hc, hs, _⟩ | ⟨_, hc, hs, _⟩
  · rw [hs, hc]
    rfl
  · rw [hs, hc, Settings.get_reset]
    rfl

theorem complaint?_check_ne (c : Config) {f g : Field} (h : g ≠ f) :
    (c.check g).settings.complaint? f = c.settings.complaint? f := by
  rw [Settings.complaint?, Settings.value, get_check_ne c h]
  rfl

theorem discarded_check (c : Config) (f : Field) :
    (c.check f).discarded =
      c.discarded ++ ((c.settings.complaint? f).map (Discarded.mk f)).toList := by
  rcases check_cases c f with ⟨hc, _, hd⟩ | ⟨_, hc, _, hd⟩
  · rw [hd, hc]
    exact (List.append_nil _).symm
  · rw [hd, hc]
    rfl

theorem hasDefaults_check {c : Config} (h : c.settings.HasDefaults) (f : Field) :
    (c.check f).settings.HasDefaults := by
  intro g
  by_cases hfg : f = g
  · subst hfg
    rw [get_check]
    split <;> exact h f
  · rw [get_check_ne c hfg, h g]

/-- Checking the filters compiles them, whatever they were before. -/
theorem compiled_check {c : Config} (h : c.settings.HasDefaults) :
    (c.check .transactionSettings).Compiled := by
  rw [Compiled, check, if_pos rfl, compileFilters]
  cases hc : Filter.compileAll (c.settings.value .transactionSettings) with
  | ok filters => exact hc
  | error e =>
    -- the default is the empty list, and so are its filters
    have hreset : (c.settings.reset .transactionSettings).value .transactionSettings =
        ([] : List Filter.Spec) := by
      rw [Settings.value, Settings.get_reset, Layered.value_reset, h]
      rfl
    simp only [discard, hreset, Filter.compileAll]

/-- Checking another field leaves the filters alone. -/
theorem Compiled.check_ne {c : Config} (h : c.Compiled) {f : Field}
    (hf : f ≠ .transactionSettings) : (c.check f).Compiled := by
  have hfilters : (c.check f).filters = c.filters := by
    rw [check, if_neg hf]
    split <;> rfl
  rw [Compiled, Settings.value, get_check_ne c hf, hfilters]
  exact h

/-! ## A run of checks -/

/-- A run drops exactly the invalid ones of the fields it goes through. -/
theorem get_foldl_check {fields : List Field} (hn : fields.Nodup) (c : Config) (f : Field) :
    (fields.foldl check c).settings.get f =
      if f ∈ fields ∧ (c.settings.complaint? f).isSome then (c.settings.get f).reset
      else c.settings.get f := by
  induction fields generalizing c with
  | nil => simp
  | cons g rest ih =>
    obtain ⟨hg, hrest⟩ := List.nodup_cons.mp hn
    rw [List.foldl_cons, ih hrest]
    by_cases hgf : g = f
    · -- the rest of the run does not come back to the field
      subst hgf
      rw [if_neg (by simp [hg]), get_check]
      simp
    · rw [complaint?_check_ne c hgf, get_check_ne c hgf]
      simp [Ne.symm hgf]

/-- A run lists what it drops, in its own order. -/
theorem discarded_foldl_check {fields : List Field} (hn : fields.Nodup) (c : Config) :
    (fields.foldl check c).discarded =
      c.discarded ++ fields.filterMap fun f => (c.settings.complaint? f).map (Discarded.mk f) := by
  induction fields generalizing c with
  | nil => simp
  | cons g rest ih =>
    obtain ⟨hg, hrest⟩ := List.nodup_cons.mp hn
    -- checking `g` changes nothing about the fields still to come
    have hsame : (rest.filterMap fun f =>
          ((c.check g).settings.complaint? f).map (Discarded.mk f)) =
        rest.filterMap fun f => (c.settings.complaint? f).map (Discarded.mk f) := by
      refine List.filterMap_congr fun f hf => ?_
      rw [complaint?_check_ne c (ne_of_mem_of_not_mem hf hg).symm]
    rw [List.foldl_cons, ih hrest, hsame, discarded_check, List.append_assoc]
    cases hc : c.settings.complaint? g <;> simp [hc]

theorem hasDefaults_foldl_check {c : Config} (h : c.settings.HasDefaults)
    (fields : List Field) : (fields.foldl check c).settings.HasDefaults := by
  induction fields generalizing c with
  | nil => exact h
  | cons g rest ih => exact ih (hasDefaults_check h g)

/-- A run over the filters leaves them compiled. -/
theorem compiled_foldl_check {c : Config} (hd : c.settings.HasDefaults) {fields : List Field}
    (h : c.Compiled ∨ .transactionSettings ∈ fields) : (fields.foldl check c).Compiled := by
  induction fields generalizing c with
  | nil => exact h.resolve_right (List.not_mem_nil)
  | cons g rest ih =>
    -- a check of the filters compiles them, any other one leaves them compiled
    refine ih (hasDefaults_check hd g) ?_
    by_cases hg : g = .transactionSettings
    · subst hg
      exact .inl (compiled_check hd)
    · rcases h with hc | hmem
      · exact .inl (hc.check_ne hg)
      · exact .inr ((List.mem_cons.mp hmem).resolve_left (Ne.symm hg))

/-! ## Validation -/

theorem nodup_checkedFields : checkedFields.Nodup := by decide

theorem pairwise_index_checkedFields :
    checkedFields.Pairwise fun f g => f.index < g.index := by decide

/-- A field that is not checked has no rule. -/
theorem complaint?_eq_none_of_notMem {f : Field} (h : f ∉ checkedFields) (v : f.Value) :
    f.complaint? v = none := by
  cases f with
  | trustedPath | collectorUdp | hostAlias | prependDomain | skipVerify | disabled => rfl
  | reporter s => rfl
  | _ => exact absurd (by decide) h

/-- Validation drops the invalid fields and no other. -/
theorem get_validate (c : Config) (f : Field) :
    c.validate.settings.get f =
      if f.IsValid (c.settings.value f) then c.settings.get f else (c.settings.get f).reset := by
  rw [validate_eq, get_foldl_check nodup_checkedFields]
  by_cases hv : f.IsValid (c.settings.value f)
  · rw [if_pos hv, if_neg]
    rintro ⟨_, hs⟩
    exact Settings.isSome_complaint?_iff.mp hs hv
  · -- an invalid field has a rule, so it is one of those checked
    rw [if_neg hv, if_pos]
    refine ⟨?_, Settings.isSome_complaint?_iff.mpr hv⟩
    by_contra hf
    exact hv (Field.complaint?_eq_none_iff.mp (complaint?_eq_none_of_notMem hf _))

/-- The fields that have a rule are checked in report order. -/
theorem checkedFields_eq : checkedFields = Field.all.filter (· ∈ checkedFields) := by decide

/-- Validation lists every complaint, in report order. -/
theorem discarded_validate (c : Config) :
    c.validate.discarded =
      Field.all.filterMap fun f => (c.settings.complaint? f).map (Discarded.mk f) := by
  rw [validate_eq, discarded_foldl_check nodup_checkedFields, List.nil_append, checkedFields_eq,
    List.filterMap_filter]
  refine List.filterMap_congr fun f _ => ?_
  by_cases hf : f ∈ checkedFields
  · simp [hf]
  · -- a field that is not checked draws no complaint either
    have hnone : c.settings.complaint? f = none := complaint?_eq_none_of_notMem hf _
    simp [hf, hnone]

/-- Of one field there is at most one complaint. -/
theorem filter_discarded_validate (c : Config) (f : Field) :
    c.validate.discarded.filter (·.field = f) =
      ((c.settings.complaint? f).map (Discarded.mk f)).toList := by
  -- the field of a complaint is the one that it is about
  have habout : ∀ g : Field,
      ((c.settings.complaint? g).map (Discarded.mk g)).filter (·.field = f) =
        if decide (g = f) = true then (c.settings.complaint? g).map (Discarded.mk g) else none := by
    intro g
    by_cases hg : g = f <;> cases c.settings.complaint? g <;> simp [hg]
  rw [discarded_validate, List.filter_filterMap, funext habout, ← List.filterMap_filter,
    Field.filter_all]
  cases hc : c.settings.complaint? f <;> simp [hc]

theorem mem_discarded_validate_iff {c : Config} {f : Field} {reason : String} :
    ⟨f, reason⟩ ∈ c.validate.discarded ↔ c.settings.complaint? f = some reason := by
  simp [discarded_validate, Field.mem_all]

/-- The fields that validation lists. -/
theorem fields_discarded_validate (c : Config) :
    c.validate.discarded.map (·.field) =
      checkedFields.filter fun f => (c.settings.complaint? f).isSome := by
  rw [validate_eq, discarded_foldl_check nodup_checkedFields, List.nil_append]
  induction checkedFields with
  | nil => rfl
  | cons g rest ih => cases hc : c.settings.complaint? g <;> simp_all

theorem mem_fields_discarded_validate_iff {c : Config} {f : Field} :
    f ∈ c.validate.discarded.map (·.field) ↔ ¬ f.IsValid (c.settings.value f) := by
  rw [fields_discarded_validate, List.mem_filter, Settings.isSome_complaint?_iff]
  refine and_iff_right_of_imp fun hv => ?_
  by_contra hf
  exact hv (Field.complaint?_eq_none_iff.mp (complaint?_eq_none_of_notMem hf _))

theorem hasDefaults_validate {c : Config} (h : c.settings.HasDefaults) :
    c.validate.settings.HasDefaults := by
  rw [validate_eq]
  exact hasDefaults_foldl_check (c := { c with discarded := [] }) h checkedFields

/-- Every value that validation leaves in force is valid. -/
theorem isValid_validate {c : Config} (h : c.settings.HasDefaults) (f : Field) :
    f.IsValid (c.validate.settings.value f) := by
  rw [Settings.value, get_validate]
  split
  · next hv => exact hv
  · rw [Layered.value_reset, h]
    exact f.isValid_default

theorem compiled_validate {c : Config} (h : c.settings.HasDefaults) : c.validate.Compiled := by
  rw [validate_eq]
  exact compiled_foldl_check (c := { c with discarded := [] }) h (.inr (by decide))

/-- Valid settings stay as they are. -/
theorem validate_eq_self {c : Config} (hd : c.settings.HasDefaults)
    (hv : ∀ f : Field, f.IsValid (c.settings.value f)) (hc : c.Compiled) :
    c.validate = { c with discarded := [] } := by
  have hsettings : c.validate.settings = c.settings :=
    Field.Table.ext_get fun f => by rw [get_validate, if_pos (hv f)]
  -- compiling the same specifications gives the same filters
  have hfilters : c.validate.filters = c.filters := by
    have h := compiled_validate hd
    rw [Compiled, hsettings, hc] at h
    exact (Except.ok.inj h).symm
  have hdiscarded : c.validate.discarded = [] := by
    rw [← List.map_eq_nil_iff, List.eq_nil_iff_forall_not_mem]
    intro f hf
    exact mem_fields_discarded_validate_iff.mp hf (hv f)
  exact Config.ext hsettings hfilters hdiscarded

/-- Validation drops exactly the invalid fields and lists them in report order. A dropped field
is back at its default, every other one keeps its value and its origin, and the filters are those
of the specifications in force. Another validation finds nothing and changes nothing. -/
theorem validate_drops_invalid {c : Config} (h : c.settings.HasDefaults) :
    (c.validate.discarded.map (·.field)).Pairwise (fun f g => f.index < g.index) ∧
    (∀ f, f ∈ c.validate.discarded.map (·.field) ↔ ¬ f.IsValid (c.settings.value f)) ∧
    (∀ f ∈ c.validate.discarded.map (·.field),
      c.validate.settings.value f = f.default ∧ c.validate.settings.origin f = .default) ∧
    (∀ f, f ∉ c.validate.discarded.map (·.field) →
      c.validate.settings.value f = c.settings.value f ∧
        c.validate.settings.origin f = c.settings.origin f) ∧
    Filter.compileAll (c.validate.settings.value .transactionSettings) =
      .ok c.validate.filters ∧
    c.validate.validate = { c.validate with discarded := [] } := by
  refine ⟨?_, fun f => mem_fields_discarded_validate_iff, ?_, ?_, compiled_validate h, ?_⟩
  · rw [fields_discarded_validate]
    exact pairwise_index_checkedFields.filter _
  · intro f hf
    have hv := mem_fields_discarded_validate_iff.mp hf
    rw [Settings.value, Settings.origin, get_validate, if_neg hv, Layered.value_reset, h]
    exact ⟨rfl, Layered.origin_reset _⟩
  · intro f hf
    have hv := not_not.mp fun hv => hf (mem_fields_discarded_validate_iff.mpr hv)
    rw [Settings.value, Settings.origin, get_validate, if_pos hv]
    exact ⟨rfl, rfl⟩
  · exact validate_eq_self (hasDefaults_validate h) (isValid_validate h) (compiled_validate h)

/-- A configuration with an invalid value in each layer, filters that are not those of its
specifications, and a list from an earlier validation. -/
def untidy : Config where
  settings :=
    (Settings.merge [
        .ofPaths .environment fun path => if path = "Sampling.SampleRate" then some "-1" else none,
        .ofPaths .file fun path => if path = "DebugLevel" then some "loud" else none]).overrideAll
      [⟨.collector, " "⟩, ⟨.precision, (11 : UInt32)⟩, ⟨.hostAlias, "web-1"⟩,
        ⟨.transactionSettings, [{ kind := "path", tracing := "enabled" }]⟩]
  filters := [⟨.extensions [".css"], .disabled⟩]
  discarded := [⟨.disabled, ""⟩]

theorem validate_drops_invalid_untidy :
    untidy.settings.HasDefaults ∧
    untidy.validate.discarded.map (·.field) =
      [.collector, .sampleRate, .precision, .transactionSettings, .debugLevel] ∧
    untidy.validate.validate = { untidy.validate with discarded := [] } := by
  have h : untidy.settings.HasDefaults := (Settings.hasDefaults_merge _).overrideAll _
  exact ⟨h, by decide +kernel, (validate_drops_invalid h).2.2.2.2.2⟩

end Config

end TracerConfig
