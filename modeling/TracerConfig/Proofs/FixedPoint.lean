import TracerConfig.Proofs.Published

/-!
# A report is a configuration of its own

The report of a configuration, taken as an environment, resolves to the same values.

Main statements:
* `Config.lookup_environment`: what that environment answers.
* `supplied?_environment`: what it supplies for a field.
* `resolve_environment`: the fixed point, which is reached without a complaint.
-/

namespace TracerConfig

/-- Canonical variables tell the fields apart. -/
theorem Field.primaryVariable_injective {f g : Field} {name : String}
    (hf : f.primaryVariable = some name) (hg : g.primaryVariable = some name) : f = g := by
  have h : ∀ f ∈ Field.all, ∀ g ∈ Field.all,
      f.primaryVariable = g.primaryVariable → f.primaryVariable = none ∨ f = g := by
    decide +kernel
  rcases h f (Field.mem_all f) g (Field.mem_all g) (hf.trans hg.symm) with hnone | heq
  · rw [hnone] at hf
    cases hf
  · exact heq

/-- Only the transaction filters cannot be given by a variable. -/
theorem Field.isSome_primaryVariable_iff {f : Field} :
    f.primaryVariable.isSome = true ↔ f ≠ .transactionSettings := by
  cases f <;> simp [primaryVariable, variableNames]

namespace Config

/-- The canonical variable of every reported field, set to the field's value in the report. -/
def environment (c : Config) : Environment := fun name =>
  (c.entries.find? fun e => e.field.primaryVariable = some name).map (·.value)

/-- The surroundings in which that environment is all there is, next to some files. -/
def surroundings (c : Config) (files : File.Tree) : Surroundings where
  source := .ofEnvironment .environment c.environment
  files := files

theorem environment_eq (c : Config) (name : String) :
    c.environment name =
      (Field.all.find? fun f => f.primaryVariable = some name).map c.rendered := by
  rw [environment, entries, List.find?_map, Option.map_map]
  rfl

theorem environment_of_primary (c : Config) {f : Field} {name : String}
    (h : f.primaryVariable = some name) : c.environment name = some (c.rendered f) := by
  rw [environment_eq]
  cases hfind : Field.all.find? fun g => g.primaryVariable = some name with
  | none =>
    have hf := List.find?_eq_none.mp hfind f (Field.mem_all f)
    simp [h] at hf
  | some g =>
    have hg : g.primaryVariable = some name := by simpa using List.find?_some hfind
    rw [Field.primaryVariable_injective hg h]
    rfl

theorem environment_of_no_primary (c : Config) {name : String}
    (h : ∀ f ∈ Field.all, f.primaryVariable ≠ some name) : c.environment name = none := by
  have hfind : (Field.all.find? fun g => g.primaryVariable = some name) = none :=
    List.find?_eq_none.mpr fun f hf => by simpa using h f hf
  rw [environment_eq, hfind]
  rfl

/-- Of the variables of a field only the canonical one is set. -/
theorem filterMap_environment (c : Config) (f : Field) :
    f.variableNames.filterMap c.environment =
      (f.primaryVariable.map fun _ => c.rendered f).toList := by
  have halias : c.environment "APPOPTICS_TRUSTED_PATH" = none :=
    c.environment_of_no_primary (by decide +kernel)
  cases hp : f.primaryVariable with
  | none =>
    rw [Field.primaryVariable, List.head?_eq_none_iff] at hp
    rw [hp]
    rfl
  | some name =>
    have hname := c.environment_of_primary hp
    -- the trusted path is the only field with an alias
    have hvars : f.variableNames = [name] ∨
        f.variableNames = [name, "APPOPTICS_TRUSTED_PATH"] := by
      cases f <;> simp_all [Field.primaryVariable, Field.variableNames]
    rcases hvars with hvars | hvars
    · simp [hvars, hname]
    · simp [hvars, hname, halias]

/-- A field that is reported with the empty text is not answered. -/
theorem lookup_environment (c : Config) (files : File.Tree) {f : Field}
    (hf : f ≠ .transactionSettings) :
    (c.surroundings files).source.lookup (.setting f) =
      if c.rendered f = "" then none else some (c.rendered f) := by
  obtain ⟨name, hname⟩ := Option.isSome_iff_exists.mp (Field.isSome_primaryVariable_iff.mpr hf)
  have hlookup : (c.surroundings files).source.lookup (.setting f) =
      (f.variableNames.filterMap c.environment).find? (· ≠ "") := rfl
  rw [hlookup, filterMap_environment, hname]
  by_cases he : c.rendered f = "" <;> simp [he]

theorem lookup_environment_filters (c : Config) (files : File.Tree) :
    (c.surroundings files).source.lookup (.setting .transactionSettings) = none := rfl

/-- No configuration file is named. -/
theorem file?_surroundings (c : Config) (files : File.Tree) :
    (c.surroundings files).file? = none := by
  have hnone : c.environment "APPOPTICS_CONFIG_FILE" = none :=
    c.environment_of_no_primary (by decide +kernel)
  have hlookup : (c.surroundings files).source.lookup .configFile =
      (["APPOPTICS_CONFIG_FILE"].filterMap c.environment).find? (· ≠ "") := rfl
  rw [Surroundings.file?, hlookup]
  simp [hnone]

theorem sources_surroundings (c : Config) (files : File.Tree) :
    (c.surroundings files).sources = [(c.surroundings files).source] := by
  rw [Surroundings.sources, file?_surroundings]

theorem texts_surroundings (c : Config) (files : File.Tree) (f : Field) :
    (c.surroundings files).texts f =
      (((c.surroundings files).source.lookup (.setting f)).map (·, .environment)).toList := by
  have hlayer : (c.surroundings files).layer? = none := by
    rw [Surroundings.layer?, file?_surroundings]
    rfl
  rw [Surroundings.texts, hlayer]
  exact List.append_nil _

/-! ## Resolving the environment -/

theorem value_resolving_of_lookup_none (c : Config) (files : File.Tree) {f : Field}
    (h : (c.surroundings files).source.lookup (.setting f) = none) :
    (resolving (c.surroundings files) []).settings.value f = f.default := by
  have hsupplied : supplied? (c.surroundings files) [] f = none := by
    show (c.surroundings files).given? f = none
    rw [Surroundings.given?, texts_surroundings, h]
    rfl
  exact value_resolving_of_none rfl hsupplied

theorem value_resolving_of_lookup_some (c : Config) (files : File.Tree) {f : Field}
    {text : String} {v : f.Value}
    (h : (c.surroundings files).source.lookup (.setting f) = some text)
    (hread : f.read text = .ok v) :
    (resolving (c.surroundings files) []).settings.value f = v := by
  have hsupplied : supplied? (c.surroundings files) [] f = some (v, .environment) :=
    Surroundings.given?_of_read h hread
  exact value_resolving_of_supplied rfl hsupplied

section

variable {c : Config} (h : c.Published) (files : File.Tree)
include h

theorem Published.read_rendered {f : Field} (hf : f ≠ .transactionSettings) :
    f.read (c.rendered f) = .ok (c.settings.value f) :=
  Field.read_render hf (h.isValid f) (h.isNormal f)

/-- Just in front of validation every field has its reported value again. -/
theorem Published.value_resolving {f : Field} (hf : f ≠ .transactionSettings) :
    (resolving (c.surroundings files) []).settings.value f = c.settings.value f := by
  have hlookup := lookup_environment c files hf
  by_cases he : c.rendered f = ""
  · -- the text is missing, and the default is what it stood for
    rw [if_pos he] at hlookup
    rw [value_resolving_of_lookup_none c files hlookup]
    exact (Field.eq_default_of_render_eq_empty hf (h.isValid f) he).symm
  · rw [if_neg he] at hlookup
    exact value_resolving_of_lookup_some c files hlookup (h.read_rendered hf)

theorem Published.isValid_resolving (f : Field) :
    f.IsValid ((resolving (c.surroundings files) []).settings.value f) := by
  by_cases hf : f = .transactionSettings
  · subst hf
    rw [value_resolving_of_lookup_none c files (lookup_environment_filters c files)]
    exact Field.isValid_default .transactionSettings
  · rw [h.value_resolving files hf]
    exact h.isValid f

/-- The environment has no text that cannot be read. -/
theorem Published.rejected_surroundings (f : Field) :
    (Settings.reading (c.surroundings files).sources f).rejected = [] := by
  rw [sources_surroundings, Settings.reading]
  by_cases hf : f = .transactionSettings
  · subst hf
    simp only [Reading.first, lookup_environment_filters]
  · by_cases he : c.rendered f = ""
    · simp only [Reading.first, lookup_environment c files hf, if_pos he]
    · simp only [Reading.first, lookup_environment c files hf, if_neg he, h.read_rendered hf]

theorem Published.mergeLog_surroundings :
    Settings.mergeLog (c.surroundings files).sources = [] := by
  have hrejections : ∀ f, Settings.rejections (c.surroundings files).sources f = [] := by
    intro f
    rw [Settings.rejections, h.rejected_surroundings files f]
    rfl
  have hrefusals : ∀ f, Settings.refusals (c.surroundings files).sources f = [] :=
    refusals_eq_nil rfl
  simp [Settings.mergeLog, hrejections, hrefusals]

theorem Published.discarded_surroundings :
    (resolve (c.surroundings files) []).discarded = [] := by
  rw [← List.map_eq_nil_iff (f := (·.field)), List.eq_nil_iff_forall_not_mem]
  intro f hf
  rw [resolve_eq] at hf
  exact mem_fields_discarded_validate_iff.mp hf (h.isValid_resolving files f)

end

/-- The report of a published configuration, taken as an environment, resolves to the same
values, with nothing dropped and nothing to warn about. -/
theorem Published.resolve_environment {c : Config} (h : c.Published) (files : File.Tree) :
    (∀ f : Field, f.primaryVariable.isSome = true →
      (resolve (c.surroundings files) []).rendered f = c.rendered f) ∧
    (resolve (c.surroundings files) []).discarded = [] ∧
    ∀ r ∈ resolveLog (c.surroundings files) [], r.level ≠ .warn := by
  refine ⟨fun f hf => ?_, h.discarded_surroundings files, fun r hr => ?_⟩
  · have hvalue := h.value_resolving files (Field.isSome_primaryVariable_iff.mp hf)
    rw [rendered, Settings.value, get_resolve, if_pos (h.isValid_resolving files f)]
    exact congrArg f.render hvalue
  · have hbuild : (resolving (c.surroundings files) []).buildLog = [] := by
      have hdiscarded := h.discarded_surroundings files
      rw [resolve, Builder.build] at hdiscarded
      rw [Builder.buildLog, Settings.validateLog, hdiscarded]
      rfl
    have hfile : (c.surroundings files).fileLog = [] := by
      rw [Surroundings.fileLog, file?_surroundings]
    rw [resolveLog, Builder.startLog, hfile, h.mergeLog_surroundings, hbuild, changeLog] at hr
    -- all that is left is the notice of the values that are no defaults
    split at hr
    · cases hr
    · rw [List.append_nil, List.nil_append, List.nil_append, List.mem_singleton] at hr
      rw [hr]
      intro hlevel
      cases hlevel

/-- A configuration with the key of a service, a number at its limit, and two empty texts. -/
def keyed : Config :=
  resolve
    { Surroundings.bare with
      source := .ofEnvironment .environment fun name =>
        if name = "APPOPTICS_PING_INTERVAL" then some "18446744073709551615"
        else if name = "APPOPTICS_TRACING_MODE" then some " Never "
        else none }
    [⟨.serviceKey, String.ofList (List.replicate 64 'a') ++ ":My Service"⟩,
      ⟨.trustedPath, ""⟩, ⟨.hostAlias, ""⟩]

theorem published_keyed : keyed.Published := .current (.create _ _)

theorem resolve_environment_keyed :
    keyed.Published ∧
    (∀ f : Field, f.primaryVariable.isSome = true →
      (resolve (keyed.surroundings File.Tree.empty) []).rendered f = keyed.rendered f) ∧
    (resolve (keyed.surroundings File.Tree.empty) []).discarded = [] ∧
    (∀ r ∈ resolveLog (keyed.surroundings File.Tree.empty) [], r.level ≠ .warn) ∧
    [Field.tracingMode, .reporter .pingInterval].map keyed.rendered =
      ["disabled", "18446744073709551615"] := by
  obtain ⟨hrendered, hdiscarded, hlog⟩ :=
    published_keyed.resolve_environment File.Tree.empty
  exact ⟨published_keyed, hrendered, hdiscarded, hlog, by decide +kernel⟩

end Config

end TracerConfig
