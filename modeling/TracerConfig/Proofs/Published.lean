import TracerConfig.Handle
import TracerConfig.Proofs.Precedence
import TracerConfig.Proofs.RoundTrip

/-!
# Published configurations

The configurations that an application can get hold of: the defaults, what a builder builds
after any settings of fields, and what a handle holds after any reloads, in any surroundings.

Main statements:
* `Config.Published.exists_resolve`: every published configuration is that of a resolution.
* `Config.Published.isValid`: every value in force is valid.
* `Config.Published.isNormal`: its service key is normalized.
-/

namespace TracerConfig

/-- A builder that an application can get hold of. -/
inductive Builder.Reachable : Builder → Prop
  | start (s : Surroundings) : Reachable (Builder.start s)
  | set {b : Builder} (o : Override) : Reachable b → Reachable (b.set o)
  | apply {b : Builder} (os : List Override) : Reachable b → Reachable (b.apply os)

/-- A handle that an application can get hold of. -/
inductive Handle.Reachable : Handle → Prop
  | create (s : Surroundings) (os : List Override) : Reachable (Handle.create s os)
  | reload {h : Handle} (s : Surroundings) : Reachable h → Reachable (h.reload s)

/-- A configuration that an application can get hold of. -/
inductive Config.Published : Config → Prop
  | default : Published Config.default
  | build {b : Builder} : b.Reachable → Published b.build
  | current {h : Handle} : h.Reachable → Published h.current

/-! ## Every one is a resolution -/

theorem Builder.Reachable.exists_resolving {b : Builder} (h : b.Reachable) :
    ∃ s os, b = resolving s os := by
  induction h with
  | start s => exact ⟨s, [], rfl⟩
  | set o _ ih =>
    obtain ⟨s, os, rfl⟩ := ih
    refine ⟨s, os ++ [o], ?_⟩
    simp only [resolving, Builder.apply, Builder.set, Settings.overrideAll, List.foldl_append,
      List.foldl_cons, List.foldl_nil]
  | apply os' _ ih =>
    obtain ⟨s, os, rfl⟩ := ih
    refine ⟨s, os ++ os', ?_⟩
    simp only [resolving, Builder.apply, Settings.overrideAll, List.foldl_append]

theorem Handle.Reachable.exists_current {h : Handle} (hr : h.Reachable) :
    ∃ s os, h.current = resolve s os := by
  induction hr with
  | create s os => exact ⟨s, os, rfl⟩
  | @reload h s _ _ => exact ⟨s, h.overrides, by rw [Handle.reload]⟩

/-- Surroundings that give nothing. -/
def Surroundings.bare : Surroundings where
  source := ⟨.environment, fun _ => none⟩
  files := File.Tree.empty

theorem resolve_bare : resolve Surroundings.bare [] = Config.default := by
  have hmerge : Settings.merge Surroundings.bare.sources = Settings.default := rfl
  have hvalid : ∀ f : Field, f.IsValid (Config.default.settings.value f) := by
    intro f
    rw [Config.default, Settings.value, Settings.default, Field.Table.get_ofFn]
    exact f.isValid_default
  have hself := Config.validate_eq_self (c := Config.default) Settings.hasDefaults_default hvalid rfl
  rw [resolve, resolving, Builder.start, hmerge]
  exact hself

/-- The configuration of an application that sets the filters and nothing else. -/
def Filter.Spec.configOf (specs : List Filter.Spec) : Config :=
  resolve .bare [⟨.transactionSettings, specs⟩]

/-- Every published configuration is that of a resolution. -/
theorem Config.Published.exists_resolve {c : Config} (h : c.Published) :
    ∃ s os, c = resolve s os := by
  cases h with
  | default => exact ⟨Surroundings.bare, [], resolve_bare.symm⟩
  | build hb =>
    obtain ⟨s, os, rfl⟩ := hb.exists_resolving
    exact ⟨s, os, rfl⟩
  | current hh => exact hh.exists_current

/-! ## What holds of every one -/

/-- A value in force is a default, or was read from a text, or was chosen by the application. -/
theorem value_resolving_cases (s : Surroundings) (os : List Override) (f : Field) :
    (resolving s os).settings.value f = f.default ∨
      (∃ text, f.read text = .ok ((resolving s os).settings.value f)) ∨
      ∃ c, (resolving s os).settings.value f = f.ofChoice c := by
  rw [Settings.value, get_resolving]
  cases lastChoice? os f with
  | some c => exact .inr (.inr ⟨c, rfl⟩)
  | none =>
    -- without a choice it is the first readable text, unless its source is one of defaults
    simp only [Settings.ofReading, Settings.reading, Reading.value_first]
    cases hv : (Source.texts s.sources (.setting f)).findSome? (Reading.accept? f.read) with
    | none => exact .inl rfl
    | some found =>
      obtain ⟨v, o⟩ := found
      simp only [Layered.value_put]
      split
      · exact .inl rfl
      · obtain ⟨t, _, haccept⟩ := List.exists_of_findSome?_eq_some hv
        exact .inr (.inl ⟨t.1, (Reading.accept?_eq_some_iff.mp haccept).1⟩)

theorem Field.isNormal_default (f : Field) : f.IsNormal f.default := by
  cases f with
  | serviceKey => exact ServiceKey.normalize_empty
  | _ => trivial

theorem Field.isNormal_of_read {f : Field} {text : String} {v : f.Value}
    (h : f.read text = .ok v) : f.IsNormal v := by
  cases f with
  | serviceKey =>
    cases h
    exact ServiceKey.normalize_normalize text
  | _ => trivial

theorem Field.isNormal_ofChoice (f : Field) (c : f.Choice) : f.IsNormal (f.ofChoice c) := by
  cases f with
  | serviceKey => exact ServiceKey.normalize_normalize c
  | _ => trivial

theorem isNormal_resolving (s : Surroundings) (os : List Override) (f : Field) :
    f.IsNormal ((resolving s os).settings.value f) := by
  rcases value_resolving_cases s os f with h | ⟨text, h⟩ | ⟨c, h⟩
  · rw [h]
    exact f.isNormal_default
  · exact Field.isNormal_of_read h
  · rw [h]
    exact f.isNormal_ofChoice c

namespace Config.Published

/-- Every value in force is valid. -/
theorem isValid {c : Config} (h : c.Published) (f : Field) : f.IsValid (c.settings.value f) := by
  obtain ⟨s, os, rfl⟩ := h.exists_resolve
  rw [resolve_eq]
  exact isValid_validate (hasDefaults_resolving s os) f

/-- Every value in force is normalized. -/
theorem isNormal {c : Config} (h : c.Published) (f : Field) :
    f.IsNormal (c.settings.value f) := by
  obtain ⟨s, os, rfl⟩ := h.exists_resolve
  rw [Settings.value, get_resolve]
  split
  · exact isNormal_resolving s os f
  · rw [Layered.value_reset, hasDefaults_resolving]
    exact f.isNormal_default

end Config.Published

end TracerConfig
