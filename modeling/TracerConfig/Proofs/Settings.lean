import TracerConfig.Settings

/-!
# Merged and overridden settings

Main statements:
* `Reading.value_first`, `Reading.rejected_first`: the first text that can be read decides, in
  the order of the sources, and those in front of it are reported.
* `Settings.get_overrideAll`: of the overrides of a field the last one counts.
* `Settings.HasDefaults`: merging and overriding keep the compiled-in defaults.
-/

namespace TracerConfig

/-! ## Readings -/

/-- The texts that sources give for a key, with their origins. -/
def Source.texts (sources : List Source) (k : Key) : List (String × Origin) :=
  sources.filterMap fun s => (s.lookup k).map (·, s.origin)

namespace Reading

variable {α : Type} {read : String → Except String α} {k : Key} {s : Source}
  {rest : List Source} {text : String}

/-- The value of a text, if it can be read. -/
def accept? (read : String → Except String α) (t : String × Origin) : Option (α × Origin) :=
  (read t.1).toOption.map (·, t.2)

/-- The report about a text, if it cannot be read. -/
def reject? (read : String → Except String α) (t : String × Origin) : Option Rejected :=
  match read t.1 with
  | .ok _ => none
  | .error cause => some ⟨t.2, t.1, cause⟩

theorem accept?_eq_some_iff {t : String × Origin} {a : α} {o : Origin} :
    accept? read t = some (a, o) ↔ read t.1 = .ok a ∧ t.2 = o := by
  cases hr : read t.1 <;> simp [accept?, hr, Except.toOption]

theorem accept?_eq_none_iff {t : String × Origin} :
    accept? read t = none ↔ ∀ a, read t.1 ≠ .ok a := by
  cases hr : read t.1 <;> simp [accept?, hr, Except.toOption]

theorem first_of_missing (h : s.lookup k = none) :
    first read k (s :: rest) = first read k rest := by
  rw [first, h]

theorem first_of_ok (h : s.lookup k = some text) {a : α} (hr : read text = .ok a) :
    first read k (s :: rest) = { value := some (a, s.origin) } := by
  rw [first, h]
  simp only [hr]

theorem first_of_error (h : s.lookup k = some text) {cause : String}
    (hr : read text = .error cause) :
    first read k (s :: rest) =
      { first read k rest with
        rejected := ⟨s.origin, text, cause⟩ :: (first read k rest).rejected } := by
  rw [first, h]
  simp only [hr]

theorem texts_of_missing (h : s.lookup k = none) :
    Source.texts (s :: rest) k = Source.texts rest k :=
  List.filterMap_cons_none (by rw [h, Option.map_none])

theorem texts_of_text (h : s.lookup k = some text) :
    Source.texts (s :: rest) k = (text, s.origin) :: Source.texts rest k :=
  List.filterMap_cons_some (by rw [h, Option.map_some])

variable (read k)

/-- The first text that can be read decides. -/
theorem value_first (sources : List Source) :
    (first read k sources).value = (Source.texts sources k).findSome? (accept? read) := by
  induction sources with
  | nil => rfl
  | cons s rest ih =>
    cases h : s.lookup k with
    | none => rw [first_of_missing h, texts_of_missing h, ih]
    | some text =>
      rw [texts_of_text h, List.findSome?_cons]
      cases hr : read text with
      | ok a => simp [first_of_ok h hr, accept?, hr, Except.toOption]
      | error cause => simp [first_of_error h hr, accept?, hr, Except.toOption, ih]

/-- The texts in front of it are reported. -/
theorem rejected_first (sources : List Source) :
    (first read k sources).rejected =
      ((Source.texts sources k).takeWhile fun t => (reject? read t).isSome).filterMap
        (reject? read) := by
  induction sources with
  | nil => rfl
  | cons s rest ih =>
    cases h : s.lookup k with
    | none => rw [first_of_missing h, texts_of_missing h, ih]
    | some text =>
      rw [texts_of_text h, List.takeWhile_cons]
      cases hr : read text with
      | ok a => simp [first_of_ok h hr, reject?, hr]
      | error cause => simp [first_of_error h hr, reject?, hr, ih]

variable {k}

/-- Nothing but the texts counts: sources without a text are passed over. -/
theorem first_congr {sources sources' : List Source}
    (h : Source.texts sources k = Source.texts sources' k) :
    first read k sources = first read k sources' := by
  have hvalue := value_first read k sources
  have hrejected := rejected_first read k sources
  rw [h, ← value_first] at hvalue
  rw [h, ← rejected_first] at hrejected
  cases hfirst : first read k sources
  cases hfirst' : first read k sources'
  simp_all

end Reading

/-! ## Overrides -/

/-- What an override chooses for a field, if it is about that field. -/
def Override.choice? (f : Field) (o : Override) : Option f.Choice :=
  if h : o.field = f then some (h ▸ o.choice) else none

/-- An override of another field is no choice for this one. -/
theorem Override.choice?_of_ne {f : Field} {o : Override} (h : o.field ≠ f) :
    o.choice? f = none := by
  rw [choice?, dif_neg h]

theorem Override.exists_choice?_of_eq {f : Field} {o : Override} (h : o.field = f) :
    ∃ c, o.choice? f = some c := by
  rw [choice?, dif_pos h]
  exact ⟨_, rfl⟩

/-- What the application chose last for a field. -/
def lastChoice? (os : List Override) (f : Field) : Option f.Choice :=
  (os.filterMap (Override.choice? f)).getLast?

theorem lastChoice?_eq_none_iff {os : List Override} {f : Field} :
    lastChoice? os f = none ↔ ∀ o ∈ os, o.field ≠ f := by
  simp [lastChoice?, Override.choice?]

theorem lastChoice?_singleton (o : Override) (f : Field) : lastChoice? [o] f = o.choice? f := by
  cases hc : o.choice? f <;> simp [lastChoice?, hc]

/-- Later overrides decide, if there are any of the field. -/
theorem lastChoice?_append (os os' : List Override) (f : Field) :
    lastChoice? (os ++ os') f = (lastChoice? os' f).or (lastChoice? os f) := by
  rw [lastChoice?, List.filterMap_append, List.getLast?_append]
  rfl

namespace Settings

theorem get_override (s : Settings) (o : Override) (f : Field) :
    (s.override o).get f =
      match o.choice? f with
      | some c => (s.get f).put .code (f.ofChoice c)
      | none => s.get f := by
  obtain ⟨g, c⟩ := o
  by_cases h : g = f
  · subst h
    simp [override, Override.choice?]
  · simp [override, Override.choice?, h, Field.Table.get_set_ne]

/-- The last override of a field is on top of what the sources gave. -/
theorem get_overrideAll (s : Settings) (os : List Override) (f : Field) :
    (s.overrideAll os).get f =
      match lastChoice? os f with
      | some c => (s.get f).put .code (f.ofChoice c)
      | none => s.get f := by
  induction os generalizing s with
  | nil => rfl
  | cons o rest ih =>
    have hstep : (s.overrideAll (o :: rest)).get f = ((s.override o).overrideAll rest).get f := rfl
    rw [hstep, ih, get_override, lastChoice?, lastChoice?]
    cases hc : o.choice? f with
    | none => rw [List.filterMap_cons_none hc]
    | some c =>
      rw [List.filterMap_cons_some hc, List.getLast?_cons]
      -- a later choice replaces this one in the same layer
      cases (rest.filterMap (Override.choice? f)).getLast? <;> rfl

/-! ## Defaults -/

/-- The default of every field is the one that is compiled in. -/
def HasDefaults (s : Settings) : Prop := ∀ f, (s.get f).default = f.default

theorem hasDefaults_default : default.HasDefaults := by
  intro f
  rw [default, Field.Table.get_ofFn]

theorem hasDefaults_merge (sources : List Source) : (merge sources).HasDefaults := by
  intro f
  rw [merge, Field.Table.get_ofFn, ofReading]
  split
  · exact Layered.default_put ..
  · rfl

theorem HasDefaults.overrideAll {s : Settings} (h : s.HasDefaults) (os : List Override) :
    (s.overrideAll os).HasDefaults := by
  intro f
  rw [get_overrideAll]
  split
  · rw [Layered.default_put, h]
  · exact h f

end Settings

end TracerConfig
