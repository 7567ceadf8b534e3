import Mathlib.Data.List.Induction
import Mathlib.Data.List.Nodup
import TracerConfig.Proofs.Settings
import TracerConfig.Resolution

/-!
# Runs of a builder

A builder takes overrides one by one or several at once, and may be asked for its configuration
at any time. It remembers of each field the override made last, beside what its sources gave, and
is as it was after each configuration that it has built.

Main definitions:
* `Override.LastOf`: the overrides that count of all that were made.
* `Builder.Session`: a builder with the configurations that it has built, and `Session.run`, what
  becomes of it.

Main statements:
* `Override.LastOf.lastChoice?_eq`: the overrides that count make the same choices as all.
* `Session.builder_run`: a run leaves the builder with all overrides of the run, made in order.
* `Session.getElem?_built_run`: each configuration built is that of the builder of its time.
* `Session.built_run`: each is what a new builder builds from the overrides that count.
-/

namespace TracerConfig

/-! ## The overrides that count -/

/-- `kept` holds the overrides that count of those in `made`: of each field that was overridden
the last override, once. In which order is left open. -/
structure Override.LastOf (made kept : List Override) : Prop where
  nodup : (kept.map (·.field)).Nodup
  mem_iff : ∀ o, o ∈ kept ↔
    ∃ before after, made = before ++ o :: after ∧ ∀ o' ∈ after, o'.field ≠ o.field

/-- The choice for a field is that of the override that no later one of the field follows. -/
theorem lastChoice?_eq_some_iff {os : List Override} {f : Field} {c : f.Choice} :
    lastChoice? os f = some c ↔
      ∃ before after, os = before ++ ⟨f, c⟩ :: after ∧ ∀ o ∈ after, o.field ≠ f := by
  constructor
  · induction os using List.reverseRecOn with
    | nil => exact fun h => nomatch h
    | append_singleton os o ih =>
      intro h
      obtain ⟨g, d⟩ := o
      by_cases hg : g = f
      · subst hg
        have hd : d = c := by
          simpa [lastChoice?_append, lastChoice?_singleton, Override.choice?] using h
        exact ⟨os, [], by rw [hd], by simp⟩
      · have hrest : lastChoice? os f = some c := by
          simpa [lastChoice?_append, lastChoice?_singleton, Override.choice?, hg] using h
        obtain ⟨before, after, rfl, hafter⟩ := ih hrest
        refine ⟨before, after ++ [⟨g, d⟩], by simp, fun o ho => ?_⟩
        rcases List.mem_append.mp ho with hold | hnew
        · exact hafter o hold
        · rw [List.mem_singleton.mp hnew]
          exact hg
  · rintro ⟨before, after, rfl, hafter⟩
    have hnone : lastChoice? after f = none := lastChoice?_eq_none_iff.mpr hafter
    have hthis : Override.choice? f ⟨f, c⟩ = some c := dif_pos rfl
    rw [lastChoice?, List.getLast?_eq_none_iff] at hnone
    rw [lastChoice?, List.filterMap_append, List.filterMap_cons_some hthis, hnone,
      List.getLast?_concat]

/-- Of two overrides of different fields either may come first. -/
theorem lastChoice?_swap {o o' : Override} (h : o.field ≠ o'.field) (f : Field) :
    lastChoice? [o, o'] f = lastChoice? [o', o] f := by
  have hpair : ∀ x y : Override, lastChoice? [x, y] f = (y.choice? f).or (x.choice? f) := by
    intro x y
    rw [← lastChoice?_singleton x, ← lastChoice?_singleton y]
    exact lastChoice?_append [x] [y] f
  rw [hpair, hpair]
  -- at most one of them is about the field
  by_cases hf : o.field = f
  · rw [Override.choice?_of_ne fun hf' => h (hf.trans hf'.symm), Option.none_or, Option.or_none]
  · rw [Override.choice?_of_ne hf, Option.none_or, Option.or_none]

/-- Of two overrides of one field the first does not count. -/
theorem lastChoice?_replaced {o o' : Override} (h : o.field = o'.field) (f : Field) :
    lastChoice? [o, o'] f = lastChoice? [o'] f := by
  have happend : lastChoice? [o, o'] f = (lastChoice? [o'] f).or (lastChoice? [o] f) :=
    lastChoice?_append [o] [o'] f
  rw [happend, lastChoice?_singleton, lastChoice?_singleton]
  by_cases hf : o'.field = f
  · obtain ⟨c, hc⟩ := Override.exists_choice?_of_eq hf
    rw [hc, Option.some_or]
  · have ho : o.field ≠ f := fun ho => hf (h.symm.trans ho)
    rw [Override.choice?_of_ne ho, Option.or_none]

namespace Override

/-- What was chosen last for each field, as overrides. -/
def latest (made : List Override) : List Override :=
  Field.all.filterMap fun f => (lastChoice? made f).map (Override.mk f)

theorem lastOf_latest (made : List Override) : LastOf made (latest made) where
  nodup := by
    have hfields : (latest made).map (·.field) =
        Field.all.filterMap fun f => (lastChoice? made f).map fun _ => f := by
      simp [latest, List.map_filterMap, Function.comp_def]
    rw [hfields]
    refine Field.nodup_all.filterMap fun f g h hf hg => ?_
    obtain ⟨_, _, rfl⟩ := Option.map_eq_some_iff.mp hf
    obtain ⟨_, _, rfl⟩ := Option.map_eq_some_iff.mp hg
    rfl
  mem_iff o := by
    rw [← lastChoice?_eq_some_iff, latest, List.mem_filterMap]
    constructor
    · rintro ⟨f, _, h⟩
      obtain ⟨c, hc, rfl⟩ := Option.map_eq_some_iff.mp h
      exact hc
    · intro h
      exact ⟨o.field, Field.mem_all _, Option.map_eq_some_iff.mpr ⟨o.choice, h, rfl⟩⟩

/-- The overrides that count make the same choices as all. -/
theorem LastOf.lastChoice?_eq {made kept : List Override} (h : LastOf made kept) (f : Field) :
    lastChoice? kept f = lastChoice? made f := by
  refine Option.ext fun c => ?_
  have hmem : lastChoice? made f = some c ↔ (⟨f, c⟩ : Override) ∈ kept :=
    lastChoice?_eq_some_iff.trans (h.mem_iff ⟨f, c⟩).symm
  rw [hmem, lastChoice?_eq_some_iff]
  constructor
  · rintro ⟨before, after, rfl, _⟩
    exact List.mem_append_right _ (List.mem_cons_self ..)
  · intro hkept
    -- no other override of the field is among them
    obtain ⟨before, after, rfl⟩ := List.append_of_mem hkept
    refine ⟨before, after, rfl, fun o ho heq => ?_⟩
    have hnodup := h.nodup
    rw [List.map_append, List.map_cons] at hnodup
    have hfront := (List.nodup_cons.mp (List.nodup_append.mp hnodup).2.1).1
    have hmem : o.field ∈ after.map (·.field) := List.mem_map_of_mem ho
    rw [heq] at hmem
    exact hfront hmem

end Override

/-! ## Overrides of a builder -/

namespace Builder

theorem apply_append (b : Builder) (os os' : List Override) :
    b.apply (os ++ os') = (b.apply os).apply os' := by
  rw [apply, Settings.overrideAll, List.foldl_append]
  rfl

/-- A builder is determined by what was chosen last for each field. -/
theorem apply_congr (b : Builder) {os os' : List Override}
    (h : ∀ f, lastChoice? os f = lastChoice? os' f) : b.apply os = b.apply os' := by
  refine congrArg Builder.mk (Field.Table.ext_get fun f => ?_)
  rw [Settings.get_overrideAll, Settings.get_overrideAll, h]

/-- What is done with a builder. -/
inductive Action where
  | set (o : Override)
  | apply (os : List Override)
  | build

namespace Action

/-- The overrides that an action makes. -/
def overrides : Action → List Override
  | set o => [o]
  | apply os => os
  | build => []

/-- Whether an action asks for the configuration. -/
def isBuild : Action → Bool
  | build => true
  | set _ | apply _ => false

end Action

/-- The overrides that a list of actions makes, in order. -/
def made (actions : List Action) : List Override := actions.flatMap Action.overrides

theorem made_sets (os : List Override) : made (os.map .set) = os := by
  simp [made, List.flatMap_map, Action.overrides]

/-- A builder in use. -/
structure Session where
  builder : Builder
  /-- The configurations built so far, the oldest first. -/
  built : List Config := []

namespace Session

/-- A new builder for what sources give. -/
def create (sources : List Source) : Session where
  builder := ⟨.merge sources⟩

/-- Uses the builder. -/
def step (p : Session) : Action → Session
  | .set o => { p with builder := p.builder.set o }
  | .apply os => { p with builder := p.builder.apply os }
  | .build => { p with built := p.built ++ [p.builder.build] }

/-- What becomes of a session. -/
def run (p : Session) (actions : List Action) : Session := actions.foldl step p

theorem run_append (p : Session) (actions more : List Action) :
    p.run (actions ++ more) = (p.run actions).run more :=
  List.foldl_append

/-! ## A step -/

theorem builder_step (p : Session) (a : Action) :
    (p.step a).builder = p.builder.apply a.overrides := by
  cases a <;> rfl

theorem built_step (p : Session) (a : Action) :
    (p.step a).built = p.built ++ if a.isBuild then [p.builder.build] else [] := by
  cases a with
  | build => rfl
  | set o => exact (List.append_nil _).symm
  | apply os => exact (List.append_nil _).symm

/-! ## A run -/

/-- A run makes all its overrides in order, and building makes none. -/
theorem builder_run (p : Session) (actions : List Action) :
    (p.run actions).builder = p.builder.apply (made actions) := by
  induction actions generalizing p with
  | nil => rfl
  | cons a rest ih =>
    have hstep : p.run (a :: rest) = (p.step a).run rest := rfl
    rw [hstep, ih, builder_step, ← apply_append]
    rfl

theorem length_built_run (p : Session) (actions : List Action) :
    (p.run actions).built.length = p.built.length + actions.countP Action.isBuild := by
  induction actions generalizing p with
  | nil => rfl
  | cons a rest ih =>
    have hstep : p.run (a :: rest) = (p.step a).run rest := rfl
    rw [hstep, ih, built_step, List.countP_cons, List.length_append]
    cases a.isBuild <;> simp; omega

/-- What was built stays built. -/
theorem built_isPrefix (p : Session) (more : List Action) :
    p.built <+: (p.run more).built := by
  induction more generalizing p with
  | nil => exact List.prefix_rfl
  | cons a rest ih =>
    refine List.IsPrefix.trans ?_ (ih (p.step a))
    rw [built_step]
    exact List.prefix_append ..

/-- Each configuration built is that of the builder of its time. -/
theorem getElem?_built_run (p : Session) (before after : List Action) :
    (p.run (before ++ .build :: after)).built[p.built.length + before.countP Action.isBuild]? =
      some (p.run before).builder.build := by
  have hsplit : p.run (before ++ .build :: after) = ((p.run before).step .build).run after :=
    run_append p before (.build :: after)
  have hbuilt : ((p.run before).step .build).built =
      (p.run before).built ++ [(p.run before).builder.build] := rfl
  obtain ⟨later, hlater⟩ := built_isPrefix ((p.run before).step .build) after
  rw [hsplit, ← length_built_run, ← hlater, hbuilt, List.append_assoc, List.singleton_append,
    List.getElem?_append_right (Nat.le_refl _), Nat.sub_self, List.getElem?_cons_zero]

/-- Setting fields and then building gives one configuration. -/
theorem built_run_sets (p : Session) (os : List Override) :
    (p.run (os.map .set ++ [.build])).built = p.built ++ [(p.builder.apply os).build] := by
  have hnone : (os.map Action.set).countP Action.isBuild = 0 := by
    simp [List.countP_eq_zero, Action.isBuild]
  have hlength : p.built.length = (p.run (os.map .set)).built.length := by
    rw [length_built_run, hnone, Nat.add_zero]
  have hkept : p.built = (p.run (os.map .set)).built :=
    (built_isPrefix p (os.map .set)).eq_of_length hlength
  have hbuilder : (p.run (os.map .set)).builder = p.builder.apply os := by
    rw [builder_run, made_sets]
  have hbuild : p.run (os.map .set ++ [.build]) = (p.run (os.map .set)).step .build :=
    run_append p (os.map .set) [.build]
  rw [hbuild, built_step, hbuilder, ← hkept]
  rfl

/-- Runs that go on with the same last choices leave the same builder. -/
theorem builder_run_congr (p : Session) (before : List Action) {more more' : List Action}
    (h : ∀ f, lastChoice? (made more) f = lastChoice? (made more') f) :
    (p.run (before ++ more)).builder = (p.run (before ++ more')).builder := by
  rw [run_append, run_append, builder_run (p.run before) more, builder_run (p.run before) more',
    apply_congr _ h]

/-- Every configuration built in a run is the one that a new builder over the same sources builds
after the overrides that count of those made so far, once each and in any order. Building leaves
the builder as it is; overrides of two fields may change places, and of two overrides of one
field the first does not count. -/
theorem built_run (sources : List Source) (before after : List Action) :
    let p := (create sources).run (before ++ .build :: after)
    (∃ kept, Override.LastOf (made before) kept) ∧
    (∀ kept, Override.LastOf (made before) kept →
      ∃ c, p.built[before.countP Action.isBuild]? = some c ∧
        ((create sources).run (kept.map .set ++ [.build])).built = [c]) ∧
    p.builder = ((create sources).run (before ++ after)).builder ∧
    (∀ o o' : Override, o.field ≠ o'.field →
      ((create sources).run (before ++ [.set o, .set o'])).builder =
        ((create sources).run (before ++ [.set o', .set o])).builder) ∧
    ∀ o o' : Override, o.field = o'.field →
      ((create sources).run (before ++ [.set o, .set o'])).builder =
        ((create sources).run (before ++ [.set o'])).builder := by
  intro p
  refine ⟨⟨_, Override.lastOf_latest _⟩, fun kept hkept =>
      ⟨((create sources).run before).builder.build, ?_, ?_⟩,
    builder_run_congr _ before fun f => rfl,
    fun o o' hne => builder_run_congr _ before (lastChoice?_swap hne),
    fun o o' heq => builder_run_congr _ before (lastChoice?_replaced heq)⟩
  · have hbuilt := getElem?_built_run (create sources) before after
    rwa [show (create sources).built.length = 0 from rfl, Nat.zero_add] at hbuilt
  · have hsame : (create sources).builder.apply kept = ((create sources).run before).builder := by
      rw [builder_run]
      exact apply_congr _ hkept.lastChoice?_eq
    rw [built_run_sets, hsame]
    rfl

/-- An environment with an ill-formed key, an alias and a valid precision. -/
def lived : Source :=
  .ofEnvironment .environment fun name =>
    if name = "APPOPTICS_SERVICE_KEY" then some "none"
    else if name = "APPOPTICS_HOSTNAME_ALIAS" then some "env"
    else if name = "APPOPTICS_HISTOGRAM_PRECISION" then some "3"
    else none

/-- Every build drops the key again. The second and the last also drop the precision, and with it
the one from the environment; the third has the precision and the alias chosen last. -/
theorem built_run_lived :
    let before : List Action :=
      [.build, .set ⟨.precision, (11 : UInt32)⟩, .build,
        .apply [⟨.hostAlias, "a"⟩, ⟨.precision, (5 : UInt32)⟩], .set ⟨.hostAlias, "b"⟩]
    let after : List Action := [.set ⟨.precision, (12 : UInt32)⟩, .build]
    let kept : List Override := [⟨.hostAlias, "b"⟩, ⟨.precision, (5 : UInt32)⟩]
    let p := (create [lived]).run (before ++ .build :: after)
    Override.LastOf (made before) kept ∧
    (∃ c, p.built[2]? = some c ∧ ((create [lived]).run (kept.map .set ++ [.build])).built = [c]) ∧
    (p.built.map fun c => (c.discarded.map (·.field), c.precision, c.hostAlias)) =
      [([.serviceKey], 3, "env"), ([.serviceKey, .precision], 2, "env"),
        ([.serviceKey], 5, "b"), ([.serviceKey, .precision], 2, "b")] := by
  intro before after kept p
  have hkept : Override.LastOf (made before) kept := Override.lastOf_latest (made before)
  exact ⟨hkept, (built_run [lived] before after).2.1 kept hkept, by decide +kernel⟩

end Session

end Builder

end TracerConfig
