import Mathlib.Data.List.Induction
import TracerConfig.Handle
import TracerConfig.Step

/-!
# Runs of a handle

A handle remembers its overrides, and of its surroundings nothing: whatever happened before, a
reload comes to what a new handle would come to, and a configuration that was handed out once
stays as it is.

Main definitions:
* `Handle.Session`: a handle with all configurations it handed out, and all records it logged.
* `Handle.Session.run`: what becomes of it.

Main statements:
* `overrides_run`, `current_run`, `handedOut_run`: the overrides stay, and each configuration
  handed out is that of the last reload.
* `run_forgets`: a run has no memory but the overrides.
-/

namespace TracerConfig.Handle

/-- What is done with a handle. -/
inductive Action where
  | read
  | reload
deriving DecidableEq, Repr

/-- A handle in use. -/
structure Session where
  handle : Handle
  /-- The configurations that reading and reloading gave, the oldest first. -/
  handedOut : List Config := []
  log : List Log.Record

namespace Session

/-- A new handle, and what is logged by making it. -/
def create (s : Surroundings) (os : List Override) : Session where
  handle := Handle.create s os
  log := resolveLog s os

/-- Reads the handle, or reloads it in the surroundings of the step. -/
def step (p : Session) (x : Step Action) : Session :=
  match x.action with
  | .read => { p with handedOut := p.handedOut ++ [p.handle.current] }
  | .reload =>
    { handle := p.handle.reload x.surroundings
      handedOut := p.handedOut ++ [(p.handle.reload x.surroundings).current]
      log := p.log ++ p.handle.reloadLog x.surroundings }

/-- What becomes of a session. -/
def run (p : Session) (steps : List (Step Action)) : Session := steps.foldl step p

/-- The surroundings of the last reload, or those the handle was made in. -/
def lastResolved (s : Surroundings) (steps : List (Step Action)) : Surroundings :=
  Step.lastMet (· = .reload) s steps

/-! ## A step -/

theorem run_concat (p : Session) (steps : List (Step Action)) (x : Step Action) :
    p.run (steps ++ [x]) = (p.run steps).step x :=
  List.foldl_append

theorem overrides_step (p : Session) (x : Step Action) :
    (p.step x).handle.overrides = p.handle.overrides := by
  obtain ⟨s, action⟩ := x
  cases action with
  | read => rfl
  | reload => exact Handle.overrides_reload p.handle s

/-- A step hands out the configuration that is then in force. -/
theorem handedOut_step (p : Session) (x : Step Action) :
    (p.step x).handedOut = p.handedOut ++ [(p.step x).handle.current] := by
  obtain ⟨s, action⟩ := x
  cases action <;> rfl

/-! ## A run -/

section

variable (s : Surroundings) (os : List Override) (steps : List (Step Action))

theorem overrides_run : ((create s os).run steps).handle.overrides = os := by
  induction steps using List.reverseRecOn with
  | nil => rfl
  | append_singleton steps x ih => rw [run_concat, overrides_step, ih]

/-- In force is the configuration of the last reload, or that of the creation. -/
theorem current_run :
    ((create s os).run steps).handle.current = resolve (lastResolved s steps) os := by
  induction steps using List.reverseRecOn with
  | nil => rfl
  | append_singleton steps x ih =>
    obtain ⟨s', action⟩ := x
    rw [run_concat, lastResolved, Step.lastMet_concat]
    cases action with
    | read => exact ih
    | reload =>
      have hreload : (((create s os).run steps).step ⟨s', .reload⟩).handle.current =
          resolve s' ((create s os).run steps).handle.overrides := Handle.current_reload _ s'
      rw [hreload, overrides_run]
      rfl

/-- Each configuration handed out is the one that was in force then. -/
theorem handedOut_run :
    ((create s os).run steps).handedOut =
      (List.range steps.length).map fun i => resolve (lastResolved s (steps.take (i + 1))) os := by
  induction steps using List.reverseRecOn with
  | nil => rfl
  | append_singleton steps x ih =>
    -- what was handed out before depends on the steps before
    have hpast : ∀ i ∈ List.range steps.length,
        resolve (lastResolved s (steps.take (i + 1))) os =
          resolve (lastResolved s ((steps ++ [x]).take (i + 1))) os := by
      intro i hi
      rw [List.take_append_of_le_length (List.mem_range.mp hi)]
    have hall : (steps ++ [x]).take (steps.length + 1) = steps ++ [x] :=
      List.take_of_length_le (Nat.le_of_eq List.length_append)
    have hnow : (((create s os).run steps).step x).handle.current =
        resolve (lastResolved s (steps ++ [x])) os := by
      rw [← run_concat, current_run]
    rw [run_concat, handedOut_step, hnow, ih, List.map_congr_left hpast, List.length_append,
      List.length_singleton, List.range_succ, List.map_append, List.map_singleton, hall]

end

/-- What was handed out is handed out for good. -/
theorem handedOut_isPrefix (p : Session) (more : List (Step Action)) :
    p.handedOut <+: (p.run more).handedOut := by
  induction more using List.reverseRecOn with
  | nil => exact List.prefix_rfl
  | append_singleton more x ih =>
    rw [run_concat, handedOut_step]
    exact ih.trans (List.prefix_append ..)

/-- After any run the handle has the configuration of the last reload, or that of its creation;
the configurations handed out on the way are those that were in force then, and no later step
changes them. A reload gives the configuration, with its report, its filters and the values it
dropped, and logs the records of a new handle with the same overrides. This is also what a builder
with these overrides builds. -/
theorem run_forgets (s : Surroundings) (os : List Override) (steps : List (Step Action)) :
    let p := (create s os).run steps
    p.handle.current = resolve (lastResolved s steps) os ∧
    (p.handedOut = (List.range steps.length).map fun i =>
      resolve (lastResolved s (steps.take (i + 1))) os) ∧
    (∀ more, p.handedOut <+: (p.run more).handedOut) ∧
    ∀ s' : Surroundings,
      (p.step ⟨s', .reload⟩).handle.current = (create s' os).handle.current ∧
      (p.step ⟨s', .reload⟩).log = p.log ++ (create s' os).log ∧
      (p.step ⟨s', .reload⟩).handle.current = ((Builder.start s').apply os).build := by
  intro p
  have hkept : p.handle.overrides = os := overrides_run s os steps
  have hreload : ∀ s' : Surroundings,
      (p.step ⟨s', .reload⟩).handle.current = (create s' os).handle.current := by
    intro s'
    rw [← hkept]
    exact Handle.current_reload p.handle s'
  refine ⟨current_run s os steps, handedOut_run s os steps, handedOut_isPrefix p, fun s' =>
    ⟨hreload s', ?_, hreload s'⟩⟩
  have hlog : (p.step ⟨s', .reload⟩).log = p.log ++ resolveLog s' p.handle.overrides := rfl
  rw [hlog, hkept]
  rfl

end Session

end TracerConfig.Handle
