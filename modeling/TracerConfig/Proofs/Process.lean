import Mathlib.Data.List.Induction
import TracerConfig.Agent
import TracerConfig.Proofs.Published
import TracerConfig.Step

/-!
# Runs of a process

Every entry point of the agent makes the handle if there is none yet. So the first call of a
process decides with which overrides it is made, and from then on there is this one handle, whose
configuration changes by reloads only.

Main definitions:
* `Agent.Action`, `Agent.step`, `Agent.run`: what is done with the agent, and what becomes of it.
* `Agent.firstCall?`, `Agent.lastResolved`: the call that makes the handle, and the surroundings
  that its configuration comes from.

Main statements:
* `handle_step_of_handle`, `handle_step_of_no_handle`: what a step does to the handle.
* `handle_run`: the handle after a run.
* `initialized_once`: the handle is made with the overrides of the first call, and asking for
  others later is refused with a warning.
-/

namespace TracerConfig.Agent

/-! ## Runs -/

/-- What is done with the agent. -/
inductive Action where
  | start (overrides : List Override)
  | ensure
  | current
  | access (accessor : Accessor)
  | reload
  /-- The handle is asked for and reloaded by itself. -/
  | reloadHandle
  /-- Something else in the process logs a record. -/
  | log (record : Log.Record)

namespace Action

/-- Whether the handle is asked for. Logging a record is no call. -/
def isCall : Action → Bool
  | start _ | ensure | current | access _ | reload | reloadHandle => true
  | log _ => false

/-- The overrides that a call makes the handle with, if it is the first call. -/
def overrides : Action → List Override
  | start os => os
  | ensure | current | access _ | reload | reloadHandle | log _ => []

/-- Whether the configuration is resolved anew in any case. -/
def isReload : Action → Bool
  | reload | reloadHandle => true
  | start _ | ensure | current | access _ | log _ => false

theorem isCall_of_isReload {x : Action} (h : x.isReload = true) : x.isCall = true := by
  cases x with
  | reload | reloadHandle => rfl
  | start | ensure | current | access | log => cases h

end Action

/-- What a step makes of the agent. -/
def step (a : Agent) (x : Step Action) : Agent :=
  match x.action with
  | .start os => (a.start x.surroundings os).2
  | .ensure => (a.ensure x.surroundings).2
  | .current => (a.current x.surroundings).2
  | .access accessor => (a.access x.surroundings accessor).2
  | .reload => (a.reload x.surroundings).2
  | .reloadHandle => (a.reloadHandle x.surroundings).2
  | .log r => a.log r

/-- What steps make of the agent of a new process. -/
def run (steps : List (Step Action)) : Agent := steps.foldl step {}

theorem run_concat (steps : List (Step Action)) (x : Step Action) :
    run (steps ++ [x]) = (run steps).step x :=
  List.foldl_append

/-- What is logged when overrides come too late. -/
def tooLate : Log.Record := .warn "Configuration: already initialized, ignoring the new options"

/-! ## What logging and making a handle leave behind -/

theorem threshold_logAll (a : Agent) (rs : List Log.Record) :
    (a.logAll rs).threshold = a.threshold := by
  induction rs generalizing a with
  | nil => rfl
  | cons r rest ih => exact ih (a.log r)

theorem handle_create (a : Agent) (s : Surroundings) (os : List Override) :
    (a.create s os).2.handle = some ⟨os, resolve s os⟩ := rfl

theorem threshold_create (a : Agent) (s : Surroundings) (os : List Override) :
    (a.create s os).2.threshold = (resolve s os).debugLevel := rfl

/-! ## A step -/

section

variable {a : Agent}

theorem ensure_of_handle {h : Handle} (ha : a.handle = some h) (s : Surroundings) :
    a.ensure s = (h, a) := by
  rw [ensure, ha]

theorem ensure_of_no_handle (ha : a.handle = none) (s : Surroundings) :
    a.ensure s = a.create s [] := by
  rw [ensure, ha]

theorem start_of_handle {h : Handle} (ha : a.handle = some h) (s : Surroundings)
    (os : List Override) : a.start s os = (h, a.log tooLate) := by
  rw [start, ha]
  rfl

theorem start_of_no_handle (ha : a.handle = none) (s : Surroundings) (os : List Override) :
    a.start s os = a.create s os := by
  rw [start, ha]

/-- By itself the handle is resolved anew, but the threshold stays. -/
theorem reloadHandle_of_handle {h : Handle} (ha : a.handle = some h) (s : Surroundings) :
    a.reloadHandle s =
      (resolve s h.overrides, { (a.create s h.overrides).2 with threshold := a.threshold }) := by
  rw [reloadHandle, ensure_of_handle ha, ← a.threshold_logAll (h.reloadLog s)]
  rfl

/-- A reload is as good as making the handle anew with the same overrides. -/
theorem reload_of_handle {h : Handle} (ha : a.handle = some h) (s : Surroundings) :
    (a.reload s).2 = (a.create s h.overrides).2 := by
  rw [reload, reloadHandle_of_handle ha]
  rfl

/-- Without a handle the handle is made first, and its threshold is already the one that the
second resolution calls for. -/
theorem reloadHandle_of_no_handle (ha : a.handle = none) (s : Surroundings) :
    a.reloadHandle s = (resolve s [], ((a.create s []).2.create s []).2) := by
  have hmade : (a.create s []).2.handle = some ⟨[], resolve s []⟩ := a.handle_create s []
  have hfirst : a.reloadHandle s = (a.create s []).2.reloadHandle s := by
    rw [reloadHandle, ensure_of_no_handle ha, reloadHandle, ensure_of_handle hmade]
    rfl
  rw [hfirst, reloadHandle_of_handle hmade, threshold_create]
  rfl

theorem reload_of_no_handle (ha : a.handle = none) (s : Surroundings) :
    (a.reload s).2 = ((a.create s []).2.create s []).2 := by
  rw [reload, reloadHandle_of_no_handle ha]
  rfl

/-- What a step does once there is a handle. -/
theorem step_of_handle {h : Handle} (ha : a.handle = some h) (s : Surroundings) (x : Action) :
    a.step ⟨s, x⟩ =
      match x with
      | .start _ => a.log tooLate
      | .ensure | .current | .access _ => a
      | .reload => (a.create s h.overrides).2
      | .reloadHandle => { (a.create s h.overrides).2 with threshold := a.threshold }
      | .log r => a.log r := by
  cases x with
  | start os => exact congrArg Prod.snd (start_of_handle ha s os)
  | ensure | current | access => exact congrArg Prod.snd (ensure_of_handle ha s)
  | reload => exact reload_of_handle ha s
  | reloadHandle => exact congrArg Prod.snd (reloadHandle_of_handle ha s)
  | log r => rfl

/-- What a step does as long as there is no handle. -/
theorem step_of_no_handle (ha : a.handle = none) (s : Surroundings) (x : Action) :
    a.step ⟨s, x⟩ =
      match x with
      | .start os => (a.create s os).2
      | .ensure | .current | .access _ => (a.create s []).2
      | .reload | .reloadHandle => ((a.create s []).2.create s []).2
      | .log r => a.log r := by
  cases x with
  | start os => exact congrArg Prod.snd (start_of_no_handle ha s os)
  | ensure | current | access => exact congrArg Prod.snd (ensure_of_no_handle ha s)
  | reload => exact reload_of_no_handle ha s
  | reloadHandle => exact congrArg Prod.snd (reloadHandle_of_no_handle ha s)
  | log r => rfl

/-- The first call makes the handle, and a reload right behind finds nothing new. -/
theorem handle_step_of_no_handle (ha : a.handle = none) (x : Step Action) :
    (a.step x).handle = if x.action.isCall then
      some ⟨x.action.overrides, resolve x.surroundings x.action.overrides⟩ else a.handle := by
  obtain ⟨s, x⟩ := x
  rw [step_of_no_handle ha]
  cases x with
  | start | ensure | current | access | reload | reloadHandle | log => rfl

/-- A handle stays the one that it is, and its configuration changes by reloads only. -/
theorem handle_step_of_handle {h : Handle} (ha : a.handle = some h) (x : Step Action) :
    (a.step x).handle = if x.action.isReload then
      some ⟨h.overrides, resolve x.surroundings h.overrides⟩ else a.handle := by
  obtain ⟨s, x⟩ := x
  rw [step_of_handle ha]
  cases x with
  | start | ensure | current | access | reload | reloadHandle | log => rfl

end

/-- The overrides of the first call stay for good. -/
theorem overrides_step (a : Agent) (x : Step Action) :
    (a.step x).handle.map (·.overrides) =
      (a.handle.map (·.overrides)).or
        (if x.action.isCall then some x.action.overrides else none) := by
  cases ha : a.handle with
  | none =>
    rw [handle_step_of_no_handle ha, ha]
    by_cases hcall : x.action.isCall <;> simp [hcall]
  | some h =>
    rw [handle_step_of_handle ha, ha]
    by_cases hreload : x.action.isReload <;> simp [hreload]

/-! ## A run -/

/-- The call that makes the handle. -/
def firstCall? (steps : List (Step Action)) : Option (Step Action) :=
  steps.find? fun x => x.action.isCall

theorem firstCall?_concat (steps : List (Step Action)) (x : Step Action) :
    firstCall? (steps ++ [x]) =
      (firstCall? steps).or (if x.action.isCall then some x else none) := by
  rw [firstCall?, List.find?_append, List.find?_singleton, firstCall?]

theorem overrides_run (steps : List (Step Action)) :
    (run steps).handle.map (·.overrides) = (firstCall? steps).map (·.action.overrides) := by
  induction steps using List.reverseRecOn with
  | nil => rfl
  | append_singleton steps x ih =>
    rw [run_concat, overrides_step, ih, firstCall?_concat, Option.map_or]
    by_cases hcall : x.action.isCall <;> simp [hcall]

/-- What holds of the agent after a run, if the first call settles it, and later on only calls of
a kind do, in the same way and with the overrides of the first call. -/
theorem settled_run {β : Type} (view : Agent → β) (settle : Surroundings → List Override → β)
    {kind : Action → Bool} (hkind : ∀ x : Action, kind x = true → x.isCall = true)
    (hfirst : ∀ (a : Agent) (x : Step Action), a.handle = none → view (a.step x) =
      if x.action.isCall then settle x.surroundings x.action.overrides else view a)
    (hlater : ∀ (a : Agent) (h : Handle) (x : Step Action), a.handle = some h → view (a.step x) =
      if kind x.action then settle x.surroundings h.overrides else view a)
    (steps : List (Step Action)) :
    view (run steps) = ((firstCall? steps).map fun first =>
      settle (Step.lastMet kind first.surroundings steps) first.action.overrides).getD
        (view {}) := by
  induction steps using List.reverseRecOn with
  | nil => rfl
  | append_singleton steps x ih =>
    have hkept := overrides_run steps
    rw [run_concat, firstCall?_concat]
    cases hcalled : firstCall? steps with
    | none =>
      rw [hcalled] at ih hkept
      -- without a call before there was no step of the kind either
      have hquiet : ∀ y ∈ steps, kind y.action = false := by
        intro y hy
        have hcall := List.find?_eq_none.mp hcalled y hy
        exact Bool.eq_false_iff.mpr fun h => hcall (hkind y.action h)
      rw [hfirst _ x (Option.map_eq_none_iff.mp hkept), ih, Option.none_or]
      by_cases hcall : x.action.isCall
      · rw [if_pos hcall, if_pos hcall, Option.map_some, Step.lastMet_concat,
          Step.lastMet_of_forall hquiet, ite_self, Option.getD_some]
      · rw [if_neg hcall, if_neg hcall]
        rfl
    | some first =>
      rw [hcalled] at ih hkept
      obtain ⟨h, hh, hos⟩ := Option.map_eq_some_iff.mp hkept
      rw [hlater _ h x hh, hos, ih, Option.some_or, Option.map_some, Option.map_some,
        Step.lastMet_concat]
      by_cases h : kind x.action
      · rw [if_pos h, if_pos h, Option.getD_some]
      · rw [if_neg h, if_neg h]

/-- The surroundings of the last reload, or of the first call if there was no reload. -/
def lastResolved (first : Step Action) (steps : List (Step Action)) : Surroundings :=
  Step.lastMet Action.isReload first.surroundings steps

/-- After a run the handle is the one that the first call made, with the configuration of the
last reload. -/
theorem handle_run (steps : List (Step Action)) :
    (run steps).handle = (firstCall? steps).map fun first =>
      ⟨first.action.overrides, resolve (lastResolved first steps) first.action.overrides⟩ := by
  rw [settled_run Agent.handle (fun s os => some ⟨os, resolve s os⟩)
    (fun _ => Action.isCall_of_isReload) (fun _ x ha => handle_step_of_no_handle ha x)
    (fun _ _ x ha => handle_step_of_handle ha x) steps]
  cases firstCall? steps <;> rfl

/-- The handle has the overrides of the first call for good, and the configuration that these come
to in the surroundings of the last reload. Starting the agent once more gives the same handle as
asking for it, and does nothing but log one warning. -/
theorem initialized_once (steps : List (Step Action)) :
    ((run steps).handle = (firstCall? steps).map fun first =>
      ⟨first.action.overrides, resolve (lastResolved first steps) first.action.overrides⟩) ∧
    ∀ h, (run steps).handle = some h → ∀ (s : Surroundings) (os : List Override),
      (run steps).ensure s = (h, run steps) ∧
      ((run steps).start s os).1 = h ∧
      ((run steps).start s os).2.handle = some h ∧
      ((run steps).start s os).2.threshold = (run steps).threshold ∧
      ((run steps).start s os).2.recorder.active = (run steps).recorder.active ++ [tooLate] := by
  refine ⟨handle_run steps, fun h hh s os => ?_⟩
  rw [start_of_handle hh]
  exact ⟨ensure_of_handle hh s, rfl, hh, rfl, rfl⟩

/-- A process that is started twice, and reloads its configuration when there is a file. -/
def startedTwice : List (Step Action) :=
  [⟨.bare, .log ⟨.debug, "loaded"⟩⟩, ⟨.bare, .start [⟨.hostAlias, "web-1"⟩]⟩,
    ⟨contested, .start [⟨.hostAlias, "web-2"⟩]⟩, ⟨contested, .reload⟩,
    ⟨.bare, .access .sampleRate⟩]

theorem initialized_once_startedTwice :
    (run startedTwice).handle =
      some ⟨[⟨.hostAlias, "web-1"⟩], resolve contested [⟨.hostAlias, "web-1"⟩]⟩ ∧
    ((run startedTwice).start .bare []).2.recorder.active =
      (run startedTwice).recorder.active ++ [tooLate] ∧
    ((run startedTwice).recorder.active.filter fun r => r = tooLate).length = 1 ∧
    ((run startedTwice).current .bare).1.sampleRate = 5 ∧
    ((run startedTwice).current .bare).1.hostAlias = "web-1" := by
  obtain ⟨hhandle, hlater⟩ := initialized_once startedTwice
  have hmade : (run startedTwice).handle =
      some ⟨[⟨.hostAlias, "web-1"⟩], resolve contested [⟨.hostAlias, "web-1"⟩]⟩ := hhandle
  exact ⟨hmade, (hlater _ hmade .bare []).2.2.2.2, by decide +kernel, by decide +kernel,
    by decide +kernel⟩

end TracerConfig.Agent
