import TracerConfig.Proofs.Process

/-!
# The threshold

The threshold is the level of a configuration: of the one that the agent published last. What the
handle publishes by itself, the threshold does not follow.

Main definitions:
* `Agent.lastFollowed`: the surroundings that the threshold comes from.

Main statements:
* `threshold_run`: the threshold after a run.
* `threshold_eq_debugLevel_iff`: when it is the level of the configuration in force.
-/

namespace TracerConfig.Agent

/-! ## After a run -/

/-- Whether the configuration is resolved anew in any case, and the threshold follows it. -/
def Action.isFollowed : Action → Bool
  | reload => true
  | start _ | ensure | current | access _ | reloadHandle | log _ => false

theorem Action.isCall_of_isFollowed {x : Action} (h : x.isFollowed = true) : x.isCall = true := by
  cases x with
  | reload => rfl
  | start | ensure | current | access | reloadHandle | log => cases h

section

variable {a : Agent}

theorem threshold_step_of_no_handle (ha : a.handle = none) (x : Step Action) :
    (a.step x).threshold = if x.action.isCall then
      (resolve x.surroundings x.action.overrides).debugLevel else a.threshold := by
  obtain ⟨s, x⟩ := x
  rw [step_of_no_handle ha]
  cases x with
  | start | ensure | current | access | reload | reloadHandle | log => rfl

theorem threshold_step_of_handle {h : Handle} (ha : a.handle = some h) (x : Step Action) :
    (a.step x).threshold = if x.action.isFollowed then
      (resolve x.surroundings h.overrides).debugLevel else a.threshold := by
  obtain ⟨s, x⟩ := x
  rw [step_of_handle ha]
  cases x with
  | start | ensure | current | access | reload | reloadHandle | log => rfl

end

/-- The surroundings of the last reload that the threshold followed, or of the first call if there
was none. -/
def lastFollowed (first : Step Action) (steps : List (Step Action)) : Surroundings :=
  Step.lastMet Action.isFollowed first.surroundings steps

/-- Warnings are shown until the first call. -/
theorem threshold_run (steps : List (Step Action)) :
    (run steps).threshold = ((firstCall? steps).map fun first =>
      (resolve (lastFollowed first steps) first.action.overrides).debugLevel).getD .warn :=
  settled_run Agent.threshold (fun s os => (resolve s os).debugLevel)
    (fun _ => Action.isCall_of_isFollowed) (fun _ x ha => threshold_step_of_no_handle ha x)
    (fun _ _ x ha => threshold_step_of_handle ha x) steps

/-- Without reloads of the handle by itself, the threshold follows every reload. -/
theorem lastFollowed_eq_lastResolved {steps : List (Step Action)}
    (h : ∀ x ∈ steps, x.action ≠ .reloadHandle) (first : Step Action) :
    lastFollowed first steps = lastResolved first steps := by
  refine Step.lastMet_congr (fun x hx => ?_) first.surroundings
  cases hx' : x.action with
  | reloadHandle => exact absurd hx' (h x hx)
  | start | ensure | current | access | reload | log => rfl

/-! ## And the configuration in force -/

theorem current_run {steps : List (Step Action)} {first : Step Action}
    (hfirst : firstCall? steps = some first) (s : Surroundings) :
    ((run steps).current s).1 = resolve (lastResolved first steps) first.action.overrides := by
  have hhandle := handle_run steps
  rw [hfirst] at hhandle
  rw [current, ensure_of_handle hhandle]

/-- Once there is a handle, the threshold is the level of the configuration in force just if the
last reload that it followed came to the same level as the last reload. This is always so if the
handle was never reloaded by itself. -/
theorem threshold_eq_debugLevel_iff {steps : List (Step Action)} {first : Step Action}
    (hfirst : firstCall? steps = some first) (s : Surroundings) :
    ((run steps).threshold = ((run steps).current s).1.debugLevel ↔
      (resolve (lastFollowed first steps) first.action.overrides).debugLevel =
        (resolve (lastResolved first steps) first.action.overrides).debugLevel) ∧
    ((∀ x ∈ steps, x.action ≠ .reloadHandle) →
      (run steps).threshold = ((run steps).current s).1.debugLevel) := by
  have hlevel : (run steps).threshold =
      (resolve (lastFollowed first steps) first.action.overrides).debugLevel := by
    rw [threshold_run, hfirst]
    rfl
  rw [hlevel, current_run hfirst]
  refine ⟨Iff.rfl, fun hown => ?_⟩
  rw [lastFollowed_eq_lastResolved hown]

/-- Surroundings that ask for a level, and give a precision that is out of range. -/
def asking (word : String) : Surroundings where
  source := .ofEnvironment .environment fun name =>
    if name = "APPOPTICS_DEBUG_LEVEL" then some word
    else if name = "APPOPTICS_HISTOGRAM_PRECISION" then some "99"
    else none
  files := File.Tree.empty

/-- The handle is reloaded by itself, when the surroundings have come to ask for more. -/
def reloadedBehind : List (Step Action) := [⟨.bare, .start []⟩, ⟨asking "debug", .reloadHandle⟩]

/-- The agent is reloaded then. -/
def reloadedAhead : List (Step Action) := [⟨.bare, .start []⟩, ⟨asking "debug", .reload⟩]

/-- So the threshold is not the level of the configuration in force in every state. -/
theorem stale_reloadedBehind :
    (run reloadedBehind).threshold = .warn ∧
    ((run reloadedBehind).current .bare).1.debugLevel = .debug := by
  decide +kernel

theorem threshold_eq_debugLevel_iff_reloaded :
    (firstCall? reloadedBehind = some ⟨.bare, .start []⟩ ∧
      (run reloadedBehind).threshold ≠ ((run reloadedBehind).current .bare).1.debugLevel) ∧
    firstCall? reloadedAhead = some ⟨.bare, .start []⟩ ∧
      (∀ x ∈ reloadedAhead, x.action ≠ .reloadHandle) ∧
      (run reloadedAhead).threshold = ((run reloadedAhead).current .bare).1.debugLevel := by
  have hbehind : firstCall? reloadedBehind = some ⟨.bare, .start []⟩ := rfl
  have hahead : firstCall? reloadedAhead = some ⟨.bare, .start []⟩ := rfl
  have hlevels : (resolve .bare []).debugLevel ≠ (resolve (asking "debug") []).debugLevel := by
    decide +kernel
  have hown : ∀ x ∈ reloadedAhead, x.action ≠ .reloadHandle := by simp [reloadedAhead]
  exact ⟨⟨hbehind, fun h => hlevels ((threshold_eq_debugLevel_iff hbehind .bare).1.mp h)⟩,
    hahead, hown, (threshold_eq_debugLevel_iff hahead .bare).2 hown⟩

end TracerConfig.Agent
