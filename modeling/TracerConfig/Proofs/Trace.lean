import TracerConfig.Proofs.Threshold

/-!
# What a run shows

A record is shown by the threshold that is in force when it is logged. So the records of a
resolution are shown by the level of the configuration before it, and a reload that has to make
the handle first shows records by two levels.

Main definitions:
* `Trace`: what happens in a run, records and publications in order. `Trace.visible`: the records
  that it is right to show.
* `Agent.trace`: the trace that steps call for.
* `Agent.HasPast`: the state of an agent is what a trace comes to.

Main statements:
* `HasPast.step`: a step adds what it brings about to the past.
* `shown_run`: what a run shows, and what it records.
-/

namespace TracerConfig

/-! ## Traces -/

/-- What can be noticed of a process. -/
inductive Event where
  | logged (record : Log.Record)
  | published (config : Config)

namespace Event

/-- The record that is logged. -/
def record? : Event → Option Log.Record
  | logged r => some r
  | published _ => none

/-- The configuration that is put in force. -/
def config? : Event → Option Config
  | logged _ => none
  | published c => some c

end Event

/-- What happened, in order. -/
abbrev Trace := List Event

namespace Trace

/-- The records that were logged. -/
def records (t : Trace) : List Log.Record := t.filterMap Event.record?

/-- The configuration that was published last. -/
def inForce? (t : Trace) : Option Config := (t.filterMap Event.config?).getLast?

/-- The level of the configuration that was published last, or warnings if none was. -/
def level (t : Trace) : Log.Threshold := (t.inForce?.map Config.debugLevel).getD .warn

/-- The records that are not above the level of the configuration that was published last before
they were logged. -/
def visible (t : Trace) : List Log.Record :=
  (List.range t.length).filterMap fun i =>
    (t[i]?.bind Event.record?).filter fun r => r.level.rank ≤ (level (t.take i)).rank

/-- Whether a record that comes last is visible depends on all that came before. -/
theorem visible_concat (t : Trace) (e : Event) :
    visible (t ++ [e]) =
      visible t ++ (e.record?.filter fun r => r.level.rank ≤ t.level.rank).toList := by
  have hpast : ∀ i ∈ List.range t.length,
      (((t ++ [e])[i]?.bind Event.record?).filter fun r =>
        r.level.rank ≤ (level ((t ++ [e]).take i)).rank) =
      (t[i]?.bind Event.record?).filter fun r => r.level.rank ≤ (level (t.take i)).rank := by
    intro i hi
    have hlt := List.mem_range.mp hi
    rw [List.getElem?_append_left hlt, List.take_append_of_le_length (Nat.le_of_lt hlt)]
  have hlast : (t ++ [e])[t.length]?.bind Event.record? = e.record? := by
    rw [List.getElem?_concat_length, Option.bind_some]
  rw [visible, List.length_append, List.length_singleton, List.range_succ, List.filterMap_append,
    List.filterMap_congr hpast, ← visible, List.filterMap_cons, List.filterMap_nil, hlast,
    List.take_left]
  cases e.record?.filter fun r => r.level.rank ≤ t.level.rank <;> rfl

theorem visible_logged (t : Trace) (r : Log.Record) :
    visible (t ++ [.logged r]) =
      if r.level.rank ≤ t.level.rank then visible t ++ [r] else visible t := by
  rw [visible_concat, Event.record?, Option.filter_some]
  simp only [decide_eq_true_eq]
  split
  · rfl
  · exact List.append_nil _

theorem visible_published (t : Trace) (c : Config) :
    visible (t ++ [.published c]) = visible t := by
  rw [visible_concat]
  exact List.append_nil _

@[simp]
theorem records_append (t t' : Trace) : records (t ++ t') = records t ++ records t' :=
  List.filterMap_append

@[simp]
theorem inForce?_logged (t : Trace) (r : Log.Record) : inForce? (t ++ [.logged r]) = inForce? t := by
  rw [inForce?, List.filterMap_append, inForce?]
  exact congrArg List.getLast? (List.append_nil _)

@[simp]
theorem inForce?_published (t : Trace) (c : Config) :
    inForce? (t ++ [.published c]) = some c := by
  rw [inForce?, List.filterMap_append]
  exact List.getLast?_concat

end Trace

namespace Agent

/-! ## What steps bring about -/

/-- What a resolution brings about. Its records come in front of what it publishes. -/
def resolution (s : Surroundings) (os : List Override) : Trace :=
  (resolveLog s os).map .logged ++ [.published (resolve s os)]

/-- What an action brings about, given the overrides of the handle if there is one already. -/
def Action.events (s : Surroundings) : Option (List Override) → Action → Trace
  | none, .start os => resolution s os
  | some _, .start _ => [.logged tooLate]
  | none, .ensure | none, .current | none, .access _ => resolution s []
  | some _, .ensure | some _, .current | some _, .access _ => []
  | none, .reload | none, .reloadHandle => resolution s [] ++ resolution s []
  | some os, .reload | some os, .reloadHandle => resolution s os
  | _, .log r => [.logged r]

/-- What steps bring about, given the overrides of the handle if there is one already. -/
def traceFrom (kept : Option (List Override)) : List (Step Action) → Trace
  | [] => []
  | x :: rest =>
    x.action.events x.surroundings kept ++
      traceFrom (kept.or (if x.action.isCall then some x.action.overrides else none)) rest

/-- What steps bring about in a new process. -/
def trace (steps : List (Step Action)) : Trace := traceFrom none steps

/-! ## What an agent shows -/

/-- A trace is the past of an agent. -/
structure HasPast (a : Agent) (t : Trace) : Prop where
  current : a.handle.map (·.current) = t.inForce?
  threshold : a.threshold = t.level
  recorded : a.recorder.active = t.records
  shown : a.shown = t.visible

namespace HasPast

variable {a : Agent} {t : Trace}

theorem log (h : a.HasPast t) (r : Log.Record) : (a.log r).HasPast (t ++ [.logged r]) where
  current := by
    rw [Trace.inForce?_logged]
    exact h.current
  threshold := by
    rw [Trace.level, Trace.inForce?_logged]
    exact h.threshold
  recorded := by
    rw [Trace.records_append, ← h.recorded]
    rfl
  shown := by
    rw [Trace.visible_logged, ← h.shown, ← h.threshold, Agent.log]
    simp only [Log.Threshold.shows_iff]

theorem logAll (h : a.HasPast t) (rs : List Log.Record) :
    (a.logAll rs).HasPast (t ++ rs.map .logged) := by
  induction rs generalizing a t with
  | nil => rwa [List.map_nil, List.append_nil]
  | cons r rest ih =>
    rw [List.map_cons, List.append_cons]
    exact ih (h.log r)

/-- A resolution whose level is applied goes into the past as a whole. -/
theorem create (h : a.HasPast t) (s : Surroundings) (os : List Override) :
    (a.create s os).2.HasPast (t ++ resolution s os) := by
  have hlogged := h.logAll (resolveLog s os)
  rw [resolution, ← List.append_assoc]
  exact
    { current := (Trace.inForce?_published _ _).symm
      threshold := by
        rw [Trace.level, Trace.inForce?_published]
        rfl
      recorded := by
        rw [Trace.records_append, ← hlogged.recorded]
        exact (List.append_nil _).symm
      shown := by
        rw [Trace.visible_published, ← hlogged.shown]
        rfl }

/-- What a step brings about goes into the past, if the handle does not publish by itself. -/
theorem step (h : a.HasPast t) {x : Step Action} (hown : x.action ≠ .reloadHandle) :
    (a.step x).HasPast
      (t ++ x.action.events x.surroundings (a.handle.map (·.overrides))) := by
  obtain ⟨s, x⟩ := x
  cases ha : a.handle with
  | none =>
    rw [step_of_no_handle ha]
    cases x with
    | start os => exact h.create s os
    | ensure | current | access => exact h.create s []
    | reload =>
      have htwice := (h.create s []).create s []
      rwa [List.append_assoc] at htwice
    | reloadHandle => exact absurd rfl hown
    | log r => exact h.log r
  | some handle =>
    rw [step_of_handle ha]
    cases x with
    | start os => exact h.log tooLate
    | ensure | current | access =>
      rw [← List.append_nil t] at h
      exact h
    | reload => exact h.create s handle.overrides
    | reloadHandle => exact absurd rfl hown
    | log r => exact h.log r

theorem foldl_step {steps : List (Step Action)} (hown : ∀ x ∈ steps, x.action ≠ .reloadHandle)
    (h : a.HasPast t) :
    (steps.foldl Agent.step a).HasPast (t ++ traceFrom (a.handle.map (·.overrides)) steps) := by
  induction steps generalizing a t with
  | nil => rwa [traceFrom, List.append_nil]
  | cons x rest ih =>
    obtain ⟨hx, hrest⟩ := List.forall_mem_cons.mp hown
    rw [traceFrom, ← overrides_step, ← List.append_assoc]
    exact ih hrest (h.step hx)

end HasPast

/-- A run of the agent's own entry points shows exactly the records that are not above the level of
the configuration that was published last before they were logged, and it records all of them. -/
theorem shown_run {steps : List (Step Action)} (hown : ∀ x ∈ steps, x.action ≠ .reloadHandle) :
    (run steps).shown = (trace steps).visible ∧
    (run steps).recorder.active = (trace steps).records ∧
    (run steps).handle.map (·.current) = (trace steps).inForce? := by
  have hnew : ({} : Agent).HasPast [] := ⟨rfl, rfl, rfl, rfl⟩
  have hpast : (run steps).HasPast (trace steps) := hnew.foldl_step hown
  exact ⟨hpast.shown, hpast.recorded, hpast.current⟩

/-- The first call is a reload, which resolves twice; the level goes up by it, and down later. -/
def upAndDown : List (Step Action) :=
  [⟨.bare, .log ⟨.info, "loaded"⟩⟩, ⟨asking "debug", .reload⟩, ⟨asking "off", .current⟩,
    ⟨asking "off", .log ⟨.debug, "found"⟩⟩, ⟨asking "off", .reload⟩, ⟨.bare, .log ⟨.error, "lost"⟩⟩]

theorem shown_run_upAndDown :
    (∀ x ∈ upAndDown, x.action ≠ .reloadHandle) ∧
    (run upAndDown).shown = (trace upAndDown).visible ∧
    (run upAndDown).recorder.active = (trace upAndDown).records ∧
    (run upAndDown).shown.map (·.level) = [.warn, .warn, .info, .debug, .warn, .info] ∧
    (run upAndDown).recorder.active.map (·.level) =
      [.info, .warn, .info, .warn, .info, .debug, .warn, .info, .error] := by
  have hown : ∀ x ∈ upAndDown, x.action ≠ .reloadHandle := by simp [upAndDown]
  obtain ⟨hshown, hrecorded, -⟩ := shown_run hown
  exact ⟨hown, hshown, hrecorded, by decide +kernel, by decide +kernel⟩

end Agent

end TracerConfig
