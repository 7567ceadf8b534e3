import TracerConfig.Handle
import TracerConfig.Log.Recorder

/-!
# The agent of a process

A process has one handle, made by whatever asks for it first. The agent's threshold decides
which records are shown; it follows the configuration, but only after a resolution is over, so
the records of a resolution are still shown by the threshold before it.

Main definitions:
* `Agent`: the handle, the threshold, and the records logged and shown so far.
* `Agent.start`, `Agent.ensure`, `Agent.reload`, `Agent.reloadHandle`.
* `Accessor`, `Agent.access`: single settings of the configuration in force.

Main statement: `Agent.active_logAll`, what the recorder holds after records were logged.
-/

namespace TracerConfig

/-! ## Single settings -/

/-- The settings that can be asked for by themselves. -/
inductive Accessor where
  | collector
  | collectorUdp
  | serviceKey
  | hostAlias
  | skipVerify
  | trustedPath
  | tracingMode
  | sampleRate
  | disabled
  | samplingConfigured
deriving DecidableEq, Repr

namespace Accessor

/-- The type of a setting. -/
def Value : Accessor → Type
  | collector | collectorUdp | serviceKey | hostAlias | trustedPath => String
  | skipVerify | disabled | samplingConfigured => Bool
  | tracingMode => TracingMode
  | sampleRate => Nat

/-- The setting in a configuration. -/
def view : (x : Accessor) → Config → x.Value
  | collector => Config.collector
  | collectorUdp => Config.collectorUdp
  | serviceKey => Config.serviceKey
  | hostAlias => Config.hostAlias
  | skipVerify => Config.skipVerify
  | trustedPath => Config.trustedPath
  | tracingMode => Config.tracingMode
  | sampleRate => Config.sampleRate
  | disabled => Config.disabled
  | samplingConfigured => Config.samplingConfigured

end Accessor

/-! ## The agent -/

/-- The state of a process. -/
structure Agent where
  handle : Option Handle := none
  threshold : Log.Threshold := default
  /-- All records since they were last taken. -/
  recorder : Log.Recorder := {}
  /-- The records shown since the process started. -/
  shown : List Log.Record := []

namespace Agent

/-- Logs a record, and shows it if its level is high enough. -/
def log (a : Agent) (r : Log.Record) : Agent :=
  { a with
    recorder := a.recorder.log r
    shown := if a.threshold.shows r.level then a.shown ++ [r] else a.shown }

/-- Logs records in order. -/
def logAll (a : Agent) (rs : List Log.Record) : Agent := rs.foldl log a

/-- The recorder keeps all of them, whatever is shown. -/
theorem active_logAll (a : Agent) (rs : List Log.Record) :
    (a.logAll rs).recorder.active = a.recorder.active ++ rs := by
  induction rs generalizing a with
  | nil => exact (List.append_nil _).symm
  | cons r rest ih =>
    have hstep : (a.log r).recorder.active = a.recorder.active ++ [r] := rfl
    rw [logAll, List.foldl_cons, ← logAll, ih, hstep, List.append_assoc, List.singleton_append]

/-- Takes the records logged since this was last done. -/
def takeLog (a : Agent) : List Log.Record × Agent :=
  (a.recorder.take.1, { a with recorder := a.recorder.take.2 })

/-- Makes the handle, and then lets the threshold follow it. -/
def create (a : Agent) (s : Surroundings) (os : List Override) : Handle × Agent :=
  let h := Handle.create s os
  (h, { a.logAll (resolveLog s os) with
    handle := some h, threshold := h.current.debugLevel })

/-- The handle, made without overrides if there is none yet. -/
def ensure (a : Agent) (s : Surroundings) : Handle × Agent :=
  match a.handle with
  | some h => (h, a)
  | none => a.create s []

/-- Makes the handle with overrides. If there is one already the overrides are ignored, with a
warning. -/
def start (a : Agent) (s : Surroundings) (os : List Override) : Handle × Agent :=
  match a.handle with
  | some h =>
    (h, a.log (.warn "Configuration: already initialized, ignoring the new options"))
  | none => a.create s os

/-- The configuration in force. -/
def current (a : Agent) (s : Surroundings) : Config × Agent :=
  let (h, a) := a.ensure s
  (h.current, a)

/-- A single setting of the configuration in force. -/
def access (a : Agent) (s : Surroundings) (x : Accessor) : x.Value × Agent :=
  let (c, a) := a.current s
  (x.view c, a)

/-- Reloads the handle by itself: the threshold stays. -/
def reloadHandle (a : Agent) (s : Surroundings) : Config × Agent :=
  let (h, a) := a.ensure s
  let h' := h.reload s
  (h'.current, { a.logAll (h.reloadLog s) with handle := some h' })

/-- Reloads the configuration, and then lets the threshold follow it. -/
def reload (a : Agent) (s : Surroundings) : Config × Agent :=
  let (c, a) := a.reloadHandle s
  (c, { a with threshold := c.debugLevel })

end Agent

end TracerConfig
