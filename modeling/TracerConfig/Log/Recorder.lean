import TracerConfig.Log.Record

/-!
# Recorders

A recorder keeps every record logged while it is active, whatever its level, until the records
are taken. Recorders are nested: activating a new one suspends the current one, which gets
active again, with the records it holds, when the new one is dropped.
-/

namespace TracerConfig.Log

/-- The active recorder's records and those of the suspended ones, the innermost first. -/
structure Recorder where
  active : List Record := []
  suspended : List (List Record) := []
deriving DecidableEq, Repr

namespace Recorder

/-- Logs a record. -/
def log (r : Recorder) (record : Record) : Recorder :=
  { r with active := r.active ++ [record] }

/-- Takes the records of the active recorder. -/
def take (r : Recorder) : List Record × Recorder := (r.active, { r with active := [] })

/-- Activates a new recorder. -/
def push (r : Recorder) : Recorder := ⟨[], r.active :: r.suspended⟩

/-- Drops the active recorder; the outermost one stays. -/
def pop (r : Recorder) : Recorder :=
  match r.suspended with
  | [] => r
  | records :: rest => ⟨records, rest⟩

end Recorder

end TracerConfig.Log
