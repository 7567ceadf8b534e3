import TracerConfig.Spelling

/-!
# Levels

Every log record has a level; a threshold tells up to which level records are shown. Both are
ranked on one scale, on which `off` lies below every level.
-/

namespace TracerConfig.Log

/-- How severe a record is. -/
inductive Level where
  | error
  | warn
  | info
  | debug
deriving DecidableEq, Repr

/-- The highest level that is shown. -/
inductive Threshold where
  | off
  | error
  | warn
  | info
  | debug
deriving DecidableEq, Repr

namespace Level

/-- The place on the scale shared with thresholds. -/
def rank : Level → Nat
  | error => 1
  | warn => 2
  | info => 3
  | debug => 4

/-- The name written in front of a record. -/
def name : Level → String
  | error => "ERROR"
  | warn => "WARN"
  | info => "INFO"
  | debug => "DEBUG"

end Level

namespace Threshold

/-- The place on the scale shared with levels. -/
def rank : Threshold → Nat
  | off => 0
  | error => 1
  | warn => 2
  | info => 3
  | debug => 4

/-- Warnings and errors are shown unless something else is asked for. -/
instance : Inhabited Threshold := ⟨warn⟩

/-- Whether records of a level are shown. -/
def shows (t : Threshold) (l : Level) : Bool := l.rank ≤ t.rank

theorem shows_iff (t : Threshold) (l : Level) : t.shows l = true ↔ l.rank ≤ t.rank := by
  simp [shows]

/-- Nothing is shown with the threshold off. -/
theorem not_shows_off (l : Level) : shows off l = false := by cases l <;> rfl

/-- The value of a word; `warning` is a synonym of `warn`. -/
def read? (word : String) : Option Threshold :=
  let folded := foldWord word
  if folded = "debug".toList then some debug
  else if folded = "info".toList then some info
  else if folded = "warn".toList || folded = "warning".toList then some warn
  else if folded = "error".toList then some error
  else if folded = "off".toList then some off
  else none

/-- The canonical word. -/
def spelling : Threshold → String
  | off => "off"
  | error => "error"
  | warn => "warn"
  | info => "info"
  | debug => "debug"

instance : Spelled Threshold where
  read? := read?
  spelling := spelling
  complaint _ := "log level filter should be one of DEBUG, INFO, WARN, ERROR, OFF"
  read?_spelling a := by cases a <;> decide +kernel

end Threshold

end TracerConfig.Log
