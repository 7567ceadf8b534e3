import TracerConfig.Log.Level

/-!
# Log records

A record is a level and a text. What an operation logs is part of its result: the list of its
records, in order.
-/

namespace TracerConfig.Log

/-- One log record. -/
structure Record where
  level : Level
  text : String
deriving DecidableEq, Repr

namespace Record

/-- A warning. -/
def warn (text : String) : Record := ⟨.warn, text⟩

/-- A notice. -/
def info (text : String) : Record := ⟨.info, text⟩

/-- The colour of a record on a terminal: errors are red, all else is yellow. -/
def colour (r : Record) : String := if r.level = .error then "91" else "93"

end Record

end TracerConfig.Log
