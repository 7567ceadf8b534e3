import TracerConfig.Spelling

/-!
# Reporters

The transport by which events reach the collector.
-/

namespace TracerConfig

/-- A transport. -/
inductive Reporter where
  | ssl
  | udp
deriving DecidableEq, Repr

namespace Reporter

instance : Inhabited Reporter := ⟨ssl⟩

/-- The transport of a word. -/
def read? (word : String) : Option Reporter :=
  let folded := foldWord word
  if folded = "ssl".toList then some ssl
  else if folded = "udp".toList then some udp
  else none

/-- The canonical word. -/
def spelling : Reporter → String
  | ssl => "ssl"
  | udp => "udp"

instance : Spelled Reporter where
  read? := read?
  spelling := spelling
  complaint word :=
    "reporter type should be one of ssl, udp, found " ++ Text.quoted (Text.trimmed word)
  read?_spelling a := by cases a <;> decide +kernel

end Reporter

end TracerConfig
