import TracerConfig.Spelling

/-!
# Tracing modes

Whether spans are recorded. As a setting, a mode may also be written with the words `always`
and `never`; in a transaction filter only the canonical words count, in lower case.
-/

namespace TracerConfig

/-- Whether spans are recorded. -/
inductive TracingMode where
  | enabled
  | disabled
deriving DecidableEq, Repr

namespace TracingMode

instance : Inhabited TracingMode := ⟨enabled⟩

/-- The mode of a word or of its synonym. -/
def read? (word : String) : Option TracingMode :=
  let folded := foldWord word
  if folded = "enabled".toList || folded = "always".toList then some enabled
  else if folded = "disabled".toList || folded = "never".toList then some disabled
  else none

/-- The mode of a canonical word, which may stand between blanks. -/
def readCanonical? (word : String) : Option TracingMode :=
  let trimmed := Text.trim word.toList
  if trimmed = "enabled".toList then some enabled
  else if trimmed = "disabled".toList then some disabled
  else none

/-- The canonical word. -/
def spelling : TracingMode → String
  | enabled => "enabled"
  | disabled => "disabled"

instance : Spelled TracingMode where
  read? := read?
  spelling := spelling
  complaint word :=
    "invalid tracing mode " ++ Text.quoted word ++
      ", should be one of enabled, disabled, always, never"
  read?_spelling a := by cases a <;> decide +kernel

/-- The canonical words are read back. -/
theorem readCanonical?_spelling (m : TracingMode) : readCanonical? m.spelling = some m := by
  cases m <;> decide +kernel

end TracingMode

end TracerConfig
