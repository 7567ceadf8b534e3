import TracerConfig.Text.Blank
import TracerConfig.Text.Quoted
import TracerConfig.Text.Replace

/-!
# Spelled values

An enumerated setting is written as a word. Reading a word never fails for good: a word that
is none of the known ones is kept as it is until the configuration is validated, so the source
of highest precedence decides even when it is wrong.

Main definitions:
* `Spelled α`: the words of `α`, one canonical spelling for each value.
* `Token α`: a value of `α`, or a word that is none.
-/

namespace TracerConfig

/-- A type whose values are written as words. -/
class Spelled (α : Type) where
  /-- The value of a word, if it is one. -/
  read? : String → Option α
  /-- The canonical word of a value. -/
  spelling : α → String
  /-- Why a word is none of the known ones. -/
  complaint : String → String
  /-- Canonical words are read back. -/
  read?_spelling : ∀ a, read? (spelling a) = some a

/-- An enumerated value as found in a source. -/
inductive Token (α : Type) where
  | known (value : α)
  | unknown (word : String)
deriving DecidableEq, Repr

namespace Token

variable {α : Type}

/-- The value of a recognized word. -/
def value? : Token α → Option α
  | known a => some a
  | unknown _ => none

/-- Reads a word, keeping it if it is not recognized. -/
def read [Spelled α] (word : String) : Token α :=
  match Spelled.read? word with
  | some a => known a
  | none => unknown word

/-- The canonical word of a value, or the unrecognized word. -/
def render [Spelled α] : Token α → String
  | known a => Spelled.spelling a
  | unknown word => word

theorem read_render_known [Spelled α] (a : α) : read (render (known a)) = known a := by
  simp [read, render, Spelled.read?_spelling]

end Token

/-- A word in lower case and without the blanks around it, as words are compared. -/
def foldWord (word : String) : List Char := Text.asciiLower (Text.trim word.toList)

end TracerConfig
