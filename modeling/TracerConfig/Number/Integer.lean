/-!
# Integers in decimal

Reading an integer of bounded range from text. A leading `+` is allowed, a leading `-` only
where the range has negative numbers; nothing else than ASCII digits may follow. A text without
digits, with a foreign character, and a number out of range are told apart.
-/

namespace TracerConfig

/-- Why a text is not an integer of the wanted range. -/
inductive IntegerError where
  | empty
  | invalidDigit
  | tooLarge
  | tooSmall
deriving DecidableEq, Repr

namespace IntegerError

/-- The wording of each cause. -/
def message : IntegerError → String
  | empty => "cannot parse integer from empty string"
  | invalidDigit => "invalid digit found in string"
  | tooLarge => "number too large to fit in target type"
  | tooSmall => "number too small to fit in target type"

end IntegerError

namespace Integer

/-- The value of an ASCII digit. -/
def digit? (c : Char) : Option Nat :=
  if '0' ≤ c && c ≤ '9' then some (c.toNat - '0'.toNat) else none

/-- Reads digits after `value`, up to the end of the text. A foreign character is only met if
the number is still within `limit` when it is reached. -/
def readDigits (limit : Nat) (overflow : IntegerError) (value : Nat) :
    List Char → Except IntegerError Nat
  | [] => .ok value
  | c :: cs =>
    match digit? c with
    | none => .error .invalidDigit
    | some d =>
      if 10 * value + d ≤ limit then readDigits limit overflow (10 * value + d) cs
      else .error overflow

/-- Reads a number between 0 and `limit`. -/
def readNatural (limit : Nat) (text : List Char) : Except IntegerError Nat :=
  match text with
  | [] => .error .empty
  | ['+'] => .error .invalidDigit
  | '+' :: digits => readDigits limit .tooLarge 0 digits
  | digits => readDigits limit .tooLarge 0 digits

/-- Reads a number between `-(limit + 1)` and `limit`. -/
def readSigned (limit : Nat) (text : List Char) : Except IntegerError Int :=
  match text with
  | [] => .error .empty
  | ['+'] | ['-'] => .error .invalidDigit
  | '-' :: digits => (readDigits (limit + 1) .tooSmall 0 digits).map fun n => -(n : Int)
  | '+' :: digits => (readDigits limit .tooLarge 0 digits).map Int.ofNat
  | digits => (readDigits limit .tooLarge 0 digits).map Int.ofNat

end Integer

end TracerConfig
