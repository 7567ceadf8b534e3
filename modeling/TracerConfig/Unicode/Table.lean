import TracerConfig.Unicode.CodeSet

/-!
# Tables over the code points

What is known of characters is written as text: code points in hexadecimal, joined by blanks, in
ascending order. Two shapes are read here.

* `CodeSet.ofText`: `first-last` or a single code point for each range of a set.
* `runsOf`: the whole code space cut into runs, each run written as its first code point followed
  by its label. A label starts with a capital letter, which ends the number.
-/

namespace TracerConfig.Unicode

/-! ## Reading -/

/-- The value of a lower case hexadecimal digit. -/
def hexDigit? (c : Char) : Option Nat :=
  if '0' ≤ c && c ≤ '9' then some (c.toNat - '0'.toNat)
  else if 'a' ≤ c && c ≤ 'f' then some (c.toNat - 'a'.toNat + 10)
  else none

/-- Reads the hexadecimal number at the front, returning the rest. -/
def readHex (value : Nat) : List Char → Nat × List Char
  | [] => (value, [])
  | c :: cs =>
    match hexDigit? c with
    | some d => readHex (16 * value + d) cs
    | none => (value, c :: cs)

/-- The words of a text: its longest runs without a space or a line break. -/
def wordsOf (word : List Char) : List Char → List (List Char)
  | [] => if word.isEmpty then [] else [word.reverse]
  | c :: cs =>
    if c = ' ' || c = '\n' then
      if word.isEmpty then wordsOf [] cs else word.reverse :: wordsOf [] cs
    else wordsOf (c :: word) cs

/-- The words of a table's text. -/
def words (text : String) : List (List Char) := wordsOf [] text.toList

/-! ## Sets -/

/-- The cuts of the range of a word, `first-last` or a single code point. -/
def rangeCuts (word : List Char) : List Nat :=
  match readHex 0 word with
  | (first, '-' :: rest) => [first, (readHex 0 rest).1 + 1]
  | (first, _) => [first, first + 1]

/-- The set of a table's ranges. -/
def CodeSet.ofText (text : String) : CodeSet := ofCuts ((words text).flatMap rangeCuts)

/-! ## Runs -/

/-- The runs of a table: the first code point of each and its label. -/
def runsOf (text : String) : List (Nat × String) :=
  (words text).map fun word =>
    match readHex 0 word with
    | (first, label) => (first, String.ofList label)

/-- The cuts between runs that are wanted and runs that are not, where `now` tells whether the run
before is. -/
def runCuts (wanted : String → Bool) (now : Bool) : List (Nat × String) → List Nat
  | [] => []
  | (first, label) :: rest =>
    if wanted label = now then runCuts wanted now rest
    else first :: runCuts wanted (wanted label) rest

/-- The characters of the runs whose label is wanted. -/
def CodeSet.ofRuns (wanted : String → Bool) (runs : List (Nat × String)) : CodeSet :=
  (ofCuts (runCuts wanted false runs)).inter all

/-! ## Examples -/

example : words "a bc\n  d" = [['a'], ['b', 'c'], ['d']] := by decide

example : readHex 0 ['1', 'f', 'L', 'u'] = (31, ['L', 'u']) := by decide

end TracerConfig.Unicode
