import TracerConfig.Pattern.Error
import TracerConfig.Pattern.Expression
import TracerConfig.Unicode.Table

/-!
# The sizes of automata

A text is searched by two automata over its bytes, one that reads forward and one that reads
backward. A pattern is refused if either would take more than ten megabytes. States take 32 bytes,
transitions to one of several states 8, and choices between states without reading 4.

Before automata are built, a pattern is simplified: parts in sequence are put side by side, texts
joined, branches that all take one character made one set, and what all branches begin with taken
out in front of them.

Main definitions:
* `Shape`: a simplified pattern.
* `Expression.shape`: what an expression is simplified to.
* `forwardSize`, `backwardSize`: the automaton of a set of characters.
* `Shape.size`: the automaton of a simplified pattern.
* `Expression.isTooBig`: whether an automaton passes the limit.
-/

namespace TracerConfig.Pattern

open Unicode (CodeSet)

/-! ## Simplification -/

/-- A simplified pattern. What stands in front in `seq` is no sequence, and what stands in front in
`either` has no branches. -/
inductive Shape where
  | empty
  | text (characters : List Char)
  | set (set : CodeSet)
  | place (condition : Condition)
  | captured (body : Shape)
  | repeated (least : Nat) (most : Option Nat) (body : Shape)
  | seq (first rest : Shape)
  | either (first rest : Shape)

namespace Shape

/-- Whether two patterns are written alike. Groups that capture never are, for each captures a
text of its own. -/
def same : Shape → Shape → Bool
  | empty, empty => true
  | text cs, text cs' => cs == cs'
  | set s, set s' => s == s'
  | place c, place c' => c == c'
  | repeated least most body, repeated least' most' body' =>
    least == least' && most == most' && body.same body'
  | seq a b, seq a' b' => a.same a' && b.same b'
  | either a b, either a' b' => a.same a' && b.same b'
  | _, _ => false

/-- The parts of a sequence. -/
def parts : Shape → List Shape
  | empty => []
  | seq first rest => first :: rest.parts
  | s => [s]

/-- The sequence of parts. -/
def ofParts : List Shape → Shape
  | [] => empty
  | [s] => s
  | first :: rest => seq first (ofParts rest)

/-- Puts a part in front of others. Texts side by side are one text. -/
def prepend : Shape → List Shape → List Shape
  | text cs, text cs' :: rest => text (cs ++ cs') :: rest
  | first, rest => first :: rest

/-- One pattern after another. -/
def concat (a b : Shape) : Shape := ofParts (a.parts.foldr prepend b.parts)

/-- The branches of a pattern. -/
def branches : Shape → List Shape
  | either first rest => first :: rest.branches
  | s => [s]

/-- The pattern with the branches of a list. -/
def ofBranches : List Shape → Shape
  | [] => set .empty
  | [s] => s
  | first :: rest => either first (ofBranches rest)

/-- A set; a set of one character is a text. -/
def ofSet (s : CodeSet) : Shape :=
  match s.ranges with
  | [(first, last)] => if first = last then text [Char.ofNat first] else set s
  | _ => set s

/-- The set that a pattern stands for, if it takes exactly one character. -/
def set? : Shape → Option CodeSet
  | set s => some s
  | text [c] => some (.single c.toNat)
  | _ => none

/-- The pattern of branches. Branches that all take one character are one set. -/
def merge (branches : List Shape) : Shape :=
  match branches.mapM set? with
  | some sets => ofSet (.unions sets)
  | none => ofBranches branches

/-- The parts that both of two sequences begin with. -/
def commonParts : List Shape → List Shape → List Shape
  | a :: as, b :: bs => if a.same b then a :: commonParts as bs else []
  | _, _ => []

/-- The parts that all of the branches begin with, if all of them are sequences. -/
def commonFront : List Shape → List Shape
  | [] => []
  | first :: rest =>
    if (first :: rest).all (·.parts.length > 1) then
      rest.foldl (fun common s => commonParts common s.parts) first.parts
    else []

/-- The pattern that admits what one of several patterns does. -/
def alternate (patterns : List Shape) : Shape :=
  match patterns.flatMap branches with
  | [s] => s
  | all =>
    match merge all, commonFront all with
    | either _ _, part :: common =>
      let front := part :: common
      let rest := merge ((all.map fun s => ofParts (s.parts.drop front.length)).flatMap branches)
      concat (ofParts front) rest
    | s, _ => s

/-- A repeated pattern. -/
def rounds (least : Nat) (most : Option Nat) (body : Shape) : Shape :=
  if least = 0 && most = some 0 then empty
  else if least = 1 && most = some 1 then body
  else repeated least most body

end Shape

/-- What the branches of an expression are simplified to. -/
def Expression.shapes : Expression → List Shape
  | empty => [.empty]
  | one set => [.ofSet set]
  | place c => [.place c]
  | seq a b => [.concat (.alternate a.shapes) (.alternate b.shapes)]
  | either a b => .alternate a.shapes :: b.shapes
  | repeated least most body =>
    let (least, most) := counts least most body
    [.rounds least most (.alternate body.shapes)]
  | group captures body =>
    let s := Shape.alternate body.shapes
    [if captures then .captured s else s]

/-- What an expression is simplified to. -/
def Expression.shape (e : Expression) : Shape := .alternate e.shapes

/-! ## Sets of characters -/

/-- The sizes of all items of a list together. -/
def sumOf {α : Type} (size : α → Nat) (xs : List α) : Nat := xs.foldr (fun x n => size x + n) 0

/-- The bytes of a state. -/
def stateSize : Nat := 32

/-- The bytes of a transition to one of several states. -/
def transitionSize : Nat := 8

/-- The bytes of a choice between states. -/
def choiceSize : Nat := 4

/-- A range of bytes, by its first and last. -/
abbrev ByteRange := Nat × Nat

/-- Characters that are encoded alike: the range of each byte. -/
abbrev Encoding := List ByteRange

/-- The encodings of the numbers from `first` to `last` with `later` bytes of six bits each after
the first one, which `lead` makes of the other bits. -/
def encodings (lead : Nat → Nat) : Nat → Nat → Nat → List Encoding
  | 0, first, last => [[(lead first, lead last)]]
  | later + 1, first, last =>
    let unit := Nat.pow 64 (later + 1)
    let sameLead (a b : Nat) : List Encoding :=
      (encodings (0x80 + ·) later (a % unit) (b % unit)).map fun bytes =>
        (lead (a / unit), lead (a / unit)) :: bytes
    if first / unit = last / unit then sameLead first last
    else
      -- a lead byte goes with all later bytes, except perhaps the first one and the last one
      let low := (first + unit - 1) / unit
      let high := (last + 1) / unit
      (if first % unit = 0 then [] else sameLead first (low * unit - 1)) ++
        (if low < high then [(lead low, lead (high - 1)) :: List.replicate (later + 1) (0x80, 0xBF)]
          else []) ++
        (if (last + 1) % unit = 0 then [] else sameLead (high * unit) last)

/-- The code points that are encoded with the same number of bytes: how many bytes come after the
first one, what marks the first one, and the range. -/
def encodedLengths : List (Nat × Nat × Nat × Nat) :=
  [(0, 0, 0, 0x7F), (1, 0xC0, 0x80, 0x7FF), (2, 0xE0, 0x800, 0xFFFF), (3, 0xF0, 0x10000, 0x10FFFF)]

/-- The encodings of the members of a set, in ascending order. -/
def encodingsOf (s : CodeSet) : List Encoding :=
  s.ranges.flatMap fun (first, last) =>
    encodedLengths.flatMap fun (later, mark, least, greatest) =>
      if max first least ≤ min last greatest then
        encodings (mark + ·) later (max first least) (min last greatest)
      else []

/-- What follows each first range. Encodings that begin alike stand side by side. -/
def continuations : List Encoding → List (ByteRange × List Encoding)
  | [] => []
  | [] :: rest => continuations rest
  | (range :: later) :: rest =>
    match continuations rest with
    | (range', laters) :: others =>
      if range = range' then (range, later :: laters) :: others
      else (range, [later]) :: (range', laters) :: others
    | [] => [(range, [later])]

/-- What is left to read at each state that is reached, up to `depth` bytes on. -/
def remainders : Nat → List Encoding → List (List Encoding)
  | 0, _ => []
  | depth + 1, left => left :: (continuations left).flatMap fun next => remainders depth next.2

/-- How many different beginnings encodings have. -/
def beginnings : Nat → List Encoding → Nat
  | 0, _ => 0
  | depth + 1, left => sumOf (fun next => 1 + beginnings depth next.2) (continuations left)

/-- The greatest number of bytes of a character. -/
def maxEncodedLength : Nat := 4

/-- The bytes of the states that read ASCII characters: one that leads from each range to the
other. -/
def asciiSize (s : CodeSet) : Nat := 2 * stateSize + transitionSize * s.ranges.length

/-- The bytes of the states that read a character forward. States are shared where the same is left
to read. -/
def forwardSize (s : CodeSet) : Nat :=
  let states := ((remainders maxEncodedLength (encodingsOf s)).eraseDups).map continuations
  stateSize + sumOf (fun next => stateSize + transitionSize * next.length)
    (states.filter (!·.isEmpty))

/-- The bytes of the states that read a character backward: a choice between all encodings, which
share states where they begin alike. -/
def backwardSize (s : CodeSet) : Nat :=
  let all := encodingsOf s
  2 * stateSize + choiceSize * all.length + stateSize * beginnings maxEncodedLength all

/-- The bytes of the states that read a character. -/
def setSize (backward : Bool) (s : CodeSet) : Nat :=
  if s.upTo 0x7F then asciiSize s else if backward then backwardSize s else forwardSize s

/-! ## Texts to choose from -/

/-- Cuts words that arrive in turn where one of them is over: the words before, and the ones since
then. A word that is over twice, with nothing in between or before, is one end only. -/
def cutAtEnds (cut : List (List (List UInt8)) × List (List UInt8)) (word : List UInt8) :
    List (List (List UInt8)) × List (List UInt8) :=
  match cut with
  | (before, since) =>
    if !word.isEmpty then (before, since ++ [word])
    else if since.isEmpty && !before.isEmpty && before.all (·.isEmpty) then (before, since)
    else (before ++ [since], [])

/-- What is left of the words that begin with each byte. -/
def tailsByHead : List (List UInt8) → List (UInt8 × List (List UInt8))
  | [] => []
  | [] :: rest => tailsByHead rest
  | (byte :: tail) :: rest =>
    let others := tailsByHead rest
    match others.find? (·.1 == byte) with
    | some (_, tails) => (byte, tail :: tails) :: others.filter (·.1 != byte)
    | none => (byte, [tail]) :: others

/-- The bytes of the states that read one of several words, which share states where they begin
alike. The first of several words that match is preferred, so words are not put in order across an
end. -/
def wordsSize : Nat → List (List UInt8) → Nat
  | 0, _ => 0
  | fuel + 1, words =>
    if words.all (·.isEmpty) then 0
    else
      let (before, since) := words.foldl cutAtEnds ([], [])
      let chunks := ((before ++ [since]).map tailsByHead).filter (!·.isEmpty)
      stateSize + choiceSize * (chunks.length + before.length) +
        sumOf (fun chunk =>
          stateSize + (if chunk.length = 1 then 0 else transitionSize * chunk.length) +
            sumOf (fun next => wordsSize fuel next.2) chunk) chunks

/-! ## Patterns -/

namespace Shape

/-- Whether every match takes a character. -/
def takesSome : Shape → Bool
  | empty | place _ => false
  | text _ => true
  | set s => !s.cuts.isEmpty
  | captured body => body.takesSome
  | repeated least _ body => least != 0 && body.takesSome
  | seq first rest => first.takesSome || rest.takesSome
  | either first rest => first.takesSome && rest.takesSome

/-- Whether no match takes a character. -/
def takesNone : Shape → Bool
  | empty | place _ => true
  | text _ | set _ => false
  | captured body => body.takesNone
  | repeated _ _ body => body.takesNone
  | seq first rest => first.takesNone && rest.takesNone
  | either first rest => first.takesNone && rest.takesNone

/-- Whether every match, looked at from its front or its back, begins at the place that a condition
describes. -/
def demands (c : Condition) (fromBack : Bool) : Shape → Bool
  | place c' => c == c'
  | captured body => body.demands c fromBack
  | repeated least _ body => least != 0 && body.demands c fromBack
  | seq first rest =>
    if fromBack then rest.demands c fromBack || (rest.takesNone && first.demands c fromBack)
    else first.demands c fromBack || (first.takesNone && rest.demands c fromBack)
  | either first rest => first.demands c fromBack && rest.demands c fromBack
  | _ => false

/-- The bytes of a text. -/
def encoded (backward : Bool) (cs : List Char) : List UInt8 :=
  let bytes := cs.flatMap String.utf8EncodeChar
  if backward then bytes.reverse else bytes

/-- The bytes of a text, if the pattern is one. -/
def word? (backward : Bool) : Shape → Option (List UInt8)
  | text cs => some (encoded backward cs)
  | _ => none

/-- The bytes of the states of a repetition whose body takes `size`, and takes a character in every
match or not. -/
def roundsSize (least : Nat) (most : Option Nat) (size : Nat) (takesSome : Bool) : Nat :=
  let choice := stateSize + 2 * choiceSize
  match least, most with
  | 0, none => if takesSome then size + choice else size + 2 * choice + stateSize
  | least, none => least * size + choice
  | 0, some 1 => size + choice + stateSize
  | least, some most =>
    let front := if least = 0 then stateSize else least * size
    if least = most then front else front + (most - least) * (size + choice) + stateSize

/-- The bytes of a choice between branches that take `total` together. -/
def choiceOf (backward : Bool) (branches : List Shape) (total : Nat) : Nat :=
  match branches with
  | [_] => total
  | _ =>
    match branches.mapM (word? backward) with
    | some words => stateSize + wordsSize (sumOf List.length words + 1) words
    | none => total + 2 * stateSize + choiceSize * branches.length

/-- The bytes of the states of a pattern; of a choice, those of its branches. -/
def total (backward : Bool) : Shape → Nat
  | empty | place _ => stateSize
  | text cs => stateSize * (encoded backward cs).length
  | set s => setSize backward s
  | captured body =>
    choiceOf backward body.branches (body.total backward) + if backward then 0 else 2 * stateSize
  | repeated least most body =>
    roundsSize least most (choiceOf backward body.branches (body.total backward)) body.takesSome
  | seq first rest =>
    choiceOf backward first.branches (first.total backward) +
      choiceOf backward rest.branches (rest.total backward)
  | either first rest => first.total backward + rest.total backward

/-- The bytes of an automaton: the whole match is captured when it is read forward, there is a
final state, and the search begins at every byte unless a match can begin at one place only. -/
def size (backward : Bool) (s : Shape) : Nat :=
  let anywhere := roundsSize 0 none (2 * stateSize + transitionSize) true
  (captured s).total backward + stateSize +
    if s.demands (if backward then .textEnd else .textStart) backward then stateSize else anywhere

end Shape

/-- Whether an automaton of an expression passes the limit. -/
def Expression.isTooBig (e : Expression) : Bool :=
  e.shape.size false > maxSize || e.shape.size true > maxSize

end TracerConfig.Pattern
