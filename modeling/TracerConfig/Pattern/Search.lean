import TracerConfig.Pattern.Resolution

/-!
# Searching a text

Whether an expression matches somewhere in a text. The places of a text are numbered from 0, in
front of its first character, to its length. A set of places is a natural number whose bit `i`
stands for the place `i`; an expression is a map from the set of places at which a match may
start to the set of places at which it may end. So the search looks at every place once per
step of the expression, and never backtracks.

Main definitions:
* `Motion`: an expression with every set and condition replaced by the places it holds at in
  one text.
* `Motion.ends`: the places reached from a set of places.
* `Expression.found`: whether an expression matches somewhere.
-/

namespace TracerConfig.Pattern

open Unicode (CodeSet)

/-- A set of places. -/
abbrev Places := Nat

/-- An expression in one text: `step at` moves over the characters at the places `at`, `stay`
keeps the places in `at`. -/
inductive Motion where
  | rest
  | step (places : Places)
  | stay (places : Places)
  | seq (first second : Motion)
  | either (first second : Motion)
  | repeated (least : Nat) (most : Option Nat) (body : Motion)

namespace Motion

/-- Applies `f` up to `fuel` times, collecting what is reached, until nothing is new. -/
def closure (f : Places → Places) : Nat → Places → Places
  | 0, s => s
  | fuel + 1, s =>
    let t := s ||| f s
    if t = s then s else closure f fuel t

/-- Applies `f` exactly `n` times. From no place none is reached. -/
def times (f : Places → Places) : Nat → Places → Places
  | 0, s => s
  | n + 1, s => if s = 0 then 0 else times f n (f s)

/-- Applies `f` at most `n` times, collecting what is reached, until nothing is new. -/
def atMost (f : Places → Places) : Nat → Places → Places
  | 0, s => s
  | n + 1, s =>
    let t := s ||| f s
    if t = s then s else atMost f n t

/-- The places reached from `s` in a text of `length` characters. -/
def ends (length : Nat) : Motion → Places → Places
  | rest, s => s
  | step places, s => (s &&& places) <<< 1
  | stay places, s => s &&& places
  | seq a b, s => b.ends length (a.ends length s)
  | either a b, s => a.ends length s ||| b.ends length s
  | repeated least most body, s =>
    let s := times (body.ends length) least s
    match most with
    | none => closure (body.ends length) (length + 1) s
    | some most => atMost (body.ends length) (most - least) s

end Motion

/-! ## Places at which something holds -/

/-- Whether a character belongs to words. -/
def isWord (unicode : Bool) (c : Option Char) : Bool :=
  match c with
  | none => false
  | some c => (Class.ofShort unicode .word).contains c.toNat

/-- Whether a condition holds between two characters, either of which may be missing. -/
def Condition.holds (c : Condition) (before after : Option Char) : Bool :=
  match c with
  | textStart => before.isNone
  | textEnd => after.isNone
  | lineStart => before.isNone || before = some '\n'
  | lineEnd => after.isNone || after = some '\n'
  | anyLineStart =>
    before.isNone || before = some '\n' || (before = some '\r' && after ≠ some '\n')
  | anyLineEnd =>
    after.isNone || after = some '\r' || (after = some '\n' && before ≠ some '\r')
  | boundary u => isWord u before != isWord u after
  | notBoundary u => isWord u before == isWord u after
  | wordStart u => !isWord u before && isWord u after
  | wordEnd u => isWord u before && !isWord u after
  | notAfterWord u => !isWord u before
  | notBeforeWord u => !isWord u after

/-- The places in front of the members of `set`, the first of which is `place`. -/
def membersFrom (set : CodeSet) (place : Nat) : List Char → Places
  | [] => 0
  | c :: cs =>
    (if set.contains c.toNat then 1 <<< place else 0) ||| membersFrom set (place + 1) cs

/-- The places at which a condition holds, from `place` on. -/
def holdsFrom (c : Condition) (place : Nat) (before : Option Char) : List Char → Places
  | [] => if c.holds before none then 1 <<< place else 0
  | d :: ds =>
    (if c.holds before (some d) then 1 <<< place else 0) |||
      holdsFrom c (place + 1) (some d) ds

/-- An expression in a text. -/
def Expression.inText (text : List Char) : Expression → Motion
  | empty => .rest
  | one set => .step (membersFrom set 0 text)
  | place c => .stay (holdsFrom c 0 none text)
  | seq a b => .seq (a.inText text) (b.inText text)
  | either a b => .either (a.inText text) (b.inText text)
  | repeated least most body =>
    let (least, most) := Expression.counts least most body
    .repeated least most (body.inText text)
  | group _ body => body.inText text

/-- Whether an expression matches somewhere in a text. -/
def Expression.found (e : Expression) (text : List Char) : Bool :=
  (e.inText text).ends text.length (Nat.pow 2 (text.length + 1) - 1) != 0

/-- Whether an expression matches somewhere in a text. -/
def Expression.isFoundIn (e : Expression) (text : String) : Bool := e.found text.toList

end TracerConfig.Pattern
