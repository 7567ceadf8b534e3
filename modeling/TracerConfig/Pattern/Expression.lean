import TracerConfig.Unicode.CodeSet

/-!
# The meaning of a pattern

An expression is a pattern with all flags resolved: every character is a set, every assertion a
fixed condition. Only whether a text matches is asked, not where, so groups stand for what they
hold; they are kept because automata are built group by group.

Main definitions:
* `Condition`: a condition on a place in a text.
* `Expression`: a pattern with its flags resolved.
* `Expression.counts`: the counts of a repetition that matter.
-/

namespace TracerConfig.Pattern

open Unicode (CodeSet)

/-- A condition on a place in a text, with all flags resolved. -/
inductive Condition where
  | textStart
  | textEnd
  | lineStart
  | lineEnd
  | anyLineStart
  | anyLineEnd
  | boundary (unicode : Bool)
  | notBoundary (unicode : Bool)
  | wordStart (unicode : Bool)
  | wordEnd (unicode : Bool)
  | notAfterWord (unicode : Bool)
  | notBeforeWord (unicode : Bool)
deriving DecidableEq, Repr

/-- A pattern with all flags resolved. -/
inductive Expression where
  | empty
  | one (set : CodeSet)
  | place (condition : Condition)
  | seq (first second : Expression)
  | either (first second : Expression)
  | repeated (least : Nat) (most : Option Nat) (body : Expression)
  | group (captures : Bool) (body : Expression)

namespace Expression

/-- Whether an expression never takes a character. -/
def isEmptyOnly : Expression → Bool
  | empty => true
  | one _ => false
  | place _ => true
  | seq a b => a.isEmptyOnly && b.isEmptyOnly
  | either a b => a.isEmptyOnly && b.isEmptyOnly
  | repeated _ most body => most == some 0 || body.isEmptyOnly
  | group _ body => body.isEmptyOnly

/-- The counts of a repetition that matter: what takes no character is repeated at most
once. -/
def counts (least : Nat) (most : Option Nat) (body : Expression) : Nat × Option Nat :=
  if body.isEmptyOnly then (min least 1, some (min (most.getD 1) 1)) else (least, most)

end Expression

end TracerConfig.Pattern
