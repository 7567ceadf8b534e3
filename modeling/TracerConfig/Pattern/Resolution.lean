import TracerConfig.Pattern.Automaton
import TracerConfig.Pattern.Class
import TracerConfig.Pattern.Reader

/-!
# Patterns to expressions

Flags are resolved from left to right: a flag that is set holds until the end of its group.

Main definitions:
* `resolve`: the expression of a pattern.
* `Expression.parse`: the expression of a text, if its automata are not too big.
-/

namespace TracerConfig.Pattern

open Unicode (CodeSet)

/-! ## Flags -/

/-- The flags in force at a place of a pattern. -/
structure Flags where
  caseInsensitive : Bool := false
  multiLine : Bool := false
  dotMatchesNewline : Bool := false
  unicode : Bool := true
  carriageReturn : Bool := false
deriving DecidableEq, Repr

namespace Flags

/-- Switches one flag. Which matches are preferred and how a pattern is laid out do not change
whether a text matches. -/
def apply (f : Flags) (s : FlagSetting) : Flags :=
  match s.flag with
  | .caseInsensitive => { f with caseInsensitive := s.on }
  | .multiLine => { f with multiLine := s.on }
  | .dotMatchesNewline => { f with dotMatchesNewline := s.on }
  | .unicode => { f with unicode := s.on }
  | .carriageReturn => { f with carriageReturn := s.on }
  | .swapGreed | .ignoreBlanks => f

/-- Switches flags in turn. -/
def applyAll (f : Flags) (settings : List FlagSetting) : Flags := settings.foldl apply f

end Flags

/-! ## Parts that take one character or none -/

/-- The expression of a literal. With Unicode off a byte beyond ASCII is refused, and only letters
of ASCII have another case. -/
def literal (f : Flags) (l : Literal) : Except Error Expression :=
  let n := l.char.toNat
  if !f.unicode && l.twoDigits && 0x80 ≤ n then .error (.malformed .notText l.span none)
  else .ok (.one (Class.foldIf f.caseInsensitive f.unicode (.single n)))

/-- The expression of the dot: all but line ends, which depend on the flags. -/
def dot (f : Flags) (span : Span) : Except Error Expression :=
  if !f.unicode then .error (.malformed .notText span none)
  else if f.dotMatchesNewline then .ok (.one .all)
  else if f.carriageReturn then .ok (.one (CodeSet.ofText "a d").complement)
  else .ok (.one (CodeSet.ofText "a").complement)

/-- The condition of an assertion. -/
def condition (f : Flags) : Assertion → Condition
  | .startText => .textStart
  | .endText => .textEnd
  | .startLine =>
    if !f.multiLine then .textStart
    else if f.carriageReturn then .anyLineStart else .lineStart
  | .endLine =>
    if !f.multiLine then .textEnd
    else if f.carriageReturn then .anyLineEnd else .lineEnd
  | .wordBoundary => .boundary f.unicode
  | .notWordBoundary => .notBoundary f.unicode
  | .wordStart => .wordStart f.unicode
  | .wordEnd => .wordEnd f.unicode
  | .wordStartHalf => .notAfterWord f.unicode
  | .wordEndHalf => .notBeforeWord f.unicode

/-! ## Patterns -/

mutual

/-- The expression of a pattern under the flags `f`, and the flags in force after it. Flags set
inside a group end with it. -/
def resolve (f : Flags) : Ast → Except Error (Expression × Flags)
  | .empty _ => .ok (.empty, f)
  | .flags _ settings => .ok (.empty, f.applyAll settings)
  | .literal l => (literal f l).map (·, f)
  | .dot span => (dot f span).map (·, f)
  | .assertion _ a => .ok (.place (condition f a), f)
  | .short span c negated =>
    (Class.ofShortPart f.unicode span c negated).map (.one ·, f)
  | .property span q negated =>
    (Class.ofPropertyPart f.unicode f.caseInsensitive span q negated).map (.one ·, f)
  | .bracketed span negated inner =>
    (Class.ofInside f.unicode f.caseInsensitive (.bracketed span negated inner)).map (.one ·, f)
  | .repetition _ least most body => do
    let (e, f) ← resolve f body
    return (.repeated least most e, f)
  | .group _ settings captures body => do
    let (e, _) ← resolve (f.applyAll settings) body
    return (.group captures e, f)
  | .alternation _ branches => resolveBranches f branches
  | .concat _ parts => resolveParts f parts

/-- The expression of parts in sequence. -/
def resolveParts (f : Flags) : List Ast → Except Error (Expression × Flags)
  | [] => .ok (.empty, f)
  | [part] => resolve f part
  | part :: rest => do
    let (a, f) ← resolve f part
    let (b, f) ← resolveParts f rest
    return (.seq a b, f)

/-- The expression of branches. Flags set in a branch hold in the branches after it. -/
def resolveBranches (f : Flags) : List Ast → Except Error (Expression × Flags)
  | [] => .ok (.empty, f)
  | [branch] => resolve f branch
  | branch :: rest => do
    let (a, f) ← resolve f branch
    let (b, f) ← resolveBranches f rest
    return (.either a b, f)

end

/-- The expression of a text. -/
def Expression.parse (text : String) : Except Error Expression := do
  let (e, _) ← resolve {} (← Ast.parse text)
  if e.isTooBig then throw .tooBig
  return e

end TracerConfig.Pattern
