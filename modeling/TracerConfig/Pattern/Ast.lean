import TracerConfig.Pattern.Error

/-!
# Patterns, as written

The syntax tree of a regular expression. Flags, classes and repetitions are kept as they are
written; what they mean is decided where the tree is given a meaning. Each part carries its span,
for messages.
-/

namespace TracerConfig.Pattern

/-- A switch that changes the meaning of what follows it in its group. -/
inductive Flag where
  | caseInsensitive
  | multiLine
  | dotMatchesNewline
  | swapGreed
  | unicode
  | carriageReturn
  | ignoreBlanks
deriving DecidableEq, Repr

/-- A flag, switched on or off. -/
structure FlagSetting where
  flag : Flag
  on : Bool
deriving DecidableEq, Repr

/-- A character of a pattern. One written with exactly two hexadecimal digits may stand for a
byte. -/
structure Literal where
  char : Char
  twoDigits : Bool
  span : Span
deriving DecidableEq, Repr

/-- The classes of `\d`, `\s` and `\w`. -/
inductive ShortClass where
  | digit
  | space
  | word
deriving DecidableEq, Repr

/-- What stands in `\p`: a name, or a property and a value. -/
inductive PropertyQuery where
  | name (text : String)
  | value (property value : String)
deriving DecidableEq, Repr

/-- Operators on classes. -/
inductive ClassOperator where
  | intersection
  | difference
  | symmetricDifference
deriving DecidableEq, Repr

/-- The inside of a bracketed class. -/
inductive ClassSet where
  | empty (span : Span)
  | literal (l : Literal)
  | range (first last : Literal)
  | ascii (span : Span) (name : String) (negated : Bool)
  | short (span : Span) (c : ShortClass) (negated : Bool)
  | property (span : Span) (q : PropertyQuery) (negated : Bool)
  | bracketed (span : Span) (negated : Bool) (inner : ClassSet)
  | union (span : Span) (parts : List ClassSet)
  | operation (span : Span) (o : ClassOperator) (left right : ClassSet)

/-- The span of a class part. -/
def ClassSet.span : ClassSet → Span
  | literal l => l.span
  | range first last => ⟨first.span.start, last.span.stop⟩
  | empty span | ascii span .. | short span .. | property span .. | bracketed span ..
  | union span _ | operation span .. => span

/-- A condition on a place between two characters. -/
inductive Assertion where
  | startLine
  | endLine
  | startText
  | endText
  | wordBoundary
  | notWordBoundary
  | wordStart
  | wordEnd
  | wordStartHalf
  | wordEndHalf
deriving DecidableEq, Repr

/-- A pattern. -/
inductive Ast where
  | empty (span : Span)
  | flags (span : Span) (settings : List FlagSetting)
  | literal (l : Literal)
  | dot (span : Span)
  | assertion (span : Span) (a : Assertion)
  | short (span : Span) (c : ShortClass) (negated : Bool)
  | property (span : Span) (q : PropertyQuery) (negated : Bool)
  | bracketed (span : Span) (negated : Bool) (inner : ClassSet)
  | repetition (span : Span) (least : Nat) (most : Option Nat) (body : Ast)
  | group (span : Span) (settings : List FlagSetting) (captures : Bool) (body : Ast)
  | alternation (span : Span) (branches : List Ast)
  | concat (span : Span) (parts : List Ast)

/-- The span of a pattern. -/
def Ast.span : Ast → Span
  | literal l => l.span
  | empty span | flags span _ | dot span | assertion span _ | short span .. | property span ..
  | bracketed span .. | repetition span .. | group span .. | alternation span _ | concat span _ =>
    span

/-! ## Nesting -/

mutual

/-- The first part of a class that is nested deeper than a number of levels. -/
def ClassSet.beyond? : ClassSet → Nat → Option Span
  | .bracketed span .., 0 | .union span _, 0 | .operation span .., 0 => some span
  | .bracketed _ _ inner, depth + 1 => inner.beyond? depth
  | .union _ parts, depth + 1 => ClassSet.beyondAny? parts depth
  | .operation _ _ left right, depth + 1 => (left.beyond? depth).or (right.beyond? depth)
  | _, _ => none

/-- The first part of class parts that is nested too deep. -/
def ClassSet.beyondAny? : List ClassSet → Nat → Option Span
  | [], _ => none
  | s :: rest, depth => (s.beyond? depth).or (beyondAny? rest depth)

end

mutual

/-- The first part of a pattern that is nested deeper than a number of levels. -/
def Ast.beyond? : Ast → Nat → Option Span
  | .bracketed span .., 0 | .repetition span .., 0 | .group span .., 0 | .alternation span _, 0
  | .concat span _, 0 => some span
  | .bracketed _ _ inner, depth + 1 => inner.beyond? depth
  | .repetition _ _ _ body, depth + 1 | .group _ _ _ body, depth + 1 => body.beyond? depth
  | .alternation _ branches, depth + 1 => Ast.beyondAny? branches depth
  | .concat _ parts, depth + 1 => Ast.beyondAny? parts depth
  | _, _ => none

/-- The first part of patterns that is nested too deep. -/
def Ast.beyondAny? : List Ast → Nat → Option Span
  | [], _ => none
  | a :: rest, depth => (a.beyond? depth).or (beyondAny? rest depth)

end

/-- Parts in sequence; one part stands for itself. -/
def Ast.ofParts (span : Span) : List Ast → Ast
  | [] => .empty span
  | [a] => a
  | parts => .concat span parts

/-- Class parts side by side; one part stands for itself. Without parts there is nothing but the
place where they could stand. -/
def ClassSet.ofParts (place : Nat) : List ClassSet → ClassSet
  | [] => .empty (.empty place)
  | [s] => s
  | parts@(first :: _) =>
    .union ⟨first.span.start, ((parts.getLast?).getD first).span.stop⟩ parts

end TracerConfig.Pattern
