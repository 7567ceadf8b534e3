/-!
# What is wrong with a pattern

A text that is no pattern is refused for a cause that lies at one part of it. A message shows the
pattern with carets under that part, and under an earlier part that it conflicts with; a part that
goes on over a line end is told by its lines and columns instead.

Main definitions:
* `Cause`, `Cause.text`: what can be wrong.
* `Error`, `Error.message`: why a text is refused, and how the message puts it.
-/

namespace TracerConfig.Pattern

/-- A part of a pattern, told by how many characters are left where it starts and where it stops. -/
structure Span where
  start : Nat
  stop : Nat
deriving DecidableEq, Repr

/-- The span of the one character at a place. -/
def Span.ofChar (place : Nat) : Span := ⟨place, place - 1⟩

/-- The span of nothing, at a place. -/
def Span.empty (place : Nat) : Span := ⟨place, place⟩

/-- What can be wrong with a part of a pattern. -/
inductive Cause where
  | unclosedClass
  | classEscape
  | rangeBound
  | rangeOrder
  | incompleteEscape
  | unknownEscape
  | backreference
  | emptyHex
  | badHexDigit
  | badHex
  | badPropertyEscape
  | unclosedBoundary
  | unknownBoundary
  | incompleteBoundary
  | unclosedGroup
  | unopenedGroup
  | lookAround
  | emptyGroupName
  | badGroupName
  | unclosedGroupName
  | duplicateGroupName
  | unknownFlag
  | duplicateFlag
  | repeatedNegation
  | danglingNegation
  | incompleteFlags
  | missingOperand
  | emptyCount
  | badCount
  | unclosedCount
  | countOrder
  | nestedTooDeep
  | unicodeNotAllowed
  | notText
  | unknownProperty
  | unknownValue
deriving DecidableEq, Repr

/-- The greatest depth of a pattern. -/
def maxDepth : Nat := 250

/-- The greatest automaton that is built, in bytes. -/
def maxSize : Nat := 10 * Nat.pow 2 20

/-- The wording of a cause. -/
def Cause.text : Cause → String
  | unclosedClass => "unclosed character class"
  | classEscape => "invalid escape sequence found in character class"
  | rangeBound => "invalid range boundary, must be a literal"
  | rangeOrder => "invalid character class range, the start must be <= the end"
  | incompleteEscape => "incomplete escape sequence, reached end of pattern prematurely"
  | unknownEscape => "unrecognized escape sequence"
  | backreference => "backreferences are not supported"
  | emptyHex => "hexadecimal literal empty"
  | badHexDigit => "invalid hexadecimal digit"
  | badHex => "hexadecimal literal is not a Unicode scalar value"
  | badPropertyEscape => "invalid Unicode character class"
  | unclosedBoundary =>
    "special word boundary assertion is either unclosed or contains an invalid character"
  | unknownBoundary =>
    "unrecognized special word boundary assertion, valid choices are: start, end, start-half " ++
      "or end-half"
  | incompleteBoundary =>
    "found either the beginning of a special word boundary or a bounded repetition on a \\b with " ++
      "an opening brace, but no closing brace"
  | unclosedGroup => "unclosed group"
  | unopenedGroup => "unopened group"
  | lookAround => "look-around, including look-ahead and look-behind, is not supported"
  | emptyGroupName => "empty capture group name"
  | badGroupName => "invalid capture group character"
  | unclosedGroupName => "unclosed capture group name"
  | duplicateGroupName => "duplicate capture group name"
  | unknownFlag => "unrecognized flag"
  | duplicateFlag => "duplicate flag"
  | repeatedNegation => "flag negation operator repeated"
  | danglingNegation => "dangling flag negation operator"
  | incompleteFlags => "expected flag but got end of regex"
  | missingOperand => "repetition operator missing expression"
  | emptyCount => "repetition quantifier expects a valid decimal"
  | badCount => "decimal literal invalid"
  | unclosedCount => "unclosed counted repetition"
  | countOrder => "invalid repetition count range, the start must be <= the end"
  | nestedTooDeep =>
    "exceed the maximum number of nested parentheses/brackets (" ++ toString maxDepth ++ ")"
  | unicodeNotAllowed => "Unicode not allowed here"
  | notText => "pattern can match invalid UTF-8"
  | unknownProperty => "Unicode property not found"
  | unknownValue => "Unicode property value not found"

/-- Why a text is no pattern: something is wrong with a part of it, perhaps because of an earlier
part, or its automata are too big. -/
inductive Error where
  | malformed (cause : Cause) (span : Span) (earlier : Option Span)
  | tooBig
deriving DecidableEq, Repr

/-! ## Places -/

/-- A place in a pattern, with lines and columns counted from one. -/
structure Place where
  line : Nat
  column : Nat
deriving DecidableEq, Repr

/-- The place behind some characters. -/
def Place.after (cs : List Char) : Place :=
  cs.foldl (fun p c => if c = '\n' then ⟨p.line + 1, 1⟩ else ⟨p.line, p.column + 1⟩) ⟨1, 1⟩

/-- The part of a pattern from one place to another. -/
structure Mark where
  start : Place
  stop : Place
deriving DecidableEq, Repr

/-- Where a span lies in a pattern. -/
def Span.mark (pattern : List Char) (s : Span) : Mark where
  start := .after (pattern.take (pattern.length - s.start))
  stop := .after (pattern.take (pattern.length - s.stop))

/-- Whether a part of a pattern goes on over a line end. -/
def Mark.isBroken (m : Mark) : Bool := m.start.line != m.stop.line

/-! ## Messages -/

/-- The lines of a pattern, where `line` holds the characters of the current one, the last first.
A carriage return in front of a line feed belongs to the line end. -/
def linesOf (line : List Char) : List Char → List (List Char)
  | [] => if line.isEmpty then [] else [line.reverse]
  | c :: cs =>
    if c = '\n' then
      (match line with
        | '\r' :: line => line.reverse
        | line => line.reverse) :: linesOf [] cs
    else linesOf (c :: line) cs

/-- Carets under parts of one line, of which `column` columns are behind us. There is at least
one caret for each part. -/
def carets (column : Nat) : List Mark → List Char
  | [] => []
  | m :: rest =>
    let gap := m.start.column - 1 - column
    let width := max 1 (m.stop.column - m.start.column)
    List.replicate gap ' ' ++ List.replicate width '^' ++ carets (column + gap + width) rest

/-- The lines of a pattern from number `line` on, each with the carets under it. The numbers are
shown with `width` digits, unless there is one line only. -/
def notated (width : Nat) (marks : List Mark) (line : Nat) : List (List Char) → List Char
  | [] => []
  | cs :: rest =>
    let number := Nat.toDigits 10 line
    let label :=
      if width = 0 then List.replicate 4 ' '
      else List.replicate (width - number.length) ' ' ++ number ++ [':', ' ']
    let here := marks.filter fun m => !m.isBroken && m.start.line == line
    let below :=
      if here.isEmpty then []
      else List.replicate (if width = 0 then 4 else width + 2) ' ' ++ carets 0 here ++ ['\n']
    label ++ cs ++ ['\n'] ++ below ++ notated width marks (line + 1) rest

/-- How a part that goes on over a line end is told. -/
def Mark.note (m : Mark) : String :=
  "on line " ++ toString m.start.line ++ " (column " ++ toString m.start.column ++
    ") through line " ++ toString m.stop.line ++ " (column " ++ toString (m.stop.column - 1) ++ ")"

/-- The pattern with the parts that are wrong, as a message shows them. -/
def exhibit (pattern : List Char) (marks : List Mark) : String :=
  let lines := linesOf [] pattern
  let count := if pattern.getLast? = some '\n' then lines.length + 1 else lines.length
  let width := if count ≤ 1 then 0 else (Nat.toDigits 10 count).length
  let shown := String.ofList (notated width marks 1 lines)
  if pattern.contains '\n' then
    let divider := String.ofList (List.replicate 79 '~') ++ "\n"
    let broken := marks.filter Mark.isBroken
    let notes := if broken.isEmpty then "" else "\n".intercalate (broken.map Mark.note) ++ "\n"
    divider ++ shown ++ divider ++ notes
  else shown

/-- The message that tells why a pattern is refused. -/
def Error.message (pattern : String) : Error → String
  | malformed cause span earlier =>
    let marks := (earlier.toList ++ [span]).map (Span.mark pattern.toList)
    "regex parse error:\n" ++ exhibit pattern.toList marks ++ "error: " ++ cause.text
  | tooBig => "Compiled regex exceeds size limit of " ++ toString maxSize ++ " bytes."

example : (Error.malformed .unclosedGroup ⟨2, 1⟩ none).message "a(b" =
    "regex parse error:\n    a(b\n     ^\nerror: unclosed group" := by decide +kernel

end TracerConfig.Pattern
