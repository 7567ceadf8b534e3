/-!
# Reading positions in a document

A cursor holds what is left of a document and where that starts: the number of characters before
it, its line and its column. Columns decide nesting, lines and offsets decide whether a text can
still be a key.

The character classes of the format are those of its version 1.1: a line may end in a carriage
return, a line feed, both, or one of three further characters.
-/

namespace TracerConfig.Yaml

/-! ## Character classes -/

/-- Characters that may occur in a document. -/
def isAllowed (c : Char) : Bool :=
  let n := c.toNat
  n == 0x9 || n == 0xA || n == 0xD || (0x20 ≤ n && n ≤ 0x7E) || n == 0x85 ||
    (0xA0 ≤ n && n ≤ 0xD7FF) || (0xE000 ≤ n && n ≤ 0xFFFD) || 0x10000 ≤ n

/-- Characters that end a line. -/
def isBreak (c : Char) : Bool :=
  c = '\r' || c = '\n' || c = '\u0085' || c = '\u2028' || c = '\u2029'

/-- Space and tab. -/
def isBlank (c : Char) : Bool := c = ' ' || c = '\t'

/-- Blanks and line ends. -/
def isSpace (c : Char) : Bool := isBlank c || isBreak c

/-- Whether what follows separates two tokens: a blank, a line end, or nothing. -/
def separates : List Char → Bool
  | [] => true
  | c :: _ => isSpace c

/-- The characters of anchors, directives and tag handles. -/
def isWordChar (c : Char) : Bool :=
  c.isAlphanum || c = '_' || c = '-'

/-- How a line end is kept in a value: as a line feed, unless it is one of the two separators
that have no other form. -/
def breakText (c : Char) : Char := if c = '\u2028' || c = '\u2029' then c else '\n'

/-! ## Cursors -/

/-- A place in a document and the text from there on. -/
structure Cursor where
  rest : List Char
  index : Nat := 0
  line : Nat := 0
  column : Nat := 0

namespace Cursor

/-- Skips one character that does not end a line. -/
def skip (c : Cursor) : Cursor :=
  { c with rest := c.rest.drop 1, index := c.index + 1, column := c.column + 1 }

/-- Skips `n` characters that do not end a line. -/
def skipMany (c : Cursor) (n : Nat) : Cursor :=
  { c with rest := c.rest.drop n, index := c.index + n, column := c.column + n }

/-- Skips a line end, which is a single character or a carriage return and a line feed. -/
def skipBreak (c : Cursor) : Cursor :=
  match c.rest with
  | '\r' :: '\n' :: rest => ⟨rest, c.index + 2, c.line + 1, 0⟩
  | _ :: rest => ⟨rest, c.index + 1, c.line + 1, 0⟩
  | [] => c

/-- The text of the line end at the cursor, as it is kept in a value. -/
def breakAt (c : Cursor) : List Char :=
  match c.rest with
  | d :: _ => if isBreak d then [breakText d] else []
  | [] => []

/-- The characters that satisfy `p`, up to the first one that does not. -/
def takeWhile (c : Cursor) (p : Char → Bool) : List Char × Cursor :=
  let taken := c.rest.takeWhile p
  (taken, c.skipMany taken.length)

/-- Skips the characters that satisfy `p`. -/
def skipWhile (c : Cursor) (p : Char → Bool) : Cursor := (c.takeWhile p).2

/-- Skips a comment, if there is one, up to the end of the line. -/
def skipComment (c : Cursor) : Cursor :=
  match c.rest with
  | '#' :: _ => c.skipWhile fun d => !isBreak d
  | _ => c

/-- Whether `word` stands at the cursor at the start of a line, with nothing joined to it. -/
def atMarker (c : Cursor) (word : List Char) : Bool :=
  c.column == 0 && word.isPrefixOf c.rest && separates (c.rest.drop word.length)

/-- Whether a document starts or ends explicitly at the cursor. -/
def atDocumentMarker (c : Cursor) : Bool :=
  c.atMarker ['-', '-', '-'] || c.atMarker ['.', '.', '.']

end Cursor

end TracerConfig.Yaml
