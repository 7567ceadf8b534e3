import TracerConfig.Text.Hex
import TracerConfig.Yaml.Cursor

/-!
# Tokens

The tokens of a document and the reading of those that have a text of their own: scalars in five
styles, anchors, tags and directives.
-/

namespace TracerConfig.Yaml

/-! ## Errors -/

/-- Why a text is no document, or a value has no text: what is wrong, and what was being read. -/
structure Error where
  problem : String
  context : Option String := none
deriving DecidableEq, Repr

namespace Error

/-- The wording of an error. A message names the place in the document too, which is left out. -/
def message (e : Error) : String :=
  match e.context with
  | none => e.problem
  | some context => e.problem ++ ", " ++ context

/-- What is wrong with a token. -/
def scanning (what problem : String) : Error := ⟨problem, some ("while scanning " ++ what)⟩

/-- What is wrong with a node, or with an escape in a token. -/
def parsing (what problem : String) : Error := ⟨problem, some ("while parsing " ++ what)⟩

/-- What is wrong with a directive. -/
def directive (problem : String) : Error := scanning "a directive" problem

/-- What is wrong with a version's directive. -/
def version (problem : String) : Error := scanning "a %YAML directive" problem

/-- What is wrong with a tag's directive. -/
def tagDirective (problem : String) : Error := scanning "a %TAG directive" problem

/-- What is wrong with a tag. -/
def tag (problem : String) : Error := scanning "a tag" problem

/-- What is wrong with an escape in a quoted scalar. -/
def escape (problem : String) : Error := parsing "a quoted scalar" problem

/-- What is wrong with a block scalar. -/
def block (problem : String) : Error := scanning "a block scalar" problem

/-- What is wrong with a plain scalar. -/
def plain (problem : String) : Error := scanning "a plain scalar" problem

def badCharacter : Error := ⟨"control characters are not allowed", none⟩

def badToken : Error :=
  scanning "for the next token" "found character that cannot start any token"

def missingColon : Error := scanning "a simple key" "could not find expected ':'"

def unexpectedDocumentMarker : Error :=
  scanning "a quoted scalar" "found unexpected document indicator"

def unclosedScalar : Error := scanning "a quoted scalar" "found unexpected end of stream"

end Error

/-! ## Tokens -/

/-- How a scalar is written. -/
inductive Style where
  | plain
  | singleQuoted
  | doubleQuoted
  | literal
  | folded
deriving DecidableEq, Repr

/-- A token. -/
inductive Token where
  | streamEnd
  | version (major minor : Nat)
  | tagDirective (handle expansion : String)
  | documentStart
  | documentEnd
  | blockSequenceStart
  | blockMappingStart
  | blockEnd
  | flowSequenceStart
  | flowSequenceEnd
  | flowMappingStart
  | flowMappingEnd
  | blockEntry
  | flowEntry
  | key
  | value
  | alias (name : String)
  | anchor (name : String)
  | tag (handle suffix : String)
  | scalar (text : String) (style : Style)
deriving DecidableEq, Repr

namespace Token

/-! ## Folding of lines -/

/-- Blanks and line ends met inside a scalar: the blanks before the first line end, that line
end, and the ones after it. -/
structure Gap where
  blanks : List Char := []
  first : List Char := []
  later : List Char := []
  broken : Bool := false

/-- What a gap stands for: blanks inside a line are kept, a single line feed is a space, and of
several line ends the first one is dropped. -/
def Gap.text (g : Gap) : List Char :=
  if g.broken then
    if g.first = ['\n'] then (if g.later.isEmpty then [' '] else g.later)
    else g.first ++ g.later
  else g.blanks

/-- Reads a gap. In a plain scalar a tab may not indent a continuation line less than
`indent`. -/
def gap (indent : Nat) : Nat → Gap → Cursor → Except Error (Gap × Cursor)
  | 0, g, c => .ok (g, c)
  | fuel + 1, g, c =>
    match c.rest with
    | d :: _ =>
      if isBlank d then
        if g.broken && c.column < indent && d = '\t' then
          .error (.plain "found a tab character that violates indentation")
        else if g.broken then gap indent fuel g c.skip
        else gap indent fuel { g with blanks := g.blanks ++ [d] } c.skip
      else if isBreak d then
        if g.broken then
          gap indent fuel { g with later := g.later ++ c.breakAt } c.skipBreak
        else
          gap indent fuel { g with blanks := [], first := c.breakAt, broken := true } c.skipBreak
      else .ok (g, c)
    | [] => .ok (g, c)

/-! ## Plain scalars -/

/-- Whether a plain scalar ends in front of `cs`: at a colon that ends a key, and in a flow
collection at one of its indicators. -/
def endsPlain (inFlow : Bool) (cs : List Char) : Bool :=
  match cs with
  | [] => true
  | ':' :: rest => separates rest
  | c :: _ =>
    inFlow && (c = ',' || c = '[' || c = ']' || c = '\x7b' || c = '\x7d')

/-- Whether a colon stands in a flow collection in front of an indicator. -/
def strayColon (inFlow : Bool) (cs : List Char) : Bool :=
  match cs with
  | ':' :: c :: _ =>
    inFlow && (c = ',' || c = '?' || c = '[' || c = ']' || c = '\x7b' || c = '\x7d')
  | _ => false

/-- The characters of a plain scalar up to a gap or its end. -/
def plainWord (inFlow : Bool) : List Char → Except Error (List Char)
  | [] => .ok []
  | c :: cs =>
    if isSpace c then .ok []
    else if strayColon inFlow (c :: cs) then .error (.plain "found unexpected ':'")
    else if endsPlain inFlow (c :: cs) then .ok []
    else (plainWord inFlow cs).map (c :: ·)

/-- A plain scalar that has been read: its text, and whether a line end follows it. -/
structure Plain where
  text : List Char
  broken : Bool

/-- Reads a plain scalar. `text` is what has been read, `g` the gap after it; the gap belongs
to the scalar only if a further word follows. -/
def plain (inFlow : Bool) (indent : Nat) :
    Nat → List Char → Gap → Cursor → Except Error (Plain × Cursor)
  | 0, text, g, c => .ok (⟨text, g.broken⟩, c)
  | fuel + 1, text, g, c => do
    if c.atDocumentMarker || c.rest.head? = some '#' then return (⟨text, g.broken⟩, c)
    let word ← plainWord inFlow c.rest
    let broken := word.isEmpty && g.broken
    let text := if word.isEmpty then text else text ++ g.text ++ word
    let c := c.skipMany word.length
    match c.rest with
    | d :: _ =>
      if isSpace d then
        let start : Gap := if word.isEmpty then g else {}
        let (g, c) ← gap indent (c.rest.length + 1) start c
        if !inFlow && c.column < indent then return (⟨text, g.broken⟩, c)
        plain inFlow indent fuel text g c
      else return (⟨text, broken⟩, c)
    | [] => return (⟨text, broken⟩, c)

/-! ## Quoted scalars -/

/-- The character of a one-letter escape. -/
def shortEscape? (c : Char) : Option Char :=
  match c with
  | '0' => some '\x00'
  | 'a' => some '\x07'
  | 'b' => some '\x08'
  | 't' | '\t' => some '\t'
  | 'n' => some '\n'
  | 'v' => some '\x0B'
  | 'f' => some '\x0C'
  | 'r' => some '\r'
  | 'e' => some '\x1B'
  | ' ' => some ' '
  | '"' => some '"'
  | '/' => some '/'
  | '\\' => some '\\'
  | 'N' => some '\u0085'
  | '_' => some '\u00A0'
  | 'L' => some '\u2028'
  | 'P' => some '\u2029'
  | _ => none

/-- The number of digits after an escape letter that announces a code point. -/
def escapeDigits (c : Char) : Nat :=
  match c with
  | 'x' => 2
  | 'u' => 4
  | 'U' => 8
  | _ => 0

/-- Reads an escape, the backslash in place. -/
def escape (c : Cursor) : Except Error (Char × Cursor) :=
  match c.rest with
  | _ :: letter :: rest =>
    match shortEscape? letter with
    | some d => .ok (d, c.skipMany 2)
    | none =>
      let count := escapeDigits letter
      let digits := rest.take count
      if count = 0 then .error (.escape "found unknown escape character")
      else if digits.length < count then
        .error (.escape "did not find expected hexdecimal number")
      else
        match Text.hexNumber? digits with
        | none => .error (.escape "did not find expected hexdecimal number")
        | some n =>
          if h : n.isValidChar then .ok (Char.ofNatAux n h, c.skipMany (2 + count))
          else .error (.escape "found invalid Unicode character escape code")
  | _ => .error (.escape "found unknown escape character")

/-- Reads the characters of a quoted scalar up to a gap or the closing quote; `done` holds the
ones read, the last first. The flag tells whether an escaped line end was met, after which the
line's blanks are dropped. -/
def quotedWord (single : Bool) :
    Nat → List Char → Cursor → Except Error (List Char × Bool × Cursor)
  | 0, done, c => .ok (done.reverse, false, c)
  | fuel + 1, done, c =>
    match c.rest with
    | [] => .ok (done.reverse, false, c)
    | d :: rest =>
      if isSpace d then .ok (done.reverse, false, c)
      else if single then
        if d = '\'' then
          if rest.head? = some '\'' then quotedWord single fuel (d :: done) (c.skipMany 2)
          else .ok (done.reverse, false, c)
        else quotedWord single fuel (d :: done) c.skip
      else if d = '"' then .ok (done.reverse, false, c)
      else if d = '\\' then
        if rest.head?.any isBreak then .ok (done.reverse, true, c.skip.skipBreak)
        else do
          let (e, c) ← escape c
          quotedWord single fuel (e :: done) c
      else quotedWord single fuel (d :: done) c.skip

/-- Reads a quoted scalar after its opening quote, up to its closing one; `text` is what has
been read. -/
def quoted (single : Bool) : Nat → List Char → Cursor → Except Error (List Char × Cursor)
  | 0, _, _ => .error .unclosedScalar
  | fuel + 1, text, c => do
    if c.atDocumentMarker then throw .unexpectedDocumentMarker
    if c.rest.isEmpty then throw .unclosedScalar
    let (word, joined, c) ← quotedWord single (c.rest.length + 1) [] c
    let text := text ++ word
    if c.rest.head? = some (if single then '\'' else '"') then return (text, c.skip)
    let start : Gap := { broken := joined }
    let (g, c) ← gap 0 (c.rest.length + 1) start c
    quoted single fuel (text ++ g.text) c

/-! ## Block scalars -/

/-- What becomes of the line ends at the end of a block scalar. -/
inductive Chomping where
  | strip
  | clip
  | keep
deriving DecidableEq, Repr

/-- The header of a block scalar: chomping and indentation indicators, in either order. -/
def blockHeader (c : Cursor) : Except Error (Chomping × Nat × Cursor) :=
  let noIndentation := Error.block "found an indentation indicator equal to 0"
  let chomping? : Char → Option Chomping := fun d =>
    if d = '+' then some .keep else if d = '-' then some .strip else none
  match c.rest with
  | d :: rest =>
    match chomping? d with
    | some chomping =>
      match rest with
      | e :: _ =>
        if e = '0' then .error noIndentation
        else if e.isDigit then .ok (chomping, e.toNat - 48, c.skipMany 2)
        else .ok (chomping, 0, c.skip)
      | [] => .ok (chomping, 0, c.skip)
    | none =>
      if d = '0' then .error noIndentation
      else if d.isDigit then
        match rest.head?.bind chomping? with
        | some chomping => .ok (chomping, d.toNat - 48, c.skipMany 2)
        | none => .ok (.clip, d.toNat - 48, c.skip)
      else .ok (.clip, 0, c)
  | [] => .ok (.clip, 0, c)

/-- Skips blanks and a comment up to the end of the line, and the line end. -/
def endOfLine (inside : String → Error) (c : Cursor) : Except Error Cursor :=
  let c := (c.skipWhile isBlank).skipComment
  match c.rest with
  | [] => .ok c
  | d :: _ =>
    if isBreak d then .ok c.skipBreak
    else .error (inside "did not find expected comment or line break")

/-- Reads empty lines of a block scalar and the indentation of the line after them. With
`indent = 0` the indentation is not known yet; the deepest column met is returned too. -/
def blockBreaks (indent : Nat) :
    Nat → Nat → List Char → Cursor → Except Error (Nat × List Char × Cursor)
  | 0, deepest, breaks, c => .ok (deepest, breaks, c)
  | fuel + 1, deepest, breaks, c =>
    match c.rest with
    | [] => .ok (max deepest c.column, breaks, c)
    | d :: _ =>
      let indenting := indent = 0 || c.column < indent
      if indenting && d = ' ' then blockBreaks indent fuel deepest breaks c.skip
      else if indenting && d = '\t' then
        .error (.block "found a tab character where an indentation space is expected")
      else if isBreak d then
        blockBreaks indent fuel (max deepest c.column) (breaks ++ c.breakAt) c.skipBreak
      else .ok (max deepest c.column, breaks, c)

/-- A block scalar while it is read: its text, the line end after the last line, the empty
lines after that, and whether the last line begins with a blank. -/
structure Block where
  text : List Char := []
  lineEnd : List Char := []
  breaks : List Char := []
  blankStart : Bool := false

/-- Adds a line. In a folded scalar the line end before it becomes a space, or nothing if empty
lines follow it, unless one of the two lines begins with a blank. -/
def Block.add (b : Block) (folded : Bool) (line lineEnd : List Char) : Block :=
  let blank := line.head?.any isBlank
  let joint :=
    if folded && b.lineEnd = ['\n'] && !b.blankStart && !blank then
      (if b.breaks.isEmpty then [' '] else [])
    else b.lineEnd
  ⟨b.text ++ joint ++ b.breaks ++ line, lineEnd, [], blank⟩

/-- The text of a block scalar that has been read. -/
def Block.chomp (b : Block) : Chomping → List Char
  | .strip => b.text
  | .clip => b.text ++ b.lineEnd
  | .keep => b.text ++ b.lineEnd ++ b.breaks

/-- Reads the lines of a block scalar that are indented by `indent`. -/
def blockLines (folded : Bool) (indent : Nat) : Nat → Block → Cursor →
    Except Error (Block × Cursor)
  | 0, b, c => .ok (b, c)
  | fuel + 1, b, c =>
    if c.column == indent && !c.rest.isEmpty then do
      let (line, c) := c.takeWhile fun d => !isBreak d
      let b := b.add folded line c.breakAt
      let c := if c.rest.isEmpty then c else c.skipBreak
      let (_, breaks, c) ← blockBreaks indent (c.rest.length + 1) 0 [] c
      blockLines folded indent fuel { b with breaks := breaks } c
    else .ok (b, c)

/-- Reads a block scalar after its indicator. `parent` is the indentation around it, if there
is any. -/
def block (folded : Bool) (parent : Option Nat) (c : Cursor) :
    Except Error (List Char × Cursor) := do
  let (chomping, increment, c) ← blockHeader c
  let c ← endOfLine .block c
  let known := if increment = 0 then 0 else parent.getD 0 + increment
  let (deepest, breaks, c) ← blockBreaks known (c.rest.length + 1) 0 [] c
  let least := match parent with
    | some p => p + 1
    | none => 0
  let indent := if known = 0 then max (max deepest least) 1 else known
  let (b, c) ← blockLines folded indent (c.rest.length + 1) { breaks := breaks } c
  return (b.chomp chomping, c)

/-! ## Anchors and tags -/

/-- Reads the name of an anchor or an alias, whichever `what` is, after its indicator. -/
def anchorName (what : String) (c : Cursor) : Except Error (String × Cursor) :=
  let (name, c) := c.takeWhile isWordChar
  let ended := separates c.rest || c.rest.head?.any fun d =>
    ['?', ':', ',', ']', '\x7d', '%', '@', '\x60'].contains d
  if name.isEmpty || !ended then
    .error (.scanning what "did not find expected alphabetic or numeric character")
  else .ok (String.ofList name, c)

/-- The characters of a tag, of which three stand for themselves only inside angle brackets. -/
def isTagChar (verbatim : Bool) (c : Char) : Bool :=
  isWordChar c ||
    [';', '/', '?', ':', '@', '&', '=', '+', '$', '.', '%', '!', '~', '*', '\'', '(', ')'].contains
      c ||
    (verbatim && (c = ',' || c = '[' || c = ']'))

/-- The length of an encoded character, from its first byte. -/
def encodedLength? (byte : Nat) : Option Nat :=
  if byte < 0x80 then some 1
  else if 0xC0 ≤ byte && byte < 0xE0 then some 2
  else if 0xE0 ≤ byte && byte < 0xF0 then some 3
  else if 0xF0 ≤ byte && byte < 0xF8 then some 4
  else none

/-- Reads one escaped byte of a tag or of a tag's directive, whichever `what` is. -/
def escapedByte (what : String) (c : Cursor) : Except Error (Nat × Cursor) :=
  match c.rest with
  | '%' :: a :: b :: _ =>
    match Text.hexNumber? [a, b] with
    | some n => .ok (n, c.skipMany 3)
    | none => .error (.parsing what "did not find URI escaped octet")
  | _ => .error (.parsing what "did not find URI escaped octet")

/-- Reads `left` escaped bytes that continue a character. -/
def escapedBytes (what : String) : Nat → List Nat → Cursor → Except Error (List Nat × Cursor)
  | 0, bytes, c => .ok (bytes, c)
  | left + 1, bytes, c => do
    let (byte, c) ← escapedByte what c
    if byte / 0x40 ≠ 2 then throw (.parsing what "found an incorrect trailing UTF-8 octet")
    escapedBytes what left (bytes ++ [byte]) c

/-- Reads the escaped bytes of one character. -/
def escapedChar (what : String) (c : Cursor) : Except Error (List Char × Cursor) := do
  let (first, c) ← escapedByte what c
  match encodedLength? first with
  | none => throw (.parsing what "found an incorrect leading UTF-8 octet")
  | some length =>
    let (bytes, c) ← escapedBytes what (length - 1) [first] c
    match String.fromUTF8? (bytes.map Nat.toUInt8).toByteArray with
    | some s => return (s.toList, c)
    | none => throw (.parsing what "found an incorrect trailing UTF-8 octet")

/-- Reads the characters of a tag after `text`. -/
def tagText (what : String) (verbatim : Bool) :
    Nat → List Char → Cursor → Except Error (List Char × Cursor)
  | 0, text, c => .ok (text, c)
  | fuel + 1, text, c =>
    match c.rest with
    | d :: _ =>
      if d = '%' then do
        let (decoded, c) ← escapedChar what c
        tagText what verbatim fuel (text ++ decoded) c
      else if isTagChar verbatim d then tagText what verbatim fuel (text ++ [d]) c.skip
      else .ok (text, c)
    | [] => .ok (text, c)

/-- Reads the characters of a tag, of which there have to be some. -/
def newTagText (what : String) (verbatim : Bool) (c : Cursor) :
    Except Error (String × Cursor) := do
  let (text, after) ← tagText what verbatim (c.rest.length + 1) [] c
  if text.isEmpty then throw (.parsing what "did not find expected tag URI")
  return (String.ofList text, after)

/-- Reads a tag's handle: `!`, a word, and perhaps a second `!`. -/
def tagHandle (what : String) (c : Cursor) : Except Error (List Char × Cursor) :=
  match c.rest with
  | '!' :: _ =>
    let (word, c) := c.skip.takeWhile isWordChar
    match c.rest with
    | '!' :: _ => .ok ('!' :: word ++ ['!'], c.skip)
    | _ => .ok ('!' :: word, c)
  | _ => .error (.scanning what "did not find expected '!'")

/-- Reads a tag: in angle brackets, with a handle, or after a plain `!`. -/
def tagToken (inFlow : Bool) (c : Cursor) : Except Error (Token × Cursor) := do
  let (token, c) ←
    match c.rest with
    | '!' :: '<' :: _ => do
      let (suffix, after) ← newTagText "a tag" true (c.skipMany 2)
      if after.rest.head? ≠ some '>' then throw (.tag "did not find the expected '>'")
      pure (Token.tag "" suffix, after.skip)
    | _ => do
      let (handle, c) ← tagHandle "a tag" c
      if handle.length > 1 && handle.getLast? = some '!' then
        let (suffix, after) ← newTagText "a tag" false c
        pure (Token.tag (String.ofList handle) suffix, after)
      else
        let (suffix, after) ← tagText "a tag" false (c.rest.length + 1) (handle.drop 1) c
        if suffix.isEmpty then pure (Token.tag "" "!", after)
        else pure (Token.tag "!" (String.ofList suffix), after)
  let ended := separates c.rest || (inFlow && c.rest.head? = some ',')
  if ended then return (token, c)
  else throw (.tag "did not find expected whitespace or line break")

/-! ## Directives -/

/-- Reads a number of at most nine digits. -/
def versionNumber (c : Cursor) : Except Error (Nat × Cursor) :=
  let (digits, c) := c.takeWhile Char.isDigit
  if digits.isEmpty then .error (.version "did not find expected version number")
  else if digits.length > 9 then .error (.version "found extremely long version number")
  else .ok (digits.foldl (fun n d => 10 * n + (d.toNat - 48)) 0, c)

/-- Reads a version after its directive's name. -/
def versionDirective (c : Cursor) : Except Error (Token × Cursor) := do
  let (major, c) ← versionNumber c
  if c.rest.head? ≠ some '.' then
    throw (.version "did not find expected digit or '.' character")
  let (minor, c) ← versionNumber c.skip
  return (.version major minor, c)

/-- Reads a tag handle and what it stands for after its directive's name. -/
def handleDirective (c : Cursor) : Except Error (Token × Cursor) := do
  let (handle, c) ← tagHandle "a directive" c
  if handle.length > 1 && handle.getLast? ≠ some '!' then
    throw (.parsing "a tag directive" "did not find expected '!'")
  if !c.rest.head?.any isBlank then throw (.tagDirective "did not find expected whitespace")
  let (expansion, c) ← newTagText "a %TAG directive" true (c.skipWhile isBlank)
  if !separates c.rest then
    throw (.tagDirective "did not find expected whitespace or line break")
  return (.tagDirective (String.ofList handle) expansion, c)

/-- Reads a directive after its `%`, to the end of its line. -/
def directive (c : Cursor) : Except Error (Token × Cursor) := do
  let (name, c) := c.takeWhile isWordChar
  if name.isEmpty then throw (.directive "could not find expected directive name")
  if !separates c.rest then throw (.directive "found unexpected non-alphabetical character")
  let c := c.skipWhile isBlank
  let (token, c) ←
    match String.ofList name with
    | "YAML" => versionDirective c
    | "TAG" => handleDirective c
    | _ => throw (.directive "found unknown directive name")
  return (token, ← endOfLine .directive c)

end Token

end TracerConfig.Yaml
