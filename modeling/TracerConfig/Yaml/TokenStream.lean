import TracerConfig.Yaml.Token

/-!
# Token streams

A document as a list of tokens. Nesting by indentation is made explicit: a block collection gets
a token where it starts and one where it ends.

A mapping key is recognized late, by the colon after it. So wherever a key may start, the place
is remembered; when the colon comes, the key's token, and the start of its mapping if it is the
first key, are put in at that place. A remembered place is forgotten once the key could not be
one any more: on another line, or more than 1024 characters on.

Main definition: `Token.streamOf`.
-/

namespace TracerConfig.Yaml

/-- A place at which a key may start. -/
structure KeyPlace where
  /-- No other reading is possible there. -/
  required : Bool
  /-- The number of tokens in front of it. -/
  tokenCount : Nat
  index : Nat
  line : Nat
  column : Nat

/-- What has been read of a document. -/
structure Scan where
  cursor : Cursor
  /-- The tokens, the last first. -/
  tokens : List Token := []
  tokenCount : Nat := 0
  /-- The place of the last possible key in the block context, then in each flow collection,
  the innermost first. -/
  keys : List (Option KeyPlace) := [none]
  /-- The column of the innermost block collection, if there is one. -/
  indent : Option Nat := none
  /-- The columns of the block collections around it, the innermost first. -/
  outer : List (Option Nat) := []
  /-- How many flow collections are open. -/
  flowLevel : Nat := 0
  /-- Whether a key may start here. -/
  keyAllowed : Bool := true

namespace Scan

/-- Whether the cursor stands inside a flow collection. -/
def inFlow (s : Scan) : Bool := s.flowLevel != 0

/-- Adds a token. -/
def push (s : Scan) (t : Token) : Scan :=
  { s with tokens := t :: s.tokens, tokenCount := s.tokenCount + 1 }

/-- Puts a token in after the first `count` ones. -/
def insert (s : Scan) (count : Nat) (t : Token) : Scan :=
  let later := s.tokenCount - count
  { s with
    tokens := s.tokens.take later ++ t :: s.tokens.drop later
    tokenCount := s.tokenCount + 1 }

/-- Skips `n` characters. -/
def skipMany (s : Scan) (n : Nat) : Scan := { s with cursor := s.cursor.skipMany n }

/-! ## Possible keys -/

/-- Whether a possible key has become impossible. -/
def expired (c : Cursor) (k : KeyPlace) : Bool :=
  k.line < c.line || k.index + 1024 < c.index

/-- Forgets the places that have become impossible. -/
def dropExpired (s : Scan) : Except Error Scan :=
  let dead (k : Option KeyPlace) : Bool := k.any (expired s.cursor)
  if s.keys.any fun k => dead k && k.any (·.required) then .error .missingColon
  else .ok { s with keys := s.keys.map fun k => if dead k then none else k }

/-- Forgets the innermost possible key. -/
def dropKey (s : Scan) : Except Error Scan :=
  match s.keys with
  | some k :: rest =>
    if k.required then .error .missingColon else .ok { s with keys := none :: rest }
  | _ => .ok s

/-- Remembers that a key may start at the cursor, if one may. -/
def markKey (s : Scan) : Except Error Scan :=
  if s.keyAllowed then do
    let required := !s.inFlow && s.indent == some s.cursor.column
    let s ← s.dropKey
    let here : KeyPlace :=
      ⟨required, s.tokenCount, s.cursor.index, s.cursor.line, s.cursor.column⟩
    return { s with keys := some here :: s.keys.drop 1 }
  else .ok s

/-! ## Indentation -/

/-- Whether a column lies deeper than the innermost block collection. -/
def deeper (indent : Option Nat) (column : Nat) : Bool :=
  match indent with
  | none => true
  | some i => i < column

/-- Opens a block collection at `column`, unless one is open there. Its token is put in after
the first `count` ones. -/
def openBlock (s : Scan) (column count : Nat) (t : Token) : Scan :=
  if !s.inFlow && deeper s.indent column then
    { s.insert count t with indent := some column, outer := s.indent :: s.outer }
  else s

/-- Closes the block collections that are deeper than `column`. -/
def closeBlocks (column : Option Nat) : List (Option Nat) → Scan → Scan
  | outer, s =>
    match s.indent with
    | none => s
    | some i =>
      if column.any (i ≤ ·) then s
      else
        match outer with
        | o :: rest =>
          closeBlocks column rest { s.push .blockEnd with indent := o, outer := rest }
        | [] => { s.push .blockEnd with indent := none, outer := [] }

/-- Closes the block collections that are deeper than `column`; in a flow collection
indentation does not count. -/
def unindent (s : Scan) (column : Option Nat) : Scan :=
  if s.inFlow then s else closeBlocks column s.outer s

/-! ## Tokens -/

/-- Skips blanks, comments and line ends in front of a token. A tab counts as a blank where it
cannot be taken for indentation. A new line may start a key. -/
def skipToToken : Nat → Scan → Scan
  | 0, s => s
  | fuel + 1, s =>
    let c := s.cursor
    let c := if c.column == 0 && c.rest.head? = some '\uFEFF' then c.skip else c
    let tabs := s.inFlow || !s.keyAllowed
    let c := (c.skipWhile fun d => d = ' ' || (tabs && d = '\t')).skipComment
    match c.rest with
    | d :: _ =>
      if isBreak d then
        skipToToken fuel { s with cursor := c.skipBreak, keyAllowed := s.keyAllowed || !s.inFlow }
      else { s with cursor := c }
    | [] => { s with cursor := c }

/-- The end of the document's text. -/
def endStream (s : Scan) : Except Error Scan := do
  let s ← (s.unindent none).dropKey
  return { s.push .streamEnd with keyAllowed := false }

/-- A directive. -/
def scanDirective (s : Scan) : Except Error Scan := do
  let s ← (s.unindent none).dropKey
  let (t, c) ← Token.directive s.cursor.skip
  return { s.push t with cursor := c, keyAllowed := false }

/-- The explicit start or end of a document. -/
def scanMarker (t : Token) (s : Scan) : Except Error Scan := do
  let s ← (s.unindent none).dropKey
  return { (s.skipMany 3).push t with keyAllowed := false }

/-- The opening bracket of a flow collection. -/
def openFlow (t : Token) (s : Scan) : Except Error Scan := do
  let s ← s.markKey
  return { (s.skipMany 1).push t with
    keys := none :: s.keys, flowLevel := s.flowLevel + 1, keyAllowed := true }

/-- The closing bracket of a flow collection. -/
def closeFlow (t : Token) (s : Scan) : Except Error Scan := do
  let s ← s.dropKey
  let s := { s with
    keys := if s.inFlow then s.keys.drop 1 else s.keys, flowLevel := s.flowLevel - 1 }
  return { (s.skipMany 1).push t with keyAllowed := false }

/-- The comma between the entries of a flow collection. -/
def scanComma (s : Scan) : Except Error Scan := do
  let s ← s.dropKey
  return { (s.skipMany 1).push .flowEntry with keyAllowed := true }

/-- The dash of a block sequence's entry. -/
def scanDash (s : Scan) : Except Error Scan := do
  if !s.inFlow && !s.keyAllowed then throw ⟨"block sequence entries are not allowed in this context", none⟩
  let s := s.openBlock s.cursor.column s.tokenCount .blockSequenceStart
  let s ← s.dropKey
  return { (s.skipMany 1).push .blockEntry with keyAllowed := true }

/-- The question mark of an explicit key. -/
def scanQuestionMark (s : Scan) : Except Error Scan := do
  if !s.inFlow && !s.keyAllowed then throw ⟨"mapping keys are not allowed in this context", none⟩
  let s := s.openBlock s.cursor.column s.tokenCount .blockMappingStart
  let s ← s.dropKey
  return { (s.skipMany 1).push .key with keyAllowed := !s.inFlow }

/-- The colon of a value. It turns the last possible key into one. -/
def scanColon (s : Scan) : Except Error Scan := do
  match s.keys with
  | some k :: rest =>
    let s := (s.insert k.tokenCount .key).openBlock k.column k.tokenCount .blockMappingStart
    return { (s.skipMany 1).push .value with keys := none :: rest, keyAllowed := false }
  | _ =>
    if !s.inFlow && !s.keyAllowed then throw ⟨"mapping values are not allowed in this context", none⟩
    let s := s.openBlock s.cursor.column s.tokenCount .blockMappingStart
    return { (s.skipMany 1).push .value with keyAllowed := !s.inFlow }

/-- An anchor or an alias, whichever `what` is. -/
def scanAnchor (what : String) (token : String → Token) (s : Scan) : Except Error Scan := do
  let s ← s.markKey
  let (name, c) ← Token.anchorName what s.cursor.skip
  return { s.push (token name) with cursor := c, keyAllowed := false }

/-- A tag. -/
def scanTag (s : Scan) : Except Error Scan := do
  let s ← s.markKey
  let (t, c) ← Token.tagToken s.inFlow s.cursor
  return { s.push t with cursor := c, keyAllowed := false }

/-- A block scalar. A key may follow on the next line. -/
def scanBlockScalar (folded : Bool) (s : Scan) : Except Error Scan := do
  let s ← s.dropKey
  let (text, c) ← Token.block folded s.indent s.cursor.skip
  let t := Token.scalar (String.ofList text) (if folded then .folded else .literal)
  return { s.push t with cursor := c, keyAllowed := true }

/-- A quoted scalar. -/
def scanQuoted (single : Bool) (s : Scan) : Except Error Scan := do
  let s ← s.markKey
  let (text, c) ← Token.quoted single (s.cursor.rest.length + 1) [] s.cursor.skip
  let t := Token.scalar (String.ofList text) (if single then .singleQuoted else .doubleQuoted)
  return { s.push t with cursor := c, keyAllowed := false }

/-- A plain scalar. A key may follow if the scalar is followed by a line end. -/
def scanPlain (s : Scan) : Except Error Scan := do
  let s ← s.markKey
  let indent := match s.indent with
    | some i => i + 1
    | none => 0
  let (p, c) ← Token.plain s.inFlow indent (s.cursor.rest.length + 1) [] {} s.cursor
  let t := Token.scalar (String.ofList p.text) .plain
  return { s.push t with cursor := c, keyAllowed := p.broken }

/-- Whether a plain scalar may start with the character `d` in front of `rest`. -/
def startsPlain (inFlow : Bool) (d : Char) (rest : List Char) : Bool :=
  if d = '-' then !rest.head?.any isBlank
  else if d = '?' || d = ':' then !inFlow && !separates rest
  else !(isSpace d ||
    [',', '[', ']', '\x7b', '\x7d', '#', '&', '*', '!', '|', '>', '\'', '"', '%', '@',
      '\x60'].contains d)

/-- Reads the next token, with the cursor in front of it. -/
def scanToken (s : Scan) : Except Error Scan :=
  let c := s.cursor
  match c.rest with
  | [] => s.endStream
  | d :: rest =>
    if c.column == 0 && d = '%' then s.scanDirective
    else if c.atMarker ['-', '-', '-'] then s.scanMarker .documentStart
    else if c.atMarker ['.', '.', '.'] then s.scanMarker .documentEnd
    else if d = '[' then s.openFlow .flowSequenceStart
    else if d = '\x7b' then s.openFlow .flowMappingStart
    else if d = ']' then s.closeFlow .flowSequenceEnd
    else if d = '\x7d' then s.closeFlow .flowMappingEnd
    else if d = ',' then s.scanComma
    else if d = '-' && separates rest then s.scanDash
    else if d = '?' && (s.inFlow || separates rest) then s.scanQuestionMark
    else if d = ':' && (s.inFlow || separates rest) then s.scanColon
    else if d = '*' then s.scanAnchor "an alias" .alias
    else if d = '&' then s.scanAnchor "an anchor" .anchor
    else if d = '!' then s.scanTag
    else if d = '|' && !s.inFlow then s.scanBlockScalar false
    else if d = '>' && !s.inFlow then s.scanBlockScalar true
    else if d = '\'' then s.scanQuoted true
    else if d = '"' then s.scanQuoted false
    else if startsPlain s.inFlow d rest then s.scanPlain
    else .error .badToken

/-- Reads tokens to the end of the text. Every token but the last takes a character at
least. -/
def run : Nat → Scan → Except Error (List Token)
  | 0, _ => .error .badToken
  | fuel + 1, s => do
    let s := s.skipToToken (s.cursor.rest.length + 1)
    let s ← s.dropExpired
    let s := s.unindent (some s.cursor.column)
    let s ← s.scanToken
    match s.tokens with
    | .streamEnd :: _ => return s.tokens.reverse
    | _ => run fuel s

end Scan

/-- The tokens of a document's text. A byte order mark at its front is skipped. -/
def Token.streamOf (text : String) : Except Error (List Token) :=
  let cs := match text.toList with
    | '\uFEFF' :: rest => rest
    | cs => cs
  if cs.all isAllowed then Scan.run (cs.length + 2) { cursor := { rest := cs } }
  else .error .badCharacter

end TracerConfig.Yaml
