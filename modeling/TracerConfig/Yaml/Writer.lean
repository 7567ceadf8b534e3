import TracerConfig.Yaml.Value

/-!
# Writing documents

A value as a block document: entries on lines of their own, nested collections indented by two,
a sequence that is a mapping's value not indented, and empty collections in brackets. A string
is written without quotes if it is read back from that form, and as a literal block if it has
line feeds in it; else it is quoted, with escapes only where nothing else will do. A node has
room for one tag, so that a value with two tags in a row cannot be written.

Main definitions: `Value.isWritable`, `Value.renderSequence`.
-/

namespace TracerConfig.Yaml

namespace Writer

/-! ## Strings -/

/-- The way a scalar is written. -/
inductive Form where
  | plain
  | single
  | double
  | literal
deriving DecidableEq, Repr

/-- Characters that need no escape. -/
def isPrintable (c : Char) : Bool :=
  let n := c.toNat
  n == 0xA || (0x20 ≤ n && n ≤ 0x7E) || (0xA0 ≤ n && n ≤ 0xD7FF) ||
    (0xE000 ≤ n && n ≤ 0xFFFD && n != 0xFEFF)

/-- Whether two neighbouring characters satisfy `p` and `q`. -/
def hasPair (p q : Char → Bool) (cs : List Char) : Bool :=
  (cs.zip (cs.drop 1)).any fun (a, b) => p a && q b

/-- Characters that have a meaning of their own at the front of a text. -/
def isIndicator (c : Char) : Bool :=
  ['#', ',', '[', ']', '\x7b', '\x7d', '&', '*', '!', '|', '>', '\'', '"', '%', '@', '\x60'].contains
    c

/-- Whether a text without quotes would be taken for something else. -/
def hasIndicator (cs : List Char) : Bool :=
  let followed (c : Char) := (cs.drop 1).head?.all isSpace && cs.head? = some c
  cs.take 3 == ['-', '-', '-'] || cs.take 3 == ['.', '.', '.'] ||
    cs.head?.any isIndicator || followed '?' || followed '-' ||
    hasPair (· = ':') isSpace cs || cs.getLast? = some ':' || hasPair isSpace (· = '#') cs

/-- Whether a space stands next to a line end that comes after it. -/
def spaceBeforeBreak (cs : List Char) : Bool := hasPair (· = ' ') isBreak cs

/-- Whether a text can stand without quotes. -/
def fitsPlain (cs : List Char) : Bool :=
  let blank (c : Char) := c = ' ' || isBreak c
  !(cs.head?.any blank || cs.getLast?.any blank || cs.any isBreak || hasIndicator cs ||
    !cs.all isPrintable)

/-- Whether a text can stand between single quotes. -/
def fitsSingle (cs : List Char) : Bool :=
  cs.all isPrintable && !spaceBeforeBreak cs && !hasPair isBreak (· = ' ') cs

/-- Whether a text can stand in a literal block. -/
def fitsLiteral (cs : List Char) : Bool :=
  cs.all isPrintable && !spaceBeforeBreak cs && cs.getLast? ≠ some ' '

/-- Words that older versions of the format read as booleans. -/
def truthWords : List String :=
  ["y", "Y", "yes", "Yes", "YES", "n", "N", "no", "No", "NO", "true", "True", "TRUE", "false",
    "False", "FALSE", "on", "On", "ON", "off", "Off", "OFF"]

/-- Whether a text without quotes would be read as the string it is. -/
def readsAsString (s : String) : Bool :=
  match Scalar.ofPlain s with
  | .ok (.string _) => !Scalar.isZeroPadded s.toList
  | _ => false

/-- The form of a string. -/
def formOf (s : String) : Form :=
  let cs := s.toList
  let quoted : Form := if fitsSingle cs then .single else .double
  if truthWords.contains s then .single
  else if cs.contains '\n' then if fitsLiteral cs then .literal else .double
  else if readsAsString s then if fitsPlain cs then .plain else quoted
  else quoted

/-- `n` spaces. -/
def spaces (n : Nat) : List Char := List.replicate n ' '

/-- The characters between single quotes. A line after a line end is indented. -/
def singleQuotedBody (indent : Nat) (broken : Bool) : List Char → List Char
  | [] => if broken then spaces indent else []
  | c :: cs =>
    if isBreak c then c :: singleQuotedBody indent true cs
    else
      (if broken then spaces indent else []) ++ (if c = '\'' then ['\'', '\''] else [c]) ++
        singleQuotedBody indent false cs

/-- The short escape of a character. -/
def shortEscape? (c : Char) : Option Char :=
  match c with
  | '\x00' => some '0'
  | '\x07' => some 'a'
  | '\x08' => some 'b'
  | '\t' => some 't'
  | '\n' => some 'n'
  | '\x0B' => some 'v'
  | '\x0C' => some 'f'
  | '\r' => some 'r'
  | '\x1B' => some 'e'
  | '"' => some '"'
  | '\\' => some '\\'
  | '\u0085' => some 'N'
  | '\u00A0' => some '_'
  | '\u2028' => some 'L'
  | '\u2029' => some 'P'
  | _ => none

/-- Upper case hexadecimal digits. -/
def upperHex (count n : Nat) : List Char := (Text.hexPadded count n).map Char.toUpper

/-- A character between double quotes. -/
def doubleQuotedChar (c : Char) : List Char :=
  if isPrintable c && !isBreak c && c ≠ '"' && c ≠ '\\' then [c]
  else
    match shortEscape? c with
    | some e => ['\\', e]
    | none =>
      let n := c.toNat
      if n ≤ 0xFF then '\\' :: 'x' :: upperHex 2 n
      else if n ≤ 0xFFFF then '\\' :: 'u' :: upperHex 4 n
      else '\\' :: 'U' :: upperHex 8 n

/-- What follows the bar of a literal block: its indentation, where the text begins with a blank,
and what its last line ends with. -/
def literalHeader (cs : List Char) : List Char :=
  let indentation := if cs.head?.any fun c => c = ' ' || isBreak c then ['2'] else []
  let chomping := match cs.reverse with
    | last :: before =>
      if !isBreak last then ['-']
      else
        match before with
        | [] => ['+']
        | c :: _ => if isBreak c then ['+'] else []
    | [] => ['-']
  indentation ++ chomping

/-- The lines of a literal block, each indented unless it is empty. -/
def literalBody (indent : Nat) (atStart : Bool) : List Char → List Char
  | [] => []
  | c :: cs =>
    if isBreak c then c :: literalBody indent true cs
    else (if atStart then spaces indent else []) ++ c :: literalBody indent false cs

/-- A string whose further lines, if there are any, are indented. -/
def string (indent : Nat) (s : String) : List Char :=
  let cs := s.toList
  match formOf s with
  | .plain => cs
  | .single => '\'' :: singleQuotedBody indent false cs ++ ['\'']
  | .double => '"' :: cs.flatMap doubleQuotedChar ++ ['"']
  | .literal => '|' :: literalHeader cs ++ '\n' :: literalBody indent true cs

/-- A scalar. -/
def scalar (indent : Nat) : Scalar → List Char
  | .string s => string indent s
  | s => s.text.toList

/-- A text with a line feed after it, unless it ends a line already. -/
def endLine (cs : List Char) : List Char :=
  if cs.getLast?.any isBreak then cs else cs ++ ['\n']

/-! ## Tags -/

/-- A character of a tag, its bytes escaped unless it stands for itself. -/
def tagChar (c : Char) : List Char :=
  if Token.isTagChar true c && c ≠ '%' then [c]
  else (String.singleton c).toUTF8.toList.flatMap fun b => '%' :: upperHex 2 b.toNat

/-- A tag. One that is nothing but an exclamation mark has to stand in angle brackets. -/
def tag (t : String) : List Char :=
  if t = "!" then "!<!>".toList else '!' :: t.toList.flatMap tagChar

/-! ## Collections -/

/-- What a node follows: the dash of an item, the mark of an explicit key or value, or a key on
the same line. -/
inductive Place where
  | item
  | explicit
  | afterKey
deriving DecidableEq, Repr

/-- The text of a key that can stand in front of its colon: an empty collection, or a scalar on
one line, with no more than 128 bytes. -/
def simpleKey? : Value → Option (List Char)
  | .scalar (.string s) =>
    if s.utf8ByteSize ≤ 128 && !s.toList.any isBreak then some (string 0 s) else none
  | .scalar s => some (scalar 0 s)
  | .sequence [] => some "[]".toList
  | .mapping [] => some "\x7b\x7d".toList
  | .tagged t v =>
    let size := (if t = "!" then 1 else t.utf8ByteSize + 1) + match v with
      | .scalar s => s.text.utf8ByteSize
      | _ => 0
    if 128 < size then none else (simpleKey? v).map fun text => tag t ++ ' ' :: text
  | _ => none

mutual

/-- A node after what introduces it, in a collection at column `n`, to the end of its last
line. -/
def node (place : Place) (n : Nat) (hasTag : Bool) : Value → List Char
  | .scalar s => endLine (' ' :: scalar (n + 2) s)
  | .sequence [] => " []\n".toList
  | .mapping [] => " \x7b\x7d\n".toList
  | .sequence (v :: items) =>
    if hasTag || place = .afterKey then
      let column := if place = .item then n + 2 else n
      '\n' :: spaces column ++ '-' :: node .item column false v ++ itemLines column items
    else ' ' :: '-' :: node .item (n + 2) false v ++ itemLines (n + 2) items
  | .mapping (p :: pairs) =>
    let start := if hasTag || place = .afterKey then '\n' :: spaces (n + 2) else [' ']
    start ++ pair (n + 2) p ++ pairLines (n + 2) pairs
  | .tagged t v => ' ' :: tag t ++ node place n true v

/-- The further items of a sequence at column `n`. -/
def itemLines (n : Nat) : List Value → List Char
  | [] => []
  | v :: rest => spaces n ++ '-' :: node .item n false v ++ itemLines n rest

/-- A pair of a mapping at column `n`. -/
def pair (n : Nat) : Value × Value → List Char
  | (k, v) =>
    match simpleKey? k with
    | some text => text ++ ':' :: node .afterKey n false v
    | none => '?' :: node .explicit n false k ++ spaces n ++ ':' :: node .explicit n false v

/-- The further pairs of a mapping at column `n`. -/
def pairLines (n : Nat) : List (Value × Value) → List Char
  | [] => []
  | p :: rest => spaces n ++ pair n p ++ pairLines n rest

end

end Writer

namespace Value

mutual

/-- Whether a value can be written: no tag in it stands in front of another one. -/
def isWritable : Value → Bool
  | .scalar _ => true
  | .sequence items => itemsWritable items
  | .mapping pairs => pairsWritable pairs
  | .tagged _ (.tagged ..) => false
  | .tagged _ v => isWritable v

/-- Whether all items of a sequence can be written. -/
def itemsWritable : List Value → Bool
  | [] => true
  | v :: rest => isWritable v && itemsWritable rest

/-- Whether all pairs of a mapping can be written. -/
def pairsWritable : List (Value × Value) → Bool
  | [] => true
  | (k, v) :: rest => isWritable k && isWritable v && pairsWritable rest

end

/-- A sequence as a document. -/
def renderSequence (items : List Value) : Except Error String :=
  if !itemsWritable items then
    .error ⟨"serializing nested enums in YAML is not supported yet", none⟩
  else
    match items with
    | [] => .ok "[]\n"
    | v :: rest =>
      .ok (String.ofList ('-' :: Writer.node .item 0 false v ++ Writer.itemLines 0 rest))

end Value

end TracerConfig.Yaml
