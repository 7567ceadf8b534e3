import TracerConfig.Pattern.Ast
import TracerConfig.Text.Hex
import TracerConfig.Text.Blank
import TracerConfig.Unicode.Property

/-!
# Reading patterns

A pattern is read from left to right. With the blank-ignoring flag on, blanks and comments
between tokens are skipped; the flag holds from where it is set to the end of its group. A place
in the pattern is told by the number of characters left there.

Main definition: `Ast.parse`, which also refuses patterns nested deeper than 250 levels.
-/

namespace TracerConfig.Pattern

/-- What is left to read, whether blanks are ignored, and the group names met so far. -/
structure Reading where
  rest : List Char
  ignoreBlanks : Bool := false
  names : List (String × Span) := []

/-- A step of reading. -/
abbrev Reader := StateT Reading (Except Error)

namespace Reader

/-! ## Characters -/

/-- Drops blanks and comments; `inComment` tells whether a comment is being skipped. -/
def dropBlanks (inComment : Bool) : List Char → List Char
  | [] => []
  | c :: cs =>
    if inComment then dropBlanks (c ≠ '\n') cs
    else if Text.isBlank c then dropBlanks false cs
    else if c = '#' then dropBlanks true cs
    else c :: cs

/-- What is left to read. -/
def rest : Reader (List Char) := do return (← get).rest

/-- The place that has been reached. -/
def here : Reader Nat := do return (← rest).length

/-- The span from a place to the one that has been reached. -/
def since (start : Nat) : Reader Span := do return ⟨start, ← here⟩

/-- The span of the next character. -/
def nextSpan : Reader Span := do return .ofChar (← here)

/-- Refuses the pattern for one of its parts. -/
def failAt {α : Type} (cause : Cause) (span : Span) : Reader α := throw (.malformed cause span none)

/-- Refuses the pattern for what stands between a place and the one that has been reached. -/
def failSince {α : Type} (cause : Cause) (start : Nat) : Reader α := do
  failAt cause (← since start)

/-- Refuses the pattern for what is missing at the place that has been reached. -/
def failHere {α : Type} (cause : Cause) : Reader α := do failAt cause (.empty (← here))

/-- Refuses the pattern for the next character. -/
def failNext {α : Type} (cause : Cause) : Reader α := do failAt cause (← nextSpan)

/-- Continues at `cs`. -/
def goTo (cs : List Char) : Reader Unit := modify fun r => { r with rest := cs }

/-- Skips blanks and comments if they are ignored. -/
def skipBlanks : Reader Unit :=
  modify fun r => if r.ignoreBlanks then { r with rest := dropBlanks false r.rest } else r

/-- Skips one character. -/
def skip : Reader Unit := modify fun r => { r with rest := r.rest.drop 1 }

/-- Skips one character and the ignored blanks after it. -/
def advance : Reader Unit := do
  skip
  skipBlanks

/-- The next character; `atEnd` if there is none. -/
def next (atEnd : Reader Char) : Reader Char := do
  match ← rest with
  | [] => atEnd
  | c :: _ => return c

/-- Skips one character and ignored blanks; `atEnd` if nothing is left then. -/
def advanceTo (atEnd : Reader Char) : Reader Char := do
  advance
  next atEnd

/-- Skips `word` if it comes next. -/
def skipWord? (word : String) : Reader Bool := do
  let cs ← rest
  if word.toList.isPrefixOf cs then
    goTo (cs.drop word.length)
    return true
  else return false

/-- The characters that stand for themselves only when escaped. -/
def isMeta (c : Char) : Bool := "\\.+*?()|[]\x7b\x7d^$#&-~".toList.contains c

/-- ASCII characters that may be escaped although they need not be. -/
def isEscapable (c : Char) : Bool :=
  c.toNat < 0x80 && !c.isAlphanum && c ≠ '<' && c ≠ '>'

/-- The character of a code point, if it has one. -/
def charOf? (n : Nat) : Option Char := if h : n.isValidChar then some (Char.ofNatAux n h) else none

/-! ## Escapes -/

/-- Reads `left` hexadecimal digits, the next one in place. -/
def hexDigits : Nat → Nat → Reader Nat
  | 0, value => return value
  | left + 1, value => do
    let c ← next (failHere .incompleteEscape)
    match Text.hexValue? c with
    | none => failNext .badHexDigit
    | some d =>
      advance
      hexDigits left (16 * value + d)

/-- Reads hexadecimal digits up to a closing brace, counting them. `opening` is the place of the
opening brace. -/
def hexBrace (opening : Nat) : Nat → Nat → Nat → Reader (Nat × Nat)
  | 0, _, _ => failSince .incompleteEscape opening
  | fuel + 1, value, count => do
    let c ← next (failSince .incompleteEscape opening)
    if c = '\x7d' then return (value, count)
    else match Text.hexValue? c with
      | none => failNext .badHexDigit
      | some d =>
        advance
        hexBrace opening fuel (16 * value + d) (count + 1)

/-- Reads the code point after `\x`, `\u` or `\U`, in braces or with a fixed number of
digits. The escape begins at `start`. -/
def hexEscape (start : Nat) (kind : Char) : Reader Literal := do
  let c ← advanceTo (failHere .incompleteEscape)
  let opening ← here
  if c = '\x7b' then
    advance
    let (value, count) ← hexBrace opening opening 0 0
    let digits ← since (opening - 1)
    advance
    if count = 0 then failSince .emptyHex opening
    match charOf? value with
    | some c => return ⟨c, false, ← since start⟩
    | none => failAt .badHex digits
  else
    let value ← hexDigits (if kind = 'x' then 2 else if kind = 'u' then 4 else 8) 0
    match charOf? value with
    | some c => return ⟨c, kind = 'x', ← since start⟩
    | none => failSince .badHex opening

/-- Collects a property's name up to a closing brace. -/
def propertyText : Nat → List Char → Reader (List Char)
  | 0, _ => failHere .incompleteEscape
  | fuel + 1, done => do
    let c ← next (failHere .incompleteEscape)
    if c = '\x7d' then
      skip
      return done.reverse
    else
      advance
      propertyText fuel (c :: done)

/-- Cuts a text where `mark` first occurs. -/
def cutAt? (mark : List Char) : List Char → Option (List Char × List Char)
  | [] => none
  | c :: cs =>
    if mark.isPrefixOf (c :: cs) then some ([], (c :: cs).drop mark.length)
    else (cutAt? mark cs).map fun (before, after) => (c :: before, after)

/-- A property written as one text: `name`, or `property`, a mark and `value`. -/
def propertyQuery (text : List Char) : PropertyQuery :=
  match (cutAt? ['!', '='] text).or ((cutAt? [':'] text).or (cutAt? ['='] text)) with
  | some (property, value) => .value (String.ofList property) (String.ofList value)
  | none => .name (String.ofList text)

/-- Reads what follows `\p` or `\P`. -/
def propertyEscape : Reader PropertyQuery := do
  let c ← advanceTo (failHere .incompleteEscape)
  if c = '\x7b' then
    advance
    return propertyQuery (← propertyText ((← here) + 1) [])
  else if c = '\\' then failNext .badPropertyEscape
  else
    advance
    return .name (String.singleton c)

/-- Collects the letters and dashes of a boundary's name. -/
def boundaryText : Nat → List Char → Reader (List Char)
  | 0, done => return done.reverse
  | fuel + 1, done => do
    match ← rest with
    | c :: _ =>
      if c.isAlpha || c = '-' then
        advance
        boundaryText fuel (c :: done)
      else return done.reverse
    | [] => return done.reverse

/-- Reads the name in braces that may follow `\b`. Braces that cannot hold a name are left to
be read as a repetition. The escape begins at `start`. -/
def boundary (start : Nat) : Reader Assertion := do
  let cs ← rest
  let opening ← here
  match cs with
  | '\x7b' :: _ =>
    let c ← advanceTo (failSince .incompleteBoundary start)
    if c.isAlpha || c = '-' then
      let first ← here
      let name ← boundaryText (first + 1) []
      match ← rest with
      | '\x7d' :: _ =>
        let inside ← since first
        skip
        match String.ofList name with
        | "start" => return .wordStart
        | "end" => return .wordEnd
        | "start-half" => return .wordStartHalf
        | "end-half" => return .wordEndHalf
        | _ => failAt .unknownBoundary inside
      | _ => failSince .unclosedBoundary opening
    else
      goTo cs
      return .wordBoundary
  | _ => return .wordBoundary

/-- What an escape, a class or a plain character gives. -/
inductive Primitive where
  | literal (l : Literal)
  | assertion (span : Span) (a : Assertion)
  | dot (span : Span)
  | short (span : Span) (c : ShortClass) (negated : Bool)
  | property (span : Span) (q : PropertyQuery) (negated : Bool)

/-- A character that stands for itself. -/
def Primitive.char (span : Span) (c : Char) : Primitive := .literal ⟨c, false, span⟩

/-- The pattern of a primitive. -/
def Primitive.ast : Primitive → Ast
  | literal l => .literal l
  | assertion span a => .assertion span a
  | dot span => .dot span
  | short span c n => .short span c n
  | property span q n => .property span q n

/-- The class part of a primitive; a place between characters is none. -/
def Primitive.classSet (p : Primitive) : Except Error ClassSet :=
  match p with
  | literal l => .ok (.literal l)
  | short span c n => .ok (.short span c n)
  | property span q n => .ok (.property span q n)
  | _ => .error (.malformed .classEscape p.ast.span none)

/-- The end of a class range. -/
def Primitive.rangeEnd (p : Primitive) : Except Error Literal :=
  match p with
  | literal l => .ok l
  | _ => .error (.malformed .rangeBound p.ast.span none)

/-- Reads an escape, the backslash in place. -/
def escape : Reader Primitive := do
  let start ← here
  skip
  let c ← next (failSince .incompleteEscape start)
  let span : Span := ⟨start, start - 2⟩
  match c with
  | 'x' | 'u' | 'U' => return .literal (← hexEscape start c)
  | 'p' | 'P' =>
    let q ← propertyEscape
    return .property (← since start) q (c = 'P')
  | 'd' => skip; return .short span .digit false
  | 'D' => skip; return .short span .digit true
  | 's' => skip; return .short span .space false
  | 'S' => skip; return .short span .space true
  | 'w' => skip; return .short span .word false
  | 'W' => skip; return .short span .word true
  | _ =>
    if c.isDigit then failAt .backreference span
    skip
    if isMeta c || isEscapable c then return .char span c
    match c with
    | 'a' => return .char span '\x07'
    | 'f' => return .char span '\x0C'
    | 't' => return .char span '\t'
    | 'n' => return .char span '\n'
    | 'r' => return .char span '\r'
    | 'v' => return .char span '\x0B'
    | 'A' => return .assertion span .startText
    | 'z' => return .assertion span .endText
    | 'b' =>
      let a ← boundary start
      return .assertion (← since start) a
    | 'B' => return .assertion span .notWordBoundary
    | '<' => return .assertion span .wordStart
    | '>' => return .assertion span .wordEnd
    | _ => failAt .unknownEscape span

/-! ## Classes -/

/-- The names of the ASCII classes. -/
def asciiNames : List String :=
  ["alnum", "alpha", "ascii", "blank", "cntrl", "digit", "graph", "lower", "print", "punct",
    "space", "upper", "word", "xdigit"]

/-- The name of the ASCII class at the front of `cs`, such as `[:alpha:]`, whether it is negated,
and what follows it. Anything else that looks like one is read as a plain class. -/
def asciiClass? (cs : List Char) : Option (String × Bool × List Char) :=
  match cs with
  | '[' :: ':' :: rest =>
    let (negated, rest) :=
      match rest with
      | '^' :: r => (true, r)
      | r => (false, r)
    let name := String.ofList (rest.takeWhile (· ≠ ':'))
    match rest.dropWhile (· ≠ ':') with
    | ':' :: ']' :: after =>
      if asciiNames.contains name then some (name, negated, after) else none
    | _ => none
  | _ => none

/-- Reads one item of a class range. `opening` is the span of the class's opening. -/
def classItem (opening : Span) : Reader Primitive := do
  let c ← next (failAt .unclosedClass opening)
  if c = '\\' then escape
  else
    let span ← nextSpan
    skip
    return .char span c

/-- Reads a class item or a range of two. -/
def classRange (opening : Span) : Reader ClassSet := do
  let first ← classItem opening
  skipBlanks
  let c ← next (failAt .unclosedClass opening)
  let isRange ← do
    if c ≠ '-' then pure false
    else
      let here ← get
      let after := here.rest.drop 1
      let after := if here.ignoreBlanks then dropBlanks false after else after
      pure (after.head? ≠ some ']' && after.head? ≠ some '-')
  if !isRange then first.classSet
  else
    let _ ← advanceTo (failAt .unclosedClass opening)
    let last ← classItem opening
    let first ← first.rangeEnd
    let last ← last.rangeEnd
    if first.char ≤ last.char then return .range first last
    else failAt .rangeOrder (ClassSet.range first last).span

/-- Reads leading dashes of a class, which stand for themselves. The class begins at `start`. -/
def leadingDashes (start : Nat) : Nat → List ClassSet → Reader (List ClassSet)
  | 0, parts => return parts
  | fuel + 1, parts => do
    let atEnd : Reader Char := failAt .unclosedClass (.empty start)
    if (← next atEnd) = '-' then
      let span ← nextSpan
      let _ ← advanceTo atEnd
      leadingDashes start fuel (.literal ⟨'-', false, span⟩ :: parts)
    else return parts

/-- What has been read of the inside of a class. -/
structure ClassReading where
  /-- The span of the class's opening. -/
  opening : Span
  /-- The operator and left operand of the operation that is being read. -/
  before : Option (ClassOperator × ClassSet) := none
  /-- The place where the operand begins. -/
  place : Nat
  /-- The items of the operand, the last first. -/
  parts : List ClassSet := []

namespace ClassReading

/-- Adds an item. -/
def add (r : ClassReading) (part : ClassSet) : ClassReading := { r with parts := part :: r.parts }

/-- Joins the operand to what stands before it. -/
def joined (r : ClassReading) : ClassSet :=
  let operand := ClassSet.ofParts r.place r.parts.reverse
  match r.before with
  | none => operand
  | some (o, left) => .operation ⟨left.span.start, operand.span.stop⟩ o left operand

/-- Begins the right operand of an operator at a place. -/
def operate (r : ClassReading) (o : ClassOperator) (place : Nat) : ClassReading :=
  { r with before := some (o, r.joined), place := place, parts := [] }

end ClassReading

/-- The operator at the front of `cs`. -/
def classOperator? : List Char → Option ClassOperator
  | '&' :: '&' :: _ => some .intersection
  | '-' :: '-' :: _ => some .difference
  | '~' :: '~' :: _ => some .symmetricDifference
  | _ => none

mutual

/-- Reads a class, its opening bracket in place. A closing bracket that comes first stands for
itself. -/
def bracketClass : Nat → Reader (Span × Bool × ClassSet)
  | 0 => failHere .unclosedClass
  | fuel + 1 => do
    let start ← here
    let c ← advanceTo (failSince .unclosedClass start)
    let negated := c = '^'
    if negated then
      let _ ← advanceTo (failSince .unclosedClass start)
    let place ← here
    let parts ← leadingDashes start fuel []
    let c ← next (failSince .unclosedClass start)
    let span ← nextSpan
    let parts ←
      if parts.isEmpty && c = ']' then do
        let _ ← advanceTo (failSince .unclosedClass start)
        pure [.literal ⟨']', false, span⟩]
      else pure parts
    let opening ← since start
    let inner ← classBody fuel { opening, place, parts }
    return (← since start, negated, inner)

/-- Reads the inside of a class up to its closing bracket, after what has been read of it. -/
def classBody : Nat → ClassReading → Reader ClassSet
  | 0, r => failAt .unclosedClass r.opening
  | fuel + 1, r => do
    skipBlanks
    let cs ← rest
    match classOperator? cs with
    | some o =>
      goTo (cs.drop 2)
      classBody fuel (r.operate o (← here))
    | none =>
      match cs with
      | [] => failAt .unclosedClass r.opening
      | '[' :: _ =>
        let start ← here
        match asciiClass? cs with
        | some (name, negated, after) =>
          goTo after
          classBody fuel (r.add (.ascii (← since start) name negated))
        | none =>
          let (span, negated, inner) ← bracketClass fuel
          classBody fuel (r.add (.bracketed span negated inner))
      | ']' :: _ =>
        skip
        return r.joined
      | _ =>
        let part ← classRange r.opening
        classBody fuel (r.add part)

end

/-! ## Groups and repetitions -/

/-- The flag of a letter. -/
def flag? (c : Char) : Option Flag :=
  match c with
  | 'i' => some .caseInsensitive
  | 'm' => some .multiLine
  | 's' => some .dotMatchesNewline
  | 'U' => some .swapGreed
  | 'u' => some .unicode
  | 'R' => some .carriageReturn
  | 'x' => some .ignoreBlanks
  | _ => none

/-- Flags while they are read, each with its span, the last first. -/
structure FlagReading where
  settings : List (FlagSetting × Span) := []
  /-- The span of the `-`, if there has been one. -/
  off : Option Span := none
  /-- Whether the `-` was just now. -/
  dangling : Bool := false

/-- Reads flags up to `:` or `)`. No flag occurs twice, there is at most one `-`, and it does
not come last. -/
def flags : Nat → FlagReading → Reader (List FlagSetting)
  | 0, _ => failHere .incompleteFlags
  | fuel + 1, r => do
    let c ← next (failHere .incompleteFlags)
    let span ← nextSpan
    if c = ':' || c = ')' then
      match r.off.filter fun _ => r.dangling with
      | some off => failAt .danglingNegation off
      | none => return r.settings.reverse.map (·.1)
    else if c = '-' then
      if r.off.isSome then throw (.malformed .repeatedNegation span r.off)
      skip
      flags fuel { r with off := some span, dangling := true }
    else match flag? c with
      | none => failAt .unknownFlag span
      | some f =>
        match r.settings.find? (·.1.flag = f) with
        | some (_, earlier) => throw (.malformed .duplicateFlag span (some earlier))
        | none =>
          skip
          flags fuel
            { r with settings := (⟨f, r.off.isNone⟩, span) :: r.settings, dangling := false }

/-- Whether a character may stand in a group's name. -/
def isNameChar (first : Bool) (c : Char) : Bool :=
  c = '_' || (if first then Unicode.isAlphabetic c
    else c = '.' || c = '[' || c = ']' || Unicode.isAlphanumeric c)

/-- Reads a group's name up to `>`. -/
def groupName : Nat → List Char → Reader String
  | 0, _ => failHere .unclosedGroupName
  | fuel + 1, done => do
    let c ← next (failHere .unclosedGroupName)
    if c = '>' then return String.ofList done.reverse
    else if isNameChar done.isEmpty c then
      skip
      groupName fuel (c :: done)
    else failNext .badGroupName

/-- Reads and registers a group's name, which is not empty and which no other group may have. -/
def newName : Reader Unit := do
  let start ← here
  let name ← groupName (start + 1) []
  let span ← since start
  skip
  if name.isEmpty then failAt .emptyGroupName span
  match (← get).names.lookup name with
  | some earlier => throw (.malformed .duplicateGroupName span (some earlier))
  | none => modify fun r => { r with names := (name, span) :: r.names }

/-- What the part of a group before its body says. -/
inductive GroupHead where
  | switch (settings : List FlagSetting)
  | opens (settings : List FlagSetting) (captures : Bool)

/-- Skips the mark of a group that looks around, if it comes next. -/
def skipLookAround? : Reader Bool := ["?=", "?!", "?<=", "?<!"].anyM skipWord?

/-- Reads a group's opening, the parenthesis in place. -/
def groupHead : Reader GroupHead := do
  let start ← here
  advance
  if ← skipLookAround? then failSince .lookAround start
  let mark ← here
  if (← skipWord? "?P<") || (← skipWord? "?<") then
    newName
    return .opens [] true
  else if ← skipWord? "?" then
    if (← rest).isEmpty then failAt .unclosedGroup (.ofChar start)
    let settings ← flags ((← here) + 1) {}
    let c ← next (failHere .incompleteFlags)
    skip
    if c = ')' then
      if settings.isEmpty then failAt .missingOperand (.empty mark)
      return .switch settings
    else return .opens settings false
  else return .opens [] true

/-- Whether blanks are ignored after `settings`. -/
def ignoresBlanks (settings : List FlagSetting) (now : Bool) : Bool :=
  match settings.find? (·.flag = .ignoreBlanks) with
  | some s => s.on
  | none => now

/-- Reads a decimal number between blanks; none if there are no digits. -/
def decimal : Nat → Option Nat → Reader (Option Nat)
  | 0, value => return value
  | fuel + 1, value => do
    match ← rest with
    | c :: _ =>
      if c.isDigit then
        advance
        decimal fuel (some (10 * value.getD 0 + (c.toNat - 48)))
      else return value
    | [] => return value

/-- Skips blanks whether or not they are ignored. -/
def skipAllBlanks : Reader Unit := do
  goTo ((← rest).dropWhile Text.isBlank)
  skipBlanks

/-- The greatest count of a repetition. -/
def maxCount : Nat := Nat.pow 2 32 - 1

/-- Reads the count of a repetition. What is wrong with it is not told before it is known what
follows. -/
def count : Reader (Except Error Nat) := do
  goTo ((← rest).dropWhile Text.isBlank)
  let start ← here
  let n ← decimal (start + 1) none
  let span ← since start
  skipAllBlanks
  match n with
  | some k => return if k ≤ maxCount then .ok k else .error (.malformed .badCount span none)
  | none => return .error (.malformed .emptyCount span none)

/-- Reads the counts of a repetition between its braces, of which the opening one is at `start`. -/
def counts (start : Nat) : Reader (Nat × Option Nat) := do
  let _ ← advanceTo (failSince .unclosedCount start)
  let least ← count
  let c ← next (failSince .unclosedCount start)
  if c = ',' then
    let c ← advanceTo (failSince .unclosedCount start)
    if c = '\x7d' then return (← least, none)
    else
      let least ← least
      let most ← (← count)
      return (least, some most)
  else
    let least ← least
    return (least, some least)

/-- Takes the last part of a sequence to repeat it. Flags and nothing cannot be repeated. -/
def takeLast (parts : List Ast) : Reader (Ast × List Ast) :=
  match parts with
  | [] | .empty _ :: _ | .flags .. :: _ => failHere .missingOperand
  | body :: before => return (body, before)

/-- Skips the mark of a lazy repetition: which of several matches is found does not change
whether there is one. -/
def skipLazyMark : Reader Unit := do
  match ← rest with
  | '?' :: _ => skip
  | _ => return

/-- Reads a repetition that is written as one mark. -/
def markRepetition (least : Nat) (most : Option Nat) (parts : List Ast) : Reader (List Ast) := do
  let (body, before) ← takeLast parts
  skip
  skipLazyMark
  return .repetition (← since body.span.start) least most body :: before

/-- Reads a repetition with counts in braces. -/
def countedRepetition (parts : List Ast) : Reader (List Ast) := do
  let (body, before) ← takeLast parts
  let start ← here
  let (least, most) ← counts start
  let c ← next (failSince .unclosedCount start)
  if c ≠ '\x7d' then failSince .unclosedCount start
  advance
  skipLazyMark
  if most.any (· < least) then failSince .countOrder start
  return .repetition (← since body.span.start) least most body :: before

/-! ## Patterns -/

/-- What has been read of a group or of the whole pattern. -/
structure BodyReading where
  /-- The place where it begins. -/
  start : Nat
  /-- The branches that are finished, the last first. -/
  branches : List Ast := []
  /-- The place where the current branch begins. -/
  place : Nat
  /-- The parts of the current branch, the last first. -/
  parts : List Ast := []

namespace BodyReading

/-- Adds a part to the current branch. -/
def add (r : BodyReading) (part : Ast) : BodyReading := { r with parts := part :: r.parts }

/-- The current branch, if it ends at a place. -/
def branch (r : BodyReading) (stop : Nat) : Ast := .ofParts ⟨r.place, stop⟩ r.parts.reverse

/-- The pattern, if it ends at a place. -/
def finished (r : BodyReading) (stop : Nat) : Ast :=
  match r.branches with
  | [] => r.branch stop
  | branches => .alternation ⟨r.start, stop⟩ (r.branch stop :: branches).reverse

end BodyReading

/-- Reads up to a closing parenthesis or the end, after what has been read. -/
def body : Nat → BodyReading → Reader Ast
  | 0, _ => failHere .unclosedGroup
  | fuel + 1, r => do
    skipBlanks
    let place ← here
    match ← rest with
    | [] | ')' :: _ => return r.finished place
    | '|' :: _ =>
      skip
      let next ← here
      body fuel { r with branches := r.branch place :: r.branches, place := next, parts := [] }
    | '(' :: _ =>
      match ← groupHead with
      | .switch settings =>
        modify fun r => { r with ignoreBlanks := ignoresBlanks settings r.ignoreBlanks }
        body fuel (r.add (.flags (← since place) settings))
      | .opens settings captures =>
        let outer := (← get).ignoreBlanks
        modify fun r => { r with ignoreBlanks := ignoresBlanks settings outer }
        let start ← here
        let inner ← body fuel { start, place := start }
        let _ ← next (failAt .unclosedGroup (.ofChar place))
        skip
        modify fun r => { r with ignoreBlanks := outer }
        body fuel (r.add (.group (← since place) settings captures inner))
    | '[' :: cs =>
      let (span, negated, inner) ← bracketClass (2 * cs.length + 2)
      body fuel (r.add (.bracketed span negated inner))
    | '?' :: _ => body fuel { r with parts := ← markRepetition 0 (some 1) r.parts }
    | '*' :: _ => body fuel { r with parts := ← markRepetition 0 none r.parts }
    | '+' :: _ => body fuel { r with parts := ← markRepetition 1 none r.parts }
    | '\x7b' :: _ => body fuel { r with parts := ← countedRepetition r.parts }
    | c :: _ =>
      let part ←
        if c = '\\' then escape
        else do
          skip
          let span ← since place
          pure (if c = '.' then .dot span
            else if c = '^' then .assertion span .startLine
            else if c = '$' then .assertion span .endLine
            else .char span c)
      body fuel (r.add part.ast)

end Reader

/-- The pattern of a text. -/
def Ast.parse (text : String) : Except Error Ast := do
  let cs := text.toList
  let start : Reader.BodyReading := { start := cs.length, place := cs.length }
  let (ast, reading) ← (Reader.body (2 * cs.length + 2) start).run { rest := cs }
  if !reading.rest.isEmpty then
    throw (.malformed .unopenedGroup (.ofChar reading.rest.length) none)
  match ast.beyond? maxDepth with
  | some span => throw (.malformed .nestedTooDeep span none)
  | none => return ast

end TracerConfig.Pattern
