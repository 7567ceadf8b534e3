import TracerConfig.Pattern.Ast
import TracerConfig.Unicode.Age
import TracerConfig.Unicode.Break
import TracerConfig.Unicode.Folding

/-!
# The sets of classes

A class stands for a set of characters. With Unicode switched off it stands for a set of bytes
instead; since texts are matched character by character, only sets of ASCII bytes are allowed
then.

Main definitions:
* `Class.ofShort`, `Class.ofQuery`: the sets of `\d`, `\s`, `\w` and of `\p`.
* `Class.ofInside`: the set of the inside of a bracketed class.
-/

namespace TracerConfig.Pattern.Class

open Unicode (CodeSet)

/-- A set together with what differs from a member only in case, by the rules of Unicode or of
ASCII. -/
def fold (unicode : Bool) (s : CodeSet) : CodeSet :=
  s.close (if unicode then Unicode.caseGroups else Unicode.asciiCaseGroups)

/-- `fold`, if asked for. -/
def foldIf (asked unicode : Bool) (s : CodeSet) : CodeSet := if asked then fold unicode s else s

/-- The complement, if asked for. -/
def negateIf (negated : Bool) (s : CodeSet) : CodeSet := if negated then s.complement else s

/-! ## Named classes -/

/-- The ASCII classes. -/
def asciiClasses : List (String × CodeSet) := [
  ("alnum", .ofText "30-39 41-5a 61-7a"),
  ("alpha", .ofText "41-5a 61-7a"),
  ("ascii", .ofText "0-7f"),
  ("blank", .ofText "9 20"),
  ("cntrl", .ofText "0-1f 7f"),
  ("digit", .ofText "30-39"),
  ("graph", .ofText "21-7e"),
  ("lower", .ofText "61-7a"),
  ("print", .ofText "20-7e"),
  ("punct", .ofText "21-2f 3a-40 5b-60 7b-7e"),
  ("space", .ofText "9-d 20"),
  ("upper", .ofText "41-5a"),
  ("word", .ofText "30-39 41-5a 5f 61-7a"),
  ("xdigit", .ofText "30-39 41-46 61-66")]

/-- The ASCII class of a name. -/
def ascii (name : String) : CodeSet := (asciiClasses.lookup name).getD .empty

/-- The classes of `\d`, `\s` and `\w`, over all of Unicode or over ASCII. -/
def ofShort (unicode : Bool) (c : ShortClass) : CodeSet :=
  match c, unicode with
  | .digit, true => Unicode.decimalDigits
  | .space, true => Unicode.whiteSpace
  | .word, true => Unicode.wordCharacters
  | .digit, false => ascii "digit"
  | .space, false => ascii "space"
  | .word, false => ascii "word"

/-- A property's name as names are compared: without `is` in front, in lower case, and without
blanks, dashes and underscores. The one name that `is` belongs to is kept apart. -/
def foldName (name : String) : String :=
  let cs := name.toList
  let (hasIs, cs) :=
    match cs with
    | a :: b :: rest => if a.toLower = 'i' && b.toLower = 's' then (true, rest) else (false, cs)
    | _ => (false, cs)
  let folded := (cs.filter fun c =>
    c.toNat < 0x80 && c ≠ ' ' && c ≠ '_' && c ≠ '-').map Char.toLower
  if hasIs && folded = ['c'] then "isc" else String.ofList folded

/-- The set of a general category or of one of three larger sets. -/
def ofCategory? (folded : String) : Option CodeSet :=
  match folded with
  | "any" => some .all
  | "assigned" => some (Unicode.categories ["Cn"]).complement
  | "ascii" => some (ascii "ascii")
  | _ => Unicode.categoryGroup? folded

/-- The four letters of a script's name. -/
def scriptCode? (folded : String) : Option String :=
  (Unicode.scriptNames.find? fun names => names.any fun n => foldName n = folded).bind
    List.head?

/-- The set of a name: a property, a category or a script, in this order. The abbreviations
that are both a property's and a category's name mean the category. -/
def ofName? (name : String) : Option CodeSet :=
  let folded := foldName name
  let property? :=
    if ["cf", "sc", "lc"].contains folded then none else Unicode.property? folded
  property?.or ((ofCategory? folded).or ((scriptCode? folded).map Unicode.script))

/-- The sets of a property with values. -/
def valuesOf? (property : String) : Option (String → Option CodeSet) :=
  match foldName property with
  | "generalcategory" | "gc" => some ofCategory?
  | "script" | "sc" => some fun value => (scriptCode? value).map Unicode.script
  | "scriptextensions" | "scx" => some fun value => (scriptCode? value).map Unicode.usedWith
  | "age" => some Unicode.age?
  | "graphemeclusterbreak" | "gcb" => some Unicode.graphemeBreak?
  | "wordbreak" | "wb" => some Unicode.wordBreak?
  | "sentencebreak" | "sb" => some Unicode.sentenceBreak?
  | _ => none

/-- The names of the properties that no class can ask for. -/
def otherProperties : List String := [
  "bc", "bidiclass", "bidim", "bidimirrored", "bidimirroringglyph", "bidipairedbracket",
  "bidipairedbrackettype", "blk", "block", "bmg", "bpb", "bpt", "canonicalcombiningclass",
  "casefolding", "ccc", "ce", "cf", "changeswhennfkccasefolded", "cjkaccountingnumeric",
  "cjkcompatibilityvariant", "cjkiicore", "cjkirggsource", "cjkirghsource", "cjkirgjsource",
  "cjkirgkpsource", "cjkirgksource", "cjkirgmsource", "cjkirgssource", "cjkirgtsource",
  "cjkirguksource", "cjkirgusource", "cjkirgvsource", "cjkothernumeric", "cjkprimarynumeric",
  "cjkrsunicode", "compex", "compositionexclusion", "cwkcf", "decompositionmapping",
  "decompositiontype", "dm", "dt", "ea", "eastasianwidth", "equideo",
  "equivalentunifiedideograph", "expandsonnfc", "expandsonnfd", "expandsonnfkc", "expandsonnfkd",
  "fcnfkc", "fcnfkcclosure", "fullcompositionexclusion", "hangulsyllabletype", "hst", "incb",
  "indicconjunctbreak", "indicpositionalcategory", "indicsyllabiccategory", "inpc", "insc", "isc",
  "jamoshortname", "jg", "joininggroup", "joiningtype", "jsn", "jt", "kaccountingnumeric",
  "kcompatibilityvariant", "kiicore", "kirggsource", "kirghsource", "kirgjsource", "kirgkpsource",
  "kirgksource", "kirgmsource", "kirgssource", "kirgtsource", "kirguksource", "kirgusource",
  "kirgvsource", "kothernumeric", "kprimarynumeric", "krsunicode", "lb", "lc", "linebreak",
  "lowercasemapping", "na", "na1", "name", "namealias", "nfcqc", "nfcquickcheck", "nfdqc",
  "nfdquickcheck", "nfkccasefold", "nfkccf", "nfkcqc", "nfkcquickcheck", "nfkcscf",
  "nfkcsimplecasefold", "nfkdqc", "nfkdquickcheck", "nt", "numerictype", "numericvalue", "nv",
  "ocomment", "scf", "sfc", "simplecasefolding", "simplelowercasemapping",
  "simpletitlecasemapping", "simpleuppercasemapping", "slc", "stc", "suc", "tc",
  "titlecasemapping", "uc", "unicode1name", "unicoderadicalstroke", "uppercasemapping", "urs",
  "verticalorientation", "vo", "xonfc", "xonfd", "xonfkc", "xonfkd"]

/-- The set of a `\p` class. -/
def ofQuery (q : PropertyQuery) : Except Cause CodeSet :=
  match q with
  | .name text =>
    match ofName? text with
    | some s => .ok s
    | none => .error .unknownProperty
  | .value property value =>
    match valuesOf? property with
    | some ofValue? =>
      match ofValue? (foldName value) with
      | some s => .ok s
      | none => .error .unknownValue
    | none =>
      let folded := foldName property
      if (Unicode.property? folded).isSome || otherProperties.contains folded then
        .error .unknownValue
      else .error .unknownProperty

/-! ## Bracketed classes -/

/-- The number a literal stands for in a class. With Unicode off only ASCII characters stand for
one: a byte beyond ASCII, written with two digits, is no text by itself. -/
def ofLiteral (unicode : Bool) (l : Literal) : Except Error Nat :=
  if unicode then .ok l.char.toNat
  else if l.char.toNat < 0x80 then .ok l.char.toNat
  else .error (.malformed (if l.twoDigits then .notText else .unicodeNotAllowed) l.span none)

/-- The set of what an operator keeps. -/
def operate (o : ClassOperator) : CodeSet → CodeSet → CodeSet :=
  match o with
  | .intersection => .inter
  | .difference => .diff
  | .symmetricDifference => .symmDiff

/-- A set that is folded and negated as asked for. With Unicode off it has to consist of ASCII
characters then, for a text is never cut inside a character. -/
def complete (span : Span) (unicode insensitive negated : Bool) (s : CodeSet) :
    Except Error CodeSet :=
  let s := negateIf negated (foldIf insensitive unicode s)
  if unicode || s.upTo 0x7F then .ok s else .error (.malformed .notText span none)

/-- The set of `\d`, `\s` or `\w`, which case makes no difference to. -/
def ofShortPart (unicode : Bool) (span : Span) (c : ShortClass) (negated : Bool) :
    Except Error CodeSet :=
  complete span unicode false negated (ofShort unicode c)

/-- The set of a `\p` class in its place. -/
def ofPropertyPart (unicode insensitive : Bool) (span : Span) (q : PropertyQuery)
    (negated : Bool) : Except Error CodeSet :=
  if !unicode then .error (.malformed .unicodeNotAllowed span none)
  else
    match ofQuery q with
    | .ok s => complete span true insensitive negated s
    | .error cause => .error (.malformed cause span none)

mutual

/-- The set of the inside of a class. Case is folded where a set is complete: in a nested class,
in an operand, and before negation. -/
def ofInside (unicode insensitive : Bool) : ClassSet → Except Error CodeSet
  | .empty _ => .ok .empty
  | .literal l => do
    let n ← ofLiteral unicode l
    return .single n
  | .range first last => do
    let a ← ofLiteral unicode first
    let b ← ofLiteral unicode last
    return CodeSet.range a b |>.inter .all
  | .ascii span name negated => complete span unicode insensitive negated (ascii name)
  | .short span c negated => ofShortPart unicode span c negated
  | .property span q negated => ofPropertyPart unicode insensitive span q negated
  | .bracketed span negated inner => do
    complete span unicode insensitive negated (← ofInside unicode insensitive inner)
  | .union _ parts => ofParts unicode insensitive parts
  | .operation _ o left right => do
    let s ← ofInside unicode insensitive left
    let t ← ofInside unicode insensitive right
    return operate o (foldIf insensitive unicode s) (foldIf insensitive unicode t)

/-- The set of parts side by side. -/
def ofParts (unicode insensitive : Bool) : List ClassSet → Except Error CodeSet
  | [] => .ok .empty
  | part :: rest => do
    let s ← ofInside unicode insensitive part
    let t ← ofParts unicode insensitive rest
    return s.union t

end

end TracerConfig.Pattern.Class
