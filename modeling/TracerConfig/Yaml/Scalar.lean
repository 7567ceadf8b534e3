import TracerConfig.Number.Binary64
import TracerConfig.Text.Quoted
import TracerConfig.Yaml.Token

/-!
# Scalars

The value that a scalar's text stands for. A plain scalar is null, a boolean, an integer, a
floating point number or a string, whichever fits first; a tag of the standard types fixes the
type of any scalar; all other scalars are strings.

Main definition: `Scalar.resolve`.
-/

namespace TracerConfig.Yaml

/-- The value of a scalar. -/
inductive Scalar where
  | null
  | bool (b : Bool)
  | int (n : Int)
  | float (x : Binary64)
  | string (s : String)
deriving DecidableEq, Repr

namespace Scalar

/-- Whether a text is one of the words for null. -/
def isNullWord (text : String) : Bool := ["~", "null", "Null", "NULL"].contains text

/-- The truth value of a word. -/
def bool? (text : String) : Option Bool :=
  if ["true", "True", "TRUE"].contains text then some true
  else if ["false", "False", "FALSE"].contains text then some false
  else none

/-! ## Messages -/

/-- How messages name a value. -/
def name : Scalar → String
  | null => "unit value"
  | bool b => "boolean `" ++ (if b then "true" else "false") ++ "`"
  | int n => "integer `" ++ toString n ++ "`"
  | float x => "floating point `" ++ x.shown ++ "`"
  | string s => "string " ++ Text.quoted s

/-- A value is of a type that is not expected. -/
def wrongType (found expected : String) : Error :=
  ⟨"invalid type: " ++ found ++ ", expected " ++ expected, none⟩

/-- The text of a scalar does not fit its tag. -/
def wrongValue (text expected : String) : Error :=
  ⟨"invalid value: " ++ name (string text) ++ ", expected " ++ expected, none⟩

/-- An integer needs more than 64 bits. -/
def tooLong (n : Int) : Error :=
  wrongType (name (int n) ++ if n < 0 then " as i128" else " as u128") "any YAML value"

/-! ## Integers -/

/-- The value of digits to a base of at most sixteen. -/
def digits? (base : Nat) (cs : List Char) : Option Nat :=
  if cs.isEmpty then none
  else
    cs.foldlM (fun n c => do
      let d ← Text.hexValue? c
      if d < base then some (base * n + d) else none) 0

/-- The value of digits whose base is told by their first two characters, and is ten if it is
not told. -/
def magnitude? : List Char → Option Nat
  | '0' :: 'x' :: cs => digits? 16 cs
  | '0' :: 'o' :: cs => digits? 8 cs
  | '0' :: 'b' :: cs => digits? 2 cs
  | cs => digits? 10 cs

/-- Whether a text has decimal digits alone, more than one and a zero in front, after a sign if
there is one. Such a text is no number. -/
def isZeroPadded (cs : List Char) : Bool :=
  let digits := match cs with
    | '+' :: rest | '-' :: rest => rest
    | _ => cs
  1 < digits.length && digits.head? = some '0' && digits.all Char.isDigit

/-- The integer of a text of whatever size. -/
def int? (cs : List Char) : Option Int :=
  if isZeroPadded cs then none
  else
    match cs with
    | '-' :: rest => (magnitude? rest).map fun n => -(n : Int)
    | '+' :: rest => (magnitude? rest).map Int.ofNat
    | _ => (magnitude? cs).map Int.ofNat

/-- Whether an integer fits into 64 bits, with a sign or without. -/
def fits (n : Int) : Bool := -Int.pow 2 63 ≤ n && n < Int.pow 2 64

/-- Whether an integer fits into 128 bits, with a sign or without. -/
def fitsTwice (n : Int) : Bool := -Int.pow 2 127 ≤ n && n < Int.pow 2 128

/-- The integer of a text: none if the text is no integer or needs more than 128 bits, an error
if it needs more than 64. -/
def integer (text : List Char) : Except Error (Option Int) :=
  match int? text with
  | none => .ok none
  | some n =>
    if fits n then .ok (some n)
    else if fitsTwice n then .error (tooLong n)
    else .ok none

/-! ## Floating point numbers -/

/-- The floating point number of a text, unless it is too large. -/
def float? (text : String) : Option Binary64 :=
  if [".inf", ".Inf", ".INF", "+.inf", "+.Inf", "+.INF"].contains text then
    some (.infinite false)
  else if ["-.inf", "-.Inf", "-.INF"].contains text then some (.infinite true)
  else if [".nan", ".NaN", ".NAN"].contains text then some .nan
  else
    match text.toList with
    | '-' :: cs => (Decimal.read? cs).bind (Binary64.ofDecimal? true)
    | '+' :: cs => (Decimal.read? cs).bind (Binary64.ofDecimal? false)
    | cs => (Decimal.read? cs).bind (Binary64.ofDecimal? false)

/-! ## Resolution -/

/-- The value of a plain scalar without a tag. -/
def ofPlain (text : String) : Except Error Scalar := do
  if text.isEmpty || isNullWord text then return .null
  if let some b := bool? text then return .bool b
  if let some n ← integer text.toList then return .int n
  if !isZeroPadded text.toList then
    if let some x := float? text then return .float x
  return .string text

/-- What a tag of the standard types is followed by. -/
def standardTag (name : String) : String := "tag:yaml.org,2002:" ++ name

/-- The value of a scalar with a given tag and style. -/
def resolve (tag : Option String) (style : Style) (text : String) : Except Error Scalar :=
  match tag with
  | none => if style = .plain then ofPlain text else .ok (.string text)
  | some tag =>
    if tag = standardTag "bool" then
      match bool? text with
      | some b => .ok (.bool b)
      | none => .error (wrongValue text "a boolean")
    else if tag = standardTag "int" then do
      match ← integer text.toList with
      | some n => return .int n
      | none => throw (wrongValue text "an integer")
    else if tag = standardTag "float" then
      match float? text with
      | some x => .ok (.float x)
      | none => .error (wrongValue text "a float")
    else if tag = standardTag "null" then
      if isNullWord text then .ok .null else .error (wrongValue text "null")
    else .ok (.string text)

/-- The text of a value. -/
def text : Scalar → String
  | null => "null"
  | bool b => if b then "true" else "false"
  | int n => toString n
  | float x => x.render
  | string s => s

/-- Whether two values are equal. -/
def same : Scalar → Scalar → Bool
  | float x, float y => x.same y
  | a, b => a == b

end Scalar

end TracerConfig.Yaml
