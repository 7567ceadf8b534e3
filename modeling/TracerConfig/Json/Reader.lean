import TracerConfig.Json.Value
import TracerConfig.Text.Hex

/-!
# Reading JSON

A reader for JSON texts: blanks between tokens, strings with all escapes, surrogate pairs
joined into one character. A text that is not exactly one value is refused.
-/

namespace TracerConfig.Json.Reader

/-- JSON's own blanks. -/
def isBlank (c : Char) : Bool := c = ' ' || c = '\t' || c = '\n' || c = '\r'

/-- Drops the blanks at the front. -/
def skip (cs : List Char) : List Char := cs.dropWhile isBlank

/-! ## Strings -/

/-- The character of a one-letter escape. -/
def shortEscape? (c : Char) : Option Char :=
  if c = '"' || c = '\\' || c = '/' then some c
  else if c = 'b' then some '\x08'
  else if c = 'f' then some '\x0C'
  else if c = 'n' then some '\n'
  else if c = 'r' then some '\r'
  else if c = 't' then some '\t'
  else none

/-- Where inside a string the reader stands: in plain text, after a backslash, inside the four
digits of a code unit, or between the two code units of a surrogate pair. -/
inductive Place where
  | text
  | escape
  | unit (left value : Nat) (high : Option Nat)
  | afterHigh (high : Nat)
  | lowEscape (high : Nat)

/-- Reads a string after its opening quote. `done` holds the characters read, the last one
first. -/
def string (place : Place) (done : List Char) : List Char → Option (String × List Char)
  | [] => none
  | c :: cs =>
    match place with
    | .text =>
      if c = '"' then some (String.ofList done.reverse, cs)
      else if c = '\\' then string .escape done cs
      else if c.toNat < 0x20 then none
      else string .text (c :: done) cs
    | .escape =>
      if c = 'u' then string (.unit 4 0 none) done cs
      else match shortEscape? c with
        | some d => string .text (d :: done) cs
        | none => none
    | .unit left value high =>
      match Text.hexValue? c with
      | none => none
      | some d =>
        let value := 16 * value + d
        if left > 1 then string (.unit (left - 1) value high) done cs
        else match high with
          | none =>
            if 0xD800 ≤ value && value < 0xDC00 then string (.afterHigh value) done cs
            else if 0xDC00 ≤ value && value < 0xE000 then none
            else string .text (Char.ofNat value :: done) cs
          | some h =>
            if 0xDC00 ≤ value && value < 0xE000 then
              string .text
                (Char.ofNat (0x10000 + (h - 0xD800) * 0x400 + (value - 0xDC00)) :: done) cs
            else none
    | .afterHigh high => if c = '\\' then string (.lowEscape high) done cs else none
    | .lowEscape high => if c = 'u' then string (.unit 4 0 (some high)) done cs else none

/-! ## Numbers -/

/-- Reads digits, adding them to `value` and counting them. -/
def digits (value count : Nat) : List Char → Nat × Nat × List Char
  | [] => (value, count, [])
  | c :: cs =>
    if '0' ≤ c && c ≤ '9' then digits (10 * value + (c.toNat - 48)) (count + 1) cs
    else (value, count, c :: cs)

/-- Reads an exponent, if there is one. -/
def exponent (cs : List Char) : Option (Int × List Char) :=
  match cs with
  | c :: rest =>
    if c = 'e' || c = 'E' then
      let (negative, rest) :=
        match rest with
        | '-' :: r => (true, r)
        | '+' :: r => (false, r)
        | r => (false, r)
      let (value, count, rest) := digits 0 0 rest
      if count = 0 then none else some (if negative then -(value : Int) else value, rest)
    else some (0, cs)
  | [] => some (0, [])

/-- Reads a number without its sign. -/
def unsigned (cs : List Char) : Option (Nat × Int × List Char) :=
  let (whole, count, rest) := digits 0 0 cs
  if count = 0 || (count > 1 && cs.head? = some '0') then none
  else
    match rest with
    | '.' :: rest =>
      let (all, places, rest) := digits whole 0 rest
      if places = 0 then none
      else (exponent rest).map fun (e, rest) => (all, e - places, rest)
    | rest => (exponent rest).map fun (e, rest) => (whole, e, rest)

/-- Reads a number. -/
def number (cs : List Char) : Option (Value × List Char) :=
  match cs with
  | '-' :: rest => (unsigned rest).map fun (c, e, rest) => (.number (-(c : Int)) e, rest)
  | _ => (unsigned cs).map fun (c, e, rest) => (.number c e, rest)

/-! ## Values -/

/-- Drops `word` from the front, if it is there. -/
def literal? (word : List Char) (v : Value) (cs : List Char) : Option (Value × List Char) :=
  if word.isPrefixOf cs then some (v, cs.drop word.length) else none

mutual

/-- Reads a value. Each nested call has one unit of `fuel` less; the text's own length bounds
the nesting. -/
def value : Nat → List Char → Option (Value × List Char)
  | 0, _ => none
  | fuel + 1, cs =>
    match skip cs with
    | '"' :: rest => (string .text [] rest).map fun (s, rest) => (.string s, rest)
    | '[' :: rest =>
      match skip rest with
      | ']' :: rest => some (.array [], rest)
      | _ => (items fuel rest).map fun (vs, rest) => (.array vs, rest)
    | '\x7b' :: rest =>
      match skip rest with
      | '\x7d' :: rest => some (.object [], rest)
      | _ => (members fuel rest).map fun (ms, rest) => (.object ms, rest)
    | 'n' :: rest => literal? "ull".toList .null rest
    | 't' :: rest => literal? "rue".toList (.bool true) rest
    | 'f' :: rest => literal? "alse".toList (.bool false) rest
    | rest => number rest

/-- Reads the items of an array up to its closing bracket. -/
def items : Nat → List Char → Option (List Value × List Char)
  | 0, _ => none
  | fuel + 1, cs => do
    let (v, rest) ← value fuel cs
    match skip rest with
    | ',' :: rest => (items fuel rest).map fun (vs, rest) => (v :: vs, rest)
    | ']' :: rest => some ([v], rest)
    | _ => none

/-- Reads the members of an object up to its closing brace. -/
def members : Nat → List Char → Option (List (String × Value) × List Char)
  | 0, _ => none
  | fuel + 1, cs =>
    match skip cs with
    | '"' :: rest => do
      let (k, rest) ← string .text [] rest
      match skip rest with
      | ':' :: rest =>
        let (v, rest) ← value fuel rest
        match skip rest with
        | ',' :: rest => (members fuel rest).map fun (ms, rest) => ((k, v) :: ms, rest)
        | '\x7d' :: rest => some ([(k, v)], rest)
        | _ => none
      | _ => none
    | _ => none

end

end Reader

open Reader in
/-- The value of a text that holds exactly one. -/
def Value.parse (text : String) : Option Value :=
  let cs := text.toList
  match value (2 * cs.length + 2) cs with
  | some (v, rest) => if (skip rest).isEmpty then some v else none
  | none => none

namespace Value

/-- The value of a member; of members with one name the last one counts. -/
def member? (name : String) (members : List (String × Value)) : Option Value :=
  (members.reverse.find? (·.1 == name)).map (·.2)

/-- The text of a string value. -/
def string? : Value → Option String
  | .string s => some s
  | _ => none

/-- The integer of a number without decimal places. -/
def int? : Value → Option Int
  | .number c e => if 0 ≤ e then some (c * Int.pow 10 e.toNat) else none
  | _ => none

/-- The items of an array. -/
def items? : Value → Option (List Value)
  | .array items => some items
  | _ => none

/-- The members of an object. -/
def members? : Value → Option (List (String × Value))
  | .object members => some members
  | _ => none

end Value

end TracerConfig.Json
