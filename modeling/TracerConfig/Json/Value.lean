import TracerConfig.Text.Hex

/-!
# JSON values and their text

A JSON value keeps the order of its object members. Written text has no blanks; in strings only
quotes, backslashes and control characters below U+0020 are escaped.
-/

namespace TracerConfig.Json

/-- A JSON value. A number is a coefficient times a power of ten. -/
inductive Value where
  | null
  | bool (b : Bool)
  | number (coefficient : Int) (exponent : Int)
  | string (s : String)
  | array (items : List Value)
  | object (members : List (String × Value))
deriving Inhabited

/-- An integer. -/
def Value.int (n : Int) : Value := .number n 0

/-- A natural number. -/
def Value.nat (n : Nat) : Value := .number n 0

namespace Writer

/-- A character inside a string. -/
def char (c : Char) : List Char :=
  if c = '"' then ['\\', '"']
  else if c = '\\' then ['\\', '\\']
  else if c = '\x08' then ['\\', 'b']
  else if c = '\x0C' then ['\\', 'f']
  else if c = '\n' then ['\\', 'n']
  else if c = '\r' then ['\\', 'r']
  else if c = '\t' then ['\\', 't']
  else if c.toNat < 0x20 then '\\' :: 'u' :: Text.hexPadded 4 c.toNat
  else [c]

/-- A string. -/
def string (s : String) : List Char := '"' :: s.toList.flatMap char ++ ['"']

/-- A number. The exponent is left out where it is zero. -/
def number (coefficient exponent : Int) : List Char :=
  (toString coefficient).toList ++
    if exponent = 0 then [] else 'e' :: (toString exponent).toList

/-- Texts with commas between them. -/
def commaList : List (List Char) → List Char
  | [] => []
  | [x] => x
  | x :: y :: rest => x ++ ',' :: commaList (y :: rest)

mutual

/-- A value. -/
def value : Value → List Char
  | .null => "null".toList
  | .bool true => "true".toList
  | .bool false => "false".toList
  | .number c e => number c e
  | .string s => string s
  | .array items => '[' :: commaList (values items) ++ [']']
  | .object ms => '\x7b' :: commaList (members ms) ++ ['\x7d']

/-- The items of an array. -/
def values : List Value → List (List Char)
  | [] => []
  | v :: rest => value v :: values rest

/-- The members of an object. -/
def members : List (String × Value) → List (List Char)
  | [] => []
  | (k, v) :: rest => (string k ++ ':' :: value v) :: members rest

end

end Writer

/-- The text of a value. -/
def Value.render (v : Value) : String := String.ofList (Writer.value v)

end TracerConfig.Json
