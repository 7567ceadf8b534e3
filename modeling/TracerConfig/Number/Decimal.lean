import TracerConfig.Number.Integer

/-!
# Decimal numbers

A non-negative decimal number is a natural number times a power of ten. It is written as digits,
perhaps with a point among them or at an end, and perhaps followed by an exponent.

Main definitions:
* `Decimal.read?`: the number of a text.
* `Decimal.render`: the text of a number, with a point in it unless it has a single digit in
  front of an exponent.
-/

namespace TracerConfig

/-- The number `digits * 10 ^ exponent`. -/
structure Decimal where
  digits : Nat
  exponent : Int
deriving DecidableEq, Repr

namespace Decimal

/-- The value of ASCII digits. -/
def valueOf (cs : List Char) : Nat := cs.foldl (fun n c => 10 * n + (c.toNat - '0'.toNat)) 0

/-- The exponent at the end of a number, after its digits. -/
def readExponent? (cs : List Char) : Option Int :=
  let negative := cs.head? = some '-'
  let digits := if negative || cs.head? = some '+' then cs.drop 1 else cs
  if digits.isEmpty || !digits.all Char.isDigit then none
  else some (if negative then -(valueOf digits : Int) else valueOf digits)

/-- The number of a text without a sign. At least one digit has to stand in front of the point
or after it. -/
def read? (cs : List Char) : Option Decimal :=
  let whole := cs.takeWhile Char.isDigit
  let rest := cs.dropWhile Char.isDigit
  let afterPoint := if rest.head? = some '.' then rest.drop 1 else []
  let fraction := afterPoint.takeWhile Char.isDigit
  let rest := if rest.head? = some '.' then afterPoint.dropWhile Char.isDigit else rest
  if whole.isEmpty && fraction.isEmpty then none
  else
    let digits := valueOf (whole ++ fraction)
    let places : Int := fraction.length
    match rest with
    | [] => some ⟨digits, -places⟩
    | c :: rest =>
      if c = 'e' || c = 'E' then (readExponent? rest).map fun e => ⟨digits, e - places⟩
      else none

/-- The text of a number without an exponent. -/
def positional (d : Decimal) : List Char :=
  let digits := (toString d.digits).toList
  let whole : Int := digits.length + d.exponent
  if 0 ≤ d.exponent then digits ++ List.replicate d.exponent.toNat '0' ++ ['.', '0']
  else if 0 < whole then digits.take whole.toNat ++ '.' :: digits.drop whole.toNat
  else '0' :: '.' :: List.replicate (-whole).toNat '0' ++ digits

/-- The text of a number. The exponent `e` of its first digit decides the form: positional
for `-5 ≤ e < 16`, otherwise with one digit in front of the point. -/
def render (d : Decimal) : List Char :=
  let digits := (toString d.digits).toList
  let whole : Int := digits.length + d.exponent
  if -5 < whole && whole ≤ 16 then d.positional
  else
    let power := 'e' :: (toString (whole - 1)).toList
    match digits with
    | [c] => c :: power
    | c :: rest => c :: '.' :: rest ++ power
    | [] => power

example : read? ".5e1".toList = some ⟨5, 0⟩ := by decide +kernel

example : read? ".".toList = none := by decide +kernel

example : render ⟨15, -8⟩ = "1.5e-7".toList := by decide +kernel

example : render ⟨1, 15⟩ = "1000000000000000.0".toList := by decide +kernel

end Decimal

end TracerConfig
