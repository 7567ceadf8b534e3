import TracerConfig.Number.Decimal

/-!
# Numbers in double precision

A finite number is a mantissa below `2 ^ 53` times a power of two from `-1074` to `971`. A
decimal number is read as the nearest one, of two equally near ones as that with the even
mantissa. A number is written with the fewest digits that are read as it, and of those with the
nearest.

Main definitions:
* `Binary64.ofDecimal?`: rounding, which fails if the number is too large.
* `Binary64.shortest`: the shortest decimal number that is read back.
* `Binary64.render`: the text of a number.
-/

namespace TracerConfig

/-- A number in double precision. -/
inductive Binary64 where
  | finite (negative : Bool) (mantissa : Nat) (exponent : Int)
  | infinite (negative : Bool)
  | nan
deriving DecidableEq, Repr

namespace Binary64

/-- The fraction `num * base ^ k / den`, as numerator and denominator. -/
def scale (base num den : Nat) (k : Int) : Nat × Nat :=
  if 0 ≤ k then (num * base.pow k.toNat, den) else (num, den * base.pow (-k).toNat)

/-- The natural number nearest to `num / den`, of two equally near ones the even one. -/
def roundHalfEven (num den : Nat) : Nat :=
  let below := num / den
  let rest := 2 * (num % den)
  if rest < den then below
  else if den < rest then below + 1
  else below + below % 2

/-- The least exponent of a mantissa. -/
def leastExponent : Int := -1074

/-- The greatest exponent of a mantissa. -/
def greatestExponent : Int := 971

/-- Mantissa and exponent of the number nearest to `num / den`, if there is one. -/
def round? (num den : Nat) : Option (Nat × Int) :=
  if num = 0 then some (0, leastExponent)
  else
    let guess : Int := (num.log2 : Int) - den.log2 - 52
    let (n, d) := scale 2 num den (-guess)
    let exponent := max leastExponent (if d * Nat.pow 2 52 ≤ n then guess else guess - 1)
    let (n, d) := scale 2 num den (-exponent)
    let mantissa := roundHalfEven n d
    let (mantissa, exponent) :=
      if mantissa = Nat.pow 2 53 then (Nat.pow 2 52, exponent + 1) else (mantissa, exponent)
    if exponent ≤ greatestExponent then some (mantissa, exponent) else none

/-- The number nearest to a decimal number, unless that is too large. Far outside the range the
decimal number need not be computed. -/
def ofDecimal? (negative : Bool) (d : Decimal) : Option Binary64 :=
  if d.digits = 0 then some (.finite negative 0 leastExponent)
  else
    let whole : Int := (toString d.digits).length + d.exponent
    if 400 < whole then none
    else if whole < -400 then some (.finite negative 0 leastExponent)
    else
      let (n, m) := scale 10 d.digits 1 d.exponent
      (round? n m).map fun (mantissa, exponent) => .finite negative mantissa exponent

/-! ## Shortest digits -/

/-- The numbers that are read as a given one: those between `low / den` and `high / den`, with
or without the ends. -/
structure Interval where
  low : Nat
  value : Nat
  high : Nat
  den : Nat
  closed : Bool

/-- The interval of the number `mantissa * 2 ^ exponent`. Below a power of two the neighbouring
numbers are twice as close. -/
def interval (mantissa : Nat) (exponent : Int) : Interval :=
  let lowGap := if mantissa = Nat.pow 2 52 && leastExponent < exponent then 1 else 2
  let (unit, den) := scale 2 1 1 (exponent - 2)
  ⟨(4 * mantissa - lowGap) * unit, 4 * mantissa * unit, (4 * mantissa + 2) * unit, den,
    mantissa % 2 == 0⟩

/-- The multiple of `10 ^ k` that is nearest to the value, if one of the two next to it lies
inside; of two equally near ones the even one. -/
def Interval.gridPoint? (i : Interval) (k : Int) : Option Nat :=
  let (value, den) := scale 10 i.value i.den (-k)
  let (low, _) := scale 10 i.low i.den (-k)
  let (high, _) := scale 10 i.high i.den (-k)
  let inside (n : Nat) : Bool :=
    if i.closed then low ≤ n * den && n * den ≤ high else low < n * den && n * den < high
  let below := value / den
  let rest := 2 * (value % den)
  let belowIsNearer := rest < den || (rest == den && below % 2 == 0)
  if inside below && (belowIsNearer || !inside (below + 1)) then some below
  else if inside (below + 1) then some (below + 1)
  else none

/-- The grid point on the coarsest grid that has one, from `10 ^ k` on downwards. -/
def Interval.shortest (i : Interval) : Nat → Int → Decimal
  | 0, _ => ⟨0, 0⟩
  | fuel + 1, k =>
    match i.gridPoint? k with
    | some n => ⟨n, k⟩
    | none => i.shortest fuel (k - 1)

/-- The decimal number with the fewest digits that is read as `mantissa * 2 ^ exponent`. -/
def shortest (mantissa : Nat) (exponent : Int) : Decimal :=
  if mantissa = 0 then ⟨0, 0⟩ else (interval mantissa exponent).shortest 700 310

/-! ## Text and equality -/

/-- The text of a number. -/
def render : Binary64 → String
  | finite negative mantissa exponent =>
    let digits := (shortest mantissa exponent).render
    String.ofList (if negative then '-' :: digits else digits)
  | infinite negative => if negative then "-.inf" else ".inf"
  | nan => ".nan"

/-- The text of a number as messages show it, without an exponent. -/
def shown : Binary64 → String
  | finite negative mantissa exponent =>
    let digits := (shortest mantissa exponent).positional
    String.ofList (if negative then '-' :: digits else digits)
  | infinite negative => if negative then "-inf" else "inf"
  | nan => "NaN"

/-- Whether two numbers are equal. Zeros are, whatever their sign, and what is not a number
equals itself. -/
def same : Binary64 → Binary64 → Bool
  | finite _ 0 _, finite _ 0 _ => true
  | a, b => a == b

example : (ofDecimal? false ⟨1, -1⟩).map render = some "0.1" := by decide +kernel

example : (ofDecimal? false ⟨5, -324⟩).map render = some "5e-324" := by decide +kernel

example : (ofDecimal? false ⟨9007199254740993, 0⟩).map render = some "9007199254740992.0" := by
  decide +kernel

example : ofDecimal? false ⟨1, 400⟩ = none := by decide +kernel

end Binary64

end TracerConfig
