import Scorebook.Number.Binary64

/-!
# Shortest decimal digits

The fewest significant digits that round to a given number. A decimal rounds to the number exactly
if it lies between the midpoints to its two neighbours, the midpoints included when the significand
is even. For 1, 2, … 17 digits the two decimals next to the number on that grid are tested in exact
arithmetic; of two that fit, the nearer one is taken, and of two equally near the even one.
-/

namespace Scorebook

/-- A positive decimal `digits · 10 ^ place`. -/
structure Decimal where
  /-- The significant digits as one natural number. -/
  digits : Nat
  /-- The power of ten of the last digit. -/
  place : Int
  deriving DecidableEq, Repr

namespace Decimal

/-- The decimal digits of a natural number. -/
def digitsOf (n : Nat) : List Char := Nat.toDigits 10 n

/-- The exponent of the leading digit of `num / den`, a positive quotient: the `k` with
`10 ^ k ≤ num / den < 10 ^ (k + 1)`. -/
def leadingExponent (num den : Nat) : Int :=
  let guess : Int := (digitsOf num).length - (digitsOf den).length
  let reached := if guess < 0 then decide (den ≤ num * Nat.pow 10 (-guess).toNat)
    else decide (den * Nat.pow 10 guess.toNat ≤ num)
  if reached then guess else guess - 1

/-- The numbers that round to a given one: between `low` and `high`, over one denominator. -/
structure Rounding where
  /-- The numerator of the number itself. -/
  value : Nat
  /-- The numerator of the lower midpoint. -/
  low : Nat
  /-- The numerator of the upper midpoint. -/
  high : Nat
  /-- The common denominator. -/
  den : Nat
  /-- Whether the midpoints round to the number too. -/
  closed : Bool

/-- The interval that rounds to a positive finite number. Below a power of two the neighbours are
half as far. -/
def roundingOf (x : Binary64) : Rounding :=
  let ulp := 1 <<< x.scale
  let below := if x.significand = Binary64.leadingBit ∧ 0 < x.scale then ulp else 2 * ulp
  { value := 4 * x.magnitude
    low := 4 * x.magnitude - below
    high := 4 * x.magnitude + 2 * ulp
    den := 4 * Binary64.unit
    closed := x.significand % 2 == 0 }

/-- Whether `num / den` lies in the interval, `den` being the interval's denominator times
`factor`. -/
def Rounding.holds (r : Rounding) (num factor : Nat) : Bool :=
  if r.closed then decide (r.low * factor ≤ num) && decide (num ≤ r.high * factor)
  else decide (r.low * factor < num) && decide (num < r.high * factor)

/-- The decimal nearest to the number among the two next to it on the grid of powers of ten
`10 ^ place`, if it lies in the interval. -/
def Rounding.onGrid? (r : Rounding) (place : Int) : Option Nat :=
  let up := Nat.pow 10 place.toNat
  let down := Nat.pow 10 (-place).toNat
  let unit := r.den * up
  let value := r.value * down
  let floor := value / unit
  let near := if Binary64.divNearest value unit = floor then [floor, floor + 1]
    else [floor + 1, floor]
  near.find? fun d => r.holds (d * unit) down

/-- The first decimal that fits, on grids from `place` on, each ten times finer. -/
def Rounding.search (r : Rounding) : (tries : Nat) → (place : Int) → Decimal
  | 0, place => ⟨0, place⟩
  | tries + 1, place =>
    match r.onGrid? place with
    | some digits => ⟨digits, place⟩
    | none => r.search tries (place - 1)

/-- The shortest decimal that rounds to a positive finite number; 17 digits always suffice. -/
def shortest (x : Binary64) : Decimal :=
  let r := roundingOf x
  r.search 17 (leadingExponent r.value r.den)

/-- The decimal without trailing zeros: its digits as text, and the power of ten of the first. -/
def scientific (d : Decimal) : List Char × Int :=
  let digits := digitsOf d.digits
  let kept := (digits.reverse.dropWhile (· == '0')).reverse
  (kept, d.place + digits.length - 1)

example : scientific (shortest ⟨0x3FB999999999999A⟩) = (['1'], -1) := by decide +kernel
example : scientific (shortest ⟨0x0000000000000001⟩) = (['5'], -324) := by decide +kernel
example : scientific (shortest ⟨0x44B52D02C7E14AF6⟩) = (['1'], 23) := by decide +kernel
example : scientific (shortest ⟨0x4310000000000001⟩) = ("11258999068426242".toList, 15) := by
  decide +kernel
example : scientific (shortest ⟨0x4310000000000003⟩) = ("11258999068426248".toList, 15) := by
  decide +kernel
example : scientific (shortest ⟨0x3FD3DD97F62B6AE8⟩) = (['3', '1', '0', '4'], -1) := by
  decide +kernel

end Decimal

end Scorebook
