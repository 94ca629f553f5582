/-!
# Binary floating-point numbers of 64 bits

A number is its bit pattern. The finite ones are read as a sign and a magnitude
`significand · 2 ^ scale / 2 ^ 1074` with natural numbers, and every operation computes the exact
result as a quotient of natural numbers and rounds it once: to nearest, ties to the even
significand, past the largest finite number to infinity.
-/

namespace Scorebook

/-- A binary floating-point number of 64 bits, given by its bits. -/
structure Binary64 where
  /-- Sign, 11 bits of exponent and 52 bits of fraction, from the top. -/
  bits : UInt64
  deriving DecidableEq, Repr, Inhabited

namespace Binary64

/-- Whether the sign bit is set; it is for negative zero. -/
def negative (x : Binary64) : Bool := x.bits.toNat >>> 63 == 1

/-- The exponent field: 0 for zero and the subnormal numbers, 2047 for infinities and NaNs. -/
def exponentField (x : Binary64) : Nat := (x.bits.toNat >>> 52) % 2048

/-- The leading bit of a normal number, which its fraction lies below. -/
def leadingBit : Nat := 1 <<< 52

/-- The fraction field. -/
def fraction (x : Binary64) : Nat := x.bits.toNat % leadingBit

/-- Whether a number is neither infinite nor a NaN. -/
def isFinite (x : Binary64) : Bool := x.exponentField != 2047

/-- The significand as a natural number, with the implicit leading bit of a normal number. -/
def significand (x : Binary64) : Nat :=
  if x.exponentField = 0 then x.fraction else leadingBit + x.fraction

/-- The power of two that multiplies the significand, counted from the least positive number. -/
def scale (x : Binary64) : Nat := x.exponentField - 1

/-- The magnitude of a finite number in units of the least positive number. -/
def magnitude (x : Binary64) : Nat := x.significand <<< x.scale

/-- The least positive number is `1 / unit`. -/
def unit : Nat := 1 <<< 1074

/-- A number from its sign and its other bits. -/
def ofMagnitudeBits (negative : Bool) (low : Nat) : Binary64 :=
  ⟨UInt64.ofNat (if negative then (1 <<< 63) + low else low)⟩

/-- A quotient rounded to the nearest integer, ties to even. -/
def divNearest (num den : Nat) : Nat :=
  let q := num / den
  let twice := 2 * (num % den)
  if twice < den then q
  else if den < twice then q + 1
  else q + q % 2

/-- The bits of infinity, which the bits of every finite magnitude lie below. -/
def infinityBits : Nat := 2047 * leadingBit

/-- The number nearest to `± num / den`, ties to even; infinite from half a unit past the largest
finite number on. The significand and the exponent field are added, so a significand that rounds up
to the next power of two carries into the exponent. -/
def ofRatio (negative : Bool) (num den : Nat) : Binary64 :=
  let scaled := num * unit
  let scale := (scaled / den).log2 - 52
  let low := scale * leadingBit + divNearest scaled (den <<< scale)
  ofMagnitudeBits negative (min low infinityBits)

/-- The number nearest to an integer. -/
def ofInt (n : Int) : Binary64 := ofRatio (decide (n < 0)) n.natAbs 1

/-- The product of two finite numbers, rounded once. -/
def mul (x y : Binary64) : Binary64 :=
  ofRatio (x.negative != y.negative) (x.magnitude * y.magnitude) (unit * unit)

/-- The quotient of a finite number by a finite number other than zero, rounded once. -/
def div (x y : Binary64) : Binary64 :=
  ofRatio (x.negative != y.negative) x.magnitude y.magnitude

/-- The nearest integer to a finite number, halves away from zero, with the number's sign. -/
def roundAway (x : Binary64) : Binary64 :=
  ofRatio x.negative ((2 * x.magnitude + unit) / (2 * unit)) 1

/-- A finite number rounded to three decimal places: times a thousand, to the nearest integer, by a
thousand, each step rounded. Nothing where the first product is infinite. -/
def toThousandths (x : Binary64) : Option Binary64 :=
  let product := x.mul (ofInt 1000)
  if product.isFinite then some (product.roundAway.div (ofInt 1000)) else none

/-- The number with the opposite sign. -/
def neg (x : Binary64) : Binary64 := ⟨x.bits ^^^ 0x8000000000000000⟩

/-- A binary floating-point number of 32 bits, widened without rounding; nothing for an infinity
or a NaN. -/
def ofBinary32? (bits : UInt32) : Option Binary64 :=
  let n := bits.toNat
  let exponent := (n >>> 23) % 256
  let fraction := n % (1 <<< 23)
  if exponent = 255 then none
  else
    let significand := if exponent = 0 then fraction else (1 <<< 23) + fraction
    some (ofRatio (n >>> 31 == 1) (significand <<< (exponent - 1)) (1 <<< 149))

example : ofRatio false 1 10 = ⟨0x3FB999999999999A⟩ := by decide +kernel
example : ofRatio true (1 <<< 1024) 1 = ⟨0xFFF0000000000000⟩ := by decide +kernel
example : ofRatio false 5 (Nat.pow 10 324) = ⟨1⟩ := by decide +kernel
example : toThousandths ⟨0xBF40624DD2F1A9FC⟩ = some ⟨0xBF50624DD2F1A9FC⟩ := by decide +kernel

end Binary64

end Scorebook
