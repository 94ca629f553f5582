import Scorebook.Json.Basic
import Scorebook.Number.Range

/-!
# Number literals

A literal without point and exponent is a whole number if it lies between `-2 ^ 63` and
`2 ^ 64 - 1`; `-0` is the exception, it is the floating-point number negative zero. Every other
literal is a floating-point number: its digits are collected into a significand as far as they fit
into 64 bits, the significand is rounded, and multiplied or divided by the rounded power of ten. A
literal too large for a floating-point number is refused, one too small is zero.
-/

namespace Scorebook.Json

/-- The parts of a number literal. -/
structure Literal where
  /-- Whether it starts with a minus sign. -/
  negative : Bool
  /-- The digits before the point. -/
  whole : List Nat
  /-- The digits behind the point, if there is one. -/
  fraction : Option (List Nat)
  /-- The exponent, if there is one. -/
  exponent : Option Int

namespace Literal

/-- The largest significand. -/
def largest : Nat := UInt64.size - 1

/-- A number followed by digits. -/
def appendDigits (n : Nat) (digits : List Nat) : Nat := digits.foldl (fun m d => m * 10 + d) n

/-- Digits before the point added to a significand while they fit; with the number left out. -/
def addWhole : (significand : Nat) → List Nat → Nat × Nat
  | significand, [] => (significand, 0)
  | significand, d :: ds =>
    if significand * 10 + d ≤ largest then addWhole (significand * 10 + d) ds
    else (significand, ds.length + 1)

/-- Digits behind the point added to a significand while they fit; with the number added. -/
def addFraction : (significand : Nat) → List Nat → Nat × Nat
  | significand, [] => (significand, 0)
  | significand, d :: ds =>
    if significand * 10 + d ≤ largest then
      let (all, added) := addFraction (significand * 10 + d) ds
      (all, added + 1)
    else (significand, 0)

/-- The number nearest to a power of ten. -/
def powerOfTen (k : Nat) : Binary64 := Binary64.ofRatio false (Nat.pow 10 k) 1

/-- A positive number times a power of ten; nothing if the product is infinite. A power below the
308th negative one is divided in steps of 308, of which two leave nothing of any 64-bit
significand. -/
def timesPower : (steps : Nat) → Binary64 → Int → Option Binary64
  | steps, x, exponent =>
    if 0 ≤ exponent ∧ exponent ≤ 308 then
      let product := x.mul (powerOfTen exponent.toNat)
      if product.isFinite then some product else none
    else if exponent < 0 ∧ -308 ≤ exponent then some (x.div (powerOfTen (-exponent).toNat))
    else if x.magnitude = 0 then some x
    else if 0 ≤ exponent then none
    else match steps with
      | 0 => some (Binary64.ofInt 0)
      | steps + 1 => timesPower steps (x.div (powerOfTen 308)) (exponent + 308)

/-- The literal as a floating-point number. -/
def float? (l : Literal) : Option Binary64 :=
  let (whole, skipped) := addWhole 0 l.whole
  let (significand, added) := addFraction whole (l.fraction.getD [])
  let exponent : Int := skipped - added + l.exponent.getD 0
  (timesPower 2 (Binary64.ofInt significand) exponent).map fun x => if l.negative then x.neg else x

/-- The whole numbers that a literal without point and exponent may write. -/
def wholeRange : IntRange := ⟨(IntRange.signed 64).low, (IntRange.unsigned 64).high⟩

/-- The value of a literal. -/
def value? (l : Literal) : Option Json :=
  let magnitude : Int := appendDigits 0 l.whole
  let n := if l.negative then -magnitude else magnitude
  if l.fraction.isNone && l.exponent.isNone && !(l.negative && n == 0) && wholeRange.holds n then
    some (.int n)
  else l.float?.map .float

end Literal

end Scorebook.Json
