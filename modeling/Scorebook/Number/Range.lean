/-!
# Ranges of whole numbers

Where a whole number has to fit: between two bounds, or into a number of bits with or without a
sign. Main statement: a number is held exactly if it lies between the bounds.
-/

namespace Scorebook

/-- The whole numbers between two bounds. -/
structure IntRange where
  /-- The least of them. -/
  low : Int
  /-- The greatest of them. -/
  high : Int
  deriving DecidableEq, Repr

namespace IntRange

/-- The numbers of a width with a sign. -/
def signed (bits : Nat) : IntRange :=
  ⟨-((1 <<< (bits - 1) : Nat) : Int), (1 <<< (bits - 1) : Nat) - 1⟩

/-- The numbers of a width without a sign. -/
def unsigned (bits : Nat) : IntRange := ⟨0, (1 <<< bits : Nat) - 1⟩

/-- Whether a number lies within a range. -/
def holds (range : IntRange) (n : Int) : Bool := decide (range.low ≤ n) && decide (n ≤ range.high)

/-- A range holds what lies between its bounds. -/
theorem holds_iff {range : IntRange} {n : Int} :
    range.holds n = true ↔ range.low ≤ n ∧ n ≤ range.high := by
  simp [holds]

example : signed 8 = ⟨-128, 127⟩ := by decide
example : unsigned 64 = ⟨0, 18446744073709551615⟩ := by decide

end IntRange

end Scorebook
