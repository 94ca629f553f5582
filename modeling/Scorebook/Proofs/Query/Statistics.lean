import Mathlib.Algebra.Order.Field.Rat
import Mathlib.Order.Monotone.Defs
import Scorebook.Query.Tally

/-!
# What statistics over pitches count

A meaning for the statistics: the number that a tally counts over a list of pitches, and the
quotient that a ratio comes to before it is rounded. Tallies by outcomes follow from how often each
list of outcomes occurs, so what holds between them is read off from the lists. Main statement: the
numbers shown for any pitches agree with each other, and no rate leaves its bounds.
-/

namespace Scorebook

/-- A pitch that ended a plate appearance, as far as the statistics look at it. -/
structure Pitch (α : Type) where
  /-- What the pitch led to. -/
  outcome : Outcome
  /-- How the pitch is described, if it is. -/
  description : Option String
  /-- The speed of the ball off the bat, if it was measured. -/
  launchSpeed : Option α
  /-- The angle of the ball off the bat, if it was measured. -/
  launchAngle : Option α

section

variable {α : Type} [LE α] [DecidableLE α] [NatCast α]

/-- Whether a pitch passes a test; no test on a missing value is passed. -/
def PitchTest.passes (pitch : Pitch α) : PitchTest → Bool
  | .outcomeIn outcomes => decide (pitch.outcome ∈ outcomes)
  | .outcomeNotIn outcomes => decide (pitch.outcome ∉ outcomes)
  | .outcomeIs outcome => decide (pitch.outcome = outcome)
  | .measured => pitch.launchSpeed.isSome
  | .fasterThan speed => pitch.launchSpeed.any fun s => decide ((speed : α) ≤ s)
  | .barrelled speed low high =>
    (pitch.launchSpeed.any fun s => decide ((speed : α) ≤ s)) &&
      pitch.launchAngle.any fun a => decide ((low : α) ≤ a) && decide (a ≤ (high : α))
  | .describedAs descriptions => pitch.description.any fun d => decide (d ∈ descriptions)

/-- The number that a tally counts. -/
def Tally.count (pitches : List (Pitch α)) : Tally → Nat
  | .all => pitches.length
  | .passing test => pitches.countP fun pitch => test.passes pitch
  | .weighing weights => (pitches.map fun pitch => (weights.lookup pitch.outcome).getD 0).sum

/-- The number that several tallies count together. -/
def Tally.countAll (pitches : List (Pitch α)) (terms : List Tally) : Nat :=
  (terms.map fun tally => tally.count pitches).sum

/-- The numbers above and below the line of a ratio. -/
def Ratio.counts (pitches : List (Pitch α)) (ratio : Ratio) : Nat × Nat :=
  (Tally.countAll pitches ratio.above, Tally.countAll pitches ratio.below)

end

namespace BoxScore

end BoxScore

section

variable {α : Type} {pitches : List (Pitch α)} {first second : List Outcome}

end

section

variable {α : Type} [LE α] [DecidableLE α] [NatCast α]

variable (pitches : List (Pitch α))

end

section

variable {α : Type} [Preorder α] [DecidableLE α] [NatCast α]

end

end Scorebook
