import Scorebook.Proofs.Number.Nearest

/-!
# Rounding to three decimal places

A number is rounded to three places in three steps, each of them rounded: it is multiplied by a
thousand, taken to the nearest whole number, and divided by a thousand. The second step is exact.
Main statement: which number comes out of it, and when there is none.
-/

namespace Scorebook.Binary64

variable {negative : Bool} {num k : Nat} {x y : Binary64}

/-- A number that is there is the nearest to itself. -/
theorem IsNearest.magnitude_eq (h : x.IsNearest negative num 1) (hy : y.isFinite = true)
    (hvalue : y.magnitude = num * unit) : x.magnitude = num * unit := by
  have hle := h.nearest y hy
  rw [gap, gap, Nat.mul_one, Nat.mul_one, hvalue, Nat.dist_self] at hle
  exact Nat.eq_of_dist_eq_zero (Nat.le_zero.1 hle)

/-- A whole number is the nearest one to the magnitude of a number, and the greater one of two that
are as near. -/
structure IsNearestWhole (k : Nat) (x : Binary64) : Prop where
  /-- It is a half greater at most. -/
  low : 2 * k * unit ≤ 2 * x.magnitude + unit
  /-- It is less than a half smaller. -/
  high : 2 * x.magnitude < (2 * k + 1) * unit

/-- It is a whole number of units to which a half is added. -/
theorem isNearestWhole_iff :
    IsNearestWhole k x ↔ (2 * x.magnitude + unit) / (2 * unit) = k := by
  have hpos := unit_pos
  have hlow : k * (2 * unit) = 2 * k * unit := by ring
  have hhigh : (2 * k + 1) * unit = 2 * k * unit + unit := Nat.succ_mul ..
  rw [Nat.div_eq_iff (Nat.mul_pos Nat.two_pos hpos), hlow]
  constructor
  · rintro ⟨hle, hlt⟩
    omega
  · rintro ⟨hle, hlt⟩
    exact ⟨hle, by omega⟩

/-- The whole number nearest to a finite number is a finite number. -/
theorem IsNearestWhole.exists_magnitude (h : IsNearestWhole k x) (hx : x.isFinite = true) :
    ∃ y : Binary64, y.isFinite = true ∧ y.magnitude = k * unit := by
  have hlow := h.low
  have hhigh := h.high
  rcases Nat.lt_or_ge x.scale onePlace with hfine | hwhole
  · have hsmall : x.magnitude < leadingBit * unit := by
      rw [unit_eq]
      exact magnitude_lt_of_scale_lt hfine
    rw [leadingBit_eq] at hsmall
    have hbound : 2 * k * unit < (2 * 2 ^ 52 + 1) * unit := by omega
    have htwice := Nat.lt_of_mul_lt_mul_right hbound
    exact ⟨ofInt k, magnitude_ofInt_of_lt (by omega)⟩
  · obtain ⟨more, hmultiple⟩ := exists_magnitude_eq_mul hwhole
    rw [← unit_eq] at hmultiple
    refine ⟨x, hx, ?_⟩
    rw [hmultiple, ← Nat.mul_assoc] at hlow hhigh
    rw [← Nat.succ_mul] at hlow
    have hle := Nat.le_of_mul_le_mul_right hlow unit_pos
    have hge := Nat.lt_of_mul_lt_mul_right hhigh
    have hk : k = x.significand * 2 ^ more := by omega
    rw [hk, hmultiple]

/-- A finite number is rounded away to the nearest whole number, exactly. -/
theorem roundAway_magnitude (hk : IsNearestWhole k x) (hx : x.isFinite = true) :
    x.roundAway.isFinite = true ∧ x.roundAway.negative = x.negative ∧
      x.roundAway.magnitude = k * unit := by
  obtain ⟨y, hy, hvalue⟩ := hk.exists_magnitude hx
  have hrange : k * unit < overflow * 1 := by
    rw [Nat.mul_one, ← hvalue]
    exact magnitude_lt_overflow hy
  have hnear : x.roundAway.IsNearest x.negative k 1 := by
    rw [roundAway, isNearestWhole_iff.1 hk]
    exact isNearest_ofRatio Nat.one_pos hrange
  exact ⟨hnear.finite, hnear.sign, hnear.magnitude_eq hy hvalue⟩

/-- The thousand is a number. -/
theorem ofInt_thousand :
    (ofInt 1000).isFinite = true ∧ (ofInt 1000).negative = false ∧
      (ofInt 1000).magnitude = 1000 * unit := by
  decide +kernel

/-- What a number is rounded to: the number nearest to a thousandth of the whole number that is
nearest to the number nearest to a thousand times the number, with its sign. -/
inductive RoundsTo (x y : Binary64) : Prop
  | intro (product : Binary64) (k : Nat)
    (hproduct : product.IsNearest x.negative (1000 * x.magnitude) unit)
    (hwhole : IsNearestWhole k product) (hquotient : y.IsNearest x.negative k 1000)

/-- A thousand times a number is rounded to infinity. -/
def Exceeds (x : Binary64) : Prop := overflow ≤ 1000 * x.magnitude

/-- A number that exceeds is not rounded to anything. -/
theorem RoundsTo.not_exceeds (h : x.RoundsTo y) : ¬ x.Exceeds := by
  obtain ⟨product, k, hproduct, -, -⟩ := h
  exact Nat.not_le.2 (Nat.lt_of_mul_lt_mul_right hproduct.inRange)

/-- A number is rounded to a finite number. -/
theorem RoundsTo.finite (h : x.RoundsTo y) : y.isFinite = true := by
  obtain ⟨_, _, _, _, hquotient⟩ := h
  exact hquotient.finite

/-- A number is rounded to no more than one number. -/
theorem RoundsTo.unique {y' : Binary64} (h : x.RoundsTo y) (h' : x.RoundsTo y') : y = y' := by
  obtain ⟨product, k, hproduct, hwhole, hquotient⟩ := h
  obtain ⟨product', k', hproduct', hwhole', hquotient'⟩ := h'
  obtain rfl := hproduct.unique hproduct'
  obtain rfl : k = k' := (isNearestWhole_iff.1 hwhole).symm.trans (isNearestWhole_iff.1 hwhole')
  exact hquotient.unique hquotient'

/-- A number is multiplied by a thousand, and the product is rounded if it does not exceed. -/
theorem mul_thousand (x : Binary64) :
    ((x.mul (ofInt 1000)).isFinite = true ↔ ¬ x.Exceeds) ∧
      (¬ x.Exceeds → (x.mul (ofInt 1000)).IsNearest x.negative (1000 * x.magnitude) unit) := by
  obtain ⟨-, hsign, hthousand⟩ := ofInt_thousand
  have hproduct : x.mul (ofInt 1000) =
      ofRatio x.negative (1000 * x.magnitude * unit) (unit * unit) := by
    rw [mul, hsign, hthousand, Bool.bne_false, ← Nat.mul_assoc, Nat.mul_comm x.magnitude]
  have hden : 0 < unit * unit := Nat.mul_pos unit_pos unit_pos
  have hrange : 1000 * x.magnitude * unit * unit < overflow * (unit * unit) ↔ ¬ x.Exceeds := by
    rw [Nat.mul_assoc _ unit, Nat.mul_lt_mul_right hden, Exceeds, Nat.not_le]
  rw [hproduct]
  exact ⟨(isFinite_ofRatio_iff hden).trans hrange,
    fun h => (isNearest_ofRatio hden (hrange.2 h)).of_mul unit_pos⟩

/-- A whole number is divided by a thousand, and the quotient is rounded. -/
theorem div_thousand (hx : x.isFinite = true) (hmagnitude : x.magnitude = k * unit) :
    (x.div (ofInt 1000)).IsNearest x.negative k 1000 := by
  obtain ⟨-, hsign, hthousand⟩ := ofInt_thousand
  have hbelow := magnitude_lt_overflow hx
  have hrange : k * unit * unit < overflow * (1000 * unit) := by
    rw [hmagnitude] at hbelow
    calc k * unit * unit < overflow * unit := Nat.mul_lt_mul_of_pos_right hbelow unit_pos
      _ ≤ overflow * (1000 * unit) :=
          Nat.mul_le_mul_left _ (Nat.le_mul_of_pos_left unit (by decide))
  rw [div, hsign, Bool.bne_false, hmagnitude, hthousand]
  exact (isNearest_ofRatio (Nat.mul_pos (by decide) unit_pos) hrange).of_mul unit_pos

/-- A number is rounded, unless a thousand times the number is infinite. -/
theorem toThousandths_cases (x : Binary64) :
    (x.Exceeds ∧ x.toThousandths = none) ∨
      ∃ y, x.RoundsTo y ∧ x.toThousandths = some y := by
  obtain ⟨hfinite, hproduct⟩ := x.mul_thousand
  by_cases hexceeds : x.Exceeds
  · have hinfinite : (x.mul (ofInt 1000)).isFinite = false := by
      rw [Bool.eq_false_iff, ne_eq, hfinite]
      exact not_not.2 hexceeds
    refine Or.inl ⟨hexceeds, ?_⟩
    simp only [toThousandths, hinfinite, Bool.false_eq_true, if_false]
  · have hnear := hproduct hexceeds
    obtain ⟨k, hk⟩ : ∃ k, IsNearestWhole k (x.mul (ofInt 1000)) := ⟨_, isNearestWhole_iff.2 rfl⟩
    obtain ⟨haway, hnegative, hmagnitude⟩ := roundAway_magnitude hk hnear.finite
    have hquotient := div_thousand haway hmagnitude
    rw [hnegative, hnear.sign] at hquotient
    refine Or.inr ⟨(x.mul (ofInt 1000)).roundAway.div (ofInt 1000), ?_, ?_⟩
    · exact ⟨_, k, hnear, hk, hquotient⟩
    · simp only [toThousandths, hnear.finite, if_true]

/-- These are the numbers that rounding gives. -/
theorem toThousandths_eq_some_iff : x.toThousandths = some y ↔ x.RoundsTo y := by
  rcases x.toThousandths_cases with ⟨hexceeds, hnone⟩ | ⟨other, hother, hsome⟩
  · rw [hnone]
    exact iff_of_false nofun fun h => h.not_exceeds hexceeds
  · rw [hsome, Option.some.injEq]
    exact ⟨fun h => h ▸ hother, hother.unique⟩

/-- There is none exactly if a thousand times the number is infinite. -/
theorem toThousandths_eq_none_iff : x.toThousandths = none ↔ x.Exceeds := by
  rcases x.toThousandths_cases with ⟨hexceeds, hnone⟩ | ⟨other, hother, hsome⟩
  · exact iff_of_true hnone hexceeds
  · rw [hsome]
    exact iff_of_false nofun hother.not_exceeds

end Scorebook.Binary64
