import Mathlib.Tactic.Ring
import Scorebook.Number.Binary64

/-!
# Quotients and whole numbers as floating-point numbers

A quotient is rounded to a significand and a power of two, whose product is a finite number unless
it is too great. The value of a finite number is a whole number of units, so the exact number and
the rounded one are compared without fractions. Main statement: a whole number of up to 128 bits is
rounded to a finite number, and it is kept exactly if it is a multiple of the power of two that
leaves 53 of its bits.
-/

namespace Scorebook.Binary64

/-- The value of a finite number, in units of the least positive number. -/
def value (x : Binary64) : Int := if x.negative then -x.magnitude else x.magnitude

variable {negative : Bool} {low scale s num den k : Nat} {n : Int}

/-- The power of two of the number one, in units of the least positive number. -/
def onePlace : Nat := 1074

/-- The number one has this many units. -/
theorem unit_eq : unit = 2 ^ onePlace := Nat.one_shiftLeft onePlace

theorem unit_pos : 0 < unit := by
  rw [unit_eq]
  exact Nat.two_pow_pos _

/-- The leading bit is a power of two. -/
theorem leadingBit_eq : leadingBit = 2 ^ 52 := rfl

/-- The sign stands above all other bits. -/
theorem toNat_bits_ofMagnitudeBits (h : low < 2 ^ 63) :
    (ofMagnitudeBits negative low).bits.toNat = (if negative then 2 ^ 63 else 0) + low := by
  rw [ofMagnitudeBits, UInt64.toNat_ofNat', Nat.one_shiftLeft]
  apply (Nat.mod_eq_of_lt _).trans
  all_goals split <;> omega

theorem negative_ofMagnitudeBits (h : low < 2 ^ 63) :
    (ofMagnitudeBits negative low).negative = negative := by
  rw [Binary64.negative, toNat_bits_ofMagnitudeBits h, Nat.shiftRight_eq_div_pow]
  cases negative
  · rw [if_neg Bool.false_ne_true, Nat.zero_add, Nat.div_eq_of_lt h]
    rfl
  · rw [if_pos rfl, Nat.add_div_left low (Nat.two_pow_pos 63), Nat.div_eq_of_lt h]
    rfl

theorem exponentField_ofMagnitudeBits (h : low < 2 ^ 63) :
    (ofMagnitudeBits negative low).exponentField = low / leadingBit := by
  rw [exponentField, toNat_bits_ofMagnitudeBits h, Nat.shiftRight_eq_div_pow, leadingBit_eq]
  split <;> omega

theorem fraction_ofMagnitudeBits (h : low < 2 ^ 63) :
    (ofMagnitudeBits negative low).fraction = low % leadingBit := by
  rw [fraction, toNat_bits_ofMagnitudeBits h, leadingBit_eq]
  split <;> omega

/-- A quotient is rounded to the nearer side, and in the middle to the even one. -/
theorem divNearest_cases (num den : Nat) :
    (2 * (num % den) ≤ den ∧ divNearest num den = num / den ∨
        den ≤ 2 * (num % den) ∧ divNearest num den = num / den + 1) ∧
      (2 * (num % den) = den → divNearest num den % 2 = 0) := by
  simp only [divNearest]
  split
  · omega
  · split
    · omega
    · rcases Nat.mod_two_eq_zero_or_one (num / den) with heven | hodd <;> omega

/-- A quotient is kept exactly if there is no remainder. -/
theorem divNearest_mul_eq_iff (hden : 0 < den) : divNearest num den * den = num ↔ den ∣ num := by
  constructor
  · intro h
    exact h ▸ Nat.dvd_mul_left den (divNearest num den)
  · intro hdvd
    have hrest : num % den = 0 := Nat.mod_eq_zero_of_dvd hdvd
    have hfloor : divNearest num den = num / den := by
      simp only [divNearest, hrest, Nat.mul_zero, if_pos hden]
    rw [hfloor, Nat.div_mul_cancel hdvd]

/-- A significand of 53 bits and the power of two that multiplies it, as the parts of a number. -/
structure Fits (s scale : Nat) : Prop where
  /-- The leading bit is there, unless the power is the least; a carry may be left over. -/
  low : leadingBit ≤ s ∨ scale = 0
  /-- There are no more bits. -/
  high : s ≤ 2 * leadingBit
  /-- The power is not that of an infinity, even after a carry. -/
  finite : scale * leadingBit + s < infinityBits

/-- A number with a significand and a power of two in its parts is finite, and their product. -/
theorem Fits.magnitude_eq (h : Fits s scale) (negative : Bool) :
    (ofMagnitudeBits negative (scale * leadingBit + s)).isFinite = true ∧
      (ofMagnitudeBits negative (scale * leadingBit + s)).magnitude = s * 2 ^ scale ∧
      (ofMagnitudeBits negative (scale * leadingBit + s)).negative = negative := by
  have hlow := h.low
  have hhigh := h.high
  have hbits : scale * leadingBit + s < 2 ^ 63 := Nat.lt_trans h.finite (by decide)
  have hbelow : scale * 2 ^ 52 + s < 2047 * 2 ^ 52 := h.finite
  rw [leadingBit_eq] at hlow hhigh
  have hfield : (ofMagnitudeBits negative (scale * leadingBit + s)).exponentField = _ :=
    exponentField_ofMagnitudeBits hbits
  have hfraction : (ofMagnitudeBits negative (scale * leadingBit + s)).fraction = _ :=
    fraction_ofMagnitudeBits hbits
  refine ⟨?_, ?_, negative_ofMagnitudeBits hbits⟩
  · rw [isFinite, hfield, bne_iff_ne, leadingBit_eq]
    omega
  · rw [magnitude, Nat.shiftLeft_eq, significand, Binary64.scale, hfield, hfraction, leadingBit_eq]
    rcases Nat.lt_or_ge s (2 ^ 52) with hsmall | hlarge
    · obtain rfl : scale = 0 := hlow.resolve_left (Nat.not_le.2 hsmall)
      have hdiv : (0 * 2 ^ 52 + s) / 2 ^ 52 = 0 := by omega
      have hmod : (0 * 2 ^ 52 + s) % 2 ^ 52 = s := by omega
      rw [hdiv, hmod, if_pos rfl]
    · have hne : (scale * 2 ^ 52 + s) / 2 ^ 52 ≠ 0 := by omega
      rw [if_neg hne]
      rcases Nat.lt_or_ge s (2 * 2 ^ 52) with hnormal | hcarry
      · have hdiv : (scale * 2 ^ 52 + s) / 2 ^ 52 - 1 = scale := by omega
        have hmod : 2 ^ 52 + (scale * 2 ^ 52 + s) % 2 ^ 52 = s := by omega
        rw [hdiv, hmod]
      · obtain rfl : s = 2 * 2 ^ 52 := Nat.le_antisymm hhigh hcarry
        have hdiv : (scale * 2 ^ 52 + 2 * 2 ^ 52) / 2 ^ 52 - 1 = scale + 1 := by omega
        have hmod : 2 ^ 52 + (scale * 2 ^ 52 + 2 * 2 ^ 52) % 2 ^ 52 = 2 ^ 52 := by omega
        rw [hdiv, hmod, Nat.pow_succ]
        ring

/-- The power of two that multiplies the significand of a quotient. -/
def ratioScale (num den : Nat) : Nat := (num * unit / den).log2 - 52

/-- The significand of a quotient, rounded. -/
def ratioSignificand (num den : Nat) : Nat := divNearest (num * unit) (den * 2 ^ ratioScale num den)

/-- A quotient is rounded to its significand and its power of two, or to infinity. -/
theorem ofRatio_eq (negative : Bool) (num den : Nat) :
    ofRatio negative num den = ofMagnitudeBits negative
      (min (ratioScale num den * leadingBit + ratioSignificand num den) infinityBits) := by
  simp only [ofRatio, Nat.shiftLeft_eq]
  rfl

/-- The power of two leaves at most 53 bits of a quotient. -/
theorem ratio_lt_two_pow (num den : Nat) : num * unit / den < 2 ^ (53 + ratioScale num den) := by
  have hexponent : (num * unit / den).log2 + 1 ≤ 53 + ratioScale num den := by
    rw [ratioScale]
    omega
  exact Nat.lt_of_lt_of_le Nat.lt_log2_self (Nat.pow_le_pow_right Nat.two_pos hexponent)

/-- If it is not the least, it leaves no fewer. -/
theorem two_pow_le_ratio (h : ratioScale num den ≠ 0) :
    2 ^ (52 + ratioScale num den) ≤ num * unit / den := by
  have hexponent : 52 + ratioScale num den = (num * unit / den).log2 := by
    rw [ratioScale] at h ⊢
    omega
  have hne : num * unit / den ≠ 0 := by
    rintro hzero
    rw [ratioScale, hzero] at h
    exact h rfl
  rw [hexponent]
  exact Nat.log2_self_le hne

/-- The significand of a quotient has 53 bits, or fewer if the power of two is the least. -/
theorem ratioSignificand_bounds (num den : Nat) :
    (leadingBit ≤ ratioSignificand num den ∨ ratioScale num den = 0) ∧
      ratioSignificand num den ≤ 2 * leadingBit := by
  have hround : ratioSignificand num den = num * unit / den / 2 ^ ratioScale num den ∨
      ratioSignificand num den = num * unit / den / 2 ^ ratioScale num den + 1 := by
    rw [Nat.div_div_eq_div_mul]
    exact (divNearest_cases _ _).1.imp And.right And.right
  have hhigh : num * unit / den / 2 ^ ratioScale num den < 2 ^ 53 := by
    rw [Nat.div_lt_iff_lt_mul (Nat.two_pow_pos _), ← Nat.pow_add]
    exact ratio_lt_two_pow num den
  rw [leadingBit_eq]
  refine ⟨or_iff_not_imp_right.2 fun hne => ?_, by omega⟩
  have hlow : 2 ^ 52 ≤ num * unit / den / 2 ^ ratioScale num den := by
    rw [Nat.le_div_iff_mul_le (Nat.two_pow_pos _), ← Nat.pow_add]
    exact two_pow_le_ratio hne
  omega

/-- A quotient that is not too great has a significand and a power of two. -/
theorem fits_ratio
    (h : ratioScale num den * leadingBit + ratioSignificand num den < infinityBits) :
    Fits (ratioSignificand num den) (ratioScale num den) :=
  ⟨(ratioSignificand_bounds num den).1, (ratioSignificand_bounds num den).2, h⟩

/-- It is rounded to these. -/
theorem Fits.ofRatio_eq (h : Fits (ratioSignificand num den) (ratioScale num den)) :
    ofRatio negative num den = ofMagnitudeBits negative
      (ratioScale num den * leadingBit + ratioSignificand num den) := by
  rw [Binary64.ofRatio_eq, Nat.min_eq_left (Nat.le_of_lt h.finite)]

/-- A number of units has the power of two of the number one on top of its own. -/
theorem log2_mul_unit (hnum : num ≠ 0) : (num * unit).log2 = num.log2 + onePlace := by
  rw [unit_eq]
  have hlow := Nat.log2_self_le hnum
  have hhigh := Nat.lt_log2_self (n := num)
  apply (Nat.log2_eq_iff (Nat.mul_ne_zero hnum (Nat.two_pow_pos _).ne')).2
  constructor
  · rw [Nat.pow_add]
    exact Nat.mul_le_mul_right _ hlow
  · rw [Nat.add_right_comm, Nat.pow_add]
    exact Nat.mul_lt_mul_of_pos_right hhigh (Nat.two_pow_pos _)

/-- The power of two of a whole number leaves 53 of the bits of its units. -/
theorem ratioScale_one (hnum : num ≠ 0) : ratioScale num 1 = num.log2 + onePlace - 52 := by
  rw [ratioScale, Nat.div_one, log2_mul_unit hnum]

/-- A whole number of up to 128 bits has a significand and a power of two. -/
theorem fits_whole (hnum : num < 2 ^ 128) : Fits (ratioSignificand num 1) (ratioScale num 1) := by
  refine fits_ratio ?_
  have hhigh := (ratioSignificand_bounds num 1).2
  have hscale : ratioScale num 1 ≤ 2044 := by
    rcases Nat.eq_zero_or_pos num with rfl | hpos
    · rw [ratioScale, Nat.zero_mul, Nat.zero_div]
      exact Nat.zero_le _
    · have hbits : num.log2 < 128 := (Nat.log2_lt hpos.ne').2 hnum
      have hplace : onePlace = 1074 := rfl
      rw [ratioScale_one hpos.ne']
      omega
  rw [leadingBit_eq] at hhigh ⊢
  rw [infinityBits, leadingBit_eq]
  omega

/-- A whole number of up to 128 bits is rounded to a finite number. -/
theorem isFinite_ofInt (hn : n.natAbs < 2 ^ 128) : (ofInt n).isFinite = true := by
  rw [ofInt, (fits_whole hn).ofRatio_eq]
  exact ((fits_whole hn).magnitude_eq _).1

/-- Rounding keeps the sign, and keeps the number if the units of its magnitude are a multiple of
the power of two. -/
theorem value_ofInt_eq_iff_dvd (hn : n.natAbs < 2 ^ 128) :
    (ofInt n).value = n * unit ↔ 2 ^ ratioScale n.natAbs 1 ∣ n.natAbs * unit := by
  obtain ⟨-, hmagnitude, hnegative⟩ := (fits_whole hn).magnitude_eq (decide (n < 0))
  have hkept : ratioSignificand n.natAbs 1 * 2 ^ ratioScale n.natAbs 1 = n.natAbs * unit ↔
      2 ^ ratioScale n.natAbs 1 ∣ n.natAbs * unit := by
    rw [ratioSignificand, Nat.one_mul]
    exact divNearest_mul_eq_iff (Nat.two_pow_pos _)
  rw [← hkept, value, ofInt, (fits_whole hn).ofRatio_eq, hmagnitude, hnegative, ← Int.natCast_inj,
    Int.natCast_mul _ unit]
  by_cases hneg : n < 0
  · have habs : (n.natAbs : Int) = -n := Int.ofNat_natAbs_of_nonpos (Int.le_of_lt hneg)
    rw [if_pos (decide_eq_true hneg), habs, Int.neg_mul, Int.neg_eq_comm, eq_comm]
  · have habs : (n.natAbs : Int) = n := Int.natAbs_of_nonneg (Int.not_lt.1 hneg)
    rw [if_neg (by simpa using hneg), habs]

/-- A whole number of up to 128 bits is kept exactly if it is a multiple of the power of two that
leaves 53 of its bits. -/
theorem value_ofInt_eq_iff (hn : n.natAbs < 2 ^ 128) :
    (ofInt n).value = n * unit ↔ 2 ^ (n.natAbs.log2 - 52) ∣ n.natAbs := by
  rw [value_ofInt_eq_iff_dvd hn]
  rcases Nat.eq_zero_or_pos n.natAbs with hzero | hpos
  · simp [hzero]
  · have hwhole := ratioScale_one hpos.ne'
    have hplace : onePlace = 1074 := rfl
    rcases Nat.lt_or_ge n.natAbs.log2 52 with hshort | hlong
    · have hscale : ratioScale n.natAbs 1 ≤ onePlace := by omega
      have hone : n.natAbs.log2 - 52 = 0 := Nat.sub_eq_zero_of_le (Nat.le_of_lt hshort)
      have hunit : 2 ^ ratioScale n.natAbs 1 ∣ unit := by
        rw [unit_eq]
        exact Nat.pow_dvd_pow 2 hscale
      rw [hone, Nat.pow_zero]
      exact iff_of_true (Dvd.dvd.mul_left hunit _) (Nat.one_dvd _)
    · have hscale : ratioScale n.natAbs 1 = n.natAbs.log2 - 52 + onePlace := by omega
      rw [hscale, Nat.pow_add, unit_eq]
      exact Nat.mul_dvd_mul_iff_right (Nat.two_pow_pos _)

/-- A whole number of up to 53 bits is a finite number. -/
theorem magnitude_ofInt_of_lt (hk : k < 2 ^ 53) :
    (ofInt k).isFinite = true ∧ (ofInt k).magnitude = k * unit := by
  have hbits : (k : Int).natAbs < 2 ^ 128 := by
    rw [Int.natAbs_natCast]
    omega
  have hlog : k.log2 - 52 = 0 := by
    rcases Nat.eq_zero_or_pos k with rfl | hpos
    · rfl
    · have hlog := (Nat.log2_lt hpos.ne').2 hk
      omega
  have hvalue : (ofInt k).value = k * unit := by
    rw [value_ofInt_eq_iff hbits, Int.natAbs_natCast, hlog]
    exact Nat.one_dvd k
  refine ⟨isFinite_ofInt hbits, ?_⟩
  rw [value] at hvalue
  split at hvalue <;> omega

end Scorebook.Binary64
