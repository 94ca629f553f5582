import Mathlib.Data.Nat.Dist
import Scorebook.Proofs.Number.Rounding

/-!
# Rounding to the nearest number

A finite number is the nearest one to a quotient if no finite number is nearer, and if of two that
are as near it is the one with the even significand. This says which number it is. Main statement:
a quotient that is not too great is rounded to the nearest finite number, and any other to infinity.
-/

namespace Scorebook.Binary64

variable {negative : Bool} {num den c places : Nat} {x y : Binary64}

/-- The parts of a magnitude. -/
theorem magnitude_eq (x : Binary64) : x.magnitude = x.significand * 2 ^ x.scale := by
  rw [magnitude, Nat.shiftLeft_eq]

/-- A significand has at most 53 bits. -/
theorem significand_lt (x : Binary64) : x.significand < 2 * leadingBit := by
  have hfraction : x.fraction < leadingBit := Nat.mod_lt _ (by decide)
  unfold significand
  split <;> omega

/-- It has no fewer, unless the power of two is the least. -/
theorem leadingBit_le_significand (h : x.scale ≠ 0) : leadingBit ≤ x.significand := by
  have hfield : x.exponentField ≠ 0 := by
    rw [scale] at h
    omega
  rw [significand, if_neg hfield]
  exact Nat.le_add_right ..

/-- The last bit of a significand is the last bit of the number. -/
theorem significand_mod_two (x : Binary64) : x.significand % 2 = x.bits.toNat % 2 := by
  have hfraction : x.fraction % 2 = x.bits.toNat % 2 := by
    rw [fraction, leadingBit_eq]
    omega
  rw [significand, leadingBit_eq]
  split <;> omega

/-- A number is its sign, its power of two and its significand. -/
theorem toNat_bits_eq (x : Binary64) : x.bits.toNat =
    (if x.negative then 2 ^ 63 else 0) + (x.scale * leadingBit + x.significand) := by
  have hbits : x.bits.toNat < 2 ^ 64 := x.bits.toNat_lt
  have hfraction : x.fraction = x.bits.toNat % 2 ^ 52 := rfl
  have hfield : x.exponentField = x.bits.toNat / 2 ^ 52 % 2048 := by
    rw [exponentField, Nat.shiftRight_eq_div_pow]
  have hsign : x.negative = decide (x.bits.toNat / 2 ^ 63 = 1) := by
    rw [negative, Nat.shiftRight_eq_div_pow]
    rfl
  rw [hsign, significand, scale, hfraction, hfield, leadingBit_eq]
  by_cases hnegative : x.bits.toNat / 2 ^ 63 = 1
  · rw [if_pos (decide_eq_true hnegative)]
    split <;> omega
  · rw [if_neg (by simpa using hnegative)]
    split <;> omega

/-- A number with a smaller power of two is smaller than the least one of 53 bits. -/
theorem magnitude_lt_of_scale_lt (h : x.scale < places) :
    x.magnitude < leadingBit * 2 ^ places := by
  rw [x.magnitude_eq]
  calc x.significand * 2 ^ x.scale < 2 * leadingBit * 2 ^ x.scale :=
        Nat.mul_lt_mul_of_pos_right x.significand_lt (Nat.two_pow_pos _)
    _ = leadingBit * 2 ^ (x.scale + 1) := by ring
    _ ≤ leadingBit * 2 ^ places := Nat.mul_le_mul_left _ (Nat.pow_le_pow_right Nat.two_pos h)

/-- A number with a greater power of two is a multiple of the power. -/
theorem exists_magnitude_eq_mul (h : places ≤ x.scale) :
    ∃ more, x.magnitude = x.significand * 2 ^ more * 2 ^ places := by
  obtain ⟨more, hmore⟩ := Nat.exists_eq_add_of_le' h
  refine ⟨more, ?_⟩
  rw [x.magnitude_eq, hmore, Nat.pow_add, Nat.mul_assoc]

/-- The power of two decides first which number is greater. -/
theorem magnitude_lt_magnitude (h : x.scale < y.scale) : x.magnitude < y.magnitude := by
  have hlead := leadingBit_le_significand (Nat.ne_of_gt (Nat.zero_lt_of_lt h))
  rw [y.magnitude_eq]
  exact Nat.lt_of_lt_of_le (magnitude_lt_of_scale_lt h) (Nat.mul_le_mul_right _ hlead)

/-- Numbers with one sign and one magnitude are equal. -/
theorem eq_of_magnitude_eq (hsign : x.negative = y.negative)
    (hmagnitude : x.magnitude = y.magnitude) : x = y := by
  have hscale : x.scale = y.scale := by
    rcases Nat.lt_trichotomy x.scale y.scale with hlt | heq | hgt
    · exact absurd hmagnitude (Nat.ne_of_lt (magnitude_lt_magnitude hlt))
    · exact heq
    · exact absurd hmagnitude (Nat.ne_of_gt (magnitude_lt_magnitude hgt))
  have hsignificand : x.significand = y.significand := by
    rw [x.magnitude_eq, y.magnitude_eq, hscale] at hmagnitude
    exact Nat.eq_of_mul_eq_mul_right (Nat.two_pow_pos _) hmagnitude
  have hbits : x.bits.toNat = y.bits.toNat := by
    rw [toNat_bits_eq, toNat_bits_eq, hsign, hscale, hsignificand]
  cases x
  cases y
  exact congrArg mk (UInt64.toNat_inj.1 hbits)

/-- The power of two of the greatest finite numbers. -/
def topScale : Nat := 2045

/-- A finite number has no greater power of two. -/
theorem scale_le_topScale (hx : x.isFinite = true) : x.scale ≤ topScale := by
  have hfield : x.exponentField ≠ 2047 := bne_iff_ne.1 hx
  have hbits : x.exponentField < 2048 := Nat.mod_lt _ (by decide)
  have htop : topScale = 2045 := rfl
  rw [scale]
  omega

/-- What lies half a place past the greatest finite number, in units; from here on a number is
infinite. -/
def overflow : Nat := (4 * leadingBit - 1) * 2 ^ (topScale - 1)

/-- Twice that is an odd multiple of the power of two of the greatest finite numbers. -/
theorem two_mul_overflow : 2 * overflow = (4 * leadingBit - 1) * 2 ^ topScale := by
  have htop : topScale = topScale - 1 + 1 := rfl
  rw [overflow, htop, Nat.pow_succ, Nat.add_sub_cancel]
  ring

/-- It has 2098 bits. -/
theorem overflow_bounds :
    2 ^ (53 + (topScale - 1)) ≤ overflow ∧ overflow < 2 ^ (52 + (topScale + 1)) := by
  have hplaces (places : Nat) : 2 ^ (53 + places) ≤ (4 * 2 ^ 52 - 1) * 2 ^ places ∧
      (4 * 2 ^ 52 - 1) * 2 ^ places < 2 ^ (54 + places) := by
    rw [Nat.pow_add, Nat.pow_add]
    exact ⟨Nat.mul_le_mul_right _ (by decide),
      Nat.mul_lt_mul_of_pos_right (by decide) (Nat.two_pow_pos _)⟩
  have htop : 52 + (topScale + 1) = 54 + (topScale - 1) := rfl
  rw [htop, overflow, leadingBit_eq]
  exact hplaces (topScale - 1)

/-- A finite number is in range. -/
theorem magnitude_lt_overflow (hx : x.isFinite = true) : x.magnitude < overflow := by
  have hscale := scale_le_topScale hx
  have hs : 2 * x.significand < 4 * leadingBit - 1 := by
    have := x.significand_lt
    omega
  have htwice : 2 * x.magnitude < 2 * overflow := by
    rw [two_mul_overflow, x.magnitude_eq, ← Nat.mul_assoc]
    calc 2 * x.significand * 2 ^ x.scale ≤ 2 * x.significand * 2 ^ topScale :=
          Nat.mul_le_mul_left _ (Nat.pow_le_pow_right Nat.two_pos hscale)
      _ < (4 * leadingBit - 1) * 2 ^ topScale :=
          Nat.mul_lt_mul_of_pos_right hs (Nat.two_pow_pos _)
  exact Nat.lt_of_mul_lt_mul_left htwice

/-- A quotient is rounded to an odd number or below exactly if it is less than a half above it. -/
theorem divNearest_le_iff (hden : 0 < den) (hodd : c % 2 = 1) :
    divNearest num den ≤ c ↔ 2 * num < (2 * c + 1) * den := by
  obtain ⟨hside, hmiddle⟩ := divNearest_cases num den
  have hsplit := Nat.div_add_mod' num den
  have hrest := Nat.mod_lt num hden
  have hbound : (2 * c + 1) * den = 2 * (c * den) + den := by ring
  rcases Nat.lt_trichotomy (num / den) c with hlt | heq | hgt
  · have hbelow : (num / den + 1) * den ≤ c * den := Nat.mul_le_mul_right den hlt
    rw [Nat.succ_mul] at hbelow
    exact iff_of_true (by omega) (by omega)
  · rw [heq] at hside hsplit
    omega
  · have habove : (c + 1) * den ≤ num / den * den := Nat.mul_le_mul_right den hgt
    rw [Nat.succ_mul] at habove
    exact iff_of_false (by omega) (by omega)

/-- A quotient is rounded to a finite number exactly if it is in range. -/
theorem ratio_lt_infinityBits_iff (hden : 0 < den) :
    ratioScale num den * leadingBit + ratioSignificand num den < infinityBits ↔
      num * unit < overflow * den := by
  obtain ⟨hlow, hhigh⟩ := ratioSignificand_bounds num den
  have htop : topScale = 2045 := rfl
  rw [infinityBits]
  rw [leadingBit_eq] at *
  rcases Nat.lt_trichotomy (ratioScale num den) topScale with hlt | heq | hgt
  · refine iff_of_true (by omega) ((Nat.div_lt_iff_lt_mul hden).1 ?_)
    have hscale : 53 + ratioScale num den ≤ 53 + (topScale - 1) := by omega
    calc num * unit / den < 2 ^ (53 + ratioScale num den) := ratio_lt_two_pow num den
      _ ≤ 2 ^ (53 + (topScale - 1)) := Nat.pow_le_pow_right Nat.two_pos hscale
      _ ≤ overflow := overflow_bounds.1
  · have hcarry : ratioScale num den * 2 ^ 52 + ratioSignificand num den < 2047 * 2 ^ 52 ↔
        ratioSignificand num den ≤ 2 ^ 53 - 1 := by omega
    have hplaces : 0 < den * 2 ^ topScale := Nat.mul_pos hden (Nat.two_pow_pos _)
    have hodd : (2 ^ 53 - 1) % 2 = 1 := by decide
    have hmiddle : (2 * (2 ^ 53 - 1) + 1) * (den * 2 ^ topScale) = 2 * (overflow * den) := by
      have htwice : 2 * (2 ^ 53 - 1) + 1 = 4 * 2 ^ 52 - 1 := by decide
      rw [htwice, ← Nat.mul_assoc 2 overflow, two_mul_overflow, leadingBit_eq, Nat.mul_right_comm,
        Nat.mul_assoc]
    have hsignificand : ratioSignificand num den ≤ 2 ^ 53 - 1 ↔
        2 * (num * unit) < 2 * (overflow * den) := by
      rw [ratioSignificand, heq, ← hmiddle]
      exact divNearest_le_iff hplaces hodd
    exact hcarry.trans (hsignificand.trans (Nat.mul_lt_mul_left Nat.two_pos))
  · have hscale : 52 + (topScale + 1) ≤ 52 + ratioScale num den := by omega
    have hne : ratioScale num den ≠ 0 := by omega
    refine iff_of_false (by omega) (Nat.not_lt.2 ((Nat.le_div_iff_mul_le hden).1 ?_))
    calc overflow ≤ 2 ^ (52 + (topScale + 1)) := Nat.le_of_lt overflow_bounds.2
      _ ≤ 2 ^ (52 + ratioScale num den) := Nat.pow_le_pow_right Nat.two_pos hscale
      _ ≤ num * unit / den := two_pow_le_ratio hne

/-- No multiple of the denominator is nearer, and another one is as near only in the middle. -/
theorem dist_divNearest_le (hden : 0 < den) (t : Nat) :
    Nat.dist (divNearest num den * den) num ≤ Nat.dist (t * den) num ∧
      (Nat.dist (t * den) num = Nat.dist (divNearest num den * den) num →
        t = divNearest num den ∨ divNearest num den % 2 = 0) := by
  obtain ⟨hside, hmiddle⟩ := divNearest_cases num den
  have hsplit := Nat.div_add_mod' num den
  have hrest := Nat.mod_lt num hden
  have hup : (num / den + 1) * den = num / den * den + den := Nat.succ_mul ..
  have hother : t < num / den ∧ t * den + den ≤ num / den * den ∨ t = num / den ∨
      t = num / den + 1 ∨ num / den + 1 < t ∧ (num / den + 1) * den + den ≤ t * den := by
    rcases Nat.lt_trichotomy t (num / den) with hlt | heq | hgt
    · exact Or.inl ⟨hlt, Nat.succ_mul t den ▸ Nat.mul_le_mul_right den hlt⟩
    · exact Or.inr (Or.inl heq)
    · rcases Nat.eq_or_lt_of_le hgt with heq | hgt
      · exact Or.inr (Or.inr (Or.inl heq.symm))
      · refine Or.inr (Or.inr (Or.inr ⟨hgt, ?_⟩))
        exact Nat.succ_mul (num / den + 1) den ▸ Nat.mul_le_mul_right den hgt
  unfold Nat.dist
  rcases hside with ⟨hlow, hs⟩ | ⟨hhigh, hs⟩ <;> rw [hs] at hmiddle ⊢
  · rcases hother with ⟨-, hfar⟩ | rfl | rfl | ⟨-, hfar⟩ <;> omega
  · rcases hother with ⟨-, hfar⟩ | rfl | rfl | ⟨-, hfar⟩ <;> omega

/-- How far a finite number is from a quotient, in parts of a unit. -/
def gap (x : Binary64) (num den : Nat) : Nat := Nat.dist (x.magnitude * den) (num * unit)

/-- A finite number is the nearest one to `± num / den`, and of two that are as near the even
one. -/
structure IsNearest (x : Binary64) (negative : Bool) (num den : Nat) : Prop where
  /-- The quotient is not nearer to infinity. -/
  inRange : num * unit < overflow * den
  /-- The number is finite. -/
  finite : x.isFinite = true
  /-- It has the sign, also if it is zero. -/
  sign : x.negative = negative
  /-- No finite number is nearer. -/
  nearest : ∀ y : Binary64, y.isFinite = true → x.gap num den ≤ y.gap num den
  /-- If another one is as near, the significand is even. -/
  even : ∀ y : Binary64, y.isFinite = true → y.gap num den = x.gap num den →
    y.magnitude = x.magnitude ∨ x.significand % 2 = 0

/-- No number is nearer to a quotient than its significand and its power of two. -/
theorem dist_ratio_le (hden : 0 < den) (y : Binary64) :
    Nat.dist (ratioSignificand num den * 2 ^ ratioScale num den * den) (num * unit) ≤
        y.gap num den ∧
      (y.gap num den =
          Nat.dist (ratioSignificand num den * 2 ^ ratioScale num den * den) (num * unit) →
        y.magnitude = ratioSignificand num den * 2 ^ ratioScale num den ∨
          ratioSignificand num den % 2 = 0) := by
  have hplaces : 0 < den * 2 ^ ratioScale num den := Nat.mul_pos hden (Nat.two_pow_pos _)
  have hnear := @dist_divNearest_le (num * unit) _ hplaces
  rw [← ratioSignificand] at hnear
  have hassoc (t : Nat) :
      t * 2 ^ ratioScale num den * den = t * (den * 2 ^ ratioScale num den) := by
    rw [Nat.mul_assoc, Nat.mul_comm den]
  rw [gap, hassoc]
  rcases Nat.lt_or_ge y.scale (ratioScale num den) with hfine | hcoarse
  · -- Below the first number of 53 bits all numbers are farther than that number.
    have hlow : 2 ^ 52 * (den * 2 ^ ratioScale num den) ≤ num * unit := by
      have h := two_pow_le_ratio (Nat.ne_of_gt (Nat.zero_lt_of_lt hfine))
      rw [Nat.le_div_iff_mul_le hden, Nat.pow_add] at h
      rwa [hassoc] at h
    have hbelow : y.magnitude * den < 2 ^ 52 * (den * 2 ^ ratioScale num den) := by
      rw [← hassoc]
      exact Nat.mul_lt_mul_of_pos_right (magnitude_lt_of_scale_lt hfine) hden
    have hfirst := (hnear (2 ^ 52)).1
    unfold Nat.dist at *
    exact ⟨by omega, fun h => by omega⟩
  · obtain ⟨more, hmultiple⟩ := exists_magnitude_eq_mul hcoarse
    rw [hmultiple, hassoc]
    refine ⟨(hnear _).1, fun h => ((hnear _).2 h).imp_left fun he => ?_⟩
    rw [he]

/-- A quotient in range is rounded to the nearest finite number. -/
theorem isNearest_ofRatio (hden : 0 < den) (hrange : num * unit < overflow * den) :
    (ofRatio negative num den).IsNearest negative num den := by
  have hfits := fits_ratio ((ratio_lt_infinityBits_iff hden).2 hrange)
  obtain ⟨hfinite, hmagnitude, hsign⟩ := hfits.magnitude_eq negative
  have hbits : ratioScale num den * leadingBit + ratioSignificand num den < 2 ^ 63 :=
    Nat.lt_trans hfits.finite (by decide)
  have heven : (ofMagnitudeBits negative (ratioScale num den * leadingBit +
      ratioSignificand num den)).significand % 2 = ratioSignificand num den % 2 := by
    rw [significand_mod_two, toNat_bits_ofMagnitudeBits hbits, leadingBit_eq]
    split <;> omega
  rw [hfits.ofRatio_eq]
  refine ⟨hrange, hfinite, hsign, fun y _ => ?_, fun y _ h => ?_⟩
  · rw [gap, hmagnitude]
    exact (dist_ratio_le hden y).1
  · rw [gap, gap, hmagnitude] at h
    rw [hmagnitude, heven]
    exact (dist_ratio_le hden y).2 h

/-- A quotient is rounded to a finite number exactly if it is in range. -/
theorem isFinite_ofRatio_iff (hden : 0 < den) :
    (ofRatio negative num den).isFinite = true ↔ num * unit < overflow * den := by
  refine ⟨fun h => ?_, fun h => (isNearest_ofRatio hden h).finite⟩
  rw [← ratio_lt_infinityBits_iff hden]
  by_contra hout
  rw [ofRatio_eq, Nat.min_eq_right (Nat.not_lt.1 hout)] at h
  cases negative <;> revert h <;> decide

/-- A common factor makes no difference. -/
theorem IsNearest.of_mul (hc : 0 < c) (h : x.IsNearest negative (num * c) (den * c)) :
    x.IsNearest negative num den := by
  have hgap (y : Binary64) : y.gap (num * c) (den * c) = y.gap num den * c := by
    rw [gap, gap, ← Nat.dist_mul_right, ← Nat.mul_assoc, Nat.mul_right_comm num]
  constructor
  case inRange =>
    have hrange := h.inRange
    rw [Nat.mul_right_comm, ← Nat.mul_assoc] at hrange
    exact Nat.lt_of_mul_lt_mul_right hrange
  case finite => exact h.finite
  case sign => exact h.sign
  case nearest =>
    intro y hy
    have hle := h.nearest y hy
    rw [hgap, hgap] at hle
    exact Nat.le_of_mul_le_mul_right hle hc
  case even =>
    intro y hy heq
    exact h.even y hy (by rw [hgap, hgap, heq])

/-- An even significand has another one above it. -/
theorem fits_significand_succ (hx : x.isFinite = true) (heven : x.significand % 2 = 0) :
    Fits (x.significand + 1) x.scale := by
  have hs := x.significand_lt
  have hscale := scale_le_topScale hx
  have htop : topScale = 2045 := rfl
  constructor
  case low =>
    by_cases hzero : x.scale = 0
    · exact Or.inr hzero
    · exact Or.inl (Nat.le_succ_of_le (leadingBit_le_significand hzero))
  case high => exact hs
  case finite =>
    rw [infinityBits]
    rw [leadingBit_eq] at *
    omega

/-- Between two numbers with even significands there is another one. -/
theorem exists_between (hx : x.isFinite = true) (hxeven : x.significand % 2 = 0)
    (hyeven : y.significand % 2 = 0) (hlt : x.magnitude < y.magnitude) :
    ∃ z : Binary64, z.isFinite = true ∧ x.magnitude < z.magnitude ∧ z.magnitude < y.magnitude := by
  obtain ⟨hfinite, hmagnitude, -⟩ := (fits_significand_succ hx hxeven).magnitude_eq false
  refine ⟨_, hfinite, ?_, ?_⟩
  · rw [hmagnitude, x.magnitude_eq]
    exact Nat.mul_lt_mul_of_pos_right (Nat.lt_succ_self _) (Nat.two_pow_pos _)
  · rcases Nat.lt_or_ge y.scale x.scale with hfine | hcoarse
    · exact absurd (magnitude_lt_magnitude hfine) (Nat.lt_asymm hlt)
    · obtain ⟨more, hmultiple⟩ := exists_magnitude_eq_mul hcoarse
      have hparity : y.significand * 2 ^ more % 2 = 0 := by
        rw [Nat.mul_mod, hyeven, Nat.zero_mul, Nat.zero_mod]
      rw [hmultiple, x.magnitude_eq] at hlt
      have hless := Nat.lt_of_mul_lt_mul_right hlt
      rw [hmagnitude, hmultiple]
      exact Nat.mul_lt_mul_of_pos_right (by omega) (Nat.two_pow_pos _)

/-- Only one number is the nearest one. -/
theorem IsNearest.unique (hx : x.IsNearest negative num den) (hy : y.IsNearest negative num den) :
    x = y := by
  have hden : 0 < den := by
    refine Nat.pos_of_ne_zero fun hzero => ?_
    have hrange := hx.inRange
    rw [hzero, Nat.mul_zero] at hrange
    exact Nat.not_lt_zero _ hrange
  have hnot {x y : Binary64} (hx : x.IsNearest negative num den)
      (hy : y.IsNearest negative num den) : ¬ x.magnitude < y.magnitude := by
    intro hlt
    have hsame := Nat.le_antisymm (hx.nearest y hy.finite) (hy.nearest x hx.finite)
    have hxeven := (hx.even y hy.finite hsame.symm).resolve_left (Nat.ne_of_gt hlt)
    have hyeven := (hy.even x hx.finite hsame).resolve_left (Nat.ne_of_lt hlt)
    obtain ⟨z, hz, hxz, hzy⟩ := exists_between hx.finite hxeven hyeven hlt
    have hnear := hx.nearest z hz
    have hbefore : x.magnitude * den < z.magnitude * den := Nat.mul_lt_mul_of_pos_right hxz hden
    have hbehind : z.magnitude * den < y.magnitude * den := Nat.mul_lt_mul_of_pos_right hzy hden
    unfold gap Nat.dist at hsame hnear
    omega
  refine eq_of_magnitude_eq (hx.sign.trans hy.sign.symm) ?_
  exact Nat.le_antisymm (Nat.not_lt.1 (hnot hy hx)) (Nat.not_lt.1 (hnot hx hy))

end Scorebook.Binary64
