import Scorebook.Json.Literal
import Scorebook.Proofs.Number.Rounding
import Scorebook.Warehouse.Cell

/-!
# Whole numbers of every width

A cell with a whole number becomes this number, and the width of its type leaves no trace. The
widest type, which a sum of whole numbers has, makes one exception: past the greatest number of 64
bits with a sign its numbers are rounded, though JSON could write some of them, and though the type
of 64 bits without a sign writes them.
-/

namespace Scorebook

/-- A JSON value is a number, and the number is this whole number. -/
inductive Json.Denotes : Json → Int → Prop
  /-- It is written as a whole number. -/
  | int (n : Int) : Denotes (.int n) n
  /-- It is written as a floating-point number with the same value. -/
  | float {x : Binary64} {n : Int} (hfinite : x.isFinite = true)
    (hvalue : x.value = n * Binary64.unit) : Denotes (.float x) n

namespace IntType

variable {t : IntType} {n : Int}

/-- The numbers of 64 bits with a sign. -/
theorem bigint_holds_iff : (range .bigint).holds n = true ↔ -2 ^ 63 ≤ n ∧ n < 2 ^ 63 := by
  rw [IntRange.holds_iff]
  exact and_congr_right fun _ => Int.le_sub_one_iff

/-- The numbers that JSON writes as whole numbers are those of 64 bits with or without a sign. -/
theorem wholeRange_holds_iff :
    Json.Literal.wholeRange.holds n = true ↔ -2 ^ 63 ≤ n ∧ n < 2 ^ 64 := by
  rw [IntRange.holds_iff]
  exact and_congr_right fun _ => Int.le_sub_one_iff

/-- The widest type has 128 bits. -/
theorem natAbs_lt_of_hugeint (h : (range .hugeint).holds n = true) : n.natAbs < 2 ^ 128 := by
  obtain ⟨hlow, hhigh⟩ := IntRange.holds_iff.1 h
  change -2 ^ 127 ≤ n at hlow
  change n ≤ 2 ^ 127 - 1 at hhigh
  omega

/-- All other types have numbers that JSON writes as whole numbers. -/
theorem wholeRange_of_holds (hne : t ≠ .hugeint) (h : t.range.holds n = true) :
    Json.Literal.wholeRange.holds n = true := by
  have hlow : Json.Literal.wholeRange.low ≤ t.range.low := by
    cases t <;> first | contradiction | decide
  have hhigh : t.range.high ≤ Json.Literal.wholeRange.high := by
    cases t <;> first | contradiction | decide
  obtain ⟨hn, hn'⟩ := IntRange.holds_iff.1 h
  exact IntRange.holds_iff.2 ⟨Int.le_trans hlow hn, Int.le_trans hn' hhigh⟩

end IntType

namespace Cell

variable {t u : IntType} {n : Int}

/-- A number of any other type stays whole, and so does one of the widest type that has 64 bits with
a sign. -/
theorem toJson_of_whole (h : t ≠ .hugeint ∨ (IntType.range .bigint).holds n = true) :
    (Cell.integer t n).toJson = .int n := by
  cases t with
  | hugeint => exact if_pos (h.resolve_left fun hne => hne rfl)
  | _ => rfl

/-- Any other number of the widest type is rounded. -/
theorem toJson_of_wide (h : (IntType.range .hugeint).holds n = true)
    (hwide : (IntType.range .bigint).holds n ≠ true) :
    (Cell.integer .hugeint n).toJson = .float (.ofInt n) := by
  have hfinite : (Binary64.ofInt n).isFinite = true :=
    Binary64.isFinite_ofInt (IntType.natAbs_lt_of_hugeint h)
  rw [toJson, if_neg hwide, Json.finite, if_pos hfinite]

/-- The rounded number is the same number exactly if it is a multiple of the power of two that
leaves 53 of its bits. -/
theorem denotes_of_wide (h : (IntType.range .hugeint).holds n = true)
    (hwide : (IntType.range .bigint).holds n ≠ true) :
    (Cell.integer .hugeint n).toJson.Denotes n ↔ 2 ^ (n.natAbs.log2 - 52) ∣ n.natAbs := by
  have hbits := IntType.natAbs_lt_of_hugeint h
  rw [toJson_of_wide h hwide, ← Binary64.value_ofInt_eq_iff hbits]
  constructor
  · rintro (_ | ⟨-, hvalue⟩)
    exact hvalue
  · exact .float (Binary64.isFinite_ofInt hbits)

/-- A cell becomes a whole number exactly if it is not one of the rounded ones. -/
theorem toJson_eq_int_iff (h : t.range.holds n = true) :
    (Cell.integer t n).toJson = .int n ↔
      t ≠ .hugeint ∨ (IntType.range .bigint).holds n = true := by
  refine ⟨fun hwhole => ?_, toJson_of_whole⟩
  by_contra hrounded
  obtain ⟨ht, hwide⟩ := not_or.1 hrounded
  obtain rfl := not_not.1 ht
  rw [toJson_of_wide h hwide] at hwhole
  cases hwhole

/-- A number that JSON writes as a whole number is written so exactly if the type is not the widest,
or the number has 64 bits with a sign. -/
theorem toJson_eq_int_iff_lt (hrange : Json.Literal.wholeRange.holds n = true)
    (h : t.range.holds n = true) :
    (Cell.integer t n).toJson = .int n ↔ t ≠ .hugeint ∨ n < 2 ^ 63 := by
  obtain ⟨hlow, -⟩ := IntType.wholeRange_holds_iff.1 hrange
  rw [toJson_eq_int_iff h, IntType.bigint_holds_iff, and_iff_right hlow]

/-- The type makes no difference exactly if both types or none are the widest, or if the number has
64 bits with a sign. -/
theorem toJson_eq_toJson_iff (ht : t.range.holds n = true) (hu : u.range.holds n = true) :
    (Cell.integer t n).toJson = (Cell.integer u n).toJson ↔
      (t = .hugeint ↔ u = .hugeint) ∨ n < 2 ^ 63 := by
  rcases eq_or_ne t .hugeint with rfl | htype
  · rcases eq_or_ne u .hugeint with rfl | htype'
    · exact iff_of_true rfl (Or.inl Iff.rfl)
    · have hrange := IntType.wholeRange_of_holds htype' hu
      rw [toJson_of_whole (Or.inl htype'), toJson_eq_int_iff_lt hrange ht]
      simp only [ne_eq, not_true_eq_false, htype', iff_false]
  · have hrange := IntType.wholeRange_of_holds htype ht
    rw [toJson_of_whole (Or.inl htype), eq_comm, toJson_eq_int_iff_lt hrange hu]
    simp only [ne_eq, htype, false_iff]

/-- Of the numbers that JSON writes as whole numbers and 64 bits with a sign do not hold, the widest
type keeps the multiples of `2 ^ 11`. -/
theorem denotes_iff_of_wholeRange (hrange : Json.Literal.wholeRange.holds n = true)
    (h : t.range.holds n = true) :
    (Cell.integer t n).toJson.Denotes n ↔ t ≠ .hugeint ∨ n < 2 ^ 63 ∨ 2 ^ 11 ∣ n := by
  by_cases hkept : t ≠ .hugeint ∨ n < 2 ^ 63
  · rw [(toJson_eq_int_iff_lt hrange h).2 hkept]
    exact iff_of_true (.int n) (hkept.imp_right Or.inl)
  · obtain ⟨htype, hlarge⟩ := not_or.1 hkept
    obtain rfl := not_not.1 htype
    obtain ⟨-, hhigh⟩ := IntType.wholeRange_holds_iff.1 hrange
    have hwide : (IntType.range .bigint).holds n ≠ true := fun hholds =>
      hlarge (IntType.bigint_holds_iff.1 hholds).2
    have hlog : n.natAbs.log2 = 63 := (Nat.log2_eq_iff (by omega)).2 ⟨by omega, by omega⟩
    have hdvd : 2 ^ 11 ∣ n.natAbs ↔ (2 ^ 11 : Int) ∣ n := Int.natAbs_dvd_natAbs (a := 2 ^ 11)
    rw [denotes_of_wide h hwide, hlog, hdvd]
    simp only [ne_eq, not_true_eq_false, hlarge, false_or]

/-- All other numbers have the widest type, and are rounded. -/
theorem exists_toJson_eq_float (hrange : Json.Literal.wholeRange.holds n ≠ true)
    (h : t.range.holds n = true) :
    t = .hugeint ∧ ∃ x : Binary64, x.isFinite = true ∧ (Cell.integer t n).toJson = .float x := by
  have htype : t = .hugeint := by
    by_contra hne
    exact hrange (IntType.wholeRange_of_holds hne h)
  subst htype
  have hwide : (IntType.range .bigint).holds n ≠ true := fun hholds => by
    obtain ⟨hlow, hhigh⟩ := IntType.bigint_holds_iff.1 hholds
    exact hrange (IntType.wholeRange_holds_iff.2 ⟨hlow, by omega⟩)
  exact ⟨rfl, _, Binary64.isFinite_ofInt (IntType.natAbs_lt_of_hugeint h), toJson_of_wide h hwide⟩

/-- Two cells with the same number become the same JSON number exactly if both or none of them have
the widest type, or if the number is less than `2 ^ 63`. A number that JSON writes as a whole number
is written so exactly if the type is another one or the number is less than `2 ^ 63`; from there on,
the widest type keeps just the multiples of `2 ^ 11`. All other numbers have the widest type, and
are rounded. -/
theorem toJson_integer_eq_iff (t u : IntType) (n : Int) (ht : t.range.holds n = true)
    (hu : u.range.holds n = true) :
    ((Cell.integer t n).toJson = (Cell.integer u n).toJson ↔
        (t = .hugeint ↔ u = .hugeint) ∨ n < 2 ^ 63) ∧
      (Json.Literal.wholeRange.holds n = true →
        ((Cell.integer t n).toJson = .int n ↔ t ≠ .hugeint ∨ n < 2 ^ 63) ∧
        ((Cell.integer t n).toJson.Denotes n ↔ t ≠ .hugeint ∨ n < 2 ^ 63 ∨ 2 ^ 11 ∣ n)) ∧
      (Json.Literal.wholeRange.holds n ≠ true → t = .hugeint ∧
        ∃ x : Binary64, x.isFinite = true ∧ (Cell.integer t n).toJson = .float x) := by
  refine ⟨toJson_eq_toJson_iff ht hu, fun hrange => ⟨?_, ?_⟩, fun hrange => ?_⟩
  · exact toJson_eq_int_iff_lt hrange ht
  · exact denotes_iff_of_wholeRange hrange ht
  · exact exists_toJson_eq_float hrange ht

/-- The greatest number of 64 bits with a sign stays the same in a column of the widest type. -/
theorem toJson_greatestBigint :
    (IntType.range .hugeint).holds (2 ^ 63 - 1) = true ∧
      (IntType.range .bigint).holds (2 ^ 63 - 1) = true ∧
      (Cell.integer .hugeint (2 ^ 63 - 1)).toJson = (Cell.integer .bigint (2 ^ 63 - 1)).toJson ∧
      (Cell.integer .hugeint (2 ^ 63 - 1)).toJson = .int (2 ^ 63 - 1) := by
  have hhuge : (IntType.range .hugeint).holds (2 ^ 63 - 1) = true := by decide
  have hbig : (IntType.range .bigint).holds (2 ^ 63 - 1) = true := by decide
  have hrange : Json.Literal.wholeRange.holds (2 ^ 63 - 1) = true := by decide
  have hless : (2 ^ 63 - 1 : Int) < 2 ^ 63 := by decide
  obtain ⟨hsame, hwhole, -⟩ := toJson_integer_eq_iff .hugeint .bigint (2 ^ 63 - 1) hhuge hbig
  exact ⟨hhuge, hbig, hsame.2 (Or.inr hless), (hwhole hrange).1.2 (Or.inr hless)⟩

/-- The greatest number of 64 bits without a sign does not: in a column of the widest type it
becomes another number than in its own, which writes it as a whole number. -/
theorem toJson_greatestUbigint :
    (IntType.range .hugeint).holds (2 ^ 64 - 1) = true ∧
      (IntType.range .ubigint).holds (2 ^ 64 - 1) = true ∧
      Json.Literal.wholeRange.holds (2 ^ 64 - 1) = true ∧
      (Cell.integer .ubigint (2 ^ 64 - 1)).toJson = .int (2 ^ 64 - 1) ∧
      (Cell.integer .hugeint (2 ^ 64 - 1)).toJson ≠ (Cell.integer .ubigint (2 ^ 64 - 1)).toJson ∧
      ¬ (Cell.integer .hugeint (2 ^ 64 - 1)).toJson.Denotes (2 ^ 64 - 1) := by
  have hhuge : (IntType.range .hugeint).holds (2 ^ 64 - 1) = true := by decide
  have hwide : (IntType.range .bigint).holds (2 ^ 64 - 1) ≠ true := by decide
  refine ⟨hhuge, by decide, by decide, rfl, ?_, ?_⟩
  · rw [toJson_of_wide hhuge hwide]
    exact nofun
  · rw [denotes_of_wide hhuge hwide]
    decide

end Cell

end Scorebook
