import Mathlib.Algebra.Order.Floor.Ring
import Mathlib.Algebra.Order.Round
import Mathlib.Data.Rat.Floor
import Mathlib.Tactic.Linarith
import Mathlib.Tactic.NormNum

/-!
Numbers and texts in the columns of a database.

* `numeric`: the type `NUMERIC(precision, scale)`, which rounds and then refuses what does not fit.
  `integer`: the type `INTEGER`, which refuses only. `varchar`: the type `VARCHAR(n)`, which cuts
  blanks off and refuses other text that is too long.
* `numeric_of_digits`, `numeric_idem`: a value without further digits is stored as it is, and so is
  a stored one. `numeric_mono`: stored values follow the order of the values.
* `abs_sub_numeric`: the rounding moves a value by half a last digit at most.
-/

namespace EclServer.Library

/-- A column `NUMERIC(precision, scale)`: halves are rounded away from zero, and what does
not fit is refused. -/
def numeric (precision scale : ℕ) (q : ℚ) : Except String ℚ :=
  let scaled := |q| * 10 ^ scale
  let rounded : ℤ := ⌊scaled + 1 / 2⌋
  if (10 : ℤ) ^ precision ≤ rounded then .error "numeric field overflow"
  else .ok ((if q < 0 then -rounded else rounded) / 10 ^ scale)

/-- A column `INTEGER`, of four bytes. -/
def integer (n : ℤ) : Except String ℤ :=
  if -2 ^ 31 ≤ n ∧ n < 2 ^ 31 then .ok n else .error "integer out of range"

lemma integer_eq_ok_iff {m n : ℤ} :
    integer n = .ok m ↔ (-2 ^ 31 ≤ n ∧ n < 2 ^ 31) ∧ m = n := by
  rw [integer]
  by_cases h : -2 ^ 31 ≤ n ∧ n < 2 ^ 31
  · rw [if_pos h, Except.ok.injEq, and_iff_right h, eq_comm]
  · rw [if_neg h]
    exact iff_of_false (by simp) fun hok => h hok.1

/-- The first characters of a text. -/
def cutText (n : ℕ) (s : String) : String := String.ofList (s.toList.take n)

/-- A column `VARCHAR(n)`: blanks beyond its length are cut off, other text there is refused. -/
def varchar (n : ℕ) (s : String) : Except String String :=
  if (s.toList.drop n).all fun c => c = ' ' then .ok (cutText n s)
  else .error "value too long for type character varying"

variable {precision scale : ℕ} {p q v w : ℚ}

/-- A value that fits is stored. -/
lemma exists_numeric (h : |q| * 10 ^ scale + 1 / 2 < 10 ^ precision) :
    ∃ v, numeric precision scale q = .ok v := by
  have hfloor : ⌊|q| * 10 ^ scale + 1 / 2⌋ < (10 : ℤ) ^ precision := by
    rw [Int.floor_lt]
    exact_mod_cast h
  rw [numeric, if_neg (not_le.mpr hfloor)]
  exact ⟨_, rfl⟩

/-- A value that is not negative, and how it is rounded. -/
lemma numeric_of_nonneg (hq : 0 ≤ q) (h : ⌊q * 10 ^ scale + 1 / 2⌋ < (10 : ℤ) ^ precision) :
    numeric precision scale q = .ok (⌊q * 10 ^ scale + 1 / 2⌋ / 10 ^ scale) := by
  rw [numeric, abs_of_nonneg hq, if_neg (not_le.mpr h), if_neg (not_lt.mpr hq)]

/-- A value without further digits is its own rounding, whatever its sign. -/
lemma numeric_of_scaled (n : ℕ) (hq : |q| * 10 ^ scale = n) (hn : (n : ℤ) < 10 ^ precision) :
    numeric precision scale q = .ok q := by
  have hpos : (0 : ℚ) < 10 ^ scale := by positivity
  have hfloor : ⌊|q| * 10 ^ scale + 1 / 2⌋ = (n : ℤ) := by
    rw [hq, Int.floor_eq_iff]
    constructor <;> push_cast <;> linarith
  have hcast : ((n : ℤ) : ℚ) = |q| * 10 ^ scale := by rw [hq, Int.cast_natCast]
  rw [numeric, hfloor, if_neg (not_le.mpr hn)]
  by_cases hneg : q < 0
  · rw [if_pos hneg, Int.cast_neg, hcast, abs_of_neg hneg, neg_mul, neg_neg,
      mul_div_cancel_right₀ q hpos.ne']
  · rw [if_neg hneg, hcast, abs_of_nonneg (not_lt.mp hneg), mul_div_cancel_right₀ q hpos.ne']

/-- A value without further digits is stored as it is. -/
lemma numeric_of_digits (n : ℕ) (hq : q * 10 ^ scale = n) (hn : n < 10 ^ precision) :
    numeric precision scale q = .ok q := by
  have hpos : (0 : ℚ) < 10 ^ scale := by positivity
  have hq0 : 0 ≤ q := by
    by_contra hneg
    have hlt : q * 10 ^ scale < 0 := mul_neg_of_neg_of_pos (not_le.mp hneg) hpos
    rw [hq] at hlt
    exact absurd (Nat.cast_nonneg n) (not_le.mpr hlt)
  refine numeric_of_scaled n ?_ ?_
  · rw [abs_of_nonneg hq0, hq]
  · exact_mod_cast hn

lemma numeric_zero (precision scale : ℕ) (h : 0 < 10 ^ precision) :
    numeric precision scale 0 = .ok 0 :=
  numeric_of_digits 0 (by simp) h

/-- A stored value is stored as it is. -/
lemma numeric_idem (h : numeric precision scale q = .ok v) :
    numeric precision scale v = .ok v := by
  have hpos : (0 : ℚ) < 10 ^ scale := by positivity
  have hround : 0 ≤ ⌊|q| * 10 ^ scale + 1 / 2⌋ := Int.floor_nonneg.mpr (by positivity)
  obtain ⟨n, hn⟩ := Int.eq_ofNat_of_zero_le hround
  rw [numeric, hn] at h
  split at h
  · cases h
  rename_i hfits
  refine numeric_of_scaled n ?_ (not_le.mp hfits)
  have habs : |v| = n / 10 ^ scale := by
    rw [← Except.ok.inj h, abs_div, abs_of_pos hpos]
    split
    · simp
    · simp
  rw [habs, div_mul_cancel₀ _ hpos.ne']

/-- A stored value follows the order of the values. -/
lemma numeric_mono (hv : numeric precision scale p = .ok v)
    (hw : numeric precision scale q = .ok w) (h : p ≤ q) : v ≤ w := by
  have hpos : (0 : ℚ) < 10 ^ scale := by positivity
  have hround : ∀ {a b : ℚ}, a ≤ b → ⌊a * 10 ^ scale + 1 / 2⌋ ≤ ⌊b * 10 ^ scale + 1 / 2⌋ := by
    intro a b hab
    refine Int.floor_le_floor ?_
    have := mul_le_mul_of_nonneg_right hab hpos.le
    linarith
  have hnonneg : ∀ a : ℚ, 0 ≤ ⌊|a| * 10 ^ scale + 1 / 2⌋ := fun a =>
    Int.floor_nonneg.mpr (by positivity)
  rw [numeric] at hv hw
  split at hv
  · cases hv
  split at hw
  · cases hw
  rw [← Except.ok.inj hv, ← Except.ok.inj hw]
  refine div_le_div_of_nonneg_right ?_ hpos.le
  by_cases hp : p < 0
  · by_cases hq : q < 0
    · have hle := hround (show |q| ≤ |p| by rw [abs_of_neg hp, abs_of_neg hq]; linarith)
      rw [if_pos hp, if_pos hq]
      exact Int.cast_le.mpr (neg_le_neg hle)
    · have hp0 := hnonneg p
      have hq0 := hnonneg q
      rw [if_pos hp, if_neg hq]
      exact Int.cast_le.mpr ((neg_nonpos.mpr hp0).trans hq0)
  · have hq : ¬ q < 0 := by linarith
    have hle := hround (show |p| ≤ |q| by
      rw [abs_of_nonneg (not_lt.mp hp), abs_of_nonneg (not_lt.mp hq)]
      exact h)
    rw [if_neg hp, if_neg hq]
    exact Int.cast_le.mpr hle

/-- A value that is not negative is stored as one. -/
lemma numeric_nonneg (h : numeric precision scale q = .ok v)
    (hq : 0 ≤ q) : 0 ≤ v :=
  numeric_mono (numeric_zero precision scale (by positivity)) h hq

/-- A stored value is close to the value. -/
lemma abs_sub_numeric (h : numeric precision scale q = .ok v) :
    |v - q| ≤ 1 / 2 / 10 ^ scale := by
  have hpos : (0 : ℚ) < 10 ^ scale := by positivity
  have hle := Int.floor_le (|q| * 10 ^ scale + 1 / 2)
  have hlt := Int.lt_floor_add_one (|q| * 10 ^ scale + 1 / 2)
  rw [numeric] at h
  split at h
  · cases h
  · have hround : |(⌊|q| * 10 ^ scale + 1 / 2⌋ : ℚ) / 10 ^ scale - (|q|)| ≤ 1 / 2 / 10 ^ scale := by
      have hdiff : (⌊|q| * 10 ^ scale + 1 / 2⌋ : ℚ) / 10 ^ scale - |q|
          = (⌊|q| * 10 ^ scale + 1 / 2⌋ - |q| * 10 ^ scale) / 10 ^ scale := by
        rw [sub_div, mul_div_cancel_right₀ _ hpos.ne']
      rw [hdiff, abs_div, abs_of_pos hpos]
      refine div_le_div_of_nonneg_right (abs_le.mpr ⟨?_, ?_⟩) hpos.le
      · linarith
      · linarith
    rw [← Except.ok.inj h]
    by_cases hneg : q < 0
    · rw [abs_of_neg hneg] at hround ⊢
      rw [if_pos hneg, ← abs_neg]
      convert hround using 2
      push_cast
      ring
    · rw [abs_of_nonneg (not_lt.mp hneg)] at hround ⊢
      rwa [if_neg hneg]

end EclServer.Library
