import EclServer.Engine.EclBound
import EclServer.Engine.PooledCollateral

/-!
Time in the two engines.

* `monthlyFactor`: the factor of `compute_ead` for a loss in a number of months.
* `DiscountsAlike`, `discounts_alike_iff`: `compute_lgd` has it for a recovery in as many months
  where there is no rate or no time, and only there. Elsewhere it takes the months for years.
* `OutLoan.sum_le`: so its sums are at most those of the monthly factors.
-/

namespace EclServer.Engine

open EclServer.Library

/-- A month at a twelfth of the rate. -/
def monthlyFactor (e : ℚ) (t : ℕ) : ℚ := (1 + e / 12) ^ (-(t : ℤ))

/-- The factor of `compute_ead`, with its branch for a loss that is not in the future. -/
lemma discountFactor_eq (e : ℚ) (t : ℕ) : discountFactor (some e) t = some (monthlyFactor e t) := by
  rw [discountFactor, monthlyFactor]
  split_ifs with ht
  · rfl
  · obtain rfl : t = 0 := by omega
    rw [Nat.cast_zero, neg_zero, zpow_zero]

/-- For all types of the time `t`, `compute_lgd` discounts what the haircut leaves by the factor
that `compute_ead` has at the same rate and time. -/
def DiscountsAlike (e : ℚ) (t : ℕ) : Prop :=
  ∀ cfg : CollateralConfig, cfg.timeToRealize = t →
    collateralDiscount cfg (some e) = (discountFactor (some e) t).map fun f => (1 - cfg.haircut) * f

section

variable {e : ℚ} {t : ℕ}

lemma monthlyBase_pos (he : 0 ≤ e) : 0 < 1 + e / 12 := by
  have hrate : 0 ≤ e / 12 := by positivity
  linarith

/-- **Years discount more than months.** -/
lemma yearlyFactor_lt (he : 0 < e) (ht : t ≠ 0) : (1 + e) ^ (-(t : ℤ)) < monthlyFactor e t := by
  have hbase : 0 < 1 + e / 12 := monthlyBase_pos he.le
  have hlt : 1 + e / 12 < 1 + e := by linarith
  have hpow : (1 + e / 12) ^ t < (1 + e) ^ t := pow_lt_pow_left₀ hlt hbase.le ht
  rw [monthlyFactor, zpow_neg, zpow_neg, zpow_natCast, zpow_natCast]
  exact (inv_lt_inv₀ (pow_pos (hbase.trans hlt) t) (pow_pos hbase t)).mpr hpow

lemma yearlyFactor_le (he : 0 ≤ e) (t : ℕ) : (1 + e) ^ (-(t : ℤ)) ≤ monthlyFactor e t := by
  rcases he.eq_or_lt with rfl | hpos
  · rw [monthlyFactor, zero_div]
  by_cases ht : t = 0
  · rw [ht, monthlyFactor, Nat.cast_zero, neg_zero, zpow_zero, zpow_zero]
  · exact (yearlyFactor_lt hpos ht).le

end

/-- **Where the engines discount time alike**: where the rate or the time is zero. One engine takes
the time as the exponent of the yearly rate, the other as a number of months at a twelfth of it. -/
theorem discounts_alike_iff {e : ℚ} (he : 0 ≤ e) (t : ℕ) :
    DiscountsAlike e t ↔ e = 0 ∨ t = 0 := by
  constructor
  · intro h
    by_contra hnone
    obtain ⟨hrate, htime⟩ := not_or.mp hnone
    -- a type without haircut shows the factor alone
    have hfactor := h { name := "", haircut := 0, timeToRealize := t } rfl
    rw [collateralDiscount_of_nonneg _ he, discountFactor_eq, Option.map_some] at hfactor
    have heq := Option.some.inj hfactor
    rw [sub_zero, one_mul, one_mul] at heq
    exact (yearlyFactor_lt (lt_of_le_of_ne he (Ne.symm hrate)) htime).ne heq
  · intro h cfg hcfg
    rw [collateralDiscount_of_nonneg cfg he, discountFactor_eq, hcfg, Option.map_some,
      monthlyFactor]
    rcases h with rfl | rfl
    · rw [zero_div]
    · rw [Nat.cast_zero, neg_zero, zpow_zero, zpow_zero]

/-- At twelve percent, twelve months are not discounted alike. -/
theorem discounts_alike_sample : ¬ DiscountsAlike (12 / 100) 12 := by
  rw [discounts_alike_iff (by norm_num)]
  norm_num

/-- A motor vehicle of the test data, six months at twelve percent: six years for `compute_lgd`. -/
theorem vehicle_discounted_by_years :
    ¬ DiscountsAlike (12 / 100) 6 ∧
      collateralDiscount ⟨"Motor Vehicle", 35 / 100, 6⟩ (some (12 / 100))
        = some (65 / 100 * (112 / 100) ^ (-6 : ℤ)) ∧
      discountFactor (some (12 / 100)) 6 = some ((101 / 100) ^ (-6 : ℤ)) := by
  have hyears : collateralDiscount ⟨"Motor Vehicle", 35 / 100, 6⟩ (some (12 / 100))
      = some (65 / 100 * (112 / 100) ^ (-6 : ℤ)) := by
    rw [collateralDiscount_of_nonneg _ (by norm_num)]
    norm_num
  have hmonths : discountFactor (some (12 / 100)) 6 = some ((101 / 100) ^ (-6 : ℤ)) := by
    rw [discountFactor_eq, monthlyFactor]
    norm_num
  refine ⟨fun h => ?_, hyears, hmonths⟩
  have heq := h ⟨"Motor Vehicle", 35 / 100, 6⟩ rfl
  rw [hyears, hmonths, Option.map_some] at heq
  exact absurd (Option.some.inj heq) (by norm_num)

/-- **The sum of a loan** is at most what it were with monthly factors. -/
lemma OutLoan.sum_le {df : Frame} {config : List CollateralConfig} {r y : Record} {e : ℚ}
    (h : OutLoan df config r y) (hnodup : (config.map (·.name)).Nodup)
    (hrate : r.cell (resolveEirColumn df) = .num e) (he : 0 ≤ e) (hshare : 0 ≤ loanShare df r)
    (hvalues : ∀ cfg ∈ config, 0 ≤ statedValue df cfg r)
    (hconfig : ∀ cfg ∈ config, cfg.haircut ≤ 1 ∧ 0 ≤ cfg.timeToRealize) :
    ∃ s, y.cell lgdSumCol = .num s ∧
      s ≤ (config.map fun cfg => loanShare df r * statedValue df cfg r
        * ((1 - cfg.haircut) * monthlyFactor e cfg.timeToRealize.toNat)).sum := by
  have hsum := h.sum_eq
  rw [discountedTotal_eq hnodup hrate he] at hsum
  refine ⟨_, hsum, List.sum_le_sum fun cfg hcfg => ?_⟩
  obtain ⟨hhaircut, htime⟩ := hconfig cfg hcfg
  have hfactor := yearlyFactor_le he cfg.timeToRealize.toNat
  rw [Int.toNat_of_nonneg htime] at hfactor
  have hvalue : 0 ≤ loanShare df r * statedValue df cfg r := mul_nonneg hshare (hvalues cfg hcfg)
  exact mul_le_mul_of_nonneg_left
    (mul_le_mul_of_nonneg_left hfactor (sub_nonneg.mpr hhaircut)) hvalue

end EclServer.Engine
