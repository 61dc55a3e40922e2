import Mathlib.Tactic
import Mathlib.Algebra.Order.Field.GeomSum
import Mathlib.Order.Iterate

/-!
A balance that bears interest and is paid back in instalments.

* `pay`: one period, after which a balance is never negative. `iterate_pay_le`,
  `iterate_pay_eq_afterPayments`: what its iterates do where the instalment covers the
  interest, and where it does not.
* `balanceAfter`: the balance with an instalment at the end of every `m`-th period, and
  `balanceAfter_succ`, the recursion it solves.
* `peakBalance`: the highest balance of the first `n` periods, in closed form
  (`isGreatest_peakBalance`).
* `levelInstalment`, `levelBalance`: the instalment that pays a balance back in `n` periods, and
  what it leaves after `k` of them (`iterate_pay_levelInstalment`); where a period bears more
  interest than the instalment is made for, something is left (`iterate_pay_pos`).
-/

namespace EclServer.Library

variable {F : Type*} [Field F] [LinearOrder F] [IsStrictOrderedRing F]

/-! ### One period -/

/-- A balance after growth and an instalment. -/
def pay (growth instalment x : F) : F := max (x * growth - instalment) 0

variable {growth instalment x : F}

omit [IsStrictOrderedRing F] in
lemma pay_nonneg : 0 ≤ pay growth instalment x := le_max_right _ _

lemma monotone_pay (hgrowth : 0 ≤ growth) : Monotone (pay growth instalment) := by
  intro a b hab
  exact max_le_max_right 0 (sub_le_sub_right (mul_le_mul_of_nonneg_right hab hgrowth) _)

omit [IsStrictOrderedRing F] in
lemma iterate_pay_nonneg (hx : 0 ≤ x) (j : ℕ) : 0 ≤ (pay growth instalment)^[j] x := by
  cases j with
  | zero => exact hx
  | succ j =>
      rw [Function.iterate_succ_apply']
      exact pay_nonneg

/-- An instalment that covers the interest of the first period covers that of each. -/
lemma antitone_iterate_pay (hgrowth : 0 ≤ growth) (hx : 0 ≤ x)
    (hcover : x * growth - instalment ≤ x) : Antitone fun j => (pay growth instalment)^[j] x :=
  (monotone_pay hgrowth).antitone_iterate_of_map_le (max_le hcover hx)

/-- The balance after `n` instalments of which none clears it. -/
def afterPayments (growth instalment x : F) (n : ℕ) : F :=
  x * growth ^ n - instalment * ∑ k ∈ Finset.range n, growth ^ k

omit [LinearOrder F] [IsStrictOrderedRing F] in
lemma afterPayments_succ (n : ℕ) : afterPayments growth instalment x (n + 1)
    = afterPayments growth instalment x n * growth - instalment := by
  rw [afterPayments, afterPayments, geom_sum_succ, pow_succ]
  ring

/-- An instalment that does not cover the interest of the first period covers that of none, so
that the balance only grows. -/
lemma iterate_pay_eq_afterPayments (hgrowth : 1 ≤ growth) (hx : 0 ≤ x)
    (hgrows : x ≤ x * growth - instalment) (n : ℕ) :
    (pay growth instalment)^[n] x = afterPayments growth instalment x n
      ∧ x ≤ afterPayments growth instalment x n := by
  induction n with
  | zero => simp [afterPayments]
  | succ n ih =>
      obtain ⟨heq, hle⟩ := ih
      have hstep : x ≤ afterPayments growth instalment x n * growth - instalment := by
        have := mul_le_mul_of_nonneg_right hle (zero_le_one.trans hgrowth)
        linarith
      rw [Function.iterate_succ_apply', heq, afterPayments_succ, pay,
        max_eq_left (hx.trans hstep)]
      exact ⟨rfl, hstep⟩

lemma monotone_afterPayments (hgrowth : 1 ≤ growth) (hx : 0 ≤ x)
    (hgrows : x ≤ x * growth - instalment) : Monotone (afterPayments growth instalment x) := by
  have hiterate : afterPayments growth instalment x = fun n => (pay growth instalment)^[n] x :=
    funext fun n => (iterate_pay_eq_afterPayments hgrowth hx hgrows n).1.symm
  rw [hiterate]
  exact (monotone_pay (zero_le_one.trans hgrowth)).monotone_iterate_of_le_map
    (hgrows.trans (le_max_left _ _))

/-! ### Instalments every `m` periods -/

/-- The balance after `k` periods with an instalment at the end of every `m`-th. -/
def balanceAfter (m : ℕ) (growth instalment x : F) (k : ℕ) : F :=
  (pay (growth ^ m) instalment)^[k / m] x * growth ^ (k % m)

variable {m : ℕ}

omit [IsStrictOrderedRing F] in
@[simp] lemma balanceAfter_zero : balanceAfter m growth instalment x 0 = x := by
  simp [balanceAfter]

/-- **The recursion**: interest, and where a payment is due the instalment. -/
lemma balanceAfter_succ (hm : 0 < m) (hgrowth : 0 ≤ growth) (hx : 0 ≤ x) (k : ℕ) :
    balanceAfter m growth instalment x (k + 1)
      = max (balanceAfter m growth instalment x k * growth
          - if (k + 1) % m = 0 then instalment else 0) 0 := by
  by_cases hdue : (k + 1) % m = 0
  · have hdvd : m ∣ k + 1 := Nat.dvd_of_mod_eq_zero hdue
    have hmod : k % m + 1 = m := by
      have hsucc := Nat.succ_mod_succ_eq_zero_iff (a := k) (b := m - 1)
      rw [Nat.sub_add_cancel hm] at hsucc
      have hlast := hsucc.mp hdue
      omega
    have hpow : growth ^ (k % m) * growth = growth ^ m := by
      rw [← pow_succ, hmod]
    rw [balanceAfter, balanceAfter, Nat.succ_div, if_pos hdvd, if_pos hdue, hdue, pow_zero,
      mul_one, Function.iterate_succ_apply', mul_assoc, hpow, pay]
  · have hdvd : ¬ m ∣ k + 1 := fun h => hdue (Nat.mod_eq_zero_of_dvd h)
    have hdiv : (k + 1) / m = k / m := by
      rw [Nat.succ_div, if_neg hdvd, Nat.add_zero]
    have hmod : (k + 1) % m = k % m + 1 := by
      have hk := Nat.div_add_mod k m
      have hk1 := Nat.div_add_mod (k + 1) m
      rw [hdiv] at hk1
      omega
    have hnonneg : 0 ≤ (pay (growth ^ m) instalment)^[k / m] x * growth ^ (k % m + 1) :=
      mul_nonneg (iterate_pay_nonneg hx _) (pow_nonneg hgrowth _)
    rw [balanceAfter, balanceAfter, hdiv, if_neg hdue, hmod, sub_zero, mul_assoc, ← pow_succ,
      max_eq_left hnonneg]

/-! ### The highest balance -/

/-- The highest balance after one of the first `n` periods. Where an instalment covers the
interest the first periods count, else those of the last two instalments. -/
def peakBalance (m : ℕ) (growth instalment x : F) (n : ℕ) : F :=
  if x * growth ^ m - instalment ≤ x then
    if m = 1 then max (x * growth - instalment) 0 else x * growth ^ min n (m - 1)
  else
    max (afterPayments (growth ^ m) instalment x (n / m) * growth ^ (n % m))
      (if m ≤ n then afterPayments (growth ^ m) instalment x (n / m - 1) * growth ^ (m - 1) else 0)

variable {n : ℕ}

/-- The first periods, where an instalment covers the interest. -/
lemma isGreatest_of_covers (hm : 1 < m) (hn : 0 < n) (hgrowth : 1 ≤ growth) (hx : 0 ≤ x)
    (hcover : x * growth ^ m - instalment ≤ x) :
    IsGreatest ((fun k => balanceAfter m growth instalment x (k + 1)) '' Set.Iio n)
      (x * growth ^ min n (m - 1)) := by
  have hpow : 0 ≤ growth := zero_le_one.trans hgrowth
  constructor
  · have hlt : min n (m - 1) < m := by omega
    refine ⟨min n (m - 1) - 1, Set.mem_Iio.mpr (by omega), ?_⟩
    have hpos : min n (m - 1) - 1 + 1 = min n (m - 1) := by omega
    simp only [hpos]
    rw [balanceAfter, Nat.div_eq_of_lt hlt, Nat.mod_eq_of_lt hlt, Function.iterate_zero, id]
  · rintro _ ⟨k, hk, rfl⟩
    have hstart : (pay (growth ^ m) instalment)^[(k + 1) / m] x ≤ x :=
      antitone_iterate_pay (pow_nonneg hpow m) hx hcover (Nat.zero_le _)
    have hexp : (k + 1) % m ≤ min n (m - 1) := by
      have hlt : (k + 1) % m < m := Nat.mod_lt _ (by omega)
      have hle : (k + 1) % m ≤ k + 1 := Nat.mod_le _ _
      have hkn : k < n := hk
      omega
    exact mul_le_mul hstart (pow_le_pow_right₀ hgrowth hexp) (pow_nonneg hpow _) hx

/-- One instalment a period, that covers the interest. -/
lemma isGreatest_of_covers_one (hn : 0 < n) (hgrowth : 0 ≤ growth) (hx : 0 ≤ x)
    (hcover : x * growth - instalment ≤ x) :
    IsGreatest ((fun k => balanceAfter 1 growth instalment x (k + 1)) '' Set.Iio n)
      (max (x * growth - instalment) 0) := by
  have hiterate : ∀ k, balanceAfter 1 growth instalment x k = (pay growth instalment)^[k] x := by
    intro k
    rw [balanceAfter, pow_one, Nat.div_one, Nat.mod_one, pow_zero, mul_one]
  simp only [hiterate]
  constructor
  · exact ⟨0, Set.mem_Iio.mpr hn, rfl⟩
  · rintro _ ⟨k, -, rfl⟩
    exact antitone_iterate_pay hgrowth hx hcover (by omega : 1 ≤ k + 1)

section Grows

variable (hm : 0 < m) (hgrowth : 1 ≤ growth) (hx : 0 ≤ x)
  (hgrows : x ≤ x * growth ^ m - instalment)

include hgrowth hx hgrows

lemma afterPayments_nonneg (j : ℕ) : 0 ≤ afterPayments (growth ^ m) instalment x j :=
  hx.trans (iterate_pay_eq_afterPayments (one_le_pow₀ hgrowth) hx hgrows j).2

lemma balanceAfter_of_grows (k : ℕ) : balanceAfter m growth instalment x k
    = afterPayments (growth ^ m) instalment x (k / m) * growth ^ (k % m) := by
  rw [balanceAfter, (iterate_pay_eq_afterPayments (one_le_pow₀ hgrowth) hx hgrows _).1]

include hm

/-- No period is above the last one and the one before the last instalment. -/
lemma balanceAfter_le_of_grows {k : ℕ} (hk : k ≤ n) : balanceAfter m growth instalment x k
    ≤ max (afterPayments (growth ^ m) instalment x (n / m) * growth ^ (n % m))
      (if m ≤ n then afterPayments (growth ^ m) instalment x (n / m - 1) * growth ^ (m - 1)
        else 0) := by
  have hpow : 0 ≤ growth := zero_le_one.trans hgrowth
  have hmono := monotone_afterPayments (one_le_pow₀ hgrowth) hx hgrows
  have hdiv : k / m ≤ n / m := Nat.div_le_div_right hk
  rw [balanceAfter_of_grows hgrowth hx hgrows]
  rcases hdiv.lt_or_eq with hlt | hsame
  · have hmn : m ≤ n := by
      by_contra hnot
      rw [Nat.div_eq_of_lt (by omega : n < m)] at hlt
      exact absurd hlt (Nat.not_lt_zero _)
    have hexp : k % m ≤ m - 1 := by
      have := Nat.mod_lt k hm
      omega
    refine le_max_of_le_right ?_
    rw [if_pos hmn]
    exact mul_le_mul (hmono (Nat.le_sub_one_of_lt hlt)) (pow_le_pow_right₀ hgrowth hexp)
      (pow_nonneg hpow _) (afterPayments_nonneg hgrowth hx hgrows _)
  · have hexp : k % m ≤ n % m := by
      have hk' := Nat.div_add_mod k m
      have hn' := Nat.div_add_mod n m
      rw [hsame] at hk'
      omega
    refine le_max_of_le_left ?_
    rw [hsame]
    exact mul_le_mul_of_nonneg_left (pow_le_pow_right₀ hgrowth hexp)
      (afterPayments_nonneg hgrowth hx hgrows _)

/-- The period before the last instalment, where instalments are not due every period. -/
lemma balanceAfter_before_last (hone : m ≠ 1) (hmn : m ≤ n) :
    m * (n / m) - 1 ≤ n ∧ 0 < m * (n / m) - 1 ∧
      balanceAfter m growth instalment x (m * (n / m) - 1)
        = afterPayments (growth ^ m) instalment x (n / m - 1) * growth ^ (m - 1) := by
  have hdiv : 0 < n / m := Nat.div_pos hmn hm
  have hbound : m * (n / m) ≤ n := Nat.mul_div_le n m
  have hsplit : m * (n / m) = m * (n / m - 1) + m := by
    rw [← Nat.mul_succ]
    congr 1
    omega
  have hk : m * (n / m) - 1 = (m - 1) + m * (n / m - 1) := by omega
  refine ⟨by omega, by omega, ?_⟩
  rw [balanceAfter_of_grows hgrowth hx hgrows, hk, Nat.add_mul_div_left _ _ hm,
    Nat.add_mul_mod_self_left, Nat.div_eq_of_lt (by omega), Nat.mod_eq_of_lt (by omega),
    Nat.zero_add]

/-- The last periods, where an instalment does not cover the interest. -/
lemma isGreatest_of_grows (hn : 0 < n) :
    IsGreatest ((fun k => balanceAfter m growth instalment x (k + 1)) '' Set.Iio n)
      (max (afterPayments (growth ^ m) instalment x (n / m) * growth ^ (n % m))
        (if m ≤ n then afterPayments (growth ^ m) instalment x (n / m - 1) * growth ^ (m - 1)
          else 0)) := by
  have hperiod : ∀ k, 0 < k → k ≤ n → balanceAfter m growth instalment x k
      ∈ (fun k => balanceAfter m growth instalment x (k + 1)) '' Set.Iio n := by
    intro k hk hkn
    refine ⟨k - 1, Set.mem_Iio.mpr (by omega), ?_⟩
    simp only [Nat.sub_add_cancel hk]
  have hlast := balanceAfter_of_grows hgrowth hx hgrows n
  have hlast_nonneg : 0 ≤ afterPayments (growth ^ m) instalment x (n / m) * growth ^ (n % m) :=
    mul_nonneg (afterPayments_nonneg hgrowth hx hgrows _)
      (pow_nonneg (zero_le_one.trans hgrowth) _)
  constructor
  · split_ifs with hmn
    · by_cases hone : m = 1
      · -- with an instalment every period the last balance is the highest
        have hmono := monotone_afterPayments (one_le_pow₀ hgrowth) hx hgrows
          (Nat.sub_le (n / m) 1)
        have hle : afterPayments (growth ^ m) instalment x (n / m - 1) * growth ^ (m - 1)
            ≤ afterPayments (growth ^ m) instalment x (n / m) * growth ^ (n % m) := by
          have hexp : m - 1 = 0 := by omega
          have hmod : n % m = 0 := by rw [hone, Nat.mod_one]
          rw [hexp, hmod, pow_zero, mul_one, mul_one]
          exact hmono
        rw [max_eq_left hle, ← hlast]
        exact hperiod n hn le_rfl
      · obtain ⟨hle, hpos, heq⟩ := balanceAfter_before_last hm hgrowth hx hgrows hone hmn
        rcases max_choice (afterPayments (growth ^ m) instalment x (n / m) * growth ^ (n % m))
          (afterPayments (growth ^ m) instalment x (n / m - 1) * growth ^ (m - 1)) with h | h
        · rw [h, ← hlast]
          exact hperiod n hn le_rfl
        · rw [h, ← heq]
          exact hperiod _ hpos hle
    · rw [max_eq_left hlast_nonneg, ← hlast]
      exact hperiod n hn le_rfl
  · rintro _ ⟨k, hk, rfl⟩
    exact balanceAfter_le_of_grows hm hgrowth hx hgrows hk

end Grows

/-- **The highest balance** of the first periods. -/
theorem isGreatest_peakBalance (hm : 0 < m) (hn : 0 < n) (hgrowth : 1 ≤ growth) (hx : 0 ≤ x) :
    IsGreatest ((fun k => balanceAfter m growth instalment x (k + 1)) '' Set.Iio n)
      (peakBalance m growth instalment x n) := by
  rw [peakBalance]
  split_ifs with hcover hone
  · subst hone
    rw [pow_one] at hcover
    exact isGreatest_of_covers_one hn (zero_le_one.trans hgrowth) hx hcover
  · exact isGreatest_of_covers (by omega) hn hgrowth hx hcover
  · have h := isGreatest_of_grows hm hgrowth hx (not_le.mp hcover).le hn
    rwa [if_pos ‹_›] at h
  · have h := isGreatest_of_grows hm hgrowth hx (not_le.mp hcover).le hn
    rwa [if_neg ‹_›] at h

/-! ### Level instalments -/

/-- The instalment that pays `x` back in `n` periods at `rate`, the annuity formula. -/
def levelInstalment (rate x : F) (n : ℕ) : F :=
  if rate = 0 then x / n else x * (1 + rate) ^ n * rate / ((1 + rate) ^ n - 1)

/-- What is left of it after `k` periods. -/
def levelBalance (rate x : F) (n k : ℕ) : F :=
  if rate = 0 then x * (1 - k / n)
  else x * ((1 + rate) ^ n - (1 + rate) ^ k) / ((1 + rate) ^ n - 1)

section Level

variable {rate : F} (hrate : 0 ≤ rate) (hx : 0 ≤ x) (hn : 0 < n)

include hrate hn in
lemma compound_sub_one_pos (hne : rate ≠ 0) : 0 < (1 + rate) ^ n - 1 := by
  have hgrowth : 1 < 1 + rate := lt_add_of_pos_right 1 (lt_of_le_of_ne hrate (Ne.symm hne))
  exact sub_pos.mpr (one_lt_pow₀ hgrowth (by omega))

include hrate hn in
lemma levelBalance_zero : levelBalance rate x n 0 = x := by
  rw [levelBalance]
  split_ifs with hzero
  · simp
  · rw [pow_zero, mul_div_assoc, div_self (compound_sub_one_pos hrate hn hzero).ne', mul_one]

include hn in
lemma levelBalance_self : levelBalance rate x n n = 0 := by
  have hcast : (n : F) ≠ 0 := by exact_mod_cast hn.ne'
  rw [levelBalance]
  split_ifs
  · rw [div_self hcast, sub_self, mul_zero]
  · rw [sub_self, mul_zero, zero_div]

include hrate hn in
/-- Interest and the instalment. -/
lemma levelBalance_succ (k : ℕ) : levelBalance rate x n (k + 1)
    = levelBalance rate x n k * (1 + rate) - levelInstalment rate x n := by
  rw [levelBalance, levelBalance, levelInstalment]
  split_ifs with hzero
  · rw [hzero, Nat.cast_succ]
    ring
  · have hne := (compound_sub_one_pos hrate hn hzero).ne'
    field_simp
    ring

include hrate hx hn in
lemma antitone_levelBalance : Antitone (levelBalance rate x n) := by
  refine antitone_nat_of_succ_le fun k => ?_
  rw [levelBalance, levelBalance]
  split_ifs with hzero
  · refine mul_le_mul_of_nonneg_left (sub_le_sub_left ?_ 1) hx
    exact div_le_div_of_nonneg_right (by exact_mod_cast Nat.le_succ k) (Nat.cast_nonneg n)
  · refine div_le_div_of_nonneg_right ?_ (compound_sub_one_pos hrate hn hzero).le
    refine mul_le_mul_of_nonneg_left (sub_le_sub_left ?_ _) hx
    exact pow_le_pow_right₀ (le_add_of_nonneg_right hrate) (Nat.le_succ k)

include hrate hx hn in
/-- Until the last instalment nothing is overpaid. -/
lemma levelBalance_nonneg {k : ℕ} (hk : k ≤ n) : 0 ≤ levelBalance rate x n k := by
  have hself : levelBalance rate x n n = 0 := levelBalance_self hn
  rw [← hself]
  exact antitone_levelBalance hrate hx hn hk

include hrate hn in
/-- Before the last instalment something is left. -/
lemma levelBalance_pos (hpos : 0 < x) {k : ℕ} (hk : k < n) : 0 < levelBalance rate x n k := by
  rw [levelBalance]
  split_ifs with hzero
  · have hcast : (0 : F) < n := by exact_mod_cast hn
    have hlt : (k : F) < n := by exact_mod_cast hk
    exact mul_pos hpos (sub_pos.mpr ((div_lt_one hcast).mpr hlt))
  · have hgrowth : 1 < 1 + rate := lt_add_of_pos_right 1 (lt_of_le_of_ne hrate (Ne.symm hzero))
    exact div_pos (mul_pos hpos (sub_pos.mpr (pow_lt_pow_right₀ hgrowth hk)))
      (compound_sub_one_pos hrate hn hzero)

include hrate hx hn in
lemma levelInstalment_nonneg : 0 ≤ levelInstalment rate x n := by
  rw [levelInstalment]
  split_ifs with hzero
  · exact div_nonneg hx (Nat.cast_nonneg n)
  · have hgrowth : 0 ≤ (1 + rate) ^ n := pow_nonneg (by linarith) n
    exact div_nonneg (mul_nonneg (mul_nonneg hx hgrowth) hrate)
      (compound_sub_one_pos hrate hn hzero).le

include hrate hx hn in
/-- **Level instalments** pay a balance back with the last of them, and not before. -/
lemma iterate_pay_levelInstalment {k : ℕ} (hk : k ≤ n) :
    (pay (1 + rate) (levelInstalment rate x n))^[k] x = levelBalance rate x n k := by
  induction k with
  | zero => exact (levelBalance_zero hrate hn).symm
  | succ k ih =>
      rw [Function.iterate_succ_apply', ih (by omega), pay, ← levelBalance_succ hrate hn]
      exact max_eq_left (levelBalance_nonneg hrate hx hn hk)

/-- A balance that is paid back stays so. -/
lemma iterate_pay_of_zero (hinstalment : 0 ≤ instalment) (k : ℕ) :
    (pay growth instalment)^[k] 0 = 0 := by
  induction k with
  | zero => rfl
  | succ k ih =>
      rw [Function.iterate_succ_apply', ih, pay, zero_mul, zero_sub]
      exact max_eq_right (neg_nonpos.mpr hinstalment)

include hrate hx hn in
lemma iterate_pay_after {k : ℕ} (hk : n ≤ k) :
    (pay (1 + rate) (levelInstalment rate x n))^[k] x = 0 := by
  obtain ⟨j, rfl⟩ := Nat.exists_eq_add_of_le hk
  rw [Nat.add_comm, Function.iterate_add_apply, iterate_pay_levelInstalment hrate hx hn le_rfl,
    levelBalance_self hn]
  exact iterate_pay_of_zero (levelInstalment_nonneg hrate hx hn) j

include hrate hn in
/-- **More interest than the instalment is made for** leaves something after the last of them. -/
lemma iterate_pay_pos (hpos : 0 < x) (hgrowth : 1 + rate < growth) :
    0 < (pay growth (levelInstalment rate x n))^[n] x := by
  have hmore : ∀ k ≤ n, levelBalance rate x n k ≤ (pay growth (levelInstalment rate x n))^[k] x ∧
      (0 < k → levelBalance rate x n k < (pay growth (levelInstalment rate x n))^[k] x) := by
    intro k hk
    induction k with
    | zero => exact ⟨(levelBalance_zero hrate hn).le, fun h => absurd h (lt_irrefl 0)⟩
    | succ k ih =>
        obtain ⟨hle, -⟩ := ih (by omega)
        have hleft : 0 < levelBalance rate x n k := levelBalance_pos hrate hn hpos (by omega)
        have hlt : levelBalance rate x n (k + 1)
            < (pay growth (levelInstalment rate x n))^[k + 1] x := by
          rw [Function.iterate_succ_apply', levelBalance_succ hrate hn]
          refine lt_of_lt_of_le (sub_lt_sub_right ?_ _) (le_max_left _ _)
          calc levelBalance rate x n k * (1 + rate)
              < levelBalance rate x n k * growth := mul_lt_mul_of_pos_left hgrowth hleft
            _ ≤ (pay growth (levelInstalment rate x n))^[k] x * growth :=
                mul_le_mul_of_nonneg_right hle (by linarith)
        exact ⟨hlt.le, fun _ => hlt⟩
  have hself : levelBalance rate x n n = 0 := levelBalance_self hn
  rw [← hself]
  exact (hmore n le_rfl).2 hn

end Level

end EclServer.Library
