import Mathlib.Tactic
import Mathlib.LinearAlgebra.Matrix.Stochastic

/-!
Sub-stochastic matrices: non-negative entries, rows that sum to at most one.

* `subStochastic R n`: they form a submonoid, so every power of one is one.
* `SubStochastic.entry_le_one`: each entry is at most one.
* `Absorbing`: a state that is left with probability zero. It stays so in every power, and
  the probability to have reached it never falls (`pow_apply_absorbing_mono`).
* `pow_succ_apply_le`: what bounds the states that can follow bounds the state before them.
-/

namespace EclServer.Library

open Finset Matrix

variable {R n : Type*} [Fintype n] [DecidableEq n]
variable [CommSemiring R] [PartialOrder R] [IsOrderedRing R]

/-- The sub-stochastic matrices. -/
def subStochastic (R n : Type*) [Fintype n] [DecidableEq n] [CommSemiring R] [PartialOrder R]
    [IsOrderedRing R] : Submonoid (Matrix n n R) where
  carrier := {M | (∀ i j, 0 ≤ M i j) ∧ ∀ i, ∑ j, M i j ≤ 1}
  mul_mem' {M N} hM hN := by
    refine ⟨fun i j => sum_nonneg fun k _ => mul_nonneg (hM.1 i k) (hN.1 k j), fun i => ?_⟩
    calc ∑ j, (M * N) i j = ∑ k, M i k * ∑ j, N k j := by
          simp only [mul_apply, mul_sum]
          exact sum_comm
      _ ≤ ∑ k, M i k * 1 := sum_le_sum fun k _ => mul_le_mul_of_nonneg_left (hN.2 k) (hM.1 i k)
      _ ≤ 1 := by simpa using hM.2 i
  one_mem' := by
    refine ⟨fun i j => ?_, fun i => ?_⟩
    · rw [one_apply]
      split
      · exact zero_le_one
      · exact le_rfl
    · simp [one_apply]

variable {M : Matrix n n R}

namespace SubStochastic

lemma entry_nonneg (hM : M ∈ subStochastic R n) (i j : n) : 0 ≤ M i j := hM.1 i j

lemma entry_le_one (hM : M ∈ subStochastic R n) (i j : n) : M i j ≤ 1 :=
  (single_le_sum (fun k _ => hM.1 i k) (mem_univ j)).trans (hM.2 i)

end SubStochastic

/-- A bound on the entries of the states that can follow `i` bounds the entry of `i` a step
earlier. -/
lemma pow_succ_apply_le (hM : M ∈ subStochastic R n) {i a : n} {k : ℕ} {c : R} (hc : 0 ≤ c)
    (hfollow : ∀ j, M i j ≠ 0 → (M ^ k) j a ≤ c) : (M ^ (k + 1)) i a ≤ c := by
  have hterm : ∀ j, M i j * (M ^ k) j a ≤ M i j * c := by
    intro j
    by_cases hzero : M i j = 0
    · rw [hzero, zero_mul, zero_mul]
    · exact mul_le_mul_of_nonneg_left (hfollow j hzero) (hM.1 i j)
  calc (M ^ (k + 1)) i a = ∑ j, M i j * (M ^ k) j a := by rw [pow_succ', mul_apply]
    _ ≤ ∑ j, M i j * c := sum_le_sum fun j _ => hterm j
    _ = (∑ j, M i j) * c := (sum_mul ..).symm
    _ ≤ c := mul_le_of_le_one_left hc (hM.2 i)

/-- A state that the matrix never leaves. -/
def Absorbing (M : Matrix n n R) (a : n) : Prop := ∀ j, M a j = if j = a then 1 else 0

section Absorbing

variable {a : n}

omit [PartialOrder R] [IsOrderedRing R] in
/-- An absorbing state is absorbing for every power. -/
lemma Absorbing.pow (h : Absorbing M a) (k : ℕ) : Absorbing (M ^ k) a := by
  induction k with
  | zero =>
      intro j
      rw [pow_zero, one_apply]
      simp [eq_comm]
  | succ k ih =>
      intro j
      rw [pow_succ, mul_apply]
      simp [ih _, h j]

/-- The probability to have reached an absorbing state does not fall with the time. -/
lemma pow_apply_absorbing_le_succ (hM : M ∈ subStochastic R n) (h : Absorbing M a) (i : n)
    (k : ℕ) : (M ^ k) i a ≤ (M ^ (k + 1)) i a := by
  have hk := pow_mem hM k
  have hterm : (M ^ k) i a = (M ^ k) i a * M a a := by simp [h a]
  rw [pow_succ, mul_apply, hterm]
  exact single_le_sum (f := fun j => (M ^ k) i j * M j a)
    (fun j _ => mul_nonneg (hk.1 i j) (hM.1 j a)) (mem_univ a)

lemma pow_apply_absorbing_mono (hM : M ∈ subStochastic R n) (h : Absorbing M a) (i : n) :
    Monotone fun k => (M ^ k) i a :=
  monotone_nat_of_le_succ fun k => pow_apply_absorbing_le_succ hM h i k

end Absorbing

end EclServer.Library
