import Mathlib.Algebra.BigOperators.Group.List.Lemmas
import Mathlib.Algebra.BigOperators.Ring.List
import Mathlib.Algebra.Order.BigOperators.Group.List
import Mathlib.Algebra.Order.Field.Basic
import Mathlib.Tactic.Linarith

/-!
Shares of a total.

* `share`: the share of a member in the total of its list. `sum_share`: the shares add up to one.
* `sum_share_mul_mem`: an average that is weighted by the shares lies between the bounds of what
  it is made of.
-/

namespace EclServer.Library

variable {α K : Type*} [Field K] (amount : α → K) (l : List α)

/-- The share of a member in the total. -/
def share (a : α) : K := amount a / (l.map amount).sum

variable {amount l}

lemma sum_share (htotal : (l.map amount).sum ≠ 0) : (l.map (share amount l)).sum = 1 := by
  have hdiv : l.map (share amount l) = l.map fun a => amount a * ((l.map amount).sum)⁻¹ :=
    List.map_congr_left fun a _ => div_eq_mul_inv _ _
  rw [hdiv, List.sum_map_mul_right, mul_inv_cancel₀ htotal]

variable [LinearOrder K] [IsStrictOrderedRing K]

lemma share_nonneg (hamount : ∀ a ∈ l, 0 ≤ amount a) {a : α} (ha : a ∈ l) :
    0 ≤ share amount l a := by
  refine div_nonneg (hamount a ha) (List.sum_nonneg fun x hx => ?_)
  obtain ⟨b, hb, rfl⟩ := List.mem_map.mp hx
  exact hamount b hb

/-- **An average by shares** lies between the bounds. -/
lemma sum_share_mul_mem {value : α → K} {lo hi : K} (hamount : ∀ a ∈ l, 0 ≤ amount a)
    (htotal : 0 < (l.map amount).sum) (hvalue : ∀ a ∈ l, lo ≤ value a ∧ value a ≤ hi) :
    lo ≤ (l.map fun a => share amount l a * value a).sum ∧
      (l.map fun a => share amount l a * value a).sum ≤ hi := by
  have hconst : ∀ x : K, (l.map fun a => share amount l a * x).sum = x := by
    intro x
    rw [List.sum_map_mul_right, sum_share htotal.ne', one_mul]
  constructor
  · calc lo = (l.map fun a => share amount l a * lo).sum := (hconst lo).symm
      _ ≤ _ := List.sum_le_sum fun a ha =>
          mul_le_mul_of_nonneg_left (hvalue a ha).1 (share_nonneg hamount ha)
  · calc (l.map fun a => share amount l a * value a).sum
        ≤ (l.map fun a => share amount l a * hi).sum := List.sum_le_sum fun a ha =>
          mul_le_mul_of_nonneg_left (hvalue a ha).2 (share_nonneg hamount ha)
      _ = hi := hconst hi

end EclServer.Library
