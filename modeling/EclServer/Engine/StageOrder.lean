import EclServer.Engine.PdTable

/-!
The lifetime PDs of a month are in the order of the stages they start from.

* `stage3At_one_le_two`: Stage 1 does not default directly, so it follows Stage 2 by a month.
* `rowsAt`, `rowsAt_table`: the one row of a segment, a starting stage and a month.
* `stage_ordering`: the order in the table of `compute_pd`.
-/

namespace EclServer.Engine

open EclServer.Library

section

variable {env : PyEnv} {working : List PdTransition} {segment : Cell}

/-- The normalised matrix does not lead from Stage 1 to Stage 3. -/
lemma normalizedOf_direct : normalizedOf env working segment .stage1 .stage3 = 0 := rfl

/-- **The order of the first two stages.** The induction is on the months: from Stage 1 the
next stage is 1 or 2, and both have defaulted with at most the probability of Stage 2 so far,
which does not fall. -/
lemma stage3At_one_le_two (h : AmountsNonneg env working) (n : ℕ) :
    stage3At env working segment .stage1 n ≤ stage3At env working segment .stage2 n := by
  induction n with
  | zero =>
      rw [stage3At, stage3At, pow_zero, Matrix.one_apply_ne (by decide),
        Matrix.one_apply_ne (by decide)]
  | succ n ih =>
      have hfollow : ∀ j, normalizedOf env working segment .stage1 j ≠ 0 →
          stage3At env working segment j n ≤ stage3At env working segment .stage2 n := by
        intro j hj
        cases j with
        | stage1 => exact ih
        | stage2 => exact le_rfl
        | stage3 => exact absurd normalizedOf_direct hj
      calc stage3At env working segment .stage1 (n + 1)
          ≤ stage3At env working segment .stage2 n :=
            pow_succ_apply_le (normalizedOf_mem h segment) (stage3At_mem h n).1 hfollow
        _ ≤ stage3At env working segment .stage2 (n + 1) := stage3At_mono h (Nat.le_succ n)

end

/-- The rows of a segment, a starting stage and a month. -/
def rowsAt (table : List PdTableRow) (segment : Cell) (transition : LoanStage) (month : ℕ) :
    List PdTableRow :=
  table.filter fun r => r.groupKey = (segment, transition) ∧ r.month = month

section

variable {env : PyEnv} {rows : List PdRow} {segment : Cell} {st : LoanStage} {n : ℕ}

/-- There is one, and it is the row of that month. -/
lemma rowsAt_table (hsegment : segment ∈ segmentsOf env (nextStaging rows)) (hn : n ∈ pdMonths) :
    rowsAt (pdOutput env rows).table segment st n
      = [tableRow env (fun s => cureRate (segmentMatrices env (nextStaging rows) s).proportions)
          (nextStaging rows) segment st n] := by
  have hsplit : ∀ r : PdTableRow, decide (r.groupKey = (segment, st) ∧ r.month = n)
      = (decide (r.month = n) && decide (r.groupKey = (segment, st))) := by
    intro r
    rw [Bool.decide_and, Bool.and_comm]
  have hmonth : pdMonths.filter (fun m => m = n) = [n] :=
    filter_eq_singleton id (by rw [List.map_id]; exact List.nodup_range') hn
  rw [rowsAt]
  simp only [hsplit]
  rw [← List.filter_filter, filter_table hsegment, List.filter_map]
  exact congrArg _ hmonth

/-- **Stage ordering of lifetime PD**: for each segment and each of the months 1 to 299, Stage 3
is reached no more surely from Stage 1 than from Stage 2, no more surely from Stage 2 than from
Stage 3, and from Stage 3 for certain. -/
theorem stage_ordering {df : Frame} {out : PdOutput} (h : computePd env df = .ok out)
    (hamounts : NonnegAmounts env (df.column "Loan Amount")) :
    ∀ s ∈ out.intermediates, ∀ n, 1 ≤ n → n ≤ 299 → ∃ r₁ r₂ r₃,
      rowsAt out.table s.segment .stage1 n = [r₁] ∧ rowsAt out.table s.segment .stage2 n = [r₂] ∧
      rowsAt out.table s.segment .stage3 n = [r₃] ∧
      r₁.stage3Prob ≤ r₂.stage3Prob ∧ r₂.stage3Prob ≤ r₃.stage3Prob ∧ r₃.stage3Prob = 1 := by
  obtain ⟨rows, hread, -, rfl⟩ := readPdRows_of_computePd h
  have hnonneg := amountsNonneg_nextStaging (loanAmount_nonneg hread hamounts)
  intro s hs n hlow hhigh
  obtain ⟨segment, hsegment, rfl⟩ := List.mem_map.mp hs
  have hn : n ∈ pdMonths := mem_pdMonths.mpr ⟨hlow, hhigh⟩
  have hthree := @stage3At_stage3 env (nextStaging rows) segment n
  refine ⟨_, _, _, rowsAt_table hsegment hn, rowsAt_table hsegment hn, rowsAt_table hsegment hn,
    stage3At_one_le_two hnonneg n, ?_, hthree⟩
  change stage3At env (nextStaging rows) segment .stage2 n
    ≤ stage3At env (nextStaging rows) segment .stage3 n
  rw [hthree]
  exact (stage3At_mem hnonneg n).2

/-- The sheet with two loans: their segment in the first month. -/
theorem stage_ordering_sample :
    ∃ s ∈ (pdOutput plainEnv samplePdRows).intermediates, ∃ r₁ r₂ r₃,
      rowsAt (pdOutput plainEnv samplePdRows).table s.segment .stage1 1 = [r₁] ∧
      rowsAt (pdOutput plainEnv samplePdRows).table s.segment .stage2 1 = [r₂] ∧
      rowsAt (pdOutput plainEnv samplePdRows).table s.segment .stage3 1 = [r₃] ∧
      r₁.stage3Prob ≤ r₂.stage3Prob ∧ r₂.stage3Prob ≤ r₃.stage3Prob ∧ r₃.stage3Prob = 1 := by
  have hsome : (pdOutput plainEnv samplePdRows).intermediates ≠ [] := by
    have hsegments : segmentsOf plainEnv (nextStaging samplePdRows) ≠ [] := by
      rw [segmentsOf_sample]
      exact List.cons_ne_nil _ _
    exact mt List.map_eq_nil_iff.mp hsegments
  obtain ⟨s, hs⟩ := List.exists_mem_of_ne_nil _ hsome
  exact ⟨s, hs, stage_ordering computePd_sample samplePdFrame_amounts s hs 1 (le_refl 1)
    (by decide)⟩

end

end EclServer.Engine
