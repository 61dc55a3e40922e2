import Mathlib.Algebra.Order.Ring.Star
import Mathlib.Data.Rat.Star
import EclServer.Engine.Pd

/-!
What the long-form PD table contains.

* `normalizeMatrix_mem`: from non-negative amounts the normalised matrix is sub-stochastic
  with Stage 3 absorbing, an unobserved stage leaving a row of zeros.
* `filter_pdTable`: the rows of a segment and a starting stage are the 299 months in order,
  with the hazards of their Stage 3 probabilities.
* `PdTableSound`, `pdTable_sound`: the rows are probabilities, Stage 3 is reached more and
  more surely, marginal PDs are hazards and rebuild the survival probability.
-/

namespace EclServer.Engine

open EclServer.Library

/-! ### The transition matrix -/

section Matrices

variable {env : PyEnv} {ts : List PdTransition}

/-- The amounts of the transitions are not negative. -/
def AmountsNonneg (env : PyEnv) (ts : List PdTransition) : Prop :=
  NonnegAmounts env (ts.map (·.row.loanAmount))

lemma AmountsNonneg.filter (h : AmountsNonneg env ts) (p : PdTransition → Bool) :
    AmountsNonneg env (ts.filter p) := h.mono (List.map_subset _ (List.filter_subset_self _))

lemma nextStageMatrix_nonneg (h : AmountsNonneg env ts) (i : LoanStage) (j : Option LoanStage) :
    0 ≤ nextStageMatrix env ts i j := by
  rw [nextStageMatrix]
  split
  · rename_i q hq
    obtain ⟨c, hsum, hfloat⟩ := bind_eq_ok.mp hq
    exact (h.filter _).sum_nonneg hsum hfloat
  · exact le_rfl

lemma buildMonthlyMatrix_nonneg (h : AmountsNonneg env ts) (i j : LoanStage) :
    0 ≤ buildMonthlyMatrix env ts i j := nextStageMatrix_nonneg h i (some j)

lemma aggregateMatrix_nonneg (h : AmountsNonneg env ts) (i j : LoanStage) :
    0 ≤ aggregateMatrix env ts i j := by
  have hsum : ∀ ms : List (Timestamp × StageMatrix), (∀ m ∈ ms, 0 ≤ m.2 i j) →
      0 ≤ (ms.map (·.2)).sum i j := by
    intro ms hms
    induction ms with
    | nil => simp
    | cons m ms ih =>
        rw [List.map_cons, List.sum_cons, Matrix.add_apply]
        exact add_nonneg (hms m List.mem_cons_self)
          (ih fun m' hm' => hms m' (List.mem_cons_of_mem m hm'))
  refine hsum _ fun m hm => ?_
  obtain ⟨month, _, rfl⟩ := List.mem_map.mp hm
  exact buildMonthlyMatrix_nonneg (h.filter _) i j

/-- The groups of numbers add up. -/
lemma pivotFloat_of_numbers (h : NumbersOnly (ts.map (·.row.loanAmount))) (i : LoanStage)
    (j : Option LoanStage) : pivotFloat env ts i j
      = .ok (some ((pivotGroup ts (.str i.text) (.str (nextStageText j))).map Cell.number).sum) := by
  have hgroup : NumbersOnly (pivotGroup ts (.str i.text) (.str (nextStageText j))) :=
    h.mono (List.map_subset _ (List.filter_subset_self _))
  rw [pivotFloat, sumCells_numbers hgroup]
  rfl

/-- A month of numbers makes a matrix. -/
lemma checkMonth_of_numbers (h : NumbersOnly (ts.map (·.row.loanAmount))) :
    checkMonth env ts = .ok () := by
  obtain ⟨sums, hsums⟩ := exists_mapM_ok
    (l := groupKeys (fun t : PdTransition => (t.row.staging, t.nextStaging))
      (ts.filter fun t => !t.row.staging.isNa))
    (f := fun k : Cell × Cell => sumCells (pivotGroup ts k.1 k.2)) fun k _ =>
      ⟨_, sumCells_numbers (h.mono (List.map_subset _ (List.filter_subset_self _)))⟩
  obtain ⟨floats, hfloats⟩ := exists_mapM_ok (l := matrixPlaces)
    (f := fun p : LoanStage × Option LoanStage => do orNaN (← pivotFloat env ts p.1 p.2))
    fun p _ => ⟨_, bind_eq_ok.mpr ⟨_, pivotFloat_of_numbers h p.1 p.2, rfl⟩⟩
  exact bind_eq_ok.mpr ⟨sums, hsums, bind_eq_ok.mpr ⟨floats, hfloats, rfl⟩⟩

variable {m p : StageMatrix}

/-- The proportions of a row add up to one, or to zero where nothing was observed. -/
lemma rowProportions_mem (h : ∀ i j, 0 ≤ m i j) :
    rowProportions m ∈ subStochastic ℚ LoanStage := by
  refine ⟨fun i j => ?_, fun i => ?_⟩
  · rw [rowProportions]
    split
    · rename_i hpos
      exact div_nonneg (h i j) hpos.le
    · exact le_rfl
  · simp only [rowProportions]
    split
    · rename_i hpos
      rw [← Finset.sum_div, div_self hpos.ne']
    · simp

lemma normalizeMatrix_mem (h : p ∈ subStochastic ℚ LoanStage) :
    normalizeMatrix p ∈ subStochastic ℚ LoanStage := by
  obtain ⟨hnonneg, hsum⟩ := h
  constructor
  · intro i j
    cases i with
    | stage1 =>
        cases j with
        | stage1 => exact hnonneg _ _
        | stage2 => exact add_nonneg (hnonneg _ _) (hnonneg _ _)
        | stage3 => exact le_rfl
    | stage2 => exact hnonneg _ _
    | stage3 => cases j <;> simp [normalizeMatrix]
  · intro i
    have hrow := hsum i
    rw [LoanStage.sum_eq] at hrow ⊢
    cases i with
    | stage1 =>
        simp only [normalizeMatrix]
        linarith
    | stage2 => exact hrow
    | stage3 => simp [normalizeMatrix]

/-- Stage 3 is absorbing. -/
lemma normalizeMatrix_absorbing : Absorbing (normalizeMatrix p) .stage3 := by
  intro j
  cases j <;> simp [normalizeMatrix]

end Matrices

/-! ### The transitions of the input -/

/-- Transitions carry the rows of the input. -/
lemma row_mem_of_mem_nextStaging {rows : List PdRow} {t : PdTransition}
    (h : t ∈ nextStaging rows) : t.row ∈ rows := by
  obtain ⟨⟨row, next⟩, hmem, rfl⟩ := List.mem_map.mp h
  have hrow := ((mem_leftJoin isNextOf).mp hmem).1
  exact mem_of_mem_dropDuplicates _ ((mem_sortByKey _).mp hrow)

lemma amountsNonneg_nextStaging {env : PyEnv} {rows : List PdRow}
    (h : NonnegAmounts env (rows.map (·.loanAmount))) : AmountsNonneg env (nextStaging rows) := by
  refine h.mono fun c hc => ?_
  obtain ⟨t, ht, rfl⟩ := List.mem_map.mp hc
  exact List.mem_map_of_mem (row_mem_of_mem_nextStaging ht)

/-- The months are made of the transitions. -/
lemma mem_of_mem_monthsOf {env : PyEnv} {working subset : List PdTransition}
    (h : subset ∈ monthsOf env working) {t : PdTransition} (ht : t ∈ subset) : t ∈ working := by
  obtain ⟨segment, -, hsubset⟩ := List.mem_flatMap.mp h
  obtain ⟨month, -, rfl⟩ := List.mem_map.mp hsubset
  exact List.mem_of_mem_filter (List.mem_of_mem_filter ht)

/-- The segments do not repeat. -/
lemma nodup_segmentsOf (env : PyEnv) (working : List PdTransition) :
    (segmentsOf env working).Nodup := by
  refine (sortByKey_perm _ _).nodup_iff.mpr ?_
  simpa using nodup_map_dropDuplicates id
    ((working.map (·.row.segment)).filter fun c => !c.isNa)

/-! ### The rows of one segment and one starting stage -/

section Table

variable {env : PyEnv} {working : List PdTransition} {cells : List Cell} {segment : Cell}
  {st : LoanStage}
  {cureRates : Cell → ℚ}

/-- The matrix whose powers fill the table. -/
def normalizedOf (env : PyEnv) (working : List PdTransition) (segment : Cell) : StageMatrix :=
  (segmentMatrices env working segment).normalized

/-- The months of one segment and starting stage, in order. -/
def stageRows (env : PyEnv) (working : List PdTransition) (segment : Cell) (st : LoanStage) :
    List ProbRow :=
  pdMonths.map fun month => probRow segment (normalizedOf env working segment) month st

lemma mem_pdMonths {n : ℕ} : n ∈ pdMonths ↔ 1 ≤ n ∧ n ≤ maxPdMonth := by
  rw [pdMonths, List.mem_range'_1]
  omega

lemma one_mem_pdMonths : 1 ∈ pdMonths := mem_pdMonths.mpr ⟨le_rfl, by decide⟩

lemma filter_transition_months (normalized : StageMatrix) (months : List ℕ) :
    (months.flatMap fun month => LoanStage.all.map fun transition =>
        probRow segment normalized month transition).filter (fun r => r.transition = st)
      = months.map fun month => probRow segment normalized month st := by
  induction months with
  | nil => rfl
  | cons month months ih =>
      rw [List.flatMap_cons, List.filter_append, ih, List.map_cons]
      cases st <;> rfl

/-- Before the sort, the rows of a segment and a starting stage are its months in order. -/
lemma filter_probRows (hcells : cells.Nodup) (hsegment : segment ∈ cells) :
    (probRows (cells.map (segmentMatrices env working))).filter
        (fun r => r.groupKey = (segment, st)) = stageRows env working segment st := by
  have hsplit : ∀ r : ProbRow, decide (r.groupKey = (segment, st))
      = (decide (r.transition = st) && decide (r.segment = segment)) := by
    intro r
    simp [ProbRow.groupKey, Bool.and_comm]
  have hsegmentRows := filter_flatMap_of_key ProbRow.segment id
    (g := fun c => pdMonths.flatMap fun month => LoanStage.all.map fun transition =>
      probRow c (normalizedOf env working c) month transition) (by simpa using hcells)
    (fun c _ r hr => by
      obtain ⟨month, _, hr⟩ := List.mem_flatMap.mp hr
      obtain ⟨transition, _, rfl⟩ := List.mem_map.mp hr
      rfl) hsegment
  have hrows : probRows (cells.map (segmentMatrices env working))
      = cells.flatMap fun c => pdMonths.flatMap fun month => LoanStage.all.map fun transition =>
        probRow c (normalizedOf env working c) month transition := by
    rw [probRows, List.flatMap_map]
    rfl
  simp only [hsplit]
  simp only [id] at hsegmentRows
  rw [← List.filter_filter, hrows, hsegmentRows, filter_transition_months]
  rfl

/-- Its months are in order, also for the key of the sort. -/
lemma stageRows_sorted :
    (stageRows env working segment st).Pairwise fun a b => a.sortKey ≤ b.sortKey := by
  rw [stageRows, List.pairwise_map]
  refine (List.pairwise_lt_range' 1).imp fun hlt => ?_
  rw [ProbRow.sortKey, ProbRow.sortKey, Prod.Lex.toLex_le_toLex]
  refine Or.inr ⟨rfl, ?_⟩
  rw [Prod.Lex.toLex_le_toLex]
  exact Or.inr ⟨rfl, hlt.le⟩

/-- The sort leaves the months of a segment and a starting stage together and in order. -/
lemma groupBy_sorted (hcells : cells.Nodup) (hsegment : segment ∈ cells) :
    groupBy ProbRow.groupKey
        (sortByKey ProbRow.sortKey (probRows (cells.map (segmentMatrices env working)))) (segment, st)
      = stageRows env working segment st := by
  rw [groupBy, filter_sortByKey, filter_probRows hcells hsegment]
  rw [filter_probRows hcells hsegment]
  exact stageRows_sorted

/-- The groups are the segments with a starting stage. -/
lemma mem_groupKeys_sorted {k : Cell × LoanStage} :
    k ∈ groupKeys ProbRow.groupKey
        (sortByKey ProbRow.sortKey (probRows (cells.map (segmentMatrices env working))))
      ↔ k.1 ∈ cells := by
  simp only [mem_groupKeys, mem_sortByKey, probRows, List.mem_flatMap, List.mem_map]
  constructor
  · rintro ⟨r, ⟨_, ⟨c, hc, rfl⟩, month, _, transition, _, rfl⟩, rfl⟩
    exact hc
  · intro hk
    refine ⟨probRow k.1 (normalizedOf env working k.1) 1 k.2,
      ⟨_, ⟨k.1, hk, rfl⟩, 1, one_mem_pdMonths, k.2, k.2.mem_all, rfl⟩, rfl⟩

/-- The Stage 3 probability of month `n`. -/
def stage3At (env : PyEnv) (working : List PdTransition) (segment : Cell) (st : LoanStage)
    (n : ℕ) : ℚ :=
  (normalizedOf env working segment ^ n) st .stage3

/-- The completed row of month `n`. -/
def tableRow (env : PyEnv) (cureRates : Cell → ℚ) (working : List PdTransition) (segment : Cell)
    (st : LoanStage) (n : ℕ) : PdTableRow :=
  { probRow segment (normalizedOf env working segment) n st with
    marginalPd := hazardAt denomEps (stage3At env working segment st) n
    cureRate := cureRates segment }

/-- Completing the months of a segment and a starting stage adds their hazards. -/
lemma withMarginalPd_stageRows :
    withMarginalPd cureRates (stageRows env working segment st)
      = pdMonths.map (tableRow env cureRates working segment st) := by
  have hprobs : (stageRows env working segment st).map (·.stage3Prob)
      = pdMonths.map (stage3At env working segment st) := by
    rw [stageRows, List.map_map]
    rfl
  rw [withMarginalPd, hprobs, computeMarginalPd, pdMonths, hazards_map_range', stageRows, pdMonths,
    List.zipWith_map, List.zipWith_self]
  rfl

/-- **The table by segment and starting stage**: the 299 months with their hazards. -/
theorem filter_pdTable (hcells : cells.Nodup) (hsegment : segment ∈ cells) :
    (pdTable cureRates (cells.map (segmentMatrices env working))).filter
        (fun r => r.groupKey = (segment, st))
      = pdMonths.map (tableRow env cureRates working segment st) := by
  rw [pdTable, filter_byGroup (fun r : PdTableRow => r.groupKey) (k := (segment, st))]
  · rw [groupBy_sorted hcells hsegment, withMarginalPd_stageRows]
  · rintro ⟨cell, stage⟩ hk r hr
    rw [groupBy_sorted hcells (mem_groupKeys_sorted.mp hk), withMarginalPd_stageRows] at hr
    obtain ⟨n, _, rfl⟩ := List.mem_map.mp hr
    rfl
  · exact mem_groupKeys_sorted.mpr hsegment

/-- Every row of the table is one of these. -/
lemma mem_pdTable (hcells : cells.Nodup) {r : PdTableRow} :
    r ∈ pdTable cureRates (cells.map (segmentMatrices env working)) ↔
      ∃ segment ∈ cells, ∃ st, ∃ n ∈ pdMonths, r = tableRow env cureRates working segment st n := by
  rw [pdTable, mem_byGroup]
  constructor
  · rintro ⟨⟨cell, stage⟩, hk, hr⟩
    have hcell : cell ∈ cells := mem_groupKeys_sorted.mp hk
    rw [groupBy_sorted hcells hcell, withMarginalPd_stageRows] at hr
    obtain ⟨n, hn, rfl⟩ := List.mem_map.mp hr
    exact ⟨cell, hcell, stage, n, hn, rfl⟩
  · rintro ⟨segment, hsegment, st, n, hn, rfl⟩
    refine ⟨(segment, st), mem_groupKeys_sorted.mpr hsegment, ?_⟩
    rw [groupBy_sorted hcells hsegment, withMarginalPd_stageRows]
    exact List.mem_map_of_mem hn

/-- The table has one row for a segment, a starting stage and a month. -/
lemma nodup_map_pdTable (hcells : cells.Nodup) :
    ((pdTable cureRates (cells.map (segmentMatrices env working))).map
      fun r => (r.groupKey, r.month)).Nodup := by
  have hgroup : ∀ k ∈ groupKeys ProbRow.groupKey
      (sortByKey ProbRow.sortKey (probRows (cells.map (segmentMatrices env working)))),
      ((withMarginalPd cureRates (groupBy ProbRow.groupKey (sortByKey ProbRow.sortKey
          (probRows (cells.map (segmentMatrices env working)))) k)).map
        fun r : PdTableRow => (r.groupKey, r.month)) = pdMonths.map fun n => (k, n) := by
    rintro ⟨cell, stage⟩ hk
    rw [groupBy_sorted hcells (mem_groupKeys_sorted.mp hk), withMarginalPd_stageRows, List.map_map]
    rfl
  rw [pdTable, byGroup, List.map_flatMap, List.flatMap_congr hgroup]
  refine nodup_flatMap_of_key id Prod.fst ?_ ?_ fun k _ => ?_
  · rw [List.map_id]
    exact nodup_groupKeys _ _
  · intro k _ c hc
    obtain ⟨n, _, rfl⟩ := List.mem_map.mp hc
    rfl
  · exact List.Nodup.map (fun a b h => (Prod.mk.inj h).2) List.nodup_range'

end Table

/-! ### Soundness -/

section Sound

variable {env : PyEnv} {rows : List PdRow} {segment : Cell} {st : LoanStage} {n : ℕ}

lemma normalizedOf_mem {working : List PdTransition} (h : AmountsNonneg env working) (segment : Cell) :
    normalizedOf env working segment ∈ subStochastic ℚ LoanStage :=
  normalizeMatrix_mem (rowProportions_mem (aggregateMatrix_nonneg (h.filter _)))

lemma normalizedOf_absorbing (working : List PdTransition) (segment : Cell) :
    Absorbing (normalizedOf env working segment) .stage3 := normalizeMatrix_absorbing

/-- The Stage 3 row of every power is the absorbing row. -/
lemma stage3At_stage3 (working : List PdTransition) (segment : Cell) (n : ℕ) :
    stage3At env working segment .stage3 n = 1 := by
  have h := (@normalizedOf_absorbing env working segment).pow n .stage3
  rwa [if_pos rfl] at h

lemma stage3At_mem {working : List PdTransition} (h : AmountsNonneg env working) (n : ℕ) :
    0 ≤ stage3At env working segment st n ∧ stage3At env working segment st n ≤ 1 := by
  have hpow := pow_mem (normalizedOf_mem h segment) n
  exact ⟨SubStochastic.entry_nonneg hpow _ _, SubStochastic.entry_le_one hpow _ _⟩

lemma stage3At_mono {working : List PdTransition} (h : AmountsNonneg env working) :
    Monotone (stage3At env working segment st) :=
  pow_apply_absorbing_mono (normalizedOf_mem h segment) (normalizedOf_absorbing working segment) st

lemma denomEps_nonneg : 0 ≤ denomEps := by
  rw [denomEps]
  positivity

/-- The months up to `n` among the 299. -/
lemma filter_le_pdMonths (hn : n ≤ maxPdMonth) :
    pdMonths.filter (fun m => m ≤ n) = List.range' 1 n := by
  obtain ⟨k, hk⟩ : ∃ k, maxPdMonth = n + k := ⟨maxPdMonth - n, by omega⟩
  have hlow : (List.range' 1 n).filter (fun m => m ≤ n) = List.range' 1 n := by
    rw [List.filter_eq_self]
    intro m hm
    have hle := (List.mem_range'_1.mp hm).2
    simp only [decide_eq_true_eq]
    omega
  have hhigh : (List.range' (1 + n) k).filter (fun m => m ≤ n) = [] := by
    rw [List.filter_eq_nil_iff]
    intro m hm
    have hle := (List.mem_range'_1.mp hm).1
    simp only [decide_eq_true_eq]
    omega
  rw [pdMonths, hk, ← List.range'_append_1, List.filter_append, hlow, hhigh, List.append_nil]

/-- What holds of the rows of the long-form table. -/
structure PdTableSound (out : PdOutput) : Prop where
  /-- Each segment and starting stage has one row for each of the months 1 to 299. -/
  months : ∀ s ∈ out.intermediates, ∀ st : LoanStage,
    ((out.table.filter fun r => r.groupKey = (s.segment, st)).map (·.month)) = pdMonths
  /-- Every row belongs to one of them. -/
  segments : ∀ r ∈ out.table, ∃ s ∈ out.intermediates, r.segment = s.segment
  nonneg : ∀ r ∈ out.table, 0 ≤ r.stage1Prob ∧ 0 ≤ r.stage2Prob ∧ 0 ≤ r.stage3Prob
  sum_le_one : ∀ r ∈ out.table, r.stage1Prob + r.stage2Prob + r.stage3Prob ≤ 1
  stage3_mono : ∀ a ∈ out.table, ∀ b ∈ out.table, a.groupKey = b.groupKey → a.month ≤ b.month →
    a.stage3Prob ≤ b.stage3Prob
  marginal_mem : ∀ r ∈ out.table, 0 ≤ r.marginalPd ∧ r.marginalPd ≤ 1
  /-- The marginal PDs of the months so far rebuild the probability to have survived them. -/
  survival : ∀ r ∈ out.table,
    |survival ((out.table.filter fun r' => r'.groupKey = r.groupKey ∧ r'.month ≤ r.month).map
        (·.marginalPd)) - (1 - r.stage3Prob)| ≤ 1 / 10 ^ 15

/-- The table of `pdOutput`, row by row. -/
lemma mem_table {r : PdTableRow} :
    r ∈ (pdOutput env rows).table ↔ ∃ segment ∈ segmentsOf env (nextStaging rows), ∃ st,
      ∃ n ∈ pdMonths, r = tableRow env
        (fun s => cureRate (segmentMatrices env (nextStaging rows) s).proportions)
        (nextStaging rows) segment st n :=
  mem_pdTable (nodup_segmentsOf env _)

/-- The rows of a segment and a starting stage in the table of `pdOutput`. -/
lemma filter_table (hsegment : segment ∈ segmentsOf env (nextStaging rows)) :
    (pdOutput env rows).table.filter (fun r => r.groupKey = (segment, st))
      = pdMonths.map (tableRow env
        (fun s => cureRate (segmentMatrices env (nextStaging rows) s).proportions)
        (nextStaging rows) segment st) :=
  filter_pdTable (nodup_segmentsOf env _) hsegment

/-- The marginal PDs of the first `n` months of a segment and a starting stage. -/
lemma marginals_upto (hsegment : segment ∈ segmentsOf env (nextStaging rows))
    (hn : n ≤ maxPdMonth) :
    ((pdOutput env rows).table.filter fun r => r.groupKey = (segment, st) ∧ r.month ≤ n).map
        (·.marginalPd)
      = (List.range' 1 n).map (hazardAt denomEps (stage3At env (nextStaging rows) segment st)) := by
  have hsplit : ∀ r : PdTableRow, decide (r.groupKey = (segment, st) ∧ r.month ≤ n)
      = (decide (r.month ≤ n) && decide (r.groupKey = (segment, st))) := by
    intro r
    rw [Bool.decide_and, Bool.and_comm]
  simp only [hsplit]
  rw [← List.filter_filter, filter_table hsegment, List.filter_map, List.map_map,
    ← filter_le_pdMonths hn]
  rfl

/-- Rows with non-negative amounts give a sound table. -/
theorem pdOutput_sound (h : NonnegAmounts env (rows.map (·.loanAmount))) :
    PdTableSound (pdOutput env rows) := by
  have hamounts := amountsNonneg_nextStaging h
  refine { months := ?_, segments := ?_, nonneg := ?_, sum_le_one := ?_, stage3_mono := ?_,
           marginal_mem := ?_, survival := ?_ }
  · intro s hs st
    obtain ⟨segment, hsegment, rfl⟩ := List.mem_map.mp hs
    have hrows := @filter_table env rows segment st hsegment
    rw [show (segmentMatrices env (nextStaging rows) segment).segment = segment from rfl, hrows,
      List.map_map]
    exact List.map_id _
  · intro r hr
    obtain ⟨segment, hsegment, st, n, hn, rfl⟩ := mem_table.mp hr
    exact ⟨_, List.mem_map_of_mem hsegment, rfl⟩
  · intro r hr
    obtain ⟨segment, hsegment, st, n, hn, rfl⟩ := mem_table.mp hr
    have hpow := pow_mem (normalizedOf_mem hamounts segment) n
    exact ⟨SubStochastic.entry_nonneg hpow _ _, SubStochastic.entry_nonneg hpow _ _,
      SubStochastic.entry_nonneg hpow _ _⟩
  · intro r hr
    obtain ⟨segment, hsegment, st, n, hn, rfl⟩ := mem_table.mp hr
    have hpow := pow_mem (normalizedOf_mem hamounts segment) n
    have hsum := hpow.2 st
    rwa [LoanStage.sum_eq] at hsum
  · intro a ha b hb hkey hmonth
    obtain ⟨segment, hsegment, st, n, hn, rfl⟩ := mem_table.mp ha
    obtain ⟨segment', hsegment', st', n', hn', rfl⟩ := mem_table.mp hb
    obtain ⟨rfl, rfl⟩ : segment = segment' ∧ st = st' := Prod.mk.inj hkey
    exact stage3At_mono hamounts hmonth
  · intro r hr
    obtain ⟨segment, hsegment, st, n, hn, rfl⟩ := mem_table.mp hr
    exact hazardAt_mem denomEps_nonneg (stage3At_mono hamounts) (stage3At_mem hamounts)
      (mem_pdMonths.mp hn).1
  · intro r hr
    obtain ⟨segment, hsegment, st, n, hn, rfl⟩ := mem_table.mp hr
    have hmonth := mem_pdMonths.mp hn
    have hmarginals := @marginals_upto env rows segment st n hsegment hmonth.2
    have hmono : Monotone (stage3At env (nextStaging rows) segment st) := stage3At_mono hamounts
    -- the marginal PDs of the months so far are the hazards of Stage 3, up to the guard
    have herror := survival_map_hazardAt denomEps_nonneg hmono (stage3At_mem hamounts) hmonth.1
    rw [← hmarginals] at herror
    exact herror

/-! ### The whole pipeline -/

variable {df : Frame} {out : PdOutput}

lemma readPdRows_of_computePd (h : computePd env df = .ok out) :
    ∃ rows, readPdRows env df = .ok rows ∧ checkPdRows env rows = .ok () ∧
      out = pdOutput env rows := by
  rw [computePd, bind_eq_ok] at h
  obtain ⟨rows, hread, h⟩ := h
  obtain ⟨_, hcheck, h⟩ := bind_eq_ok.mp h
  exact ⟨rows, hread, hcheck, (Except.ok.inj h).symm⟩

/-- The rows are read from those of the sheet. -/
lemma map_readPdRows (h : readPdRows env df = .ok rows) {κ : Type} (f : PdRow → κ)
    (g : Record → κ) (hfg : ∀ r month, f
      { loanId := r.cell "Loan ID", reportingMonth := month, staging := r.cell "Staging"
        segment := r.cell "SEGMENT", loanAmount := r.cell "Loan Amount" } = g r) :
    rows.map f = df.rows.map g := by
  rw [readPdRows, bind_eq_ok] at h
  obtain ⟨_, _, h⟩ := h
  obtain ⟨months, hmonths, h⟩ := bind_eq_ok.mp h
  have hlength := env.length_toDatetime hmonths
  rw [Frame.column, List.length_map] at hlength
  have hleft : (List.zipWith (fun (k : κ) (_ : Option Timestamp) => k) (df.rows.map g) months).map id
      = df.rows.map g := by
    refine map_zipWith_left (fun _ _ => rfl) ?_
    rw [List.length_map]
    exact hlength.ge
  rw [List.map_id, List.zipWith_map_left] at hleft
  rw [← Except.ok.inj h, List.map_zipWith]
  simp only [hfg]
  exact hleft

/-- Each row read has its segment from a row of the sheet. -/
lemma segment_of_mem_readPdRows (h : readPdRows env df = .ok rows) {r : PdRow} (hr : r ∈ rows) :
    ∃ record ∈ df.rows, r.segment = record.cell "SEGMENT" := by
  have hsegments := map_readPdRows h (·.segment) (·.cell "SEGMENT") fun _ _ => rfl
  have hmem : r.segment ∈ rows.map (·.segment) := List.mem_map_of_mem hr
  rw [hsegments] at hmem
  obtain ⟨record, hrecord, hsame⟩ := List.mem_map.mp hmem
  exact ⟨record, hrecord, hsame.symm⟩

/-- The amounts that are read are those of the sheet. -/
lemma loanAmounts_eq (h : readPdRows env df = .ok rows) :
    rows.map (·.loanAmount) = df.column "Loan Amount" :=
  map_readPdRows h _ _ fun _ _ => rfl

lemma loanAmount_nonneg (h : readPdRows env df = .ok rows)
    (hamounts : NonnegAmounts env (df.column "Loan Amount")) :
    NonnegAmounts env (rows.map (·.loanAmount)) := by
  rwa [loanAmounts_eq h]

/-- **Soundness of `compute_pd`**: from non-negative loan amounts, the long-form table holds
probabilities, marginal PDs and the survival identity for every segment, every starting
stage and every month. -/
theorem computePd_sound (h : computePd env df = .ok out)
    (hamounts : NonnegAmounts env (df.column "Loan Amount")) : PdTableSound out := by
  obtain ⟨rows, hread, _, rfl⟩ := readPdRows_of_computePd h
  exact pdOutput_sound (loanAmount_nonneg hread hamounts)

lemma computePd_eq_ok (hread : readPdRows env df = .ok rows) (hcheck : checkPdRows env rows = .ok ()) :
    computePd env df = .ok (pdOutput env rows) := by
  rw [computePd, hread]
  simp only [bind, Except.bind, hcheck]
  rfl

/-- Rows that all have a month, with keys that sort and numbers as amounts, are accepted. -/
lemma checkPdRows_eq_ok (hloan : Cell.sortable (rows.map (·.loanId)) = true)
    (hseg : Cell.sortable (rows.map (·.segment)) = true)
    (hmonth : ∀ r ∈ rows, r.reportingMonth ≠ none)
    (hnumbers : NumbersOnly (rows.map (·.loanAmount))) : checkPdRows env rows = .ok () := by
  have hnone : (dedupeRows rows).any (fun r => r.segment ≠ .blank ∧ r.reportingMonth = none)
      = false := by
    rw [List.any_eq_false]
    intro r hr
    have hmem : r ∈ rows := mem_of_mem_dropDuplicates _ ((mem_sortByKey _).mp hr)
    simp [hmonth r hmem]
  obtain ⟨_, hchecked⟩ := exists_mapM_ok (l := monthsOf env (nextStaging rows))
    (f := checkMonth env) fun subset hsubset => ⟨(), checkMonth_of_numbers (hnumbers.mono
      fun c hc => by
        obtain ⟨t, ht, rfl⟩ := List.mem_map.mp hc
        exact List.mem_map_of_mem (row_mem_of_mem_nextStaging (mem_of_mem_monthsOf hsubset ht)))⟩
  rw [checkPdRows, hloan, hseg, hnone]
  exact bind_eq_ok.mpr ⟨_, hchecked, rfl⟩

/-- What was checked of the rows: those of a segment are dated, and their months make matrices. -/
lemma checkPdRows_ok (h : checkPdRows env rows = .ok ()) :
    (∀ a ∈ dedupeRows rows, a.segment ≠ .blank → a.reportingMonth ≠ none) ∧
      ∀ subset ∈ monthsOf env (nextStaging rows), checkMonth env subset = .ok () := by
  rw [checkPdRows] at h
  split at h
  · cases h
  split at h
  · cases h
  rename_i hdated
  obtain ⟨_, hmonths, -⟩ := bind_eq_ok.mp h
  refine ⟨fun a ha hsegment hundated => hdated (List.any_eq_true.mpr ⟨a, ha, ?_⟩),
    fun subset hsubset => ?_⟩
  · exact decide_eq_true ⟨hsegment, hundated⟩
  · obtain ⟨_, -, hchecked⟩ := exists_mem_of_mapM_ok hmonths hsubset
    exact hchecked

end Sound

/-! ### A sheet with two loans

Loan B, nine times the amount of loan A, goes from Stage 2 to Stage 3 while loan A stays. -/

/-- The first day of a month. -/
def firstOf (monthIndex : ℤ) : Timestamp where
  monthIndex := monthIndex
  day := 1
  day_pos := one_pos
  day_le := daysInMonth_pos _ _

/-- A row of a PD sheet. -/
def pdRecord (index : ℤ) (loanId : String) (month : ℤ) (staging : LoanStage) (amount : ℚ) :
    Record where
  index := index
  cell name :=
    if name = "Loan ID" then .str loanId
    else if name = "Reporting Month" then .date (firstOf month)
    else if name = "Staging" then .str staging.text
    else if name = "SEGMENT" then .str "RETAIL"
    else if name = "Loan Amount" then .num amount
    else .blank

def samplePdFrame : Frame where
  columns := ["Loan ID", "Reporting Month", "Staging", "SEGMENT", "Loan Amount"]
  rows := [pdRecord 0 "A" 24288 .stage2 1, pdRecord 1 "A" 24289 .stage2 1,
    pdRecord 2 "B" 24288 .stage2 9, pdRecord 3 "B" 24289 .stage3 9]

/-- A row of the sheet as the engine reads it. -/
def samplePdRow (loanId : String) (month : ℤ) (staging : LoanStage) (amount : ℚ) : PdRow where
  loanId := .str loanId
  reportingMonth := some (firstOf month)
  staging := .str staging.text
  segment := .str "RETAIL"
  loanAmount := .num amount

def samplePdRows : List PdRow :=
  [samplePdRow "A" 24288 .stage2 1, samplePdRow "A" 24289 .stage2 1,
    samplePdRow "B" 24288 .stage2 9, samplePdRow "B" 24289 .stage3 9]

lemma readPdRows_sample : readPdRows plainEnv samplePdFrame = .ok samplePdRows := by
  rfl

lemma computePd_sample : computePd plainEnv samplePdFrame = .ok (pdOutput plainEnv samplePdRows) := by
  refine computePd_eq_ok readPdRows_sample (checkPdRows_eq_ok (by decide) (by decide) ?_ ?_)
  · intro r hr
    simp only [samplePdRows, List.mem_cons, List.not_mem_nil, or_false] at hr
    rcases hr with rfl | rfl | rfl | rfl <;> simp [samplePdRow]
  · intro c hc
    simp only [samplePdRows, List.map_cons, List.map_nil, List.mem_cons, List.not_mem_nil,
      or_false] at hc
    rcases hc with rfl | rfl | rfl | rfl <;> exact Or.inr ⟨_, rfl⟩

/-- Its transitions: loan A stays, loan B defaults, and both end in the second month. -/
lemma nextStaging_sample : nextStaging samplePdRows
    = List.zipWith PdTransition.mk samplePdRows
      [.str "Stage 2", .str "Offbooks", .str "Stage 3", .str "Offbooks"] := by
  have hdedupe : dedupeRows samplePdRows = samplePdRows := by
    rw [dedupeRows, dropDuplicates_of_nodup _ (by decide)]
    exact sortByKey_of_sorted _ (by decide)
  rw [nextStaging, hdedupe]
  decide

lemma segmentsOf_sample : segmentsOf plainEnv (nextStaging samplePdRows) = [.str "RETAIL"] := by
  have hcells : dropDuplicates id (((nextStaging samplePdRows).map (·.row.segment)).filter
      fun c => !c.isNa) = [.str "RETAIL"] := by
    rw [nextStaging_sample]
    decide
  rw [segmentsOf, hcells, sortByKey_singleton]

/-- The amounts that moved. -/
def sampleAggregate : StageMatrix
  | .stage2, .stage2 => 1
  | .stage2, .stage3 => 9
  | _, _ => 0

lemma aggregateMatrix_sample :
    aggregateMatrix plainEnv ((nextStaging samplePdRows).filter fun t => t.row.segment = .str "RETAIL")
      = sampleAggregate := by
  have hmonths : reportingMonths
      ((nextStaging samplePdRows).filter fun t => t.row.segment = .str "RETAIL")
      = [firstOf 24288, firstOf 24289] := by
    rw [nextStaging_sample, reportingMonths]
    have hdistinct : dropDuplicates id (((List.zipWith PdTransition.mk samplePdRows
        [.str "Stage 2", .str "Offbooks", .str "Stage 3", .str "Offbooks"]).filter
          fun t => t.row.segment = .str "RETAIL").filterMap (·.row.reportingMonth))
        = [firstOf 24288, firstOf 24289] := by
      decide
    rw [hdistinct]
    exact sortByKey_of_sorted _ (by decide)
  rw [aggregateMatrix, monthlyMatrices, hmonths, nextStaging_sample]
  ext i j
  cases i <;> cases j <;> decide +kernel

lemma stage3At_sample :
    stage3At plainEnv (nextStaging samplePdRows) (.str "RETAIL") .stage2 1 = 9 / 10 ∧
      stage3At plainEnv (nextStaging samplePdRows) (.str "RETAIL") .stage2 2 = 99 / 100 := by
  have hnormalized : normalizedOf plainEnv (nextStaging samplePdRows) (.str "RETAIL")
      = normalizeMatrix (rowProportions sampleAggregate) := by
    rw [← aggregateMatrix_sample]
    rfl
  rw [stage3At, stage3At, hnormalized, pow_one, pow_two, Matrix.mul_apply]
  decide +kernel

lemma mem_samplePdFrame_amounts {c : Cell} (hc : c ∈ samplePdFrame.column "Loan Amount") :
    ∃ q, 0 ≤ q ∧ c = .num q := by
  obtain ⟨record, hrecord, rfl⟩ := List.mem_map.mp hc
  simp only [samplePdFrame, List.mem_cons, List.not_mem_nil, or_false] at hrecord
  rcases hrecord with rfl | rfl | rfl | rfl <;> exact ⟨_, by norm_num, rfl⟩

lemma samplePdFrame_numbers : NumbersOnly (samplePdFrame.column "Loan Amount") := by
  intro c hc
  obtain ⟨q, -, rfl⟩ := mem_samplePdFrame_amounts hc
  exact Or.inr ⟨q, rfl⟩

lemma samplePdFrame_amounts : NonnegAmounts plainEnv (samplePdFrame.column "Loan Amount") := by
  refine samplePdFrame_numbers.nonnegAmounts fun q hq => ?_
  obtain ⟨x, hx, heq⟩ := mem_samplePdFrame_amounts hq
  obtain rfl := Cell.num.inj heq
  exact hx

/-- The table of the sample is sound. -/
theorem computePd_sound_sample : PdTableSound (pdOutput plainEnv samplePdRows) :=
  computePd_sound computePd_sample samplePdFrame_amounts

end EclServer.Engine
