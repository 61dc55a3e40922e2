import EclServer.Engine.EclBound
import EclServer.Library.Grouping

/-!
The aggregates of a run, `build_ecl_aggregates` of `app/engine/excel_writer.py`.

* `outstandingByLoan`, `loanTotals`: the input amount of each loan, and its credit loss.
* `buildEclAggregates`: the tables by loan, by segment and by stage, and the totals.
* `EclRow.Keyed`: the rows that the grouping keeps. `totalEcl_loanTotals`: they make up the
  total credit loss.
* `AggregateTables`, `buildEclAggregates_ok`: the tables and the totals of aggregates that were
  built.
-/

namespace EclServer.Engine

open EclServer.Library

/-! ### Rows of the tables -/

/-- A row of `ecl_by_loan`. -/
structure LoanEcl where
  loanId : Cell
  customerId : Cell
  segment : Cell
  stage : Cell
  totalDiscountedEcl : ℚ
  totalOutstanding : ℚ
  deriving DecidableEq

/-- A row of `ecl_by_segment`. -/
structure SegmentEcl where
  segment : Cell
  totalEcl : ℚ
  totalOutstanding : Cell
  coverage : ℚ
  deriving DecidableEq

/-- A row of `ecl_by_stage`. -/
structure StageEcl where
  stage : Cell
  totalEcl : ℚ
  portfolioShare : ℚ
  deriving DecidableEq

/-- `ecl_total`. -/
structure EclTotal where
  totalEcl : ℚ
  totalOutstanding : ℚ
  coverageRatio : ℚ
  runId : String
  engineVersion : String
  timestampUtc : String
  deriving DecidableEq

structure EclAggregates where
  eclByLoan : List LoanEcl
  eclBySegment : List SegmentEcl
  eclByStage : List StageEcl
  eclTotal : EclTotal
  totalEcl : ℚ
  totalOutstanding : ℚ
  coverageRatio : ℚ
  deriving DecidableEq

/-! ### By loan -/

/-- The keys of `loan_ecl`. -/
abbrev LoanGroup := Cell × Cell × Cell × Cell

def EclRow.loanGroup (r : EclRow) : LoanGroup := (r.loanId, r.customerId, r.segment, r.staging)

/-- Whether no key of a row is missing; `groupby` drops the others. -/
def EclRow.Keyed (r : EclRow) : Prop :=
  r.loanId ≠ .blank ∧ r.customerId ≠ .blank ∧ r.segment ≠ .blank ∧ r.staging ≠ .blank

instance (r : EclRow) : Decidable r.Keyed := inferInstanceAs (Decidable (_ ∧ _ ∧ _ ∧ _))

/-- The groups of `loan_ecl` in their order, each with its credit loss. -/
def loanTotals (eadDf : List EclRow) : List (LoanGroup × ℚ) :=
  let rows := eadDf.filter fun r => r.Keyed
  (sortByKey (fun k : LoanGroup => toLex (k.1.key, toLex (k.2.1.key,
      toLex (k.2.2.1.key, k.2.2.2.key)))) (groupKeys EclRow.loanGroup rows)).map
    fun k => (k, totalEcl (groupBy EclRow.loanGroup rows k))

/-- `outstanding_by_loan`: the amount of the first row of each loan. -/
def outstandingByLoan (env : PyEnv) (eadInputDf : Frame) :
    Except String (List (Cell × Option ℚ)) :=
  (dropDuplicates (fun r : Record => r.cell "Loan ID") eadInputDf.rows).mapM fun r => do
    return (r.cell "Loan ID", ← (r.cell "Outstanding Amount").toFloat env)

/-- `Series.map` of a loan, then `fillna(0.0)`. -/
def outstandingOf (outstanding : List (Cell × Option ℚ)) (loanId : Cell) : ℚ :=
  ((outstanding.find? fun p => p.1 = loanId).bind (·.2)).getD 0

def eclByLoan (eadDf : List EclRow) (outstanding : List (Cell × Option ℚ)) : List LoanEcl :=
  (loanTotals eadDf).map fun p =>
    { loanId := p.1.1
      customerId := p.1.2.1
      segment := p.1.2.2.1
      stage := p.1.2.2.2
      totalDiscountedEcl := p.2
      totalOutstanding := outstandingOf outstanding p.1.1 }

/-! ### By segment and by stage -/

/-- The credit loss of the loans by a key. -/
def eclBy (key : LoanEcl → Cell) (loans : List LoanEcl) : List (Cell × ℚ) :=
  (sortByKey Cell.key (groupKeys key loans)).map fun k =>
    (k, ((groupBy key loans k).map (·.totalDiscountedEcl)).sum)

/-- `segment_outstanding`. -/
def segmentOutstanding (eadInputDf : Frame) : Except String (List (Cell × Cell)) :=
  let rows := eadInputDf.rows.filter fun r => !(r.cell "SEGMENT").isNa
  (sortByKey Cell.key (groupKeys (fun r : Record => r.cell "SEGMENT") rows)).mapM fun k => do
    return (k, ← sumCells ((groupBy (fun r : Record => r.cell "SEGMENT") rows k).map
      (·.cell "Outstanding Amount")))

/-- A ratio of two floats, zero where the denominator is not positive. -/
def ratioOf (numerator : ℚ) (denominator : Option ℚ) : ℚ :=
  if 0 < denominator.getD 0 then numerator / denominator.getD 0 else 0

def eclBySegment (env : PyEnv) (loans : List LoanEcl) (outstanding : List (Cell × Cell)) :
    Except String (List SegmentEcl) :=
  (eclBy LoanEcl.segment loans).mapM fun p => do
    let amount := ((outstanding.find? fun q => q.1 = p.1).map (·.2)).getD .blank
    return {
      segment := p.1
      totalEcl := p.2
      totalOutstanding := amount
      coverage := ratioOf p.2 (← amount.toFloat env) }

def eclByStage (loans : List LoanEcl) (totalEcl : ℚ) : List StageEcl :=
  (eclBy LoanEcl.stage loans).map fun p =>
    { stage := p.1
      totalEcl := p.2
      portfolioShare := if 0 < totalEcl then p.2 / totalEcl else 0 }

/-! ### The totals -/

/-- The aggregates of an output without rows. -/
def emptyAggregates : EclAggregates where
  eclByLoan := []
  eclBySegment := []
  eclByStage := []
  eclTotal := ⟨0, 0, 0, "", "", ""⟩
  totalEcl := 0
  totalOutstanding := 0
  coverageRatio := 0

/-- `build_ecl_aggregates`. -/
def buildEclAggregates (env : PyEnv) (eadDf : List EclRow) (eadInputDf : Frame) :
    Except String EclAggregates :=
  if eadDf.isEmpty then .ok emptyAggregates
  else do
    eadInputDf.requireColumns ["Loan ID", "Outstanding Amount"]
    let outstanding ← outstandingByLoan env eadInputDf
    let loans := eclByLoan eadDf outstanding
    eadInputDf.requireColumns ["SEGMENT"]
    let bySegment ← eclBySegment env loans (← segmentOutstanding eadInputDf)
    let totalEcl := (loans.map (·.totalDiscountedEcl)).sum
    let totalOutstanding := (outstanding.filterMap (·.2)).sum
    let coverageRatio := if 0 < totalOutstanding then totalEcl / totalOutstanding else 0
    return {
      eclByLoan := loans
      eclBySegment := bySegment
      eclByStage := eclByStage loans totalEcl
      eclTotal := ⟨totalEcl, totalOutstanding, coverageRatio, "", "", ""⟩
      totalEcl := totalEcl
      totalOutstanding := totalOutstanding
      coverageRatio := coverageRatio }

/-- **The credit loss of the loans** is that of the rows the grouping keeps. -/
lemma sum_loanTotals (eadDf : List EclRow) :
    ((loanTotals eadDf).map (·.2)).sum = totalEcl (eadDf.filter fun r => r.Keyed) := by
  set rows := eadDf.filter fun r => r.Keyed with hrows
  have hskip : ∀ l : List EclRow, totalEcl l = (l.map fun r => r.discountedEcl.getD 0).sum :=
    sum_filterMap EclRow.discountedEcl
  have hsum := sum_groupBy EclRow.loanGroup (fun r : EclRow => r.discountedEcl.getD 0) rows
  rw [loanTotals, List.map_map, hskip rows, ← hsum]
  refine ((sortByKey_perm _ _).map _).sum_eq.trans ?_
  exact congrArg List.sum (List.map_congr_left fun k _ => hskip _)

/-- The credit loss of the output is that of the rows with their keys and of those without. -/
lemma totalEcl_filter_add (out : List EclRow) : totalEcl out
    = totalEcl (out.filter fun r => r.Keyed) + totalEcl (out.filter fun r => ¬ r.Keyed) := by
  induction out with
  | nil => simp [totalEcl]
  | cons r rs ih =>
      have hcons : ∀ l : List EclRow, totalEcl (r :: l) = r.discountedEcl.getD 0 + totalEcl l := by
        intro l
        cases h : r.discountedEcl <;> simp [totalEcl, h]
      by_cases hkeyed : r.Keyed
      · simp only [List.filter_cons, hkeyed, decide_true, if_true, not_true, decide_false,
          Bool.false_eq_true, if_false]
        rw [hcons, hcons, ih]
        ring
      · simp only [List.filter_cons, hkeyed, decide_false, Bool.false_eq_true, if_false,
          not_false_iff, decide_true, if_true]
        rw [hcons, hcons, ih]
        ring

/-- The input amounts of the loans, as far as they are numbers. -/
def inputOutstanding (env : PyEnv) (eadInputDf : Frame) : ℚ :=
  ((dropDuplicates (fun r : Record => r.cell "Loan ID") eadInputDf.rows).filterMap
    fun r => floatOf env (r.cell "Outstanding Amount")).sum

/-- The tables of aggregates that were built, and the totals over them. -/
structure AggregateTables (env : PyEnv) (eadDf : List EclRow) (eadInputDf : Frame)
    (aggregates : EclAggregates) (outstanding : List (Cell × Option ℚ))
    (amounts : List (Cell × Cell)) : Prop where
  outstanding_ok : outstandingByLoan env eadInputDf = .ok outstanding
  amounts_ok : segmentOutstanding eadInputDf = .ok amounts
  byLoan_eq : aggregates.eclByLoan = eclByLoan eadDf outstanding
  bySegment_ok : eclBySegment env aggregates.eclByLoan amounts = .ok aggregates.eclBySegment
  byStage_eq : aggregates.eclByStage = eclByStage aggregates.eclByLoan aggregates.totalEcl
  totalEcl_eq : aggregates.totalEcl = (aggregates.eclByLoan.map (·.totalDiscountedEcl)).sum
  totalOutstanding_eq : aggregates.totalOutstanding = (outstanding.filterMap (·.2)).sum
  coverageRatio_eq : aggregates.coverageRatio = if 0 < aggregates.totalOutstanding then
    aggregates.totalEcl / aggregates.totalOutstanding else 0
  eclTotal_eq : aggregates.eclTotal = ⟨aggregates.totalEcl, aggregates.totalOutstanding,
    aggregates.coverageRatio, "", "", ""⟩

/-- Aggregates of an output that is not empty have their tables. -/
lemma exists_aggregateTables {env : PyEnv} {eadDf : List EclRow} {eadInputDf : Frame}
    {aggregates : EclAggregates} (hrows : eadDf ≠ [])
    (h : buildEclAggregates env eadDf eadInputDf = .ok aggregates) :
    ∃ outstanding amounts,
      AggregateTables env eadDf eadInputDf aggregates outstanding amounts := by
  rw [buildEclAggregates, if_neg (by simpa using hrows)] at h
  obtain ⟨_, _, h⟩ := bind_eq_ok.mp h
  obtain ⟨outstanding, houtstanding, h⟩ := bind_eq_ok.mp h
  dsimp only at h
  obtain ⟨_, _, h⟩ := bind_eq_ok.mp h
  obtain ⟨amounts, hamounts, h⟩ := bind_eq_ok.mp h
  obtain ⟨bySegment, hsegments, h⟩ := bind_eq_ok.mp h
  obtain rfl := Except.ok.inj h
  exact ⟨outstanding, amounts, houtstanding, hamounts, rfl, hsegments, rfl, rfl, rfl, rfl, rfl⟩

section Tables

variable {env : PyEnv} {eadDf : List EclRow} {eadInputDf : Frame} {aggregates : EclAggregates}
  {outstanding : List (Cell × Option ℚ)} {amounts : List (Cell × Cell)}
  (h : AggregateTables env eadDf eadInputDf aggregates outstanding amounts)

include h

lemma AggregateTables.totalEcl_keyed :
    aggregates.totalEcl = totalEcl (eadDf.filter fun r => r.Keyed) := by
  rw [h.totalEcl_eq, h.byLoan_eq, ← sum_loanTotals, eclByLoan, List.map_map]
  rfl

lemma AggregateTables.totalOutstanding_input :
    aggregates.totalOutstanding = inputOutstanding env eadInputDf := by
  have hread : outstanding.map (·.2)
      = (dropDuplicates (fun r : Record => r.cell "Loan ID") eadInputDf.rows).map
        fun r => floatOf env (r.cell "Outstanding Amount") := by
    refine map_eq_of_mapM_ok h.outstanding_ok fun r p hp => ?_
    obtain ⟨x, hx, hp⟩ := bind_eq_ok.mp hp
    rw [← Except.ok.inj hp, floatOf, hx]
  calc aggregates.totalOutstanding = ((outstanding.map (·.2)).filterMap id).sum := by
        rw [h.totalOutstanding_eq, List.filterMap_map]
        rfl
    _ = inputOutstanding env eadInputDf := by
        rw [hread, List.filterMap_map]
        rfl

end Tables

/-- **The totals** of aggregates that were built. -/
theorem buildEclAggregates_ok {env : PyEnv} {eadDf : List EclRow} {eadInputDf : Frame}
    {aggregates : EclAggregates} (hrows : eadDf ≠ [])
    (h : buildEclAggregates env eadDf eadInputDf = .ok aggregates) :
    aggregates.eclTotal.totalEcl = totalEcl (eadDf.filter fun r => r.Keyed) ∧
      aggregates.eclTotal.totalOutstanding = inputOutstanding env eadInputDf ∧
      aggregates.eclTotal.coverageRatio
        = if 0 < inputOutstanding env eadInputDf then
            totalEcl (eadDf.filter fun r => r.Keyed) / inputOutstanding env eadInputDf
          else 0 := by
  obtain ⟨outstanding, amounts, htables⟩ := exists_aggregateTables hrows h
  have hecl := htables.totalEcl_keyed
  have hamount := htables.totalOutstanding_input
  rw [htables.eclTotal_eq]
  exact ⟨hecl, hamount, by rw [htables.coverageRatio_eq, hecl, hamount]⟩

/-! ### Aggregates exist -/

section Exists

variable {env : PyEnv} {eadDf : List EclRow} {eadInputDf : Frame}

lemma requireColumns_mono {names names' : List String} (hsub : names ⊆ names')
    (h : eadInputDf.requireColumns names' = .ok ()) : eadInputDf.requireColumns names = .ok () := by
  rw [Frame.requireColumns] at h ⊢
  split at h
  · rename_i hnone
    rw [List.find?_eq_none.mpr fun name hname => List.find?_eq_none.mp hnone name (hsub hname)]
  · cases h

variable (hnum : ∀ r ∈ eadInputDf.rows, ∃ q, r.cell "Outstanding Amount" = .num q)

include hnum

lemma exists_sumCells {rows : List Record} (hrows : rows ⊆ eadInputDf.rows) :
    ∃ q, sumCells (rows.map (·.cell "Outstanding Amount")) = .ok (.num q) := by
  refine ⟨_, if_pos (List.all_eq_true.mpr fun c hc => ?_)⟩
  obtain ⟨r, hr, rfl⟩ := List.mem_map.mp (List.mem_filter.mp hc).1
  obtain ⟨q, hq⟩ := hnum r (hrows hr)
  rw [hq]

lemma exists_outstandingByLoan : ∃ o, outstandingByLoan env eadInputDf = .ok o := by
  refine exists_mapM_ok fun r hr => ?_
  obtain ⟨q, hq⟩ := hnum r (mem_of_mem_dropDuplicates _ hr)
  rw [hq]
  exact ⟨_, rfl⟩

lemma exists_segmentOutstanding : ∃ o, segmentOutstanding eadInputDf = .ok o ∧
    ∀ p ∈ o, ∃ q, p.2 = .num q := by
  have hsums : ∀ k : Cell, ∃ q, sumCells ((groupBy (fun r : Record => r.cell "SEGMENT")
      (eadInputDf.rows.filter fun r => !(r.cell "SEGMENT").isNa) k).map
        (·.cell "Outstanding Amount")) = .ok (.num q) := fun k =>
    exists_sumCells hnum fun r hr => (List.mem_filter.mp ((mem_groupBy _).mp hr).1).1
  obtain ⟨o, ho⟩ : ∃ o, segmentOutstanding eadInputDf = .ok o := by
    refine exists_mapM_ok fun k _ => ?_
    obtain ⟨q, hq⟩ := hsums k
    rw [hq]
    exact ⟨_, rfl⟩
  refine ⟨o, ho, fun p hp => ?_⟩
  obtain ⟨k, -, hk⟩ := exists_of_mem_mapM ho hp
  obtain ⟨q, hq⟩ := hsums k
  rw [hq] at hk
  rw [← Except.ok.inj hk]
  exact ⟨q, rfl⟩

/-- Sheets whose amounts are numbers have aggregates. -/
lemma exists_buildEclAggregates
    (hcolumns : eadInputDf.requireColumns ["Loan ID", "Outstanding Amount", "SEGMENT"] = .ok ()) :
    ∃ aggregates, buildEclAggregates env eadDf eadInputDf = .ok aggregates := by
  obtain ⟨outstanding, houtstanding⟩ := @exists_outstandingByLoan env _ hnum
  obtain ⟨amounts, hamounts, hcells⟩ := exists_segmentOutstanding hnum
  obtain ⟨segments, hsegments⟩ : ∃ o, eclBySegment env (eclByLoan eadDf outstanding) amounts
      = .ok o := by
    refine exists_mapM_ok fun p _ => ?_
    dsimp only
    cases hfind : amounts.find? fun q => q.1 = p.1 with
    | none => exact ⟨_, rfl⟩
    | some q =>
        obtain ⟨x, hx⟩ := hcells q (List.mem_of_find?_eq_some hfind)
        rw [Option.map_some, Option.getD_some, hx]
        exact ⟨_, rfl⟩
  rw [buildEclAggregates]
  split
  · exact ⟨_, rfl⟩
  · simp only [requireColumns_mono (show ["Loan ID", "Outstanding Amount"]
        ⊆ ["Loan ID", "Outstanding Amount", "SEGMENT"] by simp) hcolumns,
      requireColumns_mono (show ["SEGMENT"] ⊆ ["Loan ID", "Outstanding Amount", "SEGMENT"] by simp)
        hcolumns, houtstanding, hamounts, hsegments, bind, Except.bind]
    exact ⟨_, rfl⟩

end Exists

lemma exists_buildEclAggregates_sample : ∃ aggregates,
    buildEclAggregates plainEnv [sampleEcl 0 9, sampleEcl 1 8] sampleEadFrame = .ok aggregates := by
  refine exists_buildEclAggregates (fun r hr => ?_) rfl
  obtain rfl : r = ⟨0, sampleEadCell⟩ := List.mem_singleton.mp hr
  exact ⟨10, rfl⟩

end EclServer.Engine
