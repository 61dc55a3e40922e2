import EclServer.Results.Model

/-!
The aggregates of `app/modules/results/service.py` over `ead_results`. A function gets the
rows that satisfy the conditions collected so far.

* `applyMinEclFilter`: the loans whose ECL reaches the threshold.
* `segmentAggregates`: the segments of a run, with `eclSub`, `outstandingSub`,
  `outstandingAgg` and `stageCounts` as in the query.
* `selectedLoans`, `loanRowsForSegment`: the loans of a segment, and a page of them.
-/

namespace EclServer.Results

open EclServer.Library EclServer.Runs

/-! ### Conditions -/

/-- `if stage:` and the condition it adds. -/
def stageFilter (stage : Option String) (r : EadResult) : Bool :=
  match stage with
  | none => true
  | some s => s = "" ∨ r.stage = s

/-- `func.sum(EadResult.discounted_ecl)`. -/
def sumEcl (rows : List EadResult) : ℚ := (rows.map (·.discountedEcl)).sum

/-- `func.max(EadResult.bal_after_missed)`. -/
def maxBalance (rows : List EadResult) : ℚ := ((rows.map (·.balAfterMissed)).max?).getD 0

/-- `func.min(EadResult.period_to_discount)`. -/
def minPeriod (rows : List EadResult) : ℕ := ((rows.map (·.periodToDiscount)).min?).getD 0

/-- `func.avg(EadResult.lgd)`. -/
def avgLgd (rows : List EadResult) : ℚ := (rows.map (·.lgd)).sum / rows.length

/-- The subquery `eligible`. -/
def eligible (rows : List EadResult) (minEcl : ℚ) : List String :=
  (groupKeys EadResult.loanId rows).filter fun loanId =>
    minEcl ≤ sumEcl (groupBy EadResult.loanId rows loanId)

/-- `_apply_min_ecl_filter`. -/
def applyMinEclFilter (rows : List EadResult) : Option ℚ → List EadResult
  | none => rows
  | some minEcl => rows.filter fun r => r.loanId ∈ eligible rows minEcl

/-! ### Segments -/

structure SegmentDataOut where
  name : String
  mix : ℚ × ℚ × ℚ
  ecl : ℚ
  outstanding : ℚ
  coverage : String
  loans : ℕ
  delta : ℚ
  deriving DecidableEq

/-- `_pct_delta`. -/
def pctDelta (current : ℚ) : Option ℚ → Option ℚ
  | none => none
  | some previous =>
      if previous = 0 then none else some (pyRound 1 ((current - previous) / previous * 100))

/-- The rows that satisfy the conditions of `_segment_aggregates`. -/
def segmentBase (db : ResultsDb) (runId tenantId : String) (stage : Option String)
    (minEcl : Option ℚ) : List EadResult :=
  applyMinEclFilter ((rowsOf runId tenantId db.eadResults).filter (stageFilter stage)) minEcl

section

variable (rows : List EadResult)

def eclSub : List (String × ℚ) :=
  (groupKeys EadResult.segment rows).map fun segment =>
    (segment, sumEcl (groupBy EadResult.segment rows segment))

/-- The key of `outstanding_sub`. -/
def segmentLoan (r : EadResult) : String × String := (r.segment, r.loanId)

def outstandingSub : List ((String × String) × ℚ) :=
  (groupKeys segmentLoan rows).map fun k => (k, maxBalance (groupBy segmentLoan rows k))

def outstandingAgg : List (String × ℚ × ℕ) :=
  (groupKeys (·.1.1) (outstandingSub rows)).map fun segment =>
    let loans := groupBy (·.1.1) (outstandingSub rows) segment
    (segment, (loans.map (·.2)).sum, loans.length)

/-- `stage_sub` of `_segment_aggregates`. -/
def segmentStageSub : List ((String × String) × ℕ) :=
  (groupKeys segmentLoan rows).map fun k => (k, minPeriod (groupBy segmentLoan rows k))

/-- `initial_stage` of `_segment_aggregates`: under a segment and a stage, the loans that
start in it. -/
def segmentInitialStage : List ((String × String) × ℕ) :=
  let joined := rows.flatMap fun r =>
    ((segmentStageSub rows).filter fun s => s = (segmentLoan r, r.periodToDiscount)).map fun _ => r
  let key := fun r : EadResult => (r.segment, r.stage)
  (groupKeys key joined).map fun k =>
    (k, (groupKeys EadResult.loanId (groupBy key joined k)).length)

/-- The joined rows, the greatest ECL first. -/
def segmentRows : List (String × ℚ × ℚ × ℕ) :=
  sortByKey (fun r => -r.2.1) ((eclSub rows).flatMap fun e =>
    ((outstandingAgg rows).filter fun o => o.1 = e.1).map fun o => (e.1, e.2, o.2))

end

/-- `stage_counts.get(segment, {}).get(stage, 0)`. -/
def stageCount (counts : List ((String × String) × ℕ)) (segment stage : String) : ℕ :=
  ((counts.find? fun c => c.1 = (segment, stage)).map (·.2)).getD 0

/-- The share of a stage, in percent. -/
def stageShare (counts : List ((String × String) × ℕ)) (segment stage : String) : ℚ :=
  let total := ((counts.filter fun c => c.1.1 = segment).map (·.2)).sum
  pyRound 1 (stageCount counts segment stage / (if total = 0 then 1 else total) * 100)

/-- `prior_ecl.get(segment)`. -/
def priorEcl (rows : List EadResult) (segment : String) : Option ℚ :=
  if segment ∈ groupKeys EadResult.segment rows then
    some (sumEcl (groupBy EadResult.segment rows segment))
  else none

/-- One row of the answer of `_segment_aggregates`. -/
def segmentData (counts : List ((String × String) × ℕ)) (priorRows : List EadResult)
    (row : String × ℚ × ℚ × ℕ) : SegmentDataOut :=
  let (segment, ecl, outstanding, loans) := row
  { name := segment
    mix := (stageShare counts segment "Stage 1", stageShare counts segment "Stage 2",
      stageShare counts segment "Stage 3")
    ecl := ecl
    outstanding := outstanding
    coverage := if outstanding = 0 then "0.00%" else formatCoverage (ecl / outstanding)
    loans := loans
    delta := (pctDelta ecl (priorEcl priorRows segment)).getD 0 }

/-- `_segment_aggregates`. -/
def segmentAggregates (db : ResultsDb) (runId tenantId : String) (priorRunId : Option String)
    (stage : Option String) (minEcl : Option ℚ) : List SegmentDataOut :=
  let rows := segmentBase db runId tenantId stage minEcl
  let priorRows := match priorRunId with
    | none => []
    | some prior => rowsOf prior tenantId db.eadResults
  (segmentRows rows).map (segmentData (segmentInitialStage rows) priorRows)

/-! ### Loans of a segment -/

structure LoanRowOut where
  id : String
  customer : String
  stage : ℕ
  pd : ℚ
  lgd : ℚ
  ead : ℚ
  ecl : ℚ
  deriving DecidableEq

/-- `_stage_num`. -/
def stageNum (stage : String) : ℕ :=
  if stage = "Stage 2" then 2 else if stage = "Stage 3" then 3 else 1

/-- The rows that satisfy the conditions of `_loan_rows_for_segment`. -/
def loanBase (db : ResultsDb) (runId tenantId segmentName : String) (stage : Option String)
    (minEcl : Option ℚ) : List EadResult :=
  applyMinEclFilter (((rowsOf runId tenantId db.eadResults).filter fun r =>
    r.segment = segmentName).filter (stageFilter stage)) minEcl

/-- A row of `ecl_sub` of `_loan_rows_for_segment`. -/
structure LoanEcl where
  loanId : String
  customerId : String
  ecl : ℚ
  ead : ℚ
  lgd : ℚ
  deriving DecidableEq

section

variable (rows : List EadResult)

/-- The key of `ecl_group`. -/
def loanCustomer (r : EadResult) : String × String := (r.loanId, r.customerId)

/-- `ecl_group`, with its HAVING clause. -/
def eclGroup (minEcl : Option ℚ) : List LoanEcl :=
  let having := fun k => match minEcl with
    | none => true
    | some m => decide (m ≤ sumEcl (groupBy loanCustomer rows k))
  ((groupKeys loanCustomer rows).filter having).map fun k =>
    { loanId := k.1
      customerId := k.2
      ecl := sumEcl (groupBy loanCustomer rows k)
      ead := maxBalance (groupBy loanCustomer rows k)
      lgd := avgLgd (groupBy loanCustomer rows k) }

/-- `stage_sub` of `_loan_rows_for_segment`. -/
def loanStageSub : List (String × ℕ) :=
  (groupKeys EadResult.loanId rows).map fun loanId =>
    (loanId, minPeriod (groupBy EadResult.loanId rows loanId))

/-- `initial_stage` of `_loan_rows_for_segment`. -/
def loanInitialStage : List (String × String) :=
  rows.flatMap fun r =>
    ((loanStageSub rows).filter fun s => s = (r.loanId, r.periodToDiscount)).map fun _ =>
      (r.loanId, r.stage)

def pdSub : List (String × ℚ) :=
  let first := rows.filter fun r => r.periodToDiscount ≤ 12
  (groupKeys EadResult.loanId first).map fun loanId =>
    (loanId, ((groupBy EadResult.loanId first loanId).map (·.hazard)).sum)

/-- All rows the query selects, the greatest ECL first. -/
def selectedLoans (minEcl : Option ℚ) :
    List ((LoanEcl × Option (String × String)) × Option (String × ℚ)) :=
  sortByKey (fun r => -r.1.1.ecl)
    (leftJoin (fun r p => r.1.loanId = p.1)
      (leftJoin (fun e s => e.loanId = s.1) (eclGroup rows minEcl) (loanInitialStage rows))
      (pdSub rows))

end

/-- A row of the answer of `_loan_rows_for_segment`. -/
def loanRowOut (r : (LoanEcl × Option (String × String)) × Option (String × ℚ)) : LoanRowOut :=
  { id := r.1.1.loanId
    customer := r.1.1.customerId
    stage := stageNum ((r.1.2.map (·.2)).getD "Stage 1")
    pd := pyRound 2 (orZero (r.2.map (·.2)) * 100)
    lgd := pyRound 2 (r.1.1.lgd * 100)
    ead := roundHalfEven r.1.1.ead
    ecl := roundHalfEven r.1.1.ecl }

/-- `_loan_rows_for_segment`. -/
def loanRowsForSegment (db : ResultsDb) (runId tenantId segmentName : String) (page perPage : ℕ)
    (stage : Option String) (minEcl : Option ℚ) : List LoanRowOut × ℕ :=
  let rows := loanBase db runId tenantId segmentName stage minEcl
  ((((selectedLoans rows minEcl).drop ((page - 1) * perPage)).take perPage).map loanRowOut,
    (eclGroup rows minEcl).length)

end EclServer.Results
