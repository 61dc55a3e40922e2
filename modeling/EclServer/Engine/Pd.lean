import EclServer.Engine.Frame
import EclServer.Library.Hazard
import EclServer.Library.SubStochastic

/-!
The PD engine, `app/engine/pd_engine.py`.

* `PdRow`: a row of the input as `compute_pd` reads it.
* `nextStaging`: the de-duplicated rows with the staging of the following month.
* `aggregateMatrix`, `rowProportions`, `normalizeMatrix`: from amounts to a transition
  matrix for each segment.
* `pdTable`: the long-form table of its powers, with marginal PD and cure rate.
* `checkPdRows`: what stops it. `computePd`: the whole pipeline. Amounts are exact rationals, or
  texts that a sum puts together and `float` reads then.
-/

namespace EclServer.Engine

open EclServer.Library

/-- `MAX_PD_MONTH`. -/
def maxPdMonth : ℕ := 299

/-- `_DENOM_EPS`. -/
def denomEps : ℚ := 1 / 10 ^ 15

/-- `_REPORTING_MONTH_ALIASES`. -/
def reportingMonthAliases : List String :=
  ["Reporting Month", "Reporting Month (\"As At\")", "As At"]

/-- `_resolve_reporting_month_column` of the engine. -/
def resolveReportingMonthColumn (df : Frame) : String :=
  (df.resolveColumn? reportingMonthAliases).getD "Reporting Month"

/-! ### Reading the input -/

/-- A row of the PD input. -/
structure PdRow where
  loanId : Cell
  reportingMonth : Option Timestamp
  staging : Cell
  segment : Cell
  loanAmount : Cell
  deriving DecidableEq

/-- The rows of the input frame. -/
def readPdRows (env : PyEnv) (df : Frame) : Except String (List PdRow) := do
  let reportingCol := resolveReportingMonthColumn df
  df.requireColumns [reportingCol, "Loan ID", "Staging", "SEGMENT", "Loan Amount"]
  let months ← env.toDatetime (df.column reportingCol)
  return List.zipWith
    (fun r month =>
      { loanId := r.cell "Loan ID", reportingMonth := month, staging := r.cell "Staging"
        segment := r.cell "SEGMENT", loanAmount := r.cell "Loan Amount" })
    df.rows months

/-! ### Next month staging -/

/-- The key of `drop_duplicates` and of the sort: loan and month, missing months last. -/
def PdRow.key (r : PdRow) : Cell × Option Timestamp := (r.loanId, r.reportingMonth)

def PdRow.sortKey (r : PdRow) :
    WithTop (ℕ ×ₗ ℚ ×ₗ String ×ₗ WithBot Timestamp) ×ₗ WithTop Timestamp :=
  toLex (r.loanId.key, r.reportingMonth)

/-- Step 1: the first row of each loan and month, in order. -/
def dedupeRows (rows : List PdRow) : List PdRow :=
  sortByKey PdRow.sortKey (dropDuplicates PdRow.key rows)

/-- The row of the lookup made from `b` belongs to the row `a`: the same loan, one month
earlier than `b`. -/
def isNextOf (a b : PdRow) : Bool :=
  a.loanId = b.loanId ∧ a.reportingMonth = b.reportingMonth.map (·.addMonths (-1))

/-- A row with the staging of the next month, `"Offbooks"` where there is none. -/
structure PdTransition where
  row : PdRow
  nextStaging : Cell
  deriving DecidableEq

/-- `fillna("Offbooks")`. -/
def fillOffbooks : Option PdRow → Cell
  | none => .str "Offbooks"
  | some next => if next.staging = .blank then .str "Offbooks" else next.staging

/-- Step 2. -/
def nextStaging (rows : List PdRow) : List PdTransition :=
  let working := dedupeRows rows
  (leftJoin isNextOf working working).map fun (row, next) => ⟨row, fillOffbooks next⟩

/-! ### Transition matrices -/

abbrev StageMatrix := Matrix LoanStage LoanStage ℚ

/-- `NEXT_STAGES`: the stages, and off the books. -/
def nextStageText : Option LoanStage → String
  | some stage => stage.text
  | none => "Offbooks"

/-- The amounts of a group of the pivot table. -/
def pivotGroup (subset : List PdTransition) (staging nextStaging : Cell) : List Cell :=
  (subset.filter fun t => t.row.staging = staging ∧ t.nextStaging = nextStaging).map
    (·.row.loanAmount)

/-- A value of the pivot table as a float. -/
def pivotFloat (env : PyEnv) (subset : List PdTransition) (i : LoanStage) (j : Option LoanStage) :
    Except String (Option ℚ) := do
  (← sumCells (pivotGroup subset (.str i.text) (.str (nextStageText j)))).toFloat env

/-- `_build_monthly_matrix` before its fourth column is dropped, for months that `checkMonth` has
let pass. -/
def nextStageMatrix (env : PyEnv) (subset : List PdTransition) :
    Matrix LoanStage (Option LoanStage) ℚ := fun i j =>
  match pivotFloat env subset i j with
  | .ok (some q) => q
  | _ => 0

/-- `_build_monthly_matrix`: the amounts that move between the stages; what goes off the
books is dropped with the fourth column. -/
def buildMonthlyMatrix (env : PyEnv) (subset : List PdTransition) : StageMatrix := fun i j =>
  nextStageMatrix env subset i (some j)

/-- The places of the matrix, in the order in which they are filled. -/
def matrixPlaces : List (LoanStage × Option LoanStage) :=
  LoanStage.all.flatMap fun i => (LoanStage.all.map some ++ [none]).map fun j => (i, j)

/-- A float, where NaN is none. -/
def orNaN (value : Option ℚ) : Except String ℚ :=
  value.elim (.error "ValueError: NaN in a transition matrix") .ok

/-- What stops `_build_monthly_matrix`: amounts of a group that do not add up, and a value that is
no float. (A text that `float` reads as NaN, which `validate_pd` refuses, is taken for one.) -/
def checkMonth (env : PyEnv) (subset : List PdTransition) : Except String Unit := do
  let staged := subset.filter fun t => !t.row.staging.isNa
  let _ ← (groupKeys (fun t => (t.row.staging, t.nextStaging)) staged).mapM fun k =>
    sumCells (pivotGroup subset k.1 k.2)
  let _ ← matrixPlaces.mapM fun p => do
    orNaN (← pivotFloat env subset p.1 p.2)
  return ()

/-- The reporting months of a segment, in order. -/
def reportingMonths (segmentDf : List PdTransition) : List Timestamp :=
  sortByKey id (dropDuplicates id (segmentDf.filterMap (·.row.reportingMonth)))

/-- The monthly matrices of a segment. -/
def monthlyMatrices (env : PyEnv) (segmentDf : List PdTransition) :
    List (Timestamp × StageMatrix) :=
  (reportingMonths segmentDf).map fun month =>
    (month, buildMonthlyMatrix env (segmentDf.filter (·.row.reportingMonth = some month)))

/-- Steps 3 and 4: their sum. -/
def aggregateMatrix (env : PyEnv) (segmentDf : List PdTransition) : StageMatrix :=
  ((monthlyMatrices env segmentDf).map (·.2)).sum

/-- `_row_proportions`. -/
def rowProportions (m : StageMatrix) : StageMatrix := fun i j =>
  if 0 < ∑ k, m i k then m i j / ∑ k, m i k else 0

/-- `_normalize_matrix`: a loan does not go from Stage 1 to Stage 3 at once, and Stage 3 is
absorbing. -/
def normalizeMatrix (p : StageMatrix) : StageMatrix := fun i j =>
  match i, j with
  | .stage1, .stage1 => p .stage1 .stage1
  | .stage1, .stage2 => p .stage1 .stage2 + p .stage1 .stage3
  | .stage1, .stage3 => 0
  | .stage2, j => p .stage2 j
  | .stage3, .stage3 => 1
  | .stage3, _ => 0

/-- `cure_rates[segment]`. -/
def cureRate (p : StageMatrix) : ℚ := p .stage3 .stage1 + p .stage3 .stage2

/-! ### The long-form table -/

/-- A row before marginal PD and cure rate. -/
structure ProbRow where
  segment : Cell
  month : ℕ
  transition : LoanStage
  stage1Prob : ℚ
  stage2Prob : ℚ
  stage3Prob : ℚ
  deriving DecidableEq

structure PdTableRow extends ProbRow where
  marginalPd : ℚ
  cureRate : ℚ
  deriving DecidableEq

/-- `_compute_marginal_pd`. -/
def computeMarginalPd (stage3Probs : List ℚ) : List ℚ := hazards denomEps stage3Probs

/-- What `compute_pd` derives for one segment. -/
structure SegmentMatrices where
  segment : Cell
  monthly : List (Timestamp × StageMatrix)
  aggregate : StageMatrix
  proportions : StageMatrix
  normalized : StageMatrix

/-- Steps 3 to 7 for one segment. -/
def segmentMatrices (env : PyEnv) (working : List PdTransition) (segment : Cell) :
    SegmentMatrices :=
  let segmentDf := working.filter (·.row.segment = segment)
  let proportions := rowProportions (aggregateMatrix env segmentDf)
  { segment := segment
    monthly := monthlyMatrices env segmentDf
    aggregate := aggregateMatrix env segmentDf
    proportions := proportions
    normalized := normalizeMatrix proportions }

/-- The segments of the input, `sorted(..., key=str)`. -/
def segmentsOf (env : PyEnv) (working : List PdTransition) : List Cell :=
  sortByKey (Cell.pyStr env)
    (dropDuplicates id ((working.map (·.row.segment)).filter fun c => !c.isNa))

/-- Steps 8 and 9: the row of a month and a starting stage. -/
def probRow (segment : Cell) (normalized : StageMatrix) (month : ℕ) (transition : LoanStage) :
    ProbRow :=
  let powered := normalized ^ month
  { segment := segment, month := month, transition := transition
    stage1Prob := powered transition .stage1
    stage2Prob := powered transition .stage2
    stage3Prob := powered transition .stage3 }

/-- The months of the table. -/
def pdMonths : List ℕ := List.range' 1 maxPdMonth

/-- The rows in the order of the loops. -/
def probRows (segments : List SegmentMatrices) : List ProbRow :=
  segments.flatMap fun s => pdMonths.flatMap fun month =>
    LoanStage.all.map fun transition => probRow s.segment s.normalized month transition

/-- The key of the final sort. -/
def ProbRow.sortKey (r : ProbRow) :
    WithTop (ℕ ×ₗ ℚ ×ₗ String ×ₗ WithBot Timestamp) ×ₗ String ×ₗ ℕ :=
  toLex (r.segment.key, toLex (r.transition.text, r.month))

/-- The key of the grouping for marginal PDs. -/
def ProbRow.groupKey (r : ProbRow) : Cell × LoanStage := (r.segment, r.transition)

/-- Steps 10 and 11 for one group of rows. -/
def withMarginalPd (cureRates : Cell → ℚ) (group : List ProbRow) : List PdTableRow :=
  List.zipWith
    (fun r marginal => { r with marginalPd := marginal, cureRate := cureRates r.segment })
    group (computeMarginalPd (group.map (·.stage3Prob)))

/-- The table: sorted, and then completed group by group. The sort has brought the groups
together, so the order of the groups is the order of the rows. -/
def pdTable (cureRates : Cell → ℚ) (segments : List SegmentMatrices) : List PdTableRow :=
  byGroup ProbRow.groupKey (withMarginalPd cureRates) (sortByKey ProbRow.sortKey (probRows segments))

/-! ### `compute_pd` -/

structure PdOutput where
  table : List PdTableRow
  cureRates : List (Cell × ℚ)
  intermediates : List SegmentMatrices

/-- The pipeline on rows it accepts. -/
def pdOutput (env : PyEnv) (rows : List PdRow) : PdOutput :=
  let working := nextStaging rows
  let segments := (segmentsOf env working).map (segmentMatrices env working)
  let cureRates := fun segment => cureRate (segmentMatrices env working segment).proportions
  { table := pdTable cureRates segments
    cureRates := segments.map fun s => (s.segment, cureRate s.proportions)
    intermediates := segments }

/-- The months of the segments, as the loops go through them. -/
def monthsOf (env : PyEnv) (working : List PdTransition) : List (List PdTransition) :=
  (segmentsOf env working).flatMap fun segment =>
    let segmentDf := working.filter (·.row.segment = segment)
    (reportingMonths segmentDf).map fun month =>
      segmentDf.filter (·.row.reportingMonth = some month)

/-- What stops the pipeline: sort keys that do not compare, a row of a segment without a
reporting month, and amounts that make no matrix. -/
def checkPdRows (env : PyEnv) (rows : List PdRow) : Except String Unit :=
  if !Cell.sortable (rows.map (·.loanId)) || !Cell.sortable (rows.map (·.segment)) then
    .error "TypeError: values are not ordered"
  else if (dedupeRows rows).any fun r => r.segment ≠ .blank ∧ r.reportingMonth = none then
    .error "ValueError: NaTType does not support strftime"
  else do
    let _ ← (monthsOf env (nextStaging rows)).mapM (checkMonth env)
    return ()

/-- `compute_pd`. -/
def computePd (env : PyEnv) (df : Frame) : Except String PdOutput := do
  let rows ← readPdRows env df
  checkPdRows env rows
  return pdOutput env rows

end EclServer.Engine
