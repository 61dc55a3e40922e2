import EclServer.Engine.Pd

/-!
The EAD and ECL engine, `app/engine/ead_engine.py`.

* `mergeable`: which key columns pandas merges on.
* `readEadRows`, `mergeLgd`: the sheet by Loan ID, with collateral and rate of the LGD table.
* `expandSnapshots`: the snapshot dates of each loan by its stage.
* `periodInstalment`, `walkLoan`: the balance rundown of a loan, snapshot after snapshot.
* `joinPd`, `eclRow`: the PD of each snapshot, and its credit loss.
* `computeEad`: the whole pipeline. Floats are exact rationals or NaN, which is `none`.
-/

namespace EclServer.Engine

open EclServer.Library

/-- `_STAGING_ALIASES`. -/
def stagingAliases : List String := ["Staging", "Staging (Stage)"]

/-- `_EIR_ALIASES`. -/
def eirAliases : List String :=
  ["Effective Interest Rate", "Effective Interest Rate (EIR)", "EIR"]

/-- `_FREQ_ALIASES`. -/
def freqAliases : List String := ["Repayment Frequency", "Payment Frequency"]

/-- `_LGD_SUM_COL`. -/
def lgdSumCol : String := "Sum of Discounted Collaterals per Loan ID"

/-- `_LGD_SUM_SHORT`. -/
def lgdSumShort : String := "Sum of Discounted Collaterals"

/-- `_MISSED_EPS`. -/
def missedEps : ℚ := 1 / 10 ^ 9

/-- `_resolve_column`. -/
def resolveColumn (df : Frame) (names : List String) (default : String) : String :=
  (df.resolveColumn? names).getD default

/-! ### Keys of a merge -/

/-- The type of a column of values: texts, and values of several types, are objects. -/
inductive ColumnType where
  | number | datetime | object
  deriving DecidableEq, Repr

/-- The type of a value; a blank has none. -/
def Cell.valueType? : Cell → Option ColumnType
  | .blank => none
  | .num _ => some .number
  | .date _ => some .datetime
  | .str _ => some .object

/-- The type of a column. A blank goes with any, and a column of blanks is one of numbers. -/
def columnType (cells : List Cell) : ColumnType :=
  let types := cells.filterMap Cell.valueType?
  if ∀ t ∈ types, t = .number then .number
  else if ∀ t ∈ types, t = .datetime then .datetime
  else .object

/-- Whether one of the values is an integer, `mixed-integer` of `infer_dtype`. -/
def hasInteger (cells : List Cell) : Bool :=
  cells.any fun c => c.valueType? = some .number ∧ c.number.den = 1

/-- Whether pandas merges on two key columns: on columns of one type, on an empty one, and on
numbers and objects with an integer among them. The left one may have lost rows, and has kept the
type it had with them. -/
def mergeable (leftType : ColumnType) (left right : List Cell) : Bool :=
  left.isEmpty || right.isEmpty ||
    match leftType, columnType right with
    | .number, .object => hasInteger right
    | .object, .number => hasInteger left
    | leftType, rightType => leftType = rightType

/-- The `ValueError` of a merge on columns that do not go together. -/
def requireMergeable (name : String) (leftType : ColumnType) (left right : List Cell) :
    Except String Unit :=
  if mergeable leftType left right then .ok ()
  else .error ("ValueError: You are trying to merge on columns of different types for key '"
    ++ name ++ "'. If you wish to proceed you should use pd.concat")

/-! ### The sheets -/

inductive Frequency where
  | mth | qtr
  deriving DecidableEq, Repr

/-- `_freq`: what is not quarterly is monthly. -/
def readFrequency (env : PyEnv) (c : Cell) : Frequency :=
  if pyStrip (env.upper (c.pyStr env)) = "QTR" then .qtr else .mth

/-- A row of the EAD sheet. -/
structure EadRow where
  loanId : Cell
  customerId : Cell
  segment : Cell
  staging : Cell
  reportingDate : Cell
  maturityDate : Cell
  adjustedMaturityDate : Cell
  firstPaymentDate : Cell
  outstandingAmount : Cell
  effectiveRate : Cell
  ownEir : Cell
  freq : Frequency
  ownMarginalPd : Option Cell
  ownCureRate : Option Cell
  deriving DecidableEq

/-- The cell of a column that a sheet may have. -/
def optionalCell (df : Frame) (r : Record) (name : String) : Option Cell :=
  if name ∈ df.columns then some (r.cell name) else none

/-- The row of a record. -/
def eadRow (env : PyEnv) (df : Frame) (r : Record) : EadRow where
  loanId := r.cell "Loan ID"
  customerId := r.cell "Customer ID"
  segment := r.cell "SEGMENT"
  staging := r.cell (resolveColumn df stagingAliases "Staging")
  reportingDate := r.cell "Reporting Date"
  maturityDate := r.cell "Maturity Date"
  adjustedMaturityDate := r.cell "Adjusted Maturity Date"
  firstPaymentDate := r.cell "First Payment Date"
  outstandingAmount := r.cell "Outstanding Amount"
  effectiveRate := r.cell (resolveColumn df eirAliases "Effective Interest Rate")
  ownEir := r.cell "EIR"
  freq := match df.resolveColumn? freqAliases with
    | some name => readFrequency env (r.cell name)
    | none => .mth
  ownMarginalPd := optionalCell df r "Marginal PD"
  ownCureRate := optionalCell df r "Cure Rate"

/-- The rows of the sheet, in the order of their Loan IDs. -/
def readEadRows (env : PyEnv) (df : Frame) : List EadRow :=
  sortByKey (fun r : EadRow => r.loanId.key) (df.rows.map (eadRow env df))

/-- A row of the LGD table. -/
structure LgdRow where
  loanId : Cell
  eir : Cell
  sum : Cell
  deriving DecidableEq

def lgdRow (df : Frame) (r : Record) : LgdRow where
  loanId := r.cell "Loan ID"
  eir := if "EIR" ∈ df.columns then r.cell "EIR" else .blank
  sum :=
    if lgdSumCol ∈ df.columns then r.cell lgdSumCol
    else if lgdSumShort ∈ df.columns then r.cell lgdSumShort
    else .num 0

/-- `lgd_subset`: the first row of each loan. -/
def lgdSubset (df : Frame) : List LgdRow :=
  dropDuplicates LgdRow.loanId (df.rows.map (lgdRow df))

/-- A row of the EAD sheet with rate and collateral. -/
structure MergedRow extends EadRow where
  eir : Cell
  collateral : Cell
  deriving DecidableEq

/-- The rate of a row. A column `EIR` of both sheets is renamed by the merge and not used. -/
def mergedEir (ownEir lgdEir : Bool) (row : EadRow) (lgd : Option LgdRow) : Cell :=
  match ownEir, lgdEir with
  | true, false => row.ownEir.fillNa row.effectiveRate
  | false, true => (lgd.elim .blank LgdRow.eir).fillNa row.effectiveRate
  | _, _ => row.effectiveRate

/-- Whether a column `EIR` of the sheet is not the one read as effective rate. -/
def hasOwnEir (df : Frame) : Bool :=
  "EIR" ∈ df.columns ∧ resolveColumn df eirAliases "Effective Interest Rate" ≠ "EIR"

/-- The rows with what the LGD table has of their loan. -/
def joinLgd (env : PyEnv) (eadDf lgdDf : Frame) : List (EadRow × Option LgdRow) :=
  leftJoin (fun a b => a.loanId = b.loanId) (readEadRows env eadDf) (lgdSubset lgdDf)

def mergedRow (eadDf lgdDf : Frame) : EadRow × Option LgdRow → MergedRow := fun (row, lgd) =>
  { row with
    eir := mergedEir (hasOwnEir eadDf) (decide ("EIR" ∈ lgdDf.columns)) row lgd
    collateral := (lgd.elim .blank LgdRow.sum).fillNa (.num 0) }

def mergeLgd (env : PyEnv) (eadDf lgdDf : Frame) : List MergedRow :=
  (joinLgd env eadDf lgdDf).map (mergedRow eadDf lgdDf)

/-- The warnings for loans without collateral data. -/
def missingLgdWarnings (env : PyEnv) (joined : List (EadRow × Option LgdRow)) : List String :=
  (sortByKey id (dropDuplicates id
    ((joined.filter fun p => (p.2.elim Cell.blank LgdRow.sum).isNa).map
      fun p => p.1.loanId.pyStr env))).map
    fun loanId => "EC-06: Loan " ++ loanId ++ " in EAD but not in LGD — collateral treated as 0"

/-! ### Snapshots -/

/-- A row with its parsed reporting and maturity dates. -/
structure DatedRow extends MergedRow where
  repDate : Option Timestamp
  matDate : Option Timestamp
  deriving DecidableEq

structure SnapshotRow extends MergedRow where
  snapshotDate : Option Timestamp
  deriving DecidableEq

/-- The months between two dates, when there are both. -/
def monthsBetween? (start finish : Option Timestamp) : Option ℤ := do
  return Timestamp.monthsBetween (← start) (← finish)

/-- The snapshot of a row `k` months after its reporting date. -/
def DatedRow.snapshot (r : DatedRow) (k : ℕ) : SnapshotRow :=
  { r.toMergedRow with snapshotDate := r.repDate.map (·.addMonths k) }

/-- Whether a snapshot `k` months after the reporting date is not after maturity. -/
def DatedRow.matures (r : DatedRow) (k : ℕ) : Bool :=
  match r.repDate, r.matDate with
  | some rep, some mat => rep.addMonths k ≤ mat
  | _, _ => false

/-- The months a Stage 2 row is followed: `max(0, _months_between(rep, mat))`. -/
def DatedRow.horizon (r : DatedRow) : ℕ :=
  ((monthsBetween? r.repDate r.matDate).getD 0).toNat

/-- The rows of one stage. -/
def inStage (stage : LoanStage) (rows : List DatedRow) : List DatedRow :=
  rows.filter fun r => r.staging = .str stage.text

/-- Stage 1: offsets 0 to 12, the whole stage for one offset after the other. -/
def expandStage1 (rows : List DatedRow) : List SnapshotRow :=
  (List.range 13).flatMap fun k => (rows.filter (·.matures k)).map (·.snapshot k)

/-- Stage 2: every month to maturity. -/
def expandStage2 (rows : List DatedRow) : List SnapshotRow :=
  rows.flatMap fun r =>
    ((List.range (r.horizon + 1)).filter fun k => r.matures k).map r.snapshot

/-- `_expand_snapshots` on rows with dates. A Stage 3 row and one of an unknown stage have
their reporting date. -/
def expandDated (rows : List DatedRow) : List SnapshotRow :=
  (inStage .stage3 rows).map (·.snapshot 0)
    ++ expandStage1 (inStage .stage1 rows)
    ++ expandStage2 (inStage .stage2 rows)
    ++ (rows.filter fun r => LoanStage.all.all fun stage => r.staging ≠ .str stage.text).map
      (·.snapshot 0)

/-- The rows with their parsed dates. -/
def withDates (env : PyEnv) (rows : List MergedRow) : Except String (List DatedRow) := do
  let reps ← env.toDatetime (rows.map (·.reportingDate))
  let mats ← env.toDatetime (rows.map (·.maturityDate))
  return List.zipWith (fun r (rep, mat) => { r with repDate := rep, matDate := mat }) rows
    (reps.zip mats)

/-! ### Terms -/

/-- A snapshot with the dates of its loan and the month since its first payment. -/
structure TermRow extends SnapshotRow where
  reporting : Option Timestamp
  firstPayment : Option Timestamp
  adjustedMaturity : Option Timestamp
  deriving DecidableEq

/-- Step 3, `Period Since Origination`. -/
def TermRow.periodSinceOrigination (r : TermRow) : Option ℤ :=
  monthsBetween? r.firstPayment r.snapshotDate

/-- The months that are left of the adjusted term at the reporting date. -/
def TermRow.remaining (r : TermRow) : Option ℤ := do
  let elapsed ← monthsBetween? r.firstPayment r.reporting
  let totalTerm ← monthsBetween? r.firstPayment r.adjustedMaturity
  return totalTerm - elapsed

def withTerms (env : PyEnv) (rows : List SnapshotRow) : Except String (List TermRow) := do
  let reps ← env.toDatetime (rows.map (·.reportingDate))
  let firsts ← env.toDatetime (rows.map (·.firstPaymentDate))
  let adjusted ← env.toDatetime (rows.map (·.adjustedMaturityDate))
  return List.zipWith
    (fun r (rep, first, adj) =>
      { r with reporting := rep, firstPayment := first, adjustedMaturity := adj })
    rows (reps.zip (firsts.zip adjusted))

/-! ### Instalments -/

/-- A cell as a float, for cells that `checkTermFloats` or `checkRowFloats` has let pass. -/
def floatOf (env : PyEnv) (c : Cell) : Option ℚ :=
  match c.toFloat env with
  | .ok x => x
  | .error _ => none

/-- `_period_instalment`. -/
def periodInstalment (env : PyEnv) (outstanding eir : Option ℚ) (remaining : Option ℤ) :
    Frequency → Option ℚ
  | .qtr => do
      -- max(1, NaN) is 1
      let periods : ℤ := max 1 ((remaining.map (· / 3)).getD 1)
      let periodRate := (← eir) / 4
      if periodRate = 0 then return (← outstanding) / periods
      else return -(env.pmt periodRate periods (← outstanding))
  | .mth =>
      if remaining.any (· ≤ 0) then some 0
      else do
        let monthlyRate := (← eir) / 12
        if monthlyRate = 0 then return (← outstanding) / (← remaining)
        else return -(env.pmt monthlyRate (← remaining) (← outstanding))

/-- `str(row["Loan ID"])`. -/
def TermRow.loanKey (env : PyEnv) (r : TermRow) : String := r.loanId.pyStr env

/-- `loan_terms`: the first snapshot of each loan. -/
def loanTerms (rows : List TermRow) : List TermRow := dropDuplicates (fun r => r.loanId) rows

/-- Step 4: the instalment of a loan; of loans written alike the last one counts. -/
def instalmentOf (env : PyEnv) (rows : List TermRow) (loanKey : String) : Option ℚ :=
  match (loanTerms rows).reverse.find? fun r => r.loanKey env = loanKey with
  | some loan =>
      periodInstalment env (floatOf env loan.outstandingAmount) (floatOf env loan.eir)
        loan.remaining loan.freq
  | none => none

/-! ### The balance walk -/

structure WalkedRow extends TermRow where
  monthlyInstalment : Option ℚ
  balanceAfterRepayment : Option ℚ
  balanceAfterMissedPayment : Option ℚ
  periodToBeDiscounted : ℕ
  deriving DecidableEq

/-- Comparison of floats; NaN is not less than anything. -/
def nanLt (a b : Option ℚ) : Bool :=
  match a, b with
  | some a, some b => a < b
  | _, _ => false

/-- The rows whose payment counts as one of the last three. -/
def lookback (rowIdx : ℕ) : Frequency → List ℕ
  | .qtr =>
      let paymentRows := (List.range rowIdx).filter fun i => (i + 1) % 3 = 0
      paymentRows.drop (paymentRows.length - 3)
  | .mth => List.range' (rowIdx - 3) (rowIdx - (rowIdx - 3))

/-- `_count_missed_periods`. -/
def countMissedPeriods (openingBalances : List (Option ℚ)) (monthlyRate instalment : Option ℚ)
    (freq : Frequency) : ℕ :=
  if instalment.any (· ≤ 0) then 0
  else
    let missed := (lookback openingBalances.length freq).filter fun priorIdx =>
      let balanceAfterInterest := do
        return (← openingBalances.getD priorIdx none) * (1 + (← monthlyRate)) + missedEps
      nanLt balanceAfterInterest instalment
    min missed.length 3

/-- The balance of a row after its repayment. -/
def afterRepayment (rowIdx : ℕ) (opening monthlyRate instalment : Option ℚ) (freq : Frequency) :
    Option ℚ := do
  let isPaymentMonth : Bool := freq ≠ .qtr ∨ (rowIdx + 1) % 3 = 0
  let effectiveInstalment := if isPaymentMonth then instalment else some 0
  return max ((← opening) * (1 + (← monthlyRate)) - (← effectiveInstalment)) 0

/-- The loop of `_walk_loan_balances` from the row whose opening balance is `opening` and
whose predecessors opened with `prior`. -/
def walkRows (monthlyRate instalment : Option ℚ) (freq : Frequency) :
    List (Option ℚ) → Option ℚ → List TermRow → List WalkedRow
  | _, _, [] => []
  | prior, opening, r :: rs =>
      let after := afterRepayment prior.length opening monthlyRate instalment freq
      let missed := countMissedPeriods prior monthlyRate instalment freq
      { r with
        monthlyInstalment := instalment
        balanceAfterRepayment := after
        balanceAfterMissedPayment := do return (← after) * (1 + (← monthlyRate)) ^ missed
        periodToBeDiscounted := prior.length }
      :: walkRows monthlyRate instalment freq (prior ++ [opening]) after rs

/-- The key of the sort by snapshot date, missing dates last. -/
def TermRow.dateKey (r : TermRow) : WithTop Timestamp := r.snapshotDate

/-- A group in the order of its snapshot dates. -/
def byDate (group : List TermRow) : List TermRow := sortByKey TermRow.dateKey group

/-- `_walk_loan_balances`; the terms are those of the first row. -/
def walkLoan (env : PyEnv) (instalment : Option ℚ) (group : List TermRow) : List WalkedRow :=
  match byDate group with
  | [] => []
  | first :: rest =>
      walkRows ((floatOf env first.eir).map (· / 12)) instalment first.freq []
        (floatOf env first.outstandingAmount) (first :: rest)

/-- Steps 5 to 7: loan after loan. -/
def walkLoans (env : PyEnv) (rows : List TermRow) : List WalkedRow :=
  (sortByKey id (groupKeys (TermRow.loanKey env) rows)).flatMap fun loanKey =>
    walkLoan env (instalmentOf env rows loanKey) (groupBy (TermRow.loanKey env) rows loanKey)

/-- The first row of each walk. -/
def walkHeads (env : PyEnv) (rows : List TermRow) : List TermRow :=
  (sortByKey id (groupKeys (TermRow.loanKey env) rows)).filterMap fun loanKey =>
    (byDate (groupBy (TermRow.loanKey env) rows loanKey)).head?

/-- What is read as floats before the join: amount and rate of a loan, for its instalment and for
its walk. -/
def checkTermFloats (env : PyEnv) (rows : List TermRow) : Except String Unit := do
  let _ ← (loanTerms rows ++ walkHeads env rows).mapM fun r => do
    let _ ← r.outstandingAmount.toFloat env
    r.eir.toFloat env
  return ()

/-- What is read as floats after it: collateral and rate of every row. -/
def checkRowFloats (env : PyEnv) (rows : List TermRow) : Except String Unit := do
  let _ ← rows.mapM fun r => r.collateral.toFloat env
  let _ ← rows.mapM fun r => r.eir.toFloat env
  return ()

/-! ### Marginal PD and credit loss -/

/-- Step 8: a snapshot and a row of the PD table belong together. -/
def matchesPd (w : WalkedRow) (t : PdTableRow) : Bool :=
  w.segment = t.segment ∧ w.periodSinceOrigination = some (t.month : ℤ)
    ∧ w.staging = .str t.transition.text

def joinPd (rows : List WalkedRow) (pdTable : List PdTableRow) :
    List (WalkedRow × Option PdTableRow) := leftJoin matchesPd rows pdTable

/-- The segments without any PD, `missing_segs`. -/
def missingSegments (env : PyEnv) (joined : List (WalkedRow × Option PdTableRow)) :
    List String :=
  let withPd := (joined.filter fun p => p.2.isSome).map fun p => p.1.segment.pyStr env
  sortByKey id ((dropDuplicates id (joined.map fun p => p.1.segment.pyStr env)).filter
    fun segment => segment ∉ withPd)

/-- A row of the output. `marginalPd` and `cureRate` are what the join has found, with which the
loss is computed; `ownMarginalPd` and `ownCureRate` are columns that the sheet brings itself under
the names of the output. -/
structure EclRow where
  loanId : Cell
  customerId : Cell
  segment : Cell
  staging : Cell
  snapshotDate : Option Timestamp
  periodSinceOrigination : Option ℤ
  periodToBeDiscounted : ℕ
  monthlyInstalment : Option ℚ
  balanceAfterRepayment : Option ℚ
  balanceAfterMissedPayment : Option ℚ
  collateral : Option ℚ
  marginalPd : ℚ
  cureRate : ℚ
  ownMarginalPd : Option Cell
  ownCureRate : Option Cell
  lgw : Option ℚ
  lgd : Option ℚ
  creditLoss : Option ℚ
  discountedEcl : Option ℚ
  deriving DecidableEq

/-- The column `Marginal PD` of the output: the joined one takes the name only where the sheet has
no column of its own. -/
def EclRow.shownMarginalPd (r : EclRow) : Cell := r.ownMarginalPd.getD (.num r.marginalPd)

/-- Step 9: the share of a balance that its collateral does not cover. -/
def lossGivenWriteOff (balance collateral : Option ℚ) : Option ℚ := do
  let balance ← balance
  if balance ≤ 0 then return 0
  else return max (1 - (← collateral) / balance) 0

/-- The discount factor of a row. -/
def discountFactor (eir : Option ℚ) (period : ℕ) : Option ℚ :=
  if 0 < period then do return (1 + (← eir) / 12) ^ (-(period : ℤ))
  else some 1

/-- Steps 9 to 11. -/
def eclRow (env : PyEnv) : WalkedRow × Option PdTableRow → EclRow := fun (w, pd) =>
  let marginalPd := pd.elim 0 PdTableRow.marginalPd
  let cureRate := pd.elim 0 PdTableRow.cureRate
  let collateral := floatOf env w.collateral
  let lgw := lossGivenWriteOff w.balanceAfterMissedPayment collateral
  let lgd := do return (← lgw) * (1 - cureRate)
  let creditLoss := do return (← w.balanceAfterMissedPayment) * marginalPd * (← lgd)
  { loanId := w.loanId
    customerId := w.customerId
    segment := w.segment
    staging := w.staging
    snapshotDate := w.snapshotDate
    periodSinceOrigination := w.periodSinceOrigination
    periodToBeDiscounted := w.periodToBeDiscounted
    monthlyInstalment := w.monthlyInstalment
    balanceAfterRepayment := w.balanceAfterRepayment
    balanceAfterMissedPayment := w.balanceAfterMissedPayment
    collateral := collateral
    marginalPd := marginalPd
    cureRate := cureRate
    ownMarginalPd := w.ownMarginalPd
    ownCureRate := w.ownCureRate
    lgw := lgw
    lgd := lgd
    creditLoss := creditLoss
    discountedEcl := do
      return (← creditLoss) * (← discountFactor (floatOf env w.eir) w.periodToBeDiscounted) }

/-- The key of the final sort. -/
def EclRow.sortKey (r : EclRow) :
    WithTop (ℕ ×ₗ ℚ ×ₗ String ×ₗ WithBot Timestamp) ×ₗ WithTop Timestamp :=
  toLex (r.loanId.key, r.snapshotDate)

/-! ### `compute_ead` -/

/-- A column of the sheet of the name of a joined one is renamed by the merge, and then missed. -/
def requireJoined (eadDf : Frame) (name : String) : Except String Unit :=
  if name ∈ eadDf.columns then .error ("KeyError: '" ++ name ++ "'") else .ok ()

/-- The columns that are looked up before the snapshots are made. -/
def requireEadColumns (eadDf lgdDf : Frame) : Except String Unit := do
  eadDf.requireColumns ["Loan ID"]
  if !Cell.comparable (eadDf.column "Loan ID") then
    throw "TypeError: '<' not supported between instances"
  lgdDf.requireColumns ["Loan ID"]
  requireMergeable "Loan ID" (columnType (eadDf.column "Loan ID")) (eadDf.column "Loan ID")
    (lgdDf.column "Loan ID")
  requireJoined eadDf lgdSumShort
  eadDf.requireColumns [resolveColumn eadDf eirAliases "Effective Interest Rate",
    "Reporting Date", "Maturity Date", resolveColumn eadDf stagingAliases "Staging"]

/-- The columns of the steps to the join. -/
def requireTermColumns (eadDf : Frame) : Except String Unit :=
  eadDf.requireColumns ["First Payment Date", "Adjusted Maturity Date", "Outstanding Amount",
    "SEGMENT"]

/-- The keys of the join of the snapshots with the PD table. (The months are numbers on both
sides.) -/
def requirePdKeys (eadDf : Frame) (terms : List TermRow) (pdTable : List PdTableRow) :
    Except String Unit := do
  requireMergeable "SEGMENT" (columnType (eadDf.column "SEGMENT")) (terms.map (·.segment))
    (pdTable.map (·.segment))
  requireMergeable "Staging"
    (columnType (eadDf.column (resolveColumn eadDf stagingAliases "Staging")))
    (terms.map (·.staging)) (pdTable.map fun t => .str t.transition.text)

/-- The columns of the output. With a `Marginal PD` of the sheet the joined columns keep their
names, and the sheet must have a `Cure Rate` too. -/
def requireOutputColumns (eadDf : Frame) : Except String Unit :=
  let names :=
    if "Marginal PD" ∈ eadDf.columns then ["Customer ID", "Cure Rate"] else ["Customer ID"]
  match names.filter fun name => name ∉ eadDf.columns with
  | [] => .ok ()
  | missing => .error ("KeyError: \"[" ++
      String.intercalate ", " (missing.map fun name => "'" ++ name ++ "'") ++ "] not in index\"")

/-- The rows of the pipeline before the final sort. -/
def eclRows (env : PyEnv) (joined : List (WalkedRow × Option PdTableRow)) : List EclRow :=
  joined.map (eclRow env)

/-- `EC-08`. -/
def checkSegments (missing : List String) : Except String Unit :=
  if missing.isEmpty then .ok ()
  else .error ("EC-08: No PD history for segment(s): " ++ String.intercalate ", " missing ++
    ". All segments present in the EAD file must have corresponding PD data. " ++
    "Add these segments to the PD file and re-run.")

/-- `compute_ead`. -/
def computeEad (env : PyEnv) (eadDf : Frame) (pdTable : List PdTableRow) (lgdDf : Frame) :
    Except String (List EclRow × List String) := do
  requireEadColumns eadDf lgdDf
  let warnings := missingLgdWarnings env (joinLgd env eadDf lgdDf)
  let dated ← withDates env (mergeLgd env eadDf lgdDf)
  let snapshots := expandDated dated
  if snapshots.isEmpty then return ([], warnings)
  requireTermColumns eadDf
  let terms ← withTerms env snapshots
  checkTermFloats env terms
  requirePdKeys eadDf terms pdTable
  let joined := joinPd (walkLoans env terms) pdTable
  requireJoined eadDf "Marginal_PD"
  checkSegments (missingSegments env joined)
  requireJoined eadDf "Cure_Rate"
  checkRowFloats env terms
  requireOutputColumns eadDf
  return (sortByKey EclRow.sortKey (eclRows env joined), warnings)

end EclServer.Engine
