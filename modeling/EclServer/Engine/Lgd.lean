import EclServer.Engine.Validators

/-!
The LGD engine, `app/engine/lgd_engine.py`.

* `CollateralConfig`, `configByName`: the collateral types, by name.
* `customerTotal`, `proportion`: steps 1 and 2, each loan's share of its customer's loans.
* `collateralRow`, `addCollateral`: steps 3 and 4 for one collateral type, on a row and on all.
* `computeLgd`: the whole pipeline. Floats are exact rationals or NaN, which is a blank; a rate
  of -1, whose discount factor is infinite, is given NaN.
-/

namespace EclServer.Engine

open EclServer.Library

/-! ### Cells as numbers -/

/-- A cell in float arithmetic: a blank is NaN. -/
def Cell.toNumber : Cell → Except String (Option ℚ)
  | .blank => .ok none
  | .num q => .ok (some q)
  | _ => .error "TypeError: unsupported operand type(s)"

def Cell.ofNumber : Option ℚ → Cell
  | none => .blank
  | some q => .num q

@[simp] lemma Cell.toNumber_ofNumber (x : Option ℚ) : (Cell.ofNumber x).toNumber = .ok x := by
  cases x <;> rfl

/-- A row with a cell written. -/
def Record.set (r : Record) (name : String) (c : Cell) : Record :=
  { r with cell := Function.update r.cell name c }

@[simp] lemma Record.cell_set_same (r : Record) (name : String) (c : Cell) :
    (r.set name c).cell name = c := Function.update_self ..

lemma Record.cell_set_of_ne {r : Record} {name other : String} {c : Cell} (h : other ≠ name) :
    (r.set name c).cell other = r.cell other := Function.update_of_ne h ..

/-! ### Configuration -/

/-- An entry of `collateral_config`; the haircut is a share. -/
structure CollateralConfig where
  name : String
  haircut : ℚ
  timeToRealize : ℤ
  deriving DecidableEq, Repr

/-- `config_by_name`, in the order of the names: of entries of one name the last one counts. -/
def configByName (config : List CollateralConfig) : List CollateralConfig :=
  sortByKey CollateralConfig.name (dropDuplicates CollateralConfig.name config.reverse)

/-- `(1.0 - haircut) * (1.0 + EIR) ** (-time_to_realize)`; NaN to the power of zero is one. -/
def collateralDiscount (cfg : CollateralConfig) (eir : Option ℚ) : Option ℚ :=
  if cfg.timeToRealize = 0 then some (1 - cfg.haircut)
  else
    match eir with
    | none => none
    | some eir =>
        if eir = -1 ∧ 0 < cfg.timeToRealize then none
        else some ((1 - cfg.haircut) * (1 + eir) ^ (-cfg.timeToRealize))

/-! ### The steps -/

/-- Step 1: the sum of a customer's loans, NaN for a blank customer. -/
def customerTotal (rows : List Record) (amount : Record → Option ℚ) (customer : Cell) : Option ℚ :=
  if customer = .blank then none
  else some (((rows.filter fun r => r.cell "Customer ID" = customer).map
    fun r => (amount r).getD 0).sum)

/-- Step 2: NaN and the division by zero give zero. -/
def proportion (amount total : Option ℚ) : ℚ :=
  match amount, total with
  | some amount, some total => if total = 0 then 0 else amount / total
  | _, _ => 0

def totalColumn : String := "Total Loan Amount per Customer"

def proportionalColumn (name : String) : String := "Proportional " ++ name

def discountedColumn (name : String) : String := "Discounted " ++ name

/-- Steps 3 and 4 for one row: the columns of the type, and the sum with it. -/
def collateralRow (cfg : CollateralConfig) (hasColumn : Bool) :
    Record × Option ℚ → Except String (Record × Option ℚ) := fun (r, sum) => do
  let r := if hasColumn then r else r.set cfg.name (.num 0)
  let share ← (r.cell "Proportion").toNumber
  let value ← (r.cell cfg.name).toNumber
  let proportional := do return (← share) * value.getD 0
  let r := r.set (proportionalColumn cfg.name) (Cell.ofNumber proportional)
  let eir ← (r.cell "EIR").toNumber
  let discounted := do return (← proportional) * (← collateralDiscount cfg eir)
  let r := r.set (discountedColumn cfg.name) (Cell.ofNumber discounted)
  return (r, do return (← sum) + (← discounted))

/-- `working` and `discounted_sum`. -/
structure LgdWork where
  columns : List String
  rows : List (Record × Option ℚ)

/-- One turn of the loop over the collateral types. -/
def addCollateral (work : LgdWork) (cfg : CollateralConfig) : Except String LgdWork := do
  let rows ← work.rows.mapM (collateralRow cfg (decide (cfg.name ∈ work.columns)))
  return {
    columns := work.columns ++ [cfg.name, proportionalColumn cfg.name, discountedColumn cfg.name]
    rows := rows }

/-! ### `compute_lgd` -/

/-- `_resolve_eir_column`. -/
def resolveEirColumn (df : Frame) : String :=
  resolveColumn df lgdEirAliases "Effective Interest Rate (EIR)"

/-- The sheet with its rate column named `EIR`. Where there is such a column besides, pandas
has two of the name: arithmetic on them fails, and otherwise the last one is read. -/
def withEir (df : Frame) (config : List CollateralConfig) : Except String Frame :=
  let eirCol := resolveEirColumn df
  if eirCol = "EIR" then .ok df
  else if eirCol ∉ df.columns then .error "KeyError: 'EIR'"
  else if "EIR" ∈ df.columns ∧ config ≠ [] then
    .error "ValueError: Cannot set a DataFrame with multiple columns to the single column"
  else
    let last := ((df.columns.filter fun name => name = eirCol ∨ name = "EIR").getLast?).getD eirCol
    .ok {
      columns := df.columns.map fun name => if name = eirCol then "EIR" else name
      rows := df.rows.map fun r => { r with
        cell := fun name =>
          if name = "EIR" then r.cell last else if name = eirCol then .blank else r.cell name } }

/-- The key of the sort by customer and loan. -/
def lgdSortKey (r : Record) :
    WithTop (ℕ ×ₗ ℚ ×ₗ String ×ₗ WithBot Timestamp) ×ₗ
      WithTop (ℕ ×ₗ ℚ ×ₗ String ×ₗ WithBot Timestamp) :=
  toLex ((r.cell "Customer ID").key, (r.cell "Loan ID").key)

/-- The sorted rows with steps 1 and 2. -/
def withProportions (rows : List Record) (amount : Record → Option ℚ) : List Record :=
  rows.map fun r =>
    let total := customerTotal rows amount (r.cell "Customer ID")
    (r.set totalColumn (Cell.ofNumber total)).set "Proportion" (.num (proportion (amount r) total))

/-- An amount that `toNumber` has let pass. -/
def amountOf (r : Record) : Option ℚ :=
  match (r.cell "Outstanding Amount").toNumber with
  | .ok x => x
  | .error _ => none

/-- `output_cols`. -/
def lgdOutputColumns (config : List CollateralConfig) : List String :=
  ["Loan ID", "Customer ID", "Outstanding Amount", "EIR", totalColumn, "Proportion", lgdSumCol]
    ++ (configByName config).flatMap fun cfg =>
      [proportionalColumn cfg.name, discountedColumn cfg.name]

/-- What the sort and the first steps need. A column of the name of the totals is renamed by
the merge, and then missed. -/
def checkLgdFrame (df : Frame) : Except String Unit := do
  df.requireColumns ["Customer ID", "Loan ID"]
  if !Cell.sortable (df.column "Customer ID") || !Cell.sortable (df.column "Loan ID") then
    throw "TypeError: values are not ordered"
  df.requireColumns ["Outstanding Amount"]
  if totalColumn ∈ df.columns then throw ("KeyError: '" ++ totalColumn ++ "'")
  let _ ← df.rows.mapM fun r => (r.cell "Outstanding Amount").toNumber
  return ()

/-- `compute_lgd`. -/
def computeLgd (df : Frame) (config : List CollateralConfig) : Except String Frame := do
  let working ← withEir df config
  checkLgdFrame working
  let rows := withProportions (sortByKey lgdSortKey working.rows) amountOf
  let work ← (configByName config).foldlM addCollateral
    { columns := working.columns ++ [totalColumn, "Proportion"]
      rows := rows.map fun r => (r, some 0) }
  if !Cell.comparable (df.column "Loan ID") then
    throw "TypeError: '<' not supported between instances"
  return {
    columns := lgdOutputColumns config
    rows := sortByKey (fun r : Record => (r.cell "Loan ID").key)
      (work.rows.map fun (r, sum) => r.set lgdSumCol (Cell.ofNumber sum)) }

end EclServer.Engine
