import EclServer.Engine.Ead

/-!
The upload validators of `app/engine/validators`.

* `ValidationResult`: the issues found so far, never more than `maxIssues`.
* The checks of `base.py`, each taking the result and giving it back with its own issues.
* `validatePd`, `validateLgd`, `validateEad`: the checks of one sheet, in order.
* `AddsBlocks`: a check keeps the issues there are and adds blocking ones only; so does each
  validator, and a sheet is accepted only where no check found anything.
-/

namespace EclServer.Engine

open EclServer.Library

/-! ### `base.py` -/

/-- `MAX_ISSUES`. -/
def maxIssues : ℕ := 100

inductive ValidationLevel where
  | warn | block
  deriving DecidableEq, Repr

/-- `STAGING_VALUES`. -/
def stagingValues : List String := LoanStage.all.map LoanStage.text

structure ValidationIssue where
  level : ValidationLevel
  title : String
  location : String
  fix : String
  category : Option String := none
  deriving DecidableEq, Repr

/-- The issues found so far. -/
structure ValidationResult where
  issues : List ValidationIssue := []
  length_le : issues.length ≤ maxIssues := by exact Nat.zero_le _

namespace ValidationResult

/-- `is_valid`. -/
def isValid (result : ValidationResult) : Bool := !result.issues.any fun issue => issue.level = .block

/-- `add`: past the cap nothing is added. -/
def add (result : ValidationResult) (issue : ValidationIssue) : ValidationResult :=
  if h : maxIssues ≤ result.issues.length then result
  else
    { issues := result.issues ++ [issue]
      length_le := by
        rw [List.length_append, List.length_singleton]
        omega }

/-- `add_block`. -/
def addBlock (result : ValidationResult) (title location fix : String)
    (category : Option String) : ValidationResult :=
  result.add { level := .block, title := title, location := location, fix := fix
               category := category }

/-- `issue_cap_reached`. -/
def issueCapReached (result : ValidationResult) : Bool := maxIssues ≤ result.issues.length

/-- `remaining_capacity`. -/
def remainingCapacity (result : ValidationResult) : ℕ := maxIssues - result.issues.length

/-- A loop that adds a blocking issue for each of the rows, as far as there is room. -/
def addBlocks {α : Type} (result : ValidationResult) (rows : List α) (title : String)
    (location fix : α → String) : ValidationResult :=
  (rows.take result.remainingCapacity).foldl
    (fun result row => result.addBlock title (location row) (fix row) none) result

end ValidationResult

/-- `_excel_row`. -/
def excelRow (index : ℤ) : ℤ := index + 2

/-- `_location`. -/
def issueLocation (sheetName : String) (row : ℤ) (column : String) : String :=
  sheetName ++ ", row " ++ toString row ++ ", column " ++ column

section Checks

variable (env : PyEnv) (df : Frame) (column sheetName title : String) (result : ValidationResult)

/-- `check_required_columns`. -/
def checkRequiredColumns (required : List String) (templateKind : String) :
    ValidationResult × Bool :=
  let missing := required.filter fun column => column ∉ df.columns
  ((missing.take result.remainingCapacity).foldl
    (fun result column => result.addBlock ("Missing required column: " ++ column)
      (sheetName ++ ", header row")
      ("Download the official " ++ templateKind ++ " template and copy your data into it, "
        ++ "or add a column named '" ++ column ++ "'.") (some "template_format")) result,
    missing.isEmpty)

/-- The loop of the row checks: the column is there, there is room, and the rows of the mask
are reported. -/
def checkRows (invalid : Record → Bool) (fix : Cell → String) : ValidationResult :=
  if column ∉ df.columns ∨ result.remainingCapacity = 0 then result
  else
    result.addBlocks (df.rows.filter invalid) title
      (fun r => issueLocation sheetName (excelRow r.index) column) fun r => fix (r.cell column)

/-- Whether the text of a cell is none of the allowed ones; a blank is not checked. -/
def notAllowed (allowed : List String) (c : Cell) : Bool :=
  !c.isNa ∧ pyStrip (c.pyStr env) ∉ allowed

/-- `check_enum_values`. -/
def checkEnumValues (allowed : List String) (fix : Cell → String) : ValidationResult :=
  checkRows df column sheetName title result (fun r => notAllowed env allowed (r.cell column)) fix

/-- `check_numeric_range`; no caller allows missing values. -/
def checkNumericRange (minValue maxValue : Option ℚ) (fix : Cell → String) : ValidationResult :=
  checkRows df column sheetName title result
    (fun r => match env.toNumeric (r.cell column) with
      | none => true
      | some q => minValue.any (q < ·) || maxValue.any (· < q)) fix

/-- `check_non_empty_strings`. -/
def checkNonEmptyStrings (fix : String) : ValidationResult :=
  checkRows df column sheetName title result
    (fun r => (r.cell column).isNa ∨ pyStrip ((r.cell column).pyStr env) = "") fun _ => fix

/-- `check_valid_dates`: the result, and the parsed dates where the column was checked. -/
def checkValidDates (fix : Cell → String) :
    ValidationResult × Option (List (Option Timestamp)) :=
  if column ∉ df.columns ∨ result.remainingCapacity = 0 then (result, none)
  else
    let parsed := env.coerceDatetime (df.column column)
    let invalid := (df.rows.zip parsed).filter fun (r, date) => !(r.cell column).isNa ∧ date = none
    (result.addBlocks invalid title
      (fun p => issueLocation sheetName (excelRow p.1.index) column)
      (fun p => fix (p.1.cell column)), some parsed)

/-- The values of some columns in a row. -/
def Record.keyOf (columns : List String) (r : Record) : List Cell := columns.map r.cell

/-- `df.duplicated(subset=columns, keep=False)`: the rows whose key occurs again. -/
def duplicatedRows (columns : List String) : List Record :=
  df.rows.filter fun r => 1 < (df.rows.map (Record.keyOf columns)).count (r.keyOf columns)

/-- `check_uniqueness`. -/
def checkUniqueness (columns : List String) (fix : String → String) : ValidationResult :=
  if result.remainingCapacity = 0 ∨ columns.any (fun column => column ∉ df.columns) then result
  else
    result.addBlocks (duplicatedRows df columns) title
      (fun r => issueLocation sheetName (excelRow r.index) (columns.headD ""))
      fun r => fix (String.intercalate ", " (columns.map fun column =>
        column ++ "=" ++ env.reprCell (r.cell column)))

/-- `check_enum_values_grouped`: one issue for each value, in the order of the values. -/
def checkEnumValuesGrouped (allowed : List String) (fix : Cell → String) : ValidationResult :=
  if column ∉ df.columns ∨ result.remainingCapacity = 0 then result
  else
    let invalid := (df.column column).filter (notAllowed env allowed)
    let values := sortByKey Cell.key (dropDuplicates id invalid)
    result.addBlocks values title
      (fun value =>
        let count := invalid.count value
        sheetName ++ ", column " ++ column ++ " (" ++ toString count ++ " row"
          ++ (if count ≠ 1 then "s" else "") ++ ")") fix

end Checks

/-! ### The validators -/

section Validators

variable (env : PyEnv) (df : Frame) (sheetName : String)

/-- A text with the rendered value at its end. -/
def found (text : String) (value : Cell) : String :=
  text ++ " (found " ++ env.reprCell value ++ ")."

/-- `DEFAULT_REPAYMENT_FREQUENCIES`; no caller passes others. -/
def defaultRepaymentFrequencies : List String := ["MTH", "QTR"]

/-- The titles that more than one check uses. -/
def segmentNotConfigured : String := "SEGMENT is not configured for this tenant"

def useConfiguredSegment : Cell → String :=
  found env "Use a segment from your tenant configuration"

/-- The segment check, made where the tenant has segments. -/
def checkSegmentsConfigured (allowedSegments : List String) (result : ValidationResult) :
    ValidationResult :=
  if allowedSegments.isEmpty then result
  else
    checkEnumValuesGrouped env df "SEGMENT" sheetName segmentNotConfigured result
      (allowedSegments.map pyStrip) (useConfiguredSegment env)

def loanIdIsEmpty (result : ValidationResult) : ValidationResult :=
  checkNonEmptyStrings env df "Loan ID" sheetName "Loan ID is empty" result
    "Provide a non-empty Loan ID for every row."

/-- The check that both LGD and EAD make of their Loan IDs. -/
def checkLoanIdUnique (result : ValidationResult) : ValidationResult :=
  checkUniqueness env df sheetName "Duplicate Loan ID" result ["Loan ID"] fun key =>
    "Ensure each Loan ID appears only once (duplicate: " ++ key ++ ")."

def checkOutstanding (result : ValidationResult) : ValidationResult :=
  checkNumericRange env df "Outstanding Amount" sheetName "Outstanding Amount must be non-negative"
    result (some 0) none
    (found env "Enter an Outstanding Amount greater than or equal to 0")

def checkStaging (column : String) (result : ValidationResult) : ValidationResult :=
  checkEnumValues env df column sheetName "Invalid Staging value" result stagingValues
    (found env "Use exactly one of \"Stage 1\", \"Stage 2\", or \"Stage 3\"")

/-- `validate_pd`. -/
def validatePd (allowedSegments : List String) : ValidationResult :=
  let reportingCol := df.resolveColumn? reportingMonthAliases
  let required := ["Loan ID", "Staging", "Loan Amount", "SEGMENT"]
    ++ [reportingCol.getD "Reporting Month"]
  let (result, _) := checkRequiredColumns df sheetName {} required "PD"
  if result.remainingCapacity = 0 then result
  else
    match reportingCol with
    | none => result
    | some reportingCol =>
        let result := loanIdIsEmpty env df sheetName result
        let result := checkNonEmptyStrings env df "SEGMENT" sheetName "SEGMENT is empty" result
          "Provide a non-empty SEGMENT for every row."
        let (result, _) := checkValidDates env df reportingCol sheetName
          "Reporting Month is not a valid date" result
          (found env "Use a valid date for Reporting Month")
        let result := checkStaging env df sheetName "Staging" result
        let result := checkNumericRange env df "Loan Amount" sheetName
          "Loan Amount must be non-negative" result (some 0) none
          (found env "Enter a Loan Amount greater than or equal to 0")
        let result := checkSegmentsConfigured env df sheetName allowedSegments result
        checkUniqueness env df sheetName "Duplicate Loan ID and Reporting Month (EC-10)" result
          ["Loan ID", reportingCol] fun key => "Remove duplicate rows for " ++ key ++ "."

/-- `LGD_REQUIRED_COLUMNS`. -/
def lgdRequiredColumns : List String :=
  ["Customer ID", "Loan ID", "Outstanding Amount", "Effective Interest Rate (EIR)"]

/-- `_EIR_ALIASES` of the LGD and of the cross-file validator. -/
def lgdEirAliases : List String :=
  ["Effective Interest Rate (EIR)", "Effective Interest Rate", "EIR"]

/-- The columns of an LGD sheet that are no collateral. -/
def knownLgdColumns : List String := lgdRequiredColumns ++ lgdEirAliases

/-- `validate_lgd`. -/
def validateLgd (allowedCollateralTypes : List String) : ValidationResult :=
  let eirCol := df.resolveColumn? lgdEirAliases
  let required := ["Customer ID", "Loan ID", "Outstanding Amount"]
    ++ [eirCol.getD "Effective Interest Rate (EIR)"]
  let (result, _) := checkRequiredColumns df sheetName {} required "LGD"
  if result.remainingCapacity = 0 then result
  else
    match eirCol with
    | none => result
    | some eirCol =>
        let configured := allowedCollateralTypes.map pyStrip
        let extraColumns := df.columns.filter fun column =>
          column ∉ knownLgdColumns ∧ column ∉ configured
        let result := (extraColumns.take result.remainingCapacity).foldl
          (fun result column => result.addBlock
            ("Unknown collateral column: " ++ column ++ " (EC-02)")
            (sheetName ++ ", header row, column " ++ column)
            "Remove this column or add it to your tenant collateral type configuration." none)
          result
        let result := checkNonEmptyStrings env df "Customer ID" sheetName "Customer ID is empty"
          result "Provide a non-empty Customer ID for every row."
        let result := loanIdIsEmpty env df sheetName result
        let result := checkLoanIdUnique env df sheetName result
        let result := checkOutstanding env df sheetName result
        let result := checkNumericRange env df eirCol sheetName "EIR must be between 0 and 1 (EC-05)"
          result (some 0) (some 1)
          (found env "Express EIR as a fraction between 0 and 1, e.g. 0.12 for 12%")
        (df.columns.filter fun column => column ∈ configured).foldl
          (fun result column =>
            checkNumericRange env df column sheetName (column ++ " must be non-negative") result
              (some 0) none (found env ("Enter a non-negative value for " ++ column)))
          result

/-- One of the four date checks of `validate_ead`. -/
def checkDateColumn (column : String) (result : ValidationResult) :
    ValidationResult × Option (List (Option Timestamp)) :=
  checkValidDates env df column sheetName (column ++ " is not a valid date") result
    (found env ("Use a valid " ++ column))

/-- The check of `Repayment Frequency`, EC-09. -/
def checkFrequency (result : ValidationResult) : ValidationResult :=
  checkRows df "Repayment Frequency" sheetName "Unsupported Repayment Frequency (EC-09)" result
    (fun r => !(r.cell "Repayment Frequency").isNa ∧
      env.upper (pyStrip ((r.cell "Repayment Frequency").pyStr env))
        ∉ defaultRepaymentFrequencies.map fun freq => env.upper (pyStrip freq))
    (found env "Use a supported repayment frequency such as MTH or QTR")

/-- The loop over two columns of dates, where both were parsed: the rows whose second date
is before the first are reported. -/
def checkDateOrder (early late : Option (List (Option Timestamp))) (column title fix : String)
    (result : ValidationResult) : ValidationResult :=
  match early, late with
  | some early, some late =>
      if result.remainingCapacity = 0 then result
      else
        let invalid := (df.rows.zip (early.zip late)).filter fun (_, early, late) =>
          match early, late with
          | some early, some late => late < early
          | _, _ => false
        result.addBlocks invalid title
          (fun p => issueLocation sheetName (excelRow p.1.index) column) fun _ => fix
  | _, _ => result

/-- The columns `validate_ead` requires. -/
def eadRequiredColumns : List String :=
  ["Loan ID", "Customer ID", "SEGMENT", "Reporting Date", "Maturity Date",
    "Adjusted Maturity Date", "First Payment Date", "Outstanding Amount", "Repayment Frequency"]
    ++ [(df.resolveColumn? stagingAliases).getD "Staging"]
    ++ [(df.resolveColumn? eirAliases).getD "Effective Interest Rate"]

/-- `validate_ead`. -/
def validateEad (allowedSegments : List String) : ValidationResult :=
  let (result, _) := checkRequiredColumns df sheetName {} (eadRequiredColumns df) "EAD"
  if result.remainingCapacity = 0 then result
  else
    match df.resolveColumn? stagingAliases, df.resolveColumn? eirAliases with
    | some stagingCol, some eirCol =>
        let result := loanIdIsEmpty env df sheetName result
        let result := checkLoanIdUnique env df sheetName result
        let (result, reportingDates) := checkDateColumn env df sheetName "Reporting Date" result
        let (result, maturityDates) := checkDateColumn env df sheetName "Maturity Date" result
        let (result, firstPaymentDates) :=
          checkDateColumn env df sheetName "First Payment Date" result
        let (result, adjustedMaturityDates) :=
          checkDateColumn env df sheetName "Adjusted Maturity Date" result
        let result := checkStaging env df sheetName stagingCol result
        let result := checkOutstanding env df sheetName result
        let result := checkNumericRange env df eirCol sheetName "EIR must be between 0 and 1 (EC-05)"
          result (some 0) (some 1) (found env "Express EIR as a fraction between 0 and 1")
        let result := checkSegmentsConfigured env df sheetName allowedSegments result
        let result := checkFrequency env df sheetName result
        let result := checkDateOrder df sheetName reportingDates maturityDates "Maturity Date"
          "Maturity Date is before Reporting Date (EC-03)"
          "Set Maturity Date on or after Reporting Date." result
        let result := checkDateOrder df sheetName firstPaymentDates reportingDates
          "First Payment Date" "First Payment Date is after Reporting Date (EC-04)"
          "Set First Payment Date on or before Reporting Date." result
        checkDateOrder df sheetName firstPaymentDates adjustedMaturityDates
          "Adjusted Maturity Date" "Adjusted Maturity Date is before First Payment Date"
          "Set Adjusted Maturity Date on or after First Payment Date." result
    | _, _ => result

end Validators

/-! ### Configured segments -/

section

variable {env : PyEnv} {df : Frame} {sheetName : String} {allowedSegments : List String}

/-- Where every segment of the sheet is configured, the segment check adds nothing. -/
lemma checkSegmentsConfigured_of_configured (result : ValidationResult)
    (h : (df.column "SEGMENT").filter (notAllowed env (allowedSegments.map pyStrip)) = []) :
    checkSegmentsConfigured env df sheetName allowedSegments result = result := by
  rw [checkSegmentsConfigured, checkEnumValuesGrouped, h]
  split
  · rfl
  split
  · rfl
  · have hnone : sortByKey Cell.key (dropDuplicates id ([] : List Cell)) = [] := sortByKey_nil _
    simp only [hnone, ValidationResult.addBlocks, List.take_nil, List.foldl_nil]

lemma validatePd_of_configured
    (h : (df.column "SEGMENT").filter (notAllowed env (allowedSegments.map pyStrip)) = []) :
    validatePd env df sheetName allowedSegments = validatePd env df sheetName [] := by
  simp only [validatePd, checkSegmentsConfigured_of_configured _ h]
  rfl

lemma validateEad_of_configured
    (h : (df.column "SEGMENT").filter (notAllowed env (allowedSegments.map pyStrip)) = []) :
    validateEad env df sheetName allowedSegments = validateEad env df sheetName [] := by
  simp only [validateEad, checkSegmentsConfigured_of_configured _ h]
  rfl

end

/-! ### What the checks add -/

/-- `result'` is `result` with further blocking issues. -/
def AddsBlocks (result result' : ValidationResult) : Prop :=
  ∃ new : List ValidationIssue, result'.issues = result.issues ++ new ∧
    ∀ issue ∈ new, issue.level = .block

namespace AddsBlocks

variable {a b c : ValidationResult}

@[refl] lemma refl (a : ValidationResult) : AddsBlocks a a := ⟨[], by simp, by simp⟩

lemma trans (hab : AddsBlocks a b) (hbc : AddsBlocks b c) : AddsBlocks a c := by
  obtain ⟨new, hb, hnew⟩ := hab
  obtain ⟨more, hc, hmore⟩ := hbc
  refine ⟨new ++ more, by rw [hc, hb, List.append_assoc], ?_⟩
  intro issue hissue
  rcases List.mem_append.mp hissue with h | h
  · exact hnew issue h
  · exact hmore issue h

/-- The issues added to an empty result all block. -/
lemma level_eq (h : AddsBlocks {} a) : ∀ issue ∈ a.issues, issue.level = .block := by
  obtain ⟨new, ha, hnew⟩ := h
  rw [ha]
  simpa using hnew

/-- Where nothing blocks at the end, nothing was found. -/
lemma issues_eq_nil (h : AddsBlocks {} a) (hvalid : a.isValid = true) : a.issues = [] := by
  rw [List.eq_nil_iff_forall_not_mem]
  intro issue hissue
  have hblock := h.level_eq issue hissue
  simp only [ValidationResult.isValid, Bool.not_eq_true', List.any_eq_false,
    decide_eq_true_eq] at hvalid
  exact hvalid issue hissue hblock

/-- Nothing was found before a result without issues. -/
lemma issues_eq_nil_of_next (h : AddsBlocks a b) (hb : b.issues = []) : a.issues = [] := by
  obtain ⟨new, heq, _⟩ := h
  rw [hb] at heq
  exact (List.append_eq_nil_iff.mp heq.symm).1

lemma addBlock (a : ValidationResult) (title location fix : String) (category : Option String) :
    AddsBlocks a (a.addBlock title location fix category) := by
  rw [ValidationResult.addBlock, ValidationResult.add]
  split
  · exact refl a
  · exact ⟨_, rfl, by simp⟩

/-- A loop that adds blocking issues one after the other. -/
lemma foldl {α : Type} {step : ValidationResult → α → ValidationResult}
    (hstep : ∀ result x, AddsBlocks result (step result x)) (xs : List α)
    (a : ValidationResult) : AddsBlocks a (xs.foldl step a) := by
  induction xs generalizing a with
  | nil => exact refl a
  | cons x xs ih => exact (hstep a x).trans (ih (step a x))

lemma addBlocks {α : Type} (a : ValidationResult) (rows : List α) (title : String)
    (location fix : α → String) : AddsBlocks a (a.addBlocks rows title location fix) :=
  foldl (fun result row => addBlock result title (location row) (fix row) none) _ a

section

variable (env : PyEnv) (df : Frame) (column sheetName title : String)

lemma requiredColumns (required : List String) (templateKind : String) :
    AddsBlocks a (checkRequiredColumns df sheetName a required templateKind).1 :=
  foldl (fun result _ => addBlock result _ _ _ _) _ a

lemma rows (invalid : Record → Bool) (fix : Cell → String) :
    AddsBlocks a (checkRows df column sheetName title a invalid fix) := by
  rw [checkRows]
  split
  · exact refl a
  · exact addBlocks a _ _ _ _

lemma validDates (fix : Cell → String) :
    AddsBlocks a (checkValidDates env df column sheetName title a fix).1 := by
  rw [checkValidDates]
  split
  · exact refl a
  · exact addBlocks a _ _ _ _

lemma uniqueness (columns : List String) (fix : String → String) :
    AddsBlocks a (checkUniqueness env df sheetName title a columns fix) := by
  rw [checkUniqueness]
  split
  · exact refl a
  · exact addBlocks a _ _ _ _

lemma enumValuesGrouped (allowed : List String) (fix : Cell → String) :
    AddsBlocks a (checkEnumValuesGrouped env df column sheetName title a allowed fix) := by
  rw [checkEnumValuesGrouped]
  split
  · exact refl a
  · exact addBlocks a _ _ _ _

lemma segmentsConfigured (allowedSegments : List String) :
    AddsBlocks a (checkSegmentsConfigured env df sheetName allowedSegments a) := by
  rw [checkSegmentsConfigured]
  split
  · exact refl a
  · exact enumValuesGrouped env df _ _ _ _ _

lemma dateOrder (early late : Option (List (Option Timestamp))) (fix : String) :
    AddsBlocks a (checkDateOrder df sheetName early late column title fix a) := by
  cases early with
  | none => exact refl a
  | some early =>
      cases late with
      | none => exact refl a
      | some late =>
          rw [checkDateOrder]
          split
          · exact refl a
          · exact addBlocks a _ _ _ _

/-- `validate_pd` adds blocking issues only. -/
theorem validatePd (allowedSegments : List String) :
    AddsBlocks {} (validatePd env df sheetName allowedSegments) := by
  rw [Engine.validatePd]
  have hcolumns := requiredColumns (a := {}) df sheetName
    (["Loan ID", "Staging", "Loan Amount", "SEGMENT"]
      ++ [(df.resolveColumn? reportingMonthAliases).getD "Reporting Month"]) "PD"
  dsimp only
  split
  · exact hcolumns
  split
  · exact hcolumns
  · refine trans ?_ (uniqueness env df _ _ _ _)
    refine trans ?_ (segmentsConfigured env df _ _)
    refine trans ?_ (rows df _ _ _ _ _)
    refine trans ?_ (rows df _ _ _ _ _)
    refine trans ?_ (validDates env df _ _ _ _)
    refine trans ?_ (rows df _ _ _ _ _)
    exact trans hcolumns (rows df _ _ _ _ _)

/-- `validate_lgd` adds blocking issues only. -/
theorem validateLgd (allowedCollateralTypes : List String) :
    AddsBlocks {} (validateLgd env df sheetName allowedCollateralTypes) := by
  rw [Engine.validateLgd]
  have hcolumns := requiredColumns (a := {}) df sheetName
    (["Customer ID", "Loan ID", "Outstanding Amount"]
      ++ [(df.resolveColumn? lgdEirAliases).getD "Effective Interest Rate (EIR)"]) "LGD"
  dsimp only
  split
  · exact hcolumns
  split
  · exact hcolumns
  · refine trans ?_ (foldl (fun result column => rows df _ _ _ _ _) _ _)
    refine trans ?_ (rows df _ _ _ _ _)
    refine trans ?_ (rows df _ _ _ _ _)
    refine trans ?_ (uniqueness env df _ _ _ _)
    refine trans ?_ (rows df _ _ _ _ _)
    refine trans ?_ (rows df _ _ _ _ _)
    exact trans hcolumns (foldl (fun result column => addBlock result _ _ _ _) _ _)

/-- `validate_ead` stops at the header, or goes on with the Loan IDs. -/
theorem validateEad_cases (allowedSegments : List String) :
    (Engine.validateEad env df sheetName allowedSegments
        = (checkRequiredColumns df sheetName {} (eadRequiredColumns df) "EAD").1 ∧
      ((checkRequiredColumns df sheetName {} (eadRequiredColumns df) "EAD").1.remainingCapacity = 0 ∨
        df.resolveColumn? stagingAliases = none ∨ df.resolveColumn? eirAliases = none)) ∨
      AddsBlocks (checkLoanIdUnique env df sheetName (loanIdIsEmpty env df sheetName
          (checkRequiredColumns df sheetName {} (eadRequiredColumns df) "EAD").1))
        (Engine.validateEad env df sheetName allowedSegments) := by
  rw [Engine.validateEad]
  dsimp only
  split
  · rename_i hcap
    exact Or.inl ⟨rfl, Or.inl hcap⟩
  split
  · refine Or.inr ?_
    refine trans ?_ (dateOrder df _ _ _ _ _ _)
    refine trans ?_ (dateOrder df _ _ _ _ _ _)
    refine trans ?_ (dateOrder df _ _ _ _ _ _)
    refine trans ?_ (rows df _ _ _ _ _)
    refine trans ?_ (segmentsConfigured env df _ _)
    refine trans ?_ (rows df _ _ _ _ _)
    refine trans ?_ (rows df _ _ _ _ _)
    refine trans ?_ (rows df _ _ _ _ _)
    refine trans ?_ (validDates env df _ _ _ _)
    refine trans ?_ (validDates env df _ _ _ _)
    refine trans ?_ (validDates env df _ _ _ _)
    exact validDates env df _ _ _ _
  · rename_i hnone
    refine Or.inl ⟨rfl, Or.inr ?_⟩
    cases hstaging : df.resolveColumn? stagingAliases with
    | none => exact Or.inl rfl
    | some stagingCol =>
        cases heir : df.resolveColumn? eirAliases with
        | none => exact Or.inr rfl
        | some eirCol => exact absurd heir (hnone stagingCol eirCol hstaging)

/-- The Loan ID checks add blocking issues only. -/
lemma loanIds : AddsBlocks a (checkLoanIdUnique env df sheetName (loanIdIsEmpty env df sheetName a)) :=
  trans (rows df _ _ _ _ _) (uniqueness env df _ _ _ _)

/-- `validate_ead` adds blocking issues only. -/
theorem validateEad (allowedSegments : List String) :
    AddsBlocks {} (validateEad env df sheetName allowedSegments) := by
  have hheader := requiredColumns (a := {}) df sheetName (eadRequiredColumns df) "EAD"
  rcases validateEad_cases env df sheetName allowedSegments with ⟨heq, _⟩ | hrest
  · rw [heq]
    exact hheader
  · exact hheader.trans ((loanIds env df sheetName).trans hrest)

end

/-! ### What an accepted sheet has -/

lemma addBlock_ne_nil (a : ValidationResult) (title location fix : String)
    (category : Option String) : (a.addBlock title location fix category).issues ≠ [] := by
  rw [ValidationResult.addBlock, ValidationResult.add]
  split
  · rename_i hcap
    intro hnil
    rw [hnil] at hcap
    exact absurd hcap (by decide)
  · simp

/-- A loop that reports something reports its first element, if there is room. -/
lemma foldl_addBlock_eq_nil {α : Type} {title location fix : α → String}
    {category : Option String} {xs : List α} (ha : a.issues = [])
    (h : ((xs.take a.remainingCapacity).foldl (fun result x =>
      result.addBlock (title x) (location x) (fix x) category) a).issues = []) : xs = [] := by
  have hroom : a.remainingCapacity = maxIssues := by
    rw [ValidationResult.remainingCapacity, ha]
    rfl
  cases xs with
  | nil => rfl
  | cons x xs =>
      rw [hroom, maxIssues, List.take_succ_cons, List.foldl_cons] at h
      have hfirst := (foldl (fun result x =>
        addBlock result (title x) (location x) (fix x) category) _ _).issues_eq_nil_of_next h
      exact absurd hfirst (addBlock_ne_nil a _ _ _ _)

/-- Without an issue, every required column is there. -/
lemma mem_of_requiredColumns {df : Frame} {sheetName templateKind : String}
    {required : List String}
    (h : (checkRequiredColumns df sheetName {} required templateKind).1.issues = []) :
    ∀ column ∈ required, column ∈ df.columns := by
  have hmissing := foldl_addBlock_eq_nil (a := {}) rfl h
  intro column hcolumn
  by_contra habsent
  exact absurd hcolumn (by simpa [habsent] using List.filter_eq_nil_iff.mp hmissing column)

/-- Without an issue, the keys are distinct. -/
lemma nodup_of_uniqueness {env : PyEnv} {df : Frame} {sheetName title : String}
    {columns : List String} {fix : String → String} (ha : a.issues = [])
    (hcolumns : ∀ column ∈ columns, column ∈ df.columns)
    (h : (checkUniqueness env df sheetName title a columns fix).issues = []) :
    (df.rows.map (Record.keyOf columns)).Nodup := by
  have hroom : ¬ (a.remainingCapacity = 0 ∨
      columns.any (fun column => column ∉ df.columns) = true) := by
    rintro (hzero | hany)
    · rw [ValidationResult.remainingCapacity, ha] at hzero
      exact absurd hzero (by decide)
    · obtain ⟨column, hcolumn, habsent⟩ := List.any_eq_true.mp hany
      exact absurd (hcolumns column hcolumn) (by simpa using habsent)
  rw [checkUniqueness, if_neg hroom] at h
  have hnone := foldl_addBlock_eq_nil ha h
  rw [List.nodup_iff_count_le_one]
  intro key
  by_cases hkey : key ∈ df.rows.map (Record.keyOf columns)
  · obtain ⟨r, hr, rfl⟩ := List.mem_map.mp hkey
    have hcount := List.filter_eq_nil_iff.mp hnone r hr
    simpa using hcount
  · rw [List.count_eq_zero_of_not_mem hkey]
    exact zero_le_one

/-- Without an issue, no row is in the mask. -/
lemma rows_of_checkRows {df : Frame} {column sheetName title : String}
    {invalid : Record → Bool} {fix : Cell → String} (ha : a.issues = [])
    (hcolumn : column ∈ df.columns)
    (h : (checkRows df column sheetName title a invalid fix).issues = []) :
    ∀ r ∈ df.rows, invalid r = false := by
  have hroom : ¬ (column ∉ df.columns ∨ a.remainingCapacity = 0) := by
    rintro (habsent | hzero)
    · exact habsent hcolumn
    · rw [ValidationResult.remainingCapacity, ha] at hzero
      exact absurd hzero (by decide)
  rw [checkRows, if_neg hroom] at h
  intro r hr
  simpa using List.filter_eq_nil_iff.mp (foldl_addBlock_eq_nil ha h) r hr

end AddsBlocks

/-- What later steps rely on in an accepted EAD sheet. -/
structure EadAccepted (df : Frame) : Prop where
  columns : ∀ column ∈ eadRequiredColumns df, column ∈ df.columns
  loanId_nodup : (df.rows.map (·.cell "Loan ID")).Nodup
  loanId_ne_blank : ∀ r ∈ df.rows, r.cell "Loan ID" ≠ .blank

/-- A column that is required under its default name is resolved. -/
lemma resolveColumn_ne_none {df : Frame} {names : List String} {default : String}
    (hdefault : default ∈ names) (h : (df.resolveColumn? names).getD default ∈ df.columns) :
    df.resolveColumn? names ≠ none := by
  intro hnone
  rw [hnone, Option.getD_none] at h
  have habsent := List.find?_eq_none.mp hnone default hdefault
  simp [h] at habsent

/-- A sheet that `validate_ead` accepts has distinct Loan IDs, none of them blank. -/
theorem eadAccepted_of_isValid {env : PyEnv} {df : Frame} {sheetName : String}
    {allowedSegments : List String}
    (h : (validateEad env df sheetName allowedSegments).isValid = true) : EadAccepted df := by
  have hnil := (AddsBlocks.validateEad env df sheetName allowedSegments).issues_eq_nil h
  have hids := AddsBlocks.loanIds env df sheetName
    (a := (checkRequiredColumns df sheetName {} (eadRequiredColumns df) "EAD").1)
  have hheader : (checkRequiredColumns df sheetName {} (eadRequiredColumns df) "EAD").1.issues
      = [] := by
    rcases AddsBlocks.validateEad_cases env df sheetName allowedSegments with ⟨heq, _⟩ | hrest
    · rwa [heq] at hnil
    · exact hids.issues_eq_nil_of_next (hrest.issues_eq_nil_of_next hnil)
  have hcolumns := AddsBlocks.mem_of_requiredColumns hheader
  have hloanId : "Loan ID" ∈ df.columns := hcolumns _ (by simp [eadRequiredColumns])
  rcases AddsBlocks.validateEad_cases env df sheetName allowedSegments with
    ⟨_, hcap | hstaging | heir⟩ | hrest
  · rw [ValidationResult.remainingCapacity, hheader] at hcap
    exact absurd hcap (by decide)
  · have hstagingCol : (df.resolveColumn? stagingAliases).getD "Staging" ∈ df.columns :=
      hcolumns _ (by simp [eadRequiredColumns])
    exact absurd hstaging (resolveColumn_ne_none (by decide) hstagingCol)
  · have heirCol : (df.resolveColumn? eirAliases).getD "Effective Interest Rate" ∈ df.columns :=
      hcolumns _ (by simp [eadRequiredColumns])
    exact absurd heir (resolveColumn_ne_none (by decide) heirCol)
  · have hunique := hrest.issues_eq_nil_of_next hnil
    have hempty := (AddsBlocks.uniqueness env df sheetName _ _ _).issues_eq_nil_of_next hunique
    refine ⟨hcolumns, ?_, ?_⟩
    · have hkeys := AddsBlocks.nodup_of_uniqueness hempty (by simpa using hloanId) hunique
      have hmap : df.rows.map (Record.keyOf ["Loan ID"])
          = (df.rows.map (·.cell "Loan ID")).map fun c => [c] := by
        rw [List.map_map]
        rfl
      rw [hmap] at hkeys
      exact hkeys.of_map _
    · intro r hr hblank
      have hfalse := AddsBlocks.rows_of_checkRows hheader hloanId hempty r hr
      simp [hblank, Cell.isNa] at hfalse

end EclServer.Engine
