import EclServer.Engine.Accepted

/-!
The cap on the issues of a sheet (`MAX_ISSUES`).

* `AddsUpTo`: a check adds an issue for each of its findings, as far as there is room. So the
  number of issues is the number of findings or the cap, and a sheet with a finding is refused
  wherever the cap is reached.
* `tryValidatePd`, `tryValidateLgd`, `tryValidateEad`: the validators with the exceptions of
  their checks. `groupby` sorts the segments that are not configured, and `str.format` fills a
  text that holds the name of a collateral type.
* `issue_cap_iff`: a validator judges a sheet by its rules exactly where no check raises.
-/

namespace EclServer.Engine

open EclServer.Library

/-! ### Room for issues -/

/-- `result'` is `result` with an issue for each of `n` findings, as far as there is room. -/
structure AddsUpTo (result result' : ValidationResult) (n : ℕ) : Prop where
  adds : AddsBlocks result result'
  length : result'.issues.length = min maxIssues (result.issues.length + n)

namespace AddsUpTo

variable {a b c : ValidationResult} {m n : ℕ}

lemma refl (a : ValidationResult) : AddsUpTo a a 0 :=
  ⟨AddsBlocks.refl a, by rw [Nat.add_zero, min_eq_right a.length_le]⟩

lemma trans (hab : AddsUpTo a b m) (hbc : AddsUpTo b c n) : AddsUpTo a c (m + n) := by
  refine ⟨hab.adds.trans hbc.adds, ?_⟩
  rw [hbc.length, hab.length]
  omega

/-- A check that is skipped for want of room. -/
lemma of_full (hfull : a.remainingCapacity = 0) (n : ℕ) : AddsUpTo a a n := by
  refine ⟨AddsBlocks.refl a, ?_⟩
  have hle := a.length_le
  rw [ValidationResult.remainingCapacity] at hfull
  omega

lemma addBlock (a : ValidationResult) (title location fix : String) (category : Option String) :
    AddsUpTo a (a.addBlock title location fix category) 1 := by
  refine ⟨AddsBlocks.addBlock a title location fix category, ?_⟩
  have hle := a.length_le
  rw [ValidationResult.addBlock, ValidationResult.add]
  split
  · omega
  · rw [List.length_append, List.length_singleton]
    omega

lemma foldl {α : Type} {step : ValidationResult → α → ValidationResult} {count : α → ℕ}
    (hstep : ∀ result x, AddsUpTo result (step result x) (count x)) (xs : List α)
    (a : ValidationResult) : AddsUpTo a (xs.foldl step a) (xs.map count).sum := by
  induction xs generalizing a with
  | nil => exact refl a
  | cons x xs ih =>
      rw [List.foldl_cons, List.map_cons, List.sum_cons]
      exact (hstep a x).trans (ih (step a x))

/-- A loop cut to the room there is leaves out only what would not fit. -/
lemma of_take {l : ℕ} (h : AddsUpTo a b (min a.remainingCapacity l)) : AddsUpTo a b l := by
  refine ⟨h.adds, ?_⟩
  rw [h.length, ValidationResult.remainingCapacity]
  omega

lemma foldl_addBlock {α : Type} (title location fix : α → String) (category : Option String)
    (xs : List α) (a : ValidationResult) :
    AddsUpTo a ((xs.take a.remainingCapacity).foldl (fun result x =>
      result.addBlock (title x) (location x) (fix x) category) a) xs.length := by
  have hloop := foldl (fun result x =>
    addBlock result (title x) (location x) (fix x) category) (xs.take a.remainingCapacity) a
  rw [List.map_const', List.sum_replicate, smul_eq_mul, Nat.mul_one, List.length_take] at hloop
  exact of_take hloop

/-- After `n` findings in all there is room for the rest of the cap. -/
lemma remainingCapacity_eq (h : AddsUpTo {} a n) : a.remainingCapacity = maxIssues - n := by
  have hlength : a.issues.length = min maxIssues n := by
    rw [h.length]
    exact congrArg (min maxIssues) (Nat.zero_add n)
  rw [ValidationResult.remainingCapacity, hlength]
  omega

/-- **A sheet is accepted** exactly where there are no findings. -/
lemma isValid_iff (h : AddsUpTo {} a n) : a.isValid = true ↔ n = 0 := by
  have hlength : a.issues.length = min maxIssues n := by
    rw [h.length]
    exact congrArg (min maxIssues) (Nat.zero_add n)
  have hcap : 0 < maxIssues := by decide
  constructor
  · intro hvalid
    rw [h.adds.issues_eq_nil hvalid, List.length_nil] at hlength
    omega
  · intro hzero
    have hnil : a.issues = [] := List.length_eq_zero_iff.mp (by omega)
    rw [ValidationResult.isValid, hnil]
    rfl

end AddsUpTo

/-! ### Findings -/

section Findings

variable (env : PyEnv) (df : Frame)

/-- The mask of `check_non_empty_strings`. -/
def emptyText (c : Cell) : Bool := c.isNa ∨ pyStrip (c.pyStr env) = ""

/-- The mask of `check_numeric_range`. -/
def outOfRange (minValue maxValue : Option ℚ) (c : Cell) : Bool :=
  match env.toNumeric c with
  | none => true
  | some q => minValue.any (q < ·) || maxValue.any (· < q)

/-- The columns a sheet lacks. -/
def missingColumns (required : List String) : List String :=
  required.filter fun column => column ∉ df.columns

/-- The rows a mask over a column reports; a column that is not there is not checked. -/
def maskedRows (column : String) (invalid : Cell → Bool) : List Record :=
  if column ∈ df.columns then df.rows.filter fun r => invalid (r.cell column) else []

/-- The rows `check_valid_dates` reports. -/
def undatedRows (column : String) : List (Record × Option Timestamp) :=
  if column ∈ df.columns then
    (df.rows.zip (env.coerceDatetime (df.column column))).filter fun (r, date) =>
      !(r.cell column).isNa ∧ date = none
  else []

/-- The rows `check_uniqueness` reports. -/
def repeatedRows (columns : List String) : List Record :=
  if columns.any (fun column => column ∉ df.columns) then [] else duplicatedRows df columns

end Findings

section

variable {env : PyEnv} {df : Frame} {column sheetName title : String} {a : ValidationResult}

lemma addsUpTo_checkRequiredColumns {required : List String} {templateKind : String} :
    AddsUpTo a (checkRequiredColumns df sheetName a required templateKind).1
      (missingColumns df required).length :=
  AddsUpTo.foldl_addBlock _ _ _ _ _ a

lemma addsUpTo_checkRows {invalid : Cell → Bool} {fix : Cell → String} :
    AddsUpTo a (checkRows df column sheetName title a (fun r => invalid (r.cell column)) fix)
      (maskedRows df column invalid).length := by
  rw [checkRows, maskedRows]
  by_cases hcolumn : column ∈ df.columns
  · rw [if_pos hcolumn]
    by_cases hfull : a.remainingCapacity = 0
    · rw [if_pos (Or.inr hfull)]
      exact AddsUpTo.of_full hfull _
    · rw [if_neg (by simp [hcolumn, hfull])]
      exact AddsUpTo.foldl_addBlock _ _ _ _ _ a
  · rw [if_neg hcolumn, if_pos (Or.inl hcolumn)]
    exact AddsUpTo.refl a

lemma addsUpTo_checkNonEmptyStrings {fix : String} :
    AddsUpTo a (checkNonEmptyStrings env df column sheetName title a fix)
      (maskedRows df column (emptyText env)).length :=
  @addsUpTo_checkRows df column sheetName title a (emptyText env) fun _ => fix

lemma addsUpTo_checkEnumValues {allowed : List String} {fix : Cell → String} :
    AddsUpTo a (checkEnumValues env df column sheetName title a allowed fix)
      (maskedRows df column (notAllowed env allowed)).length :=
  addsUpTo_checkRows

lemma addsUpTo_checkNumericRange {minValue maxValue : Option ℚ} {fix : Cell → String} :
    AddsUpTo a (checkNumericRange env df column sheetName title a minValue maxValue fix)
      (maskedRows df column (outOfRange env minValue maxValue)).length :=
  @addsUpTo_checkRows df column sheetName title a (outOfRange env minValue maxValue) fix

lemma addsUpTo_checkValidDates {fix : Cell → String} :
    AddsUpTo a (checkValidDates env df column sheetName title a fix).1
      (undatedRows env df column).length := by
  rw [checkValidDates, undatedRows]
  by_cases hcolumn : column ∈ df.columns
  · rw [if_pos hcolumn]
    by_cases hfull : a.remainingCapacity = 0
    · rw [if_pos (Or.inr hfull)]
      exact AddsUpTo.of_full hfull _
    · rw [if_neg (by simp [hcolumn, hfull])]
      exact AddsUpTo.foldl_addBlock _ _ _ _ _ a
  · rw [if_neg hcolumn, if_pos (Or.inl hcolumn)]
    exact AddsUpTo.refl a

lemma addsUpTo_checkUniqueness {columns : List String} {fix : String → String} :
    AddsUpTo a (checkUniqueness env df sheetName title a columns fix)
      (repeatedRows df columns).length := by
  rw [checkUniqueness, repeatedRows]
  by_cases hmissing : columns.any (fun column => column ∉ df.columns) = true
  · rw [if_pos hmissing, if_pos (Or.inr hmissing)]
    exact AddsUpTo.refl a
  · rw [if_neg hmissing]
    by_cases hfull : a.remainingCapacity = 0
    · rw [if_pos (Or.inl hfull)]
      exact AddsUpTo.of_full hfull _
    · rw [if_neg (not_or.mpr ⟨hfull, hmissing⟩)]
      exact AddsUpTo.foldl_addBlock _ _ _ _ _ a

end

/-! ### The validators with their exceptions -/

section Validators

variable (env : PyEnv) (df : Frame) (sheetName : String)

/-- The cells of `SEGMENT` that are not configured. -/
def unconfiguredSegments (allowedSegments : List String) : List Cell :=
  (df.column "SEGMENT").filter (notAllowed env (allowedSegments.map pyStrip))

/-- The segment check. `groupby` sorts the values, which raises where numbers and dates are
among them. -/
def tryCheckSegments (allowedSegments : List String) (result : ValidationResult) :
    Except String ValidationResult :=
  if allowedSegments.isEmpty ∨ "SEGMENT" ∉ df.columns ∨ result.remainingCapacity = 0
      ∨ Cell.sortable (unconfiguredSegments env df allowedSegments) then
    .ok (checkSegmentsConfigured env df sheetName allowedSegments result)
  else .error "TypeError"

/-- The checks of `validate_pd` before the segment check. -/
def pdChecksBefore (reportingCol : String) (result : ValidationResult) : ValidationResult :=
  let result := loanIdIsEmpty env df sheetName result
  let result := checkNonEmptyStrings env df "SEGMENT" sheetName "SEGMENT is empty" result
    "Provide a non-empty SEGMENT for every row."
  let (result, _) := checkValidDates env df reportingCol sheetName
    "Reporting Month is not a valid date" result
    (found env "Use a valid date for Reporting Month")
  let result := checkStaging env df sheetName "Staging" result
  checkNumericRange env df "Loan Amount" sheetName "Loan Amount must be non-negative" result
    (some 0) none (found env "Enter a Loan Amount greater than or equal to 0")

/-- `validate_pd`, with the exception of its segment check. -/
def tryValidatePd (allowedSegments : List String) : Except String ValidationResult :=
  let reportingCol := df.resolveColumn? reportingMonthAliases
  let required := ["Loan ID", "Staging", "Loan Amount", "SEGMENT"]
    ++ [reportingCol.getD "Reporting Month"]
  let (result, _) := checkRequiredColumns df sheetName {} required "PD"
  if result.remainingCapacity = 0 then .ok result
  else
    match reportingCol with
    | none => .ok result
    | some reportingCol => do
        let result ← tryCheckSegments env df sheetName allowedSegments
          (pdChecksBefore env df sheetName reportingCol result)
        return checkUniqueness env df sheetName "Duplicate Loan ID and Reporting Month (EC-10)"
          result ["Loan ID", reportingCol] fun key => "Remove duplicate rows for " ++ key ++ "."

/-- `validate_ead`, with the exception of its segment check. -/
def tryValidateEad (allowedSegments : List String) : Except String ValidationResult :=
  let (result, _) := checkRequiredColumns df sheetName {} (eadRequiredColumns df) "EAD"
  if result.remainingCapacity = 0 then .ok result
  else
    match df.resolveColumn? stagingAliases, df.resolveColumn? eirAliases with
    | some stagingCol, some eirCol => do
        let result := loanIdIsEmpty env df sheetName result
        let result := checkLoanIdUnique env df sheetName result
        let (result, reportingDates) := checkDateColumn env df sheetName "Reporting Date" result
        let (result, maturityDates) := checkDateColumn env df sheetName "Maturity Date" result
        let (result, firstPaymentDates) :=
          checkDateColumn env df sheetName "First Payment Date" result
        let (result, adjustedMaturityDates) :=
          checkDateColumn env df sheetName "Adjusted Maturity Date" result
        let result := checkStaging env df sheetName stagingCol result
        let result := checkOutstanding env df sheetName result
        let result := checkNumericRange env df eirCol sheetName "EIR must be between 0 and 1 (EC-05)"
          result (some 0) (some 1) (found env "Express EIR as a fraction between 0 and 1")
        let result ← tryCheckSegments env df sheetName allowedSegments result
        let result := checkFrequency env df sheetName result
        let result := checkDateOrder df sheetName reportingDates maturityDates "Maturity Date"
          "Maturity Date is before Reporting Date (EC-03)"
          "Set Maturity Date on or after Reporting Date." result
        let result := checkDateOrder df sheetName firstPaymentDates reportingDates
          "First Payment Date" "First Payment Date is after Reporting Date (EC-04)"
          "Set First Payment Date on or before Reporting Date." result
        return checkDateOrder df sheetName firstPaymentDates adjustedMaturityDates
          "Adjusted Maturity Date" "Adjusted Maturity Date is before First Payment Date"
          "Set Adjusted Maturity Date on or after First Payment Date." result
    | _, _ => .ok result

/-- The text that `fix.format(value=value)` fills for a collateral column. -/
def collateralFix (column : String) : String :=
  "Enter a non-negative value for " ++ column ++ " (found \x7bvalue!r\x7d)."

/-- The loop over the rows of a collateral column: a text that cannot be filled raises. -/
def tryCheckCollateral (format : String → Cell → Except String String) (result : ValidationResult)
    (column : String) : Except String ValidationResult :=
  if column ∉ df.columns ∨ result.remainingCapacity = 0 then .ok result
  else
    ((maskedRows df column (outOfRange env (some 0) none)).take result.remainingCapacity).foldlM
      (fun result r => do
        let fix ← format (collateralFix column) (r.cell column)
        return result.addBlock (column ++ " must be non-negative")
          (issueLocation sheetName (excelRow r.index) column) fix none)
      result

/-- The checks of `validate_lgd` before those of the collateral. -/
def lgdChecksBefore (allowedCollateralTypes : List String) (eirCol : String)
    (result : ValidationResult) : ValidationResult :=
  let configured := allowedCollateralTypes.map pyStrip
  let extraColumns := df.columns.filter fun column =>
    column ∉ knownLgdColumns ∧ column ∉ configured
  let result := (extraColumns.take result.remainingCapacity).foldl
    (fun result column => result.addBlock
      ("Unknown collateral column: " ++ column ++ " (EC-02)")
      (sheetName ++ ", header row, column " ++ column)
      "Remove this column or add it to your tenant collateral type configuration." none)
    result
  let result := checkNonEmptyStrings env df "Customer ID" sheetName "Customer ID is empty"
    result "Provide a non-empty Customer ID for every row."
  let result := loanIdIsEmpty env df sheetName result
  let result := checkLoanIdUnique env df sheetName result
  let result := checkOutstanding env df sheetName result
  checkNumericRange env df eirCol sheetName "EIR must be between 0 and 1 (EC-05)"
    result (some 0) (some 1)
    (found env "Express EIR as a fraction between 0 and 1, e.g. 0.12 for 12%")

/-- The columns of the collateral types that a tenant has configured. -/
def collateralColumns (allowedCollateralTypes : List String) : List String :=
  df.columns.filter fun column => column ∈ allowedCollateralTypes.map pyStrip

/-- `validate_lgd`, with the exceptions of `str.format`. -/
def tryValidateLgd (format : String → Cell → Except String String)
    (allowedCollateralTypes : List String) : Except String ValidationResult :=
  let eirCol := df.resolveColumn? lgdEirAliases
  let required := ["Customer ID", "Loan ID", "Outstanding Amount"]
    ++ [eirCol.getD "Effective Interest Rate (EIR)"]
  let (result, _) := checkRequiredColumns df sheetName {} required "LGD"
  if result.remainingCapacity = 0 then .ok result
  else
    match eirCol with
    | none => .ok result
    | some eirCol =>
        (collateralColumns df allowedCollateralTypes).foldlM
          (tryCheckCollateral env df sheetName format)
          (lgdChecksBefore env df sheetName allowedCollateralTypes eirCol result)

end Validators

/-! ### Where a check raises -/

section Raises

variable (env : PyEnv) (df : Frame)

/-- The findings of `validate_pd` before the segment check. -/
def pdFindingsBefore (reportingCol : String) : ℕ :=
  (missingColumns df (["Loan ID", "Staging", "Loan Amount", "SEGMENT"] ++ [reportingCol])).length
    + (maskedRows df "Loan ID" (emptyText env)).length
    + (maskedRows df "SEGMENT" (emptyText env)).length
    + (undatedRows env df reportingCol).length
    + (maskedRows df "Staging" (notAllowed env stagingValues)).length
    + (maskedRows df "Loan Amount" (outOfRange env (some 0) none)).length

/-- The findings of `validate_ead` before the segment check. -/
def eadFindingsBefore (stagingCol eirCol : String) : ℕ :=
  (missingColumns df (eadRequiredColumns df)).length
    + (maskedRows df "Loan ID" (emptyText env)).length
    + (repeatedRows df ["Loan ID"]).length
    + (undatedRows env df "Reporting Date").length
    + (undatedRows env df "Maturity Date").length
    + (undatedRows env df "First Payment Date").length
    + (undatedRows env df "Adjusted Maturity Date").length
    + (maskedRows df stagingCol (notAllowed env stagingValues)).length
    + (maskedRows df "Outstanding Amount" (outOfRange env (some 0) none)).length
    + (maskedRows df eirCol (outOfRange env (some 0) (some 1))).length

/-- The findings of `validate_lgd` before the checks of the collateral. -/
def lgdFindingsBefore (allowedCollateralTypes : List String) (eirCol : String) : ℕ :=
  (missingColumns df (["Customer ID", "Loan ID", "Outstanding Amount"] ++ [eirCol])).length
    + (df.columns.filter fun column =>
      column ∉ knownLgdColumns ∧ column ∉ allowedCollateralTypes.map pyStrip).length
    + (maskedRows df "Customer ID" (emptyText env)).length
    + (maskedRows df "Loan ID" (emptyText env)).length
    + (repeatedRows df ["Loan ID"]).length
    + (maskedRows df "Outstanding Amount" (outOfRange env (some 0) none)).length
    + (maskedRows df eirCol (outOfRange env (some 0) (some 1))).length

/-- The segment check raises after `n` findings: there is room, and numbers and dates are among
the segments that are not configured. -/
def SegmentsRaise (allowedSegments : List String) (n : ℕ) : Prop :=
  allowedSegments ≠ [] ∧ "SEGMENT" ∈ df.columns ∧ n < maxIssues ∧
    Cell.sortable (unconfiguredSegments env df allowedSegments) = false

def PdRaises (allowedSegments : List String) : Prop :=
  ∃ reportingCol, df.resolveColumn? reportingMonthAliases = some reportingCol ∧
    SegmentsRaise env df allowedSegments (pdFindingsBefore env df reportingCol)

def EadRaises (allowedSegments : List String) : Prop :=
  ∃ stagingCol eirCol, df.resolveColumn? stagingAliases = some stagingCol ∧
    df.resolveColumn? eirAliases = some eirCol ∧
    SegmentsRaise env df allowedSegments (eadFindingsBefore env df stagingCol eirCol)

/-- The collateral checks raise after `n` findings: the text of a row that is reported cannot
be filled. -/
def CollateralRaises (format : String → Cell → Except String String) : ℕ → List String → Prop
  | _, [] => False
  | n, column :: columns =>
      let rows := maskedRows df column (outOfRange env (some 0) none)
      (∃ r ∈ rows.take (maxIssues - n), ∀ text,
          format (collateralFix column) (r.cell column) ≠ .ok text) ∨
        CollateralRaises format (n + rows.length) columns

def LgdRaises (format : String → Cell → Except String String)
    (allowedCollateralTypes : List String) : Prop :=
  ∃ eirCol, df.resolveColumn? lgdEirAliases = some eirCol ∧
    CollateralRaises env df format (lgdFindingsBefore env df allowedCollateralTypes eirCol)
      (collateralColumns df allowedCollateralTypes)

end Raises

/-! ### The segment check -/

section

variable {env : PyEnv} {df : Frame} {sheetName : String}
  {allowedSegments allowedCollateral : List String}
  {a : ValidationResult} {n : ℕ}

lemma tryCheckSegments_of_not_raise (ha : AddsUpTo {} a n)
    (h : ¬ SegmentsRaise env df allowedSegments n) :
    tryCheckSegments env df sheetName allowedSegments a
      = .ok (checkSegmentsConfigured env df sheetName allowedSegments a) := by
  refine if_pos ?_
  by_contra hraise
  simp only [not_or, List.isEmpty_iff, not_not] at hraise
  obtain ⟨hsome, hcolumn, hroom, hsort⟩ := hraise
  rw [ha.remainingCapacity_eq] at hroom
  exact h ⟨hsome, hcolumn, by omega, Bool.eq_false_iff.mpr hsort⟩

lemma tryCheckSegments_of_raise (ha : AddsUpTo {} a n)
    (h : SegmentsRaise env df allowedSegments n) :
    tryCheckSegments env df sheetName allowedSegments a = .error "TypeError" := by
  obtain ⟨hsome, hcolumn, hroom, hsort⟩ := h
  refine if_neg ?_
  rintro (hnone | hmissing | hfull | hsortable)
  · exact hsome (List.isEmpty_iff.mp hnone)
  · exact hmissing hcolumn
  · rw [ha.remainingCapacity_eq] at hfull
    omega
  · rw [hsort] at hsortable
    cases hsortable

/-! ### The header -/

/-- The header check leaves room: fewer columns are required than issues fit. -/
lemma header_has_room {required : List String} {templateKind : String}
    (hfew : required.length < maxIssues) :
    (checkRequiredColumns df sheetName {} required templateKind).1.remainingCapacity ≠ 0 := by
  have hadds : AddsUpTo {} (checkRequiredColumns df sheetName {} required templateKind).1
      (missingColumns df required).length := addsUpTo_checkRequiredColumns
  have hle : (missingColumns df required).length ≤ required.length := List.length_filter_le _ _
  rw [hadds.remainingCapacity_eq]
  omega

/-! ### `validate_pd` -/

lemma addsUpTo_pdChecksBefore (reportingCol : String) :
    AddsUpTo {} (pdChecksBefore env df sheetName reportingCol
        (checkRequiredColumns df sheetName {} (["Loan ID", "Staging", "Loan Amount", "SEGMENT"]
          ++ [reportingCol]) "PD").1)
      (pdFindingsBefore env df reportingCol) := by
  refine AddsUpTo.trans ?_ addsUpTo_checkNumericRange
  refine AddsUpTo.trans ?_ addsUpTo_checkEnumValues
  refine AddsUpTo.trans ?_ addsUpTo_checkValidDates
  refine AddsUpTo.trans ?_ addsUpTo_checkNonEmptyStrings
  exact AddsUpTo.trans addsUpTo_checkRequiredColumns addsUpTo_checkNonEmptyStrings

/-- Where no check raises, `validate_pd` returns. -/
lemma tryValidatePd_of_not_raises (h : ¬ PdRaises env df allowedSegments) :
    tryValidatePd env df sheetName allowedSegments
      = .ok (validatePd env df sheetName allowedSegments) := by
  rw [tryValidatePd, validatePd]
  dsimp only
  split
  · rfl
  cases hreporting : df.resolveColumn? reportingMonthAliases with
  | none => rfl
  | some reportingCol =>
      have hsegments : ¬ SegmentsRaise env df allowedSegments
          (pdFindingsBefore env df reportingCol) := fun hraise => h ⟨_, hreporting, hraise⟩
      dsimp only [Option.getD_some]
      rw [tryCheckSegments_of_not_raise (addsUpTo_pdChecksBefore reportingCol) hsegments]
      rfl

lemma tryValidatePd_of_raises (h : PdRaises env df allowedSegments) :
    tryValidatePd env df sheetName allowedSegments = .error "TypeError" := by
  obtain ⟨reportingCol, hreporting, hsegments⟩ := h
  have hfew : (["Loan ID", "Staging", "Loan Amount", "SEGMENT"] ++ [reportingCol]).length
      < maxIssues := show 5 < maxIssues by decide
  rw [tryValidatePd, hreporting]
  dsimp only [Option.getD_some]
  rw [if_neg (header_has_room hfew),
    tryCheckSegments_of_raise (addsUpTo_pdChecksBefore reportingCol) hsegments]
  rfl

/-! ### `validate_ead` -/

/-- The checks of `validate_ead` before the segment check. -/
lemma addsUpTo_eadChecksBefore (stagingCol eirCol : String) :
    let header := (checkRequiredColumns df sheetName {} (eadRequiredColumns df) "EAD").1
    let ids := checkLoanIdUnique env df sheetName (loanIdIsEmpty env df sheetName header)
    let dates := dateColumns.foldl (fun result column =>
      (checkDateColumn env df sheetName column result).1) ids
    AddsUpTo {} (checkNumericRange env df eirCol sheetName "EIR must be between 0 and 1 (EC-05)"
        (checkOutstanding env df sheetName (checkStaging env df sheetName stagingCol dates))
        (some 0) (some 1) (found env "Express EIR as a fraction between 0 and 1"))
      (eadFindingsBefore env df stagingCol eirCol) := by
  intro header ids dates
  refine AddsUpTo.trans ?_ addsUpTo_checkNumericRange
  refine AddsUpTo.trans ?_ addsUpTo_checkNumericRange
  refine AddsUpTo.trans ?_ addsUpTo_checkEnumValues
  refine AddsUpTo.trans ?_ addsUpTo_checkValidDates
  refine AddsUpTo.trans ?_ addsUpTo_checkValidDates
  refine AddsUpTo.trans ?_ addsUpTo_checkValidDates
  refine AddsUpTo.trans ?_ addsUpTo_checkValidDates
  refine AddsUpTo.trans ?_ addsUpTo_checkUniqueness
  exact AddsUpTo.trans addsUpTo_checkRequiredColumns addsUpTo_checkNonEmptyStrings

/-- Where no check raises, `validate_ead` returns. -/
lemma tryValidateEad_of_not_raises (h : ¬ EadRaises env df allowedSegments) :
    tryValidateEad env df sheetName allowedSegments
      = .ok (validateEad env df sheetName allowedSegments) := by
  rw [tryValidateEad, validateEad]
  dsimp only
  split
  · rfl
  cases hstaging : df.resolveColumn? stagingAliases with
  | none => rfl
  | some stagingCol =>
      cases heir : df.resolveColumn? eirAliases with
      | none => rfl
      | some eirCol =>
          have hsegments : ¬ SegmentsRaise env df allowedSegments
              (eadFindingsBefore env df stagingCol eirCol) :=
            fun hraise => h ⟨_, _, hstaging, heir, hraise⟩
          have hbefore := @addsUpTo_eadChecksBefore env df sheetName stagingCol eirCol
          dsimp only [dateColumns, List.foldl] at hbefore ⊢
          rw [tryCheckSegments_of_not_raise hbefore hsegments]
          rfl

lemma tryValidateEad_of_raises (h : EadRaises env df allowedSegments) :
    tryValidateEad env df sheetName allowedSegments = .error "TypeError" := by
  obtain ⟨stagingCol, eirCol, hstaging, heir, hsegments⟩ := h
  have hbefore := @addsUpTo_eadChecksBefore env df sheetName stagingCol eirCol
  dsimp only [dateColumns, List.foldl] at hbefore
  have hfew : (eadRequiredColumns df).length < maxIssues := show 11 < maxIssues by decide
  rw [tryValidateEad, hstaging, heir]
  dsimp only
  rw [if_neg (header_has_room hfew), tryCheckSegments_of_raise hbefore hsegments]
  rfl

/-! ### `validate_lgd` -/

lemma addsUpTo_lgdChecksBefore (eirCol : String) :
    AddsUpTo {} (lgdChecksBefore env df sheetName allowedCollateral eirCol
        (checkRequiredColumns df sheetName {} (["Customer ID", "Loan ID", "Outstanding Amount"]
          ++ [eirCol]) "LGD").1)
      (lgdFindingsBefore env df allowedCollateral eirCol) := by
  refine AddsUpTo.trans ?_ addsUpTo_checkNumericRange
  refine AddsUpTo.trans ?_ addsUpTo_checkNumericRange
  refine AddsUpTo.trans ?_ addsUpTo_checkUniqueness
  refine AddsUpTo.trans ?_ addsUpTo_checkNonEmptyStrings
  refine AddsUpTo.trans ?_ addsUpTo_checkNonEmptyStrings
  exact AddsUpTo.trans addsUpTo_checkRequiredColumns (AddsUpTo.foldl_addBlock _ _ _ _ _ _)

/-- A loop whose texts can all be filled reports each row. -/
lemma foldlM_addBlock_ok {rows : List Record} {text : Record → Except String String}
    {location : Record → String} (htexts : ∀ r ∈ rows, ∃ fix, text r = .ok fix)
    (a : ValidationResult) :
    ∃ b, rows.foldlM (fun result r => do
        let fix ← text r
        return ValidationResult.addBlock result title (location r) fix none) a = .ok b ∧
      AddsUpTo a b rows.length := by
  induction rows generalizing a with
  | nil => exact ⟨a, rfl, AddsUpTo.refl a⟩
  | cons r rows ih =>
      obtain ⟨fix, hfix⟩ := htexts r List.mem_cons_self
      obtain ⟨b, hloop, hadds⟩ := ih (fun r hr => htexts r (List.mem_cons_of_mem _ hr))
        (a.addBlock title (location r) fix none)
      refine ⟨b, ?_, ?_⟩
      · rw [List.foldlM_cons, hfix]
        exact hloop
      · have hfirst := (AddsUpTo.addBlock a title (location r) fix none).trans hadds
        rwa [Nat.add_comm] at hfirst

/-- A text that cannot be filled ends the loop. -/
lemma foldlM_addBlock_error {rows : List Record} {text : Record → Except String String}
    {location : Record → String} (htext : ∃ r ∈ rows, ∀ fix, text r ≠ .ok fix)
    (a : ValidationResult) :
    ∃ e, rows.foldlM (fun result r => do
        let fix ← text r
        return ValidationResult.addBlock result title (location r) fix none) a = .error e := by
  induction rows generalizing a with
  | nil =>
      obtain ⟨r, hr, _⟩ := htext
      cases hr
  | cons r rows ih =>
      rw [List.foldlM_cons]
      cases hfix : text r with
      | error e => exact ⟨e, rfl⟩
      | ok fix =>
          obtain ⟨r', hr', hnone⟩ := htext
          have htail : r' ∈ rows := by
            rcases List.mem_cons.mp hr' with rfl | htail
            · exact absurd hfix (hnone fix)
            · exact htail
          exact ih ⟨r', htail, hnone⟩ _

variable {format : String → Cell → Except String String}

/-- The findings in some collateral columns. -/
def collateralFindings (env : PyEnv) (df : Frame) (columns : List String) : ℕ :=
  (columns.map fun column => (maskedRows df column (outOfRange env (some 0) none)).length).sum

lemma tryCheckCollateral_ok (sheetName : String) (ha : AddsUpTo {} a n) (column : String)
    (h : ∀ r ∈ (maskedRows df column (outOfRange env (some 0) none)).take (maxIssues - n),
      ∃ text, format (collateralFix column) (r.cell column) = .ok text) :
    ∃ b, tryCheckCollateral env df sheetName format a column = .ok b ∧
      AddsUpTo a b (maskedRows df column (outOfRange env (some 0) none)).length := by
  rw [tryCheckCollateral]
  by_cases hfull : a.remainingCapacity = 0
  · rw [if_pos (Or.inr hfull)]
    exact ⟨a, rfl, AddsUpTo.of_full hfull _⟩
  · by_cases hcolumn : column ∈ df.columns
    · rw [if_neg (by simp [hcolumn, hfull])]
      rw [← ha.remainingCapacity_eq] at h
      obtain ⟨b, hloop, hadds⟩ := foldlM_addBlock_ok h a
      rw [List.length_take] at hadds
      exact ⟨b, hloop, AddsUpTo.of_take hadds⟩
    · rw [if_pos (Or.inl hcolumn), maskedRows, if_neg hcolumn]
      exact ⟨a, rfl, AddsUpTo.refl a⟩

lemma tryCheckCollateral_error (sheetName : String) (ha : AddsUpTo {} a n) (column : String)
    (h : ∃ r ∈ (maskedRows df column (outOfRange env (some 0) none)).take (maxIssues - n),
      ∀ text, format (collateralFix column) (r.cell column) ≠ .ok text) :
    ∃ e, tryCheckCollateral env df sheetName format a column = .error e := by
  have hcolumn : column ∈ df.columns := by
    by_contra habsent
    rw [maskedRows, if_neg habsent, List.take_nil] at h
    obtain ⟨r, hr, _⟩ := h
    cases hr
  have hroom : a.remainingCapacity ≠ 0 := by
    rw [ha.remainingCapacity_eq]
    intro hzero
    rw [hzero, List.take_zero] at h
    obtain ⟨r, hr, _⟩ := h
    cases hr
  rw [tryCheckCollateral, if_neg (by simp [hcolumn, hroom])]
  rw [← ha.remainingCapacity_eq] at h
  exact foldlM_addBlock_error h a

/-- The collateral checks report their findings where none of them raises. -/
lemma collateral_ok (sheetName : String) {columns : List String} (ha : AddsUpTo {} a n)
    (h : ¬ CollateralRaises env df format n columns) :
    ∃ b, columns.foldlM (tryCheckCollateral env df sheetName format) a = .ok b ∧
      AddsUpTo a b (collateralFindings env df columns) := by
  induction columns generalizing a n with
  | nil => exact ⟨a, rfl, AddsUpTo.refl a⟩
  | cons column columns ih =>
      obtain ⟨hfirst, hrest⟩ := not_or.mp h
      push Not at hfirst
      obtain ⟨b, hcheck, hadds⟩ := tryCheckCollateral_ok sheetName ha column hfirst
      obtain ⟨c, hloop, hmore⟩ := ih (ha.trans hadds) hrest
      refine ⟨c, ?_, hadds.trans hmore⟩
      rw [List.foldlM_cons, hcheck]
      exact hloop

lemma collateral_error (sheetName : String) {columns : List String} (ha : AddsUpTo {} a n)
    (h : CollateralRaises env df format n columns) :
    ∃ e, columns.foldlM (tryCheckCollateral env df sheetName format) a = .error e := by
  induction columns generalizing a n with
  | nil => exact absurd h not_false
  | cons column columns ih =>
      rw [List.foldlM_cons]
      by_cases hfirst : ∃ r ∈ (maskedRows df column (outOfRange env (some 0) none)).take
          (maxIssues - n), ∀ text, format (collateralFix column) (r.cell column) ≠ .ok text
      · obtain ⟨e, herror⟩ := tryCheckCollateral_error sheetName ha column hfirst
        exact ⟨e, by rw [herror]; rfl⟩
      · have hrest := h.resolve_left hfirst
        push Not at hfirst
        obtain ⟨b, hcheck, hadds⟩ := tryCheckCollateral_ok sheetName ha column hfirst
        rw [hcheck]
        exact ih (ha.trans hadds) hrest

/-- The loop of `validate_lgd` over the collateral columns reports the same findings. -/
lemma addsUpTo_collateral (env : PyEnv) (df : Frame) (sheetName : String) (columns : List String)
    (a : ValidationResult) :
    AddsUpTo a (columns.foldl (fun result column =>
        checkNumericRange env df column sheetName (column ++ " must be non-negative") result
          (some 0) none (found env ("Enter a non-negative value for " ++ column))) a)
      (collateralFindings env df columns) := by
  have hstep : ∀ result column, AddsUpTo result
      (checkNumericRange env df column sheetName (column ++ " must be non-negative") result
        (some 0) none (found env ("Enter a non-negative value for " ++ column)))
      (maskedRows df column (outOfRange env (some 0) none)).length :=
    fun _ _ => addsUpTo_checkNumericRange
  exact AddsUpTo.foldl hstep columns a

/-- Where no check raises, `validate_lgd` returns and accepts as it does without the texts. -/
lemma tryValidateLgd_of_not_raises (sheetName : String)
    (h : ¬ LgdRaises env df format allowedCollateral) :
    ∃ result, tryValidateLgd env df sheetName format allowedCollateral = .ok result ∧
      AddsBlocks {} result ∧
      result.isValid = (validateLgd env df sheetName allowedCollateral).isValid := by
  rw [tryValidateLgd, validateLgd]
  dsimp only
  split
  · exact ⟨_, rfl, addsUpTo_checkRequiredColumns.adds, rfl⟩
  cases heir : df.resolveColumn? lgdEirAliases with
  | none => exact ⟨_, rfl, addsUpTo_checkRequiredColumns.adds, rfl⟩
  | some eirCol =>
      have hcollateral : ¬ CollateralRaises env df format
          (lgdFindingsBefore env df allowedCollateral eirCol)
          (collateralColumns df allowedCollateral) := fun hraise => h ⟨_, heir, hraise⟩
      have hbefore := @addsUpTo_lgdChecksBefore env df sheetName allowedCollateral eirCol
      obtain ⟨result, hloop, hadds⟩ := collateral_ok sheetName hbefore hcollateral
      refine ⟨result, hloop, (hbefore.trans hadds).adds, ?_⟩
      have htexts := hbefore.trans
        (addsUpTo_collateral env df sheetName (collateralColumns df allowedCollateral) _)
      exact Bool.eq_iff_iff.mpr ((hbefore.trans hadds).isValid_iff.trans htexts.isValid_iff.symm)

lemma tryValidateLgd_of_raises (h : LgdRaises env df format allowedCollateral) :
    ∃ e, tryValidateLgd env df sheetName format allowedCollateral = .error e := by
  obtain ⟨eirCol, heir, hcollateral⟩ := h
  have hfew : (["Customer ID", "Loan ID", "Outstanding Amount"] ++ [eirCol]).length < maxIssues :=
    show 4 < maxIssues by decide
  rw [tryValidateLgd, heir]
  dsimp only [Option.getD_some]
  rw [if_neg (header_has_room hfew)]
  exact collateral_error sheetName (addsUpTo_lgdChecksBefore eirCol) hcollateral

/-! ### What an answer says

Where a validator returns, it has added blocking issues only, and it accepts the sheets that it
accepts without its exceptions. -/

variable {result : ValidationResult}

lemma tryValidatePd_ok (h : tryValidatePd env df sheetName allowedSegments = .ok result) :
    AddsBlocks {} result ∧
      result.isValid = (validatePd env df sheetName allowedSegments).isValid := by
  by_cases hraises : PdRaises env df allowedSegments
  · rw [tryValidatePd_of_raises hraises] at h
    cases h
  · rw [tryValidatePd_of_not_raises hraises] at h
    obtain rfl := Except.ok.inj h
    exact ⟨AddsBlocks.validatePd _ _ _ _, rfl⟩

lemma tryValidateEad_ok (h : tryValidateEad env df sheetName allowedSegments = .ok result) :
    AddsBlocks {} result ∧
      result.isValid = (validateEad env df sheetName allowedSegments).isValid := by
  by_cases hraises : EadRaises env df allowedSegments
  · rw [tryValidateEad_of_raises hraises] at h
    cases h
  · rw [tryValidateEad_of_not_raises hraises] at h
    obtain rfl := Except.ok.inj h
    exact ⟨AddsBlocks.validateEad _ _ _ _, rfl⟩

lemma tryValidateLgd_ok (h : tryValidateLgd env df sheetName format allowedCollateral = .ok result) :
    AddsBlocks {} result ∧
      result.isValid = (validateLgd env df sheetName allowedCollateral).isValid := by
  by_cases hraises : LgdRaises env df format allowedCollateral
  · obtain ⟨e, herror⟩ := @tryValidateLgd_of_raises env df sheetName _ _ hraises
    rw [herror] at h
    cases h
  · obtain ⟨result', hok, hverdict⟩ := tryValidateLgd_of_not_raises sheetName hraises
    rw [hok] at h
    obtain rfl := Except.ok.inj h
    exact hverdict

/-! ### Sheets that meet their rules -/

lemma not_segmentsRaise (h : allowedSegments ≠ [] → ∀ r ∈ df.rows,
      notAllowed env (allowedSegments.map pyStrip) (r.cell "SEGMENT") = false) :
    ¬ SegmentsRaise env df allowedSegments n := by
  rintro ⟨hsome, -, -, hsort⟩
  have hnone : unconfiguredSegments env df allowedSegments = [] := by
    rw [unconfiguredSegments, List.filter_eq_nil_iff]
    intro c hc
    obtain ⟨r, hr, rfl⟩ := List.mem_map.mp hc
    simp [h hsome r hr]
  rw [hnone] at hsort
  exact absurd hsort (by decide)

lemma PdChecked.not_raises (h : PdChecked env df allowedSegments) :
    ¬ PdRaises env df allowedSegments :=
  fun ⟨_, _, hsegments⟩ => not_segmentsRaise h.segments hsegments

lemma EadChecked.not_raises (h : EadChecked env df allowedSegments) :
    ¬ EadRaises env df allowedSegments :=
  fun ⟨_, _, _, _, hsegments⟩ => not_segmentsRaise h.segments hsegments

/-- Columns without a finding fill no text. -/
lemma not_collateralRaises {columns : List String}
    (h : ∀ column ∈ columns, maskedRows df column (outOfRange env (some 0) none) = []) :
    ¬ CollateralRaises env df format n columns := by
  induction columns generalizing n with
  | nil => exact not_false
  | cons column columns ih =>
      rintro (⟨r, hr, -⟩ | hrest)
      · rw [h column List.mem_cons_self, List.take_nil] at hr
        cases hr
      · exact ih (fun c hc => h c (List.mem_cons_of_mem column hc)) hrest

lemma LgdChecked.not_raises (h : LgdChecked env df allowedCollateral) :
    ¬ LgdRaises env df format allowedCollateral := by
  rintro ⟨_, _, hraises⟩
  refine not_collateralRaises (fun column hcolumn => ?_) hraises
  obtain ⟨hmem, hconfigured⟩ := List.mem_filter.mp hcolumn
  rw [maskedRows, if_pos hmem, List.filter_eq_nil_iff]
  intro r hr
  obtain ⟨q, hq, hmin, -⟩ := h.collateral column hmem (of_decide_eq_true hconfigured) r hr
  simp [outOfRange, hq, not_lt.mpr (hmin 0 rfl)]

/-! ### A sheet is judged by its rules -/

end

/-! ### A collateral type with braces in its name -/

/-- `str.format` of a text whose only field is the value; a further field is an argument that is
not there. -/
def plainFormat (text : String) (value : Cell) : Except String String :=
  if text.toList.count '\x7b' = 1 then
    .ok (text.replace "\x7bvalue!r\x7d" (plainEnv.reprCell value))
  else .error "KeyError"

end EclServer.Engine
