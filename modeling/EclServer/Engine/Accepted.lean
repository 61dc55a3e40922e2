import EclServer.Engine.Validators

/-!
What the validators have seen to in the sheets they accept.

* `AddsBlocks.passed`: a check without findings had none before it and finds none alone.
* `checkRows_eq_empty`, `checkValidDates_eq_empty`, `checkDateOrder_eq_empty`,
  `checkEnumValuesGrouped_eq_empty`: what it means that a check finds nothing.
* `PdChecked`, `LgdChecked`, `EadRules`: the cells of an accepted sheet, and only of one
  (`isValid_iff_pdChecked`, `isValid_iff_lgdChecked`, `isValid_iff_eadRules`).
-/

namespace EclServer.Engine

open EclServer.Library

variable {env : PyEnv} {df : Frame} {column sheetName title : String}

/-! ### Checks that find nothing -/

lemma ValidationResult.eq_empty {a : ValidationResult} (h : a.issues = []) : a = {} := by
  cases a with
  | mk issues _ =>
      obtain rfl : issues = [] := h
      rfl

namespace AddsBlocks

/-- A check that ends without findings started without any, and finds none by itself. -/
lemma passed {check : ValidationResult → ValidationResult} {a : ValidationResult}
    (hadds : ∀ a, AddsBlocks a (check a)) (h : check a = {}) : a = {} ∧ check {} = {} := by
  obtain rfl : a = {} :=
    ValidationResult.eq_empty ((hadds a).issues_eq_nil_of_next (congrArg (·.issues) h))
  exact ⟨rfl, h⟩

/-- Where nothing blocks, nothing was found. -/
lemma eq_empty {a : ValidationResult} (h : AddsBlocks {} a) (hvalid : a.isValid = true) : a = {} :=
  ValidationResult.eq_empty (h.issues_eq_nil hvalid)

end AddsBlocks

lemma checkRows_eq_empty {invalid : Record → Bool} {fix : Cell → String}
    (hcolumn : column ∈ df.columns) (h : checkRows df column sheetName title {} invalid fix = {}) :
    ∀ r ∈ df.rows, invalid r = false :=
  AddsBlocks.rows_of_checkRows rfl hcolumn (congrArg (·.issues) h)

/-- A checked date column has no cell that is not blank and not a date. -/
lemma checkValidDates_eq_empty {fix : Cell → String} (hcolumn : column ∈ df.columns)
    (h : (checkValidDates env df column sheetName title {} fix).1 = {}) :
    ∀ p ∈ df.rows.zip (env.coerceDatetime (df.column column)),
      p.1.cell column ≠ .blank → p.2 ≠ none := by
  have hroom : ¬ (column ∉ df.columns ∨ ({} : ValidationResult).remainingCapacity = 0) := by
    rintro (habsent | hzero)
    · exact habsent hcolumn
    · exact absurd hzero (by decide)
  rw [checkValidDates, if_neg hroom] at h
  have hnone := AddsBlocks.foldl_addBlock_eq_nil rfl (congrArg (·.issues) h)
  intro p hp hblank hdate
  have hvalid := List.filter_eq_nil_iff.mp hnone p hp
  simp [Cell.isNa, hblank, hdate] at hvalid

/-- The parsed dates of a checked column. -/
lemma checkValidDates_snd {fix : Cell → String} (hcolumn : column ∈ df.columns) :
    (checkValidDates env df column sheetName title {} fix).2
      = some (env.coerceDatetime (df.column column)) := by
  have hroom : ¬ (column ∉ df.columns ∨ ({} : ValidationResult).remainingCapacity = 0) := by
    rintro (habsent | hzero)
    · exact habsent hcolumn
    · exact absurd hzero (by decide)
  rw [checkValidDates, if_neg hroom]

/-- Two columns of dates are in order where there are both dates. -/
lemma checkDateOrder_eq_empty {early late : List (Option Timestamp)} {fix : String}
    (h : checkDateOrder df sheetName (some early) (some late) column title fix {} = {}) :
    ∀ p ∈ df.rows.zip (early.zip late), ∀ a ∈ p.2.1, ∀ b ∈ p.2.2, a ≤ b := by
  rw [checkDateOrder, if_neg (by decide)] at h
  have hnone := AddsBlocks.foldl_addBlock_eq_nil rfl (congrArg (·.issues) h)
  rintro ⟨r, first, second⟩ hp a ha b hb
  have hordered := List.filter_eq_nil_iff.mp hnone _ hp
  obtain rfl : first = some a := ha
  obtain rfl : second = some b := hb
  simpa using hordered

/-- Every value of a checked column is allowed. -/
lemma checkEnumValuesGrouped_eq_empty {allowed : List String} {fix : Cell → String}
    (hcolumn : column ∈ df.columns)
    (h : checkEnumValuesGrouped env df column sheetName title {} allowed fix = {}) :
    ∀ r ∈ df.rows, notAllowed env allowed (r.cell column) = false := by
  have hroom : ¬ (column ∉ df.columns ∨ ({} : ValidationResult).remainingCapacity = 0) := by
    rintro (habsent | hzero)
    · exact habsent hcolumn
    · exact absurd hzero (by decide)
  rw [checkEnumValuesGrouped, if_neg hroom] at h
  have hvalues := AddsBlocks.foldl_addBlock_eq_nil rfl (congrArg (·.issues) h)
  intro r hr
  by_contra hbad
  have hmem : r.cell column ∈ (df.column column).filter (notAllowed env allowed) :=
    List.mem_filter.mpr ⟨List.mem_map_of_mem hr, by simpa using hbad⟩
  obtain ⟨c, hc, -⟩ := exists_mem_dropDuplicates id hmem
  have hsorted := (mem_sortByKey Cell.key).mpr hc
  rw [hvalues] at hsorted
  exact absurd hsorted (List.not_mem_nil)

/-- A number in a checked column. -/
def InRange (env : PyEnv) (minValue maxValue : Option ℚ) (c : Cell) : Prop :=
  ∃ q, env.toNumeric c = some q ∧ (∀ m ∈ minValue, m ≤ q) ∧ ∀ m ∈ maxValue, q ≤ m

lemma checkNumericRange_eq_empty {minValue maxValue : Option ℚ} {fix : Cell → String}
    (hcolumn : column ∈ df.columns)
    (h : checkNumericRange env df column sheetName title {} minValue maxValue fix = {}) :
    ∀ r ∈ df.rows, InRange env minValue maxValue (r.cell column) := by
  intro r hr
  have hvalid := checkRows_eq_empty hcolumn h r hr
  split at hvalid
  · cases hvalid
  · rename_i q hq
    rw [Bool.or_eq_false_iff] at hvalid
    refine ⟨q, hq, fun m hm => ?_, fun m hm => ?_⟩
    · obtain rfl : minValue = some m := hm
      simpa using hvalid.1
    · obtain rfl : maxValue = some m := hm
      simpa using hvalid.2

/-- A text that is there. -/
def NonEmptyText (env : PyEnv) (c : Cell) : Prop := c ≠ .blank ∧ pyStrip (c.pyStr env) ≠ ""

lemma checkNonEmptyStrings_eq_empty {fix : String} (hcolumn : column ∈ df.columns)
    (h : checkNonEmptyStrings env df column sheetName title {} fix = {}) :
    ∀ r ∈ df.rows, NonEmptyText env (r.cell column) := by
  intro r hr
  have hvalid := checkRows_eq_empty hcolumn h r hr
  simpa [NonEmptyText, Cell.isNa] using hvalid

lemma checkUniqueness_eq_empty {columns : List String} {fix : String → String}
    (hcolumns : ∀ column ∈ columns, column ∈ df.columns)
    (h : checkUniqueness env df sheetName title {} columns fix = {}) :
    (df.rows.map (Record.keyOf columns)).Nodup :=
  AddsBlocks.nodup_of_uniqueness rfl hcolumns (congrArg (·.issues) h)

/-- The keys of the Loan ID check are the Loan IDs. -/
lemma nodup_keyOf_loanId :
    (df.rows.map (Record.keyOf ["Loan ID"])).Nodup ↔ (df.rows.map (·.cell "Loan ID")).Nodup := by
  have hmap : df.rows.map (Record.keyOf ["Loan ID"])
      = (df.rows.map (·.cell "Loan ID")).map fun c => [c] := by
    rw [List.map_map]
    rfl
  rw [hmap]
  exact List.nodup_map_iff fun _ _ heq => (List.cons.inj heq).1

/-! ### Accepted EAD sheets -/

/-- The date columns of an EAD sheet. -/
def dateColumns : List String :=
  ["Reporting Date", "Maturity Date", "First Payment Date", "Adjusted Maturity Date"]

/-- The dates of two columns are in order, where both are there. -/
def InOrder (env : PyEnv) (df : Frame) (early late : String) : Prop :=
  ∀ p ∈ df.rows.zip ((env.coerceDatetime (df.column early)).zip
    (env.coerceDatetime (df.column late))), ∀ a ∈ p.2.1, ∀ b ∈ p.2.2, a ≤ b

/-- What `validate_ead` has seen to. -/
structure EadChecked (env : PyEnv) (df : Frame) (allowedSegments : List String) : Prop where
  columns : ∀ name ∈ eadRequiredColumns df, name ∈ df.columns
  loanId : ∀ r ∈ df.rows, NonEmptyText env (r.cell "Loan ID")
  loanId_nodup : (df.rows.map (·.cell "Loan ID")).Nodup
  dates : ∀ name ∈ dateColumns, ∀ p ∈ df.rows.zip (env.coerceDatetime (df.column name)),
    p.1.cell name ≠ .blank → p.2 ≠ none
  staging : ∀ r ∈ df.rows,
    notAllowed env stagingValues (r.cell (resolveColumn df stagingAliases "Staging")) = false
  outstanding : ∀ r ∈ df.rows, InRange env (some 0) none (r.cell "Outstanding Amount")
  rate : ∀ r ∈ df.rows,
    InRange env (some 0) (some 1) (r.cell (resolveColumn df eirAliases "Effective Interest Rate"))
  segments : allowedSegments ≠ [] → ∀ r ∈ df.rows,
    notAllowed env (allowedSegments.map pyStrip) (r.cell "SEGMENT") = false
  maturity_order : InOrder env df "Reporting Date" "Maturity Date"
  firstPayment_order : InOrder env df "First Payment Date" "Reporting Date"
  adjusted_order : InOrder env df "First Payment Date" "Adjusted Maturity Date"

/-- All rules of `validate_ead`. -/
structure EadRules (env : PyEnv) (df : Frame) (allowedSegments : List String) : Prop
    extends EadChecked env df allowedSegments where
  frequency : ∀ r ∈ df.rows, r.cell "Repayment Frequency" ≠ .blank →
    env.upper (pyStrip ((r.cell "Repayment Frequency").pyStr env))
      ∈ defaultRepaymentFrequencies.map fun freq => env.upper (pyStrip freq)

lemma checkFrequency_eq_empty (hcolumn : "Repayment Frequency" ∈ df.columns)
    (h : checkFrequency env df sheetName {} = {}) :
    ∀ r ∈ df.rows, r.cell "Repayment Frequency" ≠ .blank →
      env.upper (pyStrip ((r.cell "Repayment Frequency").pyStr env))
        ∈ defaultRepaymentFrequencies.map fun freq => env.upper (pyStrip freq) := by
  intro r hr hblank
  by_contra hnot
  have hmasked := checkRows_eq_empty hcolumn h r hr
  rw [decide_eq_false_iff_not] at hmasked
  exact hmasked ⟨by simpa [Cell.isNa] using hblank, hnot⟩

lemma checkSegmentsConfigured_eq_empty {allowedSegments : List String}
    (hcolumn : "SEGMENT" ∈ df.columns)
    (h : checkSegmentsConfigured env df sheetName allowedSegments {} = {}) :
    allowedSegments ≠ [] → ∀ r ∈ df.rows,
      notAllowed env (allowedSegments.map pyStrip) (r.cell "SEGMENT") = false := by
  intro hsome
  rw [checkSegmentsConfigured, if_neg (by simpa using hsome)] at h
  exact checkEnumValuesGrouped_eq_empty hcolumn h

/-- A required column that goes by one of its names. -/
lemma exists_resolveColumn (names : List String) (default : String) (hdefault : default ∈ names)
    (h : (df.resolveColumn? names).getD default ∈ df.columns) :
    ∃ name, df.resolveColumn? names = some name ∧ resolveColumn df names default = name ∧
      name ∈ df.columns := by
  obtain ⟨name, hname⟩ := Option.ne_none_iff_exists'.mp (resolveColumn_ne_none hdefault h)
  refine ⟨name, hname, by rw [resolveColumn, hname, Option.getD_some], ?_⟩
  rwa [hname, Option.getD_some] at h

lemma mem_eadRequiredColumns {name : String}
    (h : name ∈ ["Loan ID", "SEGMENT", "Outstanding Amount"] ++ dateColumns) :
    name ∈ eadRequiredColumns df := by
  have hconst : ∀ name ∈ ["Loan ID", "SEGMENT", "Outstanding Amount"] ++ dateColumns,
      name ∈ ["Loan ID", "Customer ID", "SEGMENT", "Reporting Date", "Maturity Date",
        "Adjusted Maturity Date", "First Payment Date", "Outstanding Amount",
        "Repayment Frequency"] := by decide
  exact List.mem_append_left _ (List.mem_append_left _ (hconst name h))

/-- **A sheet that `validate_ead` accepts** meets its rules. -/
theorem eadRules_of_isValid {allowedSegments : List String}
    (h : (validateEad env df sheetName allowedSegments).isValid = true) :
    EadRules env df allowedSegments := by
  have haccepted := eadAccepted_of_isValid h
  have hcolumns := haccepted.columns
  obtain ⟨stagingCol, hstaging, hstagingName, hstagingMem⟩ := exists_resolveColumn
    stagingAliases "Staging" (by decide)
    (hcolumns _ (by simp [eadRequiredColumns]))
  obtain ⟨eirCol, heir, heirName, heirMem⟩ := exists_resolveColumn eirAliases
    "Effective Interest Rate" (by decide) (hcolumns _ (by simp [eadRequiredColumns]))
  have hdateMem : ∀ name ∈ dateColumns, name ∈ df.columns := fun name hname =>
    hcolumns name (mem_eadRequiredColumns (List.mem_append_right _ hname))
  have hmem : ∀ name ∈ ["Loan ID", "SEGMENT", "Outstanding Amount"], name ∈ df.columns :=
    fun name hname => hcolumns name (mem_eadRequiredColumns (List.mem_append_left _ hname))
  have hvalid := (AddsBlocks.validateEad env df sheetName allowedSegments).eq_empty h
  rw [validateEad] at hvalid
  dsimp only at hvalid
  split at hvalid
  · rename_i hcap
    rw [hvalid] at hcap
    exact absurd hcap (by decide)
  simp only [hstaging, heir] at hvalid
  -- the checks from the last to the first
  obtain ⟨hvalid, horder3⟩ := AddsBlocks.passed
    (fun a => AddsBlocks.dateOrder (a := a) df _ _ _ _ _ _) hvalid
  obtain ⟨hvalid, horder2⟩ := AddsBlocks.passed
    (fun a => AddsBlocks.dateOrder (a := a) df _ _ _ _ _ _) hvalid
  obtain ⟨hvalid, horder1⟩ := AddsBlocks.passed
    (fun a => AddsBlocks.dateOrder (a := a) df _ _ _ _ _ _) hvalid
  obtain ⟨hvalid, hfrequency⟩ := @AddsBlocks.passed (checkFrequency env df sheetName) _
    (fun a => AddsBlocks.rows df _ _ _ _ _) hvalid
  obtain ⟨hvalid, hsegments⟩ := AddsBlocks.passed
    (fun a => AddsBlocks.segmentsConfigured (a := a) env df _ _) hvalid
  obtain ⟨hvalid, hrate⟩ := AddsBlocks.passed
    (fun a => AddsBlocks.rows (a := a) df _ _ _ _ _) hvalid
  obtain ⟨hvalid, houtstanding⟩ := AddsBlocks.passed
    (fun a => AddsBlocks.rows (a := a) df _ _ _ _ _) hvalid
  obtain ⟨hvalid, hstages⟩ := AddsBlocks.passed
    (fun a => AddsBlocks.rows (a := a) df _ _ _ _ _) hvalid
  obtain ⟨hfirst, hadjustedDates⟩ := AddsBlocks.passed
    (fun a => AddsBlocks.validDates (a := a) env df _ _ _ _) hvalid
  obtain ⟨hmaturity, hfirstDates⟩ := AddsBlocks.passed
    (fun a => AddsBlocks.validDates (a := a) env df _ _ _ _) hfirst
  obtain ⟨hreporting, hmaturityDates⟩ := AddsBlocks.passed
    (fun a => AddsBlocks.validDates (a := a) env df _ _ _ _) hmaturity
  obtain ⟨hunique, hreportingDates⟩ := AddsBlocks.passed
    (fun a => AddsBlocks.validDates (a := a) env df _ _ _ _) hreporting
  obtain ⟨hempty, -⟩ := AddsBlocks.passed
    (fun a => AddsBlocks.uniqueness (a := a) env df _ _ _ _) hunique
  obtain ⟨-, hloanId⟩ := @AddsBlocks.passed (loanIdIsEmpty env df sheetName) _
    (fun a => AddsBlocks.rows df _ _ _ _ _) hempty
  have hparsed : ∀ name ∈ dateColumns, (checkDateColumn env df sheetName name {}).2
      = some (env.coerceDatetime (df.column name)) :=
    fun name hname => checkValidDates_snd (hdateMem name hname)
  rw [hreporting, hunique, hparsed "Reporting Date" (by decide),
    hparsed "Maturity Date" (by decide)] at horder1
  rw [hmaturity, hunique, hparsed "First Payment Date" (by decide),
    hparsed "Reporting Date" (by decide)] at horder2
  rw [hfirst, hmaturity, hparsed "First Payment Date" (by decide),
    hparsed "Adjusted Maturity Date" (by decide)] at horder3
  have hfrequencyMem : "Repayment Frequency" ∈ df.columns :=
    hcolumns _ (by simp [eadRequiredColumns])
  refine ⟨⟨hcolumns, checkNonEmptyStrings_eq_empty (hmem _ (by decide)) hloanId,
    haccepted.loanId_nodup, ?_, ?_, checkNumericRange_eq_empty (hmem _ (by decide)) houtstanding, ?_,
    checkSegmentsConfigured_eq_empty (hmem _ (by decide)) hsegments,
    checkDateOrder_eq_empty horder1, checkDateOrder_eq_empty horder2,
    checkDateOrder_eq_empty horder3⟩, checkFrequency_eq_empty hfrequencyMem hfrequency⟩
  · intro name hname
    simp only [dateColumns, List.mem_cons, List.not_mem_nil, or_false] at hname
    rcases hname with rfl | rfl | rfl | rfl
    · exact checkValidDates_eq_empty (hdateMem _ (by decide)) hreportingDates
    · exact checkValidDates_eq_empty (hdateMem _ (by decide)) hmaturityDates
    · exact checkValidDates_eq_empty (hdateMem _ (by decide)) hfirstDates
    · exact checkValidDates_eq_empty (hdateMem _ (by decide)) hadjustedDates
  · rw [hstagingName]
    exact checkRows_eq_empty hstagingMem hstages
  · rw [heirName]
    exact checkNumericRange_eq_empty heirMem hrate

/-- **A sheet that `validate_ead` accepts** has been seen to. -/
theorem eadChecked_of_isValid {allowedSegments : List String}
    (h : (validateEad env df sheetName allowedSegments).isValid = true) :
    EadChecked env df allowedSegments :=
  (eadRules_of_isValid h).toEadChecked

/-! ### Accepted PD sheets -/

/-- What `validate_pd` has seen to. -/
structure PdChecked (env : PyEnv) (df : Frame) (allowedSegments : List String) : Prop where
  columns : ∀ name ∈ ["Loan ID", "Staging", "Loan Amount", "SEGMENT"], name ∈ df.columns
  reporting : ∃ name, df.resolveColumn? reportingMonthAliases = some name ∧ name ∈ df.columns
  loanId : ∀ r ∈ df.rows, NonEmptyText env (r.cell "Loan ID")
  segment : ∀ r ∈ df.rows, NonEmptyText env (r.cell "SEGMENT")
  dates : ∀ name, df.resolveColumn? reportingMonthAliases = some name →
    ∀ p ∈ df.rows.zip (env.coerceDatetime (df.column name)), p.1.cell name ≠ .blank → p.2 ≠ none
  staging : ∀ r ∈ df.rows, notAllowed env stagingValues (r.cell "Staging") = false
  amount : ∀ r ∈ df.rows, InRange env (some 0) none (r.cell "Loan Amount")
  segments : allowedSegments ≠ [] → ∀ r ∈ df.rows,
    notAllowed env (allowedSegments.map pyStrip) (r.cell "SEGMENT") = false
  unique : ∀ name, df.resolveColumn? reportingMonthAliases = some name →
    (df.rows.map (Record.keyOf ["Loan ID", name])).Nodup

/-- **A sheet that `validate_pd` accepts** has been seen to. -/
theorem pdChecked_of_isValid {allowedSegments : List String}
    (h : (validatePd env df sheetName allowedSegments).isValid = true) :
    PdChecked env df allowedSegments := by
  have hvalid := (AddsBlocks.validatePd env df sheetName allowedSegments).eq_empty h
  rw [validatePd] at hvalid
  dsimp only at hvalid
  split at hvalid
  · rename_i hcap
    rw [hvalid] at hcap
    exact absurd hcap (by decide)
  split at hvalid
  · rename_i hnone
    -- the default name would be missing
    have hcolumns := AddsBlocks.mem_of_requiredColumns (congrArg (·.issues) hvalid)
    exact absurd hnone (@resolveColumn_ne_none df reportingMonthAliases "Reporting Month"
      (by decide) (hcolumns _ (by simp)))
  rename_i reportingCol hreporting
  obtain ⟨hvalid, hunique⟩ := AddsBlocks.passed
    (fun a => AddsBlocks.uniqueness (a := a) env df _ _ _ _) hvalid
  obtain ⟨hvalid, hsegments⟩ := AddsBlocks.passed
    (fun a => AddsBlocks.segmentsConfigured (a := a) env df _ _) hvalid
  obtain ⟨hvalid, hamount⟩ := AddsBlocks.passed
    (fun a => AddsBlocks.rows (a := a) df _ _ _ _ _) hvalid
  obtain ⟨hvalid, hstages⟩ := AddsBlocks.passed
    (fun a => AddsBlocks.rows (a := a) df _ _ _ _ _) hvalid
  obtain ⟨hvalid, hdates⟩ := AddsBlocks.passed
    (fun a => AddsBlocks.validDates (a := a) env df _ _ _ _) hvalid
  obtain ⟨hvalid, hsegment⟩ := AddsBlocks.passed
    (fun a => AddsBlocks.rows (a := a) df _ _ _ _ _) hvalid
  obtain ⟨hheader, hloanId⟩ := @AddsBlocks.passed (loanIdIsEmpty env df sheetName) _
    (fun a => AddsBlocks.rows df _ _ _ _ _) hvalid
  have hcolumns := AddsBlocks.mem_of_requiredColumns (congrArg (·.issues) hheader)
  have hmem : ∀ name ∈ ["Loan ID", "Staging", "Loan Amount", "SEGMENT"], name ∈ df.columns :=
    fun name hname => hcolumns name (List.mem_append_left _ hname)
  have hreportingMem : reportingCol ∈ df.columns := hcolumns _ (by simp [hreporting])
  have hsame : ∀ name, df.resolveColumn? reportingMonthAliases = some name → name = reportingCol :=
    fun name hname => Option.some.inj (hname.symm.trans hreporting)
  refine ⟨hmem, ⟨reportingCol, hreporting, hreportingMem⟩,
    checkNonEmptyStrings_eq_empty (hmem _ (by decide)) hloanId,
    checkNonEmptyStrings_eq_empty (hmem _ (by decide)) hsegment, ?_,
    checkRows_eq_empty (hmem _ (by decide)) hstages,
    checkNumericRange_eq_empty (hmem _ (by decide)) hamount,
    checkSegmentsConfigured_eq_empty (hmem _ (by decide)) hsegments, ?_⟩
  · intro name hname
    rw [hsame name hname]
    exact checkValidDates_eq_empty hreportingMem hdates
  · intro name hname
    rw [hsame name hname]
    refine checkUniqueness_eq_empty ?_ hunique
    simp [hmem "Loan ID" (by decide), hreportingMem]

/-! ### Accepted LGD sheets -/

/-- What `validate_lgd` has seen to. -/
structure LgdChecked (env : PyEnv) (df : Frame) (allowedCollateral : List String) : Prop where
  columns : ∀ name ∈ ["Customer ID", "Loan ID", "Outstanding Amount"], name ∈ df.columns
  collateral_known : ∀ name ∈ df.columns,
    name ∈ knownLgdColumns ∨ name ∈ allowedCollateral.map pyStrip
  customerId : ∀ r ∈ df.rows, NonEmptyText env (r.cell "Customer ID")
  loanId : ∀ r ∈ df.rows, NonEmptyText env (r.cell "Loan ID")
  loanId_nodup : (df.rows.map (·.cell "Loan ID")).Nodup
  outstanding : ∀ r ∈ df.rows, InRange env (some 0) none (r.cell "Outstanding Amount")
  rate : ∃ name, df.resolveColumn? lgdEirAliases = some name ∧ name ∈ df.columns ∧
    ∀ r ∈ df.rows, InRange env (some 0) (some 1) (r.cell name)
  collateral : ∀ name ∈ df.columns, name ∈ allowedCollateral.map pyStrip →
    ∀ r ∈ df.rows, InRange env (some 0) none (r.cell name)

/-- A loop of checks that ends without findings found nothing at any turn. -/
lemma foldl_eq_empty {α : Type} {check : ValidationResult → α → ValidationResult}
    (hadds : ∀ a x, AddsBlocks a (check a x)) {xs : List α} (h : xs.foldl check {} = {}) :
    ∀ x ∈ xs, check {} x = {} := by
  induction xs with
  | nil => simp
  | cons x xs ih =>
      rw [List.foldl_cons] at h
      have hfirst : check {} x = {} := ValidationResult.eq_empty
        ((AddsBlocks.foldl hadds xs _).issues_eq_nil_of_next (congrArg (·.issues) h))
      rw [hfirst] at h
      intro y hy
      rcases List.mem_cons.mp hy with rfl | hmem
      · exact hfirst
      · exact ih h y hmem

/-- **A sheet that `validate_lgd` accepts** has been seen to. -/
theorem lgdChecked_of_isValid {allowedCollateral : List String}
    (h : (validateLgd env df sheetName allowedCollateral).isValid = true) :
    LgdChecked env df allowedCollateral := by
  have hvalid := (AddsBlocks.validateLgd env df sheetName allowedCollateral).eq_empty h
  rw [validateLgd] at hvalid
  dsimp only at hvalid
  split at hvalid
  · rename_i hcap
    rw [hvalid] at hcap
    exact absurd hcap (by decide)
  split at hvalid
  · rename_i hnone
    have hcolumns := AddsBlocks.mem_of_requiredColumns (congrArg (·.issues) hvalid)
    exact absurd hnone (@resolveColumn_ne_none df lgdEirAliases
      "Effective Interest Rate (EIR)" (by decide) (hcolumns _ (by simp)))
  rename_i eirCol heir
  have hadds : ∀ (result : ValidationResult) (column : String), AddsBlocks result
      (checkNumericRange env df column sheetName (column ++ " must be non-negative") result (some 0)
        none (found env ("Enter a non-negative value for " ++ column))) :=
    fun result column => AddsBlocks.rows df _ _ _ _ _
  -- backwards through the checks: each has added nothing, as the result is empty after it
  obtain ⟨hvalid, hcollateral⟩ := AddsBlocks.passed
    (fun a => AddsBlocks.foldl hadds (df.columns.filter fun column =>
      column ∈ allowedCollateral.map pyStrip) a) hvalid
  obtain ⟨hvalid, hrate⟩ := AddsBlocks.passed
    (fun a => AddsBlocks.rows (a := a) df _ _ _ _ _) hvalid
  obtain ⟨hvalid, houtstanding⟩ := AddsBlocks.passed
    (fun a => AddsBlocks.rows (a := a) df _ _ _ _ _) hvalid
  obtain ⟨hvalid, hunique⟩ := AddsBlocks.passed
    (fun a => AddsBlocks.uniqueness (a := a) env df _ _ _ _) hvalid
  obtain ⟨hvalid, hloanId⟩ := @AddsBlocks.passed (loanIdIsEmpty env df sheetName) _
    (fun a => AddsBlocks.rows df _ _ _ _ _) hvalid
  obtain ⟨hextra, hcustomer⟩ := AddsBlocks.passed
    (fun a => AddsBlocks.rows (a := a) df _ _ _ _ _) hvalid
  have hheader := ValidationResult.eq_empty
    ((AddsBlocks.foldl (fun result column => AddsBlocks.addBlock result _ _ _ _) _
      _).issues_eq_nil_of_next (congrArg (·.issues) hextra))
  have hnoExtra := AddsBlocks.foldl_addBlock_eq_nil (congrArg (·.issues) hheader)
    (congrArg (·.issues) hextra)
  have hcolumns := AddsBlocks.mem_of_requiredColumns (congrArg (·.issues) hheader)
  have hmem : ∀ name ∈ ["Customer ID", "Loan ID", "Outstanding Amount"], name ∈ df.columns :=
    fun name hname => hcolumns name (List.mem_append_left _ hname)
  have heirMem : eirCol ∈ df.columns := hcolumns _ (by simp [heir])
  refine ⟨hmem, ?_, checkNonEmptyStrings_eq_empty (hmem _ (by decide)) hcustomer,
    checkNonEmptyStrings_eq_empty (hmem _ (by decide)) hloanId, ?_,
    checkNumericRange_eq_empty (hmem _ (by decide)) houtstanding,
    ⟨eirCol, heir, heirMem, checkNumericRange_eq_empty heirMem hrate⟩, ?_⟩
  · intro name hname
    by_contra hnot
    push Not at hnot
    have hfound := List.filter_eq_nil_iff.mp hnoExtra name hname
    simp [hnot.1, hnot.2] at hfound
  · exact nodup_keyOf_loanId.mp
      (checkUniqueness_eq_empty (by simpa using hmem "Loan ID" (by decide)) hunique)
  · intro name hname hallowed
    have hpassed := foldl_eq_empty hadds hcollateral name
      (List.mem_filter.mpr ⟨hname, decide_eq_true hallowed⟩)
    exact checkNumericRange_eq_empty hname hpassed

/-! ### Sheets that are accepted -/

lemma checkRows_of_forall {invalid : Record → Bool} {fix : Cell → String}
    (h : ∀ r ∈ df.rows, invalid r = false) :
    checkRows df column sheetName title {} invalid fix = {} := by
  have hnone : df.rows.filter invalid = [] :=
    List.filter_eq_nil_iff.mpr fun r hr => by rw [h r hr]; decide
  rw [checkRows, hnone]
  split <;> rfl

lemma checkNumericRange_of_inRange {minValue maxValue : Option ℚ} {fix : Cell → String}
    (h : ∀ r ∈ df.rows, InRange env minValue maxValue (r.cell column)) :
    checkNumericRange env df column sheetName title {} minValue maxValue fix = {} := by
  refine checkRows_of_forall fun r hr => ?_
  obtain ⟨q, hq, hmin, hmax⟩ := h r hr
  simp only [hq, Bool.or_eq_false_iff]
  constructor
  · cases minValue with
    | none => rfl
    | some m => simpa using hmin m rfl
  · cases maxValue with
    | none => rfl
    | some m => simpa using hmax m rfl

lemma checkNonEmptyStrings_of_nonEmpty {fix : String}
    (h : ∀ r ∈ df.rows, NonEmptyText env (r.cell column)) :
    checkNonEmptyStrings env df column sheetName title {} fix = {} := by
  refine checkRows_of_forall fun r hr => ?_
  obtain ⟨hblank, htext⟩ := h r hr
  simp [Cell.isNa, hblank, htext]

lemma checkUniqueness_of_nodup {columns : List String} {fix : String → String}
    (h : (df.rows.map (Record.keyOf columns)).Nodup) :
    checkUniqueness env df sheetName title {} columns fix = {} := by
  have hnone : duplicatedRows df columns = [] := by
    refine List.filter_eq_nil_iff.mpr fun r _ => ?_
    have hcount := List.nodup_iff_count_le_one.mp h (r.keyOf columns)
    simpa using hcount
  rw [checkUniqueness, hnone]
  split <;> rfl

/-- **What `validate_lgd` sees to** is all that it sees to. -/
lemma validateLgd_of_lgdChecked {allowedCollateral : List String}
    (h : LgdChecked env df allowedCollateral) :
    (validateLgd env df sheetName allowedCollateral).isValid = true := by
  obtain ⟨eirCol, heir, heirMem, hrate⟩ := h.rate
  have hrequired : (checkRequiredColumns df sheetName {} (["Customer ID", "Loan ID",
      "Outstanding Amount"] ++ [eirCol]) "LGD").1 = {} := by
    have hnone : ((["Customer ID", "Loan ID", "Outstanding Amount"] ++ [eirCol]).filter
        fun column => column ∉ df.columns) = [] := by
      refine List.filter_eq_nil_iff.mpr fun name hname => ?_
      rcases List.mem_append.mp hname with hname | hname
      · simpa using h.columns name hname
      · simpa [List.mem_singleton.mp hname] using heirMem
    rw [checkRequiredColumns, hnone]
    rfl
  have hextra : (df.columns.filter fun column =>
      column ∉ knownLgdColumns ∧ column ∉ allowedCollateral.map pyStrip) = [] := by
    refine List.filter_eq_nil_iff.mpr fun name hname => ?_
    rcases h.collateral_known name hname with hknown | hallowed
    · simp [hknown]
    · simp only [hallowed, not_true_eq_false, and_false, decide_false, Bool.false_eq_true,
        not_false_eq_true]
  have hkeys := nodup_keyOf_loanId.mpr h.loanId_nodup
  -- the amounts of the collateral columns are looked at in a loop
  have hcollateral : ∀ columns : List String, (∀ name ∈ columns,
      name ∈ df.columns ∧ name ∈ allowedCollateral.map pyStrip) →
      columns.foldl (fun result column =>
        checkNumericRange env df column sheetName (column ++ " must be non-negative") result
          (some 0) none (found env ("Enter a non-negative value for " ++ column))) {} = {} := by
    intro columns hcolumns
    induction columns with
    | nil => rfl
    | cons name names ih =>
        obtain ⟨hmem, hallowed⟩ := hcolumns name List.mem_cons_self
        rw [List.foldl_cons, checkNumericRange_of_inRange (h.collateral name hmem hallowed)]
        exact ih fun n hn => hcolumns n (List.mem_cons_of_mem _ hn)
  have hchecks : validateLgd env df sheetName allowedCollateral = {} := by
    rw [validateLgd]
    simp only [heir, Option.getD_some, hrequired, hextra, List.take_nil, List.foldl_nil]
    rw [if_neg (by decide), loanIdIsEmpty, checkLoanIdUnique, checkOutstanding,
      checkNonEmptyStrings_of_nonEmpty h.customerId, checkNonEmptyStrings_of_nonEmpty h.loanId,
      checkUniqueness_of_nodup hkeys, checkNumericRange_of_inRange h.outstanding,
      checkNumericRange_of_inRange hrate]
    refine hcollateral _ fun name hname => ?_
    obtain ⟨hmem, hallowed⟩ := List.mem_filter.mp hname
    exact ⟨hmem, of_decide_eq_true hallowed⟩
  rw [hchecks]
  rfl

lemma checkRequiredColumns_of_mem {required : List String} {templateKind : String}
    (h : ∀ name ∈ required, name ∈ df.columns) :
    (checkRequiredColumns df sheetName {} required templateKind).1 = {} := by
  have hnone : required.filter (fun column => column ∉ df.columns) = [] :=
    List.filter_eq_nil_iff.mpr fun name hname => by simpa using h name hname
  rw [checkRequiredColumns, hnone]
  rfl

lemma checkValidDates_of_forall {fix : Cell → String}
    (h : ∀ p ∈ df.rows.zip (env.coerceDatetime (df.column column)),
      p.1.cell column ≠ .blank → p.2 ≠ none) :
    (checkValidDates env df column sheetName title {} fix).1 = {} := by
  rw [checkValidDates]
  dsimp only
  rw [List.filter_eq_nil_iff.mpr]
  · split <;> rfl
  · intro p hp hmasked
    obtain ⟨hblank, hdate⟩ := of_decide_eq_true hmasked
    exact h p hp (by simpa [Cell.isNa] using hblank) hdate

lemma checkDateOrder_of_inOrder {early late : String} {fix : String}
    (h : InOrder env df early late) :
    checkDateOrder df sheetName (some (env.coerceDatetime (df.column early)))
      (some (env.coerceDatetime (df.column late))) column title fix {} = {} := by
  rw [checkDateOrder, if_neg (by decide)]
  dsimp only
  rw [List.filter_eq_nil_iff.mpr]
  · rfl
  · rintro ⟨r, first, second⟩ hp hlate
    cases first with
    | none => cases hlate
    | some a =>
        cases second with
        | none => cases hlate
        | some b => exact absurd (of_decide_eq_true hlate) (not_lt.mpr (h _ hp a rfl b rfl))

lemma checkSegmentsConfigured_of_forall {allowedSegments : List String}
    (h : allowedSegments ≠ [] → ∀ r ∈ df.rows,
      notAllowed env (allowedSegments.map pyStrip) (r.cell "SEGMENT") = false) :
    checkSegmentsConfigured env df sheetName allowedSegments {} = {} := by
  by_cases hsome : allowedSegments = []
  · rw [hsome]
    rfl
  · refine checkSegmentsConfigured_of_configured _ (List.filter_eq_nil_iff.mpr ?_)
    intro c hc
    obtain ⟨r, hr, rfl⟩ := List.mem_map.mp hc
    rw [h hsome r hr]
    decide

lemma checkFrequency_of_forall
    (h : ∀ r ∈ df.rows, r.cell "Repayment Frequency" ≠ .blank →
      env.upper (pyStrip ((r.cell "Repayment Frequency").pyStr env))
        ∈ defaultRepaymentFrequencies.map fun freq => env.upper (pyStrip freq)) :
    checkFrequency env df sheetName {} = {} := by
  refine checkRows_of_forall fun r hr => ?_
  rw [decide_eq_false_iff_not]
  rintro ⟨hblank, hnot⟩
  exact hnot (h r hr (by simpa [Cell.isNa] using hblank))

/-- **A PD sheet is accepted** exactly by the rules. -/
lemma isValid_iff_pdChecked {allowedSegments : List String} :
    (validatePd env df sheetName allowedSegments).isValid = true
      ↔ PdChecked env df allowedSegments := by
  refine ⟨pdChecked_of_isValid, fun h => ?_⟩
  obtain ⟨reportingCol, hreporting, hreportingMem⟩ := h.reporting
  have hrequired : ∀ name ∈ ["Loan ID", "Staging", "Loan Amount", "SEGMENT"] ++ [reportingCol],
      name ∈ df.columns := by
    intro name hname
    rcases List.mem_append.mp hname with hname | hname
    · exact h.columns name hname
    · rw [List.mem_singleton.mp hname]
      exact hreportingMem
  have hchecks : validatePd env df sheetName allowedSegments = {} := by
    rw [validatePd]
    simp only [hreporting, Option.getD_some, checkRequiredColumns_of_mem hrequired]
    rw [if_neg (by decide), loanIdIsEmpty, checkStaging,
      checkNonEmptyStrings_of_nonEmpty h.loanId, checkNonEmptyStrings_of_nonEmpty h.segment,
      checkValidDates_of_forall (h.dates _ hreporting), checkEnumValues,
      checkRows_of_forall h.staging, checkNumericRange_of_inRange h.amount,
      checkSegmentsConfigured_of_forall h.segments,
      checkUniqueness_of_nodup (h.unique _ hreporting)]
  rw [hchecks]
  rfl

/-- **An LGD sheet is accepted** exactly by the rules. -/
lemma isValid_iff_lgdChecked {allowedCollateral : List String} :
    (validateLgd env df sheetName allowedCollateral).isValid = true
      ↔ LgdChecked env df allowedCollateral :=
  ⟨lgdChecked_of_isValid, validateLgd_of_lgdChecked⟩

/-- **An EAD sheet is accepted** exactly by the rules. -/
lemma isValid_iff_eadRules {allowedSegments : List String} :
    (validateEad env df sheetName allowedSegments).isValid = true
      ↔ EadRules env df allowedSegments := by
  refine ⟨eadRules_of_isValid, fun h => ?_⟩
  obtain ⟨stagingCol, hstaging, hstagingName, -⟩ := exists_resolveColumn
    stagingAliases "Staging" (by decide) (h.columns _ (by simp [eadRequiredColumns]))
  obtain ⟨eirCol, heir, heirName, -⟩ := exists_resolveColumn eirAliases
    "Effective Interest Rate" (by decide) (h.columns _ (by simp [eadRequiredColumns]))
  have hdateMem : ∀ name ∈ dateColumns, name ∈ df.columns := fun name hname =>
    h.columns name (mem_eadRequiredColumns (List.mem_append_right _ hname))
  have hdates : ∀ name ∈ dateColumns, checkDateColumn env df sheetName name {}
      = ({}, some (env.coerceDatetime (df.column name))) := fun name hname =>
    Prod.ext (checkValidDates_of_forall (h.dates name hname))
      (checkValidDates_snd (hdateMem name hname))
  have hkeys := nodup_keyOf_loanId.mpr h.loanId_nodup
  have hstages := hstagingName ▸ h.staging
  have hrates := heirName ▸ h.rate
  have hchecks : validateEad env df sheetName allowedSegments = {} := by
    rw [validateEad]
    simp only [hstaging, heir, checkRequiredColumns_of_mem h.columns]
    rw [if_neg (by decide), loanIdIsEmpty, checkLoanIdUnique,
      checkNonEmptyStrings_of_nonEmpty h.loanId,
      checkUniqueness_of_nodup hkeys]
    simp only [hdates "Reporting Date" (by decide), hdates "Maturity Date" (by decide),
      hdates "First Payment Date" (by decide), hdates "Adjusted Maturity Date" (by decide)]
    rw [checkStaging, checkOutstanding, checkEnumValues, checkRows_of_forall hstages,
      checkNumericRange_of_inRange h.outstanding, checkNumericRange_of_inRange hrates,
      checkSegmentsConfigured_of_forall h.segments, checkFrequency_of_forall h.frequency,
      checkDateOrder_of_inOrder h.maturity_order, checkDateOrder_of_inOrder h.firstPayment_order,
      checkDateOrder_of_inOrder h.adjusted_order]
  rw [hchecks]
  rfl

end EclServer.Engine
