import EclServer.Engine.EclBound
import EclServer.Engine.Lgd
import EclServer.Engine.SnapshotKeys
import EclServer.Library.Columns
import EclServer.Runs.Pipeline

/-!
The result tables between the stages: `app/engine/bulk_insert.py`, the loaders and
`_compute_run_totals` of `app/tasks/compute_tasks.py`.

* `toDecimal`, `decimalAmount`, `insertUnique`: what the columns and the unique constraints do to
  the rows.
* `PdResult`, `LgdResult`, `EadResult`: the stored rows, and how they are made and loaded.
* `runEngines`: the stages of a run with given files.
* `map_key_computeEad`: the rows one EAD insert adds are those of the loans and snapshot
  dates of the EAD sheet, one for each.
-/

namespace EclServer.Runs

open EclServer.Library EclServer.Engine

/-! ### Columns and constraints -/

/-- `_to_decimal` of a float: NaN is stored as zero. -/
def toDecimal (value : Option ℚ) : ℚ := value.getD 0

/-- An amount of the EAD stage, a `Decimal` already. One that is NaN would be stored as such, and
the totals of the run, which compare with it, stop: it counts as refused here. -/
def decimalAmount (value : Option ℚ) : Except String ℚ :=
  value.elim (.error "decimal.InvalidOperation") (numeric 20 6)

/-- An insert into an emptied table with a unique constraint. -/
def insertUnique {α κ : Type} [DecidableEq κ] (constraint : String) (key : α → κ) (rows : List α) :
    Except String (List α) :=
  if (rows.map key).Nodup then .ok rows
  else .error ("duplicate key value violates unique constraint \"" ++ constraint ++ "\"")

/-! ### Stored rows -/

structure PdResult where
  segment : String
  month : ℕ
  transition : LoanStage
  s1Prob : ℚ
  s2Prob : ℚ
  s3Prob : ℚ
  marginalPd : ℚ
  cureRate : ℚ
  deriving DecidableEq

structure LgdResult where
  loanId : String
  customerId : String
  eir : ℚ
  sumDiscountedCollat : ℚ
  deriving DecidableEq

structure EadResult where
  loanId : String
  customerId : String
  segment : String
  stage : String
  snapshotDate : Timestamp
  periodSinceOrig : ℤ
  periodToDiscount : ℕ
  monthlyInstalment : ℚ
  balAfterRepayment : ℚ
  balAfterMissed : ℚ
  marginalPd : Option ℚ
  lgw : ℚ
  lgd : ℚ
  creditLoss : ℚ
  discountedEcl : ℚ
  deriving DecidableEq

/-- The columns of `pd_results_unique` within a run. -/
def PdResult.key (r : PdResult) : String × ℕ × LoanStage := (r.segment, r.month, r.transition)

/-- The loan and the snapshot date of a row. -/
def EadResult.key (r : EadResult) : String × Timestamp := (r.loanId, r.snapshotDate)

/-- The marginal PD of a row as sums and views take it: nothing where it is `NULL`. -/
def EadResult.hazard (r : EadResult) : ℚ := r.marginalPd.getD 0

section Records

variable (env : PyEnv)

/-- `_pd_records` of one row. -/
def pdRecord (row : PdTableRow) : Except String PdResult := do
  return {
    segment := row.segment.pyStr env
    month := row.month
    transition := row.transition
    s1Prob := ← numeric 10 8 row.stage1Prob
    s2Prob := ← numeric 10 8 row.stage2Prob
    s3Prob := ← numeric 10 8 row.stage3Prob
    marginalPd := ← numeric 10 8 row.marginalPd
    cureRate := ← numeric 10 8 row.cureRate }

/-- `_lgd_records` of one row. A sum that is NaN is stored as such, and `compute_ead` takes it
as zero. -/
def lgdRecord (row : Record) : Except String LgdResult := do
  return {
    loanId := (row.cell "Loan ID").pyStr env
    customerId := (row.cell "Customer ID").pyStr env
    eir := ← numeric 10 8 (toDecimal (← (row.cell "EIR").toFloat env))
    sumDiscountedCollat := ← numeric 20 6 (toDecimal (← (row.cell lgdSumCol).toFloat env)) }

/-- The rows of the LGD stage of a sheet. -/
def lgdResultsOf (df : Frame) (config : List CollateralConfig) :
    Except String (List LgdResult) := do
  (← computeLgd df config).rows.mapM (lgdRecord env)

/-- The marginal PD that a row shows, a blank one as `NULL`. (A text that `Decimal` reads as NaN
counts as one that it does not read.) -/
def decimalPd : Cell → Except String (Option ℚ)
  | .blank => .ok none
  | .num q => .ok (some q)
  | .str s =>
      match env.toFloat s with
      | .ok (some q) => .ok (some q)
      | _ => .error "decimal.InvalidOperation"
  | .date _ => .error "decimal.InvalidOperation"

/-- `_ead_records` of one row. -/
def eadRecord (row : EclRow) : Except String EadResult :=
  match row.snapshotDate, row.periodSinceOrigination with
  | none, _ => .error "ValueError: NaTType does not support date"
  | some _, none => .error "ValueError: cannot convert float NaN to integer"
  | some snapshotDate, some period => do
      return {
        loanId := row.loanId.pyStr env
        customerId := row.customerId.pyStr env
        segment := row.segment.pyStr env
        stage := row.staging.pyStr env
        snapshotDate := dateOf snapshotDate
        periodSinceOrig := period
        periodToDiscount := row.periodToBeDiscounted
        monthlyInstalment := ← decimalAmount row.monthlyInstalment
        balAfterRepayment := ← decimalAmount row.balanceAfterRepayment
        balAfterMissed := ← decimalAmount row.balanceAfterMissedPayment
        marginalPd := ← (← decimalPd env row.shownMarginalPd).mapM (numeric 10 8)
        lgw := ← numeric 10 8 (toDecimal row.lgw)
        lgd := ← numeric 10 8 (toDecimal row.lgd)
        creditLoss := ← decimalAmount row.creditLoss
        discountedEcl := ← decimalAmount row.discountedEcl }

end Records

/-- A row of `_load_pd_dataframe`. -/
def loadPdRow (r : PdResult) : PdTableRow where
  segment := .str r.segment
  month := r.month
  transition := r.transition
  stage1Prob := r.s1Prob
  stage2Prob := r.s2Prob
  stage3Prob := r.s3Prob
  marginalPd := r.marginalPd
  cureRate := r.cureRate

/-- A loaded segment is a text. -/
lemma segment_of_mem_loadPdRow (pd : List PdResult) :
    ∀ t ∈ pd.map loadPdRow, ∃ s, t.segment = .str s := by
  intro t ht
  obtain ⟨r, -, rfl⟩ := List.mem_map.mp ht
  exact ⟨_, rfl⟩

/-- A cell of `_load_lgd_dataframe`. -/
def loadLgdCell (r : LgdResult) (name : String) : Cell :=
  if name = "Loan ID" then .str r.loanId
  else if name = "Customer ID" then .str r.customerId
  else if name = "EIR" then .num r.eir
  else if name = lgdSumCol then .num r.sumDiscountedCollat
  else .blank

/-- `_load_lgd_dataframe`. -/
def loadLgdFrame (rows : List LgdResult) : Frame where
  columns := ["Loan ID", "Customer ID", "EIR", lgdSumCol]
  rows := rows.mapIdx fun i r => ⟨i, loadLgdCell r⟩

/-- `_compute_run_totals`: the sum over all rows, and each loan's greatest balance. -/
def computeRunTotals (rows : List EadResult) : RunTotals :=
  let totalEcl := (rows.map (·.discountedEcl)).sum
  let totalOutstanding := ((groupKeys EadResult.loanId rows).map fun loanId =>
    (((groupBy EadResult.loanId rows loanId).map (·.balAfterMissed)).max?).getD 0).sum
  { totalEcl := totalEcl
    totalOutstanding := totalOutstanding
    coverageRatio := if 0 < totalOutstanding then totalEcl / totalOutstanding else 0 }

/-! ### The stages of a run -/

/-- What the stages of a run read: the combined sheets of its PD and EAD files, and the rows
`compute_lgd` makes of its LGD files. -/
structure RunInput where
  py : PyEnv
  pdInput : Frame
  eadInput : Frame
  lgdRows : Except String (List LgdResult)

/-- The stages with their inserts. -/
def runEngines (input : RunInput) : Engines PdResult LgdResult EadResult where
  computePd := do
    let output ← Engine.computePd input.py input.pdInput
    insertUnique "pd_results_unique" PdResult.key (← output.table.mapM (pdRecord input.py))
  computeLgd := do
    insertUnique "lgd_results_unique" LgdResult.loanId (← input.lgdRows)
  computeEad pd lgd := do
    let (rows, warnings) ← Engine.computeEad input.py input.eadInput (pd.map loadPdRow)
      (loadLgdFrame lgd)
    return (← rows.mapM (eadRecord input.py), warnings)
  totals := computeRunTotals

/-! ### One insert of the EAD stage -/

section

variable {input : RunInput}

lemma nodup_of_insertUnique {α κ : Type} [DecidableEq κ] {constraint : String} {key : α → κ}
    {rows out : List α} (h : insertUnique constraint key rows = .ok out) :
    (out.map key).Nodup := by
  rw [insertUnique] at h
  split at h
  · rename_i hnodup
    rwa [← Except.ok.inj h]
  · simp at h

/-- A stored row has the key of the row it is made of. -/
lemma key_of_pdRecord {env : PyEnv} {row : PdTableRow} {r : PdResult}
    (h : pdRecord env row = .ok r) : r.key = (row.segment.pyStr env, row.month, row.transition) := by
  obtain ⟨_, _, h⟩ := bind_eq_ok.mp h
  obtain ⟨_, _, h⟩ := bind_eq_ok.mp h
  obtain ⟨_, _, h⟩ := bind_eq_ok.mp h
  obtain ⟨_, _, h⟩ := bind_eq_ok.mp h
  obtain ⟨_, _, h⟩ := bind_eq_ok.mp h
  rw [← Except.ok.inj h]
  rfl

/-- A row of shares is stored, with each share rounded. -/
lemma exists_pdRecord {env : PyEnv} {row : PdTableRow}
    (h : ∀ q ∈ [row.stage1Prob, row.stage2Prob, row.stage3Prob, row.marginalPd, row.cureRate],
      |q| ≤ 1) : ∃ r, pdRecord env row = .ok r := by
  have hfits : ∀ q ∈ [row.stage1Prob, row.stage2Prob, row.stage3Prob, row.marginalPd,
      row.cureRate], ∃ v, numeric 10 8 q = .ok v := by
    intro q hq
    refine exists_numeric ?_
    have hle := h q hq
    norm_num
    linarith
  obtain ⟨s1, hs1⟩ := hfits row.stage1Prob (by simp)
  obtain ⟨s2, hs2⟩ := hfits row.stage2Prob (by simp)
  obtain ⟨s3, hs3⟩ := hfits row.stage3Prob (by simp)
  obtain ⟨marginal, hmarginal⟩ := hfits row.marginalPd (by simp)
  obtain ⟨cure, hcure⟩ := hfits row.cureRate (by simp)
  simp only [pdRecord, hs1, hs2, hs3, hmarginal, hcure, bind, Except.bind]
  exact ⟨_, rfl⟩

/-- **The insert of the PD stage** stores the table of a sheet without negative amounts whose
segments differ as texts. -/
lemma exists_computePd {rows : List PdRow}
    (hamounts : NonnegAmounts input.py (rows.map (·.loanAmount)))
    (hsegments : ((segmentsOf input.py (nextStaging rows)).map (Cell.pyStr input.py)).Nodup)
    (h : Engine.computePd input.py input.pdInput = .ok (pdOutput input.py rows)) :
    ∃ pd, (pdOutput input.py rows).table.mapM (pdRecord input.py) = .ok pd ∧
      (runEngines input).computePd = .ok pd := by
  have hsound := pdOutput_sound hamounts
  obtain ⟨pd, hpd⟩ := exists_mapM_ok (l := (pdOutput input.py rows).table)
    (f := pdRecord input.py) fun row hrow => by
      refine exists_pdRecord ?_
      obtain ⟨h1, h2, h3⟩ := hsound.nonneg row hrow
      have hsum := hsound.sum_le_one row hrow
      obtain ⟨segment, _, st, n, _, rfl⟩ := mem_table.mp hrow
      obtain ⟨hmarginal, hmarginal'⟩ := hsound.marginal_mem _ hrow
      obtain ⟨hcure, hcure'⟩ := cureRatesOf_mem hamounts segment
      simp only [List.forall_mem_cons, List.not_mem_nil, false_imp_iff, implies_true, and_true]
      have hneg : ∀ {q : ℚ}, 0 ≤ q → -1 ≤ q := fun hq => by linarith
      exact ⟨abs_le.mpr ⟨hneg h1, by linarith⟩, abs_le.mpr ⟨hneg h2, by linarith⟩,
        abs_le.mpr ⟨hneg h3, by linarith⟩, abs_le.mpr ⟨hneg hmarginal, hmarginal'⟩,
        abs_le.mpr ⟨hneg hcure, hcure'⟩⟩
  have hkeys : pd.map PdResult.key = (pdOutput input.py rows).table.map fun row =>
      (row.segment.pyStr input.py, row.month, row.transition) :=
    map_eq_of_mapM_ok hpd fun _ _ => key_of_pdRecord
  have hinj : Set.InjOn (Cell.pyStr input.py) {c | c ∈ segmentsOf input.py (nextStaging rows)} :=
    List.inj_on_of_nodup_map hsegments
  have hnodup : (pd.map PdResult.key).Nodup := by
    rw [hkeys]
    have htable : ((pdOutput input.py rows).table.map fun r => (r.groupKey, r.month)).Nodup :=
      nodup_map_pdTable (nodup_segmentsOf input.py (nextStaging rows))
    rw [List.Nodup, List.pairwise_map] at htable ⊢
    refine htable.imp_of_mem fun {a b} ha hb hne hsame => hne ?_
    obtain ⟨s, hs, _, _, _, rfl⟩ := mem_table.mp ha
    obtain ⟨s', hs', _, _, _, rfl⟩ := mem_table.mp hb
    obtain ⟨hsegment, hrest⟩ := Prod.mk.inj hsame
    obtain ⟨hmonth, hstage⟩ := Prod.mk.inj hrest
    exact Prod.ext (Prod.ext (hinj hs hs' hsegment) hstage) hmonth
  refine ⟨pd, hpd, ?_⟩
  simp only [runEngines, h, bind, Except.bind, hpd]
  rw [insertUnique, if_pos hnodup]

/-- The PD table of a run has no key twice. -/
lemma nodup_computePd {pd : List PdResult} (h : (runEngines input).computePd = .ok pd) :
    (pd.map PdResult.key).Nodup := by
  obtain ⟨output, _, h⟩ := bind_eq_ok.mp h
  obtain ⟨rows, _, h⟩ := bind_eq_ok.mp h
  exact nodup_of_insertUnique h

/-- At most one row of a PD table without double keys matches a snapshot. -/
lemma length_filter_loadPdRow {pd : List PdResult} (h : (pd.map PdResult.key).Nodup)
    (w : WalkedRow) : ((pd.map loadPdRow).filter (matchesPd w)).length ≤ 1 := by
  rw [List.filter_map, List.length_map]
  refine length_filter_le_one_of_key PdResult.key h fun a b ha hb => ?_
  simp only [Function.comp_apply, matchesPd, decide_eq_true_eq] at ha hb
  obtain ⟨haseg, hamonth, hastage⟩ := ha
  obtain ⟨hbseg, hbmonth, hbstage⟩ := hb
  have hseg : a.segment = b.segment := Cell.str.inj (haseg.symm.trans hbseg)
  have hmonth : a.month = b.month := by
    have hcast := Option.some.inj (hamonth.symm.trans hbmonth)
    exact_mod_cast hcast
  have hstage : a.transition = b.transition :=
    LoanStage.text_injective (Cell.str.inj (hastage.symm.trans hbstage))
  rw [PdResult.key, PdResult.key, hseg, hmonth, hstage]

/-- A stored row has the loan and the snapshot date of the row it is made of. -/
lemma keyOf?_of_eadRecord {env : PyEnv} {row : EclRow} {r : EadResult}
    (h : eadRecord env row = .ok r) : keyOf? env row.loanId row.snapshotDate = some r.key := by
  rw [eadRecord] at h
  split at h
  · simp at h
  · simp at h
  · rename_i snapshotDate period hdate _
    obtain ⟨_, _, h⟩ := bind_eq_ok.mp h
    obtain ⟨_, _, h⟩ := bind_eq_ok.mp h
    obtain ⟨_, _, h⟩ := bind_eq_ok.mp h
    obtain ⟨_, _, h⟩ := bind_eq_ok.mp h
    obtain ⟨_, _, h⟩ := bind_eq_ok.mp h
    obtain ⟨_, _, h⟩ := bind_eq_ok.mp h
    obtain ⟨_, _, h⟩ := bind_eq_ok.mp h
    obtain ⟨_, _, h⟩ := bind_eq_ok.mp h
    obtain ⟨_, _, h⟩ := bind_eq_ok.mp h
    rw [← Except.ok.inj h, hdate]
    rfl

lemma map_key_of_mapM_eadRecord {env : PyEnv} {rows : List EclRow} {records : List EadResult}
    (h : rows.mapM (eadRecord env) = .ok records) :
    records.map EadResult.key = rows.filterMap fun row => keyOf? env row.loanId row.snapshotDate := by
  have hrows := forall₂_of_mapM_ok h
  clear h
  induction hrows with
  | nil => rfl
  | cons hrow _ ih => rw [List.map_cons, List.filterMap_cons, keyOf?_of_eadRecord hrow, ih]

/-- **One insert of the EAD stage** has the loans and snapshot dates of the EAD sheet. -/
theorem map_key_computeEad {pd : List PdResult} {lgd : List LgdResult} {rows : List EadResult}
    {warnings : List String} (hpd : (pd.map PdResult.key).Nodup)
    (h : (runEngines input).computeEad pd lgd = .ok (rows, warnings)) :
    (rows.map EadResult.key).Perm (snapshotKeys input.py input.eadInput) := by
  obtain ⟨⟨out, warned⟩, hout, h⟩ := bind_eq_ok.mp h
  obtain ⟨records, hrecords, h⟩ := bind_eq_ok.mp h
  obtain ⟨rfl, _⟩ := Prod.mk.inj (Except.ok.inj h)
  rw [map_key_of_mapM_eadRecord hrecords]
  exact keys_perm (length_filter_loadPdRow hpd) hout

end

end EclServer.Runs
