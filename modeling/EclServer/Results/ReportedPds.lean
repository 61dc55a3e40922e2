import EclServer.Engine.Accepted
import EclServer.Library.Paging
import EclServer.Results.Views
import EclServer.Runs.Idempotence

/-!
The PDs that the views show (`get_loan`, `_loan_rows_for_segment`).

* `ComputedFrom`, `hazard_mem`: the rows a run has stored, and that their marginal PDs are
  probabilities where the PD sheet has no negative amounts and the EAD sheet no column of marginal
  PDs of its own.
* `rundownRows_cumulativePd`, `pd_loanRowsForSegment`: the views add marginal PDs up, where the
  engine has defined them as hazards, conditional on what has survived.
* `PdsAreProbabilities`: the PDs shown are percentages, and the cumulative ones are what the
  hazards rebuild, up to half a unit of the second decimal.
* `ShowsOnce`, `SumsInPercent`, `reported_pds_iff`: they are exactly where what the sums count again
  does not show and the sums are percentages, as those of probabilities then are.
-/

namespace EclServer.Results

open EclServer.Library EclServer.Engine EclServer.Auth EclServer.Runs

/-! ### Percentages -/

/-- Between 0 and 100 percent. -/
def InPercent (q : ℚ) : Prop := 0 ≤ q ∧ q ≤ 100

lemma inPercent_pyRound {q : ℚ} (h0 : 0 ≤ q) (h1 : q ≤ 100) : InPercent (pyRound 2 q) := by
  have hlow := @pyRound_mono 2 _ _ h0
  have hhigh := @pyRound_mono 2 _ _ h1
  have hzero := pyRound_intCast 2 0
  have hhundred := pyRound_intCast 2 100
  rw [Int.cast_zero] at hzero
  rw [Int.cast_ofNat] at hhundred
  rw [hzero] at hlow
  rw [hhundred] at hhigh
  exact ⟨hlow, hhigh⟩

/-- Half a unit of the second decimal. -/
lemma abs_pyRound_sub_le (q : ℚ) : |pyRound 2 q - q| ≤ 1 / 200 := by
  obtain ⟨hlow, hhigh⟩ := abs_le.mp (abs_roundHalfEven_sub_le (q * 10 ^ 2))
  rw [pyRound, abs_le]
  generalize roundHalfEven (q * 10 ^ 2) = n at hlow hhigh ⊢
  constructor <;> linarith

/-- A shown value within half a unit of a percentage is one. -/
lemma pyRound_le_hundred {q p : ℚ} (hp : p ≤ 100) (h : |pyRound 2 q - p| ≤ 1 / 200) :
    pyRound 2 q ≤ 100 := by
  have hle := (abs_le.mp h).2
  rw [pyRound] at hle ⊢
  generalize roundHalfEven (q * 10 ^ 2) = n at hle ⊢
  have hnear : (n : ℚ) / 10 ^ 2 ≤ 100 + 1 / 200 := by linarith
  rw [div_le_iff₀ (by norm_num)] at hnear ⊢
  have hlt : n < 10001 := by
    have hcast : (n : ℚ) < 10001 := by
      norm_num at hnear
      linarith
    exact_mod_cast hcast
  have hcast : (n : ℚ) ≤ 10000 := by exact_mod_cast Int.le_of_lt_add_one hlt
  norm_num
  exact hcast

/-! ### Stored marginal PDs -/

/-- The rows are stored by the EAD stage of a run of the input. -/
def ComputedFrom (input : RunInput) (stored : List EadResult) : Prop :=
  ∃ pd lgd rows warnings, (runEngines input).computePd = .ok pd ∧
    (runEngines input).computeLgd = .ok lgd ∧
    (runEngines input).computeEad pd lgd = .ok (rows, warnings) ∧ ∀ r ∈ stored, r ∈ rows

/-- Each amount of the PD sheet is one of a file that `validate_pd` has accepted. -/
def AmountsAccepted (env : PyEnv) (pdInput : Frame) : Prop :=
  ∀ record ∈ pdInput.rows, ∃ df sheetName allowedSegments, ∃ row ∈ df.rows,
    (validatePd env df sheetName allowedSegments).isValid = true ∧
      row.cell "Loan Amount" = record.cell "Loan Amount"

/-- The share of a probability that a column keeps is a probability. -/
lemma numeric_mem {q v : ℚ} (h : numeric 10 8 q = .ok v) (hq : 0 ≤ q ∧ q ≤ 1) : 0 ≤ v ∧ v ≤ 1 := by
  have hzero : numeric 10 8 0 = .ok 0 := numeric_of_digits 0 (by norm_num) (by norm_num)
  have hone : numeric 10 8 1 = .ok 1 := numeric_of_digits 100000000 (by norm_num) (by norm_num)
  exact ⟨numeric_mono hzero h hq.1, numeric_mono h hone hq.2⟩

/-- A stored PD keeps its marginal PD. -/
lemma marginalPd_of_pdRecord {env : PyEnv} {row : PdTableRow} {r : PdResult}
    (h : pdRecord env row = .ok r) : numeric 10 8 row.marginalPd = .ok r.marginalPd := by
  obtain ⟨_, _, h⟩ := bind_eq_ok.mp h
  obtain ⟨_, _, h⟩ := bind_eq_ok.mp h
  obtain ⟨_, _, h⟩ := bind_eq_ok.mp h
  obtain ⟨v, hv, h⟩ := bind_eq_ok.mp h
  obtain ⟨_, _, h⟩ := bind_eq_ok.mp h
  rw [← Except.ok.inj h]
  exact hv

/-- A stored row keeps the marginal PD that is shown, here the one that was joined. -/
lemma hazard_of_eadRecord {env : PyEnv} {row : EclRow} {r : EadResult}
    (h : eadRecord env row = .ok r) (hown : row.ownMarginalPd = none) :
    numeric 10 8 row.marginalPd = .ok r.hazard := by
  rw [eadRecord] at h
  split at h
  · cases h
  · cases h
  · obtain ⟨_, _, h⟩ := bind_eq_ok.mp h
    obtain ⟨_, _, h⟩ := bind_eq_ok.mp h
    obtain ⟨_, _, h⟩ := bind_eq_ok.mp h
    obtain ⟨shown, hshown, h⟩ := bind_eq_ok.mp h
    obtain ⟨stored, hstored, h⟩ := bind_eq_ok.mp h
    obtain ⟨_, _, h⟩ := bind_eq_ok.mp h
    obtain ⟨_, _, h⟩ := bind_eq_ok.mp h
    obtain ⟨_, _, h⟩ := bind_eq_ok.mp h
    obtain ⟨_, _, h⟩ := bind_eq_ok.mp h
    rw [EclRow.shownMarginalPd, hown] at hshown
    rw [← Except.ok.inj hshown] at hstored
    rw [← Except.ok.inj h, EadResult.hazard]
    cases hv : numeric 10 8 row.marginalPd with
    | error e =>
        rw [Option.mapM_some, hv] at hstored
        cases hstored
    | ok v =>
        rw [Option.mapM_some, hv] at hstored
        rw [← Except.ok.inj hstored]
        rfl

/-- **Stored marginal PDs are probabilities**, without a column of the sheet's own: those of the
PD table, those its columns keep, and those joined to the snapshots. -/
lemma hazard_mem {input : RunInput} {stored : List EadResult}
    (hamounts : NonnegAmounts input.py (input.pdInput.column "Loan Amount"))
    (hown : "Marginal PD" ∉ input.eadInput.columns) (h : ComputedFrom input stored) :
    ∀ r ∈ stored, 0 ≤ r.hazard ∧ r.hazard ≤ 1 := by
  obtain ⟨pd, lgd, rows, warnings, hpd, -, head, hstored⟩ := h
  obtain ⟨output, houtput, hpd⟩ := bind_eq_ok.mp hpd
  obtain ⟨records, hrecords, hpd⟩ := bind_eq_ok.mp hpd
  obtain rfl : records = pd := by
    rw [insertUnique] at hpd
    split at hpd
    · exact Except.ok.inj hpd
    · cases hpd
  obtain ⟨pdRows, hread, -, rfl⟩ := readPdRows_of_computePd houtput
  have hsound := pdOutput_sound (loanAmount_nonneg hread hamounts)
  have htable : ∀ t ∈ records.map loadPdRow, 0 ≤ t.marginalPd ∧ t.marginalPd ≤ 1 := by
    intro t ht
    obtain ⟨r, hr, rfl⟩ := List.mem_map.mp ht
    obtain ⟨row, hrow, hrecord⟩ := exists_of_mem_mapM hrecords hr
    exact numeric_mem (marginalPd_of_pdRecord hrecord) (hsound.marginal_mem row hrow)
  obtain ⟨⟨out, warned⟩, hout, head⟩ := bind_eq_ok.mp head
  obtain ⟨eadRows, headRows, head⟩ := bind_eq_ok.mp head
  obtain ⟨rfl, -⟩ := Prod.mk.inj (Except.ok.inj head)
  obtain ⟨run⟩ := computeEad_ok hout
  intro r hr
  obtain ⟨row, hrow, hrecord⟩ := exists_of_mem_mapM headRows (hstored r hr)
  obtain ⟨w, hw, t, ht, rfl⟩ := run.mem_out hrow
  have hshown : (eclRow input.py (w, t)).ownMarginalPd = none := by
    obtain ⟨record, -, lgd, -, hmerged⟩ := mem_mergeLgd (run.toMergedRow_mem (toTermRow_mem hw))
    have hcolumn : w.ownMarginalPd = optionalCell input.eadInput record "Marginal PD" :=
      congrArg (fun m : MergedRow => m.ownMarginalPd) hmerged
    rw [optionalCell, if_neg hown] at hcolumn
    exact hcolumn
  refine numeric_mem (hazard_of_eadRecord hrecord hshown) ?_
  cases t with
  | none => exact ⟨le_refl _, zero_le_one⟩
  | some t => exact htable t (ht t rfl)

/-! ### Sums of hazards -/

/-- The marginal PDs of a loan, in the order of its rundown. -/
def loanHazards (stored : List EadResult) (loanId : String) : List ℚ :=
  (sortByKey (·.periodToDiscount) (stored.filter fun r => r.loanId = loanId)).map (·.hazard)

/-- The cumulative PD that hazards rebuild, in percent. -/
def cumulativePercent (hs : List ℚ) : ℚ := (1 - survival hs) * 100

/-- What the sum of the hazards counts again does not show. -/
def NotCountedAgain (hs : List ℚ) : Prop :=
  |pyRound 2 (cumulativePercent hs + countedAgain 0 hs * 100) - cumulativePercent hs| ≤ 1 / 200

/-- A loan with one hazard other than zero has nothing counted again. -/
lemma notCountedAgain_of_pairwise {hs : List ℚ} (h : hs.Pairwise fun a b => a = 0 ∨ b = 0) :
    NotCountedAgain hs := by
  rw [NotCountedAgain, countedAgain_eq_zero h, zero_mul, add_zero]
  exact abs_pyRound_sub_le _

section Hazards

variable {hs : List ℚ}

lemma percent_sum (hs : List ℚ) :
    hs.sum * 100 = cumulativePercent hs + countedAgain 0 hs * 100 := by
  rw [sum_eq_add_countedAgain, cumulativePercent]
  ring

lemma inPercent_of_notCountedAgain (hmem : ∀ m ∈ hs, 0 ≤ m ∧ m ≤ 1) (h : NotCountedAgain hs) :
    InPercent (pyRound 2 (hs.sum * 100)) := by
  have hsurvival := survival_mem hmem
  have hsum : 0 ≤ hs.sum := List.sum_nonneg fun m hm => (hmem m hm).1
  have hpercent : cumulativePercent hs ≤ 100 := by
    rw [cumulativePercent]
    linarith
  have hlow := @pyRound_mono 2 0 (hs.sum * 100) (by linarith)
  have hzero := pyRound_intCast 2 0
  rw [Int.cast_zero] at hzero
  rw [hzero] at hlow
  refine ⟨hlow, ?_⟩
  rw [NotCountedAgain, ← percent_sum] at h
  exact pyRound_le_hundred hpercent h

/-- Where the sum of each first part is a percentage, the sum of any is: of nothing, of such a part
and of all. -/
lemma inPercent_take
    (h : ∀ k < hs.length, InPercent (pyRound 2 ((hs.take (k + 1)).sum * 100))) (n : ℕ) :
    InPercent (pyRound 2 ((hs.take n).sum * 100)) := by
  have hnothing : InPercent (pyRound 2 (([] : List ℚ).sum * 100)) := by
    rw [List.sum_nil, zero_mul]
    exact inPercent_pyRound (le_refl _) (by norm_num)
  cases n with
  | zero => exact hnothing
  | succ n =>
      by_cases hn : n < hs.length
      · exact h n hn
      · rw [List.take_of_length_le (by omega)]
        rcases hlength : hs.length with _ | k
        · rwa [List.length_eq_zero_iff.mp hlength]
        · have hwhole := h k (by omega)
          rwa [List.take_of_length_le (by omega)] at hwhole

end Hazards

/-! ### The rundown -/

lemma length_rundownRows (cumulative : ℚ) (rows : List EadResult) :
    (rundownRows cumulative rows).length = rows.length := by
  induction rows generalizing cumulative with
  | nil => rfl
  | cons r rows ih => rw [rundownRows, List.length_cons, ih, List.length_cons]

/-- **The cumulative PD shown** is the sum of the marginal PDs so far. -/
lemma rundownRows_cumulativePd {cumulative : ℚ} {rows : List EadResult} {k : ℕ}
    {row : MonthlyRundownOut} (h : (rundownRows cumulative rows)[k]? = some row) :
    row.cumulativePd
      = pyRound 2 ((cumulative + ((rows.map (·.hazard)).take (k + 1)).sum) * 100) := by
  induction rows generalizing cumulative k with
  | nil => cases h
  | cons r rows ih =>
      rw [rundownRows] at h
      rw [List.map_cons, List.take_succ_cons, List.sum_cons]
      cases k with
      | zero =>
          obtain rfl := Option.some.inj h
          rw [List.take_zero, List.sum_nil, add_zero]
      | succ k =>
          rw [List.getElem?_cons_succ] at h
          rw [ih h, add_assoc]

/-- What is summed for the 12-month PD of a loan. -/
def firstYearSum (rows : List EadResult) (loanId : String) : ℚ :=
  ((groupBy EadResult.loanId (rows.filter fun r => r.periodToDiscount ≤ 12) loanId).map
    (·.hazard)).sum

/-- The first twelve months are the front of the rundown. -/
lemma exists_firstYear (stored : List EadResult) (loanId : String) :
    ∃ n, firstYearSum stored loanId = ((loanHazards stored loanId).take n).sum := by
  set rows := stored.filter fun r => r.loanId = loanId with hrows
  have hfront := filter_lt_eq_take (sortByKey_sorted EadResult.periodToDiscount rows) 13
  refine ⟨(sortByKey EadResult.periodToDiscount rows).countP fun r => r.periodToDiscount < 13, ?_⟩
  rw [loanHazards, ← List.map_take, ← hrows, ← hfront]
  have hperm := (((sortByKey_perm EadResult.periodToDiscount rows).filter fun r =>
    r.periodToDiscount < 13).map (·.hazard)).sum_eq
  rw [hperm, firstYearSum, groupBy, List.filter_comm]
  refine congrArg (fun l => (List.map EadResult.hazard l).sum) (List.filter_congr fun r _ => ?_)
  exact decide_eq_decide.mpr Nat.lt_succ_iff.symm

/-! ### The views -/

section Views

variable (env : ViewEnv) (db : ResultsDb) (tenantId : String) (runId : Option String) (user : User)
  (membership : Option TenantMembership)

/-- **The PDs shown are probabilities**: those of a loan and of the list of a segment's loans are
percentages, and each cumulative PD is what the hazards so far rebuild, up to half a unit of the
second decimal. -/
structure PdsAreProbabilities (stored : List EadResult) (r : Run) : Prop where
  loan : ∀ loanId view, getLoan env db tenantId loanId runId user membership = .ok view →
    InPercent view.pd ∧ ∀ k row, view.rundown[k]? = some row → InPercent row.cumulativePd ∧
      |row.cumulativePd - cumulativePercent ((loanHazards stored loanId).take (k + 1))| ≤ 1 / 200
  segment : ∀ segmentName page perPage stage minEcl,
    ∀ row ∈ (loanRowsForSegment db r.id tenantId segmentName page perPage stage minEcl).1,
      InPercent row.pd

variable {env db tenantId runId user membership} {r : Run} {tenant : Tenant}
  {stored : List EadResult}

/-- `get_loan` answers for a loan with rows. -/
lemma getLoan_ok_iff (htenant : getTenant db tenantId = .ok tenant)
    (hrun : latestCompletedRun db tenantId runId user membership = .ok r) {loanId : String}
    {view : LoanViewOut} (h : getLoan env db tenantId loanId runId user membership = .ok view) :
    let rows := (rowsOf r.id tenantId db.eadResults).filter fun r => r.loanId = loanId
    rows ≠ [] ∧ view.rundown = rundownRows 0 (sortByKey (·.periodToDiscount) rows) ∧
      view.pd = pyRound 2 (firstYearSum (rowsOf r.id tenantId db.eadResults) loanId * 100) := by
  intro rows
  rw [getLoan, htenant, hrun] at h
  simp only [bind, Except.bind] at h
  split at h
  · cases h
  · rename_i hrows
    obtain rfl := Except.ok.inj h
    refine ⟨hrows, rfl, ?_⟩
    rw [firstYearSum, groupBy, List.filter_comm]

lemma exists_getLoan (htenant : getTenant db tenantId = .ok tenant)
    (hrun : latestCompletedRun db tenantId runId user membership = .ok r) {loanId : String}
    (hrows : (rowsOf r.id tenantId db.eadResults).filter (fun r => r.loanId = loanId) ≠ []) :
    ∃ view, getLoan env db tenantId loanId runId user membership = .ok view := by
  rw [getLoan, htenant, hrun]
  simp only [bind, Except.bind]
  rw [if_neg hrows]
  exact ⟨_, rfl⟩

lemma mem_loanHazards {loanId : String} {m : ℚ} (h : m ∈ loanHazards stored loanId) :
    ∃ r ∈ stored, r.hazard = m := by
  obtain ⟨r, hr, rfl⟩ := List.mem_map.mp h
  exact ⟨r, List.mem_of_mem_filter ((mem_sortByKey _).mp hr), rfl⟩

/-- The rows of a segment's loans are rows of the run. -/
lemma loanBase_sublist (segmentName : String) (stage : Option String) (minEcl : Option ℚ) :
    (loanBase db r.id tenantId segmentName stage minEcl).Sublist
      (rowsOf r.id tenantId db.eadResults) := by
  have hconditions := (List.filter_sublist (p := stageFilter stage)).trans
    (List.filter_sublist (p := fun r : EadResult => r.segment = segmentName)
      (l := rowsOf r.id tenantId db.eadResults))
  rw [loanBase]
  cases minEcl with
  | none => exact hconditions
  | some m => exact List.filter_sublist.trans hconditions

/-- The 12-month PD of a selected loan is the sum over its rows that the query selects. -/
lemma orZero_selectedLoans {rows : List EadResult} {minEcl : Option ℚ}
    {s : (LoanEcl × Option (String × String)) × Option (String × ℚ)}
    (h : s ∈ selectedLoans rows minEcl) :
    s.1.1 ∈ eclGroup rows minEcl ∧ orZero (s.2.map (·.2)) = firstYearSum rows s.1.1.loanId := by
  obtain ⟨hleft, hright⟩ := (mem_leftJoin _).mp ((mem_sortByKey _).mp h)
  obtain ⟨hloan, -⟩ := (mem_leftJoin _).mp hleft
  refine ⟨hloan, ?_⟩
  rcases hright with ⟨hnone, hmissing⟩ | ⟨p, hp, hkey, hsome⟩
  · -- a loan without rows in the first twelve months has no sum
    have hempty : groupBy EadResult.loanId (rows.filter fun r => r.periodToDiscount ≤ 12)
        s.1.1.loanId = [] := by
      rw [groupBy, List.filter_eq_nil_iff]
      intro x hx hsame
      refine absurd (hmissing (x.loanId, _) (List.mem_map.mpr ⟨x.loanId,
        (mem_groupKeys _).mpr ⟨x, hx, rfl⟩, rfl⟩)) ?_
      simpa using (of_decide_eq_true hsame).symm
    rw [hnone, firstYearSum, hempty]
    rfl
  · obtain ⟨loanId, -, rfl⟩ := List.mem_map.mp hp
    obtain rfl : s.1.1.loanId = loanId := of_decide_eq_true hkey
    rw [hsome]
    rfl

/-- **The 12-month PD in the list of loans** is the sum over the loan's rows in the list. -/
lemma pd_loanRowsForSegment {segmentName : String} {page perPage : ℕ} {stage : Option String}
    {minEcl : Option ℚ} {row : LoanRowOut}
    (h : row ∈ (loanRowsForSegment db r.id tenantId segmentName page perPage stage minEcl).1) :
    ∃ e ∈ eclGroup (loanBase db r.id tenantId segmentName stage minEcl) minEcl, row.pd = pyRound 2
      (firstYearSum (loanBase db r.id tenantId segmentName stage minEcl) e.loanId * 100) := by
  obtain ⟨s, hs, rfl⟩ := List.mem_map.mp h
  obtain ⟨hloan, hpd⟩ := orZero_selectedLoans (List.mem_of_mem_drop (List.mem_of_mem_take hs))
  refine ⟨s.1.1, hloan, ?_⟩
  rw [loanRowOut, hpd]

/-- Each loan of the list is on a page that is long enough. -/
lemma exists_loanRowsForSegment {segmentName : String} {stage : Option String}
    {minEcl : Option ℚ} {e : LoanEcl}
    (h : e ∈ eclGroup (loanBase db r.id tenantId segmentName stage minEcl) minEcl) :
    ∃ perPage, ∃ row ∈ (loanRowsForSegment db r.id tenantId segmentName 1 perPage stage minEcl).1,
      row.pd = pyRound 2
        (firstYearSum (loanBase db r.id tenantId segmentName stage minEcl) e.loanId * 100) := by
  set rows := loanBase db r.id tenantId segmentName stage minEcl
  obtain ⟨label, hlabel⟩ := exists_mem_leftJoin
    (fun (e : LoanEcl) (s : String × String) => e.loanId = s.1) (loanInitialStage rows) h
  obtain ⟨sum, hsum⟩ := exists_mem_leftJoin
    (fun (r : LoanEcl × Option (String × String)) (p : String × ℚ) => r.1.loanId = p.1)
    (pdSub rows) hlabel
  have hselected : ((e, label), sum) ∈ selectedLoans rows minEcl := (mem_sortByKey _).mpr hsum
  refine ⟨(selectedLoans rows minEcl).length, loanRowOut ((e, label), sum),
    List.mem_map_of_mem ?_, ?_⟩
  · rwa [Nat.sub_self, Nat.zero_mul, List.drop_zero, List.take_length]
  · rw [loanRowOut, (orZero_selectedLoans hselected).2]

/-- The condition for a loan: at no row of its rundown does it show what is counted again. -/
def ShowsOnce (stored : List EadResult) (loanId : String) : Prop :=
  ∀ k < (loanHazards stored loanId).length,
    NotCountedAgain ((loanHazards stored loanId).take (k + 1))

variable (db tenantId) in
/-- The sums of the stored marginal PDs are percentages: those over the first months of a loan, and
those over the rows of its first year that a filter of the list of loans selects. -/
structure SumsInPercent (r : Run) : Prop where
  rundown : ∀ x ∈ rowsOf r.id tenantId db.eadResults,
    ∀ k < (loanHazards (rowsOf r.id tenantId db.eadResults) x.loanId).length, InPercent (pyRound 2
      (((loanHazards (rowsOf r.id tenantId db.eadResults) x.loanId).take (k + 1)).sum * 100))
  segment : ∀ segmentName stage minEcl,
    ∀ e ∈ eclGroup (loanBase db r.id tenantId segmentName stage minEcl) minEcl, InPercent
      (pyRound 2 (firstYearSum (loanBase db r.id tenantId segmentName stage minEcl) e.loanId * 100))

/-- The sums of probabilities are percentages where they show nothing twice: those of a part of
the rows are no greater than those of all. -/
lemma sumsInPercent_of_mem (hmem : ∀ x ∈ rowsOf r.id tenantId db.eadResults,
      0 ≤ x.hazard ∧ x.hazard ≤ 1)
    (hshows : ∀ x ∈ rowsOf r.id tenantId db.eadResults,
      ShowsOnce (rowsOf r.id tenantId db.eadResults) x.loanId) :
    SumsInPercent db tenantId r := by
  set stored := rowsOf r.id tenantId db.eadResults with hstored
  have hhazards : ∀ loanId, ∀ m ∈ loanHazards stored loanId, 0 ≤ m ∧ m ≤ 1 := by
    intro loanId m hm
    obtain ⟨x, hx, rfl⟩ := mem_loanHazards hm
    exact hmem x hx
  have hrundown : ∀ x ∈ stored, ∀ k < (loanHazards stored x.loanId).length,
      InPercent (pyRound 2 (((loanHazards stored x.loanId).take (k + 1)).sum * 100)) :=
    fun x hx k hk => inPercent_of_notCountedAgain
      (fun m hm => hhazards _ m (List.mem_of_mem_take hm)) (hshows x hx k hk)
  refine ⟨hrundown, fun segmentName stage minEcl e he => ?_⟩
  obtain ⟨k, hk, rfl⟩ := List.mem_map.mp he
  obtain ⟨x, hx, rfl⟩ := (mem_groupKeys loanCustomer).mp (List.mem_of_mem_filter hk)
  have hbase := @loanBase_sublist db tenantId r segmentName stage minEcl
  obtain ⟨n, hn⟩ := exists_firstYear stored x.loanId
  have hwhole := inPercent_take (hrundown x (hbase.subset hx)) n
  -- the rows that the filter selects are a part of the loan's rows
  have hpart := ((hbase.filter fun y => decide (y.periodToDiscount ≤ 12)).filter
    fun y => decide (y.loanId = x.loanId)).map EadResult.hazard
  have hnonneg : ∀ m ∈ (groupBy EadResult.loanId (stored.filter fun y => y.periodToDiscount ≤ 12)
      x.loanId).map (·.hazard), 0 ≤ m := by
    intro m hm
    obtain ⟨y, hy, rfl⟩ := List.mem_map.mp hm
    exact (hmem y (List.mem_of_mem_filter ((mem_groupBy _).mp hy).1)).1
  have hle : firstYearSum (loanBase db r.id tenantId segmentName stage minEcl) x.loanId
      ≤ firstYearSum stored x.loanId := hpart.sum_le_sum hnonneg
  have hlow : 0 ≤ firstYearSum (loanBase db r.id tenantId segmentName stage minEcl) x.loanId :=
    List.sum_nonneg fun m hm => hnonneg m (hpart.subset hm)
  have hpositive := @pyRound_mono 2 0
    (firstYearSum (loanBase db r.id tenantId segmentName stage minEcl) x.loanId * 100) (by linarith)
  have hzero := pyRound_intCast 2 0
  rw [Int.cast_zero] at hzero
  rw [hzero] at hpositive
  rw [← hn] at hwhole
  refine ⟨hpositive, le_trans (pyRound_mono ?_) hwhole.2⟩
  exact mul_le_mul_of_nonneg_right hle (by norm_num)

/-- What the views show is what the rundown and the sums hold. -/
lemma pdsAreProbabilities_iff (htenant : getTenant db tenantId = .ok tenant)
    (hrun : latestCompletedRun db tenantId runId user membership = .ok r) :
    PdsAreProbabilities env db tenantId runId user membership (rowsOf r.id tenantId db.eadResults) r
      ↔ (∀ x ∈ rowsOf r.id tenantId db.eadResults,
          ShowsOnce (rowsOf r.id tenantId db.eadResults) x.loanId) ∧
        SumsInPercent db tenantId r := by
  set stored := rowsOf r.id tenantId db.eadResults with hrows
  constructor
  · intro hpds
    -- each row of a rundown is shown with the sum of the hazards so far
    have hshown : ∀ x ∈ stored, ∀ k < (loanHazards stored x.loanId).length,
        ∃ row : MonthlyRundownOut, row.cumulativePd
          = pyRound 2 (((loanHazards stored x.loanId).take (k + 1)).sum * 100) ∧
          InPercent row.cumulativePd ∧ |row.cumulativePd
            - cumulativePercent ((loanHazards stored x.loanId).take (k + 1))| ≤ 1 / 200 := by
      intro x hx k hk
      have hsome : stored.filter (fun y => y.loanId = x.loanId) ≠ [] :=
        List.ne_nil_of_mem (List.mem_filter.mpr ⟨hx, decide_eq_true rfl⟩)
      obtain ⟨view, hview⟩ := @exists_getLoan env _ _ _ _ _ _ _ htenant hrun x.loanId hsome
      obtain ⟨-, hrundown, -⟩ := getLoan_ok_iff htenant hrun hview
      have hlength : k < view.rundown.length := by
        rw [hrundown, length_rundownRows]
        rwa [loanHazards, List.length_map] at hk
      obtain ⟨row, hrow⟩ : ∃ row, view.rundown[k]? = some row :=
        ⟨_, List.getElem?_eq_getElem hlength⟩
      refine ⟨row, ?_, (hpds.loan _ _ hview).2 k _ hrow⟩
      rw [hrundown] at hrow
      rw [rundownRows_cumulativePd hrow, zero_add]
      rfl
    refine ⟨fun x hx k hk => ?_, fun x hx k hk => ?_, fun segmentName stage minEcl e he => ?_⟩
    · obtain ⟨row, hpd, -, hnear⟩ := hshown x hx k hk
      rwa [NotCountedAgain, ← percent_sum, ← hpd]
    · obtain ⟨row, hpd, hpercent, -⟩ := hshown x hx k hk
      rwa [← hpd]
    · obtain ⟨perPage, row, hrow, hpd⟩ := exists_loanRowsForSegment he
      exact hpd ▸ hpds.segment segmentName 1 perPage stage minEcl row hrow
  · rintro ⟨hshows, hsums⟩
    refine ⟨fun loanId view hview => ?_, fun segmentName page perPage stage minEcl row hrow => ?_⟩
    · obtain ⟨hsome, hrundown, hpd⟩ := getLoan_ok_iff htenant hrun hview
      obtain ⟨x, hx⟩ := List.exists_mem_of_ne_nil _ hsome
      obtain ⟨hxrow, hxloan⟩ := List.mem_filter.mp hx
      obtain rfl : x.loanId = loanId := of_decide_eq_true hxloan
      have hparts := hsums.rundown x hxrow
      refine ⟨?_, fun k row hrow => ?_⟩
      · obtain ⟨n, hn⟩ := exists_firstYear stored x.loanId
        rw [hpd, hn]
        exact inPercent_take hparts n
      · rw [hrundown] at hrow
        obtain ⟨hlength, -⟩ := List.getElem?_eq_some_iff.mp hrow
        rw [length_rundownRows] at hlength
        have hk : k < (loanHazards stored x.loanId).length := by
          rwa [loanHazards, List.length_map]
        have hshown := rundownRows_cumulativePd hrow
        rw [zero_add] at hshown
        rw [hshown]
        have hnear := hshows x hxrow k hk
        rw [NotCountedAgain, ← percent_sum] at hnear
        exact ⟨hparts k hk, hnear⟩
    · obtain ⟨e, he, hpd⟩ := pd_loanRowsForSegment hrow
      exact hpd ▸ hsums.segment segmentName stage minEcl e he

/-- **Reported PDs are probabilities** exactly where what the sums count again does not show and the
sums are percentages; of a run whose EAD sheet brings no marginal PDs of its own, and whose PD sheet
no negative amounts, exactly where what the sums count again does not show. -/
theorem reported_pds_iff (htenant : getTenant db tenantId = .ok tenant)
    (hrun : latestCompletedRun db tenantId runId user membership = .ok r) :
    (PdsAreProbabilities env db tenantId runId user membership (rowsOf r.id tenantId db.eadResults) r
      ↔ (∀ x ∈ rowsOf r.id tenantId db.eadResults,
          ShowsOnce (rowsOf r.id tenantId db.eadResults) x.loanId) ∧
        SumsInPercent db tenantId r) ∧
    ∀ input : RunInput, NonnegAmounts input.py (input.pdInput.column "Loan Amount") →
      "Marginal PD" ∉ input.eadInput.columns →
      ComputedFrom input (rowsOf r.id tenantId db.eadResults) →
      (PdsAreProbabilities env db tenantId runId user membership
          (rowsOf r.id tenantId db.eadResults) r
        ↔ ∀ x ∈ rowsOf r.id tenantId db.eadResults,
          ShowsOnce (rowsOf r.id tenantId db.eadResults) x.loanId) := by
  refine ⟨pdsAreProbabilities_iff htenant hrun, fun input hamounts hown hstored => ?_⟩
  rw [pdsAreProbabilities_iff htenant hrun]
  exact ⟨fun h => h.1, fun hshows =>
    ⟨hshows, sumsInPercent_of_mem (hazard_mem hamounts hown hstored) hshows⟩⟩

end Views

/-! ### A loan of two hazards of nine tenths -/

/-- A completed run. -/
def hazardRun : Run where
  id := "r1"
  tenantId := "t1"
  createdByUserId := "u1"
  name := "Q1"
  status := .complete
  finishedAt := some 5

/-- The run and the rows that the EAD stage makes of the sample. -/
def hazardWrites : List ResultsWrite :=
  [.insertRun hazardRun, .insertEadResults "r1" [sampleEadResult 0 9, sampleEadResult 1 8]]

def hazardReader : User := { id := "u1", email := "a@x.org", name := "A", hashedPassword := "" }

def hazardMembership : TenantMembership :=
  { id := "m1", userId := "u1", tenantId := "t1", role := analyst, joinedAt := 0 }

def hazardTenant : Tenant := { id := "t1", name := "T" }

def hazardEnv : ViewEnv where
  strftime _ _ _ := ""
  monthYear _ := ""
  upper s := s
  ilike _ _ := false

def hazardDb : ResultsDb :=
  run writeStep { tenants := [hazardTenant], users := [hazardReader] } hazardWrites

lemma amountsAccepted_sample : AmountsAccepted sampleInput.py sampleInput.pdInput :=
  fun record hrecord => ⟨samplePdFrame, "Data", [], record, hrecord, by decide, rfl⟩

lemma getTenant_hazardDb : getTenant hazardDb "t1" = .ok hazardTenant := rfl

lemma latestCompletedRun_hazardDb :
    latestCompletedRun hazardDb "t1" (some "r1") hazardReader (some hazardMembership)
      = .ok hazardRun := rfl

lemma rowsOf_hazardDb : rowsOf hazardRun.id "t1" hazardDb.eadResults
    = [sampleEadResult 0 9, sampleEadResult 1 8] := rfl

lemma computedFrom_sample :
    ComputedFrom sampleInput (rowsOf hazardRun.id "t1" hazardDb.eadResults) := by
  obtain ⟨pd, hpd, hlgd, head⟩ := engines_sample
  refine ⟨pd, sampleLgd, _, _, hpd, hlgd, head, fun r hr => ?_⟩
  rwa [rowsOf_hazardDb] at hr

lemma loan_hazardDb :
    (rowsOf hazardRun.id "t1" hazardDb.eadResults).filter (fun r => r.loanId = "L")
      = [sampleEadResult 0 9, sampleEadResult 1 8] := by
  rw [rowsOf_hazardDb]
  rfl

lemma sortByKey_sample :
    sortByKey EadResult.periodToDiscount [sampleEadResult 0 9, sampleEadResult 1 8]
      = [sampleEadResult 0 9, sampleEadResult 1 8] := by
  refine sortByKey_of_sorted _ ?_
  rw [List.pairwise_cons]
  exact ⟨fun r hr => Nat.zero_le _, List.pairwise_singleton _ _⟩

/-- The second month counts the nine tenths that have defaulted in the first again. -/
lemma cumulativePd_sample {row : MonthlyRundownOut}
    (h : (rundownRows 0 [sampleEadResult 0 9, sampleEadResult 1 8])[1]? = some row) :
    row.cumulativePd = 180 := by
  rw [rundownRows_cumulativePd h]
  have hhazards : [sampleEadResult 0 9, sampleEadResult 1 8].map (·.hazard)
      = [(9 / 10 : ℚ), 9 / 10] := rfl
  rw [hhazards]
  have hsum : ((0 : ℚ) + ([(9 / 10 : ℚ), 9 / 10].take (1 + 1)).sum) * 100 = (180 : ℤ) := by
    norm_num
  rw [hsum, pyRound_intCast]
  rfl

/-- The run's creator reads it. -/
theorem reported_pds_iff_sample :
    PdsAreProbabilities hazardEnv hazardDb "t1" (some "r1") hazardReader (some hazardMembership)
        (rowsOf hazardRun.id "t1" hazardDb.eadResults) hazardRun
      ↔ ∀ x ∈ rowsOf hazardRun.id "t1" hazardDb.eadResults,
        ShowsOnce (rowsOf hazardRun.id "t1" hazardDb.eadResults) x.loanId :=
  (@reported_pds_iff hazardEnv hazardDb "t1" (some "r1") hazardReader (some hazardMembership)
    hazardRun hazardTenant getTenant_hazardDb latestCompletedRun_hazardDb).2 sampleInput
    samplePdFrame_amounts (by decide) computedFrom_sample

/-- The second month shows a cumulative PD of 180 percent, where 99 percent have defaulted. -/
theorem reported_pds_fails :
    AmountsAccepted sampleInput.py sampleInput.pdInput ∧
    ComputedFrom sampleInput (rowsOf hazardRun.id "t1" hazardDb.eadResults) ∧
    latestCompletedRun hazardDb "t1" (some "r1") hazardReader (some hazardMembership)
      = .ok hazardRun ∧
    ¬ PdsAreProbabilities hazardEnv hazardDb "t1" (some "r1") hazardReader (some hazardMembership)
        (rowsOf hazardRun.id "t1" hazardDb.eadResults) hazardRun := by
  refine ⟨amountsAccepted_sample, computedFrom_sample, latestCompletedRun_hazardDb, fun hpds => ?_⟩
  obtain ⟨view, hview⟩ := @exists_getLoan hazardEnv hazardDb "t1" (some "r1") hazardReader
    (some hazardMembership) hazardRun hazardTenant getTenant_hazardDb latestCompletedRun_hazardDb
    "L" (loan_hazardDb ▸ List.cons_ne_nil _ _)
  obtain ⟨-, hrundown, -⟩ := getLoan_ok_iff getTenant_hazardDb latestCompletedRun_hazardDb hview
  rw [loan_hazardDb, sortByKey_sample] at hrundown
  have hlength : 1 < view.rundown.length := by
    rw [hrundown, length_rundownRows]
    exact Nat.one_lt_two
  obtain ⟨row, hrow⟩ : ∃ row, view.rundown[1]? = some row :=
    ⟨_, List.getElem?_eq_getElem hlength⟩
  have hpercent := ((hpds.loan _ _ hview).2 1 _ hrow).1.2
  rw [hrundown] at hrow
  rw [cumulativePd_sample hrow] at hpercent
  norm_num at hpercent

end EclServer.Results
