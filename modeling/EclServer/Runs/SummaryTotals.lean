import EclServer.Engine.Aggregates
import EclServer.Engine.Rundown
import EclServer.Runs.Idempotence

/-!
The totals of a run, in the database and in the ECL Summary workbook.

* `runTotals`: the totals of `_compute_run_totals` over the rows of the engine, before the
  numeric columns round them.
* `withRunTotals`, `eclTotalSheet`: what `_ead_ecl_main` overrides of the aggregates, and what
  the workbook shows of them.
* `schedule`, `contractOutstanding`: the snapshots of the input, and the highest contractual
  balances of its loans.
* `totalOutstanding_runTotals`: the stored Total Outstanding is theirs.
* `abs_totalOutstanding_sub_le`: the numeric columns round it by half a millionth a loan.
* `summaryAgrees_iff`: exactly when workbook and run have the same totals.
-/

namespace EclServer.Runs

open EclServer.Library EclServer.Engine

/-! ### The totals of the database -/

/-- `_ead_records` of one row, as it is before the numeric columns round it. A NaN is stored as
one, and the comparison of a total of NaN raises. -/
def exactEadRecord (env : PyEnv) (row : EclRow) : Except String EadResult :=
  match row.snapshotDate, row.periodSinceOrigination, row.balanceAfterMissedPayment,
    row.discountedEcl with
  | some snapshotDate, some period, some balance, some ecl => do
      return {
        loanId := row.loanId.pyStr env
        customerId := row.customerId.pyStr env
        segment := row.segment.pyStr env
        stage := row.staging.pyStr env
        snapshotDate := dateOf snapshotDate
        periodSinceOrig := period
        periodToDiscount := row.periodToBeDiscounted
        monthlyInstalment := toDecimal row.monthlyInstalment
        balAfterRepayment := toDecimal row.balanceAfterRepayment
        balAfterMissed := balance
        marginalPd := ← decimalPd env row.shownMarginalPd
        lgw := toDecimal row.lgw
        lgd := toDecimal row.lgd
        creditLoss := toDecimal row.creditLoss
        discountedEcl := ecl }
  | none, _, _, _ => .error "ValueError: NaTType does not support date"
  | some _, none, _, _ => .error "ValueError: cannot convert float NaN to integer"
  | some _, some _, _, _ => .error "decimal.InvalidOperation"

/-- `loan_balances`: the highest balance of a loan. -/
def maxBal (rows : List EadResult) (loanId : String) : ℚ :=
  (((groupBy EadResult.loanId rows loanId).map (·.balAfterMissed)).max?).getD 0

lemma totalOutstanding_computeRunTotals (rows : List EadResult) :
    (computeRunTotals rows).totalOutstanding
      = ((groupKeys EadResult.loanId rows).map (maxBal rows)).sum := rfl

lemma coverageRatio_computeRunTotals (rows : List EadResult) :
    (computeRunTotals rows).coverageRatio
      = if 0 < (computeRunTotals rows).totalOutstanding then
          (computeRunTotals rows).totalEcl / (computeRunTotals rows).totalOutstanding
        else 0 := rfl

/-- The totals of the rows of the engine. -/
def runTotals (env : PyEnv) (eadDf : List EclRow) : Except String RunTotals := do
  return computeRunTotals (← eadDf.mapM (exactEadRecord env))

/-! ### The totals of the workbook -/

/-- What `_ead_ecl_main` writes into the aggregates once it has read the totals back. -/
def withRunTotals (aggregates : EclAggregates) (totals : RunTotals)
    (runId engineVersion timestampUtc : String) : EclAggregates :=
  { aggregates with
    eclTotal := { aggregates.eclTotal with
      runId := runId
      engineVersion := engineVersion
      timestampUtc := timestampUtc }
    totalEcl := totals.totalEcl
    totalOutstanding := totals.totalOutstanding
    coverageRatio := totals.coverageRatio }

/-- The sheet "ECL Total" of `_build_ecl_summary_workbook`. -/
def eclTotalSheet (aggregates : EclAggregates) : EclTotal := aggregates.eclTotal

/-- The sheet of a run's workbook. -/
def summarySheet (aggregates : EclAggregates) (totals : RunTotals)
    (runId engineVersion timestampUtc : String) : EclTotal :=
  eclTotalSheet (withRunTotals aggregates totals runId engineVersion timestampUtc)

/-- Workbook and run have the same totals. -/
def SummaryAgrees (sheet : EclTotal) (totals : RunTotals) : Prop :=
  sheet.totalOutstanding = totals.totalOutstanding ∧ sheet.coverageRatio = totals.coverageRatio

/-! ### The input -/

/-- The snapshots of an input with their terms, before any balance is computed. -/
def schedule (env : PyEnv) (eadDf lgdDf : Frame) : List TermRow :=
  match withDates env (mergeLgd env eadDf lgdDf) with
  | .error _ => []
  | .ok dated =>
      match withTerms env (expandDated dated) with
      | .error _ => []
      | .ok terms => terms

/-- The highest contractual balances of the loans with a snapshot, added up. -/
def contractOutstanding (env : PyEnv) (terms : List TermRow) : ℚ :=
  ((groupKeys (TermRow.loanKey env) terms).map (loanPeak env terms)).sum

/-- No amount and no rate of the sheets is negative, as their validators see to. -/
structure NonNegativeSheets (env : PyEnv) (eadDf lgdDf : Frame) : Prop where
  amounts : ∀ r ∈ eadDf.rows, ∀ q ∈ floatOf env (r.cell "Outstanding Amount"), 0 ≤ q
  rates : ∀ r ∈ eadDf.rows, ∀ name ∈ eirAliases, ∀ q ∈ floatOf env (r.cell name), 0 ≤ q
  lgdRates : ∀ r ∈ lgdDf.rows, ∀ q ∈ floatOf env (r.cell "EIR"), 0 ≤ q

variable {env : PyEnv} {eadDf lgdDf : Frame} {pdTable : List PdTableRow} {out : List EclRow}
  {warnings : List String} {totals : RunTotals}

/-- The terms of a run are the schedule of its input. -/
lemma exists_eadRun_schedule (h : computeEad env eadDf pdTable lgdDf = .ok (out, warnings)) :
    ∃ run : EadRun env eadDf pdTable lgdDf out, run.terms = schedule env eadDf lgdDf := by
  obtain ⟨run, -, hrun⟩ := exists_eadRun h
  refine ⟨run, ?_⟩
  rw [schedule, run.dated_ok]
  rcases hrun with ⟨hnone, hterms⟩ | ⟨-, hterms, -⟩
  · have hempty : ∀ {terms : List TermRow}, withTerms env [] = .ok terms → terms = [] := by
      intro terms h
      obtain ⟨_, -, h⟩ := bind_eq_ok.mp h
      obtain ⟨_, -, h⟩ := bind_eq_ok.mp h
      obtain ⟨_, -, h⟩ := bind_eq_ok.mp h
      rw [← Except.ok.inj h, List.zipWith_nil_left]
    rw [hterms]
    simp only [hnone]
    split
    · rfl
    · rename_i terms hok
      exact (hempty hok).symm
  · simp only [hterms]

/-! ### The rows of a run -/

/-- Every walked row is a row of the output. -/
lemma exists_mem_out (run : EadRun env eadDf pdTable lgdDf out) {w : WalkedRow}
    (hw : w ∈ walkLoans env run.terms) : ∃ pd, eclRow env (w, pd) ∈ out := by
  have hjoin : ∃ pd, (w, pd) ∈ joinPd (walkLoans env run.terms) pdTable := by
    by_cases hmatch : ∃ t ∈ pdTable, matchesPd w t = true
    · obtain ⟨t, ht, hon⟩ := hmatch
      exact ⟨some t, (mem_leftJoin _).mpr ⟨hw, Or.inr ⟨t, ht, hon, rfl⟩⟩⟩
    · refine ⟨none, (mem_leftJoin _).mpr ⟨hw, Or.inl ⟨rfl, fun t ht => ?_⟩⟩⟩
      exact Bool.eq_false_iff.mpr fun hon => hmatch ⟨t, ht, hon⟩
  obtain ⟨pd, hpd⟩ := hjoin
  refine ⟨pd, ?_⟩
  rw [run.out_eq, mem_sortByKey]
  exact List.mem_map_of_mem hpd

/-- An output without rows is that of an input without snapshots. -/
lemma out_eq_nil_iff (run : EadRun env eadDf pdTable lgdDf out) : out = [] ↔ run.terms = [] := by
  have hwalk : walkLoans env run.terms = [] ↔ run.terms = [] := by
    rw [← List.length_eq_zero_iff, ← List.length_eq_zero_iff,
      ← (map_walkLoans_perm run.terms).length_eq, List.length_map]
  rw [← hwalk, List.eq_nil_iff_forall_not_mem, List.eq_nil_iff_forall_not_mem]
  constructor
  · intro h w hw
    obtain ⟨pd, hpd⟩ := exists_mem_out run hw
    exact h _ hpd
  · intro h r hr
    obtain ⟨w, hw, -⟩ := run.mem_out hr
    exact h w hw

/-- The balances of a loan in the output are those of its walk. -/
lemma balances_out (run : EadRun env eadDf pdTable lgdDf out) (loanKey : String) (b : ℚ) :
    (∃ r ∈ out, r.loanId.pyStr env = loanKey ∧ r.balanceAfterMissedPayment = some b)
      ↔ ∃ w ∈ walkLoans env run.terms, w.loanKey env = loanKey ∧
        w.balanceAfterMissedPayment = some b := by
  constructor
  · rintro ⟨r, hr, hkey, hb⟩
    obtain ⟨w, hw, pd, -, rfl⟩ := run.mem_out hr
    exact ⟨w, hw, hkey, hb⟩
  · rintro ⟨w, hw, hkey, hb⟩
    obtain ⟨pd, hpd⟩ := exists_mem_out run hw
    exact ⟨_, hpd, hkey, hb⟩

lemma exactEadRecord_ok {r : EclRow} {row : EadResult} (h : exactEadRecord env r = .ok row) :
    row.loanId = r.loanId.pyStr env ∧ r.balanceAfterMissedPayment = some row.balAfterMissed ∧
      r.discountedEcl = some row.discountedEcl := by
  rw [exactEadRecord] at h
  split at h
  · rename_i date period balance ecl hdate hperiod hbalance hecl
    obtain ⟨_, -, h⟩ := bind_eq_ok.mp h
    rw [← Except.ok.inj h]
    exact ⟨rfl, hbalance, hecl⟩
  · cases h
  · cases h
  · cases h

/-- The highest balance of a loan in the table. -/
lemma maxBal_eq {rows : List EadResult} (hrows : out.mapM (exactEadRecord env) = .ok rows)
    {loanKey : String} {p : ℚ}
    (hp : IsGreatest {b | ∃ r ∈ out, r.loanId.pyStr env = loanKey ∧
      r.balanceAfterMissedPayment = some b} p) : maxBal rows loanKey = p := by
  have hmem : ∀ b, b ∈ (groupBy EadResult.loanId rows loanKey).map (·.balAfterMissed)
      ↔ ∃ r ∈ out, r.loanId.pyStr env = loanKey ∧ r.balanceAfterMissedPayment = some b := by
    intro b
    rw [List.mem_map]
    constructor
    · rintro ⟨row, hrow, rfl⟩
      obtain ⟨hmem, rfl⟩ := (mem_groupBy _).mp hrow
      obtain ⟨r, hr, hok⟩ := exists_of_mem_mapM hrows hmem
      obtain ⟨hkey, hbalance, -⟩ := exactEadRecord_ok hok
      exact ⟨r, hr, hkey.symm, hbalance⟩
    · rintro ⟨r, hr, hkey, hb⟩
      obtain ⟨row, hrow, hok⟩ := exists_mem_of_mapM_ok hrows hr
      obtain ⟨hkey', hbalance, -⟩ := exactEadRecord_ok hok
      refine ⟨row, (mem_groupBy _).mpr ⟨hrow, hkey'.trans hkey⟩, ?_⟩
      exact Option.some.inj (hbalance.symm.trans hb)
  have hmax : ((groupBy EadResult.loanId rows loanKey).map (·.balAfterMissed)).max? = some p :=
    List.max?_eq_some_iff.mpr ⟨(hmem p).mpr hp.1, fun b hb => hp.2 ((hmem b).mp hb)⟩
  rw [maxBal, hmax, Option.getD_some]

/-- **The stored Total ECL** is the sum over the output. -/
lemma totalEcl_runTotals (h : runTotals env out = .ok totals) :
    totals.totalEcl = totalEcl out := by
  obtain ⟨rows, hrows, h⟩ := bind_eq_ok.mp h
  have hread : rows.map (fun row => some row.discountedEcl) = out.map (·.discountedEcl) :=
    map_eq_of_mapM_ok hrows fun r row hok => ((exactEadRecord_ok hok).2.2).symm
  rw [← Except.ok.inj h, totalEcl]
  calc (rows.map (·.discountedEcl)).sum
      = ((rows.map fun row => some row.discountedEcl).filterMap id).sum := by
        rw [List.filterMap_map]
        simp
    _ = (out.filterMap (·.discountedEcl)).sum := by
        rw [hread, List.filterMap_map]
        rfl

/-- **The stored Total Outstanding** is the sum of the highest contractual balances. -/
theorem totalOutstanding_runTotals (hsheets : NonNegativeSheets env eadDf lgdDf)
    (h : computeEad env eadDf pdTable lgdDf = .ok (out, warnings))
    (htotals : runTotals env out = .ok totals) :
    totals.totalOutstanding = contractOutstanding env (schedule env eadDf lgdDf) := by
  obtain ⟨run, hterms⟩ := exists_eadRun_schedule h
  rw [← hterms]
  obtain ⟨rows, hrows, htotals⟩ := bind_eq_ok.mp htotals
  -- a row that can be stored has a balance that is a number
  have hsome : ∀ w ∈ walkLoans env run.terms, w.balanceAfterMissedPayment ≠ none := by
    intro w hw
    obtain ⟨pd, hpd⟩ := exists_mem_out run hw
    obtain ⟨row, -, hok⟩ := exists_mem_of_mapM_ok hrows hpd
    have hbalance : w.balanceAfterMissedPayment = some row.balAfterMissed :=
      (exactEadRecord_ok hok).2.1
    rw [hbalance]
    exact Option.some_ne_none _
  -- the greatest balance of a loan is the peak of its schedule
  have hpeak : ∀ loanKey ∈ groupKeys (TermRow.loanKey env) run.terms,
      maxBal rows loanKey = loanPeak env run.terms loanKey := by
    intro loanKey hkey
    refine maxBal_eq hrows ?_
    simp only [balances_out run]
    refine isGreatest_loanPeak hkey hsome ?_ ?_
    · intro t ht q hq
      obtain ⟨record, hrecord, lgd, -, hrow⟩ := mem_mergeLgd (run.toMergedRow_mem ht)
      have hcell : t.outstandingAmount = record.cell "Outstanding Amount" :=
        congrArg (fun m : MergedRow => m.outstandingAmount) hrow
      exact hsheets.amounts record hrecord q (hcell ▸ hq)
    · intro t ht
      exact eir_nonneg_of_mem_mergeLgd hsheets.rates hsheets.lgdRates (run.toMergedRow_mem ht)
  -- the loans of the stored rows are those of the schedule, in another order
  have hkeys : (groupKeys EadResult.loanId rows).Perm
      (groupKeys (TermRow.loanKey env) run.terms) := by
    rw [List.perm_ext_iff_of_nodup (nodup_groupKeys _ _) (nodup_groupKeys _ _)]
    intro loanKey
    rw [mem_groupKeys, mem_groupKeys]
    constructor
    · rintro ⟨row, hrow, rfl⟩
      obtain ⟨r, hr, hok⟩ := exists_of_mem_mapM hrows hrow
      obtain ⟨w, hw, pd, -, rfl⟩ := run.mem_out hr
      exact ⟨w.toTermRow, toTermRow_mem hw, (exactEadRecord_ok hok).1.symm⟩
    · rintro ⟨t, ht, rfl⟩
      obtain ⟨w, hw, rfl⟩ := List.mem_map.mp ((map_walkLoans_perm run.terms).mem_iff.mpr ht)
      obtain ⟨pd, hpd⟩ := exists_mem_out run hw
      obtain ⟨row, hrow, hok⟩ := exists_mem_of_mapM_ok hrows hpd
      exact ⟨row, hrow, (exactEadRecord_ok hok).1⟩
  rw [← Except.ok.inj htotals, totalOutstanding_computeRunTotals, contractOutstanding]
  calc ((groupKeys EadResult.loanId rows).map (maxBal rows)).sum
      = ((groupKeys (TermRow.loanKey env) run.terms).map (maxBal rows)).sum :=
        (hkeys.map _).sum_eq
    _ = _ := congrArg List.sum (List.map_congr_left hpeak)

/-! ### The numeric columns -/

/-- Maxima of lists that are close row by row are close. -/
lemma abs_max?_sub_le {ε : ℚ} (hε : 0 ≤ ε) {l m : List ℚ}
    (h : List.Forall₂ (fun a b => |a - b| ≤ ε) l m) : |l.max?.getD 0 - m.max?.getD 0| ≤ ε := by
  have hmax : ∀ l : List ℚ, l ≠ [] → l.max?.getD 0 ∈ l ∧ ∀ b ∈ l, b ≤ l.max?.getD 0 := by
    intro l hl
    cases hmax : l.max? with
    | none => exact absurd (List.max?_eq_none_iff.mp hmax) hl
    | some a => exact List.max?_eq_some_iff.mp hmax
  have hclose : ∀ {l m : List ℚ}, List.Forall₂ (fun a b => |a - b| ≤ ε) l m →
      ∀ a ∈ l, ∃ b ∈ m, |a - b| ≤ ε := by
    intro l m h
    induction h with
    | nil => simp
    | cons hab _ ih =>
        intro a ha
        rcases List.mem_cons.mp ha with rfl | ha
        · exact ⟨_, List.mem_cons_self, hab⟩
        · obtain ⟨b, hb, hle⟩ := ih a ha
          exact ⟨b, List.mem_cons_of_mem _ hb, hle⟩
  have hswap : List.Forall₂ (fun b a => |b - a| ≤ ε) m l := by
    have hflip : List.Forall₂ (flip fun b a : ℚ => |b - a| ≤ ε) l m :=
      h.imp fun a b hab => by rwa [flip, abs_sub_comm]
    exact hflip.flip
  cases l with
  | nil =>
      cases h
      simpa using hε
  | cons a as =>
      have hm : m ≠ [] := by
        rintro rfl
        cases h
      obtain ⟨hl_mem, hl_le⟩ := hmax (a :: as) (List.cons_ne_nil _ _)
      obtain ⟨hm_mem, hm_le⟩ := hmax m hm
      obtain ⟨b, hb, hlb⟩ := hclose h _ hl_mem
      obtain ⟨c, hc, hmc⟩ := hclose hswap _ hm_mem
      have h1 := hm_le b hb
      have h2 := hl_le c hc
      rw [abs_le] at hlb hmc ⊢
      constructor <;> linarith [hlb.1, hlb.2, hmc.1, hmc.2]

/-- The rows before and after rounding. -/
lemma eadRecord_close {r : EclRow} {row stored : EadResult} (hrow : exactEadRecord env r = .ok row)
    (hstored : eadRecord env r = .ok stored) : stored.loanId = row.loanId ∧
      |stored.balAfterMissed - row.balAfterMissed| ≤ 1 / 2 / 10 ^ 6 := by
  obtain ⟨hkey, hbalance, -⟩ := exactEadRecord_ok hrow
  rw [eadRecord] at hstored
  split at hstored
  · cases hstored
  · cases hstored
  · obtain ⟨_, -, hstored⟩ := bind_eq_ok.mp hstored
    obtain ⟨_, -, hstored⟩ := bind_eq_ok.mp hstored
    obtain ⟨balance, hnumeric, hstored⟩ := bind_eq_ok.mp hstored
    obtain ⟨_, -, hstored⟩ := bind_eq_ok.mp hstored
    obtain ⟨_, -, hstored⟩ := bind_eq_ok.mp hstored
    obtain ⟨_, -, hstored⟩ := bind_eq_ok.mp hstored
    obtain ⟨_, -, hstored⟩ := bind_eq_ok.mp hstored
    obtain ⟨_, -, hstored⟩ := bind_eq_ok.mp hstored
    obtain ⟨_, -, hstored⟩ := bind_eq_ok.mp hstored
    rw [← Except.ok.inj hstored]
    rw [hbalance] at hnumeric
    exact ⟨hkey.symm, abs_sub_numeric hnumeric⟩

/-- Totals of rows that are close are close. -/
lemma abs_totalOutstanding_close {ε : ℚ} (hε : 0 ≤ ε) {stored rows : List EadResult}
    (hclose : List.Forall₂ (fun a b : EadResult => a.loanId = b.loanId ∧
      |a.balAfterMissed - b.balAfterMissed| ≤ ε) stored rows) :
    |(computeRunTotals stored).totalOutstanding - (computeRunTotals rows).totalOutstanding|
      ≤ (groupKeys EadResult.loanId stored).length * ε := by
  have hids : stored.map EadResult.loanId = rows.map EadResult.loanId := by
    induction hclose with
    | nil => rfl
    | cons hab _ ih => rw [List.map_cons, List.map_cons, ih, hab.1]
  have hloan : ∀ loanId, |maxBal stored loanId - maxBal rows loanId| ≤ ε := by
    intro loanId
    refine abs_max?_sub_le hε ?_
    clear hids
    induction hclose with
    | nil => exact List.Forall₂.nil
    | @cons a b _ _ hab _ ih =>
        by_cases hkey : a.loanId = loanId
        · have hkey' : b.loanId = loanId := hab.1 ▸ hkey
          simp only [groupBy, List.filter_cons, hkey, hkey', decide_true, if_true,
            List.map_cons] at ih ⊢
          exact List.Forall₂.cons hab.2 ih
        · have hkey' : b.loanId ≠ loanId := hab.1 ▸ hkey
          simp only [groupBy, List.filter_cons, hkey, hkey', decide_false] at ih ⊢
          exact ih
  have hkeys : groupKeys EadResult.loanId rows = groupKeys EadResult.loanId stored := by
    rw [groupKeys, groupKeys, hids]
  rw [totalOutstanding_computeRunTotals, totalOutstanding_computeRunTotals, hkeys]
  induction groupKeys EadResult.loanId stored with
  | nil => simp
  | cons loanId loanIds ih =>
      have hfirst := hloan loanId
      rw [List.map_cons, List.map_cons, List.sum_cons, List.sum_cons, List.length_cons]
      rw [abs_le] at hfirst ih ⊢
      push_cast
      constructor <;> linarith [hfirst.1, hfirst.2, ih.1, ih.2]

/-- **Rounding** moves the stored Total Outstanding by half a millionth a loan. -/
theorem abs_totalOutstanding_sub_le {stored : List EadResult}
    (htotals : runTotals env out = .ok totals) (hstored : out.mapM (eadRecord env) = .ok stored) :
    |(computeRunTotals stored).totalOutstanding - totals.totalOutstanding|
      ≤ (groupKeys EadResult.loanId stored).length * (1 / 2 / 10 ^ 6) := by
  obtain ⟨rows, hrows, htotals⟩ := bind_eq_ok.mp htotals
  have hflip : List.Forall₂ (fun (a : EadResult) (r : EclRow) => eadRecord env r = .ok a)
      stored out := (forall₂_of_mapM_ok hstored).flip
  have hclose : List.Forall₂ (fun a b : EadResult => a.loanId = b.loanId ∧
      |a.balAfterMissed - b.balAfterMissed| ≤ 1 / 2 / 10 ^ 6) stored rows :=
    forall₂_comp (fun a r b (ha : eadRecord env r = .ok a) (hb : exactEadRecord env r = .ok b) =>
      eadRecord_close hb ha) hflip (forall₂_of_mapM_ok hrows)
  rw [← Except.ok.inj htotals]
  exact abs_totalOutstanding_close (by positivity) hclose

/-! ### Workbook and run -/

/-- Two ratios over one total. -/
lemma ratio_eq_iff {a b d : ℚ} : (if 0 < d then a / d else 0) = (if 0 < d then b / d else 0)
    ↔ d ≤ 0 ∨ a = b := by
  by_cases hd : 0 < d
  · rw [if_pos hd, if_pos hd, div_left_inj' hd.ne']
    exact ⟨Or.inr, fun h => h.resolve_left (not_le.mpr hd)⟩
  · rw [if_neg hd, if_neg hd]
    exact ⟨fun _ => Or.inl (not_lt.mp hd), fun _ => rfl⟩

/-- **Workbook and run have the same totals** exactly where no loan has a snapshot, or where
the highest contractual balances of the loans add up to their input amounts and, unless these
are not positive, the rows that the grouping drops carry no credit loss. -/
theorem summaryAgrees_iff {aggregates : EclAggregates} (runId engineVersion timestampUtc : String)
    (hsheets : NonNegativeSheets env eadDf lgdDf)
    (h : computeEad env eadDf pdTable lgdDf = .ok (out, warnings))
    (haggregates : buildEclAggregates env out eadDf = .ok aggregates)
    (htotals : runTotals env out = .ok totals) :
    SummaryAgrees (summarySheet aggregates totals runId engineVersion timestampUtc) totals
      ↔ schedule env eadDf lgdDf = [] ∨
        (contractOutstanding env (schedule env eadDf lgdDf) = inputOutstanding env eadDf ∧
          (inputOutstanding env eadDf ≤ 0 ∨ totalEcl (out.filter fun r => ¬ r.Keyed) = 0)) := by
  have houtstanding := totalOutstanding_runTotals hsheets h htotals
  have hecl := totalEcl_runTotals htotals
  have hcoverage : totals.coverageRatio
      = if 0 < totals.totalOutstanding then totals.totalEcl / totals.totalOutstanding else 0 := by
    obtain ⟨rows, -, htotals⟩ := bind_eq_ok.mp htotals
    rw [← Except.ok.inj htotals]
    exact coverageRatio_computeRunTotals rows
  obtain ⟨run, hterms⟩ := exists_eadRun_schedule h
  -- without rows the workbook shows the empty aggregates, which agree with totals of zero
  by_cases hnil : out = []
  · have hschedule : schedule env eadDf lgdDf = [] := hterms ▸ (out_eq_nil_iff run).mp hnil
    have hzero : totals.totalOutstanding = 0 := by
      rw [houtstanding, hschedule]
      rfl
    have hempty : aggregates = emptyAggregates := by
      rw [hnil] at haggregates
      exact (Except.ok.inj haggregates).symm
    refine ⟨fun _ => Or.inl hschedule, fun _ => ⟨?_, ?_⟩⟩
    · rw [hzero, hempty]
      rfl
    · rw [hcoverage, hzero, hempty]
      rfl
  · have hschedule : schedule env eadDf lgdDf ≠ [] := fun hnone =>
      hnil ((out_eq_nil_iff run).mpr (hterms.trans hnone))
    obtain ⟨-, hamount, hratio⟩ := buildEclAggregates_ok hnil haggregates
    have hsheet : SummaryAgrees (summarySheet aggregates totals runId engineVersion timestampUtc)
        totals ↔ aggregates.eclTotal.totalOutstanding = totals.totalOutstanding ∧
          aggregates.eclTotal.coverageRatio = totals.coverageRatio := Iff.rfl
    rw [hsheet, hamount, hratio, hcoverage, hecl, houtstanding, totalEcl_filter_add out]
    constructor
    · rintro ⟨hsame, hratios⟩
      rw [← hsame, ratio_eq_iff, left_eq_add] at hratios
      exact Or.inr ⟨hsame.symm, hratios⟩
    · rintro (hnone | ⟨hsame, hratios⟩)
      · exact absurd hnone hschedule
      · rw [hsame, ratio_eq_iff, left_eq_add]
        exact ⟨rfl, hratios⟩

/-! ### A loan with one instalment paid

The loan of `sampleEadFrame` owes 10 and pays 1 a month. -/

lemma nonNegativeSheets_sample : NonNegativeSheets plainEnv sampleEadFrame sampleLgdFrame := by
  refine ⟨fun r hr q hq => ?_, fun r hr name hname q hq =>
    (eclInputs_sample.rates r hr name hname q hq).1, fun r hr q hq =>
    (eclInputs_sample.lgdRates r hr q hq).1⟩
  obtain rfl : r = ⟨0, sampleEadCell⟩ := List.mem_singleton.mp hr
  obtain rfl : 10 = q := Option.some.inj hq
  norm_num

lemma exactEadRecord_sampleEcl {k n : ℕ} (hk : k = 0 ∨ k = 1) (hn : 0 < n) :
    exactEadRecord plainEnv (sampleEcl k n) = .ok (sampleEadResult k n) := by
  have hpos : (0 : ℚ) < n := Nat.cast_pos.mpr hn
  have hdate : (sampleTerm k).snapshotDate = some ((firstOf 24289).addMonths k) := rfl
  rw [sampleEcl_eq hk hpos, exactEadRecord]
  simp only [hdate]
  rfl

/-- What is stored of the sample. -/
def sampleTotals : RunTotals := ⟨153 / 10, 9, 17 / 10⟩

lemma runTotals_sample :
    runTotals plainEnv [sampleEcl 0 9, sampleEcl 1 8] = .ok sampleTotals := by
  have hfirst : exactEadRecord plainEnv (sampleEcl 0 9) = .ok (sampleEadResult 0 9) :=
    @exactEadRecord_sampleEcl 0 9 (Or.inl rfl) (by omega)
  have hsecond : exactEadRecord plainEnv (sampleEcl 1 8) = .ok (sampleEadResult 1 8) :=
    @exactEadRecord_sampleEcl 1 8 (Or.inr rfl) (by omega)
  have hrows : [sampleEcl 0 9, sampleEcl 1 8].mapM (exactEadRecord plainEnv)
      = .ok [sampleEadResult 0 9, sampleEadResult 1 8] := by
    rw [List.mapM_cons, List.mapM_cons, List.mapM_nil, hfirst, hsecond]
    rfl
  rw [runTotals, hrows]
  have htotals : computeRunTotals [sampleEadResult 0 9, sampleEadResult 1 8] = sampleTotals := by
    have hkeys : groupKeys EadResult.loanId [sampleEadResult 0 9, sampleEadResult 1 8] = ["L"] := by
      decide
    have hmax : ([9, 8] : List ℚ).max? = some 9 := by decide
    have houtstanding : (computeRunTotals [sampleEadResult 0 9, sampleEadResult 1 8]).totalOutstanding
        = 9 := by
      have hloan : maxBal [sampleEadResult 0 9, sampleEadResult 1 8] "L"
          = ([9, 8] : List ℚ).max?.getD 0 := rfl
      rw [totalOutstanding_computeRunTotals, hkeys, List.map_singleton, List.sum_singleton, hloan,
        hmax, Option.getD_some]
    have hecl : (computeRunTotals [sampleEadResult 0 9, sampleEadResult 1 8]).totalEcl
        = 153 / 10 := by
      change (9 : ℚ) * (9 / 10) + (8 * (9 / 10) + 0) = 153 / 10
      norm_num
    have hcoverage := coverageRatio_computeRunTotals [sampleEadResult 0 9, sampleEadResult 1 8]
    rw [houtstanding, hecl, if_pos (by norm_num)] at hcoverage
    generalize computeRunTotals [sampleEadResult 0 9, sampleEadResult 1 8] = totals at *
    obtain ⟨ecl, outstanding, coverage⟩ := totals
    simp only at houtstanding hecl hcoverage
    rw [houtstanding, hecl, hcoverage, sampleTotals]
    norm_num
  exact congrArg Except.ok htotals

lemma inputOutstanding_sample : inputOutstanding plainEnv sampleEadFrame = 10 := by
  have hloans : dropDuplicates (fun r : Record => r.cell "Loan ID") sampleEadFrame.rows
      = sampleEadFrame.rows := by
    rw [sampleEadFrame, dropDuplicates, dropDuplicates, List.filter_nil]
  have hamounts : sampleEadFrame.rows.filterMap
      (fun r => floatOf plainEnv (r.cell "Outstanding Amount")) = [10] := rfl
  rw [inputOutstanding, hloans, hamounts, List.sum_singleton]

/-- Where the workbook says 10, the run says 9. -/
theorem summaryAgrees_iff_sample : ∃ aggregates,
    buildEclAggregates plainEnv [sampleEcl 0 9, sampleEcl 1 8] sampleEadFrame = .ok aggregates ∧
      (SummaryAgrees (summarySheet aggregates sampleTotals "r1" "1" "") sampleTotals
        ↔ schedule plainEnv sampleEadFrame sampleLgdFrame = [] ∨
          (contractOutstanding plainEnv (schedule plainEnv sampleEadFrame sampleLgdFrame)
              = inputOutstanding plainEnv sampleEadFrame ∧
            (inputOutstanding plainEnv sampleEadFrame ≤ 0 ∨
              totalEcl ([sampleEcl 0 9, sampleEcl 1 8].filter fun r => ¬ r.Keyed) = 0))) := by
  obtain ⟨aggregates, haggregates⟩ := exists_buildEclAggregates_sample
  exact ⟨aggregates, haggregates, summaryAgrees_iff "r1" "1" "" nonNegativeSheets_sample
    computeEad_sample haggregates runTotals_sample⟩

/-- **The totals differ**: of one accepted loan the workbook shows the 10 of its sheet, and the
run has the 9 after its first instalment. -/
theorem summaryAgrees_fails : (validateEad plainEnv sampleEadFrame "Data" []).isValid = true ∧
    computeEad plainEnv sampleEadFrame (pdOutput plainEnv samplePdRows).table sampleLgdFrame
      = .ok ([sampleEcl 0 9, sampleEcl 1 8], []) ∧
    runTotals plainEnv [sampleEcl 0 9, sampleEcl 1 8] = .ok sampleTotals ∧
    ∃ aggregates,
      buildEclAggregates plainEnv [sampleEcl 0 9, sampleEcl 1 8] sampleEadFrame = .ok aggregates ∧
        (summarySheet aggregates sampleTotals "r1" "1" "").totalOutstanding = 10 ∧
        sampleTotals.totalOutstanding = 9 ∧
        ¬ SummaryAgrees (summarySheet aggregates sampleTotals "r1" "1" "") sampleTotals := by
  obtain ⟨aggregates, haggregates⟩ := exists_buildEclAggregates_sample
  obtain ⟨-, hamount, -⟩ := buildEclAggregates_ok (by simp) haggregates
  have hten : (summarySheet aggregates sampleTotals "r1" "1" "").totalOutstanding = 10 :=
    hamount.trans inputOutstanding_sample
  refine ⟨by decide, computeEad_sample, runTotals_sample, aggregates, haggregates, hten, rfl,
    fun hagrees => ?_⟩
  have hsame : (10 : ℚ) = 9 := hten.symm.trans hagrees.1
  norm_num at hsame

end EclServer.Runs
