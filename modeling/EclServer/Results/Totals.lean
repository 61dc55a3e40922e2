import EclServer.Results.Views

/-!
The views of one run add up.

* `SegmentTotals`, `segmentRows_perm`: the segments the query selects are the groups by
  segment, with the sums over their rows and over their loans.
* `segmentRows_ecl`, `segmentRows_outstanding`: summed up they give the totals of
  `_compute_run_totals`.
* `loanBase_eq`: the conditions of a segment's loans select the rows the segment was made of.
* `selectedLoans_perm`: the joins and the HAVING clause keep each loan of these rows once.
* `views_add_up`: the portfolio, the segments and the loans of a completed run.
-/

namespace EclServer.Results

open EclServer.Library EclServer.Auth EclServer.Runs

/-! ### Segments -/

section

variable (rows : List EadResult)

/-- The rows of a segment. -/
abbrev ofSegment (segment : String) : List EadResult := groupBy EadResult.segment rows segment

/-- The balance of a selection: each loan's greatest. -/
def loanBalances : ℚ :=
  ((groupKeys EadResult.loanId rows).map fun loanId =>
    maxBalance (groupBy EadResult.loanId rows loanId)).sum

/-- The row of a segment. -/
def segmentTotals (segment : String) : String × ℚ × ℚ × ℕ :=
  (segment, sumEcl (ofSegment rows segment), loanBalances (ofSegment rows segment),
    (groupKeys EadResult.loanId (ofSegment rows segment)).length)

lemma groupKeys_outstandingSub :
    groupKeys (fun o => o.1.1) (outstandingSub rows) = groupKeys EadResult.segment rows := by
  rw [outstandingSub, groupKeys_map]
  exact groupKeys_pair EadResult.segment EadResult.loanId rows

/-- The loans of a segment, with their balances. -/
lemma groupBy_outstandingSub (segment : String) :
    groupBy (fun o => o.1.1) (outstandingSub rows) segment
      = (groupKeys EadResult.loanId (ofSegment rows segment)).map fun loanId =>
        ((segment, loanId),
          maxBalance (groupBy EadResult.loanId (ofSegment rows segment) loanId)) := by
  have hpairs := groupBy_pair EadResult.segment EadResult.loanId rows segment
  rw [outstandingSub, groupBy_map]
  change (groupBy Prod.fst (groupKeys segmentLoan rows) segment).map _ = _
  rw [show groupBy Prod.fst (groupKeys segmentLoan rows) segment = _ from hpairs, List.map_map]
  refine List.map_congr_left fun loanId _ => ?_
  have hrows := groupBy_prodMk EadResult.segment EadResult.loanId rows segment loanId
  rw [Function.comp_apply, show groupBy segmentLoan rows (segment, loanId) = _ from hrows]

lemma outstandingAgg_eq :
    outstandingAgg rows = (groupKeys EadResult.segment rows).map fun segment =>
      (segment, loanBalances (ofSegment rows segment),
        (groupKeys EadResult.loanId (ofSegment rows segment)).length) := by
  rw [outstandingAgg, groupKeys_outstandingSub]
  refine List.map_congr_left fun segment _ => ?_
  simp only [groupBy_outstandingSub, List.map_map, List.length_map]
  rfl

/-- **The segments selected** are the groups by segment. -/
lemma segmentRows_perm :
    (segmentRows rows).Perm
      ((groupKeys EadResult.segment rows).map (segmentTotals rows)) := by
  refine (sortByKey_perm _ _).trans ?_
  rw [eclSub, outstandingAgg_eq, List.flatMap_map,
    List.map_eq_flatMap (f := segmentTotals rows)]
  refine List.Perm.of_eq (List.flatMap_congr fun segment hsegment => ?_)
  have hone := filter_eq_singleton id (by simpa using nodup_groupKeys EadResult.segment rows)
    hsegment
  simp only [List.filter_map, Function.comp_def, id_eq] at hone ⊢
  rw [hone]
  rfl

/-- A segment shown is one of the groups. -/
lemma mem_segmentAggregates {db : ResultsDb} {runId tenantId : String}
    {priorRunId stage : Option String} {minEcl : Option ℚ} {segment : SegmentDataOut}
    (h : segment ∈ segmentAggregates db runId tenantId priorRunId stage minEcl) :
    segment.ecl = sumEcl (ofSegment (segmentBase db runId tenantId stage minEcl) segment.name) ∧
      segment.loans = (groupKeys EadResult.loanId
        (ofSegment (segmentBase db runId tenantId stage minEcl) segment.name)).length := by
  obtain ⟨row, hrow, rfl⟩ := List.mem_map.mp h
  obtain ⟨name, _, rfl⟩ := List.mem_map.mp ((segmentRows_perm _).mem_iff.mp hrow)
  exact ⟨rfl, rfl⟩

section

variable (db : ResultsDb) (runId tenantId : String) (priorRunId stage : Option String)
  (minEcl : Option ℚ)

lemma map_ecl_segmentAggregates :
    (segmentAggregates db runId tenantId priorRunId stage minEcl).map (·.ecl)
      = (segmentRows (segmentBase db runId tenantId stage minEcl)).map (·.2.1) :=
  List.map_map

lemma map_outstanding_segmentAggregates :
    (segmentAggregates db runId tenantId priorRunId stage minEcl).map (·.outstanding)
      = (segmentRows (segmentBase db runId tenantId stage minEcl)).map (·.2.2.1) :=
  List.map_map

end

lemma segmentRows_ecl : ((segmentRows rows).map (·.2.1)).sum = sumEcl rows := by
  rw [((segmentRows_perm rows).map _).sum_eq, List.map_map]
  exact sum_groupBy EadResult.segment (·.discountedEcl) rows

end

/-! ### Rows of one segment and one customer a loan -/

/-- The rows have one segment and one customer a loan and one row a loan and period. -/
structure SingleRows (rows : List EadResult) : Prop where
  segment : ∀ a ∈ rows, ∀ b ∈ rows, a.loanId = b.loanId → a.segment = b.segment
  customer : ∀ a ∈ rows, ∀ b ∈ rows, a.loanId = b.loanId → a.customerId = b.customerId
  periods : (rows.map fun r => (r.loanId, r.periodToDiscount)).Nodup

section

variable {rows : List EadResult}

lemma SingleRows.filter (h : SingleRows rows) (p : EadResult → Bool) :
    SingleRows (rows.filter p) where
  segment a ha b hb := h.segment a (List.mem_of_mem_filter ha) b (List.mem_of_mem_filter hb)
  customer a ha b hb := h.customer a (List.mem_of_mem_filter ha) b (List.mem_of_mem_filter hb)
  periods := h.periods.sublist (List.filter_sublist.map _)

/-- A loan's rows are all in its segment. -/
lemma SingleRows.groupBy_ofSegment (h : SingleRows rows) {r : EadResult} (hr : r ∈ rows) :
    groupBy EadResult.loanId (ofSegment rows r.segment) r.loanId
      = groupBy EadResult.loanId rows r.loanId := by
  rw [ofSegment, groupBy, groupBy, groupBy, List.filter_filter]
  refine List.filter_congr fun a ha => ?_
  by_cases hloan : a.loanId = r.loanId
  · simp [hloan, h.segment a ha r hr hloan]
  · simp [hloan]

/-- The balances of the segments add up to the balances of the loans. -/
lemma SingleRows.segmentRows_outstanding (h : SingleRows rows) :
    ((segmentRows rows).map (·.2.2.1)).sum = loanBalances rows := by
  obtain ⟨segmentOf, hsegmentOf⟩ := exists_of_determines h.segment
  have hinj : Function.Injective fun loanId => (segmentOf loanId, loanId) :=
    fun _ _ hpair => (Prod.mk.inj hpair).2
  have hkey : ∀ a ∈ rows, segmentLoan a = (segmentOf a.loanId, a.loanId) :=
    fun a ha => by rw [segmentLoan, hsegmentOf a ha]
  have hloans : ((outstandingSub rows).map (·.2)).sum = loanBalances rows := by
    rw [outstandingSub, groupKeys_of_injective hinj hkey, List.map_map, List.map_map]
    refine congrArg List.sum (List.map_congr_left fun loanId _ => ?_)
    exact congrArg maxBalance (groupBy_of_injective hinj hkey loanId)
  have hsegments := sum_groupBy (fun o : (String × String) × ℚ => o.1.1) (·.2) (outstandingSub rows)
  rw [groupKeys_outstandingSub] at hsegments
  rw [((segmentRows_perm rows).map _).sum_eq, List.map_map, ← hloans, ← hsegments]
  refine congrArg List.sum (List.map_congr_left fun segment _ => ?_)
  rw [groupBy_outstandingSub, List.map_map]
  rfl

/-! ### The conditions of the two queries -/

lemma mem_eligible {minEcl : ℚ} {loanId : String} :
    loanId ∈ eligible rows minEcl ↔ (∃ r ∈ rows, r.loanId = loanId) ∧
      minEcl ≤ sumEcl (groupBy EadResult.loanId rows loanId) := by
  rw [eligible, List.mem_filter, mem_groupKeys, decide_eq_true_eq]

/-- A loan has the same rows after the threshold as before. -/
lemma le_sumEcl_applyMinEclFilter {minEcl : ℚ} {r : EadResult}
    (hr : r ∈ applyMinEclFilter rows (some minEcl)) :
    minEcl ≤ sumEcl (groupBy EadResult.loanId (applyMinEclFilter rows (some minEcl)) r.loanId) := by
  have helig := (List.mem_filter.mp hr).2
  have hrows := groupBy_filter_key EadResult.loanId rows
    (fun loanId => decide (loanId ∈ eligible rows minEcl)) helig
  rw [applyMinEclFilter, hrows]
  exact (mem_eligible.mp (of_decide_eq_true helig)).2

/-- The threshold selects the same loans of a segment whether it is applied before or after
the condition on the segment. -/
lemma SingleRows.applyMinEclFilter_ofSegment (h : SingleRows rows) (segment : String)
    (minEcl : Option ℚ) :
    applyMinEclFilter (ofSegment rows segment) minEcl
      = ofSegment (applyMinEclFilter rows minEcl) segment := by
  cases minEcl with
  | none => rfl
  | some m =>
      rw [applyMinEclFilter, applyMinEclFilter, ofSegment, ofSegment, groupBy_filter_comm]
      refine List.filter_congr fun r hr => ?_
      obtain ⟨hmem, hsegment⟩ := (mem_groupBy EadResult.segment).mp hr
      have hgroup := h.groupBy_ofSegment hmem
      rw [hsegment] at hgroup
      have hiff : r.loanId ∈ eligible (ofSegment rows segment) m ↔ r.loanId ∈ eligible rows m := by
        rw [mem_eligible, mem_eligible, hgroup]
        exact and_congr_left fun _ => iff_of_true ⟨r, hr, rfl⟩ ⟨r, hmem, rfl⟩
      simp only [hiff]

/-- **The conditions of a segment's loans** select the rows the segment was made of. -/
lemma loanBase_eq {db : ResultsDb} {runId tenantId : String}
    (h : SingleRows (rowsOf runId tenantId db.eadResults)) (segmentName : String)
    (stage : Option String) (minEcl : Option ℚ) :
    loanBase db runId tenantId segmentName stage minEcl
      = ofSegment (segmentBase db runId tenantId stage minEcl) segmentName := by
  have hfilter := h.filter (stageFilter stage)
  rw [segmentBase, ← hfilter.applyMinEclFilter_ofSegment, loanBase, ofSegment,
    groupBy_filter_comm]
  rfl

/-! ### The loans selected -/

/-- The groups by loan and customer are the loans, and the HAVING clause keeps those whose
rows reach the threshold. -/
lemma SingleRows.eclGroup_eq (h : SingleRows rows) {minEcl : Option ℚ}
    (hmin : ∀ m, minEcl = some m → ∀ r ∈ rows,
      m ≤ sumEcl (groupBy EadResult.loanId rows r.loanId)) :
    (eclGroup rows minEcl).map (fun e => (e.loanId, e.ecl))
      = (groupKeys EadResult.loanId rows).map fun loanId =>
        (loanId, sumEcl (groupBy EadResult.loanId rows loanId)) := by
  obtain ⟨customerOf, hcustomerOf⟩ := exists_of_determines h.customer
  have hinj : Function.Injective fun loanId => (loanId, customerOf loanId) :=
    fun _ _ hpair => (Prod.mk.inj hpair).1
  have hkey : ∀ a ∈ rows, loanCustomer a = (a.loanId, customerOf a.loanId) :=
    fun a ha => by rw [loanCustomer, hcustomerOf a ha]
  have hgroup : ∀ loanId, groupBy loanCustomer rows (loanId, customerOf loanId)
      = groupBy EadResult.loanId rows loanId := groupBy_of_injective hinj hkey
  rw [eclGroup, groupKeys_of_injective hinj hkey, List.filter_eq_self.mpr, List.map_map,
    List.map_map]
  · refine List.map_congr_left fun loanId _ => ?_
    simp only [Function.comp_apply, hgroup]
  · intro k hk
    obtain ⟨loanId, hloan, rfl⟩ := List.mem_map.mp hk
    obtain ⟨r, hr, rfl⟩ := (mem_groupKeys EadResult.loanId).mp hloan
    cases minEcl with
    | none => rfl
    | some m =>
        simp only [hgroup]
        exact decide_eq_true (hmin m rfl r hr)

lemma nodup_loanStageSub : (loanStageSub rows).Nodup :=
  (nodup_groupKeys EadResult.loanId rows).map fun _ _ hpair => (Prod.mk.inj hpair).1

/-- A loan starts in one stage: two rows of its first period are one. -/
lemma SingleRows.length_loanInitialStage (h : SingleRows rows) (loanId : String) :
    ((loanInitialStage rows).filter fun s => loanId = s.1).length ≤ 1 := by
  rw [loanInitialStage, flatMap_filter_eq (fun r : EadResult => (r.loanId, r.periodToDiscount))
    (fun r => (r.loanId, r.stage)) nodup_loanStageSub, List.filter_map, List.length_map,
    List.filter_filter]
  refine length_filter_le_one_of_key _ h.periods fun a b ha hb => ?_
  simp only [Function.comp_apply, Bool.and_eq_true, decide_eq_true_eq] at ha hb
  obtain ⟨la, _, hla⟩ := List.mem_map.mp ha.2
  obtain ⟨lb, _, hlb⟩ := List.mem_map.mp hb.2
  obtain ⟨rfl, hperiodA⟩ := Prod.mk.inj hla
  obtain ⟨rfl, hperiodB⟩ := Prod.mk.inj hlb
  have hloan : a.loanId = b.loanId := ha.1.symm.trans hb.1
  rw [← hperiodA, ← hperiodB, hloan]

lemma length_pdSub (loanId : String) : ((pdSub rows).filter fun p => loanId = p.1).length ≤ 1 := by
  have hkeys : ((pdSub rows).map (·.1)).Nodup := by
    rw [pdSub, List.map_map]
    simpa [Function.comp_def] using nodup_groupKeys EadResult.loanId
      (rows.filter fun r => r.periodToDiscount ≤ 12)
  refine length_filter_le_one_of_key _ hkeys fun a b ha hb => ?_
  exact (of_decide_eq_true ha).symm.trans (of_decide_eq_true hb)

/-- **The loans selected**: the joins keep each group once. -/
lemma SingleRows.selectedLoans_perm (h : SingleRows rows) (minEcl : Option ℚ) :
    ((selectedLoans rows minEcl).map (·.1.1)).Perm (eclGroup rows minEcl) := by
  refine ((sortByKey_perm _ _).map _).trans (List.Perm.of_eq ?_)
  rw [leftJoin_eq_map _ fun r _ => length_pdSub r.1.loanId,
    leftJoin_eq_map _ fun e _ => h.length_loanInitialStage e.loanId, List.map_map, List.map_map]
  exact List.map_id _

/-- The loans of a segment add up to the segment. -/
lemma loans_add_up {db : ResultsDb} {runId tenantId : String} {priorRunId : Option String}
    (h : SingleRows (rowsOf runId tenantId db.eadResults)) {stage : Option String}
    {minEcl : Option ℚ} {segment : SegmentDataOut}
    (hsegment : segment ∈ segmentAggregates db runId tenantId priorRunId stage minEcl) :
    let loans := selectedLoans (loanBase db runId tenantId segment.name stage minEcl) minEcl
    (loans.map (·.1.1.ecl)).sum = segment.ecl ∧ loans.length = segment.loans := by
  obtain ⟨hecl, hloans⟩ := mem_segmentAggregates hsegment
  rw [← loanBase_eq h] at hecl hloans
  have hsingle : SingleRows (loanBase db runId tenantId segment.name stage minEcl) := by
    have hbase := (h.filter fun r => r.segment = segment.name).filter (stageFilter stage)
    cases minEcl with
    | none => exact hbase
    | some m => exact hbase.filter _
  have hmin : ∀ m, minEcl = some m → ∀ r ∈ loanBase db runId tenantId segment.name stage minEcl,
      m ≤ sumEcl (groupBy EadResult.loanId
        (loanBase db runId tenantId segment.name stage minEcl) r.loanId) := by
    rintro m rfl r hr
    exact le_sumEcl_applyMinEclFilter hr
  have hperm := hsingle.selectedLoans_perm minEcl
  have hgroups := hsingle.eclGroup_eq hmin
  constructor
  · have hsum := (hperm.map (·.ecl)).sum_eq
    have hvalues := congrArg (fun l => (l.map (·.2)).sum) hgroups
    simp only [List.map_map, Function.comp_def] at hsum hvalues
    rw [hecl, hsum, hvalues]
    exact sum_groupBy EadResult.loanId (·.discountedEcl) _
  · have hlength := hperm.length_eq
    have hcount := congrArg List.length hgroups
    simp only [List.length_map] at hlength hcount
    rw [hloans, hlength, hcount]

end

/-! ### The views of a completed run -/

/-- The rows of a run, as `_compute_run_totals` reads them. -/
def runRows (runId : String) (db : ResultsDb) : List EadResult :=
  (db.eadResults.filter fun r => r.runId = runId).map (·.row)

/-- The tables of some tenants and users after writes to runs and results. -/
def tablesAfter (tenants : List Tenant) (users : List User) (writes : List ResultsWrite) :
    ResultsDb :=
  run writeStep { tenants := tenants, users := users } writes

/-- The condition on the tenant leaves out no row of a run. -/
lemma rowsOf_eq_runRows {db : ResultsDb} (h : RowsOwned db) {r : Run} (hr : r ∈ db.runs) :
    rowsOf r.id r.tenantId db.eadResults = runRows r.id db := by
  rw [rowsOf, runRows]
  congr 1
  refine List.filter_congr fun row hrow => ?_
  by_cases hid : row.runId = r.id
  · simp [hid, h.ead.tenantId_eq h.ids hr hrow hid]
  · simp [hid]

lemma segmentBase_unfiltered (db : ResultsDb) (runId tenantId : String) :
    segmentBase db runId tenantId none none = rowsOf runId tenantId db.eadResults :=
  List.filter_eq_self.mpr fun _ _ => rfl

/-- **The views of a completed run add up**: whoever is shown the run, by default or by its
id, sees a portfolio with the totals of `_compute_run_totals`, and under every stage and
threshold each segment has the ECL and the number of the loans listed under it. -/
theorem views_add_up {env : ViewEnv} {tenants : List Tenant} {users : List User}
    (writes : List ResultsWrite) {tenantId : String} {runId : Option String} {user : User}
    {membership : Option TenantMembership} {tenant : Tenant} {r : Run}
    (htenant : getTenant (tablesAfter tenants users writes) tenantId = .ok tenant)
    (hrun : latestCompletedRun (tablesAfter tenants users writes) tenantId runId user membership
      = .ok r)
    (hrows : SingleRows (runRows r.id (tablesAfter tenants users writes))) :
    let db := tablesAfter tenants users writes
    let totals := computeRunTotals (runRows r.id db)
    (∃ view, getPortfolio env db tenantId runId user membership none none = .ok view ∧
      view.totals.ecl = totals.totalEcl ∧ view.totals.outstanding = totals.totalOutstanding) ∧
    ∀ priorRunId stage minEcl,
      ∀ segment ∈ segmentAggregates db r.id tenantId priorRunId stage minEcl,
        let loans := selectedLoans (loanBase db r.id tenantId segment.name stage minEcl) minEcl
        (loans.map (·.1.1.ecl)).sum = segment.ecl ∧ loans.length = segment.loans := by
  intro db totals
  obtain ⟨hmem, rfl, scope, hscope⟩ := latestCompletedRun_ok hrun
  have howned : rowsOf r.id r.tenantId db.eadResults = runRows r.id db :=
    rowsOf_eq_runRows (rowsOwned_run writes) hmem
  have hsingle : SingleRows (rowsOf r.id r.tenantId db.eadResults) := howned ▸ hrows
  refine ⟨?_, fun _ _ _ segment hsegment => loans_add_up hsingle hsegment⟩
  obtain ⟨previous, hprevious⟩ : ∃ previous,
      previousCompletedRun db r.tenantId r.finishedAt user membership = .ok previous :=
    exists_previousCompletedRun _ hscope
  have hstage : validateStage none = .ok none := rfl
  obtain ⟨view, hview, hsegments, htotals⟩ : ∃ view,
      getPortfolio env db r.tenantId runId user membership none none = .ok view ∧
        view.segments = segmentAggregates db r.id r.tenantId (previous.map (·.id)) none none ∧
        view.totals = portfolioTotals view.segments :=
    exists_getPortfolio hstage htenant hrun hprevious
  -- the totals add up the segments, and each segment the rows of the run that are in it
  have hecl : (view.segments.map (·.ecl)).sum = sumEcl (runRows r.id db) := by
    rw [hsegments, map_ecl_segmentAggregates, segmentBase_unfiltered, howned]
    exact segmentRows_ecl (runRows r.id db)
  have houtstanding : (view.segments.map (·.outstanding)).sum = loanBalances (runRows r.id db) := by
    rw [hsegments, map_outstanding_segmentAggregates, segmentBase_unfiltered, howned]
    exact hrows.segmentRows_outstanding
  refine ⟨view, hview, ?_, ?_⟩
  · rw [htotals]
    exact hecl
  · rw [htotals]
    exact houtstanding

/-! ### A run of two loans -/

/-- A row of a loan of the run. -/
def totalsRow (loanId segment stage : String) (period : ℕ) (balance : ℚ) : EadResult where
  loanId := loanId
  customerId := "C"
  segment := segment
  stage := stage
  snapshotDate := Engine.firstOf (24289 + period)
  periodSinceOrig := period + 1
  periodToDiscount := period
  monthlyInstalment := 1
  balAfterRepayment := balance
  balAfterMissed := balance
  marginalPd := some (1 / 10)
  lgw := 1
  lgd := 1
  creditLoss := balance * (1 / 10)
  discountedEcl := balance * (1 / 10)

/-- A completed run with three rows. -/
def totalsWrites : List ResultsWrite :=
  [.insertRun { id := "r1", tenantId := "t1", createdByUserId := "u1", name := "Q1"
                status := .complete, finishedAt := some 5 },
    .insertEadResults "r1"
      [totalsRow "L1" "RETAIL" "Stage 1" 0 9, totalsRow "L1" "RETAIL" "Stage 2" 1 8,
        totalsRow "L2" "SME" "Stage 1" 0 4]]

def totalsReader : User := { id := "u1", email := "a@x.org", name := "A", hashedPassword := "" }

def totalsMembership : TenantMembership :=
  { id := "m1", userId := "u1", tenantId := "t1", role := analyst, joinedAt := 0 }

def totalsTenants : List Tenant := [{ id := "t1", name := "T" }]

def totalsEnv : ViewEnv where
  strftime _ _ _ := ""
  monthYear _ := ""
  upper s := s
  ilike _ _ := false

/-- The run's creator asks for the run. -/
theorem views_add_up_sample :
    let db := tablesAfter totalsTenants [totalsReader] totalsWrites
    ∃ r, latestCompletedRun db "t1" (some "r1") totalsReader (some totalsMembership) = .ok r ∧
      (∃ view, getPortfolio totalsEnv db "t1" (some "r1") totalsReader (some totalsMembership)
          none none = .ok view ∧
        view.totals.ecl = (computeRunTotals (runRows r.id db)).totalEcl ∧
        view.totals.outstanding = (computeRunTotals (runRows r.id db)).totalOutstanding) ∧
      ∀ priorRunId stage minEcl,
        ∀ segment ∈ segmentAggregates db r.id "t1" priorRunId stage minEcl,
          let loans := selectedLoans (loanBase db r.id "t1" segment.name stage minEcl) minEcl
          (loans.map (·.1.1.ecl)).sum = segment.ecl ∧ loans.length = segment.loans :=
  ⟨_, rfl, views_add_up totalsWrites rfl rfl ⟨by decide, by decide, by decide⟩⟩

end EclServer.Results
