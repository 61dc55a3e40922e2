import EclServer.Results.Totals

/-!
What an analyst can learn of the runs of others.

* `ResultsRequest`, `answer`: a request to one of the read endpoints and its answer.
* `AgreesExcept`: two states that differ in the runs of a tenant that others created, and in
  the results and artefacts of these runs, only.
* `Confidential`: a request has the same answer in all states that agree with the given one.
* `Confined`: the request reads no run of others: any but a dashboard that shows a run, and an
  artefact of a run that is not the analyst's.
* `confidential_iff`: these are the confidential requests. The scoped views are treated one by
  one (`answer_of_agrees`); for the other two there are states that tell (`withoutOthers`,
  `withRun`).
-/

namespace EclServer.Results

open EclServer.Library EclServer.Auth EclServer.Runs EclServer.Tenants

/-! ### Requests -/

inductive ResultsRequest where
  | dashboard
  | portfolio (runId stage : Option String) (minEcl : Option ℚ)
  | segment (segmentName : String) (runId stage : Option String) (minEcl : Option ℚ)
      (page perPage : ℕ)
  | loan (loanId : String) (runId : Option String)
  | listRuns (page perPage : ℕ) (status search : Option String)
  | outputArtifact (runId kind : String)
  | workbooksBundle (runId : String)

inductive ResultsAnswer where
  | dashboard (out : DashboardOut)
  | portfolio (out : PortfolioViewOut)
  | segment (out : SegmentViewOut)
  | loan (out : LoanViewOut)
  | listRuns (items : List RunListItemOut) (pages : PageMeta)
  | outputArtifact (artifact : OutputArtifact)
  | workbooksBundle (artifacts : List OutputArtifact)
  deriving DecidableEq

/-- The answer to a request of a member. -/
def answer (env : ViewEnv) (db : ResultsDb) (tenantId : String) (user : User)
    (m : TenantMembership) : ResultsRequest → Except ECLException ResultsAnswer
  | .dashboard => (getDashboard env db tenantId user (some m)).map .dashboard
  | .portfolio runId stage minEcl =>
      (getPortfolio env db tenantId runId user (some m) stage minEcl).map .portfolio
  | .segment segmentName runId stage minEcl page perPage =>
      (getSegment db tenantId segmentName runId stage minEcl page perPage user (some m)).map .segment
  | .loan loanId runId => (getLoan env db tenantId loanId runId user (some m)).map .loan
  | .listRuns page perPage status search =>
      (listRuns env db tenantId user (some m) page perPage status search).map fun r =>
        .listRuns r.1 r.2
  | .outputArtifact runId kind => (getOutputArtifact db tenantId runId kind).map .outputArtifact
  | .workbooksBundle runId => (buildWorkbooksBundle db tenantId runId).map .workbooksBundle

/-! ### States that agree -/

/-- A run of the tenant that somebody else created. -/
def isOther (tenantId userId : String) (r : Run) : Bool :=
  r.tenantId = tenantId ∧ r.createdByUserId ≠ userId

/-- The ids of the runs of others. -/
def otherIds (tenantId userId : String) (db : ResultsDb) : List String :=
  (db.runs.filter (isOther tenantId userId)).map (·.id)

/-- The rows of a table that are not the results of some runs. -/
def rowsOutside {α : Type} (ids : List String) (table : List (Stored α)) : List (Stored α) :=
  table.filter fun r => r.runId ∉ ids

/-- The states differ in the runs of others and what belongs to these runs only. -/
structure AgreesExcept (tenantId userId : String) (db db' : ResultsDb) : Prop where
  tenants : db'.tenants = db.tenants
  users : db'.users = db.users
  uploads : db'.uploads = db.uploads
  runs : db'.runs.filter (fun r => !isOther tenantId userId r)
    = db.runs.filter fun r => !isOther tenantId userId r
  pd : rowsOutside (otherIds tenantId userId db ++ otherIds tenantId userId db') db'.pdResults
    = rowsOutside (otherIds tenantId userId db ++ otherIds tenantId userId db') db.pdResults
  lgd : rowsOutside (otherIds tenantId userId db ++ otherIds tenantId userId db') db'.lgdResults
    = rowsOutside (otherIds tenantId userId db ++ otherIds tenantId userId db') db.lgdResults
  ead : rowsOutside (otherIds tenantId userId db ++ otherIds tenantId userId db') db'.eadResults
    = rowsOutside (otherIds tenantId userId db ++ otherIds tenantId userId db') db.eadResults
  artifacts :
    rowsOutside (otherIds tenantId userId db ++ otherIds tenantId userId db') db'.outputArtifacts
      = rowsOutside (otherIds tenantId userId db ++ otherIds tenantId userId db') db.outputArtifacts

/-- The request has one answer in all states that agree with this one. -/
def Confidential (env : ViewEnv) (db : ResultsDb) (tenantId : String) (user : User)
    (m : TenantMembership) (request : ResultsRequest) : Prop :=
  ∀ db', RowsOwned db' → AgreesExcept tenantId user.id db db' →
    answer env db' tenantId user m request = answer env db tenantId user m request

/-- The dashboard shows nothing, and an artefact is of a run that is not of others; the other
views read the user's own runs anyway. -/
def Confined (db : ResultsDb) (tenantId : String) (user : User) : ResultsRequest → Prop
  | .dashboard =>
      (∀ t ∈ db.tenants, t.id = tenantId → t.deletedAt ≠ none) ∨
        ∀ r ∈ db.runs, r.tenantId = tenantId → r.createdByUserId = user.id →
          r.status = .complete → r.deletedAt ≠ none
  | .outputArtifact runId _ | .workbooksBundle runId =>
      ∃ r ∈ db.runs, r.id = runId ∧ isOther tenantId user.id r = false
  | _ => True

/-! ### The scoped views -/

section

variable {env : ViewEnv} {db db' : ResultsDb} {tenantId : String} {user : User}
  {m : TenantMembership}

/-- The scope of an analyst: the own runs. -/
lemma getRunScopeFilter_analyst (hplatform : user.isPlatformAdmin = false)
    (hrole : m.role = analyst) :
    getRunScopeFilter user tenantId (some m)
      = .ok fun r => decide (r.tenantId = tenantId ∧ r.createdByUserId = user.id) := by
  have hother : ¬ (m.role = administrator ∨ m.role = reviewer) := by
    rw [hrole]
    decide
  rw [getRunScopeFilter, if_neg (by simp [hplatform])]
  simp only [if_neg hother]

/-- An analyst is shown a run where it is an own one. -/
lemma assertRunVisible_analyst (hplatform : user.isPlatformAdmin = false)
    (hrole : m.role = analyst) (hids : (db.runs.map (·.id)).Nodup) (runId : String) :
    assertRunVisible db.toRunDb user tenantId (some m) runId
      = match (db.runs.filter fun r => decide (r.id = runId ∧ r.tenantId = tenantId
          ∧ r.deletedAt = none ∧ r.createdByUserId = user.id)).head? with
        | none => .error runNotVisible
        | some r => .ok r := by
  rw [assertRunVisible, List.head?_filter]
  cases hfind : db.toRunDb.findRun tenantId runId with
  | none =>
      have hnone : (db.runs.find? fun r => decide (r.id = runId ∧ r.tenantId = tenantId
          ∧ r.deletedAt = none ∧ r.createdByUserId = user.id)) = none := by
        rw [List.find?_eq_none]
        intro r hr hp
        have hno := List.find?_eq_none.mp hfind r hr
        simp only [decide_eq_true_eq] at hp hno
        exact hno ⟨hp.1, hp.2.1, hp.2.2.1⟩
      rw [hnone]
  | some r =>
      have hp := List.find?_some (show db.runs.find? _ = some r from hfind)
      have hmem : r ∈ db.runs := List.mem_of_find?_eq_some hfind
      simp only [decide_eq_true_eq] at hp
      simp only [hplatform, Bool.false_eq_true, if_false, hrole, true_and]
      -- the id finds one run only, which is shown to the analyst who made it
      by_cases hown : r.createdByUserId = user.id
      · have hsome : (db.runs.find? fun r => decide (r.id = runId ∧ r.tenantId = tenantId
            ∧ r.deletedAt = none ∧ r.createdByUserId = user.id)).isSome = true := by
          rw [List.find?_isSome]
          exact ⟨r, hmem, decide_eq_true ⟨hp.1, hp.2.1, hp.2.2, hown⟩⟩
        obtain ⟨found, hfound⟩ := Option.isSome_iff_exists.mp hsome
        have hq := List.find?_some hfound
        simp only [decide_eq_true_eq] at hq
        have hsame : found = r := List.inj_on_of_nodup_map hids
          (List.mem_of_find?_eq_some hfound) hmem (hq.1.trans hp.1.symm)
        rw [hfound, hsame, if_neg (not_not.mpr hown)]
      · have hnone : (db.runs.find? fun r => decide (r.id = runId ∧ r.tenantId = tenantId
            ∧ r.deletedAt = none ∧ r.createdByUserId = user.id)) = none := by
          rw [List.find?_eq_none]
          intro a ha hq
          simp only [decide_eq_true_eq] at hq
          have hsame : a = r := List.inj_on_of_nodup_map hids ha hmem (hq.1.trans hp.1.symm)
          exact hown (hsame ▸ hq.2.2.2)
        rw [hnone, if_pos hown]

/-- A run that is not of others is no run of others in another table with its rows. -/
lemma notMem_otherIds (hids : (db.runs.map (·.id)).Nodup) {r : Run} (hr : r ∈ db.runs)
    (hother : isOther tenantId user.id r = false) : r.id ∉ otherIds tenantId user.id db := by
  intro hmem
  obtain ⟨a, ha, hid⟩ := List.mem_map.mp hmem
  obtain ⟨hadb, haother⟩ := List.mem_filter.mp ha
  have hsame : a = r := List.inj_on_of_nodup_map hids hadb hr hid
  rw [hsame, hother] at haother
  cases haother

lemma rowsOf_rowsOutside {α : Type} {ids : List String} {runId : String} (h : runId ∉ ids)
    (table : List (Stored α)) :
    rowsOf runId tenantId (rowsOutside ids table) = rowsOf runId tenantId table := by
  rw [rowsOf, rowsOf, rowsOutside, List.filter_filter]
  congr 1
  refine List.filter_congr fun r _ => ?_
  by_cases hid : r.runId = runId
  · simp [hid, h]
  · simp [hid]

section

variable (hagree : AgreesExcept tenantId user.id db db')
include hagree

/-- A selection of runs that are not of others is the same in both states. -/
lemma AgreesExcept.filter_runs {p : Run → Bool}
    (hp : ∀ r, p r = true → isOther tenantId user.id r = false) :
    db'.runs.filter p = db.runs.filter p := by
  have hsame : ∀ l : List Run,
      l.filter p = (l.filter fun r => !isOther tenantId user.id r).filter p := by
    intro l
    rw [List.filter_filter]
    refine List.filter_congr fun r _ => ?_
    by_cases hr : p r = true
    · simp [hr, hp r hr]
    · simp [hr]
  rw [hsame, hsame db.runs, hagree.runs]

lemma AgreesExcept.mem_runs {r : Run} (hr : r ∈ db.runs)
    (hother : isOther tenantId user.id r = false) : r ∈ db'.runs := by
  have hmem : r ∈ db.runs.filter fun r => !isOther tenantId user.id r :=
    List.mem_filter.mpr ⟨hr, by simp [hother]⟩
  rw [← hagree.runs] at hmem
  exact List.mem_of_mem_filter hmem

/-- The id of a run that is not of others is one of neither state's others. -/
lemma AgreesExcept.notMem_ids (hdb : RowsOwned db) (hdb' : RowsOwned db') {r : Run}
    (hr : r ∈ db.runs) (hother : isOther tenantId user.id r = false) :
    r.id ∉ otherIds tenantId user.id db ++ otherIds tenantId user.id db' := by
  rw [List.mem_append, not_or]
  exact ⟨notMem_otherIds hdb.ids hr hother,
    notMem_otherIds hdb'.ids (hagree.mem_runs hr hother) hother⟩

/-! ### What the views read -/

variable (hdb : RowsOwned db) (hdb' : RowsOwned db') {r : Run} (hr : r ∈ db.runs)
  (hother : isOther tenantId user.id r = false)
include hdb hdb' hr hother

lemma AgreesExcept.rowsOf_ead :
    rowsOf r.id tenantId db'.eadResults = rowsOf r.id tenantId db.eadResults := by
  have hid := hagree.notMem_ids hdb hdb' hr hother
  rw [← rowsOf_rowsOutside hid, hagree.ead, rowsOf_rowsOutside hid]

lemma AgreesExcept.rowsOf_pd :
    rowsOf r.id tenantId db'.pdResults = rowsOf r.id tenantId db.pdResults := by
  have hid := hagree.notMem_ids hdb hdb' hr hother
  rw [← rowsOf_rowsOutside hid, hagree.pd, rowsOf_rowsOutside hid]

lemma AgreesExcept.rowsOf_lgd :
    rowsOf r.id tenantId db'.lgdResults = rowsOf r.id tenantId db.lgdResults := by
  have hid := hagree.notMem_ids hdb hdb' hr hother
  rw [← rowsOf_rowsOutside hid, hagree.lgd, rowsOf_rowsOutside hid]

lemma AgreesExcept.rowsOf_artifacts :
    rowsOf r.id tenantId db'.outputArtifacts = rowsOf r.id tenantId db.outputArtifacts := by
  have hid := hagree.notMem_ids hdb hdb' hr hother
  rw [← rowsOf_rowsOutside hid, hagree.artifacts, rowsOf_rowsOutside hid]

lemma AgreesExcept.segmentBase (stage : Option String) (minEcl : Option ℚ) :
    segmentBase db' r.id tenantId stage minEcl = segmentBase db r.id tenantId stage minEcl := by
  rw [Results.segmentBase, hagree.rowsOf_ead hdb hdb' hr hother, Results.segmentBase]

lemma AgreesExcept.loanRowsForSegment (segmentName : String) (page perPage : ℕ)
    (stage : Option String) (minEcl : Option ℚ) :
    loanRowsForSegment db' r.id tenantId segmentName page perPage stage minEcl
      = loanRowsForSegment db r.id tenantId segmentName page perPage stage minEcl := by
  have hbase : loanBase db' r.id tenantId segmentName stage minEcl
      = loanBase db r.id tenantId segmentName stage minEcl := by
    rw [loanBase, hagree.rowsOf_ead hdb hdb' hr hother, loanBase]
  rw [Results.loanRowsForSegment, hbase, Results.loanRowsForSegment]

lemma AgreesExcept.pdMatrix (segmentName : String) :
    pdMatrix db' r.id tenantId segmentName = pdMatrix db r.id tenantId segmentName := by
  rw [Results.pdMatrix, hagree.rowsOf_pd hdb hdb' hr hother, Results.pdMatrix]

lemma AgreesExcept.loanCount : loanCount db' r.id tenantId = loanCount db r.id tenantId := by
  rw [Results.loanCount, hagree.rowsOf_ead hdb hdb' hr hother, Results.loanCount]

/-- The segments, with the ECL of another run that is not of others. -/
lemma AgreesExcept.segmentAggregates {previous : Option Run}
    (hprevious : ∀ p, previous = some p → p ∈ db.runs ∧ isOther tenantId user.id p = false)
    (stage : Option String) (minEcl : Option ℚ) :
    segmentAggregates db' r.id tenantId (previous.map (·.id)) stage minEcl
      = segmentAggregates db r.id tenantId (previous.map (·.id)) stage minEcl := by
  simp only [Results.segmentAggregates, hagree.segmentBase hdb hdb' hr hother]
  cases previous with
  | none => rfl
  | some p =>
      obtain ⟨hp, hpother⟩ := hprevious p rfl
      simp only [Option.map_some, hagree.rowsOf_ead hdb hdb' hp hpother]

end

/-! ### The runs the views show -/

/-- A run the analyst's scope lets through is an own one. -/
lemma isOther_of_scope {r : Run}
    (h : decide (r.tenantId = tenantId ∧ r.createdByUserId = user.id) = true) :
    isOther tenantId user.id r = false :=
  decide_eq_false fun hother => hother.2 (of_decide_eq_true h).2

section

variable (hplatform : user.isPlatformAdmin = false) (hrole : m.role = analyst)
include hplatform hrole

/-- The run an analyst is shown is an own one. -/
lemma own_of_latestCompletedRun (hids : (db.runs.map (·.id)).Nodup) {runId : Option String}
    {r : Run} (h : latestCompletedRun db tenantId runId user (some m) = .ok r) :
    r ∈ db.runs ∧ isOther tenantId user.id r = false ∧ r.status = .complete ∧
      r.deletedAt = none ∧ r.tenantId = tenantId ∧ r.createdByUserId = user.id := by
  rw [latestCompletedRun] at h
  split at h
  · obtain ⟨found, hfound, h⟩ := bind_eq_ok.mp h
    rw [assertRunVisible_analyst hplatform hrole hids] at hfound
    split at hfound
    · cases hfound
    rename_i a hhead
    obtain rfl := Except.ok.inj hfound
    split at h
    · cases h
    rename_i hcomplete
    obtain rfl := Except.ok.inj h
    obtain ⟨hmem, hp⟩ := List.mem_filter.mp (List.mem_of_mem_head? hhead)
    simp only [decide_eq_true_eq] at hp
    exact ⟨hmem, decide_eq_false fun hother => hother.2 hp.2.2.2, not_not.mp hcomplete,
      hp.2.2.1, hp.2.1, hp.2.2.2⟩
  · rw [getRunScopeFilter_analyst hplatform hrole] at h
    obtain ⟨scope, hscope, h⟩ := bind_eq_ok.mp h
    obtain rfl := Except.ok.inj hscope
    dsimp only at h
    split at h
    · cases h
    rename_i found hhead
    obtain rfl := Except.ok.inj h
    have hmem := (mem_sortByKey recency).mp (List.mem_of_mem_head? hhead)
    obtain ⟨hrun, hp⟩ := List.mem_filter.mp hmem
    simp only [decide_eq_true_eq] at hp
    exact ⟨hrun, decide_eq_false fun hother => hother.2 hp.1.2, hp.2.1, hp.2.2, hp.1.1, hp.1.2⟩

lemma own_of_previousCompletedRun {before : Option Time} {previous : Option Run}
    (h : previousCompletedRun db tenantId before user (some m) = .ok previous) :
    ∀ p, previous = some p → p ∈ db.runs ∧ isOther tenantId user.id p = false := by
  rintro p rfl
  cases before with
  | none => cases h
  | some before =>
      rw [previousCompletedRun, getRunScopeFilter_analyst hplatform hrole] at h
      have hhead := Except.ok.inj h
      have hmem := (mem_sortByKey _).mp (List.mem_of_mem_head? hhead)
      obtain ⟨hrun, hp⟩ := List.mem_filter.mp hmem
      simp only [decide_eq_true_eq] at hp
      exact ⟨hrun, decide_eq_false fun hother => hother.2 hp.1.2⟩

variable (hagree : AgreesExcept tenantId user.id db db')
include hagree

lemma AgreesExcept.latestCompletedRun (hdb : RowsOwned db) (hdb' : RowsOwned db')
    (runId : Option String) :
    latestCompletedRun db' tenantId runId user (some m)
      = latestCompletedRun db tenantId runId user (some m) := by
  unfold Results.latestCompletedRun
  split
  · rename_i id _
    have hsame := hagree.filter_runs (p := fun r => decide (r.id = id ∧ r.tenantId = tenantId
        ∧ r.deletedAt = none ∧ r.createdByUserId = user.id)) fun r hp =>
      decide_eq_false fun hother => hother.2 (of_decide_eq_true hp).2.2.2
    rw [assertRunVisible_analyst hplatform hrole hdb'.ids, hsame,
      assertRunVisible_analyst hplatform hrole hdb.ids]
  · rw [getRunScopeFilter_analyst hplatform hrole]
    have hsame := hagree.filter_runs (p := fun r =>
        decide (decide (r.tenantId = tenantId ∧ r.createdByUserId = user.id) = true
          ∧ r.status = .complete ∧ r.deletedAt = none)) fun r hp =>
      isOther_of_scope (of_decide_eq_true hp).1
    change (match (sortByKey recency (db'.runs.filter _)).head? with
      | none => _
      | some run => _) = _
    rw [hsame]
    rfl

lemma AgreesExcept.previousCompletedRun (before : Option Time) :
    previousCompletedRun db' tenantId before user (some m)
      = previousCompletedRun db tenantId before user (some m) := by
  cases before with
  | none => rfl
  | some before =>
      have hsame := hagree.filter_runs (p := fun r =>
          decide (decide (r.tenantId = tenantId ∧ r.createdByUserId = user.id) = true
            ∧ r.status = .complete ∧ r.deletedAt = none ∧ r.finishedAt.any (· < before)))
        fun r hp => isOther_of_scope (of_decide_eq_true hp).1
      rw [Results.previousCompletedRun, Results.previousCompletedRun,
        getRunScopeFilter_analyst hplatform hrole]
      change Except.ok (sortByKey _ (db'.runs.filter _)).head? = _
      rw [hsame]
      rfl

/-! ### The answers -/

variable (hdb : RowsOwned db) (hdb' : RowsOwned db')
include hdb hdb'

omit hplatform hrole hdb hdb' in
lemma AgreesExcept.getTenant : getTenant db' tenantId = getTenant db tenantId := by
  rw [Results.getTenant, hagree.tenants, Results.getTenant]

lemma AgreesExcept.getPortfolio (runId stage : Option String) (minEcl : Option ℚ) :
    getPortfolio env db' tenantId runId user (some m) stage minEcl
      = getPortfolio env db tenantId runId user (some m) stage minEcl := by
  rw [Results.getPortfolio, Results.getPortfolio, hagree.getTenant,
    hagree.latestCompletedRun hplatform hrole hdb hdb']
  cases hstage : validateStage stage with
  | error e => simp only [bind, Except.bind]
  | ok stage =>
    cases htenant : Results.getTenant db tenantId with
    | error e => simp only [bind, Except.bind]
    | ok tenant =>
      cases hrun : Results.latestCompletedRun db tenantId runId user (some m) with
      | error e => simp only [bind, Except.bind]
      | ok r =>
        obtain ⟨hr, hother, _⟩ := own_of_latestCompletedRun hplatform hrole hdb.ids hrun
        simp only [bind, Except.bind, hagree.previousCompletedRun hplatform hrole]
        cases hprevious : Results.previousCompletedRun db tenantId r.finishedAt user (some m) with
        | error e => rfl
        | ok previous =>
          have hown := own_of_previousCompletedRun hplatform hrole hprevious
          simp only [hagree.segmentAggregates hdb hdb' hr hother hown]

lemma AgreesExcept.getSegment (segmentName : String) (runId stage : Option String)
    (minEcl : Option ℚ) (page perPage : ℕ) :
    getSegment db' tenantId segmentName runId stage minEcl page perPage user (some m)
      = getSegment db tenantId segmentName runId stage minEcl page perPage user (some m) := by
  rw [Results.getSegment, Results.getSegment, hagree.getTenant,
    hagree.latestCompletedRun hplatform hrole hdb hdb']
  cases hstage : validateStage stage with
  | error e => simp only [bind, Except.bind]
  | ok stage =>
    cases htenant : Results.getTenant db tenantId with
    | error e => simp only [bind, Except.bind]
    | ok tenant =>
      cases hrun : Results.latestCompletedRun db tenantId runId user (some m) with
      | error e => simp only [bind, Except.bind]
      | ok r =>
        obtain ⟨hr, hother, _⟩ := own_of_latestCompletedRun hplatform hrole hdb.ids hrun
        simp only [bind, Except.bind, hagree.previousCompletedRun hplatform hrole]
        cases hprevious : Results.previousCompletedRun db tenantId r.finishedAt user (some m) with
        | error e => rfl
        | ok previous =>
          have hown := own_of_previousCompletedRun hplatform hrole hprevious
          simp only [hagree.segmentAggregates hdb hdb' hr hother hown,
            hagree.loanRowsForSegment hdb hdb' hr hother, hagree.pdMatrix hdb hdb' hr hother]

lemma AgreesExcept.getLoan (loanId : String) (runId : Option String) :
    getLoan env db' tenantId loanId runId user (some m)
      = getLoan env db tenantId loanId runId user (some m) := by
  rw [Results.getLoan, Results.getLoan, hagree.getTenant,
    hagree.latestCompletedRun hplatform hrole hdb hdb']
  cases htenant : Results.getTenant db tenantId with
  | error e => simp only [bind, Except.bind]
  | ok tenant =>
    cases hrun : Results.latestCompletedRun db tenantId runId user (some m) with
    | error e => simp only [bind, Except.bind]
    | ok r =>
      obtain ⟨hr, hother, _⟩ := own_of_latestCompletedRun hplatform hrole hdb.ids hrun
      simp only [bind, Except.bind, hagree.rowsOf_ead hdb hdb' hr hother,
        hagree.rowsOf_lgd hdb hdb' hr hother]

omit hdb hdb' in
lemma AgreesExcept.listRuns (page perPage : ℕ) (status search : Option String) :
    listRuns env db' tenantId user (some m) page perPage status search
      = listRuns env db tenantId user (some m) page perPage status search := by
  have hsame := hagree.filter_runs (p := fun r =>
      decide (decide (r.tenantId = tenantId ∧ r.createdByUserId = user.id) = true
        ∧ r.deletedAt = none ∧ runFilter env status search r = true))
    fun r hp => isOther_of_scope (of_decide_eq_true hp).1
  have hbase : ∀ runs, withCreators db' runs = withCreators db runs := fun runs => by
    rw [withCreators, hagree.users, withCreators]
  rw [Results.listRuns, Results.listRuns, hagree.getTenant,
    getRunScopeFilter_analyst hplatform hrole]
  cases htenant : Results.getTenant db tenantId with
  | error e => simp only [bind, Except.bind]
  | ok tenant => simp only [bind, Except.bind, hbase, hsame]

/-- Without a run of the analyst's own, the dashboard is empty. -/
lemma AgreesExcept.getDashboard
    (hconfined : Confined db tenantId user .dashboard) :
    getDashboard env db' tenantId user (some m) = getDashboard env db tenantId user (some m) := by
  rw [Results.getDashboard, Results.getDashboard, hagree.getTenant,
    hagree.latestCompletedRun hplatform hrole hdb hdb']
  cases htenant : Results.getTenant db tenantId with
  | error e => simp only [bind, Except.bind]
  | ok tenant =>
    cases hrun : Results.latestCompletedRun db tenantId none user (some m) with
    | error e => simp only [bind, Except.bind]
    | ok r =>
      obtain ⟨hr, _, hcomplete, hlive, hown⟩ :=
        own_of_latestCompletedRun hplatform hrole hdb.ids hrun
      rcases hconfined with hgone | hnone
      · rw [Results.getTenant] at htenant
        split at htenant
        · cases htenant
        · rename_i t ht
          have hp := List.find?_some ht
          simp only [decide_eq_true_eq] at hp
          exact absurd hp.2 (hgone t (List.mem_of_find?_eq_some ht) hp.1)
      · exact absurd hlive (hnone r hr hown.1 hown.2 hcomplete)

omit hplatform hrole in
/-- An artefact of a run that is not of others. -/
lemma AgreesExcept.getOutputArtifact {r : Run} (hr : r ∈ db.runs)
    (hother : isOther tenantId user.id r = false) (kind : String) :
    getOutputArtifact db' tenantId r.id kind = getOutputArtifact db tenantId r.id kind := by
  have hr' := hagree.mem_runs hr hother
  have hfind : ∀ {d : ResultsDb}, RowsOwned d → r ∈ d.runs → d.toRunDb.findRun tenantId r.id
      = if r.tenantId = tenantId ∧ r.deletedAt = none then some r else none := by
    intro d hd hmem
    split
    · rename_i hlive
      exact findRun_eq_some hd.ids hmem hlive.1 hlive.2
    · rename_i hno
      rw [RunDb.findRun, List.find?_eq_none]
      intro a ha hp
      simp only [decide_eq_true_eq] at hp
      have hsame : a = r := List.inj_on_of_nodup_map hd.ids ha hmem hp.1
      exact hno (hsame ▸ hp.2)
  rw [Results.getOutputArtifact, Results.getOutputArtifact, hfind hdb' hr', hfind hdb hr,
    hagree.rowsOf_artifacts hdb hdb' hr hother]

/-- **The confined requests** have the same answer in states that agree. -/
lemma AgreesExcept.answer {request : ResultsRequest}
    (hconfined : Confined db tenantId user request) :
    answer env db' tenantId user m request = answer env db tenantId user m request := by
  cases request with
  | dashboard =>
      rw [Results.answer, hagree.getDashboard hplatform hrole hdb hdb' hconfined, Results.answer]
  | portfolio runId stage minEcl =>
      rw [Results.answer, hagree.getPortfolio hplatform hrole hdb hdb', Results.answer]
  | segment segmentName runId stage minEcl page perPage =>
      rw [Results.answer, hagree.getSegment hplatform hrole hdb hdb', Results.answer]
  | loan loanId runId =>
      rw [Results.answer, hagree.getLoan hplatform hrole hdb hdb', Results.answer]
  | listRuns page perPage status search =>
      rw [Results.answer, hagree.listRuns hplatform hrole, Results.answer]
  | outputArtifact runId kind =>
      obtain ⟨r, hr, rfl, hother⟩ := hconfined
      rw [Results.answer, hagree.getOutputArtifact hdb hdb' hr hother, Results.answer]
  | workbooksBundle runId =>
      obtain ⟨r, hr, rfl, hother⟩ := hconfined
      have hsame : Results.getOutputArtifact db' tenantId r.id
          = Results.getOutputArtifact db tenantId r.id :=
        funext fun kind => hagree.getOutputArtifact hdb hdb' hr hother kind
      rw [Results.answer, buildWorkbooksBundle, hsame, Results.answer, buildWorkbooksBundle]

end

/-! ### States that tell -/

/-- The state with other runs of others, and no results of such runs. -/
def othersReplaced (tenantId userId : String) (db : ResultsDb) (others : List Run) : ResultsDb :=
  { db with
    runs := (db.runs.filter fun r => !isOther tenantId userId r) ++ others
    pdResults := rowsOutside (otherIds tenantId userId db) db.pdResults
    lgdResults := rowsOutside (otherIds tenantId userId db) db.lgdResults
    eadResults := rowsOutside (otherIds tenantId userId db) db.eadResults
    outputArtifacts := rowsOutside (otherIds tenantId userId db) db.outputArtifacts }

section

variable {userId : String} {others : List Run}

lemma runs_othersReplaced (db : ResultsDb) (others : List Run) :
    (othersReplaced tenantId userId db others).runs
      = (db.runs.filter fun r => !isOther tenantId userId r) ++ others := rfl

lemma rowsOutside_rowsOutside {α : Type} {ids ids' : List String} (h : ids' ⊆ ids)
    (table : List (Stored α)) :
    rowsOutside ids (rowsOutside ids' table) = rowsOutside ids table := by
  rw [rowsOutside, rowsOutside, rowsOutside, List.filter_filter]
  refine List.filter_congr fun r _ => ?_
  by_cases hmem : r.runId ∈ ids
  · simp [hmem]
  · have hmem' : r.runId ∉ ids' := fun hr => hmem (h hr)
    simp [hmem, hmem']

/-- **Such a state agrees** with the given one. -/
lemma agreesExcept_othersReplaced (db : ResultsDb)
    (hothers : ∀ r ∈ others, isOther tenantId userId r = true) :
    AgreesExcept tenantId userId db (othersReplaced tenantId userId db others) where
  tenants := rfl
  users := rfl
  uploads := rfl
  runs := by
    have hnone : (others.filter fun r => !isOther tenantId userId r) = [] := by
      rw [List.filter_eq_nil_iff]
      intro r hr
      simp [hothers r hr]
    rw [runs_othersReplaced, List.filter_append, hnone, List.append_nil, List.filter_filter]
    simp
  pd := rowsOutside_rowsOutside (List.subset_append_left _ _) _
  lgd := rowsOutside_rowsOutside (List.subset_append_left _ _) _
  ead := rowsOutside_rowsOutside (List.subset_append_left _ _) _
  artifacts := rowsOutside_rowsOutside (List.subset_append_left _ _) _

lemma ownedBy_othersReplaced {α : Type} {table : List (Stored α)} (h : OwnedBy db.runs table) :
    OwnedBy (othersReplaced tenantId userId db others).runs
      (rowsOutside (otherIds tenantId userId db) table) := by
  intro row hrow
  obtain ⟨hmem, hout⟩ := List.mem_filter.mp hrow
  obtain ⟨r, hr, hid, htenant⟩ := h row hmem
  refine ⟨r, List.mem_append_left _ (List.mem_filter.mpr ⟨hr, ?_⟩), hid, htenant⟩
  have hno : row.runId ∉ otherIds tenantId userId db := of_decide_eq_true hout
  rw [Bool.not_eq_true', Bool.eq_false_iff]
  intro hother
  exact hno (hid ▸ List.mem_map_of_mem (List.mem_filter.mpr ⟨hr, hother⟩))

lemma rowsOwned_othersReplaced (hdb : RowsOwned db)
    (hids : ((othersReplaced tenantId userId db others).runs.map (·.id)).Nodup) :
    RowsOwned (othersReplaced tenantId userId db others) where
  ids := hids
  pd := ownedBy_othersReplaced hdb.pd
  lgd := ownedBy_othersReplaced hdb.lgd
  ead := ownedBy_othersReplaced hdb.ead
  artifacts := ownedBy_othersReplaced hdb.artifacts

/-- One run of others, under an id that no run has which is not of others. -/
lemma rowsOwned_othersReplaced_one (hdb : RowsOwned db) {r : Run}
    (hfresh : ∀ a ∈ db.runs, isOther tenantId userId a = false → a.id ≠ r.id) :
    RowsOwned (othersReplaced tenantId userId db [r]) := by
  refine rowsOwned_othersReplaced hdb ?_
  rw [runs_othersReplaced, List.map_append, List.nodup_append]
  refine ⟨hdb.ids.sublist (List.filter_sublist.map _), List.nodup_singleton _, ?_⟩
  intro id hid id' hid' hsame
  obtain ⟨a, ha, rfl⟩ := List.mem_map.mp hid
  obtain ⟨hadb, haother⟩ := List.mem_filter.mp ha
  obtain rfl : id' = r.id := by simpa using hid'
  exact hfresh a hadb (by simpa using haother) hsame

lemma rowsOwned_othersReplaced_nil (hdb : RowsOwned db) :
    RowsOwned (othersReplaced tenantId userId db []) := by
  refine rowsOwned_othersReplaced hdb ?_
  rw [runs_othersReplaced, List.append_nil]
  exact hdb.ids.sublist (List.filter_sublist.map _)

end

/-- A live run of the tenant that somebody else created. -/
def runOfOther (tenantId : String) (user : User) (id name : String) (updatedAt : Time) : Run :=
  { id := id, tenantId := tenantId, createdByUserId := user.id ++ "'", name := name
    status := .queued, updatedAt := updatedAt }

lemma ne_append_quote (s : String) : s ++ "'" ≠ s := by
  intro h
  have hlength := congrArg String.length h
  rw [String.length_append] at hlength
  exact absurd hlength (by simp)

lemma isOther_runOfOther (id name : String) (updatedAt : Time) :
    isOther tenantId user.id (runOfOther tenantId user id name updatedAt) = true :=
  decide_eq_true ⟨rfl, ne_append_quote user.id⟩

/-! ### Artefacts of others -/

section

variable {runId : String}
  (hfresh : ∀ a ∈ db.runs, isOther tenantId user.id a = false → a.id ≠ runId)
include hfresh

lemma getOutputArtifact_without (kind : String) :
    getOutputArtifact (othersReplaced tenantId user.id db []) tenantId runId kind
      = .error runNotFound := by
  have hnone : (othersReplaced tenantId user.id db []).toRunDb.findRun tenantId runId = none := by
    rw [RunDb.findRun, List.find?_eq_none]
    intro a ha hp
    rw [runs_othersReplaced, List.append_nil] at ha
    obtain ⟨hadb, haother⟩ := List.mem_filter.mp ha
    simp only [decide_eq_true_eq] at hp
    exact hfresh a hadb (by simpa using haother) hp.1
  rw [getOutputArtifact, hnone]

omit hfresh in
lemma getOutputArtifact_with (kind : String) :
    getOutputArtifact
      (othersReplaced tenantId user.id db [runOfOther tenantId user runId "" 0]) tenantId runId kind
      ≠ .error runNotFound := by
  have hsome : ((othersReplaced tenantId user.id db
      [runOfOther tenantId user runId "" 0]).toRunDb.findRun tenantId runId).isSome = true := by
    rw [RunDb.findRun, List.find?_isSome]
    exact ⟨_, List.mem_append_right _ List.mem_cons_self, decide_eq_true ⟨rfl, rfl, rfl⟩⟩
  obtain ⟨found, hfound⟩ := Option.isSome_iff_exists.mp hsome
  rw [getOutputArtifact, hfound]
  dsimp only
  split
  · intro h
    exact absurd (congrArg ECLException.code (Except.error.inj h))
      (show "ARTIFACT_NOT_FOUND" ≠ "RESOURCE_NOT_FOUND" by decide)
  · intro h
    cases h
  · intro h
    exact absurd (congrArg ECLException.code (Except.error.inj h))
      (show "INTERNAL_ERROR" ≠ "RESOURCE_NOT_FOUND" by decide)

lemma buildWorkbooksBundle_without :
    buildWorkbooksBundle (othersReplaced tenantId user.id db []) tenantId runId
      = .error runNotFound := by
  rw [buildWorkbooksBundle, workbookBundleKinds, List.mapM_cons, getOutputArtifact_without hfresh]
  rfl

omit hfresh in
lemma buildWorkbooksBundle_with :
    buildWorkbooksBundle
      (othersReplaced tenantId user.id db [runOfOther tenantId user runId "" 0]) tenantId runId
      ≠ .error runNotFound := by
  intro h
  obtain ⟨kind, _, hkind⟩ := exists_of_mapM_error h
  exact getOutputArtifact_with kind hkind

end

/-! ### The dashboard -/

lemma exists_getDashboard {tenant : Tenant} {r : Run}
    (htenant : getTenant db tenantId = .ok tenant)
    (hrun : latestCompletedRun db tenantId none user (some m) = .ok r) :
    ∃ out, getDashboard env db tenantId user (some m) = .ok out ∧
      out.activeRun = (activeRun db tenantId).map activeRunOut := by
  obtain ⟨_, _, scope, hscope⟩ := latestCompletedRun_ok hrun
  obtain ⟨previous, hprevious⟩ : ∃ previous,
      previousCompletedRun db tenantId r.finishedAt user (some m) = .ok previous :=
    exists_previousCompletedRun _ hscope
  rw [getDashboard, htenant]
  simp only [bind, Except.bind, hrun, hprevious]
  exact ⟨_, rfl, rfl⟩

/-- An active run that was written last is the one shown. -/
lemma activeRun_of_newest {r : Run} (hr : r ∈ db.runs) (htenant : r.tenantId = tenantId)
    (hlive : r.deletedAt = none) (hactive : r.status ∈ activeRunStatuses)
    (hnewest : ∀ a ∈ db.runs, a = r ∨ a.updatedAt < r.updatedAt) :
    activeRun db tenantId = some r := by
  have hmem : r ∈ db.runs.filter fun a =>
      decide (a.tenantId = tenantId ∧ a.deletedAt = none ∧ a.status ∈ activeRunStatuses) :=
    List.mem_filter.mpr ⟨hr, decide_eq_true ⟨htenant, hlive, hactive⟩⟩
  rw [activeRun]
  cases hhead : (sortByKey (fun a : Run => -a.updatedAt) (db.runs.filter fun a =>
      decide (a.tenantId = tenantId ∧ a.deletedAt = none
        ∧ a.status ∈ activeRunStatuses))).head? with
  | none =>
      rw [List.head?_eq_none_iff] at hhead
      have hsorted := (mem_sortByKey fun a : Run => -a.updatedAt).mpr hmem
      rw [hhead] at hsorted
      exact absurd hsorted List.not_mem_nil
  | some a =>
      have hle := key_head?_sortByKey _ hhead hmem
      have ha := (mem_sortByKey _).mp (List.mem_of_mem_head? hhead)
      rcases hnewest a (List.mem_of_mem_filter ha) with rfl | hlt
      · rfl
      · exact absurd hle (not_le.mpr (neg_lt_neg hlt))

/-- Where the dashboard shows something, the analyst has a completed run. -/
lemma exists_shown (hplatform : user.isPlatformAdmin = false) (hrole : m.role = analyst)
    (h : ¬ Confined db tenantId user .dashboard) :
    (∃ tenant, getTenant db tenantId = .ok tenant) ∧
      ∃ r, latestCompletedRun db tenantId none user (some m) = .ok r := by
  rw [Confined, not_or] at h
  push Not at h
  obtain ⟨⟨t, ht, hid, hlive⟩, r, hr, htenant, hown, hcomplete, hrlive⟩ := h
  constructor
  · rw [getTenant]
    cases hfind : db.tenants.find? fun t => decide (t.id = tenantId ∧ t.deletedAt = none) with
    | none => exact absurd (decide_eq_true ⟨hid, hlive⟩) (List.find?_eq_none.mp hfind t ht)
    | some tenant => exact ⟨tenant, rfl⟩
  · have hmem : r ∈ db.runs.filter fun r =>
        decide (decide (r.tenantId = tenantId ∧ r.createdByUserId = user.id) = true
          ∧ r.status = .complete ∧ r.deletedAt = none) :=
      List.mem_filter.mpr ⟨hr, decide_eq_true ⟨decide_eq_true ⟨htenant, hown⟩, hcomplete, hrlive⟩⟩
    rw [latestCompletedRun, getRunScopeFilter_analyst hplatform hrole]
    change ∃ r, (match (sortByKey recency (db.runs.filter _)).head? with
      | none => _
      | some run => _) = Except.ok r
    cases hhead : (sortByKey recency (db.runs.filter fun r =>
        decide (decide (r.tenantId = tenantId ∧ r.createdByUserId = user.id) = true
          ∧ r.status = .complete ∧ r.deletedAt = none))).head? with
    | none =>
        rw [List.head?_eq_none_iff] at hhead
        have hsorted := (mem_sortByKey recency).mpr hmem
        rw [hhead] at hsorted
        exact absurd hsorted List.not_mem_nil
    | some shown => exact ⟨shown, rfl⟩

lemma exists_later (runs : List Run) : ∃ t : Time, ∀ a ∈ runs, a.updatedAt < t := by
  induction runs with
  | nil => exact ⟨0, fun a ha => absurd ha List.not_mem_nil⟩
  | cons a as ih =>
      obtain ⟨t, ht⟩ := ih
      refine ⟨max t (a.updatedAt + 1), fun b hb => ?_⟩
      rcases List.mem_cons.mp hb with rfl | hb
      · exact lt_max_of_lt_right (Int.lt_succ _)
      · exact lt_max_of_lt_left (ht b hb)

lemma exists_freshId (ids : List String) : ∃ id, id ∉ ids := by
  have : Infinite String := Infinite.of_injective Nat.repr Engine.natRepr_injective
  obtain ⟨id, hid⟩ := Infinite.exists_notMem_finset ids.toFinset
  exact ⟨id, fun h => hid (List.mem_toFinset.mpr h)⟩

/-- A dashboard that shows a run tells of an active run of others: with none and with a new one
of another name it differs. -/
lemma dashboard_tells (hdb : RowsOwned db) (hplatform : user.isPlatformAdmin = false)
    (hrole : m.role = analyst) (h : ¬ Confined db tenantId user .dashboard) :
    ¬ Confidential env db tenantId user m .dashboard := by
  intro hconfidential
  obtain ⟨⟨tenant, htenant⟩, shown, hshown⟩ := exists_shown hplatform hrole h
  have hdashboard : ∀ {db'}, RowsOwned db' → AgreesExcept tenantId user.id db db' →
      ∃ out, answer env db' tenantId user m .dashboard = .ok (.dashboard out) ∧
        out.activeRun = (activeRun db' tenantId).map activeRunOut := by
    intro db' hdb' hagree
    have htenant' : getTenant db' tenantId = .ok tenant := hagree.getTenant.trans htenant
    have hshown' : latestCompletedRun db' tenantId none user (some m) = .ok shown :=
      (hagree.latestCompletedRun hplatform hrole hdb hdb' none).trans hshown
    obtain ⟨out, hout, hactive⟩ : ∃ out, getDashboard env db' tenantId user (some m) = .ok out ∧
        out.activeRun = (activeRun db' tenantId).map activeRunOut :=
      exists_getDashboard htenant' hshown'
    exact ⟨out, by rw [answer, hout]; rfl, hactive⟩
  -- a name the active run does not have while others have no run
  let before := activeRun (othersReplaced tenantId user.id db []) tenantId
  let name := (before.map (·.name)).getD "" ++ "'"
  obtain ⟨newId, hnewId⟩ := exists_freshId (db.runs.map (·.id))
  obtain ⟨t, ht⟩ := exists_later db.runs
  let r := runOfOther tenantId user newId name t
  have hfresh : ∀ a ∈ db.runs, isOther tenantId user.id a = false → a.id ≠ r.id := by
    intro a ha _ hsame
    have hmem : a.id ∈ db.runs.map (·.id) := List.mem_map_of_mem ha
    rw [hsame] at hmem
    exact hnewId hmem
  have hagree : AgreesExcept tenantId user.id db (othersReplaced tenantId user.id db []) :=
    agreesExcept_othersReplaced db fun a ha => absurd ha List.not_mem_nil
  have hagree' : AgreesExcept tenantId user.id db (othersReplaced tenantId user.id db [r]) := by
    refine agreesExcept_othersReplaced db fun a ha => ?_
    rw [List.mem_singleton.mp ha]
    exact isOther_runOfOther newId name t
  have hactive : activeRun (othersReplaced tenantId user.id db [r]) tenantId = some r := by
    refine activeRun_of_newest (List.mem_append_right _ List.mem_cons_self) rfl rfl
      List.mem_cons_self fun a ha => ?_
    rcases List.mem_append.mp ha with hold | hnew
    · exact Or.inr (ht a (List.mem_of_mem_filter hold))
    · exact Or.inl (List.mem_singleton.mp hnew)
  obtain ⟨out, hout, hactiveOut⟩ := hdashboard (rowsOwned_othersReplaced_nil hdb) hagree
  obtain ⟨out', hout', hactiveOut'⟩ :=
    hdashboard (rowsOwned_othersReplaced_one hdb hfresh) hagree'
  have hsame : out = out' := by
    have hfirst := hconfidential _ (rowsOwned_othersReplaced_nil hdb) hagree
    have hsecond := hconfidential _ (rowsOwned_othersReplaced_one hdb hfresh) hagree'
    have hboth := hout.symm.trans (hfirst.trans (hsecond.symm.trans hout'))
    injection hboth with hboth
    injection hboth
  have hname : before.map (·.name) = some name := by
    have hruns := congrArg (fun a => a.map ActiveRunOut.name)
      (hactiveOut.symm.trans (congrArg DashboardOut.activeRun hsame |>.trans hactiveOut'))
    rw [hactive, Option.map_map] at hruns
    exact hruns
  have hcontra : name = (before.map (·.name)).getD "" := by rw [hname]; rfl
  exact ne_append_quote _ hcontra

/-- **The confidential requests** of an analyst are those that read no run of others: every
portfolio, segment, loan and list of runs, the dashboard where it is empty, and the artefacts
of runs that are not of others. -/
theorem confidential_iff {request : ResultsRequest} (hdb : RowsOwned db)
    (hplatform : user.isPlatformAdmin = false) (hrole : m.role = analyst) :
    Confidential env db tenantId user m request ↔ Confined db tenantId user request := by
  constructor
  · intro h
    by_contra hconfined
    have hnil : ∀ r ∈ ([] : List Run), isOther tenantId user.id r = true :=
      fun r hr => absurd hr List.not_mem_nil
    have hone : ∀ runId, ∀ r ∈ [runOfOther tenantId user runId "" 0],
        isOther tenantId user.id r = true := fun runId r hr => by
      rw [List.mem_singleton.mp hr]
      exact isOther_runOfOther runId "" 0
    cases request with
    | dashboard => exact dashboard_tells hdb hplatform hrole hconfined h
    | outputArtifact runId kind =>
        -- without the runs of others, and with one of this id instead, the answers must be the same
        have hfresh : ∀ a ∈ db.runs, isOther tenantId user.id a = false → a.id ≠ runId :=
          fun a ha hother hid => hconfined ⟨a, ha, hid, hother⟩
        have hwithout := h _ (rowsOwned_othersReplaced_nil hdb) (agreesExcept_othersReplaced db hnil)
        have hwith := h _ (rowsOwned_othersReplaced_one hdb hfresh)
          (agreesExcept_othersReplaced db (hone runId))
        rw [← hwithout, answer, answer, getOutputArtifact_without hfresh] at hwith
        cases hartifact : getOutputArtifact
            (othersReplaced tenantId user.id db [runOfOther tenantId user runId "" 0]) tenantId
            runId kind with
        | error e =>
            rw [hartifact] at hwith
            obtain rfl : e = runNotFound := Except.error.inj hwith
            exact getOutputArtifact_with kind hartifact
        | ok artifact =>
            rw [hartifact] at hwith
            cases hwith
    | workbooksBundle runId =>
        have hfresh : ∀ a ∈ db.runs, isOther tenantId user.id a = false → a.id ≠ runId :=
          fun a ha hother hid => hconfined ⟨a, ha, hid, hother⟩
        have hwithout := h _ (rowsOwned_othersReplaced_nil hdb) (agreesExcept_othersReplaced db hnil)
        have hwith := h _ (rowsOwned_othersReplaced_one hdb hfresh)
          (agreesExcept_othersReplaced db (hone runId))
        rw [← hwithout, answer, answer, buildWorkbooksBundle_without hfresh] at hwith
        cases hbundle : buildWorkbooksBundle
            (othersReplaced tenantId user.id db [runOfOther tenantId user runId "" 0]) tenantId
            runId with
        | error e =>
            rw [hbundle] at hwith
            obtain rfl : e = runNotFound := Except.error.inj hwith
            exact buildWorkbooksBundle_with hbundle
        | ok artifacts =>
            rw [hbundle] at hwith
            cases hwith
    | _ => exact hconfined trivial
  · intro hconfined db' hdb' hagree
    exact hagree.answer hplatform hrole hdb hdb' hconfined

end

/-! ### A download -/

/-- A completed run of the administrator, and its PD workbook. -/
def foreignWrites : List ResultsWrite :=
  [.insertRun { id := "r1", tenantId := "t1", createdByUserId := "u9", name := "Q1"
                status := .complete, finishedAt := some 5 },
    .addArtifacts "r1" [{ kind := .pdCalcs, storagePath := "/t1/runs/r1/outputs/PD Calcs.xlsx" }]]

/-- **The analyst is given the workbook** of the administrator's run, and is told that there is no
run where there is none. -/
theorem confidential_fails :
    answer totalsEnv (tablesAfter totalsTenants [totalsReader] foreignWrites) "t1" totalsReader
        totalsMembership (.outputArtifact "r1" "PD_CALCS")
      = .ok (.outputArtifact
          { kind := .pdCalcs, storagePath := "/t1/runs/r1/outputs/PD Calcs.xlsx" }) ∧
    ¬ Confidential totalsEnv (tablesAfter totalsTenants [totalsReader] foreignWrites) "t1"
        totalsReader totalsMembership (.outputArtifact "r1" "PD_CALCS") := by
  refine ⟨rfl, fun h => ?_⟩
  have hagree : AgreesExcept "t1" totalsReader.id
      (tablesAfter totalsTenants [totalsReader] foreignWrites)
      (tablesAfter totalsTenants [totalsReader] []) :=
    ⟨rfl, rfl, rfl, by decide, by decide, by decide, by decide, by decide⟩
  have hsame := h (tablesAfter totalsTenants [totalsReader] []) (rowsOwned_run []) hagree
  have hwithout : answer totalsEnv (tablesAfter totalsTenants [totalsReader] []) "t1"
      totalsReader totalsMembership (.outputArtifact "r1" "PD_CALCS") = .error runNotFound := rfl
  rw [hwithout] at hsame
  cases hsame

/-- The analyst downloads a workbook of an own run. -/
theorem confidential_iff_sample :
    Confidential totalsEnv (tablesAfter totalsTenants [totalsReader] totalsWrites) "t1"
        totalsReader totalsMembership (.outputArtifact "r1" "PD_CALCS")
      ↔ Confined (tablesAfter totalsTenants [totalsReader] totalsWrites) "t1" totalsReader
        (.outputArtifact "r1" "PD_CALCS") :=
  confidential_iff (rowsOwned_run totalsWrites) rfl rfl

end EclServer.Results
