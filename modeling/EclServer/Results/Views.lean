import EclServer.Results.Queries
import EclServer.Runs.Execution

/-!
The read endpoints over the results: `app/modules/results/service.py`, and `list_runs` of
`app/modules/runs/service.py`.

* `latestCompletedRun`, `previousCompletedRun`: the runs a view shows.
* `getDashboard`, `getPortfolio`, `getSegment`, `getLoan`, `listRuns`, `getOutputArtifact`,
  `buildWorkbooksBundle`: the endpoints. The routers hand them the user and the membership,
  the last two excepted.
-/

namespace EclServer.Results

open EclServer.Library EclServer.Auth EclServer.Runs

/-! ### Errors -/

def workspaceNotFound : ECLException :=
  { code := "RESOURCE_NOT_FOUND", detail := "Workspace not found.", statusCode := 404 }

def runNotComplete (status : RunStatus) : ECLException :=
  { code := "RUN_NOT_COMPLETE"
    detail := "This run has not finished computing yet (current status: " ++ statusValue status
      ++ ")."
    statusCode := 409 }

def noCompletedRuns : ECLException :=
  { code := "NO_COMPLETED_RUNS", detail := "No completed runs found.", statusCode := 404 }

def invalidStage : ECLException :=
  { code := "INVALID_STAGE", detail := "stage must be one of: Stage 1, Stage 2, Stage 3."
    statusCode := 400 }

def segmentNotFound (segmentName : String) : ECLException :=
  { code := "RESOURCE_NOT_FOUND", detail := "Segment '" ++ segmentName ++ "' not found."
    statusCode := 404 }

def loanNotFound (loanId : String) : ECLException :=
  { code := "RESOURCE_NOT_FOUND", detail := "Loan '" ++ loanId ++ "' not found."
    statusCode := 404 }

def artifactNotFound (kind : String) : ECLException :=
  { code := "ARTIFACT_NOT_FOUND", detail := "No output artifact of kind " ++ kind ++ "."
    statusCode := 404 }

/-! ### The tenant and the runs of a view -/

/-- `_get_tenant`. -/
def getTenant (db : ResultsDb) (tenantId : String) : Except ECLException Tenant :=
  match db.tenants.find? fun t => t.id = tenantId ∧ t.deletedAt = none with
  | none => .error workspaceNotFound
  | some tenant => .ok tenant

/-- `ORDER BY finished_at DESC NULLS LAST, created_at DESC`. -/
def recency (run : Run) : ℕ ×ₗ ℤ ×ₗ ℤ :=
  toLex (if run.finishedAt = none then 1 else 0, toLex (-(run.finishedAt.getD 0), -run.createdAt))

/-- `_latest_completed_run`. -/
def latestCompletedRun (db : ResultsDb) (tenantId : String) (runId : Option String) (user : User)
    (membership : Option TenantMembership) : Except ECLException Run :=
  match runId.filter (· ≠ "") with
  | some runId => do
      let run ← assertRunVisible db.toRunDb user tenantId membership runId
      if run.status ≠ .complete then .error (runNotComplete run.status) else .ok run
  | none => do
      let scope ← getRunScopeFilter user tenantId membership
      let completed := db.runs.filter fun r => scope r ∧ r.status = .complete ∧ r.deletedAt = none
      match (sortByKey recency completed).head? with
      | none => .error noCompletedRuns
      | some run => .ok run

/-- `_previous_completed_run`. -/
def previousCompletedRun (db : ResultsDb) (tenantId : String) (before : Option Time) (user : User)
    (membership : Option TenantMembership) : Except ECLException (Option Run) :=
  match before with
  | none => .ok none
  | some before => do
      let scope ← getRunScopeFilter user tenantId membership
      let earlier := db.runs.filter fun r =>
        scope r ∧ r.status = .complete ∧ r.deletedAt = none ∧ r.finishedAt.any (· < before)
      return (sortByKey (fun r => -(r.finishedAt.getD 0)) earlier).head?

/-- `_format_dt` of the results service. -/
def formatDt (env : ViewEnv) (tz : String) : Option Time → String
  | none => ""
  | some t => env.strftime tz "%d %b %Y" t

/-- The columns `reporting_period` and `name`: `run.reporting_period or run.name`. -/
def periodOf (run : Run) : String := (run.reportingPeriod.filter (· ≠ "")).getD run.name

/-! ### The portfolio -/

structure RunContextOut where
  runId : String
  period : String
  computedAt : String
  engineVersion : String
  currency : String
  deriving DecidableEq

structure PortfolioTotalsOut where
  ecl : ℚ
  outstanding : ℚ
  loans : ℕ
  coverage : String
  deriving DecidableEq

structure PortfolioViewOut where
  runContext : RunContextOut
  segments : List SegmentDataOut
  totals : PortfolioTotalsOut
  deriving DecidableEq

/-- `_validate_stage`. -/
def validateStage : Option String → Except ECLException (Option String)
  | none => .ok none
  | some stage =>
      if stage ∈ ["Stage 1", "Stage 2", "Stage 3"] then .ok (some stage) else .error invalidStage

/-- The totals of `get_portfolio`. -/
def portfolioTotals (segments : List SegmentDataOut) : PortfolioTotalsOut :=
  let ecl := (segments.map (·.ecl)).sum
  let outstanding := (segments.map (·.outstanding)).sum
  { ecl := ecl
    outstanding := outstanding
    loans := (segments.map (·.loans)).sum
    coverage := formatCoverage (if outstanding = 0 then 0 else ecl / outstanding) }

/-- `get_portfolio`. -/
def getPortfolio (env : ViewEnv) (db : ResultsDb) (tenantId : String) (runId : Option String)
    (user : User) (membership : Option TenantMembership) (stage : Option String)
    (minEcl : Option ℚ) : Except ECLException PortfolioViewOut := do
  let stage ← validateStage stage
  let tenant ← getTenant db tenantId
  let run ← latestCompletedRun db tenantId runId user membership
  let previous ← previousCompletedRun db tenantId run.finishedAt user membership
  let segments := segmentAggregates db run.id tenantId (previous.map (·.id)) stage minEcl
  return {
    runContext :=
      { runId := shortUlid run.id
        period := periodOf run
        computedAt := formatDt env tenant.timezone run.finishedAt
        engineVersion := run.engineVersion
        currency := tenant.currency }
    segments := segments
    totals := portfolioTotals segments }

/-! ### One segment -/

structure PageMeta where
  total : ℕ
  page : ℕ
  perPage : ℕ
  pages : ℕ
  hasNext : Bool
  hasPrev : Bool
  deriving DecidableEq

/-- The page numbers of `get_segment` and `list_runs`. -/
def pageMeta (total page perPage : ℕ) : PageMeta :=
  let pages := max 1 ((total + perPage - 1) / perPage)
  { total := total, page := page, perPage := perPage, pages := pages, hasNext := page < pages
    hasPrev := 1 < page }

structure SegmentViewOut where
  segment : SegmentDataOut
  pdMatrix : (ℚ × ℚ × ℚ) × (ℚ × ℚ × ℚ) × (ℚ × ℚ × ℚ)
  loans : List LoanRowOut
  pageMeta : PageMeta
  deriving DecidableEq

/-- `_pd_matrix`. -/
def pdMatrix (db : ResultsDb) (runId tenantId segmentName : String) :
    (ℚ × ℚ × ℚ) × (ℚ × ℚ × ℚ) × (ℚ × ℚ × ℚ) :=
  let rows := sortByKey (fun r : PdResult => r.transition.text)
    ((rowsOf runId tenantId db.pdResults).filter fun r => r.segment = segmentName ∧ r.month = 1)
  let matrix := rows.map fun r => (pyRound 3 r.s1Prob, pyRound 3 r.s2Prob, pyRound 3 r.s3Prob)
  (matrix.getD 0 (0, 0, 0), matrix.getD 1 (0, 0, 0), matrix.getD 2 (0, 0, 0))

/-- `get_segment`. -/
def getSegment (db : ResultsDb) (tenantId segmentName : String) (runId : Option String)
    (stage : Option String) (minEcl : Option ℚ) (page perPage : ℕ) (user : User)
    (membership : Option TenantMembership) : Except ECLException SegmentViewOut := do
  let stage ← validateStage stage
  let _tenant ← getTenant db tenantId
  let run ← latestCompletedRun db tenantId runId user membership
  let previous ← previousCompletedRun db tenantId run.finishedAt user membership
  let segments := segmentAggregates db run.id tenantId (previous.map (·.id)) stage minEcl
  match segments.find? fun s => s.name = segmentName with
  | none => .error (segmentNotFound segmentName)
  | some segment =>
      let (loans, total) :=
        loanRowsForSegment db run.id tenantId segmentName page perPage stage minEcl
      .ok {
        segment := segment
        pdMatrix := pdMatrix db run.id tenantId segmentName
        loans := loans
        pageMeta := pageMeta total page perPage }

/-! ### One loan -/

structure MonthlyRundownOut where
  month : ℕ
  marginalPd : ℚ
  cumulativePd : ℚ
  ead : ℚ
  ecl : ℚ
  deriving DecidableEq

structure LoanViewOut where
  id : String
  customer : String
  stage : ℕ
  pd : ℚ
  lgd : ℚ
  ead : ℚ
  ecl : ℚ
  segment : String
  outstanding : ℚ
  collateralValue : ℚ
  maturity : String
  rundown : List MonthlyRundownOut
  deriving DecidableEq

/-- The loop of `get_loan` over the rows; `cumulative` is the sum of the marginal PDs of the
rows before. -/
def rundownRows : ℚ → List EadResult → List MonthlyRundownOut
  | _, [] => []
  | cumulative, r :: rs =>
      { month := r.periodToDiscount
        marginalPd := pyRound 2 (r.hazard * 100)
        cumulativePd := pyRound 2 ((cumulative + r.hazard) * 100)
        ead := roundHalfEven r.balAfterMissed
        ecl := roundHalfEven r.discountedEcl } :: rundownRows (cumulative + r.hazard) rs

/-- `maturity` after the loop. -/
def maturityOf (env : ViewEnv) (rows : List EadResult) : String :=
  let maxPeriod := ((rows.map (·.periodToDiscount)).max?).getD 0
  match rows.getLast? with
  | none => Nat.repr maxPeriod ++ " mo"
  | some last => env.monthYear last.snapshotDate ++ " · " ++ Nat.repr maxPeriod ++ " mo"

/-- `get_loan`. -/
def getLoan (env : ViewEnv) (db : ResultsDb) (tenantId loanId : String) (runId : Option String)
    (user : User) (membership : Option TenantMembership) : Except ECLException LoanViewOut := do
  let _tenant ← getTenant db tenantId
  let run ← latestCompletedRun db tenantId runId user membership
  let rows := (rowsOf run.id tenantId db.eadResults).filter fun r => r.loanId = loanId
  if rows = [] then .error (loanNotFound loanId)
  else
    let sorted := sortByKey (·.periodToDiscount) rows
    let pd12m := ((rows.filter fun r => r.periodToDiscount ≤ 12).map (·.hazard)).sum
    let collateral := (((rowsOf run.id tenantId db.lgdResults).filter fun r =>
      r.loanId = loanId).map (·.sumDiscountedCollat)).sum
    .ok {
      id := loanId
      customer := ((rows.map (·.customerId)).max?).getD ""
      stage := stageNum ((sorted.head?.map (·.stage)).getD "Stage 1")
      pd := pyRound 2 (pd12m * 100)
      lgd := pyRound 2 (avgLgd rows * 100)
      ead := roundHalfEven (maxBalance rows)
      ecl := roundHalfEven (sumEcl rows)
      segment := ((rows.map (·.segment)).max?).getD ""
      outstanding := roundHalfEven (maxBalance rows)
      collateralValue := roundHalfEven collateral
      maturity := maturityOf env sorted
      rundown := rundownRows 0 sorted }

/-! ### The dashboard -/

inductive DeltaDir where
  | up | down | flat
  deriving DecidableEq

structure KpiDashboardOut where
  id : String
  label : String
  helpText : Option String := none
  currencyPrefix : Option String := none
  value : String
  delta : Option ℚ := none
  deltaDir : Option DeltaDir := none
  subNote : Option String := none
  deriving DecidableEq

structure SegmentBarDashboardOut where
  name : String
  value : ℚ
  deriving DecidableEq

structure StageSliceOut where
  stage : String
  percent : ℚ
  colorVar : ℕ
  deriving DecidableEq

structure TrendPointOut where
  label : String
  value : ℚ
  deriving DecidableEq

structure RunSummaryOut where
  id : String
  fullId : String
  period : String
  byInitials : String
  byName : String
  status : String
  eclAmount : Option ℚ
  currency : String
  deriving DecidableEq

structure ActiveRunOut where
  runId : String
  name : String
  status : String
  progress : ℚ
  stage : Option String
  deriving DecidableEq

structure DashboardOut where
  kpis : List KpiDashboardOut := []
  segments : List SegmentBarDashboardOut := []
  stages : List StageSliceOut := []
  trend : List TrendPointOut := []
  runs : List RunSummaryOut := []
  activeRun : Option ActiveRunOut := none
  deriving DecidableEq

/-- `_delta_dir`. -/
def deltaDir : Option ℚ → Option DeltaDir
  | none => none
  | some delta =>
      if 1 / 20 < delta then some .up else if delta < -1 / 20 then some .down else some .flat

/-- `_loan_count`. -/
def loanCount (db : ResultsDb) (runId tenantId : String) : ℕ :=
  (groupKeys EadResult.loanId (rowsOf runId tenantId db.eadResults)).length

/-- A column of the previous run, where it is neither missing nor zero. -/
def previousValue (column : Run → Option ℚ) (previous : Option Run) : Option ℚ :=
  (previous.bind column).filter (· ≠ 0)

/-- The `kpis` of `get_dashboard`. -/
def dashboardKpis (tenant : Tenant) (latest : Run) (previous : Option Run) (loans : ℕ)
    (prevLoans : Option ℕ) : List KpiDashboardOut :=
  let totalEcl := orZero latest.totalEcl
  let coverage := orZero latest.coverageRatio
  let eclDelta := pctDelta totalEcl (previousValue (·.totalEcl) previous)
  let coverageDelta := pctDelta (coverage * 100)
    ((previousValue (·.coverageRatio) previous).map (· * 100))
  let loansDelta := pctDelta loans ((prevLoans.filter (· ≠ 0)).map (Nat.cast : ℕ → ℚ))
  [{ id := "total-ecl", label := "Total ECL", currencyPrefix := some tenant.currency
     value := formatAmount totalEcl, delta := eclDelta, deltaDir := deltaDir eclDelta
     subNote := some "vs previous run" },
    { id := "coverage-ratio", label := "Coverage ratio"
      helpText := some "ECL ÷ total outstanding"
      value := formatCoverage coverage, delta := coverageDelta, deltaDir := deltaDir coverageDelta
      subNote := some "vs previous run" },
    { id := "total-outstanding", label := "Total outstanding"
      currencyPrefix := some tenant.currency
      value := formatCompactAmount (orZero latest.totalOutstanding), deltaDir := some .flat
      subNote := some (fixed true 0 loans ++ " loans") },
    { id := "loans-analysed", label := "Loans analysed", value := fixed true 0 loans
      delta := loansDelta, deltaDir := deltaDir loansDelta, subNote := some "vs previous run" }]

/-- The `stages` of `get_dashboard`. -/
def dashboardStages (rows : List EadResult) : List StageSliceOut :=
  let initialStage := rows.flatMap fun r =>
    ((loanStageSub rows).filter fun s => s = (r.loanId, r.periodToDiscount)).map fun _ => r.stage
  let total := initialStage.length
  [("Stage 1", 1), ("Stage 2", 5), ("Stage 3", 7)].map fun (stage, colorVar) =>
    { stage := stage
      percent := pyRound 1 (initialStage.count stage / (if total = 0 then 1 else total) * 100)
      colorVar := colorVar }

/-- The `trend` of `get_dashboard`. -/
def dashboardTrend (env : ViewEnv) (db : ResultsDb) (tenant : Tenant) : List TrendPointOut :=
  let completed := db.runs.filter fun r =>
    r.tenantId = tenant.id ∧ r.status = .complete ∧ r.deletedAt = none ∧ r.totalEcl ≠ none
  -- in descending order the server puts NULL first
  let key := fun r : Run =>
    toLex ((if r.finishedAt = none then 0 else 1 : ℕ), -(r.finishedAt.getD 0))
  ((sortByKey key completed).take 12).reverse.map fun r =>
    { label := (r.reportingPeriod.filter (· ≠ "")).getD
        (String.ofList ((formatDt env tenant.timezone r.finishedAt).toList.take 6))
      value := orZero r.totalEcl }

/-- The rows of runs with their creators. -/
def withCreators (db : ResultsDb) (runs : List Run) : List (Run × User) :=
  runs.flatMap fun r => (db.users.filter fun u => u.id = r.createdByUserId).map fun u => (r, u)

/-- The `runs` of `get_dashboard`. -/
def dashboardRuns (env : ViewEnv) (db : ResultsDb) (tenant : Tenant) : List RunSummaryOut :=
  let live := db.runs.filter fun r => r.tenantId = tenant.id ∧ r.deletedAt = none
  ((sortByKey (fun p => -p.1.createdAt) (withCreators db live)).take 10).map fun (run, user) =>
    { id := shortUlid run.id
      fullId := run.id
      period := periodOf run
      byInitials := userInitials env user.name
      byName := user.name
      status := mapRunStatusToApi run.status
      eclAmount := run.totalEcl
      currency := tenant.currency }

/-- `active_run` of the row found. -/
def activeRunOut (active : Run) : ActiveRunOut :=
  let stages := [Stage.pd, .lgd, .ead, .ecl]
  let status := fun stage => (active.engineProgress.bind (·.get stage)).map (·.status)
  { runId := shortUlid active.id
    name := active.name
    status := mapRunStatusToApi active.status
    progress := (stages.countP fun stage => status stage = some .complete) * 25
    stage := (stages.find? fun stage => status stage = some .running).map fun stage =>
      match stage with
      | .pd => "PD"
      | .lgd => "LGD"
      | .ead => "EAD"
      | .ecl => "ECL" }

/-- The row the query for the active run selects. -/
def activeRun (db : ResultsDb) (tenantId : String) : Option Run :=
  (sortByKey (fun r => -r.updatedAt) (db.runs.filter fun r =>
    r.tenantId = tenantId ∧ r.deletedAt = none ∧ r.status ∈ activeRunStatuses)).head?

/-- `get_dashboard`. -/
def getDashboard (env : ViewEnv) (db : ResultsDb) (tenantId : String) (user : User)
    (membership : Option TenantMembership) : Except ECLException DashboardOut := do
  let tenant ← getTenant db tenantId
  match latestCompletedRun db tenantId none user membership with
  | .error _ => .ok {}
  | .ok latest => do
      let previous ← previousCompletedRun db tenantId latest.finishedAt user membership
      return {
        kpis := dashboardKpis tenant latest previous (loanCount db latest.id tenantId)
          (previous.map fun p => loanCount db p.id tenantId)
        segments := ((segmentAggregates db latest.id tenantId none none none).take 6).map fun s =>
          { name := s.name, value := s.ecl }
        stages := dashboardStages (rowsOf latest.id tenantId db.eadResults)
        trend := dashboardTrend env db tenant
        runs := dashboardRuns env db tenant
        activeRun := (activeRun db tenantId).map activeRunOut }

/-! ### The list of runs -/

structure RunListItemOut where
  id : String
  fullId : String
  name : String
  period : String
  createdAt : String
  byInitials : String
  byName : String
  status : String
  eclAmount : Option ℚ
  coverage : Option String
  currency : String
  deriving DecidableEq

/-- `_run_list_item`. -/
def runListItem (env : ViewEnv) (tenant : Tenant) (run : Run) (user : User) : RunListItemOut :=
  { id := shortUlid run.id
    fullId := run.id
    name := run.name
    period := periodOf run
    createdAt := env.strftime tenant.timezone "%d %b %H:%M" run.createdAt
    byInitials := userInitials env user.name
    byName := user.name
    status := mapRunStatusToApi run.status
    eclAmount := run.totalEcl
    coverage := if run.status = .complete then run.coverageRatio.map formatCoverage else none
    currency := tenant.currency }

/-- The statuses a token of the `status` filter names. -/
def statusValues (token : String) : List String :=
  if token = "running" then ["pd_running", "lgd_running", "ead_running", "queued"]
  else if token = "success" then ["complete"]
  else [token]

/-- The conditions of `list_runs` beside the scope. -/
def runFilter (env : ViewEnv) (status search : Option String) (run : Run) : Bool :=
  let statusOk := match status with
    | none => true
    | some status =>
        status = "" ∨ status = "all"
          ∨ statusValue run.status ∈ ((status.splitOn ",").map pyStrip).flatMap statusValues
  let searchOk := match search with
    | none => true
    | some search =>
        let pattern := "%" ++ pyStrip search ++ "%"
        search = "" ∨ env.ilike pattern run.name ∨ run.reportingPeriod.any (env.ilike pattern)
  statusOk && searchOk

/-- `list_runs`. -/
def listRuns (env : ViewEnv) (db : ResultsDb) (tenantId : String) (user : User)
    (membership : Option TenantMembership) (page perPage : ℕ) (status search : Option String) :
    Except ECLException (List RunListItemOut × PageMeta) := do
  let tenant ← getTenant db tenantId
  let scope ← getRunScopeFilter user tenantId membership
  let base := withCreators db
    (db.runs.filter fun r => scope r ∧ r.deletedAt = none ∧ runFilter env status search r)
  let shown := ((sortByKey (fun p => -p.1.createdAt) base).drop ((page - 1) * perPage)).take perPage
  return (shown.map fun (run, creator) => runListItem env tenant run creator,
    pageMeta base.length page perPage)

/-! ### Artefacts -/

/-- The stored text of an artefact kind. -/
def kindValue : OutputArtifactKind → String
  | .pdCalcs => "PD_CALCS"
  | .lgd => "LGD"
  | .rundown => "RUNDOWN"
  | .eclSummary => "ECL_SUMMARY"

/-- `_get_output_artifact`; `scalar_one_or_none` refuses several rows. -/
def getOutputArtifact (db : ResultsDb) (tenantId runId kind : String) :
    Except ECLException OutputArtifact :=
  match db.toRunDb.findRun tenantId runId with
  | none => .error runNotFound
  | some _ =>
      match (rowsOf runId tenantId db.outputArtifacts).filter fun a => kindValue a.kind = kind with
      | [] => .error (artifactNotFound kind)
      | [artifact] => .ok artifact
      | _ :: _ :: _ => .error unexpectedError

/-- `WORKBOOK_BUNDLE_KINDS`. -/
def workbookBundleKinds : List String := ["PD_CALCS", "LGD", "RUNDOWN"]

/-- The artefacts `build_workbooks_bundle` downloads. -/
def buildWorkbooksBundle (db : ResultsDb) (tenantId runId : String) :
    Except ECLException (List OutputArtifact) :=
  workbookBundleKinds.mapM (getOutputArtifact db tenantId runId)

/-! ### The run a view shows -/

section

variable {db : ResultsDb} {user : User} {tenantId : String} {membership : Option TenantMembership}

lemma tenantId_of_scope {scope : Run → Bool} {r : Run}
    (h : getRunScopeFilter user tenantId membership = .ok scope) (hr : scope r = true) :
    r.tenantId = tenantId := by
  unfold getRunScopeFilter at h
  split at h
  · obtain rfl := Except.ok.inj h
    exact of_decide_eq_true hr
  · split at h
    · cases h
    · split at h
      · obtain rfl := Except.ok.inj h
        exact of_decide_eq_true hr
      · obtain rfl := Except.ok.inj h
        exact (of_decide_eq_true hr).1

/-- Who is let see a run has a scope. -/
lemma exists_scope_of_visible {runId : String} {r : Run}
    (h : assertRunVisible db.toRunDb user tenantId membership runId = .ok r) :
    ∃ scope, getRunScopeFilter user tenantId membership = .ok scope := by
  unfold getRunScopeFilter
  by_cases hplatform : user.isPlatformAdmin = true
  · rw [if_pos hplatform]
    exact ⟨_, rfl⟩
  · rw [if_neg hplatform]
    cases membership with
    | none =>
        rw [assertRunVisible] at h
        split at h
        · cases h
        · simp [hplatform] at h
    | some m =>
        dsimp only
        split_ifs <;> exact ⟨_, rfl⟩

lemma findRun_of_visible {runId : String} {r : Run}
    (h : assertRunVisible db.toRunDb user tenantId membership runId = .ok r) :
    db.toRunDb.findRun tenantId runId = some r := by
  rw [assertRunVisible] at h
  split at h
  · cases h
  · rename_i found hfound
    rw [hfound]
    split at h
    · rw [Except.ok.inj h]
    · split at h
      · cases h
      · split at h
        · cases h
        · rw [Except.ok.inj h]

/-- The run shown is a run of the tenant, and its reader has a scope. -/
lemma latestCompletedRun_ok {runId : Option String} {r : Run}
    (h : latestCompletedRun db tenantId runId user membership = .ok r) :
    r ∈ db.runs ∧ r.tenantId = tenantId ∧
      ∃ scope, getRunScopeFilter user tenantId membership = .ok scope := by
  rw [latestCompletedRun] at h
  split at h
  · obtain ⟨found, hfound, h⟩ := bind_eq_ok.mp h
    split at h
    · cases h
    · obtain rfl := Except.ok.inj h
      have hfind := findRun_of_visible hfound
      have hp := List.find?_some (show db.runs.find? _ = some found from hfind)
      simp only [decide_eq_true_eq] at hp
      exact ⟨List.mem_of_find?_eq_some hfind, hp.2.1, exists_scope_of_visible hfound⟩
  · obtain ⟨scope, hscope, h⟩ := bind_eq_ok.mp h
    dsimp only at h
    split at h
    · cases h
    · rename_i found hhead
      obtain rfl := Except.ok.inj h
      have hmem := (mem_sortByKey recency).mp (List.mem_of_mem_head? hhead)
      obtain ⟨hrun, hp⟩ := List.mem_filter.mp hmem
      simp only [Bool.decide_and, Bool.and_eq_true, decide_eq_true_eq] at hp
      exact ⟨hrun, tenantId_of_scope hscope hp.1, scope, hscope⟩

/-- Who has a scope is told the previous run. -/
lemma exists_previousCompletedRun {scope : Run → Bool} (before : Option Time)
    (h : getRunScopeFilter user tenantId membership = .ok scope) :
    ∃ previous, previousCompletedRun db tenantId before user membership = .ok previous := by
  cases before with
  | none => exact ⟨none, rfl⟩
  | some before =>
      rw [previousCompletedRun, h]
      exact ⟨_, rfl⟩

/-- The portfolio of the run shown. -/
lemma exists_getPortfolio {env : ViewEnv} {runId stage : Option String} {minEcl : Option ℚ}
    {tenant : Tenant} {r : Run} {previous : Option Run}
    (hstage : validateStage stage = .ok stage) (htenant : getTenant db tenantId = .ok tenant)
    (hrun : latestCompletedRun db tenantId runId user membership = .ok r)
    (hprevious : previousCompletedRun db tenantId r.finishedAt user membership = .ok previous) :
    ∃ view, getPortfolio env db tenantId runId user membership stage minEcl = .ok view ∧
      view.segments = segmentAggregates db r.id tenantId (previous.map (·.id)) stage minEcl ∧
      view.totals = portfolioTotals view.segments := by
  simp only [getPortfolio, hstage, htenant, hrun, hprevious, bind, Except.bind]
  exact ⟨_, rfl, rfl, rfl⟩

end

end EclServer.Results
