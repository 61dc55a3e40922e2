import EclServer.Runs.CollateralRuns
import EclServer.Tenants.CollateralTypes

/-!
The LGD workbook of a run: the LGD stage and the EAD/ECL stage each read the tenant's collateral
types, with requests on them in between.

* `splitLgdFrames`: the two sheets of the workbook.
* `CollateralRequest`: the requests on collateral types.
* `StagePc`, `StageState`, `bothStagesStep`: the deliveries of the two stages from one transaction
  to the next, and the requests. The stored LGD rows carry the configuration they were made of.
* `ShowsStored`: a workbook shows the sums of stored rows, up to the rounding of the column.
* `SameRead`: the second read finds what the first one found.
* `showsStored_of_sameRead`: then every run that completes shows what its ECL used.
-/

namespace EclServer.Runs

open EclServer.Library EclServer.Engine EclServer.Auth EclServer.Tenants

/-! ### The workbook -/

/-- `_split_lgd_frames`: the sheets "Per-Loan Collateral" and "Discounted Collateral". -/
def splitLgdFrames (lgdDf : Frame) : Frame × Frame :=
  let discountedValueCols := lgdDf.columns.filter fun col =>
    "Discounted ".toList.isPrefixOf col.toList
  ({ lgdDf with columns := lgdDf.columns.filter fun col => col ∉ discountedValueCols },
    { lgdDf with
      columns := (["Loan ID", "Customer ID"] ++ discountedValueCols ++ [lgdSumCol]).filter
        fun col => col ∈ lgdDf.columns })

/-- A row of a sheet shows the sum of a stored row of the same loan, up to the rounding of the
column. -/
def RowShows (env : PyEnv) (r : Record) (stored : LgdResult) : Prop :=
  (r.cell "Loan ID").pyStr env = stored.loanId ∧
    ∃ sum, (r.cell lgdSumCol).toFloat env = .ok sum ∧
      numeric 20 6 (toDecimal sum) = .ok stored.sumDiscountedCollat

/-- A sheet shows the sums of the stored rows. -/
structure SheetShows (env : PyEnv) (sheet : Frame) (stored : List LgdResult) : Prop where
  column : lgdSumCol ∈ sheet.columns
  rows : List.Forall₂ (RowShows env) sheet.rows stored

/-- Both sheets of the workbook show the sums of the stored rows. -/
def ShowsStored (env : PyEnv) (lgdDf : Frame) (stored : List LgdResult) : Prop :=
  SheetShows env (splitLgdFrames lgdDf).1 stored ∧ SheetShows env (splitLgdFrames lgdDf).2 stored

/-! ### Requests -/

/-- A request on collateral types, with what it draws. -/
inductive CollateralRequest where
  | create (newUlid tenantId userId : String) (req : CreateCollateralTypeRequest)
  | batchCreate (lower : String → String) (newUlid : ℕ → String) (tenantId userId : String)
      (items : List CreateCollateralTypeRequest)
  | update (tenantId collateralId : String) (req : UpdateCollateralTypeRequest)
  | delete (now : Time) (tenantId collateralId : String)
  | replace (now : Time) (newUlid : ℕ → String) (tenantId userId : String)
      (items : List OnboardingCollateralIn)

/-- The service a request calls. -/
def CollateralRequest.service (table : CollateralTable) :
    CollateralRequest → Except ECLException CollateralTable
  | .create newUlid tenantId userId req => createCollateralType newUlid tenantId userId req table
  | .batchCreate lower newUlid tenantId userId items =>
      batchCreateCollateralTypes lower newUlid tenantId userId items table
  | .update tenantId collateralId req => updateCollateralType tenantId collateralId req table
  | .delete now tenantId collateralId => deleteCollateralType now tenantId collateralId table
  | .replace now newUlid tenantId userId items =>
      replaceCollateralTypes now newUlid tenantId userId items table

/-- A request in its transaction, which rolls back where the service raises. -/
def performCollateral (table : CollateralTable) (request : CollateralRequest) : CollateralTable :=
  match request.service table with
  | .ok table' => table'
  | .error _ => table

/-! ### The stages -/

/-- Rows of `lgd_results`, with the configuration they were computed from. No code reads the
configuration. -/
structure LgdBatch where
  rows : List LgdResult
  config : List CollateralConfig

/-- Where a delivery of `_lgd_main` or `_ead_ecl_main` stands: the transaction it makes next, with
the values it holds. -/
inductive StagePc where
  | lgdConfig
  | lgdInsert (config : List CollateralConfig)
  | eadLoadLgd
  | eclConfig (lgd : LgdBatch)
  | eclPublish (lgd : LgdBatch) (config : List CollateralConfig)
  | eclComplete (lgd : LgdBatch) (workbook : Frame)

/-- The tenant's collateral types, the stored LGD rows, the deliveries in flight, and for each
delivery that completed the run the LGD rows its ECL used and the workbook it published. -/
structure StageState where
  table : CollateralTable
  lgd : Option LgdBatch := none
  tasks : List StagePc := []
  completed : List (LgdBatch × Frame) := []

inductive StageAction where
  | request (request : CollateralRequest)
  | deliverLgd
  | deliverEadEcl
  | advance (i : ℕ)
  | lose (i : ℕ)

section

variable (env : PyEnv) (lgdInput : Frame) (tenantId : String)

/-- The next transaction of a delivery, and what is left of it. The EAD/ECL task is started once
the LGD stage has stored its rows. -/
def advanceStage (s : StageState) : StagePc → StageState × Option StagePc
  | .lgdConfig => (s, some (.lgdInsert (s.table.loadCollateralConfig tenantId)))
  | .lgdInsert config =>
      match lgdResultsOf env lgdInput config
        >>= insertUnique "lgd_results_unique" LgdResult.loanId with
      | .error _ => (s, none)
      | .ok rows => ({ s with lgd := some ⟨rows, config⟩ }, none)
  | .eadLoadLgd =>
      match s.lgd with
      | none => (s, some .eadLoadLgd)
      | some lgd => (s, some (.eclConfig lgd))
  | .eclConfig lgd => (s, some (.eclPublish lgd (s.table.loadCollateralConfig tenantId)))
  | .eclPublish lgd config =>
      match computeLgd lgdInput config with
      | .error _ => (s, none)
      | .ok workbook => (s, some (.eclComplete lgd workbook))
  | .eclComplete lgd workbook => ({ s with completed := s.completed ++ [(lgd, workbook)] }, none)

/-- Put back what is left of delivery `i`. -/
def putStage (s : StageState) (i : ℕ) : Option StagePc → StageState
  | none => { s with tasks := s.tasks.eraseIdx i }
  | some pc => { s with tasks := s.tasks.set i pc }

/-- A step of anybody; a delivery may start at any time and may be lost at any point. -/
def bothStagesStep (s : StageState) : StageAction → StageState
  | .request request => { s with table := performCollateral s.table request }
  | .deliverLgd => { s with tasks := s.tasks ++ [.lgdConfig] }
  | .deliverEadEcl => { s with tasks := s.tasks ++ [.eadLoadLgd] }
  | .advance i =>
      match s.tasks[i]? with
      | none => s
      | some pc =>
          let r := advanceStage env lgdInput tenantId s pc
          putStage r.1 i r.2
  | .lose i => putStage s i none

/-- Two configurations are alike by name. -/
def SameTypes (config config' : List CollateralConfig) : Prop :=
  configByName config = configByName config'

/-- **The second read finds what the first one found**: where the EAD/ECL stage reads the live
types for the workbook, they are those that its LGD rows were made of. -/
def SameRead (s : StageState) : StageAction → Prop
  | .advance i =>
      ∀ lgd, s.tasks[i]? = some (.eclConfig lgd) →
        SameTypes lgd.config (s.table.loadCollateralConfig tenantId)
  | _ => True

/-! ### What is in flight -/

/-- The rows are those of their configuration. -/
def LgdBatch.Made (lgd : LgdBatch) : Prop :=
  lgdResultsOf env lgdInput lgd.config = .ok lgd.rows

/-- What a delivery holds is right. -/
def StagePc.Sound : StagePc → Prop
  | .lgdConfig | .lgdInsert _ | .eadLoadLgd => True
  | .eclConfig lgd => lgd.Made env lgdInput
  | .eclPublish lgd config => lgd.Made env lgdInput ∧ SameTypes lgd.config config
  | .eclComplete lgd workbook => ShowsStored env workbook lgd.rows

/-- The invariant of the stages. -/
structure StageState.Sound (s : StageState) : Prop where
  lgd : ∀ lgd ∈ s.lgd, lgd.Made env lgdInput
  tasks : ∀ pc ∈ s.tasks, pc.Sound env lgdInput
  completed : ∀ p ∈ s.completed, ShowsStored env p.2 p.1.rows

end

/-! ### Configurations that are alike -/

section Alike

variable {env : PyEnv} {lgdInput : Frame} {config config' : List CollateralConfig}

lemma configByName_eq_nil_iff : configByName config = [] ↔ config = [] := by
  constructor
  · intro h
    cases hrev : config.reverse with
    | nil => exact List.reverse_eq_nil_iff.mp hrev
    | cons cfg cfgs =>
        have hmem : cfg ∈ configByName config := by
          rw [configByName, mem_sortByKey, hrev, dropDuplicates]
          exact List.mem_cons_self
        rw [h] at hmem
        cases hmem
  · rintro rfl
    exact sortByKey_nil _

/-- `compute_lgd` sees the types by name. -/
lemma computeLgd_congr (h : SameTypes config config') :
    computeLgd lgdInput config = computeLgd lgdInput config' := by
  have hnil : config = [] ↔ config' = [] := by
    refine (@configByName_eq_nil_iff config).symm.trans (Iff.trans ?_ configByName_eq_nil_iff)
    rw [show configByName config = configByName config' from h]
  have hworking : withEir lgdInput config = withEir lgdInput config' := by
    simp only [withEir, ne_eq, hnil]
  have hcolumns : lgdOutputColumns config = lgdOutputColumns config' := by
    rw [lgdOutputColumns, lgdOutputColumns, h]
  rw [computeLgd, computeLgd, hworking, hcolumns, h]

/-- The column of the sums is on both sheets. -/
lemma lgdSumCol_mem_split {lgdDf : Frame} (h : lgdSumCol ∈ lgdDf.columns) :
    lgdSumCol ∈ (splitLgdFrames lgdDf).1.columns
      ∧ lgdSumCol ∈ (splitLgdFrames lgdDf).2.columns := by
  have hstarts : "Discounted ".toList.isPrefixOf lgdSumCol.toList = false := by decide
  constructor
  · refine List.mem_filter.mpr ⟨h, decide_eq_true fun hmem => ?_⟩
    have hcol := (List.mem_filter.mp hmem).2
    rw [hstarts] at hcol
    cases hcol
  · refine List.mem_filter.mpr ⟨?_, decide_eq_true h⟩
    exact List.mem_append_right _ (List.mem_singleton_self _)

lemma columns_computeLgd {out : Frame} (h : computeLgd lgdInput config = .ok out) :
    lgdSumCol ∈ out.columns := by
  obtain ⟨_, _, h⟩ := bind_eq_ok.mp h
  obtain ⟨_, _, h⟩ := bind_eq_ok.mp h
  obtain ⟨_, _, h⟩ := bind_eq_ok.mp h
  split at h
  · cases h
  rw [← Except.ok.inj h, lgdOutputColumns]
  simp

/-- A stored row of the workbook's row. -/
lemma rowShows_of_lgdRecord {r : Record} {stored : LgdResult} (h : lgdRecord env r = .ok stored) :
    RowShows env r stored := by
  obtain ⟨_, _, h⟩ := bind_eq_ok.mp h
  obtain ⟨_, _, h⟩ := bind_eq_ok.mp h
  obtain ⟨sum, hsum, h⟩ := bind_eq_ok.mp h
  obtain ⟨collat, hcollat, h⟩ := bind_eq_ok.mp h
  rw [← Except.ok.inj h]
  exact ⟨rfl, sum, hsum, hcollat⟩

/-- **The workbook of the configuration** of stored rows shows their sums. -/
lemma showsStored_of_made {lgd : LgdBatch} {workbook : Frame} (hmade : lgd.Made env lgdInput)
    (hsame : SameTypes lgd.config config) (h : computeLgd lgdInput config = .ok workbook) :
    ShowsStored env workbook lgd.rows := by
  rw [← computeLgd_congr hsame] at h
  rw [LgdBatch.Made, lgdResultsOf, h] at hmade
  have hrows : List.Forall₂ (RowShows env) workbook.rows lgd.rows :=
    (forall₂_of_mapM_ok hmade).imp fun _ _ hr => rowShows_of_lgdRecord hr
  obtain ⟨hfirst, hsecond⟩ := lgdSumCol_mem_split (columns_computeLgd h)
  exact ⟨⟨hfirst, hrows⟩, ⟨hsecond, hrows⟩⟩

end Alike

/-! ### Runs -/

section Runs

variable {env : PyEnv} {lgdInput : Frame} {tenantId : String} {s : StageState}

/-- Other tasks in flight keep what they hold. -/
lemma StageState.Sound.put (h : s.Sound env lgdInput) (i : ℕ) {left : Option StagePc}
    (hleft : ∀ pc ∈ left, pc.Sound env lgdInput) : (putStage s i left).Sound env lgdInput := by
  cases left with
  | none => exact ⟨h.lgd, fun pc hpc => h.tasks pc (List.mem_of_mem_eraseIdx hpc), h.completed⟩
  | some pc =>
      refine ⟨h.lgd, fun pc' hpc => ?_, h.completed⟩
      rcases List.mem_or_eq_of_mem_set hpc with hmem | rfl
      · exact h.tasks pc' hmem
      · exact hleft _ rfl

/-- **One transaction of a delivery** keeps the invariant, where the second read finds what the
first one found. -/
lemma sound_advanceStage (h : s.Sound env lgdInput) {pc : StagePc} (hpc : pc.Sound env lgdInput)
    (hread : ∀ lgd, pc = .eclConfig lgd →
      SameTypes lgd.config (s.table.loadCollateralConfig tenantId)) :
    (advanceStage env lgdInput tenantId s pc).1.Sound env lgdInput ∧
      ∀ left ∈ (advanceStage env lgdInput tenantId s pc).2, left.Sound env lgdInput := by
  cases pc with
  | lgdConfig => exact ⟨h, fun left hleft => Option.some.inj hleft ▸ trivial⟩
  | lgdInsert config =>
      simp only [advanceStage]
      split
      · exact ⟨h, fun _ hleft => by cases hleft⟩
      · rename_i rows hrows
        refine ⟨⟨fun lgd hlgd => ?_, h.tasks, h.completed⟩, fun _ hleft => by cases hleft⟩
        obtain rfl := Option.some.inj hlgd
        obtain ⟨stored, hstored, hinsert⟩ := bind_eq_ok.mp hrows
        rw [insertUnique] at hinsert
        split at hinsert
        · rw [LgdBatch.Made, hstored, Except.ok.inj hinsert]
        · cases hinsert
  | eadLoadLgd =>
      simp only [advanceStage]
      split
      · exact ⟨h, fun left hleft => Option.some.inj hleft ▸ trivial⟩
      · rename_i lgd hlgd
        exact ⟨h, fun left hleft => Option.some.inj hleft ▸ h.lgd lgd hlgd⟩
  | eclConfig lgd =>
      exact ⟨h, fun left hleft => Option.some.inj hleft ▸ ⟨hpc, hread lgd rfl⟩⟩
  | eclPublish lgd config =>
      -- the workbook is made of the columns that the second read found
      obtain ⟨hmade, hsame⟩ := hpc
      simp only [advanceStage]
      split
      · exact ⟨h, fun _ hleft => by cases hleft⟩
      · rename_i workbook hworkbook
        refine ⟨h, fun left hleft => ?_⟩
        obtain rfl := Option.some.inj hleft
        exact showsStored_of_made hmade hsame hworkbook
  | eclComplete lgd workbook =>
      refine ⟨⟨h.lgd, h.tasks, fun p hp => ?_⟩, fun _ hleft => by cases hleft⟩
      rcases List.mem_append.mp hp with hp | hp
      · exact h.completed p hp
      · rw [List.mem_singleton.mp hp]
        exact hpc

/-- **One step** keeps the invariant. -/
lemma sound_bothStagesStep {a : StageAction} (h : s.Sound env lgdInput)
    (hread : SameRead tenantId s a) :
    (bothStagesStep env lgdInput tenantId s a).Sound env lgdInput := by
  have hstart : ∀ pc : StagePc, pc.Sound env lgdInput →
      { s with tasks := s.tasks ++ [pc] }.Sound env lgdInput := by
    intro pc hpc
    refine ⟨h.lgd, fun pc' hmem => ?_, h.completed⟩
    rcases List.mem_append.mp hmem with hmem | hmem
    · exact h.tasks pc' hmem
    · rwa [List.mem_singleton.mp hmem]
  cases a with
  | request request => exact ⟨h.lgd, h.tasks, h.completed⟩
  | deliverLgd => exact hstart .lgdConfig trivial
  | deliverEadEcl => exact hstart .eadLoadLgd trivial
  | advance i =>
      simp only [bothStagesStep]
      split
      · exact h
      · rename_i pc hpc
        have hsound := sound_advanceStage h (h.tasks pc (List.mem_of_getElem? hpc))
          fun lgd hlgd => hread lgd (hlgd ▸ hpc)
        exact hsound.1.put i hsound.2
  | lose i =>
      have hnone : ∀ pc ∈ (none : Option StagePc), pc.Sound env lgdInput := by simp
      exact h.put i hnone

/-- **The workbook shows the collateral the ECL used** in every state of every run in which the
second read finds what the first one found. -/
theorem showsStored_of_sameRead (table : CollateralTable) (actions : List StageAction)
    (hread : EachStep (bothStagesStep env lgdInput tenantId) (SameRead tenantId) { table := table }
      actions) :
    Always (bothStagesStep env lgdInput tenantId)
      (fun s => ∀ p ∈ s.completed, ShowsStored env p.2 p.1.rows) { table := table } actions := by
  have hinitial : StageState.Sound env lgdInput { table := table } :=
    ⟨by simp, by simp, by simp⟩
  have hsound := always_of_eachStep (fun s a h hG => sound_bothStagesStep h hG) hinitial hread
  exact fun bs hbs => (hsound bs hbs).completed

/-! ### A loan with cash -/

/-- A tenant with one type, of a haircut in percent. -/
def cashTable (percent : Fin 101) : CollateralTable where
  rows := [{ id := "c1", tenantId := "t1", name := "Cash", haircut := percent.val
             timeToRealize := 1, createdByUserId := "u1" }]
  live_unique := by exact List.nodup_singleton _
  stripped := by
    intro t ht
    obtain rfl := List.mem_singleton.mp ht
    change pyStrip "Cash" = "Cash"
    decide
  stored := by
    intro t ht
    obtain rfl := List.mem_singleton.mp ht
    have hhaircut : numeric 5 2 (percent.val : ℚ) = .ok percent.val :=
      numeric_of_digits (percent.val * 100) (by push_cast; norm_num) (by omega)
    exact CollateralType.store_eq_ok.mpr ⟨_, hhaircut, by norm_num, rfl⟩

/-- The haircut of the type is lowered to a quarter. -/
def lowerHaircut : CollateralRequest := .update "t1" "c1" { haircut := some 25 }

lemma performCollateral_lowerHaircut :
    performCollateral (cashTable 50) lowerHaircut = cashTable 25 := by
  have hservice : lowerHaircut.service (cashTable 50) = .ok (cashTable 25) := by
    change flush (cashTable 25).rows (cashTable 25).stripped = _
    exact flush_eq_ok.mpr ⟨store_rows (cashTable 25), (cashTable 25).live_unique⟩
  rw [performCollateral, hservice]

/-- The LGD stage stores its rows. -/
def lgdSteps : List StageAction := [.deliverLgd, .advance 0, .advance 0]

/-- The EAD/ECL stage, after requests, reads the types, publishes the workbook and completes. -/
def eadEclSteps (requests : List CollateralRequest) : List StageAction :=
  requests.map .request ++ [.deliverEadEcl, .advance 0, .advance 0, .advance 0, .advance 0]

lemma run_requests (requests : List CollateralRequest) (s : StageState) :
    run (bothStagesStep env lgdInput tenantId) s (requests.map .request)
      = { s with table := requests.foldl performCollateral s.table } := by
  induction requests generalizing s with
  | nil => rfl
  | cons request requests ih =>
      rw [List.map_cons, run_cons, ih]
      rfl

/-- The LGD stage, where `compute_lgd` gives rows. -/
lemma run_lgdSteps {table : CollateralTable} {rows : List LgdResult}
    (h : lgdResultsOf env lgdInput (table.loadCollateralConfig tenantId)
      >>= insertUnique "lgd_results_unique" LgdResult.loanId = .ok rows) :
    run (bothStagesStep env lgdInput tenantId) { table := table } lgdSteps
      = { table := table, lgd := some ⟨rows, table.loadCollateralConfig tenantId⟩ } := by
  set config := table.loadCollateralConfig tenantId with hconfig
  let s : StageState := { table := table, tasks := [.lgdInsert config] }
  have hinsert : advanceStage env lgdInput tenantId s (.lgdInsert config)
      = ({ s with lgd := some ⟨rows, config⟩ }, none) := by
    simp only [advanceStage, h]
  change putStage (advanceStage env lgdInput tenantId s (.lgdInsert config)).1 0
    (advanceStage env lgdInput tenantId s (.lgdInsert config)).2 = _
  rw [hinsert]
  rfl

lemma advanceStage_eclPublish {lgd : LgdBatch} {config : List CollateralConfig} {workbook : Frame}
    (h : computeLgd lgdInput config = .ok workbook) :
    advanceStage env lgdInput tenantId s (.eclPublish lgd config)
      = (s, some (.eclComplete lgd workbook)) := by
  simp only [advanceStage, h]

/-- The EAD/ECL stage, where `compute_lgd` gives a workbook. -/
lemma run_eadEclSteps {table table' : CollateralTable} {lgd : LgdBatch} {workbook : Frame}
    {requests : List CollateralRequest} (htable : requests.foldl performCollateral table = table')
    (h : computeLgd lgdInput (table'.loadCollateralConfig tenantId) = .ok workbook) :
    run (bothStagesStep env lgdInput tenantId) { table := table, lgd := some lgd }
        (eadEclSteps requests)
      = { table := table', lgd := some lgd, completed := [(lgd, workbook)] } := by
  set config := table'.loadCollateralConfig tenantId with hconfig
  let s : StageState :=
    { table := table', lgd := some lgd, tasks := [.eclPublish lgd config] }
  have hpublish : advanceStage env lgdInput tenantId s (.eclPublish lgd config)
      = (s, some (.eclComplete lgd workbook)) := advanceStage_eclPublish h
  rw [eadEclSteps, run_append, run_requests, htable]
  change bothStagesStep env lgdInput tenantId
    (putStage (advanceStage env lgdInput tenantId s (.eclPublish lgd config)).1 0
      (advanceStage env lgdInput tenantId s (.eclPublish lgd config)).2) (.advance 0) = _
  rw [hpublish]
  rfl

/-- The types of the tenant with cash. -/
lemma loadCollateralConfig_cashTable {percent : Fin 101} {haircut : ℚ}
    (h : (percent.val : ℚ) / 100 = haircut) :
    (cashTable percent).loadCollateralConfig "t1" = [cash haircut] := by
  change [(⟨"Cash", percent.val / 100, 1⟩ : CollateralConfig)] = _
  rw [h, cash]

lemma lgdResults_half :
    lgdResultsOf plainEnv (cashFrame 4) [cash (1 / 2)] = .ok [⟨"L", "C", 0, 2⟩] :=
  lgdResultsOf_cash (by norm_num) (numeric_of_digits 2000000 (by norm_num) (by norm_num))

lemma lgdResults_quarter :
    lgdResultsOf plainEnv (cashFrame 4) [cash (1 / 4)] = .ok [⟨"L", "C", 0, 3⟩] :=
  lgdResultsOf_cash (by norm_num) (numeric_of_digits 3000000 (by norm_num) (by norm_num))

/-- The state after the LGD stage, under a haircut of a half. -/
def storedHalf : StageState where
  table := cashTable 50
  lgd := some ⟨[⟨"L", "C", 0, 2⟩], [cash (1 / 2)]⟩

lemma run_lgdSteps_cash :
    run (bothStagesStep plainEnv (cashFrame 4) "t1") { table := cashTable 50 } lgdSteps
      = storedHalf := by
  have hconfig := @loadCollateralConfig_cashTable 50 (1 / 2) (by norm_num)
  have hrows : lgdResultsOf plainEnv (cashFrame 4) ((cashTable 50).loadCollateralConfig "t1")
      >>= insertUnique "lgd_results_unique" LgdResult.loanId = .ok [⟨"L", "C", 0, 2⟩] := by
    rw [hconfig, lgdResults_half]
    rfl
  rw [run_lgdSteps hrows, hconfig]
  rfl

/-- No request comes between the reads: the condition is met, and the workbook shows the sum. -/
theorem showsStored_of_sameRead_sample :
    Always (bothStagesStep plainEnv (cashFrame 4) "t1")
      (fun s => ∀ p ∈ s.completed, ShowsStored plainEnv p.2 p.1.rows) { table := cashTable 50 }
      (lgdSteps ++ eadEclSteps []) := by
  have hconfig := @loadCollateralConfig_cashTable 50 (1 / 2) (by norm_num)
  refine showsStored_of_sameRead (cashTable 50) _ ((eachStep_append ..).mpr ⟨?_, ?_⟩)
  · refine ⟨trivial, fun _ h => ?_, fun _ h => ?_, trivial⟩
    · cases h
    · cases h
  · rw [run_lgdSteps_cash]
    refine ⟨trivial, fun _ h => ?_, fun lgd h => ?_, fun _ h => ?_, fun lgd h => ?_, trivial⟩
    · cases h
    · cases h
      exact congrArg configByName hconfig.symm
    · cases h
    · obtain ⟨workbook, hworkbook⟩ := exists_computeLgd_cash 4 (1 / 2)
      let batch : LgdBatch := ⟨[⟨"L", "C", 0, 2⟩], [cash (1 / 2)]⟩
      set config := (cashTable 50).loadCollateralConfig "t1" with hloaded
      let s : StageState := { storedHalf with tasks := [.eclPublish batch config] }
      have hpublish : advanceStage plainEnv (cashFrame 4) "t1" s (.eclPublish batch config)
          = (s, some (.eclComplete batch workbook)) :=
        advanceStage_eclPublish (by rw [hconfig, hworkbook])
      change (putStage (advanceStage plainEnv (cashFrame 4) "t1" s (.eclPublish batch config)).1 0
        (advanceStage plainEnv (cashFrame 4) "t1" s (.eclPublish batch config)).2).tasks[0]?
          = some (.eclConfig lgd) at h
      rw [hpublish] at h
      cases h

/-- The haircut is lowered between the reads: the stored sum is 2, and the published workbook
shows 3. -/
theorem showsStored_fails :
    ¬ Always (bothStagesStep plainEnv (cashFrame 4) "t1")
      (fun s => ∀ p ∈ s.completed, ShowsStored plainEnv p.2 p.1.rows) { table := cashTable 50 }
      (lgdSteps ++ eadEclSteps [lowerHaircut]) := by
  intro halways
  have hconfig := @loadCollateralConfig_cashTable 25 (1 / 4) (by norm_num)
  obtain ⟨workbook, hworkbook⟩ := exists_computeLgd_cash 4 (1 / 4)
  have hend := halways _ (List.prefix_refl _)
  have htable : [lowerHaircut].foldl performCollateral (cashTable 50) = cashTable 25 :=
    performCollateral_lowerHaircut
  rw [run_append, run_lgdSteps_cash, storedHalf,
    run_eadEclSteps htable (hconfig ▸ hworkbook)] at hend
  have hshows : ShowsStored plainEnv workbook [⟨"L", "C", 0, 2⟩] :=
    hend _ (List.mem_singleton_self _)
  have hquarter : List.Forall₂ (RowShows plainEnv) workbook.rows [⟨"L", "C", 0, 3⟩] := by
    have hmade := lgdResults_quarter
    rw [lgdResultsOf, hworkbook] at hmade
    exact (forall₂_of_mapM_ok hmade).imp fun _ _ hr => rowShows_of_lgdRecord hr
  obtain ⟨r, rs, ⟨-, sum, hsum, hthree⟩, -, hrows⟩ := List.forall₂_cons_right_iff.mp hquarter
  have hhalf : List.Forall₂ (RowShows plainEnv) workbook.rows [⟨"L", "C", 0, 2⟩] :=
    hshows.1.rows
  rw [hrows] at hhalf
  obtain ⟨-, sum', hsum', htwo⟩ := (List.forall₂_cons.mp hhalf).1
  obtain rfl := Except.ok.inj (hsum.symm.trans hsum')
  have heq : (3 : ℚ) = 2 := Except.ok.inj (hthree.symm.trans htwo)
  norm_num at heq

end Runs

end EclServer.Runs
