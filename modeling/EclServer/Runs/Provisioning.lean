import EclServer.Engine.UnknownColumns
import EclServer.Runs.CollateralRuns
import EclServer.Runs.ValidationAgreement
import EclServer.Tenants.CollateralTypes

/-!
The collateral types `validate_files` adds: `_auto_provision_collateral` of
`app/modules/runs/service.py`.

* `collateralDefault`: the haircut and the time to realize of a new type.
* `autoProvisionCollateral`, `provisionCollateral`: the names of the LGD files that the table
  lacks are added in one batch, all or none.
* `validateFilesProvisioning`: the request, from the tables before to the tables after.
* `Created`, `Skipped`: the names the batch adds, and those it takes for existing because a
  deleted type has them.
* `collateralUsed_iff`: a column without an EC-02 block is in the configuration exactly where
  no skipped name and no unread sheet stands in the way.
-/

namespace EclServer.Runs

open EclServer.Library EclServer.Engine EclServer.Tenants EclServer.Auth

/-! ### Defaults -/

/-- `_COLLATERAL_DEFAULTS`: the haircut in percent and the months to realize. -/
def collateralDefaults : List (String × ℚ × ℤ) :=
  [("real estate", 15, 18), ("residential property", 15, 18), ("commercial property", 20, 24),
    ("land", 20, 24), ("motor vehicle", 25, 6), ("vehicle", 25, 6), ("cash deposit", 0, 0),
    ("cash", 0, 0), ("deposit", 0, 1), ("corporate guarantee", 20, 12),
    ("personal guarantee", 30, 12), ("guarantee", 25, 12), ("equipment", 30, 12),
    ("machinery", 35, 12), ("government bond", 5, 1), ("bond", 10, 3), ("stock", 30, 5),
    ("shares", 30, 5), ("insurance", 20, 6), ("inventory", 50, 6), ("receivables", 40, 3)]

/-- `_COLLATERAL_FALLBACK`. -/
def collateralFallback : ℚ × ℤ := (50, 24)

/-- Library code of a validation that adds types: `str.lower` and the ids drawn. -/
structure ProvisionEnv extends ValidationEnv where
  lower : String → String
  newUlid : ℕ → String

section

variable (env : ProvisionEnv)

/-- `_collateral_default`. -/
def collateralDefault (name : String) : ℚ × ℤ :=
  ((collateralDefaults.find? fun entry => entry.1 = env.lower (pyStrip name)).map (·.2)).getD
    collateralFallback

/-- The default of a name is one of the table, or the one for all others. -/
lemma collateralDefault_mem (name : String) :
    collateralDefault env name ∈ collateralFallback :: collateralDefaults.map (·.2) := by
  rw [collateralDefault]
  cases hfind : collateralDefaults.find? fun entry => entry.1 = env.lower (pyStrip name) with
  | none => exact List.mem_cons_self
  | some entry =>
      exact List.mem_cons_of_mem _ (List.mem_map_of_mem (List.mem_of_find?_eq_some hfind))

/-- Every default passes the checks of the request. -/
lemma collateralDefault_valid (name : String) :
    (0 ≤ (collateralDefault env name).1 ∧ (collateralDefault env name).1 ≤ 100) ∧
      0 ≤ (collateralDefault env name).2 ∧ ((collateralDefault env name).1 * 100).den = 1 := by
  have hall : ∀ entry ∈ collateralFallback :: collateralDefaults.map (·.2),
      (0 ≤ entry.1 ∧ entry.1 ≤ 100) ∧ 0 ≤ entry.2 ∧ (entry.1 * 100).den = 1 := by
    simp only [collateralFallback, collateralDefaults, List.map_cons, List.map_nil,
      List.forall_mem_cons]
    norm_num
  exact hall _ (collateralDefault_mem env name)

/-- The columns hold every default. -/
lemma collateralDefault_fits (name : String) : (collateralDefault env name).2 < 2 ^ 31 := by
  have hall : ∀ entry ∈ collateralFallback :: collateralDefaults.map (·.2), entry.2 < 2 ^ 31 := by
    decide
  exact hall _ (collateralDefault_mem env name)

/-! ### The batch -/

/-- `truly_new`, sorted: the names no row of the tenant has, deleted rows included. -/
def trulyNew (table : CollateralTable) (tenantId : String) (names : List String) : List String :=
  let alreadyExist := (table.rows.filter fun t => t.tenantId = tenantId ∧ t.name ∈ names).map (·.name)
  sortByKey id (dropDuplicates id (names.filter fun name => name ∉ alreadyExist))

/-- `_auto_provision_collateral`. -/
def autoProvisionCollateral (tenantId userId : String) (names : List String)
    (table : CollateralTable) : Except ECLException CollateralTable :=
  if trulyNew table tenantId names = [] then .ok table
  else do
    let items ← (trulyNew table tenantId names).mapM fun name =>
      CreateCollateralTypeRequest.parse name (collateralDefault env name).1
        (collateralDefault env name).2
    if 50 < items.length then .error unexpectedError
    else batchCreateCollateralTypes env.lower env.newUlid tenantId userId items table

/-- `new_collateral`. -/
def newCollateral (table : CollateralTable) (tenantId : String) (loaded : List LoadedUpload) :
    List String :=
  (prescanCollateral loaded).filter fun name => name ∉ table.allowedCollateral tenantId

/-- The provisioning of a validation: whether `allowed_collateral` is enlarged, and the table
after; a failure is logged and changes nothing. -/
def provisionCollateral (tenantId userId : String) (loaded : List LoadedUpload)
    (table : CollateralTable) : Bool × CollateralTable :=
  match autoProvisionCollateral env tenantId userId (newCollateral table tenantId loaded) table with
  | .ok table' => (true, table')
  | .error _ => (false, table)

/-- What the segment tables answer to a validation. -/
structure SegmentConfig where
  allowedSegments : List String := []
  segmentsProvisioned : Bool := true

/-- What all the tables answer. -/
def tenantConfig (segments : SegmentConfig) (tenantId userId : String)
    (loaded : List LoadedUpload) (table : CollateralTable) : TenantConfig where
  allowedSegments := segments.allowedSegments
  allowedCollateral := table.allowedCollateral tenantId
  segmentsProvisioned := segments.segmentsProvisioned
  collateralProvisioned := (provisionCollateral env tenantId userId loaded table).1

/-- The files of the run, downloaded and read. -/
def loadFiles (s : RunSession) (runId : String) : Except ECLException (List LoadedUpload) :=
  (s.db.loadUploads runId).mapM (loadUpload env.toValidationEnv s.objects)

/-- `validate_files` with the types it adds. On an exception nothing of it is kept. -/
def validateFilesProvisioning (segments : SegmentConfig) (tenantId userId runId : String)
    (acceptedWarningIds : List String) (s : RunSession) (table : CollateralTable) :
    Except ECLException ValidationResultOut × RunSession × CollateralTable :=
  let loaded := match loadFiles env s runId with
    | .ok loaded => loaded
    | .error _ => []
  let config := tenantConfig env segments tenantId userId loaded table
  match getDb (validateFiles env.toValidationEnv config tenantId runId acceptedWarningIds) s with
  | (.ok out, s') => (.ok out, s', (provisionCollateral env tenantId userId loaded table).2)
  | (.error e, s') => (.error e, s', table)

end

/-! ### When the batch is created -/

section

variable {env : ProvisionEnv} {table table' : CollateralTable} {tenantId userId : String}
  {names : List String} {loaded : List LoadedUpload}

/-- A new type with its default. -/
def defaultItem (env : ProvisionEnv) (name : String) : CollateralItem where
  name := name
  haircut := (collateralDefault env name).1
  timeToRealize := (collateralDefault env name).2
  haircut_range := (collateralDefault_valid env name).1
  timeToRealize_nonneg := (collateralDefault_valid env name).2.1

/-- Only the length of a name can fail the checks of the request. -/
lemma parse_collateralDefault {name : String} {req : CreateCollateralTypeRequest} :
    CreateCollateralTypeRequest.parse name (collateralDefault env name).1
        (collateralDefault env name).2 = .ok req
      ↔ (2 ≤ name.length ∧ name.length ≤ 100) ∧ req.toCollateralItem = defaultItem env name := by
  obtain ⟨hrange, hmonths, hplaces⟩ := collateralDefault_valid env name
  rw [CreateCollateralTypeRequest.parse]
  by_cases hlength : 2 ≤ name.length ∧ name.length ≤ 100
  · rw [dif_pos ⟨hrange, hmonths, hlength, hplaces⟩, Except.ok.injEq]
    constructor
    · rintro rfl
      exact ⟨hlength, rfl⟩
    · rintro ⟨-, hitem⟩
      cases req with
      | mk item hname hplaces =>
          obtain rfl : item = defaultItem env name := hitem
          rfl
  · rw [dif_neg fun h => hlength h.2.2.1]
    exact iff_of_false (by simp) fun h => hlength h.1

lemma mem_trulyNew {name : String} :
    name ∈ trulyNew table tenantId names ↔ name ∈ names ∧
      name ∉ table.allowedCollateral tenantId ∧ name ∉ table.deletedNames tenantId := by
  have hexists : name ∈ names → (name ∈ (table.rows.filter fun t =>
        t.tenantId = tenantId ∧ t.name ∈ names).map (·.name)
      ↔ name ∈ table.allowedCollateral tenantId ∨ name ∈ table.deletedNames tenantId) := by
    intro hname
    rw [CollateralTable.mem_allowedCollateral, CollateralTable.mem_deletedNames]
    constructor
    · intro h
      obtain ⟨t, ht, rfl⟩ := List.mem_map.mp h
      obtain ⟨hrow, hmask⟩ := List.mem_filter.mp ht
      have htenant := (of_decide_eq_true hmask).1
      by_cases hlive : t.isLive = true
      · exact Or.inl ⟨t, hrow, ⟨htenant, hlive⟩, rfl⟩
      · exact Or.inr ⟨t, hrow, ⟨htenant, hlive⟩, rfl⟩
    · rintro (⟨t, ht, ⟨htenant, _⟩, rfl⟩ | ⟨t, ht, ⟨htenant, _⟩, rfl⟩)
      · exact List.mem_map_of_mem (List.mem_filter.mpr ⟨ht, decide_eq_true ⟨htenant, hname⟩⟩)
      · exact List.mem_map_of_mem (List.mem_filter.mpr ⟨ht, decide_eq_true ⟨htenant, hname⟩⟩)
  rw [trulyNew, mem_sortByKey, mem_dropDuplicates_id, List.mem_filter, decide_eq_true_eq]
  constructor
  · rintro ⟨hname, hnot⟩
    rw [hexists hname, not_or] at hnot
    exact ⟨hname, hnot⟩
  · rintro ⟨hname, hnot⟩
    refine ⟨hname, ?_⟩
    rw [hexists hname, not_or]
    exact hnot

/-- Some names can be added in one batch: those no row has are neither too short nor too long,
not more than fifty, told apart when stripped and in lower case, and none is a live one when
stripped. -/
def Creatable (env : ProvisionEnv) (table : CollateralTable) (tenantId : String)
    (names : List String) : Prop :=
  ((∀ name ∈ trulyNew table tenantId names, 2 ≤ name.length ∧ name.length ≤ 100) ∧
    (trulyNew table tenantId names).length ≤ 50) ∧
  ((trulyNew table tenantId names).map fun name => env.lower (pyStrip name)).Nodup ∧
    ∀ name ∈ trulyNew table tenantId names, pyStrip name ∉ table.allowedCollateral tenantId

instance : Decidable (Creatable env table tenantId names) := inferInstanceAs (Decidable (_ ∧ _))

/-- **When names are provisioned**: exactly then, and the new rows are those no row had. -/
theorem autoProvisionCollateral_eq_ok :
    autoProvisionCollateral env tenantId userId names table = .ok table'
      ↔ Creatable env table tenantId names ∧ table'.rows = table.rows
        ++ batchRows env.newUlid tenantId userId
          ((trulyNew table tenantId names).map (defaultItem env)) := by
  rw [autoProvisionCollateral]
  set missing := trulyNew table tenantId names with hmissing
  by_cases hnone : missing = []
  · rw [if_pos hnone, Creatable, ← hmissing, hnone, Except.ok.injEq]
    constructor
    · rintro rfl
      simp [batchRows]
    · rintro ⟨-, hrows⟩
      exact CollateralTable.ext (by simpa [batchRows] using hrows.symm)
  rw [if_neg hnone, bind_eq_ok, Creatable, ← hmissing]
  -- the batch looks at names and times only, so that its answer is one about the missing names
  have hbatch : ∀ items : List CreateCollateralTypeRequest,
      items.map (·.toCollateralItem) = missing.map (defaultItem env) →
        ((if 50 < items.length then .error unexpectedError
          else batchCreateCollateralTypes env.lower env.newUlid tenantId userId items table)
            = .ok table'
          ↔ missing.length ≤ 50 ∧
            ((missing.map fun name => env.lower (pyStrip name)).Nodup ∧
              ∀ name ∈ missing, pyStrip name ∉ table.allowedCollateral tenantId) ∧
            table'.rows = table.rows
              ++ batchRows env.newUlid tenantId userId (missing.map (defaultItem env))) := by
    intro items hitems
    have hlength : items.length = missing.length := by
      simpa using congrArg List.length hitems
    have hnames : items.map (fun item => item.name) = missing := by
      have h := congrArg (List.map CollateralItem.name) hitems
      rw [List.map_map, List.map_map] at h
      exact h.trans (List.map_id missing)
    have hlower : (items.map fun item => env.lower (pyStrip item.name))
        = missing.map fun name => env.lower (pyStrip name) := by
      rw [← hnames, List.map_map]
      rfl
    have hfree : (∀ item ∈ items, pyStrip item.name ∉ table.allowedCollateral tenantId)
        ↔ ∀ name ∈ missing, pyStrip name ∉ table.allowedCollateral tenantId := by
      rw [← hnames, List.forall_mem_map]
    have hfits : ∀ item ∈ items, item.timeToRealize < 2 ^ 31 := by
      intro item hitem
      have hmem : item.toCollateralItem ∈ missing.map (defaultItem env) :=
        hitems ▸ List.mem_map_of_mem hitem
      obtain ⟨name, -, hname⟩ := List.mem_map.mp hmem
      rw [← hname]
      exact collateralDefault_fits env name
    by_cases hcap : missing.length ≤ 50
    · rw [if_neg (by omega), batchCreateCollateralTypes_eq_ok, hlower, hfree, hitems,
        and_iff_left hfits]
      exact (and_iff_right hcap).symm
    · rw [if_pos (by omega)]
      exact iff_of_false (by simp) fun h => hcap h.1
  constructor
  · rintro ⟨items, hparse, hcreate⟩
    have hitems := map_eq_of_mapM_ok hparse fun name req h => (parse_collateralDefault.mp h).2
    obtain ⟨hcap, hnames, hrows⟩ := (hbatch items hitems).mp hcreate
    refine ⟨⟨⟨fun name hname => ?_, hcap⟩, hnames⟩, hrows⟩
    obtain ⟨req, -, hreq⟩ := exists_mem_of_mapM_ok hparse hname
    exact (parse_collateralDefault.mp hreq).1
  · rintro ⟨⟨⟨hlengths, hcap⟩, hnames⟩, hrows⟩
    obtain ⟨items, hparse⟩ := exists_mapM_ok fun name hname =>
      ⟨⟨defaultItem env name, hlengths name hname, (collateralDefault_valid env name).2.2⟩,
        parse_collateralDefault.mpr ⟨hlengths name hname, rfl⟩⟩
    have hitems := map_eq_of_mapM_ok hparse fun name req h => (parse_collateralDefault.mp h).2
    exact ⟨items, hparse, (hbatch items hitems).mpr ⟨hcap, hnames, hrows⟩⟩

/-- The index never refuses a batch that passed the checks. -/
lemma exists_autoProvisionCollateral (h : Creatable env table tenantId names) :
    ∃ table', autoProvisionCollateral env tenantId userId names table = .ok table' := by
  have hnodup := h.2.1
  have hfree := h.2.2
  have hnames : ((trulyNew table tenantId names).map (defaultItem env)).map
        (fun item => pyStrip item.name)
      = (trulyNew table tenantId names).map pyStrip := List.map_map
  have hunique : LiveUnique (table.rows ++ batchRows env.newUlid tenantId userId
      ((trulyNew table tenantId names).map (defaultItem env))) := by
    refine liveUnique_append ?_ fun item hitem => ?_
    · rw [hnames]
      refine List.Nodup.of_map env.lower ?_
      rw [List.map_map]
      exact hnodup
    · obtain ⟨name, hname, rfl⟩ := List.mem_map.mp hitem
      exact hfree name hname
  have hkept : ((trulyNew table tenantId names).map (defaultItem env)).map CollateralItem.rounded
      = (trulyNew table tenantId names).map (defaultItem env) := by
    rw [List.map_map]
    exact List.map_congr_left fun name _ => rounded_of_places (collateralDefault_valid env name).2.2
  have hfits : ∀ item ∈ (trulyNew table tenantId names).map (defaultItem env),
      item.timeToRealize < 2 ^ 31 :=
    List.forall_mem_map.mpr fun name _ => collateralDefault_fits env name
  have hstored : ((table.rows ++ batchRows env.newUlid tenantId userId
      ((trulyNew table tenantId names).map (defaultItem env))).mapM CollateralType.store) = .ok _ :=
    store_append (store_batchRows hfits)
  rw [hkept] at hstored
  exact ⟨⟨_, hunique, stripped_append stripped_batchRows, store_of_stored hstored⟩,
    autoProvisionCollateral_eq_ok.mpr ⟨h, rfl⟩⟩

/-! ### The names after a validation -/

/-- The names of the files that the batch adds, stripped. -/
def Created (env : ProvisionEnv) (table : CollateralTable) (tenantId : String)
    (loaded : List LoadedUpload) (column : String) : Prop :=
  Creatable env table tenantId (newCollateral table tenantId loaded) ∧
    ∃ name ∈ trulyNew table tenantId (newCollateral table tenantId loaded), pyStrip name = column

/-- The names of the files that count as added because a deleted type has them. -/
def Skipped (env : ProvisionEnv) (table : CollateralTable) (tenantId : String)
    (loaded : List LoadedUpload) (column : String) : Prop :=
  Creatable env table tenantId (newCollateral table tenantId loaded) ∧
    column ∈ newCollateral table tenantId loaded ∧ column ∈ table.deletedNames tenantId

instance (column : String) : Decidable (Created env table tenantId loaded column) :=
  inferInstanceAs (Decidable (_ ∧ _))

instance (column : String) : Decidable (Skipped env table tenantId loaded column) :=
  inferInstanceAs (Decidable (_ ∧ _))

/-- The types after a validation: those before it and the created ones. -/
lemma mem_allowedCollateral_provision {column : String} :
    column ∈ (provisionCollateral env tenantId userId loaded table).2.allowedCollateral tenantId
      ↔ column ∈ table.allowedCollateral tenantId ∨ Created env table tenantId loaded column := by
  rw [provisionCollateral]
  cases hauto : autoProvisionCollateral env tenantId userId (newCollateral table tenantId loaded)
      table with
  | error e =>
      have hnot : ¬ Creatable env table tenantId (newCollateral table tenantId loaded) := by
        intro hcreatable
        obtain ⟨table', htable'⟩ := @exists_autoProvisionCollateral env table tenantId userId _
          hcreatable
        rw [htable'] at hauto
        cases hauto
      exact (or_iff_left fun h => hnot h.1).symm
  | ok table' =>
      obtain ⟨hcreatable, hrows⟩ := autoProvisionCollateral_eq_ok.mp hauto
      rw [CollateralTable.mem_allowedCollateral, CollateralTable.mem_allowedCollateral, hrows,
        Created, and_iff_right hcreatable]
      have hnew : (∃ t ∈ batchRows env.newUlid tenantId userId ((trulyNew table tenantId
            (newCollateral table tenantId loaded)).map (defaultItem env)), t.name = column)
          ↔ ∃ name ∈ trulyNew table tenantId (newCollateral table tenantId loaded),
            pyStrip name = column := by
        rw [← List.mem_map, map_name_batchRows, List.map_map, List.mem_map]
        rfl
      rw [← hnew]
      constructor
      · rintro ⟨t, ht, hmask, hname⟩
        rcases List.mem_append.mp ht with hold | hbatch
        · exact Or.inl ⟨t, hold, hmask, hname⟩
        · exact Or.inr ⟨t, hbatch, hname⟩
      · rintro (⟨t, ht, hmask, hname⟩ | ⟨t, ht, hname⟩)
        · exact ⟨t, List.mem_append_left _ ht, hmask, hname⟩
        · exact ⟨t, List.mem_append_right _ ht, mem_batchRows ht, hname⟩

/-- The allowed names are enlarged exactly where the batch can be created. -/
lemma provisionCollateral_fst_iff :
    (provisionCollateral env tenantId userId loaded table).1 = true
      ↔ Creatable env table tenantId (newCollateral table tenantId loaded) := by
  rw [provisionCollateral]
  constructor
  · intro h
    split at h
    · rename_i table' hauto
      exact (autoProvisionCollateral_eq_ok.mp hauto).1
    · cases h
  · intro h
    obtain ⟨table', htable'⟩ := @exists_autoProvisionCollateral env table tenantId userId _ h
    rw [htable']

/-- The names the validators take as configured: those, and the skipped ones. -/
lemma mem_configured {column : String} :
    column ∈ (withNew (table.allowedCollateral tenantId) (prescanCollateral loaded)
        (provisionCollateral env tenantId userId loaded table).1).map pyStrip
      ↔ column ∈ table.allowedCollateral tenantId ∨ Created env table tenantId loaded column ∨
        Skipped env table tenantId loaded column := by
  have hmem : ∀ name, name ∈ withNew (table.allowedCollateral tenantId) (prescanCollateral loaded)
        (provisionCollateral env tenantId userId loaded table).1
      ↔ name ∈ table.allowedCollateral tenantId ∨
        (Creatable env table tenantId (newCollateral table tenantId loaded) ∧
          name ∈ newCollateral table tenantId loaded) := by
    intro name
    rw [withNew, ← @provisionCollateral_fst_iff env table tenantId userId]
    split
    · rename_i htrue
      rw [List.mem_append, and_iff_right htrue, newCollateral]
    · rename_i hfalse
      exact (or_iff_left fun h => hfalse h.1).symm
  rw [List.mem_map]
  constructor
  · rintro ⟨name, hname, rfl⟩
    rcases (hmem name).mp hname with hlive | ⟨hcreatable, hnew⟩
    · exact Or.inl ((CollateralTable.pyStrip_of_allowed hlive).symm ▸ hlive)
    · refine Or.inr ?_
      by_cases hdeleted : name ∈ table.deletedNames tenantId
      · rw [CollateralTable.pyStrip_of_deleted hdeleted]
        exact Or.inr ⟨hcreatable, hnew, hdeleted⟩
      · have hlive := of_decide_eq_true (List.mem_filter.mp hnew).2
        exact Or.inl ⟨hcreatable, name, mem_trulyNew.mpr ⟨hnew, hlive, hdeleted⟩, rfl⟩
  · rintro (hlive | ⟨hcreatable, name, hname, rfl⟩ | ⟨hcreatable, hnew, hdeleted⟩)
    · exact ⟨column, (hmem column).mpr (Or.inl hlive), CollateralTable.pyStrip_of_allowed hlive⟩
    · exact ⟨name, (hmem name).mpr (Or.inr ⟨hcreatable, (mem_trulyNew.mp hname).1⟩), rfl⟩
    · exact ⟨column, (hmem column).mpr (Or.inr ⟨hcreatable, hnew⟩),
        CollateralTable.pyStrip_of_deleted hdeleted⟩

/-! ### What a validation reports -/

/-- The collateral columns of the LGD files. -/
def collateralColumns (loaded : List LoadedUpload) : List String :=
  (loaded.filter fun l => l.upload.kind = .lgd).flatMap fun l =>
    l.sheets.flatMap fun sheet => collateralColumnsOf sheet.2

/-- The answer has an EC-02 block for a column. -/
def ReportsUnknown (out : ValidationResultOut) (column : String) : Prop :=
  ∃ issue ∈ out.issues, issue.kind = .lgd ∧ issue.level = .block ∧
    issue.title = unknownCollateralTitle column

/-- Issues of the LGD files are those of their sheets: the cross-file issues count for the EAD
file, the summary for the PD files. -/
lemma exists_lgd_issue_iff {env : ValidationEnv} {checked : List CheckedFile}
    {acceptedIds : List String} {title : String} (hblocks : OnlyBlocks checked) :
    (∃ issue ∈ (validationOut env acceptedIds checked).issues,
        issue.kind = .lgd ∧ issue.level = .block ∧ issue.title = title)
      ↔ ∃ f ∈ checked, f.upload.kind = .lgd ∧ ∃ issue ∈ fileIssues f, issue.title = title := by
  constructor
  · rintro ⟨issue, hissue, hkind, -, htitle⟩
    obtain ⟨tagged, htagged, rfl⟩ := List.mem_map.mp hissue
    change tagged.kind = .lgd at hkind
    have hfound : tagged ∈ foundIssues env checked := by
      simp only [allIssues] at htagged
      split at htagged
      · rcases List.mem_append.mp htagged with hfound | hcap
        · exact hfound
        · rw [List.mem_singleton.mp hcap] at hkind
          cases hkind
      · exact htagged
    rcases List.mem_append.mp hfound with hfile | hcross
    · obtain ⟨f, hf, hmem⟩ := List.mem_flatMap.mp hfile
      obtain ⟨found, hown, rfl⟩ := List.mem_map.mp hmem
      exact ⟨f, hf, hkind, found, hown, htitle⟩
    · rw [crossTagged] at hcross
      split at hcross
      · rename_i ead lgd head _
        obtain ⟨found, hown, hmem⟩ := List.mem_flatMap.mp hcross
        obtain ⟨_, -, rfl⟩ := List.mem_map.mp hmem
        have head : ead.upload.kind = .ead :=
          of_decide_eq_true (List.mem_filter.mp (List.mem_of_getLast? head)).2
        change (crossTarget lgd.upload ead.upload found).kind = .lgd at hkind
        rw [crossTarget_eq hown, head] at hkind
        cases hkind
      · cases hcross
  · rintro ⟨f, hf, hkind, issue, hissue, htitle⟩
    have hfound : ⟨f.upload.kind, issue, some f.upload.id, some f.upload.originalFilename⟩
        ∈ foundIssues env checked :=
      List.mem_append_left _ (List.mem_flatMap.mpr ⟨f, hf, List.mem_map_of_mem hissue⟩)
    exact ⟨_, List.mem_map_of_mem (mem_allIssues hfound), hkind, hblocks f hf issue hissue,
      htitle⟩

/-- A column the answer reports is one of the first unknown ones of a sheet with an EIR
column. -/
lemma reportsUnknown_iff {env : ValidationEnv} {config : TenantConfig}
    {checked : List CheckedFile} {acceptedIds : List String} {column : String}
    (hcheck : checkResults env config loaded = .ok checked) :
    ReportsUnknown (validationOut env acceptedIds checked) column
      ↔ ∃ l ∈ loaded, l.upload.kind = .lgd ∧ ∃ sheet ∈ l.sheets,
        sheet.2.resolveColumn? lgdEirAliases ≠ none ∧
          column ∈ unknownColumns sheet.2 ((allowedCollateral config loaded).map pyStrip) := by
  rw [ReportsUnknown, exists_lgd_issue_iff (onlyBlocks_of_checkResults hcheck)]
  constructor
  · rintro ⟨f, hf, hkind, issue, hissue, htitle⟩
    obtain ⟨hl, hresults⟩ := exists_of_mem_checkResults hcheck hf
    obtain ⟨result, hresult, hmem⟩ := List.mem_flatMap.mp hissue
    obtain ⟨sheet, hsheet, hok⟩ := exists_of_mem_mapM hresults hresult
    rw [hkind] at hok
    exact ⟨f.toLoadedUpload, hl, hkind, sheet, hsheet,
      (reportsColumn_iff hok).mp ⟨issue, hmem, htitle⟩⟩
  · rintro ⟨l, hl, hkind, sheet, hsheet, hreported⟩
    obtain ⟨f, hf, hfile⟩ := exists_mem_of_mapM_ok hcheck hl
    obtain ⟨results, hresults, hmade⟩ := bind_eq_ok.mp hfile
    obtain ⟨result, hresult, hok⟩ := exists_mem_of_mapM_ok hresults hsheet
    obtain rfl := Except.ok.inj hmade
    rw [hkind] at hok
    obtain ⟨issue, hissue, htitle⟩ := (reportsColumn_iff hok).mpr hreported
    exact ⟨_, hf, hkind, issue, List.mem_flatMap.mpr ⟨result, hresult, hissue⟩, htitle⟩

/-! ### Columns that pass are used -/

/-- **A collateral column is used or blocked**: it is the name of a live type, the batch creates
the type, or, being no skipped name, it is one of the first unknown columns of an LGD sheet with
an EIR column. -/
def CollateralKept (env : ProvisionEnv) (table : CollateralTable) (tenantId : String)
    (loaded : List LoadedUpload) (column : String) : Prop :=
  column ∈ table.allowedCollateral tenantId ∨ Created env table tenantId loaded column ∨
    (¬ Skipped env table tenantId loaded column ∧
      ∃ l ∈ loaded, l.upload.kind = .lgd ∧ ∃ sheet ∈ l.sheets,
        sheet.2.resolveColumn? lgdEirAliases ≠ none ∧
          column ∈ ((collateralColumnsOf sheet.2).filter fun other =>
            ¬ (other ∈ table.allowedCollateral tenantId ∨
              Created env table tenantId loaded other ∨
              Skipped env table tenantId loaded other)).take (headerRoom sheet.2))

/-- A validation that answers has read and checked the files of the run. -/
lemma loaded_of_validateFiles {env : ValidationEnv} {config : TenantConfig} {runId : String}
    {acceptedIds : List String} {s s' : RunSession} {out : ValidationResultOut}
    (h : getDb (validateFiles env config tenantId runId acceptedIds) s = (.ok out, s')) :
    ∃ loaded checked, (s.db.loadUploads runId).mapM (loadUpload env s.objects) = .ok loaded ∧
      checkResults env config loaded = .ok checked ∧
      out = validationOut env acceptedIds checked := by
  have hexec := Tx.exec_of_commitWith_ok (congrArg Prod.fst h)
  rw [validateFiles, Tx.exec_bind_eq_ok] at hexec
  obtain ⟨run, t, hrun, hexec⟩ := hexec
  obtain ⟨rfl, -⟩ := exec_getRun hrun
  simp only [Tx.exec_get_bind, Tx.exec_ite] at hexec
  split at hexec
  · cases hexec
  split at hexec
  · cases hexec
  · rw [Tx.exec_bind_eq_ok] at hexec
    obtain ⟨loaded, u, hload, hexec⟩ := hexec
    rw [Tx.exec_liftM] at hload
    obtain ⟨hread, rfl⟩ := Prod.mk.inj hload
    rw [Tx.exec_bind_eq_ok] at hexec
    obtain ⟨checked, v, hcheck, hexec⟩ := hexec
    rw [Tx.exec_liftM] at hcheck
    obtain ⟨hchecked, rfl⟩ := Prod.mk.inj hcheck
    simp only [Tx.exec_modify_bind, Tx.exec_pure, Prod.mk.injEq, Except.ok.injEq] at hexec
    refine ⟨loaded, checked, hread, ?_, hexec.1.symm⟩
    cases hresults : checkResults env config loaded with
    | error e =>
        rw [hresults] at hchecked
        cases hchecked
    | ok results =>
        rw [hresults] at hchecked
        obtain rfl : results = checked := Except.ok.inj hchecked
        rfl

/-- Every name of the configuration counts. -/
lemma exists_name_configByName {config : List CollateralConfig} {name : String} :
    (∃ cfg ∈ configByName config, cfg.name = name) ↔ name ∈ config.map (·.name) := by
  rw [List.mem_map]
  constructor
  · rintro ⟨cfg, hcfg, hname⟩
    have hmem := mem_of_mem_dropDuplicates _ ((mem_sortByKey _).mp hcfg)
    exact ⟨cfg, List.mem_reverse.mp hmem, hname⟩
  · rintro ⟨cfg, hcfg, hname⟩
    obtain ⟨last, hlast, hkey⟩ :=
      exists_mem_dropDuplicates CollateralConfig.name (List.mem_reverse.mpr hcfg)
    exact ⟨last, (mem_sortByKey _).mpr hlast, hkey.trans hname⟩

/-- **When the columns that pass are used**: after a validation, each collateral column without
an EC-02 block is in the configuration that the compute stage reads, exactly where each is used
or blocked. -/
theorem collateralUsed_iff {segments : SegmentConfig} {runId : String}
    {acceptedWarningIds : List String} {s s' : RunSession} {out : ValidationResultOut}
    (h : validateFilesProvisioning env segments tenantId userId runId acceptedWarningIds s table
      = (.ok out, s', table')) :
    ∃ loaded, loadFiles env s runId = .ok loaded ∧
      ((∀ column ∈ collateralColumns loaded, ¬ ReportsUnknown out column →
          ∃ cfg ∈ configByName (table'.loadCollateralConfig tenantId), cfg.name = column)
        ↔ ∀ column ∈ collateralColumns loaded,
          CollateralKept env table tenantId loaded column) := by
  rw [validateFilesProvisioning] at h
  split at h
  · rename_i out' s'' hvalidate
    obtain ⟨loaded, checked, hloaded, hcheck, hout⟩ := loaded_of_validateFiles hvalidate
    have hfiles : loadFiles env s runId = .ok loaded := hloaded
    rw [hfiles] at hcheck h
    simp only [Prod.mk.injEq, Except.ok.injEq] at h
    obtain ⟨rfl, -, rfl⟩ := h
    refine ⟨loaded, hloaded, forall₂_congr fun column _ => ?_⟩
    -- what the compute stage reads afterwards: the live names and those just created
    have hused : (∃ cfg ∈ configByName ((provisionCollateral env tenantId userId loaded
          table).2.loadCollateralConfig tenantId), cfg.name = column)
        ↔ column ∈ table.allowedCollateral tenantId ∨
          Created env table tenantId loaded column := by
      rw [← @mem_allowedCollateral_provision env table tenantId userId,
        ← CollateralTable.map_name_loadCollateralConfig, exists_name_configByName]
    -- what EC-02 looks at: the columns no name stands for, as far as the cap of the result lets it
    have hunknown : ∀ df : Frame, unknownColumns df ((withNew (table.allowedCollateral tenantId)
          (prescanCollateral loaded) (provisionCollateral env tenantId userId loaded table).1).map
            pyStrip)
        = ((collateralColumnsOf df).filter fun other =>
            ¬ (other ∈ table.allowedCollateral tenantId ∨
              Created env table tenantId loaded other ∨
              Skipped env table tenantId loaded other)).take (headerRoom df) := by
      intro df
      rw [unknownColumns]
      congr 1
      refine List.filter_congr fun other _ => ?_
      rw [decide_eq_decide, mem_configured]
    rw [hused, hout, reportsUnknown_iff hcheck, CollateralKept]
    simp only [allowedCollateral, tenantConfig, hunknown]
    constructor
    · intro h
      by_cases hknown : column ∈ table.allowedCollateral tenantId ∨
          Created env table tenantId loaded column
      · exact or_assoc.mp (Or.inl hknown)
      · refine Or.inr (Or.inr ⟨?_, by_contra fun hnone => hknown (h hnone)⟩)
        obtain ⟨l, hl, hkind, sheet, hsheet, heir, hcolumn⟩ :=
          by_contra fun hnone => hknown (h hnone)
        have hnot := of_decide_eq_true (List.mem_filter.mp (List.mem_of_mem_take hcolumn)).2
        exact fun hskipped => hnot (Or.inr (Or.inr hskipped))
    · rintro (hlive | hcreated | ⟨-, hreported⟩) hnone
      · exact Or.inl hlive
      · exact Or.inr hcreated
      · exact absurd hreported hnone
  · cases h

end

/-! ### A deleted type

The files of `unacceptedSession`, with the LGD sheet of a loan with cash; the tenant's type of
that name is deleted. -/

def cashEnv : ProvisionEnv where
  py := plainEnv
  parseSheets
    | [1] => .ok [("Data", samplePdFrame)]
    | [2] => .ok [("Data", cashFrame 4)]
    | [3] => .ok [("Data", sampleEadFrame)]
    | _ => .error unexpectedError
  sha256 _ := ""
  format := plainFormat
  lower s := String.ofList (s.toList.map Char.toLower)
  newUlid i := "c" ++ toString i

def cashLoaded : List LoadedUpload :=
  List.zipWith LoadedUpload.mk sampleUploads
    [[("Data", samplePdFrame)], [("Data", cashFrame 4)], [("Data", sampleEadFrame)]]

def deletedCash : CollateralTable where
  rows := [⟨"c1", "t1", "Cash", 0, 0, "u1", some 5⟩]
  live_unique := by decide
  stripped := by decide
  stored := by
    intro t ht
    obtain rfl := List.mem_singleton.mp ht
    exact CollateralType.store_eq_ok.mpr
      ⟨0, numeric_zero 5 2 (by norm_num), by norm_num, rfl⟩

lemma loadFiles_cash : loadFiles cashEnv unacceptedSession "r1" = .ok cashLoaded := by
  rw [loadFiles, loadUploads_sample]
  rfl

lemma newCollateral_cash : newCollateral deletedCash "t1" cashLoaded = ["Cash"] := by decide

/-- The deleted type stands in the way of a new one. -/
lemma trulyNew_cash :
    trulyNew deletedCash "t1" (newCollateral deletedCash "t1" cashLoaded) = [] := by
  rw [List.eq_nil_iff_forall_not_mem]
  intro name hname
  obtain ⟨hnew, -, hdeleted⟩ := mem_trulyNew.mp hname
  rw [newCollateral_cash, List.mem_singleton] at hnew
  subst hnew
  exact hdeleted (by decide)

lemma creatable_cash :
    Creatable cashEnv deletedCash "t1" (newCollateral deletedCash "t1" cashLoaded) := by
  rw [Creatable, trulyNew_cash]
  simp

/-- The deleted name counts as allowed. -/
lemma allowedCollateral_cash :
    allowedCollateral (tenantConfig cashEnv {} "t1" "u1" cashLoaded deletedCash) cashLoaded
      = ["Cash"] := by
  have hflag : (provisionCollateral cashEnv "t1" "u1" cashLoaded deletedCash).1 = true :=
    provisionCollateral_fst_iff.mpr creatable_cash
  simp only [allowedCollateral, tenantConfig, hflag]
  decide

lemma sheetRules_cash : ∀ l ∈ cashLoaded, ∀ sheet ∈ l.sheets,
    SheetRules cashEnv.toValidationEnv (tenantConfig cashEnv {} "t1" "u1" cashLoaded deletedCash)
      cashLoaded l.upload.kind sheet.2 := by
  have hsegments : ∀ df ∈ [samplePdFrame, sampleEadFrame], (df.column "SEGMENT").filter
      (notAllowed plainEnv ((withNew [] (prescanSegments cashEnv.toValidationEnv cashLoaded)
        true).map pyStrip)) = [] := by
    decide
  have hpd : (validatePd plainEnv samplePdFrame "Data" []).isValid = true := by decide
  have hlgd : (validateLgd plainEnv (cashFrame 4) "Data" ["Cash"]).isValid = true := by decide
  have head : (validateEad plainEnv sampleEadFrame "Data" []).isValid = true := by decide
  rw [← validatePd_of_configured (hsegments samplePdFrame (by simp))] at hpd
  rw [← validateEad_of_configured (hsegments sampleEadFrame (by simp))] at head
  rw [← allowedCollateral_cash] at hlgd
  intro l hl sheet hsheet
  simp only [cashLoaded, sampleUploads, List.zipWith_cons_cons, List.zipWith_nil_right,
    List.mem_cons, List.not_mem_nil, or_false] at hl
  rcases hl with rfl | rfl | rfl
  · obtain rfl := List.mem_singleton.mp hsheet
    exact isValid_iff_pdChecked.mp hpd
  · obtain rfl := List.mem_singleton.mp hsheet
    exact isValid_iff_lgdChecked.mp hlgd
  · obtain rfl := List.mem_singleton.mp hsheet
    exact isValid_iff_eadRules.mp head

/-- The validators answer, and so does the request. -/
lemma validateFilesProvisioning_cash :
    ∃ checked s', checkResults cashEnv.toValidationEnv
        (tenantConfig cashEnv {} "t1" "u1" cashLoaded deletedCash) cashLoaded = .ok checked ∧
      validateFilesProvisioning cashEnv {} "t1" "u1" "r1" [] unacceptedSession deletedCash
        = (.ok (validationOut cashEnv.toValidationEnv [] checked), s',
          (provisionCollateral cashEnv "t1" "u1" cashLoaded deletedCash).2) := by
  have hrun : unacceptedSession.db.findRun "t1" "r1" = some sampleDraft := by decide
  have hkinds : missingKinds (unacceptedSession.db.loadUploads "r1") = [] := by
    rw [loadUploads_sample]
    decide
  have hload : (unacceptedSession.db.loadUploads "r1").mapM
      (loadUpload cashEnv.toValidationEnv unacceptedSession.objects) = .ok cashLoaded :=
    loadFiles_cash
  obtain ⟨checked, hcheck, -⟩ := exists_checkResults_of_rules sheetRules_cash
  refine ⟨checked, ⟨unacceptedSession.db.writeUploads
    (checkedUploads cashEnv.toValidationEnv [] checked), unacceptedSession.objects⟩, hcheck, ?_⟩
  rw [validateFilesProvisioning, loadFiles_cash, getDb_validateFiles hrun hkinds, hload]
  simp only [hcheck]

/-- **A column of a deleted type** gets no EC-02 block and is not in the configuration. -/
theorem collateralUsed_fails :
    ∃ out s' table',
      validateFilesProvisioning cashEnv {} "t1" "u1" "r1" [] unacceptedSession deletedCash
        = (.ok out, s', table') ∧
      "Cash" ∈ collateralColumns cashLoaded ∧ ¬ ReportsUnknown out "Cash" ∧
      ¬ ∃ cfg ∈ configByName (table'.loadCollateralConfig "t1"), cfg.name = "Cash" := by
  obtain ⟨checked, s', hcheck, hanswer⟩ := validateFilesProvisioning_cash
  refine ⟨_, s', _, hanswer, by decide, ?_, ?_⟩
  · rw [reportsUnknown_iff hcheck]
    rintro ⟨l, hl, hkind, sheet, hsheet, -, hcolumn⟩
    have hnot := of_decide_eq_true (List.mem_filter.mp (List.mem_of_mem_take hcolumn)).2
    refine hnot (mem_configured.mpr (Or.inr (Or.inr ⟨creatable_cash, ?_, by decide⟩)))
    rw [newCollateral_cash]
    exact List.mem_singleton_self _
  · rw [exists_name_configByName, CollateralTable.map_name_loadCollateralConfig,
      mem_allowedCollateral_provision]
    rintro (hlive | ⟨-, name, hname, -⟩)
    · exact absurd hlive (by decide)
    · rw [trulyNew_cash] at hname
      cases hname

/-- The validation of these files. -/
theorem collateralUsed_iff_sample :
    ∃ checked, checkResults cashEnv.toValidationEnv
        (tenantConfig cashEnv {} "t1" "u1" cashLoaded deletedCash) cashLoaded = .ok checked ∧
      ∃ loaded, loadFiles cashEnv unacceptedSession "r1" = .ok loaded ∧
      ((∀ column ∈ collateralColumns loaded,
          ¬ ReportsUnknown (validationOut cashEnv.toValidationEnv [] checked) column →
          ∃ cfg ∈ configByName ((provisionCollateral cashEnv "t1" "u1" cashLoaded
            deletedCash).2.loadCollateralConfig "t1"), cfg.name = column)
        ↔ ∀ column ∈ collateralColumns loaded,
          CollateralKept cashEnv deletedCash "t1" loaded column) := by
  obtain ⟨checked, s', hcheck, hanswer⟩ := validateFilesProvisioning_cash
  exact ⟨checked, hcheck, collateralUsed_iff hanswer⟩

end EclServer.Runs
