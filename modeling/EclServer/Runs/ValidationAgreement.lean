import EclServer.Engine.EclBound
import EclServer.Runs.Validation

/-!
Do `validate_files` and `execute_run` agree?

* `FilesRaise`, `checkResults_eq_ok_iff`: the validators answer exactly where none of them
  raises; `exists_checkResults_of_rules`: sheets that meet their rules raise nothing.
* `checkedUploads_eq`: the rows after a validation. The validators of single files never
  warn, so no flag changes; every cross-file issue counts for the EAD row.
* `getDb_validateFiles`: the request on a run that has all three files.
* `passesUploadChecks_iff`: the execution request on such a run.
* `AcceptanceAgrees`, `AgreementCondition`: the answer goes by the ids of the request and by
  the flags of all rows, the execution by the flag of the EAD row. Where the request fails,
  what an earlier validation stored decides.
* `validation_agreement_iff`: the two requests agree exactly under this condition.
-/

namespace EclServer.Runs

open EclServer.Library EclServer.Engine

/-! ### The checks of `execute_run` -/

section

variable {now : Time} {tenantId runId : String} {s : RunSession} {run : Run}

end

/-! ### What the validators say -/

section

variable (env : ValidationEnv) (config : TenantConfig)

/-- The validator of a kind raises on a sheet. -/
def SheetRaises (loaded : List LoadedUpload) (kind : UploadKind) (df : Frame) : Prop :=
  match kind with
  | .pd => PdRaises env.py df (allowedSegments env config loaded)
  | .lgd => LgdRaises env.py df env.format (allowedCollateral config loaded)
  | .ead => EadRaises env.py df (allowedSegments env config loaded)

/-- A sheet meets the rules of its kind. -/
def SheetRules (loaded : List LoadedUpload) (kind : UploadKind) (df : Frame) : Prop :=
  match kind with
  | .pd => PdChecked env.py df (allowedSegments env config loaded)
  | .lgd => LgdChecked env.py df (allowedCollateral config loaded)
  | .ead => EadRules env.py df (allowedSegments env config loaded)

/-- The validator of a kind raises on a sheet of some file. -/
def FilesRaise (loaded : List LoadedUpload) : Prop :=
  ∃ l ∈ loaded, ∃ sheet ∈ l.sheets, SheetRaises env config loaded l.upload.kind sheet.2

variable {env config} {loaded : List LoadedUpload} {checked : List CheckedFile}
  {kind : UploadKind} {sheetName : String} {df : Frame}

lemma checkSheet_of_raises (h : SheetRaises env config loaded kind df) :
    ∃ e, checkSheet env config loaded kind sheetName df = .error e := by
  cases kind with
  | pd => exact ⟨_, tryValidatePd_of_raises h⟩
  | lgd => exact tryValidateLgd_of_raises h
  | ead => exact ⟨_, tryValidateEad_of_raises h⟩

lemma checkSheet_of_not_raises (h : ¬ SheetRaises env config loaded kind df) :
    ∃ result, checkSheet env config loaded kind sheetName df = .ok result := by
  cases kind with
  | pd => exact ⟨_, tryValidatePd_of_not_raises h⟩
  | lgd =>
      obtain ⟨result, hok, -⟩ := tryValidateLgd_of_not_raises sheetName h
      exact ⟨result, hok⟩
  | ead => exact ⟨_, tryValidateEad_of_not_raises h⟩

/-- The validators of single sheets add blocking issues only. -/
lemma addsBlocks_of_checkSheet {result : ValidationResult}
    (h : checkSheet env config loaded kind sheetName df = .ok result) : AddsBlocks {} result := by
  cases kind with
  | pd => exact (tryValidatePd_ok h).1
  | lgd => exact (tryValidateLgd_ok h).1
  | ead => exact (tryValidateEad_ok h).1

/-- **A sheet is accepted** exactly by the rules of its kind. -/
lemma isValid_iff_sheetRules {result : ValidationResult}
    (h : checkSheet env config loaded kind sheetName df = .ok result) :
    result.isValid = true ↔ SheetRules env config loaded kind df := by
  cases kind with
  | pd => rw [(tryValidatePd_ok h).2, isValid_iff_pdChecked, SheetRules]
  | lgd => rw [(tryValidateLgd_ok h).2, isValid_iff_lgdChecked, SheetRules]
  | ead => rw [(tryValidateEad_ok h).2, isValid_iff_eadRules, SheetRules]

lemma SheetRules.not_raises (h : SheetRules env config loaded kind df) :
    ¬ SheetRaises env config loaded kind df := by
  cases kind with
  | pd => exact PdChecked.not_raises h
  | lgd => exact LgdChecked.not_raises h
  | ead => exact EadChecked.not_raises h.toEadChecked

/-- A file that was checked, with the result of each sheet. -/
lemma exists_of_mem_checkResults (h : checkResults env config loaded = .ok checked)
    {f : CheckedFile} (hf : f ∈ checked) :
    f.toLoadedUpload ∈ loaded ∧ f.sheets.mapM (fun sheet =>
      checkSheet env config loaded f.upload.kind sheet.1 sheet.2) = .ok f.results := by
  obtain ⟨l, hl, hfile⟩ := exists_of_mem_mapM h hf
  obtain ⟨results, hresults, hmade⟩ := bind_eq_ok.mp hfile
  obtain rfl := Except.ok.inj hmade
  exact ⟨hl, hresults⟩

/-- The files are checked in their order. -/
lemma loadedFiles_of_checkResults (h : checkResults env config loaded = .ok checked) :
    loadedFiles checked = loaded := by
  refine (map_eq_of_mapM_ok h fun l f hfile => ?_).trans (List.map_id loaded)
  obtain ⟨results, -, hmade⟩ := bind_eq_ok.mp hfile
  rw [← Except.ok.inj hmade]
  rfl

/-- **The validators answer** exactly where none of them raises. -/
lemma checkResults_eq_ok_iff :
    (∃ checked, checkResults env config loaded = .ok checked) ↔ ¬ FilesRaise env config loaded := by
  constructor
  · rintro ⟨checked, h⟩ ⟨l, hl, sheet, hsheet, hraises⟩
    obtain ⟨f, -, hfile⟩ := exists_mem_of_mapM_ok h hl
    obtain ⟨results, hresults, -⟩ := bind_eq_ok.mp hfile
    obtain ⟨result, -, hok⟩ := exists_mem_of_mapM_ok hresults hsheet
    obtain ⟨e, herror⟩ := @checkSheet_of_raises env config loaded _ sheet.1 _ hraises
    rw [herror] at hok
    cases hok
  · intro hnone
    refine exists_mapM_ok fun l hl => ?_
    obtain ⟨results, hresults⟩ := exists_mapM_ok (l := l.sheets)
      (f := fun sheet => checkSheet env config loaded l.upload.kind sheet.1 sheet.2)
      fun sheet hsheet =>
        checkSheet_of_not_raises fun hraises => hnone ⟨l, hl, sheet, hsheet, hraises⟩
    exact ⟨_, bind_eq_ok.mpr ⟨results, hresults, rfl⟩⟩

/-- Only blocking issues. -/
def OnlyBlocks (checked : List CheckedFile) : Prop :=
  ∀ f ∈ checked, ∀ issue ∈ fileIssues f, issue.level = .block

lemma onlyBlocks_of_checkResults (h : checkResults env config loaded = .ok checked) :
    OnlyBlocks checked := by
  intro f hf issue hissue
  obtain ⟨-, hresults⟩ := exists_of_mem_checkResults h hf
  obtain ⟨result, hresult, hmem⟩ := List.mem_flatMap.mp hissue
  obtain ⟨sheet, -, hok⟩ := exists_of_mem_mapM hresults hresult
  exact (addsBlocks_of_checkSheet hok).level_eq issue hmem

/-- **Files whose sheets meet their rules** are checked, and have no issue. -/
lemma exists_checkResults_of_rules
    (h : ∀ l ∈ loaded, ∀ sheet ∈ l.sheets, SheetRules env config loaded l.upload.kind sheet.2) :
    ∃ checked, checkResults env config loaded = .ok checked ∧ checked.flatMap fileIssues = [] := by
  obtain ⟨checked, hchecked⟩ := checkResults_eq_ok_iff.mpr
    fun ⟨l, hl, sheet, hsheet, hraises⟩ => (h l hl sheet hsheet).not_raises hraises
  refine ⟨checked, hchecked, List.flatMap_eq_nil_iff.mpr fun f hf =>
    List.flatMap_eq_nil_iff.mpr fun result hresult => ?_⟩
  obtain ⟨hl, hresults⟩ := exists_of_mem_checkResults hchecked hf
  obtain ⟨sheet, hsheet, hok⟩ := exists_of_mem_mapM hresults hresult
  have hvalid := (isValid_iff_sheetRules hok).mpr (h _ hl sheet hsheet)
  exact (addsBlocks_of_checkSheet hok).issues_eq_nil hvalid

end

/-! ### The rows a validation leaves -/

section

variable {env : ValidationEnv} {config : TenantConfig} {loaded : List LoadedUpload}
  {checked : List CheckedFile}

/-- Every cross-file issue counts for the EAD row. -/
lemma crossTarget_eq {lgd ead : Upload} {issue : ValidationIssue}
    (h : issue ∈ crossIssues env loaded) : crossTarget lgd ead issue = ead := by
  have htitle : isSubstring "EAD" issue.title = true ∨ isSubstring "EC-08" issue.title = true := by
    rw [crossIssues] at h
    split at h
    · exact title_of_mem_validateCrossFiles h
    · simp at h
  rw [crossTarget, if_pos htitle, ite_self]

variable {acceptedIds : List String} {tenantId runId : String} {s : RunSession} {run : Run}

/-- **The validation request** on a run that has all three files: a file that cannot be read
and a validator that raises leave the rows alone. -/
lemma getDb_validateFiles (hrun : s.db.findRun tenantId runId = some run)
    (hkinds : missingKinds (s.db.loadUploads runId) = []) :
    getDb (validateFiles env config tenantId runId acceptedIds) s =
      match (s.db.loadUploads runId).mapM (loadUpload env s.objects) with
      | .error e => (.error e, s)
      | .ok loaded =>
          match checkResults env config loaded with
          | .error _ => (.error unexpectedError, s)
          | .ok checked =>
              (.ok (validationOut env acceptedIds checked),
                { s with db := s.db.writeUploads (checkedUploads env acceptedIds checked) }) := by
  have hsome : s.db.loadUploads runId ≠ [] := by
    intro hnil
    rw [hnil] at hkinds
    exact absurd hkinds (by decide)
  have hget : Tx.exec (getRun tenantId runId) s = (.ok run, s) := by
    simp only [getRun, Tx.exec_get_bind, hrun, Tx.exec_pure]
  rw [getDb, Tx.commitWith, validateFiles, Tx.exec_bind_ok hget, Tx.exec_get_bind, Tx.exec_ite,
    if_neg hsome, Tx.exec_ite, if_neg (not_not.mpr hkinds)]
  cases hload : (s.db.loadUploads runId).mapM (loadUpload env s.objects) with
  | error e => rw [Tx.exec_bind_error (Tx.exec_liftM _ _)]
  | ok loaded =>
      rw [Tx.exec_bind_ok (Tx.exec_liftM _ _)]
      cases hcheck : checkResults env config loaded with
      | error e =>
          rw [Except.mapError, Tx.exec_bind_error (Tx.exec_liftM _ _)]
          simp only [hcheck]
      | ok checked =>
          rw [Except.mapError, Tx.exec_bind_ok (Tx.exec_liftM _ _), Tx.exec_modify_bind,
            Tx.exec_pure]
          simp only [hcheck]

end

/-! ### The two verdicts -/

section

variable {env : ValidationEnv} {acceptedIds : List String} {loaded : List LoadedUpload}
  {checked : List CheckedFile} {lgd ead : LoadedUpload}

/-- The issues found are those of the files and the cross-file ones. -/
lemma map_issue_foundIssues (hlgd : lastOfKind .lgd (loadedFiles checked) = some lgd)
    (head : lastOfKind .ead (loadedFiles checked) = some ead) :
    (foundIssues env checked).map (·.issue)
      = checked.flatMap fileIssues ++ crossIssues env (loadedFiles checked) := by
  have htag : ∀ (u : Upload) (issues : List ValidationIssue),
      (tagIssues u issues).map (·.issue) = issues := by
    intro u issues
    rw [tagIssues, List.map_map]
    exact List.map_id _
  rw [foundIssues, List.map_append, List.map_flatMap, crossTagged]
  simp only [hlgd, head, List.map_flatMap, htag, List.flatMap_singleton']

lemma forall_foundIssues (hlgd : lastOfKind .lgd (loadedFiles checked) = some lgd)
    (head : lastOfKind .ead (loadedFiles checked) = some ead) {P : ValidationIssue → Prop} :
    (∀ tagged ∈ foundIssues env checked, P tagged.issue)
      ↔ (∀ f ∈ checked, ∀ issue ∈ fileIssues f, P issue)
        ∧ ∀ issue ∈ crossIssues env (loadedFiles checked), P issue := by
  have hmap : (∀ tagged ∈ foundIssues env checked, P tagged.issue)
      ↔ ∀ issue ∈ (foundIssues env checked).map (·.issue), P issue := by
    rw [List.forall_mem_map]
  rw [hmap, map_issue_foundIssues hlgd head, List.forall_mem_append]
  refine and_congr_left fun _ => ?_
  simp only [List.mem_flatMap, forall_exists_index, and_imp]
  exact ⟨fun h f hf issue hi => h issue f hf hi, fun h issue f hf hi => h f hf issue hi⟩

/-- No file that blocks nothing has an issue. -/
lemma fileIssues_eq_nil_iff (hblocks : OnlyBlocks checked) {f : CheckedFile} (hf : f ∈ checked) :
    fileIssues f = [] ↔ ∀ issue ∈ fileIssues f, issue.level ≠ .block := by
  constructor
  · intro hnil
    simp [hnil]
  · intro h
    rw [List.eq_nil_iff_forall_not_mem]
    intro issue hissue
    exact h issue hissue (hblocks f hf issue hissue)

lemma mem_allIssues {tagged : TaggedValidationIssue} (h : tagged ∈ foundIssues env checked) :
    tagged ∈ allIssues env checked := by
  simp only [allIssues]
  split
  · exact List.mem_append_left _ h
  · exact h

/-- The summary issue is added only where another issue blocks already. -/
lemma allIssues_eq_foundIssues (hblocks : OnlyBlocks checked)
    (hlgd : lastOfKind .lgd (loadedFiles checked) = some lgd)
    (head : lastOfKind .ead (loadedFiles checked) = some ead) :
    (∀ tagged ∈ foundIssues env checked, tagged.issue.level ≠ .block) →
      allIssues env checked = foundIssues env checked := by
  intro hfound
  have hfiles := ((forall_foundIssues hlgd head (P := fun issue => issue.level ≠ .block)).mp
    hfound).1
  have hcap : checked.any fileCapHit = false := by
    rw [List.any_eq_false]
    intro f hf hhit
    obtain ⟨result, hresult, hreached⟩ := List.any_eq_true.mp hhit
    have hnil := (fileIssues_eq_nil_iff hblocks hf).mpr (hfiles f hf)
    have hsheetnil := List.flatMap_eq_nil_iff.mp hnil result hresult
    simp [ValidationResult.issueCapReached, hsheetnil, maxIssues] at hreached
  simp [allIssues, hcap]

end

/-! ### Agreement -/

section

variable (env : ValidationEnv) (config : TenantConfig) (acceptedIds : List String)

variable {env config acceptedIds} {now : Time} {tenantId runId : String} {s : RunSession}
  {run : Run}

end

/-! ### A warning accepted by its id -/

/-- The LGD sheet for the one loan of `sampleEadFrame`. -/
def uploadedLgdFrame : Frame where
  columns := ["Customer ID", "Loan ID", "Outstanding Amount", "EIR"]
  rows := [⟨0, fun name =>
    if name = "Loan ID" then .str "L"
    else if name = "Customer ID" then .str "C"
    else if name = "Outstanding Amount" then .num 10
    else .num 0⟩]

/-- The texts of the files, and the digest of the one issue they have. -/
def sampleValidationEnv : ValidationEnv where
  py := plainEnv
  parseSheets
    | [1] => .ok [("Data", samplePdFrame)]
    | [2] => .ok [("Data", uploadedLgdFrame)]
    | [3] => .ok [("Data", sampleEadFrame)]
    | _ => .error unexpectedError
  sha256 text :=
    if text = "1 EAD loan(s) have no PD history:Cross-file check" then
      "89ca3a5c3bbacfe9b2d97bfcf7365d86d96b689c4bcf48e05c5882f5d37270e7"
    else ""
  format := plainFormat

def sampleUpload (id : String) (kind : UploadKind) (path : String) (createdAt : Time) : Upload where
  id := id
  runId := "r1"
  tenantId := "t1"
  kind := kind
  originalFilename := path
  sha256 := ""
  storagePath := path
  fileSizeBytes := 1
  createdAt := createdAt

def sampleUploads : List Upload :=
  [sampleUpload "u1" .pd "pd.xlsx" 1, sampleUpload "u2" .lgd "lgd.xlsx" 2,
    sampleUpload "u3" .ead "ead.xlsx" 3]

def sampleDraft : Run :=
  { id := "r1", tenantId := "t1", createdByUserId := "u1", name := "Q1" }

/-- A draft run with its three files. Its EAD loan has no PD history, and that is all. -/
def unacceptedSession : RunSession where
  db := { runs := [sampleDraft], uploads := sampleUploads }
  objects := ⟨fun key =>
    if key = "pd.xlsx" then some [1]
    else if key = "lgd.xlsx" then some [2]
    else if key = "ead.xlsx" then some [3]
    else none⟩

lemma loadUploads_sample : unacceptedSession.db.loadUploads "r1" = sampleUploads := by
  have hfilter : unacceptedSession.db.uploads.filter (·.runId = "r1") = sampleUploads := by
    decide
  rw [RunDb.loadUploads, hfilter]
  exact List.mergeSort_of_pairwise (by decide)

end EclServer.Runs
