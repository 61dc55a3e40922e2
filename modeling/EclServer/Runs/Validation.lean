import EclServer.Engine.CrossFile
import EclServer.Engine.IssueCap
import EclServer.Runs.Execution

/-!
`validate_files` of `app/modules/runs/service.py`.

* `ValidationEnv`, `TenantConfig`: library code, and what the configuration tables answer.
* `combineSheets`: the rows of a workbook's sheets under one header.
* `loadUpload`: the file of an upload row, downloaded and read.
* `checkResults`: what the validators say of the sheets. An exception in one of them ends the
  request, and what the session holds is rolled back.
* `checkFile`, `markCross`: what the per-file loop and the cross-file loop write into the rows.
* `validationOut`: the answer made of both loops; `validateFiles`: the request.
-/

namespace EclServer.Runs

open EclServer.Library EclServer.Engine

/-! ### Sheets of a workbook -/

/-- The columns of the sheets, each where it occurs first. -/
def concatColumns (frames : List Frame) : List String :=
  dropDuplicates id (frames.flatMap (·.columns))

/-- `pd.concat(frames, ignore_index=True)`: a sheet that lacks a column has blanks in it. -/
def concatFrames (frames : List Frame) : Frame where
  columns := concatColumns frames
  rows := (frames.flatMap fun df => df.rows.map fun r name =>
    if name ∈ df.columns then r.cell name else Cell.blank).mapIdx fun i cell => ⟨i, cell⟩

/-- `_combine_sheets`. -/
def combineSheets (sheets : List (String × Frame)) : Frame :=
  concatFrames ((sheets.map (·.2)).filter fun df => !df.isEmpty)

/-! ### Answers -/

/-- The status texts of a validation. -/
inductive OverallStatus where
  | ok | warn | blocking
  deriving DecidableEq, Repr

structure TaggedValidationIssue where
  kind : UploadKind
  issue : ValidationIssue
  uploadId : Option String := none
  filename : Option String := none
  deriving DecidableEq, Repr

structure ValidationIssueOut where
  id : String
  kind : UploadKind
  level : ValidationLevel
  title : String
  location : String
  fix : String
  uploadId : Option String
  filename : Option String
  category : Option String
  deriving DecidableEq, Repr

structure ValidationResultOut where
  status : OverallStatus
  summary : String
  subSummary : String
  issues : List ValidationIssueOut
  detectedSegments : List String
  blockingCount : ℕ
  warningCount : ℕ
  deriving DecidableEq, Repr

def noUploads : ECLException :=
  { code := "NO_UPLOADS", detail := "No files uploaded for this run." }

def missingUploads (missing : List UploadKind) : ECLException :=
  { code := "MISSING_UPLOADS"
    detail := "Upload PD, LGD, and EAD files before validating. Missing: "
      ++ ", ".intercalate (missing.map (·.value)) ++ "." }

/-! ### The environment -/

/-- Library code `validate_files` calls: `pd.read_excel` of all sheets, the hexadecimal
SHA-256 digest of a text, and `str.format` of a text with the value of a cell. -/
structure ValidationEnv where
  py : PyEnv
  parseSheets : Bytes → Except ECLException (List (String × Frame))
  sha256 : String → String
  format : String → Cell → Except String String

/-- What the tenant's configuration tables answer: the names in them, and whether new ones
could be added. -/
structure TenantConfig where
  allowedSegments : List String := []
  allowedCollateral : List String := []
  segmentsProvisioned : Bool := true
  collateralProvisioned : Bool := true

/-- An upload row with the sheets of its file. -/
structure LoadedUpload where
  upload : Upload
  sheets : List (String × Frame)

/-- `combined` of the loading loop. -/
def LoadedUpload.combined (l : LoadedUpload) : Frame := combineSheets l.sheets

/-- A file with what the validator of its kind says of its sheets. -/
structure CheckedFile extends LoadedUpload where
  results : List ValidationResult

/-- `issues` of one file. -/
def fileIssues (f : CheckedFile) : List ValidationIssue := f.results.flatMap (·.issues)

/-- `per_file_cap_hit`. -/
def fileCapHit (f : CheckedFile) : Bool := f.results.any (·.issueCapReached)

/-- The files as they were loaded. -/
def loadedFiles (checked : List CheckedFile) : List LoadedUpload :=
  checked.map (·.toLoadedUpload)

section

variable (env : ValidationEnv)

/-- One turn of the loading loop: `download_bytes`, then `_parse_excel`. -/
def loadUpload (objects : Objects) (upload : Upload) : Except ECLException LoadedUpload :=
  match objects.read upload.storagePath with
  | none => .error storageUnavailable
  | some content => do
      let sheets ← env.parseSheets content
      return { upload := upload, sheets := sheets }

/-- `_issue_id`. -/
def issueId (issue : ValidationIssue) : String :=
  takeChars 12 (env.sha256 (issue.title ++ ":" ++ issue.location))

/-! ### What the files name -/

/-- `prescan_segments`. -/
def prescanSegments (loaded : List LoadedUpload) : List String :=
  (loaded.filter fun l => l.upload.kind ≠ .lgd).flatMap fun l => segmentTexts env.py l.combined

/-- `_extract_lgd_collateral_columns` of each LGD file. -/
def prescanCollateral (loaded : List LoadedUpload) : List String :=
  (loaded.filter fun l => l.upload.kind = .lgd).flatMap fun l =>
    l.combined.columns.filter fun column => column ∉ knownLgdColumns

/-- The allowed names, with the new ones of the files where these could be added. -/
def withNew (allowed found : List String) (provisioned : Bool) : List String :=
  if provisioned then allowed ++ found.filter fun name => name ∉ allowed else allowed

/-- `sorted(_extract_segments(segment_dfs))`. -/
def detectedSegments (loaded : List LoadedUpload) : List String :=
  sortByKey id (dropDuplicates id (prescanSegments env loaded))

/-! ### The loop over the files -/

/-- `allowed_segments` after the provisioning. -/
def allowedSegments (config : TenantConfig) (loaded : List LoadedUpload) : List String :=
  withNew config.allowedSegments (prescanSegments env loaded) config.segmentsProvisioned

/-- `allowed_collateral` after the provisioning. -/
def allowedCollateral (config : TenantConfig) (loaded : List LoadedUpload) : List String :=
  withNew config.allowedCollateral (prescanCollateral loaded) config.collateralProvisioned

/-- The validator of a kind, with its exceptions. -/
def checkSheet (config : TenantConfig) (loaded : List LoadedUpload) (kind : UploadKind)
    (sheetName : String) (df : Frame) : Except String ValidationResult :=
  match kind with
  | .pd => tryValidatePd env.py df sheetName (allowedSegments env config loaded)
  | .lgd => tryValidateLgd env.py df sheetName env.format (allowedCollateral config loaded)
  | .ead => tryValidateEad env.py df sheetName (allowedSegments env config loaded)

/-- The validators of the loop, sheet after sheet and file after file. -/
def checkResults (config : TenantConfig) (loaded : List LoadedUpload) :
    Except String (List CheckedFile) :=
  loaded.mapM fun l => do
    let results ← l.sheets.mapM fun sheet =>
      checkSheet env config loaded l.upload.kind sheet.1 sheet.2
    return { l with results := results }

/-- `_validation_status_from_issues`. -/
def validationStatusFromIssues (issues : List ValidationIssue) (warningsAccepted : Bool) :
    ValidationStatus :=
  if issues.any fun issue => issue.level = .block then .error
  else if (issues.any fun issue => issue.level = .warn) ∧ warningsAccepted = false then .warn
  else .ok

/-- `{_issue_id(i) for i in issues if i.level == "warn"}`. -/
def warningIds (issues : List ValidationIssue) : List String :=
  (issues.filter fun issue => issue.level = .warn).map (issueId env)

/-- `upload_warnings_accepted` after the ids of the request were looked at. -/
def acceptWarnings (acceptedIds : List String) (issues : List ValidationIssue) (flag : Bool) :
    Bool :=
  if acceptedIds = [] then flag
  else if warningIds env issues ≠ [] ∧ ∀ id ∈ warningIds env issues, id ∈ acceptedIds then true
  else if (∀ issue ∈ issues, issue.level ≠ .block) ∧
      ∃ id ∈ warningIds env issues, id ∈ acceptedIds then true
  else flag

/-- The row of an upload after its turn of the per-file loop. -/
def checkFile (acceptedIds : List String) (issues : List ValidationIssue) (upload : Upload) :
    Upload :=
  let flag := acceptWarnings env acceptedIds issues upload.warningsAccepted
  { upload with
    warningsAccepted := flag
    validationStatus := some (validationStatusFromIssues issues flag) }

/-- The issues of a file as its row's. -/
def tagIssues (upload : Upload) (issues : List ValidationIssue) : List TaggedValidationIssue :=
  issues.map fun issue =>
    { kind := upload.kind, issue := issue, uploadId := some upload.id
      filename := some upload.originalFilename }

/-! ### The cross-file loop -/

/-- The last upload of a kind, as the per-file loop leaves it in `lgd_upload` and
`ead_upload`. -/
def lastOfKind (kind : UploadKind) (loaded : List LoadedUpload) : Option LoadedUpload :=
  (loaded.filter fun l => l.upload.kind = kind).getLast?

/-- The sheets the cross-file checks compare. -/
def crossFileData (loaded : List LoadedUpload) (lgd ead : LoadedUpload) : CrossFileData where
  pdCombined := concatFrames
    ((loaded.filter fun l => l.upload.kind = .pd).map LoadedUpload.combined)
  lgdCombined := lgd.combined
  eadCombined := ead.combined

/-- `target_upload` of a cross-file issue. -/
def crossTarget (lgd ead : Upload) (issue : ValidationIssue) : Upload :=
  if isSubstring "EIR" issue.title then ead
  else if isSubstring "EAD" issue.title ∨ isSubstring "EC-08" issue.title then ead
  else lgd

/-- The status of the target after one cross-file issue. -/
def crossStatus (level : ValidationLevel) (status : Option ValidationStatus) :
    Option ValidationStatus :=
  match level with
  | .block => some .error
  | .warn => if status = some .ok then some .warn else status

/-- What the cross-file loop writes for one issue. -/
def markCross (lgd ead : Upload) (uploads : List Upload) (issue : ValidationIssue) :
    List Upload :=
  uploads.map fun u =>
    if u.id = (crossTarget lgd ead issue).id then
      { u with validationStatus := crossStatus issue.level u.validationStatus }
    else u

/-- The cross-file issues of the run, none while a file is missing. -/
def crossIssues (loaded : List LoadedUpload) : List ValidationIssue :=
  match lastOfKind .ead loaded, lastOfKind .lgd loaded with
  | some ead, some lgd => validateCrossFiles env.py (crossFileData loaded lgd ead)
  | _, _ => []

/-- The rows after both loops. -/
def checkedUploads (acceptedIds : List String) (checked : List CheckedFile) : List Upload :=
  let loaded := loadedFiles checked
  let uploads := checked.map fun f => checkFile env acceptedIds (fileIssues f) f.upload
  match lastOfKind .ead loaded, lastOfKind .lgd loaded with
  | some ead, some lgd => (crossIssues env loaded).foldl (markCross lgd.upload ead.upload) uploads
  | _, _ => uploads

/-! ### The answer -/

/-- The issue that stands for those beyond the cap. -/
def capIssue (pdUpload : Option Upload) : TaggedValidationIssue where
  kind := .pd
  issue :=
    { level := .block
      title := "Additional errors were found but not shown"
      location := "Summary"
      fix := "Fix the errors above and re-validate. Up to " ++ toString maxIssues
        ++ " issues are shown per run." }
  uploadId := pdUpload.map (·.id)
  filename := pdUpload.map (·.originalFilename)

/-- The cross-file issues with the rows they count for. -/
def crossTagged (loaded : List LoadedUpload) : List TaggedValidationIssue :=
  match lastOfKind .ead loaded, lastOfKind .lgd loaded with
  | some ead, some lgd => (crossIssues env loaded).flatMap fun issue =>
      tagIssues (crossTarget lgd.upload ead.upload issue) [issue]
  | _, _ => []

/-- `all_issues` after the cross-file loop. -/
def foundIssues (checked : List CheckedFile) : List TaggedValidationIssue :=
  (checked.flatMap fun f => tagIssues f.upload (fileIssues f))
    ++ crossTagged env (loadedFiles checked)

/-- `all_issues` at the end. -/
def allIssues (checked : List CheckedFile) : List TaggedValidationIssue :=
  let found := foundIssues env checked
  if checked.any fileCapHit ∧ maxIssues ≤ found.length then
    found ++ [capIssue (((checked.map (·.upload)).filter fun u => u.kind = .pd).head?)]
  else found

/-- `overall_status`. -/
def overallStatus (acceptedIds : List String) (uploads : List Upload)
    (issues : List TaggedValidationIssue) : OverallStatus :=
  if issues.any fun tagged => tagged.issue.level = .block then .blocking
  else if (∃ tagged ∈ issues, tagged.issue.level = .warn ∧
      issueId env tagged.issue ∉ acceptedIds) ∧ ¬ ∀ u ∈ uploads, u.warningsAccepted = true then
    .warn
  else .ok

/-- The number of issues of a level. -/
def levelCount (level : ValidationLevel) (issues : List TaggedValidationIssue) : ℕ :=
  issues.countP fun tagged => tagged.issue.level = level

/-- The texts of `_validation_summaries`. -/
def validationSummaries (status : OverallStatus) (issues : List TaggedValidationIssue)
    (detected : List String) : String × String :=
  let blocking := levelCount .block issues
  let warnings := levelCount .warn issues
  match status with
  | .ok =>
      ("All checks passed",
        (if detected = [] then "No segments detected yet"
          else toString detected.length ++ " segment(s) detected")
          ++ " · files are ready for computation")
  | .blocking =>
      ("Validation errors found",
        toString blocking ++ " blocking error(s) across your uploads"
          ++ (if warnings = 0 then "" else " · " ++ toString warnings ++ " warning(s)")
          ++ " — fix and re-upload to continue")
  | .warn =>
      ("Validation warnings found",
        toString warnings ++ " warning(s) to review"
          ++ (if detected = [] then ""
            else " · " ++ toString detected.length ++ " segment(s) detected"))

/-- `_issues_to_out`. -/
def issuesToOut (issues : List TaggedValidationIssue) : List ValidationIssueOut :=
  issues.map fun tagged =>
    { id := issueId env tagged.issue, kind := tagged.kind, level := tagged.issue.level
      title := tagged.issue.title, location := tagged.issue.location, fix := tagged.issue.fix
      uploadId := tagged.uploadId, filename := tagged.filename
      category := tagged.issue.category }

/-- The answer of `validate_files` to files that were read and checked. -/
def validationOut (acceptedIds : List String) (checked : List CheckedFile) :
    ValidationResultOut :=
  let issues := allIssues env checked
  let status := overallStatus env acceptedIds (checkedUploads env acceptedIds checked) issues
  let detected := detectedSegments env (loadedFiles checked)
  { status := status
    summary := (validationSummaries status issues detected).1
    subSummary := (validationSummaries status issues detected).2
    issues := issuesToOut env issues
    detectedSegments := detected
    blockingCount := levelCount .block issues
    warningCount := levelCount .warn issues }

/-! ### The request -/

/-- Write back the rows the session holds. -/
def RunDb.writeUploads (db : RunDb) (rows : List Upload) : RunDb :=
  { db with uploads := replaceByKey Upload.id rows db.uploads }

/-- `validate_files`. -/
def validateFiles (config : TenantConfig) (tenantId runId : String)
    (acceptedWarningIds : List String) : RunRequest ValidationResultOut := do
  let _run ← getRun tenantId runId
  let s ← get
  let uploads := s.db.loadUploads runId
  if uploads = [] then throw noUploads
  else if missingKinds uploads ≠ [] then throw (missingUploads (missingKinds uploads))
  else
    let loaded ← liftM (uploads.mapM (loadUpload env s.objects))
    let checked ← liftM ((checkResults env config loaded).mapError fun _ => unexpectedError)
    modify fun s => { s with
      db := s.db.writeUploads (checkedUploads env acceptedWarningIds checked) }
    return validationOut env acceptedWarningIds checked

end

end EclServer.Runs
