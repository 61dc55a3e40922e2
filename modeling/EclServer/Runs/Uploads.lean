import EclServer.Runs.Model

/-!
The upload services of `app/modules/runs/service.py`: `upload_file`, `delete_upload`,
`delete_run` and `rerun_run`.

* `UploadEnv`: SHA-256, the zip directory and the workbook reader, which are library code.
* `replacedUploads`, `remainingUploads`: the rows an upload replaces and the rows it keeps.
* `exec_uploadFile_ok`, `exec_deleteUpload_ok`, `exec_rerunRun_ok`, `exec_deleteRun_ok`: the
  effect of each service on the uploads table and on the bucket when it returns.
-/

namespace EclServer.Runs

open EclServer.Library

/-- Library code the upload checks call. `zipNames` is `none` where `ZipFile` raises
`BadZipFile`; `parseExcel` gives the sheet and row counts of `_parse_excel`. -/
structure UploadEnv where
  sha256 : Bytes → String
  zipNames : Bytes → Option (List String)
  parseExcel : Bytes → Except ECLException (ℕ × ℕ)
  maxUploadBytes : ℕ := 52428800

structure UploadRequest where
  kind : String
  filename : String
  body : Bytes
  contentType : String
  deriving DecidableEq, Repr

structure UploadOut where
  id : String
  kind : UploadKind
  filename : String
  sizeBytes : ℕ
  sha256 : String
  sheetCount : ℕ
  rowCount : ℕ
  deriving DecidableEq, Repr

/-! ### Errors -/

def runNotUploadable (detail : String) : ECLException :=
  { code := "RUN_NOT_UPLOADABLE", detail := detail, statusCode := 409 }

def invalidUploadKind : ECLException :=
  { code := "INVALID_UPLOAD_KIND", detail := "kind must be PD, LGD, or EAD." }

def fileTooLarge (maxBytes : ℕ) : ECLException :=
  { code := "FILE_TOO_LARGE"
    detail := "File exceeds the maximum upload size of " ++ toString (maxBytes / (1024 * 1024))
      ++ " MB."
    statusCode := 413 }

def unsupportedMediaType (contentType : String) : ECLException :=
  { code := "UNSUPPORTED_MEDIA_TYPE"
    detail := "Uploaded file has unsupported content type '" ++ contentType
      ++ "'. Only .xlsx workbooks are accepted."
    statusCode := 415 }

def unsafeFile : ECLException :=
  { code := "UNSAFE_FILE"
    detail := "Uploaded file contains VBA macros, which are not permitted."
    statusCode := 415 }

def invalidFile : ECLException :=
  { code := "INVALID_FILE"
    detail := "Uploaded file is not a valid .xlsx workbook."
    statusCode := 415 }

def uploadNotFound : ECLException :=
  { code := "RESOURCE_NOT_FOUND", detail := "Upload not found.", statusCode := 404 }

def runNotCompleted : ECLException :=
  { code := "RUN_NOT_COMPLETED", detail := "Only completed runs can be re-run."
    statusCode := 409 }

/-! ### Upload -/

/-- `_ALLOWED_CONTENT_TYPES`. -/
def allowedContentTypes : List String :=
  ["application/vnd.openxmlformats-officedocument.spreadsheetml.sheet",
    "application/octet-stream", "application/vnd.ms-excel"]

section

variable (env : UploadEnv)

/-- `_assert_upload_safe`. -/
def assertUploadSafe (content : Bytes) (contentType : String) : RunRequest Unit :=
  if contentType ∉ allowedContentTypes then throw (unsupportedMediaType contentType)
  else
    match env.zipNames content with
    | none => throw invalidFile
    | some names =>
        if names.any fun name => decide ("vbaProject".toList <:+: name.toList) then
          throw unsafeFile
        else pure ()

/-- `upload_stream`: the digest and the size of what was put. -/
def uploadStream (path : String) (body : Bytes) : RunRequest (String × ℕ) := do
  modify fun s => { s with objects := s.objects.put path body }
  return (env.sha256 body, body.length)

end

/-- `f"{n:,}"`. -/
def thousands (n : ℕ) : String :=
  String.ofList ((((Nat.toDigits 10 n).reverse.toChunks 3).intersperse [',']).flatten.reverse)

/-- The EC-12 warning of `upload_file`. -/
def rowCountWarning (kind : UploadKind) (rowCount : ℕ) : String :=
  "EC-12: Upload '" ++ kind.value ++ "' contains " ++ thousands rowCount ++
    " rows. Compute time may exceed the 30-minute budget. Consider splitting the dataset "
    ++ "into batches before running."

/-- `filename.replace("/", "_").replace("\\", "_")`. -/
def safeName (filename : String) : String :=
  String.ofList (filename.toList.map fun c => if c = '/' ∨ c = '\\' then '_' else c)

/-- The storage path `upload_file` gives a file. -/
def uploadPath (tenantId runId : String) (kind : UploadKind) (filename : String) : String :=
  buildStoragePath tenantId runId kind.lower (safeName filename)

/-- The rows an upload replaces: those of the run and kind, unless the kind is PD. -/
def replacedUploads (db : RunDb) (runId : String) (kind : UploadKind) : List Upload :=
  if kind = .pd then [] else db.uploads.filter fun u => u.runId = runId ∧ u.kind = kind

/-- The rows an upload keeps. -/
def remainingUploads (db : RunDb) (runId : String) (kind : UploadKind) : List Upload :=
  if kind = .pd then db.uploads else db.uploads.filter fun u => ¬ (u.runId = runId ∧ u.kind = kind)

/-- The loop of `upload_file` over the existing rows. -/
def replaceExisting (runId : String) (kind : UploadKind) : RunRequest Unit :=
  modify fun s =>
    { objects := s.objects.deleteAll ((replacedUploads s.db runId kind).map (·.storagePath))
      db := { s.db with uploads := remainingUploads s.db runId kind } }

/-- `upload_file`. -/
def uploadFile (env : UploadEnv) (now : Time) (newId tenantId runId : String)
    (req : UploadRequest) : RunRequest UploadOut := do
  let run ← getRun tenantId runId
  if run.status ∉ [.draft, .failed] then
    throw (runNotUploadable "Files can only be uploaded to draft or failed runs.")
  else
    match UploadKind.ofString? req.kind with
    | none => throw invalidUploadKind
    | some kind =>
        replaceExisting runId kind
        let storagePath := uploadPath tenantId runId kind req.filename
        let (sha256, size) ← uploadStream env storagePath req.body
        if env.maxUploadBytes < size then
          deleteObject storagePath
          throw (fileTooLarge env.maxUploadBytes)
        else
          let content ← downloadBytes storagePath
          assertUploadSafe env content req.contentType
          let (sheetCount, rowCount) ← liftM (env.parseExcel content)
          modify fun s => { s with
            db := s.db.updateRun runId fun r => { r with
              runWarnings :=
                if 1000000 < rowCount then
                  some (run.runWarnings.getD [] ++ [rowCountWarning kind rowCount])
                else r.runWarnings } }
          modify fun s => { s with
            db := { s.db with
              uploads := s.db.uploads ++
                [{ id := newId, runId := runId, tenantId := tenantId, kind := kind
                   originalFilename := req.filename, sha256 := sha256
                   storagePath := storagePath, fileSizeBytes := size
                   sheetCount := some sheetCount, rowCount := some rowCount
                   createdAt := now }] } }
          return { id := newId, kind := kind, filename := req.filename, sizeBytes := size
                   sha256 := sha256, sheetCount := sheetCount, rowCount := rowCount }

/-- `delete_upload`. -/
def deleteUpload (tenantId runId uploadId : String) : RunRequest Unit := do
  let run ← getRun tenantId runId
  if run.status ∉ [.draft, .failed] then
    throw (runNotUploadable "Files can only be modified on draft or failed runs.")
  else
    let s ← get
    match s.db.findUpload runId uploadId with
    | none => throw uploadNotFound
    | some upload =>
        deleteObject upload.storagePath
        modify fun s => { s with
          db := { s.db with uploads := s.db.uploads.filter (·.id ≠ upload.id) } }

/-- `delete_run`. -/
def deleteRun (now : Time) (tenantId runId userId : String) : RunRequest Unit := do
  let run ← getRun tenantId runId
  modify fun s => { s with
    db := s.db.updateRun run.id fun r =>
      { r with deletedAt := some now, deletedByUserId := some userId, status := .deleted
               updatedAt := now } }

/-- The copy `rerun_run` makes of an upload row: another id and run, the same object. -/
def rerunCopy (now : Time) (tenantId newRunId newId : String) (src : Upload) : Upload :=
  { id := newId, runId := newRunId, tenantId := tenantId, kind := src.kind
    originalFilename := src.originalFilename, sha256 := src.sha256
    storagePath := src.storagePath, fileSizeBytes := src.fileSizeBytes
    sheetCount := src.sheetCount, rowCount := src.rowCount
    validationStatus := some .ok, warningsAccepted := true, createdAt := now }

/-- `rerun_run`; `copyId` gives the id drawn for the copy of each source row. -/
def rerunRun (now : Time) (newRunId : String) (copyId : String → String)
    (tenantId runId userId : String) (name : Option String) : RunRequest Run := do
  let original ← getRun tenantId runId
  if original.status ≠ .complete then throw runNotCompleted
  else
    let _tenant ← getTenant tenantId
    let newName := match name with
      | some n => if n = "" then original.name ++ " (rerun)" else pyStrip n
      | none => original.name ++ " (rerun)"
    let newRun : Run :=
      { id := newRunId, tenantId := tenantId, createdByUserId := userId, name := newName
        reportingPeriod := original.reportingPeriod, combinePdFiles := original.combinePdFiles
        updatedAt := now, createdAt := now }
    modify fun s => { s with db := { s.db with runs := s.db.runs ++ [newRun] } }
    modify fun s => { s with
      db := { s.db with
        uploads := s.db.uploads ++ (s.db.loadUploads runId).map fun src =>
          rerunCopy now tenantId newRunId (copyId src.id) src } }
    return newRun

/-! ### What the services do when they return -/

section

variable {env : UploadEnv} {now : Time} {newId tenantId runId : String} {s t : RunSession}

/-- The content check reads only. -/
lemma exec_assertUploadSafe {content : Bytes} {contentType : String} {r : Unit}
    (h : Tx.exec (assertUploadSafe env content contentType) s = (.ok r, t)) : t = s := by
  rw [assertUploadSafe, Tx.exec_ite] at h
  split at h
  · simp at h
  split at h
  · simp at h
  rw [Tx.exec_ite] at h
  split at h
  · simp at h
  · simpa using h.symm

/-- **Upload**: the replaced rows and their objects are gone, the new object is in the
bucket and the new row names it. -/
theorem exec_uploadFile_ok {req : UploadRequest} {out : UploadOut}
    (h : Tx.exec (uploadFile env now newId tenantId runId req) s = (.ok out, t)) :
    ∃ kind row, UploadKind.ofString? req.kind = some kind ∧ row.runId = runId ∧ row.kind = kind ∧
      row.storagePath = uploadPath tenantId runId kind req.filename ∧
      row.sha256 = env.sha256 req.body ∧
      t.db.uploads = remainingUploads s.db runId kind ++ [row] ∧
      t.objects = (s.objects.deleteAll ((replacedUploads s.db runId kind).map (·.storagePath))).put
        (uploadPath tenantId runId kind req.filename) req.body := by
  rw [uploadFile, Tx.exec_bind_eq_ok] at h
  obtain ⟨run, _, hrun, h⟩ := h
  rw [(exec_getRun hrun).1, Tx.exec_ite] at h
  split at h
  · simp at h
  split at h
  · simp at h
  rename_i kind hkind
  rw [replaceExisting, Tx.exec_modify_bind] at h
  simp only [uploadStream, bind_assoc, pure_bind, Tx.exec_modify_bind] at h
  rw [Tx.exec_ite] at h
  split at h
  · simp [deleteObject] at h
  obtain ⟨content, _, hdownload, h⟩ := Tx.exec_bind_eq_ok.mp h
  rw [(exec_downloadBytes hdownload).1] at h
  obtain ⟨_, _, hsafe, h⟩ := Tx.exec_bind_eq_ok.mp h
  rw [exec_assertUploadSafe hsafe] at h
  obtain ⟨counts, _, hparse, h⟩ := Tx.exec_bind_eq_ok.mp h
  rw [Tx.exec_liftM, Prod.mk.injEq] at hparse
  rw [← hparse.2] at h
  simp only [Tx.exec_modify_bind, Tx.exec_pure, Prod.mk.injEq] at h
  obtain ⟨-, rfl⟩ := h
  exact ⟨kind, _, hkind, rfl, rfl, rfl, rfl, rfl, rfl⟩

/-- Deleting an upload removes its row and the object under its path. -/
theorem exec_deleteUpload_ok {uploadId : String} {r : Unit}
    (h : Tx.exec (deleteUpload tenantId runId uploadId) s = (.ok r, t)) :
    ∃ upload, s.db.findUpload runId uploadId = some upload ∧
      t.db.uploads = s.db.uploads.filter (·.id ≠ uploadId) ∧
      t.objects = s.objects.delete upload.storagePath := by
  rw [deleteUpload, Tx.exec_bind_eq_ok] at h
  obtain ⟨run, _, hrun, h⟩ := h
  rw [(exec_getRun hrun).1, Tx.exec_ite] at h
  split at h
  · simp at h
  rw [Tx.exec_get_bind] at h
  split at h
  · simp at h
  rename_i upload hfind
  have hid : upload.id = uploadId := by
    have hp := List.find?_some hfind
    simp only [decide_eq_true_eq] at hp
    exact hp.1
  rw [deleteObject, Tx.exec_modify_bind] at h
  simp only [Tx.exec_modify, Prod.mk.injEq] at h
  obtain ⟨-, rfl⟩ := h
  exact ⟨upload, hfind, by rw [hid], rfl⟩

lemma exec_deleteRun_ok {userId : String} {r : Unit}
    (h : Tx.exec (deleteRun now tenantId runId userId) s = (.ok r, t)) :
    t.db.uploads = s.db.uploads ∧ t.objects = s.objects := by
  rw [deleteRun, Tx.exec_bind_eq_ok] at h
  obtain ⟨run, _, hrun, h⟩ := h
  rw [(exec_getRun hrun).1] at h
  simp only [Tx.exec_modify, Prod.mk.injEq] at h
  obtain ⟨-, rfl⟩ := h
  exact ⟨rfl, rfl⟩

/-- A rerun copies the rows of its source, a completed run; the copies share the objects. -/
theorem exec_rerunRun_ok {newRunId : String} {copyId : String → String} {userId : String}
    {name : Option String} {run : Run}
    (h : Tx.exec (rerunRun now newRunId copyId tenantId runId userId name) s = (.ok run, t)) :
    t.objects = s.objects ∧
      (t.db.uploads = s.db.uploads ++ (s.db.loadUploads runId).map fun src =>
        rerunCopy now tenantId newRunId (copyId src.id) src) ∧
      ∃ original, s.db.findRun tenantId runId = some original ∧ original.status = .complete ∧
        run.id = newRunId ∧ run.combinePdFiles = original.combinePdFiles := by
  rw [rerunRun, Tx.exec_bind_eq_ok] at h
  obtain ⟨original, _, hrun, h⟩ := h
  obtain ⟨rfl, hfind⟩ := exec_getRun hrun
  rw [Tx.exec_ite] at h
  split at h
  · simp at h
  rename_i hcomplete
  obtain ⟨tenant, _, htenant, h⟩ := Tx.exec_bind_eq_ok.mp h
  rw [exec_getTenant htenant] at h
  simp only [Tx.exec_modify_bind, Tx.exec_pure, Prod.mk.injEq] at h
  obtain ⟨hrow, rfl⟩ := h
  rw [← Except.ok.inj hrow]
  exact ⟨rfl, rfl, original, hfind, not_not.mp hcomplete, rfl, rfl⟩

end

end EclServer.Runs
