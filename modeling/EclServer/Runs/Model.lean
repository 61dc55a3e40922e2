import EclServer.Auth.Model

/-!
The run tables, the object store and the storage layer of `app/core/storage.py`.

* `RunStatus`, `UploadKind`, `ValidationStatus`, `Stage`: the enumerations of
  `app/core/run_enums.py`.
* `Run`, `Upload`, `RunDb`: the rows the run services and the compute tasks read or write.
* `Objects`: the bucket, a map from keys to bytes; `putObject`, `deleteObject`,
  `downloadBytes` with the key normalisation of the storage client.
* `RunRequest`, `getDb`: a service body over the database and the bucket. An exception
  rolls the database back; what was put into or deleted from the bucket stays so.
-/

namespace EclServer.Runs

open EclServer.Library

/-! ### Enumerations -/

inductive RunStatus where
  | draft | queued | pdRunning | lgdRunning | eadRunning | complete | failed | deleted
  deriving DecidableEq, Repr

inductive UploadKind where
  | pd | lgd | ead
  deriving DecidableEq, Repr

namespace UploadKind

/-- The stored text of the enumeration. -/
def value : UploadKind → String
  | pd => "PD"
  | lgd => "LGD"
  | ead => "EAD"

/-- `kind.lower()`. -/
def lower : UploadKind → String
  | pd => "pd"
  | lgd => "lgd"
  | ead => "ead"

/-- The kind a request names, if it is one of the three. -/
def ofString? (kind : String) : Option UploadKind :=
  [pd, lgd, ead].find? fun k => k.value = kind

end UploadKind

inductive ValidationStatus where
  | ok | warn | error
  deriving DecidableEq, Repr

inductive EngineStageStatus where
  | pending | running | complete | error
  deriving DecidableEq, Repr

/-- The keys of `engine_progress`. -/
inductive Stage where
  | pd | lgd | ead | ecl
  deriving DecidableEq, Repr

/-! ### Rows -/

structure StageProgress where
  status : EngineStageStatus := .pending
  startedAt : Option Time := none
  finishedAt : Option Time := none
  elapsedMs : Option ℤ := none
  deriving DecidableEq, Repr

/-- The JSON object of `engine_progress`; a stage may be missing from it. -/
structure EngineProgress where
  pd : Option StageProgress := none
  lgd : Option StageProgress := none
  ead : Option StageProgress := none
  ecl : Option StageProgress := none
  deriving DecidableEq, Repr

structure Run where
  id : String
  tenantId : String
  createdByUserId : String
  name : String
  reportingPeriod : Option String := none
  status : RunStatus := .draft
  engineProgress : Option EngineProgress := none
  combinePdFiles : Bool := true
  failureStage : Option String := none
  failureMessage : Option String := none
  failureRef : Option String := none
  totalEcl : Option ℚ := none
  totalOutstanding : Option ℚ := none
  coverageRatio : Option ℚ := none
  runWarnings : Option (List String) := none
  startedAt : Option Time := none
  finishedAt : Option Time := none
  updatedAt : Time := 0
  deletedAt : Option Time := none
  deletedByUserId : Option String := none
  engineVersion : String := "v1.0.0"
  createdAt : Time := 0
  deriving DecidableEq, Repr

structure Upload where
  id : String
  runId : String
  tenantId : String
  kind : UploadKind
  originalFilename : String
  sha256 : String
  storagePath : String
  fileSizeBytes : ℕ
  sheetCount : Option ℕ := none
  rowCount : Option ℕ := none
  validationStatus : Option ValidationStatus := none
  warningsAccepted : Bool := false
  createdAt : Time
  deriving DecidableEq, Repr

structure RunDb where
  tenants : List Auth.Tenant := []
  runs : List Run := []
  uploads : List Upload := []
  deriving DecidableEq, Repr

/-! ### Object storage -/

abbrev Bytes := List UInt8

/-- The bucket: the bytes under each key. -/
structure Objects where
  content : String → Option Bytes := fun _ => none

/-- `build_storage_path`. -/
def buildStoragePath (tenantId runId subfolder filename : String) : String :=
  "/" ++ tenantId ++ "/runs/" ++ runId ++ "/" ++ subfolder ++ "/" ++ filename

/-- `_normalize_key`: `key.lstrip("/")`. -/
def normalizeKey (key : String) : String := String.ofList (key.toList.dropWhile (· = '/'))

namespace Objects

/-- The object under a storage path. -/
def read (objects : Objects) (path : String) : Option Bytes :=
  objects.content (normalizeKey path)

def put (objects : Objects) (path : String) (body : Bytes) : Objects :=
  ⟨Function.update objects.content (normalizeKey path) (some body)⟩

def delete (objects : Objects) (path : String) : Objects :=
  ⟨Function.update objects.content (normalizeKey path) none⟩

/-- Deleting several objects one after the other. -/
def deleteAll (objects : Objects) (paths : List String) : Objects := paths.foldl delete objects

variable (objects : Objects) (path q : String) (body : Bytes)

lemma read_put :
    (objects.put path body).read q
      = if normalizeKey q = normalizeKey path then some body else objects.read q := by
  simp [read, put, Function.update_apply]

lemma read_delete :
    (objects.delete path).read q
      = if normalizeKey q = normalizeKey path then none else objects.read q := by
  simp [read, delete, Function.update_apply]

lemma read_deleteAll (paths : List String) :
    (objects.deleteAll paths).read q
      = if normalizeKey q ∈ paths.map normalizeKey then none else objects.read q := by
  induction paths generalizing objects with
  | nil => simp [deleteAll]
  | cons p ps ih =>
      have hstep : objects.deleteAll (p :: ps) = (objects.delete p).deleteAll ps := rfl
      rw [hstep, ih, read_delete]
      by_cases hp : normalizeKey q = normalizeKey p
      · simp [hp]
      · simp [hp]

end Objects

/-! ### Requests -/

/-- What a service body works on: the database session and the bucket. -/
structure RunSession where
  db : RunDb
  objects : Objects

abbrev RunRequest (α : Type) := Tx ECLException RunSession α

/-- `get_db` around a body: on an exception the tables are as before, the bucket is not. -/
def getDb {α : Type} (body : RunRequest α) (s : RunSession) :
    Except ECLException α × RunSession :=
  body.commitWith (fun before raised => { raised with db := before.db }) s

def runNotFound : ECLException :=
  { code := "RESOURCE_NOT_FOUND", detail := "Run not found.", statusCode := 404 }

def storageUnavailable : ECLException :=
  { code := "STORAGE_UNAVAILABLE"
    detail := "File storage is unavailable. Please try again or contact support."
    statusCode := 503 }

namespace RunDb

/-- The query of `_get_run`. -/
def findRun (db : RunDb) (tenantId runId : String) : Option Run :=
  db.runs.find? fun r => r.id = runId ∧ r.tenantId = tenantId ∧ r.deletedAt = none

/-- The query of `delete_upload`. -/
def findUpload (db : RunDb) (runId uploadId : String) : Option Upload :=
  db.uploads.find? fun u => u.id = uploadId ∧ u.runId = runId

/-- `_load_uploads`: the uploads of a run by creation time. -/
def loadUploads (db : RunDb) (runId : String) : List Upload :=
  (db.uploads.filter (·.runId = runId)).mergeSort fun a b => decide (a.createdAt ≤ b.createdAt)

/-- Write back one run row. -/
def updateRun (db : RunDb) (runId : String) (f : Run → Run) : RunDb :=
  { db with runs := db.runs.map fun r => if r.id = runId then f r else r }

@[simp] lemma uploads_updateRun (db : RunDb) (runId : String) (f : Run → Run) :
    (db.updateRun runId f).uploads = db.uploads := rfl

lemma mem_loadUploads {db : RunDb} {runId : String} {u : Upload} :
    u ∈ db.loadUploads runId ↔ u ∈ db.uploads ∧ u.runId = runId := by
  rw [loadUploads, List.mem_mergeSort]
  simp

end RunDb

/-- `_get_run`. -/
def getRun (tenantId runId : String) : RunRequest Run := do
  let s ← get
  match s.db.findRun tenantId runId with
  | none => throw runNotFound
  | some run => return run

/-- `_get_tenant`. -/
def getTenant (tenantId : String) : RunRequest Auth.Tenant := do
  let s ← get
  match s.db.tenants.find? fun t => t.id = tenantId ∧ t.deletedAt = none with
  | none =>
      throw { code := "RESOURCE_NOT_FOUND", detail := "Workspace not found.", statusCode := 404 }
  | some tenant => return tenant

/-- `delete_object`. -/
def deleteObject (path : String) : RunRequest Unit :=
  modify fun s => { s with objects := s.objects.delete path }

/-- `download_bytes`. -/
def downloadBytes (path : String) : RunRequest Bytes := do
  let s ← get
  match s.objects.read path with
  | none => throw storageUnavailable
  | some content => return content

/-- `_get_run` returns a row of the table and changes nothing. -/
lemma exec_getRun {tenantId runId : String} {s t : RunSession} {run : Run}
    (h : Tx.exec (getRun tenantId runId) s = (.ok run, t)) :
    t = s ∧ s.db.findRun tenantId runId = some run := by
  simp only [getRun, Tx.exec_get_bind] at h
  split at h
  · simp at h
  · rename_i r hr
    simp only [Tx.exec_pure, Prod.mk.injEq, Except.ok.injEq] at h
    exact ⟨h.2.symm, h.1 ▸ hr⟩

lemma exec_getTenant {tenantId : String} {s t : RunSession} {tenant : Auth.Tenant}
    (h : Tx.exec (getTenant tenantId) s = (.ok tenant, t)) : t = s := by
  simp only [getTenant, Tx.exec_get_bind] at h
  split at h
  · simp at h
  · simp only [Tx.exec_pure, Prod.mk.injEq] at h
    exact h.2.symm

lemma exec_downloadBytes {path : String} {s t : RunSession} {content : Bytes}
    (h : Tx.exec (downloadBytes path) s = (.ok content, t)) :
    t = s ∧ s.objects.read path = some content := by
  simp only [downloadBytes, Tx.exec_get_bind] at h
  split at h
  · simp at h
  · rename_i c hc
    simp only [Tx.exec_pure, Prod.mk.injEq, Except.ok.injEq] at h
    exact ⟨h.2.symm, h.1 ▸ hc⟩

end EclServer.Runs
