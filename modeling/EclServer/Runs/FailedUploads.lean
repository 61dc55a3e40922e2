import EclServer.Runs.StorageIntegrity

/-!
What an upload that fails leaves behind.

* `Admitted`, `failedObjects`: a request that gets past the checks of run and kind has replaced
  the objects of its kind and put its own before the checks of the file.
* `getDb_uploadFile_error`: the state after a request that raises.
* `SparesObjects`, `failed_upload_iff`: the objects of the upload rows stay exactly where none of
  them is replaced or put over. `sparesObjects_iff`: where all rows have their objects.
-/

namespace EclServer.Runs

open EclServer.Library

variable {env : UploadEnv} {now : Time} {newId tenantId runId : String} {req : UploadRequest}
  {s t : RunSession} {e : ECLException}

/-- The run takes files, and the kind is one. -/
def Admitted (s : RunSession) (tenantId runId : String) (req : UploadRequest)
    (kind : UploadKind) : Prop :=
  ∃ run, s.db.findRun tenantId runId = some run ∧ run.status ∈ [.draft, .failed] ∧
    UploadKind.ofString? req.kind = some kind

/-- The bucket where the checks of the file fail; a file that is too large is taken out again. -/
def failedObjects (env : UploadEnv) (s : RunSession) (tenantId runId : String)
    (req : UploadRequest) (kind : UploadKind) : Objects :=
  let path := uploadPath tenantId runId kind req.filename
  let put := (s.objects.deleteAll ((replacedUploads s.db runId kind).map (·.storagePath))).put
    path req.body
  if env.maxUploadBytes < req.body.length then put.delete path else put

/-- The checks of a file read only. -/
lemma exec_assertUploadSafe_snd (content : Bytes) (contentType : String) (s : RunSession) :
    (Tx.exec (assertUploadSafe env content contentType) s).2 = s := by
  rw [assertUploadSafe, Tx.exec_ite]
  split
  · rfl
  · split
    · rfl
    · rw [Tx.exec_ite]
      split <;> rfl

/-- The bucket where the checks of a file that is in it raise. -/
lemma objects_checks {path : String} {body : Bytes} {contentType : String}
    {rest : ℕ × ℕ → RunRequest UploadOut} (hrest : ∀ counts s, ∃ out t,
      Tx.exec (rest counts) s = (.ok out, t)) (hbody : s.objects.read path = some body)
    (h : Tx.exec (do
      let content ← downloadBytes path
      assertUploadSafe env content contentType
      let counts ← liftM (env.parseExcel content)
      rest counts) s = (.error e, t)) : t = s := by
  have hdownload : Tx.exec (downloadBytes path) s = (.ok body, s) := by
    rw [downloadBytes, Tx.exec_get_bind, hbody]
    rfl
  rw [Tx.exec_bind_ok hdownload] at h
  rcases Tx.exec_bind_eq_error.mp h with h | ⟨_, s', hsafe, h⟩
  · have hstate := @exec_assertUploadSafe_snd env body contentType s
    rw [h] at hstate
    exact hstate
  · rw [exec_assertUploadSafe hsafe] at h
    rcases Tx.exec_bind_eq_error.mp h with h | ⟨counts, s', hparse, h⟩
    · rw [Tx.exec_liftM, Prod.mk.injEq] at h
      exact h.2.symm
    · obtain ⟨out, t', hout⟩ := hrest counts s'
      rw [hout] at h
      cases (Prod.mk.injEq _ _ _ _ ▸ h : _ ∧ _).1

/-- The bucket of a request that raises: as it was, or as the checks of the file found it. -/
lemma exec_uploadFile_error
    (h : Tx.exec (uploadFile env now newId tenantId runId req) s = (.error e, t)) :
    (∀ kind, ¬ Admitted s tenantId runId req kind) ∧ t.objects = s.objects ∨
      ∃ kind, Admitted s tenantId runId req kind ∧
        t.objects = failedObjects env s tenantId runId req kind := by
  rw [uploadFile, getRun, bind_assoc, Tx.exec_get_bind] at h
  cases hrun : s.db.findRun tenantId runId with
  | none =>
      simp only [hrun, Tx.exec_throw_bind, Prod.mk.injEq] at h
      refine Or.inl ⟨?_, by rw [h.2]⟩
      rintro kind ⟨run, hfound, -⟩
      rw [hrun] at hfound
      cases hfound
  | some run =>
      simp only [hrun, Tx.exec_pure_bind, Tx.exec_ite] at h
      split at h
      · rename_i hstatus
        simp only [Tx.exec_throw, Prod.mk.injEq] at h
        refine Or.inl ⟨?_, by rw [h.2]⟩
        rintro kind ⟨run', hfound, hallowed, -⟩
        obtain rfl := Option.some.inj (hrun.symm.trans hfound)
        exact hstatus hallowed
      rename_i hstatus
      split at h
      · rename_i hkind
        simp only [Tx.exec_throw, Prod.mk.injEq] at h
        refine Or.inl ⟨?_, by rw [h.2]⟩
        rintro kind ⟨-, -, -, hsome⟩
        rw [hkind] at hsome
        cases hsome
      rename_i kind hkind
      refine Or.inr ⟨kind, ⟨run, hrun, not_not.mp hstatus, hkind⟩, ?_⟩
      -- from here on the bytes of the old file are gone, whatever stops the request
      rw [replaceExisting, Tx.exec_modify_bind] at h
      simp only [uploadStream, bind_assoc, pure_bind, Tx.exec_modify_bind] at h
      rw [Tx.exec_ite] at h
      rw [failedObjects]
      split at h
      · rename_i hsize
        simp only [deleteObject, Tx.exec_modify_bind, Tx.exec_throw, Prod.mk.injEq] at h
        rw [if_pos hsize, ← h.2]
      · rename_i hsize
        rw [if_neg hsize, objects_checks (fun counts s' => ⟨_, _, rfl⟩)
          ((Objects.read_put _ _ _ req.body).trans (if_pos rfl)) h]

/-- The state after a request that raises: the tables are as before. -/
lemma getDb_uploadFile_error
    (h : getDb (uploadFile env now newId tenantId runId req) s = (.error e, t)) :
    t.db = s.db ∧ ((∀ kind, ¬ Admitted s tenantId runId req kind) ∧ t.objects = s.objects ∨
      ∃ kind, Admitted s tenantId runId req kind ∧
        t.objects = failedObjects env s tenantId runId req kind) := by
  obtain ⟨raised, hraised, rfl⟩ := Tx.exec_of_commitWith_error h
  have hobjects := exec_uploadFile_error hraised
  exact ⟨rfl, hobjects⟩

/-- What the bucket has under a key after the checks of a file have failed. -/
lemma read_failedObjects (kind : UploadKind) (path : String) :
    (failedObjects env s tenantId runId req kind).read path
      = if normalizeKey path = normalizeKey (uploadPath tenantId runId kind req.filename) then
          if env.maxUploadBytes < req.body.length then none else some req.body
        else if ∃ old ∈ replacedUploads s.db runId kind,
            normalizeKey path = normalizeKey old.storagePath then none
        else s.objects.read path := by
  have hreplaced : normalizeKey path
      ∈ ((replacedUploads s.db runId kind).map (·.storagePath)).map normalizeKey
        ↔ ∃ old ∈ replacedUploads s.db runId kind,
          normalizeKey path = normalizeKey old.storagePath := by
    simp only [List.map_map, List.mem_map, Function.comp_apply, eq_comm]
  rw [failedObjects]
  split
  · rw [Objects.read_delete, Objects.read_put, Objects.read_deleteAll]
    simp only [hreplaced]
    split_ifs <;> rfl
  · rw [Objects.read_put, Objects.read_deleteAll]
    simp only [hreplaced]

/-- **A failed upload changes nothing**: the upload rows and the bytes under their keys are those
from before. -/
def UploadsKept (s t : RunSession) : Prop :=
  t.db.uploads = s.db.uploads ∧
    ∀ u ∈ s.db.uploads, t.objects.read u.storagePath = s.objects.read u.storagePath

/-- The request takes no bytes from the row: under the key of the file it leaves those that are
there, and where it replaces a row of the key there are none. -/
structure SparesRow (env : UploadEnv) (s : RunSession) (tenantId runId : String)
    (req : UploadRequest) (kind : UploadKind) (u : Upload) : Prop where
  own : normalizeKey u.storagePath = normalizeKey (uploadPath tenantId runId kind req.filename) →
    s.objects.read u.storagePath
      = if env.maxUploadBytes < req.body.length then none else some req.body
  replaced : normalizeKey u.storagePath
      ≠ normalizeKey (uploadPath tenantId runId kind req.filename) →
    (∃ old ∈ replacedUploads s.db runId kind,
      normalizeKey u.storagePath = normalizeKey old.storagePath) →
    s.objects.read u.storagePath = none

/-- The request, where it gets as far as the bucket, takes no bytes from any upload row. -/
def SparesObjects (env : UploadEnv) (s : RunSession) (tenantId runId : String)
    (req : UploadRequest) : Prop :=
  ∀ kind, Admitted s tenantId runId req kind →
    ∀ u ∈ s.db.uploads, SparesRow env s tenantId runId req kind u

/-- One kind is admitted at most. -/
lemma Admitted.kind_eq {kind kind' : UploadKind} (h : Admitted s tenantId runId req kind)
    (h' : Admitted s tenantId runId req kind') : kind = kind' := by
  obtain ⟨_, -, -, hkind⟩ := h
  obtain ⟨_, -, -, hkind'⟩ := h'
  exact Option.some.inj (hkind.symm.trans hkind')

/-- The bytes of one row after the checks of the file have failed. -/
lemma read_failedObjects_iff (kind : UploadKind) (u : Upload) :
    (failedObjects env s tenantId runId req kind).read u.storagePath
        = s.objects.read u.storagePath ↔ SparesRow env s tenantId runId req kind u := by
  rw [read_failedObjects]
  by_cases hkey : normalizeKey u.storagePath
      = normalizeKey (uploadPath tenantId runId kind req.filename)
  · rw [if_pos hkey, eq_comm]
    exact ⟨fun hread => ⟨fun _ => hread, fun hne => absurd hkey hne⟩, fun h => h.own hkey⟩
  · rw [if_neg hkey]
    by_cases hold : ∃ old ∈ replacedUploads s.db runId kind,
        normalizeKey u.storagePath = normalizeKey old.storagePath
    · rw [if_pos hold, eq_comm]
      exact ⟨fun hread => ⟨fun heq => absurd heq hkey, fun _ _ => hread⟩,
        fun h => h.replaced hkey hold⟩
    · rw [if_neg hold]
      exact ⟨fun _ => ⟨fun heq => absurd heq hkey, fun _ hsome => absurd hsome hold⟩, fun _ => rfl⟩

/-- **When a failed upload changes nothing**: exactly where it takes no bytes from any row. The old
objects are deleted and the new one is put before the file is checked; the rollback brings the rows
back, and no objects. -/
theorem failed_upload_iff
    (h : getDb (uploadFile env now newId tenantId runId req) s = (.error e, t)) :
    UploadsKept s t ↔ SparesObjects env s tenantId runId req := by
  obtain ⟨hdb, hobjects⟩ := getDb_uploadFile_error h
  have huploads : t.db.uploads = s.db.uploads := by rw [hdb]
  rcases hobjects with ⟨hnone, hobjects⟩ | ⟨kind, hkind, hobjects⟩
  · -- refused before anything was written
    refine ⟨fun _ kind hkind => absurd hkind (hnone kind), fun _ => ⟨huploads, fun u _ => ?_⟩⟩
    rw [hobjects]
  · constructor
    · rintro ⟨-, hkept⟩ kind' hkind' u hu
      obtain rfl := hkind.kind_eq hkind'
      have hread := hkept u hu
      rw [hobjects] at hread
      exact (read_failedObjects_iff kind u).mp hread
    · intro hspares
      refine ⟨huploads, fun u hu => ?_⟩
      rw [hobjects]
      exact (read_failedObjects_iff kind u).mpr (hspares kind hkind u hu)

/-- Where every row has its object, a request takes none exactly where it replaces no row of
another key, and no row has the key of the file, unless the file has its bytes. -/
lemma sparesObjects_iff (hstored : ∀ u ∈ s.db.uploads, s.objects.read u.storagePath ≠ none) :
    SparesObjects env s tenantId runId req ↔
      ∀ kind, Admitted s tenantId runId req kind →
        (∀ old ∈ replacedUploads s.db runId kind, normalizeKey old.storagePath
            = normalizeKey (uploadPath tenantId runId kind req.filename)) ∧
          ∀ u ∈ s.db.uploads, normalizeKey u.storagePath
              = normalizeKey (uploadPath tenantId runId kind req.filename) →
            req.body.length ≤ env.maxUploadBytes ∧
              s.objects.read u.storagePath = some req.body := by
  refine forall₂_congr fun kind _ => ⟨fun h => ⟨fun old hold => ?_, fun u hu hkey => ?_⟩, ?_⟩
  · by_contra hne
    have hmem : old ∈ s.db.uploads := by
      rw [replacedUploads] at hold
      split at hold
      · cases hold
      · exact List.mem_of_mem_filter hold
    exact hstored old hmem ((h old hmem).replaced hne ⟨old, hold, rfl⟩)
  · have hread := (h u hu).own hkey
    by_cases hsize : env.maxUploadBytes < req.body.length
    · rw [if_pos hsize] at hread
      exact absurd hread (hstored u hu)
    · rw [if_neg hsize] at hread
      exact ⟨not_lt.mp hsize, hread⟩
  · rintro ⟨hreplaced, hown⟩ u hu
    refine ⟨fun hkey => ?_, fun hne => ?_⟩
    · obtain ⟨hsize, hread⟩ := hown u hu hkey
      rw [if_neg (not_lt.mpr hsize), hread]
    · rintro ⟨old, hold, hsame⟩
      exact absurd (hsame.trans (hreplaced old hold)) hne

/-! ### A file that is no workbook -/

/-- A draft run with an LGD file, in a bucket that has it. -/
def lgdUploadSession : RunSession where
  db := {
    runs := [{ id := "r1", tenantId := "t1", createdByUserId := "u1", name := "Q1" }]
    uploads := [{ id := "f1", runId := "r1", tenantId := "t1", kind := .lgd
                  originalFilename := "lgd.xlsx", sha256 := "sha:B"
                  storagePath := "/t1/runs/r1/lgd/lgd.xlsx", fileSizeBytes := 1, createdAt := 0 }] }
  objects := Objects.put {} "/t1/runs/r1/lgd/lgd.xlsx" [1]

/-- Library functions of a file that is no zip archive. -/
def noZipEnv : UploadEnv := { sampleEnv with zipNames := fun _ => none }

/-- A file of notes, sent as the LGD workbook. -/
def notesUpload : UploadRequest :=
  { kind := "LGD", filename := "notes.xlsx", body := [0], contentType := "application/octet-stream" }

/-- The same for the PD, which has no file yet. -/
def pdNotesUpload : UploadRequest := { notesUpload with kind := "PD" }

/-- A PD file that is no workbook takes nothing. -/
theorem failed_upload_sample :
    (getDb (uploadFile noZipEnv 1 "f2" "t1" "r1" pdNotesUpload) lgdUploadSession).1
        = .error invalidFile ∧
      UploadsKept lgdUploadSession
        (getDb (uploadFile noZipEnv 1 "f2" "t1" "r1" pdNotesUpload) lgdUploadSession).2 := by
  have herror : (getDb (uploadFile noZipEnv 1 "f2" "t1" "r1" pdNotesUpload) lgdUploadSession).1
      = .error invalidFile := rfl
  refine ⟨herror, (failed_upload_iff (Prod.ext herror rfl)).mpr ?_⟩
  rintro kind ⟨-, -, -, hkind⟩ u hu
  obtain rfl : UploadKind.pd = kind := Option.some.inj hkind
  obtain rfl := List.mem_singleton.mp hu
  refine ⟨fun hkey => absurd hkey (by decide), fun _ => ?_⟩
  rintro ⟨old, hold, -⟩
  cases hold

/-- **The file that is replaced is lost**: the upload is refused, the row of the old file is there
again, and its object is not. -/
theorem failed_upload_loses_file :
    (getDb (uploadFile noZipEnv 1 "f2" "t1" "r1" notesUpload) lgdUploadSession).1
        = .error invalidFile ∧
      (getDb (uploadFile noZipEnv 1 "f2" "t1" "r1" notesUpload) lgdUploadSession).2.db
        = lgdUploadSession.db ∧
      lgdUploadSession.objects.read "/t1/runs/r1/lgd/lgd.xlsx" = some [1] ∧
      (getDb (uploadFile noZipEnv 1 "f2" "t1" "r1" notesUpload) lgdUploadSession).2.objects.read
        "/t1/runs/r1/lgd/lgd.xlsx" = none ∧
      ¬ UploadsKept lgdUploadSession
        (getDb (uploadFile noZipEnv 1 "f2" "t1" "r1" notesUpload) lgdUploadSession).2 := by
  have hbefore : lgdUploadSession.objects.read "/t1/runs/r1/lgd/lgd.xlsx" = some [1] := by decide
  have hafter : (getDb (uploadFile noZipEnv 1 "f2" "t1" "r1" notesUpload)
      lgdUploadSession).2.objects.read "/t1/runs/r1/lgd/lgd.xlsx" = none := by decide
  refine ⟨rfl, rfl, hbefore, hafter, fun h => ?_⟩
  have hkept := h.2 _ List.mem_cons_self
  rw [hafter, hbefore] at hkept
  cases hkept

end EclServer.Runs
