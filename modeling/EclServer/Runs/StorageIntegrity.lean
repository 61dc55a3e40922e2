import EclServer.Runs.Uploads
import EclServer.Library.Run

/-!
Do the upload rows and the bucket agree?

* `StorageIntegrity`: every upload row names an object whose SHA-256 is the row's.
* `StorageAction`, `storageStep`: the upload services in any order, on any runs, with other
  changes to the run rows in between.
* `KeepsOtherObjects`: the request leaves the objects of all other rows alone. Keys are made
  of run, kind and file name, and a rerun shares the keys of its source, so a request can
  reach the object of another row.
* `integrity_uploadFile_iff`, `integrity_deleteUpload_iff`, `integrity_rerunRun`,
  `integrity_deleteRun`: one request.
* `storage_integrity_iff`: from a state with integrity, the runs that keep it are exactly
  those whose requests all leave the objects of other rows alone.
-/

namespace EclServer.Runs

open EclServer.Library

/-- Every upload row names an object with the row's digest. -/
def StorageIntegrity (env : UploadEnv) (s : RunSession) : Prop :=
  ∀ u ∈ s.db.uploads, ∃ body, s.objects.read u.storagePath = some body ∧ env.sha256 body = u.sha256

/-- A request of the upload services, or any other change to the run rows. -/
inductive StorageAction where
  | uploadFile (now : Time) (newId tenantId runId : String) (req : UploadRequest)
  | deleteUpload (tenantId runId uploadId : String)
  | rerunRun (now : Time) (newRunId : String) (copyId : String → String)
      (tenantId runId userId : String) (name : Option String)
  | deleteRun (now : Time) (tenantId runId userId : String)
  | changeRuns (runs : List Run)

variable (env : UploadEnv)

/-- The answer of a request, without its value, and the state after it. -/
def storageRequest (s : RunSession) : StorageAction → Except ECLException Unit × RunSession
  | .uploadFile now newId tenantId runId req =>
      let r := getDb (uploadFile env now newId tenantId runId req) s
      (r.1.map fun _ => (), r.2)
  | .deleteUpload tenantId runId uploadId => getDb (deleteUpload tenantId runId uploadId) s
  | .rerunRun now newRunId copyId tenantId runId userId name =>
      let r := getDb (rerunRun now newRunId copyId tenantId runId userId name) s
      (r.1.map fun _ => (), r.2)
  | .deleteRun now tenantId runId userId => getDb (deleteRun now tenantId runId userId) s
  | .changeRuns runs => (.ok (), { s with db := { s.db with runs := runs } })

def storageStep (s : RunSession) (a : StorageAction) : RunSession := (storageRequest env s a).2

/-- The request returns. -/
def Succeeds (s : RunSession) (a : StorageAction) : Prop := (storageRequest env s a).1 = .ok ()

/-- The request leaves the objects of the other rows alone: an upload neither puts different
bytes under the key of a row that stays nor deletes such a row's object with the rows it
replaces, and a deletion takes no object another row names. -/
def KeepsOtherObjects (s : RunSession) : StorageAction → Prop
  | .uploadFile _ _ tenantId runId req =>
      ∀ kind ∈ UploadKind.ofString? req.kind, ∀ u ∈ remainingUploads s.db runId kind,
        if normalizeKey u.storagePath = normalizeKey (uploadPath tenantId runId kind req.filename)
        then env.sha256 req.body = u.sha256
        else ∀ old ∈ replacedUploads s.db runId kind,
          normalizeKey u.storagePath ≠ normalizeKey old.storagePath
  | .deleteUpload _ runId uploadId =>
      ∀ upload ∈ s.db.findUpload runId uploadId, ∀ u ∈ s.db.uploads, u.id ≠ uploadId →
        normalizeKey u.storagePath ≠ normalizeKey upload.storagePath
  | .rerunRun .. => True
  | .deleteRun .. => True
  | .changeRuns _ => True

/-! ### One request -/

section

lemma exists_of_map_eq_ok {α : Type} {r : Except ECLException α}
    (h : (r.map fun _ => ()) = .ok ()) : ∃ a, r = .ok a := by
  cases r with
  | error e => simp [Except.map] at h
  | ok a => exact ⟨a, rfl⟩

variable {env} {s : RunSession} {tenantId runId : String}

/-- After an upload that returns, integrity holds exactly when it left the objects of the
rows that stay alone. -/
lemma integrity_uploadFile_iff (h : StorageIntegrity env s) {now : Time} {newId : String}
    {req : UploadRequest} {out : UploadOut} {t : RunSession}
    (hok : Tx.exec (uploadFile env now newId tenantId runId req) s = (.ok out, t)) :
    StorageIntegrity env t
      ↔ KeepsOtherObjects env s (.uploadFile now newId tenantId runId req) := by
  obtain ⟨kind, row, hkind, -, -, hpath, hsha, huploads, hobjects⟩ := exec_uploadFile_ok hok
  simp only [KeepsOtherObjects, hkind, Option.mem_def, Option.some.injEq, forall_eq']
  have hrow : ∃ body, t.objects.read row.storagePath = some body ∧ env.sha256 body = row.sha256 := by
    refine ⟨req.body, ?_, hsha.symm⟩
    rw [hobjects, Objects.read_put, hpath, if_pos rfl]
  have hstay : ∀ u ∈ remainingUploads s.db runId kind, u ∈ s.db.uploads := by
    intro u hu
    rw [remainingUploads] at hu
    split at hu
    · exact hu
    · exact List.mem_of_mem_filter hu
  rw [StorageIntegrity, huploads]
  simp only [List.forall_mem_append, List.forall_mem_singleton, hrow, and_true]
  refine forall₂_congr fun u hu => ?_
  obtain ⟨body, hbody, hdigest⟩ := h u (hstay u hu)
  rw [hobjects, Objects.read_put, Objects.read_deleteAll, hbody]
  split
  · simp
  · simp only [List.map_map, List.mem_map, Function.comp_apply]
    split
    · rename_i hold
      obtain ⟨old, hmem, hkey⟩ := hold
      simp only [false_and, exists_false, false_iff, not_forall, reduceCtorEq]
      exact ⟨old, hmem, fun hne => hne hkey.symm⟩
    · rename_i hold
      simp only [Option.some.injEq, exists_eq_left', hdigest, true_iff]
      exact fun old hmem hkey => hold ⟨old, hmem, hkey.symm⟩

/-- After a deletion that returns, integrity holds exactly when no other row names the
deleted object. -/
lemma integrity_deleteUpload_iff (h : StorageIntegrity env s) {uploadId : String}
    {t : RunSession} (hok : Tx.exec (deleteUpload tenantId runId uploadId) s = (.ok (), t)) :
    StorageIntegrity env t
      ↔ KeepsOtherObjects env s (.deleteUpload tenantId runId uploadId) := by
  obtain ⟨upload, hfind, huploads, hobjects⟩ := exec_deleteUpload_ok hok
  simp only [KeepsOtherObjects, hfind, Option.mem_def, Option.some.injEq, forall_eq']
  rw [StorageIntegrity, huploads]
  simp only [List.mem_filter, decide_eq_true_eq, and_imp]
  refine forall₃_congr fun u hu _ => ?_
  obtain ⟨body, hbody, hdigest⟩ := h u hu
  rw [hobjects, Objects.read_delete, hbody]
  split
  · rename_i hkey
    simp [hkey]
  · rename_i hkey
    simp [hkey, hdigest]

/-- Copies share the objects of rows that have them. -/
lemma integrity_rerunRun (h : StorageIntegrity env s) {now : Time} {newRunId : String}
    {copyId : String → String} {userId : String} {name : Option String} {run : Run}
    {t : RunSession}
    (hok : Tx.exec (rerunRun now newRunId copyId tenantId runId userId name) s = (.ok run, t)) :
    StorageIntegrity env t := by
  obtain ⟨hobjects, huploads, -⟩ := exec_rerunRun_ok hok
  rw [StorageIntegrity, huploads, hobjects]
  simp only [List.forall_mem_append, List.forall_mem_map]
  refine ⟨h, fun src hsrc => ?_⟩
  exact h src (RunDb.mem_loadUploads.mp hsrc).1

lemma integrity_deleteRun (h : StorageIntegrity env s) {now : Time} {userId : String}
    {t : RunSession} (hok : Tx.exec (deleteRun now tenantId runId userId) s = (.ok (), t)) :
    StorageIntegrity env t := by
  obtain ⟨huploads, hobjects⟩ := exec_deleteRun_ok hok
  rw [StorageIntegrity, huploads, hobjects]
  exact h

/-- **One request**: where it returns, it keeps integrity exactly when it leaves the objects
of the other rows alone. -/
theorem integrity_storageStep_iff (h : StorageIntegrity env s) (a : StorageAction)
    (hok : Succeeds env s a) :
    StorageIntegrity env (storageStep env s a) ↔ KeepsOtherObjects env s a := by
  cases a with
  | uploadFile now newId tenantId runId req =>
      obtain ⟨out, hout⟩ := exists_of_map_eq_ok hok
      exact integrity_uploadFile_iff h (Tx.exec_of_commitWith_ok hout)
  | deleteUpload tenantId runId uploadId =>
      exact integrity_deleteUpload_iff h (Tx.exec_of_commitWith_ok hok)
  | rerunRun now newRunId copyId tenantId runId userId name =>
      obtain ⟨run, hrun⟩ := exists_of_map_eq_ok hok
      exact iff_of_true (integrity_rerunRun h (Tx.exec_of_commitWith_ok hrun)) trivial
  | deleteRun now tenantId runId userId =>
      exact iff_of_true (integrity_deleteRun h (Tx.exec_of_commitWith_ok hok)) trivial
  | changeRuns runs => exact iff_of_true h trivial

end

/-! ### Sequences of requests -/

/-- **Storage integrity**: along a sequence of requests that all return, every state has integrity
exactly when every request leaves the objects of the other rows alone. Two files of a run that have
one kind and one name have one path, and the later takes the place of the earlier. -/
theorem storage_integrity_iff {s : RunSession} (h : StorageIntegrity env s)
    {actions : List StorageAction} (hok : EachStep (storageStep env) (Succeeds env) s actions) :
    Always (storageStep env) (StorageIntegrity env) s actions
      ↔ EachStep (storageStep env) (KeepsOtherObjects env) s actions :=
  always_iff_eachStep (P := StorageIntegrity env) (G := KeepsOtherObjects env)
    (fun _ a hs ha => integrity_storageStep_iff hs a ha) h hok

/-! ### Two PD files of one name -/

/-- Library functions for concrete files: the digest spells the bytes out, every file is a
workbook of one sheet and one row. -/
def sampleEnv : UploadEnv where
  sha256 body := String.ofList ("sha:".toList ++ body.map fun b => Char.ofNat (65 + b.toNat))
  zipNames _ := some ["xl/workbook.xml"]
  parseExcel _ := .ok (1, 1)

def sampleSession : RunSession :=
  { db := { runs := [{ id := "r1", tenantId := "t1", createdByUserId := "u1", name := "Q1" }] }
    objects := {} }

/-- A PD file called `pd.xlsx`. -/
def samplePdUpload (now : Time) (newId : String) (body : Bytes) : StorageAction :=
  .uploadFile now newId "t1" "r1"
    { kind := "PD", filename := "pd.xlsx", body := body, contentType := "application/octet-stream" }

theorem storage_integrity_iff_sample :
    StorageIntegrity sampleEnv sampleSession ∧
      EachStep (storageStep sampleEnv) (Succeeds sampleEnv) sampleSession
        [samplePdUpload 0 "f1" [1]] ∧
      (Always (storageStep sampleEnv) (StorageIntegrity sampleEnv) sampleSession
          [samplePdUpload 0 "f1" [1]]
        ↔ EachStep (storageStep sampleEnv) (KeepsOtherObjects sampleEnv) sampleSession
          [samplePdUpload 0 "f1" [1]]) := by
  have hinit : StorageIntegrity sampleEnv sampleSession := by
    intro u hu
    simp [sampleSession] at hu
  have hok : EachStep (storageStep sampleEnv) (Succeeds sampleEnv) sampleSession
      [samplePdUpload 0 "f1" [1]] := ⟨rfl, trivial⟩
  exact ⟨hinit, hok, storage_integrity_iff sampleEnv hinit hok⟩

/-- The second file overwrites the object of the first, whose row keeps its digest. -/
theorem storage_integrity_fails :
    StorageIntegrity sampleEnv sampleSession ∧
      EachStep (storageStep sampleEnv) (Succeeds sampleEnv) sampleSession
        [samplePdUpload 0 "f1" [1], samplePdUpload 1 "f2" [2]] ∧
      ¬ Always (storageStep sampleEnv) (StorageIntegrity sampleEnv) sampleSession
        [samplePdUpload 0 "f1" [1], samplePdUpload 1 "f2" [2]] := by
  refine ⟨fun u hu => by simp [sampleSession] at hu, ⟨rfl, rfl, trivial⟩, fun h => ?_⟩
  have hfinal := h _ List.prefix_rfl
  have hrow : ∃ u ∈ (run (storageStep sampleEnv) sampleSession
      [samplePdUpload 0 "f1" [1], samplePdUpload 1 "f2" [2]]).db.uploads,
      u.storagePath = "/t1/runs/r1/pd/pd.xlsx" ∧ u.sha256 = "sha:B" := by decide
  obtain ⟨u, hu, hpath, hsha⟩ := hrow
  obtain ⟨body, hbody, hdigest⟩ := hfinal u hu
  have hread : (run (storageStep sampleEnv) sampleSession
      [samplePdUpload 0 "f1" [1], samplePdUpload 1 "f2" [2]]).objects.read
        "/t1/runs/r1/pd/pd.xlsx" = some [2] := by decide
  rw [hpath, hread, Option.some.injEq] at hbody
  subst hbody
  rw [hsha] at hdigest
  revert hdigest
  decide

end EclServer.Runs
