import EclServer.Runs.Model

/-!
What the services and the compute tasks write into one run row.

* `executeRow`, `revertRow`, `recoverRow`: `execute_run`, `revert_run_after_dispatch_failure`
  and `recover_stuck_runs` of one row; `executeRun` is the request around `executeRow`.
* `atomicStageUpdate` and the four updates of `app/tasks/compute_tasks.py` made of it. They
  name the row by its id only: whatever its status, they write.
-/

namespace EclServer.Runs

open EclServer.Library

/-! ### `execute_run` -/

/-- `_ACTIVE_RUN_STATUSES`. -/
def activeRunStatuses : List RunStatus := [.queued, .pdRunning, .lgdRunning, .eadRunning]

structure ExecuteRunOut where
  runId : String
  status : RunStatus
  dispatchTask : Bool
  deriving DecidableEq, Repr

def runNotExecutable : ECLException :=
  { code := "RUN_NOT_EXECUTABLE", detail := "Run is not in an executable state."
    statusCode := 409 }

/-- The kinds a run needs, in the order `sorted` lists them. -/
def requiredKinds : List UploadKind := [.ead, .lgd, .pd]

/-- The kinds no upload has. -/
def missingKinds (uploads : List Upload) : List UploadKind :=
  requiredKinds.filter fun k => k ∉ uploads.map (·.kind)

def missingRequiredUploads (missing : List UploadKind) : ECLException :=
  { code := "MISSING_UPLOADS"
    detail := "Missing required uploads: " ++ ", ".intercalate (missing.map (·.value)) ++ "." }

def validationRequired (filename : String) : ECLException :=
  { code := "VALIDATION_REQUIRED"
    detail := "Upload " ++ filename ++ " has not passed validation." }

def warningsNotAccepted : ECLException :=
  { code := "WARNINGS_NOT_ACCEPTED", detail := "Accept validation warnings before executing." }

/-- The body of the loop of `execute_run` over the uploads. -/
def checkUpload (upload : Upload) : Except ECLException Unit :=
  if upload.validationStatus ∉ [some .ok, some .warn] then
    .error (validationRequired upload.originalFilename)
  else if upload.validationStatus = some .warn ∧ upload.warningsAccepted = false then
    .error warningsNotAccepted
  else .ok ()

/-- The upload checks of `execute_run`. -/
def checkUploads (uploads : List Upload) : Except ECLException Unit :=
  if missingKinds uploads ≠ [] then .error (missingRequiredUploads (missingKinds uploads))
  else uploads.forM checkUpload

/-- `_default_engine_progress`. -/
def defaultEngineProgress : EngineProgress :=
  { pd := some {}, lgd := some {}, ead := some {}, ecl := some {} }

/-- The row after it has been queued. -/
def queueRow (now : Time) (run : Run) : Run :=
  { run with
    status := .queued
    engineProgress := some defaultEngineProgress
    failureStage := none
    failureMessage := none
    failureRef := none
    startedAt := none
    finishedAt := none
    totalEcl := none
    totalOutstanding := none
    coverageRatio := none
    updatedAt := now }

/-- `execute_run` of the locked row, with the run's uploads. -/
def executeRow (now : Time) (uploads : List Upload) (run : Run) :
    Except ECLException (ExecuteRunOut × Run) :=
  if run.status ∈ activeRunStatuses then
    .ok ({ runId := run.id, status := run.status, dispatchTask := false }, run)
  else if run.status ∉ [.draft, .failed] then .error runNotExecutable
  else
    match checkUploads uploads with
    | .error e => .error e
    | .ok () =>
        .ok ({ runId := run.id, status := .queued, dispatchTask := true }, queueRow now run)

/-- `execute_run`. -/
def executeRun (now : Time) (tenantId runId : String) : RunRequest ExecuteRunOut := do
  let run ← getRun tenantId runId
  let s ← get
  let (out, row) ← liftM (executeRow now (s.db.loadUploads runId) run)
  modify fun s => { s with db := s.db.updateRun runId fun _ => row }
  return out

/-- `revert_run_after_dispatch_failure` of the locked row. -/
def revertRow (now : Time) (run : Run) : Run :=
  if run.status ≠ .queued then run
  else
    { run with
      status := .draft
      engineProgress := some defaultEngineProgress
      startedAt := none
      updatedAt := now }

/-! ### `recover_stuck_runs` -/

def stuckQueuedMsg : String :=
  "Compute job was not picked up by a worker within the timeout window. Ensure the Celery "
    ++ "worker is running and try again."

def stuckRunningMsg : String :=
  "Compute stage exceeded the maximum allowed runtime and was forcibly stopped. Please re-run."

/-- One of the two bulk updates, on one row. -/
def failStuck (statuses : List RunStatus) (timeout : Time) (stage message : String) (now : Time)
    (run : Run) : Run :=
  if run.status ∈ statuses ∧ run.updatedAt < now - timeout ∧ run.deletedAt = none then
    { run with
      status := .failed
      failureStage := some stage
      failureMessage := some message
      finishedAt := some now
      updatedAt := now }
  else run

/-- `recover_stuck_runs` on one row. -/
def recoverRow (now : Time) (run : Run) : Run :=
  failStuck [.pdRunning, .lgdRunning, .eadRunning] (minutes 45) "timeout" stuckRunningMsg now
    (failStuck [.queued] (minutes 10) "queued" stuckQueuedMsg now run)

/-- The row part of `delete_run`. -/
def deleteRow (now : Time) (userId : String) (run : Run) : Run :=
  { run with deletedAt := some now, deletedByUserId := some userId, status := .deleted
             updatedAt := now }

/-! ### The updates of the compute tasks -/

namespace Stage

/-- The key of `engine_progress`, which is also the `failure_stage` text. -/
def key : Stage → String
  | pd => "pd"
  | lgd => "lgd"
  | ead => "ead"
  | ecl => "ecl"

end Stage

namespace EngineProgress

def get (p : EngineProgress) : Stage → Option StageProgress
  | .pd => p.pd
  | .lgd => p.lgd
  | .ead => p.ead
  | .ecl => p.ecl

/-- `jsonb_set` of one stage. -/
def set (p : EngineProgress) (data : StageProgress) : Stage → EngineProgress
  | .pd => { p with pd := some data }
  | .lgd => { p with lgd := some data }
  | .ead => { p with ead := some data }
  | .ecl => { p with ecl := some data }

end EngineProgress

/-- `_atomic_stage_update`: one stage of `engine_progress`, and further columns. -/
def atomicStageUpdate (stage : Stage) (data : StageProgress) (runValues : Run → Run) (run : Run) :
    Run :=
  runValues { run with engineProgress := some ((run.engineProgress.getD {}).set data stage) }

/-- `_mark_stage_running`. -/
def markStageRunning (now : Time) (stage : Stage) (runStatus : RunStatus) (run : Run) : Run :=
  atomicStageUpdate stage { status := .running, startedAt := some now }
    (fun r => { r with status := runStatus }) run

/-- `int((finished_at - started_at).total_seconds() * 1000)`. -/
def elapsedMs (startedAt finishedAt : Time) : ℤ := (finishedAt - startedAt) / 1000

/-- The data of a stage that has finished. -/
def stageFinished (startedAt finishedAt : Time) : StageProgress :=
  { status := .complete, startedAt := some startedAt, finishedAt := some finishedAt
    elapsedMs := some (elapsedMs startedAt finishedAt) }

/-- `_mark_stage_complete`. -/
def markStageComplete (now : Time) (stage : Stage) (startedAt : Time) (run : Run) : Run :=
  atomicStageUpdate stage (stageFinished startedAt now) id run

/-- `s[:n]`. -/
def takeChars (n : ℕ) (s : String) : String := String.ofList (s.toList.take n)

/-- The update of `_mark_run_failed`. -/
def markRunFailed (now : Time) (failureRef : String) (stage : Stage) (message : String)
    (run : Run) : Run :=
  atomicStageUpdate stage { status := .error, finishedAt := some now }
    (fun r => { r with
      status := .failed
      failureStage := some stage.key
      failureMessage := some (takeChars 2000 message)
      failureRef := some failureRef
      finishedAt := some now }) run

/-- The totals `_compute_run_totals` reads. -/
structure RunTotals where
  totalEcl : ℚ
  totalOutstanding : ℚ
  coverageRatio : ℚ
  deriving DecidableEq, Repr

/-- The parameter `run_warnings or None` of the last update of `_ead_ecl_main`: the column is JSON
and the statement a plain text, so that the driver takes `None` and refuses a list. -/
def bindRunWarnings (warnings : List String) : Except String Unit :=
  if warnings = [] then .ok () else .error "invalid input for query argument: expected str, got list"

/-- The last update of `_ead_ecl_main`. -/
def markRunComplete (now eclStartedAt : Time) (totals : RunTotals) (run : Run) : Run :=
  atomicStageUpdate .ecl (stageFinished eclStartedAt now)
    (fun r => { r with
      status := .complete
      totalEcl := some totals.totalEcl
      totalOutstanding := some totals.totalOutstanding
      coverageRatio := some totals.coverageRatio
      runWarnings := none
      finishedAt := some now }) run

/-- `_is_stage_complete`. -/
def isStageComplete (run : Run) (stage : Stage) : Bool :=
  ((run.engineProgress.bind (·.get stage)).map (·.status)) = some .complete

/-! ### The status after each update -/

section

variable (now : Time) (run : Run) (stage : Stage)

@[simp] lemma status_markStageRunning (runStatus : RunStatus) :
    (markStageRunning now stage runStatus run).status = runStatus := rfl

@[simp] lemma status_markStageComplete (startedAt : Time) :
    (markStageComplete now stage startedAt run).status = run.status := rfl

@[simp] lemma status_markRunFailed (failureRef message : String) :
    (markRunFailed now failureRef stage message run).status = .failed := rfl

@[simp] lemma status_markRunComplete (eclStartedAt : Time) (totals : RunTotals) :
    (markRunComplete now eclStartedAt totals run).status = .complete := rfl

@[simp] lemma deletedAt_markStageRunning (runStatus : RunStatus) :
    (markStageRunning now stage runStatus run).deletedAt = run.deletedAt := rfl

@[simp] lemma deletedAt_markStageComplete (startedAt : Time) :
    (markStageComplete now stage startedAt run).deletedAt = run.deletedAt := rfl

@[simp] lemma deletedAt_markRunFailed (failureRef message : String) :
    (markRunFailed now failureRef stage message run).deletedAt = run.deletedAt := rfl

@[simp] lemma deletedAt_markRunComplete (eclStartedAt : Time) (totals : RunTotals) :
    (markRunComplete now eclStartedAt totals run).deletedAt = run.deletedAt := rfl

/-- An execution that dispatches starts from a draft or failed row and queues it; any other
leaves the row alone. -/
lemma executeRow_ok {uploads : List Upload} {out : ExecuteRunOut} {row : Run}
    (h : executeRow now uploads run = .ok (out, row)) :
    (run.status ∈ activeRunStatuses ∧ out.dispatchTask = false ∧ row = run) ∨
      (run.status ∈ [RunStatus.draft, .failed] ∧ out.dispatchTask = true ∧
        checkUploads uploads = .ok () ∧ row = queueRow now run) := by
  rw [executeRow] at h
  split at h
  · rename_i hactive
    simp only [Except.ok.injEq, Prod.mk.injEq] at h
    exact Or.inl ⟨hactive, by rw [← h.1], h.2.symm⟩
  split at h
  · simp at h
  rename_i hstatus
  split at h
  · simp at h
  · rename_i hchecks
    simp only [Except.ok.injEq, Prod.mk.injEq] at h
    exact Or.inr ⟨not_not.mp hstatus, by rw [← h.1], hchecks, h.2.symm⟩

/-- The dispatch failure handler touches queued rows only. -/
lemma revertRow_of_ne (h : run.status ≠ .queued) : revertRow now run = run := by
  rw [revertRow, if_pos h]

/-- The sweep touches live rows in a queued or running status only. -/
lemma recoverRow_eq_or :
    recoverRow now run = run ∨
      (run.status ∈ activeRunStatuses ∧ run.deletedAt = none ∧
        (recoverRow now run).status = .failed ∧ (recoverRow now run).deletedAt = none) := by
  by_cases hq : run.status ∈ [RunStatus.queued] ∧ run.updatedAt < now - minutes 10
      ∧ run.deletedAt = none
  · have hstatus : run.status = .queued := by simpa using hq.1
    have hfirst : (failStuck [.queued] (minutes 10) "queued" stuckQueuedMsg now run).status
        = .failed := by
      rw [failStuck, if_pos hq]
    have hsecond : recoverRow now run
        = failStuck [.queued] (minutes 10) "queued" stuckQueuedMsg now run := by
      rw [recoverRow, failStuck, if_neg]
      simp [hfirst]
    refine Or.inr ⟨by simp [hstatus, activeRunStatuses], hq.2.2, ?_, ?_⟩
    · rw [hsecond, hfirst]
    · rw [hsecond, failStuck, if_pos hq]
      exact hq.2.2
  · have hfirst : failStuck [.queued] (minutes 10) "queued" stuckQueuedMsg now run = run := by
      rw [failStuck, if_neg hq]
    rw [recoverRow, hfirst, failStuck]
    split
    · rename_i hr
      refine Or.inr ⟨?_, hr.2.2, rfl, hr.2.2⟩
      simp only [List.mem_cons, List.not_mem_nil, or_false] at hr
      simp only [activeRunStatuses, List.mem_cons, List.not_mem_nil, or_false]
      exact Or.inr hr.1
    · exact Or.inl rfl

end

end EclServer.Runs
