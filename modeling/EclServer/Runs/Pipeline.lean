import EclServer.Runs.Execution
import EclServer.Library.Run

/-!
One run and everybody who writes it: the requests `execute_run`, `delete_run` and
`revert_run_after_dispatch_failure`, the sweep `recover_stuck_runs`, and any number of
deliveries of the PD, LGD and EAD/ECL tasks.

* `Pc`: where a delivery stands between two of its database transactions.
* `Pipeline`: the run row, its result tables, the deliveries in flight and the delete
  requests that have read the row and not yet written it.
* `advance`: the next transaction of a delivery; `raiseAt`: an exception there.
* `pipelineStep`: one step of anybody. Deliveries start at any time (a late start, a
  redelivery, a leftover of an earlier attempt) and may be lost at any point.
* `advance_run`, `pipelineStep_run`: what one step can do to the run row.
-/

namespace EclServer.Runs

open EclServer.Library

inductive TaskKind where
  | pd | lgd | eadEcl
  deriving DecidableEq, Repr

namespace TaskKind

/-- The stage a task marks as running first. -/
def stage : TaskKind → Stage
  | pd => .pd
  | lgd => .lgd
  | eadEcl => .ead

/-- The run status that goes with it. -/
def runStatus : TaskKind → RunStatus
  | pd => .pdRunning
  | lgd => .lgdRunning
  | eadEcl => .eadRunning

end TaskKind

inductive OutputArtifactKind where
  | pdCalcs | lgd | rundown | eclSummary
  deriving DecidableEq, Repr

structure OutputArtifact where
  kind : OutputArtifactKind
  storagePath : String
  deriving DecidableEq, Repr

/-- The files of `generate_all_workbooks`, with their `artifact_kinds`. -/
def workbookFiles : List (String × OutputArtifactKind) :=
  [("PD Calcs.xlsx", .pdCalcs), ("LGD.xlsx", .lgd), ("Contractual Rundown.xlsx", .rundown),
    ("ECL Summary.xlsx", .eclSummary)]

/-- The rows `_upload_workbooks` adds. -/
def newArtifacts (run : Run) : List OutputArtifact :=
  workbookFiles.map fun (filename, kind) =>
    { kind := kind, storagePath := buildStoragePath run.tenantId run.id "outputs" filename }

/-- What the stages compute from the run's files: the PD and LGD tables, the EAD rows and
warnings from these, and the totals over EAD rows. -/
structure Engines (Pd Lgd Ead : Type) where
  computePd : Except String (List Pd)
  computeLgd : Except String (List Lgd)
  computeEad : List Pd → List Lgd → Except String (List Ead × List String)
  totals : List Ead → RunTotals

variable {Pd Lgd Ead : Type}

/-- Where a delivery stands: the transaction it makes next, with the values it holds. The
number `inserted` counts the clearings of the results before the delivery's own insert; no
code reads it. -/
inductive Pc (Pd Lgd : Type) where
  | load
  | checkComplete
  | markRunning
  | compute (startedAt : Time)
  | markComplete (startedAt : Time)
  | loadPd (startedAt : Time)
  | loadLgd (startedAt : Time) (pd : List Pd)
  | insertEad (startedAt : Time) (pd : List Pd) (lgd : List Lgd)
  | eclRunning (startedAt : Time) (warnings : List String) (inserted : ℕ)
  | readTotals (startedAt eclStartedAt : Time) (warnings : List String) (inserted : ℕ)
  | addArtifacts (startedAt eclStartedAt : Time) (totals : RunTotals) (warnings : List String)
      (inserted : ℕ)
  | markEadComplete (startedAt eclStartedAt : Time) (totals : RunTotals) (warnings : List String)
      (inserted : ℕ)
  | markRunComplete (eclStartedAt : Time) (totals : RunTotals) (warnings : List String)
      (inserted : ℕ)
  | markFailed (stage : Stage) (message : String)
  | markFailedStandalone (message : String)

structure Task (Pd Lgd : Type) where
  kind : TaskKind
  pc : Pc Pd Lgd

/-- A run, its results, and the writers in flight. -/
structure Pipeline (Pd Lgd Ead : Type) where
  run : Run
  pdResults : List Pd := []
  lgdResults : List Lgd := []
  eadResults : List Ead := []
  artifacts : List OutputArtifact := []
  clearings : ℕ := 0
  tasks : List (Task Pd Lgd) := []
  deletes : ℕ := 0

/-- The state and the delivery's continuation, `none` when it has ended. -/
abbrev Advanced (Pd Lgd Ead : Type) := Pipeline Pd Lgd Ead × Option (Task Pd Lgd)

/-- An exception at a point of the task: before the `try` of the stage function only the
wrapper catches it, inside it the stage function marks the active stage as failed and
raises again, and the wrapper ends the task. -/
def raiseAt (t : Task Pd Lgd) (message : String) : Option (Task Pd Lgd) :=
  match t.pc with
  | .load | .checkComplete | .markRunning | .markFailed _ _ =>
      some { t with pc := .markFailedStandalone message }
  | .compute _ | .markComplete _ | .loadPd _ | .loadLgd _ _ | .insertEad _ _ _ =>
      some { t with pc := .markFailed t.kind.stage message }
  | .eclRunning _ _ _ | .readTotals _ _ _ _ | .addArtifacts _ _ _ _ _
  | .markEadComplete _ _ _ _ _ | .markRunComplete _ _ _ _ =>
      some { t with pc := .markFailed .ecl message }
  | .markFailedStandalone _ => none

/-- The next transaction of a delivery. -/
def advance (engines : Engines Pd Lgd Ead) (now : Time) (failureRef : String)
    (p : Pipeline Pd Lgd Ead) (t : Task Pd Lgd) : Advanced Pd Lgd Ead :=
  match t.pc with
  | .load =>
      if p.run.deletedAt ≠ none then (p, raiseAt t ("Run " ++ p.run.id ++ " not found"))
      else if t.kind = .eadEcl then
        if p.run.status = .failed then (p, none) else (p, some { t with pc := .markRunning })
      else (p, some { t with pc := .checkComplete })
  | .checkComplete =>
      if isStageComplete p.run t.kind.stage then (p, none)
      else (p, some { t with pc := .markRunning })
  | .markRunning =>
      ({ p with run := markStageRunning now t.kind.stage t.kind.runStatus p.run },
        some { t with pc := if t.kind = .eadEcl then .loadPd now else .compute now })
  | .compute startedAt =>
      match t.kind with
      | .pd =>
          match engines.computePd with
          | .error e => (p, raiseAt t e)
          | .ok rows => ({ p with pdResults := rows }, some { t with pc := .markComplete startedAt })
      | _ =>
          match engines.computeLgd with
          | .error e => (p, raiseAt t e)
          | .ok rows =>
              ({ p with lgdResults := rows }, some { t with pc := .markComplete startedAt })
  | .markComplete startedAt =>
      ({ p with run := markStageComplete now t.kind.stage startedAt p.run }, none)
  | .loadPd startedAt => (p, some { t with pc := .loadLgd startedAt p.pdResults })
  | .loadLgd startedAt pd => (p, some { t with pc := .insertEad startedAt pd p.lgdResults })
  | .insertEad startedAt pd lgd =>
      match engines.computeEad pd lgd with
      | .error e => (p, raiseAt t e)
      | .ok (rows, warnings) =>
          ({ p with eadResults := p.eadResults ++ rows },
            some { t with pc := .eclRunning startedAt warnings p.clearings })
  | .eclRunning startedAt warnings inserted =>
      ({ p with
          run := atomicStageUpdate .ecl { status := .running, startedAt := some now } id p.run },
        some { t with pc := .readTotals startedAt now warnings inserted })
  | .readTotals startedAt eclStartedAt warnings inserted =>
      (p, some { t with
        pc := .addArtifacts startedAt eclStartedAt (engines.totals p.eadResults) warnings inserted })
  | .addArtifacts startedAt eclStartedAt totals warnings inserted =>
      ({ p with artifacts := p.artifacts ++ newArtifacts p.run },
        some { t with pc := .markEadComplete startedAt eclStartedAt totals warnings inserted })
  | .markEadComplete startedAt eclStartedAt totals warnings inserted =>
      ({ p with run := markStageComplete now .ead startedAt p.run },
        some { t with pc := .markRunComplete eclStartedAt totals warnings inserted })
  | .markRunComplete eclStartedAt totals warnings _ =>
      match bindRunWarnings warnings with
      | .error e => (p, raiseAt t e)
      | .ok () => ({ p with run := markRunComplete now eclStartedAt totals p.run }, none)
  | .markFailed stage message =>
      ({ p with run := markRunFailed now failureRef stage message p.run },
        some { t with pc := .markFailedStandalone message })
  | .markFailedStandalone message =>
      ({ p with run := markRunFailed now failureRef t.kind.stage message p.run }, none)

/-- A step of anybody. `uploads` are the upload rows `execute_run` finds; `i` numbers the
deliveries in flight. -/
inductive PipelineAction where
  | executeRun (now : Time) (uploads : List Upload)
  | revertRun (now : Time)
  | beginDelete
  | commitDelete (now : Time) (userId : String)
  | recoverStuckRuns (now : Time)
  | deliver (kind : TaskKind)
  | advance (i : ℕ) (now : Time) (failureRef : String)
  | raise (i : ℕ) (message : String)
  | lose (i : ℕ)

/-- Put back what is left of delivery `i`. -/
def putTask (p : Pipeline Pd Lgd Ead) (i : ℕ) : Option (Task Pd Lgd) → Pipeline Pd Lgd Ead
  | none => { p with tasks := p.tasks.eraseIdx i }
  | some t => { p with tasks := p.tasks.set i t }

/-- `execute_run`: a failed run's results are cleared with the queueing. -/
def executePipeline (now : Time) (uploads : List Upload) (p : Pipeline Pd Lgd Ead) :
    Pipeline Pd Lgd Ead :=
  if p.run.deletedAt ≠ none then p
  else
    match executeRow now uploads p.run with
    | .error _ => p
    | .ok (out, row) =>
        if out.dispatchTask ∧ p.run.status = .failed then
          { p with
            run := row, pdResults := [], lgdResults := [], eadResults := [], artifacts := []
            clearings := p.clearings + 1 }
        else { p with run := row }

def pipelineStep (engines : Engines Pd Lgd Ead) (p : Pipeline Pd Lgd Ead) :
    PipelineAction → Pipeline Pd Lgd Ead
  | .executeRun now uploads => executePipeline now uploads p
  | .revertRun now =>
      if p.run.deletedAt ≠ none then p else { p with run := revertRow now p.run }
  | .beginDelete => if p.run.deletedAt ≠ none then p else { p with deletes := p.deletes + 1 }
  | .commitDelete now userId =>
      if p.deletes = 0 then p
      else { p with run := deleteRow now userId p.run, deletes := p.deletes - 1 }
  | .recoverStuckRuns now => { p with run := recoverRow now p.run }
  | .deliver kind => { p with tasks := p.tasks ++ [{ kind := kind, pc := .load }] }
  | .advance i now failureRef =>
      match p.tasks[i]? with
      | none => p
      | some t =>
          let r := advance engines now failureRef p t
          putTask r.1 i r.2
  | .raise i message =>
      match p.tasks[i]? with
      | none => p
      | some t => putTask p i (raiseAt t message)
  | .lose i => putTask p i none

/-! ### What a step does to the run row -/

section

variable {engines : Engines Pd Lgd Ead} {now : Time} {failureRef : String}
  {p : Pipeline Pd Lgd Ead} {t : Task Pd Lgd} {i : ℕ}

@[simp] lemma run_putTask (r : Option (Task Pd Lgd)) : (putTask p i r).run = p.run := by
  cases r <;> rfl

@[simp] lemma eadResults_putTask (r : Option (Task Pd Lgd)) :
    (putTask p i r).eadResults = p.eadResults := by
  cases r <;> rfl

@[simp] lemma artifacts_putTask (r : Option (Task Pd Lgd)) :
    (putTask p i r).artifacts = p.artifacts := by
  cases r <;> rfl

@[simp] lemma clearings_putTask (r : Option (Task Pd Lgd)) :
    (putTask p i r).clearings = p.clearings := by
  cases r <;> rfl

/-- The points at which a delivery writes the status column, and the status it writes; the last
update of a run with warnings is not made. -/
def Task.writesStatus (t : Task Pd Lgd) : Option RunStatus :=
  match t.pc with
  | .markRunning => some t.kind.runStatus
  | .markRunComplete _ _ warnings _ => if warnings = [] then some .complete else none
  | .markFailed _ _ => some .failed
  | .markFailedStandalone _ => some .failed
  | _ => none

/-- **One transaction of a delivery** writes the status its point says, whatever the row
held, and never the deletion time. -/
theorem advance_run :
    (advance engines now failureRef p t).1.run.status = t.writesStatus.getD p.run.status ∧
      (advance engines now failureRef p t).1.run.deletedAt = p.run.deletedAt := by
  obtain ⟨kind, pc⟩ := t
  cases pc with
  | compute startedAt =>
      cases kind with
      | pd => constructor <;> simp only [advance] <;> split <;> rfl
      | lgd => constructor <;> simp only [advance] <;> split <;> rfl
      | eadEcl => constructor <;> simp only [advance] <;> split <;> rfl
  | insertEad startedAt pd lgd => constructor <;> simp only [advance] <;> split <;> rfl
  | markRunComplete eclStartedAt totals warnings inserted =>
      simp only [advance, bindRunWarnings, Task.writesStatus]
      by_cases hnone : warnings = []
      · rw [if_pos hnone, if_pos hnone]
        exact ⟨rfl, rfl⟩
      · rw [if_neg hnone, if_neg hnone]
        exact ⟨rfl, rfl⟩
  | load =>
      simp only [advance]
      by_cases hdeleted : p.run.deletedAt ≠ none
      · rw [if_pos hdeleted]
        exact ⟨rfl, rfl⟩
      · rw [if_neg hdeleted]
        constructor <;> split_ifs <;> rfl
  | checkComplete => constructor <;> simp only [advance] <;> split_ifs <;> rfl
  | _ => exact ⟨rfl, rfl⟩

end

end EclServer.Runs
