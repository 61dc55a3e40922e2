import EclServer.Runs.Pipeline

/-!
When do `failed` and `deleted` hold a run?

* `StatusLaw`: a failed run leaves its status only through `execute_run` or `delete_run`, a
  deleted run never does.
* `SparesStopped`: the step is not a task's status write over a failed or deleted row that
  would change the status. Task updates name the row by its id and check nothing, so whether
  the law holds is decided there and nowhere else.
* `statusLaw_step_iff`: one step, from a row whose deletion time agrees with its status.
* `status_law_iff`: over any interleaving, the law holds of every transition exactly when
  every step spares a stopped run.
-/

namespace EclServer.Runs

open EclServer.Library

variable {Pd Lgd Ead : Type}

namespace PipelineAction

/-- The request that queues, or the write of a delete request. -/
def IsExecuteOrDelete : PipelineAction → Prop
  | .executeRun _ _ => True
  | .commitDelete _ _ => True
  | _ => False

end PipelineAction

/-- **The status law** of one transition. -/
def StatusLaw (p : Pipeline Pd Lgd Ead) (a : PipelineAction) (q : Pipeline Pd Lgd Ead) : Prop :=
  (p.run.status = .failed → q.run.status = .failed ∨ a.IsExecuteOrDelete) ∧
    (p.run.status = .deleted → q.run.status = .deleted)

/-- The step does not write a status over a deleted run, nor a status other than `failed`
over a failed one. -/
def SparesStopped (p : Pipeline Pd Lgd Ead) : PipelineAction → Prop
  | .advance i _ _ =>
      ∀ t ∈ p.tasks[i]?, ∀ status ∈ t.writesStatus,
        (p.run.status = .failed → status = .failed) ∧ p.run.status ≠ .deleted
  | _ => True

/-- A run with status `deleted` has a deletion time. -/
def DeletedMarked (p : Pipeline Pd Lgd Ead) : Prop :=
  p.run.status = .deleted → p.run.deletedAt ≠ none

section

variable {engines : Engines Pd Lgd Ead} {p : Pipeline Pd Lgd Ead}

/-- No task writes the status `deleted`. -/
lemma writesStatus_ne_deleted {t : Task Pd Lgd} : t.writesStatus ≠ some .deleted := by
  obtain ⟨kind, pc⟩ := t
  cases pc <;> cases kind <;> simp [Task.writesStatus, TaskKind.runStatus]

/-- The row after an `execute_run`: left alone, or queued from a live draft or failed row. -/
lemma executePipeline_run (now : Time) (uploads : List Upload) (p : Pipeline Pd Lgd Ead) :
    (executePipeline now uploads p).run = p.run ∨
      (p.run.deletedAt = none ∧ (executePipeline now uploads p).run = queueRow now p.run) := by
  rw [executePipeline]
  split
  · exact Or.inl rfl
  rename_i hlive
  split
  · exact Or.inl rfl
  rename_i out row hrow
  rcases executeRow_ok now p.run hrow with ⟨_, _, hsame⟩ | ⟨_, _, _, hqueued⟩
  · refine Or.inl ?_
    split <;> exact hsame
  · refine Or.inr ⟨not_not.mp hlive, ?_⟩
    split <;> exact hqueued

/-- The deletion time stays in step with the status `deleted`. -/
lemma deletedMarked_step (a : PipelineAction) (h : DeletedMarked p) :
    DeletedMarked (pipelineStep engines p a) := by
  cases a with
  | executeRun now uploads =>
      rcases executePipeline_run now uploads p with hsame | ⟨_, hqueued⟩
      · simpa only [DeletedMarked, pipelineStep, hsame] using h
      · simp [DeletedMarked, pipelineStep, hqueued, queueRow]
  | revertRun now =>
      simp only [DeletedMarked, pipelineStep]
      split
      · exact h
      · simp only [revertRow]
        split
        · exact h
        · simp
  | beginDelete =>
      simp only [DeletedMarked, pipelineStep]
      split <;> exact h
  | commitDelete now userId =>
      simp only [DeletedMarked, pipelineStep]
      split
      · exact h
      · simp [deleteRow]
  | recoverStuckRuns now =>
      simp only [DeletedMarked, pipelineStep]
      rcases recoverRow_eq_or now p.run with hsame | ⟨_, _, hfailed, _⟩
      · rw [hsame]
        exact h
      · simp [hfailed]
  | deliver kind => exact h
  | advance i now failureRef =>
      simp only [DeletedMarked, pipelineStep]
      split
      · exact h
      rename_i t ht
      obtain ⟨hstatus, hdeleted⟩ := @advance_run Pd Lgd Ead engines now failureRef p t
      rw [run_putTask, hstatus, hdeleted]
      -- a delivery that writes a status writes one of its own, never `deleted`
      cases hw : t.writesStatus with
      | none => exact h
      | some status =>
          intro hs
          rw [Option.getD_some] at hs
          exact absurd (hw.trans (congrArg some hs)) writesStatus_ne_deleted
  | raise i message =>
      simp only [DeletedMarked, pipelineStep]
      split
      · exact h
      · rw [run_putTask]
        exact h
  | lose i => exact h

/-- A step that leaves the status alone obeys the law. -/
lemma statusLaw_of_status_eq {q : Pipeline Pd Lgd Ead} {a : PipelineAction}
    (h : q.run.status = p.run.status) : StatusLaw p a q :=
  ⟨fun hf => Or.inl (h.trans hf), fun hd => h.trans hd⟩

/-- **One step** obeys the status law exactly when it spares a stopped run. -/
lemma statusLaw_step_iff (a : PipelineAction) (h : DeletedMarked p) :
    StatusLaw p a (pipelineStep engines p a) ↔ SparesStopped p a := by
  cases a with
  | executeRun now uploads =>
      refine iff_of_true ⟨fun _ => Or.inr trivial, fun hd => ?_⟩ trivial
      rcases executePipeline_run now uploads p with hsame | ⟨hlive, _⟩
      · rwa [pipelineStep, hsame]
      · exact absurd hlive (h hd)
  | revertRun now =>
      refine iff_of_true ?_ trivial
      by_cases hq : p.run.status = .queued
      · exact ⟨fun hf => by simp [hq] at hf, fun hd => by simp [hq] at hd⟩
      · refine statusLaw_of_status_eq ?_
        simp only [pipelineStep]
        split
        · rfl
        · rw [revertRow_of_ne now p.run hq]
  | beginDelete =>
      refine iff_of_true (statusLaw_of_status_eq ?_) trivial
      simp only [pipelineStep]
      split <;> rfl
  | commitDelete now userId =>
      refine iff_of_true ⟨fun _ => Or.inr trivial, fun hd => ?_⟩ trivial
      simp only [pipelineStep]
      split
      · exact hd
      · rfl
  | recoverStuckRuns now =>
      refine iff_of_true ?_ trivial
      rcases recoverRow_eq_or now p.run with hsame | ⟨hactive, _, _, _⟩
      · exact statusLaw_of_status_eq (by rw [pipelineStep, hsame])
      · exact ⟨fun hf => by simp [hf, activeRunStatuses] at hactive,
          fun hd => by simp [hd, activeRunStatuses] at hactive⟩
  | deliver kind => exact iff_of_true (statusLaw_of_status_eq rfl) trivial
  | advance i now failureRef =>
      -- a delivery writes its status whatever the row holds; all others look at it first
      simp only [SparesStopped, pipelineStep]
      split
      · rename_i hnone
        simp only [hnone, Option.not_mem_none, false_implies, implies_true, iff_true]
        exact statusLaw_of_status_eq rfl
      rename_i t ht
      obtain ⟨hstatus, -⟩ := @advance_run Pd Lgd Ead engines now failureRef p t
      simp only [StatusLaw, run_putTask, hstatus, PipelineAction.IsExecuteOrDelete, or_false, ht,
        Option.mem_def, Option.some.injEq, forall_eq']
      cases hw : t.writesStatus with
      | none => simp
      | some status =>
          simp only [Option.getD_some, Option.some.injEq, forall_eq']
          refine and_congr_right fun _ => ⟨fun hkeep hd => ?_, fun hne hd => absurd hd hne⟩
          exact writesStatus_ne_deleted (hw.trans (congrArg some (hkeep hd)))
  | raise i message =>
      refine iff_of_true (statusLaw_of_status_eq ?_) trivial
      simp only [pipelineStep]
      split
      · rfl
      · rw [run_putTask]
  | lose i => exact iff_of_true (statusLaw_of_status_eq rfl) trivial

end

/-- **The status machine**: over any interleaving, every transition obeys the status law exactly
when every step spares a stopped run. Requests and sweeps always do, as they look at the row that
they have locked; a delivery writes its status whatever the row holds. -/
theorem status_law_iff (engines : Engines Pd Lgd Ead) {p : Pipeline Pd Lgd Ead}
    (h : p.run.status = .deleted → p.run.deletedAt ≠ none) (actions : List PipelineAction) :
    EachTransition (pipelineStep engines) StatusLaw p actions
      ↔ EachStep (pipelineStep engines) SparesStopped p actions :=
  eachTransition_iff_eachStep (I := DeletedMarked) (fun _ a hp => deletedMarked_step a hp)
    (fun _ a hp => statusLaw_step_iff a hp) h actions

/-! ### PD fails before LGD starts -/

/-- Engines that compute nothing. -/
def idleEngines : Engines Unit Unit Unit where
  computePd := .ok []
  computeLgd := .ok []
  computeEad _ _ := .ok ([], [])
  totals _ := ⟨0, 0, 0⟩

/-- A queued run with its PD and LGD deliveries just started. -/
def sampleQueued : Pipeline Unit Unit Unit where
  run := { id := "r1", tenantId := "t1", createdByUserId := "u1", name := "Q1", status := .queued }
  tasks := [{ kind := .pd, pc := .load }, { kind := .lgd, pc := .load }]

/-- The PD delivery raises and marks the run as failed; then the LGD delivery starts. -/
def pdFailsThenLgdStarts : List PipelineAction :=
  [.raise 0 "storage unavailable", .advance 0 0 "ref", .advance 0 1 "ref", .advance 0 2 "ref",
    .advance 0 3 "ref"]

theorem status_law_iff_sample :
    EachTransition (pipelineStep idleEngines) StatusLaw sampleQueued pdFailsThenLgdStarts
      ↔ EachStep (pipelineStep idleEngines) SparesStopped sampleQueued pdFailsThenLgdStarts :=
  status_law_iff idleEngines (by decide) pdFailsThenLgdStarts

/-- The last step writes `lgd_running` over `failed`. -/
theorem status_law_fails :
    ¬ EachTransition (pipelineStep idleEngines) StatusLaw sampleQueued pdFailsThenLgdStarts := by
  rintro ⟨-, -, -, -, ⟨hfailed, -⟩, -⟩
  rcases hfailed rfl with hstays | hexecute
  · exact absurd hstays (by decide)
  · exact hexecute

end EclServer.Runs
