import EclServer.Library.KeyedWrites
import EclServer.Runs.Execution

/-!
`_atomic_stage_update` of `app/tasks/compute_tasks.py` on the JSON column.

* `RunRecord`, `StageUpdate`: a run row with any object, or NULL, in `engine_progress`, and the
  parameters of one statement.
* `StageUpdate.exec`: the statement. `progress_execAll`: after any statements each key holds the
  data of the last one to it, or what it held.
* `engineProgress_atomicStageUpdate`: the typed column of `Run` goes with it.
* `progressStep`: the stages issue their statements in any order.
* `stage_progress_kept`: no interleaving loses an update.
-/

namespace EclServer.Runs

open EclServer.Library

variable {V ρ : Type}

/-! ### The statement -/

/-- A JSON object: the value of each key. -/
abbrev JsonObject (V : Type) := String → Option V

/-- `jsonb_set` of one top-level key. -/
def jsonbSet (key : String) (value : V) (o : JsonObject V) : JsonObject V :=
  Function.update o key (some value)

/-- A row of `runs`; `columns` stands for the others. -/
structure RunRecord (V ρ : Type) where
  engineProgress : Option (JsonObject V)
  columns : ρ

/-- The value of a key, none where the column is NULL. -/
def RunRecord.progress (r : RunRecord V ρ) (key : String) : Option V :=
  r.engineProgress.bind fun o => o key

/-- The parameters of `_atomic_stage_update`. -/
structure StageUpdate (V ρ : Type) where
  stage : Stage
  data : V
  runValues : ρ → ρ

/-- The `UPDATE`: `jsonb_set(COALESCE(engine_progress, '{}'), …)` and the other columns. -/
def StageUpdate.exec (u : StageUpdate V ρ) (r : RunRecord V ρ) : RunRecord V ρ where
  engineProgress := some (jsonbSet u.stage.key u.data (r.engineProgress.getD fun _ => none))
  columns := u.runValues r.columns

/-- The statements one after the other. -/
def execAll (r : RunRecord V ρ) (us : List (StageUpdate V ρ)) : RunRecord V ρ :=
  us.foldl (fun r u => u.exec r) r

lemma execAll_concat (r : RunRecord V ρ) (us : List (StageUpdate V ρ)) (u : StageUpdate V ρ) :
    execAll r (us ++ [u]) = u.exec (execAll r us) := by
  rw [execAll, List.foldl_append]
  rfl

/-- The key a statement writes. -/
def StageUpdate.key (u : StageUpdate V ρ) : String := u.stage.key

lemma key_injective : Function.Injective Stage.key := by
  intro a b h
  cases a <;> cases b <;> first | rfl | exact absurd h (by decide)

lemma progress_exec (u : StageUpdate V ρ) (r : RunRecord V ρ) :
    (u.exec r).progress = Function.update r.progress u.key (some u.data) := by
  cases hprogress : r.engineProgress with
  | none =>
      have hnone : r.progress = fun _ => none := by
        funext key
        rw [RunRecord.progress, hprogress]
        rfl
      rw [hnone]
      funext key
      simp [RunRecord.progress, StageUpdate.exec, jsonbSet, StageUpdate.key, hprogress]
  | some o =>
      have hsome : r.progress = o := by
        funext key
        rw [RunRecord.progress, hprogress]
        rfl
      rw [hsome]
      funext key
      simp [RunRecord.progress, StageUpdate.exec, jsonbSet, StageUpdate.key, hprogress]

/-- The column as keyed writes. -/
lemma progress_execAll (r : RunRecord V ρ) (us : List (StageUpdate V ρ)) :
    (execAll r us).progress
      = writeAll StageUpdate.key StageUpdate.data r.progress us := by
  induction us using List.reverseRecOn with
  | nil => rfl
  | append_singleton us u ih =>
      rw [writeAll_concat, ← ih, ← progress_exec, execAll_concat]

/-- **Updates of two stages commute** on the column. -/
lemma engineProgress_comm {u v : StageUpdate V ρ} (h : u.stage ≠ v.stage) (r : RunRecord V ρ) :
    (v.exec (u.exec r)).engineProgress = (u.exec (v.exec r)).engineProgress := by
  have hkeys : u.stage.key ≠ v.stage.key := fun hkey => h (key_injective hkey)
  refine congrArg some ?_
  exact Function.update_comm hkeys _ _ _

/-! ### The typed column -/

/-- The object of a typed column. -/
def EngineProgress.toJson (p : EngineProgress) : JsonObject StageProgress := fun key =>
  if key = "pd" then p.pd
  else if key = "lgd" then p.lgd
  else if key = "ead" then p.ead
  else if key = "ecl" then p.ecl
  else none

lemma toJson_set (p : EngineProgress) (data : StageProgress) (stage : Stage) :
    (p.set data stage).toJson = jsonbSet stage.key data p.toJson := by
  funext key
  rw [jsonbSet]
  by_cases hkey : key = stage.key
  · subst hkey
    rw [Function.update_self]
    cases stage <;> rfl
  · rw [Function.update_of_ne hkey]
    cases stage <;> simp only [Stage.key] at hkey <;>
      simp [EngineProgress.toJson, EngineProgress.set, hkey]

/-- The row of a run, with its column as JSON. -/
def Run.toRecord (run : Run) : RunRecord StageProgress Run :=
  ⟨run.engineProgress.map EngineProgress.toJson, run⟩

/-- **The update of a run** is the statement on its column. -/
theorem engineProgress_atomicStageUpdate {stage : Stage} {data : StageProgress}
    {runValues : Run → Run} (hkeep : ∀ r, (runValues r).engineProgress = r.engineProgress)
    (run : Run) :
    (atomicStageUpdate stage data runValues run).toRecord.engineProgress
      = (StageUpdate.exec ⟨stage, data, runValues⟩ run.toRecord).engineProgress := by
  rw [Run.toRecord, atomicStageUpdate, hkeep]
  refine congrArg some ?_
  rw [toJson_set]
  cases hprogress : run.engineProgress with
  | none =>
      have hempty : EngineProgress.toJson {} = fun _ => none := by
        funext key
        simp [EngineProgress.toJson]
      simp only [Option.getD_none, hempty, Run.toRecord, hprogress, Option.map_none]
  | some p => simp only [Option.getD_some, Run.toRecord, hprogress, Option.map_some]

/-! ### Any interleaving -/

/-- A run row and the stages that update it. -/
structure StageRun (V ρ : Type) where
  record : RunRecord V ρ
  writers : Writers (StageUpdate V ρ)

/-- Stage task `i` has its next statement executed. -/
def stageStep (s : StageRun V ρ) (i : ℕ) : StageRun V ρ :=
  match s.writers.pending[i]? with
  | some (u :: _) => { record := u.exec s.record, writers := issueStep s.writers i }
  | _ => s

/-- The row is what the statements issued so far have made of it. -/
def Executed (r : RunRecord V ρ) (programs : List (List (StageUpdate V ρ)))
    (s : StageRun V ρ) : Prop :=
  s.record = execAll r (s.writers.issued.map (·.2)) ∧ InOrder programs s.writers

lemma executed_step {r : RunRecord V ρ} {programs : List (List (StageUpdate V ρ))}
    {s : StageRun V ρ} (i : ℕ) (h : Executed r programs s) :
    Executed r programs (stageStep s i) := by
  obtain ⟨hrecord, horder⟩ := h
  rw [stageStep]
  split
  · rename_i u us hpending
    refine ⟨?_, inOrder_step i horder⟩
    have hissued : (issueStep s.writers i).issued = s.writers.issued ++ [(i, u)] := by
      rw [issueStep, hpending]
    rw [hissued, List.map_append]
    exact (congrArg u.exec hrecord).trans (execAll_concat r _ u).symm
  · exact ⟨hrecord, horder⟩

/-- **No update is lost**: after any interleaving of the stages' statements, from any column,
every key holds the data of the last statement to it, or what it held; a stage that one task
updates holds the last data of that task once it has ended; and updates of two stages
commute. -/
theorem stage_progress_kept (r : RunRecord V ρ) (programs : List (List (StageUpdate V ρ)))
    (schedule : List ℕ) :
    let s := run stageStep ⟨r, ⟨programs, []⟩⟩ schedule
    InOrder programs s.writers ∧
    (∀ key, s.record.progress key = ((lastWrite StageUpdate.key key
        (s.writers.issued.map (·.2))).map (·.data)).or (r.progress key)) ∧
    (s.writers.issued = [] → s.record = r) ∧
    (∀ i, ∀ stage : Stage, (∀ p ∈ s.writers.issued, p.2.stage = stage → p.1 = i) →
      (s.writers.pending[i]?).getD [] = [] →
      s.record.progress stage.key = ((lastWrite StageUpdate.key stage.key
        ((programs[i]?).getD [])).map (·.data)).or (r.progress stage.key)) ∧
    ∀ u v : StageUpdate V ρ, u.stage ≠ v.stage → ∀ row : RunRecord V ρ,
      (v.exec (u.exec row)).engineProgress = (u.exec (v.exec row)).engineProgress := by
  have hexecuted : Executed r programs (run stageStep ⟨r, ⟨programs, []⟩⟩ schedule) := by
    refine run_invariant (fun s i hs => executed_step i hs) schedule ⟨rfl, ?_⟩
    exact issued_of_writer programs []
  intro s
  obtain ⟨hrecord, horder⟩ := hexecuted
  change s.record = _ at hrecord
  have hlast : ∀ key, s.record.progress key = ((lastWrite StageUpdate.key key
      (s.writers.issued.map (·.2))).map (·.data)).or (r.progress key) := by
    intro key
    rw [hrecord, progress_execAll, writeAll_apply]
  refine ⟨horder, hlast, fun hnone => ?_, fun i stage hsole hdone => ?_,
    fun u v hstages row => engineProgress_comm hstages row⟩
  · rw [hrecord]
    change execAll r (s.writers.issued.map (·.2)) = r
    rw [hnone]
    rfl
  · have hkeys : ∀ p ∈ s.writers.issued, StageUpdate.key p.2 = stage.key → p.1 = i :=
      fun p hp hkey => hsole p hp (key_injective hkey)
    rw [hlast, lastWrite, filter_issued_of_sole horder hdone hkeys, lastWrite]

end EclServer.Runs
