import EclServer.Runs.StageResults
import EclServer.Runs.StatusMachine

/-!
Does a run that is complete hold the results of its files once?

* `InsertsOnce`: the condition on a step. Rows and artifacts are only ever added to empty
  tables, and a delivery completes the run only if nothing was cleared since its insert.
* `TaskOk`, `PipelineOk`: what holds of a delivery and of the run along such steps. The
  invariant is about any class `Batch` of row lists that holds what one insert adds.
* `pipelineOk_step`: one step keeps it.
* `complete_once`: in a run of such steps, whenever the run is complete, its EAD rows are
  those of the EAD sheet, one for each loan and snapshot date, its total is their sum, and
  each artifact is there once.
-/

namespace EclServer.Runs

open EclServer.Library EclServer.Engine

/-! ### The condition -/

section

variable {Pd Lgd Ead : Type}

/-- What the next transaction of a delivery must find: an EAD insert no rows, an artifact
insert no artifacts, and a completing delivery no clearing since its insert. -/
def InsertsOnceAt (p : Pipeline Pd Lgd Ead) (t : Task Pd Lgd) : Prop :=
  match t.pc with
  | .insertEad _ _ _ => p.eadResults = []
  | .addArtifacts _ _ _ _ _ => p.artifacts = []
  | .markRunComplete _ _ _ inserted => inserted = p.clearings
  | _ => True

/-- Every transaction of a delivery finds what it must. -/
def InsertsOnce (p : Pipeline Pd Lgd Ead) : PipelineAction → Prop
  | .advance i _ _ => ∀ t ∈ p.tasks[i]?, InsertsOnceAt p t
  | _ => True

namespace Task

/-- The PD table a delivery has loaded. -/
def loadedPd (t : Task Pd Lgd) : Option (List Pd) :=
  match t.pc with
  | .loadLgd _ pd => some pd
  | .insertEad _ pd _ => some pd
  | _ => none

/-- The clearings before the delivery's insert, once it is made. -/
def inserted (t : Task Pd Lgd) : Option ℕ :=
  match t.pc with
  | .eclRunning _ _ n => some n
  | .readTotals _ _ _ n => some n
  | .addArtifacts _ _ _ _ n => some n
  | .markEadComplete _ _ _ _ n => some n
  | .markRunComplete _ _ _ n => some n
  | _ => none

/-- The totals a delivery has read. -/
def totals (t : Task Pd Lgd) : Option RunTotals :=
  match t.pc with
  | .addArtifacts _ _ totals _ _ => some totals
  | .markEadComplete _ _ totals _ _ => some totals
  | .markRunComplete _ totals _ _ => some totals
  | _ => none

end Task

/-! ### The invariant -/

variable (engines : Engines Pd Lgd Ead) (Batch : List Ead → Prop)

/-- A PD table of the run: none yet, or what the PD stage computes. -/
def PdOf (pd : List Pd) : Prop := pd = [] ∨ engines.computePd = .ok pd

/-- What a delivery holds: a PD table of the run; and, unless the results were cleared since
its insert, the rows in the table are one batch and its totals are theirs. -/
structure TaskOk (clearings : ℕ) (rows : List Ead) (t : Task Pd Lgd) : Prop where
  pd : ∀ pd ∈ t.loadedPd, PdOf engines pd
  inserted_le : ∀ n ∈ t.inserted, n ≤ clearings
  batch : t.inserted = some clearings → Batch rows ∧ ∀ totals ∈ t.totals,
    totals = engines.totals rows

/-- What holds of the run and of every delivery. -/
structure PipelineOk (p : Pipeline Pd Lgd Ead) : Prop where
  pd : PdOf engines p.pdResults
  artifacts : (p.artifacts.map (·.kind)).Nodup
  complete : p.run.status = .complete →
    Batch p.eadResults ∧ p.run.totalEcl = some (engines.totals p.eadResults).totalEcl
  tasks : ∀ t ∈ p.tasks, TaskOk engines Batch p.clearings p.eadResults t

variable {engines Batch}

/-- A delivery before its EAD insert holds at most a PD table. -/
lemma TaskOk.of_inserted_eq_none {clearings : ℕ} {rows : List Ead} {t : Task Pd Lgd}
    (hpd : ∀ pd ∈ t.loadedPd, PdOf engines pd) (h : t.inserted = none) :
    TaskOk engines Batch clearings rows t where
  pd := hpd
  inserted_le := by simp [h]
  batch := by simp [h]

/-- Clearing the results leaves no delivery with rows in the table. -/
lemma TaskOk.clear {clearings : ℕ} {rows : List Ead} {t : Task Pd Lgd}
    (h : TaskOk engines Batch clearings rows t) : TaskOk engines Batch (clearings + 1) [] t where
  pd := h.pd
  inserted_le n hn := (h.inserted_le n hn).trans (Nat.le_succ _)
  batch hn := by
    have hle := h.inserted_le (clearings + 1) hn
    omega

lemma mem_tasks_putTask {p : Pipeline Pd Lgd Ead} {i : ℕ} {r : Option (Task Pd Lgd)}
    {t : Task Pd Lgd} (h : t ∈ (putTask p i r).tasks) : t ∈ p.tasks ∨ r = some t := by
  cases r with
  | none => exact Or.inl (List.mem_of_mem_eraseIdx h)
  | some u =>
      rcases List.mem_or_eq_of_mem_set h with hmem | rfl
      · exact Or.inl hmem
      · exact Or.inr rfl

/-- The kinds of the four artifacts differ. -/
lemma nodup_newArtifacts (run : Run) : ((newArtifacts run).map (·.kind)).Nodup := by
  have hkinds : (newArtifacts run).map (·.kind) = workbookFiles.map (·.2) := rfl
  rw [hkinds]
  decide

/-! ### Steps -/

/-- A delivery after an exception holds no rows. -/
lemma taskOk_raiseAt {clearings : ℕ} {rows : List Ead} {t t' : Task Pd Lgd} {message : String}
    (h : raiseAt t message = some t') : TaskOk engines Batch clearings rows t' := by
  obtain ⟨kind, pc⟩ := t
  cases pc <;>
    simp only [raiseAt, Option.some.injEq, reduceCtorEq] at h <;>
    exact h ▸ TaskOk.of_inserted_eq_none (by simp [Task.loadedPd]) rfl

/-- A run row that is complete only where it was complete before, with the same total. -/
lemma PipelineOk.of_run {p : Pipeline Pd Lgd Ead} (h : PipelineOk engines Batch p) {row : Run}
    (hrow : row.status = .complete → p.run.status = .complete ∧ row.totalEcl = p.run.totalEcl) :
    PipelineOk engines Batch { p with run := row } where
  pd := h.pd
  artifacts := h.artifacts
  complete hcomplete := by
    obtain ⟨hbefore, htotal⟩ := hrow hcomplete
    exact ⟨(h.complete hbefore).1, htotal.trans (h.complete hbefore).2⟩
  tasks := h.tasks

lemma PipelineOk.putTask {p : Pipeline Pd Lgd Ead} (h : PipelineOk engines Batch p) {i : ℕ}
    {r : Option (Task Pd Lgd)}
    (hr : ∀ t ∈ r, TaskOk engines Batch p.clearings p.eadResults t) :
    PipelineOk engines Batch (putTask p i r) := by
  refine ⟨?_, by simpa using h.artifacts, ?_, ?_⟩
  · cases r <;> exact h.pd
  · cases r <;> exact h.complete
  · intro t ht
    rw [clearings_putTask, eadResults_putTask]
    rcases mem_tasks_putTask ht with hmem | hsome
    · exact h.tasks t hmem
    · exact hr t hsome

/-- What the next transaction of a delivery leaves. -/
def AdvancedOk (engines : Engines Pd Lgd Ead) (Batch : List Ead → Prop)
    (r : Advanced Pd Lgd Ead) : Prop :=
  PipelineOk engines Batch r.1 ∧
    ∀ t ∈ r.2, TaskOk engines Batch r.1.clearings r.1.eadResults t

variable {p : Pipeline Pd Lgd Ead} {t : Task Pd Lgd} {now : Time} {failureRef : String}

/-- A transaction that changes nothing and ends the delivery or fails it. -/
lemma AdvancedOk.raiseAt (h : PipelineOk engines Batch p) (message : String) :
    AdvancedOk engines Batch (p, raiseAt t message) :=
  ⟨h, fun _ ht' => taskOk_raiseAt ht'⟩

/-- A transaction that writes the run row. -/
lemma AdvancedOk.of_run (h : PipelineOk engines Batch p) {row : Run}
    (hrow : row.status = .complete → p.run.status = .complete ∧ row.totalEcl = p.run.totalEcl)
    {r : Option (Task Pd Lgd)}
    (hr : ∀ t ∈ r, TaskOk engines Batch p.clearings p.eadResults t) :
    AdvancedOk engines Batch ({ p with run := row }, r) :=
  ⟨h.of_run hrow, hr⟩

/-- A delivery that ends holds nothing. -/
lemma taskOk_none {clearings : ℕ} {rows : List Ead} :
    ∀ u ∈ (none : Option (Task Pd Lgd)), TaskOk engines Batch clearings rows u := by
  simp

/-- A delivery that goes on to a point before its insert, where it holds no PD table. -/
lemma taskOk_some {clearings : ℕ} {rows : List Ead} {u : Task Pd Lgd} (hpd : u.loadedPd = none)
    (hinserted : u.inserted = none) : ∀ v ∈ some u, TaskOk engines Batch clearings rows v := by
  rintro v ⟨⟩
  exact .of_inserted_eq_none (by simp [hpd]) hinserted

/-- The transactions before the engines: the run is found, and its stage is marked. -/
lemma advancedOk_start {kind : TaskKind} {pc : Pc Pd Lgd} (hp : PipelineOk engines Batch p)
    (hpc : pc = .load ∨ pc = .checkComplete ∨ pc = .markRunning) :
    AdvancedOk engines Batch (advance engines now failureRef p { kind := kind, pc := pc }) := by
  rcases hpc with rfl | rfl | rfl
  · simp only [advance]
    split
    · exact AdvancedOk.raiseAt hp _
    split
    · split
      · exact ⟨hp, taskOk_none⟩
      · exact ⟨hp, taskOk_some rfl rfl⟩
    · exact ⟨hp, taskOk_some rfl rfl⟩
  · simp only [advance]
    split
    · exact ⟨hp, taskOk_none⟩
    · exact ⟨hp, taskOk_some rfl rfl⟩
  · refine AdvancedOk.of_run hp ?_ ?_
    · cases kind <;> simp [TaskKind.runStatus]
    · cases kind <;> exact taskOk_some rfl rfl

/-- The PD and the LGD stage store what their engines give. -/
lemma advancedOk_compute {kind : TaskKind} (hp : PipelineOk engines Batch p) (startedAt : Time) :
    AdvancedOk engines Batch
      (advance engines now failureRef p { kind := kind, pc := .compute startedAt }) := by
  cases kind with
  | pd =>
      simp only [advance]
      split
      · exact AdvancedOk.raiseAt hp _
      · rename_i rows hrows
        exact ⟨⟨Or.inr hrows, hp.artifacts, hp.complete, hp.tasks⟩, taskOk_some rfl rfl⟩
  | lgd =>
      simp only [advance]
      split
      · exact AdvancedOk.raiseAt hp _
      · exact ⟨⟨hp.pd, hp.artifacts, hp.complete, hp.tasks⟩, taskOk_some rfl rfl⟩
  | eadEcl =>
      simp only [advance]
      split
      · exact AdvancedOk.raiseAt hp _
      · exact ⟨⟨hp.pd, hp.artifacts, hp.complete, hp.tasks⟩, taskOk_some rfl rfl⟩

/-- The EAD insert: it finds no rows, and what it adds is one batch. -/
lemma advancedOk_insertEad {kind : TaskKind} {startedAt : Time} {pd : List Pd} {lgd : List Lgd}
    (hbatch : ∀ {pd lgd rows warnings}, PdOf engines pd →
      engines.computeEad pd lgd = .ok (rows, warnings) → Batch rows)
    (hempty : Batch [] → ∀ {rows}, Batch rows → rows = [])
    (hp : PipelineOk engines Batch p) (hpd : PdOf engines pd) (hnil : p.eadResults = []) :
    AdvancedOk engines Batch
      (advance engines now failureRef p { kind := kind, pc := .insertEad startedAt pd lgd }) := by
  simp only [advance]
  split
  · exact AdvancedOk.raiseAt hp _
  rename_i rows warnings hrows
  have hnew : Batch rows := hbatch hpd hrows
  -- a batch that was there already was empty, and then so is this one
  have hsame : Batch p.eadResults → rows = [] := fun h => hempty (hnil ▸ h) hnew
  have hrowsEq : p.eadResults ++ rows = rows := by rw [hnil, List.nil_append]
  rw [hrowsEq]
  refine ⟨⟨hp.pd, hp.artifacts, ?_, ?_⟩, ?_⟩
  · intro hcomplete
    obtain ⟨hbefore, htotal⟩ := hp.complete hcomplete
    refine ⟨hnew, htotal.trans ?_⟩
    rw [hsame hbefore, hnil]
  · intro u hu
    have hu' := hp.tasks u hu
    refine ⟨hu'.pd, hu'.inserted_le, fun hinserted => ⟨hnew, fun totals htotals => ?_⟩⟩
    obtain ⟨hbefore, hread⟩ := hu'.batch hinserted
    rw [hread totals htotals, hsame hbefore, hnil]
  · rintro u ⟨⟩
    refine ⟨by simp [Task.loadedPd], fun n hn => ?_, fun _ => ⟨hnew, by simp [Task.totals]⟩⟩
    exact (Option.some.inj hn).symm.le

/-- The last update: the rows are still those of the delivery's insert, and the totals it has read
are theirs. A run with warnings is not completed. -/
lemma advancedOk_markRunComplete {kind : TaskKind} {eclStartedAt : Time} {totals : RunTotals}
    {warnings : List String} {inserted : ℕ} (hp : PipelineOk engines Batch p)
    (ht : TaskOk engines Batch p.clearings p.eadResults
      { kind := kind, pc := .markRunComplete eclStartedAt totals warnings inserted })
    (hinserted : inserted = p.clearings) :
    AdvancedOk engines Batch (advance engines now failureRef p
      { kind := kind, pc := .markRunComplete eclStartedAt totals warnings inserted }) := by
  simp only [advance]
  split
  · exact AdvancedOk.raiseAt hp _
  · obtain ⟨hrows, hread⟩ := ht.batch (congrArg some hinserted)
    have htotals : totals = engines.totals p.eadResults := hread totals rfl
    refine ⟨⟨hp.pd, hp.artifacts, fun _ => ⟨hrows, ?_⟩, hp.tasks⟩, taskOk_none⟩
    exact congrArg (fun r : RunTotals => some r.totalEcl) htotals

/-- **One transaction of a delivery** keeps the invariant, where what an EAD insert adds is
one batch and no batch but an empty one is as good as none. -/
lemma advancedOk_advance
    (hbatch : ∀ {pd lgd rows warnings}, PdOf engines pd →
      engines.computeEad pd lgd = .ok (rows, warnings) → Batch rows)
    (hempty : Batch [] → ∀ {rows}, Batch rows → rows = [])
    (hp : PipelineOk engines Batch p) (ht : TaskOk engines Batch p.clearings p.eadResults t)
    (honce : InsertsOnceAt p t) :
    AdvancedOk engines Batch (advance engines now failureRef p t) := by
  obtain ⟨kind, pc⟩ := t
  cases pc with
  | load => exact advancedOk_start hp (Or.inl rfl)
  | checkComplete => exact advancedOk_start hp (Or.inr (Or.inl rfl))
  | markRunning => exact advancedOk_start hp (Or.inr (Or.inr rfl))
  | compute startedAt => exact advancedOk_compute hp startedAt
  | markComplete startedAt =>
      -- the statements on the stage column leave the status and the totals of the run alone
      have hrow : (markStageComplete now kind.stage startedAt p.run).status = .complete →
          p.run.status = .complete ∧
            (markStageComplete now kind.stage startedAt p.run).totalEcl = p.run.totalEcl :=
        fun h => ⟨h, rfl⟩
      exact AdvancedOk.of_run hp hrow taskOk_none
  | loadPd startedAt =>
      refine ⟨hp, ?_⟩
      rintro u ⟨⟩
      exact .of_inserted_eq_none (by simpa [Task.loadedPd] using hp.pd) rfl
  | loadLgd startedAt pd =>
      refine ⟨hp, ?_⟩
      rintro u ⟨⟩
      exact .of_inserted_eq_none (by simpa [Task.loadedPd] using ht.pd) rfl
  | insertEad startedAt pd lgd =>
      exact advancedOk_insertEad hbatch hempty hp (ht.pd pd rfl) honce
  | eclRunning startedAt warnings inserted =>
      have hrow : (atomicStageUpdate .ecl { status := .running, startedAt := some now } id
          p.run).status = .complete → p.run.status = .complete ∧ (atomicStageUpdate .ecl
            { status := .running, startedAt := some now } id p.run).totalEcl = p.run.totalEcl :=
        fun h => ⟨h, rfl⟩
      refine AdvancedOk.of_run hp hrow ?_
      rintro u ⟨⟩
      refine ⟨by simp [Task.loadedPd], ht.inserted_le, fun h => ⟨(ht.batch h).1, ?_⟩⟩
      simp [Task.totals]
  | readTotals startedAt eclStartedAt warnings inserted =>
      refine ⟨hp, ?_⟩
      rintro u ⟨⟩
      refine ⟨by simp [Task.loadedPd], ht.inserted_le, fun h => ⟨(ht.batch h).1, ?_⟩⟩
      intro totals htotals
      exact (Option.some.inj htotals).symm
  | addArtifacts startedAt eclStartedAt totals warnings inserted =>
      -- the artefacts are unique by kind, and `honce` has the run without any so far
      have hnil : p.artifacts = [] := honce
      refine ⟨⟨hp.pd, ?_, hp.complete, hp.tasks⟩, ?_⟩
      · change ((p.artifacts ++ newArtifacts p.run).map (·.kind)).Nodup
        rw [hnil, List.nil_append]
        exact nodup_newArtifacts p.run
      · rintro u ⟨⟩
        exact ⟨by simp [Task.loadedPd], ht.inserted_le, ht.batch⟩
  | markEadComplete startedAt eclStartedAt totals warnings inserted =>
      have hrow : (markStageComplete now .ead startedAt p.run).status = .complete →
          p.run.status = .complete ∧
            (markStageComplete now .ead startedAt p.run).totalEcl = p.run.totalEcl :=
        fun h => ⟨h, rfl⟩
      refine AdvancedOk.of_run hp hrow ?_
      rintro u ⟨⟩
      exact ⟨by simp [Task.loadedPd], ht.inserted_le, ht.batch⟩
  | markRunComplete eclStartedAt totals warnings inserted =>
      exact advancedOk_markRunComplete hp ht honce
  | markFailed stage message =>
      refine AdvancedOk.of_run hp (by simp) ?_
      rintro u ⟨⟩
      exact .of_inserted_eq_none (by simp [Task.loadedPd]) rfl
  | markFailedStandalone message => exact AdvancedOk.of_run hp (by simp) taskOk_none

/-- **One step of anybody** that finds what it must keeps the invariant. -/
theorem pipelineOk_step
    (hbatch : ∀ {pd lgd rows warnings}, PdOf engines pd →
      engines.computeEad pd lgd = .ok (rows, warnings) → Batch rows)
    (hempty : Batch [] → ∀ {rows}, Batch rows → rows = []) (a : PipelineAction)
    (hp : PipelineOk engines Batch p) (honce : InsertsOnce p a) :
    PipelineOk engines Batch (pipelineStep engines p a) := by
  cases a with
  | executeRun now uploads =>
      simp only [pipelineStep, executePipeline]
      split
      · exact hp
      split
      · exact hp
      rename_i out row hrow
      have hstatus : row.status = .complete → p.run.status = .complete ∧
          row.totalEcl = p.run.totalEcl := by
        intro hcomplete
        rcases executeRow_ok now p.run hrow with ⟨_, _, hsame⟩ | ⟨_, _, _, hqueued⟩
        · rw [hsame] at hcomplete ⊢
          exact ⟨hcomplete, rfl⟩
        · rw [hqueued] at hcomplete
          exact absurd hcomplete (by simp [queueRow])
      split
      -- a failed run starts anew: its results are deleted, and it was not complete
      · rename_i hfailed
        refine ⟨Or.inl rfl, List.nodup_nil, fun hcomplete => ?_, fun t ht => (hp.tasks t ht).clear⟩
        have hbefore := (hstatus hcomplete).1
        rw [hfailed.2] at hbefore
        exact absurd hbefore (by decide)
      · exact hp.of_run hstatus
  | revertRun now =>
      simp only [pipelineStep]
      split
      · exact hp
      · refine hp.of_run fun hcomplete => ?_
        by_cases hqueued : p.run.status = .queued
        · simp [revertRow, hqueued] at hcomplete
        · rw [revertRow_of_ne now p.run hqueued] at hcomplete ⊢
          exact ⟨hcomplete, rfl⟩
  | beginDelete =>
      simp only [pipelineStep]
      split
      · exact hp
      · exact ⟨hp.pd, hp.artifacts, hp.complete, hp.tasks⟩
  | commitDelete now userId =>
      simp only [pipelineStep]
      split
      · exact hp
      · exact ⟨hp.pd, hp.artifacts, by simp [deleteRow], hp.tasks⟩
  | recoverStuckRuns now =>
      -- the sweep makes active runs failed, and no run complete
      refine hp.of_run fun hcomplete => ?_
      rcases recoverRow_eq_or now p.run with hsame | ⟨_, _, hfailed, _⟩
      · rw [hsame] at hcomplete ⊢
        exact ⟨hcomplete, rfl⟩
      · rw [hfailed] at hcomplete
        exact absurd hcomplete (by decide)
  | deliver kind =>
      refine ⟨hp.pd, hp.artifacts, hp.complete, fun t ht => ?_⟩
      rcases List.mem_append.mp ht with hmem | hnew
      · exact hp.tasks t hmem
      · rw [List.mem_singleton.mp hnew]
        exact .of_inserted_eq_none (by simp [Task.loadedPd]) rfl
  | advance i now failureRef =>
      simp only [pipelineStep]
      cases hi : p.tasks[i]? with
      | none => exact hp
      | some t =>
          have hadvanced : AdvancedOk engines Batch (advance engines now failureRef p t) :=
            advancedOk_advance hbatch hempty hp (hp.tasks t (List.mem_of_getElem? hi))
              (honce t hi)
          exact hadvanced.1.putTask hadvanced.2
  | raise i message =>
      simp only [pipelineStep]
      cases hi : p.tasks[i]? with
      | none => exact hp
      | some t => exact hp.putTask fun u hu => taskOk_raiseAt hu
  | lose i => exact hp.putTask (r := none) (by simp)

end

/-! ### Complete runs -/

section

variable {input : RunInput}

/-- The rows of one EAD insert: those of the loans and snapshot dates of the EAD sheet. -/
def IsEadBatch (input : RunInput) (rows : List EadResult) : Prop :=
  (rows.map EadResult.key).Perm (snapshotKeys input.py input.eadInput)

lemma isEadBatch_of_computeEad {pd : List PdResult} {lgd : List LgdResult} {rows : List EadResult}
    {warnings : List String} (hpd : PdOf (runEngines input) pd)
    (h : (runEngines input).computeEad pd lgd = .ok (rows, warnings)) : IsEadBatch input rows := by
  refine map_key_computeEad ?_ h
  rcases hpd with rfl | hpd
  · exact List.nodup_nil
  · exact nodup_computePd hpd

/-- Where one insert adds nothing, every insert does. -/
lemma eq_nil_of_isEadBatch (h : IsEadBatch input []) {rows : List EadResult}
    (hrows : IsEadBatch input rows) : rows = [] :=
  List.map_eq_nil_iff.mp (hrows.trans h.symm).eq_nil

/-- **The results of a complete run**: one EAD row for each loan and snapshot date of the EAD
sheet, the sum of their discounted ECL as total, and no artifact kind twice. -/
structure CountedOnce (input : RunInput) (p : Pipeline PdResult LgdResult EadResult) : Prop where
  rows_nodup : (p.eadResults.map EadResult.key).Nodup
  mem_rows : ∀ key, key ∈ p.eadResults.map EadResult.key
    ↔ key ∈ snapshotKeys input.py input.eadInput
  total : p.run.totalEcl = some (p.eadResults.map (·.discountedEcl)).sum
  artifacts : (p.artifacts.map (·.kind)).Nodup

/-- A complete run counts everything once. -/
def OnceLaw (input : RunInput) (p : Pipeline PdResult LgdResult EadResult) : Prop :=
  p.run.status = .complete → CountedOnce input p

lemma PipelineOk.onceLaw {p : Pipeline PdResult LgdResult EadResult}
    (hkeys : (snapshotKeys input.py input.eadInput).Nodup)
    (h : PipelineOk (runEngines input) (IsEadBatch input) p) : OnceLaw input p := by
  intro hcomplete
  obtain ⟨hrows, htotal⟩ := h.complete hcomplete
  exact ⟨hrows.nodup_iff.mpr hkeys, fun key => hrows.mem_iff, htotal, h.artifacts⟩

/-- **Idempotence of the EAD stage**: from a draft run on, over any deliveries, losses,
requests and sweeps in which every transaction finds what it must, a complete run holds the
results of its files once. -/
theorem complete_once (input : RunInput) {row : Run} (hdraft : row.status = .draft)
    (hkeys : (snapshotKeys input.py input.eadInput).Nodup) (actions : List PipelineAction)
    (h : EachStep (pipelineStep (runEngines input)) InsertsOnce { run := row } actions) :
    Always (pipelineStep (runEngines input)) (OnceLaw input) { run := row } actions := by
  have hinit : PipelineOk (runEngines input) (IsEadBatch input) { run := row } := by
    refine ⟨Or.inl rfl, List.nodup_nil, fun hcomplete => ?_, by simp⟩
    exact absurd (hdraft.symm.trans hcomplete) (by decide)
  have hrun : Always (pipelineStep (runEngines input))
      (PipelineOk (runEngines input) (IsEadBatch input)) { run := row } actions := by
    refine always_of_eachStep (G := InsertsOnce) (fun p a hp honce => ?_) hinit h
    exact pipelineOk_step isEadBatch_of_computeEad eq_nil_of_isEadBatch a hp honce
  intro before hprefix
  exact (hrun before hprefix).onceLaw hkeys

end

/-! ### A worker lost after its insert

The files are the sheets of `ecl_exceeds_exposure`, with an LGD table for the one loan. -/

section

variable {Pd Lgd Ead : Type} {engines : Engines Pd Lgd Ead} {p : Pipeline Pd Lgd Ead}

/-- A delivery and its first `n` transactions. -/
def delivery (kind : TaskKind) (n : ℕ) : List PipelineAction :=
  .deliver kind :: List.replicate n (.advance 0 0 "ref")

/-- The row after a PD or LGD delivery that nobody disturbs. -/
def stageRow (kind : TaskKind) (run : Run) : Run :=
  markStageComplete 0 kind.stage 0 (markStageRunning 0 kind.stage kind.runStatus run)

lemma run_delivery_pd {pd : List Pd} (htasks : p.tasks = []) (hlive : p.run.deletedAt = none)
    (hopen : isStageComplete p.run .pd = false) (hpd : engines.computePd = .ok pd) :
    run (pipelineStep engines) p (delivery .pd 5)
        = { p with run := stageRow .pd p.run, pdResults := pd } ∧
      EachStep (pipelineStep engines) InsertsOnce p (delivery .pd 5) := by
  obtain ⟨row, pdResults, lgdResults, eadResults, artifacts, clearings, tasks, deletes⟩ := p
  obtain rfl : tasks = [] := htasks
  dsimp only at hlive hopen
  constructor
  · simp [delivery, pipelineStep, advance, putTask, hlive, hopen, hpd, TaskKind.stage, stageRow]
  · simp [delivery, pipelineStep, advance, putTask, hlive, hopen, hpd, TaskKind.stage,
      InsertsOnce, InsertsOnceAt]

lemma run_delivery_lgd {lgd : List Lgd} (htasks : p.tasks = []) (hlive : p.run.deletedAt = none)
    (hopen : isStageComplete p.run .lgd = false) (hlgd : engines.computeLgd = .ok lgd) :
    run (pipelineStep engines) p (delivery .lgd 5)
        = { p with run := stageRow .lgd p.run, lgdResults := lgd } ∧
      EachStep (pipelineStep engines) InsertsOnce p (delivery .lgd 5) := by
  obtain ⟨row, pdResults, lgdResults, eadResults, artifacts, clearings, tasks, deletes⟩ := p
  obtain rfl : tasks = [] := htasks
  dsimp only at hlive hopen
  constructor
  · simp [delivery, pipelineStep, advance, putTask, hlive, hopen, hlgd, TaskKind.stage, stageRow]
  · simp [delivery, pipelineStep, advance, putTask, hlive, hopen, hlgd, TaskKind.stage,
      InsertsOnce, InsertsOnceAt]

/-- The first five transactions of an EAD delivery insert its rows. -/
lemma run_delivery_insert {rows : List Ead} {warnings : List String} (htasks : p.tasks = [])
    (hlive : p.run.deletedAt = none) (hstatus : p.run.status ≠ .failed)
    (head : engines.computeEad p.pdResults p.lgdResults = .ok (rows, warnings)) :
    run (pipelineStep engines) p (delivery .eadEcl 5)
      = { p with
          run := markStageRunning 0 .ead .eadRunning p.run
          eadResults := p.eadResults ++ rows
          tasks := [⟨.eadEcl, .eclRunning 0 warnings p.clearings⟩] } := by
  obtain ⟨row, pdResults, lgdResults, eadResults, artifacts, clearings, tasks, deletes⟩ := p
  obtain rfl : tasks = [] := htasks
  dsimp only at hlive hstatus head
  simp [delivery, pipelineStep, advance, putTask, hlive, hstatus, head, TaskKind.stage,
    TaskKind.runStatus]

/-- The others complete the run, if it has no warnings. -/
lemma run_fromInsert (htasks : p.tasks = [⟨.eadEcl, .eclRunning 0 [] p.clearings⟩]) :
    (run (pipelineStep engines) p (List.replicate 5 (.advance 0 0 "ref"))).run.status = .complete ∧
      (run (pipelineStep engines) p (List.replicate 5 (.advance 0 0 "ref"))).eadResults
        = p.eadResults := by
  obtain ⟨row, pdResults, lgdResults, eadResults, artifacts, clearings, tasks, deletes⟩ := p
  dsimp only at htasks
  subst htasks
  simp [pipelineStep, advance, putTask, bindRunWarnings]

/-- An EAD delivery that starts on empty tables finds what it must. -/
lemma insertsOnce_delivery {rows : List Ead} {warnings : List String} (htasks : p.tasks = [])
    (hlive : p.run.deletedAt = none) (hstatus : p.run.status ≠ .failed)
    (head : engines.computeEad p.pdResults p.lgdResults = .ok (rows, warnings))
    (hrows : p.eadResults = []) (hartifacts : p.artifacts = []) :
    EachStep (pipelineStep engines) InsertsOnce p (delivery .eadEcl 10) := by
  obtain ⟨row, pdResults, lgdResults, eadResults, artifacts, clearings, tasks, deletes⟩ := p
  obtain rfl : tasks = [] := htasks
  dsimp only at hlive hstatus head hrows hartifacts
  subst hrows hartifacts
  simp [delivery, pipelineStep, advance, putTask, hlive, hstatus, head, TaskKind.stage,
    TaskKind.runStatus, InsertsOnce, InsertsOnceAt]

end

def sheetsDraft : Run :=
  { id := "r1", tenantId := "t1", createdByUserId := "u1", name := "Q1" }

/-- An upload of each kind that passed validation. -/
def sheetsUploads : List Upload :=
  requiredKinds.map fun kind =>
    { id := kind.value, runId := "r1", tenantId := "t1", kind := kind
      originalFilename := kind.value, sha256 := "", storagePath := kind.value
      fileSizeBytes := 1, validationStatus := some .ok, createdAt := 0 }

def sampleLgd : List LgdResult := [⟨"L", "C", 0, 0⟩]

def sampleInput : RunInput where
  py := plainEnv
  pdInput := samplePdFrame
  eadInput := sampleEadFrame
  lgdRows := .ok sampleLgd

/-- The run is queued, and its PD and LGD stages complete. -/
def untilEad : List PipelineAction :=
  .executeRun 0 sheetsUploads :: (delivery .pd 5 ++ delivery .lgd 5)

/-- Then the EAD delivery completes it. -/
def undisturbed : List PipelineAction := untilEad ++ delivery .eadEcl 10

/-- Or it is lost after its insert and delivered again. -/
def redelivered : List PipelineAction :=
  untilEad ++ (delivery .eadEcl 5 ++ [.lose 0] ++ (delivery .eadEcl 5 ++
    List.replicate 5 (.advance 0 0 "ref")))

/-- A stored row of the loan: its snapshot `k` months after the reporting date. -/
def sampleEadResult (k : ℕ) (balance : ℚ) : EadResult where
  loanId := "L"
  customerId := "C"
  segment := "RETAIL"
  stage := "Stage 2"
  snapshotDate := dateOf ((firstOf 24289).addMonths k)
  periodSinceOrig := (k : ℤ) + 1
  periodToDiscount := k
  monthlyInstalment := 1
  balAfterRepayment := balance
  balAfterMissed := balance
  marginalPd := some (9 / 10)
  lgw := 1
  lgd := 1
  creditLoss := balance * (9 / 10)
  discountedEcl := balance * (9 / 10)

lemma eadRecord_sampleEcl {k n : ℕ} (hk : k = 0 ∨ k = 1) (hn : n = 8 ∨ n = 9) :
    eadRecord plainEnv (sampleEcl k n) = .ok (sampleEadResult k n) := by
  have hpos : (0 : ℚ) < n := by
    rcases hn with rfl | rfl <;> norm_num
  have hbalance : numeric 20 6 n = .ok n :=
    numeric_of_digits (n * 1000000) (by push_cast; ring) (by rcases hn with rfl | rfl <;> norm_num)
  have hone : numeric 20 6 1 = .ok 1 := numeric_of_digits 1000000 (by norm_num) (by norm_num)
  have hone' : numeric 10 8 1 = .ok 1 := numeric_of_digits 100000000 (by norm_num) (by norm_num)
  have hhazard : numeric 10 8 (9 / 10) = .ok (9 / 10) :=
    numeric_of_digits 90000000 (by norm_num) (by norm_num)
  have hloss : numeric 20 6 (n * (9 / 10)) = .ok (n * (9 / 10)) :=
    numeric_of_digits (n * 900000) (by push_cast; ring) (by rcases hn with rfl | rfl <;> norm_num)
  have hdate : (sampleTerm k).snapshotDate = some ((firstOf 24289).addMonths k) := rfl
  rw [sampleEcl_eq hk hpos, eadRecord]
  simp only [hdate, toDecimal, decimalAmount, EclRow.shownMarginalPd, Option.getD_some,
    Option.getD_none, decimalPd, Option.elim_some, Option.mapM_some, hbalance, hone, hone', hhazard,
    hloss, bind, Except.bind]
  rfl

lemma joinLgd_sampleLgd : joinLgd plainEnv sampleEadFrame (loadLgdFrame sampleLgd)
    = [(eadRow plainEnv sampleEadFrame ⟨0, sampleEadCell⟩, some ⟨.str "L", .num 0, .num 0⟩)] := by
  have hread : readEadRows plainEnv sampleEadFrame
      = [eadRow plainEnv sampleEadFrame ⟨0, sampleEadCell⟩] := sortByKey_singleton _ _
  rw [joinLgd, hread]
  decide

lemma mergeLgd_sampleLgd :
    mergeLgd plainEnv sampleEadFrame (loadLgdFrame sampleLgd) = [sampleMerged] := by
  rw [mergeLgd, joinLgd_sampleLgd]
  decide

/-- A stored PD table has the row of month `n` for the loan, with the same hazard. -/
lemma filter_loadPdRow_sample {pd : List PdResult}
    (hpd : (pdOutput plainEnv samplePdRows).table.mapM (pdRecord plainEnv) = .ok pd)
    (hkeys : (pd.map PdResult.key).Nodup) {w : WalkedRow} {n : ℕ} (hn : n = 1 ∨ n = 2)
    (hsegment : w.segment = .str "RETAIL") (hperiod : w.periodSinceOrigination = some (n : ℤ))
    (hstaging : w.staging = .str "Stage 2") :
    ∃ t, (pd.map loadPdRow).filter (matchesPd w) = [t] ∧ t.marginalPd = 9 / 10 ∧ t.cureRate = 0 := by
  have hmem : samplePd n ∈ (pdOutput plainEnv samplePdRows).table := by
    refine mem_table.mpr ⟨.str "RETAIL", ?_, .stage2, n, mem_pdMonths.mpr ?_, rfl⟩
    · rw [segmentsOf_sample]
      exact List.mem_singleton_self _
    · rcases hn with rfl | rfl <;> decide
  obtain ⟨r, hr, hrecord⟩ := exists_mem_of_mapM_ok hpd hmem
  have hkey := key_of_pdRecord hrecord
  obtain ⟨_, _, hrecord⟩ := bind_eq_ok.mp hrecord
  obtain ⟨_, _, hrecord⟩ := bind_eq_ok.mp hrecord
  obtain ⟨_, _, hrecord⟩ := bind_eq_ok.mp hrecord
  obtain ⟨marginal, hmarginal, hrecord⟩ := bind_eq_ok.mp hrecord
  obtain ⟨cure, hcure, hrecord⟩ := bind_eq_ok.mp hrecord
  have hsame := Except.ok.inj hrecord
  rw [marginalPd_samplePd hn, numeric_of_digits 90000000 (by norm_num) (by norm_num)] at hmarginal
  rw [show (samplePd n).cureRate = 0 from cureRatesOf_sample,
    numeric_of_digits 0 (by norm_num) (by norm_num)] at hcure
  have hmatch : loadPdRow r ∈ (pd.map loadPdRow).filter (matchesPd w) := by
    refine List.mem_filter.mpr ⟨List.mem_map_of_mem hr, ?_⟩
    rw [PdResult.key, Prod.mk.injEq, Prod.mk.injEq] at hkey
    obtain ⟨hseg, hmonth, hstage⟩ := hkey
    rw [matchesPd, decide_eq_true_eq, hsegment, hperiod, hstaging]
    refine ⟨?_, ?_, ?_⟩
    · exact congrArg Cell.str hseg.symm
    · exact congrArg (fun m : ℕ => some (m : ℤ)) hmonth.symm
    · exact congrArg (fun st : LoanStage => Cell.str st.text) hstage.symm
  obtain ⟨t, ht⟩ := List.length_eq_one_iff.mp
    (le_antisymm (length_filter_loadPdRow hkeys w) (List.length_pos_of_mem hmatch))
  rw [ht, List.mem_singleton] at hmatch
  refine ⟨t, ht, ?_, ?_⟩
  · rw [← hmatch, ← hsame]
    exact (Except.ok.inj hmarginal).symm
  · rw [← hmatch, ← hsame]
    exact (Except.ok.inj hcure).symm

/-- The stages of the sample: a PD table, and two rows of the EAD stage. -/
lemma engines_sample : ∃ pd, (runEngines sampleInput).computePd = .ok pd ∧
    (runEngines sampleInput).computeLgd = .ok sampleLgd ∧
    (runEngines sampleInput).computeEad pd sampleLgd
      = .ok ([sampleEadResult 0 9, sampleEadResult 1 8], []) := by
  have hamounts := loanAmount_nonneg readPdRows_sample samplePdFrame_amounts
  obtain ⟨pd, hrecords, hpd⟩ := @exists_computePd sampleInput _ hamounts
    (by rw [show sampleInput.py = plainEnv from rfl, segmentsOf_sample]; decide) computePd_sample
  have hkeys := nodup_computePd hpd
  obtain ⟨t₁, h₁, hmarginal₁, hcure₁⟩ := filter_loadPdRow_sample (w := sampleWalked 0 9) hrecords
    hkeys (Or.inl rfl) rfl rfl rfl
  obtain ⟨t₂, h₂, hmarginal₂, hcure₂⟩ := filter_loadPdRow_sample (w := sampleWalked 1 8) hrecords
    hkeys (Or.inr rfl) rfl rfl rfl
  refine ⟨pd, hpd, rfl, ?_⟩
  have hjoin : joinPd [sampleWalked 0 9, sampleWalked 1 8] (pd.map loadPdRow)
      = [(sampleWalked 0 9, some t₁), (sampleWalked 1 8, some t₂)] := by
    rw [joinPd, leftJoin_eq_map _ fun w _ => length_filter_loadPdRow hkeys w, List.map_cons,
      List.map_cons, List.map_nil, h₁, h₂]
    rfl
  have hrows : eclRows plainEnv [(sampleWalked 0 9, some t₁), (sampleWalked 1 8, some t₂)]
      = [sampleEcl 0 9, sampleEcl 1 8] := by
    have hpd₁ := marginalPd_samplePd (n := 1) (Or.inl rfl)
    have hpd₂ := marginalPd_samplePd (n := 2) (Or.inr rfl)
    have hcure : ∀ n, (samplePd n).cureRate = 0 := fun n => cureRatesOf_sample
    simp only [eclRows, List.map_cons, List.map_nil, sampleEcl, eclRow, Option.elim_some,
      hmarginal₁, hmarginal₂, hcure₁, hcure₂, hpd₁, hpd₂, hcure]
  have head := computeEad_sampleEad (by decide) (segment_of_mem_loadPdRow pd) joinLgd_sampleLgd mergeLgd_sampleLgd hjoin hrows
  have hfirst : eadRecord plainEnv (sampleEcl 0 9) = .ok (sampleEadResult 0 9) := by
    exact_mod_cast @eadRecord_sampleEcl 0 9 (Or.inl rfl) (Or.inr rfl)
  have hsecond : eadRecord plainEnv (sampleEcl 1 8) = .ok (sampleEadResult 1 8) := by
    exact_mod_cast @eadRecord_sampleEcl 1 8 (Or.inr rfl) (Or.inl rfl)
  have hrecords : [sampleEcl 0 9, sampleEcl 1 8].mapM (eadRecord plainEnv)
      = .ok [sampleEadResult 0 9, sampleEadResult 1 8] := by
    simp only [List.mapM_cons, List.mapM_nil, hfirst, hsecond, bind, Except.bind]
    rfl
  simp only [runEngines, sampleInput, head, bind, Except.bind, hrecords]
  rfl

/-- The keys of the sample's EAD sheet differ. -/
lemma nodup_snapshotKeys_sample : (snapshotKeys sampleInput.py sampleInput.eadInput).Nodup := by
  refine nodup_snapshotKeys ?_
  rw [show readEadRows sampleInput.py sampleInput.eadInput
    = [eadRow plainEnv sampleEadFrame ⟨0, sampleEadCell⟩] from sortByKey_singleton _ _]
  exact List.nodup_singleton _

/-- The run before its EAD delivery. -/
lemma run_untilEad {pd : List PdResult} (hpd : (runEngines sampleInput).computePd = .ok pd) :
    run (pipelineStep (runEngines sampleInput)) { run := sheetsDraft } untilEad
        = { run := stageRow .lgd (stageRow .pd (queueRow 0 sheetsDraft))
            pdResults := pd, lgdResults := sampleLgd } ∧
      EachStep (pipelineStep (runEngines sampleInput)) InsertsOnce { run := sheetsDraft }
        untilEad := by
  have hqueue : pipelineStep (runEngines sampleInput) { run := sheetsDraft }
      (.executeRun 0 sheetsUploads) = { run := queueRow 0 sheetsDraft } := rfl
  obtain ⟨hpdRun, hpdOnce⟩ := run_delivery_pd (p := { run := queueRow 0 sheetsDraft }) rfl rfl rfl
    hpd
  have hlgd : (runEngines sampleInput).computeLgd = .ok sampleLgd := rfl
  obtain ⟨hlgdRun, hlgdOnce⟩ := run_delivery_lgd
    (p := { run := stageRow .pd (queueRow 0 sheetsDraft), pdResults := pd }) rfl rfl rfl hlgd
  constructor
  · rw [untilEad, run_cons, hqueue, run_append, hpdRun, hlgdRun]
  · rw [untilEad, eachStep_cons, hqueue, eachStep_append, hpdRun]
    exact ⟨trivial, hpdOnce, hlgdOnce⟩

/-- The undisturbed run holds the results of its files once. -/
theorem complete_once_sample :
    Always (pipelineStep (runEngines sampleInput)) (OnceLaw sampleInput) { run := sheetsDraft }
      undisturbed := by
  obtain ⟨pd, hpd, -, head⟩ := engines_sample
  obtain ⟨huntil, honce⟩ := run_untilEad hpd
  refine complete_once sampleInput rfl nodup_snapshotKeys_sample undisturbed ?_
  rw [undisturbed, eachStep_append, huntil]
  exact ⟨honce, insertsOnce_delivery rfl rfl (show RunStatus.lgdRunning ≠ .failed by decide)
    head rfl rfl⟩

/-- **Delivered again after its insert**, the EAD stage completes the run with every row of
the loan twice. -/
theorem complete_once_fails :
    ¬ Always (pipelineStep (runEngines sampleInput)) (OnceLaw sampleInput) { run := sheetsDraft }
      redelivered := by
  obtain ⟨pd, hpd, -, head⟩ := engines_sample
  have hfirst := run_delivery_insert
    (p := { run := stageRow .lgd (stageRow .pd (queueRow 0 sheetsDraft))
            pdResults := pd, lgdResults := sampleLgd }) rfl rfl
    (show RunStatus.lgdRunning ≠ .failed by decide) head
  generalize hrow : markStageRunning 0 .ead .eadRunning
    (stageRow .lgd (stageRow .pd (queueRow 0 sheetsDraft))) = row at hfirst
  have hrunning : row.deletedAt = none ∧ row.status = .eadRunning := by
    rw [← hrow]
    exact ⟨rfl, rfl⟩
  have hsecond := run_delivery_insert
    (p := { run := row, pdResults := pd, lgdResults := sampleLgd
            eadResults := [sampleEadResult 0 9, sampleEadResult 1 8] }) rfl hrunning.1
    (by rw [hrunning.2]; decide) head
  have hlose : run (pipelineStep (runEngines sampleInput))
      { run := row, pdResults := pd, lgdResults := sampleLgd
        eadResults := [sampleEadResult 0 9, sampleEadResult 1 8]
        tasks := [⟨.eadEcl, .eclRunning 0 [] 0⟩] } [.lose 0]
      = { run := row, pdResults := pd, lgdResults := sampleLgd
          eadResults := [sampleEadResult 0 9, sampleEadResult 1 8] } := rfl
  intro h
  have hlast := h redelivered List.prefix_rfl
  dsimp only at hfirst hsecond
  rw [redelivered, run_append, (run_untilEad hpd).1, run_append, run_append, run_append, hfirst,
    List.nil_append, hlose, hsecond] at hlast
  obtain ⟨hcomplete, hrows⟩ := @run_fromInsert _ _ _ (runEngines sampleInput)
    { run := markStageRunning 0 .ead .eadRunning row
      pdResults := pd, lgdResults := sampleLgd
      eadResults := [sampleEadResult 0 9, sampleEadResult 1 8]
        ++ [sampleEadResult 0 9, sampleEadResult 1 8]
      tasks := [⟨.eadEcl, .eclRunning 0 [] 0⟩] } rfl
  have hnodup := (hlast hcomplete).rows_nodup
  rw [hrows, List.map_append, List.nodup_append] at hnodup
  exact hnodup.2.2 (sampleEadResult 0 9).key List.mem_cons_self _ List.mem_cons_self rfl

end EclServer.Runs
