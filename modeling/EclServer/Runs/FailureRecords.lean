import EclServer.Runs.Announcements
import EclServer.Runs.StageProgress

/-!
What is recorded of a failure (`_mark_run_failed`, `_mark_run_failed_standalone` and the
handlers around them).

* `stageStatus`: the status of a stage in `engine_progress`, and what the marking of a failure
  does to it.
* `Delivery.activeStage`: the stage at work at a point of a delivery.
* `Ends`: a delivery from an exception to its end, with the writes of others in between.
* `marked_of_ends`: the wrapper writes last, and writes the stage it knows.
* `RecordsFailure`, `failure_recorded_iff`: the record is the real one exactly where the active
  stage is the wrapper's and has not completed.
-/

namespace EclServer.Runs

open EclServer.Library

variable {Pd Lgd Ead : Type}

/-- The status of a stage in `engine_progress`. -/
def stageStatus (run : Run) (s : Stage) : Option EngineStageStatus :=
  (run.engineProgress.bind (·.get s)).map (·.status)

lemma isStageComplete_iff {run : Run} {s : Stage} :
    isStageComplete run s = true ↔ stageStatus run s = some .complete :=
  decide_eq_true_iff

lemma stageStatus_markRunFailed (now : Time) (failureRef : String) (stage : Stage)
    (message : String) (run : Run) (s : Stage) :
    stageStatus (markRunFailed now failureRef stage message run) s
      = if s = stage then some .error else stageStatus run s := by
  cases hprogress : run.engineProgress <;> cases stage <;> cases s <;>
    simp [stageStatus, markRunFailed, atomicStageUpdate, hprogress, EngineProgress.get,
      EngineProgress.set]

namespace Delivery

/-- The stage at work: the one that the handler of the stage function names, or that of the task
before it; none at the marking of a failure and past the session's block. -/
def activeStage (d : Delivery Pd Lgd) : Option Stage :=
  if d.phase = .dispose then none
  else
    match d.task.pc with
    | .markFailed _ _ | .markFailedStandalone _ => none
    | .eclRunning _ _ _ | .readTotals _ _ _ _ | .addArtifacts _ _ _ _ _
    | .markEadComplete _ _ _ _ _ | .markRunComplete _ _ _ _ => some .ecl
    | _ => some d.task.kind.stage

end Delivery

/-- Others write the row as they like, but mark no stage of `completed` as failed. -/
def Spares (completed : Stage → Prop) (p q : Pipeline Pd Lgd Ead) : Prop :=
  ∀ s, completed s → stageStatus q.run s = some .error → stageStatus p.run s = some .error

/-- A delivery that goes on to its end: its own steps, exceptions in its announcements, and
before each of its transactions what others write. The updates of the run row succeed. -/
inductive Ends (engines : Engines Pd Lgd Ead) (completed : Stage → Prop) :
    Deliveries Pd Lgd Ead → Delivery Pd Lgd → Deliveries Pd Lgd Ead → Prop
  | others {w w' : Deliveries Pd Lgd Ead} {d : Delivery Pd Lgd} (q : Pipeline Pd Lgd Ead)
      (hphase : d.phase = .transaction) (hspares : Spares completed w.pipeline q)
      (h : Ends engines completed { w with pipeline := q } d w') : Ends engines completed w d w'
  | advance {w w₁ w' : Deliveries Pd Lgd Ead} {d d₁ : Delivery Pd Lgd} (now : Time)
      (failureRef : String)
      (hstep : advanceDelivery engines now failureRef w d = (w₁, some d₁))
      (h : Ends engines completed w₁ d₁ w') : Ends engines completed w d w'
  | raise {w w' : Deliveries Pd Lgd Ead} {d d₁ : Delivery Pd Lgd} (message : String)
      (hphase : d.phase ≠ .transaction) (hraise : raiseDelivery d message = some d₁)
      (h : Ends engines completed w d₁ w') : Ends engines completed w d w'
  | ended {w w' : Deliveries Pd Lgd Ead} {d : Delivery Pd Lgd} (now : Time) (failureRef : String)
      (hstep : advanceDelivery engines now failureRef w d = (w', none)) :
      Ends engines completed w d w'
  | raised {w : Deliveries Pd Lgd Ead} {d : Delivery Pd Lgd} (message : String)
      (hphase : d.phase ≠ .transaction) (hraise : raiseDelivery d message = none) :
      Ends engines completed w d w

/-! ### The two markings -/

/-- The row says that the stage failed. -/
def Marked (run : Run) (s : Stage) : Prop :=
  run.failureStage = some s.key ∧ stageStatus run s = some .error

lemma marked_markRunFailed (now : Time) (failureRef : String) (s : Stage) (message : String)
    (run : Run) : Marked (markRunFailed now failureRef s message run) s := by
  refine ⟨rfl, ?_⟩
  rw [stageStatus_markRunFailed, if_pos rfl]

section Marking

variable {engines : Engines Pd Lgd Ead} {now : Time} {failureRef : String} {k : TaskKind}
  {s : Stage} {w w' : Deliveries Pd Lgd Ead} {d : Delivery Pd Lgd}

/-- A delivery on its way out: at the marking of the handler that knows stage `s`, or at the
wrapper's, which is the last. -/
structure Marking (k : TaskKind) (s : Stage) (w : Deliveries Pd Lgd Ead) (d : Delivery Pd Lgd) :
    Prop where
  kind : d.task.kind = k
  pc : (∃ message, d.task.pc = .markFailed s message) ∨ ∃ message,
    d.task.pc = .markFailedStandalone message ∧
      (d.phase = .transaction ∨ Marked w.pipeline.run k.stage)

/-- The row after a step of such a delivery. -/
def MarksOnly (now : Time) (failureRef : String) (k : TaskKind) (s : Stage) (run run' : Run) :
    Prop :=
  run' = run ∨ ∃ stage message, (stage = s ∨ stage = k.stage) ∧
    run' = markRunFailed now failureRef stage message run

/-- Inside an announcement a step writes nothing and leaves the point of the task. -/
lemma advance_announcing (htransaction : d.phase ≠ .transaction) (hdispose : d.phase ≠ .dispose) :
    ∃ d₁, advanceDelivery engines now failureRef w d = (w, some d₁) ∧ d₁.task = d.task ∧
      d₁.phase ≠ .transaction := by
  obtain ⟨task, phase, pending⟩ := d
  cases phase with
  | transaction => exact absurd rfl htransaction
  | dispose => exact absurd rfl hdispose
  | readPreference o =>
      simp only [advanceDelivery]
      split_ifs
      · exact ⟨_, rfl, rfl, Phase.noConfusion⟩
      · exact ⟨_, rfl, rfl, Phase.noConfusion⟩
      · exact ⟨_, rfl, rfl, Phase.noConfusion⟩
  | flush o => exact ⟨_, rfl, rfl, Phase.noConfusion⟩
  | logEvent o => exact ⟨_, rfl, rfl, Phase.noConfusion⟩
  | leave => exact ⟨_, rfl, rfl, Phase.noConfusion⟩

/-- **A step on the way out** marks `s` or the stage of the wrapper, and the delivery ends where
the wrapper has marked. -/
lemma Marking.advance {r : Deliveries Pd Lgd Ead × Option (Delivery Pd Lgd)} (h : Marking k s w d)
    (hstep : advanceDelivery engines now failureRef w d = r) :
    MarksOnly now failureRef k s w.pipeline.run r.1.pipeline.run ∧
      (∀ d₁, r.2 = some d₁ → Marking k s r.1 d₁) ∧
      (r.2 = none → Marked r.1.pipeline.run k.stage) := by
  by_cases hannouncing : d.phase ≠ .transaction ∧ d.phase ≠ .dispose
  · obtain ⟨d₁, hadvance, htask, hphase⟩ :=
      @advance_announcing _ _ _ engines now failureRef w d hannouncing.1 hannouncing.2
    obtain rfl := hadvance.symm.trans hstep
    refine ⟨Or.inl rfl, fun d₂ hd₂ => ?_, nofun⟩
    obtain rfl := Option.some.inj hd₂
    refine ⟨htask ▸ h.kind, htask ▸ h.pc.imp id fun ⟨message, hpc, hmarked⟩ => ?_⟩
    exact ⟨message, hpc, Or.inr (hmarked.resolve_left hannouncing.1)⟩
  · obtain ⟨⟨kind, pc⟩, phase, pending⟩ := d
    obtain ⟨hkind, hpc⟩ := h
    obtain rfl : kind = k := hkind
    subst hstep
    have hends : phase = .transaction ∨ phase = .dispose := by
      by_contra hneither
      push Not at hneither
      exact hannouncing hneither
    rcases hends with rfl | rfl
    · rcases hpc with ⟨message, hpc⟩ | ⟨message, hpc, -⟩
      · obtain rfl : pc = .markFailed s message := hpc
        refine ⟨Or.inr ⟨s, message, Or.inl rfl, rfl⟩, fun d₁ hd₁ => ?_, nofun⟩
        obtain rfl := Option.some.inj hd₁
        exact ⟨rfl, Or.inl ⟨message, rfl⟩⟩
      · obtain rfl : pc = .markFailedStandalone message := hpc
        refine ⟨Or.inr ⟨kind.stage, message, Or.inr rfl, rfl⟩, fun d₁ hd₁ => ?_, nofun⟩
        obtain rfl := Option.some.inj hd₁
        exact ⟨rfl, Or.inr ⟨message, rfl, Or.inr (marked_markRunFailed ..)⟩⟩
    · rcases hpc with ⟨message, hpc⟩ | ⟨message, hpc, hmarked⟩
      · -- the stage function raises again, and the wrapper catches it
        obtain rfl : pc = .markFailed s message := hpc
        refine ⟨Or.inl rfl, fun d₁ hd₁ => ?_, nofun⟩
        obtain rfl := Option.some.inj hd₁
        exact ⟨rfl, Or.inr ⟨message, rfl, Or.inl rfl⟩⟩
      · obtain rfl : pc = .markFailedStandalone message := hpc
        refine ⟨Or.inl rfl, fun d₁ hd₁ => ?_, fun _ => hmarked.resolve_left nofun⟩
        exact absurd hd₁.symm (Option.some_ne_none d₁)

/-- An exception in an announcement: the wrapper catches that of the inner handler, and ends. -/
lemma Marking.raise (h : Marking k s w d) (hphase : d.phase ≠ .transaction) (message : String) :
    (∀ d₁, raiseDelivery d message = some d₁ → Marking k s w d₁) ∧
      (raiseDelivery d message = none → Marked w.pipeline.run k.stage) := by
  obtain ⟨⟨kind, pc⟩, phase, pending⟩ := d
  obtain ⟨hkind, hpc⟩ := h
  obtain rfl : kind = k := hkind
  rcases hpc with ⟨message', hpc⟩ | ⟨message', hpc, hmarked⟩
  · obtain rfl : pc = .markFailed s message' := hpc
    have hraise : ∃ rows, raiseDelivery
        (⟨⟨kind, .markFailed s message'⟩, phase, pending⟩ : Delivery Pd Lgd) message
        = some ⟨⟨kind, .markFailedStandalone message⟩, .transaction, rows⟩ := by
      cases phase <;> exact ⟨_, rfl⟩
    obtain ⟨rows, hraise⟩ := hraise
    refine ⟨fun d₁ hd₁ => ?_, fun hnone => absurd (hraise.symm.trans hnone) nofun⟩
    obtain rfl := Option.some.inj (hraise.symm.trans hd₁)
    exact ⟨rfl, Or.inr ⟨message, rfl, Or.inl rfl⟩⟩
  · obtain rfl : pc = .markFailedStandalone message' := hpc
    have hraise : raiseDelivery
        (⟨⟨kind, .markFailedStandalone message'⟩, phase, pending⟩ : Delivery Pd Lgd) message
        = none := by
      cases phase <;> rfl
    exact ⟨fun d₁ hd₁ => absurd (hraise.symm.trans hd₁) nofun,
      fun _ => hmarked.resolve_left hphase⟩

/-- Marking a stage that had not completed marks none that had. -/
lemma MarksOnly.spares {completed : Stage → Prop} {p q : Pipeline Pd Lgd Ead}
    (h : MarksOnly now failureRef k s p.run q.run) (hs : ¬ completed s)
    (hk : ¬ completed k.stage) : Spares completed p q := by
  intro s' hcompleted herror
  rcases h with hsame | ⟨stage, message, hstage, hmarked⟩
  · rwa [hsame] at herror
  · have hne : s' ≠ stage := by
      rintro rfl
      rcases hstage with rfl | rfl
      · exact hs hcompleted
      · exact hk hcompleted
    rwa [hmarked, stageStatus_markRunFailed, if_neg hne] at herror

/-- **The wrapper writes last**: a delivery on its way out ends with its stage marked. The
induction follows the execution. -/
lemma Ends.marked {completed : Stage → Prop} (h : Ends engines completed w d w')
    (hmarking : Marking k s w d) : Marked w'.pipeline.run k.stage := by
  induction h with
  | others q hphase hspares h ih =>
      refine ih ⟨hmarking.kind, hmarking.pc.imp id fun ⟨message, hpc, _⟩ => ?_⟩
      exact ⟨message, hpc, Or.inl hphase⟩
  | advance now failureRef hstep h ih => exact ih ((hmarking.advance hstep).2.1 _ rfl)
  | raise message hphase hraise h ih => exact ih ((hmarking.raise hphase message).1 _ hraise)
  | ended now failureRef hstep => exact (hmarking.advance hstep).2.2 rfl
  | raised message hphase hraise => exact (hmarking.raise hphase message).2 hraise

/-- On its way no stage that had completed is marked, if neither handler's had. -/
lemma Ends.spares {completed : Stage → Prop} (h : Ends engines completed w d w')
    (hmarking : Marking k s w d) (hs : ¬ completed s) (hk : ¬ completed k.stage) :
    Spares completed w.pipeline w'.pipeline := by
  induction h with
  | others q hphase hspares h ih =>
      have hrest := ih ⟨hmarking.kind, hmarking.pc.imp id fun ⟨message, hpc, _⟩ =>
        ⟨message, hpc, Or.inl hphase⟩⟩
      exact fun s' hcompleted herror => hspares s' hcompleted (hrest s' hcompleted herror)
  | advance now failureRef hstep h ih =>
      have hfirst := (hmarking.advance hstep).1.spares hs hk
      have hrest := ih ((hmarking.advance hstep).2.1 _ rfl)
      exact fun s' hcompleted herror => hfirst s' hcompleted (hrest s' hcompleted herror)
  | raise message hphase hraise h ih => exact ih ((hmarking.raise hphase message).1 _ hraise)
  | ended now failureRef hstep => exact (hmarking.advance hstep).1.spares hs hk
  | raised message hphase hraise => exact fun _ _ herror => herror

end Marking

/-! ### The record -/

/-- **The recorded failure is the real one.** -/
structure RecordsFailure (completed : Stage → Prop) (s : Stage) (run : Run) : Prop where
  failureStage : run.failureStage = some s.key
  progress : stageStatus run s = some .error
  spared : ∀ s', completed s' → stageStatus run s' ≠ some .error

/-- Inside the session's block an exception moves the task. -/
lemma task_raiseDelivery {d d₁ : Delivery Pd Lgd} {message : String} (hphase : d.phase ≠ .dispose)
    (h : raiseDelivery d message = some d₁) :
    raiseAt d.task message = some d₁.task ∧ d₁.phase = .transaction := by
  rw [raiseDelivery] at h
  split at h
  · obtain ⟨t, ht, rfl⟩ := Option.map_eq_some_iff.mp h
    exact ⟨ht, rfl⟩
  · rename_i hdispose
    exact absurd hdispose hphase
  · obtain ⟨t, ht, rfl⟩ := Option.map_eq_some_iff.mp h
    exact ⟨ht, rfl⟩

/-- An exception of an active stage leads to the handler that knows it, or to the wrapper alone,
where the stage is the wrapper's. -/
lemma marking_of_raise {w : Deliveries Pd Lgd Ead} {d d₁ : Delivery Pd Lgd} {s : Stage}
    {message : String} (hactive : d.activeStage = some s)
    (hraise : raiseDelivery d message = some d₁) : Marking d.task.kind s w d₁ := by
  obtain ⟨⟨kind, pc⟩, phase, pending⟩ := d
  rw [Delivery.activeStage] at hactive
  split_ifs at hactive with hdispose
  obtain ⟨htask, hphase⟩ := task_raiseDelivery hdispose hraise
  have hwrapper : d₁.task = ⟨kind, .markFailedStandalone message⟩ → Marking kind s w d₁ := by
    intro ht
    exact ⟨by rw [ht], Or.inr ⟨message, by rw [ht], Or.inl hphase⟩⟩
  have hhandler : d₁.task = ⟨kind, .markFailed s message⟩ → Marking kind s w d₁ := by
    intro ht
    exact ⟨by rw [ht], Or.inl ⟨message, by rw [ht]⟩⟩
  cases pc with
  | markFailed stage message' => cases hactive
  | markFailedStandalone message' => cases hactive
  -- before the `try` of the stage function
  | load => exact hwrapper (Option.some.inj htask).symm
  | checkComplete => exact hwrapper (Option.some.inj htask).symm
  | markRunning => exact hwrapper (Option.some.inj htask).symm
  | _ =>
      obtain rfl := Option.some.inj hactive
      exact hhandler (Option.some.inj htask).symm

/-- **The failure that is recorded** when a task ends is that of the stage at work exactly where
this is the stage the wrapper knows, and it had not completed. -/
theorem failure_recorded_iff {engines : Engines Pd Lgd Ead} {w w' : Deliveries Pd Lgd Ead}
    {d d₁ : Delivery Pd Lgd} {s : Stage} {message : String} (hactive : d.activeStage = some s)
    (hraise : raiseDelivery d message = some d₁)
    (hends : Ends engines (fun s' => isStageComplete w.pipeline.run s' = true) w d₁ w') :
    RecordsFailure (fun s' => isStageComplete w.pipeline.run s' = true) s w'.pipeline.run
      ↔ s = d.task.kind.stage ∧ isStageComplete w.pipeline.run s = false := by
  have hmarking := @marking_of_raise _ _ _ w _ _ _ _ hactive hraise
  obtain ⟨hstage, herror⟩ := hends.marked hmarking
  constructor
  · intro hrecords
    have hsame : s = d.task.kind.stage :=
      key_injective (Option.some.inj (hrecords.failureStage.symm.trans hstage))
    refine ⟨hsame, Bool.eq_false_iff.mpr fun hcomplete => ?_⟩
    exact hrecords.spared s hcomplete hrecords.progress
  · rintro ⟨rfl, hopen⟩
    have hnot : ¬ isStageComplete w.pipeline.run d.task.kind.stage = true :=
      Bool.eq_false_iff.mp hopen
    refine ⟨hstage, herror, fun s' hcomplete hmarked => ?_⟩
    have hbefore := hends.spares hmarking hnot hnot s' hcomplete hmarked
    rw [isStageComplete_iff.mp hcomplete] at hbefore
    cases hbefore

/-! ### Undisturbed deliveries -/

/-- A delivery that nothing disturbs, for at most `n` steps. -/
def runDelivery (engines : Engines Pd Lgd Ead) (now : Time) (failureRef : String) :
    ℕ → Deliveries Pd Lgd Ead → Delivery Pd Lgd → Option (Deliveries Pd Lgd Ead)
  | 0, _, _ => none
  | n + 1, w, d =>
      match advanceDelivery engines now failureRef w d with
      | (w', none) => some w'
      | (w', some d') => runDelivery engines now failureRef n w' d'

lemma ends_of_runDelivery {engines : Engines Pd Lgd Ead} {completed : Stage → Prop} {now : Time}
    {failureRef : String} {n : ℕ} {w w' : Deliveries Pd Lgd Ead} {d : Delivery Pd Lgd}
    (h : runDelivery engines now failureRef n w d = some w') : Ends engines completed w d w' := by
  induction n generalizing w d with
  | zero => cases h
  | succ n ih =>
      rw [runDelivery] at h
      split at h
      · rename_i hstep
        obtain rfl := Option.some.inj h
        exact .ended now failureRef hstep
      · rename_i hstep
        exact .advance now failureRef hstep (ih h)

/-! ### The PD task and the ECL stage -/

/-- A run whose PD delivery is about to compute. -/
def pdComputing : Deliveries Unit Unit Unit :=
  run (deliveriesStep idleEngines) (Deliveries.start sampleAnnounced [])
    (.deliver .pd :: List.replicate 3 (.advance 0 0 "ref"))

def pdDelivery : Delivery Unit Unit := { task := { kind := .pd, pc := .compute 0 } }

theorem failure_recorded_iff_sample :
    pdComputing.deliveries = [pdDelivery] ∧ ∃ w' : Deliveries Unit Unit Unit,
      (RecordsFailure (fun s => isStageComplete pdComputing.pipeline.run s = true) .pd
          w'.pipeline.run
        ↔ Stage.pd = pdDelivery.task.kind.stage ∧
          isStageComplete pdComputing.pipeline.run .pd = false) := by
  obtain ⟨w', hends⟩ : ∃ w', runDelivery idleEngines 0 "ref" 12 pdComputing
      (pdDelivery.moveTo { kind := .pd, pc := .markFailed .pd "storage unavailable" }) = some w' :=
    ⟨_, rfl⟩
  have hraise : raiseDelivery pdDelivery "storage unavailable" = some
      (pdDelivery.moveTo { kind := .pd, pc := .markFailed .pd "storage unavailable" }) := rfl
  exact ⟨rfl, w', failure_recorded_iff rfl hraise (ends_of_runDelivery hends)⟩

/-- A run whose EAD/ECL delivery has the ECL stage at work. -/
def eclComputing : Deliveries Unit Unit Unit :=
  run (deliveriesStep idleEngines) (Deliveries.start sampleAnnounced [])
    (.deliver .eadEcl :: List.replicate 6 (.advance 0 0 "ref"))

def eclDelivery : Delivery Unit Unit := { task := { kind := .eadEcl, pc := .readTotals 0 0 [] 0 } }

/-- The handler of the stage function marks the ECL stage, and then the wrapper the EAD stage. -/
theorem failure_recorded_fails : eclComputing.deliveries = [eclDelivery] ∧
    eclDelivery.activeStage = some .ecl ∧ ∃ d₁, ∃ w' : Deliveries Unit Unit Unit,
      raiseDelivery eclDelivery "disk full" = some d₁ ∧
      Ends idleEngines (fun s => isStageComplete eclComputing.pipeline.run s = true) eclComputing
        d₁ w' ∧
      w'.pipeline.run.failureStage = some "ead" ∧
      ¬ RecordsFailure (fun s => isStageComplete eclComputing.pipeline.run s = true) .ecl
        w'.pipeline.run := by
  obtain ⟨w', hends, hstage⟩ : ∃ w', runDelivery idleEngines 0 "ref" 12 eclComputing
      (eclDelivery.moveTo { kind := .eadEcl, pc := .markFailed .ecl "disk full" }) = some w' ∧
      w'.pipeline.run.failureStage = some "ead" := ⟨_, rfl, rfl⟩
  refine ⟨rfl, rfl, _, w', rfl, ends_of_runDelivery hends, hstage, fun hrecords => ?_⟩
  have hsame := Option.some.inj (hstage.symm.trans hrecords.failureStage)
  exact absurd hsame (by decide)

end EclServer.Runs
