import EclServer.Runs.StatusMachine

/-!
Announcements of a run's end (`_mark_run_failed`, the end of `_ead_ecl_main`,
`create_notification_if_enabled`, `log_event`).

* `Delivery`: a delivery of a task with the rows its session has added and not committed;
  `Phase`: where it stands after the update that has made its run complete or failed.
* `advanceDelivery`, `raiseDelivery`: its next step, and an exception there. Only the updates of
  the run row commit; a session that is closed drops the rest.
* `deliveriesStep`: one step of anybody. An exception can come at any point (a time limit of the
  worker is one), and a delivery may be lost at any point.
* `Announced`: the audit event of an outcome, and the notification that goes with it.
* `Unannounced`: no failure is ever announced, and a completion only in a session that goes on
  to mark the run as failed; `not_announced_of_outcome`.
-/

namespace EclServer.Runs

open EclServer.Library

/-! ### Rows -/

/-- How a run ends. -/
inductive Outcome where
  | completed | failed
  deriving DecidableEq, Repr

namespace Outcome

/-- The value of `AuditEvent`. -/
def event : Outcome → String
  | completed => "run.completed"
  | failed => "run.failed"

/-- The `kind` of the notification. -/
def kind : Outcome → String
  | completed => "run_completed"
  | failed => "run_failed"

def title : Outcome → String
  | completed => "Run completed"
  | failed => "Run failed"

/-- The body, with `run_id[:8]`. -/
def body (run : Run) : Outcome → String
  | completed => "\"" ++ run.name ++ "\" finished successfully. View results for run "
      ++ takeChars 8 run.id ++ "."
  | failed => "\"" ++ run.name ++ "\" did not complete. Check the run detail for run "
      ++ takeChars 8 run.id ++ "."

/-- The outcome that goes with a status. -/
def ofStatus : RunStatus → Option Outcome
  | .complete => some completed
  | .failed => some failed
  | _ => none

end Outcome

/-- A row of `audit_logs`. -/
structure RunAuditLog where
  eventType : String
  userId : Option String := none
  tenantId : Option String := none
  status : String := "success"
  details : List (String × String) := []
  deriving DecidableEq, Repr

structure UserNotification where
  userId : String
  tenantId : String
  kind : String
  title : String
  body : String
  isRead : Bool := false
  deriving DecidableEq, Repr

/-- The preferences the tasks read. -/
structure NotificationPreferences where
  userId : String
  runCompleted : Bool := true
  runFailed : Bool := true
  deriving DecidableEq, Repr

/-- A row that a session has added. -/
inductive NewRow where
  | auditLog (row : RunAuditLog)
  | notification (row : UserNotification)
  deriving DecidableEq, Repr

/-- `getattr(row, pref_field)`. -/
def NotificationPreferences.enables (row : NotificationPreferences) : Outcome → Bool
  | .completed => row.runCompleted
  | .failed => row.runFailed

/-- `_pref_enabled`. -/
def prefEnabled (preferences : List NotificationPreferences) (userId : String) (o : Outcome) :
    Bool :=
  match preferences.find? fun row => row.userId = userId with
  | none => true
  | some row => row.enables o

/-- The row of `notify_run_completed` and `notify_run_failed`. -/
def notificationOf (o : Outcome) (run : Run) : UserNotification where
  userId := run.createdByUserId
  tenantId := run.tenantId
  kind := o.kind
  title := o.title
  body := o.body run

/-- The event is about the run. -/
def RunAuditLog.IsFor (runId : String) (row : RunAuditLog) : Prop :=
  ("run_id", runId) ∈ row.details

/-- The row announces the outcome of the run in the audit log. -/
def NewRow.Announces (runId : String) (o : Outcome) : NewRow → Prop
  | .auditLog row => row.eventType = o.event ∧ row.IsFor runId
  | .notification _ => False

instance (runId : String) (o : Outcome) (row : NewRow) : Decidable (row.Announces runId o) :=
  match row with
  | .auditLog row => inferInstanceAs (Decidable (row.eventType = o.event ∧ _ ∈ row.details))
  | .notification _ => inferInstanceAs (Decidable False)

/-! ### Deliveries and their sessions -/

variable {Pd Lgd Ead : Type}

/-- The transaction ends with `db.commit()`; the others read, or write through a connection of
their own. -/
def Pc.commits : Pc Pd Lgd → Bool
  | .load | .checkComplete | .compute _ | .loadPd _ | .loadLgd _ _ | .insertEad _ _ _
  | .readTotals _ _ _ _ => false
  | .markRunComplete _ _ warnings _ => warnings = []
  | _ => true

/-- The terminal status that the next transaction writes. -/
def Task.outcome (t : Task Pd Lgd) : Option Outcome := t.writesStatus.bind Outcome.ofStatus

lemma Task.outcome_markRunComplete {kind : TaskKind} {eclStartedAt : Time} {totals : RunTotals}
    {warnings : List String} {inserted : ℕ} :
    (Task.mk kind (Pc.markRunComplete eclStartedAt totals warnings inserted : Pc Pd Lgd)).outcome
      = if warnings = [] then some .completed else none := by
  simp only [Task.outcome, Task.writesStatus]
  split <;> rfl

/-- Where a delivery stands: at a transaction of its task, in the announcement of the outcome
that this has committed, at the end of the session's block, or past it. -/
inductive Phase where
  | transaction
  | readPreference (o : Outcome)
  | flush (o : Outcome)
  | logEvent (o : Outcome)
  | leave
  | dispose
  deriving DecidableEq, Repr

/-- A delivery and the rows its session has added and not committed. -/
structure Delivery (Pd Lgd : Type) where
  task : Task Pd Lgd
  phase : Phase := .transaction
  pending : List NewRow := []

/-- The tables that the announcements read and write, the run and its deliveries. The list
`outcomes` records the terminal statuses that tasks have written; no code reads it. -/
structure Deliveries (Pd Lgd Ead : Type) where
  pipeline : Pipeline Pd Lgd Ead
  auditLogs : List RunAuditLog := []
  notifications : List UserNotification := []
  preferences : List NotificationPreferences := []
  deliveries : List (Delivery Pd Lgd) := []
  outcomes : List Outcome := []

/-- `db.commit()`. -/
def Deliveries.commit (w : Deliveries Pd Lgd Ead) (rows : List NewRow) : Deliveries Pd Lgd Ead :=
  { w with
    auditLogs := w.auditLogs ++ rows.filterMap fun
      | .auditLog row => some row
      | .notification _ => none
    notifications := w.notifications ++ rows.filterMap fun
      | .notification row => some row
      | .auditLog _ => none }

namespace Delivery

/-- Go on at another transaction: the wrapper of the task opens a session of its own. -/
def moveTo (d : Delivery Pd Lgd) (t : Task Pd Lgd) : Delivery Pd Lgd where
  task := t
  pending := match t.pc with
    | .markFailedStandalone _ => []
    | _ => d.pending

/-- The `details` of the event; a failure names the stage and the first 500 characters of the
message. -/
def details (run : Run) (t : Task Pd Lgd) : List (String × String) :=
  match t.pc with
  | .markFailed stage message =>
      [("run_id", run.id), ("stage", stage.key), ("message", takeChars 500 message)]
  | .markFailedStandalone message =>
      [("run_id", run.id), ("stage", t.kind.stage.key), ("message", takeChars 500 message)]
  | _ => [("run_id", run.id)]

/-- The row of `log_event`. -/
def auditLogOf (o : Outcome) (run : Run) (t : Task Pd Lgd) : RunAuditLog where
  eventType := o.event
  userId := some run.createdByUserId
  tenantId := some run.tenantId
  details := details run t

/-- What follows the block of the session: the stage function raises again after
`_mark_run_failed`, and the wrapper catches it. -/
def afterSession (t : Task Pd Lgd) : Option (Task Pd Lgd) :=
  match t.pc with
  | .markFailed _ message => some { t with pc := .markFailedStandalone message }
  | _ => none

end Delivery

/-- The next step of a delivery. -/
def advanceDelivery (engines : Engines Pd Lgd Ead) (now : Time) (failureRef : String)
    (w : Deliveries Pd Lgd Ead) (d : Delivery Pd Lgd) :
    Deliveries Pd Lgd Ead × Option (Delivery Pd Lgd) :=
  match d.phase with
  | .transaction =>
      let r := advance engines now failureRef w.pipeline d.task
      let written := { w with pipeline := r.1, outcomes := w.outcomes ++ d.task.outcome.toList }
      let committed := if d.task.pc.commits then written.commit d.pending else written
      let left := { d with pending := if d.task.pc.commits then [] else d.pending }
      match d.task.outcome, r.2 with
      | some o, _ => (committed, some { left with phase := .readPreference o })
      | none, some t => (committed, some (left.moveTo t))
      | none, none => (committed, some { left with phase := .leave })
  | .readPreference o =>
      let run := w.pipeline.run
      if run.createdByUserId = "" then (w, some { d with phase := .leave })
      else if prefEnabled w.preferences run.createdByUserId o then
        (w, some { d with
          phase := .flush o, pending := d.pending ++ [.notification (notificationOf o run)] })
      else (w, some { d with phase := .logEvent o })
  | .flush o => (w, some { d with phase := .logEvent o })
  | .logEvent o =>
      (w, some { d with
        phase := .leave
        pending := d.pending ++ [.auditLog (Delivery.auditLogOf o w.pipeline.run d.task)] })
  | .leave => (w, some { d with phase := .dispose, pending := [] })
  | .dispose => (w, (Delivery.afterSession d.task).map fun t => { task := t })

/-- An exception at a point of the delivery. A flush that fails rolls the session back; past the
session's block only the wrapper is left to catch it. -/
def raiseDelivery (d : Delivery Pd Lgd) (message : String) : Option (Delivery Pd Lgd) :=
  match d.phase with
  | .flush _ => (raiseAt d.task message).map ({ d with pending := [] } : Delivery Pd Lgd).moveTo
  | .dispose =>
      match d.task.pc with
      | .markFailedStandalone _ => none
      | _ => some { task := { d.task with pc := .markFailedStandalone message } }
  | _ => (raiseAt d.task message).map d.moveTo

/-- The requests and the sweep that write the run row. -/
inductive Request where
  | executeRun (now : Time) (uploads : List Upload)
  | revertRun (now : Time)
  | beginDelete
  | commitDelete (now : Time) (userId : String)
  | recoverStuckRuns (now : Time)

def Request.toAction : Request → PipelineAction
  | .executeRun now uploads => .executeRun now uploads
  | .revertRun now => .revertRun now
  | .beginDelete => .beginDelete
  | .commitDelete now userId => .commitDelete now userId
  | .recoverStuckRuns now => .recoverStuckRuns now

/-- A step of anybody; `i` numbers the deliveries in flight. -/
inductive DeliveriesAction where
  | request (r : Request)
  | otherRows (rows : List NewRow)
  | setPreferences (preferences : List NotificationPreferences)
  | deliver (kind : TaskKind)
  | advance (i : ℕ) (now : Time) (failureRef : String)
  | raise (i : ℕ) (message : String)
  | lose (i : ℕ)

/-- Put back what is left of delivery `i`. -/
def putDelivery (w : Deliveries Pd Lgd Ead) (i : ℕ) :
    Option (Delivery Pd Lgd) → Deliveries Pd Lgd Ead
  | none => { w with deliveries := w.deliveries.eraseIdx i }
  | some d => { w with deliveries := w.deliveries.set i d }

/-- The row is one of the announcements of the run. -/
def NewRow.IsAnnouncement (runId : String) (row : NewRow) : Prop :=
  row.Announces runId .completed ∨ row.Announces runId .failed

instance (runId : String) (row : NewRow) : Decidable (row.IsAnnouncement runId) :=
  inferInstanceAs (Decidable (_ ∨ _))

def deliveriesStep (engines : Engines Pd Lgd Ead) (w : Deliveries Pd Lgd Ead) :
    DeliveriesAction → Deliveries Pd Lgd Ead
  | .request r => { w with pipeline := pipelineStep engines w.pipeline r.toAction }
  | .otherRows rows =>
      -- no other code makes the events of a run's end
      w.commit (rows.filter fun row => ¬ row.IsAnnouncement w.pipeline.run.id)
  | .setPreferences preferences => { w with preferences := preferences }
  | .deliver kind =>
      { w with deliveries := w.deliveries ++ [{ task := { kind := kind, pc := .load } }] }
  | .advance i now failureRef =>
      match w.deliveries[i]? with
      | none => w
      | some d =>
          let r := advanceDelivery engines now failureRef w d
          putDelivery r.1 i r.2
  | .raise i message =>
      match w.deliveries[i]? with
      | none => w
      | some d => putDelivery w i (raiseDelivery d message)
  | .lose i => putDelivery w i none

/-- **The outcome is announced**: by an audit event, and by a notification to the run's creator
unless the preference disables it. -/
def Announced (w : Deliveries Pd Lgd Ead) (o : Outcome) : Prop :=
  (∃ row ∈ w.auditLogs, row.eventType = o.event ∧ row.IsFor w.pipeline.run.id) ∧
    (prefEnabled w.preferences w.pipeline.run.createdByUserId o = true →
      ∃ row ∈ w.notifications, row.userId = w.pipeline.run.createdByUserId ∧ row.kind = o.kind)

/-! ### What the sessions hold -/

section Sessions

variable {engines : Engines Pd Lgd Ead} {now : Time} {failureRef : String} {runId : String}

/-- The outcome that a delivery is announcing. -/
def Phase.outcome : Phase → Option Outcome
  | .readPreference o | .flush o | .logEvent o => some o
  | _ => none

/-- A session holds the announcement of a failure only after the update that marks it, and that
of a completion at a transaction only where this marks the run as failed. -/
structure Delivery.Holds (runId : String) (d : Delivery Pd Lgd) : Prop where
  announcing : ∀ o, d.phase.outcome = some o → d.task.outcome = some o
  failed : ∀ row ∈ d.pending, row.Announces runId .failed →
    d.phase ≠ .transaction ∧ d.task.outcome = some .failed
  completed : ∀ row ∈ d.pending, row.Announces runId .completed →
    d.phase = .transaction → d.task.outcome = some .failed

/-- A session with nothing added. -/
lemma Delivery.Holds.of_nil {d : Delivery Pd Lgd} (hpending : d.pending = [])
    (h : ∀ o, d.phase.outcome = some o → d.task.outcome = some o) : d.Holds runId where
  announcing := h
  failed row hrow := by simp [hpending] at hrow
  completed row hrow := by simp [hpending] at hrow

/-- A terminal status is committed by the transaction that writes it. -/
lemma commits_of_outcome {t : Task Pd Lgd} {o : Outcome} (h : t.outcome = some o) :
    t.pc.commits = true := by
  obtain ⟨kind, pc⟩ := t
  cases pc with
  | markRunComplete eclStartedAt totals warnings inserted =>
      rw [Task.outcome_markRunComplete] at h
      split at h
      · exact decide_eq_true ‹_›
      · cases h
  | _ => first | rfl | cases h

/-- An exception leads to a marking of the run as failed, and in the session of the stage
function only from a point that marks no failure itself. -/
lemma raiseAt_cases {t t' : Task Pd Lgd} {message : String} (h : raiseAt t message = some t') :
    t'.outcome = some .failed ∧ (t'.pc = .markFailedStandalone message ∨
      t.outcome ≠ some .failed) := by
  obtain ⟨kind, pc⟩ := t
  cases pc with
  | markFailedStandalone message' => cases h
  | load => exact Option.some.inj h ▸ ⟨rfl, Or.inl rfl⟩
  | checkComplete => exact Option.some.inj h ▸ ⟨rfl, Or.inl rfl⟩
  | markRunning => exact Option.some.inj h ▸ ⟨rfl, Or.inl rfl⟩
  | markFailed stage message' => exact Option.some.inj h ▸ ⟨rfl, Or.inl rfl⟩
  | markRunComplete eclStartedAt totals warnings inserted =>
      refine Option.some.inj h ▸ ⟨rfl, Or.inr fun hfailed => ?_⟩
      rw [Task.outcome_markRunComplete] at hfailed
      split at hfailed
      · cases hfailed
      · cases hfailed
  | _ => exact Option.some.inj h ▸ ⟨rfl, Or.inr (fun hfailed => by cases hfailed)⟩

/-- A session goes on with rows it has. -/
lemma mem_pending_moveTo {d : Delivery Pd Lgd} {t : Task Pd Lgd} {row : NewRow}
    (h : row ∈ (d.moveTo t).pending) : row ∈ d.pending := by
  rw [Delivery.moveTo] at h
  split at h
  · cases h
  · exact h

lemma pending_moveTo_standalone {d : Delivery Pd Lgd} {t : Task Pd Lgd} {message : String}
    (h : t.pc = .markFailedStandalone message) : (d.moveTo t).pending = [] := by
  rw [Delivery.moveTo, h]

/-- **After an exception** the session holds no failure's announcement. -/
lemma Delivery.Holds.moveTo_raiseAt {d : Delivery Pd Lgd} (h : d.Holds runId) {message : String}
    {t : Task Pd Lgd} (ht : raiseAt d.task message = some t) : (d.moveTo t).Holds runId := by
  obtain ⟨hfails, hdrops⟩ := raiseAt_cases ht
  rcases hdrops with hpc | hmarks
  · exact .of_nil (pending_moveTo_standalone hpc) nofun
  · refine ⟨nofun, fun row hrow hannounces => ?_, fun row hrow _ _ => hfails⟩
    exact absurd (h.failed row (mem_pending_moveTo hrow) hannounces).2 hmarks

lemma holds_raiseDelivery {d d' : Delivery Pd Lgd} {message : String} (h : d.Holds runId)
    (hraise : raiseDelivery d message = some d') : d'.Holds runId := by
  rw [raiseDelivery] at hraise
  split at hraise
  · obtain ⟨t, ht, rfl⟩ := Option.map_eq_some_iff.mp hraise
    have hdropped : ({ d with pending := [] } : Delivery Pd Lgd).Holds runId :=
      .of_nil rfl h.announcing
    exact hdropped.moveTo_raiseAt ht
  · split at hraise
    · cases hraise
    · obtain rfl := Option.some.inj hraise
      exact .of_nil rfl nofun
  · obtain ⟨t, ht, rfl⟩ := Option.map_eq_some_iff.mp hraise
    exact h.moveTo_raiseAt ht

/-- An event announces its own outcome. -/
lemma announces_auditLogOf {o o' : Outcome} {run : Run} {t : Task Pd Lgd}
    (h : (NewRow.auditLog (Delivery.auditLogOf o run t)).Announces runId o') : o = o' := by
  have hevent : o.event = o'.event := h.1
  cases o with
  | completed =>
      cases o' with
      | completed => rfl
      | failed => exact absurd hevent (by decide)
  | failed =>
      cases o' with
      | completed => exact absurd hevent (by decide)
      | failed => rfl

/-- **The next step** keeps what sessions hold. -/
lemma holds_advanceDelivery {w : Deliveries Pd Lgd Ead} {d d' : Delivery Pd Lgd}
    (h : d.Holds runId) (hstep : (advanceDelivery engines now failureRef w d).2 = some d') :
    d'.Holds runId := by
  obtain ⟨task, phase, pending⟩ := d
  cases phase with
  | transaction =>
      have hquiet : ∀ row ∈ pending, ¬ row.Announces runId .failed := fun row hrow hannounces =>
        (h.failed row hrow hannounces).1 rfl
      simp only [advanceDelivery] at hstep
      split at hstep
      · -- a terminal status has been committed, with the rows that were pending
        rename_i o _ ho
        obtain rfl := Option.some.inj hstep
        refine .of_nil ?_ fun o' ho' => ho.trans ho'
        rw [commits_of_outcome ho]
        rfl
      · -- nothing to announce is pending, as the transaction marks no failure
        rename_i t hnone _
        obtain rfl := Option.some.inj hstep
        refine ⟨nofun, fun row hrow hannounces => ?_, fun row hrow hannounces _ => ?_⟩
        · have hleft := mem_pending_moveTo hrow
          split_ifs at hleft
          · cases hleft
          · exact absurd hannounces (hquiet row hleft)
        · have hleft := mem_pending_moveTo hrow
          split_ifs at hleft
          · cases hleft
          · have hfails := h.completed row hleft hannounces rfl
            rw [show task.outcome = none from hnone] at hfails
            cases hfails
      · obtain rfl := Option.some.inj hstep
        refine ⟨nofun, fun row hrow hannounces => ?_, fun row _ _ => nofun⟩
        dsimp only at hrow
        split_ifs at hrow
        · cases hrow
        · exact absurd hannounces (hquiet row hrow)
  | readPreference o =>
      have ho : task.outcome = some o := h.announcing o rfl
      simp only [advanceDelivery] at hstep
      split_ifs at hstep
      · obtain rfl := Option.some.inj hstep
        exact ⟨nofun, fun row hrow hannounces =>
          ⟨Phase.noConfusion, (h.failed row hrow hannounces).2⟩, fun _ _ _ => nofun⟩
      · obtain rfl := Option.some.inj hstep
        refine ⟨h.announcing, fun row hrow hannounces => ⟨Phase.noConfusion, ?_⟩,
          fun _ _ _ => nofun⟩
        rcases List.mem_append.mp hrow with hold | hnew
        · exact (h.failed row hold hannounces).2
        · rw [List.mem_singleton.mp hnew] at hannounces
          exact hannounces.elim
      · obtain rfl := Option.some.inj hstep
        exact ⟨h.announcing, fun row hrow hannounces =>
          ⟨Phase.noConfusion, (h.failed row hrow hannounces).2⟩, fun _ _ _ => nofun⟩
  | flush o =>
      obtain rfl := Option.some.inj hstep
      exact ⟨h.announcing, fun row hrow hannounces =>
        ⟨Phase.noConfusion, (h.failed row hrow hannounces).2⟩, fun _ _ _ => nofun⟩
  | logEvent o =>
      have ho : task.outcome = some o := h.announcing o rfl
      obtain rfl := Option.some.inj hstep
      refine ⟨nofun, fun row hrow hannounces => ⟨Phase.noConfusion, ?_⟩,
        fun _ _ _ => nofun⟩
      rcases List.mem_append.mp hrow with hold | hnew
      · exact (h.failed row hold hannounces).2
      · rw [List.mem_singleton.mp hnew] at hannounces
        rw [← announces_auditLogOf hannounces]
        exact ho
  | leave =>
      obtain rfl := Option.some.inj hstep
      exact .of_nil rfl nofun
  | dispose =>
      obtain ⟨t, -, rfl⟩ := Option.map_eq_some_iff.mp hstep
      exact .of_nil rfl nofun

/-! ### What is committed -/

/-- **What the tables lack**: no failure is announced, a completion only where the run was marked
as failed afterwards. -/
structure Unannounced (runId : String) (w : Deliveries Pd Lgd Ead) : Prop where
  id : w.pipeline.run.id = runId
  failed : ∀ row ∈ w.auditLogs, ¬ (row.eventType = Outcome.failed.event ∧ row.IsFor runId)
  completed : ∀ row ∈ w.auditLogs, row.eventType = Outcome.completed.event → row.IsFor runId →
    .failed ∈ w.outcomes
  sessions : ∀ d ∈ w.deliveries, d.Holds runId

variable {w : Deliveries Pd Lgd Ead}

lemma mem_auditLogs_commit {rows : List NewRow} {row : RunAuditLog} :
    row ∈ (w.commit rows).auditLogs ↔ row ∈ w.auditLogs ∨ .auditLog row ∈ rows := by
  rw [Deliveries.commit, List.mem_append, List.mem_filterMap]
  refine or_congr_right ⟨?_, fun h => ⟨_, h, rfl⟩⟩
  rintro ⟨r, hr, hrow⟩
  cases r with
  | notification _ => cases hrow
  | auditLog r =>
      obtain rfl := Option.some.inj hrow
      exact hr

/-- Updates by id leave the id. -/
lemma id_advance {p : Pipeline Pd Lgd Ead} {t : Task Pd Lgd} :
    (advance engines now failureRef p t).1.run.id = p.run.id := by
  obtain ⟨kind, pc⟩ := t
  cases pc with
  | compute startedAt => cases kind <;> simp only [advance] <;> split <;> rfl
  | insertEad startedAt pd lgd =>
      simp only [advance]
      split <;> rfl
  | markRunComplete eclStartedAt totals warnings inserted =>
      simp only [advance]
      split <;> rfl
  | load =>
      simp only [advance]
      split_ifs <;> rfl
  | checkComplete =>
      simp only [advance]
      split_ifs <;> rfl
  | _ => rfl

lemma id_recoverRow (run : Run) : (recoverRow now run).id = run.id := by
  have hkeeps : ∀ statuses age stage msg (r : Run),
      (failStuck statuses age stage msg now r).id = r.id := by
    intro statuses age stage msg r
    rw [failStuck]
    split <;> rfl
  rw [recoverRow, hkeeps, hkeeps]

lemma id_request {p : Pipeline Pd Lgd Ead} (r : Request) :
    (pipelineStep engines p r.toAction).run.id = p.run.id := by
  cases r with
  | executeRun now uploads =>
      rcases executePipeline_run now uploads p with hsame | ⟨-, hqueued⟩
      · exact congrArg Run.id hsame
      · exact (congrArg Run.id hqueued).trans rfl
  | revertRun now =>
      simp only [Request.toAction, pipelineStep]
      split
      · rfl
      · simp only [revertRow]
        split <;> rfl
  | beginDelete =>
      simp only [Request.toAction, pipelineStep]
      split <;> rfl
  | commitDelete now userId =>
      simp only [Request.toAction, pipelineStep]
      split <;> rfl
  | recoverStuckRuns now => exact id_recoverRow p.run

/-- Deliveries are put back or end. -/
lemma Unannounced.putDelivery (h : Unannounced runId w) {i : ℕ} {r : Option (Delivery Pd Lgd)}
    (hr : ∀ d ∈ r, d.Holds runId) : Unannounced runId (putDelivery w i r) := by
  cases r with
  | none =>
      exact ⟨h.id, h.failed, h.completed, fun d hd => h.sessions d (List.mem_of_mem_eraseIdx hd)⟩
  | some d =>
      refine ⟨h.id, h.failed, h.completed, fun d' hd' => ?_⟩
      rcases List.mem_or_eq_of_mem_set hd' with hold | rfl
      · exact h.sessions d' hold
      · exact hr _ rfl

/-- Rows that announce nothing of the run can be committed by anybody. -/
lemma Unannounced.commit_other (h : Unannounced runId w) {rows : List NewRow}
    (hrows : ∀ row ∈ rows, ¬ row.IsAnnouncement runId) : Unannounced runId (w.commit rows) where
  id := h.id
  failed row hrow hannounces := by
    rcases mem_auditLogs_commit.mp hrow with hold | hnew
    · exact h.failed row hold hannounces
    · exact hrows _ hnew (Or.inr hannounces)
  completed row hrow hevent hfor := by
    rcases mem_auditLogs_commit.mp hrow with hold | hnew
    · exact h.completed row hold hevent hfor
    · exact absurd (Or.inl ⟨hevent, hfor⟩) (hrows _ hnew)
  sessions := h.sessions

/-- **A transaction of a delivery** commits no failure's announcement, and that of a completion
with the marking of the run as failed. -/
lemma Unannounced.advanceDelivery (h : Unannounced runId w) {d : Delivery Pd Lgd}
    (hd : d.Holds runId) : Unannounced runId (advanceDelivery engines now failureRef w d).1 := by
  obtain ⟨task, phase, pending⟩ := d
  cases phase with
  | transaction =>
      set written : Deliveries Pd Lgd Ead :=
        { w with
          pipeline := (advance engines now failureRef w.pipeline task).1
          outcomes := w.outcomes ++ task.outcome.toList } with hwritten
      have hkept : Unannounced runId written :=
        ⟨id_advance.trans h.id, h.failed, fun row hrow hevent hfor =>
          List.mem_append_left _ (h.completed row hrow hevent hfor), h.sessions⟩
      have hcommitted : Unannounced runId (written.commit pending) := by
        refine ⟨hkept.id, fun row hrow hannounces => ?_, fun row hrow hevent hfor => ?_,
          hkept.sessions⟩
        · rcases mem_auditLogs_commit.mp hrow with hold | hnew
          · exact hkept.failed row hold hannounces
          · exact (hd.failed _ hnew hannounces).1 rfl
        · rcases mem_auditLogs_commit.mp hrow with hold | hnew
          · exact hkept.completed row hold hevent hfor
          · -- the completion was announced in a session that marks the run as failed
            have hfails : task.outcome = some .failed := hd.completed _ hnew ⟨hevent, hfor⟩ rfl
            show .failed ∈ w.outcomes ++ task.outcome.toList
            rw [hfails]
            exact List.mem_append_right _ List.mem_cons_self
      have hall : Unannounced runId
          (if task.pc.commits then written.commit pending else written) := by
        split
        · exact hcommitted
        · exact hkept
      simp only [EclServer.Runs.advanceDelivery]
      split
      · exact hall
      · exact hall
      · exact hall
  | readPreference o =>
      simp only [EclServer.Runs.advanceDelivery]
      split_ifs
      · exact h
      · exact h
      · exact h
  | flush o => exact h
  | logEvent o => exact h
  | leave => exact h
  | dispose => exact h

/-- **One step of anybody** keeps the outcomes unannounced. -/
theorem unannounced_step (h : Unannounced runId w) (a : DeliveriesAction) :
    Unannounced runId (deliveriesStep engines w a) := by
  cases a with
  | request r => exact ⟨(id_request r).trans h.id, h.failed, h.completed, h.sessions⟩
  | otherRows rows =>
      refine h.commit_other fun row hrow => ?_
      have hother := of_decide_eq_true (List.mem_filter.mp hrow).2
      rwa [h.id] at hother
  | setPreferences preferences => exact ⟨h.id, h.failed, h.completed, h.sessions⟩
  | deliver kind =>
      refine ⟨h.id, h.failed, h.completed, fun d hd => ?_⟩
      rcases List.mem_append.mp hd with hold | hnew
      · exact h.sessions d hold
      · rw [List.mem_singleton.mp hnew]
        exact .of_nil rfl nofun
  | advance i now failureRef =>
      simp only [deliveriesStep]
      split
      · exact h
      · rename_i d hd
        have hholds := h.sessions d (List.mem_of_getElem? hd)
        exact (h.advanceDelivery hholds).putDelivery fun d' hd' => holds_advanceDelivery hholds hd'
  | raise i message =>
      simp only [deliveriesStep]
      split
      · exact h
      · rename_i d hd
        have hholds := h.sessions d (List.mem_of_getElem? hd)
        exact h.putDelivery fun d' hd' => holds_raiseDelivery hholds hd'
  | lose i =>
      have hended : ∀ d ∈ (none : Option (Delivery Pd Lgd)), d.Holds runId := by
        intro d hd
        cases hd
      exact h.putDelivery hended

/-- A run before its first delivery, where no table speaks of it. -/
def Deliveries.start (pipeline : Pipeline Pd Lgd Ead)
    (preferences : List NotificationPreferences) : Deliveries Pd Lgd Ead where
  pipeline := pipeline
  preferences := preferences

/-- **Over every run**: whatever the order of steps. -/
theorem unannounced_run (pipeline : Pipeline Pd Lgd Ead)
    (preferences : List NotificationPreferences) (actions : List DeliveriesAction) :
    Unannounced pipeline.run.id
      (run (deliveriesStep engines) (Deliveries.start pipeline preferences) actions) := by
  refine run_invariant (I := Unannounced pipeline.run.id) (fun _ a hw => unannounced_step hw a)
    actions ⟨rfl, fun row hrow => ?_, fun row hrow => ?_, fun d hd => ?_⟩
  · cases hrow
  · cases hrow
  · cases hd

/-- **No run's end is announced**: wherever a task has made a run complete or failed, not every
outcome has its event. The session adds the event after the commit of the status, and is closed
without another. -/
theorem outcomes_unannounced (engines : Engines Pd Lgd Ead) (pipeline : Pipeline Pd Lgd Ead)
    (preferences : List NotificationPreferences) (actions : List DeliveriesAction) :
    let w := run (deliveriesStep engines) (Deliveries.start pipeline preferences) actions
    w.outcomes ≠ [] → ¬ ∀ o ∈ w.outcomes, Announced w o := by
  intro w hended hannounced
  have hnone := @unannounced_run _ _ _ engines pipeline preferences actions
  have hfailed : .failed ∉ w.outcomes := by
    intro hfailed
    obtain ⟨⟨row, hrow, hevent, hfor⟩, -⟩ := hannounced _ hfailed
    rw [hnone.id] at hfor
    exact hnone.failed row hrow ⟨hevent, hfor⟩
  obtain ⟨o, ho⟩ := List.exists_mem_of_ne_nil _ hended
  cases o with
  | failed => exact hfailed ho
  | completed =>
      obtain ⟨⟨row, hrow, hevent, hfor⟩, -⟩ := hannounced _ ho
      rw [hnone.id] at hfor
      exact hfailed (hnone.completed row hrow hevent hfor)

end Sessions

/-! ### A failure and a completion -/

/-- A queued run. -/
def sampleAnnounced : Pipeline Unit Unit Unit where
  run := { id := "r1", tenantId := "t1", createdByUserId := "u1", name := "Q1", status := .queued }

/-- The PD delivery raises while it starts, and the wrapper marks the run as failed and ends. -/
def pdFails : List DeliveriesAction :=
  .deliver .pd :: .raise 0 "storage unavailable" :: List.replicate 6 (.advance 0 0 "ref")

theorem outcomes_unannounced_sample :
    let w := run (deliveriesStep idleEngines) (Deliveries.start sampleAnnounced []) pdFails
    ¬ ∀ o ∈ w.outcomes, Announced w o :=
  outcomes_unannounced idleEngines sampleAnnounced [] pdFails (by decide)

/-- The EAD/ECL delivery completes the run and ends. -/
def eadEclCompletes : List DeliveriesAction :=
  .deliver .eadEcl :: List.replicate 15 (.advance 0 0 "ref")

/-- Its creator's preferences are the defaults, and neither the event nor the notification is
committed. -/
theorem completion_unannounced :
    let w := run (deliveriesStep idleEngines) (Deliveries.start sampleAnnounced []) eadEclCompletes
    w.deliveries.length = 0 ∧ w.pipeline.run.status = .complete ∧ w.outcomes = [.completed] ∧
      w.auditLogs = [] ∧ w.notifications = [] ∧ ¬ Announced w .completed := by
  refine ⟨rfl, rfl, rfl, rfl, rfl, ?_⟩
  rintro ⟨⟨row, hrow, -⟩, -⟩
  exact absurd hrow List.not_mem_nil

end EclServer.Runs
