import EclServer.Runs.StatusMachine

/-!
`execute_run_endpoint` of `app/modules/runs/router.py`: the run is queued under its row lock, the
chord is published after the commit, and a failed publication reverts the run.

* `DispatchPc`: where a request stands between lock and commit, dispatch and revert.
* `OtherWrite`: a statement of anybody else, which never queues a run.
* `dispatchStep`: one step of anybody, with the returns of `execute_run` and the transitions into
  `queued` recorded.
* `DispatchInv`: who holds the lock, what it is about to commit, and how the record goes on.
* `one_dispatch`: between two transitions into `queued` one request dispatches, and a request
  that finds the run active leaves the row as it is.
-/

namespace EclServer.Runs

open EclServer.Library

/-! ### Requests in flight -/

/-- What a request does next. -/
inductive DispatchPc where
  | waiting
  | executed (out : ExecuteRunOut) (row : Run)
  | dispatching (out : ExecuteRunOut)
  | revertWaiting
  | reverted (row : Run)
  | ended (answer : Except ECLException ExecuteRunOut)

/-- The row lock is held between the locking read and the commit. -/
def DispatchPc.holds : DispatchPc → Bool
  | executed _ _ => true
  | reverted _ => true
  | _ => false

def computeDispatchFailed : ECLException :=
  { code := "COMPUTE_DISPATCH_FAILED"
    detail := "Could not start the computation. Please try again in a moment."
    statusCode := 503 }

/-- A statement of a task, of the sweep or of another service. -/
structure OtherWrite where
  apply : Run → Run
  never_queues : ∀ run, (apply run).status = .queued → run.status = .queued

namespace OtherWrite

/-- The sweep. -/
def recover (now : Time) : OtherWrite where
  apply := recoverRow now
  never_queues := by
    intro run h
    rcases recoverRow_eq_or now run with hsame | ⟨_, _, hfailed, _⟩
    · rwa [hsame] at h
    · rw [hfailed] at h
      cases h

/-- A task starts a stage. -/
def startStage (now : Time) (kind : TaskKind) : OtherWrite where
  apply := markStageRunning now kind.stage kind.runStatus
  never_queues := by
    intro run h
    rw [status_markStageRunning] at h
    cases kind <;> cases h

def completeStage (now : Time) (stage : Stage) (startedAt : Time) : OtherWrite where
  apply := markStageComplete now stage startedAt
  never_queues := fun _ h => h

def failRun (now : Time) (failureRef : String) (stage : Stage) (message : String) : OtherWrite where
  apply := markRunFailed now failureRef stage message
  never_queues := by
    intro run h
    rw [status_markRunFailed] at h
    cases h

def completeRun (now eclStartedAt : Time) (totals : RunTotals) : OtherWrite where
  apply := markRunComplete now eclStartedAt totals
  never_queues := by
    intro run h
    rw [status_markRunComplete] at h
    cases h

def deleteRun (now : Time) (userId : String) : OtherWrite where
  apply := deleteRow now userId
  never_queues := by
    intro run h
    cases h

end OtherWrite

/-! ### The steps -/

/-- What the record holds: the run became `queued`, or `execute_run` returned. -/
inductive DispatchEvent where
  | queued
  | returned (dispatchTask : Bool)
  deriving DecidableEq

structure DispatchState where
  row : Run
  holder : Option ℕ := none
  requests : List DispatchPc := []
  events : List DispatchEvent := []

inductive DispatchAction where
  | arrive
  | lock (i : ℕ) (now : Time) (uploads : List Upload)
  | commit (i : ℕ)
  | publish (i : ℕ) (succeeds : Bool)
  | lockRevert (i : ℕ) (now : Time)
  | write (w : OtherWrite)

/-- The transition into `queued`, if the write makes it. -/
def queuedEvents (before after : Run) : List DispatchEvent :=
  if after.status = .queued ∧ before.status ≠ .queued then [.queued] else []

/-- Write the row and release the lock. -/
def writeRow (s : DispatchState) (row : Run) : DispatchState :=
  { s with row := row, holder := none, events := s.events ++ queuedEvents s.row row }

def setPc (s : DispatchState) (i : ℕ) (pc : DispatchPc) : DispatchState :=
  { s with requests := s.requests.set i pc }

/-- `execute_run` once it has the lock; an exception gives the lock back. -/
def executeLocked (s : DispatchState) (i : ℕ) (now : Time) (uploads : List Upload) :
    DispatchState :=
  if s.row.deletedAt ≠ none then setPc s i (.ended (.error runNotFound))
  else
    match executeRow now uploads s.row with
    | .error e => setPc s i (.ended (.error e))
    | .ok (out, row) =>
        { setPc s i (.executed out row) with
          holder := some i, events := s.events ++ [.returned out.dispatchTask] }

/-- One step; a step that its request cannot make now changes nothing. -/
def dispatchStep (s : DispatchState) : DispatchAction → DispatchState
  | .arrive => { s with requests := s.requests ++ [.waiting] }
  | .lock i now uploads =>
      match s.requests[i]?, s.holder with
      | some .waiting, none => executeLocked s i now uploads
      | _, _ => s
  | .commit i =>
      match s.requests[i]? with
      | some (.executed out row) =>
          setPc (writeRow s row) i (if out.dispatchTask then .dispatching out else .ended (.ok out))
      | some (.reverted row) => setPc (writeRow s row) i (.ended (.error computeDispatchFailed))
      | _ => s
  | .publish i succeeds =>
      match s.requests[i]? with
      | some (.dispatching out) =>
          setPc s i (if succeeds then .ended (.ok out) else .revertWaiting)
      | _ => s
  | .lockRevert i now =>
      match s.requests[i]?, s.holder with
      | some .revertWaiting, none =>
          if s.row.deletedAt ≠ none then setPc s i (.ended (.error runNotFound))
          else { setPc s i (.reverted (revertRow now s.row)) with holder := some i }
      | _, _ => s
  | .write w =>
      match s.holder with
      | none => writeRow s (w.apply s.row)
      | some _ => s

/-! ### The invariant -/

/-- The transitions into `queued` that the holder of the lock has still to commit. -/
def owed (s : DispatchState) : ℕ :=
  match s.holder.bind (s.requests[·]?) with
  | some (.executed out _) => if out.dispatchTask then 1 else 0
  | _ => 0

structure DispatchInv (s : DispatchState) : Prop where
  holder_of : ∀ i pc, s.requests[i]? = some pc → pc.holds = true → s.holder = some i
  executed : ∀ (i : ℕ) out row, s.requests[i]? = some (DispatchPc.executed out row) →
    ∃ now uploads, executeRow now uploads s.row = .ok (out, row)
  reverted : ∀ (i : ℕ) row, s.requests[i]? = some (DispatchPc.reverted row) →
    ∃ now, row = revertRow now s.row
  alternates : Alternates (.returned true) .queued s.events
  counted : s.events.count (.returned true) = s.events.count .queued + owed s

section

variable {s : DispatchState}

lemma owed_le_one : owed s ≤ 1 := by
  unfold owed
  split
  · split <;> omega
  · omega

lemma owed_of_unlocked (h : s.holder = none) : owed s = 0 := by
  simp [owed, h]

lemma requests_setPc (i j : ℕ) (pc : DispatchPc) :
    (setPc s i pc).requests[j]?
      = if i = j then (if j < s.requests.length then some pc else none) else s.requests[j]? := by
  by_cases hij : i = j
  · subst hij
    by_cases hlt : i < s.requests.length <;> simp [setPc, hlt]
  · simp [setPc, hij]

/-- What a request is after `setPc`: the new counter, or what it was. -/
lemma requests_setPc_cases {i j : ℕ} {pc pc' : DispatchPc}
    (h : (setPc s i pc).requests[j]? = some pc') :
    (i = j ∧ pc' = pc) ∨ (i ≠ j ∧ s.requests[j]? = some pc') := by
  rw [requests_setPc] at h
  by_cases hij : i = j
  · rw [if_pos hij] at h
    split at h
    · exact Or.inl ⟨hij, (Option.some.inj h).symm⟩
    · cases h
  · rw [if_neg hij] at h
    exact Or.inr ⟨hij, h⟩

/-- Without a holder there is little to show. -/
lemma DispatchInv.of_unlocked (hholder : s.holder = none)
    (hfree : ∀ (i : ℕ) (pc : DispatchPc), s.requests[i]? = some pc → pc.holds = false)
    (halt : Alternates (.returned true) .queued s.events)
    (hcount : s.events.count (.returned true) = s.events.count .queued) : DispatchInv s where
  holder_of i pc hpc hholds := by
    rw [hfree i pc hpc] at hholds
    cases hholds
  executed i out row hpc := by
    have hholds := hfree i _ hpc
    cases hholds
  reverted i row hpc := by
    have hholds := hfree i _ hpc
    cases hholds
  alternates := halt
  counted := by rw [owed_of_unlocked hholder, hcount, Nat.add_zero]

namespace DispatchInv

lemma free_of_unlocked (h : DispatchInv s) (hholder : s.holder = none) (i : ℕ) (pc : DispatchPc)
    (hpc : s.requests[i]? = some pc) : pc.holds = false := by
  by_contra hholds
  have hsome := h.holder_of i pc hpc (by simpa using hholds)
  rw [hholder] at hsome
  cases hsome

/-- Whoever holds the lock holds it alone. -/
lemma free_of_ne (h : DispatchInv s) {i j : ℕ} {pc pc' : DispatchPc}
    (hi : s.requests[i]? = some pc) (hholds : pc.holds = true) (hij : i ≠ j)
    (hj : s.requests[j]? = some pc') : pc'.holds = false := by
  by_contra hother
  have hsome := h.holder_of j pc' hj (by simpa using hother)
  rw [h.holder_of i pc hi hholds] at hsome
  exact hij (Option.some.inj hsome)

lemma owed_executed (h : DispatchInv s) {i : ℕ} {out : ExecuteRunOut} {row : Run}
    (hi : s.requests[i]? = some (.executed out row)) :
    owed s = if out.dispatchTask then 1 else 0 := by
  have hholder := h.holder_of i _ hi rfl
  simp [owed, hholder, hi]

lemma owed_reverted (h : DispatchInv s) {i : ℕ} {row : Run}
    (hi : s.requests[i]? = some (.reverted row)) : owed s = 0 := by
  have hholder := h.holder_of i _ hi rfl
  simp [owed, hholder, hi]

/-- A write that makes the transitions that were owed keeps the record in turn. -/
lemma events_writeRow (h : DispatchInv s) {row : Run}
    (hpaid : queuedEvents s.row row = List.replicate (owed s) .queued) :
    Alternates (.returned true) .queued (writeRow s row).events ∧
      (writeRow s row).events.count (.returned true) = (writeRow s row).events.count .queued := by
  have hcount := h.counted
  have hle := owed_le_one (s := s)
  rcases Nat.le_one_iff_eq_zero_or_eq_one.mp hle with hzero | hone
  · have hsame : (writeRow s row).events = s.events := by
      simp [writeRow, hpaid, hzero]
    rw [hsame]
    exact ⟨h.alternates, by omega⟩
  · have hmore : (writeRow s row).events = s.events ++ [.queued] := by
      simp [writeRow, hpaid, hone]
    have htrue : (s.events ++ [DispatchEvent.queued]).count (.returned true)
        = s.events.count (.returned true) := by
      simp
    have hqueued : (s.events ++ [DispatchEvent.queued]).count .queued
        = s.events.count .queued + 1 := by
      simp
    rw [hmore]
    exact ⟨h.alternates.concat _ (by omega) (by omega), by omega⟩

/-- A request without the lock moves to another point without the lock. -/
lemma setPc_free (h : DispatchInv s) {i : ℕ} {old pc : DispatchPc}
    (hi : s.requests[i]? = some old) (hold : old.holds = false) (hpc : pc.holds = false) :
    DispatchInv (setPc s i pc) where
  holder_of j pc' hj hholds := by
    rcases requests_setPc_cases hj with ⟨_, rfl⟩ | ⟨_, hsame⟩
    · rw [hpc] at hholds
      cases hholds
    · exact h.holder_of j pc' hsame hholds
  executed j out row hj := by
    rcases requests_setPc_cases hj with ⟨_, rfl⟩ | ⟨_, hsame⟩
    · cases hpc
    · exact h.executed j out row hsame
  reverted j row hj := by
    rcases requests_setPc_cases hj with ⟨_, rfl⟩ | ⟨_, hsame⟩
    · cases hpc
    · exact h.reverted j row hsame
  alternates := h.alternates
  counted := by
    have howed : owed (setPc s i pc) = owed s := by
      rcases hholder : s.holder with _ | j
      · rw [owed_of_unlocked hholder, owed_of_unlocked (s := setPc s i pc) hholder]
      · have hkeep : (setPc s i pc).holder = some j := hholder
        simp only [owed, hkeep, hholder, Option.bind_some, requests_setPc]
        by_cases hij : i = j
        · subst hij
          obtain ⟨hlt, -⟩ := List.getElem?_eq_some_iff.mp hi
          rw [if_pos rfl, if_pos hlt, hi]
          cases old <;> cases pc <;> simp_all [DispatchPc.holds]
        · rw [if_neg hij]
    rw [howed]
    exact h.counted

/-- The holder of the lock commits and lets go. -/
lemma commit_free (h : DispatchInv s) {i : ℕ} {old pc : DispatchPc} {row : Run}
    (hi : s.requests[i]? = some old) (hold : old.holds = true) (hpc : pc.holds = false)
    (hpaid : queuedEvents s.row row = List.replicate (owed s) .queued) :
    DispatchInv (setPc (writeRow s row) i pc) := by
  obtain ⟨halt, hcount⟩ := h.events_writeRow hpaid
  refine of_unlocked rfl (fun j pc' hj => ?_) halt hcount
  rcases requests_setPc_cases hj with ⟨_, rfl⟩ | ⟨hij, hsame⟩
  · exact hpc
  · exact h.free_of_ne hi hold hij hsame

end DispatchInv

/-! ### The steps keep it -/

lemma queuedEvents_eq_nil {before after : Run} (h : after.status = .queued → before.status = .queued) :
    queuedEvents before after = [] := by
  refine if_neg ?_
  rintro ⟨hafter, hbefore⟩
  exact hbefore (h hafter)

/-- An execution makes one transition into `queued` if it dispatches and none otherwise. -/
lemma queuedEvents_of_executeRow {now : Time} {uploads : List Upload} {out : ExecuteRunOut}
    {before row : Run} (h : executeRow now uploads before = .ok (out, row)) :
    queuedEvents before row = List.replicate (if out.dispatchTask then 1 else 0) .queued := by
  rcases executeRow_ok now before h with ⟨_, hout, rfl⟩ | ⟨hstatus, hout, _, rfl⟩
  · rw [queuedEvents_eq_nil id, hout]
    rfl
  · have hne : before.status ≠ .queued := by
      rintro heq
      simp [heq] at hstatus
    rw [queuedEvents, if_pos ⟨rfl, hne⟩, hout]
    rfl

lemma never_queues_revertRow (now : Time) (run : Run) (h : (revertRow now run).status = .queued) :
    run.status = .queued := by
  by_contra hne
  rw [revertRow_of_ne now run hne] at h
  exact hne h

namespace DispatchInv

lemma executeLocked (h : DispatchInv s) {i : ℕ} (hi : s.requests[i]? = some .waiting)
    (hholder : s.holder = none) (now : Time) (uploads : List Upload) :
    DispatchInv (executeLocked s i now uploads) := by
  unfold Runs.executeLocked
  split
  · exact h.setPc_free hi rfl rfl
  split
  · exact h.setPc_free hi rfl rfl
  rename_i out row hrow
  obtain ⟨hlt, -⟩ := List.getElem?_eq_some_iff.mp hi
  have hfree := h.free_of_unlocked hholder
  have hcount := h.counted
  rw [owed_of_unlocked hholder, Nat.add_zero] at hcount
  -- the execution owes its event until it commits
  have howed : ∀ events, owed { setPc s i (.executed out row) with
      holder := some i, events := events } = if out.dispatchTask then 1 else 0 := by
    intro events
    have hpc : (setPc s i (.executed out row)).requests[i]? = some (.executed out row) := by
      rw [requests_setPc, if_pos rfl, if_pos hlt]
    simp only [owed, Option.bind_some, hpc]
  constructor
  · intro j pc hj hholds
    rcases requests_setPc_cases hj with ⟨rfl, _⟩ | ⟨_, hsame⟩
    · rfl
    · rw [hfree j pc hsame] at hholds
      cases hholds
  · intro j out' row' hj
    rcases requests_setPc_cases hj with ⟨_, hpc⟩ | ⟨_, hsame⟩
    · obtain ⟨rfl, rfl⟩ := DispatchPc.executed.inj hpc
      exact ⟨now, uploads, hrow⟩
    · have hholds := hfree j _ hsame
      cases hholds
  · intro j row' hj
    rcases requests_setPc_cases hj with ⟨_, hpc⟩ | ⟨_, hsame⟩
    · cases hpc
    · have hholds := hfree j _ hsame
      cases hholds
  · refine h.alternates.concat _ ?_ ?_
    · cases out.dispatchTask <;> simp <;> omega
    · cases out.dispatchTask <;> simp <;> omega
  · rw [howed]
    cases out.dispatchTask <;> simp <;> omega

lemma arrive (h : DispatchInv s) : DispatchInv (dispatchStep s .arrive) := by
  have hold : ∀ (i : ℕ) (pc : DispatchPc), (dispatchStep s .arrive).requests[i]? = some pc →
      pc = .waiting ∨ s.requests[i]? = some pc := by
    intro i pc hpc
    simp only [dispatchStep, List.getElem?_append] at hpc
    split at hpc
    · exact Or.inr hpc
    · obtain ⟨hlt, hval⟩ := List.getElem?_eq_some_iff.mp hpc
      exact Or.inl (by simpa using hval.symm)
  constructor
  · intro i pc hpc hholds
    rcases hold i pc hpc with rfl | hsame
    · cases hholds
    · exact h.holder_of i pc hsame hholds
  · intro i out row hpc
    rcases hold i _ hpc with hw | hsame
    · cases hw
    · exact h.executed i out row hsame
  · intro i row hpc
    rcases hold i _ hpc with hw | hsame
    · cases hw
    · exact h.reverted i row hsame
  · exact h.alternates
  · have howed : owed (dispatchStep s .arrive) = owed s := by
      rcases hholder : s.holder with _ | j
      · rw [owed_of_unlocked hholder, owed_of_unlocked (s := dispatchStep s .arrive) hholder]
      · simp only [owed, dispatchStep, hholder, Option.bind_some, List.getElem?_append]
        by_cases hlt : j < s.requests.length
        · rw [if_pos hlt]
        · rw [if_neg hlt, List.getElem?_eq_none (Nat.not_lt.mp hlt)]
          cases j - s.requests.length <;> rfl
    rw [howed]
    exact h.counted

lemma lockRevert (h : DispatchInv s) {i : ℕ} (hi : s.requests[i]? = some .revertWaiting)
    (hholder : s.holder = none) (now : Time) :
    DispatchInv { setPc s i (.reverted (revertRow now s.row)) with holder := some i } := by
  have hfree := h.free_of_unlocked hholder
  obtain ⟨hlt, -⟩ := List.getElem?_eq_some_iff.mp hi
  constructor
  · intro j pc hj hholds
    rcases requests_setPc_cases hj with ⟨rfl, _⟩ | ⟨_, hsame⟩
    · rfl
    · rw [hfree j pc hsame] at hholds
      cases hholds
  · intro j out row hj
    rcases requests_setPc_cases hj with ⟨_, hpc⟩ | ⟨_, hsame⟩
    · cases hpc
    · have hholds := hfree j _ hsame
      cases hholds
  · intro j row hj
    rcases requests_setPc_cases hj with ⟨_, hpc⟩ | ⟨_, hsame⟩
    · exact ⟨now, DispatchPc.reverted.inj hpc⟩
    · have hholds := hfree j _ hsame
      cases hholds
  · exact h.alternates
  · have hpc : (setPc s i (.reverted (revertRow now s.row))).requests[i]?
        = some (.reverted (revertRow now s.row)) := by
      rw [requests_setPc, if_pos rfl, if_pos hlt]
    have howed : owed { setPc s i (.reverted (revertRow now s.row)) with holder := some i }
        = 0 := by
      simp only [owed, Option.bind_some, hpc]
    have hcount := h.counted
    rw [owed_of_unlocked hholder] at hcount
    rw [howed]
    exact hcount

/-- A write of anybody else, between the commits. -/
lemma otherWrite (h : DispatchInv s) (hholder : s.holder = none) (w : OtherWrite) :
    DispatchInv (writeRow s (w.apply s.row)) := by
  have hpaid : queuedEvents s.row (w.apply s.row) = List.replicate (owed s) .queued := by
    rw [queuedEvents_eq_nil (w.never_queues s.row), owed_of_unlocked hholder]
    rfl
  obtain ⟨halt, hcount⟩ := h.events_writeRow hpaid
  exact of_unlocked rfl (h.free_of_unlocked hholder) halt hcount

/-- **One step** keeps the invariant. -/
theorem step (h : DispatchInv s) (a : DispatchAction) : DispatchInv (dispatchStep s a) := by
  cases a with
  | arrive => exact h.arrive
  | lock i now uploads =>
      simp only [dispatchStep]
      split
      · rename_i hi hholder
        exact h.executeLocked hi hholder now uploads
      · exact h
  | commit i =>
      simp only [dispatchStep]
      split
      · rename_i out row hi
        obtain ⟨now, uploads, hrow⟩ := h.executed i out row hi
        -- the commit pays the event that the execution owes, and no other
        have hpaid : queuedEvents s.row row = List.replicate (owed s) .queued := by
          rw [queuedEvents_of_executeRow hrow, h.owed_executed hi]
        refine h.commit_free hi rfl ?_ hpaid
        cases out.dispatchTask <;> rfl
      · rename_i row hi
        obtain ⟨now, rfl⟩ := h.reverted i row hi
        refine h.commit_free hi rfl rfl ?_
        rw [queuedEvents_eq_nil (never_queues_revertRow now s.row), h.owed_reverted hi]
        rfl
      · exact h
  | publish i succeeds =>
      simp only [dispatchStep]
      split
      · rename_i out hi
        refine h.setPc_free hi rfl ?_
        cases succeeds <;> rfl
      · exact h
  | lockRevert i now =>
      simp only [dispatchStep]
      split
      · rename_i hi hholder
        split
        · exact h.setPc_free hi rfl rfl
        · exact h.lockRevert hi hholder now
      · exact h
  | write w =>
      simp only [dispatchStep]
      split
      · rename_i hholder
        exact h.otherWrite hholder w
      · exact h

/-- The invariant holds before the first request, and so after every schedule. -/
theorem of_run (row : Run) (as : List DispatchAction) :
    DispatchInv (run dispatchStep { row := row } as) := by
  have hstart : DispatchInv { row := row } :=
    of_unlocked rfl (fun i pc hpc => by simp at hpc) alternates_nil rfl
  exact run_invariant (fun s a hs => hs.step a) as hstart

end DispatchInv

/-! ### A request that finds the run active -/

/-- Request `i` holds the lock and is about to commit `row` as it is. -/
structure HoldsUnchanged (i : ℕ) (out : ExecuteRunOut) (row : Run) (s : DispatchState) :
    Prop where
  request : s.requests[i]? = some (.executed out row)
  unchanged : s.row = row

/-- Nobody moves the row while the request has the lock. -/
lemma HoldsUnchanged.step {i : ℕ} {out : ExecuteRunOut} {row : Run} (hinv : DispatchInv s)
    (h : HoldsUnchanged i out row s) {a : DispatchAction} (ha : a ≠ .commit i) :
    HoldsUnchanged i out row (dispatchStep s a) := by
  have hholder := hinv.holder_of i _ h.request rfl
  have hkeep : ∀ {j : ℕ} {old : DispatchPc} (pc : DispatchPc), s.requests[j]? = some old →
      old.holds = false → HoldsUnchanged i out row (setPc s j pc) := by
    intro j old pc hj hold
    have hne : j ≠ i := by
      rintro rfl
      rw [h.request] at hj
      obtain rfl := Option.some.inj hj
      cases hold
    exact ⟨by rw [requests_setPc, if_neg hne, h.request], h.unchanged⟩
  cases a with
  | arrive =>
      obtain ⟨hlt, -⟩ := List.getElem?_eq_some_iff.mp h.request
      exact ⟨by simpa [dispatchStep, List.getElem?_append, hlt] using h.request, h.unchanged⟩
  | lock j now uploads => simpa [dispatchStep, hholder] using h
  | lockRevert j now => simpa [dispatchStep, hholder] using h
  | write w => simpa [dispatchStep, hholder] using h
  | publish j succeeds =>
      simp only [dispatchStep]
      split
      · rename_i out' hj
        exact hkeep _ hj rfl
      · exact h
  | commit j =>
      have hne : j ≠ i := fun heq => ha (by rw [heq])
      have hlocked : ∀ pc : DispatchPc, s.requests[j]? = some pc → pc.holds = false :=
        fun pc hj => hinv.free_of_ne h.request rfl hne.symm hj
      simp only [dispatchStep]
      split
      · rename_i out' row' hj
        cases hlocked _ hj
      · rename_i row' hj
        cases hlocked _ hj
      · exact h

lemma HoldsUnchanged.run {i : ℕ} {out : ExecuteRunOut} {row : Run} (hinv : DispatchInv s)
    (h : HoldsUnchanged i out row s) {as : List DispatchAction}
    (has : DispatchAction.commit i ∉ as) :
    HoldsUnchanged i out row (Library.run dispatchStep s as) := by
  have hboth : DispatchInv (Library.run dispatchStep s as) ∧
      HoldsUnchanged i out row (Library.run dispatchStep s as) := by
    refine run_induction (I := fun t => DispatchInv t ∧ HoldsUnchanged i out row t)
      (G := fun _ a => a ≠ DispatchAction.commit i)
      (fun t a ht ha => ⟨ht.1.step a, HoldsUnchanged.step ht.1 ht.2 ha⟩) ⟨hinv, h⟩ ?_
    refine EachStep.of_mem (fun a ha => ?_) s
    rintro rfl
    exact has ha
  exact hboth.2

/-- The answer for an active run. -/
lemma executeRow_of_active (now : Time) (uploads : List Upload) {row : Run}
    (h : row.status ∈ activeRunStatuses) :
    executeRow now uploads row
      = .ok ({ runId := row.id, status := row.status, dispatchTask := false }, row) := by
  rw [executeRow, if_pos h]

/-- Between two successive transitions of the run into `queued` one call of `execute_run`
returned `dispatch_task=True`. -/
def OneDispatchEach (events : List DispatchEvent) : Prop :=
  ∀ a b c, events = a ++ .queued :: (b ++ .queued :: c) → .queued ∉ b →
    b.count (.returned true) = 1

/-- The request is next to get the lock, and the run is active. -/
structure FindsActive (s : DispatchState) (i : ℕ) : Prop where
  waiting : s.requests[i]? = some .waiting
  unlocked : s.holder = none
  live : s.row.deletedAt = none
  active : s.row.status ∈ activeRunStatuses

/-- `t` comes after request `i` got the lock in `s` and before it commits: the call returned
`dispatch_task=False`, the row is that of `s`, and it is still that of `s` after the commit. -/
structure LeavesRow (s : DispatchState) (i : ℕ) (t : DispatchState) : Prop where
  row_eq : t.row = s.row
  row_commit : (dispatchStep t (.commit i)).row = s.row
  answered : ∃ out : ExecuteRunOut, out.dispatchTask = false ∧
    (dispatchStep t (.commit i)).requests[i]? = some (.ended (.ok out))

/-- A call that finds the run active. -/
lemma FindsActive.lock {i : ℕ} (h : FindsActive s i) (now : Time) (uploads : List Upload) :
    (dispatchStep s (.lock i now uploads)).events = s.events ++ [.returned false] ∧
      HoldsUnchanged i { runId := s.row.id, status := s.row.status, dispatchTask := false } s.row
        (dispatchStep s (.lock i now uploads)) := by
  obtain ⟨hlt, -⟩ := List.getElem?_eq_some_iff.mp h.waiting
  have hrow := executeRow_of_active now uploads h.active
  simp only [dispatchStep, h.waiting, h.unlocked, Runs.executeLocked, ne_eq, h.live,
    not_true_eq_false, if_false, hrow]
  refine ⟨trivial, ?_, rfl⟩
  rw [requests_setPc, if_pos rfl, if_pos hlt]

/-- The commit of such a call. -/
lemma HoldsUnchanged.leavesRow {i : ℕ} {out : ExecuteRunOut} {t : DispatchState}
    (h : HoldsUnchanged i out s.row t) (hout : out.dispatchTask = false) : LeavesRow s i t := by
  obtain ⟨hlt, -⟩ := List.getElem?_eq_some_iff.mp h.request
  have hstep : dispatchStep t (.commit i)
      = setPc (writeRow t s.row) i (.ended (.ok out)) := by
    simp [dispatchStep, h.request, hout]
  have hlength : i < (writeRow t s.row).requests.length := hlt
  refine ⟨h.unchanged, by rw [hstep]; rfl, out, hout, ?_⟩
  rw [hstep, requests_setPc, if_pos rfl, if_pos hlength]

/-- **One dispatch for each queueing**, in every interleaving of any number of requests, of
their failed publications and of what the others write. A call that finds the run active
returns `dispatch_task=False` and leaves the row as it is. -/
theorem one_dispatch (row : Run) (as : List DispatchAction) :
    let s := run dispatchStep { row := row } as
    OneDispatchEach s.events ∧
      ∀ i now uploads, FindsActive s i →
        (dispatchStep s (.lock i now uploads)).events = s.events ++ [.returned false] ∧
        ∀ bs, DispatchAction.commit i ∉ bs →
          LeavesRow s i (run dispatchStep s (.lock i now uploads :: bs)) := by
  intro s
  have hinv : DispatchInv s := DispatchInv.of_run row as
  constructor
  · intro a b c hevents hb
    exact (hevents ▸ hinv.alternates).count_between (by simp) hb
  · intro i now uploads hactive
    obtain ⟨hevents, hlocked⟩ := hactive.lock now uploads
    refine ⟨hevents, fun bs hbs => ?_⟩
    exact (hlocked.run (hinv.step _) hbs).leavesRow rfl

end

/-- Two requests; the first publication fails and is reverted, the second request queues the run
again. -/
example (row : Run) (now : Time) (uploads : List Upload) (hlive : row.deletedAt = none)
    (hdraft : row.status = .draft) (hchecks : checkUploads uploads = .ok ()) :
    (run dispatchStep { row := row } [.arrive, .arrive, .lock 0 now uploads, .commit 0,
      .publish 0 false, .lockRevert 0 now, .commit 0, .lock 1 now uploads, .commit 1]).events
      = [.returned true, .queued, .returned true, .queued] := by
  simp [dispatchStep, Runs.executeLocked, executeRow, setPc, writeRow, queuedEvents, hlive, hdraft,
    hchecks, activeRunStatuses, queueRow, revertRow]

end EclServer.Runs
