import EclServer.Library.Run
import EclServer.Outbox.Locks

/-!
The delivery of the outbox over any requests, runs of the poller, failures of the broker and
crashes.

* `Settled`: how the status and the counter of a row come from its committed rounds.
  `Settled.round`: one round more.
* `OutboxHistory`: every row is settled, and the broker took what is dispatched. `RowKept`: a row
  stays, and stays as it is once it is no longer pending.
* `Balanced`: every hand-over is committed or in flight, as long as no run crashes after one.
* `outbox_delivery`: over every run, no row is lost, each is settled, what a run has picked is
  pending, and no row is handed over twice unless a run crashes after it handed a row over.
-/

namespace EclServer.Outbox

open EclServer.Library

/-! ### How the status and the counter come about -/

section

variable {row : EmailOutbox}

/-- The committed rounds of a row. -/
def attemptsOf (id : String) (committed : List (String × Attempt)) : List Attempt :=
  (committed.filter (·.1 = id)).map (·.2)

/-- **The status and the counter** of a row come from its committed rounds. -/
inductive Settled (row : EmailOutbox) (attempts : List Attempt) : Prop
  /-- It is pending, after four failed rounds at most. -/
  | pending (hstatus : row.status = .pending) (hcount : row.dispatchAttempts = attempts.length)
      (hfailed : ∀ a ∈ attempts, a = .failed ∧ dispatchFn row.taskName ≠ none)
      (hle : row.dispatchAttempts ≤ 4)
  /-- It was handed over in the last of them, and no more than four failed before. -/
  | dispatched {before : List Attempt} {args : List (Option String)}
      (hstatus : row.status = .dispatched) (hattempts : attempts = before ++ [.handedOver args])
      (hfailed : ∀ a ∈ before, a = .failed) (hle : before.length ≤ 4)
      (hargs : ∃ fn, dispatchFn row.taskName = some fn ∧ fn row.payload = .ok args)
  /-- All of five failed. -/
  | failed (hstatus : row.status = .deadLetter) (hattempts : attempts = List.replicate 5 .failed)
  /-- There is no such task. -/
  | unknown (hstatus : row.status = .deadLetter) (hattempts : attempts = [.unknownTask])
      (htask : dispatchFn row.taskName = none)

/-- **One round more** of a pending row. -/
lemma Settled.round {attempts : List Attempt} {d : EmailOutbox × Attempt}
    (h : Settled row attempts) (hpending : row.status = .pending) (hround : Round row d) :
    Settled d.1 (attempts ++ [d.2]) := by
  cases h with
  | dispatched hstatus hattempts hfailed hle hargs =>
      rw [hpending] at hstatus
      cases hstatus
  | failed hstatus hattempts =>
      rw [hpending] at hstatus
      cases hstatus
  | unknown hstatus hattempts htask =>
      rw [hpending] at hstatus
      cases hstatus
  | pending _ hcount hfailed hle =>
      cases hround with
      | unknown hmail hattempts htask hstatus =>
          -- a row of an unknown task has had no round
          have hnone : attempts = [] :=
            List.eq_nil_iff_forall_not_mem.mpr fun a ha => (hfailed a ha).2 htask
          refine .unknown hstatus (by rw [hnone, List.nil_append]) ?_
          rw [hmail.taskName]
          exact htask
      | handed hmail hattempts htask hstatus =>
          refine .dispatched hstatus rfl (fun a ha => (hfailed a ha).1) (by omega) ?_
          rw [hmail.taskName, hmail.payload]
          exact htask
      | failed hmail hattempts htask hstatus =>
          by_cases hlast : 5 ≤ row.dispatchAttempts + 1
          · refine .failed (by rw [hstatus, if_pos hlast]) ?_
            refine List.eq_replicate_iff.mpr ⟨?_, fun a ha => ?_⟩
            · rw [List.length_append, List.length_singleton]
              omega
            · rcases List.mem_append.mp ha with hold | hnew
              · exact (hfailed a hold).1
              · exact List.mem_singleton.mp hnew
          · refine .pending (by rw [hstatus, if_neg hlast, hpending]) ?_ (fun a ha => ?_)
              (hattempts.trans_le (by omega))
            · rw [hattempts, hcount, List.length_append, List.length_singleton]
            · rw [hmail.taskName]
              rcases List.mem_append.mp ha with hold | hnew
              · exact hfailed a hold
              · exact ⟨List.mem_singleton.mp hnew, htask⟩

/-- A row that is queued has had no round. -/
lemma settled_queued (hstatus : row.status = .pending) (hcount : row.dispatchAttempts = 0) :
    Settled row [] :=
  .pending hstatus hcount (by simp) (by omega)

end

/-! ### What the committed rounds say -/

/-- The broker took the row, with the arguments that its payload has for its task. -/
def Delivered (row : EmailOutbox) (broker : List HandOver) : Prop :=
  ∃ fn args, dispatchFn row.taskName = some fn ∧ fn row.payload = .ok args ∧
    ⟨row.id, row.taskName, args⟩ ∈ broker

lemma Delivered.mono {row : EmailOutbox} {broker : List HandOver} (h : Delivered row broker)
    (sent : List HandOver) : Delivered row (broker ++ sent) := by
  obtain ⟨fn, args, htask, hargs, hmem⟩ := h
  exact ⟨fn, args, htask, hargs, List.mem_append_left _ hmem⟩

/-- A round that leaves the row dispatched has handed it over. -/
lemma delivered_of_round {row : EmailOutbox} {d : EmailOutbox × Attempt} (h : Round row d)
    (hpending : row.status = .pending) (hstatus : d.1.status = .dispatched)
    (broker : List HandOver) : Delivered d.1 (broker ++ message row d.2) := by
  cases h with
  | unknown hmail hattempts htask hdead =>
      rw [hdead] at hstatus
      cases hstatus
  | handed hmail hattempts htask _ =>
      obtain ⟨fn, hfn, hargs⟩ := htask
      refine ⟨fn, _, hmail.taskName ▸ hfn, hmail.payload ▸ hargs, ?_⟩
      rw [hmail.id, hmail.taskName]
      exact List.mem_append_right _ (List.mem_singleton_self _)
  | failed hmail hattempts htask hfailed =>
      rw [hfailed, hpending] at hstatus
      split at hstatus <;> cases hstatus

/-- **The history**: each row is settled by its committed rounds, and the broker took each row that
is dispatched, in the table or in the session of a run. -/
structure OutboxHistory (st : OutboxState) : Prop where
  stray : ∀ c ∈ st.committed, c.1 ∈ st.table.map (·.id)
  settled : ∀ row ∈ st.table, Settled row (attemptsOf row.id st.committed)
  delivered : ∀ row ∈ st.table, row.status = .dispatched → Delivered row st.broker
  sent : ∀ p ∈ st.pollers, ∀ d ∈ p.done, d.1.status = .dispatched → Delivered d.1 st.broker

lemma attemptsOf_append (id : String) (c c' : List (String × Attempt)) :
    attemptsOf id (c ++ c') = attemptsOf id c ++ attemptsOf id c' := by
  rw [attemptsOf, List.filter_append, List.map_append]
  rfl

lemma attemptsOf_of_notMem {id : String} {done : List (EmailOutbox × Attempt)}
    (h : id ∉ done.map (·.1.id)) : attemptsOf id (done.map fun d => (d.1.id, d.2)) = [] := by
  rw [attemptsOf, List.map_eq_nil_iff, List.filter_eq_nil_iff]
  intro c hc
  obtain ⟨d, hd, rfl⟩ := List.mem_map.mp hc
  rw [decide_eq_true_iff]
  exact fun hid => h (hid ▸ List.mem_map_of_mem (f := fun d => d.1.id) hd)

lemma attemptsOf_of_mem {done : List (EmailOutbox × Attempt)} (h : (done.map (·.1.id)).Nodup)
    {d : EmailOutbox × Attempt} (hd : d ∈ done) :
    attemptsOf d.1.id (done.map fun d => (d.1.id, d.2)) = [d.2] := by
  have hkeys : ((done.map fun d => (d.1.id, d.2)).map (·.1)).Nodup := by
    rw [List.map_map]
    exact h
  rw [attemptsOf, filter_eq_singleton _ hkeys (List.mem_map_of_mem hd)]
  rfl

/-- The rows that a run has been through are different. -/
lemma nodup_done {st : OutboxState} (h : OutboxKeys st) {p : Poller} (hp : p ∈ st.pollers) :
    (p.done.map (·.1.id)).Nodup :=
  ((List.nodup_flatMap.mp h.locks).1 p hp).of_append_left

/-- **One step** keeps the history. -/
lemma history_step {st : OutboxState} (hok : OutboxOk st) (h : OutboxHistory st) (a : OutboxAction) :
    OutboxHistory (outboxStep st a) := by
  have heffect := step_cases hok.toOutboxKeys a
  generalize outboxStep st a = st' at heffect
  cases heffect with
  | idle => exact h
  | @queues _ row hnew hstatus hcount =>
      -- a new row has a new id, so that no round has been recorded for it
      have hnone : attemptsOf row.id st.committed = [] := by
        rw [attemptsOf, List.map_eq_nil_iff, List.filter_eq_nil_iff]
        intro c hc
        rw [decide_eq_true_iff]
        exact fun hid => hnew (hid ▸ h.stray c hc)
      refine ⟨fun c hc => ?_, fun row' hrow' => ?_, fun row' hrow' hdispatched => ?_, h.sent⟩
      · rw [List.map_append]
        exact List.mem_append_left _ (h.stray c hc)
      · rcases List.mem_append.mp hrow' with hold | hlast
        · exact h.settled row' hold
        · obtain rfl := List.mem_singleton.mp hlast
          exact hnone ▸ settled_queued hstatus hcount
      · rcases List.mem_append.mp hrow' with hold | hlast
        · exact h.delivered row' hold hdispatched
        · obtain rfl := List.mem_singleton.mp hlast
          rw [hstatus] at hdispatched
          cases hdispatched
  | @polls _ p hnew hdone htodo hids =>
      refine ⟨h.stray, h.settled, h.delivered, fun q hq d hd => ?_⟩
      rcases List.mem_append.mp hq with hold | hlast
      · exact h.sent q hold d hd
      · obtain rfl := List.mem_singleton.mp hlast
        rw [hdone] at hd
        cases hd
  | @rounds _ l r p row rest d hpollers htodo hround =>
      have hp : p ∈ st.pollers := hpollers ▸ List.mem_append_right _ (List.mem_cons_self ..)
      -- the row of the round is locked, and so as pending in the table as when it was read
      obtain ⟨-, hpending⟩ := (hok.holds p hp).todo row (htodo ▸ List.mem_cons_self ..)
      refine ⟨h.stray, h.settled, fun row' hrow' hstatus =>
        (h.delivered row' hrow' hstatus).mono _, ?_⟩
      intro q hq d' hd' hstatus
      rcases List.mem_append.mp hq with hleft | hright
      · exact (h.sent q (hpollers ▸ List.mem_append_left _ hleft) d' hd' hstatus).mono _
      rcases List.mem_cons.mp hright with rfl | hmem
      · rcases List.mem_append.mp hd' with hold | hlast
        · exact (h.sent p hp d' hold hstatus).mono _
        · obtain rfl := List.mem_singleton.mp hlast
          exact delivered_of_round hround hpending hstatus _
      · have hqmem : q ∈ st.pollers :=
          hpollers ▸ List.mem_append_right _ (List.mem_cons_of_mem _ hmem)
        exact (h.sent q hqmem d' hd' hstatus).mono _
  | @commits _ l r p hpollers htodo =>
      have hp : p ∈ st.pollers := hpollers ▸ List.mem_append_right _ (List.mem_cons_self ..)
      -- the rounds of the run are committed with the rows they are about
      have hids : ∀ c ∈ st.committed ++ p.done.map (fun d => (d.1.id, d.2)),
          c.1 ∈ st.table.map (·.id) := by
        intro c hc
        rcases List.mem_append.mp hc with hold | hnew
        · exact h.stray c hold
        · obtain ⟨d, hd, rfl⟩ := List.mem_map.mp hnew
          obtain ⟨row, hrow, -, hround⟩ := (hok.holds p hp).done d hd
          exact hround.mail.id ▸ List.mem_map_of_mem hrow
      have hsub : ∀ q ∈ l ++ r, q ∈ st.pollers := fun q hq =>
        hpollers ▸ (List.Sublist.append_left (List.sublist_cons_self p r) l).subset hq
      refine ⟨fun c hc => ?_, fun row' hrow' => ?_, fun row' hrow' hstatus => ?_,
        fun q hq => h.sent q (hsub q hq)⟩
      · obtain ⟨row, hrow, hid⟩ := List.mem_map.mp (hids c hc)
        refine hid ▸ List.mem_map.mpr ⟨_, mem_committed_table.mpr ⟨row, hrow, rfl⟩, ?_⟩
        rcases committed_cases hok hp hrow with ⟨d, -, hsame, -, -, heq⟩ | ⟨-, heq⟩
        · rw [heq, hsame]
        · rw [heq]
      · obtain ⟨row, hrow, rfl⟩ := mem_committed_table.mp hrow'
        rcases committed_cases hok hp hrow with ⟨d, hd, hsame, hpending, hround, heq⟩ | ⟨hnot, heq⟩
        -- a row of the run has had one more attempt, every other row the attempts it had
        · rw [heq, attemptsOf_append, attemptsOf_of_mem (nodup_done hok.toOutboxKeys hp) hd, hsame]
          exact (h.settled row hrow).round hpending hround
        · rw [heq, attemptsOf_append, attemptsOf_of_notMem hnot, List.append_nil]
          exact h.settled row hrow
      · obtain ⟨row, hrow, rfl⟩ := mem_committed_table.mp hrow'
        rcases committed_cases hok hp hrow with ⟨d, hd, -, -, -, heq⟩ | ⟨-, heq⟩
        · rw [heq] at hstatus ⊢
          exact h.sent p hp d hd hstatus
        · rw [heq] at hstatus ⊢
          exact h.delivered row hrow hstatus
  | @ends l r p hpollers =>
      refine ⟨h.stray, h.settled, h.delivered, fun q hq => h.sent q ?_⟩
      exact hpollers ▸ (List.Sublist.append_left (List.sublist_cons_self p r) l).subset hq

/-! ### No row is lost -/

/-- A row stays, and it stays as it is once it is no longer pending. -/
def RowKept (row row' : EmailOutbox) : Prop :=
  SameMail row row' ∧ (row.status ≠ .pending → row' = row)

lemma RowKept.refl (row : EmailOutbox) : RowKept row row := ⟨⟨rfl, rfl, rfl, rfl⟩, fun _ => rfl⟩

lemma RowKept.trans {row row' row'' : EmailOutbox} (h : RowKept row row') (h' : RowKept row' row'') :
    RowKept row row'' := by
  refine ⟨⟨h'.1.id.trans h.1.id, h'.1.taskName.trans h.1.taskName, h'.1.payload.trans h.1.payload,
    h'.1.createdAt.trans h.1.createdAt⟩, fun hfinal => ?_⟩
  have hsame := h.2 hfinal
  rw [h'.2 (hsame ▸ hfinal), hsame]

lemma kept_step {st : OutboxState} (hok : OutboxOk st) (a : OutboxAction) {row : EmailOutbox}
    (hrow : row ∈ st.table) : ∃ row' ∈ (outboxStep st a).table, RowKept row row' := by
  have heffect := step_cases hok.toOutboxKeys a
  generalize outboxStep st a = st' at heffect
  cases heffect with
  | idle => exact ⟨row, hrow, .refl row⟩
  | queues hnew hstatus hcount => exact ⟨row, List.mem_append_left _ hrow, .refl row⟩
  | polls hnew hdone htodo hids => exact ⟨row, hrow, .refl row⟩
  | rounds hpollers htodo hround => exact ⟨row, hrow, .refl row⟩
  | @commits _ l r p hpollers htodo =>
      have hp : p ∈ st.pollers := hpollers ▸ List.mem_append_right _ (List.mem_cons_self ..)
      refine ⟨_, mem_committed_table.mpr ⟨row, hrow, rfl⟩, ?_⟩
      rcases committed_cases hok hp hrow with ⟨d, -, -, hpending, hround, heq⟩ | ⟨-, heq⟩
      · rw [heq]
        exact ⟨hround.mail, fun hfinal => absurd hpending hfinal⟩
      · rw [heq]
        exact .refl row
  | ends hpollers => exact ⟨row, hrow, .refl row⟩

/-! ### Hand-overs -/

/-- The round ended with a hand-over. -/
def Attempt.isHandedOver : Attempt → Bool
  | .handedOver _ => true
  | _ => false

/-- How often the broker took a row. -/
def OutboxState.handOvers (st : OutboxState) (id : String) : ℕ := st.broker.countP (·.row = id)

/-- The hand-overs of a row that a run in flight has made. -/
def OutboxState.inFlight (st : OutboxState) (id : String) : ℕ :=
  (st.pollers.flatMap (·.done)).countP fun d => d.1.id = id ∧ d.2.isHandedOver

/-- **Every hand-over** is committed or in flight. -/
def Balanced (st : OutboxState) : Prop :=
  ∀ id, st.handOvers id = (attemptsOf id st.committed).countP Attempt.isHandedOver + st.inFlight id

/-- A run that crashes has handed nothing over. -/
def CrashesInTime (st : OutboxState) : OutboxAction → Prop
  | .crash pid => ∀ p ∈ st.pollers, p.pid = pid → ∀ d ∈ p.done, d.2.isHandedOver = false
  | _ => True

lemma inFlight_split {st : OutboxState} {l r : List Poller} {p : Poller}
    (hpollers : st.pollers = l ++ p :: r) (id : String) :
    st.inFlight id = (OutboxState.mk st.table (l ++ r) st.broker st.committed).inFlight id
      + p.done.countP fun d => d.1.id = id ∧ d.2.isHandedOver := by
  simp only [OutboxState.inFlight, hpollers, List.flatMap_append, List.flatMap_cons,
    List.countP_append]
  omega

lemma countP_message {row : EmailOutbox} {d : EmailOutbox × Attempt} (h : Round row d)
    (id : String) : (message row d.2).countP (·.row = id)
      = [d].countP fun d => d.1.id = id ∧ d.2.isHandedOver := by
  cases h with
  | unknown hmail hattempts htask hstatus => simp [message, Attempt.isHandedOver]
  | handed hmail hattempts htask hstatus => simp [message, Attempt.isHandedOver, hmail.id]
  | failed hmail hattempts htask hstatus => simp [message, Attempt.isHandedOver]

lemma countP_attemptsOf (id : String) (done : List (EmailOutbox × Attempt)) :
    (attemptsOf id (done.map fun d => (d.1.id, d.2))).countP Attempt.isHandedOver
      = done.countP fun d => d.1.id = id ∧ d.2.isHandedOver := by
  rw [attemptsOf, List.countP_map, List.countP_filter, List.countP_map]
  refine List.countP_congr fun d _ => ?_
  simp [and_comm]

/-- **One step** keeps the balance, unless a run crashes after it handed a row over. -/
lemma balanced_step {st : OutboxState} (hok : OutboxOk st) (h : Balanced st) (a : OutboxAction)
    (hcrash : CrashesInTime st a) : Balanced (outboxStep st a) := by
  have heffect := step_cases hok.toOutboxKeys a
  generalize outboxStep st a = st' at heffect
  intro id
  have hbefore := h id
  cases heffect with
  | idle => exact hbefore
  | queues hnew hstatus hcount => exact hbefore
  | @polls _ p hnew hdone htodo hids =>
      have hsame : (OutboxState.mk st.table (st.pollers ++ [p]) st.broker st.committed).inFlight id
          = st.inFlight id := by
        simp [OutboxState.inFlight, hdone]
      rw [hsame]
      exact hbefore
  | @rounds _ l r p row rest d hpollers htodo hround =>
      have hmessage := countP_message hround id
      rw [inFlight_split hpollers] at hbefore
      rw [inFlight_split rfl]
      simp only [OutboxState.handOvers, List.countP_append] at hbefore ⊢
      simp only [OutboxState.inFlight] at hbefore ⊢
      omega
  | @commits _ l r p hpollers htodo =>
      have hcommitted := countP_attemptsOf id p.done
      rw [inFlight_split hpollers] at hbefore
      simp only [OutboxState.handOvers, attemptsOf_append, List.countP_append] at hbefore ⊢
      simp only [OutboxState.inFlight] at hbefore ⊢
      omega
  | @ends l r p hpollers =>
      have hp : p ∈ st.pollers := hpollers ▸ List.mem_append_right _ (List.mem_cons_self ..)
      have hnone : p.done.countP (fun d => d.1.id = id ∧ d.2.isHandedOver) = 0 := by
        rw [List.countP_eq_zero]
        intro d hd
        simp [hcrash p hp rfl d hd]
      rw [inFlight_split hpollers, hnone] at hbefore
      exact hbefore

/-- A row has one committed hand-over at most, and none as long as it is pending. -/
lemma Settled.countP_le {row : EmailOutbox} {attempts : List Attempt} (h : Settled row attempts) :
    attempts.countP Attempt.isHandedOver ≤ 1 ∧
      (row.status = .pending → attempts.countP Attempt.isHandedOver = 0) := by
  have hfailed : ∀ l : List Attempt, (∀ a ∈ l, a = .failed) → l.countP Attempt.isHandedOver = 0 := by
    intro l hl
    rw [List.countP_eq_zero]
    intro a ha
    rw [hl a ha]
    exact Bool.false_ne_true
  cases h with
  | pending hstatus hcount hall hle =>
      have hzero := hfailed attempts fun a ha => (hall a ha).1
      exact ⟨by omega, fun _ => hzero⟩
  | @dispatched before args hstatus hattempts hall hle hargs =>
      have hzero := hfailed before hall
      refine ⟨?_, fun hpending => ?_⟩
      · rw [hattempts, List.countP_append, hzero, List.countP_singleton]
        split <;> omega
      · rw [hpending] at hstatus
        cases hstatus
  | failed hstatus hattempts =>
      have hzero := hfailed attempts fun a ha => List.eq_of_mem_replicate (hattempts ▸ ha)
      exact ⟨by omega, fun _ => hzero⟩
  | unknown hstatus hattempts htask =>
      rw [hattempts]
      exact ⟨Nat.zero_le 1, fun _ => rfl⟩

/-- **No row is handed over twice**, as long as every hand-over is committed or in flight. -/
lemma handOvers_le_one {st : OutboxState} (hok : OutboxOk st) (h : OutboxHistory st)
    (hbalanced : Balanced st) (id : String) : st.handOvers id ≤ 1 := by
  have hsum := hbalanced id
  have hflight : st.inFlight id ≤ 1 := by
    have hids : ((st.pollers.flatMap (·.done)).map (·.1.id)).Nodup := by
      rw [List.map_flatMap]
      exact hok.locks.sublist (List.Sublist.flatMap_right _ fun p _ => List.sublist_append_left _ _)
    rw [OutboxState.inFlight, List.countP_eq_length_filter]
    exact length_filter_le_one_of_key _ hids fun a b ha hb =>
      (of_decide_eq_true ha).1.trans (of_decide_eq_true hb).1.symm
  by_cases hnone : st.inFlight id = 0
  · have hcommitted : (attemptsOf id st.committed).countP Attempt.isHandedOver ≤ 1 := by
      by_cases hid : id ∈ st.table.map (·.id)
      · obtain ⟨row, hrow, rfl⟩ := List.mem_map.mp hid
        exact (h.settled row hrow).countP_le.1
      · have hstray : attemptsOf id st.committed = [] := by
          rw [attemptsOf, List.map_eq_nil_iff, List.filter_eq_nil_iff]
          intro c hc
          rw [decide_eq_true_iff]
          exact fun hsame => hid (hsame ▸ h.stray c hc)
        rw [hstray]
        exact Nat.zero_le 1
    omega
  · -- a row in flight is pending, and none of its committed rounds handed it over
    have hpos : 0 < st.inFlight id := Nat.pos_of_ne_zero hnone
    rw [OutboxState.inFlight, List.countP_pos_iff] at hpos
    obtain ⟨d, hd, hhanded⟩ := hpos
    obtain ⟨p, hp, hdone⟩ := List.mem_flatMap.mp hd
    obtain ⟨row, hrow, hid, hpending⟩ := (hok.holds p hp).exists_row
      (List.mem_append_left _ (List.mem_map_of_mem (f := fun d => d.1.id) hdone))
    have hzero := (h.settled row hrow).countP_le.2 hpending
    rw [hid, (of_decide_eq_true hhanded).1] at hzero
    omega

/-! ### Runs -/

/-- Rows that were queued, and nothing else yet. -/
structure NewOutbox (st : OutboxState) : Prop where
  rows : (st.table.map (·.id)).Nodup
  queued : ∀ row ∈ st.table, row.status = .pending ∧ row.dispatchAttempts = 0
  pollers : st.pollers = []
  broker : st.broker = []
  committed : st.committed = []

/-- **Delivery** along a run. -/
structure DeliveryLaw (st : OutboxState) (actions : List OutboxAction) : Prop where
  /-- No row is lost, and one that is no longer pending stays as it is. -/
  kept : ∀ as bs, as ++ bs <+: actions → ∀ row ∈ (run outboxStep st as).table,
    ∃ row' ∈ (run outboxStep st (as ++ bs)).table, RowKept row row'
  /-- The committed rounds of a row say what its status and its counter are. -/
  settled : Always outboxStep
    (fun s => ∀ row ∈ s.table, Settled row (attemptsOf row.id s.committed)) st actions
  /-- The broker took what is dispatched. -/
  delivered : Always outboxStep
    (fun s => ∀ row ∈ s.table, row.status = .dispatched → Delivered row s.broker) st actions
  /-- No run has picked a row that is no longer pending. -/
  picked : Always outboxStep
    (fun s => ∀ row ∈ s.table, row.status ≠ .pending → ∀ p ∈ s.pollers, row.id ∉ p.ids) st actions
  /-- The broker took no row twice, where no run crashes after it handed one over. -/
  once : EachStep outboxStep CrashesInTime st actions →
    Always outboxStep (fun s => ∀ id, s.handOvers id ≤ 1) st actions

/-- The invariant of the runs. -/
structure OutboxInv (st : OutboxState) : Prop extends OutboxOk st, OutboxHistory st

lemma outboxInv_step {st : OutboxState} (h : OutboxInv st) (a : OutboxAction) :
    OutboxInv (outboxStep st a) :=
  ⟨outboxOk_step h.toOutboxOk a, history_step h.toOutboxOk h.toOutboxHistory a⟩

lemma NewOutbox.inv {st : OutboxState} (h : NewOutbox st) : OutboxInv st ∧ Balanced st := by
  have hlocked : st.locked = [] := by rw [OutboxState.locked, h.pollers]; rfl
  refine ⟨⟨⟨⟨h.rows, by simp [h.pollers], by simp [hlocked]⟩, by simp [h.pollers]⟩, ?_⟩, fun id => ?_⟩
  · refine ⟨by simp [h.committed], fun row hrow => ?_, fun row hrow hstatus => ?_, by simp [h.pollers]⟩
    · obtain ⟨hstatus, hcount⟩ := h.queued row hrow
      rw [h.committed]
      exact settled_queued hstatus hcount
    · rw [(h.queued row hrow).1] at hstatus
      cases hstatus
  · simp [OutboxState.handOvers, OutboxState.inFlight, attemptsOf, h.broker, h.committed, h.pollers]

lemma kept_run {st : OutboxState} (h : OutboxInv st) (actions : List OutboxAction) {row : EmailOutbox}
    (hrow : row ∈ st.table) : ∃ row' ∈ (run outboxStep st actions).table, RowKept row row' := by
  induction actions generalizing st row with
  | nil => exact ⟨row, hrow, .refl row⟩
  | cons a actions ih =>
      obtain ⟨next, hnext, hkept⟩ := kept_step h.toOutboxOk a hrow
      obtain ⟨last, hlast, hrest⟩ := ih (outboxInv_step h a) hnext
      exact ⟨last, hlast, hkept.trans hrest⟩

/-- **The outbox delivers** along every run from rows that were queued: no row is lost, one that is
no longer pending stays as it is and is picked by no run, the broker took what is dispatched, and it
took nothing twice where no run crashes between a hand-over and its commit. -/
theorem outbox_delivery {st : OutboxState} (h : NewOutbox st) (actions : List OutboxAction) :
    DeliveryLaw st actions := by
  obtain ⟨hinv, hbalanced⟩ := h.inv
  have hall : ∀ as, OutboxInv (run outboxStep st as) := fun as =>
    run_invariant (I := OutboxInv) (fun s a hs => outboxInv_step hs a) as hinv
  refine ⟨fun as bs _ row hrow => ?_, fun as _ => (hall as).settled, fun as _ => (hall as).delivered,
    fun as _ row hrow hfinal p hp hid => ?_, fun hcrash => ?_⟩
  · rw [run_append]
    exact kept_run (hall as) bs hrow
  · obtain ⟨row', hrow', hsame, hpending⟩ := ((hall as).holds p hp).exists_row hid
    obtain rfl := List.inj_on_of_nodup_map (hall as).rows hrow' hrow hsame
    exact hfinal hpending
  · have hboth : Always outboxStep (fun s => OutboxInv s ∧ Balanced s) st actions :=
      always_of_eachStep (fun s a hs hG => ⟨outboxInv_step hs.1 a,
        balanced_step hs.1.toOutboxOk hs.2 a hG⟩) ⟨hinv, hbalanced⟩ hcrash
    intro as has id
    obtain ⟨hi, hb⟩ := hboth as has
    exact handOvers_le_one hi.toOutboxOk hi.toOutboxHistory hb id

/-- A welcome mail is queued. A run fails and commits, one crashes, and a third hands the mail over. -/
theorem outbox_delivery_sample :
    DeliveryLaw
      { table := [{ id := "e1", taskName := "send_welcome_email", createdAt := 0
                    payload := [("user_id", some "u1"), ("tenant_id", some "t1")] }] }
      [.poll 1 ⟨id, List.Perm.refl⟩ 0, .dispatch 1 (.error "down"), .commit 1,
        .poll 1 ⟨id, List.Perm.refl⟩ 0, .poll 2 ⟨id, List.Perm.refl⟩ 0, .crash 1,
        .poll 3 ⟨id, List.Perm.refl⟩ 0, .dispatch 3 (.ok ()), .commit 3] :=
  outbox_delivery ⟨by decide, by decide, rfl, rfl, rfl⟩ _

end EclServer.Outbox
