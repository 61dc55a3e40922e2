import EclServer.Outbox.Model

/-!
The runs of the poller and the rows that they have locked.

* `Round`: how a round of the loop ends. `step_cases`: what one step can do.
* `OutboxOk`: no two runs have locked one row, and what a run has read is in the table and pending.
* `committed_cases`: a row after the commit of a run. `outboxOk_step`: every step keeps the locks.
-/

namespace EclServer.Outbox

open EclServer.Library
open EclServer.Auth (QueryOrder)

/-! ### One round -/

section

variable {broker : Except String Unit} {row : EmailOutbox}

/-- What a round does not touch. -/
structure SameMail (row row' : EmailOutbox) : Prop where
  id : row'.id = row.id
  taskName : row'.taskName = row.taskName
  payload : row'.payload = row.payload
  createdAt : row'.createdAt = row.createdAt

/-- **A round** ends in one of three ways. -/
inductive Round (row : EmailOutbox) : EmailOutbox × Attempt → Prop
  | unknown {row' : EmailOutbox} (hmail : SameMail row row')
      (hattempts : row'.dispatchAttempts = row.dispatchAttempts + 1)
      (htask : dispatchFn row.taskName = none) (hstatus : row'.status = .deadLetter) :
      Round row (row', .unknownTask)
  | handed {row' : EmailOutbox} {args : List (Option String)} (hmail : SameMail row row')
      (hattempts : row'.dispatchAttempts = row.dispatchAttempts + 1)
      (htask : ∃ fn, dispatchFn row.taskName = some fn ∧ fn row.payload = .ok args)
      (hstatus : row'.status = .dispatched) : Round row (row', .handedOver args)
  | failed {row' : EmailOutbox} (hmail : SameMail row row')
      (hattempts : row'.dispatchAttempts = row.dispatchAttempts + 1)
      (htask : dispatchFn row.taskName ≠ none)
      (hstatus : row'.status
        = if 5 ≤ row.dispatchAttempts + 1 then .deadLetter else row.status) :
      Round row (row', .failed)

lemma delay_ok {args args' : List (Option String)} (h : delay broker args = .ok args') :
    args' = args := by
  cases broker with
  | error e => cases h
  | ok u => exact (Except.ok.inj h).symm

lemma round_dispatchRow (now : Time) (broker : Except String Unit) (row : EmailOutbox) :
    Round row (dispatchRow now broker row) := by
  rw [dispatchRow]
  split
  · rename_i hnone
    exact .unknown ⟨rfl, rfl, rfl, rfl⟩ rfl hnone rfl
  · rename_i fn hfn
    split
    · rename_i args hok
      obtain ⟨args', hargs, hdelay⟩ := bind_eq_ok.mp hok
      obtain rfl := delay_ok hdelay
      exact .handed ⟨rfl, rfl, rfl, rfl⟩ rfl ⟨fn, hfn, hargs⟩ rfl
    · refine .failed ⟨rfl, rfl, rfl, rfl⟩ rfl (fun hnone => ?_) rfl
      rw [hnone] at hfn
      cases hfn

lemma Round.mail {d : EmailOutbox × Attempt} (h : Round row d) : SameMail row d.1 := by
  cases h <;> assumption

end

/-! ### What a step can do -/

/-- No two rows, no two runs and no two locks have one key. -/
structure OutboxKeys (st : OutboxState) : Prop where
  rows : (st.table.map (·.id)).Nodup
  pids : (st.pollers.map (·.pid)).Nodup
  locks : st.locked.Nodup

/-- **One step** queues a row, starts a run, takes a run through its next row, commits it or ends
it. -/
inductive OutboxEffect (st : OutboxState) : OutboxAction → OutboxState → Prop
  | idle {a : OutboxAction} : OutboxEffect st a st
  | queues {a : OutboxAction} {row : EmailOutbox} (hnew : row.id ∉ st.table.map (·.id))
      (hstatus : row.status = .pending) (hcount : row.dispatchAttempts = 0) :
      OutboxEffect st a { st with table := st.table ++ [row] }
  | polls {a : OutboxAction} {p : Poller} (hnew : p.pid ∉ st.pollers.map (·.pid))
      (hdone : p.done = []) (htodo : ∀ row ∈ p.todo, row ∈ st.table ∧ row.status = .pending ∧
        row.id ∉ st.locked) (hids : (p.todo.map (·.id)).Nodup) :
      OutboxEffect st a { st with pollers := st.pollers ++ [p] }
  | rounds {a : OutboxAction} {l r : List Poller} {p : Poller} {row : EmailOutbox}
      {rest : List EmailOutbox} {d : EmailOutbox × Attempt} (hpollers : st.pollers = l ++ p :: r)
      (htodo : p.todo = row :: rest) (hround : Round row d) :
      OutboxEffect st a { st with
        pollers := l ++ { p with done := p.done ++ [d], todo := rest } :: r
        broker := st.broker ++ message row d.2 }
  | commits {a : OutboxAction} {l r : List Poller} {p : Poller}
      (hpollers : st.pollers = l ++ p :: r) (htodo : p.todo = []) :
      OutboxEffect st a { st with
        table := replaceByKey EmailOutbox.id (p.done.map (·.1)) st.table
        pollers := l ++ r
        committed := st.committed ++ p.done.map fun d => (d.1.id, d.2) }
  | ends {l r : List Poller} {p : Poller} (hpollers : st.pollers = l ++ p :: r) :
      OutboxEffect st (.crash p.pid) { st with pollers := l ++ r }

lemma mem_selectPending {order : QueryOrder EmailOutbox} {st : OutboxState} {row : EmailOutbox}
    (h : row ∈ st.selectPending order) :
    row ∈ st.table ∧ row.status = .pending ∧ row.id ∉ st.locked := by
  have hsorted := (mem_sortByKey _).mp (List.mem_of_mem_take h)
  obtain ⟨hmem, hp⟩ := List.mem_filter.mp ((order.perm _).mem_iff.mp hsorted)
  exact ⟨hmem, of_decide_eq_true hp⟩

lemma nodup_selectPending (order : QueryOrder EmailOutbox) {st : OutboxState}
    (h : (st.table.map (·.id)).Nodup) : ((st.selectPending order).map (·.id)).Nodup := by
  have hrows : ((order.rows (st.table.filter fun row =>
      row.status = .pending ∧ row.id ∉ st.locked)).map (·.id)).Nodup :=
    (((order.perm _).map _).nodup_iff).mpr (h.sublist (List.filter_sublist.map _))
  have hsorted := (((sortByKey_perm EmailOutbox.createdAt _).map EmailOutbox.id).nodup_iff).mpr hrows
  exact hsorted.sublist ((List.take_sublist _ _).map _)

/-- The run of a process, and the runs around it. -/
lemma exists_split_poller {st : OutboxState} (h : OutboxKeys st) {pid : ℕ} {p : Poller}
    (hp : st.poller? pid = some p) : ∃ l r, st.pollers = l ++ p :: r ∧
      (∀ f, updateByKey Poller.pid pid f st.pollers = l ++ f p :: r) ∧
      st.pollers.filter (fun q => q.pid ≠ pid) = l ++ r := by
  have hkey := List.find?_some hp
  obtain rfl : p.pid = pid := of_decide_eq_true hkey
  exact exists_split_of_mem Poller.pid h.pids (List.mem_of_find?_eq_some hp)

lemma step_cases {st : OutboxState} (h : OutboxKeys st) (a : OutboxAction) :
    OutboxEffect st a (outboxStep st a) := by
  cases a with
  | queue id taskName payload createdAt =>
      rw [outboxStep]
      split
      · exact .idle
      · rename_i hnew
        exact .queues hnew rfl rfl
  | poll pid order now =>
      rw [outboxStep]
      split
      · exact .idle
      · rename_i hnew
        exact .polls hnew rfl (fun row hrow => mem_selectPending hrow)
          (nodup_selectPending order h.rows)
  | dispatch pid broker =>
      rw [outboxStep]
      rcases hp : st.poller? pid with _ | p
      · exact .idle
      obtain ⟨l, r, hpollers, hupdate, -⟩ := exists_split_poller h hp
      dsimp only
      rw [hupdate]
      rcases htodo : p.todo with _ | ⟨row, rest⟩
      · have hsame : Poller.advance broker p = p := by rw [Poller.advance, htodo]
        have hnone : p.messages broker = [] := by rw [Poller.messages, htodo]
        rw [hsame, hnone, List.append_nil, ← hpollers]
        exact .idle
      · have hnext : Poller.advance broker p
            = { p with done := p.done ++ [dispatchRow p.now broker row], todo := rest } := by
          rw [Poller.advance, htodo]
        have hsent : p.messages broker = message row (dispatchRow p.now broker row).2 := by
          rw [Poller.messages, htodo]
        rw [hnext, hsent]
        exact .rounds hpollers htodo (round_dispatchRow _ _ _)
  | commit pid =>
      rw [outboxStep]
      rcases hp : st.poller? pid with _ | p
      · exact .idle
      obtain ⟨l, r, hpollers, -, hothers⟩ := exists_split_poller h hp
      dsimp only
      by_cases htodo : p.todo = []
      · rw [if_pos htodo, hothers]
        exact .commits hpollers htodo
      · rw [if_neg htodo]
        exact .idle
  | crash pid =>
      rw [outboxStep]
      rcases hp : st.poller? pid with _ | p
      · have hsame : (st.pollers.filter fun q => q.pid ≠ pid) = st.pollers := by
          rw [List.filter_eq_self]
          have hnone := List.find?_eq_none.mp hp
          simpa using hnone
        rw [hsame]
        exact .idle
      · obtain ⟨l, r, hpollers, -, hothers⟩ := exists_split_poller h hp
        have hkey := List.find?_some hp
        rw [hothers, ← of_decide_eq_true hkey]
        exact .ends hpollers

/-! ### Locks -/

/-- The rows that a run has read, in the table and pending; `d` is a round of one of them. -/
structure HoldsRows (table : List EmailOutbox) (p : Poller) : Prop where
  todo : ∀ row ∈ p.todo, row ∈ table ∧ row.status = .pending
  done : ∀ d ∈ p.done, ∃ row ∈ table, row.status = .pending ∧ Round row d

/-- **The locks**: what a run in flight has read is as it was. -/
structure OutboxOk (st : OutboxState) : Prop extends OutboxKeys st where
  holds : ∀ p ∈ st.pollers, HoldsRows st.table p

/-- The ids of the rows that a run has locked are those of rows of the table. -/
lemma HoldsRows.exists_row {table : List EmailOutbox} {p : Poller} (h : HoldsRows table p)
    {id : String} (hid : id ∈ p.ids) : ∃ row ∈ table, row.id = id ∧ row.status = .pending := by
  rw [Poller.ids, List.mem_append] at hid
  rcases hid with hdone | htodo
  · obtain ⟨d, hd, rfl⟩ := List.mem_map.mp hdone
    obtain ⟨row, hrow, hpending, hround⟩ := h.done d hd
    exact ⟨row, hrow, hround.mail.id.symm, hpending⟩
  · obtain ⟨row, hrow, rfl⟩ := List.mem_map.mp htodo
    obtain ⟨hmem, hpending⟩ := h.todo row hrow
    exact ⟨row, hmem, rfl, hpending⟩

/-- A run keeps what it holds as long as its rows stay. -/
lemma HoldsRows.mono {table table' : List EmailOutbox} {p : Poller} (h : HoldsRows table p)
    (hsub : ∀ row ∈ table, row.id ∈ p.ids → row ∈ table') : HoldsRows table' p := by
  constructor
  · intro row hrow
    obtain ⟨hmem, hpending⟩ := h.todo row hrow
    exact ⟨hsub row hmem (List.mem_append_right _ (List.mem_map_of_mem hrow)), hpending⟩
  · intro d hd
    obtain ⟨row, hrow, hpending, hround⟩ := h.done d hd
    refine ⟨row, hsub row hrow ?_, hpending, hround⟩
    rw [← hround.mail.id]
    exact List.mem_append_left _ (List.mem_map_of_mem hd)

lemma locked_split {st : OutboxState} {l r : List Poller} {p : Poller}
    (hpollers : st.pollers = l ++ p :: r) :
    st.locked = l.flatMap Poller.ids ++ (p.ids ++ r.flatMap Poller.ids) := by
  rw [OutboxState.locked, hpollers, List.flatMap_append, List.flatMap_cons]

/-- Two runs have locked different rows. -/
lemma notMem_ids_of_split {st : OutboxState} (h : OutboxKeys st) {l r : List Poller} {p q : Poller}
    (hpollers : st.pollers = l ++ p :: r) (hq : q ∈ l ++ r) {id : String} (hid : id ∈ q.ids) :
    id ∉ p.ids := by
  intro hp
  have hlocks := h.locks
  rw [locked_split hpollers, List.nodup_append, List.nodup_append] at hlocks
  obtain ⟨-, ⟨-, -, hright⟩, hleft⟩ := hlocks
  rcases List.mem_append.mp hq with hql | hqr
  · exact hleft id (List.mem_flatMap.mpr ⟨q, hql, hid⟩) id (List.mem_append_left _ hp) rfl
  · exact hright id hp id (List.mem_flatMap.mpr ⟨q, hqr, hid⟩) rfl

/-- The runs around one. -/
lemma OutboxKeys.others {st : OutboxState} (h : OutboxKeys st) {l r : List Poller} {p : Poller}
    (hpollers : st.pollers = l ++ p :: r) :
    ((l ++ r).map (·.pid)).Nodup ∧ ((l ++ r).flatMap Poller.ids).Nodup := by
  have hsub : (l ++ r).Sublist st.pollers := by
    rw [hpollers]
    exact List.Sublist.append_left (List.sublist_cons_self p r) l
  exact ⟨h.pids.sublist (hsub.map _), h.locks.sublist (hsub.flatMap _)⟩

/-- The row of the table after a run commits, and the row before. -/
lemma mem_committed_table {p : Poller} {table : List EmailOutbox} {row' : EmailOutbox} :
    row' ∈ replaceByKey EmailOutbox.id (p.done.map (·.1)) table ↔ ∃ row ∈ table,
      ((p.done.map (·.1)).find? fun d => d.id = row.id).getD row = row' :=
  List.mem_map

/-- **After a commit** a row is what its round made of it, or it was not in the batch and is as it
was. -/
lemma committed_cases {st : OutboxState} (h : OutboxOk st) {p : Poller} (hp : p ∈ st.pollers)
    {row : EmailOutbox} (hrow : row ∈ st.table) :
    (∃ d ∈ p.done, d.1.id = row.id ∧ row.status = .pending ∧ Round row d ∧
        ((p.done.map (·.1)).find? fun d => d.id = row.id).getD row = d.1) ∨
      row.id ∉ p.done.map (·.1.id) ∧
        ((p.done.map (·.1)).find? fun d => d.id = row.id).getD row = row := by
  rcases replaceByKey_cases EmailOutbox.id (p.done.map (·.1)) row with
    ⟨row', hrow', hid, heq⟩ | ⟨hnone, heq⟩
  · obtain ⟨d, hd, rfl⟩ := List.mem_map.mp hrow'
    obtain ⟨old, hold, hpending, hround⟩ := (h.holds p hp).done d hd
    have hsame : old.id = row.id := hround.mail.id.symm.trans hid
    obtain rfl := List.inj_on_of_nodup_map h.rows hold hrow hsame
    exact Or.inl ⟨d, hd, hid, hpending, hround, heq⟩
  · refine Or.inr ⟨fun hmem => ?_, heq⟩
    obtain ⟨d, hd, hid⟩ := List.mem_map.mp hmem
    exact hnone d.1 (List.mem_map_of_mem hd) hid

/-- **One step** keeps the locks. -/
lemma outboxOk_step {st : OutboxState} (h : OutboxOk st) (a : OutboxAction) :
    OutboxOk (outboxStep st a) := by
  have heffect := step_cases h.toOutboxKeys a
  generalize outboxStep st a = st' at heffect
  cases heffect with
  | idle => exact h
  | @queues _ row hnew hstatus hcount =>
      refine ⟨⟨?_, h.pids, h.locks⟩, fun p hp => ?_⟩
      · rw [List.map_append, List.map_singleton, ← List.concat_eq_append]
        exact h.rows.concat hnew
      · exact (h.holds p hp).mono fun row' hrow' _ => List.mem_append_left _ hrow'
  | @polls _ p hnew hdone htodo hids =>
      -- a new run locks the rows it has selected, and those no other run has locked
      have hlocked : p.ids = p.todo.map (·.id) := by rw [Poller.ids, hdone]; rfl
      refine ⟨⟨h.rows, ?_, ?_⟩, fun q hq => ?_⟩
      · rw [List.map_append, List.map_singleton, ← List.concat_eq_append]
        exact h.pids.concat hnew
      · rw [OutboxState.locked, List.flatMap_append, List.flatMap_singleton, List.nodup_append]
        refine ⟨h.locks, hlocked ▸ hids, fun id hid id' hid' hsame => ?_⟩
        rw [hlocked, List.mem_map] at hid'
        obtain ⟨row, hrow, rfl⟩ := hid'
        exact (htodo row hrow).2.2 (hsame ▸ hid)
      · rcases List.mem_append.mp hq with hold | hnew'
        · exact h.holds q hold
        · obtain rfl := List.mem_singleton.mp hnew'
          refine ⟨fun row hrow => ⟨(htodo row hrow).1, (htodo row hrow).2.1⟩, ?_⟩
          rw [hdone]
          simp
  | @rounds _ l r p row rest d hpollers htodo hround =>
      have hp : p ∈ st.pollers := hpollers ▸ List.mem_append_right _ (List.mem_cons_self ..)
      -- a round moves one row from those to do to those done, and its lock stays
      have hids : Poller.ids { p with done := p.done ++ [d], todo := rest } = p.ids := by
        simp only [Poller.ids, htodo, List.map_append, List.map_cons, List.map_nil,
          List.append_assoc, List.singleton_append, hround.mail.id]
      have hpids := h.pids
      have hlocks := h.locks
      rw [hpollers] at hpids
      rw [locked_split hpollers] at hlocks
      refine ⟨⟨h.rows, ?_, ?_⟩, fun q hq => ?_⟩
      · simpa using hpids
      · rw [OutboxState.locked, List.flatMap_append, List.flatMap_cons, hids]
        exact hlocks
      · rcases List.mem_append.mp hq with hleft | hright
        · exact h.holds q (hpollers ▸ List.mem_append_left _ hleft)
        rcases List.mem_cons.mp hright with rfl | hmem
        · have hholds := h.holds p hp
          refine ⟨fun row' hrow' => hholds.todo row' (htodo ▸ List.mem_cons_of_mem _ hrow'), ?_⟩
          intro d' hd'
          rcases List.mem_append.mp hd' with hold | hnew
          · exact hholds.done d' hold
          · obtain rfl := List.mem_singleton.mp hnew
            obtain ⟨hmem, hpending⟩ := hholds.todo row (htodo ▸ List.mem_cons_self ..)
            exact ⟨row, hmem, hpending, hround⟩
        · exact h.holds q (hpollers ▸ List.mem_append_right _ (List.mem_cons_of_mem _ hmem))
  | @commits _ l r p hpollers htodo =>
      have hp : p ∈ st.pollers := hpollers ▸ List.mem_append_right _ (List.mem_cons_self ..)
      -- a commit rewrites rows under their ids
      have hrows : (replaceByKey EmailOutbox.id (p.done.map (·.1)) st.table).map (·.id)
          = st.table.map (·.id) := by
        rw [replaceByKey, List.map_map]
        refine List.map_congr_left fun row hrow => ?_
        rw [Function.comp_apply]
        rcases committed_cases h hp hrow with ⟨d, -, hid, -, -, heq⟩ | ⟨-, heq⟩
        · rw [heq, hid]
        · rw [heq]
      refine ⟨⟨hrows ▸ h.rows, (h.others hpollers).1, (h.others hpollers).2⟩, fun q hq => ?_⟩
      have hqmem : q ∈ st.pollers := by
        rw [hpollers]
        exact (List.Sublist.append_left (List.sublist_cons_self p r) l).subset hq
      refine (h.holds q hqmem).mono fun row hrow hid => mem_committed_table.mpr ⟨row, hrow, ?_⟩
      rcases committed_cases h hp hrow with ⟨d, hd, hsame, -⟩ | ⟨-, heq⟩
      · -- a row of the batch is locked by no other run
        have hin : row.id ∈ p.ids :=
          List.mem_append_left _ (hsame ▸ List.mem_map_of_mem (f := fun d => d.1.id) hd)
        exact absurd hin (notMem_ids_of_split h.toOutboxKeys hpollers hq hid)
      · exact heq
  | @ends l r p hpollers =>
      refine ⟨⟨h.rows, (h.others hpollers).1, (h.others hpollers).2⟩, fun q hq => ?_⟩
      -- a run that ends gives up its locks, and the others keep theirs
      refine h.holds q ?_
      rw [hpollers]
      exact (List.Sublist.append_left (List.sublist_cons_self p r) l).subset hq

end EclServer.Outbox
