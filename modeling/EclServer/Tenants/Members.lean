import EclServer.Auth.Refresh
import EclServer.Library.Run

/-!
Tenant members: `assert_not_last_admin`, `update_member` and `remove_member` of
`app/modules/tenants/service.py`.

* `findMember`, `otherAdmins`, `guardsUpdate`, `changeRow`: the reads, the guard's count and
  condition, and the write.
* `updateMember`, `removeMember`: the services.
* `memberStep`: one statement of any of the requests in flight. `run_update_alone`,
  `run_remove_alone`: a request that nobody interrupts is the service in its transaction.
* `hasAdmin_step_iff`, `last_admin_iff`: the tenant keeps an active administrator exactly in
  the runs in which every commit that ends an active administrator finds another one.
* `hasAdmin_alone`: the guard sees to that for a request alone whose status is one of the two.
-/

namespace EclServer.Tenants

open EclServer.Library EclServer.Auth

/-! ### The services -/

/-- `UserRole.ADMINISTRATOR`. -/
def administrator : String := "administrator"

/-- `MemberStatus.DISABLED`. -/
def disabled : String := "disabled"

structure UpdateMemberRequest where
  role : Option String := none
  status : Option String := none
  deriving DecidableEq, Repr

def lastAdminError : ECLException :=
  { code := "LAST_ADMIN"
    detail := "This tenant must have at least one active administrator. "
      ++ "Assign another administrator before making this change."
    statusCode := 409 }

def cannotDisableSelf : ECLException :=
  { code := "VALIDATION_ERROR", detail := "Cannot disable your own account." }

def cannotRemoveSelf : ECLException :=
  { code := "VALIDATION_ERROR", detail := "Cannot remove yourself." }

def memberNotFound : ECLException :=
  { code := "RESOURCE_NOT_FOUND", detail := "Member not found.", statusCode := 404 }

/-- An active administrator of a tenant. -/
def isActiveAdmin (tenantId : String) (m : TenantMembership) : Bool :=
  m.tenantId = tenantId ∧ m.role = administrator ∧ m.status = memberStatusActive

/-- The membership of a user in a tenant, as `scalar_one_or_none` reads it. -/
def findMember (tenantId userId : String) (rows : List TenantMembership) :
    Except ECLException (Option TenantMembership) :=
  match rows.filter fun m => m.tenantId = tenantId ∧ m.userId = userId with
  | [] => .ok none
  | [m] => .ok (some m)
  | _ => .error unexpectedError

/-- The count of `assert_not_last_admin`: the active administrators besides a user. -/
def otherAdmins (tenantId userId : String) (rows : List TenantMembership) : ℕ :=
  rows.countP fun m => isActiveAdmin tenantId m ∧ m.userId ≠ userId

/-- `assert_not_last_admin`. -/
def assertNotLastAdmin (tenantId userId : String) : Request Unit := do
  let db ← get
  match ← liftM (findMember tenantId userId db.memberships) with
  | none => pure ()
  | some m =>
      if m.role ≠ administrator then pure ()
      else if otherAdmins tenantId userId db.memberships = 0 then throw lastAdminError
      else pure ()

/-- Whether `update_member` asks `assert_not_last_admin`. -/
def guardsUpdate (m : TenantMembership) (body : UpdateMemberRequest) : Bool :=
  (m.role = administrator ∧ body.role ≠ none ∧ body.role ≠ some administrator)
    ∨ (m.role = administrator ∧ body.status = some disabled)

/-- What `update_member` assigns to a column that held `loaded`: a blank value is none. -/
def assigned (value : Option String) (loaded : String) : String :=
  match value with
  | none => loaded
  | some v => if v = "" then loaded else v

/-- The UPDATE of a row loaded as `m`: it names the columns whose value has changed since. -/
def updateRow (m : TenantMembership) (body : UpdateMemberRequest) (row : TenantMembership) :
    TenantMembership :=
  { row with
    role := if assigned body.role m.role = m.role then row.role else assigned body.role m.role
    status :=
      if assigned body.status m.status = m.status then row.status
      else assigned body.status m.status }

/-- `update_member`. -/
def updateMember (tenantId userId : String) (body : UpdateMemberRequest) (actorId : String) :
    Request Unit := do
  if userId = actorId ∧ body.status = some disabled then throw cannotDisableSelf
  else do
    let db ← get
    match ← liftM (findMember tenantId userId db.memberships) with
    | none => throw memberNotFound
    | some m => do
        if guardsUpdate m body then assertNotLastAdmin tenantId userId else pure ()
        modify fun db => { db with
          memberships := updateByKey TenantMembership.id m.id (updateRow m body) db.memberships }

/-- `remove_member`. -/
def removeMember (tenantId userId actorId : String) : Request Unit := do
  if userId = actorId then throw cannotRemoveSelf
  else do
    let db ← get
    match ← liftM (findMember tenantId userId db.memberships) with
    | none => throw memberNotFound
    | some m => do
        if m.role = administrator then assertNotLastAdmin tenantId userId else pure ()
        modify fun db => { db with memberships := db.memberships.filter fun row => row.id ≠ m.id }

/-! ### Requests in flight -/

inductive MemberChange where
  | update (body : UpdateMemberRequest)
  | remove

namespace MemberChange

/-- The write of a change to a row that was loaded as `m`; `none` deletes it. -/
def apply (m : TenantMembership) (row : TenantMembership) :
    MemberChange → Option TenantMembership
  | update body => some (updateRow m body row)
  | remove => none

/-- Whether the service asks `assert_not_last_admin` first. -/
def guarded (m : TenantMembership) : MemberChange → Bool
  | update body => guardsUpdate m body
  | remove => m.role = administrator

end MemberChange

/-- The statement a request makes next: the two of `assert_not_last_admin`, and the commit. -/
inductive MemberPc where
  | reselect
  | count
  | commit
  deriving DecidableEq

/-- A request in flight, with the row it has loaded. -/
structure MemberRequest where
  tenantId : String
  userId : String
  member : TenantMembership
  change : MemberChange
  pc : MemberPc

structure MembersState where
  memberships : List TenantMembership
  requests : List MemberRequest := []

inductive MemberAction where
  | updateMember (tenantId userId : String) (body : UpdateMemberRequest) (actorId : String)
  | removeMember (tenantId userId actorId : String)
  | advance (i : ℕ)

/-- A request loads its row. -/
def beginChange (st : MembersState) (tenantId userId : String) (change : MemberChange) :
    MembersState :=
  match findMember tenantId userId st.memberships with
  | .ok (some m) =>
      { st with requests := st.requests ++
          [{ tenantId := tenantId, userId := userId, member := m, change := change
             pc := if change.guarded m then .reselect else .commit }] }
  | _ => st

/-- The row of a result in the session: one that is loaded already keeps its values. -/
def MemberRequest.held (r : MemberRequest) (row : TenantMembership) : TenantMembership :=
  if row.id = r.member.id then r.member else row

/-- The table after a request has committed. -/
def commitChange (r : MemberRequest) (rows : List TenantMembership) : List TenantMembership :=
  rows.filterMap fun row =>
    if row.id = r.member.id then r.change.apply r.member row else some row

/-- What is left of request `i`: nothing, or its next statement. -/
def putMember (st : MembersState) (i : ℕ) (r : MemberRequest) : Option MemberPc → MembersState
  | none => { st with requests := st.requests.eraseIdx i }
  | some pc => { st with requests := st.requests.set i { r with pc := pc } }

/-- The next statement of request `i`. -/
def advanceMember (st : MembersState) (i : ℕ) (r : MemberRequest) : MembersState :=
  match r.pc with
  | .reselect =>
      match findMember r.tenantId r.userId st.memberships with
      | .error _ => putMember st i r none
      | .ok none => putMember st i r (some .commit)
      | .ok (some row) =>
          putMember st i r (some (if (r.held row).role ≠ administrator then .commit else .count))
  | .count =>
      putMember st i r
        (if otherAdmins r.tenantId r.userId st.memberships = 0 then none else some .commit)
  | .commit =>
      { memberships := commitChange r st.memberships, requests := st.requests.eraseIdx i }

/-- One statement of one request. -/
def memberStep (st : MembersState) : MemberAction → MembersState
  | .updateMember tenantId userId body actorId =>
      if userId = actorId ∧ body.status = some disabled then st
      else beginChange st tenantId userId (.update body)
  | .removeMember tenantId userId actorId =>
      if userId = actorId then st else beginChange st tenantId userId .remove
  | .advance i =>
      match st.requests[i]? with
      | none => st
      | some r => advanceMember st i r

/-! ### A request that nobody interrupts -/

section

variable {tenantId userId : String} {db : AuthDb} {m : TenantMembership} {change : MemberChange}

/-- A guarded change is made to an administrator. -/
lemma role_of_guarded (h : change.guarded m = true) : m.role = administrator := by
  cases change with
  | update body =>
      rw [MemberChange.guarded, guardsUpdate, decide_eq_true_eq] at h
      rcases h with h | h
      · exact h.1
      · exact h.1
  | remove => exact of_decide_eq_true h

/-- The guard in a transaction: what it counts decides. -/
lemma exec_assertNotLastAdmin (hfind : findMember tenantId userId db.memberships = .ok (some m))
    (hrole : m.role = administrator) :
    Tx.exec (assertNotLastAdmin tenantId userId) db
      = (if otherAdmins tenantId userId db.memberships = 0 then .error lastAdminError else .ok (),
        db) := by
  rw [assertNotLastAdmin, Tx.exec_get_bind, hfind]
  rw [Tx.exec_bind_ok (Tx.exec_liftM _ _)]
  simp only [hrole, ne_eq, not_true_eq_false, if_false, Tx.exec_ite, Tx.exec_throw, Tx.exec_pure]
  split <;> rfl

/-- **A request alone**: its guard and its commit see the table that it was loaded from. -/
lemma run_beginChange (hfind : findMember tenantId userId db.memberships = .ok (some m)) :
    (run memberStep (beginChange { memberships := db.memberships } tenantId userId change)
        [.advance 0, .advance 0, .advance 0]).memberships
      = if change.guarded m = true ∧ otherAdmins tenantId userId db.memberships = 0
        then db.memberships
        else commitChange ⟨tenantId, userId, m, change, .commit⟩ db.memberships := by
  by_cases hguard : change.guarded m = true
  · have hrole := role_of_guarded hguard
    by_cases hcount : otherAdmins tenantId userId db.memberships = 0 <;>
      simp [beginChange, hfind, hguard, hrole, hcount, memberStep, advanceMember, putMember,
        MemberRequest.held]
  · simp [beginChange, hfind, hguard, memberStep, advanceMember, commitChange]

/-- The commit of an update is the UPDATE. -/
lemma commitChange_update (r : MemberRequest) (body : UpdateMemberRequest)
    (hr : r.change = .update body) (rows : List TenantMembership) :
    commitChange r rows
      = updateByKey TenantMembership.id r.member.id (updateRow r.member body) rows := by
  rw [commitChange, updateByKey, ← List.filterMap_eq_map, hr]
  refine List.filterMap_congr fun row _ => ?_
  rw [Function.comp_apply, MemberChange.apply]
  split <;> rfl

/-- The commit of a removal is the DELETE. -/
lemma commitChange_remove (r : MemberRequest) (hr : r.change = .remove)
    (rows : List TenantMembership) :
    commitChange r rows = rows.filter fun row => row.id ≠ r.member.id := by
  rw [commitChange, ← List.filterMap_eq_filter, hr]
  refine List.filterMap_congr fun row _ => ?_
  by_cases hid : row.id = r.member.id <;> simp [hid, MemberChange.apply, Option.guard]

end

/-- **An update that nobody interrupts** is `updateMember` in its transaction. -/
theorem run_update_alone (tenantId userId : String) (body : UpdateMemberRequest)
    (actorId : String) (db : AuthDb) :
    (run memberStep { memberships := db.memberships }
        [.updateMember tenantId userId body actorId, .advance 0, .advance 0, .advance 0]).memberships
      = (Tx.commit (updateMember tenantId userId body actorId) db).2.memberships := by
  rw [run_cons, memberStep, updateMember]
  by_cases hself : userId = actorId ∧ body.status = some disabled
  · simp [hself, memberStep, Tx.commit]
  rw [if_neg hself, if_neg hself]
  rcases hfind : findMember tenantId userId db.memberships with e | _ | m
  · simp [beginChange, hfind, memberStep, Tx.commit, Tx.exec_bind]
  · simp [beginChange, hfind, memberStep, Tx.commit, Tx.exec_bind]
  · rw [run_beginChange hfind, commitChange_update _ body rfl]
    by_cases hguard : guardsUpdate m body = true
    · have hexec := exec_assertNotLastAdmin hfind (@role_of_guarded m (.update body) hguard)
      by_cases hcount : otherAdmins tenantId userId db.memberships = 0 <;>
        simp [hfind, hguard, hexec, hcount, MemberChange.guarded, Tx.commit, Tx.exec_bind]
    · simp [hfind, hguard, MemberChange.guarded, Tx.commit, Tx.exec_bind]

/-- **A removal that nobody interrupts** is `removeMember` in its transaction. -/
theorem run_remove_alone (tenantId userId actorId : String) (db : AuthDb) :
    (run memberStep { memberships := db.memberships }
        [.removeMember tenantId userId actorId, .advance 0, .advance 0, .advance 0]).memberships
      = (Tx.commit (removeMember tenantId userId actorId) db).2.memberships := by
  rw [run_cons, memberStep, removeMember]
  by_cases hself : userId = actorId
  · simp [hself, memberStep, Tx.commit]
  rw [if_neg hself, if_neg hself]
  rcases hfind : findMember tenantId userId db.memberships with e | _ | m
  · simp [beginChange, hfind, memberStep, Tx.commit, Tx.exec_bind]
  · simp [beginChange, hfind, memberStep, Tx.commit, Tx.exec_bind]
  · rw [run_beginChange hfind, commitChange_remove _ rfl]
    by_cases hrole : m.role = administrator
    · have hexec := exec_assertNotLastAdmin hfind hrole
      by_cases hcount : otherAdmins tenantId userId db.memberships = 0 <;>
        simp [hfind, hrole, hexec, hcount, MemberChange.guarded, Tx.commit, Tx.exec_bind]
    · simp [hfind, hrole, MemberChange.guarded, Tx.commit, Tx.exec_bind]

/-! ### The last administrator -/

/-- The tenant has an active administrator. -/
def HasAdmin (tenantId : String) (st : MembersState) : Prop :=
  ∃ m ∈ st.memberships, isActiveAdmin tenantId m = true

/-- The step is the commit of request `r`. -/
def Commits (st : MembersState) (a : MemberAction) (r : MemberRequest) : Prop :=
  ∃ i, a = .advance i ∧ st.requests[i]? = some r ∧ r.pc = .commit

/-- A change that leaves no active administrator of the row it is made to: a removal, another
role, or any status but the active one. -/
def MemberChange.endsAdmin (m : TenantMembership) : MemberChange → Bool
  | update body =>
      (assigned body.role m.role ≠ m.role ∧ assigned body.role m.role ≠ administrator)
        ∨ (assigned body.status m.status ≠ m.status
          ∧ assigned body.status m.status ≠ memberStatusActive)
  | remove => true

/-- A commit that ends an active administrator of the tenant finds another one. -/
def FindsOtherAdmin (tenantId : String) (st : MembersState) (a : MemberAction) : Prop :=
  ∀ r, Commits st a r → r.change.endsAdmin r.member = true →
    ∀ row ∈ st.memberships, row.id = r.member.id → isActiveAdmin tenantId row = true →
    ∃ other ∈ st.memberships, other.id ≠ row.id ∧ isActiveAdmin tenantId other = true

section

variable {tenantId : String} {st : MembersState}

lemma mem_commitChange {r : MemberRequest} {rows : List TenantMembership} {m : TenantMembership} :
    m ∈ commitChange r rows ↔ (m ∈ rows ∧ m.id ≠ r.member.id) ∨
      ∃ row ∈ rows, row.id = r.member.id ∧ r.change.apply r.member row = some m := by
  rw [commitChange, List.mem_filterMap]
  constructor
  · rintro ⟨row, hrow, happly⟩
    split at happly
    · rename_i hid
      exact Or.inr ⟨row, hrow, hid, happly⟩
    · rename_i hid
      obtain rfl := Option.some.inj happly
      exact Or.inl ⟨hrow, hid⟩
  · rintro (⟨hmem, hid⟩ | ⟨row, hrow, hid, happly⟩)
    · exact ⟨m, hmem, if_neg hid⟩
    · exact ⟨row, hrow, (if_pos hid).trans happly⟩

/-- A write keeps the id of its row. -/
lemma id_of_apply {change : MemberChange} {m row row' : TenantMembership}
    (h : change.apply m row = some row') : row'.id = row.id := by
  cases change with
  | update body => rw [← Option.some.inj h, updateRow]
  | remove => cases h

/-- What a change makes of an active administrator. -/
lemma endsAdmin_iff {change : MemberChange} {m row : TenantMembership}
    (hrow : isActiveAdmin tenantId row = true) :
    change.endsAdmin m = true
      ↔ ∀ row', change.apply m row = some row' → isActiveAdmin tenantId row' = false := by
  cases change with
  | remove => exact iff_of_true rfl fun row' h => by cases h
  | update body =>
      obtain ⟨htenant, hrole, hstatus⟩ : row.tenantId = tenantId ∧ row.role = administrator
        ∧ row.status = memberStatusActive := by simpa [isActiveAdmin] using hrow
      simp only [MemberChange.apply, Option.some.injEq, forall_eq', MemberChange.endsAdmin,
        isActiveAdmin, updateRow, htenant, hrole, hstatus]
      by_cases hr : assigned body.role m.role = m.role <;>
        by_cases hs : assigned body.status m.status = m.status <;> simp [hr, hs]
      tauto

@[simp] lemma memberships_beginChange (tenantId userId : String) (change : MemberChange) :
    (beginChange st tenantId userId change).memberships = st.memberships := by
  rw [beginChange]
  split <;> rfl

@[simp] lemma memberships_putMember (i : ℕ) (r : MemberRequest) (pc : Option MemberPc) :
    (putMember st i r pc).memberships = st.memberships := by
  cases pc <;> rfl

/-- **What a step does to the table**: a commit writes its change, any other step nothing. -/
lemma memberships_memberStep (a : MemberAction) :
    ((∀ r, ¬ Commits st a r) ∧ (memberStep st a).memberships = st.memberships) ∨
      ∃ r, Commits st a r ∧ (memberStep st a).memberships = commitChange r st.memberships := by
  cases a with
  | updateMember tenantId userId body actorId =>
      refine Or.inl ⟨by rintro r ⟨_, ⟨⟩, _⟩, ?_⟩
      simp only [memberStep]
      split
      · rfl
      · exact memberships_beginChange _ _ _
  | removeMember tenantId userId actorId =>
      refine Or.inl ⟨by rintro r ⟨_, ⟨⟩, _⟩, ?_⟩
      simp only [memberStep]
      split
      · rfl
      · exact memberships_beginChange _ _ _
  | advance i =>
      simp only [memberStep]
      cases hi : st.requests[i]? with
      | none =>
          refine Or.inl ⟨?_, rfl⟩
          rintro r ⟨j, hj, hr, -⟩
          obtain rfl := MemberAction.advance.inj hj
          rw [hi] at hr
          cases hr
      | some r =>
          have hother : ∀ pc, r.pc = pc → pc ≠ .commit → ∀ r', ¬ Commits st (.advance i) r' := by
            rintro pc hpc hne r' ⟨j, hj, hr, hcommit⟩
            obtain rfl := MemberAction.advance.inj hj
            obtain rfl : r = r' := Option.some.inj (hi.symm.trans hr)
            exact hne (hpc.symm.trans hcommit)
          simp only [advanceMember]
          cases hpc : r.pc with
          | reselect =>
              refine Or.inl ⟨hother _ hpc (by decide), ?_⟩
              dsimp only
              split <;> exact memberships_putMember _ _ _
          | count => exact Or.inl ⟨hother _ hpc (by decide), memberships_putMember _ _ _⟩
          | commit => exact Or.inr ⟨r, ⟨i, rfl, hi, hpc⟩, rfl⟩

/-- A commit keeps the ids of the rows it leaves. -/
lemma ids_commitChange_sublist (r : MemberRequest) (rows : List TenantMembership) :
    ((commitChange r rows).map TenantMembership.id).Sublist (rows.map TenantMembership.id) := by
  induction rows with
  | nil => exact List.Sublist.refl _
  | cons row rows ih =>
      rw [commitChange, List.filterMap_cons, List.map_cons]
      split
      · exact ih.cons _
      · rename_i row' hrow
        have hid : row'.id = row.id := by
          split at hrow
          · exact id_of_apply hrow
          · rw [Option.some.inj hrow]
        rw [List.map_cons, hid]
        exact ih.cons_cons _

/-- Ids stay unique. -/
lemma nodup_ids_memberStep (a : MemberAction)
    (h : (st.memberships.map TenantMembership.id).Nodup) :
    ((memberStep st a).memberships.map TenantMembership.id).Nodup := by
  rcases @memberships_memberStep st a with ⟨-, hsame⟩ | ⟨r, -, hcommit⟩
  · rwa [hsame]
  · rw [hcommit]
    exact h.sublist (ids_commitChange_sublist r st.memberships)

/-- **A commit** keeps an active administrator exactly where, if it ends one, it finds
another. -/
lemma hasAdmin_commitChange_iff {r : MemberRequest} {rows : List TenantMembership}
    (hids : (rows.map TenantMembership.id).Nodup)
    (hadmin : ∃ m ∈ rows, isActiveAdmin tenantId m = true) :
    (∃ m ∈ commitChange r rows, isActiveAdmin tenantId m = true)
      ↔ (r.change.endsAdmin r.member = true → ∀ row ∈ rows, row.id = r.member.id →
          isActiveAdmin tenantId row = true →
          ∃ other ∈ rows, other.id ≠ row.id ∧ isActiveAdmin tenantId other = true) := by
  constructor
  · rintro ⟨m, hm, hactive⟩ hends row hrow hid hrowActive
    rcases mem_commitChange.mp hm with ⟨hmem, hne⟩ | ⟨row', hrow', hid', happly⟩
    · exact ⟨m, hmem, fun h => hne (h.trans hid), hactive⟩
    · obtain rfl : row' = row := List.inj_on_of_nodup_map hids hrow' hrow (hid'.trans hid.symm)
      rw [(endsAdmin_iff hrowActive).mp hends m happly] at hactive
      exact absurd hactive (by decide)
  · intro hfinds
    obtain ⟨m, hm, hactive⟩ := hadmin
    by_cases hid : m.id = r.member.id
    · by_cases hends : r.change.endsAdmin r.member = true
      · obtain ⟨other, hother, hne, hotherActive⟩ := hfinds hends m hm hid hactive
        exact ⟨other, mem_commitChange.mpr (Or.inl ⟨hother, hid ▸ hne⟩), hotherActive⟩
      · -- the commit leaves the row an active administrator
        rw [endsAdmin_iff hactive] at hends
        push Not at hends
        obtain ⟨row', happly, hstays⟩ := hends
        refine ⟨row', mem_commitChange.mpr (Or.inr ⟨m, hm, hid, happly⟩), ?_⟩
        simpa using hstays
    · exact ⟨m, mem_commitChange.mpr (Or.inl ⟨hm, hid⟩), hactive⟩

/-- **One step** keeps an active administrator exactly where a commit that ends one finds
another. -/
lemma hasAdmin_step_iff (a : MemberAction) (hids : (st.memberships.map TenantMembership.id).Nodup)
    (hadmin : HasAdmin tenantId st) :
    HasAdmin tenantId (memberStep st a) ↔ FindsOtherAdmin tenantId st a := by
  rcases @memberships_memberStep st a with ⟨hnone, hsame⟩ | ⟨r, hr, hcommit⟩
  · exact iff_of_true (by rwa [HasAdmin, hsame]) fun r hr => absurd hr (hnone r)
  have honly : ∀ r', Commits st a r' → r' = r := by
    rintro r' ⟨j, hj, hr', -⟩
    obtain ⟨i, rfl, hi, -⟩ := hr
    obtain rfl := MemberAction.advance.inj hj
    exact Option.some.inj (hr'.symm.trans hi)
  rw [HasAdmin, hcommit, hasAdmin_commitChange_iff hids hadmin]
  constructor
  · intro h r' hr'
    rw [honly r' hr']
    exact h
  · intro h
    exact h r hr

/-! ### The guard alone -/

/-- The guard is asked for every change that ends an active administrator, as long as the
status is one of the two that memberships have. -/
lemma guarded_of_endsAdmin {m : TenantMembership} {change : MemberChange}
    (hm : isActiveAdmin tenantId m = true)
    (hstatus : ∀ body, change = .update body →
      body.status ∈ [none, some "", some memberStatusActive, some disabled])
    (hends : change.endsAdmin m = true) : change.guarded m = true := by
  obtain ⟨-, hrole, hactive⟩ : m.tenantId = tenantId ∧ m.role = administrator
    ∧ m.status = memberStatusActive := by simpa [isActiveAdmin] using hm
  cases change with
  | remove => exact decide_eq_true hrole
  | update body =>
      rw [MemberChange.guarded, guardsUpdate, decide_eq_true_eq]
      rw [MemberChange.endsAdmin, decide_eq_true_eq] at hends
      rcases hends with ⟨-, hends⟩ | ⟨-, hends⟩
      · refine Or.inl ⟨hrole, ?_⟩
        cases hbody : body.role with
        | none => simp [assigned, hbody, hrole] at hends
        | some role =>
            refine ⟨by simp, fun hadmin => hends ?_⟩
            rw [hbody, hadmin]
            rfl
      · refine Or.inr ⟨hrole, ?_⟩
        have hcases := hstatus body rfl
        simp only [List.mem_cons, List.not_mem_nil, or_false] at hcases
        rcases hcases with h | h | h | h
        · simp [assigned, h, hactive] at hends
        · simp [assigned, h, hactive] at hends
        · rw [h] at hends
          exact absurd rfl hends
        · exact h

/-- A row that was found is in the table, under the ids it was asked for. -/
lemma of_findMember {t userId : String} {rows : List TenantMembership} {m : TenantMembership}
    (h : findMember t userId rows = .ok (some m)) :
    m ∈ rows ∧ m.tenantId = t ∧ m.userId = userId := by
  unfold findMember at h
  split at h
  · cases h
  · rename_i m' hfilter
    obtain rfl := Option.some.inj (Except.ok.inj h)
    have hmem : m' ∈ rows.filter fun m => m.tenantId = t ∧ m.userId = userId := by
      rw [hfilter]
      exact List.mem_singleton_self m'
    simpa using hmem
  · cases h

/-- **A request that nobody interrupts** keeps an active administrator, as long as the status
it asks for is one of the two that memberships have. -/
theorem hasAdmin_alone {t userId : String} {change : MemberChange} {db : AuthDb}
    (hids : (db.memberships.map TenantMembership.id).Nodup)
    (hadmin : HasAdmin tenantId { memberships := db.memberships })
    (hstatus : ∀ body, change = .update body →
      body.status ∈ [none, some "", some memberStatusActive, some disabled]) :
    HasAdmin tenantId (run memberStep (beginChange { memberships := db.memberships } t userId change)
      [.advance 0, .advance 0, .advance 0]) := by
  rcases hfind : findMember t userId db.memberships with e | _ | m
  · simpa [beginChange, hfind, memberStep] using hadmin
  · simpa [beginChange, hfind, memberStep] using hadmin
  rw [HasAdmin, run_beginChange hfind]
  obtain ⟨hmem, htenant, huser⟩ := of_findMember hfind
  split
  · exact hadmin
  rename_i hpassed
  rw [hasAdmin_commitChange_iff hids hadmin]
  intro hends row hrow hid hactive
  obtain rfl : row = m := List.inj_on_of_nodup_map hids hrow hmem hid
  -- the change is guarded, so the guard has counted another administrator
  have hguard := guarded_of_endsAdmin hactive hstatus hends
  have hcount : 0 < otherAdmins t userId db.memberships :=
    Nat.pos_of_ne_zero fun hzero => hpassed ⟨hguard, hzero⟩
  obtain ⟨other, hother, hcounts⟩ := List.countP_pos_iff.mp hcount
  obtain ⟨hotherActive, hne⟩ := of_decide_eq_true hcounts
  have hsame : t = tenantId := by
    rw [← htenant]
    exact (of_decide_eq_true hactive).1
  refine ⟨other, hother, fun hsameId => hne ?_, hsame ▸ hotherActive⟩
  rw [← huser, List.inj_on_of_nodup_map hids hother hmem hsameId]

end

/-- **The last administrator**: over any interleaving, the tenant keeps an active administrator
exactly where every commit that ends one finds another. The guard counts before the commit, and only
for some of the updates that end an administrator. -/
theorem last_admin_iff {tenantId : String} {memberships : List TenantMembership}
    (hids : (memberships.map TenantMembership.id).Nodup)
    (hadmin : HasAdmin tenantId { memberships := memberships }) (actions : List MemberAction) :
    Always memberStep (HasAdmin tenantId) { memberships := memberships } actions
      ↔ EachStep memberStep (FindsOtherAdmin tenantId) { memberships := memberships } actions :=
  always_iff_eachStep_of_invariant
    (I := fun st : MembersState => (st.memberships.map TenantMembership.id).Nodup)
    (A := fun _ _ => True) (fun _ a h _ => nodup_ids_memberStep a h)
    (fun _ a h hp _ => hasAdmin_step_iff a h hp) hids hadmin
    (EachStep.of_forall (fun _ _ => trivial) _ _)

/-! Two administrators of a tenant. -/

def sampleAdmin (id userId : String) : TenantMembership :=
  { id := id, userId := userId, tenantId := "t1", role := administrator, joinedAt := 0 }

def sampleAdmins : List TenantMembership := [sampleAdmin "m1" "u1", sampleAdmin "m2" "u2"]

/-- One of them is demoted: the other one stays. -/
theorem last_admin_iff_sample :
    Always memberStep (HasAdmin "t1") { memberships := sampleAdmins }
        [.updateMember "t1" "u2" { role := some "analyst" } "u1",
          .advance 0, .advance 0, .advance 0]
      ↔ EachStep memberStep (FindsOtherAdmin "t1") { memberships := sampleAdmins }
        [.updateMember "t1" "u2" { role := some "analyst" } "u1",
          .advance 0, .advance 0, .advance 0] :=
  last_admin_iff (by decide) ⟨sampleAdmin "m1" "u1", by decide, by decide⟩ _

/-- The tenant is left without an active administrator when the two demote each other at once,
and when the only one sets the own status to a string that is neither of the two. -/
theorem last_admin_fails :
    ¬ (∀ (tenantId : String) (memberships : List TenantMembership),
        (memberships.map TenantMembership.id).Nodup →
        HasAdmin tenantId { memberships := memberships } →
        ∀ actions, Always memberStep (HasAdmin tenantId) { memberships := memberships } actions)
      ∧ ¬ HasAdmin "t1" (run memberStep { memberships := sampleAdmins }
        [.updateMember "t1" "u2" { role := some "analyst" } "u1",
          .updateMember "t1" "u1" { role := some "analyst" } "u2",
          .advance 0, .advance 1, .advance 0, .advance 1, .advance 0, .advance 0])
      ∧ ¬ HasAdmin "t1" (run memberStep { memberships := [sampleAdmin "m1" "u1"] }
        [.updateMember "t1" "u1" { status := some "suspended" } "u1", .advance 0]) := by
  have hstatus : ¬ HasAdmin "t1" (run memberStep { memberships := [sampleAdmin "m1" "u1"] }
      [.updateMember "t1" "u1" { status := some "suspended" } "u1", .advance 0]) := by
    unfold HasAdmin
    decide
  refine ⟨fun hall => hstatus ?_, ?_, hstatus⟩
  · exact hall "t1" [sampleAdmin "m1" "u1"] (by decide)
      ⟨sampleAdmin "m1" "u1", by decide, by decide⟩ _ _ List.prefix_rfl
  · unfold HasAdmin
    decide

end EclServer.Tenants
