import EclServer.Auth.InviteLifecycle
import EclServer.Tenants.Members

/-!
Accepting an invitation under the constraint `memberships_unique` of the database.

* `acceptInviteEndpoint`: `accept_invite` with the commit of its request, which checks the
  constraint over all rows; the guards of the service look at the active ones.
* `EndsCleanly`: the answer and the database are one of the two that an acceptance should have.
  `JoinsCleanly`: what the database has of the account and the workspace beforehand; an invitee
  without an account cannot join, since the answer is made of a row that is not inserted yet.
* `endsCleanly_iff`: one acceptance. `membershipStep`: the requests that write to the memberships,
  the three that invite, and any other. `accept_invite_iff`: over all their runs.
-/

namespace EclServer.Tenants

open EclServer.Library EclServer.Auth

/-! ### The constraint -/

/-- `memberships_unique`. -/
def MembershipsUnique (rows : List TenantMembership) : Prop :=
  (rows.map fun m => (m.userId, m.tenantId)).Nodup

instance (rows : List TenantMembership) : Decidable (MembershipsUnique rows) :=
  inferInstanceAs (Decidable (List.Nodup _))

/-- All rows of a user in a tenant. -/
def memberRows (rows : List TenantMembership) (userId tenantId : String) : List TenantMembership :=
  rows.filter fun m => m.userId = userId ∧ m.tenantId = tenantId

section

variable {rows : List TenantMembership} {userId tenantId : String} {m : TenantMembership}

lemma mem_memberRows : m ∈ memberRows rows userId tenantId
    ↔ m ∈ rows ∧ m.userId = userId ∧ m.tenantId = tenantId := by
  simp [memberRows]

/-- The constraint leaves a user at most one row in a tenant. -/
lemma length_memberRows_le (h : MembershipsUnique rows) :
    (memberRows rows userId tenantId).length ≤ 1 := by
  have hconst : ∀ p ∈ (memberRows rows userId tenantId).map fun m => (m.userId, m.tenantId),
      p = (userId, tenantId) := by
    intro p hp
    obtain ⟨m, hm, rfl⟩ := List.mem_map.mp hp
    obtain ⟨-, huser, htenant⟩ := mem_memberRows.mp hm
    rw [huser, htenant]
  have hnodup : ((memberRows rows userId tenantId).map fun m => (m.userId, m.tenantId)).Nodup :=
    h.sublist (List.filter_sublist.map _)
  rw [List.eq_replicate_of_mem hconst, List.nodup_replicate, List.length_map] at hnodup
  exact hnodup

/-- A new row meets the constraint when its user has no row in its tenant. -/
lemma membershipsUnique_append_iff (h : MembershipsUnique rows) :
    MembershipsUnique (rows ++ [m]) ↔ memberRows rows m.userId m.tenantId = [] := by
  have hnew : (m.userId, m.tenantId) ∉ rows.map (fun m => (m.userId, m.tenantId))
      ↔ memberRows rows m.userId m.tenantId = [] := by
    rw [List.eq_nil_iff_forall_not_mem]
    constructor
    · intro hnot n hn
      obtain ⟨hmem, huser, htenant⟩ := mem_memberRows.mp hn
      exact hnot (List.mem_map.mpr ⟨n, hmem, by rw [huser, htenant]⟩)
    · intro hnone hmem
      obtain ⟨n, hn, hsame⟩ := List.mem_map.mp hmem
      obtain ⟨huser, htenant⟩ := Prod.mk.inj hsame
      exact hnone n (mem_memberRows.mpr ⟨hn, huser, htenant⟩)
  rw [MembershipsUnique, List.map_append, List.map_singleton, List.nodup_append, ← hnew]
  constructor
  · rintro ⟨-, -, hdisjoint⟩ hmem
    exact hdisjoint _ hmem _ (List.mem_singleton_self _) rfl
  · intro hnot
    refine ⟨h, List.nodup_singleton _, fun p hp q hq hsame => ?_⟩
    rw [List.mem_singleton] at hq
    exact hnot (hq ▸ hsame ▸ hp)

end

section

variable (settings : Settings) (crypto : Crypto) (now : Time) (draws : Draws)

/-- `POST /invites/accept`: the service, and the constraint at the commit. -/
def acceptInviteEndpoint (request : AcceptInviteRequest) : Request AuthResponse := do
  let resp ← acceptInvite settings crypto now draws request
  let db ← get
  if MembershipsUnique db.memberships then return resp else throw unexpectedError

/-- The invitation is the pending one of the token and has not expired; the password breaks no
rule, and is the account's own where there is one. -/
structure CanAccept (db : AuthDb) (request : AcceptInviteRequest) (inv : Invitation) : Prop where
  found : db.invitations.find? (fun i => i.tokenHash = crypto.hashToken request.token) = some inv
  pending : inv.status = .pending
  unexpired : now ≤ inv.expiresAt
  password : crypto.validatePasswordFull request.password request.name = []
  own : ∀ user, db.getActiveUserByEmail crypto inv.email = some user →
    crypto.verifyPassword request.password user.hashedPassword = true

/-- The id of the account that joins: that of the address, or a new one. -/
def joinerId (db : AuthDb) (inv : Invitation) : String :=
  ((db.getActiveUserByEmail crypto inv.email).map (·.id)).getD draws.userId

end

/-- **A clean end**: the account has one row in the workspace, active and with the invited role,
or the service has raised and nothing is changed. -/
def EndsCleanly (answer : Except ECLException AuthResponse × AuthDb) (db : AuthDb)
    (userId : String) (inv : Invitation) : Prop :=
  (∃ resp m, answer.1 = .ok resp ∧ memberRows answer.2.memberships userId inv.tenantId = [m] ∧
      m.status = memberStatusActive ∧ m.role = inv.role) ∨
    ∃ e, answer.1 = .error e ∧ e ≠ unexpectedError ∧ answer.2 = db

def IsActiveMember (db : AuthDb) (userId tenantId : String) : Prop :=
  ∃ m ∈ memberRows db.memberships userId tenantId, m.status = memberStatusActive

instance (db : AuthDb) (userId tenantId : String) : Decidable (IsActiveMember db userId tenantId) :=
  inferInstanceAs (Decidable (∃ _ ∈ _, _))

def HasTenantRow (db : AuthDb) (tenantId : String) : Prop := ∃ t ∈ db.tenants, t.id = tenantId

instance (db : AuthDb) (tenantId : String) : Decidable (HasTenantRow db tenantId) :=
  inferInstanceAs (Decidable (∃ _ ∈ _, _))

/-- A live account has the address of the invitation. -/
def HasAccount (crypto : Crypto) (db : AuthDb) (inv : Invitation) : Prop :=
  (db.getActiveUserByEmail crypto inv.email).isSome = true

instance (crypto : Crypto) (db : AuthDb) (inv : Invitation) : Decidable (HasAccount crypto db inv) :=
  inferInstanceAs (Decidable (_ = _))

/-- The account is an active member already; or the workspace has a row, and there is an account
that has none in it (or no access token can be signed for it). -/
def JoinsCleanly (settings : Settings) (crypto : Crypto) (db : AuthDb) (userId : String)
    (inv : Invitation) : Prop :=
  IsActiveMember db userId inv.tenantId ∨
    (HasTenantRow db inv.tenantId ∧
      ((HasAccount crypto db inv ∧ memberRows db.memberships userId inv.tenantId = []) ∨
        settings.jwtPrivateKey = ""))

instance (settings : Settings) (crypto : Crypto) (db : AuthDb) (userId : String)
    (inv : Invitation) : Decidable (JoinsCleanly settings crypto db userId inv) :=
  inferInstanceAs (Decidable (_ ∨ _))

/-- What the service does for the account `userId`: it finds an active row, no workspace or no
signing key, it cannot answer for a new account, or it adds the membership. -/
inductive Acceptance (settings : Settings) (crypto : Crypto) (now : Time) (draws : Draws)
    (db : AuthDb) (userId : String) (inv : Invitation) :
    Except ECLException AuthResponse × AuthDb → Prop
  | member (hmember : IsActiveMember db userId inv.tenantId) (t : AuthDb) :
      Acceptance settings crypto now draws db userId inv (.error alreadyMember, t)
  | noTenant (hmember : ¬ IsActiveMember db userId inv.tenantId)
      (htenant : ¬ HasTenantRow db inv.tenantId) (t : AuthDb) :
      Acceptance settings crypto now draws db userId inv (.error unexpectedError, t)
  | noKey (hmember : ¬ IsActiveMember db userId inv.tenantId)
      (htenant : HasTenantRow db inv.tenantId) (hkey : settings.jwtPrivateKey = "") (t : AuthDb) :
      Acceptance settings crypto now draws db userId inv (.error internalError, t)
  | newAccount (hmember : ¬ IsActiveMember db userId inv.tenantId)
      (haccount : ¬ HasAccount crypto db inv) (hkey : settings.jwtPrivateKey ≠ "") (t : AuthDb) :
      Acceptance settings crypto now draws db userId inv (.error unexpectedError, t)
  | joins (hmember : ¬ IsActiveMember db userId inv.tenantId)
      (htenant : HasTenantRow db inv.tenantId) (haccount : HasAccount crypto db inv)
      (hkey : settings.jwtPrivateKey ≠ "") (resp : AuthResponse) {t : AuthDb} {user : User}
      (huser : user.id = userId)
      (ht : t.memberships = db.memberships ++ [invitedMembership now draws user inv]) :
      Acceptance settings crypto now draws db userId inv (.ok resp, t)

section

variable {settings : Settings} {crypto : Crypto} {now : Time} {draws : Draws} {db : AuthDb}
  {request : AcceptInviteRequest} {inv : Invitation}

/-! ### One acceptance -/

lemma exec_loadInvitation_of (h : CanAccept crypto now db request inv) :
    Tx.exec (loadInvitation crypto now request.token) db = (.ok inv, db) := by
  simp only [loadInvitation, Tx.exec_get_bind, h.found, h.pending, ne_eq, not_true_eq_false,
    if_false, if_neg (not_lt.mpr h.unexpired), Tx.exec_pure]

/-- The account that joins; the memberships and the workspaces are as before, and only an account
that was there has its flag. -/
lemma exec_inviteAccount_of (h : CanAccept crypto now db request inv) :
    ∃ user flag t, Tx.exec (inviteAccount crypto draws inv request) db = (.ok (user, flag), t) ∧
      user.id = joinerId crypto draws db inv ∧ t.memberships = db.memberships ∧
      t.tenants = db.tenants ∧ (flag = none ↔ ¬ HasAccount crypto db inv) := by
  cases hfound : db.getActiveUserByEmail crypto inv.email with
  | some user =>
      have haccount : HasAccount crypto db inv := by
        rw [HasAccount, hfound]
        rfl
      refine ⟨user, some user.isPlatformAdmin, db, ?_, ?_, rfl, rfl, ?_⟩
      · simp only [inviteAccount, Tx.exec_get_bind, hfound, h.own user hfound, if_true,
          Tx.exec_pure]
      · rw [joinerId, hfound]
        rfl
      · exact iff_of_false (Option.some_ne_none _) (not_not.mpr haccount)
  | none =>
      have hnone : ¬ HasAccount crypto db inv := by
        rw [HasAccount, hfound]
        exact Bool.false_ne_true
      refine ⟨invitedUser crypto draws inv request, none,
        { db with users := db.users ++ [invitedUser crypto draws inv request] }, ?_, ?_, rfl, rfl,
        iff_of_true rfl hnone⟩
      · simp only [inviteAccount, Tx.exec_get_bind, hfound, Tx.exec_modify_bind, Tx.exec_pure]
      · rw [joinerId, hfound]
        rfl

/-- The guard asks for active rows only; of one that is there it says so. -/
lemma exec_checkNotMember (hunique : MembershipsUnique db.memberships) (user : User) :
    (IsActiveMember db user.id inv.tenantId ∧
        Tx.exec (checkNotMember user inv) db = (.error alreadyMember, db)) ∨
      (¬ IsActiveMember db user.id inv.tenantId ∧
        Tx.exec (checkNotMember user inv) db = (.ok (), db)) := by
  have hrows : (db.memberships.filter fun m =>
      m.userId = user.id ∧ m.tenantId = inv.tenantId ∧ m.status = memberStatusActive)
      = (memberRows db.memberships user.id inv.tenantId).filter
          fun m => m.status = memberStatusActive := by
    rw [memberRows, List.filter_filter]
    refine List.filter_congr fun m _ => ?_
    rw [← Bool.decide_and]
    exact decide_eq_decide.mpr (by tauto)
  have hle := @length_memberRows_le _ user.id inv.tenantId hunique
  simp only [checkNotMember, Tx.exec_get_bind, hrows, IsActiveMember]
  match hm : memberRows db.memberships user.id inv.tenantId with
  | [] => simp
  | [m] =>
      by_cases hactive : m.status = memberStatusActive
      · simp [hactive]
      · simp [hactive]
  | m :: n :: rest =>
      rw [hm] at hle
      simp at hle

lemma exec_inviteTenant (db : AuthDb) (inv : Invitation) :
    (¬ HasTenantRow db inv.tenantId ∧
        Tx.exec (inviteTenant inv) db = (.error unexpectedError, db)) ∨
      (HasTenantRow db inv.tenantId ∧
        ∃ tenant, Tx.exec (inviteTenant inv) db = (.ok tenant, db)) := by
  simp only [inviteTenant, Tx.exec_get_bind]
  cases htenant : db.tenants.find? fun t => t.id = inv.tenantId with
  | none =>
      refine Or.inl ⟨?_, rfl⟩
      rintro ⟨t, ht, hsame⟩
      have hnot := List.find?_eq_none.mp htenant t ht
      simp [hsame] at hnot
  | some tenant =>
      have hid := List.find?_some htenant
      exact Or.inr ⟨⟨tenant, List.mem_of_find?_eq_some htenant, of_decide_eq_true hid⟩, tenant, rfl⟩

/-- **What an acceptance does**, by what the database has of the account and the workspace. -/
lemma acceptance (hunique : MembershipsUnique db.memberships)
    (h : CanAccept crypto now db request inv) :
    Acceptance settings crypto now draws db (joinerId crypto draws db inv) inv
      (Tx.exec (acceptInvite settings crypto now draws request) db) := by
  obtain ⟨user, flag, u, haccount, hid, hmemberships, htenants, hflag⟩ :=
    @exec_inviteAccount_of crypto now draws db request inv h
  have hmember : IsActiveMember u user.id inv.tenantId
      ↔ IsActiveMember db (joinerId crypto draws db inv) inv.tenantId := by
    rw [IsActiveMember, IsActiveMember, hmemberships, hid]
  have hrow : HasTenantRow (addInvited now draws user inv u) inv.tenantId
      ↔ HasTenantRow db inv.tenantId := by
    rw [HasTenantRow, HasTenantRow, ← htenants]
    rfl
  rw [acceptInvite, Tx.exec_bind_ok (exec_loadInvitation_of h), h.password,
    Tx.exec_bind_ok haccount]
  dsimp only
  -- the guard sees active memberships only
  rcases @exec_checkNotMember u inv (hmemberships ▸ hunique) user with
    ⟨hactive, hcheck⟩ | ⟨hactive, hcheck⟩
  · rw [Tx.exec_bind_error hcheck]
    exact .member (hmember.mp hactive) _
  rw [Tx.exec_bind_ok hcheck, Tx.exec_modify_bind]
  have hinactive : ¬ IsActiveMember db (joinerId crypto draws db inv) inv.tenantId :=
    fun hdb => hactive (hmember.mpr hdb)
  rcases exec_inviteTenant (addInvited now draws user inv u) inv with
    ⟨hnone, htenant⟩ | ⟨hsome, tenant, htenant⟩
  · rw [Tx.exec_bind_error htenant]
    exact .noTenant hinactive (fun hdb => hnone (hrow.mpr hdb)) _
  rw [Tx.exec_bind_ok htenant]
  by_cases hkey : settings.jwtPrivateKey = ""
  · simp only [createSessionTokens, createAccessToken, hkey, if_true, Tx.exec_bind,
      Tx.exec_modify, Tx.exec_throw]
    exact .noKey hinactive (hrow.mp hsome) hkey _
  by_cases hnew : flag = none
  · simp only [createSessionTokens, createAccessToken, hkey, if_false, Tx.exec_bind,
      Tx.exec_modify, Tx.exec_pure, checkUserOut, hnew, if_true, Tx.exec_throw]
    exact .newAccount hinactive (hflag.mp hnew) hkey _
  · simp only [createSessionTokens, createAccessToken, hkey, if_false, Tx.exec_bind,
      Tx.exec_modify, Tx.exec_pure, checkUserOut, hnew, logEvent, queueEmailInOutbox]
    refine .joins hinactive (hrow.mp hsome) (not_not.mp fun h => hnew (hflag.mpr h)) hkey _ hid ?_
    rw [← hmemberships]
    rfl

/-- **One acceptance** ends cleanly exactly when the account joins cleanly: the constraint counts
a row that the guard has passed over, and a new account is refused with the answer. -/
lemma endsCleanly_iff (hunique : MembershipsUnique db.memberships)
    (h : CanAccept crypto now db request inv) :
    EndsCleanly (getDb (acceptInviteEndpoint settings crypto now draws request) db) db
        (joinerId crypto draws db inv) inv
      ↔ JoinsCleanly settings crypto db (joinerId crypto draws db inv) inv := by
  have hcases := @acceptance settings crypto now draws db request inv hunique h
  rcases hexec : Tx.exec (acceptInvite settings crypto now draws request) db with ⟨answer, t⟩
  rw [hexec] at hcases
  have hraised : ∀ e, answer = .error e →
      getDb (acceptInviteEndpoint settings crypto now draws request) db = (.error e, db) := by
    rintro e rfl
    exact Tx.commit_of_error (Tx.exec_bind_error hexec)
  cases hcases with
  | member hmember t =>
      rw [hraised _ rfl]
      exact ⟨fun _ => Or.inl hmember, fun _ => Or.inr ⟨_, rfl, by decide, rfl⟩⟩
  | noTenant hmember htenant t =>
      rw [hraised _ rfl]
      constructor
      · rintro (⟨_, _, hok, -⟩ | ⟨e, herror, hne, -⟩)
        · cases hok
        · exact absurd (Except.error.inj herror).symm hne
      · rintro (hactive | ⟨hsome, -⟩)
        · exact absurd hactive hmember
        · exact absurd hsome htenant
  | noKey hmember htenant hkey t =>
      rw [hraised _ rfl]
      exact ⟨fun _ => Or.inr ⟨htenant, Or.inr hkey⟩, fun _ => Or.inr ⟨_, rfl, by decide, rfl⟩⟩
  | newAccount hmember haccount hkey t =>
      rw [hraised _ rfl]
      constructor
      · rintro (⟨_, _, hok, -⟩ | ⟨e, herror, hne, -⟩)
        · cases hok
        · exact absurd (Except.error.inj herror).symm hne
      · rintro (hactive | ⟨-, ⟨hsome, -⟩ | hempty⟩)
        · exact absurd hactive hmember
        · exact absurd hsome haccount
        · exact absurd hempty hkey
  | @joins hmember htenant haccount hkey resp t user huser ht =>
      have hrows : memberRows t.memberships (joinerId crypto draws db inv) inv.tenantId
          = memberRows db.memberships (joinerId crypto draws db inv) inv.tenantId
            ++ [invitedMembership now draws user inv] := by
        rw [ht, memberRows, List.filter_append, List.filter_singleton, memberRows]
        simp [invitedMembership, huser]
      -- the constraint counts every row, an inactive one too
      have hunique' : MembershipsUnique t.memberships
          ↔ memberRows db.memberships (joinerId crypto draws db inv) inv.tenantId = [] := by
        rw [ht, membershipsUnique_append_iff hunique, ← huser]
        rfl
      have hendpoint : Tx.exec (acceptInviteEndpoint settings crypto now draws request) db
          = if MembershipsUnique t.memberships then (.ok resp, t)
            else (.error unexpectedError, t) := by
        rw [acceptInviteEndpoint, Tx.exec_bind_ok hexec, Tx.exec_get_bind, Tx.exec_ite]
        rfl
      by_cases hnone : memberRows db.memberships (joinerId crypto draws db inv) inv.tenantId = []
      · rw [if_pos (hunique'.mpr hnone)] at hendpoint
        rw [getDb, Tx.commit_of_ok hendpoint]
        rw [hnone, List.nil_append] at hrows
        exact ⟨fun _ => Or.inr ⟨htenant, Or.inl ⟨haccount, hnone⟩⟩,
          fun _ => Or.inl ⟨resp, _, rfl, hrows, rfl, rfl⟩⟩
      · rw [if_neg fun hu => hnone (hunique'.mp hu)] at hendpoint
        rw [getDb, Tx.commit_of_error hendpoint]
        constructor
        · rintro (⟨_, _, hok, -⟩ | ⟨e, herror, hne, -⟩)
          · cases hok
          · exact absurd (Except.error.inj herror).symm hne
        · rintro (hactive | ⟨-, ⟨-, hnil⟩ | hempty⟩)
          · exact absurd hactive hmember
          · exact absurd hnil hnone
          · exact absurd hempty hkey

end

/-! ### The system -/

/-- Any other request or job: what it commits meets the constraint, as the database has it. -/
structure OtherCommit where
  apply : World → World
  keeps : ∀ w, MembershipsUnique w.db.memberships → MembershipsUnique (apply w).db.memberships

/-- A request that writes to the memberships or invites, or another. -/
inductive MembershipRequest where
  | acceptInvite (draws : Draws) (request : AcceptInviteRequest)
  | sendInvite (token : Option Payload) (d : InviteDraws) (request : SendInviteRequest)
  | batchSendInvites (token : Option Payload) (draws : ℕ → InviteDraws)
      (request : BatchInviteRequest)
  | completeOnboarding (token : Option Payload) (draws : ℕ → InviteDraws) (tenantId : String)
      (request : CompleteOnboardingRequest)
  | patchMember (token : Option Payload) (tenantId userId : String) (body : UpdateMemberRequest)
  | deleteMember (token : Option Payload) (tenantId userId : String)
  | other (commit : OtherCommit)

/-- A request, so many microseconds after the one before. -/
structure MembershipAction where
  wait : ℕ
  request : MembershipRequest

/-- When it happens. -/
def MembershipAction.arrival (st : AuthState) (a : MembershipAction) : Time := st.clock + a.wait

section

variable (settings : Settings) (crypto : Crypto)

/-- `PATCH /tenants/{tenant_id}/members/{user_id}`. -/
def patchMemberEndpoint (tenantId userId : String) (body : UpdateMemberRequest) (user : User) :
    Request Unit := do
  let _ ← requireTenantAdmin tenantId user
  updateMember tenantId userId body user.id

/-- `DELETE /tenants/{tenant_id}/members/{user_id}`. -/
def deleteMemberEndpoint (tenantId userId : String) (user : User) : Request Unit := do
  let _ ← requireTenantAdmin tenantId user
  removeMember tenantId userId user.id

/-- A request in its transaction. -/
def changeMembership (now : Time) (w : World) : MembershipRequest → World
  | .acceptInvite draws request =>
      { w with db := (getDb (acceptInviteEndpoint settings crypto now draws request) w.db).2 }
  | .sendInvite token d request =>
      (getDbCached (withCurrentUser settings now token
        (sendInviteEndpoint crypto now d request)) w).2
  | .batchSendInvites token draws request =>
      (getDbCached (withCurrentUser settings now token
        (batchInviteEndpoint crypto now draws request)) w).2
  | .completeOnboarding token draws tenantId request =>
      (getDbCached (withCurrentUser settings now token
        (completeOnboardingEndpoint crypto now draws tenantId request)) w).2
  | .patchMember token tenantId userId body =>
      (getDbCached (withCurrentUser settings now token
        (patchMemberEndpoint tenantId userId body)) w).2
  | .deleteMember token tenantId userId =>
      (getDbCached (withCurrentUser settings now token
        (deleteMemberEndpoint tenantId userId)) w).2
  | .other commit => commit.apply w

def membershipStep (st : AuthState) (a : MembershipAction) : AuthState where
  world := changeMembership settings crypto (a.arrival st) st.world a.request
  clock := a.arrival st

/-- **The law**: an acceptance of an invitation that can be accepted ends cleanly. -/
def AcceptsCleanly (st : AuthState) (a : MembershipAction) : Prop :=
  ∀ draws request inv, a.request = .acceptInvite draws request →
    CanAccept crypto (a.arrival st) st.world.db request inv →
      EndsCleanly (getDb (acceptInviteEndpoint settings crypto (a.arrival st) draws request)
        st.world.db) st.world.db (joinerId crypto draws st.world.db inv) inv

/-- The account of such an acceptance joins cleanly: it is there, and without an old row. -/
def FindsFreshMember (st : AuthState) (a : MembershipAction) : Prop :=
  ∀ draws request inv, a.request = .acceptInvite draws request →
    CanAccept crypto (a.arrival st) st.world.db request inv →
      JoinsCleanly settings crypto st.world.db (joinerId crypto draws st.world.db inv) inv

end

section

variable {settings : Settings} {crypto : Crypto} {now : Time} {w : World}

/-- A body that leaves the memberships alone, in its transaction. -/
lemma memberships_of_credentials {α : Type} {token : Option Payload} {body : User → Request α}
    (h : ∀ user, (body user).Keeps SameCredentials) :
    (getDbCached (withCurrentUser settings now token body) w).2.db.memberships
      = w.db.memberships := by
  have hkeeps : SameCredentials w.db
      (getDbCached (withCurrentUser settings now token body) w).2.db :=
    getDbCached_keeps (withCurrentUser_keeps h) w
  exact hkeeps.memberships

/-- A body that keeps the constraint, in its transaction. -/
lemma unique_of_body {α : Type} {token : Option Payload} {body : User → Request α}
    (hunique : MembershipsUnique w.db.memberships)
    (h : ∀ user a t, Tx.exec (body user) w.db = (.ok a, t) → MembershipsUnique t.memberships) :
    MembershipsUnique
      (getDbCached (withCurrentUser settings now token body) w).2.db.memberships := by
  rcases getDbCached_snd (withCurrentUser settings now token body) w with hsame | ⟨a, hok⟩
  · rw [hsame]
    exact hunique
  · obtain ⟨user, db', -, hbody, hw⟩ := exec_withCurrentUser_ok hok
    rw [hw]
    exact h user a db' hbody

/-- The guard of the last administrator reads only. -/
lemma reads_assertNotLastAdmin (tenantId userId : String) :
    (assertNotLastAdmin tenantId userId).Keeps (· = ·) := by
  refine Tx.keeps_bind Tx.keeps_get fun db => Tx.keeps_bind (Tx.keeps_liftM _) fun found => ?_
  split
  · exact Tx.keeps_pure _
  · exact Tx.keeps_ite (Tx.keeps_pure _) (Tx.keeps_ite (Tx.keeps_throw _) (Tx.keeps_pure _))

/-- A write behind a guard that reads only. -/
lemma exec_guarded_modify {c : Prop} [Decidable c] {guard : Request Unit} {f : AuthDb → AuthDb}
    {db t : AuthDb} {r : Unit} (hguard : guard.Keeps (· = ·))
    (h : Tx.exec (if c then guard >>= fun _ => modify f else modify f) db = (.ok r, t)) :
    t = f db := by
  rw [Tx.exec_ite] at h
  split at h
  · obtain ⟨_, u, hread, hwrite⟩ := Tx.exec_bind_eq_ok.mp h
    obtain rfl := hguard _ _ _ hread
    simp only [Tx.exec_modify, Prod.mk.injEq] at hwrite
    exact hwrite.2.symm
  · simp only [Tx.exec_modify, Prod.mk.injEq] at h
    exact h.2.symm

/-- An update writes to the role and the status of one row. -/
lemma unique_patchMember {db t : AuthDb} {tenantId userId : String} {body : UpdateMemberRequest}
    {user : User} {r : Unit} (hunique : MembershipsUnique db.memberships)
    (h : Tx.exec (patchMemberEndpoint tenantId userId body user) db = (.ok r, t)) :
    MembershipsUnique t.memberships := by
  obtain ⟨_, u₁, hadmin, hupdate⟩ := Tx.exec_bind_eq_ok.mp h
  obtain ⟨rfl, -⟩ := exec_requireTenantAdmin_ok hadmin
  rw [updateMember, Tx.exec_ite] at hupdate
  split at hupdate
  · simp at hupdate
  rw [Tx.exec_get_bind] at hupdate
  obtain ⟨found, u₂, hfind, hrest⟩ := Tx.exec_bind_eq_ok.mp hupdate
  obtain rfl : u₁ = u₂ := (Prod.mk.inj ((Tx.exec_liftM _ _).symm.trans hfind)).2
  split at hrest
  · simp at hrest
  rename_i m
  have hwrite := exec_guarded_modify (reads_assertNotLastAdmin tenantId userId) hrest
  have hpairs : (updateByKey TenantMembership.id m.id (updateRow m body) u₁.memberships).map
      (fun m => (m.userId, m.tenantId)) = u₁.memberships.map fun m => (m.userId, m.tenantId) := by
    rw [updateByKey, List.map_map]
    refine List.map_congr_left fun row _ => ?_
    rw [Function.comp_apply]
    split <;> rfl
  rw [hwrite, MembershipsUnique, hpairs]
  exact hunique

/-- A removal takes rows away. -/
lemma unique_deleteMember {db t : AuthDb} {tenantId userId : String} {user : User} {r : Unit}
    (hunique : MembershipsUnique db.memberships)
    (h : Tx.exec (deleteMemberEndpoint tenantId userId user) db = (.ok r, t)) :
    MembershipsUnique t.memberships := by
  obtain ⟨_, u₁, hadmin, hremove⟩ := Tx.exec_bind_eq_ok.mp h
  obtain ⟨rfl, -⟩ := exec_requireTenantAdmin_ok hadmin
  rw [removeMember, Tx.exec_ite] at hremove
  split at hremove
  · simp at hremove
  rw [Tx.exec_get_bind] at hremove
  obtain ⟨found, u₂, hfind, hrest⟩ := Tx.exec_bind_eq_ok.mp hremove
  obtain rfl : u₁ = u₂ := (Prod.mk.inj ((Tx.exec_liftM _ _).symm.trans hfind)).2
  split at hrest
  · simp at hrest
  rename_i m
  rw [exec_guarded_modify (reads_assertNotLastAdmin tenantId userId) hrest]
  exact hunique.sublist (List.filter_sublist.map _)

/-- **Every request** keeps the constraint. -/
lemma unique_changeMembership (request : MembershipRequest)
    (hunique : MembershipsUnique w.db.memberships) :
    MembershipsUnique (changeMembership settings crypto now w request).db.memberships := by
  cases request with
  | acceptInvite draws request =>
      refine Tx.commit_induction (I := fun t : AuthDb => MembershipsUnique t.memberships) hunique ?_
      intro resp t hexec
      obtain ⟨resp', u, -, hcommit⟩ := Tx.exec_bind_eq_ok.mp hexec
      rw [Tx.exec_get_bind, Tx.exec_ite] at hcommit
      split at hcommit
      · rename_i hchecked
        simp only [Tx.exec_pure, Prod.mk.injEq] at hcommit
        exact hcommit.2 ▸ hchecked
      · simp at hcommit
  | sendInvite token d request =>
      rw [changeMembership, memberships_of_credentials (credentials_sendInviteEndpoint d request)]
      exact hunique
  | batchSendInvites token draws request =>
      rw [changeMembership,
        memberships_of_credentials (credentials_batchInviteEndpoint draws request)]
      exact hunique
  | completeOnboarding token draws tenantId request =>
      rw [changeMembership, memberships_of_credentials
        (credentials_completeOnboardingEndpoint draws tenantId request)]
      exact hunique
  | patchMember token tenantId userId body =>
      exact unique_of_body hunique fun user a t hexec => unique_patchMember hunique hexec
  | deleteMember token tenantId userId =>
      exact unique_of_body hunique fun user a t hexec => unique_deleteMember hunique hexec
  | other commit => exact commit.keeps w hunique

/-- **Accepting invitations**: in every run each acceptance of a pending invitation ends cleanly
exactly when each finds an account, and no row of it that the guard would pass over. -/
theorem accept_invite_iff {st : AuthState} (hunique : MembershipsUnique st.world.db.memberships)
    (actions : List MembershipAction) :
    EachStep (membershipStep settings crypto) (AcceptsCleanly settings crypto) st actions
      ↔ EachStep (membershipStep settings crypto) (FindsFreshMember settings crypto) st actions := by
  have hstep : ∀ (s : AuthState) (a : MembershipAction), MembershipsUnique s.world.db.memberships →
      (AcceptsCleanly settings crypto s a ↔ FindsFreshMember settings crypto s a) := by
    intro s a hs
    refine forall_congr' fun draws => forall_congr' fun request => forall_congr' fun inv =>
      forall_congr' fun _ => forall_congr' fun hcan => ?_
    exact endsCleanly_iff hs hcan
  induction actions generalizing st with
  | nil => exact Iff.rfl
  | cons a actions ih =>
      have hnext : MembershipsUnique (membershipStep settings crypto st a).world.db.memberships :=
        unique_changeMembership a.request hunique
      exact and_congr (hstep st a hunique) (ih hnext)

end

/-! ### Invited back -/

/-- Ann invites Bob, he accepts, she disables him and invites him again, and he accepts. -/
def invitedBack : List MembershipAction :=
  [⟨0, .sendInvite annToken ⟨"i1", "one"⟩ ⟨"bob@bank.test", "analyst", "t1"⟩⟩,
    ⟨0, .acceptInvite ⟨"f1", "r1", "raw1", "s1", "j2", "", "m2"⟩ ⟨"one", "Bob", "bobs pass 1"⟩⟩,
    ⟨0, .patchMember annToken "t1" "u2" { status := some disabled }⟩,
    ⟨0, .sendInvite annToken ⟨"i2", "two"⟩ ⟨"bob@bank.test", "analyst", "t1"⟩⟩,
    ⟨0, .acceptInvite ⟨"f2", "r2", "raw2", "s2", "j3", "", "m3"⟩ ⟨"two", "Bob", "bobs pass 1"⟩⟩]

theorem accept_invite_iff_sample :
    EachStep (membershipStep keySettings plainCrypto) (AcceptsCleanly keySettings plainCrypto)
        ⟨{ db := bankAndBobDb }, 0⟩ invitedBack
      ↔ EachStep (membershipStep keySettings plainCrypto) (FindsFreshMember keySettings plainCrypto)
        ⟨{ db := bankAndBobDb }, 0⟩ invitedBack :=
  accept_invite_iff (by decide) invitedBack

/-- **The second invitation cannot be accepted**: the disabled row violates the constraint. -/
theorem accept_invite_fails :
    ¬ ∀ actions : List MembershipAction,
      EachStep (membershipStep keySettings plainCrypto) (AcceptsCleanly keySettings plainCrypto)
        ⟨{ db := bankAndBobDb }, 0⟩ actions := by
  intro h
  obtain ⟨-, -, -, -, hlast, -⟩ := h invitedBack
  have hcan : CanAccept plainCrypto 0
      (run (membershipStep keySettings plainCrypto) ⟨{ db := bankAndBobDb }, 0⟩
        (invitedBack.take 4)).world.db ⟨"two", "Bob", "bobs pass 1"⟩
      { id := "i2", email := "bob@bank.test", tenantId := "t1", invitedByUserId := "u1"
        role := "analyst", tokenHash := "sha256:two", expiresAt := days 7 } := by
    refine ⟨?_, rfl, ?_, rfl, ?_⟩
    · decide
    · decide
    · decide
  have hjoins := (endsCleanly_iff (by decide) hcan).mp (hlast _ _ _ rfl hcan)
  exact absurd hjoins (by decide)

end EclServer.Tenants
