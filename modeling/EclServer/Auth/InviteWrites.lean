import EclServer.Auth.Services

/-!
What the requests write to the invitations and the outbox.

* `exec_requireTenantAdmin`, `exec_checkNoPending_ok`, `exec_checkInvitees_ok`: the guards read
  only, and what they let through.
* `AddsInvitations`: invitations are added, each with its mail.
* `exec_sendInvite_ok`, `exec_batchSendInvites_ok`, `exec_completeOnboarding_ok`,
  `exec_acceptInvite_ok`, `exec_cancelInvite_ok`, `exec_resendInvite_ok`: one lemma for each service.
-/

namespace EclServer.Auth

open EclServer.Library

section

variable {settings : Settings} {crypto : Crypto} {now : Time} {db t : AuthDb} {user : User}
  {email tenantId detail : String}

/-! ### Guards -/

/-- A request of a signed-in user whose body returns. -/
lemma getDbCached_withCurrentUser {α : Type} {token : Option Payload} {body : User → Request α}
    {w : World} {a : α} (huser : getCurrentUser settings now w token = .ok user)
    (hbody : Tx.exec (body user) w.db = (.ok a, t)) :
    (getDbCached (withCurrentUser settings now token body) w).2.db = t := by
  have hexec : Tx.exec (withCurrentUser settings now token body) w = (.ok a, { w with db := t }) := by
    rw [withCurrentUser, Tx.exec_get_bind]
    refine Tx.exec_bind_eq_ok.mpr ⟨user, w, by rw [Tx.exec_liftM, huser], ?_⟩
    exact exec_onDb_ok.mpr ⟨t, hbody, rfl⟩
  rw [getDbCached, Tx.commitWith_of_ok hexec]

/-- The guard of the endpoints lets the user through. -/
def IsTenantAdmin (db : AuthDb) (tenantId : String) (user : User) : Prop :=
  ∃ m, (Tx.exec (requireTenantAdmin tenantId user) db).1 = .ok m

lemma exec_requireTenantAdmin_ok {m : TenantMembership}
    (h : Tx.exec (requireTenantAdmin tenantId user) db = (.ok m, t)) :
    t = db ∧ IsTenantAdmin db tenantId user := by
  refine ⟨?_, m, congrArg Prod.fst h⟩
  obtain ⟨m', u, hmember, hrole⟩ := Tx.exec_bind_eq_ok.mp h
  have hfirst : u = db := by
    rw [requireTenantMember, Tx.exec_get_bind] at hmember
    split at hmember
    · rw [Tx.exec_ite] at hmember
      split at hmember
      · simp only [Tx.exec_pure, Prod.mk.injEq] at hmember
        exact hmember.2.symm
      · simp at hmember
    · simp only [Tx.exec_pure, Prod.mk.injEq] at hmember
      exact hmember.2.symm
    · simp at hmember
  rw [Tx.exec_ite] at hrole
  split at hrole
  · simp at hrole
  · simp only [Tx.exec_pure, Prod.mk.injEq] at hrole
    rw [← hrole.2, hfirst]

lemma exec_checkNoPending_ok {r : Unit}
    (h : Tx.exec (checkNoPending email tenantId detail) db = (.ok r, t)) :
    t = db ∧ db.pendingInvitations email tenantId = [] := by
  rw [checkNoPending, Tx.exec_get_bind] at h
  split at h
  · rename_i hnone
    simp only [Tx.exec_pure, Prod.mk.injEq] at h
    exact ⟨h.2.symm, hnone⟩
  · simp at h
  · simp at h

lemma exec_checkNotYetMember_ok {r : Unit}
    (h : Tx.exec (checkNotYetMember crypto email tenantId detail) db = (.ok r, t)) : t = db := by
  rw [checkNotYetMember, Tx.exec_get_bind] at h
  split at h
  · simp only [Tx.exec_pure, Prod.mk.injEq] at h
    exact h.2.symm
  · split at h
    · simp only [Tx.exec_pure, Prod.mk.injEq] at h
      exact h.2.symm
    · simp at h
    · simp at h

/-- No address that the batch lets through has a pending invitation. -/
lemma exec_checkInvitees_ok {items : List BatchInviteItem} {r : Unit}
    (h : Tx.exec (checkInvitees crypto tenantId items) db = (.ok r, t)) :
    t = db ∧ ∀ item ∈ items, db.pendingInvitations item.email tenantId = [] := by
  induction items with
  | nil =>
      simp only [checkInvitees, Tx.exec_pure, Prod.mk.injEq] at h
      exact ⟨h.2.symm, by simp⟩
  | cons item items ih =>
      obtain ⟨_, u₁, hpending, hrest⟩ := Tx.exec_bind_eq_ok.mp h
      obtain ⟨rfl, hnone⟩ := exec_checkNoPending_ok hpending
      obtain ⟨_, u₂, hmember, hitems⟩ := Tx.exec_bind_eq_ok.mp hrest
      obtain rfl := exec_checkNotYetMember_ok hmember
      obtain ⟨hsame, hall⟩ := ih hitems
      exact ⟨hsame, List.forall_mem_cons.mpr ⟨hnone, hall⟩⟩

lemma exec_loadInvite_ok {inviteId : String} {inv : Invitation}
    (h : Tx.exec (loadInvite inviteId) db = (.ok inv, t)) :
    t = db ∧ db.invitations.find? (fun i => i.id = inviteId) = some inv := by
  rw [loadInvite, Tx.exec_get_bind] at h
  split at h
  · simp at h
  · rename_i found hfound
    simp only [Tx.exec_pure, Prod.mk.injEq, Except.ok.injEq] at h
    exact ⟨h.2.symm, h.1 ▸ hfound⟩

lemma exec_loadTenant_ok {tenant : Tenant}
    (h : Tx.exec (loadTenant tenantId) db = (.ok tenant, t)) :
    t = db ∧ db.tenants.find? (fun t => t.id = tenantId ∧ t.deletedAt = none) = some tenant := by
  rw [loadTenant, Tx.exec_get_bind] at h
  split at h
  · simp at h
  · rename_i found hfound
    simp only [Tx.exec_pure, Prod.mk.injEq, Except.ok.injEq] at h
    exact ⟨h.2.symm, h.1 ▸ hfound⟩

/-! ### Invitations are added -/

/-- The rows are added, the database keeps its keys, and each raw token is in the outbox. -/
structure AddsInvitations (crypto : Crypto) (created : List (Invitation × String))
    (db t : AuthDb) : Prop where
  invitations : t.invitations = db.invitations ++ created.map (·.1)
  keys : InvitationKeys t.invitations
  hashed : ∀ c ∈ created, c.1.tokenHash = crypto.hashToken c.2
  outbox : db.emailOutbox ⊆ t.emailOutbox
  mails : created.map inviteMail ⊆ t.emailOutbox

lemma exec_writeInvitations_ok {rows : List Invitation} {r : Unit}
    (h : Tx.exec (writeInvitations rows) db = (.ok r, t)) :
    t = { db with invitations := rows } ∧ InvitationKeys rows := by
  rw [writeInvitations, Tx.exec_ite] at h
  split at h
  · rename_i hkeys
    simp only [Tx.exec_modify, Prod.mk.injEq] at h
    exact ⟨h.2.symm, hkeys⟩
  · simp at h

lemma exec_addInvitations_ok {created : List (Invitation × String)} {r : Unit}
    (h : Tx.exec (addInvitations created) db = (.ok r, t)) :
    t = { db with invitations := db.invitations ++ created.map (·.1) } ∧
      InvitationKeys (db.invitations ++ created.map (·.1)) := by
  rw [addInvitations, Tx.exec_get_bind] at h
  exact exec_writeInvitations_ok h

lemma exec_addInvitations_of {created : List (Invitation × String)}
    (h : InvitationKeys (db.invitations ++ created.map (·.1))) :
    Tx.exec (addInvitations created) db
      = (.ok (), { db with invitations := db.invitations ++ created.map (·.1) }) := by
  rw [addInvitations, Tx.exec_get_bind, writeInvitations, if_pos h, Tx.exec_modify]

lemma hashed_createdInvitations {draws : ℕ → InviteDraws} {items : List BatchInviteItem}
    {inviterId : String} :
    ∀ c ∈ createdInvitations crypto now draws items tenantId inviterId,
      c.1.tokenHash = crypto.hashToken c.2 := by
  intro c hc
  obtain ⟨i, hi, rfl⟩ := List.mem_mapIdx.mp hc
  rfl

/-- The addresses of the new invitations are those of the items, and all are to the tenant. -/
lemma emails_createdInvitations {draws : ℕ → InviteDraws} {items : List BatchInviteItem}
    {inviterId : String} :
    (createdInvitations crypto now draws items tenantId inviterId).map (·.1.email)
      = items.map (·.email) := by
  refine List.ext_getElem (by simp [createdInvitations]) fun i h₁ h₂ => ?_
  simp [createdInvitations, newInvitation]

lemma exec_sendInvite_ok {d : InviteDraws} {request : SendInviteRequest} {inv : Invitation}
    (h : Tx.exec (sendInviteEndpoint crypto now d request user) db = (.ok inv, t)) :
    db.pendingInvitations request.email request.tenantId = [] ∧
      AddsInvitations crypto [(newInvitation crypto now d request.email request.role
        request.tenantId user.id, d.rawToken)] db t := by
  obtain ⟨m, u₁, hadmin, hsend⟩ := Tx.exec_bind_eq_ok.mp h
  obtain ⟨rfl, -⟩ := exec_requireTenantAdmin_ok hadmin
  rw [sendInvite, Tx.exec_ite] at hsend
  split at hsend
  case isFalse => simp at hsend
  obtain ⟨_, u₂, hpending, hrest⟩ := Tx.exec_bind_eq_ok.mp hsend
  obtain ⟨rfl, hnone⟩ := exec_checkNoPending_ok hpending
  obtain ⟨_, u₃, hmember, hrole⟩ := Tx.exec_bind_eq_ok.mp hrest
  obtain rfl := exec_checkNotYetMember_ok hmember
  rw [Tx.exec_ite] at hrole
  split at hrole
  case isFalse => simp at hrole
  obtain ⟨_, u₄, hadd, hmail⟩ := Tx.exec_bind_eq_ok.mp hrole
  obtain ⟨rfl, hkeys⟩ := exec_addInvitations_ok hadd
  simp only [logEvent, queueInviteMails, Tx.exec_modify_bind, Tx.exec_pure,
    Prod.mk.injEq] at hmail
  refine ⟨hnone, ?_⟩
  rw [← hmail.2]
  exact ⟨rfl, hkeys, by simp [newInvitation], List.subset_append_left _ _,
    List.subset_append_right _ _⟩

lemma exec_batchSendInvites_ok {draws : ℕ → InviteDraws} {request : BatchInviteRequest}
    {out : List BatchInviteOut}
    (h : Tx.exec (batchInviteEndpoint crypto now draws request user) db = (.ok out, t)) :
    (request.invites.map (·.email)).Nodup ∧
      (∀ item ∈ request.invites, db.pendingInvitations item.email request.tenantId = []) ∧
      AddsInvitations crypto
        (createdInvitations crypto now draws request.invites request.tenantId user.id) db t := by
  obtain ⟨m, u₁, hadmin, hsend⟩ := Tx.exec_bind_eq_ok.mp h
  obtain ⟨rfl, -⟩ := exec_requireTenantAdmin_ok hadmin
  rw [batchSendInvites, Tx.exec_ite, Tx.exec_ite] at hsend
  split at hsend
  case isFalse => simp at hsend
  split at hsend
  case isFalse => simp at hsend
  rename_i hnodup
  split at hsend
  · simp at hsend
  obtain ⟨_, u₂, hcheck, hrest⟩ := Tx.exec_bind_eq_ok.mp hsend
  obtain ⟨rfl, hnone⟩ := exec_checkInvitees_ok hcheck
  obtain ⟨_, u₃, hadd, hmail⟩ := Tx.exec_bind_eq_ok.mp hrest
  obtain ⟨rfl, hkeys⟩ := exec_addInvitations_ok hadd
  simp only [logEvent, queueInviteMails, Tx.exec_modify_bind, Tx.exec_pure,
    Prod.mk.injEq] at hmail
  refine ⟨hnodup, hnone, ?_⟩
  rw [← hmail.2]
  exact ⟨rfl, hkeys, hashed_createdInvitations, List.subset_append_left _ _,
    List.subset_append_right _ _⟩

/-- The items of an onboarding, each with its role as the database has it. -/
def onboardingItems (crypto : Crypto) (request : CompleteOnboardingRequest) :
    List BatchInviteItem :=
  request.invites.map fun item => { item with role := normalisedRole crypto item.role }

lemma exec_onboardingInvites_ok {draws : ℕ → InviteDraws} {request : CompleteOnboardingRequest}
    {r : Unit}
    (h : Tx.exec (onboardingInvites crypto now draws tenantId user request) db = (.ok r, t)) :
    t = db ∨ (∀ item ∈ request.invites, normalisedRole crypto item.role ∈ userRoles) ∧
      AddsInvitations crypto (createdInvitations crypto now draws
        (onboardingItems crypto request) tenantId user.id) db t := by
  rw [onboardingInvites, Tx.exec_ite] at h
  split at h
  · simp only [Tx.exec_pure, Prod.mk.injEq] at h
    exact Or.inl h.2.symm
  split at h
  · simp at h
  rename_i hroles
  obtain ⟨_, u₁, hadd, hmail⟩ := Tx.exec_bind_eq_ok.mp h
  obtain ⟨rfl, hkeys⟩ := exec_addInvitations_ok hadd
  simp only [logEvent, queueInviteMails, Tx.exec_modify_bind, Tx.exec_modify,
    Prod.mk.injEq] at hmail
  refine Or.inr ⟨fun item hitem => ?_, ?_⟩
  · simpa using List.find?_eq_none.mp hroles item hitem
  · rw [← hmail.2]
    exact ⟨rfl, hkeys, hashed_createdInvitations, List.subset_append_left _ _,
      List.subset_append_right _ _⟩

/-- The tenant of an onboarding that is not complete yet. -/
def AwaitsOnboarding (db : AuthDb) (tenantId : String) : Prop :=
  ∃ tenant, db.tenants.find? (fun t => t.id = tenantId ∧ t.deletedAt = none) = some tenant ∧
    tenant.onboardingCompletedAt = none

/-- An onboarding leaves the invitations alone, or it is the first and adds its own. -/
lemma exec_completeOnboarding_ok {draws : ℕ → InviteDraws} {request : CompleteOnboardingRequest}
    {r : Unit}
    (h : Tx.exec (completeOnboardingEndpoint crypto now draws tenantId request user) db
      = (.ok r, t)) :
    (t.invitations = db.invitations ∧ db.emailOutbox ⊆ t.emailOutbox) ∨
      IsTenantAdmin db tenantId user ∧ AwaitsOnboarding db tenantId ∧
        (∀ item ∈ request.invites, normalisedRole crypto item.role ∈ userRoles) ∧
        AddsInvitations crypto (createdInvitations crypto now draws
          (onboardingItems crypto request) tenantId user.id) db t := by
  obtain ⟨m, u₁, hguard, hcomplete⟩ := Tx.exec_bind_eq_ok.mp h
  obtain ⟨rfl, hadmin⟩ := exec_requireTenantAdmin_ok hguard
  obtain ⟨tenant, u₂, hload, hrest⟩ := Tx.exec_bind_eq_ok.mp hcomplete
  obtain ⟨rfl, htenant⟩ := exec_loadTenant_ok hload
  rw [Tx.exec_ite] at hrest
  split at hrest
  · simp only [Tx.exec_pure, Prod.mk.injEq] at hrest
    rw [← hrest.2]
    exact Or.inl ⟨rfl, List.Subset.refl _⟩
  rename_i hfirst
  rw [Tx.exec_modify_bind] at hrest
  obtain ⟨_, u₃, hinvites, hlast⟩ := Tx.exec_bind_eq_ok.mp hrest
  simp only [logEvent, queueEmailInOutbox, Tx.exec_modify_bind, Tx.exec_modify,
    Prod.mk.injEq] at hlast
  rw [← hlast.2]
  rcases exec_onboardingInvites_ok hinvites with rfl | ⟨hroles, hadds⟩
  · exact Or.inl ⟨rfl, List.subset_append_left _ _⟩
  · refine Or.inr ⟨hadmin, ⟨tenant, htenant, not_not.mp hfirst⟩, hroles, ?_⟩
    exact ⟨hadds.invitations, hadds.keys, hadds.hashed,
      List.subset_append_of_subset_left _ hadds.outbox,
      List.subset_append_of_subset_left _ hadds.mails⟩

/-- The onboarding of a user goes through and invites. -/
structure Onboards (crypto : Crypto) (now : Time) (draws : ℕ → InviteDraws) (tenantId : String)
    (request : CompleteOnboardingRequest) (db : AuthDb) (user : User) : Prop where
  admin : IsTenantAdmin db tenantId user
  awaits : AwaitsOnboarding db tenantId
  roles : ∀ item ∈ request.invites, normalisedRole crypto item.role ∈ userRoles
  keys : InvitationKeys (db.invitations ++ (createdInvitations crypto now draws
    (onboardingItems crypto request) tenantId user.id).map (·.1))

lemma exec_requireTenantAdmin_of (h : IsTenantAdmin db tenantId user) :
    ∃ m, Tx.exec (requireTenantAdmin tenantId user) db = (.ok m, db) := by
  obtain ⟨m, hm⟩ := h
  refine ⟨m, Prod.ext hm ?_⟩
  exact (exec_requireTenantAdmin_ok (Prod.ext hm rfl)).1

/-- What such an onboarding adds. -/
lemma exec_completeOnboarding_of {draws : ℕ → InviteDraws} {request : CompleteOnboardingRequest}
    (h : Onboards crypto now draws tenantId request db user) :
    ∃ t, Tx.exec (completeOnboardingEndpoint crypto now draws tenantId request user) db = (.ok (), t) ∧
      t.invitations = db.invitations ++ (createdInvitations crypto now draws
        (onboardingItems crypto request) tenantId user.id).map (·.1) := by
  obtain ⟨m, hguard⟩ := exec_requireTenantAdmin_of h.admin
  obtain ⟨tenant, htenant, hfirst⟩ := h.awaits
  have hload : Tx.exec (loadTenant tenantId) db = (.ok tenant, db) := by
    rw [loadTenant, Tx.exec_get_bind, htenant]
    rfl
  rw [completeOnboardingEndpoint, Tx.exec_bind_ok hguard, completeOnboarding, Tx.exec_bind_ok hload,
    Tx.exec_ite, if_neg (not_not.mpr hfirst), Tx.exec_modify_bind]
  have hinvites : ∃ u, Tx.exec (onboardingInvites crypto now draws tenantId user request)
      (db.updateTenant tenantId (withProfile request.profile)) = (.ok (), u) ∧
      u.invitations = db.invitations ++ (createdInvitations crypto now draws
        (onboardingItems crypto request) tenantId user.id).map (·.1) := by
    rw [onboardingInvites, Tx.exec_ite]
    by_cases hnone : request.invites = []
    · rw [if_pos hnone]
      refine ⟨_, rfl, ?_⟩
      simp [onboardingItems, createdInvitations, hnone, AuthDb.updateTenant]
    · have hroles : (request.invites.find? fun item =>
          normalisedRole crypto item.role ∉ userRoles) = none := by
        refine List.find?_eq_none.mpr fun item hitem => ?_
        simpa using h.roles item hitem
      rw [if_neg hnone, hroles]
      have hadd := @exec_addInvitations_of
        (db.updateTenant tenantId (withProfile request.profile)) _ h.keys
      exact ⟨_, Tx.exec_bind_ok hadd, rfl⟩
  obtain ⟨u, hexec, hu⟩ := hinvites
  rw [Tx.exec_bind_ok hexec]
  exact ⟨_, rfl, hu⟩

/-! ### Invitations are changed -/

/-- A cancelled invitation. -/
def cancelled (inv : Invitation) : Invitation := { inv with status := .cancelled }

lemma exec_cancelInvite_ok {inviteId : String} {r : Unit}
    (h : Tx.exec (cancelInvite inviteId user) db = (.ok r, t)) :
    ∃ inv, db.invitations.find? (fun i => i.id = inviteId) = some inv ∧
      IsTenantAdmin db inv.tenantId user ∧ t.emailOutbox = db.emailOutbox ∧
      t.invitations = updateByKey Invitation.id inv.id cancelled db.invitations := by
  obtain ⟨inv, u₁, hload, hrest⟩ := Tx.exec_bind_eq_ok.mp h
  obtain ⟨rfl, hfound⟩ := exec_loadInvite_ok hload
  obtain ⟨m, u₂, hguard, hwrite⟩ := Tx.exec_bind_eq_ok.mp hrest
  obtain ⟨rfl, hadmin⟩ := exec_requireTenantAdmin_ok hguard
  simp only [Tx.exec_modify, Prod.mk.injEq] at hwrite
  rw [← hwrite.2]
  exact ⟨inv, hfound, hadmin, rfl, rfl⟩

/-- The invitation that is accepted is the pending one of the token, and has not expired. -/
lemma exec_loadInvitation_ok {token : String} {inv : Invitation}
    (h : Tx.exec (loadInvitation crypto now token) db = (.ok inv, t)) :
    t = db ∧ db.invitations.find? (fun i => i.tokenHash = crypto.hashToken token) = some inv ∧
      inv.status = .pending ∧ now ≤ inv.expiresAt := by
  rw [loadInvitation, Tx.exec_get_bind] at h
  split at h
  · simp at h
  rename_i found hfound
  rw [Tx.exec_ite, Tx.exec_ite] at h
  split at h
  · simp at h
  rename_i hpending
  split at h
  · simp at h
  rename_i hexpired
  simp only [Tx.exec_pure, Prod.mk.injEq, Except.ok.injEq] at h
  obtain ⟨rfl, rfl⟩ := h
  exact ⟨rfl, hfound, not_not.mp hpending, not_lt.mp hexpired⟩

/-- An acceptance accepts one pending invitation, and leaves the reset tokens alone. -/
lemma exec_acceptInvite_ok {draws : Draws} {request : AcceptInviteRequest} {resp : AuthResponse}
    (h : Tx.exec (acceptInvite settings crypto now draws request) db = (.ok resp, t)) :
    ∃ inv ∈ db.invitations, inv.status = .pending ∧
      t.invitations = updateByKey Invitation.id inv.id
        (fun i => { i with status := .accepted, acceptedAt := some now }) db.invitations ∧
      t.passwordResetTokens = db.passwordResetTokens ∧ db.emailOutbox ⊆ t.emailOutbox := by
  obtain ⟨inv, u₁, hinv, hrest⟩ := Tx.exec_bind_eq_ok.mp h
  obtain ⟨rfl, hfound, hpending, -⟩ := exec_loadInvitation_ok hinv
  have hmem := List.mem_of_find?_eq_some hfound
  split at hrest
  · simp at hrest
  obtain ⟨⟨user, isPlatformAdmin⟩, u₂, huser, hrest⟩ := Tx.exec_bind_eq_ok.mp hrest
  -- the other parts of the request touch neither invitations nor reset tokens
  have haccount : (inviteAccount crypto draws inv request).Keeps SameLinks := by
    refine Tx.keeps_bind Tx.keeps_get fun db => ?_
    split
    · exact Tx.keeps_ite (Tx.keeps_pure _) (Tx.keeps_throw _)
    · exact Tx.keeps_bind (Tx.keeps_modify fun s => ⟨rfl, rfl, List.Subset.refl _⟩)
        fun _ => Tx.keeps_pure _
  obtain ⟨_, u₃, hmember, hrest⟩ := Tx.exec_bind_eq_ok.mp hrest
  have hcheck : (checkNotMember user inv).Keeps SameLinks := by
    refine Tx.keeps_bind Tx.keeps_get fun db => ?_
    split
    · exact Tx.keeps_pure _
    · exact Tx.keeps_throw _
    · exact Tx.keeps_throw _
  rw [Tx.exec_modify_bind] at hrest
  have hread : SameLinks u₁ u₃ := (haccount _ _ _ huser).trans (hcheck _ _ _ hmember)
  have hopen : (do
      let tenant ← inviteTenant inv
      let resp ← createSessionTokens settings crypto now draws user
        (invitedMembership now draws user inv) tenant true
      checkUserOut isPlatformAdmin
      logEvent { eventType := "invite.accepted", userId := some user.id }
      queueEmailInOutbox "send_welcome_to_tenant_email"
        [("user_id", user.id), ("tenant_id", inv.tenantId)]
      return ({ resp with message := "Invite accepted" } : AuthResponse) :
        Request AuthResponse).Keeps SameLinks := by
    refine Tx.keeps_bind (Tx.keeps_bind Tx.keeps_get fun db => ?_) fun tenant => ?_
    · split
      · exact Tx.keeps_throw _
      · exact Tx.keeps_pure _
    · refine Tx.keeps_bind (links_createSessionTokens _ _ _ _) fun _ => ?_
      refine Tx.keeps_bind (keeps_checkUserOut _) fun _ => ?_
      exact Tx.keeps_bind (links_logEvent _) fun _ =>
        Tx.keeps_bind (links_queueEmailInOutbox _ _) fun _ => Tx.keeps_pure _
  have hlast : SameLinks (addInvited now draws user inv u₃) t := hopen _ _ _ hrest
  refine ⟨inv, hmem, hpending, ?_, ?_, ?_⟩
  · rw [hlast.invitations, ← hread.invitations]
    rfl
  · rw [hlast.resetTokens, ← hread.resetTokens]
    rfl
  · exact List.Subset.trans hread.outbox hlast.outbox

/-- What a cancellation that the guard lets through writes. -/
lemma exec_cancelInvite_of {inviteId : String} {inv : Invitation}
    (hfound : db.invitations.find? (fun i => i.id = inviteId) = some inv)
    (hadmin : IsTenantAdmin db inv.tenantId user) :
    ∃ t, Tx.exec (cancelInvite inviteId user) db = (.ok (), t) ∧
      t.invitations = updateByKey Invitation.id inv.id cancelled db.invitations := by
  obtain ⟨m, hguard⟩ := exec_requireTenantAdmin_of hadmin
  have hload : Tx.exec (loadInvite inviteId) db = (.ok inv, db) := by
    rw [loadInvite, Tx.exec_get_bind, hfound]
    rfl
  rw [cancelInvite, Tx.exec_bind_ok hload, Tx.exec_bind_ok hguard]
  exact ⟨_, rfl, rfl⟩

lemma exec_resendInvite_ok {raw inviteId : String} {r : Unit}
    (h : Tx.exec (resendInvite crypto now raw inviteId user) db = (.ok r, t)) :
    ∃ inv, db.invitations.find? (fun i => i.id = inviteId) = some inv ∧
      IsTenantAdmin db inv.tenantId user ∧ t.emailOutbox = db.emailOutbox ∧
      t.invitations = updateByKey Invitation.id inv.id (renewed crypto now raw) db.invitations ∧
      InvitationKeys t.invitations := by
  obtain ⟨inv, u₁, hload, hrest⟩ := Tx.exec_bind_eq_ok.mp h
  obtain ⟨rfl, hfound⟩ := exec_loadInvite_ok hload
  obtain ⟨m, u₂, hguard, hwrite⟩ := Tx.exec_bind_eq_ok.mp hrest
  obtain ⟨rfl, hadmin⟩ := exec_requireTenantAdmin_ok hguard
  rw [Tx.exec_get_bind] at hwrite
  obtain ⟨rfl, hkeys⟩ := exec_writeInvitations_ok hwrite
  exact ⟨inv, hfound, hadmin, rfl, rfl, hkeys⟩

end

end EclServer.Auth
