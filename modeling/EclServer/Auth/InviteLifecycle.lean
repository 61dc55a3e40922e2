import EclServer.Auth.PasswordReset

/-!
The life cycle of an invitation over any requests and clean-up jobs.

* `OnePending`: at most one invitation of an address to a tenant is pending. `StatusFinal`: a
  status other than pending does not change.
* `InviteWrite`: what a request writes to the invitations, where it keeps both; `InviteWrite.keeps`.
* `KeepsLifecycle`: the requests after which both still hold. An onboarding does not look for
  invitations that are pending already, and a cancellation does not look at the status.
* `invite_lifecycle_iff`: over every run, both hold throughout exactly when every step is one of
  those.
-/

namespace EclServer.Auth

open EclServer.Library

/-- **At most one** invitation of an address to a tenant is pending. -/
def OnePending (db : AuthDb) : Prop :=
  ∀ email tenantId, (db.pendingInvitations email tenantId).length ≤ 1

/-- **A final status stays.** -/
def StatusFinal (db t : AuthDb) : Prop :=
  ∀ i ∈ db.invitations, i.status ≠ .pending → ∃ j ∈ t.invitations, j.id = i.id ∧ j.status = i.status

/-- What a request writes to the invitations, where it keeps the life cycle. -/
inductive InviteWrite (db t : AuthDb) : Prop
  | adds {new : List Invitation} {tenantId : String} (h : t.invitations = db.invitations ++ new)
      (hkeys : InvitationKeys t.invitations) (htenant : ∀ inv ∈ new, inv.tenantId = tenantId)
      (hemails : (new.map (·.email)).Nodup)
      (hfree : ∀ inv ∈ new, db.pendingInvitations inv.email tenantId = [])
  | changes {f : Invitation → Invitation} (h : t.invitations = db.invitations.map f)
      (hkeys : InvitationKeys t.invitations)
      (hsame : ∀ i, (f i).id = i.id ∧ (f i).email = i.email ∧ (f i).tenantId = i.tenantId)
      (hfinal : ∀ i ∈ db.invitations, i.status ≠ .pending → (f i).status = i.status)

section

variable {settings : Settings} {crypto : Crypto} {now : Time} {db t : AuthDb}

lemma InviteWrite.of_same (hkeys : InvitationKeys db.invitations)
    (h : t.invitations = db.invitations) : InviteWrite db t :=
  .changes (f := id) (by rw [h, List.map_id]) (h ▸ hkeys) (fun _ => ⟨rfl, rfl, rfl⟩) fun _ _ _ => rfl

lemma pendingInvitations_append {new : List Invitation}
    (h : t.invitations = db.invitations ++ new) (email tenantId : String) :
    t.pendingInvitations email tenantId = db.pendingInvitations email tenantId
      ++ new.filter fun inv => inv.email = email ∧ inv.tenantId = tenantId ∧
        inv.status = .pending := by
  rw [AuthDb.pendingInvitations, h, List.filter_append]
  rfl

/-- **Such a write** keeps the life cycle. -/
lemma InviteWrite.keeps (h : InviteWrite db t) (hone : OnePending db) :
    OnePending t ∧ StatusFinal db t := by
  cases h with
  | @adds new tenantId h hkeys htenant hemails hfree =>
      constructor
      · intro email tenantId'
        rw [pendingInvitations_append h, List.length_append]
        have hnew : (new.filter fun inv => inv.email = email ∧ inv.tenantId = tenantId' ∧
            inv.status = .pending).length ≤ 1 := by
          refine length_filter_le_one_of_key Invitation.email hemails fun a b ha hb => ?_
          rw [(of_decide_eq_true ha).1, (of_decide_eq_true hb).1]
        by_cases hnone : new.filter (fun inv => inv.email = email ∧ inv.tenantId = tenantId' ∧
            inv.status = .pending) = []
        · rw [hnone]
          exact hone email tenantId'
        · -- a new invitation of the address was free to add
          obtain ⟨inv, hinv⟩ := List.exists_mem_of_ne_nil _ hnone
          obtain ⟨hmem, hp⟩ := List.mem_filter.mp hinv
          obtain ⟨hemail, htenant', -⟩ := of_decide_eq_true hp
          have hold := hfree inv hmem
          rw [hemail, ← htenant inv hmem, htenant'] at hold
          rw [hold]
          simpa using hnew
      · intro i hi _
        exact ⟨i, h ▸ List.mem_append_left _ hi, rfl, rfl⟩
  | @changes f h hkeys hsame hfinal =>
      constructor
      · intro email tenantId
        have hle : (t.pendingInvitations email tenantId).length
            ≤ (db.pendingInvitations email tenantId).length := by
          rw [AuthDb.pendingInvitations, AuthDb.pendingInvitations, h, ← List.countP_eq_length_filter,
            ← List.countP_eq_length_filter, List.countP_map]
          refine List.countP_mono_left fun i hi hp => ?_
          obtain ⟨hemail, htenant, hpending⟩ := of_decide_eq_true hp
          obtain ⟨-, hsameEmail, hsameTenant⟩ := hsame i
          refine decide_eq_true ⟨hsameEmail ▸ hemail, hsameTenant ▸ htenant, ?_⟩
          by_contra hother
          rw [hfinal i hi hother] at hpending
          exact hother hpending
        exact hle.trans (hone email tenantId)
      · intro i hi hstatus
        exact ⟨f i, h ▸ List.mem_map_of_mem hi, (hsame i).1, hfinal i hi hstatus⟩

lemma InviteWrite.invitationKeys (h : InviteWrite db t) : InvitationKeys t.invitations := by
  cases h with
  | adds h hkeys htenant hemails hfree => exact hkeys
  | changes h hkeys hsame hfinal => exact hkeys

/-- Writes that spare the ids and the hashes keep the keys. -/
lemma InvitationKeys.map {rows : List Invitation} (h : InvitationKeys rows)
    {f : Invitation → Invitation} (hf : ∀ i, (f i).id = i.id ∧ (f i).tokenHash = i.tokenHash) :
    InvitationKeys (rows.map f) := by
  have hids : (rows.map f).map (·.id) = rows.map (·.id) := by
    rw [List.map_map]
    exact List.map_congr_left fun i _ => (hf i).1
  have hhashes : (rows.map f).map (·.tokenHash) = rows.map (·.tokenHash) := by
    rw [List.map_map]
    exact List.map_congr_left fun i _ => (hf i).2
  rw [InvitationKeys, hids, hhashes]
  exact h

/-- The row found by its id is the only one with it. -/
lemma InvitationKeys.eq_of_id {rows : List Invitation} (h : InvitationKeys rows) {i j : Invitation}
    (hi : i ∈ rows) (hj : j ∈ rows) (hid : i.id = j.id) : i = j :=
  List.inj_on_of_nodup_map h.1 hi hj hid

end

/-! ### What each request writes -/

section

variable {settings : Settings} {crypto : Crypto} {now : Time} {db t : AuthDb} {user : User}
  {tenantId : String}

/-- New invitations, each of an address of its own that was free. -/
lemma InviteWrite.of_adds {created : List (Invitation × String)}
    (h : t.invitations = db.invitations ++ created.map (·.1)) (hkeys : InvitationKeys t.invitations)
    (htenant : ∀ c ∈ created, c.1.tenantId = tenantId)
    (hemails : (created.map (·.1.email)).Nodup)
    (hfree : ∀ email ∈ created.map (·.1.email), db.pendingInvitations email tenantId = []) :
    InviteWrite db t := by
  refine .adds h hkeys (List.forall_mem_map.mpr htenant) ?_ (List.forall_mem_map.mpr ?_)
  · rw [List.map_map]
    exact hemails
  · exact fun c hc => hfree _ (List.mem_map_of_mem hc)

lemma tenant_createdInvitations {draws : ℕ → InviteDraws} {items : List BatchInviteItem}
    {inviterId : String} :
    ∀ c ∈ createdInvitations crypto now draws items tenantId inviterId,
      c.1.tenantId = tenantId ∧ c.1.status = .pending := by
  intro c hc
  obtain ⟨i, hi, rfl⟩ := List.mem_mapIdx.mp hc
  exact ⟨rfl, rfl⟩

/-- The items of a request, whose addresses are free and distinct. -/
lemma InviteWrite.of_created {draws : ℕ → InviteDraws} {items : List BatchInviteItem}
    {inviterId : String}
    (h : t.invitations = db.invitations
      ++ (createdInvitations crypto now draws items tenantId inviterId).map (·.1))
    (hkeys : InvitationKeys t.invitations) (hemails : (items.map (·.email)).Nodup)
    (hfree : ∀ email ∈ items.map (·.email), db.pendingInvitations email tenantId = []) :
    InviteWrite db t := by
  refine .of_adds h hkeys (fun c hc => (tenant_createdInvitations c hc).1) ?_ ?_
  · rw [emails_createdInvitations]
    exact hemails
  · rw [emails_createdInvitations]
    exact hfree

/-- A write to one invitation that spares its keys and leaves a final status. -/
lemma InviteWrite.of_update {inv : Invitation} {f : Invitation → Invitation}
    (h : t.invitations = updateByKey Invitation.id inv.id f db.invitations)
    (hdb : InvitationKeys db.invitations) (hkeys : InvitationKeys t.invitations)
    (hinv : inv ∈ db.invitations)
    (hsame : ∀ i, (f i).id = i.id ∧ (f i).email = i.email ∧ (f i).tenantId = i.tenantId)
    (hfinal : inv.status ≠ .pending → (f inv).status = inv.status) : InviteWrite db t := by
  refine .changes h hkeys (fun i => ?_) fun i hi hstatus => ?_
  · split
    · exact hsame i
    · exact ⟨rfl, rfl, rfl⟩
  · split
    · rename_i hid
      obtain rfl := hdb.eq_of_id hi hinv hid
      exact hfinal hstatus
    · rfl

lemma InvitationKeys.updateByKey {rows : List Invitation} (h : InvitationKeys rows) {id : String}
    {f : Invitation → Invitation} (hf : ∀ i, (f i).id = i.id ∧ (f i).tokenHash = i.tokenHash) :
    InvitationKeys (updateByKey Invitation.id id f rows) := by
  refine h.map fun i => ?_
  split
  · exact hf i
  · exact ⟨rfl, rfl⟩

/-- A request of a signed-in user that returns makes such a write. -/
lemma InviteWrite.of_currentUser {α : Type} {token : Option Payload} {body : User → Request α}
    {w : World} (hkeys : InvitationKeys w.db.invitations)
    (h : ∀ user r t, Tx.exec (body user) w.db = (.ok r, t) → InviteWrite w.db t) :
    InviteWrite w.db (getDbCached (withCurrentUser settings now token body) w).2.db := by
  rcases getDbCached_snd (withCurrentUser settings now token body) w with hsame | ⟨r, hexec⟩
  · exact .of_same hkeys (congrArg AuthDb.invitations hsame)
  · obtain ⟨user, db', -, hbody, hw⟩ := exec_withCurrentUser_ok hexec
    rw [hw]
    exact h user r db' hbody

/-- The requests that look at what is pending before they write. -/
def LooksFirst : ServiceRequest → Prop
  | .completeOnboarding _ _ _ _ => False
  | .cancelInvite _ _ => False
  | _ => True

lemma InviteWrite.of_auth {w : World} (hkeys : InvitationKeys w.db.invitations)
    {request : AuthRequest} (hother : OtherKeepsLinks request) :
    InviteWrite w.db (perform settings crypto now w request).db := by
  by_cases hwrites : WritesLinks request
  · cases request with
    | acceptInvite draws request =>
        refine Tx.commit_induction (I := InviteWrite w.db) (.of_same hkeys rfl) fun _ _ hexec => ?_
        obtain ⟨inv, hinv, hpending, hrows, -⟩ := exec_acceptInvite_ok hexec
        refine .of_update hrows hkeys ?_ hinv (fun i => ⟨rfl, rfl, rfl⟩)
          fun hfinal => absurd hpending hfinal
        rw [hrows]
        exact hkeys.updateByKey fun i => ⟨rfl, rfl⟩
    | resetPassword request =>
        refine Tx.commit_induction (I := InviteWrite w.db) (.of_same hkeys rfl) fun _ _ hexec => ?_
        obtain ⟨p, -, -, -, -, hrows, -⟩ := exec_resetPassword_ok hexec
        exact .of_same hkeys hrows
    | _ => exact hwrites.elim
  · exact .of_same hkeys (links_perform w hother hwrites).invitations

/-- **What these requests write** keeps the life cycle. -/
lemma serve_invites {w : World} (hkeys : InvitationKeys w.db.invitations) {request : ServiceRequest}
    (hlooks : LooksFirst request) :
    InviteWrite w.db (serve settings crypto now w request).db := by
  cases request with
  | auth request h => exact .of_auth hkeys h
  | forgotPassword d email =>
      refine Tx.commit_induction (I := InviteWrite w.db) (.of_same hkeys rfl) fun _ _ hexec => ?_
      rcases exec_forgotPassword_ok hexec with rfl | ⟨userId, -, -, hrows, -⟩
      · exact .of_same hkeys rfl
      · exact .of_same hkeys hrows
  | sendInvite token d request =>
      refine .of_currentUser hkeys fun user inv t hexec => ?_
      obtain ⟨hnone, hadds⟩ := exec_sendInvite_ok hexec
      exact .of_adds hadds.invitations hadds.keys (List.forall_mem_singleton.mpr rfl)
        (List.nodup_singleton _)
        (List.forall_mem_singleton.mpr hnone)
  | batchSendInvites token draws request =>
      refine .of_currentUser hkeys fun user out t hexec => ?_
      obtain ⟨hemails, hnone, hadds⟩ := exec_batchSendInvites_ok hexec
      exact .of_created hadds.invitations hadds.keys hemails (List.forall_mem_map.mpr hnone)
  | completeOnboarding token draws tenantId request => exact hlooks.elim
  | cancelInvite token inviteId => exact hlooks.elim
  | resendInvite token raw inviteId =>
      refine .of_currentUser hkeys fun user r t hexec => ?_
      obtain ⟨inv, hfound, -, -, hrows, hnew⟩ := exec_resendInvite_ok hexec
      exact .of_update hrows hkeys hnew (List.mem_of_find?_eq_some hfound)
        (fun i => ⟨rfl, rfl, rfl⟩) fun _ => rfl
  | expireInvitations =>
      refine .changes rfl (hkeys.map fun i => ?_) (fun i => ?_) fun i hi hfinal => ?_
      · split <;> exact ⟨rfl, rfl⟩
      · split <;> exact ⟨rfl, rfl, rfl⟩
      · rw [if_neg]
        simp [isOverdue, hfinal]
  | expirePasswordResetTokens => exact .of_same hkeys rfl
  | purgeRevokedRefreshTokens => exact .of_same hkeys rfl
  | pass => exact .of_same hkeys rfl

/-! ### The two that do not look -/

/-- An onboarding leaves the invitations alone, or it goes through and adds its own. -/
lemma serve_completeOnboarding (w : World) (token : Option Payload) (draws : ℕ → InviteDraws)
    (tenantId : String) (request : CompleteOnboardingRequest) :
    (serve settings crypto now w (.completeOnboarding token draws tenantId request)).db.invitations
          = w.db.invitations ∧
        (∀ user, getCurrentUser settings now w token = .ok user →
          ¬ Onboards crypto now draws tenantId request w.db user) ∨
      ∃ user, getCurrentUser settings now w token = .ok user ∧
        Onboards crypto now draws tenantId request w.db user ∧
        (serve settings crypto now w (.completeOnboarding token draws tenantId request)).db.invitations
          = w.db.invitations ++ (createdInvitations crypto now draws
            (onboardingItems crypto request) tenantId user.id).map (·.1) := by
  rw [serve]
  by_cases hok : ∃ user, getCurrentUser settings now w token = .ok user ∧
      Onboards crypto now draws tenantId request w.db user
  · obtain ⟨user, huser, honboards⟩ := hok
    obtain ⟨t, hexec, hrows⟩ := exec_completeOnboarding_of honboards
    refine Or.inr ⟨user, huser, honboards, ?_⟩
    rw [getDbCached_withCurrentUser huser hexec]
    exact hrows
  · push Not at hok
    refine Or.inl ⟨?_, hok⟩
    rcases getDbCached_snd (withCurrentUser settings now token
      (completeOnboardingEndpoint crypto now draws tenantId request)) w with hsame | ⟨r, hexec⟩
    · rw [hsame]
    · obtain ⟨user, db', huser, hbody, hw⟩ := exec_withCurrentUser_ok hexec
      rw [hw]
      rcases exec_completeOnboarding_ok hbody with ⟨hsame, -⟩ | ⟨hadmin, hawaits, hroles, hadds⟩
      · exact hsame
      · have hkeys := hadds.keys
        rw [hadds.invitations] at hkeys
        exact absurd ⟨hadmin, hawaits, hroles, hkeys⟩ (hok user huser)

/-- A cancellation leaves the invitations alone, or it finds one that its user may cancel. -/
lemma serve_cancelInvite (w : World) (token : Option Payload) (inviteId : String) :
    (serve settings crypto now w (.cancelInvite token inviteId)).db.invitations
          = w.db.invitations ∧
        (∀ user inv, getCurrentUser settings now w token = .ok user →
          w.db.invitations.find? (fun i => i.id = inviteId) = some inv →
          ¬ IsTenantAdmin w.db inv.tenantId user) ∨
      ∃ user inv, getCurrentUser settings now w token = .ok user ∧
        w.db.invitations.find? (fun i => i.id = inviteId) = some inv ∧
        IsTenantAdmin w.db inv.tenantId user ∧
        (serve settings crypto now w (.cancelInvite token inviteId)).db.invitations
          = updateByKey Invitation.id inv.id cancelled w.db.invitations := by
  rw [serve]
  by_cases hok : ∃ user inv, getCurrentUser settings now w token = .ok user ∧
      w.db.invitations.find? (fun i => i.id = inviteId) = some inv ∧
      IsTenantAdmin w.db inv.tenantId user
  · obtain ⟨user, inv, huser, hfound, hadmin⟩ := hok
    obtain ⟨t, hexec, hrows⟩ := exec_cancelInvite_of hfound hadmin
    refine Or.inr ⟨user, inv, huser, hfound, hadmin, ?_⟩
    rw [getDbCached_withCurrentUser huser hexec]
    exact hrows
  · push Not at hok
    refine Or.inl ⟨?_, hok⟩
    rcases getDbCached_snd (withCurrentUser settings now token (cancelInvite inviteId)) w with
      hsame | ⟨r, hexec⟩
    · rw [hsame]
    · obtain ⟨user, db', huser, hbody, hw⟩ := exec_withCurrentUser_ok hexec
      obtain ⟨inv, hfound, hadmin, -⟩ := exec_cancelInvite_ok hbody
      exact absurd hadmin (hok user inv huser hfound)

end

/-! ### Runs -/

section

variable (settings : Settings) (crypto : Crypto)

/-- The request keeps the life cycle. The first onboarding of a tenant must invite nobody twice, and
nobody whose invitation is pending; a cancellation must find the invitation pending, or cancelled. -/
def KeepsLifecycle (st : AuthState) (a : ServiceAction) : Prop :=
  match a.request with
  | .completeOnboarding token draws tenantId request =>
      ∀ user, getCurrentUser settings (a.arrival st) st.world token = .ok user →
        Onboards crypto (a.arrival st) draws tenantId request st.world.db user →
        (request.invites.map (·.email)).Nodup ∧
          ∀ item ∈ request.invites, st.world.db.pendingInvitations item.email tenantId = []
  | .cancelInvite token inviteId =>
      ∀ user inv, getCurrentUser settings (a.arrival st) st.world token = .ok user →
        st.world.db.invitations.find? (fun i => i.id = inviteId) = some inv →
        IsTenantAdmin st.world.db inv.tenantId user →
        inv.status = .pending ∨ inv.status = .cancelled
  | _ => True

end

section

variable {settings : Settings} {crypto : Crypto} {now : Time} {db t : AuthDb}

/-- The pending invitations of an address count one more for each time it is invited. -/
lemma length_pendingInvitations_created {draws : ℕ → InviteDraws} {items : List BatchInviteItem}
    {tenantId inviterId : String}
    (h : t.invitations = db.invitations
      ++ (createdInvitations crypto now draws items tenantId inviterId).map (·.1)) (email : String) :
    (t.pendingInvitations email tenantId).length
      = (db.pendingInvitations email tenantId).length + (items.map (·.email)).count email := by
  rw [pendingInvitations_append h, List.length_append, Nat.add_left_cancel_iff,
    ← @emails_createdInvitations crypto now tenantId draws items inviterId, List.count,
    List.countP_map, ← List.countP_eq_length_filter, List.countP_map]
  refine List.countP_congr fun c hc => ?_
  obtain ⟨htenant, hpending⟩ := tenant_createdInvitations c hc
  simp [htenant, hpending]

/-- **An onboarding** keeps at most one pending exactly when it invites nobody twice, and nobody
whose invitation is pending. -/
lemma onboarding_step_iff {draws : ℕ → InviteDraws} {request : CompleteOnboardingRequest}
    {tenantId : String} {user : User} (hone : OnePending db)
    (hguard : Onboards crypto now draws tenantId request db user)
    (h : t.invitations = db.invitations ++ (createdInvitations crypto now draws
      (onboardingItems crypto request) tenantId user.id).map (·.1)) :
    OnePending t ∧ StatusFinal db t ↔ (request.invites.map (·.email)).Nodup ∧
      ∀ item ∈ request.invites, db.pendingInvitations item.email tenantId = [] := by
  have hemails : (onboardingItems crypto request).map (·.email) = request.invites.map (·.email) := by
    rw [onboardingItems, List.map_map]
    rfl
  constructor
  · rintro ⟨hafter, -⟩
    have hcount : ∀ email, (db.pendingInvitations email tenantId).length
        + (request.invites.map (·.email)).count email ≤ 1 := by
      intro email
      rw [← hemails, ← length_pendingInvitations_created h]
      exact hafter email tenantId
    refine ⟨List.nodup_iff_count_le_one.mpr fun email => ?_, fun item hitem => ?_⟩
    · have hle := hcount email
      omega
    · have hle := hcount item.email
      have hpos : 0 < (request.invites.map (·.email)).count item.email :=
        List.count_pos_iff.mpr (List.mem_map_of_mem hitem)
      exact List.length_eq_zero_iff.mp (by omega)
  · rintro ⟨hnodup, hfree⟩
    have hwrite : InviteWrite db t := by
      refine .of_created h (h ▸ hguard.keys) (hemails ▸ hnodup) ?_
      rw [hemails]
      exact List.forall_mem_map.mpr hfree
    exact hwrite.keeps hone

/-- **A cancellation** leaves the final statuses exactly when it finds the invitation pending, or
cancelled. -/
lemma cancellation_step_iff {inv : Invitation} (hkeys : InvitationKeys db.invitations)
    (hone : OnePending db) (hinv : inv ∈ db.invitations)
    (h : t.invitations = updateByKey Invitation.id inv.id cancelled db.invitations) :
    OnePending t ∧ StatusFinal db t ↔ inv.status = .pending ∨ inv.status = .cancelled := by
  constructor
  · rintro ⟨-, hfinal⟩
    by_contra hother
    push Not at hother
    obtain ⟨j, hj, hid, hstatus⟩ := hfinal inv hinv hother.1
    rw [h, mem_updateByKey] at hj
    obtain ⟨i, hi, rfl⟩ := hj
    by_cases hsame : i.id = inv.id
    · rw [if_pos hsame] at hstatus
      exact hother.2 hstatus.symm
    · rw [if_neg hsame] at hid
      exact hsame hid
  · intro hstatus
    have hwrite : InviteWrite db t := by
      refine .of_update h hkeys ?_ hinv (fun i => ⟨rfl, rfl, rfl⟩) fun hpending => ?_
      · rw [h]
        exact hkeys.updateByKey fun i => ⟨rfl, rfl⟩
      · rcases hstatus with hp | hc
        · exact absurd hp hpending
        · exact hc.symm
    exact hwrite.keeps hone

/-- **One request** keeps the keys of the table. -/
lemma invitationKeys_step (st : AuthState) (a : ServiceAction)
    (h : InvitationKeys st.world.db.invitations) :
    InvitationKeys (serviceStep settings crypto st a).world.db.invitations := by
  obtain ⟨wait, request⟩ := a
  by_cases hlooks : LooksFirst request
  · exact (serve_invites h hlooks).invitationKeys
  · cases request with
    | completeOnboarding token draws tenantId request =>
        rcases @serve_completeOnboarding settings crypto _ st.world token draws tenantId request with
          ⟨hsame, -⟩ | ⟨user, -, honboards, hrows⟩
        · exact hsame ▸ h
        · exact hrows ▸ honboards.keys
    | cancelInvite token inviteId =>
        rcases @serve_cancelInvite settings crypto _ st.world token inviteId with
          ⟨hsame, -⟩ | ⟨user, inv, -, -, -, hrows⟩
        · exact hsame ▸ h
        · exact hrows ▸ h.updateByKey fun i => ⟨rfl, rfl⟩
    | _ => exact absurd trivial hlooks

/-- **One request** keeps the life cycle exactly when it is one that does. -/
lemma lifecycle_step_iff (st : AuthState) (a : ServiceAction)
    (hkeys : InvitationKeys st.world.db.invitations) (hone : OnePending st.world.db) :
    OnePending (serviceStep settings crypto st a).world.db ∧
        StatusFinal st.world.db (serviceStep settings crypto st a).world.db
      ↔ KeepsLifecycle settings crypto st a := by
  obtain ⟨wait, request⟩ := a
  by_cases hlooks : LooksFirst request
  · refine iff_of_true ((serve_invites hkeys hlooks).keeps hone) ?_
    cases request <;> first | exact hlooks.elim | trivial
  · cases request with
    | completeOnboarding token draws tenantId request =>
        rcases @serve_completeOnboarding settings crypto (ServiceAction.arrival st ⟨wait, _⟩) st.world
          token draws tenantId request with ⟨hsame, hnone⟩ | ⟨user, huser, honboards, hrows⟩
        · refine iff_of_true ((InviteWrite.of_same hkeys hsame).keeps hone) ?_
          exact fun user huser honboards => absurd honboards (hnone user huser)
        · refine (onboarding_step_iff hone honboards hrows).trans
            ⟨fun h user' huser' _ => ?_, fun h => ?_⟩
          · exact h
          · exact h user huser honboards
    | cancelInvite token inviteId =>
        rcases @serve_cancelInvite settings crypto (ServiceAction.arrival st ⟨wait, _⟩) st.world token
          inviteId with ⟨hsame, hnone⟩ | ⟨user, inv, huser, hfound, hadmin, hrows⟩
        · refine iff_of_true ((InviteWrite.of_same hkeys hsame).keeps hone) ?_
          exact fun user inv huser hfound hadmin => absurd hadmin (hnone user inv huser hfound)
        · have hinv := List.mem_of_find?_eq_some hfound
          refine (cancellation_step_iff hkeys hone hinv hrows).trans ⟨fun h user' inv' _ hinv' _ => ?_,
            fun h => h user inv huser hfound hadmin⟩
          rw [hfound] at hinv'
          exact Option.some.inj hinv' ▸ h
    | _ => exact absurd trivial hlooks

/-- **Over every run**, at most one invitation of an address to a tenant is pending in every state,
and a final status stays, exactly when every request is one that keeps the life cycle. -/
theorem invite_lifecycle_iff {st : AuthState} (hkeys : InvitationKeys st.world.db.invitations)
    (hone : OnePending st.world.db) (actions : List ServiceAction) :
    Always (serviceStep settings crypto) (fun st => OnePending st.world.db) st actions ∧
        EachTransition (serviceStep settings crypto)
          (fun st _ st' => StatusFinal st.world.db st'.world.db) st actions
      ↔ EachStep (serviceStep settings crypto) (KeepsLifecycle settings crypto) st actions :=
  always_and_eachTransition_iff
    (I := fun st : AuthState => InvitationKeys st.world.db.invitations)
    invitationKeys_step lifecycle_step_iff hkeys hone actions

end

/-! ### Two runs -/

/-- Ann administers a bank that is not on board yet. -/
def newBankDb : AuthDb :=
  { users := [{ id := "u1", email := "ann@bank.test", name := "Ann"
                hashedPassword := "argon2:old pass 1"
                isEmailVerified := true }]
    tenants := [{ id := "t1", name := "Bank" }]
    memberships := [{ id := "m1", userId := "u1", tenantId := "t1", role := "administrator"
                      joinedAt := 0 }] }

/-- Her access token. -/
def annToken : Option Payload := some { sub := "u1", jti := "j1", iat := 0, exp := 900 }

/-- What the `i`-th invitation of an onboarding draws. -/
def numberedDraws (i : ℕ) : InviteDraws := ⟨toString i, "raw" ++ toString i⟩

/-- She completes the onboarding and invites some analysts. -/
def onboardAnalysts (emails : List String) : List ServiceAction :=
  [⟨0, .completeOnboarding annToken numberedDraws "t1"
    ⟨⟨"Bank", "USD", "UTC"⟩, emails.map fun email => ⟨email, "Analyst"⟩⟩⟩]

/-- Ann's bank, and Bob with an account of his own. -/
def bankAndBobDb : AuthDb :=
  { newBankDb with
    users := newBankDb.users ++ [{ id := "u2", email := "bob@bank.test", name := "Bob"
                                   hashedPassword := "argon2:bobs pass 1" }] }

/-- She invites Bob, he accepts, and she cancels the invitation. -/
def cancelAccepted : List ServiceAction :=
  [⟨0, .sendInvite annToken ⟨"i1", "one"⟩ ⟨"bob@bank.test", "analyst", "t1"⟩⟩,
    ⟨0, .auth (.acceptInvite ⟨"f1", "r1", "raw1", "s1", "j2", "", "m2"⟩
      ⟨"one", "Bob", "bobs pass 1"⟩) trivial⟩,
    ⟨0, .cancelInvite annToken "i1"⟩]

theorem invite_lifecycle_iff_sample :
    Always (serviceStep keySettings plainCrypto) (fun st => OnePending st.world.db)
          ⟨{ db := newBankDb }, 0⟩ (onboardAnalysts ["bob@bank.test", "eve@bank.test"]) ∧
        EachTransition (serviceStep keySettings plainCrypto)
          (fun st _ st' => StatusFinal st.world.db st'.world.db)
          ⟨{ db := newBankDb }, 0⟩ (onboardAnalysts ["bob@bank.test", "eve@bank.test"])
      ↔ EachStep (serviceStep keySettings plainCrypto) (KeepsLifecycle keySettings plainCrypto)
          ⟨{ db := newBankDb }, 0⟩ (onboardAnalysts ["bob@bank.test", "eve@bank.test"]) := by
  refine invite_lifecycle_iff (by decide) ?_ _
  intro email tenantId
  exact Nat.zero_le 1

/-- **Two pending at once, and a final status that changes**: an onboarding that invites Bob twice,
and the cancellation of the invitation that he accepted. -/
theorem invite_lifecycle_fails :
    ¬ Always (serviceStep keySettings plainCrypto) (fun st => OnePending st.world.db)
        ⟨{ db := newBankDb }, 0⟩ (onboardAnalysts ["bob@bank.test", "bob@bank.test"]) ∧
      ¬ EachTransition (serviceStep keySettings plainCrypto)
        (fun st _ st' => StatusFinal st.world.db st'.world.db)
        ⟨{ db := bankAndBobDb }, 0⟩ cancelAccepted := by
  constructor
  · intro h
    have hone := h _ List.prefix_rfl "bob@bank.test" "t1"
    revert hone
    decide
  · rintro ⟨-, -, hfinal, -⟩
    have hkept := hfinal
      { id := "i1", email := "bob@bank.test", tenantId := "t1", invitedByUserId := "u1"
        role := "analyst", tokenHash := "sha256:one", status := .accepted, expiresAt := days 7
        acceptedAt := some 0 } (by decide) (by decide)
    revert hkept
    decide

end EclServer.Auth
