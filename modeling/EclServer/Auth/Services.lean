import EclServer.Auth.Invites

/-!
The authentication services with the e-mailed links: password resets, invitations and the clean-up
jobs of `app/tasks/cleanup_tasks.py`.

* `forgotPassword`, `expirePasswordResetTokens`, `purgeRevokedRefreshTokens`: the service and the
  two jobs that the other modules have not.
* `SameLinks`: the requests that touch neither the reset tokens nor the invitations, and take no
  mail out of the outbox.
* `TokenWrite`: what a request writes to the refresh tokens and the sessions.
* `ServiceRequest`, `serve`, `serviceStep`: any of the requests and jobs, some time after the one
  before.
-/

namespace EclServer.Auth

open EclServer.Library

/-! ### Password resets and clean-up jobs -/

/-- What a request for a reset draws. -/
structure ResetDraws where
  id : String
  rawToken : String
  deriving DecidableEq, Repr

/-- The primary key and the unique column of the reset tokens. -/
def ResetTokenKeys (rows : List PasswordResetToken) : Prop :=
  (rows.map (·.id)).Nodup ∧ (rows.map (·.tokenHash)).Nodup

instance (rows : List PasswordResetToken) : Decidable (ResetTokenKeys rows) :=
  inferInstanceAs (Decidable (_ ∧ _))

section

variable (crypto : Crypto) (now : Time)

/-- The reset token of a user, good for an hour. -/
def newResetToken (d : ResetDraws) (userId : String) : PasswordResetToken :=
  { id := d.id, userId := userId, tokenHash := crypto.hashToken d.rawToken
    expiresAt := now + hours 1 }

/-- The user's unused tokens are marked used. -/
def supersede (userId : String) (rows : List PasswordResetToken) : List PasswordResetToken :=
  rows.map fun p =>
    if p.userId = userId ∧ p.usedAt = none then { p with usedAt := some now } else p

/-- The rows are written, unless two of them would have one key. -/
def writeResetTokens (rows : List PasswordResetToken) : Request Unit :=
  if ResetTokenKeys rows then modify fun db => { db with passwordResetTokens := rows }
  else throw unexpectedError

/-- `forgot_password`; the client's address is left out. -/
def forgotPassword (d : ResetDraws) (email : String) : Request Unit := do
  let db ← get
  match (db.getActiveUserByEmail crypto email).filter (·.isActive) with
  | none => return ()
  | some user =>
      writeResetTokens
        (supersede now user.id db.passwordResetTokens ++ [newResetToken crypto now d user.id])
      logEvent { eventType := "auth.password_reset.requested", userId := some user.id }
      queueEmailInOutbox "send_reset_password_email"
        [("user_id", user.id), ("raw_token", d.rawToken)]

/-- `expire_password_reset_tokens`. -/
def expirePasswordResetTokens (db : AuthDb) : AuthDb :=
  { db with
    passwordResetTokens := db.passwordResetTokens.filter fun p =>
      ¬ (p.expiresAt < now ∧ p.usedAt = none) }

/-- `purge_revoked_refresh_tokens`. -/
def purgeRevokedRefreshTokens (db : AuthDb) : AuthDb :=
  { db with
    refreshTokens := db.refreshTokens.filter fun t =>
      ¬ (t.isRevoked = true ∧ t.expiresAt < now - days 30) }

end

/-! ### Requests that leave the links alone -/

/-- The reset tokens and the invitations are the same, and no mail is gone. -/
structure SameLinks (s t : AuthDb) : Prop where
  resetTokens : t.passwordResetTokens = s.passwordResetTokens
  invitations : t.invitations = s.invitations
  outbox : s.emailOutbox ⊆ t.emailOutbox

namespace SameLinks

lemma refl (s : AuthDb) : SameLinks s s := ⟨rfl, rfl, List.Subset.refl _⟩

lemma trans {s t u : AuthDb} (h : SameLinks s t) (h' : SameLinks t u) : SameLinks s u :=
  ⟨h'.resetTokens.trans h.resetTokens, h'.invitations.trans h.invitations,
    List.Subset.trans h.outbox h'.outbox⟩

instance : Std.Refl SameLinks := ⟨refl⟩

instance : IsTrans AuthDb SameLinks := ⟨fun _ _ _ h h' => h.trans h'⟩

end SameLinks

/-- A relation of databases, between worlds. -/
def OnDbs (R : AuthDb → AuthDb → Prop) (w w' : World) : Prop := R w.db w'.db

section

variable {R : AuthDb → AuthDb → Prop} {settings : Settings} {now : Time}

instance [Std.Refl R] : Std.Refl (OnDbs R) := ⟨fun w => Std.Refl.refl w.db⟩

instance [IsTrans AuthDb R] : IsTrans World (OnDbs R) :=
  ⟨fun w w' w'' h h' => IsTrans.trans w.db w'.db w''.db h h'⟩

lemma onDb_keeps {α : Type} {body : Request α} (h : body.Keeps R) : (onDb body).Keeps (OnDbs R) := by
  intro w a w' hexec
  obtain ⟨db', hbody, rfl⟩ := exec_onDb_ok.mp hexec
  exact h _ _ _ hbody

lemma getDbCached_keeps [Std.Refl R] {α : Type} {body : CachedRequest α}
    (h : body.Keeps (OnDbs R)) (w : World) : R w.db (getDbCached body w).2.db := by
  rcases getDbCached_snd body w with hsame | ⟨a, hok⟩
  · rw [hsame]
    exact Std.Refl.refl w.db
  · exact h w a _ hok

lemma withCurrentUser_keeps {α : Type} {token : Option Payload} {body : User → Request α}
    (h : ∀ user, (body user).Keeps R) :
    (withCurrentUser settings now token body).Keeps (OnDbs R) := by
  intro w a w' hexec
  obtain ⟨user, db', -, hbody, rfl⟩ := exec_withCurrentUser_ok hexec
  exact h user _ _ _ hbody

end

section

variable {settings : Settings} {crypto : Crypto} {now : Time} {draws : Draws}

lemma links_logEvent (entry : AuditLog) : (logEvent entry).Keeps SameLinks :=
  Tx.keeps_modify fun _ => ⟨rfl, rfl, List.Subset.refl _⟩

lemma links_queueEmailInOutbox (taskName : String) (payload : List (String × String)) :
    (queueEmailInOutbox taskName payload).Keeps SameLinks :=
  Tx.keeps_modify fun _ => ⟨rfl, rfl, List.subset_append_left _ _⟩

lemma links_createSessionTokens (user : User) (membership : TenantMembership) (tenant : Tenant)
    (remember : Bool) :
    (createSessionTokens settings crypto now draws user membership tenant remember).Keeps
      SameLinks := by
  refine Tx.keeps_bind (Tx.keeps_modify fun _ => ⟨rfl, rfl, List.Subset.refl _⟩) fun _ => ?_
  refine Tx.keeps_bind (Tx.keeps_modify fun _ => ⟨rfl, rfl, List.Subset.refl _⟩) fun _ => ?_
  exact Tx.keeps_bind (Tx.keeps_ite (Tx.keeps_throw _) (Tx.keeps_pure _)) fun _ => Tx.keeps_pure _

lemma links_registerUser (d : RegisterDraws) (request : RegisterRequest) :
    (registerUser settings crypto now d request).Keeps SameLinks := by
  unfold registerUser
  split
  · exact Tx.keeps_throw _
  refine Tx.keeps_bind Tx.keeps_get fun db => Tx.keeps_ite (Tx.keeps_throw _) ?_
  refine Tx.keeps_bind (Tx.keeps_modify fun _ => ⟨rfl, rfl, List.Subset.refl _⟩) fun _ => ?_
  refine Tx.keeps_bind (links_createSessionTokens _ _ _ _) fun _ => ?_
  exact Tx.keeps_bind (links_logEvent _) fun _ =>
    Tx.keeps_bind (links_queueEmailInOutbox _ _) fun _ => Tx.keeps_pure _

lemma links_loginUser (request : LoginRequest) :
    (loginUser settings crypto now draws request).Keeps SameLinks := by
  intro db resp t h
  obtain ⟨user, membership, tenant, _, _, _, _, ⟨_, rfl, _⟩ | ⟨_, r, u, hcreate, rfl, _⟩⟩ :=
    exec_loginUser_ok h
  · exact ⟨rfl, rfl, List.Subset.refl _⟩
  · have hissued := links_createSessionTokens _ _ _ _ _ _ _ hcreate
    exact ⟨hissued.resetTokens, hissued.invitations, hissued.outbox⟩

lemma links_checkCode (user : User) (code : String) :
    (checkCode crypto now user code).Keeps SameLinks := by
  refine Tx.keeps_ite ?_ ?_
  · split
    · exact Tx.keeps_bind (links_logEvent _) fun _ => Tx.keeps_throw _
    · exact Tx.keeps_bind (Tx.keeps_modify fun s => ⟨rfl, rfl, List.Subset.refl _⟩)
        fun _ => links_logEvent _
  · split
    · exact Tx.keeps_throw _
    · exact Tx.keeps_ite (links_logEvent _)
        (Tx.keeps_bind (links_logEvent _) fun _ => Tx.keeps_throw _)

lemma links_blacklistToken (entry : TokenBlacklist) :
    (blacklistToken entry).Keeps SameLinks := by
  refine Tx.keeps_bind Tx.keeps_get fun db => ?_
  exact Tx.keeps_ite (Tx.keeps_throw _)
    (Tx.keeps_modify fun s => ⟨rfl, rfl, List.Subset.refl _⟩)

lemma links_blacklistInRedis (jti : String) (expiresAt : Time) :
    (blacklistInRedis now jti expiresAt).Keeps (OnDbs SameLinks) := by
  intro w a w' h
  rw [blacklistInRedis, Tx.exec_get_bind, Tx.exec_ite] at h
  split at h
  · simp only [Tx.exec_set, Prod.mk.injEq] at h
    exact h.2 ▸ SameLinks.refl w.db
  · simp at h

lemma links_openVerified (user : User) :
    (openVerified settings crypto now draws user).Keeps SameLinks := by
  refine Tx.keeps_bind Tx.keeps_get fun db => ?_
  split
  · exact Tx.keeps_throw _
  · refine Tx.keeps_bind (links_createSessionTokens _ _ _ _) fun _ => ?_
    exact Tx.keeps_bind (links_logEvent _) fun _ => Tx.keeps_pure _

lemma links_verifyMfa (request : MFAVerifyRequest) :
    (verifyMfa settings crypto now draws request).Keeps (OnDbs SameLinks) := by
  refine Tx.keeps_bind ?_ fun payload => Tx.keeps_bind ?_ fun user =>
    Tx.keeps_bind (onDb_keeps (links_checkCode _ _)) fun _ => Tx.keeps_bind ?_ fun _ =>
      onDb_keeps (links_openVerified user)
  · refine Tx.keeps_bind Tx.keeps_get fun w => ?_
    split
    · exact Tx.keeps_throw _
    · exact Tx.keeps_ite (Tx.keeps_throw _) (Tx.keeps_ite (Tx.keeps_throw _) (Tx.keeps_pure _))
  · refine Tx.keeps_bind Tx.keeps_get fun w => ?_
    split
    · exact Tx.keeps_throw _
    · exact Tx.keeps_pure _
  · exact Tx.keeps_ite (Tx.keeps_pure _) (Tx.keeps_bind (links_blacklistInRedis _ _) fun _ =>
      onDb_keeps (links_blacklistToken _))

lemma links_refreshTokens (rawRefresh : String) :
    (refreshTokens settings crypto now draws rawRefresh).Keeps SameLinks := by
  intro db resp t h
  obtain ⟨rt, sess, -, -, rfl⟩ := exec_refreshTokens_ok h
  cases sess <;> exact ⟨rfl, rfl, List.Subset.refl _⟩

lemma links_logoutUser (payload : Option Payload) (raw : Option String) :
    (logoutUser crypto payload raw).Keeps SameLinks := by
  refine Tx.keeps_bind ?_ fun _ => Tx.keeps_bind ?_ fun _ => links_logEvent _
  · unfold blacklistAccess
    split
    · exact Tx.keeps_pure _
    · exact Tx.keeps_ite (links_blacklistToken _) (Tx.keeps_pure _)
  · intro db r t h
    rcases exec_endPresented_ok h with rfl | ⟨rt, -, rfl⟩
    · exact SameLinks.refl t
    · exact ⟨rfl, rfl, List.Subset.refl _⟩

lemma links_logoutUserCached (token : Option Payload) (raw : Option String) :
    (logoutUserCached settings crypto now token raw).Keeps (OnDbs SameLinks) := by
  refine Tx.keeps_bind ?_ fun _ => onDb_keeps (links_logoutUser _ _)
  unfold blacklistAccessInRedis
  split
  · exact links_blacklistInRedis _ _
  · exact Tx.keeps_pure _

lemma links_logoutAllEndpoint (token : Option Payload) :
    (logoutAllEndpoint settings crypto now token).Keeps (OnDbs SameLinks) := by
  refine Tx.keeps_bind Tx.keeps_get fun w => Tx.keeps_bind (Tx.keeps_liftM _) fun user => ?_
  refine Tx.keeps_bind (links_logoutUserCached _ _) fun _ => ?_
  refine Tx.keeps_bind (onDb_keeps ?_) fun _ => onDb_keeps ?_
  · exact Tx.keeps_modify fun _ => ⟨rfl, rfl, List.Subset.refl _⟩
  · exact Tx.keeps_modify fun _ => ⟨rfl, rfl, List.Subset.refl _⟩

lemma links_deleteSessionEndpoint (userId sessionId : String) (raw : Option String) :
    (deleteSessionEndpoint crypto userId sessionId raw).Keeps SameLinks := by
  refine Tx.keeps_bind Tx.keeps_get fun db => Tx.keeps_bind (Tx.keeps_liftM _) fun current => ?_
  refine Tx.keeps_ite (Tx.keeps_throw _) (Tx.keeps_bind Tx.keeps_get fun db => ?_)
  split
  · exact Tx.keeps_throw _
  · refine Tx.keeps_bind (Tx.keeps_modify fun _ => ⟨rfl, rfl, List.Subset.refl _⟩) fun _ => ?_
    exact Tx.keeps_bind (Tx.keeps_modify fun _ => ⟨rfl, rfl, List.Subset.refl _⟩)
      fun _ => links_logEvent _

lemma links_deleteOtherSessionsEndpoint (userId : String) (raw : Option String) :
    (deleteOtherSessionsEndpoint crypto userId raw).Keeps SameLinks := by
  refine Tx.keeps_bind Tx.keeps_get fun db => Tx.keeps_bind (Tx.keeps_liftM _) fun current => ?_
  refine Tx.keeps_bind Tx.keeps_get fun db => Tx.keeps_ite (Tx.keeps_pure _) ?_
  refine Tx.keeps_bind (Tx.keeps_modify fun _ => ⟨rfl, rfl, List.Subset.refl _⟩) fun _ => ?_
  refine Tx.keeps_bind (Tx.keeps_modify fun _ => ⟨rfl, rfl, List.Subset.refl _⟩) fun _ => ?_
  exact Tx.keeps_bind (links_logEvent _) fun _ => Tx.keeps_pure _

lemma links_changePassword (order : QueryOrder RefreshToken) (user : User)
    (request : ChangePasswordRequest) :
    (changePassword crypto order user request).Keeps SameLinks := by
  refine Tx.keeps_ite ?_ (Tx.keeps_throw _)
  split
  · exact Tx.keeps_throw _
  · refine Tx.keeps_bind (Tx.keeps_modify fun _ => ⟨rfl, rfl, List.Subset.refl _⟩) fun _ => ?_
    refine Tx.keeps_bind Tx.keeps_get fun db => ?_
    exact Tx.keeps_bind (Tx.keeps_modify fun _ => ⟨rfl, rfl, List.Subset.refl _⟩)
      fun _ => links_logEvent _

/-- A write of another service leaves the links alone. -/
def OtherKeepsLinks : AuthRequest → Prop
  | .other write => ∀ db, SameLinks db (write.apply db)
  | _ => True

/-- The requests that change a reset token or an invitation. -/
def WritesLinks : AuthRequest → Prop
  | .acceptInvite _ _ => True
  | .resetPassword _ => True
  | _ => False

/-- **The other requests leave the links alone.** -/
lemma links_perform (w : World) {request : AuthRequest} (hother : OtherKeepsLinks request)
    (hwrites : ¬ WritesLinks request) :
    SameLinks w.db (perform settings crypto now w request).db := by
  cases request with
  | register d request => exact Tx.keeps_commit (links_registerUser d request) w.db
  | login draws request => exact Tx.keeps_commit (links_loginUser request) w.db
  | verifyMfa draws request => exact getDbCached_keeps (links_verifyMfa request) w
  | acceptInvite draws request => exact absurd trivial hwrites
  | refresh draws rawRefresh => exact Tx.keeps_commit (links_refreshTokens rawRefresh) w.db
  | logout token rawRefresh => exact getDbCached_keeps (links_logoutUserCached token rawRefresh) w
  | logoutAll token => exact getDbCached_keeps (links_logoutAllEndpoint token) w
  | revokeSession token sessionId rawRefresh =>
      exact getDbCached_keeps (withCurrentUser_keeps fun user =>
        links_deleteSessionEndpoint user.id sessionId rawRefresh) w
  | revokeOtherSessions token rawRefresh =>
      exact getDbCached_keeps (withCurrentUser_keeps fun user =>
        links_deleteOtherSessionsEndpoint user.id rawRefresh) w
  | changePassword token order request =>
      exact getDbCached_keeps (withCurrentUser_keeps fun user =>
        links_changePassword order user request) w
  | resetPassword request => exact absurd trivial hwrites
  | purgeOldSessions => exact ⟨rfl, rfl, List.Subset.refl _⟩
  | purgeExpiredTokenBlacklist => exact ⟨rfl, rfl, List.Subset.refl _⟩
  | evict jti => exact SameLinks.refl _
  | redisUp up => exact SameLinks.refl _
  | other write => exact hother w.db

end

/-! ### Requests that leave the credentials alone -/

/-- The refresh tokens, the sessions, the reset tokens and the memberships are the same, and no
blacklist row is gone. -/
structure SameCredentials (s t : AuthDb) : Prop extends SameTokens s t where
  resetTokens : t.passwordResetTokens = s.passwordResetTokens
  memberships : t.memberships = s.memberships

namespace SameCredentials

lemma refl (s : AuthDb) : SameCredentials s s := ⟨SameTokens.refl s, rfl, rfl⟩

instance : Std.Refl SameCredentials := ⟨refl⟩

instance : IsTrans AuthDb SameCredentials :=
  ⟨fun _ _ _ h h' => ⟨h.toSameTokens.trans h'.toSameTokens, h'.resetTokens.trans h.resetTokens,
    h'.memberships.trans h.memberships⟩⟩

end SameCredentials

section

variable {crypto : Crypto} {now : Time}

lemma credentials_logEvent (entry : AuditLog) : (logEvent entry).Keeps SameCredentials :=
  Tx.keeps_modify fun _ => ⟨⟨rfl, rfl, List.Subset.refl _⟩, rfl, rfl⟩

lemma credentials_writeInvitations (rows : List Invitation) :
    (writeInvitations rows).Keeps SameCredentials :=
  Tx.keeps_ite (Tx.keeps_modify fun _ => ⟨⟨rfl, rfl, List.Subset.refl _⟩, rfl, rfl⟩) (Tx.keeps_throw _)

lemma credentials_addInvitations (created : List (Invitation × String)) :
    (addInvitations created).Keeps SameCredentials :=
  Tx.keeps_bind Tx.keeps_get fun _ => credentials_writeInvitations _

lemma credentials_queueInviteMails (created : List (Invitation × String)) :
    (queueInviteMails created).Keeps SameCredentials :=
  Tx.keeps_modify fun _ => ⟨⟨rfl, rfl, List.Subset.refl _⟩, rfl, rfl⟩

lemma credentials_requireTenantAdmin (tenantId : String) (user : User) :
    (requireTenantAdmin tenantId user).Keeps SameCredentials := by
  refine Tx.keeps_bind (Tx.keeps_bind Tx.keeps_get fun db => ?_) fun m =>
    Tx.keeps_ite (Tx.keeps_throw _) (Tx.keeps_pure _)
  split
  · exact Tx.keeps_ite (Tx.keeps_pure _) (Tx.keeps_throw _)
  · exact Tx.keeps_pure _
  · exact Tx.keeps_throw _

lemma credentials_checkNoPending (email tenantId detail : String) :
    (checkNoPending email tenantId detail).Keeps SameCredentials := by
  refine Tx.keeps_bind Tx.keeps_get fun db => ?_
  split
  · exact Tx.keeps_pure _
  · exact Tx.keeps_throw _
  · exact Tx.keeps_throw _

lemma credentials_checkNotYetMember (email tenantId detail : String) :
    (checkNotYetMember crypto email tenantId detail).Keeps SameCredentials := by
  refine Tx.keeps_bind Tx.keeps_get fun db => ?_
  split
  · exact Tx.keeps_pure _
  · split
    · exact Tx.keeps_pure _
    · exact Tx.keeps_throw _
    · exact Tx.keeps_throw _

lemma credentials_sendInviteEndpoint (d : InviteDraws) (request : SendInviteRequest) (user : User) :
    (sendInviteEndpoint crypto now d request user).Keeps SameCredentials := by
  refine Tx.keeps_bind (credentials_requireTenantAdmin _ _) fun _ => ?_
  refine Tx.keeps_ite ?_ (Tx.keeps_throw _)
  refine Tx.keeps_bind (credentials_checkNoPending _ _ _) fun _ => ?_
  refine Tx.keeps_bind (credentials_checkNotYetMember _ _ _) fun _ => ?_
  refine Tx.keeps_ite ?_ (Tx.keeps_throw _)
  refine Tx.keeps_bind (credentials_addInvitations _) fun _ => ?_
  refine Tx.keeps_bind (credentials_logEvent _) fun _ => ?_
  exact Tx.keeps_bind (credentials_queueInviteMails _) fun _ => Tx.keeps_pure _

lemma credentials_checkInvitees (tenantId : String) (items : List BatchInviteItem) :
    (checkInvitees crypto tenantId items).Keeps SameCredentials := by
  induction items with
  | nil => exact Tx.keeps_pure _
  | cons item items ih =>
      exact Tx.keeps_bind (credentials_checkNoPending _ _ _) fun _ =>
        Tx.keeps_bind (credentials_checkNotYetMember _ _ _) fun _ => ih

lemma credentials_batchInviteEndpoint (draws : ℕ → InviteDraws) (request : BatchInviteRequest)
    (user : User) : (batchInviteEndpoint crypto now draws request user).Keeps SameCredentials := by
  refine Tx.keeps_bind (credentials_requireTenantAdmin _ _) fun _ => ?_
  refine Tx.keeps_ite (Tx.keeps_ite ?_ (Tx.keeps_throw _)) (Tx.keeps_throw _)
  split
  · exact Tx.keeps_throw _
  · refine Tx.keeps_bind (credentials_checkInvitees _ _) fun _ => ?_
    refine Tx.keeps_bind (credentials_addInvitations _) fun _ => ?_
    refine Tx.keeps_bind (credentials_queueInviteMails _) fun _ => ?_
    exact Tx.keeps_bind (credentials_logEvent _) fun _ => Tx.keeps_pure _

lemma credentials_onboardingInvites (draws : ℕ → InviteDraws) (tenantId : String) (user : User)
    (request : CompleteOnboardingRequest) :
    (onboardingInvites crypto now draws tenantId user request).Keeps SameCredentials := by
  refine Tx.keeps_ite (Tx.keeps_pure _) ?_
  split
  · exact Tx.keeps_throw _
  · refine Tx.keeps_bind (credentials_addInvitations _) fun _ => ?_
    exact Tx.keeps_bind (credentials_queueInviteMails _) fun _ => credentials_logEvent _

lemma credentials_completeOnboardingEndpoint (draws : ℕ → InviteDraws) (tenantId : String)
    (request : CompleteOnboardingRequest) (user : User) :
    (completeOnboardingEndpoint crypto now draws tenantId request user).Keeps SameCredentials := by
  refine Tx.keeps_bind (credentials_requireTenantAdmin _ _) fun _ => ?_
  refine Tx.keeps_bind (Tx.keeps_bind Tx.keeps_get fun db => ?_) fun tenant =>
    Tx.keeps_ite (Tx.keeps_pure _) ?_
  · split
    · exact Tx.keeps_throw _
    · exact Tx.keeps_pure _
  refine Tx.keeps_bind (Tx.keeps_modify fun _ => ⟨⟨rfl, rfl, List.Subset.refl _⟩, rfl, rfl⟩)
    fun _ => ?_
  refine Tx.keeps_bind (credentials_onboardingInvites _ _ _ _) fun _ => ?_
  refine Tx.keeps_bind (Tx.keeps_modify fun _ => ⟨⟨rfl, rfl, List.Subset.refl _⟩, rfl, rfl⟩)
    fun _ => ?_
  refine Tx.keeps_bind (Tx.keeps_modify fun _ => ⟨⟨rfl, rfl, List.Subset.refl _⟩, rfl, rfl⟩)
    fun _ => ?_
  exact credentials_logEvent _

lemma tokens_forgotPassword (d : ResetDraws) (email : String) :
    (forgotPassword crypto now d email).Keeps SameTokens := by
  refine Tx.keeps_bind Tx.keeps_get fun db => ?_
  split
  · exact Tx.keeps_pure _
  · refine Tx.keeps_bind (Tx.keeps_ite ?_ (Tx.keeps_throw _)) fun _ =>
      Tx.keeps_bind (keeps_logEvent _) fun _ => keeps_queueEmailInOutbox _ _
    exact Tx.keeps_modify fun _ => ⟨rfl, rfl, List.Subset.refl _⟩

lemma credentials_loadInvite (inviteId : String) :
    (loadInvite inviteId).Keeps SameCredentials := by
  refine Tx.keeps_bind Tx.keeps_get fun db => ?_
  split
  · exact Tx.keeps_throw _
  · exact Tx.keeps_pure _

lemma credentials_cancelInvite (inviteId : String) (user : User) :
    (cancelInvite inviteId user).Keeps SameCredentials := by
  refine Tx.keeps_bind (credentials_loadInvite _) fun _ => ?_
  refine Tx.keeps_bind (credentials_requireTenantAdmin _ _) fun _ => ?_
  exact Tx.keeps_modify fun _ => ⟨⟨rfl, rfl, List.Subset.refl _⟩, rfl, rfl⟩

lemma credentials_resendInvite (raw inviteId : String) (user : User) :
    (resendInvite crypto now raw inviteId user).Keeps SameCredentials := by
  refine Tx.keeps_bind (credentials_loadInvite _) fun _ => ?_
  refine Tx.keeps_bind (credentials_requireTenantAdmin _ _) fun _ => ?_
  exact Tx.keeps_bind Tx.keeps_get fun _ => credentials_writeInvitations _

end

/-! ### What a request writes to the tokens and the sessions -/

/-- The rows are issued, rotated, ended or purged. -/
inductive TokenWrite (settings : Settings) (crypto : Crypto) (now : Time) (draws? : Option Draws)
    (db t : AuthDb) : Prop
  | issues {draws : Draws} (hdraws : draws? = some draws)
      (h : IssuesSession settings crypto now draws db t)
  | rotates {draws : Draws} {rt : RefreshToken} {sess : Option Session}
      (hdraws : draws? = some draws) (hrt : rt ∈ db.refreshTokens)
      (hsess : (db.sessions.filter fun s => s.refreshTokenId = rt.id) = sess.toList)
      (ht : t = rotate settings crypto now draws rt sess db)
  | ends {p : RefreshToken → Bool} {q : Session → Bool}
      (htokens : t.refreshTokens = (db.revokeWhere p).refreshTokens)
      (hsessions : t.sessions = (db.deleteSessions q).sessions)
  | purges (htokens : t.refreshTokens.Sublist db.refreshTokens)
      (hsessions : t.sessions = db.sessions)

section

variable {settings : Settings} {crypto : Crypto} {now : Time} {draws? : Option Draws}
  {db t : AuthDb}

namespace TokenWrite

lemma of_ends {p : RefreshToken → Bool} {q : Session → Bool} (h : EndsSessions p q db t) :
    TokenWrite settings crypto now draws? db t :=
  .ends h.tokens h.sessions

lemma of_same (htokens : t.refreshTokens = db.refreshTokens) (hsessions : t.sessions = db.sessions) :
    TokenWrite settings crypto now draws? db t :=
  .purges (htokens ▸ List.Sublist.refl _) hsessions

lemma of_sameTokens (h : SameTokens db t) : TokenWrite settings crypto now draws? db t :=
  of_same h.tokens h.sessions

/-- A request in its transaction writes what its body writes, or nothing. -/
lemma of_getDb {α : Type} {body : Request α}
    (h : ∀ a t, Tx.exec body db = (.ok a, t) → TokenWrite settings crypto now draws? db t) :
    TokenWrite settings crypto now draws? db (getDb body db).2 :=
  Tx.commit_induction (of_same rfl rfl) h

lemma of_getDbCached {α : Type} {body : CachedRequest α} {w : World}
    (h : ∀ a w', Tx.exec body w = (.ok a, w') →
      TokenWrite settings crypto now draws? w.db w'.db) :
    TokenWrite settings crypto now draws? w.db (getDbCached body w).2.db := by
  rcases getDbCached_snd body w with hsame | ⟨a, hok⟩
  · rw [hsame]
    exact of_same rfl rfl
  · exact h a _ hok

end TokenWrite

/-- **Any request** writes to the two tables in one of these ways. -/
lemma perform_tokens (w : World) (request : AuthRequest) :
    TokenWrite settings crypto now request.draws? w.db
      (perform settings crypto now w request).db := by
  cases request with
  | register d request => exact .of_getDb fun _ _ h => .issues rfl (issues_registerUser h)
  | login draws request =>
      refine .of_getDb fun _ _ h => ?_
      rcases issues_loginUser h with hsame | hissues
      · exact .of_sameTokens hsame
      · exact .issues rfl hissues
  | verifyMfa draws request => exact .of_getDbCached fun _ _ h => .issues rfl (issues_verifyMfa h)
  | acceptInvite draws request => exact .of_getDb fun _ _ h => .issues rfl (issues_acceptInvite h)
  | refresh draws rawRefresh =>
      refine .of_getDb fun _ _ h => ?_
      -- a refresh spends the token it has read, and moves the session that it has found
      obtain ⟨rt, found, sess, hload, -, hsess, -, ht⟩ := exec_refreshTokens_reads h
      obtain ⟨-, hrt, -, -⟩ := exec_loadToken_ok (Prod.ext hload rfl)
      obtain ⟨-, hfilter⟩ := exec_loadSession_ok (Prod.ext hsess rfl)
      exact .rotates rfl (AuthDb.mem_of_tokenByHash hrt) hfilter ht
  | logout token rawRefresh =>
      refine .of_getDbCached fun _ _ h => ?_
      rcases ends_logoutUserCached h with hsame | ⟨rt, -, hends⟩
      · exact .of_sameTokens hsame
      · exact .of_ends hends
  | logoutAll token =>
      refine .of_getDbCached fun _ _ h => ?_
      rw [logoutAllEndpoint, Tx.exec_get_bind] at h
      obtain ⟨user, w₁, huser, hall⟩ := Tx.exec_bind_eq_ok.mp h
      simp only [Tx.exec_liftM, Prod.mk.injEq] at huser
      obtain ⟨-, rfl⟩ := huser
      exact .of_ends (ends_logoutAllUser hall)
  | revokeSession token sessionId rawRefresh =>
      refine .of_getDbCached fun _ _ h => ?_
      obtain ⟨user, db', -, hexec, rfl⟩ := exec_withCurrentUser_ok h
      rw [deleteSessionEndpoint, Tx.exec_get_bind] at hexec
      obtain ⟨current, u, hcurrent, hrevoke⟩ := Tx.exec_bind_eq_ok.mp hexec
      simp only [Tx.exec_liftM, Prod.mk.injEq] at hcurrent
      obtain ⟨-, rfl⟩ := hcurrent
      obtain ⟨sess, -, -, hends⟩ := ends_revokeSession hrevoke
      exact .of_ends hends
  | revokeOtherSessions token rawRefresh =>
      refine .of_getDbCached fun _ _ h => ?_
      obtain ⟨user, db', -, hexec, rfl⟩ := exec_withCurrentUser_ok h
      rw [deleteOtherSessionsEndpoint, Tx.exec_get_bind] at hexec
      obtain ⟨current, u, hcurrent, hrevoke⟩ := Tx.exec_bind_eq_ok.mp hexec
      simp only [Tx.exec_liftM, Prod.mk.injEq] at hcurrent
      obtain ⟨-, rfl⟩ := hcurrent
      rcases ends_revokeOtherSessions hrevoke with hsame | hends
      · exact .of_sameTokens hsame
      · exact .of_ends hends
  | changePassword token order request =>
      refine .of_getDbCached fun _ _ h => ?_
      obtain ⟨user, db', -, hexec, rfl⟩ := exec_withCurrentUser_ok h
      obtain ⟨hsessions, htokens, -⟩ := exec_changePassword_ok hexec
      refine .ends htokens (q := fun _ => false) ?_
      rw [hsessions]
      simp [AuthDb.deleteSessions]
  | resetPassword request =>
      refine .of_getDb fun _ _ h => ?_
      obtain ⟨userId, hends⟩ := ends_resetPassword h
      exact .of_ends hends
  | purgeOldSessions =>
      refine .ends (p := fun _ => false) ?_ rfl
      simp [AuthDb.revokeWhere, perform, purgeOldSessions, AuthDb.deleteSessions]
  | purgeExpiredTokenBlacklist => exact .of_same rfl rfl
  | evict jti => exact .of_same rfl rfl
  | redisUp up => exact .of_same rfl rfl
  | other write => exact .of_sameTokens (write.same w.db)

/-! ### The rows after a write -/

/-- A row that was there, possibly revoked since. -/
structure SameToken (r r' : RefreshToken) : Prop where
  id : r'.id = r.id
  user : r'.userId = r.userId
  hash : r'.tokenHash = r.tokenHash
  expires : r'.expiresAt = r.expiresAt
  revoked : r.isRevoked = true → r'.isRevoked = true

/-- A row that a request made. -/
structure NewToken (settings : Settings) (crypto : Crypto) (now : Time) (draws : Draws)
    (r : RefreshToken) : Prop where
  id : r.id = draws.refreshTokenId
  hash : r.tokenHash = crypto.hashToken draws.rawRefresh
  expires : r.expiresAt ≤ now + days (max settings.jwtRefreshTokenExpireDays 1)

lemma days_le_days {m n : ℤ} (h : m ≤ n) : days m ≤ days n := by
  have hscaled : ∀ m n : ℤ, m ≤ n → m * 24 * 60 * 60 * 1000000 ≤ n * 24 * 60 * 60 * 1000000 := by
    intro m n hle
    omega
  exact hscaled m n h

lemma newToken_newRefreshToken (draws : Draws) (user : User) (remember : Bool) :
    NewToken settings crypto now draws
      (newRefreshToken settings crypto now draws user remember) where
  id := rfl
  hash := rfl
  expires := by
    cases remember with
    | true => exact Int.add_le_add_left (days_le_days (le_max_left _ _)) now
    | false => exact Int.add_le_add_left (days_le_days (le_max_right _ _)) now

lemma newToken_rotatedToken (draws : Draws) (rt : RefreshToken) :
    NewToken settings crypto now draws (rotatedToken settings crypto now draws rt) where
  id := rfl
  hash := rfl
  expires := Int.add_le_add_left (days_le_days (le_max_left _ _)) now

/-- **Where a token comes from**: it was there, or the request made it, and it made one. -/
lemma TokenWrite.token_origin (h : TokenWrite settings crypto now draws? db t) :
    ∃ userId, ∀ r' ∈ t.refreshTokens, (∃ r ∈ db.refreshTokens, SameToken r r') ∨
      ∃ draws, draws? = some draws ∧ NewToken settings crypto now draws r' ∧ r'.userId = userId := by
  have hsame : ∀ r : RefreshToken, SameToken r r := fun r => ⟨rfl, rfl, rfl, rfl, id⟩
  cases h with
  | issues hdraws h =>
      obtain ⟨user, remember, htokens, -⟩ := h.issued
      refine ⟨user.id, fun r' hr' => ?_⟩
      rw [htokens, List.mem_append, List.mem_singleton] at hr'
      rcases hr' with hold | rfl
      · exact Or.inl ⟨r', hold, hsame r'⟩
      · exact Or.inr ⟨_, hdraws, newToken_newRefreshToken _ _ _, rfl⟩
  | @rotates draws rt sess hdraws hrt hsess ht =>
      subst ht
      refine ⟨rt.userId, fun r' hr' => ?_⟩
      have hrows : r' ∈ updateByKey RefreshToken.id rt.id
          (fun t => { t with isRevoked := true, lastUsedAt := some now }) db.refreshTokens
          ++ [rotatedToken settings crypto now draws rt] := by
        rw [rotate, refreshTokens_moveSession] at hr'
        exact hr'
      rw [List.mem_append, List.mem_singleton, mem_updateByKey] at hrows
      rcases hrows with ⟨r, hr, rfl⟩ | rfl
      · refine Or.inl ⟨r, hr, ?_⟩
        split
        · exact ⟨rfl, rfl, rfl, rfl, fun _ => rfl⟩
        · exact hsame r
      · exact Or.inr ⟨_, hdraws, newToken_rotatedToken _ _, rfl⟩
  | @ends p q htokens hsessions =>
      refine ⟨"", fun r' hr' => ?_⟩
      rw [htokens, AuthDb.mem_revokeWhere] at hr'
      obtain ⟨r, hr, rfl⟩ := hr'
      refine Or.inl ⟨r, hr, ?_⟩
      split
      · exact ⟨rfl, rfl, rfl, rfl, fun _ => rfl⟩
      · exact hsame r
  | purges htokens hsessions =>
      exact ⟨"", fun r' hr' => Or.inl ⟨r', htokens.subset hr', hsame r'⟩⟩

/-- **Where a session comes from**: it was there, the request moved it to the new token, or the
request opened it. -/
lemma TokenWrite.session_origin (h : TokenWrite settings crypto now draws? db t) :
    ∃ userId, ∀ s' ∈ t.sessions, s' ∈ db.sessions ∨ ∃ draws, draws? = some draws ∧
      s'.refreshTokenId = draws.refreshTokenId ∧ s'.lastActiveAt = now ∧
      ((∃ s ∈ db.sessions, s'.id = s.id ∧ s'.userId = s.userId) ∨
        (s'.id = draws.sessionId ∧ s'.userId = userId)) := by
  cases h with
  | issues hdraws h =>
      obtain ⟨user, remember, -, hsessions⟩ := h.issued
      refine ⟨user.id, fun s' hs' => ?_⟩
      rw [hsessions, List.mem_append, List.mem_singleton] at hs'
      rcases hs' with hold | rfl
      · exact Or.inl hold
      · exact Or.inr ⟨_, hdraws, rfl, rfl, Or.inr ⟨rfl, rfl⟩⟩
  | @rotates draws rt sess hdraws hrt hsess ht =>
      subst ht
      refine ⟨"", fun s' hs' => ?_⟩
      cases sess with
      | none => exact Or.inl hs'
      | some s₀ =>
          have hrows : s' ∈ updateByKey Session.id s₀.id
              (fun s => { s with refreshTokenId := draws.refreshTokenId, lastActiveAt := now })
              db.sessions := hs'
          obtain ⟨s, hs, rfl⟩ := (mem_updateByKey _).mp hrows
          split
          · exact Or.inr ⟨draws, hdraws, rfl, rfl, Or.inl ⟨s, hs, rfl, rfl⟩⟩
          · exact Or.inl hs
  | @ends p q htokens hsessions =>
      refine ⟨"", fun s' hs' => ?_⟩
      rw [hsessions] at hs'
      exact Or.inl (List.mem_of_mem_filter hs')
  | purges htokens hsessions => exact ⟨"", fun s' hs' => Or.inl (hsessions ▸ hs')⟩

end

/-! ### The system -/

/-- A request of a client, a run of a clean-up job, or nothing while time passes. -/
inductive ServiceRequest where
  | auth (request : AuthRequest) (h : OtherKeepsLinks request)
  | forgotPassword (d : ResetDraws) (email : String)
  | sendInvite (token : Option Payload) (d : InviteDraws) (request : SendInviteRequest)
  | batchSendInvites (token : Option Payload) (draws : ℕ → InviteDraws)
      (request : BatchInviteRequest)
  | completeOnboarding (token : Option Payload) (draws : ℕ → InviteDraws) (tenantId : String)
      (request : CompleteOnboardingRequest)
  | cancelInvite (token : Option Payload) (inviteId : String)
  | resendInvite (token : Option Payload) (raw inviteId : String)
  | expireInvitations
  | expirePasswordResetTokens
  | purgeRevokedRefreshTokens
  | pass

/-- What a request draws for the session that it opens or rotates. -/
def ServiceRequest.draws? : ServiceRequest → Option Draws
  | auth request _ => request.draws?
  | _ => none

section

variable (settings : Settings) (crypto : Crypto)

/-- A request in its transaction. -/
def serve (now : Time) (w : World) : ServiceRequest → World
  | .auth request _ => perform settings crypto now w request
  | .forgotPassword d email => { w with db := (getDb (forgotPassword crypto now d email) w.db).2 }
  | .sendInvite token d request =>
      (getDbCached (withCurrentUser settings now token
        (sendInviteEndpoint crypto now d request)) w).2
  | .batchSendInvites token draws request =>
      (getDbCached (withCurrentUser settings now token
        (batchInviteEndpoint crypto now draws request)) w).2
  | .completeOnboarding token draws tenantId request =>
      (getDbCached (withCurrentUser settings now token
        (completeOnboardingEndpoint crypto now draws tenantId request)) w).2
  | .cancelInvite token inviteId =>
      (getDbCached (withCurrentUser settings now token (cancelInvite inviteId)) w).2
  | .resendInvite token raw inviteId =>
      (getDbCached (withCurrentUser settings now token
        (resendInvite crypto now raw inviteId)) w).2
  | .expireInvitations => { w with db := expireInvitations now w.db }
  | .expirePasswordResetTokens => { w with db := expirePasswordResetTokens now w.db }
  | .purgeRevokedRefreshTokens => { w with db := purgeRevokedRefreshTokens now w.db }
  | .pass => w

/-- **Any request or job** writes to the refresh tokens and the sessions in one of the ways above. -/
lemma serve_tokens (now : Time) (w : World) (request : ServiceRequest) :
    TokenWrite settings crypto now request.draws? w.db
      (serve settings crypto now w request).db := by
  have hsame : ∀ {α : Type} {token : Option Payload} {body : User → Request α},
      (∀ user, (body user).Keeps SameCredentials) →
      TokenWrite settings crypto now none w.db
        (getDbCached (withCurrentUser settings now token body) w).2.db := by
    intro α token body hbody
    have hkeeps : SameCredentials w.db
        (getDbCached (withCurrentUser settings now token body) w).2.db :=
      getDbCached_keeps (withCurrentUser_keeps hbody) w
    exact .of_sameTokens hkeeps.toSameTokens
  cases request with
  | auth request h => exact perform_tokens w request
  | forgotPassword d email =>
      exact .of_sameTokens (Tx.keeps_commit (tokens_forgotPassword d email) w.db)
  | sendInvite token d request => exact hsame (credentials_sendInviteEndpoint d request)
  | batchSendInvites token draws request =>
      exact hsame (credentials_batchInviteEndpoint draws request)
  | completeOnboarding token draws tenantId request =>
      exact hsame (credentials_completeOnboardingEndpoint draws tenantId request)
  | cancelInvite token inviteId => exact hsame (credentials_cancelInvite inviteId)
  | resendInvite token raw inviteId => exact hsame (credentials_resendInvite raw inviteId)
  | expireInvitations => exact .of_same rfl rfl
  | expirePasswordResetTokens => exact .of_same rfl rfl
  | purgeRevokedRefreshTokens => exact .purges List.filter_sublist rfl
  | pass => exact .of_same rfl rfl

/-- A request, so many microseconds after the one before. -/
structure ServiceAction where
  wait : ℕ
  request : ServiceRequest

/-- When an action happens. -/
def ServiceAction.arrival (st : AuthState) (a : ServiceAction) : Time := st.clock + a.wait

def serviceStep (st : AuthState) (a : ServiceAction) : AuthState where
  world := serve settings crypto (a.arrival st) st.world a.request
  clock := a.arrival st

end

end EclServer.Auth
