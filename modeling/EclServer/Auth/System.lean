import EclServer.Auth.Accounts
import EclServer.Library.Run

/-!
The authentication services as one system: any requests, one after another.

* `SameTokens`, `OpensSession`, `IssuesSession`: what a request does to the refresh tokens, the
  sessions and the blacklist, for the requests that sign in or touch none of them.
* `AuthRequest`, `perform`, `authStep`: a request of any client, task or other service, some time
  after the one before.
-/

namespace EclServer.Auth

open EclServer.Library

/-! ### Requests that leave the tokens alone, and requests that sign in -/

/-- The refresh tokens and the sessions are the same, and no blacklist row is gone. -/
structure SameTokens (s t : AuthDb) : Prop where
  tokens : t.refreshTokens = s.refreshTokens
  sessions : t.sessions = s.sessions
  blacklist : s.tokenBlacklist ⊆ t.tokenBlacklist

namespace SameTokens

lemma refl (s : AuthDb) : SameTokens s s := ⟨rfl, rfl, List.Subset.refl _⟩

lemma trans {s t u : AuthDb} (h : SameTokens s t) (h' : SameTokens t u) : SameTokens s u :=
  ⟨h'.tokens.trans h.tokens, h'.sessions.trans h.sessions, fun _ hx => h'.blacklist (h.blacklist hx)⟩

instance : Std.Refl SameTokens := ⟨refl⟩

instance : IsTrans AuthDb SameTokens := ⟨fun _ _ _ h h' => h.trans h'⟩

end SameTokens

/-- One token and one session of it are new, both with the ids drawn for them. -/
structure OpensSession (now : Time) (draws : Draws) (s t : AuthDb) : Prop where
  opened : ∃ token session, t.refreshTokens = s.refreshTokens ++ [token] ∧
    t.sessions = s.sessions ++ [session] ∧ token.id = draws.refreshTokenId ∧
    token.isRevoked = false ∧ session.id = draws.sessionId ∧
    session.refreshTokenId = draws.refreshTokenId ∧ session.userId = token.userId ∧
    session.lastActiveAt = now
  blacklist : s.tokenBlacklist ⊆ t.tokenBlacklist

/-- The token and the session are those of `_create_session_tokens` for some user. -/
structure IssuesSession (settings : Settings) (crypto : Crypto) (now : Time) (draws : Draws)
    (s t : AuthDb) : Prop where
  issued : ∃ user remember,
    t.refreshTokens = s.refreshTokens ++ [newRefreshToken settings crypto now draws user remember] ∧
      t.sessions = s.sessions ++ [newSession now draws user]
  blacklist : s.tokenBlacklist ⊆ t.tokenBlacklist

namespace IssuesSession

variable {settings : Settings} {crypto : Crypto} {now : Time} {draws : Draws} {s t u : AuthDb}

lemma of_same_left (h : SameTokens s t) (h' : IssuesSession settings crypto now draws t u) :
    IssuesSession settings crypto now draws s u where
  issued := by
    obtain ⟨user, remember, htokens, hsessions⟩ := h'.issued
    exact ⟨user, remember, h.tokens ▸ htokens, h.sessions ▸ hsessions⟩
  blacklist := fun _ hx => h'.blacklist (h.blacklist hx)

lemma of_same_right (h : IssuesSession settings crypto now draws s t) (h' : SameTokens t u) :
    IssuesSession settings crypto now draws s u where
  issued := by
    obtain ⟨user, remember, htokens, hsessions⟩ := h.issued
    exact ⟨user, remember, h'.tokens.trans htokens, h'.sessions.trans hsessions⟩
  blacklist := fun _ hx => h'.blacklist (h.blacklist hx)

lemma opens (h : IssuesSession settings crypto now draws s t) : OpensSession now draws s t where
  opened := by
    obtain ⟨user, remember, htokens, hsessions⟩ := h.issued
    exact ⟨_, _, htokens, hsessions, rfl, rfl, rfl, rfl, rfl, rfl⟩
  blacklist := h.blacklist

end IssuesSession

section

variable {settings : Settings} {crypto : Crypto} {now : Time} {draws : Draws} {db t : AuthDb}

lemma keeps_logEvent (entry : AuditLog) : (logEvent entry).Keeps SameTokens :=
  Tx.keeps_modify fun _ => ⟨rfl, rfl, List.Subset.refl _⟩

lemma keeps_queueEmailInOutbox (taskName : String) (payload : List (String × String)) :
    (queueEmailInOutbox taskName payload).Keeps SameTokens :=
  Tx.keeps_modify fun _ => ⟨rfl, rfl, List.Subset.refl _⟩

/-- A body that opens a session and then only logs and queues. -/
lemma issues_createSessionTokens {α : Type} {user : User} {membership : TenantMembership}
    {tenant : Tenant} {remember : Bool} {k : AuthResponse → Request α} {a : α}
    (hk : ∀ resp, (k resp).Keeps SameTokens)
    (h : Tx.exec (createSessionTokens settings crypto now draws user membership tenant remember
      >>= k) db = (.ok a, t)) : IssuesSession settings crypto now draws db t := by
  obtain ⟨resp, u, hcreate, hrest⟩ := Tx.exec_bind_eq_ok.mp h
  obtain ⟨rfl, -, -⟩ := exec_createSessionTokens hcreate
  refine IssuesSession.of_same_right ?_ (hk resp _ a t hrest)
  exact ⟨⟨user, remember, rfl, rfl⟩, List.Subset.refl _⟩

lemma issues_registerUser {d : RegisterDraws} {request : RegisterRequest} {resp : AuthResponse}
    (h : Tx.exec (registerUser settings crypto now d request) db = (.ok resp, t)) :
    IssuesSession settings crypto now d.draws db t := by
  unfold registerUser at h
  split at h
  · simp at h
  rw [Tx.exec_get_bind, Tx.exec_ite] at h
  split at h
  · simp at h
  rw [Tx.exec_modify_bind] at h
  refine IssuesSession.of_same_left (t := addRegistered crypto now d request db)
    ⟨rfl, rfl, List.Subset.refl _⟩ (issues_createSessionTokens (fun resp => ?_) h)
  exact Tx.keeps_bind (keeps_logEvent _) fun _ =>
    Tx.keeps_bind (keeps_queueEmailInOutbox _ _) fun _ =>
      Tx.keeps_pure _

lemma opens_registerUser {d : RegisterDraws} {request : RegisterRequest} {resp : AuthResponse}
    (h : Tx.exec (registerUser settings crypto now d request) db = (.ok resp, t)) :
    OpensSession now d.draws db t :=
  (issues_registerUser h).opens

/-- A login opens a session, or gives a challenge and none. -/
lemma issues_loginUser {request : LoginRequest} {resp : LoginResponse}
    (h : Tx.exec (loginUser settings crypto now draws request) db = (.ok resp, t)) :
    SameTokens db t ∨ IssuesSession settings crypto now draws db t := by
  obtain ⟨user, membership, tenant, _, _, _, _, ⟨_, rfl, _⟩ | ⟨_, r, u, hcreate, rfl, _⟩⟩ :=
    exec_loginUser_ok h
  · exact Or.inl ⟨rfl, rfl, List.Subset.refl _⟩
  · refine Or.inr (IssuesSession.of_same_left (t := clearFailures db user now)
      ⟨rfl, rfl, List.Subset.refl _⟩ (IssuesSession.of_same_right (t := u) ?_
        ⟨rfl, rfl, List.Subset.refl _⟩))
    obtain ⟨rfl, -, -⟩ := exec_createSessionTokens hcreate
    exact ⟨⟨_, _, rfl, rfl⟩, List.Subset.refl _⟩

lemma opens_loginUser {request : LoginRequest} {resp : LoginResponse}
    (h : Tx.exec (loginUser settings crypto now draws request) db = (.ok resp, t)) :
    SameTokens db t ∨ OpensSession now draws db t :=
  (issues_loginUser h).imp_right IssuesSession.opens

lemma keeps_loadInvitation (token : String) :
    (loadInvitation crypto now token).Keeps SameTokens := by
  refine Tx.keeps_bind Tx.keeps_get fun db => ?_
  split
  · exact Tx.keeps_throw _
  · exact Tx.keeps_ite (Tx.keeps_throw _)
      (Tx.keeps_ite (Tx.keeps_throw _) (Tx.keeps_pure _))

lemma keeps_inviteAccount (inv : Invitation) (request : AcceptInviteRequest) :
    (inviteAccount crypto draws inv request).Keeps SameTokens := by
  refine Tx.keeps_bind Tx.keeps_get fun db => ?_
  split
  · exact Tx.keeps_ite (Tx.keeps_pure _) (Tx.keeps_throw _)
  · exact Tx.keeps_bind (Tx.keeps_modify fun s => ⟨rfl, rfl, List.Subset.refl _⟩)
      fun _ => Tx.keeps_pure _

lemma keeps_checkNotMember (user : User) (inv : Invitation) :
    (checkNotMember user inv).Keeps SameTokens := by
  refine Tx.keeps_bind Tx.keeps_get fun db => ?_
  split
  · exact Tx.keeps_pure _
  · exact Tx.keeps_throw _
  · exact Tx.keeps_throw _

lemma keeps_inviteTenant (inv : Invitation) : (inviteTenant inv).Keeps SameTokens := by
  refine Tx.keeps_bind Tx.keeps_get fun db => ?_
  split
  · exact Tx.keeps_throw _
  · exact Tx.keeps_pure _

lemma issues_acceptInvite {request : AcceptInviteRequest} {resp : AuthResponse}
    (h : Tx.exec (acceptInvite settings crypto now draws request) db = (.ok resp, t)) :
    IssuesSession settings crypto now draws db t := by
  obtain ⟨inv, u₁, hinv, hrest⟩ := Tx.exec_bind_eq_ok.mp h
  have h₁ := keeps_loadInvitation _ _ _ _ hinv
  split at hrest
  · simp at hrest
  obtain ⟨⟨user, isPlatformAdmin⟩, u₂, huser, hrest⟩ := Tx.exec_bind_eq_ok.mp hrest
  have h₂ := keeps_inviteAccount _ _ _ _ _ huser
  obtain ⟨_, u₃, hmember, hrest⟩ := Tx.exec_bind_eq_ok.mp hrest
  have h₃ := keeps_checkNotMember _ _ _ _ _ hmember
  rw [Tx.exec_modify_bind] at hrest
  obtain ⟨tenant, u₄, htenant, hrest⟩ := Tx.exec_bind_eq_ok.mp hrest
  have h₄ : SameTokens u₃ u₄ :=
    SameTokens.trans (t := addInvited now draws user inv u₃) ⟨rfl, rfl, List.Subset.refl _⟩
      (keeps_inviteTenant _ _ _ _ htenant)
  refine IssuesSession.of_same_left (((h₁.trans h₂).trans h₃).trans h₄)
    (issues_createSessionTokens (fun resp => ?_) hrest)
  refine Tx.keeps_bind (keeps_checkUserOut _) fun _ => ?_
  exact Tx.keeps_bind (keeps_logEvent _) fun _ =>
    Tx.keeps_bind (keeps_queueEmailInOutbox _ _) fun _ =>
      Tx.keeps_pure _

lemma opens_acceptInvite {request : AcceptInviteRequest} {resp : AuthResponse}
    (h : Tx.exec (acceptInvite settings crypto now draws request) db = (.ok resp, t)) :
    OpensSession now draws db t :=
  (issues_acceptInvite h).opens

/-! ### Requests that sign out -/

/-- The tokens that satisfy `p` are revoked, the sessions that satisfy `q` are gone. -/
structure EndsSessions (p : RefreshToken → Bool) (q : Session → Bool) (s t : AuthDb) : Prop where
  tokens : t.refreshTokens = (s.revokeWhere p).refreshTokens
  sessions : t.sessions = (s.deleteSessions q).sessions
  blacklist : s.tokenBlacklist ⊆ t.tokenBlacklist

lemma EndsSessions.of_same_left {p : RefreshToken → Bool} {q : Session → Bool} {s t u : AuthDb}
    (h : SameTokens s t) (h' : EndsSessions p q t u) : EndsSessions p q s u where
  tokens := by
    rw [h'.tokens]
    simp only [AuthDb.revokeWhere, h.tokens]
  sessions := by
    rw [h'.sessions]
    simp only [AuthDb.deleteSessions, h.sessions]
  blacklist := fun _ hx => h'.blacklist (h.blacklist hx)

lemma keeps_blacklistToken (entry : TokenBlacklist) :
    (blacklistToken entry).Keeps SameTokens := by
  refine Tx.keeps_bind Tx.keeps_get fun db => ?_
  exact Tx.keeps_ite (Tx.keeps_throw _)
    (Tx.keeps_modify fun s => ⟨rfl, rfl, List.subset_append_left _ _⟩)

lemma keeps_blacklistAccess (payload : Option Payload) :
    (blacklistAccess payload).Keeps SameTokens := by
  unfold blacklistAccess
  split
  · exact Tx.keeps_pure _
  · exact Tx.keeps_ite (keeps_blacklistToken _) (Tx.keeps_pure _)

/-- A logout ends at most the session of the token it presents. -/
lemma ends_logoutUser {payload : Option Payload} {raw : Option String} {r : Unit}
    (h : Tx.exec (logoutUser crypto payload raw) db = (.ok r, t)) :
    SameTokens db t ∨ ∃ rt ∈ db.refreshTokens,
      EndsSessions (fun u => u.id = rt.id) (fun s => s.refreshTokenId = rt.id) db t := by
  obtain ⟨_, u₁, hblacklist, hrest⟩ := Tx.exec_bind_eq_ok.mp h
  obtain ⟨_, u₂, hend, hlog⟩ := Tx.exec_bind_eq_ok.mp hrest
  have hfirst := keeps_blacklistAccess _ _ _ _ hblacklist
  have hlast := keeps_logEvent _ _ _ _ hlog
  rcases exec_endPresented_ok hend with rfl | ⟨rt, hrt, rfl⟩
  · exact Or.inl (hfirst.trans hlast)
  · refine Or.inr ⟨rt, hfirst.tokens ▸ hrt, EndsSessions.of_same_left hfirst ⟨?_, ?_, ?_⟩⟩
    · rw [hlast.tokens, refreshTokens_endSession]
      simp [updateByKey, AuthDb.revokeWhere]
    · rw [hlast.sessions]
      simp [endSession, AuthDb.deleteSessions]
    · exact hlast.blacklist

/-- A reset ends every session of the account. -/
lemma ends_resetPassword {request : ResetPasswordRequest} {r : Unit}
    (h : Tx.exec (resetPassword crypto now request) db = (.ok r, t)) :
    ∃ userId, EndsSessions (fun u => u.userId = userId) (fun s => s.userId = userId) db t := by
  obtain ⟨prt, u₁, hprt, hrest⟩ := Tx.exec_bind_eq_ok.mp h
  obtain ⟨user, u₂, huser, hrest⟩ := Tx.exec_bind_eq_ok.mp hrest
  have hload : (loadResetToken crypto now request.token).Keeps SameTokens := by
    refine Tx.keeps_bind Tx.keeps_get fun db => ?_
    split
    · exact Tx.keeps_throw _
    · exact Tx.keeps_ite (Tx.keeps_throw _) (Tx.keeps_pure _)
  have howner : (resetUser prt).Keeps SameTokens := by
    refine Tx.keeps_bind Tx.keeps_get fun db => ?_
    split
    · exact Tx.keeps_throw _
    · exact Tx.keeps_pure _
  have hread : SameTokens db u₂ := (hload _ _ _ hprt).trans (howner _ _ _ huser)
  split at hrest
  · simp at hrest
  simp only [Tx.exec_modify_bind, logEvent, queueEmailInOutbox, Tx.exec_modify,
    Prod.mk.injEq] at hrest
  refine ⟨user.id, EndsSessions.of_same_left hread ?_⟩
  rw [← hrest.2]
  exact ⟨rfl, rfl, List.Subset.refl _⟩

/-- Revoking one session ends the session of that id and its token. -/
lemma ends_revokeSession {userId sessionId : String} {current : Option String} {r : Unit}
    (h : Tx.exec (revokeSession userId sessionId current) db = (.ok r, t)) :
    ∃ sess ∈ db.sessions, sess.id = sessionId ∧
      EndsSessions (fun u => u.id = sess.refreshTokenId) (fun s => s.id = sessionId) db t := by
  rw [revokeSession, Tx.exec_ite] at h
  split at h
  · simp at h
  rw [Tx.exec_get_bind] at h
  split at h
  · simp at h
  rename_i sess hsess
  have hfound := List.find?_some hsess
  simp only [decide_eq_true_eq] at hfound
  simp only [Tx.exec_modify_bind, logEvent, Tx.exec_modify, Prod.mk.injEq] at h
  refine ⟨sess, List.mem_of_find?_eq_some hsess, hfound.1, ?_⟩
  rw [← h.2]
  exact ⟨rfl, rfl, List.Subset.refl _⟩

/-- The sessions that `revoke_other_sessions` ends. -/
def otherSessions (db : AuthDb) (userId : String) (current : Option String) : List Session :=
  db.sessions.filter fun s => s.userId = userId ∧ some s.id ≠ current

lemma ends_revokeOtherSessions {userId : String} {current : Option String} {n : ℕ}
    (h : Tx.exec (revokeOtherSessions userId current) db = (.ok n, t)) :
    SameTokens db t ∨
      EndsSessions (fun u => u.id ∈ (otherSessions db userId current).map (·.refreshTokenId))
        (fun s => s.id ∈ (otherSessions db userId current).map (·.id)) db t := by
  rw [revokeOtherSessions, Tx.exec_get_bind, Tx.exec_ite] at h
  split at h
  · simp only [Tx.exec_pure, Prod.mk.injEq] at h
    exact Or.inl (h.2 ▸ SameTokens.refl _)
  · simp only [Tx.exec_modify_bind, logEvent, Tx.exec_pure, Prod.mk.injEq] at h
    refine Or.inr ?_
    rw [← h.2]
    exact ⟨rfl, rfl, List.Subset.refl _⟩

/-! ### Requests over both stores -/

/-- The databases of two worlds. -/
def SameTokensCached (w w' : World) : Prop := SameTokens w.db w'.db

lemma exec_onDb_ok {α : Type} {body : Request α} {w w' : World} {a : α} :
    Tx.exec (onDb body) w = (.ok a, w')
      ↔ ∃ db', Tx.exec body w.db = (.ok a, db') ∧ w' = { w with db := db' } := by
  simp only [onDb, Tx.exec_get_bind]
  rcases hbody : Tx.exec body w.db with ⟨answer, db'⟩
  simp only [Tx.exec_set_bind, Tx.exec_liftM, Prod.mk.injEq]
  constructor
  · rintro ⟨hanswer, rfl⟩
    exact ⟨db', ⟨hanswer, rfl⟩, rfl⟩
  · rintro ⟨_, ⟨hanswer, rfl⟩, rfl⟩
    exact ⟨hanswer, rfl⟩

lemma keeps_onDb {α : Type} {body : Request α} (h : body.Keeps SameTokens) :
    (onDb body).Keeps SameTokensCached := by
  intro w a w' hexec
  obtain ⟨db', hbody, rfl⟩ := exec_onDb_ok.mp hexec
  exact h _ _ _ hbody

instance : Std.Refl SameTokensCached := ⟨fun w => SameTokens.refl w.db⟩

instance : IsTrans World SameTokensCached := ⟨fun _ _ _ h h' => SameTokens.trans h h'⟩

lemma keeps_blacklistInRedis (jti : String) (expiresAt : Time) :
    (blacklistInRedis now jti expiresAt).Keeps SameTokensCached := by
  intro w a w' h
  rw [blacklistInRedis, Tx.exec_get_bind, Tx.exec_ite] at h
  split at h
  · simp only [Tx.exec_set, Prod.mk.injEq] at h
    exact h.2 ▸ SameTokens.refl w.db
  · simp at h

lemma keeps_blacklistAccessInRedis (payload : Option Payload) :
    (blacklistAccessInRedis now payload).Keeps SameTokensCached := by
  unfold blacklistAccessInRedis
  split
  · exact keeps_blacklistInRedis _ _
  · exact Tx.keeps_pure _

lemma keeps_loadChallenge (token : Option Payload) :
    (loadChallenge settings now token).Keeps SameTokensCached := by
  refine Tx.keeps_bind Tx.keeps_get fun w => ?_
  split
  · exact Tx.keeps_throw _
  · exact Tx.keeps_ite (Tx.keeps_throw _) (Tx.keeps_ite (Tx.keeps_throw _) (Tx.keeps_pure _))

lemma keeps_challengedUser (payload : Payload) :
    (challengedUser payload).Keeps SameTokensCached := by
  refine Tx.keeps_bind Tx.keeps_get fun w => ?_
  split
  · exact Tx.keeps_throw _
  · exact Tx.keeps_pure _

lemma keeps_checkCode (user : User) (code : String) :
    (checkCode crypto now user code).Keeps SameTokens := by
  refine Tx.keeps_ite ?_ ?_
  · split
    · exact Tx.keeps_bind (keeps_logEvent _) fun _ => Tx.keeps_throw _
    · exact Tx.keeps_bind (Tx.keeps_modify fun s => ⟨rfl, rfl, List.Subset.refl _⟩)
        fun _ => keeps_logEvent _
  · split
    · exact Tx.keeps_throw _
    · exact Tx.keeps_ite (keeps_logEvent _)
        (Tx.keeps_bind (keeps_logEvent _) fun _ => Tx.keeps_throw _)

lemma keeps_spendChallenge (payload : Payload) (user : User) :
    (spendChallenge now payload user).Keeps SameTokensCached :=
  Tx.keeps_ite (Tx.keeps_pure _)
    (Tx.keeps_bind (keeps_blacklistInRedis _ _) fun _ => keeps_onDb (keeps_blacklistToken _))

lemma issues_verifyMfa {request : MFAVerifyRequest} {w w' : World} {resp : AuthResponse}
    (h : Tx.exec (verifyMfa settings crypto now draws request) w = (.ok resp, w')) :
    IssuesSession settings crypto now draws w.db w'.db := by
  obtain ⟨payload, w₁, hload, hrest⟩ := Tx.exec_bind_eq_ok.mp h
  have h₁ := keeps_loadChallenge _ _ _ _ hload
  obtain ⟨user, w₂, huser, hrest⟩ := Tx.exec_bind_eq_ok.mp hrest
  have h₂ := keeps_challengedUser _ _ _ _ huser
  obtain ⟨_, w₃, hcode, hrest⟩ := Tx.exec_bind_eq_ok.mp hrest
  have h₃ := keeps_onDb (keeps_checkCode _ _) _ _ _ hcode
  obtain ⟨_, w₄, hspend, hopen⟩ := Tx.exec_bind_eq_ok.mp hrest
  have h₄ := keeps_spendChallenge _ _ _ _ _ hspend
  obtain ⟨db', hbody, rfl⟩ := exec_onDb_ok.mp hopen
  rw [openVerified, Tx.exec_get_bind] at hbody
  split at hbody
  · simp at hbody
  refine IssuesSession.of_same_left (((h₁.trans h₂).trans h₃).trans h₄)
    (issues_createSessionTokens (fun resp => ?_) hbody)
  exact Tx.keeps_bind (keeps_logEvent _) fun _ => Tx.keeps_pure _

lemma opens_verifyMfa {request : MFAVerifyRequest} {w w' : World} {resp : AuthResponse}
    (h : Tx.exec (verifyMfa settings crypto now draws request) w = (.ok resp, w')) :
    OpensSession now draws w.db w'.db :=
  (issues_verifyMfa h).opens

/-- A logout over both stores does what it does to the database. -/
lemma ends_logoutUserCached {token : Option Payload} {raw : Option String} {w w' : World} {r : Unit}
    (h : Tx.exec (logoutUserCached settings crypto now token raw) w = (.ok r, w')) :
    SameTokens w.db w'.db ∨ ∃ rt ∈ w.db.refreshTokens,
      EndsSessions (fun u => u.id = rt.id) (fun s => s.refreshTokenId = rt.id) w.db w'.db := by
  obtain ⟨_, w₁, hredis, hrest⟩ := Tx.exec_bind_eq_ok.mp h
  obtain ⟨db', hbody, rfl⟩ := exec_onDb_ok.mp hrest
  have hsame : SameTokens w.db w₁.db := keeps_blacklistAccessInRedis _ _ _ _ hredis
  rcases ends_logoutUser hbody with hkept | ⟨rt, hrt, hended⟩
  · exact Or.inl (hsame.trans hkept)
  · exact Or.inr ⟨rt, hsame.tokens ▸ hrt, EndsSessions.of_same_left hsame hended⟩

/-- A logout everywhere ends the account's sessions; it presents no refresh token. -/
lemma ends_logoutAllUser {userId : String} {token : Option Payload} {w w' : World} {r : Unit}
    (h : Tx.exec (logoutAllUser settings crypto now userId token) w = (.ok r, w')) :
    EndsSessions (fun u => u.userId = userId ∧ u.isRevoked = false) (fun s => s.userId = userId)
      w.db w'.db := by
  obtain ⟨_, w₁, hlogout, hrest⟩ := Tx.exec_bind_eq_ok.mp h
  obtain ⟨_, w₂, hrevoke, hdelete⟩ := Tx.exec_bind_eq_ok.mp hrest
  obtain ⟨db₂, hbody₂, rfl⟩ := exec_onDb_ok.mp hrevoke
  obtain ⟨db₃, hbody₃, rfl⟩ := exec_onDb_ok.mp hdelete
  simp only [Tx.exec_modify, Prod.mk.injEq, true_and] at hbody₂ hbody₃
  have hsame : SameTokens w.db w₁.db := by
    have hdb : (logoutUser crypto (decodeAccessToken settings now token).toOption none).Keeps
        SameTokens :=
      Tx.keeps_bind (keeps_blacklistAccess _) fun _ =>
        Tx.keeps_bind (Tx.keeps_pure _) fun _ => keeps_logEvent _
    have hboth : (logoutUserCached settings crypto now token none).Keeps SameTokensCached :=
      Tx.keeps_bind (keeps_blacklistAccessInRedis _) fun _ => keeps_onDb hdb
    exact hboth _ _ _ hlogout
  refine EndsSessions.of_same_left hsame ?_
  rw [← hbody₃, ← hbody₂]
  exact ⟨rfl, rfl, List.Subset.refl _⟩

end

/-! ### The system -/

/-- A write of another service, to none of the tables here. -/
structure OtherWrite where
  apply : AuthDb → AuthDb
  same : ∀ db, SameTokens db (apply db)

/-- A request of a client, a run of a clean-up task, or what happens to Redis. -/
inductive AuthRequest where
  | register (d : RegisterDraws) (request : RegisterRequest)
  | login (draws : Draws) (request : LoginRequest)
  | verifyMfa (draws : Draws) (request : MFAVerifyRequest)
  | acceptInvite (draws : Draws) (request : AcceptInviteRequest)
  | refresh (draws : Draws) (rawRefresh : String)
  | logout (token : Option Payload) (rawRefresh : Option String)
  | logoutAll (token : Option Payload)
  | revokeSession (token : Option Payload) (sessionId : String) (rawRefresh : Option String)
  | revokeOtherSessions (token : Option Payload) (rawRefresh : Option String)
  | changePassword (token : Option Payload) (order : QueryOrder RefreshToken)
      (request : ChangePasswordRequest)
  | resetPassword (request : ResetPasswordRequest)
  | purgeOldSessions
  | purgeExpiredTokenBlacklist
  | evict (jti : String)
  | redisUp (up : Bool)
  | other (w : OtherWrite)

/-- What a request draws for the session that it opens or rotates. -/
def AuthRequest.draws? : AuthRequest → Option Draws
  | register d _ => some d.draws
  | login draws _ => some draws
  | verifyMfa draws _ => some draws
  | acceptInvite draws _ => some draws
  | refresh draws _ => some draws
  | _ => none

section

variable (settings : Settings) (crypto : Crypto)

/-- An endpoint of a signed-in user. -/
def withCurrentUser {α : Type} (now : Time) (token : Option Payload) (body : User → Request α) :
    CachedRequest α := do
  let w ← get
  let user ← liftM (getCurrentUser settings now w token)
  onDb (body user)

/-- A request in its transaction. -/
def perform (now : Time) (w : World) : AuthRequest → World
  | .register d request =>
      { w with db := (getDb (registerUser settings crypto now d request) w.db).2 }
  | .login draws request =>
      { w with db := (getDb (loginUser settings crypto now draws request) w.db).2 }
  | .verifyMfa draws request => (getDbCached (verifyMfa settings crypto now draws request) w).2
  | .acceptInvite draws request =>
      { w with db := (getDb (acceptInvite settings crypto now draws request) w.db).2 }
  | .refresh draws rawRefresh =>
      { w with db := (getDb (refreshTokens settings crypto now draws rawRefresh) w.db).2 }
  | .logout token rawRefresh =>
      (getDbCached (logoutUserCached settings crypto now token rawRefresh) w).2
  | .logoutAll token => (getDbCached (logoutAllEndpoint settings crypto now token) w).2
  | .revokeSession token sessionId rawRefresh =>
      (getDbCached (withCurrentUser settings now token fun user =>
        deleteSessionEndpoint crypto user.id sessionId rawRefresh) w).2
  | .revokeOtherSessions token rawRefresh =>
      (getDbCached (withCurrentUser settings now token fun user =>
        deleteOtherSessionsEndpoint crypto user.id rawRefresh) w).2
  | .changePassword token order request =>
      (getDbCached (withCurrentUser settings now token fun user =>
        changePassword crypto order user request) w).2
  | .resetPassword request => { w with db := (getDb (resetPassword crypto now request) w.db).2 }
  | .purgeOldSessions => { w with db := purgeOldSessions now w.db }
  | .purgeExpiredTokenBlacklist => { w with db := purgeExpiredTokenBlacklist now w.db }
  | .evict jti => { w with redis := w.redis.evict jti }
  | .redisUp up => { w with redis := { w.redis with up := up } }
  | .other write => { w with db := write.apply w.db }

/-- The stores, and when the last request was. -/
structure AuthState where
  world : World
  clock : Time

/-- A request, so many microseconds after the one before. -/
structure AuthAction where
  wait : ℕ
  request : AuthRequest

/-- When an action happens. -/
def AuthState.arrival (st : AuthState) (a : AuthAction) : Time := st.clock + a.wait

def authStep (st : AuthState) (a : AuthAction) : AuthState where
  world := perform settings crypto (st.arrival a) st.world a.request
  clock := st.arrival a

end

section

variable {settings : Settings} {crypto : Crypto} {now : Time}

lemma getDbCached_snd {α : Type} (body : CachedRequest α) (w : World) :
    (getDbCached body w).2.db = w.db ∨
      ∃ a, Tx.exec body w = (.ok a, (getDbCached body w).2) := by
  rcases Tx.commitWith_snd (fun before raised => { before with redis := raised.redis }) body w with
    ⟨t, ht⟩ | hok
  · refine Or.inl ?_
    rw [getDbCached, ht]
  · exact Or.inr hok

lemma exec_withCurrentUser_ok {α : Type} {token : Option Payload} {body : User → Request α}
    {w w' : World} {a : α}
    (h : Tx.exec (withCurrentUser settings now token body) w = (.ok a, w')) :
    ∃ user db', getCurrentUser settings now w token = .ok user ∧
      Tx.exec (body user) w.db = (.ok a, db') ∧ w' = { w with db := db' } := by
  rw [withCurrentUser, Tx.exec_get_bind] at h
  obtain ⟨user, w₁, huser, hbody⟩ := Tx.exec_bind_eq_ok.mp h
  simp only [Tx.exec_liftM, Prod.mk.injEq] at huser
  obtain ⟨hok, rfl⟩ := huser
  obtain ⟨db', hexec, rfl⟩ := exec_onDb_ok.mp hbody
  exact ⟨user, db', hok, hexec, rfl⟩

end

end EclServer.Auth
