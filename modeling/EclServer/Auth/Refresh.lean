import EclServer.Auth.Login
import EclServer.Library.Table

/-!
Refresh-token rotation and logout: `refresh_tokens`, `_revoke_family` and `logout_user` of
`app/modules/auth/service.py`.

* `loadToken`, `loadMember`, `loadSession`: the reads of a refresh, each with the checks made
  on what it reads.
* `rotate`: the writes of a refresh, which reach the database together at its commit.
* `refreshTokens`, `logoutUser`: the two services.
* `getDb_refreshTokens_reuse`, `exec_refreshTokens_reads`, `exec_refreshTokens_ok`,
  `exec_logoutUser_ok`: what they need and what they do to the refresh tokens.
-/

namespace EclServer.Auth

open EclServer.Library

/-! ### Errors -/

def refreshInvalid : ECLException :=
  { code := "REFRESH_EXPIRED", detail := "Refresh token invalid or expired.", statusCode := 401 }

def tokenReuse : ECLException :=
  { code := "TOKEN_REUSE", detail := "Refresh token reuse detected. Please sign in again."
    statusCode := 401 }

def refreshExpired : ECLException :=
  { code := "REFRESH_EXPIRED", detail := "Refresh token has expired.", statusCode := 401 }

def noActiveWorkspace : ECLException :=
  { code := "NOT_TENANT_MEMBER", detail := "No active workspace.", statusCode := 403 }

def idleSessionExpired : ECLException :=
  { code := "IDLE_SESSION_EXPIRED"
    detail := "Session expired due to inactivity. Please sign in again."
    statusCode := 401 }

namespace AuthDb

/-- The refresh token with a hash; the column is unique. -/
def tokenByHash (db : AuthDb) (tokenHash : String) : Option RefreshToken :=
  db.refreshTokens.find? fun t => t.tokenHash = tokenHash

/-- Write back one refresh token. -/
def updateRefreshToken (db : AuthDb) (id : String) (f : RefreshToken → RefreshToken) : AuthDb :=
  { db with refreshTokens := updateByKey RefreshToken.id id f db.refreshTokens }

/-- Write back one session. -/
def updateSession (db : AuthDb) (id : String) (f : Session → Session) : AuthDb :=
  { db with sessions := updateByKey Session.id id f db.sessions }

@[simp] lemma refreshTokens_updateSession (db : AuthDb) (id : String) (f : Session → Session) :
    (db.updateSession id f).refreshTokens = db.refreshTokens := rfl

@[simp] lemma refreshTokens_logEvent (db : AuthDb) (e : AuditLog) :
    (db.logEvent e).refreshTokens = db.refreshTokens := rfl

lemma mem_of_tokenByHash {db : AuthDb} {tokenHash : String} {rt : RefreshToken}
    (h : db.tokenByHash tokenHash = some rt) : rt ∈ db.refreshTokens :=
  List.mem_of_find?_eq_some h

end AuthDb

section

variable (settings : Settings) (crypto : Crypto) (now : Time) (draws : Draws)

/-! ### Rotation -/

/-- `_revoke_family`. -/
def revokeFamily (familyId : String) : Request Unit :=
  modify fun db => { db with refreshTokens := db.refreshTokens.map fun t =>
    if t.tokenFamilyId = familyId then { t with isRevoked := true } else t }

/-- The token row a refresh presents, unless it is unknown, revoked or expired. -/
def loadToken (rawRefresh : String) : Request RefreshToken := do
  let db ← get
  match db.tokenByHash (crypto.hashToken rawRefresh) with
  | none => throw refreshInvalid
  | some rt =>
      if rt.isRevoked then do
        revokeFamily rt.tokenFamilyId
        throw tokenReuse
      else if rt.expiresAt < now then throw refreshExpired
      else return rt

/-- The owner of a token and the workspace to sign in to. -/
def loadMember (rt : RefreshToken) : Request (User × TenantMembership × Tenant) := do
  let db ← get
  match db.users.find? fun u => u.id = rt.userId with
  | none => throw invalidCredentialsError
  | some user =>
      if user.isActive then
        match db.getMembership user.id none with
        | none => throw noActiveWorkspace
        | some (membership, tenant) => return (user, membership, tenant)
      else throw invalidCredentialsError

/-- The session of a token, unless it has been idle for too long. -/
def loadSession (rt : RefreshToken) : Request (Option Session) := do
  let db ← get
  match db.sessions.filter fun s => s.refreshTokenId = rt.id with
  | [] => return none
  | [sess] =>
      if minutes settings.sessionIdleTimeoutMinutes < now - sess.lastActiveAt then
        throw idleSessionExpired
      else return some sess
  | _ => throw unexpectedError

/-- The token that replaces `rt`: a sibling in its family, of the same user. -/
def rotatedToken (rt : RefreshToken) : RefreshToken :=
  { id := draws.refreshTokenId, userId := rt.userId, tokenFamilyId := rt.tokenFamilyId
    tokenHash := crypto.hashToken draws.rawRefresh
    expiresAt := now + days settings.jwtRefreshTokenExpireDays }

/-- The presented token is spent. -/
def spendToken (rt : RefreshToken) (db : AuthDb) : AuthDb :=
  db.updateRefreshToken rt.id fun t => { t with isRevoked := true, lastUsedAt := some now }

/-- Its successor is added. -/
def addSuccessor (rt : RefreshToken) (db : AuthDb) : AuthDb :=
  { db with refreshTokens := db.refreshTokens ++ [rotatedToken settings crypto now draws rt] }

/-- Its session moves on to the successor. -/
def moveSession (sess : Option Session) (db : AuthDb) : AuthDb :=
  sess.elim db fun s =>
    db.updateSession s.id fun s =>
      { s with refreshTokenId := draws.refreshTokenId, lastActiveAt := now }

/-- The writes of a refresh. -/
def rotate (rt : RefreshToken) (sess : Option Session) (db : AuthDb) : AuthDb :=
  moveSession now draws sess (addSuccessor settings crypto now draws rt (spendToken now rt db))

/-- `refresh_tokens`. -/
def refreshTokens (rawRefresh : String) : Request AuthResponse := do
  let rt ← loadToken crypto now rawRefresh
  let (user, membership, tenant) ← loadMember rt
  modify (spendToken now rt)
  modify (addSuccessor settings crypto now draws rt)
  let sess ← loadSession settings now rt
  modify (moveSession now draws sess)
  let access ← createAccessToken settings now draws (sessionPayload user membership tenant)
  return { accessToken := access
           expiresIn := settings.jwtAccessTokenExpireMinutes * 60
           user := userOut user membership tenant
           message := "Token refreshed"
           refreshCookie :=
            some (draws.rawRefresh, now + days settings.jwtRefreshTokenExpireDays) }

/-! ### Logout -/

/-- `blacklist_token`, its row: a second row for the same `jti` violates the primary key. -/
def blacklistToken (entry : TokenBlacklist) : Request Unit := do
  let db ← get
  if entry.jti ∈ db.tokenBlacklist.map (·.jti) then throw unexpectedError
  else modify fun db => { db with tokenBlacklist := db.tokenBlacklist ++ [entry] }

/-- The token is revoked and its sessions deleted. -/
def endSession (rt : RefreshToken) (db : AuthDb) : AuthDb :=
  { db.updateRefreshToken rt.id fun t => { t with isRevoked := true } with
    sessions := db.sessions.filter fun s => s.refreshTokenId ≠ rt.id }

/-- The access token of a logout is blacklisted, where it decodes. -/
def blacklistAccess (payload : Option Payload) : Request Unit :=
  match payload with
  | none => pure ()
  | some p =>
      if p.jti ≠ "" ∧ p.exp ≠ 0 ∧ p.sub ≠ "" then
        blacklistToken { jti := p.jti, userId := p.sub, expiresAt := seconds p.exp
                         reason := "logout" }
      else pure ()

/-- Its refresh token is ended, where there is one. -/
def endPresented (rawRefresh : Option String) : Request Unit :=
  match rawRefresh with
  | none => pure ()
  | some raw =>
      if raw = "" then pure ()
      else do
        let db ← get
        match db.tokenByHash (crypto.hashToken raw) with
        | none => pure ()
        | some rt => modify (endSession rt)

/-- `logout_user`. The payload is that of the access token, absent where it does not decode. -/
def logoutUser (payload : Option Payload) (rawRefresh : Option String) : Request Unit := do
  blacklistAccess payload
  endPresented crypto rawRefresh
  logEvent { eventType := "auth.logout"
             userId := (payload.map (·.sub)).filter fun sub => sub ≠ "" }

end

/-! ### What a refresh does -/

section

variable {settings : Settings} {crypto : Crypto} {now : Time} {draws : Draws} {db t : AuthDb}
  {rt : RefreshToken} {rawRefresh : String}

@[simp] lemma refreshTokens_moveSession (sess : Option Session) :
    (moveSession now draws sess db).refreshTokens = db.refreshTokens := by
  cases sess <;> rfl

/-- The tokens after a rotation: the spent one is revoked, its successor is new. -/
lemma mem_refreshTokens_rotate {sess : Option Session} {u : RefreshToken} :
    u ∈ (rotate settings crypto now draws rt sess db).refreshTokens
      ↔ (∃ v ∈ db.refreshTokens, (if v.id = rt.id then
          { v with isRevoked := true, lastUsedAt := some now } else v) = u) ∨
        u = rotatedToken settings crypto now draws rt := by
  rw [rotate, refreshTokens_moveSession]
  simp only [addSuccessor, spendToken, AuthDb.updateRefreshToken, List.mem_append,
    List.mem_singleton, mem_updateByKey]

lemma exec_loadToken_ok (h : Tx.exec (loadToken crypto now rawRefresh) db = (.ok rt, t)) :
    t = db ∧ db.tokenByHash (crypto.hashToken rawRefresh) = some rt ∧ rt.isRevoked = false ∧
      now ≤ rt.expiresAt := by
  simp only [loadToken, Tx.exec_get_bind] at h
  split at h
  · simp at h
  rename_i found hfound
  rw [Tx.exec_ite] at h
  split at h
  · simp [revokeFamily] at h
  rename_i hrevoked
  rw [Tx.exec_ite] at h
  split at h
  · simp at h
  rename_i hexpired
  simp only [Tx.exec_pure, Prod.mk.injEq, Except.ok.injEq] at h
  obtain ⟨rfl, rfl⟩ := h
  exact ⟨rfl, hfound, by simpa using hrevoked, not_lt.mp hexpired⟩

lemma exec_loadMember_ok {found : User × TenantMembership × Tenant}
    (h : Tx.exec (loadMember rt) db = (.ok found, t)) :
    t = db ∧ db.users.find? (fun u => u.id = rt.userId) = some found.1 ∧
      found.1.isActive = true ∧ db.getMembership found.1.id none = some found.2 := by
  simp only [loadMember, Tx.exec_get_bind] at h
  split at h
  · simp at h
  rename_i user huser
  rw [Tx.exec_ite] at h
  split at h
  case isFalse => simp at h
  rename_i hactive
  split at h
  · simp at h
  rename_i membership tenant hmember
  simp only [Tx.exec_pure, Prod.mk.injEq, Except.ok.injEq] at h
  obtain ⟨rfl, rfl⟩ := h
  exact ⟨rfl, huser, hactive, hmember⟩

lemma exec_loadSession_ok {sess : Option Session}
    (h : Tx.exec (loadSession settings now rt) db = (.ok sess, t)) :
    t = db ∧ db.sessions.filter (fun s => s.refreshTokenId = rt.id) = sess.toList := by
  simp only [loadSession, Tx.exec_get_bind] at h
  split at h
  · rename_i hnone
    simp only [Tx.exec_pure, Prod.mk.injEq, Except.ok.injEq] at h
    obtain ⟨rfl, rfl⟩ := h
    exact ⟨rfl, hnone⟩
  · rename_i found hone
    rw [Tx.exec_ite] at h
    split at h
    · simp at h
    · simp only [Tx.exec_pure, Prod.mk.injEq, Except.ok.injEq] at h
      obtain ⟨rfl, rfl⟩ := h
      exact ⟨rfl, hone⟩
  · simp at h

/-- Reading the session writes nothing. -/
lemma exec_loadSession_state (db : AuthDb) :
    (Tx.exec (loadSession settings now rt) db).2 = db := by
  simp only [loadSession, Tx.exec_get_bind]
  split
  · rfl
  · rw [Tx.exec_ite]
    split <;> rfl
  · rfl

/-- Only the sessions are read. -/
lemma exec_loadSession_congr {db' : AuthDb} (h : db'.sessions = db.sessions) :
    (Tx.exec (loadSession settings now rt) db').1 = (Tx.exec (loadSession settings now rt) db).1 := by
  simp only [loadSession, Tx.exec_get_bind, h]
  split
  · rfl
  · rw [Tx.exec_ite, Tx.exec_ite]
    split <;> rfl
  · rfl

/-- **Rollback**: a revoked token is answered `TOKEN_REUSE`, and nothing is written. -/
lemma getDb_refreshTokens_reuse
    (hrt : db.tokenByHash (crypto.hashToken rawRefresh) = some rt) (hrevoked : rt.isRevoked = true) :
    getDb (refreshTokens settings crypto now draws rawRefresh) db = (.error tokenReuse, db) := by
  have hload : ∃ u, Tx.exec (loadToken crypto now rawRefresh) db = (.error tokenReuse, u) := by
    simp only [loadToken, Tx.exec_get_bind, hrt, hrevoked, if_true, revokeFamily,
      Tx.exec_modify_bind, Tx.exec_throw]
    exact ⟨_, rfl⟩
  obtain ⟨u, hu⟩ := hload
  exact Tx.commit_of_error (Tx.exec_bind_error hu)

/-- **What a refresh needs**: its three reads succeed on the database it starts from. -/
lemma exec_refreshTokens_reads {resp : AuthResponse}
    (h : Tx.exec (refreshTokens settings crypto now draws rawRefresh) db = (.ok resp, t)) :
    ∃ rt found sess, (Tx.exec (loadToken crypto now rawRefresh) db).1 = .ok rt ∧
      (Tx.exec (loadMember rt) db).1 = .ok found ∧
      (Tx.exec (loadSession settings now rt) db).1 = .ok sess ∧
      settings.jwtPrivateKey ≠ "" ∧ t = rotate settings crypto now draws rt sess db := by
  obtain ⟨rt, u₁, hload, hrest⟩ := Tx.exec_bind_eq_ok.mp h
  obtain ⟨found, u₂, hmember, hwrites⟩ := Tx.exec_bind_eq_ok.mp hrest
  rw [Tx.exec_modify_bind, Tx.exec_modify_bind] at hwrites
  obtain ⟨sess, u₃, hsess, hsign⟩ := Tx.exec_bind_eq_ok.mp hwrites
  rw [Tx.exec_modify_bind] at hsign
  obtain ⟨access, u₄, haccess, hresp⟩ := Tx.exec_bind_eq_ok.mp hsign
  simp only [Tx.exec_pure, Prod.mk.injEq] at hresp
  have hread : ∀ u, (addSuccessor settings crypto now draws rt (spendToken now rt u)).sessions
      = u.sessions := fun _ => rfl
  obtain rfl := (exec_loadToken_ok hload).1
  obtain rfl := (exec_loadMember_ok hmember).1
  obtain rfl := (exec_loadSession_ok hsess).1
  refine ⟨rt, found, sess, by rw [hload], by rw [hmember], ?_, ?_, ?_⟩
  · rw [← exec_loadSession_congr (hread u₂), hsess]
  · intro hkey
    rw [createAccessToken, if_pos hkey] at haccess
    simp at haccess
  · rw [← hresp.2, (exec_createAccessToken haccess).1]
    rfl

/-- **What a refresh writes**: it rotates a live token. -/
lemma exec_refreshTokens_ok {resp : AuthResponse}
    (h : Tx.exec (refreshTokens settings crypto now draws rawRefresh) db = (.ok resp, t)) :
    ∃ rt sess, db.tokenByHash (crypto.hashToken rawRefresh) = some rt ∧ rt.isRevoked = false ∧
      t = rotate settings crypto now draws rt sess db := by
  obtain ⟨rt, found, sess, hload, -, -, -, ht⟩ := exec_refreshTokens_reads h
  obtain ⟨-, hrt, hlive, -⟩ := exec_loadToken_ok (Prod.ext hload rfl)
  exact ⟨rt, sess, hrt, hlive, ht⟩

/-- A refresh whose reads succeed returns. -/
lemma getDb_refreshTokens_of {found : User × TenantMembership × Tenant} {sess : Option Session}
    (hload : (Tx.exec (loadToken crypto now rawRefresh) db).1 = .ok rt)
    (hmember : (Tx.exec (loadMember rt) db).1 = .ok found)
    (hsess : (Tx.exec (loadSession settings now rt) db).1 = .ok sess)
    (hkey : settings.jwtPrivateKey ≠ "") :
    ∃ resp, getDb (refreshTokens settings crypto now draws rawRefresh) db
      = (.ok resp, rotate settings crypto now draws rt sess db) := by
  have hload' : Tx.exec (loadToken crypto now rawRefresh) db = (.ok rt, db) :=
    Prod.ext hload (exec_loadToken_ok (Prod.ext hload rfl)).1
  have hmember' : Tx.exec (loadMember rt) db = (.ok found, db) :=
    Prod.ext hmember (exec_loadMember_ok (Prod.ext hmember rfl)).1
  -- the session is read from a table that the writes so far leave alone
  have hsess' : Tx.exec (loadSession settings now rt)
      (addSuccessor settings crypto now draws rt (spendToken now rt db))
      = (.ok sess, addSuccessor settings crypto now draws rt (spendToken now rt db)) := by
    refine Prod.ext ?_ (exec_loadSession_state _)
    rw [show (Tx.exec (loadSession settings now rt)
      (addSuccessor settings crypto now draws rt (spendToken now rt db))).1
      = (Tx.exec (loadSession settings now rt) db).1 from exec_loadSession_congr rfl, hsess]
  have hbody : ∃ resp, Tx.exec (refreshTokens settings crypto now draws rawRefresh) db
      = (.ok resp, rotate settings crypto now draws rt sess db) := by
    rw [refreshTokens, Tx.exec_bind_ok hload', Tx.exec_bind_ok hmember', Tx.exec_modify_bind,
      Tx.exec_modify_bind, Tx.exec_bind_ok hsess', Tx.exec_modify_bind, createAccessToken,
      if_neg hkey, Tx.exec_pure_bind, Tx.exec_pure]
    exact ⟨_, rfl⟩
  obtain ⟨resp, hresp⟩ := hbody
  exact ⟨resp, Tx.commit_of_ok hresp⟩

/-! ### What a logout does -/

lemma refreshTokens_endSession :
    (endSession rt db).refreshTokens
      = updateByKey RefreshToken.id rt.id (fun t => { t with isRevoked := true })
        db.refreshTokens :=
  rfl

lemma exec_blacklistAccess_ok {payload : Option Payload} {r : Unit}
    (h : Tx.exec (blacklistAccess payload) db = (.ok r, t)) :
    t.refreshTokens = db.refreshTokens := by
  unfold blacklistAccess at h
  split at h
  · simp only [Tx.exec_pure, Prod.mk.injEq] at h
    rw [← h.2]
  · rw [Tx.exec_ite] at h
    split at h
    · simp only [blacklistToken, Tx.exec_get_bind] at h
      rw [Tx.exec_ite] at h
      split at h
      · simp at h
      · simp only [Tx.exec_modify, Prod.mk.injEq] at h
        rw [← h.2]
    · simp only [Tx.exec_pure, Prod.mk.injEq] at h
      rw [← h.2]

lemma exec_endPresented_ok {raw : Option String} {r : Unit}
    (h : Tx.exec (endPresented crypto raw) db = (.ok r, t)) :
    t = db ∨ ∃ rt ∈ db.refreshTokens, t = endSession rt db := by
  unfold endPresented at h
  split at h
  · simp only [Tx.exec_pure, Prod.mk.injEq] at h
    exact Or.inl h.2.symm
  rw [Tx.exec_ite] at h
  split at h
  · simp only [Tx.exec_pure, Prod.mk.injEq] at h
    exact Or.inl h.2.symm
  simp only [Tx.exec_get_bind] at h
  split at h
  · simp only [Tx.exec_pure, Prod.mk.injEq] at h
    exact Or.inl h.2.symm
  · rename_i rt hrt
    simp only [Tx.exec_modify, Prod.mk.injEq] at h
    exact Or.inr ⟨rt, AuthDb.mem_of_tokenByHash hrt, h.2.symm⟩

/-- A logout revokes at most the presented token. -/
lemma exec_logoutUser_ok {payload : Option Payload} {raw : Option String} {r : Unit}
    (h : Tx.exec (logoutUser crypto payload raw) db = (.ok r, t)) :
    t.refreshTokens = db.refreshTokens ∨ ∃ rt ∈ db.refreshTokens,
      t.refreshTokens = updateByKey RefreshToken.id rt.id (fun s => { s with isRevoked := true })
        db.refreshTokens := by
  obtain ⟨_, u₁, hblacklist, hrest⟩ := Tx.exec_bind_eq_ok.mp h
  obtain ⟨_, u₂, hrevoke, hlog⟩ := Tx.exec_bind_eq_ok.mp hrest
  have hfirst : u₁.refreshTokens = db.refreshTokens := exec_blacklistAccess_ok hblacklist
  have hlast : t.refreshTokens = u₂.refreshTokens := by
    simp only [logEvent, Tx.exec_modify, Prod.mk.injEq] at hlog
    rw [← hlog.2, AuthDb.refreshTokens_logEvent]
  rw [hlast, ← hfirst]
  rcases exec_endPresented_ok hrevoke with hsame | ⟨rt, hrt, hended⟩
  · exact Or.inl (congrArg AuthDb.refreshTokens hsame)
  · refine Or.inr ⟨rt, hrt, ?_⟩
    rw [hended, refreshTokens_endSession]

end

end EclServer.Auth
