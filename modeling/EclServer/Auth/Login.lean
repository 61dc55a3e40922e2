import EclServer.Auth.Model

/-!
Password login: `login_user` of `app/modules/auth/service.py`, with the helpers it calls and
the tokens of `app/core/security.py`.

* `createAccessToken`, `createMfaChallengeToken`: the two kinds of signed JWT.
* `createSessionTokens`: a refresh token, a session row and an access token.
* `checkLockout`, `handleFailedLogin`, `loginUser`: the login itself.
* `exec_checkLockout`, `exec_createSessionTokens`: what the helpers do, so that the
  results about `loginUser` need not look inside them.
-/

namespace EclServer.Auth

open EclServer.Library

/-! ### Responses -/

structure UserOut where
  id : String
  email : String
  name : String
  role : String
  tenantId : String
  tenantName : String
  currency : String := "USD"
  isEmailVerified : Bool
  isOnboardingComplete : Bool
  isPlatformAdmin : Bool := false
  deriving DecidableEq, Repr

/-- `AuthResponse` with its `TokenData`, and the refresh cookie set on the response. -/
structure AuthResponse where
  accessToken : Payload
  expiresIn : ℤ
  user : UserOut
  message : String
  refreshCookie : Option (String × Time) := none
  deriving DecidableEq, Repr

structure LoginRequest where
  email : String
  password : String
  remember : Bool := false
  deriving DecidableEq, Repr

/-- What `login_user` returns: a session, or the challenge of `MFAChallengeResponse`. -/
inductive LoginResponse where
  | session (resp : AuthResponse)
  | mfaChallenge (challengeToken : Payload)
  deriving DecidableEq, Repr

section

variable (settings : Settings) (crypto : Crypto) (now : Time) (draws : Draws)

/-! ### Tokens -/

/-- `create_access_token`: the given payload with `iat`, `exp` and `jti` filled in. -/
def createAccessToken (payload : String → ℤ → ℤ → Payload) : Request Payload :=
  if settings.jwtPrivateKey = "" then throw internalError
  else
    pure (payload draws.jti (timestamp now)
      (timestamp (now + minutes settings.jwtAccessTokenExpireMinutes)))

/-- `create_mfa_challenge_token`. -/
def createMfaChallengeToken (userId : String) : Request Payload :=
  if settings.jwtPrivateKey = "" then throw internalError
  else
    pure { sub := userId, type := some "mfa_challenge", jti := draws.jti
           iat := timestamp now, exp := timestamp (now + minutes 5) }

/-- The payload `_create_session_tokens` and `refresh_tokens` sign. -/
def sessionPayload (user : User) (membership : TenantMembership) (tenant : Tenant)
    (jti : String) (iat exp : ℤ) : Payload :=
  { sub := user.id, jti := jti, iat := iat, exp := exp, email := some user.email
    name := some user.name, role := some membership.role, tenantId := some tenant.id
    isPlatformAdmin := some user.isPlatformAdmin }

/-- `_user_out`. -/
def userOut (user : User) (membership : TenantMembership) (tenant : Tenant) : UserOut :=
  { id := user.id, email := user.email, name := user.name, role := membership.role
    tenantId := tenant.id, tenantName := tenant.name
    currency := if tenant.currency = "" then "USD" else tenant.currency
    isEmailVerified := user.isEmailVerified
    isOnboardingComplete := tenant.onboardingCompletedAt.isSome
    isPlatformAdmin := user.isPlatformAdmin }

/-- `_refresh_expiry`. -/
def refreshExpiry (remember : Bool) : Time :=
  now + days (if remember then settings.jwtRefreshTokenExpireDays else 1)

/-- The refresh-token row `_create_session_tokens` adds: the first of a new family. -/
def newRefreshToken (user : User) (remember : Bool) : RefreshToken :=
  { id := draws.refreshTokenId, userId := user.id, tokenFamilyId := draws.familyId
    tokenHash := crypto.hashToken draws.rawRefresh
    expiresAt := refreshExpiry settings now remember }

/-- The session row `_create_session_tokens` adds. -/
def newSession (user : User) : Session :=
  { id := draws.sessionId, userId := user.id, refreshTokenId := draws.refreshTokenId
    lastActiveAt := now }

/-- `_create_session_tokens`. -/
def createSessionTokens (user : User) (membership : TenantMembership) (tenant : Tenant)
    (remember : Bool) : Request AuthResponse := do
  modify fun db => { db with
    refreshTokens := db.refreshTokens ++ [newRefreshToken settings crypto now draws user remember] }
  modify fun db => { db with sessions := db.sessions ++ [newSession now draws user] }
  let access ← createAccessToken settings now draws (sessionPayload user membership tenant)
  return { accessToken := access
           expiresIn := settings.jwtAccessTokenExpireMinutes * 60
           user := userOut user membership tenant
           message := "Login successful"
           refreshCookie := some (draws.rawRefresh, refreshExpiry settings now remember) }

/-! ### Login -/

/-- `check_lockout`. -/
def checkLockout (user : User) : Request Unit :=
  match user.lockedUntil with
  | some lockedUntil =>
      if now < lockedUntil then
        throw (accountLockedError (max (timestamp (lockedUntil - now)) 1))
      else pure ()
  | none => pure ()

/-- The lock `handle_failed_login` sets when the failure count has become `count`. -/
def lockoutUntil (count : ℕ) (lockedUntil : Option Time) : Option Time :=
  if settings.lockoutThreshold3 ≤ count then some (now + hours 24)
  else if settings.lockoutThreshold2 ≤ count then some (now + hours 1)
  else if settings.lockoutThreshold1 ≤ count then some (now + minutes 15)
  else lockedUntil

/-- `handle_failed_login`. -/
def handleFailedLogin (user : User) : Request Unit :=
  modify (·.updateUser user.id fun u =>
    { u with
      failedLoginCount := user.failedLoginCount + 1
      lockedUntil := lockoutUntil settings now (user.failedLoginCount + 1) user.lockedUntil })

/-- `login_user`. -/
def loginUser (request : LoginRequest) : Request LoginResponse := do
  let db ← get
  match db.getActiveUserByEmail crypto request.email with
  | none => throw invalidCredentialsError
  | some user =>
      if crypto.verifyPassword request.password user.hashedPassword then
        checkLockout now user
        if user.isActive then
          modify (·.updateUser user.id fun u =>
            { u with failedLoginCount := 0, lockedUntil := none, lastLoginAt := some now })
          match db.getMembership user.id none with
          | none => throw notTenantMember
          | some (membership, tenant) =>
              if user.totpEnabled then
                let challenge ← createMfaChallengeToken settings now draws user.id
                return .mfaChallenge challenge
              else
                let resp ← createSessionTokens settings crypto now draws user membership tenant
                  request.remember
                logEvent { eventType := "auth.login.success", userId := some user.id }
                return .session resp
        else throw accountDisabledError
      else
        checkLockout now user
        handleFailedLogin settings now user
        logEvent { eventType := "auth.login.failed", userId := some user.id
                   status := "failure", errorCode := some "INVALID_CREDENTIALS" }
        throw invalidCredentialsError

end

/-! ### What a login does -/

section

variable {settings : Settings} {crypto : Crypto} {now : Time} {draws : Draws} {db t : AuthDb}

/-- The users table after a successful login of `user`. -/
def clearFailures (db : AuthDb) (user : User) (now : Time) : AuthDb :=
  db.updateUser user.id fun u =>
    { u with failedLoginCount := 0, lockedUntil := none, lastLoginAt := some now }

/-- `check_lockout` lets an account pass whose lock is absent. -/
@[simp] lemma checkLockout_of_none {user : User} (h : user.lockedUntil = none) :
    checkLockout now user = pure () := by
  rw [checkLockout, h]

/-- `check_lockout` reads only. -/
lemma exec_checkLockout {user : User} {r : Unit}
    (h : Tx.exec (checkLockout now user) db = (.ok r, t)) : t = db := by
  rw [checkLockout] at h
  split at h
  · rw [Tx.exec_ite] at h
    split at h
    · simp at h
    · simpa using h.symm
  · simpa using h.symm

lemma exec_createAccessToken {payload : String → ℤ → ℤ → Payload} {p : Payload}
    (h : Tx.exec (createAccessToken settings now draws payload) db = (.ok p, t)) :
    t = db ∧ p = payload draws.jti (timestamp now)
      (timestamp (now + minutes settings.jwtAccessTokenExpireMinutes)) := by
  rw [createAccessToken, Tx.exec_ite] at h
  split at h
  · simp at h
  · simp only [Tx.exec_pure, Prod.mk.injEq, Except.ok.injEq] at h
    exact ⟨h.2.symm, h.1.symm⟩

lemma exec_createMfaChallengeToken {userId : String} {p : Payload}
    (h : Tx.exec (createMfaChallengeToken settings now draws userId) db = (.ok p, t)) :
    t = db ∧ p = { sub := userId, type := some "mfa_challenge", jti := draws.jti
                   iat := timestamp now, exp := timestamp (now + minutes 5) } := by
  rw [createMfaChallengeToken, Tx.exec_ite] at h
  split at h
  · simp at h
  · simp only [Tx.exec_pure, Prod.mk.injEq, Except.ok.injEq] at h
    exact ⟨h.2.symm, h.1.symm⟩

/-- `_create_session_tokens` adds one refresh token and one session row, and signs an access
token for the user. -/
lemma exec_createSessionTokens {user : User} {membership : TenantMembership} {tenant : Tenant}
    {remember : Bool} {resp : AuthResponse}
    (h : Tx.exec (createSessionTokens settings crypto now draws user membership tenant remember) db
      = (.ok resp, t)) :
    t = { db with
          refreshTokens := db.refreshTokens
            ++ [newRefreshToken settings crypto now draws user remember]
          sessions := db.sessions ++ [newSession now draws user] } ∧
    resp.accessToken = sessionPayload user membership tenant draws.jti (timestamp now)
      (timestamp (now + minutes settings.jwtAccessTokenExpireMinutes)) ∧
    resp.refreshCookie = some (draws.rawRefresh, refreshExpiry settings now remember) := by
  simp only [createSessionTokens, createAccessToken, Tx.exec_modify_bind] at h
  by_cases hkey : settings.jwtPrivateKey = ""
  · simp [hkey] at h
  · simp only [hkey, if_false, Tx.exec_pure_bind, Tx.exec_pure, Prod.mk.injEq,
      Except.ok.injEq] at h
    obtain ⟨rfl, rfl⟩ := h
    exact ⟨rfl, rfl, rfl⟩

/-- **What a successful login has checked and done**: the password was right, the account
active and a member somewhere; the failures are cleared; an enrolled account gets a
challenge, any other a session. -/
theorem exec_loginUser_ok {request : LoginRequest} {resp : LoginResponse}
    (h : Tx.exec (loginUser settings crypto now draws request) db = (.ok resp, t)) :
    ∃ user membership tenant,
      db.getActiveUserByEmail crypto request.email = some user ∧
      crypto.verifyPassword request.password user.hashedPassword = true ∧
      user.isActive = true ∧
      db.getMembership user.id none = some (membership, tenant) ∧
      ((user.totpEnabled = true ∧ t = clearFailures db user now ∧
          ∃ p, Tx.exec (createMfaChallengeToken settings now draws user.id) t = (.ok p, t) ∧
            resp = .mfaChallenge p) ∨
        (user.totpEnabled = false ∧ ∃ r u,
          Tx.exec (createSessionTokens settings crypto now draws user membership tenant
            request.remember) (clearFailures db user now) = (.ok r, u) ∧
          t = u.logEvent { eventType := "auth.login.success", userId := some user.id } ∧
          resp = .session r)) := by
  simp only [loginUser, Tx.exec_get_bind] at h
  split at h
  · simp at h
  rename_i user huser
  rw [Tx.exec_ite] at h
  split at h
  -- the failure of a wrong password is counted, and then the request raises
  case isFalse =>
    obtain ⟨_, _, _, h⟩ := Tx.exec_bind_eq_ok.mp h
    obtain ⟨_, _, _, h⟩ := Tx.exec_bind_eq_ok.mp h
    obtain ⟨_, _, _, h⟩ := Tx.exec_bind_eq_ok.mp h
    simp at h
  rename_i hpassword
  obtain ⟨_, _, hlock, h⟩ := Tx.exec_bind_eq_ok.mp h
  rw [exec_checkLockout hlock, Tx.exec_ite] at h
  split at h
  case isFalse => simp at h
  rename_i hactive
  rw [Tx.exec_modify_bind] at h
  split at h
  · simp at h
  rename_i membership tenant hmember
  -- all checks are passed: a second factor decides between a challenge and a session
  refine ⟨user, membership, tenant, huser, hpassword, hactive, hmember, ?_⟩
  rw [Tx.exec_ite] at h
  split at h
  · rename_i htotp
    obtain ⟨p, u, hp, h⟩ := Tx.exec_bind_eq_ok.mp h
    obtain ⟨rfl, -⟩ := exec_createMfaChallengeToken hp
    simp only [Tx.exec_pure, Prod.mk.injEq, Except.ok.injEq] at h
    obtain ⟨rfl, rfl⟩ := h
    exact Or.inl ⟨htotp, rfl, p, hp, rfl⟩
  · rename_i htotp
    obtain ⟨r, u, hr, h⟩ := Tx.exec_bind_eq_ok.mp h
    obtain ⟨_, v, hlog, h⟩ := Tx.exec_bind_eq_ok.mp h
    simp only [logEvent, Tx.exec_modify, Prod.mk.injEq, true_and] at hlog
    simp only [Tx.exec_pure, Prod.mk.injEq, Except.ok.injEq] at h
    obtain ⟨rfl, rfl⟩ := h
    exact Or.inr ⟨by simpa using htotp, r, u, hr, hlog.symm, rfl⟩

/-! ### The errors of a login -/

section Errors

variable {P : ECLException → Prop}

lemma errorsIn_createAccessToken (hkey : P internalError) (payload : String → ℤ → ℤ → Payload) :
    (createAccessToken settings now draws payload).ErrorsIn P :=
  Tx.errorsIn_ite (Tx.errorsIn_throw hkey) (Tx.errorsIn_pure _)

lemma errorsIn_createMfaChallengeToken (hkey : P internalError) (userId : String) :
    (createMfaChallengeToken settings now draws userId).ErrorsIn P :=
  Tx.errorsIn_ite (Tx.errorsIn_throw hkey) (Tx.errorsIn_pure _)

lemma errorsIn_createSessionTokens (hkey : P internalError) (user : User)
    (membership : TenantMembership) (tenant : Tenant) (remember : Bool) :
    (createSessionTokens settings crypto now draws user membership tenant remember).ErrorsIn P := by
  refine Tx.errorsIn_bind (Tx.errorsIn_modify _) fun _ => ?_
  refine Tx.errorsIn_bind (Tx.errorsIn_modify _) fun _ => ?_
  exact Tx.errorsIn_bind (errorsIn_createAccessToken hkey _) fun _ => Tx.errorsIn_pure _

/-- The errors of a login past `check_lockout`: bad credentials, a disabled account, no
membership, no signing key. -/
lemma errorsIn_loginUser_of_unlocked {request : LoginRequest}
    (hcred : P invalidCredentialsError) (hdis : P accountDisabledError)
    (hmem : P notTenantMember) (hkey : P internalError)
    (hlock : ∀ u, db.getActiveUserByEmail crypto request.email = some u → u.lockedUntil = none)
    {e : ECLException}
    (h : Tx.exec (loginUser settings crypto now draws request) db = (.error e, t)) : P e := by
  simp only [loginUser, Tx.exec_get_bind] at h
  split at h
  · exact Tx.errorsIn_throw hcred _ _ _ h
  rename_i user huser
  rw [checkLockout_of_none (hlock user huser), pure_bind, pure_bind] at h
  refine Tx.errorsIn_ite (Tx.errorsIn_ite ?_ (Tx.errorsIn_throw hdis)) ?_ _ _ _ h
  · refine Tx.errorsIn_bind (Tx.errorsIn_modify _) fun _ => ?_
    split
    · exact Tx.errorsIn_throw hmem
    · refine Tx.errorsIn_ite ?_ ?_
      · exact Tx.errorsIn_bind (errorsIn_createMfaChallengeToken hkey _)
          fun _ => Tx.errorsIn_pure _
      · exact Tx.errorsIn_bind (errorsIn_createSessionTokens hkey _ _ _ _)
          fun _ => Tx.errorsIn_bind (Tx.errorsIn_modify _) fun _ => Tx.errorsIn_pure _
  · exact Tx.errorsIn_bind (Tx.errorsIn_modify _)
      fun _ => Tx.errorsIn_bind (Tx.errorsIn_modify _) fun _ => Tx.errorsIn_throw hcred

end Errors

end

end EclServer.Auth
