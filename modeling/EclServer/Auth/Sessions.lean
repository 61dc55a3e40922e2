import EclServer.Auth.Refresh

/-!
The session services of `app/modules/sessions/service.py`.

* `resolveCurrentRtId`, `resolveCurrentSessionId`: the caller's token and session, found by the
  refresh cookie.
* `changePassword`, `revokeSession`, `revokeOtherSessions`: the services.
* `exec_changePassword_ok`: what a successful change of the password writes.
* `password_change_iff`: it leaves the caller signed in, and nobody else, exactly when the
  database returns the caller's token first.
-/

namespace EclServer.Auth

open EclServer.Library

/-! ### Revoking and deleting -/

namespace AuthDb

/-- The refresh tokens that satisfy `p` are revoked. -/
def revokeWhere (db : AuthDb) (p : RefreshToken → Bool) : AuthDb :=
  { db with
    refreshTokens := db.refreshTokens.map fun t => if p t then { t with isRevoked := true } else t }

/-- The sessions that satisfy `q` are deleted. -/
def deleteSessions (db : AuthDb) (q : Session → Bool) : AuthDb :=
  { db with sessions := db.sessions.filter fun s => !q s }

/-- The user's unrevoked refresh tokens. -/
def activeTokens (db : AuthDb) (userId : String) : List RefreshToken :=
  db.refreshTokens.filter fun t => t.userId = userId ∧ t.isRevoked = false

lemma mem_activeTokens {db : AuthDb} {userId : String} {t : RefreshToken} :
    t ∈ db.activeTokens userId ↔ t ∈ db.refreshTokens ∧ t.userId = userId ∧ t.isRevoked = false := by
  simp [activeTokens]

@[simp] lemma refreshTokens_updateUser (db : AuthDb) (id : String) (f : User → User) :
    (db.updateUser id f).refreshTokens = db.refreshTokens := rfl

@[simp] lemma sessions_updateUser (db : AuthDb) (id : String) (f : User → User) :
    (db.updateUser id f).sessions = db.sessions := rfl

@[simp] lemma sessions_logEvent (db : AuthDb) (e : AuditLog) :
    (db.logEvent e).sessions = db.sessions := rfl

@[simp] lemma sessions_revokeWhere (db : AuthDb) (p : RefreshToken → Bool) :
    (db.revokeWhere p).sessions = db.sessions := rfl

@[simp] lemma refreshTokens_deleteSessions (db : AuthDb) (q : Session → Bool) :
    (db.deleteSessions q).refreshTokens = db.refreshTokens := rfl

lemma mem_revokeWhere {db : AuthDb} {p : RefreshToken → Bool} {t : RefreshToken} :
    t ∈ (db.revokeWhere p).refreshTokens
      ↔ ∃ u ∈ db.refreshTokens, (if p u then { u with isRevoked := true } else u) = t :=
  List.mem_map

end AuthDb

/-! ### The caller's session -/

/-- `resolve_current_rt_id`. -/
def resolveCurrentRtId (crypto : Crypto) (db : AuthDb) (rawRefresh : Option String) :
    Option String :=
  match rawRefresh with
  | none => none
  | some raw =>
      if raw = "" then none
      else ((db.tokenByHash (crypto.hashToken raw)).filter fun t => !t.isRevoked).map (·.id)

/-- `resolve_current_session_id`; two sessions of one token raise. -/
def resolveCurrentSessionId (db : AuthDb) (userId : String) (currentRtId : Option String) :
    Except ECLException (Option String) :=
  match currentRtId with
  | none => .ok none
  | some rtId =>
      match db.sessions.filter fun s => s.userId = userId ∧ s.refreshTokenId = rtId with
      | [] => .ok none
      | [sess] => .ok (some sess.id)
      | _ => .error unexpectedError

/-! ### The services -/

structure ChangePasswordRequest where
  currentPassword : String
  newPassword : String
  deriving DecidableEq, Repr

def currentPasswordIncorrect : ECLException :=
  { code := "INVALID_CREDENTIALS", detail := "Current password is incorrect.", statusCode := 401 }

/-- `_violation_detail`. -/
def violationDetail (code : String) : String :=
  match code with
  | "PASSWORD_TOO_SHORT" => "Password must be at least 8 characters."
  | "PASSWORD_MISSING_MIX" => "Password must contain letters and numbers."
  | "PASSWORD_CONTAINS_FORBIDDEN" => "Password contains a forbidden word."
  | "PASSWORD_PWNED" => "This password has appeared in a known data breach."
  | _ => "Password does not meet requirements."

/-- The error of a password that breaks a rule. -/
def passwordViolation (code field : String) : ECLException :=
  { code := code, detail := violationDetail code, statusCode := 422, field := some field }

/-- The order in which the database returns the rows of a query that asks for none. -/
structure QueryOrder (α : Type) where
  rows : List α → List α
  perm : ∀ l, (rows l).Perm l

/-- `change_password`. -/
def changePassword (crypto : Crypto) (order : QueryOrder RefreshToken) (user : User)
    (request : ChangePasswordRequest) : Request Unit := do
  if crypto.verifyPassword request.currentPassword user.hashedPassword then
    match crypto.validatePasswordFull request.newPassword user.name with
    | code :: _ => throw (passwordViolation code "new_password")
    | [] =>
        modify (·.updateUser user.id fun u =>
          { u with hashedPassword := crypto.hashPassword request.newPassword })
        let db ← get
        let tokens := order.rows (db.activeTokens user.id)
        modify (·.revokeWhere fun t => t.id ∈ tokens.tail.map (·.id))
        logEvent { eventType := "auth.password.changed", userId := some user.id }
  else throw currentPasswordIncorrect

def cannotRevokeCurrent : ECLException :=
  { code := "VALIDATION_ERROR", detail := "Cannot revoke current session. Use logout instead." }

def sessionNotFound : ECLException :=
  { code := "RESOURCE_NOT_FOUND", detail := "Session not found.", statusCode := 404 }

/-- `revoke_session`. -/
def revokeSession (userId sessionId : String) (currentSessionId : Option String) :
    Request Unit := do
  if currentSessionId = some sessionId then throw cannotRevokeCurrent
  else
    let db ← get
    match db.sessions.find? fun s => s.id = sessionId ∧ s.userId = userId with
    | none => throw sessionNotFound
    | some sess =>
        modify (·.revokeWhere fun t => t.id = sess.refreshTokenId)
        modify (·.deleteSessions fun s => s.id = sessionId)
        logEvent { eventType := "session.revoked", userId := some userId }

/-- `revoke_other_sessions`. -/
def revokeOtherSessions (userId : String) (currentSessionId : Option String) : Request ℕ := do
  let db ← get
  let others := db.sessions.filter fun s => s.userId = userId ∧ some s.id ≠ currentSessionId
  if others = [] then return 0
  else
    modify (·.revokeWhere fun t => t.id ∈ others.map (·.refreshTokenId))
    modify (·.deleteSessions fun s => s.id ∈ others.map (·.id))
    logEvent { eventType := "session.all_revoked", userId := some userId }
    return others.length

/-- `DELETE /me/sessions/{session_id}`. -/
def deleteSessionEndpoint (crypto : Crypto) (userId sessionId : String)
    (rawRefresh : Option String) : Request Unit := do
  let db ← get
  let currentSessionId ← liftM
    (resolveCurrentSessionId db userId (resolveCurrentRtId crypto db rawRefresh))
  revokeSession userId sessionId currentSessionId

/-- `DELETE /me/sessions`. -/
def deleteOtherSessionsEndpoint (crypto : Crypto) (userId : String)
    (rawRefresh : Option String) : Request ℕ := do
  let db ← get
  let currentSessionId ← liftM
    (resolveCurrentSessionId db userId (resolveCurrentRtId crypto db rawRefresh))
  revokeOtherSessions userId currentSessionId

/-! ### What they write -/

section

variable {crypto : Crypto} {order : QueryOrder RefreshToken} {user : User}
  {db t : AuthDb}

/-- The tokens a change of the password revokes. -/
def otherTokens (order : QueryOrder RefreshToken) (db : AuthDb) (userId : String) :
    List RefreshToken :=
  (order.rows (db.activeTokens userId)).tail

/-- A successful change of the password revokes all the user's tokens but the first. -/
lemma exec_changePassword_ok {request : ChangePasswordRequest} {r : Unit}
    (h : Tx.exec (changePassword crypto order user request) db = (.ok r, t)) :
    t.sessions = db.sessions ∧
      t.refreshTokens = (db.revokeWhere fun u =>
        u.id ∈ (otherTokens order db user.id).map (·.id)).refreshTokens ∧
      db.tokenBlacklist ⊆ t.tokenBlacklist := by
  rw [changePassword, Tx.exec_ite] at h
  split at h
  case isFalse => simp at h
  split at h
  · simp at h
  simp only [Tx.exec_modify_bind, Tx.exec_get_bind, logEvent, Tx.exec_modify, Prod.mk.injEq] at h
  rw [← h.2]
  exact ⟨rfl, rfl, List.Subset.refl _⟩

/-- The old password is right and the new one breaks no rule. -/
def AcceptsChange (crypto : Crypto) (user : User) (request : ChangePasswordRequest) : Prop :=
  crypto.verifyPassword request.currentPassword user.hashedPassword = true ∧
    crypto.validatePasswordFull request.newPassword user.name = []

/-- A change of the password succeeds on an accepted request and on no other. -/
lemma exec_changePassword_iff {request : ChangePasswordRequest} :
    (∃ r t, Tx.exec (changePassword crypto order user request) db = (.ok r, t))
      ↔ AcceptsChange crypto user request := by
  rw [changePassword, Tx.exec_ite, AcceptsChange]
  by_cases hpassword : crypto.verifyPassword request.currentPassword user.hashedPassword = true
  · rw [if_pos hpassword]
    cases hrules : crypto.validatePasswordFull request.newPassword user.name with
    | cons code codes => simp
    | nil =>
        simp only [Tx.exec_modify_bind, Tx.exec_get_bind, logEvent, Tx.exec_modify]
        exact ⟨fun _ => ⟨hpassword, trivial⟩, fun _ => ⟨_, _, rfl⟩⟩
  · rw [if_neg hpassword]
    simp [hpassword]

/-! ### Changing the password -/

/-- The user's tokens after a request: that of the caller, `T`, is the one that still works. -/
structure OnlySessionLeft (userId : String) (T : RefreshToken) (db : AuthDb) : Prop where
  caller : T ∈ db.refreshTokens
  others : ∀ t ∈ db.refreshTokens, t.userId = userId → t.id ≠ T.id → t.isRevoked = true

lemma mem_otherTokens_or (order : QueryOrder RefreshToken) {T : RefreshToken}
    (h : (order.rows (db.activeTokens user.id)).head? = some T) {u : RefreshToken}
    (hu : u ∈ db.activeTokens user.id) : u = T ∨ u ∈ otherTokens order db user.id := by
  obtain ⟨rest, hrows⟩ := List.head?_eq_some_iff.mp h
  have hmem : u ∈ order.rows (db.activeTokens user.id) := (order.perm _).mem_iff.mpr hu
  rw [hrows] at hmem
  rw [otherTokens, hrows]
  exact List.mem_cons.mp hmem

/-- The first row the database returns is not among the others. -/
lemma notMem_otherTokens (hids : (db.refreshTokens.map (·.id)).Nodup) {T : RefreshToken}
    (h : (order.rows (db.activeTokens user.id)).head? = some T) :
    T.id ∉ (otherTokens order db user.id).map (·.id) := by
  obtain ⟨rest, hrows⟩ := List.head?_eq_some_iff.mp h
  have hactive : ((db.activeTokens user.id).map (·.id)).Nodup :=
    hids.sublist (List.filter_sublist.map _)
  have hnodup : ((order.rows (db.activeTokens user.id)).map (·.id)).Nodup :=
    ((order.perm _).map _).nodup_iff.mpr hactive
  rw [hrows, List.map_cons, List.nodup_cons] at hnodup
  rw [otherTokens, hrows]
  exact hnodup.1

/-- **The caller alone stays signed in** after a change of the password exactly when the caller's
token is the first that the database returns: of a query without an order the service keeps the
first row, whosesoever it is. -/
theorem password_change_iff {request : ChangePasswordRequest} {db' : AuthDb} {T : RefreshToken}
    (hids : (db.refreshTokens.map (·.id)).Nodup) (hT : T ∈ db.activeTokens user.id)
    (hok : getDb (changePassword crypto order user request) db = (.ok (), db')) :
    OnlySessionLeft user.id T db'
      ↔ (order.rows (db.activeTokens user.id)).head? = some T := by
  obtain ⟨-, htokens, -⟩ := exec_changePassword_ok (Tx.exec_of_commit_ok hok)
  obtain ⟨hTmem, hTuser, hTlive⟩ := AuthDb.mem_activeTokens.mp hT
  constructor
  · rintro ⟨hcaller, -⟩
    rw [htokens, AuthDb.mem_revokeWhere] at hcaller
    obtain ⟨u, hu, hwritten⟩ := hcaller
    -- `T` was not written: what is written back is revoked
    have hkept : T.id ∉ (otherTokens order db user.id).map (·.id) := by
      intro hmem
      by_cases hp : u.id ∈ (otherTokens order db user.id).map (·.id)
      · simp only [hp, decide_true, if_true] at hwritten
        rw [← hwritten] at hTlive
        exact absurd hTlive (by simp)
      · simp only [hp, decide_false, Bool.false_eq_true, if_false] at hwritten
        exact hp (hwritten ▸ hmem)
    have hrows : T ∈ order.rows (db.activeTokens user.id) := (order.perm _).mem_iff.mpr hT
    cases hlist : order.rows (db.activeTokens user.id) with
    | nil => simp [hlist] at hrows
    | cons first rest =>
        rw [hlist] at hrows
        rcases List.mem_cons.mp hrows with rfl | hrest
        · rfl
        · have hother : T ∈ otherTokens order db user.id := by
            rw [otherTokens, hlist]
            exact hrest
          exact absurd (List.mem_map_of_mem hother) hkept
  · intro hfirst
    have hkept := notMem_otherTokens hids hfirst
    constructor
    · rw [htokens, AuthDb.mem_revokeWhere]
      exact ⟨T, hTmem, by simp [hkept]⟩
    · intro t ht htuser hne
      rw [htokens, AuthDb.mem_revokeWhere] at ht
      obtain ⟨u, hu, rfl⟩ := ht
      by_cases hp : u.id ∈ (otherTokens order db user.id).map (·.id)
      · simp [hp]
      · simp only [hp, decide_false, Bool.false_eq_true, if_false] at htuser hne ⊢
        by_contra hlive
        have hactive : u ∈ db.activeTokens user.id :=
          AuthDb.mem_activeTokens.mpr ⟨hu, htuser, by simpa using hlive⟩
        rcases mem_otherTokens_or order hfirst hactive with rfl | hother
        · exact hne rfl
        · exact hp (List.mem_map_of_mem hother)

end

/-! ### The second of two sessions -/

/-- Rows come back in the order they were inserted. -/
def insertionOrder : QueryOrder RefreshToken where
  rows := id
  perm _ := List.Perm.refl _

def deskToken : RefreshToken :=
  { id := "r1", userId := "u1", tokenFamilyId := "f1", tokenHash := "sha256:desk"
    expiresAt := days 7 }

def phoneToken : RefreshToken :=
  { id := "r2", userId := "u1", tokenFamilyId := "f2", tokenHash := "sha256:phone"
    expiresAt := days 7 }

def twoSessionsUser : User :=
  { id := "u1", email := "ann@bank.test", name := "Ann", hashedPassword := "argon2:old pass 1" }

def twoSessionsDb : AuthDb := { users := [twoSessionsUser], refreshTokens := [deskToken, phoneToken] }

lemma changePassword_twoSessions :
    getDb (changePassword plainCrypto insertionOrder twoSessionsUser ⟨"old pass 1", "new pass 1"⟩)
        twoSessionsDb
      = (.ok (), (getDb (changePassword plainCrypto insertionOrder twoSessionsUser
          ⟨"old pass 1", "new pass 1"⟩) twoSessionsDb).2) := by
  rfl

/-- The password is changed from the phone, signed in second. -/
theorem password_change_iff_sample :
    OnlySessionLeft twoSessionsUser.id phoneToken
        (getDb (changePassword plainCrypto insertionOrder twoSessionsUser ⟨"old pass 1", "new pass 1"⟩)
          twoSessionsDb).2
      ↔ (insertionOrder.rows (twoSessionsDb.activeTokens twoSessionsUser.id)).head?
        = some phoneToken :=
  password_change_iff (by decide) (by decide) changePassword_twoSessions

/-- **The wrong session survives**: the phone is signed out, the desk is not. -/
theorem password_change_fails :
    ¬ OnlySessionLeft "u1" phoneToken
        (getDb (changePassword plainCrypto insertionOrder twoSessionsUser ⟨"old pass 1", "new pass 1"⟩)
          twoSessionsDb).2 := by
  rintro ⟨hcaller, -⟩
  revert hcaller
  decide

end EclServer.Auth
