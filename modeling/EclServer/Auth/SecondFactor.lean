import EclServer.Auth.Services
import EclServer.Library.Requests

/-!
The second factor: one-time codes, recovery codes and their enrolment (`verify_mfa` of
`app/modules/auth/service.py`, and `enroll_totp_start`, `enroll_totp_confirm` and `disable_totp` of
`app/modules/sessions/service.py`).

* `MfaCall`, `secondFactor`: the requests statement by statement, with the purge of the blacklist.
  `serve_verify`: a verification that nobody interrupts is `verifyMfa`.
* `Balanced`: the stored recovery codes agree with the history of those accepted.
  `balanced_next_iff`: the statements that keep the balance. `recoveryCodes_balanced_iff`,
  `recoveryCodes_serial`: along interleavings, and for requests one after the other.
* `challenges_once`: a challenge opens one session at most.
-/

namespace EclServer.Auth

open EclServer.Library

/-! ### Requests -/

/-- The functions of pyotp and cryptography that an enrolment uses. -/
structure TotpCrypto where
  encryptTotpSecret : String → String
  verify : String → String → Time → Bool

/-- The key `totp:pending:{user_id}`, with the time it expires. -/
structure PendingSecret where
  userId : String
  secret : String
  expiresAt : Time
  deriving DecidableEq, Repr

/-- A verification with its challenge and what its session draws. -/
structure Verification where
  now : Time
  draws : Draws
  request : MFAVerifyRequest

structure EnrollStart where
  now : Time
  token : Option Payload
  secret : String

/-- The hashes are those of the codes that `generate_backup_codes` draws. -/
structure EnrollConfirm where
  now : Time
  token : Option Payload
  code : String
  hashes : List String

structure DisableTotp where
  now : Time
  token : Option Payload
  code : String

inductive MfaRequest where
  | verify (v : Verification)
  | enroll (req : EnrollStart)
  | confirm (req : EnrollConfirm)
  | disable (req : DisableTotp)
  | purge (now : Time)

/-- The stores, with three histories that no request reads: how often each recovery code of an account
was accepted since it was issued, the challenges that a session was opened for, and the times of the
purges. -/
structure MfaDb where
  world : World
  pending : List PendingSecret := []
  ledger : String → List (String × ℕ) := fun _ => []
  opened : List String := []
  purges : List Time := []

/-! ### Statement by statement -/

/-- Where a request stands. -/
inductive MfaCall where
  | loadChallenge (v : Verification)
  | loadAccount (v : Verification) (payload : Payload)
  | setSpent (v : Verification) (payload : Payload) (user : User)
  | loadMembership (v : Verification) (payload : Payload) (user : User)
  | commitVerified (v : Verification) (payload : Payload) (user : User)
      (membership : TenantMembership) (tenant : Tenant)
  | loadEnrolling (req : EnrollStart)
  | setPending (req : EnrollStart) (user : User)
  | loadConfirming (req : EnrollConfirm)
  | getPending (req : EnrollConfirm) (user : User)
  | deletePending (req : EnrollConfirm) (user : User) (secret : String)
  | commitEnrolled (req : EnrollConfirm) (user : User) (secret : String)
  | loadDisabling (req : DisableTotp)
  | commitDisabled (req : DisableTotp) (user : User)
  | commitPurge (now : Time)

/-- The recovery code that a text matches. -/
def matchedHash (crypto : Crypto) (code : String) (codes : List BackupCode) : Option String :=
  (codes.find? fun entry => entry.used = false ∧ crypto.verifyBackupCode entry.hash code = true).map
    (·.hash)

/-- A code is accepted once more. -/
def acceptCode (hash : String) (l : List (String × ℕ)) : List (String × ℕ) :=
  l.map fun e => if e.1 = hash then (e.1, e.2 + 1) else e

/-- What an enrolment writes; SQLAlchemy leaves out a flag that was loaded as it is set. -/
def enrolledUser (totp : TotpCrypto) (req : EnrollConfirm) (loaded : User) (secret : String)
    (u : User) : User :=
  { u with
    totpSecretEncrypted := some (totp.encryptTotpSecret secret)
    totpEnabled := if loaded.totpEnabled then u.totpEnabled else true
    totpBackupCodes := req.hashes.map fun hash => { hash := hash, used := false } }

/-- What the end of an enrolment writes. -/
def disabledUser (loaded u : User) : User :=
  { u with
    totpSecretEncrypted := none
    totpEnabled := false
    totpBackupCodes := if loaded.totpBackupCodes = [] then u.totpBackupCodes else [] }

section

variable (settings : Settings) (crypto : Crypto) (totp : TotpCrypto)

/-- The row of a spent challenge. -/
def spentEntry (payload : Payload) (user : User) : TokenBlacklist :=
  { jti := payload.jti
    userId := user.id
    expiresAt := seconds payload.exp
    reason := "mfa_challenge_used" }

/-- The row is written, where the challenge has a `jti`. -/
def spendRow (payload : Payload) (user : User) : Request Unit :=
  if payload.jti = "" then pure () else blacklistToken (spentEntry payload user)

/-- The writes of a verification, with the account, membership and workspace it has loaded. -/
def verifiedBody (v : Verification) (payload : Payload) (user : User)
    (membership : TenantMembership) (tenant : Tenant) : Request AuthResponse := do
  checkCode crypto v.now user v.request.code
  spendRow payload user
  let resp ← createSessionTokens settings crypto v.now v.draws user membership tenant false
  logEvent { eventType := "auth.login.success", userId := some user.id }
  return resp

/-- The key of a spent challenge, which is there before the commit. -/
def spendInRedis (v : Verification) (payload : Payload) : CachedRequest Unit :=
  if payload.jti = "" then pure () else blacklistInRedis v.now payload.jti (seconds payload.exp)

/-- The history after a code of this length was accepted. -/
def acceptedLedger (v : Verification) (user : User) (ledger : String → List (String × ℕ)) :
    String → List (String × ℕ) :=
  match matchedHash crypto v.request.code user.totpBackupCodes with
  | some hash =>
      if v.request.code.length = 8 then
        Function.update ledger user.id (acceptCode hash (ledger user.id))
      else ledger
  | none => ledger

/-- The commit of a verification: all its writes or none. -/
def commitVerification (v : Verification) (payload : Payload) (user : User)
    (membership : TenantMembership) (tenant : Tenant) (db : MfaDb) : MfaDb :=
  match Tx.exec (verifiedBody settings crypto v payload user membership tenant) db.world.db with
  | (.error _, _) => db
  | (.ok _, after) =>
      { db with
        world := { db.world with db := after }
        ledger := acceptedLedger crypto v user db.ledger
        opened := db.opened ++ [payload.jti] }

/-- The row of the account is written, with an event of this type. -/
def MfaDb.updateUser (db : MfaDb) (userId eventType : String) (f : User → User) : MfaDb :=
  { db with
    world := { db.world with
      db := (db.world.db.updateUser userId f).logEvent
        { eventType := eventType, userId := some userId } } }

def nextMfa (db : MfaDb) : MfaCall → MfaDb × Option MfaCall
  | .loadChallenge v =>
      (db, (Tx.exec (loadChallenge settings v.now v.request.challengeToken) db.world).1.toOption.map
        (.loadAccount v))
  | .loadAccount v payload =>
      -- the code is checked against the account as it was loaded
      (db, (Tx.exec (challengedUser payload) db.world).1.toOption.bind fun user =>
        (Tx.exec (checkCode crypto v.now user v.request.code) db.world.db).1.toOption.map
          fun _ => .setSpent v payload user)
  | .setSpent v payload user =>
      let (answer, world) := Tx.exec (spendInRedis v payload) db.world
      ({ db with world := world }, answer.toOption.map fun _ => .loadMembership v payload user)
  | .loadMembership v payload user =>
      (db, (db.world.db.getMembership user.id none).map fun row =>
        .commitVerified v payload user row.1 row.2)
  | .commitVerified v payload user membership tenant =>
      (commitVerification settings crypto v payload user membership tenant db, none)
  | .loadEnrolling req =>
      (db, (getCurrentUser settings req.now db.world req.token).toOption.map (.setPending req))
  | .setPending req user =>
      if db.world.redis.up then
        ({ db with
            pending := { userId := user.id, secret := req.secret, expiresAt := req.now + seconds 300 }
              :: db.pending.filter fun p => p.userId ≠ user.id }, none)
      else (db, none)
  | .loadConfirming req =>
      (db, (getCurrentUser settings req.now db.world req.token).toOption.map (.getPending req))
  | .getPending req user =>
      if db.world.redis.up then
        (db, ((db.pending.find? fun p => p.userId = user.id ∧ req.now ≤ p.expiresAt).filter fun p =>
          totp.verify p.secret req.code req.now).map fun p => .deletePending req user p.secret)
      else (db, none)
  | .deletePending req user secret =>
      if db.world.redis.up then
        ({ db with pending := db.pending.filter fun p => p.userId ≠ user.id },
          some (.commitEnrolled req user secret))
      else (db, none)
  | .commitEnrolled req user secret =>
      ({ db.updateUser user.id "mfa.totp.enrolled" (enrolledUser totp req user secret) with
          ledger := Function.update db.ledger user.id (req.hashes.map fun hash => (hash, 0)) }, none)
  | .loadDisabling req =>
      (db, (getCurrentUser settings req.now db.world req.token).toOption.bind fun user =>
        if user.totpEnabled ∧ (user.totpSecretEncrypted.filter (· ≠ "")).any
            (fun secret => crypto.verifyTotp secret req.code req.now) then
          some (.commitDisabled req user)
        else none)
  | .commitDisabled _ user =>
      ({ db.updateUser user.id "mfa.totp.disabled" (disabledUser user) with
          ledger := Function.update db.ledger user.id [] }, none)
  | .commitPurge now =>
      ({ db with
          world := { db.world with db := purgeExpiredTokenBlacklist now db.world.db }
          purges := db.purges ++ [now] }, none)

/-- Verifications, enrolments and purges that overlap. -/
def secondFactor : Service MfaDb MfaRequest MfaCall where
  start
    | .verify v => .loadChallenge v
    | .enroll req => .loadEnrolling req
    | .confirm req => .loadConfirming req
    | .disable req => .loadDisabling req
    | .purge now => .commitPurge now
  next := nextMfa settings crypto totp

end

/-! ### What the writes of a verification do -/

section Writes

variable {settings : Settings} {crypto : Crypto} {v : Verification} {payload : Payload} {user : User}
  {membership : TenantMembership} {tenant : Tenant} {db db' : AuthDb} {code : String}
  {codes codes' : List BackupCode} {hash : String}

/-- The first unused code that the text matches is marked, and the others stay. -/
lemma takeBackupCode_eq_some (h : takeBackupCode crypto code codes = some codes') :
    ∃ hash before entry after, codes = before ++ entry :: after ∧
      codes' = before ++ { entry with used := true } :: after ∧
      entry.used = false ∧ entry.hash = hash ∧ matchedHash crypto code codes = some hash := by
  induction codes generalizing codes' with
  | nil => cases h
  | cons entry rest ih =>
      rw [takeBackupCode] at h
      by_cases hentry : entry.used = false ∧ crypto.verifyBackupCode entry.hash code = true
      · rw [if_pos hentry] at h
        obtain rfl := Option.some.inj h
        refine ⟨entry.hash, [], entry, rest, rfl, rfl, hentry.1, rfl, ?_⟩
        rw [matchedHash, List.find?_cons_of_pos (by simpa using hentry)]
        rfl
      · rw [if_neg hentry] at h
        obtain ⟨rest', hrest, rfl⟩ := Option.map_eq_some_iff.mp h
        obtain ⟨hash, before, found, after, rfl, rfl, hunused, hhash, hmatch⟩ := ih hrest
        refine ⟨hash, entry :: before, found, after, rfl, rfl, hunused, hhash, ?_⟩
        rw [matchedHash, List.find?_cons_of_neg (by simpa using hentry)]
        exact hmatch

/-- A code of another length is a one-time code, and writes nothing but its event. -/
lemma exec_checkCode_ok {now : Time}
    (h : Tx.exec (checkCode crypto now user code) db = (.ok (), db')) :
    (code.length = 8 ∧ ∃ codes', takeBackupCode crypto code user.totpBackupCodes = some codes' ∧
      db'.users = (db.updateUser user.id fun u => { u with totpBackupCodes := codes' }).users ∧
      db'.tokenBlacklist = db.tokenBlacklist) ∨
    (code.length ≠ 8 ∧ db'.users = db.users ∧ db'.tokenBlacklist = db.tokenBlacklist) := by
  rw [checkCode] at h
  by_cases hlength : code.length = 8
  · left
    rw [if_pos hlength] at h
    cases htake : takeBackupCode crypto code user.totpBackupCodes with
    | none =>
        rw [htake] at h
        simp [Auth.logEvent] at h
    | some codes' =>
        rw [htake] at h
        simp only [Auth.logEvent, Tx.exec_modify_bind, Tx.exec_modify, Prod.mk.injEq] at h
        exact ⟨hlength, codes', rfl, by rw [← h.2]; rfl, by rw [← h.2]; rfl⟩
  · right
    rw [if_neg hlength] at h
    refine ⟨hlength, ?_⟩
    split at h
    · simp at h
    · rw [Tx.exec_ite] at h
      split at h
      · simp only [Auth.logEvent, Tx.exec_modify, Prod.mk.injEq] at h
        exact ⟨by rw [← h.2]; rfl, by rw [← h.2]; rfl⟩
      · simp [Auth.logEvent] at h

/-- **A verification that commits**: its challenge was not spent and is now, and the codes of the
account are those it loaded, with the accepted one used up. -/
lemma exec_verifiedBody_ok {resp : AuthResponse}
    (h : Tx.exec (verifiedBody settings crypto v payload user membership tenant) db
      = (.ok resp, db')) :
    (db'.users = db.users ∧ v.request.code.length ≠ 8 ∨
      v.request.code.length = 8 ∧
        ∃ codes', takeBackupCode crypto v.request.code user.totpBackupCodes = some codes' ∧
          db'.users = (db.updateUser user.id fun u => { u with totpBackupCodes := codes' }).users) ∧
    (payload.jti = "" ∧ db'.tokenBlacklist = db.tokenBlacklist ∨
      payload.jti ∉ db.tokenBlacklist.map (·.jti) ∧
        db'.tokenBlacklist = db.tokenBlacklist ++ [spentEntry payload user]) := by
  obtain ⟨_, db₁, hcode, hrest⟩ := Tx.exec_bind_eq_ok.mp h
  obtain ⟨_, db₂, hspend, hrest⟩ := Tx.exec_bind_eq_ok.mp hrest
  obtain ⟨resp', db₃, hcreate, hlog⟩ := Tx.exec_bind_eq_ok.mp hrest
  obtain ⟨rfl, -, -⟩ := exec_createSessionTokens hcreate
  simp only [Auth.logEvent, Tx.exec_modify_bind, Tx.exec_pure, Prod.mk.injEq] at hlog
  obtain ⟨-, rfl⟩ := hlog
  have hspent : db₂.users = db₁.users ∧
      (payload.jti = "" ∧ db₂.tokenBlacklist = db₁.tokenBlacklist ∨
        payload.jti ∉ db₁.tokenBlacklist.map (·.jti) ∧
          db₂.tokenBlacklist = db₁.tokenBlacklist ++ [spentEntry payload user]) := by
    rw [spendRow, Tx.exec_ite] at hspend
    by_cases hjti : payload.jti = ""
    · rw [if_pos hjti, Tx.exec_pure, Prod.mk.injEq] at hspend
      obtain ⟨-, rfl⟩ := hspend
      exact ⟨rfl, Or.inl ⟨hjti, rfl⟩⟩
    · rw [if_neg hjti, blacklistToken, Tx.exec_get_bind, Tx.exec_ite] at hspend
      split at hspend
      · simp at hspend
      · rename_i hnew
        simp only [Tx.exec_modify, Prod.mk.injEq] at hspend
        obtain ⟨-, rfl⟩ := hspend
        exact ⟨rfl, Or.inr ⟨hnew, rfl⟩⟩
  rcases exec_checkCode_ok hcode with
    ⟨hlength, codes', htake, husers, hlist⟩ | ⟨hlength, husers, hlist⟩
  · rw [husers, hlist] at hspent
    exact ⟨Or.inr ⟨hlength, codes', htake, hspent.1⟩, hspent.2⟩
  · rw [husers, hlist] at hspent
    exact ⟨Or.inl ⟨hspent.1, hlength⟩, hspent.2⟩

end Writes

/-! ### A verification that nobody interrupts -/

section Uninterrupted

variable {settings : Settings} {crypto : Crypto} {totp : TotpCrypto} {v : Verification}
  {payload : Payload} {user : User} {db : MfaDb} {w : World}

lemma exec_onDb {α : Type} (body : Request α) (w : World) :
    Tx.exec (onDb body) w = ((Tx.exec body w.db).1, { w with db := (Tx.exec body w.db).2 }) := by
  simp only [onDb, Tx.exec_get_bind, Tx.exec_set_bind, Tx.exec_liftM]

lemma exec_loadChallenge_snd (now : Time) (token : Option Payload) :
    (Tx.exec (loadChallenge settings now token) w).2 = w := by
  rw [loadChallenge, Tx.exec_get_bind]
  split
  · rfl
  · simp only [Tx.exec_ite]
    split_ifs <;> rfl

lemma exec_challengedUser_snd : (Tx.exec (challengedUser payload) w).2 = w := by
  rw [challengedUser, Tx.exec_get_bind]
  split <;> rfl

/-- The tables that the membership is read from stay as they are until the session is opened. -/
lemma getMembership_checked {now : Time} {code : String} {d : AuthDb} (userId : String) :
    (Tx.exec (spendRow payload user) (Tx.exec (checkCode crypto now user code) d).2).2.getMembership
      userId none = d.getMembership userId none := by
  have hcode : (Tx.exec (checkCode crypto now user code) d).2.getMembership userId none
      = d.getMembership userId none := by
    rw [checkCode]
    split
    · split
      · simp [Auth.logEvent]
        rfl
      · simp [Auth.logEvent]
        rfl
    · split
      · rfl
      · split
        · rfl
        · simp [Auth.logEvent]
          rfl
  rw [← hcode, spendRow]
  split
  · rfl
  · rw [blacklistToken, Tx.exec_get_bind, Tx.exec_ite]
    split <;> rfl

/-- The key in Redis does not depend on the database. -/
lemma exec_spendInRedis (w : World) (d : AuthDb) :
    Tx.exec (spendInRedis v payload) { w with db := d }
      = ((Tx.exec (spendInRedis v payload) w).1,
          { (Tx.exec (spendInRedis v payload) w).2 with db := d }) := by
  rw [spendInRedis]
  split
  · rfl
  · simp only [blacklistInRedis, Tx.exec_get_bind, Tx.exec_ite]
    split <;> rfl

lemma db_spendInRedis (w : World) : (Tx.exec (spendInRedis v payload) w).2.db = w.db := by
  have h := @exec_spendInRedis v payload w w.db
  exact congrArg (fun p => p.2.db) h

/-- A challenge is spent in Redis first. -/
lemma exec_spendChallenge (w : World) :
    Tx.exec (spendChallenge v.now payload user) w
      = Tx.exec (do spendInRedis v payload; onDb (spendRow payload user)) w := by
  rw [spendChallenge, spendInRedis, spendRow]
  split
  · rfl
  · rfl

/-- The writes after the loads, and the raw effect of the rest of `verifyMfa`. -/
lemma exec_openVerified {d d₁ d₂ : AuthDb}
    (hcode : Tx.exec (checkCode crypto v.now user v.request.code) d = (.ok (), d₁))
    (hspend : Tx.exec (spendRow payload user) d₁ = (.ok (), d₂)) {membership : TenantMembership}
    {tenant : Tenant} (hmember : d.getMembership user.id none = some (membership, tenant)) :
    Tx.exec (openVerified settings crypto v.now v.draws user) d₂
      = Tx.exec (verifiedBody settings crypto v payload user membership tenant) d := by
  have hsame := @getMembership_checked crypto payload user v.now v.request.code d user.id
  rw [hcode, hspend, hmember] at hsame
  rw [openVerified, Tx.exec_get_bind, verifiedBody, Tx.exec_bind_ok hcode, Tx.exec_bind_ok hspend]
  simp only [hsame]

/-- A verification that raises keeps nothing but what it wrote to Redis. -/
lemma getDbCached_of_error {e : ECLException} {w w' : World}
    (h : Tx.exec (verifyMfa settings crypto v.now v.draws v.request) w = (.error e, w')) :
    (getDbCached (verifyMfa settings crypto v.now v.draws v.request) w).2
      = { w with redis := w'.redis } := by
  rw [getDbCached, Tx.commitWith, h]

/-- What is left of a verification once its code is checked. -/
lemma exec_verifyMfa_checked {w : World} {d₁ : AuthDb}
    (hl : Tx.exec (loadChallenge settings v.now v.request.challengeToken) w = (.ok payload, w))
    (hu : Tx.exec (challengedUser payload) w = (.ok user, w))
    (hc : Tx.exec (checkCode crypto v.now user v.request.code) w.db = (.ok (), d₁)) :
    Tx.exec (verifyMfa settings crypto v.now v.draws v.request) w
      = Tx.exec (do spendChallenge v.now payload user
                    onDb (openVerified settings crypto v.now v.draws user)) { w with db := d₁ } := by
  have hcode := @exec_onDb Unit (checkCode crypto v.now user v.request.code) w
  rw [hc] at hcode
  exact (Tx.exec_bind_ok hl).trans ((Tx.exec_bind_ok hu).trans (Tx.exec_bind_ok hcode))

/-- The key in Redis comes before the row. -/
lemma exec_spendChallenge_of {w w₂ : World} {d : AuthDb} {r : Except ECLException Unit}
    (hr : Tx.exec (spendInRedis v payload) w = (r, w₂)) :
    Tx.exec (spendChallenge v.now payload user) { w with db := d }
      = Tx.exec (liftM r >>= fun _ => onDb (spendRow payload user)) { w₂ with db := d } := by
  rw [exec_spendChallenge, Tx.exec_bind, exec_spendInRedis, hr, Tx.exec_bind, Tx.exec_liftM]

/-- What Redis holds of a challenge does not touch the database. -/
lemma world_spendInRedis {w w₂ : World} {r : Except ECLException Unit}
    (hr : Tx.exec (spendInRedis v payload) w = (r, w₂)) :
    w₂.db = w.db ∧ w₂ = { w with redis := w₂.redis } := by
  have hkept := @db_spendInRedis v payload w
  rw [hr] at hkept
  refine ⟨hkept, ?_⟩
  obtain ⟨auth, redis⟩ := w₂
  exact congrArg (fun d => World.mk d redis) hkept

/-- The code of a verification is checked and the key in Redis is set. -/
structure CodeChecked (settings : Settings) (crypto : Crypto) (v : Verification) (payload : Payload)
    (user : User) (w w₂ : World) (d₁ : AuthDb) : Prop where
  challenge : Tx.exec (loadChallenge settings v.now v.request.challengeToken) w = (.ok payload, w)
  account : Tx.exec (challengedUser payload) w = (.ok user, w)
  code : Tx.exec (checkCode crypto v.now user v.request.code) w.db = (.ok (), d₁)
  key : Tx.exec (spendInRedis v payload) w = (.ok (), w₂)

section

variable {w₂ : World} {d₁ d₂ : AuthDb} {r : Except ECLException Unit}

/-- What is left of the verification then: the row of the challenge, and the session. -/
lemma CodeChecked.exec_rest (h : CodeChecked settings crypto v payload user w w₂ d₁)
    (hs : Tx.exec (spendRow payload user) d₁ = (r, d₂)) :
    Tx.exec (verifyMfa settings crypto v.now v.draws v.request) w
      = Tx.exec (liftM r >>= fun _ => onDb (openVerified settings crypto v.now v.draws user))
          { w₂ with db := d₂ } := by
  have hrow : Tx.exec (spendChallenge v.now payload user) { w with db := d₁ }
      = (r, { w₂ with db := d₂ }) := by
    rw [exec_spendChallenge_of h.key]
    change Tx.exec (onDb (spendRow payload user)) { w₂ with db := d₁ } = _
    rw [exec_onDb, hs]
  rw [exec_verifyMfa_checked h.challenge h.account h.code, Tx.exec_bind, hrow, Tx.exec_bind,
    Tx.exec_liftM]

/-- A verification that raises leaves the key in Redis. -/
lemma CodeChecked.world_of_error (h : CodeChecked settings crypto v payload user w w₂ d₁)
    {e : ECLException} {d₃ : AuthDb}
    (herror : Tx.exec (verifyMfa settings crypto v.now v.draws v.request) w
      = (.error e, { w₂ with db := d₃ })) :
    (getDbCached (verifyMfa settings crypto v.now v.draws v.request) w).2 = w₂ :=
  (getDbCached_of_error herror).trans (world_spendInRedis h.key).2.symm

/-- The account is no longer a member of a workspace. -/
lemma CodeChecked.world_of_none (h : CodeChecked settings crypto v payload user w w₂ d₁)
    (hm : w.db.getMembership user.id none = none) :
    (getDbCached (verifyMfa settings crypto v.now v.draws v.request) w).2 = w₂ := by
  rcases hs : Tx.exec (spendRow payload user) d₁ with ⟨r, d₂⟩
  have hmember := @getMembership_checked crypto payload user v.now v.request.code w.db user.id
  rw [h.code, hs, hm] at hmember
  have hthrow : Tx.exec (openVerified settings crypto v.now v.draws user) d₂
      = (.error notTenantMember, d₂) := by
    rw [openVerified, Tx.exec_get_bind]
    simp only [hmember]
    rfl
  rcases r with e | done
  · exact h.world_of_error ((h.exec_rest hs).trans (Tx.exec_bind_error rfl))
  · have hlast : Tx.exec (verifyMfa settings crypto v.now v.draws v.request) w
        = (.error notTenantMember, { w₂ with db := d₂ }) := by
      rw [h.exec_rest hs]
      exact (Tx.exec_bind_ok rfl).trans ((exec_onDb _ _).trans (by rw [hthrow]))
    exact h.world_of_error hlast

/-- The account is still a member, and the last statement commits. -/
lemma CodeChecked.world_of_some {row : TenantMembership × Tenant}
    (h : CodeChecked settings crypto v payload user db.world w₂ d₁)
    (hm : db.world.db.getMembership user.id none = some row) :
    (commitVerification settings crypto v payload user row.1 row.2 { db with world := w₂ }).world
      = (getDbCached (verifyMfa settings crypto v.now v.draws v.request) db.world).2 := by
  obtain ⟨hkept, hsame⟩ := world_spendInRedis h.key
  rcases hs : Tx.exec (spendRow payload user) d₁ with ⟨r, d₂⟩
  rcases r with e | done
  · have hbody : Tx.exec (verifiedBody settings crypto v payload user row.1 row.2) w₂.db
        = (.error e, d₂) := by
      rw [hkept]
      exact (Tx.exec_bind_ok h.code).trans (Tx.exec_bind_error hs)
    rw [h.world_of_error ((h.exec_rest hs).trans (Tx.exec_bind_error rfl)), commitVerification,
      hbody]
  · have hopen := @exec_openVerified settings crypto v payload user db.world.db d₁ d₂ h.code hs
      row.1 row.2 hm
    rcases hb : Tx.exec (verifiedBody settings crypto v payload user row.1 row.2) db.world.db
      with ⟨r, d₃⟩
    have hlast : Tx.exec (verifyMfa settings crypto v.now v.draws v.request) db.world
        = (r, { w₂ with db := d₃ }) := by
      rw [h.exec_rest hs]
      refine (Tx.exec_bind_ok rfl).trans ((exec_onDb _ _).trans ?_)
      rw [hopen, hb]
    have hbody : Tx.exec (verifiedBody settings crypto v payload user row.1 row.2) w₂.db
        = (r, d₃) := by rw [hkept, hb]
    rw [commitVerification, hbody]
    rcases r with e | resp
    · exact (h.world_of_error hlast).symm
    · rw [getDbCached, Tx.commitWith_of_ok hlast]

end

/-- The last two statements, after a checked code and a key in Redis. -/
lemma finish_loadMembership {w₂ : World} {d₁ : AuthDb}
    (h : CodeChecked settings crypto v payload user db.world w₂ d₁) :
    ((secondFactor settings crypto totp).finish 2 { db with world := w₂ }
        (.loadMembership v payload user)).world
      = (getDbCached (verifyMfa settings crypto v.now v.draws v.request) db.world).2 := by
  have hnext₄ : (secondFactor settings crypto totp).next { db with world := w₂ }
      (.loadMembership v payload user) = ({ db with world := w₂ },
        (db.world.db.getMembership user.id none).map fun row =>
          .commitVerified v payload user row.1 row.2) := by
    change (_, Option.map _ (w₂.db.getMembership user.id none)) = _
    rw [(world_spendInRedis h.key).1]
  cases hm : db.world.db.getMembership user.id none with
  | none =>
      rw [hm] at hnext₄
      rw [h.world_of_none hm]
      exact congrArg MfaDb.world (Service.finish_none (n := 1) hnext₄)
  | some row =>
      rw [hm] at hnext₄
      have hnext₅ : (secondFactor settings crypto totp).next { db with world := w₂ }
          (.commitVerified v payload user row.1 row.2)
          = (commitVerification settings crypto v payload user row.1 row.2
              { db with world := w₂ }, none) := rfl
      rw [Service.finish_some hnext₄, Service.finish_none hnext₅]
      exact h.world_of_some hm

/-- **A verification that nobody interrupts** is `verifyMfa` in its transaction. -/
lemma serve_verify :
    ((secondFactor settings crypto totp).serve 5 db (.verify v)).world
      = (getDbCached (verifyMfa settings crypto v.now v.draws v.request) db.world).2 := by
  have hload := @exec_loadChallenge_snd settings db.world v.now v.request.challengeToken
  rcases hl : Tx.exec (loadChallenge settings v.now v.request.challengeToken) db.world with ⟨r, w₀⟩
  rw [hl] at hload
  obtain rfl : w₀ = db.world := hload
  have hnext₁ : (secondFactor settings crypto totp).next db (.loadChallenge v)
      = (db, r.toOption.map (.loadAccount v)) := by
    change (db, Option.map _ (Tx.exec _ _).1.toOption) = _
    rw [hl]
  rcases r with e | payload
  · rw [getDbCached_of_error (Tx.exec_bind_error hl)]
    exact congrArg MfaDb.world (Service.finish_none hnext₁)
  have huser := @exec_challengedUser_snd payload db.world
  rcases hu : Tx.exec (challengedUser payload) db.world with ⟨r, w₁⟩
  rw [hu] at huser
  obtain rfl : w₁ = db.world := huser
  have hnext₂ : (secondFactor settings crypto totp).next db (.loadAccount v payload)
      = (db, r.toOption.bind fun user =>
          (Tx.exec (checkCode crypto v.now user v.request.code) db.world.db).1.toOption.map
            fun _ => .setSpent v payload user) := by
    change (db, Option.bind (Tx.exec _ _).1.toOption _) = _
    rw [hu]
  have hserve : (secondFactor settings crypto totp).serve 5 db (.verify v)
      = (secondFactor settings crypto totp).finish 4 db (.loadAccount v payload) :=
    Service.finish_some hnext₁
  rw [hserve]
  rcases r with e | user
  · rw [getDbCached_of_error ((Tx.exec_bind_ok hl).trans (Tx.exec_bind_error hu))]
    exact congrArg MfaDb.world (Service.finish_none hnext₂)
  rcases hc : Tx.exec (checkCode crypto v.now user v.request.code) db.world.db with ⟨r, d₁⟩
  have hnext₂ : (secondFactor settings crypto totp).next db (.loadAccount v payload)
      = (db, r.toOption.map fun _ => .setSpent v payload user) := by
    rw [hnext₂]
    change (db, Option.map _ (Tx.exec _ _).1.toOption) = _
    rw [hc]
  rcases r with e | done
  · have hcode := @exec_onDb Unit (checkCode crypto v.now user v.request.code) db.world
    rw [hc] at hcode
    rw [getDbCached_of_error ((Tx.exec_bind_ok hl).trans
      ((Tx.exec_bind_ok hu).trans (Tx.exec_bind_error hcode)))]
    exact congrArg MfaDb.world (Service.finish_none hnext₂)
  rw [Service.finish_some hnext₂]
  -- the key in Redis, which no rollback takes back
  rcases hr : Tx.exec (spendInRedis v payload) db.world with ⟨r, w₂⟩
  have hnext₃ : (secondFactor settings crypto totp).next db (.setSpent v payload user)
      = ({ db with world := w₂ }, r.toOption.map fun _ => .loadMembership v payload user) := by
    change nextMfa settings crypto totp db (.setSpent v payload user) = _
    rw [nextMfa, hr]
  rcases r with e | done
  · have hspend : Tx.exec (spendChallenge v.now payload user) { db.world with db := d₁ }
        = (.error e, { w₂ with db := d₁ }) :=
      (exec_spendChallenge_of hr).trans (Tx.exec_bind_error rfl)
    rw [getDbCached_of_error ((exec_verifyMfa_checked hl hu hc).trans (Tx.exec_bind_error hspend)),
      ← (world_spendInRedis hr).2]
    exact congrArg MfaDb.world (Service.finish_none hnext₃)
  rw [Service.finish_some hnext₃]
  exact finish_loadMembership ⟨hl, hu, hc, hr⟩

end Uninterrupted

/-! ### The order of the statements -/

/-- The statements of a request, with the account it loads. -/
inductive Follows (db : MfaDb) : MfaCall → MfaCall → Prop
  | loadAccount {v p} : Follows db (.loadChallenge v) (.loadAccount v p)
  | setSpent {v p user} (h : user ∈ db.world.db.users) :
      Follows db (.loadAccount v p) (.setSpent v p user)
  | loadMembership {v p user} : Follows db (.setSpent v p user) (.loadMembership v p user)
  | commitVerified {v p user m t} :
      Follows db (.loadMembership v p user) (.commitVerified v p user m t)
  | setPending {req user} : Follows db (.loadEnrolling req) (.setPending req user)
  | getPending {req user} : Follows db (.loadConfirming req) (.getPending req user)
  | deletePending {req user secret} :
      Follows db (.getPending req user) (.deletePending req user secret)
  | commitEnrolled {req user secret} :
      Follows db (.deletePending req user secret) (.commitEnrolled req user secret)
  | commitDisabled {req user} (h : user ∈ db.world.db.users) :
      Follows db (.loadDisabling req) (.commitDisabled req user)

section Statements

variable {settings : Settings} {crypto : Crypto} {totp : TotpCrypto} {db : MfaDb}

lemma mem_of_getActiveUserById {d : AuthDb} {userId : String} {user : User}
    (h : d.getActiveUserById userId = some user) : user ∈ d.users := by
  rw [AuthDb.getActiveUserById, Option.filter_eq_some_iff] at h
  exact List.mem_of_find?_eq_some h.1

lemma challengeToken_of_loadChallenge {now : Time} {token : Option Payload} {payload : Payload}
    {w : World} (h : (Tx.exec (loadChallenge settings now token) w).1 = .ok payload) :
    payload ∈ token := by
  rw [loadChallenge, Tx.exec_get_bind] at h
  split at h
  · cases h
  · rename_i found hdecode
    rw [Tx.exec_ite, Tx.exec_ite] at h
    split_ifs at h
    · cases h
    · cases h
    obtain rfl := Except.ok.inj h
    cases token with
    | none =>
        rw [decodeAccessToken.eq_def] at hdecode
        split_ifs at hdecode
    | some found' =>
        rw [decodeAccessToken.eq_def] at hdecode
        simp only at hdecode
        split_ifs at hdecode
        exact congrArg some (Except.ok.inj hdecode)

lemma mem_of_challengedUser {payload : Payload} {user : User} {w : World}
    (h : (Tx.exec (challengedUser payload) w).1 = .ok user) : user ∈ w.db.users := by
  rw [challengedUser, Tx.exec_get_bind] at h
  split at h
  · cases h
  · rename_i found hfound
    obtain rfl := Except.ok.inj h
    exact mem_of_getActiveUserById hfound

lemma mem_of_getCurrentUser {now : Time} {token : Option Payload} {user : User} {w : World}
    (h : getCurrentUser settings now w token = .ok user) : user ∈ w.db.users := by
  obtain ⟨payload, -, h⟩ := bind_eq_ok.mp h
  split at h
  · cases h
  · split at h
    · cases h
    · split at h
      · cases h
      · rename_i found hfound
        obtain rfl := Except.ok.inj h
        exact mem_of_getActiveUserById hfound

lemma toOption_eq_some {α : Type} {r : Except ECLException α} {a : α} (h : r.toOption = some a) :
    r = .ok a := by
  cases r with
  | error e => cases h
  | ok b => exact congrArg Except.ok (Option.some.inj h)

/-- A statement that another one follows leaves the database. -/
lemma follows_of_next {call call' : MfaCall}
    (h : (nextMfa settings crypto totp db call).2 = some call') :
    Follows db call call' ∧ (nextMfa settings crypto totp db call).1.world.db = db.world.db := by
  cases call with
  | loadChallenge v =>
      obtain ⟨payload, -, rfl⟩ := Option.map_eq_some_iff.mp h
      exact ⟨.loadAccount, rfl⟩
  | loadAccount v payload =>
      obtain ⟨user, huser, hrest⟩ := Option.bind_eq_some_iff.mp h
      obtain ⟨_, -, rfl⟩ := Option.map_eq_some_iff.mp hrest
      exact ⟨.setSpent (mem_of_challengedUser (toOption_eq_some huser)), rfl⟩
  | setSpent v payload user =>
      obtain ⟨_, -, rfl⟩ := Option.map_eq_some_iff.mp h
      exact ⟨.loadMembership, @db_spendInRedis v payload db.world⟩
  | loadMembership v payload user =>
      obtain ⟨row, -, rfl⟩ := Option.map_eq_some_iff.mp h
      exact ⟨.commitVerified, rfl⟩
  | loadEnrolling req =>
      obtain ⟨user, -, rfl⟩ := Option.map_eq_some_iff.mp h
      exact ⟨.setPending, rfl⟩
  | loadConfirming req =>
      obtain ⟨user, -, rfl⟩ := Option.map_eq_some_iff.mp h
      exact ⟨.getPending, rfl⟩
  | loadDisabling req =>
      obtain ⟨user, huser, hrest⟩ := Option.bind_eq_some_iff.mp h
      split at hrest
      · obtain rfl := Option.some.inj hrest
        exact ⟨.commitDisabled (mem_of_getCurrentUser (toOption_eq_some huser)), rfl⟩
      · cases hrest
  | setPending req user =>
      rw [nextMfa] at h
      split at h
      · cases h
      · cases h
  | getPending req user =>
      by_cases hup : db.world.redis.up = true
      · rw [nextMfa, if_pos hup] at h ⊢
        obtain ⟨p, -, rfl⟩ := Option.map_eq_some_iff.mp h
        exact ⟨.deletePending, rfl⟩
      · rw [nextMfa, if_neg hup] at h
        cases h
  | deletePending req user secret =>
      by_cases hup : db.world.redis.up = true
      · rw [nextMfa, if_pos hup] at h ⊢
        obtain rfl := Option.some.inj h
        exact ⟨.commitEnrolled, rfl⟩
      · rw [nextMfa, if_neg hup] at h
        cases h
  | commitPurge now => cases h
  | commitEnrolled req user secret => cases h
  | commitDisabled req user => cases h
  | commitVerified v payload user membership tenant => cases h

/-- The statements that are left. -/
def MfaCall.left : MfaCall → ℕ
  | .loadChallenge _ => 5
  | .loadAccount _ _ => 4
  | .setSpent _ _ _ => 3
  | .loadMembership _ _ _ => 2
  | .loadEnrolling _ => 2
  | .loadConfirming _ => 4
  | .getPending _ _ => 3
  | .deletePending _ _ _ => 2
  | .loadDisabling _ => 2
  | _ => 1

lemma left_of_follows {call call' : MfaCall} (h : Follows db call call') :
    call'.left < call.left := by
  cases h <;> simp [MfaCall.left]

/-- A request takes five statements at most. -/
lemma endsWithin_secondFactor (request : MfaRequest) :
    (secondFactor settings crypto totp).EndsWithin 5
      ((secondFactor settings crypto totp).start request) := by
  have hleft : ∀ n (call : MfaCall), call.left ≤ n →
      (secondFactor settings crypto totp).EndsWithin n call := by
    intro n
    induction n with
    | zero =>
        intro call hcall
        cases call <;> simp [MfaCall.left] at hcall
    | succ n ih =>
        intro call hcall db call' h
        have hless := left_of_follows (follows_of_next h).1
        exact ih call' (by omega)
  refine hleft 5 _ ?_
  cases request <;> simp [secondFactor, MfaCall.left]

end Statements

/-! An account with two recovery codes. -/

def enrolledAccount : User :=
  { id := "u1", email := "u1@bank.example", name := "U", hashedPassword := "argon2:old pass 1"
    totpEnabled := true, totpSecretEncrypted := some "123456"
    totpBackupCodes := [⟨"argon2:AAAA1111", false⟩, ⟨"argon2:BBBB2222", false⟩] }

def enrolledDb : MfaDb :=
  { world :=
      { db :=
          { users := [enrolledAccount]
            tenants := [{ id := "t1", name := "Bank" }]
            memberships := [{ id := "m1", userId := "u1", tenantId := "t1", role := "ANALYST"
                              joinedAt := 0 }] } }
    ledger := Function.update (fun _ => []) "u1" [("argon2:AAAA1111", 0), ("argon2:BBBB2222", 0)] }

def plainTotp : TotpCrypto where
  encryptTotpSecret := id
  verify secret code _ := secret == code

def signingKeys : Settings := { jwtPrivateKey := "private", jwtPublicKey := "public" }

def verification (n : ℕ) (jti code : String) : Verification :=
  { now := seconds n
    draws :=
      { familyId := toString n, refreshTokenId := toString n, rawRefresh := toString n
        sessionId := toString n, jti := toString n, userId := "", membershipId := "" }
    request :=
      { challengeToken := some
          { sub := "u1", type := some "mfa_challenge", jti := jti, iat := 0, exp := 120 }
        code := code } }

/-! ### The balance of the recovery codes -/

/-- The codes as they are stored, of a history. -/
def storedCodes (l : List (String × ℕ)) : List BackupCode :=
  l.map fun e => { hash := e.1, used := decide (0 < e.2) }

/-- The stored codes of every account are the issued ones, marked where they were accepted, and
none was accepted twice. -/
structure Balanced (db : MfaDb) : Prop where
  codes_eq : ∀ u ∈ db.world.db.users, u.totpBackupCodes = storedCodes (db.ledger u.id)
  once : ∀ u ∈ db.world.db.users, ∀ e ∈ db.ledger u.id, e.2 ≤ 1

/-- The ids of accounts differ, and the codes issued to one. -/
structure MfaDb.Distinct (db : MfaDb) : Prop where
  ids : (db.world.db.users.map (·.id)).Nodup
  hashes : ∀ userId, ((db.ledger userId).map Prod.fst).Nodup

/-- The codes that an enrolment draws differ. -/
def MfaRequest.Drawn : MfaRequest → Prop
  | .confirm req => req.hashes.Nodup
  | _ => True

def MfaCall.Drawn : MfaCall → Prop
  | .loadConfirming req => req.hashes.Nodup
  | .getPending req _ => req.hashes.Nodup
  | .deletePending req _ _ => req.hashes.Nodup
  | .commitEnrolled req _ _ => req.hashes.Nodup
  | _ => True

section Balance

variable {settings : Settings} {crypto : Crypto} {totp : TotpCrypto} {db : MfaDb}

/-- The account whose recovery codes a commit takes as it has loaded them: a verification by
recovery code, and the end of an enrolment without any. -/
def reliesOn (settings : Settings) (crypto : Crypto) (db : MfaDb) : MfaCall → Option User
  | .commitVerified v payload user membership tenant =>
      if (Tx.exec (verifiedBody settings crypto v payload user membership tenant)
          db.world.db).1.isOk = true ∧ v.request.code.length = 8 then some user
      else none
  | .commitDisabled _ user => if user.totpBackupCodes = [] then some user else none
  | _ => none

/-- The codes that are stored are those that the commit takes. -/
def ReadsFit (settings : Settings) (crypto : Crypto) (db : MfaDb) (call : MfaCall) : Prop :=
  ∀ user ∈ reliesOn settings crypto db call, ∀ u ∈ db.world.db.users, u.id = user.id →
    u.totpBackupCodes = user.totpBackupCodes

instance (db : MfaDb) (call : MfaCall) : Decidable (ReadsFit settings crypto db call) :=
  inferInstanceAs (Decidable (∀ user ∈ reliesOn settings crypto db call,
    ∀ u ∈ db.world.db.users, u.id = user.id → u.totpBackupCodes = user.totpBackupCodes))

lemma readsFit_of_none {call : MfaCall} (h : reliesOn settings crypto db call = none) :
    ReadsFit settings crypto db call := by
  intro user huser
  rw [h] at huser
  cases huser

lemma readsFit_of_some {call : MfaCall} {user : User}
    (h : reliesOn settings crypto db call = some user) :
    ReadsFit settings crypto db call ↔ ∀ u ∈ db.world.db.users, u.id = user.id →
      u.totpBackupCodes = user.totpBackupCodes := by
  rw [ReadsFit, h]
  exact ⟨fun hfit => hfit user rfl, fun hfit _ huser => Option.some.inj huser ▸ hfit⟩

/-- Only the one code is accepted. -/
lemma acceptCode_split {l₁ l₂ : List (String × ℕ)} {e : String × ℕ}
    (h : ((l₁ ++ e :: l₂).map Prod.fst).Nodup) :
    acceptCode e.1 (l₁ ++ e :: l₂) = l₁ ++ (e.1, e.2 + 1) :: l₂ := by
  rw [List.map_append, List.map_cons, List.nodup_middle, List.nodup_cons, List.mem_append] at h
  have hother : ∀ l : List (String × ℕ), e.1 ∉ l.map Prod.fst →
      l.map (fun e' => if e'.1 = e.1 then (e'.1, e'.2 + 1) else e') = l := by
    intro l hl
    refine (List.map_congr_left fun e' he' => if_neg fun heq => hl ?_).trans (List.map_id _)
    rw [← heq]
    exact List.mem_map_of_mem he'
  rw [acceptCode, List.map_append, List.map_cons, if_pos rfl, hother l₁ fun hm => h.1 (Or.inl hm),
    hother l₂ fun hm => h.1 (Or.inr hm)]

/-- **A code that is accepted** keeps history and store in agreement exactly where the codes it was
looked for among are those of the history. -/
lemma accept_iff {code hash : String} {codes codes' : List BackupCode} {l : List (String × ℕ)}
    (hnodup : (l.map Prod.fst).Nodup) (hfst : matchedHash crypto code codes = some hash)
    (htake : takeBackupCode crypto code codes = some codes') (honce : ∀ e ∈ l, e.2 ≤ 1) :
    (codes' = storedCodes (acceptCode hash l) ∧ ∀ e ∈ acceptCode hash l, e.2 ≤ 1)
      ↔ storedCodes l = codes := by
  obtain ⟨hash', before, entry, after, rfl, rfl, hunused, hhash, hmatch⟩ :=
    takeBackupCode_eq_some htake
  obtain rfl : hash' = hash := Option.some.inj (hmatch.symm.trans hfst)
  constructor
  · rintro ⟨hcodes, hcounts⟩
    have hsplit := hcodes
    rw [storedCodes, acceptCode, List.map_map] at hsplit
    obtain ⟨l₁, l', rfl, hbefore, hrest⟩ := List.map_eq_append_iff.mp hsplit.symm
    obtain ⟨e, l₂, rfl, hentry, -⟩ := List.map_eq_cons_iff.mp hrest
    have hkey : e.1 = hash' := by
      have hfirst := congrArg BackupCode.hash hentry
      rw [Function.comp_apply] at hfirst
      split at hfirst
      · exact hfirst.trans hhash
      · exact hfirst.trans hhash
    subst hkey
    rw [acceptCode_split hnodup] at hcodes hcounts
    -- counted once at most after the acceptance, the code was not accepted before it
    have hcount := hcounts (e.1, e.2 + 1) (List.mem_append_right _ List.mem_cons_self)
    have hzero : e.2 = 0 := by
      simp only at hcount
      omega
    rw [storedCodes, List.map_append, List.map_cons] at hcodes
    obtain ⟨hleft, hright⟩ := List.append_inj hcodes
      (by rw [← hbefore, List.length_map, List.length_map])
    rw [storedCodes, List.map_append, List.map_cons, ← hleft, ← (List.cons.inj hright).2, hzero]
    congr 2
    obtain ⟨stored, used⟩ := entry
    obtain rfl : used = false := hunused
    obtain rfl : stored = e.1 := hhash
    rfl
  · intro hcodes
    rw [storedCodes] at hcodes
    obtain ⟨l₁, l', rfl, hbefore, hrest⟩ := List.map_eq_append_iff.mp hcodes
    obtain ⟨e, l₂, rfl, hentry, hafter⟩ := List.map_eq_cons_iff.mp hrest
    have hkey : e.1 = hash' := (congrArg BackupCode.hash hentry).trans hhash
    subst hkey
    have hzero : e.2 = 0 := by
      have hused := (congrArg BackupCode.used hentry).trans hunused
      simpa using hused
    rw [acceptCode_split hnodup]
    refine ⟨?_, fun e' he' => ?_⟩
    · rw [storedCodes, List.map_append, List.map_cons, hbefore, hafter, ← hentry]
      simp
    · rcases List.mem_append.mp he' with hl | hr
      · exact honce e' (List.mem_append_left _ hl)
      · rcases List.mem_cons.mp hr with rfl | hr
        · rw [hzero]
        · exact honce e' (List.mem_append_right _ (List.mem_cons_of_mem _ hr))

/-- A write to one account keeps the balance exactly where it does so for that account. -/
lemma balanced_update_iff {db' : MfaDb} {userId : String} {f : User → User}
    {l : List (String × ℕ)} (h : Balanced db) (hf : ∀ u, (f u).id = u.id)
    (husers : db'.world.db.users = (db.world.db.updateUser userId f).users)
    (hledger : db'.ledger = Function.update db.ledger userId l) :
    Balanced db' ↔ ∀ u ∈ db.world.db.users, u.id = userId →
      (f u).totpBackupCodes = storedCodes l ∧ ∀ e ∈ l, e.2 ≤ 1 := by
  have hmem : ∀ u', u' ∈ db'.world.db.users ↔
      ∃ u ∈ db.world.db.users, (if u.id = userId then f u else u) = u' := by
    intro u'
    rw [husers]
    exact List.mem_map
  constructor
  · intro hbalanced u hu hid
    have hu' : f u ∈ db'.world.db.users := (hmem _).mpr ⟨u, hu, if_pos hid⟩
    have hl : db'.ledger (f u).id = l := by
      rw [hledger, hf, hid, Function.update_self]
    exact ⟨hl ▸ hbalanced.codes_eq _ hu', hl ▸ hbalanced.once _ hu'⟩
  · intro haccount
    have hone : ∀ u' ∈ db'.world.db.users, u'.totpBackupCodes = storedCodes (db'.ledger u'.id) ∧
        ∀ e ∈ db'.ledger u'.id, e.2 ≤ 1 := by
      intro u' hu'
      obtain ⟨u, hu, rfl⟩ := (hmem u').mp hu'
      by_cases hid : u.id = userId
      · rw [if_pos hid, hledger, hf, hid, Function.update_self]
        exact haccount u hu hid
      · rw [if_neg hid, hledger, Function.update_of_ne hid]
        exact ⟨h.codes_eq u hu, h.once u hu⟩
    exact ⟨fun u hu => (hone u hu).1, fun u hu => (hone u hu).2⟩

lemma balanced_congr {db' : MfaDb} (husers : db'.world.db.users = db.world.db.users)
    (hledger : db'.ledger = db.ledger) : Balanced db' ↔ Balanced db := by
  constructor
  · exact fun h => ⟨husers ▸ hledger ▸ h.codes_eq, husers ▸ hledger ▸ h.once⟩
  · exact fun h => ⟨husers ▸ hledger ▸ h.codes_eq, husers ▸ hledger ▸ h.once⟩

/-- A statement that writes neither the codes nor their record keeps the balance. -/
lemma balanced_iff_of_same {db' : MfaDb} {call : MfaCall} (h : Balanced db)
    (husers : db'.world.db.users = db.world.db.users) (hledger : db'.ledger = db.ledger)
    (hnone : reliesOn settings crypto db call = none) :
    Balanced db' ↔ ReadsFit settings crypto db call :=
  iff_of_true ((balanced_congr husers hledger).mpr h) (readsFit_of_none hnone)

/-- A verification that takes a recovery code keeps the balance where the codes it loaded are
still stored. -/
lemma balanced_commitVerified_iff {v : Verification} {payload : Payload} {user : User}
    {membership : TenantMembership} {tenant : Tenant} (hdb : db.Distinct) (h : Balanced db) :
    Balanced (nextMfa settings crypto totp db
        (.commitVerified v payload user membership tenant)).1
      ↔ ReadsFit settings crypto db (.commitVerified v payload user membership tenant) := by
  rw [nextMfa]
  rcases hbody : Tx.exec (verifiedBody settings crypto v payload user membership tenant)
    db.world.db with ⟨r, after⟩
  rcases r with e | resp
  · rw [commitVerification, hbody]
    refine balanced_iff_of_same h rfl rfl (if_neg fun hok => ?_)
    rw [hbody] at hok
    cases hok.1
  · rw [commitVerification, hbody]
    rcases (exec_verifiedBody_ok hbody).1 with ⟨husers, hlength⟩ | ⟨hlength, codes', htake, husers⟩
    · refine balanced_iff_of_same h husers ?_ (if_neg fun h8 => hlength h8.2)
      change acceptedLedger crypto v user db.ledger = db.ledger
      rw [acceptedLedger]
      split
      · rw [if_neg hlength]
      · rfl
    · obtain ⟨hash, -, -, -, -, -, -, -, hmatch⟩ := takeBackupCode_eq_some htake
      have hledger : acceptedLedger crypto v user db.ledger
          = Function.update db.ledger user.id (acceptCode hash (db.ledger user.id)) := by
        rw [acceptedLedger, hmatch]
        exact if_pos hlength
      -- afterwards store and history agree exactly where the codes it has read are still stored
      have haccept : ∀ u ∈ db.world.db.users, u.id = user.id →
          ((codes' = storedCodes (acceptCode hash (db.ledger user.id)) ∧
            ∀ e ∈ acceptCode hash (db.ledger user.id), e.2 ≤ 1)
            ↔ u.totpBackupCodes = user.totpBackupCodes) := by
        intro u hu hid
        rw [h.codes_eq u hu, hid]
        exact accept_iff (hdb.hashes user.id) hmatch htake (hid ▸ h.once u hu)
      have hrelies : reliesOn settings crypto db
          (.commitVerified v payload user membership tenant) = some user :=
        if_pos ⟨by rw [hbody]; rfl, hlength⟩
      rw [readsFit_of_some hrelies]
      refine (balanced_update_iff (f := fun u => { u with totpBackupCodes := codes' }) h
        (fun _ => rfl) husers hledger).trans ⟨fun hkept u hu hid => ?_, fun hfit u hu hid => ?_⟩
      · exact (haccept u hu hid).mp (hkept u hu hid)
      · exact (haccept u hu hid).mpr (hfit u hu hid)

/-- **The statements that keep the balance** are those that find what they have read. -/
lemma balanced_next_iff (hdb : db.Distinct) (h : Balanced db) (call : MfaCall) :
    Balanced (nextMfa settings crypto totp db call).1 ↔ ReadsFit settings crypto db call := by
  cases call with
  | loadChallenge v => exact balanced_iff_of_same h rfl rfl rfl
  | loadAccount v payload => exact balanced_iff_of_same h rfl rfl rfl
  | loadMembership v payload user => exact balanced_iff_of_same h rfl rfl rfl
  | loadEnrolling req => exact balanced_iff_of_same h rfl rfl rfl
  | loadConfirming req => exact balanced_iff_of_same h rfl rfl rfl
  | loadDisabling req => exact balanced_iff_of_same h rfl rfl rfl
  | commitPurge now => exact balanced_iff_of_same h rfl rfl rfl
  | setSpent v payload user =>
      exact balanced_iff_of_same h (congrArg AuthDb.users (@db_spendInRedis v payload db.world)) rfl
        rfl
  | setPending req user =>
      rw [nextMfa]
      split
      · exact balanced_iff_of_same h rfl rfl rfl
      · exact balanced_iff_of_same h rfl rfl rfl
  | getPending req user =>
      rw [nextMfa]
      split
      · exact balanced_iff_of_same h rfl rfl rfl
      · exact balanced_iff_of_same h rfl rfl rfl
  | deletePending req user secret =>
      rw [nextMfa]
      split
      · exact balanced_iff_of_same h rfl rfl rfl
      · exact balanced_iff_of_same h rfl rfl rfl
  | commitEnrolled req user secret =>
      refine iff_of_true ((balanced_update_iff (f := enrolledUser totp req user secret)
        (l := req.hashes.map fun hash => (hash, 0)) h (fun _ => rfl) rfl rfl).mpr ?_)
        (readsFit_of_none rfl)
      intro u hu hid
      constructor
      · rw [storedCodes, List.map_map]
        rfl
      · intro e he
        obtain ⟨hash, -, rfl⟩ := List.mem_map.mp he
        exact Nat.zero_le 1
  | commitDisabled req user =>
      refine (balanced_update_iff (f := disabledUser user) (l := []) h (fun _ => rfl) rfl
        rfl).trans ?_
      -- an account that was read without codes keeps what is stored: no write is made
      by_cases hnone : user.totpBackupCodes = []
      · have hrelies : reliesOn settings crypto db (.commitDisabled req user) = some user :=
          if_pos hnone
        rw [readsFit_of_some hrelies, hnone]
        refine ⟨fun hkept u hu hid => ?_, fun hfit u hu hid => ⟨?_, by simp⟩⟩
        · have hcodes := (hkept u hu hid).1
          rwa [disabledUser, hnone, if_pos rfl] at hcodes
        · rw [disabledUser, if_pos hnone]
          exact hfit u hu hid
      · refine iff_of_true (fun u hu hid => ⟨?_, by simp⟩) (readsFit_of_none (if_neg hnone))
        rw [disabledUser, if_neg hnone]
        rfl
  | commitVerified v payload user membership tenant => exact balanced_commitVerified_iff hdb h

/-- An update of a user keeps the ids of all. -/
lemma ids_updateUser {userId : String} {f : User → User} (d : AuthDb) (hf : ∀ u, (f u).id = u.id) :
    (d.updateUser userId f).users.map (·.id) = d.users.map (·.id) := by
  rw [AuthDb.updateUser, List.map_map]
  refine List.map_congr_left fun u _ => ?_
  rw [Function.comp_apply]
  split
  · exact hf u
  · rfl

lemma fst_acceptCode (hash : String) (l : List (String × ℕ)) :
    (acceptCode hash l).map Prod.fst = l.map Prod.fst := by
  rw [acceptCode, List.map_map]
  refine List.map_congr_left fun e _ => ?_
  rw [Function.comp_apply]
  split
  · rfl
  · rfl

lemma MfaDb.Distinct.update_ledger (h : db.Distinct) {userId : String} {l : List (String × ℕ)}
    (hl : (l.map Prod.fst).Nodup) (u : String) :
    ((Function.update db.ledger userId l u).map Prod.fst).Nodup := by
  by_cases hu : u = userId
  · rw [hu, Function.update_self]
    exact hl
  · rw [Function.update_of_ne hu]
    exact h.hashes u

/-- A verification keeps the ids, and the codes of its account. -/
lemma distinct_commitVerified {v : Verification} {payload : Payload} {user : User}
    {membership : TenantMembership} {tenant : Tenant} (h : db.Distinct) :
    (nextMfa settings crypto totp db
      (.commitVerified v payload user membership tenant)).1.Distinct := by
  rw [nextMfa]
  rcases hbody : Tx.exec (verifiedBody settings crypto v payload user membership tenant)
    db.world.db with ⟨r, after⟩
  rw [commitVerification, hbody]
  rcases r with e | resp
  · exact h
  refine ⟨?_, ?_⟩
  · change (after.users.map (·.id)).Nodup
    rcases (exec_verifiedBody_ok hbody).1 with ⟨husers, -⟩ | ⟨-, codes', -, husers⟩
    · rw [husers]
      exact h.ids
    · rw [husers]
      refine (congrArg List.Nodup (ids_updateUser db.world.db fun u => ?_)).mpr h.ids
      rfl
  · change ∀ u, ((acceptedLedger crypto v user db.ledger u).map Prod.fst).Nodup
    rw [acceptedLedger]
    cases matchedHash crypto v.request.code user.totpBackupCodes with
    | none => exact h.hashes
    | some hash =>
        by_cases hlength : v.request.code.length = 8
        · simp only [if_pos hlength]
          exact h.update_ledger ((fst_acceptCode _ _).symm ▸ h.hashes user.id)
        · simp only [if_neg hlength]
          exact h.hashes

/-- Ids stay distinct, and so do the codes of an account. -/
lemma distinct_next (h : db.Distinct) {call : MfaCall} (hcall : call.Drawn) :
    (nextMfa settings crypto totp db call).1.Distinct := by
  cases call with
  | loadChallenge v => exact h
  | loadAccount v payload => exact h
  | loadMembership v payload user => exact h
  | loadEnrolling req => exact h
  | loadConfirming req => exact h
  | loadDisabling req => exact h
  | commitPurge now => exact ⟨h.ids, h.hashes⟩
  | setSpent v payload user =>
      exact ⟨(@db_spendInRedis v payload db.world).symm ▸ h.ids, h.hashes⟩
  | setPending req user =>
      rw [nextMfa]
      split
      · exact ⟨h.ids, h.hashes⟩
      · exact h
  | getPending req user =>
      rw [nextMfa]
      split
      · exact h
      · exact h
  | deletePending req user secret =>
      rw [nextMfa]
      split
      · exact ⟨h.ids, h.hashes⟩
      · exact h
  | commitEnrolled req user secret =>
      refine ⟨?_, h.update_ledger ?_⟩
      · refine (congrArg List.Nodup (ids_updateUser db.world.db fun u => ?_)).mpr h.ids
        rfl
      · rw [List.map_map]
        exact (List.map_id req.hashes).symm ▸ hcall
  | commitDisabled req user =>
      refine ⟨(congrArg List.Nodup (ids_updateUser db.world.db fun u => ?_)).mpr h.ids,
        h.update_ledger List.nodup_nil⟩
      rfl
  | commitVerified v payload user membership tenant => exact distinct_commitVerified h

/-- A request carries the codes it has drawn. -/
lemma drawn_next {call call' : MfaCall} (hcall : call.Drawn)
    (h : (nextMfa settings crypto totp db call).2 = some call') : call'.Drawn := by
  cases (follows_of_next h).1 with
  | getPending => exact hcall
  | deletePending => exact hcall
  | commitEnrolled => exact hcall
  | _ => trivial

/-- **Requests that overlap** keep the stored codes and their history in agreement, each code
accepted once at most, if and only if every commit finds stored what its request has loaded. -/
theorem recoveryCodes_balanced_iff (hdb : db.Distinct) (h : Balanced db)
    {as : List (SharedAction MfaRequest)}
    (hdrawn : EachStep (secondFactor settings crypto totp).step
      (Service.Admits MfaRequest.Drawn) { db := db } as) :
    Always (secondFactor settings crypto totp).step (fun st => Balanced st.db) { db := db } as
      ↔ EachStep (secondFactor settings crypto totp).step
          (Service.Meets (ReadsFit settings crypto)) { db := db } as := by
  have hstart : ∀ request : MfaRequest, request.Drawn →
      ((secondFactor settings crypto totp).start request).Drawn := by
    intro request hrequest
    cases request with
    | verify v => trivial
    | enroll req => trivial
    | confirm req => exact hrequest
    | disable req => trivial
    | purge now => trivial
  exact Service.always_iff (I := MfaDb.Distinct) (J := MfaCall.Drawn) hstart
    (fun _ _ hd hcall => ⟨distinct_next hd hcall, fun _ hnext => drawn_next hcall hnext⟩)
    (fun _ call hd _ hbalanced => balanced_next_iff hd hbalanced call)
    ⟨hdb, fun _ hmem => absurd hmem List.not_mem_nil⟩ h hdrawn

/-- Both requests have loaded the account before one commits. -/
def twoCodes : List (SharedAction MfaRequest) :=
  [.arrive (.verify (verification 1 "c1" "AAAA1111")),
    .arrive (.verify (verification 2 "c2" "BBBB2222")), .advance 0, .advance 1, .advance 0,
    .advance 1, .advance 0, .advance 0, .advance 0, .advance 0, .advance 0, .advance 0]

lemma distinct_enrolledDb : enrolledDb.Distinct := by
  refine ⟨by decide, fun userId => ?_⟩
  by_cases hid : userId = "u1"
  · rw [hid]
    decide
  · have hnone : enrolledDb.ledger userId = [] := Function.update_of_ne hid _ fun _ => []
    rw [hnone]
    exact List.nodup_nil

lemma balanced_enrolledDb : Balanced enrolledDb := by
  refine ⟨?_, ?_⟩
  · decide
  · decide

/-- The second commit stores the first code as unused again. -/
theorem recoveryCodes_balanced_iff_sample :
    ¬ Always (secondFactor signingKeys plainCrypto plainTotp).step (fun st => Balanced st.db)
      { db := enrolledDb } twoCodes := by
  have hdrawn : ∀ a ∈ twoCodes, ∀ b : MfaRequest, a = .arrive b → b.Drawn := by
    intro a ha b hab
    subst hab
    simp only [twoCodes, List.mem_cons, SharedAction.arrive.injEq, reduceCtorEq, or_false,
      List.not_mem_nil] at ha
    rcases ha with rfl | rfl
    · trivial
    · trivial
  rw [recoveryCodes_balanced_iff distinct_enrolledDb balanced_enrolledDb (EachStep.of_mem hdrawn _)]
  decide +kernel

/-! ### Requests one after the other -/

/-- The account that a request has loaded is the one that is stored. -/
def MfaCall.Knows (db : MfaDb) : MfaCall → Prop
  | .setSpent _ _ user => user ∈ db.world.db.users
  | .loadMembership _ _ user => user ∈ db.world.db.users
  | .commitVerified _ _ user _ _ => user ∈ db.world.db.users
  | .commitDisabled _ user => user ∈ db.world.db.users
  | _ => True

lemma knows_congr {db' : MfaDb} (h : db'.world.db = db.world.db) {call : MfaCall} :
    call.Knows db' ↔ call.Knows db := by
  cases call <;> simp [MfaCall.Knows, h]

/-- What a request knows stays true while nobody interrupts it. -/
lemma knows_next {call call' : MfaCall} (hcall : call.Knows db)
    (h : (nextMfa settings crypto totp db call).2 = some call') :
    call'.Knows (nextMfa settings crypto totp db call).1 := by
  obtain ⟨hfollows, hsame⟩ := follows_of_next h
  have hknows : call'.Knows db := by
    cases hfollows with
    | setSpent huser => exact huser
    | loadMembership => exact hcall
    | commitVerified => exact hcall
    | commitDisabled huser => exact huser
    | _ => trivial
  exact (knows_congr hsame).mpr hknows

/-- A request that nobody interrupts finds what it has loaded. -/
lemma readsFit_of_knows (hdb : db.Distinct) {call : MfaCall} (h : call.Knows db) :
    ReadsFit settings crypto db call := by
  have hsame : ∀ {u user : User}, u ∈ db.world.db.users → user ∈ db.world.db.users →
      u.id = user.id → u = user := fun hu huser hid =>
    List.inj_on_of_nodup_map hdb.ids hu huser hid
  cases call with
  | commitVerified v payload user membership tenant =>
      intro loaded hloaded u hu hid
      rw [reliesOn] at hloaded
      split_ifs at hloaded
      · obtain rfl := Option.some.inj hloaded
        rw [hsame hu h hid]
      · cases hloaded
  | commitDisabled req user =>
      intro loaded hloaded u hu hid
      rw [reliesOn] at hloaded
      split_ifs at hloaded
      · obtain rfl := Option.some.inj hloaded
        rw [hsame hu h hid]
      · cases hloaded
  | _ => exact readsFit_of_none rfl

/-- **Requests one after the other** keep the stored codes and their history in agreement: no
recovery code is accepted twice. -/
theorem recoveryCodes_serial (hdb : db.Distinct) (h : Balanced db) {requests : List MfaRequest}
    (hdrawn : ∀ request ∈ requests, request.Drawn) :
    ∃ db', run (secondFactor settings crypto totp).step { db := db } (Service.serial 5 requests)
        = { db := db' } ∧ Balanced db' := by
  refine ⟨_, Service.run_serial endsWithin_secondFactor db requests, ?_⟩
  have hserve : ∀ (db : MfaDb) (request : MfaRequest), Balanced db ∧ db.Distinct → request.Drawn →
      Balanced ((secondFactor settings crypto totp).serve 5 db request) ∧
        ((secondFactor settings crypto totp).serve 5 db request).Distinct := by
    intro db request hgood hrequest
    refine Service.finish_induction
      (K := fun db call => (Balanced db ∧ db.Distinct) ∧ call.Drawn ∧ call.Knows db)
      (P := fun db => Balanced db ∧ db.Distinct) ?_ ?_ (endsWithin_secondFactor request) ?_
    · rintro db call call' ⟨⟨hbalanced, hdistinct⟩, hcall, hknows⟩ hnext
      exact ⟨⟨(balanced_next_iff hdistinct hbalanced call).mpr (readsFit_of_knows hdistinct hknows),
        distinct_next hdistinct hcall⟩, drawn_next hcall hnext, knows_next hknows hnext⟩
    · rintro db call ⟨⟨hbalanced, hdistinct⟩, hcall, hknows⟩ -
      exact ⟨(balanced_next_iff hdistinct hbalanced call).mpr (readsFit_of_knows hdistinct hknows),
        distinct_next hdistinct hcall⟩
    · refine ⟨hgood, ?_⟩
      cases request with
      | confirm req => exact ⟨hrequest, trivial⟩
      | verify v => exact ⟨trivial, trivial⟩
      | enroll req => exact ⟨trivial, trivial⟩
      | disable req => exact ⟨trivial, trivial⟩
      | purge now => exact ⟨trivial, trivial⟩
  exact (run_induction (I := fun db => Balanced db ∧ db.Distinct)
    (fun db request hgood hrequest => hserve db request hgood hrequest) ⟨h, hdb⟩
    (EachStep.of_mem hdrawn db)).1

/-- The first code twice, and the second one. -/
def threeVerifications : List MfaRequest :=
  [.verify (verification 1 "c1" "AAAA1111"), .verify (verification 2 "c2" "AAAA1111"),
    .verify (verification 3 "c3" "BBBB2222")]

theorem recoveryCodes_serial_sample :
    ∃ db', run (secondFactor signingKeys plainCrypto plainTotp).step { db := enrolledDb }
        (Service.serial 5 threeVerifications) = { db := db' } ∧ Balanced db' := by
  refine recoveryCodes_serial distinct_enrolledDb balanced_enrolledDb fun request hmem => ?_
  simp only [threeVerifications, List.mem_cons, List.not_mem_nil, or_false] at hmem
  rcases hmem with rfl | rfl | rfl
  · trivial
  · trivial
  · trivial

end Balance

/-! ### Challenges -/

/-- No challenge opened two sessions. -/
def OpenedOnce (db : MfaDb) : Prop := (db.opened.filter (· ≠ "")).Nodup

/-- A challenge carries its expiry. -/
def MfaRequest.Dated (expires : String → ℤ) : MfaRequest → Prop
  | .verify v => ∀ payload ∈ v.request.challengeToken, payload.exp = expires payload.jti
  | _ => True

def MfaCall.Dated (expires : String → ℤ) : MfaCall → Prop
  | .loadChallenge v => ∀ payload ∈ v.request.challengeToken, payload.exp = expires payload.jti
  | .loadAccount _ payload => payload.exp = expires payload.jti
  | .setSpent _ payload _ => payload.exp = expires payload.jti
  | .loadMembership _ payload _ => payload.exp = expires payload.jti
  | .commitVerified _ payload _ _ _ => payload.exp = expires payload.jti
  | _ => True

/-- The challenge that a statement commits. -/
def MfaCall.committed : MfaCall → Option Payload
  | .commitVerified _ payload _ _ _ => some payload
  | _ => none

/-- A challenge is committed before a purge runs past its expiry. -/
def BeforePurges (db : MfaDb) (call : MfaCall) : Prop :=
  ∀ payload ∈ call.committed, ∀ now ∈ db.purges, now ≤ seconds payload.exp

instance (db : MfaDb) (call : MfaCall) : Decidable (BeforePurges db call) :=
  inferInstanceAs (Decidable (∀ payload ∈ call.committed, ∀ now ∈ db.purges,
    now ≤ seconds payload.exp))

/-- The row of a challenge that opened a session is there until a purge runs past its expiry. -/
structure SpentKept (expires : String → ℤ) (db : MfaDb) : Prop where
  once : OpenedOnce db
  kept : ∀ jti ∈ db.opened, jti ≠ "" →
    (∃ entry ∈ db.world.db.tokenBlacklist,
        entry.jti = jti ∧ entry.expiresAt = seconds (expires jti)) ∨
      ∃ now ∈ db.purges, seconds (expires jti) < now

section Challenges

variable {settings : Settings} {crypto : Crypto} {totp : TotpCrypto} {db : MfaDb}
  {expires : String → ℤ}

lemma SpentKept.of_same {db' : MfaDb} (h : SpentKept expires db)
    (hlist : db'.world.db.tokenBlacklist = db.world.db.tokenBlacklist)
    (hopened : db'.opened = db.opened) (hpurges : db'.purges = db.purges) :
    SpentKept expires db' := by
  refine ⟨?_, fun jti hjti hne => ?_⟩
  · rw [OpenedOnce, hopened]
    exact h.once
  · rw [hlist, hpurges]
    exact h.kept jti (hopened ▸ hjti) hne

/-- A purge takes the rows that have expired. -/
lemma spentKept_purge (h : SpentKept expires db) (now : Time) :
    SpentKept expires (nextMfa settings crypto totp db (.commitPurge now)).1 := by
  refine ⟨h.once, fun jti hjti hne => ?_⟩
  rcases h.kept jti hjti hne with ⟨entry, hentry, hkey, hexpires⟩ | ⟨earlier, hearlier, hless⟩
  · by_cases hexpired : entry.expiresAt < now
    · exact Or.inr ⟨now, List.mem_append_right _ (List.mem_singleton.mpr rfl), hexpires ▸ hexpired⟩
    · refine Or.inl ⟨entry, ?_, hkey, hexpires⟩
      exact List.mem_filter.mpr ⟨hentry, by simpa using hexpired⟩
  · exact Or.inr ⟨earlier, List.mem_append_left _ hearlier, hless⟩

/-- A verification that commits finds no row of its challenge, which opened no session then. -/
lemma spentKept_commit (h : SpentKept expires db) {v : Verification} {payload : Payload}
    {user : User} {membership : TenantMembership} {tenant : Tenant}
    (hdated : payload.exp = expires payload.jti)
    (hpurges : ∀ now ∈ db.purges, now ≤ seconds payload.exp) :
    SpentKept expires (commitVerification settings crypto v payload user membership tenant db) := by
  rcases hbody : Tx.exec (verifiedBody settings crypto v payload user membership tenant)
    db.world.db with ⟨r, after⟩
  rw [commitVerification, hbody]
  rcases r with e | resp
  · exact h
  have hsame : payload.jti = "" → (db.opened ++ [payload.jti]).filter (· ≠ "")
      = db.opened.filter (· ≠ "") := by
    intro hjti
    rw [List.filter_append, hjti]
    exact List.append_nil _
  rcases (exec_verifiedBody_ok hbody).2 with ⟨hjti, hlist⟩ | ⟨hnew, hlist⟩
  · refine ⟨?_, fun jti hmem hne => ?_⟩
    · change ((db.opened ++ [payload.jti]).filter (· ≠ "")).Nodup
      rw [hsame hjti]
      exact h.once
    · change (∃ entry ∈ after.tokenBlacklist, _) ∨ _
      rw [hlist]
      rcases List.mem_append.mp hmem with hold | hlast
      · exact h.kept jti hold hne
      · exact absurd ((List.mem_singleton.mp hlast).trans hjti) hne
  -- an accepted challenge has left its row, and no purge has gone past its expiry
  · have hunused : payload.jti ≠ "" → payload.jti ∉ db.opened := by
      intro hne hmem
      rcases h.kept payload.jti hmem hne with ⟨entry, hentry, hkey, -⟩ | ⟨now, hnow, hless⟩
      · exact hnew (List.mem_map.mpr ⟨entry, hentry, hkey⟩)
      · have hbefore := hpurges now hnow
        rw [hdated] at hbefore
        exact absurd hless (not_lt.mpr hbefore)
    refine ⟨?_, fun jti hmem hne => ?_⟩
    · change ((db.opened ++ [payload.jti]).filter (· ≠ "")).Nodup
      by_cases hjti : payload.jti = ""
      · rw [hsame hjti]
        exact h.once
      · rw [List.filter_append, List.filter_cons_of_pos (by simpa using hjti), List.filter_nil]
        refine List.nodup_append.mpr ⟨h.once, List.nodup_singleton _, fun a ha b hb heq => ?_⟩
        rw [List.mem_singleton.mp hb] at heq
        exact hunused hjti (heq ▸ List.mem_of_mem_filter ha)
    · change (∃ entry ∈ after.tokenBlacklist, _) ∨ _
      rw [hlist]
      rcases List.mem_append.mp hmem with hold | hlast
      · rcases h.kept jti hold hne with ⟨entry, hentry, hrow⟩ | hpurged
        · exact Or.inl ⟨entry, List.mem_append_left _ hentry, hrow⟩
        · exact Or.inr hpurged
      · obtain rfl := List.mem_singleton.mp hlast
        exact Or.inl ⟨spentEntry payload user, List.mem_append_right _ (List.mem_singleton.mpr rfl),
          rfl, congrArg seconds hdated⟩

lemma spentKept_next (h : SpentKept expires db) {call : MfaCall} (hdated : call.Dated expires)
    (hpurges : BeforePurges db call) :
    SpentKept expires (nextMfa settings crypto totp db call).1 := by
  cases call with
  | loadChallenge v => exact h
  | loadAccount v payload => exact h
  | loadMembership v payload user => exact h
  | loadEnrolling req => exact h
  | loadConfirming req => exact h
  | loadDisabling req => exact h
  | setSpent v payload user =>
      exact h.of_same (congrArg AuthDb.tokenBlacklist (@db_spendInRedis v payload db.world)) rfl rfl
  | setPending req user =>
      rw [nextMfa]
      split
      · exact h.of_same rfl rfl rfl
      · exact h
  | getPending req user =>
      rw [nextMfa]
      split
      · exact h
      · exact h
  | deletePending req user secret =>
      rw [nextMfa]
      split
      · exact h.of_same rfl rfl rfl
      · exact h
  | commitEnrolled req user secret => exact h.of_same rfl rfl rfl
  | commitDisabled req user => exact h.of_same rfl rfl rfl
  | commitPurge now => exact spentKept_purge h now
  | commitVerified v payload user membership tenant =>
      exact spentKept_commit h hdated (hpurges payload rfl)

lemma dated_next {call call' : MfaCall} (hcall : call.Dated expires)
    (h : (nextMfa settings crypto totp db call).2 = some call') : call'.Dated expires := by
  by_cases hfirst : ∃ v, call = .loadChallenge v
  · obtain ⟨v, rfl⟩ := hfirst
    obtain ⟨payload, hload, rfl⟩ := Option.map_eq_some_iff.mp h
    exact hcall payload (challengeToken_of_loadChallenge (toOption_eq_some hload))
  · cases (follows_of_next h).1 with
    | loadAccount => exact absurd ⟨_, rfl⟩ hfirst
    | setSpent _ => exact hcall
    | loadMembership => exact hcall
    | commitVerified => exact hcall
    | _ => trivial

/-- **A challenge opens one session at most**, whatever requests and purges overlap, as long as
challenges are committed before a purge runs past their expiry. -/
theorem challenges_once (h : db.opened = []) {as : List (SharedAction MfaRequest)}
    (hdated : EachStep (secondFactor settings crypto totp).step
      (Service.Admits (MfaRequest.Dated expires)) { db := db } as)
    (hpurges : EachStep (secondFactor settings crypto totp).step
      (Service.Meets BeforePurges) { db := db } as) :
    Always (secondFactor settings crypto totp).step (fun st => OpenedOnce st.db) { db := db } as := by
  have hstart : ∀ request : MfaRequest, request.Dated expires →
      ((secondFactor settings crypto totp).start request).Dated expires := by
    intro request hrequest
    cases request with
    | verify v => exact hrequest
    | enroll req => trivial
    | confirm req => trivial
    | disable req => trivial
    | purge now => trivial
  have hfirst : SpentKept expires db := by
    refine ⟨?_, fun jti hjti _ => ?_⟩
    · rw [OpenedOnce, h]
      exact List.nodup_nil
    · rw [h] at hjti
      cases hjti
  have hkept := Service.always_of_meets (I := SpentKept expires) (J := MfaCall.Dated expires) hstart
    (fun _ _ hkept hcall hmeets => ⟨spentKept_next hkept hcall hmeets,
      fun _ hnext => dated_next hcall hnext⟩)
    ⟨hfirst, fun _ hmem => absurd hmem List.not_mem_nil⟩ hdated hpurges
  exact fun bs hbs => (hkept bs hbs).once

/-- Both requests load before one commits, and the purge runs in time. -/
def twoVerifications : List (SharedAction MfaRequest) :=
  [.arrive (.verify (verification 1 "c1" "AAAA1111")),
    .arrive (.verify (verification 2 "c1" "BBBB2222")),
    .advance 0, .advance 1, .advance 0, .advance 1, .advance 0, .advance 0, .advance 0,
    .arrive (.purge (seconds 60)), .advance 1, .advance 0, .advance 0, .advance 0]

theorem challenges_once_sample :
    Always (secondFactor signingKeys plainCrypto plainTotp).step (fun st => OpenedOnce st.db)
      { db := enrolledDb } twoVerifications := by
  have hdated : ∀ a ∈ twoVerifications, ∀ (b : MfaRequest), a = .arrive b →
      b.Dated fun _ => 120 := by
    intro a ha b hab
    subst hab
    simp only [twoVerifications, List.mem_cons, SharedAction.arrive.injEq, reduceCtorEq, false_or,
      or_false, List.not_mem_nil] at ha
    rcases ha with rfl | rfl | rfl
    · exact fun payload hpayload => Option.some.inj hpayload ▸ rfl
    · exact fun payload hpayload => Option.some.inj hpayload ▸ rfl
    · trivial
  exact challenges_once rfl (EachStep.of_mem hdated _) (by decide +kernel)

end Challenges

end EclServer.Auth
