import EclServer.Core

/-!
The tables, settings and third-party functions the authentication services work on.

* `Settings`: the fields of `app/config.py` the services read, with the defaults there.
* `User`, `Tenant`, `TenantMembership`, `RefreshToken`, `Session`, `Invitation`,
  `TokenBlacklist`, `PasswordResetToken`, `EmailVerificationToken`, `AuditLog`, `EmailOutbox`:
  the columns the services read or write.
* `AuthDb`: the tables together, and the lookups of `app/modules/auth/service.py`.
* `Payload`: what a signed JWT carries.
* `Crypto`: password hashing, token hashing and TOTP, which are third-party code.
* `Request`: the bodies of the services, `getDb` their transaction.
-/

namespace EclServer.Auth

open EclServer.Library

/-- The settings the authentication services read. -/
structure Settings where
  jwtPrivateKey : String := ""
  jwtPublicKey : String := ""
  jwtAccessTokenExpireMinutes : ℤ := 15
  jwtRefreshTokenExpireDays : ℤ := 7
  lockoutThreshold1 : ℕ := 5
  lockoutThreshold2 : ℕ := 10
  lockoutThreshold3 : ℕ := 20
  sessionIdleTimeoutMinutes : ℤ := 30

def invalidCredentialsError : ECLException :=
  { code := "INVALID_CREDENTIALS", detail := "Invalid email or password.", statusCode := 401 }

def accountDisabledError : ECLException :=
  { code := "ACCOUNT_DISABLED"
    detail := "Your account has been disabled. Contact support."
    statusCode := 403 }

def accountLockedError (retryAfter : ℤ) : ECLException :=
  { code := "ACCOUNT_LOCKED"
    detail := "Account locked due to too many failed login attempts."
    statusCode := 423
    retryAfter := some retryAfter }

def internalError : ECLException :=
  { code := "INTERNAL_ERROR", detail := "JWT keys not configured", statusCode := 500 }

def notTenantMember : ECLException :=
  { code := "NOT_TENANT_MEMBER", detail := "No active workspace membership.", statusCode := 403 }

/-! ### Tables -/

/-- One entry of `users.totp_backup_codes`. -/
structure BackupCode where
  hash : String
  used : Bool
  deriving DecidableEq, Repr

structure User where
  id : String
  email : String
  name : String
  hashedPassword : String
  isActive : Bool := true
  isEmailVerified : Bool := false
  isPlatformAdmin : Bool := false
  failedLoginCount : ℕ := 0
  lockedUntil : Option Time := none
  lastLoginAt : Option Time := none
  totpSecretEncrypted : Option String := none
  totpEnabled : Bool := false
  totpBackupCodes : List BackupCode := []
  deletedAt : Option Time := none
  deriving DecidableEq, Repr

structure Tenant where
  id : String
  name : String
  currency : String := "USD"
  onboardingCompletedAt : Option Time := none
  deletedAt : Option Time := none
  timezone : String := "UTC"
  deriving DecidableEq, Repr

/-- `MemberStatus.ACTIVE`; the column itself is free text. -/
def memberStatusActive : String := "active"

structure TenantMembership where
  id : String
  userId : String
  tenantId : String
  role : String
  status : String := "active"
  joinedAt : Time
  deriving DecidableEq, Repr

structure RefreshToken where
  id : String
  userId : String
  tokenFamilyId : String
  tokenHash : String
  isRevoked : Bool := false
  expiresAt : Time
  lastUsedAt : Option Time := none
  deriving DecidableEq, Repr

structure Session where
  id : String
  userId : String
  refreshTokenId : String
  lastActiveAt : Time
  deriving DecidableEq, Repr

inductive InvitationStatus where
  | pending | accepted | expired | cancelled
  deriving DecidableEq, Repr

structure Invitation where
  id : String
  email : String
  tenantId : String
  invitedByUserId : String
  role : String
  tokenHash : String
  status : InvitationStatus := .pending
  expiresAt : Time
  acceptedAt : Option Time := none
  deriving DecidableEq, Repr

structure TokenBlacklist where
  jti : String
  userId : String
  expiresAt : Time
  reason : String
  deriving DecidableEq, Repr

structure PasswordResetToken where
  id : String
  userId : String
  tokenHash : String
  expiresAt : Time
  usedAt : Option Time := none
  deriving DecidableEq, Repr

structure EmailVerificationToken where
  id : String
  userId : String
  tokenHash : String
  expiresAt : Time
  verifiedAt : Option Time := none
  deriving DecidableEq, Repr

structure AuditLog where
  eventType : String
  userId : Option String
  status : String := "success"
  errorCode : Option String := none
  deriving DecidableEq, Repr

structure EmailOutbox where
  taskName : String
  payload : List (String × String)
  deriving DecidableEq, Repr

/-- The tables of the authentication services. -/
structure AuthDb where
  users : List User := []
  tenants : List Tenant := []
  memberships : List TenantMembership := []
  refreshTokens : List RefreshToken := []
  sessions : List Session := []
  invitations : List Invitation := []
  tokenBlacklist : List TokenBlacklist := []
  auditLogs : List AuditLog := []
  emailOutbox : List EmailOutbox := []
  passwordResetTokens : List PasswordResetToken := []
  emailVerificationTokens : List EmailVerificationToken := []
  deriving DecidableEq, Repr

/-! ### Third-party code -/

/-- Password hashing (argon2), token hashing (SHA-256), one-time codes (pyotp), password
rules with the breach lookup, and Python's `str.lower`. -/
structure Crypto where
  lower : String → String
  verifyPassword : String → String → Bool
  hashPassword : String → String
  hashToken : String → String
  verifyTotp : String → String → Time → Bool
  verifyBackupCode : String → String → Bool
  validatePasswordFull : String → String → List String

/-- A transparent stand-in for the third-party functions, to run the services on concrete
data: addresses are in lower case already, a hash is the hashed text behind a tag, and no
password breaks a rule. -/
def plainCrypto : Crypto where
  lower := id
  verifyPassword plain hashed := hashed == "argon2:" ++ plain
  hashPassword plain := "argon2:" ++ plain
  hashToken raw := "sha256:" ++ raw
  verifyTotp secret code _ := secret == code
  verifyBackupCode hash code := hash == "argon2:" ++ code
  validatePasswordFull _ _ := []

/-- The payload of a signed JWT; an optional field is a key that may be absent. -/
structure Payload where
  sub : String
  type : Option String := none
  jti : String
  iat : ℤ
  exp : ℤ
  email : Option String := none
  name : Option String := none
  role : Option String := none
  tenantId : Option String := none
  isPlatformAdmin : Option Bool := none
  deriving DecidableEq, Repr

/-! ### Requests -/

/-- A service body over the database session. -/
abbrev Request (α : Type) := Tx ECLException AuthDb α

/-- `get_db`: the session commits when the body returns and rolls back when it raises. -/
def getDb {α : Type} (body : Request α) (db : AuthDb) : Except ECLException α × AuthDb :=
  body.commit db

/-- The values a request draws at random: `new_ulid()` and `generate_raw_token()`, one for
each place that draws. -/
structure Draws where
  familyId : String
  refreshTokenId : String
  rawRefresh : String
  sessionId : String
  jti : String
  userId : String
  membershipId : String
  deriving DecidableEq, Repr

namespace AuthDb

/-- `_get_active_user_by_email`. -/
def getActiveUserByEmail (crypto : Crypto) (db : AuthDb) (email : String) : Option User :=
  db.users.find? fun u => u.email = crypto.lower email ∧ u.deletedAt = none

/-- Whether the membership row and its tenant row answer the query of `_get_membership`. -/
def membershipMatches (userId : String) (tenantId : Option String)
    (row : TenantMembership × Tenant) : Bool :=
  row.2.id = row.1.tenantId ∧ row.1.userId = userId ∧ row.1.status = memberStatusActive
    ∧ row.2.deletedAt = none ∧ (∀ t ∈ tenantId, row.1.tenantId = t)

/-- `_get_membership`: the first active membership of the user in a live tenant, the one
joined last when no tenant is named. -/
def getMembership (db : AuthDb) (userId : String) (tenantId : Option String) :
    Option (TenantMembership × Tenant) :=
  let rows := (db.memberships ×ˢ db.tenants).filter (membershipMatches userId tenantId)
  match tenantId with
  | some _ => rows.head?
  | none => (rows.mergeSort fun a b => decide (b.1.joinedAt ≤ a.1.joinedAt)).head?

/-- Write back one user row. -/
def updateUser (db : AuthDb) (id : String) (f : User → User) : AuthDb :=
  { db with users := db.users.map fun u => if u.id = id then f u else u }

/-- `log_event`. -/
def logEvent (db : AuthDb) (entry : AuditLog) : AuthDb :=
  { db with auditLogs := db.auditLogs ++ [entry] }

@[simp] lemma users_logEvent (db : AuthDb) (e : AuditLog) : (db.logEvent e).users = db.users :=
  rfl

@[simp] lemma tenants_updateUser (db : AuthDb) (id : String) (f : User → User) :
    (db.updateUser id f).tenants = db.tenants := rfl

@[simp] lemma memberships_updateUser (db : AuthDb) (id : String) (f : User → User) :
    (db.updateUser id f).memberships = db.memberships := rfl

/-- Membership lookups do not read the users table. -/
@[simp] lemma getMembership_updateUser (db : AuthDb) (id : String) (f : User → User)
    (userId : String) (tenantId : Option String) :
    (db.updateUser id f).getMembership userId tenantId = db.getMembership userId tenantId :=
  rfl

end AuthDb

/-- `log_event` inside a service body. -/
def logEvent (entry : AuditLog) : Request Unit := modify (·.logEvent entry)

end EclServer.Auth
