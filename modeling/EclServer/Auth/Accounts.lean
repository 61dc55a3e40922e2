import EclServer.Auth.Cache

/-!
The other services of `app/modules/auth/service.py` and `app/modules/invites/service.py` that sign
an account in or out.

* `registerUser`, `acceptInvite`, `verifyMfa`: each ends in `createSessionTokens`.
* `resetPassword`, `logoutAllUser`: each ends every session of the account.
* `purgeOldSessions`: the task of `app/tasks/cleanup_tasks.py`.
* `SessionOpened`: what a request that signs in writes to the refresh tokens and the sessions.
-/

namespace EclServer.Auth

open EclServer.Library

/-! ### Errors -/

def emailTaken : ECLException :=
  { code := "EMAIL_TAKEN", detail := "This email is already registered.", statusCode := 409
    field := some "email" }

def invalidInviteToken (detail : String) : ECLException :=
  { code := "INVALID_INVITE_TOKEN", detail := detail }

def alreadyMember : ECLException :=
  { code := "ALREADY_MEMBER", detail := "Already a member of this workspace.", statusCode := 409 }

def invalidChallengeToken (detail : String) : ECLException :=
  { code := "INVALID_CHALLENGE_TOKEN", detail := detail }

def invalidTotpCode (detail : String) : ECLException :=
  { code := "INVALID_TOTP_CODE", detail := detail }

def totpNotEnabled : ECLException :=
  { code := "TOTP_NOT_ENABLED", detail := "MFA is not configured." }

def invalidResetToken : ECLException :=
  { code := "INVALID_RESET_TOKEN", detail := "This reset link is invalid or has expired." }

/-! ### Requests -/

structure RegisterRequest where
  companyName : String
  email : String
  name : String
  password : String
  deriving DecidableEq, Repr

/-- What a registration draws beside what every session draws. -/
structure RegisterDraws where
  draws : Draws
  tenantId : String
  verificationId : String
  rawVerify : String
  deriving DecidableEq, Repr

structure AcceptInviteRequest where
  token : String
  name : String
  password : String
  deriving DecidableEq, Repr

/-- The challenge token is given by its payload, absent where the text has no valid
signature. -/
structure MFAVerifyRequest where
  challengeToken : Option Payload
  code : String
  deriving DecidableEq, Repr

structure ResetPasswordRequest where
  token : String
  password : String
  deriving DecidableEq, Repr

/-- `queue_email_in_outbox`. -/
def queueEmailInOutbox (taskName : String) (payload : List (String × String)) : Request Unit :=
  modify fun db => { db with
    emailOutbox := db.emailOutbox ++ [{ taskName := taskName, payload := payload }] }

section

variable (settings : Settings) (crypto : Crypto) (now : Time) (draws : Draws)

/-! ### Registration -/

/-- The account of a registration. -/
def registeredUser (request : RegisterRequest) : User :=
  { id := draws.userId, email := crypto.lower request.email, name := pyStrip request.name
    hashedPassword := crypto.hashPassword request.password }

/-- Its workspace. The slug is left out. -/
def registeredTenant (d : RegisterDraws) (request : RegisterRequest) : Tenant :=
  { id := d.tenantId, name := pyStrip request.companyName }

def registeredMembership (d : RegisterDraws) : TenantMembership :=
  { id := d.draws.membershipId, userId := d.draws.userId, tenantId := d.tenantId
    role := "administrator", joinedAt := now }

def verificationToken (d : RegisterDraws) : EmailVerificationToken :=
  { id := d.verificationId, userId := d.draws.userId
    tokenHash := crypto.hashToken d.rawVerify, expiresAt := now + hours 24 }

/-- The rows `register_user` adds before the session. -/
def addRegistered (d : RegisterDraws) (request : RegisterRequest) (db : AuthDb) : AuthDb :=
  { db with
    users := db.users ++ [registeredUser crypto d.draws request]
    tenants := db.tenants ++ [registeredTenant d request]
    memberships := db.memberships ++ [registeredMembership now d]
    emailVerificationTokens := db.emailVerificationTokens ++ [verificationToken crypto now d] }

/-- `register_user`. The password rules split the name and the company's name at blanks, so that
one text with both serves. -/
def registerUser (d : RegisterDraws) (request : RegisterRequest) : Request AuthResponse :=
  match crypto.validatePasswordFull request.password (request.name ++ " " ++ request.companyName) with
  | code :: _ => throw (passwordViolation code "password")
  | [] => do
      let db ← get
      if (db.getActiveUserByEmail crypto request.email).isSome then throw emailTaken
      else
        modify (addRegistered crypto now d request)
        let resp ← createSessionTokens settings crypto now d.draws
          (registeredUser crypto d.draws request) (registeredMembership now d)
          (registeredTenant d request) true
        logEvent { eventType := "user.register", userId := some d.draws.userId }
        queueEmailInOutbox "send_verification_email"
          [("user_id", d.draws.userId), ("raw_token", d.rawVerify)]
        return { resp with message := "Registration successful" }

/-! ### Invitations -/

/-- The pending invitation of a raw token, unless it has expired. -/
def loadInvitation (token : String) : Request Invitation := do
  let db ← get
  match db.invitations.find? fun inv => inv.tokenHash = crypto.hashToken token with
  | none => throw (invalidInviteToken "Invite link is invalid or expired.")
  | some inv =>
      if inv.status ≠ .pending then
        throw (invalidInviteToken "Invite link is invalid or expired.")
      else if inv.expiresAt < now then throw (invalidInviteToken "Invite link has expired.")
      else return inv

/-- The account that `accept_invite` makes. -/
def invitedUser (inv : Invitation) (request : AcceptInviteRequest) : User :=
  { id := draws.userId, email := crypto.lower inv.email, name := pyStrip request.name
    hashedPassword := crypto.hashPassword request.password, isEmailVerified := true }

/-- The account of the invitation's address, with the password as the only check, or a new one;
and its `is_platform_admin`, whose default a new row has only from its INSERT on. -/
def inviteAccount (inv : Invitation) (request : AcceptInviteRequest) :
    Request (User × Option Bool) := do
  let db ← get
  match db.getActiveUserByEmail crypto inv.email with
  | some user =>
      if crypto.verifyPassword request.password user.hashedPassword then
        return (user, some user.isPlatformAdmin)
      else throw invalidCredentialsError
  | none =>
      modify fun db => { db with users := db.users ++ [invitedUser crypto draws inv request] }
      return (invitedUser crypto draws inv request, none)

def invitedMembership (user : User) (inv : Invitation) : TenantMembership :=
  { id := draws.membershipId, userId := user.id, tenantId := inv.tenantId, role := inv.role
    joinedAt := now }

/-- The account joins and the invitation is accepted. -/
def addInvited (user : User) (inv : Invitation) (db : AuthDb) : AuthDb :=
  { db with
    memberships := db.memberships ++ [invitedMembership now draws user inv]
    invitations := updateByKey Invitation.id inv.id
      (fun i => { i with status := .accepted, acceptedAt := some now }) db.invitations }

/-- The account is not an active member yet; two rows that say so raise. -/
def checkNotMember (user : User) (inv : Invitation) : Request Unit := do
  let db ← get
  match db.memberships.filter fun m =>
      m.userId = user.id ∧ m.tenantId = inv.tenantId ∧ m.status = memberStatusActive with
  | [] => return ()
  | [_] => throw alreadyMember
  | _ => throw unexpectedError

/-- The workspace of the invitation. -/
def inviteTenant (inv : Invitation) : Request Tenant := do
  let db ← get
  match db.tenants.find? fun t => t.id = inv.tenantId with
  | none => throw unexpectedError
  | some tenant => return tenant

/-- `_user_out` of a row that nothing has flushed: `UserOut` refuses a flag that is None. -/
def checkUserOut (isPlatformAdmin : Option Bool) : Request Unit :=
  if isPlatformAdmin = none then throw unexpectedError else pure ()

lemma keeps_checkUserOut {R : AuthDb → AuthDb → Prop} [Std.Refl R] (isPlatformAdmin : Option Bool) :
    (checkUserOut isPlatformAdmin).Keeps R :=
  Tx.keeps_ite (Tx.keeps_throw _) (Tx.keeps_pure _)

/-- `accept_invite`; the notification of the administrators is left out. -/
def acceptInvite (request : AcceptInviteRequest) : Request AuthResponse := do
  let inv ← loadInvitation crypto now request.token
  match crypto.validatePasswordFull request.password request.name with
  | code :: _ => throw (passwordViolation code "password")
  | [] =>
      let (user, isPlatformAdmin) ← inviteAccount crypto draws inv request
      checkNotMember user inv
      modify (addInvited now draws user inv)
      let tenant ← inviteTenant inv
      let resp ← createSessionTokens settings crypto now draws user
        (invitedMembership now draws user inv) tenant true
      checkUserOut isPlatformAdmin
      logEvent { eventType := "invite.accepted", userId := some user.id }
      queueEmailInOutbox "send_welcome_to_tenant_email"
        [("user_id", user.id), ("tenant_id", inv.tenantId)]
      return { resp with message := "Invite accepted" }

/-! ### The second factor -/

/-- The first unused backup code that the text matches is used up. -/
def takeBackupCode (code : String) : List BackupCode → Option (List BackupCode)
  | [] => none
  | entry :: rest =>
      if entry.used = false ∧ crypto.verifyBackupCode entry.hash code = true then
        some ({ entry with used := true } :: rest)
      else (takeBackupCode code rest).map (entry :: ·)

/-- The payload of a challenge that `verify_mfa` goes on with. -/
def loadChallenge (token : Option Payload) : CachedRequest Payload := do
  let w ← get
  match decodeAccessToken settings now token with
  | .error _ => throw (invalidChallengeToken "Invalid or expired MFA challenge.")
  | .ok payload =>
      if payload.type ≠ some "mfa_challenge" then
        throw (invalidChallengeToken "Invalid token type.")
      else if payload.jti ≠ "" ∧ isTokenBlacklisted now w.redis payload.jti w.db = true then
        throw (invalidChallengeToken "MFA challenge already used.")
      else return payload

/-- The live and active account of the challenge. -/
def challengedUser (payload : Payload) : CachedRequest User := do
  let w ← get
  match w.db.getActiveUserById payload.sub with
  | none => throw currentUserDisabled
  | some user => return user

/-- The code of eight characters is a backup code, any other is a one-time code. -/
def checkCode (user : User) (code : String) : Request Unit :=
  if code.length = 8 then
    match takeBackupCode crypto code user.totpBackupCodes with
    | none => do
        logEvent { eventType := "mfa.totp.failed", userId := some user.id, status := "failure"
                   errorCode := some "INVALID_RECOVERY_CODE" }
        throw (invalidTotpCode "Invalid recovery code.")
    | some codes => do
        modify (·.updateUser user.id fun u => { u with totpBackupCodes := codes })
        logEvent { eventType := "mfa.recovery_code.used", userId := some user.id }
  else
    match user.totpSecretEncrypted.filter (· ≠ "") with
    | none => throw totpNotEnabled
    | some secret =>
        if crypto.verifyTotp secret code now then
          logEvent { eventType := "mfa.totp.verified", userId := some user.id }
        else do
          logEvent { eventType := "mfa.totp.failed", userId := some user.id, status := "failure"
                     errorCode := some "INVALID_TOTP_CODE" }
          throw (invalidTotpCode "Invalid TOTP code.")

/-- The challenge is used up. -/
def spendChallenge (payload : Payload) (user : User) : CachedRequest Unit :=
  if payload.jti = "" then pure ()
  else
    blacklistTokenCached now { jti := payload.jti, userId := user.id
                               expiresAt := seconds payload.exp, reason := "mfa_challenge_used" }

/-- The session of a user whose code was right. -/
def openVerified (user : User) : Request AuthResponse := do
  let db ← get
  match db.getMembership user.id none with
  | none => throw notTenantMember
  | some (membership, tenant) =>
      let resp ← createSessionTokens settings crypto now draws user membership tenant false
      logEvent { eventType := "auth.login.success", userId := some user.id }
      return resp

/-- `verify_mfa`. -/
def verifyMfa (request : MFAVerifyRequest) : CachedRequest AuthResponse := do
  let payload ← loadChallenge settings now request.challengeToken
  let user ← challengedUser payload
  onDb (checkCode crypto now user request.code)
  spendChallenge now payload user
  onDb (openVerified settings crypto now draws user)

/-! ### Ending every session -/

/-- `logout_all_user`. -/
def logoutAllUser (userId : String) (token : Option Payload) : CachedRequest Unit := do
  logoutUserCached settings crypto now token none
  onDb (modify (·.revokeWhere fun t => t.userId = userId ∧ t.isRevoked = false))
  onDb (modify (·.deleteSessions fun s => s.userId = userId))

/-- `POST /auth/logout-all`. -/
def logoutAllEndpoint (token : Option Payload) : CachedRequest Unit := do
  let w ← get
  let user ← liftM (getCurrentUser settings now w token)
  logoutAllUser settings crypto now user.id token

/-- The reset token of a raw text, unless it is used or expired. -/
def loadResetToken (token : String) : Request PasswordResetToken := do
  let db ← get
  match db.passwordResetTokens.find? fun prt => prt.tokenHash = crypto.hashToken token with
  | none => throw invalidResetToken
  | some prt =>
      if prt.usedAt ≠ none ∨ prt.expiresAt < now then throw invalidResetToken else return prt

/-- A reset token works once. -/
def spendResetToken (prt : PasswordResetToken) (db : AuthDb) : AuthDb :=
  { db with
    passwordResetTokens := updateByKey PasswordResetToken.id prt.id
      (fun p => { p with usedAt := some now }) db.passwordResetTokens }

/-- The owner of a reset token. -/
def resetUser (prt : PasswordResetToken) : Request User := do
  let db ← get
  match db.users.find? fun u => u.id = prt.userId with
  | none => throw unexpectedError
  | some user => return user

/-- `reset_password`. -/
def resetPassword (request : ResetPasswordRequest) : Request Unit := do
  let prt ← loadResetToken crypto now request.token
  let user ← resetUser prt
  match crypto.validatePasswordFull request.password user.name with
  | code :: _ => throw (passwordViolation code "password")
  | [] =>
      modify (·.updateUser user.id fun u =>
        { u with hashedPassword := crypto.hashPassword request.password })
      modify (spendResetToken now prt)
      modify (·.revokeWhere fun t => t.userId = user.id)
      modify (·.deleteSessions fun s => s.userId = user.id)
      logEvent { eventType := "auth.password_reset.completed", userId := some user.id }
      queueEmailInOutbox "send_password_changed_email" [("user_id", user.id)]

/-- `purge_old_sessions`. -/
def purgeOldSessions (db : AuthDb) : AuthDb :=
  db.deleteSessions fun s => s.lastActiveAt < now - days 90

end

end EclServer.Auth
