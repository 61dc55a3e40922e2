import EclServer.Auth.System

/-!
Invitations: `app/modules/invites/service.py`, the two endpoints of its router that need no
service, and the part of `app/modules/onboarding/service.py` that invites.

* `requireTenantMember`, `requireTenantAdmin`: the guards of `app/dependencies.py`.
* `writeInvitations`: a write to the table, which the database refuses where two rows would have
  one id or one token hash.
* `sendInvite`, `batchSendInvites`, `completeOnboarding`: the services that make invitations.
* `validateInvite`, `cancelInvite`, `resendInvite`, `expireInvitations`: what else is done to them.
-/

namespace EclServer.Auth

open EclServer.Library

/-! ### Errors -/

def notWorkspaceMember : ECLException :=
  { code := "NOT_TENANT_MEMBER", detail := "Not a member of this workspace.", statusCode := 403 }

def insufficientRole : ECLException :=
  { code := "INSUFFICIENT_ROLE", detail := "Administrator role required.", statusCode := 403 }

def emailNotVerified : ECLException :=
  { code := "EMAIL_NOT_VERIFIED"
    detail := "Please verify your email address before inviting team members."
    statusCode := 403 }

def inviteAlreadyPending (detail : String) : ECLException :=
  { code := "INVITE_ALREADY_PENDING", detail := detail, statusCode := 409 }

def memberAlready (detail : String) : ECLException :=
  { code := "ALREADY_MEMBER", detail := detail, statusCode := 409 }

def invalidRole (detail : String) : ECLException :=
  { code := "VALIDATION_ERROR", detail := detail, statusCode := 422, field := some "role" }

def duplicateEmails : ECLException :=
  { code := "DUPLICATE_EMAILS", detail := "Duplicate email addresses in batch." }

def resourceNotFound (detail : String) : ECLException :=
  { code := "RESOURCE_NOT_FOUND", detail := detail, statusCode := 404 }

/-! ### Requests -/

/-- The values of `UserRole`. -/
def userRoles : List String := ["administrator", "analyst", "reviewer"]

/-- The addresses of the requests are stripped and in lower case. -/
structure SendInviteRequest where
  email : String
  role : String
  tenantId : String
  deriving DecidableEq, Repr

structure BatchInviteItem where
  email : String
  role : String
  deriving DecidableEq, Repr

structure BatchInviteRequest where
  invites : List BatchInviteItem
  tenantId : String
  deriving DecidableEq, Repr

structure BatchInviteOut where
  id : String
  email : String
  role : String
  deriving DecidableEq, Repr

/-- The reporting cadence is left out. -/
structure OnboardingProfileIn where
  institutionName : String
  currency : String
  timezone : String
  deriving DecidableEq, Repr

/-- The segments and the collateral types are left out; an `OnboardingInviteIn` has the fields of
a `BatchInviteItem`. -/
structure CompleteOnboardingRequest where
  profile : OnboardingProfileIn
  invites : List BatchInviteItem := []
  deriving DecidableEq, Repr

structure InviteValidateData where
  email : String
  tenantName : String
  inviterName : String
  role : String
  expiresAt : Time
  deriving DecidableEq, Repr

/-- What one invitation draws. -/
structure InviteDraws where
  id : String
  rawToken : String
  deriving DecidableEq, Repr

namespace AuthDb

/-- The active memberships of a user in a tenant. -/
def activeMemberships (db : AuthDb) (userId tenantId : String) : List TenantMembership :=
  db.memberships.filter fun m =>
    m.userId = userId ∧ m.tenantId = tenantId ∧ m.status = memberStatusActive

/-- The pending invitations of an address to a tenant. -/
def pendingInvitations (db : AuthDb) (email tenantId : String) : List Invitation :=
  db.invitations.filter fun inv =>
    inv.email = email ∧ inv.tenantId = tenantId ∧ inv.status = .pending

/-- Write back one tenant row. -/
def updateTenant (db : AuthDb) (id : String) (f : Tenant → Tenant) : AuthDb :=
  { db with tenants := updateByKey Tenant.id id f db.tenants }

end AuthDb

/-! ### Guards -/

/-- `_synthetic_admin_membership`; it is in no table. -/
def syntheticAdminMembership (userId tenantId : String) : TenantMembership :=
  { id := "platform-access", userId := userId, tenantId := tenantId, role := "administrator"
    joinedAt := 0 }

/-- `require_tenant_member`. -/
def requireTenantMember (tenantId : String) (user : User) : Request TenantMembership := do
  let db ← get
  match db.activeMemberships user.id tenantId with
  | [] =>
      if user.isPlatformAdmin then return syntheticAdminMembership user.id tenantId
      else throw notWorkspaceMember
  | [m] => return m
  | _ => throw unexpectedError

/-- `require_tenant_admin`. -/
def requireTenantAdmin (tenantId : String) (user : User) : Request TenantMembership := do
  let m ← requireTenantMember tenantId user
  if m.role ≠ "administrator" then throw insufficientRole else return m

/-! ### The table -/

/-- The primary key and the unique column of the table. -/
def InvitationKeys (rows : List Invitation) : Prop :=
  (rows.map (·.id)).Nodup ∧ (rows.map (·.tokenHash)).Nodup

instance (rows : List Invitation) : Decidable (InvitationKeys rows) :=
  inferInstanceAs (Decidable (_ ∧ _))

/-- The rows are written, unless two of them would have one key. -/
def writeInvitations (rows : List Invitation) : Request Unit :=
  if InvitationKeys rows then modify fun db => { db with invitations := rows }
  else throw unexpectedError

section

variable (crypto : Crypto) (now : Time)

/-- A new invitation, good for a week. -/
def newInvitation (d : InviteDraws) (email role tenantId inviterId : String) : Invitation :=
  { id := d.id, email := email, tenantId := tenantId, invitedByUserId := inviterId, role := role
    tokenHash := crypto.hashToken d.rawToken, expiresAt := now + days 7 }

/-- `db.add` of each, and `db.flush`. -/
def addInvitations (created : List (Invitation × String)) : Request Unit := do
  let db ← get
  writeInvitations (db.invitations ++ created.map (·.1))

/-- The mail of an invitation and its raw token. -/
def inviteMail (created : Invitation × String) : EmailOutbox :=
  { taskName := "send_invite_email"
    payload := [("invitation_id", created.1.id), ("raw_token", created.2)] }

/-- `queue_email_in_outbox`, once for each. -/
def queueInviteMails (created : List (Invitation × String)) : Request Unit :=
  modify fun db => { db with emailOutbox := db.emailOutbox ++ created.map inviteMail }

/-! ### Inviting -/

/-- No invitation of the address is pending; two that are raise. -/
def checkNoPending (email tenantId detail : String) : Request Unit := do
  let db ← get
  match db.pendingInvitations email tenantId with
  | [] => return ()
  | [_] => throw (inviteAlreadyPending detail)
  | _ => throw unexpectedError

/-- The address is not that of a member. -/
def checkNotYetMember (email tenantId detail : String) : Request Unit := do
  let db ← get
  match db.getActiveUserByEmail crypto email with
  | none => return ()
  | some user =>
      match db.activeMemberships user.id tenantId with
      | [] => return ()
      | [_] => throw (memberAlready detail)
      | _ => throw unexpectedError

/-- `send_invite`. -/
def sendInvite (d : InviteDraws) (request : SendInviteRequest) (inviter : User) :
    Request Invitation := do
  if inviter.isEmailVerified then
    checkNoPending request.email request.tenantId "A pending invite already exists for this email."
    checkNotYetMember crypto request.email request.tenantId "User is already a member."
    if request.role ∈ userRoles then
      let inv := newInvitation crypto now d request.email request.role request.tenantId inviter.id
      addInvitations [(inv, d.rawToken)]
      logEvent { eventType := "invite.sent", userId := some inviter.id }
      queueInviteMails [(inv, d.rawToken)]
      return inv
    else throw (invalidRole "Invalid role.")
  else throw emailNotVerified

/-- The checks of `batch_send_invites` on one address after the other. -/
def checkInvitees (tenantId : String) : List BatchInviteItem → Request Unit
  | [] => return ()
  | item :: items => do
      checkNoPending item.email tenantId ("A pending invite already exists for " ++ item.email ++ ".")
      checkNotYetMember crypto item.email tenantId (item.email ++ " is already a member.")
      checkInvitees tenantId items

/-- The invitations of a list of addresses, each with its raw token. -/
def createdInvitations (draws : ℕ → InviteDraws) (items : List BatchInviteItem)
    (tenantId inviterId : String) : List (Invitation × String) :=
  items.mapIdx fun i item =>
    (newInvitation crypto now (draws i) item.email item.role tenantId inviterId, (draws i).rawToken)

/-- `batch_send_invites`. -/
def batchSendInvites (draws : ℕ → InviteDraws) (request : BatchInviteRequest) (inviter : User) :
    Request (List BatchInviteOut) := do
  if inviter.isEmailVerified then
    if (request.invites.map (·.email)).Nodup then
      match request.invites.find? fun item => item.role ∉ userRoles with
      | some item => throw (invalidRole ("Invalid role: " ++ item.role))
      | none =>
          checkInvitees crypto request.tenantId request.invites
          let created := createdInvitations crypto now draws request.invites
            request.tenantId inviter.id
          addInvitations created
          queueInviteMails created
          logEvent { eventType := "invite.batch_sent", userId := some inviter.id }
          return created.map fun c => { id := c.1.id, email := c.1.email, role := c.1.role }
    else throw duplicateEmails
  else throw emailNotVerified

/-- `_ROLE_MAP`, and the role in lower case where it has no entry. -/
def normalisedRole (role : String) : String :=
  if role = "Administrator" then "administrator"
  else if role = "Analyst" then "analyst"
  else if role = "Reviewer" then "reviewer"
  else crypto.lower role

/-- The invitations of an onboarding, where it has any; `_validate_invite_roles` comes first. -/
def onboardingInvites (draws : ℕ → InviteDraws) (tenantId : String) (user : User)
    (request : CompleteOnboardingRequest) : Request Unit :=
  if request.invites = [] then return ()
  else
    match request.invites.find? fun item => normalisedRole crypto item.role ∉ userRoles with
    | some item => throw (invalidRole ("Invalid role: " ++ item.role))
    | none => do
        let created := createdInvitations crypto now draws
          (request.invites.map fun item => { item with role := normalisedRole crypto item.role })
          tenantId user.id
        addInvitations created
        queueInviteMails created
        logEvent { eventType := "invite.batch_sent", userId := some user.id }

/-- The live tenant of an id. -/
def loadTenant (tenantId : String) : Request Tenant := do
  let db ← get
  match db.tenants.find? fun t => t.id = tenantId ∧ t.deletedAt = none with
  | none => throw (resourceNotFound "Tenant not found.")
  | some tenant => return tenant

/-- The profile of an onboarding. -/
def withProfile (profile : OnboardingProfileIn) (t : Tenant) : Tenant :=
  { t with
    name := pyStrip profile.institutionName, currency := profile.currency
    timezone := profile.timezone }

/-- `complete_onboarding`; the second call does nothing. -/
def completeOnboarding (draws : ℕ → InviteDraws) (tenantId : String) (user : User)
    (request : CompleteOnboardingRequest) : Request Unit := do
  let tenant ← loadTenant tenantId
  if tenant.onboardingCompletedAt ≠ none then return ()
  else
    modify (·.updateTenant tenantId (withProfile request.profile))
    onboardingInvites crypto now draws tenantId user request
    modify (·.updateTenant tenantId fun t => { t with onboardingCompletedAt := some now })
    queueEmailInOutbox "send_welcome_email" [("user_id", user.id), ("tenant_id", tenantId)]
    logEvent { eventType := "onboarding.completed", userId := some user.id }

/-! ### Invitations that are there -/

/-- `validate_invite`: the first row of the invitation with its tenant and its inviter. -/
def validateInvite (token : String) : Request InviteValidateData := do
  let db ← get
  match (db.invitations ×ˢ (db.tenants ×ˢ db.users)).find? fun row =>
      row.2.1.id = row.1.tenantId ∧ row.2.2.id = row.1.invitedByUserId ∧
        row.1.tokenHash = crypto.hashToken token with
  | none => throw (invalidInviteToken "Invite link is invalid or expired.")
  | some (inv, tenant, inviter) =>
      if inv.status ≠ .pending ∨ inv.expiresAt < now then
        throw (invalidInviteToken "Invite link is invalid or expired.")
      else
        return { email := inv.email, tenantName := tenant.name, inviterName := inviter.name
                 role := inv.role, expiresAt := inv.expiresAt }

/-- The invitation of an id. -/
def loadInvite (inviteId : String) : Request Invitation := do
  let db ← get
  match db.invitations.find? fun inv => inv.id = inviteId with
  | none => throw (resourceNotFound "Invitation not found.")
  | some inv => return inv

/-- `cancel_invite`. -/
def cancelInvite (inviteId : String) (user : User) : Request Unit := do
  let inv ← loadInvite inviteId
  let _ ← requireTenantAdmin inv.tenantId user
  modify fun db => { db with
    invitations := updateByKey Invitation.id inv.id (fun i => { i with status := .cancelled })
      db.invitations }

/-- An invitation with a new token, good for another week. -/
def renewed (raw : String) (inv : Invitation) : Invitation :=
  { inv with tokenHash := crypto.hashToken raw, expiresAt := now + days 7 }

/-- `resend_invite`. -/
def resendInvite (raw inviteId : String) (user : User) : Request Unit := do
  let inv ← loadInvite inviteId
  let _ ← requireTenantAdmin inv.tenantId user
  let db ← get
  writeInvitations (updateByKey Invitation.id inv.id (renewed crypto now raw) db.invitations)

/-- A pending invitation past its expiry. -/
def isOverdue (inv : Invitation) : Bool := inv.status = .pending ∧ inv.expiresAt < now

/-- `expire_invitations`. -/
def expireInvitations (db : AuthDb) : AuthDb :=
  { db with
    invitations := db.invitations.map fun inv =>
      if isOverdue now inv then { inv with status := .expired } else inv }

/-! ### Endpoints -/

/-- `POST /invites`. -/
def sendInviteEndpoint (d : InviteDraws) (request : SendInviteRequest) (user : User) :
    Request Invitation := do
  let _ ← requireTenantAdmin request.tenantId user
  sendInvite crypto now d request user

/-- `POST /invites/batch`. -/
def batchInviteEndpoint (draws : ℕ → InviteDraws) (request : BatchInviteRequest) (user : User) :
    Request (List BatchInviteOut) := do
  let _ ← requireTenantAdmin request.tenantId user
  batchSendInvites crypto now draws request user

/-- `POST /onboarding/{tenant_id}/complete`. -/
def completeOnboardingEndpoint (draws : ℕ → InviteDraws) (tenantId : String)
    (request : CompleteOnboardingRequest) (user : User) : Request Unit := do
  let _ ← requireTenantAdmin tenantId user
  completeOnboarding crypto now draws tenantId user request

end

end EclServer.Auth
