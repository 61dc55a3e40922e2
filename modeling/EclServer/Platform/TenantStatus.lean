import EclServer.Library.Columns
import EclServer.Platform.Impersonation

/-!
The status of a tenant (`suspend_tenant`, `reactivate_tenant`, `extend_trial` and
`patch_platform_tenant` of `app/modules/platform/service.py`, `close_tenant` of
`app/modules/tenants/service.py`).

* `suspendTenant` and the other services; `TenantChange.exec` runs one in its transaction.
  `tenantRequests`: the same requests statement by statement; `serve_tenantRequests`: without
  interruption they are the services.
* `statusAfter`: the states of a tenant and the events that lead from one to the next.
  `Explained`: what the audit log says of a tenant is what its row says.
* `tenants_explained_iff`: when requests that overlap keep the log and the rows in agreement.
  `tenants_serial_iff`: the same for requests one after the other.
-/

namespace EclServer.Platform

open EclServer.Library

/-! ### The services -/

inductive TenantStatus where
  | trial
  | active
  | suspended
  | closing
  deriving DecidableEq, Repr

def TenantStatus.value : TenantStatus → String
  | .trial => "trial"
  | .active => "active"
  | .suspended => "suspended"
  | .closing => "closing"

/-- The columns of `tenants` that the services read or write. The plan and the status are
`VARCHAR(32)`, and a patch may write any text that this column takes. -/
structure PlatformTenant where
  id : String
  name : String
  plan : String := "trial"
  status : String := "trial"
  closeRequestedAt : Option Time := none
  closeRequestedBy : Option String := none
  deletedAt : Option Time := none
  deriving DecidableEq, Repr

inductive TenantEvent where
  | suspended
  | reactivated
  | trialExtended
  | closeRequested
  deriving DecidableEq, Repr

/-- An audit event with its details. `about` is the tenant that the details name, `tenantId` the
column that decides in whose log it stands. -/
structure TenantLog where
  event : TenantEvent
  userId : String
  about : String
  tenantId : Option String := none
  reason : Option String := none
  extendedDays : Option ℤ := none
  deriving DecidableEq, Repr

structure TenantDb where
  tenants : List PlatformTenant
  auditLogs : List TenantLog := []
  deriving DecidableEq, Repr

def alreadySuspendedError : ECLException :=
  { code := "ALREADY_SUSPENDED", detail := "This tenant is already suspended.", statusCode := 409 }

def notSuspendedError : ECLException :=
  { code := "NOT_SUSPENDED", detail := "This tenant is not currently suspended.",
    statusCode := 409 }

def invalidConfirmationError : ECLException :=
  { code := "INVALID_CONFIRMATION", detail := "Confirmation text must be exactly \"CLOSE\".",
    statusCode := 400 }

def invalidDays : ECLException :=
  { code := "INVALID_DAYS", detail := "Trial extension must be between 1 and 90 days.",
    statusCode := 400 }

/-- `get_tenant_or_404`, and the query `close_tenant` starts with. -/
def getTenantOr404 (tenantId : String) (tenants : List PlatformTenant) :
    Except ECLException PlatformTenant :=
  match tenants.find? fun t => t.id = tenantId ∧ t.deletedAt = none with
  | none => .error tenantNotFound
  | some t => .ok t

/-- A service: a check of the request, what it makes of the tenant it loads, and its events. -/
structure TenantChange where
  tenantId : String
  check : Except ECLException Unit := .ok ()
  edit : PlatformTenant → Except ECLException PlatformTenant
  logs : List TenantLog := []

/-- `suspend_tenant`. -/
def suspendTenant (tenantId actorUserId : String) (reason : Option String) : TenantChange where
  tenantId := tenantId
  edit t :=
    if t.status = TenantStatus.suspended.value then .error alreadySuspendedError
    else .ok { t with status := TenantStatus.suspended.value }
  logs := [{ event := .suspended, userId := actorUserId, about := tenantId, reason := reason }]

/-- `reactivate_tenant`. -/
def reactivateTenant (tenantId actorUserId : String) : TenantChange where
  tenantId := tenantId
  edit t :=
    if t.status ≠ TenantStatus.suspended.value then .error notSuspendedError
    else .ok { t with status := TenantStatus.active.value }
  logs := [{ event := .reactivated, userId := actorUserId, about := tenantId }]

/-- `extend_trial`: it only records the extension. -/
def extendTrial (tenantId actorUserId : String) (days : ℤ) : TenantChange where
  tenantId := tenantId
  check := if 1 ≤ days ∧ days ≤ 90 then .ok () else .error invalidDays
  edit t := .ok t
  logs := [{ event := .trialExtended, userId := actorUserId, about := tenantId,
             extendedDays := some days }]

structure UpdatePlatformTenantRequest where
  name : Option String := none
  plan : Option String := none
  status : Option String := none

/-- `if value: column = value`. -/
def orColumn (value : Option String) (column : String) : String :=
  match value with
  | none => column
  | some text => if text = "" then column else text

/-- The columns take the plan and the status of a patch. -/
def UpdatePlatformTenantRequest.FitsColumns (body : UpdatePlatformTenantRequest) : Prop :=
  (varchar 32 (body.plan.getD "")).isOk = true ∧ (varchar 32 (body.status.getD "")).isOk = true

instance (body : UpdatePlatformTenantRequest) : Decidable body.FitsColumns :=
  inferInstanceAs (Decidable (_ ∧ _))

/-- `patch_platform_tenant`: it records nothing. A text that its column refuses ends it. -/
def patchPlatformTenant (tenantId : String) (body : UpdatePlatformTenantRequest) :
    TenantChange where
  tenantId := tenantId
  edit t :=
    if body.FitsColumns then
      .ok { t with
        name := orColumn body.name t.name
        plan := orColumn body.plan t.plan
        status := orColumn body.status t.status }
    else .error unexpectedError

/-- `close_tenant`: one event for the log of the tenant, one for the log of the platform. -/
def closeTenant (tenantId userId confirmation : String) (now : Time) : TenantChange where
  tenantId := tenantId
  edit t :=
    if pyStrip confirmation ≠ "CLOSE" then .error invalidConfirmationError
    else if t.status = TenantStatus.closing.value then .error alreadySuspendedError
    else .ok { t with
      closeRequestedAt := some now
      closeRequestedBy := some userId
      status := TenantStatus.closing.value }
  logs :=
    [{ event := .closeRequested, userId := userId, about := tenantId, tenantId := some tenantId },
     { event := .closeRequested, userId := userId, about := tenantId }]

/-- The session writes a column that the request has changed since it loaded the row. -/
def written {α : Type} [DecidableEq α] (loaded edited stored : α) : α :=
  if edited = loaded then stored else edited

/-- A column `VARCHAR(32)` that is written. -/
def writtenText (loaded edited stored : String) : String :=
  if edited = loaded then stored else cutText 32 edited

/-- The column holds the texts of the services. -/
@[simp] lemma cutText_value (s : TenantStatus) : cutText 32 s.value = s.value := by
  cases s <;> rfl

/-- The UPDATE of a row: the columns that `edited` has changed in `loaded`. -/
def flushTenant (loaded edited stored : PlatformTenant) : PlatformTenant :=
  { stored with
    name := written loaded.name edited.name stored.name
    plan := writtenText loaded.plan edited.plan stored.plan
    status := writtenText loaded.status edited.status stored.status
    closeRequestedAt :=
      written loaded.closeRequestedAt edited.closeRequestedAt stored.closeRequestedAt
    closeRequestedBy :=
      written loaded.closeRequestedBy edited.closeRequestedBy stored.closeRequestedBy }

/-- The tables after the commit of a change that has loaded one row. -/
def commitTenant (loaded edited : PlatformTenant) (logs : List TenantLog) (db : TenantDb) :
    TenantDb :=
  { tenants := updateByKey PlatformTenant.id loaded.id (flushTenant loaded edited) db.tenants
    auditLogs := db.auditLogs ++ logs }

/-- What a change loads and makes of it. -/
def TenantChange.load (c : TenantChange) (db : TenantDb) :
    Except ECLException (PlatformTenant × PlatformTenant) := do
  c.check
  let loaded ← getTenantOr404 c.tenantId db.tenants
  let edited ← c.edit loaded
  return (loaded, edited)

/-- The service in its transaction. -/
def TenantChange.exec (c : TenantChange) : Tx ECLException TenantDb Unit := do
  let db ← get
  let (loaded, edited) ← liftM (c.load db)
  modify (commitTenant loaded edited c.logs)

/-! ### Statement by statement -/

inductive TenantRequest where
  | suspend (tenantId actorUserId : String) (reason : Option String)
  | reactivate (tenantId actorUserId : String)
  | extendTrial (tenantId actorUserId : String) (days : ℤ)
  | patch (tenantId : String) (body : UpdatePlatformTenantRequest)
  | close (tenantId userId confirmation : String) (now : Time)

def TenantRequest.change : TenantRequest → TenantChange
  | .suspend tenantId actorUserId reason => suspendTenant tenantId actorUserId reason
  | .reactivate tenantId actorUserId => reactivateTenant tenantId actorUserId
  | .extendTrial tenantId actorUserId days => Platform.extendTrial tenantId actorUserId days
  | .patch tenantId body => patchPlatformTenant tenantId body
  | .close tenantId userId confirmation now => closeTenant tenantId userId confirmation now

/-- Where a request stands: before its query, or at its commit with what it has loaded. -/
inductive TenantCall where
  | select (request : TenantRequest)
  | commit (request : TenantRequest) (loaded edited : PlatformTenant)

def nextTenant (db : TenantDb) : TenantCall → TenantDb × Option TenantCall
  | .select request =>
      (db, (request.change.load db).toOption.map fun rows => .commit request rows.1 rows.2)
  | .commit request loaded edited => (commitTenant loaded edited request.change.logs db, none)

/-- Requests about tenants that overlap. -/
def tenantRequests : Service TenantDb TenantRequest TenantCall where
  start := .select
  next := nextTenant

/-- **A request that nobody interrupts** is its service. -/
lemma serve_tenantRequests (db : TenantDb) (request : TenantRequest) :
    tenantRequests.serve 2 db request = (Tx.commit request.change.exec db).2 := by
  rw [Service.serve, Service.finish, TenantChange.exec]
  cases hload : request.change.load db with
  | error e => simp [tenantRequests, nextTenant, hload, Tx.commit, Tx.exec_bind, Except.toOption]
  | ok rows =>
      simp [tenantRequests, nextTenant, Service.finish, hload, Tx.commit, Tx.exec_bind,
        Except.toOption]

/-! ### What the log says -/

/-- The status after an event, where the event may happen. -/
def statusAfter (status : String) : TenantEvent → Option String
  | .suspended =>
      if status = TenantStatus.suspended.value then none else some TenantStatus.suspended.value
  | .reactivated =>
      if status = TenantStatus.suspended.value then some TenantStatus.active.value else none
  | .trialExtended => some status
  | .closeRequested =>
      if status = TenantStatus.closing.value then none else some TenantStatus.closing.value

/-- The events of a tenant in the log of the platform. -/
def historyOf (id : String) (logs : List TenantLog) : List TenantLog :=
  logs.filter fun l => l.about = id ∧ l.tenantId = none

/-- The status that the events lead to, if each of them may happen where it does. -/
def statusFrom (status : String) (logs : List TenantLog) : Option String :=
  logs.foldlM (fun s l => statusAfter s l.event) status

/-- The user who asked last for the closing. -/
def requesterFrom (requester : Option String) (logs : List TenantLog) : Option String :=
  logs.foldl (fun r l => if l.event = .closeRequested then some l.userId else r) requester

/-- The events lead from the first row to the present one. -/
structure Explained (first row : PlatformTenant) (logs : List TenantLog) : Prop where
  status : statusFrom first.status logs = some row.status
  requester : requesterFrom first.closeRequestedBy logs = row.closeRequestedBy

/-- **The log explains the rows**, for the tenants there were at first. -/
def LogExplains (tenants : List PlatformTenant) (db : TenantDb) : Prop :=
  ∀ first ∈ tenants, ∀ row ∈ db.tenants, row.id = first.id →
    Explained first row (historyOf row.id db.auditLogs)

/-- What a request has loaded fits the row that it commits to. -/
def FitsRow (loaded row : PlatformTenant) : TenantRequest → Prop
  | .suspend _ _ _ => row.status ≠ TenantStatus.suspended.value
  | .reactivate _ _ => row.status = TenantStatus.suspended.value
  | .extendTrial _ _ _ => True
  | .patch _ body =>
      orColumn body.status loaded.status = loaded.status
        ∨ cutText 32 (orColumn body.status loaded.status) = row.status
  | .close _ userId _ _ => row.status ≠ TenantStatus.closing.value
      ∧ (loaded.closeRequestedBy = some userId → row.closeRequestedBy = some userId)

instance (loaded row : PlatformTenant) (request : TenantRequest) :
    Decidable (FitsRow loaded row request) :=
  match request with
  | .suspend _ _ _ => inferInstanceAs (Decidable (_ ≠ _))
  | .reactivate _ _ => inferInstanceAs (Decidable (_ = _))
  | .extendTrial _ _ _ => inferInstanceAs (Decidable True)
  | .patch _ _ => inferInstanceAs (Decidable (_ ∨ _))
  | .close _ _ _ _ => inferInstanceAs (Decidable (_ ∧ (_ → _)))

section Log

variable {first row row' loaded edited : PlatformTenant} {logs : List TenantLog}
  {request : TenantRequest}

lemma historyOf_append (id : String) (l l' : List TenantLog) :
    historyOf id (l ++ l') = historyOf id l ++ historyOf id l' :=
  List.filter_append l l'

/-- Every event of a request is about its tenant. -/
lemma about_of_mem_logs {l : TenantLog} (h : l ∈ request.change.logs) :
    l.about = request.change.tenantId := by
  cases request with
  | suspend tenantId actorUserId reason =>
      obtain rfl := List.mem_singleton.mp h
      rfl
  | reactivate tenantId actorUserId =>
      obtain rfl := List.mem_singleton.mp h
      rfl
  | extendTrial tenantId actorUserId days =>
      obtain rfl := List.mem_singleton.mp h
      rfl
  | patch tenantId body => cases h
  | close tenantId userId confirmation now =>
      rcases List.mem_pair.mp h with rfl | rfl
      · rfl
      · rfl

lemma historyOf_logs_of_ne {id : String} (h : id ≠ request.change.tenantId) :
    historyOf id request.change.logs = [] := by
  rw [historyOf, List.filter_eq_nil_iff]
  intro l hl hmine
  rw [decide_eq_true_eq, about_of_mem_logs hl] at hmine
  exact h hmine.1.symm

/-- More events, from a row that the earlier ones explain. -/
lemma explained_append_iff (h : Explained first row logs) (new : List TenantLog) :
    Explained first row' (logs ++ new)
      ↔ statusFrom row.status new = some row'.status
        ∧ requesterFrom row.closeRequestedBy new = row'.closeRequestedBy := by
  have hstatus : statusFrom first.status (logs ++ new) = statusFrom row.status new := by
    have hlogs := h.status
    rw [statusFrom] at hlogs
    rw [statusFrom, List.foldlM_append, hlogs]
    rfl
  have hrequester : requesterFrom first.closeRequestedBy (logs ++ new)
      = requesterFrom row.closeRequestedBy new := by
    rw [← h.requester]
    exact List.foldl_append
  rw [← hstatus, ← hrequester]
  exact ⟨fun he => ⟨he.status, he.requester⟩, fun he => ⟨he.1, he.2⟩⟩

/-- **The exact condition for one row**: the events of a request explain what its commit writes
exactly when what it has loaded fits. -/
lemma explained_flush_iff (h : Explained first row logs)
    (hedit : request.change.edit loaded = .ok edited) :
    Explained first (flushTenant loaded edited row)
        (logs ++ historyOf request.change.tenantId request.change.logs)
      ↔ FitsRow loaded row request := by
  rw [explained_append_iff h]
  cases request with
  | suspend tenantId actorUserId reason =>
      simp only [TenantRequest.change, suspendTenant] at hedit ⊢
      split_ifs at hedit with hwas
      obtain rfl := Except.ok.inj hedit
      simp [historyOf, statusFrom, statusAfter, requesterFrom, flushTenant, written, writtenText,
        FitsRow, Ne.symm hwas]
  | reactivate tenantId actorUserId =>
      simp only [TenantRequest.change, reactivateTenant] at hedit ⊢
      split_ifs at hedit with hwas
      obtain rfl := Except.ok.inj hedit
      rw [ne_eq, not_not] at hwas
      by_cases hstill : row.status = TenantStatus.suspended.value
      · have hchanged : TenantStatus.active.value ≠ TenantStatus.suspended.value := by decide
        simp [historyOf, statusFrom, statusAfter, requesterFrom, flushTenant, written, writtenText,
          FitsRow, hwas, hstill, hchanged]
      · simp [historyOf, statusFrom, statusAfter, requesterFrom, flushTenant, written, writtenText,
          FitsRow, hstill]
  | extendTrial tenantId actorUserId days =>
      simp only [TenantRequest.change, Platform.extendTrial] at hedit ⊢
      obtain rfl := Except.ok.inj hedit
      simp [historyOf, statusFrom, statusAfter, requesterFrom, flushTenant, written, writtenText,
        FitsRow]
  | patch tenantId body =>
      simp only [TenantRequest.change, patchPlatformTenant] at hedit ⊢
      split_ifs at hedit with hcolumns
      obtain rfl := Except.ok.inj hedit
      -- a patch has no event, so that the row must keep the status it has
      have hwritten : row.status
            = writtenText loaded.status (orColumn body.status loaded.status) row.status
          ↔ FitsRow loaded row (.patch tenantId body) := by
        rw [writtenText, FitsRow]
        split_ifs with hsame
        · exact iff_of_true rfl (Or.inl hsame)
        · rw [or_iff_right hsame]
          exact eq_comm
      rw [← hwritten]
      simp [historyOf, statusFrom, requesterFrom, flushTenant, written, writtenText]
  | close tenantId userId confirmation now =>
      simp only [TenantRequest.change, closeTenant] at hedit ⊢
      split_ifs at hedit with hconfirmed hwas
      obtain rfl := Except.ok.inj hedit
      -- the user is written only where it differs from the one that was loaded
      have hrequester : some userId
            = written loaded.closeRequestedBy (some userId) row.closeRequestedBy
          ↔ (loaded.closeRequestedBy = some userId → row.closeRequestedBy = some userId) := by
        rw [written]
        split_ifs with hsame
        · rw [← hsame, forall_prop_of_true rfl]
          exact eq_comm
        · exact iff_of_true rfl fun h => absurd h.symm hsame
      rw [FitsRow, ← hrequester]
      simp [historyOf, statusFrom, statusAfter, requesterFrom, flushTenant, Ne.symm hwas, written,
        writtenText]

end Log

/-! ### Requests that overlap -/

/-- A request at its commit has made its change of the row that it has loaded. -/
def TenantCall.Loaded : TenantCall → Prop
  | .select _ => True
  | .commit request loaded edited =>
      loaded.id = request.change.tenantId ∧ request.change.edit loaded = .ok edited

/-- The tenants have the ids they had at first. -/
def SameTenants (tenants : List PlatformTenant) (db : TenantDb) : Prop :=
  db.tenants.map (·.id) = tenants.map (·.id)

/-- The statement, if it commits, finds that what it has loaded fits. -/
def FitsCommit (db : TenantDb) : TenantCall → Prop
  | .select _ => True
  | .commit request loaded _ => ∀ row ∈ db.tenants, row.id = loaded.id → FitsRow loaded row request

instance (db : TenantDb) (call : TenantCall) : Decidable (FitsCommit db call) :=
  match call with
  | .select _ => inferInstanceAs (Decidable True)
  | .commit request loaded _ =>
      inferInstanceAs
        (Decidable (∀ row ∈ db.tenants, row.id = loaded.id → FitsRow loaded row request))

section Overlap

variable {tenants : List PlatformTenant} {db : TenantDb} {loaded edited : PlatformTenant}
  {request : TenantRequest} {call : TenantCall}

lemma load_eq_ok_iff {c : TenantChange} :
    c.load db = .ok (loaded, edited)
      ↔ c.check = .ok () ∧ getTenantOr404 c.tenantId db.tenants = .ok loaded
        ∧ c.edit loaded = .ok edited := by
  rw [TenantChange.load, bind_eq_ok]
  constructor
  · rintro ⟨⟨⟩, hcheck, h⟩
    obtain ⟨t, ht, h⟩ := bind_eq_ok.mp h
    obtain ⟨e, he, h⟩ := bind_eq_ok.mp h
    obtain ⟨rfl, rfl⟩ := Prod.mk.inj (Except.ok.inj h)
    exact ⟨hcheck, ht, he⟩
  · rintro ⟨hcheck, ht, he⟩
    exact ⟨(), hcheck, bind_eq_ok.mpr ⟨loaded, ht, bind_eq_ok.mpr ⟨edited, he, rfl⟩⟩⟩

lemma mem_of_getTenantOr404 {tenantId : String}
    (h : getTenantOr404 tenantId db.tenants = .ok loaded) :
    loaded ∈ db.tenants ∧ loaded.id = tenantId ∧ loaded.deletedAt = none := by
  rw [getTenantOr404] at h
  split at h
  · cases h
  · rename_i t hfind
    obtain rfl := Except.ok.inj h
    have hlive : t.id = tenantId ∧ t.deletedAt = none := by
      simpa using List.find?_some hfind
    exact ⟨List.mem_of_find?_eq_some hfind, hlive.1, hlive.2⟩

/-- **What a commit does to the log and the rows**, whatever was committed since the load. -/
lemma logExplains_commit_iff (hdb : SameTenants tenants db) (h : LogExplains tenants db)
    (hid : loaded.id = request.change.tenantId) (hedit : request.change.edit loaded = .ok edited) :
    LogExplains tenants (commitTenant loaded edited request.change.logs db)
      ↔ ∀ row ∈ db.tenants, row.id = loaded.id → FitsRow loaded row request := by
  constructor
  · intro hnext row hrow hmine
    have hids : row.id ∈ tenants.map (·.id) := by
      rw [← show db.tenants.map (·.id) = tenants.map (·.id) from hdb]
      exact List.mem_map_of_mem hrow
    obtain ⟨first, hfirst, hsame⟩ := List.mem_map.mp hids
    have hflushed : flushTenant loaded edited row
        ∈ (commitTenant loaded edited request.change.logs db).tenants :=
      (mem_updateByKey PlatformTenant.id).mpr ⟨row, hrow, by rw [if_pos hmine]⟩
    have hexplained := hnext first hfirst _ hflushed hsame.symm
    change Explained first (flushTenant loaded edited row)
      (historyOf row.id (db.auditLogs ++ request.change.logs)) at hexplained
    rw [historyOf_append] at hexplained
    have hmine' : row.id = request.change.tenantId := hmine.trans hid
    rw [← explained_flush_iff (h first hfirst row hrow hsame.symm) hedit, ← hmine']
    exact hexplained
  · intro hfits first hfirst row' hrow' hsame
    obtain ⟨row, hrow, rfl⟩ := (mem_updateByKey PlatformTenant.id).mp hrow'
    change Explained first _ (historyOf _ (db.auditLogs ++ request.change.logs))
    by_cases hmine : row.id = loaded.id
    · rw [if_pos hmine] at hsame ⊢
      have hmine' : row.id = request.change.tenantId := hmine.trans hid
      change row.id = first.id at hsame
      change Explained first (flushTenant loaded edited row) (historyOf row.id _)
      rw [historyOf_append, hmine',
        explained_flush_iff (hmine' ▸ h first hfirst row hrow hsame) hedit]
      exact hfits row hrow hmine
    · rw [if_neg hmine] at hsame ⊢
      rw [historyOf_append, historyOf_logs_of_ne (hid ▸ hmine), List.append_nil]
      exact h first hfirst row hrow hsame

lemma sameTenants_commit (hdb : SameTenants tenants db) (logs : List TenantLog) :
    SameTenants tenants (commitTenant loaded edited logs db) := by
  exact (map_updateByKey PlatformTenant.id (f := flushTenant loaded edited) (fun _ => rfl)
    db.tenants).trans hdb

/-- What a statement keeps, whatever the others did before it. -/
lemma next_keeps_tenants (hdb : SameTenants tenants db) (hcall : call.Loaded) :
    SameTenants tenants (nextTenant db call).1
      ∧ ∀ call' ∈ (nextTenant db call).2, call'.Loaded := by
  cases call with
  | select request =>
      refine ⟨hdb, fun call' hcall' => ?_⟩
      obtain ⟨⟨loaded, edited⟩, hrows, rfl⟩ := Option.map_eq_some_iff.mp hcall'
      cases hload : request.change.load db with
      | error e =>
          rw [hload] at hrows
          cases hrows
      | ok rows =>
          rw [hload] at hrows
          obtain rfl := Option.some.inj hrows
          obtain ⟨-, hget, hedit⟩ := load_eq_ok_iff.mp hload
          exact ⟨(mem_of_getTenantOr404 hget).2.1, hedit⟩
  | commit request loaded edited =>
      exact ⟨sameTenants_commit hdb _, fun call' hcall' => by cases hcall'⟩

/-- A statement keeps the log and the rows in agreement exactly when what it has loaded fits. -/
lemma logExplains_next_iff (hdb : SameTenants tenants db) (hcall : call.Loaded)
    (h : LogExplains tenants db) :
    LogExplains tenants (nextTenant db call).1 ↔ FitsCommit db call := by
  cases call with
  | select request => exact iff_of_true h trivial
  | commit request loaded edited => exact logExplains_commit_iff hdb h hcall.1 hcall.2

/-- At first there are no events. -/
lemma logExplains_start (hids : (tenants.map (·.id)).Nodup) :
    LogExplains tenants { tenants := tenants } := by
  intro first hfirst row hrow hsame
  obtain rfl := List.inj_on_of_nodup_map hids hrow hfirst hsame
  exact ⟨rfl, rfl⟩

end Overlap

/-- **Requests about tenants that overlap** keep the audit log and the rows in agreement, the
status of each tenant being the one its events lead to and the closing being asked for by the user
of its last closing event, if and only if each commit finds that what it has loaded fits. -/
theorem tenants_explained_iff {tenants : List PlatformTenant} (hids : (tenants.map (·.id)).Nodup)
    (as : List (SharedAction TenantRequest)) :
    Always tenantRequests.step (fun st => LogExplains tenants st.db)
        { db := { tenants := tenants } } as
      ↔ EachStep tenantRequests.step (Service.Meets FitsCommit)
          { db := { tenants := tenants } } as :=
  Service.always_iff (S := tenantRequests) (A := fun _ => True) (I := SameTenants tenants)
    (J := TenantCall.Loaded) (fun _ _ => trivial)
    (fun _ _ hdb hcall => next_keeps_tenants hdb hcall)
    (fun _ _ hdb hcall h => logExplains_next_iff hdb hcall h)
    ⟨rfl, fun _ hmem => absurd hmem List.not_mem_nil⟩ (logExplains_start hids)
    (EachStep.of_forall (fun _ _ _ _ => trivial) _ as)

/-- A bank that is suspended and one on trial. -/
def twoBanks : List PlatformTenant :=
  [{ id := "t1", name := "First Bank", status := "suspended" },
    { id := "t2", name := "Second Bank" }]

/-- A reactivation has loaded the tenant when its closing is asked for, and commits after it. -/
def reactivatesClosing : List (SharedAction TenantRequest) :=
  [.arrive (.reactivate "t1" "u1"), .arrive (.close "t1" "u2" " CLOSE" 5), .advance 0, .advance 1,
    .advance 1, .advance 0]

theorem tenants_explained_iff_sample :
    ¬ Always tenantRequests.step (fun st => LogExplains twoBanks st.db)
      { db := { tenants := twoBanks } } reactivatesClosing := by
  rw [tenants_explained_iff (by decide)]
  decide +kernel

/-! ### Requests one after the other -/

/-- The service of a request in its transaction. -/
def performTenant (db : TenantDb) (request : TenantRequest) : TenantDb :=
  (Tx.commit request.change.exec db).2

/-- A patch that its columns take gives a live tenant no other status than it has. -/
def LeavesStatus (db : TenantDb) : TenantRequest → Prop
  | .patch tenantId body => body.FitsColumns →
      ∀ row ∈ db.tenants, row.id = tenantId → row.deletedAt = none →
        orColumn body.status row.status = row.status
          ∨ cutText 32 (orColumn body.status row.status) = row.status
  | _ => True

instance (db : TenantDb) (request : TenantRequest) : Decidable (LeavesStatus db request) :=
  match request with
  | .suspend _ _ _ => inferInstanceAs (Decidable True)
  | .reactivate _ _ => inferInstanceAs (Decidable True)
  | .extendTrial _ _ _ => inferInstanceAs (Decidable True)
  | .patch tenantId body => inferInstanceAs (Decidable (body.FitsColumns →
      ∀ row ∈ db.tenants, row.id = tenantId → row.deletedAt = none →
        orColumn body.status row.status = row.status
          ∨ cutText 32 (orColumn body.status row.status) = row.status))
  | .close _ _ _ _ => inferInstanceAs (Decidable True)

section Serial

variable {tenants : List PlatformTenant} {db : TenantDb} {loaded edited row : PlatformTenant}
  {request : TenantRequest}

lemma endsWithin_tenantRequests (request : TenantRequest) :
    tenantRequests.EndsWithin 2 (tenantRequests.start request) := by
  intro db call hcall
  obtain ⟨rows, -, rfl⟩ := Option.map_eq_some_iff.mp hcall
  intro db' call' hcall'
  cases hcall'

/-- Requests that nobody interrupts are the services one after the other. -/
lemma run_serial_tenantRequests (db : TenantDb) (requests : List TenantRequest) :
    run tenantRequests.step { db := db } (Service.serial 2 requests)
      = { db := run performTenant db requests } := by
  rw [Service.run_serial endsWithin_tenantRequests]
  have hserve : tenantRequests.serve 2 = performTenant := by
    funext db request
    exact serve_tenantRequests db request
  rw [hserve]

lemma performTenant_of_ok (h : request.change.load db = .ok (loaded, edited)) :
    performTenant db request = commitTenant loaded edited request.change.logs db := by
  simp [performTenant, TenantChange.exec, h, Tx.commit, Tx.exec_bind]

lemma performTenant_of_error {e : ECLException} (h : request.change.load db = .error e) :
    performTenant db request = db := by
  simp [performTenant, TenantChange.exec, h, Tx.commit, Tx.exec_bind]

/-- What a request has loaded fits the row that it is, except that a patch may set a status. -/
lemma fitsRow_self_iff (hedit : request.change.edit row = .ok edited) :
    FitsRow row row request ↔ ∀ tenantId body, request = .patch tenantId body →
      orColumn body.status row.status = row.status
        ∨ cutText 32 (orColumn body.status row.status) = row.status := by
  cases request with
  | suspend tenantId actorUserId reason =>
      simp only [TenantRequest.change, suspendTenant] at hedit
      split_ifs at hedit with hwas
      simp [FitsRow, hwas]
  | reactivate tenantId actorUserId =>
      simp only [TenantRequest.change, reactivateTenant] at hedit
      split_ifs at hedit with hwas
      simpa [FitsRow] using hwas
  | extendTrial tenantId actorUserId days => simp [FitsRow]
  | patch tenantId body => simp [FitsRow]
  | close tenantId userId confirmation now =>
      simp only [TenantRequest.change, closeTenant] at hedit
      split_ifs at hedit with hconfirmed hwas
      simp [FitsRow, hwas]

/-- A live tenant is found. -/
lemma exists_getTenantOr404 (hrow : row ∈ db.tenants) (hlive : row.deletedAt = none) :
    ∃ t, getTenantOr404 row.id db.tenants = .ok t := by
  rw [getTenantOr404]
  split
  · rename_i hfind
    have hnone := List.find?_eq_none.mp hfind row hrow
    simp [hlive] at hnone
  · exact ⟨_, rfl⟩

/-- A service keeps the log and the rows in agreement exactly when it leaves the status alone or
records what it does. -/
lemma logExplains_perform_iff (hids : (tenants.map (·.id)).Nodup) (hdb : SameTenants tenants db)
    (h : LogExplains tenants db) :
    LogExplains tenants (performTenant db request) ↔ LeavesStatus db request := by
  have hnodup : (db.tenants.map (·.id)).Nodup := by
    rw [show db.tenants.map (·.id) = tenants.map (·.id) from hdb]
    exact hids
  rcases hload : request.change.load db with e | ⟨loaded, edited⟩
  · rw [performTenant_of_error hload]
    refine iff_of_true h ?_
    cases request with
    | patch tenantId body =>
        rintro hcolumns row hrow rfl hlive
        obtain ⟨t, ht⟩ := exists_getTenantOr404 hrow hlive
        have hedit : (TenantRequest.patch row.id body).change.edit t = .ok _ := if_pos hcolumns
        rw [load_eq_ok_iff.mpr ⟨rfl, ht, hedit⟩] at hload
        cases hload
    | _ => trivial
  · obtain ⟨-, hget, hedit⟩ := load_eq_ok_iff.mp hload
    obtain ⟨hmem, hid, hlive⟩ := mem_of_getTenantOr404 hget
    have honly : ∀ row ∈ db.tenants, row.id = loaded.id → row = loaded :=
      fun row hrow hsame => List.inj_on_of_nodup_map hnodup hrow hmem hsame
    rw [performTenant_of_ok hload, logExplains_commit_iff hdb h hid hedit]
    constructor
    · intro hfits
      have hself := (fitsRow_self_iff hedit).mp (hfits loaded hmem rfl)
      cases request with
      | patch tenantId body =>
          rintro - row hrow hrowid -
          obtain rfl := honly row hrow (hrowid.trans hid.symm)
          exact hself tenantId body rfl
      | _ => trivial
    · intro hleaves row hrow hsame
      obtain rfl := honly row hrow hsame
      refine (fitsRow_self_iff hedit).mpr ?_
      rintro tenantId body rfl
      simp only [TenantRequest.change, patchPlatformTenant] at hedit
      split_ifs at hedit with hcolumns
      exact hleaves hcolumns row hrow hid hlive

lemma sameTenants_perform (hdb : SameTenants tenants db) :
    SameTenants tenants (performTenant db request) := by
  rcases hload : request.change.load db with e | ⟨loaded, edited⟩
  · rw [performTenant_of_error hload]
    exact hdb
  · rw [performTenant_of_ok hload]
    exact sameTenants_commit hdb _

end Serial

/-- **Requests one after the other** keep the audit log and the rows in agreement throughout if and
only if no patch changes a status: the other services happen where the states of a tenant allow it,
and record what they do. -/
theorem tenants_serial_iff {tenants : List PlatformTenant} (hids : (tenants.map (·.id)).Nodup)
    (requests : List TenantRequest) :
    Always performTenant (LogExplains tenants) { tenants := tenants } requests
      ↔ EachStep performTenant LeavesStatus { tenants := tenants } requests :=
  have hfirst : SameTenants tenants { tenants := tenants } := rfl
  always_iff_eachStep_of_invariant (I := SameTenants tenants) (A := fun _ _ => True)
    (fun _ _ hdb _ => sameTenants_perform hdb)
    (fun _ _ hdb h _ => logExplains_perform_iff hids hdb h) hfirst (logExplains_start hids)
    (EachStep.of_forall (fun _ _ => trivial) _ requests)

theorem tenants_serial_iff_sample :
    Always performTenant (LogExplains twoBanks) { tenants := twoBanks }
      [.reactivate "t1" "u1", .suspend "t1" "u1" none, .close "t1" "u2" "CLOSE" 5,
        .close "t1" "u2" "CLOSE" 6,
        .patch "t2" { name := some "Third Bank", status := some "trial" }, .extendTrial "t2" "u1" 30,
        .suspend "t9" "u1" (some "unknown")] :=
  (tenants_serial_iff (by decide) _).mpr (by decide +kernel)

end EclServer.Platform
