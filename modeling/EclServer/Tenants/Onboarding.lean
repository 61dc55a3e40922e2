import EclServer.Auth.InviteWrites
import EclServer.Tenants.Segments

/-!
The setup of a workspace (`app/modules/onboarding/service.py`), over all the tables it writes.
Texts have no NUL, which PostgreSQL does not store, and saved progress is what its `JSON` holds.

* `completeWorkspace`, `saveProgress`, `getStatus`: the services. `replaceSegments`: the second step
  of `complete_onboarding`; its third step is `replaceCollateralTypes`.
* `Standing`: the purpose of the tables, what a workspace is set up with. `setUp`: what a request
  does to the standings. `standing`: what the status endpoint shows of a workspace.
* `onboarding_refines`: requests one after the other answer and show what `setUp` says.
  `onboarding_once`: what a complete workspace shows stays.
-/

namespace EclServer.Tenants

open EclServer.Library EclServer.Auth

/-! ### Requests -/

structure OnboardingSegmentIn where
  name : String
  code : Option String := none
  name_length : 1 ≤ name.length ∧ name.length ≤ 100
  code_length : ∀ c ∈ code, c.length ≤ 50

/-- The body of `complete_onboarding`; the profile and the invitations are those of the accounts. -/
structure OnboardingBody extends CompleteOnboardingRequest where
  segments : List OnboardingSegmentIn
  collateral : List OnboardingCollateralIn
  segments_length : 1 ≤ segments.length ∧ segments.length ≤ 50
  collateral_length : 1 ≤ collateral.length ∧ collateral.length ≤ 50

/-- What the requests draw and call: ids, and `str.upper`. -/
structure OnboardingEnv where
  crypto : Crypto
  upper : String → String

/-- What a completion draws. -/
structure OnboardingDraws where
  now : Time
  invites : ℕ → InviteDraws
  segmentId : ℕ → String
  typeId : ℕ → String

/-- The tables of a setup; `progress` is the column `onboarding_progress` of a tenant. -/
structure Workspaces (P : Type) where
  auth : AuthDb
  segments : List Segment := []
  collateral : CollateralTable := {}
  progress : String → Option P := fun _ => none

/-! ### The services -/

/-- `code.strip().upper() if code else None`. -/
def onboardingCode (upper : String → String) : Option String → Option String
  | none => none
  | some c => if c = "" then none else some (upper (pyStrip c))

/-- The segments of a setup. -/
def onboardingSegments (upper : String → String) (newUlid : ℕ → String) (tenantId userId : String)
    (items : List OnboardingSegmentIn) : List Segment :=
  items.mapIdx fun i item =>
    { id := newUlid i, tenantId := tenantId, name := pyStrip item.name
      code := onboardingCode upper item.code, createdByUserId := userId }

/-- The live segments of a tenant are deleted, and those of a setup take their place. -/
def withSegments (upper : String → String) (now : Time) (newUlid : ℕ → String)
    (tenantId userId : String) (items : List OnboardingSegmentIn) (rows : List Segment) :
    List Segment :=
  replaceLive Segment.isLive (fun s => s.tenantId = tenantId) (SegmentWrite.deleteRow now)
    (onboardingSegments upper newUlid tenantId userId items) rows

/-- The second step of `complete_onboarding`, with its flush. -/
def replaceSegments (upper : String → String) (now : Time) (newUlid : ℕ → String)
    (tenantId userId : String) (items : List OnboardingSegmentIn) (rows : List Segment) :
    Except ECLException (List Segment) :=
  let replaced := withSegments upper now newUlid tenantId userId items rows
  if (replaced.map (·.id)).Nodup ∧ NodupLive Segment.isLive Segment.tenantName replaced
  then .ok replaced else .error unexpectedError

/-- `tenants.currency` is `VARCHAR(8)`; in upper case a currency may be longer than it was. -/
def storeCurrency (currency : String) : Except ECLException Unit :=
  if (varchar 8 currency).isOk then .ok () else .error unexpectedError

section

variable {P : Type} (env : OnboardingEnv)

/-- `complete_onboarding`. The session does not flush by itself: the roles of the invitations are
checked first, and what the columns or the indexes refuse is refused by the one flush after it. -/
def completeWorkspace (draws : OnboardingDraws) (tenantId : String) (user : User)
    (body : OnboardingBody) : Tx ECLException (Workspaces P) Unit := do
  let db ← get
  let tenant ← liftM (Tx.exec (loadTenant tenantId) db.auth).1
  if tenant.onboardingCompletedAt ≠ none then return ()
  else
    let accounts := Tx.exec (completeOnboarding env.crypto draws.now draws.invites tenantId user
      body.toCompleteOnboardingRequest) db.auth
    liftM accounts.1
    liftM (storeCurrency body.profile.currency)
    let segments ← liftM (replaceSegments env.upper draws.now draws.segmentId tenantId user.id
      body.segments db.segments)
    let collateral ← liftM (replaceCollateralTypes draws.now draws.typeId tenantId user.id
      body.collateral db.collateral)
    set { db with
      auth := accounts.2, segments := segments, collateral := collateral
      progress := Function.update db.progress tenantId none : Workspaces P }

/-- `save_progress`. -/
def saveProgress (tenantId userId : String) (progress : P) :
    Tx ECLException (Workspaces P) Unit := do
  let db ← get
  let _ ← liftM (Tx.exec (loadTenant tenantId) db.auth).1
  set { db with
    auth := (Tx.exec (logEvent { eventType := "onboarding.progress_saved", userId := some userId })
      db.auth).2
    progress := Function.update db.progress tenantId (some progress) : Workspaces P }

end

structure OnboardingSegmentOut where
  id : String
  name : String
  code : Option String

structure OnboardingCollateralOut where
  id : String
  name : String
  haircut : ℚ
  timeToRealize : ℤ

structure OnboardingStatusData (P : Type) where
  isComplete : Bool
  completedAt : Option Time
  progress : Option P
  segments : List OnboardingSegmentOut
  collateralTypes : List OnboardingCollateralOut

section

variable {P κ : Type} [LinearOrder κ] (collate : String → κ)

/-- `get_status`; the names are in the order of the database's collation. -/
def getStatus (tenantId : String) (db : Workspaces P) :
    Except ECLException (OnboardingStatusData P) := do
  let tenant ← (Tx.exec (loadTenant tenantId) db.auth).1
  return {
    isComplete := tenant.onboardingCompletedAt ≠ none
    completedAt := tenant.onboardingCompletedAt
    progress := db.progress tenantId
    segments := (sortByKey (fun s => collate s.name) (liveSegments tenantId db.segments)).map
      fun s => ⟨s.id, s.name, s.code⟩
    collateralTypes := (sortByKey (fun t => collate t.name) (db.collateral.live tenantId)).map
      fun t => ⟨t.id, t.name, t.haircut, t.timeToRealize⟩ }

end

inductive OnboardingRequest (P : Type) where
  | complete (draws : OnboardingDraws) (tenantId : String) (user : User) (body : OnboardingBody)
  | save (tenantId userId : String) (progress : P)

/-- A request in its transaction. -/
def performOnboarding {P : Type} (env : OnboardingEnv) (db : Workspaces P) :
    OnboardingRequest P → Except ECLException Unit × Workspaces P
  | .complete draws tenantId user body => (completeWorkspace env draws tenantId user body).commit db
  | .save tenantId userId progress => (saveProgress tenantId userId progress).commit db

/-! ### What a setup is for -/

/-- What a workspace is set up with. -/
structure Standing (P : Type) where
  completedAt : Option Time
  progress : Option P
  segments : List (String × Option String)
  types : List (String × ℚ × ℤ)

section

variable {P κ : Type} [LinearOrder κ] (env : OnboardingEnv) (collate : String → κ)

/-- The workspace that a body describes. A haircut is kept to two decimals. -/
def posted (now : Time) (body : OnboardingBody) : Standing P where
  completedAt := some now
  progress := none
  segments := sortByKey (fun s => collate s.1)
    (body.segments.map fun s => (pyStrip s.name, onboardingCode env.upper s.code))
  types := sortByKey (fun t => collate t.1)
    (body.collateral.map fun t => (pyStrip t.name, hundredths t.haircut, t.timeToRealize))

/-- No two segments and no two types of a body have one name. -/
def OnboardingBody.NamesApart (body : OnboardingBody) : Prop :=
  (body.segments.map fun s => pyStrip s.name).Nodup
    ∧ (body.collateral.map fun t => pyStrip t.name).Nodup

instance (body : OnboardingBody) : Decidable body.NamesApart :=
  inferInstanceAs (Decidable (_ ∧ _))

/-- The columns hold the currency and the times to realize of a body. -/
def OnboardingBody.FitsColumns (body : OnboardingBody) : Prop :=
  (varchar 8 body.profile.currency).isOk = true
    ∧ ∀ t ∈ body.collateral, t.timeToRealize < 2 ^ 31

instance (body : OnboardingBody) : Decidable body.FitsColumns :=
  inferInstanceAs (Decidable (_ ∧ ∀ t ∈ body.collateral, _))

/-- **A request, by the standings**: a workspace is set up once, with what was posted, if the roles
are known, the names differ and the columns hold it; progress is kept until then, and may be saved
after it. -/
def setUp (workspaces : String → Option (Standing P)) :
    OnboardingRequest P → Except ECLException Unit × (String → Option (Standing P))
  | .complete draws tenantId _ body =>
      match workspaces tenantId with
      | none => (.error (resourceNotFound "Tenant not found."), workspaces)
      | some s =>
          if s.completedAt ≠ none then (.ok (), workspaces)
          else
            match body.invites.find? fun i => normalisedRole env.crypto i.role ∉ userRoles with
            | some i => (.error (invalidRole ("Invalid role: " ++ i.role)), workspaces)
            | none =>
                if body.NamesApart ∧ body.FitsColumns then
                  (.ok (), Function.update workspaces tenantId
                    (some (posted env collate draws.now body)))
                else (.error unexpectedError, workspaces)
  | .save tenantId _ progress =>
      match workspaces tenantId with
      | none => (.error (resourceNotFound "Tenant not found."), workspaces)
      | some s => (.ok (), Function.update workspaces tenantId
          (some { s with progress := some progress }))

/-- The part of the status that does not name ids. -/
def OnboardingStatusData.standing (d : OnboardingStatusData P) : Standing P where
  completedAt := d.completedAt
  progress := d.progress
  segments := d.segments.map fun s => (s.name, s.code)
  types := d.collateralTypes.map fun t => (t.name, t.haircut, t.timeToRealize)

/-- What the status endpoint shows of each workspace. -/
def standing (db : Workspaces P) (tenantId : String) : Option (Standing P) :=
  (getStatus collate tenantId db).toOption.map (·.standing)

end

/-! ### The segments and the types of a setup -/

section Replaced

variable {upper : String → String} {now : Time} {newUlid : ℕ → String} {tenantId userId : String}
  {rows : List Segment} {table : CollateralTable}

lemma mem_onboardingSegments {items : List OnboardingSegmentIn} {s : Segment}
    (h : s ∈ onboardingSegments upper newUlid tenantId userId items) :
    s.tenantId = tenantId ∧ s.isLive = true := by
  obtain ⟨i, hi, rfl⟩ := List.mem_mapIdx.mp h
  exact ⟨rfl, rfl⟩

lemma map_onboardingSegments (upper : String → String) (newUlid : ℕ → String)
    (tenantId userId : String) {α : Type} (f : String → Option String → α)
    (items : List OnboardingSegmentIn) :
    (onboardingSegments upper newUlid tenantId userId items).map (fun s => f s.name s.code)
      = items.map fun item => f (pyStrip item.name) (onboardingCode upper item.code) := by
  refine List.ext_getElem (by simp [onboardingSegments]) fun i hi hi' => ?_
  simp [onboardingSegments]

/-- The rows of one tenant have different keys where they have different names. -/
lemma nodup_tenantName_iff {items : List OnboardingSegmentIn} :
    ((onboardingSegments upper newUlid tenantId userId items).map Segment.tenantName).Nodup
      ↔ (items.map fun item => pyStrip item.name).Nodup := by
  have hkeys : (onboardingSegments upper newUlid tenantId userId items).map Segment.tenantName
      = (items.map fun item => pyStrip item.name).map fun name => (tenantId, name) := by
    have hnames := map_onboardingSegments upper newUlid tenantId userId
      (fun name _ => (tenantId, name)) items
    rw [List.map_map]
    refine Eq.trans (List.map_congr_left fun s hs => ?_) hnames
    rw [Segment.tenantName, (mem_onboardingSegments hs).1]
  rw [hkeys]
  exact List.nodup_map_iff fun a b hab => (Prod.mk.inj hab).2

lemma nodupLive_withSegments_iff {items : List OnboardingSegmentIn}
    (hnames : NodupLive Segment.isLive Segment.tenantName rows) :
    NodupLive Segment.isLive Segment.tenantName
        (withSegments upper now newUlid tenantId userId items rows)
      ↔ (items.map fun item => pyStrip item.name).Nodup := by
  rw [withSegments, nodupLive_replaceLive_iff (fun _ => rfl)
    (fun s hs => (mem_onboardingSegments hs).2) hnames ?_, nodup_tenantName_iff]
  intro r hr n hn hsame
  rw [Segment.tenantName, Segment.tenantName, (mem_onboardingSegments hn).1] at hsame
  exact of_decide_eq_false hr (Prod.mk.inj hsame).1

/-- The replacement is admitted exactly when the new names differ. -/
lemma replaceSegments_eq {items : List OnboardingSegmentIn}
    (hnames : NodupLive Segment.isLive Segment.tenantName rows)
    (hdrawn : ((rows ++ onboardingSegments upper newUlid tenantId userId items).map (·.id)).Nodup) :
    replaceSegments upper now newUlid tenantId userId items rows
      = if (items.map fun item => pyStrip item.name).Nodup
        then .ok (withSegments upper now newUlid tenantId userId items rows)
        else .error unexpectedError := by
  have hids : ((withSegments upper now newUlid tenantId userId items rows).map (·.id)).Nodup := by
    have hsame : (withSegments upper now newUlid tenantId userId items rows).map (·.id)
        = (rows ++ onboardingSegments upper newUlid tenantId userId items).map (·.id) := by
      rw [withSegments, replaceLive, List.map_append, List.map_append, List.map_map]
      congr 1
      refine List.map_congr_left fun s _ => ?_
      rw [Function.comp_apply]
      split
      · rfl
      · rfl
    rw [hsame]
    exact hdrawn
  rw [replaceSegments]
  by_cases hnodup : (items.map fun item => pyStrip item.name).Nodup
  · rw [if_pos hnodup, if_pos ⟨hids, (nodupLive_withSegments_iff hnames).mpr hnodup⟩]
  · rw [if_neg hnodup, if_neg fun h => hnodup ((nodupLive_withSegments_iff hnames).mp h.2)]

/-- What a setup leaves of the live segments. -/
lemma liveSegments_withSegments (items : List OnboardingSegmentIn) (other : String) :
    liveSegments other (withSegments upper now newUlid tenantId userId items rows)
      = if other = tenantId then onboardingSegments upper newUlid tenantId userId items
        else liveSegments other rows :=
  filter_owner_replaceLive (fun _ => rfl) (fun _ hs => (mem_onboardingSegments hs).2)
    (fun _ hs => (mem_onboardingSegments hs).1) other

/-- The rows of a replacement of types. -/
def withTypes (now : Time) (newUlid : ℕ → String) (tenantId userId : String)
    (items : List OnboardingCollateralIn) (table : CollateralTable) : List CollateralType :=
  replaceLive CollateralType.isLive (fun t => t.tenantId = tenantId)
    (fun t => { t with deletedAt := some now })
    (batchRows newUlid tenantId userId
      ((items.map (·.toCollateralItem)).map CollateralItem.rounded)) table.rows

lemma liveUnique_withTypes_iff (items : List OnboardingCollateralIn) :
    LiveUnique (withTypes now newUlid tenantId userId items table)
      ↔ (items.map fun item => pyStrip item.name).Nodup := by
  have hold : NodupLive CollateralType.isLive (fun t => (t.tenantId, t.name)) table.rows :=
    table.live_unique
  have hiff : NodupLive CollateralType.isLive (fun t => (t.tenantId, t.name))
      (withTypes now newUlid tenantId userId items table) ↔ _ :=
    nodupLive_replaceLive_iff (fun _ => rfl) (fun t ht => (mem_batchRows ht).2) hold ?_
  · refine hiff.trans ?_
    have hnames : ((items.map (·.toCollateralItem)).map CollateralItem.rounded).map
        (fun item => pyStrip item.name) = items.map fun item => pyStrip item.name := by
      rw [List.map_map, List.map_map]
      rfl
    have hkeys : (batchRows newUlid tenantId userId
          ((items.map (·.toCollateralItem)).map CollateralItem.rounded)).map
          (fun t => (t.tenantId, t.name))
        = (items.map fun item => pyStrip item.name).map fun name => (tenantId, name) := by
      rw [← hnames, ← @map_name_batchRows newUlid tenantId userId]
      refine Eq.trans (List.map_congr_left fun t ht => ?_) List.map_map.symm
      rw [(mem_batchRows ht).1]
      rfl
    rw [hkeys]
    exact List.nodup_map_iff fun a b hab => (Prod.mk.inj hab).2
  · intro r hr n hn hsame
    rw [(mem_batchRows hn).1] at hsame
    exact of_decide_eq_false hr (Prod.mk.inj hsame).1

/-- The replacement of the types is admitted exactly when the times fit and the new names
differ. -/
lemma replaceCollateralTypes_eq_ok {items : List OnboardingCollateralIn}
    {table' : CollateralTable} :
    replaceCollateralTypes now newUlid tenantId userId items table = .ok table'
      ↔ ((∀ item ∈ items, item.timeToRealize < 2 ^ 31)
          ∧ (items.map fun item => pyStrip item.name).Nodup)
        ∧ table'.rows = withTypes now newUlid tenantId userId items table := by
  have hflush := @flush_batchRows newUlid tenantId userId
    (table.softDelete now fun t => t.tenantId = tenantId) (items.map (·.toCollateralItem)) table'
  rw [List.forall_mem_map] at hflush
  rw [← liveUnique_withTypes_iff]
  exact hflush

lemma replaceCollateralTypes_ok {items : List OnboardingCollateralIn}
    (hfits : ∀ item ∈ items, item.timeToRealize < 2 ^ 31)
    (hnames : (items.map fun item => pyStrip item.name).Nodup) :
    ∃ table', replaceCollateralTypes now newUlid tenantId userId items table = .ok table'
      ∧ table'.rows = withTypes now newUlid tenantId userId items table := by
  have hunique : LiveUnique (withTypes now newUlid tenantId userId items table) :=
    (liveUnique_withTypes_iff items).mpr hnames
  have hitems : ∀ item ∈ items.map (·.toCollateralItem), item.timeToRealize < 2 ^ 31 :=
    List.forall_mem_map.mpr hfits
  obtain ⟨table', htable⟩ := @exists_flush_batchRows newUlid tenantId userId
    (table.softDelete now fun t => t.tenantId = tenantId) _ hitems hunique
  exact ⟨table', htable, (replaceCollateralTypes_eq_ok.mp htable).2⟩

lemma replaceCollateralTypes_error {items : List OnboardingCollateralIn}
    (h : ¬ ((∀ item ∈ items, item.timeToRealize < 2 ^ 31)
      ∧ (items.map fun item => pyStrip item.name).Nodup)) :
    replaceCollateralTypes now newUlid tenantId userId items table = .error unexpectedError :=
  flush_eq_error fun _ hok => h (replaceCollateralTypes_eq_ok.mp hok).1

/-- What a setup leaves of the live types. -/
lemma live_withTypes {table' : CollateralTable} {items : List OnboardingCollateralIn}
    (h : table'.rows = withTypes now newUlid tenantId userId items table) (other : String) :
    table'.live other
      = if other = tenantId
        then batchRows newUlid tenantId userId
          ((items.map (·.toCollateralItem)).map CollateralItem.rounded)
        else table.live other := by
  rw [CollateralTable.live, h, withTypes]
  exact filter_owner_replaceLive (fun _ => rfl) (fun t ht => (mem_batchRows ht).2)
    (fun t ht => (mem_batchRows ht).1) other

end Replaced

/-! ### The accounts of a setup -/

section Accounts

variable {crypto : Crypto} {now : Time} {draws : ℕ → InviteDraws} {tenantId : String} {user : User}
  {request : CompleteOnboardingRequest} {db : AuthDb} {tenant : Tenant}

/-- The live tenant with the id. -/
def tenantOf (db : AuthDb) (tenantId : String) : Option Tenant :=
  db.tenants.find? fun t => t.id = tenantId ∧ t.deletedAt = none

lemma exec_loadTenant_of_some (h : tenantOf db tenantId = some tenant) :
    Tx.exec (loadTenant tenantId) db = (.ok tenant, db) := by
  rw [tenantOf] at h
  rw [loadTenant, Tx.exec_get_bind, h]
  rfl

lemma exec_loadTenant_of_none (h : tenantOf db tenantId = none) :
    Tx.exec (loadTenant tenantId) db = (.error (resourceNotFound "Tenant not found."), db) := by
  rw [tenantOf] at h
  rw [loadTenant, Tx.exec_get_bind, h]
  rfl

lemma exec_completeOnboarding_badRole (h : tenantOf db tenantId = some tenant)
    (hfirst : tenant.onboardingCompletedAt = none) {item : BatchInviteItem}
    (hbad : (request.invites.find? fun i => normalisedRole crypto i.role ∉ userRoles) = some item) :
    (Tx.exec (completeOnboarding crypto now draws tenantId user request) db).1
      = .error (invalidRole ("Invalid role: " ++ item.role)) := by
  have hsome : request.invites ≠ [] := by
    intro hnil
    rw [hnil] at hbad
    cases hbad
  have hinvites : Tx.exec (onboardingInvites crypto now draws tenantId user request)
      (db.updateTenant tenantId (withProfile request.profile))
        = (.error (invalidRole ("Invalid role: " ++ item.role)),
          db.updateTenant tenantId (withProfile request.profile)) := by
    rw [onboardingInvites, Tx.exec_ite, if_neg hsome, hbad]
    rfl
  rw [completeOnboarding, Tx.exec_bind_ok (exec_loadTenant_of_some h), Tx.exec_ite,
    if_neg (not_not.mpr hfirst), Tx.exec_modify_bind, Tx.exec_bind_error hinvites]

/-- A completion of the accounts writes the profile and the time to its tenant. -/
lemma exec_completeOnboarding_good (h : tenantOf db tenantId = some tenant)
    (hfirst : tenant.onboardingCompletedAt = none)
    (hroles : (request.invites.find? fun i => normalisedRole crypto i.role ∉ userRoles) = none)
    (hkeys : InvitationKeys (db.invitations ++ (createdInvitations crypto now draws
      (onboardingItems crypto request) tenantId user.id).map (·.1))) :
    ∃ t, Tx.exec (completeOnboarding crypto now draws tenantId user request) db = (.ok (), t)
      ∧ t.tenants = ((db.updateTenant tenantId (withProfile request.profile)).updateTenant tenantId
          fun t => { t with onboardingCompletedAt := some now }).tenants := by
  have hinvites : ∃ u, Tx.exec (onboardingInvites crypto now draws tenantId user request)
      (db.updateTenant tenantId (withProfile request.profile)) = (.ok (), u)
        ∧ u.tenants = (db.updateTenant tenantId (withProfile request.profile)).tenants := by
    rw [onboardingInvites, Tx.exec_ite]
    by_cases hnone : request.invites = []
    · rw [if_pos hnone]
      exact ⟨_, rfl, rfl⟩
    · rw [if_neg hnone, hroles]
      have hadd := @exec_addInvitations_of
        (db.updateTenant tenantId (withProfile request.profile)) _ hkeys
      exact ⟨_, Tx.exec_bind_ok hadd, rfl⟩
  obtain ⟨u, hexec, hu⟩ := hinvites
  rw [completeOnboarding, Tx.exec_bind_ok (exec_loadTenant_of_some h), Tx.exec_ite,
    if_neg (not_not.mpr hfirst), Tx.exec_modify_bind, Tx.exec_bind_ok hexec]
  refine ⟨_, rfl, ?_⟩
  change (u.updateTenant tenantId _).tenants = _
  rw [AuthDb.updateTenant, hu]
  rfl

/-- The tenants that a completion leaves. -/
lemma tenantOf_completed {t : AuthDb} (h : tenantOf db tenantId = some tenant)
    (ht : t.tenants = ((db.updateTenant tenantId (withProfile request.profile)).updateTenant
      tenantId fun t => { t with onboardingCompletedAt := some now }).tenants) :
    (∃ done, tenantOf t tenantId = some done ∧ done.onboardingCompletedAt = some now)
      ∧ ∀ other, other ≠ tenantId → tenantOf t other = tenantOf db other := by
  set complete : Tenant → Tenant := fun t => { t with onboardingCompletedAt := some now }
  have hfind : ∀ other, tenantOf t other = (tenantOf db other).map fun a =>
      if a.id = tenantId then complete (withProfile request.profile a) else a := by
    intro other
    have hupdate : ∀ (f : Tenant → Tenant) (d : AuthDb), (∀ a, (f a).id = a.id ∧
        (f a).deletedAt = a.deletedAt) → tenantOf (d.updateTenant tenantId f) other
          = (tenantOf d other).map fun a => if a.id = tenantId then f a else a := by
      intro f d hf
      exact find?_updateByKey Tenant.id (fun a => by rw [(hf a).1, (hf a).2]) d.tenants
    have ht' : tenantOf t other
        = tenantOf ((db.updateTenant tenantId (withProfile request.profile)).updateTenant tenantId
            complete) other := by
      rw [tenantOf, ht, tenantOf]
    rw [ht', hupdate complete _ (fun _ => ⟨rfl, rfl⟩),
      hupdate (withProfile request.profile) _ (fun _ => ⟨rfl, rfl⟩), Option.map_map]
    congr 1
    funext a
    by_cases ha : a.id = tenantId
    · simp [ha, withProfile]
    · simp [ha]
  have hid : ∀ {other : String} {a : Tenant}, tenantOf db other = some a → a.id = other := by
    intro other a ha
    rw [tenantOf] at ha
    have hlive : a.id = other ∧ a.deletedAt = none := by simpa using List.find?_some ha
    exact hlive.1
  constructor
  · refine ⟨complete (withProfile request.profile tenant), ?_, rfl⟩
    rw [hfind, h, Option.map_some, if_pos (hid h)]
  · intro other hother
    rw [hfind]
    cases ha : tenantOf db other with
    | none => rfl
    | some a => rw [Option.map_some, if_neg fun hsame => hother ((hid ha).symm.trans hsame)]

end Accounts

/-! ### The refinement -/

/-- The index on the live segments holds. -/
def SoundSegments {P : Type} (db : Workspaces P) : Prop :=
  NodupLive Segment.isLive Segment.tenantName db.segments

/-- The ids and the tokens that a request draws are new. -/
def DrawsNew {P : Type} (env : OnboardingEnv) (db : Workspaces P) : OnboardingRequest P → Prop
  | .complete draws tenantId user body =>
      ((db.segments ++ onboardingSegments env.upper draws.segmentId tenantId user.id
          body.segments).map (·.id)).Nodup
        ∧ InvitationKeys (db.auth.invitations ++ (createdInvitations env.crypto draws.now
            draws.invites (onboardingItems env.crypto body.toCompleteOnboardingRequest) tenantId
            user.id).map (·.1))
  | .save _ _ _ => True

instance {P : Type} (env : OnboardingEnv) (db : Workspaces P) (request : OnboardingRequest P) :
    Decidable (DrawsNew env db request) :=
  match request with
  | .complete _ _ _ _ => inferInstanceAs (Decidable (_ ∧ _))
  | .save _ _ _ => inferInstanceAs (Decidable True)

/-- A request answers and shows what `setUp` says, and the index holds after it. -/
@[mk_iff]
structure Refined {P κ : Type} [LinearOrder κ] (env : OnboardingEnv) (collate : String → κ)
    (db : Workspaces P) (request : OnboardingRequest P) : Prop where
  answer : (performOnboarding env db request).1
    = (setUp env collate (standing collate db) request).1
  shown : standing collate (performOnboarding env db request).2
    = (setUp env collate (standing collate db) request).2
  sound : SoundSegments (performOnboarding env db request).2

section Refinement

variable {P κ : Type} [LinearOrder κ] {env : OnboardingEnv} {collate : String → κ}
  {db : Workspaces P} {request : OnboardingRequest P} {tenantId : String} {tenant : Tenant}

/-- What is shown of a live tenant. -/
lemma standing_eq (tenantId : String) :
    standing collate db tenantId = (tenantOf db.auth tenantId).map fun tenant =>
      { completedAt := tenant.onboardingCompletedAt
        progress := db.progress tenantId
        segments := sortByKey (fun s => collate s.1)
          ((liveSegments tenantId db.segments).map fun s => (s.name, s.code))
        types := sortByKey (fun t => collate t.1)
          ((db.collateral.live tenantId).map fun t => (t.name, t.haircut, t.timeToRealize)) } := by
  rw [standing, getStatus]
  cases h : tenantOf db.auth tenantId with
  | none =>
      rw [exec_loadTenant_of_none h]
      rfl
  | some tenant =>
      rw [exec_loadTenant_of_some h]
      simp [bind, Except.bind, pure, Except.pure, Except.toOption, OnboardingStatusData.standing,
        sortByKey_map]

/-- A completion for a workspace that is not there, or is complete, or with an unknown role. -/
lemma perform_of_none {draws : OnboardingDraws} {user : User} {body : OnboardingBody}
    (h : tenantOf db.auth tenantId = none) :
    performOnboarding env db (.complete draws tenantId user body)
      = (.error (resourceNotFound "Tenant not found."), db) := by
  simp [performOnboarding, completeWorkspace, Tx.commit, Tx.exec_bind, exec_loadTenant_of_none h]

lemma perform_of_complete {draws : OnboardingDraws} {user : User} {body : OnboardingBody}
    (h : tenantOf db.auth tenantId = some tenant) (hdone : tenant.onboardingCompletedAt ≠ none) :
    performOnboarding env db (.complete draws tenantId user body) = (.ok (), db) := by
  simp [performOnboarding, completeWorkspace, Tx.commit, Tx.exec_bind, exec_loadTenant_of_some h,
    hdone]

lemma perform_of_badRole {draws : OnboardingDraws} {user : User} {body : OnboardingBody}
    (h : tenantOf db.auth tenantId = some tenant) (hfirst : tenant.onboardingCompletedAt = none)
    {item : BatchInviteItem} (hbad : (body.invites.find? fun i =>
      normalisedRole env.crypto i.role ∉ userRoles) = some item) :
    performOnboarding env db (.complete draws tenantId user body)
      = (.error (invalidRole ("Invalid role: " ++ item.role)), db) := by
  have haccounts : (Tx.exec (completeOnboarding env.crypto draws.now draws.invites tenantId user
      body.toCompleteOnboardingRequest) db.auth).1 = _ :=
    exec_completeOnboarding_badRole h hfirst hbad
  simp [performOnboarding, completeWorkspace, Tx.commit, Tx.exec_bind, exec_loadTenant_of_some h,
    hfirst, haccounts]

/-- A completion of a workspace that awaits it, with known roles. -/
lemma perform_of_roles {draws : OnboardingDraws} {user : User} {body : OnboardingBody}
    (hsound : SoundSegments db) (hnew : DrawsNew env db (.complete draws tenantId user body))
    (h : tenantOf db.auth tenantId = some tenant) (hfirst : tenant.onboardingCompletedAt = none)
    (hroles : (body.invites.find? fun i =>
      normalisedRole env.crypto i.role ∉ userRoles) = none) :
    (¬ (body.NamesApart ∧ body.FitsColumns)
        ∧ performOnboarding env db (.complete draws tenantId user body)
          = (.error unexpectedError, db))
      ∨ (body.NamesApart ∧ body.FitsColumns) ∧ ∃ t table,
          performOnboarding env db (.complete draws tenantId user body)
            = (.ok (), { auth := t
                         segments := withSegments env.upper draws.now draws.segmentId tenantId
                           user.id body.segments db.segments
                         collateral := table
                         progress := Function.update db.progress tenantId none })
          ∧ t.tenants = ((db.auth.updateTenant tenantId (withProfile body.profile)).updateTenant
              tenantId fun t => { t with onboardingCompletedAt := some draws.now }).tenants
          ∧ table.rows = withTypes draws.now draws.typeId tenantId user.id body.collateral
              db.collateral := by
  have hgood : ∃ t, Tx.exec (completeOnboarding env.crypto draws.now draws.invites tenantId user
      body.toCompleteOnboardingRequest) db.auth = (.ok (), t) ∧ _ :=
    exec_completeOnboarding_good h hfirst hroles hnew.2
  obtain ⟨t, haccounts, ht⟩ := hgood
  have hsegments : replaceSegments env.upper draws.now draws.segmentId tenantId user.id body.segments
      db.segments = _ := replaceSegments_eq hsound hnew.1
  -- the statements in the order of the request, each of which may be refused
  by_cases hcurrency : (varchar 8 body.profile.currency).isOk = true
  · have hstored : storeCurrency body.profile.currency = .ok () := if_pos hcurrency
    by_cases hnames : (body.segments.map fun s => pyStrip s.name).Nodup
    · rw [if_pos hnames] at hsegments
      by_cases htypes : (∀ t ∈ body.collateral, t.timeToRealize < 2 ^ 31)
          ∧ (body.collateral.map fun t => pyStrip t.name).Nodup
      · have hok : ∃ table, replaceCollateralTypes draws.now draws.typeId tenantId user.id
            body.collateral db.collateral = .ok table ∧ _ :=
          replaceCollateralTypes_ok htypes.1 htypes.2
        obtain ⟨table, htable, hrows⟩ := hok
        refine Or.inr ⟨⟨⟨hnames, htypes.2⟩, hcurrency, htypes.1⟩, t, table, ?_, ht, hrows⟩
        simp [performOnboarding, completeWorkspace, Tx.commit, Tx.exec_bind,
          exec_loadTenant_of_some h, hfirst, haccounts, hstored, hsegments, htable]
      · have htable : replaceCollateralTypes draws.now draws.typeId tenantId user.id
            body.collateral db.collateral = _ := replaceCollateralTypes_error htypes
        refine Or.inl ⟨fun hall => htypes ⟨hall.2.2, hall.1.2⟩, ?_⟩
        simp [performOnboarding, completeWorkspace, Tx.commit, Tx.exec_bind,
          exec_loadTenant_of_some h, hfirst, haccounts, hstored, hsegments, htable]
    · rw [if_neg hnames] at hsegments
      refine Or.inl ⟨fun hall => hnames hall.1.1, ?_⟩
      simp [performOnboarding, completeWorkspace, Tx.commit, Tx.exec_bind,
        exec_loadTenant_of_some h, hfirst, haccounts, hstored, hsegments]
  · have hstored : storeCurrency body.profile.currency = .error unexpectedError :=
      if_neg hcurrency
    refine Or.inl ⟨fun hall => hcurrency hall.2.1, ?_⟩
    simp [performOnboarding, completeWorkspace, Tx.commit, Tx.exec_bind,
      exec_loadTenant_of_some h, hfirst, haccounts, hstored]

/-- What is shown after a completion. -/
lemma standing_completed {draws : OnboardingDraws} {user : User} {body : OnboardingBody}
    {t : AuthDb} {table : CollateralTable} (h : tenantOf db.auth tenantId = some tenant)
    (ht : t.tenants = ((db.auth.updateTenant tenantId (withProfile body.profile)).updateTenant
      tenantId fun t => { t with onboardingCompletedAt := some draws.now }).tenants)
    (htable : table.rows = withTypes draws.now draws.typeId tenantId user.id body.collateral
      db.collateral) :
    standing collate
        { auth := t
          segments := withSegments env.upper draws.now draws.segmentId tenantId user.id
            body.segments db.segments
          collateral := table
          progress := Function.update db.progress tenantId none }
      = Function.update (standing collate db) tenantId
          (some (posted env collate draws.now body)) := by
  obtain ⟨⟨done, hdone, hat⟩, hothers⟩ := tenantOf_completed h ht
  funext other
  rw [standing_eq]
  dsimp only
  by_cases hother : other = tenantId
  · subst hother
    have hsegments := map_onboardingSegments env.upper draws.segmentId other user.id
      (fun name code => (name, code)) body.segments
    have htypes : (batchRows draws.typeId other user.id
          ((body.collateral.map (·.toCollateralItem)).map CollateralItem.rounded)).map
            (fun t => (t.name, t.haircut, t.timeToRealize))
        = body.collateral.map fun t => (pyStrip t.name, hundredths t.haircut, t.timeToRealize) := by
      refine List.ext_getElem (by simp [batchRows]) fun i hi hi' => ?_
      simp [batchRows, newCollateralType, CollateralItem.rounded]
    rw [Function.update_self, hdone, Option.map_some, liveSegments_withSegments, if_pos rfl,
      live_withTypes htable, if_pos rfl, hsegments, htypes, hat, Function.update_self, posted]
  · rw [Function.update_of_ne hother, hothers other hother, liveSegments_withSegments,
      if_neg hother, live_withTypes htable, if_neg hother, Function.update_of_ne hother,
      standing_eq]

/-- A completion answers and shows what `setUp` says. -/
lemma refined_complete (collate : String → κ) (hsound : SoundSegments db) {draws : OnboardingDraws}
    {user : User} {body : OnboardingBody}
    (hnew : DrawsNew env db (.complete draws tenantId user body)) :
    Refined env collate db (.complete draws tenantId user body) := by
  rw [refined_iff]
  cases htenant : tenantOf db.auth tenantId with
  | none =>
      have hnone : standing collate db tenantId = none := by
        rw [standing_eq, htenant]
        rfl
      rw [perform_of_none htenant, setUp, hnone]
      exact ⟨rfl, rfl, hsound⟩
  | some tenant =>
      obtain ⟨s, hs, hat⟩ : ∃ s, standing collate db tenantId = some s
          ∧ s.completedAt = tenant.onboardingCompletedAt := by
        rw [standing_eq, htenant]
        exact ⟨_, rfl, rfl⟩
      rw [setUp, hs]
      by_cases hdone : tenant.onboardingCompletedAt = none
      · have hfirst : ¬ s.completedAt ≠ none := by
          rw [hat]
          exact not_not.mpr hdone
        dsimp only
        rw [if_neg hfirst]
        cases hroles : body.invites.find? fun i =>
            normalisedRole env.crypto i.role ∉ userRoles with
        | some item =>
            rw [perform_of_badRole htenant hdone hroles]
            exact ⟨rfl, rfl, hsound⟩
        | none =>
            rcases perform_of_roles hsound hnew htenant hdone hroles with
              ⟨hapart, hperform⟩ | ⟨hapart, t, table, hperform, ht, htable⟩
            · rw [hperform]
              dsimp only
              rw [if_neg hapart]
              exact ⟨rfl, rfl, hsound⟩
            · rw [hperform]
              dsimp only
              rw [if_pos hapart]
              exact ⟨rfl, standing_completed htenant ht htable,
                (nodupLive_withSegments_iff hsound).mpr hapart.1.1⟩
      · have hcomplete : s.completedAt ≠ none := by
          rw [hat]
          exact hdone
        rw [perform_of_complete htenant hdone]
        dsimp only
        rw [if_pos hcomplete]
        exact ⟨rfl, rfl, hsound⟩

/-- A draft answers and shows what `setUp` says. -/
lemma refined_save (collate : String → κ) (hsound : SoundSegments db) (userId : String)
    (progress : P) : Refined env collate db (.save tenantId userId progress) := by
  rw [refined_iff]
  cases htenant : tenantOf db.auth tenantId with
  | none =>
      have hnone : standing collate db tenantId = none := by
        rw [standing_eq, htenant]
        rfl
      have hperform : performOnboarding env db (.save tenantId userId progress)
          = (.error (resourceNotFound "Tenant not found."), db) := by
        simp [performOnboarding, saveProgress, Tx.commit, Tx.exec_bind,
          exec_loadTenant_of_none htenant]
      rw [hperform, setUp, hnone]
      exact ⟨rfl, rfl, hsound⟩
  | some tenant =>
      obtain ⟨auth, hlog, htenants⟩ : ∃ auth, (Tx.exec (logEvent
          { eventType := "onboarding.progress_saved", userId := some userId }) db.auth).2 = auth
            ∧ auth.tenants = db.auth.tenants := ⟨_, rfl, rfl⟩
      have hperform : performOnboarding env db (.save tenantId userId progress)
          = (.ok (), { db with
              auth := auth
              progress := Function.update db.progress tenantId (some progress) }) := by
        simp [performOnboarding, saveProgress, Tx.commit, Tx.exec_bind,
          exec_loadTenant_of_some htenant, hlog]
      -- the entry in the audit log leaves the workspaces as they are
      have hsame : ∀ other, tenantOf auth other = tenantOf db.auth other := by
        intro other
        rw [tenantOf, htenants, tenantOf]
      obtain ⟨s, hs⟩ : ∃ s, standing collate db tenantId = some s := by
        rw [standing_eq, htenant]
        exact ⟨_, rfl⟩
      rw [hperform, setUp, hs]
      refine ⟨rfl, ?_, hsound⟩
      funext other
      rw [standing_eq]
      dsimp only
      rw [hsame]
      by_cases hother : other = tenantId
      · subst hother
        rw [standing_eq, htenant] at hs
        obtain rfl := Option.some.inj hs
        rw [htenant, Function.update_self, Function.update_self]
        rfl
      · rw [Function.update_of_ne hother, Function.update_of_ne hother, standing_eq]

/-- **One request**: it answers and shows what `setUp` says. -/
lemma refined_perform (collate : String → κ) (hsound : SoundSegments db)
    (hnew : DrawsNew env db request) : Refined env collate db request := by
  cases request with
  | complete draws tenantId user body => exact refined_complete collate hsound hnew
  | save tenantId userId progress => exact refined_save collate hsound userId progress

end Refinement

/-- A service together with the answers it has given. -/
def answering {σ α β : Type} (serve : σ → α → β × σ) (s : σ × List β) (a : α) : σ × List β :=
  ((serve s.1 a).2, s.2 ++ [(serve s.1 a).1])

/-- **Requests one after the other** answer and show what `setUp` says, whatever they are: a
workspace is set up once, whole, with what was posted, or not at all. What was posted shows with
its names stripped, its codes in upper case and its haircuts rounded to the two decimals that the
column keeps; a form with a name twice, or with a time or a currency that its column does not hold,
is refused as a whole. -/
theorem onboarding_refines {P κ : Type} [LinearOrder κ] {env : OnboardingEnv}
    (collate : String → κ) {db : Workspaces P} (hsound : SoundSegments db)
    {requests : List (OnboardingRequest P)}
    (hnew : EachStep (fun db request => (performOnboarding env db request).2) (DrawsNew env) db
      requests) :
    (standing collate (run (answering (performOnboarding env)) (db, []) requests).1,
        (run (answering (performOnboarding env)) (db, []) requests).2)
      = run (answering (setUp env collate)) (standing collate db, []) requests := by
  suffices hany : ∀ answers, (standing collate
      (run (answering (performOnboarding env)) (db, answers) requests).1,
        (run (answering (performOnboarding env)) (db, answers) requests).2)
      = run (answering (setUp env collate)) (standing collate db, answers) requests from hany []
  induction requests generalizing db with
  | nil => exact fun answers => rfl
  | cons request rest ih =>
      intro answers
      obtain ⟨hanswer, hshown, hsound'⟩ := refined_perform collate hsound hnew.1
      rw [run_cons, run_cons, answering, answering, hanswer, ih hsound' hnew.2, hshown]

/-- A bank whose administrator has just registered. -/
def registeredBank : Workspaces String where
  auth := { tenants := [{ id := "t1", name := "Bank" }] }

def plainSetup : OnboardingEnv where
  crypto := plainCrypto
  upper := id

def bankDraws (n : ℕ) : OnboardingDraws where
  now := n
  invites i := ⟨toString n ++ "i" ++ toString i, toString n ++ "r" ++ toString i⟩
  segmentId i := toString n ++ "s" ++ toString i
  typeId i := toString n ++ "c" ++ toString i

/-- A form with one type and an invitation. -/
def bankForm (segments : List OnboardingSegmentIn)
    (h : 1 ≤ segments.length ∧ segments.length ≤ 50) : OnboardingBody where
  profile := ⟨" First Bank", "USD", "UTC"⟩
  invites := [⟨"bob@bank.test", "Analyst"⟩]
  segments := segments
  collateral := [⟨⟨"Cash", 0, 1, by decide, by decide⟩, by decide⟩]
  segments_length := h
  collateral_length := by decide

lemma uncoded_length : ∀ c ∈ (none : Option String), c.length ≤ 50 := by decide

/-- A draft, a form with one name twice, and two forms that could be accepted. -/
def bankSetup : List (OnboardingRequest String) :=
  let administrator : User :=
    { id := "u1", email := "ann@bank.test", name := "Ann", hashedPassword := "argon2:old pass 1" }
  let sme : OnboardingSegmentIn := ⟨"SME", some " sme ", by decide, by decide⟩
  let corporate : OnboardingSegmentIn := ⟨" Corporate", none, by decide, uncoded_length⟩
  let padded : OnboardingSegmentIn := ⟨"SME ", none, by decide, uncoded_length⟩
  [.save "t1" "u1" "step 2",
    .complete (bankDraws 1) "t1" administrator (bankForm [sme, padded] (by decide)),
    .complete (bankDraws 2) "t1" administrator (bankForm [sme, corporate] (by decide)),
    .complete (bankDraws 3) "t1" administrator (bankForm [padded] (by decide)),
    .save "t9" "u1" "step 1"]

theorem onboarding_refines_sample :
    (standing id (run (answering (performOnboarding plainSetup)) (registeredBank, []) bankSetup).1,
        (run (answering (performOnboarding plainSetup)) (registeredBank, []) bankSetup).2)
      = run (answering (setUp plainSetup id)) (standing id registeredBank, []) bankSetup :=
  have hsound : SoundSegments registeredBank := List.nodup_nil
  onboarding_refines id hsound (by decide +kernel)

/-! ### Once -/

section Once

variable {P κ : Type} [LinearOrder κ] {tenantId : String} {s : Standing P}

/-- Only the progress of a complete workspace can change. -/
lemma setUp_of_complete (env : OnboardingEnv) (collate : String → κ)
    {workspaces : String → Option (Standing P)} (h : workspaces tenantId = some s)
    (hdone : s.completedAt ≠ none) (request : OnboardingRequest P) :
    ∃ progress, (setUp env collate workspaces request).2 tenantId
      = some { s with progress := progress } := by
  cases request with
  | complete draws other user body =>
      rw [setUp]
      cases ho : workspaces other with
      | none => exact ⟨s.progress, h⟩
      | some o =>
          dsimp only
          by_cases hother : other = tenantId
          · subst hother
            rw [h] at ho
            obtain rfl := Option.some.inj ho
            rw [if_pos hdone]
            exact ⟨s.progress, h⟩
          -- a setup of another workspace
          · have hkept : ∀ w : Option (Standing P),
                Function.update workspaces other w tenantId = some s := by
              intro w
              rw [Function.update_of_ne (Ne.symm hother), h]
            refine ⟨s.progress, ?_⟩
            by_cases ho' : o.completedAt ≠ none
            · rw [if_pos ho']
              exact h
            · rw [if_neg ho']
              cases body.invites.find? fun i => normalisedRole env.crypto i.role ∉ userRoles with
              | some item => exact h
              | none =>
                  dsimp only
                  by_cases hapart : body.NamesApart ∧ body.FitsColumns
                  · rw [if_pos hapart]
                    exact hkept _
                  · rw [if_neg hapart]
                    exact h
  | save other userId progress =>
      rw [setUp]
      cases ho : workspaces other with
      | none => exact ⟨s.progress, h⟩
      | some o =>
          dsimp only
          by_cases hother : other = tenantId
          · subst hother
            rw [h] at ho
            obtain rfl := Option.some.inj ho
            exact ⟨some progress, Function.update_self _ _ _⟩
          · refine ⟨s.progress, ?_⟩
            rw [Function.update_of_ne (Ne.symm hother), h]

end Once

/-- **A workspace is set up once**: whatever is requested after its completion, it shows the time,
the segments and the types of that completion. -/
theorem onboarding_once {P κ : Type} [LinearOrder κ] {env : OnboardingEnv} {collate : String → κ}
    {db : Workspaces P} (hsound : SoundSegments db) {tenantId : String} {s : Standing P}
    (h : standing collate db tenantId = some s) (hdone : s.completedAt ≠ none)
    {requests : List (OnboardingRequest P)}
    (hnew : EachStep (fun db request => (performOnboarding env db request).2) (DrawsNew env) db
      requests) :
    ∃ progress, standing collate
        (run (fun db request => (performOnboarding env db request).2) db requests) tenantId
      = some { s with progress := progress } := by
  induction requests generalizing db s with
  | nil => exact ⟨s.progress, h⟩
  | cons request rest ih =>
      obtain ⟨-, hshown, hsound'⟩ := refined_perform collate hsound hnew.1
      obtain ⟨progress, hnext⟩ := setUp_of_complete env collate h hdone request
      rw [← hshown] at hnext
      obtain ⟨progress', hrest⟩ := ih (s := { s with progress := progress }) hsound' hnext hdone
        hnew.2
      exact ⟨progress', hrest⟩

/-- The bank after its setup, with the segments and the types that were posted. -/
def completeBank : Workspaces String :=
  { auth := { tenants := [{ id := "t1", name := "First Bank", onboardingCompletedAt := some 2 }] }
    segments := [{ id := "s1", tenantId := "t1", name := "SME", createdByUserId := "u1" }] }

theorem onboarding_once_sample :
    ∃ progress, standing id
        (run (fun db request => (performOnboarding plainSetup db request).2) completeBank bankSetup)
          "t1"
      = some { completedAt := some 2, progress := progress, segments := [("SME", none)]
               types := [] } :=
  have hsound : NodupLive Segment.isLive Segment.tenantName completeBank.segments := by decide
  have hshown : standing id completeBank "t1"
      = some ⟨some 2, none, [("SME", none)], []⟩ := by
    rw [standing_eq]
    simp [completeBank, tenantOf, liveSegments, Segment.isLive, CollateralTable.live]
  have hdone : (some 2 : Option Time) ≠ none := by decide
  onboarding_once hsound hshown hdone (by decide +kernel)

end EclServer.Tenants
