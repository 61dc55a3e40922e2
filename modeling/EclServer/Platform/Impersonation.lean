import EclServer.Auth.Model
import EclServer.Library.Requests
import EclServer.Platform.EngineVersions

/-!
Impersonation sessions of platform administrators (`start_impersonation` and `end_impersonation`
of `app/modules/platform/service.py`).

* `startImpersonation`, `endImpersonation`: the services. `impersonations`: the same requests
  statement by statement; `serve_impersonations`: without interruption they are the services.
* `Impersonated`: the purpose of the table, a tenant and a session for each administrator.
  `impersonations_refine`: requests one after the other do what `impersonatedStep` says.
* `impersonations_one_active_iff`: requests that overlap leave an administrator at most one active
  session exactly when each start sees the sessions it replaces.
-/

namespace EclServer.Platform

open EclServer.Library
open EclServer.Auth (Tenant)

/-- A row of `impersonation_sessions`. -/
structure ImpersonationSession where
  id : String
  platformUserId : String
  targetTenantId : String
  startedAt : Time
  endedAt : Option Time := none
  isActive : Bool := true
  deriving DecidableEq, Repr

/-- An `IMPERSONATION_STARTED` or `IMPERSONATION_ENDED` audit event with its details. -/
structure ImpersonationEvent where
  eventType : String
  userId : String
  targetTenantId : String
  impersonationId : Option String := none
  deriving DecidableEq, Repr

structure ImpersonationDb where
  tenants : List Tenant
  sessions : List ImpersonationSession := []
  auditLogs : List ImpersonationEvent := []

/-- `get_tenant_or_404`: the live tenant with the id. -/
def liveTenant (tenantId : String) (tenants : List Tenant) : Option Tenant :=
  tenants.find? fun t => t.id = tenantId ∧ t.deletedAt = none

def tenantNotFound : ECLException :=
  { code := "RESOURCE_NOT_FOUND", detail := "Tenant not found.", statusCode := 404 }

/-- The active sessions of an administrator. -/
def activeSessions (platformUserId : String) (sessions : List ImpersonationSession) :
    List ImpersonationSession :=
  sessions.filter fun s => s.platformUserId = platformUserId ∧ s.isActive = true

/-- The active sessions of an administrator in a tenant. -/
def activeIn (platformUserId targetTenantId : String) (sessions : List ImpersonationSession) :
    List ImpersonationSession :=
  (activeSessions platformUserId sessions).filter fun s => s.targetTenantId = targetTenantId

/-- `session.is_active = False` and `session.ended_at = now` for the sessions with the ids. -/
def closeSessions (ids : List String) (now : Time) (sessions : List ImpersonationSession) :
    List ImpersonationSession :=
  sessions.map fun s => if s.id ∈ ids then { s with isActive := false, endedAt := some now } else s

structure StartRequest where
  platformUserId : String
  targetTenantId : String
  newId : String
  now : Time

structure EndRequest where
  platformUserId : String
  targetTenantId : String
  now : Time

def StartRequest.session (req : StartRequest) : ImpersonationSession :=
  { id := req.newId, platformUserId := req.platformUserId, targetTenantId := req.targetTenantId
    startedAt := req.now }

/-- The commit of a start that has loaded the sessions `existing`. -/
def commitStart (req : StartRequest) (existing : List ImpersonationSession)
    (db : ImpersonationDb) : ImpersonationDb :=
  { db with
    sessions := closeSessions (existing.map (·.id)) req.now db.sessions ++ [req.session]
    auditLogs := db.auditLogs ++
      [{ eventType := "platform.impersonation.started", userId := req.platformUserId
         targetTenantId := req.targetTenantId, impersonationId := some req.newId }] }

/-- The commit of an end that has loaded `imp`. -/
def commitEnd (req : EndRequest) (imp : Option ImpersonationSession) (db : ImpersonationDb) :
    ImpersonationDb :=
  { db with
    sessions := closeSessions (imp.toList.map (·.id)) req.now db.sessions
    auditLogs := db.auditLogs ++
      [{ eventType := "platform.impersonation.ended", userId := req.platformUserId
         targetTenantId := req.targetTenantId }] }

/-- `start_impersonation`. -/
def startImpersonation (req : StartRequest) :
    Tx ECLException ImpersonationDb ImpersonationSession := do
  let db ← get
  if (liveTenant req.targetTenantId db.tenants).isNone then throw tenantNotFound
  else
    modify (commitStart req (activeSessions req.platformUserId db.sessions))
    return req.session

/-- `end_impersonation`. -/
def endImpersonation (req : EndRequest) : Tx ECLException ImpersonationDb Unit := do
  let db ← get
  let imp ← liftM (scalarOneOrNone (activeIn req.platformUserId req.targetTenantId db.sessions))
  modify (commitEnd req imp)

/-! ### Statement by statement -/

inductive ImpersonationRequest where
  | start (req : StartRequest)
  | stop (req : EndRequest)

/-- Where a request stands. -/
inductive Impersonation where
  | selectTenant (req : StartRequest)
  | selectActive (req : StartRequest)
  | commitStart (req : StartRequest) (existing : List ImpersonationSession)
  | selectOne (req : EndRequest)
  | commitEnd (req : EndRequest) (imp : Option ImpersonationSession)

def nextImpersonation (db : ImpersonationDb) : Impersonation →
    ImpersonationDb × Option Impersonation
  | .selectTenant req =>
      (db, (liveTenant req.targetTenantId db.tenants).map fun _ => .selectActive req)
  | .selectActive req =>
      (db, some (.commitStart req (activeSessions req.platformUserId db.sessions)))
  | .commitStart req existing => (Platform.commitStart req existing db, none)
  | .selectOne req =>
      (db, (scalarOneOrNone (activeIn req.platformUserId req.targetTenantId
        db.sessions)).toOption.map (.commitEnd req))
  | .commitEnd req imp => (Platform.commitEnd req imp db, none)

/-- Starts and ends that overlap; each takes three statements at most. -/
def impersonations : Service ImpersonationDb ImpersonationRequest Impersonation where
  start
    | .start req => .selectTenant req
    | .stop req => .selectOne req
  next := nextImpersonation

lemma endsWithin_impersonations (request : ImpersonationRequest) :
    impersonations.EndsWithin 3 (impersonations.start request) := by
  cases request with
  | start req =>
      intro db p hp
      obtain ⟨t, -, rfl⟩ := Option.map_eq_some_iff.mp hp
      intro db' p' hp'
      obtain rfl := Option.some.inj hp'
      intro db'' p'' hp''
      cases hp''
  | stop req =>
      intro db p hp
      obtain ⟨imp, -, rfl⟩ := Option.map_eq_some_iff.mp hp
      intro db' p' hp'
      cases hp'

/-- The service of a request in its transaction. -/
def performImpersonation (db : ImpersonationDb) : ImpersonationRequest → ImpersonationDb
  | .start req => (Tx.commit (startImpersonation req) db).2
  | .stop req => (Tx.commit (endImpersonation req) db).2

/-- **A request that nobody interrupts** is its service. -/
lemma serve_impersonations (db : ImpersonationDb) (request : ImpersonationRequest) :
    impersonations.serve 3 db request = performImpersonation db request := by
  cases request with
  | start req =>
      rw [Service.serve, Service.finish, performImpersonation, startImpersonation]
      cases ht : liveTenant req.targetTenantId db.tenants with
      | none => simp [impersonations, nextImpersonation, ht, Tx.commit]
      | some t =>
          simp [impersonations, nextImpersonation, Service.finish, ht, Tx.commit, -bind_pure_comp]
  | stop req =>
      rw [Service.serve, Service.finish, performImpersonation, endImpersonation]
      rcases hone : scalarOneOrNone (activeIn req.platformUserId req.targetTenantId db.sessions)
        with e | imp
      · simp [impersonations, nextImpersonation, hone, Except.toOption, Tx.commit, Tx.exec_bind]
      · simp [impersonations, nextImpersonation, Service.finish, hone, Except.toOption, Tx.commit,
          Tx.exec_bind]

/-! ### What a commit does to the active sessions -/

section Commits

variable {sessions : List ImpersonationSession} {platformUserId : String}

lemma activeSessions_append (l l' : List ImpersonationSession) :
    activeSessions platformUserId (l ++ l')
      = activeSessions platformUserId l ++ activeSessions platformUserId l' :=
  List.filter_append l l'

/-- Closing sessions leaves the others active. -/
lemma activeSessions_closeSessions (ids : List String) (now : Time) :
    activeSessions platformUserId (closeSessions ids now sessions)
      = (activeSessions platformUserId sessions).filter fun s => s.id ∉ ids := by
  induction sessions with
  | nil => rfl
  | cons s rest ih =>
      have hcons : closeSessions ids now (s :: rest)
          = closeSessions ids now [s] ++ closeSessions ids now rest := rfl
      have hsplit : activeSessions platformUserId (s :: rest)
          = activeSessions platformUserId [s] ++ activeSessions platformUserId rest :=
        activeSessions_append [s] rest
      rw [hcons, activeSessions_append, ih, hsplit, List.filter_append]
      congr 1
      by_cases hs : s.id ∈ ids
      · by_cases hu : s.platformUserId = platformUserId ∧ s.isActive = true
        · simp [activeSessions, closeSessions, hs, hu]
        · simp [activeSessions, closeSessions, hs, hu]
      · by_cases hu : s.platformUserId = platformUserId ∧ s.isActive = true
        · simp [activeSessions, closeSessions, hs, hu]
        · simp [activeSessions, closeSessions, hs, hu]

/-- The new session is the only active one that a start adds, and only to its administrator. -/
lemma activeSessions_commitStart (req : StartRequest) (existing : List ImpersonationSession)
    (db : ImpersonationDb) :
    activeSessions platformUserId (commitStart req existing db).sessions
      = ((activeSessions platformUserId db.sessions).filter
          fun s => s.id ∉ existing.map (·.id))
        ++ if req.platformUserId = platformUserId then [req.session] else [] := by
  change activeSessions platformUserId (closeSessions _ _ _ ++ [req.session]) = _
  rw [activeSessions_append, activeSessions_closeSessions]
  congr 1
  by_cases hu : req.platformUserId = platformUserId
  · simp [activeSessions, StartRequest.session, hu]
  · simp [activeSessions, StartRequest.session, hu]

lemma activeSessions_commitEnd (req : EndRequest) (imp : Option ImpersonationSession)
    (db : ImpersonationDb) :
    activeSessions platformUserId (commitEnd req imp db).sessions
      = (activeSessions platformUserId db.sessions).filter
          fun s => s.id ∉ imp.toList.map (·.id) :=
  activeSessions_closeSessions _ _

end Commits

/-! ### Requests that overlap -/

/-- Every administrator has at most one active session. -/
def OneActive (db : ImpersonationDb) : Prop :=
  ∀ platformUserId, (activeSessions platformUserId db.sessions).length ≤ 1

/-- A session is active as long as it has no end. -/
def Stamped (db : ImpersonationDb) : Prop :=
  ∀ s ∈ db.sessions, s.isActive = true ↔ s.endedAt = none

/-- A start that commits has loaded every session of its administrator that is active now. -/
def SeesActive (db : ImpersonationDb) : Impersonation → Prop
  | .commitStart req existing =>
      ∀ s ∈ activeSessions req.platformUserId db.sessions, s.id ∈ existing.map (·.id)
  | _ => True

lemma stamped_closeSessions {sessions : List ImpersonationSession} (ids : List String) (now : Time)
    (h : ∀ s ∈ sessions, s.isActive = true ↔ s.endedAt = none) :
    ∀ s ∈ closeSessions ids now sessions, s.isActive = true ↔ s.endedAt = none := by
  intro s hs
  obtain ⟨s', hs', rfl⟩ := List.mem_map.mp hs
  split
  · simp
  · exact h s' hs'

/-- No statement leaves a closed session without an end or an active one with an end. -/
lemma stamped_next {db : ImpersonationDb} (h : Stamped db) (p : Impersonation) :
    Stamped (nextImpersonation db p).1 := by
  cases p with
  | selectTenant req => exact h
  | selectActive req => exact h
  | selectOne req => exact h
  | commitEnd req imp => exact stamped_closeSessions _ _ h
  | commitStart req existing =>
      intro s hs
      rcases List.mem_append.mp hs with hold | hnew
      · exact stamped_closeSessions _ _ h s hold
      · obtain rfl := List.mem_singleton.mp hnew
        simp [StartRequest.session]

/-- A statement keeps every administrator at one active session exactly when it sees those it
replaces. -/
lemma oneActive_next_iff {db : ImpersonationDb} (h : OneActive db) (p : Impersonation) :
    OneActive (nextImpersonation db p).1 ↔ SeesActive db p := by
  cases p with
  | selectTenant req => exact iff_of_true h trivial
  | selectActive req => exact iff_of_true h trivial
  | selectOne req => exact iff_of_true h trivial
  | commitEnd req imp =>
      refine iff_of_true (fun u => ?_) trivial
      have hlength := List.length_filter_le (fun s : ImpersonationSession =>
        decide (s.id ∉ imp.toList.map (·.id))) (activeSessions u db.sessions)
      change (activeSessions u (commitEnd req imp db).sessions).length ≤ 1
      rw [activeSessions_commitEnd]
      exact hlength.trans (h u)
  | commitStart req existing =>
      have hactive : ∀ u, activeSessions u
          (nextImpersonation db (.commitStart req existing)).1.sessions
          = ((activeSessions u db.sessions).filter fun s => s.id ∉ existing.map (·.id))
            ++ if req.platformUserId = u then [req.session] else [] :=
        fun u => activeSessions_commitStart req existing db
      constructor
      · intro hone s hs
        by_contra hunseen
        have hlength := hone req.platformUserId
        rw [hactive, if_pos rfl, List.length_append, List.length_singleton] at hlength
        -- the session it has not seen stays active beside the new one
        have hkept : s ∈ (activeSessions req.platformUserId db.sessions).filter
            fun s => s.id ∉ existing.map (·.id) := List.mem_filter.mpr ⟨hs, by simpa using hunseen⟩
        have hpos := List.length_pos_of_mem hkept
        omega
      · intro hsees u
        rw [hactive]
        by_cases hu : req.platformUserId = u
        · subst hu
          have hnone : ((activeSessions req.platformUserId db.sessions).filter
              fun s => s.id ∉ existing.map (·.id)) = [] := by
            rw [List.filter_eq_nil_iff]
            intro s hs
            simpa using hsees s hs
          rw [hnone, if_pos rfl]
          simp
        · rw [if_neg hu, List.append_nil]
          exact (List.length_filter_le _ _).trans (h u)

/-- **Starts and ends that overlap**: a session is active exactly as long as it has no end, in
every order of the statements; and every administrator has at most one active session throughout
if and only if each start that commits has seen the ones that are active then. -/
theorem impersonations_one_active_iff {db : ImpersonationDb} (hstamped : Stamped db)
    (h : OneActive db) (as : List (SharedAction ImpersonationRequest)) :
    Stamped (run impersonations.step { db := db } as).db ∧
      (Always impersonations.step (fun st => OneActive st.db) { db := db } as
        ↔ EachStep impersonations.step
            (fun st a => ∀ p, Service.Advances st a p → SeesActive st.db p) { db := db } as) := by
  let start : Shared ImpersonationDb Impersonation := { db := db }
  have hany : EachStep impersonations.step (Service.Admits fun _ => True) start as :=
    EachStep.of_forall (fun _ _ _ _ => trivial) start as
  have hstart : Service.Inv Stamped (fun _ : Impersonation => True) start :=
    ⟨hstamped, fun _ _ => trivial⟩
  have hnext : ∀ db p, Stamped db → True → Stamped (impersonations.next db p).1 ∧
      ∀ p' ∈ (impersonations.next db p).2, True :=
    fun _ p hs _ => ⟨stamped_next hs p, fun _ _ => trivial⟩
  exact ⟨(Service.induction (fun _ _ => trivial) hnext hstart hany).1,
    Service.always_iff (P := OneActive) (G := SeesActive) (fun _ _ => trivial) hnext
      (fun _ p _ _ hone => oneActive_next_iff hone p) hstart h hany⟩

/-! ### What the table is for -/

/-- For each administrator, the tenant impersonated and the session. -/
abbrev Impersonated := String → Option (String × String)

/-- A start replaces what there was, in a tenant that exists; an end is for the tenant
impersonated. -/
def impersonatedStep (tenants : List Tenant) (m : Impersonated) : ImpersonationRequest → Impersonated
  | .start req =>
      if (liveTenant req.targetTenantId tenants).isSome then
        Function.update m req.platformUserId (some (req.targetTenantId, req.newId))
      else m
  | .stop req =>
      if (m req.platformUserId).map (·.1) = some req.targetTenantId then
        Function.update m req.platformUserId none
      else m

/-- The active sessions of the table are those of the map. -/
def Refines (m : Impersonated) (db : ImpersonationDb) : Prop :=
  ∀ u, (activeSessions u db.sessions).map (fun s => (s.targetTenantId, s.id)) = (m u).toList

/-- The ids that the requests draw for new sessions. -/
def newIds (requests : List ImpersonationRequest) : List String :=
  requests.filterMap fun
    | .start req => some req.newId
    | .stop _ => none

section Refinement

variable {db : ImpersonationDb} {m : Impersonated}

/-- Closing sessions of one administrator spares those of the others. -/
lemma activeSessions_of_other {u v : String} (huv : u ≠ v) {closed : List ImpersonationSession}
    (hclosed : ∀ s ∈ closed, s ∈ activeSessions u db.sessions)
    (hids : (db.sessions.map (·.id)).Nodup) :
    (activeSessions v db.sessions).filter (fun s => s.id ∉ closed.map (·.id))
      = activeSessions v db.sessions := by
  refine List.filter_eq_self.mpr fun s hs => ?_
  rw [decide_eq_true_eq]
  intro hmem
  obtain ⟨c, hc, hid⟩ := List.mem_map.mp hmem
  obtain ⟨hsdb, hsv⟩ := List.mem_filter.mp hs
  obtain ⟨hcdb, hcu⟩ := List.mem_filter.mp (hclosed c hc)
  obtain rfl := List.inj_on_of_nodup_map hids hcdb hsdb hid
  simp only [decide_eq_true_eq] at hsv hcu
  exact huv (hcu.1.symm.trans hsv.1)

lemma refines_start (hids : (db.sessions.map (·.id)).Nodup) (h : Refines m db)
    (req : StartRequest) :
    Refines (Function.update m req.platformUserId (some (req.targetTenantId, req.newId)))
      (commitStart req (activeSessions req.platformUserId db.sessions) db) := by
  intro u
  rw [activeSessions_commitStart]
  by_cases hu : req.platformUserId = u
  · subst hu
    have hnone : ((activeSessions req.platformUserId db.sessions).filter fun s =>
        s.id ∉ (activeSessions req.platformUserId db.sessions).map (·.id)) = [] := by
      rw [List.filter_eq_nil_iff]
      intro s hs
      simpa using ⟨s, hs, rfl⟩
    rw [hnone, if_pos rfl, Function.update_self]
    rfl
  · rw [activeSessions_of_other hu (fun _ hs => hs) hids, if_neg hu, List.append_nil,
      Function.update_of_ne (Ne.symm hu)]
    exact h u

/-- An administrator has no active session in the tenant, or just the one of the map. -/
lemma activeIn_of_refines (h : Refines m db) (u t : String) :
    ((m u).map (·.1) ≠ some t ∧ activeIn u t db.sessions = []) ∨
      (m u).map (·.1) = some t ∧
        ∃ s, activeSessions u db.sessions = [s] ∧ activeIn u t db.sessions = [s] := by
  have hu := h u
  rw [activeIn]
  cases hm : m u with
  | none =>
      rw [hm] at hu
      obtain hnil := List.map_eq_nil_iff.mp hu
      exact Or.inl ⟨by simp, by rw [hnil]; rfl⟩
  | some entry =>
      rw [hm] at hu
      obtain ⟨s, hs, hpair⟩ := List.map_eq_singleton_iff.mp hu
      have htenant : s.targetTenantId = entry.1 := congrArg Prod.fst hpair
      by_cases ht : entry.1 = t
      · refine Or.inr ⟨by simp [ht], s, hs, ?_⟩
        rw [hs, List.filter_cons_of_pos (by simp [htenant, ht]), List.filter_nil]
      · refine Or.inl ⟨by simpa using ht, ?_⟩
        rw [hs, List.filter_cons_of_neg (by simp [htenant, ht]), List.filter_nil]

/-- An end closes the administrator's only session. -/
lemma refines_stop (hids : (db.sessions.map (·.id)).Nodup) (h : Refines m db) (req : EndRequest)
    {s : ImpersonationSession} (hs : activeSessions req.platformUserId db.sessions = [s]) :
    Refines (Function.update m req.platformUserId none) (commitEnd req (some s) db) := by
  intro u
  rw [activeSessions_commitEnd]
  by_cases hu : req.platformUserId = u
  · subst hu
    rw [hs, Function.update_self]
    simp
  · have hclosed : ∀ c ∈ (some s).toList, c ∈ activeSessions req.platformUserId db.sessions := by
      rw [hs]
      exact fun c hc => hc
    rw [activeSessions_of_other hu hclosed hids, Function.update_of_ne (Ne.symm hu)]
    exact h u

lemma refines_commitEnd_none (h : Refines m db) (req : EndRequest) :
    Refines m (commitEnd req none db) := by
  intro u
  rw [activeSessions_commitEnd, List.filter_eq_self.mpr (by simp)]
  exact h u

lemma map_id_closeSessions (ids : List String) (now : Time) (sessions : List ImpersonationSession) :
    (closeSessions ids now sessions).map (·.id) = sessions.map (·.id) := by
  rw [closeSessions, List.map_map]
  refine List.map_congr_left fun s _ => ?_
  rw [Function.comp_apply]
  split <;> rfl

/-- **One request**: it does to the table what the step does to the map; it leaves the tenants
alone and writes no new id but its own. -/
lemma serve_refines (hids : (db.sessions.map (·.id)).Nodup) (h : Refines m db)
    (request : ImpersonationRequest) :
    Refines (impersonatedStep db.tenants m request) (impersonations.serve 3 db request) ∧
      (impersonations.serve 3 db request).tenants = db.tenants ∧
      ∃ added, (impersonations.serve 3 db request).sessions.map (·.id)
        = db.sessions.map (·.id) ++ added ∧ added.Sublist (newIds [request]) := by
  rw [serve_impersonations]
  cases request with
  | start req =>
      rw [performImpersonation, startImpersonation, impersonatedStep]
      cases ht : liveTenant req.targetTenantId db.tenants with
      | none =>
          have hexec : (Tx.commit (startImpersonation req) db).2 = db := by
            simp [startImpersonation, ht, Tx.commit]
          rw [startImpersonation] at hexec
          rw [hexec]
          exact ⟨h, rfl, [], by simp, List.nil_sublist _⟩
      | some t =>
          have hexec : (Tx.commit (startImpersonation req) db).2
              = commitStart req (activeSessions req.platformUserId db.sessions) db := by
            simp [startImpersonation, ht, Tx.commit, -bind_pure_comp]
          rw [startImpersonation] at hexec
          rw [hexec]
          refine ⟨refines_start hids h req, rfl, [req.newId], ?_, List.Sublist.refl _⟩
          change (closeSessions _ _ _ ++ [req.session]).map _ = _
          rw [List.map_append, map_id_closeSessions]
          rfl
  | stop req =>
      have hids' : ∀ imp, (commitEnd req imp db).sessions.map (·.id) = db.sessions.map (·.id) :=
        fun imp => map_id_closeSessions _ _ _
      rw [performImpersonation, impersonatedStep]
      -- the one session of the administrator is in this tenant, or an end finds none
      rcases activeIn_of_refines h req.platformUserId req.targetTenantId with
        ⟨hother, hnil⟩ | ⟨htenant, s, hs, hone⟩
      · have hexec : (Tx.commit (endImpersonation req) db).2 = commitEnd req none db := by
          simp [endImpersonation, hnil, scalarOneOrNone, Tx.commit, Tx.exec_bind]
        rw [hexec, if_neg hother]
        exact ⟨refines_commitEnd_none h req, rfl, [], by rw [hids', List.append_nil],
          List.nil_sublist _⟩
      · have hexec : (Tx.commit (endImpersonation req) db).2 = commitEnd req (some s) db := by
          simp [endImpersonation, hone, scalarOneOrNone, Tx.commit, Tx.exec_bind]
        rw [hexec, if_pos htenant]
        exact ⟨refines_stop hids h req hs, rfl, [], by rw [hids', List.append_nil],
          List.nil_sublist _⟩

/-- **Starts and ends one after the other** do to the table exactly what they are for: each
administrator impersonates the tenant of the last start, until the end for that tenant. -/
theorem impersonations_refine {requests : List ImpersonationRequest}
    (hids : (db.sessions.map (·.id) ++ newIds requests).Nodup) (h : Refines m db) :
    ∃ db', run impersonations.step { db := db } (Service.serial 3 requests) = { db := db' } ∧
      Refines (run (impersonatedStep db.tenants) m requests) db' := by
  refine ⟨_, Service.run_serial endsWithin_impersonations db requests, ?_⟩
  induction requests generalizing db m with
  | nil => exact h
  | cons request rest ih =>
      have hold : (db.sessions.map (·.id)).Nodup := (List.nodup_append.mp hids).1
      obtain ⟨hrefines, htenants, added, hadded, hsub⟩ := serve_refines hold h request
      have hnew : newIds (request :: rest) = newIds [request] ++ newIds rest := by
        rw [newIds, newIds, newIds, ← List.filterMap_append]
        rfl
      have hids' : ((impersonations.serve 3 db request).sessions.map (·.id)
          ++ newIds rest).Nodup := by
        rw [hadded, List.append_assoc]
        rw [hnew] at hids
        exact hids.sublist ((List.Sublist.refl _).append (hsub.append (List.Sublist.refl _)))
      rw [run_cons, run_cons, ← htenants]
      rw [← htenants] at hrefines
      exact ih hids' hrefines

end Refinement

/-- An administrator who moves from one tenant to another, beside a colleague. -/
def twoTenants : ImpersonationDb := { tenants := [⟨"t1", "A", "USD", none, none, "UTC"⟩,
  ⟨"t2", "B", "USD", none, none, "UTC"⟩] }

def moveBetween : List ImpersonationRequest :=
  [.start ⟨"a1", "t1", "i1", 1⟩, .start ⟨"a2", "t1", "i2", 2⟩, .start ⟨"a1", "t2", "i3", 3⟩,
    .stop ⟨"a1", "t1", 4⟩, .stop ⟨"a2", "t1", 5⟩]

theorem impersonations_refine_sample :
    ∃ db', run impersonations.step { db := twoTenants } (Service.serial 3 moveBetween)
        = { db := db' } ∧
      Refines (run (impersonatedStep twoTenants.tenants) (fun _ => none) moveBetween) db' :=
  have hempty : Refines (fun _ => none) twoTenants := fun _ => rfl
  impersonations_refine (by decide) hempty

/-- Two starts of one administrator that have both seen no session. -/
def twoStarts : List (SharedAction ImpersonationRequest) :=
  [.arrive (.start ⟨"a1", "t1", "i1", 1⟩), .arrive (.start ⟨"a1", "t1", "i2", 2⟩), .advance 0,
    .advance 0, .advance 1, .advance 1, .advance 0, .advance 0]

theorem impersonations_one_active_iff_sample :
    ¬ Always impersonations.step (fun st => OneActive st.db) { db := twoTenants } twoStarts := by
  have hstamped : Stamped twoTenants := fun s hs => by cases hs
  have hone : OneActive twoTenants := fun _ => Nat.zero_le _
  rw [(impersonations_one_active_iff hstamped hone twoStarts).2]
  intro h
  have hsecond := h.2.2.2.2.2.2.2.1 (.commitStart ⟨"a1", "t1", "i2", 2⟩ []) ⟨0, rfl, by rfl⟩
  have hseen := hsecond ⟨"i1", "a1", "t1", 1, none, true⟩ (by decide)
  cases hseen

end EclServer.Platform
