import EclServer.Core
import EclServer.Library.Requests
import EclServer.Library.Table

/-!
The current version of the engine (`promote_engine_version` of `app/modules/platform/service.py`).

* `promoteEngineVersion`: the service. `promotions`: the same request statement by statement, for
  requests that overlap; `serve_promotions`: without interruption it is the service.
* `OneCurrent`: exactly one version is marked current. `KeepsOne`: the exact condition on a
  promotion's last statement.
* `promotions_linked`: promotions one after the other, and their audit events.
  `promotions_keep_one_iff`: promotions that overlap. `promotions_stuck`: once two versions are
  current no promotion succeeds any more.
-/

namespace EclServer.Platform

open EclServer.Library

/-- The columns of `engine_versions` that a promotion reads or writes. -/
structure EngineVersion where
  id : String
  version : String
  isCurrent : Bool := false
  deriving DecidableEq, Repr

/-- An `ENGINE_PROMOTED` audit event with its details. -/
structure EnginePromoted where
  userId : String
  oldVersion : Option String
  newVersion : String
  deriving DecidableEq, Repr

structure EngineDb where
  versions : List EngineVersion
  auditLogs : List EnginePromoted := []
  deriving DecidableEq, Repr

def engineVersionNotFound : ECLException :=
  { code := "ENGINE_VERSION_NOT_FOUND", detail := "Engine version not found.", statusCode := 404 }

/-- `scalar_one_or_none`: it refuses several rows. -/
def scalarOneOrNone {α : Type} : List α → Except ECLException (Option α)
  | [] => .ok none
  | [a] => .ok (some a)
  | _ :: _ :: _ => .error unexpectedError

lemma scalarOneOrNone_of_le_one {α : Type} {l : List α} (h : l.length ≤ 1) :
    scalarOneOrNone l = .ok l.head? := by
  rcases l with _ | ⟨a, _ | ⟨b, rest⟩⟩
  · rfl
  · rfl
  · simp at h

/-- The row of a version; the column is unique. -/
def findVersion (version : String) (versions : List EngineVersion) : Option EngineVersion :=
  versions.find? fun v => v.version = version

def currentVersions (versions : List EngineVersion) : List EngineVersion :=
  versions.filter (·.isCurrent)

/-- UPDATE of `is_current` by primary key. -/
def setCurrent (id : String) (b : Bool) (versions : List EngineVersion) : List EngineVersion :=
  updateByKey EngineVersion.id id (fun v => { v with isCurrent := b }) versions

/-- The session's flush: `old_current.is_current = False` unless it is the target, and
`target.is_current = True`, which is no change of a target that was loaded as current. -/
def flushPromotion (old : Option EngineVersion) (target : EngineVersion)
    (versions : List EngineVersion) : List EngineVersion :=
  let cleared := match old with
    | some o => if o.id ≠ target.id then setCurrent o.id false versions else versions
    | none => versions
  if target.isCurrent then cleared else setCurrent target.id true cleared

/-- The tables after a promotion has committed. -/
def commitPromotion (userId version : String) (old : Option EngineVersion)
    (target : EngineVersion) (db : EngineDb) : EngineDb :=
  { versions := flushPromotion old target db.versions
    auditLogs := db.auditLogs ++
      [{ userId := userId, oldVersion := old.map (·.version), newVersion := version }] }

/-- `promote_engine_version`. -/
def promoteEngineVersion (version actorUserId : String) : Tx ECLException EngineDb Unit := do
  let db ← get
  match findVersion version db.versions with
  | none => throw engineVersionNotFound
  | some target =>
      let old ← liftM (scalarOneOrNone (currentVersions db.versions))
      modify (commitPromotion actorUserId version old target)

/-! ### Statement by statement -/

inductive PromotePc where
  | selectTarget
  | selectCurrent (target : EngineVersion)
  | commit (target : EngineVersion) (old : Option EngineVersion)

structure PromoteRequest where
  version : String
  actorUserId : String

structure Promotion where
  request : PromoteRequest
  pc : PromotePc := .selectTarget

def nextPromotion (db : EngineDb) (p : Promotion) : EngineDb × Option Promotion :=
  match p.pc with
  | .selectTarget =>
      (db, (findVersion p.request.version db.versions).map fun target =>
        { p with pc := .selectCurrent target })
  | .selectCurrent target =>
      (db, (scalarOneOrNone (currentVersions db.versions)).toOption.map fun old =>
        { p with pc := .commit target old })
  | .commit target old =>
      (commitPromotion p.request.actorUserId p.request.version old target db, none)

/-- Promotions that overlap; each takes three statements. -/
def promotions : Service EngineDb PromoteRequest Promotion where
  start request := { request := request }
  next := nextPromotion

lemma endsWithin_promotions (request : PromoteRequest) :
    promotions.EndsWithin 3 (promotions.start request) := by
  intro db p hp
  obtain ⟨target, -, rfl⟩ := Option.map_eq_some_iff.mp hp
  intro db' p' hp'
  obtain ⟨old, -, rfl⟩ := Option.map_eq_some_iff.mp hp'
  intro db'' p'' hp''
  cases hp''

/-- **A promotion that nobody interrupts** is the service in its transaction. -/
lemma serve_promotions (db : EngineDb) (request : PromoteRequest) :
    promotions.serve 3 db request
      = (Tx.commit (promoteEngineVersion request.version request.actorUserId) db).2 := by
  rw [Service.serve, Service.finish, promoteEngineVersion]
  cases hfind : findVersion request.version db.versions with
  | none => simp [promotions, nextPromotion, hfind, Tx.commit, Tx.exec_bind]
  | some target =>
      rcases hold : scalarOneOrNone (currentVersions db.versions) with e | old
      · simp [promotions, nextPromotion, Service.finish, hfind, hold, Tx.commit, Tx.exec_bind,
          Except.toOption]
      · simp [promotions, nextPromotion, Service.finish, hfind, hold, Tx.commit, Tx.exec_bind,
          Except.toOption]

/-! ### What a flush does -/

/-- Whether a flush leaves a version current. -/
def leavesCurrent (old : Option EngineVersion) (target v : EngineVersion) : Bool :=
  if v.id = target.id ∧ target.isCurrent = false then true
  else if v.id ≠ target.id ∧ old.map (·.id) = some v.id then false
  else v.isCurrent

lemma flushPromotion_eq_map (old : Option EngineVersion) (target : EngineVersion)
    (versions : List EngineVersion) :
    flushPromotion old target versions
      = versions.map fun v => { v with isCurrent := leavesCurrent old target v } := by
  have hset : ∀ (l : List EngineVersion), setCurrent target.id true l
      = l.map fun v => { v with isCurrent := if v.id = target.id then true else v.isCurrent } := by
    intro l
    refine List.map_congr_left fun v _ => ?_
    split <;> rfl
  have hclear : ∀ (o : EngineVersion) (l : List EngineVersion), setCurrent o.id false l
      = l.map fun v => { v with isCurrent := if v.id = o.id then false else v.isCurrent } := by
    intro o l
    refine List.map_congr_left fun v _ => ?_
    split <;> rfl
  have hid : versions = versions.map fun v => { v with isCurrent := v.isCurrent } := by
    simp
  unfold flushPromotion
  -- which of the two updates is made: by the old row, and by the target as it was read
  cases old with
  | none =>
      cases hcurrent : target.isCurrent <;> simp [hset, leavesCurrent, hcurrent]
  | some o =>
      by_cases ho : o.id = target.id
      · cases hcurrent : target.isCurrent with
        | true =>
            simp only [ho, ne_eq, not_true_eq_false, if_false, if_true, leavesCurrent, hcurrent]
            conv_lhs => rw [hid]
            refine List.map_congr_left fun v _ => ?_
            simp only [reduceCtorEq, and_false, if_false, Option.map_some, Option.some.injEq, ho]
            rw [if_neg]
            rintro ⟨hne, heq⟩
            exact hne heq.symm
        | false =>
            simp only [ho, ne_eq, not_true_eq_false, if_false, Bool.false_eq_true, hset,
              leavesCurrent, hcurrent]
            refine List.map_congr_left fun v _ => ?_
            by_cases hv : v.id = target.id
            · simp [hv]
            · simp [hv, ho, Ne.symm hv]
      · cases hcurrent : target.isCurrent with
        | true =>
            simp only [ho, ne_eq, not_false_eq_true, if_true, hclear, leavesCurrent, hcurrent]
            refine List.map_congr_left fun v _ => ?_
            by_cases hv : v.id = o.id
            · simp [hv, ho]
            · simp [hv, Ne.symm hv]
        | false =>
            simp only [ho, ne_eq, not_false_eq_true, if_true, Bool.false_eq_true, if_false, hset,
              hclear, List.map_map, leavesCurrent, hcurrent]
            refine List.map_congr_left fun v _ => ?_
            by_cases ht : v.id = target.id
            · simp [ht]
            · by_cases hv : v.id = o.id
              · simp [hv, ho]
              · simp [ht, hv, Ne.symm hv]

/-! ### The version that is current -/

/-- The row is the only one marked current. -/
def IsCurrentRow (versions : List EngineVersion) (row : EngineVersion) : Prop :=
  currentVersions versions = [row]

/-- Exactly one version is current. -/
def OneCurrent (db : EngineDb) : Prop := ∃ row, IsCurrentRow db.versions row

/-- The ids and names of the versions. -/
def versionKeys (versions : List EngineVersion) : List (String × String) :=
  versions.map fun v => (v.id, v.version)

/-- No promotion changes the ids and names of the versions. -/
def SameVersions (keys : List (String × String)) (db : EngineDb) : Prop :=
  versionKeys db.versions = keys

section Current

variable {versions : List EngineVersion} {row target : EngineVersion} {old : Option EngineVersion}

lemma isCurrentRow_iff (hids : (versions.map (·.id)).Nodup) (hrow : row ∈ versions) :
    IsCurrentRow versions row ↔ ∀ v ∈ versions, (v.isCurrent = true ↔ v.id = row.id) := by
  have hkey : (versions.filter fun v => v.id = row.id) = [row] :=
    filter_eq_singleton EngineVersion.id hids hrow
  rw [IsCurrentRow, currentVersions]
  constructor
  · intro h v hv
    have hcurrent : v.isCurrent = true ↔ v ∈ versions.filter (·.isCurrent) := by
      simp [List.mem_filter, hv]
    have hsame : v.id = row.id ↔ v ∈ versions.filter fun v => v.id = row.id := by
      simp [List.mem_filter, hv]
    rw [hcurrent, hsame, h, hkey]
  · intro h
    rw [← hkey]
    refine List.filter_congr fun v hv => ?_
    rw [Bool.eq_iff_iff, decide_eq_true_eq]
    exact h v hv

lemma IsCurrentRow.mem (h : IsCurrentRow versions row) :
    row ∈ versions ∧ row.isCurrent = true := by
  have hmem : row ∈ currentVersions versions := by
    rw [h]
    exact List.mem_singleton_self row
  exact List.mem_filter.mp hmem

lemma map_id_flush (versions : List EngineVersion) :
    (flushPromotion old target versions).map (·.id) = versions.map (·.id) := by
  rw [flushPromotion_eq_map, List.map_map]
  rfl

/-- A flush leaves one version current exactly when some row alone is left so. -/
lemma oneCurrent_flush_iff (hids : (versions.map (·.id)).Nodup) :
    (∃ r, IsCurrentRow (flushPromotion old target versions) r)
      ↔ ∃ r ∈ versions, ∀ v ∈ versions, (leavesCurrent old target v = true ↔ v.id = r.id) := by
  have hids' : ((flushPromotion old target versions).map (·.id)).Nodup := by
    rw [map_id_flush]
    exact hids
  constructor
  · rintro ⟨r, hr⟩
    have hall := (isCurrentRow_iff hids' hr.mem.1).mp hr
    have hmem := hr.mem.1
    rw [flushPromotion_eq_map] at hall hmem
    obtain ⟨v, hv, rfl⟩ := List.mem_map.mp hmem
    refine ⟨v, hv, fun w hw => ?_⟩
    exact hall _ (List.mem_map_of_mem hw)
  · rintro ⟨r, hr, hall⟩
    have hmem : { r with isCurrent := leavesCurrent old target r }
        ∈ flushPromotion old target versions := by
      rw [flushPromotion_eq_map]
      exact List.mem_map.mpr ⟨r, hr, rfl⟩
    refine ⟨_, (isCurrentRow_iff hids' hmem).mpr fun v hv => ?_⟩
    rw [flushPromotion_eq_map] at hv
    obtain ⟨w, hw, rfl⟩ := List.mem_map.mp hv
    exact hall w hw

/-- What a promotion has read fits the version that is current when it commits. A target read as
not current takes the mark over from the version read as current, or has it already; a target
read as current must not lose the mark in between while the version read as current has it. -/
def ReadsFit (old : Option EngineVersion) (target row : EngineVersion) : Prop :=
  if target.isCurrent then old.map (·.id) = some row.id → row.id = target.id
  else old.map (·.id) = some row.id ∨ row.id = target.id

/-- **The exact condition**: a flush leaves one version current exactly when its reads fit. -/
lemma oneCurrent_flush_iff_readsFit (hids : (versions.map (·.id)).Nodup)
    (hcurrent : IsCurrentRow versions row) (htarget : ∃ v ∈ versions, v.id = target.id) :
    (∃ r, IsCurrentRow (flushPromotion old target versions) r) ↔ ReadsFit old target row := by
  have hrow := hcurrent.mem.1
  have hall := (isCurrentRow_iff hids hrow).mp hcurrent
  obtain ⟨t, ht, htid⟩ := htarget
  rw [oneCurrent_flush_iff hids, ReadsFit]
  -- a target that was read as current is not written
  cases hwas : target.isCurrent with
  | true =>
      have hleaves : ∀ v ∈ versions, (leavesCurrent old target v = true
          ↔ v.id = row.id ∧ ¬ (v.id ≠ target.id ∧ old.map (·.id) = some v.id)) := by
        intro v hv
        simp only [leavesCurrent, hwas, reduceCtorEq, and_false, if_false]
        split <;> simp_all
      rw [if_pos rfl]
      constructor
      · rintro ⟨r, hr, hr'⟩ hold
        by_contra hne
        have hself := (hleaves r hr).mp ((hr' r hr).mpr rfl)
        exact hself.2 (by rw [hself.1]; exact ⟨hne, hold⟩)
      · intro hfit
        refine ⟨row, hrow, fun v hv => ?_⟩
        rw [hleaves v hv]
        constructor
        · exact fun h => h.1
        · intro hid
          refine ⟨hid, ?_⟩
          rw [hid]
          exact fun h => h.1 (hfit h.2)
  | false =>
      have hleaves : ∀ v ∈ versions, (leavesCurrent old target v = true
          ↔ v.id = target.id ∨ v.id = row.id ∧ old.map (·.id) ≠ some v.id) := by
        intro v hv
        simp only [leavesCurrent, hwas, and_true]
        by_cases hv' : v.id = target.id
        · simp [hv']
        · rw [if_neg hv']
          split <;> simp_all
      rw [if_neg (by simp)]
      constructor
      · rintro ⟨r, hr, hr'⟩
        by_contra hfit
        rw [not_or] at hfit
        have htr := (hr' t ht).mp ((hleaves t ht).mpr (Or.inl htid))
        have hrowr := (hr' row hrow).mp ((hleaves row hrow).mpr (Or.inr ⟨rfl, hfit.1⟩))
        exact hfit.2 (by rw [hrowr, ← htr, htid])
      · intro hfit
        refine ⟨t, ht, fun v hv => ?_⟩
        rw [hleaves v hv, htid]
        constructor
        · rintro (h | ⟨h, hne⟩)
          · exact h
          · rcases hfit with hfit | hfit
            · exact absurd (h ▸ hfit) hne
            · exact h.trans hfit
        · exact Or.inl

/-- A promotion that reads the tables it commits to makes its target current. -/
lemma isCurrentRow_flush (hids : (versions.map (·.id)).Nodup)
    (hcurrent : IsCurrentRow versions row) (htarget : target ∈ versions) :
    IsCurrentRow (flushPromotion (some row) target versions) { target with isCurrent := true } := by
  have hall := (isCurrentRow_iff hids hcurrent.mem.1).mp hcurrent
  have hleaves : ∀ v ∈ versions, (leavesCurrent (some row) target v = true ↔ v.id = target.id) := by
    intro v hv
    have hv' := hall v hv
    have ht' := hall target htarget
    simp only [leavesCurrent, Option.map_some, Option.some.injEq]
    by_cases hid : v.id = target.id
    · rw [hid] at hv'
      cases hwas : target.isCurrent with
      | true => simp [hid, hv'.mpr (ht'.mp hwas)]
      | false => simp [hid]
    · by_cases hrow : row.id = v.id
      · simp [hid, hrow]
      · simp [hid, hrow, hv', Ne.symm hrow]
  have hmem : { target with isCurrent := true } ∈ flushPromotion (some row) target versions := by
    rw [flushPromotion_eq_map]
    refine List.mem_map.mpr ⟨target, htarget, ?_⟩
    rw [(hleaves target htarget).mpr rfl]
  refine (isCurrentRow_iff (by rw [map_id_flush]; exact hids) hmem).mpr fun v hv => ?_
  rw [flushPromotion_eq_map] at hv
  obtain ⟨w, hw, rfl⟩ := List.mem_map.mp hv
  exact hleaves w hw

end Current

/-! ### Promotions one after the other -/

/-- Each event names as old version the one that was new in the event before it. -/
def Linked : String → List EnginePromoted → String → Prop
  | v, [], w => v = w
  | v, e :: es, w => e.oldVersion = some v ∧ Linked e.newVersion es w

lemma Linked.concat {v w : String} {es : List EnginePromoted} (h : Linked v es w)
    {e : EnginePromoted} (he : e.oldVersion = some w) : Linked v (es ++ [e]) e.newVersion := by
  induction es generalizing v with
  | nil =>
      obtain rfl : v = w := h
      exact ⟨he, rfl⟩
  | cons d ds ih => exact ⟨h.1, ih h.2⟩

section Serial

variable {db : EngineDb} {row : EngineVersion}

lemma findVersion_eq_none_iff {version : String} {versions : List EngineVersion} :
    findVersion version versions = none ↔ version ∉ versions.map (·.version) := by
  rw [findVersion, List.find?_eq_none, List.mem_map]
  constructor
  · rintro h ⟨v, hv, rfl⟩
    exact h v hv (by simp)
  · intro h v hv hname
    exact h ⟨v, hv, of_decide_eq_true hname⟩

/-- A promotion of a version that is not in the table. -/
lemma serve_of_unknown {request : PromoteRequest}
    (h : findVersion request.version db.versions = none) :
    promotions.serve 3 db request = db := by
  rw [Service.serve, Service.finish]
  simp [promotions, nextPromotion, h]

/-- A promotion of a known version, in tables with one current version. -/
lemma serve_of_known {request : PromoteRequest} {target : EngineVersion}
    (h : IsCurrentRow db.versions row)
    (hfind : findVersion request.version db.versions = some target) :
    promotions.serve 3 db request
      = commitPromotion request.actorUserId request.version (some row) target db := by
  have hone : scalarOneOrNone (currentVersions db.versions) = .ok (some row) := by
    rw [show currentVersions db.versions = [row] from h]
    rfl
  rw [Service.serve, Service.finish]
  simp [promotions, nextPromotion, Service.finish, hfind, hone, Except.toOption]

/-- The names of the versions do not change. -/
lemma map_version_flush (old : Option EngineVersion) (target : EngineVersion)
    (versions : List EngineVersion) :
    (flushPromotion old target versions).map (·.version) = versions.map (·.version) := by
  rw [flushPromotion_eq_map, List.map_map]
  rfl

/-- What promotions of `names`, one after the other, have made of the tables and their log. -/
structure Promoted (db : EngineDb) (row : EngineVersion) (names : List String) (db' : EngineDb)
    (row' : EngineVersion) (events : List EnginePromoted) : Prop where
  ids : (db'.versions.map (·.id)).Nodup
  versions : db'.versions.map (·.version) = db.versions.map (·.version)
  current : IsCurrentRow db'.versions row'
  logs : db'.auditLogs = db.auditLogs ++ events
  linked : Linked row.version events row'.version
  promoted : events.map (·.newVersion)
    = names.filter fun v => v ∈ db.versions.map (·.version)

/-- One more promotion: of an unknown version, or of one that becomes the current one. -/
lemma Promoted.serve {names : List String} {db' : EngineDb} {row' : EngineVersion}
    {events : List EnginePromoted} (h : Promoted db row names db' row' events)
    (request : PromoteRequest) :
    ∃ row'' events', Promoted db row (names ++ [request.version])
      (promotions.serve 3 db' request) row'' events' := by
  cases hfind : findVersion request.version db'.versions with
  | none =>
      have hunknown : request.version ∉ db.versions.map (·.version) := by
        rw [← h.versions]
        exact findVersion_eq_none_iff.mp hfind
      have hnames : events.map (·.newVersion)
          = (names ++ [request.version]).filter fun v => v ∈ db.versions.map (·.version) := by
        rw [List.filter_append, List.filter_cons_of_neg (by simpa using hunknown), List.filter_nil,
          List.append_nil]
        exact h.promoted
      rw [serve_of_unknown hfind]
      exact ⟨row', events, { h with promoted := hnames }⟩
  | some target =>
      have hname : target.version = request.version := by
        simpa using List.find?_some hfind
      have hmem : target ∈ db'.versions := List.mem_of_find?_eq_some hfind
      have hknown : request.version ∈ db.versions.map (·.version) := by
        rw [← h.versions, ← hname]
        exact List.mem_map_of_mem hmem
      rw [serve_of_known h.current hfind]
      refine ⟨{ target with isCurrent := true },
        events ++ [⟨request.actorUserId, some row'.version, request.version⟩],
        ?_, ?_, isCurrentRow_flush h.ids h.current hmem, ?_, ?_, ?_⟩
      · change ((flushPromotion (some row') target _).map (·.id)).Nodup
        rw [map_id_flush]
        exact h.ids
      · change (flushPromotion (some row') target _).map (·.version) = _
        rw [map_version_flush]
        exact h.versions
      · simp [commitPromotion, h.logs]
      -- the event names the version that was current as the old one
      · have hlast := h.linked.concat
          (e := ⟨request.actorUserId, some row'.version, request.version⟩) rfl
        exact hname ▸ hlast
      · rw [List.map_append, List.filter_append, h.promoted]
        congr 1
        simp only [List.map_cons, List.map_nil]
        rw [List.filter_cons_of_pos (by simpa using hknown), List.filter_nil]

lemma promoted_run (hids : (db.versions.map (·.id)).Nodup) (h : IsCurrentRow db.versions row)
    (requests : List PromoteRequest) :
    ∃ row' events, Promoted db row (requests.map (·.version))
      (run (promotions.serve 3) db requests) row' events := by
  induction requests using List.reverseRecOn with
  | nil => exact ⟨row, [], hids, rfl, h, by simp, rfl, rfl⟩
  | append_singleton requests request ih =>
      obtain ⟨row', events, hpromoted⟩ := ih
      rw [run_concat, List.map_append]
      exact hpromoted.serve request

/-- **Promotions one after the other** leave exactly one version current, the one promoted last,
and an audit event for each promotion of a known version; the events form a chain from the
version that was current first to the one that is current now. -/
theorem promotions_linked (hids : (db.versions.map (·.id)).Nodup)
    (h : IsCurrentRow db.versions row) (requests : List PromoteRequest) :
    ∃ db' events row', run promotions.step { db := db } (Service.serial 3 requests) = { db := db' }
      ∧ IsCurrentRow db'.versions row' ∧ db'.auditLogs = db.auditLogs ++ events
      ∧ Linked row.version events row'.version
      ∧ events.map (·.newVersion)
        = (requests.map (·.version)).filter fun v => v ∈ db.versions.map (·.version) := by
  obtain ⟨row', events, hpromoted⟩ := promoted_run hids h requests
  exact ⟨_, events, row', Service.run_serial endsWithin_promotions db requests, hpromoted.current,
    hpromoted.logs, hpromoted.linked, hpromoted.promoted⟩

end Serial

/-- The release of the migration and two later ones. -/
def threeVersions : List EngineVersion :=
  [⟨"01A", "v1.0.0", true⟩, ⟨"01B", "v1.1.0", false⟩, ⟨"01C", "v2.0.0", false⟩]

theorem promotions_linked_sample :
    ∃ db' events row', run promotions.step { db := { versions := threeVersions } }
        (Service.serial 3 [⟨"v2.0.0", "u1"⟩, ⟨"v9", "u1"⟩, ⟨"v1.1.0", "u2"⟩]) = { db := db' }
      ∧ IsCurrentRow db'.versions row' ∧ db'.auditLogs = [] ++ events
      ∧ Linked "v1.0.0" events row'.version
      ∧ events.map (·.newVersion) = ["v2.0.0", "v1.1.0"] :=
  let start : EngineDb := { versions := threeVersions }
  have hids : (start.versions.map (·.id)).Nodup := by decide
  have hcurrent : IsCurrentRow start.versions ⟨"01A", "v1.0.0", true⟩ := rfl
  promotions_linked hids hcurrent [⟨"v2.0.0", "u1"⟩, ⟨"v9", "u1"⟩, ⟨"v1.1.0", "u2"⟩]

/-! ### Promotions that overlap -/

/-- A target under way is a version of the table. -/
def TargetKnown (keys : List (String × String)) (p : Promotion) : Prop :=
  match p.pc with
  | .selectTarget => True
  | .selectCurrent target => target.id ∈ keys.map (·.1)
  | .commit target _ => target.id ∈ keys.map (·.1)

/-- The next statement of the promotion, if it commits, finds that its reads fit. -/
def KeepsOne (db : EngineDb) (p : Promotion) : Prop :=
  match p.pc with
  | .commit target old => ∀ row, IsCurrentRow db.versions row → ReadsFit old target row
  | _ => True

section Overlap

variable {keys : List (String × String)} {db : EngineDb} {p : Promotion}

lemma ids_of_sameVersions (h : SameVersions keys db) : db.versions.map (·.id) = keys.map (·.1) := by
  rw [← show versionKeys db.versions = keys from h, versionKeys, List.map_map]
  rfl

/-- What a statement keeps, whatever the others did before it. -/
lemma next_keeps_versions (hdb : SameVersions keys db) (hp : TargetKnown keys p) :
    SameVersions keys (nextPromotion db p).1
      ∧ ∀ p' ∈ (nextPromotion db p).2, TargetKnown keys p' := by
  obtain ⟨request, pc⟩ := p
  cases pc with
  | selectTarget =>
      refine ⟨hdb, fun p' hp' => ?_⟩
      obtain ⟨target, htarget, rfl⟩ := Option.map_eq_some_iff.mp hp'
      change target.id ∈ keys.map (·.1)
      rw [← ids_of_sameVersions hdb]
      exact List.mem_map_of_mem (List.mem_of_find?_eq_some htarget)
  | selectCurrent target =>
      refine ⟨hdb, fun p' hp' => ?_⟩
      obtain ⟨old, -, rfl⟩ := Option.map_eq_some_iff.mp hp'
      exact hp
  | commit target old =>
      refine ⟨?_, fun p' hp' => by cases hp'⟩
      change versionKeys (flushPromotion old target db.versions) = keys
      rw [flushPromotion_eq_map, versionKeys, List.map_map]
      exact hdb

/-- A statement keeps one version current exactly when its reads fit. -/
lemma oneCurrent_next_iff (hids : (keys.map (·.1)).Nodup) (hdb : SameVersions keys db)
    (hp : TargetKnown keys p) (h : OneCurrent db) :
    OneCurrent (nextPromotion db p).1 ↔ KeepsOne db p := by
  rw [← ids_of_sameVersions hdb] at hids
  obtain ⟨row, hrow⟩ := h
  obtain ⟨request, pc⟩ := p
  cases pc with
  | selectTarget => exact iff_of_true ⟨row, hrow⟩ trivial
  | selectCurrent target => exact iff_of_true ⟨row, hrow⟩ trivial
  | commit target old =>
      have htarget : ∃ v ∈ db.versions, v.id = target.id := by
        have hmem : target.id ∈ keys.map (·.1) := hp
        rw [← ids_of_sameVersions hdb] at hmem
        exact List.mem_map.mp hmem
      have hiff : (∃ r, IsCurrentRow (flushPromotion old target db.versions) r)
          ↔ ReadsFit old target row := oneCurrent_flush_iff_readsFit hids hrow htarget
      change (∃ r, IsCurrentRow (flushPromotion old target db.versions) r) ↔ _
      rw [hiff]
      constructor
      · intro hfit r hr
        have hsame : [r] = [row] := hr.symm.trans hrow
        obtain rfl := List.singleton_inj.mp hsame
        exact hfit
      · exact fun hfit => hfit row hrow

end Overlap

/-- **Promotions that overlap** keep exactly one version current throughout if and only if each
one that commits finds that what it read still fits. -/
theorem promotions_keep_one_iff {db : EngineDb} (hids : (db.versions.map (·.id)).Nodup)
    (h : OneCurrent db) (as : List (SharedAction PromoteRequest)) :
    Always promotions.step (fun st => OneCurrent st.db) { db := db } as
      ↔ EachStep promotions.step (fun st a => ∀ p, Service.Advances st a p → KeepsOne st.db p)
          { db := db } as := by
  have hkeys : ((versionKeys db.versions).map (·.1)).Nodup := by
    rw [versionKeys, List.map_map]
    exact hids
  exact Service.always_iff (S := promotions) (A := fun _ => True)
    (I := SameVersions (versionKeys db.versions))
    (J := TargetKnown (versionKeys db.versions)) (fun _ _ => trivial)
    (fun _ _ hdb hp => next_keeps_versions hdb hp)
    (fun _ _ hdb hp hone => oneCurrent_next_iff hkeys hdb hp hone)
    ⟨rfl, fun p hp => by cases hp⟩ h (EachStep.of_forall (fun _ _ _ _ => trivial) _ as)

/-- Two promotions that have both read the same current version when the first one commits. -/
def twoPromotions : List (SharedAction PromoteRequest) :=
  [.arrive ⟨"v1.1.0", "u1"⟩, .arrive ⟨"v2.0.0", "u2"⟩, .advance 0, .advance 0, .advance 1,
    .advance 1, .advance 0, .advance 0]

theorem promotions_keep_one_iff_sample :
    ¬ Always promotions.step (fun st => OneCurrent st.db) { db := { versions := threeVersions } }
      twoPromotions := by
  have hone : OneCurrent { versions := threeVersions } := ⟨⟨"01A", "v1.0.0", true⟩, rfl⟩
  rw [promotions_keep_one_iff (by decide) hone]
  intro h
  have hsecond := h.2.2.2.2.2.2.2.1 ⟨⟨"v2.0.0", "u2"⟩,
    .commit ⟨"01C", "v2.0.0", false⟩ (some ⟨"01A", "v1.0.0", true⟩)⟩ ⟨0, rfl, by rfl⟩
  have hfit := hsecond ⟨"01B", "v1.1.0", true⟩ (by rfl)
  revert hfit
  simp [ReadsFit]

/-- The promotion has not reached its commit. -/
def NotCommitting (p : Promotion) : Prop := ∀ target old, p.pc ≠ .commit target old

/-- **No way back**: once two versions are current, with no promotion at its commit, every later
promotion is refused, in whatever order the requests take their statements. -/
theorem promotions_stuck {st : Shared EngineDb Promotion}
    (htwo : 2 ≤ (currentVersions st.db.versions).length) (hheld : ∀ p ∈ st.held, NotCommitting p)
    (as : List (SharedAction PromoteRequest)) : (run promotions.step st as).db = st.db := by
  have hrefused : scalarOneOrNone (currentVersions st.db.versions) = .error unexpectedError := by
    rcases hrows : currentVersions st.db.versions with _ | ⟨v, _ | ⟨w, rest⟩⟩
    · rw [hrows] at htwo
      simp at htwo
    · rw [hrows] at htwo
      simp at htwo
    · rfl
  have hinv : Service.Inv (fun db => db = st.db) NotCommitting (run promotions.step st as) := by
    refine Service.induction (S := promotions) (A := fun _ => True)
      (fun _ _ _ _ hpc => by cases hpc) ?_ ⟨rfl, hheld⟩
      (EachStep.of_forall (fun _ _ _ _ => trivial) st as)
    rintro db ⟨request, pc⟩ rfl hp
    cases pc with
    | selectTarget =>
        refine ⟨rfl, fun p' hp' => ?_⟩
        obtain ⟨target, -, rfl⟩ := Option.map_eq_some_iff.mp hp'
        intro _ _ hpc
        cases hpc
    | selectCurrent target =>
        refine ⟨rfl, fun p' hp' => ?_⟩
        obtain ⟨old, hold, -⟩ := Option.map_eq_some_iff.mp hp'
        rw [hrefused] at hold
        cases hold
    | commit target old => exact absurd rfl (hp target old)
  exact hinv.1

/-- What two overlapping promotions leave. -/
def twoCurrent : EngineDb :=
  { versions := [⟨"01A", "v1.0.0", false⟩, ⟨"01B", "v1.1.0", true⟩, ⟨"01C", "v2.0.0", true⟩] }

theorem promotions_stuck_sample :
    (run promotions.step { db := twoCurrent } (Service.serial 3 [⟨"v1.0.0", "u1"⟩])).db
      = twoCurrent :=
  have htwo : 2 ≤ (currentVersions twoCurrent.versions).length := by decide
  promotions_stuck htwo (fun _ hp => by cases hp) _

end EclServer.Platform
