import EclServer.Library.LiveKeys
import EclServer.Platform.EngineVersions
import EclServer.Tenants.CollateralTypes

/-!
Segments: the table of `app/modules/segments/models.py` and the services of
`app/modules/segments/service.py`.

* `createSegment`, `batchCreateSegments`, `updateSegment`, `deleteSegment`: the services.
  `segments`: the same requests statement by statement, for requests that overlap;
  `serve_segments`: without interruption they are the services.
* `SegmentsGood`: what every statement keeps of the table. `SegmentWrite.Fits`: when the unique
  indexes admit what a request writes.
* `segments_every_order`: the table after any interleaving, and which requests end with an error
  that no handler knows.
-/

namespace EclServer.Tenants

open EclServer.Library EclServer.Auth
open EclServer.Platform (scalarOneOrNone scalarOneOrNone_of_le_one)

/-! ### The table -/

structure Segment where
  id : String
  tenantId : String
  name : String
  code : Option String := none
  isActive : Bool := true
  createdByUserId : String
  deletedAt : Option Time := none
  deriving DecidableEq, Repr

/-- `deleted_at IS NULL`. -/
def Segment.isLive (s : Segment) : Bool := s.deletedAt = none

/-- The columns of `segments_tenant_name_unique_idx`. -/
def Segment.tenantName (s : Segment) : String × String := (s.tenantId, s.name)

/-- The rows of a tenant, without the deleted ones. -/
def liveSegments (tenantId : String) (rows : List Segment) : List Segment :=
  rows.filter fun s => s.tenantId = tenantId ∧ s.isLive

/-! ### Requests -/

structure CreateSegmentRequest where
  name : String
  code : Option String := none
  name_length : 2 ≤ name.length ∧ name.length ≤ 100
  code_length : ∀ c ∈ code, c.length ≤ 50

structure BatchCreateSegmentsRequest where
  segments : List CreateSegmentRequest
  segments_length : 1 ≤ segments.length ∧ segments.length ≤ 50

structure UpdateSegmentRequest where
  name : Option String := none
  code : Option String := none
  isActive : Option Bool := none
  name_length : ∀ n ∈ name, 2 ≤ n.length ∧ n.length ≤ 100
  code_length : ∀ c ∈ code, c.length ≤ 50

def segmentNameTaken (name : String) : ECLException :=
  { code := "SEGMENT_NAME_TAKEN"
    detail := "A segment named '" ++ name ++ "' already exists in this workspace."
    statusCode := 409
    field := some "name" }

def segmentNamesTaken (taken : List String) : ECLException :=
  { code := "SEGMENT_NAME_TAKEN"
    detail := "Segments already exist: " ++ ", ".intercalate (sortByKey id taken)
    statusCode := 409 }

def duplicateSegmentNames : ECLException :=
  { code := "DUPLICATE_NAMES", detail := "Duplicate segment names in batch." }

def segmentNotFound : ECLException :=
  { code := "RESOURCE_NOT_FOUND", detail := "Segment not found.", statusCode := 404 }

/-! ### What the services read -/

/-- `_check_name_unique`. -/
def checkSegmentName (tenantId name : String) (excludeId : Option String)
    (rows : List Segment) : Except ECLException Unit := do
  let row ← scalarOneOrNone ((liveSegments tenantId rows).filter fun s =>
    s.name = pyStrip name ∧ some s.id ≠ excludeId)
  if row.isSome then throw (segmentNameTaken name)

/-- The check of an update, where it renames. -/
def checkNewName (tenantId segmentId : String) (rows : List Segment) :
    Option String → Except ECLException Unit
  | none => .ok ()
  | some name => checkSegmentName tenantId name (some segmentId) rows

/-- The row that an update or a delete is about. -/
def selectSegment (tenantId segmentId : String) (rows : List Segment) :
    Except ECLException Segment := do
  match ← scalarOneOrNone ((liveSegments tenantId rows).filter fun s => s.id = segmentId) with
  | none => throw segmentNotFound
  | some s => return s

/-- The checks of `batch_create_segments`. -/
def checkSegmentBatch (lower : String → String) (tenantId : String)
    (body : BatchCreateSegmentsRequest) (rows : List Segment) : Except ECLException Unit :=
  let names := body.segments.map fun item => pyStrip item.name
  let taken := ((liveSegments tenantId rows).map (·.name)).filter fun name => name ∈ names
  if ¬ (names.map lower).Nodup then .error duplicateSegmentNames
  else if taken ≠ [] then .error (segmentNamesTaken taken)
  else .ok ()

/-! ### What the services write -/

/-- `code.strip() if code else None`. -/
def segmentCode : Option String → Option String
  | none => none
  | some c => if c = "" then none else some (pyStrip c)

/-- The row a request adds. -/
def newSegment (id tenantId userId : String) (item : CreateSegmentRequest) : Segment :=
  { id := id, tenantId := tenantId, name := pyStrip item.name, code := segmentCode item.code
    createdByUserId := userId }

/-- The rows of a batch. -/
def segmentRows (newUlid : ℕ → String) (tenantId userId : String)
    (body : BatchCreateSegmentsRequest) : List Segment :=
  body.segments.mapIdx fun i item => newSegment (newUlid i) tenantId userId item

/-- The loaded row as an update leaves it in the session. -/
def updatedSegment (body : UpdateSegmentRequest) (s : Segment) : Segment :=
  { s with
    name := (body.name.map pyStrip).getD s.name
    code := (body.code.map fun c => if pyStrip c = "" then none else some (pyStrip c)).getD s.code
    isActive := body.isActive.getD s.isActive }

/-- A flush writes the columns whose values differ from the loaded ones. -/
def changed {α : Type} [DecidableEq α] (loaded new current : α) : α :=
  if new = loaded then current else new

/-- What a request's flush sends to the database. -/
inductive SegmentWrite where
  | insert (new : List Segment)
  | update (loaded new : Segment)
  | delete (loaded : Segment) (now : Time)
  deriving DecidableEq

namespace SegmentWrite

/-- The row of an UPDATE. -/
def writeRow (loaded new s : Segment) : Segment :=
  { s with
    name := changed loaded.name new.name s.name
    code := changed loaded.code new.code s.code
    isActive := changed loaded.isActive new.isActive s.isActive }

/-- The row of a deletion. -/
def deleteRow (now : Time) (s : Segment) : Segment := { s with deletedAt := some now }

def apply : SegmentWrite → List Segment → List Segment
  | insert new, rows => rows ++ new
  | update loaded new, rows => updateByKey Segment.id loaded.id (writeRow loaded new) rows
  | delete loaded now, rows => updateByKey Segment.id loaded.id (deleteRow now) rows

/-- The primary key and the unique index admit the rows, or the flush raises. -/
def flush (w : SegmentWrite) (rows : List Segment) : Except ECLException (List Segment) :=
  if ((w.apply rows).map (·.id)).Nodup ∧ NodupLive Segment.isLive Segment.tenantName (w.apply rows)
  then .ok (w.apply rows) else .error unexpectedError

end SegmentWrite

/-- A flush in the session. -/
def flushSegments (w : SegmentWrite) : Tx ECLException (List Segment) Unit := do
  let rows ← get
  let rows' ← liftM (w.flush rows)
  set rows'

/-! ### The services -/

/-- `create_segment`. -/
def createSegment (newUlid tenantId userId : String) (body : CreateSegmentRequest) :
    Tx ECLException (List Segment) Unit := do
  let rows ← get
  liftM (checkSegmentName tenantId body.name none rows)
  flushSegments (.insert [newSegment newUlid tenantId userId body])

/-- `batch_create_segments`. -/
def batchCreateSegments (lower : String → String) (newUlid : ℕ → String)
    (tenantId userId : String) (body : BatchCreateSegmentsRequest) :
    Tx ECLException (List Segment) Unit := do
  let rows ← get
  liftM (checkSegmentBatch lower tenantId body rows)
  flushSegments (.insert (segmentRows newUlid tenantId userId body))

/-- The write of an update. Where the request sets `is_active` and the user is known, the audit
details name a variable that does not exist, and the request raises. -/
def updateWrite (userId : Option String) (body : UpdateSegmentRequest) (s : Segment) :
    Except ECLException SegmentWrite :=
  if body.isActive ≠ none ∧ userId.getD "" ≠ "" then .error unexpectedError
  else .ok (.update s (updatedSegment body s))

/-- `update_segment`. -/
def updateSegment (tenantId segmentId : String) (body : UpdateSegmentRequest)
    (userId : Option String) : Tx ECLException (List Segment) Unit := do
  let rows ← get
  let s ← liftM (selectSegment tenantId segmentId rows)
  liftM (checkNewName tenantId segmentId rows body.name)
  let w ← liftM (updateWrite userId body s)
  flushSegments w

/-- `delete_segment`. -/
def deleteSegment (now : Time) (tenantId segmentId : String) :
    Tx ECLException (List Segment) Unit := do
  let rows ← get
  let s ← liftM (selectSegment tenantId segmentId rows)
  flushSegments (.delete s now)

/-! ### Statement by statement -/

/-- The requests of the router; `user.id` is that of the signed-in user. -/
inductive SegmentRequest where
  | create (newUlid tenantId userId : String) (body : CreateSegmentRequest)
  | batch (newUlid : ℕ → String) (tenantId userId : String) (body : BatchCreateSegmentsRequest)
  | update (tenantId segmentId userId : String) (body : UpdateSegmentRequest)
  | delete (now : Time) (tenantId segmentId : String)

/-- The table, and how each request ended. -/
structure SegmentDb where
  rows : List Segment := []
  ended : List (SegmentRequest × Except ECLException Unit) := []

/-- The request's endpoint. -/
def segmentEndpoint (lower : String → String) :
    SegmentRequest → Tx ECLException (List Segment) Unit
  | .create newUlid tenantId userId body => createSegment newUlid tenantId userId body
  | .batch newUlid tenantId userId body => batchCreateSegments lower newUlid tenantId userId body
  | .update tenantId segmentId userId body =>
      updateSegment tenantId segmentId body (some userId)
  | .delete now tenantId segmentId => deleteSegment now tenantId segmentId

inductive SegmentPc where
  | first
  | checkName (name : String) (loaded : Segment)
  | flush (w : SegmentWrite)

structure SegmentCall where
  request : SegmentRequest
  pc : SegmentPc := .first

namespace SegmentCall

variable (call : SegmentCall) (db : SegmentDb)

/-- The request's transaction ends. -/
def finish (r : Except ECLException (List Segment)) : SegmentDb × Option SegmentCall :=
  ({ rows := r.toOption.getD db.rows, ended := db.ended ++ [(call.request, r.map fun _ => ())] },
    none)

/-- The request ends with an error, or stands before its flush. -/
def proceed : Except ECLException SegmentWrite → SegmentDb × Option SegmentCall
  | .error e => call.finish db (.error e)
  | .ok w => (db, some { call with pc := .flush w })

def first (lower : String → String) : SegmentDb × Option SegmentCall :=
  match call.request with
  | .create newUlid tenantId userId body =>
      call.proceed db do
        checkSegmentName tenantId body.name none db.rows
        return .insert [newSegment newUlid tenantId userId body]
  | .batch newUlid tenantId userId body =>
      call.proceed db do
        checkSegmentBatch lower tenantId body db.rows
        return .insert (segmentRows newUlid tenantId userId body)
  | .update tenantId segmentId userId body =>
      match selectSegment tenantId segmentId db.rows, body.name with
      | .error e, _ => call.finish db (.error e)
      | .ok s, none => call.proceed db (updateWrite (some userId) body s)
      | .ok s, some name => (db, some { call with pc := .checkName name s })
  | .delete now tenantId segmentId =>
      call.proceed db do
        let s ← selectSegment tenantId segmentId db.rows
        return .delete s now

/-- After the name check of an update. -/
def second (name : String) (loaded : Segment) : SegmentDb × Option SegmentCall :=
  match call.request with
  | .update tenantId segmentId userId body =>
      call.proceed db do
        checkSegmentName tenantId name (some segmentId) db.rows
        updateWrite (some userId) body loaded
  | _ => (db, none)

def next (lower : String → String) : SegmentDb × Option SegmentCall :=
  match call.pc with
  | .first => call.first db lower
  | .checkName name loaded => call.second db name loaded
  | .flush w => call.finish db (w.flush db.rows)

end SegmentCall

/-- Segment requests that overlap; each takes three statements at most. -/
def segments (lower : String → String) : Service SegmentDb SegmentRequest SegmentCall where
  start request := { request := request }
  next db call := call.next db lower

/-! ### Reads of a good table -/

/-- What every statement keeps of the table. -/
structure SegmentsGood (rows : List Segment) : Prop where
  ids : (rows.map (·.id)).Nodup
  names : NodupLive Segment.isLive Segment.tenantName rows
  stripped : ∀ s ∈ rows, pyStrip s.name = s.name
  active : ∀ s ∈ rows, s.isActive = true

/-- A live row of the tenant, but for the excluded one, has the name. -/
def NameTaken (rows : List Segment) (tenantId name : String) (excludeId : Option String) : Prop :=
  ∃ s ∈ rows, (s.tenantId = tenantId ∧ s.isLive = true) ∧ s.name = name ∧ some s.id ≠ excludeId

instance (rows : List Segment) (tenantId name : String) (excludeId : Option String) :
    Decidable (NameTaken rows tenantId name excludeId) :=
  inferInstanceAs (Decidable (∃ s ∈ rows, _))

section Reads

variable {rows : List Segment} {tenantId name segmentId : String} {excludeId : Option String}

lemma mem_liveSegments {s : Segment} :
    s ∈ liveSegments tenantId rows ↔ s ∈ rows ∧ s.tenantId = tenantId ∧ s.isLive = true := by
  simp [liveSegments]

/-- The name check refuses exactly the names that are taken; it never meets several rows. -/
lemma checkSegmentName_eq (h : SegmentsGood rows) :
    checkSegmentName tenantId name excludeId rows
      = if NameTaken rows tenantId (pyStrip name) excludeId then .error (segmentNameTaken name)
        else .ok () := by
  set l := (liveSegments tenantId rows).filter fun s =>
    s.name = pyStrip name ∧ some s.id ≠ excludeId with hl
  have hmem : ∀ s, s ∈ l ↔ s ∈ rows ∧ (s.tenantId = tenantId ∧ s.isLive = true) ∧
      s.name = pyStrip name ∧ some s.id ≠ excludeId := by
    intro s
    rw [hl, List.mem_filter, mem_liveSegments, decide_eq_true_iff, and_assoc]
  -- two live rows of one tenant and name are one row, so that the query finds one at most
  have hone : l.length ≤ 1 := by
    have hall : ∀ a ∈ l, ∀ b ∈ l, a = b := by
      intro a ha b hb
      obtain ⟨ha, ⟨hat, hal⟩, han, -⟩ := (hmem a).mp ha
      obtain ⟨hb, ⟨hbt, hbl⟩, hbn, -⟩ := (hmem b).mp hb
      refine h.names.eq_of_key ha hb hal hbl ?_
      rw [Segment.tenantName, Segment.tenantName, hat, hbt, han, hbn]
    have hnodup : l.Nodup := (List.Nodup.of_map _ h.ids).sublist
      (List.filter_sublist.trans List.filter_sublist)
    rcases hcases : l with _ | ⟨a, _ | ⟨b, rest⟩⟩
    · exact Nat.zero_le 1
    · exact le_rfl
    · have hab := hall a (by simp [hcases]) b (by simp [hcases])
      rw [hcases, hab] at hnodup
      simp at hnodup
  have htaken : NameTaken rows tenantId (pyStrip name) excludeId ↔ l ≠ [] := by
    rw [NameTaken, List.ne_nil_iff_exists_cons]
    constructor
    · rintro ⟨s, hs⟩
      obtain ⟨i, rest, hcons⟩ := List.exists_cons_of_ne_nil (List.ne_nil_of_mem ((hmem s).mpr hs))
      exact ⟨i, rest, hcons⟩
    · rintro ⟨s, rest, hcons⟩
      exact ⟨s, (hmem s).mp (hcons ▸ List.mem_cons_self)⟩
  have hscalar : scalarOneOrNone l = .ok l.head? := scalarOneOrNone_of_le_one hone
  have hcheck : checkSegmentName tenantId name excludeId rows
      = (scalarOneOrNone l >>= fun row => if row.isSome then throw (segmentNameTaken name)
          else pure ()) := rfl
  rw [hcheck, hscalar]
  by_cases hnil : l = []
  · rw [if_neg fun ht => htaken.mp ht hnil, hnil]
    rfl
  · rw [if_pos (htaken.mpr hnil)]
    obtain ⟨s, rest, hcons⟩ := List.exists_cons_of_ne_nil hnil
    rw [hcons]
    rfl

/-- The row of an update or a delete is the live row of the id, if it is the tenant's. -/
lemma selectSegment_eq (hids : (rows.map (·.id)).Nodup) :
    selectSegment tenantId segmentId rows
      = match (liveRow? Segment.isLive Segment.id rows segmentId).filter
            fun s => s.tenantId = tenantId with
        | none => .error segmentNotFound
        | some s => .ok s := by
  have hfilter : ((liveSegments tenantId rows).filter fun s => s.id = segmentId).head?
      = (liveRow? Segment.isLive Segment.id rows segmentId).filter
          fun s => s.tenantId = tenantId := by
    rw [List.head?_filter, liveSegments, find?_filter_key Segment.id hids, liveRow?]
    cases rows.find? fun s => s.id = segmentId with
    | none => rfl
    | some s =>
        by_cases hlive : s.isLive = true
        · by_cases ht : s.tenantId = tenantId
          · simp [Option.filter, hlive, ht]
          · simp [Option.filter, hlive, ht]
        · simp [Option.filter, hlive]
  have hone : ((liveSegments tenantId rows).filter fun s => s.id = segmentId).length ≤ 1 :=
    length_filter_le_one Segment.id (hids.sublist (List.filter_sublist.map _)) segmentId
  rw [selectSegment, scalarOneOrNone_of_le_one hone, hfilter]
  rfl

end Reads

/-! ### Flushes of a good table -/

namespace SegmentWrite

/-- What a request knows of its own write. -/
def Good : SegmentWrite → Prop
  | insert new => (new.map Segment.tenantName).Nodup ∧
      ∀ n ∈ new, n.isLive = true ∧ n.isActive = true ∧ pyStrip n.name = n.name
  | update loaded new => pyStrip new.name = new.name ∧ new.isActive = loaded.isActive
  | delete _ _ => True

/-- The names and the ids that the write needs are free. -/
def Fits : SegmentWrite → List Segment → Prop
  | insert new, rows => (new.map (·.id)).Nodup ∧
      ∀ n ∈ new, n.id ∉ rows.map (·.id) ∧ ¬ NameTaken rows n.tenantId n.name none
  | update loaded new, rows => ∀ s ∈ rows, s.id = loaded.id → s.isLive = true →
      ¬ NameTaken rows s.tenantId (changed loaded.name new.name s.name) (some s.id)
  | delete _ _, _ => True

end SegmentWrite

section Flush

variable {rows : List Segment} {w : SegmentWrite}

lemma ids_writeRow (loaded new s : Segment) : (SegmentWrite.writeRow loaded new s).id = s.id := rfl

lemma ids_deleteRow (now : Time) (s : Segment) : (SegmentWrite.deleteRow now s).id = s.id := rfl

/-- The index admits a write exactly where it fits. -/
lemma nodupLive_apply_iff (h : SegmentsGood rows) (hw : w.Good) :
    (((w.apply rows).map (·.id)).Nodup ∧
      NodupLive Segment.isLive Segment.tenantName (w.apply rows)) ↔ w.Fits rows := by
  cases w with
  | insert new =>
      have hlive : new.filter Segment.isLive = new :=
        List.filter_eq_self.mpr fun n hn => (hw.2 n hn).1
      have hnew : NodupLive Segment.isLive Segment.tenantName new := by
        rw [NodupLive, hlive]
        exact hw.1
      rw [SegmentWrite.apply, List.map_append, List.nodup_append, nodupLive_append_iff,
        SegmentWrite.Fits]
      constructor
      · rintro ⟨⟨-, hnodup, hapart⟩, -, -, hfree⟩
        refine ⟨hnodup, fun n hn => ⟨fun hmem => hapart _ hmem _ (List.mem_map_of_mem hn) rfl, ?_⟩⟩
        rintro ⟨s, hs, ⟨ht, hl⟩, hname, -⟩
        refine hfree s hs hl n hn (hw.2 n hn).1 ?_
        rw [Segment.tenantName, Segment.tenantName, ht, hname]
      · rintro ⟨hnodup, hfree⟩
        refine ⟨⟨h.ids, hnodup, ?_⟩, h.names, hnew, ?_⟩
        · rintro i hi j hj rfl
          obtain ⟨n, hn, rfl⟩ := List.mem_map.mp hj
          exact (hfree n hn).1 hi
        · intro s hs hl n hn _ hkey
          obtain ⟨ht, hname⟩ := Prod.mk.inj hkey
          exact (hfree n hn).2 ⟨s, hs, ⟨ht, hl⟩, hname, by simp⟩
  | update loaded new =>
      have hids : ((updateByKey Segment.id loaded.id (SegmentWrite.writeRow loaded new) rows).map
          (·.id)).Nodup := by
        rw [map_updateByKey Segment.id (ids_writeRow loaded new)]
        exact h.ids
      rw [SegmentWrite.apply, and_iff_right hids, SegmentWrite.Fits]
      -- where the row is gone nothing is written, and the index has nothing to refuse
      by_cases hrow : ∃ s ∈ rows, s.id = loaded.id
      · obtain ⟨s, hs, hsid⟩ := hrow
        rw [← hsid, nodupLive_updateByKey_iff h.ids h.names hs]
        constructor
        · intro hall s' hs' hid' hlive'
          obtain rfl : s' = s := List.inj_on_of_nodup_map h.ids hs' hs hid'
          rintro ⟨r, hr, ⟨ht, hl⟩, hname, hne⟩
          refine hall hlive' r hr (fun hsame => hne (congrArg some hsame)) hl ?_
          rw [Segment.tenantName, Segment.tenantName, ht, hname]
          rfl
        · intro hfree hlive r hr hne hl hkey
          obtain ⟨ht, hname⟩ := Prod.mk.inj hkey
          refine hfree s hs rfl hlive ⟨r, hr, ⟨ht, hl⟩, hname, ?_⟩
          exact fun hsame => hne (Option.some.inj hsame)
      · have hnone : ∀ s ∈ rows, s.id ≠ loaded.id := fun s hs hid => hrow ⟨s, hs, hid⟩
        rw [updateByKey_of_forall_ne Segment.id hnone]
        exact iff_of_true h.names fun s hs hid => absurd hid (hnone s hs)
  | delete loaded now =>
      refine iff_of_true ⟨?_, ?_⟩ trivial
      · rw [SegmentWrite.apply, map_updateByKey Segment.id (ids_deleteRow now)]
        exact h.ids
      · refine h.names.map_of_kept (fun s _ hlive => ?_) fun s _ hlive => ?_
        · by_cases hid : s.id = loaded.id
          · rw [if_pos hid] at hlive
            cases hlive
          · rwa [if_neg hid] at hlive
        · by_cases hid : s.id = loaded.id
          · rw [if_pos hid] at hlive
            cases hlive
          · rw [if_neg hid]

lemma flush_eq (h : SegmentsGood rows) (hw : w.Good) [Decidable (w.Fits rows)] :
    w.flush rows = if w.Fits rows then .ok (w.apply rows) else .error unexpectedError := by
  rw [SegmentWrite.flush]
  by_cases hfits : w.Fits rows
  · rw [if_pos ((nodupLive_apply_iff h hw).mpr hfits), if_pos hfits]
  · rw [if_neg fun hboth => hfits ((nodupLive_apply_iff h hw).mp hboth), if_neg hfits]

/-- A write that is admitted keeps the table good. -/
lemma good_apply (h : SegmentsGood rows) (hw : w.Good) (hfits : w.Fits rows) :
    SegmentsGood (w.apply rows) := by
  obtain ⟨hids, hnames⟩ := (nodupLive_apply_iff h hw).mpr hfits
  refine ⟨hids, hnames, ?_, ?_⟩
  · intro s hs
    cases w with
    | insert new =>
        rcases List.mem_append.mp hs with hold | hnew
        · exact h.stripped s hold
        · exact (hw.2 s hnew).2.2
    | update loaded new =>
        obtain ⟨r, hr, rfl⟩ := (mem_updateByKey Segment.id).mp hs
        by_cases hid : r.id = loaded.id
        · rw [if_pos hid]
          change pyStrip (changed loaded.name new.name r.name) = changed loaded.name new.name r.name
          -- a name that was not changed stays as the row has it now
          rw [changed]
          split
          · exact h.stripped r hr
          · exact hw.1
        · rw [if_neg hid]
          exact h.stripped r hr
    | delete loaded now =>
        obtain ⟨r, hr, rfl⟩ := (mem_updateByKey Segment.id).mp hs
        by_cases hid : r.id = loaded.id
        · rw [if_pos hid]
          exact h.stripped r hr
        · rw [if_neg hid]
          exact h.stripped r hr
  · intro s hs
    cases w with
    | insert new =>
        rcases List.mem_append.mp hs with hold | hnew
        · exact h.active s hold
        · exact (hw.2 s hnew).2.1
    | update loaded new =>
        obtain ⟨r, hr, rfl⟩ := (mem_updateByKey Segment.id).mp hs
        by_cases hid : r.id = loaded.id
        · rw [if_pos hid]
          change changed loaded.isActive new.isActive r.isActive = true
          rw [changed, if_pos hw.2]
          exact h.active r hr
        · rw [if_neg hid]
          exact h.active r hr
    | delete loaded now =>
        obtain ⟨r, hr, rfl⟩ := (mem_updateByKey Segment.id).mp hs
        by_cases hid : r.id = loaded.id
        · rw [if_pos hid]
          exact h.active r hr
        · rw [if_neg hid]
          exact h.active r hr

end Flush

/-! ### Every order of the statements -/

/-- The user of the request is known; ids are not empty. -/
def SegmentRequest.SignedIn : SegmentRequest → Prop
  | .update _ _ userId _ => userId ≠ ""
  | _ => True

namespace SegmentCall

/-- What a request under way knows of itself. -/
def Good (call : SegmentCall) : Prop :=
  call.request.SignedIn ∧
    match call.pc with
    | .first => True
    | .checkName name _ => ∃ tenantId segmentId userId body,
        call.request = .update tenantId segmentId userId body ∧ body.name = some name
    | .flush w => w.Good

/-- The request ends now, with an exception that no handler knows. -/
def EndsUnexpectedly (lower : String → String) (db : SegmentDb) (call : SegmentCall) : Prop :=
  (call.next db lower).1.ended = db.ended ++ [(call.request, .error unexpectedError)]

/-- The statement is the last read of an update that sets `is_active`, and it passes. -/
def SetsActive (db : SegmentDb) (call : SegmentCall) : Prop :=
  match call.pc, call.request with
  | .first, .update tenantId segmentId _ body =>
      body.name = none ∧ body.isActive ≠ none ∧
        ∃ s, selectSegment tenantId segmentId db.rows = .ok s
  | .checkName name _, .update tenantId segmentId _ body =>
      body.isActive ≠ none ∧ ¬ NameTaken db.rows tenantId (pyStrip name) (some segmentId)
  | _, _ => False

/-- The statement is a flush that does not fit: since the reads, another request has taken a name,
or the id drawn exists. -/
def DoesNotFit (db : SegmentDb) (call : SegmentCall) : Prop :=
  ∃ w, call.pc = .flush w ∧ ¬ w.Fits db.rows

end SegmentCall

section Order

variable {lower : String → String} {db : SegmentDb} {call : SegmentCall}

lemma updateWrite_eq {userId : String} (huser : userId ≠ "") (body : UpdateSegmentRequest)
    (s : Segment) : updateWrite (some userId) body s
      = if body.isActive = none then .ok (.update s (updatedSegment body s))
        else .error unexpectedError := by
  rw [updateWrite, Option.getD_some]
  by_cases hactive : body.isActive = none
  · rw [if_neg (fun h => h.1 hactive), if_pos hactive]
  · rw [if_pos ⟨hactive, huser⟩, if_neg hactive]

lemma good_update {body : UpdateSegmentRequest} {s : Segment} (hactive : body.isActive = none)
    (hname : body.name = none → pyStrip s.name = s.name) :
    (SegmentWrite.update s (updatedSegment body s)).Good := by
  refine ⟨?_, ?_⟩
  · change pyStrip ((body.name.map pyStrip).getD s.name) = (body.name.map pyStrip).getD s.name
    cases hn : body.name with
    | none => exact hname hn
    | some name => exact pyStrip_pyStrip name
  · change body.isActive.getD s.isActive = s.isActive
    rw [hactive, Option.getD_none]

lemma good_create (newUlid tenantId userId : String) (body : CreateSegmentRequest) :
    (SegmentWrite.insert [newSegment newUlid tenantId userId body]).Good := by
  refine ⟨List.nodup_singleton _, fun n hn => ?_⟩
  rw [List.mem_singleton.mp hn]
  exact ⟨rfl, rfl, pyStrip_pyStrip _⟩

lemma map_tenantName_segmentRows (newUlid : ℕ → String) (tenantId userId : String)
    (body : BatchCreateSegmentsRequest) :
    (segmentRows newUlid tenantId userId body).map Segment.tenantName
      = body.segments.map fun item => (tenantId, pyStrip item.name) := by
  refine List.ext_getElem (by simp [segmentRows]) fun i hi hi' => ?_
  simp [segmentRows, newSegment, Segment.tenantName]

lemma good_batch {newUlid : ℕ → String} {tenantId userId : String}
    {body : BatchCreateSegmentsRequest} {rows : List Segment}
    (h : checkSegmentBatch lower tenantId body rows = .ok ()) :
    (SegmentWrite.insert (segmentRows newUlid tenantId userId body)).Good := by
  refine ⟨?_, fun n hn => ?_⟩
  · rw [checkSegmentBatch] at h
    split at h
    · cases h
    rename_i hnodup
    rw [map_tenantName_segmentRows]
    have hnames := List.Nodup.of_map lower (not_not.mp hnodup)
    have hpair : (body.segments.map fun item => (tenantId, pyStrip item.name))
        = (body.segments.map fun item => pyStrip item.name).map (Prod.mk tenantId) :=
      List.map_map.symm
    rw [hpair]
    exact hnames.map (Prod.mk_right_injective tenantId)
  · obtain ⟨i, hi, rfl⟩ := List.mem_mapIdx.mp hn
    exact ⟨rfl, rfl, pyStrip_pyStrip _⟩

section Update

variable {tenantId segmentId userId : String} {body : UpdateSegmentRequest}

lemma next_update_error {e : ECLException}
    (h : selectSegment tenantId segmentId db.rows = .error e) :
    SegmentCall.next ⟨.update tenantId segmentId userId body, .first⟩ db lower
      = SegmentCall.finish ⟨.update tenantId segmentId userId body, .first⟩ db (.error e) := by
  simp only [SegmentCall.next, SegmentCall.first, h]

lemma next_update_unnamed {s : Segment} (h : selectSegment tenantId segmentId db.rows = .ok s)
    (hname : body.name = none) :
    SegmentCall.next ⟨.update tenantId segmentId userId body, .first⟩ db lower
      = SegmentCall.proceed ⟨.update tenantId segmentId userId body, .first⟩ db
          (updateWrite (some userId) body s) := by
  simp only [SegmentCall.next, SegmentCall.first, h, hname]

lemma next_update_named {s : Segment} {name : String}
    (h : selectSegment tenantId segmentId db.rows = .ok s) (hname : body.name = some name) :
    SegmentCall.next ⟨.update tenantId segmentId userId body, .first⟩ db lower
      = (db, some ⟨.update tenantId segmentId userId body, .checkName name s⟩) := by
  simp only [SegmentCall.next, SegmentCall.first, h, hname]

end Update

/-- A request that ends with an error, or goes on with a good write, keeps everything. -/
lemma good_proceed (h : SegmentsGood db.rows) (hcall : call.request.SignedIn)
    {r : Except ECLException SegmentWrite} (hr : ∀ w, r = .ok w → w.Good) :
    SegmentsGood (call.proceed db r).1.rows ∧ ∀ call' ∈ (call.proceed db r).2, call'.Good := by
  cases r with
  | error e => exact ⟨h, fun call' hcall' => by cases hcall'⟩
  | ok w =>
      refine ⟨h, fun call' hcall' => ?_⟩
      obtain rfl := Option.some.inj hcall'
      exact ⟨hcall, hr w rfl⟩

/-- **What every statement keeps.** -/
lemma good_next (h : SegmentsGood db.rows) (hcall : call.Good) :
    SegmentsGood (call.next db lower).1.rows ∧ ∀ call' ∈ (call.next db lower).2, call'.Good := by
  classical
  obtain ⟨request, pc⟩ := call
  obtain ⟨hsigned, hpc⟩ := hcall
  cases pc with
  | first =>
      cases request with
      | create newUlid tenantId userId body =>
          refine good_proceed h hsigned fun w hw => ?_
          obtain ⟨_, -, hw⟩ := bind_eq_ok.mp hw
          exact Except.ok.inj hw ▸ good_create newUlid tenantId userId body
      | batch newUlid tenantId userId body =>
          refine good_proceed h hsigned fun w hw => ?_
          obtain ⟨_, hcheck, hw⟩ := bind_eq_ok.mp hw
          exact Except.ok.inj hw ▸ good_batch hcheck
      | update tenantId segmentId userId body =>
          cases hselect : selectSegment tenantId segmentId db.rows with
          | error e =>
              rw [next_update_error hselect]
              exact ⟨h, fun call' hcall' => by cases hcall'⟩
          | ok s =>
              cases hname : body.name with
              | none =>
                  rw [next_update_unnamed hselect hname]
                  refine good_proceed h hsigned fun w hw => ?_
                  -- an update without a name flushes what it has read, which is stripped already
                  rw [updateWrite_eq hsigned] at hw
                  split at hw
                  · rename_i hactive
                    obtain rfl := Except.ok.inj hw
                    refine good_update hactive fun _ => ?_
                    rw [selectSegment_eq h.ids] at hselect
                    split at hselect
                    · cases hselect
                    · rename_i s' hrow
                      obtain rfl := Except.ok.inj hselect
                      have hmem := (Option.filter_eq_some_iff.mp hrow).1
                      exact h.stripped _ ((liveRow?_eq_some h.ids).mp hmem).1
                  · cases hw
              | some name =>
                  rw [next_update_named hselect hname]
                  refine ⟨h, fun call' hcall' => ?_⟩
                  obtain rfl := Option.some.inj hcall'
                  exact ⟨hsigned, tenantId, segmentId, userId, body, rfl, hname⟩
      | delete now tenantId segmentId =>
          refine good_proceed h hsigned fun w hw => ?_
          obtain ⟨s, -, hw⟩ := bind_eq_ok.mp hw
          exact Except.ok.inj hw ▸ trivial
  | checkName name loaded =>
      obtain ⟨tenantId, segmentId, userId, body, rfl, hname⟩ := hpc
      refine good_proceed h hsigned fun w hw => ?_
      obtain ⟨_, -, hw⟩ := bind_eq_ok.mp hw
      rw [updateWrite_eq hsigned] at hw
      split at hw
      · rename_i hactive
        obtain rfl := Except.ok.inj hw
        exact good_update hactive fun hnone => by rw [hname] at hnone; cases hnone
      · cases hw
  | flush w =>
      refine ⟨?_, fun call' hcall' => by cases hcall'⟩
      change SegmentsGood ((w.flush db.rows).toOption.getD db.rows)
      rw [flush_eq h hpc]
      by_cases hfits : w.Fits db.rows
      · rw [if_pos hfits]
        exact good_apply h hpc hfits
      · rw [if_neg hfits]
        exact h

/-! ### Requests that end with an unknown exception -/

lemma endsUnexpectedly_proceed {r : Except ECLException SegmentWrite}
    (h : call.next db lower = call.proceed db r) :
    call.EndsUnexpectedly lower db ↔ r = .error unexpectedError := by
  rw [SegmentCall.EndsUnexpectedly, h]
  cases r with
  | error e =>
      change db.ended ++ [(call.request, Except.error e)] = _ ↔ _
      rw [List.append_right_inj, List.singleton_inj, Prod.mk.injEq, and_iff_right rfl,
        Except.error.injEq, Except.error.injEq]
  | ok w =>
      change db.ended = _ ↔ _
      exact iff_of_false (fun hsame => by simpa using congrArg List.length hsame) (by simp)

/-- The codes of a taken name and of an unknown exception. -/
lemma taken_ne_internal : "SEGMENT_NAME_TAKEN" ≠ "INTERNAL_ERROR" := by decide

lemma nameTaken_ne_unexpected (name : String) : segmentNameTaken name ≠ unexpectedError :=
  fun h => taken_ne_internal (congrArg ECLException.code h)

lemma notFound_ne_unexpected : segmentNotFound ≠ unexpectedError := by
  intro h
  exact absurd (congrArg ECLException.code h) (by decide)

lemma checkSegmentName_ne_unexpected (h : SegmentsGood db.rows) (tenantId name : String)
    (excludeId : Option String) :
    checkSegmentName tenantId name excludeId db.rows ≠ .error unexpectedError := by
  rw [checkSegmentName_eq h]
  split
  · exact fun hsame => nameTaken_ne_unexpected name (Except.error.inj hsame)
  · exact fun hsame => by cases hsame

lemma checkSegmentBatch_ne_unexpected (tenantId : String) (body : BatchCreateSegmentsRequest)
    (rows : List Segment) :
    checkSegmentBatch lower tenantId body rows ≠ .error unexpectedError := by
  intro h
  rw [checkSegmentBatch] at h
  split at h
  · exact absurd (congrArg ECLException.code (Except.error.inj h)) (by decide)
  · split at h
    · exact taken_ne_internal (congrArg ECLException.code (Except.error.inj h))
    · cases h

lemma selectSegment_ne_unexpected (h : SegmentsGood db.rows) (tenantId segmentId : String) :
    selectSegment tenantId segmentId db.rows ≠ .error unexpectedError := by
  rw [selectSegment_eq h.ids]
  split
  · exact fun hsame => notFound_ne_unexpected (Except.error.inj hsame)
  · exact fun hsame => by cases hsame

/-- A read that raises ends the reads. -/
lemma bind_eq_error {α β : Type} {x : Except ECLException α} {f : α → Except ECLException β}
    {e : ECLException} (hx : x ≠ .error e) :
    (x >>= f) = .error e ↔ ∃ a, x = .ok a ∧ f a = .error e := by
  cases x with
  | error e' =>
      refine iff_of_false (fun h => hx ?_) (by simp)
      exact congrArg Except.error (Except.error.inj h)
  | ok a => simp [bind, Except.bind]

lemma updateWrite_eq_error {userId : String} (huser : userId ≠ "") (body : UpdateSegmentRequest)
    (s : Segment) : updateWrite (some userId) body s = .error unexpectedError
      ↔ body.isActive ≠ none := by
  rw [updateWrite_eq huser]
  split
  · rename_i hactive
    exact iff_of_false (by simp) (not_not.mpr hactive)
  · rename_i hactive
    exact iff_of_true rfl hactive

/-- **The exact condition** for a request to end with an exception that no handler knows. -/
lemma endsUnexpectedly_iff (h : SegmentsGood db.rows) (hcall : call.Good) :
    call.EndsUnexpectedly lower db ↔ call.SetsActive db ∨ call.DoesNotFit db := by
  classical
  obtain ⟨request, pc⟩ := call
  obtain ⟨hsigned, hpc⟩ := hcall
  -- only a flush can meet what another request has taken since
  have hreads : ∀ pc', (∀ w, pc' ≠ .flush w) → ¬ SegmentCall.DoesNotFit db ⟨request, pc'⟩ := by
    rintro pc' hne ⟨w, hw, -⟩
    exact hne w hw
  cases pc with
  | first =>
      rw [or_iff_left (hreads _ fun w hw => by cases hw)]
      cases request with
      | create newUlid tenantId userId body =>
          rw [endsUnexpectedly_proceed rfl,
            bind_eq_error (checkSegmentName_ne_unexpected h tenantId body.name none)]
          exact iff_of_false (fun ⟨_, _, hok⟩ => by cases hok) id
      | batch newUlid tenantId userId body =>
          rw [endsUnexpectedly_proceed rfl,
            bind_eq_error (checkSegmentBatch_ne_unexpected tenantId body db.rows)]
          exact iff_of_false (fun ⟨_, _, hok⟩ => by cases hok) id
      | update tenantId segmentId userId body =>
          change _ ↔ body.name = none ∧ body.isActive ≠ none ∧
            ∃ s, selectSegment tenantId segmentId db.rows = .ok s
          cases hselect : selectSegment tenantId segmentId db.rows with
          | error e =>
              have hne : e ≠ unexpectedError := fun he =>
                selectSegment_ne_unexpected h tenantId segmentId (he ▸ hselect)
              rw [endsUnexpectedly_proceed (r := .error e) (next_update_error hselect)]
              exact iff_of_false (fun he => hne (Except.error.inj he)) (by simp)
          | ok s =>
              cases hname : body.name with
              | none =>
                  rw [endsUnexpectedly_proceed (next_update_unnamed hselect hname),
                    updateWrite_eq_error hsigned]
                  simp
              | some name =>
                  rw [SegmentCall.EndsUnexpectedly, next_update_named hselect hname]
                  exact iff_of_false (fun hsame => by simpa using congrArg List.length hsame)
                    (by simp)
      | delete now tenantId segmentId =>
          rw [endsUnexpectedly_proceed rfl,
            bind_eq_error (selectSegment_ne_unexpected h tenantId segmentId)]
          exact iff_of_false (fun ⟨_, _, hok⟩ => by cases hok) id
  | checkName name loaded =>
      rw [or_iff_left (hreads _ fun w hw => by cases hw)]
      obtain ⟨tenantId, segmentId, userId, body, rfl, hname⟩ := hpc
      rw [endsUnexpectedly_proceed rfl,
        bind_eq_error (checkSegmentName_ne_unexpected h tenantId name (some segmentId))]
      change _ ↔ body.isActive ≠ none ∧ _
      rw [checkSegmentName_eq h]
      constructor
      · rintro ⟨_, hcheck, hwrite⟩
        refine ⟨(updateWrite_eq_error hsigned body loaded).mp hwrite, fun htaken => ?_⟩
        rw [if_pos htaken] at hcheck
        cases hcheck
      · rintro ⟨hactive, hfree⟩
        exact ⟨(), if_neg hfree, (updateWrite_eq_error hsigned body loaded).mpr hactive⟩
  | flush w =>
      have hset : ¬ SegmentCall.SetsActive db ⟨request, .flush w⟩ := id
      have hfit : SegmentCall.DoesNotFit db ⟨request, .flush w⟩ ↔ ¬ w.Fits db.rows := by
        constructor
        · rintro ⟨w', hw, hnot⟩
          exact SegmentPc.flush.inj hw ▸ hnot
        · exact fun hnot => ⟨w, rfl, hnot⟩
      rw [or_iff_right hset, hfit, SegmentCall.EndsUnexpectedly]
      change db.ended ++ [(request, (w.flush db.rows).map fun _ => ())] = _ ↔ _
      rw [List.append_right_inj, List.singleton_inj, Prod.mk.injEq, and_iff_right rfl, flush_eq h hpc]
      by_cases hfits : w.Fits db.rows
      · rw [if_pos hfits]
        exact iff_of_false (fun hsame => by cases hsame) (not_not.mpr hfits)
      · rw [if_neg hfits]
        exact iff_of_true rfl hfits

/-- **Every order**: whatever the interleaving of the requests and whichever connections are lost,
the live names of a tenant stay distinct and stripped, no segment is ever switched off, and a
request ends with an unknown exception exactly if it is an update that sets `is_active`, or if
another request has taken what its flush needs since its reads. -/
theorem segments_every_order (h : SegmentsGood db.rows) {as : List (SharedAction SegmentRequest)}
    (hsigned : EachStep (segments lower).step (Service.Admits SegmentRequest.SignedIn)
      { db := db } as) :
    Always (segments lower).step (fun st => SegmentsGood st.db.rows) { db := db } as ∧
      EachStep (segments lower).step (fun st a => ∀ call, Service.Advances st a call →
        (call.EndsUnexpectedly lower st.db ↔ call.SetsActive st.db ∨ call.DoesNotFit st.db))
        { db := db } as := by
  have hkeeps : ∀ st a, Service.Inv (fun db => SegmentsGood db.rows) SegmentCall.Good st →
      Service.Admits SegmentRequest.SignedIn st a →
      Service.Inv (fun db => SegmentsGood db.rows) SegmentCall.Good ((segments lower).step st a) :=
    fun st a hst ha => Service.inv_step (S := segments lower) (fun request hr => ⟨hr, trivial⟩)
      (fun db call hdb hcall => good_next hdb hcall) hst ha
  have hstart : Service.Inv (fun db => SegmentsGood db.rows) SegmentCall.Good { db := db } :=
    ⟨h, fun call hcall => by cases hcall⟩
  refine ⟨fun bs hbs => ?_, ?_⟩
  · exact (always_of_eachStep hkeeps hstart hsigned bs hbs).1
  · refine eachStep_of_invariant hkeeps (fun st a hst _ call hcall => ?_) hstart hsigned
    exact endsUnexpectedly_iff hst.1 (hst.2 call hcall.mem)

end Order

/-- Two requests for one name that have both passed the check. -/
def twoCards : List (SharedAction SegmentRequest) :=
  let body : CreateSegmentRequest :=
    { name := " Cards", name_length := by decide, code_length := by simp }
  [.arrive (.create "01A" "t1" "u1" body), .arrive (.create "01B" "t1" "u2" body), .advance 0,
    .advance 1, .advance 0, .advance 0]

theorem segments_every_order_sample :
    Always (segments id).step (fun st => SegmentsGood st.db.rows) { db := {} } twoCards := by
  have hgood : SegmentsGood ({} : SegmentDb).rows := ⟨List.nodup_nil, nodupLive_nil, by simp, by simp⟩
  refine (segments_every_order hgood ?_).1
  refine ⟨?_, ?_, ?_, ?_, ?_, ?_, trivial⟩ <;> rintro r ⟨⟩ <;> exact trivial

/-! ### Requests that nobody interrupts -/

section Serial

variable {lower : String → String} {rows : List Segment} {db : SegmentDb}

/-- How a request ends after its reads. -/
def outcome (rows : List Segment) (r : Except ECLException SegmentWrite) :
    Except ECLException Unit × List Segment :=
  match r >>= fun w => w.flush rows with
  | .ok rows' => (.ok (), rows')
  | .error e => (.error e, rows)

/-- The table after a request, with its end on record. -/
def recorded (db : SegmentDb) (request : SegmentRequest)
    (r : Except ECLException Unit × List Segment) : SegmentDb :=
  { rows := r.2, ended := db.ended ++ [(request, r.1)] }

lemma finish_proceed {call : SegmentCall} {r : Except ECLException SegmentWrite} (n : ℕ)
    (h : call.next db lower = call.proceed db r) :
    (segments lower).finish (n + 2) db call = recorded db call.request (outcome db.rows r) := by
  have hnext : (segments lower).next db call = call.proceed db r := h
  rw [Service.finish, hnext]
  cases r with
  | error e => rfl
  | ok w =>
      change (segments lower).finish (n + 1) db { call with pc := .flush w } = _
      have hflush : (segments lower).next db { call with pc := .flush w }
          = SegmentCall.finish { call with pc := .flush w } db (w.flush db.rows) := rfl
      rw [Service.finish, hflush]
      cases hw : w.flush db.rows with
      | error e =>
          have hout : outcome db.rows (.ok w) = (.error e, db.rows) := by
            simp only [outcome, bind, Except.bind, hw]
          rw [hout]
          rfl
      | ok rows' =>
          have hout : outcome db.rows (.ok w) = (.ok (), rows') := by
            simp only [outcome, bind, Except.bind, hw]
          rw [hout]
          rfl

/-- The write of a request, from its reads of the table. -/
def segmentReads (lower : String → String) (rows : List Segment) :
    SegmentRequest → Except ECLException SegmentWrite
  | .create newUlid tenantId userId body => do
      checkSegmentName tenantId body.name none rows
      return .insert [newSegment newUlid tenantId userId body]
  | .batch newUlid tenantId userId body => do
      checkSegmentBatch lower tenantId body rows
      return .insert (segmentRows newUlid tenantId userId body)
  | .update tenantId segmentId userId body => do
      let s ← selectSegment tenantId segmentId rows
      checkNewName tenantId segmentId rows body.name
      updateWrite (some userId) body s
  | .delete now tenantId segmentId => do
      let s ← selectSegment tenantId segmentId rows
      return .delete s now

lemma exec_flushSegments (w : SegmentWrite) : Tx.exec (flushSegments w) rows
    = match w.flush rows with
      | .ok rows' => (.ok (), rows')
      | .error e => (.error e, rows) := by
  rw [flushSegments, Tx.exec_get_bind, Tx.exec_bind, Tx.exec_liftM]
  cases w.flush rows <;> rfl

/-- **A request's transaction** reads, and writes what its reads say. -/
lemma commit_segmentEndpoint (request : SegmentRequest) :
    Tx.commit (segmentEndpoint lower request) rows
      = outcome rows (segmentReads lower rows request) := by
  have hwrite : ∀ w, Tx.commit (flushSegments w) rows = outcome rows (.ok w) := by
    intro w
    rw [Tx.commit, exec_flushSegments, outcome]
    cases hw : w.flush rows with
    | error e => simp only [bind, Except.bind, hw]
    | ok rows' => simp only [bind, Except.bind, hw]
  have hexec : Tx.exec (segmentEndpoint lower request) rows
      = Tx.exec (liftM (segmentReads lower rows request) >>= flushSegments) rows := by
    cases request with
    | create newUlid tenantId userId body =>
        rw [segmentEndpoint, createSegment, Tx.exec_get_bind, Tx.exec_bind, Tx.exec_liftM,
          Tx.exec_bind, Tx.exec_liftM, segmentReads]
        cases checkSegmentName tenantId body.name none rows <;> rfl
    | batch newUlid tenantId userId body =>
        rw [segmentEndpoint, batchCreateSegments, Tx.exec_get_bind, Tx.exec_bind, Tx.exec_liftM,
          Tx.exec_bind, Tx.exec_liftM, segmentReads]
        cases checkSegmentBatch lower tenantId body rows <;> rfl
    | update tenantId segmentId userId body =>
        rw [segmentEndpoint, updateSegment, Tx.exec_get_bind, Tx.exec_bind, Tx.exec_liftM,
          segmentReads]
        cases selectSegment tenantId segmentId rows with
        | error e => rfl
        | ok s =>
            simp only
            rw [Tx.exec_bind, Tx.exec_liftM]
            cases checkNewName tenantId segmentId rows body.name <;> rfl
    | delete now tenantId segmentId =>
        rw [segmentEndpoint, deleteSegment, Tx.exec_get_bind, Tx.exec_bind, Tx.exec_liftM,
          Tx.exec_bind, Tx.exec_liftM, segmentReads]
        cases selectSegment tenantId segmentId rows <;> rfl
  rw [Tx.commit, hexec, Tx.exec_bind, Tx.exec_liftM]
  cases segmentReads lower rows request with
  | error e => rfl
  | ok w => exact hwrite w

/-- **A request that nobody interrupts** is the service in its transaction. -/
lemma serve_segments (request : SegmentRequest) :
    (segments lower).serve 3 db request
      = recorded db request (Tx.commit (segmentEndpoint lower request) db.rows) := by
  rw [commit_segmentEndpoint, Service.serve]
  cases request with
  | create newUlid tenantId userId body => exact finish_proceed 1 rfl
  | batch newUlid tenantId userId body => exact finish_proceed 1 rfl
  | delete now tenantId segmentId => exact finish_proceed 1 rfl
  | update tenantId segmentId userId body =>
      change (segments lower).finish 3 db ⟨.update tenantId segmentId userId body, .first⟩ = _
      rw [segmentReads]
      cases hselect : selectSegment tenantId segmentId db.rows with
      | error e =>
          have hnext : SegmentCall.next ⟨.update tenantId segmentId userId body, .first⟩ db lower
              = SegmentCall.finish ⟨.update tenantId segmentId userId body, .first⟩ db (.error e) :=
            next_update_error hselect
          have hstep : (segments lower).next db ⟨.update tenantId segmentId userId body, .first⟩
              = SegmentCall.finish ⟨.update tenantId segmentId userId body, .first⟩ db (.error e) :=
            hnext
          rw [Service.finish, hstep]
          rfl
      | ok s =>
          cases hname : body.name with
          | none => exact finish_proceed 1 (next_update_unnamed hselect hname)
          | some name =>
              have hnext : SegmentCall.next ⟨.update tenantId segmentId userId body, .first⟩ db lower
                  = (db, some ⟨.update tenantId segmentId userId body, .checkName name s⟩) :=
                next_update_named hselect hname
              have hstep : (segments lower).next db ⟨.update tenantId segmentId userId body, .first⟩
                  = (db, some ⟨.update tenantId segmentId userId body, .checkName name s⟩) := hnext
              rw [Service.finish, hstep]
              exact finish_proceed 0 rfl

lemma eq_of_mem_proceed {call call' : SegmentCall} {r : Except ECLException SegmentWrite}
    (h : call' ∈ (call.proceed db r).2) : ∃ w, call' = { call with pc := .flush w } := by
  cases r with
  | error e => cases h
  | ok w => exact ⟨w, (Option.some.inj h).symm⟩

lemma endsWithin_flush (n : ℕ) (request : SegmentRequest) (w : SegmentWrite) :
    (segments lower).EndsWithin (n + 1) ⟨request, .flush w⟩ := by
  intro db call' hcall'
  cases hcall'

/-- A request takes three statements at most. -/
lemma endsWithin_segments (request : SegmentRequest) :
    (segments lower).EndsWithin 3 ((segments lower).start request) := by
  intro db call' hcall'
  have hproceed : ∀ n call r, call' ∈ (SegmentCall.proceed call db r).2 →
      (segments lower).EndsWithin (n + 1) call' := by
    intro n call r h
    obtain ⟨w, rfl⟩ := eq_of_mem_proceed h
    exact endsWithin_flush n call.request w
  cases request with
  | create newUlid tenantId userId body => exact hproceed 1 _ _ hcall'
  | batch newUlid tenantId userId body => exact hproceed 1 _ _ hcall'
  | delete now tenantId segmentId => exact hproceed 1 _ _ hcall'
  | update tenantId segmentId userId body =>
      change call' ∈ (SegmentCall.next ⟨.update tenantId segmentId userId body, .first⟩ db
        lower).2 at hcall'
      cases hselect : selectSegment tenantId segmentId db.rows with
      | error e =>
          rw [next_update_error hselect] at hcall'
          cases hcall'
      | ok s =>
          cases hname : body.name with
          | none =>
              rw [next_update_unnamed hselect hname] at hcall'
              exact hproceed 1 _ _ hcall'
          | some name =>
              rw [next_update_named hselect hname] at hcall'
              obtain rfl := Option.some.inj hcall'
              intro db' call'' hcall''
              obtain ⟨w, rfl⟩ := eq_of_mem_proceed hcall''
              exact endsWithin_flush 0 _ w

end Serial

end EclServer.Tenants
