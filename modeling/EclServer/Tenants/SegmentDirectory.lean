import EclServer.Tenants.Segments

/-!
What the segments table is for: for each tenant a directory of segments with distinct names.

* `Directory`, `Directory.step`: the abstract store, and what a request does to it.
* `RefinesDirectory`: the table shows the directory. `served_request`: one request.
* `segments_refine`: requests one after the other do to the table what they do to the directory.
-/

namespace EclServer.Tenants

open EclServer.Library EclServer.Auth

structure SegmentEntry where
  name : String
  code : Option String
  deriving DecidableEq

/-- For each tenant the segments by their ids, and the code of the error, if any, that each request
ended with. -/
structure Directory where
  entries : String → String → Option SegmentEntry := fun _ _ => none
  ended : List (SegmentRequest × Option String) := []

namespace Directory

variable (d : Directory)

def Taken (tenantId name : String) (excludeId : Option String) : Prop :=
  ∃ i e, d.entries tenantId i = some e ∧ e.name = name ∧ some i ≠ excludeId

def refuse (request : SegmentRequest) (code : String) : Directory :=
  { d with ended := d.ended ++ [(request, some code)] }

def accept (request : SegmentRequest) (entries : String → String → Option SegmentEntry) :
    Directory :=
  { entries := entries, ended := d.ended ++ [(request, none)] }

/-- The segments of one tenant change at one id. -/
def put (tenantId segmentId : String) (e : Option SegmentEntry) :
    String → String → Option SegmentEntry :=
  fun t i => if t = tenantId ∧ i = segmentId then e else d.entries t i

/-- An entry after an update. -/
def edited (body : UpdateSegmentRequest) (e : SegmentEntry) : SegmentEntry where
  name := (body.name.map pyStrip).getD e.name
  code := (body.code.map fun c => if pyStrip c = "" then none else some (pyStrip c)).getD e.code

/-- The entries of a batch. -/
def ofBatch (newUlid : ℕ → String) (body : BatchCreateSegmentsRequest) (i : String) :
    Option SegmentEntry :=
  ((body.segments.mapIdx fun n item => (newUlid n, item)).find? fun p => p.1 = i).map fun p =>
    ⟨pyStrip p.2.name, segmentCode p.2.code⟩

open Classical in
/-- A request: names are distinct within a tenant, ids lead to their own tenant's segments only. -/
noncomputable def step (lower : String → String) (d : Directory) (request : SegmentRequest) :
    Directory :=
  match request with
  | .create newUlid tenantId _ body =>
      if d.Taken tenantId (pyStrip body.name) none then d.refuse request "SEGMENT_NAME_TAKEN"
      else d.accept request
        (d.put tenantId newUlid (some ⟨pyStrip body.name, segmentCode body.code⟩))
  | .batch newUlid tenantId _ body =>
      if ¬ ((body.segments.map fun item => pyStrip item.name).map lower).Nodup then
        d.refuse request "DUPLICATE_NAMES"
      else if ∃ item ∈ body.segments, d.Taken tenantId (pyStrip item.name) none then
        d.refuse request "SEGMENT_NAME_TAKEN"
      else d.accept request fun t i =>
        if t = tenantId then (d.entries t i).or (ofBatch newUlid body i) else d.entries t i
  | .update tenantId segmentId _ body =>
      match d.entries tenantId segmentId with
      | none => d.refuse request "RESOURCE_NOT_FOUND"
      | some e =>
          if ∃ name ∈ body.name, d.Taken tenantId (pyStrip name) (some segmentId) then
            d.refuse request "SEGMENT_NAME_TAKEN"
          else if body.isActive ≠ none then d.refuse request "INTERNAL_ERROR"
          else d.accept request (d.put tenantId segmentId (some (edited body e)))
  | .delete _ tenantId segmentId =>
      match d.entries tenantId segmentId with
      | none => d.refuse request "RESOURCE_NOT_FOUND"
      | some _ => d.accept request (d.put tenantId segmentId none)

end Directory

/-- The row as the directory shows it. -/
def Segment.entry (s : Segment) : SegmentEntry := ⟨s.name, s.code⟩

/-- The code of the error a request ended with. -/
def errorCode : Except ECLException Unit → Option String
  | .ok _ => none
  | .error e => some e.code

/-- The directory that the table stores. -/
def shownEntry (rows : List Segment) (tenantId segmentId : String) : Option SegmentEntry :=
  ((liveRow? Segment.isLive Segment.id rows segmentId).filter fun s => s.tenantId = tenantId).map
    Segment.entry

/-- How a request ended, as the directory shows it. -/
def shownEnd (e : SegmentRequest × Except ECLException Unit) : SegmentRequest × Option String :=
  (e.1, errorCode e.2)

structure RefinesDirectory (d : Directory) (db : SegmentDb) : Prop where
  entries : ∀ t i, d.entries t i = shownEntry db.rows t i
  ended : d.ended = db.ended.map shownEnd

/-- The ids that a request draws. -/
def SegmentRequest.drawn : SegmentRequest → List String
  | .create newUlid _ _ _ => [newUlid]
  | .batch newUlid _ _ body => body.segments.mapIdx fun i _ => newUlid i
  | _ => []

section Refinement

variable {lower : String → String} {rows : List Segment} {db : SegmentDb} {d : Directory}
  {tenantId segmentId : String}

lemma shownEntry_eq_some (hids : (rows.map (·.id)).Nodup) {e : SegmentEntry} :
    shownEntry rows tenantId segmentId = some e ↔ ∃ s ∈ rows, s.id = segmentId ∧
      s.isLive = true ∧ s.tenantId = tenantId ∧ s.entry = e := by
  rw [shownEntry, Option.map_eq_some_iff]
  constructor
  · rintro ⟨s, hs, rfl⟩
    obtain ⟨hrow, htenant⟩ := Option.filter_eq_some_iff.mp hs
    obtain ⟨hmem, hid, hlive⟩ := (liveRow?_eq_some hids).mp hrow
    exact ⟨s, hmem, hid, hlive, of_decide_eq_true htenant, rfl⟩
  · rintro ⟨s, hmem, hid, hlive, htenant, rfl⟩
    refine ⟨s, Option.filter_eq_some_iff.mpr ⟨?_, decide_eq_true htenant⟩, rfl⟩
    exact (liveRow?_eq_some hids).mpr ⟨hmem, hid, hlive⟩

/-- The names that are taken are those the directory shows. -/
lemma taken_iff (h : RefinesDirectory d db) (hids : (db.rows.map (·.id)).Nodup) {name : String}
    {excludeId : Option String} :
    d.Taken tenantId name excludeId ↔ NameTaken db.rows tenantId name excludeId := by
  constructor
  · rintro ⟨i, e, hentry, hname, hne⟩
    rw [h.entries] at hentry
    obtain ⟨s, hmem, hid, hlive, ht, rfl⟩ := (shownEntry_eq_some hids).mp hentry
    exact ⟨s, hmem, ⟨ht, hlive⟩, hname, hid ▸ hne⟩
  · rintro ⟨s, hmem, ⟨ht, hlive⟩, hname, hne⟩
    refine ⟨s.id, s.entry, ?_, hname, hne⟩
    rw [h.entries]
    exact (shownEntry_eq_some hids).mpr ⟨s, hmem, rfl, hlive, ht, rfl⟩

/-- The row a request is about, against the directory. -/
lemma selectSegment_cases (h : RefinesDirectory d db) (hids : (db.rows.map (·.id)).Nodup)
    (tenantId segmentId : String) :
    (d.entries tenantId segmentId = none ∧
        selectSegment tenantId segmentId db.rows = .error segmentNotFound) ∨
      ∃ s ∈ db.rows, s.id = segmentId ∧ s.isLive = true ∧ s.tenantId = tenantId ∧
        d.entries tenantId segmentId = some s.entry ∧
        selectSegment tenantId segmentId db.rows = .ok s := by
  rw [h.entries, selectSegment_eq hids, shownEntry]
  cases hrow : (liveRow? Segment.isLive Segment.id db.rows segmentId).filter
      fun s => s.tenantId = tenantId with
  | none => exact Or.inl ⟨rfl, rfl⟩
  | some s =>
      obtain ⟨hlive, htenant⟩ := Option.filter_eq_some_iff.mp hrow
      obtain ⟨hmem, hid, hlive⟩ := (liveRow?_eq_some hids).mp hlive
      exact Or.inr ⟨s, hmem, hid, hlive, of_decide_eq_true htenant, rfl, rfl⟩

/-- A request that is refused, in the table and in the directory. -/
lemma refines_refused (h : RefinesDirectory d db) (request : SegmentRequest) (e : ECLException) :
    RefinesDirectory (d.refuse request e.code) (recorded db request (.error e, db.rows)) := by
  refine ⟨h.entries, ?_⟩
  change d.ended ++ [(request, some e.code)]
    = (db.ended ++ [(request, Except.error e)]).map shownEnd
  rw [h.ended, List.map_append]
  rfl

lemma refines_accepted (h : RefinesDirectory d db) (request : SegmentRequest)
    {entries : String → String → Option SegmentEntry} {rows' : List Segment}
    (hentries : ∀ t i, entries t i = shownEntry rows' t i) :
    RefinesDirectory (d.accept request entries) (recorded db request (.ok (), rows')) := by
  refine ⟨hentries, ?_⟩
  change d.ended ++ [(request, none)]
    = (db.ended ++ [(request, Except.ok ())]).map shownEnd
  rw [h.ended, List.map_append]
  rfl

/-- New rows beside the old ones. -/
lemma shownEntry_append {new : List Segment} (hlive : ∀ n ∈ new, n.isLive = true)
    (htenant : ∀ n ∈ new, n.tenantId = tenantId) (hfresh : ∀ n ∈ new, n.id ∉ rows.map (·.id))
    (t i : String) : shownEntry (rows ++ new) t i
      = if t = tenantId then
          (shownEntry rows t i).or ((new.find? fun n => n.id = i).map Segment.entry)
        else shownEntry rows t i := by
  have hnew : liveRow? Segment.isLive Segment.id new i = new.find? fun n => n.id = i := by
    rw [liveRow?]
    cases hfind : new.find? fun n => n.id = i with
    | none => rfl
    | some n => exact Option.filter_some_pos (hlive n (List.mem_of_find?_eq_some hfind))
  rw [shownEntry, liveRow?_append i hfresh, hnew]
  cases hfind : new.find? fun n => n.id = i with
  | none =>
      rw [Option.or_none, Option.map_none, Option.or_none, ite_self]
      rfl
  | some n =>
      have hn := List.mem_of_find?_eq_some hfind
      have hid : n.id = i := id_of_find? hfind
      have hold : liveRow? Segment.isLive Segment.id rows i = none := by
        rw [liveRow?, Option.filter_eq_none_iff]
        intro s hs
        refine absurd ?_ (hfresh n hn)
        rw [hid, ← id_of_find? hs]
        exact List.mem_map_of_mem (List.mem_of_find?_eq_some hs)
      rw [shownEntry, hold, Option.none_or, Option.filter_none, Option.map_none, Option.none_or,
        Option.map_some]
      by_cases ht : t = tenantId
      · rw [if_pos ht, Option.filter_some_pos]
        · rfl
        · exact decide_eq_true ((htenant n hn).trans ht.symm)
      · rw [if_neg ht, Option.filter_some_neg]
        · rfl
        · exact decide_eq_false fun hsame => ht (hsame.symm.trans (htenant n hn))

lemma shownEntry_fresh (h : segmentId ∉ rows.map (·.id)) :
    shownEntry rows tenantId segmentId = none := by
  have hnone : (rows.find? fun s => s.id = segmentId) = none := by
    rw [List.find?_eq_none]
    intro s hs hid
    exact h (of_decide_eq_true hid ▸ List.mem_map_of_mem hs)
  rw [shownEntry, liveRow?, hnone]
  rfl

/-- A write to one row. -/
lemma shownEntry_update (hids : (rows.map (·.id)).Nodup) {s : Segment} (hs : s ∈ rows)
    {f : Segment → Segment} (hid : ∀ r, (f r).id = r.id) (htenant : (f s).tenantId = s.tenantId)
    (t i : String) : shownEntry (updateByKey Segment.id s.id f rows) t i
      = if t = s.tenantId ∧ i = s.id then
          if (f s).isLive = true then some (f s).entry else none
        else shownEntry rows t i := by
  rw [shownEntry, liveRow?_updateByKey hid, find?_key_eq Segment.id hids hs, Option.map_some]
  by_cases hi : i = s.id
  · rw [if_pos hi]
    by_cases ht : t = s.tenantId
    · rw [if_pos ⟨ht, hi⟩]
      by_cases hlive : (f s).isLive = true
      · rw [if_pos hlive, Option.filter_some_pos hlive, Option.filter_some_pos]
        · rfl
        · exact decide_eq_true (htenant.trans ht.symm)
      · rw [if_neg hlive, Option.filter_some_neg (Bool.eq_false_of_not_eq_true hlive)]
        rfl
    · -- the id is that of another tenant's row, before the write and after it
      have hold : shownEntry rows t i = none := by
        rw [← Option.not_isSome_iff_eq_none, Option.isSome_iff_exists]
        rintro ⟨e, he⟩
        obtain ⟨r, hr, hrid, -, hrt, -⟩ := (shownEntry_eq_some hids).mp he
        obtain rfl : r = s := List.inj_on_of_nodup_map hids hr hs (hrid.trans hi)
        exact ht hrt.symm
      rw [if_neg fun hboth => ht hboth.1, hold]
      cases hrow : (some (f s)).filter Segment.isLive with
      | none => rfl
      | some r =>
          obtain ⟨hr, -⟩ := Option.filter_eq_some_iff.mp hrow
          obtain rfl := Option.some.inj hr
          rw [Option.filter_some_neg]
          · rfl
          · exact decide_eq_false fun hsame => ht (hsame.symm.trans htenant)
  · rw [if_neg hi, if_neg (fun hboth => hi hboth.2)]
    rfl

/-- A write that fits is made. -/
lemma outcome_ok {w : SegmentWrite} (hgood : SegmentsGood rows) (hw : w.Good)
    (hfits : w.Fits rows) : outcome rows (.ok w) = (.ok (), w.apply rows) := by
  classical
  have hflush : w.flush rows = .ok (w.apply rows) := by rw [flush_eq hgood hw, if_pos hfits]
  simp only [outcome, bind, Except.bind, hflush]

/-- What one request leaves: the directory's answer, a good table and no id but those drawn. -/
def Served (lower : String → String) (d : Directory) (db : SegmentDb) (request : SegmentRequest)
    (r : Except ECLException Unit × List Segment) : Prop :=
  SegmentsGood r.2 ∧ RefinesDirectory (d.step lower request) (recorded db request r) ∧
    ∃ added, r.2.map (·.id) = db.rows.map (·.id) ++ added ∧ added.Sublist request.drawn

/-- A refused request changes nothing. -/
lemma served_refused (hgood : SegmentsGood db.rows) (h : RefinesDirectory d db)
    {request : SegmentRequest} {e : ECLException}
    (hstep : d.step lower request = d.refuse request e.code) :
    Served lower d db request (outcome db.rows (.error e)) := by
  refine ⟨hgood, ?_, [], by rw [List.append_nil]; rfl, List.nil_sublist _⟩
  rw [hstep]
  exact refines_refused h request e

lemma served_create (hgood : SegmentsGood db.rows) (h : RefinesDirectory d db)
    {newUlid userId : String} {body : CreateSegmentRequest}
    (hfresh : newUlid ∉ db.rows.map (·.id)) :
    Served lower d db (.create newUlid tenantId userId body)
      (outcome db.rows (segmentReads lower db.rows (.create newUlid tenantId userId body))) := by
  rw [segmentReads, checkSegmentName_eq hgood]
  by_cases htaken : NameTaken db.rows tenantId (pyStrip body.name) none
  · rw [if_pos htaken]
    refine served_refused hgood h ?_
    rw [Directory.step, if_pos ((taken_iff h hgood.ids).mpr htaken)]
    rfl
  · rw [if_neg htaken]
    have hw := good_create newUlid tenantId userId body
    -- a name that is free of live rows is one that the index admits
    have hfits : (SegmentWrite.insert [newSegment newUlid tenantId userId body]).Fits db.rows := by
      refine ⟨List.nodup_singleton _, fun n hn => ?_⟩
      rw [List.mem_singleton.mp hn]
      exact ⟨hfresh, htaken⟩
    change Served lower d db _ (outcome db.rows (.ok _))
    rw [outcome_ok hgood hw hfits]
    refine ⟨good_apply hgood hw hfits, ?_, [newUlid], ?_, List.Sublist.refl _⟩
    · rw [Directory.step, if_neg fun ht => htaken ((taken_iff h hgood.ids).mp ht)]
      refine refines_accepted h _ fun t i => ?_
      have htenant : ∀ n ∈ [newSegment newUlid tenantId userId body], n.tenantId = tenantId := by
        intro n hn
        rw [List.mem_singleton.mp hn]
        rfl
      rw [SegmentWrite.apply, shownEntry_append (fun n hn => (hw.2 n hn).1) htenant
        (fun n hn => (hfits.2 n hn).1) t i, Directory.put, h.entries]
      by_cases ht : t = tenantId
      · rw [if_pos ht]
        by_cases hi : i = newUlid
        · rw [if_pos ⟨ht, hi⟩, hi, shownEntry_fresh hfresh, Option.none_or,
            List.find?_cons_of_pos (by simp [newSegment])]
          rfl
        · rw [if_neg fun hboth => hi hboth.2,
            List.find?_cons_of_neg fun hsame => hi (of_decide_eq_true hsame).symm, List.find?_nil,
            Option.map_none, Option.or_none]
      · rw [if_neg ht, if_neg fun hboth => ht hboth.1]
    · rw [SegmentWrite.apply, List.map_append]
      rfl

lemma map_of_mapIdx {α β γ : Type} (f : ℕ → α → β) (g : β → γ) (l : List α) :
    (l.mapIdx f).map g = l.mapIdx fun i a => g (f i a) :=
  List.ext_getElem (by simp) fun i hi hi' => by simp

/-- The batch of the table, as the directory shows it. -/
lemma find?_segmentRows (newUlid : ℕ → String) (tenantId userId : String)
    (body : BatchCreateSegmentsRequest) (i : String) :
    ((segmentRows newUlid tenantId userId body).find? fun n => n.id = i).map Segment.entry
      = Directory.ofBatch newUlid body i := by
  have hrows : segmentRows newUlid tenantId userId body
      = (body.segments.mapIdx fun n item => (newUlid n, item)).map fun p =>
          newSegment p.1 tenantId userId p.2 := by
    rw [segmentRows, map_of_mapIdx]
  rw [hrows, List.find?_map, Directory.ofBatch, Option.map_map]
  rfl

lemma ids_segmentRows (newUlid : ℕ → String) (userId : String) (body : BatchCreateSegmentsRequest) :
    (segmentRows newUlid tenantId userId body).map (·.id)
      = body.segments.mapIdx fun i _ => newUlid i := by
  rw [segmentRows, map_of_mapIdx]
  rfl

lemma tenantId_segmentRows {newUlid : ℕ → String} {userId : String}
    {body : BatchCreateSegmentsRequest} :
    ∀ n ∈ segmentRows newUlid tenantId userId body, n.tenantId = tenantId := by
  intro n hn
  obtain ⟨i, hi, rfl⟩ := List.mem_mapIdx.mp hn
  rfl

/-- Some live row of the tenant has one of the names. -/
lemma checkSegmentBatch_of_taken {body : BatchCreateSegmentsRequest}
    (hnodup : ((body.segments.map fun item => pyStrip item.name).map lower).Nodup)
    (htaken : ∃ item ∈ body.segments, NameTaken rows tenantId (pyStrip item.name) none) :
    ∃ taken, checkSegmentBatch lower tenantId body rows = .error (segmentNamesTaken taken) := by
  refine ⟨((liveSegments tenantId rows).map (·.name)).filter fun name =>
    name ∈ body.segments.map fun item => pyStrip item.name, ?_⟩
  rw [checkSegmentBatch, if_neg (not_not.mpr hnodup), if_pos]
  obtain ⟨item, hitem, s, hs, ⟨ht, hlive⟩, hname, -⟩ := htaken
  have hlisted : s.name ∈ (liveSegments tenantId rows).map (·.name) :=
    List.mem_map_of_mem (mem_liveSegments.mpr ⟨hs, ht, hlive⟩)
  have hasked : s.name ∈ body.segments.map fun item => pyStrip item.name :=
    List.mem_map.mpr ⟨item, hitem, hname.symm⟩
  exact List.ne_nil_of_mem (List.mem_filter.mpr ⟨hlisted, decide_eq_true hasked⟩)

lemma checkSegmentBatch_of_free {body : BatchCreateSegmentsRequest}
    (hnodup : ((body.segments.map fun item => pyStrip item.name).map lower).Nodup)
    (hfree : ¬ ∃ item ∈ body.segments, NameTaken rows tenantId (pyStrip item.name) none) :
    checkSegmentBatch lower tenantId body rows = .ok () := by
  rw [checkSegmentBatch, if_neg (not_not.mpr hnodup), if_neg]
  rw [not_not, List.filter_eq_nil_iff]
  intro name hname hmem
  obtain ⟨s, hs, rfl⟩ := List.mem_map.mp hname
  obtain ⟨hs, ht, hlive⟩ := mem_liveSegments.mp hs
  obtain ⟨item, hitem, heq⟩ := List.mem_map.mp (of_decide_eq_true hmem)
  exact hfree ⟨item, hitem, s, hs, ⟨ht, hlive⟩, heq.symm, by simp⟩

lemma served_batch (hgood : SegmentsGood db.rows) (h : RefinesDirectory d db)
    {newUlid : ℕ → String} {userId : String} {body : BatchCreateSegmentsRequest}
    (hdrawn : (body.segments.mapIdx fun i _ => newUlid i).Nodup)
    (hfresh : ∀ i ∈ body.segments.mapIdx fun i _ => newUlid i, i ∉ db.rows.map (·.id)) :
    Served lower d db (.batch newUlid tenantId userId body)
      (outcome db.rows (segmentReads lower db.rows (.batch newUlid tenantId userId body))) := by
  rw [segmentReads]
  by_cases hnodup : ((body.segments.map fun item => pyStrip item.name).map lower).Nodup
  · by_cases htaken : ∃ item ∈ body.segments, NameTaken db.rows tenantId (pyStrip item.name) none
    · obtain ⟨taken, hcheck⟩ := checkSegmentBatch_of_taken hnodup htaken
      rw [hcheck]
      refine served_refused hgood h ?_
      rw [Directory.step, if_neg (not_not.mpr hnodup), if_pos]
      · rfl
      · obtain ⟨item, hitem, ht⟩ := htaken
        exact ⟨item, hitem, (taken_iff h hgood.ids).mpr ht⟩
    · have hcheck : checkSegmentBatch lower tenantId body db.rows = .ok () :=
        checkSegmentBatch_of_free hnodup htaken
      have hids : (segmentRows newUlid tenantId userId body).map (·.id)
          = body.segments.mapIdx fun i _ => newUlid i := ids_segmentRows newUlid userId body
      have hw : (SegmentWrite.insert (segmentRows newUlid tenantId userId body)).Good :=
        good_batch hcheck
      -- the names are apart and free, and so the index admits all rows at once
      have hfits : (SegmentWrite.insert (segmentRows newUlid tenantId userId body)).Fits db.rows := by
        refine ⟨hids ▸ hdrawn, fun n hn => ⟨hfresh _ (hids ▸ List.mem_map_of_mem hn), ?_⟩⟩
        rw [tenantId_segmentRows n hn]
        obtain ⟨i, hi, rfl⟩ := List.mem_mapIdx.mp hn
        exact fun ht => htaken ⟨_, List.getElem_mem hi, ht⟩
      rw [hcheck]
      change Served lower d db _ (outcome db.rows (.ok _))
      rw [outcome_ok hgood hw hfits]
      refine ⟨good_apply hgood hw hfits, ?_, (segmentRows newUlid tenantId userId body).map (·.id),
        List.map_append, hids ▸ List.Sublist.refl _⟩
      rw [Directory.step, if_neg (not_not.mpr hnodup), if_neg]
      · refine refines_accepted h _ fun t i => ?_
        rw [SegmentWrite.apply, shownEntry_append (fun n hn => (hw.2 n hn).1) tenantId_segmentRows
          (fun n hn => (hfits.2 n hn).1) t i, find?_segmentRows, h.entries]
      · rintro ⟨item, hitem, ht⟩
        exact htaken ⟨item, hitem, (taken_iff h hgood.ids).mp ht⟩
  · have hcheck : checkSegmentBatch lower tenantId body db.rows = .error duplicateSegmentNames := by
      rw [checkSegmentBatch, if_pos hnodup]
    rw [hcheck]
    refine served_refused hgood h ?_
    rw [Directory.step, if_pos hnodup]
    rfl

/-- An update of a loaded row writes what it holds in the session. -/
lemma writeRow_self (new s : Segment) : SegmentWrite.writeRow s new s
    = { s with name := new.name, code := new.code, isActive := new.isActive } := by
  have hchanged : ∀ {α : Type} [DecidableEq α] (a b : α), changed a b a = b := by
    intro α _ a b
    rw [changed]
    split
    · rename_i hsame
      exact hsame.symm
    · rfl
  rw [SegmentWrite.writeRow, hchanged, hchanged, hchanged]

lemma checkNewName_of_free (hgood : SegmentsGood rows) {name : Option String}
    (hfree : ¬ ∃ n ∈ name, NameTaken rows tenantId (pyStrip n) (some segmentId)) :
    checkNewName tenantId segmentId rows name = .ok () := by
  cases name with
  | none => rfl
  | some n =>
      rw [checkNewName, checkSegmentName_eq hgood, if_neg]
      exact fun ht => hfree ⟨n, rfl, ht⟩

/-- What the check of an update lets through fits the index. -/
lemma fits_update (hgood : SegmentsGood rows) {s : Segment} (hs : s ∈ rows)
    {body : UpdateSegmentRequest}
    (hfree : ¬ ∃ name ∈ body.name, NameTaken rows s.tenantId (pyStrip name) (some s.id)) :
    (SegmentWrite.update s (updatedSegment body s)).Fits rows := by
  intro r hr hid hrlive
  obtain rfl : r = s := List.inj_on_of_nodup_map hgood.ids hr hs hid
  rintro ⟨q, hq, ⟨hqt, hqlive⟩, hqname, hne⟩
  rw [changed] at hqname
  split at hqname
  · refine hne (congrArg (fun s => some s.id) (hgood.names.eq_of_key hq hr hqlive hrlive ?_))
    rw [Segment.tenantName, Segment.tenantName, hqt, hqname]
  · rename_i hchanged
    cases hname : body.name with
    | none => exact hchanged (by rw [updatedSegment, hname]; rfl)
    | some name =>
        have hnew : (updatedSegment body r).name = pyStrip name := by
          rw [updatedSegment, hname]
          rfl
        exact hfree ⟨name, hname, q, hq, ⟨hqt, hqlive⟩, hqname.trans hnew, hne⟩

lemma served_update (hgood : SegmentsGood db.rows) (h : RefinesDirectory d db) {userId : String}
    (huser : userId ≠ "") {body : UpdateSegmentRequest} :
    Served lower d db (.update tenantId segmentId userId body)
      (outcome db.rows (segmentReads lower db.rows (.update tenantId segmentId userId body))) := by
  rw [segmentReads]
  rcases selectSegment_cases h hgood.ids tenantId segmentId with
    ⟨hnone, hselect⟩ | ⟨s, hs, rfl, hlive, rfl, hentry, hselect⟩
  · rw [hselect]
    refine served_refused hgood h ?_
    rw [Directory.step, hnone]
    rfl
  rw [hselect]
  change Served lower d db _ (outcome db.rows (checkNewName s.tenantId s.id db.rows body.name >>= _))
  by_cases htaken : ∃ name ∈ body.name, NameTaken db.rows s.tenantId (pyStrip name) (some s.id)
  · obtain ⟨name, hname, ht⟩ := htaken
    have hcheck : checkNewName s.tenantId s.id db.rows body.name
        = .error (segmentNameTaken name) := by
      rw [Option.mem_def.mp hname, checkNewName, checkSegmentName_eq hgood, if_pos ht]
    rw [hcheck]
    refine served_refused hgood h ?_
    rw [Directory.step, hentry]
    exact if_pos ⟨name, hname, (taken_iff h hgood.ids).mpr ht⟩
  have hcheck : checkNewName s.tenantId s.id db.rows body.name = .ok () :=
    checkNewName_of_free hgood htaken
  have hfree : ¬ ∃ name ∈ body.name, d.Taken s.tenantId (pyStrip name) (some s.id) := by
    rintro ⟨name, hname, ht⟩
    exact htaken ⟨name, hname, (taken_iff h hgood.ids).mp ht⟩
  rw [hcheck]
  change Served lower d db _ (outcome db.rows (updateWrite (some userId) body s))
  rw [updateWrite_eq huser]
  -- a body with `is_active` ends in the `NameError`, and nothing is written
  by_cases hactive : body.isActive = none
  · rw [if_pos hactive]
    have hw := @good_update body s hactive fun _ => hgood.stripped s hs
    have hfits := fits_update hgood hs htaken
    rw [outcome_ok hgood hw hfits]
    refine ⟨good_apply hgood hw hfits, ?_, [], ?_, List.nil_sublist _⟩
    · have hstep : d.step lower (.update s.tenantId s.id userId body)
          = d.accept (.update s.tenantId s.id userId body)
            (d.put s.tenantId s.id (some (Directory.edited body s.entry))) := by
        rw [Directory.step, hentry]
        exact (if_neg hfree).trans (if_neg (not_not.mpr hactive))
      rw [hstep]
      refine refines_accepted h _ fun t i => ?_
      have hwritten : (SegmentWrite.writeRow s (updatedSegment body s) s).isLive = true := hlive
      rw [SegmentWrite.apply, shownEntry_update hgood.ids hs (ids_writeRow _ _) rfl t i,
        Directory.put, h.entries, if_pos hwritten, writeRow_self]
      rfl
    · rw [SegmentWrite.apply, map_updateByKey Segment.id (ids_writeRow _ _), List.append_nil]
  · rw [if_neg hactive]
    refine served_refused hgood h ?_
    rw [Directory.step, hentry]
    exact (if_neg hfree).trans (if_pos hactive)

lemma served_delete (hgood : SegmentsGood db.rows) (h : RefinesDirectory d db) {now : Time} :
    Served lower d db (.delete now tenantId segmentId)
      (outcome db.rows (segmentReads lower db.rows (.delete now tenantId segmentId))) := by
  rw [segmentReads]
  rcases selectSegment_cases h hgood.ids tenantId segmentId with
    ⟨hnone, hselect⟩ | ⟨s, hs, rfl, hlive, rfl, hentry, hselect⟩
  · rw [hselect]
    refine served_refused hgood h ?_
    rw [Directory.step, hnone]
    rfl
  · rw [hselect]
    change Served lower d db _ (outcome db.rows (.ok (.delete s now)))
    have hw : (SegmentWrite.delete s now).Good := trivial
    have hfits : (SegmentWrite.delete s now).Fits db.rows := trivial
    rw [outcome_ok hgood hw hfits]
    refine ⟨good_apply hgood hw hfits, ?_, [], ?_, List.nil_sublist _⟩
    · rw [Directory.step, hentry]
      refine refines_accepted h _ fun t i => ?_
      have hgone : ¬ (SegmentWrite.deleteRow now s).isLive = true := by
        simp [SegmentWrite.deleteRow, Segment.isLive]
      rw [SegmentWrite.apply, shownEntry_update hgood.ids hs (ids_deleteRow now) rfl t i,
        Directory.put, h.entries, if_neg hgone]
    · rw [SegmentWrite.apply, map_updateByKey Segment.id (ids_deleteRow now), List.append_nil]

/-- **One request** of the router, with ids that are new. -/
lemma served_request (hgood : SegmentsGood db.rows) (h : RefinesDirectory d db)
    {request : SegmentRequest} (hsigned : request.SignedIn) (hdrawn : request.drawn.Nodup)
    (hfresh : ∀ i ∈ request.drawn, i ∉ db.rows.map (·.id)) :
    Served lower d db request (outcome db.rows (segmentReads lower db.rows request)) := by
  cases request with
  | create newUlid tenantId userId body =>
      exact served_create hgood h (hfresh newUlid (List.mem_singleton_self _))
  | batch newUlid tenantId userId body => exact served_batch hgood h hdrawn hfresh
  | update tenantId segmentId userId body => exact served_update hgood h hsigned
  | delete now tenantId segmentId => exact served_delete hgood h

/-- **Requests one after the other** do to the table what the directory says, with the same answers:
names stay distinct within a tenant, an id leads to its own tenant's segments only, a batch is
created whole or not at all, and the unique index never refuses what the checks let through. -/
theorem segments_refine {requests : List SegmentRequest} (hgood : SegmentsGood db.rows)
    (h : RefinesDirectory d db) (hsigned : ∀ request ∈ requests, request.SignedIn)
    (hids : (db.rows.map (·.id) ++ requests.flatMap (·.drawn)).Nodup) :
    ∃ db', run (segments lower).step { db := db } (Service.serial 3 requests) = { db := db' } ∧
      RefinesDirectory (run (Directory.step lower) d requests) db' ∧ SegmentsGood db'.rows := by
  refine ⟨_, Service.run_serial endsWithin_segments db requests, ?_⟩
  induction requests generalizing db d with
  | nil => exact ⟨h, hgood⟩
  | cons request rest ih =>
      rw [List.flatMap_cons] at hids
      obtain ⟨-, hnew, hapart⟩ := List.nodup_append.mp hids
      obtain ⟨hdrawn, -, -⟩ := List.nodup_append.mp hnew
      have hfresh : ∀ i ∈ request.drawn, i ∉ db.rows.map (·.id) := fun i hi hold =>
        hapart i hold i (List.mem_append_left _ hi) rfl
      have hserved : Served lower d db request
          (outcome db.rows (segmentReads lower db.rows request)) :=
        served_request hgood h (hsigned request List.mem_cons_self) hdrawn hfresh
      obtain ⟨hgood', hrefines', added, hadded, hsub⟩ := hserved
      have hserve : (segments lower).serve 3 db request
          = recorded db request (outcome db.rows (segmentReads lower db.rows request)) := by
        rw [serve_segments, commit_segmentEndpoint]
      rw [run_cons, run_cons, hserve]
      refine ih hgood' hrefines' (fun r hr => hsigned r (List.mem_cons_of_mem _ hr)) ?_
      change ((outcome db.rows (segmentReads lower db.rows request)).2.map (·.id) ++ _).Nodup
      rw [hadded, List.append_assoc]
      exact hids.sublist ((List.Sublist.refl _).append (hsub.append (List.Sublist.refl _)))

end Refinement

lemma spacedCards_length : 2 ≤ " Cards".length ∧ " Cards".length ≤ 100 := by decide

lemma cardsSpaced_length : 2 ≤ "Cards ".length ∧ "Cards ".length ≤ 100 := by decide

lemma loans_length : ∀ n ∈ some "Loans", 2 ≤ n.length ∧ n.length ≤ 100 := by decide

lemma noCode_length : ∀ c ∈ (none : Option String), c.length ≤ 50 := by simp

/-- A segment is created, another one under its name is refused, and it is renamed and deleted. -/
def cardsRenamed : List SegmentRequest :=
  [.create "01A" "t1" "u1" ⟨" Cards", none, spacedCards_length, noCode_length⟩,
    .create "01B" "t1" "u1" ⟨"Cards ", none, cardsSpaced_length, noCode_length⟩,
    .update "t1" "01A" "u1" ⟨some "Loans", none, none, loans_length, noCode_length⟩,
    .delete 5 "t1" "01A"]

theorem segments_refine_sample :
    ∃ db', run (segments id).step { db := {} } (Service.serial 3 cardsRenamed) = { db := db' } ∧
      RefinesDirectory (run (Directory.step id) {} cardsRenamed) db' ∧ SegmentsGood db'.rows := by
  have hgood : SegmentsGood ({} : SegmentDb).rows := ⟨List.nodup_nil, nodupLive_nil, by simp, by simp⟩
  refine segments_refine hgood ⟨fun _ _ => rfl, rfl⟩ ?_ (by decide)
  simp [cardsRenamed, SegmentRequest.SignedIn]

end EclServer.Tenants
