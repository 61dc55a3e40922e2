import EclServer.Library.Paging
import EclServer.Runs.CollateralRuns
import EclServer.Runs.PdOrder
import EclServer.Runs.StorageIntegrity

/-!
Does a rerun reproduce its source (`rerun_run`, `_load_uploads`, `_pd_main`)?

* `LoadOrder`: an order in which the database can return the uploads of a run and kind. The
  copies of a rerun are made in one transaction and have one creation time.
* `executeStages`: the results of the stages, from the files in the order in which they are read.
* `SingleUploads`: a run has at most one LGD and one EAD upload, in every state the requests reach.
* `Reproduces`, `rerun_reproduces_iff`: the rerun reads the same files in the same order exactly
  where the PD uploads of its source name one object.
-/

namespace EclServer.Runs

open EclServer.Library EclServer.Engine

/-! ### Reading the uploads -/

/-- Python's and pandas' functions, and `pd.read_excel` of all the sheets of a file. -/
structure StageEnv where
  py : PyEnv
  readExcel : Bytes → Except String (List Frame)

/-- The uploads of a run and kind. -/
def uploadsOf (db : RunDb) (runId : String) (kind : UploadKind) : List Upload :=
  db.uploads.filter fun u => u.runId = runId ∧ u.kind = kind

/-- `ORDER BY created_at`: uploads of one creation time come in any order. -/
def LoadOrder (db : RunDb) (runId : String) (kind : UploadKind) (order : List Upload) : Prop :=
  IsOrder Upload.createdAt (uploadsOf db runId kind) order

/-- The files that an order reads. -/
def pathsOf (order : List Upload) : List String := order.map (·.storagePath)

/-- `_download_uploads`. -/
def downloadUploads (objects : Objects) (paths : List String) : Except String (List Bytes) :=
  paths.mapM fun path =>
    match objects.read path with
    | none => .error storageUnavailable.detail
    | some content => .ok content

/-- The combined sheet of the uploads of a kind, of their first file alone where `firstOnly`. -/
def readUploads (env : StageEnv) (objects : Objects) (kind : UploadKind) (firstOnly : Bool)
    (paths : List String) : Except String Frame :=
  if paths = [] then .error ("No " ++ kind.value ++ " uploads found for run")
  else do
    let files ← downloadUploads objects paths
    let used := if firstOnly ∧ 1 < files.length then files.take 1 else files
    return combineExcelBytes (← used.mapM env.readExcel)

/-- The results of the PD, LGD and EAD stages, from the files in the order they are read. -/
def executeStages (env : StageEnv) (objects : Objects) (combinePdFiles : Bool)
    (config : List CollateralConfig) (reads : UploadKind → List String) :
    Except String (List PdResult × List LgdResult × List EadResult) := do
  let pdInput ← readUploads env objects .pd (!combinePdFiles) (reads .pd)
  let lgdInput ← readUploads env objects .lgd false (reads .lgd)
  let eadInput ← readUploads env objects .ead false (reads .ead)
  let engines := runEngines (runInput env.py pdInput eadInput lgdInput config)
  let pd ← engines.computePd
  let lgd ← engines.computeLgd
  let (ead, _) ← engines.computeEad pd lgd
  return (pd, lgd, ead)

/-- **A rerun reproduces its source**: whatever the order of uploads with one creation time, both
runs read the same PD files in the same order, the same one first, and compute the same. -/
def Reproduces (env : StageEnv) (objects : Objects) (config : List CollateralConfig)
    (s t : RunDb) (original newRun : Run) : Prop :=
  ∀ order order' : UploadKind → List Upload, (∀ kind, LoadOrder s original.id kind (order kind)) →
    (∀ kind, LoadOrder t newRun.id kind (order' kind)) →
      pathsOf (order' .pd) = pathsOf (order .pd) ∧
      (pathsOf (order' .pd)).head? = (pathsOf (order .pd)).head? ∧
      executeStages env objects newRun.combinePdFiles config (fun kind => pathsOf (order' kind))
        = executeStages env objects original.combinePdFiles config fun kind =>
          pathsOf (order kind)

/-- The PD uploads of a run name one object. -/
def OnePdObject (db : RunDb) (runId : String) : Prop :=
  ∀ u ∈ uploadsOf db runId .pd, ∀ v ∈ uploadsOf db runId .pd, u.storagePath = v.storagePath

/-! ### One LGD and one EAD upload -/

/-- Two uploads of a run and kind are PD uploads. -/
def SingleUploads (db : RunDb) : Prop :=
  db.uploads.Pairwise fun u v => u.runId = v.runId → u.kind = v.kind → u.kind = .pd

/-- The id drawn for a rerun is no run's of an upload. -/
def FreshRerun (s : RunSession) : StorageAction → Prop
  | .rerunRun _ newRunId _ _ _ _ _ => ∀ u ∈ s.db.uploads, u.runId ≠ newRunId
  | _ => True

section Single

variable {env : UploadEnv} {s t : RunSession} {now : Time} {tenantId runId : String}

lemma single_uploadFile (h : SingleUploads s.db) {newId : String} {req : UploadRequest}
    {out : UploadOut}
    (hok : Tx.exec (uploadFile env now newId tenantId runId req) s = (.ok out, t)) :
    SingleUploads t.db := by
  obtain ⟨kind, row, -, hrun, hkind, -, -, huploads, -⟩ := exec_uploadFile_ok hok
  rw [SingleUploads, huploads, remainingUploads]
  split
  · rename_i hpd
    refine List.pairwise_append.mpr ⟨h, List.pairwise_singleton _ _, fun u _ v hv _ hsame => ?_⟩
    rw [hsame, List.mem_singleton.mp hv, hkind, hpd]
  · refine List.pairwise_append.mpr ⟨h.sublist List.filter_sublist, List.pairwise_singleton _ _, ?_⟩
    intro u hu v hv hsameRun hsameKind
    have hother := of_decide_eq_true (List.mem_filter.mp hu).2
    rw [List.mem_singleton.mp hv] at hsameRun hsameKind
    exact absurd ⟨hsameRun.trans hrun, hsameKind.trans hkind⟩ hother

lemma single_rerunRun (h : SingleUploads s.db) {newRunId : String} {copyId : String → String}
    {userId : String} {name : Option String} {newRun : Run}
    (hfresh : ∀ u ∈ s.db.uploads, u.runId ≠ newRunId)
    (hok : Tx.exec (rerunRun now newRunId copyId tenantId runId userId name) s = (.ok newRun, t)) :
    SingleUploads t.db := by
  obtain ⟨-, huploads, -⟩ := exec_rerunRun_ok hok
  rw [SingleUploads, huploads]
  refine List.pairwise_append.mpr ⟨h, ?_, fun u hu v hv hsame => ?_⟩
  · -- the copies of two uploads are of one run, as their sources are
    have hloaded : (s.db.loadUploads runId).Pairwise fun u v =>
        u.runId = v.runId → u.kind = v.kind → u.kind = .pd := by
      refine (List.Perm.pairwise_iff ?_ (List.mergeSort_perm _ _)).mpr
        (h.sublist List.filter_sublist)
      intro u v huv hrun hkind
      rw [hkind]
      exact huv hrun.symm hkind.symm
    rw [List.pairwise_map]
    refine hloaded.imp_of_mem fun {u v} hu hv huv _ hkind => ?_
    exact huv ((RunDb.mem_loadUploads.mp hu).2.trans (RunDb.mem_loadUploads.mp hv).2.symm) hkind
  · obtain ⟨src, -, rfl⟩ := List.mem_map.mp hv
    exact absurd hsame (hfresh u hu)

/-- A request that raises leaves the rows, and one that returns has an effect to look at. -/
lemma single_getDb {α : Type} {body : RunRequest α} (h : SingleUploads s.db)
    (hok : ∀ a t, Tx.exec body s = (.ok a, t) → SingleUploads t.db) :
    SingleUploads (getDb body s).2.db := by
  rcases Tx.commitWith_snd (fun before raised => { raised with db := before.db }) body s with
    ⟨raised, hraised⟩ | ⟨a, ha⟩
  · rw [getDb, hraised]
    exact h
  · exact hok a _ ha

/-- **One request** keeps one LGD and one EAD upload for each run. -/
lemma single_storageStep (h : SingleUploads s.db) (a : StorageAction) (hfresh : FreshRerun s a) :
    SingleUploads (storageStep env s a).db := by
  cases a with
  | uploadFile now newId tenantId runId req =>
      exact single_getDb h fun _ _ hok => single_uploadFile h hok
  | deleteUpload tenantId runId uploadId =>
      refine single_getDb h fun _ t hok => ?_
      obtain ⟨upload, -, huploads, -⟩ := exec_deleteUpload_ok hok
      rw [SingleUploads, huploads]
      exact h.sublist List.filter_sublist
  | rerunRun now newRunId copyId tenantId runId userId name =>
      exact single_getDb h fun _ _ hok => single_rerunRun h hfresh hok
  | deleteRun now tenantId runId userId =>
      refine single_getDb h fun _ t hok => ?_
      rw [SingleUploads, (exec_deleteRun_ok hok).1]
      exact h
  | changeRuns runs => exact h

/-- **Over every run** of requests from a state without uploads. -/
theorem single_run {s₀ : RunSession} (hempty : s₀.db.uploads = []) {actions : List StorageAction}
    (hfresh : EachStep (storageStep env) FreshRerun s₀ actions) :
    SingleUploads (run (storageStep env) s₀ actions).db := by
  refine run_induction (I := fun s => SingleUploads s.db) (fun s a h => single_storageStep h a) ?_
    hfresh
  rw [SingleUploads, hempty]
  exact List.Pairwise.nil

/-- Two LGD uploads of a run are one, and so are two EAD uploads. -/
lemma SingleUploads.length_le (h : SingleUploads s.db) {kind : UploadKind} (hkind : kind ≠ .pd) :
    (uploadsOf s.db runId kind).length ≤ 1 := by
  have hpairs : (uploadsOf s.db runId kind).Pairwise fun u v =>
      u.runId = v.runId → u.kind = v.kind → u.kind = .pd := h.sublist List.filter_sublist
  have hof : ∀ u ∈ uploadsOf s.db runId kind, u.runId = runId ∧ u.kind = kind := fun u hu =>
    of_decide_eq_true (List.mem_filter.mp hu).2
  match hl : uploadsOf s.db runId kind with
  | [] => exact Nat.zero_le _
  | [u] => exact le_refl _
  | u :: v :: rest =>
      rw [hl] at hpairs hof
      obtain ⟨hu, hukind⟩ := hof u List.mem_cons_self
      obtain ⟨hv, hvkind⟩ := hof v (List.mem_cons_of_mem _ List.mem_cons_self)
      have hpd := (List.pairwise_cons.mp hpairs).1 v List.mem_cons_self (hu.trans hv.symm)
        (hukind.trans hvkind.symm)
      exact absurd (hukind.symm.trans hpd) hkind

end Single

/-! ### The uploads of the rerun -/

section Rerun

variable {env : StageEnv} {s t : RunSession} {now : Time} {newRunId tenantId runId userId : String}
  {copyId : String → String} {name : Option String} {original newRun : Run} {kind : UploadKind}

/-- An order exists for each kind. -/
lemma loadOrder_sortByKey (db : RunDb) (runId : String) (kind : UploadKind) :
    LoadOrder db runId kind (sortByKey Upload.createdAt (uploadsOf db runId kind)) :=
  ⟨sortByKey_perm _ _, sortByKey_sorted _ _⟩

/-- **The uploads of the rerun** are the copies of those of its source. -/
lemma uploadsOf_rerun (hfresh : ∀ u ∈ s.db.uploads, u.runId ≠ newRunId)
    (huploads : t.db.uploads = s.db.uploads ++ (s.db.loadUploads runId).map fun src =>
      rerunCopy now tenantId newRunId (copyId src.id) src) :
    (uploadsOf t.db newRunId kind).Perm ((uploadsOf s.db runId kind).map fun src =>
      rerunCopy now tenantId newRunId (copyId src.id) src) := by
  rw [uploadsOf, huploads, List.filter_append, List.filter_map]
  have hold : s.db.uploads.filter (fun u => u.runId = newRunId ∧ u.kind = kind) = [] := by
    refine List.filter_eq_nil_iff.mpr fun u hu hcopied => ?_
    exact hfresh u hu (of_decide_eq_true hcopied).1
  rw [hold, List.nil_append]
  refine List.Perm.map _ ?_
  have hcopies : (s.db.loadUploads runId).filter ((fun u : Upload => decide
        (u.runId = newRunId ∧ u.kind = kind)) ∘ fun src =>
          rerunCopy now tenantId newRunId (copyId src.id) src)
      = (s.db.loadUploads runId).filter fun src => src.kind = kind := by
    refine List.filter_congr fun src _ => ?_
    exact decide_eq_decide.mpr (and_iff_right rfl)
  rw [hcopies]
  refine ((List.mergeSort_perm _ _).filter _).trans ?_
  rw [List.filter_filter]
  refine List.Perm.of_eq (List.filter_congr fun src _ => ?_)
  rw [Bool.and_comm, ← Bool.decide_and]

/-- Lists with the same members are equal where there is but one member. -/
lemma eq_of_perm_of_forall_eq {α : Type} {l l' : List α} (h : l.Perm l')
    (heq : ∀ a ∈ l', ∀ b ∈ l', a = b) : l = l' := by
  refine List.ext_getElem h.length_eq fun i hi hi' => ?_
  exact heq _ (h.subset (List.getElem_mem hi)) _ (List.getElem_mem hi')

/-- The files of the rerun are those of its source. -/
lemma paths_rerun_perm (hfresh : ∀ u ∈ s.db.uploads, u.runId ≠ newRunId)
    (huploads : t.db.uploads = s.db.uploads ++ (s.db.loadUploads runId).map fun src =>
      rerunCopy now tenantId newRunId (copyId src.id) src) :
    (pathsOf (uploadsOf t.db newRunId kind)).Perm (pathsOf (uploadsOf s.db runId kind)) := by
  have hcopies := (@uploadsOf_rerun s t now newRunId tenantId runId copyId kind hfresh huploads).map
    (·.storagePath)
  rw [List.map_map] at hcopies
  exact hcopies

/-- Where the files of each kind but PD are one at most, and the PD uploads name one object, any
two orders read alike. -/
lemma reproduces_of_onePdObject {objects : Objects} {config : List CollateralConfig}
    (hsingle : SingleUploads s.db) (hone : OnePdObject s.db original.id)
    (hcombine : newRun.combinePdFiles = original.combinePdFiles)
    (hpaths : ∀ kind, (pathsOf (uploadsOf t.db newRun.id kind)).Perm
      (pathsOf (uploadsOf s.db original.id kind))) :
    Reproduces env objects config s.db t.db original newRun := by
  intro order order' horder horder'
  have hconst : ∀ kind, ∀ p ∈ pathsOf (uploadsOf s.db original.id kind),
      ∀ q ∈ pathsOf (uploadsOf s.db original.id kind), p = q := by
    intro kind p hp q hq
    obtain ⟨u, hu, rfl⟩ := List.mem_map.mp hp
    obtain ⟨v, hv, rfl⟩ := List.mem_map.mp hq
    by_cases hpd : kind = .pd
    · subst hpd
      exact hone u hu v hv
    · have hlength := @SingleUploads.length_le s original.id hsingle kind hpd
      obtain ⟨i, hi, rfl⟩ := List.mem_iff_getElem.mp hu
      obtain ⟨j, hj, rfl⟩ := List.mem_iff_getElem.mp hv
      have hij : i = j := by omega
      subst hij
      rfl
  have hsame : (fun kind => pathsOf (order' kind)) = fun kind => pathsOf (order kind) := by
    funext kind
    have hleft := eq_of_perm_of_forall_eq (((horder' kind).perm.map _).trans (hpaths kind))
      (hconst kind)
    have hright := eq_of_perm_of_forall_eq ((horder kind).perm.map _) (hconst kind)
    exact hleft.trans hright.symm
  have hpd := congrFun hsame .pd
  refine ⟨hpd, by rw [hpd], ?_⟩
  rw [hsame, hcombine]

/-- Any upload of one creation time can come first. -/
lemma exists_loadOrder_head {db : RunDb} {u : Upload} (hu : u ∈ uploadsOf db newRunId kind)
    (hties : ∀ v ∈ uploadsOf db newRunId kind, v.createdAt = now) :
    ∃ order, LoadOrder db newRunId kind (u :: order) := by
  have hperm := (List.perm_cons_erase hu).symm
  refine ⟨_, hperm, List.pairwise_of_forall_mem_list fun v hv w hw => ?_⟩
  rw [hties v (hperm.subset hv), hties w (hperm.subset hw)]

/-- The uploads of the rerun have one creation time. -/
lemma createdAt_rerun (hfresh : ∀ u ∈ s.db.uploads, u.runId ≠ newRunId)
    (huploads : t.db.uploads = s.db.uploads ++ (s.db.loadUploads runId).map fun src =>
      rerunCopy now tenantId newRunId (copyId src.id) src) :
    ∀ v ∈ uploadsOf t.db newRunId kind, v.createdAt = now := by
  intro v hv
  obtain ⟨src, -, rfl⟩ := List.mem_map.mp ((uploadsOf_rerun hfresh huploads).subset hv)
  rfl

/-- **What comes first**: the copy of either PD upload can be the first that the rerun reads, so
where it reproduces its source they name one object. -/
lemma onePdObject_of_reproduces {objects : Objects} {config : List CollateralConfig}
    (hfresh : ∀ u ∈ s.db.uploads, u.runId ≠ newRun.id)
    (huploads : t.db.uploads = s.db.uploads ++ (s.db.loadUploads original.id).map fun src =>
      rerunCopy now tenantId newRun.id (copyId src.id) src)
    (h : Reproduces env objects config s.db t.db original newRun) :
    OnePdObject s.db original.id := by
  have hfirst : ∀ w ∈ uploadsOf s.db original.id .pd, w.storagePath ∈
      (pathsOf (sortByKey Upload.createdAt (uploadsOf s.db original.id .pd))).head? := by
    intro w hw
    have hcopy : rerunCopy now tenantId newRun.id (copyId w.id) w ∈ uploadsOf t.db newRun.id .pd :=
      (uploadsOf_rerun hfresh huploads).symm.subset (List.mem_map_of_mem hw)
    obtain ⟨rest, hrest⟩ := exists_loadOrder_head hcopy (createdAt_rerun hfresh huploads)
    obtain ⟨-, hhead, -⟩ := h
      (fun kind => sortByKey Upload.createdAt (uploadsOf s.db original.id kind))
      (fun kind => if kind = .pd then rerunCopy now tenantId newRun.id (copyId w.id) w :: rest
        else sortByKey Upload.createdAt (uploadsOf t.db newRun.id kind))
      (fun kind => loadOrder_sortByKey _ _ _) (fun kind => by
        split
        · rename_i hpd
          rw [hpd]
          exact hrest
        · exact loadOrder_sortByKey _ _ _)
    rw [if_pos rfl] at hhead
    exact hhead.symm
  intro u hu v hv
  exact Option.some.inj ((hfirst u hu).symm.trans (hfirst v hv))

end Rerun

/-- **A rerun reproduces its source** exactly where the PD uploads name one object, such as that of
a single PD file. The copies have one creation time, so that the query by it may return them in any
order. -/
theorem rerun_reproduces_iff (uploadEnv : UploadEnv) (env : StageEnv) {s₀ : RunSession}
    (hempty : s₀.db.uploads = []) {actions : List StorageAction}
    (hactions : EachStep (storageStep uploadEnv) FreshRerun s₀ actions) {now : Time}
    {newRunId tenantId runId userId : String} {copyId : String → String} {name : Option String}
    {original newRun : Run} {t : RunSession} (config : List CollateralConfig)
    (horiginal : (run (storageStep uploadEnv) s₀ actions).db.findRun tenantId runId
      = some original)
    (hfresh : ∀ u ∈ (run (storageStep uploadEnv) s₀ actions).db.uploads, u.runId ≠ newRunId)
    (hrerun : Tx.exec (rerunRun now newRunId copyId tenantId runId userId name)
      (run (storageStep uploadEnv) s₀ actions) = (.ok newRun, t)) :
    Reproduces env t.objects config (run (storageStep uploadEnv) s₀ actions).db t.db original newRun
      ↔ OnePdObject (run (storageStep uploadEnv) s₀ actions).db original.id := by
  have hsingle := single_run hempty hactions
  generalize run (storageStep uploadEnv) s₀ actions = s at horiginal hfresh hrerun hsingle
  obtain ⟨-, huploads, row, hrow, -, hid, hcombine⟩ := exec_rerunRun_ok hrerun
  obtain rfl := Option.some.inj (horiginal.symm.trans hrow)
  have hrunId : original.id = runId := by
    have hfound := List.find?_some horiginal
    exact (of_decide_eq_true hfound).1
  subst hrunId
  subst hid
  have hpaths := fun kind => @paths_rerun_perm s t now newRun.id tenantId original.id copyId kind
    hfresh huploads
  exact ⟨fun h => onePdObject_of_reproduces hfresh huploads h, fun hone =>
    reproduces_of_onePdObject hsingle hone hcombine hpaths⟩

/-! ### Two PD files -/

/-- A draft run in a workspace. -/
def rerunSession : RunSession :=
  { db :=
      { runs := [{ id := "r1", tenantId := "t1", createdByUserId := "u1", name := "Q1" }]
        tenants := [{ id := "t1", name := "T" }] }
    objects := {} }

/-- A PD file of the run. -/
def rerunPdUpload (now : Time) (newId filename : String) (body : Bytes) : StorageAction :=
  .uploadFile now newId "t1" "r1"
    { kind := "PD", filename := filename, body := body, contentType := "application/octet-stream" }

/-- The run after its stages, which used its first PD file alone. -/
def rerunOriginal : Run :=
  { id := "r1", tenantId := "t1", createdByUserId := "u1", name := "Q1", status := .complete
    combinePdFiles := false }

def onePdFile : List StorageAction :=
  [rerunPdUpload 0 "f1" "a.xlsx" [1], .changeRuns [rerunOriginal]]

/-- Two files at different times. -/
def twoPdFiles : List StorageAction :=
  [rerunPdUpload 0 "f1" "a.xlsx" [1], rerunPdUpload 1 "f2" "b.xlsx" [2],
    .changeRuns [rerunOriginal]]

/-- The sheets of a file are as many as its first byte says. -/
def rerunEnv : StageEnv where
  py := plainEnv
  readExcel body := .ok (List.replicate ((body.headD 0).toNat) samplePdFrame)

theorem rerun_reproduces_iff_sample :
    ∃ newRun t, Tx.exec (rerunRun 9 "r2" (fun id => id ++ "c") "t1" "r1" "u1" none)
        (run (storageStep sampleEnv) rerunSession onePdFile) = (.ok newRun, t) ∧
      (Reproduces rerunEnv t.objects [] (run (storageStep sampleEnv) rerunSession onePdFile).db t.db
          rerunOriginal newRun
        ↔ OnePdObject (run (storageStep sampleEnv) rerunSession onePdFile).db
          rerunOriginal.id) := by
  obtain ⟨newRun, t, hrerun⟩ : ∃ newRun t,
      Tx.exec (rerunRun 9 "r2" (fun id => id ++ "c") "t1" "r1" "u1" none)
        (run (storageStep sampleEnv) rerunSession onePdFile) = (.ok newRun, t) := ⟨_, _, rfl⟩
  have hactions : EachStep (storageStep sampleEnv) FreshRerun rerunSession onePdFile :=
    ⟨trivial, trivial, trivial⟩
  have hfresh : ∀ u ∈ (run (storageStep sampleEnv) rerunSession onePdFile).db.uploads,
      u.runId ≠ "r2" := by decide
  exact ⟨newRun, t, hrerun,
    rerun_reproduces_iff sampleEnv rerunEnv rfl hactions [] rfl hfresh hrerun⟩

/-- The rerun may read the second file first, and it would use that one alone. -/
theorem rerun_reproduces_fails :
    ∃ newRun t, Tx.exec (rerunRun 9 "r2" (fun id => id ++ "c") "t1" "r1" "u1" none)
        (run (storageStep sampleEnv) rerunSession twoPdFiles) = (.ok newRun, t) ∧
      newRun.combinePdFiles = false ∧
      ¬ Reproduces rerunEnv t.objects [] (run (storageStep sampleEnv) rerunSession twoPdFiles).db
        t.db rerunOriginal newRun := by
  obtain ⟨newRun, t, hrerun⟩ : ∃ newRun t,
      Tx.exec (rerunRun 9 "r2" (fun id => id ++ "c") "t1" "r1" "u1" none)
        (run (storageStep sampleEnv) rerunSession twoPdFiles) = (.ok newRun, t) := ⟨_, _, rfl⟩
  obtain ⟨-, huploads, row, hrow, -, hid, hcombine⟩ := exec_rerunRun_ok hrerun
  obtain rfl : rerunOriginal = row := Option.some.inj hrow
  refine ⟨newRun, t, hrerun, hcombine, fun hreproduces => ?_⟩
  have hfresh : ∀ u ∈ (run (storageStep sampleEnv) rerunSession twoPdFiles).db.uploads,
      u.runId ≠ "r2" := by decide
  rw [← hid] at hfresh huploads
  have hone := @onePdObject_of_reproduces rerunEnv _ t 9 "t1" (fun id => id ++ "c") rerunOriginal
    newRun _ [] hfresh huploads hreproduces
  have hapart : ¬ OnePdObject (run (storageStep sampleEnv) rerunSession twoPdFiles).db "r1" := by
    unfold OnePdObject
    decide
  exact hapart hone

end EclServer.Runs
