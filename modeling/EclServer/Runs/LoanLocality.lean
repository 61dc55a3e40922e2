import EclServer.Engine.Locality
import EclServer.Runs.KeyMatching
import EclServer.Runs.PdCoverage

/-!
What a run stores for a loan depends on what it reads for that loan.

* `SharedLoan`: a loan that two runs have in common, with the history of its segment and the
  rows of its customers.
* `mem_stored_local`, `find?_loadPdRow_local`, `lgdOf_local`: the PD rows that its snapshots are
  joined with and its collateral, out of the database.
* `storedLoan_local`: its rows are the same in both runs.
* `computeEad_local`: a run reads nothing of the segments none of its loans is in.
-/

namespace EclServer.Runs

open EclServer.Library EclServer.Engine

variable {env : PyEnv} {read : Cell → Option Timestamp}
  {pdDf pdDf' eadDf eadDf' lgdDf lgdDf' : Frame} {config : List CollateralConfig}
  {rows rows' : List PdRow} {pd pd' : List PdResult} {lgd lgd' : List LgdResult}

/-- A loan of two runs: one record of both EAD sheets, the same history of its segment and the
same rows of its customers. -/
structure SharedLoan (env : PyEnv) (rows rows' : List PdRow) (lgdDf lgdDf' : Frame)
    (r r' : Record) : Prop where
  cell_eq : r.cell = r'.cell
  history_eq : segmentHistory env ((r.cell "SEGMENT").pyStr env) rows
    = segmentHistory env ((r.cell "SEGMENT").pyStr env) rows'
  pool_eq : (loanPool env ((r.cell "Loan ID").pyStr env) lgdDf).map Record.cell
    = (loanPool env ((r.cell "Loan ID").pyStr env) lgdDf').map Record.cell

/-! ### Stored PDs -/

/-- The stored rows are made of the rows of the table. -/
lemma mem_computePd (hread : readPdRows env pdDf = .ok rows)
    (h : (runEngines (runInput env pdDf eadDf lgdDf config)).computePd = .ok pd) {s : PdResult} :
    s ∈ pd ↔ ∃ row ∈ (pdOutput env rows).table, pdRecord env row = .ok s := by
  obtain ⟨output, houtput, h⟩ := bind_eq_ok.mp h
  obtain ⟨records, hrecords, h⟩ := bind_eq_ok.mp h
  have hstored : records = pd := by
    rw [insertUnique] at h
    split at h
    · exact Except.ok.inj h
    · cases h
  obtain ⟨rows₁, hread₁, -, rfl⟩ := readPdRows_of_computePd houtput
  have hrows : rows₁ = rows := Except.ok.inj (hread₁.symm.trans hread)
  rw [← hstored, ← hrows]
  exact mem_iff_of_forall₂ (forall₂_of_mapM_ok hrecords)

section

variable (hread : readPdRows env pdDf = .ok rows) (hread' : readPdRows env pdDf' = .ok rows')
  (hpd : (runEngines (runInput env pdDf eadDf lgdDf config)).computePd = .ok pd)
  (hpd' : (runEngines (runInput env pdDf' eadDf' lgdDf' config)).computePd = .ok pd')

include hread hread' hpd hpd'

/-- **The stored rows of a segment** are made of its history. -/
lemma mem_stored_local {s : PdResult}
    (hhistory : segmentHistory env s.segment rows = segmentHistory env s.segment rows') :
    s ∈ pd ↔ s ∈ pd' := by
  have hsegment : ∀ row, pdRecord env row = .ok s → row.segment.pyStr env = s.segment := by
    intro row hrow
    exact (congrArg Prod.fst (key_of_pdRecord hrow)).symm
  rw [mem_computePd hread hpd, mem_computePd hread' hpd']
  constructor
  · rintro ⟨row, hrow, hrecord⟩
    exact ⟨row, (mem_table_local hhistory (hsegment row hrecord) rfl).mp hrow, hrecord⟩
  · rintro ⟨row, hrow, hrecord⟩
    exact ⟨row, (mem_table_local hhistory (hsegment row hrecord) rfl).mpr hrow, hrecord⟩

/-- A snapshot of the segment is joined with the same row. -/
lemma find?_loadPdRow_local {w : WalkedRow}
    (hhistory : segmentHistory env (w.segment.pyStr env) rows
      = segmentHistory env (w.segment.pyStr env) rows') :
    (pd.map loadPdRow).find? (matchesPd w) = (pd'.map loadPdRow).find? (matchesPd w) := by
  refine find?_eq_of_mem_iff ?_ fun t ht => ?_
  · intro a ha b hb hqa hqb
    have hone := length_filter_loadPdRow (nodup_computePd hpd) w
    have hfa : a ∈ (pd.map loadPdRow).filter (matchesPd w) := List.mem_filter.mpr ⟨ha, hqa⟩
    have hfb : b ∈ (pd.map loadPdRow).filter (matchesPd w) := List.mem_filter.mpr ⟨hb, hqb⟩
    obtain ⟨c, hc⟩ := List.length_eq_one_iff.mp
      (le_antisymm hone (List.length_pos_of_mem hfa))
    rw [hc, List.mem_singleton] at hfa hfb
    rw [hfa, hfb]
  · have hsegment : ∀ s : PdResult, loadPdRow s = t → w.segment.pyStr env = s.segment := by
      rintro s rfl
      rw [matchesPd, decide_eq_true_iff] at ht
      rw [ht.1]
      rfl
    rw [List.mem_map, List.mem_map]
    constructor
    · rintro ⟨s, hs, hload⟩
      rw [hsegment s hload] at hhistory
      exact ⟨s, (mem_stored_local hread hread' hpd hpd' hhistory).mp hs, hload⟩
    · rintro ⟨s, hs, hload⟩
      rw [hsegment s hload] at hhistory
      exact ⟨s, (mem_stored_local hread hread' hpd hpd' hhistory).mpr hs, hload⟩

end

/-! ### Stored collateral -/

/-- A stored row depends on the cells of the engine's row. -/
lemma lgdRecord_congr {y y' : Record} (hcell : y.cell = y'.cell) :
    lgdRecord env y = lgdRecord env y' := by
  rw [lgdRecord, lgdRecord, hcell]

/-- The loan of a stored row. -/
lemma loanId_of_lgdRecord {y : Record} {s : LgdResult} (h : lgdRecord env y = .ok s) :
    s.loanId = (y.cell "Loan ID").pyStr env := by
  obtain ⟨_, -, h⟩ := bind_eq_ok.mp h
  obtain ⟨_, -, h⟩ := bind_eq_ok.mp h
  obtain ⟨_, -, h⟩ := bind_eq_ok.mp h
  obtain ⟨_, -, h⟩ := bind_eq_ok.mp h
  rw [← Except.ok.inj h]

/-- The stored row of a loan in one run is a stored row of the other. -/
lemma mem_lgdResults_local (hcolumns : lgdDf.columns = lgdDf'.columns)
    (hlgd : (runEngines (runInput env pdDf eadDf lgdDf config)).computeLgd = .ok lgd)
    (hlgd' : (runEngines (runInput env pdDf' eadDf' lgdDf' config)).computeLgd = .ok lgd')
    {s : LgdResult} (hpool : (loanPool env s.loanId lgdDf).map Record.cell
      = (loanPool env s.loanId lgdDf').map Record.cell) (hs : s ∈ lgd) : s ∈ lgd' := by
  obtain ⟨out, hout, hrows⟩ := lgdResults_of_computeLgd hlgd
  obtain ⟨out', hout', hrows'⟩ := lgdResults_of_computeLgd hlgd'
  obtain ⟨y, hy, hrecord⟩ := exists_of_mem_mapM hrows hs
  obtain ⟨y', hy', hcell⟩ := lgdLoan_local hcolumns hpool hout hout' hy
    (loanId_of_lgdRecord hrecord).symm
  rw [lgdRecord_congr hcell] at hrecord
  exact (mem_iff_of_forall₂ (forall₂_of_mapM_ok hrows')).mpr ⟨y', hy', hrecord⟩

/-- **The collateral that a loan is merged with.** -/
lemma lgdOf_local (hcolumns : lgdDf.columns = lgdDf'.columns)
    (hlgd : (runEngines (runInput env pdDf eadDf lgdDf config)).computeLgd = .ok lgd)
    (hlgd' : (runEngines (runInput env pdDf' eadDf' lgdDf' config)).computeLgd = .ok lgd')
    {loanId : Cell} (hpool : (loanPool env (loanId.pyStr env) lgdDf).map Record.cell
      = (loanPool env (loanId.pyStr env) lgdDf').map Record.cell) :
    lgdOf (loadLgdFrame lgd) loanId = lgdOf (loadLgdFrame lgd') loanId := by
  have hnodup : (lgd.map LgdResult.loanId).Nodup := by
    obtain ⟨_, -, h⟩ := bind_eq_ok.mp hlgd
    exact nodup_of_insertUnique h
  have htext : ∀ s : LgdResult, Cell.str s.loanId = loanId → loanId.pyStr env = s.loanId := by
    rintro s rfl
    rfl
  rw [lgdOf, lgdOf, map_lgdRow_loadLgdFrame, map_lgdRow_loadLgdFrame]
  refine find?_eq_of_mem_iff ?_ fun l hl => ?_
  · intro a ha b hb hqa hqb
    obtain ⟨s, hs, rfl⟩ := List.mem_map.mp ha
    obtain ⟨u, hu, rfl⟩ := List.mem_map.mp hb
    have hloan : s.loanId = u.loanId :=
      Cell.str.inj ((of_decide_eq_true hqa).trans (of_decide_eq_true hqb).symm)
    rw [List.inj_on_of_nodup_map hnodup hs hu hloan]
  · rw [List.mem_map, List.mem_map]
    constructor
    · rintro ⟨s, hs, rfl⟩
      rw [htext s (of_decide_eq_true hl)] at hpool
      exact ⟨s, mem_lgdResults_local hcolumns hlgd hlgd' hpool hs, rfl⟩
    · rintro ⟨s, hs, rfl⟩
      rw [htext s (of_decide_eq_true hl)] at hpool
      exact ⟨s, mem_lgdResults_local hcolumns.symm hlgd' hlgd hpool.symm hs, rfl⟩

/-! ### The rows of a loan -/

/-- The PD table counts for the rows that the snapshots of the loan are joined with. -/
lemma loanReference_congr {pdTable pdTable' : List PdTableRow} {d : DatedRow}
    (h : ∀ w : WalkedRow, w.segment = d.segment →
      pdTable.find? (matchesPd w) = pdTable'.find? (matchesPd w)) :
    loanReference env read pdTable d = loanReference env read pdTable' d := by
  rw [loanReference, loanReference]
  refine List.map_congr_left fun w hw => ?_
  have hterms : (loanWalk env read d).map (·.toTermRow) = loanTermRows read d := map_walkRows ..
  have hterm : w.toTermRow ∈ loanTermRows read d := hterms ▸ List.mem_map_of_mem hw
  obtain ⟨k, -, hk⟩ := List.mem_map.mp hterm
  have hsegment : w.segment = d.segment :=
    (congrArg (fun t : TermRow => t.segment) hk).symm
  rw [h w hsegment]

lemma nodup_loadPdRow (h : (pd.map PdResult.key).Nodup) :
    ((pd.map loadPdRow).map fun t => (t.segment, t.month, t.transition)).Nodup := by
  have hkeys := h.map (f := fun k : String × ℕ × LoanStage => (Cell.str k.1, k.2))
    (fun a b hab => by
      simp only [Prod.mk.injEq, Cell.str.injEq] at hab
      exact Prod.ext hab.1 hab.2)
  rw [List.map_map] at hkeys ⊢
  exact hkeys

lemma loanId_of_eadRecord {o : EclRow} {s : EadResult} (h : eadRecord env o = .ok s) :
    s.loanId = o.loanId.pyStr env := by
  have hkey := keyOf?_of_eadRecord h
  rw [keyOf?, Option.map_eq_some_iff] at hkey
  obtain ⟨t, -, ht⟩ := hkey
  exact (congrArg Prod.fst ht).symm

/-- The rows of a text in the stored table are those of a loan. -/
lemma filter_eadRecord {out : List EclRow} {ead : List EadResult} {loanId : Cell}
    (hids : ∀ o ∈ out, o.loanId.pyStr env = loanId.pyStr env → o.loanId = loanId)
    (h : out.mapM (eadRecord env) = .ok ead) :
    (loanRows out loanId).mapM (eadRecord env)
      = .ok (ead.filter fun s => s.loanId = loanId.pyStr env) := by
  refine mapM_filter_ok h fun o ho s hrecord => ?_
  rw [loanId_of_eadRecord hrecord]
  by_cases hloan : o.loanId = loanId
  · rw [decide_eq_true hloan, hloan, decide_eq_true rfl]
  · have hother : ¬ o.loanId.pyStr env = loanId.pyStr env := fun heq => hloan (hids o ho heq)
    rw [decide_eq_false hloan, decide_eq_false hother]

/-- The rows of the output with the name of a loan are its own. -/
lemma loanId_eq_of_pyStr {pdTable : List PdTableRow} {out : List EclRow} {warnings : List String}
    (hdates : ReadsDates env eadDf read)
    (hids : (eadDf.rows.map fun r => (r.cell "Loan ID").pyStr env).Nodup)
    (hkeys : (pdTable.map fun t => (t.segment, t.month, t.transition)).Nodup)
    (h : computeEad env eadDf pdTable lgdDf = .ok (out, warnings)) {r : Record}
    (hr : r ∈ eadDf.rows) :
    ∀ o ∈ out, o.loanId.pyStr env = (r.cell "Loan ID").pyStr env → o.loanId = r.cell "Loan ID" := by
  intro o ho hsame
  rw [computeEad_eq_flatMap hdates hids hkeys h] at ho
  obtain ⟨d, hd, ho⟩ := List.mem_flatMap.mp ho
  obtain ⟨r₁, hr₁, rfl⟩ := List.mem_map.mp hd
  have hloan := loanId_of_mem_loanReference ho
  change o.loanId = r₁.cell "Loan ID" at hloan
  rw [hloan] at hsame ⊢
  rw [List.inj_on_of_nodup_map hids ((mem_sortByKey _).mp hr₁) hr hsame]

/-- **What a run stores for a loan** is the same in every run that shares the loan with it,
whatever the other segments, customers and loans are. -/
theorem storedLoan_local {ead ead' : List EadResult} {warnings warnings' : List String}
    (hread : readPdRows env pdDf = .ok rows) (hread' : readPdRows env pdDf' = .ok rows')
    (hdates : ReadsDates env eadDf read) (hdates' : ReadsDates env eadDf' read)
    (hids : (eadDf.rows.map fun r => (r.cell "Loan ID").pyStr env).Nodup)
    (hids' : (eadDf'.rows.map fun r => (r.cell "Loan ID").pyStr env).Nodup)
    (hcolumns : eadDf.columns = eadDf'.columns) (hlgdColumns : lgdDf.columns = lgdDf'.columns)
    (hpd : (runEngines (runInput env pdDf eadDf lgdDf config)).computePd = .ok pd)
    (hpd' : (runEngines (runInput env pdDf' eadDf' lgdDf' config)).computePd = .ok pd')
    (hlgd : (runEngines (runInput env pdDf eadDf lgdDf config)).computeLgd = .ok lgd)
    (hlgd' : (runEngines (runInput env pdDf' eadDf' lgdDf' config)).computeLgd = .ok lgd')
    (head : (runEngines (runInput env pdDf eadDf lgdDf config)).computeEad pd lgd
      = .ok (ead, warnings))
    (head' : (runEngines (runInput env pdDf' eadDf' lgdDf' config)).computeEad pd' lgd'
      = .ok (ead', warnings'))
    {r r' : Record} (hr : r ∈ eadDf.rows) (hr' : r' ∈ eadDf'.rows)
    (hshared : SharedLoan env rows rows' lgdDf lgdDf' r r') :
    (ead.filter fun s => s.loanId = (r.cell "Loan ID").pyStr env)
      = ead'.filter fun s => s.loanId = (r.cell "Loan ID").pyStr env := by
  obtain ⟨⟨out, w⟩, hout, head⟩ := bind_eq_ok.mp head
  obtain ⟨records, hrecords, head⟩ := bind_eq_ok.mp head
  obtain ⟨⟨out', w'⟩, hout', head'⟩ := bind_eq_ok.mp head'
  obtain ⟨records', hrecords', head'⟩ := bind_eq_ok.mp head'
  obtain rfl : records = ead := congrArg Prod.fst (Except.ok.inj head)
  obtain rfl : records' = ead' := congrArg Prod.fst (Except.ok.inj head')
  have hkeys := nodup_loadPdRow (nodup_computePd hpd)
  have hkeys' := nodup_loadPdRow (nodup_computePd hpd')
  -- the rows of the loan, out of its own data
  have hloan : loanRows out (r.cell "Loan ID") = loanRows out' (r.cell "Loan ID") := by
    have hreference := loanRows_eq_reference hdates hids hkeys hout hr
    have hreference' := loanRows_eq_reference hdates' hids' hkeys' hout' hr'
    rw [← hshared.cell_eq] at hreference'
    rw [hreference, hreference', ← lgdOf_local hlgdColumns hlgd hlgd' hshared.pool_eq]
    have hsame : loanOf env read eadDf'.columns (loadLgdFrame lgd').columns r'
          (lgdOf (loadLgdFrame lgd) (r.cell "Loan ID"))
        = loanOf env read eadDf.columns (loadLgdFrame lgd).columns r
          (lgdOf (loadLgdFrame lgd) (r.cell "Loan ID")) := by
      simp only [loanOf, eadRow, optionalCell, ← hshared.cell_eq, hcolumns]
      rfl
    rw [hsame]
    refine loanReference_congr fun w hw => ?_
    refine find?_loadPdRow_local hread hread' hpd hpd' ?_
    rw [hw]
    exact hshared.history_eq
  -- and as they are stored
  have hown : ∀ o ∈ out', o.loanId.pyStr env = (r.cell "Loan ID").pyStr env →
      o.loanId = r.cell "Loan ID" :=
    hshared.cell_eq ▸ loanId_eq_of_pyStr hdates' hids' hkeys' hout' hr'
  have hstored := filter_eadRecord (loanId_eq_of_pyStr hdates hids hkeys hout hr) hrecords
  have hstored' := filter_eadRecord hown hrecords'
  rw [hloan] at hstored
  exact Except.ok.inj (hstored.symm.trans hstored')

/-! ### Segments without loans -/

/-- **The segments of a run's loans**, where they are texts, are all that it reads of the PD
rows. -/
lemma computeEad_local {frame : Frame} (hdates : ReadsDates env eadDf read)
    (hread : readPdRows env pdDf = .ok rows) (hread' : readPdRows env pdDf' = .ok rows')
    (hpd : (runEngines (runInput env pdDf eadDf lgdDf config)).computePd = .ok pd)
    (hpd' : (runEngines (runInput env pdDf' eadDf' lgdDf' config)).computePd = .ok pd')
    (hsegments : TextColumn (eadDf.column "SEGMENT"))
    (hstages : TextColumn (eadDf.column (resolveColumn eadDf stagingAliases "Staging")))
    (hhistory : ∀ r ∈ eadDf.rows, segmentHistory env ((r.cell "SEGMENT").pyStr env) rows
      = segmentHistory env ((r.cell "SEGMENT").pyStr env) rows') :
    computeEad env eadDf (pd.map loadPdRow) frame
      = computeEad env eadDf (pd'.map loadPdRow) frame := by
  have hkeys : ∀ (terms : List TermRow) (table : List PdResult),
      requirePdKeys eadDf terms (table.map loadPdRow) = .ok () :=
    fun _ table => requirePdKeys_of_texts hsegments hstages (segment_of_mem_loadPdRow table)
  have hinputs : joinInputs env eadDf (pd.map loadPdRow) frame
      = joinInputs env eadDf (pd'.map loadPdRow) frame := by
    simp only [joinInputs, hkeys]
  rw [computeEad_eq_bind, computeEad_eq_bind, ← hinputs]
  cases hterms : joinInputs env eadDf (pd.map loadPdRow) frame with
  | error e => rfl
  | ok terms =>
      have hjoined : joinedRows env (pd.map loadPdRow) terms
          = joinedRows env (pd'.map loadPdRow) terms := by
        rw [joinedRows, joinedRows, joinPd, joinPd,
          leftJoin_eq_map _ fun w _ => length_filter_loadPdRow (nodup_computePd hpd) w,
          leftJoin_eq_map _ fun w _ => length_filter_loadPdRow (nodup_computePd hpd') w]
        refine List.map_congr_left fun w hw => ?_
        have hsegment : ∃ r ∈ eadDf.rows, w.segment = r.cell "SEGMENT" := by
          have hterm := toTermRow_mem hw
          rw [joinInputs_ok hdates hterms] at hterm
          obtain ⟨s, hs, hwterm⟩ := List.mem_map.mp hterm
          obtain ⟨d, hd, k, rfl⟩ := mem_expandDated hs
          obtain ⟨r, hr, rfl⟩ := List.mem_map.mp hd
          exact ⟨r, (mem_sortByKey _).mp hr, (congrArg (fun t : TermRow => t.segment) hwterm).symm⟩
        obtain ⟨r, hr, hw⟩ := hsegment
        rw [List.head?_filter, List.head?_filter,
          find?_loadPdRow_local hread hread' hpd hpd' (by rw [hw]; exact hhistory r hr)]
      simp only [bind, Except.bind, hjoined]

/-! ### Another segment

The loan of `sampleEadFrame`, with and without a loan of another segment in the PD file. -/

/-- A loan of a segment `SME`. -/
def smeRecord : Record where
  index := 4
  cell name :=
    if name = "SEGMENT" then .str "SME" else (Engine.pdRecord 4 "S" 24288 .stage1 5).cell name

def twoSegmentsFrame : Frame := { samplePdFrame with rows := samplePdFrame.rows ++ [smeRecord] }

def twoSegmentsRows : List PdRow :=
  samplePdRows ++ [{ samplePdRow "S" 24288 .stage1 5 with segment := .str "SME" }]

lemma readPdRows_twoSegments : readPdRows plainEnv twoSegmentsFrame = .ok twoSegmentsRows := rfl

lemma computePd_twoSegments (eadDf lgdDf : Frame) (config : List CollateralConfig) :
    ∃ pd, (runEngines (runInput plainEnv twoSegmentsFrame eadDf lgdDf config)).computePd = .ok pd := by
  have hrows : ∀ c ∈ twoSegmentsRows.map (·.loanAmount), ∃ q, 0 ≤ q ∧ c = .num q := by
    intro c hc
    simp only [twoSegmentsRows, samplePdRows, List.cons_append, List.nil_append, List.map_cons,
      List.map_nil, List.mem_cons, List.not_mem_nil, or_false] at hc
    rcases hc with rfl | rfl | rfl | rfl | rfl <;> exact ⟨_, by norm_num, rfl⟩
  have hnumbers : NumbersOnly (twoSegmentsRows.map (·.loanAmount)) := by
    intro c hc
    obtain ⟨q, -, hq⟩ := hrows c hc
    exact Or.inr ⟨q, hq⟩
  have hamounts : NonnegAmounts plainEnv (twoSegmentsRows.map (·.loanAmount)) := by
    refine hnumbers.nonnegAmounts fun q hq => ?_
    obtain ⟨x, hx, heq⟩ := hrows _ hq
    obtain rfl := Cell.num.inj heq
    exact hx
  have hsegments : ((segmentsOf plainEnv (nextStaging twoSegmentsRows)).map
      (Cell.pyStr plainEnv)).Nodup := by
    refine (nodup_segmentsOf plainEnv _).map_on fun c hc d hd hsame => ?_
    have htext : ∀ c ∈ segmentsOf plainEnv (nextStaging twoSegmentsRows), ∃ s, c = .str s := by
      intro c hc
      rw [segmentsOf, mem_sortByKey, mem_dropDuplicates_id, List.mem_filter, List.mem_map] at hc
      obtain ⟨⟨t, ht, rfl⟩, -⟩ := hc
      have hrow := row_mem_of_mem_nextStaging ht
      simp only [twoSegmentsRows, samplePdRows, List.cons_append, List.nil_append, List.mem_cons,
        List.not_mem_nil, or_false] at hrow
      rcases hrow with hrow | hrow | hrow | hrow | hrow <;> rw [hrow] <;> exact ⟨_, rfl⟩
    obtain ⟨s, rfl⟩ := htext c hc
    obtain ⟨s', rfl⟩ := htext d hd
    exact congrArg Cell.str hsame
  have hcheck : checkPdRows plainEnv twoSegmentsRows = .ok () := by
    refine checkPdRows_eq_ok (by decide) (by decide) ?_ hnumbers
    intro r hr
    simp only [twoSegmentsRows, samplePdRows, List.cons_append, List.nil_append, List.mem_cons,
      List.not_mem_nil, or_false] at hr
    rcases hr with rfl | rfl | rfl | rfl | rfl <;> simp [samplePdRow]
  obtain ⟨pd, -, hpd⟩ := @exists_computePd
    (runInput plainEnv twoSegmentsFrame eadDf lgdDf config) _ hamounts hsegments
    (computePd_eq_ok readPdRows_twoSegments hcheck)
  exact ⟨pd, hpd⟩

lemma computeLgd_noCash (pdDf : Frame) :
    (runEngines (runInput plainEnv pdDf sampleEadFrame (cashFrame 0) [cash (1 / 2)])).computeLgd
      = .ok sampleLgd := by
  simp only [runEngines, runInput, lgdResultsOf_noCash, bind, Except.bind]
  rfl

lemma segmentHistory_twoSegments :
    segmentHistory plainEnv "RETAIL" samplePdRows
      = segmentHistory plainEnv "RETAIL" twoSegmentsRows := by
  decide

/-- The loan has its two rows with and without the other segment. -/
theorem storedLoan_local_sample :
    ∃ pd pd' ead', (runEngines sampleInput).computePd = .ok pd ∧
      (runEngines (runInput plainEnv twoSegmentsFrame sampleEadFrame (cashFrame 0)
        [cash (1 / 2)])).computePd = .ok pd' ∧
      (runEngines (runInput plainEnv twoSegmentsFrame sampleEadFrame (cashFrame 0)
        [cash (1 / 2)])).computeEad pd' sampleLgd = .ok (ead', []) ∧
      (ead'.filter fun s => s.loanId = "L") = [sampleEadResult 0 9, sampleEadResult 1 8] := by
  obtain ⟨pd, hpd, -, head⟩ := engines_sample
  obtain ⟨pd', hpd'⟩ := computePd_twoSegments sampleEadFrame (cashFrame 0) [cash (1 / 2)]
  have hpdRun : (runEngines (runInput plainEnv samplePdFrame sampleEadFrame (cashFrame 0)
      [cash (1 / 2)])).computePd = .ok pd := hpd
  have headRun : (runEngines (runInput plainEnv samplePdFrame sampleEadFrame (cashFrame 0)
      [cash (1 / 2)])).computeEad pd sampleLgd
        = .ok ([sampleEadResult 0 9, sampleEadResult 1 8], []) := head
  have hdates := readsDates_plainEnv sampleEadFrame
  have hhistory : ∀ r ∈ sampleEadFrame.rows,
      segmentHistory plainEnv ((r.cell "SEGMENT").pyStr plainEnv) samplePdRows
        = segmentHistory plainEnv ((r.cell "SEGMENT").pyStr plainEnv) twoSegmentsRows := by
    intro r hr
    obtain rfl := List.mem_singleton.mp hr
    exact segmentHistory_twoSegments
  have headRun' : (runEngines (runInput plainEnv twoSegmentsFrame sampleEadFrame (cashFrame 0)
      [cash (1 / 2)])).computeEad pd' sampleLgd
        = .ok ([sampleEadResult 0 9, sampleEadResult 1 8], []) := by
    rw [← headRun]
    simp only [runEngines, runInput,
      computeEad_local hdates readPdRows_sample readPdRows_twoSegments hpdRun hpd'
        (textColumn_singleton "RETAIL") (textColumn_singleton "Stage 2") hhistory]
  refine ⟨pd, pd', _, hpd, hpd', headRun', ?_⟩
  have hids : (sampleEadFrame.rows.map fun r => (r.cell "Loan ID").pyStr plainEnv).Nodup :=
    List.nodup_singleton _
  have hlocal := storedLoan_local readPdRows_sample readPdRows_twoSegments hdates hdates hids hids
    rfl rfl hpdRun hpd' (computeLgd_noCash _) (computeLgd_noCash _) headRun headRun'
    List.mem_cons_self List.mem_cons_self ⟨rfl, hhistory _ List.mem_cons_self, rfl⟩
  refine hlocal.symm.trans ?_
  decide +kernel

end EclServer.Runs
