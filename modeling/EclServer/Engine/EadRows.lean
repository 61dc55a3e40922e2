import EclServer.Engine.Ead
import EclServer.Engine.PdTable

/-!
Where the rows of the ECL output come from.

* `mergeLgd_eq_map`: the merge looks up the LGD row of each loan.
* `filter_expandDated`: a selection of rows has its own snapshots.
* `map_walkLoans_perm`: the balance walk keeps every snapshot, once.
* `checkTermFloats_iff`, `checkRowFloats_iff`: when all texts are read as floats.
* `filter_matchesPd`: the PD row of a snapshot; `requirePdKeys_of_texts`: texts are joined.
* `EadRun`, `EadChecks`: the stages of a run of `compute_ead`, and what it checks.
  `exists_eadRun`: every output comes from a run that passed; `computeEad_eq_ok`: such a run gives
  one.
-/

namespace EclServer.Engine

open EclServer.Library

variable {env : PyEnv}

/-! ### Dates -/

/-- Parsed dates are added to the rows. -/
lemma map_withDates {rows : List MergedRow} {dated : List DatedRow}
    (h : withDates env rows = .ok dated) : dated.map (·.toMergedRow) = rows := by
  obtain ⟨reps, hreps, h⟩ := bind_eq_ok.mp h
  obtain ⟨mats, hmats, h⟩ := bind_eq_ok.mp h
  rw [← Except.ok.inj h]
  refine map_zipWith_left (fun _ _ => rfl) ?_
  have hrepsLen := env.length_toDatetime hreps
  have hmatsLen := env.length_toDatetime hmats
  simp only [List.length_map] at hrepsLen hmatsLen
  rw [List.length_zip]
  omega

lemma map_withTerms {rows : List SnapshotRow} {terms : List TermRow}
    (h : withTerms env rows = .ok terms) : terms.map (·.toSnapshotRow) = rows := by
  obtain ⟨reps, hreps, h⟩ := bind_eq_ok.mp h
  obtain ⟨firsts, hfirsts, h⟩ := bind_eq_ok.mp h
  obtain ⟨adjusted, hadjusted, h⟩ := bind_eq_ok.mp h
  rw [← Except.ok.inj h]
  refine map_zipWith_left (fun _ _ => rfl) ?_
  have hrepsLen := env.length_toDatetime hreps
  have hfirstsLen := env.length_toDatetime hfirsts
  have hadjustedLen := env.length_toDatetime hadjusted
  simp only [List.length_map] at hrepsLen hfirstsLen hadjustedLen
  rw [List.length_zip, List.length_zip]
  omega

/-! ### The merge -/

section Merge

variable {eadDf lgdDf : Frame}

/-- The first row of the LGD table that has a loan. -/
def lgdOf (lgdDf : Frame) (loanId : Cell) : Option LgdRow :=
  (lgdDf.rows.map (lgdRow lgdDf)).find? fun l => l.loanId = loanId

/-- The first row of a loan is the one that is left of it. -/
lemma head?_filter_lgdSubset (loanId : Cell) :
    ((lgdSubset lgdDf).filter fun l => loanId = l.loanId).head? = lgdOf lgdDf loanId := by
  rw [List.head?_filter, lgdOf, ← find?_dropDuplicates LgdRow.loanId]
  refine List.find?_congr fun l _ => ?_
  simp only [eq_comm]

/-- The merge looks up each row's loan. -/
lemma mergeLgd_eq_map : mergeLgd env eadDf lgdDf = (readEadRows env eadDf).map fun row =>
    mergedRow eadDf lgdDf (row, lgdOf lgdDf row.loanId) := by
  have hone : ∀ row ∈ readEadRows env eadDf,
      ((lgdSubset lgdDf).filter fun l => row.loanId = l.loanId).length ≤ 1 := by
    intro row _
    refine length_filter_le_one_of_key LgdRow.loanId
      (nodup_map_dropDuplicates LgdRow.loanId (lgdDf.rows.map (lgdRow lgdDf))) ?_
    intro a b ha hb
    exact (of_decide_eq_true ha).symm.trans (of_decide_eq_true hb)
  rw [mergeLgd, joinLgd, leftJoin_eq_map _ hone, List.map_map]
  refine List.map_congr_left fun row _ => ?_
  rw [Function.comp_apply, head?_filter_lgdSubset]

/-- The merge keeps the Loan IDs of the sheet. -/
lemma map_loanId_mergeLgd :
    ((mergeLgd env eadDf lgdDf).map (·.loanId)).Perm (eadDf.rows.map (·.cell "Loan ID")) := by
  have hmap : (mergeLgd env eadDf lgdDf).map (·.loanId)
      = (readEadRows env eadDf).map (·.loanId) := by
    rw [mergeLgd_eq_map, List.map_map]
    rfl
  rw [hmap]
  have hsort := (sortByKey_perm (fun r : EadRow => r.loanId.key)
    (eadDf.rows.map (eadRow env eadDf))).map (·.loanId)
  refine hsort.trans ?_
  rw [List.map_map]
  exact List.Perm.refl _

end Merge

/-! ### Snapshots -/

@[simp] lemma toMergedRow_snapshot (d : DatedRow) (k : ℕ) :
    (d.snapshot k).toMergedRow = d.toMergedRow := rfl

/-- A snapshot is a snapshot of a row. -/
lemma mem_expandDated {rows : List DatedRow} {s : SnapshotRow} (h : s ∈ expandDated rows) :
    ∃ d ∈ rows, ∃ k, s = d.snapshot k := by
  simp only [expandDated, List.mem_append, List.mem_map, expandStage1, expandStage2,
    List.mem_flatMap, inStage, List.mem_filter] at h
  rcases h with ((⟨d, hd, rfl⟩ | ⟨k, _, d, hd, rfl⟩) | ⟨d, hd, k, _, rfl⟩) | ⟨d, hd, rfl⟩
  · exact ⟨d, hd.1, 0, rfl⟩
  · exact ⟨d, hd.1.1, k, rfl⟩
  · exact ⟨d, hd.1, k, rfl⟩
  · exact ⟨d, hd.1, 0, rfl⟩

/-- **The expansion keeps to its rows**: the snapshots of a selection of the rows are the
expansion of the selection. -/
lemma filter_expandDated (p : MergedRow → Bool) (rows : List DatedRow) :
    (expandDated rows).filter (fun s => p s.toMergedRow)
      = expandDated (rows.filter fun d => p d.toMergedRow) := by
  have hmap : ∀ (l : List DatedRow) (k : ℕ),
      (l.map (·.snapshot k)).filter (fun s => p s.toMergedRow)
        = (l.filter fun d => p d.toMergedRow).map (·.snapshot k) := by
    intro l k
    rw [List.filter_map]
    rfl
  have hcomm : ∀ (l : List DatedRow) (q : DatedRow → Bool),
      (l.filter q).filter (fun d => p d.toMergedRow)
        = (l.filter fun d => p d.toMergedRow).filter q := by
    intro l q
    rw [List.filter_filter, List.filter_filter]
    exact List.filter_congr fun d _ => Bool.and_comm _ _
  have htwo : ∀ l : List DatedRow, (expandStage2 l).filter (fun s => p s.toMergedRow)
      = expandStage2 (l.filter fun d => p d.toMergedRow) := by
    intro l
    induction l with
    | nil => rfl
    | cons d ds ih =>
        have hcons : expandStage2 (d :: ds)
            = ((List.range (d.horizon + 1)).filter fun k => d.matures k).map d.snapshot
              ++ expandStage2 ds := rfl
        have hsame : ((fun s : SnapshotRow => p s.toMergedRow) ∘ d.snapshot)
            = fun _ => p d.toMergedRow := rfl
        rw [hcons, List.filter_append, ih, List.filter_map, hsame]
        cases hd : p d.toMergedRow with
        | true =>
            rw [List.filter_cons_of_pos (p := fun d : DatedRow => p d.toMergedRow) hd,
              List.filter_true]
            rfl
        | false =>
            rw [List.filter_cons_of_neg (p := fun d : DatedRow => p d.toMergedRow) (by simp [hd]),
              List.filter_false, List.map_nil, List.nil_append]
  simp only [expandDated, List.filter_append, hmap, inStage, hcomm, htwo, expandStage1,
    List.filter_flatMap]

/-! ### The walk -/

lemma map_walkRows (monthlyRate instalment : Option ℚ) (freq : Frequency)
    (prior : List (Option ℚ)) (opening : Option ℚ) (rs : List TermRow) :
    (walkRows monthlyRate instalment freq prior opening rs).map (·.toTermRow) = rs := by
  induction rs generalizing prior opening with
  | nil => rfl
  | cons r rs ih => rw [walkRows, List.map_cons, ih]

lemma map_walkLoan (instalment : Option ℚ) (group : List TermRow) :
    (walkLoan env instalment group).map (·.toTermRow) = byDate group := by
  rw [walkLoan]
  split
  · rename_i hnil
    rw [hnil, List.map_nil]
  · rename_i first rest hcons
    rw [map_walkRows, hcons]

/-- The walk keeps every snapshot, once. -/
lemma map_walkLoans_perm (terms : List TermRow) :
    ((walkLoans env terms).map (·.toTermRow)).Perm terms := by
  have hmap : (walkLoans env terms).map (·.toTermRow)
      = (sortByKey id (groupKeys (TermRow.loanKey env) terms)).flatMap fun loanKey =>
        byDate (groupBy (TermRow.loanKey env) terms loanKey) := by
    rw [walkLoans, List.map_flatMap]
    exact List.flatMap_congr fun loanKey _ => map_walkLoan _ _
  have hdates : ((sortByKey id (groupKeys (TermRow.loanKey env) terms)).flatMap fun loanKey =>
      byDate (groupBy (TermRow.loanKey env) terms loanKey)).Perm
      ((sortByKey id (groupKeys (TermRow.loanKey env) terms)).flatMap
        (groupBy (TermRow.loanKey env) terms)) :=
    List.Perm.flatMap_left _ fun _ _ => sortByKey_perm _ _
  rw [hmap]
  refine hdates.trans (flatMap_groupBy_perm ?_ ?_)
  · exact (sortByKey_perm _ _).nodup_iff.mpr (nodup_groupKeys _ _)
  · intro t ht
    rw [mem_sortByKey]
    exact (mem_groupKeys _).mpr ⟨t, ht, rfl⟩

lemma toTermRow_mem {terms : List TermRow} {w : WalkedRow} (h : w ∈ walkLoans env terms) :
    w.toTermRow ∈ terms :=
  (map_walkLoans_perm terms).mem_iff.mp (List.mem_map_of_mem h)

/-- The instalment of a loan that has a snapshot is that of one of `loanTerms`. -/
lemma exists_instalmentOf {terms : List TermRow} {t : TermRow} (ht : t ∈ terms) :
    ∃ loan ∈ loanTerms terms, loan.loanKey env = t.loanKey env ∧
      instalmentOf env terms (t.loanKey env) = periodInstalment env
        (floatOf env loan.outstandingAmount) (floatOf env loan.eir) loan.remaining loan.freq := by
  rw [instalmentOf]
  split
  · rename_i loan hfind
    exact ⟨loan, List.mem_reverse.mp (List.mem_of_find?_eq_some hfind),
      by simpa using List.find?_some hfind, rfl⟩
  · rename_i hfind
    -- the first snapshot of the loan would have been found
    obtain ⟨first, hfirst, hid⟩ := exists_mem_dropDuplicates (fun r : TermRow => r.loanId) ht
    have hnot := List.find?_eq_none.mp hfind first (List.mem_reverse.mpr hfirst)
    have hkey : first.loanKey env = t.loanKey env := congrArg (Cell.pyStr env) hid
    exact absurd hkey (by simpa using hnot)

/-! ### Texts that are read as floats -/

/-- The first row of a walk is a snapshot. -/
lemma mem_of_mem_walkHeads {terms : List TermRow} {t : TermRow} (h : t ∈ walkHeads env terms) :
    t ∈ terms := by
  obtain ⟨loanKey, -, hhead⟩ := List.mem_filterMap.mp h
  exact ((mem_groupBy _).mp ((mem_sortByKey _).mp (List.mem_of_mem_head? hhead))).1

/-- The floats of the loans are read where each of them is. -/
lemma checkTermFloats_iff {terms : List TermRow} : checkTermFloats env terms = .ok () ↔
    ∀ t ∈ loanTerms terms ++ walkHeads env terms,
      (∃ x, t.outstandingAmount.toFloat env = .ok x) ∧ ∃ x, t.eir.toFloat env = .ok x := by
  constructor
  · intro h t ht
    obtain ⟨_, hread, -⟩ := bind_eq_ok.mp h
    obtain ⟨_, -, hloan⟩ := exists_mem_of_mapM_ok hread ht
    obtain ⟨amount, hamount, hrate⟩ := bind_eq_ok.mp hloan
    exact ⟨⟨amount, hamount⟩, _, hrate⟩
  · intro h
    obtain ⟨rates, hrates⟩ := exists_mapM_ok (l := loanTerms terms ++ walkHeads env terms)
      (f := fun r => do
        let _ ← r.outstandingAmount.toFloat env
        r.eir.toFloat env) (by
        intro t ht
        obtain ⟨⟨amount, hamount⟩, rate, hrate⟩ := h t ht
        exact ⟨rate, bind_eq_ok.mpr ⟨amount, hamount, hrate⟩⟩)
    exact bind_eq_ok.mpr ⟨rates, hrates, rfl⟩

/-- The floats of the rows are read where each of them is. -/
lemma checkRowFloats_iff {terms : List TermRow} : checkRowFloats env terms = .ok () ↔
    ∀ t ∈ terms, (∃ x, t.collateral.toFloat env = .ok x) ∧ ∃ x, t.eir.toFloat env = .ok x := by
  constructor
  · intro h t ht
    obtain ⟨_, hcovers, h⟩ := bind_eq_ok.mp h
    obtain ⟨_, hrates, -⟩ := bind_eq_ok.mp h
    obtain ⟨cover, -, hcover⟩ := exists_mem_of_mapM_ok hcovers ht
    obtain ⟨rate, -, hrate⟩ := exists_mem_of_mapM_ok hrates ht
    exact ⟨⟨cover, hcover⟩, rate, hrate⟩
  · intro h
    obtain ⟨covers, hcovers⟩ := exists_mapM_ok (l := terms)
      (f := fun r => r.collateral.toFloat env) fun t ht => (h t ht).1
    obtain ⟨rates, hrates⟩ := exists_mapM_ok (l := terms) (f := fun r => r.eir.toFloat env)
      fun t ht => (h t ht).2
    exact bind_eq_ok.mpr ⟨covers, hcovers, bind_eq_ok.mpr ⟨rates, hrates, rfl⟩⟩

/-- Where every cell that is read is a float, nothing stops the engine. -/
lemma checkFloats_ok {terms : List TermRow}
    (h : ∀ t ∈ terms, ∀ c ∈ [t.outstandingAmount, t.eir, t.collateral],
      ∃ x, c.toFloat env = .ok x) :
    checkTermFloats env terms = .ok () ∧ checkRowFloats env terms = .ok () := by
  refine ⟨checkTermFloats_iff.mpr fun t ht => ?_, checkRowFloats_iff.mpr fun t ht => ?_⟩
  · have hmem : t ∈ terms := by
      rcases List.mem_append.mp ht with hloan | hhead
      · exact mem_of_mem_dropDuplicates _ hloan
      · exact mem_of_mem_walkHeads hhead
    exact ⟨h t hmem _ (by simp), h t hmem _ (by simp)⟩
  · exact ⟨h t ht _ (by simp), h t ht _ (by simp)⟩

/-! ### The PD of a snapshot -/

section MatchesPd

variable {rows : List PdRow} {w : WalkedRow} {st : LoanStage} {n : ℕ}

/-- The cure rates of the table of `rows`. -/
def cureRatesOf (env : PyEnv) (rows : List PdRow) (segment : Cell) : ℚ :=
  cureRate (segmentMatrices env (nextStaging rows) segment).proportions

lemma LoanStage.text_injective : Function.Injective LoanStage.text := by
  intro a b h
  cases a <;> cases b <;> first | rfl | exact absurd h (by decide)

/-- A snapshot of a known segment and stage, within the horizon, has the table's row of its
month. -/
lemma filter_matchesPd (st : LoanStage) (hsegment : w.segment ∈ segmentsOf env (nextStaging rows))
    (hperiod : w.periodSinceOrigination = some (n : ℤ)) (hn : n ∈ pdMonths)
    (hstaging : w.staging = .str st.text) :
    (pdOutput env rows).table.filter (matchesPd w)
      = [tableRow env (cureRatesOf env rows) (nextStaging rows) w.segment st n] := by
  have hsplit : ∀ t : PdTableRow, matchesPd w t
      = (decide (t.month = n) && decide (t.groupKey = (w.segment, st))) := by
    intro t
    rw [matchesPd, hperiod, hstaging, Bool.eq_iff_iff]
    simp only [decide_eq_true_eq, Bool.and_eq_true, Option.some.injEq, Cell.str.injEq,
      Nat.cast_inj, ProbRow.groupKey, Prod.mk.injEq]
    constructor
    · rintro ⟨hseg, hmonth, htext⟩
      exact ⟨hmonth.symm, hseg.symm, (LoanStage.text_injective htext).symm⟩
    · rintro ⟨hmonth, hseg, hst⟩
      exact ⟨hseg.symm, hmonth.symm, by rw [hst]⟩
  have hmonth : pdMonths.filter (fun m => m = n) = [n] := by
    have hcount : pdMonths.count n = 1 := List.count_eq_one_of_mem List.nodup_range' hn
    rw [List.filter_eq, hcount, List.replicate_one]
  rw [List.filter_congr fun t _ => hsplit t, ← List.filter_filter, filter_table hsegment,
    List.filter_map]
  exact congrArg (List.map _) hmonth

/-- At most one row of the table matches a snapshot. -/
lemma length_filter_matchesPd (w : WalkedRow) :
    ((pdOutput env rows).table.filter (matchesPd w)).length ≤ 1 := by
  by_cases hnone : (pdOutput env rows).table.filter (matchesPd w) = []
  · simp [hnone]
  · obtain ⟨t, ht⟩ := List.exists_mem_of_ne_nil _ hnone
    obtain ⟨hmem, hmatch⟩ := List.mem_filter.mp ht
    obtain ⟨segment, hsegment, st, n, hn, rfl⟩ := mem_table.mp hmem
    simp only [matchesPd, decide_eq_true_eq] at hmatch
    obtain ⟨hseg, hperiod, hstaging⟩ := hmatch
    have hsegment' : w.segment ∈ segmentsOf env (nextStaging rows) := by
      rw [hseg]
      exact hsegment
    rw [filter_matchesPd st hsegment' hperiod hn hstaging]
    exact le_rfl

/-- With a table of `compute_pd`, the join adds a column. -/
lemma joinPd_eq_map (walked : List WalkedRow) :
    joinPd walked (pdOutput env rows).table
      = walked.map fun w => (w, ((pdOutput env rows).table.filter (matchesPd w)).head?) :=
  leftJoin_eq_map _ fun w _ => length_filter_matchesPd w

end MatchesPd

/-! ### Keys of a merge -/

/-- A column of texts, blanks aside. -/
def TextColumn (cells : List Cell) : Prop :=
  (∃ s, .str s ∈ cells) ∧ ∀ c ∈ cells, c = .blank ∨ ∃ s, c = .str s

lemma textColumn_singleton (s : String) : TextColumn [.str s] :=
  ⟨⟨s, List.mem_singleton_self _⟩, fun _ hc => Or.inr ⟨s, List.mem_singleton.mp hc⟩⟩

lemma TextColumn.columnType_eq {cells : List Cell} (h : TextColumn cells) :
    columnType cells = .object := by
  obtain ⟨⟨s, hs⟩, -⟩ := h
  have hobject : ColumnType.object ∈ cells.filterMap Cell.valueType? :=
    List.mem_filterMap.mpr ⟨_, hs, rfl⟩
  simp only [columnType]
  rw [if_neg fun hall => absurd (hall _ hobject) (by decide),
    if_neg fun hall => absurd (hall _ hobject) (by decide)]

/-- Texts merge with texts, whatever rows of the left column are left. -/
lemma requireMergeable_of_texts {column right : List Cell} (hcolumn : TextColumn column)
    (hright : ∀ c ∈ right, ∃ s, c = .str s) (name : String) (left : List Cell) :
    requireMergeable name (columnType column) left right = .ok () := by
  refine if_pos ?_
  cases right with
  | nil => simp [mergeable]
  | cons c rest =>
      have htexts : TextColumn (c :: rest) := by
        obtain ⟨s, hs⟩ := hright c List.mem_cons_self
        exact ⟨⟨s, hs ▸ List.mem_cons_self⟩, fun c hc => Or.inr (hright c hc)⟩
      simp [mergeable, hcolumn.columnType_eq, htexts.columnType_eq]

/-- A sheet whose segments and stages are texts is joined with any table whose segments are. -/
lemma requirePdKeys_of_texts {eadDf : Frame} {terms : List TermRow} {pdTable : List PdTableRow}
    (hsegments : TextColumn (eadDf.column "SEGMENT"))
    (hstages : TextColumn (eadDf.column (resolveColumn eadDf stagingAliases "Staging")))
    (htable : ∀ t ∈ pdTable, ∃ s, t.segment = .str s) :
    requirePdKeys eadDf terms pdTable = .ok () := by
  refine bind_eq_ok.mpr ⟨(), requireMergeable_of_texts hsegments (fun c hc => ?_) _ _,
    requireMergeable_of_texts hstages (fun c hc => ?_) _ _⟩
  · obtain ⟨t, ht, rfl⟩ := List.mem_map.mp hc
    exact htable t ht
  · obtain ⟨t, -, rfl⟩ := List.mem_map.mp hc
    exact ⟨_, rfl⟩

/-! ### The stages of a run -/

/-- The stages of a run of `compute_ead` that gave `out`. -/
structure EadRun (env : PyEnv) (eadDf : Frame) (pdTable : List PdTableRow) (lgdDf : Frame)
    (out : List EclRow) where
  dated : List DatedRow
  terms : List TermRow
  columns_ok : requireEadColumns eadDf lgdDf = .ok ()
  dated_ok : withDates env (mergeLgd env eadDf lgdDf) = .ok dated
  terms_eq : terms.map (·.toSnapshotRow) = expandDated dated
  out_eq : out = sortByKey EclRow.sortKey (eclRows env (joinPd (walkLoans env terms) pdTable))

/-- The dated rows are the merged ones. -/
lemma EadRun.dated_eq {eadDf lgdDf : Frame} {pdTable : List PdTableRow} {out : List EclRow}
    (run : EadRun env eadDf pdTable lgdDf out) :
    run.dated.map (·.toMergedRow) = mergeLgd env eadDf lgdDf :=
  map_withDates run.dated_ok

/-- What `compute_ead` checks on a sheet with snapshots, EC-08 aside: its columns, the keys of its
merges and the texts that it reads as floats. -/
structure EadChecks (env : PyEnv) (eadDf lgdDf : Frame) (pdTable : List PdTableRow)
    (terms : List TermRow) : Prop where
  columns : requireEadColumns eadDf lgdDf = .ok ()
  keys : requirePdKeys eadDf terms pdTable = .ok ()
  term : requireTermColumns eadDf = .ok ()
  marginal : requireJoined eadDf "Marginal_PD" = .ok ()
  cure : requireJoined eadDf "Cure_Rate" = .ok ()
  output : requireOutputColumns eadDf = .ok ()
  floats : checkTermFloats env terms = .ok ()
  rows : checkRowFloats env terms = .ok ()

@[simp] lemma walkLoans_nil : walkLoans env [] = [] := by
  simp [walkLoans, groupKeys, dropDuplicates]

/-- Every output comes from such a run; without snapshots it has no rows, and else its terms
are read from the snapshots, and every check lets them pass. -/
lemma exists_eadRun {eadDf lgdDf : Frame} {pdTable : List PdTableRow} {out : List EclRow}
    {warnings : List String} (h : computeEad env eadDf pdTable lgdDf = .ok (out, warnings)) :
    ∃ run : EadRun env eadDf pdTable lgdDf out,
      warnings = missingLgdWarnings env (joinLgd env eadDf lgdDf) ∧
      ((expandDated run.dated = [] ∧ run.terms = []) ∨
        (expandDated run.dated ≠ [] ∧ withTerms env (expandDated run.dated) = .ok run.terms ∧
          EadChecks env eadDf lgdDf pdTable run.terms ∧
          checkSegments (missingSegments env (joinPd (walkLoans env run.terms) pdTable))
            = .ok ())) := by
  obtain ⟨_, hcolumns, h⟩ := bind_eq_ok.mp h
  obtain ⟨dated, hdated, h⟩ := bind_eq_ok.mp h
  by_cases hempty : (expandDated dated).isEmpty = true
  · rw [if_pos hempty] at h
    obtain ⟨rfl, hwarnings⟩ : [] = out ∧ _ := Prod.mk.inj (Except.ok.inj h)
    have hnone : expandDated dated = [] := List.isEmpty_iff.mp hempty
    refine ⟨⟨dated, [], hcolumns, hdated, ?_, ?_⟩, hwarnings.symm, Or.inl ⟨hnone, rfl⟩⟩
    · rw [hnone, List.map_nil]
    · simp [joinPd, leftJoin, eclRows]
  · rw [if_neg hempty] at h
    obtain ⟨_, hterm, h⟩ := bind_eq_ok.mp h
    obtain ⟨terms, hterms, h⟩ := bind_eq_ok.mp h
    obtain ⟨_, hfloats, h⟩ := bind_eq_ok.mp h
    obtain ⟨_, hkeys, h⟩ := bind_eq_ok.mp h
    obtain ⟨_, hmarginal, h⟩ := bind_eq_ok.mp h
    obtain ⟨_, hsegments, h⟩ := bind_eq_ok.mp h
    obtain ⟨_, hcure, h⟩ := bind_eq_ok.mp h
    obtain ⟨_, hrows, h⟩ := bind_eq_ok.mp h
    obtain ⟨_, houtput, h⟩ := bind_eq_ok.mp h
    obtain ⟨hout, hwarnings⟩ := Prod.mk.inj (Except.ok.inj h)
    refine ⟨⟨dated, terms, hcolumns, hdated, map_withTerms hterms, hout.symm⟩, hwarnings.symm,
      Or.inr ⟨?_, hterms, ?_, hsegments⟩⟩
    · exact fun hnone => hempty (List.isEmpty_iff.mpr hnone)
    · exact ⟨hcolumns, hkeys, hterm, hmarginal, hcure, houtput, hfloats, hrows⟩

lemma computeEad_ok {eadDf lgdDf : Frame} {pdTable : List PdTableRow} {out : List EclRow}
    {warnings : List String} (h : computeEad env eadDf pdTable lgdDf = .ok (out, warnings)) :
    Nonempty (EadRun env eadDf pdTable lgdDf out) := by
  obtain ⟨run, _⟩ := exists_eadRun h
  exact ⟨run⟩

/-- A run whose stages all succeed. -/
lemma computeEad_eq_ok {eadDf lgdDf : Frame} {pdTable : List PdTableRow} {dated : List DatedRow}
    {terms : List TermRow} (hchecks : EadChecks env eadDf lgdDf pdTable terms)
    (hdated : withDates env (mergeLgd env eadDf lgdDf) = .ok dated)
    (hsome : (expandDated dated).isEmpty = false)
    (hterms : withTerms env (expandDated dated) = .ok terms)
    (hsegments : checkSegments (missingSegments env (joinPd (walkLoans env terms) pdTable))
      = .ok ()) :
    computeEad env eadDf pdTable lgdDf
      = .ok (sortByKey EclRow.sortKey (eclRows env (joinPd (walkLoans env terms) pdTable)),
          missingLgdWarnings env (joinLgd env eadDf lgdDf)) := by
  rw [computeEad, hchecks.columns]
  simp only [bind, Except.bind, hdated, hsome, Bool.false_eq_true, if_false, hchecks.term, hterms,
    hchecks.floats, hchecks.keys, hchecks.marginal, hsegments, hchecks.cure,
    hchecks.rows, hchecks.output, pure, Except.pure]

/-! ### Where a row of the output comes from -/

section Origin

variable {eadDf lgdDf : Frame} {pdTable : List PdTableRow} {out : List EclRow}

/-- A row of the output is made of a walked snapshot and, perhaps, a row of the PD table. -/
lemma EadRun.mem_out (run : EadRun env eadDf pdTable lgdDf out) {r : EclRow} (h : r ∈ out) :
    ∃ w ∈ walkLoans env run.terms, ∃ pd : Option PdTableRow, (∀ t ∈ pd, t ∈ pdTable) ∧
      r = eclRow env (w, pd) := by
  rw [run.out_eq, mem_sortByKey] at h
  obtain ⟨⟨w, pd⟩, hmem, rfl⟩ := List.mem_map.mp h
  obtain ⟨hw, hpd⟩ := (mem_leftJoin matchesPd).mp hmem
  refine ⟨w, hw, pd, ?_, rfl⟩
  intro t ht
  rcases hpd with ⟨rfl, _⟩ | ⟨c, hc, _, rfl⟩
  · simp at ht
  · obtain rfl : c = t := Option.some.inj ht
    exact hc

/-- A term row is a snapshot of a merged row. -/
lemma EadRun.toMergedRow_mem (run : EadRun env eadDf pdTable lgdDf out) {t : TermRow}
    (h : t ∈ run.terms) : t.toMergedRow ∈ mergeLgd env eadDf lgdDf := by
  have hsnapshot : t.toSnapshotRow ∈ expandDated run.dated := by
    rw [← run.terms_eq]
    exact List.mem_map_of_mem h
  obtain ⟨d, hd, k, hk⟩ := mem_expandDated hsnapshot
  have hmerged : t.toMergedRow = d.toMergedRow := by
    rw [hk, toMergedRow_snapshot]
  rw [hmerged, ← run.dated_eq]
  exact List.mem_map_of_mem hd

/-- A merged row joins a record of the EAD sheet and, perhaps, one of the LGD table. -/
lemma mem_mergeLgd {m : MergedRow} (h : m ∈ mergeLgd env eadDf lgdDf) :
    ∃ record ∈ eadDf.rows, ∃ lgd : Option LgdRow, (∀ l ∈ lgd, l ∈ lgdSubset lgdDf) ∧
      m = mergedRow eadDf lgdDf (eadRow env eadDf record, lgd) := by
  obtain ⟨⟨row, lgd⟩, hmem, rfl⟩ := List.mem_map.mp h
  obtain ⟨hrow, hlgd⟩ := (mem_leftJoin _).mp hmem
  obtain ⟨record, hrecord, rfl⟩ := List.mem_map.mp ((mem_sortByKey _).mp hrow)
  refine ⟨record, hrecord, lgd, ?_, rfl⟩
  intro l hl
  rcases hlgd with ⟨rfl, _⟩ | ⟨c, hc, _, rfl⟩
  · simp at hl
  · obtain rfl : c = l := Option.some.inj hl
    exact hc

end Origin

end EclServer.Engine
