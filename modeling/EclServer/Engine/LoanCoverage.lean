import EclServer.Engine.LoanReference

/-!
Which loans of an accepted EAD sheet have rows in the output of `compute_ead`.

* `DatedRow.Kept`, `offsets_ne_nil_iff`: the rows that have a snapshot.
* `covered_iff`: the output covers the loans whose row is kept.
* `datesCover_iff`: in an accepted sheet a row is lost where it is Stage 1 or Stage 2 and one
  of its two dates is blank, which `check_valid_dates` lets pass.
* `loans_covered_iff`: both.
-/

namespace EclServer.Engine

open EclServer.Library

/-! ### Rows with a snapshot -/

/-- A row of Stage 1 or Stage 2 has both its dates, in order. -/
def DatedRow.Kept (d : DatedRow) : Prop :=
  d.staging = .str LoanStage.stage1.text ∨ d.staging = .str LoanStage.stage2.text →
    ∃ rep mat, d.repDate = some rep ∧ d.matDate = some mat ∧ rep ≤ mat

/-- A row that matures after some months has not matured before. -/
lemma DatedRow.matures_zero {d : DatedRow} {k : ℕ} (h : d.matures k = true) :
    ∃ rep mat, d.repDate = some rep ∧ d.matDate = some mat ∧ rep ≤ mat := by
  rw [matures] at h
  split at h
  · rename_i rep mat hrep hmat
    refine ⟨rep, mat, hrep, hmat, ?_⟩
    have hlater : rep ≤ rep.addMonths k := by
      calc rep = rep.addMonths 0 := rep.addMonths_zero.symm
        _ ≤ rep.addMonths k := rep.addMonths_strictMono.monotone (Int.natCast_nonneg k)
    exact hlater.trans (of_decide_eq_true h)
  · cases h

/-- **The rows with a snapshot** are those that are kept. -/
lemma DatedRow.offsets_ne_nil_iff (d : DatedRow) : d.offsets ≠ [] ↔ d.Kept := by
  have hzero : ∀ n, 0 < n → (∃ rep mat, d.repDate = some rep ∧ d.matDate = some mat ∧ rep ≤ mat) →
      (List.range n).filter d.matures ≠ [] := by
    rintro n hn ⟨rep, mat, hrep, hmat, hle⟩ hnil
    have hnot := List.filter_eq_nil_iff.mp hnil 0 (List.mem_range.mpr hn)
    rw [matures, hrep, hmat] at hnot
    exact hnot (by simpa using hle)
  have hsome : ∀ n, (List.range n).filter d.matures ≠ [] →
      ∃ rep mat, d.repDate = some rep ∧ d.matDate = some mat ∧ rep ≤ mat := by
    intro n hne
    obtain ⟨k, hk⟩ := List.exists_mem_of_ne_nil _ hne
    exact matures_zero (List.mem_filter.mp hk).2
  rw [offsets, Kept]
  split_ifs with h1 h2
  · exact ⟨fun hne _ => hsome 13 hne, fun hkept => hzero 13 (by omega) (hkept (Or.inl h1))⟩
  · exact ⟨fun hne _ => hsome _ hne, fun hkept => hzero _ (by omega) (hkept (Or.inr h2))⟩
  · refine iff_of_true (by simp) fun hstage => ?_
    rcases hstage with h | h
    · exact absurd h h1
    · exact absurd h h2

lemma mem_expandDated_iff {rows : List DatedRow} {s : SnapshotRow} :
    s ∈ expandDated rows ↔ ∃ d ∈ rows, ∃ k ∈ d.offsets, s = d.snapshot k := by
  rw [(DatedRow.expandDated_perm rows).mem_iff, List.mem_flatMap]
  simp only [List.mem_map, eq_comm]

/-! ### Covered loans -/

section

variable {env : PyEnv} {eadDf lgdDf : Frame} {pdTable : List PdTableRow} {out : List EclRow}

/-- Every row of the sheet, as the engine reads it, is kept. -/
def DatesCover (env : PyEnv) (eadDf : Frame) : Prop :=
  ∀ rows, inputRows env eadDf = .ok rows → ∀ d ∈ rows, d.Kept

/-- The LGD table has no say in what is kept. -/
lemma datesCover_iff_of_withDates {dated : List DatedRow}
    (h : withDates env (mergeLgd env eadDf lgdDf) = .ok dated) :
    DatesCover env eadDf ↔ ∀ d ∈ dated, d.Kept := by
  rw [mergeLgd_eq_map] at h
  obtain ⟨rows, hrows, hsame⟩ := withDates_congr
    (f := fun row => mergedRow eadDf lgdDf (row, lgdOf lgdDf row.loanId))
    (g := fun row => mergedRow eadDf { columns := [], rows := [] } (row, none))
    (fun _ => rfl) h
  have hkept : (∀ d ∈ dated, d.Kept) ↔ ∀ d ∈ rows, d.Kept := by
    clear h hrows
    induction hsame with
    | nil => simp
    | cons hd _ ih =>
        obtain ⟨hrow, hrep, hmat⟩ := hd
        rw [List.forall_mem_cons, List.forall_mem_cons, ih, DatedRow.Kept, DatedRow.Kept, hrep, hmat,
          congrArg EadRow.staging hrow]
  rw [hkept]
  constructor
  · intro hcover
    exact hcover rows hrows
  · intro hall rows' hrows'
    obtain rfl := Except.ok.inj (hrows.symm.trans hrows')
    exact hall

/-- **The output covers the sheet** where its rows are kept. -/
lemma covered_iff (hnodup : (eadDf.rows.map (·.cell "Loan ID")).Nodup)
    (run : EadRun env eadDf pdTable lgdDf out) :
    (∀ r ∈ eadDf.rows, ∃ o ∈ out, o.loanId = r.cell "Loan ID") ↔ DatesCover env eadDf := by
  rw [datesCover_iff_of_withDates run.dated_ok]
  have hids : (run.dated.map (·.loanId)).Nodup := by
    have hperm := @map_loanId_mergeLgd env eadDf lgdDf
    rw [← run.dated_eq, List.map_map] at hperm
    exact hperm.nodup_iff.mpr hnodup
  constructor
  · intro hcovered d hd
    rw [← DatedRow.offsets_ne_nil_iff]
    have hmerged : d.toMergedRow ∈ mergeLgd env eadDf lgdDf := by
      rw [← run.dated_eq]
      exact List.mem_map_of_mem hd
    obtain ⟨r, hr, hrow⟩ := mem_column_of_mem_mergeLgd hmerged
    obtain ⟨o, ho, hoid⟩ := hcovered r hr
    obtain ⟨w, hw, pd, -, rfl⟩ := run.mem_out ho
    have hsnapshot : w.toSnapshotRow ∈ expandDated run.dated := by
      rw [← run.terms_eq]
      exact List.mem_map_of_mem (toTermRow_mem hw)
    obtain ⟨e, he, k, hk, hsnap⟩ := mem_expandDated_iff.mp hsnapshot
    have hsame : e.loanId = d.loanId := by
      have hwid : w.loanId = e.loanId := congrArg (fun s : SnapshotRow => s.loanId) hsnap
      have hdid : d.loanId = r.cell "Loan ID" := congrArg EadRow.loanId hrow
      rw [← hwid, hdid]
      exact hoid
    -- the snapshot is one of this row, as no other row has its Loan ID
    obtain rfl := List.inj_on_of_nodup_map hids he hd hsame
    exact List.ne_nil_of_mem hk
  · intro hkept r hr
    have hmerged : mergedRow eadDf lgdDf (eadRow env eadDf r, lgdOf lgdDf (r.cell "Loan ID"))
        ∈ run.dated.map (·.toMergedRow) := by
      rw [run.dated_eq, mergeLgd_eq_map]
      exact List.mem_map_of_mem (f := fun row => mergedRow eadDf lgdDf (row, lgdOf lgdDf row.loanId))
        ((mem_sortByKey _).mpr (List.mem_map_of_mem hr))
    obtain ⟨d, hd, hdrow⟩ := List.mem_map.mp hmerged
    obtain ⟨k, hk⟩ := List.exists_mem_of_ne_nil _ (d.offsets_ne_nil_iff.mpr (hkept d hd))
    have hsnapshot : d.snapshot k ∈ run.terms.map (·.toSnapshotRow) := by
      rw [run.terms_eq]
      exact mem_expandDated_iff.mpr ⟨d, hd, k, hk, rfl⟩
    obtain ⟨t, ht, htsnap⟩ := List.mem_map.mp hsnapshot
    obtain ⟨w, hw, hwterm⟩ := List.mem_map.mp ((map_walkLoans_perm run.terms).mem_iff.mpr ht)
    obtain ⟨pd, hpd⟩ := exists_mem_leftJoin matchesPd pdTable hw
    refine ⟨eclRow env (w, pd), ?_, ?_⟩
    · rw [run.out_eq, mem_sortByKey]
      exact List.mem_map_of_mem hpd
    · have hwid : w.loanId = d.loanId := by
        rw [show w.loanId = w.toTermRow.toSnapshotRow.loanId from rfl, hwterm, htsnap]
        rfl
      have hdid : d.loanId = r.cell "Loan ID" := congrArg (fun m : MergedRow => m.loanId) hdrow
      exact hwid.trans hdid

/-- A row has its own values in a column made of the rows. -/
lemma mem_zip_map {β : Type} {f : Record → β} {r : Record} {rows : List Record} (hr : r ∈ rows) :
    (r, f r) ∈ rows.zip (rows.map f) := by
  rw [← List.map_prod_left_eq_zip]
  exact List.mem_map_of_mem (f := fun r => (r, f r)) hr

/-- The cells of a checked date column that are not blank are dates. -/
lemma EadChecked.exists_read {read : Cell → Option Timestamp} {allowedSegments : List String}
    (hchecked : EadChecked env eadDf allowedSegments)
    (hcoerce : ∀ name ∈ dateColumns,
      env.coerceDatetime (eadDf.column name) = (eadDf.column name).map read)
    {r : Record} (hr : r ∈ eadDf.rows) {name : String} (hname : name ∈ dateColumns)
    (hcell : r.cell name ≠ .blank) : ∃ t, read (r.cell name) = some t := by
  have hdates := hchecked.dates name hname
  rw [hcoerce name hname, Frame.column, List.map_map] at hdates
  exact Option.ne_none_iff_exists'.mp (hdates _ (mem_zip_map hr) hcell)

/-- Two columns in order are in order in each row. -/
lemma InOrder.le {read : Cell → Option Timestamp} {early late : String}
    (h : InOrder env eadDf early late)
    (hcoerce : ∀ name ∈ [early, late],
      env.coerceDatetime (eadDf.column name) = (eadDf.column name).map read)
    {r : Record} (hr : r ∈ eadDf.rows) {a b : Timestamp} (ha : read (r.cell early) = some a)
    (hb : read (r.cell late) = some b) : a ≤ b := by
  rw [InOrder, hcoerce _ (by simp), hcoerce _ (by simp), Frame.column, Frame.column,
    List.map_map, List.map_map, List.zip_map'] at h
  exact h _ (mem_zip_map hr) a ha b hb

/-- **What is lost of an accepted sheet**, where both readers read the dates cell by cell. -/
lemma datesCover_iff {read : Cell → Option Timestamp} {allowedSegments : List String}
    (hchecked : EadChecked env eadDf allowedSegments) (hread : ReadsDates env eadDf read)
    (hcoerce : ∀ name ∈ dateColumns,
      env.coerceDatetime (eadDf.column name) = (eadDf.column name).map read)
    (hblank : read .blank = none) (run : EadRun env eadDf pdTable lgdDf out) :
    DatesCover env eadDf ↔ ∀ r ∈ eadDf.rows,
      (r.cell (resolveColumn eadDf stagingAliases "Staging") = .str LoanStage.stage1.text ∨
        r.cell (resolveColumn eadDf stagingAliases "Staging") = .str LoanStage.stage2.text) →
      r.cell "Reporting Date" ≠ .blank ∧ r.cell "Maturity Date" ≠ .blank := by
  rw [datesCover_iff_of_withDates run.dated_ok, withDates_eq_loansOf hread run.dated_ok]
  constructor
  · intro hkept r hr hstage
    obtain ⟨rep, mat, hrep, hmat, -⟩ := hkept _ (List.mem_map.mpr
      ⟨r, (mem_sortByKey _).mpr hr, rfl⟩) hstage
    constructor
    · intro hcell
      have hnone : read (r.cell "Reporting Date") = some rep := hrep
      rw [hcell, hblank] at hnone
      cases hnone
    · intro hcell
      have hnone : read (r.cell "Maturity Date") = some mat := hmat
      rw [hcell, hblank] at hnone
      cases hnone
  · intro hcells d hd hstage
    obtain ⟨r, hsorted, rfl⟩ := List.mem_map.mp hd
    have hr := (mem_sortByKey _).mp hsorted
    obtain ⟨hrep, hmat⟩ := hcells r hr hstage
    -- the cells are dates, by the date checks, and in order, by EC-03
    obtain ⟨rep, hrepDate⟩ := hchecked.exists_read hcoerce hr (by decide) hrep
    obtain ⟨mat, hmatDate⟩ := hchecked.exists_read hcoerce hr (by decide) hmat
    refine ⟨rep, mat, hrepDate, hmatDate, ?_⟩
    refine hchecked.maturity_order.le (fun name hname => hcoerce name ?_) hr hrepDate hmatDate
    simp only [List.mem_cons, List.not_mem_nil, or_false] at hname
    rcases hname with rfl | rfl <;> decide

/-- **No loan is lost** of an accepted sheet exactly where its Stage 1 and Stage 2 rows have
both dates, as the engine reads them; where both readers read the dates cell by cell, exactly
where neither cell is blank. -/
theorem loans_covered_iff {sheetName : String} {allowedSegments : List String}
    {warnings : List String}
    (hvalid : (validateEad env eadDf sheetName allowedSegments).isValid = true)
    (h : computeEad env eadDf pdTable lgdDf = .ok (out, warnings)) :
    ((∀ r ∈ eadDf.rows, ∃ o ∈ out, o.loanId = r.cell "Loan ID") ↔ DatesCover env eadDf) ∧
      ∀ read : Cell → Option Timestamp, ReadsDates env eadDf read →
        (∀ name ∈ dateColumns,
          env.coerceDatetime (eadDf.column name) = (eadDf.column name).map read) →
        read .blank = none →
        ((∀ r ∈ eadDf.rows, ∃ o ∈ out, o.loanId = r.cell "Loan ID") ↔ ∀ r ∈ eadDf.rows,
          (r.cell (resolveColumn eadDf stagingAliases "Staging") = .str LoanStage.stage1.text ∨
            r.cell (resolveColumn eadDf stagingAliases "Staging") = .str LoanStage.stage2.text) →
          r.cell "Reporting Date" ≠ .blank ∧ r.cell "Maturity Date" ≠ .blank) := by
  obtain ⟨run⟩ := computeEad_ok h
  have hcovered := covered_iff (eadAccepted_of_isValid hvalid).loanId_nodup run
  refine ⟨hcovered, fun read hread hcoerce hblank => ?_⟩
  rw [hcovered]
  exact datesCover_iff (eadChecked_of_isValid hvalid) hread hcoerce hblank run

/-- The loan of the sample sheet has its dates. -/
theorem loans_covered_iff_sample :
    (∀ r ∈ sampleEadFrame.rows, ∃ o ∈ [sampleEcl 0 9, sampleEcl 1 8],
        o.loanId = r.cell "Loan ID") ↔ DatesCover plainEnv sampleEadFrame :=
  (@loans_covered_iff plainEnv sampleEadFrame sampleLgdFrame
    (pdOutput plainEnv samplePdRows).table _ "Data" [] [] (by decide) computeEad_sample).1

/-! ### A loan that is lost -/

/-- The loan of the sample in Stage 1, without a maturity date. -/
def undatedCell (name : String) : Cell :=
  if name = "Staging" then .str "Stage 1"
  else if name = "Maturity Date" then .blank
  else sampleEadCell name

def undatedFrame : Frame := { sampleEadFrame with rows := [⟨0, undatedCell⟩] }

/-- **A loan is lost**: the sheet is accepted, and its one loan has no row. -/
theorem loans_covered_fails :
    (validateEad plainEnv undatedFrame "Data" []).isValid = true ∧
      computeEad plainEnv undatedFrame (pdOutput plainEnv samplePdRows).table sampleLgdFrame
        = .ok ([], []) ∧
      ¬ ∀ r ∈ undatedFrame.rows, ∃ o ∈ ([] : List EclRow), o.loanId = r.cell "Loan ID" := by
  refine ⟨by decide, ?_, ?_⟩
  · have hread : readEadRows plainEnv undatedFrame
        = [eadRow plainEnv undatedFrame ⟨0, undatedCell⟩] := sortByKey_singleton _ _
    have hjoin : joinLgd plainEnv undatedFrame sampleLgdFrame
        = [(eadRow plainEnv undatedFrame ⟨0, undatedCell⟩, some ⟨.str "L", .num 0, .num 0⟩)] := by
      rw [joinLgd, hread]
      decide
    have hwarnings : missingLgdWarnings plainEnv (joinLgd plainEnv undatedFrame sampleLgdFrame)
        = [] := by
      rw [hjoin]
      exact congrArg (List.map _) (sortByKey_nil _)
    have hcolumns : requireEadColumns undatedFrame sampleLgdFrame = .ok () := by decide
    rw [computeEad, hcolumns]
    simp only [bind, Except.bind, mergeLgd, hwarnings]
    rw [hjoin]
    rfl
  · intro hcovered
    obtain ⟨o, ho, -⟩ := hcovered ⟨0, undatedCell⟩ (List.mem_singleton_self _)
    cases ho

end

end EclServer.Engine
