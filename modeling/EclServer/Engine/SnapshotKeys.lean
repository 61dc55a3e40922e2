import EclServer.Engine.EadRows

/-!
Which loans and snapshot dates the output of `compute_ead` has rows for.

* `DatedRow.offsets`: the months after its reporting date at which a row is looked at.
* `snapshotKeys`: the pairs of loan and snapshot date of an EAD sheet.
* `keys_perm`: the output has a row for each pair, whatever the PD and LGD tables say.
* `nodup_snapshotKeys`: no pair comes twice from a sheet with distinct Loan IDs.
-/

namespace EclServer.Engine

open EclServer.Library

/-! ### The snapshots of a row -/

namespace DatedRow

/-- The months after the reporting date at which there is a snapshot. -/
def offsets (r : DatedRow) : List ℕ :=
  if r.staging = .str LoanStage.stage1.text then (List.range 13).filter r.matures
  else if r.staging = .str LoanStage.stage2.text then
    (List.range (r.horizon + 1)).filter r.matures
  else [0]

lemma nodup_offsets (r : DatedRow) : r.offsets.Nodup := by
  rw [offsets]
  split_ifs
  · exact List.nodup_range.filter _
  · exact List.nodup_range.filter _
  · exact List.nodup_singleton 0

/-- `_expand_snapshots` makes the snapshots of each row, stage after stage. -/
lemma expandDated_perm (rows : List DatedRow) :
    (expandDated rows).Perm (rows.flatMap fun r => r.offsets.map r.snapshot) := by
  set f : DatedRow → List SnapshotRow := fun r => r.offsets.map r.snapshot with hf
  have hone : (expandStage1 (inStage .stage1 rows)).Perm
      ((inStage .stage1 rows).flatMap f) := by
    have hcolumns : expandStage1 (inStage .stage1 rows) = (List.range 13).flatMap fun k =>
        (inStage .stage1 rows).flatMap fun r =>
          if r.matures k then [r.snapshot k] else [] := by
      refine List.flatMap_congr fun k _ => ?_
      induction inStage .stage1 rows with
      | nil => rfl
      | cons r rs ih => by_cases hk : r.matures k <;> simp [hk, ih]
    rw [hcolumns]
    refine (flatMap_swap_perm _ _ _).trans (List.Perm.of_eq (List.flatMap_congr fun r hr => ?_))
    have hstaging : r.staging = .str LoanStage.stage1.text := by
      simpa using (List.mem_filter.mp hr).2
    simp only [hf, offsets, hstaging, if_true]
    induction List.range 13 with
    | nil => rfl
    | cons k ks ih => by_cases hk : r.matures k <;> simp [hk, ih]
  have htwo : expandStage2 (inStage .stage2 rows) = (inStage .stage2 rows).flatMap f := by
    refine List.flatMap_congr fun r hr => ?_
    have hstaging : r.staging = .str LoanStage.stage2.text := by
      simpa using (List.mem_filter.mp hr).2
    simp [hf, offsets, hstaging, LoanStage.text]
  have hsingle : ∀ {l : List DatedRow}, (∀ r ∈ l, r.staging ≠ .str LoanStage.stage1.text ∧
      r.staging ≠ .str LoanStage.stage2.text) → l.map (·.snapshot 0) = l.flatMap f := by
    intro l hl
    rw [List.map_eq_flatMap]
    refine List.flatMap_congr fun r hr => ?_
    simp [hf, offsets, (hl r hr).1, (hl r hr).2]
  -- the stages part the rows: Stage 1, then Stage 2 of the rest, then Stage 3 of what is left
  have hparts : ((inStage .stage1 rows).flatMap f ++ ((inStage .stage2 rows).flatMap f
      ++ ((inStage .stage3 rows).flatMap f ++ (rows.filter fun r =>
        LoanStage.all.all fun stage => r.staging ≠ .str stage.text).flatMap f))).Perm
      (rows.flatMap f) := by
    have h2 : inStage .stage2 rows = (rows.filter fun r =>
        !decide (r.staging = .str LoanStage.stage1.text)).filter fun r =>
          r.staging = .str LoanStage.stage2.text := by
      rw [List.filter_filter]
      refine List.filter_congr fun r _ => ?_
      by_cases h : r.staging = .str LoanStage.stage2.text
      · simp [h, LoanStage.text]
      · simp only [decide_eq_false h, Bool.false_and]
    have h3 : inStage .stage3 rows = ((rows.filter fun r =>
        !decide (r.staging = .str LoanStage.stage1.text)).filter fun r =>
          !decide (r.staging = .str LoanStage.stage2.text)).filter fun r =>
            r.staging = .str LoanStage.stage3.text := by
      rw [List.filter_filter, List.filter_filter]
      refine List.filter_congr fun r _ => ?_
      by_cases h : r.staging = .str LoanStage.stage3.text
      · simp [h, LoanStage.text]
      · simp only [decide_eq_false h, Bool.false_and]
    have hrest : (rows.filter fun r => LoanStage.all.all fun stage => r.staging ≠ .str stage.text)
        = ((rows.filter fun r =>
          !decide (r.staging = .str LoanStage.stage1.text)).filter fun r =>
            !decide (r.staging = .str LoanStage.stage2.text)).filter fun r =>
              !decide (r.staging = .str LoanStage.stage3.text) := by
      rw [List.filter_filter, List.filter_filter]
      refine List.filter_congr fun r _ => ?_
      simp only [LoanStage.all, List.all_cons, List.all_nil, Bool.and_true, decide_not]
      ac_rfl
    rw [h2, h3, hrest]
    refine ((((flatMap_filter_perm _ _ f).append_left _).append_left _).trans ?_)
    exact ((flatMap_filter_perm _ _ f).append_left _).trans (flatMap_filter_perm _ _ f)
  have hreorder : ∀ a b c d : List SnapshotRow, (a ++ b ++ c ++ d).Perm (b ++ (c ++ (a ++ d))) := by
    intro a b c d
    rw [← Multiset.coe_eq_coe]
    simp only [← Multiset.coe_add]
    abel
  rw [expandDated, htwo, hsingle, hsingle]
  · refine (((hone.append_left _).append_right _).append_right _).trans ?_
    exact (hreorder _ _ _ _).trans hparts
  · intro r hr
    have hall := (List.mem_filter.mp hr).2
    simp only [LoanStage.all, List.all_cons, List.all_nil, Bool.and_true, Bool.and_eq_true,
      decide_eq_true_eq] at hall
    exact ⟨hall.1, hall.2.1⟩
  · intro r hr
    have hstaging : r.staging = .str LoanStage.stage3.text := by
      simpa using (List.mem_filter.mp hr).2
    rw [hstaging]
    decide

/-- The expansion of one row. -/
lemma expandDated_singleton (d : DatedRow) : expandDated [d] = d.offsets.map d.snapshot := by
  have hone : expandStage1 [d] = ((List.range 13).filter d.matures).map d.snapshot := by
    rw [expandStage1]
    induction List.range 13 with
    | nil => rfl
    | cons k ks ih => by_cases hk : d.matures k <;> simp [hk, ih]
  have hnone : expandStage1 [] = [] := by simp [expandStage1]
  have htexts : LoanStage.stage2.text ≠ LoanStage.stage1.text
      ∧ LoanStage.stage3.text ≠ LoanStage.stage1.text
      ∧ LoanStage.stage3.text ≠ LoanStage.stage2.text := by decide
  by_cases h1 : d.staging = .str LoanStage.stage1.text
  · simp [expandDated, inStage, offsets, h1, hone, expandStage2, LoanStage.all,
      htexts.1.symm, htexts.2.1.symm]
  by_cases h2 : d.staging = .str LoanStage.stage2.text
  · simp [expandDated, inStage, offsets, h2, hnone, expandStage2, LoanStage.all,
      htexts.1, htexts.2.2.symm]
  by_cases h3 : d.staging = .str LoanStage.stage3.text
  · simp [expandDated, inStage, offsets, h3, hnone, expandStage2, LoanStage.all,
      htexts.2.1, htexts.2.2]
  · simp [expandDated, inStage, offsets, h1, h2, h3, hnone, expandStage2, LoanStage.all]

end DatedRow

/-! ### The keys of the output -/

/-- The date of an instant. -/
def dateOf (t : Timestamp) : Timestamp := { t with time := 0 }

/-- The pair of a row as it is stored, where the row has a snapshot date. -/
def keyOf? (env : PyEnv) (loanId : Cell) (snapshotDate : Option Timestamp) :
    Option (String × Timestamp) :=
  snapshotDate.map fun t => (loanId.pyStr env, dateOf t)

/-- The rows of an EAD sheet with their dates, as they are without any LGD table. -/
def inputRows (env : PyEnv) (eadDf : Frame) : Except String (List DatedRow) :=
  withDates env ((readEadRows env eadDf).map fun row =>
    mergedRow eadDf { columns := [], rows := [] } (row, none))

/-- **The loans and snapshot dates of an EAD sheet.** -/
def snapshotKeys (env : PyEnv) (eadDf : Frame) : List (String × Timestamp) :=
  match inputRows env eadDf with
  | .error _ => []
  | .ok rows => rows.flatMap fun r => r.offsets.filterMap fun k =>
      r.repDate.map fun rep => (r.loanId.pyStr env, dateOf (rep.addMonths k))

section

variable {env : PyEnv} {eadDf lgdDf : Frame}

/-- Two lists of rows with the same cells are given the same dates. -/
lemma withDates_congr {α : Type} {rows : List α} {f g : α → MergedRow}
    (hfg : ∀ a, (f a).toEadRow = (g a).toEadRow) {dated : List DatedRow}
    (h : withDates env (rows.map f) = .ok dated) :
    ∃ dated', withDates env (rows.map g) = .ok dated' ∧
      List.Forall₂ (fun d d' : DatedRow => d.toEadRow = d'.toEadRow ∧ d.repDate = d'.repDate ∧
        d.matDate = d'.matDate) dated dated' := by
  obtain ⟨reps, hreps, hrest⟩ := bind_eq_ok.mp h
  obtain ⟨mats, hmats, hdated⟩ := bind_eq_ok.mp hrest
  rw [← Except.ok.inj hdated]
  have hreporting : (rows.map f).map (·.reportingDate) = (rows.map g).map (·.reportingDate) := by
    simp only [List.map_map]
    exact List.map_congr_left fun a _ => congrArg EadRow.reportingDate (hfg a)
  have hmaturity : (rows.map f).map (·.maturityDate) = (rows.map g).map (·.maturityDate) := by
    simp only [List.map_map]
    exact List.map_congr_left fun a _ => congrArg EadRow.maturityDate (hfg a)
  refine ⟨_, bind_eq_ok.mpr ⟨reps, by rw [← hreporting]; exact hreps,
    bind_eq_ok.mpr ⟨mats, by rw [← hmaturity]; exact hmats, rfl⟩⟩, ?_⟩
  generalize reps.zip mats = dates
  clear h hrest hdated hreps hmats hreporting hmaturity
  induction rows generalizing dates with
  | nil => simp
  | cons a as ih =>
      cases dates with
      | nil => simp
      | cons date rest =>
          rw [List.map_cons, List.map_cons, List.zipWith_cons_cons, List.zipWith_cons_cons]
          exact List.Forall₂.cons ⟨hfg a, rfl, rfl⟩ (ih rest)

/-- The keys a row gives. -/
def rowKeys (env : PyEnv) (r : DatedRow) : List (String × Timestamp) :=
  r.offsets.filterMap fun k => keyOf? env r.loanId (r.snapshot k).snapshotDate

/-- The keys of a row depend on what the EAD sheet says of it. -/
lemma rowKeys_congr {d d' : DatedRow} (hrow : d.toEadRow = d'.toEadRow)
    (hrep : d.repDate = d'.repDate) (hmat : d.matDate = d'.matDate) :
    rowKeys env d = rowKeys env d' := by
  have hstaging : d.staging = d'.staging := congrArg EadRow.staging hrow
  have hloan : d.loanId = d'.loanId := congrArg EadRow.loanId hrow
  have hmatures : d.matures = d'.matures := by
    funext k
    rw [DatedRow.matures, DatedRow.matures, hrep, hmat]
  have hhorizon : d.horizon = d'.horizon := by
    rw [DatedRow.horizon, DatedRow.horizon, hrep, hmat]
  have hoffsets : d.offsets = d'.offsets := by
    rw [DatedRow.offsets, DatedRow.offsets, hstaging, hmatures, hhorizon]
  have hkeys : ∀ k, keyOf? env d.loanId (d.snapshot k).snapshotDate
      = keyOf? env d'.loanId (d'.snapshot k).snapshotDate := by
    intro k
    rw [hloan, DatedRow.snapshot, DatedRow.snapshot, hrep]
  rw [rowKeys, rowKeys, hoffsets]
  exact List.filterMap_congr fun k _ => hkeys k

lemma flatMap_rowKeys_congr {dated dated' : List DatedRow}
    (h : List.Forall₂ (fun d d' : DatedRow => d.toEadRow = d'.toEadRow ∧ d.repDate = d'.repDate ∧
      d.matDate = d'.matDate) dated dated') :
    dated.flatMap (rowKeys env) = dated'.flatMap (rowKeys env) := by
  induction h with
  | nil => rfl
  | cons hd _ ih =>
      rw [List.flatMap_cons, List.flatMap_cons, ih, rowKeys_congr hd.1 hd.2.1 hd.2.2]

/-- **The keys of the output** are those of the EAD sheet, each as often, for any LGD table
and any PD table that has at most one row for a snapshot. -/
theorem keys_perm {pdTable : List PdTableRow} {out : List EclRow} {warnings : List String}
    (hone : ∀ w, (pdTable.filter (matchesPd w)).length ≤ 1)
    (h : computeEad env eadDf pdTable lgdDf = .ok (out, warnings)) :
    (out.filterMap fun r => keyOf? env r.loanId r.snapshotDate).Perm
      (snapshotKeys env eadDf) := by
  obtain ⟨run⟩ := computeEad_ok h
  have hsorted : (out.filterMap fun r => keyOf? env r.loanId r.snapshotDate).Perm
      ((eclRows env (joinPd (walkLoans env run.terms) pdTable)).filterMap fun r =>
        keyOf? env r.loanId r.snapshotDate) := by
    exact ((List.Perm.of_eq run.out_eq).trans (sortByKey_perm _ _)).filterMap _
  -- from the output back to the sheet, stage by stage: join, walk, terms, snapshots, dates
  have hwalked : ((eclRows env (joinPd (walkLoans env run.terms) pdTable)).filterMap fun r =>
        keyOf? env r.loanId r.snapshotDate)
      = ((walkLoans env run.terms).map (·.toTermRow)).filterMap fun t =>
        keyOf? env t.loanId t.snapshotDate := by
    rw [joinPd, leftJoin_eq_map _ fun w _ => hone w, eclRows, List.map_map, List.filterMap_map,
      List.filterMap_map]
    rfl
  have hterms : (run.terms.filterMap fun t => keyOf? env t.loanId t.snapshotDate)
      = (expandDated run.dated).filterMap fun s => keyOf? env s.loanId s.snapshotDate := by
    rw [← run.terms_eq, List.filterMap_map]
    rfl
  have hdated : ((run.dated.flatMap fun r => r.offsets.map r.snapshot).filterMap fun s =>
        keyOf? env s.loanId s.snapshotDate)
      = run.dated.flatMap (rowKeys env) := by
    rw [List.filterMap_flatMap]
    refine List.flatMap_congr fun r _ => ?_
    rw [List.filterMap_map]
    rfl
  have hinput : run.dated.flatMap (rowKeys env) = snapshotKeys env eadDf := by
    have hwith := run.dated_ok
    rw [mergeLgd_eq_map] at hwith
    obtain ⟨rows, hrows, hsame⟩ := withDates_congr
      (f := fun row => mergedRow eadDf lgdDf (row, lgdOf lgdDf row.loanId))
      (g := fun row => mergedRow eadDf { columns := [], rows := [] } (row, none))
      (fun _ => rfl) hwith
    have hkeys : snapshotKeys env eadDf = rows.flatMap (rowKeys env) := by
      rw [snapshotKeys, inputRows, hrows]
      refine List.flatMap_congr fun r _ => ?_
      refine List.filterMap_congr fun k _ => ?_
      rw [keyOf?, DatedRow.snapshot, Option.map_map]
      rfl
    rw [hkeys, flatMap_rowKeys_congr hsame]
  rw [← hinput, ← hdated]
  refine hsorted.trans ?_
  rw [hwalked]
  refine ((map_walkLoans_perm run.terms).filterMap _).trans ?_
  rw [hterms]
  exact (DatedRow.expandDated_perm run.dated).filterMap _

/-- A date tells the month. -/
lemma dateOf_addMonths_inj {t : Timestamp} {a b : ℕ}
    (h : dateOf (t.addMonths a) = dateOf (t.addMonths b)) : a = b := by
  have hmonth := congrArg Timestamp.monthIndex h
  simp only [dateOf, Timestamp.monthIndex_addMonths] at hmonth
  omega

/-- **No key comes twice** from a sheet with distinct Loan IDs. -/
theorem nodup_snapshotKeys
    (hloans : ((readEadRows env eadDf).map fun row => row.loanId.pyStr env).Nodup) :
    (snapshotKeys env eadDf).Nodup := by
  rw [snapshotKeys]
  split
  · exact List.nodup_nil
  rename_i rows hrows
  have hids : rows.map (fun r => r.loanId.pyStr env)
      = (readEadRows env eadDf).map fun row => row.loanId.pyStr env := by
    have hmap := map_withDates hrows
    have hcells : rows.map (fun r => r.loanId.pyStr env)
        = (rows.map (·.toMergedRow)).map fun m => m.loanId.pyStr env := by
      rw [List.map_map]
      rfl
    rw [hcells, hmap, List.map_map]
    rfl
  refine nodup_flatMap_of_key (fun r : DatedRow => r.loanId.pyStr env) Prod.fst
    (hids ▸ hloans) ?_ ?_
  · intro r _ key hkey
    obtain ⟨k, _, hk⟩ := List.mem_filterMap.mp hkey
    obtain ⟨rep, _, rfl⟩ := Option.map_eq_some_iff.mp hk
    rfl
  · intro r _
    refine r.nodup_offsets.filterMap ?_
    intro a b key ha hb
    obtain ⟨rep, hrep, rfl⟩ := Option.map_eq_some_iff.mp ha
    obtain ⟨rep', hrep', hkey⟩ := Option.map_eq_some_iff.mp hb
    have hsame : rep' = rep := Option.some.inj (hrep'.symm.trans hrep)
    rw [hsame, Prod.mk.injEq] at hkey
    exact (dateOf_addMonths_inj hkey.2).symm

end

end EclServer.Engine
