import EclServer.Engine.Accepted
import EclServer.Engine.EclBound
import EclServer.Engine.SnapshotKeys

/-!
The EAD engine one loan at a time.

* `ReadsDates`: the date cells of a sheet can be read one by one.
* `loanOf`, `loanReference`: the rows of a loan, of its own record, its row of the LGD table
  and the PD table.
* `groupBy_terms`, `instalmentOf_terms`: what the vectorised steps make of one loan.
* `walkLoans_perm`: the walk over all loans is the walk of each of them.
* `computeEad_eq_flatMap`, `computeEad_eq_reference`: the output is that of the loans, one
  after the other, and the rows of a loan do not depend on the others.
-/

namespace EclServer.Engine

open EclServer.Library

/-! ### The reference -/

/-- The date cells of a sheet stand for dates of their own: `pd.to_datetime` reads a cell
alike among any others of its column. -/
def ReadsDates (env : PyEnv) (df : Frame) (read : Cell → Option Timestamp) : Prop :=
  ∀ column ∈ dateColumns, ∀ cells : List Cell, (∀ c ∈ cells, c ∈ df.column column) →
    ∀ dates, env.toDatetime cells = .ok dates → dates = cells.map read

/-- A sheet without rows. -/
def header (columns : List String) : Frame := { columns := columns, rows := [] }

section Reference

variable (env : PyEnv) (read : Cell → Option Timestamp)

/-- A loan with rate, collateral and dates, of its own record and its LGD row. -/
def loanOf (eadColumns lgdColumns : List String) (record : Record) (lgd : Option LgdRow) :
    DatedRow :=
  { mergedRow (header eadColumns) (header lgdColumns)
      (eadRow env (header eadColumns) record, lgd) with
    repDate := read (record.cell "Reporting Date")
    matDate := read (record.cell "Maturity Date") }

/-- A snapshot with the dates of its loan. -/
def termOf (s : SnapshotRow) : TermRow :=
  { s with
    reporting := read s.reportingDate
    firstPayment := read s.firstPaymentDate
    adjustedMaturity := read s.adjustedMaturityDate }

/-- The snapshots of a loan, by the month offsets of its stage. -/
def loanTermRows (loan : DatedRow) : List TermRow :=
  loan.offsets.map fun k => termOf read (loan.snapshot k)

/-- The one instalment of a loan. -/
def loanInstalment (loan : DatedRow) : Option ℚ :=
  let remaining := do
    let elapsed ← monthsBetween? (read loan.firstPaymentDate) (read loan.reportingDate)
    let totalTerm ← monthsBetween? (read loan.firstPaymentDate) (read loan.adjustedMaturityDate)
    return totalTerm - elapsed
  periodInstalment env (floatOf env loan.outstandingAmount) (floatOf env loan.eir) remaining
    loan.freq

/-- The balance walk of a loan. -/
def loanWalk (loan : DatedRow) : List WalkedRow :=
  walkRows ((floatOf env loan.eir).map (· / 12)) (loanInstalment env read loan) loan.freq []
    (floatOf env loan.outstandingAmount) (loanTermRows read loan)

/-- **The rows of one loan.** -/
def loanReference (pdTable : List PdTableRow) (loan : DatedRow) : List EclRow :=
  (loanWalk env read loan).map fun w => eclRow env (w, pdTable.find? (matchesPd w))

end Reference

variable {env : PyEnv} {read : Cell → Option Timestamp} {eadDf lgdDf : Frame}

/-! ### The rows with rate, collateral and dates -/

/-- The records in the order of their Loan IDs. -/
def sortedRecords (df : Frame) : List Record :=
  sortByKey (fun r : Record => (r.cell "Loan ID").key) df.rows

lemma readEadRows_eq : readEadRows env eadDf = (sortedRecords eadDf).map (eadRow env eadDf) :=
  sortByKey_map _ _

/-- The loans of a sheet. -/
def loansOf (env : PyEnv) (read : Cell → Option Timestamp) (eadDf lgdDf : Frame) :
    List DatedRow :=
  (sortedRecords eadDf).map fun r =>
    loanOf env read eadDf.columns lgdDf.columns r (lgdOf lgdDf (r.cell "Loan ID"))

/-- A column with the cells of its rows. -/
lemma mem_column_of_mem_mergeLgd {m : MergedRow} (h : m ∈ mergeLgd env eadDf lgdDf) :
    ∃ r ∈ eadDf.rows, m.toEadRow = eadRow env eadDf r := by
  obtain ⟨r, hr, lgd, -, rfl⟩ := mem_mergeLgd h
  exact ⟨r, hr, rfl⟩

/-- **The dated rows** are the loans. -/
lemma withDates_eq_loansOf (hread : ReadsDates env eadDf read) {dated : List DatedRow}
    (h : withDates env (mergeLgd env eadDf lgdDf) = .ok dated) :
    dated = loansOf env read eadDf lgdDf := by
  obtain ⟨reps, hreps, h⟩ := bind_eq_ok.mp h
  obtain ⟨mats, hmats, h⟩ := bind_eq_ok.mp h
  have hrepsRead := hread "Reporting Date" (by decide) _ (by
    intro c hc
    obtain ⟨m, hm, rfl⟩ := List.mem_map.mp hc
    obtain ⟨r, hr, hrow⟩ := mem_column_of_mem_mergeLgd hm
    rw [hrow]
    exact List.mem_map_of_mem hr) _ hreps
  have hmatsRead := hread "Maturity Date" (by decide) _ (by
    intro c hc
    obtain ⟨m, hm, rfl⟩ := List.mem_map.mp hc
    obtain ⟨r, hr, hrow⟩ := mem_column_of_mem_mergeLgd hm
    rw [hrow]
    exact List.mem_map_of_mem hr) _ hmats
  rw [← Except.ok.inj h, hrepsRead, hmatsRead, mergeLgd_eq_map, readEadRows_eq, loansOf]
  simp only [List.map_map, List.zip_map', List.zipWith_map, List.zipWith_self]
  rfl

/-- The terms of the snapshots are read cell by cell. -/
lemma withTerms_eq_map (hread : ReadsDates env eadDf read) {rows : List SnapshotRow}
    (hrows : ∀ s ∈ rows, ∃ r ∈ eadDf.rows, s.toEadRow = eadRow env eadDf r)
    {terms : List TermRow} (h : withTerms env rows = .ok terms) : terms = rows.map (termOf read) := by
  have hcolumn : ∀ (column : String) (field : EadRow → Cell), column ∈ dateColumns →
      (∀ r, field (eadRow env eadDf r) = r.cell column) → ∀ dates,
        env.toDatetime (rows.map fun s => field s.toEadRow) = .ok dates →
        dates = (rows.map fun s => field s.toEadRow).map read := by
    intro column field hdate hfield dates hdates
    refine hread column hdate _ (fun c hc => ?_) _ hdates
    obtain ⟨s, hs, rfl⟩ := List.mem_map.mp hc
    obtain ⟨r, hr, hrow⟩ := hrows s hs
    rw [hrow, hfield]
    exact List.mem_map_of_mem hr
  obtain ⟨reps, hreps, h⟩ := bind_eq_ok.mp h
  obtain ⟨firsts, hfirsts, h⟩ := bind_eq_ok.mp h
  obtain ⟨adjusted, hadjusted, h⟩ := bind_eq_ok.mp h
  rw [← Except.ok.inj h,
    hcolumn "Reporting Date" EadRow.reportingDate (by decide) (fun _ => rfl) _ hreps,
    hcolumn "First Payment Date" EadRow.firstPaymentDate (by decide) (fun _ => rfl) _ hfirsts,
    hcolumn "Adjusted Maturity Date" EadRow.adjustedMaturityDate (by decide) (fun _ => rfl) _
      hadjusted]
  simp only [List.map_map, List.zip_map', List.zipWith_map_right, List.zipWith_self]
  rfl

/-! ### One loan among the snapshots -/

/-- The offsets of a row ascend. -/
lemma DatedRow.pairwise_offsets (d : DatedRow) : d.offsets.Pairwise (· < ·) := by
  rw [offsets]
  split_ifs
  · exact List.pairwise_lt_range.filter _
  · exact List.pairwise_lt_range.filter _
  · exact List.pairwise_singleton _ 0

/-- Without a reporting date a row has one snapshot at most. -/
lemma DatedRow.length_offsets_of_none {d : DatedRow} (h : d.repDate = none) :
    d.offsets.length ≤ 1 := by
  have hnever : d.matures = fun _ => false := by
    funext k
    rw [matures, h]
  rw [offsets, hnever]
  split_ifs <;> simp

/-- The snapshots of a loan are in the order of their dates. -/
lemma pairwise_loanTermRows (read : Cell → Option Timestamp) (d : DatedRow) :
    (loanTermRows read d).Pairwise fun a b => a.dateKey < b.dateKey := by
  rw [loanTermRows, List.pairwise_map]
  cases hrep : d.repDate with
  | none =>
      have hlen := DatedRow.length_offsets_of_none hrep
      match hoffsets : d.offsets with
      | [] => exact List.Pairwise.nil
      | [k] => exact List.pairwise_singleton _ k
      | _ :: _ :: _ => simp [hoffsets] at hlen
  | some rep =>
      refine d.pairwise_offsets.imp fun {a b} hab => ?_
      have hdate : ∀ k : ℕ, (termOf read (d.snapshot k)).dateKey
          = ((rep.addMonths k : Timestamp) : WithTop Timestamp) := by
        intro k
        rw [TermRow.dateKey, termOf, DatedRow.snapshot, hrep]
        rfl
      rw [hdate, hdate, WithTop.coe_lt_coe, Timestamp.addMonths_lt_addMonths]
      exact_mod_cast hab

lemma byDate_loanTermRows (read : Cell → Option Timestamp) (d : DatedRow) :
    byDate (loanTermRows read d) = loanTermRows read d :=
  sortByKey_of_sorted _ ((pairwise_loanTermRows read d).imp fun hab => le_of_lt hab)

section Group

variable {loans : List DatedRow} {d : DatedRow}

/-- **The group of a loan** is its snapshots. -/
lemma groupBy_terms (hnodup : (loans.map fun d => d.loanId.pyStr env).Nodup) (hd : d ∈ loans) :
    groupBy (TermRow.loanKey env) ((expandDated loans).map (termOf read)) (d.loanId.pyStr env)
      = loanTermRows read d := by
  have hown : (loans.filter fun e => e.loanId.pyStr env = d.loanId.pyStr env) = [d] :=
    filter_eq_singleton (fun e : DatedRow => e.loanId.pyStr env) hnodup hd
  have hselect := filter_expandDated (fun m => m.loanId.pyStr env = d.loanId.pyStr env) loans
  rw [hown, DatedRow.expandDated_singleton] at hselect
  rw [groupBy, List.filter_map]
  have hsame : ((fun t : TermRow => decide (t.loanKey env = d.loanId.pyStr env)) ∘ termOf read)
      = fun s : SnapshotRow => decide (s.toMergedRow.loanId.pyStr env = d.loanId.pyStr env) := rfl
  rw [hsame, hselect, List.map_map]
  rfl

/-- The instalment of a loan with a snapshot. -/
lemma instalmentOf_terms (hnodup : (loans.map fun d => d.loanId.pyStr env).Nodup) (hd : d ∈ loans)
    (hsome : loanTermRows read d ≠ []) :
    instalmentOf env ((expandDated loans).map (termOf read)) (d.loanId.pyStr env)
      = loanInstalment env read d := by
  obtain ⟨t, ht⟩ := List.exists_mem_of_ne_nil _ hsome
  rw [← groupBy_terms hnodup hd] at ht
  obtain ⟨htmem, htkey⟩ := (mem_groupBy _).mp ht
  obtain ⟨loan, hloan, hkey, hinstalment⟩ := @exists_instalmentOf env _ _ htmem
  have hmem : loan ∈ loanTermRows read d := by
    rw [← groupBy_terms hnodup hd]
    exact (mem_groupBy _).mpr ⟨mem_of_mem_dropDuplicates _ hloan, hkey.trans htkey⟩
  obtain ⟨k, -, rfl⟩ := List.mem_map.mp hmem
  rw [← htkey, hinstalment]
  rfl

/-- The walk of a loan among all. -/
lemma walkLoan_terms (hnodup : (loans.map fun d => d.loanId.pyStr env).Nodup) (hd : d ∈ loans) :
    walkLoan env (instalmentOf env ((expandDated loans).map (termOf read)) (d.loanId.pyStr env))
        (groupBy (TermRow.loanKey env) ((expandDated loans).map (termOf read))
          (d.loanId.pyStr env))
      = loanWalk env read d := by
  rw [groupBy_terms hnodup hd, walkLoan, byDate_loanTermRows, loanWalk]
  cases hrows : loanTermRows read d with
  | nil => rfl
  | cons first rest =>
      have hsome : loanTermRows read d ≠ [] := by simp [hrows]
      have hfirst : first ∈ loanTermRows read d := by simp [hrows]
      obtain ⟨k, -, rfl⟩ := List.mem_map.mp hfirst
      rw [instalmentOf_terms hnodup hd hsome]
      rfl

/-- **The walk over all loans** is the walk of each, in some order. -/
lemma walkLoans_perm (hnodup : (loans.map fun d => d.loanId.pyStr env).Nodup) :
    (walkLoans env ((expandDated loans).map (termOf read))).Perm
      (loans.flatMap (loanWalk env read)) := by
  set terms := (expandDated loans).map (termOf read) with hterms
  have hwalks : loans.flatMap (loanWalk env read)
      = (loans.map fun d => d.loanId.pyStr env).flatMap fun loanKey =>
        walkLoan env (instalmentOf env terms loanKey)
          (groupBy (TermRow.loanKey env) terms loanKey) := by
    rw [List.flatMap_map]
    exact List.flatMap_congr fun d hd => (walkLoan_terms hnodup hd).symm
  rw [hwalks, walkLoans]
  refine flatMap_perm_of_subset ((sortByKey_perm _ _).nodup_iff.mpr (nodup_groupKeys _ _)) hnodup
    ?_ ?_
  · intro loanKey hkey
    rw [mem_sortByKey, mem_groupKeys] at hkey
    obtain ⟨t, ht, rfl⟩ := hkey
    obtain ⟨s, hs, rfl⟩ := List.mem_map.mp ht
    obtain ⟨d, hd, k, rfl⟩ := mem_expandDated hs
    exact List.mem_map.mpr ⟨d, hd, rfl⟩
  · intro loanKey _ hkey
    have hempty : groupBy (TermRow.loanKey env) terms loanKey = [] := by
      rw [List.eq_nil_iff_forall_not_mem]
      intro t ht
      obtain ⟨htmem, htkey⟩ := (mem_groupBy _).mp ht
      exact hkey ((mem_sortByKey _).mpr ((mem_groupKeys _).mpr ⟨t, htmem, htkey⟩))
    rw [hempty, walkLoan, byDate, sortByKey_nil]

end Group

/-! ### The output -/

/-- A row of the reference is of its loan, with the date of a snapshot. -/
lemma map_loanReference (pdTable : List PdTableRow) (d : DatedRow) :
    (loanReference env read pdTable d).map (fun r => (r.loanId, r.snapshotDate))
      = (loanTermRows read d).map fun t => (d.loanId, t.snapshotDate) := by
  have hterms : (loanWalk env read d).map (·.toTermRow) = loanTermRows read d := map_walkRows ..
  have hids : ∀ t ∈ loanTermRows read d, (t.loanId, t.snapshotDate) = (d.loanId, t.snapshotDate) := by
    intro t ht
    obtain ⟨k, -, rfl⟩ := List.mem_map.mp ht
    rfl
  rw [← List.map_congr_left hids, ← hterms, loanReference, List.map_map, List.map_map]
  rfl

/-- The rows of a loan are in the order of the output. -/
lemma pairwise_loanReference (pdTable : List PdTableRow) (d : DatedRow) :
    (loanReference env read pdTable d).Pairwise fun a b => a.sortKey < b.sortKey := by
  have hdates := pairwise_loanTermRows read d
  have hpairs : ((loanTermRows read d).map fun t => (d.loanId, t.snapshotDate)).Pairwise
      fun a b => toLex (a.1.key, (a.2 : WithTop Timestamp))
        < toLex (b.1.key, (b.2 : WithTop Timestamp)) := by
    rw [List.pairwise_map]
    refine hdates.imp fun hab => ?_
    rw [Prod.Lex.toLex_lt_toLex]
    exact Or.inr ⟨rfl, hab⟩
  rw [← @map_loanReference env read pdTable d, List.pairwise_map] at hpairs
  exact hpairs

lemma loanId_of_mem_loanReference {pdTable : List PdTableRow} {d : DatedRow} {r : EclRow}
    (h : r ∈ loanReference env read pdTable d) : r.loanId = d.loanId := by
  have hmem := List.mem_map_of_mem (f := fun r : EclRow => (r.loanId, r.snapshotDate)) h
  rw [map_loanReference] at hmem
  obtain ⟨t, -, ht⟩ := List.mem_map.mp hmem
  exact (Prod.mk.inj ht).1.symm

/-- The loans of a sheet, by their records. -/
lemma map_loansOf : (loansOf env read eadDf lgdDf).map (fun d => d.loanId.pyStr env)
    = (sortedRecords eadDf).map fun r => (r.cell "Loan ID").pyStr env := by
  rw [loansOf, List.map_map]
  rfl

lemma nodup_loansOf
    (hids : (eadDf.rows.map fun r => (r.cell "Loan ID").pyStr env).Nodup) :
    ((loansOf env read eadDf lgdDf).map fun d => d.loanId.pyStr env).Nodup := by
  rw [map_loansOf]
  exact ((sortByKey_perm _ _).map _).nodup_iff.mpr hids

/-- The loans come in the order of their IDs. -/
lemma pairwise_loansOf
    (hids : (eadDf.rows.map fun r => (r.cell "Loan ID").pyStr env).Nodup) :
    (loansOf env read eadDf lgdDf).Pairwise fun a b => a.loanId.key < b.loanId.key := by
  have hnodup : ((loansOf env read eadDf lgdDf).map fun d => d.loanId.pyStr env).Nodup :=
    nodup_loansOf hids
  rw [List.Nodup, List.pairwise_map] at hnodup
  have hsorted : (loansOf env read eadDf lgdDf).Pairwise fun a b => a.loanId.key ≤ b.loanId.key := by
    rw [loansOf, List.pairwise_map]
    exact sortByKey_sorted _ _
  refine (hsorted.and hnodup).imp fun hab => lt_of_le_of_ne hab.1 fun hkey => hab.2 ?_
  rw [Cell.key_injective hkey]

/-- **The output loan by loan.** -/
lemma computeEad_eq_flatMap {pdTable : List PdTableRow} {out : List EclRow}
    {warnings : List String} (hread : ReadsDates env eadDf read)
    (hids : (eadDf.rows.map fun r => (r.cell "Loan ID").pyStr env).Nodup)
    (hpd : (pdTable.map fun t => (t.segment, t.month, t.transition)).Nodup)
    (h : computeEad env eadDf pdTable lgdDf = .ok (out, warnings)) :
    out = (loansOf env read eadDf lgdDf).flatMap (loanReference env read pdTable) := by
  have hloans : ((loansOf env read eadDf lgdDf).map fun d => d.loanId.pyStr env).Nodup :=
    nodup_loansOf hids
  -- the snapshots of the run are those of the loans
  have hrun : out = sortByKey EclRow.sortKey (eclRows env (joinPd (walkLoans env
      ((expandDated (loansOf env read eadDf lgdDf)).map (termOf read))) pdTable)) := by
    obtain ⟨run, -, hterms⟩ := exists_eadRun h
    have hdated := withDates_eq_loansOf hread run.dated_ok
    have hmapped : run.terms = (expandDated (loansOf env read eadDf lgdDf)).map (termOf read) := by
      rcases hterms with ⟨hnone, hnil⟩ | ⟨-, hterms, -, -⟩
      · rw [hnil, ← hdated, hnone, List.map_nil]
      · rw [hdated] at hterms
        refine withTerms_eq_map hread (fun s hs => ?_) hterms
        obtain ⟨d, hd, k, rfl⟩ := mem_expandDated hs
        obtain ⟨r, hr, rfl⟩ := List.mem_map.mp hd
        exact ⟨r, (mem_sortByKey _).mp hr, rfl⟩
    rw [← hmapped]
    exact run.out_eq
  have hone : ∀ w : WalkedRow, (pdTable.filter (matchesPd w)).length ≤ 1 := by
    intro w
    refine length_filter_le_one_of_key _ hpd fun a b ha hb => ?_
    simp only [matchesPd, decide_eq_true_eq] at ha hb
    obtain ⟨hsegment, hmonth, hstage⟩ := ha
    obtain ⟨hsegment', hmonth', hstage'⟩ := hb
    have hmonths : (a.month : ℤ) = b.month := Option.some.inj (hmonth.symm.trans hmonth')
    have hstages := LoanStage.text_injective (Cell.str.inj (hstage.symm.trans hstage'))
    rw [← hsegment, ← hsegment', Nat.cast_inj.mp hmonths, hstages]
  have hjoined : ∀ walked : List WalkedRow, eclRows env (joinPd walked pdTable)
      = walked.map fun w => eclRow env (w, pdTable.find? (matchesPd w)) := by
    intro walked
    rw [joinPd, leftJoin_eq_map _ fun w _ => hone w, eclRows, List.map_map]
    exact List.map_congr_left fun w _ => by rw [Function.comp_apply, List.head?_filter]
  have hperm : (eclRows env (joinPd (walkLoans env
      ((expandDated (loansOf env read eadDf lgdDf)).map (termOf read))) pdTable)).Perm
      ((loansOf env read eadDf lgdDf).flatMap (loanReference env read pdTable)) := by
    rw [hjoined]
    refine ((walkLoans_perm hloans).map _).trans (List.Perm.of_eq ?_)
    rw [List.map_flatMap]
    rfl
  rw [hrun]
  refine sortByKey_eq_of_perm _ hperm ?_
  rw [List.pairwise_flatMap]
  refine ⟨fun d _ => pairwise_loanReference pdTable d, ?_⟩
  refine (pairwise_loansOf hids).imp fun {a b} hab x hx y hy => ?_
  rw [EclRow.sortKey, EclRow.sortKey, Prod.Lex.toLex_lt_toLex]
  left
  rwa [loanId_of_mem_loanReference hx, loanId_of_mem_loanReference hy]

/-- The rows of a loan in the output. -/
lemma loanRows_eq_reference {pdTable : List PdTableRow} {out : List EclRow}
    {warnings : List String} (hread : ReadsDates env eadDf read)
    (hids : (eadDf.rows.map fun r => (r.cell "Loan ID").pyStr env).Nodup)
    (hpd : (pdTable.map fun t => (t.segment, t.month, t.transition)).Nodup)
    (h : computeEad env eadDf pdTable lgdDf = .ok (out, warnings)) {r : Record}
    (hr : r ∈ eadDf.rows) :
    loanRows out (r.cell "Loan ID") = loanReference env read pdTable
      (loanOf env read eadDf.columns lgdDf.columns r (lgdOf lgdDf (r.cell "Loan ID"))) := by
  set d := loanOf env read eadDf.columns lgdDf.columns r (lgdOf lgdDf (r.cell "Loan ID")) with hd
  have hmem : d ∈ loansOf env read eadDf lgdDf :=
    List.mem_map.mpr ⟨r, (mem_sortByKey _).mpr hr, rfl⟩
  have hcells : ((loansOf env read eadDf lgdDf).map (·.loanId)).Nodup := by
    have hstrings : ((loansOf env read eadDf lgdDf).map fun d => d.loanId.pyStr env).Nodup :=
      nodup_loansOf hids
    rw [List.Nodup, List.pairwise_map] at hstrings ⊢
    exact hstrings.imp fun hne hsame => hne (congrArg (Cell.pyStr env) hsame)
  rw [loanRows, computeEad_eq_flatMap hread hids hpd h]
  exact filter_flatMap_of_key (fun o : EclRow => o.loanId) (fun e : DatedRow => e.loanId) hcells
    (fun e _ o ho => loanId_of_mem_loanReference ho) hmem

/-- The table of `compute_pd` has no month of a segment and a stage twice. -/
lemma nodup_pdKeys {rows : List PdRow} : ((pdOutput env rows).table.map fun t =>
    (t.segment, t.month, t.transition)).Nodup := by
  have hkeys : ((pdOutput env rows).table.map fun r => (r.groupKey, r.month)).Nodup :=
    nodup_map_pdTable (nodup_segmentsOf env (nextStaging rows))
  have hpairs := hkeys.map (f := fun p : (Cell × LoanStage) × ℕ => (p.1.1, p.2, p.1.2))
    (fun a b hab => by
      simp only [Prod.mk.injEq] at hab
      exact Prod.ext (Prod.ext hab.1 hab.2.2) hab.2.1)
  rw [List.map_map] at hpairs
  exact hpairs

/-- **The pipeline is a computation per loan**: its output is the concatenation, in the order
of Loan ID and snapshot date, of the rows of the loans, and another run gives a loan with the
same record and LGD row the same rows, whatever other loans there are. -/
theorem computeEad_eq_reference {pdTable : List PdTableRow} {out : List EclRow}
    {warnings : List String} (hread : ReadsDates env eadDf read)
    (hids : (eadDf.rows.map fun r => (r.cell "Loan ID").pyStr env).Nodup)
    (hpd : (pdTable.map fun t => (t.segment, t.month, t.transition)).Nodup)
    (h : computeEad env eadDf pdTable lgdDf = .ok (out, warnings)) :
    (out = (sortedRecords eadDf).flatMap fun r => loanReference env read pdTable
        (loanOf env read eadDf.columns lgdDf.columns r (lgdOf lgdDf (r.cell "Loan ID"))))
      ∧ (out.Pairwise fun a b => a.sortKey < b.sortKey)
      ∧ ∀ (eadDf' lgdDf' : Frame) (out' : List EclRow) (warnings' : List String),
        eadDf'.columns = eadDf.columns → lgdDf'.columns = lgdDf.columns →
        ReadsDates env eadDf' read →
        (eadDf'.rows.map fun r => (r.cell "Loan ID").pyStr env).Nodup →
        computeEad env eadDf' pdTable lgdDf' = .ok (out', warnings') →
        ∀ r ∈ eadDf.rows, r ∈ eadDf'.rows →
        lgdOf lgdDf' (r.cell "Loan ID") = lgdOf lgdDf (r.cell "Loan ID") →
        loanRows out' (r.cell "Loan ID") = loanRows out (r.cell "Loan ID") := by
  have hout := computeEad_eq_flatMap hread hids hpd h
  refine ⟨?_, ?_, ?_⟩
  · rw [hout, loansOf, List.flatMap_map]
  · rw [hout, List.pairwise_flatMap]
    refine ⟨fun d _ => pairwise_loanReference pdTable d, ?_⟩
    refine (pairwise_loansOf hids).imp fun {a b} hab x hx y hy => ?_
    rw [EclRow.sortKey, EclRow.sortKey, Prod.Lex.toLex_lt_toLex]
    left
    rwa [loanId_of_mem_loanReference hx, loanId_of_mem_loanReference hy]
  · intro eadDf' lgdDf' out' warnings' hcolumns hlgdColumns hread' hids' h' r hr hr' hlgd
    rw [loanRows_eq_reference hread' hids' hpd h' hr', loanRows_eq_reference hread hids hpd h hr,
      hcolumns, hlgdColumns, hlgd]

/-! A sheet with one loan. -/

/-- The dates of a sheet that holds dates. -/
def plainDate : Cell → Option Timestamp
  | .date t => some t
  | _ => none

lemma readsDates_plainEnv (df : Frame) : ReadsDates plainEnv df plainDate := by
  intro column _ cells _ dates hdates
  exact (Except.ok.inj hdates).symm

theorem computeEad_eq_reference_sample :
    [sampleEcl 0 9, sampleEcl 1 8] = (sortedRecords sampleEadFrame).flatMap fun r =>
      loanReference plainEnv plainDate (pdOutput plainEnv samplePdRows).table
        (loanOf plainEnv plainDate sampleEadFrame.columns sampleLgdFrame.columns r
          (lgdOf sampleLgdFrame (r.cell "Loan ID"))) :=
  (computeEad_eq_reference (readsDates_plainEnv sampleEadFrame) (by decide) nodup_pdKeys
    computeEad_sample).1

end EclServer.Engine
