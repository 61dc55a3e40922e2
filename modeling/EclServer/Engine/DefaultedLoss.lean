import EclServer.Engine.EadRows
import EclServer.Engine.EclBound
import EclServer.Engine.SnapshotKeys
import EclServer.Engine.Validators

/-!
The loss of a defaulted loan.

* `pyStr_injective_of_comparable`: the texts of Loan IDs of one type tell them apart.
* `DefaultedLoan`, `loanRows_eq_singleton`: a Stage 3 loan of an accepted sheet goes through
  the pipeline as one row.
* `FullLoss`, `fullLoss_iff`: its marginal PD is one in the first month after origination
  only, because Stage 3 leaves no hazard for a later month.
-/

namespace EclServer.Engine

open EclServer.Library

variable {env : PyEnv}

/-! ### Loan IDs -/

/-- The texts of values of one type tell them apart. -/
lemma pyStr_injective_of_comparable {cells : List Cell} (h : Cell.comparable cells = true)
    {a b : Cell} (ha : a ∈ cells) (hb : b ∈ cells) (ha' : a ≠ .blank) (hb' : b ≠ .blank)
    (hstr : a.pyStr env = b.pyStr env) : a = b := by
  simp only [Cell.comparable, Bool.or_eq_true, List.all_eq_true] at h
  rcases h with (h | h) | h
  · have hca := h a ha
    have hcb := h b hb
    cases a <;> cases b <;> simp_all [Cell.pyStr, env.strNum_injective.eq_iff]
  · have hca := h a ha
    have hcb := h b hb
    cases a <;> cases b <;> simp_all [Cell.pyStr]
  · have hca := h a ha
    have hcb := h b hb
    cases a <;> cases b <;> simp_all [Cell.pyStr, env.strDate_injective.eq_iff]

/-! ### The rows of one loan -/

section OneLoan

variable {eadDf lgdDf : Frame} {pdTable : List PdTableRow} {out : List EclRow}

/-- Whether the staging of a record reads `Stage 3`, as the validator reads it. -/
def isStage3 (env : PyEnv) (eadDf : Frame) (record : Record) : Prop :=
  pyStrip ((record.cell (resolveColumn eadDf stagingAliases "Staging")).pyStr env) = "Stage 3"

/-- Of the three texts only `Stage 3` is read as Stage 3. -/
lemma eq_stage3_of_pyStrip {c : Cell} {stage : LoanStage} (hc : c = .str stage.text)
    (h : pyStrip (c.pyStr env) = "Stage 3") : stage = .stage3 := by
  have hstrip : pyStrip stage.text = "Stage 3" := by rwa [hc] at h
  cases stage with
  | stage1 => exact absurd hstrip (by decide)
  | stage2 => exact absurd hstrip (by decide)
  | stage3 => rfl

/-- A Stage 3 row, with or without blanks around the text, has one snapshot. -/
lemma expandDated_stage3 {d : DatedRow} (h : pyStrip (d.staging.pyStr env) = "Stage 3") :
    expandDated [d] = [d.snapshot 0] := by
  have h1 : d.staging ≠ .str LoanStage.stage1.text := fun heq => by
    cases eq_stage3_of_pyStrip heq h
  have h2 : d.staging ≠ .str LoanStage.stage2.text := fun heq => by
    cases eq_stage3_of_pyStrip heq h
  rw [DatedRow.expandDated_singleton, DatedRow.offsets, if_neg h1, if_neg h2]
  rfl

variable {rows : List PdRow} {record : Record}

/-- A Stage 3 loan of an accepted sheet is one snapshot. -/
lemma exists_term (run : EadRun env eadDf pdTable lgdDf out) (haccepted : EadAccepted eadDf)
    (hrecord : record ∈ eadDf.rows) (hstage : isStage3 env eadDf record) :
    ∃ t : TermRow, (run.terms.filter fun t => t.loanId = record.cell "Loan ID") = [t] ∧
      t.loanId = record.cell "Loan ID" ∧ t.segment = record.cell "SEGMENT" ∧
      t.staging = record.cell (resolveColumn eadDf stagingAliases "Staging") := by
  obtain ⟨m, hm, hloan, hsegment, hstaging⟩ : ∃ m ∈ mergeLgd env eadDf lgdDf,
      m.loanId = record.cell "Loan ID" ∧ m.segment = record.cell "SEGMENT" ∧
        m.staging = record.cell (resolveColumn eadDf stagingAliases "Staging") := by
    have hread : eadRow env eadDf record ∈ readEadRows env eadDf :=
      (mem_sortByKey _).mpr (List.mem_map_of_mem hrecord)
    rw [mergeLgd_eq_map]
    exact ⟨_, List.mem_map_of_mem hread, rfl, rfl, rfl⟩
  have hmerged : ((mergeLgd env eadDf lgdDf).filter fun m => m.loanId = record.cell "Loan ID")
      = [m] := by
    have hnodup := (@map_loanId_mergeLgd env eadDf lgdDf).nodup_iff.mpr
      haccepted.loanId_nodup
    rw [← hloan]
    exact filter_eq_singleton _ hnodup hm
  obtain ⟨d, hd, rfl⟩ : ∃ d : DatedRow,
      (run.dated.filter fun d => d.loanId = record.cell "Loan ID") = [d] ∧ d.toMergedRow = m := by
    rw [← run.dated_eq, List.filter_map] at hmerged
    exact List.map_eq_singleton_iff.mp hmerged
  obtain ⟨t, ht, hsnapshot⟩ : ∃ t : TermRow,
      (run.terms.filter fun t => t.loanId = record.cell "Loan ID") = [t] ∧
        t.toSnapshotRow = d.snapshot 0 := by
    have hone : ((run.terms.map (·.toSnapshotRow)).filter
        fun s => s.loanId = record.cell "Loan ID") = [d.snapshot 0] := by
      rw [run.terms_eq, filter_expandDated fun m => m.loanId = record.cell "Loan ID", hd,
        expandDated_stage3]
      rw [hstaging]
      exact hstage
    rw [List.filter_map] at hone
    exact List.map_eq_singleton_iff.mp hone
  refine ⟨t, ht, ?_, ?_, ?_⟩
  · rw [show t.loanId = t.toSnapshotRow.loanId from rfl, hsnapshot]
    exact hloan
  · rw [show t.segment = t.toSnapshotRow.segment from rfl, hsnapshot]
    exact hsegment
  · rw [show t.staging = t.toSnapshotRow.staging from rfl, hsnapshot]
    exact hstaging

/-- Loan IDs that do not compare stop the run. -/
lemma comparable_of_requireEadColumns (h : requireEadColumns eadDf lgdDf = .ok ()) :
    Cell.comparable (eadDf.column "Loan ID") = true := by
  obtain ⟨_, _, h⟩ := bind_eq_ok.mp h
  by_contra hnot
  rw [Bool.not_eq_true] at hnot
  rw [hnot] at h
  cases h

/-- Selecting the loan key of a loan selects the loan: the IDs are of one type. -/
lemma groupBy_loanKey (run : EadRun env eadDf pdTable lgdDf out) (haccepted : EadAccepted eadDf)
    (hrecord : record ∈ eadDf.rows) :
    groupBy (TermRow.loanKey env) run.terms ((record.cell "Loan ID").pyStr env)
      = run.terms.filter fun t => t.loanId = record.cell "Loan ID" := by
  have hcomparable := comparable_of_requireEadColumns run.columns_ok
  refine List.filter_congr fun t ht => ?_
  rw [decide_eq_decide]
  constructor
  · intro hkey
    obtain ⟨r, hr, lgd, _, hmerged⟩ := mem_mergeLgd (run.toMergedRow_mem ht)
    have hloan : t.loanId = r.cell "Loan ID" := by
      rw [show t.loanId = t.toMergedRow.loanId from rfl, hmerged]
      rfl
    refine @pyStr_injective_of_comparable env _ hcomparable _ _ ?_ (List.mem_map_of_mem hrecord)
      ?_ (haccepted.loanId_ne_blank _ hrecord) hkey
    · rw [hloan]
      exact List.mem_map_of_mem hr
    · rw [hloan]
      exact haccepted.loanId_ne_blank _ hr
  · intro hloan
    rw [TermRow.loanKey, hloan]

/-- A defaulted loan at the end of the balance walk. -/
structure DefaultedLoan (env : PyEnv) (eadDf : Frame) (record : Record) (w : WalkedRow) :
    Prop where
  segment_eq : w.segment = record.cell "SEGMENT"
  staging_eq : w.staging = record.cell (resolveColumn eadDf stagingAliases "Staging")
  period_eq : w.periodToBeDiscounted = 0

/-- A Stage 3 loan of an accepted sheet is one walked row. -/
lemma exists_walked (run : EadRun env eadDf pdTable lgdDf out) (haccepted : EadAccepted eadDf)
    (hrecord : record ∈ eadDf.rows) (hstage : isStage3 env eadDf record) :
    ∃ w : WalkedRow, DefaultedLoan env eadDf record w ∧
      ((walkLoans env run.terms).filter fun w => w.loanId = record.cell "Loan ID") = [w] := by
  obtain ⟨t, ht, hloan, hsegment, hstaging⟩ := exists_term run haccepted hrecord hstage
  obtain ⟨w, hw, rfl⟩ : ∃ w : WalkedRow,
      ((walkLoans env run.terms).filter fun w => w.loanId = record.cell "Loan ID") = [w] ∧
        w.toTermRow = t := by
    have hperm := (@map_walkLoans_perm env run.terms).filter
      fun t => t.loanId = record.cell "Loan ID"
    rw [ht, List.perm_singleton, List.filter_map] at hperm
    exact List.map_eq_singleton_iff.mp hperm
  refine ⟨w, ⟨hsegment, hstaging, ?_⟩, hw⟩
  have hmem : w ∈ walkLoans env run.terms :=
    List.mem_of_mem_filter (hw ▸ List.mem_singleton_self w)
  obtain ⟨loanKey, hkey, hwalk⟩ := List.mem_flatMap.mp hmem
  have hgroup : groupBy (TermRow.loanKey env) run.terms loanKey = [w.toTermRow] := by
    have hdate : w.toTermRow ∈ byDate (groupBy (TermRow.loanKey env) run.terms loanKey) := by
      rw [← @map_walkLoan env]
      exact List.mem_map_of_mem hwalk
    have hsame : TermRow.loanKey env w.toTermRow = loanKey :=
      ((mem_groupBy _).mp ((mem_sortByKey _).mp hdate)).2
    rw [← hsame, TermRow.loanKey, hloan, groupBy_loanKey run haccepted hrecord, ht]
  rw [hgroup, walkLoan, byDate, sortByKey_singleton] at hwalk
  rw [List.mem_singleton.mp hwalk]
  rfl

/-- A Stage 3 loan of an accepted sheet is one row of the output. -/
lemma loanRows_eq_singleton (run : EadRun env eadDf (pdOutput env rows).table lgdDf out)
    (haccepted : EadAccepted eadDf) (hrecord : record ∈ eadDf.rows)
    (hstage : isStage3 env eadDf record) :
    ∃ w : WalkedRow, DefaultedLoan env eadDf record w ∧
      loanRows out (record.cell "Loan ID")
        = [eclRow env (w, ((pdOutput env rows).table.filter (matchesPd w)).head?)] := by
  obtain ⟨w, hdefaulted, hw⟩ := exists_walked run haccepted hrecord hstage
  refine ⟨w, hdefaulted, ?_⟩
  have hperm := (sortByKey_perm EclRow.sortKey
    (eclRows env (joinPd (walkLoans env run.terms) (pdOutput env rows).table))).filter
      fun r => r.loanId = record.cell "Loan ID"
  have hrows : (eclRows env (joinPd (walkLoans env run.terms) (pdOutput env rows).table)).filter
      (fun r => r.loanId = record.cell "Loan ID")
      = [eclRow env (w, ((pdOutput env rows).table.filter (matchesPd w)).head?)] := by
    rw [joinPd_eq_map, eclRows, List.map_map, List.filter_map]
    exact congrArg (List.map _) hw
  rw [hrows, ← run.out_eq, List.perm_singleton] at hperm
  exact hperm

end OneLoan

/-! ### Its marginal PD -/

section MarginalPd

variable {rows : List PdRow}

/-- A segment that the removal of duplicates leaves in the PD input. -/
def SegmentKept (rows : List PdRow) (segment : Cell) : Prop :=
  segment ≠ .blank ∧ ∃ row ∈ dropDuplicates PdRow.key rows, row.segment = segment

instance (rows : List PdRow) (segment : Cell) : Decidable (SegmentKept rows segment) :=
  inferInstanceAs (Decidable (_ ∧ _))

/-- These are the segments of the table. -/
lemma mem_segmentsOf {segment : Cell} :
    segment ∈ segmentsOf env (nextStaging rows) ↔ SegmentKept rows segment := by
  rw [segmentsOf, mem_sortByKey]
  constructor
  · intro h
    obtain ⟨hmem, hna⟩ := List.mem_filter.mp (mem_of_mem_dropDuplicates id h)
    obtain ⟨t, ht, rfl⟩ := List.mem_map.mp hmem
    obtain ⟨⟨row, next⟩, hjoin, rfl⟩ := List.mem_map.mp ht
    have hrow := ((mem_leftJoin isNextOf).mp hjoin).1
    refine ⟨?_, row, (mem_sortByKey _).mp hrow, rfl⟩
    simpa [Cell.isNa] using hna
  · rintro ⟨hblank, row, hrow, rfl⟩
    obtain ⟨next, hnext⟩ := exists_mem_leftJoin isNextOf (dedupeRows rows)
      ((mem_sortByKey PdRow.sortKey).mpr hrow)
    have hmem : row.segment ∈ ((nextStaging rows).map (·.row.segment)).filter fun c => !c.isNa := by
      refine List.mem_filter.mpr ⟨?_, by simpa [Cell.isNa] using hblank⟩
      exact List.mem_map.mpr ⟨_, List.mem_map_of_mem hnext, rfl⟩
    obtain ⟨c, hc, hkey⟩ := exists_mem_dropDuplicates id hmem
    obtain rfl : c = row.segment := hkey
    exact hc

/-- The hazard of a state reached at once: one in the first month and none later. -/
lemma hazardAt_stage3 (working : List PdTransition) (segment : Cell) {n : ℕ} :
    hazardAt denomEps (stage3At env working segment .stage3) n = if n = 1 then 1 else 0 := by
  rw [hazardAt]
  by_cases hn : n = 1
  · rw [if_pos hn, if_pos hn, stage3At_stage3]
  · have heps : (1 : ℚ) - stage3At env working segment .stage3 (n - 1) ≤ denomEps := by
      rw [stage3At_stage3, sub_self]
      exact denomEps_nonneg
    rw [if_neg hn, if_neg hn, if_pos heps]

/-- The marginal PD that is joined to a defaulted loan within the horizon. -/
lemma marginalPd_of_defaulted (rows : List PdRow) {eadDf : Frame} {record : Record} {w : WalkedRow}
    (hw : DefaultedLoan env eadDf record w) (hstage : isStage3 env eadDf record) {p : ℤ}
    (hperiod : w.periodSinceOrigination = some p) (hp : 1 ≤ p) (hp' : p ≤ 299) :
    ((pdOutput env rows).table.filter (matchesPd w)).head?.elim 0 PdTableRow.marginalPd
      = if p = 1 ∧ record.cell (resolveColumn eadDf stagingAliases "Staging") = .str "Stage 3" ∧
          SegmentKept rows (record.cell "SEGMENT") then 1 else 0 := by
  obtain ⟨n, rfl⟩ : ∃ n : ℕ, p = n := ⟨p.toNat, by omega⟩
  by_cases hkept : record.cell (resolveColumn eadDf stagingAliases "Staging") = .str "Stage 3" ∧
      SegmentKept rows (record.cell "SEGMENT")
  · have hsegment : w.segment ∈ segmentsOf env (nextStaging rows) := by
      rw [hw.segment_eq]
      exact mem_segmentsOf.mpr hkept.2
    have hn : n ∈ pdMonths := mem_pdMonths.mpr ⟨by omega, by rw [maxPdMonth]; omega⟩
    have hrow := filter_matchesPd .stage3 hsegment hperiod hn
      (hw.staging_eq.trans hkept.1)
    have hmarginal := @hazardAt_stage3 env (nextStaging rows) w.segment n
    rw [hrow, List.head?_cons, Option.elim_some, tableRow, hmarginal]
    by_cases hone : n = 1
    · rw [if_pos hone, if_pos ⟨by omega, hkept⟩]
    · rw [if_neg hone, if_neg fun h => hone (by omega)]
  · have hnone : (pdOutput env rows).table.filter (matchesPd w) = [] := by
      rw [List.filter_eq_nil_iff]
      intro t ht hmatch
      obtain ⟨segment, hsegment, st, m, _, rfl⟩ := mem_table.mp ht
      simp only [matchesPd, decide_eq_true_eq] at hmatch
      obtain ⟨hseg, _, hstaging⟩ := hmatch
      have hcell : record.cell (resolveColumn eadDf stagingAliases "Staging") = .str st.text :=
        hw.staging_eq.symm.trans hstaging
      obtain rfl := eq_stage3_of_pyStrip hcell hstage
      refine hkept ⟨hcell, (@mem_segmentsOf env rows _).mp ?_⟩
      rw [← hw.segment_eq, hseg]
      exact hsegment
    rw [hnone, if_neg fun h => hkept h.2]
    rfl

/-- The row carries its full loss: its marginal PD is one, and its ECL is the balance times
the LGD. -/
def FullLoss (r : EclRow) : Prop :=
  r.marginalPd = 1 ∧
    r.discountedEcl = do return (← r.balanceAfterMissedPayment) * (← r.lgd)

/-- At the reporting date nothing is discounted. -/
lemma discountedEcl_of_marginalPd_eq_one {w : WalkedRow} {pd : Option PdTableRow}
    (hperiod : w.periodToBeDiscounted = 0) (hmarginal : (eclRow env (w, pd)).marginalPd = 1) :
    FullLoss (eclRow env (w, pd)) := by
  refine ⟨hmarginal, ?_⟩
  have hpd : pd.elim 0 PdTableRow.marginalPd = 1 := hmarginal
  simp only [eclRow, hperiod, discountFactor, hpd, lt_irrefl, if_false]
  cases w.balanceAfterMissedPayment with
  | none => rfl
  | some b =>
      cases lossGivenWriteOff (some b) (floatOf env w.collateral) with
      | none => rfl
      | some lgw => simp

/-- **The loss of a defaulted loan.** A Stage 3 loan of an accepted sheet has one row, and in
the months 1 to 299 after its first payment that row carries the full loss in the first month
only, and then only where the staging is written exactly and a row of the segment is kept. -/
theorem fullLoss_iff {pdDf eadDf lgdDf : Frame} {pdOut : PdOutput} {out : List EclRow}
    {warnings : List String} {sheetName : String} {allowedSegments : List String}
    {record : Record} (hvalid : (validateEad env eadDf sheetName allowedSegments).isValid = true)
    (hread : readPdRows env pdDf = .ok rows) (hpd : computePd env pdDf = .ok pdOut)
    (head : computeEad env eadDf pdOut.table lgdDf = .ok (out, warnings))
    (hrecord : record ∈ eadDf.rows) (hstage : isStage3 env eadDf record) :
    ∃ r, loanRows out (record.cell "Loan ID") = [r] ∧
      ∀ p : ℤ, r.periodSinceOrigination = some p → 1 ≤ p → p ≤ 299 →
        (FullLoss r ↔ p = 1 ∧
          record.cell (resolveColumn eadDf stagingAliases "Staging") = .str "Stage 3" ∧
          SegmentKept rows (record.cell "SEGMENT")) := by
  obtain ⟨run⟩ := computeEad_ok head
  obtain ⟨rows', hread', _, rfl⟩ := readPdRows_of_computePd hpd
  obtain rfl : rows = rows' := Except.ok.inj (hread.symm.trans hread')
  obtain ⟨w, hw, hrows⟩ := loanRows_eq_singleton run (eadAccepted_of_isValid hvalid) hrecord hstage
  refine ⟨_, hrows, ?_⟩
  intro p hperiod hp hp'
  have hmarginal := marginalPd_of_defaulted rows hw hstage hperiod hp hp'
  constructor
  · intro hfull
    by_contra hcond
    rw [if_neg hcond] at hmarginal
    exact zero_ne_one (hmarginal.symm.trans hfull.1)
  · intro hcond
    rw [if_pos hcond] at hmarginal
    exact discountedEcl_of_marginalPd_eq_one hw.period_eq hmarginal

end MarginalPd

/-! ### A loan in default since its second month -/

/-- The EAD sheet of the sample with its loan in Stage 3, two months after its first payment. -/
def defaultedCell (name : String) : Cell :=
  if name = "Staging" then .str "Stage 3"
  else if name = "Reporting Date" then .date (firstOf 24290)
  else sampleEadCell name

def defaultedFrame : Frame := { sampleEadFrame with rows := [⟨0, defaultedCell⟩] }

def defaultedMerged : MergedRow :=
  { eadRow plainEnv defaultedFrame ⟨0, defaultedCell⟩ with eir := .num 0, collateral := .num 0 }

lemma joinLgd_defaulted : joinLgd plainEnv defaultedFrame sampleLgdFrame
    = [(eadRow plainEnv defaultedFrame ⟨0, defaultedCell⟩, some ⟨.str "L", .num 0, .num 0⟩)] := by
  have hread : readEadRows plainEnv defaultedFrame
      = [eadRow plainEnv defaultedFrame ⟨0, defaultedCell⟩] := sortByKey_singleton _ _
  rw [joinLgd, hread]
  decide

def defaultedDated : DatedRow :=
  { defaultedMerged with repDate := some (firstOf 24290), matDate := some (firstOf 24290) }

def defaultedTerm : TermRow :=
  { defaultedDated.snapshot 0 with
    reporting := some (firstOf 24290)
    firstPayment := some (firstOf 24288)
    adjustedMaturity := some (firstOf 24299) }

/-- Its walk: 10 in nine instalments, of which one is paid. -/
def defaultedWalked : WalkedRow :=
  { defaultedTerm with
    monthlyInstalment := some (10 / 9)
    balanceAfterRepayment := some (80 / 9)
    balanceAfterMissedPayment := some (80 / 9)
    periodToBeDiscounted := 0 }

lemma groupBy_defaulted :
    groupBy (TermRow.loanKey plainEnv) [defaultedTerm] "L" = [defaultedTerm] := by
  decide

lemma walkLoans_defaulted : walkLoans plainEnv [defaultedTerm] = [defaultedWalked] := by
  have hkeys : groupKeys (TermRow.loanKey plainEnv) [defaultedTerm] = ["L"] := by
    decide
  rw [walkLoans, hkeys, sortByKey_singleton, List.flatMap_singleton, groupBy_defaulted, walkLoan,
    byDate, sortByKey_singleton]
  decide +kernel

/-- Its row of the PD table. -/
def defaultedPd : PdTableRow :=
  tableRow plainEnv (cureRatesOf plainEnv samplePdRows) (nextStaging samplePdRows)
    (.str "RETAIL") .stage3 2

def defaultedEcl : EclRow := eclRow plainEnv (defaultedWalked, some defaultedPd)

lemma computeEad_defaulted :
    computeEad plainEnv defaultedFrame (pdOutput plainEnv samplePdRows).table sampleLgdFrame
      = .ok ([defaultedEcl], []) := by
  have hsegment : Cell.str "RETAIL" ∈ segmentsOf plainEnv (nextStaging samplePdRows) := by
    rw [segmentsOf_sample]
    exact List.mem_singleton_self _
  have hpd := filter_matchesPd (w := defaultedWalked) (n := 2) .stage3 hsegment
    (by decide) (mem_pdMonths.mpr (by decide)) rfl
  have hjoined : joinPd (walkLoans plainEnv [defaultedTerm]) (pdOutput plainEnv samplePdRows).table
      = [(defaultedWalked, some defaultedPd)] := by
    rw [walkLoans_defaulted, joinPd_eq_map, List.map_singleton, hpd]
    rfl
  have hexpand : expandDated [defaultedDated] = [defaultedDated.snapshot 0] := by
    decide
  have hdated : withDates plainEnv (mergeLgd plainEnv defaultedFrame sampleLgdFrame)
      = .ok [defaultedDated] := by
    rw [mergeLgd, joinLgd_defaulted]
    rfl
  have hterms : withTerms plainEnv (expandDated [defaultedDated]) = .ok [defaultedTerm] := by
    rw [hexpand]
    rfl
  have hsome : (expandDated [defaultedDated]).isEmpty = false := by
    rw [hexpand]
    rfl
  obtain ⟨hfloats, hcells⟩ := @checkFloats_ok plainEnv [defaultedTerm] (by
    intro t ht c hc
    obtain rfl := List.mem_singleton.mp ht
    simp only [List.mem_cons, List.not_mem_nil, or_false] at hc
    rcases hc with rfl | rfl | rfl <;> exact ⟨_, rfl⟩)
  have hkeys : requirePdKeys defaultedFrame [defaultedTerm]
      (pdOutput plainEnv samplePdRows).table = .ok () :=
    requirePdKeys_of_texts (textColumn_singleton "RETAIL") (textColumn_singleton "Stage 3")
      segment_of_mem_table_sample
  have hchecks : EadChecks plainEnv defaultedFrame sampleLgdFrame
      (pdOutput plainEnv samplePdRows).table [defaultedTerm] :=
    ⟨by decide, hkeys, by decide, by decide, by decide, by decide, hfloats, hcells⟩
  have hsegments : missingSegments plainEnv [(defaultedWalked, some defaultedPd)] = [] :=
    sortByKey_nil _
  have hwarnings : missingLgdWarnings plainEnv
      (joinLgd plainEnv defaultedFrame sampleLgdFrame) = [] := by
    rw [joinLgd_defaulted]
    exact congrArg (List.map _) (sortByKey_nil _)
  rw [computeEad_eq_ok hchecks hdated hsome hterms (by rw [hjoined, hsegments]; rfl), hjoined,
    hwarnings]
  exact congrArg (fun rows => Except.ok (rows, [])) (sortByKey_singleton _ _)

lemma validateEad_defaulted : (validateEad plainEnv defaultedFrame "Data" []).isValid = true := by
  decide

/-- **A full loss that is missed**: an accepted loan in Stage 3 two months after its first
payment, with a balance of 80/9 and an LGD of one, has a marginal PD and an ECL of zero. -/
theorem fullLoss_fails :
    (validateEad plainEnv defaultedFrame "Data" []).isValid = true ∧
      computePd plainEnv samplePdFrame = .ok (pdOutput plainEnv samplePdRows) ∧
      computeEad plainEnv defaultedFrame (pdOutput plainEnv samplePdRows).table sampleLgdFrame
        = .ok ([defaultedEcl], []) ∧
      loanRows [defaultedEcl] (.str "L") = [defaultedEcl] ∧
      defaultedEcl.staging = .str "Stage 3" ∧ SegmentKept samplePdRows defaultedEcl.segment ∧
      defaultedEcl.periodSinceOrigination = some 2 ∧
      defaultedEcl.balanceAfterMissedPayment = some (80 / 9) ∧ defaultedEcl.lgd = some 1 ∧
      defaultedEcl.marginalPd = 0 ∧ defaultedEcl.discountedEcl = some 0 := by
  have hmarginal : defaultedPd.marginalPd = 0 := by
    rw [defaultedPd, tableRow, hazardAt_stage3]
    rfl
  have hcure : defaultedPd.cureRate = 0 := cureRatesOf_sample
  have hcollateral : floatOf plainEnv defaultedWalked.collateral = some 0 := rfl
  have hbalance : defaultedWalked.balanceAfterMissedPayment = some (80 / 9) := rfl
  refine ⟨validateEad_defaulted, computePd_sample, computeEad_defaulted, rfl, rfl, by decide,
    by decide, rfl, ?_, hmarginal, ?_⟩
  · simp only [defaultedEcl, eclRow, Option.elim_some, hcure, hcollateral, hbalance,
      lossGivenWriteOff]
    norm_num
  · simp only [defaultedEcl, eclRow, Option.elim_some, hcure, hcollateral, hbalance, hmarginal,
      lossGivenWriteOff, discountFactor]
    norm_num [defaultedWalked]

/-- The one row of this loan. -/
theorem fullLoss_iff_sample :
    ∃ r, loanRows [defaultedEcl] (.str "L") = [r] ∧
      ∀ p : ℤ, r.periodSinceOrigination = some p → 1 ≤ p → p ≤ 299 →
        (FullLoss r ↔ p = 1 ∧ Cell.str "Stage 3" = .str "Stage 3" ∧
          SegmentKept samplePdRows (.str "RETAIL")) :=
  @fullLoss_iff plainEnv samplePdRows _ _ _ _ _ _ _ _ ⟨0, defaultedCell⟩ validateEad_defaulted
    readPdRows_sample
    computePd_sample computeEad_defaulted (List.mem_singleton_self _)
    (show isStage3 plainEnv defaultedFrame ⟨0, defaultedCell⟩ by unfold isStage3; decide)

end EclServer.Engine
