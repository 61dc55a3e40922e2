import EclServer.Engine.Accepted
import EclServer.Engine.Aggregates

/-!
Whether the aggregates of a run add up to its portfolio.

* `sum_eclBy`: the tables by segment and by stage have the sums of the table by loan.
* `reportedSegments`, `eclBySegment_ok`: the segments of the table, each with the amounts that
  the sheet has of it.
* `AggregatesAddUp`, `aggregates_add_up_iff`: the tables make up the portfolio where the rows that
  the grouping drops carry nothing, and the segments that it does not reach no amount.
-/

namespace EclServer.Engine

open EclServer.Library

variable {env : PyEnv} {out : List EclRow} {df : Frame} {aggregates : EclAggregates}

/-! ### By segment and by stage -/

lemma sum_eclBy (key : LoanEcl → Cell) (loans : List LoanEcl) :
    ((eclBy key loans).map (·.2)).sum = (loans.map (·.totalDiscountedEcl)).sum := by
  rw [eclBy, List.map_map, ((sortByKey_perm _ _).map _).sum_eq]
  exact sum_groupBy key LoanEcl.totalDiscountedEcl loans

/-- The segments of the rows that the grouping keeps. -/
def reportedSegments (out : List EclRow) : List Cell :=
  groupKeys EclRow.segment (out.filter fun r => r.Keyed)

/-- The amounts that the sheet has of a segment. -/
def segmentAmounts (df : Frame) (segment : Cell) : List Cell :=
  (groupBy (fun r : Record => r.cell "SEGMENT") df.rows segment).map (·.cell "Outstanding Amount")

/-- The table by segment has the segments of the rows that are kept. -/
lemma mem_eclBy_segment {outstanding : List (Cell × Option ℚ)} {segment : Cell} :
    segment ∈ (eclBy LoanEcl.segment (eclByLoan out outstanding)).map (·.1)
      ↔ segment ∈ reportedSegments out := by
  rw [eclBy, List.map_map, reportedSegments, mem_groupKeys]
  simp only [List.mem_map, mem_sortByKey, mem_groupKeys, eclByLoan, loanTotals, Function.comp_apply]
  constructor
  · rintro ⟨_, ⟨_, ⟨_, ⟨_, ⟨r, hr, rfl⟩, rfl⟩, rfl⟩, rfl⟩, rfl⟩
    exact ⟨r, hr, rfl⟩
  · rintro ⟨r, hr, rfl⟩
    exact ⟨_, ⟨_, ⟨_, ⟨_, ⟨r, hr, rfl⟩, rfl⟩, rfl⟩, rfl⟩, rfl⟩

/-! ### Amounts -/

/-- The amount of a row, zero for NaN. -/
def inputAmount (env : PyEnv) (r : Record) : ℚ :=
  (floatOf env (r.cell "Outstanding Amount")).getD 0

/-- The amounts of the rows of the segments that are not reported. -/
def unreportedAmount (env : PyEnv) (df : Frame) (out : List EclRow) : ℚ :=
  ((df.rows.filter fun r => r.cell "SEGMENT" ∉ reportedSegments out).map (inputAmount env)).sum

/-- The input amounts of the loans, where each has one row. -/
lemma inputOutstanding_eq (hnodup : (df.rows.map (·.cell "Loan ID")).Nodup) :
    inputOutstanding env df = (df.rows.map (inputAmount env)).sum := by
  rw [inputOutstanding, dropDuplicates_of_nodup _ hnodup]
  exact sum_filterMap (fun r : Record => floatOf env (r.cell "Outstanding Amount")) df.rows

/-- A sum of cells that are no text is that of the floats. -/
lemma sumCells_of_numbers {rows : List Record} {c : Cell}
    (h : sumCells (rows.map (·.cell "Outstanding Amount")) = .ok c)
    (hnone : ∀ r ∈ rows, ∀ s, r.cell "Outstanding Amount" ≠ .str s) :
    c = .num (rows.map (inputAmount env)).sum := by
  rcases sumCells_ok h with ⟨hnumbers, rfl⟩ | ⟨⟨s, hs⟩, -⟩
  · rw [List.map_map]
    refine congrArg (fun l => Cell.num l.sum) (List.map_congr_left fun r hr => ?_)
    rw [Function.comp_apply, inputAmount]
    rcases hnumbers _ (List.mem_map_of_mem hr) with hcell | ⟨q, hcell⟩ <;> rw [hcell] <;> rfl
  · obtain ⟨r, hr, hcell⟩ := List.mem_map.mp hs
    exact absurd hcell (hnone r hr s)

/-- A sum of cells that has a text is a text. -/
lemma sumCells_of_text {cells : List Cell} {c : Cell} (h : sumCells cells = .ok c) {s : String}
    (hmem : .str s ∈ cells) : ∃ text, c = .str text := by
  rcases sumCells_ok h with ⟨hnumbers, -⟩ | ⟨-, hc⟩
  · rcases hnumbers _ hmem with hblank | ⟨q, hq⟩
    · cases hblank
    · cases hq
  · exact ⟨_, hc⟩

/-! ### Amounts by segment -/

/-- What the sheet has of a segment is found in the table of amounts. -/
lemma exists_segmentAmount {amounts : List (Cell × Cell)}
    (h : segmentOutstanding df = .ok amounts) {segment : Cell} (hsegment : segment ≠ .blank)
    (hmem : ∃ r ∈ df.rows, r.cell "SEGMENT" = segment) :
    ∃ c, (amounts.find? fun q => q.1 = segment) = some (segment, c) ∧
      sumCells (segmentAmounts df segment) = .ok c := by
  set rows := df.rows.filter fun r => !(r.cell "SEGMENT").isNa
  have hkey : segment
      ∈ sortByKey Cell.key (groupKeys (fun r : Record => r.cell "SEGMENT") rows) := by
    obtain ⟨r, hr, rfl⟩ := hmem
    refine (mem_sortByKey _).mpr ((mem_groupKeys _).mpr ⟨r, List.mem_filter.mpr ⟨hr, ?_⟩, rfl⟩)
    simpa [Cell.isNa] using hsegment
  have hkeys : amounts.map (·.1)
      = sortByKey Cell.key (groupKeys (fun r : Record => r.cell "SEGMENT") rows) := by
    refine (map_eq_of_mapM_ok (g := id) h fun k p hp => ?_).trans (List.map_id _)
    obtain ⟨c, -, hp⟩ := bind_eq_ok.mp hp
    rw [← Except.ok.inj hp]
    rfl
  have hnodup : (amounts.map (·.1)).Nodup := by
    rw [hkeys]
    exact (sortByKey_perm _ _).nodup_iff.mpr (nodup_groupKeys _ _)
  obtain ⟨p, hp, hsum⟩ := exists_mem_of_mapM_ok h hkey
  obtain ⟨c, hc, hsum⟩ := bind_eq_ok.mp hsum
  obtain rfl := Except.ok.inj hsum
  refine ⟨c, find?_key_eq Prod.fst hnodup hp, ?_⟩
  rw [groupBy_filter_key (fun r : Record => r.cell "SEGMENT") df.rows (fun k => !k.isNa)
    (by simpa [Cell.isNa] using hsegment)] at hc
  exact hc

/-- `Total Outstanding` of a segment. -/
def amountOfSegment (amounts : List (Cell × Cell)) (segment : Cell) : Cell :=
  ((amounts.find? fun q => q.1 = segment).map (·.2)).getD .blank

/-- The rows of the table by segment. -/
lemma eclBySegment_ok {loans : List LoanEcl} {amounts : List (Cell × Cell)}
    {rows : List SegmentEcl} (h : eclBySegment env loans amounts = .ok rows) :
    rows.map (·.totalEcl) = (eclBy LoanEcl.segment loans).map (·.2) ∧
      rows.map (·.totalOutstanding)
        = ((eclBy LoanEcl.segment loans).map (·.1)).map (amountOfSegment amounts) := by
  have hrow : ∀ (p : Cell × ℚ) (row : SegmentEcl), (do
      let amount := ((amounts.find? fun q => q.1 = p.1).map (·.2)).getD .blank
      return {
        segment := p.1
        totalEcl := p.2
        totalOutstanding := amount
        coverage := ratioOf p.2 (← amount.toFloat env) } : Except String SegmentEcl) = .ok row →
      row.totalEcl = p.2 ∧ row.totalOutstanding = amountOfSegment amounts p.1 := by
    intro p row hp
    obtain ⟨x, -, hp⟩ := bind_eq_ok.mp hp
    obtain rfl := Except.ok.inj hp
    exact ⟨rfl, rfl⟩
  refine ⟨map_eq_of_mapM_ok h fun p row hp => (hrow p row hp).1, ?_⟩
  rw [List.map_map]
  exact map_eq_of_mapM_ok h fun p row hp => (hrow p row hp).2

/-- A segment of the output is one of the sheet. -/
lemma exists_segment {lgdDf : Frame} {pdTable : List PdTableRow} {warnings : List String}
    (h : computeEad env df pdTable lgdDf = .ok (out, warnings)) {o : EclRow} (ho : o ∈ out) :
    ∃ r ∈ df.rows, r.cell "SEGMENT" = o.segment := by
  obtain ⟨run, -⟩ := exists_eadRun h
  obtain ⟨w, hw, pd, -, rfl⟩ := run.mem_out ho
  obtain ⟨r, hr, lgd, -, hmerged⟩ := mem_mergeLgd (run.toMergedRow_mem (toTermRow_mem hw))
  exact ⟨r, hr, (congrArg (fun m : MergedRow => m.segment) hmerged).symm⟩

/-- The amounts of the reported segments are those of their rows. -/
lemma sum_reported (hmem : ∀ k ∈ reportedSegments out, ∃ r ∈ df.rows, r.cell "SEGMENT" = k)
    (f : Record → ℚ) {segments : List Cell} (hnodup : segments.Nodup)
    (hsegments : ∀ k, k ∈ segments ↔ k ∈ reportedSegments out) :
    (segments.map fun k => ((groupBy (fun r : Record => r.cell "SEGMENT") df.rows k).map f).sum).sum
        + ((df.rows.filter fun r => r.cell "SEGMENT" ∉ reportedSegments out).map f).sum
      = (df.rows.map f).sum := by
  set reported := df.rows.filter fun r => r.cell "SEGMENT" ∈ reportedSegments out with hreported
  have hkeys : segments.Perm (groupKeys (fun r : Record => r.cell "SEGMENT") reported) := by
    refine (List.perm_ext_iff_of_nodup hnodup (nodup_groupKeys _ _)).mpr fun k => ?_
    rw [hsegments, mem_groupKeys]
    constructor
    · intro hk
      obtain ⟨r, hr, rfl⟩ := hmem k hk
      exact ⟨r, List.mem_filter.mpr ⟨hr, decide_eq_true hk⟩, rfl⟩
    · rintro ⟨r, hr, rfl⟩
      exact of_decide_eq_true (List.mem_filter.mp hr).2
  have hgroups : (segments.map fun k =>
      ((groupBy (fun r : Record => r.cell "SEGMENT") df.rows k).map f).sum).sum
      = (reported.map f).sum := by
    rw [← sum_groupBy (fun r : Record => r.cell "SEGMENT") f reported, ← (hkeys.map _).sum_eq]
    refine congrArg List.sum (List.map_congr_left fun k hk => ?_)
    rw [hreported, groupBy_filter_key (fun r : Record => r.cell "SEGMENT") df.rows
      (fun c => decide (c ∈ reportedSegments out)) (decide_eq_true ((hsegments k).mp hk))]
  have hsplit := ((List.filter_append_perm
    (fun r : Record => decide (r.cell "SEGMENT" ∈ reportedSegments out)) df.rows).map f).sum_eq
  rw [List.map_append, List.sum_append] at hsplit
  rw [hgroups, ← hsplit]
  congr 3
  exact List.filter_congr fun r _ => by simp

/-! ### The portfolio -/

/-- **The aggregates partition the portfolio**: the tables by loan, by segment and by stage have
the total of all rows, the segments have the total amount, and the stages share the credit loss. -/
structure AggregatesAddUp (out : List EclRow) (aggregates : EclAggregates) : Prop where
  total : aggregates.totalEcl = totalEcl out
  loans : (aggregates.eclByLoan.map (·.totalDiscountedEcl)).sum = totalEcl out
  segments : (aggregates.eclBySegment.map (·.totalEcl)).sum = totalEcl out
  stages : (aggregates.eclByStage.map (·.totalEcl)).sum = totalEcl out
  outstanding : ∃ amounts : List ℚ, aggregates.eclBySegment.map (·.totalOutstanding)
    = amounts.map Cell.num ∧ amounts.sum = aggregates.totalOutstanding
  shares : 0 < aggregates.totalEcl → (aggregates.eclByStage.map (·.portfolioShare)).sum = 1

/-- The groups reach the portfolio: the rows that they drop carry no credit loss, the amounts that
they sum are no texts, and those of other segments are nothing. -/
structure GroupsReach (env : PyEnv) (df : Frame) (out : List EclRow) : Prop where
  dropped : totalEcl (out.filter fun r => ¬ r.Keyed) = 0
  numbers : ∀ r ∈ df.rows, r.cell "SEGMENT" ∈ reportedSegments out →
    ∀ s, r.cell "Outstanding Amount" ≠ .str s
  unreported : unreportedAmount env df out = 0

section Tables

variable {outstanding : List (Cell × Option ℚ)} {amounts : List (Cell × Cell)}

/-- The three tables have the credit loss of the rows that are kept. -/
lemma AggregateTables.sums (h : AggregateTables env out df aggregates outstanding amounts) :
    (aggregates.eclByLoan.map (·.totalDiscountedEcl)).sum = aggregates.totalEcl ∧
      (aggregates.eclBySegment.map (·.totalEcl)).sum = aggregates.totalEcl ∧
      (aggregates.eclByStage.map (·.totalEcl)).sum = aggregates.totalEcl ∧
      (0 < aggregates.totalEcl → (aggregates.eclByStage.map (·.portfolioShare)).sum = 1) := by
  have hloans := h.totalEcl_eq.symm
  have hstages : ((eclBy LoanEcl.stage aggregates.eclByLoan).map (·.2)).sum = aggregates.totalEcl :=
    (sum_eclBy LoanEcl.stage _).trans hloans
  refine ⟨hloans, ?_, ?_, fun hpos => ?_⟩
  · rw [(eclBySegment_ok h.bySegment_ok).1, sum_eclBy, hloans]
  · rw [h.byStage_eq, eclByStage, List.map_map]
    exact hstages
  · have hshares : aggregates.eclByStage.map (·.portfolioShare)
        = (eclBy LoanEcl.stage aggregates.eclByLoan).map fun p => p.2 / aggregates.totalEcl := by
      rw [h.byStage_eq, eclByStage, List.map_map]
      exact List.map_congr_left fun p _ => if_pos hpos
    have hdiv : ((eclBy LoanEcl.stage aggregates.eclByLoan).map fun p =>
        p.2 / aggregates.totalEcl).sum
        = ((eclBy LoanEcl.stage aggregates.eclByLoan).map (·.2)).sum / aggregates.totalEcl := by
      simp only [div_eq_mul_inv]
      exact List.sum_map_mul_right _ (fun p : Cell × ℚ => p.2) _
    rw [hshares, hdiv, hstages, div_self hpos.ne']

/-- **The segments have the total amount** exactly where the amounts that they sum are numbers
and the rows of other segments have none. -/
lemma AggregateTables.outstanding_iff
    (h : AggregateTables env out df aggregates outstanding amounts)
    (hnodup : (df.rows.map (·.cell "Loan ID")).Nodup)
    (hmem : ∀ k ∈ reportedSegments out, ∃ r ∈ df.rows, r.cell "SEGMENT" = k) :
    (∃ l : List ℚ, aggregates.eclBySegment.map (·.totalOutstanding) = l.map Cell.num ∧
        l.sum = aggregates.totalOutstanding)
      ↔ (∀ r ∈ df.rows, r.cell "SEGMENT" ∈ reportedSegments out →
          ∀ s, r.cell "Outstanding Amount" ≠ .str s) ∧ unreportedAmount env df out = 0 := by
  set segments := (eclBy LoanEcl.segment aggregates.eclByLoan).map (·.1) with hsegments
  have hreported : ∀ k, k ∈ segments ↔ k ∈ reportedSegments out := fun k => by
    rw [hsegments, h.byLoan_eq]
    exact mem_eclBy_segment
  have hdistinct : segments.Nodup := by
    have hkeys : segments
        = sortByKey Cell.key (groupKeys LoanEcl.segment aggregates.eclByLoan) := by
      rw [hsegments, eclBy, List.map_map]
      exact List.map_id _
    rw [hkeys]
    exact (sortByKey_perm _ _).nodup_iff.mpr (nodup_groupKeys _ _)
  have hcells := (eclBySegment_ok h.bySegment_ok).2
  rw [← hsegments] at hcells
  -- what a segment has in the table
  have hsum : ∀ k ∈ segments, sumCells (segmentAmounts df k) = .ok (amountOfSegment amounts k) := by
    intro k hk
    have hk' := (hreported k).mp hk
    have hblank : k ≠ .blank := by
      obtain ⟨o, ho, rfl⟩ := (mem_groupKeys _).mp hk'
      exact (of_decide_eq_true (List.mem_filter.mp ho).2).2.2.1
    obtain ⟨c, hfind, hc⟩ := exists_segmentAmount h.amounts_ok hblank (hmem k hk')
    rw [amountOfSegment, hfind]
    exact hc
  have hrow : ∀ k ∈ segments, (∀ r ∈ df.rows, r.cell "SEGMENT" = k →
      ∀ s, r.cell "Outstanding Amount" ≠ .str s) → amountOfSegment amounts k = .num
        ((groupBy (fun r : Record => r.cell "SEGMENT") df.rows k).map (inputAmount env)).sum := by
    intro k hk hnone
    refine sumCells_of_numbers (hsum k hk) fun r hr => ?_
    obtain ⟨hmem, hkey⟩ := (mem_groupBy _).mp hr
    exact hnone r hmem hkey
  have htotal := sum_reported hmem (inputAmount env) hdistinct hreported
  rw [h.totalOutstanding_input, inputOutstanding_eq hnodup, hcells, ← htotal]
  have hnumbers : (∀ r ∈ df.rows, r.cell "SEGMENT" ∈ reportedSegments out →
      ∀ s, r.cell "Outstanding Amount" ≠ .str s) → segments.map (amountOfSegment amounts)
        = (segments.map fun k => ((groupBy (fun r : Record => r.cell "SEGMENT") df.rows k).map
            (inputAmount env)).sum).map Cell.num := by
    intro hnone
    refine Eq.trans (List.map_congr_left fun k hk => hrow k hk fun r hr hkey => ?_)
      List.map_map.symm
    exact hnone r hr (hkey ▸ (hreported k).mp hk)
  constructor
  · rintro ⟨l, hl, hamount⟩
    have hnone : ∀ r ∈ df.rows, r.cell "SEGMENT" ∈ reportedSegments out →
        ∀ s, r.cell "Outstanding Amount" ≠ .str s := by
      intro r hr hsegment s htext
      have hk := (hreported _).mpr hsegment
      have hin : Cell.str s ∈ segmentAmounts df (r.cell "SEGMENT") :=
        List.mem_map.mpr ⟨r, (mem_groupBy _).mpr ⟨hr, rfl⟩, htext⟩
      obtain ⟨text, heq⟩ := sumCells_of_text (hsum _ hk) hin
      have hcell : amountOfSegment amounts (r.cell "SEGMENT") ∈ l.map Cell.num :=
        hl ▸ List.mem_map_of_mem hk
      obtain ⟨q, -, hq⟩ := List.mem_map.mp hcell
      cases hq.trans heq
    rw [hnumbers hnone] at hl
    rw [← List.map_injective_iff.mpr (fun _ _ hq => Cell.num.inj hq) hl] at hamount
    exact ⟨hnone, left_eq_add.mp hamount⟩
  · rintro ⟨hnone, hzero⟩
    exact ⟨_, hnumbers hnone, left_eq_add.mpr hzero⟩

end Tables

/-- **When the aggregates partition the portfolio**, of an accepted sheet: exactly where the groups
reach it. The grouping drops the rows of blank keys, puts texts together instead of adding them, and
takes the amounts of the segments that have output only. -/
theorem aggregates_add_up_iff {lgdDf : Frame} {pdTable : List PdTableRow} {warnings : List String}
    {sheetName : String} {allowedSegments : List String} (hrows : out ≠ [])
    (hvalid : (validateEad env df sheetName allowedSegments).isValid = true)
    (h : computeEad env df pdTable lgdDf = .ok (out, warnings))
    (haggregates : buildEclAggregates env out df = .ok aggregates) :
    AggregatesAddUp out aggregates ↔ GroupsReach env df out := by
  obtain ⟨outstanding, amounts, htables⟩ := exists_aggregateTables hrows haggregates
  obtain ⟨hloans, hsegments, hstages, hshares⟩ := htables.sums
  have hmem : ∀ k ∈ reportedSegments out, ∃ r ∈ df.rows, r.cell "SEGMENT" = k := by
    intro k hk
    obtain ⟨o, ho, rfl⟩ := (mem_groupKeys _).mp hk
    exact exists_segment h (List.mem_filter.mp ho).1
  have houtstanding := htables.outstanding_iff (eadChecked_of_isValid hvalid).loanId_nodup hmem
  have htotal : aggregates.totalEcl = totalEcl out
      ↔ totalEcl (out.filter fun r => ¬ r.Keyed) = 0 := by
    rw [htables.totalEcl_keyed, totalEcl_filter_add out, left_eq_add]
  constructor
  · intro hsums
    obtain ⟨hnumbers, hzero⟩ := houtstanding.mp hsums.outstanding
    exact ⟨htotal.mp hsums.total, hnumbers, hzero⟩
  · intro hreach
    have hecl := htotal.mpr hreach.dropped
    exact ⟨hecl, hloans.trans hecl, hsegments.trans hecl, hstages.trans hecl,
      houtstanding.mpr ⟨hreach.numbers, hreach.unreported⟩, hshares⟩

/-- The aggregates of the sample sheet. -/
theorem aggregates_add_up_sample : ∃ aggregates,
    buildEclAggregates plainEnv [sampleEcl 0 9, sampleEcl 1 8] sampleEadFrame = .ok aggregates ∧
      AggregatesAddUp [sampleEcl 0 9, sampleEcl 1 8] aggregates := by
  obtain ⟨aggregates, haggregates⟩ := exists_buildEclAggregates_sample
  refine ⟨aggregates, haggregates, (@aggregates_add_up_iff plainEnv _ sampleEadFrame aggregates
    sampleLgdFrame _ [] "Data" [] (by simp) (by decide) computeEad_sample haggregates).mpr
      ⟨?_, ?_, ?_⟩⟩
  · have hnone : ([sampleEcl 0 9, sampleEcl 1 8].filter fun r => ¬ r.Keyed) = [] := by decide
    rw [hnone]
    rfl
  · intro r hr _ s
    obtain rfl := List.mem_singleton.mp hr
    exact Cell.noConfusion
  · have hnone : (sampleEadFrame.rows.filter fun r =>
        r.cell "SEGMENT" ∉ reportedSegments [sampleEcl 0 9, sampleEcl 1 8]) = [] := by decide
    rw [unreportedAmount, hnone]
    rfl

/-! ### A loan without a customer

The loan of the sample sheet at its maturity date, with a blank Customer ID. -/

def unnamedCell (name : String) : Cell :=
  if name = "Customer ID" then .blank
  else if name = "Maturity Date" then .date (firstOf 24289)
  else sampleEadCell name

def unnamedFrame : Frame := { sampleEadFrame with rows := [⟨0, unnamedCell⟩] }

def unnamedMerged : MergedRow :=
  { eadRow plainEnv unnamedFrame ⟨0, unnamedCell⟩ with eir := .num 0, collateral := .num 0 }

def unnamedDated : DatedRow :=
  { unnamedMerged with repDate := some (firstOf 24289), matDate := some (firstOf 24289) }

def unnamedTerm : TermRow :=
  { unnamedDated.snapshot 0 with
    reporting := some (firstOf 24289)
    firstPayment := some (firstOf 24288)
    adjustedMaturity := some (firstOf 24299) }

/-- Its one snapshot, after the first of ten instalments. -/
def unnamedWalked : WalkedRow :=
  { unnamedTerm with
    monthlyInstalment := some 1
    balanceAfterRepayment := some 9
    balanceAfterMissedPayment := some 9
    periodToBeDiscounted := 0 }

def unnamedEcl : EclRow := eclRow plainEnv (unnamedWalked, some (samplePd 1))

lemma joinLgd_unnamed : joinLgd plainEnv unnamedFrame sampleLgdFrame
    = [(eadRow plainEnv unnamedFrame ⟨0, unnamedCell⟩, some ⟨.str "L", .num 0, .num 0⟩)] := by
  have hread : readEadRows plainEnv unnamedFrame
      = [eadRow plainEnv unnamedFrame ⟨0, unnamedCell⟩] := sortByKey_singleton _ _
  rw [joinLgd, hread]
  decide

lemma computeEad_unnamed :
    computeEad plainEnv unnamedFrame (pdOutput plainEnv samplePdRows).table sampleLgdFrame
      = .ok ([unnamedEcl], []) := by
  have hkeys : groupKeys (TermRow.loanKey plainEnv) [unnamedTerm] = ["L"] := by decide
  have hgroup : groupBy (TermRow.loanKey plainEnv) [unnamedTerm] "L" = [unnamedTerm] := by decide
  have hwalked : walkLoans plainEnv [unnamedTerm] = [unnamedWalked] := by
    rw [walkLoans, hkeys, sortByKey_singleton, List.flatMap_singleton, hgroup, walkLoan, byDate,
      sortByKey_singleton]
    decide +kernel
  have hsegment : Cell.str "RETAIL" ∈ segmentsOf plainEnv (nextStaging samplePdRows) := by
    rw [segmentsOf_sample]
    exact List.mem_singleton_self _
  -- the snapshot is one month old, and so finds the first row of its segment
  have hjoined : joinPd (walkLoans plainEnv [unnamedTerm]) (pdOutput plainEnv samplePdRows).table
      = [(unnamedWalked, some (samplePd 1))] := by
    have hmonth := filter_matchesPd (w := unnamedWalked) (n := 1) .stage2 hsegment
      (by decide) (mem_pdMonths.mpr (by decide)) rfl
    rw [hwalked, joinPd_eq_map, List.map_singleton, hmonth]
    rfl
  obtain ⟨hfloats, hcells⟩ := @checkFloats_ok plainEnv [unnamedTerm] (by
    intro t ht c hc
    obtain rfl := List.mem_singleton.mp ht
    simp only [List.mem_cons, List.not_mem_nil, or_false] at hc
    rcases hc with rfl | rfl | rfl <;> exact ⟨_, rfl⟩)
  have hkeys : requirePdKeys unnamedFrame [unnamedTerm]
      (pdOutput plainEnv samplePdRows).table = .ok () :=
    requirePdKeys_of_texts (textColumn_singleton "RETAIL") (textColumn_singleton "Stage 2")
      segment_of_mem_table_sample
  have hchecks : EadChecks plainEnv unnamedFrame sampleLgdFrame
      (pdOutput plainEnv samplePdRows).table [unnamedTerm] :=
    ⟨by decide, hkeys, by decide, by decide, by decide, by decide, hfloats, hcells⟩
  have hmerged : mergeLgd plainEnv unnamedFrame sampleLgdFrame = [unnamedMerged] := by
    rw [mergeLgd, joinLgd_unnamed]
    decide
  have hdated : withDates plainEnv (mergeLgd plainEnv unnamedFrame sampleLgdFrame)
      = .ok [unnamedDated] := by
    rw [hmerged]
    rfl
  have hterms : withTerms plainEnv (expandDated [unnamedDated]) = .ok [unnamedTerm] := rfl
  have hwarnings : missingLgdWarnings plainEnv (joinLgd plainEnv unnamedFrame sampleLgdFrame)
      = [] := by
    rw [joinLgd_unnamed]
    exact congrArg (List.map _) (sortByKey_nil _)
  have hsegments : missingSegments plainEnv [(unnamedWalked, some (samplePd 1))] = [] :=
    sortByKey_nil _
  rw [computeEad_eq_ok hchecks hdated (by decide) hterms (by rw [hjoined, hsegments]; rfl),
    hjoined, hwarnings]
  exact congrArg (fun rows => Except.ok (rows, [])) (sortByKey_singleton _ _)

/-- It is expected to lose 9/10 of the 9 that it owes. -/
lemma discountedEcl_unnamed : unnamedEcl.discountedEcl = some (81 / 10) := by
  have hmarginal : (samplePd 1).marginalPd = 9 / 10 := marginalPd_samplePd (Or.inl rfl)
  have hcure : (samplePd 1).cureRate = 0 := cureRatesOf_sample
  have hcollateral : floatOf plainEnv unnamedWalked.collateral = some 0 := rfl
  have hbalance : unnamedWalked.balanceAfterMissedPayment = some 9 := rfl
  have hperiod : unnamedWalked.periodToBeDiscounted = 0 := rfl
  simp only [unnamedEcl, eclRow, Option.elim_some, hmarginal, hcure, hcollateral, hbalance, hperiod,
    lossGivenWriteOff, discountFactor]
  norm_num

/-- **A loan without a customer** is accepted, has an output row with a credit loss, and counts
nothing. -/
theorem aggregates_drop_unnamed :
    (validateEad plainEnv unnamedFrame "Data" []).isValid = true ∧
      computeEad plainEnv unnamedFrame (pdOutput plainEnv samplePdRows).table sampleLgdFrame
        = .ok ([unnamedEcl], []) ∧
      totalEcl [unnamedEcl] = 81 / 10 ∧
      ∃ aggregates, buildEclAggregates plainEnv [unnamedEcl] unnamedFrame = .ok aggregates ∧
        aggregates.totalEcl = 0 ∧ aggregates.totalOutstanding = 10 ∧
        ¬ AggregatesAddUp [unnamedEcl] aggregates := by
  have hecl : totalEcl [unnamedEcl] = 81 / 10 := by
    rw [totalEcl, List.filterMap_cons_some discountedEcl_unnamed]
    exact List.sum_singleton
  have hnone : ([unnamedEcl].filter fun r => r.Keyed) = [] := by decide
  obtain ⟨aggregates, haggregates⟩ := @exists_buildEclAggregates plainEnv [unnamedEcl] unnamedFrame
    (fun r hr => by
      obtain rfl := List.mem_singleton.mp hr
      exact ⟨10, rfl⟩) rfl
  obtain ⟨outstanding, amounts, htables⟩ := exists_aggregateTables (by simp) haggregates
  have hzero : aggregates.totalEcl = 0 := by
    rw [htables.totalEcl_keyed, hnone]
    rfl
  have hamount : aggregates.totalOutstanding = 10 := by
    rw [htables.totalOutstanding_input,
      @inputOutstanding_eq plainEnv unnamedFrame (List.nodup_singleton _)]
    exact List.sum_singleton
  refine ⟨by decide, computeEad_unnamed, hecl, aggregates, haggregates, hzero, hamount, fun h => ?_⟩
  have heq := h.total
  rw [hzero, hecl] at heq
  norm_num at heq

end EclServer.Engine
