import EclServer.Engine.CollateralOrder
import EclServer.Engine.EclBound

/-!
More collateral gives no larger ECL.

* `setCollateral`: a table with the collateral of each loan written over; every stage of
  `compute_ead` commutes with it, `withDates_setCollateral` to `joinPd_setCollateral`.
* `MoreCover`, `mergeLgd_setCollateral`: two LGD tables, the second with no smaller sums.
* `discountedEcl_antitone`: one row, `forall₂_computeEad`: the two outputs.
-/

namespace EclServer.Engine

open EclServer.Library

variable {env : PyEnv}

/-! ### The collateral written over -/

section

variable (g : Cell → Cell)

def MergedRow.setCollateral (r : MergedRow) : MergedRow := { r with collateral := g r.loanId }

def DatedRow.setCollateral (r : DatedRow) : DatedRow :=
  { r with toMergedRow := r.toMergedRow.setCollateral g }

def SnapshotRow.setCollateral (r : SnapshotRow) : SnapshotRow :=
  { r with toMergedRow := r.toMergedRow.setCollateral g }

def TermRow.setCollateral (r : TermRow) : TermRow :=
  { r with toSnapshotRow := r.toSnapshotRow.setCollateral g }

def WalkedRow.setCollateral (r : WalkedRow) : WalkedRow :=
  { r with toTermRow := r.toTermRow.setCollateral g }

end

variable {g : Cell → Cell}

lemma withDates_setCollateral {rows : List MergedRow} {dated : List DatedRow}
    (h : withDates env rows = .ok dated) :
    withDates env (rows.map (MergedRow.setCollateral g))
      = .ok (dated.map (DatedRow.setCollateral g)) := by
  obtain ⟨reps, hreps, h⟩ := bind_eq_ok.mp h
  obtain ⟨mats, hmats, h⟩ := bind_eq_ok.mp h
  obtain rfl := Except.ok.inj h
  have hsame : ∀ field : EadRow → Cell, (rows.map (MergedRow.setCollateral g)).map
      (fun m => field m.toEadRow) = rows.map fun m => field m.toEadRow := by
    intro field
    rw [List.map_map]
    rfl
  rw [withDates, hsame EadRow.reportingDate, hsame EadRow.maturityDate, hreps, hmats]
  simp only [bind, Except.bind, pure, Except.pure, List.zipWith_map_left, List.map_zipWith]
  rfl

lemma withTerms_setCollateral {rows : List SnapshotRow} {terms : List TermRow}
    (h : withTerms env rows = .ok terms) :
    withTerms env (rows.map (SnapshotRow.setCollateral g))
      = .ok (terms.map (TermRow.setCollateral g)) := by
  obtain ⟨reps, hreps, h⟩ := bind_eq_ok.mp h
  obtain ⟨firsts, hfirsts, h⟩ := bind_eq_ok.mp h
  obtain ⟨adjusted, hadjusted, h⟩ := bind_eq_ok.mp h
  obtain rfl := Except.ok.inj h
  have hsame : ∀ field : EadRow → Cell, (rows.map (SnapshotRow.setCollateral g)).map
      (fun m => field m.toEadRow) = rows.map fun m => field m.toEadRow := by
    intro field
    rw [List.map_map]
    rfl
  rw [withTerms, hsame EadRow.reportingDate, hsame EadRow.firstPaymentDate,
    hsame EadRow.adjustedMaturityDate, hreps, hfirsts, hadjusted]
  simp only [bind, Except.bind, pure, Except.pure, List.zipWith_map_left, List.map_zipWith]
  rfl

lemma expandDated_setCollateral (rows : List DatedRow) :
    expandDated (rows.map (DatedRow.setCollateral g))
      = (expandDated rows).map (SnapshotRow.setCollateral g) := by
  have hstage : ∀ stage, inStage stage (rows.map (DatedRow.setCollateral g))
      = (inStage stage rows).map (DatedRow.setCollateral g) := by
    intro stage
    rw [inStage, List.filter_map]
    rfl
  have hother : (rows.map (DatedRow.setCollateral g)).filter
        (fun r => LoanStage.all.all fun stage => r.staging ≠ .str stage.text)
      = (rows.filter fun r => LoanStage.all.all fun stage => r.staging ≠ .str stage.text).map
        (DatedRow.setCollateral g) := by
    rw [List.filter_map]
    rfl
  have hone : ∀ l : List DatedRow, expandStage1 (l.map (DatedRow.setCollateral g))
      = (expandStage1 l).map (SnapshotRow.setCollateral g) := by
    intro l
    rw [expandStage1, expandStage1, List.map_flatMap]
    refine List.flatMap_congr fun k _ => ?_
    rw [List.filter_map, List.map_map, List.map_map]
    rfl
  have htwo : ∀ l : List DatedRow, expandStage2 (l.map (DatedRow.setCollateral g))
      = (expandStage2 l).map (SnapshotRow.setCollateral g) := by
    intro l
    rw [expandStage2, expandStage2, List.flatMap_map, List.map_flatMap]
    refine List.flatMap_congr fun r _ => ?_
    rw [List.map_map]
    rfl
  rw [expandDated, expandDated, hstage, hstage, hstage, hother, hone, htwo]
  simp only [List.map_append, List.map_map]
  rfl

/-! ### The walk -/

lemma walkRows_setCollateral (monthlyRate instalment : Option ℚ) (freq : Frequency)
    (prior : List (Option ℚ)) (opening : Option ℚ) (rs : List TermRow) :
    walkRows monthlyRate instalment freq prior opening (rs.map (TermRow.setCollateral g))
      = (walkRows monthlyRate instalment freq prior opening rs).map
        (WalkedRow.setCollateral g) := by
  induction rs generalizing prior opening with
  | nil => rfl
  | cons r rs ih =>
      rw [List.map_cons, walkRows, walkRows, List.map_cons, ih]
      rfl

lemma byDate_setCollateral (group : List TermRow) :
    byDate (group.map (TermRow.setCollateral g)) = (byDate group).map (TermRow.setCollateral g) :=
  sortByKey_map _ _

lemma walkLoan_setCollateral (instalment : Option ℚ) (group : List TermRow) :
    walkLoan env instalment (group.map (TermRow.setCollateral g))
      = (walkLoan env instalment group).map (WalkedRow.setCollateral g) := by
  rw [walkLoan, walkLoan, byDate_setCollateral]
  cases byDate group with
  | nil => rfl
  | cons first rest => exact walkRows_setCollateral _ _ _ _ _ (first :: rest)

lemma instalmentOf_setCollateral (rows : List TermRow) (loanKey : String) :
    instalmentOf env (rows.map (TermRow.setCollateral g)) loanKey
      = instalmentOf env rows loanKey := by
  have hterms : loanTerms (rows.map (TermRow.setCollateral g))
      = (loanTerms rows).map (TermRow.setCollateral g) := dropDuplicates_map _ _
  rw [instalmentOf, instalmentOf, hterms, ← List.map_reverse, List.find?_map]
  have hkey : ((fun r : TermRow => decide (r.loanKey env = loanKey)) ∘ TermRow.setCollateral g)
      = fun r : TermRow => decide (r.loanKey env = loanKey) := rfl
  rw [hkey]
  cases (loanTerms rows).reverse.find? fun r => r.loanKey env = loanKey with
  | none => rfl
  | some loan => rfl

/-- **The walk over all loans** does not read the collateral. -/
lemma walkLoans_setCollateral (terms : List TermRow) :
    walkLoans env (terms.map (TermRow.setCollateral g))
      = (walkLoans env terms).map (WalkedRow.setCollateral g) := by
  have hkeys : groupKeys (TermRow.loanKey env) (terms.map (TermRow.setCollateral g))
      = groupKeys (TermRow.loanKey env) terms := groupKeys_map _ _
  have hgroup : ∀ loanKey,
      groupBy (TermRow.loanKey env) (terms.map (TermRow.setCollateral g)) loanKey
        = (groupBy (TermRow.loanKey env) terms loanKey).map (TermRow.setCollateral g) :=
    groupBy_map _ _
  rw [walkLoans, walkLoans, hkeys, List.map_flatMap]
  refine List.flatMap_congr fun loanKey _ => ?_
  rw [instalmentOf_setCollateral, hgroup, walkLoan_setCollateral]

lemma joinPd_setCollateral (rows : List WalkedRow) (pdTable : List PdTableRow) :
    joinPd (rows.map (WalkedRow.setCollateral g)) pdTable
      = (joinPd rows pdTable).map fun p => (p.1.setCollateral g, p.2) := leftJoin_map _ _ _

/-! ### Two LGD tables -/

/-- The second table has the loans and rates of the first, and no smaller sums. -/
structure MoreCover (lgdDf₁ lgdDf₂ : Frame) : Prop where
  eir_iff : "EIR" ∈ lgdDf₁.columns ↔ "EIR" ∈ lgdDf₂.columns
  lookup : ∀ loanId, Option.Rel (fun l₁ l₂ : LgdRow => l₁.eir = l₂.eir ∧
    ∃ c₁ c₂, l₁.sum = .num c₁ ∧ l₂.sum = .num c₂ ∧ c₁ ≤ c₂) (lgdOf lgdDf₁ loanId)
      (lgdOf lgdDf₂ loanId)

/-- The collateral that the merge finds for a loan. -/
def coverOf (lgdDf : Frame) (loanId : Cell) : Cell :=
  ((lgdOf lgdDf loanId).elim .blank LgdRow.sum).fillNa (.num 0)

section TwoTables

variable {eadDf lgdDf₁ lgdDf₂ : Frame}

lemma collateral_of_mem_mergeLgd {m : MergedRow} (h : m ∈ mergeLgd env eadDf lgdDf₁) :
    m.collateral = coverOf lgdDf₁ m.loanId := by
  rw [mergeLgd_eq_map] at h
  obtain ⟨row, _, rfl⟩ := List.mem_map.mp h
  rfl

/-- The merges differ in the collateral alone. -/
lemma mergeLgd_setCollateral (h : MoreCover lgdDf₁ lgdDf₂) :
    mergeLgd env eadDf lgdDf₂
      = (mergeLgd env eadDf lgdDf₁).map (MergedRow.setCollateral (coverOf lgdDf₂)) := by
  rw [mergeLgd_eq_map, mergeLgd_eq_map, List.map_map]
  refine List.map_congr_left fun row _ => ?_
  have heir : (lgdOf lgdDf₂ row.loanId).elim .blank LgdRow.eir
      = (lgdOf lgdDf₁ row.loanId).elim .blank LgdRow.eir := by
    have hlookup := h.lookup row.loanId
    generalize lgdOf lgdDf₁ row.loanId = l₁ at hlookup ⊢
    generalize lgdOf lgdDf₂ row.loanId = l₂ at hlookup ⊢
    cases hlookup with
    | none => rfl
    | some hrows => exact hrows.1.symm
  have hmerged : mergedEir (hasOwnEir eadDf) (decide ("EIR" ∈ lgdDf₂.columns)) row
        (lgdOf lgdDf₂ row.loanId)
      = mergedEir (hasOwnEir eadDf) (decide ("EIR" ∈ lgdDf₁.columns)) row
        (lgdOf lgdDf₁ row.loanId) := by
    unfold mergedEir
    rw [heir, decide_eq_decide.mpr h.eir_iff]
  simp only [mergedRow, Function.comp_apply, hmerged]
  rfl

lemma MoreCover.coverOf_le (h : MoreCover lgdDf₁ lgdDf₂) (loanId : Cell) :
    ∃ c₁ c₂, coverOf lgdDf₁ loanId = .num c₁ ∧ coverOf lgdDf₂ loanId = .num c₂ ∧ c₁ ≤ c₂ := by
  have hlookup := h.lookup loanId
  rw [coverOf, coverOf]
  generalize lgdOf lgdDf₁ loanId = l₁ at hlookup ⊢
  generalize lgdOf lgdDf₂ loanId = l₂ at hlookup ⊢
  cases hlookup with
  | none => exact ⟨0, 0, rfl, rfl, le_rfl⟩
  | some hrows =>
      obtain ⟨_, c₁, c₂, hc₁, hc₂, hle⟩ := hrows
      refine ⟨c₁, c₂, ?_, ?_, hle⟩
      · rw [Option.elim_some, hc₁]
        rfl
      · rw [Option.elim_some, hc₂]
        rfl

/-! ### One row -/

/-- The uncovered balance of a row falls as its collateral grows. -/
lemma lossGivenWriteOff_antitone (balance : Option ℚ) {c₁ c₂ : ℚ} (h : c₁ ≤ c₂) :
    Option.Rel (fun x₁ x₂ => ∀ b ∈ balance, b * x₂ ≤ b * x₁)
      (lossGivenWriteOff balance (some c₁)) (lossGivenWriteOff balance (some c₂)) := by
  cases balance with
  | none => exact Option.Rel.none
  | some b =>
      simp only [lossGivenWriteOff, bind, Option.bind]
      by_cases hb : b ≤ 0
      · rw [if_pos hb, if_pos hb]
        exact Option.Rel.some fun _ _ => le_rfl
      · rw [if_neg hb, if_neg hb]
        have hpos : 0 < b := not_le.mp hb
        have hshare : c₁ / b ≤ c₂ / b := div_le_div_of_nonneg_right h hpos.le
        have hle : max (1 - c₂ / b) 0 ≤ max (1 - c₁ / b) 0 :=
          max_le_max (by linarith) le_rfl
        refine Option.Rel.some fun b' hb' => ?_
        obtain rfl : b = b' := Option.some.inj hb'
        exact mul_le_mul_of_nonneg_left hle hpos.le

/-- **The ECL of a row** falls as its collateral grows. -/
lemma discountedEcl_antitone {w : WalkedRow} {pd : Option PdTableRow} {c₁ c₂ : ℚ}
    (hcollateral : w.collateral = .num c₁) (hcover : g w.loanId = .num c₂) (hle : c₁ ≤ c₂)
    (heir : ∀ e ∈ floatOf env w.eir, 0 ≤ e)
    (hpd : ∀ t ∈ pd, 0 ≤ t.marginalPd ∧ t.cureRate ≤ 1) :
    Option.Rel (fun e₁ e₂ => e₂ ≤ e₁) (eclRow env (w, pd)).discountedEcl
      (eclRow env (w.setCollateral g, pd)).discountedEcl := by
  have hmarginal : 0 ≤ pd.elim 0 PdTableRow.marginalPd := by
    cases pd with
    | none => exact le_rfl
    | some t => exact (hpd t rfl).1
  have hcure : 0 ≤ 1 - pd.elim 0 PdTableRow.cureRate := by
    cases pd with
    | none => norm_num
    | some t => exact sub_nonneg.mpr (hpd t rfl).2
  have hcollateral₁ : floatOf env w.collateral = some c₁ := by
    rw [hcollateral]
    rfl
  have hcollateral₂ : floatOf env (w.setCollateral g).collateral = some c₂ := by
    change floatOf env (g w.loanId) = some c₂
    rw [hcover]
    rfl
  have hloss := lossGivenWriteOff_antitone w.balanceAfterMissedPayment hle
  simp only [eclRow, hcollateral₁, hcollateral₂]
  change Option.Rel _ _ (do
    return (← (do
      return (← w.balanceAfterMissedPayment) * pd.elim 0 PdTableRow.marginalPd
        * (← (do return (← lossGivenWriteOff w.balanceAfterMissedPayment (some c₂))
          * (1 - pd.elim 0 PdTableRow.cureRate)))))
      * (← discountFactor (floatOf env w.eir) w.periodToBeDiscounted))
  generalize lossGivenWriteOff w.balanceAfterMissedPayment (some c₁) = x₁ at hloss ⊢
  generalize lossGivenWriteOff w.balanceAfterMissedPayment (some c₂) = x₂ at hloss ⊢
  have hfactor := @discountFactor_mem (floatOf env w.eir) heir w.periodToBeDiscounted
  -- what is no number in one run is none in the other; of numbers the products are compared
  cases hbalance : w.balanceAfterMissedPayment with
  | none => exact Option.Rel.none
  | some b =>
      cases hloss with
      | none => exact Option.Rel.none
      | @some x₁ x₂ hx =>
          cases hdiscount : discountFactor (floatOf env w.eir) w.periodToBeDiscounted with
          | none => exact Option.Rel.none
          | some f =>
              have hproduct : b * x₂ ≤ b * x₁ := hx b hbalance
              have hf : 0 ≤ f := (hfactor f hdiscount).1
              refine Option.Rel.some ?_
              calc b * pd.elim 0 PdTableRow.marginalPd
                      * (x₂ * (1 - pd.elim 0 PdTableRow.cureRate)) * f
                  = b * x₂ * (pd.elim 0 PdTableRow.marginalPd
                      * (1 - pd.elim 0 PdTableRow.cureRate) * f) := by ring
                _ ≤ b * x₁ * (pd.elim 0 PdTableRow.marginalPd
                      * (1 - pd.elim 0 PdTableRow.cureRate) * f) := by
                    have hfactors := mul_nonneg (mul_nonneg hmarginal hcure) hf
                    exact mul_le_mul_of_nonneg_right hproduct hfactors
                _ = b * pd.elim 0 PdTableRow.marginalPd
                      * (x₁ * (1 - pd.elim 0 PdTableRow.cureRate)) * f := by ring

/-! ### The outputs -/

lemma walkHeads_setCollateral (terms : List TermRow) :
    walkHeads env (terms.map (TermRow.setCollateral g))
      = (walkHeads env terms).map (TermRow.setCollateral g) := by
  have hkeys : groupKeys (TermRow.loanKey env) (terms.map (TermRow.setCollateral g))
      = groupKeys (TermRow.loanKey env) terms := groupKeys_map _ _
  rw [walkHeads, walkHeads, hkeys, List.map_filterMap]
  refine List.filterMap_congr fun loanKey _ => ?_
  have hgroup : groupBy (TermRow.loanKey env) (terms.map (TermRow.setCollateral g)) loanKey
      = (groupBy (TermRow.loanKey env) terms loanKey).map (TermRow.setCollateral g) :=
    groupBy_map _ _ _
  rw [hgroup, byDate_setCollateral, List.head?_map]

lemma checkTermFloats_setCollateral {terms : List TermRow}
    (h : checkTermFloats env terms = .ok ()) :
    checkTermFloats env (terms.map (TermRow.setCollateral g)) = .ok () := by
  rw [checkTermFloats_iff] at h ⊢
  have hterms : loanTerms (terms.map (TermRow.setCollateral g))
      = (loanTerms terms).map (TermRow.setCollateral g) := dropDuplicates_map _ _
  rw [hterms, walkHeads_setCollateral, ← List.map_append]
  exact List.forall_mem_map.mpr h

lemma checkRowFloats_setCollateral {terms : List TermRow} (h : checkRowFloats env terms = .ok ())
    (hg : ∀ r ∈ terms, ∃ q, g r.loanId = .num q) :
    checkRowFloats env (terms.map (TermRow.setCollateral g)) = .ok () := by
  rw [checkRowFloats_iff] at h ⊢
  refine List.forall_mem_map.mpr fun t ht => ⟨?_, (h t ht).2⟩
  obtain ⟨q, hq⟩ := hg t ht
  refine ⟨some q, ?_⟩
  change (g t.loanId).toFloat env = _
  rw [hq]
  rfl

lemma missingSegments_setCollateral (joined : List (WalkedRow × Option PdTableRow)) :
    missingSegments env (joined.map fun p => (p.1.setCollateral g, p.2))
      = missingSegments env joined := by
  simp only [missingSegments, List.filter_map, List.map_map]
  rfl

lemma requirePdKeys_setCollateral (eadDf : Frame) (terms : List TermRow)
    (pdTable : List PdTableRow) :
    requirePdKeys eadDf (terms.map (TermRow.setCollateral g)) pdTable
      = requirePdKeys eadDf terms pdTable := by
  simp only [requirePdKeys, List.map_map]
  rfl

/-- Where the first run succeeds, the second does. -/
lemma exists_computeEad_of_moreCover {pdTable : List PdTableRow} {out : List EclRow}
    {warnings : List String} (h : MoreCover lgdDf₁ lgdDf₂)
    (hcolumns : requireEadColumns eadDf lgdDf₂ = .ok ())
    (head : computeEad env eadDf pdTable lgdDf₁ = .ok (out, warnings)) :
    ∃ out' warnings', computeEad env eadDf pdTable lgdDf₂ = .ok (out', warnings') := by
  obtain ⟨run, -, hstages⟩ := exists_eadRun head
  have hdated₂ : withDates env (mergeLgd env eadDf lgdDf₂)
      = .ok (run.dated.map (DatedRow.setCollateral (coverOf lgdDf₂))) := by
    rw [mergeLgd_setCollateral h, withDates_setCollateral run.dated_ok]
  rcases hstages with ⟨hnone, -⟩ | ⟨hsome, hterms, hchecks, hsegments⟩
  · refine ⟨[], missingLgdWarnings env (joinLgd env eadDf lgdDf₂), ?_⟩
    simp only [computeEad, hcolumns, hdated₂, expandDated_setCollateral, hnone, List.map_nil,
      List.isEmpty_nil, bind, Except.bind, if_true, pure, Except.pure]
  · have hchecks₂ : EadChecks env eadDf lgdDf₂ pdTable
        (run.terms.map (TermRow.setCollateral (coverOf lgdDf₂))) :=
      { hchecks with
        columns := hcolumns
        keys := (requirePdKeys_setCollateral eadDf _ pdTable).trans hchecks.keys
        floats := checkTermFloats_setCollateral hchecks.floats
        rows := by
          refine checkRowFloats_setCollateral hchecks.rows fun r _ => ?_
          obtain ⟨_, c₂, _, hc₂, _⟩ := h.coverOf_le r.loanId
          exact ⟨c₂, hc₂⟩ }
    refine ⟨_, _, @computeEad_eq_ok env eadDf lgdDf₂ pdTable _ _ hchecks₂ hdated₂ ?_ ?_ ?_⟩
    · rw [expandDated_setCollateral, List.isEmpty_map]
      exact List.isEmpty_eq_false_iff.mpr hsome
    · rw [expandDated_setCollateral]
      exact withTerms_setCollateral hterms
    · rw [walkLoans_setCollateral, joinPd_setCollateral, missingSegments_setCollateral]
      exact hsegments

/-- Two rows of the output: of one loan and snapshot, the second with no larger ECL. -/
structure EclPair (r₁ r₂ : EclRow) : Prop where
  loan_eq : r₁.loanId = r₂.loanId
  snapshot_eq : r₁.snapshotDate = r₂.snapshotDate
  ecl_le : Option.Rel (fun e₁ e₂ => e₂ ≤ e₁) r₁.discountedEcl r₂.discountedEcl

/-- **`compute_ead` on tables with more cover** gives the same rows with no larger ECL. -/
theorem forall₂_computeEad {pdTable : List PdTableRow} {out₁ out₂ : List EclRow}
    {warnings₁ warnings₂ : List String} (h : MoreCover lgdDf₁ lgdDf₂)
    (heir : ∀ m ∈ mergeLgd env eadDf lgdDf₁, ∀ e ∈ floatOf env m.eir, 0 ≤ e)
    (hpd : ∀ t ∈ pdTable, 0 ≤ t.marginalPd ∧ t.cureRate ≤ 1)
    (h₁ : computeEad env eadDf pdTable lgdDf₁ = .ok (out₁, warnings₁))
    (h₂ : computeEad env eadDf pdTable lgdDf₂ = .ok (out₂, warnings₂)) :
    List.Forall₂ EclPair out₁ out₂ := by
  obtain ⟨run₁, -, hterms₁⟩ := exists_eadRun h₁
  obtain ⟨run₂, -, hterms₂⟩ := exists_eadRun h₂
  -- the stages of the second run are those of the first with the collateral written over
  have hdated : run₂.dated = run₁.dated.map (DatedRow.setCollateral (coverOf lgdDf₂)) := by
    have hdated₂ := run₂.dated_ok
    rw [mergeLgd_setCollateral h, withDates_setCollateral run₁.dated_ok] at hdated₂
    exact (Except.ok.inj hdated₂).symm
  have hterms : run₂.terms = run₁.terms.map (TermRow.setCollateral (coverOf lgdDf₂)) := by
    rw [hdated, expandDated_setCollateral] at hterms₂
    rcases hterms₁ with ⟨hnone₁, hterms₁⟩ | ⟨hsome₁, hterms₁, _⟩
    · rcases hterms₂ with ⟨_, hterms₂⟩ | ⟨hsome₂, _⟩
      · rw [hterms₁, hterms₂, List.map_nil]
      · rw [hnone₁] at hsome₂
        exact absurd rfl hsome₂
    · rcases hterms₂ with ⟨hnone₂, _⟩ | ⟨_, hterms₂, _⟩
      · exact absurd (List.map_eq_nil_iff.mp hnone₂) hsome₁
      · rw [withTerms_setCollateral hterms₁] at hterms₂
        exact (Except.ok.inj hterms₂).symm
  -- the two are sorted alike
  have hsorted₁ : out₁ = (sortByKey (fun p => (eclRow env p).sortKey)
      (joinPd (walkLoans env run₁.terms) pdTable)).map (eclRow env) :=
    run₁.out_eq.trans (sortByKey_map _ _)
  have hsorted₂ : out₂ = (sortByKey (fun p => (eclRow env p).sortKey)
      (joinPd (walkLoans env run₁.terms) pdTable)).map
        fun p => eclRow env (p.1.setCollateral (coverOf lgdDf₂), p.2) := by
    rw [run₂.out_eq, hterms, walkLoans_setCollateral, joinPd_setCollateral, eclRows, List.map_map]
    exact sortByKey_map _ _
  rw [hsorted₁, hsorted₂, List.forall₂_map_left_iff, List.forall₂_map_right_iff,
    List.forall₂_same]
  rintro ⟨w, pd⟩ hmem
  obtain ⟨hw, hjoined⟩ := (mem_leftJoin matchesPd).mp ((mem_sortByKey _).mp hmem)
  have hmerged : w.toMergedRow ∈ mergeLgd env eadDf lgdDf₁ :=
    run₁.toMergedRow_mem (toTermRow_mem hw)
  obtain ⟨c₁, c₂, hc₁, hc₂, hle⟩ := h.coverOf_le w.loanId
  refine ⟨rfl, rfl, discountedEcl_antitone ?_ hc₂ hle (heir _ hmerged) ?_⟩
  · exact (collateral_of_mem_mergeLgd hmerged).trans hc₁
  · intro t ht
    rcases hjoined with ⟨rfl, _⟩ | ⟨t', ht', _, rfl⟩
    · cases ht
    · obtain rfl : t' = t := Option.some.inj ht
      exact hpd t' ht'

end TwoTables

end EclServer.Engine
