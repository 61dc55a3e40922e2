import EclServer.Engine.EadRows

/-!
A bound on the total ECL of a loan.

* `RowBounded`, `rowBounded_of_computeEad`: a row's discounted ECL is at most its balance times
  its marginal PD.
* `totalEcl_le`: the total of a loan is at most its exposure times the sum of its marginal
  PDs. These are hazards, and their sum is not bounded by one: `ecl_exceeds_exposure`.
-/

namespace EclServer.Engine

open EclServer.Library

variable {env : PyEnv}

/-! ### Totals -/

/-- The rows of a loan. -/
def loanRows (out : List EclRow) (loanId : Cell) : List EclRow :=
  out.filter fun r => r.loanId = loanId

/-- The sum of `Discounted ECL`. -/
def totalEcl (rows : List EclRow) : ℚ := (rows.filterMap (·.discountedEcl)).sum

/-- The largest `Balance After Missed Payment`. -/
def exposure (rows : List EclRow) : ℚ :=
  (rows.filterMap (·.balanceAfterMissedPayment)).foldr max 0

/-- The sum of `Marginal PD`. -/
def totalMarginalPd (rows : List EclRow) : ℚ := (rows.map (·.marginalPd)).sum

/-- What the bound needs of a row. -/
structure RowBounded (r : EclRow) : Prop where
  balance_nonneg : ∀ b ∈ r.balanceAfterMissedPayment, 0 ≤ b
  marginal_nonneg : 0 ≤ r.marginalPd
  ecl_le : ∀ e ∈ r.discountedEcl, ∃ b ∈ r.balanceAfterMissedPayment, e ≤ b * r.marginalPd

/-- Rows whose balances stay below `B` have a total below `B` times their marginal PDs. -/
lemma totalEcl_le_mul {rows : List EclRow} {B : ℚ} (hB : 0 ≤ B)
    (hbal : ∀ r ∈ rows, ∀ b ∈ r.balanceAfterMissedPayment, b ≤ B)
    (h : ∀ r ∈ rows, RowBounded r) : totalEcl rows ≤ B * totalMarginalPd rows := by
  induction rows with
  | nil => simp [totalEcl, totalMarginalPd]
  | cons r rs ih =>
      have hr := h r List.mem_cons_self
      have htail := ih (fun r' hr' => hbal r' (List.mem_cons_of_mem r hr'))
        (fun r' hr' => h r' (List.mem_cons_of_mem r hr'))
      have hmarginal : B * totalMarginalPd (r :: rs)
          = B * r.marginalPd + B * totalMarginalPd rs := by
        simp only [totalMarginalPd, List.map_cons, List.sum_cons]
        ring
      rw [hmarginal]
      cases hecl : r.discountedEcl with
      | none =>
          have htotal : totalEcl (r :: rs) = totalEcl rs := by
            simp [totalEcl, hecl]
          have hzero : 0 ≤ B * r.marginalPd := mul_nonneg hB hr.marginal_nonneg
          rw [htotal]
          linarith
      | some e =>
          have htotal : totalEcl (r :: rs) = e + totalEcl rs := by
            simp [totalEcl, hecl]
          obtain ⟨b, hb, hle⟩ := hr.ecl_le e hecl
          have hexposure : b * r.marginalPd ≤ B * r.marginalPd :=
            mul_le_mul_of_nonneg_right (hbal r List.mem_cons_self b hb) hr.marginal_nonneg
          rw [htotal]
          linarith

lemma exposure_nonneg (rows : List EclRow) : 0 ≤ exposure rows := by
  rw [exposure]
  induction rows.filterMap (·.balanceAfterMissedPayment) with
  | nil => exact le_rfl
  | cons b bs ih => exact le_max_of_le_right ih

lemma le_exposure {rows : List EclRow} {r : EclRow} (hr : r ∈ rows) {b : ℚ}
    (hb : b ∈ r.balanceAfterMissedPayment) : b ≤ exposure rows := by
  have hmem : b ∈ rows.filterMap (·.balanceAfterMissedPayment) :=
    List.mem_filterMap.mpr ⟨r, hr, hb⟩
  rw [exposure]
  generalize rows.filterMap (·.balanceAfterMissedPayment) = bs at hmem ⊢
  induction bs with
  | nil => simp at hmem
  | cons c cs ih =>
      rcases List.mem_cons.mp hmem with rfl | hmem
      · exact le_max_left _ _
      · exact (ih hmem).trans (le_max_right _ _)

/-! ### Balances -/

lemma afterRepayment_nonneg {rowIdx : ℕ} {opening monthlyRate instalment : Option ℚ}
    {freq : Frequency} :
    ∀ a ∈ afterRepayment rowIdx opening monthlyRate instalment freq, 0 ≤ a := by
  intro a ha
  simp only [afterRepayment, Option.mem_def, bind, Option.bind_eq_some_iff] at ha
  obtain ⟨_, _, _, _, _, _, ha⟩ := ha
  rw [← Option.some.inj ha]
  exact le_max_right _ _

/-- The balances of a walk at a rate that is not negative are not negative. -/
lemma walkRows_balance_nonneg {monthlyRate instalment : Option ℚ} {freq : Frequency}
    (hrate : ∀ m ∈ monthlyRate, 0 ≤ m) {prior : List (Option ℚ)} {opening : Option ℚ}
    {rs : List TermRow} {w : WalkedRow}
    (hw : w ∈ walkRows monthlyRate instalment freq prior opening rs) :
    ∀ b ∈ w.balanceAfterMissedPayment, 0 ≤ b := by
  induction rs generalizing prior opening with
  | nil => simp [walkRows] at hw
  | cons r rs ih =>
      rw [walkRows] at hw
      rcases List.mem_cons.mp hw with rfl | hw
      · intro b hb
        simp only [Option.mem_def, bind, Option.bind_eq_some_iff] at hb
        obtain ⟨a, ha, m, hm, hb⟩ := hb
        have hfactor : 0 ≤ (1 : ℚ) + m := by
          have := hrate m hm
          linarith
        rw [← Option.some.inj hb]
        exact mul_nonneg (afterRepayment_nonneg a ha) (pow_nonneg hfactor _)
      · exact ih hw

lemma walkLoans_balance_nonneg {terms : List TermRow}
    (heir : ∀ t ∈ terms, ∀ e ∈ floatOf env t.eir, 0 ≤ e) {w : WalkedRow}
    (hw : w ∈ walkLoans env terms) : ∀ b ∈ w.balanceAfterMissedPayment, 0 ≤ b := by
  obtain ⟨loanKey, _, hw⟩ := List.mem_flatMap.mp hw
  rw [walkLoan] at hw
  split at hw
  · simp at hw
  · rename_i first rest hsorted
    have hfirst : first ∈ terms := by
      have hmem : first ∈ byDate (groupBy (TermRow.loanKey env) terms loanKey) := by
        rw [hsorted]
        exact List.mem_cons_self
      exact ((mem_groupBy _).mp ((mem_sortByKey _).mp hmem)).1
    refine walkRows_balance_nonneg ?_ hw
    intro m hm
    obtain ⟨e, he, rfl⟩ := Option.map_eq_some_iff.mp hm
    have hnonneg := heir first hfirst e he
    positivity

/-! ### Credit loss -/

lemma lossGivenWriteOff_mem {balance collateral : Option ℚ}
    (hcollateral : ∀ c ∈ collateral, 0 ≤ c) :
    ∀ x ∈ lossGivenWriteOff balance collateral, 0 ≤ x ∧ x ≤ 1 := by
  intro x hx
  simp only [lossGivenWriteOff, Option.mem_def, bind, Option.bind_eq_some_iff] at hx
  obtain ⟨b, _, hx⟩ := hx
  split at hx
  · obtain rfl : 0 = x := Option.some.inj hx
    exact ⟨le_rfl, zero_le_one⟩
  · rename_i hpos
    obtain ⟨c, hc, hx⟩ := Option.bind_eq_some_iff.mp hx
    rw [← Option.some.inj hx]
    refine ⟨le_max_right _ _, max_le ?_ zero_le_one⟩
    have hshare : 0 ≤ c / b := div_nonneg (hcollateral c hc) (not_le.mp hpos).le
    linarith

lemma discountFactor_mem {eir : Option ℚ} (heir : ∀ e ∈ eir, 0 ≤ e) {period : ℕ} :
    ∀ x ∈ discountFactor eir period, 0 ≤ x ∧ x ≤ 1 := by
  intro x hx
  rw [discountFactor] at hx
  split at hx
  · obtain ⟨e, he, hx⟩ := Option.bind_eq_some_iff.mp hx
    have hnonneg := heir e he
    have hbase : 1 ≤ 1 + e / 12 := by
      have : 0 ≤ e / 12 := by positivity
      linarith
    rw [← Option.some.inj hx, zpow_neg, zpow_natCast]
    exact ⟨by positivity, inv_le_one_of_one_le₀ (one_le_pow₀ hbase)⟩
  · obtain rfl : 1 = x := Option.some.inj hx
    exact ⟨zero_le_one, le_rfl⟩

/-- A row whose ingredients are in range is bounded. -/
lemma eclRow_bounded {w : WalkedRow} {pd : Option PdTableRow}
    (hbal : ∀ b ∈ w.balanceAfterMissedPayment, 0 ≤ b)
    (hcollateral : ∀ c ∈ floatOf env w.collateral, 0 ≤ c)
    (heir : ∀ e ∈ floatOf env w.eir, 0 ≤ e)
    (hpd : ∀ t ∈ pd, 0 ≤ t.marginalPd ∧ 0 ≤ t.cureRate ∧ t.cureRate ≤ 1) :
    RowBounded (eclRow env (w, pd)) := by
  have hmarginal : 0 ≤ pd.elim 0 PdTableRow.marginalPd := by
    cases pd with
    | none => exact le_rfl
    | some t => exact (hpd t rfl).1
  have hcure : 0 ≤ 1 - pd.elim 0 PdTableRow.cureRate ∧ 1 - pd.elim 0 PdTableRow.cureRate ≤ 1 := by
    cases pd with
    | none => simp
    | some t =>
        obtain ⟨_, hlow, hhigh⟩ := hpd t rfl
        simp only [Option.elim_some]
        exact ⟨by linarith, by linarith⟩
  refine ⟨hbal, hmarginal, ?_⟩
  intro e he
  simp only [eclRow, Option.mem_def, bind, Option.bind_eq_some_iff] at he
  obtain ⟨loss, ⟨b, hb, lgd, ⟨lgw, hlgw, hlgd⟩, hloss⟩, factor, hfactor, he⟩ := he
  obtain ⟨hlgw0, hlgw1⟩ := lossGivenWriteOff_mem hcollateral lgw hlgw
  obtain ⟨hfactor0, hfactor1⟩ := discountFactor_mem heir factor hfactor
  refine ⟨b, hb, ?_⟩
  obtain rfl : lgw * (1 - pd.elim 0 PdTableRow.cureRate) = lgd := Option.some.inj hlgd
  obtain rfl : _ = loss := Option.some.inj hloss
  obtain rfl : _ = e := Option.some.inj he
  have hbase : 0 ≤ b * pd.elim 0 PdTableRow.marginalPd := mul_nonneg (hbal b hb) hmarginal
  have hshare : lgw * (1 - pd.elim 0 PdTableRow.cureRate) ≤ 1 :=
    mul_le_one₀ hlgw1 hcure.1 hcure.2
  have hshare0 : 0 ≤ lgw * (1 - pd.elim 0 PdTableRow.cureRate) := mul_nonneg hlgw0 hcure.1
  calc b * pd.elim 0 PdTableRow.marginalPd * (lgw * (1 - pd.elim 0 PdTableRow.cureRate)) * factor
      ≤ b * pd.elim 0 PdTableRow.marginalPd * (lgw * (1 - pd.elim 0 PdTableRow.cureRate)) * 1 :=
        mul_le_mul_of_nonneg_left hfactor1 (mul_nonneg hbase hshare0)
    _ ≤ b * pd.elim 0 PdTableRow.marginalPd * 1 * 1 := by
        gcongr
    _ = b * pd.elim 0 PdTableRow.marginalPd := by ring

/-! ### The rows of an output -/

/-- The ranges of the inputs: amounts and collaterals that are not negative and rates in
`[0, 1]`, wherever there is a number. -/
structure EclInputs (env : PyEnv) (pdDf eadDf lgdDf : Frame) : Prop where
  amounts : NonnegAmounts env (pdDf.column "Loan Amount")
  rates : ∀ record ∈ eadDf.rows, ∀ name ∈ eirAliases,
    ∀ q ∈ floatOf env (record.cell name), 0 ≤ q ∧ q ≤ 1
  lgdRates : ∀ record ∈ lgdDf.rows, ∀ q ∈ floatOf env (record.cell "EIR"), 0 ≤ q ∧ q ≤ 1
  collaterals : ∀ record ∈ lgdDf.rows, ∀ name ∈ [lgdSumCol, lgdSumShort],
    ∀ q ∈ floatOf env (record.cell name), 0 ≤ q

section Inputs

variable {pdDf eadDf lgdDf : Frame} {pdOut : PdOutput} {out : List EclRow}
  {warnings : List String}

/-- A filled cell is one of the two. -/
lemma fillNa_cases (c d : Cell) : c.fillNa d = c ∨ c.fillNa d = d := by
  rw [Cell.fillNa]
  split
  · exact Or.inr rfl
  · exact Or.inl rfl

lemma floatOf_blank : floatOf env .blank = none := rfl

lemma floatOf_num (q : ℚ) : floatOf env (.num q) = some q := rfl

/-- The resolved rate column is one of the aliases. -/
lemma resolveColumn_eir_mem (df : Frame) :
    resolveColumn df eirAliases "Effective Interest Rate" ∈ eirAliases := by
  rw [resolveColumn, Frame.resolveColumn?]
  cases hfind : eirAliases.find? fun name => name ∈ df.columns with
  | none => decide
  | some name => exact List.mem_of_find?_eq_some hfind

/-- Collateral and rate of an LGD row are cells of a record. -/
lemma mem_lgdSubset {l : LgdRow} (h : l ∈ lgdSubset lgdDf) :
    ∃ record ∈ lgdDf.rows, (l.eir = record.cell "EIR" ∨ l.eir = .blank) ∧
      (l.sum = record.cell lgdSumCol ∨ l.sum = record.cell lgdSumShort ∨ l.sum = .num 0) := by
  obtain ⟨record, hrecord, rfl⟩ := List.mem_map.mp (mem_of_mem_dropDuplicates _ h)
  refine ⟨record, hrecord, ?_, ?_⟩
  · by_cases heir : "EIR" ∈ lgdDf.columns
    · exact Or.inl (if_pos heir)
    · exact Or.inr (if_neg heir)
  · by_cases hcol : lgdSumCol ∈ lgdDf.columns
    · exact Or.inl (if_pos hcol)
    · by_cases hshort : lgdSumShort ∈ lgdDf.columns
      · exact Or.inr (Or.inl ((if_neg hcol).trans (if_pos hshort)))
      · exact Or.inr (Or.inr ((if_neg hcol).trans (if_neg hshort)))

/-- The rate of a merged row is not negative where those of the sheets are not. -/
lemma eir_nonneg_of_mem_mergeLgd
    (hrates : ∀ record ∈ eadDf.rows, ∀ name ∈ eirAliases,
      ∀ q ∈ floatOf env (record.cell name), 0 ≤ q)
    (hlgdRates : ∀ record ∈ lgdDf.rows, ∀ q ∈ floatOf env (record.cell "EIR"), 0 ≤ q) {m : MergedRow}
    (hm : m ∈ mergeLgd env eadDf lgdDf) : ∀ e ∈ floatOf env m.eir, 0 ≤ e := by
  obtain ⟨record, hrecord, lgd, hlgd, rfl⟩ := mem_mergeLgd hm
  intro e he
  have heffective : ∀ e ∈ floatOf env (eadRow env eadDf record).effectiveRate, 0 ≤ e :=
    fun e he => hrates record hrecord _ (resolveColumn_eir_mem eadDf) e he
  have hown : ∀ e ∈ floatOf env (eadRow env eadDf record).ownEir, 0 ≤ e :=
    fun e he => hrates record hrecord "EIR" (by decide) e he
  have hlgdEir : ∀ e ∈ floatOf env (lgd.elim .blank LgdRow.eir), 0 ≤ e := by
    intro e he
    cases lgd with
    | none => simp [floatOf_blank] at he
    | some l =>
        obtain ⟨r, hr, heir | heir, _⟩ := mem_lgdSubset (hlgd l rfl)
        · rw [Option.elim_some, heir] at he
          exact hlgdRates r hr e he
        · simp [heir, floatOf_blank] at he
  have hfill : ∀ c d : Cell, (∀ e ∈ floatOf env c, 0 ≤ e) → (∀ e ∈ floatOf env d, 0 ≤ e) →
      ∀ e ∈ floatOf env (c.fillNa d), 0 ≤ e := by
    intro c d hc hd e he
    rcases fillNa_cases c d with heq | heq
    · exact hc e (heq ▸ he)
    · exact hd e (heq ▸ he)
  simp only [mergedRow, mergedEir] at he
  split at he
  · exact hfill _ _ hown heffective e he
  · exact hfill _ _ hlgdEir heffective e he
  · exact heffective e he

lemma EclInputs.eir_nonneg (hin : EclInputs env pdDf eadDf lgdDf) {m : MergedRow}
    (hm : m ∈ mergeLgd env eadDf lgdDf) : ∀ e ∈ floatOf env m.eir, 0 ≤ e :=
  eir_nonneg_of_mem_mergeLgd
    (fun record hrecord name hname q hq => (hin.rates record hrecord name hname q hq).1)
    (fun record hrecord q hq => (hin.lgdRates record hrecord q hq).1) hm

/-- The collateral of a merged row is not negative. -/
lemma EclInputs.collateral_nonneg (hin : EclInputs env pdDf eadDf lgdDf) {m : MergedRow}
    (hm : m ∈ mergeLgd env eadDf lgdDf) : ∀ c ∈ floatOf env m.collateral, 0 ≤ c := by
  obtain ⟨record, hrecord, lgd, hlgd, rfl⟩ := mem_mergeLgd hm
  intro c hc
  simp only [mergedRow] at hc
  rcases fillNa_cases (lgd.elim .blank LgdRow.sum) (.num 0) with heq | heq
  · rw [heq] at hc
    cases lgd with
    | none => simp [floatOf_blank] at hc
    | some l =>
        obtain ⟨r, hr, _, hsum | hsum | hsum⟩ := mem_lgdSubset (hlgd l rfl)
        · rw [Option.elim_some, hsum] at hc
          exact hin.collaterals r hr lgdSumCol (by decide) c hc
        · rw [Option.elim_some, hsum] at hc
          exact hin.collaterals r hr lgdSumShort (by decide) c hc
        · rw [Option.elim_some, hsum, floatOf_num] at hc
          exact (Option.some.inj hc).le
  · rw [heq, floatOf_num] at hc
    exact (Option.some.inj hc).le

/-- Cure rates of a table from non-negative amounts are probabilities. -/
lemma cureRatesOf_mem {rows : List PdRow} (h : NonnegAmounts env (rows.map (·.loanAmount)))
    (segment : Cell) : 0 ≤ cureRatesOf env rows segment ∧ cureRatesOf env rows segment ≤ 1 := by
  have hmem := rowProportions_mem (aggregateMatrix_nonneg
    ((amountsNonneg_nextStaging h).filter fun t => t.row.segment = segment))
  obtain ⟨hnonneg, hsum⟩ := hmem
  have hrow := hsum .stage3
  rw [LoanStage.sum_eq] at hrow
  have h31 := hnonneg .stage3 .stage1
  have h32 := hnonneg .stage3 .stage2
  have h33 := hnonneg .stage3 .stage3
  have hrate : cureRatesOf env rows segment
      = rowProportions (aggregateMatrix env ((nextStaging rows).filter (·.row.segment = segment)))
          .stage3 .stage1
        + rowProportions (aggregateMatrix env ((nextStaging rows).filter (·.row.segment = segment)))
          .stage3 .stage2 := rfl
  rw [hrate]
  constructor
  · linarith
  · linarith

/-- Every row of an output is bounded. -/
theorem rowBounded_of_computeEad (hin : EclInputs env pdDf eadDf lgdDf)
    (hpd : computePd env pdDf = .ok pdOut)
    (head : computeEad env eadDf pdOut.table lgdDf = .ok (out, warnings)) :
    ∀ r ∈ out, RowBounded r := by
  obtain ⟨run⟩ := computeEad_ok head
  obtain ⟨rows, hread, _, rfl⟩ := readPdRows_of_computePd hpd
  have hamounts := loanAmount_nonneg hread hin.amounts
  have heir : ∀ t ∈ run.terms, ∀ e ∈ floatOf env t.eir, 0 ≤ e :=
    fun t ht => hin.eir_nonneg (run.toMergedRow_mem ht)
  intro r hr
  obtain ⟨w, hw, pd, hpdMem, rfl⟩ := run.mem_out hr
  have ht := toTermRow_mem hw
  refine eclRow_bounded (walkLoans_balance_nonneg heir hw)
    (hin.collateral_nonneg (run.toMergedRow_mem ht)) (heir _ ht) ?_
  intro t htable
  have hmem := hpdMem t htable
  refine ⟨((pdOutput_sound hamounts).marginal_mem t hmem).1, ?_⟩
  obtain ⟨segment, _, st, n, _, rfl⟩ := mem_table.mp hmem
  exact cureRatesOf_mem hamounts segment

/-- **The total ECL of a loan** is at most its exposure times the sum of the marginal PDs
that were joined to its snapshots, and so at most its exposure where these add up to no more
than one. -/
theorem totalEcl_le (hin : EclInputs env pdDf eadDf lgdDf)
    (hpd : computePd env pdDf = .ok pdOut)
    (head : computeEad env eadDf pdOut.table lgdDf = .ok (out, warnings)) (loanId : Cell) :
    totalEcl (loanRows out loanId)
        ≤ exposure (loanRows out loanId) * totalMarginalPd (loanRows out loanId) ∧
      (totalMarginalPd (loanRows out loanId) ≤ 1 →
        totalEcl (loanRows out loanId) ≤ exposure (loanRows out loanId)) := by
  have hrows : ∀ r ∈ loanRows out loanId, RowBounded r := fun r hr =>
    rowBounded_of_computeEad hin hpd head r (List.mem_of_mem_filter hr)
  have hmul := totalEcl_le_mul (exposure_nonneg (loanRows out loanId))
    (fun r hr b hb => le_exposure hr hb) hrows
  refine ⟨hmul, fun hone => hmul.trans ?_⟩
  calc exposure (loanRows out loanId) * totalMarginalPd (loanRows out loanId)
      ≤ exposure (loanRows out loanId) * 1 :=
        mul_le_mul_of_nonneg_left hone (exposure_nonneg _)
    _ = exposure (loanRows out loanId) := mul_one _

end Inputs

/-! ### A loan that loses more than it owes

A Stage 2 loan of the segment of `samplePdFrame`, one month after its first payment: its hazard
is 9/10 month after month. -/

/-- A cell of the EAD sheet. -/
def sampleEadCell : String → Cell
  | "Loan ID" => .str "L"
  | "Customer ID" => .str "C"
  | "SEGMENT" => .str "RETAIL"
  | "Staging" => .str "Stage 2"
  | "Reporting Date" => .date (firstOf 24289)
  | "Maturity Date" => .date (firstOf 24290)
  | "Adjusted Maturity Date" => .date (firstOf 24299)
  | "First Payment Date" => .date (firstOf 24288)
  | "Outstanding Amount" => .num 10
  | "Effective Interest Rate" => .num 0
  | "Repayment Frequency" => .str "MTH"
  | _ => .blank

def sampleEadFrame : Frame where
  columns := ["Loan ID", "Customer ID", "SEGMENT", "Staging", "Reporting Date", "Maturity Date",
    "Adjusted Maturity Date", "First Payment Date", "Outstanding Amount",
    "Effective Interest Rate", "Repayment Frequency"]
  rows := [⟨0, sampleEadCell⟩]

def sampleLgdFrame : Frame where
  columns := ["Loan ID", "EIR", lgdSumCol]
  rows := [⟨0, fun name => if name = "Loan ID" then .str "L" else .num 0⟩]

/-- The row of the sheet with rate and collateral. -/
def sampleMerged : MergedRow :=
  { eadRow plainEnv sampleEadFrame ⟨0, sampleEadCell⟩ with eir := .num 0, collateral := .num 0 }

lemma joinLgd_sample : joinLgd plainEnv sampleEadFrame sampleLgdFrame
    = [(eadRow plainEnv sampleEadFrame ⟨0, sampleEadCell⟩, some ⟨.str "L", .num 0, .num 0⟩)] := by
  have hread : readEadRows plainEnv sampleEadFrame
      = [eadRow plainEnv sampleEadFrame ⟨0, sampleEadCell⟩] := sortByKey_singleton _ _
  rw [joinLgd, hread]
  decide

lemma mergeLgd_sample : mergeLgd plainEnv sampleEadFrame sampleLgdFrame = [sampleMerged] := by
  rw [mergeLgd, joinLgd_sample]
  decide

def sampleDated : DatedRow :=
  { sampleMerged with repDate := some (firstOf 24289), matDate := some (firstOf 24290) }

/-- The loan has a snapshot at its reporting date and one a month later. -/
lemma expandDated_sample :
    expandDated [sampleDated] = [sampleDated.snapshot 0, sampleDated.snapshot 1] := by
  decide

def sampleTerm (k : ℕ) : TermRow :=
  { sampleDated.snapshot k with
    reporting := some (firstOf 24289)
    firstPayment := some (firstOf 24288)
    adjustedMaturity := some (firstOf 24299) }

lemma byDate_sample : byDate [sampleTerm 0, sampleTerm 1] = [sampleTerm 0, sampleTerm 1] :=
  sortByKey_of_sorted _ (by decide)

lemma groupKeys_sample :
    groupKeys (TermRow.loanKey plainEnv) [sampleTerm 0, sampleTerm 1] = ["L"] := by
  decide

lemma groupBy_sample : groupBy (TermRow.loanKey plainEnv) [sampleTerm 0, sampleTerm 1] "L"
    = [sampleTerm 0, sampleTerm 1] := by
  decide

/-- The loan repays 1 of its 10 a month. -/
def sampleWalked (k : ℕ) (balance : ℚ) : WalkedRow :=
  { sampleTerm k with
    monthlyInstalment := some 1
    balanceAfterRepayment := some balance
    balanceAfterMissedPayment := some balance
    periodToBeDiscounted := k }

lemma walkLoans_sample : walkLoans plainEnv [sampleTerm 0, sampleTerm 1]
    = [sampleWalked 0 9, sampleWalked 1 8] := by
  rw [walkLoans, groupKeys_sample, sortByKey_singleton, List.flatMap_singleton, groupBy_sample,
    walkLoan, byDate_sample]
  decide +kernel

/-- The PD row of month `n` for the loan. -/
def samplePd (n : ℕ) : PdTableRow :=
  tableRow plainEnv (cureRatesOf plainEnv samplePdRows) (nextStaging samplePdRows)
    (.str "RETAIL") .stage2 n

/-- The hazard is 9/10 in both months. -/
lemma marginalPd_samplePd {n : ℕ} (hn : n = 1 ∨ n = 2) : (samplePd n).marginalPd = 9 / 10 := by
  obtain ⟨h1, h2⟩ := stage3At_sample
  rw [samplePd, tableRow]
  rcases hn with rfl | rfl
  · simp [hazardAt, h1]
  · simp only [hazardAt, h1, h2, denomEps]
    norm_num

lemma cureRatesOf_sample : cureRatesOf plainEnv samplePdRows (.str "RETAIL") = 0 := by
  have hrate : cureRatesOf plainEnv samplePdRows (.str "RETAIL")
      = cureRate (rowProportions sampleAggregate) := by
    rw [← aggregateMatrix_sample]
    rfl
  rw [hrate]
  decide +kernel

lemma joinPd_sample :
    joinPd [sampleWalked 0 9, sampleWalked 1 8] (pdOutput plainEnv samplePdRows).table
      = [(sampleWalked 0 9, some (samplePd 1)), (sampleWalked 1 8, some (samplePd 2))] := by
  have hsegment : Cell.str "RETAIL" ∈ segmentsOf plainEnv (nextStaging samplePdRows) := by
    rw [segmentsOf_sample]
    exact List.mem_singleton_self _
  have hfirst := filter_matchesPd (w := sampleWalked 0 9) (n := 1) .stage2 hsegment
    (by decide) (mem_pdMonths.mpr (by decide)) rfl
  have hsecond := filter_matchesPd (w := sampleWalked 1 8) (n := 2) .stage2 hsegment
    (by decide) (mem_pdMonths.mpr (by decide)) rfl
  rw [joinPd_eq_map, List.map_cons, List.map_cons, List.map_nil, hfirst, hsecond]
  rfl

/-- A row of the sample's output. -/
def sampleEcl (k : ℕ) (balance : ℚ) : EclRow :=
  eclRow plainEnv (sampleWalked k balance, some (samplePd (k + 1)))

lemma sortKey_sampleEcl {k l : ℕ} (a b : ℚ) (h : k ≤ l) :
    (sampleEcl k a).sortKey ≤ (sampleEcl l b).sortKey := by
  rw [EclRow.sortKey, EclRow.sortKey, Prod.Lex.toLex_le_toLex]
  refine Or.inr ⟨rfl, WithTop.coe_le_coe.mpr ?_⟩
  exact (firstOf 24289).addMonths_strictMono.monotone (Int.ofNat_le.mpr h)

/-- The engine on the sheet, with any tables that hold the loan's rate, its collateral and PD
rows for its two months with the hazard and the cure rate of `samplePd`. -/
lemma computeEad_sampleEad {table : List PdTableRow} {lgdDf : Frame} {pd₁ pd₂ : PdTableRow}
    (hcolumns : requireEadColumns sampleEadFrame lgdDf = .ok ())
    (htable : ∀ t ∈ table, ∃ s, t.segment = .str s)
    (hlgd : joinLgd plainEnv sampleEadFrame lgdDf
      = [(eadRow plainEnv sampleEadFrame ⟨0, sampleEadCell⟩, some ⟨.str "L", .num 0, .num 0⟩)])
    (hmerge : mergeLgd plainEnv sampleEadFrame lgdDf = [sampleMerged])
    (hpd : joinPd [sampleWalked 0 9, sampleWalked 1 8] table
      = [(sampleWalked 0 9, some pd₁), (sampleWalked 1 8, some pd₂)])
    (hrows : eclRows plainEnv [(sampleWalked 0 9, some pd₁), (sampleWalked 1 8, some pd₂)]
      = [sampleEcl 0 9, sampleEcl 1 8]) :
    computeEad plainEnv sampleEadFrame table lgdDf = .ok ([sampleEcl 0 9, sampleEcl 1 8], []) := by
  have hjoined : joinPd (walkLoans plainEnv [sampleTerm 0, sampleTerm 1]) table
      = [(sampleWalked 0 9, some pd₁), (sampleWalked 1 8, some pd₂)] := by
    rw [walkLoans_sample, hpd]
  obtain ⟨hfloats, hcells⟩ := @checkFloats_ok plainEnv [sampleTerm 0, sampleTerm 1] (by
    intro t ht c hc
    simp only [List.mem_cons, List.not_mem_nil, or_false] at ht hc
    rcases ht with rfl | rfl <;> rcases hc with rfl | rfl | rfl <;> exact ⟨_, rfl⟩)
  have hsegments : missingSegments plainEnv
      [(sampleWalked 0 9, some pd₁), (sampleWalked 1 8, some pd₂)] = [] :=
    sortByKey_nil _
  have hwarnings : missingLgdWarnings plainEnv (joinLgd plainEnv sampleEadFrame lgdDf) = [] := by
    rw [hlgd]
    exact congrArg (List.map _) (sortByKey_nil _)
  have hsorted : sortByKey EclRow.sortKey [sampleEcl 0 9, sampleEcl 1 8]
      = [sampleEcl 0 9, sampleEcl 1 8] :=
    sortByKey_of_sorted _ (List.pairwise_pair.mpr (sortKey_sampleEcl 9 8 (by omega)))
  -- the sheet through the stages: dates, snapshots, balances, join
  have hdated : withDates plainEnv (mergeLgd plainEnv sampleEadFrame lgdDf)
      = .ok [sampleDated] := by
    rw [hmerge]
    rfl
  have hterms : withTerms plainEnv (expandDated [sampleDated])
      = .ok [sampleTerm 0, sampleTerm 1] := by
    rw [expandDated_sample]
    rfl
  have hsome : (expandDated [sampleDated]).isEmpty = false := by
    rw [expandDated_sample]
    rfl
  have hkeys : requirePdKeys sampleEadFrame [sampleTerm 0, sampleTerm 1] table = .ok () :=
    requirePdKeys_of_texts (textColumn_singleton "RETAIL") (textColumn_singleton "Stage 2") htable
  have hchecks : EadChecks plainEnv sampleEadFrame lgdDf table [sampleTerm 0, sampleTerm 1] :=
    ⟨hcolumns, hkeys, by decide, by decide, by decide, by decide, hfloats, hcells⟩
  rw [computeEad_eq_ok hchecks hdated hsome hterms (by rw [hjoined, hsegments]; rfl), hjoined,
    hrows, hsorted, hwarnings]

lemma segment_of_mem_table_sample :
    ∀ t ∈ (pdOutput plainEnv samplePdRows).table, ∃ s, t.segment = .str s := by
  intro t ht
  obtain ⟨segment, hsegment, st, n, -, rfl⟩ := mem_table.mp ht
  rw [segmentsOf_sample] at hsegment
  exact ⟨_, List.mem_singleton.mp hsegment⟩

lemma computeEad_sample :
    computeEad plainEnv sampleEadFrame (pdOutput plainEnv samplePdRows).table sampleLgdFrame
      = .ok ([sampleEcl 0 9, sampleEcl 1 8], []) :=
  computeEad_sampleEad (by decide) segment_of_mem_table_sample joinLgd_sample mergeLgd_sample joinPd_sample rfl

/-- A row of the sample, worked out. -/
lemma sampleEcl_eq {k : ℕ} {balance : ℚ} (hk : k = 0 ∨ k = 1) (hbal : 0 < balance) :
    sampleEcl k balance =
      { loanId := .str "L", customerId := .str "C", segment := .str "RETAIL"
        staging := .str "Stage 2", snapshotDate := (sampleTerm k).snapshotDate
        periodSinceOrigination := some ((k : ℤ) + 1), periodToBeDiscounted := k
        monthlyInstalment := some 1, balanceAfterRepayment := some balance
        balanceAfterMissedPayment := some balance, collateral := some 0
        marginalPd := 9 / 10, cureRate := 0, ownMarginalPd := none, ownCureRate := none
        lgw := some 1, lgd := some 1
        creditLoss := some (balance * (9 / 10)), discountedEcl := some (balance * (9 / 10)) } := by
  have hmarginal : (samplePd (k + 1)).marginalPd = 9 / 10 := marginalPd_samplePd (by omega)
  have hcure : (samplePd (k + 1)).cureRate = 0 := cureRatesOf_sample
  have hcollateral : floatOf plainEnv (sampleWalked k balance).collateral = some 0 := rfl
  have heir : floatOf plainEnv (sampleWalked k balance).eir = some 0 := rfl
  have hbalance : (sampleWalked k balance).balanceAfterMissedPayment = some balance := rfl
  simp only [sampleEcl, eclRow, Option.elim_some, hmarginal, hcure, hcollateral, heir, hbalance,
    lossGivenWriteOff, discountFactor]
  rcases hk with rfl | rfl <;> simp [not_le.mpr hbal] <;>
    exact ⟨rfl, rfl, rfl, rfl, rfl, rfl, rfl, rfl, rfl, rfl, rfl⟩

lemma discountedEcl_sampleEcl {k : ℕ} {balance : ℚ} (hk : k = 0 ∨ k = 1) (hbal : 0 < balance) :
    (sampleEcl k balance).discountedEcl = some (balance * (9 / 10)) := by
  rw [sampleEcl_eq hk hbal]

lemma eclInputs_sample : EclInputs plainEnv samplePdFrame sampleEadFrame sampleLgdFrame := by
  refine ⟨samplePdFrame_amounts, ?_, ?_, ?_⟩
  · intro record hrecord name hname q hq
    obtain rfl : record = ⟨0, sampleEadCell⟩ := List.mem_singleton.mp hrecord
    simp only [eirAliases, List.mem_cons, List.not_mem_nil, or_false] at hname
    rcases hname with rfl | rfl | rfl
    · obtain rfl : 0 = q := Option.some.inj hq
      exact ⟨le_rfl, zero_le_one⟩
    · cases hq
    · cases hq
  · intro record hrecord q hq
    obtain rfl : record = _ := List.mem_singleton.mp hrecord
    obtain rfl : 0 = q := Option.some.inj hq
    exact ⟨le_rfl, zero_le_one⟩
  · intro record hrecord name hname q hq
    obtain rfl : record = _ := List.mem_singleton.mp hrecord
    simp only [List.mem_cons, List.not_mem_nil, or_false] at hname
    rcases hname with rfl | rfl
    · obtain rfl : 0 = q := Option.some.inj hq
      exact le_rfl
    · obtain rfl : 0 = q := Option.some.inj hq
      exact le_rfl

/-- **The bound by the exposure fails**: a loan of which at most 9 is outstanding loses 15.3. -/
theorem ecl_exceeds_exposure :
    EclInputs plainEnv samplePdFrame sampleEadFrame sampleLgdFrame ∧
      computePd plainEnv samplePdFrame = .ok (pdOutput plainEnv samplePdRows) ∧
      computeEad plainEnv sampleEadFrame (pdOutput plainEnv samplePdRows).table sampleLgdFrame
        = .ok ([sampleEcl 0 9, sampleEcl 1 8], []) ∧
      exposure (loanRows [sampleEcl 0 9, sampleEcl 1 8] (.str "L")) = 9 ∧
      totalEcl (loanRows [sampleEcl 0 9, sampleEcl 1 8] (.str "L")) = 153 / 10 := by
  have hrows : loanRows [sampleEcl 0 9, sampleEcl 1 8] (.str "L")
      = [sampleEcl 0 9, sampleEcl 1 8] := rfl
  refine ⟨eclInputs_sample, computePd_sample, computeEad_sample, ?_, ?_⟩
  · rw [hrows]
    decide
  · rw [hrows, totalEcl]
    simp only [List.filterMap_cons, List.filterMap_nil,
      discountedEcl_sampleEcl (Or.inl rfl) (show (0 : ℚ) < 9 by norm_num),
      discountedEcl_sampleEcl (Or.inr rfl) (show (0 : ℚ) < 8 by norm_num)]
    norm_num

/-- The loan of the sample has 15.3 of at most 9 times 1.8. -/
theorem totalEcl_le_sample :
    totalEcl (loanRows [sampleEcl 0 9, sampleEcl 1 8] (.str "L"))
        ≤ exposure (loanRows [sampleEcl 0 9, sampleEcl 1 8] (.str "L"))
          * totalMarginalPd (loanRows [sampleEcl 0 9, sampleEcl 1 8] (.str "L")) :=
  (totalEcl_le eclInputs_sample computePd_sample computeEad_sample (.str "L")).1

end EclServer.Engine
