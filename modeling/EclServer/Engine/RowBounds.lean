import EclServer.Engine.Amortisation
import EclServer.Engine.LoanCoverage

/-!
The bounds of the rows of the ECL formula.

* `divide?`, `eclRow?`, `instalment?`, `checkedEad`: the formulas and the engine with a division
  that fails at zero.
* `TermInRange`: the numbers of a snapshot are there and in range, where `float` reads them.
* `exists_balance_of_mem_walkLoans`: the walk of such snapshots has all its balances.
* `rowInBounds_eclRow`: what the formula then makes of a row.
* `rows_in_bounds`: the rows that the engine makes of an accepted sheet without blanks.
-/

namespace EclServer.Engine

open EclServer.Library

/-! ### A division that fails at zero -/

def divide? (a b : ℚ) : Option ℚ := if b = 0 then none else some (a / b)

lemma divide?_of_ne_zero (a : ℚ) {b : ℚ} (hb : b ≠ 0) : divide? a b = some (a / b) := if_neg hb

/-- `lossGivenWriteOff` of numbers. -/
def lossGivenWriteOff? (balance collateral : ℚ) : Option ℚ :=
  if balance ≤ 0 then some 0
  else do return max (1 - (← divide? collateral balance)) 0

/-- `discountFactor` of numbers. -/
def discountFactor? (eir : ℚ) (period : ℕ) : Option ℚ :=
  if 0 < period then divide? 1 ((1 + eir / 12) ^ period) else some 1

section Checked

variable (env : PyEnv)

/-- `periodInstalment` of numbers. -/
def periodInstalment? (outstanding eir : ℚ) (remaining : ℤ) : Frequency → Option ℚ
  | .qtr =>
      if eir / 4 = 0 then divide? outstanding (max 1 (remaining / 3) : ℤ)
      else some (-(env.pmt (eir / 4) (max 1 (remaining / 3)) outstanding))
  | .mth =>
      if remaining ≤ 0 then some 0
      else if eir / 12 = 0 then divide? outstanding remaining
      else some (-(env.pmt (eir / 12) remaining outstanding))

/-- The instalment of a loan of `loanTerms`. -/
def instalment? (t : TermRow) : Option ℚ := do
  periodInstalment? env (← floatOf env t.outstandingAmount) (← floatOf env t.eir) (← t.remaining)
    t.freq

/-- `eclRow` of a row that has its numbers. -/
def eclRow? (p : WalkedRow × Option PdTableRow) : Option EclRow := do
  let balance ← p.1.balanceAfterMissedPayment
  let lgw ← lossGivenWriteOff? balance (← floatOf env p.1.collateral)
  let factor ← discountFactor? (← floatOf env p.1.eir) p.1.periodToBeDiscounted
  let lgd := lgw * (1 - p.2.elim 0 PdTableRow.cureRate)
  let creditLoss := balance * p.2.elim 0 PdTableRow.marginalPd * lgd
  return { eclRow env p with
    lgw := some lgw
    lgd := some lgd
    creditLoss := some creditLoss
    discountedEcl := some (creditLoss * factor) }

/-- A number that is missing, or a division by zero, is an error. -/
def orError {α : Type} (x : Option α) : Except String α :=
  x.elim (.error "ZeroDivisionError") .ok

/-- `compute_ead`, by formulas that are only used where all their numbers are there. -/
def checkedEad (eadDf : Frame) (pdTable : List PdTableRow) (lgdDf : Frame) :
    Except String (List EclRow × List String) := do
  requireEadColumns eadDf lgdDf
  let warnings := missingLgdWarnings env (joinLgd env eadDf lgdDf)
  let dated ← withDates env (mergeLgd env eadDf lgdDf)
  let snapshots := expandDated dated
  if snapshots.isEmpty then return ([], warnings)
  requireTermColumns eadDf
  let terms ← withTerms env snapshots
  checkTermFloats env terms
  requirePdKeys eadDf terms pdTable
  let _ ← (loanTerms terms).mapM fun t => orError (instalment? env t)
  let joined := joinPd (walkLoans env terms) pdTable
  requireJoined eadDf "Marginal_PD"
  checkSegments (missingSegments env joined)
  requireJoined eadDf "Cure_Rate"
  checkRowFloats env terms
  requireOutputColumns eadDf
  let rows ← joined.mapM fun p => orError (eclRow? env p)
  return (sortByKey EclRow.sortKey rows, warnings)

end Checked

variable {env : PyEnv} {eadDf lgdDf : Frame} {pdTable : List PdTableRow} {out : List EclRow}
  {warnings : List String}

/-- Where no formula of a run fails, the checked engine gives its output. -/
lemma checkedEad_eq (h : computeEad env eadDf pdTable lgdDf = .ok (out, warnings))
    (hrun : ∀ run : EadRun env eadDf pdTable lgdDf out,
      withTerms env (expandDated run.dated) = .ok run.terms →
      EadChecks env eadDf lgdDf pdTable run.terms →
      (∀ t ∈ loanTerms run.terms, ∃ i, instalment? env t = some i) ∧
        ∀ p ∈ joinPd (walkLoans env run.terms) pdTable, eclRow? env p = some (eclRow env p)) :
    checkedEad env eadDf pdTable lgdDf = .ok (out, warnings) := by
  obtain ⟨run, rfl, ⟨hnone, hterms⟩ | ⟨hsome, hterms, hchecks, hsegments⟩⟩ := exists_eadRun h
  · have hout : out = [] := by
      rw [run.out_eq, hterms]
      simp [joinPd, leftJoin, eclRows]
    rw [checkedEad, run.columns_ok, hout]
    simp only [bind, Except.bind, run.dated_ok, hnone, List.isEmpty_nil, if_true]
    rfl
  · obtain ⟨hinstalments, hrows⟩ := hrun run hterms hchecks
    obtain ⟨is, his⟩ := exists_mapM_ok (f := fun t => orError (instalment? env t))
      (l := loanTerms run.terms) (by
        intro t ht
        obtain ⟨i, hi⟩ := hinstalments t ht
        exact ⟨i, by rw [hi]; rfl⟩)
    have hjoined : (joinPd (walkLoans env run.terms) pdTable).mapM
        (fun p => orError (eclRow? env p))
          = .ok (eclRows env (joinPd (walkLoans env run.terms) pdTable)) :=
      mapM_eq_ok_map fun p hp => by rw [hrows p hp]; rfl
    have hsome : (expandDated run.dated).isEmpty = false := List.isEmpty_eq_false_iff.mpr hsome
    rw [checkedEad, hchecks.columns]
    simp only [bind, Except.bind, run.dated_ok, hsome, Bool.false_eq_true, if_false, hchecks.term,
      hterms, hchecks.floats, hchecks.keys, his, hchecks.marginal, hsegments, hchecks.cure,
      hchecks.rows, hchecks.output, hjoined]
    exact congrArg (fun rows => Except.ok (rows, _)) run.out_eq.symm

/-! ### Numbers in range -/

/-- Where `float` accepts a cell that `pd.to_numeric` reads, it reads the same number. -/
def ReadsNumbers (env : PyEnv) : Prop :=
  ∀ c q v, env.toNumeric c = some q → c.toFloat env = .ok v → v = some q

/-- What `float` reads of a cell is a number with a property. -/
def FloatIn (env : PyEnv) (p : ℚ → Prop) (c : Cell) : Prop :=
  ∀ v, c.toFloat env = .ok v → ∃ x, v = some x ∧ p x

lemma InRange.floatIn {minValue maxValue : Option ℚ} {c : Cell}
    (h : InRange env minValue maxValue c) (hnumbers : ReadsNumbers env) :
    FloatIn env (fun q => (∀ m ∈ minValue, m ≤ q) ∧ ∀ m ∈ maxValue, q ≤ m) c := by
  obtain ⟨q, hq, hmin, hmax⟩ := h
  intro v hv
  exact ⟨q, hnumbers c q v hq hv, hmin, hmax⟩

lemma FloatIn.exists_floatOf {p : ℚ → Prop} {c : Cell} (h : FloatIn env p c) {v : Option ℚ}
    (hv : c.toFloat env = .ok v) : ∃ x, floatOf env c = some x ∧ p x := by
  obtain ⟨x, rfl, hx⟩ := h v hv
  exact ⟨x, by rw [floatOf, hv], hx⟩

/-- An LGD table with rates in `[0, 1]` and sums of collateral that are not negative, where it has
any. -/
structure LgdInRange (env : PyEnv) (lgdDf : Frame) : Prop where
  eir_column : "EIR" ∈ lgdDf.columns
  rates : ∀ r ∈ lgdDf.rows, r.cell "EIR" ≠ .blank →
    FloatIn env (fun q => 0 ≤ q ∧ q ≤ 1) (r.cell "EIR")
  sums : ∀ r ∈ lgdDf.rows, (lgdRow lgdDf r).sum ≠ .blank →
    FloatIn env (fun q => 0 ≤ q) (lgdRow lgdDf r).sum

/-- The numbers of a snapshot. -/
structure TermInRange (env : PyEnv) (t : TermRow) : Prop where
  amount : FloatIn env (fun q => 0 ≤ q) t.outstandingAmount
  rate : FloatIn env (fun q => 0 ≤ q ∧ q ≤ 1) t.eir
  cover : FloatIn env (fun q => 0 ≤ q) t.collateral
  remaining : ∃ n, t.remaining = some n

/-- A cell, or what it is filled with. -/
lemma FloatIn.fillNa {p : ℚ → Prop} {c d : Cell} (hc : c ≠ .blank → FloatIn env p c)
    (hd : FloatIn env p d) : FloatIn env p (c.fillNa d) := by
  rw [Cell.fillNa]
  split_ifs with hblank
  · exact hd
  · exact hc hblank

/-! ### Instalments -/

/-- The instalment of a loan that has its numbers. -/
lemma exists_periodInstalment? (B e : ℚ) (n : ℤ) (freq : Frequency) :
    ∃ i, periodInstalment? env B e n freq = some i ∧
      periodInstalment env (some B) (some e) (some n) freq = some i := by
  cases freq with
  | qtr =>
      have hperiods : ((max 1 (n / 3) : ℤ) : ℚ) ≠ 0 := by
        have hpos : 0 < max 1 (n / 3) := by omega
        exact_mod_cast hpos.ne'
      by_cases hzero : e / 4 = 0
      · refine ⟨B / (max 1 (n / 3) : ℤ), ?_, ?_⟩
        · rw [periodInstalment?, if_pos hzero, divide?_of_ne_zero B hperiods]
        · rw [periodInstalment]
          exact if_pos hzero
      · refine ⟨-(env.pmt (e / 4) (max 1 (n / 3)) B), ?_, ?_⟩
        · rw [periodInstalment?, if_neg hzero]
        · rw [periodInstalment]
          exact if_neg hzero
  | mth =>
      by_cases hover : n ≤ 0
      · refine ⟨0, ?_, ?_⟩
        · rw [periodInstalment?, if_pos hover]
        · rw [periodInstalment, if_pos (by simpa using hover)]
      have hleft : ¬ (some n).any (· ≤ 0) = true := by simpa using hover
      by_cases hzero : e / 12 = 0
      · have hn : (n : ℚ) ≠ 0 := by
          have hne : n ≠ 0 := by omega
          exact_mod_cast hne
        refine ⟨B / n, ?_, ?_⟩
        · rw [periodInstalment?, if_neg hover, if_pos hzero, divide?_of_ne_zero B hn]
        · rw [periodInstalment, if_neg hleft]
          exact if_pos hzero
      · refine ⟨-(env.pmt (e / 12) n B), ?_, ?_⟩
        · rw [periodInstalment?, if_neg hover, if_neg hzero]
        · rw [periodInstalment, if_neg hleft]
          exact if_neg hzero

section Terms

variable {terms : List TermRow} (hrange : ∀ t ∈ terms, TermInRange env t)
  (hfloats : checkTermFloats env terms = .ok ()) (hcells : checkRowFloats env terms = .ok ())

include hrange

include hcells in
/-- The rate and the collateral of a snapshot. -/
lemma exists_rate {t : TermRow} (ht : t ∈ terms) :
    (∃ e, floatOf env t.eir = some e ∧ 0 ≤ e ∧ e ≤ 1) ∧
      ∃ c, floatOf env t.collateral = some c ∧ 0 ≤ c := by
  obtain ⟨⟨_, hcover⟩, _, hrate⟩ := checkRowFloats_iff.mp hcells t ht
  exact ⟨(hrange t ht).rate.exists_floatOf hrate, (hrange t ht).cover.exists_floatOf hcover⟩

include hfloats in
/-- The amount of a snapshot whose amount is read. -/
lemma exists_amount {t : TermRow} (ht : t ∈ terms)
    (hread : t ∈ loanTerms terms ++ walkHeads env terms) :
    ∃ B, floatOf env t.outstandingAmount = some B ∧ 0 ≤ B := by
  obtain ⟨⟨_, hamount⟩, -⟩ := checkTermFloats_iff.mp hfloats t hread
  exact (hrange t ht).amount.exists_floatOf hamount

include hfloats hcells

/-- The instalments of the loans are all there. -/
lemma exists_instalment? {t : TermRow} (ht : t ∈ loanTerms terms) :
    ∃ i, instalment? env t = some i ∧ periodInstalment env (floatOf env t.outstandingAmount)
      (floatOf env t.eir) t.remaining t.freq = some i := by
  have hmem : t ∈ terms := mem_of_mem_dropDuplicates _ ht
  obtain ⟨B, hB, -⟩ := exists_amount hrange hfloats hmem (List.mem_append_left _ ht)
  obtain ⟨⟨e, he, -⟩, -⟩ := exists_rate hrange hcells hmem
  obtain ⟨n, hn⟩ := (hrange t hmem).remaining
  obtain ⟨i, hchecked, hplain⟩ := @exists_periodInstalment? env B e n t.freq
  refine ⟨i, ?_, ?_⟩
  · simp only [instalment?, hB, he, hn, Option.bind_eq_bind, Option.bind_some]
    exact hchecked
  · rw [hB, he, hn]
    exact hplain

/-- **The balances of a walk** are all there, and not negative. -/
lemma exists_balance_of_mem_walkLoans {w : WalkedRow} (hw : w ∈ walkLoans env terms) :
    ∃ b, w.balanceAfterMissedPayment = some b ∧ 0 ≤ b := by
  obtain ⟨loanKey, hkey, hwalk⟩ := List.mem_flatMap.mp hw
  rw [mem_sortByKey] at hkey
  rw [walkLoan] at hwalk
  split at hwalk
  · simp at hwalk
  rename_i first rest hgroup
  have hfirst : first ∈ groupBy (TermRow.loanKey env) terms loanKey := by
    refine (mem_sortByKey TermRow.dateKey).mp ?_
    rw [show sortByKey TermRow.dateKey (groupBy (TermRow.loanKey env) terms loanKey)
      = first :: rest from hgroup]
    exact List.mem_cons_self
  obtain ⟨hmem, rfl⟩ := (mem_groupBy _).mp hfirst
  -- the first snapshot of the walk has its rate and its amount, and the loan its instalment
  obtain ⟨⟨e, he, hnonneg, -⟩, -⟩ := exists_rate hrange hcells hmem
  obtain ⟨B, hB, -⟩ := exists_amount hrange hfloats hmem (List.mem_append_right _
    (List.mem_filterMap.mpr ⟨_, (mem_sortByKey _).mpr hkey, by rw [hgroup]; rfl⟩))
  obtain ⟨loan, hloan, -, hof⟩ := @exists_instalmentOf env _ _ hmem
  obtain ⟨i, -, hi⟩ := exists_instalment? hrange hfloats hcells hloan
  rw [hof, hi, he, hB, Option.map_some] at hwalk
  obtain ⟨b, hb⟩ := Option.ne_none_iff_exists'.mp (balanceAfterRepayment_ne_none hwalk)
  have hbalance : w.balanceAfterMissedPayment = some b := by
    rw [balanceAfterMissedPayment_eq cleared_nil hwalk, hb]
  refine ⟨b, hbalance, walkRows_balance_nonneg ?_ hwalk b hbalance⟩
  intro m hm
  obtain rfl : e / 12 = m := Option.some.inj hm
  positivity

end Terms

/-! ### The rows -/

/-- The bounds of a row: all its numbers are there, and
`0 ≤ LGW ≤ 1`, `0 ≤ LGD ≤ LGW`, `0 ≤ Discounted ECL ≤ Credit Loss ≤ Balance After Missed Payment`. -/
def RowInBounds (r : EclRow) : Prop :=
  ∃ balance lgw lgd loss ecl, r.balanceAfterMissedPayment = some balance ∧ r.lgw = some lgw ∧
    r.lgd = some lgd ∧ r.creditLoss = some loss ∧ r.discountedEcl = some ecl ∧
    (0 ≤ lgw ∧ lgw ≤ 1) ∧ (0 ≤ lgd ∧ lgd ≤ lgw) ∧ 0 ≤ ecl ∧ ecl ≤ loss ∧ loss ≤ balance

lemma exists_lossGivenWriteOff? (b c : ℚ) :
    ∃ l, lossGivenWriteOff? b c = some l ∧ lossGivenWriteOff (some b) (some c) = some l := by
  by_cases hb : b ≤ 0
  · exact ⟨0, if_pos hb, if_pos hb⟩
  · have hne : b ≠ 0 := (not_le.mp hb).ne'
    refine ⟨max (1 - c / b) 0, ?_, if_neg hb⟩
    rw [lossGivenWriteOff?, if_neg hb, divide?_of_ne_zero c hne]
    rfl

lemma exists_discountFactor? {e : ℚ} (he : 0 ≤ e) (n : ℕ) :
    ∃ f, discountFactor? e n = some f ∧ discountFactor (some e) n = some f := by
  by_cases hn : 0 < n
  · have hbase : (1 + e / 12) ^ n ≠ 0 := by positivity
    refine ⟨(1 + e / 12) ^ (-(n : ℤ)), ?_, if_pos hn⟩
    rw [discountFactor?, if_pos hn, divide?_of_ne_zero 1 hbase, zpow_neg, zpow_natCast, one_div]
  · exact ⟨1, if_neg hn, if_neg hn⟩

/-- **A row whose numbers are in range** is in its bounds, and divides by no zero. -/
lemma rowInBounds_eclRow {w : WalkedRow} {pd : Option PdTableRow}
    (hbalance : ∃ b, w.balanceAfterMissedPayment = some b ∧ 0 ≤ b)
    (hrate : ∃ e, floatOf env w.eir = some e ∧ 0 ≤ e ∧ e ≤ 1)
    (hcover : ∃ c, floatOf env w.collateral = some c ∧ 0 ≤ c)
    (hpd : ∀ t ∈ pd, (0 ≤ t.marginalPd ∧ t.marginalPd ≤ 1) ∧ 0 ≤ t.cureRate ∧ t.cureRate ≤ 1) :
    RowInBounds (eclRow env (w, pd)) ∧ eclRow? env (w, pd) = some (eclRow env (w, pd)) := by
  obtain ⟨b, hb, hb0⟩ := hbalance
  obtain ⟨e, he, he0, -⟩ := hrate
  obtain ⟨c, hc, hc0⟩ := hcover
  obtain ⟨l, hchecked, hl⟩ := exists_lossGivenWriteOff? b c
  obtain ⟨f, hdiscount, hf⟩ := exists_discountFactor? he0 w.periodToBeDiscounted
  obtain ⟨hl0, hl1⟩ := lossGivenWriteOff_mem (by simpa using hc0) l hl
  obtain ⟨hf0, hf1⟩ := discountFactor_mem (by simpa using he0) f hf
  have hrange : (0 ≤ pd.elim 0 PdTableRow.marginalPd ∧ pd.elim 0 PdTableRow.marginalPd ≤ 1) ∧
      0 ≤ pd.elim 0 PdTableRow.cureRate ∧ pd.elim 0 PdTableRow.cureRate ≤ 1 := by
    cases pd with
    | none => exact ⟨⟨le_rfl, zero_le_one⟩, le_rfl, zero_le_one⟩
    | some t => exact hpd t rfl
  obtain ⟨⟨hm0, hm1⟩, hq0, hq1⟩ := hrange
  set m := pd.elim 0 PdTableRow.marginalPd with hm
  set q := pd.elim 0 PdTableRow.cureRate with hq
  -- each amount is the one before it times a factor between zero and one
  have hlgd0 : 0 ≤ l * (1 - q) := mul_nonneg hl0 (by linarith)
  have hlgd : l * (1 - q) ≤ l := mul_le_of_le_one_right hl0 (by linarith)
  have hloss0 : 0 ≤ b * m * (l * (1 - q)) := mul_nonneg (mul_nonneg hb0 hm0) hlgd0
  have hloss : b * m * (l * (1 - q)) ≤ b := by
    calc b * m * (l * (1 - q)) ≤ b * m :=
          mul_le_of_le_one_right (mul_nonneg hb0 hm0) (hlgd.trans hl1)
      _ ≤ b := mul_le_of_le_one_right hb0 hm1
  have hrow : eclRow env (w, pd) = { eclRow env (w, pd) with
      lgw := some l
      lgd := some (l * (1 - q))
      creditLoss := some (b * m * (l * (1 - q)))
      discountedEcl := some (b * m * (l * (1 - q)) * f) } := by
    simp only [eclRow, hb, hc, he, hl, hf, ← hm, ← hq]
    rfl
  constructor
  · rw [hrow]
    exact ⟨b, l, _, _, _, hb, rfl, rfl, rfl, rfl, ⟨hl0, hl1⟩, ⟨hlgd0, hlgd⟩, mul_nonneg hloss0 hf0,
      mul_le_of_le_one_right hloss0 hf1, hloss⟩
  · rw [hrow, eclRow?]
    simp only [hb, hc, he, Option.bind_eq_bind, Option.bind_some, hchecked, hdiscount]
    rfl

/-! ### The rows of an accepted sheet -/

section Accepted

variable {allowedSegments : List String} {read : Cell → Option Timestamp}
  (hchecked : EadChecked env eadDf allowedSegments)
  (hfilled : ∀ r ∈ eadDf.rows, ∀ name ∈ eadDf.columns, r.cell name ≠ .blank)
  (hlgd : LgdInRange env lgdDf) (hnumbers : ReadsNumbers env)

include hchecked hlgd hnumbers in
/-- The numbers of a merged row. -/
lemma floatIn_of_mem_mergeLgd {m : MergedRow} (hm : m ∈ mergeLgd env eadDf lgdDf) :
    FloatIn env (fun q => 0 ≤ q) m.outstandingAmount ∧
      FloatIn env (fun q => 0 ≤ q ∧ q ≤ 1) m.eir ∧ FloatIn env (fun q => 0 ≤ q) m.collateral := by
  obtain ⟨record, hrecord, lgd, hmem, rfl⟩ := mem_mergeLgd hm
  have hrow : ∀ l ∈ lgd, ∃ r ∈ lgdDf.rows, l = lgdRow lgdDf r := by
    intro l hl
    obtain ⟨r, hr, rfl⟩ := List.mem_map.mp (mem_of_mem_dropDuplicates _ (hmem l hl))
    exact ⟨r, hr, rfl⟩
  refine ⟨?_, ?_, ?_⟩
  · intro v hv
    obtain ⟨x, hx, hmin, -⟩ := (hchecked.outstanding record hrecord).floatIn hnumbers v hv
    exact ⟨x, hx, hmin 0 rfl⟩
  · have heffective : FloatIn env (fun q => 0 ≤ q ∧ q ≤ 1)
        (eadRow env eadDf record).effectiveRate := by
      intro v hv
      obtain ⟨x, hx, hmin, hmax⟩ := (hchecked.rate record hrecord).floatIn hnumbers v hv
      exact ⟨x, hx, hmin 0 rfl, hmax 1 rfl⟩
    have hown : FloatIn env (fun q => 0 ≤ q ∧ q ≤ 1)
        ((lgd.elim .blank LgdRow.eir).fillNa (eadRow env eadDf record).effectiveRate) := by
      refine FloatIn.fillNa (fun hblank => ?_) heffective
      cases lgd with
      | none => exact absurd rfl hblank
      | some l =>
          obtain ⟨r, hr, rfl⟩ := hrow l rfl
          have heir : (lgdRow lgdDf r).eir = r.cell "EIR" := if_pos hlgd.eir_column
          rw [Option.elim_some, heir] at hblank ⊢
          exact hlgd.rates r hr hblank
    -- a rate of the sheet's own column `EIR` is not used beside that of the table
    simp only [mergedRow, mergedEir, decide_eq_true hlgd.eir_column]
    split
    · simp_all
    · exact hown
    · exact heffective
  · refine FloatIn.fillNa (fun hblank => ?_) ?_
    · cases lgd with
      | none => exact absurd rfl hblank
      | some l =>
          obtain ⟨r, hr, rfl⟩ := hrow l rfl
          exact hlgd.sums r hr hblank
    · intro v hv
      exact ⟨0, (Except.ok.inj hv).symm, le_rfl⟩

include hchecked hfilled hlgd hnumbers in
/-- The numbers of the snapshots of a run. -/
lemma termInRange_of_run (hread : ReadsDates env eadDf read)
    (hcoerce : ∀ name ∈ dateColumns,
      env.coerceDatetime (eadDf.column name) = (eadDf.column name).map read)
    (run : EadRun env eadDf pdTable lgdDf out)
    (hterms : withTerms env (expandDated run.dated) = .ok run.terms) :
    ∀ t ∈ run.terms, TermInRange env t := by
  intro t ht
  obtain ⟨hamount, hrate, hcover⟩ :=
    floatIn_of_mem_mergeLgd hchecked hlgd hnumbers (run.toMergedRow_mem ht)
  have hrows : ∀ s ∈ expandDated run.dated, ∃ r ∈ eadDf.rows, s.toEadRow = eadRow env eadDf r := by
    intro s hs
    rw [← run.terms_eq] at hs
    obtain ⟨u, hu, rfl⟩ := List.mem_map.mp hs
    exact mem_column_of_mem_mergeLgd (run.toMergedRow_mem hu)
  rw [withTerms_eq_map hread hrows hterms] at ht
  obtain ⟨s, hs, rfl⟩ := List.mem_map.mp ht
  obtain ⟨r, hr, hrow⟩ := hrows s hs
  have hdate : ∀ name ∈ dateColumns, ∃ date, read (r.cell name) = some date := fun name hname =>
    hchecked.exists_read hcoerce hr hname (hfilled r hr name
      (hchecked.columns name (mem_eadRequiredColumns (List.mem_append_right _ hname))))
  obtain ⟨reporting, hreporting⟩ := hdate "Reporting Date" (by decide)
  obtain ⟨first, hfirst⟩ := hdate "First Payment Date" (by decide)
  obtain ⟨adjusted, hadjusted⟩ := hdate "Adjusted Maturity Date" (by decide)
  refine ⟨hamount, hrate, hcover, ?_⟩
  have hrep : (termOf read s).reporting = some reporting := by
    rw [← hreporting, show (termOf read s).reporting = read s.toEadRow.reportingDate from rfl, hrow]
    rfl
  have hfst : (termOf read s).firstPayment = some first := by
    rw [← hfirst, show (termOf read s).firstPayment = read s.toEadRow.firstPaymentDate from rfl, hrow]
    rfl
  have hadj : (termOf read s).adjustedMaturity = some adjusted := by
    rw [← hadjusted, show (termOf read s).adjustedMaturity
      = read s.toEadRow.adjustedMaturityDate from rfl, hrow]
    rfl
  rw [TermRow.remaining, hrep, hfst, hadj]
  exact ⟨_, rfl⟩

end Accepted

/-- **The rows of an accepted sheet**: with an LGD table in range and a PD table from amounts that
are not negative, every row is in its bounds, and no formula divides by zero. -/
theorem rows_in_bounds {pdDf : Frame} {pdOut : PdOutput} {sheetName : String}
    {allowedSegments : List String} {read : Cell → Option Timestamp}
    (hvalid : (validateEad env eadDf sheetName allowedSegments).isValid = true)
    (hfilled : ∀ r ∈ eadDf.rows, ∀ name ∈ eadDf.columns, r.cell name ≠ .blank)
    (hamounts : NonnegAmounts env (pdDf.column "Loan Amount"))
    (hpd : computePd env pdDf = .ok pdOut) (hlgd : LgdInRange env lgdDf)
    (h : computeEad env eadDf pdOut.table lgdDf = .ok (out, warnings))
    (hnumbers : ReadsNumbers env) (hread : ReadsDates env eadDf read)
    (hcoerce : ∀ name ∈ dateColumns,
      env.coerceDatetime (eadDf.column name) = (eadDf.column name).map read) :
    (∀ r ∈ out, RowInBounds r) ∧
      checkedEad env eadDf pdOut.table lgdDf = .ok (out, warnings) := by
  have hchecked := eadChecked_of_isValid hvalid
  obtain ⟨rows, hrows, -, rfl⟩ := readPdRows_of_computePd hpd
  have hpositive := loanAmount_nonneg hrows hamounts
  have htable : ∀ t ∈ (pdOutput env rows).table,
      (0 ≤ t.marginalPd ∧ t.marginalPd ≤ 1) ∧ 0 ≤ t.cureRate ∧ t.cureRate ≤ 1 := by
    intro t ht
    refine ⟨(pdOutput_sound hpositive).marginal_mem t ht, ?_⟩
    obtain ⟨segment, -, st, n, -, rfl⟩ := mem_table.mp ht
    exact cureRatesOf_mem hpositive segment
  -- each row of a run is made of a walked snapshot with its numbers
  have hrow : ∀ run : EadRun env eadDf (pdOutput env rows).table lgdDf out,
      withTerms env (expandDated run.dated) = .ok run.terms →
      EadChecks env eadDf lgdDf (pdOutput env rows).table run.terms →
      ∀ w ∈ walkLoans env run.terms, ∀ pd : Option PdTableRow,
        (∀ t ∈ pd, t ∈ (pdOutput env rows).table) →
        RowInBounds (eclRow env (w, pd)) ∧ eclRow? env (w, pd) = some (eclRow env (w, pd)) := by
    intro run hterms hchecks w hw pd hpd
    have hrange := termInRange_of_run hchecked hfilled hlgd hnumbers hread hcoerce run hterms
    obtain ⟨hrate, hcover⟩ := exists_rate hrange hchecks.rows (toTermRow_mem hw)
    exact rowInBounds_eclRow (exists_balance_of_mem_walkLoans hrange hchecks.floats hchecks.rows hw)
      hrate hcover fun t ht => htable t (hpd t ht)
  constructor
  · intro r hr
    obtain ⟨run, -, ⟨-, hnone⟩ | ⟨-, hterms, hchecks, -⟩⟩ := exists_eadRun h
    · obtain ⟨w, hw, -⟩ := run.mem_out hr
      rw [hnone, walkLoans_nil] at hw
      cases hw
    · obtain ⟨w, hw, pd, hmem, rfl⟩ := run.mem_out hr
      exact (hrow run hterms hchecks w hw pd hmem).1
  · refine checkedEad_eq h fun run hterms hchecks => ⟨?_, ?_⟩
    · intro t ht
      have hrange := termInRange_of_run hchecked hfilled hlgd hnumbers hread hcoerce run hterms
      obtain ⟨i, hi, -⟩ := exists_instalment? hrange hchecks.floats hchecks.rows ht
      exact ⟨i, hi⟩
    · rintro ⟨w, pd⟩ hp
      obtain ⟨hw, hpd⟩ := (mem_leftJoin matchesPd).mp hp
      refine (hrow run hterms hchecks w hw pd ?_).2
      intro t ht
      rcases hpd with ⟨rfl, -⟩ | ⟨c, hc, -, rfl⟩
      · cases ht
      · obtain rfl : c = t := Option.some.inj ht
        exact hc

/-- The loan of the sample sheet. -/
theorem rows_in_bounds_sample :
    (∀ r ∈ [sampleEcl 0 9, sampleEcl 1 8], RowInBounds r) ∧
      checkedEad plainEnv sampleEadFrame (pdOutput plainEnv samplePdRows).table sampleLgdFrame
        = .ok ([sampleEcl 0 9, sampleEcl 1 8], []) := by
  have hzero : ∀ p : ℚ → Prop, p 0 → FloatIn plainEnv p (.num 0) := by
    intro p hp v hv
    exact ⟨0, (Except.ok.inj hv).symm, hp⟩
  have hnumbers : ReadsNumbers plainEnv := by
    intro c q v hq hv
    cases c with
    | num x =>
        obtain rfl : x = q := Option.some.inj hq
        exact (Except.ok.inj hv).symm
    | blank => cases hq
    | str s => cases hq
    | date t => cases hq
  refine @rows_in_bounds plainEnv sampleEadFrame sampleLgdFrame _ [] samplePdFrame
    (pdOutput plainEnv samplePdRows) "Data" [] plainDate (by decide) ?_ samplePdFrame_amounts
    computePd_sample ⟨by decide, ?_, ?_⟩ computeEad_sample hnumbers (readsDates_plainEnv _)
    fun name hname => rfl
  · intro r hr
    obtain rfl : r = ⟨0, sampleEadCell⟩ := List.mem_singleton.mp hr
    decide
  · intro r hr _
    obtain rfl := List.mem_singleton.mp hr
    exact hzero _ ⟨le_rfl, zero_le_one⟩
  · intro r hr _
    obtain rfl := List.mem_singleton.mp hr
    exact hzero _ le_rfl

end EclServer.Engine
