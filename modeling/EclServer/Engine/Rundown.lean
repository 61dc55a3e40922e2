import EclServer.Engine.LoanReference
import EclServer.Library.Rundown
import Mathlib.Data.List.GetD

/-!
The balance walk in closed form.

* `Frequency.interval`: the months between two instalments.
* `Cleared`: a payment that was missed finds the loan paid back, so that the factor for missed
  payments changes nothing (`balanceAfterMissedPayment_eq`).
* `balances_walkRows`: the balances of a walk are those of `balanceAfter`.
* `loanPeak`: the highest balance of a loan from its terms, and `isGreatest_loanPeak`.
-/

namespace EclServer.Engine

open EclServer.Library

/-- The months from one instalment to the next. -/
def Frequency.interval : Frequency → ℕ
  | .mth => 1
  | .qtr => 3

lemma Frequency.interval_pos (freq : Frequency) : 0 < freq.interval := by
  cases freq <;> decide

/-! ### One row -/

section Row

variable {monthlyRate instalment opening : Option ℚ} {freq : Frequency} {k : ℕ}

/-- A row with a balance bears interest, and an instalment where one is due. -/
lemma afterRepayment_eq_some {b : ℚ}
    (h : afterRepayment k opening monthlyRate instalment freq = some b) :
    ∃ x ∈ opening, ∃ r ∈ monthlyRate,
      ((k + 1) % freq.interval = 0 → ∃ i, instalment = some i) ∧
      b = max (x * (1 + r) - if (k + 1) % freq.interval = 0 then instalment.getD 0 else 0) 0 := by
  simp only [afterRepayment, bind, Option.bind_eq_some_iff] at h
  obtain ⟨x, hx, r, hr, i, hi, hb⟩ := h
  have hdue : (freq ≠ .qtr ∨ (k + 1) % 3 = 0) ↔ (k + 1) % freq.interval = 0 := by
    cases freq with
    | mth => simp [Frequency.interval, Nat.mod_one]
    | qtr => simp [Frequency.interval]
  refine ⟨x, hx, r, hr, ?_, ?_⟩
  · intro h
    rw [if_pos (decide_eq_true (hdue.mpr h))] at hi
    exact ⟨i, hi⟩
  · rw [← Option.some.inj hb]
    split_ifs with h
    · rw [if_pos (decide_eq_true (hdue.mpr h))] at hi
      rw [hi, Option.getD_some]
    · rw [if_neg (by simpa using fun hmonth => h (hdue.mp hmonth))] at hi
      rw [← Option.some.inj hi]

/-- A loan that is paid back stays so. -/
lemma afterRepayment_of_zero {b i : ℚ} (hinstalment : instalment = some i) (hi : 0 < i)
    (h : afterRepayment k (some 0) monthlyRate instalment freq = some b) : b = 0 := by
  obtain ⟨x, hx, r, -, -, rfl⟩ := afterRepayment_eq_some h
  obtain rfl : 0 = x := Option.some.inj hx
  rw [hinstalment, Option.getD_some, zero_mul, zero_sub]
  refine max_eq_right ?_
  split_ifs
  · exact neg_nonpos.mpr hi.le
  · exact neg_zero.le

/-- An instalment above the balance with its interest pays a loan back. -/
lemma afterRepayment_of_lt {b i x r : ℚ} (hinstalment : instalment = some i)
    (hrate : monthlyRate = some r) (hdue : (k + 1) % freq.interval = 0) (hlt : x * (1 + r) < i)
    (h : afterRepayment k (some x) monthlyRate instalment freq = some b) : b = 0 := by
  obtain ⟨x', hx, r', hr, -, rfl⟩ := afterRepayment_eq_some h
  obtain rfl : x = x' := Option.some.inj hx
  obtain rfl : r = r' := Option.some.inj (hrate.symm.trans hr)
  rw [if_pos hdue, hinstalment, Option.getD_some]
  exact max_eq_right (by linarith)

/-- The rows that are looked back to are payment rows. -/
lemma mem_lookback {p : ℕ} (h : p ∈ lookback k freq) : p < k ∧ (p + 1) % freq.interval = 0 := by
  cases freq with
  | mth =>
      have hrange := List.mem_range'_1.mp h
      exact ⟨by omega, Nat.mod_one _⟩
  | qtr =>
      obtain ⟨hlt, hdue⟩ := List.mem_filter.mp (List.mem_of_mem_drop h)
      exact ⟨List.mem_range.mp hlt, of_decide_eq_true hdue⟩

end Row

/-! ### Missed payments -/

/-- Where an earlier instalment was more than the balance with its interest, the loan is paid
back. -/
def Cleared (monthlyRate instalment : Option ℚ) (freq : Frequency) (prior : List (Option ℚ))
    (opening : Option ℚ) : Prop :=
  ∀ i ∈ instalment, 0 < i → ∀ r ∈ monthlyRate, ∀ p < prior.length,
    (p + 1) % freq.interval = 0 → ∀ x ∈ prior.getD p none, x * (1 + r) < i →
    ∀ b ∈ opening, b = 0

section Walk

variable {monthlyRate instalment opening : Option ℚ} {freq : Frequency}
  {prior : List (Option ℚ)}

lemma cleared_nil : Cleared monthlyRate instalment freq [] opening :=
  fun _ _ _ _ _ _ h => absurd h (Nat.not_lt_zero _)

/-- **One row of the walk** keeps a loan that is paid back so. -/
lemma Cleared.step (h : Cleared monthlyRate instalment freq prior opening) :
    Cleared monthlyRate instalment freq (prior ++ [opening])
      (afterRepayment prior.length opening monthlyRate instalment freq) := by
  intro i hi hpos r hr p hp hdue x hx hlt b hb
  have hopening : ∃ o, opening = some o := by
    obtain ⟨o, ho, -⟩ := afterRepayment_eq_some hb
    exact ⟨o, ho⟩
  obtain ⟨o, rfl⟩ := hopening
  rw [List.length_append, List.length_singleton] at hp
  rcases Nat.lt_succ_iff_lt_or_eq.mp hp with hearlier | rfl
  · rw [List.getD_append _ _ _ _ hearlier] at hx
    obtain rfl := h i hi hpos r hr p hearlier hdue x hx hlt o rfl
    exact afterRepayment_of_zero hi hpos hb
  · rw [List.getD_append_right _ _ _ _ le_rfl, Nat.sub_self] at hx
    obtain rfl : o = x := Option.some.inj hx
    exact afterRepayment_of_lt hi hr hdue hlt hb

lemma nanLt_eq_true {a b : Option ℚ} (h : nanLt a b = true) :
    ∃ x y, a = some x ∧ b = some y ∧ x < y := by
  cases a with
  | none => cases h
  | some x =>
      cases b with
      | none => cases h
      | some y => exact ⟨x, y, rfl, rfl, of_decide_eq_true h⟩

/-- A payment that counts as missed was more than the balance. -/
lemma exists_of_countMissedPeriods
    (h : countMissedPeriods prior monthlyRate instalment freq ≠ 0) :
    ∃ i ∈ instalment, 0 < i ∧ ∃ r ∈ monthlyRate, ∃ p < prior.length,
      (p + 1) % freq.interval = 0 ∧ ∃ x ∈ prior.getD p none, x * (1 + r) < i := by
  rw [countMissedPeriods] at h
  split at h
  · exact absurd rfl h
  rename_i hnot
  have hmissed : ∃ p ∈ lookback prior.length freq, nanLt (do
      return (← prior.getD p none) * (1 + (← monthlyRate)) + missedEps) instalment = true := by
    by_contra hnone
    refine h ?_
    rw [List.filter_eq_nil_iff.mpr fun p hp hlt => hnone ⟨p, hp, hlt⟩]
    rfl
  obtain ⟨p, hlook, hmissed⟩ := hmissed
  obtain ⟨hlt, hdue⟩ := mem_lookback hlook
  obtain ⟨a, i, hbalance, rfl, hless⟩ := nanLt_eq_true hmissed
  simp only [bind, Option.bind_eq_some_iff] at hbalance
  obtain ⟨x, hx, r, hr, ha⟩ := hbalance
  have heps : (0 : ℚ) < missedEps := by norm_num [missedEps]
  have hpos : 0 < i := by simpa using hnot
  rw [← Option.some.inj ha] at hless
  exact ⟨i, rfl, hpos, r, hr, p, hlt, hdue, x, hx, by linarith⟩

/-- The factor for missed payments is one, or the balance is zero. -/
lemma Cleared.afterMissed_eq (h : Cleared monthlyRate instalment freq prior opening) :
    (do return (← afterRepayment prior.length opening monthlyRate instalment freq)
        * (1 + (← monthlyRate)) ^ countMissedPeriods prior monthlyRate instalment freq)
      = afterRepayment prior.length opening monthlyRate instalment freq := by
  cases hafter : afterRepayment prior.length opening monthlyRate instalment freq with
  | none => rfl
  | some b =>
      obtain ⟨o, ho, r, hr, -⟩ := afterRepayment_eq_some hafter
      obtain rfl : monthlyRate = some r := hr
      by_cases hmissed : countMissedPeriods prior (some r) instalment freq = 0
      · simp [hmissed]
      · obtain ⟨i, hi, hpos, r', hr', p, hp, hdue, x, hx, hlt⟩ :=
          exists_of_countMissedPeriods hmissed
        obtain rfl := h i hi hpos r' hr' p hp hdue x hx hlt o ho
        obtain rfl : opening = some 0 := ho
        obtain rfl := afterRepayment_of_zero hi hpos hafter
        simp

/-- **Missed payments change no balance.** -/
lemma balanceAfterMissedPayment_eq {rs : List TermRow} {w : WalkedRow}
    (hcleared : Cleared monthlyRate instalment freq prior opening)
    (hw : w ∈ walkRows monthlyRate instalment freq prior opening rs) :
    w.balanceAfterMissedPayment = w.balanceAfterRepayment := by
  induction rs generalizing prior opening with
  | nil => simp [walkRows] at hw
  | cons t rs ih =>
      rw [walkRows] at hw
      rcases List.mem_cons.mp hw with rfl | hw
      · exact hcleared.afterMissed_eq
      · exact ih hcleared.step hw

/-! ### The balances of a walk -/

/-- **The balances of a walk** that has them all. -/
lemma balances_walkRows {r x : ℚ} (hrate : 0 ≤ r) (hx : 0 ≤ x) {rs : List TermRow}
    (hopening : opening = some
      (balanceAfter freq.interval (1 + r) (instalment.getD 0) x prior.length))
    (hsome : ∀ w ∈ walkRows (some r) instalment freq prior opening rs,
      w.balanceAfterRepayment ≠ none) :
    (walkRows (some r) instalment freq prior opening rs).map (·.balanceAfterRepayment)
      = (List.range' prior.length rs.length).map fun k =>
        some (balanceAfter freq.interval (1 + r) (instalment.getD 0) x (k + 1)) := by
  induction rs generalizing prior opening with
  | nil => rfl
  | cons t rs ih =>
      rw [walkRows] at hsome ⊢
      have hafter : afterRepayment prior.length opening (some r) instalment freq
          = some (balanceAfter freq.interval (1 + r) (instalment.getD 0) x (prior.length + 1)) := by
        obtain ⟨b, hb⟩ := Option.ne_none_iff_exists'.mp (hsome _ List.mem_cons_self)
        obtain ⟨o, ho, r', hr', -, hmax⟩ := afterRepayment_eq_some hb
        obtain rfl : r = r' := Option.some.inj hr'
        obtain rfl := Option.some.inj (hopening.symm.trans ho)
        rw [balanceAfter_succ freq.interval_pos (by linarith) hx, ← hmax]
        exact hb
      have hlength : (prior ++ [opening]).length = prior.length + 1 := by simp
      have htail := @ih _ (prior ++ [opening]) (by rw [hlength]; exact hafter)
        fun w hw => hsome w (List.mem_cons_of_mem _ hw)
      rw [List.map_cons, htail, hlength, List.length_cons, List.range'_succ, List.map_cons]
      exact congrArg (· :: _) hafter

/-- **The highest balance of a walk** that starts with an amount. -/
lemma isGreatest_walkRows {r x : ℚ} (hrate : 0 ≤ r) (hx : 0 ≤ x) {rs : List TermRow}
    (hrows : rs ≠ [])
    (hsome : ∀ w ∈ walkRows (some r) instalment freq [] (some x) rs,
      w.balanceAfterMissedPayment ≠ none) :
    IsGreatest {b | ∃ w ∈ walkRows (some r) instalment freq [] (some x) rs,
        w.balanceAfterMissedPayment = some b}
      (peakBalance freq.interval (1 + r) (instalment.getD 0) x rs.length) := by
  have heq : ∀ w ∈ walkRows (some r) instalment freq [] (some x) rs,
      w.balanceAfterMissedPayment = w.balanceAfterRepayment :=
    fun w hw => balanceAfterMissedPayment_eq cleared_nil hw
  have hbalances := @balances_walkRows instalment (some x) freq [] r x hrate hx rs (by simp)
    (fun w hw => heq w hw ▸ hsome w hw)
  have hset : {b | ∃ w ∈ walkRows (some r) instalment freq [] (some x) rs,
        w.balanceAfterMissedPayment = some b}
      = (fun k => balanceAfter freq.interval (1 + r) (instalment.getD 0) x (k + 1)) ''
        Set.Iio rs.length := by
    ext b
    constructor
    · rintro ⟨w, hw, hb⟩
      have hmem := List.mem_map_of_mem (f := (·.balanceAfterRepayment)) hw
      rw [hbalances, ← heq w hw, hb] at hmem
      obtain ⟨k, hk, hbk⟩ := List.mem_map.mp hmem
      exact ⟨k, by simpa using hk, Option.some.inj hbk⟩
    · rintro ⟨k, hk, rfl⟩
      have hmem : some (balanceAfter freq.interval (1 + r) (instalment.getD 0) x (k + 1))
          ∈ (walkRows (some r) instalment freq [] (some x) rs).map (·.balanceAfterRepayment) := by
        rw [hbalances]
        exact List.mem_map.mpr ⟨k, by simpa using hk, rfl⟩
      obtain ⟨w, hw, hb⟩ := List.mem_map.mp hmem
      exact ⟨w, hw, (heq w hw).trans hb⟩
  rw [hset]
  exact isGreatest_peakBalance freq.interval_pos (List.length_pos_iff.mpr hrows)
    (by linarith) hx

end Walk

/-! ### The highest balance of a loan -/

/-- The highest balance of a loan, from its rate, its instalment, its amount and the number of
its snapshots. -/
def loanPeak (env : PyEnv) (terms : List TermRow) (loanKey : String) : ℚ :=
  let group := byDate (groupBy (TermRow.loanKey env) terms loanKey)
  match group with
  | [] => 0
  | first :: _ =>
      peakBalance first.freq.interval (1 + (floatOf env first.eir).getD 0 / 12)
        ((instalmentOf env terms loanKey).getD 0)
        ((floatOf env first.outstandingAmount).getD 0) group.length

section Loan

variable {env : PyEnv} {terms : List TermRow} {loanKey : String}

/-- The rows of a loan among all walked rows. -/
lemma mem_walkLoans_iff {w : WalkedRow} :
    w ∈ walkLoans env terms ∧ w.loanKey env = loanKey
      ↔ w ∈ walkLoan env (instalmentOf env terms loanKey)
        (groupBy (TermRow.loanKey env) terms loanKey) := by
  have hkey : ∀ {loanKey : String} {w : WalkedRow},
      w ∈ walkLoan env (instalmentOf env terms loanKey)
        (groupBy (TermRow.loanKey env) terms loanKey) →
      w.toTermRow ∈ terms ∧ w.loanKey env = loanKey := by
    intro loanKey w hw
    have hmem := List.mem_map_of_mem (f := (·.toTermRow)) hw
    rw [map_walkLoan, byDate, mem_sortByKey, mem_groupBy] at hmem
    exact hmem
  constructor
  · rintro ⟨hw, rfl⟩
    obtain ⟨loanKey', -, hw⟩ := List.mem_flatMap.mp hw
    rwa [(hkey hw).2]
  · intro hw
    obtain ⟨hmem, rfl⟩ := hkey hw
    refine ⟨List.mem_flatMap.mpr ⟨_, ?_, hw⟩, rfl⟩
    rw [mem_sortByKey, mem_groupKeys]
    exact ⟨w.toTermRow, hmem, rfl⟩

/-- **The highest balance of a loan**, where amounts and rates are not negative. -/
theorem isGreatest_loanPeak (hkey : loanKey ∈ groupKeys (TermRow.loanKey env) terms)
    (hsome : ∀ w ∈ walkLoans env terms, w.balanceAfterMissedPayment ≠ none)
    (hamounts : ∀ t ∈ terms, ∀ q ∈ floatOf env t.outstandingAmount, 0 ≤ q)
    (hrates : ∀ t ∈ terms, ∀ e ∈ floatOf env t.eir, 0 ≤ e) :
    IsGreatest {b | ∃ w ∈ walkLoans env terms, w.loanKey env = loanKey ∧
      w.balanceAfterMissedPayment = some b} (loanPeak env terms loanKey) := by
  have hrows : ∀ b : ℚ, (∃ w ∈ walkLoans env terms, w.loanKey env = loanKey ∧
        w.balanceAfterMissedPayment = some b)
      ↔ ∃ w ∈ walkLoan env (instalmentOf env terms loanKey)
        (groupBy (TermRow.loanKey env) terms loanKey), w.balanceAfterMissedPayment = some b := by
    intro b
    simp only [← mem_walkLoans_iff, and_assoc]
  have hmem : ∀ t ∈ byDate (groupBy (TermRow.loanKey env) terms loanKey), t ∈ terms :=
    fun t ht => ((mem_groupBy _).mp ((mem_sortByKey _).mp ht)).1
  have hsome' : ∀ w ∈ walkLoan env (instalmentOf env terms loanKey)
      (groupBy (TermRow.loanKey env) terms loanKey), w.balanceAfterMissedPayment ≠ none :=
    fun w hw => hsome w (mem_walkLoans_iff.mpr hw).1
  simp only [hrows, loanPeak]
  rw [walkLoan] at hsome' ⊢
  cases hgroup : byDate (groupBy (TermRow.loanKey env) terms loanKey) with
  | nil =>
      -- the loan has a snapshot
      obtain ⟨t, ht, htkey⟩ := (mem_groupKeys _).mp hkey
      have hin : t ∈ byDate (groupBy (TermRow.loanKey env) terms loanKey) :=
        (mem_sortByKey _).mpr ((mem_groupBy _).mpr ⟨ht, htkey⟩)
      rw [hgroup] at hin
      cases hin
  | cons first rest =>
      rw [hgroup] at hmem hsome'
      have hfirst := hmem first List.mem_cons_self
      -- the first row has a balance, and so the loan has an amount and a rate
      obtain ⟨b, hb⟩ := Option.ne_none_iff_exists'.mp (hsome' _ List.mem_cons_self)
      simp only [bind, Option.bind_eq_some_iff] at hb
      obtain ⟨a, ha, -⟩ := hb
      obtain ⟨x, hx, r, hr, -⟩ := afterRepayment_eq_some ha
      obtain ⟨e, he, rfl⟩ := Option.map_eq_some_iff.mp hr
      have hamount : floatOf env first.outstandingAmount = some x := hx
      have hrate := hrates first hfirst e he
      simp only [hamount, he, Option.map_some] at hsome' ⊢
      exact isGreatest_walkRows (by positivity) (hamounts first hfirst x hamount)
        (List.cons_ne_nil _ _) hsome'

end Loan

end EclServer.Engine
