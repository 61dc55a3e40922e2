import EclServer.Engine.Rundown

/-!
What the instalments of a loan pay back.

* `AnnuityPmt`: `numpy_financial.pmt` is the annuity formula. `periodInstalment_eq`: the instalment
  is then the level one of its frequency.
* `getElem?_walkRows`: the balance of a row of the walk, in closed form.
* `monthly_amortisation`: a monthly loan is paid back by the last of its remaining months.
* `quarterly_residual`: a quarterly one is not, where it bears interest: its instalment is made for
  a quarter of the rate every three months, and it bears a twelfth of it every month.
* `missed_payments_void`: where a payment counts as missed, nothing is owed any more.
-/

namespace EclServer.Engine

open EclServer.Library

/-- `numpy_financial.pmt` with nothing left at the end, at a rate that is not zero. -/
def AnnuityPmt (env : PyEnv) : Prop :=
  ∀ (rate : ℚ) (periods : ℤ) (pv : ℚ), rate ≠ 0 →
    env.pmt rate periods pv = -(pv * (1 + rate) ^ periods * rate / ((1 + rate) ^ periods - 1))

lemma annuityPmt_plainEnv : AnnuityPmt plainEnv := fun _ _ _ _ => rfl

/-- The part of the annual rate that an instalment is made for. -/
def Frequency.periodRate (freq : Frequency) (e : ℚ) : ℚ :=
  match freq with
  | .mth => e / 12
  | .qtr => e / 4

section

variable {env : PyEnv} {B e : ℚ} {n : ℕ}

/-- **The instalment** of a loan with `n` payments left is the level one. -/
lemma periodInstalment_eq (hpmt : AnnuityPmt env) (hn : 0 < n) (freq : Frequency) :
    periodInstalment env (some B) (some e) (some (freq.interval * n : ℕ)) freq
      = some (levelInstalment (freq.periodRate e) B n) := by
  have hlevel : ∀ rate : ℚ, (if rate = 0 then some (B / (n : ℤ)) else some (-(env.pmt rate n B)))
      = some (levelInstalment rate B n) := by
    intro rate
    rw [levelInstalment]
    split_ifs with hzero
    · rw [Int.cast_natCast]
    · rw [hpmt rate n B hzero, neg_neg, zpow_natCast]
  cases freq with
  | mth =>
      have hleft : ¬ (some ((1 * n : ℕ) : ℤ)).any (· ≤ 0) = true := by
        simp only [Option.any_some, decide_eq_true_eq]
        omega
      rw [periodInstalment, Frequency.interval, if_neg hleft, Nat.one_mul]
      exact hlevel (e / 12)
  | qtr =>
      have hperiods : max 1 (((some ((3 * n : ℕ) : ℤ)).map (· / 3)).getD 1) = (n : ℤ) := by
        rw [Option.map_some, Option.getD_some]
        omega
      rw [periodInstalment, Frequency.interval, hperiods]
      exact hlevel (e / 4)

/-! ### The rows of a walk -/

section Walk

variable {r i x : ℚ} {freq : Frequency} {prior : List (Option ℚ)} {rs : List TermRow}

/-- A walk that has its terms has all balances. -/
lemma balanceAfterRepayment_ne_none {w : WalkedRow}
    (hw : w ∈ walkRows (some r) (some i) freq prior (some x) rs) :
    w.balanceAfterRepayment ≠ none := by
  induction rs generalizing prior x with
  | nil => simp [walkRows] at hw
  | cons t rs ih =>
      have hafter : ∃ y, afterRepayment prior.length (some x) (some r) (some i) freq = some y := by
        rw [afterRepayment]
        split_ifs <;> exact ⟨_, rfl⟩
      obtain ⟨y, hy⟩ := hafter
      rw [walkRows] at hw
      rcases List.mem_cons.mp hw with rfl | hw
      · show afterRepayment prior.length (some x) (some r) (some i) freq ≠ none
        rw [hy]
        exact Option.some_ne_none y
      · rw [hy] at hw
        exact ih hw

/-- **The balance of a row.** -/
lemma getElem?_walkRows (hr : 0 ≤ r) (hx : 0 ≤ x) {k : ℕ} {w : WalkedRow}
    (hw : (walkRows (some r) (some i) freq [] (some x) rs)[k]? = some w) :
    w.balanceAfterRepayment = some (balanceAfter freq.interval (1 + r) i x (k + 1)) := by
  have hbalances := @balances_walkRows (some i) (some x) freq [] r x hr hx rs (by simp)
    fun w hw => balanceAfterRepayment_ne_none hw
  have hrow := congrArg (fun l : List (Option ℚ) => l[k]?) hbalances
  simp only [List.getElem?_map, hw, Option.map_some] at hrow
  have hk : k < rs.length := by
    have hlt := (List.getElem?_eq_some_iff.mp hw).1
    have hlength := congrArg List.length
      (map_walkRows (some r) (some i) freq [] (some x) rs)
    rw [List.length_map] at hlength
    omega
  rw [List.getElem?_range' hk] at hrow
  simpa using hrow

/-- The balances that the rows before the `k`-th one opened with. -/
def openingsBefore (opening : Option ℚ) (walk : List WalkedRow) (k : ℕ) : List (Option ℚ) :=
  (opening :: walk.map (·.balanceAfterRepayment)).take k

/-- A row of the walk, by the balances that the rows before it opened with; what holds of them at
the first row holds of them there. -/
lemma exists_opening {monthlyRate instalment opening : Option ℚ} {k : ℕ} {w : WalkedRow}
    (hw : (walkRows monthlyRate instalment freq prior opening rs)[k]? = some w)
    (hcleared : Cleared monthlyRate instalment freq prior opening) :
    ∃ before o, before = prior ++ openingsBefore opening
        (walkRows monthlyRate instalment freq prior opening rs) k ∧
      Cleared monthlyRate instalment freq before o ∧
      w.balanceAfterRepayment = afterRepayment before.length o monthlyRate instalment freq ∧
      w.balanceAfterMissedPayment = (do return (← w.balanceAfterRepayment)
        * (1 + (← monthlyRate)) ^ countMissedPeriods before monthlyRate instalment freq) := by
  induction rs generalizing prior opening k with
  | nil => simp [walkRows] at hw
  | cons t rs ih =>
      rw [walkRows] at hw ⊢
      cases k with
      | zero =>
          rw [List.getElem?_cons_zero, Option.some.injEq] at hw
          subst hw
          refine ⟨prior, opening, ?_, hcleared, rfl, rfl⟩
          rw [openingsBefore, List.take_zero, List.append_nil]
      | succ k =>
          rw [List.getElem?_cons_succ] at hw
          obtain ⟨before, o, hbefore, hrest⟩ := ih hw hcleared.step
          refine ⟨before, o, ?_, hrest⟩
          rw [hbefore, openingsBefore, openingsBefore, List.take_succ_cons, List.map_cons,
            List.append_assoc, List.singleton_append]

end Walk

/-! ### The terms of a loan -/

/-- The snapshots of a loan have its terms, of which `months` are left. -/
def LoanTerms (env : PyEnv) (terms : List TermRow) (loanKey : String) (freq : Frequency) (B e : ℚ)
    (months : ℤ) : Prop :=
  ∀ t ∈ terms, t.loanKey env = loanKey → floatOf env t.outstandingAmount = some B ∧
    floatOf env t.eir = some e ∧ t.freq = freq ∧ t.remaining = some months

/-- The walk of a loan with its instalment, as `walkLoans` makes it. -/
def walkOf (env : PyEnv) (terms : List TermRow) (loanKey : String) : List WalkedRow :=
  walkLoan env (instalmentOf env terms loanKey) (groupBy (TermRow.loanKey env) terms loanKey)

variable {terms : List TermRow} {loanKey : String} {freq : Frequency} {months : ℤ}

/-- The instalment of a loan that has a snapshot. -/
lemma LoanTerms.instalmentOf_eq (h : LoanTerms env terms loanKey freq B e months)
    (hsome : groupBy (TermRow.loanKey env) terms loanKey ≠ []) :
    instalmentOf env terms loanKey = periodInstalment env (some B) (some e) (some months) freq := by
  obtain ⟨t, ht⟩ := List.exists_mem_of_ne_nil _ hsome
  obtain ⟨htmem, rfl⟩ := (mem_groupBy _).mp ht
  obtain ⟨loan, hloan, hkey, hinstalment⟩ := @exists_instalmentOf env _ _ htmem
  obtain ⟨hamount, hrate, hfreq, hmonths⟩ := h loan (mem_of_mem_dropDuplicates _ hloan) hkey
  rw [hinstalment, hamount, hrate, hfreq, hmonths]

/-- **The walk of a loan**, of its terms. -/
lemma LoanTerms.walkOf_eq (h : LoanTerms env terms loanKey freq B e months) :
    walkOf env terms loanKey = walkRows (some (e / 12))
      (periodInstalment env (some B) (some e) (some months) freq) freq [] (some B)
      (byDate (groupBy (TermRow.loanKey env) terms loanKey)) := by
  rw [walkOf, walkLoan]
  split
  · rename_i hnil
    rw [hnil, walkRows]
  · rename_i first rest hcons
    have hmem : first ∈ groupBy (TermRow.loanKey env) terms loanKey := by
      have hfirst : first ∈ byDate (groupBy (TermRow.loanKey env) terms loanKey) := by
        rw [hcons]
        exact List.mem_cons_self
      exact (mem_sortByKey _).mp hfirst
    obtain ⟨hterm, hkey⟩ := (mem_groupBy _).mp hmem
    obtain ⟨hamount, hrate, hfreq, -⟩ := h first hterm hkey
    rw [h.instalmentOf_eq (List.ne_nil_of_mem hmem), hamount, hrate, hfreq, hcons]
    rfl

/-! ### Monthly loans -/

/-- The walk pays `B` back in `n` months at the monthly rate `r`. -/
structure Amortises (walk : List WalkedRow) (B r : ℚ) (n : ℕ) : Prop where
  with_interest : 0 < r → ∀ k < n, ∀ w : WalkedRow, w ∈ walk[k]? → w.balanceAfterRepayment
    = some (B * ((1 + r) ^ n - (1 + r) ^ (k + 1)) / ((1 + r) ^ n - 1))
  without_interest : r = 0 → ∀ k < n, ∀ w : WalkedRow, w ∈ walk[k]? → w.balanceAfterRepayment
    = some (B * (1 - (k + 1) / n))
  paid_back : ∀ k : ℕ, n ≤ k → ∀ w : WalkedRow, w ∈ walk[k]? → w.balanceAfterRepayment = some 0
  antitone : ∀ k l : ℕ, k ≤ l → ∀ w v : WalkedRow, w ∈ walk[k]? → v ∈ walk[l]? → ∃ b c,
    w.balanceAfterRepayment = some b ∧ v.balanceAfterRepayment = some c ∧ c ≤ b
  nonneg : ∀ w ∈ walk, ∃ b, w.balanceAfterRepayment = some b ∧ 0 ≤ b
  last : ∀ w : WalkedRow, w ∈ walk[n - 1]? → w.balanceAfterRepayment = some 0

/-- **Monthly amortisation**: the balances of a monthly loan are those of the annuity, down to zero
with the last of its remaining months, and they stay there. -/
theorem monthly_amortisation (hpmt : AnnuityPmt env)
    (hloan : LoanTerms env terms loanKey .mth B e n) (hB : 0 ≤ B) (he : 0 ≤ e) (hn : 1 ≤ n) :
    Amortises (walkOf env terms loanKey) B (e / 12) n := by
  have hr : 0 ≤ e / 12 := by positivity
  have hinstalment : periodInstalment env (some B) (some e) (some (n : ℤ)) .mth
      = some (levelInstalment (e / 12) B n) := by
    have hlevel := @periodInstalment_eq env B e n hpmt hn .mth
    rwa [Frequency.interval, Nat.one_mul] at hlevel
  have hrow : ∀ k, ∀ w ∈ (walkOf env terms loanKey)[k]?, w.balanceAfterRepayment
      = some ((pay (1 + e / 12) (levelInstalment (e / 12) B n))^[k + 1] B) := by
    intro k w hw
    rw [hloan.walkOf_eq, hinstalment] at hw
    have hbalance := getElem?_walkRows hr hB hw
    rwa [balanceAfter, Frequency.interval, pow_one, Nat.div_one, Nat.mod_one, pow_zero,
      mul_one] at hbalance
  have hlevel : ∀ k < n, ∀ w ∈ (walkOf env terms loanKey)[k]?, w.balanceAfterRepayment
      = some (levelBalance (e / 12) B n (k + 1)) := by
    intro k hk w hw
    rw [hrow k w hw, iterate_pay_levelInstalment hr hB hn hk]
  have hpaid : ∀ k, n ≤ k + 1 → ∀ w ∈ (walkOf env terms loanKey)[k]?,
      w.balanceAfterRepayment = some 0 := by
    intro k hk w hw
    rw [hrow k w hw, iterate_pay_after hr hB hn hk]
  have hcover : B * (1 + e / 12) - levelInstalment (e / 12) B n ≤ B := by
    have hfirst := antitone_levelBalance hr hB hn (Nat.zero_le 1)
    rwa [levelBalance_succ hr hn, levelBalance_zero hr hn] at hfirst
  refine ⟨?_, ?_, fun k hk => hpaid k (by omega), ?_, ?_, hpaid (n - 1) (by omega)⟩
  · intro hpos k hk w hw
    rw [hlevel k hk w hw, levelBalance, if_neg hpos.ne']
  · intro hzero k hk w hw
    rw [hlevel k hk w hw, levelBalance, if_pos hzero, Nat.cast_succ]
  · intro k l hkl w v hw hv
    exact ⟨_, _, hrow k w hw, hrow l v hv,
      antitone_iterate_pay (by positivity) hB hcover (Nat.succ_le_succ hkl)⟩
  · intro w hw
    obtain ⟨k, hk⟩ := List.mem_iff_getElem?.mp hw
    exact ⟨_, hrow k w hk, iterate_pay_nonneg hB (k + 1)⟩

end

/-- A loan of 100 at 12 percent that has three months left, in its `k`-th month. -/
def interestTerm (freq : Frequency) (k : ℕ) : TermRow :=
  { sampleTerm k with
    outstandingAmount := .num 100
    eir := .num (12 / 100)
    freq := freq
    adjustedMaturity := some (firstOf 24292) }

def interestTerms (freq : Frequency) : List TermRow :=
  [interestTerm freq 0, interestTerm freq 1, interestTerm freq 2]

lemma loanTerms_interest (freq : Frequency) :
    LoanTerms plainEnv (interestTerms freq) "L" freq 100 (12 / 100) 3 := by
  intro t ht _
  simp only [interestTerms, List.mem_cons, List.not_mem_nil, or_false] at ht
  rcases ht with rfl | rfl | rfl <;> exact ⟨rfl, rfl, rfl, rfl⟩

lemma byDate_interest (freq : Frequency) :
    byDate (groupBy (TermRow.loanKey plainEnv) (interestTerms freq) "L") = interestTerms freq := by
  have hgroup : groupBy (TermRow.loanKey plainEnv) (interestTerms freq) "L" = interestTerms freq := by
    rfl
  rw [hgroup]
  refine sortByKey_of_sorted _ ?_
  cases freq <;> decide

theorem monthly_amortisation_sample :
    Amortises (walkOf plainEnv (interestTerms .mth) "L") 100 (12 / 100 / 12) 3 :=
  monthly_amortisation annuityPmt_plainEnv (loanTerms_interest .mth) (by norm_num) (by norm_num)
    (by norm_num)

section

variable {env : PyEnv} {B e : ℚ} {terms : List TermRow} {loanKey : String}

/-! ### Quarterly loans -/

/-- A quarter of the rate bears less than three twelfths of it one after the other. -/
lemma quarter_lt_months (he : 0 < e) : 1 + e / 4 < (1 + e / 12) ^ 3 := by
  have hsquare : 0 < e ^ 2 := by positivity
  have hcube : 0 < e ^ 3 := by positivity
  nlinarith

/-- **The residual of a quarterly loan**: after the last of its `p` instalments something is left
of it, unless it bears no interest or nothing was owed. -/
theorem quarterly_residual (hpmt : AnnuityPmt env) {p : ℕ}
    (hloan : LoanTerms env terms loanKey .qtr B e (3 * p : ℕ)) (hB : 0 ≤ B) (he : 0 ≤ e)
    (hp : 1 ≤ p) {w : WalkedRow} (hw : (walkOf env terms loanKey)[3 * p - 1]? = some w) :
    ∃ b, w.balanceAfterRepayment = some b ∧ 0 ≤ b ∧ (b = 0 ↔ B = 0 ∨ e = 0) := by
  have hr : 0 ≤ e / 12 := by positivity
  have hq : 0 ≤ e / 4 := by positivity
  have hinstalment : periodInstalment env (some B) (some e) (some ((3 * p : ℕ) : ℤ)) .qtr
      = some (levelInstalment (e / 4) B p) := periodInstalment_eq hpmt hp .qtr
  rw [hloan.walkOf_eq, hinstalment] at hw
  have hbalance := getElem?_walkRows hr hB hw
  have hlast : 3 * p - 1 + 1 = 3 * p := by omega
  rw [hlast, balanceAfter, Frequency.interval, Nat.mul_div_cancel_left p (by decide),
    Nat.mul_mod_right, pow_zero, mul_one] at hbalance
  refine ⟨_, hbalance, iterate_pay_nonneg hB p, ?_⟩
  constructor
  · intro hpaid
    by_contra hneither
    push Not at hneither
    obtain ⟨hBne, hene⟩ := hneither
    have hleft := iterate_pay_pos hq hp (lt_of_le_of_ne hB (Ne.symm hBne))
      (quarter_lt_months (lt_of_le_of_ne he (Ne.symm hene)))
    exact hleft.ne' hpaid
  · rintro (rfl | rfl)
    · exact iterate_pay_of_zero (levelInstalment_nonneg hq le_rfl hp) p
    · have hplain := @iterate_pay_after ℚ _ _ _ B p (0 / 4) hq hB hp p le_rfl
      rw [zero_div, add_zero] at hplain
      rwa [zero_div, zero_div, add_zero, one_pow]

end

/-- Of 100 at 12 percent, paid back in one quarter, three cents are left. -/
theorem quarterly_residual_fails :
    LoanTerms plainEnv (interestTerms .qtr) "L" .qtr 100 (12 / 100) 3 ∧
      ∃ w, (walkOf plainEnv (interestTerms .qtr) "L")[2]? = some w ∧
        w.balanceAfterRepayment = some (301 / 10000) := by
  refine ⟨loanTerms_interest .qtr, ?_⟩
  rw [(loanTerms_interest .qtr).walkOf_eq, byDate_interest]
  refine ⟨_, rfl, ?_⟩
  decide +kernel

theorem quarterly_residual_sample : ∃ w, (walkOf plainEnv (interestTerms .qtr) "L")[2]? = some w ∧
    ∃ b, w.balanceAfterRepayment = some b ∧ 0 ≤ b ∧ (b = 0 ↔ (100 : ℚ) = 0 ∨ (12 / 100 : ℚ) = 0) := by
  have hrow : ∃ w, (walkOf plainEnv (interestTerms .qtr) "L")[2]? = some w := by
    rw [(loanTerms_interest .qtr).walkOf_eq, byDate_interest]
    exact ⟨_, rfl⟩
  obtain ⟨w, hw⟩ := hrow
  exact ⟨w, hw, quarterly_residual (p := 1) annuityPmt_plainEnv (loanTerms_interest .qtr)
    (by norm_num) (by norm_num) le_rfl hw⟩

section

variable {env : PyEnv} {B e : ℚ}

/-! ### Missed payments -/

/-- **Missed payments have no effect**: at every row of a walk at which some payment counts as
missed, nothing is left after the repayment, and so the balance after missed payments is the one
after the repayment. -/
theorem missed_payments_void {group : List TermRow} {first : TermRow} {rest : List TermRow}
    (hgroup : byDate group = first :: rest) {i : ℚ}
    (hB : floatOf env first.outstandingAmount = some B) (he : floatOf env first.eir = some e)
    {k : ℕ} {w : WalkedRow} (hw : (walkLoan env (some i) group)[k]? = some w) :
    let missed := countMissedPeriods (openingsBefore (some B) (walkLoan env (some i) group) k)
      (some (e / 12)) (some i) first.freq
    w.balanceAfterMissedPayment = w.balanceAfterRepayment.map (· * (1 + e / 12) ^ missed) ∧
      (missed ≠ 0 → w.balanceAfterRepayment = some 0) ∧
      w.balanceAfterMissedPayment = w.balanceAfterRepayment := by
  have hwalk : walkLoan env (some i) group
      = walkRows (some (e / 12)) (some i) first.freq [] (some B) (first :: rest) := by
    rw [walkLoan, hgroup]
    simp only [he, hB, Option.map_some]
  rw [hwalk] at hw ⊢
  intro missed
  obtain ⟨before, o, hbefore, hcleared, hafter, hmissed⟩ := exists_opening hw cleared_nil
  rw [List.nil_append] at hbefore
  have hcount : missed = countMissedPeriods before (some (e / 12)) (some i) first.freq := by
    rw [hbefore]
  rw [← hcount] at hmissed
  obtain ⟨b, hb⟩ := Option.ne_none_iff_exists'.mp
    (balanceAfterRepayment_ne_none (List.mem_of_getElem? hw))
  refine ⟨?_, fun hpos => ?_, ?_⟩
  · rw [hmissed, hb]
    rfl
  · rw [hcount] at hpos
    obtain ⟨i', hi', hipos, r', hr', p, hp, hdue, x, hx, hlt⟩ := exists_of_countMissedPeriods hpos
    rw [hafter] at hb ⊢
    obtain ⟨y, hy, -⟩ := afterRepayment_eq_some hb
    obtain rfl : o = some y := hy
    obtain rfl := hcleared i' hi' hipos r' hr' p hp hdue x hx hlt y rfl
    rw [hb, afterRepayment_of_zero hi' hipos hb]
  · exact balanceAfterMissedPayment_eq cleared_nil (List.mem_of_getElem? hw)

end

/-- An instalment of 200 is missed a month after the loan of 100 is paid back. -/
theorem missed_payments_void_sample :
    ∃ w, (walkLoan plainEnv (some 200) (interestTerms .mth))[1]? = some w ∧
      countMissedPeriods (openingsBefore (some 100)
          (walkLoan plainEnv (some 200) (interestTerms .mth)) 1)
        (some (12 / 100 / 12)) (some 200) .mth = 1 ∧
      w.balanceAfterRepayment = some 0 ∧
      w.balanceAfterMissedPayment = w.balanceAfterRepayment := by
  have hgroup : byDate (interestTerms .mth) = interestTerms .mth := byDate_interest .mth
  have hwalk : walkLoan plainEnv (some 200) (interestTerms .mth)
      = walkRows (some (12 / 100 / 12)) (some 200) .mth [] (some 100) (interestTerms .mth) := by
    rw [walkLoan, hgroup]
    rfl
  obtain ⟨w, hw⟩ : ∃ w, (walkLoan plainEnv (some 200) (interestTerms .mth))[1]? = some w := by
    rw [hwalk]
    exact ⟨_, rfl⟩
  have hcount : countMissedPeriods (openingsBefore (some 100)
      (walkLoan plainEnv (some 200) (interestTerms .mth)) 1)
      (some (12 / 100 / 12)) (some 200) .mth = 1 := by
    rw [hwalk]
    decide +kernel
  obtain ⟨-, hzero, hsame⟩ := missed_payments_void (k := 1) hgroup rfl rfl hw
  refine ⟨w, hw, hcount, hzero ?_, hsame⟩
  have hone : ¬ (1 : ℕ) = 0 := by decide
  exact fun h => hone (hcount.symm.trans h)

end EclServer.Engine
