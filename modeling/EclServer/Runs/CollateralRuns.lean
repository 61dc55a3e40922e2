import EclServer.Engine.CollateralEad
import EclServer.Runs.Idempotence

/-!
Two runs that differ in their collateral.

* `LoanInputs`: the ranges of the loan data, `StoredPair`: stored LGD rows of the two runs.
* `forall₂_lgdResults`, `moreCover_loadLgdFrame`: the sums through the database and back.
* `discountedEcl_le_of_moreCollateral`: no row of the run with more collateral has a larger
  ECL.
-/

namespace EclServer.Runs

open EclServer.Library EclServer.Engine

/-- A run with given sheets, whose LGD stage has a configuration. -/
def runInput (env : PyEnv) (pdInput eadInput lgdInput : Frame) (config : List CollateralConfig) :
    RunInput where
  py := env
  pdInput := pdInput
  eadInput := eadInput
  lgdRows := lgdResultsOf env lgdInput config

/-- The ranges of the loan data of a run, as the validators check them: amounts that are not
negative and rates in `[0, 1]`, wherever there is a number. -/
structure LoanInputs (env : PyEnv) (pdInput eadInput lgdInput : Frame) : Prop where
  amounts : NonnegAmounts env (pdInput.column "Loan Amount")
  rates : ∀ record ∈ eadInput.rows, ∀ name ∈ eirAliases,
    ∀ q ∈ floatOf env (record.cell name), 0 ≤ q ∧ q ≤ 1
  lgd : LgdInputs env lgdInput

variable {env : PyEnv} {pdInput eadInput df₁ df₂ : Frame} {config₁ config₂ : List CollateralConfig}

/-! ### Stored shares -/

/-- The stored PD rows have shares. -/
lemma loadPdRow_mem {pd : List PdResult} (hin : LoanInputs env pdInput eadInput df₁)
    (h : (runEngines (runInput env pdInput eadInput df₁ config₁)).computePd = .ok pd) :
    ∀ t ∈ pd.map loadPdRow, 0 ≤ t.marginalPd ∧ t.cureRate ≤ 1 := by
  obtain ⟨output, houtput, h⟩ := bind_eq_ok.mp h
  obtain ⟨records, hrecords, h⟩ := bind_eq_ok.mp h
  have hstored : records = pd := by
    rw [insertUnique] at h
    split at h
    · exact Except.ok.inj h
    · cases h
  obtain ⟨rows, hread, _, rfl⟩ := readPdRows_of_computePd houtput
  have hamounts := loanAmount_nonneg hread hin.amounts
  intro t ht
  obtain ⟨r, hr, rfl⟩ := List.mem_map.mp ht
  rw [← hstored] at hr
  obtain ⟨row, hrow, hrecord⟩ := exists_of_mem_mapM hrecords hr
  have hmarginal := ((pdOutput_sound hamounts).marginal_mem row hrow).1
  obtain ⟨segment, _, st, n, _, rfl⟩ := mem_table.mp hrow
  have hcure := (cureRatesOf_mem hamounts segment).2
  obtain ⟨s1, _, hrecord⟩ := bind_eq_ok.mp hrecord
  obtain ⟨s2, _, hrecord⟩ := bind_eq_ok.mp hrecord
  obtain ⟨s3, _, hrecord⟩ := bind_eq_ok.mp hrecord
  obtain ⟨marginal, hmarginalStored, hrecord⟩ := bind_eq_ok.mp hrecord
  obtain ⟨cure, hcureStored, hrecord⟩ := bind_eq_ok.mp hrecord
  obtain rfl := Except.ok.inj hrecord
  refine ⟨numeric_nonneg hmarginalStored hmarginal, ?_⟩
  exact numeric_mono hcureStored (numeric_of_digits (10 ^ 8) (by norm_num) (by norm_num)) hcure

/-! ### Stored collateral -/

/-- Two stored rows: of the same loan, the second with no smaller sum. -/
structure StoredPair (r₁ r₂ : LgdResult) : Prop where
  loan_eq : r₁.loanId = r₂.loanId
  eir_eq : r₁.eir = r₂.eir
  sum_le : r₁.sumDiscountedCollat ≤ r₂.sumDiscountedCollat

lemma toFloat_ofNumber (x : Option ℚ) : (Cell.ofNumber x).toFloat env = .ok x := by
  cases x <;> rfl

/-- Rounding keeps the order of the sums. -/
lemma storedPair_of_lgdRecord {y₁ y₂ : Record} {r₁ r₂ : LgdResult} (h : LgdOutPair y₁ y₂)
    (h₁ : lgdRecord env y₁ = .ok r₁) (h₂ : lgdRecord env y₂ = .ok r₂) : StoredPair r₁ r₂ := by
  obtain ⟨sum₁, sum₂, hsum₁, hsum₂, hle⟩ := h.sum_le
  obtain ⟨eir₁, heir₁, h₁⟩ := bind_eq_ok.mp h₁
  obtain ⟨rate₁, hrate₁, h₁⟩ := bind_eq_ok.mp h₁
  obtain ⟨x₁, hx₁, h₁⟩ := bind_eq_ok.mp h₁
  obtain ⟨collat₁, hcollat₁, h₁⟩ := bind_eq_ok.mp h₁
  obtain rfl := Except.ok.inj h₁
  obtain ⟨eir₂, heir₂, h₂⟩ := bind_eq_ok.mp h₂
  obtain ⟨rate₂, hrate₂, h₂⟩ := bind_eq_ok.mp h₂
  obtain ⟨x₂, hx₂, h₂⟩ := bind_eq_ok.mp h₂
  obtain ⟨collat₂, hcollat₂, h₂⟩ := bind_eq_ok.mp h₂
  obtain rfl := Except.ok.inj h₂
  rw [hsum₁, toFloat_ofNumber] at hx₁
  rw [hsum₂, toFloat_ofNumber] at hx₂
  obtain rfl := Except.ok.inj hx₁
  obtain rfl := Except.ok.inj hx₂
  refine ⟨?_, ?_, ?_⟩
  · rw [h.cell_eq "Loan ID" (by decide)]
  · rw [h.cell_eq "EIR" (by decide)] at heir₁
    obtain rfl := Except.ok.inj (heir₁.symm.trans heir₂)
    exact Except.ok.inj (hrate₁.symm.trans hrate₂)
  · refine numeric_mono hcollat₁ hcollat₂ ?_
    cases hle with
    | none => exact le_rfl
    | some hle => exact hle

/-- The stored rows are those of the engine. -/
lemma lgdResults_of_computeLgd {lgd : List LgdResult}
    (h : (runEngines (runInput env pdInput eadInput df₁ config₁)).computeLgd = .ok lgd) :
    ∃ out, computeLgd df₁ config₁ = .ok out ∧ out.rows.mapM (lgdRecord env) = .ok lgd := by
  obtain ⟨rows, hrows, h⟩ := bind_eq_ok.mp h
  obtain ⟨out, hout, hrows⟩ := bind_eq_ok.mp hrows
  refine ⟨out, hout, ?_⟩
  rw [insertUnique] at h
  split at h
  · rw [hrows, Except.ok.inj h]
  · cases h

lemma forall₂_lgdResults {lgd₁ lgd₂ : List LgdResult}
    (h : MoreCollateral df₁ df₂ config₁ config₂) (hin : LgdInputs env df₁)
    (hapart : NamesApart ((configByName config₁).map (·.name)))
    (h₁ : (runEngines (runInput env pdInput eadInput df₁ config₁)).computeLgd = .ok lgd₁)
    (h₂ : (runEngines (runInput env pdInput eadInput df₂ config₂)).computeLgd = .ok lgd₂) :
    List.Forall₂ StoredPair lgd₁ lgd₂ := by
  obtain ⟨out₁, hout₁, hlgd₁⟩ := lgdResults_of_computeLgd h₁
  obtain ⟨out₂, hout₂, hlgd₂⟩ := lgdResults_of_computeLgd h₂
  have hpairs := forall₂_computeLgd h hin hapart hout₁ hout₂
  refine forall₂_comp (S := fun y₁ r₂ => ∃ y₂, LgdOutPair y₁ y₂ ∧ lgdRecord env y₂ = .ok r₂) ?_
    (forall₂_of_mapM_ok hlgd₁).flip
    (forall₂_comp (fun y₁ y₂ r₂ hy hr => ⟨y₂, hy, hr⟩) hpairs (forall₂_of_mapM_ok hlgd₂))
  rintro r₁ y₁ r₂ hr₁ ⟨y₂, hy, hr₂⟩
  exact storedPair_of_lgdRecord hy hr₁ hr₂

/-- The table that is loaded has a row for each stored one. -/
lemma map_lgdRow_loadLgdFrame (lgd : List LgdResult) :
    (loadLgdFrame lgd).rows.map (lgdRow (loadLgdFrame lgd))
      = lgd.map fun r => ⟨.str r.loanId, .num r.eir, .num r.sumDiscountedCollat⟩ := by
  refine List.ext_getElem (by simp [loadLgdFrame]) fun i _ _ => ?_
  rw [List.getElem_map, List.getElem_map]
  simp only [loadLgdFrame, List.getElem_mapIdx]
  rfl

lemma moreCover_loadLgdFrame {lgd₁ lgd₂ : List LgdResult} (h : List.Forall₂ StoredPair lgd₁ lgd₂) :
    MoreCover (loadLgdFrame lgd₁) (loadLgdFrame lgd₂) := by
  refine ⟨Iff.rfl, fun loanId => ?_⟩
  rw [lgdOf, lgdOf, map_lgdRow_loadLgdFrame, map_lgdRow_loadLgdFrame]
  induction h with
  | nil => exact Option.Rel.none
  | @cons r₁ r₂ _ _ hr _ ih =>
      rw [List.map_cons, List.map_cons]
      by_cases hid : Cell.str r₁.loanId = loanId
      · rw [List.find?_cons_of_pos (by simpa using hid),
          List.find?_cons_of_pos (by simpa [← hr.loan_eq] using hid)]
        exact Option.Rel.some ⟨congrArg Cell.num hr.eir_eq, _, _, rfl, rfl, hr.sum_le⟩
      · rw [List.find?_cons_of_neg (by simpa using hid),
          List.find?_cons_of_neg (by simpa [← hr.loan_eq] using hid)]
        exact ih

/-! ### The two runs -/

/-- The rates that are stored with the collateral are not negative. -/
lemma eir_nonneg_of_loadLgdFrame {lgd : List LgdResult} (hin : LgdInputs env df₁)
    (h : (runEngines (runInput env pdInput eadInput df₁ config₁)).computeLgd = .ok lgd) :
    ∀ record ∈ (loadLgdFrame lgd).rows, ∀ q ∈ floatOf env (record.cell "EIR"), 0 ≤ q := by
  obtain ⟨out, hout, hlgd⟩ := lgdResults_of_computeLgd h
  intro record hrecord q hq
  obtain ⟨i, hi, rfl⟩ := List.mem_iff_getElem.mp hrecord
  have hi' : i < lgd.length := by simpa [loadLgdFrame] using hi
  have hstored : q = lgd[i].eir := by
    simp only [loadLgdFrame, List.getElem_mapIdx] at hq
    exact (Option.some.inj hq).symm
  obtain ⟨y, hy, hr⟩ := exists_of_mem_mapM hlgd (List.getElem_mem hi')
  obtain ⟨r, hr', name, hname, hcell⟩ := eir_of_computeLgd hout hy
  obtain ⟨eir, heir, hr⟩ := bind_eq_ok.mp hr
  obtain ⟨rate, hrate, hr⟩ := bind_eq_ok.mp hr
  obtain ⟨_, _, hr⟩ := bind_eq_ok.mp hr
  obtain ⟨_, _, hr⟩ := bind_eq_ok.mp hr
  have hrateStored : lgd[i].eir = rate := by rw [← Except.ok.inj hr]
  rw [hstored, hrateStored]
  refine numeric_nonneg hrate ?_
  cases eir with
  | none => exact le_rfl
  | some e =>
      have hfloat : e ∈ floatOf env (r.cell name) := by
        rw [← hcell, floatOf, heir]
        rfl
      exact (hin.rates r hr' name hname e hfloat).1

/-- **Two runs on the same loan data**, the second with more collateral: their outputs have the
same loans and snapshots, row by row, and no row of the second has a larger ECL. -/
theorem discountedEcl_le_of_moreCollateral {pd : List PdResult} {lgd₁ lgd₂ : List LgdResult}
    {out₁ out₂ : List EclRow} {warnings₁ warnings₂ : List String}
    (hmore : MoreCollateral df₁ df₂ config₁ config₂)
    (hin : LoanInputs env pdInput eadInput df₁)
    (hapart : NamesApart ((configByName config₁).map (·.name)))
    (hpd : (runEngines (runInput env pdInput eadInput df₁ config₁)).computePd = .ok pd)
    (hlgd₁ : (runEngines (runInput env pdInput eadInput df₁ config₁)).computeLgd = .ok lgd₁)
    (hlgd₂ : (runEngines (runInput env pdInput eadInput df₂ config₂)).computeLgd = .ok lgd₂)
    (head₁ : computeEad env eadInput (pd.map loadPdRow) (loadLgdFrame lgd₁)
      = .ok (out₁, warnings₁))
    (head₂ : computeEad env eadInput (pd.map loadPdRow) (loadLgdFrame lgd₂)
      = .ok (out₂, warnings₂)) :
    List.Forall₂ EclPair out₁ out₂ := by
  have hstored := forall₂_lgdResults hmore hin.lgd hapart hlgd₁ hlgd₂
  refine forall₂_computeEad (moreCover_loadLgdFrame hstored) ?_ (loadPdRow_mem hin hpd) head₁ head₂
  intro m hm
  refine eir_nonneg_of_mem_mergeLgd ?_ (eir_nonneg_of_loadLgdFrame hin.lgd hlgd₁) hm
  exact fun record hrecord name hname q hq => (hin.rates record hrecord name hname q hq).1

/-! ### A loan with cash

The loan of `sampleEadFrame` without collateral, and with 4 at a smaller haircut. -/

def cashCell (value : ℚ) : String → Cell
  | "Customer ID" => .str "C"
  | "Loan ID" => .str "L"
  | "Outstanding Amount" => .num 10
  | "EIR" => .num 0
  | "Cash" => .num value
  | _ => .blank

def cashRecord (value : ℚ) : Record := ⟨0, cashCell value⟩

def cashFrame (value : ℚ) : Frame where
  columns := ["Customer ID", "Loan ID", "Outstanding Amount", "EIR", "Cash"]
  rows := [cashRecord value]

def cash (haircut : ℚ) : CollateralConfig := ⟨"Cash", haircut, 1⟩

lemma configByName_cash (haircut : ℚ) : configByName [cash haircut] = [cash haircut] :=
  sortByKey_singleton _ _

lemma namesApart_cash (haircut : ℚ) :
    NamesApart ((configByName [cash haircut]).map (·.name)) := by
  rw [configByName_cash]
  change NamesApart ["Cash"]
  exact ⟨List.nodup_singleton _, by decide, by decide, by decide⟩

/-- The loan has all of its customer's amount. -/
lemma withProportions_cash (value : ℚ) :
    withProportions (sortByKey lgdSortKey (cashFrame value).rows) amountOf
      = [((cashRecord value).set totalColumn (.num 10)).set "Proportion" (.num 1)] := by
  have hrow : (cashFrame value).rows = [cashRecord value] := rfl
  have hcustomer : (cashRecord value).cell "Customer ID" = .str "C" := rfl
  have hamount : amountOf (cashRecord value) = some 10 := rfl
  have htotal : customerTotal [cashRecord value] amountOf (.str "C") = some 10 := by
    have hown : [cashRecord value].filter (fun r => r.cell "Customer ID" = .str "C")
        = [cashRecord value] := rfl
    rw [customerTotal, if_neg (by decide), hown, List.map_singleton, List.sum_singleton, hamount,
      Option.getD_some]
  have hshare : proportion (some 10) (some 10) = 1 := by
    rw [proportion]
    norm_num
  rw [hrow, sortByKey_singleton, withProportions, List.map_singleton]
  simp only [hcustomer, htotal, hamount, hshare]
  rfl

lemma exists_computeLgd_cash (value haircut : ℚ) :
    ∃ out, computeLgd (cashFrame value) [cash haircut] = .ok out := by
  have hworking : withEir (cashFrame value) [cash haircut] = .ok (cashFrame value) := rfl
  have hcheck : checkLgdFrame (cashFrame value) = .ok () := rfl
  rw [computeLgd, configByName_cash, hworking]
  simp only [bind, Except.bind, hcheck, withProportions_cash]
  exact ⟨_, rfl⟩

/-- The LGD stage of the loan. -/
lemma lgdResultsOf_cash {value haircut sum : ℚ}
    (hsum : 1 * value * ((1 - haircut) * (1 + 0) ^ (-1 : ℤ)) = sum)
    (hstored : numeric 20 6 sum = .ok sum) :
    lgdResultsOf plainEnv (cashFrame value) [cash haircut] = .ok [⟨"L", "C", 0, sum⟩] := by
  obtain ⟨out, hout⟩ := exists_computeLgd_cash value haircut
  obtain ⟨working, rows, hworking, hrows, hsorted⟩ := computeLgd_ok hout
  obtain rfl : cashFrame value = working := Except.ok.inj hworking
  rw [withProportions_cash, List.forall₂_cons_left_iff] at hrows
  obtain ⟨y, ys, hy, hnone, rfl⟩ := hrows
  obtain rfl := List.forall₂_nil_left_iff.mp hnone
  rw [sortByKey_singleton] at hsorted
  have hloan : y.cell "Loan ID" = .str "L" := hy.cell_eq "Loan ID" (by decide)
  have hcustomer : y.cell "Customer ID" = .str "C" := hy.cell_eq "Customer ID" (by decide)
  have heir : y.cell "EIR" = .num 0 := hy.cell_eq "EIR" (by decide)
  have hcash : y.cell lgdSumCol = .num (0 + sum) := by
    rw [hy.sum_eq (namesApart_cash haircut).readInOrder, configByName_cash, ← hsum]
    rfl
  have hrate : numeric 10 8 0 = .ok 0 := numeric_zero 10 8 (by norm_num)
  rw [zero_add] at hcash
  simp only [lgdResultsOf, hout, hsorted, bind, Except.bind, List.mapM_cons, List.mapM_nil,
    lgdRecord, hloan, hcustomer, heir, hcash, Cell.toFloat, toDecimal, Option.getD_some, hrate,
    hstored]
  rfl

lemma computeLgd_cash {value haircut sum : ℚ}
    (h : lgdResultsOf plainEnv (cashFrame value) [cash haircut] = .ok [⟨"L", "C", 0, sum⟩]) :
    (runEngines (runInput plainEnv samplePdFrame sampleEadFrame (cashFrame value)
      [cash haircut])).computeLgd = .ok [⟨"L", "C", 0, sum⟩] := by
  simp only [runEngines, runInput, h, bind, Except.bind]
  rfl

lemma moreCollateral_cash :
    MoreCollateral (cashFrame 0) (cashFrame 4) [cash (1 / 2)] [cash (1 / 4)] := by
  refine ⟨?_, rfl, List.Forall₂.cons ⟨fun n hn => ?_, fun cfg hcfg => ?_⟩ List.Forall₂.nil⟩
  · rw [configByName_cash, configByName_cash]
    exact List.Forall₂.cons ⟨rfl, rfl, by decide, by norm_num [cash], by norm_num [cash],
      by norm_num [cash]⟩ List.Forall₂.nil
  · change cashCell 0 n = cashCell 4 n
    have hne : n ≠ "Cash" := by
      rintro rfl
      exact absurd hn (by decide)
    unfold cashCell
    split <;> first | rfl | exact absurd rfl hne
  · obtain rfl := List.mem_singleton.mp hcfg
    exact ⟨le_rfl, by decide⟩

lemma loanInputs_cash : LoanInputs plainEnv samplePdFrame sampleEadFrame (cashFrame 0) := by
  refine ⟨samplePdFrame_amounts, eclInputs_sample.rates, ⟨?_, ?_⟩⟩
  · intro r hr q hq
    obtain rfl := List.mem_singleton.mp hr
    obtain rfl : 10 = q := Option.some.inj hq
    norm_num
  · intro r hr name hname q hq
    obtain rfl := List.mem_singleton.mp hr
    simp only [lgdEirAliases, List.mem_cons, List.not_mem_nil, or_false] at hname
    rcases hname with rfl | rfl | rfl
    · cases hq
    · cases hq
    · obtain rfl : 0 = q := Option.some.inj hq
      exact ⟨le_rfl, zero_le_one⟩

/-- The loan with cash: both runs give rows, and none of the second is larger. -/
theorem discountedEcl_le_of_moreCollateral_sample :
    ∃ pdTable out₁ out₂ warnings₁ warnings₂,
      computeEad plainEnv sampleEadFrame pdTable (loadLgdFrame [⟨"L", "C", 0, 0⟩])
        = .ok (out₁, warnings₁) ∧
      computeEad plainEnv sampleEadFrame pdTable (loadLgdFrame [⟨"L", "C", 0, 3⟩])
        = .ok (out₂, warnings₂) ∧
      out₁ ≠ [] ∧ List.Forall₂ EclPair out₁ out₂ := by
  obtain ⟨pd, hpd, -, head⟩ := engines_sample
  obtain ⟨⟨out₁, warnings₁⟩, hout₁, head⟩ := bind_eq_ok.mp head
  obtain ⟨records, hrecords, head⟩ := bind_eq_ok.mp head
  have hlgd₁ := computeLgd_cash (@lgdResultsOf_cash 0 (1 / 2) 0 (by norm_num)
    (numeric_zero 20 6 (by norm_num)))
  have hlgd₂ := computeLgd_cash (@lgdResultsOf_cash 4 (1 / 4) 3 (by norm_num)
    (numeric_of_digits 3000000 (by norm_num) (by norm_num)))
  have hcover := moreCover_loadLgdFrame (forall₂_lgdResults moreCollateral_cash
    loanInputs_cash.lgd (namesApart_cash _) hlgd₁ hlgd₂)
  obtain ⟨out₂, warnings₂, hout₂⟩ := exists_computeEad_of_moreCover hcover (by decide) hout₁
  refine ⟨_, out₁, out₂, warnings₁, warnings₂, hout₁, hout₂, ?_,
    discountedEcl_le_of_moreCollateral moreCollateral_cash loanInputs_cash
    (namesApart_cash _) hpd hlgd₁ hlgd₂ hout₁ hout₂⟩
  rintro rfl
  obtain rfl := Except.ok.inj hrecords
  cases head

end EclServer.Runs
