import EclServer.Engine.CollateralOrder
import EclServer.Library.Shares

/-!
How the collateral of a customer is shared among its loans.

* `ReadAs`, `withEir_rows`: what the engine reads of a row of the sheet.
* `OutLoan`, `computeLgd_loans`: the rows of the output, of the rows of the sheet.
* `loanShare_eq_share`: the proportions of a customer's loans are their shares of what it owes.
* `collateral_shared`: they add up to one, the shared collateral of a type to an average of the
  values that the loans state of it, and the discounted collateral of a loan to no more than its
  shared one.
-/

namespace EclServer.Engine

open EclServer.Library

/-! ### The rows of the sheet -/

/-- The value that a row of the sheet states of a type: none in a blank, where there is no such
column, and where it is the column of the rate. -/
def statedValue (df : Frame) (cfg : CollateralConfig) (r : Record) : ℚ :=
  if cfg.name = resolveEirColumn df then 0 else collateralValue df.columns r cfg

/-- A row of the sheet, and the row that the engine has of it. -/
structure ReadAs (df working : Frame) (config : List CollateralConfig) (r r' : Record) : Prop where
  cell_eq : ∀ n ∈ ["Loan ID", "Customer ID", "Outstanding Amount"], r'.cell n = r.cell n
  rate_eq : config ≠ [] → r'.cell "EIR" = r.cell (resolveEirColumn df)
  value_eq : ∀ cfg : CollateralConfig, cfg.name ≠ "EIR" →
    collateralValue working.columns r' cfg = statedValue df cfg r

section

variable {df working out : Frame} {config : List CollateralConfig}

/-- With types, the rate is read of the column it was found in. -/
lemma lastEirColumn_eq (h : withEir df config = .ok working) (hconfig : config ≠ [])
    (heir : resolveEirColumn df ≠ "EIR") : lastEirColumn df = resolveEirColumn df := by
  have hnone : "EIR" ∉ df.columns := by
    intro hmem
    rw [withEir, if_neg heir] at h
    split at h
    · cases h
    · rw [if_pos ⟨hmem, hconfig⟩] at h
      cases h
  rw [lastEirColumn]
  cases hlast : (df.columns.filter fun name =>
      name = resolveEirColumn df ∨ name = "EIR").getLast? with
  | none => rfl
  | some name =>
      obtain ⟨hmem, hname⟩ := List.mem_filter.mp (List.mem_of_getLast? hlast)
      rcases of_decide_eq_true hname with heq | heq
      · exact heq
      · exact absurd (heq ▸ hmem) hnone

/-- **The rows with a rate column**, of the rows of the sheet. -/
lemma withEir_rows (h : withEir df config = .ok working) :
    ∃ g : Record → Record, working.rows = df.rows.map g ∧ ∀ r, ReadAs df working config r (g r) := by
  rcases withEir_ok h with ⟨heir, rfl⟩ | ⟨heir, -, hcolumns, hrows⟩
  · refine ⟨id, (List.map_id _).symm, fun r => ⟨fun n _ => rfl, fun _ => by rw [heir]; rfl, ?_⟩⟩
    intro cfg hname
    rw [statedValue, heir, if_neg hname]
    rfl
  · refine ⟨_, hrows, fun r => ⟨fun n hn => ?_, fun hconfig => ?_, fun cfg hname => ?_⟩⟩
    · have hloan : ∀ m ∈ ["Loan ID", "Customer ID", "Outstanding Amount"],
          m ≠ "EIR" ∧ m ∉ lgdEirAliases := by decide
      obtain ⟨hne, hnot⟩ := hloan n hn
      have hcol : n ≠ resolveEirColumn df := fun heq =>
        hnot (by rw [heq]; exact resolveEirColumn_mem df)
      rw [cell_renameEir, if_neg hne, if_neg hcol]
    · rw [cell_renameEir, if_pos rfl, lastEirColumn_eq h hconfig heir]
    · rw [hcolumns, collateralValue_renameEir hname, statedValue]

/-! ### The rows of the output -/

/-- `Proportion`: the share of a loan in what its customer owes. -/
def loanShare (df : Frame) (r : Record) : ℚ :=
  proportion (amountOf r) (customerTotal df.rows amountOf (r.cell "Customer ID"))

/-- `Sum of Discounted Collaterals per Loan ID`, of a row of the sheet. -/
def discountedTotal (df : Frame) (config : List CollateralConfig) (r : Record) : Option ℚ :=
  (configByName config).foldl (fun sum cfg => do
    return (← sum) + loanShare df r * statedValue df cfg r
      * (← collateralDiscount cfg (numberOf (r.cell (resolveEirColumn df))))) (some 0)

/-- A row of the sheet, and the row of the output that has its loan. -/
structure OutLoan (df : Frame) (config : List CollateralConfig) (r y : Record) : Prop where
  loan_eq : y.cell "Loan ID" = r.cell "Loan ID"
  customer_eq : y.cell "Customer ID" = r.cell "Customer ID"
  rate_eq : config ≠ [] → y.cell "EIR" = r.cell (resolveEirColumn df)
  share_eq : y.cell "Proportion" = .num (loanShare df r)
  proportional_eq : ∀ cfg ∈ config,
    y.cell (proportionalColumn cfg.name) = .num (loanShare df r * statedValue df cfg r)
  sum_eq : y.cell lgdSumCol = Cell.ofNumber (discountedTotal df config r)
  rate_ok : config ≠ [] → ∃ x, r.cell (resolveEirColumn df) = Cell.ofNumber x

/-- The totals do not depend on the order of the rows. -/
lemma customerTotal_perm {rows rows' : List Record} (h : rows.Perm rows') (customer : Cell) :
    customerTotal rows amountOf customer = customerTotal rows' amountOf customer := by
  rw [customerTotal, customerTotal, ((h.filter _).map _).sum_eq]

lemma exists_mem_configByName {cfg : CollateralConfig} (hcfg : cfg ∈ config) :
    ∃ c ∈ configByName config, c.name = cfg.name := by
  obtain ⟨c, hc, hname⟩ := exists_mem_dropDuplicates CollateralConfig.name
    (List.mem_reverse.mpr hcfg)
  exact ⟨c, (mem_sortByKey _).mpr hc, hname⟩

lemma statedValue_congr {cfg cfg' : CollateralConfig} (h : cfg.name = cfg'.name) (r : Record) :
    statedValue df cfg r = statedValue df cfg' r := by
  rw [statedValue, statedValue, collateralValue, collateralValue, h]

/-- **The output of `compute_lgd`**, of the rows of the sheet, where no type is made before it is
read. -/
lemma computeLgd_loans (h : computeLgd df config = .ok out)
    (hfixed : ∀ cfg ∈ config, cfg.name ∉ ["EIR", totalColumn, "Proportion"])
    (horder : ReadInOrder ((configByName config).map (·.name))) :
    ∃ loans rows, loans.Perm df.rows ∧ List.Forall₂ (OutLoan df config) loans rows ∧
      out.rows.Perm rows := by
  obtain ⟨working, rows, hworking, hrows, hout⟩ := computeLgd_ok h
  obtain ⟨g, hmap, hread⟩ := withEir_rows hworking
  have hsorted : sortByKey lgdSortKey working.rows
      = (sortByKey (fun r => lgdSortKey (g r)) df.rows).map g := by
    rw [hmap, sortByKey_map]
  set loans := sortByKey (fun r => lgdSortKey (g r)) df.rows with hloans
  have hperm : loans.Perm df.rows := sortByKey_perm _ _
  have hamount : ∀ r, amountOf (g r) = amountOf r := fun r => by
    rw [amountOf_eq, amountOf_eq, (hread r).cell_eq _ (by decide)]
  have htotal : ∀ customer, customerTotal (loans.map g) amountOf customer
      = customerTotal df.rows amountOf customer := by
    intro customer
    rw [← customerTotal_perm hperm]
    refine customerTotal_congr (R := fun r' r => r' = g r) ?_ ?_ customer
    · rintro _ r rfl
      exact ⟨(hread r).cell_eq _ (by decide), (hread r).cell_eq _ (by decide)⟩
    · rw [List.forall₂_map_left_iff]
      exact List.forall₂_same.mpr fun _ _ => rfl
  refine ⟨loans, rows, hperm, ?_, hout ▸ sortByKey_perm _ _⟩
  rw [hsorted, withProportions, List.map_map, List.forall₂_map_left_iff] at hrows
  refine hrows.imp fun r y hy => ?_
  simp only [Function.comp_apply, (hread r).cell_eq "Customer ID" (by decide), htotal,
    hamount] at hy
  -- the row that the loop works on
  set total := Cell.ofNumber (customerTotal df.rows amountOf (r.cell "Customer ID")) with ht
  change LgdOutRow (shareColumns working) config
    (((g r).set totalColumn total).set "Proportion" (.num (loanShare df r))) y at hy
  have hvalue : ∀ cfg ∈ configByName config, collateralValue (shareColumns working)
      (((g r).set totalColumn total).set "Proportion" (.num (loanShare df r))) cfg
      = statedValue df cfg r := by
    intro cfg hcfg
    have hname := hfixed cfg (mem_of_mem_configByName hcfg)
    rw [collateralValue_withShare fun hmem => hname (List.mem_cons_of_mem _ hmem),
      (hread r).value_eq cfg fun heq => hname (heq ▸ List.mem_cons_self)]
  have hcell : ∀ n ∈ keptColumns, n ≠ "Proportion" → y.cell n = (g r).cell n := by
    intro n hn hshare
    have hkept : ∀ m ∈ keptColumns, m ≠ "Proportion" → m ∉ [totalColumn, "Proportion"] := by decide
    rw [hy.cell_eq n hn, cell_withShare (hkept n hn hshare)]
  refine ⟨?_, ?_, fun hconfig => ?_, ?_, fun cfg hcfg => ?_, ?_, fun hconfig => ?_⟩
  · rw [hcell _ (by decide) (by decide), (hread r).cell_eq _ (by decide)]
  · rw [hcell _ (by decide) (by decide), (hread r).cell_eq _ (by decide)]
  · rw [hcell _ (by decide) (by decide), (hread r).rate_eq hconfig]
  · rw [hy.cell_eq _ (by decide), Record.cell_set_same]
  · obtain ⟨c, hc, hname⟩ := exists_mem_configByName hcfg
    rw [← hname, hy.proportional_eq horder c hc, proportionalValue, hvalue c hc,
      Record.cell_set_same, statedValue_congr hname]
    rfl
  · rw [hy.sum_eq horder, discountedSum, discountedTotal]
    congr 1
    refine List.foldl_ext _ _ _ fun sum cfg hcfg => ?_
    have hrate : (g r).cell "EIR" = r.cell (resolveEirColumn df) :=
      (hread r).rate_eq (List.ne_nil_of_mem (mem_of_mem_configByName hcfg))
    rw [discountedValue, hvalue cfg hcfg, Record.cell_set_same, cell_withShare (by decide), hrate]
    cases collateralDiscount cfg (numberOf (r.cell (resolveEirColumn df))) <;> rfl
  · obtain ⟨cfg, hcfg⟩ := List.exists_mem_of_ne_nil _ hconfig
    obtain ⟨c, hc, -⟩ := exists_mem_configByName hcfg
    obtain ⟨x, hx⟩ := hy.rate_ok (List.ne_nil_of_mem hc)
    rw [cell_withShare (by decide), (hread r).rate_eq hconfig] at hx
    exact ⟨x, eq_ofNumber_of_toNumber hx⟩

/-! ### Customers -/

/-- The loans of a customer. -/
def customerLoans (df : Frame) (customer : Cell) : List Record :=
  df.rows.filter fun r => r.cell "Customer ID" = customer

/-- The number of a row in a column. -/
def numberAt (name : String) (r : Record) : ℚ := (numberOf (r.cell name)).getD 0

def columnSum (rows : List Record) (name : String) : ℚ := (rows.map (numberAt name)).sum

variable {customer : Cell}

/-- A customer's sum of a column of the output, of the rows of the sheet. -/
lemma columnSum_eq {loans rows : List Record} {name : String} {f : Record → ℚ}
    (hloans : loans.Perm df.rows) (hout : out.rows.Perm rows)
    (hrows : List.Forall₂ (fun r y => y.cell "Customer ID" = r.cell "Customer ID" ∧
      numberAt name y = f r) loans rows) :
    columnSum (customerLoans out customer) name = ((customerLoans df customer).map f).sum := by
  have hpairs : (rows.filter fun y => y.cell "Customer ID" = customer).map (numberAt name)
      = (loans.filter fun r => r.cell "Customer ID" = customer).map f := by
    clear hloans hout
    induction hrows with
    | nil => rfl
    | cons hr _ ih =>
        obtain ⟨hcustomer, hvalue⟩ := hr
        rw [List.filter_cons, List.filter_cons, hcustomer]
        split
        · rw [List.map_cons, List.map_cons, hvalue, ih]
        · exact ih
  rw [columnSum, customerLoans, customerLoans, ((hout.filter _).map _).sum_eq, hpairs,
    ((hloans.filter _).map _).sum_eq]

/-- **The proportion of a loan** is its share of what its customer owes. -/
lemma loanShare_eq_share {r : Record} (hr : r ∈ customerLoans df customer)
    (hcustomer : customer ≠ .blank)
    (htotal : columnSum (customerLoans df customer) "Outstanding Amount" ≠ 0) :
    loanShare df r = share (numberAt "Outstanding Amount") (customerLoans df customer) r := by
  have hown : r.cell "Customer ID" = customer := of_decide_eq_true (List.mem_filter.mp hr).2
  have hsum : customerTotal df.rows amountOf customer
      = some (columnSum (customerLoans df customer) "Outstanding Amount") := by
    rw [customerTotal, if_neg hcustomer, columnSum, customerLoans]
    congr 2
    exact List.map_congr_left fun r _ => by rw [amountOf_eq, numberAt]
  rw [loanShare, hown, hsum, amountOf_eq, share, numberAt]
  cases numberOf (r.cell "Outstanding Amount") with
  | none => exact (zero_div _).symm
  | some q => exact if_neg htotal

/-! ### Discounted collateral -/

/-- The factor of a type at a rate that is not negative. -/
lemma collateralDiscount_of_nonneg (cfg : CollateralConfig) {e : ℚ} (he : 0 ≤ e) :
    collateralDiscount cfg (some e)
      = some ((1 - cfg.haircut) * (1 + e) ^ (-cfg.timeToRealize)) := by
  unfold collateralDiscount
  by_cases htime : cfg.timeToRealize = 0
  · rw [if_pos htime, htime, neg_zero, zpow_zero, mul_one]
  · have hne : ¬ (e = -1 ∧ 0 < cfg.timeToRealize) := by
      rintro ⟨rfl, -⟩
      norm_num at he
    simp only [if_neg htime, if_neg hne]

lemma configByName_perm (hnodup : (config.map (·.name)).Nodup) :
    (configByName config).Perm config := by
  have hreverse : (config.reverse.map CollateralConfig.name).Nodup := by
    rw [List.map_reverse]
    exact List.nodup_reverse.mpr hnodup
  rw [configByName, dropDuplicates_of_nodup _ hreverse]
  exact (sortByKey_perm _ _).trans config.reverse_perm

/-- **The discounted collateral of a loan** with a rate: the sum over the types. -/
lemma discountedTotal_eq (hnodup : (config.map (·.name)).Nodup) {r : Record} {e : ℚ}
    (hrate : r.cell (resolveEirColumn df) = .num e) (he : 0 ≤ e) :
    discountedTotal df config r = some ((config.map fun cfg => loanShare df r
      * statedValue df cfg r * ((1 - cfg.haircut) * (1 + e) ^ (-cfg.timeToRealize))).sum) := by
  have hloop : ∀ (cfgs : List CollateralConfig) (start : ℚ), cfgs.foldl (fun sum cfg => do
      return (← sum) + loanShare df r * statedValue df cfg r
        * (← collateralDiscount cfg (some e))) (some start)
      = some (start + (cfgs.map fun cfg => loanShare df r * statedValue df cfg r
        * ((1 - cfg.haircut) * (1 + e) ^ (-cfg.timeToRealize))).sum) := by
    intro cfgs
    induction cfgs with
    | nil =>
        intro start
        rw [List.map_nil, List.sum_nil, add_zero]
        rfl
    | cons cfg cfgs ih =>
        intro start
        rw [List.foldl_cons, collateralDiscount_of_nonneg cfg he, List.map_cons, List.sum_cons,
          ← add_assoc]
        exact ih _
  rw [discountedTotal, hrate]
  refine (hloop _ 0).trans ?_
  rw [zero_add, ((configByName_perm hnodup).map _).sum_eq]

/-- A factor of a haircut in `[0, 1]` and a time that is not negative. -/
lemma discountFactor_le_one {cfg : CollateralConfig} {e : ℚ} (he : 0 ≤ e)
    (hcfg : 0 ≤ cfg.haircut ∧ cfg.haircut ≤ 1 ∧ 0 ≤ cfg.timeToRealize) :
    0 ≤ (1 - cfg.haircut) * (1 + e) ^ (-cfg.timeToRealize) ∧
      (1 - cfg.haircut) * (1 + e) ^ (-cfg.timeToRealize) ≤ 1 := by
  obtain ⟨hlow, hhigh, htime⟩ := hcfg
  have hfactor : 0 ≤ (1 + e) ^ (-cfg.timeToRealize) := zpow_nonneg (by linarith) _
  have hle : (1 + e) ^ (-cfg.timeToRealize) ≤ 1 :=
    zpow_le_one_of_nonpos₀ (by linarith) (by omega)
  exact ⟨mul_nonneg (by linarith) hfactor, mul_le_one₀ (by linarith) hfactor hle⟩

end

/-! ### Shared collateral -/

/-- The proportions of a customer's loans add up to one, and its loans share the collateral of each
type among them. -/
structure PoolShared (df out : Frame) (config : List CollateralConfig) (customer : Cell) :
    Prop where
  shares : columnSum (customerLoans out customer) "Proportion" = 1
  between : ∀ cfg ∈ config, ∀ lo hi : ℚ,
    (∀ r ∈ customerLoans df customer, lo ≤ statedValue df cfg r ∧ statedValue df cfg r ≤ hi) →
    lo ≤ columnSum (customerLoans out customer) (proportionalColumn cfg.name) ∧
      columnSum (customerLoans out customer) (proportionalColumn cfg.name) ≤ hi
  pool : ∀ cfg ∈ config, ∀ V : ℚ, (∀ r ∈ customerLoans df customer, statedValue df cfg r = V) →
    columnSum (customerLoans out customer) (proportionalColumn cfg.name) = V

/-- A row of the output has its numbers, and its discounted collateral is at most its share. -/
structure CoverBounded (config : List CollateralConfig) (y : Record) : Prop where
  share : ∃ p, y.cell "Proportion" = .num p
  proportional : ∀ cfg ∈ config, ∃ q, y.cell (proportionalColumn cfg.name) = .num q
  discounted : ∃ s, y.cell lgdSumCol = .num s ∧ 0 ≤ s ∧
    s ≤ (config.map fun cfg => numberAt (proportionalColumn cfg.name) y).sum

section

variable {df out : Frame} {config : List CollateralConfig} {loans rows : List Record}

/-- The loans of a customer that owes something. -/
lemma poolShared_of_loans {customer : Cell} (hloans : loans.Perm df.rows)
    (hrows : List.Forall₂ (OutLoan df config) loans rows) (hout : out.rows.Perm rows)
    (hamounts : ∀ r ∈ df.rows, ∀ q ∈ numberOf (r.cell "Outstanding Amount"), 0 ≤ q)
    (hcustomer : customer ≠ .blank)
    (htotal : 0 < columnSum (customerLoans df customer) "Outstanding Amount") :
    PoolShared df out config customer := by
  have hown : ∀ r ∈ customerLoans df customer, 0 ≤ numberAt "Outstanding Amount" r := by
    intro r hr
    rw [numberAt]
    cases hq : numberOf (r.cell "Outstanding Amount") with
    | none => exact le_rfl
    | some q => exact hamounts r (List.mem_of_mem_filter hr) q hq
  have hshares : columnSum (customerLoans out customer) "Proportion" = 1 := by
    have hsum := @columnSum_eq df out customer loans rows "Proportion" (loanShare df) hloans hout
      (hrows.imp fun r y hy => ⟨hy.customer_eq, by rw [numberAt, hy.share_eq]; rfl⟩)
    rw [hsum, ← sum_share htotal.ne']
    exact congrArg List.sum (List.map_congr_left fun r hr =>
      loanShare_eq_share hr hcustomer htotal.ne')
  -- a weighted mean of the stated values, the weights being the shares
  have hbetween : ∀ cfg ∈ config, ∀ lo hi : ℚ,
      (∀ r ∈ customerLoans df customer, lo ≤ statedValue df cfg r ∧ statedValue df cfg r ≤ hi) →
      lo ≤ columnSum (customerLoans out customer) (proportionalColumn cfg.name) ∧
        columnSum (customerLoans out customer) (proportionalColumn cfg.name) ≤ hi := by
    intro cfg hcfg lo hi hstated
    have hsum : columnSum (customerLoans out customer) (proportionalColumn cfg.name)
        = ((customerLoans df customer).map fun r =>
          share (numberAt "Outstanding Amount") (customerLoans df customer) r
            * statedValue df cfg r).sum := by
      have hcolumn := @columnSum_eq df out customer loans rows (proportionalColumn cfg.name)
        (fun r => loanShare df r * statedValue df cfg r) hloans hout (hrows.imp fun r y hy =>
          ⟨hy.customer_eq, by rw [numberAt, hy.proportional_eq cfg hcfg]; rfl⟩)
      rw [hcolumn]
      exact congrArg List.sum (List.map_congr_left fun r hr => by
        rw [loanShare_eq_share hr hcustomer htotal.ne'])
    rw [hsum]
    exact sum_share_mul_mem hown htotal hstated
  refine ⟨hshares, hbetween, fun cfg hcfg V hpool => ?_⟩
  obtain ⟨hlow, hhigh⟩ := hbetween cfg hcfg V V fun r hr => by
    rw [hpool r hr]
    exact ⟨le_rfl, le_rfl⟩
  exact le_antisymm hhigh hlow

/-- One loan, whose share and values are not negative. -/
lemma OutLoan.coverBounded {r y : Record} {e : ℚ} (h : OutLoan df config r y)
    (hnodup : (config.map (·.name)).Nodup) (hrate : r.cell (resolveEirColumn df) = .num e)
    (he : 0 ≤ e) (hshare : 0 ≤ loanShare df r)
    (hstated : ∀ cfg ∈ config, 0 ≤ statedValue df cfg r)
    (hconfig : ∀ cfg ∈ config, 0 ≤ cfg.haircut ∧ cfg.haircut ≤ 1 ∧ 0 ≤ cfg.timeToRealize) :
    CoverBounded config y := by
  refine ⟨⟨_, h.share_eq⟩, fun cfg hcfg => ⟨_, h.proportional_eq cfg hcfg⟩, _,
    by rw [h.sum_eq, discountedTotal_eq hnodup hrate he]; rfl, ?_, ?_⟩
  · refine List.sum_nonneg fun q hq => ?_
    obtain ⟨cfg, hcfg, rfl⟩ := List.mem_map.mp hq
    exact mul_nonneg (mul_nonneg hshare (hstated cfg hcfg))
      (discountFactor_le_one he (hconfig cfg hcfg)).1
  · refine List.sum_le_sum fun cfg hcfg => ?_
    rw [numberAt, h.proportional_eq cfg hcfg]
    exact mul_le_of_le_one_right (mul_nonneg hshare (hstated cfg hcfg))
      (discountFactor_le_one he (hconfig cfg hcfg)).2

/-- The rows of a table and of one that is paired with it. -/
lemma exists_outLoan (hloans : loans.Perm df.rows)
    (hrows : List.Forall₂ (OutLoan df config) loans rows) (hout : out.rows.Perm rows) {y : Record}
    (hy : y ∈ out.rows) : ∃ r ∈ df.rows, OutLoan df config r y := by
  obtain ⟨i, hi, rfl⟩ := List.mem_iff_getElem.mp (hout.mem_iff.mp hy)
  obtain ⟨hlen, hget⟩ := List.forall₂_iff_get.mp hrows
  have hi' : i < loans.length := by omega
  exact ⟨loans[i], hloans.mem_iff.mp (List.getElem_mem hi'), hget i hi' hi⟩

end

/-- **Shared collateral is counted once**: the proportions of a customer that owes something add up
to one, what its loans state of a type is split among them, and each row counts at most its share,
for types whose names are apart. -/
theorem collateral_shared {df out : Frame} {config : List CollateralConfig}
    (h : computeLgd df config = .ok out)
    (hamounts : ∀ r ∈ df.rows, ∀ q ∈ numberOf (r.cell "Outstanding Amount"), 0 ≤ q)
    (hvalues : ∀ r ∈ df.rows, ∀ cfg ∈ config, ∀ q ∈ numberOf (r.cell cfg.name), 0 ≤ q)
    (hrates : ∀ r ∈ df.rows, ∃ e, r.cell (resolveEirColumn df) = .num e ∧ 0 ≤ e ∧ e ≤ 1)
    (hconfig : ∀ cfg ∈ config, 0 ≤ cfg.haircut ∧ cfg.haircut ≤ 1 ∧ 0 ≤ cfg.timeToRealize)
    (hapart : NamesApart (config.map (·.name))) :
    (∀ customer : Cell, customer ≠ .blank →
      0 < columnSum (customerLoans df customer) "Outstanding Amount" →
      PoolShared df out config customer) ∧
    ∀ y ∈ out.rows, CoverBounded config y := by
  have hfixed : ∀ cfg ∈ config, cfg.name ∉ ["EIR", totalColumn, "Proportion"] := by
    intro cfg hcfg hmem
    exact hapart.fixed _ (List.mem_map_of_mem hcfg) (List.mem_append_left [lgdSumCol] hmem)
  have hperm := (configByName_perm hapart.nodup).map (·.name)
  have horder : ReadInOrder ((configByName config).map (·.name)) :=
    (hapart.of_perm hperm.symm).readInOrder
  obtain ⟨loans, rows, hloans, hrows, hout⟩ := computeLgd_loans h hfixed horder
  refine ⟨fun customer => poolShared_of_loans hloans hrows hout hamounts, fun y hy => ?_⟩
  obtain ⟨r, hr, hloan⟩ := exists_outLoan hloans hrows hout hy
  obtain ⟨e, he, he0, -⟩ := hrates r hr
  have hshare : 0 ≤ loanShare df r := by
    refine proportion_nonneg ?_ (customerTotal_nonneg hamounts _)
    rw [amountOf_eq]
    exact hamounts r hr
  refine hloan.coverBounded hapart.nodup he he0 hshare (fun cfg hcfg => ?_) hconfig
  rw [statedValue, collateralValue]
  split_ifs
  · exact le_rfl
  · cases hq : numberOf (r.cell cfg.name) with
    | none => exact le_rfl
    | some q => exact hvalues r hr cfg hcfg q hq
  · exact le_rfl

/-! ### Two loans with one property -/

/-- A loan of customer 1 with the property of 500 that all its loans state. -/
def propertyRecord (loan amount : ℚ) : Record :=
  ⟨0, fun
    | "Customer ID" => .num 1
    | "Loan ID" => .num loan
    | "Outstanding Amount" => .num amount
    | "EIR" => .num (12 / 100)
    | "Property" => .num 500
    | _ => .blank⟩

def propertyFrame : Frame where
  columns := ["Customer ID", "Loan ID", "Outstanding Amount", "EIR", "Property"]
  rows := [propertyRecord 1 60, propertyRecord 2 40]

def property : CollateralConfig := ⟨"Property", 1 / 5, 12⟩

lemma numberRow_property (loan amount : ℚ) : NumberRow (propertyRecord loan amount) := by
  intro n
  simp only [propertyRecord]
  split
  · exact ⟨some 1, rfl⟩
  · exact ⟨some loan, rfl⟩
  · exact ⟨some amount, rfl⟩
  · exact ⟨some (12 / 100), rfl⟩
  · exact ⟨some 500, rfl⟩
  · exact ⟨none, rfl⟩

/-- The two loans of the customer share the property. -/
theorem collateral_shared_sample : ∃ out, computeLgd propertyFrame [property] = .ok out ∧
    PoolShared propertyFrame out [property] (.num 1) := by
  have hrows : ∀ r ∈ propertyFrame.rows, ∃ loan amount, r = propertyRecord loan amount ∧
      (0 : ℚ) ≤ amount := by
    intro r hr
    simp only [propertyFrame, List.mem_cons, List.not_mem_nil, or_false] at hr
    rcases hr with rfl | rfl
    · exact ⟨1, 60, rfl, by norm_num⟩
    · exact ⟨2, 40, rfl, by norm_num⟩
  obtain ⟨out, hout⟩ := @exists_computeLgd propertyFrame propertyFrame [property]
    rfl rfl (by decide) fun r hr => by
      obtain ⟨loan, amount, rfl, -⟩ := hrows r hr
      exact numberRow_property loan amount
  refine ⟨out, hout, (collateral_shared hout ?_ ?_ ?_ ?_ ?_).1 (.num 1) (by decide)
    (by decide +kernel)⟩
  · intro r hr q hq
    obtain ⟨loan, amount, rfl, hnonneg⟩ := hrows r hr
    obtain rfl : amount = q := Option.some.inj hq
    exact hnonneg
  · intro r hr cfg hcfg q hq
    obtain ⟨loan, amount, rfl, -⟩ := hrows r hr
    obtain rfl := List.mem_singleton.mp hcfg
    obtain rfl : 500 = q := Option.some.inj hq
    norm_num
  · intro r hr
    obtain ⟨loan, amount, rfl, -⟩ := hrows r hr
    exact ⟨12 / 100, rfl, by norm_num, by norm_num⟩
  · intro cfg hcfg
    obtain rfl := List.mem_singleton.mp hcfg
    norm_num [property]
  · exact ⟨List.nodup_singleton _, by decide, by decide, by decide⟩

end EclServer.Engine
