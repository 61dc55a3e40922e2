import EclServer.Engine.LgdRows

/-!
More collateral gives no smaller sums.

* `LessHaircut`, `MoreCollateral`: what a second input of `compute_lgd` has more than a first.
* `discountedSum_le`: the sums of the loop, type by type.
* `WorkingPair`, `forall₂_withEir`, `forall₂_withProportions`: the two inputs, row by row,
  before the loop.
* `forall₂_computeLgd`: the two outputs, row by row.
-/

namespace EclServer.Engine

open EclServer.Library

/-! ### Two inputs -/

/-- A type in a first and in a second configuration: the second haircut is not larger. -/
structure LessHaircut (cfg₁ cfg₂ : CollateralConfig) : Prop where
  name_eq : cfg₁.name = cfg₂.name
  time_eq : cfg₁.timeToRealize = cfg₂.timeToRealize
  time_nonneg : 0 ≤ cfg₁.timeToRealize
  nonneg : 0 ≤ cfg₂.haircut
  haircut_le : cfg₂.haircut ≤ cfg₁.haircut
  le_one : cfg₁.haircut ≤ 1

/-- A column of the loan data: one that `validate_lgd` knows, or one of no collateral type. -/
def LoanColumn (names : List String) (n : String) : Prop := n ∈ knownLgdColumns ∨ n ∉ names

instance (names : List String) : DecidablePred (LoanColumn names) := fun n =>
  inferInstanceAs (Decidable (n ∈ knownLgdColumns ∨ n ∉ names))

/-- **The second input has more collateral**: the loan data are the same, and of each type the
second has no smaller values, none of them negative, and no larger haircut. -/
structure MoreCollateral (df₁ df₂ : Frame) (config₁ config₂ : List CollateralConfig) : Prop where
  config : List.Forall₂ LessHaircut (configByName config₁) (configByName config₂)
  columns : df₁.columns.filter (LoanColumn (config₁.map (·.name)))
    = df₂.columns.filter (LoanColumn (config₁.map (·.name)))
  rows : List.Forall₂ (fun r₁ r₂ : Record =>
    (∀ n, LoanColumn (config₁.map (·.name)) n → r₁.cell n = r₂.cell n) ∧
      ∀ cfg ∈ config₁, 0 ≤ collateralValue df₁.columns r₁ cfg ∧
        collateralValue df₁.columns r₁ cfg ≤ collateralValue df₂.columns r₂ cfg)
    df₁.rows df₂.rows

/-- The ranges of the loan data, as `validate_lgd` checks them, wherever there is a number. -/
structure LgdInputs (env : PyEnv) (df : Frame) : Prop where
  amounts : ∀ r ∈ df.rows, ∀ q ∈ floatOf env (r.cell "Outstanding Amount"), 0 ≤ q
  rates : ∀ r ∈ df.rows, ∀ name ∈ lgdEirAliases, ∀ q ∈ floatOf env (r.cell name), 0 ≤ q ∧ q ≤ 1

/-! ### Discounted collateral -/

/-- A lower haircut gives no smaller factor. -/
lemma collateralDiscount_le {cfg₁ cfg₂ : CollateralConfig} (h : LessHaircut cfg₁ cfg₂)
    {eir : Option ℚ} (heir : ∀ e ∈ eir, 0 ≤ e) :
    Option.Rel (fun d₁ d₂ => 0 ≤ d₁ ∧ d₁ ≤ d₂) (collateralDiscount cfg₁ eir)
      (collateralDiscount cfg₂ eir) := by
  have hkept : 0 ≤ 1 - cfg₁.haircut ∧ 1 - cfg₁.haircut ≤ 1 - cfg₂.haircut :=
    ⟨by linarith [h.le_one], by linarith [h.haircut_le]⟩
  unfold collateralDiscount
  rw [← h.time_eq]
  by_cases htime : cfg₁.timeToRealize = 0
  · rw [if_pos htime, if_pos htime]
    exact Option.Rel.some hkept
  rw [if_neg htime, if_neg htime]
  cases eir with
  | none => exact Option.Rel.none
  | some e =>
      have he : 0 ≤ e := heir e rfl
      have hne : ¬ (e = -1 ∧ 0 < cfg₁.timeToRealize) := by
        rintro ⟨rfl, _⟩
        norm_num at he
      have hfactor : 0 ≤ (1 + e) ^ (-cfg₁.timeToRealize) := zpow_nonneg (by linarith) _
      simp only [if_neg hne]
      exact Option.Rel.some
        ⟨mul_nonneg hkept.1 hfactor, mul_le_mul_of_nonneg_right hkept.2 hfactor⟩

section Sums

variable {columns₁ columns₂ : List String} {r₁ r₂ : Record}

/-- What the loop reads of two rows: the same share and rate, and more collateral. -/
structure LoopPair (columns₁ columns₂ : List String) (cfgs : List CollateralConfig)
    (r₁ r₂ : Record) : Prop where
  cell_eq : ∀ n ∈ keptColumns, r₁.cell n = r₂.cell n
  share_nonneg : ∀ p ∈ numberOf (r₁.cell "Proportion"), 0 ≤ p
  eir_nonneg : ∀ e ∈ numberOf (r₁.cell "EIR"), 0 ≤ e
  value_le : ∀ cfg ∈ cfgs, 0 ≤ collateralValue columns₁ r₁ cfg ∧
    collateralValue columns₁ r₁ cfg ≤ collateralValue columns₂ r₂ cfg

lemma discountedValue_le {cfgs : List CollateralConfig} {cfg₁ cfg₂ : CollateralConfig}
    (hpair : LoopPair columns₁ columns₂ cfgs r₁ r₂) (hmem : cfg₁ ∈ cfgs)
    (h : LessHaircut cfg₁ cfg₂) :
    Option.Rel (· ≤ ·) (discountedValue columns₁ r₁ cfg₁) (discountedValue columns₂ r₂ cfg₂) := by
  obtain ⟨hvalue, hle⟩ := hpair.value_le cfg₁ hmem
  have hvalue₂ : collateralValue columns₂ r₂ cfg₁ = collateralValue columns₂ r₂ cfg₂ := by
    rw [collateralValue, collateralValue, h.name_eq]
  rw [hvalue₂] at hle
  rw [discountedValue, discountedValue, ← hpair.cell_eq "Proportion" (by decide),
    ← hpair.cell_eq "EIR" (by decide)]
  cases hshare : numberOf (r₁.cell "Proportion") with
  | none => exact Option.Rel.none
  | some p =>
      have hp : 0 ≤ p := hpair.share_nonneg p hshare
      have hdiscount := collateralDiscount_le h hpair.eir_nonneg
      generalize collateralDiscount cfg₁ (numberOf (r₁.cell "EIR")) = d₁ at hdiscount ⊢
      generalize collateralDiscount cfg₂ (numberOf (r₁.cell "EIR")) = d₂ at hdiscount ⊢
      cases hdiscount with
      | none => exact Option.Rel.none
      | some hd =>
          refine Option.Rel.some (mul_le_mul ?_ hd.2 hd.1 (mul_nonneg hp (hvalue.trans hle)))
          exact mul_le_mul_of_nonneg_left hle hp

/-- **The sums of the loop**: the induction is over the types, from starts in order. -/
lemma discountedSum_le {cfgs₁ cfgs₂ : List CollateralConfig}
    (hcfgs : List.Forall₂ LessHaircut cfgs₁ cfgs₂)
    (hpair : LoopPair columns₁ columns₂ cfgs₁ r₁ r₂) {start₁ start₂ : Option ℚ}
    (hstart : Option.Rel (· ≤ ·) start₁ start₂) :
    Option.Rel (· ≤ ·) (discountedSum columns₁ r₁ start₁ cfgs₁)
      (discountedSum columns₂ r₂ start₂ cfgs₂) := by
  induction hcfgs generalizing start₁ start₂ with
  | nil => exact hstart
  | @cons cfg₁ cfg₂ cfgs₁ cfgs₂ hcfg _ ih =>
      have hvalue := discountedValue_le hpair List.mem_cons_self hcfg
      have hrest : LoopPair columns₁ columns₂ cfgs₁ r₁ r₂ :=
        { hpair with value_le := fun cfg hmem => hpair.value_le cfg (List.mem_cons_of_mem _ hmem) }
      refine ih hrest ?_
      show Option.Rel (· ≤ ·) (do return (← start₁) + (← discountedValue columns₁ r₁ cfg₁))
        (do return (← start₂) + (← discountedValue columns₂ r₂ cfg₂))
      generalize discountedValue columns₁ r₁ cfg₁ = v₁ at hvalue ⊢
      generalize discountedValue columns₂ r₂ cfg₂ = v₂ at hvalue ⊢
      cases hstart with
      | none => exact Option.Rel.none
      | some hsum =>
          cases hvalue with
          | none => exact Option.Rel.none
          | some hv => exact Option.Rel.some (add_le_add hsum hv)

end Sums

/-! ### The rows before the loop -/

/-- Two rows of the sheets with a rate column: the same loan, and more collateral. -/
structure WorkingPair (columns₁ columns₂ : List String) (cfgs : List CollateralConfig)
    (r₁ r₂ : Record) : Prop where
  cell_eq : ∀ n ∈ ["Loan ID", "Customer ID", "Outstanding Amount", "EIR"], r₁.cell n = r₂.cell n
  amount_nonneg : ∀ q ∈ numberOf (r₁.cell "Outstanding Amount"), 0 ≤ q
  eir_nonneg : ∀ e ∈ numberOf (r₁.cell "EIR"), 0 ≤ e
  value_le : ∀ cfg ∈ cfgs, 0 ≤ collateralValue columns₁ r₁ cfg ∧
    collateralValue columns₁ r₁ cfg ≤ collateralValue columns₂ r₂ cfg

lemma mem_floatOf {env : PyEnv} {c : Cell} {q : ℚ} (h : q ∈ numberOf c) : q ∈ floatOf env c := by
  cases c with
  | num p => exact h
  | blank => cases h
  | str s => cases h
  | date t => cases h

lemma mem_of_mem_configByName {config : List CollateralConfig} {cfg : CollateralConfig}
    (h : cfg ∈ configByName config) : cfg ∈ config :=
  List.mem_reverse.mp (mem_of_mem_dropDuplicates _ ((mem_sortByKey _).mp h))

lemma loanColumn_of_mem_aliases {names : List String} {n : String} (h : n ∈ lgdEirAliases) :
    LoanColumn names n := Or.inl (List.mem_append_right _ h)

lemma lastEirColumn_mem (df : Frame) : lastEirColumn df ∈ lgdEirAliases := by
  rw [lastEirColumn]
  cases hlast : (df.columns.filter fun name =>
      name = resolveEirColumn df ∨ name = "EIR").getLast? with
  | none => exact resolveEirColumn_mem df
  | some name =>
      have hmem := List.mem_filter.mp (List.mem_of_getLast? hlast)
      rcases of_decide_eq_true hmem.2 with heq | heq
      · rw [Option.getD_some, heq]
        exact resolveEirColumn_mem df
      · rw [Option.getD_some, heq]
        decide

/-- The collateral after the rename: a type of the name of the resolved rate column is lost. -/
lemma collateralValue_renameEir {columns : List String} {eirCol last : String} {r : Record}
    {cfg : CollateralConfig} (hname : cfg.name ≠ "EIR") :
    collateralValue (columns.map fun name => if name = eirCol then "EIR" else name)
        (renameEir eirCol last r) cfg
      = if cfg.name = eirCol then 0 else collateralValue columns r cfg := by
  have hcell : (renameEir eirCol last r).cell cfg.name
      = if cfg.name = eirCol then .blank else r.cell cfg.name := by
    rw [cell_renameEir, if_neg hname]
  rw [collateralValue, hcell]
  by_cases hcol : cfg.name = eirCol
  · have habsent : cfg.name ∉ columns.map fun name => if name = eirCol then "EIR" else name := by
      intro hmem
      obtain ⟨name, _, heq⟩ := List.mem_map.mp hmem
      split at heq
      · exact hname heq.symm
      · rename_i hne
        exact hne (heq.trans hcol)
    rw [if_neg habsent, if_pos hcol]
  · have hmem : (cfg.name ∈ columns.map fun name => if name = eirCol then "EIR" else name)
        ↔ cfg.name ∈ columns := by
      constructor
      · intro hmem
        obtain ⟨name, hin, heq⟩ := List.mem_map.mp hmem
        split at heq
        · exact absurd heq.symm hname
        · rwa [← heq]
      · intro hin
        exact List.mem_map.mpr ⟨cfg.name, hin, if_neg hcol⟩
    rw [if_neg hcol, if_neg hcol, collateralValue]
    simp only [hmem]

section TwoRuns

variable {env : PyEnv} {df₁ df₂ working₁ working₂ : Frame}
  {config₁ config₂ : List CollateralConfig}

lemma MoreCollateral.mem_columns_iff (h : MoreCollateral df₁ df₂ config₁ config₂) {n : String}
    (hn : LoanColumn (config₁.map (·.name)) n) : n ∈ df₁.columns ↔ n ∈ df₂.columns := by
  have hmem : ∀ df : Frame, n ∈ df.columns
      ↔ n ∈ df.columns.filter (LoanColumn (config₁.map (·.name))) := by
    intro df
    rw [List.mem_filter]
    exact ⟨fun hin => ⟨hin, decide_eq_true hn⟩, fun hin => hin.1⟩
  rw [hmem df₁, hmem df₂, h.columns]

lemma MoreCollateral.resolveEirColumn_eq (h : MoreCollateral df₁ df₂ config₁ config₂) :
    resolveEirColumn df₁ = resolveEirColumn df₂ := by
  have hfind : df₁.resolveColumn? lgdEirAliases = df₂.resolveColumn? lgdEirAliases :=
    List.find?_congr fun n hn => by
      rw [decide_eq_decide]
      exact h.mem_columns_iff (loanColumn_of_mem_aliases hn)
  rw [resolveEirColumn, resolveEirColumn, resolveColumn, resolveColumn, hfind]

lemma MoreCollateral.lastEirColumn_eq (h : MoreCollateral df₁ df₂ config₁ config₂) :
    lastEirColumn df₁ = lastEirColumn df₂ := by
  have hfilter : ∀ df : Frame, (df.columns.filter fun name =>
        name = resolveEirColumn df₁ ∨ name = "EIR")
      = (df.columns.filter (LoanColumn (config₁.map (·.name)))).filter fun name =>
        name = resolveEirColumn df₁ ∨ name = "EIR" := by
    intro df
    rw [List.filter_filter]
    refine List.filter_congr fun n _ => ?_
    by_cases hn : n = resolveEirColumn df₁ ∨ n = "EIR"
    · have hloan : LoanColumn (config₁.map (·.name)) n := by
        rcases hn with rfl | rfl
        · exact loanColumn_of_mem_aliases (resolveEirColumn_mem df₁)
        · exact loanColumn_of_mem_aliases (by decide)
      rw [decide_eq_true hn, decide_eq_true hloan]
      rfl
    · rw [decide_eq_false hn]
      rfl
  rw [lastEirColumn, lastEirColumn, ← h.resolveEirColumn_eq, hfilter df₁, hfilter df₂, h.columns]

/-- **The sheets with a rate column**, row by row. -/
lemma forall₂_withEir (h : MoreCollateral df₁ df₂ config₁ config₂) (hin : LgdInputs env df₁)
    (hapart : NamesApart ((configByName config₁).map (·.name)))
    (h₁ : withEir df₁ config₁ = .ok working₁) (h₂ : withEir df₂ config₂ = .ok working₂) :
    List.Forall₂ (WorkingPair working₁.columns working₂.columns (configByName config₁))
      working₁.rows working₂.rows := by
  have hknown : ∀ n ∈ ["Loan ID", "Customer ID", "Outstanding Amount", "EIR"],
      LoanColumn (config₁.map (·.name)) n := by
    intro n hn
    have hall : ∀ m ∈ ["Loan ID", "Customer ID", "Outstanding Amount", "EIR"],
        m ∈ knownLgdColumns := by decide
    exact Or.inl (hall n hn)
  have hamount : ∀ r ∈ df₁.rows, ∀ q ∈ numberOf (r.cell "Outstanding Amount"), 0 ≤ q :=
    fun r hr q hq => hin.amounts r hr q (mem_floatOf hq)
  have hrate : ∀ name ∈ lgdEirAliases, ∀ r ∈ df₁.rows, ∀ e ∈ numberOf (r.cell name), 0 ≤ e :=
    fun name hname r hr e he => (hin.rates r hr name hname e (mem_floatOf he)).1
  have hrows : List.Forall₂ _ df₁.rows df₂.rows :=
    (List.forall₂_and_left _ _).mpr ⟨fun r hr => hr, h.rows⟩
  rcases withEir_ok h₁ with ⟨heir₁, rfl⟩ | ⟨heir₁, _, hcolumns₁, hrows₁⟩
  · obtain rfl : working₂ = df₂ := by
      rcases withEir_ok h₂ with ⟨_, rfl⟩ | ⟨heir₂, _⟩
      · rfl
      · exact absurd (h.resolveEirColumn_eq.symm.trans heir₁) heir₂
    refine hrows.imp fun r₁ r₂ hpair => ?_
    obtain ⟨hmem, hcell, hvalue⟩ := hpair
    exact ⟨fun n hn => hcell n (hknown n hn), hamount r₁ hmem,
      hrate "EIR" (by decide) r₁ hmem, fun cfg hcfg => hvalue cfg (mem_of_mem_configByName hcfg)⟩
  · obtain ⟨hcolumns₂, hrows₂⟩ : _ ∧ _ := by
      rcases withEir_ok h₂ with ⟨heir₂, _⟩ | ⟨_, _, hcolumns₂, hrows₂⟩
      · exact absurd (h.resolveEirColumn_eq.trans heir₂) heir₁
      · exact And.intro hcolumns₂ hrows₂
    rw [hcolumns₁, hcolumns₂, hrows₁, hrows₂, ← h.resolveEirColumn_eq, ← h.lastEirColumn_eq,
      List.forall₂_map_left_iff, List.forall₂_map_right_iff]
    refine hrows.imp fun r₁ r₂ hpair => ?_
    obtain ⟨hmem, hcell, hvalue⟩ := hpair
    have hlast : LoanColumn (config₁.map (·.name)) (lastEirColumn df₁) :=
      loanColumn_of_mem_aliases (lastEirColumn_mem df₁)
    refine ⟨fun n hn => ?_, fun q hq => ?_, fun e he => ?_, fun cfg hcfg => ?_⟩
    · simp only [renameEir, hcell n (hknown n hn), hcell _ hlast]
    · have hcol : ("Outstanding Amount" : String) ≠ resolveEirColumn df₁ := by
        intro heq
        have hmem := resolveEirColumn_mem df₁
        rw [← heq] at hmem
        exact absurd hmem (by decide)
      have hsame : (renameEir (resolveEirColumn df₁) (lastEirColumn df₁) r₁).cell
          "Outstanding Amount" = r₁.cell "Outstanding Amount" := by
        rw [cell_renameEir, if_neg (by decide), if_neg hcol]
      rw [hsame] at hq
      exact hamount r₁ hmem q hq
    · have hsame : (renameEir (resolveEirColumn df₁) (lastEirColumn df₁) r₁).cell "EIR"
          = r₁.cell (lastEirColumn df₁) := by
        rw [cell_renameEir, if_pos rfl]
      rw [hsame] at he
      exact hrate _ (lastEirColumn_mem df₁) r₁ hmem e he
    · have hname : cfg.name ≠ "EIR" := by
        intro heq
        exact hapart.fixed cfg.name (List.mem_map_of_mem hcfg) (heq ▸ List.mem_cons_self)
      rw [collateralValue_renameEir hname, collateralValue_renameEir hname]
      split
      · exact ⟨le_rfl, le_rfl⟩
      · exact hvalue cfg (mem_of_mem_configByName hcfg)

/-! ### The shares -/

lemma amountOf_eq (r : Record) : amountOf r = numberOf (r.cell "Outstanding Amount") := by
  rw [amountOf]
  cases r.cell "Outstanding Amount" <;> rfl

/-- A total of amounts that are not negative is not negative. -/
lemma customerTotal_nonneg {rows : List Record}
    (h : ∀ r ∈ rows, ∀ q ∈ numberOf (r.cell "Outstanding Amount"), 0 ≤ q) (customer : Cell) :
    ∀ t ∈ customerTotal rows amountOf customer, 0 ≤ t := by
  intro t ht
  rw [customerTotal] at ht
  split at ht
  · cases ht
  · rw [← Option.some.inj ht]
    refine List.sum_nonneg fun q hq => ?_
    obtain ⟨r, hr, rfl⟩ := List.mem_map.mp hq
    rw [amountOf_eq]
    cases hamount : numberOf (r.cell "Outstanding Amount") with
    | none => exact le_rfl
    | some q => exact h r (List.mem_of_mem_filter hr) q hamount

lemma proportion_nonneg {amount total : Option ℚ} (hamount : ∀ q ∈ amount, 0 ≤ q)
    (htotal : ∀ t ∈ total, 0 ≤ t) : 0 ≤ proportion amount total := by
  cases amount with
  | none => exact le_rfl
  | some q =>
      cases total with
      | none => exact le_rfl
      | some t =>
          rw [proportion]
          split_ifs
          · exact le_rfl
          · exact div_nonneg (hamount q rfl) (htotal t rfl)

/-- The totals depend on customers and amounts alone. -/
lemma customerTotal_congr {rows₁ rows₂ : List Record} {R : Record → Record → Prop}
    (hR : ∀ r₁ r₂, R r₁ r₂ → r₁.cell "Customer ID" = r₂.cell "Customer ID" ∧
      r₁.cell "Outstanding Amount" = r₂.cell "Outstanding Amount")
    (h : List.Forall₂ R rows₁ rows₂) (customer : Cell) :
    customerTotal rows₁ amountOf customer = customerTotal rows₂ amountOf customer := by
  rw [customerTotal, customerTotal]
  have hsum : ((rows₁.filter fun r => r.cell "Customer ID" = customer).map
        fun r => (amountOf r).getD 0)
      = (rows₂.filter fun r => r.cell "Customer ID" = customer).map
        fun r => (amountOf r).getD 0 := by
    induction h with
    | nil => rfl
    | cons hr _ ih =>
        obtain ⟨hcustomer, hamount⟩ := hR _ _ hr
        rw [List.filter_cons, List.filter_cons, hcustomer]
        split
        · rw [List.map_cons, List.map_cons, ih, amountOf_eq, amountOf_eq, hamount]
        · exact ih
  rw [hsum]

lemma collateralValue_withShare {working : Frame} {r : Record} {total : Cell} {share : ℚ}
    {cfg : CollateralConfig} (hname : cfg.name ∉ [totalColumn, "Proportion"]) :
    collateralValue (shareColumns working)
        ((r.set totalColumn total).set "Proportion" (.num share)) cfg
      = collateralValue working.columns r cfg := by
  have hmem : cfg.name ∈ shareColumns working ↔ cfg.name ∈ working.columns := by
    rw [shareColumns, List.mem_append]
    exact or_iff_left hname
  rw [collateralValue, collateralValue, cell_withShare hname]
  simp only [hmem]

/-- **The rows with their shares**: every row has the same share in both. -/
lemma forall₂_withProportions {cfgs : List CollateralConfig} {rows₁ rows₂ : List Record}
    (hapart : NamesApart (cfgs.map (·.name)))
    (h : List.Forall₂ (WorkingPair working₁.columns working₂.columns cfgs) rows₁ rows₂) :
    List.Forall₂ (LoopPair (shareColumns working₁) (shareColumns working₂) cfgs)
      (withProportions rows₁ amountOf) (withProportions rows₂ amountOf) := by
  have hamount : ∀ r ∈ rows₁, ∀ q ∈ numberOf (r.cell "Outstanding Amount"), 0 ≤ q := by
    intro r hr
    obtain ⟨i, hi, rfl⟩ := List.mem_iff_getElem.mp hr
    obtain ⟨hlen, hget⟩ := List.forall₂_iff_get.mp h
    exact (hget i hi (hlen ▸ hi)).amount_nonneg
  have htotal : ∀ customer, customerTotal rows₁ amountOf customer
      = customerTotal rows₂ amountOf customer :=
    customerTotal_congr (fun r₁ r₂ hr => ⟨hr.cell_eq _ (by decide), hr.cell_eq _ (by decide)⟩) h
  rw [withProportions, withProportions, List.forall₂_map_left_iff, List.forall₂_map_right_iff]
  refine h.imp fun r₁ r₂ hr => ?_
  have hamounts : amountOf r₁ = amountOf r₂ := by
    rw [amountOf_eq, amountOf_eq, hr.cell_eq _ (by decide)]
  have hcustomer : r₁.cell "Customer ID" = r₂.cell "Customer ID" := hr.cell_eq _ (by decide)
  refine ⟨fun n hn => ?_, ?_, ?_, fun cfg hcfg => ?_⟩
  · by_cases hshare : n = "Proportion"
    · subst hshare
      rw [Record.cell_set_same, Record.cell_set_same, hamounts, hcustomer, htotal]
    · have hkept : ∀ m ∈ keptColumns, m ≠ "Proportion" → m ∉ [totalColumn, "Proportion"] ∧
          m ∈ ["Loan ID", "Customer ID", "Outstanding Amount", "EIR"] := by decide
      obtain ⟨hfixed, hloan⟩ := hkept n hn hshare
      rw [cell_withShare hfixed, cell_withShare hfixed]
      exact hr.cell_eq n hloan
  · intro p hp
    rw [Record.cell_set_same] at hp
    rw [← Option.some.inj hp]
    refine proportion_nonneg ?_ (customerTotal_nonneg hamount _)
    rw [amountOf_eq]
    exact hr.amount_nonneg
  · intro e he
    rw [cell_withShare (by decide)] at he
    exact hr.eir_nonneg e he
  · have hname : cfg.name ∉ [totalColumn, "Proportion"] := by
      intro hmem
      refine hapart.fixed cfg.name (List.mem_map_of_mem hcfg) (List.mem_cons_of_mem _ ?_)
      simp only [List.mem_cons, List.not_mem_nil, or_false] at hmem ⊢
      rcases hmem with heq | heq
      · exact Or.inl heq
      · exact Or.inr (Or.inl heq)
    rw [collateralValue_withShare hname, collateralValue_withShare hname]
    exact hr.value_le cfg hcfg

/-! ### The outputs -/

/-- Two rows of the output: the same loan, and no smaller sum. -/
structure LgdOutPair (y₁ y₂ : Record) : Prop where
  cell_eq : ∀ n ∈ keptColumns, y₁.cell n = y₂.cell n
  sum_le : ∃ sum₁ sum₂, y₁.cell lgdSumCol = Cell.ofNumber sum₁ ∧
    y₂.cell lgdSumCol = Cell.ofNumber sum₂ ∧ Option.Rel (· ≤ ·) sum₁ sum₂

/-- **`compute_lgd` on more collateral** gives the same loans with no smaller sums. -/
theorem forall₂_computeLgd {out₁ out₂ : Frame} (h : MoreCollateral df₁ df₂ config₁ config₂)
    (hin : LgdInputs env df₁) (hapart : NamesApart ((configByName config₁).map (·.name)))
    (h₁ : computeLgd df₁ config₁ = .ok out₁) (h₂ : computeLgd df₂ config₂ = .ok out₂) :
    List.Forall₂ LgdOutPair out₁.rows out₂.rows := by
  have hnames : (configByName config₁).map (·.name) = (configByName config₂).map (·.name) := by
    rw [← List.forall₂_eq_eq_eq, List.forall₂_map_left_iff, List.forall₂_map_right_iff]
    exact h.config.imp fun _ _ hcfg => hcfg.name_eq
  obtain ⟨working₁, rows₁, hworking₁, hrows₁, hout₁⟩ := computeLgd_ok h₁
  obtain ⟨working₂, rows₂, hworking₂, hrows₂, hout₂⟩ := computeLgd_ok h₂
  have hworking := forall₂_withEir h hin hapart hworking₁ hworking₂
  have hsorted : List.Forall₂
      (WorkingPair working₁.columns working₂.columns (configByName config₁))
      (sortByKey lgdSortKey working₁.rows) (sortByKey lgdSortKey working₂.rows) := by
    refine forall₂_sortByKey _ (fun r₁ r₂ hr => ?_) hworking
    simp only [lgdSortKey, hr.cell_eq "Customer ID" (by decide),
      hr.cell_eq "Loan ID" (by decide)]
  have hshares := forall₂_withProportions hapart hsorted
  have hpairs : List.Forall₂ LgdOutPair rows₁ rows₂ := by
    refine forall₂_comp (S := fun r₁ y₂ => ∃ r₂, LoopPair (shareColumns working₁)
      (shareColumns working₂) (configByName config₁) r₁ r₂ ∧
      LgdOutRow (shareColumns working₂) config₂ r₂ y₂) ?_ hrows₁.flip
      (forall₂_comp (fun r₁ r₂ y₂ hr hy => ⟨r₂, hr, hy⟩) hshares hrows₂)
    rintro y₁ r₁ y₂ hy₁ ⟨r₂, hr, hy₂⟩
    refine ⟨fun n hn => ?_, _, _, hy₁.sum_eq hapart.readInOrder,
      hy₂.sum_eq (hnames ▸ hapart.readInOrder), ?_⟩
    · rw [hy₁.cell_eq n hn, hr.cell_eq n hn, hy₂.cell_eq n hn]
    · exact discountedSum_le h.config hr (Option.Rel.some le_rfl)
  rw [hout₁, hout₂]
  exact forall₂_sortByKey _ (fun y₁ y₂ hy => by rw [hy.cell_eq "Loan ID" (by decide)]) hpairs

/-- The rates of the output are rates of the sheet. -/
lemma eir_of_computeLgd {out : Frame} (h : computeLgd df₁ config₁ = .ok out) {y : Record}
    (hy : y ∈ out.rows) : ∃ r ∈ df₁.rows, ∃ name ∈ lgdEirAliases, y.cell "EIR" = r.cell name := by
  obtain ⟨working, rows, hworking, hrows, hout⟩ := computeLgd_ok h
  rw [hout, mem_sortByKey] at hy
  obtain ⟨i, hi, rfl⟩ := List.mem_iff_getElem.mp hy
  obtain ⟨hlen, hget⟩ := List.forall₂_iff_get.mp hrows
  have hi' : i < (withProportions (sortByKey lgdSortKey working.rows) amountOf).length := by omega
  have hcell := (hget i hi' hi).cell_eq "EIR" (by decide)
  obtain ⟨r, hr, hshare⟩ := List.mem_map.mp (List.getElem_mem hi')
  have hrate : rows[i].cell "EIR" = r.cell "EIR" := by
    refine hcell.trans ?_
    rw [List.get_eq_getElem, ← hshare]
    exact cell_withShare (by decide)
  rw [mem_sortByKey] at hr
  rcases withEir_ok hworking with ⟨_, rfl⟩ | ⟨_, _, _, hrenamed⟩
  · exact ⟨r, hr, "EIR", by decide, hrate⟩
  · rw [hrenamed] at hr
    obtain ⟨record, hrecord, rfl⟩ := List.mem_map.mp hr
    refine ⟨record, hrecord, lastEirColumn df₁, lastEirColumn_mem df₁, ?_⟩
    rw [hrate, cell_renameEir, if_pos rfl]

end TwoRuns

end EclServer.Engine
