import EclServer.Engine.Accepted
import EclServer.Engine.PooledCollateral

/-!
When the collateral types of a tenant are read apart from each other.

* `uploadedTotal`: what the types add up to for a loan, of the values that the sheet has of them.
* `TypesApart`: no type has the name of a column that the engine reads the rate of or makes for
  all loans, and none the name of one that it makes for a type before it in the order of names.
* `TypesIndependent`, `types_independent_iff`: the sums are those of the sheet, for all accepted
  sheets, exactly where the types are apart.
* `onesFrame`, `Turns`: a sheet with a one in every cell, and the loop on its row; with all but a
  few types cut off by their haircut, it shows what these few are read as.
-/

namespace EclServer.Engine

open EclServer.Library

/-- A name that the collateral service accepts. -/
structure ServiceName (name : String) : Prop where
  stripped : pyStrip name = name
  length : 2 ≤ name.length ∧ name.length ≤ 100

/-- The discounted collateral of a loan, of its share and rate and the values of the sheet. -/
def uploadedTotal (df : Frame) (config : List CollateralConfig) (r y : Record) : ℚ :=
  (config.map fun cfg => numberAt "Proportion" y * collateralValue df.columns r cfg
    * ((1 - cfg.haircut) * (1 + numberAt "EIR" y) ^ (-cfg.timeToRealize))).sum

/-- **The types do not interfere**: in the output for an accepted sheet, the sum of each loan is
made of the values of the sheet. -/
def TypesIndependent (env : PyEnv) (names : List String) : Prop :=
  ∀ (df out : Frame) (sheetName : String) (config : List CollateralConfig),
    config.map (·.name) = names →
    (∀ cfg ∈ config, 0 ≤ cfg.haircut ∧ cfg.haircut ≤ 1 ∧ 0 ≤ cfg.timeToRealize) →
    (validateLgd env df sheetName names).isValid = true →
    computeLgd df config = .ok out →
    ∀ r ∈ df.rows, ∀ y ∈ out.rows, y.cell "Loan ID" = r.cell "Loan ID" →
      y.cell lgdSumCol = .num (uploadedTotal df config r y)

/-- The columns that the engine reads the rate of, or makes for all loans. -/
def reservedColumns : List String := lgdEirAliases ++ [totalColumn, "Proportion"]

/-- The names of the types are apart. -/
structure TypesApart (names : List String) : Prop where
  reserved : ∀ c ∈ names, c ∉ reservedColumns
  made : ∀ c ∈ names, ∀ d ∈ names, c < d → d ≠ proportionalColumn c ∧ d ≠ discountedColumn c

/-! ### Names that are apart -/

section Apart

variable {env : PyEnv} {df out : Frame} {config : List CollateralConfig} {sheetName : String}

/-- The types in the order of the loop have ascending names. -/
lemma pairwise_configByName (hnodup : (config.map (·.name)).Nodup) :
    (configByName config).Pairwise fun a b => a.name < b.name := by
  have hsorted := sortByKey_sorted CollateralConfig.name
    (dropDuplicates CollateralConfig.name config.reverse)
  have hdistinct : ((configByName config).map (·.name)).Nodup :=
    ((configByName_perm hnodup).map _).nodup_iff.mpr hnodup
  exact (hsorted.and (List.pairwise_map.mp hdistinct)).imp fun h => lt_of_le_of_ne h.1 h.2

lemma configByName_of_sorted (h : config.Pairwise fun a b => a.name < b.name) :
    configByName config = config := by
  have hnodup : (config.map (·.name)).Nodup := List.pairwise_map.mpr (h.imp fun hlt => hlt.ne)
  exact sortByKey_eq_of_perm _ ((sortByKey_perm _ _).symm.trans (configByName_perm hnodup)) h

lemma TypesApart.readInOrder (h : TypesApart (config.map (·.name)))
    (hnodup : (config.map (·.name)).Nodup) :
    ReadInOrder ((configByName config).map (·.name)) := by
  refine List.pairwise_map.mpr ((pairwise_configByName hnodup).imp_of_mem ?_)
  intro a b ha hb hlt
  obtain ⟨hprop, hdisc⟩ := h.made a.name (List.mem_map_of_mem (mem_of_mem_configByName ha)) b.name
    (List.mem_map_of_mem (mem_of_mem_configByName hb)) hlt
  exact ⟨hlt.ne', hprop, hdisc⟩

/-- The rate of an accepted row that is a number or a blank. -/
lemma LgdChecked.exists_rate {names : List String} (h : LgdChecked env df names)
    (hnum : ∀ q, env.toNumeric (.num q) = some q) (hblank : env.toNumeric .blank = none)
    {r : Record} (hr : r ∈ df.rows) {x : Option ℚ}
    (hx : r.cell (resolveEirColumn df) = Cell.ofNumber x) :
    ∃ e, r.cell (resolveEirColumn df) = .num e ∧ 0 ≤ e := by
  obtain ⟨name, hname, -, hrate⟩ := h.rate
  have hcol : resolveEirColumn df = name := by rw [resolveEirColumn, resolveColumn, hname,
    Option.getD_some]
  obtain ⟨q, hq, hmin, -⟩ := hrate r hr
  rw [← hcol, hx] at hq
  rw [hx]
  cases x with
  | none => exact absurd (hblank.symm.trans hq) (by simp)
  | some e =>
      obtain rfl : e = q := Option.some.inj ((hnum e).symm.trans hq)
      exact ⟨e, rfl, hmin 0 rfl⟩

/-- Types with names apart do not interfere. -/
lemma TypesApart.independent {names : List String} (h : TypesApart names) (hnodup : names.Nodup)
    (hnum : ∀ q, env.toNumeric (.num q) = some q) (hblank : env.toNumeric .blank = none) :
    TypesIndependent env names := by
  rintro df out sheetName config rfl - hvalid hout r hr y hy hloan
  have hchecked := lgdChecked_of_isValid hvalid
  have hreserved : ∀ cfg ∈ config, cfg.name ∉ reservedColumns :=
    fun cfg hcfg => h.reserved _ (List.mem_map_of_mem hcfg)
  have hfixed : ∀ cfg ∈ config, cfg.name ∉ ["EIR", totalColumn, "Proportion"] := by
    intro cfg hcfg hmem
    have hall : ∀ n ∈ ["EIR", totalColumn, "Proportion"], n ∈ reservedColumns := by decide
    exact hreserved cfg hcfg (hall _ hmem)
  obtain ⟨loans, rows, hloans, hrows, hperm⟩ := computeLgd_loans hout hfixed (h.readInOrder hnodup)
  obtain ⟨r', hr', hrow⟩ := exists_outLoan hloans hrows hperm hy
  obtain rfl : r' = r := List.inj_on_of_nodup_map hchecked.loanId_nodup hr' hr
    (hrow.loan_eq.symm.trans hloan)
  by_cases hconfig : config = []
  · subst hconfig
    rw [hrow.sum_eq]
    simp [discountedTotal, configByName, dropDuplicates, uploadedTotal]
    rfl
  · obtain ⟨x, hx⟩ := hrow.rate_ok hconfig
    obtain ⟨e, he, he0⟩ := hchecked.exists_rate hnum hblank hr hx
    have hshare : numberAt "Proportion" y = loanShare df r' := by rw [numberAt, hrow.share_eq]; rfl
    have hrate : numberAt "EIR" y = e := by rw [numberAt, hrow.rate_eq hconfig, he]; rfl
    rw [hrow.sum_eq, discountedTotal_eq hnodup he he0, uploadedTotal, hshare, hrate]
    refine congrArg Cell.num (congrArg List.sum (List.map_congr_left fun cfg hcfg => ?_))
    have hname : cfg.name ≠ resolveEirColumn df := by
      intro heq
      refine hreserved cfg hcfg (List.mem_append_left _ ?_)
      rw [heq]
      exact resolveEirColumn_mem df
    rw [statedValue, if_neg hname]

end Apart

/-! ### The loop on one row -/

/-- The columns that the loop makes. -/
def madeColumns (cfgs : List CollateralConfig) : List String :=
  cfgs.flatMap fun cfg => [cfg.name, proportionalColumn cfg.name, discountedColumn cfg.name]

/-- The loop over `cfgs` makes `y` of the one row `x`. -/
def Turns (columns : List String) (cfgs : List CollateralConfig) (x y : Record × Option ℚ) : Prop :=
  cfgs.foldlM addCollateral { columns := columns, rows := [x] }
    = .ok { columns := columns ++ madeColumns cfgs, rows := [y] }

section Turns

variable {columns : List String} {cfgs later : List CollateralConfig} {cfg : CollateralConfig}
  {x y : Record × Option ℚ}

lemma addCollateral_row {work : LgdWork}
    (h : addCollateral { columns := columns, rows := [x] } cfg = .ok work) :
    ∃ y, work = { columns := columns ++ madeColumns [cfg], rows := [y] } ∧
      collateralRow cfg (decide (cfg.name ∈ columns)) x = .ok y := by
  obtain ⟨rows, hrows, h⟩ := bind_eq_ok.mp h
  have hpairs := forall₂_of_mapM_ok hrows
  rw [List.forall₂_cons_left_iff] at hpairs
  obtain ⟨y, ys, hy, hnone, rfl⟩ := hpairs
  obtain rfl := List.forall₂_nil_left_iff.mp hnone
  exact ⟨y, (Except.ok.inj h).symm, hy⟩

/-- A loop on one row is such a loop. -/
lemma exists_turns {work : LgdWork}
    (h : cfgs.foldlM addCollateral { columns := columns, rows := [x] } = .ok work) :
    ∃ y, work.rows = [y] ∧ Turns columns cfgs x y := by
  induction cfgs generalizing columns x with
  | nil =>
      obtain rfl := Except.ok.inj h
      refine ⟨x, rfl, ?_⟩
      rw [Turns, madeColumns, List.flatMap_nil, List.append_nil]
      rfl
  | cons cfg cfgs ih =>
      rw [List.foldlM_cons] at h
      obtain ⟨work₁, hturn, hrest⟩ := bind_eq_ok.mp h
      obtain ⟨y, rfl, -⟩ := addCollateral_row hturn
      obtain ⟨z, hz, hturns⟩ := ih hrest
      refine ⟨z, hz, ?_⟩
      rw [Turns, List.foldlM_cons, hturn]
      refine hturns.trans ?_
      rw [madeColumns, madeColumns, madeColumns, List.append_assoc, ← List.flatMap_append]
      rfl

/-- A loop goes through its first types and then through the later ones. -/
lemma Turns.split (h : Turns columns (cfgs ++ later) x y) :
    ∃ z, Turns columns cfgs x z ∧ Turns (columns ++ madeColumns cfgs) later z y := by
  rw [Turns, List.foldlM_append] at h
  obtain ⟨work, hfirst, hrest⟩ := bind_eq_ok.mp h
  obtain ⟨z, -, hz⟩ := exists_turns hfirst
  obtain rfl := Except.ok.inj (hz.symm.trans hfirst)
  obtain ⟨y', hy', hturns⟩ := exists_turns hrest
  obtain rfl : y = y' := (List.cons.inj hy').1
  exact ⟨z, hz, hturns⟩

/-- A column that no type of the loop makes. -/
lemma Turns.cell_eq (h : Turns columns cfgs x y) (hcolumns : ∀ n ∈ keptColumns, n ∈ columns)
    {n : String} (hn : Untouched columns cfgs n) : y.1.cell n = x.1.cell n := by
  have hrows := foldlM_addCollateral hcolumns h
  exact (List.forall₂_cons.mp hrows).1.cell_eq n hn

/-- One turn. -/
lemma Turns.row (h : Turns columns [cfg] x y) (hcolumns : ∀ n ∈ keptColumns, n ∈ columns) :
    y.1.cell (proportionalColumn cfg.name) = Cell.ofNumber (proportionalValue columns x.1 cfg) ∧
      y.1.cell (discountedColumn cfg.name) = Cell.ofNumber (discountedValue columns x.1 cfg) ∧
      y.2 = (do return (← x.2) + (← discountedValue columns x.1 cfg)) := by
  obtain ⟨work, hturn, hrest⟩ := bind_eq_ok.mp h
  obtain ⟨y', rfl, hrow⟩ := addCollateral_row hturn
  obtain rfl : y' = y := (List.cons.inj (congrArg LgdWork.rows (Except.ok.inj hrest))).1
  obtain ⟨-, hprop, hdisc, hsum, -⟩ := collateralRow_ok hcolumns hrow
  exact ⟨hprop, hdisc, hsum⟩

/-- A turn of a type that is not discounted for time. -/
lemma Turns.sum_eq (h : Turns columns [cfg] x y) (hcolumns : ∀ n ∈ keptColumns, n ∈ columns)
    (htime : cfg.timeToRealize = 0) {p s : ℚ} (hp : x.1.cell "Proportion" = .num p)
    (hs : x.2 = some s) :
    y.2 = some (s + p * collateralValue columns x.1 cfg * (1 - cfg.haircut)) := by
  have hdiscount : collateralDiscount cfg (numberOf (x.1.cell "EIR")) = some (1 - cfg.haircut) := by
    unfold collateralDiscount
    rw [if_pos htime]
  rw [(h.row hcolumns).2.2, hs, discountedValue, hp, hdiscount]
  rfl

lemma mem_append_columns (hcolumns : ∀ n ∈ keptColumns, n ∈ columns) (made : List String) :
    ∀ n ∈ keptColumns, n ∈ columns ++ made := fun n hn => List.mem_append_left _ (hcolumns n hn)

/-- Types that their haircut cuts off add nothing. -/
lemma Turns.sum_eq_of_cut (h : Turns columns cfgs x y)
    (hcolumns : ∀ n ∈ keptColumns, n ∈ columns)
    (hcut : ∀ cfg ∈ cfgs, cfg.haircut = 1 ∧ cfg.timeToRealize = 0) {p s : ℚ}
    (hp : x.1.cell "Proportion" = .num p) (hs : x.2 = some s) : y.2 = some s := by
  induction cfgs generalizing columns x with
  | nil =>
      obtain rfl : x = y := (List.cons.inj (congrArg LgdWork.rows (Except.ok.inj h))).1
      exact hs
  | cons cfg cfgs ih =>
      obtain ⟨z, hturn, hrest⟩ := @Turns.split columns [cfg] cfgs x y h
      obtain ⟨hhaircut, htime⟩ := hcut cfg List.mem_cons_self
      refine ih hrest (mem_append_columns hcolumns _)
        (fun c hc => hcut c (List.mem_cons_of_mem _ hc)) ?_ ?_
      · rw [hturn.cell_eq hcolumns (untouched_of_mem_keptColumns hcolumns (by decide)), hp]
      · rw [hturn.sum_eq hcolumns htime hp hs, hhaircut, sub_self, mul_zero, add_zero]

/-- A single type that is not cut off adds what it is read as. -/
lemma Turns.sum_eq_of_one {pre post : List CollateralConfig}
    (h : Turns columns (pre ++ cfg :: post) x y) (hcolumns : ∀ n ∈ keptColumns, n ∈ columns)
    (hcut : ∀ c ∈ pre ++ post, c.haircut = 1 ∧ c.timeToRealize = 0)
    (hfull : cfg.haircut = 0 ∧ cfg.timeToRealize = 0) {s : ℚ}
    (hp : x.1.cell "Proportion" = .num 1) (hs : x.2 = some s) :
    ∃ z, Turns columns pre x z ∧ z.2 = some s ∧
      y.2 = some (s + collateralValue (columns ++ madeColumns pre) z.1 cfg) := by
  obtain ⟨hhaircut, htime⟩ := hfull
  obtain ⟨z, hpre, hrest⟩ := h.split
  obtain ⟨w, hturn, hpost⟩ := @Turns.split _ [cfg] post _ _ hrest
  have hcolumns₁ := mem_append_columns hcolumns (madeColumns pre)
  have hcolumns₂ := mem_append_columns hcolumns₁ (madeColumns [cfg])
  have hpz : z.1.cell "Proportion" = .num 1 := by
    rw [hpre.cell_eq hcolumns (untouched_of_mem_keptColumns hcolumns (by decide)), hp]
  have hpw : w.1.cell "Proportion" = .num 1 := by
    rw [hturn.cell_eq hcolumns₁ (untouched_of_mem_keptColumns hcolumns₁ (by decide)), hpz]
  have hsz := hpre.sum_eq_of_cut hcolumns (fun c hc => hcut c (List.mem_append_left _ hc)) hp hs
  have hsw := hturn.sum_eq hcolumns₁ htime hpz hsz
  rw [hhaircut, sub_zero, mul_one, one_mul] at hsw
  exact ⟨z, hpre, hsz, hpost.sum_eq_of_cut hcolumns₂
    (fun c hc => hcut c (List.mem_append_right _ hc)) hpw hsw⟩

lemma collateralValue_of_cell {r : Record} {q : ℚ} (hmem : cfg.name ∈ columns)
    (hcell : r.cell cfg.name = .num q) : collateralValue columns r cfg = q := by
  rw [collateralValue, if_pos hmem, hcell]
  rfl

/-- A type of which there is one, and one that reads what the first makes: both are counted. -/
lemma Turns.sum_eq_of_made {pre mid post : List CollateralConfig} {first : CollateralConfig}
    (h : Turns columns (pre ++ first :: (mid ++ cfg :: post)) x y)
    (hcolumns : ∀ n ∈ keptColumns, n ∈ columns)
    (hcut : ∀ c ∈ pre ++ (mid ++ post), c.haircut = 1 ∧ c.timeToRealize = 0)
    (hfull : ∀ c ∈ [first, cfg], c.haircut = 0 ∧ c.timeToRealize = 0)
    (hp : x.1.cell "Proportion" = .num 1) (hs : x.2 = some 0) (hfirst : first.name ∈ columns)
    (hone : x.1.cell first.name = .num 1) (hpre : Untouched columns pre first.name)
    (hmade : cfg.name = proportionalColumn first.name ∨ cfg.name = discountedColumn first.name)
    (hmid : ∀ c ∈ mid, cfg.name ≠ proportionalColumn c.name ∧ cfg.name ≠ discountedColumn c.name) :
    y.2 = some 2 := by
  obtain ⟨hhaircut, htime⟩ := hfull first (by simp)
  obtain ⟨z, hloop, hrest⟩ := h.split
  obtain ⟨w, hturn, hrest⟩ := @Turns.split _ [first] _ _ _ hrest
  have hcolumns₁ := mem_append_columns hcolumns (madeColumns pre)
  have hcolumns₂ := mem_append_columns hcolumns₁ (madeColumns [first])
  have hpz : z.1.cell "Proportion" = .num 1 := by
    rw [hloop.cell_eq hcolumns (untouched_of_mem_keptColumns hcolumns (by decide)), hp]
  have hpw : w.1.cell "Proportion" = .num 1 := by
    rw [hturn.cell_eq hcolumns₁ (untouched_of_mem_keptColumns hcolumns₁ (by decide)), hpz]
  -- the first type is read as it is in the sheet
  have hvalue : collateralValue (columns ++ madeColumns pre) z.1 first = 1 :=
    collateralValue_of_cell (List.mem_append_left _ hfirst)
      ((hloop.cell_eq hcolumns hpre).trans hone)
  have hsz := hloop.sum_eq_of_cut hcolumns (fun c hc => hcut c (List.mem_append_left _ hc)) hp hs
  have hsw := hturn.sum_eq hcolumns₁ htime hpz hsz
  have hdiscount : collateralDiscount first (numberOf (z.1.cell "EIR")) = some 1 := by
    unfold collateralDiscount
    rw [if_pos htime, hhaircut, sub_zero]
  obtain ⟨hprop, hdisc, -⟩ := hturn.row hcolumns₁
  have hcell : w.1.cell cfg.name = .num 1 := by
    rcases hmade with hname | hname
    · rw [hname, hprop, proportionalValue, hpz, hvalue]
      change Cell.num (1 * 1) = .num 1
      rw [mul_one]
    · rw [hname, hdisc, discountedValue, hpz, hvalue, hdiscount]
      change Cell.num (1 * 1 * 1) = .num 1
      rw [mul_one, mul_one]
  -- and the second as what the first was made into
  obtain ⟨v, hv, -, hsum⟩ := hrest.sum_eq_of_one hcolumns₂
    (fun c hc => hcut c (List.mem_append_right _ hc)) (hfull cfg (by simp)) hpw hsw
  have hmem : cfg.name ∈ columns ++ madeColumns pre ++ madeColumns [first] := by
    refine List.mem_append_right _ ?_
    rcases hmade with hname | hname <;> simp [madeColumns, hname]
  have hkept : v.1.cell cfg.name = .num 1 := (hv.cell_eq hcolumns₂ ⟨hmid, Or.inl hmem⟩).trans hcell
  rw [hsum, collateralValue_of_cell (List.mem_append_left _ hmem) hkept, hvalue, hhaircut]
  norm_num

end Turns

/-! ### A sheet of ones -/

/-- A loan with a one in every cell. -/
def onesRecord : Record := ⟨0, fun _ => .num 1⟩

def onesFrame (columns : List String) : Frame := { columns := columns, rows := [onesRecord] }

/-- A type that its haircut cuts off, unless it is one of `full`. -/
def probe (full : List String) (name : String) : CollateralConfig where
  name := name
  haircut := if name ∈ full then 0 else 1
  timeToRealize := 0

def probes (names full : List String) : List CollateralConfig := names.map (probe full)

section Ones

variable {env : PyEnv} {columns names full : List String} {working : Frame}
  {config : List CollateralConfig}

lemma map_name_probes (names full : List String) : (probes names full).map (·.name) = names := by
  rw [probes, List.map_map]
  exact List.map_id _

lemma probes_mem : ∀ cfg ∈ probes names full,
    0 ≤ cfg.haircut ∧ cfg.haircut ≤ 1 ∧ 0 ≤ cfg.timeToRealize := by
  intro cfg hcfg
  obtain ⟨name, -, rfl⟩ := List.mem_map.mp hcfg
  rw [probe]
  split_ifs <;> norm_num

/-- The sheet of ones is accepted. -/
lemma lgdChecked_ones (hnum : ∀ q, env.toNumeric (.num q) = some q)
    (hone : pyStrip (env.strNum 1) ≠ "")
    (hrequired : ∀ n ∈ ["Customer ID", "Loan ID", "Outstanding Amount"], n ∈ columns)
    (heir : ∃ a ∈ lgdEirAliases, a ∈ columns)
    (hknown : ∀ n ∈ columns, n ∈ knownLgdColumns ∨ n ∈ names.map pyStrip) :
    LgdChecked env (onesFrame columns) names := by
  have hcell : ∀ (n : String) (r : Record), r ∈ (onesFrame columns).rows → r.cell n = .num 1 := by
    intro n r hr
    obtain rfl := List.mem_singleton.mp hr
    rfl
  have htext : ∀ n, ∀ r ∈ (onesFrame columns).rows, NonEmptyText env (r.cell n) := by
    intro n r hr
    rw [hcell n r hr]
    exact ⟨by decide, hone⟩
  have hrange : ∀ (n : String) (hi : Option ℚ), (∀ m ∈ hi, 1 ≤ m) →
      ∀ r ∈ (onesFrame columns).rows, InRange env (some 0) hi (r.cell n) := by
    intro n hi hle r hr
    rw [hcell n r hr]
    refine ⟨1, hnum 1, fun m hm => ?_, hle⟩
    obtain rfl : 0 = m := Option.some.inj hm
    exact zero_le_one
  refine ⟨hrequired, hknown, htext _, htext _, List.nodup_singleton _,
    hrange _ none (by simp), ?_, fun name _ _ => hrange name none (by simp)⟩
  obtain ⟨a, ha, hmem⟩ := heir
  cases hfind : (onesFrame columns).resolveColumn? lgdEirAliases with
  | none =>
      have hnone := List.find?_eq_none.mp hfind a ha
      exact absurd (decide_eq_true hmem) hnone
  | some name =>
      have hfound := List.find?_some hfind
      exact ⟨name, rfl, of_decide_eq_true hfound, hrange name (some 1) (by simp)⟩

/-- The shares of a sheet whose one loan has one. -/
lemma withProportions_one {r : Record} (hcustomer : r.cell "Customer ID" = .num 1)
    (hamount : r.cell "Outstanding Amount" = .num 1) :
    withProportions (sortByKey lgdSortKey [r]) amountOf
      = [(r.set totalColumn (.num 1)).set "Proportion" (.num 1)] := by
  have hown : [r].filter (fun r' => r'.cell "Customer ID" = .num 1) = [r] := by
    rw [List.filter_cons_of_pos (by simpa using hcustomer), List.filter_nil]
  have hone : amountOf r = some 1 := by
    rw [amountOf_eq, hamount]
    rfl
  have htotal : customerTotal [r] amountOf (.num 1) = some 1 := by
    rw [customerTotal, if_neg (by decide), hown, List.map_singleton, List.sum_singleton, hone,
      Option.getD_some]
  have hshare : proportion (some 1) (some 1) = 1 := by
    rw [proportion, if_neg one_ne_zero, div_one]
  rw [sortByKey_singleton, withProportions, List.map_singleton]
  simp only [hcustomer, htotal, hone, hshare]
  rfl

/-- The engine on the sheet of ones. -/
lemma computeLgd_ones {r : Record} (hworking : withEir (onesFrame columns) config = .ok working)
    (hrows : working.rows = [r]) (hnumbers : NumberRow r)
    (hcells : ∀ n ∈ ["Customer ID", "Loan ID", "Outstanding Amount"],
      r.cell n = .num 1 ∧ n ∈ working.columns)
    (htotal : totalColumn ∉ working.columns) :
    ∃ out y z, computeLgd (onesFrame columns) config = .ok out ∧ out.rows = [y] ∧
      Turns (shareColumns working) (configByName config)
        ((r.set totalColumn (.num 1)).set "Proportion" (.num 1), some 0) z ∧
      y.cell lgdSumCol = Cell.ofNumber z.2 ∧ y.cell "Loan ID" = .num 1 ∧
      y.cell "Proportion" = .num 1 := by
  have hids : ∀ n ∈ ["Customer ID", "Loan ID"], n ∈ working.columns := fun n hn =>
    (hcells n (List.mem_append_left ["Outstanding Amount"] hn)).2
  have hmem : ∀ names : List String, (∀ n ∈ names, n ∈ working.columns) →
      working.requireColumns names = .ok () := by
    intro names hnames
    rw [Frame.requireColumns, List.find?_eq_none.mpr fun n hn => by simpa using hnames n hn]
  have hcolumn : ∀ n ∈ ["Customer ID", "Loan ID", "Outstanding Amount"],
      working.column n = [.num 1] := by
    intro n hn
    rw [Frame.column, hrows, List.map_singleton, (hcells n hn).1]
  have hcheck : checkLgdFrame working = .ok () := by
    rw [checkLgdFrame, hmem _ hids, hmem ["Outstanding Amount"] fun n hn => (hcells n (by
      obtain rfl := List.mem_singleton.mp hn
      decide)).2]
    simp only [bind, Except.bind, hcolumn "Customer ID" (by decide),
      hcolumn "Loan ID" (by decide), if_neg htotal, hrows, List.mapM_cons, List.mapM_nil,
      (hcells "Outstanding Amount" (by decide)).1]
    rfl
  have hshares := withProportions_one (hcells "Customer ID" (by decide)).1
    (hcells "Outstanding Amount" (by decide)).1
  have hstart : NumberRow ((r.set totalColumn (.num 1)).set "Proportion" (.num 1)) :=
    (hnumbers.set totalColumn (some 1)).set "Proportion" (some 1)
  obtain ⟨work, hwork⟩ := @exists_foldlM_addCollateral (configByName config)
    { columns := shareColumns working
      rows := [((r.set totalColumn (.num 1)).set "Proportion" (.num 1), some 0)] }
    fun x hx => by
      obtain rfl := List.mem_singleton.mp hx
      exact hstart
  -- the loop over the types is followed for the one row there is
  obtain ⟨z, hz, hturns⟩ := exists_turns hwork
  have hout := @computeLgd_eq_ok _ _ _ work hworking hcheck (by
    rw [hrows, hshares]
    exact hwork) rfl
  rw [hz, List.map_singleton, sortByKey_singleton] at hout
  have hcolumns := keptColumns_mem hworking hids
  have hkept : ∀ n ∈ keptColumns, (z.1.set lgdSumCol (Cell.ofNumber z.2)).cell n
      = ((r.set totalColumn (.num 1)).set "Proportion" (.num 1)).cell n := by
    intro n hn
    have hne : n ≠ lgdSumCol := by
      rintro rfl
      exact absurd hn (by decide)
    rw [Record.cell_set_of_ne hne]
    exact hturns.cell_eq hcolumns (untouched_of_mem_keptColumns hcolumns hn)
  refine ⟨_, _, z, hout, rfl, hturns, Record.cell_set_same _ _ _, ?_, ?_⟩
  · rw [hkept _ (by decide), cell_withShare (by decide), (hcells _ (by decide)).1]
  · rw [hkept _ (by decide), Record.cell_set_same]

/-- What the sheet of ones states of the types that are not cut off. -/
lemma uploadedTotal_ones {y : Record} (hshare : y.cell "Proportion" = .num 1) :
    uploadedTotal (onesFrame columns) (probes names full) onesRecord y
      = (names.countP fun n => n ∈ full ∧ n ∈ columns : ℚ) := by
  have hp : numberAt "Proportion" y = 1 := by
    rw [numberAt, hshare]
    rfl
  rw [uploadedTotal, probes, List.map_map, hp]
  induction names with
  | nil => rfl
  | cons n names ih =>
      rw [List.map_cons, List.sum_cons, ih, List.countP_cons, Nat.cast_add, add_comm]
      congr 1
      by_cases hfull : n ∈ full <;> by_cases hmem : n ∈ columns <;>
        simp [onesFrame, probe, collateralValue, onesRecord, numberOf, hfull, hmem]

/-- The sheet of ones with its rate column. -/
lemma withEir_ones {a : String} (ha : resolveEirColumn (onesFrame columns) = a) (hne : a ≠ "EIR")
    (hmem : a ∈ columns) (hnone : "EIR" ∉ columns) :
    ∃ working r, withEir (onesFrame columns) config = .ok working ∧ working.rows = [r] ∧
      NumberRow r ∧ (∀ n, n ≠ a → r.cell n = .num 1) ∧
      ∀ n, n ∈ working.columns ↔ n = "EIR" ∨ n ∈ columns ∧ n ≠ a := by
  have hworking : withEir (onesFrame columns) config = .ok
      { columns := columns.map fun name => if name = a then "EIR" else name
        rows := [renameEir a (lastEirColumn (onesFrame columns)) onesRecord] } := by
    rw [withEir, ha, if_neg hne, if_neg (by simpa [onesFrame] using hmem),
      if_neg fun h => hnone h.1, lastEirColumn, ha]
    rfl
  refine ⟨_, _, hworking, rfl, fun n => ?_, fun n hn => ?_, fun n => ?_⟩
  · rw [cell_renameEir]
    split_ifs
    · exact ⟨some 1, rfl⟩
    · exact ⟨none, rfl⟩
    · exact ⟨some 1, rfl⟩
  · rw [cell_renameEir, if_neg hn]
    split_ifs <;> rfl
  · rw [List.mem_map]
    constructor
    · rintro ⟨m, hm, rfl⟩
      by_cases hma : m = a
      · exact Or.inl (if_pos hma)
      · rw [if_neg hma]
        exact Or.inr ⟨hm, hma⟩
    · rintro (rfl | ⟨hn, hna⟩)
      · exact ⟨a, hmem, if_pos rfl⟩
      · exact ⟨n, hn, if_neg hna⟩

/-- The columns of a sheet of ones that is accepted, with its rate in the column `a`. -/
structure OnesColumns (names columns : List String) (a : String) : Prop where
  required : ∀ n ∈ ["Customer ID", "Loan ID", "Outstanding Amount"], n ∈ columns
  known : ∀ n ∈ columns, n ∈ knownLgdColumns ∨ n ∈ names
  rate : resolveEirColumn (onesFrame columns) = a
  alias_mem : a ∈ columns ∧ a ∈ lgdEirAliases ∧ a ≠ "EIR"
  eir_not_mem : "EIR" ∉ columns
  total_not_mem : totalColumn ∉ columns

/-- The columns before the loop, and the row that it starts from. -/
structure OnesStart (columns cols : List String) (a : String) (x : Record) : Prop where
  mem_iff : ∀ n, n ∈ cols ↔ n ∈ ["EIR", totalColumn, "Proportion"] ∨ n ∈ columns ∧ n ≠ a
  cell_eq : ∀ n, n ≠ a → x.cell n = .num 1
  kept : ∀ n ∈ keptColumns, n ∈ cols

/-- **The sheet of ones**: where types do not interfere, the loop adds up for it as many as there
are columns of types that are not cut off. -/
lemma TypesIndependent.exists_turns_ones (h : TypesIndependent env names)
    (hnum : ∀ q, env.toNumeric (.num q) = some q) (hone : pyStrip (env.strNum 1) ≠ "")
    (hnames : ∀ n ∈ names, ServiceName n) {a : String} (hcolumns : OnesColumns names columns a)
    (full : List String) :
    ∃ cols x z, OnesStart columns cols a x ∧
      Turns cols (configByName (probes names full)) (x, some 0) z ∧
      z.2 = some (names.countP fun n => n ∈ full ∧ n ∈ columns : ℚ) := by
  obtain ⟨hmem, halias, hne⟩ := hcolumns.alias_mem
  obtain ⟨working, r, hworking, hrows, hnumbers, hcells, hworkingColumns⟩ :=
    @withEir_ones columns (probes names full) a hcolumns.rate hne hmem hcolumns.eir_not_mem
  have hfree : ∀ n ∈ ["Customer ID", "Loan ID", "Outstanding Amount", totalColumn, "Proportion"],
      n ∉ lgdEirAliases := by decide
  have hbase : ∀ n ∈ ["Customer ID", "Loan ID", "Outstanding Amount"], n ∉ lgdEirAliases :=
    fun n hn => hfree n (List.mem_append_left [totalColumn, "Proportion"] hn)
  have hbaseCells : ∀ n ∈ ["Customer ID", "Loan ID", "Outstanding Amount"],
      r.cell n = .num 1 ∧ n ∈ working.columns := by
    intro n hn
    have hna : n ≠ a := fun heq => hbase n hn (heq ▸ halias)
    exact ⟨hcells n hna, (hworkingColumns n).mpr (Or.inr ⟨hcolumns.required n hn, hna⟩)⟩
  have htotal : totalColumn ∉ working.columns := by
    rw [hworkingColumns]
    rintro (heq | ⟨hin, -⟩)
    · exact absurd heq (by decide)
    · exact hcolumns.total_not_mem hin
  obtain ⟨out, y, z, hout, hyrows, hturns, hsum, hloan, hshare⟩ :=
    computeLgd_ones hworking hrows hnumbers hbaseCells htotal
  have hchecked : LgdChecked env (onesFrame columns) names := by
    refine lgdChecked_ones hnum hone hcolumns.required ⟨a, halias, hmem⟩ fun n hn => ?_
    refine (hcolumns.known n hn).imp_right fun hin => List.mem_map.mpr ⟨n, hin, ?_⟩
    exact (hnames n hin).stripped
  -- the sheet of ones is accepted, so that the independence says what the engine makes of it
  have hindependent := h (onesFrame columns) out "" (probes names full) (map_name_probes names full)
    probes_mem (validateLgd_of_lgdChecked hchecked) hout onesRecord List.mem_cons_self y
    (hyrows ▸ List.mem_cons_self) hloan
  rw [hsum, uploadedTotal_ones hshare] at hindependent
  refine ⟨shareColumns working, _, z, ⟨fun n => ?_, fun n hn => ?_, ?_⟩, hturns, ?_⟩
  · rw [shareColumns, List.mem_append, hworkingColumns, or_right_comm,
      @List.mem_cons _ "EIR" _ n]
  · by_cases hshared : n ∈ [totalColumn, "Proportion"]
    · simp only [List.mem_cons, List.not_mem_nil, or_false] at hshared
      rcases hshared with rfl | rfl
      · rw [Record.cell_set_of_ne (by decide), Record.cell_set_same]
      · rw [Record.cell_set_same]
    · rw [cell_withShare hshared, hcells n hn]
  · exact keptColumns_mem hworking fun n hn =>
      (hbaseCells n (List.mem_append_left ["Outstanding Amount"] hn)).2
  · have hnumber := congrArg numberOf hindependent
    rwa [numberOf_ofNumber] at hnumber

end Ones

/-! ### Types that interfere -/

section Clash

variable {env : PyEnv} {names full : List String} {cols : List String} {a c d : String}

lemma mem_probes_of_split {pre post : List CollateralConfig} {cfg : CollateralConfig}
    (hsplit : configByName (probes names full) = pre ++ cfg :: post) :
    ∀ p ∈ pre ++ cfg :: post, p.name ∈ names ∧ p = probe full p.name := by
  intro p hp
  rw [← hsplit] at hp
  obtain ⟨n, hn, rfl⟩ := List.mem_map.mp (mem_of_mem_configByName hp)
  exact ⟨hn, rfl⟩

lemma nodup_probes (hnodup : names.Nodup) (full : List String) :
    ((probes names full).map (·.name)).Nodup := by
  rw [map_name_probes]
  exact hnodup

/-- The types before a type in the loop, and those after it. -/
lemma exists_split (hnodup : names.Nodup) (hc : c ∈ names) (full : List String) :
    ∃ pre post, configByName (probes names full) = pre ++ probe full c :: post ∧
      (∀ p ∈ pre, p.name < c) ∧ ∀ p ∈ post, c < p.name := by
  have hdistinct := nodup_probes hnodup full
  have hmem : probe full c ∈ configByName (probes names full) :=
    (configByName_perm hdistinct).mem_iff.mpr (List.mem_map_of_mem hc)
  obtain ⟨pre, post, hsplit⟩ := List.append_of_mem hmem
  have horder := pairwise_configByName hdistinct
  rw [hsplit, List.pairwise_append, List.pairwise_cons] at horder
  obtain ⟨-, ⟨hpost, -⟩, hpre⟩ := horder
  exact ⟨pre, post, hsplit, fun p hp => hpre p hp _ List.mem_cons_self, hpost⟩

lemma ne_made (hc : c ∈ ["Customer ID", "Loan ID", "Outstanding Amount"] ++ reservedColumns)
    (n : String) : c ≠ proportionalColumn n ∧ c ≠ discountedColumn n := by
  have hall : ∀ m ∈ ["Customer ID", "Loan ID", "Outstanding Amount"] ++ reservedColumns,
      m.toList.take 11 ≠ "Proportiona".toList ∧ m.toList.take 11 ≠ "Discounted ".toList := by
    decide
  exact ⟨ne_proportionalColumn_of_take (hall c hc).1 n, ne_discountedColumn_of_take (hall c hc).2 n⟩

/-- A sheet of the columns that are required only. -/
lemma onesColumns_base
    (ha : a ∈ ["Effective Interest Rate (EIR)", "Effective Interest Rate"]) :
    OnesColumns names (["Customer ID", "Loan ID", "Outstanding Amount"] ++ [a]) a := by
  simp only [List.mem_cons, List.not_mem_nil, or_false] at ha
  rcases ha with rfl | rfl
  · have hknown : ∀ n ∈ ["Customer ID", "Loan ID", "Outstanding Amount"]
        ++ ["Effective Interest Rate (EIR)"], n ∈ knownLgdColumns := by decide
    exact ⟨by decide, fun n hn => Or.inl (hknown n hn), by decide, by decide, by decide, by decide⟩
  · have hknown : ∀ n ∈ ["Customer ID", "Loan ID", "Outstanding Amount"]
        ++ ["Effective Interest Rate"], n ∈ knownLgdColumns := by decide
    exact ⟨by decide, fun n hn => Or.inl (hknown n hn), by decide, by decide, by decide, by decide⟩

/-- A type of the name of a reserved column is read where the sheet has none of it, or not read
where it has. -/
lemma TypesIndependent.reserved (h : TypesIndependent env names)
    (hnum : ∀ q, env.toNumeric (.num q) = some q) (hone : pyStrip (env.strNum 1) ≠ "")
    (hnames : ∀ n ∈ names, ServiceName n) (hnodup : names.Nodup) (hc : c ∈ names) :
    c ∉ reservedColumns := by
  intro hreserved
  -- a sheet for each reserved name: one that has its column, or one that has none of it
  obtain ⟨a, columns, hcolumns, hread⟩ : ∃ a columns, OnesColumns names columns a ∧
      ((c ∈ columns ∧ c = a) ∨ (c ∉ columns ∧ c ∈ ["EIR", totalColumn, "Proportion"])) := by
    simp only [reservedColumns, lgdEirAliases, List.cons_append, List.nil_append, List.mem_cons,
      List.not_mem_nil, or_false] at hreserved
    rcases hreserved with rfl | rfl | rfl | rfl | rfl
    · exact ⟨_, _, onesColumns_base List.mem_cons_self, Or.inl ⟨by decide, rfl⟩⟩
    · exact ⟨_, _, onesColumns_base (List.mem_cons_of_mem _ List.mem_cons_self),
        Or.inl ⟨by decide, rfl⟩⟩
    · exact ⟨_, _, onesColumns_base List.mem_cons_self, Or.inr (by decide)⟩
    · exact ⟨_, _, onesColumns_base List.mem_cons_self, Or.inr (by decide)⟩
    · exact ⟨_, _, onesColumns_base List.mem_cons_self, Or.inr (by decide)⟩
  obtain ⟨cols, x, z, hstart, hturns, hsum⟩ := h.exists_turns_ones hnum hone hnames hcolumns [c]
  obtain ⟨pre, post, hsplit, hpre, hpost⟩ := exists_split hnodup hc [c]
  have hnone := ne_made (List.mem_append_right _ hreserved)
  have hne : ∀ m ∈ ["EIR", totalColumn, "Proportion"], m ≠ a := by
    intro m hm heq
    obtain ⟨-, halias, heir⟩ := hcolumns.alias_mem
    have hall : ∀ m ∈ ["EIR", totalColumn, "Proportion"], m = "EIR" ∨ m ∉ lgdEirAliases := by decide
    rcases hall m hm with rfl | hnot
    · exact heir heq.symm
    · exact hnot (heq ▸ halias)
  have hother : ∀ p ∈ pre ++ post, p.name ∉ [c] := by
    intro p hp
    rw [List.mem_singleton]
    rcases List.mem_append.mp hp with hp | hp
    · exact (hpre p hp).ne
    · exact (hpost p hp).ne'
  rw [hsplit] at hturns
  have hcut : ∀ p ∈ pre ++ post, p.haircut = 1 ∧ p.timeToRealize = 0 := by
    intro p hp
    have hmem : p ∈ pre ++ probe [c] c :: post := by
      rw [List.mem_append, List.mem_cons]
      exact (List.mem_append.mp hp).imp_right Or.inr
    rw [(mem_probes_of_split hsplit p hmem).2, probe, if_neg (hother p hp)]
    exact ⟨rfl, rfl⟩
  obtain ⟨y, hy, -, hvalue⟩ := hturns.sum_eq_of_one hstart.kept hcut
    ⟨if_pos List.mem_cons_self, rfl⟩ (hstart.cell_eq _ (hne _ (by decide))) rfl
  rw [hsum, zero_add] at hvalue
  replace hvalue := Option.some.inj hvalue
  -- an alias of the rate is renamed before the loop; the other three are made by then
  rcases hread with ⟨hmem, rfl⟩ | ⟨hmem, hfixed⟩
  · have habsent : c ∉ cols ++ madeColumns pre := by
      rw [List.mem_append, hstart.mem_iff, madeColumns, List.mem_flatMap]
      rintro ((hfixed | ⟨-, hself⟩) | ⟨p, hp, hmade⟩)
      · exact hne c hfixed rfl
      · exact hself rfl
      · simp only [List.mem_cons, List.not_mem_nil, or_false] at hmade
        rcases hmade with heq | hmade
        · exact (hpre p hp).ne heq.symm
        · exact hmade.elim (hnone p.name).1 (hnone p.name).2
    have hzero : collateralValue (cols ++ madeColumns pre) y.1 (probe [c] c) = 0 := if_neg habsent
    have hcount : 0 < names.countP fun n => n ∈ [c] ∧ n ∈ columns :=
      List.countP_pos_iff.mpr ⟨c, hc, decide_eq_true ⟨List.mem_cons_self, hmem⟩⟩
    rw [hzero, Nat.cast_eq_zero] at hvalue
    omega
  · have hin : c ∈ cols := (hstart.mem_iff c).mpr (Or.inl hfixed)
    have hcell : y.1.cell c = .num 1 := by
      rw [hy.cell_eq hstart.kept ⟨fun p _ => hnone p.name, Or.inl hin⟩,
        hstart.cell_eq c (hne c hfixed)]
    have hcount : (names.countP fun n => n ∈ [c] ∧ n ∈ columns) = 0 := by
      refine List.countP_eq_zero.mpr fun n _ hn => ?_
      obtain ⟨hself, hsheet⟩ := of_decide_eq_true hn
      exact hmem (List.mem_singleton.mp hself ▸ hsheet)
    rw [@collateralValue_of_cell _ (probe [c] c) _ _ (List.mem_append_left _ hin) hcell, hcount]
      at hvalue
    exact absurd hvalue (by norm_num)

/-- The column that is made of a type has no other source. -/
lemma made_unique {b : String} (hc : d = proportionalColumn c ∨ d = discountedColumn c)
    (hb : d = proportionalColumn b ∨ d = discountedColumn b) : b = c := by
  rcases hc with hc | hc <;> rcases hb with hb | hb
  · exact proportionalColumn_injective (hb.symm.trans hc)
  · exact absurd (hc.symm.trans hb) (proportionalColumn_ne_discountedColumn c b)
  · exact absurd (hb.symm.trans hc) (proportionalColumn_ne_discountedColumn b c)
  · exact (String.append_right_inj _).mp (hb.symm.trans hc)

lemma length_lt_of_made (h : d = proportionalColumn c ∨ d = discountedColumn c) :
    c.length < d.length := by
  rcases h with rfl | rfl
  · rw [proportionalColumn, String.length_append]
    exact Nat.lt_add_of_pos_left (by decide)
  · rw [discountedColumn, String.length_append]
    exact Nat.lt_add_of_pos_left (by decide)

/-- A sheet with a column of the type `c` besides the required ones. -/
lemma onesColumns_insert (hc : c ∈ names) (hreserved : c ∉ reservedColumns) :
    OnesColumns names (List.insert c (["Customer ID", "Loan ID", "Outstanding Amount"]
      ++ ["Effective Interest Rate (EIR)"])) "Effective Interest Rate (EIR)" := by
  have hbase := @onesColumns_base names _ List.mem_cons_self
  have hall : ∀ n ∈ ["EIR", totalColumn], n ∈ reservedColumns := by decide
  refine ⟨fun n hn => List.mem_insert_of_mem (hbase.required n hn), fun n hn => ?_, ?_,
    ⟨List.mem_insert_of_mem hbase.alias_mem.1, by decide, by decide⟩, fun h => ?_, fun h => ?_⟩
  · rcases List.mem_insert_iff.mp hn with rfl | hn
    · exact Or.inr hc
    · exact hbase.known n hn
  · have hfound := @List.mem_insert_of_mem _ _ _ _ c _ hbase.alias_mem.1
    rw [resolveEirColumn, resolveColumn, Frame.resolveColumn?, lgdEirAliases,
      List.find?_cons_of_pos, Option.getD_some]
    exact decide_eq_true hfound
  · rcases List.mem_insert_iff.mp h with rfl | h
    · exact hreserved (hall _ (by decide))
    · exact hbase.eir_not_mem h
  · rcases List.mem_insert_iff.mp h with rfl | h
    · exact hreserved (hall _ (by decide))
    · exact hbase.total_not_mem h

/-- A type of the name of what is made of one before it is read as that, besides the sheet. -/
lemma TypesIndependent.made (h : TypesIndependent env names)
    (hnum : ∀ q, env.toNumeric (.num q) = some q) (hone : pyStrip (env.strNum 1) ≠ "")
    (hnames : ∀ n ∈ names, ServiceName n) (hnodup : names.Nodup) (hc : c ∈ names) (hd : d ∈ names)
    (hlt : c < d) : ¬ (d = proportionalColumn c ∨ d = discountedColumn c) := by
  -- by induction on the length of the first name: it may itself be made of a shorter one
  induction hlength : c.length using Nat.strong_induction_on generalizing c d with
  | _ m ih =>
      intro hmade
      have hreserved := h.reserved hnum hone hnames hnodup hc
      have hcolumns := onesColumns_insert hc hreserved
      obtain ⟨cols, x, z, hstart, hturns, hsum⟩ :=
        h.exists_turns_ones hnum hone hnames hcolumns [c, d]
      obtain ⟨pre, rest, hsplit, hpre, -⟩ := exists_split hnodup hc [c, d]
      have hmem : probe [c, d] d ∈ rest := by
        obtain ⟨pre', post', hsplit', -, -⟩ := exists_split hnodup hd [c, d]
        have hin : probe [c, d] d ∈ pre ++ probe [c, d] c :: rest := by
          rw [← hsplit, hsplit']
          exact List.mem_append_right _ List.mem_cons_self
        rcases List.mem_append.mp hin with hin | hin
        · exact absurd (hpre _ hin) hlt.not_gt
        · rcases List.mem_cons.mp hin with heq | hin
          · exact absurd (congrArg CollateralConfig.name heq) hlt.ne'
          · exact hin
      obtain ⟨mid, post, rfl⟩ := List.append_of_mem hmem
      have horder := pairwise_configByName (nodup_probes hnodup [c, d])
      rw [hsplit, List.pairwise_append, List.pairwise_cons, List.pairwise_append,
        List.pairwise_cons] at horder
      obtain ⟨-, ⟨hafter, -, ⟨hpost, -⟩, hmid⟩, -⟩ := horder
      have hother : ∀ p ∈ pre ++ (mid ++ post), p.name ∉ [c, d] := by
        have hpair : ∀ n, n ≠ c → n ≠ d → n ∉ [c, d] := by
          intro n hnc hnd hn
          simp only [List.mem_cons, List.not_mem_nil, or_false] at hn
          exact hn.elim hnc hnd
        intro p hp
        simp only [List.mem_append] at hp
        rcases hp with hp | hp | hp
        · exact hpair _ (hpre p hp).ne ((hpre p hp).trans hlt).ne
        · exact hpair _ (hafter p (List.mem_append_left _ hp)).ne'
            (hmid p hp _ List.mem_cons_self).ne
        · exact hpair _ (hafter p (List.mem_append_right _ (List.mem_cons_of_mem _ hp))).ne'
            (hpost p hp).ne'
      have hcut : ∀ p ∈ pre ++ (mid ++ post), p.haircut = 1 ∧ p.timeToRealize = 0 := by
        intro p hp
        have hall : p ∈ pre ++ probe [c, d] c :: (mid ++ probe [c, d] d :: post) := by
          simp only [List.mem_append, List.mem_cons] at hp ⊢
          exact hp.imp_right fun hp => Or.inr (hp.imp_right Or.inr)
        rw [(mem_probes_of_split hsplit p hall).2, probe, if_neg (hother p hp)]
        exact ⟨rfl, rfl⟩
      have hfull : ∀ p ∈ [probe [c, d] c, probe [c, d] d], p.haircut = 0 ∧ p.timeToRealize = 0 := by
        intro p hp
        simp only [List.mem_cons, List.not_mem_nil, or_false] at hp
        rcases hp with rfl | rfl
        · exact ⟨if_pos List.mem_cons_self, rfl⟩
        · exact ⟨if_pos (List.mem_cons_of_mem _ List.mem_cons_self), rfl⟩
      have hne : c ≠ "Effective Interest Rate (EIR)" := by
        rintro rfl
        exact hreserved (by decide)
      have hcols : c ∈ cols := (hstart.mem_iff c).mpr (Or.inr ⟨List.mem_insert_self, hne⟩)
      -- no type before the first one makes its column: the two would clash as well
      have huntouched : Untouched cols pre c := by
        refine ⟨fun p hp => ?_, Or.inl hcols⟩
        have hsource := fun hname => ih p.name.length (hlength ▸ length_lt_of_made hname)
          (mem_probes_of_split hsplit p (List.mem_append_left _ hp)).1 hc (hpre p hp) rfl hname
        exact ⟨fun hname => hsource (Or.inl hname), fun hname => hsource (Or.inr hname)⟩
      have hsole : ∀ p ∈ mid, d ≠ proportionalColumn p.name ∧ d ≠ discountedColumn p.name := by
        intro p hp
        have hsource := fun hname => (hafter p (List.mem_append_left _ hp)).ne'
          (made_unique hmade hname)
        exact ⟨fun hname => hsource (Or.inl hname), fun hname => hsource (Or.inr hname)⟩
      rw [hsplit] at hturns
      have htwo := hturns.sum_eq_of_made hstart.kept hcut hfull (hstart.cell_eq _ (by decide)) rfl
        hcols (hstart.cell_eq c hne) huntouched hmade hsole
      have hcount : (names.countP fun n => n ∈ [c, d] ∧ n ∈ List.insert c
          (["Customer ID", "Loan ID", "Outstanding Amount"] ++ ["Effective Interest Rate (EIR)"]))
          = 1 := by
        refine (List.countP_congr fun n _ => ?_).trans (List.count_eq_one_of_mem hnodup hc)
        rw [decide_eq_true_iff, beq_iff_eq]
        constructor
        · rintro ⟨hn, hsheet⟩
          simp only [List.mem_cons, List.not_mem_nil, or_false] at hn
          rcases hn with hn | rfl
          · exact hn
          · rcases List.mem_insert_iff.mp hsheet with hn | hbase
            · exact hn
            · have hnone := ne_made (List.mem_append.mpr
                ((List.mem_append.mp hbase).imp_right fun heir => List.mem_singleton.mp heir ▸
                  List.mem_cons_self)) c
              exact absurd hmade (not_or.mpr hnone)
        · rintro rfl
          exact ⟨List.mem_cons_self, List.mem_insert_self⟩
      rw [hsum, hcount] at htwo
      exact absurd (Option.some.inj htwo) (by norm_num)

end Clash

/-- **When types do not interfere**: for names that the service accepts, exactly where no name is
one of a reserved column or of a column that is made of a type before it. -/
theorem types_independent_iff {env : PyEnv} (hnum : ∀ q, env.toNumeric (.num q) = some q)
    (hblank : env.toNumeric .blank = none) (hone : pyStrip (env.strNum 1) ≠ "")
    {names : List String} (hnames : ∀ n ∈ names, ServiceName n) (hnodup : names.Nodup) :
    TypesIndependent env names ↔ TypesApart names := by
  constructor
  · intro h
    refine ⟨fun c hc => h.reserved hnum hone hnames hnodup hc, fun c hc d hd hlt => ?_⟩
    exact not_or.mp (h.made hnum hone hnames hnodup hc hd hlt)
  · intro h
    exact h.independent hnodup hnum hblank

/-- Cash and land do not interfere. -/
theorem types_independent_sample : TypesIndependent plainEnv ["Cash", "Land"] := by
  have hstrip : ∀ n ∈ ["Cash", "Land"], pyStrip n = n := by decide
  have hlength : ∀ n ∈ ["Cash", "Land"], 2 ≤ n.length ∧ n.length ≤ 100 := by decide
  refine (types_independent_iff (fun _ => rfl) rfl (by decide)
    (fun n hn => ⟨hstrip n hn, hlength n hn⟩) (by decide)).mpr ⟨by decide, by decide⟩

/-- A sheet with a column of cash. -/
def cashSheet : Frame :=
  onesFrame
    ["Customer ID", "Loan ID", "Outstanding Amount", "Effective Interest Rate (EIR)", "Cash"]

/-- Cash that is counted twice: a type of the name `Proportional Cash` is read as the share in the
cash, which the sheet states once. -/
theorem cash_counted_twice :
    (∀ n ∈ ["Cash", "Proportional Cash"], ServiceName n) ∧
      (validateLgd plainEnv cashSheet "LGD" ["Cash", "Proportional Cash"]).isValid = true ∧
      ∃ out y, computeLgd cashSheet [⟨"Cash", 0, 0⟩, ⟨"Proportional Cash", 0, 0⟩] = .ok out ∧
        out.rows = [y] ∧ y.cell "Loan ID" = onesRecord.cell "Loan ID" ∧
        y.cell lgdSumCol = .num 2 ∧
        uploadedTotal cashSheet [⟨"Cash", 0, 0⟩, ⟨"Proportional Cash", 0, 0⟩] onesRecord y = 1 := by
  have hnames : ∀ n ∈ ["Cash", "Proportional Cash"],
      pyStrip n = n ∧ 2 ≤ n.length ∧ n.length ≤ 100 := by decide
  have hsheet : LgdChecked plainEnv cashSheet ["Cash", "Proportional Cash"] :=
    lgdChecked_ones (fun _ => rfl) (by decide) (by decide) ⟨_, List.mem_cons_self, by decide⟩
      (by decide)
  obtain ⟨working, r, hworking, hrows, hnumbers, hcells, hcolumns⟩ :=
    @withEir_ones cashSheet.columns [⟨"Cash", 0, 0⟩, ⟨"Proportional Cash", 0, 0⟩]
      "Effective Interest Rate (EIR)" (by decide) (by decide) (by decide) (by decide)
  have hmem : ∀ n ∈ ["Customer ID", "Loan ID", "Outstanding Amount", "Cash"],
      n ∈ cashSheet.columns ∧ n ≠ "Effective Interest Rate (EIR)" := by decide
  have hbase : ∀ n ∈ ["Customer ID", "Loan ID", "Outstanding Amount", "Cash"],
      r.cell n = .num 1 ∧ n ∈ working.columns := fun n hn =>
    ⟨hcells n (hmem n hn).2, (hcolumns n).mpr (Or.inr (hmem n hn))⟩
  have htotal : totalColumn ∉ working.columns := by
    rw [hcolumns]
    decide
  obtain ⟨out, y, z, hout, hyrows, hturns, hsum, hloan, hshare⟩ :=
    computeLgd_ones hworking hrows hnumbers
      (fun n hn => hbase n (List.mem_append_left ["Cash"] hn)) htotal
  rw [configByName_of_sorted (by decide)] at hturns
  have hkept : ∀ n ∈ keptColumns, n ∈ shareColumns working := keptColumns_mem hworking
    fun n hn => (hbase n (List.mem_append_left ["Outstanding Amount", "Cash"] hn)).2
  have hcash := hbase "Cash" (by decide)
  have htwo := @Turns.sum_eq_of_made _ ⟨"Proportional Cash", 0, 0⟩ _ _ [] [] [] ⟨"Cash", 0, 0⟩
    hturns hkept (by simp) (by simp) (Record.cell_set_same _ _ _) rfl
    (List.mem_append_left _ hcash.2) ((cell_withShare (by decide)).trans hcash.1)
    ⟨by simp, Or.inl (List.mem_append_left _ hcash.2)⟩ (Or.inl rfl) (by simp)
  refine ⟨fun n hn => ⟨(hnames n hn).1, (hnames n hn).2⟩, validateLgd_of_lgdChecked hsheet, out, y,
    hout, hyrows, hloan, ?_, ?_⟩
  · rw [hsum, htwo]
    rfl
  · have hprobes : [⟨"Cash", 0, 0⟩, ⟨"Proportional Cash", 0, 0⟩]
        = probes ["Cash", "Proportional Cash"] ["Cash", "Proportional Cash"] := by decide
    have hcount : ["Cash", "Proportional Cash"].countP (fun n =>
        n ∈ ["Cash", "Proportional Cash"] ∧ n ∈ cashSheet.columns) = 1 := by decide
    rw [hprobes]
    exact (uploadedTotal_ones hshare).trans (by exact_mod_cast hcount)

end EclServer.Engine
