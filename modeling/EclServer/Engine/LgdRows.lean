import EclServer.Engine.Lgd

/-!
The rows of the output of `compute_lgd`.

* `NamesApart`: the names of the collateral types are distinct from each other and from the
  columns that the engine makes. `ReadInOrder`: none of them is made before it is read.
* `proportionalValue`, `discountedSum`: what the loop over the collateral types makes of a row,
  and what it adds up for it.
* `collateralRow_ok`, `foldlM_addCollateral`: one turn of the loop, and all of them.
* `withEir_ok`: the sheet with its rate column.
* `computeLgd_ok`: the rows of the output, of the rows of the sheet.
* `NumberRow`, `exists_computeLgd`: a sheet of numbers has an output.
-/

namespace EclServer.Engine

open EclServer.Library

/-! ### Names -/

/-- The names of the collateral types clash with nothing that `compute_lgd` makes. -/
structure NamesApart (names : List String) : Prop where
  nodup : names.Nodup
  fixed : ∀ c ∈ names, c ∉ ["EIR", totalColumn, "Proportion", lgdSumCol]
  proportional : ∀ c ∈ names, ∀ c' ∈ names, c ≠ proportionalColumn c'
  discounted : ∀ c ∈ names, ∀ c' ∈ names, c ≠ discountedColumn c'

lemma NamesApart.of_perm {names names' : List String} (h : NamesApart names)
    (hperm : names.Perm names') : NamesApart names' where
  nodup := hperm.nodup_iff.mp h.nodup
  fixed := fun c hc => h.fixed c (hperm.mem_iff.mpr hc)
  proportional := fun c hc d hd => h.proportional c (hperm.mem_iff.mpr hc) d (hperm.mem_iff.mpr hd)
  discounted := fun c hc d hd => h.discounted c (hperm.mem_iff.mpr hc) d (hperm.mem_iff.mpr hd)

/-- In this order no name is one of the columns made for an earlier one. -/
def ReadInOrder (names : List String) : Prop :=
  names.Pairwise fun c d => d ≠ c ∧ d ≠ proportionalColumn c ∧ d ≠ discountedColumn c

lemma NamesApart.readInOrder {names : List String} (h : NamesApart names) : ReadInOrder names :=
  List.Pairwise.imp_of_mem (fun hc hd hne =>
    ⟨hne.symm, h.proportional _ hd _ hc, h.discounted _ hd _ hc⟩) h.nodup

/-- The columns of the sheet that the later steps read. -/
def keptColumns : List String := ["EIR", "Proportion", "Loan ID", "Customer ID"]

lemma ne_proportionalColumn_of_take {n : String} (hn : n.toList.take 11 ≠ "Proportiona".toList)
    (c : String) : n ≠ proportionalColumn c := by
  rintro rfl
  refine hn ?_
  rw [proportionalColumn, String.toList_append, List.take_append_of_le_length (by decide)]
  rfl

lemma ne_discountedColumn_of_take {n : String} (hn : n.toList.take 11 ≠ "Discounted ".toList)
    (c : String) : n ≠ discountedColumn c := by
  rintro rfl
  refine hn ?_
  rw [discountedColumn, String.toList_append, List.take_append_of_le_length (by decide)]
  rfl

lemma ne_proportionalColumn {n : String} (hn : n ∈ keptColumns) (c : String) :
    n ≠ proportionalColumn c := by
  have hnone : ∀ m ∈ keptColumns, m.toList.take 11 ≠ "Proportiona".toList := by decide
  exact ne_proportionalColumn_of_take (hnone n hn) c

lemma ne_discountedColumn {n : String} (hn : n ∈ keptColumns) (c : String) :
    n ≠ discountedColumn c := by
  have hnone : ∀ m ∈ keptColumns, m.toList.take 11 ≠ "Discounted ".toList := by decide
  exact ne_discountedColumn_of_take (hnone n hn) c

lemma proportionalColumn_ne_discountedColumn (c d : String) :
    proportionalColumn c ≠ discountedColumn d := by
  refine ne_discountedColumn_of_take ?_ d
  rw [proportionalColumn, String.toList_append, List.take_append_of_le_length (by decide)]
  decide

lemma proportionalColumn_injective : Function.Injective proportionalColumn := fun _ _ h =>
  String.append_right_inj _ |>.mp h

/-! ### The loop over the collateral types -/

/-- A cell as a number, NaN for what is none. -/
def numberOf : Cell → Option ℚ
  | .num q => some q
  | _ => none

@[simp] lemma numberOf_ofNumber (x : Option ℚ) : numberOf (Cell.ofNumber x) = x := by
  cases x <;> rfl

lemma eq_ofNumber_of_toNumber {c : Cell} {x : Option ℚ} (h : c.toNumber = .ok x) :
    c = Cell.ofNumber x := by
  cases c with
  | blank => rw [← Except.ok.inj h]; rfl
  | num q => rw [← Except.ok.inj h]; rfl
  | str s => cases h
  | date t => cases h

lemma numberOf_of_toNumber {c : Cell} {x : Option ℚ} (h : c.toNumber = .ok x) :
    numberOf c = x := by
  rw [eq_ofNumber_of_toNumber h, numberOf_ofNumber]

/-- The collateral of a type in a row; a blank and a missing column are zero. -/
def collateralValue (columns : List String) (r : Record) (cfg : CollateralConfig) : ℚ :=
  if cfg.name ∈ columns then (numberOf (r.cell cfg.name)).getD 0 else 0

/-- The share of a row in the collateral of one type. -/
def proportionalValue (columns : List String) (r : Record) (cfg : CollateralConfig) : Option ℚ := do
  return (← numberOf (r.cell "Proportion")) * collateralValue columns r cfg

/-- The discounted collateral of one type. -/
def discountedValue (columns : List String) (r : Record) (cfg : CollateralConfig) : Option ℚ := do
  return (← numberOf (r.cell "Proportion")) * collateralValue columns r cfg
    * (← collateralDiscount cfg (numberOf (r.cell "EIR")))

/-- The sum over the types, from `start`. -/
def discountedSum (columns : List String) (r : Record) (start : Option ℚ)
    (cfgs : List CollateralConfig) : Option ℚ :=
  cfgs.foldl (fun sum cfg => do return (← sum) + (← discountedValue columns r cfg)) start

/-- A column that the loop over these types leaves as it is. -/
def Untouched (columns : List String) (cfgs : List CollateralConfig) (n : String) : Prop :=
  (∀ cfg ∈ cfgs, n ≠ proportionalColumn cfg.name ∧ n ≠ discountedColumn cfg.name) ∧
    (n ∈ columns ∨ ∀ cfg ∈ cfgs, n ≠ cfg.name)

section

variable {columns : List String} {cfg : CollateralConfig} {x y : Record × Option ℚ}

/-- **One turn for one row**: what is not made of this type stays, its columns have the share in
its collateral and what that is discounted, which is added to the sum. -/
lemma collateralRow_ok (hcolumns : ∀ n ∈ keptColumns, n ∈ columns)
    (h : collateralRow cfg (decide (cfg.name ∈ columns)) x = .ok y) :
    (∀ n, Untouched columns [cfg] n → y.1.cell n = x.1.cell n) ∧
      y.1.cell (proportionalColumn cfg.name) = Cell.ofNumber (proportionalValue columns x.1 cfg) ∧
      y.1.cell (discountedColumn cfg.name) = Cell.ofNumber (discountedValue columns x.1 cfg) ∧
      y.2 = discountedSum columns x.1 x.2 [cfg] ∧
      ∃ e, (x.1.cell "EIR").toNumber = .ok e := by
  obtain ⟨r, sum⟩ := x
  set r₀ : Record := if decide (cfg.name ∈ columns) = true then r else r.set cfg.name (.num 0)
    with hr₀
  have hbase : ∀ n, (n ∈ columns ∨ n ≠ cfg.name) → r₀.cell n = r.cell n := by
    intro n hn
    rw [hr₀]
    split
    · rfl
    · rename_i habsent
      refine Record.cell_set_of_ne ?_
      rcases hn with hmem | hne
      · rintro rfl
        exact habsent (decide_eq_true hmem)
      · exact hne
  obtain ⟨share, hshare, h⟩ := bind_eq_ok.mp h
  obtain ⟨value, hvalue, h⟩ := bind_eq_ok.mp h
  obtain ⟨eir, heir, h⟩ := bind_eq_ok.mp h
  obtain rfl := Except.ok.inj h
  have hkept : ∀ n ∈ keptColumns, r₀.cell n = r.cell n := fun n hn =>
    hbase n (Or.inl (hcolumns n hn))
  have hshareCell : numberOf (r.cell "Proportion") = share := by
    rw [← hkept "Proportion" (by decide)]
    exact numberOf_of_toNumber hshare
  have heirCell : numberOf (r.cell "EIR") = eir := by
    have hcell := numberOf_of_toNumber heir
    rwa [Record.cell_set_of_ne (ne_proportionalColumn (by decide) _),
      hkept "EIR" (by decide)] at hcell
  -- a type without a column is read off the zero that the turn writes for it
  have hvalueCell : value.getD 0 = collateralValue columns r cfg := by
    have hcell := numberOf_of_toNumber hvalue
    rw [collateralValue]
    by_cases hmem : cfg.name ∈ columns
    · rw [if_pos hmem, ← hcell, if_pos (decide_eq_true hmem)]
    · rw [if_neg hmem, ← hcell, if_neg (by simpa using hmem), Record.cell_set_same]
      rfl
  have hdiscounted : ∀ proportional : Option ℚ,
      proportional = (do return (← share) * value.getD 0) →
      (do return (← proportional) * (← collateralDiscount cfg eir))
        = discountedValue columns r cfg := by
    rintro _ rfl
    rw [discountedValue, hshareCell, heirCell, hvalueCell]
    cases share <;> rfl
  refine ⟨fun n hn => ?_, ?_, ?_, ?_, eir, ?_⟩
  · obtain ⟨hderived, hcolumn⟩ := hn
    obtain ⟨hprop, hdisc⟩ := hderived cfg (List.mem_singleton_self _)
    rw [Record.cell_set_of_ne hdisc, Record.cell_set_of_ne hprop]
    exact hbase n (hcolumn.imp_right fun hne => hne cfg (List.mem_singleton_self _))
  · rw [Record.cell_set_of_ne (proportionalColumn_ne_discountedColumn _ _), Record.cell_set_same,
      proportionalValue, hshareCell, hvalueCell]
  · rw [Record.cell_set_same]
    exact congrArg Cell.ofNumber (hdiscounted _ rfl)
  · rw [discountedSum, List.foldl_cons, List.foldl_nil, ← hdiscounted _ rfl]
  · rwa [Record.cell_set_of_ne (ne_proportionalColumn (by decide) _),
      hkept "EIR" (by decide)] at heir

lemma untouched_of_mem_keptColumns {cfgs : List CollateralConfig}
    (hcolumns : ∀ n ∈ keptColumns, n ∈ columns) {n : String} (hn : n ∈ keptColumns) :
    Untouched columns cfgs n :=
  ⟨fun cfg _ => ⟨ne_proportionalColumn hn cfg.name, ne_discountedColumn hn cfg.name⟩,
    Or.inl (hcolumns n hn)⟩

/-- The collateral of a later type is what it was before the turn of `cfg`. -/
lemma collateralValue_after {later : CollateralConfig} {r r' : Record}
    (hlater : later.name ≠ cfg.name ∧ later.name ≠ proportionalColumn cfg.name ∧
      later.name ≠ discountedColumn cfg.name)
    (hrow : ∀ n, Untouched columns [cfg] n → r'.cell n = r.cell n) :
    collateralValue
        (columns ++ [cfg.name, proportionalColumn cfg.name, discountedColumn cfg.name]) r' later
      = collateralValue columns r later := by
  obtain ⟨hname, hprop, hdisc⟩ := hlater
  have hcell : r'.cell later.name = r.cell later.name := by
    refine hrow _ ⟨fun c hc => ?_, Or.inr fun c hc => ?_⟩
    · obtain rfl := List.mem_singleton.mp hc
      exact ⟨hprop, hdisc⟩
    · obtain rfl := List.mem_singleton.mp hc
      exact hname
  have hmem : later.name
        ∈ columns ++ [cfg.name, proportionalColumn cfg.name, discountedColumn cfg.name]
      ↔ later.name ∈ columns := by
    simp [hname, hprop, hdisc]
  rw [collateralValue, collateralValue, hcell]
  simp only [hmem]

end

/-- What the loop over `cfgs` makes of a row `x`. -/
structure LoopRow (columns : List String) (cfgs : List CollateralConfig)
    (x y : Record × Option ℚ) : Prop where
  cell_eq : ∀ n, Untouched columns cfgs n → y.1.cell n = x.1.cell n
  proportional_eq : ReadInOrder (cfgs.map (·.name)) → ∀ cfg ∈ cfgs,
    y.1.cell (proportionalColumn cfg.name) = Cell.ofNumber (proportionalValue columns x.1 cfg)
  sum_eq : ReadInOrder (cfgs.map (·.name)) → y.2 = discountedSum columns x.1 x.2 cfgs
  rate_ok : cfgs ≠ [] → ∃ e, (x.1.cell "EIR").toNumber = .ok e

/-- **The loop over the collateral types**, row by row. -/
lemma foldlM_addCollateral {cfgs : List CollateralConfig} {work work' : LgdWork}
    (hcolumns : ∀ n ∈ keptColumns, n ∈ work.columns)
    (h : cfgs.foldlM addCollateral work = .ok work') :
    List.Forall₂ (LoopRow work.columns cfgs) work.rows work'.rows := by
  induction cfgs generalizing work with
  | nil =>
      obtain rfl : work = work' := Except.ok.inj h
      exact List.forall₂_same.mpr fun x _ =>
        ⟨fun _ _ => rfl, fun _ _ hcfg => absurd hcfg List.not_mem_nil, fun _ => rfl,
          fun hne => absurd rfl hne⟩
  | cons cfg cfgs ih =>
      obtain ⟨work₁, hturn, hrest⟩ := bind_eq_ok.mp h
      obtain ⟨rows, hrows, hturn⟩ := bind_eq_ok.mp hturn
      obtain rfl := Except.ok.inj hturn
      have hkept₁ : ∀ n ∈ keptColumns, n ∈ work.columns
          ++ [cfg.name, proportionalColumn cfg.name, discountedColumn cfg.name] := fun n hn =>
        List.mem_append_left _ (hcolumns n hn)
      refine forall₂_comp ?_ (forall₂_of_mapM_ok hrows) (ih hkept₁ hrest)
      intro x y z hxy hyz
      obtain ⟨hcell, hproportional, -, hsum, hrate⟩ := collateralRow_ok hcolumns hxy
      have hkept : ∀ n ∈ keptColumns, y.1.cell n = x.1.cell n := fun n hn =>
        hcell n (untouched_of_mem_keptColumns hcolumns hn)
      -- what the turn of `cfg` leaves of the later types
      have hlater : ReadInOrder (cfg.name :: cfgs.map (·.name)) → ∀ later ∈ cfgs,
          collateralValue (work.columns
            ++ [cfg.name, proportionalColumn cfg.name, discountedColumn cfg.name]) y.1 later
          = collateralValue work.columns x.1 later := fun horder later hmem =>
        collateralValue_after ((List.pairwise_cons.mp horder).1 _ (List.mem_map_of_mem hmem)) hcell
      refine ⟨fun n hn => ?_, fun horder later hmem => ?_, fun horder => ?_, fun _ => hrate⟩
      · obtain ⟨hderived, hcolumn⟩ := hn
        have hfirst : y.1.cell n = x.1.cell n := by
          refine hcell n ⟨fun c hc => ?_, hcolumn.imp_right fun hne c hc => ?_⟩
          · exact hderived c (List.mem_singleton.mp hc ▸ List.mem_cons_self)
          · exact hne c (List.mem_singleton.mp hc ▸ List.mem_cons_self)
        refine (hyz.cell_eq n ⟨fun c hc => hderived c (List.mem_cons_of_mem _ hc), ?_⟩).trans hfirst
        exact hcolumn.imp (List.mem_append_left _) fun hne c hc => hne c (List.mem_cons_of_mem _ hc)
      · rw [List.map_cons] at horder
        rcases List.mem_cons.mp hmem with rfl | hmem
        · refine (hyz.cell_eq _ ⟨fun c hc => ⟨fun heq => ?_, ?_⟩, Or.inl ?_⟩).trans hproportional
          · exact ((List.pairwise_cons.mp horder).1 _ (List.mem_map_of_mem hc)).1
              (proportionalColumn_injective heq).symm
          · exact proportionalColumn_ne_discountedColumn _ _
          · exact List.mem_append_right _ (by simp)
        · rw [hyz.proportional_eq (List.pairwise_cons.mp horder).2 later hmem, proportionalValue,
            hlater horder later hmem, hkept "Proportion" (by decide), proportionalValue]
      · rw [List.map_cons] at horder
        rw [hyz.sum_eq (List.pairwise_cons.mp horder).2, hsum]
        refine List.foldl_ext _ _ _ fun sum later hmem => ?_
        rw [discountedValue, hlater horder later hmem, hkept "Proportion" (by decide),
          hkept "EIR" (by decide), discountedValue]

/-! ### Rows of numbers -/

/-- A row of numbers and blanks. -/
def NumberRow (r : Record) : Prop := ∀ n, ∃ x, r.cell n = Cell.ofNumber x

lemma NumberRow.set {r : Record} (h : NumberRow r) (name : String) (x : Option ℚ) :
    NumberRow (r.set name (Cell.ofNumber x)) := by
  intro n
  by_cases hn : n = name
  · exact ⟨x, hn ▸ Record.cell_set_same r name _⟩
  · rw [Record.cell_set_of_ne hn]
    exact h n

lemma exists_collateralRow {cfg : CollateralConfig} {hasColumn : Bool} {x : Record × Option ℚ}
    (h : NumberRow x.1) : ∃ y, collateralRow cfg hasColumn x = .ok y ∧ NumberRow y.1 := by
  obtain ⟨r, sum⟩ := x
  set r₀ : Record := if hasColumn = true then r else r.set cfg.name (.num 0) with hr₀
  have hbase : NumberRow r₀ := by
    rw [hr₀]
    split
    · exact h
    · exact NumberRow.set h cfg.name (some 0)
  obtain ⟨share, hshare⟩ := hbase "Proportion"
  obtain ⟨value, hvalue⟩ := hbase cfg.name
  obtain ⟨eir, heir⟩ := hbase "EIR"
  have heir' : ∀ x, (r₀.set (proportionalColumn cfg.name) x).cell "EIR" = Cell.ofNumber eir :=
    fun x => by rw [Record.cell_set_of_ne (ne_proportionalColumn (by decide) _), heir]
  refine ⟨_, bind_eq_ok.mpr ⟨share, ?_, bind_eq_ok.mpr ⟨value, ?_, bind_eq_ok.mpr ⟨eir, ?_, rfl⟩⟩⟩,
    (hbase.set _ _).set _ _⟩
  · exact (congrArg Cell.toNumber hshare).trans (Cell.toNumber_ofNumber share)
  · exact (congrArg Cell.toNumber hvalue).trans (Cell.toNumber_ofNumber value)
  · exact (congrArg Cell.toNumber (heir' _)).trans (Cell.toNumber_ofNumber eir)

/-- The loop over the collateral types on rows of numbers. -/
lemma exists_foldlM_addCollateral (cfgs : List CollateralConfig) {work : LgdWork}
    (h : ∀ x ∈ work.rows, NumberRow x.1) : ∃ work', cfgs.foldlM addCollateral work = .ok work' := by
  induction cfgs generalizing work with
  | nil => exact ⟨work, rfl⟩
  | cons cfg cfgs ih =>
      obtain ⟨rows, hrows⟩ := exists_mapM_ok
        (f := collateralRow cfg (decide (cfg.name ∈ work.columns))) (l := work.rows) fun x hx => by
          obtain ⟨y, hy, -⟩ := exists_collateralRow (h x hx)
          exact ⟨y, hy⟩
      have hnumbers : ∀ y ∈ rows, NumberRow y.1 := by
        intro y hy
        obtain ⟨x, hx, hxy⟩ := exists_of_mem_mapM hrows hy
        obtain ⟨y', hy', hnumber⟩ := exists_collateralRow (h x hx)
        obtain rfl : y' = y := Except.ok.inj (hy'.symm.trans hxy)
        exact hnumber
      obtain ⟨work', hwork'⟩ := @ih { columns := work.columns ++ [cfg.name,
        proportionalColumn cfg.name, discountedColumn cfg.name], rows := rows } hnumbers
      refine ⟨work', ?_⟩
      rw [List.foldlM_cons, addCollateral, hrows]
      exact hwork'

/-! ### The rows of the output -/

section Output

variable {df working out : Frame} {config : List CollateralConfig}

/-- The record that `withEir` makes of one. -/
def renameEir (eirCol last : String) (r : Record) : Record :=
  { r with
    cell := fun name =>
      if name = "EIR" then r.cell last else if name = eirCol then .blank else r.cell name }

lemma cell_renameEir (eirCol last : String) (r : Record) (n : String) :
    (renameEir eirCol last r).cell n
      = if n = "EIR" then r.cell last else if n = eirCol then .blank else r.cell n := rfl

/-- The column that is read as `EIR` where the resolved one is not of this name. -/
def lastEirColumn (df : Frame) : String :=
  ((df.columns.filter fun name => name = resolveEirColumn df ∨ name = "EIR").getLast?).getD
    (resolveEirColumn df)

/-- A sheet with rate column is the one it was, or has that column renamed. -/
lemma withEir_ok (h : withEir df config = .ok working) :
    (resolveEirColumn df = "EIR" ∧ working = df) ∨
      (resolveEirColumn df ≠ "EIR" ∧ resolveEirColumn df ∈ df.columns ∧
        working.columns = df.columns.map (fun name =>
          if name = resolveEirColumn df then "EIR" else name) ∧
        working.rows = df.rows.map (renameEir (resolveEirColumn df) (lastEirColumn df))) := by
  rw [withEir] at h
  by_cases heir : resolveEirColumn df = "EIR"
  · rw [if_pos heir] at h
    exact Or.inl ⟨heir, (Except.ok.inj h).symm⟩
  rw [if_neg heir] at h
  by_cases hmem : resolveEirColumn df ∉ df.columns
  · rw [if_pos hmem] at h
    cases h
  rw [if_neg hmem] at h
  split at h
  · cases h
  · obtain rfl := Except.ok.inj h
    exact Or.inr ⟨heir, not_not.mp hmem, rfl, rfl⟩

lemma eir_mem_of_withEir (h : withEir df config = .ok working) : "EIR" ∈ working.columns := by
  rcases withEir_ok h with ⟨heir, rfl⟩ | ⟨_, hmem, hcolumns, _⟩
  · by_contra habsent
    rw [resolveEirColumn, resolveColumn, Frame.resolveColumn?] at heir
    cases hfind : lgdEirAliases.find? fun name => name ∈ working.columns with
    | none =>
        rw [hfind] at heir
        exact absurd heir (by decide)
    | some name =>
        rw [hfind] at heir
        obtain rfl : name = "EIR" := heir
        have hfound := List.find?_some hfind
        exact habsent (of_decide_eq_true hfound)
  · rw [hcolumns]
    exact List.mem_map.mpr ⟨resolveEirColumn df, hmem, if_pos rfl⟩

lemma mem_of_requireColumns {names : List String} (h : df.requireColumns names = .ok ())
    {name : String} (hname : name ∈ names) : name ∈ df.columns := by
  rw [Frame.requireColumns] at h
  split at h
  · rename_i hnone
    simpa using List.find?_eq_none.mp hnone name hname
  · cases h

lemma resolveEirColumn_mem (df : Frame) : resolveEirColumn df ∈ lgdEirAliases := by
  rw [resolveEirColumn, resolveColumn, Frame.resolveColumn?]
  cases hfind : lgdEirAliases.find? fun name => name ∈ df.columns with
  | none => decide
  | some name => exact List.mem_of_find?_eq_some hfind

/-- A row with its share. -/
lemma cell_withShare {r : Record} {total : Cell} {share : ℚ} {n : String}
    (hn : n ∉ [totalColumn, "Proportion"]) :
    ((r.set totalColumn total).set "Proportion" (.num share)).cell n = r.cell n := by
  simp only [List.mem_cons, List.not_mem_nil, or_false, not_or] at hn
  rw [Record.cell_set_of_ne hn.2, Record.cell_set_of_ne hn.1]

/-- What `compute_lgd` makes of a row with its share. -/
structure LgdOutRow (columns : List String) (config : List CollateralConfig) (r y : Record) :
    Prop where
  cell_eq : ∀ n ∈ keptColumns, y.cell n = r.cell n
  proportional_eq : ReadInOrder ((configByName config).map (·.name)) → ∀ cfg ∈ configByName config,
    y.cell (proportionalColumn cfg.name) = Cell.ofNumber (proportionalValue columns r cfg)
  sum_eq : ReadInOrder ((configByName config).map (·.name)) → y.cell lgdSumCol
    = Cell.ofNumber (discountedSum columns r (some 0) (configByName config))
  rate_ok : configByName config ≠ [] → ∃ e, (r.cell "EIR").toNumber = .ok e

/-- The columns before the loop. -/
def shareColumns (working : Frame) : List String := working.columns ++ [totalColumn, "Proportion"]

lemma keptColumns_mem (hworking : withEir df config = .ok working)
    (hids : ∀ n ∈ ["Customer ID", "Loan ID"], n ∈ working.columns) :
    ∀ n ∈ keptColumns, n ∈ shareColumns working := by
  intro n hn
  simp only [keptColumns, List.mem_cons, List.not_mem_nil, or_false] at hn
  rcases hn with rfl | rfl | rfl | rfl
  · exact List.mem_append_left _ (eir_mem_of_withEir hworking)
  · exact List.mem_append_right _ (by simp)
  · exact List.mem_append_left _ (hids _ (by decide))
  · exact List.mem_append_left _ (hids _ (by decide))

/-- **The output of `compute_lgd`**, of the rows of the sheet. -/
lemma computeLgd_ok (h : computeLgd df config = .ok out) :
    ∃ working rows, withEir df config = .ok working ∧
      List.Forall₂ (LgdOutRow (shareColumns working) config)
        (withProportions (sortByKey lgdSortKey working.rows) amountOf) rows ∧
      out.rows = sortByKey (fun r : Record => (r.cell "Loan ID").key) rows := by
  obtain ⟨working, hworking, h⟩ := bind_eq_ok.mp h
  obtain ⟨_, hcheck, h⟩ := bind_eq_ok.mp h
  obtain ⟨work, hwork, h⟩ := bind_eq_ok.mp h
  obtain ⟨_, hrequired, _⟩ := bind_eq_ok.mp hcheck
  have hcolumns := keptColumns_mem hworking fun n hn => mem_of_requireColumns hrequired hn
  have hrows := foldlM_addCollateral hcolumns hwork
  split at h
  · cases h
  obtain rfl := Except.ok.inj h
  refine ⟨working, work.rows.map fun p => p.1.set lgdSumCol (Cell.ofNumber p.2), hworking, ?_, rfl⟩
  rw [List.forall₂_map_right_iff]
  rw [List.forall₂_map_left_iff] at hrows
  refine hrows.imp fun r y hy =>
    ⟨fun n hn => ?_, fun horder cfg hcfg => ?_, fun horder => ?_, hy.rate_ok⟩
  · have hne : n ≠ lgdSumCol := by
      rintro rfl
      exact absurd hn (by decide)
    rw [Record.cell_set_of_ne hne]
    exact hy.cell_eq n (untouched_of_mem_keptColumns hcolumns hn)
  · rw [Record.cell_set_of_ne (ne_proportionalColumn_of_take (by decide) _).symm]
    exact hy.proportional_eq horder cfg hcfg
  · rw [Record.cell_set_same, hy.sum_eq horder]
    rfl

/-- A run whose stages all succeed. -/
lemma computeLgd_eq_ok {work : LgdWork} (hworking : withEir df config = .ok working)
    (hcheck : checkLgdFrame working = .ok ())
    (hwork : (configByName config).foldlM addCollateral {
      columns := shareColumns working
      rows := (withProportions (sortByKey lgdSortKey working.rows) amountOf).map
        fun r => (r, some 0) } = .ok work)
    (hcomparable : Cell.comparable (df.column "Loan ID") = true) :
    computeLgd df config = .ok {
      columns := lgdOutputColumns config
      rows := sortByKey (fun r : Record => (r.cell "Loan ID").key)
        (work.rows.map fun (r, sum) => r.set lgdSumCol (Cell.ofNumber sum)) } := by
  refine bind_eq_ok.mpr ⟨working, hworking, bind_eq_ok.mpr ⟨(), hcheck,
    bind_eq_ok.mpr ⟨work, hwork, if_neg ?_⟩⟩⟩
  rw [hcomparable]
  decide

/-- A sheet of numbers has an output. -/
lemma exists_computeLgd (hworking : withEir df config = .ok working)
    (hcheck : checkLgdFrame working = .ok ())
    (hcomparable : Cell.comparable (df.column "Loan ID") = true)
    (hrows : ∀ r ∈ working.rows, NumberRow r) : ∃ out, computeLgd df config = .ok out := by
  have hnumbers : ∀ x ∈ (withProportions (sortByKey lgdSortKey working.rows) amountOf).map
      fun r => (r, some (0 : ℚ)), NumberRow x.1 := by
    intro x hx
    obtain ⟨r, hr, rfl⟩ := List.mem_map.mp hx
    obtain ⟨r', hr', rfl⟩ := List.mem_map.mp hr
    exact ((hrows r' ((mem_sortByKey _).mp hr')).set totalColumn _).set "Proportion" (some _)
  obtain ⟨work, hwork⟩ := @exists_foldlM_addCollateral (configByName config)
    { columns := shareColumns working, rows := _ } hnumbers
  exact ⟨_, computeLgd_eq_ok hworking hcheck hwork hcomparable⟩

/-- The loans of the output are those of the sheet. -/
lemma perm_loanId_computeLgd (h : computeLgd df config = .ok out) :
    (out.rows.map (·.cell "Loan ID")).Perm (df.rows.map (·.cell "Loan ID")) := by
  obtain ⟨working, rows, hworking, hrows, hout⟩ := computeLgd_ok h
  have hworkingIds : working.rows.map (·.cell "Loan ID") = df.rows.map (·.cell "Loan ID") := by
    rcases withEir_ok hworking with ⟨_, rfl⟩ | ⟨_, _, _, hrenamed⟩
    · rfl
    · have hcol : ("Loan ID" : String) ≠ resolveEirColumn df := by
        intro heq
        have hmem := resolveEirColumn_mem df
        rw [← heq] at hmem
        exact absurd hmem (by decide)
      rw [hrenamed, List.map_map]
      refine List.map_congr_left fun r _ => ?_
      rw [Function.comp_apply, cell_renameEir, if_neg (by decide), if_neg hcol]
  have hshareIds : (withProportions (sortByKey lgdSortKey working.rows) amountOf).map
        (·.cell "Loan ID") = (sortByKey lgdSortKey working.rows).map (·.cell "Loan ID") := by
    rw [withProportions, List.map_map]
    exact List.map_congr_left fun r _ => cell_withShare (by decide)
  have hrowIds : (withProportions (sortByKey lgdSortKey working.rows) amountOf).map
        (·.cell "Loan ID") = rows.map (·.cell "Loan ID") := by
    rw [← List.forall₂_eq_eq_eq, List.forall₂_map_left_iff, List.forall₂_map_right_iff]
    exact hrows.imp fun r y hy => (hy.cell_eq "Loan ID" (by decide)).symm
  have hsorted := (sortByKey_perm (fun r : Record => (r.cell "Loan ID").key) rows).map
    (·.cell "Loan ID")
  rw [← hrowIds, hshareIds] at hsorted
  have hsheet := (sortByKey_perm lgdSortKey working.rows).map (·.cell "Loan ID")
  rw [hworkingIds] at hsheet
  rw [hout]
  exact hsorted.trans hsheet

end Output

end EclServer.Engine
