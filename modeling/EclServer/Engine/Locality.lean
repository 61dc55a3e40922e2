import EclServer.Library.Selection
import EclServer.Engine.PdTable
import EclServer.Engine.PooledCollateral
import EclServer.Engine.LoanReference

/-!
What the PD and the LGD engine read for one segment and for one loan.

* `segmentHistory`: the rows of all loans that were ever in a segment. `segmentMatrices_local`,
  `mem_table_local`: the matrices and the table of a segment are made of them.
* `loanCollateral`, `foldlM_addCollateral_rows`: the loop over the collateral types, a loan at a
  time.
* `loanPool`: the sheet rows of a loan's customers. `lgdLoan_local`: what the engine makes of a
  loan depends on nothing else.
-/

namespace EclServer.Engine

open EclServer.Library

/-! ### The history of a segment -/

/-- The rows of the loans that have some row in the segment of this name. -/
def segmentHistory (env : PyEnv) (segment : String) (rows : List PdRow) : List PdRow :=
  related PdRow.loanId (fun r => r.segment.pyStr env = segment) rows

section History

variable {env : PyEnv} {rows rows' : List PdRow} {p : PdRow → Bool} {text : String} {segment : Cell}

lemma filter_dedupeRows (hp : ∀ a b, a.loanId = b.loanId → p a = p b) :
    (dedupeRows rows).filter p = dedupeRows (rows.filter p) := by
  have hkeys : ((dropDuplicates PdRow.key rows).map PdRow.sortKey).Nodup := by
    have hnodup := nodup_map_dropDuplicates PdRow.key rows
    rw [List.Nodup, List.pairwise_map] at hnodup ⊢
    exact hnodup.imp fun hne hsame => hne (Prod.ext (Cell.key_injective (congrArg
      (fun k => (ofLex k).1) hsame)) (congrArg (fun k => (ofLex k).2) hsame))
  rw [dedupeRows, filter_sortByKey_of_nodup hkeys, filter_dropDuplicates_of_key, dedupeRows]
  exact fun a b hsame => hp a b (congrArg Prod.fst hsame)

/-- The following month is looked for among the rows of the loan. -/
lemma filter_nextStaging (hp : ∀ a b, a.loanId = b.loanId → p a = p b) :
    (nextStaging rows).filter (fun t => p t.row) = nextStaging (rows.filter p) := by
  have hjoin : ∀ a b, p a = true → isNextOf a b = true → p b = true := by
    intro a b ha hnext
    rw [isNextOf, decide_eq_true_iff] at hnext
    exact (hp a b hnext.1).symm.trans ha
  rw [nextStaging, nextStaging, ← filter_dedupeRows hp, ← filter_leftJoin hjoin, List.filter_map]
  rfl

/-- The transitions of a segment come from its history. -/
lemma filter_segment_nextStaging (htext : segment.pyStr env = text) :
    (nextStaging rows).filter (fun t => t.row.segment = segment)
      = (nextStaging (segmentHistory env text rows)).filter fun t => t.row.segment = segment := by
  rw [segmentHistory, related, ← filter_nextStaging, List.filter_filter]
  · refine List.filter_congr fun t ht => ?_
    by_cases hsegment : t.row.segment = segment
    · have hrow : t.row ∈ rows := row_mem_of_mem_nextStaging ht
      rw [decide_eq_true hsegment, Bool.true_and, eq_comm, List.any_eq_true]
      exact ⟨t.row, hrow, by rw [hsegment, htext]; simp⟩
    · rw [decide_eq_false hsegment, Bool.false_and]
  · intro a b hsame
    rw [hsame]

variable (hhistory : segmentHistory env text rows = segmentHistory env text rows')
  (htext : segment.pyStr env = text)

include hhistory htext

/-- **The matrices of a segment are made of its history.** -/
lemma segmentMatrices_local :
    segmentMatrices env (nextStaging rows) segment
      = segmentMatrices env (nextStaging rows') segment := by
  have hsame : (nextStaging rows).filter (fun t => t.row.segment = segment)
      = (nextStaging rows').filter fun t => t.row.segment = segment := by
    rw [filter_segment_nextStaging htext, hhistory, ← filter_segment_nextStaging htext]
  rw [segmentMatrices, segmentMatrices, hsame]

lemma mem_segmentsOf_local :
    segment ∈ segmentsOf env (nextStaging rows) ↔ segment ∈ segmentsOf env (nextStaging rows') := by
  have hmem : ∀ {working : List PdTransition}, segment ∈ segmentsOf env working ↔
      (∃ t, t ∈ working.filter fun t => t.row.segment = segment) ∧ segment.isNa = false := by
    intro working
    rw [segmentsOf, mem_sortByKey, mem_dropDuplicates_id, List.mem_filter, List.mem_map]
    simp only [List.mem_filter, decide_eq_true_iff, Bool.not_eq_true']
  rw [hmem, hmem, filter_segment_nextStaging htext, hhistory, ← filter_segment_nextStaging htext]

/-- **The rows of a segment in the table are made of its history.** -/
theorem mem_table_local {r : PdTableRow} (hr : r.segment = segment) :
    r ∈ (pdOutput env rows).table ↔ r ∈ (pdOutput env rows').table := by
  have hrow : ∀ st n, tableRow env
      (fun s => cureRate (segmentMatrices env (nextStaging rows) s).proportions)
        (nextStaging rows) segment st n
      = tableRow env (fun s => cureRate (segmentMatrices env (nextStaging rows') s).proportions)
        (nextStaging rows') segment st n := by
    intro st n
    have hmatrices := segmentMatrices_local hhistory htext
    have hnormalized : normalizedOf env (nextStaging rows) segment
        = normalizedOf env (nextStaging rows') segment := by
      rw [normalizedOf, hmatrices, normalizedOf]
    have hstage3 : stage3At env (nextStaging rows) segment st
        = stage3At env (nextStaging rows') segment st := by
      funext k
      rw [stage3At, hnormalized, stage3At]
    rw [tableRow, tableRow, hnormalized, hstage3, hmatrices]
  rw [mem_table, mem_table]
  constructor
  · rintro ⟨c, hc, st, n, hn, rfl⟩
    obtain rfl : c = segment := hr
    exact ⟨c, (mem_segmentsOf_local hhistory htext).mp hc, st, n, hn, hrow st n⟩
  · rintro ⟨c, hc, st, n, hn, rfl⟩
    obtain rfl : c = segment := hr
    exact ⟨c, (mem_segmentsOf_local hhistory htext).mpr hc, st, n, hn, (hrow st n).symm⟩

end History

/-! ### The loop over the collateral types, a loan at a time -/

/-- What the loop makes of one row, in a table that starts with these columns. -/
def loanCollateral : List String → List CollateralConfig →
    Record × Option ℚ → Except String (Record × Option ℚ)
  | _, [], x => .ok x
  | columns, cfg :: cfgs, x => do
      let y ← collateralRow cfg (decide (cfg.name ∈ columns)) x
      loanCollateral
        (columns ++ [cfg.name, proportionalColumn cfg.name, discountedColumn cfg.name]) cfgs y

section Loop

variable {columns : List String} {cfg : CollateralConfig} {cfgs : List CollateralConfig}

/-- The loop over all rows is the loop on each of them. -/
lemma foldlM_addCollateral_rows {work work' : LgdWork}
    (h : cfgs.foldlM addCollateral work = .ok work') :
    List.Forall₂ (fun x y => loanCollateral work.columns cfgs x = .ok y) work.rows work'.rows := by
  induction cfgs generalizing work with
  | nil =>
      obtain rfl : work = work' := Except.ok.inj h
      exact List.forall₂_same.mpr fun x _ => rfl
  | cons cfg cfgs ih =>
      obtain ⟨work₁, hturn, hrest⟩ := bind_eq_ok.mp h
      obtain ⟨rows, hrows, hturn⟩ := bind_eq_ok.mp hturn
      obtain rfl := Except.ok.inj hturn
      refine forall₂_comp ?_ (forall₂_of_mapM_ok hrows) (ih hrest)
      exact fun x y z hxy hyz => bind_eq_ok.mpr ⟨y, hxy, hyz⟩

/-- Cells and sum, but not the label of the row, decide a turn. -/
lemma collateralRow_congr {hasColumn : Bool} {x x' y : Record × Option ℚ}
    (hcell : x.1.cell = x'.1.cell) (hsum : x.2 = x'.2)
    (h : collateralRow cfg hasColumn x = .ok y) :
    ∃ y', collateralRow cfg hasColumn x' = .ok y' ∧ y.1.cell = y'.1.cell ∧ y.2 = y'.2 := by
  obtain ⟨⟨i, cell⟩, sum⟩ := x
  obtain ⟨⟨i', cell'⟩, sum'⟩ := x'
  obtain rfl : cell = cell' := hcell
  obtain rfl : sum = sum' := hsum
  obtain ⟨share, hshare, h⟩ := bind_eq_ok.mp h
  obtain ⟨value, hvalue, h⟩ := bind_eq_ok.mp h
  obtain ⟨eir, heir, h⟩ := bind_eq_ok.mp h
  obtain rfl := Except.ok.inj h
  cases hasColumn with
  | true =>
      exact ⟨_, bind_eq_ok.mpr ⟨share, hshare, bind_eq_ok.mpr ⟨value, hvalue,
        bind_eq_ok.mpr ⟨eir, heir, rfl⟩⟩⟩, rfl, rfl⟩
  | false =>
      exact ⟨_, bind_eq_ok.mpr ⟨share, hshare, bind_eq_ok.mpr ⟨value, hvalue,
        bind_eq_ok.mpr ⟨eir, heir, rfl⟩⟩⟩, rfl, rfl⟩

lemma loanCollateral_congr {x x' y : Record × Option ℚ} (hcell : x.1.cell = x'.1.cell)
    (hsum : x.2 = x'.2) (h : loanCollateral columns cfgs x = .ok y) :
    ∃ y', loanCollateral columns cfgs x' = .ok y' ∧ y.1.cell = y'.1.cell ∧ y.2 = y'.2 := by
  induction cfgs generalizing columns x x' with
  | nil =>
      obtain rfl : x = y := Except.ok.inj h
      exact ⟨x', rfl, hcell, hsum⟩
  | cons cfg cfgs ih =>
      obtain ⟨z, hturn, hrest⟩ := bind_eq_ok.mp h
      obtain ⟨z', hturn', hcell', hsum'⟩ := collateralRow_congr hcell hsum hturn
      obtain ⟨y', hrest', hsame⟩ := ih hcell' hsum' hrest
      exact ⟨y', bind_eq_ok.mpr ⟨z', hturn', hrest'⟩, hsame⟩

/-- The loop leaves the loan, its customer and its rate. -/
lemma cell_loanCollateral {x y : Record × Option ℚ} (hcolumns : ∀ n ∈ keptColumns, n ∈ columns)
    (h : loanCollateral columns cfgs x = .ok y) {n : String} (hn : n ∈ keptColumns) :
    y.1.cell n = x.1.cell n := by
  induction cfgs generalizing columns x with
  | nil =>
      obtain rfl : x = y := Except.ok.inj h
      rfl
  | cons cfg cfgs ih =>
      obtain ⟨z, hturn, hrest⟩ := bind_eq_ok.mp h
      have hkept := (collateralRow_ok hcolumns hturn).1 n (untouched_of_mem_keptColumns hcolumns hn)
      exact (ih (fun m hm => List.mem_append_left _ (hcolumns m hm)) hrest).trans hkept

end Loop

/-! ### The pool of a loan -/

/-- What `compute_lgd` makes of one row of its sheet, with the total of the customer. -/
def lgdLoan (columns : List String) (config : List CollateralConfig) (total : Option ℚ)
    (r : Record) : Except String Record := do
  let (r, sum) ← loanCollateral columns (configByName config)
    ((r.set totalColumn (Cell.ofNumber total)).set "Proportion"
      (.num (proportion (amountOf r) total)), some 0)
  return r.set lgdSumCol (Cell.ofNumber sum)

/-- The rows of the customers of the loan with this name. -/
def loanPool (env : PyEnv) (loanId : String) (df : Frame) : List Record :=
  related (·.cell "Customer ID") (fun r => (r.cell "Loan ID").pyStr env = loanId) df.rows

section Pool

variable {env : PyEnv} {df df' working out out' : Frame} {config : List CollateralConfig}
  {loanId : String} {columns : List String} {total : Option ℚ}

lemma lgdLoan_congr {r r' y : Record} (hcell : r.cell = r'.cell)
    (h : lgdLoan columns config total r = .ok y) :
    ∃ y', lgdLoan columns config total r' = .ok y' ∧ y.cell = y'.cell := by
  obtain ⟨z, hloop, h⟩ := bind_eq_ok.mp h
  obtain rfl := Except.ok.inj h
  have hamount : amountOf r = amountOf r' := by rw [amountOf_eq, amountOf_eq, hcell]
  have hstart : ((r.set totalColumn (Cell.ofNumber total)).set "Proportion"
        (.num (proportion (amountOf r) total))).cell
      = ((r'.set totalColumn (Cell.ofNumber total)).set "Proportion"
        (.num (proportion (amountOf r') total))).cell := by
    simp only [Record.set, hcell, hamount]
  obtain ⟨z', hloop', hcells, hsum⟩ := @loanCollateral_congr columns _
    (_, some 0) (_, some 0) z hstart rfl hloop
  refine ⟨z'.1.set lgdSumCol (Cell.ofNumber z'.2), bind_eq_ok.mpr ⟨z', hloop', rfl⟩, ?_⟩
  simp only [Record.set, hcells, hsum]

/-- The record with its rate column named `EIR`, in a sheet with these columns. -/
def eirRow (columns : List String) : Record → Record :=
  if resolveEirColumn (header columns) = "EIR" then id
  else renameEir (resolveEirColumn (header columns)) (lastEirColumn (header columns))

lemma withEir_rows_eq (h : withEir df config = .ok working) :
    working.rows = df.rows.map (eirRow df.columns) := by
  rcases withEir_ok h with ⟨heir, rfl⟩ | ⟨heir, -, -, hrows⟩
  · have hheader : resolveEirColumn (header working.columns) = "EIR" := heir
    rw [eirRow, if_pos hheader, List.map_id]
  · have hheader : resolveEirColumn (header df.columns) ≠ "EIR" := heir
    rw [eirRow, if_neg hheader, hrows]
    rfl

/-- The columns after the rename are those of the sheet, renamed. -/
lemma columns_withEir (hcolumns : df.columns = df'.columns) {working' : Frame}
    (h : withEir df config = .ok working) (h' : withEir df' config = .ok working') :
    working.columns = working'.columns := by
  have hcolumn : resolveEirColumn df = resolveEirColumn df' := by
    rw [resolveEirColumn, resolveColumn, Frame.resolveColumn?, hcolumns]
    rfl
  rcases withEir_ok h with ⟨heir, rfl⟩ | ⟨heir, -, hmap, -⟩
  · rcases withEir_ok h' with ⟨-, rfl⟩ | ⟨heir', -, -, -⟩
    · exact hcolumns
    · exact absurd (hcolumn.symm.trans heir) heir'
  · rcases withEir_ok h' with ⟨heir', -⟩ | ⟨-, -, hmap', -⟩
    · exact absurd (hcolumn.trans heir') heir
    · rw [hmap, hmap', hcolumns, hcolumn]

/-- The rename leaves what identifies a loan, and its amount. -/
lemma cell_eirRow {r : Record} {n : String}
    (hn : n ∈ ["Loan ID", "Customer ID", "Outstanding Amount"]) :
    (eirRow columns r).cell n = r.cell n := by
  have hloan : ∀ m ∈ ["Loan ID", "Customer ID", "Outstanding Amount"],
      m ≠ "EIR" ∧ m ∉ lgdEirAliases := by decide
  obtain ⟨hne, hnot⟩ := hloan n hn
  rw [eirRow]
  split
  · rfl
  · have hcol : n ≠ resolveEirColumn (header columns) := fun heq => hnot (by
      rw [heq]
      exact resolveEirColumn_mem _)
    rw [cell_renameEir, if_neg hne, if_neg hcol]

lemma eirRow_congr {r r' : Record} (hcell : r.cell = r'.cell) :
    (eirRow columns r).cell = (eirRow columns r').cell := by
  rw [eirRow]
  split
  · exact hcell
  · funext n
    rw [cell_renameEir, cell_renameEir, hcell]

/-- The total of a customer, of the cells of the sheet. -/
lemma customerTotal_eirRow (rows : List Record) (customer : Cell) :
    customerTotal (rows.map (eirRow columns)) amountOf customer
      = customerTotal rows amountOf customer := by
  refine customerTotal_congr (R := fun r' r => r' = eirRow columns r) ?_ ?_ customer
  · rintro _ r rfl
    exact ⟨cell_eirRow (by decide), cell_eirRow (by decide)⟩
  · rw [List.forall₂_map_left_iff]
    exact List.forall₂_same.mpr fun _ _ => rfl

/-- **The output, loan by loan.** -/
lemma mem_computeLgd_iff (h : computeLgd df config = .ok out) :
    ∃ working, withEir df config = .ok working ∧
      (∀ n ∈ keptColumns, n ∈ shareColumns working) ∧
      ∀ y, y ∈ out.rows ↔ ∃ r ∈ df.rows, lgdLoan (shareColumns working) config
        (customerTotal df.rows amountOf (r.cell "Customer ID")) (eirRow df.columns r) = .ok y := by
  obtain ⟨working, hworking, h⟩ := bind_eq_ok.mp h
  obtain ⟨_, hcheck, h⟩ := bind_eq_ok.mp h
  obtain ⟨work, hwork, h⟩ := bind_eq_ok.mp h
  obtain ⟨_, hrequired, _⟩ := bind_eq_ok.mp hcheck
  have hcolumns := keptColumns_mem hworking fun n hn => mem_of_requireColumns hrequired hn
  have hloop := foldlM_addCollateral_rows hwork
  split at h
  · cases h
  obtain rfl := Except.ok.inj h
  refine ⟨working, hworking, hcolumns, fun y => ?_⟩
  set loans := sortByKey (fun r => lgdSortKey (eirRow df.columns r)) df.rows with hloans
  rw [withEir_rows_eq hworking, sortByKey_map, withProportions, List.map_map, List.map_map,
    List.forall₂_map_left_iff] at hloop
  have hrows : List.Forall₂ (fun r y => lgdLoan (shareColumns working) config
        (customerTotal df.rows amountOf (r.cell "Customer ID")) (eirRow df.columns r) = .ok y)
      loans (work.rows.map fun p => p.1.set lgdSumCol (Cell.ofNumber p.2)) := by
    rw [List.forall₂_map_right_iff]
    refine hloop.imp fun r p hp => ?_
    have htotal : customerTotal (loans.map (eirRow df.columns)) amountOf
          ((eirRow df.columns r).cell "Customer ID")
        = customerTotal df.rows amountOf (r.cell "Customer ID") := by
      rw [customerTotal_eirRow, customerTotal_perm (sortByKey_perm _ _), cell_eirRow (by decide)]
    rw [← htotal]
    exact bind_eq_ok.mpr ⟨p, hp, rfl⟩
  rw [mem_sortByKey]
  refine (mem_iff_of_forall₂ hrows).trans ?_
  simp only [hloans, mem_sortByKey]

/-- The total of a customer is that of the cells of its rows. -/
lemma customerTotal_cells {rows rows' : List Record} {customer : Cell}
    (h : (rows.filter fun r => r.cell "Customer ID" = customer).map Record.cell
      = (rows'.filter fun r => r.cell "Customer ID" = customer).map Record.cell) :
    customerTotal rows amountOf customer = customerTotal rows' amountOf customer := by
  have hamounts : ∀ rows : List Record,
      ((rows.filter fun r => r.cell "Customer ID" = customer).map fun r => (amountOf r).getD 0)
        = (((rows.filter fun r => r.cell "Customer ID" = customer).map Record.cell).map
          fun cell => (numberOf (cell "Outstanding Amount")).getD 0) := by
    intro rows
    rw [List.map_map]
    refine List.map_congr_left fun r _ => ?_
    rw [amountOf_eq]
    rfl
  rw [customerTotal, customerTotal, hamounts, h, ← hamounts]

/-- **What `compute_lgd` makes of a loan** depends on the rows of its customer alone. -/
theorem lgdLoan_local (hcolumns : df.columns = df'.columns)
    (hpool : (loanPool env loanId df).map Record.cell = (loanPool env loanId df').map Record.cell)
    (h : computeLgd df config = .ok out) (h' : computeLgd df' config = .ok out') {y : Record}
    (hy : y ∈ out.rows) (hid : (y.cell "Loan ID").pyStr env = loanId) :
    ∃ y' ∈ out'.rows, y.cell = y'.cell := by
  obtain ⟨working, hworking, hkept, hmem⟩ := mem_computeLgd_iff h
  obtain ⟨working', hworking', -, hmem'⟩ := mem_computeLgd_iff h'
  obtain ⟨r, hr, hloan⟩ := (hmem y).mp hy
  -- the row of the sheet, and its equal in the other one
  have hname : (r.cell "Loan ID").pyStr env = loanId := by
    obtain ⟨z, hloop, hset⟩ := bind_eq_ok.mp hloan
    obtain rfl := Except.ok.inj hset
    rw [← hid, Record.cell_set_of_ne (by decide), cell_loanCollateral hkept hloop (by decide),
      cell_withShare (by decide), cell_eirRow (by decide)]
  have hpooled : r ∈ loanPool env loanId df :=
    mem_related.mpr ⟨hr, r, hr, decide_eq_true hname, rfl⟩
  have hcells : r.cell ∈ (loanPool env loanId df').map Record.cell :=
    hpool ▸ List.mem_map_of_mem hpooled
  obtain ⟨r', hr', hcell⟩ := List.mem_map.mp hcells
  -- the total of its customer
  have htotal : customerTotal df.rows amountOf (r.cell "Customer ID")
      = customerTotal df'.rows amountOf (r'.cell "Customer ID") := by
    rw [hcell]
    refine customerTotal_cells ?_
    have hselect : ∀ (df : Frame) (c : Record), c ∈ df.rows → (c.cell "Loan ID").pyStr env = loanId →
        c.cell = r.cell →
        (df.rows.filter fun a => a.cell "Customer ID" = r.cell "Customer ID").map Record.cell
          = ((loanPool env loanId df).map Record.cell).filter
            fun cell => cell "Customer ID" = r.cell "Customer ID" := by
      intro df c hc hcid hsame
      rw [List.filter_map, loanPool, ← hsame, ← filter_related_key
        (p := fun r => (r.cell "Loan ID").pyStr env = loanId)
        ⟨c, hc, decide_eq_true hcid, rfl⟩]
      rfl
    have hname' : (r'.cell "Loan ID").pyStr env = loanId := by rw [hcell, hname]
    rw [hselect df r hr hname rfl, hselect df' r' (mem_related.mp hr').1 hname' hcell, hpool]
  have hshare : shareColumns working = shareColumns working' := by
    rw [shareColumns, shareColumns, columns_withEir hcolumns hworking hworking']
  rw [htotal, hshare, hcolumns] at hloan
  obtain ⟨y', hloan', hsame⟩ := lgdLoan_congr (eirRow_congr hcell.symm) hloan
  exact ⟨y', (hmem' y').mpr ⟨r', (mem_related.mp hr').1, hloan'⟩, hsame⟩

end Pool

end EclServer.Engine
