import EclServer.Results.Totals
import EclServer.Library.Paging

/-!
The pages of a segment's loans (`_loan_rows_for_segment`, `get_segment`).

* `MayAnswer`: an answer to the request for a page. The query orders by the ECL alone, so the
  database picks the order of the loans of one ECL, for each page anew.
* `ShowsEachOnce`: the pages together show each loan selected once, and `has_next` tells whether
  there is more.
* `LoansApart`: a selected loan has one customer and one first row, and no page boundary falls
  among the loans of one ECL. `paging_iff`: the pages show each loan once exactly then.
-/

namespace EclServer.Results

open EclServer.Library EclServer.Auth EclServer.Runs

/-! ### Answers -/

/-- The loans selected by `_loan_rows_for_segment`. -/
def selectedIds (rows : List EadResult) (minEcl : Option ℚ) : List String :=
  ((eclGroup rows minEcl).map (·.loanId)).dedup

/-- `ecl_sub.c.ecl.desc()`. -/
def eclDesc (r : (LoanEcl × Option (String × String)) × Option (String × ℚ)) : ℚ := -r.1.1.ecl

/-- The answer for a page, with the loans in the order the database has picked. -/
def pageView (view : SegmentViewOut) (rows : List EadResult) (minEcl : Option ℚ) (perPage : ℕ)
    (page : ℕ) (order : List ((LoanEcl × Option (String × String)) × Option (String × ℚ))) :
    SegmentViewOut :=
  { view with
    loans := (pageOf perPage order (page - 1)).map loanRowOut
    pageMeta := pageMeta (eclGroup rows minEcl).length page perPage }

section

variable (db : ResultsDb) (tenantId segmentName : String) (runId stage : Option String)
  (minEcl : Option ℚ) (perPage : ℕ) (user : User) (membership : Option TenantMembership)

/-- **An answer to the request for a page**: what `get_segment` returns, with the loans in any
order that descends by the ECL. -/
def MayAnswer (page : ℕ) (view : SegmentViewOut) : Prop :=
  ∃ answer run order,
    getSegment db tenantId segmentName runId stage minEcl page perPage user membership = .ok answer ∧
    latestCompletedRun db tenantId runId user membership = .ok run ∧
    IsOrder eclDesc
      (selectedLoans (loanBase db run.id tenantId segmentName stage minEcl) minEcl) order ∧
    view = { answer with loans := (pageOf perPage order (page - 1)).map loanRowOut }

end

/-- The pages show each loan once, and `has_next` tells whether a later page has loans. -/
structure ShowsEachOnce (loans : List String) (views : ℕ → SegmentViewOut) : Prop where
  each : ((List.range (views 1).pageMeta.pages).flatMap fun p =>
    (views (p + 1)).loans.map (·.id)).Perm loans
  next : ∀ page, 1 ≤ page →
    ((views page).pageMeta.hasNext = true ↔ ∃ later, page < later ∧ (views later).loans ≠ [])

/-- A selected loan has one customer and one row in its first period, and no page boundary falls
among the loans of one ECL. -/
structure LoansApart (rows : List EadResult) (minEcl : Option ℚ) (perPage : ℕ) : Prop where
  customer : ((eclGroup rows minEcl).map (·.loanId)).Nodup
  firstRow : ∀ e ∈ eclGroup rows minEcl,
    ((loanInitialStage rows).filter fun s => e.loanId = s.1).length ≤ 1
  ties : TiesApart (fun e => -e.ecl) perPage (eclGroup rows minEcl)

/-! ### The rows selected -/

section

variable {rows : List EadResult} {minEcl : Option ℚ}

lemma nodup_eclGroup : (eclGroup rows minEcl).Nodup := by
  rw [eclGroup]
  refine (((nodup_groupKeys loanCustomer rows).filter _)).map fun k k' hsame => ?_
  have hloan := congrArg LoanEcl.loanId hsame
  have hcustomer := congrArg LoanEcl.customerId hsame
  exact Prod.ext hloan hcustomer

/-- The join with the PDs adds a column. -/
lemma selectedLoans_perm_leftJoin (rows : List EadResult) (minEcl : Option ℚ) :
    ((selectedLoans rows minEcl).map (·.1)).Perm
      (leftJoin (fun e s => e.loanId = s.1) (eclGroup rows minEcl) (loanInitialStage rows)) := by
  refine ((sortByKey_perm _ _).map _).trans (List.Perm.of_eq ?_)
  rw [leftJoin_eq_map _ fun r _ => length_pdSub r.1.loanId, List.map_map]
  exact List.map_id _

/-- The join with the first rows keeps a loan that has one. -/
lemma selectedLoans_perm_eclGroup (hfirst : ∀ e ∈ eclGroup rows minEcl,
      ((loanInitialStage rows).filter fun s => e.loanId = s.1).length ≤ 1) :
    ((selectedLoans rows minEcl).map (·.1.1)).Perm (eclGroup rows minEcl) := by
  have hperm := (selectedLoans_perm_leftJoin rows minEcl).map Prod.fst
  rw [List.map_map, leftJoin_eq_map _ hfirst, List.map_map] at hperm
  exact hperm.trans (List.Perm.of_eq (List.map_id _))

/-- **No loan is selected twice** exactly where each has one customer and one first row. -/
lemma nodup_selectedLoans_iff :
    ((selectedLoans rows minEcl).map (·.1.1.loanId)).Nodup
      ↔ ((eclGroup rows minEcl).map (·.loanId)).Nodup ∧ ∀ e ∈ eclGroup rows minEcl,
        ((loanInitialStage rows).filter fun s => e.loanId = s.1).length ≤ 1 := by
  constructor
  · intro hnodup
    have hjoin : ((leftJoin (fun (e : LoanEcl) (s : String × String) => e.loanId = s.1)
        (eclGroup rows minEcl) (loanInitialStage rows)).map Prod.fst).Nodup := by
      refine List.Nodup.of_map (·.loanId) ?_
      have hperm := (selectedLoans_perm_leftJoin rows minEcl).map
        (·.1.loanId)
      rw [List.map_map] at hperm ⊢
      exact hperm.nodup_iff.mp hnodup
    have hfirst := (nodup_fst_leftJoin_iff _ nodup_eclGroup).mp hjoin
    have hgroups := (selectedLoans_perm_eclGroup hfirst).map (·.loanId)
    rw [List.map_map] at hgroups
    exact ⟨hgroups.nodup_iff.mp hnodup, hfirst⟩
  · rintro ⟨hcustomer, hfirst⟩
    have hgroups := (selectedLoans_perm_eclGroup hfirst).map (·.loanId)
    rw [List.map_map] at hgroups
    exact hgroups.nodup_iff.mpr hcustomer

/-- Rows with one customer and one row a loan and period select no loan twice. -/
lemma SingleRows.nodup_selectedLoans (h : SingleRows rows) :
    ((selectedLoans rows minEcl).map (·.1.1.loanId)).Nodup := by
  refine nodup_selectedLoans_iff.mpr ⟨?_, fun e _ => h.length_loanInitialStage e.loanId⟩
  rw [eclGroup, List.map_map]
  refine List.Nodup.map_on ?_ ((nodup_groupKeys loanCustomer rows).filter _)
  intro k hk k' hk' hloan
  obtain ⟨a, ha, rfl⟩ := (mem_groupKeys loanCustomer).mp (List.mem_of_mem_filter hk)
  obtain ⟨b, hb, rfl⟩ := (mem_groupKeys loanCustomer).mp (List.mem_of_mem_filter hk')
  exact Prod.ext hloan (h.customer a ha b hb hloan)

/-- The order of the rows does not matter to the boundaries. -/
lemma tiesApart_selectedLoans {perPage : ℕ} (hfirst : ∀ e ∈ eclGroup rows minEcl,
      ((loanInitialStage rows).filter fun s => e.loanId = s.1).length ≤ 1) :
    TiesApart eclDesc perPage (selectedLoans rows minEcl)
      ↔ TiesApart (fun e : LoanEcl => -e.ecl) perPage (eclGroup rows minEcl) := by
  have hperm := selectedLoans_perm_eclGroup hfirst
  have hmap : TiesApart (fun e : LoanEcl => -e.ecl) perPage
      ((selectedLoans rows minEcl).map (·.1.1)) ↔ TiesApart eclDesc perPage
        (selectedLoans rows minEcl) := tiesApart_map
  rw [← hmap]
  exact ⟨fun h => h.of_perm hperm, fun h => h.of_perm hperm.symm⟩

lemma isOrder_selectedLoans : IsOrder eclDesc (selectedLoans rows minEcl)
    (selectedLoans rows minEcl) :=
  ⟨List.Perm.refl _, sortByKey_sorted _ _⟩

end

/-! ### The answers of a request -/

section

variable {db : ResultsDb} {tenantId segmentName : String} {runId stage : Option String}
  {minEcl : Option ℚ} {page perPage : ℕ} {user : User} {membership : Option TenantMembership}
  {r : Run} {view answer : SegmentViewOut}

lemma eq_of_validateStage {stage' : Option String} (h : validateStage stage = .ok stage') :
    stage' = stage := by
  cases stage with
  | none => exact (Except.ok.inj h).symm
  | some s =>
      rw [validateStage] at h
      split at h
      · exact (Except.ok.inj h).symm
      · cases h

/-- The answers to the pages of one request differ in the loans and the page numbers. -/
lemma getSegment_eq_pageView (hrun : latestCompletedRun db tenantId runId user membership = .ok r)
    (h : getSegment db tenantId segmentName runId stage minEcl 1 perPage user membership
      = .ok view) (page : ℕ) :
    let rows := loanBase db r.id tenantId segmentName stage minEcl
    getSegment db tenantId segmentName runId stage minEcl page perPage user membership
      = .ok (pageView view rows minEcl perPage page (selectedLoans rows minEcl)) := by
  intro rows
  rw [getSegment] at h ⊢
  obtain ⟨stage', hstage, hsegment⟩ := bind_eq_ok.mp h
  have hsame : stage' = stage := eq_of_validateStage hstage
  rw [hsame] at hstage hsegment
  obtain ⟨tenant, htenant, hview⟩ := bind_eq_ok.mp hsegment
  obtain ⟨run, hrun', hshown⟩ := bind_eq_ok.mp hview
  have hrunSame : run = r := Except.ok.inj (hrun'.symm.trans hrun)
  rw [hrunSame] at hshown
  obtain ⟨previous, hprevious, hfound⟩ := bind_eq_ok.mp hshown
  simp only [hstage, htenant, hrun, hprevious, bind, Except.bind] at hfound ⊢
  split at hfound
  · cases hfound
  · rw [← Except.ok.inj hfound]
    rfl

/-- A segment with rows is answered. -/
lemma exists_getSegment {tenant : Tenant} (hstage : validateStage stage = .ok stage)
    (htenant : getTenant db tenantId = .ok tenant)
    (hrun : latestCompletedRun db tenantId runId user membership = .ok r)
    (hrow : ∃ row ∈ segmentBase db r.id tenantId stage minEcl, row.segment = segmentName) :
    ∃ view, getSegment db tenantId segmentName runId stage minEcl page perPage user membership
      = .ok view := by
  obtain ⟨_, _, scope, hscope⟩ := latestCompletedRun_ok hrun
  obtain ⟨previous, hprevious⟩ : ∃ previous,
      previousCompletedRun db tenantId r.finishedAt user membership = .ok previous :=
    exists_previousCompletedRun _ hscope
  have hlisted : segmentTotals (segmentBase db r.id tenantId stage minEcl) segmentName
      ∈ segmentRows (segmentBase db r.id tenantId stage minEcl) := by
    rw [(segmentRows_perm _).mem_iff]
    exact List.mem_map_of_mem ((mem_groupKeys EadResult.segment).mpr hrow)
  have hfound : ((segmentAggregates db r.id tenantId (previous.map (·.id)) stage minEcl).find?
      fun s => s.name = segmentName).isSome = true := by
    rw [List.find?_isSome]
    exact ⟨_, List.mem_map_of_mem hlisted, decide_eq_true rfl⟩
  obtain ⟨segment, hsegment⟩ := Option.isSome_iff_exists.mp hfound
  simp only [getSegment, hstage, htenant, hrun, hprevious, hsegment, bind, Except.bind]
  exact ⟨_, rfl⟩

/-- **The answers to a page** are the orders of the loans. -/
lemma mayAnswer_iff (hrun : latestCompletedRun db tenantId runId user membership = .ok r)
    (h : getSegment db tenantId segmentName runId stage minEcl 1 perPage user membership
      = .ok view) :
    let rows := loanBase db r.id tenantId segmentName stage minEcl
    MayAnswer db tenantId segmentName runId stage minEcl perPage user membership page answer
      ↔ ∃ order, IsOrder eclDesc (selectedLoans rows minEcl) order ∧
        answer = pageView view rows minEcl perPage page order := by
  intro rows
  have hpage := getSegment_eq_pageView hrun h page
  constructor
  · rintro ⟨answer', run, order, hanswer, hrun', horder, rfl⟩
    obtain rfl := Except.ok.inj (hrun.symm.trans hrun')
    obtain rfl := Except.ok.inj (hpage.symm.trans hanswer)
    exact ⟨order, horder, rfl⟩
  · rintro ⟨order, horder, rfl⟩
    exact ⟨_, r, order, hpage, hrun, horder, rfl⟩

/-- What `get_segment` returns is one of the answers. -/
lemma mayAnswer_getSegment (hrun : latestCompletedRun db tenantId runId user membership = .ok r)
    (h : getSegment db tenantId segmentName runId stage minEcl 1 perPage user membership
      = .ok view)
    (hanswer : getSegment db tenantId segmentName runId stage minEcl page perPage user membership
      = .ok answer) :
    MayAnswer db tenantId segmentName runId stage minEcl perPage user membership page answer := by
  refine (mayAnswer_iff hrun h).mpr ⟨_, isOrder_selectedLoans, ?_⟩
  exact Except.ok.inj (hanswer.symm.trans (getSegment_eq_pageView hrun h page))

/-! ### Page numbers -/

/-- There is a next page exactly where the page does not reach the end. -/
lemma lt_pages_iff {total : ℕ} (hperPage : 0 < perPage) (hpage : 1 ≤ page) :
    page < (pageMeta total page perPage).pages ↔ page * perPage < total := by
  show page < max 1 ((total + perPage - 1) / perPage) ↔ _
  rw [lt_max_iff]
  have hdiv : page < (total + perPage - 1) / perPage ↔ page * perPage < total := by
    rw [← Nat.succ_le_iff, Nat.le_div_iff_mul_le hperPage, Nat.succ_mul]
    omega
  rw [hdiv]
  exact ⟨fun h => h.resolve_left (by omega), Or.inr⟩

/-- The pages have room for all loans. -/
lemma le_pages_mul {total : ℕ} (hperPage : 0 < perPage) :
    total ≤ (pageMeta total 1 perPage).pages * perPage := by
  have hpos : 1 ≤ (pageMeta total 1 perPage).pages := le_max_left _ _
  have hlast := (@lt_pages_iff _ perPage total hperPage hpos).not.mp (lt_irrefl _)
  exact not_lt.mp hlast

/-! ### Each loan once -/

variable {rows : List EadResult}

/-- The ids on the pages. -/
lemma flatMap_pageView {m : ℕ}
    {orders : ℕ → List ((LoanEcl × Option (String × String)) × Option (String × ℚ))} :
    ((List.range m).flatMap fun p =>
        (pageView view rows minEcl perPage (p + 1) (orders p)).loans.map (·.id))
      = ((List.range m).flatMap fun p => pageOf perPage (orders p) p).map (·.1.1.loanId) := by
  rw [List.map_flatMap]
  refine List.flatMap_congr fun p _ => ?_
  rw [pageView, List.map_map]
  rfl

/-- Loans that are apart are shown once, in whatever orders. -/
lemma LoansApart.showsEachOnce (h : LoansApart rows minEcl perPage) (hperPage : 0 < perPage)
    {orders : ℕ → List ((LoanEcl × Option (String × String)) × Option (String × ℚ))}
    (horders : ∀ p, IsOrder eclDesc (selectedLoans rows minEcl) (orders p)) :
    ShowsEachOnce (selectedIds rows minEcl)
      fun page => pageView view rows minEcl perPage page (orders (page - 1)) where
  each := by
    have hnodup := nodup_selectedLoans_iff.mpr ⟨h.customer, h.firstRow⟩
    have hgroups := selectedLoans_perm_eclGroup h.firstRow
    have hroom : (selectedLoans rows minEcl).length
        ≤ (pageMeta (eclGroup rows minEcl).length 1 perPage).pages * perPage := by
      rw [← hgroups.length_eq, List.length_map]
      exact (le_pages_mul hperPage)
    -- the pages cut an order of all selected loans, at boundaries without ties
    have hties := (tiesApart_selectedLoans h.firstRow).mpr h.ties
    have hperm := (pages_perm_iff isOrder_selectedLoans hnodup hperPage hroom).mpr hties
      orders horders
    have hids := hgroups.map (·.loanId)
    rw [List.map_map] at hids
    rw [selectedIds, h.customer.dedup]
    refine (List.Perm.of_eq ?_).trans (hperm.trans hids)
    exact flatMap_pageView
  next := by
    intro page hpage
    have hlength : (selectedLoans rows minEcl).length = (eclGroup rows minEcl).length := by
      rw [← (selectedLoans_perm_eclGroup h.firstRow).length_eq, List.length_map]
    -- the metadata counts the loans by the query of the groups, the page lists them by the join
    have hshown : ∀ later, (pageView view rows minEcl perPage later (orders (later - 1))).loans ≠ []
        ↔ (later - 1) * perPage < (eclGroup rows minEcl).length := by
      intro later
      rw [pageView, ne_eq, List.map_eq_nil_iff, ← ne_eq, pageOf_ne_nil_iff hperPage,
        (horders _).perm.length_eq, hlength]
    have hnext : (pageView view rows minEcl perPage page (orders (page - 1))).pageMeta.hasNext
        = true ↔ page * perPage < (eclGroup rows minEcl).length := by
      rw [← lt_pages_iff hperPage hpage]
      exact decide_eq_true_iff
    rw [hnext]
    constructor
    · intro hmore
      exact ⟨page + 1, Nat.lt_succ_self page, (hshown _).mpr hmore⟩
    · rintro ⟨later, hlater, hloans⟩
      have hle : page * perPage ≤ (later - 1) * perPage :=
        Nat.mul_le_mul_right perPage (by omega)
      exact hle.trans_lt ((hshown later).mp hloans)

/-- Loans shown once in all orders are apart. -/
lemma loansApart_of_showsEachOnce (hperPage : 0 < perPage)
    (h : ∀ orders : ℕ → List ((LoanEcl × Option (String × String)) × Option (String × ℚ)),
      (∀ p, IsOrder eclDesc (selectedLoans rows minEcl) (orders p)) →
        ShowsEachOnce (selectedIds rows minEcl)
          fun page => pageView view rows minEcl perPage page (orders (page - 1))) :
    LoansApart rows minEcl perPage := by
  set pages := (pageMeta (eclGroup rows minEcl).length 1 perPage).pages with hpages
  have hpos : 1 ≤ pages := le_max_left _ _
  have hperm : ∀ orders : ℕ → List ((LoanEcl × Option (String × String)) × Option (String × ℚ)),
      (∀ p, IsOrder eclDesc (selectedLoans rows minEcl) (orders p)) →
        (((List.range pages).flatMap fun p => pageOf perPage (orders p) p).map
          (·.1.1.loanId)).Perm (selectedIds rows minEcl) := by
    intro orders horders
    refine (List.Perm.of_eq ?_).trans (h orders horders).each
    exact flatMap_pageView.symm
  -- with one order for all pages there is nothing behind the last page
  have hone := h (fun _ => selectedLoans rows minEcl) fun _ => isOrder_selectedLoans
  have hroom : (selectedLoans rows minEcl).length ≤ pages * perPage := by
    by_contra hmore
    have hlast := (hone.next pages hpos).mpr ⟨pages + 1, Nat.lt_succ_self _, ?_⟩
    · exact absurd (of_decide_eq_true hlast) (lt_irrefl _)
    · rw [pageView, ne_eq, List.map_eq_nil_iff, ← ne_eq, pageOf_ne_nil_iff hperPage]
      exact not_le.mp hmore
  have hids : ((selectedLoans rows minEcl).map (·.1.1.loanId)).Perm (selectedIds rows minEcl) := by
    have hall := hperm (fun _ => selectedLoans rows minEcl) fun _ => isOrder_selectedLoans
    rw [flatMap_pageOf, List.take_of_length_le hroom] at hall
    exact hall
  have hnodup : ((selectedLoans rows minEcl).map (·.1.1.loanId)).Nodup :=
    hids.nodup_iff.mpr (List.nodup_dedup _)
  obtain ⟨hcustomer, hfirst⟩ := nodup_selectedLoans_iff.mp hnodup
  refine ⟨hcustomer, hfirst, (tiesApart_selectedLoans hfirst).mp ?_⟩
  refine (pages_perm_iff isOrder_selectedLoans hnodup hperPage hroom).mp ?_
  intro orders horders
  exact (hperm orders horders).trans hids.symm

/-- The pages of all answers are the pages of all orders. -/
lemma forall_mayAnswer_iff (hrun : latestCompletedRun db tenantId runId user membership = .ok r)
    (h : getSegment db tenantId segmentName runId stage minEcl 1 perPage user membership
      = .ok view) {P : (ℕ → SegmentViewOut) → Prop}
    (hP : ∀ views views' : ℕ → SegmentViewOut, (∀ page, 1 ≤ page → views page = views' page) →
      P views → P views') :
    let rows := loanBase db r.id tenantId segmentName stage minEcl
    (∀ views : ℕ → SegmentViewOut, (∀ page, 1 ≤ page →
        MayAnswer db tenantId segmentName runId stage minEcl perPage user membership page
          (views page)) → P views)
      ↔ ∀ orders : ℕ → List ((LoanEcl × Option (String × String)) × Option (String × ℚ)),
        (∀ p, IsOrder eclDesc (selectedLoans rows minEcl) (orders p)) →
          P fun page => pageView view rows minEcl perPage page (orders (page - 1)) := by
  intro rows
  constructor
  · intro hall orders horders
    refine hall _ fun page _ => (mayAnswer_iff hrun h).mpr ⟨_, horders _, rfl⟩
  · intro hall views hviews
    have hpick : ∀ p, ∃ order, IsOrder eclDesc (selectedLoans rows minEcl) order ∧
        views (p + 1) = pageView view rows minEcl perPage (p + 1) order :=
      fun p => (mayAnswer_iff hrun h).mp (hviews (p + 1) (by omega))
    choose orders horders hanswers using hpick
    refine hP _ views ?_ (hall orders horders)
    intro page hpage
    obtain ⟨p, rfl⟩ : ∃ p, page = p + 1 := ⟨page - 1, by omega⟩
    exact (hanswers p).symm

lemma ShowsEachOnce.congr {loans : List String} {views views' : ℕ → SegmentViewOut}
    (h : ShowsEachOnce loans views) (hsame : ∀ page, 1 ≤ page → views page = views' page) :
    ShowsEachOnce loans views' where
  each := by
    have heach := h.each
    simp only [hsame _ (Nat.le_add_left 1 _)] at heach
    exact heach
  next := by
    intro page hpage
    rw [← hsame page hpage, h.next page hpage]
    refine exists_congr fun later => and_congr_right fun hlater => ?_
    rw [hsame later (by omega)]

/-- **Paging shows each selected loan once**, in whatever orders the database answers the page
requests, exactly when each has one customer and one first row and no page boundary falls among
the loans of one ECL. -/
theorem paging_iff (hperPage : 1 ≤ perPage)
    (hrun : latestCompletedRun db tenantId runId user membership = .ok r)
    (hview : getSegment db tenantId segmentName runId stage minEcl 1 perPage user membership
      = .ok view) :
    let rows := loanBase db r.id tenantId segmentName stage minEcl
    (∀ views : ℕ → SegmentViewOut, (∀ page, 1 ≤ page →
        MayAnswer db tenantId segmentName runId stage minEcl perPage user membership page
          (views page)) → ShowsEachOnce (selectedIds rows minEcl) views)
      ↔ LoansApart rows minEcl perPage := by
  intro rows
  have hanswers := forall_mayAnswer_iff hrun hview
    (P := ShowsEachOnce (selectedIds rows minEcl)) fun _ _ hsame h => h.congr hsame
  constructor
  · intro hall
    exact loansApart_of_showsEachOnce hperPage (hanswers.mp hall)
  · intro hapart
    exact hanswers.mpr fun _ horders => hapart.showsEachOnce hperPage horders

end

/-! ### Two loans without a loss -/

/-- A completed run of two loans of one segment and no ECL. -/
def tiedWrites : List ResultsWrite :=
  [.insertRun { id := "r1", tenantId := "t1", createdByUserId := "u1", name := "Q1"
                status := .complete, finishedAt := some 5 },
    .insertEadResults "r1"
      [totalsRow "L1" "RETAIL" "Stage 1" 0 0, totalsRow "L2" "RETAIL" "Stage 1" 0 0]]

/-- The run's creator asks for the loans, two a page. -/
theorem paging_iff_sample :
    let db := tablesAfter totalsTenants [totalsReader] tiedWrites
    ∃ r, latestCompletedRun db "t1" (some "r1") totalsReader (some totalsMembership) = .ok r ∧
      let rows := loanBase db r.id "t1" "RETAIL" none none
      ((∀ views : ℕ → SegmentViewOut, (∀ page, 1 ≤ page →
          MayAnswer db "t1" "RETAIL" (some "r1") none none 2 totalsReader (some totalsMembership)
            page (views page)) → ShowsEachOnce (selectedIds rows none) views)
        ↔ LoansApart rows none 2) := by
  intro db
  have hrun : ∃ r, latestCompletedRun db "t1" (some "r1") totalsReader (some totalsMembership)
      = .ok r ∧ ∃ row ∈ segmentBase db r.id "t1" none none, row.segment = "RETAIL" :=
    ⟨_, rfl, totalsRow "L1" "RETAIL" "Stage 1" 0 0, List.mem_cons_self, rfl⟩
  obtain ⟨r, hrun, hrow⟩ := hrun
  obtain ⟨view, hview⟩ : ∃ view, getSegment db "t1" "RETAIL" (some "r1") none none 1 2 totalsReader
      (some totalsMembership) = .ok view :=
    exists_getSegment rfl (show getTenant db "t1" = .ok _ from rfl) hrun hrow
  exact ⟨r, hrun, paging_iff (by decide) hrun hview⟩

/-- One a page, the same loan may be shown on both pages. -/
theorem paging_fails :
    let db := tablesAfter totalsTenants [totalsReader] tiedWrites
    ∃ r, latestCompletedRun db "t1" (some "r1") totalsReader (some totalsMembership) = .ok r ∧
      ¬ ∀ views : ℕ → SegmentViewOut, (∀ page, 1 ≤ page →
          MayAnswer db "t1" "RETAIL" (some "r1") none none 1 totalsReader (some totalsMembership)
            page (views page)) →
        ShowsEachOnce (selectedIds (loanBase db r.id "t1" "RETAIL" none none) none) views := by
  intro db
  have hrun : ∃ r, latestCompletedRun db "t1" (some "r1") totalsReader (some totalsMembership)
      = .ok r ∧ (∃ row ∈ segmentBase db r.id "t1" none none, row.segment = "RETAIL") ∧
        ¬ LoansApart (loanBase db r.id "t1" "RETAIL" none none) none 1 := by
    refine ⟨_, rfl, ⟨totalsRow "L1" "RETAIL" "Stage 1" 0 0, List.mem_cons_self, rfl⟩, ?_⟩
    intro hapart
    rcases hapart.ties 0 1 with hfront | hback
    · exact absurd hfront (by decide +kernel)
    · exact absurd hback (by decide +kernel)
  obtain ⟨r, hrun, hrow, htied⟩ := hrun
  obtain ⟨view, hview⟩ : ∃ view, getSegment db "t1" "RETAIL" (some "r1") none none 1 1 totalsReader
      (some totalsMembership) = .ok view :=
    exists_getSegment rfl (show getTenant db "t1" = .ok _ from rfl) hrun hrow
  refine ⟨r, hrun, fun hall => htied ?_⟩
  exact loansApart_of_showsEachOnce (by decide) ((forall_mayAnswer_iff hrun hview
    fun _ _ hsame h => h.congr hsame).mp hall)

end EclServer.Results
