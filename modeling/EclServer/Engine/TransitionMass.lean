import EclServer.Engine.Accepted
import EclServer.Engine.NextMonth
import EclServer.Library.Grouping

/-!
The amounts that the transition matrices of the PD engine count.

* `nextStageMatrix_eq`: a monthly matrix, with its column of what goes off the books, holds the
  amounts of its transitions and what a sum of texts reads beside them.
* `segmentMass_eq`: the matrices of a segment count the rows between known stages, each once.
* `MassConserved`: the merge keeps the rows, and the matrices count all the staged amounts.
* `MassBalances`: no row has two candidates for its next month, and texts put together make up
  for the amounts whose next staging the engine does not know. `CountsOnce`: there are none of these.
* `massConserved_iff`: for accepted sheets the mass is conserved exactly where it balances, and
  where the amounts are numbers exactly where every row counts once.
-/

namespace EclServer.Engine

open EclServer.Library

/-! ### Stages and what follows them -/

/-- A cell is one of `STAGES`. -/
def isStage (c : Cell) : Bool := LoanStage.all.any fun stage => c = .str stage.text

/-- A cell is one of `NEXT_STAGES`. -/
def isNextStage (c : Cell) : Bool := isStage c || c = .str "Offbooks"

/-- The matrix that is kept has the first three columns. -/
lemma buildMonthlyMatrix_eq (env : PyEnv) (subset : List PdTransition) (i j : LoanStage) :
    buildMonthlyMatrix env subset i j = nextStageMatrix env subset i (some j) := rfl

/-- A loan amount: a number, or what `pd.to_numeric` reads of the cell, as `validate_pd` does. -/
def numericAmount (env : PyEnv) : Cell → ℚ
  | .blank => 0
  | .num q => q
  | c => (env.toNumeric c).getD 0

/-- The amount of a row. -/
def PdRow.amount (env : PyEnv) (r : PdRow) : ℚ := numericAmount env r.loanAmount

/-- A transition that a matrix counts. -/
def PdTransition.counted (t : PdTransition) : Bool :=
  isStage t.row.staging && isNextStage t.nextStaging

/-- The amounts of the transitions a matrix counts. -/
def countedAmount (env : PyEnv) (ts : List PdTransition) : ℚ :=
  ((ts.filter PdTransition.counted).map fun t => t.row.amount env).sum

/-- The amounts of rows in a known stage that move to none of `NEXT_STAGES`. -/
def lostAmount (env : PyEnv) (ts : List PdTransition) : ℚ :=
  ((ts.filter fun t => isStage t.row.staging && !isNextStage t.nextStaging).map
    fun t => t.row.amount env).sum

/-- What a group of amounts sums to beside the amounts themselves: nothing for numbers, and for
texts the number that `float` reads of them put together, less the amounts. -/
def textSurplus (env : PyEnv) (amounts : List Cell) : ℚ :=
  if amounts.any fun c => c matches .str _ then
    (match env.toFloat (joinTexts amounts) with
      | .ok (some q) => q
      | _ => 0) - (amounts.map (numericAmount env)).sum
  else 0

/-- The same over the months of a segment and the groups of each. -/
def segmentSurplus (env : PyEnv) (segmentDf : List PdTransition) : ℚ :=
  ((reportingMonths segmentDf).map fun month => ∑ i : LoanStage, ∑ j, textSurplus env
    (pivotGroup (segmentDf.filter (·.row.reportingMonth = some month)) (.str i.text)
      (.str (nextStageText j)))).sum

/-- The sum of the monthly matrices of a segment, the column off the books with them. -/
def segmentMass (env : PyEnv) (segmentDf : List PdTransition) : ℚ :=
  ((reportingMonths segmentDf).map fun month =>
    ∑ i, ∑ j, nextStageMatrix env (segmentDf.filter (·.row.reportingMonth = some month)) i j).sum

/-- The amounts of a segment's rows in a known stage. -/
def stagedAmount (env : PyEnv) (rows : List PdRow) (segment : Cell) : ℚ :=
  ((rows.filter fun r => r.segment = segment ∧ isStage r.staging).map fun r => r.amount env).sum

/-- **Conservation of mass**: the merge keeps the number of rows, and in every segment the
matrices add up to the amounts in known stages. -/
def MassConserved (env : PyEnv) (rows : List PdRow) : Prop :=
  (nextStaging rows).length = (dedupeRows rows).length ∧
    ∀ segment ∈ segmentsOf env (nextStaging rows),
      segmentMass env ((nextStaging rows).filter (·.row.segment = segment))
        = stagedAmount env (dedupeRows rows) segment

/-- The rows, each with the staging of the first candidate for its next month. -/
def movesOf (rows : List PdRow) : List PdTransition :=
  (dedupeRows rows).map fun a => ⟨a, fillOffbooks (nextRow? (dedupeRows rows) a)⟩

/-- **The mass balances**: each row has at most one candidate for the next month, and in every
segment the texts put together read as much more than their amounts as is lost to stagings that
the engine does not know. -/
structure MassBalances (env : PyEnv) (rows : List PdRow) : Prop where
  single : ∀ a ∈ dedupeRows rows, ((dedupeRows rows).filter (isNextOf a)).length ≤ 1
  balanced : ∀ segment, segmentSurplus env ((movesOf rows).filter (·.row.segment = segment))
    = lostAmount env ((movesOf rows).filter (·.row.segment = segment))

/-- **Every row counts once**: it has at most one candidate for the next month, and where it is
staged and has an amount, the candidate is blank or staged as the engine writes it. -/
structure CountsOnce (env : PyEnv) (rows : List PdRow) : Prop where
  single : ∀ a ∈ dedupeRows rows, ((dedupeRows rows).filter (isNextOf a)).length ≤ 1
  staged : ∀ a ∈ dedupeRows rows, ∀ b ∈ dedupeRows rows, isNextOf a b = true →
    isStage a.staging = true → a.amount env ≠ 0 →
    b.staging = .blank ∨ isNextStage b.staging = true

/-! ### What the matrices count -/

section

variable {env : PyEnv} {ts : List PdTransition}

/-- A group that adds up, and reads as a float, holds its amounts and the surplus of its texts. -/
lemma sumCells_eq_surplus {amounts : List Cell} {c : Cell} (hsum : sumCells amounts = .ok c) {q : ℚ}
    (hq : c.toFloat env = .ok (some q)) :
    q = textSurplus env amounts + (amounts.map (numericAmount env)).sum := by
  rcases sumCells_ok hsum with ⟨hnumbers, rfl⟩ | ⟨⟨s, hs⟩, rfl⟩
  · have hnone : (amounts.any fun c => c matches .str _) = false := by
      refine List.any_eq_false.mpr fun c hc => ?_
      rcases hnumbers c hc with rfl | ⟨x, rfl⟩ <;> exact Bool.false_ne_true
    have hamounts : amounts.map Cell.number = amounts.map (numericAmount env) := by
      refine List.map_congr_left fun c hc => ?_
      rcases hnumbers c hc with rfl | ⟨x, rfl⟩ <;> rfl
    rw [textSurplus, hnone, if_neg Bool.false_ne_true, zero_add, ← hamounts]
    exact (Option.some.inj (Except.ok.inj hq)).symm
  · have hsome : (amounts.any fun c => c matches .str _) = true := List.any_eq_true.mpr ⟨_, hs, rfl⟩
    have hread : env.toFloat (joinTexts amounts) = .ok (some q) := hq
    rw [textSurplus, if_pos hsome, hread]
    exact (sub_add_cancel _ _).symm

/-- Numbers have no surplus. -/
lemma textSurplus_of_numbers {amounts : List Cell} (h : NumbersOnly amounts) :
    textSurplus env amounts = 0 := by
  refine if_neg fun hsome => ?_
  obtain ⟨c, hc, htext⟩ := List.any_eq_true.mp hsome
  rcases h c hc with rfl | ⟨x, rfl⟩ <;> cases htext

/-- **The entries of a monthly matrix** that the pipeline lets pass. -/
lemma nextStageMatrix_eq (hchecked : checkMonth env ts = .ok ()) (i : LoanStage)
    (j : Option LoanStage) :
    nextStageMatrix env ts i j
      = textSurplus env (pivotGroup ts (.str i.text) (.str (nextStageText j)))
        + ((pivotGroup ts (.str i.text) (.str (nextStageText j))).map (numericAmount env)).sum := by
  obtain ⟨_, -, hplaces⟩ := bind_eq_ok.mp hchecked
  obtain ⟨_, hplaces, -⟩ := bind_eq_ok.mp hplaces
  have hplace : (i, j) ∈ matrixPlaces := by
    refine List.mem_flatMap.mpr ⟨i, i.mem_all, List.mem_map.mpr ⟨j, ?_, rfl⟩⟩
    cases j with
    | none => exact List.mem_append_right _ (List.mem_singleton.mpr rfl)
    | some stage => exact List.mem_append_left _ (List.mem_map_of_mem stage.mem_all)
  obtain ⟨_, -, hentry⟩ := exists_mem_of_mapM_ok hplaces hplace
  obtain ⟨value, hvalue, hfloat⟩ := bind_eq_ok.mp hentry
  cases value with
  | none => cases hfloat
  | some q =>
      obtain ⟨c, hsum, hread⟩ := bind_eq_ok.mp hvalue
      rw [nextStageMatrix, hvalue]
      exact sumCells_eq_surplus hsum hread

/-- A transition counts in one place of the matrix, or in none. -/
lemma sum_entry (c d : Cell) (x : ℚ) :
    (∑ i : LoanStage, ∑ j, if c = .str i.text ∧ d = .str (nextStageText j) then x else 0)
      = if isStage c && isNextStage d then x else 0 := by
  have hrow : ∀ i : LoanStage, (∑ j, if c = .str i.text ∧ d = .str (nextStageText j) then x else 0)
      = if c = .str i.text ∧ isNextStage d = true then x else 0 := by
    intro i
    rw [Fintype.sum_option, LoanStage.sum_eq]
    by_cases hc : c = .str i.text
    · by_cases hone : d = .str LoanStage.stage1.text
      · simp [hc, hone, nextStageText, isNextStage, isStage, LoanStage.all, LoanStage.text]
      by_cases htwo : d = .str LoanStage.stage2.text
      · simp [hc, htwo, nextStageText, isNextStage, isStage, LoanStage.all, LoanStage.text]
      by_cases hthree : d = .str LoanStage.stage3.text
      · simp [hc, hthree, nextStageText, isNextStage, isStage, LoanStage.all, LoanStage.text]
      simp [hc, hone, htwo, hthree, nextStageText, isNextStage, isStage, LoanStage.all]
    · simp [hc]
  simp only [hrow]
  rw [LoanStage.sum_eq]
  by_cases hd : isNextStage d = true
  · by_cases hone : c = .str LoanStage.stage1.text
    · simp [hd, hone, isStage, LoanStage.all, LoanStage.text]
    by_cases htwo : c = .str LoanStage.stage2.text
    · simp [hd, htwo, isStage, LoanStage.all, LoanStage.text]
    by_cases hthree : c = .str LoanStage.stage3.text
    · simp [hd, hthree, isStage, LoanStage.all, LoanStage.text]
    simp [hone, htwo, hthree, isStage, LoanStage.all]
  · simp [hd]

/-- The groups of a month hold the amounts of the transitions that the matrix counts. -/
lemma sum_pivotGroup (ts : List PdTransition) :
    ∑ i : LoanStage, ∑ j, ((pivotGroup ts (.str i.text) (.str (nextStageText j))).map
      (numericAmount env)).sum = countedAmount env ts := by
  induction ts with
  | nil => simp [pivotGroup, countedAmount]
  | cons t ts ih =>
      have hentry : ∀ i : LoanStage, ∀ j, ((pivotGroup (t :: ts) (.str i.text)
          (.str (nextStageText j))).map (numericAmount env)).sum
            = (if t.row.staging = .str i.text ∧ t.nextStaging = .str (nextStageText j) then
                t.row.amount env else 0)
              + ((pivotGroup ts (.str i.text) (.str (nextStageText j))).map
                (numericAmount env)).sum := by
        intro i j
        rw [pivotGroup, pivotGroup, List.filter_cons]
        by_cases h : t.row.staging = .str i.text ∧ t.nextStaging = .str (nextStageText j)
        · rw [if_pos (decide_eq_true h), if_pos h, List.map_cons, List.map_cons, List.sum_cons]
          rfl
        · rw [if_neg (by simpa using h), if_neg h, zero_add]
      simp only [hentry, Finset.sum_add_distrib]
      rw [ih, sum_entry, countedAmount, countedAmount, List.filter_cons, PdTransition.counted]
      split
      · rw [List.map_cons, List.sum_cons]
      · rw [zero_add]

/-- The reporting months are the keys of the months, where each row has one. -/
lemma map_some_reportingMonths (hdated : ∀ t ∈ ts, t.row.reportingMonth ≠ none) :
    ((reportingMonths ts).map some).Perm (groupKeys (·.row.reportingMonth) ts) := by
  have hmonths : ts.map (·.row.reportingMonth)
      = (ts.filterMap (·.row.reportingMonth)).map some := by
    induction ts with
    | nil => rfl
    | cons t ts ih =>
        obtain ⟨month, hmonth⟩ := Option.ne_none_iff_exists'.mp (hdated t List.mem_cons_self)
        rw [List.map_cons, List.filterMap_cons, hmonth, List.map_cons,
          ih fun t ht => hdated t (List.mem_cons_of_mem _ ht)]
  rw [groupKeys, hmonths, dropDuplicates_map_injective (Option.some_injective _)]
  exact (sortByKey_perm _ _).map some

/-- A sum over a selection. -/
lemma sum_filter_eq {α : Type*} (p : α → Bool) (f : α → ℚ) (l : List α) :
    ((l.filter p).map f).sum = (l.map fun a => if p a then f a else 0).sum := by
  induction l with
  | nil => rfl
  | cons a as ih =>
      rw [List.filter_cons, List.map_cons, List.sum_cons, ← ih]
      split
      · rw [List.map_cons, List.sum_cons]
      · rw [zero_add]

/-- The months of a segment count each of its transitions once. -/
lemma sum_countedAmount (hdated : ∀ t ∈ ts, t.row.reportingMonth ≠ none) :
    ((reportingMonths ts).map fun month =>
      countedAmount env (ts.filter (·.row.reportingMonth = some month))).sum
        = countedAmount env ts := by
  set amount : PdTransition → ℚ := fun t => if t.counted then t.row.amount env else 0
    with hamount
  have hmonth : ∀ month, countedAmount env (ts.filter (·.row.reportingMonth = some month))
      = ((groupBy (·.row.reportingMonth) ts (some month)).map amount).sum := by
    intro month
    rw [countedAmount, sum_filter_eq]
    rfl
  calc ((reportingMonths ts).map fun month =>
        countedAmount env (ts.filter (·.row.reportingMonth = some month))).sum
      = (((reportingMonths ts).map some).map fun k =>
          ((groupBy (·.row.reportingMonth) ts k).map amount).sum).sum := by
        rw [List.map_map]
        exact congrArg List.sum (List.map_congr_left fun month _ => hmonth month)
    _ = ((groupKeys (·.row.reportingMonth) ts).map fun k =>
          ((groupBy (·.row.reportingMonth) ts k).map amount).sum).sum :=
        ((map_some_reportingMonths hdated).map _).sum_eq
    _ = (ts.map amount).sum := sum_groupBy _ amount ts
    _ = countedAmount env ts := by rw [countedAmount, sum_filter_eq]

/-- **The matrices of a segment** hold the amounts of its transitions between known stages, each
once, and the surplus of the texts among them. -/
lemma segmentMass_eq (hdated : ∀ t ∈ ts, t.row.reportingMonth ≠ none)
    (hchecked : ∀ month ∈ reportingMonths ts,
      checkMonth env (ts.filter (·.row.reportingMonth = some month)) = .ok ()) :
    segmentMass env ts = segmentSurplus env ts + countedAmount env ts := by
  have hmonth : ∀ month ∈ reportingMonths ts,
      ∑ i, ∑ j, nextStageMatrix env (ts.filter (·.row.reportingMonth = some month)) i j
        = (∑ i : LoanStage, ∑ j, textSurplus env (pivotGroup
            (ts.filter (·.row.reportingMonth = some month)) (.str i.text) (.str (nextStageText j))))
          + countedAmount env (ts.filter (·.row.reportingMonth = some month)) := by
    intro month hmonth
    simp only [nextStageMatrix_eq (hchecked month hmonth), Finset.sum_add_distrib, sum_pivotGroup]
  rw [segmentMass, List.map_congr_left hmonth, List.sum_map_add, sum_countedAmount hdated,
    segmentSurplus]

@[simp] lemma lostAmount_nil : lostAmount env [] = 0 := rfl

/-- Where the amounts are numbers there is no surplus. -/
lemma segmentSurplus_of_numbers (h : NumbersOnly (ts.map (·.row.loanAmount))) :
    segmentSurplus env ts = 0 := by
  have hgroup : ∀ month, ∀ i : LoanStage, ∀ j, textSurplus env (pivotGroup
      (ts.filter (·.row.reportingMonth = some month)) (.str i.text) (.str (nextStageText j))) = 0 := by
    intro month i j
    refine textSurplus_of_numbers (h.mono (List.map_subset _ ?_))
    exact fun t ht => List.mem_of_mem_filter (List.mem_of_mem_filter ht)
  simp [segmentSurplus, hgroup]

@[simp] lemma segmentSurplus_nil : segmentSurplus env [] = 0 :=
  segmentSurplus_of_numbers fun _ hc => by cases hc

/-- What is staged is counted or lost. -/
lemma countedAmount_add_lostAmount (ts : List PdTransition) :
    countedAmount env ts + lostAmount env ts
      = ((ts.filter fun t => isStage t.row.staging).map fun t => t.row.amount env).sum := by
  rw [countedAmount, lostAmount, sum_filter_eq, sum_filter_eq, sum_filter_eq, ← List.sum_map_add]
  refine congrArg List.sum (List.map_congr_left fun t _ => ?_)
  rw [PdTransition.counted]
  cases isStage t.row.staging <;> cases isNextStage t.nextStaging <;> simp

/-- Amounts that are not negative are lost to nothing exactly where each of them that is lost is
nothing. -/
lemma lostAmount_eq_zero_iff (hnonneg : ∀ t ∈ ts, 0 ≤ t.row.amount env) :
    lostAmount env ts = 0 ↔ ∀ t ∈ ts, isStage t.row.staging = true → t.row.amount env ≠ 0 →
      isNextStage t.nextStaging = true := by
  have hterms : ∀ x ∈ (ts.filter fun t => isStage t.row.staging && !isNextStage t.nextStaging).map
      fun t => t.row.amount env, 0 ≤ x := by
    intro x hx
    obtain ⟨t, ht, rfl⟩ := List.mem_map.mp hx
    exact hnonneg t (List.mem_of_mem_filter ht)
  constructor
  · intro hzero t ht hstage hamount
    by_contra hlost
    have hmem : t ∈ ts.filter fun t => isStage t.row.staging && !isNextStage t.nextStaging := by
      refine List.mem_filter.mpr ⟨ht, ?_⟩
      rw [hstage, Bool.eq_false_of_not_eq_true hlost]
      rfl
    exact hamount (List.all_zero_of_le_zero_le_of_sum_eq_zero hterms hzero (List.mem_map_of_mem hmem))
  · intro hmoves
    refine List.sum_eq_zero fun x hx => ?_
    obtain ⟨t, ht, rfl⟩ := List.mem_map.mp hx
    obtain ⟨hmem, hlost⟩ := List.mem_filter.mp ht
    rw [Bool.and_eq_true, Bool.not_eq_true'] at hlost
    by_contra hamount
    rw [hmoves t hmem hlost.1 hamount] at hlost
    cases hlost.2

end

/-! ### The exact condition -/

section

variable {env : PyEnv} {df : Frame} {rows : List PdRow} {segment : Cell}

/-- The staging that a row moves to counts, unless it is one that the engine does not know. -/
lemma isNextStage_fillOffbooks {working : List PdRow} {a : PdRow} :
    isNextStage (fillOffbooks (nextRow? working a)) = true ↔
      ∀ b, nextRow? working a = some b → b.staging = .blank ∨ isNextStage b.staging = true := by
  cases nextRow? working a with
  | none => simp [fillOffbooks, isNextStage]
  | some b =>
      by_cases hblank : b.staging = .blank
      · simp [fillOffbooks, hblank, isNextStage]
      · simp [fillOffbooks, hblank]

/-- The staged amounts of a segment, row by row. -/
lemma stagedAmount_eq (rows : List PdRow) (segment : Cell) :
    (((movesOf rows).filter (·.row.segment = segment)).filter fun t => isStage t.row.staging).map
        (fun t => t.row.amount env)
      = ((dedupeRows rows).filter fun r => r.segment = segment ∧ isStage r.staging).map
        fun r => r.amount env := by
  rw [movesOf, List.filter_map, List.filter_map, List.map_map, List.filter_filter]
  refine congrArg (List.map _) (List.filter_congr fun a _ => ?_)
  simp [Function.comp, Bool.and_comm]

/-- The rows of an accepted sheet that the engine computes. -/
structure PdRowsSound (env : PyEnv) (rows : List PdRow) : Prop where
  amounts : ∀ a ∈ rows, 0 ≤ a.amount env
  segments : ∀ a ∈ rows, a.segment ≠ .blank
  dated : ∀ a ∈ dedupeRows rows, a.reportingMonth ≠ none
  checked : ∀ subset ∈ monthsOf env (nextStaging rows), checkMonth env subset = .ok ()

/-- Every segment with rows is one of the output. -/
lemma PdRowsSound.mem_segmentsOf (h : PdRowsSound env rows) {a : PdRow} (ha : a ∈ dedupeRows rows) :
    a.segment ∈ segmentsOf env (nextStaging rows) := by
  obtain ⟨next, hnext⟩ := exists_mem_leftJoin isNextOf (dedupeRows rows) ha
  rw [segmentsOf, mem_sortByKey, mem_dropDuplicates_id, List.mem_filter]
  refine ⟨List.mem_map.mpr ⟨⟨a, fillOffbooks next⟩, List.mem_map.mpr ⟨_, hnext, rfl⟩, rfl⟩, ?_⟩
  simpa [Cell.isNa] using h.segments a (mem_of_mem_dedupeRows ha)

/-- Where no row has two candidates, the mass of a segment is conserved exactly where its texts
make up for what is lost. -/
lemma PdRowsSound.segmentMass_eq_iff (h : PdRowsSound env rows)
    (hsingle : ∀ a ∈ dedupeRows rows, ((dedupeRows rows).filter (isNextOf a)).length ≤ 1)
    (hsegment : segment ∈ segmentsOf env (nextStaging rows)) :
    segmentMass env ((nextStaging rows).filter (·.row.segment = segment))
        = stagedAmount env (dedupeRows rows) segment ↔
      segmentSurplus env ((movesOf rows).filter (·.row.segment = segment))
        = lostAmount env ((movesOf rows).filter (·.row.segment = segment)) := by
  have hmoves : nextStaging rows = movesOf rows := nextStaging_eq_map hsingle
  have hdated : ∀ t ∈ (nextStaging rows).filter (·.row.segment = segment),
      t.row.reportingMonth ≠ none := by
    intro t ht
    have hmem := List.mem_of_mem_filter ht
    rw [hmoves] at hmem
    obtain ⟨a, ha, rfl⟩ := List.mem_map.mp hmem
    exact h.dated a ha
  rw [segmentMass_eq hdated fun month hmonth => h.checked _ (List.mem_flatMap.mpr
      ⟨segment, hsegment, List.mem_map.mpr ⟨month, hmonth, rfl⟩⟩), hmoves, stagedAmount,
    ← stagedAmount_eq, ← countedAmount_add_lostAmount,
    add_comm (countedAmount env _)]
  exact add_left_inj _

/-- The candidate of a row with one at most. -/
lemma nextRow?_eq_some_iff {working : List PdRow} {a b : PdRow}
    (hsingle : (working.filter (isNextOf a)).length ≤ 1) :
    nextRow? working a = some b ↔ b ∈ working ∧ isNextOf a b = true := by
  rw [← List.mem_filter, nextRow?]
  generalize working.filter (isNextOf a) = next at hsingle ⊢
  rcases next with _ | ⟨c, _ | ⟨d, rest⟩⟩
  · simp
  · simp [eq_comm]
  · simp at hsingle

/-- A segment without rows has no moves. -/
lemma PdRowsSound.filter_movesOf (h : PdRowsSound env rows)
    (hsegment : segment ∉ segmentsOf env (nextStaging rows)) :
    (movesOf rows).filter (·.row.segment = segment) = [] := by
  rw [List.filter_eq_nil_iff]
  intro t ht hsame
  obtain ⟨a, ha, rfl⟩ := List.mem_map.mp ht
  exact hsegment (of_decide_eq_true hsame ▸ h.mem_segmentsOf ha)

/-- Mass is conserved exactly where it balances. -/
lemma PdRowsSound.massConserved_iff_balances (h : PdRowsSound env rows) :
    MassConserved env rows ↔ MassBalances env rows := by
  constructor
  · rintro ⟨hlength, hsegments⟩
    have hsingle : ∀ a ∈ dedupeRows rows, ((dedupeRows rows).filter (isNextOf a)).length ≤ 1 := by
      rw [← length_leftJoin_eq_iff, ← hlength, nextStaging, List.length_map]
    refine ⟨hsingle, fun segment => ?_⟩
    by_cases hsegment : segment ∈ segmentsOf env (nextStaging rows)
    · exact (h.segmentMass_eq_iff hsingle hsegment).mp (hsegments segment hsegment)
    · rw [h.filter_movesOf hsegment, lostAmount_nil, segmentSurplus_nil]
  · rintro ⟨hsingle, hbalanced⟩
    refine ⟨?_, fun segment hsegment =>
      (h.segmentMass_eq_iff hsingle hsegment).mpr (hbalanced segment)⟩
    rw [nextStaging, List.length_map]
    exact (length_leftJoin_eq_iff isNextOf).mpr hsingle

/-- Numbers balance exactly where nothing is lost. -/
lemma PdRowsSound.massBalances_iff (h : PdRowsSound env rows)
    (hnumbers : NumbersOnly (rows.map (·.loanAmount))) :
    MassBalances env rows ↔ CountsOnce env rows := by
  have hrow : ∀ {t}, t ∈ movesOf rows → t.row ∈ rows := by
    intro t ht
    obtain ⟨a, ha, rfl⟩ := List.mem_map.mp ht
    exact mem_of_mem_dedupeRows ha
  have hlost : ∀ segment, (segmentSurplus env ((movesOf rows).filter (·.row.segment = segment))
      = lostAmount env ((movesOf rows).filter (·.row.segment = segment)) ↔
        ∀ t ∈ (movesOf rows).filter (·.row.segment = segment), isStage t.row.staging = true →
          t.row.amount env ≠ 0 → isNextStage t.nextStaging = true) := by
    intro segment
    rw [segmentSurplus_of_numbers (hnumbers.mono fun c hc => ?_), eq_comm,
      lostAmount_eq_zero_iff fun t ht => h.amounts _ (hrow (List.mem_of_mem_filter ht))]
    obtain ⟨t, ht, rfl⟩ := List.mem_map.mp hc
    exact List.mem_map_of_mem (hrow (List.mem_of_mem_filter ht))
  constructor
  · rintro ⟨hsingle, hbalanced⟩
    refine ⟨hsingle, fun a ha b hb hnext hstage hamount => ?_⟩
    have hmoves := (hlost a.segment).mp (hbalanced a.segment)
      ⟨a, fillOffbooks (nextRow? (dedupeRows rows) a)⟩
      (List.mem_filter.mpr ⟨List.mem_map_of_mem ha, decide_eq_true rfl⟩) hstage hamount
    exact isNextStage_fillOffbooks.mp hmoves b
      ((nextRow?_eq_some_iff (hsingle a ha)).mpr ⟨hb, hnext⟩)
  · rintro ⟨hsingle, hstaged⟩
    refine ⟨hsingle, fun segment => (hlost segment).mpr fun t ht hstage hamount => ?_⟩
    obtain ⟨a, ha, rfl⟩ := List.mem_map.mp (List.mem_of_mem_filter ht)
    refine isNextStage_fillOffbooks.mpr fun b hb => ?_
    obtain ⟨hmem, hnext⟩ := (nextRow?_eq_some_iff (hsingle a ha)).mp hb
    exact hstaged a ha b hmem hnext hstage hamount

/-- The rows of a sheet that `validate_pd` accepts and `compute_pd` computes. -/
lemma pdRowsSound_of_isValid {sheetName : String} {allowedSegments : List String}
    {out : PdOutput} (hnum : ∀ q, env.toNumeric (.num q) = some q)
    (hvalid : (validatePd env df sheetName allowedSegments).isValid = true)
    (hread : readPdRows env df = .ok rows) (h : computePd env df = .ok out) :
    PdRowsSound env rows := by
  have hchecked := pdChecked_of_isValid hvalid
  obtain ⟨rows', hread', hcheck, -⟩ := readPdRows_of_computePd h
  obtain rfl := Except.ok.inj (hread.symm.trans hread')
  have hsegments : ∀ a ∈ rows, a.segment ≠ .blank := by
    intro a ha
    obtain ⟨record, hrecord, hsegment⟩ := segment_of_mem_readPdRows hread ha
    rw [hsegment]
    exact (hchecked.segment record hrecord).1
  obtain ⟨hdated, hmonths⟩ := checkPdRows_ok hcheck
  refine ⟨fun a ha => ?_, hsegments,
    fun a ha => hdated a ha (hsegments a (mem_of_mem_dedupeRows ha)), hmonths⟩
  have hcell : a.loanAmount ∈ df.column "Loan Amount" := by
    rw [← loanAmounts_eq hread]
    exact List.mem_map_of_mem ha
  obtain ⟨record, hrecord, hcell⟩ := List.mem_map.mp hcell
  obtain ⟨q, hq, hlow, -⟩ := hchecked.amount record hrecord
  have hpositive : 0 ≤ q := hlow 0 rfl
  rw [PdRow.amount, ← hcell]
  cases hamount : record.cell "Loan Amount" with
  | blank => exact le_rfl
  | num x =>
      rw [hamount, hnum] at hq
      exact Option.some.inj hq ▸ hpositive
  | str s =>
      rw [hamount] at hq
      change 0 ≤ (env.toNumeric (.str s)).getD 0
      rwa [hq]
  | date t =>
      rw [hamount] at hq
      change 0 ≤ (env.toNumeric (.date t)).getD 0
      rwa [hq]

/-- **Conservation of transition mass**: in an accepted sheet the merge keeps the rows and the
matrices count all staged amounts exactly where the mass balances, and where the amounts are
numbers exactly where every row counts once. -/
theorem massConserved_iff {sheetName : String} {allowedSegments : List String} {out : PdOutput}
    (hnum : ∀ q, env.toNumeric (.num q) = some q)
    (hvalid : (validatePd env df sheetName allowedSegments).isValid = true)
    (hread : readPdRows env df = .ok rows) (h : computePd env df = .ok out) :
    (MassConserved env rows ↔ MassBalances env rows) ∧
      (NumbersOnly (df.column "Loan Amount") → (MassConserved env rows ↔ CountsOnce env rows)) := by
  have hsound := pdRowsSound_of_isValid hnum hvalid hread h
  refine ⟨hsound.massConserved_iff_balances, fun hnumbers => ?_⟩
  rw [← loanAmounts_eq hread] at hnumbers
  exact hsound.massConserved_iff_balances.trans (hsound.massBalances_iff hnumbers)

/-- The sheet with two loans. -/
theorem massConserved_iff_sample :
    MassConserved plainEnv samplePdRows ↔ CountsOnce plainEnv samplePdRows :=
  (@massConserved_iff plainEnv samplePdFrame samplePdRows "Data" [] _ (fun _ => rfl) (by decide)
    readPdRows_sample computePd_sample).2 samplePdFrame_numbers

/-! ### A loan reported twice in a month -/

/-- The 28th of February 2023, and two days of March. -/
def lateFebruary : Timestamp := ⟨24277, 28, 0, by decide, by decide⟩

def lateMarch : Timestamp := ⟨24278, 28, 0, by decide, by decide⟩

def endOfMarch : Timestamp := ⟨24278, 31, 0, one_le_thirtyOne, by decide⟩

/-- A loan reported on the three days. -/
def thriceFrame : Frame where
  columns := ["Loan ID", "Reporting Month", "Staging", "SEGMENT", "Loan Amount"]
  rows := [monthEndRecord 0 "L" lateFebruary .stage1 1, monthEndRecord 1 "L" lateMarch .stage1 1,
    monthEndRecord 2 "L" endOfMarch .stage2 1]

def thriceRows : List PdRow :=
  [monthEndRow "L" lateFebruary .stage1 1, monthEndRow "L" lateMarch .stage1 1,
    monthEndRow "L" endOfMarch .stage2 1]

/-- Both days of March, a month earlier, are the end of February: the sheet is accepted and
computed, and its first row counts twice. -/
theorem massConserved_fails :
    (validatePd plainEnv thriceFrame "Data" []).isValid = true ∧
      readPdRows plainEnv thriceFrame = .ok thriceRows ∧
      (∃ out, computePd plainEnv thriceFrame = .ok out) ∧ ¬ MassConserved plainEnv thriceRows := by
  have hread : readPdRows plainEnv thriceFrame = .ok thriceRows := rfl
  have hcheck : checkPdRows plainEnv thriceRows = .ok () := by
    refine checkPdRows_eq_ok (by decide) (by decide) ?_ ?_
    · intro r hr
      simp only [thriceRows, List.mem_cons, List.not_mem_nil, or_false] at hr
      rcases hr with rfl | rfl | rfl <;> simp [monthEndRow]
    · intro c hc
      simp only [thriceRows, List.map_cons, List.map_nil, List.mem_cons, List.not_mem_nil,
        or_false] at hc
      rcases hc with rfl | rfl | rfl <;> exact Or.inr ⟨_, rfl⟩
  have hdedupe : dedupeRows thriceRows = thriceRows := by
    rw [dedupeRows, dropDuplicates_of_nodup _ (by decide)]
    exact sortByKey_of_sorted _ (by decide)
  refine ⟨by decide, hread, ⟨_, computePd_eq_ok hread hcheck⟩, fun hmass => ?_⟩
  have hlength := hmass.1
  rw [nextStaging, List.length_map, hdedupe] at hlength
  exact absurd hlength (by decide)

end

end EclServer.Engine
