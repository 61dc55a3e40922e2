import EclServer.Engine.IssueCap

/-!
The columns `validate_lgd` reports as unknown collateral.

* `issues_foldl_addBlock`: a loop with room for its issues adds them all.
* `title_of_mem_checkRows`, `title_of_mem_checkUniqueness`: a check adds issues of one title;
  `addsBlocks_of_collateral`: so does each collateral check that raises nothing.
* `reportsColumn_iff`: a column is reported exactly where the sheet has an EIR column and
  the column is one of the first unknown ones, as many as there is room for.
-/

namespace EclServer.Engine

open EclServer.Library

/-! ### What a loop adds -/

/-- A loop with room for its issues adds one for each turn. -/
lemma issues_foldl_addBlock {α : Type} {title location fix : α → String}
    {category : Option String} (xs : List α) (a : ValidationResult)
    (hroom : xs.length ≤ a.remainingCapacity) :
    (xs.foldl (fun a x => a.addBlock (title x) (location x) (fix x) category) a).issues
      = a.issues ++ xs.map fun x =>
          ⟨.block, title x, location x, fix x, category⟩ := by
  induction xs generalizing a with
  | nil => simp
  | cons x xs ih =>
      rw [List.length_cons, ValidationResult.remainingCapacity] at hroom
      have hadd : (a.addBlock (title x) (location x) (fix x) category).issues
          = a.issues ++ [⟨.block, title x, location x, fix x, category⟩] := by
        rw [ValidationResult.addBlock, ValidationResult.add, dif_neg (by omega)]
      have hleft : xs.length
          ≤ (a.addBlock (title x) (location x) (fix x) category).remainingCapacity := by
        rw [ValidationResult.remainingCapacity, hadd, List.length_append, List.length_singleton]
        omega
      rw [List.foldl_cons, ih _ hleft, hadd, List.map_cons, List.append_assoc]
      rfl

variable {df : Frame} {sheetName title : String} {a : ValidationResult} {issue : ValidationIssue}

lemma title_of_mem_addBlocks {α : Type} {rows : List α} {location fix : α → String}
    (h : issue ∈ (a.addBlocks rows title location fix).issues) :
    issue ∈ a.issues ∨ issue.title = title := by
  have hroom : (rows.take a.remainingCapacity).length ≤ a.remainingCapacity :=
    List.length_take_le _ _
  rw [ValidationResult.addBlocks, issues_foldl_addBlock _ _ hroom, List.mem_append] at h
  rcases h with h | h
  · exact Or.inl h
  · obtain ⟨row, _, rfl⟩ := List.mem_map.mp h
    exact Or.inr rfl

lemma title_of_mem_checkRows {column : String} {invalid : Record → Bool} {fix : Cell → String}
    (h : issue ∈ (checkRows df column sheetName title a invalid fix).issues) :
    issue ∈ a.issues ∨ issue.title = title := by
  rw [checkRows] at h
  split at h
  · exact Or.inl h
  · exact title_of_mem_addBlocks h

lemma title_of_mem_checkUniqueness {env : PyEnv} {columns : List String} {fix : String → String}
    (h : issue ∈ (checkUniqueness env df sheetName title a columns fix).issues) :
    issue ∈ a.issues ∨ issue.title = title := by
  rw [checkUniqueness] at h
  split at h
  · exact Or.inl h
  · exact title_of_mem_addBlocks h

/-- The issues there were stay. -/
lemma AddsBlocks.subset {b : ValidationResult} (h : AddsBlocks a b) (hissue : issue ∈ a.issues) :
    issue ∈ b.issues := by
  obtain ⟨new, hb, -⟩ := h
  rw [hb]
  exact List.mem_append_left _ hissue

lemma title_of_mem_addBlock {location fix : String} {category : Option String}
    (h : issue ∈ (a.addBlock title location fix category).issues) :
    issue ∈ a.issues ∨ issue.title = title := by
  rw [ValidationResult.addBlock, ValidationResult.add] at h
  split at h
  · exact Or.inl h
  · rcases List.mem_append.mp h with hold | hnew
    · exact Or.inl hold
    · rw [List.mem_singleton.mp hnew]
      exact Or.inr rfl

section

variable {env : PyEnv} {format : String → Cell → Except String String} {b : ValidationResult}

/-- A loop whose texts were all filled adds blocks of its title. -/
lemma addsBlocks_of_foldlM {rows : List Record} {text : Record → Except String String}
    {location : Record → String}
    (h : rows.foldlM (fun result r => do
        let fix ← text r
        return ValidationResult.addBlock result title (location r) fix none) a = .ok b) :
    AddsBlocks a b ∧ ∀ issue ∈ b.issues, issue ∈ a.issues ∨ issue.title = title := by
  induction rows generalizing a with
  | nil =>
      obtain rfl : a = b := Except.ok.inj h
      exact ⟨AddsBlocks.refl a, fun issue hissue => Or.inl hissue⟩
  | cons r rows ih =>
      rw [List.foldlM_cons] at h
      obtain ⟨c, hstep, hloop⟩ := bind_eq_ok.mp h
      obtain ⟨fix, -, hadd⟩ := bind_eq_ok.mp hstep
      obtain rfl := Except.ok.inj hadd
      obtain ⟨hadds, htitle⟩ := ih hloop
      refine ⟨(AddsBlocks.addBlock a title _ _ _).trans hadds, fun issue hissue => ?_⟩
      rcases htitle issue hissue with hold | hnew
      · exact title_of_mem_addBlock hold
      · exact Or.inr hnew

lemma addsBlocks_of_tryCheckCollateral {column : String}
    (h : tryCheckCollateral env df sheetName format a column = .ok b) :
    AddsBlocks a b ∧
      ∀ issue ∈ b.issues, issue ∈ a.issues ∨ issue.title = column ++ " must be non-negative" := by
  rw [tryCheckCollateral] at h
  split at h
  · obtain rfl := Except.ok.inj h
    exact ⟨AddsBlocks.refl a, fun issue hissue => Or.inl hissue⟩
  · exact addsBlocks_of_foldlM h

/-- The loop over the collateral columns adds issues about amounts. -/
lemma addsBlocks_of_collateral {columns : List String}
    (h : columns.foldlM (tryCheckCollateral env df sheetName format) a = .ok b) :
    AddsBlocks a b ∧ ∀ issue ∈ b.issues,
      issue ∈ a.issues ∨ ∃ column, issue.title = column ++ " must be non-negative" := by
  induction columns generalizing a with
  | nil =>
      obtain rfl : a = b := Except.ok.inj h
      exact ⟨AddsBlocks.refl a, fun issue hissue => Or.inl hissue⟩
  | cons column columns ih =>
      rw [List.foldlM_cons] at h
      obtain ⟨c, hcheck, hloop⟩ := bind_eq_ok.mp h
      obtain ⟨hstep, htitle⟩ := addsBlocks_of_tryCheckCollateral hcheck
      obtain ⟨hadds, hlater⟩ := ih hloop
      refine ⟨hstep.trans hadds, fun issue hissue => ?_⟩
      rcases hlater issue hissue with hold | hnew
      · exact (htitle issue hold).imp_right fun hnew => ⟨column, hnew⟩
      · exact Or.inr hnew

end

/-! ### The title -/

/-- The title of EC-02. -/
def unknownCollateralTitle (column : String) : String :=
  "Unknown collateral column: " ++ column ++ " (EC-02)"

lemma toList_append_append (a b c : String) :
    (a ++ b ++ c).toList = a.toList ++ b.toList ++ c.toList := by
  rw [String.toList_append, String.toList_append]

lemma toList_unknownCollateralTitle (column : String) :
    (unknownCollateralTitle column).toList
      = "Unknown collateral column: ".toList ++ column.toList ++ " (EC-02)".toList :=
  toList_append_append _ _ _

lemma unknownCollateralTitle_inj {c d : String}
    (h : unknownCollateralTitle c = unknownCollateralTitle d) : c = d := by
  unfold unknownCollateralTitle at h
  rw [String.append_left_inj, String.append_right_inj] at h
  exact h

/-- The title starts with a capital U. -/
lemma head?_unknownCollateralTitle (column : String) :
    (unknownCollateralTitle column).toList.head? = some 'U' := by
  have hne : "Unknown collateral column: ".toList ≠ [] := by decide
  rw [toList_unknownCollateralTitle, List.append_assoc, List.head?_append_of_ne_nil _ hne]
  decide

/-- The title ends with a bracket. -/
lemma getLast?_unknownCollateralTitle (column : String) :
    (unknownCollateralTitle column).toList.getLast? = some ')' := by
  have hne : " (EC-02)".toList ≠ [] := by decide
  rw [toList_unknownCollateralTitle, List.getLast?_append_of_ne_nil _ hne]
  decide

/-- The titles of the other checks of `validate_lgd`. -/
lemma unknownCollateralTitle_notMem (column : String) :
    unknownCollateralTitle column ∉ ["Customer ID is empty", "Loan ID is empty",
      "Duplicate Loan ID", "Outstanding Amount must be non-negative",
      "EIR must be between 0 and 1 (EC-05)"] := by
  intro h
  have hheads : ∀ title ∈ ["Customer ID is empty", "Loan ID is empty", "Duplicate Loan ID",
      "Outstanding Amount must be non-negative", "EIR must be between 0 and 1 (EC-05)"],
      title.toList.head? ≠ some 'U' := by
    decide
  exact hheads _ h (head?_unknownCollateralTitle column)

lemma unknownCollateralTitle_ne (column other : String) :
    unknownCollateralTitle column ≠ other ++ " must be non-negative" := by
  intro h
  have hne : " must be non-negative".toList ≠ [] := by decide
  have hlast := getLast?_unknownCollateralTitle column
  rw [h, String.toList_append, List.getLast?_append_of_ne_nil _ hne] at hlast
  exact absurd hlast (by decide)

/-! ### The unknown columns of a sheet -/

section

variable (df)

/-- The columns of a sheet that hold collateral. -/
def collateralColumnsOf : List String := df.columns.filter fun column => column ∉ knownLgdColumns

/-- How many issues there is room for after the header of an LGD sheet with an EIR column. -/
def headerRoom : ℕ :=
  maxIssues - (["Customer ID", "Loan ID", "Outstanding Amount"].filter
    fun column => column ∉ df.columns).length

/-- The unknown columns that there is room for. -/
def unknownColumns (configured : List String) : List String :=
  ((collateralColumnsOf df).filter fun column => column ∉ configured).take (headerRoom df)

end

variable {env : PyEnv} {allowed : List String} {format : String → Cell → Except String String}

/-- The issues of the header are about missing columns. -/
lemma head?_of_mem_checkRequiredColumns {required : List String} {templateKind : String}
    (h : issue ∈ (checkRequiredColumns df sheetName {} required templateKind).1.issues) :
    issue.title.toList.head? = some 'M' := by
  have hne : "Missing required column: ".toList ≠ [] := by decide
  rw [checkRequiredColumns, issues_foldl_addBlock _ _ (List.length_take_le _ _)] at h
  obtain ⟨column, _, rfl⟩ := List.mem_map.mp h
  rw [String.toList_append, List.head?_append_of_ne_nil _ hne]
  decide

/-- The room after the header of a sheet with an EIR column. -/
lemma remainingCapacity_checkRequiredColumns {eirCol : String} (h : eirCol ∈ df.columns) :
    (checkRequiredColumns df sheetName {}
        (["Customer ID", "Loan ID", "Outstanding Amount"] ++ [eirCol]) "LGD").1.remainingCapacity
      = headerRoom df := by
  have hmissing : (["Customer ID", "Loan ID", "Outstanding Amount"] ++ [eirCol]).filter
        (fun column => column ∉ df.columns)
      = ["Customer ID", "Loan ID", "Outstanding Amount"].filter
        fun column => column ∉ df.columns := by
    rw [List.filter_append, List.filter_singleton]
    simp [h]
  have hlength : (["Customer ID", "Loan ID", "Outstanding Amount"].filter
      fun column => column ∉ df.columns).length ≤ ({} : ValidationResult).remainingCapacity :=
    (List.length_filter_le _ _).trans (by decide)
  rw [checkRequiredColumns, hmissing, ValidationResult.remainingCapacity,
    issues_foldl_addBlock _ _ (List.length_take_le _ _), List.nil_append, List.length_map,
    List.take_of_length_le hlength, headerRoom]

lemma headerRoom_pos : 0 < headerRoom df := by
  have hlength : (["Customer ID", "Loan ID", "Outstanding Amount"].filter
      fun column => column ∉ df.columns).length ≤ 3 := List.length_filter_le _ _
  rw [headerRoom, maxIssues]
  omega

/-- **Which columns are reported** by a validator that returns: those of a sheet with an EIR
column that are no configured collateral, as many as there is room for. -/
theorem reportsColumn_iff {column : String} {result : ValidationResult}
    (h : tryValidateLgd env df sheetName format allowed = .ok result) :
    (∃ issue ∈ result.issues, issue.title = unknownCollateralTitle column)
      ↔ df.resolveColumn? lgdEirAliases ≠ none ∧
        column ∈ unknownColumns df (allowed.map pyStrip) := by
  rw [tryValidateLgd] at h
  cases heir : df.resolveColumn? lgdEirAliases with
  | none =>
      refine iff_of_false ?_ fun h => h.1 rfl
      rintro ⟨issue, hissue, htitle⟩
      -- without a rate column nothing but the missing columns is reported
      have hheader : issue.title.toList.head? = some 'M' := by
        rw [heir] at h
        dsimp only at h
        split at h
        · obtain rfl := Except.ok.inj h
          exact head?_of_mem_checkRequiredColumns hissue
        · obtain rfl := Except.ok.inj h
          exact head?_of_mem_checkRequiredColumns hissue
      rw [htitle, head?_unknownCollateralTitle] at hheader
      cases hheader
  | some eirCol =>
      have hmem : eirCol ∈ df.columns := by simpa using List.find?_some heir
      have hroom := @remainingCapacity_checkRequiredColumns df sheetName eirCol hmem
      have htaken : (df.columns.filter fun column =>
            column ∉ knownLgdColumns ∧ column ∉ allowed.map pyStrip).take (headerRoom df)
          = unknownColumns df (allowed.map pyStrip) := by
        rw [unknownColumns, collateralColumnsOf, List.filter_filter]
        simp only [Bool.decide_and, Bool.and_comm]
      simp only [ne_eq, reduceCtorEq, not_false_eq_true, true_and]
      rw [heir] at h
      dsimp only [Option.getD_some] at h
      rw [if_neg (by rw [hroom]; exact headerRoom_pos.ne'), lgdChecksBefore, hroom, htaken] at h
      obtain ⟨hcollateral, htitles⟩ := addsBlocks_of_collateral h
      have hadded := @issues_foldl_addBlock String unknownCollateralTitle
        (fun column => sheetName ++ ", header row, column " ++ column)
        (fun _ => "Remove this column or add it to your tenant collateral type configuration.")
        none (unknownColumns df (allowed.map pyStrip))
        (checkRequiredColumns df sheetName {}
          (["Customer ID", "Loan ID", "Outstanding Amount"] ++ [eirCol]) "LGD").1
        (by rw [hroom]; exact List.length_take_le _ _)
      constructor
      · rintro ⟨issue, hissue, htitle⟩
        have hnot := unknownCollateralTitle_notMem column
        rw [← htitle] at hnot
        simp only [List.mem_cons, List.not_mem_nil, or_false, not_or] at hnot
        obtain ⟨hcustomer, hempty, hduplicate, houtstanding, heirTitle⟩ := hnot
        rcases htitles issue hissue with h | ⟨other, h⟩
        -- back through the checks, none of which has a title of this kind
        · have h := (title_of_mem_checkRows h).resolve_right heirTitle
          have h := (title_of_mem_checkRows h).resolve_right houtstanding
          have h := (title_of_mem_checkUniqueness h).resolve_right hduplicate
          have h := (title_of_mem_checkRows h).resolve_right hempty
          have h := (title_of_mem_checkRows h).resolve_right hcustomer
          rcases List.mem_append.mp (hadded ▸ h) with hheader | hunknown
          · have hhead := head?_of_mem_checkRequiredColumns hheader
            rw [htitle, head?_unknownCollateralTitle] at hhead
            cases hhead
          · obtain ⟨other, hother, rfl⟩ := List.mem_map.mp hunknown
            exact unknownCollateralTitle_inj htitle ▸ hother
        · exact absurd (htitle.symm.trans h) (unknownCollateralTitle_ne column other)
      · intro hcolumn
        refine ⟨_, AddsBlocks.subset ?_ (hadded ▸ List.mem_append_right _
          (List.mem_map_of_mem hcolumn)), rfl⟩
        refine AddsBlocks.trans ?_ hcollateral
        refine AddsBlocks.trans ?_ (AddsBlocks.rows df _ _ _ _ _)
        refine AddsBlocks.trans ?_ (AddsBlocks.rows df _ _ _ _ _)
        refine AddsBlocks.trans ?_ (AddsBlocks.uniqueness env df _ _ _ _)
        refine AddsBlocks.trans ?_ (AddsBlocks.rows df _ _ _ _ _)
        exact AddsBlocks.rows df _ _ _ _ _

end EclServer.Engine
