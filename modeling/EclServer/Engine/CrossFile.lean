import EclServer.Engine.Validators

/-!
The cross-file validator, `app/engine/validators/cross_file_validator.py`.

* `loanIds`, `segmentTexts`, `eirByLoan`: what it reads of each combined sheet.
* `validateCrossFiles`: two blocking checks and two warnings.
* `title_of_mem_validateCrossFiles`: every issue names the EAD file in its title.
* `noBlock_validateCrossFiles_iff`: what it means that none of them blocks.
-/

namespace EclServer.Engine

open EclServer.Library

/-- `_EIR_TOLERANCE`. -/
def eirTolerance : ℚ := 1 / 10 ^ 6

/-- `CrossFileData`, as far as the checks read it. -/
structure CrossFileData where
  pdCombined : Frame
  lgdCombined : Frame
  eadCombined : Frame

section

variable (env : PyEnv)

/-- The texts of a column, stripped, without blanks and empty texts. -/
def columnTexts (df : Frame) (column : String) : List String :=
  if df.isEmpty ∨ column ∉ df.columns then []
  else
    dropDuplicates id ((((df.column column).filter fun c => !c.isNa).map
      fun c => pyStrip (c.pyStr env)).filter fun text => text ≠ "")

/-- `_loan_ids`. -/
def loanIds (df : Frame) : List String := columnTexts env df "Loan ID"

/-- `_segments_with_pd` and `_ead_segments`. -/
def segmentTexts (df : Frame) : List String := columnTexts env df "SEGMENT"

/-- `_eir_by_loan`: the pairs in the order of the rows; `lookupLast` reads them as the
mapping. -/
def eirByLoan (df : Frame) : List (String × Option ℚ) :=
  match df.resolveColumn? lgdEirAliases with
  | none => []
  | some col =>
      if "Loan ID" ∉ df.columns then []
      else
        df.rows.filterMap fun r =>
          let loanId := pyStrip ((r.cell "Loan ID").pyStr env)
          if loanId = "" then none
          else
            match (r.cell col).toFloat env with
            | .ok x => some (loanId, x)
            | .error _ => none

/-- A mapping that was filled in order: the last value of a key counts. -/
def lookupLast (pairs : List (String × Option ℚ)) (key : String) : Option (Option ℚ) :=
  (pairs.reverse.find? fun p => p.1 = key).map (·.2)

/-- `sorted(a - b)`. -/
def sortedDifference (a b : List String) : List String :=
  sortByKey id (a.filter fun x => x ∉ b)

/-- The first five names, and how many more there are. -/
def sampleOf (names : List String) : String :=
  String.intercalate ", " (names.take 5)
    ++ (if 5 < names.length then " (and " ++ toString (names.length - 5) ++ " more)" else "")

/-- Whether two rates of one loan differ; NaN differs from nothing. -/
def ratesDiffer (lgd ead : Option ℚ) : Bool :=
  match lgd, ead with
  | some lgd, some ead => eirTolerance < |lgd - ead|
  | _, _ => false

/-- The loans whose rates differ. -/
def mismatchedLoans (data : CrossFileData) : List String :=
  let lgdEir := eirByLoan env data.lgdCombined
  let eadEir := eirByLoan env data.eadCombined
  (sortByKey id ((loanIds env data.eadCombined).filter
    fun loanId => loanId ∈ loanIds env data.lgdCombined)).filter fun loanId =>
      match lookupLast lgdEir loanId, lookupLast eadEir loanId with
      | some lgd, some ead => ratesDiffer lgd ead
      | _, _ => false

def missingFromLgdIssue (missing : List String) : ValidationIssue where
  level := .block
  title := toString missing.length ++ " EAD loan(s) missing from LGD file (EC-06)"
  location := "Cross-file check"
  fix := "Every Loan ID in your EAD file must also appear in the LGD file. Missing examples: "
    ++ sampleOf missing ++ "."

def missingFromPdIssue (missing : List String) : ValidationIssue where
  level := .warn
  title := toString missing.length ++ " EAD loan(s) have no PD history"
  location := "Cross-file check"
  fix := "These loans appear in EAD but not in PD: " ++ sampleOf missing
    ++ ". Add PD rows for them or remove them from EAD."

def missingSegmentsIssue (missing : List String) : ValidationIssue where
  level := .block
  title := "No PD history for segment(s): " ++ String.intercalate ", " missing ++ " (EC-08)"
  location := "Cross-file check"
  fix := "Every segment in your EAD file must have corresponding PD data. Add these segments "
    ++ "to your PD file and re-upload."

def eirMismatchIssue (mismatched : List String) : ValidationIssue where
  level := .warn
  title := "EIR mismatch between LGD and EAD for " ++ toString mismatched.length ++ " loan(s)"
  location := "Cross-file check"
  fix := "Effective Interest Rate should match between LGD and EAD for the same Loan ID. "
    ++ "Affected examples: " ++ sampleOf mismatched
    ++ ". LGD values take precedence at compute time."

/-- An issue about some names, where there are any. -/
def issueAbout (names : List String) (issue : List String → ValidationIssue) :
    List ValidationIssue :=
  if names.isEmpty then [] else [issue names]

/-- `validate_cross_files`: at most four issues, so the cap of a result plays no part. -/
def validateCrossFiles (data : CrossFileData) : List ValidationIssue :=
  let eadLoans := loanIds env data.eadCombined
  issueAbout (sortedDifference eadLoans (loanIds env data.lgdCombined)) missingFromLgdIssue
    ++ issueAbout (sortedDifference eadLoans (loanIds env data.pdCombined)) missingFromPdIssue
    ++ issueAbout (sortedDifference (segmentTexts env data.eadCombined)
      (segmentTexts env data.pdCombined)) missingSegmentsIssue
    ++ issueAbout (mismatchedLoans env data) eirMismatchIssue

end

/-- `part in text`. -/
def isSubstring (part text : String) : Bool := decide (part.toList <:+: text.toList)

lemma isSubstring_append_left {part a b : String} (h : isSubstring part b = true) :
    isSubstring part (a ++ b) = true := by
  rw [isSubstring, decide_eq_true_iff, String.toList_append]
  exact (of_decide_eq_true h).trans (List.suffix_append _ _).isInfix

lemma isSubstring_append_right {part a b : String} (h : isSubstring part a = true) :
    isSubstring part (a ++ b) = true := by
  rw [isSubstring, decide_eq_true_iff, String.toList_append]
  exact (of_decide_eq_true h).trans (List.prefix_append _ _).isInfix

/-- Every cross-file issue names the EAD file or EC-08 in its title. -/
lemma title_of_mem_validateCrossFiles {env : PyEnv} {data : CrossFileData}
    {issue : ValidationIssue} (h : issue ∈ validateCrossFiles env data) :
    isSubstring "EAD" issue.title = true ∨ isSubstring "EC-08" issue.title = true := by
  have habout : ∀ {names : List String} {f : List String → ValidationIssue},
      issue ∈ issueAbout names f → issue = f names := by
    intro names f hmem
    rw [issueAbout] at hmem
    split at hmem
    · simp at hmem
    · exact List.mem_singleton.mp hmem
  simp only [validateCrossFiles, List.mem_append] at h
  rcases h with ((h | h) | h) | h
  · rw [habout h]
    exact Or.inl (isSubstring_append_left (by decide))
  · rw [habout h]
    exact Or.inl (isSubstring_append_left (by decide))
  · rw [habout h]
    exact Or.inr (isSubstring_append_left (by decide))
  · rw [habout h]
    exact Or.inl (isSubstring_append_right (isSubstring_append_right (by decide)))

/-- Only the issues about Loan IDs missing from LGD and about segments block. -/
lemma noBlock_validateCrossFiles_iff {env : PyEnv} {data : CrossFileData} :
    (∀ issue ∈ validateCrossFiles env data, issue.level ≠ .block)
      ↔ (∀ loanId ∈ loanIds env data.eadCombined, loanId ∈ loanIds env data.lgdCombined) ∧
        ∀ segment ∈ segmentTexts env data.eadCombined,
          segment ∈ segmentTexts env data.pdCombined := by
  have hnone : ∀ a b : List String, (sortedDifference a b = [] ↔ ∀ x ∈ a, x ∈ b) := by
    intro a b
    rw [List.eq_nil_iff_forall_not_mem]
    simp only [sortedDifference, mem_sortByKey, List.mem_filter, decide_eq_true_eq, not_and,
      not_not]
  have hblock : ∀ (names : List String) (f : List String → ValidationIssue),
      (f names).level = .block →
        ((∀ issue ∈ issueAbout names f, issue.level ≠ .block) ↔ names = []) := by
    intro names f hlevel
    rw [issueAbout]
    cases names with
    | nil => simp
    | cons name names => simp [hlevel]
  have hwarn : ∀ (names : List String) (f : List String → ValidationIssue),
      (f names).level = .warn → ∀ issue ∈ issueAbout names f, issue.level ≠ .block := by
    intro names f hlevel issue hmem
    rw [issueAbout] at hmem
    split at hmem
    · cases hmem
    · rw [List.mem_singleton.mp hmem, hlevel]
      decide
  simp only [validateCrossFiles, List.forall_mem_append]
  rw [hblock _ missingFromLgdIssue rfl, hblock _ missingSegmentsIssue rfl, hnone, hnone]
  constructor
  · rintro ⟨⟨⟨hloans, _⟩, hsegments⟩, _⟩
    exact ⟨hloans, hsegments⟩
  · rintro ⟨hloans, hsegments⟩
    exact ⟨⟨⟨hloans, hwarn _ missingFromPdIssue rfl⟩, hsegments⟩, hwarn _ eirMismatchIssue rfl⟩

end EclServer.Engine
