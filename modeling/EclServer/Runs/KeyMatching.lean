import EclServer.Engine.DefaultedLoss
import EclServer.Runs.CollateralRuns
import EclServer.Runs.LoanIdentity

/-!
The keys of accepted sheets, as the validators and as the stages compare them.

* `KeysMatched`: what the stages find: stages, segments with PD rows, loans with LGD rows.
* `KeysWritten`: the cells are written as the stages compare them, wherever the validators
  compare them stripped.
* `keysMatched_iff`: the first holds exactly where the second does.
-/

namespace EclServer.Runs

open EclServer.Library EclServer.Engine

variable {env : PyEnv}

/-! ### What the stages find -/

/-- **The keys are matched**: every Staging is one of the three texts, every segment of the EAD
sheet is in the PD table, and every EAD loan is in `lgd_results`, so that none is warned about. -/
structure KeysMatched (env : PyEnv) (pdDf eadDf : Frame) (pdOut : PdOutput)
    (lgd : List LgdResult) : Prop where
  pd_staging : ∀ r ∈ pdDf.rows, ∃ stage : LoanStage, r.cell "Staging" = .str stage.text
  ead_staging : ∀ r ∈ eadDf.rows, ∃ stage : LoanStage,
    r.cell (resolveColumn eadDf stagingAliases "Staging") = .str stage.text
  segment : ∀ r ∈ eadDf.rows, ∃ t ∈ pdOut.table, t.segment = r.cell "SEGMENT"
  loan : ∀ r ∈ eadDf.rows, ∃ s ∈ lgd, r.cell "Loan ID" = .str s.loanId
  no_warning : missingLgdWarnings env (joinLgd env eadDf (loadLgdFrame lgd)) = []

/-! ### How the keys are written -/

/-- A text without blanks around it. -/
def Unpadded (c : Cell) : Prop := ∃ s, c = .str s ∧ pyStrip s = s

/-- Two cells that the validators take for the same. -/
def SameStripped (env : PyEnv) (c d : Cell) : Prop :=
  pyStrip (c.pyStr env) = pyStrip (d.pyStr env)

/-- **The keys are written as they are compared**: Staging is there and unpadded; a segment is
there and, where it is one of the PD sheet but for blanks around it, it is the very cell of a
row that the removal of duplicates keeps; and where a Loan ID is one of the LGD sheet but for
blanks, it is the very text of one. -/
structure KeysWritten (env : PyEnv) (pdDf lgdDf eadDf : Frame) (pdRows : List PdRow) : Prop where
  pd_staging : ∀ r ∈ pdDf.rows, Unpadded (r.cell "Staging")
  ead_staging : ∀ r ∈ eadDf.rows, Unpadded (r.cell (resolveColumn eadDf stagingAliases "Staging"))
  segment : ∀ r ∈ eadDf.rows, NonEmptyText env (r.cell "SEGMENT") ∧
    ((∃ p ∈ pdDf.rows, SameStripped env (p.cell "SEGMENT") (r.cell "SEGMENT")) →
      SegmentKept pdRows (r.cell "SEGMENT"))
  loan : ∀ r ∈ eadDf.rows,
    (∃ l ∈ lgdDf.rows, SameStripped env (l.cell "Loan ID") (r.cell "Loan ID")) →
      ∃ l ∈ lgdDf.rows, r.cell "Loan ID" = .str ((l.cell "Loan ID").pyStr env)

/-! ### Stages -/

/-- A checked Staging is a stage text exactly where it is there and unpadded. -/
lemma unpadded_iff {c : Cell} (h : notAllowed env stagingValues c = false) :
    Unpadded c ↔ ∃ stage : LoanStage, c = .str stage.text := by
  constructor
  · rintro ⟨s, rfl, hstrip⟩
    have hmem : pyStrip s ∈ stagingValues := by
      by_contra hnot
      simp [notAllowed, Cell.isNa, Cell.pyStr, hnot] at h
    rw [hstrip] at hmem
    obtain ⟨stage, _, hstage⟩ := List.mem_map.mp hmem
    exact ⟨stage, by rw [hstage]⟩
  · rintro ⟨stage, rfl⟩
    refine ⟨stage.text, rfl, ?_⟩
    cases stage <;> decide

/-! ### What the cross-file check has seen -/

lemma mem_columnTexts {df : Frame} {column text : String} (h : text ∈ columnTexts env df column) :
    ∃ r ∈ df.rows, pyStrip ((r.cell column).pyStr env) = text := by
  rw [columnTexts] at h
  split at h
  · cases h
  · have hmem := List.mem_of_mem_filter (mem_of_mem_dropDuplicates id h)
    obtain ⟨c, hc, rfl⟩ := List.mem_map.mp hmem
    obtain ⟨r, hr, rfl⟩ := List.mem_map.mp (List.mem_of_mem_filter hc)
    exact ⟨r, hr, rfl⟩

/-- The text of a cell that is not empty is among the texts of its column. -/
lemma columnTexts_of_mem {df : Frame} {column : String} (hcolumn : column ∈ df.columns)
    {r : Record} (hr : r ∈ df.rows) (h : NonEmptyText env (r.cell column)) :
    pyStrip ((r.cell column).pyStr env) ∈ columnTexts env df column := by
  have hsome : ¬ (df.isEmpty = true ∨ column ∉ df.columns) := by
    rintro (hempty | habsent)
    · rw [Frame.isEmpty, Bool.or_eq_true] at hempty
      rcases hempty with hrows | hcolumns
      · rw [List.isEmpty_iff.mp hrows] at hr
        cases hr
      · rw [List.isEmpty_iff.mp hcolumns] at hcolumn
        cases hcolumn
    · exact habsent hcolumn
  rw [columnTexts, if_neg hsome]
  have hmem : pyStrip ((r.cell column).pyStr env)
      ∈ (((df.column column).filter fun c => !c.isNa).map
        fun c => pyStrip (c.pyStr env)).filter fun text => text ≠ "" := by
    refine List.mem_filter.mpr ⟨List.mem_map.mpr ⟨r.cell column, ?_, rfl⟩, decide_eq_true h.2⟩
    exact List.mem_filter.mpr ⟨List.mem_map_of_mem hr, by simpa [Cell.isNa] using h.1⟩
  obtain ⟨text, htext, hkey⟩ := exists_mem_dropDuplicates id hmem
  obtain rfl : text = _ := hkey
  exact htext

/-! ### Segments -/

section

variable {pdDf lgdDf eadDf : Frame} {pdRows : List PdRow} {pdOut : PdOutput}
  {lgd : List LgdResult} {config : List CollateralConfig} {segments : List String}

/-- The segments of the table are those that the removal of duplicates keeps. -/
lemma exists_mem_table_iff {segment : Cell} :
    (∃ t ∈ (pdOutput env pdRows).table, t.segment = segment) ↔ SegmentKept pdRows segment := by
  rw [← @mem_segmentsOf env]
  constructor
  · rintro ⟨t, ht, rfl⟩
    obtain ⟨segment, hsegment, st, n, _, rfl⟩ := mem_table.mp ht
    exact hsegment
  · intro hsegment
    exact ⟨_, mem_table.mpr ⟨segment, hsegment, .stage1, 1, mem_pdMonths.mpr (by decide), rfl⟩, rfl⟩

/-- A kept segment is a cell of an accepted PD sheet. -/
lemma exists_of_segmentKept (hpd : PdChecked env pdDf segments)
    (hread : readPdRows env pdDf = .ok pdRows) {segment : Cell} (h : SegmentKept pdRows segment) :
    NonEmptyText env segment ∧ ∃ p ∈ pdDf.rows, p.cell "SEGMENT" = segment := by
  obtain ⟨_, row, hrow, rfl⟩ := h
  obtain ⟨p, hp, hcell⟩ := segment_of_mem_readPdRows hread (mem_of_mem_dropDuplicates _ hrow)
  exact ⟨hcell ▸ hpd.segment p hp, p, hp, hcell.symm⟩

/-! ### Loans -/

/-- The loans of `lgd_results` are those of the LGD sheet, as texts. -/
lemma exists_lgdResult_iff (hlgd : lgdResultsOf env lgdDf config = .ok lgd) {c : Cell} :
    (∃ s ∈ lgd, c = .str s.loanId)
      ↔ ∃ l ∈ lgdDf.rows, c = .str ((l.cell "Loan ID").pyStr env) := by
  obtain ⟨out, hout, hrows⟩ := bind_eq_ok.mp hlgd
  have hloanIds := loanId_of_mapM_lgdRecord hrows
  have hperm := (perm_loanId_computeLgd hout).map (Cell.pyStr env)
  rw [List.map_map, List.map_map] at hperm
  constructor
  · rintro ⟨s, hs, rfl⟩
    have hmem : s.loanId ∈ lgd.map LgdResult.loanId := List.mem_map_of_mem hs
    rw [hloanIds] at hmem
    obtain ⟨l, hl, heq⟩ := List.mem_map.mp (hperm.mem_iff.mp hmem)
    exact ⟨l, hl, congrArg Cell.str heq.symm⟩
  · rintro ⟨l, hl, rfl⟩
    have hmem := hperm.mem_iff.mpr (List.mem_map_of_mem hl)
    have hmem' : (l.cell "Loan ID").pyStr env ∈ lgd.map LgdResult.loanId := hloanIds ▸ hmem
    obtain ⟨s, hs, heq⟩ := List.mem_map.mp hmem'
    exact ⟨s, hs, congrArg Cell.str heq.symm⟩

/-- A loan with a stored row is joined to one, and so none is warned about. -/
lemma missingLgdWarnings_eq_nil
    (h : ∀ r ∈ eadDf.rows, ∃ s ∈ lgd, r.cell "Loan ID" = .str s.loanId) :
    missingLgdWarnings env (joinLgd env eadDf (loadLgdFrame lgd)) = [] := by
  have hnone : ((joinLgd env eadDf (loadLgdFrame lgd)).filter fun p =>
      (p.2.elim Cell.blank LgdRow.sum).isNa) = [] := by
    rw [List.filter_eq_nil_iff]
    rintro ⟨row, l⟩ hmem
    obtain ⟨hrow, hl⟩ := (mem_leftJoin _).mp hmem
    obtain ⟨record, hrecord, rfl⟩ := List.mem_map.mp ((mem_sortByKey _).mp hrow)
    obtain ⟨s, hs, hloan⟩ := h record hrecord
    rcases hl with ⟨_, hunmatched⟩ | ⟨c, hc, _, rfl⟩
    · -- the first row of the loan would have matched
      have hstored : (⟨.str s.loanId, .num s.eir, .num s.sumDiscountedCollat⟩ : LgdRow)
          ∈ (loadLgdFrame lgd).rows.map (lgdRow (loadLgdFrame lgd)) := by
        rw [map_lgdRow_loadLgdFrame]
        exact List.mem_map_of_mem hs
      obtain ⟨first, hfirst, hkey⟩ := exists_mem_dropDuplicates LgdRow.loanId hstored
      have hnot := hunmatched first hfirst
      rw [hkey] at hnot
      exact absurd hloan (of_decide_eq_false hnot)
    · have hstored := mem_of_mem_dropDuplicates _ hc
      rw [map_lgdRow_loadLgdFrame] at hstored
      obtain ⟨s', _, rfl⟩ := List.mem_map.mp hstored
      simp [Cell.isNa]
  rw [missingLgdWarnings, hnone]
  exact congrArg (List.map _) (sortByKey_nil _)

/-! ### The two compared -/

/-- **When accepted keys are matched**: for sheets that the validators and the cross-file check
let pass, exactly where they are written as the stages compare them. Of the LGD sheet no more is
used than that the cross-file check has seen its loans. -/
theorem keysMatched_iff {pdName eadName : String}
    (hpdValid : (validatePd env pdDf pdName segments).isValid = true)
    (headValid : (validateEad env eadDf eadName segments).isValid = true)
    (hcross : ∀ issue ∈ validateCrossFiles env ⟨pdDf, lgdDf, eadDf⟩, issue.level ≠ .block)
    (hread : readPdRows env pdDf = .ok pdRows) (hpd : computePd env pdDf = .ok pdOut)
    (hlgd : lgdResultsOf env lgdDf config = .ok lgd) :
    KeysMatched env pdDf eadDf pdOut lgd ↔ KeysWritten env pdDf lgdDf eadDf pdRows := by
  have hpdChecked := pdChecked_of_isValid hpdValid
  have headChecked := eadChecked_of_isValid headValid
  obtain rfl : pdOut = pdOutput env pdRows := by
    obtain ⟨rows, hrows, _, rfl⟩ := readPdRows_of_computePd hpd
    rw [Except.ok.inj (hread.symm.trans hrows)]
  obtain ⟨hloans, hsegments⟩ := noBlock_validateCrossFiles_iff.mp hcross
  constructor
  · intro h
    refine ⟨fun r hr => ?_, fun r hr => ?_, fun r hr => ?_, fun r hr _ => ?_⟩
    · exact (unpadded_iff (hpdChecked.staging r hr)).mpr (h.pd_staging r hr)
    · exact (unpadded_iff (headChecked.staging r hr)).mpr (h.ead_staging r hr)
    · have hkept := exists_mem_table_iff.mp (h.segment r hr)
      exact ⟨(exists_of_segmentKept hpdChecked hread hkept).1, fun _ => hkept⟩
    · exact (exists_lgdResult_iff hlgd).mp (h.loan r hr)
  · intro h
    have hloan : ∀ r ∈ eadDf.rows, ∃ s ∈ lgd, r.cell "Loan ID" = .str s.loanId := by
      intro r hr
      have htext := columnTexts_of_mem (headChecked.columns _ (mem_eadRequiredColumns (by simp)))
        hr (headChecked.loanId r hr)
      obtain ⟨l, hl, hsame⟩ := mem_columnTexts (hloans _ htext)
      exact (exists_lgdResult_iff hlgd).mpr (h.loan r hr ⟨l, hl, hsame⟩)
    refine ⟨fun r hr => ?_, fun r hr => ?_, fun r hr => ?_, hloan,
      missingLgdWarnings_eq_nil hloan⟩
    · exact (unpadded_iff (hpdChecked.staging r hr)).mp (h.pd_staging r hr)
    · exact (unpadded_iff (headChecked.staging r hr)).mp (h.ead_staging r hr)
    · obtain ⟨hsome, hkept⟩ := h.segment r hr
      have htext := columnTexts_of_mem (headChecked.columns _ (mem_eadRequiredColumns (by simp)))
        hr hsome
      obtain ⟨p, hp, hsame⟩ := mem_columnTexts (hsegments _ htext)
      exact exists_mem_table_iff.mpr (hkept ⟨p, hp, hsame⟩)

end

/-! ### Keys with blanks at the end

The loan of `sampleEadFrame` against an LGD sheet with its Loan ID, and with a blank after the
three keys. -/

def paddedEadCell : String → Cell
  | "Loan ID" => .str "L "
  | "SEGMENT" => .str "RETAIL "
  | "Staging" => .str "Stage 2 "
  | name => sampleEadCell name

def paddedEadFrame : Frame := { sampleEadFrame with rows := [⟨0, paddedEadCell⟩] }

lemma lgdResultsOf_noCash :
    lgdResultsOf plainEnv (cashFrame 0) [cash (1 / 2)] = .ok [⟨"L", "C", 0, 0⟩] :=
  @lgdResultsOf_cash 0 (1 / 2) 0 (by norm_num) (numeric_zero 20 6 (by norm_num))

/-- **Keys with a blank after them** pass every check, and are not matched. -/
theorem keysMatched_fails :
    (validatePd plainEnv samplePdFrame "Data" []).isValid = true ∧
    (validateLgd plainEnv (cashFrame 0) "Data" ["Cash"]).isValid = true ∧
    (validateEad plainEnv paddedEadFrame "Data" []).isValid = true ∧
    (∀ issue ∈ validateCrossFiles plainEnv ⟨samplePdFrame, cashFrame 0, paddedEadFrame⟩,
      issue.level ≠ .block) ∧
    computePd plainEnv samplePdFrame = .ok (pdOutput plainEnv samplePdRows) ∧
    lgdResultsOf plainEnv (cashFrame 0) [cash (1 / 2)] = .ok [⟨"L", "C", 0, 0⟩] ∧
    ¬ KeysMatched plainEnv samplePdFrame paddedEadFrame (pdOutput plainEnv samplePdRows)
        [⟨"L", "C", 0, 0⟩] := by
  refine ⟨by decide, by decide, by decide,
    noBlock_validateCrossFiles_iff.mpr ⟨by decide, by decide⟩, computePd_sample,
    lgdResultsOf_noCash, fun h => ?_⟩
  obtain ⟨stage, hstage⟩ := h.ead_staging _ List.mem_cons_self
  change Cell.str "Stage 2 " = .str stage.text at hstage
  cases stage <;> exact absurd (Cell.str.inj hstage) (by decide)

/-- The keys without the blank. -/
theorem keysMatched_iff_sample :
    KeysMatched plainEnv samplePdFrame sampleEadFrame (pdOutput plainEnv samplePdRows)
        [⟨"L", "C", 0, 0⟩]
      ↔ KeysWritten plainEnv samplePdFrame (cashFrame 0) sampleEadFrame samplePdRows :=
  @keysMatched_iff plainEnv samplePdFrame (cashFrame 0) sampleEadFrame samplePdRows _ _
    [cash (1 / 2)] [] "Data" "Data" (by decide) (by decide)
    (noBlock_validateCrossFiles_iff.mpr ⟨by decide, by decide⟩) readPdRows_sample
    computePd_sample lgdResultsOf_noCash

end EclServer.Runs
