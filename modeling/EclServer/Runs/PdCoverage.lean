import EclServer.Engine.LoanCoverage
import EclServer.Runs.KeyMatching

/-!
The join of the snapshots with the PD table in `compute_ead`.

* `joinInputs`: the steps before the join, `computeEad_eq_bind`: and what follows them.
* `RaisesEc08`, `PdJoinCovers`: EC-08 for the segments that the PD table lacks, and defaults for
  the months past its horizon.
* `record_of_walked`, `exists_walked_of_record`: the snapshots of a sheet and their months.
* `InHorizon`: no loan is first paid in its reporting month, and every segment has one within
  the horizon.
* `pdJoinCovers_iff`: where EC-08 and the defaults are as they should be.
-/

namespace EclServer.Runs

open EclServer.Library EclServer.Engine

/-! ### The steps before the join -/

section

variable (env : PyEnv) (eadDf : Frame) (pdTable : List PdTableRow) (lgdDf : Frame)

/-- `compute_ead` up to EC-08: the snapshots with their terms. -/
def joinInputs : Except String (List TermRow) := do
  requireEadColumns eadDf lgdDf
  let dated ← withDates env (mergeLgd env eadDf lgdDf)
  let snapshots := expandDated dated
  if snapshots.isEmpty then return []
  requireTermColumns eadDf
  let terms ← withTerms env snapshots
  checkTermFloats env terms
  requirePdKeys eadDf terms pdTable
  requireJoined eadDf "Marginal_PD"
  return terms

/-- The snapshots that are joined, with their PD. -/
def joinedRows (terms : List TermRow) :
    List (WalkedRow × Option PdTableRow) :=
  joinPd (walkLoans env terms) pdTable

/-- What can stop `compute_ead` once EC-08 has not. -/
def checkOutput (terms : List TermRow) : Except String Unit :=
  if terms.isEmpty then .ok ()
  else do
    requireJoined eadDf "Cure_Rate"
    checkRowFloats env terms
    requireOutputColumns eadDf

/-- On a sheet with snapshots all of it is checked. -/
lemma checks_of_terms {terms : List TermRow} (hsome : terms.isEmpty ≠ true) {α : Type}
    (segments : Except String Unit) (out : α) :
    (do
      segments
      requireJoined eadDf "Cure_Rate"
      checkRowFloats env terms
      requireOutputColumns eadDf
      return out) = (do
        segments
        checkOutput env eadDf terms
        return out) := by
  rw [checkOutput, if_neg hsome]
  cases segments with
  | error e => rfl
  | ok _ =>
      cases requireJoined eadDf "Cure_Rate" with
      | error e => rfl
      | ok _ => cases checkRowFloats env terms <;> rfl

/-- **`compute_ead` from the join on.** -/
lemma computeEad_eq_bind :
    computeEad env eadDf pdTable lgdDf = (do
      let terms ← joinInputs env eadDf pdTable lgdDf
      checkSegments (missingSegments env (joinedRows env pdTable terms))
      checkOutput env eadDf terms
      return (sortByKey EclRow.sortKey (eclRows env (joinedRows env pdTable terms)),
        missingLgdWarnings env (joinLgd env eadDf lgdDf))) := by
  rw [computeEad, joinInputs]
  cases requireEadColumns eadDf lgdDf with
  | error e => rfl
  | ok _ =>
      cases hdated : withDates env (mergeLgd env eadDf lgdDf) with
      | error e => simp only [bind, Except.bind]
      | ok dated =>
          simp only [bind, Except.bind]
          by_cases hempty : (expandDated dated).isEmpty = true
          · have hnone : joinedRows env pdTable [] = [] := by
              simp [joinedRows, joinPd, leftJoin]
            have hmissing : missingSegments env [] = [] := sortByKey_nil _
            rw [if_pos hempty, if_pos hempty]
            simp only [pure, Except.pure, hnone, hmissing, checkSegments, checkOutput,
              List.isEmpty_nil, if_true, eclRows, List.map_nil, sortByKey_nil]
          · rw [if_neg hempty, if_neg hempty]
            cases requireTermColumns eadDf with
            | error e => rfl
            | ok _ =>
                cases hterms : withTerms env (expandDated dated) with
                | error e => rfl
                | ok terms =>
                    -- a sheet with snapshots has terms, so what follows the join is checked
                    have hsome : terms.isEmpty ≠ true := by
                      refine fun hnil => hempty ?_
                      rw [← map_withTerms hterms, List.isEmpty_iff.mp hnil]
                      rfl
                    dsimp only
                    cases checkTermFloats env terms with
                    | error e => rfl
                    | ok _ =>
                        cases requirePdKeys eadDf terms pdTable with
                        | error e => rfl
                        | ok _ =>
                            cases requireJoined eadDf "Marginal_PD" with
                            | error e => rfl
                            | ok _ => exact checks_of_terms env eadDf hsome _ _

end

/-- **EC-08 is raised**: the join leaves a segment without PD. -/
def RaisesEc08 (env : PyEnv) (eadDf : Frame) (pdTable : List PdTableRow) (lgdDf : Frame) : Prop :=
  ∃ terms e, joinInputs env eadDf pdTable lgdDf = .ok terms ∧
    checkSegments (missingSegments env (joinedRows env pdTable terms)) = .error e

/-- Then `compute_ead` fails with its message. -/
lemma computeEad_of_raisesEc08 {env : PyEnv} {eadDf lgdDf : Frame} {pdTable : List PdTableRow}
    (h : RaisesEc08 env eadDf pdTable lgdDf) :
    ∃ missing e, checkSegments missing = .error e ∧
      computeEad env eadDf pdTable lgdDf = .error e := by
  obtain ⟨terms, e, hterms, hcheck⟩ := h
  refine ⟨_, e, hcheck, ?_⟩
  rw [computeEad_eq_bind, hterms]
  simp only [bind, Except.bind, hcheck]

/-- A segment of the sheet has no row in the PD table. -/
def LacksSegment (eadDf : Frame) (pdTable : List PdTableRow) : Prop :=
  ∃ r ∈ eadDf.rows, ∀ t ∈ pdTable, t.segment ≠ r.cell "SEGMENT"

/-- **The join covers the sheet**: EC-08 is raised exactly where a segment has no row in the PD
table, and else PD and cure rate are defaulted past the horizon only. -/
structure PdJoinCovers (env : PyEnv) (eadDf : Frame) (pdTable : List PdTableRow)
    (lgdDf : Frame) : Prop where
  ec08 : RaisesEc08 env eadDf pdTable lgdDf ↔ LacksSegment eadDf pdTable
  defaulted : ¬ RaisesEc08 env eadDf pdTable lgdDf → ∀ terms,
    joinInputs env eadDf pdTable lgdDf = .ok terms → ∀ w, (w, none) ∈ joinedRows env pdTable terms →
      ∃ n : ℤ, w.periodSinceOrigination = some n ∧ 299 < n

/-- The months from the first payment of a loan to its reporting date. -/
def monthsSinceFirst (read : Cell → Option Timestamp) (r : Record) : Option ℤ :=
  monthsBetween? (read (r.cell "First Payment Date")) (read (r.cell "Reporting Date"))

/-- **The sheet is within the horizon**: no loan is first paid in its reporting month, and every
segment has a loan that was reported at most 299 months after its first payment. -/
structure InHorizon (read : Cell → Option Timestamp) (eadDf : Frame) : Prop where
  paid : ∀ r ∈ eadDf.rows, monthsSinceFirst read r ≠ some 0
  segment : ∀ r ∈ eadDf.rows, ∃ r' ∈ eadDf.rows, r'.cell "SEGMENT" = r.cell "SEGMENT" ∧
    ∃ n : ℤ, monthsSinceFirst read r' = some n ∧ n ≤ 299

/-- The cells that are keys are written as they are compared. -/
structure CanonicalCells (eadDf : Frame) : Prop where
  loanId : ∀ r ∈ eadDf.rows, Unpadded (r.cell "Loan ID")
  staging : ∀ r ∈ eadDf.rows, Unpadded (r.cell (resolveColumn eadDf stagingAliases "Staging"))
  segment : ∀ r ∈ eadDf.rows, Unpadded (r.cell "SEGMENT")

/-- An EAD sheet without a violated rule or a blank cell, whose keys are canonical and whose
dates `pd.to_datetime` reads one by one. -/
structure CleanSheet (env : PyEnv) (read : Cell → Option Timestamp) (eadDf : Frame)
    (allowedSegments : List String) : Prop where
  accepted : ∃ sheetName, (validateEad env eadDf sheetName allowedSegments).isValid = true
  filled : ∀ r ∈ eadDf.rows, ∀ name ∈ eadRequiredColumns eadDf, r.cell name ≠ .blank
  canonical : CanonicalCells eadDf
  reads : ReadsDates env eadDf read
  coerces : ∀ name ∈ dateColumns,
    env.coerceDatetime (eadDf.column name) = (eadDf.column name).map read

/-! ### The snapshots of a sheet -/

section Snapshots

variable {env : PyEnv} {read : Cell → Option Timestamp} {eadDf lgdDf : Frame}
  {allowedSegments : List String} {pdTable : List PdTableRow} {terms : List TermRow} {r : Record}

/-- The terms are read from the snapshots of the loans. -/
lemma joinInputs_ok (hread : ReadsDates env eadDf read)
    (h : joinInputs env eadDf pdTable lgdDf = .ok terms) :
    terms = (expandDated (loansOf env read eadDf lgdDf)).map (termOf read) := by
  obtain ⟨_, _, h⟩ := bind_eq_ok.mp h
  obtain ⟨dated, hdated, h⟩ := bind_eq_ok.mp h
  obtain rfl := withDates_eq_loansOf hread hdated
  by_cases hempty : (expandDated (loansOf env read eadDf lgdDf)).isEmpty = true
  · rw [if_pos hempty] at h
    rw [List.isEmpty_iff.mp hempty, ← Except.ok.inj h, List.map_nil]
  · rw [if_neg hempty] at h
    obtain ⟨_, _, h⟩ := bind_eq_ok.mp h
    obtain ⟨terms', hterms, h⟩ := bind_eq_ok.mp h
    obtain ⟨_, _, h⟩ := bind_eq_ok.mp h
    obtain ⟨_, _, h⟩ := bind_eq_ok.mp h
    obtain ⟨_, _, h⟩ := bind_eq_ok.mp h
    obtain rfl := Except.ok.inj h
    refine withTerms_eq_map hread (fun s hs => ?_) hterms
    obtain ⟨d, hd, k, rfl⟩ := mem_expandDated hs
    obtain ⟨r, hr, rfl⟩ := List.mem_map.mp hd
    exact ⟨r, (mem_sortByKey _).mp hr, rfl⟩

lemma CleanSheet.checked (h : CleanSheet env read eadDf allowedSegments) :
    EadChecked env eadDf allowedSegments := by
  obtain ⟨sheetName, hvalid⟩ := h.accepted
  exact eadChecked_of_isValid hvalid

lemma CleanSheet.exists_read (h : CleanSheet env read eadDf allowedSegments) (hr : r ∈ eadDf.rows)
    {name : String} (hname : name ∈ dateColumns) : ∃ t, read (r.cell name) = some t :=
  h.checked.exists_read h.coerces hr hname
    (h.filled r hr name (mem_eadRequiredColumns (List.mem_append_right _ hname)))

/-- The months since the first payment are there, and not negative. -/
lemma CleanSheet.monthsSinceFirst_eq (h : CleanSheet env read eadDf allowedSegments)
    (hr : r ∈ eadDf.rows) : ∃ first reporting, read (r.cell "First Payment Date") = some first ∧
      read (r.cell "Reporting Date") = some reporting ∧
      monthsSinceFirst read r = some (Timestamp.monthsBetween first reporting) ∧
      0 ≤ Timestamp.monthsBetween first reporting := by
  obtain ⟨first, hfirst⟩ := h.exists_read hr (show "First Payment Date" ∈ dateColumns by decide)
  obtain ⟨reporting, hreporting⟩ := h.exists_read hr (show "Reporting Date" ∈ dateColumns by decide)
  have hle : first ≤ reporting := by
    refine h.checked.firstPayment_order.le (fun name hname => h.coerces name ?_) hr hfirst
      hreporting
    simp only [List.mem_cons, List.not_mem_nil, or_false] at hname
    rcases hname with rfl | rfl <;> decide
  refine ⟨first, reporting, hfirst, hreporting, ?_, ?_⟩
  · rw [monthsSinceFirst, hfirst, hreporting]
    rfl
  · rw [Timestamp.monthsBetween_eq]
    have hmonths := Timestamp.monthIndex_le_of_le hle
    omega

/-- A loan first paid before its reporting month was so a month before at least. -/
lemma CleanSheet.one_le_months (h : CleanSheet env read eadDf allowedSegments)
    (hr : r ∈ eadDf.rows) (hpaid : monthsSinceFirst read r ≠ some 0) {n : ℤ}
    (hmonths : monthsSinceFirst read r = some n) : 1 ≤ n := by
  obtain ⟨first, reporting, -, -, hvalue, hnonneg⟩ := h.monthsSinceFirst_eq hr
  rw [hmonths] at hvalue hpaid
  obtain rfl := Option.some.inj hvalue
  have hzero : Timestamp.monthsBetween first reporting ≠ 0 := fun heq => hpaid (by rw [heq])
  omega

/-- A row with its dates in order has a snapshot at its reporting date. -/
lemma zero_mem_offsets {d : DatedRow} (h : d.Kept) : 0 ∈ d.offsets := by
  have hmatures : ∀ n, 0 < n →
      (d.staging = .str LoanStage.stage1.text ∨ d.staging = .str LoanStage.stage2.text) →
      0 ∈ (List.range n).filter d.matures := by
    intro n hn hstage
    obtain ⟨rep, mat, hrep, hmat, hle⟩ := h hstage
    refine List.mem_filter.mpr ⟨List.mem_range.mpr hn, ?_⟩
    rw [DatedRow.matures, hrep, hmat]
    simpa using hle
  rw [DatedRow.offsets]
  split_ifs with hone htwo
  · exact hmatures 13 (by omega) (Or.inl hone)
  · exact hmatures _ (by omega) (Or.inr htwo)
  · exact List.mem_singleton_self 0

/-- **A snapshot is one of a loan**, some months after its reporting date. -/
lemma CleanSheet.record_of_walked (h : CleanSheet env read eadDf allowedSegments)
    (hterms : joinInputs env eadDf pdTable lgdDf = .ok terms) {w : WalkedRow}
    (hw : w ∈ walkLoans env terms) :
    ∃ r ∈ eadDf.rows, w.segment = r.cell "SEGMENT" ∧
      w.staging = r.cell (resolveColumn eadDf stagingAliases "Staging") ∧
      ∃ n : ℤ, ∃ k : ℕ, monthsSinceFirst read r = some n ∧
        w.periodSinceOrigination = some (n + k) := by
  have hterm := toTermRow_mem hw
  rw [joinInputs_ok h.reads hterms] at hterm
  obtain ⟨s, hs, hwterm⟩ := List.mem_map.mp hterm
  obtain ⟨d, hd, k, rfl⟩ := mem_expandDated hs
  obtain ⟨r, hsorted, rfl⟩ := List.mem_map.mp hd
  have hr := (mem_sortByKey _).mp hsorted
  obtain ⟨first, reporting, hfirst, hreporting, hmonths, -⟩ := h.monthsSinceFirst_eq hr
  refine ⟨r, hr, ?_, ?_, _, k, hmonths, ?_⟩
  · exact (congrArg (fun t : TermRow => t.segment) hwterm).symm
  · exact (congrArg (fun t : TermRow => t.staging) hwterm).symm
  · have hperiod : w.periodSinceOrigination
        = monthsBetween? (read (r.cell "First Payment Date"))
          ((read (r.cell "Reporting Date")).map (·.addMonths k)) :=
      (congrArg TermRow.periodSinceOrigination hwterm).symm
    rw [hperiod, hfirst, hreporting, ← Timestamp.monthsBetween_addMonths]
    rfl

/-- **Every loan has a snapshot** at its reporting date. -/
lemma CleanSheet.exists_walked_of_record (h : CleanSheet env read eadDf allowedSegments)
    (hterms : joinInputs env eadDf pdTable lgdDf = .ok terms) (hr : r ∈ eadDf.rows) :
    ∃ w ∈ walkLoans env terms, w.segment = r.cell "SEGMENT" ∧
      w.staging = r.cell (resolveColumn eadDf stagingAliases "Staging") ∧
      w.periodSinceOrigination = monthsSinceFirst read r := by
  set d := loanOf env read eadDf.columns lgdDf.columns r (lgdOf lgdDf (r.cell "Loan ID")) with hd
  have hmem : d ∈ loansOf env read eadDf lgdDf :=
    List.mem_map.mpr ⟨r, (mem_sortByKey _).mpr hr, rfl⟩
  have hkept : d.Kept := by
    intro _
    obtain ⟨rep, hrep⟩ := h.exists_read hr (show "Reporting Date" ∈ dateColumns by decide)
    obtain ⟨mat, hmat⟩ := h.exists_read hr (show "Maturity Date" ∈ dateColumns by decide)
    refine ⟨rep, mat, hrep, hmat, ?_⟩
    refine h.checked.maturity_order.le (fun name hname => h.coerces name ?_) hr hrep hmat
    simp only [List.mem_cons, List.not_mem_nil, or_false] at hname
    rcases hname with rfl | rfl <;> decide
  have hterm : termOf read (d.snapshot 0) ∈ terms := by
    rw [joinInputs_ok h.reads hterms]
    exact List.mem_map_of_mem (mem_expandDated_iff.mpr ⟨d, hmem, 0, zero_mem_offsets hkept, rfl⟩)
  obtain ⟨w, hw, hwterm⟩ := List.mem_map.mp ((map_walkLoans_perm terms).mem_iff.mpr hterm)
  refine ⟨w, hw, ?_, ?_, ?_⟩
  · exact congrArg (fun t : TermRow => t.segment) hwterm
  · exact congrArg (fun t : TermRow => t.staging) hwterm
  · have hperiod : w.periodSinceOrigination
        = monthsBetween? (read (r.cell "First Payment Date"))
          ((read (r.cell "Reporting Date")).map (·.addMonths (0 : ℕ))) :=
      congrArg TermRow.periodSinceOrigination hwterm
    have hsame : (fun t : Timestamp => t.addMonths ((0 : ℕ) : ℤ)) = id := by
      funext t
      exact t.addMonths_zero
    rw [hperiod, hsame, Option.map_id]
    rfl

end Snapshots

/-! ### The join -/

section Join

variable {env : PyEnv} {read : Cell → Option Timestamp} {eadDf lgdDf : Frame}
  {allowedSegments : List String} {pdTable : List PdTableRow} {pdRows : List PdRow}
  {terms : List TermRow}

/-- A snapshot has a row of the PD table. -/
def HasPd (pdTable : List PdTableRow) (w : WalkedRow) : Prop := ∃ t ∈ pdTable, matchesPd w t = true

lemma mem_joinedRows_none {w : WalkedRow} :
    (w, none) ∈ joinedRows env pdTable terms ↔ w ∈ walkLoans env terms ∧ ¬ HasPd pdTable w := by
  rw [joinedRows, joinPd, mem_leftJoin]
  simp [HasPd]

lemma exists_mem_joinedRows {w : WalkedRow} :
    (∃ t, (w, some t) ∈ joinedRows env pdTable terms)
      ↔ w ∈ walkLoans env terms ∧ HasPd pdTable w := by
  constructor
  · rintro ⟨t, ht⟩
    obtain ⟨hw, ⟨hnone, -⟩ | ⟨t', ht', hmatch, -⟩⟩ := (mem_leftJoin _).mp ht
    · cases hnone
    · exact ⟨hw, t', ht', hmatch⟩
  · rintro ⟨hw, t, ht, hmatch⟩
    exact ⟨t, (mem_leftJoin _).mpr ⟨hw, Or.inr ⟨t, ht, hmatch, rfl⟩⟩⟩

/-- **A snapshot in a known stage has PD** in the months 1 to 299 of a segment of the table. -/
lemma hasPd_iff {w : WalkedRow} (hstage : ∃ stage : LoanStage, w.staging = .str stage.text) :
    HasPd (pdOutput env pdRows).table w ↔
      (∃ t ∈ (pdOutput env pdRows).table, t.segment = w.segment) ∧
        ∃ n : ℤ, w.periodSinceOrigination = some n ∧ 1 ≤ n ∧ n ≤ 299 := by
  constructor
  · rintro ⟨t, ht, hmatch⟩
    simp only [matchesPd, decide_eq_true_eq] at hmatch
    obtain ⟨hsegment, hperiod, -⟩ := hmatch
    obtain ⟨segment, -, st, n, hn, rfl⟩ := mem_table.mp ht
    obtain ⟨hlow, hhigh⟩ := mem_pdMonths.mp hn
    refine ⟨⟨_, ht, hsegment.symm⟩, n, hperiod, by omega, ?_⟩
    rw [maxPdMonth] at hhigh
    omega
  · rintro ⟨⟨t, ht, hsegment⟩, n, hperiod, hlow, hhigh⟩
    obtain ⟨stage, hstage⟩ := hstage
    obtain ⟨segment, hmem, st, m, hm, rfl⟩ := mem_table.mp ht
    obtain ⟨k, rfl⟩ : ∃ k : ℕ, n = k := ⟨n.toNat, by omega⟩
    have hk : k ∈ pdMonths := mem_pdMonths.mpr ⟨by omega, by rw [maxPdMonth]; omega⟩
    refine ⟨tableRow env _ (nextStaging pdRows) segment stage k,
      mem_table.mpr ⟨segment, hmem, stage, k, hk, rfl⟩, ?_⟩
    exact decide_eq_true ⟨hsegment.symm, hperiod, hstage⟩

lemma checkSegments_error_iff {missing : List String} :
    (∃ e, checkSegments missing = .error e) ↔ missing ≠ [] := by
  cases missing with
  | nil => simp [checkSegments]
  | cons text texts => simp [checkSegments]

/-- The missing segments are the texts of segments without any PD. -/
lemma mem_missingSegments {joined : List (WalkedRow × Option PdTableRow)} {text : String} :
    text ∈ missingSegments env joined ↔ (∃ p ∈ joined, p.1.segment.pyStr env = text) ∧
      ∀ p ∈ joined, p.2.isSome → p.1.segment.pyStr env ≠ text := by
  simp only [missingSegments, mem_sortByKey, List.mem_filter, mem_dropDuplicates_id, List.mem_map,
    decide_eq_true_eq, not_exists, not_and, and_imp]

lemma missingSegments_ne_nil_iff :
    missingSegments env (joinedRows env pdTable terms) ≠ [] ↔ ∃ w ∈ walkLoans env terms,
      ∀ w' ∈ walkLoans env terms, w'.segment.pyStr env = w.segment.pyStr env →
        ¬ HasPd pdTable w' := by
  constructor
  · intro hsome
    obtain ⟨text, htext⟩ := List.exists_mem_of_ne_nil _ hsome
    obtain ⟨⟨⟨w, pd⟩, hp, rfl⟩, hnone⟩ := mem_missingSegments.mp htext
    refine ⟨w, ((mem_leftJoin _).mp hp).1, fun w' hw' hsame hpd => ?_⟩
    obtain ⟨t, ht⟩ := exists_mem_joinedRows.mpr ⟨hw', hpd⟩
    exact hnone _ ht rfl hsame
  · rintro ⟨w, hw, hnone⟩
    obtain ⟨pd, hp⟩ := exists_mem_leftJoin matchesPd pdTable hw
    refine List.ne_nil_of_mem (mem_missingSegments.mpr ⟨⟨_, hp, rfl⟩, ?_⟩)
    rintro ⟨w', pd'⟩ hp' hsome hsame
    obtain ⟨t, rfl⟩ := Option.isSome_iff_exists.mp hsome
    obtain ⟨hw', hpd⟩ := exists_mem_joinedRows.mp ⟨t, hp'⟩
    exact hnone w' hw' hsame hpd

/-- Of a clean sheet, a snapshot is in a known stage and its segment is an unpadded text. -/
lemma CleanSheet.walked (h : CleanSheet env read eadDf allowedSegments)
    (hterms : joinInputs env eadDf pdTable lgdDf = .ok terms) {w : WalkedRow}
    (hw : w ∈ walkLoans env terms) :
    (∃ stage : LoanStage, w.staging = .str stage.text) ∧ ∃ text, w.segment = .str text := by
  obtain ⟨r, hr, hsegment, hstaging, -⟩ := h.record_of_walked hterms hw
  constructor
  · rw [hstaging]
    exact (unpadded_iff (h.checked.staging r hr)).mp (h.canonical.staging r hr)
  · rw [hsegment]
    obtain ⟨text, htext, -⟩ := h.canonical.segment r hr
    exact ⟨text, htext⟩

/-- **EC-08, where the steps before the join go through**: a snapshot's segment has no PD. -/
lemma CleanSheet.raisesEc08_iff (h : CleanSheet env read eadDf allowedSegments)
    (hterms : joinInputs env eadDf pdTable lgdDf = .ok terms) :
    RaisesEc08 env eadDf pdTable lgdDf ↔ ∃ w ∈ walkLoans env terms,
      ∀ w' ∈ walkLoans env terms, w'.segment = w.segment → ¬ HasPd pdTable w' := by
  have hsegments : RaisesEc08 env eadDf pdTable lgdDf
      ↔ missingSegments env (joinedRows env pdTable terms) ≠ [] := by
    rw [← checkSegments_error_iff]
    constructor
    · rintro ⟨terms', e, hterms', hcheck⟩
      obtain rfl := Except.ok.inj (hterms.symm.trans hterms')
      exact ⟨e, hcheck⟩
    · rintro ⟨e, hcheck⟩
      exact ⟨terms, e, hterms, hcheck⟩
  rw [hsegments, missingSegments_ne_nil_iff]
  refine exists_congr fun w => and_congr_right fun hw => forall₂_congr fun w' hw' => ?_
  obtain ⟨-, text, htext⟩ := h.walked hterms hw
  obtain ⟨-, text', htext'⟩ := h.walked hterms hw'
  rw [htext, htext']
  simp [Cell.pyStr]

/-- A sheet with a segment that the table lacks raises EC-08. -/
lemma CleanSheet.raises_of_lacks (h : CleanSheet env read eadDf allowedSegments)
    (hterms : joinInputs env eadDf pdTable lgdDf = .ok terms)
    (hlacks : LacksSegment eadDf pdTable) : RaisesEc08 env eadDf pdTable lgdDf := by
  obtain ⟨r, hr, hnone⟩ := hlacks
  obtain ⟨w, hw, hsegment, -⟩ := h.exists_walked_of_record hterms hr
  refine (h.raisesEc08_iff hterms).mpr ⟨w, hw, ?_⟩
  rintro w' - hsame ⟨t, ht, hmatch⟩
  simp only [matchesPd, decide_eq_true_eq] at hmatch
  exact hnone t ht (hmatch.1.symm.trans (hsame.trans hsegment))

/-- The snapshot at the reporting date of a loan within the horizon has PD. -/
lemma CleanSheet.hasPd_of_record (h : CleanSheet env read eadDf allowedSegments)
    (hterms : joinInputs env eadDf (pdOutput env pdRows).table lgdDf = .ok terms)
    (hall : ¬ LacksSegment eadDf (pdOutput env pdRows).table) {r : Record} (hr : r ∈ eadDf.rows)
    {n : ℤ} (hmonths : monthsSinceFirst read r = some n) (hlow : 1 ≤ n) (hhigh : n ≤ 299) :
    ∃ w ∈ walkLoans env terms, w.segment = r.cell "SEGMENT" ∧
      HasPd (pdOutput env pdRows).table w := by
  obtain ⟨w, hw, hsegment, -, hperiod⟩ := h.exists_walked_of_record hterms hr
  refine ⟨w, hw, hsegment, (hasPd_iff (h.walked hterms hw).1).mpr
    ⟨?_, n, hperiod.trans hmonths, hlow, hhigh⟩⟩
  by_contra hnone
  refine hall ⟨r, hr, fun t ht heq => hnone ⟨t, ht, ?_⟩⟩
  rw [heq, hsegment]

/-- Within the horizon nothing raises EC-08. -/
lemma CleanSheet.not_raises (h : CleanSheet env read eadDf allowedSegments)
    (hterms : joinInputs env eadDf (pdOutput env pdRows).table lgdDf = .ok terms)
    (hall : ¬ LacksSegment eadDf (pdOutput env pdRows).table) (hin : InHorizon read eadDf) :
    ¬ RaisesEc08 env eadDf (pdOutput env pdRows).table lgdDf := by
  rw [h.raisesEc08_iff hterms]
  rintro ⟨w, hw, hnone⟩
  obtain ⟨r, hr, hsegment, -⟩ := h.record_of_walked hterms hw
  obtain ⟨r', hr', hsame, n, hmonths, hhigh⟩ := hin.segment r hr
  have hlow : 1 ≤ n := h.one_le_months hr' (hin.paid r' hr') hmonths
  obtain ⟨w', hw', hsegment', hpd⟩ := h.hasPd_of_record hterms hall hr' hmonths hlow hhigh
  exact hnone w' hw' (hsegment'.trans (hsame.trans hsegment.symm)) hpd

/-- **The join covers a sheet within the horizon.** -/
lemma CleanSheet.covers_of_inHorizon (h : CleanSheet env read eadDf allowedSegments)
    (hterms : joinInputs env eadDf (pdOutput env pdRows).table lgdDf = .ok terms)
    (hall : ¬ LacksSegment eadDf (pdOutput env pdRows).table) (hin : InHorizon read eadDf) :
    PdJoinCovers env eadDf (pdOutput env pdRows).table lgdDf := by
  have hraises := h.not_raises hterms hall hin
  refine ⟨iff_of_false hraises hall, fun _ terms' hterms' w hw => ?_⟩
  obtain rfl := Except.ok.inj (hterms.symm.trans hterms')
  obtain ⟨hw, hnone⟩ := mem_joinedRows_none.mp hw
  obtain ⟨r, hr, hsegment, -, n, k, hmonths, hperiod⟩ := h.record_of_walked hterms hw
  refine ⟨n + k, hperiod, ?_⟩
  by_contra hlow
  have hsome : ∃ t ∈ (pdOutput env pdRows).table, t.segment = w.segment := by
    by_contra hlacks
    refine hall ⟨r, hr, fun t ht heq => hlacks ⟨t, ht, ?_⟩⟩
    rw [heq, hsegment]
  have hpositive : 1 ≤ n := h.one_le_months hr (hin.paid r hr) hmonths
  exact hnone ((hasPd_iff (h.walked hterms hw).1).mpr ⟨hsome, n + k, hperiod, by omega, by omega⟩)

/-- Where the join covers a sheet whose segments are all in the table, the sheet is within the
horizon. -/
lemma CleanSheet.inHorizon_of_covers (h : CleanSheet env read eadDf allowedSegments)
    (hterms : joinInputs env eadDf (pdOutput env pdRows).table lgdDf = .ok terms)
    (hcovers : PdJoinCovers env eadDf (pdOutput env pdRows).table lgdDf)
    (hall : ¬ LacksSegment eadDf (pdOutput env pdRows).table) : InHorizon read eadDf := by
  have hraises : ¬ RaisesEc08 env eadDf (pdOutput env pdRows).table lgdDf :=
    fun hraised => hall (hcovers.ec08.mp hraised)
  constructor
  · intro r hr hzero
    obtain ⟨w, hw, -, -, hperiod⟩ := h.exists_walked_of_record hterms hr
    have hnone : ¬ HasPd (pdOutput env pdRows).table w := by
      rw [hasPd_iff (h.walked hterms hw).1]
      rintro ⟨-, n, hn, hlow, -⟩
      rw [hperiod, hzero] at hn
      obtain rfl := Option.some.inj hn
      omega
    obtain ⟨n, hn, hlate⟩ := hcovers.defaulted hraises terms hterms w
      (mem_joinedRows_none.mpr ⟨hw, hnone⟩)
    rw [hperiod, hzero] at hn
    obtain rfl := Option.some.inj hn
    omega
  · intro r hr
    obtain ⟨w, hw, hsegment, -⟩ := h.exists_walked_of_record hterms hr
    rw [h.raisesEc08_iff hterms] at hraises
    push Not at hraises
    obtain ⟨w', hw', hsame, hpd⟩ := hraises w hw
    obtain ⟨-, m, hm, -, hhigh⟩ := (hasPd_iff (h.walked hterms hw').1).mp hpd
    obtain ⟨r', hr', hsegment', -, n, k, hmonths, hperiod⟩ := h.record_of_walked hterms hw'
    refine ⟨r', hr', hsegment'.symm.trans (hsame.trans hsegment), n, hmonths, ?_⟩
    rw [hperiod] at hm
    have hsum := Option.some.inj hm
    omega

/-- The condition under which the join covers a sheet: where the steps before it go through, a
segment is missing from the PD table or the sheet is within the horizon; where another error
comes first, no segment is missing. -/
structure Coverable (env : PyEnv) (read : Cell → Option Timestamp) (eadDf : Frame)
    (pdTable : List PdTableRow) (lgdDf : Frame) : Prop where
  reached : ∀ terms, joinInputs env eadDf pdTable lgdDf = .ok terms →
    LacksSegment eadDf pdTable ∨ InHorizon read eadDf
  stopped : ∀ e, joinInputs env eadDf pdTable lgdDf = .error e → ¬ LacksSegment eadDf pdTable

lemma CleanSheet.coverable (h : CleanSheet env read eadDf allowedSegments)
    (hcovers : PdJoinCovers env eadDf (pdOutput env pdRows).table lgdDf) :
    Coverable env read eadDf (pdOutput env pdRows).table lgdDf := by
  constructor
  · intro terms hterms
    by_cases hlacks : LacksSegment eadDf (pdOutput env pdRows).table
    · exact Or.inl hlacks
    · exact Or.inr (h.inHorizon_of_covers hterms hcovers hlacks)
  · intro e he hlacks
    obtain ⟨terms, -, hterms, -⟩ := hcovers.ec08.mpr hlacks
    rw [he] at hterms
    cases hterms

lemma CleanSheet.covers (h : CleanSheet env read eadDf allowedSegments)
    (hcoverable : Coverable env read eadDf (pdOutput env pdRows).table lgdDf) :
    PdJoinCovers env eadDf (pdOutput env pdRows).table lgdDf := by
  cases hterms : joinInputs env eadDf (pdOutput env pdRows).table lgdDf with
  | error e =>
      have hraises : ¬ RaisesEc08 env eadDf (pdOutput env pdRows).table lgdDf := by
        rintro ⟨terms, -, hok, -⟩
        rw [hterms] at hok
        cases hok
      refine ⟨iff_of_false hraises (hcoverable.stopped e hterms), fun _ terms hok => ?_⟩
      rw [hterms] at hok
      cases hok
  | ok terms =>
      by_cases hlacks : LacksSegment eadDf (pdOutput env pdRows).table
      · have hraises := h.raises_of_lacks hterms hlacks
        exact ⟨iff_of_true hraises hlacks, fun hnot => absurd hraises hnot⟩
      · exact h.covers_of_inHorizon hterms hlacks
          ((hcoverable.reached terms hterms).resolve_left hlacks)

/-- **PD join coverage** of a clean sheet: where the steps before the join go through, exactly
where a segment is missing from the PD table or the sheet is within the horizon; where another
error comes first, exactly where no segment is missing. -/
theorem pdJoinCovers_iff {pdDf : Frame} {pdOut : PdOutput}
    (h : CleanSheet env read eadDf allowedSegments) (hpd : computePd env pdDf = .ok pdOut) :
    PdJoinCovers env eadDf pdOut.table lgdDf ↔ Coverable env read eadDf pdOut.table lgdDf := by
  obtain ⟨pdRows, -, -, rfl⟩ := readPdRows_of_computePd hpd
  exact ⟨h.coverable, h.covers⟩

end Join

/-! ### A loan first paid in its reporting month -/

/-- The date of a date cell. -/
def plainRead (c : Cell) : Option Timestamp :=
  match c with
  | .date t => some t
  | _ => none

/-- A sheet of the sample's columns with date cells is clean where it is accepted and filled. -/
lemma cleanSheet_plain {eadDf : Frame}
    (hvalid : (validateEad plainEnv eadDf "Data" []).isValid = true)
    (hfilled : ∀ r ∈ eadDf.rows, ∀ name ∈ eadRequiredColumns eadDf, r.cell name ≠ .blank)
    (hcanonical : CanonicalCells eadDf) : CleanSheet plainEnv plainRead eadDf [] :=
  ⟨⟨_, hvalid⟩, hfilled, hcanonical, fun _ _ _ _ _ h => (Except.ok.inj h).symm, fun _ _ => rfl⟩

lemma cleanSheet_sample : CleanSheet plainEnv plainRead sampleEadFrame [] := by
  refine cleanSheet_plain (by decide) ?_ ⟨?_, ?_, ?_⟩
  · intro r hr
    obtain rfl := List.mem_singleton.mp hr
    decide
  · intro r hr
    obtain rfl := List.mem_singleton.mp hr
    exact ⟨"L", rfl, by decide⟩
  · intro r hr
    obtain rfl := List.mem_singleton.mp hr
    exact ⟨"Stage 2", rfl, by decide⟩
  · intro r hr
    obtain rfl := List.mem_singleton.mp hr
    exact ⟨"RETAIL", rfl, by decide⟩

/-- The loan of the sample, a month after its first payment. -/
theorem pdJoinCovers_iff_sample :
    PdJoinCovers plainEnv sampleEadFrame (pdOutput plainEnv samplePdRows).table sampleLgdFrame ↔
      Coverable plainEnv plainRead sampleEadFrame (pdOutput plainEnv samplePdRows).table
        sampleLgdFrame :=
  pdJoinCovers_iff cleanSheet_sample computePd_sample

/-- The steps before the join, where all of them go through. -/
lemma joinInputs_eq_ok {env : PyEnv} {eadDf lgdDf : Frame} {pdTable : List PdTableRow}
    {dated : List DatedRow} {terms : List TermRow} (hcolumns : requireEadColumns eadDf lgdDf = .ok ())
    (hdated : withDates env (mergeLgd env eadDf lgdDf) = .ok dated)
    (hsome : (expandDated dated).isEmpty = false) (hterm : requireTermColumns eadDf = .ok ())
    (hterms : withTerms env (expandDated dated) = .ok terms)
    (hfloats : checkTermFloats env terms = .ok ())
    (hkeys : requirePdKeys eadDf terms pdTable = .ok ())
    (hmarginal : requireJoined eadDf "Marginal_PD" = .ok ()) :
    joinInputs env eadDf pdTable lgdDf = .ok terms := by
  rw [joinInputs, hcolumns]
  simp only [bind, Except.bind, hdated, hsome, Bool.false_eq_true, if_false, hterm, hterms,
    hfloats, hkeys, hmarginal, pure, Except.pure]

/-- The loan in Stage 3, first paid in the month of its reporting date. -/
def newlyPaidCell (name : String) : Cell :=
  if name = "First Payment Date" then .date (firstOf 24290) else defaultedCell name

def newlyPaidFrame : Frame := { sampleEadFrame with rows := [⟨0, newlyPaidCell⟩] }

lemma cleanSheet_newlyPaid : CleanSheet plainEnv plainRead newlyPaidFrame [] := by
  refine cleanSheet_plain (by decide) ?_ ⟨?_, ?_, ?_⟩
  · intro r hr
    obtain rfl := List.mem_singleton.mp hr
    decide
  · intro r hr
    obtain rfl := List.mem_singleton.mp hr
    exact ⟨"L", rfl, by decide⟩
  · intro r hr
    obtain rfl := List.mem_singleton.mp hr
    exact ⟨"Stage 3", rfl, by decide⟩
  · intro r hr
    obtain rfl := List.mem_singleton.mp hr
    exact ⟨"RETAIL", rfl, by decide⟩

def newlyPaidMerged : MergedRow :=
  { eadRow plainEnv newlyPaidFrame ⟨0, newlyPaidCell⟩ with eir := .num 0, collateral := .num 0 }

def newlyPaidDated : DatedRow :=
  { newlyPaidMerged with repDate := some (firstOf 24290), matDate := some (firstOf 24290) }

def newlyPaidTerm : TermRow :=
  { newlyPaidDated.snapshot 0 with
    reporting := some (firstOf 24290)
    firstPayment := some (firstOf 24290)
    adjustedMaturity := some (firstOf 24299) }

lemma joinInputs_newlyPaid :
    joinInputs plainEnv newlyPaidFrame (pdOutput plainEnv samplePdRows).table sampleLgdFrame
      = .ok [newlyPaidTerm] := by
  have hread : readEadRows plainEnv newlyPaidFrame
      = [eadRow plainEnv newlyPaidFrame ⟨0, newlyPaidCell⟩] := sortByKey_singleton _ _
  have hmerged : mergeLgd plainEnv newlyPaidFrame sampleLgdFrame = [newlyPaidMerged] := by
    rw [mergeLgd, joinLgd, hread]
    decide
  have hexpand : expandDated [newlyPaidDated] = [newlyPaidDated.snapshot 0] := by
    decide
  have hfloats : checkTermFloats plainEnv [newlyPaidTerm] = .ok () := by
    refine (checkFloats_ok fun t ht c hc => ?_).1
    obtain rfl := List.mem_singleton.mp ht
    simp only [List.mem_cons, List.not_mem_nil, or_false] at hc
    rcases hc with rfl | rfl | rfl <;> exact ⟨_, rfl⟩
  have hkeys : requirePdKeys newlyPaidFrame [newlyPaidTerm]
      (pdOutput plainEnv samplePdRows).table = .ok () :=
    requirePdKeys_of_texts (textColumn_singleton "RETAIL") (textColumn_singleton "Stage 3")
      segment_of_mem_table_sample
  refine @joinInputs_eq_ok plainEnv newlyPaidFrame sampleLgdFrame _ [newlyPaidDated] _ (by decide)
    ?_ ?_ (by decide) ?_ hfloats hkeys (by decide)
  · rw [hmerged]
    rfl
  · rw [hexpand]
    rfl
  · rw [hexpand]
    rfl

/-- **EC-08 for a segment that has PD**: the PD table has the segment of the loan, and its one
snapshot is of month zero, which the table does not have. -/
theorem pdJoinCovers_fails :
    CleanSheet plainEnv plainRead newlyPaidFrame [] ∧
      computePd plainEnv samplePdFrame = .ok (pdOutput plainEnv samplePdRows) ∧
      ¬ PdJoinCovers plainEnv newlyPaidFrame (pdOutput plainEnv samplePdRows).table
        sampleLgdFrame := by
  refine ⟨cleanSheet_newlyPaid, computePd_sample, fun hcovers => ?_⟩
  have hsegment : Cell.str "RETAIL" ∈ segmentsOf plainEnv (nextStaging samplePdRows) := by
    rw [segmentsOf_sample]
    exact List.mem_singleton_self _
  rcases (cleanSheet_newlyPaid.coverable hcovers).reached _ joinInputs_newlyPaid with
    ⟨r, hr, hlacks⟩ | hin
  · obtain rfl := List.mem_singleton.mp hr
    exact hlacks _ (mem_table.mpr ⟨_, hsegment, .stage3, 1, one_mem_pdMonths, rfl⟩) rfl
  · exact hin.paid ⟨0, newlyPaidCell⟩ (List.mem_singleton_self _) (by decide)

end EclServer.Runs
