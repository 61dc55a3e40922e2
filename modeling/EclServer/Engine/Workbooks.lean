import EclServer.Engine.EadRows
import EclServer.Engine.PdTable
import EclServer.Library.Dictionary

/-!
The workbook of the PD calculations (`_matrix_to_dict` of `app/engine/pd_engine.py`, and
`_write_metadata`, `_write_dataframe`, `_matrix_rows` and `_build_pd_calcs_workbook` of
`app/engine/excel_writer.py`).

* `PdCalcs`, `buildPdCalcsWorkbook`: its five sheets.
* `replay`: what a reader recomputes from the sheet of the monthly matrices alone.
* `readMatrix_monthly_iff`: the sheet of the months adds up to the aggregate matrix exactly where
  what was written over, a month of the same day, moved nothing.
* `pdCalcs_replay_iff`: when the workbook can be recomputed from its first sheet.
-/

namespace EclServer.Engine

open EclServer.Library

/-! ### Sheets -/

/-- What heads every sheet. -/
structure RunMeta where
  runId : String
  tenantId : String
  timestampUtc : String
  engineVersion : String
  inputHashes : String

/-- The first two rows, `METADATA_LABELS` and their values. -/
def RunMeta.rows (runMeta : RunMeta) : List (String × String) :=
  [("Run ID", runMeta.runId), ("Tenant ID", runMeta.tenantId),
    ("Timestamp UTC", runMeta.timestampUtc), ("Engine Version", runMeta.engineVersion),
    ("Input Hashes", runMeta.inputHashes)]

/-- A sheet: the metadata, and from its fourth row on the columns and rows of a table. -/
structure Sheet (ρ : Type) where
  title : String
  metadata : List (String × String)
  columns : List String
  rows : List ρ

/-- A row of `_matrix_rows`, with the month where months are included. -/
structure MatrixRow where
  segment : Cell
  month : Option Timestamp := none
  fromStage : LoanStage
  toStage1 : ℚ
  toStage2 : ℚ
  toStage3 : ℚ
  deriving DecidableEq

/-- The value under a stage. -/
def MatrixRow.toStage (r : MatrixRow) : LoanStage → ℚ
  | .stage1 => r.toStage1
  | .stage2 => r.toStage2
  | .stage3 => r.toStage3

/-- The day that `strftime("%Y-%m-%d")` writes. -/
def monthKey (t : Timestamp) : Timestamp := { t with time := 0 }

/-- The rows of one matrix, `_matrix_to_dict` with its segment and month. -/
def rowsOfMatrix (segment : Cell) (month : Option Timestamp) (m : StageMatrix) : List MatrixRow :=
  LoanStage.all.map fun fromStage =>
    { segment := segment, month := month, fromStage := fromStage
      toStage1 := m fromStage .stage1
      toStage2 := m fromStage .stage2
      toStage3 := m fromStage .stage3 }

/-- `monthly_matrices[segment]`: a matrix stands under the day of its month. -/
def monthlyDict (monthly : List (Timestamp × StageMatrix)) : List (Timestamp × StageMatrix) :=
  (dictItems (fun p => monthKey p.1) monthly).map fun p => (monthKey p.1, p.2)

/-- `_matrix_rows` with months. -/
def monthlyMatrixRows (monthly : List (Cell × List (Timestamp × StageMatrix))) : List MatrixRow :=
  (sortByKey (·.1.key) monthly).flatMap fun s =>
    (sortByKey (·.1) (monthlyDict s.2)).flatMap fun p => rowsOfMatrix s.1 (some p.1) p.2

/-- `_matrix_rows` without. -/
def matrixRows (matrices : List (Cell × StageMatrix)) : List MatrixRow :=
  (sortByKey (·.1.key) matrices).flatMap fun p => rowsOfMatrix p.1 none p.2

/-- A sheet of matrices; a frame without rows has no columns. -/
def matrixSheet (title : String) (metadata : List (String × String)) (columns : List String)
    (rows : List MatrixRow) : Sheet MatrixRow where
  title := title
  metadata := metadata
  columns := if rows = [] then [] else columns
  rows := rows

def toStageColumns : List String := ["To Stage 1", "To Stage 2", "To Stage 3"]

/-- The workbook `PD Calcs.xlsx`. -/
structure PdCalcs where
  monthlyTransition : Sheet MatrixRow
  transition : Sheet MatrixRow
  proportionMatrices : Sheet MatrixRow
  normalized : Sheet MatrixRow
  marginalPd : Sheet PdTableRow

/-- The sheets of some months, matrices and a table. -/
def calcsSheets (metadata : List (String × String)) (monthly : List MatrixRow)
    (segments : List SegmentMatrices) (table : List PdTableRow) : PdCalcs where
  monthlyTransition := matrixSheet "Monthly Transition" metadata
    ("Segment" :: "Month" :: "From Stage" :: toStageColumns) monthly
  transition := matrixSheet "Transition" metadata ("Segment" :: "From Stage" :: toStageColumns)
    (matrixRows (segments.map fun s => (s.segment, s.aggregate)))
  proportionMatrices := matrixSheet "Proportion Matrices" metadata
    ("Segment" :: "From Stage" :: toStageColumns)
    (matrixRows (segments.map fun s => (s.segment, s.proportions)))
  normalized := matrixSheet "Normalized" metadata ("Segment" :: "From Stage" :: toStageColumns)
    (matrixRows (segments.map fun s => (s.segment, s.normalized)))
  marginalPd :=
    { title := "Marginal PD"
      metadata := metadata
      columns := ["Segment", "Month", "Transition", "Stage 1 Prob", "Stage 2 Prob", "Stage 3 Prob",
        "Marginal PD", "Cure Rate"]
      rows := table }

/-- `_build_pd_calcs_workbook`: the segments are sorted as they are, not by their texts. -/
def buildPdCalcsWorkbook (runMeta : RunMeta) (out : PdOutput) : Except String PdCalcs :=
  if Cell.comparable (out.intermediates.map (·.segment)) then
    .ok (calcsSheets runMeta.rows
      (monthlyMatrixRows (out.intermediates.map fun s => (s.segment, s.monthly)))
      out.intermediates out.table)
  else .error "TypeError: values are not ordered"

/-! ### The workbook from its first sheet -/

/-- The rows from each stage, added up. -/
def readMatrix (rows : List MatrixRow) : StageMatrix := fun i j =>
  ((rows.filter (·.fromStage = i)).map (·.toStage j)).sum

/-- What follows from an aggregate matrix. -/
def SegmentMatrices.ofAggregate (segment : Cell) (aggregate : StageMatrix) : SegmentMatrices where
  segment := segment
  monthly := []
  aggregate := aggregate
  proportions := rowProportions aggregate
  normalized := normalizeMatrix (rowProportions aggregate)

/-- The matrix that the rows of a segment add up to. -/
def readAggregate (rows : List MatrixRow) (segment : Cell) : StageMatrix :=
  readMatrix (groupBy MatrixRow.segment rows segment)

/-- What a reader recomputes from the sheet of the monthly matrices. -/
def replay (sheet : Sheet MatrixRow) : PdCalcs :=
  let segments := (groupKeys MatrixRow.segment sheet.rows).map fun segment =>
    SegmentMatrices.ofAggregate segment (readAggregate sheet.rows segment)
  calcsSheets sheet.metadata sheet.rows segments
    (pdTable (fun segment => cureRate (rowProportions (readAggregate sheet.rows segment))) segments)

/-! ### Reading a matrix -/

section Reading

variable {segment : Cell} {month : Option Timestamp} {m : StageMatrix}

lemma segment_of_mem_rowsOfMatrix {r : MatrixRow} (h : r ∈ rowsOfMatrix segment month m) :
    r.segment = segment := by
  obtain ⟨stage, -, rfl⟩ := List.mem_map.mp h
  rfl

lemma rowsOfMatrix_ne_nil : rowsOfMatrix segment month m ≠ [] := by
  rw [rowsOfMatrix, LoanStage.all]
  exact List.cons_ne_nil _ _

/-- What was written is read. -/
lemma readMatrix_rowsOfMatrix : readMatrix (rowsOfMatrix segment month m) = m := by
  ext i j
  cases i <;> cases j <;> simp [readMatrix, rowsOfMatrix, LoanStage.all, MatrixRow.toStage]

lemma readMatrix_flatMap {α : Type} (g : α → List MatrixRow) (l : List α) (i j : LoanStage) :
    readMatrix (l.flatMap g) i j = (l.map fun a => readMatrix (g a) i j).sum := by
  induction l with
  | nil => rfl
  | cons a as ih =>
      rw [List.flatMap_cons, List.map_cons, List.sum_cons, ← ih, readMatrix, List.filter_append,
        List.map_append, List.sum_append]
      rfl

lemma sum_matrices_apply (ms : List (Timestamp × StageMatrix)) (i j : LoanStage) :
    (ms.map (·.2)).sum i j = (ms.map fun p => p.2 i j).sum := by
  induction ms with
  | nil => rfl
  | cons m ms ih =>
      rw [List.map_cons, List.sum_cons, Matrix.add_apply, ih, List.map_cons, List.sum_cons]

end Reading

/-! ### The months of a segment -/

section Months

variable {segment : Cell} {monthly : List (Timestamp × StageMatrix)}

/-- The rows of the months of a segment. -/
def monthRows (segment : Cell) (monthly : List (Timestamp × StageMatrix)) : List MatrixRow :=
  (sortByKey (·.1) (monthlyDict monthly)).flatMap fun p => rowsOfMatrix segment (some p.1) p.2

lemma segment_of_mem_monthRows {r : MatrixRow} (h : r ∈ monthRows segment monthly) :
    r.segment = segment := by
  obtain ⟨p, -, hp⟩ := List.mem_flatMap.mp h
  exact segment_of_mem_rowsOfMatrix hp

lemma monthRows_ne_nil (h : monthly ≠ []) : monthRows segment monthly ≠ [] := by
  obtain ⟨p, hp⟩ := List.exists_mem_of_ne_nil _ h
  have hkey : monthKey p.1 ∈ (dictItems (fun p => monthKey p.1) monthly).map
      fun p => monthKey p.1 := by
    rw [map_key_dictItems]
    exact (mem_groupKeys _).mpr ⟨p, hp, rfl⟩
  obtain ⟨q, hq, -⟩ := List.mem_map.mp hkey
  obtain ⟨r, hr⟩ := List.exists_mem_of_ne_nil _
    (@rowsOfMatrix_ne_nil segment (some (monthKey q.1)) q.2)
  refine List.ne_nil_of_mem (List.mem_flatMap.mpr ⟨(monthKey q.1, q.2), ?_, hr⟩)
  exact (mem_sortByKey _).mpr (List.mem_map.mpr ⟨q, hq, rfl⟩)

/-- The rows of a segment add up to what the dictionary holds. -/
lemma readMatrix_monthRows (i j : LoanStage) :
    readMatrix (monthRows segment monthly) i j
      = ((dictItems (fun p => monthKey p.1) monthly).map fun p => p.2 i j).sum := by
  rw [monthRows, readMatrix_flatMap]
  simp only [readMatrix_rowsOfMatrix]
  rw [((sortByKey_perm (·.1) (monthlyDict monthly)).map fun p => p.2 i j).sum_eq, monthlyDict,
    List.map_map]
  rfl

/-- **The sheet of the months** adds up to the aggregate matrix exactly where what was written
over, a month of the same day, moved nothing. -/
lemma readMatrix_monthly_iff (hordered : monthly.Pairwise fun p q => p.1 < q.1)
    (hnonneg : ∀ p ∈ monthly, ∀ i j, 0 ≤ p.2 i j) :
    readMatrix (monthRows segment monthly) = (monthly.map (·.2)).sum ↔
      ∀ p ∈ monthly, (∃ q ∈ monthly, p.1 < q.1 ∧ monthKey q.1 = monthKey p.1) → p.2 = 0 := by
  have hentry : ∀ i j, readMatrix (monthRows segment monthly) i j = (monthly.map (·.2)).sum i j ↔
      ∀ k ∈ groupKeys (fun p => monthKey p.1) monthly,
        ∀ p ∈ writtenOver (fun p => monthKey p.1) monthly k, p.2 i j = 0 := by
    intro i j
    rw [readMatrix_monthRows, sum_matrices_apply]
    exact sum_dictItems_iff fun p hp => hnonneg p hp i j
  have hover : ∀ {k p}, p ∈ writtenOver (fun p => monthKey p.1) monthly k ↔ p ∈ monthly ∧
      monthKey p.1 = k ∧ ∃ q ∈ monthly, monthKey q.1 = k ∧ p.1 < q.1 :=
    mem_writtenOver_iff (fun _ _ h => not_lt.mpr h.le) hordered
  constructor
  · rintro heq p hp ⟨q, hq, hlater, hsame⟩
    ext i j
    have hzero := (hentry i j).mp (congrFun (congrFun heq i) j)
    exact hzero _ ((mem_groupKeys _).mpr ⟨p, hp, rfl⟩) p (hover.mpr ⟨hp, rfl, q, hq, hsame, hlater⟩)
  · intro hzero
    ext i j
    refine (hentry i j).mpr fun k _ p hp => ?_
    obtain ⟨hmem, rfl, q, hq, hsame, hlater⟩ := hover.mp hp
    rw [hzero p hmem ⟨q, hq, hlater, hsame⟩]
    rfl

/-- The months of a segment are in order. -/
lemma pairwise_monthlyMatrices (env : PyEnv) (ts : List PdTransition) :
    (monthlyMatrices env ts).Pairwise fun p q => p.1 < q.1 := by
  rw [monthlyMatrices, List.pairwise_map]
  have hnodup : (reportingMonths ts).Nodup := by
    refine (sortByKey_perm id _).nodup_iff.mpr ?_
    simpa using nodup_map_dropDuplicates id (ts.filterMap (·.row.reportingMonth))
  exact (sortByKey_sorted id _).imp₂ (fun _ _ hle hne => lt_of_le_of_ne hle hne) hnodup

lemma monthlyMatrices_ne_nil {env : PyEnv} {ts : List PdTransition} {t : PdTransition} (ht : t ∈ ts)
    (hdated : t.row.reportingMonth ≠ none) : monthlyMatrices env ts ≠ [] := by
  obtain ⟨month, hmonth⟩ := Option.ne_none_iff_exists'.mp hdated
  have hmem : month ∈ reportingMonths ts :=
    (mem_sortByKey id).mpr (mem_dropDuplicates_id.mpr (List.mem_filterMap.mpr ⟨t, ht, hmonth⟩))
  exact List.ne_nil_of_mem (List.mem_map_of_mem hmem)

end Months

/-! ### Sheets and tables whatever the order of the segments -/

section Order

variable {l r : List (Cell × StageMatrix)} {segments segments' : List SegmentMatrices}
  {cureRates cureRates' : Cell → ℚ}

lemma matrixRows_perm (h : l.Perm r) (hcells : (l.map (·.1)).Nodup) :
    matrixRows l = matrixRows r := by
  have hkeys : (l.map (·.1.key)).Nodup := by
    have hmap : l.map (·.1.key) = (l.map (·.1)).map Cell.key := by rw [List.map_map]; rfl
    rw [hmap]
    exact hcells.map Cell.key_injective
  rw [matrixRows, sortByKey_eq_of_nodup _ h hkeys, matrixRows]

/-- A sheet holds the matrix of each segment. -/
lemma readAggregate_matrixRows (hcells : (l.map (·.1)).Nodup) {p : Cell × StageMatrix}
    (hp : p ∈ l) : readAggregate (matrixRows l) p.1 = p.2 := by
  have hsorted : ((sortByKey (·.1.key) l).map (·.1)).Nodup :=
    ((sortByKey_perm _ l).map _).nodup_iff.mpr hcells
  rw [readAggregate, matrixRows, groupBy, filter_flatMap_of_key MatrixRow.segment (·.1) hsorted
    (fun _ _ _ hr => segment_of_mem_rowsOfMatrix hr) ((mem_sortByKey _).mpr hp),
    readMatrix_rowsOfMatrix]

lemma nodup_all : LoanStage.all.Nodup := by decide

/-- The rows of the table have distinct keys. -/
lemma nodup_sortKey_probRows (hcells : (segments.map (·.segment)).Nodup) :
    ((probRows segments).map ProbRow.sortKey).Nodup := by
  rw [probRows, List.map_flatMap]
  refine nodup_flatMap_of_key (·.segment.key) (fun k => (ofLex k).1) ?_ ?_ fun s _ => ?_
  · have hmap : segments.map (·.segment.key) = (segments.map (·.segment)).map Cell.key := by
      rw [List.map_map]
      rfl
    rw [hmap]
    exact hcells.map Cell.key_injective
  · intro s _ k hk
    obtain ⟨row, hrow, rfl⟩ := List.mem_map.mp hk
    obtain ⟨month, -, hrow⟩ := List.mem_flatMap.mp hrow
    obtain ⟨stage, -, rfl⟩ := List.mem_map.mp hrow
    rfl
  · rw [List.map_flatMap]
    refine nodup_flatMap_of_key id (fun k => (ofLex (ofLex k).2).2) ?_ ?_ fun month _ => ?_
    · rw [List.map_id]
      exact List.nodup_range'
    · intro month _ k hk
      obtain ⟨row, hrow, rfl⟩ := List.mem_map.mp hk
      obtain ⟨stage, -, rfl⟩ := List.mem_map.mp hrow
      rfl
    · rw [List.map_map]
      refine List.Nodup.map (fun a b hab => LoanStage.text_injective ?_) nodup_all
      exact congrArg (fun k => (ofLex (ofLex k).2).1) hab

/-- The table does not depend on the order of the segments, and takes the cure rates of these. -/
lemma pdTable_eq (hrows : (probRows segments').Perm (probRows segments))
    (hcells : (segments.map (·.segment)).Nodup)
    (hrates : ∀ s ∈ segments, cureRates' s.segment = cureRates s.segment) :
    pdTable cureRates' segments' = pdTable cureRates segments := by
  have hkeys := nodup_sortKey_probRows hcells
  have hsorted := sortByKey_eq_of_nodup ProbRow.sortKey hrows.symm hkeys
  rw [pdTable, ← hsorted, pdTable, byGroup, byGroup]
  refine List.flatMap_congr fun k _ => ?_
  rw [withMarginalPd, withMarginalPd, ← List.map_uncurry_zip_eq_zipWith,
    ← List.map_uncurry_zip_eq_zipWith]
  refine List.map_congr_left fun row hrow => ?_
  have hmem : row.1 ∈ probRows segments :=
    (mem_sortByKey _).mp ((mem_groupBy _).mp (List.of_mem_zip hrow).1).1
  obtain ⟨s, hs, hfrom⟩ := List.mem_flatMap.mp hmem
  obtain ⟨month, -, hfrom⟩ := List.mem_flatMap.mp hfrom
  obtain ⟨stage, -, hfrom⟩ := List.mem_map.mp hfrom
  have hsegment : row.1.segment = s.segment := by rw [← hfrom]; rfl
  rw [Function.uncurry, Function.uncurry, hsegment, hrates s hs]

end Order

/-! ### Recomputing the workbook -/

/-- What `compute_pd` hands over: each segment once, its months in order and without negative
amounts, and the matrices and the table that follow from them. -/
structure PdOutputShape (out : PdOutput) : Prop where
  segments : (out.intermediates.map (·.segment)).Nodup
  ordered : ∀ s ∈ out.intermediates, s.monthly.Pairwise fun p q => p.1 < q.1
  nonempty : ∀ s ∈ out.intermediates, s.monthly ≠ []
  nonneg : ∀ s ∈ out.intermediates, ∀ p ∈ s.monthly, ∀ i j, 0 ≤ p.2 i j
  aggregate : ∀ s ∈ out.intermediates, s.aggregate = (s.monthly.map (·.2)).sum
  proportions : ∀ s ∈ out.intermediates, s.proportions = rowProportions s.aggregate
  normalized : ∀ s ∈ out.intermediates, s.normalized = normalizeMatrix s.proportions
  table : ∃ cureRates, out.table = pdTable cureRates out.intermediates ∧
    ∀ s ∈ out.intermediates, cureRates s.segment = cureRate s.proportions

section Replay

variable {env : PyEnv} {df : Frame} {out : PdOutput} {runMeta : RunMeta} {book : PdCalcs}

lemma pdOutputShape_of_computePd (h : computePd env df = .ok out)
    (hamounts : NonnegAmounts env (df.column "Loan Amount")) :
    PdOutputShape out := by
  obtain ⟨rows, hread, hcheck, rfl⟩ := readPdRows_of_computePd h
  have hnonneg := amountsNonneg_nextStaging (loanAmount_nonneg hread hamounts)
  have hcells : (((segmentsOf env (nextStaging rows)).map
      (segmentMatrices env (nextStaging rows))).map (·.segment))
        = segmentsOf env (nextStaging rows) := by
    rw [List.map_map]
    exact List.map_id _
  have hsegment : ∀ {P : SegmentMatrices → Prop},
      (∀ c ∈ segmentsOf env (nextStaging rows), P (segmentMatrices env (nextStaging rows) c)) →
      ∀ s ∈ (pdOutput env rows).intermediates, P s := by
    intro P hP s hs
    obtain ⟨c, hc, rfl⟩ := List.mem_map.mp hs
    exact hP c hc
  refine ⟨hcells.symm ▸ nodup_segmentsOf env _, hsegment fun c _ => pairwise_monthlyMatrices env _,
    hsegment fun c hc => ?_, hsegment fun c _ p hp => ?_, hsegment fun c _ => rfl,
    hsegment fun c _ => rfl, hsegment fun c _ => rfl, _, rfl, hsegment fun c _ => rfl⟩
  · obtain ⟨hmem, hblank⟩ := List.mem_filter.mp
      (mem_dropDuplicates_id.mp ((mem_sortByKey (Cell.pyStr env)).mp hc))
    obtain ⟨t, ht, rfl⟩ := List.mem_map.mp hmem
    have hdeduped : t.row ∈ dedupeRows rows := by
      obtain ⟨⟨row, next⟩, hrow, rfl⟩ := List.mem_map.mp ht
      exact ((mem_leftJoin isNextOf).mp hrow).1
    have hsome : t.row.segment ≠ .blank := by simpa [Cell.isNa] using hblank
    exact monthlyMatrices_ne_nil (List.mem_filter.mpr ⟨ht, decide_eq_true rfl⟩)
      ((checkPdRows_ok hcheck).1 _ hdeduped hsome)
  · obtain ⟨month, -, rfl⟩ := List.mem_map.mp hp
    exact fun i j => buildMonthlyMatrix_nonneg ((hnonneg.filter _).filter _) i j

/-- The rows of the first sheet, segment by segment. -/
lemma monthlyMatrixRows_eq (segments : List SegmentMatrices) :
    monthlyMatrixRows (segments.map fun s => (s.segment, s.monthly))
      = (sortByKey (·.segment.key) segments).flatMap fun s => monthRows s.segment s.monthly := by
  rw [monthlyMatrixRows, sortByKey_map, List.flatMap_map]
  rfl

variable (hshape : PdOutputShape out)

include hshape

lemma nodup_sorted_segments :
    ((sortByKey (·.segment.key) out.intermediates).map (·.segment)).Nodup :=
  ((sortByKey_perm _ _).map _).nodup_iff.mpr hshape.segments

lemma groupKeys_monthlyMatrixRows :
    groupKeys MatrixRow.segment
        (monthlyMatrixRows (out.intermediates.map fun s => (s.segment, s.monthly)))
      = (sortByKey (·.segment.key) out.intermediates).map (·.segment) := by
  rw [monthlyMatrixRows_eq]
  exact groupKeys_flatMap_of_key (nodup_sorted_segments hshape)
    (fun _ _ _ hr => segment_of_mem_monthRows hr)
    fun s hs => monthRows_ne_nil (hshape.nonempty s ((mem_sortByKey _).mp hs))

lemma readAggregate_monthlyMatrixRows {s : SegmentMatrices} (hs : s ∈ out.intermediates) :
    readAggregate (monthlyMatrixRows (out.intermediates.map fun s => (s.segment, s.monthly)))
        s.segment = readMatrix (monthRows s.segment s.monthly) := by
  rw [readAggregate, monthlyMatrixRows_eq, groupBy, filter_flatMap_of_key MatrixRow.segment
    (·.segment) (nodup_sorted_segments hshape) (fun _ _ _ hr => segment_of_mem_monthRows hr)
    ((mem_sortByKey _).mpr hs)]

/-- The segments that a reader recomputes are those of the run, where the matrices it reads are. -/
lemma replay_eq (hread : ∀ s ∈ out.intermediates,
      readMatrix (monthRows s.segment s.monthly) = s.aggregate)
    (hbuild : buildPdCalcsWorkbook runMeta out = .ok book) :
    replay book.monthlyTransition = book := by
  rw [buildPdCalcsWorkbook] at hbuild
  split at hbuild
  swap
  · cases hbuild
  obtain rfl := Except.ok.inj hbuild
  set rows := monthlyMatrixRows (out.intermediates.map fun s => (s.segment, s.monthly)) with hrows
  set sorted := sortByKey (·.segment.key) out.intermediates with hsorted
  -- the reader finds the aggregates, and all else is computed of these
  have hmatrix : ∀ s ∈ out.intermediates, readAggregate rows s.segment = s.aggregate :=
    fun s hs => (readAggregate_monthlyMatrixRows hshape hs).trans (hread s hs)
  have hsegments : ((groupKeys MatrixRow.segment rows).map fun c =>
      SegmentMatrices.ofAggregate c (readAggregate rows c))
        = sorted.map fun s => { s with monthly := [] } := by
    rw [groupKeys_monthlyMatrixRows hshape, List.map_map]
    refine List.map_congr_left fun s hs => ?_
    have hs : s ∈ out.intermediates := (mem_sortByKey _).mp hs
    rw [Function.comp_apply, hmatrix s hs, SegmentMatrices.ofAggregate, hshape.normalized s hs,
      hshape.proportions s hs]
  have hsheet : ∀ f : SegmentMatrices → StageMatrix, (∀ s, f { s with monthly := [] } = f s) →
      matrixRows ((sorted.map fun s => { s with monthly := [] }).map fun s => (s.segment, f s))
        = matrixRows (out.intermediates.map fun s => (s.segment, f s)) := by
    intro f hf
    have hsame : (sorted.map fun s => { s with monthly := [] }).map (fun s => (s.segment, f s))
        = sorted.map fun s => (s.segment, f s) := by
      rw [List.map_map]
      exact List.map_congr_left fun s _ => congrArg (Prod.mk s.segment) (hf s)
    rw [hsame]
    refine matrixRows_perm ((sortByKey_perm _ _).map _) ?_
    rw [List.map_map]
    exact nodup_sorted_segments hshape
  have htable : pdTable (fun c => cureRate (rowProportions (readAggregate rows c)))
      (sorted.map fun s => { s with monthly := [] }) = out.table := by
    obtain ⟨cureRates, htable, hrates⟩ := hshape.table
    rw [htable]
    refine pdTable_eq ?_ hshape.segments fun s hs => ?_
    · have hprobs : probRows (sorted.map fun s => { s with monthly := [] }) = probRows sorted := by
        rw [probRows, List.flatMap_map, probRows]
      rw [hprobs]
      exact (sortByKey_perm _ _).flatMap_right _
    · rw [hmatrix s hs, hrates s hs, hshape.proportions s hs]
  have hreplay : replay (calcsSheets runMeta.rows rows out.intermediates out.table).monthlyTransition
      = calcsSheets runMeta.rows rows (sorted.map fun s => { s with monthly := [] }) out.table := by
    rw [← htable, ← hsegments]
    rfl
  rw [hreplay, calcsSheets, calcsSheets, hsheet _ fun _ => rfl, hsheet _ fun _ => rfl,
    hsheet _ fun _ => rfl]

/-- A reader who recomputes the transitions has read the matrices. -/
lemma readMatrix_of_replay (hbuild : buildPdCalcsWorkbook runMeta out = .ok book)
    (hreplay : replay book.monthlyTransition = book) {s : SegmentMatrices}
    (hs : s ∈ out.intermediates) : readMatrix (monthRows s.segment s.monthly) = s.aggregate := by
  rw [buildPdCalcsWorkbook] at hbuild
  split at hbuild
  swap
  · cases hbuild
  obtain rfl := Except.ok.inj hbuild
  set rows := monthlyMatrixRows (out.intermediates.map fun s => (s.segment, s.monthly)) with hrows
  have hkeys := groupKeys_monthlyMatrixRows hshape
  have htransition : matrixRows ((groupKeys MatrixRow.segment rows).map fun c =>
        (c, readAggregate rows c))
      = matrixRows (out.intermediates.map fun s => (s.segment, s.aggregate)) := by
    have hsheets : matrixRows (((groupKeys MatrixRow.segment rows).map fun c =>
        SegmentMatrices.ofAggregate c (readAggregate rows c)).map fun s => (s.segment, s.aggregate))
          = matrixRows (out.intermediates.map fun s => (s.segment, s.aggregate)) :=
      congrArg (fun b => b.transition.rows) hreplay
    rw [← hsheets, List.map_map]
    rfl
  have hread : readAggregate (matrixRows ((groupKeys MatrixRow.segment rows).map fun c =>
      (c, readAggregate rows c))) s.segment = readAggregate rows s.segment := by
    refine readAggregate_matrixRows (p := (s.segment, readAggregate rows s.segment)) ?_ ?_
    · rw [List.map_map]
      exact (List.map_id _).symm ▸ nodup_groupKeys _ _
    · refine List.mem_map.mpr ⟨s.segment, ?_, rfl⟩
      rw [hkeys]
      exact List.mem_map_of_mem ((mem_sortByKey _).mpr hs)
  have hstored : readAggregate (matrixRows (out.intermediates.map fun s =>
      (s.segment, s.aggregate))) s.segment = s.aggregate := by
    refine readAggregate_matrixRows (p := (s.segment, s.aggregate)) ?_ (List.mem_map.mpr ⟨s, hs, rfl⟩)
    rw [List.map_map]
    exact hshape.segments
  rw [← readAggregate_monthlyMatrixRows hshape hs, ← hread, htransition, hstored]

omit hshape in
/-- **The workbook from its first sheet**: the monthly matrices determine the other four sheets
exactly where no month of a segment that moved amounts was written over by a later one of the same
day. -/
theorem pdCalcs_replay_iff (h : computePd env df = .ok out)
    (hamounts : NonnegAmounts env (df.column "Loan Amount"))
    (hbuild : buildPdCalcsWorkbook runMeta out = .ok book) :
    replay book.monthlyTransition = book ↔
      ∀ s ∈ out.intermediates, ∀ p ∈ s.monthly,
        (∃ q ∈ s.monthly, p.1 < q.1 ∧ monthKey q.1 = monthKey p.1) → p.2 = 0 := by
  have hshape := pdOutputShape_of_computePd h hamounts
  have hmonths : ∀ s ∈ out.intermediates,
      (readMatrix (monthRows s.segment s.monthly) = s.aggregate ↔ ∀ p ∈ s.monthly,
        (∃ q ∈ s.monthly, p.1 < q.1 ∧ monthKey q.1 = monthKey p.1) → p.2 = 0) := by
    intro s hs
    rw [hshape.aggregate s hs]
    exact readMatrix_monthly_iff (hshape.ordered s hs) (hshape.nonneg s hs)
  constructor
  · exact fun hreplay s hs => (hmonths s hs).mp (readMatrix_of_replay hshape hbuild hreplay hs)
  · exact fun hkept => replay_eq hshape (fun s hs => (hmonths s hs).mpr (hkept s hs)) hbuild

end Replay

def sampleMeta : RunMeta := ⟨"run1", "t1", "2024-01-31T00:00:00Z", "1.0.0", "hashes"⟩

/-- The sheet with two loans has one instant a month. -/
theorem pdCalcs_replay_iff_sample :
    ∃ book, buildPdCalcsWorkbook sampleMeta (pdOutput plainEnv samplePdRows) = .ok book ∧
      replay book.monthlyTransition = book := by
  have hcells : Cell.comparable ((pdOutput plainEnv samplePdRows).intermediates.map (·.segment))
      = true := by
    change Cell.comparable (((segmentsOf plainEnv (nextStaging samplePdRows)).map _).map _) = true
    rw [segmentsOf_sample]
    rfl
  refine ⟨_, if_pos hcells, ?_⟩
  rw [pdCalcs_replay_iff computePd_sample samplePdFrame_amounts (if_pos hcells)]
  rintro s hs p hp ⟨q, hq, hlater, hsame⟩
  obtain ⟨c, -, rfl⟩ := List.mem_map.mp hs
  have hday : ∀ p ∈ (segmentMatrices plainEnv (nextStaging samplePdRows) c).monthly,
      monthKey p.1 = p.1 := by
    intro p hp
    obtain ⟨month, hmonth, rfl⟩ := List.mem_map.mp hp
    obtain ⟨t, ht, hrow⟩ := List.mem_filterMap.mp
      (mem_dropDuplicates_id.mp ((mem_sortByKey id).mp hmonth))
    have hmem := row_mem_of_mem_nextStaging (List.mem_of_mem_filter ht)
    simp only [samplePdRows, List.mem_cons, List.not_mem_nil, or_false] at hmem
    rcases hmem with h | h | h | h <;> rw [h] at hrow <;> obtain rfl := Option.some.inj hrow <;> rfl
  rw [hday p hp, hday q hq] at hsame
  exact absurd hsame.symm (ne_of_lt hlater)

end EclServer.Engine
