import EclServer.Engine.NextMonth
import EclServer.Runs.LoanIdentity

/-!
The PD engine does not see in which order the rows of its files come, nor in which file.

* `combineExcelBytes`: the combined sheet of the files of a kind.
* `SplitOf`: sheets and files that hold given rows, in any order.
* `readPdRows_eq`: reading the sheet row by row, where each date can be read by itself.
* `pdOutput_perm`: rows with distinct keys give the same output in every order.
* `computePd_splitOf`: and so do two splits of the same rows.
-/

namespace EclServer.Runs

open EclServer.Library EclServer.Engine

/-! ### Files and sheets -/

/-- `_combine_excel_bytes`, of the sheets of each file. -/
def combineExcelBytes (files : List (List Frame)) : Frame :=
  concatFrames (files.flatten.filter fun df => !df.isEmpty)

/-- The stages combine the files of a kind with it. -/
lemma combinedFrame_eq (kind : UploadKind) (loaded : List LoadedUpload) :
    combinedFrame kind loaded = combineExcelBytes
      ((loaded.filter fun l => l.upload.kind = kind).map fun l => l.sheets.map (·.2)) := by
  rw [combinedFrame, combineExcelBytes, sheetsOf, List.flatMap_def]

/-- The rows of a sheet, by the names of its columns. -/
def sheetRows (df : Frame) : List (String → Cell) :=
  df.rows.map fun r name => if name ∈ df.columns then r.cell name else .blank

/-- Sheets that hold the rows under the names of the columns, none of them empty. -/
structure SplitOf (columns : List String) (rows : List (String → Cell))
    (files : List (List Frame)) : Prop where
  header : ∀ df ∈ files.flatten, ∀ name, name ∈ df.columns ↔ name ∈ columns
  nonempty : ∀ df ∈ files.flatten, df.isEmpty = false
  rows : (files.flatten.flatMap sheetRows).Perm rows

/-- The column of the reporting months under these names. -/
def reportingColumn (columns : List String) : String :=
  resolveReportingMonthColumn { columns := columns, rows := [] }

section Splits

variable {columns : List String} {rows : List (String → Cell)} {files files' : List (List Frame)}

lemma SplitOf.combine_eq (h : SplitOf columns rows files) :
    combineExcelBytes files = concatFrames files.flatten := by
  rw [combineExcelBytes, List.filter_eq_self.mpr]
  intro df hdf
  rw [h.nonempty df hdf]
  rfl

/-- The cells of a combined sheet are those of its sheets. -/
lemma map_cell_concatFrames (frames : List Frame) :
    (concatFrames frames).rows.map (·.cell) = frames.flatMap sheetRows := by
  refine List.ext_getElem (by simp [concatFrames, sheetRows]) fun i _ _ => ?_
  simp [concatFrames]
  rfl

lemma SplitOf.cells_perm (h : SplitOf columns rows files) :
    ((combineExcelBytes files).rows.map (·.cell)).Perm rows := by
  rw [h.combine_eq, map_cell_concatFrames]
  exact h.rows

/-- Where there are rows, the combined sheet has the columns. -/
lemma SplitOf.mem_columns (h : SplitOf columns rows files) (hrows : rows ≠ []) {name : String} :
    name ∈ (combineExcelBytes files).columns ↔ name ∈ columns := by
  rw [h.combine_eq]
  change name ∈ dropDuplicates id (files.flatten.flatMap (·.columns)) ↔ _
  rw [mem_dropDuplicates_id, List.mem_flatMap]
  constructor
  · rintro ⟨df, hdf, hname⟩
    exact (h.header df hdf name).mp hname
  · intro hname
    have hsome : files.flatten ≠ [] := by
      intro hnil
      have hperm := h.rows
      rw [hnil] at hperm
      exact hrows (List.nil_perm.mp hperm)
    obtain ⟨df, hdf⟩ := List.exists_mem_of_ne_nil _ hsome
    exact ⟨df, hdf, (h.header df hdf name).mpr hname⟩

/-- Without rows there are no sheets. -/
lemma SplitOf.combine_nil (h : SplitOf columns [] files) :
    combineExcelBytes files = concatFrames [] := by
  rw [h.combine_eq]
  cases hfiles : files.flatten with
  | nil => rfl
  | cons df dfs =>
      have hmem : df ∈ files.flatten := by rw [hfiles]; exact List.mem_cons_self
      have hnone := List.perm_nil.mp h.rows
      rw [hfiles, List.flatMap_cons, List.append_eq_nil_iff] at hnone
      have hsome := h.nonempty df hmem
      rw [Frame.isEmpty, List.map_eq_nil_iff.mp hnone.1] at hsome
      cases hsome

end Splits

/-! ### Reading row by row -/

/-- A row of the sheet as `compute_pd` reads it, where its date is read by itself. -/
def readPdRow (read : Cell → Option Timestamp) (reportingCol : String) (cell : String → Cell) :
    PdRow where
  loanId := cell "Loan ID"
  reportingMonth := read (cell reportingCol)
  staging := cell "Staging"
  segment := cell "SEGMENT"
  loanAmount := cell "Loan Amount"

/-- The reporting months stand for dates of their own: `pd.to_datetime` reads a cell alike in
whatever order the column comes. -/
def ReadsMonths (env : PyEnv) (read : Cell → Option Timestamp) (months : List Cell) : Prop :=
  ∀ cells : List Cell, cells.Perm months → env.toDatetime cells = .ok (cells.map read)

section Reading

variable {env : PyEnv} {read : Cell → Option Timestamp} {df df' : Frame}

/-- **The rows of a sheet** are read one by one. -/
lemma readPdRows_eq {reportingCol : String} (hcol : resolveReportingMonthColumn df = reportingCol)
    (hmonths : env.toDatetime (df.column reportingCol) = .ok ((df.column reportingCol).map read)) :
    readPdRows env df = (do
      df.requireColumns [reportingCol, "Loan ID", "Staging", "SEGMENT", "Loan Amount"]
      return (df.rows.map (·.cell)).map (readPdRow read reportingCol)) := by
  rw [readPdRows, hcol, hmonths]
  cases df.requireColumns [reportingCol, "Loan ID", "Staging", "SEGMENT", "Loan Amount"] with
  | error e => rfl
  | ok _ =>
      rw [Frame.column, List.map_map, List.map_map]
      refine congrArg Except.ok ?_
      rw [List.zipWith_map_right, List.zipWith_self]
      rfl

/-- Two sheets with the same columns lack the same ones. -/
lemma requireColumns_congr (hcolumns : ∀ name, name ∈ df.columns ↔ name ∈ df'.columns)
    (names : List String) : df.requireColumns names = df'.requireColumns names := by
  have hfind : (names.find? fun name => name ∉ df.columns)
      = names.find? fun name => name ∉ df'.columns := by
    congr 1
    funext name
    simp only [hcolumns name]
  rw [Frame.requireColumns, Frame.requireColumns, hfind]

lemma resolveReportingMonthColumn_congr
    (hcolumns : ∀ name, name ∈ df.columns ↔ name ∈ df'.columns) :
    resolveReportingMonthColumn df = resolveReportingMonthColumn df' := by
  have hfind : df.resolveColumn? reportingMonthAliases
      = df'.resolveColumn? reportingMonthAliases := by
    rw [Frame.resolveColumn?, Frame.resolveColumn?]
    congr 1
    funext name
    simp only [hcolumns name]
  rw [resolveReportingMonthColumn, resolveReportingMonthColumn, hfind]

/-- **Two orders of the rows** are read alike, or refused alike. -/
lemma readPdRows_perm {reportingCol : String} {rows : List (String → Cell)}
    (hcolumns : ∀ name, name ∈ df.columns ↔ name ∈ df'.columns)
    (hcol : resolveReportingMonthColumn df = reportingCol)
    (hread : ReadsMonths env read (rows.map fun cell => cell reportingCol))
    (hdf : (df.rows.map (·.cell)).Perm rows) (hdf' : (df'.rows.map (·.cell)).Perm rows) :
    (∃ out out', readPdRows env df = .ok out ∧ readPdRows env df' = .ok out' ∧ out.Perm out' ∧
      (rows.map fun cell => (cell "Loan ID", read (cell reportingCol))).Perm (out.map PdRow.key)) ∨
      ∃ e, readPdRows env df = .error e ∧ readPdRows env df' = .error e := by
  have hmonths : ∀ d : Frame, (d.rows.map (·.cell)).Perm rows →
      env.toDatetime (d.column reportingCol) = .ok ((d.column reportingCol).map read) := by
    intro d hd
    refine hread _ ?_
    have hcells := hd.map fun cell => cell reportingCol
    rwa [List.map_map] at hcells
  have hcol' : resolveReportingMonthColumn df' = reportingCol := by
    rw [← resolveReportingMonthColumn_congr hcolumns, hcol]
  rw [readPdRows_eq hcol (hmonths df hdf), readPdRows_eq hcol' (hmonths df' hdf'),
    ← requireColumns_congr hcolumns]
  cases df.requireColumns [reportingCol, "Loan ID", "Staging", "SEGMENT", "Loan Amount"] with
  | error e => exact Or.inr ⟨e, rfl, rfl⟩
  | ok _ =>
      refine Or.inl ⟨_, _, rfl, rfl, (hdf.trans hdf'.symm).map _, ?_⟩
      rw [List.map_map]
      exact (hdf.map _).symm

end Reading

/-! ### Orders of the rows -/

section Orders

variable {env : PyEnv} {rows rows' : List PdRow}

lemma sortKey_injective {a b : PdRow} (h : a.sortKey = b.sortKey) : a.key = b.key := by
  rw [PdRow.sortKey, PdRow.sortKey, toLex_inj] at h
  obtain ⟨hloan, hmonth⟩ := Prod.mk.inj h
  exact Prod.ext (Cell.key_injective hloan) hmonth

/-- Rows with distinct keys come out of the first step in one order. -/
lemma dedupeRows_perm (h : rows.Perm rows') (hkeys : (rows.map PdRow.key).Nodup) :
    dedupeRows rows = dedupeRows rows' := by
  have hkeys' : (rows'.map PdRow.key).Nodup := (h.map _).nodup_iff.mp hkeys
  have hsort : (rows.map PdRow.sortKey).Nodup := by
    rw [List.nodup_map_iff_inj_on hkeys.of_map]
    intro a ha b hb hab
    exact List.inj_on_of_nodup_map hkeys ha hb (sortKey_injective hab)
  rw [dedupeRows, dedupeRows, dropDuplicates_of_nodup _ hkeys, dropDuplicates_of_nodup _ hkeys']
  exact sortByKey_eq_of_nodup _ h hsort

/-- **The output does not depend on the order** of rows with distinct keys. -/
lemma pdOutput_perm (h : rows.Perm rows') (hkeys : (rows.map PdRow.key).Nodup) :
    pdOutput env rows = pdOutput env rows' := by
  have hnext : nextStaging rows = nextStaging rows' := by
    rw [nextStaging, nextStaging, dedupeRows_perm h hkeys]
  rw [pdOutput, pdOutput, hnext]

lemma sortable_perm {cells cells' : List Cell} (h : cells.Perm cells') :
    Cell.sortable cells = Cell.sortable cells' := by
  rw [Cell.sortable, Cell.sortable, h.any_eq, h.any_eq]

lemma checkPdRows_perm (h : rows.Perm rows') (hkeys : (rows.map PdRow.key).Nodup) :
    checkPdRows env rows = checkPdRows env rows' := by
  have hnext : nextStaging rows = nextStaging rows' := by
    rw [nextStaging, nextStaging, dedupeRows_perm h hkeys]
  rw [checkPdRows, checkPdRows, sortable_perm (h.map _), sortable_perm (h.map _),
    dedupeRows_perm h hkeys, hnext]

end Orders

/-- **Order and file independence**: two splits of PD rows with distinct loans and months give
the same table, cure rates and intermediate matrices. -/
theorem computePd_splitOf {env : PyEnv} {read : Cell → Option Timestamp} {columns : List String}
    {rows : List (String → Cell)} {files files' : List (List Frame)}
    (hread : ReadsMonths env read (rows.map fun cell => cell (reportingColumn columns)))
    (hunique : (rows.map fun cell =>
      (cell "Loan ID", read (cell (reportingColumn columns)))).Nodup)
    (hfiles : SplitOf columns rows files) (hfiles' : SplitOf columns rows files') :
    computePd env (combineExcelBytes files) = computePd env (combineExcelBytes files') := by
  by_cases hrows : rows = []
  · subst hrows
    rw [hfiles.combine_nil, hfiles'.combine_nil]
  have hcolumns : ∀ name, name ∈ (combineExcelBytes files).columns
      ↔ name ∈ (combineExcelBytes files').columns := by
    intro name
    rw [hfiles.mem_columns hrows, hfiles'.mem_columns hrows]
  have hcol : resolveReportingMonthColumn (combineExcelBytes files) = reportingColumn columns :=
    resolveReportingMonthColumn_congr fun name => hfiles.mem_columns hrows
  rcases readPdRows_perm hcolumns hcol hread hfiles.cells_perm hfiles'.cells_perm with
    ⟨out, out', hout, hout', hperm, hkeys⟩ | ⟨e, he, he'⟩
  · have hnodup : (out.map PdRow.key).Nodup := hkeys.nodup_iff.mp hunique
    rw [computePd, computePd, hout, hout']
    change (checkPdRows env out >>= fun _ => .ok (pdOutput env out))
      = (checkPdRows env out' >>= fun _ => .ok (pdOutput env out'))
    rw [checkPdRows_perm hperm hnodup, pdOutput_perm hperm hnodup]
  · rw [computePd, computePd, he, he']

/-- The two loans in one file, and in two files the other way round. -/
theorem computePd_splitOf_sample :
    computePd plainEnv (combineExcelBytes [[samplePdFrame]])
      = computePd plainEnv (combineExcelBytes
          [[{ samplePdFrame with rows := (samplePdFrame.rows.drop 2).reverse }],
            [{ samplePdFrame with rows := (samplePdFrame.rows.take 2).reverse }]]) := by
  refine @computePd_splitOf plainEnv
    (fun c => (plainEnv.coerceDatetime [c]).head?.join) samplePdFrame.columns
    (sheetRows samplePdFrame) _ _ (fun _ _ => rfl) (by decide) ⟨?_, ?_, ?_⟩ ⟨?_, ?_, ?_⟩
  · simp
  · simp [samplePdFrame, Frame.isEmpty]
  · exact List.Perm.of_eq (List.append_nil _)
  · simp
  · simp [samplePdFrame, Frame.isEmpty]
  · exact List.reverse_perm (sheetRows samplePdFrame)

end EclServer.Runs
