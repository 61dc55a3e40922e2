import EclServer.Engine.Accepted
import EclServer.Engine.LgdRows
import EclServer.Runs.StageResults
import EclServer.Runs.ValidationAgreement

/-!
Loan IDs in the combined sheets of a run.

* `combinedFrame`: what `_combine_excel_bytes` makes of the files of a kind.
* `ReportsNoBlock`, `sheetRules_of_reportsNoBlock`: where a validation answers without blocks,
  every sheet meets the rules of its kind.
* `LoanIdentity`: no two rows of a combined sheet are one loan to the stages.
* `loanIdentity_iff`: so it is exactly where the sheets of a kind share no Loan ID and none of
  them writes two Loan IDs alike. The checks look at one sheet, and at cells as they are.
-/

namespace EclServer.Runs

open EclServer.Library EclServer.Engine

/-! ### The combined sheets -/

/-- The sheets of the files of a kind. -/
def sheetsOf (kind : UploadKind) (loaded : List LoadedUpload) : List Frame :=
  (loaded.filter fun l => l.upload.kind = kind).flatMap fun l => l.sheets.map (·.2)

/-- `_combine_excel_bytes` of the files of a kind. -/
def combinedFrame (kind : UploadKind) (loaded : List LoadedUpload) : Frame :=
  concatFrames ((sheetsOf kind loaded).filter fun df => !df.isEmpty)

/-- The Loan IDs as the stages tell loans apart. -/
def loanTexts (env : PyEnv) (df : Frame) : List String :=
  (df.column "Loan ID").map (Cell.pyStr env)

lemma column_concatFrames {frames : List Frame} {name : String}
    (h : ∀ df ∈ frames, name ∈ df.columns) :
    (concatFrames frames).column name = frames.flatMap fun df => df.column name := by
  have hcells : ∀ df ∈ frames, (df.rows.map fun r name =>
        if name ∈ df.columns then r.cell name else Cell.blank).map (fun cell => cell name)
      = df.column name := by
    intro df hdf
    rw [List.map_map]
    refine List.map_congr_left fun r _ => ?_
    exact if_pos (h df hdf)
  rw [← List.flatMap_congr hcells, ← List.map_flatMap]
  refine List.ext_getElem (by simp [Frame.column, concatFrames]) fun i _ _ => ?_
  simp [Frame.column, concatFrames]

section

variable {env : ValidationEnv} {config : TenantConfig} {acceptedIds : List String}
  {loaded : List LoadedUpload}

/-! ### Validations without blocks -/

/-- `validate_files` answers, and its answer has no blocking issue. -/
def ReportsNoBlock (env : ValidationEnv) (config : TenantConfig) (acceptedIds : List String)
    (loaded : List LoadedUpload) : Prop :=
  ∃ checked, checkResults env config loaded = .ok checked ∧
    ∀ issue ∈ (validationOut env acceptedIds checked).issues, issue.level ≠ .block

lemma sheetRules_of_reportsNoBlock (h : ReportsNoBlock env config acceptedIds loaded)
    {l : LoadedUpload} (hl : l ∈ loaded) {sheet : String × Frame} (hsheet : sheet ∈ l.sheets) :
    SheetRules env config loaded l.upload.kind sheet.2 := by
  obtain ⟨checked, hcheck, hnone⟩ := h
  obtain ⟨f, hf, hfile⟩ := exists_mem_of_mapM_ok hcheck hl
  obtain ⟨results, hresults, hmade⟩ := bind_eq_ok.mp hfile
  obtain ⟨result, hresult, hok⟩ := exists_mem_of_mapM_ok hresults hsheet
  have hnoblock : ∀ issue ∈ fileIssues f, issue.level ≠ .block := by
    intro issue hissue
    have hfound : (⟨f.upload.kind, issue, some f.upload.id, some f.upload.originalFilename⟩ :
        TaggedValidationIssue) ∈ foundIssues env checked :=
      List.mem_append_left _ (List.mem_flatMap.mpr ⟨f, hf, List.mem_map_of_mem hissue⟩)
    exact hnone _ (List.mem_map_of_mem (mem_allIssues hfound))
  have hblocks := onlyBlocks_of_checkResults hcheck
  have hempty := (fileIssues_eq_nil_iff hblocks hf).mpr hnoblock
  obtain rfl := Except.ok.inj hmade
  refine (isValid_iff_sheetRules hok).mp ?_
  rw [ValidationResult.isValid, List.flatMap_eq_nil_iff.mp hempty result hresult]
  rfl

/-- The Loan IDs of an accepted LGD or EAD sheet are there, each in one cell. -/
lemma loanId_of_mem_sheetsOf (h : ReportsNoBlock env config acceptedIds loaded)
    {kind : UploadKind} (hkind : kind = .ead ∨ kind = .lgd) {df : Frame}
    (hdf : df ∈ sheetsOf kind loaded) :
    "Loan ID" ∈ df.columns ∧ (df.column "Loan ID").Nodup := by
  obtain ⟨l, hfile, hmem⟩ := List.mem_flatMap.mp hdf
  obtain ⟨hl, hkindOf⟩ := List.mem_filter.mp hfile
  obtain ⟨sheet, hsheet, rfl⟩ := List.mem_map.mp hmem
  have hrules := sheetRules_of_reportsNoBlock h hl hsheet
  rw [of_decide_eq_true hkindOf] at hrules
  rcases hkind with rfl | rfl
  · have hchecked := EadRules.toEadChecked hrules
    exact ⟨hchecked.columns _ (List.mem_append_left _ (by simp)), hchecked.loanId_nodup⟩
  · have hchecked : LgdChecked env.py sheet.2 (allowedCollateral config loaded) := hrules
    exact ⟨hchecked.columns _ (by simp), hchecked.loanId_nodup⟩

/-- The Loan IDs of the combined sheet are those of the sheets; one without rows has none. -/
lemma loanTexts_combinedFrame (h : ReportsNoBlock env config acceptedIds loaded)
    {kind : UploadKind} (hkind : kind = .ead ∨ kind = .lgd) :
    loanTexts env.py (combinedFrame kind loaded)
      = (sheetsOf kind loaded).flatMap (loanTexts env.py) := by
  have hcolumn := @column_concatFrames ((sheetsOf kind loaded).filter fun df => !df.isEmpty)
    "Loan ID" fun df hdf => (loanId_of_mem_sheetsOf h hkind (List.mem_of_mem_filter hdf)).1
  have hempty : ∀ df ∈ sheetsOf kind loaded, df.isEmpty = true → loanTexts env.py df = [] := by
    intro df hdf hnone
    have hmem := (loanId_of_mem_sheetsOf h hkind hdf).1
    rw [Frame.isEmpty, Bool.or_eq_true] at hnone
    rcases hnone with hrows | hcolumns
    · rw [loanTexts, Frame.column, List.isEmpty_iff.mp hrows]
      rfl
    · rw [List.isEmpty_iff.mp hcolumns] at hmem
      cases hmem
  rw [loanTexts, combinedFrame, hcolumn, List.map_flatMap]
  generalize sheetsOf kind loaded = sheets at hempty ⊢
  induction sheets with
  | nil => rfl
  | cons df dfs ih =>
      have htail := ih fun d hd => hempty d (List.mem_cons_of_mem df hd)
      rw [List.filter_cons, List.flatMap_cons]
      cases hdf : df.isEmpty with
      | true =>
          rw [hempty df List.mem_cons_self hdf, List.nil_append, ← htail]
          rfl
      | false =>
          rw [← htail]
          rfl

/-! ### One row for each loan -/

/-- No two sheets share a Loan ID, and no sheet writes two different cells alike. -/
structure SheetsApart (env : PyEnv) (sheets : List Frame) : Prop where
  across : sheets.Pairwise fun a b => (loanTexts env a).Disjoint (loanTexts env b)
  within : ∀ df ∈ sheets, ∀ c ∈ df.column "Loan ID", ∀ d ∈ df.column "Loan ID",
    c.pyStr env = d.pyStr env → c = d

/-- **Loan identity**: the Loan IDs of the combined sheets are distinct, a balance walk has the
snapshots of one row, and the unique constraint of `lgd_results` lets the LGD rows pass. -/
structure LoanIdentity (env : PyEnv) (loaded : List LoadedUpload) : Prop where
  ead_unique : (loanTexts env (combinedFrame .ead loaded)).Nodup
  lgd_unique : (loanTexts env (combinedFrame .lgd loaded)).Nodup
  walks : ∀ (pdTable : List PdTableRow) (lgdDf : Frame) (out : List EclRow)
    (run : EadRun env (combinedFrame .ead loaded) pdTable lgdDf out),
    ∀ t ∈ run.terms, ∀ t' ∈ run.terms, t.loanKey env = t'.loanKey env →
      t.toMergedRow = t'.toMergedRow
  constraint : ∀ (config : List CollateralConfig) (lgd : List LgdResult),
    lgdResultsOf env (combinedFrame .lgd loaded) config = .ok lgd →
      insertUnique "lgd_results_unique" LgdResult.loanId lgd = .ok lgd

/-- Snapshots of one loan are of one row, where the Loan IDs of the sheet are distinct. -/
lemma toMergedRow_eq_of_loanKey {py : PyEnv} {eadDf lgdDf : Frame} {pdTable : List PdTableRow}
    {out : List EclRow} (hnodup : (loanTexts py eadDf).Nodup)
    (run : EadRun py eadDf pdTable lgdDf out) {t t' : TermRow} (ht : t ∈ run.terms)
    (ht' : t' ∈ run.terms) (hkey : t.loanKey py = t'.loanKey py) :
    t.toMergedRow = t'.toMergedRow := by
  have hids : ((mergeLgd py eadDf lgdDf).map fun m => m.loanId.pyStr py).Nodup := by
    have hperm := (@map_loanId_mergeLgd py eadDf lgdDf).map (Cell.pyStr py)
    rw [List.map_map] at hperm
    exact hperm.nodup_iff.mpr hnodup
  exact List.inj_on_of_nodup_map hids (run.toMergedRow_mem ht) (run.toMergedRow_mem ht') hkey

lemma loanId_of_mapM_lgdRecord {py : PyEnv} {rows : List Record} {lgd : List LgdResult}
    (h : rows.mapM (lgdRecord py) = .ok lgd) :
    lgd.map LgdResult.loanId = rows.map fun r => (r.cell "Loan ID").pyStr py := by
  refine map_eq_of_mapM_ok h fun row r hr => ?_
  obtain ⟨_, _, hr⟩ := bind_eq_ok.mp hr
  obtain ⟨_, _, hr⟩ := bind_eq_ok.mp hr
  obtain ⟨_, _, hr⟩ := bind_eq_ok.mp hr
  obtain ⟨_, _, hr⟩ := bind_eq_ok.mp hr
  rw [← Except.ok.inj hr]

/-- The LGD rows of a sheet with distinct Loan IDs fit the constraint. -/
lemma insertUnique_lgdResults {py : PyEnv} {df : Frame} (hnodup : (loanTexts py df).Nodup)
    {config : List CollateralConfig} {lgd : List LgdResult}
    (h : lgdResultsOf py df config = .ok lgd) :
    insertUnique "lgd_results_unique" LgdResult.loanId lgd = .ok lgd := by
  obtain ⟨out, hout, hrows⟩ := bind_eq_ok.mp h
  have hperm := (perm_loanId_computeLgd hout).map (Cell.pyStr py)
  rw [List.map_map] at hperm
  rw [insertUnique, if_pos]
  rw [loanId_of_mapM_lgdRecord hrows]
  exact hperm.nodup_iff.mpr hnodup

/-- **Sheets apart make distinct Loan IDs**, and nothing else does. -/
lemma nodup_loanTexts_iff (h : ReportsNoBlock env config acceptedIds loaded)
    {kind : UploadKind} (hkind : kind = .ead ∨ kind = .lgd) :
    (loanTexts env.py (combinedFrame kind loaded)).Nodup
      ↔ SheetsApart env.py (sheetsOf kind loaded) := by
  rw [loanTexts_combinedFrame h hkind, List.nodup_flatMap]
  constructor
  · rintro ⟨hwithin, hacross⟩
    exact ⟨hacross, fun df hdf c hc d hd => List.inj_on_of_nodup_map (hwithin df hdf) hc hd⟩
  · rintro ⟨hacross, hwithin⟩
    refine ⟨fun df hdf => ?_, hacross⟩
    exact (loanId_of_mem_sheetsOf h hkind hdf).2.map_on (hwithin df hdf)

/-- **When loans keep their identity**: for uploads that `validate_files` accepts, exactly where the
sheets of each kind are apart. The validators look for repeated loans sheet by sheet and by cell,
the engines put the sheets of a kind together and go by text. -/
theorem loanIdentity_iff (h : ReportsNoBlock env config acceptedIds loaded) :
    LoanIdentity env.py loaded
      ↔ SheetsApart env.py (sheetsOf .ead loaded) ∧ SheetsApart env.py (sheetsOf .lgd loaded) := by
  rw [← nodup_loanTexts_iff h (Or.inl rfl), ← nodup_loanTexts_iff h (Or.inr rfl)]
  constructor
  · intro hidentity
    exact ⟨hidentity.ead_unique, hidentity.lgd_unique⟩
  · rintro ⟨head, hlgd⟩
    refine ⟨head, hlgd, fun _ _ _ run t ht t' ht' hkey => ?_, fun _ _ hrows => ?_⟩
    · exact toMergedRow_eq_of_loanKey head run ht ht' hkey
    · exact insertUnique_lgdResults hlgd hrows

/-- A validation of sheets that meet their rules answers without blocks where the cross-file
checks find none. -/
lemma reportsNoBlock_of_rules {lgd ead : LoadedUpload}
    (hlgd : lastOfKind .lgd loaded = some lgd) (head : lastOfKind .ead loaded = some ead)
    (hrules : ∀ l ∈ loaded, ∀ sheet ∈ l.sheets,
      SheetRules env config loaded l.upload.kind sheet.2)
    (hcross : ∀ issue ∈ crossIssues env loaded, issue.level ≠ .block) :
    ReportsNoBlock env config acceptedIds loaded := by
  obtain ⟨checked, hcheck, hnone⟩ := exists_checkResults_of_rules hrules
  have hblocks := onlyBlocks_of_checkResults hcheck
  rw [← loadedFiles_of_checkResults hcheck] at hlgd head hcross
  have hfiles : ∀ f ∈ checked, ∀ issue ∈ fileIssues f, issue.level ≠ .block := by
    intro f hf issue hissue
    rw [List.flatMap_eq_nil_iff.mp hnone f hf] at hissue
    cases hissue
  have hfound : ∀ tagged ∈ foundIssues env checked, tagged.issue.level ≠ .block :=
    (forall_foundIssues hlgd head (P := fun issue => issue.level ≠ .block)).mpr ⟨hfiles, hcross⟩
  refine ⟨checked, hcheck, fun issue hissue => ?_⟩
  obtain ⟨tagged, htagged, rfl⟩ := List.mem_map.mp hissue
  rw [allIssues_eq_foundIssues hblocks hlgd head hfound] at htagged
  exact hfound tagged htagged

end

/-! ### A loan in two sheets -/

/-- The files of `sampleLoaded`, with the EAD sheet twice in its workbook. -/
def twiceLoaded : List LoadedUpload :=
  List.zipWith LoadedUpload.mk sampleUploads
    [[("Data", samplePdFrame)], [("Data", uploadedLgdFrame)],
      [("Data", sampleEadFrame), ("More", sampleEadFrame)]]

lemma sheetRules_twice : ∀ l ∈ twiceLoaded, ∀ sheet ∈ l.sheets,
    SheetRules sampleValidationEnv {} twiceLoaded l.upload.kind sheet.2 := by
  have hsegments : ∀ df ∈ [samplePdFrame, sampleEadFrame], (df.column "SEGMENT").filter
      (notAllowed plainEnv ((allowedSegments sampleValidationEnv {} twiceLoaded).map pyStrip))
        = [] := by
    decide
  have hpd : (validatePd plainEnv samplePdFrame "Data" []).isValid = true := by decide
  have hlgd : (validateLgd plainEnv uploadedLgdFrame "Data"
      (allowedCollateral {} twiceLoaded)).isValid = true := by
    decide
  have head : (validateEad plainEnv sampleEadFrame "Data" []).isValid = true := by decide
  rw [← validatePd_of_configured (hsegments samplePdFrame (by simp))] at hpd
  rw [← validateEad_of_configured (hsegments sampleEadFrame (by simp))] at head
  intro l hl sheet hsheet
  simp only [twiceLoaded, sampleUploads, List.zipWith_cons_cons, List.zipWith_nil_right,
    List.mem_cons, List.not_mem_nil, or_false] at hl
  rcases hl with rfl | rfl | rfl
  · obtain rfl := List.mem_singleton.mp hsheet
    exact isValid_iff_pdChecked.mp hpd
  · obtain rfl := List.mem_singleton.mp hsheet
    exact isValid_iff_lgdChecked.mp hlgd
  · simp only [List.mem_cons, List.not_mem_nil, or_false] at hsheet
    rcases hsheet with rfl | rfl <;> exact isValid_iff_eadRules.mp head

lemma reportsNoBlock_twice : ReportsNoBlock sampleValidationEnv {} [] twiceLoaded := by
  refine reportsNoBlock_of_rules rfl rfl sheetRules_twice ?_
  change ∀ issue ∈ validateCrossFiles plainEnv (crossFileData twiceLoaded
    ⟨sampleUpload "u2" .lgd "lgd.xlsx" 2, [("Data", uploadedLgdFrame)]⟩
    ⟨sampleUpload "u3" .ead "ead.xlsx" 3, [("Data", sampleEadFrame), ("More", sampleEadFrame)]⟩),
    issue.level ≠ .block
  rw [noBlock_validateCrossFiles_iff]
  exact ⟨by decide, by decide⟩

/-- **Two sheets with one loan** pass the validation, and the loan is twice in the combined
sheet. -/
theorem loanIdentity_fails :
    ReportsNoBlock sampleValidationEnv {} [] twiceLoaded ∧ ¬ LoanIdentity plainEnv twiceLoaded := by
  refine ⟨reportsNoBlock_twice, fun h => ?_⟩
  have htexts : loanTexts plainEnv (combinedFrame .ead twiceLoaded) = ["L", "L"] := rfl
  have hnodup := h.ead_unique
  rw [htexts] at hnodup
  exact absurd hnodup (by decide)

/-- The two sheets are not apart. -/
theorem loanIdentity_iff_sample :
    LoanIdentity plainEnv twiceLoaded
      ↔ SheetsApart plainEnv (sheetsOf .ead twiceLoaded) ∧
        SheetsApart plainEnv (sheetsOf .lgd twiceLoaded) :=
  loanIdentity_iff reportsNoBlock_twice

end EclServer.Runs
