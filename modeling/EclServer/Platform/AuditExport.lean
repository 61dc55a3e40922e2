import EclServer.Core
import EclServer.Library.Csv
import EclServer.Library.Paging

/-!
The audit log and its CSV export (`app/modules/audit/router.py`).

* `AuditLog`, `AuditFilters`: a row of the table and the filters of the endpoint.
* `auditLogCsvGenerator`: the pieces of the streamed export; `listAuditLogs`, `MayListAuditLogs`: a
  page of the JSON listing. The export and every page are queries of their own, and rows of one
  time stand in whatever order the database picks for each.
* `readCsv`: what a reader of the exported file sees. `readCsv_generator`: it sees one record for
  each piece; `readCsv_take`: wherever the stream breaks off, at most one of them is cut.
* `auditExport_faithful`: the file holds the newest selected rows, up to the limit, and the pages
  of the listing hold the same rows exactly where no boundary falls among rows of one time.
-/

namespace EclServer.Platform

open EclServer.Library

/-- A row of `audit_logs`; the details are a JSON object of type `δ`. -/
structure AuditLog (δ : Type) where
  id : String
  tenantId : Option String := none
  userId : Option String := none
  eventType : String
  status : String := "success"
  ipAddressHash : Option String := none
  details : Option δ := none
  errorCode : Option String := none
  createdAt : Time
  deriving DecidableEq, Repr

/-- `datetime.isoformat`, and of a JSON object whether it is empty and its `str`. -/
structure AuditEnv (δ : Type) where
  isoformat : Time → String
  isEmpty : δ → Bool
  str : δ → String

/-- The query parameters. -/
structure AuditFilters where
  tenantId : Option String := none
  userId : Option String := none
  eventType : Option String := none
  start : Option Time := none
  finish : Option Time := none
  deriving DecidableEq, Repr

/-- A text parameter selects by a column, unless it is absent or empty. -/
def textFilter (filter : Option String) (column : Option String) : Bool :=
  match filter with
  | none => true
  | some text => text = "" ∨ column = some text

/-- `_apply_audit_filters`, with the tenant filter of the generator. -/
def AuditFilters.selects {δ : Type} (f : AuditFilters) (row : AuditLog δ) : Bool :=
  textFilter f.tenantId row.tenantId ∧ textFilter f.userId row.userId
    ∧ textFilter f.eventType (some row.eventType) ∧ (∀ t ∈ f.start, t ≤ row.createdAt)
    ∧ (∀ t ∈ f.finish, row.createdAt ≤ t)

/-- The order key of `AuditLog.created_at.desc()`. -/
def newestFirst {δ : Type} (row : AuditLog δ) : Timeᵒᵈ := OrderDual.toDual row.createdAt

/-- The dialect of `csv.writer`. -/
def excelDialect : Csv.Dialect Char where
  comma := ','
  quote := '\x22'
  cr := '\r'
  lf := '\n'
  quote_ne_comma := by decide
  quote_ne_cr := by decide
  quote_ne_lf := by decide
  comma_ne_cr := by decide
  comma_ne_lf := by decide
  cr_ne_lf := by decide

/-- `csv.writer.writerow`. -/
def writerow (fields : List String) : String :=
  String.ofList (Csv.writeRecord excelDialect (fields.map String.toList))

def exportHeader : List String :=
  ["timestamp", "event_type", "status", "user_id", "ip_address_hash", "tenant_id", "details"]

/-- `str(row.details) if row.details else ""`. -/
def detailsText {δ : Type} (env : AuditEnv δ) (details : Option δ) : String :=
  match details with
  | none => ""
  | some d => if env.isEmpty d then "" else env.str d

/-- The cells of a row. -/
def exportRow {δ : Type} (env : AuditEnv δ) (row : AuditLog δ) : List String :=
  [env.isoformat row.createdAt, row.eventType, row.status, row.userId.getD "",
    row.ipAddressHash.getD "", row.tenantId.getD "", detailsText env row.details]

def exportLimit : ℕ := 50000

/-- The line behind an export that reached the limit. -/
def exportCapped : String :=
  "# Export capped at 50,000 rows. Use date filters to narrow the range.\n"

/-- `audit_log_csv_generator`: the pieces it yields, from the selected rows in the order the
query returns them. -/
def auditLogCsvGenerator {δ : Type} (env : AuditEnv δ) (rows : List (AuditLog δ)) :
    List String :=
  let result := rows.take exportLimit
  writerow exportHeader :: result.map (fun row => writerow (exportRow env row))
    ++ if exportLimit ≤ result.length then [exportCapped] else []

/-- `list_audit_logs` without an export: a page of the selected rows, in the order the query
returns them. -/
def listAuditLogs {δ : Type} (rows : List (AuditLog δ)) (page perPage : ℕ) :
    List (AuditLog δ) :=
  (rows.drop ((page - 1) * perPage)).take perPage

/-- **An answer to the request for a page**, with rows of one time in any order. -/
def MayListAuditLogs {δ : Type} (f : AuditFilters) (db : List (AuditLog δ)) (page perPage : ℕ)
    (answer : List (AuditLog δ)) : Prop :=
  ∃ order, IsOrder newestFirst (db.filter f.selects) order ∧
    answer = listAuditLogs order page perPage

/-! ### Reading the export -/

/-- The records of a CSV text. -/
def readCsv (text : String) : List (List String) :=
  (Csv.readRecords excelDialect text.toList).map fun fields => fields.map String.ofList

/-- What the line behind a capped export reads as: its comma is not quoted. -/
def cappedRecord : List String :=
  ["# Export capped at 50", "000 rows. Use date filters to narrow the range."]

/-- The records of an export, one for each piece. -/
def exportRecords {δ : Type} (env : AuditEnv δ) (rows : List (AuditLog δ)) :
    List (List String) :=
  exportHeader :: (rows.take exportLimit).map (exportRow env)
    ++ if exportLimit ≤ rows.length then [cappedRecord] else []

/-- The piece reads as the record, whatever was read before it. -/
def ReadsAs (piece : String) (record : List String) : Prop :=
  Csv.ReadsAs excelDialect piece.toList (record.map String.toList)

lemma readsAs_writerow (fields : List String) : ReadsAs (writerow fields) fields := by
  rw [ReadsAs, writerow, String.toList_ofList]
  exact Csv.readAll_writeRecord _

lemma readsAs_capped : ReadsAs exportCapped cappedRecord := by
  refine Csv.readAll_between ?_
  decide +kernel

lemma toList_join (pieces : List String) :
    (String.join pieces).toList = (pieces.map String.toList).flatten := by
  induction pieces with
  | nil => rfl
  | cons piece rest ih =>
      rw [String.join_cons, String.toList_append, ih, List.map_cons, List.flatten_cons]

lemma length_join (pieces : List String) :
    (String.join pieces).length = (pieces.map String.toList).flatten.length := by
  rw [← toList_join, String.length_toList]

/-- The records that a reader takes from pieces, as texts. -/
lemma map_ofList_toList (records : List (List String)) :
    (records.map fun record => record.map String.toList).map (fun fields =>
      fields.map String.ofList) = records := by
  rw [List.map_map]
  refine (List.map_congr_left fun record _ => ?_).trans (List.map_id records)
  simp [Function.comp_def]

section Pieces

variable {pieces : List String} {records : List (List String)}

lemma forall₂_toList (h : List.Forall₂ ReadsAs pieces records) :
    List.Forall₂ (Csv.ReadsAs excelDialect) (pieces.map String.toList)
      (records.map fun record => record.map String.toList) := by
  rw [List.forall₂_map_left_iff, List.forall₂_map_right_iff]
  exact h

/-- Pieces that each read as a record read as these records together. -/
lemma readCsv_join (h : List.Forall₂ ReadsAs pieces records) :
    readCsv (String.join pieces) = records := by
  rw [readCsv, toList_join, Csv.readRecords_flatten (forall₂_toList h), map_ofList_toList]

/-- Where the text breaks off after `k` characters, the records of the pieces that fit are read
whole, and at most one more is seen. -/
lemma readCsv_take (h : List.Forall₂ ReadsAs pieces records) (k : ℕ) :
    ∃ n cut, readCsv (String.ofList ((String.join pieces).toList.take k))
        = records.take n ++ cut ∧ cut.length ≤ 1 ∧
      (String.join (pieces.take n)).length ≤ k ∧
      (n < pieces.length → k < (String.join (pieces.take (n + 1))).length) := by
  obtain ⟨n, cut, hread, hcut, hshort, hlong⟩ := Csv.readRecords_take (forall₂_toList h) k
  refine ⟨n, cut.map fun fields => fields.map String.ofList, ?_, ?_, ?_, fun hlt => ?_⟩
  · rw [readCsv, String.toList_ofList, toList_join, hread, List.map_append, ← List.map_take,
      map_ofList_toList]
  · rw [List.length_map]
    exact hcut
  · rw [length_join, List.map_take]
    exact hshort
  · rw [length_join, List.map_take]
    exact hlong (by rwa [List.length_map])

end Pieces

lemma forall₂_export {δ : Type} (env : AuditEnv δ) (rows : List (AuditLog δ)) :
    List.Forall₂ ReadsAs (auditLogCsvGenerator env rows) (exportRecords env rows) := by
  have hrows : ∀ l : List (AuditLog δ), List.Forall₂ ReadsAs
      (l.map fun row => writerow (exportRow env row)) (l.map (exportRow env)) := by
    intro l
    induction l with
    | nil => exact List.Forall₂.nil
    | cons row rest ih => exact List.Forall₂.cons (readsAs_writerow _) ih
  have hcap : (exportLimit ≤ (rows.take exportLimit).length) = (exportLimit ≤ rows.length) := by
    rw [List.length_take]
    exact propext (by omega)
  rw [auditLogCsvGenerator, exportRecords]
  simp only [hcap]
  refine List.rel_append (List.Forall₂.cons (readsAs_writerow _) (hrows _)) ?_
  split
  · exact List.Forall₂.cons readsAs_capped List.Forall₂.nil
  · exact List.Forall₂.nil

/-- **The export reads back**: the first `n` pieces hold the first `n` records, each cell with the
text it had in the table, whatever commas, quotes and line breaks stand in it. -/
lemma readCsv_generator {δ : Type} (env : AuditEnv δ) (rows : List (AuditLog δ)) (n : ℕ) :
    readCsv (String.join ((auditLogCsvGenerator env rows).take n))
      = (exportRecords env rows).take n :=
  readCsv_join (List.forall₂_take n (forall₂_export env rows))

/-! ### What is exported -/

section Selection

variable {δ : Type} {f : AuditFilters} {db rows : List (AuditLog δ)}

lemma mem_of_order (h : IsOrder newestFirst (db.filter f.selects) rows) {row : AuditLog δ} :
    row ∈ rows ↔ row ∈ db ∧ f.selects row = true := by
  rw [h.perm.mem_iff, List.mem_filter]

/-- The limit leaves out no row that is newer than one it keeps. -/
lemma newest_of_order (h : IsOrder newestFirst (db.filter f.selects) rows) (n : ℕ)
    {row : AuditLog δ} (hrow : row ∈ rows) :
    row ∈ rows.take n ∨ ∀ shown ∈ rows.take n, row.createdAt ≤ shown.createdAt := by
  rw [← List.take_append_drop n rows, List.mem_append] at hrow
  rcases hrow with hkept | hleft
  · exact Or.inl hkept
  · right
    intro shown hshown
    have hsorted := h.sorted
    rw [← List.take_append_drop n rows, List.pairwise_append] at hsorted
    exact hsorted.2.2 shown hshown row hleft

/-- The pages of the listing, from orders of their own. -/
lemma mayListAuditLogs_iff {page perPage : ℕ} {answer : List (AuditLog δ)} :
    MayListAuditLogs f db (page + 1) perPage answer ↔
      ∃ order, IsOrder newestFirst (db.filter f.selects) order ∧
        answer = pageOf perPage order page := by
  simp only [MayListAuditLogs, listAuditLogs, pageOf, Nat.add_sub_cancel]

/-- **The first pages of the listing** hold the first rows of the export, in whatever orders the
database answers, exactly where none of their boundaries falls among rows of one time. -/
lemma pages_export_iff (hids : (db.map (·.id)).Nodup)
    (h : IsOrder newestFirst (db.filter f.selects) rows) {perPage m : ℕ} (hperPage : 0 < perPage) :
    (∀ pages : ℕ → List (AuditLog δ), (∀ p, MayListAuditLogs f db (p + 1) perPage (pages p)) →
        ((List.range m).flatMap pages).Perm (rows.take (m * perPage)))
      ↔ FrontTiesApart newestFirst perPage m (db.filter f.selects) := by
  rw [← frontPages_perm_iff h ((List.Nodup.of_map _ hids).filter _) hperPage]
  simp only [mayListAuditLogs_iff]
  constructor
  · intro hall orders horders
    exact hall _ fun p => ⟨orders p, horders p, rfl⟩
  · intro hall pages hpages
    choose orders horders hpages using hpages
    rw [funext hpages]
    exact hall orders horders

/-- **The audit export is faithful.** Whatever the cells hold, the file reads as the header, one
record for each exported row and, where the limit was reached, the line that says so; where the
stream breaks off inside a record, only this record is cut. The exported rows are the newest
selected ones, up to the limit. The first pages of the listing show the same rows as the front of
the export exactly where none of their boundaries falls among rows of one time. -/
theorem auditExport_faithful (env : AuditEnv δ) (hids : (db.map (·.id)).Nodup)
    (h : IsOrder newestFirst (db.filter f.selects) rows) :
    (∀ n, readCsv (String.join ((auditLogCsvGenerator env rows).take n))
        = (exportRecords env rows).take n) ∧
      (∀ k, ∃ n cut,
        readCsv (String.ofList ((String.join (auditLogCsvGenerator env rows)).toList.take k))
          = (exportRecords env rows).take n ++ cut ∧ cut.length ≤ 1 ∧
        (String.join ((auditLogCsvGenerator env rows).take n)).length ≤ k ∧
        (n < (auditLogCsvGenerator env rows).length →
          k < (String.join ((auditLogCsvGenerator env rows).take (n + 1))).length)) ∧
      (rows.take exportLimit).length = min exportLimit (db.countP f.selects) ∧
      (∀ row ∈ rows.take exportLimit, row ∈ db ∧ f.selects row = true) ∧
      (∀ row ∈ db, f.selects row = true → row ∈ rows.take exportLimit ∨
        ∀ shown ∈ rows.take exportLimit, row.createdAt ≤ shown.createdAt) ∧
      ∀ perPage m, 0 < perPage →
        ((∀ pages : ℕ → List (AuditLog δ),
            (∀ p, MayListAuditLogs f db (p + 1) perPage (pages p)) →
            ((List.range m).flatMap pages).Perm (rows.take (m * perPage)))
          ↔ FrontTiesApart newestFirst perPage m (db.filter f.selects)) := by
  refine ⟨readCsv_generator env rows, readCsv_take (forall₂_export env rows), ?_, ?_, ?_, ?_⟩
  · rw [List.length_take, h.perm.length_eq, ← List.countP_eq_length_filter]
  · intro row hrow
    exact (mem_of_order h).mp (List.mem_of_mem_take hrow)
  · intro row hrow hselected
    exact newest_of_order h exportLimit ((mem_of_order h).mpr ⟨hrow, hselected⟩)
  · intro perPage m hperPage
    exact pages_export_iff hids h hperPage

end Selection

/-! ### Two entries of one request -/

/-- A log of two entries of one time; the details of one hold every special symbol. -/
def sampleLog : List (AuditLog String) :=
  [{ id := "01A", eventType := "run.failed", details := some "a, \x22b\x22\r\nc", createdAt := 9 },
    { id := "01B", eventType := "auth.logout", userId := some "u1", createdAt := 9 }]

def sampleAuditEnv : AuditEnv String where
  isoformat _ := "2026-03-31T00:00:00+00:00"
  isEmpty text := text = ""
  str text := text

/-- One a page, the same entry may be shown on both pages. -/
theorem auditExport_faithful_sample :
    (∀ n, readCsv (String.join ((auditLogCsvGenerator sampleAuditEnv sampleLog).take n))
        = (exportRecords sampleAuditEnv sampleLog).take n) ∧
      ¬ ∀ pages : ℕ → List (AuditLog String),
        (∀ p, MayListAuditLogs {} sampleLog (p + 1) 1 (pages p)) →
        ((List.range 2).flatMap pages).Perm (sampleLog.take (2 * 1)) := by
  have h : IsOrder newestFirst (sampleLog.filter ({} : AuditFilters).selects) sampleLog :=
    ⟨by decide, by decide⟩
  have hexport := auditExport_faithful sampleAuditEnv (by decide) h
  refine ⟨hexport.1, ?_⟩
  rw [hexport.2.2.2.2.2 1 2 Nat.one_pos]
  intro hties
  -- the boundary behind the first page is between the two
  rcases hties (OrderDual.toDual 9) 1 one_le_two with hfront | hback
  · exact absurd hfront (by decide)
  · exact absurd hback (by decide)

end EclServer.Platform
