import Mathlib.Tactic

/-!
Records of delimited text, written with minimal quoting and read back.

* `Dialect`: the four special symbols of an alphabet.
* `writeField`, `writeRecord`: a field is quoted where it holds a special symbol, and the quotes
  in it are doubled; a record ends with a line break.
* `Reader`, `readSymbol`, `readRecords`: the reader is a machine that takes one symbol after the
  other.
* `ReadsAs`: a piece of text that reads as a record. `readAll_writeRecord`: so does a written
  record, whatever its fields hold. `readAll_between`: a piece can be read on its own.
* `readRecords_flatten`: the pieces of a text are read one by one. `readRecords_take`: where the
  text breaks off, the pieces before are read whole, and at most one more record is seen.
-/

namespace EclServer.Library.Csv

variable {α : Type*} [DecidableEq α]

/-- The special symbols. -/
structure Dialect (α : Type*) where
  comma : α
  quote : α
  cr : α
  lf : α
  quote_ne_comma : quote ≠ comma
  quote_ne_cr : quote ≠ cr
  quote_ne_lf : quote ≠ lf
  comma_ne_cr : comma ≠ cr
  comma_ne_lf : comma ≠ lf
  cr_ne_lf : cr ≠ lf

variable (d : Dialect α)

/-! ### Writing -/

/-- The symbols that a field is quoted for. -/
def Dialect.isSpecial (c : α) : Prop := c = d.comma ∨ c = d.quote ∨ c = d.cr ∨ c = d.lf

instance (c : α) : Decidable (d.isSpecial c) :=
  inferInstanceAs (Decidable (c = d.comma ∨ c = d.quote ∨ c = d.cr ∨ c = d.lf))

/-- The text of a field with its quotes doubled. -/
def doubled (field : List α) : List α :=
  field.flatMap fun c => if c = d.quote then [d.quote, d.quote] else [c]

def quoted (field : List α) : List α := d.quote :: (doubled d field ++ [d.quote])

def writeField (field : List α) : List α :=
  if ∃ c ∈ field, d.isSpecial c then quoted d field else field

/-- The fields of a record with a comma between each two. -/
def writeFields : List (List α) → List α
  | [] => []
  | [field] => writeField d field
  | field :: rest => writeField d field ++ d.comma :: writeFields rest

/-- A record and its line break; a single empty field is quoted, or the line would be blank. -/
def writeRecord (fields : List (List α)) : List α :=
  (if fields = [[]] then quoted d [] else writeFields d fields) ++ [d.cr, d.lf]

/-! ### Reading -/

/-- Where the reader stands: at the start of a record, behind a carriage return that ended one,
at the start of a field, in a plain field, in a quoted one, or behind a quote in it. -/
inductive Mode where
  | atRecord | afterCr | atField | plain | inQuotes | afterQuote
  deriving DecidableEq, Repr

structure Reader (α : Type*) where
  mode : Mode := .atRecord
  field : List α := []
  fields : List (List α) := []
  records : List (List (List α)) := []
  deriving DecidableEq

/-- A symbol outside quotes. -/
def readPlain (r : Reader α) (c : α) : Reader α :=
  if c = d.comma then { r with mode := .atField, field := [], fields := r.fields ++ [r.field] }
  else if c = d.cr then
    { mode := .afterCr, records := r.records ++ [r.fields ++ [r.field]] }
  else if c = d.lf then
    { mode := .atRecord, records := r.records ++ [r.fields ++ [r.field]] }
  else { r with mode := .plain, field := r.field ++ [c] }

/-- The first symbol of a field. -/
def readFieldStart (r : Reader α) (c : α) : Reader α :=
  if c = d.quote then { r with mode := .inQuotes } else readPlain d r c

/-- The first symbol of a record; a blank line is a record without fields. -/
def readRecordStart (r : Reader α) (c : α) : Reader α :=
  if c = d.cr then { mode := .afterCr, records := r.records ++ [[]] }
  else if c = d.lf then { mode := .atRecord, records := r.records ++ [[]] }
  else readFieldStart d r c

def readSymbol (r : Reader α) (c : α) : Reader α :=
  match r.mode with
  | .atRecord => readRecordStart d r c
  | .afterCr => if c = d.lf then { r with mode := .atRecord } else readRecordStart d r c
  | .atField => readFieldStart d r c
  | .plain => readPlain d r c
  | .inQuotes =>
      if c = d.quote then { r with mode := .afterQuote } else { r with field := r.field ++ [c] }
  | .afterQuote =>
      if c = d.quote then { r with mode := .inQuotes, field := r.field ++ [c] }
      else readPlain d r c

def readAll (r : Reader α) (text : List α) : Reader α := text.foldl (readSymbol d) r

/-- The records at the end of the text, a last one without its line break included. -/
def Reader.finish (r : Reader α) : List (List (List α)) :=
  if r.mode = .atRecord ∨ r.mode = .afterCr then r.records
  else r.records ++ [r.fields ++ [r.field]]

def readRecords (text : List α) : List (List (List α)) := (readAll d {} text).finish

/-- The reader between two records. -/
def Reader.between (records : List (List (List α))) : Reader α := { records := records }

/-- The reader at the start of a field behind the first `fields` of a record. -/
def Reader.startsField (r : Reader α) : Prop :=
  r.field = [] ∧ (r.mode = .atField ∨ r.mode = .atRecord ∧ r.fields = [])

variable {d}

@[simp] lemma readAll_nil (r : Reader α) : readAll d r [] = r := rfl

@[simp] lemma readAll_cons (r : Reader α) (c : α) (text : List α) :
    readAll d r (c :: text) = readAll d (readSymbol d r c) text := rfl

lemma readAll_append (r : Reader α) (text rest : List α) :
    readAll d r (text ++ rest) = readAll d (readAll d r text) rest := by
  simp [readAll]

/-! ### One symbol -/

lemma readPlain_of_not_special {r : Reader α} {c : α} (hc : ¬ d.isSpecial c) :
    readPlain d r c = { r with mode := .plain, field := r.field ++ [c] } := by
  unfold Dialect.isSpecial at hc
  push Not at hc
  obtain ⟨hcomma, -, hcr, hlf⟩ := hc
  rw [readPlain, if_neg hcomma, if_neg hcr, if_neg hlf]

lemma readPlain_comma (r : Reader α) : readPlain d r d.comma
    = { r with mode := .atField, field := [], fields := r.fields ++ [r.field] } := by
  rw [readPlain, if_pos rfl]

/-- A line break outside quotes ends the record. -/
lemma readAll_lineBreak {r : Reader α}
    (hr : ∀ c, c ≠ d.quote → c ≠ d.lf → readSymbol d r c = readPlain d r c) :
    readAll d r [d.cr, d.lf] = .between (r.records ++ [r.fields ++ [r.field]]) := by
  have hcr : readSymbol d r d.cr
      = { mode := .afterCr, records := r.records ++ [r.fields ++ [r.field]] } := by
    rw [hr _ d.quote_ne_cr.symm d.cr_ne_lf, readPlain, if_neg d.comma_ne_cr.symm, if_pos rfl]
  rw [readAll_cons, hcr, readAll_cons, readSymbol]
  simp [Reader.between]

/-! ### Fields -/

/-- Symbols that are not special are read as they stand. -/
lemma readAll_plain (field : List α) (hfield : ∀ c ∈ field, ¬ d.isSpecial c) {r : Reader α}
    (hr : r.mode = .plain) :
    readAll d r field = { r with field := r.field ++ field } := by
  induction field generalizing r with
  | nil => simp
  | cons c rest ih =>
      have hc : ¬ d.isSpecial c := hfield c List.mem_cons_self
      have hstep : readSymbol d r c = { r with mode := .plain, field := r.field ++ [c] } := by
        rw [readSymbol, hr]
        exact readPlain_of_not_special hc
      rw [readAll_cons, hstep, ih (fun b hb => hfield b (List.mem_cons_of_mem c hb)) rfl]
      simp [hr]

/-- Inside quotes the doubled quotes are undone. -/
lemma readAll_doubled (field : List α) {r : Reader α} (hr : r.mode = .inQuotes) :
    readAll d r (doubled d field) = { r with field := r.field ++ field } := by
  induction field generalizing r with
  | nil => simp [doubled]
  | cons c rest ih =>
      have hsplit : doubled d (c :: rest)
          = (if c = d.quote then [d.quote, d.quote] else [c]) ++ doubled d rest := rfl
      have hstep : readAll d r (if c = d.quote then [d.quote, d.quote] else [c])
          = { r with field := r.field ++ [c] } := by
        by_cases hc : c = d.quote
        · simp [hc, readSymbol, hr]
        · simp [hc, readSymbol, hr]
      rw [hsplit, readAll_append, hstep, ih (by simpa using hr)]
      simp

lemma readSymbol_quote {r : Reader α} (hr : r.startsField) :
    readSymbol d r d.quote = { r with mode := .inQuotes } := by
  have hstart : readFieldStart d r d.quote = { r with mode := .inQuotes } := by
    rw [readFieldStart, if_pos rfl]
  obtain ⟨-, hmode | ⟨hmode, -⟩⟩ := hr
  · rw [readSymbol, hmode]
    exact hstart
  · rw [readSymbol, hmode]
    simp only [readRecordStart, if_neg d.quote_ne_cr, if_neg d.quote_ne_lf]
    exact hstart

/-- Behind a field the reader holds its text, and takes a comma or a line break as its end. -/
structure HoldsField (d : Dialect α) (r : Reader α) (fields : List (List α)) (field : List α)
    (records : List (List (List α))) : Prop where
  field : r.field = field
  fields : r.fields = fields
  records : r.records = records
  ends : ∀ c, c ≠ d.quote → c ≠ d.lf → readSymbol d r c = readPlain d r c

lemma holdsField_quoted {r : Reader α} (hr : r.startsField) (field : List α) :
    HoldsField d (readAll d r (quoted d field)) r.fields field r.records := by
  have hinside : readAll d r (d.quote :: doubled d field)
      = { r with mode := .inQuotes, field := field } := by
    rw [readAll_cons, readSymbol_quote hr, readAll_doubled field rfl]
    simp [hr.1]
  have hbehind : readAll d r (quoted d field)
      = { r with mode := .afterQuote, field := field } := by
    rw [quoted, ← List.cons_append, readAll_append, hinside]
    simp [readSymbol]
  rw [hbehind]
  refine ⟨rfl, rfl, rfl, fun c hc _ => ?_⟩
  simp [readSymbol, hc]

/-- A field without special symbols; at the start of a record it is not the only empty one. -/
lemma holdsField_plain {r : Reader α} (hr : r.startsField) {field : List α}
    (hfield : ∀ c ∈ field, ¬ d.isSpecial c) (hblank : field = [] → r.mode = .atField) :
    HoldsField d (readAll d r field) r.fields field r.records := by
  cases field with
  | nil =>
      refine ⟨hr.1, rfl, rfl, fun c hc _ => ?_⟩
      simp only [readAll_nil, readSymbol, hblank rfl]
      rw [readFieldStart, if_neg hc]
  | cons c rest =>
      have hc : ¬ d.isSpecial c := hfield c List.mem_cons_self
      have hne : c ≠ d.quote ∧ c ≠ d.cr ∧ c ≠ d.lf := by
        unfold Dialect.isSpecial at hc
        push Not at hc
        exact hc.2
      have hfirst : readSymbol d r c = { r with mode := .plain, field := [c] } := by
        have hstart : readFieldStart d r c = { r with mode := .plain, field := [c] } := by
          rw [readFieldStart, if_neg hne.1, readPlain_of_not_special hc, hr.1]
          rfl
        obtain ⟨-, hmode | ⟨hmode, -⟩⟩ := hr
        · rw [readSymbol, hmode]
          exact hstart
        · rw [readSymbol, hmode]
          simp only [readRecordStart, if_neg hne.2.1, if_neg hne.2.2]
          exact hstart
      have hrest : readAll d r (c :: rest) = { r with mode := .plain, field := c :: rest } := by
        rw [readAll_cons, hfirst,
          readAll_plain rest (fun b hb => hfield b (List.mem_cons_of_mem c hb)) rfl]
        simp
      rw [hrest]
      exact ⟨rfl, rfl, rfl, fun b _ _ => by simp [readSymbol]⟩

/-- **A written field is read back**, quoted or not. -/
lemma holdsField_writeField {r : Reader α} (hr : r.startsField) {field : List α}
    (hblank : field = [] → r.mode = .atField) :
    HoldsField d (readAll d r (writeField d field)) r.fields field r.records := by
  rw [writeField]
  split
  · exact holdsField_quoted hr field
  · rename_i hnone
    refine holdsField_plain hr (fun c hc hspecial => hnone ⟨c, hc, hspecial⟩) hblank

/-- A field that is followed by another one. -/
lemma readAll_writeField_comma {r : Reader α} (hr : r.startsField) (field : List α) :
    readAll d r (writeField d field ++ [d.comma])
      = { r with mode := .atField, field := [], fields := r.fields ++ [field] } := by
  by_cases hblank : field = [] ∧ r.mode = .atRecord
  · obtain ⟨rfl, hmode⟩ := hblank
    have hempty : writeField d [] = [] := by simp [writeField]
    rw [hempty, List.nil_append, readAll_cons, readAll_nil, readSymbol, hmode]
    simp only [readRecordStart, if_neg d.comma_ne_cr, if_neg d.comma_ne_lf, readFieldStart,
      if_neg d.quote_ne_comma.symm, readPlain_comma, hr.1]
  · have hfield : field = [] → r.mode = .atField := by
      intro h
      obtain ⟨-, hmode | ⟨hmode, -⟩⟩ := hr
      · exact hmode
      · exact absurd ⟨h, hmode⟩ hblank
    have hholds := holdsField_writeField (d := d) hr hfield
    rw [readAll_append, readAll_cons, readAll_nil,
      hholds.ends _ d.quote_ne_comma.symm d.comma_ne_lf, readPlain_comma, hholds.field,
      hholds.fields]
    congr 1
    exact hholds.records

/-! ### Records -/

/-- The fields of a record, with the reader behind the first of them. -/
lemma readAll_writeFields {fields : List (List α)} (hne : fields ≠ []) {r : Reader α}
    (hr : r.startsField) (hblank : fields = [[]] → r.mode = .atField) :
    readAll d r (writeFields d fields ++ [d.cr, d.lf])
      = .between (r.records ++ [r.fields ++ fields]) := by
  induction fields generalizing r with
  | nil => exact absurd rfl hne
  | cons field rest ih =>
      cases rest with
      | nil =>
          have hholds := holdsField_writeField (d := d) hr fun h : field = [] => hblank (by rw [h])
          rw [writeFields, readAll_append, readAll_lineBreak hholds.ends, hholds.field,
            hholds.fields, hholds.records]
      | cons next more =>
          have hsplit : writeFields d (field :: next :: more) ++ [d.cr, d.lf]
              = (writeField d field ++ [d.comma])
                ++ (writeFields d (next :: more) ++ [d.cr, d.lf]) := by
            simp [writeFields]
          rw [hsplit, readAll_append, readAll_writeField_comma hr,
            ih (List.cons_ne_nil _ _) ⟨rfl, Or.inl rfl⟩ fun _ => rfl]
          simp

/-- The piece reads as the record, whatever was read before it. -/
def ReadsAs (d : Dialect α) (piece : List α) (record : List (List α)) : Prop :=
  ∀ records, readAll d (.between records) piece = .between (records ++ [record])

/-- **A written record is read back** and leaves the reader at the start of the next one. -/
theorem readAll_writeRecord (fields : List (List α)) : ReadsAs d (writeRecord d fields) fields := by
  intro records
  have hstart : (Reader.between records : Reader α).startsField := ⟨rfl, Or.inr ⟨rfl, rfl⟩⟩
  rw [writeRecord]
  split
  · -- the single empty field
    rename_i hsingle
    have hholds := holdsField_quoted (d := d) hstart []
    rw [readAll_append, readAll_lineBreak hholds.ends, hholds.field, hholds.fields,
      hholds.records, hsingle]
    rfl
  · rename_i hsingle
    by_cases hnil : fields = []
    · -- a record without fields is a blank line
      subst hnil
      rw [writeFields, List.nil_append, readAll_cons, readSymbol]
      simp [Reader.between, readRecordStart, readSymbol]
    · rw [readAll_writeFields hnil hstart fun h => absurd h hsingle]
      rfl

/-- The reader with more records before those it has read. -/
def Reader.behind (records : List (List (List α))) (r : Reader α) : Reader α :=
  { r with records := records ++ r.records }

/-- What was read before has no influence on how the rest is read. -/
lemma readSymbol_behind (records : List (List (List α))) (r : Reader α) (c : α) :
    readSymbol d (r.behind records) c = (readSymbol d r c).behind records := by
  have hplain : readPlain d (r.behind records) c = (readPlain d r c).behind records := by
    simp only [readPlain, Reader.behind]
    split_ifs <;> simp
  have hfield : readFieldStart d (r.behind records) c = (readFieldStart d r c).behind records := by
    simp only [readFieldStart, hplain]
    split_ifs <;> rfl
  have hrecord : readRecordStart d (r.behind records) c
      = (readRecordStart d r c).behind records := by
    simp only [readRecordStart, hfield]
    split_ifs <;> simp [Reader.behind]
  have hmode : (r.behind records).mode = r.mode := rfl
  simp only [readSymbol, hmode, hplain, hfield, hrecord]
  cases r.mode with
  | atRecord | atField | plain => rfl
  | afterCr | inQuotes | afterQuote =>
      dsimp only
      split_ifs <;> rfl

lemma readAll_behind (records : List (List (List α))) (r : Reader α) (text : List α) :
    readAll d (r.behind records) text = (readAll d r text).behind records := by
  induction text generalizing r with
  | nil => rfl
  | cons c rest ih => rw [readAll_cons, readSymbol_behind, ih, readAll_cons]

/-- A text that reads as a record on its own reads so behind any others. -/
lemma readAll_between {piece : List α} {record : List (List α)}
    (h : readAll d {} piece = .between [record]) : ReadsAs d piece record := by
  intro records
  have hstart : (Reader.between records : Reader α) = Reader.behind records {} := by
    simp [Reader.between, Reader.behind]
  rw [hstart, readAll_behind, h]
  rfl

/-! ### Texts made of pieces -/

section Pieces

variable {pieces : List (List α)} {records : List (List (List α))}

/-- Pieces that each read as a record read as these records together. -/
lemma readAll_flatten (h : List.Forall₂ (ReadsAs d) pieces records)
    (before : List (List (List α))) :
    readAll d (.between before) pieces.flatten = .between (before ++ records) := by
  induction h generalizing before with
  | nil => rw [List.append_nil, List.flatten_nil, readAll_nil]
  | cons hpiece _ ih =>
      rw [List.flatten_cons, readAll_append, hpiece before, ih, List.append_assoc,
        List.singleton_append]

/-- **The round trip**: the pieces of a text are read one by one. -/
theorem readRecords_flatten (h : List.Forall₂ (ReadsAs d) pieces records) :
    readRecords d pieces.flatten = records := by
  have hread := readAll_flatten h []
  rw [List.nil_append] at hread
  rw [readRecords]
  change (readAll d (.between []) pieces.flatten).finish = records
  rw [hread]
  rfl

/-- A symbol takes no record back, and the records seen so far become no fewer. -/
lemma readSymbol_keeps (r : Reader α) (c : α) :
    r.records <+: (readSymbol d r c).records ∧
      r.finish.length ≤ (readSymbol d r c).finish.length := by
  have hplain : r.records <+: (readPlain d r c).records ∧
      r.records.length + 1 ≤ (readPlain d r c).finish.length := by
    simp only [readPlain]
    split_ifs <;> simp [Reader.finish]
  have hfield : r.records <+: (readFieldStart d r c).records ∧
      r.records.length + 1 ≤ (readFieldStart d r c).finish.length := by
    simp only [readFieldStart]
    split_ifs
    · simp [Reader.finish]
    · exact hplain
  have hrecord : r.records <+: (readRecordStart d r c).records ∧
      r.records.length + 1 ≤ (readRecordStart d r c).finish.length := by
    simp only [readRecordStart]
    split_ifs
    · simp [Reader.finish]
    · simp [Reader.finish]
    · exact hfield
  -- inside a record one more is to come, at its start and after a CR none
  have hopen : r.mode ≠ .atRecord → r.mode ≠ .afterCr →
      r.finish.length = r.records.length + 1 := by
    intro hstart hcr
    simp [Reader.finish, hstart, hcr]
  cases hmode : r.mode with
  | atRecord =>
      simp only [readSymbol, hmode]
      refine ⟨hrecord.1, le_trans ?_ hrecord.2⟩
      simp [Reader.finish, hmode]
  | afterCr =>
      simp only [readSymbol, hmode]
      split_ifs
      · simp [Reader.finish, hmode]
      · refine ⟨hrecord.1, le_trans ?_ hrecord.2⟩
        simp [Reader.finish, hmode]
  | atField =>
      rw [hopen (by simp [hmode]) (by simp [hmode])]
      simp only [readSymbol, hmode]
      exact hfield
  | plain =>
      rw [hopen (by simp [hmode]) (by simp [hmode])]
      simp only [readSymbol, hmode]
      exact hplain
  | inQuotes =>
      rw [hopen (by simp [hmode]) (by simp [hmode])]
      simp only [readSymbol, hmode]
      split_ifs <;> simp [Reader.finish]
  | afterQuote =>
      rw [hopen (by simp [hmode]) (by simp [hmode])]
      simp only [readSymbol, hmode]
      split_ifs
      · simp [Reader.finish]
      · exact hplain

lemma readAll_keeps (r : Reader α) (text : List α) :
    r.records <+: (readAll d r text).records ∧
      r.finish.length ≤ (readAll d r text).finish.length := by
  induction text generalizing r with
  | nil => exact ⟨List.prefix_rfl, le_rfl⟩
  | cons c rest ih =>
      obtain ⟨hrecords, hlength⟩ := @readSymbol_keeps _ _ d r c
      obtain ⟨hmore, hlonger⟩ := ih (readSymbol d r c)
      exact ⟨hrecords.trans hmore, hlength.trans hlonger⟩

omit [DecidableEq α] in
lemma Reader.records_prefix_finish (r : Reader α) : r.records <+: r.finish := by
  rw [Reader.finish]
  split
  · exact List.prefix_rfl
  · exact List.prefix_append _ _

/-- A piece that breaks off is seen as one record at most. -/
lemma finish_take {piece : List α} {record : List (List α)} (h : ReadsAs d piece record)
    (before : List (List (List α))) (k : ℕ) :
    ∃ cut, (readAll d (.between before) (piece.take k)).finish = before ++ cut ∧
      cut.length ≤ 1 := by
  obtain ⟨hrecords, -⟩ := @readAll_keeps _ _ d (.between before) (piece.take k)
  obtain ⟨cut, hcut⟩ := hrecords.trans (Reader.records_prefix_finish _)
  refine ⟨cut, hcut.symm, ?_⟩
  obtain ⟨-, hlength⟩ := @readAll_keeps _ _ d (readAll d (.between before) (piece.take k))
    (piece.drop k)
  rw [← readAll_append, List.take_append_drop, h before, ← hcut] at hlength
  have hwhole : (Reader.between (before ++ [record]) : Reader α).finish.length
      = before.length + 1 := List.length_append
  rw [hwhole, List.length_append] at hlength
  exact Nat.le_of_add_le_add_left hlength

/-- **A text that breaks off**: the records of the pieces that fit are read whole, and at most one
more is seen. -/
theorem readRecords_take (h : List.Forall₂ (ReadsAs d) pieces records) (k : ℕ) :
    ∃ n cut, readRecords d (pieces.flatten.take k) = records.take n ++ cut ∧ cut.length ≤ 1 ∧
      (pieces.take n).flatten.length ≤ k ∧
      (n < pieces.length → k < (pieces.take (n + 1)).flatten.length) := by
  have hread : ∀ before k, ∃ n cut,
      (readAll d (.between before) (pieces.flatten.take k)).finish = before ++ records.take n ++ cut ∧
      cut.length ≤ 1 ∧ (pieces.take n).flatten.length ≤ k ∧
      (n < pieces.length → k < (pieces.take (n + 1)).flatten.length) := by
    induction h with
    | nil =>
        intro before k
        refine ⟨0, [], ?_, Nat.zero_le 1, Nat.zero_le k, fun hlt => absurd hlt (lt_irrefl 0)⟩
        rw [List.flatten_nil, List.take_nil, List.take_nil, List.append_nil, List.append_nil]
        rfl
    | @cons piece record pieces records hpiece _ ih =>
        intro before k
        rw [List.flatten_cons]
        by_cases hfits : piece.length ≤ k
        · -- the piece is read whole
          obtain ⟨n, cut, hrest, hcut, hshort, hlong⟩ := ih (before ++ [record]) (k - piece.length)
          refine ⟨n + 1, cut, ?_, hcut, ?_, fun hlt => ?_⟩
          · rw [List.take_append, List.take_of_length_le hfits, readAll_append, hpiece before,
              hrest, List.take_succ_cons]
            simp
          · rw [List.take_succ_cons, List.flatten_cons, List.length_append]
            omega
          · have hmore := hlong (Nat.lt_of_succ_lt_succ hlt)
            rw [List.take_succ_cons, List.flatten_cons, List.length_append]
            omega
        · -- the text breaks off inside it
          rw [not_le] at hfits
          obtain ⟨cut, hseen, hcut⟩ := finish_take hpiece before k
          refine ⟨0, cut, ?_, hcut, Nat.zero_le k, fun _ => ?_⟩
          · rw [List.take_append_of_le_length hfits.le, hseen, List.take_zero, List.append_nil]
          · simpa using hfits
  obtain ⟨n, cut, hseen, hrest⟩ := hread [] k
  refine ⟨n, cut, ?_, hrest⟩
  rw [List.nil_append] at hseen
  exact hseen

end Pieces

end EclServer.Library.Csv
