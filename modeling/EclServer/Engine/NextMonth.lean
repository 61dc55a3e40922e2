import EclServer.Engine.PdTable

/-!
Which row the PD engine takes for the next month of a loan.

* `Timestamp.eq_addMonths_neg_one_iff`: the day a clamped month subtraction hits.
* `nextRow?`, `nextStaging_eq_map`: the lookup of a row, where its loan has no two candidates.
* `InNextMonth`, `OnePerMonth`, `MatchesCalendar`: what the calendar says.
* `DaysAlign`: the reporting days of a loan follow each other.
* `matchesCalendar_iff`: the engine follows the calendar exactly there.
-/

namespace EclServer.Library

/-- The length of the month of an instant. -/
def Timestamp.monthLength (t : Timestamp) : ℕ :=
  daysInMonth (t.monthIndex / 12) (t.monthIndex % 12).toNat

/-- **The day a month earlier**: the same day, or the last of that month, at the same time. -/
lemma Timestamp.eq_addMonths_neg_one_iff {s t : Timestamp} :
    s = t.addMonths (-1) ↔
      t.monthIndex = s.monthIndex + 1 ∧ s.day = min t.day s.monthLength ∧ s.time = t.time := by
  rw [Timestamp.ext_iff', monthIndex_addMonths, monthLength]
  constructor
  · rintro ⟨hmonth, hday, htime⟩
    refine ⟨by omega, ?_, htime⟩
    rw [hmonth]
    exact hday
  · rintro ⟨hmonth, hday, htime⟩
    have hindex : s.monthIndex = t.monthIndex + -1 := by omega
    refine ⟨hindex, ?_, htime⟩
    rw [hindex] at hday
    exact hday

end EclServer.Library

namespace EclServer.Engine

open EclServer.Library

/-! ### The lookup -/

/-- The row of the lookup that a row is merged with. -/
def nextRow? (working : List PdRow) (a : PdRow) : Option PdRow :=
  (working.filter (isNextOf a)).head?

lemma isNextOf_iff {a b : PdRow} :
    isNextOf a b = true ↔
      a.loanId = b.loanId ∧ a.reportingMonth = b.reportingMonth.map (·.addMonths (-1)) := by
  rw [isNextOf, decide_eq_true_eq]

/-- Where no row has two candidates, each row is merged with its own. -/
lemma nextStaging_eq_map {rows : List PdRow}
    (h : ∀ a ∈ dedupeRows rows, ((dedupeRows rows).filter (isNextOf a)).length ≤ 1) :
    nextStaging rows
      = (dedupeRows rows).map fun a => ⟨a, fillOffbooks (nextRow? (dedupeRows rows) a)⟩ := by
  rw [nextStaging]
  dsimp only
  rw [leftJoin_eq_map _ h, List.map_map]
  rfl

lemma nodup_map_dedupeRows (rows : List PdRow) : ((dedupeRows rows).map PdRow.key).Nodup :=
  ((sortByKey_perm _ _).map _).nodup_iff.mpr (nodup_map_dropDuplicates _ _)

lemma mem_of_mem_dedupeRows {rows : List PdRow} {a : PdRow} (h : a ∈ dedupeRows rows) : a ∈ rows :=
  mem_of_mem_dropDuplicates _ ((mem_sortByKey _).mp h)

/-! ### The calendar -/

/-- Two rows of a loan in one calendar month. -/
def SameMonth (a b : PdRow) : Prop :=
  a.loanId = b.loanId ∧ ∃ s t, a.reportingMonth = some s ∧ b.reportingMonth = some t ∧
    s.monthIndex = t.monthIndex

/-- The second row is of the same loan, in the calendar month after that of the first. -/
def InNextMonth (a b : PdRow) : Prop :=
  a.loanId = b.loanId ∧ ∃ s t, a.reportingMonth = some s ∧ b.reportingMonth = some t ∧
    t.monthIndex = s.monthIndex + 1

/-- A loan has at most one row in a calendar month. -/
def OnePerMonth (rows : List PdRow) : Prop := rows.Pairwise fun a b => ¬ SameMonth a b

/-- **What the calendar says**: every row with a reporting month gets one transition, to the
staging of the loan's row of the next month, and to `"Offbooks"` exactly where there is none. -/
def MatchesCalendar (rows : List PdRow) : Prop :=
  ∀ a ∈ rows, a.reportingMonth ≠ none → ∃ t, (nextStaging rows).filter (·.row = a) = [t] ∧
    (∀ b ∈ rows, InNextMonth a b → t.nextStaging = b.staging) ∧
    (t.nextStaging = .str "Offbooks" ↔ ¬ ∃ b ∈ rows, InNextMonth a b)

/-- The day of the first row is that of the second, or the last day of its month where that is
earlier, at the same time of day. -/
def SameDay (a b : PdRow) : Prop :=
  ∃ s t, a.reportingMonth = some s ∧ b.reportingMonth = some t ∧
    s.day = min t.day s.monthLength ∧ s.time = t.time

/-- **The reporting days follow each other**, from a month to the next, and the later staging is
neither blank nor `"Offbooks"` itself. -/
def DaysAlign (rows : List PdRow) : Prop :=
  ∀ a ∈ rows, ∀ b ∈ rows, InNextMonth a b →
    SameDay a b ∧ b.staging ≠ .blank ∧ b.staging ≠ .str "Offbooks"

section

variable {rows : List PdRow} {a b c : PdRow}

lemma SameMonth.symm (h : SameMonth a b) : SameMonth b a := by
  obtain ⟨hloan, s, t, hs, ht, hmonth⟩ := h
  exact ⟨hloan.symm, t, s, ht, hs, hmonth.symm⟩

lemma OnePerMonth.eq (h : OnePerMonth rows) (ha : a ∈ rows) (hb : b ∈ rows)
    (hsame : SameMonth a b) : a = b := by
  have : Std.Symm fun a b : PdRow => ¬ SameMonth a b := ⟨fun _ _ hab hba => hab hba.symm⟩
  by_contra hne
  exact List.Pairwise.forall h ha hb hne hsame

/-- Two rows of the month after one row are of one month. -/
lemma InNextMonth.sameMonth (hb : InNextMonth a b) (hc : InNextMonth a c) : SameMonth b c := by
  obtain ⟨hab, s, t, hs, ht, hst⟩ := hb
  obtain ⟨hac, s', u, hs', hu, hsu⟩ := hc
  obtain rfl := Option.some.inj (hs.symm.trans hs')
  exact ⟨hab.symm.trans hac, t, u, ht, hu, hst.trans hsu.symm⟩

/-- The engine matches a dated row with the rows of the next month that are on its day. -/
lemma isNextOf_iff_inNextMonth (ha : a.reportingMonth ≠ none) :
    isNextOf a b = true ↔ InNextMonth a b ∧ SameDay a b := by
  obtain ⟨s, hs⟩ := Option.ne_none_iff_exists'.mp ha
  rw [isNextOf_iff, hs]
  constructor
  · rintro ⟨hloan, hmonth⟩
    obtain ⟨t, ht, heq⟩ := Option.map_eq_some_iff.mp hmonth.symm
    obtain ⟨hnext, hday, htime⟩ := Timestamp.eq_addMonths_neg_one_iff.mp heq.symm
    exact ⟨⟨hloan, s, t, hs, ht, hnext⟩, s, t, hs, ht, hday, htime⟩
  · rintro ⟨⟨hloan, s', t, hs', ht, hnext⟩, s'', t', hs'', ht', hday, htime⟩
    obtain rfl := Option.some.inj (hs.symm.trans hs')
    obtain rfl := Option.some.inj (hs.symm.trans hs'')
    obtain rfl := Option.some.inj (ht.symm.trans ht')
    refine ⟨hloan, ?_⟩
    rw [ht, Option.map_some]
    exact congrArg some (Timestamp.eq_addMonths_neg_one_iff.mpr ⟨hnext, hday, htime⟩)

/-- A dated row outlives the de-duplication. -/
lemma OnePerMonth.mem_dedupeRows (h : OnePerMonth rows) (ha : a ∈ rows)
    (hdated : a.reportingMonth ≠ none) : a ∈ dedupeRows rows := by
  obtain ⟨b, hb, hkey⟩ := exists_mem_dropDuplicates PdRow.key ha
  obtain ⟨hloan, hmonth⟩ := Prod.mk.inj hkey
  obtain ⟨s, hs⟩ := Option.ne_none_iff_exists'.mp hdated
  have hsame : SameMonth b a := ⟨hloan, s, s, hmonth.trans hs, hs, rfl⟩
  rw [← h.eq (mem_of_mem_dropDuplicates _ hb) ha hsame]
  exact (mem_sortByKey _).mpr hb

/-- No row has two candidates. -/
lemma OnePerMonth.length_filter_le_one (h : OnePerMonth rows) (a : PdRow) :
    ((dedupeRows rows).filter (isNextOf a)).length ≤ 1 := by
  have hsame : ∀ b ∈ dedupeRows rows, ∀ c ∈ dedupeRows rows, isNextOf a b = true →
      isNextOf a c = true → PdRow.key b = PdRow.key c := by
    intro b hb c hc hab hac
    by_cases hdated : a.reportingMonth = none
    · obtain ⟨hloanB, hmonthB⟩ := isNextOf_iff.mp hab
      obtain ⟨hloanC, hmonthC⟩ := isNextOf_iff.mp hac
      rw [hdated, eq_comm, Option.map_eq_none_iff] at hmonthB hmonthC
      exact Prod.ext (hloanB.symm.trans hloanC) (hmonthB.trans hmonthC.symm)
    · have hnextB := ((isNextOf_iff_inNextMonth hdated).mp hab).1
      have hnextC := ((isNextOf_iff_inNextMonth hdated).mp hac).1
      rw [h.eq (mem_of_mem_dedupeRows hb) (mem_of_mem_dedupeRows hc) (hnextB.sameMonth hnextC)]
  exact length_filter_le_one_of_mem _ (nodup_map_dedupeRows rows) hsame

/-- The transition of a dated row. -/
lemma OnePerMonth.filter_nextStaging (h : OnePerMonth rows) (ha : a ∈ rows)
    (hdated : a.reportingMonth ≠ none) :
    (nextStaging rows).filter (·.row = a)
      = [⟨a, fillOffbooks (nextRow? (dedupeRows rows) a)⟩] := by
  have hown : (dedupeRows rows).filter (fun b => b = a) = [a] := by
    refine filter_eq_singleton id ?_ (h.mem_dedupeRows ha hdated)
    rw [List.map_id]
    exact (nodup_map_dedupeRows rows).of_map _
  rw [nextStaging_eq_map fun a _ => h.length_filter_le_one a, List.filter_map]
  exact congrArg _ hown

/-- The lookup finds the row of the next month where it is on the day, and else nothing. -/
lemma OnePerMonth.nextRow?_eq (h : OnePerMonth rows) (hdated : a.reportingMonth ≠ none)
    (hb : b ∈ rows) (hnext : InNextMonth a b) :
    nextRow? (dedupeRows rows) a = some b ∧ SameDay a b ∨
      nextRow? (dedupeRows rows) a = none ∧ ¬ SameDay a b := by
  obtain ⟨-, s, t, -, ht, -⟩ := id hnext
  have hmem : b ∈ dedupeRows rows := h.mem_dedupeRows hb (by simp [ht])
  have honly : ∀ c ∈ (dedupeRows rows).filter (isNextOf a), c = b := by
    intro c hc
    obtain ⟨hcmem, hac⟩ := List.mem_filter.mp hc
    have hnextC := ((isNextOf_iff_inNextMonth hdated).mp hac).1
    exact h.eq (mem_of_mem_dedupeRows hcmem) hb (hnextC.sameMonth hnext)
  by_cases hday : SameDay a b
  · left
    have hfilter : b ∈ (dedupeRows rows).filter (isNextOf a) :=
      List.mem_filter.mpr ⟨hmem, (isNextOf_iff_inNextMonth hdated).mpr ⟨hnext, hday⟩⟩
    rw [nextRow?]
    cases hrows : (dedupeRows rows).filter (isNextOf a) with
    | nil => rw [hrows] at hfilter; cases hfilter
    | cons c cs =>
        rw [List.head?_cons, honly c (hrows ▸ List.mem_cons_self)]
        exact ⟨rfl, hday⟩
  · right
    refine ⟨?_, hday⟩
    rw [nextRow?, List.head?_eq_none_iff, List.filter_eq_nil_iff]
    intro c hc hac
    obtain rfl := honly c (List.mem_filter.mpr ⟨hc, hac⟩)
    exact hday ((isNextOf_iff_inNextMonth hdated).mp hac).2

/-- Without a row of the next month the lookup finds nothing. -/
lemma nextRow?_eq_none (hdated : a.reportingMonth ≠ none)
    (hnone : ¬ ∃ b ∈ rows, InNextMonth a b) : nextRow? (dedupeRows rows) a = none := by
  rw [nextRow?, List.head?_eq_none_iff, List.filter_eq_nil_iff]
  intro c hc hac
  exact hnone ⟨c, mem_of_mem_dedupeRows hc, ((isNextOf_iff_inNextMonth hdated).mp hac).1⟩

/-- Where the matching follows the calendar, the reporting days follow each other. -/
lemma OnePerMonth.daysAlign (h : OnePerMonth rows) (hmatches : MatchesCalendar rows) :
    DaysAlign rows := by
  intro a ha b hb hnext
  have hdated : a.reportingMonth ≠ none := by
    obtain ⟨-, s, t, hs, -⟩ := hnext
    simp [hs]
  obtain ⟨t, ht, hstaging, hoff⟩ := hmatches a ha hdated
  obtain rfl := (List.cons.inj ((h.filter_nextStaging ha hdated).symm.trans ht)).1
  have hbooked : fillOffbooks (nextRow? (dedupeRows rows) a) ≠ .str "Offbooks" := fun heq =>
    hoff.mp heq ⟨b, hb, hnext⟩
  have hvalue : fillOffbooks (nextRow? (dedupeRows rows) a) = b.staging := hstaging b hb hnext
  rcases h.nextRow?_eq hdated hb hnext with ⟨hfound, hday⟩ | ⟨hmissed, -⟩
  · refine ⟨hday, fun hblank => ?_, fun hliteral => hbooked (hvalue.trans hliteral)⟩
    rw [hfound, fillOffbooks, if_pos hblank] at hbooked
    exact hbooked rfl
  · rw [hmissed] at hbooked
    exact absurd rfl hbooked

/-- Where the reporting days follow each other, the lookup finds the row of the next month. -/
lemma OnePerMonth.fillOffbooks_nextRow? (h : OnePerMonth rows) (halign : DaysAlign rows)
    (ha : a ∈ rows) (hdated : a.reportingMonth ≠ none) (hb : b ∈ rows) (hnext : InNextMonth a b) :
    fillOffbooks (nextRow? (dedupeRows rows) a) = b.staging ∧ b.staging ≠ .str "Offbooks" := by
  obtain ⟨hday, hblank, hbooked⟩ := halign a ha b hb hnext
  rcases h.nextRow?_eq hdated hb hnext with ⟨hfound, -⟩ | ⟨-, hnot⟩
  · rw [hfound, fillOffbooks, if_neg hblank]
    exact ⟨rfl, hbooked⟩
  · exact absurd hday hnot

lemma OnePerMonth.matchesCalendar (h : OnePerMonth rows) (halign : DaysAlign rows) :
    MatchesCalendar rows := by
  intro a ha hdated
  refine ⟨_, h.filter_nextStaging ha hdated, ?_, ?_⟩
  · intro b hb hnext
    exact (h.fillOffbooks_nextRow? halign ha hdated hb hnext).1
  · constructor
    · rintro hoff ⟨b, hb, hnext⟩
      obtain ⟨hstaging, hbooked⟩ := h.fillOffbooks_nextRow? halign ha hdated hb hnext
      exact hbooked (hstaging.symm.trans hoff)
    · intro hnone
      change fillOffbooks (nextRow? (dedupeRows rows) a) = .str "Offbooks"
      rw [nextRow?_eq_none hdated hnone, fillOffbooks]

/-- **Next-month matching follows the calendar** exactly where the reporting days of each loan
follow each other. A month is subtracted from the later date and its day cut to the shorter month,
so that a row finds the next one only where this gives its own day. -/
theorem matchesCalendar_iff (h : OnePerMonth rows) : MatchesCalendar rows ↔ DaysAlign rows :=
  ⟨h.daysAlign, h.matchesCalendar⟩

end

/-! ### Month ends -/

/-- Rows whose loans and months differ. -/
lemma OnePerMonth.of_nodup {rows : List PdRow}
    (h : (rows.map fun a => (a.loanId, a.reportingMonth.map (·.monthIndex))).Nodup) :
    OnePerMonth rows := by
  refine (List.pairwise_map.mp h).imp ?_
  rintro a b hne ⟨hloan, s, t, hs, ht, hmonth⟩
  rw [hs, ht, hloan, Option.map_some, Option.map_some, hmonth] at hne
  exact hne rfl

/-- Loans reported on the first of each month. -/
theorem matchesCalendar_iff_sample : MatchesCalendar samplePdRows ↔ DaysAlign samplePdRows :=
  matchesCalendar_iff (OnePerMonth.of_nodup (by decide))

lemma one_le_thirtyOne : 1 ≤ 31 := by decide

/-- The last days of January and February 2024. -/
def endOfJanuary : Timestamp := ⟨24288, 31, 0, one_le_thirtyOne, by decide⟩

def endOfFebruary : Timestamp := ⟨24289, 29, 0, by decide, by decide⟩

/-- A row of a sheet reported at month ends. -/
def monthEndRecord (index : ℤ) (loanId : String) (month : Timestamp) (staging : LoanStage)
    (amount : ℚ) : Record where
  index := index
  cell name :=
    if name = "Reporting Month" then .date month
    else (pdRecord index loanId 0 staging amount).cell name

/-- The sheet of the engine's own test: two loans, reported at the end of January and of
February. -/
def monthEndFrame : Frame where
  columns := ["Loan ID", "Reporting Month", "Staging", "SEGMENT", "Loan Amount"]
  rows := [monthEndRecord 0 "L1" endOfJanuary .stage1 100000,
    monthEndRecord 1 "L1" endOfFebruary .stage1 95000,
    monthEndRecord 2 "L2" endOfJanuary .stage2 50000,
    monthEndRecord 3 "L2" endOfFebruary .stage3 48000]

/-- A row of it as the engine reads it. -/
def monthEndRow (loanId : String) (month : Timestamp) (staging : LoanStage) (amount : ℚ) :
    PdRow :=
  { samplePdRow loanId 0 staging amount with reportingMonth := some month }

def monthEndRows : List PdRow :=
  [monthEndRow "L1" endOfJanuary .stage1 100000, monthEndRow "L1" endOfFebruary .stage1 95000,
    monthEndRow "L2" endOfJanuary .stage2 50000, monthEndRow "L2" endOfFebruary .stage3 48000]

/-- The 29th of February, a month earlier, is the 29th of January and not its end: every loan
of the test goes off the books. -/
theorem matchesCalendar_fails :
    readPdRows plainEnv monthEndFrame = .ok monthEndRows ∧ OnePerMonth monthEndRows ∧
      ¬ MatchesCalendar monthEndRows := by
  have hone : OnePerMonth monthEndRows := OnePerMonth.of_nodup (by decide)
  refine ⟨rfl, hone, fun hmatches => ?_⟩
  have hnext : InNextMonth (monthEndRow "L1" endOfJanuary .stage1 100000)
      (monthEndRow "L1" endOfFebruary .stage1 95000) :=
    ⟨rfl, endOfJanuary, endOfFebruary, rfl, rfl, rfl⟩
  obtain ⟨⟨s, t, hs, ht, hday, -⟩, -⟩ := hone.daysAlign hmatches _ (by simp [monthEndRows])
    _ (by simp [monthEndRows]) hnext
  obtain rfl : endOfJanuary = s := Option.some.inj hs
  obtain rfl : endOfFebruary = t := Option.some.inj ht
  exact absurd hday (by decide)

end EclServer.Engine
