import EclServer.Library.Paging

/-!
Listings that are answered a page at a time, their rows and their number by queries of their own.

* `pageCount`: the pages that a number of rows fills. `lt_pageCount_iff`: a page has a next one
  exactly where it does not reach the end.
* `ShowsAll`: the pages show each row once, and the counted number tells how many there are and
  where they end. `showsAll_iff`: when they do, in whatever orders the pages are answered.
-/

namespace EclServer.Library

variable {α ι κ : Type*} [LinearOrder κ]

/-- `max(1, ceil(total / per_page))`. -/
def pageCount (total perPage : ℕ) : ℕ := max 1 ((total + perPage - 1) / perPage)

/-- There is a next page exactly where the page does not reach the end. -/
lemma lt_pageCount_iff {total perPage page : ℕ} (hperPage : 0 < perPage) (hpage : 1 ≤ page) :
    page < pageCount total perPage ↔ page * perPage < total := by
  have hdiv : page < (total + perPage - 1) / perPage ↔ page * perPage < total := by
    rw [← Nat.succ_le_iff, Nat.le_div_iff_mul_le hperPage, Nat.succ_mul]
    omega
  rw [pageCount, lt_max_iff, hdiv]
  exact ⟨fun h => h.resolve_left (by omega), Or.inr⟩

/-- The pages have room for all rows. -/
lemma le_pageCount_mul {total perPage : ℕ} (hperPage : 0 < perPage) :
    total ≤ pageCount total perPage * perPage := by
  have hpos : 1 ≤ pageCount total perPage := le_max_left _ _
  exact not_lt.mp ((lt_pageCount_iff hperPage hpos).not.mp (lt_irrefl _))

/-- The pages, from 1, each cut from an order of its own. -/
def listingPage (orders : ℕ → List α) (perPage page : ℕ) : List α :=
  pageOf perPage (orders page) (page - 1)

/-- The pages show each row once, a next page is promised where later pages have rows, and the
number counted is theirs. -/
structure ShowsAll (id : α → ι) (rows : List α) (total perPage : ℕ) (pages : ℕ → List α) : Prop where
  each : (((List.range (pageCount total perPage)).flatMap fun p => pages (p + 1)).map id).Perm
    (rows.map id)
  next : ∀ page, 1 ≤ page →
    (page < pageCount total perPage ↔ ∃ later, page < later ∧ pages later ≠ [])
  total_eq : total = rows.length

section

variable {key : α → κ} {rows order : List α} {id : α → ι} {total perPage : ℕ}

/-- A later page has rows exactly where the page does not reach the end. -/
lemma exists_later_iff (hperPage : 0 < perPage) {orders : ℕ → List α}
    (horders : ∀ page, 1 ≤ page → IsOrder key rows (orders page)) {page : ℕ} (hpage : 1 ≤ page) :
    (∃ later, page < later ∧ listingPage orders perPage later ≠ []) ↔
      page * perPage < rows.length := by
  have hlater : ∀ later, 1 ≤ later → (listingPage orders perPage later ≠ [] ↔
      (later - 1) * perPage < rows.length) := by
    intro later hpos
    rw [listingPage, pageOf_ne_nil_iff hperPage, (horders later hpos).perm.length_eq]
  constructor
  · rintro ⟨later, hlt, hne⟩
    have hle : page * perPage ≤ (later - 1) * perPage := Nat.mul_le_mul_right _ (by omega)
    exact lt_of_le_of_lt hle ((hlater later (by omega)).mp hne)
  · intro hlt
    exact ⟨page + 1, Nat.lt_succ_self _, (hlater (page + 1) (by omega)).mpr hlt⟩

/-- **A listing shows all its rows**, in whatever orders its pages are answered, exactly where no
page boundary falls inside the rows of one key and the count is that of the rows. -/
theorem showsAll_iff (horder : IsOrder key rows order) (hnodup : (rows.map id).Nodup)
    (hperPage : 0 < perPage) :
    (∀ orders : ℕ → List α, (∀ page, 1 ≤ page → IsOrder key rows (orders page)) →
        ShowsAll id rows total perPage (listingPage orders perPage))
      ↔ TiesApart key perPage rows ∧ total = rows.length := by
  have hpages : total = rows.length → ((∀ orders : ℕ → List α,
        (∀ p, IsOrder key rows (orders p)) → (((List.range (pageCount total perPage)).flatMap
          fun p => pageOf perPage (orders p) p).map id).Perm (rows.map id)) ↔
      TiesApart key perPage rows) := by
    intro htotal
    refine pages_perm_iff horder hnodup hperPage ?_
    rw [← htotal]
    exact le_pageCount_mul hperPage
  constructor
  · intro hall
    have htotal := (hall (fun _ => order) fun _ _ => horder).total_eq
    refine ⟨(hpages htotal).mp fun orders horders => ?_, htotal⟩
    exact (hall (fun page => orders (page - 1)) fun page _ => horders (page - 1)).each
  · rintro ⟨hties, htotal⟩ orders horders
    refine ⟨?_, fun page hpage => ?_, htotal⟩
    · exact (hpages htotal).mpr hties (fun p => orders (p + 1)) fun p => horders (p + 1) (by omega)
    · rw [lt_pageCount_iff hperPage hpage, exists_later_iff hperPage horders hpage, htotal]

end

end EclServer.Library
