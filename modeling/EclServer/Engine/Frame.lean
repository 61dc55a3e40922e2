import Mathlib.Data.String.Basic
import EclServer.Core
import EclServer.Library.Calendar
import EclServer.Library.Table

/-!
Workbook sheets as the engines and validators see them.

* `Cell`: a blank, a number, a text or a date. Numbers are exact rationals.
* `Record`, `Frame`: a row with its index label, and a sheet with its columns.
* `PyEnv`: how Python and pandas render and read cells; library code, taken as parameters
  with the laws that are documented of it.
* `Cell.key`: the order in which pandas sorts the values of a column.
* `sumCells`: what a sum makes of numbers and of texts. `NonnegAmounts`: amounts whose sums are
  not negative.
* `LoanStage`: the three stage texts.
-/

namespace EclServer.Engine

open EclServer.Library

/-! ### Cells -/

inductive Cell where
  | blank
  | num (q : ℚ)
  | str (s : String)
  | date (t : Timestamp)
  deriving DecidableEq

namespace Cell

/-- `isna`. -/
def isNa (c : Cell) : Bool := c = blank

/-- `fillna`. -/
def fillNa (c d : Cell) : Cell := if c = blank then d else c

/-- The sort key of a cell: numbers, then dates, then texts, and blanks last. -/
def key : Cell → WithTop (ℕ ×ₗ ℚ ×ₗ String ×ₗ WithBot Timestamp)
  | blank => ⊤
  | num q => WithTop.some (toLex (0, toLex (q, toLex ("", ⊥))))
  | date t => WithTop.some (toLex (1, toLex (0, toLex ("", WithBot.some t))))
  | str s => WithTop.some (toLex (2, toLex (0, toLex (s, ⊥))))

lemma key_injective : Function.Injective key := by
  intro a b h
  cases a <;> cases b <;> simp_all [key]

/-- Whether a column can be a sort key among others: texts sort after numbers or dates, but
numbers and dates do not compare. -/
def sortable (cells : List Cell) : Bool :=
  !(cells.any (· matches .num _) && cells.any (· matches .date _))

/-- Whether a column can be sorted on its own: its values are of one type, blanks aside. -/
def comparable (cells : List Cell) : Bool :=
  cells.all (fun c => c matches .blank | .num _) || cells.all (fun c => c matches .blank | .str _)
    || cells.all (fun c => c matches .blank | .date _)

end Cell

/-! ### Python and pandas -/

/-- How Python and pandas render and read cells. `strNum`, `strDate` are `str` of a number
and of a timestamp and `reprCell` is `repr` of a cell; `toNumeric` reads a cell as
`pd.to_numeric(errors="coerce")` does and `toFloat` a text as `float` does, `none` being
NaN; `toDatetime` is `pd.to_datetime` of a column, which raises, and `coerceDatetime` the
same with `errors="coerce"`; `pmt` is `numpy_financial.pmt` of a rate, a number of periods
and a present value. -/
structure PyEnv where
  strNum : ℚ → String
  strDate : Timestamp → String
  reprCell : Cell → String
  upper : String → String
  toNumeric : Cell → Option ℚ
  toFloat : String → Except String (Option ℚ)
  toDatetime : List Cell → Except String (List (Option Timestamp))
  coerceDatetime : List Cell → List (Option Timestamp)
  pmt : ℚ → ℤ → ℚ → ℚ
  strNum_injective : Function.Injective strNum
  strDate_injective : Function.Injective strDate
  length_toDatetime : ∀ {cells ts}, toDatetime cells = .ok ts → ts.length = cells.length
  length_coerceDatetime : ∀ cells, (coerceDatetime cells).length = cells.length

/-- `str(value)`. -/
def Cell.pyStr (env : PyEnv) : Cell → String
  | blank => "nan"
  | num q => env.strNum q
  | str s => s
  | date t => env.strDate t

section PlainEnv

lemma toList_natRepr (n : ℕ) : (Nat.repr n).toList = Nat.toDigits 10 n := by
  simp [Nat.repr]

lemma natRepr_injective : Function.Injective Nat.repr := by
  intro m n h
  have hdigits : Nat.toDigits 10 m = Nat.toDigits 10 n := by
    rw [← toList_natRepr, ← toList_natRepr, h]
  rw [← @Nat.ofDigitChars_ten_toDigits m, hdigits, Nat.ofDigitChars_ten_toDigits]

lemma slash_notMem_natRepr (n : ℕ) : '/' ∉ (Nat.repr n).toList := by
  intro h
  rw [toList_natRepr] at h
  have hdigit := Nat.isDigit_of_mem_toDigits (by omega) (by omega) h
  exact absurd hdigit (by decide)

/-- Two numbers as a text with a slash. -/
def slashed (m n : ℕ) : String := Nat.repr m ++ "/" ++ Nat.repr n

lemma slashed_inj {a b m n : ℕ} (h : slashed a m = slashed b n) : a = b ∧ m = n := by
  have hchars := congrArg String.toList h
  simp only [slashed, String.toList_append, List.append_assoc,
    show "/".toList = ['/'] from rfl, List.singleton_append] at hchars
  obtain ⟨hab, -, hmn⟩ := (List.append_cons_inj_of_notMem (slash_notMem_natRepr _)
    (slash_notMem_natRepr _)).mp hchars
  exact ⟨natRepr_injective (String.toList_injective hab),
    natRepr_injective (String.toList_injective hmn)⟩

/-- A Python for sheets that hold each value in its own type: texts are never read as
numbers or dates. -/
def plainEnv : PyEnv where
  strNum q := slashed (Encodable.encode q.num) q.den
  strDate t := slashed (Encodable.encode t.monthIndex) (Nat.pair t.day t.time)
  reprCell
    | .str s => "'" ++ s ++ "'"
    | _ => ""
  upper s := String.ofList (s.toList.map Char.toUpper)
  toNumeric
    | .num q => some q
    | _ => none
  toFloat _ := .error "ValueError: could not convert string to float"
  toDatetime cells := .ok (cells.map fun c => match c with | .date t => some t | _ => none)
  coerceDatetime cells := cells.map fun c => match c with | .date t => some t | _ => none
  pmt rate periods pv := -(pv * (1 + rate) ^ periods * rate / ((1 + rate) ^ periods - 1))
  strNum_injective := by
    intro a b h
    obtain ⟨hnum, hden⟩ := slashed_inj h
    exact Rat.ext (Encodable.encode_injective hnum) hden
  strDate_injective := by
    intro a b h
    obtain ⟨hmonth, hrest⟩ := slashed_inj h
    obtain ⟨hday, htime⟩ := Nat.pair_eq_pair.mp hrest
    exact Timestamp.ext_iff'.mpr ⟨Encodable.encode_injective hmonth, hday, htime⟩
  length_toDatetime := by
    intro cells ts h
    rw [← Except.ok.inj h, List.length_map]
  length_coerceDatetime cells := List.length_map _

end PlainEnv

/-- `float(value)`: a blank is NaN. -/
def Cell.toFloat (env : PyEnv) : Cell → Except String (Option ℚ)
  | blank => .ok none
  | num q => .ok (some q)
  | str s => env.toFloat s
  | date _ => .error "TypeError: float() argument must be a string or a real number"

/-! ### Sums of a group -/

/-- Texts put together. -/
def joinTexts (cells : List Cell) : String :=
  cells.foldl (fun text c => match c with | .str s => text ++ s | _ => text) ""

/-- `sum` over the values of a group: numbers add up, texts are put together. -/
def sumCells (cells : List Cell) : Except String Cell :=
  let values := cells.filter fun c => !c.isNa
  if values.all fun c => c matches .num _ then
    .ok (.num (values.filterMap fun c => match c with | .num q => some q | _ => none).sum)
  else if values.all fun c => c matches .str _ then .ok (.str (joinTexts values))
  else .error "TypeError: unsupported operand type(s) for +"

/-- A number, and nothing of a blank. -/
def Cell.number : Cell → ℚ
  | .num q => q
  | _ => 0

/-- Numbers, and blanks. -/
def NumbersOnly (cells : List Cell) : Prop := ∀ c ∈ cells, c = .blank ∨ ∃ q, c = .num q

lemma NumbersOnly.mono {cells cells' : List Cell} (h : NumbersOnly cells) (hsub : cells' ⊆ cells) :
    NumbersOnly cells' := fun c hc => h c (hsub hc)

/-- A sum of numbers. -/
lemma sumCells_numbers {cells : List Cell} (h : NumbersOnly cells) :
    sumCells cells = .ok (.num (cells.map Cell.number).sum) := by
  have hvalues : ∀ c ∈ cells.filter fun c => !c.isNa, ∃ q, c = .num q := by
    intro c hc
    obtain ⟨hmem, hsome⟩ := List.mem_filter.mp hc
    refine (h c hmem).resolve_left fun hblank => ?_
    rw [hblank] at hsome
    cases hsome
  have hall : (cells.filter fun c => !c.isNa).all (fun c => c matches .num _) = true := by
    refine List.all_eq_true.mpr fun c hc => ?_
    obtain ⟨q, rfl⟩ := hvalues c hc
    rfl
  rw [sumCells, if_pos hall]
  congr 2
  clear hvalues hall
  induction cells with
  | nil => rfl
  | cons c cells ih =>
      have hrest := ih fun c' hc' => h c' (List.mem_cons_of_mem c hc')
      rcases h c List.mem_cons_self with rfl | ⟨q, rfl⟩
      · rw [List.filter_cons_of_neg (by decide), hrest, List.map_cons, List.sum_cons]
        exact (zero_add _).symm
      · rw [List.filter_cons_of_pos (by rfl), List.map_cons, List.sum_cons, ← hrest]
        exact List.sum_cons

/-- The amounts of a column are not negative: neither the numbers nor what `float` reads of texts
that a sum puts together. -/
structure NonnegAmounts (env : PyEnv) (amounts : List Cell) : Prop where
  numbers : ∀ q, .num q ∈ amounts → 0 ≤ q
  texts : ∀ cells ⊆ amounts, (∃ s, .str s ∈ cells) →
    ∀ q, env.toFloat (joinTexts cells) = .ok (some q) → 0 ≤ q

lemma NonnegAmounts.mono {env : PyEnv} {amounts amounts' : List Cell}
    (h : NonnegAmounts env amounts) (hsub : amounts' ⊆ amounts) : NonnegAmounts env amounts' :=
  ⟨fun q hq => h.numbers q (hsub hq), fun cells hcells => h.texts cells fun _ hc => hsub (hcells hc)⟩

/-- Where there are no texts, this is about the numbers alone. -/
lemma NumbersOnly.nonnegAmounts {env : PyEnv} {amounts : List Cell} (h : NumbersOnly amounts)
    (hnumbers : ∀ q, .num q ∈ amounts → 0 ≤ q) : NonnegAmounts env amounts := by
  refine ⟨hnumbers, fun cells hcells ⟨s, hs⟩ => ?_⟩
  rcases h _ (hcells hs) with hblank | ⟨q, hq⟩
  · cases hblank
  · cases hq

/-- Blanks add nothing to a text. -/
lemma joinTexts_filter (cells : List Cell) :
    joinTexts (cells.filter fun c => !c.isNa) = joinTexts cells := by
  rw [joinTexts, List.foldl_filter, joinTexts]
  congr 1
  funext text c
  cases c <;> rfl

/-- What a sum that goes through is: of numbers, or of texts. -/
lemma sumCells_ok {cells : List Cell} {c : Cell} (h : sumCells cells = .ok c) :
    (NumbersOnly cells ∧ c = .num (cells.map Cell.number).sum) ∨
      ((∃ s, .str s ∈ cells) ∧ c = .str (joinTexts cells)) := by
  by_cases hnumbers : NumbersOnly cells
  · rw [sumCells_numbers hnumbers] at h
    exact Or.inl ⟨hnumbers, (Except.ok.inj h).symm⟩
  -- a cell that is neither a number nor blank is one of the values
  obtain ⟨x, hx, hvalue⟩ : ∃ x ∈ cells, ¬ (x = .blank ∨ ∃ q, x = .num q) := by
    simpa [NumbersOnly] using hnumbers
  have hmem : x ∈ cells.filter fun c => !c.isNa := by
    refine List.mem_filter.mpr ⟨hx, ?_⟩
    simpa [Cell.isNa] using fun hblank => hvalue (Or.inl hblank)
  simp only [sumCells] at h
  split at h
  · rename_i hall
    have hnum := List.all_eq_true.mp hall x hmem
    cases x with
    | num q => exact absurd (Or.inr ⟨q, rfl⟩) hvalue
    | blank => cases hnum
    | str s => cases hnum
    | date t => cases hnum
  · split at h
    · rename_i htexts
      have htext := List.all_eq_true.mp htexts x hmem
      rw [joinTexts_filter] at h
      cases x with
      | str s => exact Or.inr ⟨⟨s, hx⟩, (Except.ok.inj h).symm⟩
      | blank => cases htext
      | num q => cases htext
      | date t => cases htext
    · cases h

/-- No sum of amounts that are not negative is. -/
lemma NonnegAmounts.sum_nonneg {env : PyEnv} {amounts : List Cell} (h : NonnegAmounts env amounts)
    {c : Cell} (hsum : sumCells amounts = .ok c) {q : ℚ} (hq : c.toFloat env = .ok (some q)) :
    0 ≤ q := by
  rcases sumCells_ok hsum with ⟨hnumbers, rfl⟩ | ⟨htext, rfl⟩
  · obtain rfl := Option.some.inj (Except.ok.inj hq)
    refine List.sum_nonneg fun x hx => ?_
    obtain ⟨c, hc, rfl⟩ := List.mem_map.mp hx
    rcases hnumbers c hc with rfl | ⟨y, rfl⟩
    · exact le_rfl
    · exact h.numbers y hc
  · exact h.texts _ (List.Subset.refl _) htext q hq

/-! ### Sheets -/

/-- A row with its index label. -/
structure Record where
  index : ℤ
  cell : String → Cell

/-- A sheet. -/
structure Frame where
  columns : List String
  rows : List Record

namespace Frame

/-- The values of a column. -/
def column (df : Frame) (name : String) : List Cell := df.rows.map (·.cell name)

/-- `df.empty`. -/
def isEmpty (df : Frame) : Bool := df.rows.isEmpty || df.columns.isEmpty

/-- The first of the names that is a column. -/
def resolveColumn? (df : Frame) (names : List String) : Option String :=
  names.find? fun name => name ∈ df.columns

/-- Python's `KeyError` of a column that is not there. -/
def requireColumns (df : Frame) (names : List String) : Except String Unit :=
  match names.find? fun name => name ∉ df.columns with
  | none => .ok ()
  | some name => .error ("KeyError: '" ++ name ++ "'")

end Frame

/-! ### Stages -/

/-- The stage texts, `STAGES`. -/
inductive LoanStage where
  | stage1 | stage2 | stage3
  deriving DecidableEq, Repr

namespace LoanStage

instance : Fintype LoanStage :=
  ⟨{stage1, stage2, stage3}, fun stage => by cases stage <;> decide⟩

def text : LoanStage → String
  | stage1 => "Stage 1"
  | stage2 => "Stage 2"
  | stage3 => "Stage 3"

/-- `STAGES`. -/
def all : List LoanStage := [stage1, stage2, stage3]

lemma mem_all (stage : LoanStage) : stage ∈ all := by
  cases stage <;> decide

/-- A sum over the stages. -/
lemma sum_eq {M : Type*} [AddCommMonoid M] (f : LoanStage → M) :
    ∑ stage, f stage = f stage1 + f stage2 + f stage3 := by
  change ∑ stage ∈ {stage1, stage2, stage3}, f stage = _
  rw [Finset.sum_insert (by decide), Finset.sum_insert (by decide), Finset.sum_singleton,
    add_assoc]

end LoanStage

end EclServer.Engine
