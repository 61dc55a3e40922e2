import Mathlib.Tactic

/-!
Calendar instants and month arithmetic.

* `Timestamp`: a proleptic Gregorian date with a time of day; a date that does not exist
  cannot be built.
* `monthIndex`: months since year zero; `monthsBetween` is its difference.
* `addMonths`: the same day of another month, or that month's last day.
* The linear order of instants; `addMonths_strictMono`: later months are later instants.
-/

namespace EclServer.Library

/-- `y` is a leap year. -/
def isLeapYear (y : ℤ) : Bool := (y % 4 = 0 ∧ y % 100 ≠ 0) ∨ y % 400 = 0

/-- The number of days of a month, months being numbered from 0. -/
def daysInMonth (y : ℤ) (m : ℕ) : ℕ :=
  if m = 1 then (if isLeapYear y then 29 else 28)
  else if m = 3 ∨ m = 5 ∨ m = 8 ∨ m = 10 then 30
  else 31

lemma daysInMonth_pos (y : ℤ) (m : ℕ) : 0 < daysInMonth y m := by
  unfold daysInMonth
  split_ifs <;> omega

/-- A date that exists, with a time of day. The month is stored as `monthIndex`, the months
since year zero, and the day and the time count from one and from zero. -/
structure Timestamp where
  monthIndex : ℤ
  day : ℕ
  time : ℕ := 0
  day_pos : 0 < day
  day_le : day ≤ daysInMonth (monthIndex / 12) (monthIndex % 12).toNat
  deriving DecidableEq

namespace Timestamp

/-- The calendar year. -/
def year (t : Timestamp) : ℤ := t.monthIndex / 12

/-- The calendar month, from 1. -/
def month (t : Timestamp) : ℤ := t.monthIndex % 12 + 1

lemma monthIndex_eq (t : Timestamp) : t.monthIndex = t.year * 12 + (t.month - 1) := by
  rw [year, month]
  omega

lemma ext_iff' {a b : Timestamp} :
    a = b ↔ a.monthIndex = b.monthIndex ∧ a.day = b.day ∧ a.time = b.time := by
  cases a
  cases b
  simp

/-! ### Order -/

/-- The instant as a triple in the order of reading. -/
def key (t : Timestamp) : ℤ ×ₗ ℕ ×ₗ ℕ := toLex (t.monthIndex, toLex (t.day, t.time))

lemma key_injective : Function.Injective key := by
  intro a b h
  rw [key, key, toLex_inj, Prod.mk.injEq, toLex_inj, Prod.mk.injEq] at h
  exact ext_iff'.mpr h

instance : LinearOrder Timestamp := LinearOrder.lift' key key_injective

lemma lt_iff {a b : Timestamp} :
    a < b ↔ a.monthIndex < b.monthIndex ∨
      a.monthIndex = b.monthIndex ∧ (a.day < b.day ∨ a.day = b.day ∧ a.time < b.time) := by
  change key a < key b ↔ _
  simp [key, Prod.Lex.toLex_lt_toLex]

/-- An instant of an earlier month is earlier. -/
lemma lt_of_monthIndex_lt {a b : Timestamp} (h : a.monthIndex < b.monthIndex) : a < b :=
  lt_iff.mpr (Or.inl h)

lemma monthIndex_le_of_le {a b : Timestamp} (h : a ≤ b) : a.monthIndex ≤ b.monthIndex := by
  by_contra hlt
  exact absurd h (not_le.mpr (lt_of_monthIndex_lt (not_le.mp hlt)))

/-! ### Month arithmetic -/

/-- The same day and time `k` months later, or the last day of that month. -/
def addMonths (t : Timestamp) (k : ℤ) : Timestamp where
  monthIndex := t.monthIndex + k
  day := min t.day (daysInMonth ((t.monthIndex + k) / 12) ((t.monthIndex + k) % 12).toNat)
  time := t.time
  day_pos := lt_min t.day_pos (daysInMonth_pos _ _)
  day_le := min_le_right _ _

@[simp] lemma monthIndex_addMonths (t : Timestamp) (k : ℤ) :
    (t.addMonths k).monthIndex = t.monthIndex + k := rfl

@[simp] lemma addMonths_zero (t : Timestamp) : t.addMonths 0 = t := by
  rw [ext_iff']
  refine ⟨by simp, ?_, rfl⟩
  simp only [addMonths, add_zero]
  exact min_eq_left t.day_le

/-- Later months are later instants. -/
lemma addMonths_strictMono (t : Timestamp) : StrictMono t.addMonths := fun a b hab =>
  lt_of_monthIndex_lt (by simpa using hab)

lemma addMonths_lt_addMonths {t : Timestamp} {a b : ℤ} :
    t.addMonths a < t.addMonths b ↔ a < b := t.addMonths_strictMono.lt_iff_lt

/-- The months from the month of `a` to the month of `b`. -/
def monthsBetween (a b : Timestamp) : ℤ := (b.year - a.year) * 12 + (b.month - a.month)

lemma monthsBetween_eq (a b : Timestamp) : monthsBetween a b = b.monthIndex - a.monthIndex := by
  rw [monthsBetween, a.monthIndex_eq, b.monthIndex_eq]
  ring

@[simp] lemma monthsBetween_addMonths (a b : Timestamp) (k : ℤ) :
    monthsBetween a (b.addMonths k) = monthsBetween a b + k := by
  simp only [monthsBetween_eq, monthIndex_addMonths]
  ring

end Timestamp

end EclServer.Library
