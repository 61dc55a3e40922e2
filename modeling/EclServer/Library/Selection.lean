import EclServer.Library.Table

/-!
Selections of rows through the operations on tables: what an operation makes of selected rows is
the selection of what it makes of all.

* `filter_dropDuplicates_of_key`, `filter_sortByKey_of_nodup`, `filter_leftJoin`: a selection that does
  not tell rows of one key, or rows that are joined, apart.
* `related`: the rows that share a key with a selected one. `filter_related`: it loses none of
  the selected rows.
* `mem_iff_of_forall₂`, `mapM_filter_ok`: the rows made of a table are what is made of its rows,
  and those of a selection are selected.
* `find?_eq_of_mem_iff`: searches for a row there is once, in two tables that have it alike.
-/

namespace EclServer.Library

variable {α β κ : Type*}

section

variable [DecidableEq κ] {key : α → κ} {p : α → Bool}

/-- A selection of whole keys is made before or after duplicates are dropped. -/
lemma filter_dropDuplicates_of_key (hp : ∀ a b, key a = key b → p a = p b) (l : List α) :
    (dropDuplicates key l).filter p = dropDuplicates key (l.filter p) := by
  induction l with
  | nil => rfl
  | cons a as ih =>
      rw [dropDuplicates]
      by_cases ha : p a = true
      · rw [List.filter_cons_of_pos ha, List.filter_cons_of_pos ha, dropDuplicates, ← ih,
          List.filter_filter, List.filter_filter]
        congr 1
        exact List.filter_congr fun b _ => Bool.and_comm _ _
      · rw [List.filter_cons_of_neg ha, List.filter_cons_of_neg ha, ← ih, List.filter_filter]
        refine List.filter_congr fun b _ => ?_
        by_cases hb : p b = true
        · have hne : key b ≠ key a := fun hsame => ha ((hp b a hsame).symm.trans hb)
          rw [hb, decide_eq_true hne, Bool.and_self]
        · rw [Bool.not_eq_true] at hb
          rw [hb, Bool.false_and]

end

/-- Where the keys are distinct, a selection is made before or after the sort. -/
lemma filter_sortByKey_of_nodup [LinearOrder κ] {key : α → κ} {l : List α}
    (hkeys : (l.map key).Nodup) (p : α → Bool) :
    (sortByKey key l).filter p = sortByKey key (l.filter p) := by
  have hperm : (l.filter p).Perm ((sortByKey key l).filter p) :=
    (sortByKey_perm key l).symm.filter p
  have hsorted : ((sortByKey key l).filter p).Pairwise fun a b => key a ≤ key b :=
    (sortByKey_sorted key l).filter p
  rw [← sortByKey_of_sorted key hsorted]
  refine (sortByKey_eq_of_nodup key hperm ?_).symm
  exact hkeys.sublist (List.filter_sublist.map key)

section

variable {on : α → β → Bool} {p : α → Bool}

/-- A selection of left rows is made before or after the join. -/
lemma filter_leftJoin_left (l : List α) (r : List β) :
    (leftJoin on l r).filter (fun pair => p pair.1) = leftJoin on (l.filter p) r := by
  induction l with
  | nil => rfl
  | cons a as ih =>
      have hcons : ∀ l', leftJoin on (a :: l') r = leftJoin on [a] r ++ leftJoin on l' r := by
        intro l'
        rw [leftJoin, List.flatMap_cons, leftJoin, List.flatMap_singleton, leftJoin]
      have hfst : ∀ pair ∈ leftJoin on [a] r, pair.1 = a := fun pair hpair =>
        List.mem_singleton.mp ((mem_leftJoin on).mp hpair).1
      rw [hcons as, List.filter_append, ih]
      by_cases ha : p a = true
      · rw [List.filter_cons_of_pos ha, hcons (as.filter p)]
        congr 1
        exact List.filter_eq_self.mpr fun pair hpair => by rw [hfst pair hpair, ha]
      · have hnone : (leftJoin on [a] r).filter (fun pair => p pair.1) = [] :=
          List.filter_eq_nil_iff.mpr fun pair hpair => by rwa [hfst pair hpair]
        rw [List.filter_cons_of_neg ha, hnone, List.nil_append]

/-- A selection of left rows needs the right rows that can match them only. -/
lemma filter_leftJoin {q : β → Bool} (hq : ∀ a b, p a = true → on a b = true → q b = true)
    (l : List α) (r : List β) :
    (leftJoin on l r).filter (fun pair => p pair.1) = leftJoin on (l.filter p) (r.filter q) := by
  rw [filter_leftJoin_left, leftJoin, leftJoin]
  refine List.flatMap_congr fun a ha => ?_
  have hmatches : (r.filter q).filter (on a) = r.filter (on a) := by
    rw [List.filter_filter]
    refine List.filter_congr fun b _ => ?_
    cases hon : on a b with
    | false => rw [Bool.false_and]
    | true => rw [hq a b (List.mem_filter.mp ha).2 hon, Bool.and_self]
  rw [hmatches]

end

/-! ### Rows that go together -/

section

variable [DecidableEq κ] {key : α → κ} {p q : α → Bool} {rows : List α} {a : α}

/-- The rows that share a key with one of the selected rows. -/
def related (key : α → κ) (p : α → Bool) (rows : List α) : List α :=
  rows.filter fun a => rows.any fun b => p b && decide (key b = key a)

lemma mem_related : a ∈ related key p rows ↔ a ∈ rows ∧ ∃ b ∈ rows, p b = true ∧ key b = key a := by
  rw [related, List.mem_filter, List.any_eq_true]
  simp only [Bool.and_eq_true, decide_eq_true_iff]

/-- Selected rows are related to themselves. -/
lemma filter_related (hp : ∀ a, q a = true → p a = true) :
    (related key p rows).filter q = rows.filter q := by
  rw [related, List.filter_filter]
  refine List.filter_congr fun a ha => ?_
  by_cases hq : q a = true
  · rw [hq, Bool.true_and, List.any_eq_true]
    exact ⟨a, ha, by rw [hp a hq, decide_eq_true rfl, Bool.and_self]⟩
  · rw [Bool.not_eq_true] at hq
    rw [hq, Bool.false_and]

/-- All rows of a key are related to a selected row, or none is. -/
lemma filter_related_key (hkey : ∃ b ∈ rows, p b = true ∧ key b = key a) :
    (related key p rows).filter (fun b => key b = key a) = rows.filter fun b => key b = key a := by
  obtain ⟨c, hc, hp, hsame⟩ := hkey
  rw [related, List.filter_filter]
  refine List.filter_congr fun b _ => ?_
  by_cases hb : key b = key a
  · rw [decide_eq_true hb, Bool.true_and, List.any_eq_true]
    exact ⟨c, hc, by rw [hp, decide_eq_true (hsame.trans hb.symm), Bool.and_self]⟩
  · rw [decide_eq_false hb, Bool.false_and]

end

/-- The rows that were made of a table one by one are what is made of its rows. -/
lemma mem_iff_of_forall₂ {ε : Type*} {f : α → Except ε β} {l : List α} {r : List β} {b : β}
    (h : List.Forall₂ (fun a b => f a = .ok b) l r) : b ∈ r ↔ ∃ a ∈ l, f a = .ok b := by
  induction h with
  | nil => simp only [List.not_mem_nil, false_and, exists_false]
  | @cons a c l r hrow _ ih =>
      rw [List.mem_cons, ih, List.exists_mem_cons_iff, hrow]
      simp only [Except.ok.injEq, eq_comm]

/-- Rows selected before or after they are made one by one. -/
lemma mapM_filter_ok {ε : Type*} {f : α → Except ε β} {p : α → Bool} {q : β → Bool} {l : List α}
    {r : List β} (h : l.mapM f = .ok r) (hpq : ∀ a ∈ l, ∀ b, f a = .ok b → p a = q b) :
    (l.filter p).mapM f = .ok (r.filter q) := by
  have hrows := forall₂_of_mapM_ok h
  clear h
  induction hrows with
  | nil => rfl
  | @cons a b l r hrow _ ih =>
      have hrest := ih fun c hc => hpq c (List.mem_cons_of_mem _ hc)
      rw [List.filter_cons, List.filter_cons, ← hpq a List.mem_cons_self b hrow]
      by_cases hp : p a = true
      · rw [if_pos hp, if_pos hp, List.mapM_cons, hrow, hrest]
        rfl
      · rw [if_neg hp, if_neg hp, hrest]

/-- Searches for a row there is once, in two tables that have it alike. -/
lemma find?_eq_of_mem_iff {q : α → Bool} {l l' : List α}
    (hone : ∀ a ∈ l, ∀ b ∈ l, q a = true → q b = true → a = b)
    (hmem : ∀ a, q a = true → (a ∈ l ↔ a ∈ l')) : l.find? q = l'.find? q := by
  cases hfind : l.find? q with
  | none =>
      symm
      rw [List.find?_eq_none] at hfind ⊢
      exact fun a ha hq => hfind a ((hmem a hq).mpr ha) hq
  | some a =>
      have hq := List.find?_some hfind
      have ha := List.mem_of_find?_eq_some hfind
      cases hfind' : l'.find? q with
      | none => exact absurd hq (List.find?_eq_none.mp hfind' a ((hmem a hq).mp ha))
      | some b =>
          have hqb := List.find?_some hfind'
          have hb := (hmem b hqb).mpr (List.mem_of_find?_eq_some hfind')
          rw [hone a ha b hb hq hqb]

end EclServer.Library
