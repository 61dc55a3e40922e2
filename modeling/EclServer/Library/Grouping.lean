import EclServer.Library.Table

/-!
Aggregates over the groups of a table.

* `sum_groupBy`: sums made group by group add up to the sum over the table.
* `groupKeys_pair`, `groupBy_pair`: groups by two keys, seen from the first of them.
* `groupKeys_of_injective`, `groupBy_of_injective`: a key that renames another one;
  `exists_of_determines`: a key that determines another one renames the pair.
* `flatMap_filter_eq`: an inner join with a table that has no row twice.
* `groupBy_filter_key`: a condition on the key keeps a group or leaves it out.
-/

namespace EclServer.Library

variable {α κ ι : Type*} [DecidableEq κ] [DecidableEq ι]

/-! ### Sums -/

section

variable {M : Type*} [AddCommMonoid M] (key : α → κ) (f : α → M)

/-- A sum over the rows that have a value: the others count nothing. -/
lemma sum_filterMap (v : α → Option M) (l : List α) :
    (l.filterMap v).sum = (l.map fun a => (v a).getD 0).sum := by
  induction l with
  | nil => rfl
  | cons a as ih =>
      rw [List.map_cons, List.sum_cons, ← ih]
      cases h : v a with
      | none => rw [List.filterMap_cons_none h, Option.getD_none, zero_add]
      | some m => rw [List.filterMap_cons_some h, Option.getD_some, List.sum_cons]

/-- Sums made group by group add up to the sum over the table. -/
lemma sum_groupBy (l : List α) :
    ((groupKeys key l).map fun k => ((groupBy key l k).map f).sum).sum = (l.map f).sum := by
  have hperm : ((groupKeys key l).flatMap (groupBy key l)).Perm l :=
    flatMap_groupBy_perm (nodup_groupKeys key l) fun a ha => (mem_groupKeys key).mpr ⟨a, ha, rfl⟩
  have hsum := (hperm.map f).sum_eq
  rw [List.map_flatMap, List.flatMap_def, List.sum_flatten, List.map_map] at hsum
  exact hsum

end

/-! ### Two keys -/

section

variable (f : α → κ) (g : α → ι)

lemma filter_dropDuplicates (p : κ → Bool) (l : List κ) :
    (dropDuplicates id l).filter p = dropDuplicates id (l.filter p) := by
  induction l with
  | nil => rfl
  | cons a as ih =>
      have hcomm : ((dropDuplicates id as).filter fun b => id b ≠ id a).filter p
          = ((dropDuplicates id as).filter p).filter fun b => id b ≠ id a := by
        rw [List.filter_filter, List.filter_filter]
        exact List.filter_congr fun b _ => Bool.and_comm _ _
      rw [dropDuplicates]
      by_cases hp : p a = true
      · rw [List.filter_cons_of_pos hp, List.filter_cons_of_pos hp, dropDuplicates, hcomm, ih]
      · have hsame : (dropDuplicates id (as.filter p)).filter (fun b => id b ≠ id a)
            = dropDuplicates id (as.filter p) := by
          refine List.filter_eq_self.mpr fun b hb => ?_
          have hpb := (List.mem_filter.mp (mem_of_mem_dropDuplicates id hb)).2
          exact decide_eq_true fun hba => hp ((show b = a from hba) ▸ hpb)
        rw [List.filter_cons_of_neg hp, List.filter_cons_of_neg hp, hcomm, ih, hsame]

/-- Repeated values may be dropped before a function is applied. -/
lemma dropDuplicates_map_dropDuplicates (p : κ → ι) (l : List κ) :
    dropDuplicates id ((dropDuplicates id l).map p) = dropDuplicates id (l.map p) := by
  induction l with
  | nil => rfl
  | cons a as ih =>
      have hswap : (((dropDuplicates id as).filter fun b => id b ≠ id a).map p).filter
          (fun c => id c ≠ id (p a))
          = ((dropDuplicates id as).map p).filter fun c => id c ≠ id (p a) := by
        rw [List.filter_map, List.filter_map, List.filter_filter]
        congr 1
        refine List.filter_congr fun b _ => ?_
        by_cases hb : p b = p a
        · simp [hb]
        · have hne : b ≠ a := fun h => hb (h ▸ rfl)
          simp [hb, hne]
      rw [dropDuplicates, List.map_cons, List.map_cons, dropDuplicates, dropDuplicates,
        filter_dropDuplicates, hswap, ← filter_dropDuplicates, ih]

lemma dropDuplicates_map_injective {p : κ → ι} (hp : Function.Injective p) (l : List κ) :
    dropDuplicates id (l.map p) = (dropDuplicates id l).map p := by
  induction l with
  | nil => rfl
  | cons a as ih =>
      rw [List.map_cons, dropDuplicates, dropDuplicates, ih, List.filter_map, List.map_cons]
      congr 2
      refine List.filter_congr fun b _ => ?_
      simp [hp.eq_iff]

/-- The first keys of the pairs are the first keys of the rows. -/
lemma groupKeys_pair (l : List α) :
    groupKeys Prod.fst (groupKeys (fun a => (f a, g a)) l) = groupKeys f l := by
  rw [groupKeys, groupKeys, dropDuplicates_map_dropDuplicates, List.map_map]
  rfl

/-- The pairs of a first key are made of the second keys of its rows. -/
lemma groupBy_pair (l : List α) (k : κ) :
    groupBy Prod.fst (groupKeys (fun a => (f a, g a)) l) k
      = (groupKeys g (groupBy f l k)).map fun j => (k, j) := by
  have hrows : (l.map fun a => (f a, g a)).filter (fun p => p.1 = k)
      = ((groupBy f l k).map g).map fun j => (k, j) := by
    rw [List.filter_map, List.map_map]
    refine List.map_congr_left fun a ha => ?_
    have hk : f a = k := by simpa using (List.mem_filter.mp ha).2
    simp [hk]
  have hinj : Function.Injective fun j : ι => (k, j) := fun _ _ h => (Prod.mk.inj h).2
  rw [groupBy, groupKeys, filter_dropDuplicates, hrows, dropDuplicates_map_injective hinj,
    groupKeys]

/-- The rows of a pair of keys. -/
lemma groupBy_prodMk (l : List α) (k : κ) (j : ι) :
    groupBy (fun a => (f a, g a)) l (k, j) = groupBy g (groupBy f l k) j := by
  rw [groupBy, groupBy, groupBy, List.filter_filter]
  refine List.filter_congr fun a _ => ?_
  simp [Prod.ext_iff, Bool.and_comm]

variable {f g} {l : List α}

/-- A key that renames another one makes the same groups. -/
lemma groupKeys_of_injective {key : α → κ} {h : ι → κ} (hinj : Function.Injective h)
    (hkey : ∀ a ∈ l, key a = h (g a)) : groupKeys key l = (groupKeys g l).map h := by
  have hrows : l.map key = (l.map g).map h := by
    rw [List.map_map]
    exact List.map_congr_left hkey
  rw [groupKeys, hrows, dropDuplicates_map_injective hinj, groupKeys]

lemma groupBy_of_injective {key : α → κ} {h : ι → κ} (hinj : Function.Injective h)
    (hkey : ∀ a ∈ l, key a = h (g a)) (j : ι) : groupBy key l (h j) = groupBy g l j := by
  rw [groupBy, groupBy]
  refine List.filter_congr fun a ha => ?_
  rw [hkey a ha]
  simp [hinj.eq_iff]

omit [DecidableEq κ] in
/-- What a key determines is a function of the key. -/
lemma exists_of_determines [Nonempty κ] (h : ∀ a ∈ l, ∀ b ∈ l, g a = g b → f a = f b) :
    ∃ p : ι → κ, ∀ a ∈ l, f a = p (g a) := by
  classical
  refine ⟨fun j => if hj : ∃ a ∈ l, g a = j then f hj.choose else Classical.arbitrary κ, ?_⟩
  intro a ha
  have hj : ∃ b ∈ l, g b = g a := ⟨a, ha, rfl⟩
  simp only [dif_pos hj]
  exact h a ha _ hj.choose_spec.1 hj.choose_spec.2.symm

end

/-! ### Joins -/

section

variable (k : α → κ) (f : α → ι)

omit [DecidableEq ι] in
/-- An inner join with a table that has no row twice selects the rows that have a match. -/
lemma flatMap_filter_eq {l : List κ} (hl : l.Nodup) (rows : List α) :
    (rows.flatMap fun a => (l.filter fun b => b = k a).map fun _ => f a)
      = (rows.filter fun a => k a ∈ l).map f := by
  induction rows with
  | nil => rfl
  | cons a as ih =>
      rw [List.flatMap_cons, ih]
      by_cases ha : k a ∈ l
      · have hone := filter_eq_singleton id (by simpa using hl) ha
        simp only [id_eq] at hone
        rw [hone, List.filter_cons_of_pos (by simpa using ha)]
        rfl
      · have hnone : (l.filter fun b => b = k a) = [] := by
          rw [List.filter_eq_nil_iff]
          intro b hb hkey
          exact ha (of_decide_eq_true hkey ▸ hb)
        rw [hnone, List.filter_cons_of_neg (by simpa using ha)]
        rfl

end

/-! ### Conditions on a group -/

section

variable (key : α → κ) (l : List α)

/-- A condition on the key keeps a group or leaves it out. -/
lemma groupBy_filter_key (p : κ → Bool) {k : κ} (hk : p k = true) :
    groupBy key (l.filter fun a => p (key a)) k = groupBy key l k := by
  rw [groupBy, groupBy, List.filter_filter]
  refine List.filter_congr fun a _ => ?_
  by_cases ha : key a = k
  · simp [ha, hk]
  · simp [ha]

lemma groupBy_filter_comm (p : α → Bool) (k : κ) :
    groupBy key (l.filter p) k = (groupBy key l k).filter p := by
  rw [groupBy, groupBy, List.filter_filter, List.filter_filter]
  exact List.filter_congr fun a _ => Bool.and_comm _ _

end

end EclServer.Library
