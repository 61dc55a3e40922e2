import Mathlib.Tactic

/-!
Operations on tables, a table being the list of its rows.

* `dropDuplicates`: the first row of each key.
* `sortByKey`: a stable sort. `filter_sortByKey`: it does not reorder the rows of a
  selection that is sorted already; `sortByKey_eq_of_perm`: what it makes of rows whose keys
  are distinct.
* `replaceByKey`, `updateByKey`: rows written back into the table they come from, and a write
  to the row with a key. `countP_updateByKey`: what it does to a count. `exists_split_of_mem`:
  the rows around the one with a key. `find?_filter_key`, `find?_product_key`: the row of a key
  in a selection and in a product.
* `flatMap_swap_perm`, `flatMap_filter_perm`: rows made of rows, in another order.
* `leftJoin`: each left row with the right rows that match it, or with none.
  `length_leftJoin_eq_iff`: when it keeps the number of rows.
* `groupKeys`, `groupBy`, `byGroup`: the keys of a table in the order they first occur, the
  rows of one key, and a table made group by group. `filter_byGroup`: its rows of one key
  are what was made of that key's rows.
-/

namespace EclServer.Library

universe u

variable {α β κ : Type*}

/-! ### Tables read row by row -/

/-- A step and what follows it succeed one after the other. -/
lemma bind_eq_ok {ε : Type*} {σ τ : Type u} {x : Except ε σ} {f : σ → Except ε τ} {b : τ} :
    (x >>= f) = .ok b ↔ ∃ a, x = .ok a ∧ f a = .ok b := by
  cases x with
  | error e => simp [bind, Except.bind]
  | ok a => simp [bind, Except.bind]

section

variable {ε : Type*} {f : α → Except ε β} {l : List α} {r : List β}

/-- Where no row was refused, each row comes from the row it was read from. -/
lemma forall₂_of_mapM_ok (h : l.mapM f = .ok r) : List.Forall₂ (fun a b => f a = .ok b) l r := by
  induction l generalizing r with
  | nil =>
      obtain rfl : [] = r := Except.ok.inj h
      exact List.Forall₂.nil
  | cons a as ih =>
      rw [List.mapM_cons, bind_eq_ok] at h
      obtain ⟨b, ha, h⟩ := h
      obtain ⟨bs, has, h⟩ := bind_eq_ok.mp h
      obtain rfl : b :: bs = r := Except.ok.inj h
      exact List.Forall₂.cons ha (ih has)

lemma exists_of_mem_mapM (h : l.mapM f = .ok r) {b : β} (hb : b ∈ r) : ∃ a ∈ l, f a = .ok b := by
  obtain ⟨i, hi, rfl⟩ := List.mem_iff_getElem.mp hb
  have hrows := List.forall₂_iff_get.mp (forall₂_of_mapM_ok h)
  have hi' : i < l.length := by omega
  exact ⟨l[i], List.getElem_mem hi', hrows.2 i hi' hi⟩

/-- Every row of the list has its result among the results. -/
lemma exists_mem_of_mapM_ok (h : l.mapM f = .ok r) {a : α} (ha : a ∈ l) : ∃ b ∈ r, f a = .ok b := by
  obtain ⟨i, hi, rfl⟩ := List.mem_iff_getElem.mp ha
  have hrows := List.forall₂_iff_get.mp (forall₂_of_mapM_ok h)
  have hi' : i < r.length := by omega
  exact ⟨r[i], List.getElem_mem hi', hrows.2 i hi hi'⟩

/-- What each result takes from its row, the results take from the rows. -/
lemma map_eq_of_mapM_ok {γ : Type*} {key : β → γ} {g : α → γ} (h : l.mapM f = .ok r)
    (hkey : ∀ a b, f a = .ok b → key b = g a) : r.map key = l.map g := by
  have hrows := forall₂_of_mapM_ok h
  clear h
  induction hrows with
  | nil => rfl
  | cons hab _ ih => rw [List.map_cons, List.map_cons, ih, hkey _ _ hab]

/-- A check of every row passes exactly when each row passes. -/
lemma forall₂_comp {γ : Type*} {R : α → β → Prop} {S : β → γ → Prop} {T : α → γ → Prop}
    {l : List α} {m : List β} {n : List γ} (hcomp : ∀ a b c, R a b → S b c → T a c)
    (hl : List.Forall₂ R l m) (hn : List.Forall₂ S m n) : List.Forall₂ T l n := by
  induction hl generalizing n with
  | nil =>
      cases hn
      exact List.Forall₂.nil
  | cons hab _ ih =>
      obtain _ | ⟨hbc, htail⟩ := hn
      exact List.Forall₂.cons (hcomp _ _ _ hab hbc) (ih htail)

/-- The error of reading every row is the error of one row. -/
lemma exists_of_mapM_error {e : ε} (h : l.mapM f = .error e) : ∃ a ∈ l, f a = .error e := by
  induction l with
  | nil => cases h
  | cons a as ih =>
      rw [List.mapM_cons] at h
      cases hf : f a with
      | error e' =>
          rw [hf] at h
          obtain rfl : e' = e := Except.error.inj h
          exact ⟨a, List.mem_cons_self, hf⟩
      | ok b =>
          rw [hf] at h
          cases has : as.mapM f with
          | error e' =>
              rw [has] at h
              obtain rfl : e' = e := Except.error.inj h
              obtain ⟨c, hc, hfc⟩ := ih has
              exact ⟨c, List.mem_cons_of_mem a hc, hfc⟩
          | ok bs =>
              rw [has] at h
              cases h

/-- A column added to the rows of a table leaves the rows as they were. -/
lemma map_zipWith_left {γ : Type*} {g : α → β → γ} {proj : γ → α} (hg : ∀ a b, proj (g a b) = a)
    (hlen : l.length ≤ r.length) : (List.zipWith g l r).map proj = l := by
  induction l generalizing r with
  | nil => rfl
  | cons a as ih =>
      cases r with
      | nil => simp at hlen
      | cons b bs =>
          rw [List.zipWith_cons_cons, List.map_cons, hg, ih (Nat.le_of_succ_le_succ hlen)]

/-- Rows that can all be read are all read. -/
lemma mapM_eq_ok_map {g : α → β} (h : ∀ a ∈ l, f a = .ok (g a)) : l.mapM f = .ok (l.map g) := by
  induction l with
  | nil => rfl
  | cons a as ih =>
      rw [List.mapM_cons, h a List.mem_cons_self, ih fun b hb => h b (List.mem_cons_of_mem a hb)]
      rfl

/-- Where every row is accepted, so is the list. -/
lemma exists_mapM_ok (h : ∀ a ∈ l, ∃ b, f a = .ok b) : ∃ r, l.mapM f = .ok r := by
  induction l with
  | nil => exact ⟨[], rfl⟩
  | cons a as ih =>
      obtain ⟨b, hb⟩ := h a List.mem_cons_self
      obtain ⟨bs, hbs⟩ := ih fun c hc => h c (List.mem_cons_of_mem a hc)
      rw [List.mapM_cons, hb]
      simp only [bind, Except.bind, hbs]
      exact ⟨_, rfl⟩

end

/-! ### Removing duplicates -/

section

variable [DecidableEq κ] (key : α → κ)

/-- The first row of each key. -/
def dropDuplicates : List α → List α
  | [] => []
  | a :: as => a :: (dropDuplicates as).filter fun b => key b ≠ key a

lemma dropDuplicates_map {f : β → α} (l : List β) :
    dropDuplicates key (l.map f) = (dropDuplicates (fun b => key (f b)) l).map f := by
  induction l with
  | nil => rfl
  | cons b bs ih =>
      rw [List.map_cons, dropDuplicates, dropDuplicates, ih, List.filter_map, List.map_cons]
      rfl

lemma dropDuplicates_sublist (l : List α) : (dropDuplicates key l).Sublist l := by
  induction l with
  | nil => exact List.Sublist.refl _
  | cons a as ih => exact (List.filter_sublist.trans ih).cons_cons a

lemma mem_of_mem_dropDuplicates {l : List α} {a : α} (h : a ∈ dropDuplicates key l) : a ∈ l :=
  (dropDuplicates_sublist key l).subset h

/-- No two rows kept have the same key. -/
lemma nodup_map_dropDuplicates (l : List α) : ((dropDuplicates key l).map key).Nodup := by
  induction l with
  | nil => exact List.nodup_nil
  | cons a as ih =>
      rw [dropDuplicates, List.map_cons, List.nodup_cons]
      constructor
      · simp
      · exact ih.sublist (List.filter_sublist.map key)

/-- Every key is kept. -/
lemma exists_mem_dropDuplicates {l : List α} {a : α} (h : a ∈ l) :
    ∃ b ∈ dropDuplicates key l, key b = key a := by
  induction l with
  | nil => simp at h
  | cons c cs ih =>
      by_cases hc : key a = key c
      · exact ⟨c, by simp [dropDuplicates], hc.symm⟩
      · have hmem : a ∈ cs := by
          rcases List.mem_cons.mp h with rfl | hmem
          · exact absurd rfl hc
          · exact hmem
        obtain ⟨b, hb, hkey⟩ := ih hmem
        refine ⟨b, ?_, hkey⟩
        simp [dropDuplicates, hb, hkey, hc]

/-- Where the keys are distinct, a key has its own row only. -/
lemma filter_eq_singleton {l : List α} (h : (l.map key).Nodup) {a : α} (ha : a ∈ l) :
    (l.filter fun b => key b = key a) = [a] := by
  induction l with
  | nil => simp at ha
  | cons c cs ih =>
      rw [List.map_cons, List.nodup_cons] at h
      rcases List.mem_cons.mp ha with rfl | hmem
      · have hrest : (cs.filter fun b => key b = key a) = [] := by
          rw [List.filter_eq_nil_iff]
          intro b hb hkey
          exact h.1 ((of_decide_eq_true hkey) ▸ List.mem_map_of_mem hb)
        rw [List.filter_cons_of_pos (by simp), hrest]
      · have hne : key c ≠ key a := fun hkey => h.1 (hkey ▸ List.mem_map_of_mem hmem)
        rw [List.filter_cons_of_neg (by simpa using hne), ih h.2 hmem]

/-- Where the keys are distinct, at most one row has a given key. -/
lemma length_filter_le_one {l : List α} (h : (l.map key).Nodup) (k : κ) :
    (l.filter fun b => key b = k).length ≤ 1 := by
  by_cases hk : ∃ a ∈ l, key a = k
  · obtain ⟨a, ha, rfl⟩ := hk
    rw [filter_eq_singleton key h ha]
    exact le_rfl
  · have hnil : (l.filter fun b => key b = k) = [] := by
      rw [List.filter_eq_nil_iff]
      intro b hb hkey
      exact hk ⟨b, hb, of_decide_eq_true hkey⟩
    rw [hnil]
    exact Nat.zero_le 1

/-- Where the keys are distinct, a selection of rows of one key has at most one row. -/
lemma length_filter_le_one_of_mem {l : List α} (h : (l.map key).Nodup) {p : α → Bool}
    (hp : ∀ a ∈ l, ∀ b ∈ l, p a = true → p b = true → key a = key b) :
    (l.filter p).length ≤ 1 := by
  cases hfilter : l.filter p with
  | nil => exact Nat.zero_le 1
  | cons a as =>
      have hmem : a ∈ l.filter p := hfilter ▸ List.mem_cons_self
      obtain ⟨ha, hpa⟩ := List.mem_filter.mp hmem
      have hsub : (l.filter p).Sublist (l.filter fun b => key b = key a) := by
        have hboth : l.filter p = (l.filter fun b => key b = key a).filter p := by
          rw [List.filter_filter]
          refine List.filter_congr fun b hb => ?_
          by_cases hpb : p b = true
          · rw [hpb, decide_eq_true (hp b hb a ha hpb hpa)]
            rfl
          · rw [Bool.not_eq_true] at hpb
            rw [hpb, Bool.false_and]
        rw [hboth]
        exact List.filter_sublist
      rw [← hfilter]
      exact hsub.length_le.trans (length_filter_le_one key h (key a))

lemma length_filter_le_one_of_key {l : List α} (h : (l.map key).Nodup) {p : α → Bool}
    (hp : ∀ a b, p a = true → p b = true → key a = key b) : (l.filter p).length ≤ 1 :=
  length_filter_le_one_of_mem key h fun a _ b _ => hp a b

lemma mem_dropDuplicates_id [DecidableEq α] {l : List α} {a : α} :
    a ∈ dropDuplicates id l ↔ a ∈ l := by
  constructor
  · exact mem_of_mem_dropDuplicates id
  · intro h
    obtain ⟨b, hb, hkey⟩ := exists_mem_dropDuplicates id h
    obtain rfl : b = a := hkey
    exact hb

/-- The row of a key is its first row. -/
lemma find?_dropDuplicates (l : List α) (k : κ) :
    ((dropDuplicates key l).find? fun a => key a = k) = l.find? fun a => key a = k := by
  induction l with
  | nil => rfl
  | cons a as ih =>
      rw [dropDuplicates, List.find?_cons, List.find?_cons]
      by_cases hk : key a = k
      · simp [hk]
      · have hsame : (((dropDuplicates key as).filter fun b => key b ≠ key a).find? fun b =>
            key b = k) = (dropDuplicates key as).find? fun b => key b = k := by
          rw [List.find?_filter]
          refine List.find?_congr fun b _ => ?_
          by_cases hb : key b = k
          · simp [hb, Ne.symm hk]
          · simp [hb]
        simp only [hk, decide_false, hsame, ih]

/-- A table whose keys are distinct is left alone. -/
lemma dropDuplicates_of_nodup {l : List α} (h : (l.map key).Nodup) : dropDuplicates key l = l := by
  induction l with
  | nil => rfl
  | cons a as ih =>
      rw [List.map_cons, List.nodup_cons] at h
      rw [dropDuplicates, ih h.2, List.filter_eq_self.mpr]
      intro b hb
      have hne : key b ≠ key a := fun hkey => h.1 (hkey ▸ List.mem_map_of_mem hb)
      simpa using hne

end

/-! ### Stable sorting -/

section

variable [LinearOrder κ] (key : α → κ)

/-- The rows in the order of their keys; rows of one key stay in their order. -/
def sortByKey (l : List α) : List α := l.mergeSort fun a b => decide (key a ≤ key b)

@[simp] lemma sortByKey_nil : sortByKey key [] = [] := List.mergeSort_nil

@[simp] lemma sortByKey_singleton (a : α) : sortByKey key [a] = [a] :=
  List.mergeSort_singleton a

lemma sortByKey_perm (l : List α) : (sortByKey key l).Perm l := List.mergeSort_perm l _

@[simp] lemma mem_sortByKey {l : List α} {a : α} : a ∈ sortByKey key l ↔ a ∈ l :=
  (sortByKey_perm key l).mem_iff

lemma sortByKey_sorted (l : List α) :
    (sortByKey key l).Pairwise fun a b => key a ≤ key b := by
  have h : (sortByKey key l).Pairwise fun a b => decide (key a ≤ key b) = true :=
    List.pairwise_mergeSort
      (fun a b c hab hbc => by simp only [decide_eq_true_eq] at *; exact hab.trans hbc)
      (fun a b => by simpa using le_total (key a) (key b)) l
  exact h.imp fun hab => by simpa using hab

/-- The first row has the least key. -/
lemma key_head?_sortByKey {l : List α} {a b : α} (h : (sortByKey key l).head? = some a)
    (hb : b ∈ l) : key a ≤ key b := by
  have hsorted := sortByKey_sorted key l
  have hmem := (mem_sortByKey key).mpr hb
  obtain ⟨as, has⟩ := List.head?_eq_some_iff.mp h
  rw [has] at hsorted hmem
  rcases List.mem_cons.mp hmem with rfl | htail
  · exact le_rfl
  · exact (List.pairwise_cons.mp hsorted).1 b htail

/-- A table in order is left alone. -/
lemma sortByKey_of_sorted {l : List α} (h : l.Pairwise fun a b => key a ≤ key b) :
    sortByKey key l = l :=
  List.mergeSort_of_pairwise (h.imp fun hab => by simpa using hab)

/-- Rows can be made before or after the sort. -/
lemma sortByKey_map {f : β → α} (l : List β) :
    sortByKey key (l.map f) = (sortByKey (fun b => key (f b)) l).map f := by
  rw [sortByKey, sortByKey]
  symm
  apply List.map_mergeSort
  intro _ _ _ _
  rfl

/-- **The sorted table**: rows in strict order of their keys are the sort of any
rearrangement of them. -/
lemma sortByKey_eq_of_perm {l r : List α} (h : l.Perm r)
    (hr : r.Pairwise fun a b => key a < key b) : sortByKey key l = r := by
  have hperm : (sortByKey key l).Perm r := (sortByKey_perm key l).trans h
  have hkeys : (r.map key).Nodup := List.pairwise_map.mpr (hr.imp fun hab => ne_of_lt hab)
  refine List.Perm.eq_of_pairwise (fun a b ha hb hab hba => ?_) (sortByKey_sorted key l)
    (hr.imp fun hab => le_of_lt hab) hperm
  exact List.inj_on_of_nodup_map hkeys (hperm.mem_iff.mp ha) hb (le_antisymm hab hba)

/-- Rows with distinct keys are sorted alike in whatever order they come. -/
lemma sortByKey_eq_of_nodup {l r : List α} (h : l.Perm r) (hkeys : (l.map key).Nodup) :
    sortByKey key l = sortByKey key r := by
  have hperm : (sortByKey key l).Perm (sortByKey key r) :=
    ((sortByKey_perm key l).trans h).trans (sortByKey_perm key r).symm
  refine List.Perm.eq_of_pairwise (fun a b ha hb hab hba => ?_) (sortByKey_sorted key l)
    (sortByKey_sorted key r) hperm
  exact List.inj_on_of_nodup_map hkeys ((mem_sortByKey key).mp ha)
    (h.mem_iff.mpr ((mem_sortByKey key).mp hb)) (le_antisymm hab hba)

lemma sortByKey_congr {l : List α} {key' : α → κ} (h : ∀ a ∈ l, key a = key' a) :
    sortByKey key l = sortByKey key' l := by
  have hmap : (l.mergeSort fun a b => decide (key a ≤ key b)).map id
      = (l.map id).mergeSort fun a b => decide (key' a ≤ key' b) := by
    apply List.map_mergeSort
    intro a ha b hb
    rw [h a ha, h b hb]
    rfl
  rwa [List.map_id, List.map_id] at hmap

/-- Two tables that agree row by row in their keys stay row by row as they are. -/
lemma forall₂_sortByKey {R : α → β → Prop} {key' : β → κ} {l : List α} {r : List β}
    (hkey : ∀ a b, R a b → key a = key' b) (h : List.Forall₂ R l r) :
    List.Forall₂ R (sortByKey key l) (sortByKey key' r) := by
  obtain ⟨hlen, hzip⟩ := List.forall₂_iff_zip.mp h
  have hl : sortByKey key l = (sortByKey (fun p : α × β => key p.1) (l.zip r)).map Prod.fst := by
    rw [← sortByKey_map, List.map_fst_zip hlen.le]
  have hr : sortByKey key' r = (sortByKey (fun p : α × β => key' p.2) (l.zip r)).map Prod.snd := by
    rw [← sortByKey_map, List.map_snd_zip hlen.ge]
  have hsame : sortByKey (fun p : α × β => key p.1) (l.zip r)
      = sortByKey (fun p : α × β => key' p.2) (l.zip r) :=
    sortByKey_congr _ fun p hp => hkey p.1 p.2 (hzip hp)
  rw [hl, hr, hsame, List.forall₂_map_left_iff, List.forall₂_map_right_iff, List.forall₂_same]
  intro p hp
  exact hzip ((mem_sortByKey _).mp hp)

/-- **Stability**: a selection that is in order already comes out of the sort as it was. -/
lemma filter_sortByKey {p : α → Bool} {l : List α}
    (h : (l.filter p).Pairwise fun a b => key a ≤ key b) :
    (sortByKey key l).filter p = l.filter p := by
  have hsub : (l.filter p).Sublist (sortByKey key l) :=
    List.sublist_mergeSort
      (fun a b c hab hbc => by simp only [decide_eq_true_eq] at *; exact hab.trans hbc)
      (fun a b => by simpa using le_total (key a) (key b))
      (h.imp fun hab => by simpa using hab) List.filter_sublist
  have hfilter := hsub.filter p
  simp only [List.filter_filter, Bool.and_self] at hfilter
  refine (hfilter.eq_of_length ?_).symm
  exact ((sortByKey_perm key l).filter p).length_eq.symm

end

/-! ### Writing rows back -/

section

variable [DecidableEq κ] (key : α → κ)

/-- Each row of the table becomes the first of `rows` with its key, where there is one. -/
def replaceByKey (rows table : List α) : List α :=
  table.map fun a => (rows.find? fun b => key b = key a).getD a

/-- Write to the row with a key. -/
def updateByKey (k : κ) (f : α → α) (table : List α) : List α :=
  table.map fun a => if key a = k then f a else a

lemma mem_updateByKey {k : κ} {f : α → α} {table : List α} {b : α} :
    b ∈ updateByKey key k f table ↔ ∃ a ∈ table, (if key a = k then f a else a) = b :=
  List.mem_map

/-- A write that spares the keys leaves them as they are. -/
lemma map_updateByKey {k : κ} {f : α → α} (hkey : ∀ a, key (f a) = key a) (table : List α) :
    (updateByKey key k f table).map key = table.map key := by
  rw [updateByKey, List.map_map]
  refine List.map_congr_left fun a _ => ?_
  rw [Function.comp_apply]
  split
  · exact hkey a
  · rfl

/-- A search that the write does not concern finds the row it found, as it stands now. -/
lemma find?_updateByKey {k : κ} {f : α → α} {p : α → Bool} (hp : ∀ a, p (f a) = p a)
    (table : List α) :
    (updateByKey key k f table).find? p
      = (table.find? p).map fun a => if key a = k then f a else a := by
  have hcomp : (p ∘ fun a => if key a = k then f a else a) = p := by
    funext a
    by_cases hk : key a = k
    · simp only [Function.comp_apply, if_pos hk, hp]
    · simp only [Function.comp_apply, if_neg hk]
  rw [updateByKey, List.find?_map, hcomp]

/-- A write to a key that no row has changes nothing. -/
lemma updateByKey_of_forall_ne {k : κ} {f : α → α} {table : List α}
    (h : ∀ a ∈ table, key a ≠ k) : updateByKey key k f table = table := by
  refine (List.map_congr_left fun a ha => ?_).trans (List.map_id table)
  rw [if_neg (h a ha), id]

/-- **A count after a write** to one row: where the keys are distinct, only that row counts
anew. -/
lemma countP_updateByKey {f : α → α} {table : List α} (hnodup : (table.map key).Nodup) {a : α}
    (ha : a ∈ table) (p : α → Bool) :
    (updateByKey key (key a) f table).countP p + (p a).toNat
      = table.countP p + (p (f a)).toNat := by
  induction table with
  | nil => simp at ha
  | cons c cs ih =>
      rw [List.map_cons, List.nodup_cons] at hnodup
      have hcons : updateByKey key (key a) f (c :: cs)
          = (if key c = key a then f c else c) :: updateByKey key (key a) f cs := rfl
      have hcount : ∀ (b : α) (bs : List α), (b :: bs).countP p = bs.countP p + (p b).toNat := by
        intro b bs
        rw [List.countP_cons]
        cases p b <;> rfl
      rw [hcons, hcount, hcount]
      rcases List.mem_cons.mp ha with rfl | hmem
      · have hrest : updateByKey key (key a) f cs = cs :=
          updateByKey_of_forall_ne key fun b hb hsame =>
            hnodup.1 (hsame ▸ List.mem_map_of_mem hb)
        rw [if_pos rfl, hrest]
        omega
      · have hne : key c ≠ key a := fun hsame => hnodup.1 (hsame ▸ List.mem_map_of_mem hmem)
        have hrest := ih hnodup.2 hmem
        rw [if_neg hne]
        omega

/-- In a table whose keys are distinct, a row is found by its key. -/
lemma find?_key_eq {l : List α} (hnodup : (l.map key).Nodup) {a : α} (ha : a ∈ l) :
    (l.find? fun b => key b = key a) = some a := by
  induction l with
  | nil => simp at ha
  | cons c cs ih =>
      rw [List.map_cons, List.nodup_cons] at hnodup
      rcases List.mem_cons.mp ha with rfl | hmem
      · simp
      · have hne : key c ≠ key a := fun h => hnodup.1 (h ▸ List.mem_map_of_mem hmem)
        rw [List.find?_cons_of_neg (by simpa using hne)]
        exact ih hnodup.2 hmem

/-- Where the keys are distinct, the row of a key in a selection is the row of the key, if it is
selected. -/
lemma find?_filter_key {l : List α} (hnodup : (l.map key).Nodup) (p : α → Bool) (k : κ) :
    (l.filter p).find? (fun a => key a = k) = (l.find? fun a => key a = k).filter p := by
  by_cases hk : ∃ a ∈ l, key a = k
  · obtain ⟨a, ha, rfl⟩ := hk
    rw [find?_key_eq key hnodup ha]
    by_cases hp : p a = true
    · have hsub := hnodup.sublist (List.filter_sublist (p := p).map key)
      rw [find?_key_eq key hsub (List.mem_filter.mpr ⟨ha, hp⟩), Option.filter_some_pos hp]
    · rw [Option.filter_some_neg (Bool.eq_false_of_not_eq_true hp), List.find?_eq_none]
      intro b hb hsame
      obtain ⟨hmem, hpb⟩ := List.mem_filter.mp hb
      rw [List.inj_on_of_nodup_map hnodup hmem ha (of_decide_eq_true hsame)] at hpb
      exact hp hpb
  · have hnone : (l.find? fun a => key a = k) = none := by
      rw [List.find?_eq_none]
      exact fun a ha hsame => hk ⟨a, ha, of_decide_eq_true hsame⟩
    rw [hnone, Option.filter_none, List.find?_eq_none]
    exact fun a ha hsame => hk ⟨a, List.mem_of_mem_filter ha, of_decide_eq_true hsame⟩

/-- Where the keys are distinct, the first pair of a key is the row of the key with its first
partner. -/
lemma find?_product_key {l : List α} (hnodup : (l.map key).Nodup) (r : List β) (q : α → β → Prop)
    [∀ a b, Decidable (q a b)] (k : κ) :
    (l ×ˢ r).find? (fun x => q x.1 x.2 ∧ key x.1 = k)
      = (l.find? fun a => key a = k).bind fun a => (r.find? fun b => q a b).map (a, ·) := by
  have hother : ∀ a : α, key a ≠ k →
      (r.map (a, ·)).find? (fun x => q x.1 x.2 ∧ key x.1 = k) = none := by
    intro a ha
    rw [List.find?_eq_none]
    intro x hx
    obtain ⟨b, -, rfl⟩ := List.mem_map.mp hx
    simp [ha]
  induction l with
  | nil => rfl
  | cons c cs ih =>
      rw [List.map_cons, List.nodup_cons] at hnodup
      have hcons : (c :: cs) ×ˢ r = r.map (c, ·) ++ cs ×ˢ r := rfl
      rw [hcons, List.find?_append, ih hnodup.2]
      by_cases hc : key c = k
      · have hrest : (cs.find? fun a => key a = k) = none := by
          rw [List.find?_eq_none]
          intro a ha hsame
          exact hnodup.1 ((hc.trans (of_decide_eq_true hsame).symm) ▸ List.mem_map_of_mem ha)
        rw [hrest, List.find?_cons_of_pos (by simpa using hc), List.find?_map]
        simp [hc]
      · rw [hother c hc, List.find?_cons_of_neg (by simpa using hc), Option.none_or]

/-- A row of a table whose keys are distinct splits it: a write to its key is a write to it, and
without its key the rows around it are left. -/
lemma exists_split_of_mem {table : List α} (hnodup : (table.map key).Nodup) {a : α}
    (ha : a ∈ table) : ∃ l r, table = l ++ a :: r ∧
      (∀ f, updateByKey key (key a) f table = l ++ f a :: r) ∧
      table.filter (fun b => key b ≠ key a) = l ++ r := by
  obtain ⟨l, r, rfl⟩ := List.append_of_mem ha
  rw [List.map_append, List.map_cons, List.nodup_append, List.nodup_cons] at hnodup
  obtain ⟨-, ⟨hright, -⟩, hleft⟩ := hnodup
  have hl : ∀ b ∈ l, key b ≠ key a := fun b hb =>
    hleft _ (List.mem_map_of_mem hb) _ (List.mem_cons_self ..)
  have hr : ∀ b ∈ r, key b ≠ key a := fun b hb hsame => hright (hsame ▸ List.mem_map_of_mem hb)
  refine ⟨l, r, rfl, fun f => ?_, ?_⟩
  · have hl' := updateByKey_of_forall_ne key (f := f) hl
    have hr' := updateByKey_of_forall_ne key (f := f) hr
    rw [updateByKey] at hl' hr' ⊢
    rw [List.map_append, List.map_cons, hl', hr', if_pos rfl]
  · rw [List.filter_append, List.filter_cons_of_neg (by simp), List.filter_eq_self.mpr,
      List.filter_eq_self.mpr]
    · simpa using hr
    · simpa using hl

/-- A row after others are written back: the one with its key, or itself where there is none. -/
lemma replaceByKey_cases (rows : List α) (a : α) :
    (∃ b ∈ rows, key b = key a ∧ (rows.find? fun b => key b = key a).getD a = b) ∨
      (∀ b ∈ rows, key b ≠ key a) ∧ (rows.find? fun b => key b = key a).getD a = a := by
  rcases hfound : rows.find? fun b => key b = key a with _ | b
  · exact Or.inr ⟨by simpa using hfound, rfl⟩
  · have hkey := List.find?_some hfound
    exact Or.inl ⟨b, List.mem_of_find?_eq_some hfound, of_decide_eq_true hkey, rfl⟩

end

/-! ### Rows made of rows -/

section

variable {γ : Type*}

/-- The rows made of two lists, taken one way round or the other. -/
lemma flatMap_swap_perm (l : List α) (r : List β) (f : α → β → List γ) :
    (l.flatMap fun a => r.flatMap (f a)).Perm (r.flatMap fun b => l.flatMap fun a => f a b) := by
  induction l with
  | nil => simp
  | cons a as ih =>
      rw [List.flatMap_cons]
      exact (ih.append_left _).trans (List.flatMap_append_perm r (f a) _)

/-- The rows made of a selection and of the rest. -/
lemma flatMap_filter_perm (p : α → Bool) (l : List α) (f : α → List γ) :
    ((l.filter p).flatMap f ++ (l.filter fun a => !p a).flatMap f).Perm (l.flatMap f) := by
  rw [← List.flatMap_append]
  exact (List.filter_append_perm p l).flatMap_right f

/-- Rows that nothing is made of do not matter, nor does the order. -/
lemma flatMap_perm_of_subset [DecidableEq α] {l r : List α} {f : α → List γ} (hl : l.Nodup)
    (hr : r.Nodup) (hsub : ∀ a ∈ l, a ∈ r) (hf : ∀ a ∈ r, a ∉ l → f a = []) :
    (l.flatMap f).Perm (r.flatMap f) := by
  have hkept : (r.filter fun a => a ∈ l).Perm l := by
    rw [List.perm_ext_iff_of_nodup (hr.filter _) hl]
    intro a
    simp only [List.mem_filter, decide_eq_true_eq]
    exact ⟨And.right, fun ha => ⟨hsub a ha, ha⟩⟩
  have hrest : (r.filter fun a => !decide (a ∈ l)).flatMap f = [] := by
    rw [List.flatMap_eq_nil_iff]
    intro a ha
    obtain ⟨hmem, hnot⟩ := List.mem_filter.mp ha
    exact hf a hmem (by simpa using hnot)
  have hparts := flatMap_filter_perm (fun a => decide (a ∈ l)) r f
  rw [hrest, List.append_nil] at hparts
  exact (hkept.symm.flatMap_right f).trans hparts

/-- Where the source of a made row can be told, and the rows of one source are distinct, all
made rows are. -/
lemma nodup_flatMap_of_key [DecidableEq κ] (key : α → κ) (keyOf : γ → κ) {l : List α}
    {f : α → List γ} (hnodup : (l.map key).Nodup) (hkey : ∀ a ∈ l, ∀ c ∈ f a, keyOf c = key a)
    (hf : ∀ a ∈ l, (f a).Nodup) : (l.flatMap f).Nodup := by
  rw [List.nodup_flatMap]
  refine ⟨hf, ?_⟩
  have hpairs : l.Pairwise fun a b => key a ≠ key b := List.pairwise_map.mp hnodup
  refine hpairs.imp_of_mem fun ha hb hne => ?_
  intro c hca hcb
  exact hne ((hkey _ ha c hca).symm.trans (hkey _ hb c hcb))

end

/-! ### Left join -/

section

variable (on : α → β → Bool)

/-- Each left row with every right row that matches it, or once with none. -/
def leftJoin (l : List α) (r : List β) : List (α × Option β) :=
  l.flatMap fun a =>
    match r.filter (on a) with
    | [] => [(a, none)]
    | bs => bs.map fun b => (a, some b)

lemma leftJoin_map {γ : Type*} {f : γ → α} (l : List γ) (r : List β) :
    leftJoin on (l.map f) r
      = (leftJoin (fun c => on (f c)) l r).map fun p => (f p.1, p.2) := by
  rw [leftJoin, leftJoin, List.flatMap_map, List.map_flatMap]
  refine List.flatMap_congr fun c _ => ?_
  split <;> simp [*]

lemma mem_leftJoin {l : List α} {r : List β} {a : α} {b : Option β} :
    (a, b) ∈ leftJoin on l r ↔
      a ∈ l ∧ ((b = none ∧ ∀ c ∈ r, on a c = false) ∨ ∃ c ∈ r, on a c = true ∧ b = some c) := by
  simp only [leftJoin, List.mem_flatMap]
  constructor
  · rintro ⟨a', ha', hmem⟩
    split at hmem
    · rename_i hnone
      obtain ⟨rfl, rfl⟩ : a = a' ∧ b = none := by simpa using hmem
      refine ⟨ha', Or.inl ⟨rfl, fun c hc => ?_⟩⟩
      simpa using List.filter_eq_nil_iff.mp hnone c hc
    · obtain ⟨c, hc, hpair⟩ := List.mem_map.mp hmem
      obtain ⟨rfl, rfl⟩ := Prod.mk.inj hpair
      obtain ⟨hcr, hon⟩ := List.mem_filter.mp hc
      exact ⟨ha', Or.inr ⟨c, hcr, hon, rfl⟩⟩
  · rintro ⟨ha, hb⟩
    refine ⟨a, ha, ?_⟩
    rcases hb with ⟨rfl, hnone⟩ | ⟨c, hc, hon, rfl⟩
    · have hnil : r.filter (on a) = [] := by
        rw [List.filter_eq_nil_iff]
        intro c hc
        simp [hnone c hc]
      simp [hnil]
    · have hmem : c ∈ r.filter (on a) := List.mem_filter.mpr ⟨hc, hon⟩
      split
      · rename_i hnil
        rw [hnil] at hmem
        simp at hmem
      · exact List.mem_map_of_mem hmem

/-- A left join keeps every left row. -/
lemma exists_mem_leftJoin {l : List α} (r : List β) {a : α} (ha : a ∈ l) :
    ∃ b, (a, b) ∈ leftJoin on l r := by
  by_cases hmatch : ∃ c ∈ r, on a c = true
  · obtain ⟨c, hc, hon⟩ := hmatch
    exact ⟨some c, (mem_leftJoin on).mpr ⟨ha, Or.inr ⟨c, hc, hon, rfl⟩⟩⟩
  · refine ⟨none, (mem_leftJoin on).mpr ⟨ha, Or.inl ⟨rfl, fun c hc => ?_⟩⟩⟩
    exact Bool.eq_false_iff.mpr fun hon => hmatch ⟨c, hc, hon⟩

/-- Where at most one right row matches each left row, a left join adds a column. -/
lemma leftJoin_eq_map {l : List α} {r : List β}
    (h : ∀ a ∈ l, (r.filter (on a)).length ≤ 1) :
    leftJoin on l r = l.map fun a => (a, (r.filter (on a)).head?) := by
  induction l with
  | nil => rfl
  | cons a as ih =>
      have hstep : leftJoin on (a :: as) r
          = (match r.filter (on a) with
            | [] => [(a, none)]
            | bs => bs.map fun b => (a, some b)) ++ leftJoin on as r := rfl
      rw [hstep, ih fun b hb => h b (List.mem_cons_of_mem a hb), List.map_cons]
      have hone := h a List.mem_cons_self
      match hr : r.filter (on a) with
      | [] => rfl
      | [b] => rfl
      | b :: c :: bs => simp [hr] at hone

lemma length_leftJoin_cons (a : α) (l : List α) (r : List β) :
    (leftJoin on (a :: l) r).length = max 1 (r.filter (on a)).length + (leftJoin on l r).length := by
  rw [leftJoin, List.flatMap_cons, List.length_append]
  congr 1
  cases r.filter (on a) with
  | nil => rfl
  | cons b bs =>
      rw [List.length_map, List.length_cons]
      omega

lemma length_le_length_leftJoin (l : List α) (r : List β) :
    l.length ≤ (leftJoin on l r).length := by
  induction l with
  | nil => exact Nat.zero_le _
  | cons a as ih =>
      rw [length_leftJoin_cons, List.length_cons]
      omega

/-- **A left join keeps the number of rows** exactly where at most one right row matches each. -/
lemma length_leftJoin_eq_iff {l : List α} {r : List β} :
    (leftJoin on l r).length = l.length ↔ ∀ a ∈ l, (r.filter (on a)).length ≤ 1 := by
  induction l with
  | nil => simp [leftJoin]
  | cons a as ih =>
      have hmore := length_le_length_leftJoin on as r
      rw [length_leftJoin_cons, List.length_cons, List.forall_mem_cons, ← ih]
      omega

/-- A left join of distinct rows shows none of them twice exactly then. -/
lemma nodup_fst_leftJoin_iff {l : List α} {r : List β} (hl : l.Nodup) :
    ((leftJoin on l r).map Prod.fst).Nodup ↔ ∀ a ∈ l, (r.filter (on a)).length ≤ 1 := by
  constructor
  · intro hnodup
    have hmem : ∀ a, a ∈ (leftJoin on l r).map Prod.fst ↔ a ∈ l := by
      intro a
      constructor
      · intro ha
        obtain ⟨⟨a, b⟩, hab, rfl⟩ := List.mem_map.mp ha
        exact ((mem_leftJoin on).mp hab).1
      · intro ha
        obtain ⟨b, hab⟩ := exists_mem_leftJoin on r ha
        exact List.mem_map.mpr ⟨(a, b), hab, rfl⟩
    have hlength := ((List.perm_ext_iff_of_nodup hnodup hl).mpr hmem).length_eq
    rw [List.length_map] at hlength
    exact (length_leftJoin_eq_iff on).mp hlength
  · intro hone
    rw [leftJoin_eq_map on hone, List.map_map]
    exact (List.map_id l).symm ▸ hl

end

/-! ### Groups -/

section

variable [DecidableEq κ] (key : α → κ)

/-- The keys of a table, in the order of their first occurrence. -/
def groupKeys (l : List α) : List κ := dropDuplicates id (l.map key)

/-- The rows of one key. -/
def groupBy (l : List α) (k : κ) : List α := l.filter fun a => key a = k

lemma groupKeys_map {f : β → α} (l : List β) :
    groupKeys key (l.map f) = groupKeys (fun b => key (f b)) l := by
  rw [groupKeys, groupKeys, List.map_map]
  rfl

lemma groupBy_map {f : β → α} (l : List β) (k : κ) :
    groupBy key (l.map f) k = (groupBy (fun b => key (f b)) l k).map f := by
  rw [groupBy, List.filter_map]
  rfl

lemma mem_groupKeys {l : List α} {k : κ} : k ∈ groupKeys key l ↔ ∃ a ∈ l, key a = k := by
  constructor
  · intro h
    exact List.mem_map.mp (mem_of_mem_dropDuplicates id h)
  · rintro ⟨a, ha, rfl⟩
    obtain ⟨k, hk, hkey⟩ := exists_mem_dropDuplicates id (List.mem_map_of_mem (f := key) ha)
    rwa [← show k = key a from hkey]

lemma nodup_groupKeys (l : List α) : (groupKeys key l).Nodup := by
  simpa [groupKeys] using nodup_map_dropDuplicates id (l.map key)

lemma mem_groupBy {l : List α} {k : κ} {a : α} : a ∈ groupBy key l k ↔ a ∈ l ∧ key a = k := by
  simp [groupBy]

/-- A table made group by group. -/
def byGroup (f : List α → List β) (l : List α) : List β :=
  (groupKeys key l).flatMap fun k => f (groupBy key l k)

variable {key} {f : List α → List β} {l : List α}

lemma mem_byGroup {b : β} :
    b ∈ byGroup key f l ↔ ∃ k ∈ groupKeys key l, b ∈ f (groupBy key l k) := by
  simp [byGroup]

/-- The groups of a list of keys that do not repeat and miss no row make up the table. The
induction takes the rows of the first key out of the table. -/
lemma flatMap_groupBy_perm {ks : List κ} (hks : ks.Nodup) (hall : ∀ a ∈ l, key a ∈ ks) :
    (ks.flatMap (groupBy key l)).Perm l := by
  induction ks generalizing l with
  | nil =>
      have hnil : l = [] := List.eq_nil_iff_forall_not_mem.mpr fun a ha => by simpa using hall a ha
      rw [hnil]
      exact List.Perm.refl _
  | cons k ks ih =>
      obtain ⟨hk, hks⟩ := List.nodup_cons.mp hks
      have hrest : ks.flatMap (groupBy key l)
          = ks.flatMap (groupBy key (l.filter fun a => !decide (key a = k))) := by
        refine List.flatMap_congr fun k' hk' => ?_
        rw [groupBy, groupBy, List.filter_filter]
        refine List.filter_congr fun a _ => ?_
        by_cases ha : key a = k'
        · have hne : k' ≠ k := fun h => hk (h ▸ hk')
          simp [ha, hne]
        · simp [ha]
      have hperm := ih (l := l.filter fun a => !decide (key a = k)) hks (by
        intro a ha
        obtain ⟨hmem, hne⟩ := List.mem_filter.mp ha
        exact (List.mem_cons.mp (hall a hmem)).resolve_left (by simpa using hne))
      rw [List.flatMap_cons, hrest]
      exact (hperm.append_left _).trans (List.filter_append_perm (fun a => decide (key a = k)) l)

/-- Among sources whose keys do not repeat, the rows of one key come from its source only. -/
lemma filter_flatMap_of_key {γ : Type*} {sources : List γ} {g : γ → List β} (keyOf : β → κ)
    (sourceKey : γ → κ) (hsources : (sources.map sourceKey).Nodup)
    (hg : ∀ c ∈ sources, ∀ b ∈ g c, keyOf b = sourceKey c) {c : γ} (hc : c ∈ sources) :
    (sources.flatMap g).filter (fun b => keyOf b = sourceKey c) = g c := by
  induction sources with
  | nil => simp at hc
  | cons c' cs ih =>
      rw [List.map_cons, List.nodup_cons] at hsources
      have htail : ∀ c ∈ cs, ∀ b ∈ g c, keyOf b = sourceKey c :=
        fun c hc' => hg c (List.mem_cons_of_mem _ hc')
      rw [List.flatMap_cons, List.filter_append]
      rcases List.mem_cons.mp hc with rfl | hmem
      · have hfirst : (g c).filter (fun b => keyOf b = sourceKey c) = g c :=
          List.filter_eq_self.mpr fun b hb => by simpa using hg c List.mem_cons_self b hb
        have hrest : (cs.flatMap g).filter (fun b => keyOf b = sourceKey c) = [] := by
          rw [List.filter_eq_nil_iff]
          intro b hb hkey
          obtain ⟨c'', hc'', hbc⟩ := List.mem_flatMap.mp hb
          have hsame : sourceKey c'' = sourceKey c :=
            (htail c'' hc'' b hbc).symm.trans (of_decide_eq_true hkey)
          exact hsources.1 (hsame ▸ List.mem_map_of_mem hc'')
        rw [hfirst, hrest, List.append_nil]
      · have hfirst : (g c').filter (fun b => keyOf b = sourceKey c) = [] := by
          rw [List.filter_eq_nil_iff]
          intro b hb hkey
          have hsame : sourceKey c' = sourceKey c :=
            (hg c' List.mem_cons_self b hb).symm.trans (of_decide_eq_true hkey)
          exact hsources.1 (hsame ▸ List.mem_map_of_mem hmem)
        rw [hfirst, List.nil_append]
        exact ih hsources.2 htail hmem

/-- The rows of one key in a table made group by group are what is made of its group. -/
lemma filter_byGroup (keyOf : β → κ) {k : κ}
    (hf : ∀ k ∈ groupKeys key l, ∀ b ∈ f (groupBy key l k), keyOf b = k)
    (hk : k ∈ groupKeys key l) :
    (byGroup key f l).filter (fun b => keyOf b = k) = f (groupBy key l k) :=
  filter_flatMap_of_key keyOf id (by simpa using nodup_groupKeys key l) hf hk

end

end EclServer.Library
