import Mathlib.Tactic

/-!
Orders that a sort key leaves open, and pages cut from them.

* `IsOrder`: a list is an order of some rows, ascending by a key; rows with one key stand in any
  order. `take_perm_of_cut`: two orders begin with the same rows up to a place where the key
  rises.
* `pageOf`: the rows of a page. `flatMap_pageOf`: the pages of one order make the list.
* `CutsApart`: at the first page boundaries the key rises. `cutsApart_iff`: none of them falls
  inside the rows of one key. `frontPages_perm_iff`: pages that are cut from independent orders
  hold the rows of the front exactly then; `pages_perm_iff`: so do they hold all rows.
-/

namespace EclServer.Library

variable {α : Type*} {κ : Type*} [LinearOrder κ]

/-- The list is an order of the rows, ascending by the key. -/
structure IsOrder (key : α → κ) (rows order : List α) : Prop where
  perm : order.Perm rows
  sorted : order.Pairwise fun a b => key a ≤ key b

section Order

variable {key : α → κ} {rows order order' : List α}

lemma IsOrder.trans (h : IsOrder key rows order) (h' : IsOrder key order order') :
    IsOrder key rows order' :=
  ⟨h'.perm.trans h.perm, h'.sorted⟩

lemma IsOrder.le_getElem (h : IsOrder key rows order) {i j : ℕ} {hi : i < order.length}
    {hj : j < order.length} (hle : i ≤ j) : key order[i] ≤ key order[j] := by
  rcases Nat.lt_or_eq_of_le hle with hlt | rfl
  · exact List.pairwise_iff_getElem.mp h.sorted i j hi hj hlt
  · exact le_refl _

/-- Below a bound the key selects the front of a sorted list. -/
lemma filter_lt_eq_take (hsorted : order.Pairwise fun a b => key a ≤ key b) (v : κ) :
    order.filter (fun a => key a < v) = order.take (order.countP fun a => key a < v) := by
  induction order with
  | nil => rfl
  | cons a l ih =>
      obtain ⟨hhead, htail⟩ := List.pairwise_cons.mp hsorted
      by_cases ha : key a < v
      · rw [List.filter_cons_of_pos (by simpa using ha), List.countP_cons_of_pos (by simpa using ha),
          List.take_succ_cons, ih htail]
      · have hnone : ∀ b ∈ a :: l, ¬ decide (key b < v) = true := by
          intro b hb
          have hle : key a ≤ key b := by
            rcases List.mem_cons.mp hb with rfl | hb
            · exact le_refl _
            · exact hhead b hb
          simpa using (not_lt.mp ha).trans hle
        rw [List.filter_eq_nil_iff.mpr hnone, List.countP_eq_zero.mpr hnone, List.take_zero]

/-- **Two orders agree up to a cut**: where the key rises after `n` rows, the first `n` rows of
any two orders are the same. -/
lemma take_perm_of_cut (h : IsOrder key rows order) (h' : IsOrder key rows order') {n : ℕ}
    (hcut : ∀ a ∈ order.take n, ∀ b ∈ order.drop n, key a < key b) :
    (order'.take n).Perm (order.take n) := by
  have hperm : order'.Perm order := h'.perm.trans h.perm.symm
  cases hdrop : order.drop n with
  | nil =>
      have hle : order.length ≤ n := List.drop_eq_nil_iff.mp hdrop
      rw [List.take_of_length_le hle, List.take_of_length_le (hperm.length_eq ▸ hle)]
      exact hperm
  | cons b l =>
      -- the first row behind the cut bounds the front
      have hfront : ∀ a ∈ order.take n, decide (key a < key b) = true := by
        intro a ha
        exact decide_eq_true (hcut a ha b (hdrop ▸ List.mem_cons_self))
      have hback : ∀ a ∈ order.drop n, ¬ decide (key a < key b) = true := by
        intro a ha
        have hsorted : (b :: l).Pairwise fun a b => key a ≤ key b :=
          hdrop ▸ h.sorted.sublist (List.drop_sublist n order)
        rw [hdrop] at ha
        rcases List.mem_cons.mp ha with rfl | ha
        · simp
        · simpa using (List.pairwise_cons.mp hsorted).1 a ha
      have hfilter : order.filter (fun a => key a < key b) = order.take n := by
        rw [← List.take_append_drop n order, List.filter_append, List.filter_eq_self.mpr hfront,
          List.filter_eq_nil_iff.mpr hback, List.append_nil, List.take_append_drop]
      have hlt : n < order.length := by
        by_contra hge
        rw [List.drop_eq_nil_iff.mpr (not_lt.mp hge)] at hdrop
        cases hdrop
      have hcount : order.countP (fun a => key a < key b) = n := by
        rw [List.countP_eq_length_filter, hfilter, List.length_take, min_eq_left hlt.le]
      have hcount' : order'.countP (fun a => key a < key b) = n := by
        rw [hperm.countP_eq, hcount]
      have hfront' : order'.take n = order'.filter fun a => key a < key b := by
        rw [filter_lt_eq_take h'.sorted, hcount']
      rw [hfront', ← hfilter]
      exact hperm.filter _

end Order

/-! ### Pages -/

/-- The rows of page `p`, counted from zero. -/
def pageOf (size : ℕ) (order : List α) (p : ℕ) : List α := (order.drop (p * size)).take size

section Pages

variable {size : ℕ} {order : List α}

lemma take_append_pageOf (p : ℕ) :
    order.take (p * size) ++ pageOf size order p = order.take ((p + 1) * size) := by
  rw [pageOf, ← List.take_add, Nat.succ_mul]

/-- The first pages of one order are its front. -/
lemma flatMap_pageOf (m : ℕ) :
    (List.range m).flatMap (pageOf size order) = order.take (m * size) := by
  induction m with
  | zero => simp
  | succ m ih =>
      rw [List.range_succ, List.flatMap_append, ih, List.flatMap_singleton, take_append_pageOf]

lemma mem_pageOf {p : ℕ} {b : α} :
    b ∈ pageOf size order p ↔ ∃ i, p * size ≤ i ∧ i < (p + 1) * size ∧ order[i]? = some b := by
  rw [pageOf, List.mem_iff_getElem?]
  constructor
  · rintro ⟨j, hj⟩
    rw [List.getElem?_take] at hj
    split at hj
    · rename_i hlt
      rw [List.getElem?_drop] at hj
      exact ⟨p * size + j, by omega, by rw [Nat.succ_mul]; omega, hj⟩
    · cases hj
  · rintro ⟨i, hle, hlt, hi⟩
    rw [Nat.succ_mul] at hlt
    refine ⟨i - p * size, ?_⟩
    rw [List.getElem?_take, if_pos (by omega), List.getElem?_drop, Nat.add_sub_cancel' hle]
    exact hi

lemma pageOf_ne_nil_iff (hsize : 0 < size) {p : ℕ} :
    pageOf size order p ≠ [] ↔ p * size < order.length := by
  rw [pageOf, ← List.length_pos_iff, List.length_take, List.length_drop]
  omega

/-- At each boundary of the first `m` pages the key changes. -/
def CutsApart (key : α → κ) (size m : ℕ) (order : List α) : Prop :=
  ∀ p a b, 0 < p → p ≤ m → order[p * size - 1]? = some a → order[p * size]? = some b →
    key a ≠ key b

variable {key : α → κ} {rows : List α} {m : ℕ}

/-- Then all rows before a boundary have a smaller key than all behind it. -/
lemma CutsApart.lt (h : CutsApart key size m order) (horder : IsOrder key rows order)
    (hsize : 0 < size) {p : ℕ} (hpm : p ≤ m) :
    ∀ a ∈ order.take (p * size), ∀ b ∈ order.drop (p * size), key a < key b := by
  intro a ha b hb
  obtain ⟨i, hi⟩ := List.mem_iff_getElem?.mp ha
  obtain ⟨j, hj⟩ := List.mem_iff_getElem?.mp hb
  rw [List.getElem?_take] at hi
  split at hi
  case isFalse => cases hi
  rename_i hlt
  rw [List.getElem?_drop] at hj
  obtain ⟨hj', rfl⟩ := List.getElem?_eq_some_iff.mp hj
  obtain ⟨hi', rfl⟩ := List.getElem?_eq_some_iff.mp hi
  have hp : 0 < p := by
    by_contra hzero
    rw [Nat.eq_zero_of_not_pos hzero, Nat.zero_mul] at hlt
    omega
  have hpos : 0 < p * size := Nat.mul_pos hp hsize
  have hstep : key order[p * size - 1] < key order[p * size] := by
    refine lt_of_le_of_ne (horder.le_getElem (by omega)) ?_
    exact h p _ _ hp hpm (List.getElem?_eq_getElem (by omega))
      (List.getElem?_eq_getElem (by omega))
  calc key order[i] ≤ key order[p * size - 1] := horder.le_getElem (by omega)
    _ < key order[p * size] := hstep
    _ ≤ key order[p * size + j] := horder.le_getElem (by omega)

/-- No boundary of the first `m` pages falls inside the rows of one key. -/
def FrontTiesApart (key : α → κ) (size m : ℕ) (rows : List α) : Prop :=
  ∀ v p, p ≤ m →
    p * size ≤ rows.countP (fun a => key a < v) ∨ rows.countP (fun a => key a ≤ v) ≤ p * size

/-- No page boundary falls inside the rows of one key: the rows before a key's last one fill
no more pages than the rows before its first. -/
def TiesApart (key : α → κ) (size : ℕ) (rows : List α) : Prop :=
  ∀ v p, p * size ≤ rows.countP (fun a => key a < v) ∨ rows.countP (fun a => key a ≤ v) ≤ p * size

lemma FrontTiesApart.of_perm {rows' : List α} (h : FrontTiesApart key size m rows)
    (hperm : rows.Perm rows') : FrontTiesApart key size m rows' := by
  intro v p hp
  rw [← hperm.countP_eq, ← hperm.countP_eq]
  exact h v p hp

lemma TiesApart.of_perm {rows' : List α} (h : TiesApart key size rows) (hperm : rows.Perm rows') :
    TiesApart key size rows' := by
  intro v p
  rw [← hperm.countP_eq, ← hperm.countP_eq]
  exact h v p

/-- Boundaries behind all rows are inside no key's. -/
lemma frontTiesApart_iff (hm : rows.length ≤ m * size) :
    FrontTiesApart key size m rows ↔ TiesApart key size rows := by
  refine ⟨fun h v p => ?_, fun h v p _ => h v p⟩
  rcases Nat.le_total p m with hle | hge
  · exact h v p hle
  · have hcount := List.countP_le_length (p := fun a => decide (key a ≤ v)) (l := rows)
    exact Or.inr ((hcount.trans hm).trans (Nat.mul_le_mul_right size hge))

lemma tiesApart_map {γ : Type*} {f : γ → α} {l : List γ} :
    TiesApart key size (l.map f) ↔ TiesApart (fun c => key (f c)) size l := by
  simp only [TiesApart, List.countP_map, Function.comp_def]

/-- At a boundary inside the rows of one key the key does not rise. -/
lemma CutsApart.tiesApart (h : CutsApart key size m order) (horder : IsOrder key rows order)
    (hsize : 0 < size) : FrontTiesApart key size m order := by
  intro v p hp
  by_contra hinside
  obtain ⟨hbefore, hafter⟩ := not_or.mp hinside
  rw [not_le] at hbefore hafter
  have hcut := h.lt horder hsize hp
  obtain ⟨b, hb, hbv⟩ : ∃ b ∈ order.drop (p * size), key b ≤ v := by
    by_contra hnone
    push Not at hnone
    have hzero : (order.drop (p * size)).countP (fun a => key a ≤ v) = 0 :=
      List.countP_eq_zero.mpr fun b hb => by simpa using hnone b hb
    rw [← List.take_append_drop (p * size) order, List.countP_append, hzero] at hafter
    have hle := List.countP_le_length (p := fun a => decide (key a ≤ v)) (l := order.take (p * size))
    rw [List.length_take] at hle
    omega
  obtain ⟨a, ha, hav⟩ : ∃ a ∈ order.take (p * size), v ≤ key a := by
    by_contra hnone
    push Not at hnone
    have hall : (order.take (p * size)).countP (fun a => key a < v)
        = (order.take (p * size)).length :=
      List.countP_eq_length.mpr fun a ha => by simpa using hnone a ha
    rw [← List.take_append_drop (p * size) order, List.countP_append, hall, List.length_take]
      at hbefore
    have hlong : 0 < (order.drop (p * size)).length := List.length_pos_of_mem hb
    rw [List.length_drop] at hlong
    omega
  exact absurd (hav.trans_lt (hcut a ha b hb)) (not_lt.mpr hbv)

/-- Two rows of one key at a boundary have the boundary inside the rows of the key. -/
lemma FrontTiesApart.cutsApart (h : FrontTiesApart key size m order)
    (horder : IsOrder key rows order) (hsize : 0 < size) : CutsApart key size m order := by
  intro p a b hp hpm ha hb htie
  have hpos : 0 < p * size := Nat.mul_pos hp hsize
  obtain ⟨hlt, rfl⟩ := List.getElem?_eq_some_iff.mp ha
  obtain ⟨hlt', rfl⟩ := List.getElem?_eq_some_iff.mp hb
  have hfront : order.countP (fun c => key c < key order[p * size]) ≤ p * size - 1 := by
    by_contra hmore
    have hmem : order[p * size - 1] ∈ order.filter fun c => key c < key order[p * size] := by
      rw [filter_lt_eq_take horder.sorted]
      exact List.mem_take_iff_getElem.mpr ⟨p * size - 1, by omega, rfl⟩
    have hsmall := of_decide_eq_true (List.mem_filter.mp hmem).2
    exact absurd htie hsmall.ne
  have hback : p * size + 1 ≤ order.countP fun c => key c ≤ key order[p * size] := by
    have hall : (order.take (p * size + 1)).countP (fun c => key c ≤ key order[p * size])
        = (order.take (p * size + 1)).length := by
      refine List.countP_eq_length.mpr fun c hc => decide_eq_true ?_
      obtain ⟨i, hi, rfl⟩ := List.mem_take_iff_getElem.mp hc
      exact horder.le_getElem (by omega)
    calc p * size + 1 = (order.take (p * size + 1)).length := by
          rw [List.length_take]
          omega
      _ = (order.take (p * size + 1)).countP (fun c => key c ≤ key order[p * size]) := hall.symm
      _ ≤ order.countP fun c => key c ≤ key order[p * size] :=
          (List.take_sublist _ _).countP_le
  rcases h (key order[p * size]) p hpm with hle | hle <;> omega

/-- The boundary condition does not depend on the order the rows are listed in. -/
lemma cutsApart_iff (horder : IsOrder key rows order) (hsize : 0 < size) :
    CutsApart key size m order ↔ FrontTiesApart key size m rows :=
  ⟨fun h => (h.tiesApart horder hsize).of_perm horder.perm,
    fun h => (h.of_perm horder.perm.symm).cutsApart horder hsize⟩

/-- Pages cut apart are the same rows in every order. -/
lemma CutsApart.pages_perm (h : CutsApart key size m order) (horder : IsOrder key rows order)
    (hsize : 0 < size) {orders : ℕ → List α} (horders : ∀ p, IsOrder key rows (orders p)) :
    ((List.range m).flatMap fun p => pageOf size (orders p) p).Perm (order.take (m * size)) := by
  have hfront : ∀ q p, p ≤ m → ((orders q).take (p * size)).Perm (order.take (p * size)) :=
    fun q p hp => take_perm_of_cut horder (horders q) (h.lt horder hsize hp)
  have hpage : ∀ p, p < m → (pageOf size (orders p) p).Perm (pageOf size order p) := by
    intro p hp
    have hnext := hfront p (p + 1) hp
    rw [← take_append_pageOf, ← take_append_pageOf] at hnext
    exact (List.perm_append_left_iff _).mp
      (((hfront p p hp.le).symm.append_right (pageOf size (orders p) p)).trans hnext)
  rw [← flatMap_pageOf]
  exact List.Perm.flatMap_left _ fun p hp => hpage p (List.mem_range.mp hp)

/-- Two neighbours of one key may stand the other way round. -/
lemma IsOrder.swap (horder : IsOrder key rows order) {n : ℕ} {a b : α} (ha : order[n]? = some a)
    (hb : order[n + 1]? = some b) (htie : key a = key b) :
    ∃ swapped, IsOrder key rows swapped ∧ swapped[n + 1]? = some a := by
  obtain ⟨hlt', ha'⟩ := List.getElem?_eq_some_iff.mp ha
  obtain ⟨hlt, hb'⟩ := List.getElem?_eq_some_iff.mp hb
  have hsplit : order = order.take n ++ a :: b :: order.drop (n + 2) := by
    have hdrop : order.drop n = a :: b :: order.drop (n + 2) := by
      have hrest : order.drop (n + 1) = b :: order.drop (n + 2) := by
        rw [List.drop_eq_getElem_cons hlt, hb']
      rw [List.drop_eq_getElem_cons hlt', ha', hrest]
    rw [← hdrop, List.take_append_drop]
  set swapped := order.take n ++ b :: a :: order.drop (n + 2) with hswapped
  have hperm : swapped.Perm order := by
    rw [hsplit, hswapped]
    exact (List.Perm.swap a b _).append_left _
  have hsorted : swapped.Pairwise fun a b => key a ≤ key b := by
    have hold := horder.sorted
    rw [hsplit] at hold
    rw [hswapped]
    simp only [List.pairwise_append, List.pairwise_cons, List.mem_cons] at hold ⊢
    obtain ⟨hfront, ⟨haall, hball, hback⟩, hacross⟩ := hold
    refine ⟨hfront, ⟨?_, ?_, hback⟩, ?_⟩
    · rintro c (rfl | hc)
      · exact htie.ge
      · exact hball c hc
    · exact fun c hc => haall c (Or.inr hc)
    · rintro c hc d (rfl | rfl | hd)
      · exact hacross c hc d (Or.inr (Or.inl rfl))
      · exact hacross c hc d (Or.inl rfl)
      · exact hacross c hc d (Or.inr (Or.inr hd))
  refine ⟨swapped, horder.trans ⟨hperm, hsorted⟩, ?_⟩
  have hlength : (order.take n).length = n := by
    rw [List.length_take]
    omega
  rw [hswapped, List.getElem?_append_right (by omega), hlength, Nat.add_sub_cancel_left,
    List.getElem?_cons_succ, List.getElem?_cons_zero]

/-- A row stands in one place. -/
lemma getElem?_inj_of_nodup {l : List α} (hnodup : l.Nodup) {a : α} {i j : ℕ}
    (hi : l[i]? = some a) (hj : l[j]? = some a) : i = j := by
  obtain ⟨hi', rfl⟩ := List.getElem?_eq_some_iff.mp hi
  obtain ⟨hj', heq⟩ := List.getElem?_eq_some_iff.mp hj
  exact ((List.Nodup.getElem_inj_iff hnodup).mp heq).symm

/-- **A tie across a boundary**: some choice of orders leaves a row of the front out. The page
before the boundary has the two rows the other way round. -/
lemma exists_row_missing (horder : IsOrder key rows order) (hnodup : order.Nodup)
    (hsize : 0 < size) (h : ¬ CutsApart key size m order) :
    ∃ orders : ℕ → List α, (∀ p, IsOrder key rows (orders p)) ∧
      ∃ a ∈ order.take (m * size),
        a ∉ (List.range m).flatMap fun p => pageOf size (orders p) p := by
  simp only [CutsApart, not_forall, not_not] at h
  obtain ⟨p, a, b, hp, hpm, ha, hb, htie⟩ := h
  have hpos : 0 < p * size := Nat.mul_pos hp hsize
  obtain ⟨n, hn⟩ : ∃ n, p * size = n + 1 := Nat.exists_eq_add_one.mpr hpos
  rw [hn, Nat.add_sub_cancel] at ha
  rw [hn] at hb
  obtain ⟨swapped, hswap, hplace⟩ := horder.swap ha hb htie
  have hprev : (p - 1 + 1) * size = p * size := by
    rw [Nat.sub_add_cancel hp]
  -- the page before the boundary is answered in the one order, all others in the other
  refine ⟨fun q => if q = p - 1 then swapped else order, fun q => ?_, a, ?_, ?_⟩
  · dsimp only
    split
    · exact hswap
    · exact horder
  · have hle : p * size ≤ m * size := Nat.mul_le_mul_right size hpm
    obtain ⟨hlt, rfl⟩ := List.getElem?_eq_some_iff.mp ha
    exact List.mem_take_iff_getElem.mpr ⟨n, by omega, rfl⟩
  · intro hmem
    obtain ⟨q, -, hpage⟩ := List.mem_flatMap.mp hmem
    obtain ⟨i, hle, hupper, hi⟩ := mem_pageOf.mp hpage
    dsimp only at hi
    split at hi
    · -- on the page before the boundary the row is behind it
      rename_i hq
      have hnodup' : swapped.Nodup :=
        (hswap.perm.trans horder.perm.symm).nodup_iff.mpr hnodup
      have hplaceEq := getElem?_inj_of_nodup hnodup' hi hplace
      rw [hq, hprev] at hupper
      omega
    · -- and the other pages do not reach it
      rename_i hq
      obtain rfl := getElem?_inj_of_nodup hnodup hi ha
      have hqp : q < p := by
        by_contra hge
        have hmul := Nat.mul_le_mul_right size (not_lt.mp hge)
        omega
      have hmul := Nat.mul_le_mul_right size (show q + 1 ≤ p - 1 by omega)
      have hbefore : (p - 1) * size + size = p * size := by
        rw [← Nat.succ_mul]
        exact hprev
      omega

/-- **The first pages from independent orders** hold the front of an order exactly when none of
their boundaries falls inside the rows of one key. -/
theorem frontPages_perm_iff (horder : IsOrder key rows order) (hnodup : rows.Nodup)
    (hsize : 0 < size) :
    (∀ orders : ℕ → List α, (∀ p, IsOrder key rows (orders p)) →
        ((List.range m).flatMap fun p => pageOf size (orders p) p).Perm (order.take (m * size)))
      ↔ FrontTiesApart key size m rows := by
  rw [← cutsApart_iff horder hsize]
  constructor
  · intro hall
    by_contra htie
    obtain ⟨orders, horders, a, ha, hmissing⟩ :=
      exists_row_missing horder (horder.perm.nodup_iff.mpr hnodup) hsize htie
    exact hmissing ((hall orders horders).mem_iff.mpr ha)
  · intro hcut orders horders
    exact hcut.pages_perm horder hsize horders

/-- **Pages from independent orders** hold each row once exactly when no page boundary falls
inside the rows of one key. -/
theorem pages_perm_iff {β : Type*} {f : α → β} (horder : IsOrder key rows order)
    (hnodup : (rows.map f).Nodup) (hsize : 0 < size) (hm : rows.length ≤ m * size) :
    (∀ orders : ℕ → List α, (∀ p, IsOrder key rows (orders p)) →
        (((List.range m).flatMap fun p => pageOf size (orders p) p).map f).Perm (rows.map f))
      ↔ TiesApart key size rows := by
  rw [← frontTiesApart_iff hm, ← cutsApart_iff horder hsize]
  have hall : order.take (m * size) = order :=
    List.take_of_length_le (horder.perm.length_eq ▸ hm)
  constructor
  · intro hpages
    by_contra htie
    obtain ⟨orders, horders, a, ha, hmissing⟩ := exists_row_missing horder
      (horder.perm.nodup_iff.mpr (List.Nodup.of_map f hnodup)) hsize htie
    rw [hall, horder.perm.mem_iff] at ha
    obtain ⟨b, hb, hsame⟩ := List.mem_map.mp
      ((hpages orders horders).mem_iff.mpr (List.mem_map_of_mem ha))
    -- the row of a key is one of the rows
    have hrow : b ∈ rows := by
      obtain ⟨p, -, hpage⟩ := List.mem_flatMap.mp hb
      exact (horders p).perm.mem_iff.mp (List.mem_of_mem_drop (List.mem_of_mem_take hpage))
    obtain rfl := List.inj_on_of_nodup_map hnodup hrow ha hsame
    exact hmissing hb
  · intro hcut orders horders
    have hperm := hcut.pages_perm horder hsize horders
    rw [hall] at hperm
    exact (hperm.trans horder.perm).map f

end Pages

end EclServer.Library
