import EclServer.Library.Grouping

/-!
Dictionaries that are written key by key.

* `dictItems`: the items after some writes, each key with its last one.
* `sum_dictItems_iff`: the values that are kept add up to all that were written exactly where what
  was written over is zero.
* `groupKeys_flatMap_of_key`: the keys of a table that is made source by source.
-/

namespace EclServer.Library

variable {α β κ : Type*} [DecidableEq κ]

/-! ### Items -/

section Items

variable (key : α → κ)

/-- The items of a dictionary after the writes `l`: the keys as they first came, each with its last
write. -/
def dictItems (l : List α) : List α :=
  (groupKeys key l).filterMap fun k => (groupBy key l k).getLast?

/-- The writes to a key that were written over. -/
def writtenOver (l : List α) (k : κ) : List α := (groupBy key l k).dropLast

variable {key} {l : List α}

lemma groupBy_eq_concat {k : κ} (h : k ∈ groupKeys key l) :
    ∃ a, (groupBy key l k).getLast? = some a ∧ key a = k ∧
      groupBy key l k = writtenOver key l k ++ [a] := by
  obtain ⟨b, hb, hkey⟩ := (mem_groupKeys key).mp h
  have hmem : b ∈ groupBy key l k := (mem_groupBy key).mpr ⟨hb, hkey⟩
  have hne : groupBy key l k ≠ [] := List.ne_nil_of_mem hmem
  refine ⟨_, List.getLast?_eq_some_getLast hne, ?_, (List.dropLast_append_getLast hne).symm⟩
  exact ((mem_groupBy key).mp (List.getLast_mem hne)).2

/-- There is one item for each key. -/
lemma map_key_dictItems : (dictItems key l).map key = groupKeys key l := by
  rw [dictItems, List.map_filterMap]
  have hkey : ∀ k ∈ groupKeys key l,
      Option.map key (groupBy key l k).getLast? = some (id k) := by
    intro k hk
    obtain ⟨a, ha, hak, -⟩ := groupBy_eq_concat hk
    rw [ha, Option.map_some, hak]
    rfl
  rw [List.filterMap_congr hkey, List.filterMap_eq_map', List.map_id]

/-- In an ordered list of writes, the last of a key is not written over. -/
lemma mem_writtenOver_iff {R : α → α → Prop} (hR : ∀ a b, R a b → ¬ R b a) (hl : l.Pairwise R)
    {k : κ} {a : α} :
    a ∈ writtenOver key l k ↔ a ∈ l ∧ key a = k ∧ ∃ b ∈ l, key b = k ∧ R a b := by
  have hgroup : (groupBy key l k).Pairwise R := hl.filter _
  constructor
  · intro ha
    obtain ⟨hmem, hkey⟩ := (mem_groupBy key).mp (List.mem_of_mem_dropLast ha)
    obtain ⟨z, -, hz, hsplit⟩ := groupBy_eq_concat ((mem_groupKeys key).mpr ⟨a, hmem, hkey⟩)
    have hlast : z ∈ groupBy key l k := by
      rw [hsplit]
      exact List.mem_append_right _ (List.mem_singleton.mpr rfl)
    rw [hsplit, List.pairwise_append] at hgroup
    exact ⟨hmem, hkey, z, ((mem_groupBy key).mp hlast).1, hz,
      hgroup.2.2 a ha z (List.mem_singleton.mpr rfl)⟩
  · rintro ⟨hmem, hkey, b, hb, hbk, hab⟩
    obtain ⟨z, -, hz, hsplit⟩ := groupBy_eq_concat ((mem_groupKeys key).mpr ⟨a, hmem, hkey⟩)
    have ha : a ∈ groupBy key l k := (mem_groupBy key).mpr ⟨hmem, hkey⟩
    have hb : b ∈ groupBy key l k := (mem_groupBy key).mpr ⟨hb, hbk⟩
    rw [hsplit, List.pairwise_append] at hgroup
    rw [hsplit, List.mem_append, List.mem_singleton] at ha hb
    rcases ha with ha | rfl
    · exact ha
    · rcases hb with hb | rfl
      · exact absurd (hgroup.2.2 b hb a (List.mem_singleton.mpr rfl)) (hR a b hab)
      · exact absurd hab (hR b b hab)

end Items

/-! ### Sums -/

section Sums

variable {M : Type*} [AddCommMonoid M] [PartialOrder M] [IsOrderedCancelAddMonoid M]
  {key : α → κ} {f g : α → M} {l : List α}

/-- Two sums, the one below the other term by term, are equal exactly where their terms are. -/
lemma sum_map_eq_iff_of_le (hle : ∀ a ∈ l, f a ≤ g a) :
    (l.map f).sum = (l.map g).sum ↔ ∀ a ∈ l, f a = g a := by
  induction l with
  | nil => simp
  | cons a as ih =>
      have htail : ∀ b ∈ as, f b ≤ g b := fun b hb => hle b (List.mem_cons_of_mem _ hb)
      rw [List.map_cons, List.map_cons, List.sum_cons, List.sum_cons,
        add_eq_add_iff_eq_and_eq (hle a List.mem_cons_self) (List.sum_le_sum htail), ih htail,
        List.forall_mem_cons]

/-- **The sum of a dictionary** of values that are not negative. -/
theorem sum_dictItems_iff (hnonneg : ∀ a ∈ l, 0 ≤ f a) :
    ((dictItems key l).map f).sum = (l.map f).sum ↔
      ∀ k ∈ groupKeys key l, ∀ a ∈ writtenOver key l k, f a = 0 := by
  have hover : ∀ k, ∀ a ∈ writtenOver key l k, 0 ≤ f a := fun k a ha =>
    hnonneg a ((mem_groupBy key).mp (List.mem_of_mem_dropLast ha)).1
  have hgroup : ∀ k ∈ groupKeys key l, ((groupBy key l k).map f).sum
      = ((writtenOver key l k).map f).sum + (((groupBy key l k).getLast?.map f).getD 0) := by
    intro k hk
    obtain ⟨a, ha, -, hsplit⟩ := groupBy_eq_concat hk
    rw [ha, hsplit, List.map_append, List.sum_append, List.map_singleton, List.sum_singleton]
    rfl
  have hkept : ((dictItems key l).map f).sum
      = ((groupKeys key l).map fun k => ((groupBy key l k).getLast?.map f).getD 0).sum := by
    rw [dictItems, List.map_filterMap, sum_filterMap]
  rw [hkept, ← sum_groupBy key f l, sum_map_eq_iff_of_le]
  · refine forall₂_congr fun k hk => ?_
    have hzero : ((writtenOver key l k).map fun _ => (0 : M)).sum = 0 := List.sum_map_zero
    rw [hgroup k hk, right_eq_add, ← hzero, eq_comm, sum_map_eq_iff_of_le (hover k), hzero]
    exact forall₂_congr fun a _ => eq_comm
  · intro k hk
    rw [hgroup k hk]
    exact le_add_of_nonneg_left (List.sum_nonneg fun x hx => by
      obtain ⟨a, ha, rfl⟩ := List.mem_map.mp hx
      exact hover k a ha)

end Sums

/-! ### Tables made source by source -/

/-- Rows of one key come first. -/
lemma dropDuplicates_append_of_key {l r : List κ} {k : κ} (hne : l ≠ []) (hl : ∀ a ∈ l, a = k) :
    dropDuplicates id (l ++ r) = k :: (dropDuplicates id r).filter (· ≠ k) := by
  induction l with
  | nil => exact absurd rfl hne
  | cons a as ih =>
      obtain rfl := hl a List.mem_cons_self
      rw [List.cons_append, dropDuplicates]
      cases as with
      | nil => rfl
      | cons b bs =>
          rw [ih (List.cons_ne_nil _ _) fun c hc => hl c (List.mem_cons_of_mem _ hc),
            List.filter_cons_of_neg (by simp), List.filter_filter]
          simp

/-- The keys are those of the sources, where every source makes some rows. -/
lemma groupKeys_flatMap_of_key {γ : Type*} {sources : List γ} {g : γ → List β} {keyOf : β → κ}
    {sourceKey : γ → κ} (hsources : (sources.map sourceKey).Nodup)
    (hg : ∀ c ∈ sources, ∀ b ∈ g c, keyOf b = sourceKey c) (hne : ∀ c ∈ sources, g c ≠ []) :
    groupKeys keyOf (sources.flatMap g) = sources.map sourceKey := by
  induction sources with
  | nil => rfl
  | cons c cs ih =>
      rw [List.map_cons, List.nodup_cons] at hsources
      have hrest := ih hsources.2 (fun d hd => hg d (List.mem_cons_of_mem _ hd))
        fun d hd => hne d (List.mem_cons_of_mem _ hd)
      have hfirst : ∀ k ∈ (g c).map keyOf, k = sourceKey c := by
        intro k hk
        obtain ⟨b, hb, rfl⟩ := List.mem_map.mp hk
        exact hg c List.mem_cons_self b hb
      have hsome : (g c).map keyOf ≠ [] := by simpa using hne c List.mem_cons_self
      rw [groupKeys] at hrest ⊢
      rw [List.flatMap_cons, List.map_append, dropDuplicates_append_of_key hsome hfirst, hrest,
        List.map_cons]
      refine congrArg _ (List.filter_eq_self.mpr fun k hk => decide_eq_true fun heq => ?_)
      exact hsources.1 (heq ▸ hk)

end EclServer.Library
