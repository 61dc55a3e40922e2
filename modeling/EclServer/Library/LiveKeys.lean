import EclServer.Library.Table

/-!
Tables whose deleted rows stay, under a unique index on the rows that are live.

* `NodupLive`: no two live rows have one key.
* `nodupLive_append_iff`, `nodupLive_updateByKey_iff`: the exact condition on new rows and on a
  write to one row; `NodupLive.map_of_kept`: writes that only delete.
* `replaceLive`: the live rows of a part give way to new ones. `nodupLive_replaceLive_iff`: when.
  `filter_owner_replaceLive`: what it leaves of each part.
* `liveRow?`: the live row of an id. `liveRow?_append`, `liveRow?_updateByKey`: what new rows and a
  write to one row make of it.
-/

namespace EclServer.Library

variable {ρ κ ι : Type*} (live : ρ → Bool) (key : ρ → κ)

/-- The unique index on the live rows. -/
def NodupLive (rows : List ρ) : Prop := ((rows.filter live).map key).Nodup

instance NodupLive.decidable [DecidableEq κ] (rows : List ρ) : Decidable (NodupLive live key rows) :=
  inferInstanceAs (Decidable (List.Nodup _))

variable {live key} {rows new : List ρ}

lemma nodupLive_nil : NodupLive live key [] := List.nodup_nil

/-- Two live rows of one key are one row. -/
lemma NodupLive.eq_of_key (h : NodupLive live key rows) {a b : ρ} (ha : a ∈ rows) (hb : b ∈ rows)
    (hla : live a = true) (hlb : live b = true) (hkey : key a = key b) : a = b :=
  List.inj_on_of_nodup_map h (List.mem_filter.mpr ⟨ha, hla⟩) (List.mem_filter.mpr ⟨hb, hlb⟩) hkey

/-- **New rows**: they differ from each other and from the live ones. -/
lemma nodupLive_append_iff : NodupLive live key (rows ++ new) ↔ NodupLive live key rows ∧
    NodupLive live key new ∧ ∀ r ∈ rows, live r = true → ∀ n ∈ new, live n = true → key r ≠ key n := by
  rw [NodupLive, List.filter_append, List.map_append, List.nodup_append]
  refine and_congr_right fun _ => and_congr_right fun _ => ?_
  constructor
  · intro h r hr hlr n hn hln
    exact h _ (List.mem_map_of_mem (List.mem_filter.mpr ⟨hr, hlr⟩)) _
      (List.mem_map_of_mem (List.mem_filter.mpr ⟨hn, hln⟩))
  · intro h k hk k' hk'
    obtain ⟨r, hr, rfl⟩ := List.mem_map.mp hk
    obtain ⟨n, hn, rfl⟩ := List.mem_map.mp hk'
    obtain ⟨hr, hlr⟩ := List.mem_filter.mp hr
    obtain ⟨hn, hln⟩ := List.mem_filter.mp hn
    exact h r hr hlr n hn hln

/-- Writes that keep the keys and revive no row. -/
lemma NodupLive.map_of_kept (h : NodupLive live key rows) {f : ρ → ρ}
    (hlive : ∀ r ∈ rows, live (f r) = true → live r = true)
    (hkey : ∀ r ∈ rows, live (f r) = true → key (f r) = key r) : NodupLive live key (rows.map f) := by
  have hsub : (((rows.map f).filter live).map key).Sublist ((rows.filter live).map key) := by
    clear h
    induction rows with
    | nil => exact List.Sublist.refl _
    | cons r rest ih =>
        have hrest := ih (fun s hs => hlive s (List.mem_cons_of_mem _ hs))
          fun s hs => hkey s (List.mem_cons_of_mem _ hs)
        rw [List.map_cons]
        by_cases hr : live (f r) = true
        · rw [List.filter_cons_of_pos hr, List.filter_cons_of_pos (hlive r List.mem_cons_self hr),
            List.map_cons, List.map_cons, hkey r List.mem_cons_self hr]
          exact hrest.cons_cons _
        · rw [List.filter_cons_of_neg hr]
          refine hrest.trans ?_
          exact ((List.sublist_cons_self r rest).filter live).map key
  exact h.sublist hsub

section Ids

variable [DecidableEq ι] {id : ρ → ι} {f : ρ → ρ} {a : ρ}

/-- **A write to one row**: if the row is live then, no other live row has its key. -/
lemma nodupLive_updateByKey_iff (hids : (rows.map id).Nodup) (h : NodupLive live key rows)
    (ha : a ∈ rows) : NodupLive live key (updateByKey id (id a) f rows) ↔
      (live (f a) = true → ∀ r ∈ rows, id r ≠ id a → live r = true → key r ≠ key (f a)) := by
  obtain ⟨l, r, rfl, hupdate, -⟩ := exists_split_of_mem id hids ha
  -- the keys of the other rows stay apart, so that the written row alone is to be compared
  have hsplit : ∀ b, NodupLive live key (l ++ b :: r)
      ↔ NodupLive live key (l ++ r) ∧
        (live b = true → ∀ c ∈ l ++ r, live c = true → key c ≠ key b) := by
    intro b
    have hperm : ((l ++ b :: r).filter live).Perm ((b :: (l ++ r)).filter live) :=
      List.perm_middle.filter live
    rw [NodupLive, (hperm.map key).nodup_iff]
    by_cases hb : live b = true
    · rw [List.filter_cons_of_pos hb, List.map_cons, List.nodup_cons, and_comm, NodupLive]
      refine and_congr_right fun _ => ?_
      constructor
      · intro hnot _ c hc hlc hkey
        exact hnot (hkey ▸ List.mem_map_of_mem (List.mem_filter.mpr ⟨hc, hlc⟩))
      · intro hall hmem
        obtain ⟨c, hc, hkey⟩ := List.mem_map.mp hmem
        obtain ⟨hc, hlc⟩ := List.mem_filter.mp hc
        exact hall hb c hc hlc hkey
    · rw [List.filter_cons_of_neg hb, NodupLive]
      exact ⟨fun hrest => ⟨hrest, fun hlive => absurd hlive hb⟩, fun hrest => hrest.1⟩
  have hother : ∀ c, (c ∈ l ++ a :: r ∧ id c ≠ id a) ↔ c ∈ l ++ r := by
    intro c
    rw [List.map_append, List.map_cons] at hids
    have hnot : id a ∉ (l ++ r).map id := by
      have hcons := (List.perm_middle.nodup_iff).mp hids
      rw [← List.map_append] at hcons
      exact (List.nodup_cons.mp hcons).1
    rw [List.mem_append, List.mem_cons, List.mem_append]
    constructor
    · rintro ⟨hl | rfl | hr, hne⟩
      · exact Or.inl hl
      · exact absurd rfl hne
      · exact Or.inr hr
    · intro hc
      have hne : id c ≠ id a := fun hsame =>
        hnot (hsame ▸ List.mem_map_of_mem (List.mem_append.mpr hc))
      rcases hc with hl | hr
      · exact ⟨Or.inl hl, hne⟩
      · exact ⟨Or.inr (Or.inr hr), hne⟩
  rw [hupdate f, hsplit, and_iff_right ((hsplit a).mp h).1]
  constructor
  · intro hall hlive c hc hne
    exact hall hlive c ((hother c).mp ⟨hc, hne⟩)
  · intro hall hlive c hc
    obtain ⟨hmem, hne⟩ := (hother c).mpr hc
    exact hall hlive c hmem hne

lemma id_of_find? {i : ι} (h : (rows.find? fun r => id r = i) = some a) : id a = i := by
  simpa using List.find?_some h

variable (live id)

/-- The live row of an id. -/
def liveRow? (rows : List ρ) (i : ι) : Option ρ := (rows.find? fun r => id r = i).filter live

variable {live id}

lemma liveRow?_eq_some {i : ι} (hids : (rows.map id).Nodup) :
    liveRow? live id rows i = some a ↔ a ∈ rows ∧ id a = i ∧ live a = true := by
  rw [liveRow?, Option.filter_eq_some_iff]
  constructor
  · rintro ⟨hfind, hlive⟩
    exact ⟨List.mem_of_find?_eq_some hfind, id_of_find? hfind, hlive⟩
  · rintro ⟨hmem, rfl, hlive⟩
    exact ⟨find?_key_eq id hids hmem, hlive⟩

/-- New rows are found beside the rows there were. -/
lemma liveRow?_append (i : ι) (hnew : ∀ n ∈ new, id n ∉ rows.map id) :
    liveRow? live id (rows ++ new) i = (liveRow? live id rows i).or (liveRow? live id new i) := by
  rw [liveRow?, List.find?_append]
  cases hold : rows.find? fun r => id r = i with
  | none =>
      have hnone : liveRow? live id rows i = none := by rw [liveRow?, hold, Option.filter_none]
      rw [hnone, Option.none_or, Option.none_or, liveRow?]
  | some r =>
      have hnone : (new.find? fun n => id n = i) = none := by
        rw [List.find?_eq_none]
        intro n hn hsame
        refine hnew n hn ?_
        rw [of_decide_eq_true hsame, ← id_of_find? hold]
        exact List.mem_map_of_mem (List.mem_of_find?_eq_some hold)
      have hnew' : liveRow? live id new i = none := by rw [liveRow?, hnone, Option.filter_none]
      rw [hnew', Option.or_none, liveRow?, hold, Option.some_or]

/-- A write to one row shows there and nowhere else. -/
lemma liveRow?_updateByKey {k i : ι} (hid : ∀ r, id (f r) = id r) :
    liveRow? live id (updateByKey id k f rows) i
      = if i = k then ((rows.find? fun r => id r = k).map f).filter live
        else liveRow? live id rows i := by
  rw [liveRow?, find?_updateByKey id (fun r => by rw [hid r])]
  by_cases hik : i = k
  · subst hik
    rw [if_pos rfl]
    congr 1
    cases hfind : rows.find? fun r => id r = i with
    | none => rfl
    | some r =>
        rw [Option.map_some, Option.map_some, if_pos (id_of_find? hfind)]
  · rw [if_neg hik, liveRow?]
    congr 1
    cases hfind : rows.find? fun r => id r = i with
    | none => rfl
    | some r =>
        have hne : id r ≠ k := id_of_find? hfind ▸ hik
        rw [Option.map_some, if_neg hne]

end Ids

/-! ### Replacing the live rows of a part -/

section Replace

variable (live) (part : ρ → Bool) (kill : ρ → ρ)

/-- The live rows of a part are deleted, and new rows are added. -/
def replaceLive (new rows : List ρ) : List ρ :=
  (rows.map fun r => if live r ∧ part r then kill r else r) ++ new

variable {live part kill}

/-- The live rows that a replacement leaves. -/
lemma filter_replaceLive (hkill : ∀ r, live (kill r) = false) (hnew : ∀ n ∈ new, live n = true) :
    (replaceLive live part kill new rows).filter live
      = (rows.filter live).filter (fun r => !part r) ++ new := by
  rw [replaceLive, List.filter_append, List.filter_eq_self.mpr hnew]
  congr 1
  induction rows with
  | nil => rfl
  | cons r rest ih =>
      rw [List.map_cons]
      by_cases hlive : live r = true
      · by_cases hpart : part r = true
        · rw [if_pos ⟨hlive, hpart⟩, List.filter_cons_of_neg (by simp [hkill]),
            List.filter_cons_of_pos hlive, List.filter_cons_of_neg (by simp [hpart]), ih]
        · rw [if_neg fun h => hpart h.2, List.filter_cons_of_pos hlive,
            List.filter_cons_of_pos hlive, List.filter_cons_of_pos (by simp [hpart]), ih]
      · rw [if_neg fun h => hlive h.1, List.filter_cons_of_neg hlive, List.filter_cons_of_neg hlive,
          ih]

/-- **A replacement keeps the index** exactly when the new rows have different keys, where the rows
outside the part have none of them. -/
lemma nodupLive_replaceLive_iff (hkill : ∀ r, live (kill r) = false)
    (hnew : ∀ n ∈ new, live n = true) (h : NodupLive live key rows)
    (hapart : ∀ r, part r = false → ∀ n ∈ new, key r ≠ key n) :
    NodupLive live key (replaceLive live part kill new rows) ↔ (new.map key).Nodup := by
  rw [NodupLive, filter_replaceLive hkill hnew, List.map_append, List.nodup_append]
  have hrest : (((rows.filter live).filter fun r => !part r).map key).Nodup :=
    h.sublist (List.filter_sublist.map key)
  constructor
  · exact fun hall => hall.2.1
  · refine fun hnodup => ⟨hrest, hnodup, ?_⟩
    rintro k hk k' hk' rfl
    obtain ⟨r, hr, rfl⟩ := List.mem_map.mp hk
    obtain ⟨n, hn, hsame⟩ := List.mem_map.mp hk'
    exact hapart r (by simpa using (List.mem_filter.mp hr).2) n hn hsame.symm

/-- **What a replacement leaves of each owner**: the new rows of the one whose rows it replaces, and
what there was of the others. -/
lemma filter_owner_replaceLive {τ : Type*} [DecidableEq τ] {owner : ρ → τ} {k : τ}
    (hkill : ∀ r, live (kill r) = false) (hnew : ∀ n ∈ new, live n = true)
    (howner : ∀ n ∈ new, owner n = k) (j : τ) :
    (replaceLive live (fun r => owner r = k) kill new rows).filter
        (fun r => owner r = j ∧ live r = true)
      = if j = k then new else rows.filter fun r => owner r = j ∧ live r = true := by
  have hsplit : ∀ l : List ρ, (l.filter fun r => owner r = j ∧ live r = true)
      = (l.filter live).filter fun r => owner r = j := by
    intro l
    rw [List.filter_filter]
    refine List.filter_congr fun r _ => ?_
    simp
  rw [hsplit, filter_replaceLive hkill hnew, List.filter_append, List.filter_filter]
  by_cases hj : j = k
  · subst hj
    have hold : ((rows.filter live).filter fun r => decide (owner r = j) && !decide (owner r = j))
        = [] := by simp
    have hall : (new.filter fun n => owner n = j) = new :=
      List.filter_eq_self.mpr fun n hn => decide_eq_true (howner n hn)
    rw [if_pos rfl, hold, hall, List.nil_append]
  · have hold : ((rows.filter live).filter fun r => decide (owner r = j) && !decide (owner r = k))
        = (rows.filter live).filter fun r => owner r = j := by
      refine List.filter_congr fun r _ => ?_
      by_cases hr : owner r = j
      · simp [hr, hj]
      · simp [hr]
    have hnone : (new.filter fun n => owner n = j) = [] := by
      refine List.filter_eq_nil_iff.mpr fun n hn hmine => ?_
      exact hj ((of_decide_eq_true hmine).symm.trans (howner n hn))
    rw [if_neg hj, hold, hnone, List.append_nil, hsplit]

end Replace

end EclServer.Library
