import Mathlib.Tactic

/-!
Conditional hazards of a cumulative probability, and the survival product they rebuild.

* `hazardsFrom`, `hazards`: the hazard of each period given survival so far, with a cut-off:
  once at most `eps` has survived, every later hazard is zero.
* `hazards_mem`: over a cumulative list that climbs inside `[0, 1]` each hazard is a
  probability.
* `survival_error`: the product of the survivals is the surviving probability up to `eps`.
* `hazardAt`: the hazards of a sequence, period by period, with the same two facts.
* `countedAgain`: what a sum of hazards has over the failure probability they rebuild
  (`sum_eq_add_countedAgain`).
-/

namespace EclServer.Library

variable {K : Type*} [Field K] [LinearOrder K] [IsStrictOrderedRing K]

/-- The hazards of the cumulative probabilities `cs`, where `prev` is the one before. -/
def hazardsFrom (eps prev : K) : List K → List K
  | [] => []
  | c :: cs => (if 1 - prev ≤ eps then 0 else (c - prev) / (1 - prev)) :: hazardsFrom eps c cs

/-- The hazards of a whole list: the first period starts with nothing accumulated. -/
def hazards (eps : K) : List K → List K
  | [] => []
  | c :: cs => c :: hazardsFrom eps c cs

/-- The list climbs from `prev` and stays within `[prev, 1]`. -/
def Climbs (prev : K) (cs : List K) : Prop := (prev :: cs).IsChain (· ≤ ·) ∧ ∀ c ∈ cs, c ≤ 1

variable {eps prev : K} {cs : List K}

@[simp] lemma length_hazardsFrom (eps prev : K) (cs : List K) :
    (hazardsFrom eps prev cs).length = cs.length := by
  induction cs generalizing prev with
  | nil => rfl
  | cons c cs ih => simp [hazardsFrom, ih]

@[simp] lemma length_hazards (eps : K) (cs : List K) : (hazards eps cs).length = cs.length := by
  cases cs with
  | nil => rfl
  | cons c cs => simp [hazards]

omit [IsStrictOrderedRing K] in
lemma climbs_cons {c : K} : Climbs prev (c :: cs) ↔ prev ≤ c ∧ c ≤ 1 ∧ Climbs c cs := by
  simp only [Climbs, List.isChain_cons_cons, List.mem_cons, forall_eq_or_imp]
  tauto

omit [IsStrictOrderedRing K] in
/-- A list in order between `prev` and one climbs. -/
lemma Climbs.of_pairwise (hmem : ∀ c ∈ cs, prev ≤ c ∧ c ≤ 1) (hsorted : cs.Pairwise (· ≤ ·)) :
    Climbs prev cs :=
  ⟨(List.pairwise_cons.mpr ⟨fun c hc => (hmem c hc).1, hsorted⟩).isChain, fun c hc => (hmem c hc).2⟩

/-- One hazard is a probability. -/
lemma hazard_mem {c : K} (heps : 0 ≤ eps) (hc : prev ≤ c) (hc1 : c ≤ 1) :
    0 ≤ (if 1 - prev ≤ eps then 0 else (c - prev) / (1 - prev)) ∧
      (if 1 - prev ≤ eps then 0 else (c - prev) / (1 - prev)) ≤ 1 := by
  split
  · exact ⟨le_rfl, zero_le_one⟩
  · rename_i hlarge
    have hpos : 0 < 1 - prev := heps.trans_lt (not_le.mp hlarge)
    exact ⟨div_nonneg (sub_nonneg.mpr hc) hpos.le, (div_le_one hpos).mpr (by linarith)⟩

/-- The hazards of a climbing list are probabilities. -/
lemma hazardsFrom_mem (heps : 0 ≤ eps) (h : Climbs prev cs) :
    ∀ m ∈ hazardsFrom eps prev cs, 0 ≤ m ∧ m ≤ 1 := by
  induction cs generalizing prev with
  | nil => simp [hazardsFrom]
  | cons c cs ih =>
      obtain ⟨hc, hc1, htail⟩ := climbs_cons.mp h
      simp only [hazardsFrom, List.mem_cons, forall_eq_or_imp]
      exact ⟨hazard_mem heps hc hc1, ih htail⟩

lemma hazards_mem (heps : 0 ≤ eps) (h : Climbs 0 cs) :
    ∀ m ∈ hazards eps cs, 0 ≤ m ∧ m ≤ 1 := by
  cases cs with
  | nil => simp [hazards]
  | cons c cs =>
      obtain ⟨hc, hc1, htail⟩ := climbs_cons.mp h
      simp only [hazards, List.mem_cons, forall_eq_or_imp]
      exact ⟨⟨hc, hc1⟩, hazardsFrom_mem heps htail⟩

/-- The product of the survivals along a list of hazards. -/
def survival (ms : List K) : K := (ms.map fun m => 1 - m).prod

omit [LinearOrder K] [IsStrictOrderedRing K] in
@[simp] lemma survival_nil : survival ([] : List K) = 1 := rfl

omit [LinearOrder K] [IsStrictOrderedRing K] in
@[simp] lemma survival_cons (m : K) (ms : List K) : survival (m :: ms) = (1 - m) * survival ms := by
  simp [survival]

/-- Once at most `eps` survives, all later hazards vanish. -/
lemma survival_hazardsFrom_of_small (hprev : 1 - prev ≤ eps) (h : Climbs prev cs) :
    survival (hazardsFrom eps prev cs) = 1 := by
  induction cs generalizing prev with
  | nil => rfl
  | cons c cs ih =>
      obtain ⟨hc, _, htail⟩ := climbs_cons.mp h
      have hsmall : 1 - c ≤ eps := by linarith
      simp [hazardsFrom, hprev, ih hsmall htail]

omit [IsStrictOrderedRing K] in
/-- The last cumulative probability of a climbing list lies between its start and one. -/
lemma Climbs.last_mem (h : Climbs prev cs) (hprev : prev ≤ 1) :
    prev ≤ cs.getLastD prev ∧ cs.getLastD prev ≤ 1 := by
  induction cs generalizing prev with
  | nil => exact ⟨le_rfl, hprev⟩
  | cons c cs ih =>
      obtain ⟨hc, hc1, htail⟩ := climbs_cons.mp h
      obtain ⟨hlast, hlast1⟩ := ih htail hc1
      rw [List.getLastD_cons]
      exact ⟨hc.trans hlast, hlast1⟩

/-- **Survival from a point**: what has survived before times the product of the survivals
is what survives at the end, up to `eps`. The induction follows the list; when the cut-off
is reached the rest of the product is one and both sides lie within `eps`. -/
theorem survivalFrom_error (heps : 0 ≤ eps) (hprev : prev ≤ 1) (h : Climbs prev cs) :
    |(1 - prev) * survival (hazardsFrom eps prev cs) - (1 - cs.getLastD prev)| ≤ eps := by
  induction cs generalizing prev with
  | nil => simpa [hazardsFrom] using heps
  | cons c cs ih =>
      obtain ⟨hc, hc1, htail⟩ := climbs_cons.mp h
      by_cases hsmall : 1 - prev ≤ eps
      · obtain ⟨hlast, hlast1⟩ := h.last_mem hprev
        rw [survival_hazardsFrom_of_small hsmall h, abs_le]
        constructor
        · linarith
        · linarith
      · have hpos : 0 < 1 - prev := heps.trans_lt (not_le.mp hsmall)
        have hstep : (1 - prev) * (1 - (c - prev) / (1 - prev)) = 1 - c := by
          field_simp
          ring
        rw [hazardsFrom, if_neg hsmall, survival_cons, ← mul_assoc, hstep, List.getLastD_cons]
        exact ih hc1 htail

/-- **Survival**: the product of the survivals is one minus the last cumulative probability,
up to `eps`. -/
theorem survival_error (heps : 0 ≤ eps) {c : K} (h : Climbs 0 (c :: cs)) :
    |survival (hazards eps (c :: cs)) - (1 - cs.getLastD c)| ≤ eps := by
  obtain ⟨_, hc1, htail⟩ := climbs_cons.mp h
  rw [hazards, survival_cons]
  exact survivalFrom_error heps hc1 htail

/-! ### Hazards of a sequence -/

/-- The hazard of period `n` of a cumulative sequence counted from one. -/
def hazardAt (eps : K) (f : ℕ → K) (n : ℕ) : K :=
  if n = 1 then f 1
  else if 1 - f (n - 1) ≤ eps then 0
  else (f n - f (n - 1)) / (1 - f (n - 1))

omit [IsStrictOrderedRing K] in
lemma hazardsFrom_map_range' (eps : K) (f : ℕ → K) (s m : ℕ) (hs : s ≠ 0) :
    hazardsFrom eps (f s) ((List.range' (s + 1) m).map f)
      = (List.range' (s + 1) m).map (hazardAt eps f) := by
  induction m generalizing s with
  | zero => rfl
  | succ m ih =>
      have hne : s + 1 ≠ 1 := by omega
      rw [List.range'_succ, List.map_cons, List.map_cons, hazardsFrom, ih (s + 1) (by omega),
        hazardAt, if_neg hne, Nat.add_sub_cancel]

omit [IsStrictOrderedRing K] in
lemma hazards_map_range' (eps : K) (f : ℕ → K) (m : ℕ) :
    hazards eps ((List.range' 1 m).map f) = (List.range' 1 m).map (hazardAt eps f) := by
  cases m with
  | zero => rfl
  | succ m =>
      rw [List.range'_succ, List.map_cons, List.map_cons, hazards,
        hazardsFrom_map_range' eps f 1 m one_ne_zero]
      simp [hazardAt]

variable {f : ℕ → K}

omit [IsStrictOrderedRing K] in
/-- The values of a monotone sequence within `[0, 1]` climb. -/
lemma climbs_map_range' (hmono : Monotone f) (hmem : ∀ n, 0 ≤ f n ∧ f n ≤ 1) (m : ℕ) :
    Climbs 0 ((List.range' 1 m).map f) := by
  refine Climbs.of_pairwise ?_ ?_
  · intro c hc
    obtain ⟨n, _, rfl⟩ := List.mem_map.mp hc
    exact hmem n
  · rw [List.pairwise_map]
    exact (List.pairwise_le_range' 1).imp fun hle => hmono hle

lemma hazardAt_mem (heps : 0 ≤ eps) (hmono : Monotone f) (hmem : ∀ n, 0 ≤ f n ∧ f n ≤ 1) {n : ℕ}
    (hn : 1 ≤ n) : 0 ≤ hazardAt eps f n ∧ hazardAt eps f n ≤ 1 := by
  have h := hazards_mem heps (climbs_map_range' hmono hmem n)
  rw [hazards_map_range'] at h
  exact h _ (List.mem_map_of_mem (List.mem_range'_1.mpr ⟨hn, by omega⟩))

/-- **Survival of a sequence**: the hazards up to period `n` rebuild what survives it. -/
theorem survival_map_hazardAt (heps : 0 ≤ eps) (hmono : Monotone f)
    (hmem : ∀ n, 0 ≤ f n ∧ f n ≤ 1) {n : ℕ} (hn : 1 ≤ n) :
    |survival ((List.range' 1 n).map (hazardAt eps f)) - (1 - f n)| ≤ eps := by
  obtain ⟨m, rfl⟩ : ∃ m, n = m + 1 := ⟨n - 1, by omega⟩
  have hlast : ((List.range' 2 m).map f).getLastD (f 1) = f (m + 1) := by
    cases m with
    | zero => rfl
    | succ m =>
        rw [List.range'_1_concat, List.map_append, List.map_singleton, List.getLastD_concat]
        congr 1
        omega
  have hclimbs := climbs_map_range' hmono hmem (m + 1)
  rw [← hazards_map_range']
  rw [List.range'_succ, List.map_cons] at hclimbs ⊢
  rw [← hlast]
  exact survival_error heps hclimbs

/-! ### Hazards added up -/

/-- What the sum of hazards counts again, where `failed` is the probability to have failed before
them: each hazard on what has failed already. -/
def countedAgain (failed : K) : List K → K
  | [] => 0
  | m :: ms => m * failed + countedAgain (failed + m * (1 - failed)) ms

omit [LinearOrder K] [IsStrictOrderedRing K] in
/-- The induction follows the list: each hazard adds its share of the survivors to what has
failed, and counts its share of the failed again. -/
lemma failed_add_sum (failed : K) (ms : List K) :
    failed + ms.sum = (1 - (1 - failed) * survival ms) + countedAgain failed ms := by
  induction ms generalizing failed with
  | nil => simp [countedAgain]
  | cons m ms ih =>
      have hrest := ih (failed + m * (1 - failed))
      rw [List.sum_cons, survival_cons, countedAgain]
      linear_combination hrest

omit [LinearOrder K] [IsStrictOrderedRing K] in
/-- **The sum of hazards** is the failure probability and what it counts again. -/
lemma sum_eq_add_countedAgain (ms : List K) :
    ms.sum = (1 - survival ms) + countedAgain 0 ms := by
  have h := failed_add_sum 0 ms
  rw [zero_add, sub_zero, one_mul] at h
  exact h

/-- The product of the survivals of probabilities is a probability. -/
lemma survival_mem {ms : List K} (h : ∀ m ∈ ms, 0 ≤ m ∧ m ≤ 1) :
    0 ≤ survival ms ∧ survival ms ≤ 1 := by
  induction ms with
  | nil => exact ⟨zero_le_one, le_refl _⟩
  | cons m ms ih =>
      obtain ⟨hlow, hhigh⟩ := h m List.mem_cons_self
      obtain ⟨hrest, hrest'⟩ := ih fun x hx => h x (List.mem_cons_of_mem m hx)
      rw [survival_cons]
      exact ⟨mul_nonneg (by linarith) hrest, mul_le_one₀ (by linarith) hrest hrest'⟩

omit [IsStrictOrderedRing K] in
/-- One hazard other than zero counts nothing again. -/
lemma countedAgain_eq_zero {ms : List K} (h : ms.Pairwise fun a b => a = 0 ∨ b = 0) :
    countedAgain 0 ms = 0 := by
  have hzero : ∀ (failed : K) (l : List K), (∀ m ∈ l, m = 0) → countedAgain failed l = 0 := by
    intro failed l hl
    induction l generalizing failed with
    | nil => rfl
    | cons m l ih =>
        rw [countedAgain, hl m List.mem_cons_self, zero_mul, zero_mul, zero_add, add_zero]
        exact ih failed fun x hx => hl x (List.mem_cons_of_mem m hx)
  induction ms with
  | nil => rfl
  | cons m ms ih =>
      obtain ⟨hfirst, hrest⟩ := List.pairwise_cons.mp h
      rw [countedAgain, mul_zero, zero_add, sub_zero, mul_one, zero_add]
      by_cases hm : m = 0
      · rw [hm]
        exact ih hrest
      · exact hzero m ms fun x hx => (hfirst x hx).resolve_left hm

end EclServer.Library
