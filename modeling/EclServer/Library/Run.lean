import Mathlib.Tactic

/-!
Runs of a state machine whose step is a total function: a request that is refused, or an
action that is not enabled, leaves the state as it is.

* `run`: the state after a list of actions, and `run_append` its splitting rule.
* `EachStep`: a condition on (state, action) met by every step of a run, and
  `run_induction`: an invariant kept by every step that meets the condition is kept by
  the run.
* `Always`: a property of every state the run passes through.
* `always_iff_eachStep`: where the condition decides, from a good state, whether the step
  leads to a good state again, the runs that stay good are exactly the runs all of whose
  steps meet the condition.
* `EachTransition`: a property of every transition of a run, and
  `eachTransition_iff_eachStep` the same characterisation for it;
  `always_and_eachTransition_iff` for the two together.
* `Alternates`: a record of events in which two of them take turns, and
  `Alternates.count_between`: between two turns of the one there is one turn of the other.
-/

namespace EclServer.Library

variable {σ α : Type*}

/-- The state reached from `s` by the actions `as`. -/
def run (step : σ → α → σ) (s : σ) (as : List α) : σ := as.foldl step s

section Run

variable (step : σ → α → σ)

@[simp] lemma run_nil (s : σ) : run step s [] = s := rfl

@[simp] lemma run_cons (s : σ) (a : α) (as : List α) :
    run step s (a :: as) = run step (step s a) as := rfl

lemma run_append (s : σ) (as bs : List α) :
    run step s (as ++ bs) = run step (run step s as) bs := by
  simp [run]

lemma run_concat (s : σ) (as : List α) (a : α) :
    run step s (as ++ [a]) = step (run step s as) a := by
  simp [run]

/-! ### Conditions on the steps of a run -/

/-- Every step of the run meets `G` at the state it starts from. -/
def EachStep (G : σ → α → Prop) : σ → List α → Prop
  | _, [] => True
  | s, a :: as => G s a ∧ EachStep G (step s a) as

variable {step} {G : σ → α → Prop}

instance EachStep.decidable [∀ s a, Decidable (G s a)] :
    ∀ (s : σ) (as : List α), Decidable (EachStep step G s as)
  | _, [] => isTrue trivial
  | s, a :: as =>
      have := EachStep.decidable (step s a) as
      inferInstanceAs (Decidable (G s a ∧ EachStep step G (step s a) as))

@[simp] lemma eachStep_nil (s : σ) : EachStep step G s [] := trivial

@[simp] lemma eachStep_cons (s : σ) (a : α) (as : List α) :
    EachStep step G s (a :: as) ↔ G s a ∧ EachStep step G (step s a) as := Iff.rfl

lemma eachStep_append (s : σ) (as bs : List α) :
    EachStep step G s (as ++ bs)
      ↔ EachStep step G s as ∧ EachStep step G (run step s as) bs := by
  induction as generalizing s with
  | nil => simp
  | cons a as ih => simp [ih, and_assoc]

lemma EachStep.mono {H : σ → α → Prop} (hGH : ∀ s a, G s a → H s a) {s : σ} {as : List α}
    (h : EachStep step G s as) : EachStep step H s as := by
  induction as generalizing s with
  | nil => trivial
  | cons a as ih => exact ⟨hGH s a h.1, ih h.2⟩

/-- A condition that every step meets is met along every run. -/
lemma EachStep.of_forall (h : ∀ s a, G s a) (s : σ) (as : List α) : EachStep step G s as := by
  induction as generalizing s with
  | nil => trivial
  | cons a as ih => exact ⟨h s a, ih _⟩

/-- A condition on the actions alone is met along a run of such actions. -/
lemma EachStep.of_mem {H : α → Prop} {as : List α} (h : ∀ a ∈ as, H a) (s : σ) :
    EachStep step (fun _ a => H a) s as := by
  induction as generalizing s with
  | nil => trivial
  | cons a as ih =>
      exact ⟨h a (List.mem_cons_self ..), ih (fun b hb => h b (List.mem_cons_of_mem _ hb)) _⟩

/-- **Induction along a run**: an invariant kept by every step that meets the condition
holds of the state reached by a run whose steps all meet it. -/
theorem run_induction {I : σ → Prop} (hstep : ∀ s a, I s → G s a → I (step s a)) {s : σ}
    {as : List α} (h0 : I s) (h : EachStep step G s as) : I (run step s as) := by
  induction as generalizing s with
  | nil => exact h0
  | cons a as ih => exact ih (hstep s a h0 h.1) h.2

lemma EachStep.and {H : σ → α → Prop} {s : σ} {as : List α} (hG : EachStep step G s as)
    (hH : EachStep step H s as) : EachStep step (fun t a => G t a ∧ H t a) s as := by
  induction as generalizing s with
  | nil => trivial
  | cons a as ih => exact ⟨⟨hG.1, hH.1⟩, ih hG.2 hH.2⟩

/-- **A law of the steps** that follows from an invariant holds along every run whose steps
keep the invariant. -/
theorem eachStep_of_invariant {I : σ → Prop} {H : σ → α → Prop}
    (hstep : ∀ s a, I s → G s a → I (step s a)) (hlaw : ∀ s a, I s → G s a → H s a) {s : σ}
    {as : List α} (h0 : I s) (h : EachStep step G s as) : EachStep step H s as := by
  induction as generalizing s with
  | nil => trivial
  | cons a as ih => exact ⟨hlaw s a h0 h.1, ih (hstep s a h0 h.1) h.2⟩

/-- Induction along a run without a condition on its steps. -/
theorem run_invariant {I : σ → Prop} (hstep : ∀ s a, I s → I (step s a)) {s : σ}
    (as : List α) (h0 : I s) : I (run step s as) :=
  run_induction (G := fun _ _ => True) (fun s a hs _ => hstep s a hs) h0
    (EachStep.of_forall (fun _ _ => trivial) s as)

/-! ### Properties of every state of a run -/

variable (step)

/-- `P` holds of every state the run passes through, its first and its last included. -/
def Always (P : σ → Prop) (s : σ) (as : List α) : Prop :=
  ∀ bs, bs <+: as → P (run step s bs)

variable {step} {P : σ → Prop}

@[simp] lemma always_nil (s : σ) : Always step P s [] ↔ P s :=
  ⟨fun h => h [] List.nil_prefix, fun h bs hbs => by rwa [List.prefix_nil.mp hbs]⟩

@[simp] lemma always_cons (s : σ) (a : α) (as : List α) :
    Always step P s (a :: as) ↔ P s ∧ Always step P (step s a) as := by
  constructor
  · intro h
    exact ⟨h [] List.nil_prefix, fun bs hbs => h (a :: bs) (by simpa using hbs)⟩
  · rintro ⟨hs, h⟩ bs hbs
    cases bs with
    | nil => exact hs
    | cons b bs =>
        obtain ⟨rfl, htail⟩ := List.cons_prefix_cons.mp hbs
        exact h bs htail

lemma Always.head {s : σ} {as : List α} (h : Always step P s as) : P s :=
  h [] List.nil_prefix

/-- An invariant kept by every step that meets the condition holds throughout a run whose
steps all meet it. -/
theorem always_of_eachStep (hstep : ∀ s a, P s → G s a → P (step s a)) {s : σ}
    {as : List α} (h0 : P s) (h : EachStep step G s as) : Always step P s as := by
  induction as generalizing s with
  | nil => simpa using h0
  | cons a as ih => exact (always_cons s a as).mpr ⟨h0, ih (hstep s a h0 h.1) h.2⟩

/-- **The exact condition**: where, from a good state, a step that `A` admits leads to a
good state if and only if it meets `G`, an admitted run stays good if and only if all its
steps meet `G`. -/
theorem always_iff_eachStep {A : σ → α → Prop}
    (hstep : ∀ s a, P s → A s a → (P (step s a) ↔ G s a)) {s : σ} (h0 : P s) {as : List α}
    (hA : EachStep step A s as) : Always step P s as ↔ EachStep step G s as := by
  induction as generalizing s with
  | nil => simpa using h0
  | cons a as ih =>
      rw [always_cons, eachStep_cons]
      constructor
      · rintro ⟨hs, htail⟩
        have hG : G s a := (hstep s a hs hA.1).mp htail.head
        exact ⟨hG, (ih htail.head hA.2).mp htail⟩
      · rintro ⟨hG, htail⟩
        have hnext : P (step s a) := (hstep s a h0 hA.1).mpr hG
        exact ⟨h0, (ih hnext hA.2).mpr htail⟩

/-- The exact condition beside an invariant `I` that every admitted step keeps. -/
theorem always_iff_eachStep_of_invariant {I : σ → Prop} {A : σ → α → Prop}
    (hinv : ∀ s a, I s → A s a → I (step s a))
    (hstep : ∀ s a, I s → P s → A s a → (P (step s a) ↔ G s a)) {s : σ} (hI : I s) (h0 : P s)
    {as : List α} (hA : EachStep step A s as) : Always step P s as ↔ EachStep step G s as := by
  have hboth : Always step (fun t => I t ∧ P t) s as ↔ EachStep step G s as := by
    refine always_iff_eachStep (fun t a ht ha => ?_) ⟨hI, h0⟩ hA
    rw [← hstep t a ht.1 ht.2 ha]
    exact and_iff_right (hinv t a ht.1 ha)
  have halways : Always step I s as := always_of_eachStep (fun t a ht ha => hinv t a ht ha) hI hA
  rw [← hboth]
  exact ⟨fun h bs hbs => ⟨halways bs hbs, h bs hbs⟩, fun h bs hbs => (h bs hbs).2⟩

end Run

/-! ### Properties of every transition of a run -/

section Transition

variable (step : σ → α → σ)

/-- Every transition of the run, with the state before, the action and the state after,
satisfies `Q`. -/
def EachTransition (Q : σ → α → σ → Prop) (s : σ) (as : List α) : Prop :=
  EachStep step (fun t a => Q t a (step t a)) s as

variable {step} {G : σ → α → Prop} {Q : σ → α → σ → Prop}

/-- Where the condition decides, in every state the invariant allows, whether the
transition is a good one, the good runs are exactly the runs that meet the condition. -/
theorem eachTransition_iff_eachStep {I : σ → Prop} (hI : ∀ s a, I s → I (step s a))
    (hstep : ∀ s a, I s → (Q s a (step s a) ↔ G s a)) {s : σ} (h0 : I s) (as : List α) :
    EachTransition step Q s as ↔ EachStep step G s as := by
  unfold EachTransition
  induction as generalizing s with
  | nil => simp
  | cons a as ih =>
      rw [eachStep_cons, eachStep_cons, hstep s a h0, ih (hI s a h0)]

/-- The exact condition for a property of every state together with one of every transition, beside
an invariant `I` that every step keeps. -/
theorem always_and_eachTransition_iff {I P : σ → Prop} (hI : ∀ s a, I s → I (step s a))
    (hstep : ∀ s a, I s → P s → (P (step s a) ∧ Q s a (step s a) ↔ G s a)) {s : σ} (h0 : I s)
    (hP : P s) (as : List α) :
    Always step P s as ∧ EachTransition step Q s as ↔ EachStep step G s as := by
  unfold EachTransition
  induction as generalizing s with
  | nil => simpa using hP
  | cons a as ih =>
      rw [always_cons, eachStep_cons, eachStep_cons]
      constructor
      · rintro ⟨⟨-, halways⟩, hQ, hrest⟩
        have hG : G s a := (hstep s a h0 hP).mp ⟨halways.head, hQ⟩
        exact ⟨hG, (ih (hI s a h0) halways.head).mp ⟨halways, hrest⟩⟩
      · rintro ⟨hG, htail⟩
        obtain ⟨hnext, hQ⟩ := (hstep s a h0 hP).mpr hG
        obtain ⟨halways, hrest⟩ := (ih (hI s a h0) hnext).mpr htail
        exact ⟨⟨hP, halways⟩, hQ, hrest⟩

end Transition

/-! ### Records in which two events take turns -/

section Alternation

variable {ε : Type*} [DecidableEq ε] {d q : ε} {l : List ε}

/-- At every moment `q` has happened as often as `d`, or once less. -/
def Alternates (d q : ε) (l : List ε) : Prop :=
  ∀ l', l' <+: l → l'.count q ≤ l'.count d ∧ l'.count d ≤ l'.count q + 1

lemma alternates_nil : Alternates d q [] := by
  intro l' hl'
  simp [List.prefix_nil.mp hl']

/-- One more event, as long as the counts still fit. -/
lemma Alternates.concat (h : Alternates d q l) (e : ε)
    (hle : (l ++ [e]).count q ≤ (l ++ [e]).count d)
    (hge : (l ++ [e]).count d ≤ (l ++ [e]).count q + 1) : Alternates d q (l ++ [e]) := by
  intro l' hl'
  rcases List.prefix_concat_iff.mp hl' with rfl | hshorter
  · exact ⟨hle, hge⟩
  · exact h l' hshorter

/-- **One turn between two**: between two successive `q` there is exactly one `d`. -/
theorem Alternates.count_between {a b c : List ε} (hdq : d ≠ q)
    (h : Alternates d q (a ++ q :: (b ++ q :: c))) (hb : q ∉ b) : b.count d = 1 := by
  have hbefore := h a (List.prefix_append a _)
  have hfirst := h (a ++ [q]) ⟨b ++ q :: c, by simp⟩
  have hwait := h (a ++ q :: b) ⟨q :: c, by simp⟩
  have hsecond := h (a ++ q :: (b ++ [q])) ⟨c, by simp⟩
  have hnone : b.count q = 0 := List.count_eq_zero.mpr hb
  simp only [List.count_append, List.count_cons_self, List.count_cons_of_ne hdq.symm,
    List.count_nil, hnone] at hbefore hfirst hwait hsecond
  omega

end Alternation

end EclServer.Library
