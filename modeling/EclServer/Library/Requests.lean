import EclServer.Library.Run

/-!
Requests that overlap in one database.

A request takes its statements one after the other and holds no locks: a statement reads the
shared tables, and the last one commits what the request writes.

* `Service`: the first statement of a request, and what a statement does. `Service.step`: one
  statement of one of the requests under way, or a connection that is lost.
* `Service.induction`: what every statement keeps holds along every interleaving.
  `Service.always_of_meets`: what the statements keep that meet a condition.
* `Service.always_iff`: the interleavings that keep a property are those in which every
  statement meets the exact condition for it.
* `Service.serve`, `Service.run_serial`: requests that nobody interrupts.
  `Service.finish_induction`: what such a request knows of the tables stays true.
-/

namespace EclServer.Library

variable {σ ρ α : Type*}

/-- The code of the requests: where a request starts, and what its next statement makes of the
tables; it stands at another statement then, or has ended. -/
structure Service (σ α ρ : Type*) where
  start : α → ρ
  next : σ → ρ → σ × Option ρ

/-- The tables, with the requests under way. -/
structure Shared (σ ρ : Type*) where
  db : σ
  held : List ρ := []

inductive SharedAction (α : Type*) where
  | arrive (a : α)
  | advance (i : ℕ)
  | drop (i : ℕ)

namespace Service

variable (S : Service σ α ρ)

/-- Request `i` at its next statement, or ended. -/
def put (held : List ρ) (i : ℕ) : Option ρ → List ρ
  | none => held.eraseIdx i
  | some r => held.set i r

/-- A request arrives, takes its next statement, or loses its connection before it commits. -/
def step (st : Shared σ ρ) : SharedAction α → Shared σ ρ
  | .arrive a => { st with held := st.held ++ [S.start a] }
  | .advance i =>
      match st.held[i]? with
      | none => st
      | some r => { db := (S.next st.db r).1, held := put st.held i (S.next st.db r).2 }
  | .drop i => { st with held := st.held.eraseIdx i }

/-- The action is the next statement of request `r`. -/
def Advances (st : Shared σ ρ) (a : SharedAction α) (r : ρ) : Prop :=
  ∃ i, a = .advance i ∧ st.held[i]? = some r

variable {S} {st : Shared σ ρ} {a : SharedAction α} {r : ρ}

lemma step_arrive (b : α) :
    S.step st (.arrive b) = { st with held := st.held ++ [S.start b] } := rfl

lemma step_advance {i : ℕ} (h : st.held[i]? = some r) :
    S.step st (.advance i)
      = { db := (S.next st.db r).1, held := put st.held i (S.next st.db r).2 } := by
  rw [step, h]

/-! ### What a step does -/

/-- The tables change by a statement of a request under way, or not at all. -/
lemma db_step_of_advances (h : Advances st a r) : (S.step st a).db = (S.next st.db r).1 := by
  obtain ⟨i, rfl, hi⟩ := h
  rw [step_advance hi]

lemma db_step_of_not_advances (h : ∀ r, ¬ Advances st a r) : (S.step st a).db = st.db := by
  cases a with
  | arrive b => rfl
  | drop i => rfl
  | advance i =>
      cases hi : st.held[i]? with
      | none => rw [step, hi]
      | some r => exact absurd ⟨i, rfl, hi⟩ (h r)

lemma Advances.mem (h : Advances st a r) : r ∈ st.held := by
  obtain ⟨i, -, hi⟩ := h
  exact List.mem_of_getElem? hi

lemma mem_put {held : List ρ} {i : ℕ} {o : Option ρ} {r' : ρ} (h : r' ∈ put held i o) :
    r' ∈ held ∨ o = some r' := by
  cases o with
  | none => exact Or.inl (List.mem_of_mem_eraseIdx h)
  | some r =>
      rcases List.mem_or_eq_of_mem_set h with hold | hnew
      · exact Or.inl hold
      · exact Or.inr (by rw [hnew])

/-- **What becomes of the requests**: each one was under way, has just arrived or stands at its
next statement. -/
lemma mem_held_step {r' : ρ} (h : r' ∈ (S.step st a).held) :
    r' ∈ st.held ∨ (∃ b, a = .arrive b ∧ r' = S.start b) ∨
      ∃ r, Advances st a r ∧ (S.next st.db r).2 = some r' := by
  cases a with
  | arrive b =>
      rw [step_arrive] at h
      rcases List.mem_append.mp h with hold | hnew
      · exact Or.inl hold
      · exact Or.inr (Or.inl ⟨b, rfl, List.mem_singleton.mp hnew⟩)
  | drop i => exact Or.inl (List.mem_of_mem_eraseIdx h)
  | advance i =>
      cases hi : st.held[i]? with
      | none =>
          rw [step, hi] at h
          exact Or.inl h
      | some r =>
          rw [step_advance hi] at h
          rcases mem_put h with hold | hnew
          · exact Or.inl hold
          · exact Or.inr (Or.inr ⟨r, ⟨i, rfl, hi⟩, hnew⟩)

/-! ### Every interleaving -/

/-- The tables satisfy `I` and each request under way satisfies `J`. -/
def Inv (I : σ → Prop) (J : ρ → Prop) (st : Shared σ ρ) : Prop :=
  I st.db ∧ ∀ r ∈ st.held, J r

/-- A request that arrives meets `A`. -/
def Admits (A : α → Prop) (_ : Shared σ ρ) (a : SharedAction α) : Prop :=
  ∀ b, a = .arrive b → A b

variable {I : σ → Prop} {J : ρ → Prop} {A : α → Prop}

variable {G : σ → ρ → Prop}

/-- The request that takes its next statement meets `G`. -/
def Meets (G : σ → ρ → Prop) (st : Shared σ ρ) (a : SharedAction α) : Prop :=
  ∀ r, Advances st a r → G st.db r

/-- The request that an action advances. -/
def current (st : Shared σ ρ) : SharedAction α → Option ρ
  | .advance i => st.held[i]?
  | .arrive _ => none
  | .drop _ => none

lemma advances_iff : Advances st a r ↔ current st a = some r := by
  cases a with
  | arrive b => simp [Advances, current]
  | advance i => simp [Advances, current]
  | drop i => simp [Advances, current]

instance Meets.decidable [∀ db r, Decidable (G db r)] : Decidable (Meets G st a) :=
  decidable_of_iff (∀ r ∈ current st a, G st.db r) (by simp only [Meets, advances_iff, Option.mem_def])

lemma inv_step_of_meets (hstart : ∀ b, A b → J (S.start b))
    (hnext : ∀ db r, I db → J r → G db r → I (S.next db r).1 ∧ ∀ r' ∈ (S.next db r).2, J r')
    (h : Inv I J st) (ha : Admits A st a) (hG : Meets G st a) : Inv I J (S.step st a) := by
  constructor
  · by_cases hadv : ∃ r, Advances st a r
    · obtain ⟨r, hr⟩ := hadv
      rw [db_step_of_advances hr]
      exact (hnext st.db r h.1 (h.2 r hr.mem) (hG r hr)).1
    · rw [db_step_of_not_advances fun r hr => hadv ⟨r, hr⟩]
      exact h.1
  · intro r' hr'
    rcases mem_held_step hr' with hold | ⟨b, rfl, rfl⟩ | ⟨r, hr, hnew⟩
    · exact h.2 r' hold
    · exact hstart b (ha b rfl)
    · exact (hnext st.db r h.1 (h.2 r hr.mem) (hG r hr)).2 r' hnew

lemma inv_step (hstart : ∀ b, A b → J (S.start b))
    (hnext : ∀ db r, I db → J r → I (S.next db r).1 ∧ ∀ r' ∈ (S.next db r).2, J r')
    (h : Inv I J st) (ha : Admits A st a) : Inv I J (S.step st a) :=
  inv_step_of_meets (G := fun _ _ => True) hstart (fun db r hI hJ _ => hnext db r hI hJ) h ha
    fun _ _ => trivial

/-- What the statements keep that meet `G` holds throughout an interleaving of such statements. -/
theorem always_of_meets (hstart : ∀ b, A b → J (S.start b))
    (hnext : ∀ db r, I db → J r → G db r → I (S.next db r).1 ∧ ∀ r' ∈ (S.next db r).2, J r')
    {as : List (SharedAction α)} (h : Inv I J st) (hA : EachStep S.step (Admits A) st as)
    (hG : EachStep S.step (Meets G) st as) : Always S.step (fun st => I st.db) st as := by
  have halways : Always S.step (Inv I J) st as :=
    always_of_eachStep (fun _ _ hs ha => inv_step_of_meets hstart hnext hs ha.1 ha.2) h (hA.and hG)
  exact fun bs hbs => (halways bs hbs).1

/-- **Induction over interleavings**: what every statement keeps of the tables, with what every
request knows of itself, holds whatever the order of the statements. -/
theorem induction (hstart : ∀ b, A b → J (S.start b))
    (hnext : ∀ db r, I db → J r → I (S.next db r).1 ∧ ∀ r' ∈ (S.next db r).2, J r')
    {as : List (SharedAction α)} (h : Inv I J st) (hA : EachStep S.step (Admits A) st as) :
    Inv I J (run S.step st as) :=
  run_induction (fun _ _ hs ha => inv_step hstart hnext hs ha) h hA

/-- **The exact condition**: where `G` decides for each statement whether it keeps `P`, the
interleavings that keep `P` are those whose statements all meet `G`. -/
theorem always_iff {P : σ → Prop} (hstart : ∀ b, A b → J (S.start b))
    (hnext : ∀ db r, I db → J r → I (S.next db r).1 ∧ ∀ r' ∈ (S.next db r).2, J r')
    (hP : ∀ db r, I db → J r → P db → (P (S.next db r).1 ↔ G db r))
    {as : List (SharedAction α)} (h : Inv I J st) (h0 : P st.db)
    (hA : EachStep S.step (Admits A) st as) :
    Always S.step (fun st => P st.db) st as
      ↔ EachStep S.step (Meets G) st as := by
  refine always_iff_eachStep_of_invariant (I := Inv I J)
    (fun _ _ hs ha => inv_step hstart hnext hs ha) (fun st a hs hp _ => ?_) h h0 hA
  by_cases hadv : ∃ r, Advances st a r
  · obtain ⟨r, hr⟩ := hadv
    rw [db_step_of_advances hr, hP st.db r hs.1 (hs.2 r hr.mem) hp]
    constructor
    · intro hG r' hr'
      obtain ⟨i, rfl, hi⟩ := hr
      obtain ⟨j, hj, hi'⟩ := hr'
      obtain rfl := SharedAction.advance.inj hj
      rw [hi] at hi'
      exact Option.some.inj hi' ▸ hG
    · exact fun hG => hG r hr
  · rw [db_step_of_not_advances fun r hr => hadv ⟨r, hr⟩]
    exact iff_of_true hp fun r hr => absurd ⟨r, hr⟩ hadv

/-! ### Requests that nobody interrupts -/

variable (S)

/-- The tables after a request has taken its statements, `n` of them at most. -/
def finish : ℕ → σ → ρ → σ
  | 0, db, _ => db
  | n + 1, db, r =>
      match (S.next db r).2 with
      | none => (S.next db r).1
      | some r' => finish n (S.next db r).1 r'

/-- A request from its arrival to its end. -/
def serve (n : ℕ) (db : σ) (b : α) : σ := S.finish n db (S.start b)

/-- The request has at most `n` statements to go. -/
def EndsWithin : ℕ → ρ → Prop
  | 0, _ => False
  | n + 1, r => ∀ db, ∀ r' ∈ (S.next db r).2, EndsWithin n r'

/-- The requests one after the other, each with `n` statements. -/
def serial (n : ℕ) (bs : List α) : List (SharedAction α) :=
  bs.flatMap fun b => .arrive b :: List.replicate n (.advance 0)

variable {S}

/-- A statement that another one follows. -/
lemma finish_some {n : ℕ} {db db' : σ} {r' : ρ} (h : S.next db r = (db', some r')) :
    S.finish (n + 1) db r = S.finish n db' r' := by
  rw [finish, h]

/-- The last statement. -/
lemma finish_none {n : ℕ} {db db' : σ} (h : S.next db r = (db', none)) :
    S.finish (n + 1) db r = db' := by
  rw [finish, h]

/-- **Induction over a request that nobody interrupts**: what it knows of the tables goes from
statement to statement. -/
theorem finish_induction {K : σ → ρ → Prop} {P : σ → Prop}
    (hnext : ∀ db r r', K db r → (S.next db r).2 = some r' → K (S.next db r).1 r')
    (hend : ∀ db r, K db r → (S.next db r).2 = none → P (S.next db r).1) {n : ℕ}
    (h : S.EndsWithin n r) {db : σ} (hK : K db r) : P (S.finish n db r) := by
  induction n generalizing r db with
  | zero => exact absurd h id
  | succ n ih =>
      rw [finish]
      cases hr : (S.next db r).2 with
      | none => exact hend db r hK hr
      | some r' => exact ih (h db r' hr) (hnext db r r' hK hr)

lemma run_advance_none (db : σ) (n : ℕ) :
    run S.step { db := db } (List.replicate n (SharedAction.advance 0)) = { db := db } := by
  induction n with
  | zero => rfl
  | succ n ih =>
      rw [List.replicate_succ, run_cons]
      exact ih

lemma run_finish {n : ℕ} (h : S.EndsWithin n r) (db : σ) :
    run S.step { db := db, held := [r] } (List.replicate n (SharedAction.advance 0))
      = { db := S.finish n db r } := by
  induction n generalizing r db with
  | zero => exact absurd h id
  | succ n ih =>
      have hstep : S.step { db := db, held := [r] } (SharedAction.advance 0)
          = { db := (S.next db r).1, held := put [r] 0 (S.next db r).2 } := rfl
      rw [List.replicate_succ, run_cons, hstep, finish]
      cases hr : (S.next db r).2 with
      | none => exact run_advance_none _ n
      | some r' => exact ih (h db r' hr) _

/-- **One after the other**: the requests end in the tables that serving each of them makes. -/
theorem run_serial {n : ℕ} (h : ∀ b, S.EndsWithin n (S.start b)) (db : σ) (bs : List α) :
    run S.step { db := db } (serial n bs) = { db := run (S.serve n) db bs } := by
  induction bs generalizing db with
  | nil => rfl
  | cons b bs ih =>
      have hsplit : serial n (b :: bs)
          = SharedAction.arrive b :: (List.replicate n (.advance 0) ++ serial n bs) := rfl
      rw [hsplit, run_cons, step_arrive, run_append, run_cons]
      have hone : run S.step { db := db, held := [] ++ [S.start b] }
          (List.replicate n (SharedAction.advance 0)) = { db := S.serve n db b } :=
        run_finish (h b) db
      rw [hone, ih]

end Service

end EclServer.Library
