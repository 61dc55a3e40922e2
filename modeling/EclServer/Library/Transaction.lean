import Mathlib.Tactic

/-!
Request bodies that run in one database transaction.

* `Tx ε σ α`: a body over the session's state `σ` that may raise an `ε`. What it wrote
  before raising stays in the session, as it does in an ORM session before the transaction
  ends; `exec` is its raw effect, with one simp lemma for each primitive.
* `Tx.commit`: the transaction boundary, which keeps the session's writes on normal return
  and drops them on any exception.
* `ErrorsIn`: the errors a body can raise, with one rule for each way to build a body.
* `Keeps`: what a body that returns keeps, with one rule for each way to build a body.
* `Tx.commitWith`: the boundary of a body that also writes outside the database.
* `commit_error_state`: a request that raises leaves the database as it was.
-/

namespace EclServer.Library

/-- A request body over the session's state `σ` that returns an `α` or raises an `ε`. -/
abbrev Tx (ε σ α : Type) := ExceptT ε (StateM σ) α

namespace Tx

variable {ε σ α β : Type}

/-- The raw effect of a body: its result and the session's state, kept even when it
raises. -/
def exec (m : Tx ε σ α) (s : σ) : Except ε α × σ := StateT.run (ExceptT.run m) s

@[simp] lemma exec_pure (a : α) (s : σ) : exec (pure a : Tx ε σ α) s = (.ok a, s) := rfl

@[simp] lemma exec_throw (e : ε) (s : σ) : exec (throw e : Tx ε σ α) s = (.error e, s) := rfl

@[simp] lemma exec_get (s : σ) : exec (get : Tx ε σ σ) s = (.ok s, s) := rfl

@[simp] lemma exec_set (s t : σ) : exec (set t : Tx ε σ PUnit) s = (.ok ⟨⟩, t) := rfl

@[simp] lemma exec_modify (f : σ → σ) (s : σ) :
    exec (modify f : Tx ε σ PUnit) s = (.ok ⟨⟩, f s) := rfl

/-- A computation that touches no state keeps its answer when it is lifted. -/
@[simp] lemma exec_liftM (r : Except ε α) (s : σ) : exec (liftM r : Tx ε σ α) s = (r, s) := rfl

lemma exec_bind (m : Tx ε σ α) (f : α → Tx ε σ β) (s : σ) :
    exec (m >>= f) s = match exec m s with
      | (.ok a, t) => exec (f a) t
      | (.error e, t) => (.error e, t) := by
  simp only [exec, bind, ExceptT.bind, ExceptT.run, ExceptT.mk, StateT.run, StateT.bind]
  rcases m s with ⟨r, t⟩
  cases r <;> rfl

/-- A body that raises ends the sequence. -/
lemma exec_bind_error {m : Tx ε σ α} {f : α → Tx ε σ β} {s t : σ} {e : ε}
    (h : exec m s = (.error e, t)) : exec (m >>= f) s = (.error e, t) := by
  rw [exec_bind, h]

/-- A body that returns hands its result and its state to the rest. -/
lemma exec_bind_ok {m : Tx ε σ α} {f : α → Tx ε σ β} {s t : σ} {a : α}
    (h : exec m s = (.ok a, t)) : exec (m >>= f) s = exec (f a) t := by
  rw [exec_bind, h]

/-- A sequence returns exactly when both its parts do. -/
lemma exec_bind_eq_ok {m : Tx ε σ α} {f : α → Tx ε σ β} {s t : σ} {b : β} :
    exec (m >>= f) s = (.ok b, t)
      ↔ ∃ a s', exec m s = (.ok a, s') ∧ exec (f a) s' = (.ok b, t) := by
  rw [exec_bind]
  constructor
  · intro h
    split at h
    · rename_i a s' hm
      exact ⟨a, s', hm, h⟩
    · simp at h
  · rintro ⟨a, s', hm, hf⟩
    rw [hm]
    exact hf

/-- A sequence raises exactly when its first part does, or the rest after it. -/
lemma exec_bind_eq_error {m : Tx ε σ α} {f : α → Tx ε σ β} {s t : σ} {e : ε} :
    exec (m >>= f) s = (.error e, t) ↔ exec m s = (.error e, t) ∨
      ∃ a s', exec m s = (.ok a, s') ∧ exec (f a) s' = (.error e, t) := by
  rw [exec_bind]
  cases h : exec m s with
  | mk r s' =>
      cases r with
      | error e' => simp
      | ok a => simp

@[simp] lemma exec_pure_bind (a : α) (f : α → Tx ε σ β) (s : σ) :
    exec (pure a >>= f) s = exec (f a) s := exec_bind_ok rfl

@[simp] lemma exec_throw_bind (e : ε) (f : α → Tx ε σ β) (s : σ) :
    exec ((throw e : Tx ε σ α) >>= f) s = (.error e, s) := exec_bind_error rfl

@[simp] lemma exec_get_bind (f : σ → Tx ε σ β) (s : σ) :
    exec (get >>= f) s = exec (f s) s := exec_bind_ok rfl

@[simp] lemma exec_set_bind (t : σ) (f : PUnit → Tx ε σ β) (s : σ) :
    exec ((set t : Tx ε σ PUnit) >>= f) s = exec (f ⟨⟩) t := exec_bind_ok rfl

@[simp] lemma exec_modify_bind (g : σ → σ) (f : PUnit → Tx ε σ β) (s : σ) :
    exec ((modify g : Tx ε σ PUnit) >>= f) s = exec (f ⟨⟩) (g s) := exec_bind_ok rfl

@[simp] lemma exec_ite (c : Prop) [Decidable c] (m n : Tx ε σ α) (s : σ) :
    exec (if c then m else n) s = if c then exec m s else exec n s := by
  split <;> rfl

/-! ### The errors a body can raise -/

/-- Every error the body raises, from any state, satisfies `P`. -/
def ErrorsIn (P : ε → Prop) (m : Tx ε σ α) : Prop :=
  ∀ s e t, exec m s = (.error e, t) → P e

variable {P : ε → Prop}

lemma errorsIn_pure (a : α) : ErrorsIn P (pure a : Tx ε σ α) := by
  intro s e t h
  simp at h

lemma errorsIn_modify (f : σ → σ) : ErrorsIn P (modify f : Tx ε σ PUnit) := by
  intro s e t h
  simp at h

lemma errorsIn_throw {e : ε} (he : P e) : ErrorsIn P (throw e : Tx ε σ α) := by
  intro s e' t h
  simp only [exec_throw, Prod.mk.injEq, Except.error.injEq] at h
  rwa [← h.1]

lemma errorsIn_ite {c : Prop} [Decidable c] {m n : Tx ε σ α} (hm : ErrorsIn P m)
    (hn : ErrorsIn P n) : ErrorsIn P (if c then m else n) := by
  split
  · exact hm
  · exact hn

lemma errorsIn_bind {m : Tx ε σ α} {f : α → Tx ε σ β} (hm : ErrorsIn P m)
    (hf : ∀ a, ErrorsIn P (f a)) : ErrorsIn P (m >>= f) := by
  intro s e t h
  rw [exec_bind] at h
  split at h
  · exact hf _ _ _ _ h
  · rename_i hm'
    simp only [Prod.mk.injEq, Except.error.injEq] at h
    exact h.1 ▸ hm _ _ _ hm'

/-! ### What a body keeps -/

/-- Whenever the body returns, the states before and after it are related. -/
def Keeps (R : σ → σ → Prop) (m : Tx ε σ α) : Prop :=
  ∀ s a t, exec m s = (.ok a, t) → R s t

section Keeps

variable {R : σ → σ → Prop}

lemma keeps_pure [Std.Refl R] (a : α) : Keeps R (pure a : Tx ε σ α) := by
  intro s b t h
  simp only [exec_pure, Prod.mk.injEq] at h
  exact h.2 ▸ Std.Refl.refl s

lemma keeps_throw (e : ε) : Keeps R (throw e : Tx ε σ α) := by
  intro s a t h
  simp at h

lemma keeps_get [Std.Refl R] : Keeps R (get : Tx ε σ σ) := by
  intro s a t h
  simp only [exec_get, Prod.mk.injEq] at h
  exact h.2 ▸ Std.Refl.refl s

lemma keeps_modify {f : σ → σ} (h : ∀ s, R s (f s)) : Keeps R (modify f : Tx ε σ PUnit) := by
  intro s a t ht
  simp only [exec_modify, Prod.mk.injEq] at ht
  exact ht.2 ▸ h s

lemma keeps_liftM [Std.Refl R] (r : Except ε α) : Keeps R (liftM r : Tx ε σ α) := by
  intro s a t h
  simp only [exec_liftM, Prod.mk.injEq] at h
  exact h.2 ▸ Std.Refl.refl s

lemma keeps_ite {c : Prop} [Decidable c] {m n : Tx ε σ α} (hm : Keeps R m) (hn : Keeps R n) :
    Keeps R (if c then m else n) := by
  split
  · exact hm
  · exact hn

lemma keeps_bind [IsTrans σ R] {m : Tx ε σ α} {f : α → Tx ε σ β}
    (hm : Keeps R m) (hf : ∀ a, Keeps R (f a)) : Keeps R (m >>= f) := by
  intro s b u h
  obtain ⟨a, t, hfirst, hrest⟩ := exec_bind_eq_ok.mp h
  exact IsTrans.trans s t u (hm s a t hfirst) (hf a t b u hrest)

end Keeps

/-! ### The transaction boundary -/

/-- **The transaction boundary**: the session's writes are committed when the body returns
and rolled back when it raises. -/
def commit (m : Tx ε σ α) (s : σ) : Except ε α × σ :=
  match exec m s with
  | (.ok a, t) => (.ok a, t)
  | (.error e, _) => (.error e, s)

lemma commit_of_ok {m : Tx ε σ α} {s t : σ} {a : α} (h : exec m s = (.ok a, t)) :
    commit m s = (.ok a, t) := by
  rw [commit, h]

lemma commit_of_error {m : Tx ε σ α} {s t : σ} {e : ε} (h : exec m s = (.error e, t)) :
    commit m s = (.error e, s) := by
  rw [commit, h]

/-- A request that returned has the effect of its body. -/
lemma exec_of_commit_ok {m : Tx ε σ α} {s t : σ} {a : α} (h : commit m s = (.ok a, t)) :
    exec m s = (.ok a, t) := by
  unfold commit at h
  split at h <;> simp_all

/-- The transaction boundary of a body that also writes outside the database: on an
exception the session goes back to `restore before raised`, which keeps the outside writes
of the state it raised in. -/
def commitWith (restore : σ → σ → σ) (m : Tx ε σ α) (s : σ) : Except ε α × σ :=
  match exec m s with
  | (.ok a, t) => (.ok a, t)
  | (.error e, t) => (.error e, restore s t)

lemma commitWith_of_ok {restore : σ → σ → σ} {m : Tx ε σ α} {s t : σ} {a : α}
    (h : exec m s = (.ok a, t)) : commitWith restore m s = (.ok a, t) := by
  rw [commitWith, h]

lemma exec_of_commitWith_ok {restore : σ → σ → σ} {m : Tx ε σ α} {s : σ} {a : α}
    (h : (commitWith restore m s).1 = .ok a) :
    exec m s = (.ok a, (commitWith restore m s).2) := by
  unfold commitWith at h ⊢
  split <;> simp_all

/-- A request that raised goes back from the state that its body raised in. -/
lemma exec_of_commitWith_error {restore : σ → σ → σ} {m : Tx ε σ α} {s t : σ} {e : ε}
    (h : commitWith restore m s = (.error e, t)) :
    ∃ raised, exec m s = (.error e, raised) ∧ t = restore s raised := by
  unfold commitWith at h
  split at h
  · cases (Prod.mk.injEq _ _ _ _ ▸ h : _ ∧ _).1
  · rename_i raised hraised
    simp only [Prod.mk.injEq, Except.error.injEq] at h
    obtain ⟨rfl, rfl⟩ := h
    exact ⟨raised, hraised, rfl⟩

/-- What such a request leaves behind. -/
lemma commitWith_snd (restore : σ → σ → σ) (m : Tx ε σ α) (s : σ) :
    (∃ t, (commitWith restore m s).2 = restore s t) ∨
      ∃ a, exec m s = (.ok a, (commitWith restore m s).2) := by
  unfold commitWith
  split <;> rename_i h
  · exact Or.inr ⟨_, h⟩
  · exact Or.inl ⟨_, rfl⟩

/-- The answer of a request is the answer of its body. -/
@[simp] lemma commit_fst (m : Tx ε σ α) (s : σ) : (commit m s).1 = (exec m s).1 := by
  unfold commit
  split <;> simp_all

/-- **A failed request changes nothing.** -/
lemma commit_error_state {m : Tx ε σ α} {s : σ} {e : ε} (h : (commit m s).1 = .error e) :
    (commit m s).2 = s := by
  unfold commit at h ⊢
  split <;> simp_all

/-- The state after a request is the state before it or what its body wrote. -/
lemma commit_snd (m : Tx ε σ α) (s : σ) :
    (commit m s).2 = s ∨ ∃ a, exec m s = (.ok a, (commit m s).2) := by
  unfold commit
  split <;> rename_i h
  · exact Or.inr ⟨_, h⟩
  · exact Or.inl rfl

/-- What a body keeps when it returns, its request keeps. -/
lemma keeps_commit {R : σ → σ → Prop} [Std.Refl R] {m : Tx ε σ α} (h : Keeps R m) (s : σ) :
    R s (commit m s).2 := by
  rcases commit_snd m s with hs | ⟨a, ha⟩
  · rw [hs]
    exact Std.Refl.refl s
  · exact h s a _ ha

/-- A property that the body keeps whenever it returns is kept by the request. -/
lemma commit_induction {I : σ → Prop} {m : Tx ε σ α} {s : σ} (h0 : I s)
    (h : ∀ a t, exec m s = (.ok a, t) → I t) : I (commit m s).2 := by
  rcases commit_snd m s with hs | ⟨a, ha⟩
  · rwa [hs]
  · exact h a _ ha

end Tx

end EclServer.Library
