import EclServer.Library.Transaction

/-!
Two runs of request bodies side by side.

* `Answers`: what a body that only reads gives, or that it raises.
* `Agrees`: from a pair of states two bodies both raise, or both return one value and a pair of
  states that the postcondition relates. There is one rule for each way to build a body.
* `Agrees.commit`: the requests give one answer, and their states are related again.
-/

namespace EclServer.Library.Tx

variable {ε σ α β : Type}

/-! ### Bodies that read -/

/-- The body returns the value and writes nothing, or it raises. -/
def Answers (m : Tx ε σ α) (s : σ) : Option α → Prop
  | some a => exec m s = (.ok a, s)
  | none => ∃ e t, exec m s = (.error e, t)

/-! ### Agreement -/

/-- Both bodies raise, or both return one value and states that `Q` relates. -/
inductive Agrees (Q : α → σ → σ → Prop) (m n : Tx ε σ α) (s t : σ) : Prop
  | returns {a : α} {s' t' : σ} (hm : exec m s = (.ok a, s')) (hn : exec n t = (.ok a, t'))
      (hQ : Q a s' t')
  | raises {e e' : ε} {s' t' : σ} (hm : exec m s = (.error e, s')) (hn : exec n t = (.error e', t'))

section

variable {Q : α → σ → σ → Prop} {Q' : β → σ → σ → Prop} {m n : Tx ε σ α} {s t : σ}

lemma agrees_pure {a : α} (h : Q a s t) : Agrees Q (pure a : Tx ε σ α) (pure a) s t :=
  .returns rfl rfl h

lemma agrees_throw (e e' : ε) : Agrees Q (throw e : Tx ε σ α) (throw e') s t :=
  .raises rfl rfl

/-- Two bodies that read, and give one answer. -/
lemma agrees_of_answers {o : Option α} (hm : Answers m s o) (hn : Answers n t o) :
    Agrees (fun a s' t' => s' = s ∧ t' = t ∧ o = some a) m n s t := by
  cases o with
  | some a => exact .returns hm hn ⟨rfl, rfl, rfl⟩
  | none =>
      obtain ⟨e, s', hs⟩ := hm
      obtain ⟨e', t', ht⟩ := hn
      exact .raises hs ht

lemma Agrees.mono {R : α → σ → σ → Prop} (h : Agrees Q m n s t)
    (hQ : ∀ a s' t', Q a s' t' → R a s' t') : Agrees R m n s t := by
  cases h with
  | returns hm hn hq => exact .returns hm hn (hQ _ _ _ hq)
  | raises hm hn => exact .raises hm hn

lemma agrees_bind {f g : α → Tx ε σ β} (h : Agrees Q m n s t)
    (hf : ∀ a s' t', Q a s' t' → Agrees Q' (f a) (g a) s' t') :
    Agrees Q' (m >>= f) (n >>= g) s t := by
  cases h with
  | returns hm hn hq =>
      cases hf _ _ _ hq with
      | returns hfm hgn hq' =>
          exact .returns ((exec_bind_ok hm).trans hfm) ((exec_bind_ok hn).trans hgn) hq'
      | raises hfm hgn =>
          exact .raises ((exec_bind_ok hm).trans hfm) ((exec_bind_ok hn).trans hgn)
  | raises hm hn => exact .raises (exec_bind_error hm) (exec_bind_error hn)

lemma agrees_get_bind {f g : σ → Tx ε σ β} (h : Agrees Q' (f s) (g t) s t) :
    Agrees Q' (get >>= f) (get >>= g) s t := by
  cases h with
  | returns hm hn hq => exact .returns ((exec_get_bind f s).trans hm) ((exec_get_bind g t).trans hn) hq
  | raises hm hn => exact .raises ((exec_get_bind f s).trans hm) ((exec_get_bind g t).trans hn)

lemma agrees_modify_bind {f g : σ → σ} {k l : PUnit → Tx ε σ β}
    (h : Agrees Q' (k ⟨⟩) (l ⟨⟩) (f s) (g t)) :
    Agrees Q' ((modify f : Tx ε σ PUnit) >>= k) ((modify g : Tx ε σ PUnit) >>= l) s t := by
  cases h with
  | returns hm hn hq =>
      exact .returns ((exec_modify_bind f k s).trans hm) ((exec_modify_bind g l t).trans hn) hq
  | raises hm hn =>
      exact .raises ((exec_modify_bind f k s).trans hm) ((exec_modify_bind g l t).trans hn)

lemma agrees_modify {f g : σ → σ} {R : PUnit → σ → σ → Prop} (h : R ⟨⟩ (f s) (g t)) :
    Agrees R (modify f : Tx ε σ PUnit) (modify g) s t :=
  .returns rfl rfl h

lemma agrees_ite {c : Prop} [Decidable c] {m' n' : Tx ε σ α} (hpos : c → Agrees Q m n s t)
    (hneg : ¬ c → Agrees Q m' n' s t) :
    Agrees Q (if c then m else m') (if c then n else n') s t := by
  split
  · rename_i h
    exact hpos h
  · rename_i h
    exact hneg h

/-- **Two requests whose bodies agree** give one answer, and their states are related again. -/
lemma Agrees.commit {R : σ → σ → Prop} (h : Agrees (fun _ s' t' => R s' t') m n s t)
    (hst : R s t) : (Tx.commit m s).1.toOption = (Tx.commit n t).1.toOption ∧
      R (Tx.commit m s).2 (Tx.commit n t).2 := by
  cases h with
  | returns hm hn hR =>
      rw [commit_of_ok hm, commit_of_ok hn]
      exact ⟨rfl, hR⟩
  | raises hm hn =>
      rw [commit_of_error hm, commit_of_error hn]
      exact ⟨rfl, hst⟩

end

end EclServer.Library.Tx
