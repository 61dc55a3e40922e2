import EclServer.Library.Run

/-!
Writers of the cells of one record, each with a program of its own.

* `writeAll`: keyed writes one after the other; `writeAll_apply`: each cell holds the value of
  the last write to it, or what it held before.
* `writeAll_comm`: writes to different cells commute.
* `Writers`, `issueStep`: any interleaving of the programs, with what was issued so far.
* `issued_of_writer`: what a writer has issued is the front of its program.
* `filter_issued_of_sole`: a cell with one writer has seen the front of that writer's program,
  whatever the others did.
-/

namespace EclServer.Library

variable {κ ω β : Type*} [DecidableEq κ]

/-! ### Keyed writes -/

/-- The cells after some writes. -/
def writeAll (key : ω → κ) (value : ω → β) (cells : κ → Option β) (ws : List ω) : κ → Option β :=
  ws.foldl (fun cells w => Function.update cells (key w) (some (value w))) cells

/-- The last write to a cell. -/
def lastWrite (key : ω → κ) (k : κ) (ws : List ω) : Option ω :=
  (ws.filter fun w => key w = k).getLast?

variable {key : ω → κ} {value : ω → β} {cells : κ → Option β}

@[simp] lemma writeAll_nil : writeAll key value cells [] = cells := rfl

lemma writeAll_concat (ws : List ω) (w : ω) :
    writeAll key value cells (ws ++ [w])
      = Function.update (writeAll key value cells ws) (key w) (some (value w)) := by
  rw [writeAll, List.foldl_append]
  rfl

lemma lastWrite_concat (k : κ) (ws : List ω) (w : ω) :
    lastWrite key k (ws ++ [w]) = if key w = k then some w else lastWrite key k ws := by
  rw [lastWrite, List.filter_append, List.filter_singleton]
  by_cases hk : key w = k
  · simp [hk]
  · simp [hk, lastWrite]

/-- **The last write counts**, and a cell without one is as before. -/
theorem writeAll_apply (ws : List ω) (k : κ) :
    writeAll key value cells ws k = ((lastWrite key k ws).map value).or (cells k) := by
  induction ws using List.reverseRecOn with
  | nil => rfl
  | append_singleton ws w ih =>
      rw [writeAll_concat, lastWrite_concat]
      by_cases hk : key w = k
      · rw [if_pos hk, ← hk, Function.update_self]
        rfl
      · rw [if_neg hk, Function.update_of_ne (Ne.symm hk), ih]

/-- Writes to different cells commute. -/
lemma writeAll_comm {v w : ω} (h : key v ≠ key w) :
    writeAll key value cells [v, w] = writeAll key value cells [w, v] :=
  Function.update_comm h _ _ _

/-! ### Interleavings -/

/-- Writers with what is left of their programs, and the writes issued, each with its writer. -/
structure Writers (ω : Type*) where
  pending : List (List ω)
  issued : List (ℕ × ω) := []

/-- Writer `i` issues its next write. -/
def issueStep (s : Writers ω) (i : ℕ) : Writers ω :=
  match s.pending[i]? with
  | some (w :: ws) => { pending := s.pending.set i ws, issued := s.issued ++ [(i, w)] }
  | _ => s

/-- What writer `i` has issued, in order. -/
def issuedBy (i : ℕ) (issued : List (ℕ × ω)) : List ω :=
  (issued.filter fun p => p.1 = i).map (·.2)

/-- Each writer has issued the front of its program. -/
def InOrder (programs : List (List ω)) (s : Writers ω) : Prop :=
  s.pending.length = programs.length ∧
    (∀ p ∈ s.issued, p.1 < programs.length) ∧
    ∀ i, issuedBy i s.issued ++ (s.pending[i]?).getD [] = (programs[i]?).getD []

omit [DecidableEq κ] in
lemma inOrder_step {programs : List (List ω)} {s : Writers ω} (i : ℕ) (h : InOrder programs s) :
    InOrder programs (issueStep s i) := by
  obtain ⟨hlength, hbound, horder⟩ := h
  rw [issueStep]
  split
  · rename_i w ws hpending
    obtain ⟨hi, hhead⟩ := List.getElem?_eq_some_iff.mp hpending
    refine ⟨by rw [List.length_set, hlength], fun p hp => ?_, fun j => ?_⟩
    · rcases List.mem_append.mp hp with hold | hnew
      · exact hbound p hold
      · rw [List.mem_singleton.mp hnew, ← hlength]
        exact hi
    · rw [← horder j]
      by_cases hij : i = j
      · subst hij
        simp [issuedBy, List.filter_append, hi, hhead]
      · simp [issuedBy, List.filter_append, hij]
  · exact ⟨hlength, hbound, horder⟩

/-- **Every interleaving** keeps each writer's order. -/
theorem issued_of_writer (programs : List (List ω)) (schedule : List ℕ) :
    InOrder programs (run issueStep ⟨programs, []⟩ schedule) := by
  refine run_invariant (fun s i hs => inOrder_step i hs) schedule ⟨rfl, by simp, fun i => ?_⟩
  simp [issuedBy]

/-- A cell that one writer writes has seen the front of that writer's program. -/
lemma filter_issued_of_sole {programs : List (List ω)} {s : Writers ω} {i : ℕ} {k : κ}
    (h : InOrder programs s) (hdone : (s.pending[i]?).getD [] = [])
    (hsole : ∀ p ∈ s.issued, key p.2 = k → p.1 = i) :
    (s.issued.map (·.2)).filter (fun w => key w = k)
      = ((programs[i]?).getD []).filter fun w => key w = k := by
  have hown := h.2.2 i
  rw [hdone, List.append_nil] at hown
  rw [← hown, issuedBy, List.filter_map, List.filter_map, List.filter_filter]
  refine congrArg (List.map _) (List.filter_congr fun p hp => ?_)
  by_cases hk : key p.2 = k
  · simp [hk, hsole p hp hk]
  · simp [hk]

end EclServer.Library
