import EclServer.Engine.LoanCoverage

/-!
The snapshot schedule of a loan.

* `isGreatest_lastOffset`: the last month at which a loan has not matured, at most the twelfth one
  for Stage 1.
* `offsets_eq_range`: a Stage 1 or Stage 2 loan has a snapshot at every month up to that one.
* `zipIdx_walkRows`: the walk counts the rows, and so the months.
* `snapshot_schedule`: the dates and the periods of a loan in the output of `compute_ead`.
-/

namespace EclServer.Engine

open EclServer.Library

/-! ### The last offset -/

/-- A loan of the stage has a snapshot `k` months after its reporting date. -/
def OpenAt (stage : LoanStage) (rep mat : Timestamp) (k : ℕ) : Prop :=
  rep.addMonths k ≤ mat ∧ (stage = .stage1 → k ≤ 12)

instance (stage : LoanStage) (rep mat : Timestamp) : DecidablePred (OpenAt stage rep mat) :=
  fun _ => inferInstanceAs (Decidable (_ ∧ _))

/-- The last of these months. -/
def lastOffset (stage : LoanStage) (rep mat : Timestamp) : ℕ :=
  Nat.findGreatest (OpenAt stage rep mat) (Timestamp.monthsBetween rep mat).toNat

section

variable {stage : LoanStage} {rep mat : Timestamp}

/-- A month that has not matured is among those between the two dates. -/
lemma le_monthsBetween_of_addMonths_le {k : ℕ} (h : rep.addMonths k ≤ mat) :
    (k : ℤ) ≤ Timestamp.monthsBetween rep mat := by
  have hmonth := Timestamp.monthIndex_le_of_le h
  rw [Timestamp.monthIndex_addMonths] at hmonth
  rw [Timestamp.monthsBetween_eq]
  omega

lemma isGreatest_lastOffset (hle : rep ≤ mat) :
    IsGreatest {k | OpenAt stage rep mat k} (lastOffset stage rep mat) := by
  have hzero : OpenAt stage rep mat 0 := by
    refine ⟨?_, fun _ => Nat.zero_le _⟩
    rw [Nat.cast_zero, Timestamp.addMonths_zero]
    exact hle
  refine ⟨Nat.findGreatest_spec (Nat.zero_le _) hzero, fun k hk => ?_⟩
  have hmonths := le_monthsBetween_of_addMonths_le hk.1
  exact Nat.le_findGreatest (by omega) hk

/-- The months up to the last one are those that have not matured: later months end later. -/
lemma openAt_iff (hle : rep ≤ mat) {k : ℕ} :
    OpenAt stage rep mat k ↔ k ≤ lastOffset stage rep mat := by
  have hlast : IsGreatest {k | OpenAt stage rep mat k} (lastOffset stage rep mat) :=
    isGreatest_lastOffset hle
  refine ⟨fun hk => hlast.2 hk, fun hk => ⟨?_, fun hstage => hk.trans (hlast.1.2 hstage)⟩⟩
  have hmono := rep.addMonths_strictMono.monotone (Int.ofNat_le.mpr hk)
  exact hmono.trans hlast.1.1

end

/-! ### The offsets of a row -/

/-- A selection of the first numbers that keeps those up to `k`. -/
lemma filter_range_eq {p : ℕ → Bool} {n k : ℕ} (hk : k < n) (h : ∀ i < n, p i = true ↔ i ≤ k) :
    (List.range n).filter p = List.range (k + 1) := by
  have hsplit : n = k + 1 + (n - (k + 1)) := by omega
  have hle : ∀ i ∈ List.range (k + 1), p i = true := by
    intro i hi
    have hik := List.mem_range.mp hi
    exact (h i (by omega)).mpr (by omega)
  have hgt : ∀ i ∈ (List.range (n - (k + 1))).map (k + 1 + ·), ¬ p i = true := by
    intro i hi hp
    obtain ⟨j, hj, rfl⟩ := List.mem_map.mp hi
    have hjn := List.mem_range.mp hj
    have := (h (k + 1 + j) (by omega)).mp hp
    omega
  rw [hsplit, List.range_add, List.filter_append, List.filter_eq_self.mpr hle,
    List.filter_eq_nil_iff.mpr hgt, List.append_nil]

/-- **The offsets of a Stage 1 or Stage 2 row** are all months up to its last one. -/
lemma DatedRow.offsets_eq_range {d : DatedRow} {stage : LoanStage} {rep mat : Timestamp}
    (hstaging : d.staging = .str stage.text) (hstage : stage ≠ .stage3)
    (hrep : d.repDate = some rep) (hmat : d.matDate = some mat) (hle : rep ≤ mat) :
    d.offsets = List.range (lastOffset stage rep mat + 1) := by
  have hmatures : ∀ k : ℕ, d.matures k = true ↔ rep.addMonths k ≤ mat := by
    intro k
    rw [matures, hrep, hmat]
    exact decide_eq_true_iff
  have hlast : OpenAt stage rep mat (lastOffset stage rep mat) := (isGreatest_lastOffset hle).1
  cases stage with
  | stage1 =>
      have hcap := hlast.2 rfl
      rw [offsets, if_pos hstaging]
      refine filter_range_eq (by omega) fun i hi => ?_
      rw [hmatures, ← openAt_iff hle]
      exact ⟨fun h => ⟨h, fun _ => by omega⟩, fun h => h.1⟩
  | stage2 =>
      have htext : ¬ d.staging = .str LoanStage.stage1.text := by
        rw [hstaging]
        decide
      have hhorizon : d.horizon = (Timestamp.monthsBetween rep mat).toNat := by
        rw [horizon, hrep, hmat]
        rfl
      have hmonths := le_monthsBetween_of_addMonths_le hlast.1
      rw [offsets, if_neg htext, if_pos hstaging, hhorizon]
      refine filter_range_eq (by omega) fun i _ => ?_
      rw [hmatures, ← openAt_iff hle]
      exact ⟨fun h => ⟨h, fun hone => by cases hone⟩, fun h => h.1⟩
  | stage3 => exact absurd rfl hstage

/-! ### The rows of a walk -/

/-- **The walk counts its rows.** -/
lemma zipIdx_walkRows (monthlyRate instalment : Option ℚ) (freq : Frequency)
    (prior : List (Option ℚ)) (opening : Option ℚ) (rs : List TermRow) :
    (walkRows monthlyRate instalment freq prior opening rs).map
        (fun w => (w.toTermRow, w.periodToBeDiscounted)) = rs.zipIdx prior.length := by
  induction rs generalizing prior opening with
  | nil => rfl
  | cons r rs ih =>
      have hlength : (prior ++ [opening]).length = prior.length + 1 := by simp
      rw [walkRows, List.map_cons, ih, hlength, List.zipIdx_cons]

lemma zipIdx_map_range {α : Type} (f : ℕ → α) (n : ℕ) :
    ((List.range n).map f).zipIdx = (List.range n).map fun i => (f i, i) := by
  refine List.ext_getElem (by simp) fun i h₁ h₂ => ?_
  simp

section

variable {env : PyEnv} {read : Cell → Option Timestamp} {eadDf lgdDf : Frame}

/-- The dates and periods of a reference with consecutive months. -/
lemma map_schedule_loanReference {pdTable : List PdTableRow} {d : DatedRow} {rep first : Timestamp}
    {n : ℕ} (hrep : d.repDate = some rep) (hfirst : read d.firstPaymentDate = some first)
    (hoffsets : d.offsets = List.range n) :
    (loanReference env read pdTable d).map
        (fun o => (o.snapshotDate, o.periodToBeDiscounted, o.periodSinceOrigination))
      = (List.range n).map fun i : ℕ => (some (rep.addMonths i), i,
        some (Timestamp.monthsBetween first rep + i)) := by
  have hwalk := zipIdx_walkRows ((floatOf env d.eir).map (· / 12)) (loanInstalment env read d)
    d.freq [] (floatOf env d.outstandingAmount) (loanTermRows read d)
  have hterms : (loanTermRows read d).zipIdx
      = (List.range n).map fun i => (termOf read (d.snapshot i), i) := by
    rw [loanTermRows, hoffsets, zipIdx_map_range]
  have hfields : (loanReference env read pdTable d).map
        (fun o => (o.snapshotDate, o.periodToBeDiscounted, o.periodSinceOrigination))
      = ((loanWalk env read d).map fun w => (w.toTermRow, w.periodToBeDiscounted)).map
        fun p => (p.1.snapshotDate, p.2, p.1.periodSinceOrigination) := by
    rw [loanReference, List.map_map, List.map_map]
    rfl
  rw [hfields, loanWalk, hwalk, List.length_nil, hterms, List.map_map]
  refine List.map_congr_left fun i _ => ?_
  have hdate : (termOf read (d.snapshot i)).snapshotDate = some (rep.addMonths i) := by
    show d.repDate.map (·.addMonths i) = _
    rw [hrep]
    rfl
  have hperiod : (termOf read (d.snapshot i)).periodSinceOrigination
      = some (Timestamp.monthsBetween first rep + i) := by
    show monthsBetween? (read d.firstPaymentDate) (termOf read (d.snapshot i)).snapshotDate = _
    rw [hdate, hfirst, ← Timestamp.monthsBetween_addMonths]
    rfl
  rw [Function.comp_apply, hdate, hperiod]

/-- **The snapshot schedule**: a Stage 1 or Stage 2 loan has one row for each month from its
reporting date up to the last month that has not matured, in this order; the row of the `i`-th
month is discounted by `i` periods, and its period since origination is that of the reporting date
and `i`. -/
theorem snapshot_schedule {pdTable : List PdTableRow} {out : List EclRow} {warnings : List String}
    (hread : ReadsDates env eadDf read)
    (hids : (eadDf.rows.map fun r => (r.cell "Loan ID").pyStr env).Nodup)
    (hpd : (pdTable.map fun t => (t.segment, t.month, t.transition)).Nodup)
    (h : computeEad env eadDf pdTable lgdDf = .ok (out, warnings)) {r : Record}
    (hr : r ∈ eadDf.rows) {stage : LoanStage} (hstage : stage ≠ .stage3)
    (hstaging : r.cell (resolveColumn eadDf stagingAliases "Staging") = .str stage.text)
    {rep mat first : Timestamp} (hrep : read (r.cell "Reporting Date") = some rep)
    (hmat : read (r.cell "Maturity Date") = some mat)
    (hfirst : read (r.cell "First Payment Date") = some first) (hle : rep ≤ mat) :
    ∃ k, IsGreatest {i : ℕ | rep.addMonths i ≤ mat ∧ (stage = .stage1 → i ≤ 12)} k ∧
      (loanRows out (r.cell "Loan ID")).map
          (fun o => (o.snapshotDate, o.periodToBeDiscounted, o.periodSinceOrigination))
        = (List.range (k + 1)).map fun i : ℕ => (some (rep.addMonths i), i,
          some (Timestamp.monthsBetween first rep + i)) := by
  refine ⟨lastOffset stage rep mat, isGreatest_lastOffset hle, ?_⟩
  rw [loanRows_eq_reference hread hids hpd h hr]
  exact map_schedule_loanReference hrep hfirst
    (DatedRow.offsets_eq_range hstaging hstage hrep hmat hle)

end

/-- The Stage 2 loan of the sample runs for one month. -/
theorem snapshot_schedule_sample :
    ∃ k, IsGreatest {i : ℕ | (firstOf 24289).addMonths i ≤ firstOf 24290 ∧
        (LoanStage.stage2 = .stage1 → i ≤ 12)} k ∧
      (loanRows [sampleEcl 0 9, sampleEcl 1 8] (.str "L")).map
          (fun o => (o.snapshotDate, o.periodToBeDiscounted, o.periodSinceOrigination))
        = (List.range (k + 1)).map fun i : ℕ => (some ((firstOf 24289).addMonths i), i,
          some (Timestamp.monthsBetween (firstOf 24288) (firstOf 24289) + i)) :=
  snapshot_schedule (readsDates_plainEnv sampleEadFrame) (by decide) nodup_pdKeys computeEad_sample
    (r := ⟨0, sampleEadCell⟩) (List.mem_singleton_self _) (by decide) rfl rfl rfl rfl (by decide)

end EclServer.Engine
