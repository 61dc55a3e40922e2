import EclServer.Library.Grouping
import EclServer.Library.Run
import EclServer.Runs.StageResults
import EclServer.Runs.Visibility

/-!
The tables the results service reads, and `app/engine/format_utils.py`.

* `Stored`: a row of a result table under the run and the tenant it was written for.
* `ResultsDb`: the run tables, the users, the three result tables and the artefacts.
* `ViewEnv`: what the views take from Python's library and from the database server.
* `pyRound`, `fixed`: `round` of a number and the formats `.2f` and `,.0f`. Numbers are
  exact.
* `ResultsWrite`, `writeStep`: the writes to runs and to result tables. `rowsOwned_run`: after
  any of them the rows of a run carry its tenant.
-/

namespace EclServer.Results

open EclServer.Library EclServer.Auth EclServer.Runs

/-! ### Tables -/

/-- A row of a result table: the columns `run_id` and `tenant_id`, and the others. -/
structure Stored (α : Type) where
  runId : String
  tenantId : String
  row : α
  deriving DecidableEq

structure ResultsDb extends RunDb where
  users : List User := []
  pdResults : List (Stored PdResult) := []
  lgdResults : List (Stored LgdResult) := []
  eadResults : List (Stored EadResult) := []
  outputArtifacts : List (Stored OutputArtifact) := []

/-- The rows of a table with a run and a tenant. -/
def rowsOf {α : Type} (runId tenantId : String) (table : List (Stored α)) : List α :=
  (table.filter fun r => r.runId = runId ∧ r.tenantId = tenantId).map (·.row)

/-- `strftime tz format t` is `t.astimezone(ZoneInfo(tz)).strftime(format)`, `monthYear` is
`strftime("%b %Y")` of a date, and `ilike pattern text` the operator of the server. -/
structure ViewEnv where
  strftime : String → String → Time → String
  monthYear : Timestamp → String
  upper : String → String
  ilike : String → String → Bool

/-! ### Numbers as texts -/

/-- The nearest whole number, of two the even one. -/
def roundHalfEven (q : ℚ) : ℤ :=
  if q - ⌊q⌋ < 1 / 2 then ⌊q⌋
  else if 1 / 2 < q - ⌊q⌋ then ⌊q⌋ + 1
  else if ⌊q⌋ % 2 = 0 then ⌊q⌋ else ⌊q⌋ + 1

/-- `round(q, digits)`. -/
def pyRound (digits : ℕ) (q : ℚ) : ℚ := roundHalfEven (q * 10 ^ digits) / 10 ^ digits

lemma floor_le_roundHalfEven (q : ℚ) : ⌊q⌋ ≤ roundHalfEven q ∧ roundHalfEven q ≤ ⌊q⌋ + 1 := by
  rw [roundHalfEven]
  split_ifs <;> omega

lemma roundHalfEven_mono {p q : ℚ} (h : p ≤ q) : roundHalfEven p ≤ roundHalfEven q := by
  obtain ⟨_, hp⟩ := floor_le_roundHalfEven p
  obtain ⟨hq, _⟩ := floor_le_roundHalfEven q
  rcases (Int.floor_le_floor h).lt_or_eq with hlt | heq
  · omega
  · -- the same whole part: the fractions are in order
    rw [roundHalfEven, roundHalfEven, heq]
    split_ifs <;> first | omega | linarith

lemma roundHalfEven_intCast (n : ℤ) : roundHalfEven n = n := by
  rw [roundHalfEven, Int.floor_intCast, sub_self, if_pos (by norm_num)]

lemma pyRound_mono {digits : ℕ} {p q : ℚ} (h : p ≤ q) : pyRound digits p ≤ pyRound digits q := by
  refine div_le_div_of_nonneg_right ?_ (by positivity)
  exact Int.cast_le.mpr (roundHalfEven_mono (mul_le_mul_of_nonneg_right h (by positivity)))

/-- A whole number stays as it is. -/
lemma pyRound_intCast (digits : ℕ) (n : ℤ) : pyRound digits n = n := by
  have hwhole : (n : ℚ) * 10 ^ digits = ((n * 10 ^ digits : ℤ) : ℚ) := by push_cast; rfl
  rw [pyRound, hwhole, roundHalfEven_intCast]
  push_cast
  exact mul_div_cancel_right₀ _ (by positivity)

/-- A number moves by half a unit at most. -/
lemma abs_roundHalfEven_sub_le (q : ℚ) : |(roundHalfEven q : ℚ) - q| ≤ 1 / 2 := by
  have hlow := Int.floor_le q
  have hhigh := Int.lt_floor_add_one q
  rw [roundHalfEven, abs_le]
  split_ifs <;> push_cast <;> constructor <;> linarith

/-- The digits of a number in threes, with commas. -/
def thousands (digits : List Char) : List Char :=
  (digits.reverse.toChunks 3 |>.intersperse [',']).flatten.reverse

/-- The format `.nf`, or `,.nf` where `group` is true. -/
def fixed (group : Bool) (digits : ℕ) (q : ℚ) : String :=
  let scaled := (roundHalfEven (|q| * 10 ^ digits)).toNat
  let whole := (Nat.repr (scaled / 10 ^ digits)).toList
  let fraction := (Nat.repr (scaled % 10 ^ digits)).toList
  String.ofList ((if q < 0 then ['-'] else []) ++ (if group then thousands whole else whole)
    ++ if digits = 0 then []
      else '.' :: List.replicate (digits - fraction.length) '0' ++ fraction)

/-- `format_coverage`. -/
def formatCoverage (ratio : ℚ) : String := fixed false 2 (ratio * 100) ++ "%"

/-- `format_amount`. -/
def formatAmount (value : ℚ) : String := fixed true 0 value

/-- `int(n)`. -/
def truncate (q : ℚ) : ℤ := if q < 0 then ⌈q⌉ else ⌊q⌋

/-- `format_compact_amount`. -/
def formatCompactAmount (n : ℚ) : String :=
  if 1000000 ≤ |n| then fixed false 1 (n / 1000000) ++ "M"
  else if 1000 ≤ |n| then fixed true 0 n
  else if |n| < 100 then fixed false 2 n
  else fixed true 0 (truncate n)

/-- `short_ulid`. -/
def shortUlid (ulid : String) : String :=
  if ulid.length ≤ 8 then ulid
  else String.ofList (ulid.toList.take 4 ++ '…' :: ulid.toList.drop (ulid.length - 4))

/-- The stored text of a run status. -/
def statusValue : RunStatus → String
  | .draft => "draft"
  | .queued => "queued"
  | .pdRunning => "pd_running"
  | .lgdRunning => "lgd_running"
  | .eadRunning => "ead_running"
  | .complete => "complete"
  | .failed => "failed"
  | .deleted => "deleted"

/-- `map_run_status_to_api`. -/
def mapRunStatusToApi : RunStatus → String
  | .pdRunning | .lgdRunning | .eadRunning => "running"
  | .complete => "success"
  | .draft => "draft"
  | .deleted => "deleted"
  | .failed => "failed"
  | .queued => "queued"

/-- `str.split()`. -/
def splitBlanks (s : String) : List String :=
  ((s.toList.splitOnP pySpace).filter (· ≠ [])).map String.ofList

/-- `user_initials`. -/
def userInitials (env : ViewEnv) (name : String) : String :=
  match splitBlanks name with
  | first :: second :: rest =>
      env.upper (String.ofList (first.toList.take 1
        ++ ((second :: rest).getLastD second).toList.take 1))
  | _ => if name = "" then "??" else env.upper (String.ofList (name.toList.take 2))

/-- The value, or the default where it is missing or zero: `value or default`. -/
def orZero (value : Option ℚ) : ℚ := value.getD 0

/-! ### Writes to the tables -/

/-- The rows of a bulk insert for a run. -/
def storeFor {α : Type} (run : Run) (rows : List α) : List (Stored α) :=
  rows.map fun row => { runId := run.id, tenantId := run.tenantId, row := row }

/-- A write to a run row leaves the columns `id`, `tenant_id` and `created_by_user_id`. -/
def rewrite (f : Run → Run) (run : Run) : Run :=
  { f run with id := run.id, tenantId := run.tenantId, createdByUserId := run.createdByUserId }

/-- A write to the runs or to a result table. The tasks insert for a run row they have
loaded, and no code removes a run row. -/
inductive ResultsWrite where
  | insertRun (run : Run)
  | updateRun (runId : String) (f : Run → Run)
  | replacePdResults (runId : String) (rows : List PdResult)
  | replaceLgdResults (runId : String) (rows : List LgdResult)
  | insertEadResults (runId : String) (rows : List EadResult)
  | addArtifacts (runId : String) (rows : List OutputArtifact)
  | clearRunResults (tenantId runId : String)

def writeStep (db : ResultsDb) : ResultsWrite → ResultsDb
  | .insertRun run =>
      if run.id ∈ db.runs.map (·.id) then db else { db with runs := db.runs ++ [run] }
  | .updateRun runId f =>
      { db with toRunDb := db.toRunDb.updateRun runId (rewrite f) }
  | .replacePdResults runId rows =>
      match db.runs.find? fun r => r.id = runId with
      | none => db
      | some run =>
          { db with
            pdResults := (db.pdResults.filter fun r => r.runId ≠ runId) ++ storeFor run rows }
  | .replaceLgdResults runId rows =>
      match db.runs.find? fun r => r.id = runId with
      | none => db
      | some run =>
          { db with
            lgdResults := (db.lgdResults.filter fun r => r.runId ≠ runId) ++ storeFor run rows }
  | .insertEadResults runId rows =>
      match db.runs.find? fun r => r.id = runId with
      | none => db
      | some run => { db with eadResults := db.eadResults ++ storeFor run rows }
  | .addArtifacts runId rows =>
      match db.runs.find? fun r => r.id = runId with
      | none => db
      | some run => { db with outputArtifacts := db.outputArtifacts ++ storeFor run rows }
  | .clearRunResults tenantId runId =>
      { db with
        pdResults := db.pdResults.filter fun r => ¬ (r.runId = runId ∧ r.tenantId = tenantId)
        lgdResults := db.lgdResults.filter fun r => ¬ (r.runId = runId ∧ r.tenantId = tenantId)
        eadResults := db.eadResults.filter fun r => ¬ (r.runId = runId ∧ r.tenantId = tenantId)
        outputArtifacts :=
          db.outputArtifacts.filter fun r => ¬ (r.runId = runId ∧ r.tenantId = tenantId) }

/-! ### Rows and their runs -/

/-- Each row of a table stands under a run and the tenant of that run. -/
def OwnedBy {α : Type} (runs : List Run) (table : List (Stored α)) : Prop :=
  ∀ r ∈ table, ∃ run ∈ runs, run.id = r.runId ∧ run.tenantId = r.tenantId

structure RowsOwned (db : ResultsDb) : Prop where
  ids : (db.runs.map (·.id)).Nodup
  pd : OwnedBy db.runs db.pdResults
  lgd : OwnedBy db.runs db.lgdResults
  ead : OwnedBy db.runs db.eadResults
  artifacts : OwnedBy db.runs db.outputArtifacts

section

variable {α : Type} {runs : List Run} {table : List (Stored α)}

lemma OwnedBy.mono {runs' : List Run} (h : OwnedBy runs table)
    (hruns : ∀ run ∈ runs, ∃ run' ∈ runs', run'.id = run.id ∧ run'.tenantId = run.tenantId) :
    OwnedBy runs' table := by
  intro r hr
  obtain ⟨run, hrun, hid, htenant⟩ := h r hr
  obtain ⟨run', hrun', hid', htenant'⟩ := hruns run hrun
  exact ⟨run', hrun', hid'.trans hid, htenant'.trans htenant⟩

lemma OwnedBy.filter (h : OwnedBy runs table) (p : Stored α → Bool) :
    OwnedBy runs (table.filter p) :=
  fun r hr => h r (List.mem_of_mem_filter hr)

/-- A bulk insert for a run of the table. -/
lemma OwnedBy.append_storeFor (h : OwnedBy runs table) {run : Run} (hrun : run ∈ runs)
    (rows : List α) : OwnedBy runs (table ++ storeFor run rows) := by
  intro r hr
  rcases List.mem_append.mp hr with hold | hnew
  · exact h r hold
  · obtain ⟨row, _, rfl⟩ := List.mem_map.mp hnew
    exact ⟨run, hrun, rfl, rfl⟩

/-- The rows of a run carry the tenant of the run. -/
lemma OwnedBy.tenantId_eq (h : OwnedBy runs table) (hids : (runs.map (·.id)).Nodup) {run : Run}
    (hrun : run ∈ runs) {r : Stored α} (hr : r ∈ table) (hid : r.runId = run.id) :
    r.tenantId = run.tenantId := by
  obtain ⟨owner, howner, hownerId, htenant⟩ := h r hr
  have hsame : owner = run := List.inj_on_of_nodup_map hids howner hrun (hownerId.trans hid)
  rw [← htenant, hsame]

end

/-- **A write** leaves every row under a run of its tenant. -/
lemma rowsOwned_writeStep (db : ResultsDb) (w : ResultsWrite) (h : RowsOwned db) :
    RowsOwned (writeStep db w) := by
  cases w with
  | insertRun run =>
      rw [writeStep]
      split
      · exact h
      · rename_i hfresh
        have hmore : ∀ r ∈ db.runs, ∃ r' ∈ db.runs ++ [run],
            r'.id = r.id ∧ r'.tenantId = r.tenantId :=
          fun r hr => ⟨r, List.mem_append_left _ hr, rfl, rfl⟩
        refine ⟨?_, h.pd.mono hmore, h.lgd.mono hmore, h.ead.mono hmore, h.artifacts.mono hmore⟩
        rw [List.map_append, List.nodup_append]
        refine ⟨h.ids, by simp, fun a ha b hb hab => ?_⟩
        obtain rfl : b = run.id := by simpa using hb
        exact hfresh (hab ▸ ha)
  | updateRun runId f =>
      -- an update of a run keeps its id and its tenant, and so the runs of the rows
      have hids : (writeStep db (.updateRun runId f)).runs.map (·.id) = db.runs.map (·.id) := by
        rw [writeStep, RunDb.updateRun, List.map_map]
        refine List.map_congr_left fun r _ => ?_
        simp only [Function.comp_apply]
        split <;> rfl
      have hmore : ∀ r ∈ db.runs, ∃ r' ∈ (writeStep db (.updateRun runId f)).runs,
          r'.id = r.id ∧ r'.tenantId = r.tenantId := by
        intro r hr
        refine ⟨_, List.mem_map_of_mem hr, ?_⟩
        split <;> exact ⟨rfl, rfl⟩
      exact ⟨hids ▸ h.ids, h.pd.mono hmore, h.lgd.mono hmore, h.ead.mono hmore,
        h.artifacts.mono hmore⟩
  | replacePdResults runId rows =>
      rw [writeStep]
      split
      · exact h
      · rename_i run hrun
        exact { h with pd := (h.pd.filter _).append_storeFor (List.mem_of_find?_eq_some hrun) rows }
  | replaceLgdResults runId rows =>
      rw [writeStep]
      split
      · exact h
      · rename_i run hrun
        exact { h with
          lgd := (h.lgd.filter _).append_storeFor (List.mem_of_find?_eq_some hrun) rows }
  | insertEadResults runId rows =>
      rw [writeStep]
      split
      · exact h
      · rename_i run hrun
        exact { h with ead := h.ead.append_storeFor (List.mem_of_find?_eq_some hrun) rows }
  | addArtifacts runId rows =>
      rw [writeStep]
      split
      · exact h
      · rename_i run hrun
        exact { h with
          artifacts := h.artifacts.append_storeFor (List.mem_of_find?_eq_some hrun) rows }
  | clearRunResults tenantId runId =>
      exact ⟨h.ids, h.pd.filter _, h.lgd.filter _, h.ead.filter _, h.artifacts.filter _⟩

/-- **After any writes** to empty result tables, the rows of a run carry its tenant. -/
theorem rowsOwned_run {tenants : List Tenant} {users : List User} (writes : List ResultsWrite) :
    RowsOwned (run writeStep { tenants := tenants, users := users } writes) := by
  refine run_invariant rowsOwned_writeStep writes ⟨List.nodup_nil, ?_, ?_, ?_, ?_⟩ <;>
    exact fun r hr => absurd hr List.not_mem_nil

end EclServer.Results
