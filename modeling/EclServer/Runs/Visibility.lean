import EclServer.Runs.Model
import EclServer.Tenants.Members

/-!
Who sees a run: `get_run_scope_filter` and `assert_run_visible` of
`app/modules/runs/service.py`.

* `getRunScopeFilter`: the condition of the listings, for administrators and reviewers all runs
  of the tenant.
* `assertRunVisible`: the lookup of one run, for analysts their own only.
* `listed_iff`, `assertRunVisible_eq_ok`: the runs each of them lets a member see.
* `visibility_agrees_iff`: the two agree on a run of somebody else exactly where the role is one
  of the three.
-/

namespace EclServer.Runs

open EclServer.Library EclServer.Auth EclServer.Tenants

/-! ### Roles -/

/-- `UserRole.ANALYST`. -/
def analyst : String := "analyst"

/-- `UserRole.REVIEWER`. -/
def reviewer : String := "reviewer"

/-! ### The two functions -/

def noMembership : ECLException :=
  { code := "NO_MEMBERSHIP", detail := "User has no membership in this tenant."
    statusCode := 403 }

def runNotVisible : ECLException :=
  { code := "RUN_NOT_FOUND", detail := "Run not found.", statusCode := 404 }

/-- `get_run_scope_filter`: the WHERE clause. -/
def getRunScopeFilter (user : User) (tenantId : String) (membership : Option TenantMembership) :
    Except ECLException (Run → Bool) :=
  if user.isPlatformAdmin then .ok fun run => run.tenantId = tenantId
  else
    match membership with
    | none => .error noMembership
    | some m =>
        if m.role = administrator ∨ m.role = reviewer then .ok fun run => run.tenantId = tenantId
        else .ok fun run => run.tenantId = tenantId ∧ run.createdByUserId = user.id

/-- `assert_run_visible`. -/
def assertRunVisible (db : RunDb) (user : User) (tenantId : String)
    (membership : Option TenantMembership) (runId : String) : Except ECLException Run :=
  match db.findRun tenantId runId with
  | none => .error runNotVisible
  | some run =>
      if user.isPlatformAdmin then .ok run
      else
        match membership with
        | none => .error runNotVisible
        | some m =>
            if m.role = analyst ∧ run.createdByUserId ≠ user.id then .error runNotVisible
            else .ok run

/-- The run satisfies the WHERE clause of a member. -/
def Listed (user : User) (tenantId : String) (m : TenantMembership) (run : Run) : Prop :=
  ∃ scope, getRunScopeFilter user tenantId (some m) = .ok scope ∧ scope run = true

/-! ### What each lets a member see -/

section

variable {db : RunDb} {user : User} {tenantId : String} {m : TenantMembership} {run : Run}

/-- The listings show all runs of the tenant to administrators and reviewers, and to anybody
their own. -/
lemma listed_iff (htenant : run.tenantId = tenantId) :
    Listed user tenantId m run ↔ user.isPlatformAdmin = true ∨
      (m.role = administrator ∨ m.role = reviewer) ∨ run.createdByUserId = user.id := by
  rw [Listed, getRunScopeFilter]
  by_cases hplatform : user.isPlatformAdmin = true
  · rw [if_pos hplatform]
    exact iff_of_true ⟨_, rfl, decide_eq_true htenant⟩ (Or.inl hplatform)
  rw [if_neg hplatform]
  by_cases hrole : m.role = administrator ∨ m.role = reviewer
  · simp only [if_pos hrole]
    exact iff_of_true ⟨_, rfl, decide_eq_true htenant⟩ (Or.inr (Or.inl hrole))
  · simp only [hplatform, hrole, Bool.false_eq_true, false_or]
    constructor
    · rintro ⟨scope, hscope, hrun⟩
      obtain rfl := Except.ok.inj hscope
      exact (of_decide_eq_true hrun).2
    · intro hown
      exact ⟨_, rfl, decide_eq_true ⟨htenant, hown⟩⟩

/-- The lookup finds a live run by its id. -/
lemma findRun_eq_some (hids : (db.runs.map (·.id)).Nodup) (hrun : run ∈ db.runs)
    (htenant : run.tenantId = tenantId) (hlive : run.deletedAt = none) :
    db.findRun tenantId run.id = some run := by
  have hsome : (db.findRun tenantId run.id).isSome = true := by
    rw [RunDb.findRun, List.find?_isSome]
    exact ⟨run, hrun, decide_eq_true ⟨rfl, htenant, hlive⟩⟩
  obtain ⟨found, hfound⟩ := Option.isSome_iff_exists.mp hsome
  have hp := List.find?_some (show db.runs.find? _ = some found from hfound)
  simp only [decide_eq_true_eq] at hp
  have hmem : found ∈ db.runs := List.mem_of_find?_eq_some hfound
  rw [hfound, List.inj_on_of_nodup_map hids hmem hrun hp.1]

/-- The lookup returns every run of the tenant but those of others to analysts. -/
lemma assertRunVisible_eq_ok (hfind : db.findRun tenantId run.id = some run) :
    assertRunVisible db user tenantId (some m) run.id = .ok run
      ↔ user.isPlatformAdmin = true ∨ m.role ≠ analyst ∨ run.createdByUserId = user.id := by
  rw [assertRunVisible, hfind]
  by_cases hplatform : user.isPlatformAdmin = true
  · simp [hplatform]
  · by_cases hrole : m.role = analyst
    · by_cases hown : run.createdByUserId = user.id
      · simp [hown]
      · simp [hplatform, hrole, hown]
    · simp [hrole]

/-- **Listing and access agree** on a live run of the tenant exactly for platform
administrators, for members with one of the three roles, and for the run's creator. -/
theorem visibility_agrees_iff (hids : (db.runs.map (·.id)).Nodup) (hrun : run ∈ db.runs)
    (htenant : run.tenantId = tenantId) (hlive : run.deletedAt = none) :
    (Listed user tenantId m run ↔ assertRunVisible db user tenantId (some m) run.id = .ok run)
      ↔ user.isPlatformAdmin = true ∨ m.role ∈ [administrator, reviewer, analyst] ∨
        run.createdByUserId = user.id := by
  rw [listed_iff htenant, assertRunVisible_eq_ok (findRun_eq_some hids hrun htenant hlive)]
  by_cases hplatform : user.isPlatformAdmin = true
  · simp [hplatform]
  by_cases hown : run.createdByUserId = user.id
  · simp [hown]
  simp only [hplatform, hown, Bool.false_eq_true, false_or, or_false, List.mem_cons,
    List.not_mem_nil]
  by_cases hanalyst : m.role = analyst
  · have hother : m.role ≠ administrator ∧ m.role ≠ reviewer := by
      rw [hanalyst]
      decide
    simp [hanalyst, hanalyst ▸ hother.1, hanalyst ▸ hother.2]
  · simp [hanalyst]

end

/-! ### A role of its own -/

/-- A tenant with an administrator and an analyst. -/
def auditorDb : AuthDb where
  memberships :=
    [{ id := "m1", userId := "u1", tenantId := "t1", role := administrator, joinedAt := 0 },
      { id := "m2", userId := "u2", tenantId := "t1", role := analyst, joinedAt := 0 }]

/-- The analyst's row after a PATCH with the role "auditor". -/
def auditorMembership : TenantMembership :=
  { id := "m2", userId := "u2", tenantId := "t1", role := "auditor", joinedAt := 0 }

def auditor : User :=
  { id := "u2", email := "b@x.org", name := "B", hashedPassword := "" }

/-- A run of the administrator. -/
def foreignRun : Run := { id := "r1", tenantId := "t1", createdByUserId := "u1", name := "Q1" }

/-- **A member with another role** is reached by `update_member`; the run is not in the member's
listing, and the lookup returns it. -/
theorem visibility_fails :
    auditorMembership ∈ (Auth.getDb (updateMember "t1" "u2" { role := some "auditor" } "u1")
      auditorDb).2.memberships ∧
    ¬ (Listed auditor "t1" auditorMembership foreignRun ↔
      assertRunVisible { runs := [foreignRun] } auditor "t1" (some auditorMembership)
        foreignRun.id = .ok foreignRun) := by
  refine ⟨by decide, ?_⟩
  intro h
  have hlisted := (@listed_iff auditor "t1" auditorMembership foreignRun rfl).mp (h.mpr rfl)
  exact absurd hlisted (by decide)

/-- The administrator's own run, as the administrator sees it. -/
theorem visibility_agrees_iff_sample :
    (Listed { auditor with id := "u1" } "t1" auditorMembership foreignRun ↔
        assertRunVisible { runs := [foreignRun] } { auditor with id := "u1" } "t1"
          (some auditorMembership) foreignRun.id = .ok foreignRun)
      ↔ ({ auditor with id := "u1" } : User).isPlatformAdmin = true ∨
        auditorMembership.role ∈ [administrator, reviewer, analyst] ∨
        foreignRun.createdByUserId = ({ auditor with id := "u1" } : User).id :=
  visibility_agrees_iff (by decide) (by decide) rfl rfl

end EclServer.Runs
