import EclServer.Auth.Refresh
import EclServer.Library.Run

/-!
Families of refresh tokens over many requests.

* `familyStep`: one login, refresh or logout, each in its own transaction. `StaysDead`: the
  law that a family reported as reused is not refreshed again.
* `familiesDead_step`, `reuse_kills_family`: the law holds of the runs in which a reuse is
  only ever reported of a family that is revoked already. The revocation that the report
  itself writes is rolled back with it.
* `rotationStep`: one read or commit of any of the refreshes in flight. `Linear`: no family
  has two live tokens, and no token two successors.
* `rotationOk_step`, `linear_step_iff`, `rotation_linear_iff`: rotation stays linear exactly
  in the runs in which every commit finds its token unspent.
-/

namespace EclServer.Auth

open EclServer.Library

/-! ### Reported families -/

/-- A request with the time it runs at and what it draws. -/
inductive TokenAction where
  | login (now : Time) (draws : Draws) (request : LoginRequest)
  | refresh (now : Time) (draws : Draws) (rawRefresh : String)
  | logout (payload : Option Payload) (rawRefresh : Option String)

/-- The database, and the families reported as reused so far. -/
structure FamilyState where
  db : AuthDb
  reported : List String := []

section

variable (settings : Settings) (crypto : Crypto)

/-- The answer is `TOKEN_REUSE`. -/
def answersReuse (r : Except ECLException AuthResponse) : Bool :=
  match r with
  | .error e => e.code = "TOKEN_REUSE"
  | .ok _ => false

/-- The revoked token that a request presents. -/
def presentsRevoked (db : AuthDb) (rawRefresh : String) : Option RefreshToken :=
  (db.tokenByHash (crypto.hashToken rawRefresh)).filter (·.isRevoked)

/-- One request in its transaction. -/
def familyStep (st : FamilyState) : TokenAction → FamilyState
  | .login now draws request =>
      { st with db := (getDb (loginUser settings crypto now draws request) st.db).2 }
  | .refresh now draws rawRefresh =>
      let r := getDb (refreshTokens settings crypto now draws rawRefresh) st.db
      { db := r.2
        reported := st.reported ++
          if answersReuse r.1 then
            (presentsRevoked crypto st.db rawRefresh).toList.map (·.tokenFamilyId)
          else [] }
  | .logout payload rawRefresh =>
      { st with db := (getDb (logoutUser crypto payload rawRefresh) st.db).2 }

/-- **The reuse law**: a token of a reported family is not accepted. -/
def StaysDead (st : FamilyState) : TokenAction → Prop
  | .refresh now draws rawRefresh =>
      ∀ rt, st.db.tokenByHash (crypto.hashToken rawRefresh) = some rt →
        rt.tokenFamilyId ∈ st.reported →
        ∀ resp, (getDb (refreshTokens settings crypto now draws rawRefresh) st.db).1 ≠ .ok resp
  | _ => True

/-- A login draws a family id that no token has. -/
def FreshFamily (st : FamilyState) : TokenAction → Prop
  | .login _ draws _ => ∀ t ∈ st.db.refreshTokens, t.tokenFamilyId ≠ draws.familyId
  | _ => True

/-- All tokens of a family are revoked. -/
def FamilyRevoked (db : AuthDb) (familyId : String) : Prop :=
  ∀ t ∈ db.refreshTokens, t.tokenFamilyId = familyId → t.isRevoked = true

/-- A revoked token is presented only when its whole family is revoked. -/
def ReuseFindsRevoked (st : FamilyState) : TokenAction → Prop
  | .refresh _ _ rawRefresh =>
      ∀ rt ∈ presentsRevoked crypto st.db rawRefresh, FamilyRevoked st.db rt.tokenFamilyId
  | _ => True

end

/-- Every reported family has tokens, and all of them are revoked. -/
def FamiliesDead (st : FamilyState) : Prop :=
  ∀ f ∈ st.reported, (∃ t ∈ st.db.refreshTokens, t.tokenFamilyId = f) ∧ FamilyRevoked st.db f

section

variable {settings : Settings} {crypto : Crypto} {st : FamilyState}

/-- A family that is revoked stays so when one of the tokens is written back revoked. -/
lemma FamilyRevoked.updateByKey {db db' : AuthDb} {f id : String} {g : RefreshToken → RefreshToken}
    (htokens : db'.refreshTokens = updateByKey RefreshToken.id id g db.refreshTokens)
    (hg : ∀ t, (g t).tokenFamilyId = t.tokenFamilyId ∧ (g t).isRevoked = true)
    (h : FamilyRevoked db f) : FamilyRevoked db' f := by
  intro t ht hfamily
  rw [htokens, mem_updateByKey] at ht
  obtain ⟨u, hu, rfl⟩ := ht
  by_cases hid : u.id = id
  · rw [if_pos hid]
    exact (hg u).2
  · rw [if_neg hid] at hfamily ⊢
    exact h u hu hfamily

/-- The tokens of a family keep their family when one of them is written back. -/
lemma exists_family_updateByKey {db db' : AuthDb} {f id : String} {g : RefreshToken → RefreshToken}
    (htokens : db'.refreshTokens = updateByKey RefreshToken.id id g db.refreshTokens)
    (hg : ∀ t, (g t).tokenFamilyId = t.tokenFamilyId ∧ (g t).isRevoked = true)
    (h : ∃ t ∈ db.refreshTokens, t.tokenFamilyId = f) :
    ∃ t ∈ db'.refreshTokens, t.tokenFamilyId = f := by
  obtain ⟨u, hu, rfl⟩ := h
  refine ⟨_, htokens ▸ (mem_updateByKey _).mpr ⟨u, hu, rfl⟩, ?_⟩
  split
  · exact (hg u).1
  · rfl

/-- A family stays revoked when a token of another family is added. -/
lemma FamilyRevoked.append {db db' : AuthDb} {f : String} {t : RefreshToken}
    (htokens : db'.refreshTokens = db.refreshTokens ++ [t]) (hne : t.tokenFamilyId ≠ f)
    (h : FamilyRevoked db f) : FamilyRevoked db' f := by
  intro u hu hfamily
  rw [htokens, List.mem_append, List.mem_singleton] at hu
  rcases hu with hu | rfl
  · exact h u hu hfamily
  · exact absurd hfamily hne

/-- The families of a database with the same tokens, or more, are still there. -/
lemma exists_family_append {db db' : AuthDb} {f : String} {ts : List RefreshToken}
    (htokens : db'.refreshTokens = db.refreshTokens ++ ts)
    (h : ∃ t ∈ db.refreshTokens, t.tokenFamilyId = f) :
    ∃ t ∈ db'.refreshTokens, t.tokenFamilyId = f := by
  obtain ⟨t, ht, hfamily⟩ := h
  exact ⟨t, htokens ▸ List.mem_append_left ts ht, hfamily⟩

/-- A login adds at most one token: the first of the family it draws. -/
lemma refreshTokens_login (now : Time) (draws : Draws) (request : LoginRequest) (db : AuthDb) :
    ∃ ts, (getDb (loginUser settings crypto now draws request) db).2.refreshTokens
        = db.refreshTokens ++ ts ∧
      ∀ t ∈ ts, ∃ user, t = newRefreshToken settings crypto now draws user request.remember := by
  rw [getDb]
  rcases Tx.commit_snd (loginUser settings crypto now draws request) db with hs | ⟨_, hok⟩
  · exact ⟨[], by rw [hs, List.append_nil], by simp⟩
  · obtain ⟨user, _, _, _, _, _, _, ⟨_, ht, _⟩ | ⟨_, _, _, hr, ht, _⟩⟩ := exec_loginUser_ok hok
    · refine ⟨[], ?_, by simp⟩
      rw [ht, List.append_nil]
      rfl
    · refine ⟨[newRefreshToken settings crypto now draws user request.remember], ?_, ?_⟩
      · rw [ht, AuthDb.refreshTokens_logEvent, (exec_createSessionTokens hr).1]
        rfl
      · intro t ht'
        exact ⟨user, List.mem_singleton.mp ht'⟩

/-- **One request** keeps the reported families dead. -/
lemma familiesDead_step (a : TokenAction) (hdead : FamiliesDead st) (hfresh : FreshFamily st a)
    (hreuse : ReuseFindsRevoked crypto st a) : FamiliesDead (familyStep settings crypto st a) := by
  cases a with
  | login now draws request =>
      intro f hf
      obtain ⟨hsome, hrevoked⟩ := hdead f hf
      obtain ⟨ts, htokens, hts⟩ := refreshTokens_login now draws request st.db
      refine ⟨exists_family_append htokens hsome, ?_⟩
      intro t ht hfamily
      simp only [familyStep, htokens, List.mem_append] at ht
      rcases ht with hold | hnew
      · exact hrevoked t hold hfamily
      · -- the family is fresh, but the reported family has a token
        obtain ⟨u, hu, hsame⟩ := hsome
        obtain ⟨user, rfl⟩ := hts t hnew
        exact absurd (hsame.trans hfamily.symm) (hfresh u hu)
  | refresh now draws rawRefresh =>
      intro f hf
      simp only [familyStep] at hf ⊢
      rcases Tx.commit_snd (refreshTokens settings crypto now draws rawRefresh) st.db with
        hs | ⟨resp, hok⟩
      · rw [getDb] at hf ⊢
        rw [hs]
        rcases List.mem_append.mp hf with hold | hnew
        · exact hdead f hold
        · split at hnew
          · obtain ⟨rt, hrt, rfl⟩ := List.mem_map.mp hnew
            have hpresents := Option.mem_toList.mp hrt
            have hfound : st.db.tokenByHash (crypto.hashToken rawRefresh) = some rt :=
              (Option.filter_eq_some_iff.mp hpresents).1
            exact ⟨⟨rt, AuthDb.mem_of_tokenByHash hfound, rfl⟩, hreuse rt hpresents⟩
          · simp at hnew
      · have hcommit := Tx.commit_of_ok hok
        rw [getDb, hcommit] at hf ⊢
        simp only [answersReuse, Bool.false_eq_true, if_false, List.append_nil] at hf
        obtain ⟨hsome, hrevoked⟩ := hdead f hf
        obtain ⟨rt, sess, hfound, hlive, hrotate⟩ := exec_refreshTokens_ok hok
        have hmem := AuthDb.mem_of_tokenByHash hfound
        -- the rotated token was live, so its family is not a reported one
        have hother : rt.tokenFamilyId ≠ f := by
          intro hsame
          rw [hrevoked rt hmem hsame] at hlive
          exact absurd hlive (by decide)
        rw [hrotate, rotate]
        have hspent : (spendToken now rt st.db).refreshTokens = updateByKey RefreshToken.id rt.id
            (fun t => { t with isRevoked := true, lastUsedAt := some now }) st.db.refreshTokens :=
          rfl
        have hadded : (moveSession now draws sess (addSuccessor settings crypto now draws rt
            (spendToken now rt st.db))).refreshTokens
            = (spendToken now rt st.db).refreshTokens
              ++ [rotatedToken settings crypto now draws rt] := by
          rw [refreshTokens_moveSession]
          rfl
        constructor
        · exact exists_family_append hadded
            (exists_family_updateByKey hspent (fun _ => ⟨rfl, rfl⟩) hsome)
        · exact (hrevoked.updateByKey hspent fun _ => ⟨rfl, rfl⟩).append hadded hother
  | logout payload rawRefresh =>
      intro f hf
      obtain ⟨hsome, hrevoked⟩ := hdead f hf
      simp only [familyStep]
      rw [getDb]
      rcases Tx.commit_snd (logoutUser crypto payload rawRefresh) st.db with hs | ⟨_, hok⟩
      · rw [hs]
        exact ⟨hsome, hrevoked⟩
      · rcases exec_logoutUser_ok hok with hsame | ⟨rt, _, hended⟩
        · rw [FamilyRevoked, hsame]
          exact ⟨hsome, hrevoked⟩
        · exact ⟨exists_family_updateByKey hended (fun _ => ⟨rfl, rfl⟩) hsome,
            hrevoked.updateByKey hended fun _ => ⟨rfl, rfl⟩⟩

/-- A dead family is not refreshed. -/
lemma staysDead_of_familiesDead (hdead : FamiliesDead st) (a : TokenAction) :
    StaysDead settings crypto st a := by
  cases a with
  | login now draws request => trivial
  | logout payload rawRefresh => trivial
  | refresh now draws rawRefresh =>
      intro rt hrt hreported resp hok
      have hrevoked := (hdead _ hreported).2 rt (AuthDb.mem_of_tokenByHash hrt) rfl
      rw [getDb_refreshTokens_reuse hrt hrevoked] at hok
      exact absurd hok (by simp)

/-- **Reuse kills the family** in every run whose requests report a reuse only of families that are
revoked already. The revocation that a reuse asks for is rolled back with the request that reports
it. -/
theorem reuse_kills_family {db : AuthDb} {actions : List TokenAction}
    (hfresh : EachStep (familyStep settings crypto) FreshFamily { db := db } actions)
    (h : EachStep (familyStep settings crypto) (ReuseFindsRevoked crypto) { db := db } actions) :
    EachStep (familyStep settings crypto) (StaysDead settings crypto) { db := db } actions := by
  have hinit : FamiliesDead { db := db } := by
    intro f hf
    simp at hf
  exact eachStep_of_invariant (I := FamiliesDead)
    (fun _ a hdead hstep => familiesDead_step a hdead hstep.1 hstep.2)
    (fun _ a hdead _ => staysDead_of_familiesDead hdead a) hinit (hfresh.and h)

end

/-! ### A stolen token -/

def firstToken : RefreshToken :=
  { id := "r1", userId := "u1", tokenFamilyId := "f1", tokenHash := "sha256:raw1"
    expiresAt := days 7 }

def firstSession : Session :=
  { id := "s1", userId := "u1", refreshTokenId := "r1", lastActiveAt := 0 }

/-- An account signed in once. -/
def signedInDb : AuthDb :=
  { users := [{ id := "u1", email := "ann@bank.test", name := "Ann"
                hashedPassword := "argon2:old pass 1" }]
    tenants := [{ id := "t1", name := "Bank" }]
    memberships :=
      [{ id := "m1", userId := "u1", tenantId := "t1", role := "administrator", joinedAt := 0 }]
    refreshTokens := [firstToken]
    sessions := [firstSession] }

/-- The draws of the `n`-th rotation. -/
def rotationDraws (n : String) : Draws := ⟨"", "r" ++ n, "raw" ++ n, "", "j" ++ n, "", ""⟩

def signingSettings : Settings := { jwtPrivateKey := "key" }

/-- After a logout its token is presented twice. -/
theorem reuse_kills_family_sample :
    EachStep (familyStep signingSettings plainCrypto) (StaysDead signingSettings plainCrypto)
      { db := signedInDb } [.logout none (some "raw1"), .refresh 0 (rotationDraws "2") "raw1",
        .refresh 0 (rotationDraws "3") "raw1"] := by
  refine reuse_kills_family ⟨trivial, trivial, trivial, trivial⟩ ⟨trivial, ?_, ?_, trivial⟩
  · have hall : ∀ t ∈ (familyStep signingSettings plainCrypto { db := signedInDb }
        (.logout none (some "raw1"))).db.refreshTokens, t.isRevoked = true := by
      decide
    exact fun _ _ t ht _ => hall t ht
  · have hall : ∀ t ∈ (run (familyStep signingSettings plainCrypto) { db := signedInDb }
        [.logout none (some "raw1"), .refresh 0 (rotationDraws "2") "raw1"]).db.refreshTokens,
        t.isRevoked = true := by
      decide
    exact fun _ _ t ht _ => hall t ht

/-- The account is a member of its workspace. -/
lemma getMembership_signedIn {db : AuthDb} (htenants : db.tenants = signedInDb.tenants)
    (hmemberships : db.memberships = signedInDb.memberships) :
    ∃ row, db.getMembership "u1" none = some row := by
  simp only [AuthDb.getMembership, htenants, hmemberships]
  refine ⟨({ id := "m1", userId := "u1", tenantId := "t1", role := "administrator"
             joinedAt := 0 }, { id := "t1", name := "Bank" }), ?_⟩
  have hrows : (signedInDb.memberships ×ˢ signedInDb.tenants).filter
      (AuthDb.membershipMatches "u1" none)
      = [({ id := "m1", userId := "u1", tenantId := "t1", role := "administrator"
            joinedAt := 0 }, { id := "t1", name := "Bank" })] := by
    decide
  rw [hrows, List.mergeSort_singleton]
  rfl

/-- It still is while its tokens rotate. -/
lemma exec_loadMember_signedIn {db : AuthDb} {rt : RefreshToken}
    (husers : db.users = signedInDb.users) (htenants : db.tenants = signedInDb.tenants)
    (hmemberships : db.memberships = signedInDb.memberships) (hrt : rt.userId = "u1") :
    ∃ found, (Tx.exec (loadMember rt) db).1 = .ok found := by
  have hmember := getMembership_signedIn htenants hmemberships
  obtain ⟨⟨membership, tenant⟩, hrow⟩ := hmember
  have huser : db.users.find? (fun u => u.id = rt.userId)
      = some { id := "u1", email := "ann@bank.test", name := "Ann"
               hashedPassword := "argon2:old pass 1" } := by
    rw [husers, hrt]
    decide
  simp only [loadMember, Tx.exec_get_bind, huser, if_true, hrow, Tx.exec_pure]
  exact ⟨_, rfl⟩

/-- The database after the first rotation. -/
def rotatedDb : AuthDb :=
  rotate signingSettings plainCrypto 0 (rotationDraws "2") firstToken (some firstSession) signedInDb

lemma refresh_signedIn :
    ∃ resp, getDb (refreshTokens signingSettings plainCrypto 0 (rotationDraws "2") "raw1")
      signedInDb = (.ok resp, rotatedDb) := by
  obtain ⟨found, hfound⟩ := @exec_loadMember_signedIn signedInDb firstToken rfl rfl rfl rfl
  exact getDb_refreshTokens_of rfl hfound rfl (by decide)

/-- **The family survives its report**: the stolen token is presented, the reuse is reported,
and the successor is refreshed all the same. -/
theorem reuse_kills_family_fails :
    ¬ EachStep (familyStep signingSettings plainCrypto) (StaysDead signingSettings plainCrypto)
      { db := signedInDb } [.refresh 0 (rotationDraws "2") "raw1",
        .refresh 0 (rotationDraws "3") "raw1", .refresh 0 (rotationDraws "4") "raw2"] := by
  obtain ⟨resp, hresp⟩ := refresh_signedIn
  have hfirst : familyStep signingSettings plainCrypto { db := signedInDb }
      (.refresh 0 (rotationDraws "2") "raw1") = { db := rotatedDb } := by
    simp only [familyStep, hresp, answersReuse, Bool.false_eq_true, if_false, List.append_nil]
  have hsecond : familyStep signingSettings plainCrypto { db := rotatedDb }
      (.refresh 0 (rotationDraws "3") "raw1") = { db := rotatedDb, reported := ["f1"] } := by
    have hreuse := @getDb_refreshTokens_reuse signingSettings plainCrypto 0 (rotationDraws "3")
      rotatedDb { firstToken with isRevoked := true, lastUsedAt := some 0 } "raw1" rfl rfl
    simp only [familyStep, hreuse]
    rfl
  rw [eachStep_cons, hfirst, eachStep_cons, hsecond, eachStep_cons]
  rintro ⟨-, -, hdead, -⟩
  obtain ⟨found, hfound⟩ := @exec_loadMember_signedIn rotatedDb
    (rotatedToken signingSettings plainCrypto 0 (rotationDraws "2") firstToken) rfl rfl rfl rfl
  obtain ⟨resp', hresp'⟩ := @getDb_refreshTokens_of signingSettings plainCrypto 0
    (rotationDraws "4") rotatedDb _ "raw2" found _ rfl hfound rfl (by decide)
  exact hdead _ rfl (by decide) resp' (by rw [hresp'])

/-! ### Refreshes in flight -/

/-- A refresh between two of its statements: its token is read and checked, its account and
workspace are, its session is and all it writes is in its session, waiting for the commit. -/
inductive Refreshing where
  | loaded (rt : RefreshToken)
  | joined (rt : RefreshToken) (found : User × TenantMembership × Tenant)
  | ready (rt : RefreshToken) (sess : Option Session)

/-- The token row a refresh has read. -/
def Refreshing.token : Refreshing → RefreshToken
  | loaded rt => rt
  | joined rt _ => rt
  | ready rt _ => rt

/-- The database, the refreshes in flight, and the exchanges so far: the id of the token that
was spent with the id of its successor. -/
structure RotationState where
  db : AuthDb
  requests : List Refreshing := []
  exchanged : List (String × String) := []

/-- A refresh arrives and reads its token, or the `i`-th in flight goes on. -/
inductive RotationAction where
  | present (now : Time) (rawRefresh : String)
  | advance (i : ℕ) (now : Time) (draws : Draws)

section

variable (settings : Settings) (crypto : Crypto)

/-- Put back what is left of refresh `i`; one that raised is gone. -/
def putRequest (st : RotationState) (i : ℕ) (r : Except ECLException Refreshing) : RotationState :=
  match r with
  | .error _ => { st with requests := st.requests.eraseIdx i }
  | .ok next => { st with requests := st.requests.set i next }

/-- The commit of a refresh. -/
def commitRefresh (st : RotationState) (i : ℕ) (now : Time) (draws : Draws) (rt : RefreshToken)
    (sess : Option Session) : RotationState where
  db := rotate settings crypto now draws rt sess st.db
  requests := st.requests.eraseIdx i
  exchanged := st.exchanged ++ [(rt.id, draws.refreshTokenId)]

/-- One statement of one refresh. -/
def rotationStep (st : RotationState) : RotationAction → RotationState
  | .present now rawRefresh =>
      match (Tx.exec (loadToken crypto now rawRefresh) st.db).1 with
      | .error _ => st
      | .ok rt => { st with requests := st.requests ++ [.loaded rt] }
  | .advance i now draws =>
      match st.requests[i]? with
      | none => st
      | some (.loaded rt) =>
          putRequest st i (do return .joined rt (← (Tx.exec (loadMember rt) st.db).1))
      | some (.joined rt (user, membership, tenant)) =>
          putRequest st i (do
            let sess ← (Tx.exec (loadSession settings now rt) st.db).1
            let _ ← (Tx.exec (createAccessToken settings now draws
              (sessionPayload user membership tenant)) st.db).1
            return .ready rt sess)
      | some (.ready rt sess) => commitRefresh settings crypto st i now draws rt sess

end

/-- **A refresh that nobody interrupts** is `refreshTokens` in its transaction. -/
theorem run_refresh_alone {settings : Settings} {crypto : Crypto} {now : Time} {draws : Draws}
    {rawRefresh : String} {db db' : AuthDb} {resp : AuthResponse}
    (h : getDb (refreshTokens settings crypto now draws rawRefresh) db = (.ok resp, db')) :
    (run (rotationStep settings crypto) { db := db } [.present now rawRefresh,
      .advance 0 now draws, .advance 0 now draws, .advance 0 now draws]).db = db' := by
  obtain ⟨rt, ⟨user, membership, tenant⟩, sess, hload, hmember, hsess, hkey, rfl⟩ :=
    exec_refreshTokens_reads (Tx.exec_of_commit_ok h)
  have hsign : ∃ p, (Tx.exec (createAccessToken settings now draws
      (sessionPayload user membership tenant)) db).1 = .ok p := by
    rw [createAccessToken, if_neg hkey, Tx.exec_pure]
    exact ⟨_, rfl⟩
  obtain ⟨p, hp⟩ := hsign
  simp [rotationStep, putRequest, hload, hmember, hsess, hp, commitRefresh, bind, Except.bind, pure,
    Except.pure]

/-! ### Linear rotation -/

/-- The live tokens of a family. -/
def liveTokens (familyId : String) (tokens : List RefreshToken) : ℕ :=
  tokens.countP fun t => t.tokenFamilyId = familyId ∧ t.isRevoked = false

/-- **Linear rotation**: no family has two live tokens, and no token two successors. -/
structure Linear (st : RotationState) : Prop where
  one_live : ∀ f, liveTokens f st.db.refreshTokens ≤ 1
  one_successor : (st.exchanged.map Prod.fst).Nodup

/-- A commit finds the token it spends unspent. -/
def SpendsLive (st : RotationState) : RotationAction → Prop
  | .present _ _ => True
  | .advance i _ _ => ∀ rt sess, st.requests[i]? = some (.ready rt sess) →
      ∀ t ∈ st.db.refreshTokens, t.id = rt.id → t.isRevoked = false

/-- A commit draws an id that no token has. -/
def FreshToken (st : RotationState) : RotationAction → Prop
  | .present _ _ => True
  | .advance _ _ draws => ∀ t ∈ st.db.refreshTokens, t.id ≠ draws.refreshTokenId

/-- What holds of the tokens and of the refreshes in flight: ids are unique, a refresh has
read a row that is still there, its family has a live token, and spent tokens are revoked. -/
structure RotationOk (st : RotationState) : Prop where
  ids : (st.db.refreshTokens.map RefreshToken.id).Nodup
  read : ∀ r ∈ st.requests, ∃ t ∈ st.db.refreshTokens,
    t.id = r.token.id ∧ t.tokenFamilyId = r.token.tokenFamilyId
  live : ∀ r ∈ st.requests, 1 ≤ liveTokens r.token.tokenFamilyId st.db.refreshTokens
  spent : ∀ e ∈ st.exchanged, ∃ t ∈ st.db.refreshTokens, t.id = e.1 ∧ t.isRevoked = true

section

variable {settings : Settings} {crypto : Crypto} {st : RotationState} {i : ℕ} {now : Time}
  {draws : Draws} {rt : RefreshToken} {sess : Option Session}

/-- The tokens after a commit. -/
lemma refreshTokens_commitRefresh :
    (commitRefresh settings crypto st i now draws rt sess).db.refreshTokens
      = updateByKey RefreshToken.id rt.id
          (fun t => { t with isRevoked := true, lastUsedAt := some now }) st.db.refreshTokens
        ++ [rotatedToken settings crypto now draws rt] := by
  rw [commitRefresh, rotate, refreshTokens_moveSession]
  rfl

/-- **The live tokens after a commit**: one less in its family if the spent row was live, one
more for the successor. -/
lemma liveTokens_commitRefresh (hids : (st.db.refreshTokens.map RefreshToken.id).Nodup)
    {t : RefreshToken} (ht : t ∈ st.db.refreshTokens) (hid : t.id = rt.id)
    (hfamily : t.tokenFamilyId = rt.tokenFamilyId) (f : String) :
    liveTokens f (commitRefresh settings crypto st i now draws rt sess).db.refreshTokens
        + (if rt.tokenFamilyId = f ∧ t.isRevoked = false then 1 else 0)
      = liveTokens f st.db.refreshTokens + (if rt.tokenFamilyId = f then 1 else 0) := by
  have hupdate := countP_updateByKey RefreshToken.id
    (f := fun t => { t with isRevoked := true, lastUsedAt := some now }) hids ht
    (fun t => t.tokenFamilyId = f ∧ t.isRevoked = false)
  simp only [hid, hfamily, Bool.true_eq_false, and_false, decide_false, Bool.toNat_false,
    add_zero] at hupdate
  have hlive : (decide (rt.tokenFamilyId = f ∧ t.isRevoked = false)).toNat
      = if rt.tokenFamilyId = f ∧ t.isRevoked = false then 1 else 0 := by
    by_cases hp : rt.tokenFamilyId = f ∧ t.isRevoked = false <;> simp [hp]
  have hnew : liveTokens f [rotatedToken settings crypto now draws rt]
      = if rt.tokenFamilyId = f then 1 else 0 := by
    by_cases hf : rt.tokenFamilyId = f <;> simp [liveTokens, rotatedToken, hf]
  rw [refreshTokens_commitRefresh, liveTokens, List.countP_append]
  change _ + liveTokens f [rotatedToken settings crypto now draws rt] + _ = _
  rw [hnew, liveTokens, ← hupdate, hlive]
  omega

/-- A row that is not the spent one, or that is revoked, is still there after a commit, with
its id, its family and, if it was, revoked. -/
lemma exists_mem_commitRefresh {t : RefreshToken} (ht : t ∈ st.db.refreshTokens) :
    ∃ t' ∈ (commitRefresh settings crypto st i now draws rt sess).db.refreshTokens,
      t'.id = t.id ∧ t'.tokenFamilyId = t.tokenFamilyId ∧
        (t.isRevoked = true ∨ t.id = rt.id → t'.isRevoked = true) := by
  refine ⟨if t.id = rt.id then { t with isRevoked := true, lastUsedAt := some now } else t,
    ?_, ?_⟩
  · rw [refreshTokens_commitRefresh]
    exact List.mem_append_left _ ((mem_updateByKey _).mpr ⟨t, ht, rfl⟩)
  · split
    · exact ⟨rfl, rfl, fun _ => rfl⟩
    · rename_i hne
      exact ⟨rfl, rfl, fun h => h.resolve_right hne⟩

/-- A step that commits nothing: each refresh in flight has the token of one that was, or a
live token of the table. -/
lemma RotationOk.of_requests (h : RotationOk st) {requests : List Refreshing}
    (hrequests : ∀ r ∈ requests, (∃ r' ∈ st.requests, r'.token = r.token) ∨
      (r.token ∈ st.db.refreshTokens ∧ r.token.isRevoked = false)) :
    RotationOk { st with requests := requests } where
  ids := h.ids
  read r hr := by
    rcases hrequests r hr with ⟨r', hr', hsame⟩ | ⟨hmem, -⟩
    · exact hsame ▸ h.read r' hr'
    · exact ⟨_, hmem, rfl, rfl⟩
  live r hr := by
    rcases hrequests r hr with ⟨r', hr', hsame⟩ | ⟨hmem, hlive⟩
    · exact hsame ▸ h.live r' hr'
    · exact List.countP_pos_iff.mpr ⟨_, hmem, by simp [hlive]⟩
  spent := h.spent

@[simp] lemma db_putRequest (r : Except ECLException Refreshing) :
    (putRequest st i r).db = st.db := by
  cases r <;> rfl

@[simp] lemma exchanged_putRequest (r : Except ECLException Refreshing) :
    (putRequest st i r).exchanged = st.exchanged := by
  cases r <;> rfl

lemma RotationOk.putRequest (h : RotationOk st) {r : Refreshing} (hr : r ∈ st.requests)
    {next : Except ECLException Refreshing} (hnext : ∀ r', next = .ok r' → r'.token = r.token) :
    RotationOk (putRequest st i next) := by
  cases next with
  | error e =>
      exact h.of_requests fun r' hr' => Or.inl ⟨r', List.mem_of_mem_eraseIdx hr', rfl⟩
  | ok r₁ =>
      refine h.of_requests fun r' hr' => Or.inl ?_
      rcases List.mem_or_eq_of_mem_set hr' with hmem | rfl
      · exact ⟨r', hmem, rfl⟩
      · exact ⟨r, hr, (hnext r' rfl).symm⟩

/-- A commit keeps the invariant. -/
lemma RotationOk.commitRefresh (h : RotationOk st)
    (hi : st.requests[i]? = some (.ready rt sess))
    (hfresh : ∀ t ∈ st.db.refreshTokens, t.id ≠ draws.refreshTokenId) :
    RotationOk (commitRefresh settings crypto st i now draws rt sess) := by
  have hr : Refreshing.ready rt sess ∈ st.requests := List.mem_of_getElem? hi
  obtain ⟨t, ht, hid, hfamily⟩ : ∃ t ∈ st.db.refreshTokens,
      t.id = rt.id ∧ t.tokenFamilyId = rt.tokenFamilyId := h.read _ hr
  refine ⟨?_, ?_, ?_, ?_⟩
  · have hold := map_updateByKey RefreshToken.id (k := rt.id)
      (f := fun t => { t with isRevoked := true, lastUsedAt := some now }) (fun _ => rfl)
      st.db.refreshTokens
    rw [refreshTokens_commitRefresh, List.map_append, hold, List.nodup_append]
    refine ⟨h.ids, List.nodup_singleton _, ?_⟩
    intro a ha b hb
    obtain ⟨u, hu, rfl⟩ := List.mem_map.mp ha
    rw [List.map_singleton, List.mem_singleton] at hb
    exact hb ▸ hfresh u hu
  · intro r hr'
    obtain ⟨u, hu, huid, hufamily⟩ := h.read r (List.mem_of_mem_eraseIdx hr')
    obtain ⟨u', hu', hid', hfamily', -⟩ := exists_mem_commitRefresh hu
    exact ⟨u', hu', hid'.trans huid, hfamily'.trans hufamily⟩
  · intro r hr'
    have hlive := h.live r (List.mem_of_mem_eraseIdx hr')
    have hcount := @liveTokens_commitRefresh settings crypto st i now draws rt sess h.ids t ht hid
      hfamily r.token.tokenFamilyId
    by_cases hsame : rt.tokenFamilyId = r.token.tokenFamilyId
    · rw [if_pos hsame] at hcount
      split_ifs at hcount <;> omega
    · rw [if_neg hsame, if_neg (fun hboth => hsame hboth.1)] at hcount
      omega
  · intro e he
    rcases List.mem_append.mp he with hold | hnew
    · obtain ⟨u, hu, huid, hrevoked⟩ := h.spent e hold
      obtain ⟨u', hu', hid', -, hkeep⟩ := exists_mem_commitRefresh hu
      exact ⟨u', hu', hid'.trans huid, hkeep (Or.inl hrevoked)⟩
    · obtain ⟨u', hu', hid', -, hkeep⟩ := exists_mem_commitRefresh ht
      rw [List.mem_singleton.mp hnew]
      exact ⟨u', hu', hid'.trans hid, hkeep (Or.inr hid)⟩

/-- A refresh that goes on without a commit keeps its token. -/
lemma token_of_bind {α : Type} {m : Except ECLException α} {next : α → Except ECLException Refreshing}
    {rt : RefreshToken} (hnext : ∀ a r, next a = .ok r → r.token = rt) {r : Refreshing}
    (h : m >>= next = .ok r) : r.token = rt := by
  obtain ⟨a, _, ha⟩ := bind_eq_ok.mp h
  exact hnext a r ha

/-- **One step** keeps the invariant. -/
lemma rotationOk_step (a : RotationAction) (h : RotationOk st) (hfresh : FreshToken st a) :
    RotationOk (rotationStep settings crypto st a) := by
  cases a with
  | present now rawRefresh =>
      simp only [rotationStep]
      split
      · exact h
      · rename_i rt hrt
        obtain ⟨-, hfound, hlive, -⟩ := exec_loadToken_ok (Prod.ext hrt rfl)
        refine h.of_requests fun r hr => ?_
        rcases List.mem_append.mp hr with hold | hnew
        · exact Or.inl ⟨r, hold, rfl⟩
        · rw [List.mem_singleton.mp hnew]
          exact Or.inr ⟨AuthDb.mem_of_tokenByHash hfound, hlive⟩
  | advance i now draws =>
      simp only [rotationStep]
      split
      · exact h
      · rename_i rt hi
        refine h.putRequest (List.mem_of_getElem? hi) fun r hr => ?_
        refine token_of_bind (fun found r hfound => ?_) hr
        rw [← Except.ok.inj hfound]
        rfl
      · rename_i rt user membership tenant hi
        refine h.putRequest (List.mem_of_getElem? hi) fun r hr => ?_
        refine token_of_bind (fun sess r hsess => ?_) hr
        refine token_of_bind (fun access r haccess => ?_) hsess
        rw [← Except.ok.inj haccess]
        rfl
      · rename_i rt sess hi
        exact h.commitRefresh hi hfresh

/-- **One step keeps rotation linear** exactly where a commit finds its token unspent. -/
lemma linear_step_iff (a : RotationAction) (h : RotationOk st) (hlinear : Linear st) :
    Linear (rotationStep settings crypto st a) ↔ SpendsLive st a := by
  have hsame : ∀ {st' : RotationState}, st'.db = st.db → st'.exchanged = st.exchanged →
      Linear st' := by
    intro st' hdb hexchanged
    exact ⟨hdb ▸ hlinear.one_live, hexchanged ▸ hlinear.one_successor⟩
  cases a with
  | present now rawRefresh =>
      refine iff_of_true ?_ trivial
      simp only [rotationStep]
      split
      · exact hlinear
      · exact hsame rfl rfl
  | advance i now draws =>
      simp only [rotationStep]
      split
      · rename_i hnone
        refine iff_of_true hlinear fun rt sess hi => ?_
        rw [hnone] at hi
        cases hi
      · rename_i rt hi
        refine iff_of_true ?_ fun rt' sess hready => ?_
        · exact hsame (db_putRequest _) (exchanged_putRequest _)
        · rw [hi] at hready
          cases hready
      · rename_i rt user membership tenant hi
        refine iff_of_true ?_ fun rt' sess hready => ?_
        · exact hsame (db_putRequest _) (exchanged_putRequest _)
        · rw [hi] at hready
          cases hready
      · rename_i rt sess hi
        have hr : Refreshing.ready rt sess ∈ st.requests := List.mem_of_getElem? hi
        obtain ⟨t, ht, hid, hfamily⟩ : ∃ t ∈ st.db.refreshTokens,
            t.id = rt.id ∧ t.tokenFamilyId = rt.tokenFamilyId := h.read _ hr
        have hlive : 1 ≤ liveTokens rt.tokenFamilyId st.db.refreshTokens := h.live _ hr
        have hcount := @liveTokens_commitRefresh settings crypto st i now draws rt sess h.ids t ht
          hid hfamily
        have honly : ∀ u ∈ st.db.refreshTokens, u.id = rt.id → u = t := fun u hu huid =>
          List.inj_on_of_nodup_map h.ids hu ht (huid.trans hid.symm)
        constructor
        · intro hnext rt' sess' hready u hu huid
          rw [hi] at hready
          obtain ⟨rfl, rfl⟩ : rt = rt' ∧ sess = sess' := by
            simpa using hready
          rw [honly u hu huid]
          by_contra hspent
          -- the row was spent already, so the family keeps its live token and gains one
          have hafter := hcount rt.tokenFamilyId
          rw [if_neg (fun hboth => hspent hboth.2), if_pos rfl] at hafter
          have hone := hnext.one_live rt.tokenFamilyId
          omega
        · intro hspends
          have hunspent : t.isRevoked = false := hspends rt sess hi t ht hid
          refine ⟨fun f => ?_, ?_⟩
          · have hafter := hcount f
            have hbefore := hlinear.one_live f
            by_cases hf : rt.tokenFamilyId = f
            · rw [if_pos ⟨hf, hunspent⟩, if_pos hf] at hafter
              omega
            · rw [if_neg (fun hboth => hf hboth.1), if_neg hf] at hafter
              omega
          · have hnew : rt.id ∉ st.exchanged.map Prod.fst := by
              intro hmem
              obtain ⟨e, he, hsame⟩ := List.mem_map.mp hmem
              obtain ⟨u, hu, huid, hrevoked⟩ := h.spent e he
              rw [honly u hu (huid.trans hsame), hunspent] at hrevoked
              exact absurd hrevoked (by decide)
            rw [commitRefresh, List.map_append, List.map_singleton, List.nodup_append]
            refine ⟨hlinear.one_successor, List.nodup_singleton _, fun a ha b hb => ?_⟩
            rw [List.mem_singleton.mp hb]
            rintro rfl
            exact hnew ha

/-- **Rotation is linear** exactly in the runs in which every commit finds the token that it spends
unspent. Between the read and the commit another request may spend it, and then the token has two
successors. -/
theorem rotation_linear_iff {db : AuthDb} (hids : (db.refreshTokens.map RefreshToken.id).Nodup)
    (hlive : ∀ f, liveTokens f db.refreshTokens ≤ 1) {actions : List RotationAction}
    (hfresh : EachStep (rotationStep settings crypto) FreshToken { db := db } actions) :
    Always (rotationStep settings crypto) Linear { db := db } actions
      ↔ EachStep (rotationStep settings crypto) SpendsLive { db := db } actions := by
  have hok : RotationOk { db := db } := ⟨hids, by simp, by simp, by simp⟩
  have hlinear : Linear { db := db } := ⟨hlive, List.nodup_nil⟩
  exact always_iff_eachStep_of_invariant (I := RotationOk) (A := FreshToken)
    (fun _ a hst hfresh => rotationOk_step a hst hfresh)
    (fun _ a hst hlin _ => linear_step_iff a hst hlin) hok hlinear hfresh

end

/-! ### One token, two refreshes -/

/-- Two requests read the token, and then all else they need. -/
def twoReads : List RotationAction :=
  [.present 0 "raw1", .present 0 "raw1",
    .advance 0 0 (rotationDraws "2"), .advance 1 0 (rotationDraws "3"),
    .advance 0 0 (rotationDraws "2"), .advance 1 0 (rotationDraws "3")]

/-- Then both commit. -/
def twoRefreshes : List RotationAction :=
  twoReads ++ [.advance 0 0 (rotationDraws "2"), .advance 0 0 (rotationDraws "3")]

/-- Nothing is written until the commits. -/
lemma run_twoReads :
    run (rotationStep signingSettings plainCrypto) { db := signedInDb } twoReads
        = { db := signedInDb
            requests := [.ready firstToken (some firstSession),
              .ready firstToken (some firstSession)] } ∧
      EachStep (rotationStep signingSettings plainCrypto) FreshToken { db := signedInDb }
        twoReads := by
  obtain ⟨⟨user, membership, tenant⟩, hfound⟩ :=
    @exec_loadMember_signedIn signedInDb firstToken rfl rfl rfl rfl
  have hfresh : ∀ n ∈ ["2", "3"], ∀ t ∈ signedInDb.refreshTokens,
      t.id ≠ (rotationDraws n).refreshTokenId := by
    decide
  have hload₁ : rotationStep signingSettings plainCrypto { db := signedInDb } (.present 0 "raw1")
      = { db := signedInDb, requests := [.loaded firstToken] } := rfl
  have hload₂ : rotationStep signingSettings plainCrypto
      { db := signedInDb, requests := [.loaded firstToken] } (.present 0 "raw1")
      = { db := signedInDb, requests := [.loaded firstToken, .loaded firstToken] } := rfl
  have hjoin₁ : rotationStep signingSettings plainCrypto
      { db := signedInDb, requests := [.loaded firstToken, .loaded firstToken] }
      (.advance 0 0 (rotationDraws "2"))
      = { db := signedInDb
          requests := [.joined firstToken (user, membership, tenant), .loaded firstToken] } := by
    simp [rotationStep, putRequest, hfound, bind, Except.bind, pure, Except.pure]
  have hjoin₂ : rotationStep signingSettings plainCrypto
      { db := signedInDb
        requests := [.joined firstToken (user, membership, tenant), .loaded firstToken] }
      (.advance 1 0 (rotationDraws "3"))
      = { db := signedInDb
          requests := [.joined firstToken (user, membership, tenant),
            .joined firstToken (user, membership, tenant)] } := by
    simp [rotationStep, putRequest, hfound, bind, Except.bind, pure, Except.pure]
  have hready₁ : rotationStep signingSettings plainCrypto
      { db := signedInDb
        requests := [.joined firstToken (user, membership, tenant),
          .joined firstToken (user, membership, tenant)] }
      (.advance 0 0 (rotationDraws "2"))
      = { db := signedInDb
          requests := [.ready firstToken (some firstSession),
            .joined firstToken (user, membership, tenant)] } := rfl
  have hready₂ : rotationStep signingSettings plainCrypto
      { db := signedInDb
        requests := [.ready firstToken (some firstSession),
          .joined firstToken (user, membership, tenant)] }
      (.advance 1 0 (rotationDraws "3"))
      = { db := signedInDb
          requests := [.ready firstToken (some firstSession),
            .ready firstToken (some firstSession)] } := rfl
  have h2 := hfresh "2" (by simp)
  have h3 := hfresh "3" (by simp)
  constructor
  · rw [twoReads, run_cons, hload₁, run_cons, hload₂, run_cons, hjoin₁, run_cons, hjoin₂, run_cons,
      hready₁, run_cons, hready₂, run_nil]
  · rw [twoReads, eachStep_cons, hload₁, eachStep_cons, hload₂, eachStep_cons, hjoin₁,
      eachStep_cons, hjoin₂, eachStep_cons, hready₁, eachStep_cons, hready₂]
    exact ⟨trivial, trivial, h2, h3, h2, h3, trivial⟩

/-- Two requests that read one token. -/
theorem rotation_linear_iff_sample :
    Always (rotationStep signingSettings plainCrypto) Linear { db := signedInDb } twoRefreshes
      ↔ EachStep (rotationStep signingSettings plainCrypto) SpendsLive { db := signedInDb }
        twoRefreshes := by
  obtain ⟨hrun, hfresh⟩ := run_twoReads
  refine rotation_linear_iff (by decide) ?_ ?_
  · intro f
    exact List.countP_le_length
  · rw [twoRefreshes, eachStep_append, hrun]
    refine ⟨hfresh, ?_, ?_, trivial⟩
    · change ∀ t ∈ signedInDb.refreshTokens, t.id ≠ "r2"
      decide
    · change ∀ t ∈ rotatedDb.refreshTokens, t.id ≠ "r3"
      decide

/-- **Both are exchanged**: the family ends with two live tokens. -/
theorem rotation_linear_fails :
    ¬ Always (rotationStep signingSettings plainCrypto) Linear { db := signedInDb }
      twoRefreshes := by
  intro h
  have hlast := (h twoRefreshes List.prefix_rfl).one_live "f1"
  rw [twoRefreshes, run_append, run_twoReads.1] at hlast
  have htwo : liveTokens "f1" (run (rotationStep signingSettings plainCrypto)
      { db := signedInDb
        requests := [.ready firstToken (some firstSession),
          .ready firstToken (some firstSession)] }
      [.advance 0 0 (rotationDraws "2"), .advance 0 0 (rotationDraws "3")]).db.refreshTokens
      = 2 := by
    decide
  omega

end EclServer.Auth
