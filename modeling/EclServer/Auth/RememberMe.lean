import EclServer.Auth.TokenFamilies

/-!
How long the tokens of a login live (`_refresh_expiry`, `refresh_tokens`).

* `ShortLived`: the law of one request. A token that it adds to the family expires within the
  lifetime of a login that is not remembered, one day.
* `shortLived_login`: the login itself obeys the law. `shortLived_iff`: any other request obeys
  it unless it rotates a token of the family, since a rotation takes the configured days
  whatever the login chose.
* `remember_choice_iff`: so a whole family does exactly when the configured days are at most
  one, or no token of it is ever rotated.
-/

namespace EclServer.Auth

open EclServer.Library

/-- When a login or a refresh happens. -/
def TokenAction.time? : TokenAction → Option Time
  | .login now _ _ => some now
  | .refresh now _ _ => some now
  | .logout _ _ => none

section

variable (settings : Settings) (crypto : Crypto) (familyId : String)

/-- **The law**: each token that the request adds to the family expires at most a day after. -/
def ShortLived (st : FamilyState) (a : TokenAction) : Prop :=
  ∀ t ∈ (familyStep settings crypto st a).db.refreshTokens, t.tokenFamilyId = familyId →
    t.id ∉ st.db.refreshTokens.map (·.id) → ∃ now, a.time? = some now ∧ t.expiresAt ≤ now + days 1

/-- The checks of a refresh accept the text, as that of the token `rt`. -/
structure Acceptable (now : Time) (db : AuthDb) (rawRefresh : String) (rt : RefreshToken) :
    Prop where
  token : (Tx.exec (loadToken crypto now rawRefresh) db).1 = .ok rt
  member : ∃ found, (Tx.exec (loadMember rt) db).1 = .ok found
  session : ∃ sess, (Tx.exec (loadSession settings now rt) db).1 = .ok sess
  key : settings.jwtPrivateKey ≠ ""

/-- The request does not present an acceptable token of the family for rotation. -/
def NotRotated (st : FamilyState) : TokenAction → Prop
  | .refresh now _ rawRefresh =>
      ∀ rt, Acceptable settings crypto now st.db rawRefresh rt → rt.tokenFamilyId ≠ familyId
  | _ => True

/-- What the request draws is new: another family, an id that no token has. -/
def FreshDraws (st : FamilyState) : TokenAction → Prop
  | .login _ draws _ => draws.familyId ≠ familyId
  | .refresh _ draws _ => draws.refreshTokenId ∉ st.db.refreshTokens.map (·.id)
  | .logout _ _ => True

end

section

variable {settings : Settings} {crypto : Crypto} {familyId : String} {now : Time} {draws : Draws}
  {db : AuthDb} {st : FamilyState} {rawRefresh : String}

lemma add_days_le_iff {m n : ℤ} : now + days m ≤ now + days n ↔ m ≤ n := by
  have hscaled : ∀ t m n : ℤ,
      t + m * 24 * 60 * 60 * 1000000 ≤ t + n * 24 * 60 * 60 * 1000000 ↔ m ≤ n := by
    intro t m n
    omega
  exact hscaled now m n

/-! ### One request -/

/-- A login that is not remembered gives its token one day. -/
lemma shortLived_login {request : LoginRequest} (hremember : request.remember = false) :
    ShortLived settings crypto familyId st (.login now draws request) := by
  intro t ht _ hnew
  obtain ⟨ts, htokens, hts⟩ := @refreshTokens_login settings crypto now draws request st.db
  simp only [familyStep, htokens, List.mem_append] at ht
  rcases ht with hold | hadded
  · exact absurd (List.mem_map_of_mem hold) hnew
  · obtain ⟨user, rfl⟩ := hts t hadded
    refine ⟨now, rfl, ?_⟩
    simp only [newRefreshToken, refreshExpiry, hremember, Bool.false_eq_true, if_false]
    exact le_refl _

/-- A refresh leaves the database as it is, or rotates an acceptable token. -/
lemma familyStep_refresh :
    ((familyStep settings crypto st (.refresh now draws rawRefresh)).db = st.db ∧
        ∀ rt, ¬ Acceptable settings crypto now st.db rawRefresh rt) ∨
      ∃ rt sess, Acceptable settings crypto now st.db rawRefresh rt ∧
        (familyStep settings crypto st (.refresh now draws rawRefresh)).db
          = rotate settings crypto now draws rt sess st.db := by
  have hdb : (familyStep settings crypto st (.refresh now draws rawRefresh)).db
      = (getDb (refreshTokens settings crypto now draws rawRefresh) st.db).2 := rfl
  rw [hdb]
  by_cases haccepted : ∃ rt, Acceptable settings crypto now st.db rawRefresh rt
  · obtain ⟨rt, haccept⟩ := haccepted
    obtain ⟨found, hmember⟩ := haccept.member
    obtain ⟨sess, hsess⟩ := haccept.session
    obtain ⟨resp, hresp⟩ := @getDb_refreshTokens_of settings crypto now draws st.db rt rawRefresh
      found sess haccept.token hmember hsess haccept.key
    exact Or.inr ⟨rt, sess, haccept, by rw [hresp]⟩
  · refine Or.inl ⟨?_, fun rt haccept => haccepted ⟨rt, haccept⟩⟩
    rcases Tx.commit_snd (refreshTokens settings crypto now draws rawRefresh) st.db with
      hsame | ⟨resp, hok⟩
    · exact hsame
    · obtain ⟨rt, found, sess, hload, hmember, hsess, hkey, -⟩ := exec_refreshTokens_reads hok
      exact absurd ⟨rt, hload, ⟨found, hmember⟩, ⟨sess, hsess⟩, hkey⟩ haccepted

/-- **One rotation** obeys the law when the token is of another family, or the configured days
are at most one. -/
lemma shortLived_refresh_iff (hfresh : draws.refreshTokenId ∉ st.db.refreshTokens.map (·.id)) :
    ShortLived settings crypto familyId st (.refresh now draws rawRefresh)
      ↔ settings.jwtRefreshTokenExpireDays ≤ 1
        ∨ NotRotated settings crypto familyId st (.refresh now draws rawRefresh) := by
  rcases @familyStep_refresh settings crypto now draws st rawRefresh with
    ⟨hsame, hnone⟩ | ⟨rt, sess, haccept, hrotate⟩
  · have hlaw : ShortLived settings crypto familyId st (.refresh now draws rawRefresh) := by
      intro t ht _ hnew
      rw [hsame] at ht
      exact absurd (List.mem_map_of_mem ht) hnew
    exact ⟨fun _ => Or.inr fun rt haccept => absurd haccept (hnone rt), fun _ => hlaw⟩
  · constructor
    · intro hlaw
      by_cases hfamily : rt.tokenFamilyId = familyId
      · left
        have hmem : rotatedToken settings crypto now draws rt
            ∈ (familyStep settings crypto st (.refresh now draws rawRefresh)).db.refreshTokens := by
          rw [hrotate, mem_refreshTokens_rotate]
          exact Or.inr rfl
        obtain ⟨now', hnow, hexpires⟩ := hlaw _ hmem hfamily hfresh
        obtain rfl := Option.some.inj hnow
        exact add_days_le_iff.mp hexpires
      · right
        intro rt' haccept'
        -- the text is that of one token only
        have hone : rt' = rt := Except.ok.inj (haccept'.token.symm.trans haccept.token)
        rw [hone]
        exact hfamily
    · intro hcondition t ht hfamily hnew
      rw [hrotate, mem_refreshTokens_rotate] at ht
      rcases ht with ⟨u, hu, rfl⟩ | rfl
      · refine absurd ?_ hnew
        have hid : (if u.id = rt.id then { u with isRevoked := true, lastUsedAt := some now }
            else u).id = u.id := by
          split <;> rfl
        rw [hid]
        exact List.mem_map_of_mem hu
      · rcases hcondition with hdays | hrotated
        · exact ⟨now, rfl, add_days_le_iff.mpr hdays⟩
        · exact absurd hfamily (hrotated rt haccept)

/-- **Any request after the login** obeys the law exactly when it rotates no token of the
family, or the configured days are at most one. -/
lemma shortLived_iff {a : TokenAction} (hfresh : FreshDraws familyId st a) :
    ShortLived settings crypto familyId st a
      ↔ settings.jwtRefreshTokenExpireDays ≤ 1 ∨ NotRotated settings crypto familyId st a := by
  cases a with
  | login now draws request =>
      refine ⟨fun _ => Or.inr trivial, fun _ => ?_⟩
      intro t ht hfamily hnew
      obtain ⟨ts, htokens, hts⟩ := @refreshTokens_login settings crypto now draws request st.db
      simp only [familyStep, htokens, List.mem_append] at ht
      rcases ht with hold | hadded
      · exact absurd (List.mem_map_of_mem hold) hnew
      · -- the token of another login is of another family
        obtain ⟨user, rfl⟩ := hts t hadded
        exact absurd hfamily hfresh
  | refresh now draws rawRefresh => exact shortLived_refresh_iff hfresh
  | logout payload raw =>
      refine ⟨fun _ => Or.inr trivial, fun _ => ?_⟩
      intro t ht _ hnew
      refine absurd ?_ hnew
      have hids : (familyStep settings crypto st (.logout payload raw)).db.refreshTokens.map (·.id)
          = st.db.refreshTokens.map (·.id) := by
        simp only [familyStep]
        rw [getDb]
        rcases Tx.commit_snd (logoutUser crypto payload raw) st.db with hs | ⟨_, hok⟩
        · rw [hs]
        · rcases exec_logoutUser_ok hok with hsame | ⟨rt, -, hended⟩
          · rw [hsame]
          · rw [hended]
            have hkey : ∀ u : RefreshToken, { u with isRevoked := true }.id = u.id := fun _ => rfl
            exact map_updateByKey RefreshToken.id hkey _
      rw [← hids]
      exact List.mem_map_of_mem ht

/-! ### The family -/

lemma eachStep_shortLived_iff {actions : List TokenAction}
    (hfresh : EachStep (familyStep settings crypto) (FreshDraws familyId) st actions) :
    EachStep (familyStep settings crypto) (ShortLived settings crypto familyId) st actions
      ↔ settings.jwtRefreshTokenExpireDays ≤ 1
        ∨ EachStep (familyStep settings crypto) (NotRotated settings crypto familyId) st
            actions := by
  by_cases hdays : settings.jwtRefreshTokenExpireDays ≤ 1
  · refine ⟨fun _ => Or.inl hdays, fun _ => hfresh.mono fun s a hf => ?_⟩
    exact (shortLived_iff hf).mpr (Or.inl hdays)
  · constructor
    · intro hlaw
      refine Or.inr ((hlaw.and hfresh).mono fun s a h => ?_)
      exact ((shortLived_iff h.2).mp h.1).resolve_left hdays
    · rintro (hle | hrotated)
      · exact absurd hle hdays
      · exact (hrotated.and hfresh).mono fun s a h => (shortLived_iff h.2).mpr (Or.inr h.1)

/-- **The choice at the login**: after a login that is not remembered no token of its family
lives longer than a day exactly when the configured days are at most one, or no request of the
run has a token of the family rotated. -/
theorem remember_choice_iff {request : LoginRequest} {actions : List TokenAction}
    (hremember : request.remember = false)
    (hfresh : EachStep (familyStep settings crypto) (FreshDraws draws.familyId)
      (familyStep settings crypto { db := db } (.login now draws request)) actions) :
    EachStep (familyStep settings crypto) (ShortLived settings crypto draws.familyId)
        { db := db } (.login now draws request :: actions)
      ↔ settings.jwtRefreshTokenExpireDays ≤ 1
        ∨ EachStep (familyStep settings crypto) (NotRotated settings crypto draws.familyId)
            (familyStep settings crypto { db := db } (.login now draws request)) actions := by
  rw [eachStep_cons, ← eachStep_shortLived_iff hfresh]
  exact and_iff_right (shortLived_login hremember)

end

/-! ### Signed in for one day -/

/-- The account before it signs in. -/
def signedOutDb : AuthDb := { signedInDb with refreshTokens := [], sessions := [] }

def dayDraws : Draws := ⟨"f1", "r1", "raw1", "s1", "j1", "", ""⟩

def dayRequest : LoginRequest := ⟨"ann@bank.test", "old pass 1", false⟩

/-- The token row of the login. -/
def dayToken : RefreshToken :=
  { id := "r1", userId := "u1", tokenFamilyId := "f1", tokenHash := "sha256:raw1"
    expiresAt := days 1 }

/-- The state after the login. -/
def dayState : FamilyState :=
  familyStep signingSettings plainCrypto { db := signedOutDb } (.login 0 dayDraws dayRequest)

/-- The token is rotated at once. -/
def dayRefresh : List TokenAction := [.refresh 0 (rotationDraws "2") "raw1"]

lemma dayState_rows :
    dayState.db.refreshTokens = [dayToken] ∧ dayState.db.sessions = [firstSession] ∧
      dayState.db.tenants = signedInDb.tenants ∧
      dayState.db.memberships = signedInDb.memberships ∧
      dayState.db.users = (clearFailures signedOutDb
        { id := "u1", email := "ann@bank.test", name := "Ann", hashedPassword := "argon2:old pass 1" }
        0).users := by
  obtain ⟨⟨membership, tenant⟩, hrow⟩ := @getMembership_signedIn signedOutDb rfl rfl
  have huser : signedOutDb.getActiveUserByEmail plainCrypto dayRequest.email
      = some { id := "u1", email := "ann@bank.test", name := "Ann"
               hashedPassword := "argon2:old pass 1" } := by
    decide
  have hlogin : ∃ resp db', Tx.exec (loginUser signingSettings plainCrypto 0 dayDraws dayRequest)
      signedOutDb = (.ok resp, db') ∧
      db'.refreshTokens = [dayToken] ∧ db'.sessions = [firstSession] ∧
      db'.tenants = signedInDb.tenants ∧ db'.memberships = signedInDb.memberships ∧
      db'.users = (clearFailures signedOutDb
        { id := "u1", email := "ann@bank.test", name := "Ann", hashedPassword := "argon2:old pass 1" }
        0).users := by
    have hpassword : plainCrypto.verifyPassword dayRequest.password "argon2:old pass 1" = true := by
      decide
    simp only [loginUser, Tx.exec_get_bind, huser, hpassword, if_true, checkLockout,
      Tx.exec_pure_bind, Tx.exec_modify_bind, hrow]
    exact ⟨_, _, rfl, rfl, rfl, rfl, rfl, rfl⟩
  obtain ⟨resp, db', hexec, hrows⟩ := hlogin
  have hdb : dayState.db = db' := by
    have hstate : dayState.db
        = (getDb (loginUser signingSettings plainCrypto 0 dayDraws dayRequest) signedOutDb).2 := rfl
    rw [hstate, getDb, Tx.commit_of_ok hexec]
  rw [hdb]
  exact hrows

lemma freshDraws_dayRefresh :
    EachStep (familyStep signingSettings plainCrypto) (FreshDraws dayDraws.familyId) dayState
      dayRefresh := by
  refine ⟨?_, trivial⟩
  rw [FreshDraws, dayState_rows.1]
  decide

/-- The checks of a refresh accept the token of the login. -/
lemma acceptable_dayToken : Acceptable signingSettings plainCrypto 0 dayState.db "raw1" dayToken := by
  obtain ⟨htokens, hsessions, htenants, hmemberships, husers⟩ := dayState_rows
  refine ⟨?_, ?_, ⟨some firstSession, ?_⟩, by decide⟩
  · have hfound : dayState.db.tokenByHash (plainCrypto.hashToken "raw1") = some dayToken := by
      rw [AuthDb.tokenByHash, htokens]
      decide
    simp only [loadToken, Tx.exec_get_bind, hfound]
    rfl
  · obtain ⟨⟨membership, tenant⟩, hrow⟩ := getMembership_signedIn htenants hmemberships
    have huser : dayState.db.users.find? (fun u => u.id = dayToken.userId)
        = some { id := "u1", email := "ann@bank.test", name := "Ann"
                 hashedPassword := "argon2:old pass 1", lastLoginAt := some 0 } := by
      rw [husers]
      decide
    simp only [loadMember, Tx.exec_get_bind, huser, if_true, hrow, Tx.exec_pure]
    exact ⟨_, rfl⟩
  · have hsession : dayState.db.sessions.filter (fun s => s.refreshTokenId = dayToken.id)
        = [firstSession] := by
      rw [hsessions]
      decide
    simp only [loadSession, Tx.exec_get_bind, hsession]
    rfl

theorem remember_choice_iff_sample :
    EachStep (familyStep signingSettings plainCrypto)
        (ShortLived signingSettings plainCrypto dayDraws.familyId)
        { db := signedOutDb } (.login 0 dayDraws dayRequest :: dayRefresh)
      ↔ signingSettings.jwtRefreshTokenExpireDays ≤ 1
        ∨ EachStep (familyStep signingSettings plainCrypto)
            (NotRotated signingSettings plainCrypto dayDraws.familyId)
            (familyStep signingSettings plainCrypto { db := signedOutDb }
              (.login 0 dayDraws dayRequest)) dayRefresh := by
  exact remember_choice_iff rfl freshDraws_dayRefresh

/-- **The choice is lost**: the rotated token lives for the configured seven days. -/
theorem remember_choice_fails :
    ¬ ∀ (request : LoginRequest) (actions : List TokenAction), request.remember = false →
      EachStep (familyStep signingSettings plainCrypto) (FreshDraws dayDraws.familyId)
        (familyStep signingSettings plainCrypto { db := signedOutDb } (.login 0 dayDraws request))
        actions →
      EachStep (familyStep signingSettings plainCrypto)
        (ShortLived signingSettings plainCrypto dayDraws.familyId)
        { db := signedOutDb } (.login 0 dayDraws request :: actions) := by
  intro h
  obtain ⟨-, hlaw, -⟩ := h dayRequest dayRefresh rfl freshDraws_dayRefresh
  rcases (shortLived_refresh_iff freshDraws_dayRefresh.1).mp hlaw with hdays | hrotated
  · exact absurd hdays (by decide)
  · exact hrotated dayToken acceptable_dayToken rfl

end EclServer.Auth
