import EclServer.Auth.LoggedOut

/-!
Logging out again with the same access token (`logout_user`, `blacklist_token`).

* `LogoutHolds`: the law of one request. A logout with the token succeeds, and the refresh token
  it presents is revoked and has no session left.
* `exec_logoutUserCached_iff`: a logout returns exactly when the row of the access token can be
  written (`RoomForRow`): Redis takes the key, and the blacklist has no row of the token yet.
* `logout_idempotent_iff`: so the law holds along a run exactly when every logout of it finds
  room for its row, and of logouts only: when there is at most one.
-/

namespace EclServer.Auth

open EclServer.Library

section

variable (settings : Settings) (crypto : Crypto) (p : Payload)

/-- The presented refresh token is revoked, and no session is left on it. -/
def PresentedEnded (rawRefresh : Option String) (db : AuthDb) : Prop :=
  ∀ raw, rawRefresh = some raw → raw ≠ "" →
    ∀ rt, db.tokenByHash (crypto.hashToken raw) = some rt →
      rt.isRevoked = true ∧ ∀ s ∈ db.sessions, s.refreshTokenId ≠ rt.id

/-- The access token decodes when the action happens. -/
def AccessValid (st : AuthState) (a : AuthAction) : Prop :=
  decodeAccessToken settings (st.arrival a) (some p) = .ok p

/-- **The law of a logout** with a valid access token. -/
def LogoutHolds (st : AuthState) (a : AuthAction) : Prop :=
  ∀ rawRefresh, a.request = .logout (some p) rawRefresh → AccessValid settings p st a →
    (getDbCached (logoutUserCached settings crypto (st.arrival a) (some p) rawRefresh)
        st.world).1 = .ok () ∧
      PresentedEnded crypto rawRefresh (authStep settings crypto st a).world.db

/-- The row of the access token can be written: Redis takes its key, and the blacklist has no
row of it. -/
def RoomForRow (w : World) : Prop :=
  blacklistable p = true → w.redis.up = true ∧ p.jti ∉ w.db.tokenBlacklist.map (·.jti)

/-- A logout with the token finds room for its row. -/
def LogoutFree (st : AuthState) (a : AuthAction) : Prop :=
  ∀ rawRefresh, a.request = .logout (some p) rawRefresh → AccessValid settings p st a →
    RoomForRow p st.world

end

/-- One logout: how long after the last request, and with which cookie. -/
structure LogoutCall where
  wait : ℕ
  rawRefresh : Option String

def LogoutCall.action (p : Payload) (call : LogoutCall) : AuthAction :=
  ⟨call.wait, .logout (some p) call.rawRefresh⟩

section

variable {settings : Settings} {crypto : Crypto} {now : Time} {db t : AuthDb} {p : Payload}

/-! ### The refresh token of the cookie -/

lemma presentedEnded_of_sameTokens {raw : Option String} (h : SameTokens db t)
    (hended : PresentedEnded crypto raw db) : PresentedEnded crypto raw t := by
  intro text htext hne rt hrt
  have hfound : db.tokenByHash (crypto.hashToken text) = some rt := by
    rw [← hrt, AuthDb.tokenByHash, AuthDb.tokenByHash, h.tokens]
  rw [h.sessions]
  exact hended text htext hne rt hfound

/-- The row found by its hash after the session of `rt` has been ended. -/
lemma tokenByHash_endSession (rt : RefreshToken) (tokenHash : String) :
    (endSession rt db).tokenByHash tokenHash
      = (db.tokenByHash tokenHash).map fun u =>
          if u.id = rt.id then { u with isRevoked := true } else u := by
  have hkept : ∀ u : RefreshToken, decide ({ u with isRevoked := true }.tokenHash = tokenHash)
      = decide (u.tokenHash = tokenHash) := fun _ => rfl
  rw [AuthDb.tokenByHash, refreshTokens_endSession]
  exact find?_updateByKey RefreshToken.id hkept db.refreshTokens

lemma exec_endPresented {raw : Option String} :
    ∃ t, Tx.exec (endPresented crypto raw) db = (.ok (), t) ∧ PresentedEnded crypto raw t := by
  cases raw with
  | none => exact ⟨db, rfl, fun _ h => by cases h⟩
  | some text =>
      by_cases hempty : text = ""
      · subst hempty
        exact ⟨db, rfl, fun raw hraw hne => absurd (Option.some.inj hraw).symm hne⟩
      rw [endPresented, if_neg hempty, Tx.exec_get_bind]
      cases hfound : db.tokenByHash (crypto.hashToken text) with
      | none =>
          refine ⟨db, rfl, ?_⟩
          rintro raw hraw - rt hrt
          rw [← Option.some.inj hraw, hfound] at hrt
          cases hrt
      | some rt =>
          refine ⟨endSession rt db, rfl, ?_⟩
          rintro raw hraw - rt' hrt'
          rw [← Option.some.inj hraw, tokenByHash_endSession, hfound, Option.map_some,
            if_pos rfl, Option.some.injEq] at hrt'
          subst hrt'
          refine ⟨rfl, fun s hs => ?_⟩
          have hs' : s ∈ db.sessions.filter fun s => s.refreshTokenId ≠ rt.id := hs
          simpa using (List.mem_filter.mp hs').2

/-! ### The row of the access token -/

/-- The key in Redis is all that the first half of a logout writes. -/
lemma exec_blacklistAccessInRedis {w : World} (hup : blacklistable p = true → w.redis.up = true) :
    ∃ redis, Tx.exec (blacklistAccessInRedis now (some p)) w = (.ok (), { w with redis := redis })
      ∧ redis.up = w.redis.up := by
  by_cases hlisted : blacklistable p = true
  · refine ⟨w.redis.setex now p.jti (blacklistTtl now (seconds p.exp)), ?_, rfl⟩
    simp only [blacklistAccessInRedis, Option.filter_some, hlisted, if_true, blacklistInRedis,
      Tx.exec_get_bind, hup hlisted, Tx.exec_set]
  · refine ⟨w.redis, ?_, rfl⟩
    simp only [blacklistAccessInRedis, Option.filter_some, hlisted, Bool.false_eq_true, if_false,
      Tx.exec_pure]

lemma exec_blacklistAccess_iff :
    (∃ t, Tx.exec (blacklistAccess (some p)) db = (.ok (), t))
      ↔ (blacklistable p = true → p.jti ∉ db.tokenBlacklist.map (·.jti)) := by
  have hfields : blacklistable p = true ↔ p.jti ≠ "" ∧ p.exp ≠ 0 ∧ p.sub ≠ "" := by
    simp [blacklistable]
  simp only [blacklistAccess, blacklistToken, hfields]
  by_cases hlisted : p.jti ≠ "" ∧ p.exp ≠ 0 ∧ p.sub ≠ ""
  · rw [if_pos hlisted]
    by_cases hrow : p.jti ∈ db.tokenBlacklist.map (·.jti)
    · simp only [Tx.exec_get_bind, if_pos hrow, Tx.exec_throw, Prod.mk.injEq,
        reduceCtorEq, false_and, exists_false, false_iff, Classical.not_imp, not_not]
      exact ⟨hlisted, hrow⟩
    · simp only [Tx.exec_get_bind, if_neg hrow, Tx.exec_modify]
      exact ⟨fun _ _ => hrow, fun _ => ⟨_, rfl⟩⟩
  · rw [if_neg hlisted]
    simp [hlisted]

/-- **A logout returns** exactly when the row of its access token can be written, and then the
refresh token of its cookie is ended. -/
lemma exec_logoutUserCached_iff {w : World} {raw : Option String}
    (hvalid : decodeAccessToken settings now (some p) = .ok p) :
    (∃ w', Tx.exec (logoutUserCached settings crypto now (some p) raw) w = (.ok (), w') ∧
        PresentedEnded crypto raw w'.db)
      ↔ RoomForRow p w := by
  have hpayload : (decodeAccessToken settings now (some p)).toOption = some p := by
    rw [hvalid]
    rfl
  rw [logoutUserCached, hpayload]
  constructor
  · rintro ⟨w', hexec, -⟩ hlisted
    obtain ⟨_, w₁, hredis, hlogout⟩ := Tx.exec_bind_eq_ok.mp hexec
    have hup : w.redis.up = true := by
      by_contra hdown
      simp only [blacklistAccessInRedis, Option.filter_some, hlisted, if_true, blacklistInRedis,
        Tx.exec_get_bind, hdown, if_false, Tx.exec_throw, Prod.mk.injEq,
        reduceCtorEq, false_and] at hredis
    obtain ⟨redis, hset, -⟩ := @exec_blacklistAccessInRedis now p w fun _ => hup
    rw [hset, Prod.mk.injEq] at hredis
    obtain ⟨-, rfl⟩ := hredis
    obtain ⟨db', hbody, -⟩ := exec_onDb_ok.mp hlogout
    obtain ⟨_, u₁, hrow, -⟩ := Tx.exec_bind_eq_ok.mp hbody
    exact ⟨hup, exec_blacklistAccess_iff.mp ⟨u₁, hrow⟩ hlisted⟩
  · intro hroom
    obtain ⟨redis, hset, -⟩ := @exec_blacklistAccessInRedis now p w
      fun hlisted => (hroom hlisted).1
    obtain ⟨u₁, hrow⟩ := exec_blacklistAccess_iff.mpr fun hlisted => (hroom hlisted).2
    obtain ⟨u₂, hend, hended⟩ := @exec_endPresented crypto u₁ raw
    have hlog : ∃ u₃, Tx.exec (logoutUser crypto (some p) raw) w.db = (.ok (), u₃) ∧
        SameTokens u₂ u₃ := by
      rw [logoutUser, Tx.exec_bind_ok hrow, Tx.exec_bind_ok hend]
      exact ⟨_, rfl, keeps_logEvent _ _ _ _ rfl⟩
    obtain ⟨u₃, hbody, hsame⟩ := hlog
    refine ⟨{ db := u₃, redis := redis }, ?_, presentedEnded_of_sameTokens hsame hended⟩
    rw [Tx.exec_bind_ok hset]
    exact exec_onDb_ok.mpr ⟨u₃, hbody, rfl⟩

/-! ### Runs -/

/-- **One request** obeys the law exactly when it finds room for its row. -/
lemma logoutHolds_iff (st : AuthState) (a : AuthAction) :
    LogoutHolds settings crypto p st a ↔ LogoutFree settings p st a := by
  refine forall_congr' fun raw => forall_congr' fun hrequest => forall_congr' fun hvalid => ?_
  have hworld : (authStep settings crypto st a).world
      = (getDbCached (logoutUserCached settings crypto (st.arrival a) (some p) raw)
          st.world).2 := by
    rw [authStep, hrequest]
    rfl
  rw [← @exec_logoutUserCached_iff settings crypto _ p st.world raw hvalid, hworld]
  constructor
  · rintro ⟨hok, hended⟩
    exact ⟨_, Tx.exec_of_commitWith_ok hok, hended⟩
  · rintro ⟨w', hexec, hended⟩
    rw [getDbCached, Tx.commitWith_of_ok hexec]
    exact ⟨rfl, hended⟩

/-- After a logout that succeeded the blacklist has the row. -/
lemma row_of_logoutFree {st : AuthState} {call : LogoutCall} (hlisted : blacklistable p = true)
    (hvalid : AccessValid settings p st (call.action p))
    (hfree : LogoutFree settings p st (call.action p)) :
    p.jti ∈ (authStep settings crypto st (call.action p)).world.db.tokenBlacklist.map
      (·.jti) := by
  obtain ⟨hok, -⟩ := (@logoutHolds_iff settings crypto p st (call.action p)).mpr hfree
    call.rawRefresh rfl hvalid
  obtain ⟨entry, hentry, hrow, -⟩ :=
    exec_logoutUserCached_row hvalid hlisted (Tx.exec_of_commitWith_ok hok)
  exact List.mem_map.mpr ⟨entry, hentry, hrow⟩

/-- Of logouts with one token only, the first can find room. -/
lemma logoutFree_calls_iff {st : AuthState} {calls : List LogoutCall}
    (hvalid : EachStep (authStep settings crypto) (AccessValid settings p) st
      (calls.map (LogoutCall.action p))) :
    EachStep (authStep settings crypto) (LogoutFree settings p) st
        (calls.map (LogoutCall.action p))
      ↔ blacklistable p = false ∨ calls = [] ∨ (calls.length = 1 ∧ RoomForRow p st.world) := by
  by_cases hlisted : blacklistable p = true
  swap
  · have hnever : ∀ s a, LogoutFree settings p s a :=
      fun s a _ _ _ hlisted' => absurd hlisted' hlisted
    simp only [Bool.not_eq_true] at hlisted
    simp only [hlisted, true_or, iff_true]
    exact EachStep.of_forall hnever st _
  cases calls with
  | nil => simp
  | cons call rest =>
      have hroom : LogoutFree settings p st (call.action p) ↔ RoomForRow p st.world :=
        ⟨fun h => h call.rawRefresh rfl hvalid.1, fun h _ _ _ => h⟩
      cases rest with
      | nil => simp [hlisted, hroom]
      | cons call' rest =>
          have hfalse : ¬ EachStep (authStep settings crypto) (LogoutFree settings p) st
              ((call :: call' :: rest).map (LogoutCall.action p)) := by
            rintro ⟨hfirst, hsecond, -⟩
            -- the first logout has written the row that the second would write again
            have hrow := @row_of_logoutFree settings crypto p st call hlisted hvalid.1 hfirst
            exact (hsecond call'.rawRefresh rfl hvalid.2.1 hlisted).2 hrow
          refine ⟨fun h => absurd h hfalse, ?_⟩
          rintro (hnot | hnil | ⟨hone, -⟩)
          · rw [hlisted] at hnot
            cases hnot
          · cases hnil
          · simp at hone

/-- **Logging out again**: whatever happens between the logouts with a token, they all succeed
and end the session of their cookies exactly when each finds room for the row of the token. In a
run of nothing but such logouts that is: when there is at most one, and room for it, or the
token is one that no row is written for. -/
theorem logout_idempotent_iff (p : Payload) (st : AuthState) :
    (∀ actions, EachStep (authStep settings crypto) (LogoutHolds settings crypto p) st actions
      ↔ EachStep (authStep settings crypto) (LogoutFree settings p) st actions) ∧
    ∀ calls : List LogoutCall,
      EachStep (authStep settings crypto) (AccessValid settings p) st
          (calls.map (LogoutCall.action p)) →
        (EachStep (authStep settings crypto) (LogoutHolds settings crypto p) st
            (calls.map (LogoutCall.action p))
          ↔ blacklistable p = false ∨ calls = []
            ∨ (calls.length = 1 ∧ RoomForRow p st.world)) := by
  have hmixed : ∀ actions,
      EachStep (authStep settings crypto) (LogoutHolds settings crypto p) st actions
        ↔ EachStep (authStep settings crypto) (LogoutFree settings p) st actions := by
    intro actions
    exact ⟨fun h => h.mono fun s a => (logoutHolds_iff s a).mp,
      fun h => h.mono fun s a => (logoutHolds_iff s a).mpr⟩
  refine ⟨hmixed, fun calls hvalid => ?_⟩
  rw [hmixed, logoutFree_calls_iff hvalid]

end

/-! ### The second tab -/

/-- Two logouts with the same token, the second with the cookie of another browser. -/
def twoLogouts : List LogoutCall := [⟨0, none⟩, ⟨1000000, some "phone"⟩]

def twoSessions : AuthState := ⟨{ db := twoSessionsDb }, 0⟩

theorem logout_idempotent_iff_sample :
    EachStep (authStep keySettings plainCrypto) (LogoutHolds keySettings plainCrypto
        quarterHourToken) twoSessions (twoLogouts.map (LogoutCall.action quarterHourToken))
      ↔ blacklistable quarterHourToken = false ∨ twoLogouts = []
        ∨ (twoLogouts.length = 1 ∧ RoomForRow quarterHourToken twoSessions.world) :=
  (logout_idempotent_iff quarterHourToken twoSessions).2 twoLogouts ⟨rfl, rfl, trivial⟩

/-- **The second logout fails**, and the session of the other browser stays. -/
theorem logout_idempotent_fails :
    ¬ ∀ (p : Payload) (st : AuthState) (calls : List LogoutCall),
      EachStep (authStep keySettings plainCrypto) (AccessValid keySettings p) st
          (calls.map (LogoutCall.action p)) →
        EachStep (authStep keySettings plainCrypto) (LogoutHolds keySettings plainCrypto p) st
          (calls.map (LogoutCall.action p)) := by
  intro h
  have hsecond := (h quarterHourToken twoSessions twoLogouts ⟨rfl, rfl, trivial⟩).2.1
  obtain ⟨hok, -⟩ := hsecond (some "phone") rfl rfl
  revert hok
  decide

end EclServer.Auth
