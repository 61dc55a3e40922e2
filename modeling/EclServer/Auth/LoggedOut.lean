import EclServer.Auth.SessionTables

/-!
A logged-out access token, over any requests, Redis events and clean-up runs.

* `blacklist_perform`: no request but the purge takes a row from the blacklist.
* `Recorded`: the row of a logged-out token is in the database until the token has expired.
  `recorded_run`: so it is after every run.
* `LastSecond`: the second after the expiry, in which the decoder still accepts the token and the
  database no longer counts its row.
* `logged_out_rejected`: `get_current_user` rejects the token outside that second, and inside it
  where Redis still has the key or the account is gone; it accepts it otherwise.
-/

namespace EclServer.Auth

open EclServer.Library

section

variable {settings : Settings} {crypto : Crypto} {now : Time} {draws : Draws} {db t : AuthDb}

/-! ### The rows of the blacklist -/

lemma tokenBlacklist_rotate (rt : RefreshToken) (sess : Option Session) :
    (rotate settings crypto now draws rt sess db).tokenBlacklist = db.tokenBlacklist := by
  cases sess <;> rfl

lemma blacklist_getDb {α : Type} {body : Request α}
    (h : ∀ a t, Tx.exec body db = (.ok a, t) → db.tokenBlacklist ⊆ t.tokenBlacklist) :
    db.tokenBlacklist ⊆ (getDb body db).2.tokenBlacklist :=
  Tx.commit_induction (I := fun t : AuthDb => db.tokenBlacklist ⊆ t.tokenBlacklist)
    (List.Subset.refl _) h

lemma blacklist_getDbCached {α : Type} {body : CachedRequest α} {w : World}
    (h : ∀ a w', Tx.exec body w = (.ok a, w') → w.db.tokenBlacklist ⊆ w'.db.tokenBlacklist) :
    w.db.tokenBlacklist ⊆ (getDbCached body w).2.db.tokenBlacklist := by
  rcases getDbCached_snd body w with hsame | ⟨a, hok⟩
  · rw [hsame]
    exact List.Subset.refl _
  · exact h a _ hok

/-- **Only the purge takes rows away.** -/
lemma blacklist_perform (w : World) {request : AuthRequest}
    (hpurge : request ≠ .purgeExpiredTokenBlacklist) :
    w.db.tokenBlacklist ⊆ (perform settings crypto now w request).db.tokenBlacklist := by
  cases request with
  | register d request => exact blacklist_getDb fun _ _ h => (opens_registerUser h).blacklist
  | login draws request =>
      refine blacklist_getDb fun _ _ h => ?_
      rcases opens_loginUser h with hsame | hopens
      · exact hsame.blacklist
      · exact hopens.blacklist
  | verifyMfa draws request => exact blacklist_getDbCached fun _ _ h => (opens_verifyMfa h).blacklist
  | acceptInvite draws request => exact blacklist_getDb fun _ _ h => (opens_acceptInvite h).blacklist
  | refresh draws rawRefresh =>
      refine blacklist_getDb fun _ _ h => ?_
      obtain ⟨rt, sess, -, -, rfl⟩ := exec_refreshTokens_ok h
      rw [tokenBlacklist_rotate]
      exact List.Subset.refl _
  | logout token rawRefresh =>
      refine blacklist_getDbCached fun _ _ h => ?_
      -- a logout without a session of its cookie writes nothing but the row of its own token
      rcases ends_logoutUserCached h with hsame | ⟨rt, -, hends⟩
      · exact hsame.blacklist
      · exact hends.blacklist
  | logoutAll token =>
      refine blacklist_getDbCached fun _ _ h => ?_
      rw [logoutAllEndpoint, Tx.exec_get_bind] at h
      obtain ⟨user, w₁, huser, hall⟩ := Tx.exec_bind_eq_ok.mp h
      simp only [Tx.exec_liftM, Prod.mk.injEq] at huser
      obtain ⟨-, rfl⟩ := huser
      exact (ends_logoutAllUser hall).blacklist
  | revokeSession token sessionId rawRefresh =>
      refine blacklist_getDbCached fun _ _ h => ?_
      obtain ⟨user, db', -, hexec, rfl⟩ := exec_withCurrentUser_ok h
      rw [deleteSessionEndpoint, Tx.exec_get_bind] at hexec
      obtain ⟨current, u, hcurrent, hrevoke⟩ := Tx.exec_bind_eq_ok.mp hexec
      simp only [Tx.exec_liftM, Prod.mk.injEq] at hcurrent
      obtain ⟨-, rfl⟩ := hcurrent
      obtain ⟨sess, -, -, hends⟩ := ends_revokeSession hrevoke
      exact hends.blacklist
  | revokeOtherSessions token rawRefresh =>
      refine blacklist_getDbCached fun _ _ h => ?_
      obtain ⟨user, db', -, hexec, rfl⟩ := exec_withCurrentUser_ok h
      rw [deleteOtherSessionsEndpoint, Tx.exec_get_bind] at hexec
      obtain ⟨current, u, hcurrent, hrevoke⟩ := Tx.exec_bind_eq_ok.mp hexec
      simp only [Tx.exec_liftM, Prod.mk.injEq] at hcurrent
      obtain ⟨-, rfl⟩ := hcurrent
      rcases ends_revokeOtherSessions hrevoke with hsame | hends
      · exact hsame.blacklist
      · exact hends.blacklist
  | changePassword token order request =>
      rcases perform_changePassword settings crypto now w token order request with
        ⟨hsame, -⟩ | ⟨user, -, -, hends⟩
      · rw [hsame]
        exact List.Subset.refl _
      · exact hends.blacklist
  | resetPassword request =>
      refine blacklist_getDb fun _ _ h => ?_
      obtain ⟨userId, hends⟩ := ends_resetPassword h
      exact hends.blacklist
  | purgeOldSessions => exact List.Subset.refl _
  | purgeExpiredTokenBlacklist => exact absurd rfl hpurge
  | evict jti => exact List.Subset.refl _
  | redisUp up => exact List.Subset.refl _
  | other write => exact (write.same w.db).blacklist

/-! ### The row of a logged-out token -/

/-- A blacklist row of the token, with the token's own expiry. -/
def IsRowOf (p : Payload) (entry : TokenBlacklist) : Prop :=
  entry.jti = p.jti ∧ entry.expiresAt = seconds p.exp

/-- Until the token has expired its row is there. -/
def Recorded (p : Payload) (st : AuthState) : Prop :=
  st.clock ≤ seconds p.exp → ∃ entry ∈ st.world.db.tokenBlacklist, IsRowOf p entry

lemma recorded_step {p : Payload} {st : AuthState} (h : Recorded p st) (a : AuthAction) :
    Recorded p (authStep settings crypto st a) := by
  intro hbefore
  have hlater : st.clock ≤ st.arrival a :=
    le_add_of_nonneg_right (Int.natCast_nonneg a.wait)
  obtain ⟨entry, hentry, hrow⟩ := h (hlater.trans hbefore)
  refine ⟨entry, ?_, hrow⟩
  by_cases hpurge : a.request = .purgeExpiredTokenBlacklist
  · have hkept : ¬ entry.expiresAt < st.arrival a := by
      rw [hrow.2]
      exact not_lt.mpr hbefore
    rw [authStep, hpurge]
    exact List.mem_filter.mpr ⟨hentry, decide_eq_true hkept⟩
  · exact blacklist_perform st.world hpurge hentry

/-- **No run loses the row** before the token has expired. -/
theorem recorded_run {p : Payload} {st : AuthState} (h : Recorded p st)
    (actions : List AuthAction) : Recorded p (run (authStep settings crypto) st actions) :=
  run_invariant (I := Recorded p) (fun _ a hst => recorded_step hst a) actions h

/-- A logout that returns has written the row. -/
lemma exec_logoutUserCached_row {p : Payload} {raw : Option String} {w w' : World} {r : Unit}
    (hvalid : decodeAccessToken settings now (some p) = .ok p) (hlisted : blacklistable p = true)
    (h : Tx.exec (logoutUserCached settings crypto now (some p) raw) w = (.ok r, w')) :
    ∃ entry ∈ w'.db.tokenBlacklist, IsRowOf p entry := by
  have hpayload : (decodeAccessToken settings now (some p)).toOption = some p := by
    rw [hvalid]
    rfl
  rw [logoutUserCached, hpayload] at h
  obtain ⟨_, w₁, -, hlogout⟩ := Tx.exec_bind_eq_ok.mp h
  obtain ⟨db', hexec, rfl⟩ := exec_onDb_ok.mp hlogout
  obtain ⟨_, u₁, hblacklist, hrest⟩ := Tx.exec_bind_eq_ok.mp hexec
  obtain ⟨_, u₂, hend, hlog⟩ := Tx.exec_bind_eq_ok.mp hrest
  have hfields : p.jti ≠ "" ∧ p.exp ≠ 0 ∧ p.sub ≠ "" := by
    simpa [blacklistable] using hlisted
  simp only [blacklistAccess, if_pos hfields, blacklistToken, Tx.exec_get_bind,
    Tx.exec_ite] at hblacklist
  split at hblacklist
  · simp at hblacklist
  simp only [Tx.exec_modify, Prod.mk.injEq] at hblacklist
  have hrow : ∃ entry ∈ u₁.tokenBlacklist, IsRowOf p entry := by
    rw [← hblacklist.2]
    exact ⟨_, List.mem_append_right _ (List.mem_singleton_self _), rfl, rfl⟩
  obtain ⟨entry, hentry, hof⟩ := hrow
  have hsecond : entry ∈ u₂.tokenBlacklist := by
    rcases exec_endPresented_ok hend with rfl | ⟨rt, -, rfl⟩
    · exact hentry
    · exact hentry
  exact ⟨entry, (keeps_logEvent _ _ _ _ hlog).blacklist hsecond, hof⟩

/-! ### Who is let in -/

/-- The second after the expiry. -/
def LastSecond (p : Payload) (t : Time) : Prop := seconds p.exp ≤ t ∧ t < seconds (p.exp + 1)

/-- Something still stops the token: the time, the key in Redis, or the account. -/
def StillStopped (p : Payload) (st : AuthState) : Prop :=
  ¬ LastSecond p st.clock ∨
    (st.world.redis.up = true ∧ st.world.redis.holds st.clock p.jti = true) ∨
    st.world.db.getActiveUserById p.sub = none

/-- The decoder counts whole seconds, so it accepts the token to the end of its last second. -/
lemma timestamp_le_iff {t : Time} {n : ℤ} : timestamp t ≤ n ↔ t < seconds (n + 1) := by
  have hint : ∀ t n : ℤ, t / 1000000 ≤ n ↔ t < (n + 1) * 1000000 := by
    intro t n
    omega
  exact hint t n

/-- A row of the token counts before the expiry, and not from it on. -/
lemma isTokenBlacklisted_of_row {p : Payload} {w : World} {entry : TokenBlacklist}
    (hentry : entry ∈ w.db.tokenBlacklist) (hrow : IsRowOf p entry) (hlt : now < seconds p.exp) :
    isTokenBlacklisted now w.redis p.jti w.db = true := by
  rw [isTokenBlacklisted, Bool.or_eq_true]
  refine Or.inr (List.any_eq_true.mpr ⟨entry, hentry, ?_⟩)
  rw [hrow.1, hrow.2]
  simpa using hlt

/-- The rejection of a token that decodes: its key, or its account. -/
lemma getCurrentUser_eq_error {p : Payload} {w : World}
    (hvalid : decodeAccessToken settings now (some p) = .ok p) (hjti : p.jti ≠ "")
    (h : isTokenBlacklisted now w.redis p.jti w.db = true ∨ w.db.getActiveUserById p.sub = none) :
    ∃ e, getCurrentUser settings now w (some p) = .error e := by
  simp only [getCurrentUser, hvalid, bind, Except.bind]
  by_cases hlisted : isTokenBlacklisted now w.redis p.jti w.db = true
  · rw [if_pos ⟨hjti, hlisted⟩]
    exact ⟨_, rfl⟩
  · rw [if_neg fun hboth => hlisted hboth.2]
    by_cases hsub : p.sub = ""
    · rw [if_pos hsub]
      exact ⟨_, rfl⟩
    · rw [if_neg hsub]
      rcases h with hlisted' | hnone
      · exact absurd hlisted' hlisted
      · rw [hnone]
        exact ⟨_, rfl⟩

/-- The token that nothing stops signs its account in. -/
lemma getCurrentUser_eq_ok {p : Payload} {w : World} {user : User}
    (hvalid : decodeAccessToken settings now (some p) = .ok p) (hsub : p.sub ≠ "")
    (hlisted : isTokenBlacklisted now w.redis p.jti w.db = false)
    (huser : w.db.getActiveUserById p.sub = some user) :
    getCurrentUser settings now w (some p) = .ok user := by
  simp only [getCurrentUser, hvalid, bind, Except.bind, hlisted, Bool.false_eq_true, and_false,
    if_false, hsub, huser, pure, Except.pure]

/-- **A logged-out token is rejected** in every state that any requests, Redis events and purges
lead to, unless it is presented in the second after its expiry while Redis is silent about it and
its account is active; then it is accepted, where the blacklist has no row of another expiry for
its id. -/
theorem logged_out_rejected {st : AuthState} {wait : ℕ} {p : Payload} {raw : Option String}
    (hvalid : decodeAccessToken settings (st.clock + wait) (some p) = .ok p)
    (hlisted : blacklistable p = true)
    (hlogout : (getDbCached (logoutUserCached settings crypto (st.clock + wait) (some p) raw)
      st.world).1 = .ok ())
    (actions : List AuthAction) :
    let s := run (authStep settings crypto) st (⟨wait, .logout (some p) raw⟩ :: actions)
    (StillStopped p s → ∃ e, getCurrentUser settings s.clock s.world (some p) = .error e) ∧
      ((∀ entry ∈ s.world.db.tokenBlacklist, entry.jti = p.jti → IsRowOf p entry) →
        (∃ e, getCurrentUser settings s.clock s.world (some p) = .error e) →
          StillStopped p s) := by
  intro s
  have hfields : p.jti ≠ "" ∧ p.exp ≠ 0 ∧ p.sub ≠ "" := by
    simpa [blacklistable] using hlisted
  have hkey : settings.jwtPublicKey ≠ "" := by
    intro hempty
    rw [decodeAccessToken, if_pos hempty] at hvalid
    cases hvalid
  have hdecode : ∀ {t : Time}, t < seconds (p.exp + 1) →
      decodeAccessToken settings t (some p) = .ok p := by
    intro t ht
    simp only [decodeAccessToken, if_neg hkey, if_pos (timestamp_le_iff.mpr ht)]
  have hrecorded : Recorded p s := by
    refine recorded_run (fun _ => ?_) actions
    exact exec_logoutUserCached_row hvalid hlisted (Tx.exec_of_commitWith_ok hlogout)
  constructor
  · intro hstopped
    by_cases hlate : s.clock < seconds (p.exp + 1)
    · refine getCurrentUser_eq_error (hdecode hlate) hfields.1 ?_
      -- before the expiry the row of the database answers, in its last second Redis may
      by_cases hearly : s.clock < seconds p.exp
      · obtain ⟨entry, hentry, hrow⟩ := hrecorded hearly.le
        exact Or.inl (isTokenBlacklisted_of_row hentry hrow hearly)
      · rcases hstopped with houtside | ⟨hup, hholds⟩ | hnone
        · exact absurd ⟨not_lt.mp hearly, hlate⟩ houtside
        · exact Or.inl (by simp [isTokenBlacklisted, hup, hholds])
        · exact Or.inr hnone
    · have hexpired : ¬ timestamp s.clock ≤ p.exp := fun hle => hlate (timestamp_le_iff.mp hle)
      refine ⟨tokenExpired, ?_⟩
      simp only [getCurrentUser, decodeAccessToken, if_neg hkey, if_neg hexpired, bind,
        Except.bind]
  · rintro hrows ⟨e, herror⟩
    by_contra hfree
    simp only [StillStopped, not_or, not_not] at hfree
    obtain ⟨⟨hfrom, hto⟩, hsilent, hactive⟩ := hfree
    obtain ⟨user, huser⟩ := Option.ne_none_iff_exists'.mp hactive
    -- Redis is silent, and the rows of the token have expired
    have hnot : isTokenBlacklisted s.clock s.world.redis p.jti s.world.db = false := by
      rw [isTokenBlacklisted, Bool.or_eq_false_iff]
      refine ⟨by simpa using hsilent, List.any_eq_false.mpr fun entry hentry => ?_⟩
      intro hcounts
      obtain ⟨hjti, hexpires⟩ := of_decide_eq_true hcounts
      rw [(hrows entry hentry hjti).2] at hexpires
      exact absurd hfrom (not_le.mpr hexpires)
    rw [getCurrentUser_eq_ok (hdecode hto) hfields.2.2 hnot huser] at herror
    cases herror

end

/-! ### Half a second after the expiry -/

/-- An access token of a quarter of an hour. -/
def quarterHourToken : Payload := { sub := "u1", jti := "j1", iat := 0, exp := 900 }

/-- One account, and nobody signed in. -/
def oneAccount : AuthState := ⟨{ db := { users := [twoSessionsUser] } }, 0⟩

/-- The token is logged out at once; the next request comes half a second after its expiry. -/
def lateRequest : List AuthAction := [⟨900500000, .redisUp true⟩]

theorem logged_out_rejected_sample :
    let s := run (authStep keySettings plainCrypto) oneAccount
      (⟨0, .logout (some quarterHourToken) none⟩ :: lateRequest)
    (StillStopped quarterHourToken s →
        ∃ e, getCurrentUser keySettings s.clock s.world (some quarterHourToken) = .error e) ∧
      ((∀ entry ∈ s.world.db.tokenBlacklist, entry.jti = quarterHourToken.jti →
          IsRowOf quarterHourToken entry) →
        (∃ e, getCurrentUser keySettings s.clock s.world (some quarterHourToken) = .error e) →
          StillStopped quarterHourToken s) :=
  logged_out_rejected rfl rfl rfl lateRequest

/-- **The token is alive again**: its Redis key has run out, its row no longer counts, and the
decoder still accepts it. -/
theorem logged_out_rejected_fails :
    ¬ ∀ actions : List AuthAction,
      let s := run (authStep keySettings plainCrypto) oneAccount
        (⟨0, .logout (some quarterHourToken) none⟩ :: actions)
      ∃ e, getCurrentUser keySettings s.clock s.world (some quarterHourToken) = .error e := by
  intro h
  obtain ⟨e, he⟩ := h lateRequest
  have hok : getCurrentUser keySettings
      (run (authStep keySettings plainCrypto) oneAccount
        (⟨0, .logout (some quarterHourToken) none⟩ :: lateRequest)).clock
      (run (authStep keySettings plainCrypto) oneAccount
        (⟨0, .logout (some quarterHourToken) none⟩ :: lateRequest)).world
      (some quarterHourToken) = .ok twoSessionsUser := by
    rfl
  rw [hok] at he
  cases he

end EclServer.Auth
