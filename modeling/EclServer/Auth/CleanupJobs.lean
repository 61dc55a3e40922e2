import EclServer.Auth.LiveRows

/-!
The clean-up jobs are invisible to authentication.

* `TokenWrite.hashes_sublist`, `TokenWrite.sessions_sublist`: the keys after a write are those from
  before and the drawn ones.
* `DrawnTokens`: the ids of the tokens are drawn ones, and a token of a session ends within ninety
  days of its last activity.
* `sameLive_job`: a job leaves the live rows as they are.
* `withoutJobs`, `sameLive_run`: a run of jobs and calls next to the run without the jobs.
* `jobs_invisible`: both give the same answers.
-/

namespace EclServer.Auth

open EclServer.Library

section

variable {settings : Settings} {crypto : Crypto} {now : Time} {draws? : Option Draws}
  {db t : AuthDb}

/-! ### The keys of the tokens and the sessions -/

lemma TokenWrite.hashes_sublist (h : TokenWrite settings crypto now draws? db t) :
    (t.refreshTokens.map (·.tokenHash)).Sublist
      (db.refreshTokens.map (·.tokenHash) ++ (draws?.map (drawnHash crypto)).toList) := by
  cases h with
  | issues hdraws h =>
      obtain ⟨user, remember, htokens, -⟩ := h.issued
      rw [hdraws, htokens, List.map_append]
      exact List.Sublist.refl _
  | @rotates draws rt sess hdraws hrt hsess ht =>
      have hspent : (spendToken now rt db).refreshTokens.map (·.tokenHash)
          = db.refreshTokens.map (·.tokenHash) := by
        show ((db.refreshTokens.map fun r => if r.id = rt.id then _ else r).map _) = _
        rw [List.map_map]
        refine List.map_congr_left fun r _ => ?_
        rw [Function.comp_apply]
        split <;> rfl
      rw [hdraws, ht, rotate, refreshTokens_moveSession]
      show (((spendToken now rt db).refreshTokens ++ [_]).map _).Sublist _
      rw [List.map_append, hspent]
      exact List.Sublist.refl _
  | @ends p q htokens hsessions =>
      have hrevoked : (db.revokeWhere p).refreshTokens.map (·.tokenHash)
          = db.refreshTokens.map (·.tokenHash) := by
        rw [AuthDb.revokeWhere, List.map_map]
        refine List.map_congr_left fun r _ => ?_
        rw [Function.comp_apply]
        split <;> rfl
      rw [htokens, hrevoked]
      exact List.sublist_append_left _ _
  | purges htokens hsessions =>
      exact (htokens.map _).trans (List.sublist_append_left _ _)

lemma TokenWrite.sessions_sublist (h : TokenWrite settings crypto now draws? db t) :
    (t.sessions.map (·.id)).Sublist
      (db.sessions.map (·.id) ++ (draws?.map Draws.sessionId).toList) := by
  cases h with
  | issues hdraws h =>
      obtain ⟨user, remember, -, hsessions⟩ := h.issued
      rw [hdraws, hsessions, List.map_append]
      exact List.Sublist.refl _
  | @rotates draws rt sess hdraws hrt hsess ht =>
      have hmoved : t.sessions.map (·.id) = db.sessions.map (·.id) := by
        rw [ht]
        cases sess with
        | none => rfl
        | some s =>
            rw [sessions_rotate_some]
            exact map_updateByKey Session.id (f := movedSession now draws) (fun _ => rfl) db.sessions
      rw [hmoved]
      exact List.sublist_append_left _ _
  | ends htokens hsessions =>
      rw [hsessions]
      exact (List.filter_sublist.map _).trans (List.sublist_append_left _ _)
  | purges htokens hsessions =>
      rw [hsessions]
      exact List.sublist_append_left _ _

/-- The ids of the tokens and of the sessions' tokens are among the drawn ones, and a session is
young enough for its token. -/
structure DrawnTokens (ids : List String) (db : AuthDb) : Prop where
  token_drawn : ∀ r ∈ db.refreshTokens, r.id ∈ ids
  session_drawn : ∀ s ∈ db.sessions, s.refreshTokenId ∈ ids
  within : ∀ s ∈ db.sessions, ∀ r ∈ db.refreshTokens, r.id = s.refreshTokenId →
    r.expiresAt ≤ s.lastActiveAt + days 90

lemma DrawnTokens.write {ids : List String} (hdays : settings.jwtRefreshTokenExpireDays ≤ 90)
    (h : DrawnTokens ids db) (hwrite : TokenWrite settings crypto now draws? db t)
    (hdraw : ∀ draws ∈ draws?, draws.refreshTokenId ∉ ids) :
    DrawnTokens (ids ++ (draws?.map Draws.refreshTokenId).toList) t := by
  obtain ⟨_, htokens⟩ := hwrite.token_origin
  obtain ⟨_, hsessions⟩ := hwrite.session_origin
  constructor
  · intro r' hr'
    rcases htokens r' hr' with ⟨r, hr, hsame⟩ | ⟨draws, hdraws, hnew, -⟩
    · exact List.mem_append_left _ (hsame.id ▸ h.token_drawn r hr)
    · refine List.mem_append_right _ ?_
      rw [hdraws, hnew.id]
      exact List.mem_singleton_self _
  · intro s' hs'
    rcases hsessions s' hs' with hold | ⟨draws, hdraws, href, -⟩
    · exact List.mem_append_left _ (h.session_drawn s' hold)
    · refine List.mem_append_right _ ?_
      rw [hdraws, href]
      exact List.mem_singleton_self _
  · intro s' hs' r' hr' hid
    rcases hsessions s' hs' with hold | ⟨draws, hdraws, href, hactive, -⟩ <;>
      rcases htokens r' hr' with ⟨r, hr, hsame⟩ | ⟨draws', hdraws', hnew, -⟩
    · rw [hsame.expires]
      exact h.within s' hold r hr (hsame.id.symm.trans hid)
    · -- an old session is not of the new token
      have hdrawn := h.session_drawn s' hold
      rw [← hid, hnew.id] at hdrawn
      exact absurd hdrawn (hdraw draws' hdraws')
    · have hdrawn := h.token_drawn r hr
      rw [← hsame.id, hid, href] at hdrawn
      exact absurd hdrawn (hdraw draws hdraws)
    · rw [hactive]
      exact hnew.expires.trans
        (Int.add_le_add_left (days_le_days (max_le hdays (by decide))) now)

/-- No two requests of a run draw one token hash, one session id or one token id. -/
structure DistinctTokens (crypto : Crypto) (actions : List ServiceAction) : Prop
    extends DistinctDraws crypto actions where
  ids : (drawnValues Draws.refreshTokenId actions).Nodup

lemma DistinctTokens.left {as bs : List ServiceAction} (h : DistinctTokens crypto (as ++ bs)) :
    DistinctTokens crypto as where
  toDistinctDraws := h.toDistinctDraws.left
  ids := by
    have hall := h.ids
    rw [drawnValues_append] at hall
    exact hall.of_append_left

lemma drawnTokens_run {st : AuthState} (hdays : settings.jwtRefreshTokenExpireDays ≤ 90)
    (hempty : NothingIssued st.world.db) {actions : List ServiceAction}
    (hdraws : DistinctTokens crypto actions) :
    DrawnTokens (drawnValues Draws.refreshTokenId actions)
      (run (serviceStep settings crypto) st actions).world.db := by
  induction actions using List.reverseRecOn with
  | nil =>
      constructor
      · simp [hempty.refreshTokens]
      · simp [hempty.sessions]
      · simp [hempty.sessions]
  | append_singleton actions a ih =>
      rw [run_concat, drawnValues_concat]
      exact (ih hdraws.left).write hdays (serve_tokens _ _ _ _ a.request)
        (notMem_of_nodup hdraws.ids)

lemma keys_run {st : AuthState} (hempty : NothingIssued st.world.db)
    (actions : List ServiceAction) :
    ((run (serviceStep settings crypto) st actions).world.db.refreshTokens.map (·.tokenHash)).Sublist
        (drawnValues (drawnHash crypto) actions) ∧
      ((run (serviceStep settings crypto) st actions).world.db.sessions.map (·.id)).Sublist
        (drawnValues Draws.sessionId actions) := by
  induction actions using List.reverseRecOn with
  | nil => simp [hempty.refreshTokens, hempty.sessions]
  | append_singleton actions a ih =>
      obtain ⟨hhashes, hsessions⟩ := ih
      have hwrite := serve_tokens settings crypto
        (a.arrival (run (serviceStep settings crypto) st actions))
        (run (serviceStep settings crypto) st actions).world a.request
      rw [run_concat, drawnValues_concat, drawnValues_concat]
      exact ⟨hwrite.hashes_sublist.trans (hhashes.append (List.Sublist.refl _)),
        hwrite.sessions_sublist.trans (hsessions.append (List.Sublist.refl _))⟩

/-- **The keys of the tables** along every run. -/
lemma liveKeys_run {st : AuthState} (hempty : NothingIssued st.world.db)
    (hkeys : InvitationKeys st.world.db.invitations) {actions : List ServiceAction}
    (hdraws : DistinctDraws crypto actions) :
    LiveKeys (run (serviceStep settings crypto) st actions).world.db where
  hashes := hdraws.hashes.sublist (keys_run hempty actions).1
  sessions := hdraws.sessions.sublist (keys_run hempty actions).2
  resets := (oneUnused_run hempty actions).keys
  invitations := run_invariant
    (I := fun st : AuthState => InvitationKeys st.world.db.invitations)
    (fun st a h => invitationKeys_step st a h) actions hkeys

/-! ### The jobs -/

/-- A run of one of the five clean-up jobs. -/
def isCleanup : ServiceRequest → Bool
  | .expireInvitations | .expirePasswordResetTokens | .purgeRevokedRefreshTokens => true
  | .auth .purgeOldSessions _ | .auth .purgeExpiredTokenBlacklist _ => true
  | _ => false

/-- **A job** leaves the accounts and the live rows as they are. -/
lemma sameLive_job {ids : List String} {w : World} (h : DrawnTokens ids w.db)
    {request : ServiceRequest} (hjob : isCleanup request = true) :
    SameLive now w.db (serve settings crypto now w request).db := by
  cases request with
  | expireInvitations =>
      refine ⟨rfl, rfl, rfl, rfl, rfl, rfl, ?_, rfl⟩
      show (w.db.invitations.map _).filter _ = _
      rw [filter_map_ite fun inv => by simp, ← liveInvitations, List.filter_eq_self]
      intro inv hinv
      obtain ⟨-, -, hle⟩ : inv ∈ w.db.invitations ∧ inv.status = .pending ∧ now ≤ inv.expiresAt := by
        simpa [liveInvitations] using hinv
      simp [isOverdue, hle]
  | expirePasswordResetTokens =>
      refine ⟨rfl, rfl, rfl, rfl, rfl, ?_, rfl, rfl⟩
      refine filter_filter_of_imp fun p _ hlive => ?_
      obtain ⟨-, hle⟩ := of_decide_eq_true hlive
      exact decide_eq_true fun hdue => absurd hdue.1 (not_lt.mpr hle)
  | purgeRevokedRefreshTokens =>
      have htokens : usableTokens now (purgeRevokedRefreshTokens now w.db)
          = usableTokens now w.db := by
        refine filter_filter_of_imp fun r _ hlive => ?_
        obtain ⟨hrevoked, -⟩ := of_decide_eq_true hlive
        exact decide_eq_true fun hdead => by simp [hrevoked] at hdead
      refine ⟨rfl, rfl, rfl, htokens, ?_, rfl, rfl, rfl⟩
      show w.db.sessions.filter (fun s =>
        (usableTokens now (purgeRevokedRefreshTokens now w.db)).any _) = _
      rw [htokens]
      rfl
  | auth request hframe =>
      cases request with
      | purgeOldSessions =>
          refine ⟨rfl, rfl, rfl, rfl, ?_, rfl, rfl, rfl⟩
          refine filter_filter_of_imp fun s hs hlive => ?_
          obtain ⟨r, hr, hid⟩ := List.any_eq_true.mp hlive
          obtain ⟨hmem, -, hle⟩ := mem_usableTokens.mp hr
          -- the token of an old session is past its time
          have hyoung : now - days 90 ≤ s.lastActiveAt :=
            Int.sub_right_le_of_le_add (hle.trans (h.within s hs r hmem (of_decide_eq_true hid)))
          simpa using hyoung
      | purgeExpiredTokenBlacklist =>
          refine ⟨rfl, rfl, rfl, rfl, rfl, rfl, rfl, ?_⟩
          refine filter_filter_of_imp fun entry _ hlive => ?_
          exact decide_eq_true (not_lt.mpr (le_of_lt (of_decide_eq_true hlive)))
      | _ => exact absurd hjob Bool.false_ne_true
  | _ => exact absurd hjob Bool.false_ne_true

/-- A job leaves Redis as it is. -/
lemma redis_job {w : World} {request : ServiceRequest} (hjob : isCleanup request = true) :
    (serve settings crypto now w request).redis = w.redis := by
  cases request with
  | auth request hframe =>
      cases request with
      | purgeOldSessions => rfl
      | purgeExpiredTokenBlacklist => rfl
      | _ => exact absurd hjob Bool.false_ne_true
  | expireInvitations => rfl
  | expirePasswordResetTokens => rfl
  | purgeRevokedRefreshTokens => rfl
  | _ => exact absurd hjob Bool.false_ne_true

/-! ### The calls -/

/-- A call of a service that looks at the rows, something that happens to Redis, or nothing. -/
def IsCall : ServiceRequest → Prop
  | .auth (.acceptInvite _ _) _ | .auth (.resetPassword _) _ | .auth (.refresh _ _) _ => True
  | .auth (.evict _) _ | .auth (.redisUp _) _ | .pass => True
  | _ => False

/-- **A call** on both sides. -/
lemma sameLive_call {v w : World} (h : SameLive now v.db w.db) (hv : LiveKeys v.db)
    (hw : LiveKeys w.db) {request : ServiceRequest} (hcall : IsCall request)
    (hfresh : ∀ draws ∈ request.draws?, UndrawnToken draws v.db ∧ UndrawnToken draws w.db) :
    SameLive now (serve settings crypto now v request).db
      (serve settings crypto now w request).db := by
  cases request with
  | auth request hframe =>
      cases request with
      | acceptInvite draws request =>
          obtain ⟨hleft, hright⟩ := hfresh draws rfl
          exact ((agrees_acceptInvite ⟨h, hleft, hright⟩ hv hw request).commit h).2
      | resetPassword request => exact ((agrees_resetPassword h hv hw request).commit h).2
      | refresh draws rawRefresh =>
          obtain ⟨hleft, hright⟩ := hfresh draws rfl
          exact ((agrees_refreshTokens ⟨h, hleft, hright⟩ hv hw rawRefresh).commit h).2
      | evict jti => exact h
      | redisUp up => exact h
      | _ => exact hcall.elim
  | pass => exact h
  | _ => exact hcall.elim

lemma redis_call {v w : World} {request : ServiceRequest} (hcall : IsCall request)
    (h : w.redis = v.redis) : (serve settings crypto now w request).redis
      = (serve settings crypto now v request).redis := by
  cases request with
  | auth request hframe =>
      cases request with
      | acceptInvite draws request => exact h
      | resetPassword request => exact h
      | refresh draws rawRefresh => exact h
      | evict jti => exact congrArg (Redis.evict · jti) h
      | redisUp up => exact congrArg (fun redis : Redis => { redis with up := up }) h
      | _ => exact hcall.elim
  | pass => exact h
  | _ => exact hcall.elim

/-! ### The run without the jobs -/

/-- Time passes, and the job is not run. -/
def withoutJob (a : ServiceAction) : ServiceAction :=
  if isCleanup a.request then ⟨a.wait, .pass⟩ else a

def withoutJobs (actions : List ServiceAction) : List ServiceAction := actions.map withoutJob

lemma wait_withoutJob (a : ServiceAction) : (withoutJob a).wait = a.wait := by
  rw [withoutJob]
  split <;> rfl

lemma draws?_of_isCleanup {request : ServiceRequest} (h : isCleanup request = true) :
    request.draws? = none := by
  cases request with
  | auth request hframe =>
      cases request with
      | purgeOldSessions => rfl
      | purgeExpiredTokenBlacklist => rfl
      | _ => exact absurd h Bool.false_ne_true
  | _ => rfl

/-- The jobs draw nothing. -/
lemma drawnValues_withoutJobs (f : Draws → String) (actions : List ServiceAction) :
    drawnValues f (withoutJobs actions) = drawnValues f actions := by
  rw [drawnValues, withoutJobs, List.filterMap_map]
  refine List.filterMap_congr fun a _ => ?_
  rw [Function.comp_apply, withoutJob]
  split
  · rename_i hjob
    rw [draws?_of_isCleanup hjob]
    rfl
  · rfl

lemma DistinctTokens.withoutJobs {history later : List ServiceAction}
    (h : DistinctTokens crypto (history ++ later)) :
    DistinctTokens crypto (history ++ Auth.withoutJobs later) where
  hashes := by
    rw [drawnValues_append, drawnValues_withoutJobs, ← drawnValues_append]
    exact h.hashes
  sessions := by
    rw [drawnValues_append, drawnValues_withoutJobs, ← drawnValues_append]
    exact h.sessions
  ids := by
    rw [drawnValues_append, drawnValues_withoutJobs, ← drawnValues_append]
    exact h.ids

/-- The clocks and Redis are the same, and so are the accounts and the live rows. -/
structure SameState (S T : AuthState) : Prop where
  clock : T.clock = S.clock
  redis : T.world.redis = S.world.redis
  live : SameLive S.clock S.world.db T.world.db

/-- What the laws of the runs say of one side. -/
structure SideOk (ids : List String) (S : AuthState) : Prop where
  keys : LiveKeys S.world.db
  drawn : DrawnTokens ids S.world.db

/-- **One action**, and on the other side the same action or, where it is a job, nothing. -/
lemma SameState.step {ids : List String} {S T : AuthState} (h : SameState S T)
    (hS : SideOk ids S) (hT : SideOk ids T) {a : ServiceAction}
    (ha : isCleanup a.request = true ∨ IsCall a.request)
    (hfresh : ∀ draws ∈ a.request.draws?, draws.refreshTokenId ∉ ids) :
    SameState (serviceStep settings crypto S a) (serviceStep settings crypto T (withoutJob a)) := by
  have harrival : (withoutJob a).arrival T = a.arrival S := by
    rw [ServiceAction.arrival, ServiceAction.arrival, wait_withoutJob, h.clock]
  have hlater : SameLive (a.arrival S) S.world.db T.world.db :=
    h.live.later (Int.le_add_of_nonneg_right (Int.natCast_nonneg a.wait))
  have hnew : ∀ {U : AuthState}, SideOk ids U → ∀ draws ∈ a.request.draws?,
      UndrawnToken draws U.world.db := by
    intro U hU draws hdraws x hx heq
    exact hfresh draws hdraws (heq ▸ hU.drawn.session_drawn x hx)
  by_cases hjob : isCleanup a.request = true
  · have hskipped : serviceStep settings crypto T (withoutJob a) = ⟨T.world, a.arrival S⟩ := by
      rw [serviceStep, harrival, withoutJob, if_pos hjob]
      rfl
    rw [hskipped]
    refine ⟨rfl, ?_, ?_⟩
    · rw [h.redis]
      exact (redis_job hjob).symm
    · exact (sameLive_job hS.drawn hjob).symm.trans hlater
  · have hcall : IsCall a.request := ha.resolve_left hjob
    have hsame : withoutJob a = a := if_neg hjob
    rw [hsame] at harrival ⊢
    have hstep : serviceStep settings crypto T a
        = ⟨serve settings crypto (a.arrival S) T.world a.request, a.arrival S⟩ := by
      rw [serviceStep, harrival]
    rw [hstep]
    refine ⟨rfl, redis_call hcall h.redis, ?_⟩
    exact sameLive_call hlater hS.keys hT.keys hcall
      fun draws hdraws => ⟨hnew hS draws hdraws, hnew hT draws hdraws⟩

lemma sidesOk_run (hdays : settings.jwtRefreshTokenExpireDays ≤ 90) {st : AuthState}
    (hempty : NothingIssued st.world.db) (hkeys : InvitationKeys st.world.db.invitations)
    {history later : List ServiceAction} (hdraws : DistinctTokens crypto (history ++ later)) :
    SideOk (drawnValues Draws.refreshTokenId (history ++ later))
        (run (serviceStep settings crypto) st (history ++ later)) ∧
      SideOk (drawnValues Draws.refreshTokenId (history ++ later))
        (run (serviceStep settings crypto) st (history ++ withoutJobs later)) := by
  have hdrawn := @drawnTokens_run settings crypto st hdays hempty _ hdraws.withoutJobs
  rw [drawnValues_append, drawnValues_withoutJobs, ← drawnValues_append] at hdrawn
  exact ⟨⟨liveKeys_run hempty hkeys hdraws.toDistinctDraws, drawnTokens_run hdays hempty hdraws⟩,
    liveKeys_run hempty hkeys hdraws.withoutJobs.toDistinctDraws, hdrawn⟩

/-- **A run of jobs and calls**, next to the run without the jobs. -/
lemma sameState_run (hdays : settings.jwtRefreshTokenExpireDays ≤ 90) {st : AuthState}
    (hempty : NothingIssued st.world.db) (hkeys : InvitationKeys st.world.db.invitations)
    {history later : List ServiceAction}
    (hlater : ∀ a ∈ later, isCleanup a.request = true ∨ IsCall a.request)
    (hdraws : DistinctTokens crypto (history ++ later)) :
    SameState (run (serviceStep settings crypto) st (history ++ later))
      (run (serviceStep settings crypto) st (history ++ withoutJobs later)) := by
  induction later using List.reverseRecOn with
  | nil => exact ⟨rfl, rfl, SameLive.refl _⟩
  | append_singleton later a ih =>
      rw [← List.append_assoc] at hdraws ⊢
      have hbefore := hdraws.left
      have hwithout : withoutJobs (later ++ [a]) = withoutJobs later ++ [withoutJob a] :=
        List.map_append
      rw [hwithout, ← List.append_assoc, run_concat, run_concat]
      obtain ⟨hleft, hright⟩ := sidesOk_run hdays hempty hkeys hbefore
      exact (ih (fun b hb => hlater b (List.mem_append_left _ hb)) hbefore).step hleft hright
        (hlater a (List.mem_append_right _ (List.mem_singleton_self a)))
        (notMem_of_nodup hdraws.ids)

/-! ### The answers -/

/-- **The same answers** to whoever asks next, now or later. -/
structure SameAnswers (settings : Settings) (crypto : Crypto) (actions : List ServiceAction)
    (S T : AuthState) : Prop where
  accepts : ∀ now draws request, S.clock ≤ now →
    draws.refreshTokenId ∉ drawnValues Draws.refreshTokenId actions →
    (getDb (acceptInvite settings crypto now draws request) T.world.db).1.toOption
      = (getDb (acceptInvite settings crypto now draws request) S.world.db).1.toOption
  resets : ∀ now request, S.clock ≤ now →
    (getDb (resetPassword crypto now request) T.world.db).1.toOption
      = (getDb (resetPassword crypto now request) S.world.db).1.toOption
  refreshes : ∀ now draws rawRefresh, S.clock ≤ now →
    draws.refreshTokenId ∉ drawnValues Draws.refreshTokenId actions →
    (getDb (refreshTokens settings crypto now draws rawRefresh) T.world.db).1.toOption
      = (getDb (refreshTokens settings crypto now draws rawRefresh) S.world.db).1.toOption
  validates : ∀ now token, S.clock ≤ now →
    (getDb (validateInvite crypto now token) T.world.db).1.toOption
      = (getDb (validateInvite crypto now token) S.world.db).1.toOption
  blacklisted : ∀ now jti, S.clock ≤ now →
    isTokenBlacklisted now T.world.redis jti T.world.db
      = isTokenBlacklisted now S.world.redis jti S.world.db

lemma shownInvite_congr (h : SameLive now db t) : shownInvite t = shownInvite db := by
  funext inv
  rw [shownInvite, shownInvite, inviteParties, inviteParties, h.tenants, h.users]

/-- **Clean-up jobs are invisible to authentication.** From every state that a run from tables with
nothing issued reaches, jobs and calls at any times lead to a state that gives the same answers as
the state that the calls lead to without the jobs. -/
theorem jobs_invisible (hdays : settings.jwtRefreshTokenExpireDays ≤ 90) {st : AuthState}
    (hempty : NothingIssued st.world.db) (hkeys : InvitationKeys st.world.db.invitations)
    {history later : List ServiceAction}
    (hlater : ∀ a ∈ later, isCleanup a.request = true ∨ IsCall a.request)
    (hdraws : DistinctTokens crypto (history ++ later)) :
    SameAnswers settings crypto (history ++ later)
      (run (serviceStep settings crypto) st (history ++ withoutJobs later))
      (run (serviceStep settings crypto) st (history ++ later)) := by
  have hstate := @sameState_run settings crypto hdays st hempty hkeys history later hlater hdraws
  obtain ⟨hleft, hright⟩ := @sidesOk_run settings crypto hdays st hempty hkeys _ _ hdraws
  generalize run (serviceStep settings crypto) st (history ++ later) = T at *
  generalize run (serviceStep settings crypto) st (history ++ withoutJobs later) = S at *
  -- every answer is read off what is live, which the jobs leave alone
  have hlive : ∀ now, S.clock ≤ now → SameLive now T.world.db S.world.db :=
    fun now hle => hstate.live.later (hstate.clock ▸ hle)
  have hnew : ∀ {U : AuthState} {draws : Draws},
      SideOk (drawnValues Draws.refreshTokenId (history ++ later)) U →
      draws.refreshTokenId ∉ drawnValues Draws.refreshTokenId (history ++ later) →
      UndrawnToken draws U.world.db :=
    fun hU hdraw x hx heq => hdraw (heq ▸ hU.drawn.session_drawn x hx)
  constructor
  · intro now draws request hle hdraw
    have hsame := hlive now hle
    exact ((agrees_acceptInvite ⟨hsame, hnew hleft hdraw, hnew hright hdraw⟩ hleft.keys hright.keys
      request).commit hsame).1
  · intro now request hle
    have hsame := hlive now hle
    exact ((agrees_resetPassword hsame hleft.keys hright.keys request).commit hsame).1
  · intro now draws rawRefresh hle hdraw
    have hsame := hlive now hle
    exact ((agrees_refreshTokens ⟨hsame, hnew hleft hdraw, hnew hright hdraw⟩ hleft.keys hright.keys
      rawRefresh).commit hsame).1
  · intro now token hle
    have hsame := hlive now hle
    have hanswer : Tx.Answers (validateInvite crypto now token) S.world.db _ :=
      answers_validateInvite hright.keys token
    rw [hsame.invitations, shownInvite_congr hsame] at hanswer
    exact ((Tx.agrees_of_answers (answers_validateInvite hleft.keys token) hanswer).mono
      (R := fun _ _ _ => True) fun _ _ _ _ => trivial).commit trivial |>.1
  · intro now jti hle
    rw [isTokenBlacklisted_live, isTokenBlacklisted_live, (hlive now hle).blacklist, hstate.redis]

end

/-! ### A session that is purged -/

/-- Ann's session is three months old, it is purged, and she presents its refresh token. -/
def purgeAndRefresh : List ServiceAction :=
  [⟨91 * 24 * 60 * 60 * 1000000, .auth .purgeOldSessions trivial⟩, ⟨0, .purgeRevokedRefreshTokens⟩,
    ⟨0, .auth (.refresh ⟨"f2", "r2", "raw2", "s2", "j2", "", ""⟩ "raw1") trivial⟩]

theorem jobs_invisible_sample :
    SameAnswers keySettings plainCrypto (acceptAndReset.take 1 ++ purgeAndRefresh)
        (run (serviceStep keySettings plainCrypto) ⟨{ db := twiceInvitedDb }, 0⟩
          (acceptAndReset.take 1 ++ withoutJobs purgeAndRefresh))
        (run (serviceStep keySettings plainCrypto) ⟨{ db := twiceInvitedDb }, 0⟩
          (acceptAndReset.take 1 ++ purgeAndRefresh)) ∧
      ((run (serviceStep keySettings plainCrypto) ⟨{ db := twiceInvitedDb }, 0⟩
        (acceptAndReset.take 1 ++ purgeAndRefresh)).world.db.sessions.map (·.id)) = [] := by
  refine ⟨jobs_invisible (by decide) ⟨rfl, rfl, rfl⟩ (by decide) ?_
    ⟨⟨by decide, by decide⟩, by decide⟩, by decide⟩
  intro a ha
  simp only [purgeAndRefresh, List.mem_cons, List.not_mem_nil, or_false] at ha
  rcases ha with rfl | rfl | rfl
  · exact Or.inl rfl
  · exact Or.inl rfl
  · exact Or.inr trivial

end EclServer.Auth
