import EclServer.Auth.InviteWrites
import EclServer.Auth.SessionTables

/-!
Password resets over any requests and clean-up jobs.

* `ResetWrite`: what a request writes to the reset tokens. `serve_resets`: every request and job
  writes in one of these ways.
* `OneUnused`: the keys are unique and no user has two unused tokens. `oneUnused_step`: every step
  keeps it.
* `SpentHash`: a used row is never taken away, so its raw token is not accepted again.
* `HashOwner`, `HashDead`, `SessionOwner`, `SessionGone`: the tokens and the sessions that a reset
  finds, and what is left of them afterwards.
* `password_reset_total`: a reset works once and ends everything that was issued before it.
-/

namespace EclServer.Auth

open EclServer.Library

section

variable {settings : Settings} {crypto : Crypto} {now : Time} {db t : AuthDb}

/-! ### What a reset reads and writes -/

/-- An unused token that has not expired. -/
def isUsable (now : Time) (p : PasswordResetToken) : Prop := p.usedAt = none ∧ now ≤ p.expiresAt

lemma exec_loadResetToken_ok {raw : String} {p : PasswordResetToken}
    (h : Tx.exec (loadResetToken crypto now raw) db = (.ok p, t)) :
    t = db ∧ db.passwordResetTokens.find? (fun q => q.tokenHash = crypto.hashToken raw) = some p ∧
      isUsable now p := by
  simp only [loadResetToken, Tx.exec_get_bind] at h
  split at h
  · simp at h
  rename_i found hfound
  rw [Tx.exec_ite] at h
  split at h
  · simp at h
  rename_i hstale
  simp only [Tx.exec_pure, Prod.mk.injEq, Except.ok.injEq] at h
  obtain ⟨rfl, rfl⟩ := h
  push Not at hstale
  exact ⟨rfl, hfound, hstale⟩

lemma exec_resetUser_ok {p : PasswordResetToken} {user : User}
    (h : Tx.exec (resetUser p) db = (.ok user, t)) : t = db ∧ user.id = p.userId := by
  simp only [resetUser, Tx.exec_get_bind] at h
  split at h
  · simp at h
  rename_i found hfound
  simp only [Tx.exec_pure, Prod.mk.injEq, Except.ok.injEq] at h
  obtain ⟨rfl, rfl⟩ := h
  have hid := List.find?_some hfound
  exact ⟨rfl, of_decide_eq_true hid⟩

/-- A token that is marked used. -/
def spentToken (now : Time) (p : PasswordResetToken) : PasswordResetToken :=
  { p with usedAt := some now }

/-- **What a reset does**: it uses up the token and ends all the tokens and sessions of its user. -/
lemma exec_resetPassword_ok {request : ResetPasswordRequest} {r : Unit}
    (h : Tx.exec (resetPassword crypto now request) db = (.ok r, t)) :
    ∃ p, (Tx.exec (loadResetToken crypto now request.token) db).1 = .ok p ∧
      t.passwordResetTokens
        = updateByKey PasswordResetToken.id p.id (spentToken now) db.passwordResetTokens ∧
      t.refreshTokens = (db.revokeWhere fun u => u.userId = p.userId).refreshTokens ∧
      t.sessions = (db.deleteSessions fun s => s.userId = p.userId).sessions ∧
      t.invitations = db.invitations ∧ db.emailOutbox ⊆ t.emailOutbox := by
  obtain ⟨p, u₁, hload, hrest⟩ := Tx.exec_bind_eq_ok.mp h
  obtain ⟨rfl, -, -⟩ := exec_loadResetToken_ok hload
  obtain ⟨user, u₂, huser, hwrites⟩ := Tx.exec_bind_eq_ok.mp hrest
  obtain ⟨rfl, hid⟩ := exec_resetUser_ok huser
  split at hwrites
  · simp at hwrites
  simp only [Tx.exec_modify_bind, logEvent, queueEmailInOutbox, Tx.exec_modify,
    Prod.mk.injEq] at hwrites
  rw [← hwrites.2, hid]
  exact ⟨p, congrArg Prod.fst hload, rfl, rfl, rfl, rfl, List.subset_append_left _ _⟩

/-- A request for a reset does nothing, or supersedes the user's unused tokens with a new one. -/
lemma exec_forgotPassword_ok {d : ResetDraws} {email : String} {r : Unit}
    (h : Tx.exec (forgotPassword crypto now d email) db = (.ok r, t)) :
    t = db ∨ ∃ userId, t.passwordResetTokens
        = supersede now userId db.passwordResetTokens ++ [newResetToken crypto now d userId] ∧
      ResetTokenKeys t.passwordResetTokens ∧ t.invitations = db.invitations ∧
      db.emailOutbox ⊆ t.emailOutbox := by
  rw [forgotPassword, Tx.exec_get_bind] at h
  split at h
  · simp only [Tx.exec_pure, Prod.mk.injEq] at h
    exact Or.inl h.2.symm
  · rename_i user huser
    obtain ⟨_, u, hwrite, hrest⟩ := Tx.exec_bind_eq_ok.mp h
    rw [writeResetTokens, Tx.exec_ite] at hwrite
    split at hwrite
    case isFalse => simp at hwrite
    rename_i hkeys
    simp only [Tx.exec_modify, Prod.mk.injEq] at hwrite
    simp only [logEvent, queueEmailInOutbox, Tx.exec_modify_bind, Tx.exec_modify,
      Prod.mk.injEq] at hrest
    rw [← hrest.2, ← hwrite.2]
    exact Or.inr ⟨user.id, rfl, hkeys, rfl, List.subset_append_left _ _⟩

/-- What a request writes to the reset tokens. -/
inductive ResetWrite (crypto : Crypto) (now : Time) (db t : AuthDb) : Prop
  | same (h : t.passwordResetTokens = db.passwordResetTokens)
  | issues {userId : String} {d : ResetDraws}
      (h : t.passwordResetTokens
        = supersede now userId db.passwordResetTokens ++ [newResetToken crypto now d userId])
      (hkeys : ResetTokenKeys t.passwordResetTokens)
  | spends {id : String}
      (h : t.passwordResetTokens
        = updateByKey PasswordResetToken.id id (spentToken now) db.passwordResetTokens)
  | expires (h : t.passwordResetTokens = (expirePasswordResetTokens now db).passwordResetTokens)

/-- **Any request or job** writes to the reset tokens in one of these ways. -/
lemma serve_resets (w : World) (request : ServiceRequest) :
    ResetWrite crypto now w.db (serve settings crypto now w request).db := by
  have hsame : ∀ {α : Type} {token : Option Payload} {body : User → Request α},
      (∀ user, (body user).Keeps SameCredentials) →
      ResetWrite crypto now w.db
        (getDbCached (withCurrentUser settings now token body) w).2.db := by
    intro α token body hbody
    have hkeeps : SameCredentials w.db
        (getDbCached (withCurrentUser settings now token body) w).2.db :=
      getDbCached_keeps (withCurrentUser_keeps hbody) w
    exact .same hkeeps.resetTokens
  cases request with
  | auth request h =>
      -- of the requests about sessions two alone touch the links
      by_cases hwrites : WritesLinks request
      · cases request with
        | acceptInvite draws request =>
            refine Tx.commit_induction (I := fun t => ResetWrite crypto now w.db t) (.same rfl)
              fun _ _ hexec => ?_
            obtain ⟨inv, -, -, -, hresets, -⟩ := exec_acceptInvite_ok hexec
            exact .same hresets
        | resetPassword request =>
            refine Tx.commit_induction (I := fun t => ResetWrite crypto now w.db t) (.same rfl)
              fun _ _ hexec => ?_
            obtain ⟨p, -, hresets, -⟩ := exec_resetPassword_ok hexec
            exact .spends hresets
        | _ => exact hwrites.elim
      · exact .same (links_perform w h hwrites).resetTokens
  | forgotPassword d email =>
      refine Tx.commit_induction (I := fun t => ResetWrite crypto now w.db t) (.same rfl)
        fun _ _ hexec => ?_
      rcases exec_forgotPassword_ok hexec with rfl | ⟨userId, hresets, hkeys, -, -⟩
      · exact .same rfl
      · exact .issues hresets hkeys
  | sendInvite token d request => exact hsame (credentials_sendInviteEndpoint d request)
  | batchSendInvites token draws request =>
      exact hsame (credentials_batchInviteEndpoint draws request)
  | completeOnboarding token draws tenantId request =>
      exact hsame (credentials_completeOnboardingEndpoint draws tenantId request)
  | cancelInvite token inviteId => exact hsame (credentials_cancelInvite inviteId)
  | resendInvite token raw inviteId => exact hsame (credentials_resendInvite raw inviteId)
  | expireInvitations => exact .same rfl
  | expirePasswordResetTokens => exact .expires rfl
  | purgeRevokedRefreshTokens => exact .same rfl
  | pass => exact .same rfl

/-! ### One unused token -/

/-- The keys are unique, and no user has two unused tokens. -/
structure OneUnused (rows : List PasswordResetToken) : Prop where
  keys : ResetTokenKeys rows
  unused : ∀ p ∈ rows, ∀ q ∈ rows, p.userId = q.userId → p.usedAt = none → q.usedAt = none → p = q

/-- The rows of a superseded table: unused ones are of other users. -/
lemma mem_supersede {userId : String} {rows : List PasswordResetToken} {p : PasswordResetToken} :
    p ∈ supersede now userId rows ↔ ∃ q ∈ rows,
      (if q.userId = userId ∧ q.usedAt = none then { q with usedAt := some now } else q) = p :=
  List.mem_map

lemma unused_of_mem_supersede {userId : String} {rows : List PasswordResetToken}
    {p : PasswordResetToken} (hp : p ∈ supersede now userId rows) (hunused : p.usedAt = none) :
    p ∈ rows ∧ p.userId ≠ userId := by
  obtain ⟨q, hq, rfl⟩ := mem_supersede.mp hp
  by_cases hold : q.userId = userId ∧ q.usedAt = none
  · rw [if_pos hold] at hunused
    cases hunused
  · rw [if_neg hold] at hunused ⊢
    exact ⟨hq, fun huser => hold ⟨huser, hunused⟩⟩

/-- **Every write** keeps the keys unique and each user with one unused token at most. -/
lemma OneUnused.write (h : OneUnused db.passwordResetTokens) (hwrite : ResetWrite crypto now db t) :
    OneUnused t.passwordResetTokens := by
  cases hwrite with
  | same hsame => exact hsame ▸ h
  | @issues userId d hissues hkeys =>
      refine ⟨hkeys, fun p hp q hq huser hpun hqun => ?_⟩
      rw [hissues, List.mem_append, List.mem_singleton] at hp hq
      -- the new token is the only unused one of its user, as the others are superseded with it
      rcases hp with hp | rfl <;> rcases hq with hq | rfl
      · obtain ⟨hpmem, -⟩ := unused_of_mem_supersede hp hpun
        obtain ⟨hqmem, -⟩ := unused_of_mem_supersede hq hqun
        exact h.unused p hpmem q hqmem huser hpun hqun
      · exact absurd huser (unused_of_mem_supersede hp hpun).2
      · exact absurd huser.symm (unused_of_mem_supersede hq hqun).2
      · rfl
  | @spends id hspends =>
      have hids : t.passwordResetTokens.map (·.id) = db.passwordResetTokens.map (·.id) := by
        have hsame := map_updateByKey PasswordResetToken.id (k := id) (f := spentToken now)
          (fun _ => rfl) db.passwordResetTokens
        rw [hspends]
        exact hsame
      have hhashes : t.passwordResetTokens.map (·.tokenHash)
          = db.passwordResetTokens.map (·.tokenHash) := by
        rw [hspends, updateByKey, List.map_map]
        refine List.map_congr_left fun p _ => ?_
        by_cases hid : p.id = id <;> simp [hid, spentToken]
      refine ⟨⟨hids ▸ h.keys.1, hhashes ▸ h.keys.2⟩, fun p hp q hq huser hpun hqun => ?_⟩
      -- a token that is unused afterwards is one that was not spent
      have hkept : ∀ p ∈ t.passwordResetTokens, p.usedAt = none → p ∈ db.passwordResetTokens := by
        intro p hp hunused
        rw [hspends, mem_updateByKey] at hp
        obtain ⟨p', hp', rfl⟩ := hp
        split at hunused
        · cases hunused
        · rename_i hid
          rwa [if_neg hid]
      exact h.unused p (hkept p hp hpun) q (hkept q hq hqun) huser hpun hqun
  | expires hexpires =>
      have hsub : t.passwordResetTokens.Sublist db.passwordResetTokens := by
        rw [hexpires]
        exact List.filter_sublist
      refine ⟨⟨h.keys.1.sublist (hsub.map _), h.keys.2.sublist (hsub.map _)⟩, ?_⟩
      exact fun p hp q hq => h.unused p (hsub.subset hp) q (hsub.subset hq)

lemma oneUnused_step (st : AuthState) (a : ServiceAction)
    (h : OneUnused st.world.db.passwordResetTokens) :
    OneUnused (serviceStep settings crypto st a).world.db.passwordResetTokens :=
  h.write (serve_resets st.world a.request)

/-! ### A used token stays -/

/-- A row of the hash is used. -/
def SpentHash (hash : String) (rows : List PasswordResetToken) : Prop :=
  ∃ p ∈ rows, p.tokenHash = hash ∧ p.usedAt ≠ none

/-- **No write takes a used row away.** -/
lemma SpentHash.write {hash : String} (h : SpentHash hash db.passwordResetTokens)
    (hwrite : ResetWrite crypto now db t) : SpentHash hash t.passwordResetTokens := by
  obtain ⟨p, hp, hhash, hused⟩ := h
  cases hwrite with
  | same hsame => exact ⟨p, hsame ▸ hp, hhash, hused⟩
  | issues hissues hkeys =>
      refine ⟨p, ?_, hhash, hused⟩
      rw [hissues]
      exact List.mem_append_left _ (mem_supersede.mpr ⟨p, hp, if_neg fun hboth => hused hboth.2⟩)
  | @spends id hspends =>
      by_cases hid : p.id = id
      · refine ⟨spentToken now p, ?_, hhash, by simp [spentToken]⟩
        rw [hspends]
        exact (mem_updateByKey _).mpr ⟨p, hp, if_pos hid⟩
      · refine ⟨p, ?_, hhash, hused⟩
        rw [hspends]
        exact (mem_updateByKey _).mpr ⟨p, hp, if_neg hid⟩
  | expires hexpires =>
      refine ⟨p, ?_, hhash, hused⟩
      rw [hexpires]
      exact List.mem_filter.mpr ⟨hp, by simp [hused]⟩

/-- A spent hash is refused. -/
lemma not_accepted_of_spent {raw : String} {p : PasswordResetToken}
    (hone : OneUnused db.passwordResetTokens)
    (hspent : SpentHash (crypto.hashToken raw) db.passwordResetTokens) :
    (Tx.exec (loadResetToken crypto now raw) db).1 ≠ .ok p := by
  intro hload
  obtain ⟨-, hfound, hunused, -⟩ := exec_loadResetToken_ok (Prod.ext hload rfl)
  obtain ⟨q, hq, hhash, hused⟩ := hspent
  have hkey := List.find?_some hfound
  have hsame : p.tokenHash = q.tokenHash := (of_decide_eq_true hkey).trans hhash.symm
  rw [List.inj_on_of_nodup_map hone.keys.2 (List.mem_of_find?_eq_some hfound) hq hsame] at hunused
  exact hused hunused

/-! ### What was issued before -/

variable {draws? : Option Draws} {hash id userId : String}

/-- The rows of a hash are the user's. -/
def HashOwner (hash userId : String) (db : AuthDb) : Prop :=
  ∀ r ∈ db.refreshTokens, r.tokenHash = hash → r.userId = userId

/-- The rows of a hash are revoked. -/
def HashDead (hash : String) (db : AuthDb) : Prop :=
  ∀ r ∈ db.refreshTokens, r.tokenHash = hash → r.isRevoked = true

/-- The sessions of an id are the user's. -/
def SessionOwner (id userId : String) (db : AuthDb) : Prop :=
  ∀ s ∈ db.sessions, s.id = id → s.userId = userId

/-- There is no session of the id. -/
def SessionGone (id : String) (db : AuthDb) : Prop := ∀ s ∈ db.sessions, s.id ≠ id

/-- A value of the draws, for each request of a run that draws. -/
def drawnValues (f : Draws → String) (actions : List ServiceAction) : List String :=
  actions.filterMap fun a => a.request.draws?.map f

/-- The hash of the refresh token that is drawn. -/
def drawnHash (crypto : Crypto) (draws : Draws) : String := crypto.hashToken draws.rawRefresh

lemma HashOwner.write (h : HashOwner hash userId db)
    (hwrite : TokenWrite settings crypto now draws? db t)
    (hdraw : ∀ draws ∈ draws?, crypto.hashToken draws.rawRefresh ≠ hash) :
    HashOwner hash userId t := by
  intro r' hr' hhash
  obtain ⟨_, horigin⟩ := hwrite.token_origin
  rcases horigin r' hr' with ⟨r, hr, hsame⟩ | ⟨draws, hdraws, hnew, -⟩
  · rw [hsame.user]
    exact h r hr (hsame.hash.symm.trans hhash)
  · exact absurd (hnew.hash.symm.trans hhash) (hdraw draws hdraws)

lemma HashDead.write (h : HashDead hash db) (hwrite : TokenWrite settings crypto now draws? db t)
    (hdraw : ∀ draws ∈ draws?, crypto.hashToken draws.rawRefresh ≠ hash) : HashDead hash t := by
  intro r' hr' hhash
  obtain ⟨_, horigin⟩ := hwrite.token_origin
  rcases horigin r' hr' with ⟨r, hr, hsame⟩ | ⟨draws, hdraws, hnew, -⟩
  · exact hsame.revoked (h r hr (hsame.hash.symm.trans hhash))
  · exact absurd (hnew.hash.symm.trans hhash) (hdraw draws hdraws)

lemma SessionOwner.write (h : SessionOwner id userId db)
    (hwrite : TokenWrite settings crypto now draws? db t)
    (hdraw : ∀ draws ∈ draws?, draws.sessionId ≠ id) : SessionOwner id userId t := by
  intro s' hs' hid
  obtain ⟨_, horigin⟩ := hwrite.session_origin
  rcases horigin s' hs' with hold | ⟨draws, hdraws, -, -, ⟨s, hs, hsid, huser⟩ | ⟨hnew, -⟩⟩
  · exact h s' hold hid
  · rw [huser]
    exact h s hs (hsid.symm.trans hid)
  · exact absurd (hnew.symm.trans hid) (hdraw draws hdraws)

lemma SessionGone.write (h : SessionGone id db)
    (hwrite : TokenWrite settings crypto now draws? db t)
    (hdraw : ∀ draws ∈ draws?, draws.sessionId ≠ id) : SessionGone id t := by
  intro s' hs'
  obtain ⟨_, horigin⟩ := hwrite.session_origin
  rcases horigin s' hs' with hold | ⟨draws, hdraws, -, -, ⟨s, hs, hsid, -⟩ | ⟨hnew, -⟩⟩
  · exact h s' hold
  · rw [hsid]
    exact h s hs
  · rw [hnew]
    exact hdraw draws hdraws

/-- A law of the tables that every write keeps that does not draw the value holds after every run
that does not draw it. -/
lemma run_of_not_drawn {I : AuthDb → Prop} {f : Draws → String} {x : String}
    (hwrite : ∀ {now : Time} {draws? : Option Draws} {db t : AuthDb}, I db →
      TokenWrite settings crypto now draws? db t → (∀ draws ∈ draws?, f draws ≠ x) → I t)
    {st : AuthState} (h : I st.world.db) {actions : List ServiceAction}
    (hx : x ∉ drawnValues f actions) :
    I (run (serviceStep settings crypto) st actions).world.db := by
  refine run_induction (I := fun st : AuthState => I st.world.db)
    (G := fun _ (a : ServiceAction) => ∀ draws ∈ a.request.draws?, f draws ≠ x)
    (fun st a hst hdraw => ?_) h ?_
  · exact hwrite hst (serve_tokens _ _ _ st.world a.request) hdraw
  · refine EachStep.of_mem (H := fun a : ServiceAction => ∀ draws ∈ a.request.draws?, f draws ≠ x)
      ?_ st
    intro a ha draws hdraws heq
    exact hx (List.mem_filterMap.mpr ⟨a, ha, Option.map_eq_some_iff.mpr ⟨draws, hdraws, heq⟩⟩)

/-- What a run from empty tables has issued: a hash or a session id that some request drew, each
of one user. -/
structure IssuedByRun (hashes ids : List String) (db : AuthDb) : Prop where
  hash_drawn : ∀ r ∈ db.refreshTokens, r.tokenHash ∈ hashes
  hash_owner : ∀ r ∈ db.refreshTokens, HashOwner r.tokenHash r.userId db
  session_drawn : ∀ s ∈ db.sessions, s.id ∈ ids
  session_owner : ∀ s ∈ db.sessions, SessionOwner s.id s.userId db

lemma drawnValues_concat (f : Draws → String) (actions : List ServiceAction) (a : ServiceAction) :
    drawnValues f (actions ++ [a]) = drawnValues f actions ++ (a.request.draws?.map f).toList := by
  rw [drawnValues, List.filterMap_append]
  cases hdraws : a.request.draws? with
  | none => simp [drawnValues, hdraws]
  | some draws => simp [drawnValues, hdraws]

/-- A request draws what is new where a run draws nothing twice. -/
lemma notMem_of_nodup {f : Draws → String} {actions : List ServiceAction} {a : ServiceAction}
    (h : (drawnValues f (actions ++ [a])).Nodup) :
    ∀ draws ∈ a.request.draws?, f draws ∉ drawnValues f actions := by
  intro draws hdraws hmem
  rw [drawnValues_concat, List.nodup_append] at h
  refine h.2.2 (f draws) hmem (f draws) ?_ rfl
  rw [Option.mem_def.mp hdraws]
  simp

/-- One more request keeps it, where it draws what is new. -/
lemma IssuedByRun.write {hashes ids : List String} (h : IssuedByRun hashes ids db)
    (hwrite : TokenWrite settings crypto now draws? db t)
    (hhash : ∀ draws ∈ draws?, drawnHash crypto draws ∉ hashes)
    (hid : ∀ draws ∈ draws?, draws.sessionId ∉ ids) :
    IssuedByRun (hashes ++ (draws?.map (drawnHash crypto)).toList)
      (ids ++ (draws?.map Draws.sessionId).toList) t := by
  obtain ⟨owner, htokens⟩ := hwrite.token_origin
  obtain ⟨opener, hsessions⟩ := hwrite.session_origin
  -- the rows that are not new have a hash, or an id, that was drawn before
  have hold : ∀ r' ∈ t.refreshTokens, ∀ draws ∈ draws?, r'.tokenHash = drawnHash crypto draws →
      r'.userId = owner := by
    intro r' hr' draws hdraws heq
    rcases htokens r' hr' with ⟨r, hr, hsame⟩ | ⟨_, _, _, huser⟩
    · exact absurd (heq ▸ hsame.hash ▸ h.hash_drawn r hr) (hhash draws hdraws)
    · exact huser
  have hopened : ∀ s' ∈ t.sessions, ∀ draws ∈ draws?, s'.id = draws.sessionId →
      s'.userId = opener := by
    intro s' hs' draws hdraws heq
    rcases hsessions s' hs' with hmem | ⟨_, _, _, _, ⟨s, hs, hsid, _⟩ | ⟨_, huser⟩⟩
    · exact absurd (heq ▸ h.session_drawn s' hmem) (hid draws hdraws)
    · exact absurd (heq ▸ hsid ▸ h.session_drawn s hs) (hid draws hdraws)
    · exact huser
  constructor
  · intro r' hr'
    rcases htokens r' hr' with ⟨r, hr, hsame⟩ | ⟨draws, hdraws, hnew, -⟩
    · exact List.mem_append_left _ (hsame.hash ▸ h.hash_drawn r hr)
    · refine List.mem_append_right _ ?_
      rw [hdraws, hnew.hash]
      simp [drawnHash]
  · intro r' hr'
    rcases htokens r' hr' with ⟨r, hr, hsame⟩ | ⟨draws, hdraws, hnew, huser⟩
    · rw [hsame.hash, hsame.user]
      refine (h.hash_owner r hr).write hwrite fun draws hdraws heq => ?_
      have hdrawn : drawnHash crypto draws = r.tokenHash := heq
      exact hhash draws hdraws (hdrawn ▸ h.hash_drawn r hr)
    · intro q' hq' heq
      rw [huser]
      exact hold q' hq' draws hdraws (heq.trans hnew.hash)
  · intro s' hs'
    rcases hsessions s' hs' with hmem | ⟨draws, hdraws, -, -, ⟨s, hs, hsid, -⟩ | ⟨hnew, -⟩⟩
    · exact List.mem_append_left _ (h.session_drawn s' hmem)
    · exact List.mem_append_left _ (hsid ▸ h.session_drawn s hs)
    · refine List.mem_append_right _ ?_
      rw [hdraws, hnew]
      simp
  · intro s' hs'
    have howned : ∀ s ∈ db.sessions, SessionOwner s.id s.userId t := fun s hs =>
      (h.session_owner s hs).write hwrite fun draws hdraws heq =>
        hid draws hdraws (heq ▸ h.session_drawn s hs)
    rcases hsessions s' hs' with hmem | ⟨draws, hdraws, -, -, ⟨s, hs, hsid, huser⟩ | ⟨hnew, huser⟩⟩
    · exact howned s' hmem
    · rw [hsid, huser]
      exact howned s hs
    · intro q' hq' heq
      rw [huser]
      exact hopened q' hq' draws hdraws (heq.trans hnew)

/-- No token, no session and no reset token. -/
structure NothingIssued (db : AuthDb) : Prop where
  refreshTokens : db.refreshTokens = []
  sessions : db.sessions = []
  resetTokens : db.passwordResetTokens = []

/-- No two requests of a run draw one token hash or one session id. -/
structure DistinctDraws (crypto : Crypto) (actions : List ServiceAction) : Prop where
  hashes : (drawnValues (drawnHash crypto) actions).Nodup
  sessions : (drawnValues Draws.sessionId actions).Nodup

lemma drawnValues_append (f : Draws → String) (as bs : List ServiceAction) :
    drawnValues f (as ++ bs) = drawnValues f as ++ drawnValues f bs :=
  List.filterMap_append

lemma DistinctDraws.left {as bs : List ServiceAction} (h : DistinctDraws crypto (as ++ bs)) :
    DistinctDraws crypto as where
  hashes := by
    have hall := h.hashes
    rw [drawnValues_append] at hall
    exact hall.of_append_left
  sessions := by
    have hall := h.sessions
    rw [drawnValues_append] at hall
    exact hall.of_append_left

lemma issuedByRun_run {st : AuthState} (hempty : NothingIssued st.world.db)
    {actions : List ServiceAction} (hdraws : DistinctDraws crypto actions) :
    IssuedByRun (drawnValues (drawnHash crypto) actions) (drawnValues Draws.sessionId actions)
      (run (serviceStep settings crypto) st actions).world.db := by
  induction actions using List.reverseRecOn with
  | nil =>
      constructor
      · simp [hempty.refreshTokens]
      · simp [hempty.refreshTokens]
      · simp [hempty.sessions]
      · simp [hempty.sessions]
  | append_singleton actions a ih =>
      rw [run_concat, drawnValues_concat, drawnValues_concat]
      exact (ih hdraws.left).write (serve_tokens _ _ _ _ a.request)
        (notMem_of_nodup hdraws.hashes) (notMem_of_nodup hdraws.sessions)

/-! ### A reset works once and ends what was issued before it -/

/-- `reset_password` goes on with the row for some raw token. -/
def AcceptsRow (crypto : Crypto) (now : Time) (db : AuthDb) (p : PasswordResetToken) : Prop :=
  ∃ raw, (Tx.exec (loadResetToken crypto now raw) db).1 = .ok p

/-- The action is a reset with a raw token, it succeeds, and the token is the user's. -/
def ResetsWith (crypto : Crypto) (raw userId : String) (st : AuthState) (a : ServiceAction) : Prop :=
  ∃ password h p, a.request = .auth (.resetPassword ⟨raw, password⟩) h ∧
    (getDb (resetPassword crypto (a.arrival st) ⟨raw, password⟩) st.world.db).1 = .ok () ∧
    (Tx.exec (loadResetToken crypto (a.arrival st) raw) st.world.db).1 = .ok p ∧ p.userId = userId

lemma serve_resetsWith {raw userId : String} {st : AuthState} {a : ServiceAction}
    (h : ResetsWith crypto raw userId st a) :
    ∃ p, (Tx.exec (loadResetToken crypto (a.arrival st) raw) st.world.db).1 = .ok p ∧
      (serviceStep settings crypto st a).world.db.passwordResetTokens
        = updateByKey PasswordResetToken.id p.id (spentToken (a.arrival st))
          st.world.db.passwordResetTokens ∧
      (serviceStep settings crypto st a).world.db.refreshTokens
        = (st.world.db.revokeWhere fun u => u.userId = userId).refreshTokens ∧
      (serviceStep settings crypto st a).world.db.sessions
        = (st.world.db.deleteSessions fun s => s.userId = userId).sessions := by
  obtain ⟨password, hframe, p, hrequest, hok, hload, rfl⟩ := h
  have hstep : (serviceStep settings crypto st a).world.db
      = (getDb (resetPassword crypto (a.arrival st) ⟨raw, password⟩) st.world.db).2 := by
    rw [serviceStep, hrequest]
    rfl
  obtain ⟨q, hq, hresets, htokens, hsessions, -⟩ :=
    exec_resetPassword_ok (Tx.exec_of_commit_ok (Prod.ext hok rfl))
  obtain rfl : p = q := by
    rw [hload] at hq
    exact Except.ok.inj hq
  rw [hstep]
  exact ⟨p, hload, hresets, htokens, hsessions⟩

/-- **A reset spends its raw token.** -/
lemma spentHash_of_resetsWith {raw userId : String} {st : AuthState} {a : ServiceAction}
    (h : ResetsWith crypto raw userId st a) :
    SpentHash (crypto.hashToken raw)
      (serviceStep settings crypto st a).world.db.passwordResetTokens := by
  obtain ⟨p, hload, hresets, -, -⟩ := @serve_resetsWith settings crypto raw userId st a h
  obtain ⟨-, hfound, -⟩ := exec_loadResetToken_ok (Prod.ext hload rfl)
  have hkey := List.find?_some hfound
  refine ⟨spentToken (a.arrival st) p, ?_, of_decide_eq_true hkey, by simp [spentToken]⟩
  rw [hresets]
  exact (mem_updateByKey _).mpr ⟨p, List.mem_of_find?_eq_some hfound, if_pos rfl⟩

/-- **A reset ends what its user has.** -/
lemma dead_of_resetsWith {raw userId : String} {st : AuthState} {a : ServiceAction}
    (h : ResetsWith crypto raw userId st a) :
    (∀ hash, HashOwner hash userId st.world.db →
      HashDead hash (serviceStep settings crypto st a).world.db) ∧
    ∀ id, SessionOwner id userId st.world.db →
      SessionGone id (serviceStep settings crypto st a).world.db := by
  obtain ⟨p, -, -, htokens, hsessions⟩ := @serve_resetsWith settings crypto raw userId st a h
  constructor
  · intro hash howner r' hr' hhash
    rw [htokens, AuthDb.mem_revokeWhere] at hr'
    obtain ⟨r, hr, rfl⟩ := hr'
    by_cases huser : r.userId = userId
    · rw [if_pos (decide_eq_true huser)]
    · rw [if_neg (by simpa using huser)] at hhash
      exact absurd (howner r hr hhash) huser
  · intro id howner s hs hid
    rw [hsessions] at hs
    obtain ⟨hmem, hkept⟩ := List.mem_filter.mp hs
    simp [howner s hmem hid] at hkept

/-- **Password reset is single-use and total** along a run. -/
structure ResetLaw (settings : Settings) (crypto : Crypto) (st : AuthState)
    (actions : List ServiceAction) : Prop where
  /-- No user has two tokens that a reset would accept. -/
  one_accepted : ∀ as, as <+: actions → ∀ now p q,
    AcceptsRow crypto now (run (serviceStep settings crypto) st as).world.db p →
    AcceptsRow crypto now (run (serviceStep settings crypto) st as).world.db q →
    p.userId = q.userId → p = q
  /-- No raw token is accepted twice. -/
  accepted_once : ∀ as a bs b, as ++ a :: (bs ++ [b]) <+: actions → ∀ raw userId userId',
    ResetsWith crypto raw userId (run (serviceStep settings crypto) st as) a →
    ¬ ResetsWith crypto raw userId' (run (serviceStep settings crypto) st (as ++ a :: bs)) b
  /-- After a reset no refresh token that its user had at any time before it is accepted. -/
  ends_tokens : ∀ as bs a cs, as ++ bs ++ a :: cs <+: actions → ∀ raw userId,
    ResetsWith crypto raw userId (run (serviceStep settings crypto) st (as ++ bs)) a →
    ∀ r ∈ (run (serviceStep settings crypto) st as).world.db.refreshTokens, r.userId = userId →
      ∀ now draws presented resp, crypto.hashToken presented = r.tokenHash →
        (getDb (refreshTokens settings crypto now draws presented)
          (run (serviceStep settings crypto) st (as ++ bs ++ a :: cs)).world.db).1 ≠ .ok resp
  /-- After a reset no session that its user had at any time before it is left. -/
  ends_sessions : ∀ as bs a cs, as ++ bs ++ a :: cs <+: actions → ∀ raw userId,
    ResetsWith crypto raw userId (run (serviceStep settings crypto) st (as ++ bs)) a →
    ∀ s ∈ (run (serviceStep settings crypto) st as).world.db.sessions, s.userId = userId →
      ∀ s' ∈ (run (serviceStep settings crypto) st (as ++ bs ++ a :: cs)).world.db.sessions,
        s'.id ≠ s.id

lemma oneUnused_run {st : AuthState} (hempty : NothingIssued st.world.db)
    (actions : List ServiceAction) :
    OneUnused (run (serviceStep settings crypto) st actions).world.db.passwordResetTokens := by
  refine run_invariant (I := fun st : AuthState => OneUnused st.world.db.passwordResetTokens)
    (fun st a h => oneUnused_step st a h) actions ?_
  rw [hempty.resetTokens]
  exact ⟨⟨List.nodup_nil, List.nodup_nil⟩, by simp⟩

/-- What a run has drawn it does not draw again. -/
lemma notMem_later {f : Draws → String} {x : String} {as bs cs : List ServiceAction}
    {a : ServiceAction} (hnodup : (drawnValues f (as ++ bs ++ a :: cs)).Nodup)
    (hx : x ∈ drawnValues f as) : x ∉ drawnValues f bs ∧ x ∉ drawnValues f cs := by
  have hsplit : drawnValues f (as ++ bs ++ a :: cs)
      = drawnValues f as ++ (drawnValues f bs ++ (drawnValues f [a] ++ drawnValues f cs)) := by
    rw [← drawnValues_append, ← drawnValues_append, ← drawnValues_append, List.singleton_append,
      List.append_assoc]
  rw [hsplit, List.nodup_append] at hnodup
  have hnew : ∀ l ⊆ drawnValues f bs ++ (drawnValues f [a] ++ drawnValues f cs), x ∉ l :=
    fun l hl hmem => hnodup.2.2 x hx x (hl hmem) rfl
  refine ⟨hnew _ (List.subset_append_left _ _), hnew _ ?_⟩
  exact List.subset_append_of_subset_right _ (List.subset_append_right _ _)

/-- The refresh tokens from before a reset are dead after it. -/
lemma hashDead_after {st : AuthState} (hempty : NothingIssued st.world.db)
    {as bs cs : List ServiceAction} {a : ServiceAction} {raw userId : String}
    (hdraws : DistinctDraws crypto (as ++ bs ++ a :: cs))
    (hreset : ResetsWith crypto raw userId (run (serviceStep settings crypto) st (as ++ bs)) a)
    {r : RefreshToken} (hr : r ∈ (run (serviceStep settings crypto) st as).world.db.refreshTokens)
    (huser : r.userId = userId) :
    HashDead r.tokenHash
      (run (serviceStep settings crypto) st (as ++ bs ++ a :: cs)).world.db := by
  have hissued : IssuedByRun (drawnValues (drawnHash crypto) as) (drawnValues Draws.sessionId as)
      (run (serviceStep settings crypto) st as).world.db := issuedByRun_run hempty hdraws.left.left
  obtain ⟨hbs, hcs⟩ := notMem_later hdraws.hashes (hissued.hash_drawn r hr)
  have howner : HashOwner r.tokenHash userId
      (run (serviceStep settings crypto) st (as ++ bs)).world.db := by
    rw [run_append, ← huser]
    exact run_of_not_drawn (fun h hw hd => HashOwner.write h hw hd) (hissued.hash_owner r hr) hbs
  have hrevoked := (@dead_of_resetsWith settings crypto raw userId _ a hreset).1 _ howner
  rw [run_append, run_cons]
  exact run_of_not_drawn (fun h hw hd => HashDead.write h hw hd) hrevoked hcs

/-- The sessions from before a reset are gone after it. -/
lemma sessionGone_after {st : AuthState} (hempty : NothingIssued st.world.db)
    {as bs cs : List ServiceAction} {a : ServiceAction} {raw userId : String}
    (hdraws : DistinctDraws crypto (as ++ bs ++ a :: cs))
    (hreset : ResetsWith crypto raw userId (run (serviceStep settings crypto) st (as ++ bs)) a)
    {s : Session} (hs : s ∈ (run (serviceStep settings crypto) st as).world.db.sessions)
    (huser : s.userId = userId) :
    SessionGone s.id (run (serviceStep settings crypto) st (as ++ bs ++ a :: cs)).world.db := by
  have hissued : IssuedByRun (drawnValues (drawnHash crypto) as) (drawnValues Draws.sessionId as)
      (run (serviceStep settings crypto) st as).world.db := issuedByRun_run hempty hdraws.left.left
  obtain ⟨hbs, hcs⟩ := notMem_later hdraws.sessions (hissued.session_drawn s hs)
  have howner : SessionOwner s.id userId
      (run (serviceStep settings crypto) st (as ++ bs)).world.db := by
    rw [run_append, ← huser]
    exact run_of_not_drawn (fun h hw hd => SessionOwner.write h hw hd)
      (hissued.session_owner s hs) hbs
  have hdeleted := (@dead_of_resetsWith settings crypto raw userId _ a hreset).2 _ howner
  rw [run_append, run_cons]
  exact run_of_not_drawn (fun h hw hd => SessionGone.write h hw hd) hdeleted hcs

/-- **Password reset is single-use and total** in every run from tables with nothing issued: no user
has two tokens that a reset would accept, no token is accepted twice, and after a reset nothing that
its user was signed in with before is left. -/
theorem password_reset_total {st : AuthState} (hempty : NothingIssued st.world.db)
    {actions : List ServiceAction} (hdraws : DistinctDraws crypto actions) :
    ResetLaw settings crypto st actions where
  one_accepted := by
    rintro as - now p q ⟨raw, hp⟩ ⟨raw', hq⟩ huser
    obtain ⟨-, hpfound, hpunused, -⟩ := exec_loadResetToken_ok (Prod.ext hp rfl)
    obtain ⟨-, hqfound, hqunused, -⟩ := exec_loadResetToken_ok (Prod.ext hq rfl)
    exact (oneUnused_run hempty as).unused p (List.mem_of_find?_eq_some hpfound) q
      (List.mem_of_find?_eq_some hqfound) huser hpunused hqunused
  accepted_once := by
    rintro as a bs b - raw userId userId' hfirst ⟨password, hframe, p, hrequest, hok, hload, huser⟩
    have hspent : SpentHash (crypto.hashToken raw) (run (serviceStep settings crypto) st
        (as ++ a :: bs)).world.db.passwordResetTokens := by
      rw [run_append, run_cons]
      exact run_invariant
        (I := fun st : AuthState => SpentHash (crypto.hashToken raw) st.world.db.passwordResetTokens)
        (fun st b h => h.write (serve_resets st.world b.request)) bs
        (spentHash_of_resetsWith hfirst)
    exact not_accepted_of_spent (oneUnused_run hempty _) hspent hload
  ends_tokens := by
    rintro as bs a cs ⟨rest, hactions⟩ raw userId hreset r hr huser now draws presented resp hhash hok
    have hdead := hashDead_after hempty (hactions ▸ hdraws).left hreset hr huser
    -- what a refresh rotates is not revoked
    obtain ⟨rt, sess, hfound, hlive, -⟩ :=
      exec_refreshTokens_ok (Tx.exec_of_commit_ok (Prod.ext hok rfl))
    have hkey := List.find?_some hfound
    have hrevoked := hdead rt (AuthDb.mem_of_tokenByHash hfound)
      ((of_decide_eq_true hkey).trans hhash)
    rw [hlive] at hrevoked
    cases hrevoked
  ends_sessions := by
    rintro as bs a cs ⟨rest, hactions⟩ raw userId hreset s hs huser
    exact sessionGone_after hempty (hactions ▸ hdraws).left hreset hs huser

end

/-! ### One reset -/

/-- Ann accepts an invitation, asks for a reset and resets her password. -/
def acceptAndReset : List ServiceAction :=
  [⟨0, .auth (.acceptInvite ⟨"f1", "r1", "raw1", "s1", "j1", "", "m1"⟩
    ⟨"one", "Ann", "old pass 1"⟩) trivial⟩,
    ⟨0, .forgotPassword ⟨"p1", "reset1"⟩ "ann@bank.test"⟩,
    ⟨0, .auth (.resetPassword ⟨"reset1", "new pass 1"⟩) trivial⟩]

/-- The third of these requests resets her password. -/
theorem password_reset_total_sample :
    ResetLaw keySettings plainCrypto ⟨{ db := twiceInvitedDb }, 0⟩ acceptAndReset ∧
      ResetsWith plainCrypto "reset1" "u1"
        (run (serviceStep keySettings plainCrypto) ⟨{ db := twiceInvitedDb }, 0⟩
          (acceptAndReset.take 2))
        ⟨0, .auth (.resetPassword ⟨"reset1", "new pass 1"⟩) trivial⟩ := by
  refine ⟨password_reset_total ⟨rfl, rfl, rfl⟩ ⟨by decide, by decide⟩, ?_⟩
  exact ⟨"new pass 1", trivial, _, rfl, rfl, rfl, rfl⟩

end EclServer.Auth
