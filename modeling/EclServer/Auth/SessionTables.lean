import EclServer.Auth.System

/-!
The sessions table and the refresh tokens, over any requests.

* `TablesOk`: what the two tables always satisfy. `SessionsMatch`: every session is of a live
  token of its user, and every live token is of one session.
* `TablesOk.opens`, `.rotates`, `.ends` and `SessionsMatch.opens`, `.rotates`, `.ends_iff`: one
  lemma for each way in which a request writes to the tables.
* `KeepsMatch`: the requests after which the tables still match. All but two always do; a change
  of the password and the purge of old sessions write to one table only.
* `sessions_match_iff`: over every run, the tables match throughout exactly when every step is
  one of those.
-/

namespace EclServer.Auth

open EclServer.Library

/-! ### The tables -/

/-- Ids are primary keys, a session refers to a token, and no two sessions to the same. -/
structure TablesOk (db : AuthDb) : Prop where
  token_ids : (db.refreshTokens.map (·.id)).Nodup
  session_ids : (db.sessions.map (·.id)).Nodup
  session_refs : (db.sessions.map (·.refreshTokenId)).Nodup
  refs_exist : ∀ s ∈ db.sessions, ∃ t ∈ db.refreshTokens, t.id = s.refreshTokenId

/-- **The session list matches the live credentials.** -/
structure SessionsMatch (now : Time) (db : AuthDb) : Prop where
  live : ∀ s ∈ db.sessions, ∃ t ∈ db.refreshTokens,
    t.id = s.refreshTokenId ∧ t.userId = s.userId ∧ t.isRevoked = false
  listed : ∀ t ∈ db.refreshTokens, t.isRevoked = false → now ≤ t.expiresAt →
    (db.sessions.filter fun s => s.refreshTokenId = t.id).length = 1

/-- A token that expires later is not expired earlier. -/
lemma SessionsMatch.mono {now now' : Time} {db : AuthDb} (h : SessionsMatch now db)
    (hle : now ≤ now') : SessionsMatch now' db where
  live := h.live
  listed t ht hlive hexpires := h.listed t ht hlive (hle.trans hexpires)

section

variable {settings : Settings} {crypto : Crypto} {now : Time} {draws : Draws} {db t : AuthDb}

namespace TablesOk

lemma token_eq (h : TablesOk db) {u v : RefreshToken} (hu : u ∈ db.refreshTokens)
    (hv : v ∈ db.refreshTokens) (hid : u.id = v.id) : u = v :=
  List.inj_on_of_nodup_map h.token_ids hu hv hid

lemma session_eq_of_id (h : TablesOk db) {s s' : Session} (hs : s ∈ db.sessions)
    (hs' : s' ∈ db.sessions) (hid : s.id = s'.id) : s = s' :=
  List.inj_on_of_nodup_map h.session_ids hs hs' hid

lemma session_eq_of_ref (h : TablesOk db) {s s' : Session} (hs : s ∈ db.sessions)
    (hs' : s' ∈ db.sessions) (href : s.refreshTokenId = s'.refreshTokenId) : s = s' :=
  List.inj_on_of_nodup_map h.session_refs hs hs' href

/-- The sessions of a token: none, or one. -/
lemma filter_ref (h : TablesOk db) {s : Session} (hs : s ∈ db.sessions) :
    (db.sessions.filter fun s' => s'.refreshTokenId = s.refreshTokenId) = [s] :=
  filter_eq_singleton Session.refreshTokenId h.session_refs hs

end TablesOk

/-- The token of a session, in tables that match. -/
lemma SessionsMatch.token (hok : TablesOk db) (h : SessionsMatch now db) {s : Session}
    (hs : s ∈ db.sessions) {u : RefreshToken} (hu : u ∈ db.refreshTokens)
    (hid : u.id = s.refreshTokenId) : u.userId = s.userId ∧ u.isRevoked = false := by
  obtain ⟨v, hv, hvid, huser, hlive⟩ := h.live s hs
  rw [hok.token_eq hu hv (hid.trans hvid.symm)]
  exact ⟨huser, hlive⟩

/-- The tables depend on the tokens and the sessions only. -/
lemma TablesOk.congr (h : TablesOk db) (htokens : t.refreshTokens = db.refreshTokens)
    (hsessions : t.sessions = db.sessions) : TablesOk t := by
  constructor
  · rw [htokens]
    exact h.token_ids
  · rw [hsessions]
    exact h.session_ids
  · rw [hsessions]
    exact h.session_refs
  · rw [hsessions, htokens]
    exact h.refs_exist

lemma sessionsMatch_congr (htokens : t.refreshTokens = db.refreshTokens)
    (hsessions : t.sessions = db.sessions) : SessionsMatch now t ↔ SessionsMatch now db := by
  constructor
  · rintro ⟨hlive, hlisted⟩
    rw [hsessions, htokens] at hlive
    rw [htokens, hsessions] at hlisted
    exact ⟨hlive, hlisted⟩
  · rintro ⟨hlive, hlisted⟩
    constructor
    · rw [hsessions, htokens]
      exact hlive
    · rw [htokens, hsessions]
      exact hlisted

/-! ### A session is opened -/

/-- The ids a request draws are new. -/
structure FreshIds (db : AuthDb) (draws : Draws) : Prop where
  token : ∀ t ∈ db.refreshTokens, t.id ≠ draws.refreshTokenId
  session : ∀ s ∈ db.sessions, s.id ≠ draws.sessionId

/-- No session refers to a token that is not there yet. -/
lemma FreshIds.ref (h : FreshIds db draws) (hok : TablesOk db) {s : Session}
    (hs : s ∈ db.sessions) : s.refreshTokenId ≠ draws.refreshTokenId := by
  obtain ⟨u, hu, hid⟩ := hok.refs_exist s hs
  exact hid ▸ h.token u hu

lemma nodup_map_concat {α : Type} {key : α → String} {l : List α} {a : α}
    (h : (l.map key).Nodup) (ha : ∀ b ∈ l, key b ≠ key a) : ((l ++ [a]).map key).Nodup := by
  rw [List.map_append, List.nodup_append]
  refine ⟨h, List.nodup_singleton _, ?_⟩
  intro x hx y hy
  obtain ⟨b, hb, rfl⟩ := List.mem_map.mp hx
  rw [List.map_singleton, List.mem_singleton] at hy
  exact hy ▸ ha b hb

lemma TablesOk.opens (h : TablesOk db) (hfresh : FreshIds db draws)
    (hopens : OpensSession now draws db t) : TablesOk t := by
  obtain ⟨⟨token, session, htokens, hsessions, hid, -, hsid, href, -, -⟩, -⟩ := hopens
  constructor
  · rw [htokens]
    exact nodup_map_concat h.token_ids fun u hu => hid ▸ hfresh.token u hu
  · rw [hsessions]
    exact nodup_map_concat h.session_ids fun s hs => hsid ▸ hfresh.session s hs
  · rw [hsessions]
    exact nodup_map_concat h.session_refs fun s hs => href ▸ hfresh.ref h hs
  · intro s hs
    rw [hsessions, List.mem_append, List.mem_singleton] at hs
    rw [htokens]
    rcases hs with hs | rfl
    · obtain ⟨u, hu, huid⟩ := h.refs_exist s hs
      exact ⟨u, List.mem_append_left _ hu, huid⟩
    · exact ⟨token, List.mem_append_right _ (List.mem_singleton_self _), hid.trans href.symm⟩

lemma SessionsMatch.opens (hok : TablesOk db) (h : SessionsMatch now db)
    (hfresh : FreshIds db draws) (hopens : OpensSession now draws db t) : SessionsMatch now t := by
  obtain ⟨⟨token, session, htokens, hsessions, hid, hlive, -, href, huser, -⟩, -⟩ := hopens
  constructor
  · intro s hs
    rw [hsessions, List.mem_append, List.mem_singleton] at hs
    rw [htokens]
    rcases hs with hs | rfl
    · obtain ⟨u, hu, hrest⟩ := h.live s hs
      exact ⟨u, List.mem_append_left _ hu, hrest⟩
    · exact ⟨token, List.mem_append_right _ (List.mem_singleton_self _), hid.trans href.symm,
        huser.symm, hlive⟩
  · intro u hu hulive hexpires
    rw [htokens, List.mem_append, List.mem_singleton] at hu
    rw [hsessions, List.filter_append, List.length_append]
    rcases hu with hu | rfl
    · have hother : session.refreshTokenId ≠ u.id := by
        rw [href]
        exact (hfresh.token u hu).symm
      simp [h.listed u hu hulive hexpires, hother]
    · have hnone : (db.sessions.filter fun s => s.refreshTokenId = u.id) = [] := by
        refine List.filter_eq_nil_iff.mpr fun s hs => ?_
        simpa [hid] using hfresh.ref hok hs
      rw [hnone]
      simp [href, hid]

/-! ### Sessions are ended -/

/-- A kept row of a table whose rows may be revoked. -/
lemma mem_revokeWhere_of_not {p : RefreshToken → Bool} {u : RefreshToken}
    (hu : u ∈ db.refreshTokens) (hp : p u = false) : u ∈ (db.revokeWhere p).refreshTokens :=
  AuthDb.mem_revokeWhere.mpr ⟨u, hu, by simp [hp]⟩

/-- A row that is not revoked afterwards was not revoked, and not to be. -/
lemma of_mem_revokeWhere {p : RefreshToken → Bool} {u : RefreshToken}
    (hu : u ∈ (db.revokeWhere p).refreshTokens) (hlive : u.isRevoked = false) :
    u ∈ db.refreshTokens ∧ p u = false := by
  obtain ⟨v, hv, rfl⟩ := AuthDb.mem_revokeWhere.mp hu
  by_cases hp : p v = true
  · rw [if_pos hp] at hlive
    cases hlive
  · rw [if_neg hp]
    exact ⟨hv, by simpa using hp⟩

lemma mem_deleteSessions {q : Session → Bool} {s : Session} :
    s ∈ (db.deleteSessions q).sessions ↔ s ∈ db.sessions ∧ q s = false := by
  simp [AuthDb.deleteSessions]

variable {p : RefreshToken → Bool} {q : Session → Bool}

lemma TablesOk.ends (h : TablesOk db) (hends : EndsSessions p q db t) : TablesOk t := by
  have hids : t.refreshTokens.map (·.id) = db.refreshTokens.map (·.id) := by
    rw [hends.tokens, AuthDb.revokeWhere, List.map_map]
    refine List.map_congr_left fun u _ => ?_
    by_cases hp : p u = true <;> simp [hp]
  have hsub : t.sessions.Sublist db.sessions := by
    rw [hends.sessions]
    exact List.filter_sublist
  constructor
  · rw [hids]
    exact h.token_ids
  · exact h.session_ids.sublist (hsub.map _)
  · exact h.session_refs.sublist (hsub.map _)
  · intro s hs
    obtain ⟨u, hu, hid⟩ := h.refs_exist s (hsub.subset hs)
    have hmem : s.refreshTokenId ∈ t.refreshTokens.map (·.id) :=
      hids ▸ hid ▸ List.mem_map_of_mem hu
    obtain ⟨v, hv, hvid⟩ := List.mem_map.mp hmem
    exact ⟨v, hv, hvid⟩

/-- **Ending sessions** keeps the match exactly when no session is left without its token, and no
live token without its session. -/
lemma SessionsMatch.ends_iff (hok : TablesOk db) (h : SessionsMatch now db)
    (hends : EndsSessions p q db t) :
    SessionsMatch now t ↔
      (∀ s ∈ db.sessions, q s = false → ∀ u ∈ db.refreshTokens, u.id = s.refreshTokenId →
        p u = false) ∧
      ∀ s ∈ db.sessions, q s = true → ∀ u ∈ db.refreshTokens, u.id = s.refreshTokenId →
        p u = true ∨ u.expiresAt < now := by
  have hafter := hok.ends hends
  constructor
  · intro hmatch
    constructor
    · intro s hs hq u hu hid
      have hs' : s ∈ t.sessions := hends.sessions ▸ mem_deleteSessions.mpr ⟨hs, hq⟩
      obtain ⟨v, hv, hvid, -, hlive⟩ := hmatch.live s hs'
      rw [hends.tokens] at hv
      obtain ⟨hvmem, hp⟩ := of_mem_revokeWhere hv hlive
      rwa [hok.token_eq hu hvmem (hid.trans hvid.symm)]
    · intro s hs hq u hu hid
      by_contra hneither
      push Not at hneither
      obtain ⟨hp, hexpires⟩ := hneither
      have hlive := (h.token hok hs hu hid).2
      have hu' : u ∈ t.refreshTokens :=
        hends.tokens ▸ mem_revokeWhere_of_not hu (by simpa using hp)
      have hone := hmatch.listed u hu' hlive hexpires
      -- its only session is the deleted one
      obtain ⟨s', hs'⟩ := List.length_eq_one_iff.mp hone
      have hmem : s' ∈ t.sessions.filter fun s => s.refreshTokenId = u.id := by
        rw [hs']
        exact List.mem_singleton_self _
      obtain ⟨hkept, href⟩ := List.mem_filter.mp hmem
      rw [hends.sessions, mem_deleteSessions] at hkept
      have hsame : s' = s :=
        hok.session_eq_of_ref hkept.1 hs ((of_decide_eq_true href).trans hid)
      rw [hsame, hq] at hkept
      cases hkept.2
  · rintro ⟨hkept, hdeleted⟩
    constructor
    · intro s hs
      rw [hends.sessions, mem_deleteSessions] at hs
      obtain ⟨u, hu, hid, huser, hlive⟩ := h.live s hs.1
      refine ⟨u, ?_, hid, huser, hlive⟩
      rw [hends.tokens]
      exact mem_revokeWhere_of_not hu (hkept s hs.1 hs.2 u hu hid)
    · intro u hu hlive hexpires
      rw [hends.tokens] at hu
      obtain ⟨hmem, hp⟩ := of_mem_revokeWhere hu hlive
      obtain ⟨s, hs⟩ := List.length_eq_one_iff.mp (h.listed u hmem hlive hexpires)
      have hsession : s ∈ db.sessions.filter fun s => s.refreshTokenId = u.id := by
        rw [hs]
        exact List.mem_singleton_self _
      obtain ⟨hsmem, href⟩ := List.mem_filter.mp hsession
      have hid : u.id = s.refreshTokenId := (of_decide_eq_true href).symm
      have hq : q s = false := by
        by_contra hgone
        rcases hdeleted s hsmem (by simpa using hgone) u hmem hid with hrevoked | hexpired
        · rw [hp] at hrevoked
          cases hrevoked
        · exact absurd hexpires (not_le.mpr hexpired)
      have hs' : s ∈ t.sessions := hends.sessions ▸ mem_deleteSessions.mpr ⟨hsmem, hq⟩
      rw [hid, hafter.filter_ref hs']
      rfl

/-- Sessions and their tokens end together. -/
lemma SessionsMatch.ends (hok : TablesOk db) (h : SessionsMatch now db)
    (hends : EndsSessions p q db t)
    (hboth : ∀ s ∈ db.sessions, ∀ u ∈ db.refreshTokens, u.id = s.refreshTokenId →
      u.userId = s.userId → u.isRevoked = false → p u = q s) : SessionsMatch now t := by
  refine (h.ends_iff hok hends).mpr ⟨?_, ?_⟩
  · intro s hs hq u hu hid
    obtain ⟨huser, hlive⟩ := h.token hok hs hu hid
    rw [hboth s hs u hu hid huser hlive, hq]
  · intro s hs hq u hu hid
    obtain ⟨huser, hlive⟩ := h.token hok hs hu hid
    exact Or.inl (by rw [hboth s hs u hu hid huser hlive, hq])

/-! ### A token is rotated -/

variable {rt : RefreshToken} {sess : Option Session}

/-- The session of the spent token. -/
def movedSession (now : Time) (draws : Draws) (s : Session) : Session :=
  { s with refreshTokenId := draws.refreshTokenId, lastActiveAt := now }

lemma sessions_rotate_some {s : Session} :
    (rotate settings crypto now draws rt (some s) db).sessions
      = updateByKey Session.id s.id (movedSession now draws) db.sessions :=
  rfl

/-- The sessions after a rotation: one of them may have moved to the successor. -/
lemma mem_sessions_rotate (hok : TablesOk db) {s₀ s : Session} (hs₀ : s₀ ∈ db.sessions) :
    s ∈ (rotate settings crypto now draws rt (some s₀) db).sessions
      ↔ s = movedSession now draws s₀ ∨ (s ∈ db.sessions ∧ s ≠ s₀) := by
  rw [sessions_rotate_some, mem_updateByKey]
  constructor
  · rintro ⟨s', hs', rfl⟩
    by_cases hid : s'.id = s₀.id
    · rw [if_pos hid, hok.session_eq_of_id hs' hs₀ hid]
      exact Or.inl rfl
    · rw [if_neg hid]
      exact Or.inr ⟨hs', fun heq => hid (congrArg Session.id heq)⟩
  · rintro (rfl | ⟨hs, hne⟩)
    · exact ⟨s₀, hs₀, if_pos rfl⟩
    · exact ⟨s, hs, if_neg fun hid => hne (hok.session_eq_of_id hs hs₀ hid)⟩

lemma TablesOk.rotates (h : TablesOk db) (hfresh : FreshIds db draws)
    (hsess : ∀ s ∈ sess, s ∈ db.sessions) :
    TablesOk (rotate settings crypto now draws rt sess db) := by
  have hids : (rotate settings crypto now draws rt sess db).refreshTokens.map (·.id)
      = db.refreshTokens.map (·.id) ++ [draws.refreshTokenId] := by
    rw [rotate, refreshTokens_moveSession]
    simp only [addSuccessor, spendToken, AuthDb.updateRefreshToken, List.map_append]
    refine congrArg₂ (· ++ ·) ?_ rfl
    refine map_updateByKey RefreshToken.id ?_ db.refreshTokens
    exact fun _ => rfl
  have htokens : ((rotate settings crypto now draws rt sess db).refreshTokens.map (·.id)).Nodup := by
    rw [hids, List.nodup_append]
    refine ⟨h.token_ids, List.nodup_singleton _, ?_⟩
    intro x hx y hy
    obtain ⟨u, hu, rfl⟩ := List.mem_map.mp hx
    rw [List.mem_singleton.mp hy]
    exact hfresh.token u hu
  have hnew : ∃ u ∈ (rotate settings crypto now draws rt sess db).refreshTokens,
      u.id = draws.refreshTokenId :=
    ⟨_, mem_refreshTokens_rotate.mpr (Or.inr rfl), rfl⟩
  have hold : ∀ s ∈ db.sessions, ∃ u ∈ (rotate settings crypto now draws rt sess db).refreshTokens,
      u.id = s.refreshTokenId := by
    intro s hs
    obtain ⟨u, hu, hid⟩ := h.refs_exist s hs
    have hmem : u.id ∈ (rotate settings crypto now draws rt sess db).refreshTokens.map (·.id) := by
      rw [hids]
      exact List.mem_append_left _ (List.mem_map_of_mem hu)
    obtain ⟨v, hv, hvid⟩ := List.mem_map.mp hmem
    exact ⟨v, hv, hvid.trans hid⟩
  -- where no session is found, the token is rotated and the sessions stay
  cases sess with
  | none => exact ⟨htokens, h.session_ids, h.session_refs, hold⟩
  | some s₀ =>
      have hs₀ : s₀ ∈ db.sessions := hsess s₀ rfl
      have hsessionIds : ((rotate settings crypto now draws rt (some s₀) db).sessions.map
          (·.id)).Nodup := by
        have hsame : (updateByKey Session.id s₀.id (movedSession now draws) db.sessions).map
            Session.id = db.sessions.map Session.id := by
          refine map_updateByKey Session.id ?_ db.sessions
          exact fun _ => rfl
        rw [sessions_rotate_some]
        exact hsame ▸ h.session_ids
      refine ⟨htokens, hsessionIds, ?_, ?_⟩
      · refine List.Nodup.map_on ?_ (List.Nodup.of_map _ hsessionIds)
        intro s hs s' hs' href
        rcases (mem_sessions_rotate h hs₀).mp hs with rfl | ⟨hs, hne⟩ <;>
          rcases (mem_sessions_rotate h hs₀).mp hs' with rfl | ⟨hs', hne'⟩
        · rfl
        · exact absurd href.symm (hfresh.ref h hs')
        · exact absurd href (hfresh.ref h hs)
        · exact h.session_eq_of_ref hs hs' href
      · intro s hs
        rcases (mem_sessions_rotate h hs₀).mp hs with rfl | ⟨hs, -⟩
        · exact hnew
        · exact hold s hs

lemma SessionsMatch.rotates (hok : TablesOk db) (h : SessionsMatch now db)
    (hfresh : FreshIds db draws) (hrt : rt ∈ db.refreshTokens) (hlive : rt.isRevoked = false)
    (hexpires : now ≤ rt.expiresAt)
    (hsess : (db.sessions.filter fun s => s.refreshTokenId = rt.id) = sess.toList) :
    SessionsMatch now (rotate settings crypto now draws rt sess db) := by
  -- the token is live, so it has a session
  obtain ⟨s₀, hs₀⟩ := List.length_eq_one_iff.mp (h.listed rt hrt hlive hexpires)
  obtain rfl : sess = some s₀ := by
    rw [hs₀] at hsess
    cases sess with
    | none => simp at hsess
    | some s =>
        simp only [Option.toList_some, List.cons.injEq, and_true] at hsess
        rw [hsess]
  have hmem₀ : s₀ ∈ db.sessions.filter fun s => s.refreshTokenId = rt.id := by
    rw [hs₀]
    exact List.mem_singleton_self _
  obtain ⟨hs₀mem, href₀⟩ := List.mem_filter.mp hmem₀
  have href : s₀.refreshTokenId = rt.id := of_decide_eq_true href₀
  have huser : rt.userId = s₀.userId := (h.token hok hs₀mem hrt href.symm).1
  have hafter : TablesOk (rotate settings crypto now draws rt (some s₀) db) :=
    hok.rotates hfresh fun s hs => Option.mem_some_iff.mp hs ▸ hs₀mem
  have hmoved : movedSession now draws s₀
      ∈ (rotate settings crypto now draws rt (some s₀) db).sessions :=
    (mem_sessions_rotate hok hs₀mem).mpr (Or.inl rfl)
  constructor
  · intro s hs
    rcases (mem_sessions_rotate hok hs₀mem).mp hs with rfl | ⟨hs, hne⟩
    · exact ⟨_, mem_refreshTokens_rotate.mpr (Or.inr rfl), rfl, huser, rfl⟩
    · obtain ⟨u, hu, hid, huuser, hulive⟩ := h.live s hs
      have hother : u.id ≠ rt.id := by
        intro hsame
        exact hne (hok.session_eq_of_ref hs hs₀mem (by rw [← hid, hsame, href]))
      exact ⟨u, mem_refreshTokens_rotate.mpr (Or.inl ⟨u, hu, if_neg hother⟩), hid, huuser, hulive⟩
  · intro u hu hulive huexpires
    rcases mem_refreshTokens_rotate.mp hu with ⟨v, hv, rfl⟩ | rfl
    · by_cases hid : v.id = rt.id
      · rw [if_pos hid] at hulive
        cases hulive
      · rw [if_neg hid] at hulive huexpires ⊢
        obtain ⟨s, hs⟩ := List.length_eq_one_iff.mp (h.listed v hv hulive huexpires)
        have hsmem : s ∈ db.sessions.filter fun s => s.refreshTokenId = v.id := by
          rw [hs]
          exact List.mem_singleton_self _
        obtain ⟨hsold, hsref⟩ := List.mem_filter.mp hsmem
        have hvid : s.refreshTokenId = v.id := of_decide_eq_true hsref
        have hkept : s ∈ (rotate settings crypto now draws rt (some s₀) db).sessions := by
          refine (mem_sessions_rotate hok hs₀mem).mpr (Or.inr ⟨hsold, ?_⟩)
          rintro rfl
          exact hid (hvid.symm.trans href)
        rw [← hvid, hafter.filter_ref hkept]
        rfl
    · have hone := hafter.filter_ref hmoved
      change ((rotate settings crypto now draws rt (some s₀) db).sessions.filter fun s =>
        s.refreshTokenId = (movedSession now draws s₀).refreshTokenId).length = 1
      rw [hone]
      rfl

/-! ### What the requests write -/

/-- What a request writes to the two tables. -/
inductive TableWrite (now : Time) (draws? : Option Draws) (db t : AuthDb) : Prop
  | same (htokens : t.refreshTokens = db.refreshTokens) (hsessions : t.sessions = db.sessions)
  | opens {draws : Draws} (hdraws : draws? = some draws) (h : OpensSession now draws db t)
  | rotates {settings : Settings} {crypto : Crypto} {draws : Draws} {rt : RefreshToken}
      {sess : Option Session} (hdraws : draws? = some draws) (hrt : rt ∈ db.refreshTokens)
      (hlive : rt.isRevoked = false) (hexpires : now ≤ rt.expiresAt)
      (hsess : (db.sessions.filter fun s => s.refreshTokenId = rt.id) = sess.toList)
      (ht : t = rotate settings crypto now draws rt sess db)
  | ends {p : RefreshToken → Bool} {q : Session → Bool} (h : EndsSessions p q db t)
      (hboth : ∀ s ∈ db.sessions, ∀ u ∈ db.refreshTokens, u.id = s.refreshTokenId →
        u.userId = s.userId → u.isRevoked = false → p u = q s)

namespace TableWrite

variable {draws? : Option Draws}

lemma of_same (h : SameTokens db t) : TableWrite now draws? db t :=
  .same h.tokens h.sessions

/-- **The tables stay in order.** -/
lemma tablesOk (h : TableWrite now draws? db t) (hok : TablesOk db)
    (hfresh : ∀ draws ∈ draws?, FreshIds db draws) : TablesOk t := by
  cases h with
  | same htokens hsessions => exact hok.congr htokens hsessions
  | opens hdraws h => exact hok.opens (hfresh _ hdraws) h
  | rotates hdraws hrt hlive hexpires hsess ht =>
      subst ht
      refine hok.rotates (hfresh _ hdraws) fun s hs => ?_
      have hmem : s ∈ Option.toList _ := Option.mem_toList.mpr hs
      rw [← hsess] at hmem
      exact (List.mem_filter.mp hmem).1
  | ends h hboth => exact hok.ends h

/-- **The tables go on matching.** -/
lemma sessionsMatch (h : TableWrite now draws? db t) (hok : TablesOk db)
    (hfresh : ∀ draws ∈ draws?, FreshIds db draws) (hmatch : SessionsMatch now db) :
    SessionsMatch now t := by
  cases h with
  | same htokens hsessions => exact (sessionsMatch_congr htokens hsessions).mpr hmatch
  | opens hdraws h => exact hmatch.opens hok (hfresh _ hdraws) h
  | rotates hdraws hrt hlive hexpires hsess ht =>
      subst ht
      exact hmatch.rotates hok (hfresh _ hdraws) hrt hlive hexpires hsess
  | ends h hboth => exact hmatch.ends hok h hboth

end TableWrite

lemma write_refreshTokens {rawRefresh : String} {resp : AuthResponse}
    (h : Tx.exec (refreshTokens settings crypto now draws rawRefresh) db = (.ok resp, t)) :
    TableWrite now (some draws) db t := by
  obtain ⟨rt, found, sess, hload, -, hsess, -, ht⟩ := exec_refreshTokens_reads h
  obtain ⟨-, hrt, hlive, hexpires⟩ := exec_loadToken_ok (Prod.ext hload rfl)
  obtain ⟨-, hfilter⟩ := exec_loadSession_ok (Prod.ext hsess rfl)
  exact .rotates rfl (AuthDb.mem_of_tokenByHash hrt) hlive hexpires hfilter ht

lemma write_logoutUserCached {token : Option Payload} {raw : Option String} {w w' : World}
    {r : Unit} (h : Tx.exec (logoutUserCached settings crypto now token raw) w = (.ok r, w')) :
    TableWrite now none w.db w'.db := by
  rcases ends_logoutUserCached h with hsame | ⟨rt, -, hends⟩
  · exact .of_same hsame
  · refine .ends hends fun s _ u _ hid _ _ => ?_
    rw [hid]

lemma write_logoutAllEndpoint {token : Option Payload} {w w' : World} {r : Unit}
    (h : Tx.exec (logoutAllEndpoint settings crypto now token) w = (.ok r, w')) :
    TableWrite now none w.db w'.db := by
  rw [logoutAllEndpoint, Tx.exec_get_bind] at h
  obtain ⟨user, w₁, huser, hall⟩ := Tx.exec_bind_eq_ok.mp h
  simp only [Tx.exec_liftM, Prod.mk.injEq] at huser
  obtain ⟨-, rfl⟩ := huser
  refine .ends (ends_logoutAllUser hall) fun s _ u _ _ huser hlive => ?_
  simp [huser, hlive]

lemma write_resetPassword {request : ResetPasswordRequest} {r : Unit}
    (h : Tx.exec (resetPassword crypto now request) db = (.ok r, t)) :
    TableWrite now none db t := by
  obtain ⟨userId, hends⟩ := ends_resetPassword h
  refine .ends hends fun s _ u _ _ huser _ => ?_
  rw [huser]

lemma write_deleteSessionEndpoint (hok : TablesOk db) {userId sessionId : String}
    {raw : Option String} {r : Unit}
    (h : Tx.exec (deleteSessionEndpoint crypto userId sessionId raw) db = (.ok r, t)) :
    TableWrite now none db t := by
  rw [deleteSessionEndpoint, Tx.exec_get_bind] at h
  obtain ⟨current, u, hcurrent, hrevoke⟩ := Tx.exec_bind_eq_ok.mp h
  simp only [Tx.exec_liftM, Prod.mk.injEq] at hcurrent
  obtain ⟨-, rfl⟩ := hcurrent
  obtain ⟨sess, hsess, rfl, hends⟩ := ends_revokeSession hrevoke
  refine .ends hends fun s hs u _ hid _ _ => ?_
  have hsame : u.id = sess.refreshTokenId ↔ s.id = sess.id := by
    rw [hid]
    constructor
    · intro href
      rw [hok.session_eq_of_ref hs hsess href]
    · intro heq
      rw [hok.session_eq_of_id hs hsess heq]
  simp [hsame]

lemma write_deleteOtherSessionsEndpoint (hok : TablesOk db) {userId : String}
    {raw : Option String} {n : ℕ}
    (h : Tx.exec (deleteOtherSessionsEndpoint crypto userId raw) db = (.ok n, t)) :
    TableWrite now none db t := by
  rw [deleteOtherSessionsEndpoint, Tx.exec_get_bind] at h
  obtain ⟨current, u, hcurrent, hrevoke⟩ := Tx.exec_bind_eq_ok.mp h
  simp only [Tx.exec_liftM, Prod.mk.injEq] at hcurrent
  obtain ⟨-, rfl⟩ := hcurrent
  rcases ends_revokeOtherSessions hrevoke with hsame | hends
  · exact .of_same hsame
  · refine .ends hends fun s hs u _ hid _ _ => ?_
    -- the token of a session is among those of the others when the session is
    have hsame : u.id ∈ (otherSessions db userId current).map (·.refreshTokenId)
        ↔ s.id ∈ (otherSessions db userId current).map (·.id) := by
      rw [hid]
      constructor
      · intro hmem
        obtain ⟨s', hs', href⟩ := List.mem_map.mp hmem
        rw [← hok.session_eq_of_ref (List.mem_filter.mp hs').1 hs href]
        exact List.mem_map_of_mem hs'
      · intro hmem
        obtain ⟨s', hs', heq⟩ := List.mem_map.mp hmem
        rw [← hok.session_eq_of_id (List.mem_filter.mp hs').1 hs heq]
        exact List.mem_map_of_mem hs'
    simp only [hsame]

/-- A request in its transaction writes what its body writes, or nothing. -/
lemma write_getDb {α : Type} {body : Request α} {draws? : Option Draws}
    (h : ∀ a t, Tx.exec body db = (.ok a, t) → TableWrite now draws? db t) :
    TableWrite now draws? db (getDb body db).2 :=
  Tx.commit_induction (.same rfl rfl) h

lemma write_getDbCached {α : Type} {body : CachedRequest α} {draws? : Option Draws} {w : World}
    (h : ∀ a w', Tx.exec body w = (.ok a, w') → TableWrite now draws? w.db w'.db) :
    TableWrite now draws? w.db (getDbCached body w).2.db := by
  rcases getDbCached_snd body w with hsame | ⟨a, hok⟩
  · rw [hsame]
    exact .same rfl rfl
  · exact h a _ hok

/-- The requests that write to both tables, or to neither. -/
def WritesBoth : AuthRequest → Prop
  | .changePassword _ _ _ => False
  | .purgeOldSessions => False
  | _ => True

lemma perform_write {w : World} (hok : TablesOk w.db) {request : AuthRequest}
    (hboth : WritesBoth request) :
    TableWrite now request.draws? w.db (perform settings crypto now w request).db := by
  cases request with
  | register d request => exact write_getDb fun _ _ h => .opens rfl (opens_registerUser h)
  | login draws request =>
      refine write_getDb fun _ _ h => ?_
      rcases opens_loginUser h with hsame | hopens
      · exact .of_same hsame
      · exact .opens rfl hopens
  | verifyMfa draws request => exact write_getDbCached fun _ _ h => .opens rfl (opens_verifyMfa h)
  | acceptInvite draws request => exact write_getDb fun _ _ h => .opens rfl (opens_acceptInvite h)
  | refresh draws rawRefresh => exact write_getDb fun _ _ h => write_refreshTokens h
  | logout token rawRefresh => exact write_getDbCached fun _ _ h => write_logoutUserCached h
  | logoutAll token => exact write_getDbCached fun _ _ h => write_logoutAllEndpoint h
  | revokeSession token sessionId rawRefresh =>
      refine write_getDbCached fun _ _ h => ?_
      obtain ⟨user, db', -, hexec, rfl⟩ := exec_withCurrentUser_ok h
      exact write_deleteSessionEndpoint hok hexec
  | revokeOtherSessions token rawRefresh =>
      refine write_getDbCached fun _ _ h => ?_
      obtain ⟨user, db', -, hexec, rfl⟩ := exec_withCurrentUser_ok h
      exact write_deleteOtherSessionsEndpoint hok hexec
  | changePassword token order request => exact hboth.elim
  | resetPassword request => exact write_getDb fun _ _ h => write_resetPassword h
  | purgeOldSessions => exact hboth.elim
  | purgeExpiredTokenBlacklist => exact .same rfl rfl
  | evict jti => exact .same rfl rfl
  | redisUp up => exact .same rfl rfl
  | other write => exact .of_same (write.same w.db)

/-! ### The requests that write to one table -/

lemma ends_purgeOldSessions (now : Time) (db : AuthDb) :
    EndsSessions (fun _ => false) (fun s => s.lastActiveAt < now - days 90) db
      (purgeOldSessions now db) where
  tokens := by
    simp [purgeOldSessions, AuthDb.revokeWhere]
  sessions := rfl
  blacklist := List.Subset.refl _

/-- A change of the password revokes tokens and deletes no session. -/
lemma ends_changePassword {order : QueryOrder RefreshToken} {user : User}
    {request : ChangePasswordRequest} {r : Unit}
    (h : Tx.exec (changePassword crypto order user request) db = (.ok r, t)) :
    EndsSessions (fun u => u.id ∈ (otherTokens order db user.id).map (·.id)) (fun _ => false)
      db t where
  tokens := (exec_changePassword_ok h).2.1
  sessions := by
    rw [(exec_changePassword_ok h).1]
    simp [AuthDb.deleteSessions]
  blacklist := (exec_changePassword_ok h).2.2

/-- The endpoint does nothing, or what `change_password` does for the caller. -/
lemma perform_changePassword (settings : Settings) (crypto : Crypto) (now : Time) (w : World)
    (token : Option Payload) (order : QueryOrder RefreshToken) (request : ChangePasswordRequest) :
    (perform settings crypto now w (.changePassword token order request)).db = w.db ∧
        (∀ user, getCurrentUser settings now w token = .ok user →
          ¬ AcceptsChange crypto user request) ∨
      ∃ user, getCurrentUser settings now w token = .ok user ∧
        AcceptsChange crypto user request ∧
        EndsSessions (fun u => u.id ∈ (otherTokens order w.db user.id).map (·.id))
          (fun _ => false) w.db
          (perform settings crypto now w (.changePassword token order request)).db := by
  rw [perform]
  by_cases hok : ∃ user, getCurrentUser settings now w token = .ok user ∧
      AcceptsChange crypto user request
  · obtain ⟨user, huser, haccepts⟩ := hok
    have hreturns : ∃ r db', Tx.exec (changePassword crypto order user request) w.db = (.ok r, db') :=
      exec_changePassword_iff.mpr haccepts
    obtain ⟨r, db', hexec⟩ := hreturns
    have hbody : Tx.exec (withCurrentUser settings now token fun user =>
        changePassword crypto order user request) w = (.ok r, { w with db := db' }) := by
      rw [withCurrentUser, Tx.exec_get_bind]
      refine Tx.exec_bind_eq_ok.mpr ⟨user, w, by rw [Tx.exec_liftM, huser], ?_⟩
      exact exec_onDb_ok.mpr ⟨db', hexec, rfl⟩
    refine Or.inr ⟨user, huser, haccepts, ?_⟩
    rw [getDbCached, Tx.commitWith_of_ok hbody]
    exact ends_changePassword hexec
  · push Not at hok
    refine Or.inl ⟨?_, hok⟩
    rcases getDbCached_snd (withCurrentUser settings now token fun user =>
        changePassword crypto order user request) w with hsame | ⟨r, hexec⟩
    · exact hsame
    · obtain ⟨user, db', huser, hbody, -⟩ := exec_withCurrentUser_ok hexec
      exact absurd (exec_changePassword_iff.mp ⟨r, db', hbody⟩) (hok user huser)

end

section

variable (settings : Settings) (crypto : Crypto)

/-- The request leaves the tables in step. A change of the password must find no session of the
tokens it revokes; a purge, no live token of the sessions it deletes. -/
def KeepsMatch (st : AuthState) (a : AuthAction) : Prop :=
  match a.request with
  | .changePassword token order request =>
      ∀ user, getCurrentUser settings (st.arrival a) st.world token = .ok user →
        AcceptsChange crypto user request →
        ∀ s ∈ st.world.db.sessions,
          s.refreshTokenId ∉ (otherTokens order st.world.db user.id).map (·.id)
  | .purgeOldSessions =>
      ∀ s ∈ st.world.db.sessions, s.lastActiveAt < st.arrival a - days 90 →
        ∀ t ∈ st.world.db.refreshTokens, t.id = s.refreshTokenId → t.expiresAt < st.arrival a
  | _ => True

/-- The request draws new ids. -/
def DrawsFresh (st : AuthState) (a : AuthAction) : Prop :=
  ∀ draws ∈ a.request.draws?, FreshIds st.world.db draws

end

section

variable {settings : Settings} {crypto : Crypto}

lemma tablesOk_step (st : AuthState) (a : AuthAction) (hok : TablesOk st.world.db)
    (hfresh : DrawsFresh st a) : TablesOk (authStep settings crypto st a).world.db := by
  obtain ⟨wait, request⟩ := a
  by_cases hboth : WritesBoth request
  · exact (perform_write hok hboth).tablesOk hok hfresh
  · cases request with
    | changePassword token order request =>
        rcases perform_changePassword settings crypto (st.arrival ⟨wait, _⟩) st.world token order
          request with ⟨hsame, -⟩ | ⟨user, -, -, hends⟩
        · exact hok.congr (congrArg AuthDb.refreshTokens hsame) (congrArg AuthDb.sessions hsame)
        · exact hok.ends hends
    | purgeOldSessions => exact hok.ends (ends_purgeOldSessions _ _)
    | _ => exact absurd trivial hboth

/-- **One request**: from tables that match, it leads to tables that match exactly when it is one
that keeps them in step. -/
lemma sessionsMatch_step_iff (st : AuthState) (a : AuthAction) (hok : TablesOk st.world.db)
    (hmatch : SessionsMatch st.clock st.world.db) (hfresh : DrawsFresh st a) :
    SessionsMatch (authStep settings crypto st a).clock (authStep settings crypto st a).world.db
      ↔ KeepsMatch settings crypto st a := by
  have hlater : st.clock ≤ st.arrival a := by
    unfold AuthState.arrival
    have hwait : (0 : ℤ) ≤ a.wait := Int.natCast_nonneg _
    exact le_add_of_nonneg_right hwait
  have hnow := hmatch.mono hlater
  obtain ⟨wait, request⟩ := a
  -- only two requests write to one table and not to the other
  by_cases hboth : WritesBoth request
  · have hwrite : TableWrite (st.arrival ⟨wait, request⟩) request.draws? st.world.db
        (authStep settings crypto st ⟨wait, request⟩).world.db := perform_write hok hboth
    have hafter := hwrite.sessionsMatch hok hfresh hnow
    have hkeeps : KeepsMatch settings crypto st ⟨wait, request⟩ := by
      cases request <;> first | exact hboth.elim | trivial
    exact iff_of_true hafter hkeeps
  · cases request with
    | changePassword token order request =>
        rcases perform_changePassword settings crypto (st.arrival ⟨wait, _⟩) st.world token order
          request with ⟨hsame, hrefused⟩ | ⟨user, huser, haccepts, hends⟩
        · refine iff_of_true ?_ fun user huser haccepts => absurd haccepts (hrefused user huser)
          exact (sessionsMatch_congr (congrArg AuthDb.refreshTokens hsame)
            (congrArg AuthDb.sessions hsame)).mpr hnow
        · refine (hnow.ends_iff hok hends).trans ⟨?_, ?_⟩
          · rintro ⟨hkept, -⟩ user' huser' - s hs
            obtain rfl : user = user' := by
              rw [huser] at huser'
              exact Except.ok.inj huser'
            obtain ⟨u, hu, hid⟩ := hok.refs_exist s hs
            simpa [hid] using hkept s hs rfl u hu hid
          · intro hkeeps
            refine ⟨fun s hs _ u hu hid => ?_, fun s hs hgone => by cases hgone⟩
            have hother := hkeeps user huser haccepts s hs
            rw [← hid] at hother
            exact decide_eq_false hother
    | purgeOldSessions =>
        refine (hnow.ends_iff hok (ends_purgeOldSessions _ _)).trans ⟨?_, ?_⟩
        · rintro ⟨-, hdeleted⟩ s hs hold u hu hid
          rcases hdeleted s hs (decide_eq_true hold) u hu hid with hrevoked | hexpired
          · cases hrevoked
          · exact hexpired
        · intro hkeeps
          exact ⟨fun _ _ _ _ _ _ => rfl, fun s hs hold u hu hid =>
            Or.inr (hkeeps s hs (of_decide_eq_true hold) u hu hid)⟩
    | _ => exact absurd trivial hboth

/-- **The session list matches the live credentials** throughout a run from empty tables exactly
when every request of the run keeps the two tables in step. -/
theorem sessions_match_iff {st : AuthState} (htokens : st.world.db.refreshTokens = [])
    (hsessions : st.world.db.sessions = []) {actions : List AuthAction}
    (hfresh : EachStep (authStep settings crypto) DrawsFresh st actions) :
    Always (authStep settings crypto) (fun st => SessionsMatch st.clock st.world.db) st actions
      ↔ EachStep (authStep settings crypto) (KeepsMatch settings crypto) st actions := by
  have hok : TablesOk st.world.db := by
    constructor <;> simp [htokens, hsessions]
  have hmatch : SessionsMatch st.clock st.world.db := by
    constructor <;> simp [htokens, hsessions]
  exact always_iff_eachStep_of_invariant (I := fun st => TablesOk st.world.db) (A := DrawsFresh)
    (fun st a hok hfresh => tablesOk_step st a hok hfresh)
    (fun st a hok hmatch hfresh => sessionsMatch_step_iff st a hok hmatch hfresh) hok hmatch hfresh

end

/-! ### Two invitations -/

/-- An account, and an invitation to it from each of two workspaces. -/
def twiceInvitedDb : AuthDb :=
  { users := [twoSessionsUser]
    tenants := [{ id := "t1", name := "Bank" }, { id := "t2", name := "Branch" }]
    invitations :=
      [{ id := "i1", email := "ann@bank.test", tenantId := "t1", invitedByUserId := "u0"
         role := "analyst", tokenHash := "sha256:one", expiresAt := days 7 },
       { id := "i2", email := "ann@bank.test", tenantId := "t2", invitedByUserId := "u0"
         role := "analyst", tokenHash := "sha256:two", expiresAt := days 7 }] }

def keySettings : Settings := { jwtPrivateKey := "key", jwtPublicKey := "key" }

/-- Both are accepted, then the password is changed. -/
def acceptTwiceAndChange : List AuthAction :=
  [⟨0, .acceptInvite ⟨"f1", "r1", "raw1", "s1", "j1", "", "m1"⟩ ⟨"one", "Ann", "old pass 1"⟩⟩,
    ⟨0, .acceptInvite ⟨"f2", "r2", "raw2", "s2", "j2", "", "m2"⟩ ⟨"two", "Ann", "old pass 1"⟩⟩,
    ⟨0, .changePassword (some { sub := "u1", jti := "j2", iat := 0, exp := 900 }) insertionOrder
      ⟨"old pass 1", "new pass 1"⟩⟩]

theorem sessions_match_iff_sample :
    Always (authStep keySettings plainCrypto) (fun st => SessionsMatch st.clock st.world.db)
        ⟨{ db := twiceInvitedDb }, 0⟩ acceptTwiceAndChange
      ↔ EachStep (authStep keySettings plainCrypto) (KeepsMatch keySettings plainCrypto)
        ⟨{ db := twiceInvitedDb }, 0⟩ acceptTwiceAndChange := by
  refine sessions_match_iff rfl rfl ⟨?_, ?_, ?_, trivial⟩
  · rintro draws ⟨rfl⟩
    constructor <;> decide
  · rintro draws ⟨rfl⟩
    constructor <;> decide
  · rintro draws ⟨⟩

/-- **A listed session is dead**: the second session of the account is still there, and its token
is revoked. -/
theorem sessions_match_fails :
    ¬ Always (authStep keySettings plainCrypto) (fun st => SessionsMatch st.clock st.world.db)
        ⟨{ db := twiceInvitedDb }, 0⟩ acceptTwiceAndChange := by
  intro h
  have hlive := (h acceptTwiceAndChange List.prefix_rfl).live
  revert hlive
  decide

end EclServer.Auth
