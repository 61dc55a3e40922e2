import EclServer.Auth.InviteLifecycle
import EclServer.Library.Relational

/-!
The rows that the authentication services still act on.

* `usableTokens`, `liveSessions`, `liveResets`, `liveInvitations`, `liveBlacklist`: the rows that are
  not spent, not ended and not past their time.
* `SameLive`: two databases with the same accounts and the same live rows. `SameLive.later`: they
  stay so as time passes.
* `answers_loadToken`, `answers_loadInvitation`, `answers_loadResetToken`: what a request looks up by
  a raw token it finds among the live rows, or not at all.
* `agrees_refreshTokens`, `agrees_acceptInvite`, `agrees_resetPassword`: on two such databases the
  services give the same answers and leave two such databases.
-/

namespace EclServer.Auth

open EclServer.Library

/-! ### Live rows -/

section

variable (now : Time) (db : AuthDb)

def usableTokens : List RefreshToken :=
  db.refreshTokens.filter fun r => r.isRevoked = false ∧ now ≤ r.expiresAt

/-- The sessions whose refresh token is live. -/
def liveSessions : List Session :=
  db.sessions.filter fun s => (usableTokens now db).any fun r => r.id = s.refreshTokenId

def liveResets : List PasswordResetToken :=
  db.passwordResetTokens.filter fun p => p.usedAt = none ∧ now ≤ p.expiresAt

def liveInvitations : List Invitation :=
  db.invitations.filter fun i => i.status = .pending ∧ now ≤ i.expiresAt

def liveBlacklist : List TokenBlacklist :=
  db.tokenBlacklist.filter fun entry => now < entry.expiresAt

end

/-- **The same accounts and the same live rows.** -/
structure SameLive (now : Time) (s t : AuthDb) : Prop where
  users : t.users = s.users
  tenants : t.tenants = s.tenants
  memberships : t.memberships = s.memberships
  tokens : usableTokens now t = usableTokens now s
  sessions : liveSessions now t = liveSessions now s
  resets : liveResets now t = liveResets now s
  invitations : liveInvitations now t = liveInvitations now s
  blacklist : liveBlacklist now t = liveBlacklist now s

/-- The unique columns of the tables. -/
structure LiveKeys (db : AuthDb) : Prop where
  hashes : (db.refreshTokens.map (·.tokenHash)).Nodup
  sessions : (db.sessions.map (·.id)).Nodup
  resets : ResetTokenKeys db.passwordResetTokens
  invitations : InvitationKeys db.invitations

section

variable {now now' : Time} {db s t : AuthDb}

/-- A selection from a selection that it implies. -/
lemma filter_filter_of_imp {α : Type} {p q : α → Bool} {l : List α}
    (h : ∀ a ∈ l, q a = true → p a = true) : (l.filter p).filter q = l.filter q := by
  rw [List.filter_filter]
  refine List.filter_congr fun a ha => ?_
  by_cases hq : q a = true
  · rw [hq, h a ha hq]
    rfl
  · rw [Bool.eq_false_of_not_eq_true hq]
    rfl

lemma SameLive.refl (s : AuthDb) : SameLive now s s := ⟨rfl, rfl, rfl, rfl, rfl, rfl, rfl, rfl⟩

lemma SameLive.symm (h : SameLive now s t) : SameLive now t s :=
  ⟨h.users.symm, h.tenants.symm, h.memberships.symm, h.tokens.symm, h.sessions.symm,
    h.resets.symm, h.invitations.symm, h.blacklist.symm⟩

lemma SameLive.trans {u : AuthDb} (h : SameLive now s t) (h' : SameLive now t u) :
    SameLive now s u :=
  ⟨h'.users.trans h.users, h'.tenants.trans h.tenants, h'.memberships.trans h.memberships,
    h'.tokens.trans h.tokens, h'.sessions.trans h.sessions, h'.resets.trans h.resets,
    h'.invitations.trans h.invitations, h'.blacklist.trans h.blacklist⟩

lemma mem_usableTokens {r : RefreshToken} :
    r ∈ usableTokens now db ↔ r ∈ db.refreshTokens ∧ r.isRevoked = false ∧ now ≤ r.expiresAt := by
  simp [usableTokens]

/-! ### As time passes -/

lemma usableTokens_later (h : now ≤ now') :
    usableTokens now' db
      = (usableTokens now db).filter fun r => r.isRevoked = false ∧ now' ≤ r.expiresAt := by
  refine (filter_filter_of_imp fun r _ hlive => ?_).symm
  obtain ⟨hrevoked, hle⟩ := of_decide_eq_true hlive
  exact decide_eq_true ⟨hrevoked, le_trans h hle⟩

lemma liveSessions_later (h : now ≤ now') :
    liveSessions now' db = (liveSessions now db).filter fun s =>
      (usableTokens now' db).any fun r => r.id = s.refreshTokenId := by
  refine (filter_filter_of_imp fun x _ hlive => ?_).symm
  obtain ⟨r, hr, hid⟩ := List.any_eq_true.mp hlive
  rw [usableTokens_later h] at hr
  exact List.any_eq_true.mpr ⟨r, List.mem_of_mem_filter hr, hid⟩

/-- **What is the same stays the same** as time passes. -/
lemma SameLive.later (hsame : SameLive now s t) (h : now ≤ now') : SameLive now' s t := by
  have htokens : usableTokens now' t = usableTokens now' s := by
    rw [usableTokens_later h, usableTokens_later h, hsame.tokens]
  refine ⟨hsame.users, hsame.tenants, hsame.memberships, htokens, ?_, ?_, ?_, ?_⟩
  · rw [liveSessions_later h, liveSessions_later h, hsame.sessions, htokens]
  · have hresets : ∀ db, liveResets now' db
        = (liveResets now db).filter fun p => p.usedAt = none ∧ now' ≤ p.expiresAt := by
      refine fun db => (filter_filter_of_imp fun p _ hlive => ?_).symm
      obtain ⟨hunused, hle⟩ := of_decide_eq_true hlive
      exact decide_eq_true ⟨hunused, le_trans h hle⟩
    rw [hresets, hresets, hsame.resets]
  · have hinvitations : ∀ db, liveInvitations now' db
        = (liveInvitations now db).filter fun i => i.status = .pending ∧ now' ≤ i.expiresAt := by
      refine fun db => (filter_filter_of_imp fun i _ hlive => ?_).symm
      obtain ⟨hpending, hle⟩ := of_decide_eq_true hlive
      exact decide_eq_true ⟨hpending, le_trans h hle⟩
    rw [hinvitations, hinvitations, hsame.invitations]
  · have hblacklist : ∀ db, liveBlacklist now' db
        = (liveBlacklist now db).filter fun entry => now' < entry.expiresAt := by
      refine fun db => (filter_filter_of_imp fun entry _ hlive => ?_).symm
      exact decide_eq_true (lt_of_le_of_lt h (of_decide_eq_true hlive))
    rw [hblacklist, hblacklist, hsame.blacklist]

/-! ### What is looked up -/

variable {settings : Settings} {crypto : Crypto} {draws : Draws}

/-- What is found by its key is live, or the lookup finds no live row. -/
lemma find?_live {α : Type} {l : List α} {key : α → String} (hkeys : (l.map key).Nodup)
    {p : α → Bool} {k : String} :
    (∃ a, l.find? (fun a => key a = k) = some a ∧ p a = true ∧
        (l.filter p).find? (fun a => key a = k) = some a) ∨
      (∀ a, l.find? (fun a => key a = k) = some a → p a = false) ∧
        (l.filter p).find? (fun a => key a = k) = none := by
  rw [find?_filter_key key hkeys]
  rcases hfound : l.find? fun a => key a = k with _ | a
  · exact Or.inr ⟨fun a ha => (nomatch ha), rfl⟩
  · by_cases hp : p a = true
    · exact Or.inl ⟨a, rfl, hp, Option.filter_some_pos hp⟩
    · have hfalse := Bool.eq_false_of_not_eq_true hp
      refine Or.inr ⟨fun b hb => ?_, Option.filter_some_neg hfalse⟩
      rw [← Option.some.inj hb]
      exact hfalse

lemma answers_loadToken (hkeys : LiveKeys db) (raw : String) :
    Tx.Answers (loadToken crypto now raw) db
      ((usableTokens now db).find? fun r => r.tokenHash = crypto.hashToken raw) := by
  rw [usableTokens]
  rcases find?_live hkeys.hashes (p := fun r => r.isRevoked = false ∧ now ≤ r.expiresAt)
    (k := crypto.hashToken raw) with ⟨rt, hfound, hlive, hsome⟩ | ⟨hdead, hnone⟩
  · obtain ⟨hrevoked, hle⟩ := of_decide_eq_true hlive
    rw [hsome]
    show Tx.exec (loadToken crypto now raw) db = (.ok rt, db)
    rw [loadToken, Tx.exec_get_bind, AuthDb.tokenByHash, hfound]
    show Tx.exec (if rt.isRevoked then _ else if rt.expiresAt < now then _ else _) db = _
    rw [if_neg (by rw [hrevoked]; exact Bool.false_ne_true), if_neg (not_lt.mpr hle), Tx.exec_pure]
  · rw [hnone]
    show ∃ e t, Tx.exec (loadToken crypto now raw) db = (.error e, t)
    rcases hexec : Tx.exec (loadToken crypto now raw) db with ⟨e | rt, t⟩
    · exact ⟨e, t, rfl⟩
    · obtain ⟨-, hfound, hrevoked, hle⟩ := exec_loadToken_ok hexec
      exact absurd ⟨hrevoked, hle⟩ (of_decide_eq_false (hdead rt hfound))

lemma answers_loadInvitation (hkeys : LiveKeys db) (token : String) :
    Tx.Answers (loadInvitation crypto now token) db
      ((liveInvitations now db).find? fun i => i.tokenHash = crypto.hashToken token) := by
  rw [liveInvitations]
  rcases find?_live hkeys.invitations.2 (p := fun i => i.status = .pending ∧ now ≤ i.expiresAt)
    (k := crypto.hashToken token) with ⟨inv, hfound, hlive, hsome⟩ | ⟨hdead, hnone⟩
  · obtain ⟨hpending, hle⟩ := of_decide_eq_true hlive
    rw [hsome]
    show Tx.exec (loadInvitation crypto now token) db = (.ok inv, db)
    rw [loadInvitation, Tx.exec_get_bind, hfound]
    show Tx.exec (if inv.status ≠ .pending then _ else if inv.expiresAt < now then _ else _) db = _
    rw [if_neg (not_not.mpr hpending), if_neg (not_lt.mpr hle), Tx.exec_pure]
  · rw [hnone]
    show ∃ e t, Tx.exec (loadInvitation crypto now token) db = (.error e, t)
    rcases hexec : Tx.exec (loadInvitation crypto now token) db with ⟨e | inv, t⟩
    · exact ⟨e, t, rfl⟩
    · obtain ⟨-, hfound, hpending, hle⟩ := exec_loadInvitation_ok hexec
      exact absurd ⟨hpending, hle⟩ (of_decide_eq_false (hdead inv hfound))

lemma answers_loadResetToken (hkeys : LiveKeys db) (token : String) :
    Tx.Answers (loadResetToken crypto now token) db
      ((liveResets now db).find? fun p => p.tokenHash = crypto.hashToken token) := by
  rw [liveResets]
  rcases find?_live hkeys.resets.2 (p := fun p => p.usedAt = none ∧ now ≤ p.expiresAt)
    (k := crypto.hashToken token) with ⟨prt, hfound, hlive, hsome⟩ | ⟨hdead, hnone⟩
  · obtain ⟨hunused, hle⟩ := of_decide_eq_true hlive
    rw [hsome]
    show Tx.exec (loadResetToken crypto now token) db = (.ok prt, db)
    rw [loadResetToken, Tx.exec_get_bind, hfound]
    show Tx.exec (if prt.usedAt ≠ none ∨ prt.expiresAt < now then _ else _) db = _
    rw [if_neg (by push Not; exact ⟨hunused, hle⟩), Tx.exec_pure]
  · rw [hnone]
    show ∃ e t, Tx.exec (loadResetToken crypto now token) db = (.error e, t)
    rcases hexec : Tx.exec (loadResetToken crypto now token) db with ⟨e | prt, t⟩
    · exact ⟨e, t, rfl⟩
    · obtain ⟨-, hfound, hunused, hle⟩ := exec_loadResetToken_ok hexec
      exact absurd ⟨hunused, hle⟩ (of_decide_eq_false (hdead prt hfound))

/-- The blacklist answers from its live rows. -/
lemma isTokenBlacklisted_live (redis : Redis) (jti : String) :
    isTokenBlacklisted now redis jti db
      = ((redis.up && redis.holds now jti)
          || (liveBlacklist now db).any fun entry => entry.jti = jti) := by
  rw [isTokenBlacklisted, liveBlacklist, List.any_filter]
  simp only [Bool.decide_and, Bool.and_comm]

/-- The first of an invitation's tenant and inviter. -/
def inviteParties (db : AuthDb) (inv : Invitation) : Option (Tenant × User) :=
  (db.tenants ×ˢ db.users).find? fun row =>
    row.1.id = inv.tenantId ∧ row.2.id = inv.invitedByUserId

/-- What an invitation shows of itself. -/
def shownInvite (db : AuthDb) (inv : Invitation) : Option InviteValidateData :=
  (inviteParties db inv).map fun row =>
    { email := inv.email, tenantName := row.1.name, inviterName := row.2.name, role := inv.role
      expiresAt := inv.expiresAt }

lemma find?_inviteRow (hkeys : LiveKeys db) (hash : String) :
    (db.invitations ×ˢ (db.tenants ×ˢ db.users)).find? (fun row =>
        row.2.1.id = row.1.tenantId ∧ row.2.2.id = row.1.invitedByUserId ∧ row.1.tokenHash = hash)
      = (db.invitations.find? fun i => i.tokenHash = hash).bind fun inv =>
        (inviteParties db inv).map (inv, ·) := by
  have hproduct := find?_product_key Invitation.tokenHash hkeys.invitations.2
    (db.tenants ×ˢ db.users)
    (fun inv row => row.1.id = inv.tenantId ∧ row.2.id = inv.invitedByUserId) hash
  simp only [and_assoc] at hproduct
  exact hproduct

lemma answers_validateInvite (hkeys : LiveKeys db) (token : String) :
    Tx.Answers (validateInvite crypto now token) db
      (((liveInvitations now db).find? fun i => i.tokenHash = crypto.hashToken token).bind
        (shownInvite db)) := by
  have hjoin := find?_inviteRow hkeys (crypto.hashToken token)
  have hstale : ∀ inv : Invitation, ¬ (inv.status = .pending ∧ now ≤ inv.expiresAt) →
      inv.status ≠ .pending ∨ inv.expiresAt < now := by
    intro inv hdead
    by_contra hno
    push Not at hno
    exact hdead hno
  rw [liveInvitations]
  rcases find?_live hkeys.invitations.2 (p := fun i => i.status = .pending ∧ now ≤ i.expiresAt)
    (k := crypto.hashToken token) with ⟨inv, hfound, hlive, hsome⟩ | ⟨hdead, hnone⟩
  · obtain ⟨hpending, hle⟩ := of_decide_eq_true hlive
    rw [hsome, Option.bind_some, shownInvite]
    rw [hfound, Option.bind_some] at hjoin
    rcases hrow : inviteParties db inv with _ | row
    · rw [hrow] at hjoin
      refine ⟨invalidInviteToken "Invite link is invalid or expired.", db, ?_⟩
      rw [validateInvite, Tx.exec_get_bind, hjoin]
      rfl
    · rw [hrow] at hjoin
      show Tx.exec (validateInvite crypto now token) db = (.ok _, db)
      rw [validateInvite, Tx.exec_get_bind, hjoin]
      show Tx.exec (if inv.status ≠ .pending ∨ inv.expiresAt < now then _ else _) db = _
      rw [if_neg (by push Not; exact ⟨hpending, hle⟩), Tx.exec_pure]
  · rw [hnone]
    refine ⟨invalidInviteToken "Invite link is invalid or expired.", db, ?_⟩
    rw [validateInvite, Tx.exec_get_bind, hjoin]
    rcases hfound : db.invitations.find? fun i => i.tokenHash = crypto.hashToken token with _ | inv
    · rw [hfound]
      rfl
    · rw [hfound, Option.bind_some]
      rcases inviteParties db inv with _ | row
      · rfl
      · show Tx.exec (if inv.status ≠ .pending ∨ inv.expiresAt < now then _ else _) db = _
        rw [if_pos (hstale inv (of_decide_eq_false (hdead inv hfound))), Tx.exec_throw]

/-! ### What is written -/

/-- Rows that a write takes out of a selection. -/
lemma filter_map_ite {α : Type} {l : List α} {p : α → Bool} {q : α → Prop} [DecidablePred q]
    {f : α → α} (hf : ∀ a, p (f a) = false) :
    (l.map fun a => if q a then f a else a).filter p = (l.filter p).filter fun a => ¬ q a := by
  induction l with
  | nil => rfl
  | cons a l ih =>
      rw [List.map_cons, List.filter_cons, List.filter_cons, ih]
      by_cases hq : q a
      · rw [if_pos hq, hf a, if_neg Bool.false_ne_true]
        split
        · rw [List.filter_cons_of_neg (by simpa using hq)]
        · rfl
      · rw [if_neg hq]
        split
        · rw [List.filter_cons_of_pos (by simpa using hq)]
        · rfl

/-- Where the live tokens get fewer, the live sessions that are left are live. -/
lemma liveSessions_of_subset {db' : AuthDb} {q : Session → Bool}
    (htokens : usableTokens now db' ⊆ usableTokens now db)
    (hsessions : db'.sessions = db.sessions.filter q) :
    liveSessions now db' = ((liveSessions now db).filter q).filter fun x =>
      (usableTokens now db').any fun r => r.id = x.refreshTokenId := by
  rw [liveSessions, liveSessions, hsessions, List.filter_filter, List.filter_filter,
    List.filter_filter]
  refine List.filter_congr fun x _ => ?_
  by_cases hany : ((usableTokens now db').any fun r => r.id = x.refreshTokenId) = true
  · obtain ⟨r, hr, hid⟩ := List.any_eq_true.mp hany
    have hbefore : ((usableTokens now db).any fun r => r.id = x.refreshTokenId) = true :=
      List.any_eq_true.mpr ⟨r, htokens hr, hid⟩
    rw [hany, hbefore, Bool.and_true]
  · rw [Bool.eq_false_of_not_eq_true hany, Bool.false_and, Bool.false_and]

/-- No session is of the token that is drawn. -/
def UndrawnToken (draws : Draws) (db : AuthDb) : Prop :=
  ∀ x ∈ db.sessions, x.refreshTokenId ≠ draws.refreshTokenId

/-- The account joins on both sides. -/
lemma SameLive.addInvited (h : SameLive now s t) (user : User) (inv : Invitation) :
    SameLive now (addInvited now draws user inv s) (addInvited now draws user inv t) := by
  have hrows : ∀ db, liveInvitations now (Auth.addInvited now draws user inv db)
      = (liveInvitations now db).filter fun i => ¬ i.id = inv.id :=
    fun db => filter_map_ite fun i => by simp
  refine ⟨h.users, h.tenants, ?_, h.tokens, h.sessions, h.resets, ?_, h.blacklist⟩
  · show t.memberships ++ _ = s.memberships ++ _
    rw [h.memberships]
  · rw [hrows, hrows, h.invitations]

lemma usableTokens_opened (r : RefreshToken) (x : Session) :
    usableTokens now { db with
        refreshTokens := db.refreshTokens ++ [r], sessions := db.sessions ++ [x] }
      = usableTokens now db ++ [r].filter fun r => r.isRevoked = false ∧ now ≤ r.expiresAt :=
  List.filter_append _ _

/-- The live sessions once a token and a session of it are added. -/
lemma liveSessions_opened {r : RefreshToken} {x : Session} (hfresh : UndrawnToken draws db)
    (hid : r.id = draws.refreshTokenId) :
    liveSessions now { db with
        refreshTokens := db.refreshTokens ++ [r], sessions := db.sessions ++ [x] }
      = liveSessions now db ++ [x].filter fun x =>
        (usableTokens now db ++ [r].filter fun r => r.isRevoked = false ∧ now ≤ r.expiresAt).any
          fun r => r.id = x.refreshTokenId := by
  rw [liveSessions, usableTokens_opened, List.filter_append, liveSessions]
  congr 1
  refine List.filter_congr fun y hy => ?_
  have hother : (([r].filter fun r => r.isRevoked = false ∧ now ≤ r.expiresAt).any
      fun r => r.id = y.refreshTokenId) = false := by
    rw [List.any_eq_false]
    intro r' hr'
    obtain rfl := List.mem_singleton.mp (List.mem_of_mem_filter hr')
    rw [decide_eq_true_iff, hid]
    exact fun hsame => hfresh y hy hsame.symm
  rw [List.any_append, hother, Bool.or_false]

/-- A token and a session of it are added on both sides. -/
lemma SameLive.opens (h : SameLive now s t) (hs : UndrawnToken draws s) (ht : UndrawnToken draws t)
    {r : RefreshToken} {x : Session} (hid : r.id = draws.refreshTokenId) :
    SameLive now { s with refreshTokens := s.refreshTokens ++ [r], sessions := s.sessions ++ [x] }
      { t with refreshTokens := t.refreshTokens ++ [r], sessions := t.sessions ++ [x] } := by
  refine ⟨h.users, h.tenants, h.memberships, ?_, ?_, h.resets, h.invitations, h.blacklist⟩
  · rw [usableTokens_opened, usableTokens_opened, h.tokens]
  · rw [liveSessions_opened ht hid, liveSessions_opened hs hid, h.sessions, h.tokens]

/-- The tokens and the sessions of a user are ended on both sides. -/
lemma SameLive.ends (h : SameLive now s t) (userId : String) :
    SameLive now ((s.revokeWhere fun u => u.userId = userId).deleteSessions
        fun x => x.userId = userId)
      ((t.revokeWhere fun u => u.userId = userId).deleteSessions fun x => x.userId = userId) := by
  have htokens : ∀ db : AuthDb, usableTokens now ((db.revokeWhere fun u => u.userId = userId)
      |>.deleteSessions fun x => x.userId = userId)
      = (usableTokens now db).filter fun u => ¬ (decide (u.userId = userId)) = true :=
    fun db => filter_map_ite fun r => by simp
  have hsessions : ∀ db : AuthDb, liveSessions now ((db.revokeWhere fun u => u.userId = userId)
      |>.deleteSessions fun x => x.userId = userId)
      = ((liveSessions now db).filter fun x => ¬ x.userId = userId).filter fun x =>
        (usableTokens now ((db.revokeWhere fun u => u.userId = userId)
          |>.deleteSessions fun x => x.userId = userId)).any fun r => r.id = x.refreshTokenId := by
    refine fun db => liveSessions_of_subset ?_ ?_
    · rw [htokens]
      exact List.filter_subset_self _
    · simp [AuthDb.deleteSessions, AuthDb.revokeWhere]
  refine ⟨h.users, h.tenants, h.memberships, ?_, ?_, h.resets, h.invitations, h.blacklist⟩
  · rw [htokens, htokens, h.tokens]
  · rw [hsessions, hsessions, htokens, htokens, h.sessions, h.tokens]

/-- A reset token is spent on both sides. -/
lemma SameLive.spendResetToken (h : SameLive now s t) (prt : PasswordResetToken) :
    SameLive now (spendResetToken now prt s) (spendResetToken now prt t) := by
  have hrows : ∀ db, liveResets now (Auth.spendResetToken now prt db)
      = (liveResets now db).filter fun p => ¬ p.id = prt.id :=
    fun db => filter_map_ite fun p => by simp
  refine ⟨h.users, h.tenants, h.memberships, h.tokens, h.sessions, ?_, h.invitations, h.blacklist⟩
  rw [hrows, hrows, h.resets]

lemma SameLive.updateUser (h : SameLive now s t) (id : String) (f : User → User) :
    SameLive now (s.updateUser id f) (t.updateUser id f) := by
  refine ⟨?_, h.tenants, h.memberships, h.tokens, h.sessions, h.resets, h.invitations, h.blacklist⟩
  show t.users.map _ = s.users.map _
  rw [h.users]

/-! ### A rotation -/

/-- A session after a refresh. -/
def sessionAfter (now : Time) (draws : Draws) : Option Session → Session → Session
  | none, x => x
  | some sess, x => if x.id = sess.id then movedSession now draws x else x

lemma sessions_rotate {rt : RefreshToken} (sess : Option Session) :
    (rotate settings crypto now draws rt sess db).sessions
      = db.sessions.map (sessionAfter now draws sess) := by
  cases sess with
  | none => exact (List.map_id _).symm
  | some sess => rfl

/-- The live tokens after a rotation. -/
lemma usableTokens_rotate {rt : RefreshToken} (sess : Option Session) :
    usableTokens now (rotate settings crypto now draws rt sess db)
      = ((usableTokens now db).filter fun r => ¬ r.id = rt.id)
        ++ [rotatedToken settings crypto now draws rt].filter
          fun r => r.isRevoked = false ∧ now ≤ r.expiresAt := by
  rw [usableTokens, rotate, refreshTokens_moveSession]
  show ((spendToken now rt db).refreshTokens ++ _).filter _ = _
  rw [List.filter_append]
  congr 1
  exact filter_map_ite fun r => by simp

/-- The live sessions after a rotation of a live token. -/
lemma liveSessions_rotate (hkeys : LiveKeys db) (hfresh : UndrawnToken draws db) {rt : RefreshToken}
    (hrt : rt ∈ usableTokens now db) {sess : Option Session}
    (hsess : db.sessions.filter (fun x => x.refreshTokenId = rt.id) = sess.toList) :
    liveSessions now (rotate settings crypto now draws rt sess db)
      = ((liveSessions now db).filter fun x =>
          (usableTokens now (rotate settings crypto now draws rt sess db)).any
            fun r => r.id = (sessionAfter now draws sess x).refreshTokenId).map
          (sessionAfter now draws sess) := by
  rw [liveSessions, sessions_rotate, List.filter_map, liveSessions]
  congr 1
  refine (filter_filter_of_imp fun x hx hafter => ?_).symm
  have hstays : ((usableTokens now (rotate settings crypto now draws rt sess db)).any
        fun r => r.id = x.refreshTokenId) = true →
      ((usableTokens now db).any fun r => r.id = x.refreshTokenId) = true := by
    intro hany
    obtain ⟨r, hr, hid⟩ := List.any_eq_true.mp hany
    rw [usableTokens_rotate, List.mem_append] at hr
    rcases hr with hold | hnew
    · exact List.any_eq_true.mpr ⟨r, List.mem_of_mem_filter hold, hid⟩
    · obtain rfl := List.mem_singleton.mp (List.mem_of_mem_filter hnew)
      exact absurd (of_decide_eq_true hid).symm (hfresh x hx)
  cases sess with
  | none => exact hstays hafter
  | some y =>
      have hy : y ∈ db.sessions.filter fun x => x.refreshTokenId = rt.id := by
        rw [hsess]
        exact List.mem_singleton_self y
      obtain ⟨hmem, href⟩ := List.mem_filter.mp hy
      by_cases hid : x.id = y.id
      · -- the session of the rotated token was live
        obtain rfl := List.inj_on_of_nodup_map hkeys.sessions hx hmem hid
        exact List.any_eq_true.mpr ⟨rt, hrt, decide_eq_true (of_decide_eq_true href).symm⟩
      · have hsame : sessionAfter now draws (some y) x = x := if_neg hid
        refine hstays ?_
        rw [← hsame]
        exact hafter

/-- **A rotation** on both sides. -/
lemma SameLive.rotate (h : SameLive now s t) (hs : LiveKeys s) (ht : LiveKeys t)
    (hsfresh : UndrawnToken draws s) (htfresh : UndrawnToken draws t) {rt : RefreshToken}
    (hrt : rt ∈ usableTokens now s) {sess : Option Session}
    (hsess : s.sessions.filter (fun x => x.refreshTokenId = rt.id) = sess.toList)
    (hsess' : t.sessions.filter (fun x => x.refreshTokenId = rt.id) = sess.toList) :
    SameLive now (rotate settings crypto now draws rt sess s)
      (rotate settings crypto now draws rt sess t) := by
  have htokens : usableTokens now (Auth.rotate settings crypto now draws rt sess t)
      = usableTokens now (Auth.rotate settings crypto now draws rt sess s) := by
    rw [usableTokens_rotate, usableTokens_rotate, h.tokens]
  have hother : ∀ db, (Auth.rotate settings crypto now draws rt sess db).users = db.users ∧
      (Auth.rotate settings crypto now draws rt sess db).tenants = db.tenants ∧
      (Auth.rotate settings crypto now draws rt sess db).memberships = db.memberships ∧
      liveResets now (Auth.rotate settings crypto now draws rt sess db) = liveResets now db ∧
      liveInvitations now (Auth.rotate settings crypto now draws rt sess db) = liveInvitations now db ∧
      liveBlacklist now (Auth.rotate settings crypto now draws rt sess db) = liveBlacklist now db := by
    intro db
    cases sess <;> exact ⟨rfl, rfl, rfl, rfl, rfl, rfl⟩
  obtain ⟨hsu, hst, hsm, hsr, hsi, hsb⟩ := hother s
  obtain ⟨htu, htt, htm, htr, hti, htb⟩ := hother t
  refine ⟨?_, ?_, ?_, htokens, ?_, ?_, ?_, ?_⟩
  · rw [htu, hsu, h.users]
  · rw [htt, hst, h.tenants]
  · rw [htm, hsm, h.memberships]
  · rw [liveSessions_rotate ht htfresh (h.tokens ▸ hrt) hsess',
      liveSessions_rotate hs hsfresh hrt hsess, h.sessions, htokens]
  · rw [htr, hsr, h.resets]
  · rw [hti, hsi, h.invitations]
  · rw [htb, hsb, h.blacklist]

/-! ### The services on both sides -/

/-- What a request needs of the two sides. -/
structure BothLive (now : Time) (draws : Draws) (s t : AuthDb) : Prop extends SameLive now s t where
  left : UndrawnToken draws s
  right : UndrawnToken draws t

lemma agrees_createAccessToken {Q : Payload → AuthDb → AuthDb → Prop}
    (payload : String → ℤ → ℤ → Payload) (hQ : ∀ access, Q access s t) :
    Tx.Agrees Q (createAccessToken settings now draws payload)
      (createAccessToken settings now draws payload) s t := by
  rw [createAccessToken]
  exact Tx.agrees_ite (fun _ => Tx.agrees_throw _ _) fun _ => Tx.agrees_pure (hQ _)

/-- **A session is opened** on both sides. -/
lemma agrees_createSessionTokens (h : BothLive now draws s t) (user : User)
    (membership : TenantMembership) (tenant : Tenant) (remember : Bool) :
    Tx.Agrees (fun _ s' t' => SameLive now s' t')
      (createSessionTokens settings crypto now draws user membership tenant remember)
      (createSessionTokens settings crypto now draws user membership tenant remember) s t := by
  refine Tx.agrees_modify_bind (Tx.agrees_modify_bind ?_)
  refine Tx.agrees_bind (agrees_createAccessToken _ fun _ => ?_) fun _ _ _ hsame =>
    Tx.agrees_pure hsame
  exact h.toSameLive.opens h.left h.right rfl

lemma agrees_inviteAccount (h : BothLive now draws s t) (inv : Invitation)
    (request : AcceptInviteRequest) :
    Tx.Agrees (fun _ s' t' => BothLive now draws s' t') (inviteAccount crypto draws inv request)
      (inviteAccount crypto draws inv request) s t := by
  have hfound : t.getActiveUserByEmail crypto inv.email = s.getActiveUserByEmail crypto inv.email := by
    rw [AuthDb.getActiveUserByEmail, AuthDb.getActiveUserByEmail, h.users]
  refine Tx.agrees_get_bind ?_
  rw [hfound]
  split
  · exact Tx.agrees_ite (fun _ => Tx.agrees_pure h) fun _ => Tx.agrees_throw _ _
  · refine Tx.agrees_modify_bind (Tx.agrees_pure ⟨?_, h.left, h.right⟩)
    refine ⟨?_, h.tenants, h.memberships, h.tokens, h.sessions, h.resets, h.invitations, h.blacklist⟩
    show t.users ++ _ = s.users ++ _
    rw [h.users]

lemma agrees_checkNotMember (h : BothLive now draws s t) (user : User) (inv : Invitation) :
    Tx.Agrees (fun _ s' t' => BothLive now draws s' t') (checkNotMember user inv)
      (checkNotMember user inv) s t := by
  refine Tx.agrees_get_bind ?_
  rw [h.memberships]
  split
  · exact Tx.agrees_pure h
  · exact Tx.agrees_throw _ _
  · exact Tx.agrees_throw _ _

lemma agrees_inviteTenant (h : BothLive now draws s t) (inv : Invitation) :
    Tx.Agrees (fun _ s' t' => BothLive now draws s' t') (inviteTenant inv) (inviteTenant inv) s t := by
  refine Tx.agrees_get_bind ?_
  rw [h.tenants]
  split
  · exact Tx.agrees_throw _ _
  · exact Tx.agrees_pure h

/-- **`accept_invite`** on both sides. -/
lemma agrees_acceptInvite (h : BothLive now draws s t) (hs : LiveKeys s) (ht : LiveKeys t)
    (request : AcceptInviteRequest) :
    Tx.Agrees (fun _ s' t' => SameLive now s' t') (acceptInvite settings crypto now draws request)
      (acceptInvite settings crypto now draws request) s t := by
  have hfound : Tx.Answers (loadInvitation crypto now request.token) t _ :=
    answers_loadInvitation ht request.token
  rw [h.invitations] at hfound
  refine Tx.agrees_bind (Tx.agrees_of_answers (answers_loadInvitation hs request.token) hfound) ?_
  rintro inv s' t' ⟨rfl, rfl, -⟩
  split
  · exact Tx.agrees_throw _ _
  refine Tx.agrees_bind (agrees_inviteAccount h inv request) ?_
  rintro ⟨user, isPlatformAdmin⟩ s' t' h
  refine Tx.agrees_bind (agrees_checkNotMember h user inv) fun _ s' t' h => ?_
  refine Tx.agrees_modify_bind ?_
  have hjoined : BothLive now draws (addInvited now draws user inv s')
      (addInvited now draws user inv t') := ⟨h.toSameLive.addInvited user inv, h.left, h.right⟩
  refine Tx.agrees_bind (agrees_inviteTenant hjoined inv) fun tenant s' t' h => ?_
  refine Tx.agrees_bind (agrees_createSessionTokens h user _ tenant true) fun resp s' t' h => ?_
  have hflag : Tx.Agrees (fun _ s' t' => SameLive now s' t') (checkUserOut isPlatformAdmin)
      (checkUserOut isPlatformAdmin) s' t' :=
    Tx.agrees_ite (fun _ => Tx.agrees_throw _ _) fun _ => Tx.agrees_pure h
  refine Tx.agrees_bind hflag fun _ s' t' h => ?_
  refine Tx.agrees_modify_bind (Tx.agrees_modify_bind (Tx.agrees_pure ?_))
  exact ⟨h.users, h.tenants, h.memberships, h.tokens, h.sessions, h.resets, h.invitations,
    h.blacklist⟩

lemma agrees_resetUser (h : SameLive now s t) (prt : PasswordResetToken) :
    Tx.Agrees (fun _ s' t' => s' = s ∧ t' = t) (resetUser prt) (resetUser prt) s t := by
  refine Tx.agrees_get_bind ?_
  rw [h.users]
  split
  · exact Tx.agrees_throw _ _
  · exact Tx.agrees_pure ⟨rfl, rfl⟩

/-- **`reset_password`** on both sides. -/
lemma agrees_resetPassword (h : SameLive now s t) (hs : LiveKeys s) (ht : LiveKeys t)
    (request : ResetPasswordRequest) :
    Tx.Agrees (fun _ s' t' => SameLive now s' t') (resetPassword crypto now request)
      (resetPassword crypto now request) s t := by
  have hfound : Tx.Answers (loadResetToken crypto now request.token) t _ :=
    answers_loadResetToken ht request.token
  rw [h.resets] at hfound
  refine Tx.agrees_bind (Tx.agrees_of_answers (answers_loadResetToken hs request.token) hfound) ?_
  rintro prt s' t' ⟨rfl, rfl, -⟩
  refine Tx.agrees_bind (agrees_resetUser h prt) ?_
  rintro user s' t' ⟨rfl, rfl⟩
  split
  · exact Tx.agrees_throw _ _
  refine Tx.agrees_modify_bind (Tx.agrees_modify_bind (Tx.agrees_modify_bind
    (Tx.agrees_modify_bind (Tx.agrees_modify_bind (Tx.agrees_modify ?_)))))
  have hended := ((h.updateUser user.id fun u =>
    { u with hashedPassword := crypto.hashPassword request.password }).spendResetToken prt).ends user.id
  exact ⟨hended.users, hended.tenants, hended.memberships, hended.tokens, hended.sessions,
    hended.resets, hended.invitations, hended.blacklist⟩

lemma agrees_loadMember (h : SameLive now s t) (rt : RefreshToken) :
    Tx.Agrees (fun _ s' t' => s' = s ∧ t' = t) (loadMember rt) (loadMember rt) s t := by
  have hmember : ∀ userId, t.getMembership userId none = s.getMembership userId none := by
    intro userId
    rw [AuthDb.getMembership, AuthDb.getMembership, h.memberships, h.tenants]
  refine Tx.agrees_get_bind ?_
  rw [h.users]
  split
  · exact Tx.agrees_throw _ _
  · refine Tx.agrees_ite (fun _ => ?_) fun _ => Tx.agrees_throw _ _
    rw [hmember]
    split
    · exact Tx.agrees_throw _ _
    · exact Tx.agrees_pure ⟨rfl, rfl⟩

/-- The sessions of a live token are live. -/
lemma filter_sessions_of_live {rt : RefreshToken} (hrt : rt ∈ usableTokens now db) :
    db.sessions.filter (fun x => x.refreshTokenId = rt.id)
      = (liveSessions now db).filter fun x => x.refreshTokenId = rt.id := by
  refine (filter_filter_of_imp fun x _ href => ?_).symm
  exact List.any_eq_true.mpr ⟨rt, hrt, decide_eq_true (of_decide_eq_true href).symm⟩

/-- Only the sessions of the token are read. -/
lemma agrees_loadSession {rt : RefreshToken}
    (hsame : t.sessions.filter (fun x => x.refreshTokenId = rt.id)
      = s.sessions.filter fun x => x.refreshTokenId = rt.id) :
    Tx.Agrees (fun sess s' t' => s' = s ∧ t' = t ∧
        s.sessions.filter (fun x => x.refreshTokenId = rt.id) = sess.toList)
      (loadSession settings now rt) (loadSession settings now rt) s t := by
  refine Tx.agrees_get_bind ?_
  rw [hsame]
  split
  · rename_i hnone
    exact Tx.agrees_pure ⟨rfl, rfl, hnone⟩
  · rename_i sess hone
    exact Tx.agrees_ite (fun _ => Tx.agrees_throw _ _) fun _ => Tx.agrees_pure ⟨rfl, rfl, hone⟩
  · exact Tx.agrees_throw _ _

/-- **`refresh_tokens`** on both sides. -/
lemma agrees_refreshTokens (h : BothLive now draws s t) (hs : LiveKeys s) (ht : LiveKeys t)
    (rawRefresh : String) :
    Tx.Agrees (fun _ s' t' => SameLive now s' t')
      (refreshTokens settings crypto now draws rawRefresh)
      (refreshTokens settings crypto now draws rawRefresh) s t := by
  have hfound : Tx.Answers (loadToken crypto now rawRefresh) t _ := answers_loadToken ht rawRefresh
  rw [h.tokens] at hfound
  refine Tx.agrees_bind (Tx.agrees_of_answers (answers_loadToken hs rawRefresh) hfound) ?_
  rintro rt s' t' ⟨rfl, rfl, hlive⟩
  have hrt := List.mem_of_find?_eq_some hlive
  refine Tx.agrees_bind (agrees_loadMember h.toSameLive rt) ?_
  rintro ⟨user, membership, tenant⟩ s' t' ⟨rfl, rfl⟩
  refine Tx.agrees_modify_bind (Tx.agrees_modify_bind ?_)
  have hsessions : t'.sessions.filter (fun x => x.refreshTokenId = rt.id)
      = s'.sessions.filter fun x => x.refreshTokenId = rt.id := by
    rw [filter_sessions_of_live hrt, filter_sessions_of_live (h.tokens ▸ hrt), h.sessions]
  refine Tx.agrees_bind (agrees_loadSession hsessions) ?_
  rintro sess u v ⟨rfl, rfl, hsess⟩
  refine Tx.agrees_modify_bind ?_
  have hrotated : SameLive now (rotate settings crypto now draws rt sess s')
      (rotate settings crypto now draws rt sess t') :=
    h.toSameLive.rotate hs ht h.left h.right hrt hsess (hsessions.trans hsess)
  exact Tx.agrees_bind (agrees_createAccessToken _ fun _ => hrotated) fun _ _ _ hsame =>
    Tx.agrees_pure hsame

end

end EclServer.Auth
