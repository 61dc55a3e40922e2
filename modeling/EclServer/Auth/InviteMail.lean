import EclServer.Auth.InviteLifecycle

/-!
The mails of the invitations over any requests and clean-up jobs.

* `Deliverable`: each pending invitation has a mail whose raw token hashes to its token hash.
* `MailWrite`: what a request writes to the invitations and the outbox, where it keeps that.
* `serve_mails`: every request but one makes such a write; `serve_resendInvite`: a resend draws a new
  token and sends nothing.
* `invite_mail_iff`: over every run, the pending invitations stay deliverable exactly when no resend
  goes through on one of them.
-/

namespace EclServer.Auth

open EclServer.Library

/-- The raw tokens that the mails of the outbox carry. -/
def rawTokens (db : AuthDb) : List String :=
  db.emailOutbox.filterMap fun mail => mail.payload.lookup "raw_token"

/-- A mail of the outbox carries a raw token of the hash. -/
def Mailed (crypto : Crypto) (db : AuthDb) (hash : String) : Prop :=
  hash ∈ (rawTokens db).map crypto.hashToken

/-- **Every pending invitation is deliverable.** -/
def Deliverable (crypto : Crypto) (db : AuthDb) : Prop :=
  ∀ inv ∈ db.invitations, inv.status = .pending → Mailed crypto db inv.tokenHash

instance (crypto : Crypto) (db : AuthDb) (hash : String) : Decidable (Mailed crypto db hash) :=
  inferInstanceAs (Decidable (_ ∈ _))

instance (crypto : Crypto) (db : AuthDb) : Decidable (Deliverable crypto db) :=
  inferInstanceAs (Decidable (∀ inv ∈ db.invitations, _))

/-- No mail is gone, and what is pending was pending with the same token, or has a mail. -/
structure MailWrite (crypto : Crypto) (db t : AuthDb) : Prop where
  outbox : db.emailOutbox ⊆ t.emailOutbox
  pending : ∀ inv ∈ t.invitations, inv.status = .pending → Mailed crypto t inv.tokenHash ∨
    ∃ old ∈ db.invitations, old.status = .pending ∧ old.tokenHash = inv.tokenHash

section

variable {settings : Settings} {crypto : Crypto} {now : Time} {db t : AuthDb}

lemma Mailed.mono {hash : String} (h : Mailed crypto db hash)
    (houtbox : db.emailOutbox ⊆ t.emailOutbox) : Mailed crypto t hash :=
  List.map_subset _ (List.filterMap_subset _ houtbox) h

/-- The raw token of an invitation's mail. -/
lemma mailed_of_mem {created : Invitation × String}
    (hhash : created.1.tokenHash = crypto.hashToken created.2)
    (h : inviteMail created ∈ db.emailOutbox) : Mailed crypto db created.1.tokenHash :=
  hhash ▸ List.mem_map_of_mem (List.mem_filterMap.mpr ⟨_, h, rfl⟩)

namespace MailWrite

/-- **Such a write** keeps the pending invitations deliverable. -/
lemma keeps (h : MailWrite crypto db t) (hdb : Deliverable crypto db) : Deliverable crypto t := by
  intro inv hinv hpending
  rcases h.pending inv hinv hpending with hmailed | ⟨old, hold, hwas, hhash⟩
  · exact hmailed
  · rw [← hhash]
    exact (hdb old hold hwas).mono h.outbox

lemma of_same (hrows : t.invitations = db.invitations) (houtbox : db.emailOutbox ⊆ t.emailOutbox) :
    MailWrite crypto db t :=
  ⟨houtbox, fun inv hinv hpending => Or.inr ⟨inv, hrows ▸ hinv, hpending, rfl⟩⟩

lemma refl (db : AuthDb) : MailWrite crypto db db := of_same rfl (List.Subset.refl _)

/-- New invitations come with their mails. -/
lemma of_adds {created : List (Invitation × String)} (h : AddsInvitations crypto created db t) :
    MailWrite crypto db t := by
  refine ⟨h.outbox, fun inv hinv hpending => ?_⟩
  rw [h.invitations, List.mem_append] at hinv
  rcases hinv with hold | hnew
  · exact Or.inr ⟨inv, hold, hpending, rfl⟩
  · obtain ⟨c, hc, rfl⟩ := List.mem_map.mp hnew
    exact Or.inl (mailed_of_mem (h.hashed c hc) (h.mails (List.mem_map_of_mem hc)))

/-- Invitations that end need no mail. -/
lemma of_ends {f : Invitation → Invitation} (houtbox : db.emailOutbox ⊆ t.emailOutbox)
    (hrows : t.invitations = db.invitations.map f)
    (hf : ∀ i, (f i).status = .pending → f i = i) : MailWrite crypto db t := by
  refine ⟨houtbox, fun inv hinv hpending => ?_⟩
  rw [hrows, List.mem_map] at hinv
  obtain ⟨i, hi, rfl⟩ := hinv
  have hsame : f i = i := hf i hpending
  rw [hsame] at hpending ⊢
  exact Or.inr ⟨i, hi, hpending, rfl⟩

/-- A request of a signed-in user that returns makes such a write. -/
lemma of_currentUser {α : Type} {token : Option Payload} {body : User → Request α} {w : World}
    (h : ∀ user r t, Tx.exec (body user) w.db = (.ok r, t) → MailWrite crypto w.db t) :
    MailWrite crypto w.db (getDbCached (withCurrentUser settings now token body) w).2.db := by
  rcases getDbCached_snd (withCurrentUser settings now token body) w with hsame | ⟨r, hexec⟩
  · rw [hsame]
    exact refl w.db
  · obtain ⟨user, db', -, hbody, hw⟩ := exec_withCurrentUser_ok hexec
    rw [hw]
    exact h user r db' hbody

lemma of_auth {w : World} {request : AuthRequest} (hother : OtherKeepsLinks request) :
    MailWrite crypto w.db (perform settings crypto now w request).db := by
  by_cases hwrites : WritesLinks request
  · cases request with
    | acceptInvite draws request =>
        refine Tx.commit_induction (I := MailWrite crypto w.db) (refl w.db) fun _ _ hexec => ?_
        obtain ⟨inv, -, -, hrows, -, houtbox⟩ := exec_acceptInvite_ok hexec
        refine of_ends houtbox hrows fun i hpending => ?_
        split at hpending
        · cases hpending
        · rename_i hid
          rw [if_neg hid]
    | resetPassword request =>
        refine Tx.commit_induction (I := MailWrite crypto w.db) (refl w.db) fun _ _ hexec => ?_
        obtain ⟨p, -, -, -, -, hrows, houtbox⟩ := exec_resetPassword_ok hexec
        exact of_same hrows houtbox
    | _ => exact hwrites.elim
  · have hlinks : SameLinks w.db (perform settings crypto now w request).db :=
      links_perform w hother hwrites
    exact of_same hlinks.invitations hlinks.outbox

end MailWrite

/-- A resend. -/
def Resends : ServiceRequest → Prop
  | .resendInvite _ _ _ => True
  | _ => False

/-- **What the other requests write** keeps the pending invitations deliverable. -/
lemma serve_mails {w : World} {request : ServiceRequest} (hresends : ¬ Resends request) :
    MailWrite crypto w.db (serve settings crypto now w request).db := by
  cases request with
  | auth request h => exact .of_auth h
  | forgotPassword d email =>
      refine Tx.commit_induction (I := MailWrite crypto w.db) (.refl w.db) fun _ _ hexec => ?_
      rcases exec_forgotPassword_ok hexec with rfl | ⟨userId, -, -, hrows, houtbox⟩
      · exact .refl w.db
      · exact .of_same hrows houtbox
  | sendInvite token d request =>
      exact .of_currentUser fun user inv t hexec => .of_adds (exec_sendInvite_ok hexec).2
  | batchSendInvites token draws request =>
      exact .of_currentUser fun user out t hexec => .of_adds (exec_batchSendInvites_ok hexec).2.2
  | completeOnboarding token draws tenantId request =>
      refine .of_currentUser fun user r t hexec => ?_
      rcases exec_completeOnboarding_ok hexec with ⟨hrows, houtbox⟩ | ⟨-, -, -, hadds⟩
      · exact .of_same hrows houtbox
      · exact .of_adds hadds
  | cancelInvite token inviteId =>
      refine .of_currentUser fun user r t hexec => ?_
      obtain ⟨inv, -, -, houtbox, hrows⟩ := exec_cancelInvite_ok hexec
      refine .of_ends (houtbox ▸ List.Subset.refl _) hrows fun i hpending => ?_
      split at hpending
      · cases hpending
      · rename_i hid
        rw [if_neg hid]
  | resendInvite token raw inviteId => exact absurd trivial hresends
  | expireInvitations =>
      refine .of_ends (List.Subset.refl _) rfl fun i hpending => ?_
      split at hpending
      · cases hpending
      · rename_i hoverdue
        rw [if_neg hoverdue]
  | expirePasswordResetTokens => exact .of_same rfl (List.Subset.refl _)
  | purgeRevokedRefreshTokens => exact .of_same rfl (List.Subset.refl _)
  | pass => exact .refl w.db

/-! ### A resend -/

/-- The resend of a user finds the invitation, goes through and renews it. -/
structure Renews (crypto : Crypto) (now : Time) (raw inviteId : String) (db : AuthDb) (user : User)
    (inv : Invitation) : Prop where
  found : db.invitations.find? (fun i => i.id = inviteId) = some inv
  admin : IsTenantAdmin db inv.tenantId user
  keys : InvitationKeys (updateByKey Invitation.id inv.id (renewed crypto now raw) db.invitations)

lemma exec_resendInvite_of {raw inviteId : String} {user : User} {inv : Invitation}
    (h : Renews crypto now raw inviteId db user inv) :
    Tx.exec (resendInvite crypto now raw inviteId user) db = (.ok (), { db with
      invitations := updateByKey Invitation.id inv.id (renewed crypto now raw) db.invitations }) := by
  obtain ⟨m, hguard⟩ := exec_requireTenantAdmin_of h.admin
  have hload : Tx.exec (loadInvite inviteId) db = (.ok inv, db) := by
    rw [loadInvite, Tx.exec_get_bind, h.found]
    rfl
  rw [resendInvite, Tx.exec_bind_ok hload, Tx.exec_bind_ok hguard, Tx.exec_get_bind, writeInvitations,
    if_pos h.keys, Tx.exec_modify]

/-- A resend leaves the two tables alone, or it renews an invitation and leaves the outbox alone. -/
lemma serve_resendInvite (w : World) (token : Option Payload) (raw inviteId : String) :
    (serve settings crypto now w (.resendInvite token raw inviteId)).db = w.db ∧
        (∀ user inv, getCurrentUser settings now w token = .ok user →
          ¬ Renews crypto now raw inviteId w.db user inv) ∨
      ∃ user inv, getCurrentUser settings now w token = .ok user ∧
        Renews crypto now raw inviteId w.db user inv ∧
        (serve settings crypto now w (.resendInvite token raw inviteId)).db = { w.db with
          invitations := updateByKey Invitation.id inv.id
            (renewed crypto now raw) w.db.invitations } := by
  rw [serve]
  by_cases hok : ∃ user inv, getCurrentUser settings now w token = .ok user ∧
      Renews crypto now raw inviteId w.db user inv
  · obtain ⟨user, inv, huser, hrenews⟩ := hok
    refine Or.inr ⟨user, inv, huser, hrenews, ?_⟩
    exact getDbCached_withCurrentUser huser (exec_resendInvite_of hrenews)
  · push Not at hok
    refine Or.inl ⟨?_, hok⟩
    rcases getDbCached_snd (withCurrentUser settings now token
      (resendInvite crypto now raw inviteId)) w with hsame | ⟨r, hexec⟩
    · exact hsame
    · obtain ⟨user, db', huser, hbody, -⟩ := exec_withCurrentUser_ok hexec
      obtain ⟨inv, hfound, hadmin, -, hrows, hkeys⟩ := exec_resendInvite_ok hbody
      exact absurd ⟨hfound, hadmin, hrows ▸ hkeys⟩ (hok user inv huser)

/-- **A resend** keeps the pending invitations deliverable exactly when the one it renews is not
pending, or a mail carries the new token already. -/
lemma renewal_step_iff {raw inviteId : String} {user : User} {inv : Invitation}
    (hkeys : InvitationKeys db.invitations) (hdb : Deliverable crypto db)
    (hrenews : Renews crypto now raw inviteId db user inv)
    (h : t = { db with
      invitations := updateByKey Invitation.id inv.id (renewed crypto now raw) db.invitations }) :
    Deliverable crypto t ↔ inv.status ≠ .pending ∨ Mailed crypto db (crypto.hashToken raw) := by
  have hinv := List.mem_of_find?_eq_some hrenews.found
  have houtbox : t.emailOutbox = db.emailOutbox := by rw [h]
  have hmailed : ∀ hash, Mailed crypto t hash ↔ Mailed crypto db hash := by
    intro hash
    rw [Mailed, Mailed, rawTokens, rawTokens, houtbox]
  constructor
  · intro hafter
    by_cases hpending : inv.status = .pending
    · have hnew : renewed crypto now raw inv ∈ t.invitations := by
        rw [h]
        exact (mem_updateByKey _).mpr ⟨inv, hinv, if_pos rfl⟩
      exact Or.inr ((hmailed _).mp (hafter _ hnew hpending))
    · exact Or.inl hpending
  · intro hcase inv' hinv' hpending
    rw [h, mem_updateByKey] at hinv'
    obtain ⟨i, hi, rfl⟩ := hinv'
    rw [hmailed]
    by_cases hid : i.id = inv.id
    · obtain rfl := hkeys.eq_of_id hi hinv hid
      rw [if_pos rfl] at hpending ⊢
      rcases hcase with hnot | hthere
      · exact absurd hpending hnot
      · exact hthere
    · rw [if_neg hid] at hpending ⊢
      exact hdb i hi hpending

end

/-! ### Runs -/

section

variable (settings : Settings) (crypto : Crypto)

/-- The request keeps the pending invitations deliverable. A resend that goes through must find the
invitation not pending, or draw a token that a mail of the outbox carries already. -/
def KeepsDeliverable (st : AuthState) (a : ServiceAction) : Prop :=
  match a.request with
  | .resendInvite token raw inviteId =>
      ∀ user inv, getCurrentUser settings (a.arrival st) st.world token = .ok user →
        Renews crypto (a.arrival st) raw inviteId st.world.db user inv →
        inv.status ≠ .pending ∨ Mailed crypto st.world.db (crypto.hashToken raw)
  | _ => True

end

section

variable {settings : Settings} {crypto : Crypto}

/-- **One request** keeps the pending invitations deliverable exactly when it is one that does. -/
lemma deliverable_step_iff (st : AuthState) (a : ServiceAction)
    (hkeys : InvitationKeys st.world.db.invitations) (hdb : Deliverable crypto st.world.db) :
    Deliverable crypto (serviceStep settings crypto st a).world.db
      ↔ KeepsDeliverable settings crypto st a := by
  obtain ⟨wait, request⟩ := a
  by_cases hresends : Resends request
  · cases request with
    | resendInvite token raw inviteId =>
        rcases @serve_resendInvite settings crypto (ServiceAction.arrival st ⟨wait, _⟩) st.world token
          raw inviteId with ⟨hsame, hnone⟩ | ⟨user, inv, huser, hrenews, hdb'⟩
        · have hafter : Deliverable crypto (serviceStep settings crypto st
              ⟨wait, .resendInvite token raw inviteId⟩).world.db := by
            rw [serviceStep, hsame]
            exact hdb
          refine iff_of_true hafter fun user inv huser hrenews => ?_
          exact absurd hrenews (hnone user inv huser)
        · refine (renewal_step_iff hkeys hdb hrenews hdb').trans ⟨fun h user' inv' _ hrenews' => ?_,
            fun h => h user inv huser hrenews⟩
          have hfound := hrenews'.found
          rw [hrenews.found] at hfound
          exact Option.some.inj hfound ▸ h
    | _ => exact hresends.elim
  · refine iff_of_true ((serve_mails hresends).keeps hdb) ?_
    cases request <;> first | exact absurd trivial hresends | trivial

/-- **Over every run**, each pending invitation has its mail in every state exactly when every
request is one that keeps it. A resend of a pending invitation does not: it draws a new token and
queues no mail. -/
theorem invite_mail_iff {st : AuthState} (hkeys : InvitationKeys st.world.db.invitations)
    (hdb : Deliverable crypto st.world.db) (actions : List ServiceAction) :
    Always (serviceStep settings crypto) (fun st => Deliverable crypto st.world.db) st actions
      ↔ EachStep (serviceStep settings crypto) (KeepsDeliverable settings crypto) st actions :=
  always_iff_eachStep_of_invariant (A := fun _ _ => True)
    (I := fun st : AuthState => InvitationKeys st.world.db.invitations)
    (fun st a h _ => invitationKeys_step st a h)
    (fun st a h hdeliverable _ => deliverable_step_iff st a h hdeliverable) hkeys hdb
    (EachStep.of_forall (fun _ _ => trivial) _ _)

end

/-! ### A resend of a pending invitation -/

/-- Ann invites Bob, and sends the invitation once more. -/
def inviteAndResend : List ServiceAction :=
  [⟨0, .sendInvite annToken ⟨"i1", "one"⟩ ⟨"bob@bank.test", "analyst", "t1"⟩⟩,
    ⟨0, .resendInvite annToken "two" "i1"⟩]

theorem invite_mail_iff_sample :
    Always (serviceStep keySettings plainCrypto) (fun st => Deliverable plainCrypto st.world.db)
        ⟨{ db := newBankDb }, 0⟩ inviteAndResend
      ↔ EachStep (serviceStep keySettings plainCrypto) (KeepsDeliverable keySettings plainCrypto)
        ⟨{ db := newBankDb }, 0⟩ inviteAndResend :=
  invite_mail_iff (by decide) (by decide) _

/-- **The link of the mail is dead**: after the resend the invitation has a token that no mail
carries. -/
theorem invite_mail_fails :
    ¬ Always (serviceStep keySettings plainCrypto) (fun st => Deliverable plainCrypto st.world.db)
      ⟨{ db := newBankDb }, 0⟩ inviteAndResend := by
  intro h
  have hlast := h inviteAndResend List.prefix_rfl
  revert hlast
  decide

end EclServer.Auth
