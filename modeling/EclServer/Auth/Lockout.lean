import EclServer.Auth.Login
import EclServer.Library.Run

/-!
Account lockout over sequences of login requests.

* `LockState`: the bookkeeping that `check_lockout` and `handle_failed_login` describe, as
  if every write of a login request lasted.
* `LockoutHolds`: along a sequence of requests, whoever arrives while that bookkeeping has
  the account locked is answered `ACCOUNT_LOCKED`.
* `unlocked_login`, `login_not_locked`: what one request does to an account without a lock.
  The failure count is written and then rolled back with the exception that reports the
  bad credentials, so no request locks the account.
* `lockoutHolds_iff`: the law holds exactly of the sequences in which no request arrives
  inside a lock.
-/

namespace EclServer.Auth

open EclServer.Library

/-! ### The law -/

/-- Consecutive wrong passwords so far, and the lock in force. -/
structure LockState where
  failures : ℕ := 0
  lockedUntil : Option Time := none
  deriving DecidableEq, Repr

/-- One login request: when it arrives, what it says and what it draws. -/
structure Attempt where
  now : Time
  request : LoginRequest
  draws : Draws

namespace LockState

/-- The account is locked at time `t`. -/
def LockedAt (s : LockState) (t : Time) : Prop := ∃ l ∈ s.lockedUntil, t < l

instance (s : LockState) (t : Time) : Decidable (s.LockedAt t) :=
  match h : s.lockedUntil with
  | none => isFalse (by simp [LockedAt, h])
  | some l => decidable_of_iff (t < l) (by simp [LockedAt, h])

/-- The bookkeeping after a request: a locked account stays as it is, a right password
clears it, a wrong one is counted and sets the lock of its tier. -/
def next (settings : Settings) (right : Attempt → Bool) (s : LockState) (a : Attempt) :
    LockState :=
  if s.LockedAt a.now then s
  else if right a then {}
  else
    { failures := s.failures + 1
      lockedUntil := lockoutUntil settings a.now (s.failures + 1) s.lockedUntil }

end LockState

section

variable (settings : Settings) (crypto : Crypto)

/-- A login request in its database transaction. -/
def login (db : AuthDb) (a : Attempt) : Except ECLException LoginResponse × AuthDb :=
  getDb (loginUser settings crypto a.now a.draws a.request) db

/-- The request is answered `ACCOUNT_LOCKED`. -/
def AnswersLocked (r : Except ECLException LoginResponse) : Prop :=
  ∃ e, r = .error e ∧ e.code = "ACCOUNT_LOCKED"

/-- The account at an address: the row `_get_active_user_by_email` finds. -/
def accountAt (address : String) (db : AuthDb) : Option User :=
  db.users.find? fun u => u.email = address ∧ u.deletedAt = none

/-- The bookkeeping and the database after a request. -/
def lockoutStep (right : Attempt → Bool) (st : LockState × AuthDb) (a : Attempt) :
    LockState × AuthDb :=
  (st.1.next settings right a, (login settings crypto st.2 a).2)

/-- **The lockout law**: every request of the sequence that arrives while the account is
locked is answered `ACCOUNT_LOCKED`. -/
def LockoutHolds (right : Attempt → Bool) (st : LockState × AuthDb)
    (attempts : List Attempt) : Prop :=
  EachStep (lockoutStep settings crypto right)
    (fun st a => st.1.LockedAt a.now → AnswersLocked (login settings crypto st.2 a).1)
    st attempts

/-- No request of the sequence arrives while the account is locked. -/
def NeverInsideLock (right : Attempt → Bool) (s : LockState) (attempts : List Attempt) :
    Prop :=
  EachStep (LockState.next settings right) (fun s a => ¬ s.LockedAt a.now) s attempts

end

/-! ### One request on an account without a lock -/

section

variable (settings : Settings) {crypto : Crypto} {address : String} {db : AuthDb}

/-- The account exists and no lock is stored for it. -/
def Unlocked (address : String) (db : AuthDb) : Prop :=
  ∃ u, accountAt address db = some u ∧ u.lockedUntil = none

/-- Clearing the failures of one user neither removes nor locks the account at an address. -/
lemma unlocked_clearFailures (h : Unlocked address db) (user : User) (now : Time) :
    Unlocked address (clearFailures db user now) := by
  obtain ⟨u, hfind, hu⟩ := h
  rw [accountAt] at hfind
  simp only [Unlocked, accountAt, clearFailures, AuthDb.updateUser, List.find?_map]
  rw [show ((fun u : User => decide (u.email = address ∧ u.deletedAt = none)) ∘
      fun v => if v.id = user.id then
        { v with failedLoginCount := 0, lockedUntil := none, lastLoginAt := some now } else v)
      = fun u => decide (u.email = address ∧ u.deletedAt = none) from by
    funext v
    simp only [Function.comp_apply]
    split <;> rfl]
  rw [hfind]
  refine ⟨_, rfl, ?_⟩
  beta_reduce
  split
  · rfl
  · exact hu

/-- A request changes the users table, if at all, by clearing one user's failures. -/
lemma users_login (crypto : Crypto) (db : AuthDb) (a : Attempt) :
    (login settings crypto db a).2.users = db.users ∨
      ∃ user, (login settings crypto db a).2.users = (clearFailures db user a.now).users := by
  rw [login, getDb]
  rcases Tx.commit_snd (loginUser settings crypto a.now a.draws a.request) db with hs | ⟨_, hok⟩
  · rw [hs]
    exact Or.inl rfl
  · obtain ⟨user, _, _, _, _, _, _, ⟨_, ht, _⟩ | ⟨_, _, _, hr, ht, _⟩⟩ := exec_loginUser_ok hok
    · exact Or.inr ⟨user, by rw [ht]⟩
    · refine Or.inr ⟨user, ?_⟩
      rw [ht, (exec_createSessionTokens hr).1]
      rfl

/-- **Rollback**: no request locks an account that has no lock. -/
lemma unlocked_login (h : Unlocked address db) (a : Attempt) :
    Unlocked address (login settings crypto db a).2 := by
  rcases users_login settings crypto db a with hu | ⟨user, hu⟩
  · simpa only [Unlocked, accountAt, hu] using h
  · simpa only [Unlocked, accountAt, hu] using unlocked_clearFailures h user a.now

/-- A request on an account that has no lock is not answered `ACCOUNT_LOCKED`. -/
lemma login_not_locked (h : Unlocked address db) {a : Attempt}
    (ha : crypto.lower a.request.email = address) :
    ¬ AnswersLocked (login settings crypto db a).1 := by
  obtain ⟨u, hfind, hu⟩ := h
  rintro ⟨e, he, hcode⟩
  have huser : db.getActiveUserByEmail crypto a.request.email = some u := by
    simpa [AuthDb.getActiveUserByEmail, accountAt, ha] using hfind
  rw [login, getDb, Tx.commit_fst] at he
  refine errorsIn_loginUser_of_unlocked (P := fun e => e.code ≠ "ACCOUNT_LOCKED")
    (by decide) (by decide) (by decide) (by decide) (fun v hv => ?_) (Prod.ext he rfl) hcode
  obtain rfl : u = v := by simpa [huser] using hv
  exact hu

end

/-! ### Sequences of requests -/

section

variable {settings : Settings} {crypto : Crypto} {address : String}

/-- On an account without a lock the law holds of a sequence exactly when it asks for
nothing. -/
lemma lockoutHolds_iff_of_unlocked (right : Attempt → Bool) {attempts : List Attempt}
    (haddr : ∀ a ∈ attempts, crypto.lower a.request.email = address) (s : LockState)
    {db : AuthDb} (h : Unlocked address db) :
    LockoutHolds settings crypto right (s, db) attempts
      ↔ NeverInsideLock settings right s attempts := by
  unfold LockoutHolds NeverInsideLock
  induction attempts generalizing s db with
  | nil => simp
  | cons a as ih =>
      have hnot := login_not_locked settings h (haddr a List.mem_cons_self)
      have hnext : Unlocked address (login settings crypto db a).2 := unlocked_login settings h a
      have htail := ih (fun b hb => haddr b (List.mem_cons_of_mem a hb))
        (s.next settings right a) hnext
      rw [eachStep_cons, eachStep_cons]
      exact and_congr ⟨fun hlaw hl => hnot (hlaw hl), fun hn hl => absurd hl hn⟩ htail

/-- **No account is ever locked**: after any sequence of login requests the account still
has no lock. -/
theorem unlocked_run {db : AuthDb} (h : Unlocked address db) (attempts : List Attempt) :
    Unlocked address (run (fun d a => (login settings crypto d a).2) db attempts) :=
  run_invariant (I := Unlocked address) (fun _ a hd => unlocked_login settings hd a) attempts h

/-- **The lockout law holds exactly of the sequences it says nothing about**: those in which no
request arrives while the bookkeeping has the account locked. A wrong password raises, and the count
of the failure is rolled back with its request. -/
theorem lockout_law_iff {db : AuthDb} {user : User}
    (huser : accountAt address db = some user) (hlock : user.lockedUntil = none)
    {attempts : List Attempt}
    (haddr : ∀ a ∈ attempts, crypto.lower a.request.email = address) :
    LockoutHolds settings crypto
        (fun a => crypto.verifyPassword a.request.password user.hashedPassword) ({}, db) attempts
      ↔ NeverInsideLock settings
        (fun a => crypto.verifyPassword a.request.password user.hashedPassword) {} attempts :=
  lockoutHolds_iff_of_unlocked _ haddr {} ⟨user, huser, hlock⟩

end

/-! ### Six requests within six seconds -/

/-- An account as registration leaves it. -/
def sampleUser : User :=
  { id := "u1", email := "ann@bank.test", name := "Ann", hashedPassword := "argon2:correct" }

def sampleDb : AuthDb :=
  { users := [sampleUser]
    tenants := [{ id := "t1", name := "Bank" }]
    memberships :=
      [{ id := "m1", userId := "u1", tenantId := "t1", role := "administrator", joinedAt := 0 }] }

/-- A request of the sample account at second `n`. -/
def sampleAttempt (n : ℤ) (password : String) : Attempt :=
  { now := seconds n
    request := { email := "ann@bank.test", password := password }
    draws := ⟨"f1", "r1", "raw1", "s1", "j1", "u2", "m2"⟩ }

/-- Five wrong passwords and then the right one. -/
def sampleAttempts : List Attempt :=
  (List.range 5).map (fun n => sampleAttempt n "wrong") ++ [sampleAttempt 5 "correct"]

theorem lockout_law_iff_sample :
    (∀ a ∈ sampleAttempts, plainCrypto.lower a.request.email = "ann@bank.test") ∧
      (LockoutHolds {} plainCrypto
          (fun a => plainCrypto.verifyPassword a.request.password sampleUser.hashedPassword)
          ({}, sampleDb) sampleAttempts
        ↔ NeverInsideLock {}
          (fun a => plainCrypto.verifyPassword a.request.password sampleUser.hashedPassword) {}
          sampleAttempts) :=
  ⟨by decide, lockout_law_iff (show accountAt "ann@bank.test" sampleDb = some sampleUser by decide)
    rfl (by decide)⟩

/-- The sixth request arrives one second after the fifth wrong password and is let in. -/
theorem lockout_law_fails :
    ¬ LockoutHolds {} plainCrypto
        (fun a => plainCrypto.verifyPassword a.request.password sampleUser.hashedPassword)
        ({}, sampleDb) sampleAttempts := by
  have hsample : Unlocked "ann@bank.test" sampleDb := ⟨sampleUser, by decide, rfl⟩
  rw [lockoutHolds_iff_of_unlocked _ (by decide) {} hsample]
  unfold NeverInsideLock
  decide

end EclServer.Auth
