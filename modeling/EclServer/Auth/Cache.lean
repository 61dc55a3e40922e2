import EclServer.Auth.Sessions

/-!
Redis and the access token: `app/core/cache.py`, `decode_access_token` of `app/core/security.py`
and `get_current_user` of `app/dependencies.py`.

* `Redis`: the keys of the token blacklist with their expiries, unless the server is down.
* `World`: the database, Redis and the clock. `CachedRequest`: a service body over both stores;
  what it wrote to Redis stays when its transaction is rolled back.
* `decodeAccessToken`, `isTokenBlacklisted`, `getCurrentUser`: who an access token signs in.
* `logoutUserCached`, `purgeExpiredTokenBlacklist`: the writers of the blacklist.
-/

namespace EclServer.Auth

open EclServer.Library

/-! ### Redis -/

/-- The keys `blacklist:jti:{jti}`, each with the time it expires. -/
structure Redis where
  up : Bool := true
  blacklist : List (String × Time) := []
  deriving DecidableEq, Repr

namespace Redis

/-- `EXISTS` of a key, which is there up to the instant it expires. -/
def holds (redis : Redis) (now : Time) (jti : String) : Bool :=
  redis.blacklist.any fun entry => entry.1 = jti ∧ now ≤ entry.2

/-- `SETEX` with a time to live in seconds. -/
def setex (redis : Redis) (now : Time) (jti : String) (ttl : ℤ) : Redis :=
  { redis with
    blacklist := (jti, now + seconds ttl) :: redis.blacklist.filter fun entry => entry.1 ≠ jti }

/-- A key is evicted. -/
def evict (redis : Redis) (jti : String) : Redis :=
  { redis with blacklist := redis.blacklist.filter fun entry => entry.1 ≠ jti }

end Redis

/-- The stores of the API. -/
structure World where
  db : AuthDb
  redis : Redis := {}
  deriving DecidableEq, Repr

/-- A service body over the database session and Redis. -/
abbrev CachedRequest (α : Type) := Tx ECLException World α

/-- `get_db` around such a body: a rollback does not reach Redis. -/
def getDbCached {α : Type} (body : CachedRequest α) (w : World) : Except ECLException α × World :=
  Tx.commitWith (fun before raised => { before with redis := raised.redis }) body w

/-- A body that uses the database only. -/
def onDb {α : Type} (body : Request α) : CachedRequest α := do
  let w ← get
  let (answer, db) := Tx.exec body w.db
  set { w with db := db }
  liftM answer

/-! ### Access tokens -/

def tokenInvalid (detail : String) : ECLException :=
  { code := "TOKEN_INVALID", detail := detail, statusCode := 401 }

def tokenExpired : ECLException :=
  { code := "TOKEN_EXPIRED", detail := "Access token has expired.", statusCode := 401 }

def tokenBlacklisted : ECLException :=
  { code := "TOKEN_BLACKLISTED", detail := "Token has been revoked.", statusCode := 401 }

def currentUserDisabled : ECLException :=
  { code := "ACCOUNT_DISABLED", detail := "Account is disabled.", statusCode := 403 }

section

variable (settings : Settings) (crypto : Crypto) (now : Time)

/-- `decode_access_token` of a text; `none` is a text without a valid signature. -/
def decodeAccessToken (token : Option Payload) : Except ECLException Payload :=
  if settings.jwtPublicKey = "" then .error (tokenInvalid "JWT keys not configured")
  else
    match token with
    | none => .error (tokenInvalid "Invalid access token.")
    | some payload => if timestamp now ≤ payload.exp then .ok payload else .error tokenExpired

/-- `is_token_blacklisted`: Redis first, and the database where Redis is down or has no key. -/
def isTokenBlacklisted (redis : Redis) (jti : String) (db : AuthDb) : Bool :=
  (redis.up && redis.holds now jti)
    || db.tokenBlacklist.any fun entry => entry.jti = jti ∧ now < entry.expiresAt

/-- The live and active account of an id. -/
def AuthDb.getActiveUserById (db : AuthDb) (userId : String) : Option User :=
  (db.users.find? fun u => u.id = userId ∧ u.deletedAt = none).filter (·.isActive)

/-- `get_current_user`. -/
def getCurrentUser (w : World) (token : Option Payload) : Except ECLException User := do
  let payload ← decodeAccessToken settings now token
  if payload.jti ≠ "" ∧ isTokenBlacklisted now w.redis payload.jti w.db = true then
    throw tokenBlacklisted
  else if payload.sub = "" then throw (tokenInvalid "Invalid token payload.")
  else
    match w.db.getActiveUserById payload.sub with
    | none => throw currentUserDisabled
    | some user => return user

/-! ### The blacklist -/

/-- The time to live `blacklist_token` gives the key, in whole seconds. -/
def blacklistTtl (expiresAt : Time) : ℤ := max 1 ((expiresAt - now).tdiv 1000000)

/-- The Redis half of `blacklist_token`. -/
def blacklistInRedis (jti : String) (expiresAt : Time) : CachedRequest Unit := do
  let w ← get
  if w.redis.up then
    set { w with redis := w.redis.setex now jti (blacklistTtl now expiresAt) }
  else throw unexpectedError

/-- `blacklist_token`. -/
def blacklistTokenCached (entry : TokenBlacklist) : CachedRequest Unit := do
  blacklistInRedis now entry.jti entry.expiresAt
  onDb (blacklistToken entry)

/-- The payloads that a logout blacklists. -/
def blacklistable (payload : Payload) : Bool :=
  payload.jti ≠ "" ∧ payload.exp ≠ 0 ∧ payload.sub ≠ ""

/-- The key of a logged-out access token, where it decodes. -/
def blacklistAccessInRedis (payload : Option Payload) : CachedRequest Unit :=
  match payload.filter blacklistable with
  | some p => blacklistInRedis now p.jti (seconds p.exp)
  | none => pure ()

/-- `logout_user`, with the key it sets in Redis before its first write to the database. -/
def logoutUserCached (token : Option Payload) (rawRefresh : Option String) :
    CachedRequest Unit := do
  let payload := (decodeAccessToken settings now token).toOption
  blacklistAccessInRedis now payload
  onDb (logoutUser crypto payload rawRefresh)

/-- `purge_expired_token_blacklist`. -/
def purgeExpiredTokenBlacklist (db : AuthDb) : AuthDb :=
  { db with tokenBlacklist := db.tokenBlacklist.filter fun entry => ¬ entry.expiresAt < now }

end

end EclServer.Auth
