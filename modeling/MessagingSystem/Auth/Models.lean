import MessagingSystem.Channels.Requests
import MessagingSystem.Foundation.Transactions

/-!
# Accounts and sessions

The rows that logins, refresh tokens, revocations and email verification share, and
what these services take from their surroundings: tokens are signed and read by a
library, passwords are hashed by another one.
-/

namespace MessagingSystem

open Foundation

/-!
# Rows
-/

/-- The columns of a user that the account services add to those of the channels. -/
structure Account extends User where
  wallpaperUrl : Option String
  bio : Option String
  passwordHash : String
  deactivatedAt : Option Instant
  deactivatedByUserId : Option Uuid

structure UserSession where
  userId : Uuid
  refreshTokenHash : String
  userAgent : Option String
  ip : Option String
  lastUsedAt : Option Instant
  expiresAt : Instant
  absoluteExpiresAt : Instant
  revokedAt : Option Instant
  replayDetectedAt : Option Instant

structure EmailVerificationChallenge where
  userId : Uuid
  email : String
  tokenHash : String
  createdAt : Instant
  expiresAt : Instant
  consumedAt : Option Instant
  revokedAt : Option Instant

/--
What a committed transaction did, for statements about the past.  No service reads
this.  A login records how many revocations of all sessions of the user had been
committed when it read the password.
-/
inductive AccountEvent where
  | opened (sessionId userId : Uuid) (token : String) (revocationsSeen : Nat)
  | exchanged (sessionId : Uuid) (token newToken : String)
  | loggedOut (sessionId : Uuid) (token : String)
  | replayDetected (sessionId : Uuid) (token : String)
  | sessionsRevoked (userId : Uuid)
  | addressChanged (userId : Uuid)
  | challengeConsumed (userId : Uuid) (email : String)
  deriving DecidableEq

structure AccountDatabase where
  users : Table Uuid Account
  sessions : Table Uuid UserSession
  challenges : Table Uuid EmailVerificationChallenge
  history : List AccountEvent

namespace AccountDatabase

def empty : AccountDatabase where
  users := Table.empty
  sessions := Table.empty
  challenges := Table.empty
  history := []

/-- The committed revocations of all sessions of a user. -/
def revocations (db : AccountDatabase) (userId : Uuid) : Nat :=
  db.history.count (AccountEvent.sessionsRevoked userId)

def record (db : AccountDatabase) (event : AccountEvent) : AccountDatabase :=
  { db with history := db.history ++ [event] }

end AccountDatabase

inductive AccountLock where
  | user (userId : Uuid)
  | session (sessionId : Uuid)
  | challenge (challengeId : Uuid)
  deriving DecidableEq

abbrev AccountScript := Script AccountDatabase AccountLock Failure

/-!
# Surroundings
-/

/-- The claims of a token; an id that is absent or no UUID, and an unreadable expiry,
are absent. -/
structure Claims where
  tokenType : Option String
  sub : Option Uuid
  sid : Option Uuid
  expiresAt : Option Instant

structure TokenPayload where
  sub : String
  sid : String
  jti : Option String
  tokenType : String
  iat : Int
  exp : Int

structure AuthEnv where
  jwtAccessTtlMin : Nat
  sessionAbsoluteTtlDays : Nat
  emailVerificationEnabled : Bool
  emailVerificationTtlMinutes : Nat
  sha256Hex : String -> String
  /-- `str.lower`. -/
  lowerText : String -> String
  /-- `lower` of the database. -/
  sqlLower : String -> String
  sqlLowerBtrim : String -> String
  /-- `jwt.decode` at a clock reading: the signature and the expiry are valid. -/
  decodeToken : Instant -> String -> Option Claims
  encodeToken : TokenPayload -> String
  verifyPassword : String -> String -> Bool
  /-- The hash of a password under a salt. -/
  hashPassword : String -> String -> String

def AuthEnv.normalizeEmail (env : AuthEnv) (value : String) : String :=
  env.lowerText (strip value)

/-- The address of an account in the form that is compared. -/
def Account.address (env : AuthEnv) (account : Account) : Option String :=
  account.email.map env.normalizeEmail

/-!
# Tokens
-/

/-- 1970-01-01, in microseconds since the beginning of year 1. -/
def unixEpoch : Nat := 62135596800000000

/-- `int(value.timestamp())`. -/
def Instant.timestamp (t : Instant) : Int :=
  ((t.val : Int) - unixEpoch).tdiv microsPerSecond

def createAccessToken (env : AuthEnv) (userId sessionId : Uuid) (authExpiresAt now : Instant) :
    Except Failure String := do
  let expiresAt ← orFail (now.add? (env.jwtAccessTtlMin * microsPerMinute))
    Failure.overflowError
  pure (env.encodeToken
    { sub := userId.str
      sid := sessionId.str
      jti := none
      tokenType := "access"
      iat := now.timestamp
      exp := (min expiresAt authExpiresAt).timestamp })

def createRefreshToken (env : AuthEnv) (userId sessionId : Uuid) (expiresAt now : Instant)
    (jti : String) : String :=
  env.encodeToken
    { sub := userId.str
      sid := sessionId.str
      jti := some jti
      tokenType := "refresh"
      iat := now.timestamp
      exp := expiresAt.timestamp }

def invalidTokenPayload : Failure :=
  appError "invalid token payload" 401 "AUTH_INVALID"

/-- `_uuid_claim`. -/
def uuidClaim (value : Option Uuid) : Except Failure Uuid :=
  orFail value invalidTokenPayload

def decodeToken (env : AuthEnv) (now : Instant) (token : String) : Except Failure Claims :=
  orFail (env.decodeToken now token) (Failure.valueError "invalid token")

/-!
# Changed columns
-/

structure AccountPatch where
  email : Option (Option String) := none
  emailVerifiedAt : Option (Option Instant) := none
  displayName : Option (Option String) := none
  avatarUrl : Option (Option String) := none
  wallpaperUrl : Option (Option String) := none
  bio : Option (Option String) := none
  passwordHash : Option String := none
  isActive : Option Bool := none
  deactivatedAt : Option (Option Instant) := none
  deactivatedByUserId : Option (Option Uuid) := none
  deriving DecidableEq

def AccountPatch.apply (patch : AccountPatch) (account : Account) : Account :=
  { account with
    email := patch.email.getD account.email
    emailVerifiedAt := patch.emailVerifiedAt.getD account.emailVerifiedAt
    displayName := patch.displayName.getD account.displayName
    avatarUrl := patch.avatarUrl.getD account.avatarUrl
    wallpaperUrl := patch.wallpaperUrl.getD account.wallpaperUrl
    bio := patch.bio.getD account.bio
    passwordHash := patch.passwordHash.getD account.passwordHash
    isActive := patch.isActive.getD account.isActive
    deactivatedAt := patch.deactivatedAt.getD account.deactivatedAt
    deactivatedByUserId := patch.deactivatedByUserId.getD account.deactivatedByUserId }

end MessagingSystem
