import MessagingSystem.Auth.Models

/-!
# Logins, refresh tokens and revocations

The session part of the account services, one script for each request.  A request
carries its clock readings and the random values it draws; the script says what it
reads, which rows it locks and what it commits.  A request that is refused with an
audit event commits that event only, so here it just fails.
-/

namespace MessagingSystem

open Foundation

/-!
# What is committed
-/

inductive RevocationCause where
  | requested
  | accountInactive
  | logout (token : String)
  | replay (token : String)

inductive AccountResult where
  | unchanged
  | loggedIn (sessionId : Uuid) (session : UserSession) (token : String)
      (revocationsSeen : Nat)
  | refreshed (sessionId : Uuid) (token newToken newTokenHash : String)
      (lastUsedAt expiresAt : Instant) (userAgent ip : Option String)
  | sessionRevoked (sessionId : Uuid) (revokedAt : Instant) (cause : RevocationCause)
  | sessionsRevoked (userId : Uuid) (patch : AccountPatch) (sessionIds : List Uuid)
      (revokedAt : Instant)
  | accountChanged (userId : Uuid) (patch : AccountPatch) (challengeIds : List Uuid)
      (revokedAt : Instant)
  | challengeCreated (deletedIds revokedIds : List Uuid) (revokedAt : Instant)
      (challengeId : Uuid) (challenge : EmailVerificationChallenge)
  | challengeRevoked (challengeId : Uuid) (revokedAt : Instant) (failure : Failure)
  | challengeConsumed (userId : Uuid) (patch : AccountPatch) (challengeId : Uuid)
      (email : String) (consumedAt : Instant) (otherIds : List Uuid)

/-- The error of a request that commits and is refused all the same. -/
def AccountResult.failure : AccountResult -> Option Failure
  | sessionRevoked _ _ RevocationCause.accountInactive =>
      some (appError "account is deactivated" 403 "ACCOUNT_DISABLED")
  | sessionRevoked _ _ (RevocationCause.replay _) =>
      some (appError "refresh token replay detected" 401 "AUTH_REPLAY_DETECTED")
  | challengeRevoked _ _ failure => some failure
  | _ => none

/-!
# Checks
-/

def assertActiveSession (session : UserSession) (now : Instant) : Except Failure Unit := do
  require session.revokedAt.isNone (appError "session revoked" 401 "AUTH_EXPIRED")
  require (now < session.expiresAt)
    (appError "session idle lifetime expired" 401 "AUTH_EXPIRED")
  require (now < session.absoluteExpiresAt)
    (appError "session absolute lifetime expired" 401 "AUTH_EXPIRED")

/-- The user and the session as they were loaded; the request keeps these objects. -/
structure AccessContext where
  userId : Uuid
  user : Account
  sessionId : Uuid
  session : UserSession
  tokenExpiresAt : Instant
  authenticationExpiresAt : Instant

/-- `get_session_access_context` on the rows it reads. -/
def checkSessionAccess (db : AccountDatabase) (userId sessionId : Uuid)
    (tokenExpiresAt now : Instant) : Except Failure AccessContext := do
  let invalid : Failure := appError "invalid authentication session" 401 "AUTH_INVALID"
  let user ← orFail (db.users.get userId) invalid
  let session ← orFail (db.sessions.get sessionId) invalid
  require (session.userId == userId) invalid
  require user.isActive (appError "account is deactivated" 403 "ACCOUNT_DISABLED")
  assertActiveSession session now
  require (now < tokenExpiresAt) (appError "authentication expired" 401 "AUTH_EXPIRED")
  pure
    { userId := userId
      user := user
      sessionId := sessionId
      session := session
      tokenExpiresAt := tokenExpiresAt
      authenticationExpiresAt :=
        min tokenExpiresAt (min session.expiresAt session.absoluteExpiresAt) }

structure AccessCall where
  token : String
  decodedAt : Instant
  now : Instant

section

variable (env : AuthEnv)

/-- `get_access_context`, the first thing an authenticated request does. -/
def getAccessContext (call : AccessCall) : AccountScript AccessContext := do
  let claims ← Script.lift (decodeToken env call.decodedAt call.token)
  Script.lift (require (claims.tokenType == some "access")
    (appError "invalid access token" 401 "AUTH_INVALID"))
  let userId ← Script.lift (uuidClaim claims.sub)
  let sessionId ← Script.lift (uuidClaim claims.sid)
  let tokenExpiresAt ← Script.lift (orFail claims.expiresAt
    (appError "invalid token expiry" 401 "AUTH_INVALID"))
  let db ← Script.read
  Script.lift (checkSessionAccess db userId sessionId tokenExpiresAt call.now)

/-!
# Login
-/

structure LoginCall where
  usernameOrEmail : String
  password : String
  userAgent : Option String
  ip : Option String
  refreshTtlDays : Nat
  absoluteTtlDays : Nat
  now : Instant
  refreshIssuedAt : Instant
  accessIssuedAt : Instant
  sessionId : Uuid
  jti : String

/-- The user with the given name or address. -/
def findUser (db : AccountDatabase) (usernameOrEmail : String) :
    Except Failure (Option (Uuid × Account)) :=
  let identity := strip usernameOrEmail
  let normalizedIdentity := env.normalizeEmail identity
  match db.users.rows.filter (fun row => row.2.username == identity ||
      row.2.email.map env.sqlLower == some normalizedIdentity) with
  | [] => pure none
  | [row] => pure (some row)
  | _ => throw Failure.multipleResultsFound

/-- Everything between the read of the user and the insert of the session. -/
def openSession (call : LoginCall) (db : AccountDatabase) : Except Failure AccountResult := do
  let invalid : Failure := appError "invalid credentials" 401 "AUTH_INVALID"
  let found ← findUser env db call.usernameOrEmail
  let (userId, user) ← orFail found invalid
  require (env.verifyPassword call.password user.passwordHash) invalid
  require user.isActive (appError "account is deactivated" 403 "ACCOUNT_DISABLED")
  let absoluteDays :=
    if call.absoluteTtlDays = 0 then env.sessionAbsoluteTtlDays else call.absoluteTtlDays
  let absoluteExpiresAt ← orFail (call.now.add? (absoluteDays * microsPerDay))
    Failure.overflowError
  let idle ← orFail (call.now.add? (call.refreshTtlDays * microsPerDay))
    Failure.overflowError
  let idleExpiresAt := min idle absoluteExpiresAt
  let refresh := createRefreshToken env userId call.sessionId idleExpiresAt
    call.refreshIssuedAt call.jti
  let _ ← createAccessToken env userId call.sessionId idleExpiresAt call.accessIssuedAt
  pure (AccountResult.loggedIn call.sessionId
    { userId := userId
      refreshTokenHash := env.sha256Hex refresh
      userAgent := call.userAgent
      ip := call.ip
      lastUsedAt := some call.now
      expiresAt := idleExpiresAt
      absoluteExpiresAt := absoluteExpiresAt
      revokedAt := none
      replayDetectedAt := none }
    refresh (db.revocations userId))

def login (call : LoginCall) : AccountScript AccountResult := do
  let db ← Script.read
  Script.lift (openSession env call db)

/-!
# Refresh tokens
-/

/-- The presentation of a refresh token. -/
structure PresentedToken where
  token : String
  decodedAt : Instant
  now : Instant

/-- A checked token names its session, or the session has to be revoked. -/
inductive RefreshCheck where
  | valid (sessionId : Uuid) (session : UserSession)
  | replayed (sessionId : Uuid)

def checkRefreshToken (presented : PresentedToken) (sessionId userId : Uuid)
    (db : AccountDatabase) : Except Failure RefreshCheck := do
  let invalid : Failure := appError "invalid session" 401 "AUTH_INVALID"
  let session ← orFail (db.sessions.get sessionId) invalid
  require (session.userId == userId) invalid
  assertActiveSession session presented.now
  if session.refreshTokenHash = env.sha256Hex presented.token then
    pure (RefreshCheck.valid sessionId session)
  else pure (RefreshCheck.replayed sessionId)

/-- `_get_valid_refresh_session` with the row lock. -/
def getValidRefreshSession (presented : PresentedToken) : AccountScript RefreshCheck := do
  let claims ← Script.lift (decodeToken env presented.decodedAt presented.token)
  Script.lift (require (claims.tokenType == some "refresh")
    (appError "invalid token type" 401 "AUTH_EXPIRED"))
  let sessionId ← Script.lift (uuidClaim claims.sid)
  let userId ← Script.lift (uuidClaim claims.sub)
  let db ← Script.lock (AccountLock.session sessionId) LockMode.exclusive
  Script.lift (checkRefreshToken env presented sessionId userId db)

structure RefreshCall where
  presented : PresentedToken
  userAgent : Option String
  ip : Option String
  refreshTtlDays : Nat
  now : Instant
  refreshIssuedAt : Instant
  accessIssuedAt : Instant
  jti : String

def rotate (call : RefreshCall) (sessionId : Uuid) (session : UserSession)
    (user : Option Account) : Except Failure AccountResult :=
  if user.any (fun account => account.isActive) then do
    let idle ← orFail (call.now.add? (call.refreshTtlDays * microsPerDay))
      Failure.overflowError
    let expiresAt := min idle session.absoluteExpiresAt
    let newRefresh := createRefreshToken env session.userId sessionId expiresAt
      call.refreshIssuedAt call.jti
    let _ ← createAccessToken env session.userId sessionId expiresAt call.accessIssuedAt
    pure (AccountResult.refreshed sessionId call.presented.token newRefresh
      (env.sha256Hex newRefresh) call.now expiresAt call.userAgent call.ip)
  else pure (AccountResult.sessionRevoked sessionId call.now RevocationCause.accountInactive)

/-- The session ends when its token has been used before. -/
def replayResult (presented : PresentedToken) (sessionId : Uuid) : AccountResult :=
  AccountResult.sessionRevoked sessionId presented.now (RevocationCause.replay presented.token)

def refresh (call : RefreshCall) : AccountScript AccountResult := do
  match ← getValidRefreshSession env call.presented with
  | RefreshCheck.replayed sessionId => pure (replayResult call.presented sessionId)
  | RefreshCheck.valid sessionId session => do
      let db ← Script.read
      Script.lift (rotate env call sessionId session (db.users.get session.userId))

def logout (presented : PresentedToken) (now : Instant) : AccountScript AccountResult := do
  match ← getValidRefreshSession env presented with
  | RefreshCheck.replayed sessionId => pure (replayResult presented sessionId)
  | RefreshCheck.valid sessionId _ =>
      pure (AccountResult.sessionRevoked sessionId now
        (RevocationCause.logout presented.token))

/-!
# Revocations
-/

/-- The session to revoke; the session of the request itself is already loaded. -/
def loadSession (auth : AccessContext) (sessionId : Uuid) :
    AccountScript (Option UserSession) :=
  if sessionId = auth.sessionId then pure (some auth.session)
  else do
    let db ← Script.read
    pure (db.sessions.get sessionId)

def revokeSession (access : AccessCall) (sessionId : Uuid) (now : Instant) :
    AccountScript AccountResult := do
  let auth ← getAccessContext env access
  let found ← loadSession auth sessionId
  let notFound : Failure := appError "session not found" 404
  let session ← Script.lift (orFail found notFound)
  Script.lift (require (session.userId == auth.userId) notFound)
  if session.revokedAt.isSome then pure AccountResult.unchanged
  else do
    let _ ← Script.lock (AccountLock.session sessionId) LockMode.exclusive
    pure (AccountResult.sessionRevoked sessionId now RevocationCause.requested)

def isOpenSessionOf (userId : Uuid) (db : AccountDatabase) (sessionId : Uuid) : Bool :=
  (db.sessions.get sessionId).any (fun session =>
    session.userId == userId && session.revokedAt.isNone)

/-- `UPDATE user_sessions SET revoked_at` for the open sessions of a user. -/
def revokeOpenSessions (userId : Uuid) (order : List Uuid) : AccountScript (List Uuid) :=
  Script.updateWhere AccountLock.session (isOpenSessionOf userId)
    (fun db => db.sessions.keys) order

def logoutAll (access : AccessCall) (now : Instant) (order : List Uuid) :
    AccountScript AccountResult := do
  let auth ← getAccessContext env access
  let ids ← revokeOpenSessions auth.userId order
  pure (AccountResult.sessionsRevoked auth.userId {} ids now)

structure ChangePasswordCall where
  access : AccessCall
  currentPassword : String
  newPassword : String
  salt : String
  now : Instant
  order : List Uuid

def changePassword (call : ChangePasswordCall) : AccountScript AccountResult := do
  let auth ← getAccessContext env call.access
  let db ← Script.lock (AccountLock.user auth.userId) LockMode.exclusive
  -- The row is locked now, but the password is the one that was loaded before.
  let incorrect : Failure :=
    appError "current password is incorrect" 400 "CURRENT_PASSWORD_INVALID"
  Script.lift (require (db.users.get auth.userId).isSome incorrect)
  Script.lift (require (env.verifyPassword call.currentPassword auth.user.passwordHash)
    incorrect)
  Script.lift (require (!env.verifyPassword call.newPassword auth.user.passwordHash)
    (appError "new password must be different" 400 "PASSWORD_UNCHANGED"))
  let ids ← revokeOpenSessions auth.userId call.order
  pure (AccountResult.sessionsRevoked auth.userId
    { passwordHash := changed auth.user.passwordHash
        (env.hashPassword call.salt call.newPassword) }
    ids call.now)

/-- `get_current_superadmin`. -/
def getCurrentSuperadmin (access : AccessCall) : AccountScript AccessContext := do
  let auth ← getAccessContext env access
  Script.lift (require auth.user.isSuperadmin
    (appError "superadmin access required" 403 "SUPERADMIN_REQUIRED"))
  pure auth

def loadUser (auth : AccessContext) (userId : Uuid) : AccountScript (Option Account) :=
  if userId = auth.userId then pure (some auth.user)
  else do
    let db ← Script.read
    pure (db.users.get userId)

def userNotFound : Failure :=
  appError "user not found" 404 "USER_NOT_FOUND"

structure SetUserActiveCall where
  access : AccessCall
  targetUserId : Uuid
  isActive : Bool
  deactivatedAt : Instant
  now : Instant
  order : List Uuid

def SetUserActiveCall.patch (call : SetUserActiveCall) (actorId : Uuid) (target : Account) :
    AccountPatch :=
  { isActive := some call.isActive
    deactivatedAt := changed target.deactivatedAt
      (if call.isActive then none else some call.deactivatedAt)
    deactivatedByUserId := changed target.deactivatedByUserId
      (if call.isActive then none else some actorId) }

def setUserActive (call : SetUserActiveCall) : AccountScript AccountResult := do
  let auth ← getCurrentSuperadmin env call.access
  let found ← loadUser auth call.targetUserId
  let target ← Script.lift (orFail found userNotFound)
  Script.lift (require (call.targetUserId != auth.userId)
    (appError "a superadmin cannot change their own account status" 409 "SELF_ADMIN_ACTION"))
  Script.lift (require (!target.isSuperadmin)
    (appError "other superadmin accounts cannot be changed here" 403 "PROTECTED_SUPERADMIN"))
  if target.isActive = call.isActive then pure AccountResult.unchanged
  else do
    -- The changed columns are flushed before the next statement.
    let _ ← Script.lock (AccountLock.user call.targetUserId) LockMode.exclusive
    if call.isActive then
      pure (AccountResult.accountChanged call.targetUserId (call.patch auth.userId target) []
        call.now)
    else do
      let ids ← revokeOpenSessions call.targetUserId call.order
      pure (AccountResult.sessionsRevoked call.targetUserId (call.patch auth.userId target)
        ids call.now)

def revokeUserSessions (access : AccessCall) (targetUserId : Uuid) (now : Instant)
    (order : List Uuid) : AccountScript AccountResult := do
  let auth ← getCurrentSuperadmin env access
  let found ← loadUser auth targetUserId
  let target ← Script.lift (orFail found userNotFound)
  Script.lift (require (!target.isSuperadmin || targetUserId == auth.userId)
    (appError "other superadmin sessions cannot be revoked here" 403 "PROTECTED_SUPERADMIN"))
  let ids ← revokeOpenSessions targetUserId order
  pure (AccountResult.sessionsRevoked targetUserId {} ids now)

end

end MessagingSystem
