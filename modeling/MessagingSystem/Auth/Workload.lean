import MessagingSystem.Auth.EmailVerification

/-!
# The account workload

The commits of the account requests, and the system in which any number of them run
at the same time.
-/

namespace MessagingSystem

open Foundation

/-!
# Writes
-/

def UserSession.revoke (revokedAt : Instant) (session : UserSession) : UserSession :=
  { session with revokedAt := some revokedAt }

/-- The columns that a refresh writes. -/
def UserSession.rotate (newTokenHash : String) (lastUsedAt expiresAt : Instant)
    (userAgent ip : Option String) (session : UserSession) : UserSession :=
  { session with
    refreshTokenHash := newTokenHash
    userAgent := userAgent
    ip := ip
    lastUsedAt := some lastUsedAt
    expiresAt := expiresAt }

def RevocationCause.revoke (revokedAt : Instant) (session : UserSession) :
    RevocationCause -> UserSession
  | replay _ => { session.revoke revokedAt with replayDetectedAt := some revokedAt }
  | _ => session.revoke revokedAt

def RevocationCause.events (sessionId : Uuid) : RevocationCause -> List AccountEvent
  | logout token => [AccountEvent.loggedOut sessionId token]
  | replay token => [AccountEvent.replayDetected sessionId token]
  | _ => []

def EmailVerificationChallenge.revoke (revokedAt : Instant)
    (challenge : EmailVerificationChallenge) : EmailVerificationChallenge :=
  { challenge with revokedAt := some revokedAt }

namespace AccountDatabase

def changeSession (db : AccountDatabase) (sessionId : Uuid)
    (change : UserSession -> UserSession) : AccountDatabase :=
  { db with sessions := db.sessions.update sessionId change }

def revokeSessions (db : AccountDatabase) (sessionIds : List Uuid) (revokedAt : Instant) :
    AccountDatabase :=
  { db with sessions := db.sessions.updateAll sessionIds (UserSession.revoke revokedAt) }

def changeChallenge (db : AccountDatabase) (challengeId : Uuid)
    (change : EmailVerificationChallenge -> EmailVerificationChallenge) : AccountDatabase :=
  { db with challenges := db.challenges.update challengeId change }

def revokeChallenges (db : AccountDatabase) (challengeIds : List Uuid)
    (revokedAt : Instant) : AccountDatabase :=
  { db with
    challenges := db.challenges.updateAll challengeIds
      (EmailVerificationChallenge.revoke revokedAt) }

/-- An update of a user row, which may change the address. -/
def patchAccount (env : AuthEnv) (db : AccountDatabase) (userId : Uuid)
    (patch : AccountPatch) : AccountDatabase :=
  match db.users.get userId with
  | none => db
  | some account =>
      let written := { db with users := db.users.set userId (some (patch.apply account)) }
      if (patch.apply account).address env = account.address env then written
      else written.record (AccountEvent.addressChanged userId)

/-- The unique indexes on the address. -/
def emailTaken (env : AuthEnv) (db : AccountDatabase) (userId : Uuid) (email : String) : Bool :=
  db.users.rows.any (fun row => row.1 != userId &&
    row.2.email.any (fun other => env.sqlLowerBtrim other == env.sqlLowerBtrim email))

end AccountDatabase

def AccountResult.commit (env : AuthEnv) :
    AccountResult -> AccountDatabase -> Option AccountDatabase
  | unchanged, db => some db
  | loggedIn sessionId session token revocationsSeen, db =>
      if (db.sessions.get sessionId).isNone && (db.users.get session.userId).isSome then
        some (AccountDatabase.record
          { db with sessions := db.sessions.set sessionId (some session) }
          (AccountEvent.opened sessionId session.userId token revocationsSeen))
      else none
  | refreshed sessionId token newToken newTokenHash lastUsedAt expiresAt userAgent ip, db =>
      some ((db.changeSession sessionId
        (UserSession.rotate newTokenHash lastUsedAt expiresAt userAgent ip)).record
          (AccountEvent.exchanged sessionId token newToken))
  | sessionRevoked sessionId revokedAt cause, db =>
      let revoked := db.changeSession sessionId (fun session => cause.revoke revokedAt session)
      some { revoked with history := revoked.history ++ cause.events sessionId }
  | sessionsRevoked userId patch sessionIds revokedAt, db =>
      some (((db.patchAccount env userId patch).revokeSessions sessionIds revokedAt).record
        (AccountEvent.sessionsRevoked userId))
  | accountChanged userId patch challengeIds revokedAt, db =>
      if (patch.email.getD none).any (db.emailTaken env userId) then none
      else some ((db.patchAccount env userId patch).revokeChallenges challengeIds revokedAt)
  | challengeCreated deletedIds revokedIds revokedAt challengeId challenge, db =>
      let cleaned := deletedIds.foldl (fun rows id => rows.set id none)
        (db.revokeChallenges revokedIds revokedAt).challenges
      if (cleaned.get challengeId).isNone && (db.users.get challenge.userId).isSome &&
          !cleaned.rows.any (fun row => row.2.tokenHash == challenge.tokenHash) then
        some { db with challenges := cleaned.set challengeId (some challenge) }
      else none
  | challengeRevoked challengeId revokedAt _, db =>
      some (db.changeChallenge challengeId (EmailVerificationChallenge.revoke revokedAt))
  | challengeConsumed userId patch challengeId email consumedAt otherIds, db =>
      some ((((db.patchAccount env userId patch).changeChallenge challengeId (fun challenge =>
        { challenge with consumedAt := some consumedAt })).revokeChallenges otherIds
          consumedAt).record (AccountEvent.challengeConsumed userId email))

/-!
# Commits that a constraint can refuse
-/

theorem commit_accountChanged {env : AuthEnv} {db db' : AccountDatabase} {userId : Uuid}
    {patch : AccountPatch} {ids : List Uuid} {revokedAt : Instant}
    (h : (AccountResult.accountChanged userId patch ids revokedAt).commit env db = some db') :
    db' = (db.patchAccount env userId patch).revokeChallenges ids revokedAt := by
  rcases Option.ite_none_left_eq_some.mp h with ⟨_, h⟩
  exact (Option.some.inj h).symm

/-- A new challenge touches neither users nor sessions nor the history. -/
theorem commit_challengeCreated {env : AuthEnv} {db db' : AccountDatabase}
    {deletedIds revokedIds : List Uuid} {revokedAt : Instant} {challengeId : Uuid}
    {challenge : EmailVerificationChallenge}
    (h : (AccountResult.challengeCreated deletedIds revokedIds revokedAt challengeId
      challenge).commit env db = some db') :
    exists rows, db' = { db with challenges := rows } := by
  rcases Option.ite_none_right_eq_some.mp h with ⟨_, h⟩
  exact ⟨_, (Option.some.inj h).symm⟩

/-!
# Requests
-/

inductive AccountRequest where
  | login (call : LoginCall)
  | refresh (call : RefreshCall)
  | logout (presented : PresentedToken) (now : Instant)
  | revokeSession (access : AccessCall) (sessionId : Uuid) (now : Instant)
  | logoutAll (access : AccessCall) (now : Instant) (order : List Uuid)
  | changePassword (call : ChangePasswordCall)
  | setUserActive (call : SetUserActiveCall)
  | revokeUserSessions (access : AccessCall) (targetUserId : Uuid) (now : Instant)
      (order : List Uuid)
  | updateMe (call : UpdateMeCall)
  | requestVerification (call : RequestVerificationCall)
  | recordDeliveryFailure (challengeId : Uuid) (now : Instant)
  | confirm (call : ConfirmCall)

def AccountRequest.script (env : AuthEnv) : AccountRequest -> AccountScript AccountResult
  | login call => MessagingSystem.login env call
  | refresh call => MessagingSystem.refresh env call
  | logout presented now => MessagingSystem.logout env presented now
  | revokeSession access sessionId now => MessagingSystem.revokeSession env access sessionId now
  | logoutAll access now order => MessagingSystem.logoutAll env access now order
  | changePassword call => MessagingSystem.changePassword env call
  | setUserActive call => MessagingSystem.setUserActive env call
  | revokeUserSessions access targetUserId now order =>
      MessagingSystem.revokeUserSessions env access targetUserId now order
  | updateMe call => MessagingSystem.updateMe env call
  | requestVerification call => MessagingSystem.requestVerification env call
  | recordDeliveryFailure challengeId now =>
      MessagingSystem.recordDeliveryFailure challengeId now
  | confirm call => MessagingSystem.confirm env call

/-- The user that an access token is for. -/
def accessUser (env : AuthEnv) (access : AccessCall) : Option Uuid :=
  (env.decodeToken access.decodedAt access.token).bind Claims.sub

/-- The user whose sessions the request would revoke all together. -/
def AccountRequest.revokedUser (env : AuthEnv) : AccountRequest -> Option Uuid
  | logoutAll access _ _ => accessUser env access
  | changePassword call => accessUser env call.access
  | setUserActive call => if call.isActive then none else some call.targetUserId
  | revokeUserSessions _ targetUserId _ _ => some targetUserId
  | _ => none

/-- The user whose address the request changes or proves. -/
def AccountRequest.addressUser (env : AuthEnv) : AccountRequest -> Option Uuid
  | updateMe call => if call.payload.email.isSome then accessUser env call.access else none
  | confirm call => accessUser env call.access
  | _ => none

/-- What happens to accounts outside of these requests. -/
inductive AccountAction where
  | register (userId : Uuid) (username : String) (email : Option String) (passwordHash : String)
  | setSuperadmin (userId : Uuid) (isSuperadmin : Bool)

def newAccount (username : String) (email : Option String) (passwordHash : String) :
    Account where
  username := username
  email := email
  emailVerifiedAt := none
  displayName := none
  avatarUrl := none
  isSuperadmin := false
  isActive := true
  wallpaperUrl := none
  bio := none
  passwordHash := passwordHash
  deactivatedAt := none
  deactivatedByUserId := none

def AccountAction.run (env : AuthEnv) :
    AccountAction -> AccountDatabase -> Option AccountDatabase
  | register userId username email passwordHash, db =>
      if (db.users.get userId).isSome ||
          db.users.rows.any (fun row => row.2.username == username) ||
          email.any (db.emailTaken env userId) then none
      else some
        { db with
          users := db.users.set userId (some (newAccount username email passwordHash)) }
  | setSuperadmin userId isSuperadmin, db =>
      some
        { db with
          users := db.users.update userId (fun account =>
            { account with isSuperadmin := isSuperadmin }) }

abbrev AccountStoreLabel := StoreLabel AccountRequest AccountAction

def accountWorkload (env : AuthEnv) : Workload AccountDatabase AccountRequest AccountAction
    AccountLock Failure AccountResult where
  start db := db = AccountDatabase.empty
  script := AccountRequest.script env
  commit := AccountResult.commit env
  outside := AccountAction.run env

end MessagingSystem
