import MessagingSystem.Auth.Sessions

/-!
# Profiles and email verification

The requests that change the address of a user or prove that it is theirs.  All of
them run in the database session that authenticated the request.  So the user they
work on is the one that was loaded then: locking the row waits for other
transactions but does not load it again.
-/

namespace MessagingSystem

open Foundation

/-!
# Challenges
-/

def isActiveChallengeOf (userId : Uuid) (db : AccountDatabase) (challengeId : Uuid) : Bool :=
  (db.challenges.get challengeId).any (fun challenge =>
    challenge.userId == userId && challenge.consumedAt.isNone && challenge.revokedAt.isNone)

/-- `UPDATE email_verification_challenges SET revoked_at` for the active challenges. -/
def revokeActiveChallenges (userId : Uuid) (order : List Uuid) : AccountScript (List Uuid) :=
  Script.updateWhere AccountLock.challenge (isActiveChallengeOf userId)
    (fun db => db.challenges.keys) order

def historyRetentionDays : Nat := 7

def requestCleanupLimit : Nat := 100

def EmailVerificationChallenge.isStale (challenge : EmailVerificationChallenge)
    (userId : Uuid) (cutoff now : Instant) : Bool :=
  challenge.userId == userId && challenge.createdAt < cutoff &&
    (challenge.expiresAt < now || challenge.consumedAt.isSome || challenge.revokedAt.isSome)

/-- `_cleanup_user_history`: the rows that are deleted. -/
def cleanupUserHistory (userId : Uuid) (now : Instant) (order : List Uuid) :
    AccountScript (List Uuid) := do
  let cutoff ← Script.lift (orFail (now.sub? (historyRetentionDays * microsPerDay))
    Failure.overflowError)
  let db ← Script.read
  let staleIds := ((orderByAsc (fun row => row.2.createdAt)
    (db.challenges.rows.filter (fun row => row.2.isStale userId cutoff now))).take
      requestCleanupLimit).map Prod.fst
  if staleIds.isEmpty then pure []
  else do
    Script.updateWhere AccountLock.challenge
      (fun db id => (db.challenges.get id).isSome && staleIds.contains id)
      (fun db => db.challenges.keys) order

/-!
# Profile
-/

/-- The fields that are set; `none` inside clears a column. -/
structure UpdateMePayload where
  email : Option (Option String)
  displayName : Option (Option String)
  avatarUrl : Option (Option String)
  wallpaperUrl : Option (Option String)
  bio : Option (Option String)
  deriving DecidableEq

def UpdateMePayload.isEmpty (payload : UpdateMePayload) : Bool :=
  payload == ⟨none, none, none, none, none⟩

/-- The changed columns apart from the address. -/
def UpdateMePayload.patch (payload : UpdateMePayload) (user : Account) : AccountPatch :=
  { displayName := payload.displayName.bind (changed user.displayName)
    avatarUrl := payload.avatarUrl.bind (changed user.avatarUrl)
    wallpaperUrl := payload.wallpaperUrl.bind (changed user.wallpaperUrl)
    bio := payload.bio.bind (changed user.bio) }

structure UpdateMeCall where
  access : AccessCall
  payload : UpdateMePayload
  /-- The outcome of the checks that images belong to the user, which only read uploads. -/
  uploadChecks : Except Failure Unit
  now : Instant
  order : List Uuid

section

variable (env : AuthEnv)

/-- The part of `update_me` for a new address, after the row has been locked. -/
def changeAddress (call : UpdateMeCall) (auth : AccessContext) (email : Option String) :
    AccountScript AccountResult := do
  let newEmail := email.map env.normalizeEmail
  let patch : AccountPatch :=
    { call.payload.patch auth.user with email := changed auth.user.email newEmail }
  if newEmail = auth.user.address env then
    pure (AccountResult.accountChanged auth.userId patch [] call.now)
  else do
    let ids ← revokeActiveChallenges auth.userId call.order
    pure (AccountResult.accountChanged auth.userId
      { patch with emailVerifiedAt := changed auth.user.emailVerifiedAt none } ids call.now)

def updateMe (call : UpdateMeCall) : AccountScript AccountResult := do
  let auth ← getAccessContext env call.access
  if call.payload.isEmpty then pure AccountResult.unchanged
  else do
    Script.lift call.uploadChecks
    let db ← Script.lock (AccountLock.user auth.userId) LockMode.exclusive
    match call.payload.email with
    -- Without a new address the lock is the one the update itself takes.
    | none => pure (AccountResult.accountChanged auth.userId (call.payload.patch auth.user) []
        call.now)
    | some email => do
        Script.lift (require (db.users.get auth.userId).isSome Failure.noResultFound)
        changeAddress env call auth email

/-!
# Requests for verification
-/

def verificationUnavailable : Failure :=
  appError "email verification is unavailable" 503 "EMAIL_VERIFICATION_UNAVAILABLE"

structure RequestVerificationCall where
  access : AccessCall
  now : Instant
  challengeId : Uuid
  rawToken : String
  deleteOrder : List Uuid
  order : List Uuid

def newChallenge (call : RequestVerificationCall) (userId : Uuid) (email : String) :
    Except Failure EmailVerificationChallenge := do
  let expiresAt ← orFail
    (call.now.add? (env.emailVerificationTtlMinutes * microsPerMinute)) Failure.overflowError
  pure
    { userId := userId
      email := email
      tokenHash := env.sha256Hex call.rawToken
      createdAt := call.now
      expiresAt := expiresAt
      consumedAt := none
      revokedAt := none }

def requestVerification (call : RequestVerificationCall) : AccountScript AccountResult := do
  let auth ← getAccessContext env call.access
  Script.lift (require env.emailVerificationEnabled verificationUnavailable)
  let db ← Script.lock (AccountLock.user auth.userId) LockMode.exclusive
  Script.lift (require (db.users.get auth.userId).isSome
    (appError "user not found" 404 "NOT_FOUND"))
  let email ← Script.lift (orFail (auth.user.address env)
    (appError "an email address is required" 400 "EMAIL_REQUIRED"))
  if auth.user.emailVerifiedAt.isSome then pure AccountResult.unchanged
  else do
    let deleted ← cleanupUserHistory auth.userId call.now call.deleteOrder
    let revoked ← revokeActiveChallenges auth.userId call.order
    let challenge ← Script.lift (newChallenge env call auth.userId email)
    pure (AccountResult.challengeCreated deleted revoked call.now call.challengeId challenge)

/--
`_record_delivery_failure`, in a transaction of its own.  The session still holds the
challenge as it was created, so it is revoked whatever has happened to it since.
-/
def recordDeliveryFailure (challengeId : Uuid) (now : Instant) :
    AccountScript AccountResult := do
  let db ← Script.lock (AccountLock.challenge challengeId) LockMode.exclusive
  if (db.challenges.get challengeId).isSome then
    pure (AccountResult.challengeRevoked challengeId now
      (appError "verification email could not be delivered" 503 "EMAIL_DELIVERY_FAILED"))
  else pure AccountResult.unchanged

/-!
# Confirmation
-/

structure ConfirmCall where
  access : AccessCall
  rawToken : String
  now : Instant
  order : List Uuid

def findChallenge (db : AccountDatabase) (tokenHash : String) :
    Option (Uuid × EmailVerificationChallenge) :=
  db.challenges.rows.find? (fun row => row.2.tokenHash == tokenHash)

def verificationInvalid (message : String) (statusCode : Nat) : Failure :=
  appError message statusCode "EMAIL_VERIFICATION_INVALID"

/-- The challenge of a token, with its row locked. -/
def lockChallenge (tokenHash : String) :
    AccountScript (Option (Uuid × EmailVerificationChallenge)) := do
  let db ← Script.read
  match findChallenge db tokenHash with
  | none => pure none
  | some row => do
      let locked ← Script.lock (AccountLock.challenge row.1) LockMode.exclusive
      pure (findChallenge locked tokenHash)

/-- What is left to do once the user and the challenge are locked. -/
def consumeChallenge (call : ConfirmCall) (auth : AccessContext) (challengeId : Uuid)
    (challenge : EmailVerificationChallenge) : AccountScript AccountResult := do
  Script.lift (require challenge.consumedAt.isNone
    (appError "email verification token was already used" 409 "EMAIL_VERIFICATION_USED"))
  Script.lift (require challenge.revokedAt.isNone
    (verificationInvalid "email verification token is no longer valid" 400))
  -- An expired challenge, or one for another address, is revoked with the refusal.
  if challenge.expiresAt ≤ call.now then
    pure (AccountResult.challengeRevoked challengeId call.now
      (appError "email verification token expired" 400 "EMAIL_VERIFICATION_EXPIRED"))
  else if auth.user.address env ≠ some challenge.email then
    pure (AccountResult.challengeRevoked challengeId call.now (verificationInvalid
      "email address changed after this verification was requested" 400))
  else do
    let ids ← Script.updateWhere AccountLock.challenge
      (fun db id => isActiveChallengeOf auth.userId db id && id != challengeId)
      (fun db => db.challenges.keys) call.order
    pure (AccountResult.challengeConsumed auth.userId
      { emailVerifiedAt := changed auth.user.emailVerifiedAt (some call.now) }
      challengeId challenge.email call.now ids)

def confirm (call : ConfirmCall) : AccountScript AccountResult := do
  let auth ← getAccessContext env call.access
  Script.lift (require env.emailVerificationEnabled verificationUnavailable)
  let tokenHash := env.sha256Hex call.rawToken
  let invalid := verificationInvalid "invalid email verification token" 400
  let db ← Script.read
  let owner ← Script.lift (orFail (findChallenge db tokenHash) invalid)
  Script.lift (require (owner.2.userId == auth.userId)
    (verificationInvalid "verification token belongs to another account" 403))
  let lockedDb ← Script.lock (AccountLock.user auth.userId) LockMode.exclusive
  let found ← lockChallenge tokenHash
  let row ← Script.lift (orFail found invalid)
  Script.lift (require ((lockedDb.users.get auth.userId).isSome &&
    row.2.userId == auth.userId) invalid)
  consumeChallenge env call auth row.1 row.2

end

end MessagingSystem
