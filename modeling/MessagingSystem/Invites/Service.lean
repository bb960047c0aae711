import MessagingSystem.Channels.Members
import MessagingSystem.Foundation.Transactions

/-!
# Issuing, redeeming and revoking invites

The requests on invites as scripts.  Two of them redeem an invite, one revokes it; all
three lock the channel and then the invite.  The user is the row that the authentication
of the request has loaded: later lookups in the same session return it again.
-/

namespace MessagingSystem

open Foundation

inductive InviteLock where
  | channel (channelId : Uuid)
  | invite (inviteId : Uuid)
  | user (userId : Uuid)
  deriving DecidableEq

abbrev InviteScript (value : Type) := Script Database InviteLock Failure value

/-- An invite that lets a user in, as it was checked. -/
structure InviteGrant where
  inviteId : Uuid
  invite : ChannelInvite
  channelId : Uuid
  userId : Uuid
  approvedAt : Instant
  acceptedAt : Instant

/-- How a request ends, with what it writes. -/
inductive InviteResult where
  | unchanged
  | entered (env : Env) (channelId userId : Uuid) (row : ChannelMembership)
      (status : JoinStatus) (message : String)
  | accepted (env : Env) (grant : InviteGrant)
  | joined (env : Env) (grant : InviteGrant)
  | created (inviteId : Uuid) (invite : ChannelInvite)
  | revoked (inviteId channelId actorUserId : Uuid) (revokedAt : Instant)
  | channelDeleted (env : Env) (channelId actorUserId : Uuid) (isSuperadminOverride : Bool)

/-!
# Locked rows
-/

def getUser (userId : Uuid) (failure : Failure) : InviteScript User := do
  let db ← Script.read
  Script.lift (orFail (db.users.get userId) failure)

def lockChannel (channelId : Uuid) : InviteScript Channel := do
  let db ← Script.lock (InviteLock.channel channelId) LockMode.exclusive
  Script.lift (getChannelForUpdate db channelId)

def hasToken (env : Env) (channelId : Uuid) (token : String) (invite : ChannelInvite) : Bool :=
  invite.channelId == channelId && invite.tokenHash == env.sha256Hex token

/-- The row is found in one snapshot, then locked and looked at again. -/
def lockInvite (env : Env) (channelId : Uuid) (token : String) :
    InviteScript (Uuid × ChannelInvite) := do
  let db ← Script.read
  let found ← Script.lift (orFail
    (db.invites.rows.find? (fun r => hasToken env channelId token r.2))
    (appError "invalid invite" 400 "INVITE_INVALID"))
  let db ← Script.lock (InviteLock.invite found.1) LockMode.exclusive
  let invite ← Script.lift (orFail
    ((db.invites.get found.1).filter (hasToken env channelId token))
    (appError "invalid invite" 400 "INVITE_INVALID"))
  pure (found.1, invite)

def checkInvite (env : Env) (invite : ChannelInvite) (userId : Uuid) (user : User) :
    Except Failure Unit := do
  require invite.revokedAt.isNone (appError "invite revoked" 400 "INVITE_REVOKED")
  require (invite.isGeneric || invite.acceptedAt.isNone)
    (appError "invite already accepted" 409 "INVITE_ALREADY_ACCEPTED")
  require (decide (env.clock 0 < invite.expiresAt))
    (appError "invite expired" 400 "INVITE_EXPIRED")
  checkInviteTarget env invite userId user

/-- `_validate_invite`. -/
def validateLockedInvite (env : Env) (channelId : Uuid) (token : String) (userId : Uuid)
    (user : User) : InviteScript (Uuid × ChannelInvite) := do
  let found ← lockInvite env channelId token
  Script.lift (checkInvite env found.2 userId user)
  pure found

/-!
# Redeeming
-/

namespace InviteRequests

def acceptInvite (env : Env) (token : String) (userId : Uuid) : InviteScript InviteResult := do
  let user ← getUser userId (appError "user not found" 404)
  let db ← Script.read
  let invited ← Script.lift (orFail
    (db.invites.rows.find? (fun r => r.2.tokenHash == env.sha256Hex token))
    (appError "invite not found" 404 "INVITE_INVALID"))
  let channelId := invited.2.channelId
  let _ ← lockChannel channelId
  let found ← validateLockedInvite env channelId token userId user
  let db ← Script.read
  if (db.getMembership channelId userId).any (fun m => found.2.isGeneric && m.role.approved) then
    pure InviteResult.unchanged
  else
    pure (InviteResult.accepted env
      { inviteId := found.1
        invite := found.2
        channelId := channelId
        userId := userId
        approvedAt := env.clock 1
        acceptedAt := env.clock 2 })

def joinByInvite (env : Env) (channelId userId : Uuid) (user : User) :
    Option String -> InviteScript InviteResult
  | none => pure InviteResult.unchanged
  | some token => do
      let found ← validateLockedInvite env channelId token userId user
      pure (InviteResult.joined env
        { inviteId := found.1
          invite := found.2
          channelId := channelId
          userId := userId
          approvedAt := env.clock 2
          acceptedAt := env.clock 1 })

def joinChannel (env : Env) (channelId userId : Uuid) (inviteToken : Option String) :
    InviteScript InviteResult := do
  let user ← getUser userId (appError "invalid invite" 404 "INVITE_INVALID")
  let channel ← lockChannel channelId
  let db ← Script.read
  match db.getMembership channelId userId with
  | some _ => pure InviteResult.unchanged
  | none =>
      match channel.joinMode with
      | ChannelJoinMode.inviteOnly =>
          joinByInvite env channelId userId user (presentedToken inviteToken)
      | ChannelJoinMode.approvalRequired =>
          pure (InviteResult.entered env channelId userId (pendingMember userId)
            JoinStatus.pending "join request pending approval")
      | ChannelJoinMode.open =>
          pure (InviteResult.entered env channelId userId (newMember (env.clock 0) userId none)
            JoinStatus.joined "joined channel")

/-!
# Issuing and revoking
-/

def createInvite (env : Env) (channelId actorUserId : Uuid) (req : InviteRequest) :
    InviteScript InviteResult := do
  let db ← Script.read
  let _ ← Script.lift (getChannelForUpdate db channelId)
  let db ← Script.read
  Script.lift (require (mayInvite (db.getMembership channelId actorUserId)) forbidden)
  let _ ← Script.lock (InviteLock.user actorUserId) LockMode.exclusive
  let db ← Script.read
  Script.lift (require
    (decide (activeInvites env db actorUserId < env.settings.maxActiveInvitesPerUser))
    (appError "active invite quota exceeded" 429 "RESOURCE_QUOTA_EXCEEDED"))
  let db ← Script.read
  let target ← Script.lift (resolveInviteTarget env db req.target)
  let expiresAt ← Script.lift (orFail
    ((env.clock 1).add? (req.expiresInHours * microsPerHour)) Failure.overflowError)
  pure (InviteResult.created (env.fresh 0)
    { channelId := channelId
      invitedUserId := target.1
      invitedEmail := target.2
      tokenHash := env.sha256Hex env.inviteToken
      createdByUserId := actorUserId
      expiresAt := expiresAt
      acceptedAt := none
      revokedAt := none })

def revokeInvite (env : Env) (channelId inviteId actorUserId : Uuid) :
    InviteScript InviteResult := do
  let _ ← lockChannel channelId
  let db ← Script.read
  Script.lift (require (mayInvite (db.getMembership channelId actorUserId)) forbidden)
  let db ← Script.lock (InviteLock.invite inviteId) LockMode.exclusive
  let invite ← Script.lift (orFail (db.invites.get inviteId)
    (appError "invite not found" 404 "INVITE_INVALID"))
  Script.lift (require (invite.channelId == channelId)
    (appError "invite not found" 404 "INVITE_INVALID"))
  Script.lift (require
    (invite.isGeneric || invite.acceptedAt.isNone || invite.revokedAt.isSome)
    (appError "invite already accepted" 409 "INVITE_ALREADY_ACCEPTED"))
  if invite.revokedAt.isSome then pure InviteResult.unchanged
  else pure (InviteResult.revoked inviteId channelId actorUserId (env.clock 0))

def deleteChannel (env : Env) (channelId actorUserId : Uuid) : InviteScript InviteResult := do
  let actor ← getUser actorUserId forbidden
  let _ ← lockChannel channelId
  let db ← Script.read
  Script.lift (require
    (isOwnerRow (db.getMembership channelId actorUserId) || actor.isSuperadmin) forbidden)
  pure (InviteResult.channelDeleted env channelId actorUserId actor.isSuperadmin)

end InviteRequests

/-!
# Commits
-/

/-- A generic invite stays as it is. -/
def markAccepted (db : Database) (grant : InviteGrant) : Database :=
  if grant.invite.isGeneric then db
  else
    { db with invites := db.invites.update grant.inviteId (fun invite =>
        { invite with acceptedAt := some grant.acceptedAt }) }

def commitAccepted (env : Env) (grant : InviteGrant) (db : Database) :
    Except Failure Database := do
  let row := admitted (db.getMembership grant.channelId grant.userId) grant.approvedAt
    grant.invite.createdByUserId
  let db ← storeMembership db grant.channelId grant.userId row
  announceMembership env (markAccepted db grant) grant.channelId grant.userId grant.userId
    (some MembershipRole.member) "invite_accepted" "invite.accepted"
    (userPayload grant.channelId grant.userId)

/-- A join inserts its row, so there must not be one. -/
def commitEntered (env : Env) (channelId userId : Uuid) (row : ChannelMembership)
    (status : JoinStatus) (message : String) (db : Database) : Except Failure Database := do
  require (db.getMembership channelId userId).isNone
    (Failure.integrityError "channel_memberships_pkey")
  let outcome ← enterChannel env db channelId userId row status message
  pure outcome.1

def commitJoined (env : Env) (grant : InviteGrant) (db : Database) : Except Failure Database :=
  commitEntered env grant.channelId grant.userId
    (newMember grant.approvedAt grant.invite.createdByUserId
      (some grant.invite.createdByUserId))
    JoinStatus.joined "joined via invite token" (markAccepted db grant)

def commitCreated (inviteId : Uuid) (invite : ChannelInvite) (db : Database) :
    Except Failure Database := do
  require (db.invites.get inviteId).isNone (Failure.integrityError "channel_invites_pkey")
  require (db.invites.rows.all (fun r => r.2.tokenHash != invite.tokenHash))
    (Failure.integrityError "ix_channel_invites_token_hash")
  require ((invite.invitedUserId.map (fun u => (db.users.get u).isSome)).getD true)
    (Failure.integrityError "channel_invites_invited_user_id_fkey")
  pure ((db.setInvite inviteId invite).logEvent
    { eventType := "invite.created"
      payload := Json.obj
        [("channel_id", idJson invite.channelId), ("invite_id", Json.str "None")]
      channelId := some invite.channelId, actorUserId := some invite.createdByUserId })

def commitRevoked (inviteId channelId actorUserId : Uuid) (revokedAt : Instant)
    (db : Database) : Database :=
  ({ db with invites := db.invites.update inviteId (fun invite =>
      { invite with revokedAt := some revokedAt }) } : Database).logEvent
    { eventType := "invite.revoked"
      payload := Json.obj
        [("channel_id", idJson channelId), ("invite_id", idJson inviteId)]
      channelId := some channelId, actorUserId := some actorUserId }

def commitChannelDeleted (env : Env) (channelId actorUserId : Uuid)
    (isSuperadminOverride : Bool) (db : Database) : Except Failure Database := do
  let db : Database := { db with channels := db.channels.update channelId (fun channel =>
    { channel with deletedAt := some (env.clock 0) }) }
  let db ← enqueueChannelEventOutbox env db (env.fresh 0) channelId "channel_deleted"
    (OutboxPayload.channelDeleted channelId)
  let db ← bumpChannelMembershipGeneration db channelId
  let db ← enqueueMemberBindings env db channelId "unbind"
  pure (db.logEvent
    { eventType := "channel.deleted"
      payload := Json.obj
        [("channel_id", idJson channelId),
          ("superadmin_override", Json.bool isSuperadminOverride)]
      channelId := some channelId, actorUserId := some actorUserId })

def InviteResult.commit : InviteResult -> Database -> Option Database
  | unchanged, db => some db
  | entered env channelId userId row status message, db =>
      (commitEntered env channelId userId row status message db).toOption
  | accepted env grant, db => (commitAccepted env grant db).toOption
  | joined env grant, db => (commitJoined env grant db).toOption
  | created inviteId invite, db => (commitCreated inviteId invite db).toOption
  | revoked inviteId channelId actorUserId revokedAt, db =>
      some (commitRevoked inviteId channelId actorUserId revokedAt db)
  | channelDeleted env channelId actorUserId isSuperadminOverride, db =>
      (commitChannelDeleted env channelId actorUserId isSuperadminOverride db).toOption

/-!
# The workload

What the other services do in between: they write user rows, among them the address and
its verification, and membership rows, and open channels.
-/

inductive InviteCall where
  | accept (env : Env) (token : String) (userId : Uuid)
  | join (env : Env) (channelId userId : Uuid) (inviteToken : Option String)
  | create (env : Env) (channelId actorUserId : Uuid) (req : InviteRequest)
  | revoke (env : Env) (channelId inviteId actorUserId : Uuid)
  | deleteChannel (env : Env) (channelId actorUserId : Uuid)

def InviteCall.script : InviteCall -> InviteScript InviteResult
  | accept env token userId => InviteRequests.acceptInvite env token userId
  | join env channelId userId inviteToken =>
      InviteRequests.joinChannel env channelId userId inviteToken
  | create env channelId actorUserId req =>
      InviteRequests.createInvite env channelId actorUserId req
  | revoke env channelId inviteId actorUserId =>
      InviteRequests.revokeInvite env channelId inviteId actorUserId
  | deleteChannel env channelId actorUserId =>
      InviteRequests.deleteChannel env channelId actorUserId

inductive InviteOutside where
  | putUser (userId : Uuid) (user : User)
  | putMembership (channelId userId : Uuid) (row : Option ChannelMembership)
  | openChannel (channelId : Uuid) (channel : Channel)

def InviteOutside.run : InviteOutside -> Database -> Option Database
  | putUser userId user, db => some { db with users := db.users.set userId (some user) }
  | putMembership channelId userId row, db => some (db.setMembership channelId userId row)
  | openChannel channelId channel, db =>
      match db.channels.get channelId with
      | none => some (db.setChannel channelId channel)
      | some _ => none

def inviteWorkload :
    Workload Database InviteCall InviteOutside InviteLock Failure InviteResult where
  start db := db.invites = Table.empty
  script := InviteCall.script
  commit := InviteResult.commit
  outside := InviteOutside.run

end MessagingSystem
