import MessagingSystem.Channels.Service

/-!
# Membership operations

Joining, invites and the operations by which one member changes another.  Most of
them consult the role the target has; `accept_invite` and `add_member_direct`
overwrite an existing row without looking at its role.
-/

namespace MessagingSystem

open Foundation

/-!
# Joining and invites
-/

inductive JoinStatus where
  | joined
  | pending
  | requiresInvite
  | alreadyMember
  deriving DecidableEq, Repr

structure JoinOutcome where
  status : JoinStatus
  membership : Option ChannelMembership
  message : String

/-- `not req.invite_token`: an empty token counts as missing. -/
def presentedToken (token : Option String) : Option String :=
  token.filter (fun t => t != "")

def pendingMember (userId : Uuid) : ChannelMembership where
  role := MembershipRole.pending
  adminPermissions := none
  approvedAt := none
  createdByUserId := some userId
  invitedByUserId := none

/-- The tail that every join mode shares once it has decided on the new row. -/
def enterChannel (env : Env) (db : Database) (channelId userId : Uuid)
    (row : ChannelMembership) (status : JoinStatus) (message : String) :
    Except Failure (Database × JoinOutcome) := do
  let db ← storeMembership db channelId userId row
  let db ← announceMembership env db channelId userId userId (some row.role) "join"
    "membership.joined"
    (Json.obj
      [("channel_id", idJson channelId), ("user_id", idJson userId),
        ("role", Json.str row.role.value)])
  pure (db, ⟨status, some row, message⟩)

def joinChannel (env : Env) (db : Database) (channelId userId : Uuid)
    (inviteToken : Option String) : Except Failure (Database × JoinOutcome) := do
  let channel ← getChannelForUpdate db channelId
  match db.getMembership channelId userId with
  | some membership =>
      pure (db, ⟨JoinStatus.alreadyMember, some membership,
        "user already has membership"⟩)
  | none =>
      match channel.joinMode with
      | ChannelJoinMode.inviteOnly =>
          match presentedToken inviteToken with
          | none =>
              pure (db, ⟨JoinStatus.requiresInvite, none,
                "invite token required for invite_only channels"⟩)
          | some token => do
              let found ← validateInvite env db channelId token userId
              enterChannel env (consumeInvite db found (env.clock 1)) channelId userId
                (newMember (env.clock 2) found.2.createdByUserId
                  (some found.2.createdByUserId))
                JoinStatus.joined "joined via invite token"
      | ChannelJoinMode.approvalRequired =>
          enterChannel env db channelId userId (pendingMember userId)
            JoinStatus.pending "join request pending approval"
      | ChannelJoinMode.open =>
          enterChannel env db channelId userId (newMember (env.clock 0) userId none)
            JoinStatus.joined "joined channel"

def activeInvites (env : Env) (db : Database) (userId : Uuid) : Nat :=
  (db.invites.rows.filter (fun r =>
    r.2.createdByUserId == userId && r.2.revokedAt.isNone &&
      decide (env.clock 0 < r.2.expiresAt) &&
      (r.2.isGeneric || r.2.acceptedAt.isNone))).length

/-- A known mailbox is resolved to its user when the invite is issued. -/
def resolveInviteTarget (env : Env) (db : Database) :
    InviteTarget -> Except Failure (Option Uuid × Option String)
  | InviteTarget.generic => pure (none, none)
  | InviteTarget.user invitedUserId => pure (some invitedUserId, none)
  | InviteTarget.email email => do
      let invitedEmail := normalizeEmail env email
      let invitedUserId := (db.users.rows.find? (fun r =>
        r.2.email.map env.sqlLowerBtrim == some invitedEmail)).map Prod.fst
      require (invitedUserId.isSome || !env.settings.isProductionLike ||
          env.settings.emailVerificationEnabled)
        (appError "pre-registration email invites require configured email verification"
          503 "EMAIL_VERIFICATION_UNAVAILABLE")
      pure (invitedUserId, some invitedEmail)

def createInvite (env : Env) (db : Database) (channelId actorUserId : Uuid)
    (req : InviteRequest) : Except Failure (Database × (Uuid × String)) := do
  let _ ← getChannelForUpdate db channelId
  require (mayInvite (db.getMembership channelId actorUserId)) forbidden
  require (decide (activeInvites env db actorUserId
      < env.settings.maxActiveInvitesPerUser))
    (appError "active invite quota exceeded" 429 "RESOURCE_QUOTA_EXCEEDED")
  let target ← resolveInviteTarget env db req.target
  let expiresAt ← orFail ((env.clock 1).add? (req.expiresInHours * microsPerHour))
    Failure.overflowError
  let tokenHash := env.sha256Hex env.inviteToken
  let inviteId := env.fresh 0
  require (db.invites.get inviteId).isNone
    (Failure.integrityError "channel_invites_pkey")
  require (db.invites.rows.all (fun r => r.2.tokenHash != tokenHash))
    (Failure.integrityError "ix_channel_invites_token_hash")
  require ((target.1.map (fun u => (db.users.get u).isSome)).getD true)
    (Failure.integrityError "channel_invites_invited_user_id_fkey")
  let db := db.setInvite inviteId
    { channelId := channelId
      invitedUserId := target.1
      invitedEmail := target.2
      tokenHash := tokenHash
      createdByUserId := actorUserId
      expiresAt := expiresAt
      acceptedAt := none
      revokedAt := none }
  -- The payload is built before the flush that assigns the id.
  pure (db.logEvent
    { eventType := "invite.created"
      payload := Json.obj
        [("channel_id", idJson channelId), ("invite_id", Json.str "None")]
      channelId := some channelId, actorUserId := some actorUserId },
    (inviteId, env.inviteToken))

def revokeInvite (env : Env) (db : Database) (channelId inviteId actorUserId : Uuid) :
    Except Failure (Database × ChannelInvite) := do
  let _ ← getChannelForUpdate db channelId
  require (mayInvite (db.getMembership channelId actorUserId)) forbidden
  let invite ← orFail (db.invites.get inviteId)
    (appError "invite not found" 404 "INVITE_INVALID")
  require (invite.channelId == channelId)
    (appError "invite not found" 404 "INVITE_INVALID")
  require (invite.isGeneric || invite.acceptedAt.isNone || invite.revokedAt.isSome)
    (appError "invite already accepted" 409 "INVITE_ALREADY_ACCEPTED")
  match invite.revokedAt with
  | some _ => pure (db, invite)
  | none =>
      let revoked := { invite with revokedAt := some (env.clock 0) }
      pure ((db.setInvite inviteId revoked).logEvent
        { eventType := "invite.revoked"
          payload := Json.obj
            [("channel_id", idJson channelId), ("invite_id", idJson inviteId)]
          channelId := some channelId, actorUserId := some actorUserId }, revoked)

/-- A row that exists is made a plain member again, whatever role it had. -/
def admitted (existing : Option ChannelMembership) (now : Instant) (creator : Uuid) :
    ChannelMembership :=
  match existing with
  | some membership => membership.readmitted now
  | none => newMember now creator (some creator)

def acceptInvite (env : Env) (db : Database) (token : String) (userId : Uuid) :
    Except Failure (Database × ChannelMembership) := do
  let _ ← orFail (db.users.get userId) (appError "user not found" 404)
  let invited ← orFail (db.invites.rows.find? (fun r =>
      r.2.tokenHash == env.sha256Hex token))
    (appError "invite not found" 404 "INVITE_INVALID")
  let channelId := invited.2.channelId
  let _ ← getChannelForUpdate db channelId
  let found ← validateInvite env db channelId token userId
  let existing := db.getMembership channelId userId
  match existing.filter (fun m => found.2.isGeneric && m.role.approved) with
  | some membership => pure (db, membership)
  | none =>
      let row := admitted existing (env.clock 1) found.2.createdByUserId
      let db ← storeMembership db channelId userId row
      let db ← announceMembership env (consumeInvite db found (env.clock 2)) channelId
        userId userId (some MembershipRole.member) "invite_accepted" "invite.accepted"
        (userPayload channelId userId)
      pure (db, row)

/-!
# Changing another member
-/

/-- The actor's and the target's rows, when both must exist. -/
def getPair (db : Database) (channelId actorId targetId : Uuid) :
    Except Failure (ChannelMembership × ChannelMembership) := do
  let actor ← orFail (db.getMembership channelId actorId) membershipNotFound
  let target ← orFail (db.getMembership channelId targetId) membershipNotFound
  pure (actor, target)

/-- Write the target's row and announce it. -/
def changeMember (env : Env) (db : Database) (channelId actorId targetId : Uuid)
    (row : ChannelMembership) (reason eventType : String) (payload : Json) :
    Except Failure (Database × ChannelMembership) := do
  let db ← storeMembership db channelId targetId row
  let db ← announceMembership env db channelId targetId actorId (some row.role) reason
    eventType payload
  pure (db, row)

def approveMember (env : Env) (db : Database) (channelId actorId targetId : Uuid) :
    Except Failure (Database × ChannelMembership) := do
  let _ ← getChannelForUpdate db channelId
  let pair ← getPair db channelId actorId targetId
  require (canApprove (some pair.1.role) pair.1.adminPermissions) forbidden
  require (pair.2.role == MembershipRole.pending) (appError "target is not pending" 400)
  changeMember env db channelId actorId targetId (pair.2.readmitted (env.clock 0))
    "approved" "membership.approved" (targetPayload channelId targetId)

def addMemberDirect (env : Env) (db : Database) (channelId actorId targetId : Uuid) :
    Except Failure (Database × ChannelMembership) := do
  let _ ← getChannelForUpdate db channelId
  require (membershipPermissions (db.getMembership channelId actorId)).canManageMembers
    forbidden
  changeMember env db channelId actorId targetId
    (admitted (db.getMembership channelId targetId) (env.clock 0) actorId)
    "added" "membership.added" (targetPayload channelId targetId)

def promoteMember (env : Env) (db : Database) (channelId actorId targetId : Uuid) :
    Except Failure (Database × ChannelMembership) := do
  let _ ← getChannelForUpdate db channelId
  let pair ← getPair db channelId actorId targetId
  require (canPromote (some pair.1.role) (some pair.2.role)) forbidden
  changeMember env db channelId actorId targetId
    { pair.2 with
      role := MembershipRole.admin
      adminPermissions :=
        some (normalizeAdminPermissions pair.2.adminPermissions).toJson }
    "promoted" "member.promoted" (targetPayload channelId targetId)

def demoteMember (env : Env) (db : Database) (channelId actorId targetId : Uuid) :
    Except Failure (Database × ChannelMembership) := do
  let _ ← getChannelForUpdate db channelId
  let pair ← getPair db channelId actorId targetId
  require (canDemote (some pair.1.role) (some pair.2.role)) forbidden
  changeMember env db channelId actorId targetId pair.2.demoted
    "demoted" "member.demoted" (targetPayload channelId targetId)

def AdminPermissionsUpdateRequest.update (req : AdminPermissionsUpdateRequest)
    (current : AdminPermissions) : AdminPermissions where
  canPublish := req.canPublish.getD current.canPublish
  canInvite := req.canInvite.getD current.canInvite
  canApprove := req.canApprove.getD current.canApprove
  canManageMembers := req.canManageMembers.getD current.canManageMembers
  canEditChannel := req.canEditChannel.getD current.canEditChannel

def updateAdminPermissions (env : Env) (db : Database)
    (channelId actorId targetId : Uuid) (req : AdminPermissionsUpdateRequest) :
    Except Failure (Database × ChannelMembership) := do
  let _ ← getChannelForUpdate db channelId
  let pair ← getPair db channelId actorId targetId
  require (pair.1.role == MembershipRole.owner) forbidden
  require (pair.2.role == MembershipRole.admin)
    (appError "target user must be an admin" 400 "VALIDATION_ERROR")
  let permissions := (req.update
    (normalizeAdminPermissions pair.2.adminPermissions)).toJson
  changeMember env db channelId actorId targetId
    { pair.2 with adminPermissions := some permissions }
    "admin_permissions_updated" "member.permissions.updated"
    (Json.obj
      [("channel_id", idJson channelId), ("target_user_id", idJson targetId),
        ("admin_permissions", permissions)])

def removeMember (env : Env) (db : Database) (channelId actorId targetId : Uuid) :
    Except Failure (Database × Unit) := do
  let _ ← getChannelForUpdate db channelId
  let pair ← getPair db channelId actorId targetId
  require (membershipPermissions (some pair.1)).canManageMembers forbidden
  require (canRemove (some pair.1.role) (some pair.2.role)) forbidden
  let db ← announceMembership env (db.setMembership channelId targetId none) channelId
    targetId actorId none "removed" "member.removed" (targetPayload channelId targetId)
  pure (db, ())

def leaveChannel (env : Env) (db : Database) (channelId userId : Uuid) :
    Except Failure (Database × Unit) := do
  let _ ← getChannelForUpdate db channelId
  let membership ← orFail (db.getMembership channelId userId) membershipNotFound
  require (membership.role != MembershipRole.owner)
    (appError "owner cannot leave channel without transferring ownership" 409
      "OWNER_CANNOT_LEAVE")
  let db ← announceMembership env (db.setMembership channelId userId none) channelId
    userId userId none "left" "membership.left" (userPayload channelId userId)
  pure (db, ())

/-!
# Calls

The operations as one type, so that a history is a list of calls.  Each call
brings the environment it runs in.
-/

inductive Call where
  | createChannel (ownerUserId : Uuid) (req : ChannelCreateRequest)
  | updateChannel (channelId actorUserId : Uuid) (req : ChannelPatchRequest)
  | deleteChannel (channelId actorUserId : Uuid)
  | restoreChannel (actorUserId channelId : Uuid)
  | joinChannel (channelId userId : Uuid) (inviteToken : Option String)
  | createInvite (channelId actorUserId : Uuid) (req : InviteRequest)
  | revokeInvite (channelId inviteId actorUserId : Uuid)
  | acceptInvite (token : String) (userId : Uuid)
  | approveMember (channelId actorId targetId : Uuid)
  | addMemberDirect (channelId actorId targetId : Uuid)
  | promoteMember (channelId actorId targetId : Uuid)
  | demoteMember (channelId actorId targetId : Uuid)
  | updateAdminPermissions (channelId actorId targetId : Uuid)
      (req : AdminPermissionsUpdateRequest)
  | removeMember (channelId actorId targetId : Uuid)
  | leaveChannel (channelId userId : Uuid)
  | reconcileUser (userId : Uuid)
  | reconcileAll

/-- The database a successful call commits. -/
def Call.apply (env : Env) (db : Database) : Call -> Except Failure Database
  | createChannel owner req => Prod.fst <$> MessagingSystem.createChannel env db owner req
  | updateChannel c a req => Prod.fst <$> MessagingSystem.updateChannel env db c a req
  | deleteChannel c a => Prod.fst <$> MessagingSystem.deleteChannel env db c a
  | restoreChannel a c => Prod.fst <$> MessagingSystem.restoreChannel env db a c
  | joinChannel c u token => Prod.fst <$> MessagingSystem.joinChannel env db c u token
  | createInvite c a req => Prod.fst <$> MessagingSystem.createInvite env db c a req
  | revokeInvite c i a => Prod.fst <$> MessagingSystem.revokeInvite env db c i a
  | acceptInvite token u => Prod.fst <$> MessagingSystem.acceptInvite env db token u
  | approveMember c a t => Prod.fst <$> MessagingSystem.approveMember env db c a t
  | addMemberDirect c a t => Prod.fst <$> MessagingSystem.addMemberDirect env db c a t
  | promoteMember c a t => Prod.fst <$> MessagingSystem.promoteMember env db c a t
  | demoteMember c a t => Prod.fst <$> MessagingSystem.demoteMember env db c a t
  | updateAdminPermissions c a t req =>
      Prod.fst <$> MessagingSystem.updateAdminPermissions env db c a t req
  | removeMember c a t => Prod.fst <$> MessagingSystem.removeMember env db c a t
  | leaveChannel c u => Prod.fst <$> MessagingSystem.leaveChannel env db c u
  | reconcileUser u =>
      Prod.fst <$> enqueueUserBrokerBindingReconciliation env db u
  | reconcileAll => Prod.fst <$> enqueueAllBrokerBindingReconciliation env db

end MessagingSystem
