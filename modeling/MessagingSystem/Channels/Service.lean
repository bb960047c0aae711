import MessagingSystem.Channels.Requests

/-!
# The channel service

Each operation is one transaction: it locks the channel row, reads the rows it
decides on, and commits all of its writes together.  A failed operation is an
error and has no resulting database.
-/

namespace MessagingSystem

open Foundation

def ChannelVisibility.value : ChannelVisibility -> String
  | «public» => "public"
  | «private» => "private"

def ChannelJoinMode.value : ChannelJoinMode -> String
  | «open» => "open"
  | inviteOnly => "invite_only"
  | approvalRequired => "approval_required"

/-!
# Membership transitions

Every change of a membership bumps the generation of its channel, tells the
channel and the affected user, and touches the binding state of the pair.
-/

def enqueueMembershipUpdate (env : Env) (db : Database) (channelId userId : Uuid)
    (role : Option MembershipRole) (reason : String) :
    Except Failure Database := do
  let db ← bumpChannelMembershipGeneration db channelId
  let payload := OutboxPayload.membershipUpdate channelId userId role reason
  let db ← enqueueChannelEventOutbox env db (env.fresh 0) channelId
    "membership_update" payload
  let db ← enqueueUserEventOutbox env db (env.fresh 1) channelId userId
    "membership_update_target" payload
  enqueueBrokerBindingOutbox env db channelId userId (bindingAction role)

/-- Write a membership row; a new row must name an existing user. -/
def storeMembership (db : Database) (channelId userId : Uuid)
    (row : ChannelMembership) : Except Failure Database := do
  require ((db.getMembership channelId userId).isSome || (db.users.get userId).isSome)
    (Failure.integrityError "channel_memberships_user_id_fkey")
  pure (db.setMembership channelId userId (some row))

/-- What each transition does after it has written or deleted the row. -/
def announceMembership (env : Env) (db : Database)
    (channelId userId actorId : Uuid) (role : Option MembershipRole)
    (reason eventType : String) (payload : Json) : Except Failure Database := do
  let db ← enqueueMembershipUpdate env db channelId userId role reason
  pure (db.logEvent
    { eventType := eventType, payload := payload,
      channelId := some channelId, actorUserId := some actorId })

def targetPayload (channelId targetId : Uuid) : Json :=
  Json.obj [("channel_id", idJson channelId), ("target_user_id", idJson targetId)]

def userPayload (channelId userId : Uuid) : Json :=
  Json.obj [("channel_id", idJson channelId), ("user_id", idJson userId)]

/-- A row that becomes an approved plain member. -/
def ChannelMembership.demoted (row : ChannelMembership) : ChannelMembership :=
  { row with role := MembershipRole.member, adminPermissions := none }

def ChannelMembership.readmitted (row : ChannelMembership) (now : Instant) :
    ChannelMembership :=
  { row.demoted with approvedAt := some now }

def newMember (now : Instant) (creator : Uuid) (inviter : Option Uuid) :
    ChannelMembership where
  role := MembershipRole.member
  adminPermissions := none
  approvedAt := some now
  createdByUserId := some creator
  invitedByUserId := inviter

/-!
# Channels
-/

def Database.slugs (db : Database) : List String :=
  db.channels.rows.map (fun r => r.2.channelSlug)

def providedSlug (slug : Option ValidSlug) : Except Failure String :=
  match slug with
  | some slug => if slug.text = "" then pure "" else normalizeChannelSlug slug.text
  | none => pure ""

def requestedSlug (req : ChannelCreateRequest) : Except Failure String := do
  let provided ← providedSlug req.channelSlug
  pure (if provided = "" then slugify req.name else provided)

def checkAvatar (env : Env) (userId : Uuid) (avatarUrl : Option String) :
    Except Failure Unit :=
  match avatarUrl with
  | some url => env.validateAvatarUploadReference userId url
  | none => pure ()

def freeSlug (db : Database) (slugBase : String) : String :=
  (nextAvailableSlug db.slugs slugBase).get (nextAvailableSlug_isSome db.slugs slugBase)

def ownedCount (db : Database) (userId : Uuid) : Nat :=
  (db.channels.rows.filter (fun r =>
    r.2.ownerUserId == userId && r.2.deletedAt.isNone)).length

def newChannel (ownerUserId : Uuid) (slug : String) (req : ChannelCreateRequest) :
    Channel where
  ownerUserId := ownerUserId
  name := req.name
  channelSlug := slug
  description := req.description
  avatarUrl := req.avatarUrl
  visibility := req.visibility
  joinMode := req.joinMode
  deletedAt := none
  lastSeqId := 0
  membershipGeneration := 1

def ownerMembership (ownerUserId : Uuid) (now : Instant) : ChannelMembership where
  role := MembershipRole.owner
  adminPermissions := none
  approvedAt := some now
  createdByUserId := some ownerUserId
  invitedByUserId := none

def logCreation (db : Database) (channelId ownerUserId : Uuid)
    (name slugBase slug : String) : Database :=
  let db := db.logEvent
    { eventType := "channel.created"
      payload := Json.obj [("channel_id", idJson channelId), ("name", Json.str name)]
      channelId := some channelId, actorUserId := some ownerUserId }
  if slug = slugBase then db
  else db.logEvent
    { eventType := "channel.slug_collision_resolved"
      payload := Json.obj
        [("requested_slug", Json.str slugBase), ("resolved_slug", Json.str slug)]
      channelId := some channelId, actorUserId := some ownerUserId }

def createChannel (env : Env) (db : Database) (ownerUserId : Uuid)
    (req : ChannelCreateRequest) : Except Failure (Database × Uuid) := do
  require (decide (ownedCount db ownerUserId < env.settings.maxChannelsOwnedPerUser))
    (appError "owned channel quota exceeded" 429 "RESOURCE_QUOTA_EXCEEDED")
  checkAvatar env ownerUserId req.avatarUrl
  let slugBase ← requestedSlug req
  let slug := freeSlug db slugBase
  let channelId := env.fresh 0
  require (db.channels.get channelId).isNone (Failure.integrityError "channels_pkey")
  require (db.users.get ownerUserId).isSome
    (Failure.integrityError "channels_owner_user_id_fkey")
  require (isSafeIdentifier slug)
    (Failure.integrityError "ck_channels_slug_safe_identifier")
  let db := db.setChannel channelId (newChannel ownerUserId slug req)
  let db := db.setMembership channelId ownerUserId
    (some (ownerMembership ownerUserId (env.clock 0)))
  let db ← enqueueBrokerBindingOutbox env db channelId ownerUserId "bind"
  pure (logCreation db channelId ownerUserId req.name slugBase slug, channelId)

def ChannelPatchRequest.patch (req : ChannelPatchRequest) (channel : Channel) :
    Channel :=
  { channel with
    name := req.name.getD channel.name
    channelSlug := (req.channelSlug.map ValidSlug.text).getD channel.channelSlug
    description := req.description.getD channel.description
    avatarUrl := req.avatarUrl.getD channel.avatarUrl
    visibility := req.visibility.getD channel.visibility
    joinMode := req.joinMode.getD channel.joinMode }

/-- One binding row for every approved member, in the order of their ids. -/
def enqueueMemberBindings (env : Env) (db : Database) (channelId : Uuid)
    (action : String) : Except Failure Database :=
  (db.approvedMembers channelId).foldlM
    (fun db userId => enqueueBrokerBindingOutbox env db channelId userId action) db

/-- A slug change moves every active subscriber to the new routing key. -/
def rebindMembers (env : Env) (db : Database) (channelId : Uuid)
    (oldSlug newSlug : String) : Except Failure Database :=
  if oldSlug = newSlug then pure db
  else enqueueMemberBindings env db channelId "bind"

def channelUpdatedPayload (channelId : Uuid) (channel : Channel) : Json :=
  Json.obj
    [("channel_id", idJson channelId), ("name", Json.str channel.name),
      ("channel_slug", Json.str channel.channelSlug),
      ("description", optionalText channel.description),
      ("avatar_url", optionalText channel.avatarUrl),
      ("visibility", Json.str channel.visibility.value),
      ("join_mode", Json.str channel.joinMode.value)]

def updateChannel (env : Env) (db : Database) (channelId actorUserId : Uuid)
    (req : ChannelPatchRequest) : Except Failure (Database × Channel) := do
  let channel ← getChannelForUpdate db channelId
  require (membershipPermissions (db.getMembership channelId actorUserId)).canEditChannel
    forbidden
  checkAvatar env actorUserId req.avatarUrl.join
  let patched := req.patch channel
  require (db.channels.rows.all (fun r =>
      r.1 == channelId || r.2.channelSlug != patched.channelSlug))
    (Failure.integrityError "uq_channels_channel_slug")
  let db := db.setChannel channelId patched
  let db ← enqueueChannelEventOutbox env db (env.fresh 0) channelId "channel_updated"
    (OutboxPayload.channelUpdated channelId patched.name patched.channelSlug
      patched.description patched.avatarUrl patched.visibility patched.joinMode)
  let db ← rebindMembers env db channelId channel.channelSlug patched.channelSlug
  pure (db.logEvent
    { eventType := "channel.updated"
      payload := channelUpdatedPayload channelId patched
      channelId := some channelId, actorUserId := some actorUserId }, patched)

def isOwnerRow (membership : Option ChannelMembership) : Bool :=
  membership.map ChannelMembership.role == some MembershipRole.owner

def deleteChannel (env : Env) (db : Database) (channelId actorUserId : Uuid) :
    Except Failure (Database × Unit) := do
  let channel ← getChannelForUpdate db channelId
  let isSuperadminOverride := ((db.users.get actorUserId).map User.isSuperadmin).getD false
  require (isOwnerRow (db.getMembership channelId actorUserId) || isSuperadminOverride)
    forbidden
  let db := db.setChannel channelId { channel with deletedAt := some (env.clock 0) }
  let db ← enqueueChannelEventOutbox env db (env.fresh 0) channelId "channel_deleted"
    (OutboxPayload.channelDeleted channelId)
  let db ← bumpChannelMembershipGeneration db channelId
  let db ← enqueueMemberBindings env db channelId "unbind"
  pure (db.logEvent
    { eventType := "channel.deleted"
      payload := Json.obj
        [("channel_id", idJson channelId),
          ("superadmin_override", Json.bool isSuperadminOverride)]
      channelId := some channelId, actorUserId := some actorUserId }, ())

/--
`AdminService.restore_channel`.  The route dependency lets only a superadmin
through.
-/
def restoreChannel (env : Env) (db : Database) (actorUserId channelId : Uuid) :
    Except Failure (Database × Unit) := do
  require (((db.users.get actorUserId).map User.isSuperadmin).getD false)
    (appError "superadmin access required" 403 "SUPERADMIN_REQUIRED")
  let channel ← orFail (db.channels.get channelId) channelNotFound
  require channel.deletedAt.isSome (appError "channel is already active" 409 "CONFLICT")
  let db := db.setChannel channelId { channel with deletedAt := none }
  let db ← enqueueChannelEventOutbox env db channelId channelId "channel_restored"
    (OutboxPayload.channelRestored channelId)
  let db ← bumpChannelMembershipGeneration db channelId
  let db ← enqueueMemberBindings env db channelId "bind"
  pure (db.logEvent
    { eventType := "superadmin.channel_restored"
      payload := Json.obj
        [("channel_id", idJson channelId),
          ("channel_slug", Json.str channel.channelSlug)]
      channelId := some channelId, actorUserId := some actorUserId }, ())

end MessagingSystem
