import MessagingSystem.Events.Integrity
import MessagingSystem.Foundation.Backfill
import MessagingSystem.Messages.Encryption
import MessagingSystem.Messages.Service

/-!
# Synchronization over REST

A client that has missed messages names its channels with the last sequence number it has
seen.  The answer carries a view of each channel, the missed messages of all of them under one
budget, and what has happened to memberships.
-/

namespace MessagingSystem

open Foundation

/-- The tables, with the read positions of users and the events. -/
structure SyncDatabase extends Database where
  lastSeenSeqIds : Table (Uuid × Uuid) (Option Nat)
  events : List Event

/-- `uuidOf` is `UUID(str(value))` where this raises no error, and `textOf` is `str(value)`. -/
structure SyncEnv where
  crypto : MessageCrypto
  uuidOf : Json -> Option Uuid
  textOf : Json -> String
  now : Instant

/-!
# The view of a channel
-/

structure ChannelView where
  id : Uuid
  channel : Channel
  memberCount : Nat
  pendingCount : Nat
  lastMessage : Option MessageSnapshot
  lastMessageAt : Option Instant
  myLastSeenSeqId : Option Nat
  unreadCount : Nat
  myRole : Option MembershipRole
  permissions : Permissions

def effectiveRole (channel : Channel) (userId : Uuid) (role : Option MembershipRole) :
    Option MembershipRole :=
  if channel.ownerUserId = userId then some MembershipRole.owner else role

/-- The channel with the effective role and the admin permissions of the user. -/
def getChannelWithRole (db : Database) (channelId userId : Uuid) :
    Option (Channel × Option MembershipRole × Option Json) := do
  let channel ← db.channels.get channelId
  if channel.deletedAt.isNone then
    let membership := db.getMembership channelId userId
    some (channel, effectiveRole channel userId (membership.map ChannelMembership.role),
      membership.bind ChannelMembership.adminPermissions)
  else none

def countMembers (db : Database) (channelId : Uuid) (counted : MembershipRole -> Bool) : Nat :=
  (db.memberships.rows.filter (fun m => m.1.1 == channelId && counted m.2.role)).length

/-- The messages of a channel that are not deleted, with their ids. -/
def undeletedMessages (db : Database) (channelId : Uuid) : List (Uuid × Message) :=
  db.messages.rows.filter (fun r => r.2.channelId == channelId && r.2.deletedAt.isNone)

def lastMessageOf (db : Database) (channelId : Uuid) : Option (Uuid × Message) :=
  (orderByDesc (fun r : Uuid × Message => r.2.seqId) (undeletedMessages db channelId)).head?

def decryptedMessagePayload (crypto : MessageCrypto) (message : Message) :
    Except Failure (Option String × Option Json) :=
  if message.deletedAt.isSome then pure (none, none)
  else
    match message.contentType with
    | ContentType.text =>
        match message.contentText with
        | some body => do
            let text ← decryptMessage crypto body
            pure (some text, none)
        | none => pure (none, none)
    | ContentType.json =>
        match message.contentJson with
        | some body => do
            let payload ← decryptJsonPayload crypto body
            pure (none, some payload)
        | none => pure (none, none)

/-- The preview shows the decrypted body; its reaction summary is always empty. -/
def lastMessagePreview (crypto : MessageCrypto) (db : Database) (messageId : Uuid)
    (message : Message) : Except Failure MessageSnapshot := do
  let profile := loadSenderProfile db message.senderUserId
  let content ← decryptedMessagePayload crypto message
  pure
    { message with
      contentText := content.1
      contentJson := content.2
      id := messageId
      senderUsername := profile.1
      senderDisplayName := profile.2.1
      senderAvatarUrl := profile.2.2 }

def previewFor (crypto : MessageCrypto) (db : Database) (role : Option MembershipRole) :
    Option (Uuid × Message) -> Except Failure (Option MessageSnapshot)
  | some (messageId, message) =>
      if canRead role then do
        let snapshot ← lastMessagePreview crypto db messageId message
        pure (some snapshot)
      else pure none
  | none => pure none

def unreadMessages (db : Database) (channelId : Uuid) (seenSeq : Nat) : Nat :=
  ((undeletedMessages db channelId).filter (fun r => decide (seenSeq < r.2.seqId) &&
    r.2.replyToMessageId.isNone && r.2.replyToSeqId.isNone)).length

def enrichChannelPayload (crypto : MessageCrypto) (db : SyncDatabase) (channelId : Uuid)
    (channel : Channel) (userId : Uuid) (role : Option MembershipRole)
    (adminPermissions : Option Json) : Except Failure ChannelView := do
  let permissions := buildPermissions role adminPermissions
  let last := lastMessageOf db.toDatabase channelId
  let preview ← previewFor crypto db.toDatabase role last
  let seen := (db.lastSeenSeqIds.get (channelId, userId)).bind id
  pure
    { id := channelId
      channel := channel
      memberCount := countMembers db.toDatabase channelId MembershipRole.approved
      pendingCount :=
        if permissions.canManageMembers then
          countMembers db.toDatabase channelId (fun r => r == MembershipRole.pending)
        else 0
      lastMessage := preview
      lastMessageAt :=
        if canRead role || channel.visibility == ChannelVisibility.public then
          last.map (fun r => r.2.createdAt)
        else none
      myLastSeenSeqId := if canRead role then seen else none
      unreadCount :=
        if canRead role then unreadMessages db.toDatabase channelId (seen.getD 0) else 0
      myRole := role
      permissions := permissions }

def getChannelView (crypto : MessageCrypto) (db : SyncDatabase) (channelId userId : Uuid) :
    Except Failure ChannelView := do
  let found ← orFail (getChannelWithRole db.toDatabase channelId userId)
    (appError "channel not found" 404 "CHANNEL_NOT_FOUND")
  require (!(found.1.visibility == ChannelVisibility.private && found.2.1.isNone))
    (appError "forbidden" 403 "FORBIDDEN")
  enrichChannelPayload crypto db channelId found.1 userId found.2.1 found.2.2

/-!
# Requests
-/

structure SyncChannelCursor where
  channelId : Uuid
  lastSeenSeqId : Option Nat

structure SyncRequest where
  channels : List SyncChannelCursor
  since : Option Instant
  limit : Nat

def protocolChannelArrayMax : Nat := 100

/-- The later of two entries for a channel counts. -/
def channelState (channels : List SyncChannelCursor) : Table Uuid Nat :=
  channels.foldl (fun state entry =>
    state.set entry.channelId (some (entry.lastSeenSeqId.getD 0))) Table.empty

/-- The channels in which the user is owner, admin or member. -/
def approvedChannels (db : Database) (userId : Uuid) : List Uuid :=
  db.memberships.rows.filterMap (fun m =>
    if m.1.2 = userId ∧ m.2.role.approved = true then some m.1.1 else none)

def selectedChannels (db : Database) (userId : Uuid) (channels : List SyncChannelCursor) :
    List Uuid :=
  let channelIds := (channelState channels).keys
  let memberships := approvedChannels db userId
  if channelIds.isEmpty then
    (orderByAsc Uuid.str memberships).take protocolChannelArrayMax
  else orderByAsc Uuid.str (channelIds.filter (fun c => memberships.contains c))

/-!
# Missed messages
-/

/-- `ORDER BY seq_id, id`. -/
def syncOrder (row : Uuid × Message) : Lex (Nat × Nat) :=
  toLex (row.2.seqId, row.1.toNat)

def fetchSyncMessagePage (db : Database) (channelId : Uuid) (afterSeqId limit : Nat) :
    List (Uuid × Message) :=
  let boundedLimit := max 1 limit
  (orderByAsc syncOrder ((undeletedMessages db channelId).filter
    (fun r => decide (afterSeqId < r.2.seqId)))).take boundedLimit

def syncMessages (db : Database) (state : Table Uuid Nat) (limit : Nat) (selected : List Uuid) :
    List (Uuid × Message) :=
  budgetedPages (fun c remaining => fetchSyncMessagePage db c ((state.get c).getD 0) remaining)
    limit selected

/-!
# Membership updates
-/

structure SyncMembershipUpdate where
  channelId : Uuid
  userId : Uuid
  newRole : String
  reason : String
  updatedAt : Instant

/-- `payload.get(key)` if it is true as a condition. -/
def truthyMember (payload : Payload) (key : String) : Option Json :=
  (Json.member? payload.members key).filter Json.truthy

def inferredRoles : List (String × String) :=
  [("invite.accepted", "member"), ("membership.added", "member"),
    ("membership.approved", "member"), ("member.promoted", "admin"),
    ("member.demoted", "member"), ("member.permissions.updated", "admin"),
    ("member.removed", "none"), ("membership.left", "none")]

def membershipEventNewRole (env : SyncEnv) (eventType : String) (payload : Payload) : String :=
  let explicitRole :=
    match (truthyMember payload "new_role").or (truthyMember payload "role") with
    | some value => lower (env.textOf value)
    | none => ""
  if ["owner", "admin", "member", "pending", "none"].contains explicitRole then explicitRole
  else (inferredRoles.lookup eventType).getD "none"

/-- The condition of the query on events. -/
def isVisibleMembershipEvent (userId : Uuid) (memberships : List Uuid) (since : Instant)
    (event : Event) : Bool :=
  let names (key : String) : Bool :=
    match Json.member? event.payload.members key with
    | some (Json.str text) => text == userId.str
    | _ => false
  decide (since ≤ event.createdAt) &&
    (startsWith "membership." event.eventType || startsWith "member." event.eventType ||
      event.eventType == "invite.accepted") &&
    (names "user_id" || names "target_user_id" ||
      event.channelId.any (fun c => memberships.contains c))

def membershipUpdate (env : SyncEnv) (userId : Uuid) (memberships : List Uuid)
    (event : Event) : Option SyncMembershipUpdate := do
  let payload := event.payload
  let channelId ← (truthyMember payload "channel_id").elim event.channelId env.uuidOf
  let userIdRaw ← (truthyMember payload "user_id").or (truthyMember payload "target_user_id")
  let targetUserId ← env.uuidOf userIdRaw
  if memberships.contains channelId || targetUserId == userId then
    some
      { channelId := channelId
        userId := targetUserId
        newRole := membershipEventNewRole env event.eventType payload
        reason := (truthyMember payload "reason").elim event.eventType env.textOf
        updatedAt := event.createdAt }
  else none

def membershipUpdates (env : SyncEnv) (db : SyncDatabase) (userId : Uuid)
    (since : Option Instant) (limit : Nat) : List SyncMembershipUpdate :=
  match since with
  | none => []
  | some since =>
      let memberships := approvedChannels db.toDatabase userId
      ((orderByAsc (fun event : Event => event.createdAt)
        (db.events.filter (isVisibleMembershipEvent userId memberships since))).take
          (max 1 limit)).filterMap (membershipUpdate env userId memberships)

/-!
# The answer
-/

structure SyncResponse where
  serverTime : Instant
  channelUpdates : List (Uuid × ChannelView)
  membershipUpdates : List SyncMembershipUpdate
  messages : List (Uuid × Message)

def sync (env : SyncEnv) (db : SyncDatabase) (actorUserId : Uuid) (req : SyncRequest) :
    Except Failure SyncResponse := do
  let selected := selectedChannels db.toDatabase actorUserId req.channels
  let channelUpdates ← selected.mapM (fun c => do
    let patch ← getChannelView env.crypto db c actorUserId
    pure (c, patch))
  pure
    { serverTime := env.now
      channelUpdates := channelUpdates
      membershipUpdates := membershipUpdates env db actorUserId req.since req.limit
      messages := syncMessages db.toDatabase (channelState req.channels) req.limit selected }

end MessagingSystem
