import MessagingSystem.Core.Identifiers
import MessagingSystem.Channels.Rbac
import MessagingSystem.Foundation.Table

/-!
# Database rows of the channel services

The tables that channel membership, invites, broker bindings and delivery share.
Primary keys are table keys.  Columns that no modelled function reads are left
out.
-/

namespace MessagingSystem

open Foundation

inductive ChannelVisibility where
  | «public»
  | «private»
  deriving DecidableEq, Repr

inductive ChannelJoinMode where
  | «open»
  | inviteOnly
  | approvalRequired
  deriving DecidableEq, Repr

inductive OutboxStatus where
  | pending
  | publishing
  | published
  | retryScheduled
  | failed
  | deadLettered
  deriving DecidableEq, Repr

structure User where
  username : String
  email : Option String
  emailVerifiedAt : Option Instant
  displayName : Option String
  avatarUrl : Option String
  isSuperadmin : Bool
  isActive : Bool

structure Channel where
  ownerUserId : Uuid
  name : String
  channelSlug : String
  description : Option String
  avatarUrl : Option String
  visibility : ChannelVisibility
  joinMode : ChannelJoinMode
  deletedAt : Option Instant
  lastSeqId : Nat
  membershipGeneration : Nat

structure ChannelMembership where
  role : MembershipRole
  adminPermissions : Option Json
  approvedAt : Option Instant
  createdByUserId : Option Uuid
  invitedByUserId : Option Uuid

structure ChannelInvite where
  channelId : Uuid
  invitedUserId : Option Uuid
  invitedEmail : Option String
  tokenHash : String
  createdByUserId : Uuid
  expiresAt : Instant
  acceptedAt : Option Instant
  revokedAt : Option Instant

/-- Desired broker state of one (channel, user) pair. -/
structure BrokerBindingState where
  generation : Nat
  desiredBound : Bool
  desiredRoutingKey : String
  routingKeys : List String
  reconciledGeneration : Nat
  deriving DecidableEq

/-!
# Messages

Both bodies of a stored message hold ciphertext, and so does the copy of the row
that travels through the outbox.
-/

inductive ContentType where
  | text
  | json
  deriving DecidableEq, Repr

structure Attachment where
  fileId : Uuid
  contentType : String
  filename : String
  sizeBytes : Nat
  url : String
  deriving DecidableEq

structure Message where
  channelId : Uuid
  senderUserId : Uuid
  seqId : Nat
  contentType : ContentType
  contentText : Option String
  contentJson : Option Json
  replyToMessageId : Option Uuid
  replyToSeqId : Option Nat
  attachments : Option (List Attachment)
  isPinned : Bool
  clientMsgId : Option Uuid
  createdAt : Instant
  updatedAt : Instant
  editedAt : Option Instant
  deletedAt : Option Instant

structure Upload where
  ownerUserId : Uuid
  filename : String
  contentType : String
  sizeBytes : Nat
  publicUrl : Option String

/-- The dictionary of `_serialize_message_for_outbox`. -/
structure MessageSnapshot extends Message where
  id : Uuid
  senderUsername : Option String
  senderDisplayName : Option String
  senderAvatarUrl : Option String

/-- The three kinds of payload given to `enqueue_message_outbox`. -/
inductive MessagePayload where
  | message (snapshot : MessageSnapshot)
  | messageUpdated (snapshot : MessageSnapshot)
  | reactionUpdated (channelId messageId : Uuid) (reactionsSummary : Json)

def MessagePayload.type : MessagePayload -> String
  | message _ => "message"
  | messageUpdated _ => "message_updated"
  | reactionUpdated _ _ _ => "reaction_updated"

/-!
# Outbox rows

A row is identified by its position; rows are only ever appended and updated in
place.  Each kind of payload is the dictionary its writer builds, together with
the membership generation stamped on it.
-/

inductive OutboxPayload where
  | message (payload : MessagePayload) (membershipGeneration : Nat)
  | brokerBinding (generation : Nat) (userId channelId : Uuid)
  | membershipUpdate (channelId userId : Uuid) (newRole : Option MembershipRole)
      (reason : String) (membershipGeneration : Nat)
  | channelDeleted (channelId : Uuid) (membershipGeneration : Nat)
  | channelRestored (channelId : Uuid) (membershipGeneration : Nat)
  | channelUpdated (channelId : Uuid) (name channelSlug : String)
      (description avatarUrl : Option String) (visibility : ChannelVisibility)
      (joinMode : ChannelJoinMode) (membershipGeneration : Nat)

structure Outbox where
  aggregateType : String
  aggregateId : Uuid
  channelId : Uuid
  payload : OutboxPayload
  type : String
  routingKey : String
  status : OutboxStatus
  attempts : Nat
  maxAttempts : Nat

/-- The arguments of one `log_event` call of a committed request. -/
structure AuditRecord where
  eventType : String
  payload : Json
  channelId : Option Uuid
  actorUserId : Option Uuid

structure Database where
  users : Table Uuid User
  channels : Table Uuid Channel
  memberships : Table (Uuid × Uuid) ChannelMembership
  invites : Table Uuid ChannelInvite
  messages : Table Uuid Message
  uploads : Table Uuid Upload
  messageAttachments : Table (Uuid × Uuid) Uuid
  bindingStates : Table (Uuid × Uuid) BrokerBindingState
  outbox : List Outbox
  audit : List AuditRecord

namespace Database

/-- No row in any table. -/
def empty : Database where
  users := Table.empty
  channels := Table.empty
  memberships := Table.empty
  invites := Table.empty
  messages := Table.empty
  uploads := Table.empty
  messageAttachments := Table.empty
  bindingStates := Table.empty
  outbox := []
  audit := []

/-!
# Reading the database

The views below are what authorization, routing and realtime delivery depend on.
-/

def getMembership (db : Database) (channelId userId : Uuid) :
    Option ChannelMembership :=
  db.memberships.get (channelId, userId)

def role (db : Database) (channelId userId : Uuid) : Option MembershipRole :=
  (db.getMembership channelId userId).map ChannelMembership.role

/-- The user is owner, admin or member of the channel. -/
def Approved (db : Database) (channelId userId : Uuid) : Prop :=
  canRead (db.role channelId userId) = true

instance (db : Database) (channelId userId : Uuid) :
    Decidable (db.Approved channelId userId) :=
  inferInstanceAs (Decidable (_ = true))

/-- The channel exists and is not soft-deleted. -/
def Live (db : Database) (channelId : Uuid) : Prop :=
  exists channel, db.channels.get channelId = some channel ∧
    channel.deletedAt = none

/-- The users with an approved role in a channel, in `sorted(..., key=str)` order. -/
def approvedMembers (db : Database) (channelId : Uuid) : List Uuid :=
  let members := db.memberships.rows.filterMap fun m =>
    if m.1.1 = channelId ∧ m.2.role.approved = true then some m.1.2 else none
  members.insertionSort (fun a b => a.str ≤ b.str)

theorem mem_approvedMembers {db : Database} {channelId userId : Uuid} :
    userId ∈ db.approvedMembers channelId ↔ db.Approved channelId userId := by
  unfold approvedMembers Approved role getMembership
  rw [List.mem_insertionSort, List.mem_filterMap]
  constructor
  · rintro ⟨⟨⟨c, u⟩, m⟩, hrow, hif⟩
    split at hif
    · rename_i hcond
      rcases hcond with ⟨hc, happroved⟩
      cases hif
      cases hc
      rw [Table.mem_rows.mp hrow]
      exact happroved
    · cases hif
  · intro happroved
    cases hget : db.memberships.get (channelId, userId) with
    | none =>
        rw [hget] at happroved
        cases happroved
    | some m =>
        rw [hget] at happroved
        refine ⟨((channelId, userId), m), Table.mem_rows.mpr hget, ?_⟩
        exact if_pos ⟨rfl, happroved⟩

def setMembership (db : Database) (channelId userId : Uuid)
    (row : Option ChannelMembership) : Database :=
  { db with memberships := db.memberships.set (channelId, userId) row }

def setChannel (db : Database) (channelId : Uuid) (channel : Channel) :
    Database :=
  { db with channels := db.channels.set channelId (some channel) }

def setInvite (db : Database) (inviteId : Uuid) (invite : ChannelInvite) :
    Database :=
  { db with invites := db.invites.set inviteId (some invite) }

def setBindingState (db : Database) (channelId userId : Uuid)
    (state : BrokerBindingState) : Database :=
  { db with
    bindingStates := db.bindingStates.set (channelId, userId) (some state) }

def enqueue (db : Database) (row : Outbox) : Database :=
  { db with outbox := db.outbox ++ [row] }

def logEvent (db : Database) (record : AuditRecord) : Database :=
  { db with audit := db.audit ++ [record] }

end Database

end MessagingSystem
