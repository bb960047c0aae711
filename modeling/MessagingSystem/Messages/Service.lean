import MessagingSystem.Channels.System
import MessagingSystem.Foundation.Transactions

/-!
# Publishing, editing and deleting messages

Each request is a script: a statement sees the rows committed when it runs, and the
writes of the request become visible together when it commits.  Statements that
only write are part of the result of the script.  A request that raises writes
nothing, with one exception: a refused request first commits its security event.
-/

namespace MessagingSystem

open Foundation

inductive RowLock where
  | channel (channelId : Uuid)
  | message (messageId : Uuid)
  deriving DecidableEq

/-- What a message request takes from its surroundings besides `Env`. -/
structure MessageEnv extends Env where
  encryptMessage : String -> Except Failure String
  encryptJsonPayload : Json -> Except Failure Json
  transactionTime : Instant

structure PublishMessageRequest where
  contentText : Option String
  contentJson : Option Json
  replyToMessageId : Option Uuid
  replyToSeqId : Option Nat
  attachments : Option (List Uuid)
  clientMsgId : Option Uuid

structure MessagePatchRequest where
  contentText : Option String
  contentJson : Option Json

/-- How a request ends, with the rows it writes. -/
inductive MessageResult where
  | existing (messageId : Uuid)
  | published (messageId : Uuid) (message : Message) (outbox : Outbox)
      (record : AuditRecord)
  | edited (messageId : Uuid) (contentType : ContentType) (contentText : Option String)
      (contentJson : Option Json) (editedAt updatedAt : Instant) (outbox : Outbox)
  | deleted (messageId : Uuid) (deletedAt : Instant) (outbox : Outbox)
  | unchanged (messageId : Uuid)
  | forbidden (record : AuditRecord)

abbrev MessageScript (value : Type) := Script Database RowLock Failure value

/-!
# Parts shared by the requests
-/

def scalarOneOrNone : List row -> Except Failure (Option row)
  | [] => Except.ok none
  | [r] => Except.ok (some r)
  | _ => Except.error Failure.multipleResultsFound

def liveChannel (db : Database) (channelId : Uuid) : Except Failure Channel := do
  let channel ← orFail (db.channels.get channelId)
    (appError "channel not found" 404 "CHANNEL_NOT_FOUND")
  require channel.deletedAt.isNone (appError "channel not found" 404 "CHANNEL_NOT_FOUND")
  pure channel

def encryptPayload (env : MessageEnv) (contentText : Option String)
    (contentJson : Option Json) : Except Failure (Option String × Option Json) :=
  match contentText, contentJson with
  | some text, _ => do
      let encrypted ← env.encryptMessage text
      pure (some encrypted, none)
  | none, some json => do
      let encrypted ← env.encryptJsonPayload json
      pure (none, some encrypted)
  | none, none => pure (none, none)

def loadSenderProfile (db : Database) (senderUserId : Uuid) :
    Option String × Option String × Option String :=
  match db.users.get senderUserId with
  | none => (none, none, none)
  | some sender => (some sender.username, sender.displayName, sender.avatarUrl)

def serializeMessageForOutbox (messageId : Uuid) (message : Message)
    (profile : Option String × Option String × Option String) : MessageSnapshot :=
  let isDeleted := message.deletedAt.isSome
  { message with
    contentText := if isDeleted then none else message.contentText
    contentJson := if isDeleted then none else message.contentJson
    attachments := if isDeleted then none else message.attachments
    id := messageId
    senderUsername := profile.1
    senderDisplayName := profile.2.1
    senderAvatarUrl := profile.2.2 }

/-- The sender's profile and then the delivery state under a shared channel lock. -/
def announceMessage (env : MessageEnv) (messageId : Uuid) (message : Message)
    (payload : MessageSnapshot -> MessagePayload) : MessageScript Outbox := do
  let db ← Script.read
  let profile := loadSenderProfile db message.senderUserId
  let db ← Script.lock (RowLock.channel message.channelId) LockMode.share
  Script.lift (enqueueMessageOutbox env.toEnv db messageId message.channelId
    (payload (serializeMessageForOutbox messageId message profile)))

def securityRecord (eventType : String) (channelId userId : Uuid) : AuditRecord where
  eventType := eventType
  payload := Json.obj
    [("channel_id", idJson channelId), ("reason", Json.str "insufficient_permissions")]
  channelId := some channelId
  actorUserId := some userId

/-!
# Publishing
-/

def attachmentUrl (fileId : Uuid) : String :=
  "/v1/uploads/" ++ fileId.str ++ "/content"

def hasText : Option String -> Bool
  | some text => text != ""
  | none => false

def normalizeAttachment (db : Database) (actorUserId fileId : Uuid) :
    Except Failure Attachment := do
  let upload ← orFail (db.uploads.get fileId)
    (appError "attachment file not found" 404 "NOT_FOUND")
  require (upload.ownerUserId == actorUserId)
    (appError "forbidden attachment" 403 "FORBIDDEN")
  require (hasText upload.publicUrl)
    (appError "attachment content has not been uploaded" 400 "VALIDATION_ERROR")
  pure
    { fileId := fileId
      contentType := upload.contentType
      filename := upload.filename
      sizeBytes := upload.sizeBytes
      url := attachmentUrl fileId }

/-- The loop over the attachments; every upload is read by a statement of its own. -/
def normalizeAttachmentsFrom (actorUserId : Uuid) :
    List Uuid -> List Uuid -> MessageScript (List Attachment)
  | _, [] => pure []
  | seenFileIds, fileId :: fileIds => do
      Script.lift (require (!seenFileIds.contains fileId)
        (appError "duplicate attachment file_id" 400 "VALIDATION_ERROR"))
      let db ← Script.read
      let attachment ← Script.lift (normalizeAttachment db actorUserId fileId)
      let rest ← normalizeAttachmentsFrom actorUserId (fileId :: seenFileIds) fileIds
      pure (attachment :: rest)

def normalizeAttachments (actorUserId : Uuid) :
    Option (List Uuid) -> MessageScript (Option (List Attachment))
  | none => pure none
  | some [] => pure (some [])
  | some fileIds => do
      Script.lift (require (decide (fileIds.length ≤ 10))
        (appError "too many attachments" 400 "VALIDATION_ERROR"))
      let normalized ← normalizeAttachmentsFrom actorUserId [] fileIds
      pure (some normalized)

/-- The target named by id, which a given sequence number has to match. -/
def replyTargetById (db : Database) (channelId messageId : Uuid) (seqId : Option Nat) :
    Except Failure (Uuid × Nat) := do
  let target ← orFail (db.messages.get messageId)
    (appError "reply target not found" 404 "MESSAGE_NOT_FOUND")
  require (target.channelId == channelId && target.deletedAt.isNone)
    (appError "reply target not found" 404 "MESSAGE_NOT_FOUND")
  require (seqId.all (fun n => n == target.seqId))
    (appError "reply target mismatch" 400 "VALIDATION_ERROR")
  pure (messageId, target.seqId)

def replyTargetBySeqId (db : Database) (channelId : Uuid) (seqId : Nat) :
    Except Failure (Uuid × Nat) := do
  let found ← scalarOneOrNone (db.messages.rows.filter (fun r =>
    r.2.channelId == channelId && r.2.seqId == seqId && r.2.deletedAt.isNone))
  let target ← orFail found (appError "reply target not found" 404 "MESSAGE_NOT_FOUND")
  pure (target.1, target.2.seqId)

def resolveReplyTarget (channelId : Uuid) :
    Option Uuid -> Option Nat -> MessageScript (Option (Uuid × Nat))
  | none, none => pure none
  | some messageId, seqId => do
      let db ← Script.read
      let target ← Script.lift (replyTargetById db channelId messageId seqId)
      pure (some target)
  | none, some seqId => do
      let db ← Script.read
      let target ← Script.lift (replyTargetBySeqId db channelId seqId)
      pure (some target)

def messageByClientId (db : Database) (channelId senderId clientMsgId : Uuid) :
    Except Failure (Option (Uuid × Message)) :=
  scalarOneOrNone (db.messages.rows.filter (fun r =>
    r.2.channelId == channelId && r.2.senderUserId == senderId &&
      r.2.clientMsgId == some clientMsgId))

def existingMessage (channelId senderId : Uuid) :
    Option Uuid -> MessageScript (Option (Uuid × Message))
  | none => pure none
  | some clientMsgId => do
      let db ← Script.read
      Script.lift (messageByClientId db channelId senderId clientMsgId)

def newMessage (env : MessageEnv) (channelId senderId : Uuid)
    (req : PublishMessageRequest) (seqId : Nat) (target : Option (Uuid × Nat))
    (attachments : Option (List Attachment))
    (encrypted : Option String × Option Json) : Message where
  channelId := channelId
  senderUserId := senderId
  seqId := seqId
  contentType := if req.contentJson.isSome then ContentType.json else ContentType.text
  contentText := encrypted.1
  contentJson := encrypted.2
  replyToMessageId := target.map Prod.fst
  replyToSeqId := target.map Prod.snd
  attachments := attachments
  isPinned := false
  clientMsgId := req.clientMsgId
  createdAt := env.transactionTime
  updatedAt := env.transactionTime
  editedAt := none
  deletedAt := none

def ContentType.value : ContentType -> String
  | text => "text"
  | json => "json"

def optionalNat : Option Nat -> Json
  | some n => Json.int n
  | none => Json.null

def publishedRecord (messageId : Uuid) (message : Message) : AuditRecord where
  eventType := "message.published"
  payload := Json.obj
    [("message_id", idJson messageId),
      ("channel_id", idJson message.channelId),
      ("seq_id", Json.int message.seqId),
      ("content_type", Json.str message.contentType.value),
      ("attachment_count", Json.int (message.attachments.getD []).length),
      ("reply_to_message_id", optionalId message.replyToMessageId),
      ("reply_to_seq_id", optionalNat message.replyToSeqId)]
  channelId := some message.channelId
  actorUserId := some message.senderUserId

/-- The rest of `publish_message` once the request is known to be new. -/
def publishNew (env : MessageEnv) (channelId senderId : Uuid) (channel : Channel)
    (req : PublishMessageRequest) : MessageScript MessageResult := do
  let attachments ← normalizeAttachments senderId req.attachments
  let target ← resolveReplyTarget channelId req.replyToMessageId req.replyToSeqId
  let seqId := channel.lastSeqId + 1
  -- A failed encryption logs an event in this transaction and raises, so the event
  -- is rolled back with the sequence number.
  let encrypted ← Script.lift (encryptPayload env req.contentText req.contentJson)
  let messageId := env.fresh 0
  let message := newMessage env channelId senderId req seqId target attachments encrypted
  let outbox ← announceMessage env messageId message MessagePayload.message
  pure (MessageResult.published messageId message outbox
    (publishedRecord messageId message))

def publishPermitted (env : MessageEnv) (channelId senderId : Uuid) (channel : Channel)
    (req : PublishMessageRequest) : MessageScript MessageResult := do
  let existing ← existingMessage channelId senderId req.clientMsgId
  match existing with
  | some found => pure (MessageResult.existing found.1)
  | none => publishNew env channelId senderId channel req

/-- Members may reply even where only admins publish. -/
def mayPublish (membership : Option ChannelMembership) (req : PublishMessageRequest) :
    Bool :=
  let role := membership.map ChannelMembership.role
  canPublish role (membership.bind ChannelMembership.adminPermissions) ||
    (decide (role = some MembershipRole.member) &&
      (req.replyToMessageId.isSome || req.replyToSeqId.isSome))

def publishMessage (env : MessageEnv) (channelId senderId : Uuid)
    (req : PublishMessageRequest) : MessageScript MessageResult := do
  let db ← Script.lock (RowLock.channel channelId) LockMode.exclusive
  let channel ← Script.lift (liveChannel db channelId)
  let db ← Script.read
  if mayPublish (db.getMembership channelId senderId) req then
    publishPermitted env channelId senderId channel req
  else
    pure (MessageResult.forbidden
      (securityRecord "security.unauthorized_publish" channelId senderId))

/-- The second transaction of `publish_message`, after its commit was refused. -/
def publishConflict (channelId senderId : Uuid) :
    Option Uuid -> MessageScript MessageResult
  | none => Script.fail (appError "message conflict" 409 "CONFLICT")
  | some clientMsgId => do
      let db ← Script.read
      let existing ← Script.lift (messageByClientId db channelId senderId clientMsgId)
      let found ← Script.lift
        (orFail existing (appError "message conflict" 409 "CONFLICT"))
      pure (MessageResult.existing found.1)

/-!
# Editing and deleting
-/

/-- `_assert_can_read` with the channel locked; a refusal carries its event. -/
def assertCanRead (channelId userId : Uuid) :
    MessageScript (Except AuditRecord MembershipRole) := do
  let db ← Script.lock (RowLock.channel channelId) LockMode.share
  let _ ← Script.lift (liveChannel db channelId)
  let db ← Script.read
  match db.role channelId userId with
  | some role =>
      if canRead (some role) then pure (Except.ok role)
      else pure (Except.error
        (securityRecord "security.unauthorized_read" channelId userId))
  | none => pure (Except.error
      (securityRecord "security.unauthorized_read" channelId userId))

def maySteer (message : Message) (actorUserId : Uuid) (role : MembershipRole) : Bool :=
  message.senderUserId == actorUserId || role == MembershipRole.owner ||
    role == MembershipRole.admin

def lockMessage (channelId messageId : Uuid) (deletedToo : Bool) : MessageScript Message := do
  let db ← Script.lock (RowLock.message messageId) LockMode.exclusive
  let message ← Script.lift (orFail (db.messages.get messageId)
    (appError "message not found" 404 "MESSAGE_NOT_FOUND"))
  Script.lift (require (message.channelId == channelId &&
      (deletedToo || message.deletedAt.isNone))
    (appError "message not found" 404 "MESSAGE_NOT_FOUND"))
  pure message

def Message.edit (message : Message) (contentType : ContentType)
    (contentText : Option String) (contentJson : Option Json)
    (editedAt updatedAt : Instant) : Message :=
  { message with
    contentType := contentType
    contentText := contentText
    contentJson := contentJson
    editedAt := some editedAt
    updatedAt := updatedAt }

def Message.tombstone (message : Message) (deletedAt : Instant) : Message :=
  { message with
    deletedAt := some deletedAt
    updatedAt := deletedAt
    contentText := none
    contentJson := none }

def editPermitted (env : MessageEnv) (channelId actorUserId messageId : Uuid)
    (req : MessagePatchRequest) (role : MembershipRole) : MessageScript MessageResult := do
  let message ← lockMessage channelId messageId false
  Script.lift (require (maySteer message actorUserId role)
    (appError "forbidden" 403 "FORBIDDEN"))
  let encrypted ← Script.lift (encryptPayload env req.contentText req.contentJson)
  let contentType :=
    if req.contentText.isSome then ContentType.text else ContentType.json
  let edited := message.edit contentType encrypted.1 encrypted.2 (env.clock 0) (env.clock 1)
  let outbox ← announceMessage env messageId edited MessagePayload.messageUpdated
  pure (MessageResult.edited messageId contentType encrypted.1 encrypted.2 (env.clock 0)
    (env.clock 1) outbox)

def editMessage (env : MessageEnv) (channelId actorUserId messageId : Uuid)
    (req : MessagePatchRequest) : MessageScript MessageResult := do
  let access ← assertCanRead channelId actorUserId
  match access with
  | Except.error record => pure (MessageResult.forbidden record)
  | Except.ok role => editPermitted env channelId actorUserId messageId req role

def deletePermitted (env : MessageEnv) (channelId actorUserId messageId : Uuid)
    (role : MembershipRole) : MessageScript MessageResult := do
  let message ← lockMessage channelId messageId true
  Script.lift (require (maySteer message actorUserId role)
    (appError "forbidden" 403 "FORBIDDEN"))
  if message.deletedAt.isSome then pure (MessageResult.unchanged messageId)
  else do
    let outbox ← announceMessage env messageId (message.tombstone (env.clock 0))
      MessagePayload.messageUpdated
    pure (MessageResult.deleted messageId (env.clock 0) outbox)

def deleteMessage (env : MessageEnv) (channelId actorUserId messageId : Uuid) :
    MessageScript MessageResult := do
  let access ← assertCanRead channelId actorUserId
  match access with
  | Except.error record => pure (MessageResult.forbidden record)
  | Except.ok role => deletePermitted env channelId actorUserId messageId role

/-!
# Commits
-/

/-- The primary key and the foreign keys of the new rows. -/
def insertable (db : Database) (messageId : Uuid) (message : Message) : Bool :=
  (db.messages.get messageId).isNone && (db.channels.get message.channelId).isSome &&
    (db.users.get message.senderUserId).isSome &&
    (message.attachments.getD []).all (fun a => (db.uploads.get a.fileId).isSome)

def insertMessage (db : Database) (messageId : Uuid) (message : Message) : Database :=
  { db with
    channels := db.channels.update message.channelId
      (fun channel => { channel with lastSeqId := message.seqId })
    messages := db.messages.set messageId (some message)
    messageAttachments := (message.attachments.getD []).foldl
      (fun rows a => rows.set (messageId, a.fileId) (some message.channelId))
      db.messageAttachments }

def Database.changeMessage (db : Database) (messageId : Uuid)
    (change : Message -> Message) : Database :=
  { db with messages := db.messages.update messageId change }

def MessageResult.commit : MessageResult -> Database -> Option Database
  | existing _, db => some db
  | unchanged _, db => some db
  | forbidden record, db => some (db.logEvent record)
  | published messageId message outbox record, db =>
      if insertable db messageId message then
        some (((insertMessage db messageId message).enqueue outbox).logEvent record)
      else none
  | edited messageId contentType contentText contentJson editedAt updatedAt outbox, db =>
      some ((db.changeMessage messageId (fun message =>
        message.edit contentType contentText contentJson editedAt updatedAt)).enqueue outbox)
  | deleted messageId deletedAt outbox, db =>
      some ((db.changeMessage messageId (fun message =>
        message.tombstone deletedAt)).enqueue outbox)

/-!
# The workload

Requests run concurrently with each other and with everything the channel service,
the account service and the upload service commit.
-/

inductive MessageRequest where
  | publish (env : MessageEnv) (channelId senderId : Uuid) (req : PublishMessageRequest)
  | publishConflict (channelId senderId : Uuid) (clientMsgId : Option Uuid)
  | edit (env : MessageEnv) (channelId actorUserId messageId : Uuid)
      (req : MessagePatchRequest)
  | delete (env : MessageEnv) (channelId actorUserId messageId : Uuid)

def MessageRequest.script : MessageRequest -> MessageScript MessageResult
  | publish env channelId senderId req => publishMessage env channelId senderId req
  | publishConflict channelId senderId clientMsgId =>
      MessagingSystem.publishConflict channelId senderId clientMsgId
  | edit env channelId actorUserId messageId req =>
      editMessage env channelId actorUserId messageId req
  | delete env channelId actorUserId messageId =>
      deleteMessage env channelId actorUserId messageId

inductive OutsideAction where
  | channel (action : ChannelAction)
  | setUpload (fileId : Uuid) (upload : Option Upload)

def OutsideAction.run : OutsideAction -> Database -> Option Database
  | channel action, db => (action.run db).toOption
  | setUpload fileId upload, db => some { db with uploads := db.uploads.set fileId upload }

def messageWorkload :
    Workload Database MessageRequest OutsideAction RowLock Failure MessageResult where
  start db := db = Database.empty
  script := MessageRequest.script
  commit := MessageResult.commit
  outside := OutsideAction.run

end MessagingSystem
