import MessagingSystem.Messages.Refinement

/-!
# The feed of a message

Publishing, editing, deleting, pinning and unpinning all end with an outbox row that
carries the message as it is then stored.  The message row is locked from the time it
is read, so that in every committed state the last of these rows carries the current
message.
-/

namespace MessagingSystem

open Foundation
open Script

variable {env : MessageEnv}
variable {result : MessageResult}

/-!
# Pins

The flag on the message; the rows that say who pinned it are not looked at by anything
here.  `updated_at` is set by the database when the flag changes.
-/

def Message.pin (message : Message) (isPinned : Bool) (now : Instant) : Message :=
  if message.isPinned = isPinned then message
  else
    { message with
      isPinned := isPinned
      updatedAt := now }

inductive FeedResult where
  | message (result : MessageResult)
  | pinned (messageId : Uuid) (isPinned : Bool) (now : Instant) (outbox : Outbox)
  | nothing

def FeedResult.commit : FeedResult -> Database -> Option Database
  | message result, db => result.commit db
  | pinned messageId isPinned now outbox, db =>
      some ((db.changeMessage messageId (fun message =>
        message.pin isPinned now)).enqueue outbox)
  | nothing, db => some db

def announcePin (env : MessageEnv) (messageId : Uuid) (message : Message) (isPinned : Bool) :
    MessageScript FeedResult := do
  let outbox ← announceMessage env messageId (message.pin isPinned env.transactionTime)
    MessagePayload.messageUpdated
  pure (FeedResult.pinned messageId isPinned env.transactionTime outbox)

def pinPermitted (env : MessageEnv) (channelId messageId : Uuid) :
    MessageScript FeedResult := do
  let message ← lockMessage channelId messageId true
  announcePin env messageId message true

/-- A message that is not there, or in another channel, is passed over. -/
def unpinPermitted (env : MessageEnv) (channelId messageId : Uuid) :
    MessageScript FeedResult := do
  let db ← Script.lock (RowLock.message messageId) LockMode.exclusive
  match db.messages.get messageId with
  | some message =>
      if message.channelId = channelId then announcePin env messageId message false
      else pure FeedResult.nothing
  | none => pure FeedResult.nothing

/-- The common start of `pin_message` and `unpin_message`. -/
def asAdmin (channelId actorUserId : Uuid) (permitted : MessageScript FeedResult) :
    MessageScript FeedResult := do
  let access ← assertCanRead channelId actorUserId
  match access with
  | Except.error record => pure (FeedResult.message (MessageResult.forbidden record))
  | Except.ok role => do
      Script.lift (require (role == MembershipRole.owner || role == MembershipRole.admin)
        (appError "forbidden" 403 "FORBIDDEN"))
      permitted

def pinMessage (env : MessageEnv) (channelId messageId actorUserId : Uuid) :
    MessageScript FeedResult :=
  asAdmin channelId actorUserId (pinPermitted env channelId messageId)

def unpinMessage (env : MessageEnv) (channelId messageId actorUserId : Uuid) :
    MessageScript FeedResult :=
  asAdmin channelId actorUserId (unpinPermitted env channelId messageId)

/-!
# The workload
-/

inductive FeedRequest where
  | message (request : MessageRequest)
  | pin (env : MessageEnv) (channelId messageId actorUserId : Uuid)
  | unpin (env : MessageEnv) (channelId messageId actorUserId : Uuid)

def FeedRequest.script : FeedRequest -> MessageScript FeedResult
  | message request => do
      let result ← request.script
      pure (FeedResult.message result)
  | pin env channelId messageId actorUserId => pinMessage env channelId messageId actorUserId
  | unpin env channelId messageId actorUserId =>
      unpinMessage env channelId messageId actorUserId

def feedWorkload :
    Workload Database FeedRequest OutsideAction RowLock Failure FeedResult where
  start db := db = Database.empty
  script := FeedRequest.script
  commit := FeedResult.commit
  outside := OutsideAction.run

/-!
# What a payload carries
-/

variable {outbox : Outbox}

/-- The message of a `message` or `message_updated` payload. -/
def OutboxPayload.snapshot : OutboxPayload -> Option MessageSnapshot
  | message (MessagePayload.message snapshot) _ => some snapshot
  | message (MessagePayload.messageUpdated snapshot) _ => some snapshot
  | _ => none

def OutboxPayload.messageId (payload : OutboxPayload) : Option Uuid :=
  payload.snapshot.map (fun snapshot => snapshot.id)

def OutboxPayload.isAbout (payload : OutboxPayload) (messageId : Uuid) : Bool :=
  payload.messageId == some messageId

/-- The payload of a deleted message leaves its attachments out. -/
structure MessageSnapshot.Carries (snapshot : MessageSnapshot) (message : Message) : Prop where
  contentType : snapshot.contentType = message.contentType
  contentText : snapshot.contentText = message.contentText
  contentJson : snapshot.contentJson = message.contentJson
  attachments : message.deletedAt = none -> snapshot.attachments = message.attachments
  isPinned : snapshot.isPinned = message.isPinned
  editedAt : snapshot.editedAt = message.editedAt
  deletedAt : snapshot.deletedAt = message.deletedAt

def Outbox.Carries (outbox : Outbox) (messageId : Uuid) (message : Message) : Prop :=
  exists snapshot, outbox.payload.snapshot = some snapshot ∧ snapshot.id = messageId ∧
    snapshot.Carries message

/-- A tombstone has no body. -/
def Message.BodyRemoved (message : Message) : Prop :=
  message.deletedAt.isSome = true -> message.contentText = none ∧ message.contentJson = none

/-- A row as `enqueue_message_outbox` adds it. -/
structure Outbox.IsFeedRow (outbox : Outbox) : Prop where
  aggregateType : outbox.aggregateType = "message"
  status : outbox.status = OutboxStatus.pending

theorem serialize_carries {messageId : Uuid} {message : Message} (h : message.BodyRemoved)
    (profile : Option String × Option String × Option String) :
    (serializeMessageForOutbox messageId message profile).Carries message := by
  cases hdeleted : message.deletedAt with
  | none =>
      constructor
      all_goals simp [serializeMessageForOutbox, hdeleted]
  | some deletedAt =>
      rcases h (by rw [hdeleted]; rfl) with ⟨htext, hjson⟩
      constructor
      all_goals simp [serializeMessageForOutbox, hdeleted, htext, hjson]

theorem Outbox.Carries.isAbout {messageId : Uuid} {message : Message}
    (h : outbox.Carries messageId message) : outbox.payload.isAbout messageId = true := by
  rcases h with ⟨snapshot, hsnapshot, hid, _⟩
  unfold OutboxPayload.isAbout OutboxPayload.messageId
  rw [hsnapshot, ← hid]
  exact beq_self_eq_true (some snapshot.id)

/-!
# What a request does to the feed
-/

abbrev MessageTrace := List (Option (RowLock × LockMode) × Database)

variable {trace : MessageTrace} {id c a u : Uuid} {db : Database}

inductive FeedEffect (trace : MessageTrace) : FeedResult -> Prop where
  | quiet {result : FeedResult}
      (hcommit : forall db db', result.commit db = some db' ->
        db'.messages = db.messages ∧ db'.outbox = db.outbox) :
      FeedEffect trace result
  | published {id : Uuid} {message : Message} {outbox : Outbox} {record : AuditRecord}
      (hrow : outbox.IsFeedRow) (hcarries : outbox.Carries id message)
      (hbody : message.BodyRemoved) :
      FeedEffect trace (FeedResult.message (MessageResult.published id message outbox record))
  | changed {result : FeedResult} {id : Uuid} {seen : Database} {message : Message}
      (change : Message -> Message) {outbox : Outbox}
      (hlock : (some (RowLock.message id, LockMode.exclusive), seen) ∈ trace)
      (hget : seen.messages.get id = some message) (hrow : outbox.IsFeedRow)
      (hcarries : message.BodyRemoved ->
        outbox.Carries id (change message) ∧ (change message).BodyRemoved)
      (hcommit : forall db,
        result.commit db = some ((db.changeMessage id change).enqueue outbox)) :
      FeedEffect trace result

theorem announceMessage_row {message : Message} {payload : MessageSnapshot -> MessagePayload}
    (hpayload : forall snapshot generation,
      (OutboxPayload.message (payload snapshot) generation).snapshot = some snapshot)
    (h : Ends (announceMessage env id message payload) trace outbox) :
    outbox.IsFeedRow ∧ (message.BodyRemoved -> outbox.Carries id message) := by
  rcases ends_read_bind.mp h with ⟨db, rest, _, h⟩
  rcases ends_lock_bind.mp h with ⟨db', rest', _, h⟩
  rcases ends_lift.mp h with ⟨_, h⟩
  rcases bind_eq_ok.mp h with ⟨state, _, h⟩
  rw [← pure_eq_ok.mp h]
  refine ⟨⟨rfl, rfl⟩, ?_⟩
  intro hbody
  exact ⟨_, hpayload _ _, rfl, serialize_carries hbody _⟩

theorem lockMessage_ends {deletedToo : Bool} {message : Message}
    (h : Ends (lockMessage c id deletedToo) trace message) :
    exists db, trace = [(some (RowLock.message id, LockMode.exclusive), db)] ∧
      db.messages.get id = some message ∧
      (deletedToo = true ∨ message.deletedAt = none) := by
  rcases ends_lock_bind.mp h with ⟨db, rest, htrace, h⟩
  rcases ends_lift_bind.mp h with ⟨found, hfound, h⟩
  rcases ends_lift_bind.mp h with ⟨_, hcheck, h⟩
  rcases ends_pure.mp h with ⟨hnil, heq⟩
  subst hnil heq
  have hget := orFail_eq_ok.mp hfound
  have hlive := require_eq_ok.mp hcheck
  simp only [Bool.and_eq_true, Bool.or_eq_true, Option.isNone_iff_eq_none] at hlive
  exact ⟨db, htrace, hget, hlive.2⟩

theorem editPermitted_effect {req : MessagePatchRequest} {role : MembershipRole}
    (h : Ends (editPermitted env c a id req role) trace result) :
    FeedEffect trace (FeedResult.message result) := by
  rcases ends_bind.mp h with ⟨first, rest, message, htrace, hlock, h⟩
  rcases lockMessage_ends hlock with ⟨db, hfirst, hget, hdeleted⟩
  rcases ends_lift_bind.mp h with ⟨_, _, h⟩
  rcases ends_lift_bind.mp h with ⟨encrypted, _, h⟩
  rcases ends_bind.mp h with ⟨announce, last, outbox, _, hannounce, h⟩
  rcases ends_pure.mp h with ⟨_, heq⟩
  subst heq
  have hlive : message.deletedAt = none := by
    rcases hdeleted with hfalse | hlive
    · cases hfalse
    · exact hlive
  rcases announceMessage_row (fun _ _ => rfl) hannounce with ⟨hrow, hcarries⟩
  refine FeedEffect.changed (fun m => m.edit _ _ _ _ _) ?_ hget hrow ?_
    (fun _ => rfl)
  · rw [htrace, hfirst]
    exact List.mem_append_left _ List.mem_cons_self
  · intro _
    have hbody : (message.edit (if req.contentText.isSome then ContentType.text
        else ContentType.json) encrypted.1 encrypted.2 (env.clock 0)
          (env.clock 1)).BodyRemoved := by
      intro hsome
      change message.deletedAt.isSome = true at hsome
      rw [hlive] at hsome
      cases hsome
    exact ⟨hcarries hbody, hbody⟩

theorem deletePermitted_effect {role : MembershipRole}
    (h : Ends (deletePermitted env c a id role) trace result) :
    FeedEffect trace (FeedResult.message result) := by
  rcases ends_bind.mp h with ⟨first, rest, message, htrace, hlock, h⟩
  rcases lockMessage_ends hlock with ⟨db, hfirst, hget, _⟩
  rcases ends_lift_bind.mp h with ⟨_, _, h⟩
  split at h
  · rcases ends_pure.mp h with ⟨_, heq⟩
    subst heq
    apply FeedEffect.quiet
    intro d d' hcommit
    cases hcommit
    exact ⟨rfl, rfl⟩
  · rcases ends_bind.mp h with ⟨announce, last, outbox, _, hannounce, h⟩
    rcases ends_pure.mp h with ⟨_, heq⟩
    subst heq
    rcases announceMessage_row (fun _ _ => rfl) hannounce with ⟨hrow, hcarries⟩
    refine FeedEffect.changed (fun m => m.tombstone (env.clock 0)) ?_ hget hrow ?_
      (fun _ => rfl)
    · rw [htrace, hfirst]
      exact List.mem_append_left _ List.mem_cons_self
    · intro _
      have hbody : (message.tombstone (env.clock 0)).BodyRemoved := fun _ => ⟨rfl, rfl⟩
      exact ⟨hcarries hbody, hbody⟩

theorem pin_bodyRemoved {message : Message} (h : message.BodyRemoved) (isPinned : Bool)
    (now : Instant) : (message.pin isPinned now).BodyRemoved := by
  unfold Message.pin
  split
  · exact h
  · exact h

theorem announcePin_effect {message : Message} {isPinned : Bool} (before : MessageTrace)
    {result : FeedResult} (hlock : (some (RowLock.message id, LockMode.exclusive), db) ∈ before)
    (hget : db.messages.get id = some message)
    (h : Ends (announcePin env id message isPinned) trace result) :
    FeedEffect (before ++ trace) result := by
  rcases ends_bind.mp h with ⟨announce, last, outbox, _, hannounce, h⟩
  rcases ends_pure.mp h with ⟨_, heq⟩
  subst heq
  rcases announceMessage_row (fun _ _ => rfl) hannounce with ⟨hrow, hcarries⟩
  refine FeedEffect.changed (fun m => m.pin isPinned env.transactionTime)
    (List.mem_append_left trace hlock) hget hrow ?_ (fun _ => rfl)
  intro hbody
  have hpinned := pin_bodyRemoved hbody isPinned env.transactionTime
  exact ⟨hcarries hpinned, hpinned⟩

theorem pinPermitted_effect {result : FeedResult} (h : Ends (pinPermitted env c id) trace result) :
    FeedEffect trace result := by
  rcases ends_bind.mp h with ⟨first, rest, message, htrace, hlock, h⟩
  rcases lockMessage_ends hlock with ⟨db, hfirst, hget, _⟩
  rw [htrace]
  apply announcePin_effect _ _ hget h
  rw [hfirst]
  exact List.mem_cons_self

theorem nothing_effect (trace : MessageTrace) : FeedEffect trace FeedResult.nothing := by
  apply FeedEffect.quiet
  intro db db' hcommit
  cases hcommit
  exact ⟨rfl, rfl⟩

theorem unpinPermitted_effect {result : FeedResult}
    (h : Ends (unpinPermitted env c id) trace result) : FeedEffect trace result := by
  rcases ends_lock_bind.mp h with ⟨db, rest, htrace, h⟩
  split at h
  · rename_i message hget
    split at h
    · rw [htrace]
      exact announcePin_effect [_] List.mem_cons_self hget h
    · exact h.of_pure (nothing_effect trace)
  · exact h.of_pure (nothing_effect trace)

theorem forbidden_effect (trace : MessageTrace) (record : AuditRecord) :
    FeedEffect trace (FeedResult.message (MessageResult.forbidden record)) := by
  apply FeedEffect.quiet
  intro db db' hcommit
  cases hcommit
  exact ⟨rfl, rfl⟩

theorem existing_effect (trace : MessageTrace) (id : Uuid) :
    FeedEffect trace (FeedResult.message (MessageResult.existing id)) := by
  apply FeedEffect.quiet
  intro db db' hcommit
  cases hcommit
  exact ⟨rfl, rfl⟩

/-- What is checked before the lock does not matter. -/
theorem FeedEffect.after (before : MessageTrace) {result : FeedResult}
    (h : FeedEffect trace result) : FeedEffect (before ++ trace) result := by
  cases h with
  | quiet hcommit => exact FeedEffect.quiet hcommit
  | published hrow hcarries hbody => exact FeedEffect.published hrow hcarries hbody
  | changed change hlock hget hrow hcarries hcommit =>
      exact FeedEffect.changed change (List.mem_append_right before hlock) hget hrow hcarries
        hcommit

theorem publishNew_effect {channel : Channel} {req : PublishMessageRequest}
    (h : Ends (publishNew env c u channel req) trace result) :
    FeedEffect trace (FeedResult.message result) := by
  rcases ends_bind.mp h with ⟨_, _, attachments, _, _, h⟩
  rcases ends_bind.mp h with ⟨_, _, target, _, _, h⟩
  rcases ends_lift_bind.mp h with ⟨encrypted, _, h⟩
  rcases ends_bind.mp h with ⟨_, _, outbox, _, hannounce, h⟩
  rcases ends_pure.mp h with ⟨_, heq⟩
  subst heq
  rcases announceMessage_row (fun _ _ => rfl) hannounce with ⟨hrow, hcarries⟩
  have hbody : (newMessage env c u req (channel.lastSeqId + 1) target attachments
      encrypted).BodyRemoved := nofun
  exact FeedEffect.published hrow (hcarries hbody) hbody

theorem publishMessage_effect {req : PublishMessageRequest}
    (h : Ends (publishMessage env c u req) trace result) :
    FeedEffect trace (FeedResult.message result) := by
  rcases ends_lock_bind.mp h with ⟨_, rest, htrace, h⟩
  rcases ends_lift_bind.mp h with ⟨channel, _, h⟩
  rcases ends_read_bind.mp h with ⟨_, rest', hrest, h⟩
  rw [htrace, hrest]
  split at h
  · rcases ends_bind.mp h with ⟨first, last, found, hsplit, _, h⟩
    rw [hsplit]
    apply FeedEffect.after (_ :: _ :: first)
    cases found with
    | some row =>
        exact h.of_pure (existing_effect last row.1)
    | none => exact publishNew_effect h
  · exact h.of_pure (forbidden_effect _ _)

theorem publishConflict_effect {clientMsgId : Option Uuid}
    (h : Ends (publishConflict c u clientMsgId) trace result) :
    FeedEffect trace (FeedResult.message result) := by
  cases clientMsgId with
  | none => exact absurd h ends_fail
  | some k =>
      rcases ends_read_bind.mp h with ⟨_, _, _, h⟩
      rcases ends_lift_bind.mp h with ⟨existing, _, h⟩
      rcases ends_lift_bind.mp h with ⟨found, _, h⟩
      exact h.of_pure (existing_effect trace found.1)

theorem MessageRequest.feedEffect {request : MessageRequest}
    (h : Ends request.script trace result) :
    FeedEffect trace (FeedResult.message result) := by
  cases request with
  | publish env c u req => exact publishMessage_effect h
  | publishConflict c u clientMsgId => exact publishConflict_effect h
  | edit env c a id req =>
      rcases ends_bind.mp h with ⟨first, rest, access, htrace, _, h⟩
      rw [htrace]
      apply FeedEffect.after
      cases access with
      | error record =>
          exact h.of_pure (forbidden_effect rest record)
      | ok role => exact editPermitted_effect h
  | delete env c a id =>
      rcases ends_bind.mp h with ⟨first, rest, access, htrace, _, h⟩
      rw [htrace]
      apply FeedEffect.after
      cases access with
      | error record =>
          exact h.of_pure (forbidden_effect rest record)
      | ok role => exact deletePermitted_effect h

theorem asAdmin_effect {permitted : MessageScript FeedResult} {result : FeedResult}
    (hpermitted : forall rest, Ends permitted rest result -> FeedEffect rest result)
    (h : Ends (asAdmin c a permitted) trace result) : FeedEffect trace result := by
  rcases ends_bind.mp h with ⟨first, rest, access, htrace, _, h⟩
  rw [htrace]
  apply FeedEffect.after
  cases access with
  | error record =>
      exact h.of_pure (forbidden_effect rest record)
  | ok role =>
      rcases ends_lift_bind.mp h with ⟨_, _, h⟩
      exact hpermitted rest h

theorem FeedRequest.effect {request : FeedRequest} {result : FeedResult}
    (h : Ends request.script trace result) : FeedEffect trace result := by
  cases request with
  | message request =>
      rcases ends_bind.mp h with ⟨first, rest, found, htrace, hrequest, h⟩
      rcases ends_pure.mp h with ⟨hnil, heq⟩
      rw [htrace, hnil, List.append_nil, ← heq]
      exact MessageRequest.feedEffect hrequest
  | pin env c id a => exact asAdmin_effect (fun _ => pinPermitted_effect) h
  | unpin env c id a => exact asAdmin_effect (fun _ => unpinPermitted_effect) h

/-!
# The last row of a message
-/

variable {db' : Database}

/-- The outbox rows that carry a message. -/
def Database.feedRows (db : Database) (id : Uuid) : List Outbox :=
  db.outbox.filter (fun row => row.payload.isAbout id)

structure FeedOk (db : Database) : Prop where
  current : forall id message, db.messages.get id = some message ->
    exists row, (db.feedRows id).getLast? = some row ∧ row.Carries id message
  bodies : forall id message, db.messages.get id = some message -> message.BodyRemoved
  rows : forall row, row ∈ db.outbox -> row.payload.snapshot.isSome = true -> row.IsFeedRow

/-- Changes that add no row about a message and leave the messages alone. -/
theorem FeedOk.quiet (h : FeedOk db) {added : List Outbox}
    (hmessages : db'.messages = db.messages) (houtbox : db'.outbox = db.outbox ++ added)
    (hadded : forall row, row ∈ added -> row.payload.snapshot = none) : FeedOk db' := by
  have hrows : forall id, db'.feedRows id = db.feedRows id := by
    intro id
    have hnone : added.filter (fun row => row.payload.isAbout id) = [] := by
      apply List.filter_eq_nil_iff.mpr
      intro row hrow
      unfold OutboxPayload.isAbout OutboxPayload.messageId
      rw [hadded row hrow]
      exact Bool.false_ne_true
    unfold Database.feedRows
    rw [houtbox, List.filter_append, hnone, List.append_nil]
  constructor
  · intro id message hget
    rw [hmessages] at hget
    rw [hrows id]
    exact h.current id message hget
  · intro id message hget
    rw [hmessages] at hget
    exact h.bodies id message hget
  · intro row hrow hsome
    rw [houtbox] at hrow
    rcases List.mem_append.mp hrow with hrow | hrow
    · exact h.rows row hrow hsome
    · rw [hadded row hrow] at hsome
      cases hsome

/-- One message is written together with the row that carries it. -/
theorem FeedOk.write (h : FeedOk db) {message : Message}
    (hmessages : db'.messages = db.messages.set id (some message))
    (houtbox : db'.outbox = db.outbox ++ [outbox]) (hrow : outbox.IsFeedRow)
    (hcarries : outbox.Carries id message) (hbody : message.BodyRemoved) : FeedOk db' := by
  constructor
  · intro i m hget
    unfold Database.feedRows
    rw [houtbox, List.filter_append]
    by_cases hi : i = id
    · subst hi
      rw [hmessages, Table.get_set_self] at hget
      cases hget
      rw [List.filter_singleton, hcarries.isAbout, cond_true, List.getLast?_concat]
      exact ⟨outbox, rfl, hcarries⟩
    · rw [hmessages, Table.get_set_ne _ hi] at hget
      rcases hcarries with ⟨snapshot, hsnapshot, hid, _⟩
      have hother : outbox.payload.isAbout i = false := by
        unfold OutboxPayload.isAbout OutboxPayload.messageId
        rw [hsnapshot]
        show (some snapshot.id == some i) = false
        rw [hid]
        exact beq_false_of_ne (fun heq => hi (Option.some.inj heq).symm)
      rw [List.filter_singleton, hother, cond_false, List.append_nil]
      exact h.current i m hget
  · rw [hmessages]
    apply Table.forall_get_set
    · exact h.bodies
    · intro m hnew
      cases hnew
      exact hbody
  · intro row hmem hsome
    rw [houtbox] at hmem
    rcases List.mem_append.mp hmem with hmem | hmem
    · exact h.rows row hmem hsome
    · rw [List.mem_singleton.mp hmem]
      exact hrow

theorem OutsideAction.feed {action : OutsideAction} (h : action.run db = some db') :
    db'.messages = db.messages ∧ exists added, db'.outbox = db.outbox ++ added ∧
      forall row, row ∈ added -> row.payload.snapshot = none := by
  have hsame : forall d : Database, d.messages = db.messages -> d.outbox = db.outbox ->
      d.messages = db.messages ∧ exists added, d.outbox = db.outbox ++ added ∧
        forall row, row ∈ added -> row.payload.snapshot = none := by
    intro d hmessages houtbox
    refine ⟨hmessages, [], ?_, ?_⟩
    · rw [houtbox, List.append_nil]
    · intro row hrow
      cases hrow
  cases action with
  | setUpload fileId upload =>
      cases h
      exact hsame _ rfl rfl
  | channel action =>
      cases action with
      | putUser userId user =>
          cases h
          exact hsame _ rfl rfl
      | call env request =>
          have hok : request.apply env db = Except.ok db' := toOption_eq_some.mp h
          rcases (Call.effect hok).exists_change with ⟨mid, pairs, hframe, _, htouched⟩
          rcases hframe.outbox_of_touched htouched with ⟨rows, houtbox, hrows⟩
          refine ⟨htouched.messages.trans hframe.messages, rows, houtbox, ?_⟩
          intro row hrow
          cases hpayload : row.payload with
          | message payload generation =>
              exact absurd hpayload (payload_ne_message (hrows row hrow) payload generation)
          | brokerBinding | membershipUpdate | channelDeleted | channelRestored
          | channelUpdated => rfl

/-!
# The invariant of committed states
-/

/-- What a message lock protects. -/
def keepsMessage (k : RowLock) (db db' : Database) : Prop :=
  match k with
  | RowLock.channel _ => True
  | RowLock.message id =>
      forall message, db.messages.get id = some message -> db'.messages.get id = some message

theorem keepsMessage_of_eq (h : db'.messages = db.messages) (k : RowLock) :
    keepsMessage k db db' := by
  cases k with
  | channel c => trivial
  | message id =>
      intro message hget
      rw [h]
      exact hget

theorem published_commit {message : Message} {record : AuditRecord}
    (h : (MessageResult.published id message outbox record).commit db = some db') :
    db.messages.get id = none ∧ db'.messages = db.messages.set id (some message) ∧
      db'.outbox = db.outbox ++ [outbox] := by
  rcases Option.ite_none_right_eq_some.mp h with ⟨hinsert, h⟩
  cases h
  simp only [insertable, Bool.and_eq_true] at hinsert
  exact ⟨Option.isNone_iff_eq_none.mp hinsert.1.1.1, rfl, rfl⟩

theorem feedGuarantee : feedWorkload.Guarantee keepsMessage := by
  constructor
  · intro k db
    exact keepsMessage_of_eq rfl k
  · intro k a b d h1 h2
    cases k with
    | channel c => trivial
    | message id =>
        intro message hget
        exact h2 message (h1 message hget)
  · intro k action db db' hrun
    exact keepsMessage_of_eq (OutsideAction.feed hrun).1 k
  · intro k request seen result db db' hreturns hcommit hlock
    rcases hreturns.exists_ends with ⟨trace, hends, hseen⟩
    cases FeedRequest.effect hends with
    | quiet hquiet => exact keepsMessage_of_eq (hquiet db db' hcommit).1 k
    | @published id message outbox record hrow hcarries hbody =>
        rcases published_commit hcommit with ⟨hfresh, hmessages, _⟩
        cases k with
        | channel c => trivial
        | message i =>
            intro m hget
            rw [hmessages]
            exact Table.get_set_of_free hfresh hget
    | @changed _ id d message change outbox hlocked hget hrow hcarries hdone =>
        cases k with
        | channel c => trivial
        | message i =>
            intro m hm
            have hne : i ≠ id := by
              intro heq
              apply hlock
              rw [← hseen, heq]
              exact hends.mem_acquired hlocked
            have hcommit' := (hdone db).symm.trans hcommit
            cases hcommit'
            show (db.messages.update id change).get i = some m
            rw [Table.get_update, if_neg hne]
            exact hm

theorem feedOk_of_reachable {store : Store Database FeedRequest}
    (h : feedWorkload.system.Reachable store) : FeedOk store.committed := by
  refine Workload.invariant (I := FeedOk) feedGuarantee ?_ ?_ ?_ h
  · intro db hstart
    cases hstart
    constructor
    · intro id message hget
      cases hget
    · intro id message hget
      cases hget
    · intro row hrow
      cases hrow
  · intro action db db' hok hrun
    rcases OutsideAction.feed hrun with ⟨hmessages, added, houtbox, hadded⟩
    exact hok.quiet hmessages houtbox hadded
  · intro s result db db' hok hstable hreturns hcommit
    rcases hreturns.exists_ends with ⟨trace, hends, hseen⟩
    cases FeedRequest.effect hends with
    | quiet hquiet =>
        rcases hquiet db db' hcommit with ⟨hmessages, houtbox⟩
        have hadded : db'.outbox = db.outbox ++ [] := by
          rw [houtbox, List.append_nil]
        apply hok.quiet hmessages hadded
        intro row hrow
        cases hrow
    | published hrow hcarries hbody =>
        rcases published_commit hcommit with ⟨_, hmessages, houtbox⟩
        exact hok.write hmessages houtbox hrow hcarries hbody
    | @changed _ id d message change outbox hlocked hget hrow hcarries hdone =>
        -- The row that was read under the lock is still the committed one.
        have hcurrent : db.messages.get id = some message :=
          hstable.keeps_of_ends hends hseen hlocked message hget
        have hcommit' := (hdone db).symm.trans hcommit
        cases hcommit'
        rcases hcarries (hok.bodies id message hcurrent) with ⟨hcarries, hbody⟩
        refine hok.write ?_ rfl hrow hcarries hbody
        show db.messages.set id ((db.messages.get id).map change) = _
        rw [hcurrent]
        rfl

end MessagingSystem
