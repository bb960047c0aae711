import MessagingSystem.Messages.Retries
import MessagingSystem.Messages.Sync
import MessagingSystem.Realtime.Delivery

/-!
# History over the socket

The commands `subscribe` and `resume` answer with stored messages.  The handler reads the
memberships of the user in one session and the messages in a later one, channel by channel,
while requests of other users are committed in between.
-/

namespace MessagingSystem

open Foundation

/-!
# The handlers
-/

structure HistorySettings where
  wsHistoryBatchLimit : Nat
  wsHistoryBudgetCapacity : Nat

inductive HistoryCommand where
  | subscribe (channelIds : List Uuid) (fromSeqId : Option Nat)
  | resume (channels : List SyncChannelCursor) (limit : Nat)

/-- The number of messages the command may ask for. -/
def HistoryCommand.rowLimit (settings : HistorySettings) : HistoryCommand -> Nat
  | subscribe _ _ => min settings.wsHistoryBatchLimit settings.wsHistoryBudgetCapacity
  | resume _ limit =>
      max 1 (min (if limit = 0 then 200 else limit)
        (min settings.wsHistoryBatchLimit settings.wsHistoryBudgetCapacity))

/-- The channels to read, each with the position after which its messages are wanted. -/
def HistoryCommand.cursors (allowed : List Uuid) : HistoryCommand -> List (Uuid × Option Nat)
  | subscribe channelIds fromSeqId =>
      (orderByAsc Uuid.str (channelIds.dedup.filter (fun c => allowed.contains c))).map
        (fun c => (c, fromSeqId))
  | resume channels _ =>
      (channels.filter (fun cursor => allowed.contains cursor.channelId)).map
        (fun cursor => (cursor.channelId, some (cursor.lastSeenSeqId.getD 0)))

/-- The statement that reads the messages of one channel. -/
def historyRows (db : Database) (channelId : Uuid) (fromSeqId : Option Nat) (limit : Nat) :
    List (Uuid × Message) :=
  (orderByAsc (fun r : Uuid × Message => r.2.seqId)
    ((undeletedMessages db channelId).filter
      (fun r => fromSeqId.all (fun seqId => decide (seqId < r.2.seqId))))).take limit

/-- What the handler holds once it knows the memberships. -/
structure HistoryReading where
  cursors : List (Uuid × Option Nat)
  rows : List (Uuid × Message)
  senders : Table Uuid (Option User)
  items : List MessageSnapshot
  remaining : Nat

structure HistoryTask where
  userId : Uuid
  command : HistoryCommand
  reading : Option HistoryReading

def HistoryReading.opened (settings : HistorySettings) (command : HistoryCommand)
    (allowed : List Uuid) : HistoryReading where
  cursors := command.cursors allowed
  rows := []
  senders := Table.empty
  items := []
  remaining := command.rowLimit settings

def senderProfile (sender : Option User) : Option String × Option String × Option String :=
  match sender with
  | none => (none, none, none)
  | some sender => (some sender.username, sender.displayName, sender.avatarUrl)

/-- `_message_payload` with the sender it has found. -/
def historyPayload (crypt : Decryption) (row : Uuid × Message) (sender : Option User) :
    Except Failure MessageSnapshot :=
  decryptContent crypt (serializeMessageForOutbox row.1 row.2 (senderProfile sender))

/-- The sender comes from the cache of the command, or else from the database. -/
def HistoryReading.sender (reading : HistoryReading) (db : Database) (userId : Uuid) :
    Option User :=
  (reading.senders.get userId).getD (db.users.get userId)

/-- The next channel is read while there is room for more messages. -/
def HistoryReading.readMessages (reading : HistoryReading) (db : Database) :
    Option HistoryReading :=
  match reading.rows, reading.cursors with
  | [], (channelId, fromSeqId) :: cursors =>
      if 0 < reading.remaining then
        some { reading with
          cursors := cursors
          rows := historyRows db channelId fromSeqId reading.remaining }
      else none
  | _, _ => none

/-- The next message is decrypted and its sender is looked up. -/
def HistoryReading.buildPayload (crypt : Decryption) (reading : HistoryReading)
    (db : Database) : Option (Except Failure HistoryReading) :=
  match reading.rows with
  | row :: rest =>
      let sender := reading.sender db row.2.senderUserId
      some ((historyPayload crypt row sender).map fun item =>
        { reading with
          rows := rest
          senders := reading.senders.set row.2.senderUserId (some sender)
          items := reading.items ++ [item]
          remaining := reading.remaining - 1 })
  | [] => none

def HistoryReading.finished (reading : HistoryReading) : Bool :=
  reading.rows.isEmpty && (reading.cursors.isEmpty || reading.remaining == 0)

/-!
# The system
-/

structure SyncFrame where
  userId : Uuid
  messages : List MessageSnapshot

structure HistoryState where
  store : Store Database MessageRequest
  tasks : Table Nat HistoryTask
  sent : List SyncFrame

def HistoryState.db (s : HistoryState) : Database :=
  s.store.committed

inductive HistoryLabel where
  | work (label : StoreLabel MessageRequest OutsideAction)
  | receive (w : Nat) (userId : Uuid) (command : HistoryCommand)
  | readStates (w : Nat)
  | readMessages (w : Nat)
  | buildPayload (w : Nat)
  | send (w : Nat)
  | abandon (w : Nat)

def HistoryState.setTask (s : HistoryState) (w : Nat) (task : Option HistoryTask) :
    HistoryState :=
  { s with tasks := s.tasks.set w task }

def HistoryState.setReading (s : HistoryState) (w : Nat) (task : HistoryTask)
    (reading : HistoryReading) : HistoryState :=
  s.setTask w (some { task with reading := some reading })

/-- A socket handles one command at a time; a command may be refused or fail at any wait. -/
def HistoryState.next (settings : HistorySettings) (crypt : Decryption) (s : HistoryState) :
    HistoryLabel -> Option HistoryState
  | HistoryLabel.work label =>
      (messageWorkload.next s.store label).map fun store => { s with store := store }
  | HistoryLabel.receive w userId command =>
      match s.tasks.get w with
      | none => some (s.setTask w (some ⟨userId, command, none⟩))
      | some _ => none
  | HistoryLabel.readStates w => do
      let task ← s.tasks.get w
      if task.reading.isNone then
        some (s.setReading w task (HistoryReading.opened settings task.command
          ((memberChannelStates s.db task.userId).map Prod.fst)))
      else none
  | HistoryLabel.readMessages w => do
      let task ← s.tasks.get w
      let reading ← task.reading
      let reading ← reading.readMessages s.db
      some (s.setReading w task reading)
  | HistoryLabel.buildPayload w => do
      let task ← s.tasks.get w
      let reading ← task.reading
      let outcome ← reading.buildPayload crypt s.db
      match outcome with
      | Except.ok reading => some (s.setReading w task reading)
      | Except.error _ => some (s.setTask w none)
  | HistoryLabel.send w => do
      let task ← s.tasks.get w
      let reading ← task.reading
      if reading.finished then
        some { s.setTask w none with sent := s.sent ++ [⟨task.userId, reading.items⟩] }
      else none
  | HistoryLabel.abandon w => some (s.setTask w none)

def historySystem (settings : HistorySettings) (crypt : Decryption) :
    System HistoryState HistoryLabel where
  start s := messageWorkload.system.start s.store ∧ s.tasks = Table.empty ∧ s.sent = []
  step s label s' := s.next settings crypt label = some s'

/-!
# What a step does
-/

inductive HistoryStep (settings : HistorySettings) (crypt : Decryption) (s : HistoryState) :
    HistoryLabel -> HistoryState -> Prop where
  | work {label : StoreLabel MessageRequest OutsideAction} {store : Store Database MessageRequest}
      (hnext : messageWorkload.next s.store label = some store) :
      HistoryStep settings crypt s (HistoryLabel.work label) { s with store := store }
  | receive {w : Nat} (userId : Uuid) (command : HistoryCommand) :
      HistoryStep settings crypt s (HistoryLabel.receive w userId command)
        (s.setTask w (some ⟨userId, command, none⟩))
  | readStates {w : Nat} {task : HistoryTask} (htask : s.tasks.get w = some task) :
      HistoryStep settings crypt s (HistoryLabel.readStates w)
        (s.setReading w task (HistoryReading.opened settings task.command
          ((memberChannelStates s.db task.userId).map Prod.fst)))
  | readMessages {w : Nat} {task : HistoryTask} {reading reading' : HistoryReading}
      (htask : s.tasks.get w = some task) (hreading : task.reading = some reading)
      (hread : reading.readMessages s.db = some reading') :
      HistoryStep settings crypt s (HistoryLabel.readMessages w) (s.setReading w task reading')
  | buildPayload {w : Nat} {task : HistoryTask} {reading reading' : HistoryReading}
      (htask : s.tasks.get w = some task) (hreading : task.reading = some reading)
      (hbuild : reading.buildPayload crypt s.db = some (Except.ok reading')) :
      HistoryStep settings crypt s (HistoryLabel.buildPayload w) (s.setReading w task reading')
  | send {w : Nat} {task : HistoryTask} {reading : HistoryReading}
      (htask : s.tasks.get w = some task) (hreading : task.reading = some reading) :
      HistoryStep settings crypt s (HistoryLabel.send w)
        { s.setTask w none with sent := s.sent ++ [⟨task.userId, reading.items⟩] }
  | drop {label : HistoryLabel} (w : Nat) : HistoryStep settings crypt s label (s.setTask w none)

theorem historyStep_of_next {settings : HistorySettings} {crypt : Decryption}
    {s s' : HistoryState} {label : HistoryLabel}
    (h : s.next settings crypt label = some s') : HistoryStep settings crypt s label s' := by
  cases label with
  | work label =>
      rcases Option.map_eq_some_iff.mp h with ⟨store, hnext, heq⟩
      rw [← heq]
      exact HistoryStep.work hnext
  | receive w userId command =>
      simp only [HistoryState.next] at h
      split at h
      · cases h
        exact HistoryStep.receive userId command
      · cases h
  | readStates w =>
      simp only [HistoryState.next, Option.bind_eq_bind, Option.bind_eq_some_iff] at h
      rcases h with ⟨task, htask, h⟩
      split at h
      · cases h
        exact HistoryStep.readStates htask
      · cases h
  | readMessages w =>
      simp only [HistoryState.next, Option.bind_eq_bind, Option.bind_eq_some_iff] at h
      rcases h with ⟨task, htask, reading, hreading, reading', hread, h⟩
      cases h
      exact HistoryStep.readMessages htask hreading hread
  | buildPayload w =>
      simp only [HistoryState.next, Option.bind_eq_bind, Option.bind_eq_some_iff] at h
      rcases h with ⟨task, htask, reading, hreading, outcome, hbuild, h⟩
      cases outcome with
      | ok reading' =>
          cases h
          exact HistoryStep.buildPayload htask hreading hbuild
      | error failure =>
          cases h
          exact HistoryStep.drop w
  | send w =>
      simp only [HistoryState.next, Option.bind_eq_bind, Option.bind_eq_some_iff] at h
      rcases h with ⟨task, htask, reading, hreading, h⟩
      split at h
      · cases h
        exact HistoryStep.send htask hreading
      · cases h
  | abandon w =>
      cases h
      exact HistoryStep.drop w

/-!
# Where messages come from
-/

variable {db : Database}

/-- The message is stored in the channel. -/
def Database.HasMessage (db : Database) (id c : Uuid) : Prop :=
  exists m, db.messages.get id = some m ∧ m.channelId = c

theorem hasMessage_iff_entry {id c : Uuid} :
    db.HasMessage id c ↔ exists entry, db.messageLog.entries id = some entry ∧
      entry.channelId = c := by
  constructor
  · intro h
    rcases h with ⟨m, hget, hchannel⟩
    exact ⟨m.entry, messageLog_entries.mpr ⟨m, hget, rfl⟩, hchannel⟩
  · intro h
    rcases h with ⟨entry, hentry, hchannel⟩
    rcases messageLog_entries.mp hentry with ⟨m, hget, heq⟩
    rw [← heq] at hchannel
    exact ⟨m, hget, hchannel⟩

theorem hasMessage_congr {db' : Database} (h : db'.messageLog = db.messageLog) (id c : Uuid) :
    db'.HasMessage id c ↔ db.HasMessage id c := by
  rw [hasMessage_iff_entry, hasMessage_iff_entry, h]

/-- The commit of a publication changes nothing about access. -/
theorem published_canReceive {db' : Database} {id : Uuid} {message : Message} {outbox : Outbox}
    {record : AuditRecord}
    (h : (MessageResult.published id message outbox record).commit db = some db') (c u : Uuid) :
    db'.CanReceive c u ↔ db.CanReceive c u := by
  rcases Option.ite_none_right_eq_some.mp h with ⟨_, h⟩
  cases h
  have hlive : (((insertMessage db id message).enqueue outbox).logEvent record).Live c ↔
      db.Live c := by
    show (exists channel, (db.channels.update message.channelId _).get c = some channel ∧ _) ↔
      exists channel, db.channels.get c = some channel ∧ _
    rw [Table.get_update]
    split
    case isTrue heq =>
      rw [heq]
      cases db.channels.get message.channelId with
      | none | some => simp
    case isFalse => rfl
  exact and_congr hlive Iff.rfl

/-- A message that a step adds is published by the commit of a request to its channel. -/
theorem hasMessage_of_next {store store' : Store Database MessageRequest}
    {label : StoreLabel MessageRequest OutsideAction}
    (h : messageWorkload.next store label = some store') {id c : Uuid}
    (hmessage : store'.committed.HasMessage id c) :
    store.committed.HasMessage id c ∨
      exists t session env u req, label = StoreLabel.commit t ∧
        store.sessions.get t = some session ∧
        session.request = MessageRequest.publish env c u req ∧
        forall v, store'.committed.CanReceive c v ↔ store.committed.CanReceive c v := by
  rcases Workload.committed_cases h with ⟨t, session, r, hlabel, hget, hreturns, hcommit⟩ |
    ⟨action, _, hrun⟩ | hsame
  · rcases MessageRequest.effect hreturns with hbody |
      ⟨env, c', u, req, _, _, channel, hrequest, _, _, heffect⟩
    · exact Or.inl ((hasMessage_congr (hbody.messageLog hcommit) id c).mp hmessage)
    · cases heffect with
      | forbidden record =>
          exact Or.inl ((hasMessage_congr
            ((BodyEffect.forbidden record).messageLog hcommit) id c).mp hmessage)
      | existing hseen hclient hfound hkey =>
          rw [← Option.some.inj hcommit] at hmessage
          exact Or.inl hmessage
      | published hnew =>
          have hlog := (published_messageLog hnew.outboxType hnew.outboxAggregate hcommit).2
          rcases hasMessage_iff_entry.mp hmessage with ⟨entry, hentry, hchannel⟩
          rw [hlog] at hentry
          rcases MessageLog.append_entries hentry with ⟨_, heq⟩ | ⟨_, hold⟩
          · have hc : c' = c := by
              rw [← hchannel, heq]
              exact hnew.channelId.symm
            rw [hc] at hrequest
            exact Or.inr ⟨t, session, env, u, req, hlabel, hget, hrequest,
              fun v => published_canReceive hcommit c v⟩
          · exact Or.inl (hasMessage_iff_entry.mpr ⟨entry, hold, hchannel⟩)
  · left
    rcases hasMessage_iff_entry.mp hmessage with ⟨entry, hentry, hchannel⟩
    refine hasMessage_iff_entry.mpr ⟨entry, ?_, hchannel⟩
    rcases OutsideAction.messageLog hrun with heq | ⟨c', _, heq⟩
    · rw [← heq]
      exact hentry
    · rw [heq] at hentry
      exact hentry
  · rw [hsame] at hmessage
    exact Or.inl hmessage

/-!
# Authorization
-/

section

variable {settings : HistorySettings} {crypt : Decryption}

/--
At some moment up to step `n` the message was stored in the channel, and the user could receive
the channel.
-/
def AuthorizedBy (e : System.Execution (historySystem settings crypt)) (n : Nat)
    (userId id channelId : Uuid) : Prop :=
  exists t, t ≤ n ∧ (e.stateAt t).db.HasMessage id channelId ∧
    (e.stateAt t).db.CanReceive channelId userId

def HistoryAuthorized (e : System.Execution (historySystem settings crypt)) (n : Nat) : Prop :=
  forall frame, frame ∈ (e.stateAt n).sent -> forall item, item ∈ frame.messages ->
    AuthorizedBy e n frame.userId item.id item.channelId

/--
When a message is published to a channel, every command that still has to read the channel
belongs to a user who can receive it.
-/
def HistoryState.GrantsHold (s : HistoryState) : HistoryLabel -> Prop
  | HistoryLabel.work (StoreLabel.commit t) =>
      forall session env c u req, s.store.sessions.get t = some session ->
        session.request = MessageRequest.publish env c u req ->
        forall w task reading, s.tasks.get w = some task -> task.reading = some reading ->
          c ∈ reading.cursors.map Prod.fst -> s.db.CanReceive c task.userId
  | _ => True

variable {e : System.Execution (historySystem settings crypt)} {n : Nat} {userId c : Uuid}
  {db : Database} {reading : HistoryReading}

theorem AuthorizedBy.later {id : Uuid} (h : AuthorizedBy e n userId id c) :
    AuthorizedBy e (n + 1) userId id c := by
  rcases h with ⟨t, ht, hrest⟩
  exact ⟨t, Nat.le_succ_of_le ht, hrest⟩

/-- What a handler holds, and what it will still read, is authorized. -/
structure ReadingOk (e : System.Execution (historySystem settings crypt)) (n : Nat)
    (db : Database) (userId : Uuid) (reading : HistoryReading) : Prop where
  cursors : forall c, c ∈ reading.cursors.map Prod.fst -> forall id, db.HasMessage id c ->
    AuthorizedBy e n userId id c
  rows : forall row, row ∈ reading.rows -> AuthorizedBy e n userId row.1 row.2.channelId
  items : forall item, item ∈ reading.items ->
    AuthorizedBy e n userId item.id item.channelId

theorem ReadingOk.later (h : ReadingOk e n db userId reading) :
    ReadingOk e (n + 1) db userId reading where
  cursors c hc id hid := (h.cursors c hc id hid).later
  rows row hrow := (h.rows row hrow).later
  items item hitem := (h.items item hitem).later

theorem mem_cursors {command : HistoryCommand} {allowed : List Uuid}
    (h : c ∈ (command.cursors allowed).map Prod.fst) : c ∈ allowed := by
  rcases List.mem_map.mp h with ⟨cursor, hcursor, heq⟩
  cases command with
  | subscribe channelIds fromSeqId =>
      rcases List.mem_map.mp hcursor with ⟨c', hc', hpair⟩
      have hmem := (orderByAsc_perm _ _).mem_iff.mp hc'
      have hallowed := (List.mem_filter.mp hmem).2
      rw [← heq, ← hpair]
      exact List.contains_iff_mem.mp hallowed
  | resume channels limit =>
      rcases List.mem_map.mp hcursor with ⟨wanted, hwanted, hpair⟩
      have hallowed := (List.mem_filter.mp hwanted).2
      rw [← heq, ← hpair]
      exact List.contains_iff_mem.mp hallowed

/-- After the memberships are read, everything stored in the channels is authorized now. -/
theorem readingOk_opened (command : HistoryCommand) (hdb : (e.stateAt n).db = db) :
    ReadingOk e n db userId (HistoryReading.opened settings command
      ((memberChannelStates db userId).map Prod.fst)) where
  cursors c hc id hid := by
    rcases List.mem_map.mp (mem_cursors hc) with ⟨state, hstate, heq⟩
    refine ⟨n, Nat.le_refl n, ?_, ?_⟩
    · rw [hdb]
      exact hid
    · rw [hdb, ← heq]
      exact (memberChannelStates_spec hstate).1
  rows row hrow := absurd hrow List.not_mem_nil
  items item hitem := absurd hitem List.not_mem_nil

theorem mem_historyRows {fromSeqId : Option Nat} {limit : Nat} {row : Uuid × Message}
    (h : row ∈ historyRows db c fromSeqId limit) :
    db.messages.get row.1 = some row.2 ∧ row.2.channelId = c := by
  have hmem := (orderByAsc_perm _ _).mem_iff.mp (List.mem_of_mem_take h)
  rcases List.mem_filter.mp (List.mem_filter.mp hmem).1 with ⟨hrow, hcond⟩
  rw [Bool.and_eq_true, beq_iff_eq] at hcond
  exact ⟨Table.mem_rows.mp hrow, hcond.1⟩

theorem ReadingOk.readMessages {reading' : HistoryReading} (h : ReadingOk e n db userId reading)
    (hread : reading.readMessages db = some reading') : ReadingOk e n db userId reading' := by
  unfold HistoryReading.readMessages at hread
  split at hread
  case h_2 => cases hread
  case h_1 c fromSeqId cursors hrows hcursors =>
    split at hread
    case isFalse => cases hread
    case isTrue =>
      cases hread
      have hmem : forall c', c' ∈ (cursors.map Prod.fst) ->
          c' ∈ reading.cursors.map Prod.fst := by
        intro c' hc'
        rw [hcursors]
        exact List.mem_cons_of_mem c hc'
      refine ⟨fun c' hc' => h.cursors c' (hmem c' hc'), ?_, h.items⟩
      intro row hrow
      rcases mem_historyRows hrow with ⟨hget, hchannel⟩
      refine h.cursors row.2.channelId ?_ row.1 ⟨row.2, hget, rfl⟩
      rw [hchannel, hcursors]
      exact List.mem_cons_self

theorem decryptContent_names {m item : MessageSnapshot}
    (h : decryptContent crypt m = Except.ok item) :
    item.id = m.id ∧ item.channelId = m.channelId := by
  unfold decryptContent at h
  split at h
  · cases h
    exact ⟨rfl, rfl⟩
  · split at h
    · rcases bind_eq_ok.mp h with ⟨text, _, hpure⟩
      cases hpure
      exact ⟨rfl, rfl⟩
    · rcases bind_eq_ok.mp h with ⟨json, _, hpure⟩
      cases hpure
      exact ⟨rfl, rfl⟩

theorem ReadingOk.buildPayload {db' : Database} {reading' : HistoryReading}
    (h : ReadingOk e n db userId reading)
    (hbuild : reading.buildPayload crypt db' = some (Except.ok reading')) :
    ReadingOk e n db userId reading' := by
  unfold HistoryReading.buildPayload at hbuild
  split at hbuild
  case h_2 => cases hbuild
  case h_1 row rest hrows =>
    have hmap := Option.some.inj hbuild
    cases hpayload : historyPayload crypt row (reading.sender db' row.2.senderUserId) with
    | error failure =>
        rw [hpayload] at hmap
        cases hmap
    | ok item =>
        rw [hpayload] at hmap
        cases hmap
        rcases decryptContent_names hpayload with ⟨hid, hchannel⟩
        refine ⟨h.cursors, fun row' hrow' => h.rows row' ?_, ?_⟩
        · rw [hrows]
          exact List.mem_cons_of_mem row hrow'
        · intro item' hitem'
          rcases List.mem_append.mp hitem' with hold | hnew
          · exact h.items item' hold
          · rw [List.mem_singleton.mp hnew, hid, hchannel]
            exact h.rows row (hrows ▸ List.mem_cons_self)

/-- The invariant: what is sent and what the handlers hold is authorized. -/
structure SocketHistoryOk (e : System.Execution (historySystem settings crypt)) (n : Nat) :
    Prop where
  sent : HistoryAuthorized e n
  tasks : forall w task reading, (e.stateAt n).tasks.get w = some task ->
    task.reading = some reading -> ReadingOk e n (e.stateAt n).db task.userId reading

theorem HistoryAuthorized.later (h : HistoryAuthorized e n)
    (hsent : (e.stateAt (n + 1)).sent = (e.stateAt n).sent) : HistoryAuthorized e (n + 1) := by
  intro frame hframe item hitem
  rw [hsent] at hframe
  exact (h frame hframe item hitem).later

/-- One task changes and the database stays. -/
theorem SocketHistoryOk.setTask (h : SocketHistoryOk e n) {w : Nat} {new : Option HistoryTask}
    (hdb : (e.stateAt (n + 1)).db = (e.stateAt n).db)
    (htasks : (e.stateAt (n + 1)).tasks = (e.stateAt n).tasks.set w new)
    (hsent : HistoryAuthorized e (n + 1))
    (hnew : forall task reading, new = some task -> task.reading = some reading ->
      ReadingOk e (n + 1) (e.stateAt n).db task.userId reading) : SocketHistoryOk e (n + 1) := by
  refine ⟨hsent, ?_⟩
  intro w' task reading htask hreading
  rw [htasks, Table.get_set] at htask
  rw [hdb]
  split at htask
  · exact hnew task reading htask hreading
  · exact (h.tasks w' task reading htask hreading).later

theorem SocketHistoryOk.changeTask (h : SocketHistoryOk e n) {w : Nat} {new : Option HistoryTask}
    (hstate : e.stateAt (n + 1) = (e.stateAt n).setTask w new)
    (hnew : forall task reading, new = some task -> task.reading = some reading ->
      ReadingOk e n (e.stateAt n).db task.userId reading) : SocketHistoryOk e (n + 1) := by
  have hdb : (e.stateAt (n + 1)).db = (e.stateAt n).db := by
    rw [hstate]
    rfl
  have htasks : (e.stateAt (n + 1)).tasks = (e.stateAt n).tasks.set w new := by
    rw [hstate]
    rfl
  have hsent : (e.stateAt (n + 1)).sent = (e.stateAt n).sent := by
    rw [hstate]
    rfl
  exact h.setTask hdb htasks (h.sent.later hsent)
    (fun task reading htask hreading => (hnew task reading htask hreading).later)

/-- The database changes and the tasks stay. -/
theorem SocketHistoryOk.work (h : SocketHistoryOk e n)
    {label : StoreLabel MessageRequest OutsideAction}
    (hnext : messageWorkload.next (e.stateAt n).store label = some (e.stateAt (n + 1)).store)
    (htasks : (e.stateAt (n + 1)).tasks = (e.stateAt n).tasks)
    (hsent : (e.stateAt (n + 1)).sent = (e.stateAt n).sent)
    (hgrants : (e.stateAt n).GrantsHold (HistoryLabel.work label)) : SocketHistoryOk e (n + 1) := by
  refine ⟨h.sent.later hsent, ?_⟩
  intro w task reading htask hreading
  rw [htasks] at htask
  have hok := h.tasks w task reading htask hreading
  refine ⟨?_, fun row hrow => (hok.rows row hrow).later, fun item hitem =>
    (hok.items item hitem).later⟩
  intro c hc id hid
  rcases hasMessage_of_next hnext hid with hold |
    ⟨t, session, env, u, req, hlabel, hsession, hrequest, haccess⟩
  · exact (hok.cursors c hc id hold).later
  · -- A new message: the user can receive the channel at its publication.
    rw [hlabel] at hgrants
    have hnow := hgrants session env c u req hsession hrequest w task reading htask hreading hc
    exact ⟨n + 1, Nat.le_refl _, hid, (haccess task.userId).mpr hnow⟩

theorem SocketHistoryOk.step (h : SocketHistoryOk e n) (hn : n < e.length)
    (hgrants : (e.stateAt n).GrantsHold (e.labelAt n)) : SocketHistoryOk e (n + 1) := by
  have hstep := historyStep_of_next (e.step n hn)
  generalize hlabel : e.labelAt n = label at hstep hgrants
  generalize hstate : e.stateAt (n + 1) = s' at hstep
  cases hstep with
  | work hnext =>
      refine h.work ?_ ?_ ?_ hgrants
      · rw [hstate]
        exact hnext
      · rw [hstate]
      · rw [hstate]
  | receive userId command =>
      refine h.changeTask hstate ?_
      intro task reading htask hreading
      cases htask
      cases hreading
  | readStates htask =>
      refine h.changeTask hstate ?_
      intro task' reading' htask' hreading'
      cases htask'
      cases hreading'
      exact readingOk_opened _ rfl
  | readMessages htask hreading hread =>
      refine h.changeTask hstate ?_
      intro task' reading' htask' hreading'
      cases htask'
      cases hreading'
      exact (h.tasks _ _ _ htask hreading).readMessages hread
  | buildPayload htask hreading hbuild =>
      refine h.changeTask hstate ?_
      intro task' reading' htask' hreading'
      cases htask'
      cases hreading'
      exact (h.tasks _ _ _ htask hreading).buildPayload hbuild
  | @send w task reading htask hreading =>
      have hok := h.tasks w task reading htask hreading
      have hdb : (e.stateAt (n + 1)).db = (e.stateAt n).db := by
        rw [hstate]
        rfl
      have htasks : (e.stateAt (n + 1)).tasks = (e.stateAt n).tasks.set w none := by
        rw [hstate]
        rfl
      refine h.setTask hdb htasks ?_ ?_
      · intro frame hframe item hitem
        rw [hstate] at hframe
        rcases List.mem_append.mp hframe with hold | hnew
        · exact (h.sent frame hold item hitem).later
        · rw [List.mem_singleton.mp hnew] at hitem ⊢
          exact (hok.items item hitem).later
      · intro task' reading' htask' hreading'
        cases htask'
  | drop w =>
      refine h.changeTask hstate ?_
      intro task' reading' htask' hreading'
      cases htask'

/--
In a run in which no message is published to a channel while the command of a user who has lost
the channel still has to read it, every message of a sync frame was stored at a moment at which
the user could receive its channel.
-/
theorem history_authorized_of_grants (settings : HistorySettings) (crypt : Decryption)
    (e : System.Execution (historySystem settings crypt))
    (hgrants : forall i, i < e.length -> (e.stateAt i).GrantsHold (e.labelAt i)) {n : Nat}
    (hn : n ≤ e.length) : HistoryAuthorized e n := by
  have hok : SocketHistoryOk e n := by
    refine e.induct (I := fun i => SocketHistoryOk e i) ?_
      (fun i hi hok _ => hok.step hi (hgrants i hi)) hn
    rcases e.start with ⟨_, htasks, hsent⟩
    refine ⟨?_, ?_⟩
    · intro frame hframe
      rw [hsent] at hframe
      exact absurd hframe List.not_mem_nil
    · intro w task reading htask
      rw [htasks] at htask
      cases htask
  exact hok.sent

/-!
Bob has asked for the history of a channel.  In the first run Alice writes before the memberships
are read; in the second one Bob is removed after that, and then Alice writes.
-/

def historySettings : HistorySettings where
  wsHistoryBatchLimit := 100
  wsHistoryBudgetCapacity := 300

def outsideCall (seed : Nat) (call : Call) : HistoryLabel :=
  HistoryLabel.work (StoreLabel.outside (OutsideAction.channel
    (ChannelAction.call (sampleEnv seed) call)))

def putAccount (userId : Uuid) (username : String) : HistoryLabel :=
  HistoryLabel.work (StoreLabel.outside (OutsideAction.channel
    (ChannelAction.putUser userId (sampleUser username))))

def bobJoined : List HistoryLabel :=
  [putAccount 1 "alice", putAccount 2 "bob",
    outsideCall 100 (Call.createChannel 1 (sampleChannelRequest "General")),
    outsideCall 200 (Call.joinChannel 100 2 none)]

def aliceWrites : List HistoryLabel :=
  [HistoryLabel.work (StoreLabel.begin 0
      (MessageRequest.publish (sampleMessageEnv 400) 100 1 greeting))] ++
    List.replicate 5 (HistoryLabel.work (StoreLabel.statement 0)) ++
    [HistoryLabel.work (StoreLabel.commit 0)]

def bobAsks : List HistoryLabel :=
  [HistoryLabel.receive 0 2 (HistoryCommand.subscribe [100] (some 0)),
    HistoryLabel.readStates 0]

def bobIsAnswered : List HistoryLabel :=
  [HistoryLabel.readMessages 0, HistoryLabel.buildPayload 0, HistoryLabel.send 0]

def historyStart : HistoryState where
  store := ⟨Database.empty, Table.empty⟩
  tasks := Table.empty
  sent := []

def historyRun (labels : List HistoryLabel)
    (h : (labels.foldlM (HistoryState.next historySettings plainContents)
      historyStart).isSome = true) :
    System.Execution (historySystem historySettings plainContents) :=
  System.Execution.ofRun (fun _ _ _ hnext => hnext)
    (show (historySystem historySettings plainContents).start historyStart from
      ⟨⟨rfl, rfl⟩, rfl, rfl⟩)
    (Option.some_get h).symm (HistoryLabel.abandon 0)

def sentIds (s : HistoryState) : List (Uuid × List (Uuid × Uuid)) :=
  s.sent.map (fun frame => (frame.userId, frame.messages.map (fun m => (m.id, m.channelId))))

theorem exists_sent {s : HistoryState} {u id : Uuid} (h : sentIds s = [(u, [(id, c)])]) :
    exists frame item, frame ∈ s.sent ∧ item ∈ frame.messages ∧ frame.userId = u ∧
      item.id = id ∧ item.channelId = c := by
  rcases List.map_eq_cons_iff.mp h with ⟨frame, rest, hsent, hframe, _⟩
  injection hframe with huser hmessages
  rcases List.map_eq_cons_iff.mp hmessages with ⟨item, rest', hitems, hitem, _⟩
  injection hitem with hid hc
  refine ⟨frame, item, ?_, ?_, huser, hid, hc⟩
  · rw [hsent]
    exact List.mem_cons_self
  · rw [hitems]
    exact List.mem_cons_self

def HistoryLabel.isCommit : HistoryLabel -> Bool
  | work (StoreLabel.commit _) => true
  | _ => false

theorem grantsHold_of_idle {s : HistoryState} {label : HistoryLabel}
    (h : s.tasks.rows.isEmpty = true ∨ label.isCommit = false) : s.GrantsHold label := by
  rcases h with hempty | hlabel
  · have hnone : forall w task, s.tasks.get w = some task -> False := by
      intro w task htask
      have hmem := Table.mem_rows.mpr htask
      rw [List.isEmpty_iff.mp hempty] at hmem
      exact List.not_mem_nil hmem
    unfold HistoryState.GrantsHold
    split
    · intro session env c u req _ _ w task reading htask
      exact (hnone w task htask).elim
    · trivial
  · unfold HistoryState.GrantsHold
    split
    · cases hlabel
    · trivial

theorem earlyMessage_run :
    ((bobJoined ++ aliceWrites ++ bobAsks ++ bobIsAnswered).foldlM
      (HistoryState.next historySettings plainContents) historyStart).isSome = true := by
  decide +kernel

theorem earlyMessage_authorized :
    exists e : System.Execution (historySystem historySettings plainContents),
      exists frame item, frame ∈ (e.stateAt e.length).sent ∧ item ∈ frame.messages ∧
        AuthorizedBy e e.length frame.userId item.id item.channelId := by
  have hsent : sentIds ((historyRun _ earlyMessage_run).stateAt 16) = [(2, [(400, 100)])] := by
    decide +kernel
  have hgrants : forall i, i < 16 ->
      ((historyRun _ earlyMessage_run).stateAt i).GrantsHold
        ((historyRun _ earlyMessage_run).labelAt i) := by
    have hidle : forall i, i < 16 ->
        ((historyRun _ earlyMessage_run).stateAt i).tasks.rows.isEmpty = true ∨
          ((historyRun _ earlyMessage_run).labelAt i).isCommit = false := by
      decide +kernel
    exact fun i hi => grantsHold_of_idle (hidle i hi)
  rcases exists_sent hsent with ⟨frame, item, hframe, hitem, _, _, _⟩
  exact ⟨historyRun _ earlyMessage_run, frame, item, hframe, hitem,
    history_authorized_of_grants historySettings plainContents _ hgrants (Nat.le_refl _)
      frame hframe item hitem⟩

theorem lateMessage_run :
    ((bobJoined ++ bobAsks ++ [outsideCall 300 (Call.removeMember 100 1 2)] ++ aliceWrites ++
      bobIsAnswered).foldlM
        (HistoryState.next historySettings plainContents) historyStart).isSome = true := by
  decide +kernel

theorem lateMessage_not_authorized :
    exists e : System.Execution (historySystem historySettings plainContents),
      ¬ HistoryAuthorized e e.length := by
  refine ⟨historyRun _ lateMessage_run, ?_⟩
  intro hauthorized
  have hsent : sentIds ((historyRun _ lateMessage_run).stateAt 17) = [(2, [(400, 100)])] := by
    decide +kernel
  rcases exists_sent hsent with ⟨frame, item, hframe, hitem, huser, hid, hc⟩
  rcases hauthorized frame hframe item hitem with ⟨t, ht, ⟨m, hm, _⟩, _, hread⟩
  rw [hid] at hm
  rw [hc, huser] at hread
  have hnever : forall t, t ≤ 17 ->
      (((historyRun _ lateMessage_run).stateAt t).db.messages.get 400).isNone = true ∨
        canRead (((historyRun _ lateMessage_run).stateAt t).db.role 100 2) = false := by
    decide +kernel
  rcases hnever t ht with hnone | hlost
  · rw [hm] at hnone
    cases hnone
  · have hread' : canRead (((historyRun _ lateMessage_run).stateAt t).db.role 100 2) = true :=
      hread
    rw [hlost] at hread'
    cases hread'

end

end MessagingSystem
