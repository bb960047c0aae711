import MessagingSystem.Channels.System

/-!
# The socket manager

Events travel from the outbox over the broker and a pub/sub channel to the sockets of
a user, late, twice or out of order.  The manager decides for every event whether the
socket may have it: from a cached membership generation when that is recent enough,
and from the database otherwise.
-/

namespace MessagingSystem

open Foundation

/-!
# Events
-/

/-- The fields of an event dictionary that delivery looks at. -/
structure RealtimeEvent where
  type : String
  channelId : Option Uuid
  userId : Option Uuid
  newRole : Option MembershipRole
  membershipGeneration : Option Nat
  content : Option MessageSnapshot

def MessagePayload.channelId : MessagePayload -> Uuid
  | message snapshot => snapshot.channelId
  | messageUpdated snapshot => snapshot.channelId
  | reactionUpdated channelId _ _ => channelId

def MessagePayload.snapshot : MessagePayload -> Option MessageSnapshot
  | message snapshot => some snapshot
  | messageUpdated snapshot => some snapshot
  | reactionUpdated _ _ _ => none

/-- An event about a channel as such. -/
def channelEvent (type : String) (channelId : Uuid) (membershipGeneration : Nat) :
    RealtimeEvent where
  type := type
  channelId := some channelId
  userId := none
  newRole := none
  membershipGeneration := some membershipGeneration
  content := none

def OutboxPayload.event : OutboxPayload -> RealtimeEvent
  | message payload generation =>
      { channelEvent payload.type payload.channelId generation with
        content := payload.snapshot }
  | brokerBinding _ userId channelId =>
      { channelEvent "broker_binding" channelId 0 with
        userId := some userId
        membershipGeneration := none }
  | membershipUpdate channelId userId newRole _ generation =>
      { channelEvent "membership_update" channelId generation with
        userId := some userId
        newRole := newRole }
  | channelDeleted channelId generation => channelEvent "channel_deleted" channelId generation
  | channelRestored channelId generation =>
      channelEvent "channel_restored" channelId generation
  | channelUpdated channelId _ _ _ _ _ _ generation =>
      channelEvent "channel_updated" channelId generation

def RealtimeEvent.carriesMessage (event : RealtimeEvent) : Bool :=
  event.type == "message" || event.type == "message_updated"

structure Decryption where
  decryptMessage : String -> Except Failure String
  decryptJsonPayload : Option Json -> Except Failure (Option Json)

def decryptContent (crypt : Decryption) (m : MessageSnapshot) :
    Except Failure MessageSnapshot :=
  if m.deletedAt.isSome then pure { m with contentText := none, contentJson := none }
  else
    match m.contentType with
    | ContentType.text => do
        let contentText ← m.contentText.mapM crypt.decryptMessage
        pure { m with contentText := contentText, contentJson := none }
    | ContentType.json => do
        let contentJson ← crypt.decryptJsonPayload m.contentJson
        pure { m with contentText := none, contentJson := contentJson }

def decryptEventPayload (crypt : Decryption) (event : RealtimeEvent) :
    Except Failure RealtimeEvent :=
  if event.carriesMessage then
    match event.content with
    | none => throw (appError "unsupported content type" 500 "DECRYPTION_FAILED")
    | some m => do
        let m ← decryptContent crypt m
        pure { event with content := some m }
  else pure event

/-!
# Reads

Each of the two statements reads membership, deletion and generation in one snapshot.
-/

def memberChannelStates (db : Database) (userId : Uuid) : List (Uuid × Nat) :=
  db.channels.rows.filterMap fun r =>
    if r.2.deletedAt.isNone && canRead (db.role r.1 userId) then
      some (r.1, r.2.membershipGeneration)
    else none

def currentGeneration (db : Database) (userId channelId : Uuid) : Option Nat :=
  match db.channels.get channelId with
  | some channel =>
      if channel.deletedAt.isNone && canRead (db.role channelId userId) then
        some channel.membershipGeneration
      else none
  | none => none

/-!
# Sockets

A handler that waits for the database holds on to the two dictionaries it has looked
up, while a subscription replaces them; `cache` numbers the dictionaries in use.
-/

/-- An authorization check that waits for the database. -/
structure Forwarding where
  row : Nat
  event : RealtimeEvent
  channelId : Uuid
  cache : Nat
  answer : Option (Option Nat)

/-- A subscription to the wanted channels, or to all of them on connect. -/
structure Command where
  wanted : Option (List Uuid)
  states : Option (List (Uuid × Nat))

structure Socket where
  userId : Uuid
  subscriptions : List Uuid
  generations : Table Uuid Nat
  checkedAt : Table Uuid Int
  cache : Nat
  forwarding : Option Forwarding
  command : Option Command

def Socket.opened (userId : Uuid) : Socket where
  userId := userId
  subscriptions := []
  generations := Table.empty
  checkedAt := Table.empty
  cache := 0
  forwarding := none
  command := some { wanted := none, states := none }

def Socket.setForwarding (socket : Socket) (forwarding : Option Forwarding) : Socket :=
  { socket with forwarding := forwarding }

def Socket.setCommand (socket : Socket) (command : Option Command) : Socket :=
  { socket with command := command }

def Socket.discard (socket : Socket) (channelId : Uuid) : Socket :=
  { socket with subscriptions := socket.subscriptions.filter (fun c => c != channelId) }

def Socket.forget (socket : Socket) (channelId : Uuid) : Socket :=
  { socket with
    generations := socket.generations.set channelId none
    checkedAt := socket.checkedAt.set channelId none }

def Socket.remember (socket : Socket) (channelId : Uuid) (generation : Nat) (now : Int) :
    Socket :=
  { socket with
    generations := socket.generations.set channelId (some generation)
    checkedAt := socket.checkedAt.set channelId (some now) }

def grantedStates (command : Option (List Uuid)) (states : List (Uuid × Nat)) :
    List (Uuid × Nat) :=
  match command with
  | none => states
  | some wanted => states.filter (fun r => wanted.contains r.1)

/-- The end of `connect` and of `_handle_subscribe`: new dictionaries are installed. -/
def Socket.grant (socket : Socket) (now : Int) (granted : List (Uuid × Nat)) : Socket :=
  { socket with
    subscriptions := granted.map Prod.fst
    generations := granted.foldl (fun t r => t.set r.1 (some r.2)) Table.empty
    checkedAt := granted.foldl (fun t r => t.set r.1 (some now)) Table.empty
    cache := socket.cache + 1
    command := none }

def Socket.unsubscribe (socket : Socket) (channelIds : List Uuid) : Socket :=
  channelIds.foldl (fun socket c => (socket.discard c).forget c) socket

/-!
# Forwarding
-/

def cacheAllows (ttl now : Int) (socket : Socket) (channelId : Uuid)
    (event : RealtimeEvent) : Bool :=
  match event.membershipGeneration, socket.generations.get channelId with
  | some eventGeneration, some cachedGeneration =>
      eventGeneration ≤ cachedGeneration &&
        now - (socket.checkedAt.get channelId).getD 0 ≤ ttl
  | _, _ => false

inductive Verdict where
  | drop
  | send
  | ask (channelId : Uuid)

def isTargetedMembershipUpdate (socket : Socket) (event : RealtimeEvent) : Bool :=
  event.type == "membership_update" && event.userId == some socket.userId

/-- `_forward_event` up to the first wait. -/
def forwardEvent (ttl now : Int) (socket : Socket) (event : RealtimeEvent) :
    Socket × Verdict :=
  match event.channelId with
  | none => if event.carriesMessage then (socket, Verdict.drop) else (socket, Verdict.send)
  | some channelId =>
      if isTargetedMembershipUpdate socket event then
        if canRead event.newRole then (socket, Verdict.send)
        else ((socket.discard channelId).forget channelId, Verdict.send)
      else if channelId ∉ socket.subscriptions then (socket, Verdict.drop)
      else if cacheAllows ttl now socket channelId event then (socket, Verdict.send)
      else (socket, Verdict.ask channelId)

/-- The event is stamped with a later generation than the database has. -/
def isAhead (event : RealtimeEvent) (current : Nat) : Bool :=
  match event.membershipGeneration with
  | some eventGeneration => current < eventGeneration
  | none => false

/-- `_authorize_channel_delivery` after the wait. -/
def settleAuthorization (now : Int) (socket : Socket) (task : Forwarding) :
    Option Nat -> Socket × Bool
  | none =>
      let socket := socket.discard task.channelId
      (if task.cache = socket.cache then socket.forget task.channelId else socket, false)
  | some current =>
      if isAhead task.event current then (socket, false)
      else
        (if task.cache = socket.cache then socket.remember task.channelId current now
          else socket, true)

/-!
# The system
-/

/-- An event that was written to the socket of a user, and the outbox row it came from. -/
structure Sent where
  userId : Uuid
  row : Nat
  event : RealtimeEvent

structure RealtimeState where
  db : Database
  sockets : Table Nat Socket
  sent : List Sent

def RealtimeState.empty : RealtimeState where
  db := Database.empty
  sockets := Table.empty
  sent := []

inductive RealtimeLabel where
  | channel (action : ChannelAction)
  | announce (env : Env) (messageId : Uuid) (payload : MessagePayload)
  | connect (w : Nat) (userId : Uuid)
  | subscribe (w : Nat) (wanted : List Uuid)
  | readStates (w : Nat)
  | grant (w : Nat) (now : Int)
  | unsubscribe (w : Nat) (channelIds : List Uuid)
  | deliver (w row : Nat) (now : Int)
  | readGeneration (w : Nat)
  | settle (w : Nat) (now : Int)
  | disconnect (w : Nat)

def RealtimeState.setSocket (s : RealtimeState) (w : Nat) (socket : Option Socket) :
    RealtimeState :=
  { s with sockets := s.sockets.set w socket }

def RealtimeState.commit (s : RealtimeState) : Except Failure Database -> Option RealtimeState
  | Except.ok db' => some { s with db := db' }
  | Except.error _ => none

/-- The last lines of `_forward_event`. -/
def RealtimeState.send (s : RealtimeState) (crypt : Decryption) (userId : Uuid) (row : Nat)
    (event : RealtimeEvent) : RealtimeState :=
  match decryptEventPayload crypt event with
  | Except.ok event =>
      { s with sent := s.sent ++ [{ userId := userId, row := row, event := event }] }
  | Except.error _ => s

def RealtimeState.forward (s : RealtimeState) (crypt : Decryption) (ttl now : Int) (w row : Nat)
    (socket : Socket) (event : RealtimeEvent) : RealtimeState :=
  match forwardEvent ttl now socket event with
  | (socket, Verdict.drop) => s.setSocket w (some socket)
  | (socket, Verdict.send) => (s.setSocket w (some socket)).send crypt socket.userId row event
  | (socket, Verdict.ask channelId) =>
      s.setSocket w (some (socket.setForwarding (some
        { row := row, event := event, channelId := channelId, cache := socket.cache,
          answer := none })))

def RealtimeState.settle (s : RealtimeState) (crypt : Decryption) (now : Int) (w : Nat)
    (socket : Socket) (task : Forwarding) (answer : Option Nat) : RealtimeState :=
  match settleAuthorization now (socket.setForwarding none) task answer with
  | (socket, true) =>
      (s.setSocket w (some socket)).send crypt socket.userId task.row task.event
  | (socket, false) => s.setSocket w (some socket)

def RealtimeState.next (crypt : Decryption) (ttl : Int) (s : RealtimeState) :
    RealtimeLabel -> Option RealtimeState
  | RealtimeLabel.channel action => s.commit (action.run s.db)
  | RealtimeLabel.announce env messageId payload =>
      s.commit (s.db.enqueue <$>
        enqueueMessageOutbox env s.db messageId payload.channelId payload)
  | RealtimeLabel.connect w userId =>
      match s.sockets.get w with
      | none => some (s.setSocket w (some (Socket.opened userId)))
      | some _ => none
  | RealtimeLabel.subscribe w wanted =>
      match s.sockets.get w with
      | some socket =>
          if socket.command.isNone then
            some (s.setSocket w (some
              (socket.setCommand (some { wanted := some wanted, states := none }))))
          else none
      | none => none
  | RealtimeLabel.readStates w => do
      let socket ← s.sockets.get w
      let command ← socket.command
      if command.states.isNone then
        some (s.setSocket w (some (socket.setCommand (some { command with
          states := some (memberChannelStates s.db socket.userId) }))))
      else none
  | RealtimeLabel.grant w now => do
      let socket ← s.sockets.get w
      let command ← socket.command
      let states ← command.states
      some (s.setSocket w (some (socket.grant now (grantedStates command.wanted states))))
  | RealtimeLabel.unsubscribe w channelIds =>
      match s.sockets.get w with
      | some socket =>
          if socket.command.isNone then some (s.setSocket w (some (socket.unsubscribe channelIds)))
          else none
      | none => none
  | RealtimeLabel.deliver w row now => do
      let socket ← s.sockets.get w
      let rec ← s.db.outbox[row]?
      if socket.forwarding.isNone then
        some (s.forward crypt ttl now w row socket rec.payload.event)
      else none
  | RealtimeLabel.readGeneration w => do
      let socket ← s.sockets.get w
      let task ← socket.forwarding
      if task.answer.isNone then
        some (s.setSocket w (some (socket.setForwarding (some { task with
          answer := some (currentGeneration s.db socket.userId task.channelId) }))))
      else none
  | RealtimeLabel.settle w now => do
      let socket ← s.sockets.get w
      let task ← socket.forwarding
      let answer ← task.answer
      some (s.settle crypt now w socket task answer)
  | RealtimeLabel.disconnect w => some (s.setSocket w none)

def realtimeSystem (crypt : Decryption) (ttl : Int) : System RealtimeState RealtimeLabel where
  start s := s = RealtimeState.empty
  step s label s' := s.next crypt ttl label = some s'

end MessagingSystem
