import MessagingSystem.Channels.Models
import MessagingSystem.Foundation.Fallible

/-!
# The transactional outbox

Every change that other processes must learn about is written to the outbox in
the transaction that makes it.  Channel and user events carry the membership
generation of their channel; broker bindings carry the generation of the desired
state they announce.
-/

namespace MessagingSystem

open Foundation

/-!
# What a request takes from its surroundings

Each request runs against its own environment: configuration, successive clock
readings, fresh identifiers, the Unicode case tables of Python (`lowerText`) and
of the database (`sqlLowerBtrim`), and the verdict on avatar uploads.
-/

structure Settings where
  maxChannelsOwnedPerUser : Nat
  maxActiveInvitesPerUser : Nat
  outboxMaxAttempts : Nat
  isProductionLike : Bool
  emailVerificationEnabled : Bool

structure Env where
  settings : Settings
  clock : Nat -> Instant
  fresh : Nat -> Uuid
  inviteToken : String
  sha256Hex : String -> String
  lowerText : String -> String
  sqlLowerBtrim : String -> String
  validateAvatarUploadReference : Uuid -> String -> Except Failure Unit

/-!
# Channel and user events
-/

def getChannelDeliveryState (db : Database) (channelId : Uuid) :
    Except Failure (String × Nat) := do
  let channel ← orFail (db.channels.get channelId)
    (Failure.valueError ("channel not found for outbox routing: " ++ channelId.str))
  let slug ← normalizeChannelSlug channel.channelSlug
  pure (slug, channel.membershipGeneration)

def getUsername (db : Database) (userId : Uuid) : Except Failure String := do
  let user ← orFail (db.users.get userId)
    (Failure.valueError ("user not found for outbox routing: " ++ userId.str))
  normalizeUsername user.username

def channelRoutingKey (slug : String) : String :=
  "channel." ++ slug

def userRoutingKey (username : String) : String :=
  "user." ++ username

def outboxRow (env : Env) (aggregateType : String) (aggregateId channelId : Uuid)
    (payload : OutboxPayload) (type routingKey : String) : Outbox where
  aggregateType := aggregateType
  aggregateId := aggregateId
  channelId := channelId
  payload := payload
  type := type
  routingKey := routingKey
  status := OutboxStatus.pending
  attempts := 0
  maxAttempts := env.settings.outboxMaxAttempts

/-- The attempts after which `_handle_publish_failure` gives a row up. -/
def Outbox.attemptLimit (row : Outbox) (outboxMaxAttempts : Nat) : Nat :=
  max 1 (if row.maxAttempts = 0 then outboxMaxAttempts else row.maxAttempts)

/-- The row that `enqueue_message_outbox` adds; `db` is what its one read sees. -/
def enqueueMessageOutbox (env : Env) (db : Database) (messageId channelId : Uuid)
    (payload : MessagePayload) : Except Failure Outbox := do
  let state ← getChannelDeliveryState db channelId
  pure (outboxRow env "message" messageId channelId
    (OutboxPayload.message payload state.2) payload.type
    (channelRoutingKey state.1))

def enqueueChannelEventOutbox (env : Env) (db : Database)
    (aggregateId channelId : Uuid) (eventType : String)
    (payload : Nat -> OutboxPayload) : Except Failure Database := do
  let state ← getChannelDeliveryState db channelId
  pure (db.enqueue (outboxRow env eventType aggregateId channelId
    (payload state.2) eventType (channelRoutingKey state.1)))

def enqueueUserEventOutbox (env : Env) (db : Database)
    (aggregateId channelId userId : Uuid) (eventType : String)
    (payload : Nat -> OutboxPayload) : Except Failure Database := do
  let username ← getUsername db userId
  let state ← getChannelDeliveryState db channelId
  pure (db.enqueue (outboxRow env eventType aggregateId channelId
    (payload state.2) eventType (userRoutingKey username)))

/-!
# Broker bindings

The desired state is always derived from the current rows: the caller's action
is only checked to be one of the two known words.
-/

def desiredBound (db : Database) (channel : Channel) (channelId userId : Uuid) :
    Bool :=
  channel.deletedAt.isNone && canRead (db.role channelId userId)

/-- The routing keys a pair must still account for after its next change. -/
def knownRoutingKeys (state : BrokerBindingState) (routingKey : String) :
    List String :=
  let known := state.routingKeys.filter (fun key => key != "")
  let known :=
    if state.desiredRoutingKey ≠ "" ∧ state.desiredRoutingKey ∉ known then
      known ++ [state.desiredRoutingKey]
    else known
  if routingKey ∉ known then known ++ [routingKey] else known

def nextBindingState (state : Option BrokerBindingState) (bound : Bool)
    (routingKey : String) : BrokerBindingState :=
  match state with
  | none =>
      { generation := 1
        desiredBound := bound
        desiredRoutingKey := routingKey
        routingKeys := [routingKey]
        reconciledGeneration := 0 }
  | some state =>
      { generation := state.generation + 1
        desiredBound := bound
        desiredRoutingKey := routingKey
        routingKeys := knownRoutingKeys state routingKey
        reconciledGeneration := state.reconciledGeneration }

def bindingRow (env : Env) (channelId userId : Uuid) (state : BrokerBindingState) :
    Outbox :=
  outboxRow env "broker_binding" userId channelId
    (OutboxPayload.brokerBinding state.generation userId channelId)
    "broker_binding.reconcile" "broker.binding"

def enqueueBrokerBindingSnapshot (env : Env) (db : Database)
    (channelId userId : Uuid) (state : BrokerBindingState) : Database :=
  db.enqueue (bindingRow env channelId userId state)

def enqueueBrokerBindingOutbox (env : Env) (db : Database)
    (channelId userId : Uuid) (action : String) : Except Failure Database := do
  require (action == "bind" || action == "unbind")
    (Failure.valueError "broker binding action must be bind or unbind")
  let channel ← orFail (db.channels.get channelId)
    (Failure.valueError
      ("channel not found for broker binding state: " ++ channelId.str))
  let slug ← normalizeChannelSlug channel.channelSlug
  let state := nextBindingState (db.bindingStates.get (channelId, userId))
    (desiredBound db channel channelId userId) (channelRoutingKey slug)
  pure (enqueueBrokerBindingSnapshot env
    (db.setBindingState channelId userId state) channelId userId state)

def bumpChannelMembershipGeneration (db : Database) (channelId : Uuid) :
    Except Failure Database := do
  let channel ← orFail (db.channels.get channelId)
    (Failure.valueError
      ("channel not found for membership generation: " ++ channelId.str))
  pure (db.setChannel channelId
    { channel with membershipGeneration := channel.membershipGeneration + 1 })

def bindingAction (role : Option MembershipRole) : String :=
  if canRead role then "bind" else "unbind"

/-!
# Repair

Reconciliation gives a state to every pair that has a membership and no state,
and announces every other state again at its current generation.  The user's
queue is repaired whenever a socket connects; the operator command repairs all.
-/

def createBindingStates (env : Env) (db : Database) (pairs : List (Uuid × Uuid)) :
    Except Failure Database :=
  pairs.foldlM (fun db pair =>
    enqueueBrokerBindingOutbox env db pair.1 pair.2
      (bindingAction (db.role pair.1 pair.2))) db

def announceBindingStates (env : Env) (db : Database)
    (states : List ((Uuid × Uuid) × BrokerBindingState)) : Database :=
  states.foldl (fun db r =>
    enqueueBrokerBindingSnapshot env db r.1.1 r.1.2 r.2) db

def enqueueUserBrokerBindingReconciliation (env : Env) (db : Database)
    (userId : Uuid) : Except Failure (Database × Nat) := do
  let created := (db.memberships.keys.filter (fun pair =>
    pair.2 == userId && (db.bindingStates.get pair).isNone)).insertionSort
      (fun a b => a.1.str ≤ b.1.str)
  let db ← createBindingStates env db created
  let states := (db.bindingStates.rows.filter (fun r =>
    r.1.2 == userId && !created.contains r.1)).insertionSort
      (fun a b => a.1.1.toNat ≤ b.1.1.toNat)
  pure (announceBindingStates env db states, created.length + states.length)

def pairOrder (a b : Uuid × Uuid) : Bool :=
  decide (a.1.toNat < b.1.toNat) ||
    (a.1 == b.1 && decide (a.2.toNat ≤ b.2.toNat))

def enqueueAllBrokerBindingReconciliation (env : Env) (db : Database) :
    Except Failure (Database × Nat) := do
  let created := (db.memberships.keys.filter (fun pair =>
    (db.bindingStates.get pair).isNone)).insertionSort (fun a b => pairOrder a b)
  let db ← createBindingStates env db created
  let states := (db.bindingStates.rows.filter (fun r =>
    !created.contains r.1)).insertionSort (fun a b => pairOrder a.1 b.1)
  pure (announceBindingStates env db states, created.length + states.length)

end MessagingSystem
