import MessagingSystem.Channels.System

/-!
# The worker that projects bindings to the broker

The backend commits desired states and announces them through the outbox.  Workers
take announcements one at a time, lock the state, and repeat its whole projection on
the user's queue.  Broker operations take effect at once; the update of the state is
only committed after the last of them, and a crash in between rolls it back.
-/

namespace MessagingSystem

open Foundation

/-!
# Broker operations
-/

inductive BrokerOp where
  | unbind (routingKey : String)
  | bind (routingKey : String)

def BrokerOp.apply : BrokerOp -> List String -> List String
  | unbind routingKey, keys => keys.filter (fun key => key != routingKey)
  | bind routingKey, keys =>
      if routingKey ∈ keys then keys else keys ++ [routingKey]

/-!
# One announcement

`SELECT ... FOR UPDATE OF bs` joins four tables.  The statement reads all of them as
they were when it began; when it had to wait for the lock, the state row is read
again and the other rows are not.
-/

structure BindingRead where
  generation : Nat
  desiredRoutingKey : String
  routingKeys : List String
  channelSlug : String
  deletedAt : Option Instant
  username : String
  membershipRole : Option MembershipRole

def readBindingState (snapshot now : Database) (channelId userId : Uuid) :
    Option BindingRead := do
  let _ ← snapshot.bindingStates.get (channelId, userId)
  let state ← now.bindingStates.get (channelId, userId)
  let channel ← snapshot.channels.get channelId
  let user ← snapshot.users.get userId
  some
    { generation := state.generation
      desiredRoutingKey := state.desiredRoutingKey
      routingKeys := state.routingKeys
      channelSlug := channel.channelSlug
      deletedAt := channel.deletedAt
      username := user.username
      membershipRole := snapshot.role channelId userId }

/-- `routing_key.removeprefix("channel.")`, when the key starts with it. -/
def routingSlug (routingKey : String) : Option String :=
  if routingKey.toList.take 8 = "channel.".toList then
    some (String.ofList (routingKey.toList.drop 8))
  else none

/-- The loop that collects the routing keys to account for, without repetition. -/
def collectKeys : List String -> List String -> Except Failure (List String)
  | known, [] => pure known
  | known, value :: values => do
      let routingKey := strip value
      let slug ← orFail (routingSlug routingKey)
        (Failure.valueError "unsafe broker binding routing key")
      require (isSafeIdentifier slug)
        (Failure.valueError "unsafe broker binding routing key")
      collectKeys (if routingKey ∈ known then known else known ++ [routingKey]) values

structure BindingPlan where
  channelId : Uuid
  userId : Uuid
  username : String
  currentRoutingKey : String
  actualDesiredBound : Bool
  remaining : List BrokerOp

def brokerOps (bound : Bool) (current : String) (known : List String) : List BrokerOp :=
  if bound then
    (known.filter (fun key => key != current)).map BrokerOp.unbind ++ [BrokerOp.bind current]
  else known.map BrokerOp.unbind

def planBinding (channelId userId : Uuid) (state : BindingRead) :
    Except Failure BindingPlan := do
  let username := strip state.username
  let channelSlug := strip state.channelSlug
  require (isSafeIdentifier username && isSafeIdentifier channelSlug)
    (Failure.valueError "unsafe broker binding identifier")
  let current := channelRoutingKey channelSlug
  let known ← collectKeys [] (state.routingKeys ++ [state.desiredRoutingKey, current])
  let bound := state.deletedAt.isNone && canRead state.membershipRole
  pure
    { channelId := channelId
      userId := userId
      username := username
      currentRoutingKey := current
      actualDesiredBound := bound
      remaining := brokerOps bound current known }

/-!
# Outbox rows
-/

def Database.setRow (db : Database) (row : Nat) (change : Outbox -> Outbox) : Database :=
  { db with outbox := db.outbox.modify row change }

def Outbox.published (row : Outbox) : Outbox :=
  { row with status := OutboxStatus.published }

/-- `_handle_publish_failure` -/
def Outbox.failedOnce (outboxMaxAttempts : Nat) (row : Outbox) : Outbox :=
  { row with
    status :=
      if row.attemptLimit outboxMaxAttempts ≤ row.attempts + 1 then OutboxStatus.deadLettered
      else OutboxStatus.retryScheduled
    attempts := row.attempts + 1 }

/-- `_reset_for_manual_retry` -/
def Outbox.reset (row : Outbox) : Outbox :=
  { row with status := OutboxStatus.pending, attempts := 0 }

def Outbox.Due (row : Outbox) : Prop :=
  row.aggregateType = "broker_binding" ∧
    (row.status = OutboxStatus.pending ∨ row.status = OutboxStatus.retryScheduled)

instance (row : Outbox) : Decidable row.Due :=
  inferInstanceAs (Decidable (_ ∧ _))

def BrokerBindingState.reconciled (state : BrokerBindingState) (bound : Bool)
    (routingKey : String) : BrokerBindingState :=
  { state with
    desiredBound := bound
    desiredRoutingKey := routingKey
    routingKeys := [routingKey]
    reconciledGeneration := state.generation }

/-- The update that ends a projection, and the row that asked for it. -/
def finishBinding (db : Database) (row : Nat) (plan : BindingPlan) : Database :=
  { db with
    bindingStates := db.bindingStates.update (plan.channelId, plan.userId)
      (fun state => state.reconciled plan.actualDesiredBound plan.currentRoutingKey) }.setRow
    row Outbox.published

/-!
# The system
-/

/-- A worker's transaction. -/
inductive BindingWorker where
  | picked (row : Nat)
  | reading (row : Nat) (snapshot : Database)
  | holding (row : Nat) (plan : BindingPlan)

def BindingWorker.row : BindingWorker -> Nat
  | picked row => row
  | reading row _ => row
  | holding row _ => row

/-- The state row the worker has locked. -/
def BindingWorker.pair : BindingWorker -> Option (Uuid × Uuid)
  | holding _ plan => some (plan.channelId, plan.userId)
  | _ => none

structure BrokerState where
  db : Database
  queues : Table String (List String)
  workers : Table Nat BindingWorker

def BrokerState.empty : BrokerState where
  db := Database.empty
  queues := Table.empty
  workers := Table.empty

/-- The routing keys bound to a user's queue. -/
def BrokerState.keys (s : BrokerState) (username : String) : List String :=
  (s.queues.get username).getD []

/-- No worker has the state row of the pair locked. -/
def BrokerState.PairFree (s : BrokerState) (pair : Uuid × Uuid) : Prop :=
  forall w, w ∈ s.workers.rows -> w.2.pair ≠ some pair

instance (s : BrokerState) (pair : Uuid × Uuid) : Decidable (s.PairFree pair) :=
  inferInstanceAs (Decidable (forall w, w ∈ s.workers.rows -> w.2.pair ≠ some pair))

def BrokerState.RowFree (s : BrokerState) (row : Nat) : Prop :=
  forall w, w ∈ s.workers.rows -> w.2.row ≠ row

instance (s : BrokerState) (row : Nat) : Decidable (s.RowFree row) :=
  inferInstanceAs (Decidable (forall w, w ∈ s.workers.rows -> w.2.row ≠ row))

/-- The change writes no state row that a worker has locked. -/
def BrokerState.RespectsLocks (s : BrokerState) (db' : Database) : Prop :=
  forall w, w ∈ s.workers.rows -> forall pair, pair ∈ w.2.pair.toList ->
    db'.bindingStates.get pair = s.db.bindingStates.get pair

instance (s : BrokerState) (db' : Database) : Decidable (s.RespectsLocks db') :=
  inferInstanceAs (Decidable (forall w, w ∈ s.workers.rows ->
    forall pair, pair ∈ w.2.pair.toList ->
      db'.bindingStates.get pair = s.db.bindingStates.get pair))

inductive BrokerLabel where
  | call (env : Env) (request : Call)
  | touch (env : Env) (channelId userId : Uuid) (action : String)
  | account (userId : Uuid) (user : User)
  | reset (row : Nat)
  | pick (w : Nat) (row : Nat)
  | read (w : Nat)
  | grant (w outboxMaxAttempts : Nat)
  | operate (w : Nat)
  | finish (w : Nat)
  | fail (w outboxMaxAttempts : Nat)
  | crash (w : Nat)
  | expire (username : String)

/-- The constraints of the users table; no service changes a username. -/
def accountAllowed (db : Database) (userId : Uuid) (user : User) : Bool :=
  isSafeIdentifier user.username &&
    db.users.rows.all (fun r =>
      (r.1 == userId && r.2.username == user.username) ||
        (r.1 != userId && r.2.username != user.username))

def BrokerState.commit (s : BrokerState) : Except Failure Database -> Option BrokerState
  | Except.ok db' => if s.RespectsLocks db' then some { s with db := db' } else none
  | Except.error _ => none

def BrokerState.setWorker (s : BrokerState) (w : Nat) (worker : Option BindingWorker) :
    BrokerState :=
  { s with workers := s.workers.set w worker }

/-- The worker commits a change of its outbox row and goes on to the next one. -/
def BrokerState.closeRow (s : BrokerState) (w row : Nat) (change : Outbox -> Outbox) :
    BrokerState :=
  { s.setWorker w none with db := s.db.setRow row change }

/-- `_apply_broker_binding` from the locked read to the first broker operation. -/
def BrokerState.grant (s : BrokerState) (outboxMaxAttempts w row : Nat) (snapshot : Database)
    (generation : Nat) (userId channelId : Uuid) : Option BrokerState :=
  match readBindingState snapshot s.db channelId userId with
  | none => some (s.closeRow w row Outbox.published)
  | some state =>
      if s.PairFree (channelId, userId) then
        if generation ≠ state.generation then some (s.closeRow w row Outbox.published)
        else
          match planBinding channelId userId state with
          | Except.error _ => some (s.closeRow w row (Outbox.failedOnce outboxMaxAttempts))
          | Except.ok plan => some (s.setWorker w (some (BindingWorker.holding row plan)))
      else none

/-- The next operation of a plan, on the queue of the user. -/
def BrokerState.operate (s : BrokerState) (w row : Nat) (plan : BindingPlan) :
    List BrokerOp -> Option BrokerState
  | [] => none
  | op :: rest => some
      { s.setWorker w (some (BindingWorker.holding row { plan with remaining := rest })) with
        queues := s.queues.set plan.username (some (op.apply (s.keys plan.username))) }

def BrokerState.next (s : BrokerState) : BrokerLabel -> Option BrokerState
  | BrokerLabel.call env request => s.commit (request.apply env s.db)
  | BrokerLabel.touch env channelId userId action =>
      s.commit (enqueueBrokerBindingOutbox env s.db channelId userId action)
  | BrokerLabel.account userId user =>
      if accountAllowed s.db userId user then some { s with db := s.db.putUser userId user }
      else none
  | BrokerLabel.reset row =>
      if s.RowFree row then some { s with db := s.db.setRow row Outbox.reset } else none
  | BrokerLabel.pick w row =>
      match s.workers.get w, s.db.outbox[row]? with
      | none, some rec =>
          if rec.Due ∧ s.RowFree row then
            some (s.setWorker w (some (BindingWorker.picked row)))
          else none
      | _, _ => none
  | BrokerLabel.read w =>
      match s.workers.get w with
      | some (BindingWorker.picked row) =>
          some (s.setWorker w (some (BindingWorker.reading row s.db)))
      | _ => none
  | BrokerLabel.grant w outboxMaxAttempts =>
      match s.workers.get w with
      | some (BindingWorker.reading row snapshot) =>
          match s.db.outbox[row]?.map Outbox.payload with
          | some (OutboxPayload.brokerBinding generation userId channelId) =>
              s.grant outboxMaxAttempts w row snapshot generation userId channelId
          | _ => none
      | _ => none
  | BrokerLabel.operate w =>
      match s.workers.get w with
      | some (BindingWorker.holding row plan) => s.operate w row plan plan.remaining
      | _ => none
  | BrokerLabel.finish w =>
      match s.workers.get w with
      | some (BindingWorker.holding row plan) =>
          match plan.remaining with
          | [] => some { s.setWorker w none with db := finishBinding s.db row plan }
          | _ :: _ => none
      | _ => none
  | BrokerLabel.fail w outboxMaxAttempts =>
      match s.workers.get w with
      | some worker => some (s.closeRow w worker.row (Outbox.failedOnce outboxMaxAttempts))
      | none => none
  | BrokerLabel.crash w =>
      match s.workers.get w with
      | some _ => some (s.setWorker w none)
      | none => none
  | BrokerLabel.expire username => some { s with queues := s.queues.set username none }

def brokerSystem : System BrokerState BrokerLabel where
  start s := s = BrokerState.empty
  step s label s' := s.next label = some s'

end MessagingSystem
