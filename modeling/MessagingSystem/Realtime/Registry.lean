import MessagingSystem.Foundation.Buckets
import MessagingSystem.Realtime.ClientSubscriptions

/-!
# The registry of sockets

The manager keeps what it knows about a socket in dictionaries by the id of the socket, of its
user and of its session.  The task of a connection fills them in the handshake and empties them
when it ends; closes that come from the control channel mark sockets on the way.  All tasks run
on one event loop: a step is what a task does between two waits, and at each wait the task may
go on, get an exception or be cancelled.
-/

namespace MessagingSystem

open Foundation

/-- Work budgets and locks are objects; only their being there matters. -/
structure Registry where
  connections : Buckets Uuid Nat
  sessionConnections : Buckets Uuid Nat
  socketSessions : Table Nat Uuid
  socketUsers : Table Nat (Uuid × String)
  presenceConnectionIds : Table Nat String
  presenceHeartbeatTasks : Table Nat Unit
  subscriptions : Table Nat (List Uuid)
  subscriptionGenerations : Table Nat (Table Uuid Nat)
  subscriptionCheckedAt : Table Nat (Table Uuid Int)
  closingSockets : Finset Nat
  socketWorkBudgets : Table Nat Unit
  commandLocks : Table Nat Unit
  lastSubscribeHistoryRequests : Table Nat HistorySignature

namespace Registry

def empty : Registry where
  connections := Buckets.empty
  sessionConnections := Buckets.empty
  socketSessions := Table.empty
  socketUsers := Table.empty
  presenceConnectionIds := Table.empty
  presenceHeartbeatTasks := Table.empty
  subscriptions := Table.empty
  subscriptionGenerations := Table.empty
  subscriptionCheckedAt := Table.empty
  closingSockets := ∅
  socketWorkBudgets := Table.empty
  commandLocks := Table.empty
  lastSubscribeHistoryRequests := Table.empty

/-!
# The handshake
-/

def initializeSocketControls (r : Registry) (w : Nat) : Registry :=
  { r with
    socketWorkBudgets := r.socketWorkBudgets.set w (some ())
    commandLocks := r.commandLocks.set w (some ()) }

def cleanupSocketControls (r : Registry) (w : Nat) : Registry :=
  { r with
    socketWorkBudgets := r.socketWorkBudgets.set w none
    commandLocks := r.commandLocks.set w none
    lastSubscribeHistoryRequests := r.lastSubscribeHistoryRequests.set w none }

/-- `connect` under the connection lock, once the quota admits the socket. -/
def reserve (r : Registry) (w : Nat) (userId : Uuid) (username connectionId : String) :
    Registry :=
  let r := { r with connections := r.connections.add userId w }
  let r := r.initializeSocketControls w
  { r with
    presenceConnectionIds := r.presenceConnectionIds.set w (some connectionId)
    socketUsers := r.socketUsers.set w (some (userId, username)) }

/-- The end of `connect`, after the memberships are read. -/
def enroll (r : Registry) (w : Nat) (sessionId : Uuid) (states : List (Uuid × Nat))
    (now : Int) : Registry :=
  { r with
    subscriptions := r.subscriptions.set w (some (states.map Prod.fst))
    subscriptionGenerations := r.subscriptionGenerations.set w
      (some (states.foldl (fun t state => t.set state.1 (some state.2)) Table.empty))
    subscriptionCheckedAt := r.subscriptionCheckedAt.set w
      (some (states.foldl (fun t state => t.set state.1 (some now)) Table.empty))
    sessionConnections := r.sessionConnections.add sessionId w
    socketSessions := r.socketSessions.set w (some sessionId) }

/-- The exception handler of `connect` up to its wait. -/
def releaseSlot (r : Registry) (w : Nat) (userId : Uuid) : Registry :=
  { r with connections := r.connections.discard userId w }

/-- The exception handler of `connect` after its wait. -/
def forgetHandshake (r : Registry) (w : Nat) : Registry :=
  { r with
    presenceConnectionIds := r.presenceConnectionIds.set w none
    socketUsers := r.socketUsers.set w none }.cleanupSocketControls w

/-!
# The end of a connection
-/

/-- The session of the socket loses it; the session goes with its last socket. -/
def leaveSession (r : Registry) (w : Nat) : Registry :=
  { r with
    socketSessions := r.socketSessions.set w none
    sessionConnections :=
      match r.socketSessions.get w with
      | some sessionId => r.sessionConnections.discard sessionId w
      | none => r.sessionConnections }

/-- `disconnect` between its two waits. -/
def forgetSocket (r : Registry) (w : Nat) : Registry :=
  let r :=
    { r with
      subscriptions := r.subscriptions.set w none
      subscriptionGenerations := r.subscriptionGenerations.set w none
      subscriptionCheckedAt := r.subscriptionCheckedAt.set w none }
  let r := r.cleanupSocketControls w
  let r :=
    { r with
      closingSockets := r.closingSockets.erase w
      connections := r.connections.discardAll w }
  let r := r.leaveSession w
  { r with
    socketUsers := r.socketUsers.set w none
    presenceConnectionIds := r.presenceConnectionIds.set w none }

def setHeartbeat (r : Registry) (w : Nat) (task : Option Unit) : Registry :=
  { r with presenceHeartbeatTasks := r.presenceHeartbeatTasks.set w task }

/-!
# What the loops of an open socket write
-/

inductive SocketActivity where
  | controls
  | subscribe (granted : List (Uuid × Nat)) (now : Int) (signature : Option HistorySignature)
  | unsubscribe (channelIds : List Uuid)
  | drop (channelId : Uuid)
  | authorize (channelId : Uuid) (generation : Option (Nat × Int))

/-- `_socket_controls` makes the controls again where they are missing. -/
def socketControls (r : Registry) (w : Nat) : Registry :=
  if (r.socketWorkBudgets.get w).isSome then r else r.initializeSocketControls w

/-- Channels are removed from the dictionaries of the socket where these are there. -/
def removeChannels (r : Registry) (w : Nat) (channelIds : List Uuid) : Registry :=
  { r with
    subscriptions := r.subscriptions.update w
      (fun subscribed => subscribed.filter (fun c => !channelIds.contains c))
    subscriptionGenerations := r.subscriptionGenerations.update w
      (fun t => channelIds.foldl (fun t c => t.set c none) t)
    subscriptionCheckedAt := r.subscriptionCheckedAt.update w
      (fun t => channelIds.foldl (fun t c => t.set c none) t) }

def act (r : Registry) (w : Nat) : SocketActivity -> Registry
  | SocketActivity.controls => r.socketControls w
  | SocketActivity.subscribe granted now signature =>
      { r with
        subscriptions := r.subscriptions.set w (some (granted.map Prod.fst))
        subscriptionGenerations := r.subscriptionGenerations.set w
          (some (granted.foldl (fun t state => t.set state.1 (some state.2)) Table.empty))
        subscriptionCheckedAt := r.subscriptionCheckedAt.set w
          (some (granted.foldl (fun t state => t.set state.1 (some now)) Table.empty))
        lastSubscribeHistoryRequests := r.lastSubscribeHistoryRequests.set w signature }
  | SocketActivity.unsubscribe channelIds =>
      let r := r.removeChannels w channelIds
      { r with
        subscriptions := r.subscriptions.set w (some ((r.subscriptions.get w).getD []))
        lastSubscribeHistoryRequests := r.lastSubscribeHistoryRequests.set w none }
  | SocketActivity.drop channelId =>
      let r := r.removeChannels w [channelId]
      { r with lastSubscribeHistoryRequests := r.lastSubscribeHistoryRequests.set w none }
  | SocketActivity.authorize channelId generation =>
      let generations := (r.subscriptionGenerations.get w).getD Table.empty
      let checked := (r.subscriptionCheckedAt.get w).getD Table.empty
      match generation with
      | some (current, now) =>
          { r with
            subscriptionGenerations := r.subscriptionGenerations.set w
              (some (generations.set channelId (some current)))
            subscriptionCheckedAt := r.subscriptionCheckedAt.set w
              (some (checked.set channelId (some now))) }
      | none =>
          { r with
            subscriptionGenerations := r.subscriptionGenerations.set w (some generations)
            subscriptionCheckedAt := r.subscriptionCheckedAt.set w (some checked) }

end Registry

/-!
# Tasks
-/

inductive HandshakeWait where
  | accept
  | presence
  | bindings
  | states
  deriving DecidableEq

/-- Where the task of a connection waits. -/
inductive SocketPhase where
  | lock
  | handshake (wait : HandshakeWait)
  | cleanup (refused : Bool)
  | refusal
  | hello
  | running
  | stopping
  | heartbeat
  | leaving
  deriving DecidableEq

structure SocketTask where
  userId : Uuid
  username : String
  sessionId : Uuid
  phase : SocketPhase

/-- A close of all sockets of a user or a session; `waiting` while one of them is being closed. -/
structure CloseTask where
  sockets : List Nat
  waiting : Bool

structure RegistryState where
  registry : Registry
  tasks : Table Nat SocketTask
  closes : Table Nat CloseTask

def RegistryState.empty : RegistryState where
  registry := Registry.empty
  tasks := Table.empty
  closes := Table.empty

/-- What happens at a wait. -/
inductive WaitOutcome where
  | returned
  | raised (isAppError : Bool)
  | cancelled
  deriving DecidableEq

inductive RegistryLabel where
  | receive (w : Nat) (userId : Uuid) (username : String) (sessionId : Uuid)
  | enter (w : Nat) (connectionId : String)
  | enroll (w : Nat) (states : List (Uuid × Nat)) (now : Int)
  | resume (w : Nat) (outcome : WaitOutcome)
  | act (w : Nat) (activity : Registry.SocketActivity)
  | closeUser (k : Nat) (userId : Uuid)
  | closeSession (k : Nat) (sessionId : Uuid)
  | closeNext (k : Nat)
  | closeReturned (k : Nat)
  | closeEnded (k : Nat)

namespace RegistryState

def setPhase (s : RegistryState) (w : Nat) (task : SocketTask) (phase : SocketPhase) :
    RegistryState :=
  { s with tasks := s.tasks.set w (some { task with phase := phase }) }

def finish (s : RegistryState) (w : Nat) : RegistryState :=
  { s with tasks := s.tasks.set w none }

def withRegistry (s : RegistryState) (r : Registry) : RegistryState :=
  { s with registry := r }

/-- `disconnect` after the heartbeat task has ended. -/
def forget (s : RegistryState) (w : Nat) (task : SocketTask) : RegistryState :=
  let known := (s.registry.socketUsers.get w).isSome &&
    (s.registry.presenceConnectionIds.get w).isSome
  let s := s.withRegistry (s.registry.forgetSocket w)
  if known then s.setPhase w task SocketPhase.leaving else s.finish w

/-- `disconnect` up to its first wait; it waits for a heartbeat task that is still known. -/
def disconnect (s : RegistryState) (w : Nat) (task : SocketTask) : RegistryState :=
  if (s.registry.presenceHeartbeatTasks.get w).isSome then
    (s.withRegistry (s.registry.setHeartbeat w none)).setPhase w task SocketPhase.heartbeat
  else s.forget w task

/-- `connect` once it has the connection lock. -/
def enter (quota : Nat) (s : RegistryState) (w : Nat) (task : SocketTask)
    (connectionId : String) : RegistryState :=
  if quota ≤ (s.registry.connections.members task.userId).length then
    s.setPhase w task SocketPhase.refusal
  else
    (s.withRegistry (s.registry.reserve w task.userId task.username connectionId)).setPhase w
      task (SocketPhase.handshake HandshakeWait.accept)

/-- The wait of a handshake ends; a cancellation is no `Exception` for its handler. -/
def resumeHandshake (s : RegistryState) (w : Nat) (task : SocketTask) (wait : HandshakeWait) :
    WaitOutcome -> Option RegistryState
  | WaitOutcome.returned =>
      match wait with
      | HandshakeWait.accept => some (s.setPhase w task (SocketPhase.handshake
          HandshakeWait.presence))
      | HandshakeWait.presence => some (s.setPhase w task (SocketPhase.handshake
          HandshakeWait.bindings))
      | HandshakeWait.bindings => some (s.setPhase w task (SocketPhase.handshake
          HandshakeWait.states))
      | HandshakeWait.states => none
  | WaitOutcome.raised isAppError =>
      some ((s.withRegistry (s.registry.releaseSlot w task.userId)).setPhase w task
        (SocketPhase.cleanup isAppError))
  | WaitOutcome.cancelled => some (s.finish w)

/-- The wait in the handler ends; presence calls raise nothing. -/
def resumeCleanup (s : RegistryState) (w : Nat) (task : SocketTask) (refused : Bool) :
    WaitOutcome -> Option RegistryState
  | WaitOutcome.returned =>
      let s := s.withRegistry (s.registry.forgetHandshake w)
      some (if refused then s.setPhase w task SocketPhase.refusal else s.finish w)
  | WaitOutcome.raised _ => none
  | WaitOutcome.cancelled => some (s.finish w)

/-- Any other wait of a connection ends. -/
def resume (s : RegistryState) (w : Nat) (task : SocketTask) (outcome : WaitOutcome) :
    Option RegistryState :=
  match task.phase with
  | SocketPhase.lock => if outcome = WaitOutcome.cancelled then some (s.finish w) else none
  | SocketPhase.handshake wait => s.resumeHandshake w task wait outcome
  | SocketPhase.cleanup refused => s.resumeCleanup w task refused outcome
  | SocketPhase.refusal => some (s.finish w)
  | SocketPhase.hello =>
      if outcome = WaitOutcome.returned then
        some ((s.withRegistry (s.registry.setHeartbeat w (some ()))).setPhase w task
          SocketPhase.running)
      else some (s.disconnect w task)
  | SocketPhase.running => some (s.setPhase w task SocketPhase.stopping)
  | SocketPhase.stopping =>
      if outcome = WaitOutcome.cancelled then some (s.disconnect w task)
      else some ((s.withRegistry (s.registry.setHeartbeat w none)).disconnect w task)
  | SocketPhase.heartbeat =>
      if outcome = WaitOutcome.cancelled then some (s.finish w) else some (s.forget w task)
  | SocketPhase.leaving => some (s.finish w)

/-- The loops of the socket run. -/
def isOpen : SocketPhase -> Bool
  | SocketPhase.running => true
  | SocketPhase.stopping => true
  | _ => false

def setClose (s : RegistryState) (k : Nat) (task : Option CloseTask) : RegistryState :=
  { s with closes := s.closes.set k task }

/-- The loop of a close up to its next wait: a socket that is being closed is skipped. -/
def closeNext (s : RegistryState) (k : Nat) : List Nat -> RegistryState
  | [] => s.setClose k none
  | w :: rest =>
      if w ∈ s.registry.closingSockets then s.setClose k (some ⟨rest, false⟩)
      else
        (s.withRegistry { s.registry with
          closingSockets := insert w s.registry.closingSockets }).setClose k (some ⟨rest, true⟩)

def next (quota : Nat) (s : RegistryState) : RegistryLabel -> Option RegistryState
  | RegistryLabel.receive w userId username sessionId =>
      match s.tasks.get w with
      | none =>
          some { s with
            tasks := s.tasks.set w (some ⟨userId, username, sessionId, SocketPhase.lock⟩) }
      | some _ => none
  | RegistryLabel.enter w connectionId => do
      let task ← s.tasks.get w
      if task.phase = SocketPhase.lock then some (s.enter quota w task connectionId) else none
  | RegistryLabel.enroll w states now => do
      let task ← s.tasks.get w
      if task.phase = SocketPhase.handshake HandshakeWait.states then
        some ((s.withRegistry (s.registry.enroll w task.sessionId states now)).setPhase w task
          SocketPhase.hello)
      else none
  | RegistryLabel.resume w outcome => do
      let task ← s.tasks.get w
      s.resume w task outcome
  | RegistryLabel.act w activity => do
      let task ← s.tasks.get w
      if isOpen task.phase then some (s.withRegistry (s.registry.act w activity)) else none
  | RegistryLabel.closeUser k userId =>
      match s.closes.get k with
      | none => some (s.setClose k (some ⟨s.registry.connections.members userId, false⟩))
      | some _ => none
  | RegistryLabel.closeSession k sessionId =>
      match s.closes.get k with
      | none => some (s.setClose k (some ⟨s.registry.sessionConnections.members sessionId, false⟩))
      | some _ => none
  | RegistryLabel.closeNext k => do
      let task ← s.closes.get k
      if task.waiting then none else some (s.closeNext k task.sockets)
  | RegistryLabel.closeReturned k => do
      let task ← s.closes.get k
      if task.waiting then some (s.setClose k (some { task with waiting := false })) else none
  | RegistryLabel.closeEnded k => some (s.setClose k none)

end RegistryState

def registrySystem (quota : Nat) : System RegistryState RegistryLabel where
  start s := s = RegistryState.empty
  step s label s' := s.next quota label = some s'

end MessagingSystem
