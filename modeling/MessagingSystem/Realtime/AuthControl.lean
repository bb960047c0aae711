import MessagingSystem.Auth.SessionHistory

/-!
# Sockets and revoked sessions

A revocation commits first and then closes the sockets that the manager knows for the
session, or for the user.  A handshake checks the session long before the manager
knows its socket under that session.  The tasks run on one event loop, so a step of
the system is what one of them does between two waits.
-/

namespace MessagingSystem

open Foundation

/-!
# Control events
-/

/-- For a session or, without one, for a user. -/
inductive AuthControlEvent where
  | session (sessionId : Uuid) (reason : String)
  | user (userId : Uuid) (reason : String)
  deriving DecidableEq

def AuthControlEvent.reason : AuthControlEvent -> String
  | session _ reason => reason
  | user _ reason => reason

def RevocationCause.reason : RevocationCause -> Option String
  | requested => some "session revoked"
  | logout _ => some "logout"
  | replay _ => some "refresh token replay"
  -- A refresh for an inactive account revokes the session and dispatches nothing.
  | accountInactive => none

def AccountRequest.revocationReason : AccountRequest -> String
  | logoutAll _ _ _ => "logout all"
  | changePassword _ => "password changed"
  | setUserActive _ => "account deactivated"
  | _ => "sessions revoked by administrator"

/-- What the route dispatches once the request has committed. -/
def AccountRequest.controlEvent (request : AccountRequest) :
    AccountResult -> Option AuthControlEvent
  | AccountResult.sessionRevoked sessionId _ cause =>
      cause.reason.map (AuthControlEvent.session sessionId)
  | AccountResult.sessionsRevoked userId _ _ _ =>
      some (AuthControlEvent.user userId request.revocationReason)
  | AccountResult.unchanged =>
      match request with
      | revokeSession _ sessionId _ =>
          some (AuthControlEvent.session sessionId "session revoked")
      | setUserActive call =>
          if call.isActive then none
          else some (AuthControlEvent.user call.targetUserId "account deactivated")
      | _ => none
  | _ => none

/-!
# Handshakes
-/

/-- How far `_run_websocket` has come. -/
inductive HandshakePhase where
  | ticketed
  | checked
  | reserved
  | accepted
  | connected
  | ended
  deriving DecidableEq

/-- The session was found valid and the socket has not come to its end. -/
def HandshakePhase.isPassed : HandshakePhase -> Bool
  | checked => true
  | reserved => true
  | accepted => true
  | connected => true
  | _ => false

/-- The socket is among the connections of its user. -/
def HandshakePhase.hasSlot : HandshakePhase -> Bool
  | reserved => true
  | accepted => true
  | connected => true
  | _ => false

/-- A handshake has returned from `connect` or was given up. -/
def HandshakePhase.isFinished : HandshakePhase -> Bool
  | connected => true
  | ended => true
  | _ => false

/-- A socket with the claims of its ticket. -/
structure Handshake where
  userId : Uuid
  sessionId : Uuid
  authenticationExpiresAt : Instant
  phase : HandshakePhase

/-!
# Dispatches
-/

structure SocketClose where
  socket : Nat
  code : Nat
  reason : String

/--
A dispatched event with the sockets it still has to close, once it has looked them up.
The rows are those that the revocation has committed.
-/
structure Dispatch where
  event : AuthControlEvent
  rows : AccountDatabase
  waiting : Option (List Nat)

structure GatewayState where
  accounts : Store AccountDatabase AccountRequest
  handshakes : Table Nat Handshake
  /-- `_connections`, by user. -/
  connections : List (Uuid × Nat)
  /-- `_session_connections`, by session. -/
  sessionConnections : List (Uuid × Nat)
  closingSockets : List Nat
  closed : List SocketClose
  dispatches : List Dispatch

namespace GatewayState

def empty : GatewayState where
  accounts := ⟨AccountDatabase.empty, Table.empty⟩
  handshakes := Table.empty
  connections := []
  sessionConnections := []
  closingSockets := []
  closed := []
  dispatches := []

def isClosed (s : GatewayState) (w : Nat) : Bool :=
  s.closed.any (fun close => close.socket == w)

/--
Sockets go by the `id` of their object, which another object gets once the task of the first has
ended and no dispatch still has to close it.
-/
def isFree (s : GatewayState) (w : Nat) : Bool :=
  (s.handshakes.get w).all (fun handshake => handshake.phase == HandshakePhase.ended) &&
    s.dispatches.all (fun dispatch => !(dispatch.waiting.getD []).contains w)

def setPhase (s : GatewayState) (w : Nat) (handshake : Handshake) (phase : HandshakePhase) :
    GatewayState :=
  { s with handshakes := s.handshakes.set w (some { handshake with phase := phase }) }

def close (s : GatewayState) (w code : Nat) (reason : String) : GatewayState :=
  { s with closed := s.closed ++ [⟨w, code, reason⟩] }

def socketsOf (connections : List (Uuid × Nat)) (key : Uuid) : List Nat :=
  (connections.filter (fun entry => entry.1 == key)).map Prod.snd

/-- The sockets that `disconnect_session` or `disconnect_user` will go through. -/
def lookUp (s : GatewayState) : AuthControlEvent -> List Nat
  | AuthControlEvent.session sessionId _ => socketsOf s.sessionConnections sessionId
  | AuthControlEvent.user userId _ => socketsOf s.connections userId

def setDispatch (s : GatewayState) (i : Nat) (dispatch : Dispatch) : GatewayState :=
  { s with dispatches := s.dispatches.set i dispatch }

/-- One round of the loop over the sockets. -/
def closeOne (s : GatewayState) (w : Nat) (event : AuthControlEvent) : GatewayState :=
  if s.closingSockets.contains w then s
  else { s with closingSockets := s.closingSockets ++ [w] }.close w 4003 event.reason

/-- The commit of a request is followed by the dispatch of its event. -/
def announced (env : AuthEnv) (s : GatewayState) (rows : AccountDatabase) :
    AccountStoreLabel -> List Dispatch
  | StoreLabel.commit t =>
      match s.accounts.sessions.get t with
      | none => []
      | some session =>
          match (session.request.script env).outcome session.seen with
          | none => []
          | some r => (session.request.controlEvent r).toList.map
              (fun event => { event := event, rows := rows, waiting := none })
  | _ => []

end GatewayState

/-!
# The system
-/

inductive GatewayLabel where
  | account (label : AccountStoreLabel)
  /-- An event that another instance has published. -/
  | receive (event : AuthControlEvent)
  | consumeTicket (w : Nat) (userId sessionId : Uuid) (authenticationExpiresAt : Instant)
  | checkSession (w : Nat) (now : Instant)
  | reserve (w : Nat)
  | accept (w : Nat)
  /-- One of the waits of `connect` has failed. -/
  | abandon (w : Nat)
  | register (w : Nat)
  | expire (w : Nat)
  | disconnect (w : Nat)
  | lookUp (i : Nat)
  | closeNext (i : Nat)

section

variable (env : AuthEnv) (maxWebsocketConnectionsPerUser : Nat)

/-- The `except` branch of `connect`. -/
def GatewayState.abandon (s : GatewayState) (w : Nat) (handshake : Handshake) : GatewayState :=
  { s.setPhase w handshake HandshakePhase.ended with
    connections := s.connections.filter (fun entry => entry != (handshake.userId, w)) }

/-- The session check of `_run_websocket`. -/
def GatewayState.checkSession (s : GatewayState) (w : Nat) (handshake : Handshake)
    (now : Instant) : GatewayState :=
  match checkSessionAccess s.accounts.committed handshake.userId handshake.sessionId
      handshake.authenticationExpiresAt now with
  | Except.ok _ => s.setPhase w handshake HandshakePhase.checked
  | Except.error _ => (s.setPhase w handshake HandshakePhase.ended).close w 1008
      "invalid authentication session"

/-- The part of `connect` under the connection lock. -/
def GatewayState.reserve (s : GatewayState) (w : Nat) (handshake : Handshake) : GatewayState :=
  if maxWebsocketConnectionsPerUser ≤
      (GatewayState.socketsOf s.connections handshake.userId).length then
    (s.setPhase w handshake HandshakePhase.ended).close w 1013 "WebSocket quota exceeded"
  else
    { s.setPhase w handshake HandshakePhase.reserved with
      connections := s.connections ++ [(handshake.userId, w)] }

def GatewayState.register (s : GatewayState) (w : Nat) (handshake : Handshake) :
    GatewayState :=
  { s.setPhase w handshake HandshakePhase.connected with
    sessionConnections := s.sessionConnections ++ [(handshake.sessionId, w)] }

def GatewayState.disconnect (s : GatewayState) (w : Nat) (handshake : Handshake) :
    GatewayState :=
  { s.setPhase w handshake HandshakePhase.ended with
    connections := s.connections.filter (fun entry => entry.2 != w)
    sessionConnections := s.sessionConnections.filter
      (fun entry => entry != (handshake.sessionId, w))
    closingSockets := s.closingSockets.filter (fun other => other != w) }

/-- The handshake of the socket, if it is in the given phase. -/
def GatewayState.inPhase (s : GatewayState) (w : Nat) (phase : HandshakePhase) :
    Option Handshake :=
  (s.handshakes.get w).filter (fun handshake => handshake.phase == phase)

def GatewayState.next (s : GatewayState) : GatewayLabel -> Option GatewayState
  | GatewayLabel.account label =>
      ((accountWorkload env).next s.accounts label).map fun accounts =>
        { s with
          accounts := accounts
          dispatches := s.dispatches ++ s.announced env accounts.committed label }
  | GatewayLabel.receive event =>
      some { s with
        dispatches := s.dispatches ++
          [{ event := event, rows := AccountDatabase.empty, waiting := none }] }
  | GatewayLabel.consumeTicket w userId sessionId authenticationExpiresAt =>
      if s.isFree w then
        some { s with
          handshakes := s.handshakes.set w (some
            { userId := userId
              sessionId := sessionId
              authenticationExpiresAt := authenticationExpiresAt
              phase := HandshakePhase.ticketed })
          closed := s.closed.filter (fun close => close.socket != w) }
      else none
  | GatewayLabel.checkSession w now => do
      let handshake ← s.inPhase w HandshakePhase.ticketed
      some (s.checkSession w handshake now)
  | GatewayLabel.reserve w => do
      let handshake ← s.inPhase w HandshakePhase.checked
      some (s.reserve maxWebsocketConnectionsPerUser w handshake)
  | GatewayLabel.accept w => do
      let handshake ← s.inPhase w HandshakePhase.reserved
      -- A socket that was closed meanwhile cannot be accepted.
      some (if s.isClosed w then s.abandon w handshake
        else s.setPhase w handshake HandshakePhase.accepted)
  | GatewayLabel.abandon w => do
      let handshake ← (s.inPhase w HandshakePhase.reserved).or
        (s.inPhase w HandshakePhase.accepted)
      some (s.abandon w handshake)
  | GatewayLabel.register w => do
      let handshake ← s.inPhase w HandshakePhase.accepted
      some (s.register w handshake)
  | GatewayLabel.expire w => do
      let _ ← s.inPhase w HandshakePhase.connected
      some (s.close w 4001 "authentication expired")
  | GatewayLabel.disconnect w => do
      let handshake ← s.inPhase w HandshakePhase.connected
      some (s.disconnect w handshake)
  | GatewayLabel.lookUp i => do
      let dispatch ← s.dispatches[i]?
      if dispatch.waiting.isNone then
        some (s.setDispatch i { dispatch with waiting := some (s.lookUp dispatch.event) })
      else none
  | GatewayLabel.closeNext i => do
      let dispatch ← s.dispatches[i]?
      match dispatch.waiting with
      | some (w :: rest) =>
          some ((s.closeOne w dispatch.event).setDispatch i
            { dispatch with waiting := some rest })
      | _ => none

def gatewaySystem : System GatewayState GatewayLabel where
  start s := s = GatewayState.empty
  step s label s' := s.next env maxWebsocketConnectionsPerUser label = some s'

end

/-!
# What revocations promise
-/

/-- A session that the event is about and that is revoked. -/
def AuthControlEvent.Covers (event : AuthControlEvent) (rows : AccountDatabase)
    (sessionId : Uuid) : Prop :=
  exists session, rows.sessions.get sessionId = some session ∧
    session.revokedAt.isSome = true ∧
    match event with
    | AuthControlEvent.session id _ => sessionId = id
    | AuthControlEvent.user userId _ => session.userId = userId

def GatewayState.IsRegistered (s : GatewayState) (w : Nat) : Prop :=
  (exists userId, (userId, w) ∈ s.connections) ∨
    exists sessionId, (sessionId, w) ∈ s.sessionConnections

/--
When a dispatch and a handshake have finished, the socket of a session that was revoked
before the dispatch is closed or unknown to the manager.
-/
def RevokedSocketsClosed (s : GatewayState) : Prop :=
  forall dispatch, dispatch ∈ s.dispatches -> dispatch.waiting = some [] ->
    forall w handshake, s.handshakes.get w = some handshake ->
      handshake.phase.isFinished = true ->
      dispatch.event.Covers dispatch.rows handshake.sessionId ->
      s.IsRegistered w -> s.isClosed w = true

end MessagingSystem
