import MessagingSystem.Realtime.Delivery

/-!
# Subscriptions of the web client

A socket is subscribed to every channel of its user when it connects.  Later the client sends
commands of its own: after a join that succeeded, and after a `membership_update` event about
its user, a `subscribe` or `unsubscribe` that names the one channel that has changed.  The
server takes the list of a `subscribe` command as the whole new subscription.  It also ends a
subscription itself, before it sends the user's own removal and when a check of an event finds
no membership.
-/

namespace MessagingSystem

open Foundation

/-!
# The client
-/

inductive ClientCommand where
  | subscribe (channelIds : List Uuid) (fromSeqId : Option Nat)
  | unsubscribe (channelIds : List Uuid)

/-- `onSuccess` of `useJoinChannel`; `emit` sends only over an open socket. -/
def commandAfterJoin (isOpen : Bool) (status : JoinStatus) (channelId : Uuid) :
    List ClientCommand :=
  if isOpen && (status = JoinStatus.joined || status = JoinStatus.alreadyMember) then
    [ClientCommand.subscribe [channelId] (some 0)]
  else []

/-- What `onmessage` sends after an event. -/
def commandAfterEvent (ownId : Uuid) (event : RealtimeEvent) : List ClientCommand :=
  match event.channelId with
  | none => []
  | some channelId =>
      if event.type == "membership_update" && event.userId == some ownId then
        if canRead event.newRole then [ClientCommand.subscribe [channelId] (some 0)]
        else [ClientCommand.unsubscribe [channelId]]
      else []

/-!
# The server
-/

abbrev HistorySignature := List Uuid × Option Nat

def historySignature (wanted : List Uuid) (fromSeqId : Option Nat) : HistorySignature :=
  (orderByAsc Uuid.str wanted.dedup, fromSeqId)

def sameChannels (a b : List Uuid) : Bool :=
  a.all b.contains && b.all a.contains

/-- `self._subscriptions.get(socket_id, set())` -/
def RealtimeState.subscriptions (s : RealtimeState) (w : Nat) : List Uuid :=
  ((s.sockets.get w).map Socket.subscriptions).getD []

/-- The unchanged subscription is asked for again. -/
def repeatsSubscription (subscriptions : List Uuid) (last : Option HistorySignature)
    (channelIds : List Uuid) (fromSeqId : Option Nat) : Bool :=
  sameChannels subscriptions channelIds &&
    decide (last = some (historySignature channelIds fromSeqId))

/-- What the handler of a `subscribe` command waits for. -/
inductive Handling where
  | memberships (channelIds : List Uuid) (fromSeqId : Option Nat)
  | history (signature : Option HistorySignature)

/-- The new subscription is installed; its signature is stored after the history is sent. -/
def Handling.granted (granted : List Uuid) : Handling -> Handling
  | memberships channelIds fromSeqId =>
      history (if sameChannels granted channelIds then
        some (historySignature channelIds fromSeqId)
      else none)
  | history signature => history signature

structure SubscriptionState where
  server : RealtimeState
  lastHistoryRequest : Option HistorySignature
  handling : Option Handling
  inbox : List RealtimeEvent
  commands : List ClientCommand

def SubscriptionState.fresh : SubscriptionState where
  server := RealtimeState.empty
  lastHistoryRequest := none
  handling := none
  inbox := []
  commands := []

/-- The update tells the user of the socket that access to a channel is gone. -/
def isOwnRemoval (socket : Socket) (event : RealtimeEvent) : Bool :=
  event.channelId.isSome && isTargetedMembershipUpdate socket event && !canRead event.newRole

/-- `_forward_event` drops the signature together with the subscription. -/
def SubscriptionState.historyAfterDelivery (s : SubscriptionState) (w row : Nat) :
    Option HistorySignature :=
  match s.server.sockets.get w, s.server.db.outbox[row]? with
  | some socket, some record =>
      if isOwnRemoval socket record.payload.event then none else s.lastHistoryRequest
  | _, _ => s.lastHistoryRequest

def newlySent (s s' : RealtimeState) : List RealtimeEvent :=
  (s'.sent.drop s.sent.length).map Sent.event

/-- The effect of a step of the server on the dictionaries and the messages of the client. -/
def SubscriptionState.observe (s : SubscriptionState) (w : Nat) (server : RealtimeState) :
    RealtimeLabel -> SubscriptionState
  | RealtimeLabel.grant w' _ =>
      if w' = w then
        { s with handling := s.handling.map (Handling.granted (server.subscriptions w)) }
      else s
  | RealtimeLabel.deliver w' row _ =>
      if w' = w then
        { s with
          lastHistoryRequest := s.historyAfterDelivery w row
          inbox := s.inbox ++ newlySent s.server server }
      else s
  | RealtimeLabel.settle w' _ =>
      if w' = w then { s with inbox := s.inbox ++ newlySent s.server server } else s
  | _ => s

section

variable (crypt : Decryption) (ttl : Int) (w : Nat) (userId : Uuid)

/-- A step of the server, after which the client's side is brought up to date. -/
def SubscriptionState.serve (s : SubscriptionState) (label : RealtimeLabel) :
    Option SubscriptionState := do
  let server ← s.server.next crypt ttl label
  some { s.observe w server label with server := server }

/-- `_handle_subscribe` up to its first wait; `reserved` tells whether the history budget
admits the command. -/
def SubscriptionState.handleSubscribe (s : SubscriptionState) (channelIds : List Uuid)
    (fromSeqId : Option Nat) (reserved : Bool) : Option SubscriptionState :=
  if repeatsSubscription (s.server.subscriptions w) s.lastHistoryRequest channelIds fromSeqId then
    some s
  else if reserved then
    { s with handling := some (Handling.memberships channelIds fromSeqId) }.serve crypt ttl w
      (RealtimeLabel.subscribe w channelIds)
  else some s

def SubscriptionState.handleUnsubscribe (s : SubscriptionState) (channelIds : List Uuid) :
    Option SubscriptionState :=
  { s with lastHistoryRequest := none }.serve crypt ttl w (RealtimeLabel.unsubscribe w channelIds)

/-- `accepted` tells whether the command budget of the socket admits the command. -/
def SubscriptionState.handle (s : SubscriptionState) (accepted reserved : Bool)
    (command : ClientCommand) : Option SubscriptionState :=
  if accepted then
    match command with
    | ClientCommand.subscribe channelIds fromSeqId =>
        s.handleSubscribe crypt ttl w channelIds fromSeqId reserved
    | ClientCommand.unsubscribe channelIds => s.handleUnsubscribe crypt ttl w channelIds
  else some s

/-!
# Histories of a socket

The socket stays open, and all its commands come from the web client.  They are handled one at
a time; deliveries and the steps of other sockets go on while one waits.
-/

/-- The step is neither a command nor the end of the socket. -/
def RealtimeLabel.isForeign (label : RealtimeLabel) : Bool :=
  match label with
  | connect w' userId' => decide (w' = w -> userId' = userId)
  | subscribe w' _ | unsubscribe w' _ | disconnect w' => w' != w
  | _ => true

/-- The command loop of the socket has started and waits for nothing. -/
def SubscriptionState.isIdle (s : SubscriptionState) : Bool :=
  s.handling.isNone && (s.server.sockets.get w).any (fun socket => socket.command.isNone)

inductive SubscriptionLabel where
  | server (label : RealtimeLabel)
  | joinReturned (status : JoinStatus) (channelId : Uuid)
  | onmessage
  | process (accepted reserved : Bool)
  | historySent

def SubscriptionState.next (s : SubscriptionState) :
    SubscriptionLabel -> Option SubscriptionState
  | SubscriptionLabel.server label =>
      if label.isForeign w userId then s.serve crypt ttl w label else none
  | SubscriptionLabel.joinReturned status channelId =>
      some { s with
        commands := s.commands ++
          commandAfterJoin (s.server.sockets.get w).isSome status channelId }
  | SubscriptionLabel.onmessage =>
      match s.inbox with
      | event :: rest =>
          some { s with
            inbox := rest
            commands := s.commands ++ commandAfterEvent userId event }
      | [] => none
  | SubscriptionLabel.process accepted reserved =>
      match s.commands with
      | command :: rest =>
          if s.isIdle w then
            { s with commands := rest }.handle crypt ttl w accepted reserved command
          else none
      | [] => none
  | SubscriptionLabel.historySent =>
      match s.handling with
      | some (Handling.history signature) =>
          some { s with lastHistoryRequest := signature, handling := none }
      | _ => none

end

section

variable {crypt : Decryption} {ttl : Int} {w w' : Nat} {userId c : Uuid} {socket socket' : Socket}

/-- The step does not end the subscription of the socket to the channel. -/
def RealtimeState.Keeps (s : RealtimeState) (w : Nat) (c : Uuid) : RealtimeLabel -> Prop
  | RealtimeLabel.grant w' _ => w' = w ->
      forall socket command states, s.sockets.get w = some socket ->
        socket.command = some command -> command.states = some states ->
        c ∈ (grantedStates command.wanted states).map Prod.fst
  | RealtimeLabel.unsubscribe w' channelIds => w' = w -> c ∉ channelIds
  | RealtimeLabel.deliver w' row _ => w' = w ->
      forall socket record, s.sockets.get w = some socket -> s.db.outbox[row]? = some record ->
        record.payload.event.channelId = some c ->
        isOwnRemoval socket record.payload.event = false
  | RealtimeLabel.settle w' _ => w' = w ->
      forall socket task, s.sockets.get w = some socket -> socket.forwarding = some task ->
        task.answer = some none -> task.channelId ≠ c
  | RealtimeLabel.disconnect w' => w' ≠ w
  | _ => True

theorem mem_unsubscribe {channelIds : List Uuid} :
    c ∈ (socket.unsubscribe channelIds).subscriptions
      ↔ c ∈ socket.subscriptions ∧ c ∉ channelIds := by
  unfold Socket.unsubscribe
  induction channelIds generalizing socket with
  | nil => simp
  | cons c' rest ih =>
      rw [List.foldl_cons, ih]
      simp only [Socket.discard, Socket.forget, List.mem_filter, List.mem_cons, bne_iff_ne]
      tauto

theorem mem_discard {c' : Uuid} :
    c ∈ (socket.discard c').subscriptions ↔ c ∈ socket.subscriptions ∧ c ≠ c' := by
  simp only [Socket.discard, List.mem_filter, bne_iff_ne]

theorem mem_forwardEvent {now : Int} {event : RealtimeEvent} (hc : c ∈ socket.subscriptions) :
    c ∈ (forwardEvent ttl now socket event).1.subscriptions
      ↔ (event.channelId = some c -> isOwnRemoval socket event = false) := by
  unfold forwardEvent isOwnRemoval
  cases hchannel : event.channelId with
  | none =>
      refine iff_of_true ?_ nofun
      dsimp only
      split <;> exact hc
  | some channelId =>
      cases htargeted : isTargetedMembershipUpdate socket event with
      | false =>
          refine iff_of_true ?_ (fun _ => rfl)
          dsimp only
          rw [if_neg Bool.false_ne_true]
          split
          · exact hc
          · split <;> exact hc
      | true =>
          cases hread : canRead event.newRole with
          | true => exact iff_of_true hc (fun _ => rfl)
          | false =>
              refine mem_discard.trans ?_
              simp [hc, eq_comm]

theorem mem_settleAuthorization {now : Int} {task : Forwarding} {answer : Option Nat}
    (hc : c ∈ socket.subscriptions) :
    c ∈ (settleAuthorization now socket task answer).1.subscriptions
      ↔ (answer = none -> task.channelId ≠ c) := by
  cases answer with
  | none =>
      have hdiscard : (settleAuthorization now socket task none).1.subscriptions
          = (socket.discard task.channelId).subscriptions := by
        unfold settleAuthorization
        dsimp only
        split <;> rfl
      rw [hdiscard, mem_discard]
      simp [hc, eq_comm]
  | some current =>
      refine iff_of_true ?_ nofun
      unfold settleAuthorization
      dsimp only
      split
      · exact hc
      · split <;> exact hc

section

variable {s s' : RealtimeState}

theorem subscriptions_of_get (h : s.sockets.get w = some socket) :
    s.subscriptions w = socket.subscriptions := by
  rw [RealtimeState.subscriptions, h]
  rfl

theorem forward_subscriptions (s : RealtimeState) (crypt : Decryption) (ttl now : Int)
    (w' row : Nat) (socket : Socket) (event : RealtimeEvent) :
    exists socket', (s.forward crypt ttl now w' row socket event).sockets
        = s.sockets.set w' (some socket') ∧
      socket'.subscriptions = (forwardEvent ttl now socket event).1.subscriptions := by
  unfold RealtimeState.forward
  split
  case h_1 socket' heq => exact ⟨socket', rfl, by rw [heq]⟩
  case h_2 socket' heq => exact ⟨socket', send_sockets _ _ _, by rw [heq]⟩
  case h_3 socket' channelId heq => exact ⟨_, rfl, by rw [heq]; rfl⟩

theorem settle_subscriptions (s : RealtimeState) (crypt : Decryption) (now : Int) (w' : Nat)
    (socket : Socket) (task : Forwarding) (answer : Option Nat) :
    exists socket', (s.settle crypt now w' socket task answer).sockets
        = s.sockets.set w' (some socket') ∧
      socket'.subscriptions
        = (settleAuthorization now (socket.setForwarding none) task answer).1.subscriptions := by
  unfold RealtimeState.settle
  split
  case h_1 socket' heq => exact ⟨socket', send_sockets _ _ _, by rw [heq]⟩
  case h_2 socket' heq => exact ⟨socket', rfl, by rw [heq]⟩

/-- One socket is replaced. -/
theorem subscribed_of_set {P : Prop} (hsockets : s'.sockets = s.sockets.set w' (some socket'))
    (hget : s.sockets.get w' = some socket)
    (hkept : c ∈ socket.subscriptions -> (c ∈ socket'.subscriptions ↔ P))
    (hc : c ∈ s.subscriptions w) : c ∈ s'.subscriptions w ↔ (w' = w -> P) := by
  by_cases hw : w' = w
  · subst hw
    rw [subscriptions_of_get hget] at hc
    have hget' : s'.sockets.get w' = some socket' := by
      rw [hsockets, Table.get_set_self]
    rw [subscriptions_of_get hget', hkept hc]
    exact ⟨fun h _ => h, fun h => h rfl⟩
  · refine iff_of_true ?_ (fun heq => absurd heq hw)
    rw [RealtimeState.subscriptions, hsockets, Table.get_set_ne _ (Ne.symm hw)]
    exact hc

theorem subscribed_of_same (hsockets : s'.sockets = s.sockets.set w' (some socket'))
    (hget : s.sockets.get w' = some socket)
    (hsame : socket'.subscriptions = socket.subscriptions) (hc : c ∈ s.subscriptions w) :
    c ∈ s'.subscriptions w := by
  have hkept : c ∈ socket.subscriptions -> (c ∈ socket'.subscriptions ↔ True) := by
    intro hmem
    rw [hsame]
    exact iff_true_intro hmem
  exact (subscribed_of_set hsockets hget hkept hc).mpr (fun _ => trivial)

/-- A step of the server keeps the subscription exactly when the condition holds. -/
theorem RealtimeStep.keeps {label : RealtimeLabel} (h : RealtimeStep crypt ttl s label s')
    (hc : c ∈ s.subscriptions w) : c ∈ s'.subscriptions w ↔ s.Keeps w c label := by
  cases h with
  | channel | announce => exact iff_of_true hc trivial
  | connect w' userId hget =>
      refine iff_of_true ?_ trivial
      have hw : w ≠ w' := by
        intro heq
        subst heq
        rw [RealtimeState.subscriptions, hget] at hc
        exact absurd hc List.not_mem_nil
      rw [RealtimeState.subscriptions, RealtimeState.setSocket, Table.get_set_ne _ hw]
      exact hc
  | subscribe wanted hget => exact iff_of_true (subscribed_of_same rfl hget rfl hc) trivial
  | readStates hget => exact iff_of_true (subscribed_of_same rfl hget rfl hc) trivial
  | readGeneration hget => exact iff_of_true (subscribed_of_same rfl hget rfl hc) trivial
  | @grant w' socket command states now hget hcommand hstates =>
      refine (subscribed_of_set rfl hget (fun _ => Iff.rfl) hc).trans ?_
      constructor
      · rintro hgranted rfl socket' command' states' hget' hcommand' hstates'
        cases hget.symm.trans hget'
        cases hcommand.symm.trans hcommand'
        cases hstates.symm.trans hstates'
        exact hgranted rfl
      · rintro hkeeps rfl
        exact hkeeps rfl socket command states hget hcommand hstates
  | unsubscribe channelIds hget =>
      refine subscribed_of_set rfl hget (fun hc => ?_) hc
      exact mem_unsubscribe.trans (and_iff_right hc)
  | @deliver w' row socket record now hget hrow =>
      rcases forward_subscriptions s crypt ttl now w' row socket record.payload.event
        with ⟨socket', hsockets, hsubs⟩
      have hkept (hc : c ∈ socket.subscriptions) : c ∈ socket'.subscriptions
          ↔ (record.payload.event.channelId = some c ->
            isOwnRemoval socket record.payload.event = false) := by
        rw [hsubs]
        exact mem_forwardEvent hc
      refine (subscribed_of_set hsockets hget hkept hc).trans ?_
      constructor
      · rintro hkept rfl socket'' record' hget' hrow'
        cases hget.symm.trans hget'
        cases hrow.symm.trans hrow'
        exact hkept rfl
      · rintro hkeeps rfl
        exact hkeeps rfl socket record hget hrow
  | @settle w' socket task answer now hget htask hanswer =>
      rcases settle_subscriptions s crypt now w' socket task answer
        with ⟨socket', hsockets, hsubs⟩
      have hkept (hc : c ∈ socket.subscriptions) : c ∈ socket'.subscriptions
          ↔ (answer = none -> task.channelId ≠ c) := by
        rw [hsubs]
        exact mem_settleAuthorization hc
      refine (subscribed_of_set hsockets hget hkept hc).trans ?_
      constructor
      · rintro hfound rfl socket'' task' hget' htask' hanswer'
        cases hget.symm.trans hget'
        cases htask.symm.trans htask'
        exact hfound rfl (Option.some.inj (hanswer.symm.trans hanswer'))
      · rintro hkeeps rfl hnone
        exact hkeeps rfl socket task hget htask (hnone ▸ hanswer)
  | disconnect w' =>
      constructor
      · rintro hmem rfl
        rw [RealtimeState.subscriptions, RealtimeState.setSocket, Table.get_set_self] at hmem
        exact absurd hmem List.not_mem_nil
      · intro hw
        rw [RealtimeState.subscriptions, RealtimeState.setSocket, Table.get_set_ne _ (Ne.symm hw)]
        exact hc

end

/-!
# Runs
-/

/--
The step does not end the subscription: a `subscribe` command that is granted names the channel
and has found the user in it, an `unsubscribe` command does not name it, a removal that is sent
to the user is about another channel, and so is a check that found no membership.
-/
def SubscriptionState.Keeps (s : SubscriptionState) (w : Nat) (c : Uuid) :
    SubscriptionLabel -> Prop
  | SubscriptionLabel.server label => s.server.Keeps w c label
  | SubscriptionLabel.process accepted _ =>
      accepted = true -> forall channelIds rest,
        s.commands = ClientCommand.unsubscribe channelIds :: rest -> c ∉ channelIds
  | _ => True

section

variable {s s' : SubscriptionState}

end

end

/-!
Alice owns a channel and is subscribed to it.  She joins a channel of Bob; the command that
follows ends the subscription to her own channel.
-/

end MessagingSystem
