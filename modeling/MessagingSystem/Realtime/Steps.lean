import MessagingSystem.Realtime.Access

/-!
# Steps of the realtime system

`RealtimeStep` says what a step can do.  The lemmas after it say what the steps do to
the database, to a socket and to what has been sent.
-/

namespace MessagingSystem

open Foundation

variable {s s' : RealtimeState} {crypt : Decryption}

inductive RealtimeStep (crypt : Decryption) (ttl : Int) (s : RealtimeState) :
    RealtimeLabel -> RealtimeState -> Prop where
  | channel {action : ChannelAction} {db' : Database} (htracks : TracksAccess s.db db')
      (hnotices : AddsNotices s.db db') :
      RealtimeStep crypt ttl s (RealtimeLabel.channel action) { s with db := db' }
  | announce {env : Env} {id : Uuid} {row : Outbox} {payload : MessagePayload} {g : Nat}
      (hpayload : row.payload = OutboxPayload.message payload g)
      (hgeneration : s.db.generation payload.channelId = some g) :
      RealtimeStep crypt ttl s (RealtimeLabel.announce env id payload)
        { s with db := s.db.enqueue row }
  | connect (w : Nat) (u : Uuid) (hget : s.sockets.get w = none) :
      RealtimeStep crypt ttl s (RealtimeLabel.connect w u)
        (s.setSocket w (some (Socket.opened u)))
  | subscribe {w : Nat} {socket : Socket} (wanted : List Uuid)
      (hget : s.sockets.get w = some socket) :
      RealtimeStep crypt ttl s (RealtimeLabel.subscribe w wanted) (s.setSocket w (some
        (socket.setCommand (some { wanted := some wanted, states := none }))))
  | readStates {w : Nat} {socket : Socket} {command : Command}
      (hget : s.sockets.get w = some socket) :
      RealtimeStep crypt ttl s (RealtimeLabel.readStates w) (s.setSocket w (some
        (socket.setCommand (some
          { command with states := some (memberChannelStates s.db socket.userId) }))))
  | grant {w : Nat} {socket : Socket} {command : Command} {states : List (Uuid × Nat)}
      (now : Int) (hget : s.sockets.get w = some socket)
      (hcommand : socket.command = some command) (hstates : command.states = some states) :
      RealtimeStep crypt ttl s (RealtimeLabel.grant w now) (s.setSocket w (some
        (socket.grant now (grantedStates command.wanted states))))
  | unsubscribe {w : Nat} {socket : Socket} (channelIds : List Uuid)
      (hget : s.sockets.get w = some socket) :
      RealtimeStep crypt ttl s (RealtimeLabel.unsubscribe w channelIds)
        (s.setSocket w (some (socket.unsubscribe channelIds)))
  | deliver {w row : Nat} {socket : Socket} {rec : Outbox} (now : Int)
      (hget : s.sockets.get w = some socket) (hrow : s.db.outbox[row]? = some rec) :
      RealtimeStep crypt ttl s (RealtimeLabel.deliver w row now)
        (s.forward crypt ttl now w row socket rec.payload.event)
  | readGeneration {w : Nat} {socket : Socket} {task : Forwarding}
      (hget : s.sockets.get w = some socket) (htask : socket.forwarding = some task) :
      RealtimeStep crypt ttl s (RealtimeLabel.readGeneration w) (s.setSocket w (some
        (socket.setForwarding (some
          { task with answer := some (currentGeneration s.db socket.userId task.channelId) }))))
  | settle {w : Nat} {socket : Socket} {task : Forwarding} {answer : Option Nat} (now : Int)
      (hget : s.sockets.get w = some socket) (htask : socket.forwarding = some task)
      (hanswer : task.answer = some answer) :
      RealtimeStep crypt ttl s (RealtimeLabel.settle w now)
        (s.settle crypt now w socket task answer)
  | disconnect (w : Nat) :
      RealtimeStep crypt ttl s (RealtimeLabel.disconnect w) (s.setSocket w none)

theorem RealtimeState.commit_eq_some {result : Except Failure Database}
    (h : s.commit result = some s') :
    exists db', result = Except.ok db' ∧ s' = { s with db := db' } := by
  cases result with
  | error e => cases h
  | ok db' =>
      cases h
      exact ⟨db', rfl, rfl⟩

theorem realtimeStep_of_next {ttl : Int} {label : RealtimeLabel}
    (h : s.next crypt ttl label = some s') : RealtimeStep crypt ttl s label s' := by
  cases label with
  | channel action =>
      rcases RealtimeState.commit_eq_some h with ⟨db', hrun, heq⟩
      subst heq
      have htracks := ChannelAction.tracksAccess hrun
      exact RealtimeStep.channel htracks.1 htracks.2
  | announce env messageId payload =>
      rcases RealtimeState.commit_eq_some h with ⟨db', hrun, heq⟩
      subst heq
      cases henqueue : enqueueMessageOutbox env s.db messageId payload.channelId payload with
      | error e =>
          rw [henqueue] at hrun
          cases hrun
      | ok row =>
          rw [henqueue] at hrun
          cases hrun
          rcases enqueueMessageOutbox_spec henqueue with ⟨g, hpayload, hgeneration⟩
          exact RealtimeStep.announce hpayload hgeneration
  | connect w u =>
      simp only [RealtimeState.next] at h
      split at h
      · rename_i hget
        cases h
        exact RealtimeStep.connect w u hget
      · cases h
  | subscribe w wanted =>
      simp only [RealtimeState.next] at h
      split at h
      · rename_i socket hget
        split at h
        · cases h
          exact RealtimeStep.subscribe wanted hget
        · cases h
      · cases h
  | readStates w =>
      simp only [RealtimeState.next, Option.bind_eq_bind, Option.bind_eq_some_iff] at h
      rcases h with ⟨socket, hget, command, _, hif⟩
      split at hif
      · cases hif
        exact RealtimeStep.readStates hget
      · cases hif
  | grant w now =>
      simp only [RealtimeState.next, Option.bind_eq_bind, Option.bind_eq_some_iff] at h
      rcases h with ⟨socket, hget, command, hcommand, states, hstates, heq⟩
      cases heq
      exact RealtimeStep.grant now hget hcommand hstates
  | unsubscribe w channelIds =>
      simp only [RealtimeState.next] at h
      split at h
      · rename_i socket hget
        split at h
        · cases h
          exact RealtimeStep.unsubscribe channelIds hget
        · cases h
      · cases h
  | deliver w row now =>
      simp only [RealtimeState.next, Option.bind_eq_bind, Option.bind_eq_some_iff] at h
      rcases h with ⟨socket, hget, rec, hrow, hif⟩
      split at hif
      · cases hif
        exact RealtimeStep.deliver now hget hrow
      · cases hif
  | readGeneration w =>
      simp only [RealtimeState.next, Option.bind_eq_bind, Option.bind_eq_some_iff] at h
      rcases h with ⟨socket, hget, task, htask, hif⟩
      split at hif
      · cases hif
        exact RealtimeStep.readGeneration hget htask
      · cases hif
  | settle w now =>
      simp only [RealtimeState.next, Option.bind_eq_bind, Option.bind_eq_some_iff] at h
      rcases h with ⟨socket, hget, task, htask, answer, hanswer, heq⟩
      cases heq
      exact RealtimeStep.settle now hget htask hanswer
  | disconnect w =>
      cases h
      exact RealtimeStep.disconnect w

/-!
# The database along an execution
-/

/-- Access is tracked and outbox rows stay where they are. -/
def Database.Later (db db' : Database) : Prop :=
  TracksAccess db db' ∧ exists rows, db'.outbox = db.outbox ++ rows

theorem Database.Later.refl (db : Database) : db.Later db :=
  ⟨TracksAccess.refl db, [], (List.append_nil _).symm⟩

theorem Database.Later.trans {a b d : Database} (h1 : a.Later b) (h2 : b.Later d) :
    a.Later d := by
  rcases h1.2 with ⟨rows1, hrows1⟩
  rcases h2.2 with ⟨rows2, hrows2⟩
  refine ⟨h1.1.trans h2.1, rows1 ++ rows2, ?_⟩
  rw [hrows2, hrows1, List.append_assoc]

theorem Database.Later.getElem? {db db' : Database} (h : db.Later db') {i : Nat}
    {row : Outbox} (hrow : db.outbox[i]? = some row) : db'.outbox[i]? = some row := by
  rcases h.2 with ⟨rows, hrows⟩
  rw [hrows, List.getElem?_append_left (List.getElem?_eq_some_iff.mp hrow).1]
  exact hrow

theorem Database.Later.length_le {db db' : Database} (h : db.Later db') :
    db.outbox.length ≤ db'.outbox.length := by
  rcases h.2 with ⟨rows, hrows⟩
  rw [hrows, List.length_append]
  exact Nat.le_add_right _ _

theorem send_db (s : RealtimeState) (crypt : Decryption) (u : Uuid) (row : Nat)
    (event : RealtimeEvent) : (s.send crypt u row event).db = s.db := by
  unfold RealtimeState.send
  split <;> rfl

theorem forward_db (s : RealtimeState) (crypt : Decryption) (ttl now : Int) (w row : Nat)
    (socket : Socket) (event : RealtimeEvent) :
    (s.forward crypt ttl now w row socket event).db = s.db := by
  unfold RealtimeState.forward
  split
  · rfl
  · exact send_db _ _ _ _ _
  · rfl

theorem settle_db (s : RealtimeState) (crypt : Decryption) (now : Int) (w : Nat)
    (socket : Socket) (task : Forwarding) (answer : Option Nat) :
    (s.settle crypt now w socket task answer).db = s.db := by
  unfold RealtimeState.settle
  split
  · exact send_db _ _ _ _ _
  · rfl

theorem RealtimeStep.later {ttl : Int} {label : RealtimeLabel}
    (h : RealtimeStep crypt ttl s label s') : s.db.Later s'.db := by
  cases h with
  | channel htracks hnotices =>
      rcases hnotices with ⟨rows, hrows, _⟩
      exact ⟨htracks, rows, hrows⟩
  | announce => exact ⟨TracksAccess.of_same rfl rfl, _, rfl⟩
  | deliver =>
      rw [forward_db]
      exact Database.Later.refl _
  | settle =>
      rw [settle_db]
      exact Database.Later.refl _
  | connect | subscribe | readStates | grant | unsubscribe | readGeneration | disconnect =>
      exact Database.Later.refl _

theorem decryptEventPayload_spec {event event' : RealtimeEvent}
    (h : decryptEventPayload crypt event = Except.ok event') :
    event'.carriesMessage = event.carriesMessage ∧ event'.channelId = event.channelId := by
  unfold decryptEventPayload at h
  split at h
  · split at h
    · cases h
    · rw [bind_eq_ok] at h
      rcases h with ⟨m, _, heq⟩
      cases heq
      exact ⟨rfl, rfl⟩
  · cases h
    exact ⟨rfl, rfl⟩

/-!
# What a step adds
-/

section

variable {crypt : Decryption} {ttl : Int} {s s' : RealtimeState}

/-- A message row is an old one, or it carries the generation the channel has now. -/
theorem RealtimeStep.message_row {label : RealtimeLabel}
    (h : RealtimeStep crypt ttl s label s') {i g : Nat} {rec : Outbox}
    {payload : MessagePayload} (hrec : s'.db.outbox[i]? = some rec)
    (hpayload : rec.payload = OutboxPayload.message payload g) :
    s.db.outbox[i]? = some rec ∨ s'.db.generation payload.channelId = some g := by
  have hsplit : forall rows, s'.db.outbox = s.db.outbox ++ rows ->
      s.db.outbox[i]? = some rec ∨ rec ∈ rows := by
    intro rows hrows
    rw [hrows, List.getElem?_append] at hrec
    split at hrec
    · exact Or.inl hrec
    · exact Or.inr (List.mem_of_getElem? hrec)
  cases h with
  | channel htracks hnotices =>
      rcases hnotices with ⟨rows, hrows, hnone⟩
      rcases hsplit rows hrows with hold | hnew
      · exact Or.inl hold
      · exact absurd hpayload (hnone rec hnew payload g)
  | announce hstamp hgeneration =>
      rcases hsplit _ rfl with hold | hnew
      · exact Or.inl hold
      · rw [List.mem_singleton.mp hnew, hstamp] at hpayload
        cases hpayload
        exact Or.inr hgeneration
  | deliver =>
      rw [forward_db] at hrec
      exact Or.inl hrec
  | settle =>
      rw [settle_db] at hrec
      exact Or.inl hrec
  | connect | subscribe | readStates | grant | unsubscribe | readGeneration | disconnect =>
      exact Or.inl hrec

theorem mem_send {u : Uuid} {row : Nat} {event : RealtimeEvent} {x : Sent}
    (h : x ∈ (s.send crypt u row event).sent) :
    x ∈ s.sent ∨ (x.userId = u ∧ x.row = row ∧
      decryptEventPayload crypt event = Except.ok x.event) := by
  unfold RealtimeState.send at h
  split at h
  · rename_i event' hevent
    rcases List.mem_append.mp h with h | h
    · exact Or.inl h
    · rw [List.mem_singleton.mp h]
      exact Or.inr ⟨rfl, rfl, hevent⟩
  · exact Or.inl h

theorem send_sockets (u : Uuid) (row : Nat) (event : RealtimeEvent) :
    (s.send crypt u row event).sockets = s.sockets := by
  unfold RealtimeState.send
  split <;> rfl

theorem SocketEdit.userId {socket socket' : Socket} (h : SocketEdit socket socket') :
    socket'.userId = socket.userId := by
  cases h <;> rfl

/-- A delivery edits the socket or leaves it waiting, and sends only on a cached verdict. -/
theorem forward_cases (now : Int) (w row : Nat) (socket : Socket) (event : RealtimeEvent) :
    (exists socket', (s.forward crypt ttl now w row socket event).sockets =
        s.sockets.set w (some socket') ∧
      (SocketEdit socket socket' ∨ exists edited task, SocketEdit socket edited ∧
        socket' = edited.setForwarding (some task) ∧ task.row = row ∧ task.event = event ∧
        event.channelId = some task.channelId ∧ task.answer = none)) ∧
      forall x, x ∈ (s.forward crypt ttl now w row socket event).sent ->
        x ∈ s.sent ∨ (x.userId = socket.userId ∧ x.row = row ∧
          decryptEventPayload crypt event = Except.ok x.event ∧
          Verdict.send.Grounded socket event) := by
  have hspec := forwardEvent_spec ttl now socket event
  unfold RealtimeState.forward
  split
  · rename_i edited heq
    rw [heq] at hspec
    exact ⟨⟨edited, rfl, Or.inl hspec.1⟩, fun x hx => Or.inl hx⟩
  · rename_i edited heq
    rw [heq] at hspec
    refine ⟨⟨edited, send_sockets _ _ _, Or.inl hspec.1⟩, ?_⟩
    intro x hx
    rcases mem_send hx with hold | ⟨hu, hrow, hevent⟩
    · exact Or.inl hold
    · exact Or.inr ⟨hu.trans hspec.1.userId, hrow, hevent, hspec.2⟩
  · rename_i edited c heq
    rw [heq] at hspec
    exact ⟨⟨_, rfl, Or.inr ⟨edited, _, hspec.1, rfl, rfl, rfl, hspec.2, rfl⟩⟩,
      fun x hx => Or.inl hx⟩

/-- The end of a check remembers only what the database answered. -/
theorem settle_cases (now : Int) (w : Nat) (socket : Socket) (task : Forwarding)
    (answer : Option Nat) :
    (exists socket', (s.settle crypt now w socket task answer).sockets =
        s.sockets.set w (some socket') ∧
      (SocketEdit (socket.setForwarding none) socket' ∨ exists g, answer = some g ∧
        socket' = (socket.setForwarding none).remember task.channelId g now)) ∧
      forall x, x ∈ (s.settle crypt now w socket task answer).sent ->
        x ∈ s.sent ∨ (x.userId = socket.userId ∧ x.row = task.row ∧
          decryptEventPayload crypt task.event = Except.ok x.event ∧
          exists g, answer = some g) := by
  unfold RealtimeState.settle
  cases answer with
  | none =>
      have hspec := settleAuthorization_none now (socket.setForwarding none) task
      split
      · rename_i edited heq
        rw [heq] at hspec
        cases hspec.2
      · rename_i edited heq
        rw [heq] at hspec
        exact ⟨⟨edited, rfl, Or.inl hspec.1⟩, fun x hx => Or.inl hx⟩
  | some g =>
      have hspec := settleAuthorization_some now (socket.setForwarding none) task g
      have hedit : forall edited, (SocketEdit (socket.setForwarding none) edited ∨
            edited = (socket.setForwarding none).remember task.channelId g now) ->
          (SocketEdit (socket.setForwarding none) edited ∨ exists g', some g = some g' ∧
            edited = (socket.setForwarding none).remember task.channelId g' now) ∧
            edited.userId = socket.userId := by
        intro edited hcase
        rcases hcase with hedit | heq
        · exact ⟨Or.inl hedit, hedit.userId⟩
        · exact ⟨Or.inr ⟨g, rfl, heq⟩, by rw [heq]; rfl⟩
      split
      · rename_i edited heq
        rw [heq] at hspec
        refine ⟨⟨edited, send_sockets _ _ _, (hedit edited hspec).1⟩, ?_⟩
        intro x hx
        rcases mem_send hx with hold | ⟨hu, hrow, hevent⟩
        · exact Or.inl hold
        · exact Or.inr ⟨hu.trans (hedit edited hspec).2, hrow, hevent, g, rfl⟩
      · rename_i edited heq
        rw [heq] at hspec
        exact ⟨⟨edited, rfl, (hedit edited hspec).1⟩, fun x hx => Or.inl hx⟩

end

end MessagingSystem
