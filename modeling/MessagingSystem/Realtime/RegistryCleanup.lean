import MessagingSystem.Realtime.Registry

/-!
# No socket is left behind

Each phase of a connection allows what the dictionaries may hold about its socket.  A connection
that is cancelled in its handshake, or while it cleans up, ends without emptying them, and so
does a close that marks a socket at the wrong time.  In every other run an ended connection has
left nothing.
-/

namespace MessagingSystem

open Foundation

/-!
# Phases
-/

namespace SocketPhase

variable {phase : SocketPhase}

/-- The socket counts for the quota of its user. -/
def hasSlot : SocketPhase -> Bool
  | handshake _ | hello | running | stopping | heartbeat => true
  | lock | cleanup _ | refusal | leaving => false

/-- The user, the presence id and the controls of the socket are known. -/
def isKnown : SocketPhase -> Bool
  | handshake _ | cleanup _ | hello | running | stopping | heartbeat => true
  | lock | refusal | leaving => false

/-- The session and the subscriptions of the socket are known. -/
def isEnrolled : SocketPhase -> Bool
  | hello | running | stopping | heartbeat => true
  | lock | handshake _ | cleanup _ | refusal | leaving => false

theorem isKnown_of_hasSlot (h : phase.hasSlot = true) : phase.isKnown = true := by
  cases phase <;> first | rfl | cases h

theorem hasSlot_of_isEnrolled (h : phase.isEnrolled = true) : phase.hasSlot = true := by
  cases phase <;> first | rfl | cases h

theorem isEnrolled_of_isOpen (h : RegistryState.isOpen phase = true) : phase.isEnrolled = true := by
  cases phase <;> first | rfl | cases h

end SocketPhase

/-!
# What the registry holds about a socket
-/

namespace Registry

def Knows (r : Registry) (w : Nat) : Prop :=
  (r.socketUsers.get w).isSome = true ∨ (r.presenceConnectionIds.get w).isSome = true ∨
    (r.socketWorkBudgets.get w).isSome = true ∨ (r.commandLocks.get w).isSome = true

def Serves (r : Registry) (w : Nat) : Prop :=
  (r.socketSessions.get w).isSome = true ∨ (r.subscriptions.get w).isSome = true ∨
    (r.subscriptionGenerations.get w).isSome = true ∨
    (r.subscriptionCheckedAt.get w).isSome = true ∨
    (r.lastSubscribeHistoryRequests.get w).isSome = true

/-- Nothing is held about the socket. -/
structure Clear (r : Registry) (w : Nat) : Prop where
  slot : forall u, w ∉ r.connections.members u
  known : ¬ r.Knows w
  served : ¬ r.Serves w
  session : forall sid, w ∉ r.sessionConnections.members sid
  heartbeat : r.presenceHeartbeatTasks.get w = none
  marked : w ∉ r.closingSockets

theorem clear_empty (w : Nat) : Registry.empty.Clear w where
  slot u hu := by cases hu
  known h := by simp [Knows, Registry.empty] at h
  served h := by simp [Serves, Registry.empty] at h
  session sid hsid := by cases hsid
  heartbeat := rfl
  marked h := by cases h

/-- Both registries hold the same about the socket. -/
structure SameAt (r r' : Registry) (w : Nat) : Prop where
  slot : forall u, w ∈ r'.connections.members u ↔ w ∈ r.connections.members u
  known : r'.Knows w ↔ r.Knows w
  served : r'.Serves w ↔ r.Serves w
  session : forall sid, w ∈ r'.sessionConnections.members sid
    ↔ w ∈ r.sessionConnections.members sid
  socketSession : r'.socketSessions.get w = r.socketSessions.get w
  heartbeat : r'.presenceHeartbeatTasks.get w = r.presenceHeartbeatTasks.get w
  marked : w ∈ r'.closingSockets ↔ w ∈ r.closingSockets

theorem SameAt.refl (r : Registry) (w : Nat) : SameAt r r w :=
  ⟨fun _ => Iff.rfl, Iff.rfl, Iff.rfl, fun _ => Iff.rfl, rfl, rfl, Iff.rfl⟩

theorem SameAt.trans {r r' r'' : Registry} {w : Nat} (h : SameAt r r' w)
    (h' : SameAt r' r'' w) : SameAt r r'' w where
  slot u := (h'.slot u).trans (h.slot u)
  known := h'.known.trans h.known
  served := h'.served.trans h.served
  session sid := (h'.session sid).trans (h.session sid)
  socketSession := h'.socketSession.trans h.socketSession
  heartbeat := h'.heartbeat.trans h.heartbeat
  marked := h'.marked.trans h.marked

/-!
# Other sockets

Whatever is done for one socket changes nothing about another one.
-/

section

variable {r : Registry} {w other : Nat}

section

variable (hne : other ≠ w)
include hne

theorem sameAt_reserve (userId : Uuid) (username connectionId : String) :
    SameAt r (r.reserve w userId username connectionId) other := by
  have hslot : forall u, other ∈ (r.connections.add userId w).members u ↔
      other ∈ r.connections.members u := by
    intro u
    rw [Buckets.mem_add]
    exact or_iff_right (fun h => hne h.2)
  refine ⟨hslot, ?_, Iff.rfl, fun _ => Iff.rfl, rfl, rfl, Iff.rfl⟩
  simp [Knows, reserve, initializeSocketControls, Table.get_set_ne _ hne]

theorem sameAt_enroll (sessionId : Uuid) (states : List (Uuid × Nat))
    (now : Int) : SameAt r (r.enroll w sessionId states now) other := by
  have hsession : forall sid, other ∈ (r.sessionConnections.add sessionId w).members sid ↔
      other ∈ r.sessionConnections.members sid := by
    intro sid
    rw [Buckets.mem_add]
    exact or_iff_right (fun h => hne h.2)
  refine ⟨fun _ => Iff.rfl, Iff.rfl, ?_, hsession, Table.get_set_ne _ hne _, rfl, Iff.rfl⟩
  simp [Serves, enroll, Table.get_set_ne _ hne]

theorem sameAt_releaseSlot (userId : Uuid) :
    SameAt r (r.releaseSlot w userId) other := by
  refine ⟨?_, Iff.rfl, Iff.rfl, fun _ => Iff.rfl, rfl, rfl, Iff.rfl⟩
  intro u
  refine Buckets.mem_discard.trans (and_iff_left ?_)
  exact fun h => hne h.2

theorem sameAt_forgetHandshake : SameAt r (r.forgetHandshake w) other := by
  refine ⟨fun _ => Iff.rfl, ?_, ?_, fun _ => Iff.rfl, rfl, rfl, Iff.rfl⟩
  · simp [Knows, forgetHandshake, cleanupSocketControls, Table.get_set_ne _ hne]
  · simp [Serves, forgetHandshake, cleanupSocketControls, Table.get_set_ne _ hne]

theorem sameAt_mark :
    SameAt r { r with closingSockets := insert w r.closingSockets } other := by
  refine ⟨fun _ => Iff.rfl, Iff.rfl, Iff.rfl, fun _ => Iff.rfl, rfl, rfl, ?_⟩
  simp [hne]

theorem sameAt_setHeartbeat (task : Option Unit) :
    SameAt r (r.setHeartbeat w task) other :=
  ⟨fun _ => Iff.rfl, Iff.rfl, Iff.rfl, fun _ => Iff.rfl, rfl, Table.get_set_ne _ hne _, Iff.rfl⟩

theorem mem_leaveSession {sid : Uuid} :
    other ∈ (r.leaveSession w).sessionConnections.members sid
      ↔ other ∈ r.sessionConnections.members sid := by
  unfold leaveSession
  dsimp only
  split
  · refine Buckets.mem_discard.trans (and_iff_left ?_)
    exact fun h => hne h.2
  · rfl

theorem sameAt_forgetSocket : SameAt r (r.forgetSocket w) other := by
  refine ⟨?_, ?_, ?_, ?_, Table.get_set_ne _ hne _, rfl, ?_⟩
  · intro u
    exact Buckets.mem_discardAll.trans (and_iff_left hne)
  · simp [Knows, forgetSocket, leaveSession, cleanupSocketControls, Table.get_set_ne _ hne]
  · simp [Serves, forgetSocket, leaveSession, cleanupSocketControls, Table.get_set_ne _ hne]
  · intro sid
    exact mem_leaveSession hne
  · show other ∈ r.closingSockets.erase w ↔ _
    rw [Finset.mem_erase]
    exact and_iff_right hne

theorem sameAt_removeChannels (channelIds : List Uuid) :
    SameAt r (r.removeChannels w channelIds) other := by
  refine ⟨fun _ => Iff.rfl, Iff.rfl, ?_, fun _ => Iff.rfl, rfl, rfl, Iff.rfl⟩
  simp [Serves, removeChannels, Table.get_update, hne]

theorem sameAt_act (activity : SocketActivity) :
    SameAt r (r.act w activity) other := by
  cases activity with
  | controls =>
      unfold act socketControls
      dsimp only
      split
      · exact SameAt.refl r other
      · refine ⟨fun _ => Iff.rfl, ?_, Iff.rfl, fun _ => Iff.rfl, rfl, rfl, Iff.rfl⟩
        simp [Knows, initializeSocketControls, Table.get_set_ne _ hne]
  | subscribe granted now signature =>
      refine ⟨fun _ => Iff.rfl, Iff.rfl, ?_, fun _ => Iff.rfl, rfl, rfl, Iff.rfl⟩
      simp [Serves, act, Table.get_set_ne _ hne]
  | unsubscribe channelIds =>
      refine (sameAt_removeChannels hne channelIds).trans ?_
      refine ⟨fun _ => Iff.rfl, Iff.rfl, ?_, fun _ => Iff.rfl, rfl, rfl, Iff.rfl⟩
      simp [Serves, act, Table.get_set_ne _ hne]
  | drop channelId =>
      refine (sameAt_removeChannels hne [channelId]).trans ?_
      refine ⟨fun _ => Iff.rfl, Iff.rfl, ?_, fun _ => Iff.rfl, rfl, rfl, Iff.rfl⟩
      simp [Serves, act, Table.get_set_ne _ hne]
  | authorize channelId generation =>
      refine ⟨?_, ?_, ?_, ?_, ?_, ?_, ?_⟩ <;>
        cases generation <;> simp [Knows, Serves, act, Table.get_set_ne _ hne]

end

end

/-- The loops of a socket leave the connections and the sessions alone. -/
theorem act_frame (r : Registry) (w : Nat) (activity : SocketActivity) :
    (r.act w activity).connections = r.connections ∧
      (r.act w activity).sessionConnections = r.sessionConnections ∧
      (r.act w activity).socketSessions = r.socketSessions := by
  cases activity with
  | controls =>
      unfold act socketControls
      dsimp only
      split <;> exact ⟨rfl, rfl, rfl⟩
  | subscribe | unsubscribe | drop => exact ⟨rfl, rfl, rfl⟩
  | authorize channelId generation => cases generation <;> exact ⟨rfl, rfl, rfl⟩

end Registry

/-!
# The invariant of a socket
-/

structure TracesOk (r : Registry) (w : Nat) (task : Option SocketTask) : Prop where
  slot : forall u, w ∈ r.connections.members u ->
    exists t, task = some t ∧ t.userId = u ∧ t.phase.hasSlot = true
  known : r.Knows w -> exists t, task = some t ∧ t.phase.isKnown = true
  served : r.Serves w -> exists t, task = some t ∧ t.phase.isEnrolled = true
  session : forall sid, w ∈ r.sessionConnections.members sid ->
    r.socketSessions.get w = some sid
  heartbeat : (r.presenceHeartbeatTasks.get w).isSome = true ->
    exists t, task = some t ∧ RegistryState.isOpen t.phase = true
  marked : w ∈ r.closingSockets -> exists t, task = some t ∧ t.phase.hasSlot = true

section

variable {r r' : Registry} {w : Nat} {task : SocketTask} {phase : SocketPhase}

theorem TracesOk.sameAt {task : Option SocketTask} (h : TracesOk r w task)
    (hsame : Registry.SameAt r r' w) : TracesOk r' w task where
  slot u hu := h.slot u ((hsame.slot u).mp hu)
  known hk := h.known (hsame.known.mp hk)
  served hs := h.served (hsame.served.mp hs)
  session sid hsid := by
    rw [hsame.socketSession]
    exact h.session sid ((hsame.session sid).mp hsid)
  heartbeat hb := h.heartbeat (by rwa [hsame.heartbeat] at hb)
  marked hm := h.marked (hsame.marked.mp hm)

theorem Registry.Clear.tracesOk (h : r.Clear w) (task : Option SocketTask) :
    TracesOk r w task where
  slot u hu := absurd hu (h.slot u)
  known hk := absurd hk h.known
  served hs := absurd hs h.served
  session sid hsid := absurd hsid (h.session sid)
  heartbeat hb := by
    rw [h.heartbeat] at hb
    cases hb
  marked hm := absurd hm h.marked

theorem TracesOk.not_served {task : Option SocketTask} (h : TracesOk r w task)
    (hphase : forall t, task = some t -> t.phase.isEnrolled = false) :
    ¬ r.Serves w ∧ (forall sid, w ∉ r.sessionConnections.members sid) ∧
      r.presenceHeartbeatTasks.get w = none := by
  have hserved : ¬ r.Serves w := by
    intro hs
    rcases h.served hs with ⟨t, htask, henrolled⟩
    rw [hphase t htask] at henrolled
    cases henrolled
  refine ⟨hserved, ?_, ?_⟩
  · intro sid hsid
    apply hserved
    left
    rw [h.session sid hsid]
    rfl
  · refine Option.not_isSome_iff_eq_none.mp ?_
    intro hb
    rcases h.heartbeat hb with ⟨t, htask, hopen⟩
    have henrolled := SocketPhase.isEnrolled_of_isOpen hopen
    rw [hphase t htask] at henrolled
    cases henrolled

theorem TracesOk.clear {task : Option SocketTask} (h : TracesOk r w task)
    (hphase : forall t, task = some t -> t.phase.isKnown = false) : r.Clear w := by
  have hslot : forall t, task = some t -> t.phase.hasSlot = true -> False := by
    intro t htask hslot
    have hknown := SocketPhase.isKnown_of_hasSlot hslot
    rw [hphase t htask] at hknown
    cases hknown
  have henrolled : forall t, task = some t -> t.phase.isEnrolled = false := by
    intro t htask
    rw [← Bool.not_eq_true]
    exact fun henrolled => hslot t htask (SocketPhase.hasSlot_of_isEnrolled henrolled)
  rcases h.not_served henrolled with ⟨hserved, hsession, hheartbeat⟩
  refine ⟨?_, ?_, hserved, hsession, hheartbeat, ?_⟩
  · intro u hu
    rcases h.slot u hu with ⟨t, htask, _, hphase'⟩
    exact hslot t htask hphase'
  · intro hk
    rcases h.known hk with ⟨t, htask, hknown⟩
    rw [hphase t htask] at hknown
    cases hknown
  · intro hm
    rcases h.marked hm with ⟨t, htask, hphase'⟩
    exact hslot t htask hphase'

/-- The task goes to a phase that allows at least as much. -/
theorem TracesOk.setPhase (h : TracesOk r w (some task))
    (hslot : task.phase.hasSlot = true -> phase.hasSlot = true)
    (hknown : task.phase.isKnown = true -> phase.isKnown = true)
    (henrolled : task.phase.isEnrolled = true -> phase.isEnrolled = true)
    (hopen : RegistryState.isOpen task.phase = true -> RegistryState.isOpen phase = true) :
    TracesOk r w (some { task with phase := phase }) where
  slot u hu := by
    rcases h.slot u hu with ⟨t, htask, huser, hphase⟩
    cases htask
    exact ⟨_, rfl, huser, hslot hphase⟩
  known hk := by
    rcases h.known hk with ⟨t, htask, hphase⟩
    cases htask
    exact ⟨_, rfl, hknown hphase⟩
  served hs := by
    rcases h.served hs with ⟨t, htask, hphase⟩
    cases htask
    exact ⟨_, rfl, henrolled hphase⟩
  session := h.session
  heartbeat hb := by
    rcases h.heartbeat hb with ⟨t, htask, hphase⟩
    cases htask
    exact ⟨_, rfl, hopen hphase⟩
  marked hm := by
    rcases h.marked hm with ⟨t, htask, hphase⟩
    cases htask
    exact ⟨_, rfl, hslot hphase⟩

/-!
# What a connection does to its own socket
-/

theorem TracesOk.reserve (h : r.Clear w) (connectionId : String) {wait : HandshakeWait} :
    TracesOk (r.reserve w task.userId task.username connectionId) w
      (some { task with phase := SocketPhase.handshake wait }) where
  slot u hu := by
    rcases Buckets.mem_add.mp hu with ⟨huser, _⟩ | hold
    · exact ⟨_, rfl, huser.symm, rfl⟩
    · exact absurd hold (h.slot u)
  known _ := ⟨_, rfl, rfl⟩
  served hs := absurd hs h.served
  session sid hsid := absurd hsid (h.session sid)
  heartbeat hb := by
    have hnone : ((r.reserve w task.userId task.username connectionId).presenceHeartbeatTasks.get
        w) = none := h.heartbeat
    rw [hnone] at hb
    cases hb
  marked _ := ⟨_, rfl, rfl⟩

section

variable (h : TracesOk r w (some task))
include h

theorem TracesOk.enroll
    (hphase : task.phase = SocketPhase.handshake HandshakeWait.states)
    (states : List (Uuid × Nat)) (now : Int) :
    TracesOk (r.enroll w task.sessionId states now) w
      (some { task with phase := SocketPhase.hello }) where
  slot u hu := by
    rcases h.slot u hu with ⟨t, htask, huser, _⟩
    cases htask
    exact ⟨_, rfl, huser, rfl⟩
  known _ := ⟨_, rfl, rfl⟩
  served _ := ⟨_, rfl, rfl⟩
  session sid hsid := by
    have hbefore := (h.not_served (by
      intro t htask
      cases htask
      rw [hphase]
      rfl)).2.1
    rcases Buckets.mem_add.mp hsid with ⟨heq, _⟩ | hold
    · rw [heq]
      exact Table.get_set_self _ _ _
    · exact absurd hold (hbefore sid)
  heartbeat hb := by
    rcases h.heartbeat hb with ⟨t, htask, hopen⟩
    cases htask
    rw [hphase] at hopen
    cases hopen
  marked _ := ⟨_, rfl, rfl⟩

theorem TracesOk.releaseSlot {wait : HandshakeWait}
    (hphase : task.phase = SocketPhase.handshake wait) (hmarked : w ∉ r.closingSockets)
    (refused : Bool) :
    TracesOk (r.releaseSlot w task.userId) w
      (some { task with phase := SocketPhase.cleanup refused }) where
  slot u hu := by
    rcases Buckets.mem_discard.mp hu with ⟨hold, hnot⟩
    rcases h.slot u hold with ⟨t, htask, huser, _⟩
    cases htask
    exact absurd ⟨huser.symm, rfl⟩ hnot
  known _ := ⟨_, rfl, rfl⟩
  served hs := by
    refine absurd hs (h.not_served ?_).1
    intro t htask
    cases htask
    rw [hphase]
    rfl
  session := h.session
  heartbeat hb := by
    rcases h.heartbeat hb with ⟨t, htask, hopen⟩
    cases htask
    rw [hphase] at hopen
    cases hopen
  marked hm := absurd hm hmarked

theorem TracesOk.forgetHandshake {refused : Bool}
    (hphase : task.phase = SocketPhase.cleanup refused) : (r.forgetHandshake w).Clear w := by
  have henrolled : forall t, some task = some t -> t.phase.isEnrolled = false := by
    intro t htask
    cases htask
    rw [hphase]
    rfl
  have hslot : forall t, some task = some t -> t.phase.hasSlot = true -> False := by
    intro t htask hslot
    cases htask
    rw [hphase] at hslot
    cases hslot
  rcases h.not_served henrolled with ⟨hserved, hsession, hheartbeat⟩
  refine ⟨?_, ?_, ?_, hsession, hheartbeat, ?_⟩
  · intro u hu
    rcases h.slot u hu with ⟨t, htask, _, hphase'⟩
    exact hslot t htask hphase'
  · simp [Registry.Knows, Registry.forgetHandshake, Registry.cleanupSocketControls]
  · intro hs
    apply hserved
    unfold Registry.Serves at hs ⊢
    simp only [Registry.forgetHandshake, Registry.cleanupSocketControls, Table.get_set_self] at hs
    tauto
  · intro hm
    rcases h.marked hm with ⟨t, htask, hphase'⟩
    exact hslot t htask hphase'

theorem TracesOk.startHeartbeat :
    TracesOk (r.setHeartbeat w (some ())) w
      (some { task with phase := SocketPhase.running }) := by
  have hmoved : TracesOk r w (some { task with phase := SocketPhase.running }) :=
    h.setPhase (fun _ => rfl) (fun _ => rfl) (fun _ => rfl) (fun _ => rfl)
  exact ⟨hmoved.slot, hmoved.known, hmoved.served, hmoved.session, fun _ => ⟨_, rfl, rfl⟩,
    hmoved.marked⟩

theorem TracesOk.stopHeartbeat (phase : SocketPhase)
    (hslot : task.phase.hasSlot = true -> phase.hasSlot = true)
    (hknown : task.phase.isKnown = true -> phase.isKnown = true)
    (henrolled : task.phase.isEnrolled = true -> phase.isEnrolled = true) :
    TracesOk (r.setHeartbeat w none) w (some { task with phase := phase }) := by
  have hnone : (r.setHeartbeat w none).presenceHeartbeatTasks.get w = none :=
    Table.get_set_self _ _ _
  refine ⟨?_, ?_, ?_, h.session, ?_, ?_⟩
  · intro u hu
    rcases h.slot u hu with ⟨t, htask, huser, hphase⟩
    cases htask
    exact ⟨_, rfl, huser, hslot hphase⟩
  · intro hk
    rcases h.known hk with ⟨t, htask, hphase⟩
    cases htask
    exact ⟨_, rfl, hknown hphase⟩
  · intro hs
    rcases h.served hs with ⟨t, htask, hphase⟩
    cases htask
    exact ⟨_, rfl, henrolled hphase⟩
  · intro hb
    rw [hnone] at hb
    cases hb
  · intro hm
    rcases h.marked hm with ⟨t, htask, hphase⟩
    cases htask
    exact ⟨_, rfl, hslot hphase⟩

end

theorem TracesOk.forgetSocket {task : Option SocketTask} (h : TracesOk r w task)
    (hheartbeat : r.presenceHeartbeatTasks.get w = none) : (r.forgetSocket w).Clear w := by
  refine ⟨?_, ?_, ?_, ?_, hheartbeat, ?_⟩
  · intro u hu
    exact (Buckets.mem_discardAll.mp hu).2 rfl
  · simp [Registry.Knows, Registry.forgetSocket, Registry.leaveSession,
      Registry.cleanupSocketControls]
  · simp [Registry.Serves, Registry.forgetSocket, Registry.leaveSession,
      Registry.cleanupSocketControls]
  · intro sid hsid
    have hleft : w ∈ (r.leaveSession w).sessionConnections.members sid := hsid
    unfold Registry.leaveSession at hleft
    dsimp only at hleft
    split at hleft
    case h_1 sid' hget =>
      rcases Buckets.mem_discard.mp hleft with ⟨hold, hnot⟩
      have hsame := h.session sid hold
      rw [hget] at hsame
      cases hsame
      exact hnot ⟨rfl, rfl⟩
    case h_2 hget =>
      have hsame := h.session sid hleft
      rw [hget] at hsame
      cases hsame
  · exact Finset.notMem_erase w r.closingSockets

theorem TracesOk.mark {task : Option SocketTask} (h : TracesOk r w task)
    (hslot : exists u, w ∈ r.connections.members u) :
    TracesOk { r with closingSockets := insert w r.closingSockets } w task where
  slot := h.slot
  known := h.known
  served := h.served
  session := h.session
  heartbeat := h.heartbeat
  marked _ := by
    rcases hslot with ⟨u, hu⟩
    rcases h.slot u hu with ⟨t, htask, _, hphase⟩
    exact ⟨t, htask, hphase⟩

/-- An open socket may write what its loops write. -/
theorem TracesOk.act (h : TracesOk r w (some task))
    (hopen : RegistryState.isOpen task.phase = true) (activity : Registry.SocketActivity) :
    TracesOk (r.act w activity) w (some task) := by
  have henrolled := SocketPhase.isEnrolled_of_isOpen hopen
  have hslot := SocketPhase.hasSlot_of_isEnrolled henrolled
  have hknown := SocketPhase.isKnown_of_hasSlot hslot
  rcases Registry.act_frame r w activity with ⟨hconnections, hsessions, hsocketSessions⟩
  refine ⟨?_, fun _ => ⟨task, rfl, hknown⟩, fun _ => ⟨task, rfl, henrolled⟩, ?_,
    fun _ => ⟨task, rfl, hopen⟩, fun _ => ⟨task, rfl, hslot⟩⟩
  · rw [hconnections]
    exact h.slot
  · rw [hsessions, hsocketSessions]
    exact h.session

end

end MessagingSystem
