import MessagingSystem.Realtime.Steps

/-!
# Messages reach members only

A socket gets a message only if its user could receive the channel's events at some
moment since the message was put into the outbox.  A cached generation stands for the
moment at which it was read together with the membership; the generation of the event
stands for the moment at which the event was enqueued.
-/

namespace MessagingSystem

open Foundation

variable {n : Nat} {socket : Socket}

/-!
# What the sockets know
-/

section

variable {crypt : Decryption} {ttl : Int}
variable (e : System.Execution (realtimeSystem crypt ttl))

theorem later_of_le {m : Nat} (hmn : m ≤ n) (hn : n ≤ e.length) :
    (e.stateAt m).db.Later (e.stateAt n).db :=
  e.related (R := fun s t => s.db.Later t.db) (fun _ => Database.Later.refl _)
    (fun _ _ _ => Database.Later.trans)
    (fun _ _ _ hstep => (realtimeStep_of_next hstep).later) hmn hn

/-- At some moment the user had access and the channel had the generation. -/
def SeenAccess (n : Nat) (u c : Uuid) (g : Nat) : Prop :=
  exists t, t ≤ n ∧ (e.stateAt t).db.CanReceive c u ∧ (e.stateAt t).db.generation c = some g

/-- At some moment since the row was enqueued the user had access. -/
def AccessSince (n row : Nat) (u c : Uuid) : Prop :=
  exists t, t ≤ n ∧ row < (e.stateAt t).db.outbox.length ∧ (e.stateAt t).db.CanReceive c u

structure TaskOk (n : Nat) (u : Uuid) (task : Forwarding) : Prop where
  event : exists rec, (e.stateAt n).db.outbox[task.row]? = some rec ∧
    task.event = rec.payload.event
  channel : task.event.channelId = some task.channelId
  answer : forall g, task.answer = some (some g) ->
    SeenAccess e n u task.channelId g ∧ AccessSince e n task.row u task.channelId

structure SocketOk (n : Nat) (socket : Socket) : Prop where
  cached : forall c g, socket.generations.get c = some g -> SeenAccess e n socket.userId c g
  granted : forall command states, socket.command = some command ->
    command.states = some states ->
    forall r, r ∈ states -> SeenAccess e n socket.userId r.1 r.2
  task : forall task, socket.forwarding = some task -> TaskOk e n socket.userId task

structure SentOk (n : Nat) (x : Sent) : Prop where
  event : exists rec, (e.stateAt n).db.outbox[x.row]? = some rec ∧
    decryptEventPayload crypt rec.payload.event = Except.ok x.event
  access : x.event.carriesMessage = true ->
    exists c, x.event.channelId = some c ∧ AccessSince e n x.row x.userId c

/-- The generation on a message row was current when the row was enqueued. -/
def RowsOk (n : Nat) : Prop :=
  forall i rec payload g, (e.stateAt n).db.outbox[i]? = some rec ->
    rec.payload = OutboxPayload.message payload g ->
    exists t, t ≤ n ∧ i < (e.stateAt t).db.outbox.length ∧
      (e.stateAt t).db.generation payload.channelId = some g

structure DeliveryOk (n : Nat) : Prop where
  sockets : forall w socket, (e.stateAt n).sockets.get w = some socket -> SocketOk e n socket
  rows : RowsOk e n
  sent : forall x, x ∈ (e.stateAt n).sent -> SentOk e n x

variable {e} {u c : Uuid} {g : Nat}

theorem SeenAccess.succ (h : SeenAccess e n u c g) : SeenAccess e (n + 1) u c g := by
  rcases h with ⟨t, ht, haccess⟩
  exact ⟨t, Nat.le_succ_of_le ht, haccess⟩

theorem AccessSince.succ {row : Nat} (h : AccessSince e n row u c) :
    AccessSince e (n + 1) row u c := by
  rcases h with ⟨t, ht, haccess⟩
  exact ⟨t, Nat.le_succ_of_le ht, haccess⟩

theorem SocketOk.succ (h : SocketOk e n socket)
    (hn : n < e.length) : SocketOk e (n + 1) socket := by
  refine ⟨fun c g hg => (h.cached c g hg).succ,
    fun command states hcommand hstates r hr =>
      (h.granted command states hcommand hstates r hr).succ, ?_⟩
  intro task htask
  rcases h.task task htask with ⟨⟨rec, hrec, hevent⟩, hchannel, hanswer⟩
  refine ⟨⟨rec, (later_of_le e (Nat.le_succ n) hn).getElem? hrec, hevent⟩, hchannel, ?_⟩
  intro g hg
  exact ⟨(hanswer g hg).1.succ, (hanswer g hg).2.succ⟩

theorem SentOk.succ {x : Sent} (h : SentOk e n x) (hn : n < e.length) :
    SentOk e (n + 1) x := by
  rcases h.event with ⟨rec, hrec, hevent⟩
  refine ⟨⟨rec, (later_of_le e (Nat.le_succ n) hn).getElem? hrec, hevent⟩, ?_⟩
  intro hmessage
  rcases h.access hmessage with ⟨c, hc, haccess⟩
  exact ⟨c, hc, haccess.succ⟩

/--
The heart of the cache: an event that is not newer than a cached generation was
enqueued before the generation was read, or under the same generation.
-/
theorem accessSince_of_cached {i : Nat} {rec : Outbox} {g' : Nat} (hn : n ≤ e.length)
    (hrows : RowsOk e n) (hrec : (e.stateAt n).db.outbox[i]? = some rec)
    (hmessage : rec.payload.event.carriesMessage = true)
    (hc : rec.payload.event.channelId = some c)
    (hg : rec.payload.event.membershipGeneration = some g) (hseen : SeenAccess e n u c g')
    (hle : g ≤ g') : AccessSince e n i u c := by
  cases hpayload : rec.payload with
  | message payload stamp =>
      rw [hpayload] at hc hg
      cases hc
      cases hg
      rcases hrows i rec payload g hrec hpayload with ⟨t, ht, hlength, hgeneration⟩
      rcases hseen with ⟨t', ht', haccess, hgeneration'⟩
      rcases Nat.le_total t t' with hbefore | hafter
      · have hlater := later_of_le e hbefore (Nat.le_trans ht' hn)
        exact ⟨t', ht', Nat.lt_of_lt_of_le hlength hlater.length_le, haccess⟩
      · -- The cached read came first, so the generation has not moved since.
        have hlater := later_of_le e hafter (Nat.le_trans ht hn)
        rcases hlater.1 _ g' hgeneration' with ⟨g'', hg'', hge, hsame⟩
        rw [hgeneration] at hg''
        cases hg''
        exact ⟨t, ht, hlength, (hsame (Nat.le_antisymm hle hge) u).mpr haccess⟩
  | brokerBinding | membershipUpdate | channelDeleted | channelRestored | channelUpdated =>
      rw [hpayload] at hmessage
      cases hmessage

/-!
# Changes of one socket
-/

theorem SocketOk.edit {socket socket' : Socket} (h : SocketOk e n socket)
    (hedit : SocketEdit socket socket') : SocketOk e n socket' := by
  cases hedit with
  | same => exact h
  | discard c => exact ⟨h.cached, h.granted, h.task⟩
  | forget c =>
      refine ⟨?_, h.granted, h.task⟩
      intro c' g hg
      change (socket.generations.set c none).get c' = some g at hg
      exact h.cached c' g (Table.get_of_get_set_none hg).2

theorem SocketOk.remember (h : SocketOk e n socket) (hseen : SeenAccess e n socket.userId c g)
    (now : Int) : SocketOk e n (socket.remember c g now) := by
  refine ⟨?_, h.granted, h.task⟩
  intro c' g' hg'
  change (socket.generations.set c (some g)).get c' = some g' at hg'
  rcases Table.get_set_some_cases hg' with ⟨rfl, rfl⟩ | ⟨_, hg'⟩
  · exact hseen
  · exact h.cached c' g' hg'

theorem SocketOk.setForwarding (h : SocketOk e n socket)
    {task : Option Forwarding} (htask : forall t, task = some t -> TaskOk e n socket.userId t) :
    SocketOk e n (socket.setForwarding task) :=
  ⟨h.cached, h.granted, htask⟩

theorem SocketOk.setCommand (h : SocketOk e n socket)
    {command : Command} (hcommand : forall states, command.states = some states ->
      forall r, r ∈ states -> SeenAccess e n socket.userId r.1 r.2) :
    SocketOk e n (socket.setCommand (some command)) := by
  refine ⟨h.cached, ?_, h.task⟩
  intro command' states hsome hstates
  cases hsome
  exact hcommand states hstates

theorem SocketOk.grant (h : SocketOk e n socket) (now : Int)
    {granted : List (Uuid × Nat)}
    (hgranted : forall r, r ∈ granted -> SeenAccess e n socket.userId r.1 r.2) :
    SocketOk e n (socket.grant now granted) := by
  refine ⟨?_, ?_, h.task⟩
  · intro c g hg
    rcases Table.get_foldl_set hg with ⟨r, hr, hc, hgeneration⟩ | hempty
    · rw [hc, hgeneration]
      exact hgranted r hr
    · cases hempty
  · intro command states hnone
    cases hnone

theorem SocketOk.unsubscribe (h : SocketOk e n socket)
    (channelIds : List Uuid) : SocketOk e n (socket.unsubscribe channelIds) := by
  unfold Socket.unsubscribe
  induction channelIds generalizing socket with
  | nil => exact h
  | cons c channelIds ih => exact ih (h.edit (SocketEdit.forget c))

theorem mem_grantedStates {wanted : Option (List Uuid)} {states : List (Uuid × Nat)}
    {r : Uuid × Nat} (h : r ∈ grantedStates wanted states) : r ∈ states := by
  unfold grantedStates at h
  split at h
  · exact h
  · exact (List.mem_filter.mp h).1

end

/-!
# One step
-/

section

variable {crypt : Decryption} {ttl : Int} {e : System.Execution (realtimeSystem crypt ttl)}
variable {n : Nat}

theorem rowsOk_succ (hn : n < e.length) (hok : RowsOk e n) : RowsOk e (n + 1) := by
  intro i rec payload g hrec hpayload
  rcases (realtimeStep_of_next (e.step n hn)).message_row hrec hpayload with hold | hnow
  · rcases hok i rec payload g hold hpayload with ⟨t, ht, hrest⟩
    exact ⟨t, Nat.le_succ_of_le ht, hrest⟩
  · exact ⟨n + 1, Nat.le_refl _, (List.getElem?_eq_some_iff.mp hrec).1, hnow⟩

theorem socketsOk_succ (hn : n < e.length) (hok : DeliveryOk e n) :
    forall w socket, (e.stateAt (n + 1)).sockets.get w = some socket ->
      SocketOk e (n + 1) socket := by
  have hkept : forall w socket, (e.stateAt n).sockets.get w = some socket ->
      SocketOk e (n + 1) socket :=
    fun w socket hget => (hok.sockets w socket hget).succ hn
  have hset : forall w socket', SocketOk e (n + 1) socket' ->
      (e.stateAt (n + 1)).sockets = (e.stateAt n).sockets.set w (some socket') ->
      forall w socket, (e.stateAt (n + 1)).sockets.get w = some socket ->
        SocketOk e (n + 1) socket := by
    intro w socket' hnew hsockets
    rw [hsockets]
    exact Table.forall_get_set_some hkept hnew
  have hstep := realtimeStep_of_next (e.step n hn)
  -- What is read in this step is true of the state before it.
  have hread : forall u c g, (e.stateAt n).db.CanReceive c u ∧
      (e.stateAt n).db.generation c = some g -> SeenAccess e (n + 1) u c g :=
    fun u c g h => ⟨n, Nat.le_succ n, h⟩
  generalize hs' : e.stateAt (n + 1) = s' at hstep hset ⊢
  generalize e.labelAt n = label at hstep
  cases hstep with
  | channel | announce => exact hkept
  | connect w u hget =>
      refine hset w _ ⟨?_, ?_, ?_⟩ rfl
      · intro c g hg
        cases hg
      · intro command states hcommand hstates
        cases hcommand
        cases hstates
      · intro task htask
        cases htask
  | subscribe wanted hget =>
      refine hset _ _ ((hkept _ _ hget).setCommand ?_) rfl
      intro states hstates
      cases hstates
  | readStates hget =>
      refine hset _ _ ((hkept _ _ hget).setCommand ?_) rfl
      intro states hstates r hr
      cases hstates
      exact hread _ _ _ (memberChannelStates_spec hr)
  | grant now hget hcommand hstates =>
      refine hset _ _ ((hkept _ _ hget).grant now ?_) rfl
      intro r hr
      exact (hkept _ _ hget).granted _ _ hcommand hstates r (mem_grantedStates hr)
  | unsubscribe channelIds hget =>
      exact hset _ _ ((hkept _ _ hget).unsubscribe channelIds) rfl
  | @deliver w row socket rec now hget hrow =>
      rcases (forward_cases now w row socket rec.payload.event).1 with ⟨socket', hsockets, hcase⟩
      refine hset w socket' ?_ hsockets
      rcases hcase with hedit | ⟨edited, task, hedit, heq, htaskRow, hevent, hchannel, hanswer⟩
      · exact (hkept _ _ hget).edit hedit
      · rw [heq]
        refine ((hkept _ _ hget).edit hedit).setForwarding ?_
        intro task' hsome
        cases hsome
        refine ⟨⟨rec, ?_, hevent⟩, hevent ▸ hchannel, ?_⟩
        · rw [htaskRow]
          exact (later_of_le e (Nat.le_succ n) hn).getElem? hrow
        · intro g hg
          rw [hanswer] at hg
          cases hg
  | @readGeneration w socket task hget htask =>
      have hsocket := hkept _ _ hget
      have hold := hsocket.task task htask
      refine hset w _ (hsocket.setForwarding ?_) rfl
      intro task' hsome
      cases hsome
      refine ⟨hold.event, hold.channel, ?_⟩
      intro g hg
      have hspec := currentGeneration_spec (Option.some.inj hg)
      refine ⟨hread _ _ _ hspec, n, Nat.le_succ n, ?_, hspec.1⟩
      rcases (hok.sockets _ _ hget).task task htask |>.event with ⟨rec, hrec, _⟩
      exact (List.getElem?_eq_some_iff.mp hrec).1
  | @settle w socket task answer now hget htask hanswer =>
      have hsocket := hkept _ _ hget
      have hcleared : SocketOk e (n + 1) (socket.setForwarding none) := by
        refine hsocket.setForwarding ?_
        intro t hnone
        cases hnone
      rcases (settle_cases now w socket task answer).1 with ⟨socket', hsockets, hcase⟩
      refine hset w socket' ?_ hsockets
      rcases hcase with hedit | ⟨g, hg, heq⟩
      · exact hcleared.edit hedit
      · rw [heq]
        subst hg
        exact hcleared.remember ((hsocket.task task htask).answer g hanswer).1 now
  | disconnect w =>
      exact fun w' socket hget => hkept w' socket (Table.get_of_get_set_none hget).2

/-- What a step sends has been decided on the cache or on an answer of the database. -/
theorem sentOk_succ (hn : n < e.length) (hok : DeliveryOk e n) :
    forall x, x ∈ (e.stateAt (n + 1)).sent -> SentOk e (n + 1) x := by
  have hkept : forall x, x ∈ (e.stateAt n).sent -> SentOk e (n + 1) x :=
    fun x hx => (hok.sent x hx).succ hn
  have hlater := later_of_le e (Nat.le_succ n) hn
  have hstep := realtimeStep_of_next (e.step n hn)
  generalize hs' : e.stateAt (n + 1) = s' at hstep ⊢
  generalize e.labelAt n = label at hstep
  intro x hx
  cases hstep with
  | @deliver w row socket rec now hget hrow =>
      rcases (forward_cases now w row socket rec.payload.event).2 x hx with
        hold | ⟨hu, hxrow, hevent, hgrounded⟩
      · exact hkept x hold
      · have hspec := decryptEventPayload_spec hevent
        refine ⟨⟨rec, by rw [hxrow]; exact hlater.getElem? hrow, hevent⟩, ?_⟩
        intro hmessage
        rw [hspec.1] at hmessage
        rcases hgrounded hmessage with ⟨c, g, g', hc, hg, hcached, hle⟩
        refine ⟨c, hspec.2.trans hc, ?_⟩
        rw [hu, hxrow]
        exact (accessSince_of_cached (Nat.le_of_lt hn) hok.rows hrow hmessage hc hg
          ((hok.sockets _ _ hget).cached c g' hcached) hle).succ
  | @settle w socket task answer now hget htask hanswer =>
      rcases (settle_cases now w socket task answer).2 x hx with
        hold | ⟨hu, hxrow, hevent, g, hg⟩
      · exact hkept x hold
      · have hspec := decryptEventPayload_spec hevent
        have htaskOk := (hok.sockets _ _ hget).task task htask
        rcases htaskOk.event with ⟨rec, hrec, htaskEvent⟩
        subst hg
        refine ⟨⟨rec, by rw [hxrow]; exact hlater.getElem? hrec, htaskEvent ▸ hevent⟩, ?_⟩
        intro _
        refine ⟨task.channelId, hspec.2.trans htaskOk.channel, ?_⟩
        rw [hu, hxrow]
        exact (htaskOk.answer g hanswer).2.succ
  | channel | announce | connect | subscribe | readStates | grant | unsubscribe
  | readGeneration | disconnect => exact hkept x hx

theorem deliveryOk_at (hn : n ≤ e.length) : DeliveryOk e n := by
  refine e.induct ?_ ?_ hn
  · have hstart : e.stateAt 0 = RealtimeState.empty := e.start
    refine ⟨?_, ?_, ?_⟩
    · intro w socket hget
      rw [hstart] at hget
      cases hget
    · intro i rec payload g hrec
      rw [hstart] at hrec
      cases hrec
    · intro x hx
      rw [hstart] at hx
      cases hx
  · intro i hi hok _
    exact ⟨socketsOk_succ hi hok, rowsOk_succ hi hok.rows, sentOk_succ hi hok⟩

end

/-!
# Authorized delivery
-/

theorem sent_messages_are_authorized (crypt : Decryption) (ttl : Int)
    (e : System.Execution (realtimeSystem crypt ttl)) {n : Nat} (hn : n ≤ e.length)
    {x : Sent} (hx : x ∈ (e.stateAt n).sent)
    (hmessage : x.event.type = "message" ∨ x.event.type = "message_updated") :
    (exists row, (e.stateAt n).db.outbox[x.row]? = some row ∧
      decryptEventPayload crypt row.payload.event = Except.ok x.event) ∧
    exists c t, x.event.channelId = some c ∧ t ≤ n ∧
      x.row < (e.stateAt t).db.outbox.length ∧ (e.stateAt t).db.Live c ∧
      (e.stateAt t).db.Approved c x.userId := by
  have hok := (deliveryOk_at hn).sent x hx
  have hcarries : x.event.carriesMessage = true := by
    unfold RealtimeEvent.carriesMessage
    rcases hmessage with h | h <;> rw [h] <;> rfl
  rcases hok.access hcarries with ⟨c, hc, t, ht, hlength, hlive, happroved⟩
  exact ⟨hok.event, c, t, hc, ht, hlength, hlive, happroved⟩

/-- Contents that were never encrypted. -/
def plainContents : Decryption where
  decryptMessage := Except.ok
  decryptJsonPayload := Except.ok

def sampleSnapshot (channelId senderUserId : Uuid) (text : String) : MessageSnapshot where
  id := 900
  channelId := channelId
  senderUserId := senderUserId
  seqId := 1
  contentType := ContentType.text
  contentText := some text
  contentJson := none
  replyToMessageId := none
  replyToSeqId := none
  attachments := none
  isPinned := false
  clientMsgId := none
  createdAt := 0
  updatedAt := 0
  editedAt := none
  deletedAt := none
  senderUsername := none
  senderDisplayName := none
  senderAvatarUrl := none

/-- User 2 joins and connects, user 1 writes, and the socket is served from the cache. -/
def servedFromCache : List RealtimeLabel :=
  [RealtimeLabel.channel (ChannelAction.putUser 1 (sampleUser "alice")),
    RealtimeLabel.channel (ChannelAction.putUser 2 (sampleUser "bob")),
    RealtimeLabel.channel (ChannelAction.call (sampleEnv 100)
      (Call.createChannel 1 (sampleChannelRequest "general"))),
    RealtimeLabel.channel (ChannelAction.call (sampleEnv 200) (Call.joinChannel 100 2 none)),
    RealtimeLabel.connect 0 2, RealtimeLabel.readStates 0, RealtimeLabel.grant 0 5,
    RealtimeLabel.announce (sampleEnv 300) 900
      (MessagePayload.message (sampleSnapshot 100 1 "hello")),
    RealtimeLabel.deliver 0 4 10]

theorem servedFromCache_is_authorized :
    exists e : System.Execution (realtimeSystem plainContents 60), exists x c t,
      x ∈ (e.stateAt e.length).sent ∧ x.userId = 2 ∧ x.event.channelId = some c ∧
        t ≤ e.length ∧ x.row < (e.stateAt t).db.outbox.length ∧
        (e.stateAt t).db.Live c ∧ (e.stateAt t).db.Approved c 2 := by
  have hrun : (servedFromCache.foldlM (RealtimeState.next plainContents 60)
      RealtimeState.empty).map (fun s => s.sent.map (fun x => (x.userId, x.event.type))) =
        some [(2, "message")] := by
    decide +kernel
  rcases Option.map_eq_some_iff.mp hrun with ⟨s, hs, hview⟩
  rcases System.exists_execution_of_run (M := realtimeSystem plainContents 60)
    (fun _ _ _ hstep => hstep) rfl hs (RealtimeLabel.disconnect 0) with ⟨e, _, hend⟩
  rcases List.map_eq_cons_iff.mp hview with ⟨x, rest, hsent, hx, _⟩
  have hmem : x ∈ (e.stateAt e.length).sent := by
    rw [hend, hsent]
    exact List.mem_cons_self
  have huser : x.userId = 2 := congrArg Prod.fst hx
  have htype : x.event.type = "message" := congrArg Prod.snd hx
  rcases sent_messages_are_authorized plainContents 60 e (Nat.le_refl _) hmem (Or.inl htype)
    with ⟨_, c, t, hc, ht, hlength, hlive, happroved⟩
  exact ⟨e, x, c, t, hmem, huser, hc, ht, hlength, hlive, huser ▸ happroved⟩

end MessagingSystem
