import MessagingSystem.Realtime.Manager

/-!
# Access and membership generations

Whoever may receive a channel's events can only change together with the channel's
membership generation.  This module says what one step does to access, to the outbox
and to a socket.
-/

namespace MessagingSystem

open Foundation

variable {db db' : Database} {c u : Uuid}

/-- The user is owner, admin or member of the channel, which is not deleted. -/
def Database.CanReceive (db : Database) (c u : Uuid) : Prop :=
  db.Live c ∧ db.Approved c u

def Database.generation (db : Database) (c : Uuid) : Option Nat :=
  (db.channels.get c).map Channel.membershipGeneration

theorem canReceive_congr (hchannel : db'.channels.get c = db.channels.get c)
    (hrole : db'.role c u = db.role c u) : db'.CanReceive c u ↔ db.CanReceive c u := by
  unfold Database.CanReceive Database.Live Database.Approved
  rw [hchannel, hrole]

theorem canReceive_of_read {channel : Channel} (hget : db.channels.get c = some channel)
    (h : (channel.deletedAt.isNone && canRead (db.role c u)) = true) :
    db.CanReceive c u ∧ db.generation c = some channel.membershipGeneration := by
  rw [Bool.and_eq_true, Option.isNone_iff_eq_none] at h
  refine ⟨⟨⟨channel, hget, h.1⟩, h.2⟩, ?_⟩
  unfold Database.generation
  rw [hget]
  rfl

theorem memberChannelStates_spec {r : Uuid × Nat} (h : r ∈ memberChannelStates db u) :
    db.CanReceive r.1 u ∧ db.generation r.1 = some r.2 := by
  rcases List.mem_filterMap.mp h with ⟨⟨c, channel⟩, hrow, heq⟩
  split at heq
  · rename_i hread
    cases heq
    exact canReceive_of_read (Table.mem_rows.mp hrow) hread
  · cases heq

theorem currentGeneration_spec {g : Nat} (h : currentGeneration db u c = some g) :
    db.CanReceive c u ∧ db.generation c = some g := by
  unfold currentGeneration at h
  split at h
  · rename_i channel hget
    split at h
    · rename_i hread
      cases h
      exact canReceive_of_read hget hread
    · cases h
  · cases h

/-!
# Committed changes
-/

/-- Generations only grow, and an equal generation means the same access. -/
def TracksAccess (db db' : Database) : Prop :=
  forall c g, db.generation c = some g -> exists g', db'.generation c = some g' ∧ g ≤ g' ∧
    (g' = g -> forall u, db'.CanReceive c u ↔ db.CanReceive c u)

theorem TracksAccess.refl (db : Database) : TracksAccess db db :=
  fun _ g hg => ⟨g, hg, Nat.le_refl g, fun _ _ => Iff.rfl⟩

theorem TracksAccess.trans {a b d : Database} (h1 : TracksAccess a b)
    (h2 : TracksAccess b d) : TracksAccess a d := by
  intro c g hg
  rcases h1 c g hg with ⟨g1, hg1, hle1, hsame1⟩
  rcases h2 c g1 hg1 with ⟨g2, hg2, hle2, hsame2⟩
  refine ⟨g2, hg2, Nat.le_trans hle1 hle2, ?_⟩
  intro heq u
  rw [hsame2 (by omega) u, hsame1 (by omega) u]

theorem TracksAccess.of_same (hchannels : db'.channels = db.channels)
    (hmemberships : db'.memberships = db.memberships) : TracksAccess db db' := by
  intro c g hg
  refine ⟨g, ?_, Nat.le_refl g, ?_⟩
  · unfold Database.generation
    rw [hchannels]
    exact hg
  · intro _ u
    exact canReceive_congr (by rw [hchannels]) (role_congr hmemberships c u)

/-- A channel row is replaced and its generation bumped; the rest may be anything. -/
theorem tracksAccess_of_bump {mid : Database} {c0 : Uuid} {channel channel' : Channel}
    (hget : db.channels.get c0 = some channel)
    (hchannels : mid.channels = db.channels.set c0 (some channel'))
    (hbump : channel.membershipGeneration < channel'.membershipGeneration)
    (hroles : forall c u, c ≠ c0 -> mid.role c u = db.role c u) : TracksAccess db mid := by
  intro c g hg
  unfold Database.generation at hg ⊢
  rw [hchannels]
  by_cases hc : c = c0
  · subst hc
    rw [hget] at hg
    cases hg
    rw [Table.get_set_self]
    exact ⟨_, rfl, Nat.le_of_lt hbump, fun heq => absurd heq (Nat.ne_of_gt hbump)⟩
  · rw [Table.get_set_ne _ hc]
    refine ⟨g, hg, Nat.le_refl g, ?_⟩
    intro _ u
    refine canReceive_congr ?_ (hroles c u hc)
    rw [hchannels, Table.get_set_ne _ hc]

theorem Change.tracksAccess {env : Env} {mid : Database} {call : Call}
    {pairs : List (Uuid × Uuid)} (h : Change env db mid call pairs) : TracksAccess db mid := by
  cases h with
  | quiet _ _ hchannels hmemberships => exact TracksAccess.of_same hchannels hmemberships
  | created c0 owner _ channel row hfresh hchannels hmemberships =>
      intro c g hg
      have hc : c ≠ c0 := by
        intro heq
        unfold Database.generation at hg
        rw [heq, hfresh] at hg
        cases hg
      have hget : mid.channels.get c = db.channels.get c := by
        rw [hchannels, Table.get_set_ne _ hc]
      refine ⟨g, ?_, Nat.le_refl g, ?_⟩
      · unfold Database.generation
        rw [hget]
        exact hg
      · intro _ u
        refine canReceive_congr hget ?_
        unfold Database.role
        rw [Database.getMembership_set hmemberships, if_neg (fun hand => hc hand.1)]
  | member _ c0 u0 channel row hchannel _ hchannels hmemberships =>
      refine tracksAccess_of_bump hchannel hchannels (Nat.lt_succ_self _) ?_
      intro c u hc
      unfold Database.role
      rw [Database.getMembership_set hmemberships, if_neg (fun hand => hc hand.1)]
  | edited c0 _ req channel _ hchannel _ hchannels hmemberships =>
      -- An edit keeps generation, deletion and members.
      intro c g hg
      unfold Database.generation at hg ⊢
      rw [hchannels]
      by_cases hc : c = c0
      · subst hc
        rw [hchannel] at hg
        cases hg
        rw [Table.get_set_self]
        refine ⟨_, rfl, Nat.le_refl _, ?_⟩
        intro _ u
        unfold Database.CanReceive Database.Live Database.Approved
        rw [role_congr hmemberships, hchannels, Table.get_set_self, hchannel]
        simp only [Option.some.injEq, exists_eq_left']
        rfl
      · rw [Table.get_set_ne _ hc]
        refine ⟨g, hg, Nat.le_refl g, ?_⟩
        intro _ u
        refine canReceive_congr ?_ (role_congr hmemberships c u)
        rw [hchannels, Table.get_set_ne _ hc]
  | switched _ c0 channel _ hchannel _ hchannels hmemberships =>
      refine tracksAccess_of_bump hchannel hchannels (Nat.lt_succ_self _) ?_
      intro c u _
      exact role_congr hmemberships c u

/-- Rows are only appended, and none of the new ones carries a message. -/
def AddsNotices (db db' : Database) : Prop :=
  exists rows, db'.outbox = db.outbox ++ rows ∧
    forall row, row ∈ rows -> forall payload g, row.payload ≠ OutboxPayload.message payload g

theorem ChannelAction.tracksAccess {action : ChannelAction} (h : action.run db = Except.ok db') :
    TracksAccess db db' ∧ AddsNotices db db' := by
  cases action with
  | putUser userId user =>
      cases h
      exact ⟨TracksAccess.of_same rfl rfl, [], (List.append_nil _).symm,
        fun _ hrow => absurd hrow List.not_mem_nil⟩
  | call env request =>
      rcases (Call.effect h).exists_change with ⟨mid, pairs, hframe, hchange, htouched⟩
      constructor
      · exact hchange.tracksAccess.trans
          (TracksAccess.of_same htouched.channels htouched.memberships)
      · rcases hframe.outbox_of_touched htouched with ⟨rows, houtbox, hrows⟩
        exact ⟨rows, houtbox, fun row hrow => payload_ne_message (hrows row hrow)⟩

theorem enqueueMessageOutbox_spec {env : Env} {messageId channelId : Uuid}
    {payload : MessagePayload} {row : Outbox}
    (h : enqueueMessageOutbox env db messageId channelId payload = Except.ok row) :
    exists g, row.payload = OutboxPayload.message payload g ∧
      db.generation channelId = some g := by
  unfold enqueueMessageOutbox getChannelDeliveryState at h
  simp only [bind_eq_ok, pure_eq_ok, orFail_eq_ok] at h
  rcases h with ⟨state, ⟨channel, hchannel, slug, _, hstate⟩, hrow⟩
  subst hstate hrow
  refine ⟨channel.membershipGeneration, rfl, ?_⟩
  unfold Database.generation
  rw [hchannel]
  rfl

/-!
# Decisions about one event
-/

/-- The only dictionaries a decision changes are those of one channel. -/
inductive SocketEdit (socket : Socket) : Socket -> Prop where
  | same : SocketEdit socket socket
  | discard (c : Uuid) : SocketEdit socket (socket.discard c)
  | forget (c : Uuid) : SocketEdit socket ((socket.discard c).forget c)

theorem carriesMessage_not_targeted {socket : Socket} {event : RealtimeEvent}
    (h : event.carriesMessage = true) : isTargetedMembershipUpdate socket event = false := by
  unfold RealtimeEvent.carriesMessage at h
  unfold isTargetedMembershipUpdate
  rw [Bool.or_eq_true, beq_iff_eq, beq_iff_eq] at h
  rcases h with h | h <;> rw [h] <;> rfl

theorem cacheAllows_spec {ttl now : Int} {socket : Socket} {event : RealtimeEvent}
    (h : cacheAllows ttl now socket c event = true) :
    exists g g', event.membershipGeneration = some g ∧ socket.generations.get c = some g' ∧
      g ≤ g' := by
  unfold cacheAllows at h
  split at h
  · rename_i g g' hevent hcached
    rw [Bool.and_eq_true, decide_eq_true_eq] at h
    exact ⟨g, g', hevent, hcached, h.1⟩
  · cases h

/-- What a verdict without waiting rests on. -/
def Verdict.Grounded (socket : Socket) (event : RealtimeEvent) : Verdict -> Prop
  | drop => True
  | send => event.carriesMessage = true -> exists c g g', event.channelId = some c ∧
      event.membershipGeneration = some g ∧ socket.generations.get c = some g' ∧ g ≤ g'
  | ask c => event.channelId = some c

theorem forwardEvent_spec (ttl now : Int) (socket : Socket) (event : RealtimeEvent) :
    SocketEdit socket (forwardEvent ttl now socket event).1 ∧
      (forwardEvent ttl now socket event).2.Grounded socket event := by
  unfold forwardEvent
  split
  · split
    · exact ⟨SocketEdit.same, trivial⟩
    · rename_i hnot
      exact ⟨SocketEdit.same, fun hmessage => absurd hmessage hnot⟩
  · rename_i c hc
    split
    · rename_i htargeted
      have hsend : Verdict.send.Grounded socket event := by
        intro hmessage
        rw [carriesMessage_not_targeted hmessage] at htargeted
        cases htargeted
      split
      · exact ⟨SocketEdit.same, hsend⟩
      · exact ⟨SocketEdit.forget c, hsend⟩
    · split
      · exact ⟨SocketEdit.same, trivial⟩
      · split
        · rename_i hcache
          rcases cacheAllows_spec hcache with ⟨g, g', hg, hg', hle⟩
          exact ⟨SocketEdit.same, fun _ => ⟨c, g, g', hc, hg, hg', hle⟩⟩
        · exact ⟨SocketEdit.same, hc⟩

theorem settleAuthorization_none (now : Int) (socket : Socket) (task : Forwarding) :
    SocketEdit socket (settleAuthorization now socket task none).1 ∧
      (settleAuthorization now socket task none).2 = false := by
  refine ⟨?_, rfl⟩
  unfold settleAuthorization
  simp only
  split
  · exact SocketEdit.forget task.channelId
  · exact SocketEdit.discard task.channelId

theorem settleAuthorization_some (now : Int) (socket : Socket) (task : Forwarding)
    (current : Nat) :
    SocketEdit socket (settleAuthorization now socket task (some current)).1 ∨
      (settleAuthorization now socket task (some current)).1 =
        socket.remember task.channelId current now := by
  unfold settleAuthorization
  simp only
  split
  · exact Or.inl SocketEdit.same
  · split
    · exact Or.inr rfl
    · exact Or.inl SocketEdit.same

end MessagingSystem
