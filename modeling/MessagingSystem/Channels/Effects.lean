import MessagingSystem.Channels.Members

/-!
# What a call can do

Every successful call makes at most one change to the channel and membership
tables and then touches the binding states of the pairs the change concerns.
The changes and the rules that admit them are listed once here; every later
invariant is a case analysis over these lists.
-/

namespace MessagingSystem

open Foundation

/-!
# Touching binding states
-/

variable {db db' : Database} {pairs : List (Uuid × Uuid)} {env : Env} {channelId : Uuid}
  {row : Outbox} {userId : Uuid} {mid : Database}

/-- The row announces a generation that its binding state has reached. -/
def Announces (db : Database) (row : Outbox) : Prop :=
  row.type = "broker_binding.reconcile" ∧ exists channelId userId generation state,
    row.payload = OutboxPayload.brokerBinding generation userId channelId ∧
      db.bindingStates.get (channelId, userId) = some state ∧
      generation ≤ state.generation

/-- The state a touched pair gets; it depends on current rows only. -/
def TouchedState (db : Database) (pair : Uuid × Uuid)
    (state : BrokerBindingState) : Prop :=
  exists channel slug, db.channels.get pair.1 = some channel ∧
    normalizeChannelSlug channel.channelSlug = Except.ok slug ∧
    state = nextBindingState (db.bindingStates.get pair)
      (desiredBound db channel pair.1 pair.2) (channelRoutingKey slug)

structure Touched (db db' : Database) (pairs : List (Uuid × Uuid)) : Prop where
  users : db'.users = db.users
  channels : db'.channels = db.channels
  memberships : db'.memberships = db.memberships
  messages : db'.messages = db.messages
  uploads : db'.uploads = db.uploads
  messageAttachments : db'.messageAttachments = db.messageAttachments
  touched : forall pair, pair ∈ pairs ->
    exists state, db'.bindingStates.get pair = some state ∧ TouchedState db pair state
  kept : forall pair, pair ∉ pairs ->
    db'.bindingStates.get pair = db.bindingStates.get pair
  outbox : exists rows, db'.outbox = db.outbox ++ rows ∧
    forall row, row ∈ rows -> Announces db' row

theorem Touched.refl (db : Database) : Touched db db [] where
  users := rfl
  channels := rfl
  memberships := rfl
  messages := rfl
  uploads := rfl
  messageAttachments := rfl
  touched := fun _ h => absurd h List.not_mem_nil
  kept := fun _ _ => rfl
  outbox := ⟨[], (List.append_nil _).symm, fun _ h => absurd h List.not_mem_nil⟩

/-- The audit log is not part of what a touch describes. -/
theorem Touched.logEvent (h : Touched db db' pairs) (record : AuditRecord) :
    Touched db (db'.logEvent record) pairs :=
  { h with }

theorem enqueueBrokerBindingOutbox_touched {action : String}
    (h : enqueueBrokerBindingOutbox env db channelId userId action = Except.ok db') :
    Touched db db' [(channelId, userId)] := by
  simp only [enqueueBrokerBindingOutbox, bind_eq_ok, orFail_eq_ok, pure_eq_ok] at h
  rcases h with ⟨_, _, channel, hchannel, slug, hslug, rfl⟩
  refine ⟨rfl, rfl, rfl, rfl, rfl, rfl, ?_, ?_, ?_⟩
  · intro pair hpair
    rw [List.mem_singleton.mp hpair]
    exact ⟨_, Table.get_set_self _ _ _, channel, slug, hchannel, hslug, rfl⟩
  · intro pair hpair
    exact Table.get_set_ne _ (fun heq => hpair (List.mem_singleton.mpr heq)) _
  · refine ⟨[_], rfl, ?_⟩
    intro row hrow
    rw [List.mem_singleton.mp hrow]
    exact ⟨rfl, channelId, userId, _, _, rfl, Table.get_set_self _ _ _, Nat.le_refl _⟩

theorem desiredBound_congr (h : db'.memberships = db.memberships) (channel : Channel)
    (channelId userId : Uuid) :
    desiredBound db' channel channelId userId =
      desiredBound db channel channelId userId := by
  unfold desiredBound Database.role Database.getMembership
  rw [h]

theorem nextBindingState_generation (before : Option BrokerBindingState)
    (bound : Bool) (key : String) {state : BrokerBindingState}
    (h : before = some state) :
    (nextBindingState before bound key).generation = state.generation + 1 := by
  subst h
  rfl

/-- A touch never moves a state below a generation that was announced. -/
theorem Touched.announces (h : Touched db db' pairs) (hrow : Announces db row) :
    Announces db' row := by
  rcases hrow with ⟨htype, channelId, userId, generation, state, hpayload, hstate, hle⟩
  by_cases hpair : (channelId, userId) ∈ pairs
  · rcases h.touched _ hpair with ⟨state', hstate', channel, slug, _, _, heq⟩
    refine ⟨htype, channelId, userId, generation, state', hpayload, hstate', ?_⟩
    rw [heq, nextBindingState_generation _ _ _ hstate]
    exact Nat.le_succ_of_le hle
  · refine ⟨htype, channelId, userId, generation, state, hpayload, ?_, hle⟩
    exact (h.kept _ hpair).trans hstate

theorem Touched.trans {first second : List (Uuid × Uuid)} (h1 : Touched db mid first)
    (h2 : Touched mid db' second) (hdisjoint : forall pair, pair ∈ first -> pair ∉ second) :
    Touched db db' (first ++ second) where
  users := h2.users.trans h1.users
  channels := h2.channels.trans h1.channels
  memberships := h2.memberships.trans h1.memberships
  messages := h2.messages.trans h1.messages
  uploads := h2.uploads.trans h1.uploads
  messageAttachments := h2.messageAttachments.trans h1.messageAttachments
  touched := by
    intro pair hpair
    by_cases hfirst : pair ∈ first
    · rcases h1.touched pair hfirst with ⟨state, hstate, hnext⟩
      exact ⟨state, (h2.kept pair (hdisjoint pair hfirst)).trans hstate, hnext⟩
    · have hsecond := (List.mem_append.mp hpair).resolve_left hfirst
      rcases h2.touched pair hsecond with
        ⟨state, hstate, channel, slug, hchannel, hslug, heq⟩
      refine ⟨state, hstate, channel, slug, h1.channels ▸ hchannel, hslug, ?_⟩
      rw [heq, h1.kept pair hfirst, desiredBound_congr h1.memberships]
  kept := by
    intro pair hpair
    have hfirst := fun h => hpair (List.mem_append_left second h)
    have hsecond := fun h => hpair (List.mem_append_right first h)
    exact (h2.kept pair hsecond).trans (h1.kept pair hfirst)
  outbox := by
    rcases h1.outbox with ⟨rows1, heq1, hrows1⟩
    rcases h2.outbox with ⟨rows2, heq2, hrows2⟩
    refine ⟨rows1 ++ rows2, by rw [heq2, heq1, List.append_assoc], ?_⟩
    intro row hrow
    rcases List.mem_append.mp hrow with hrow | hrow
    · exact h2.announces (hrows1 row hrow)
    · exact hrows2 row hrow

/-- Touching a duplicate-free list of pairs one after the other. -/
theorem foldlM_touched {action : Database -> Uuid × Uuid -> String} (hnodup : pairs.Nodup)
    (h : pairs.foldlM (fun db pair =>
      enqueueBrokerBindingOutbox env db pair.1 pair.2 (action db pair)) db
        = Except.ok db') : Touched db db' pairs := by
  let I : List (Uuid × Uuid) -> List (Uuid × Uuid) -> Database -> Prop :=
    fun done rest mid => Touched db mid done ∧ (done ++ rest).Nodup
  have hstep : forall done pair rest mid mid', I done (pair :: rest) mid ->
      enqueueBrokerBindingOutbox env mid pair.1 pair.2 (action mid pair)
        = Except.ok mid' -> I (done ++ [pair]) rest mid' := by
    rintro done pair rest mid mid' ⟨htouched, hnd⟩ hok
    constructor
    · refine htouched.trans (enqueueBrokerBindingOutbox_touched hok) ?_
      intro p hp hsingle
      rw [List.mem_singleton.mp hsingle] at hp
      exact (List.nodup_append.mp hnd).2.2 pair hp pair List.mem_cons_self rfl
    · rwa [List.append_assoc]
  exact (foldlM_invariant hstep ⟨Touched.refl db, hnodup⟩ h).1

theorem approvedMembers_nodup (db : Database) (channelId : Uuid) :
    (db.approvedMembers channelId).Nodup := by
  unfold Database.approvedMembers
  rw [(List.perm_insertionSort _ _).nodup_iff]
  refine List.pairwise_filterMap.mpr ((Table.rows_pairwise db.memberships).imp ?_)
  intro a b hne user huser user' huser' heq
  split at huser
  · split at huser'
    · rename_i ha hb
      exact hne (Prod.ext (ha.1.trans hb.1.symm)
        (Option.some.inj (huser.trans (heq ▸ huser'.symm))))
    · cases huser'
  · cases huser

theorem enqueueMemberBindings_touched {action : String}
    (h : enqueueMemberBindings env db channelId action = Except.ok db') :
    Touched db db' ((db.approvedMembers channelId).map (fun u => (channelId, u))) := by
  refine @foldlM_touched db db' _ env (fun _ _ => action) ?_ ?_
  · refine (approvedMembers_nodup db channelId).map ?_
    intro u u' heq
    exact congrArg Prod.snd heq
  · rw [List.foldlM_map]
    exact h

/-!
# Rules

A rule says which operation may give a pair which membership row, and what the
operation has checked.
-/

inductive Rule (env : Env) (db : Database) (c u : Uuid) :
    Call -> Option ChannelMembership -> Prop where
  | join (token : Option String) (row : ChannelMembership)
      (hnew : db.getMembership c u = none)
      (hrole : row.role = MembershipRole.member ∨ row.role = MembershipRole.pending) :
      Rule env db c u (Call.joinChannel c u token) (some row)
  | accept (token : String) (inviteId : Uuid) (invite : ChannelInvite)
      (row : ChannelMembership)
      (hvalid : validateInvite env db c token u = Except.ok (inviteId, invite))
      (hgeneric : invite.isGeneric = true -> ¬db.Approved c u)
      (hrole : row.role = MembershipRole.member) :
      Rule env db c u (Call.acceptInvite token u) (some row)
  | approve (a : Uuid) (actor target row : ChannelMembership)
      (hactor : db.getMembership c a = some actor)
      (htarget : db.getMembership c u = some target)
      (hcan : canApprove (some actor.role) actor.adminPermissions = true)
      (hpending : target.role = MembershipRole.pending)
      (hrole : row.role = MembershipRole.member) :
      Rule env db c u (Call.approveMember c a u) (some row)
  | add (a : Uuid) (row : ChannelMembership)
      (hcan : (membershipPermissions (db.getMembership c a)).canManageMembers = true)
      (hrole : row.role = MembershipRole.member) :
      Rule env db c u (Call.addMemberDirect c a u) (some row)
  | promote (a : Uuid) (actor target row : ChannelMembership)
      (hactor : db.getMembership c a = some actor)
      (htarget : db.getMembership c u = some target)
      (hcan : canPromote (some actor.role) (some target.role) = true)
      (hrole : row.role = MembershipRole.admin) :
      Rule env db c u (Call.promoteMember c a u) (some row)
  | demote (a : Uuid) (actor target row : ChannelMembership)
      (hactor : db.getMembership c a = some actor)
      (htarget : db.getMembership c u = some target)
      (hcan : canDemote (some actor.role) (some target.role) = true)
      (hrole : row.role = MembershipRole.member) :
      Rule env db c u (Call.demoteMember c a u) (some row)
  | permissions (a : Uuid) (req : AdminPermissionsUpdateRequest)
      (actor target row : ChannelMembership)
      (hactor : db.getMembership c a = some actor)
      (htarget : db.getMembership c u = some target)
      (howner : actor.role = MembershipRole.owner)
      (hadmin : target.role = MembershipRole.admin)
      (hrole : row.role = MembershipRole.admin) :
      Rule env db c u (Call.updateAdminPermissions c a u req) (some row)
  | remove (a : Uuid) (actor target : ChannelMembership)
      (hactor : db.getMembership c a = some actor)
      (htarget : db.getMembership c u = some target)
      (hmanage : (membershipPermissions (some actor)).canManageMembers = true)
      (hcan : canRemove (some actor.role) (some target.role) = true) :
      Rule env db c u (Call.removeMember c a u) none
  | leave (membership : ChannelMembership)
      (hmember : db.getMembership c u = some membership)
      (hrole : membership.role ≠ MembershipRole.owner) :
      Rule env db c u (Call.leaveChannel c u) none

/-!
# Changes
-/

def OutboxPayload.Notice : OutboxPayload -> Prop
  | message _ _ => False
  | brokerBinding _ _ _ => False
  | _ => True

/-- An event row that is neither a message nor a binding announcement. -/
def IsNotice (row : Outbox) : Prop :=
  row.type ≠ "message" ∧ row.payload.Notice

/-- What no change of a channel or membership row affects. -/
structure Frame (db mid : Database) : Prop where
  users : mid.users = db.users
  messages : mid.messages = db.messages
  uploads : mid.uploads = db.uploads
  messageAttachments : mid.messageAttachments = db.messageAttachments
  bindingStates : mid.bindingStates = db.bindingStates
  outbox : exists rows, mid.outbox = db.outbox ++ rows ∧
    forall row, row ∈ rows -> IsNotice row

def Channel.bumped (channel : Channel) : Channel :=
  { channel with membershipGeneration := channel.membershipGeneration + 1 }

inductive Change (env : Env) (db mid : Database) : Call -> List (Uuid × Uuid) -> Prop where
  | quiet (call : Call) (pairs : List (Uuid × Uuid))
      (hchannels : mid.channels = db.channels)
      (hmemberships : mid.memberships = db.memberships) :
      Change env db mid call pairs
  | created (c : Uuid) (owner : Uuid) (req : ChannelCreateRequest)
      (channel : Channel) (row : ChannelMembership)
      (hfresh : db.channels.get c = none)
      (hchannels : mid.channels = db.channels.set c (some channel))
      (hmemberships : mid.memberships = db.memberships.set (c, owner) (some row))
      (howner : channel.ownerUserId = owner)
      (hlive : channel.deletedAt = none)
      (htext : IsSlugText channel.channelSlug)
      (hslug : channel.channelSlug ∉ db.slugs)
      (hrole : row.role = MembershipRole.owner)
      (hseq : channel.lastSeqId = 0) :
      Change env db mid (Call.createChannel owner req) [(c, owner)]
  | member (call : Call) (c u : Uuid) (channel : Channel)
      (row : Option ChannelMembership)
      (hchannel : db.channels.get c = some channel)
      (hlive : channel.deletedAt = none)
      (hchannels : mid.channels = db.channels.set c (some channel.bumped))
      (hmemberships : mid.memberships = db.memberships.set (c, u) row)
      (hrule : Rule env db c u call row) :
      Change env db mid call [(c, u)]
  | edited (c a : Uuid) (req : ChannelPatchRequest) (channel : Channel)
      (pairs : List (Uuid × Uuid))
      (hchannel : db.channels.get c = some channel)
      (hlive : channel.deletedAt = none)
      (hchannels : mid.channels = db.channels.set c (some (req.patch channel)))
      (hmemberships : mid.memberships = db.memberships)
      (hunique : forall c' channel', c' ≠ c -> db.channels.get c' = some channel' ->
        channel'.channelSlug ≠ (req.patch channel).channelSlug)
      (hpairs : (pairs = [] ∧
          channel.channelSlug = (req.patch channel).channelSlug) ∨
        pairs = (db.approvedMembers c).map (fun u => (c, u))) :
      Change env db mid (Call.updateChannel c a req) pairs
  | switched (call : Call) (c : Uuid) (channel : Channel) (deletedAt : Option Instant)
      (hchannel : db.channels.get c = some channel)
      (hswitch : channel.deletedAt.isSome = !deletedAt.isSome)
      (hchannels : mid.channels =
        db.channels.set c
          (some { channel with deletedAt := deletedAt : Channel }.bumped))
      (hmemberships : mid.memberships = db.memberships) :
      Change env db mid call ((db.approvedMembers c).map (fun u => (c, u)))

/-- A successful call: one framed change, then touches of binding states. -/
structure CallEffect (env : Env) (call : Call) (db db' : Database) : Prop where
  exists_change : exists mid pairs,
    Frame db mid ∧ Change env db mid call pairs ∧ Touched mid db' pairs

theorem Frame.refl (db : Database) : Frame db db :=
  ⟨rfl, rfl, rfl, rfl, rfl, [], (List.append_nil _).symm, fun _ h => absurd h List.not_mem_nil⟩

theorem Frame.trans (h1 : Frame db mid) (h2 : Frame mid db') : Frame db db' := by
  rcases h1.outbox with ⟨rows1, heq1, hrows1⟩
  rcases h2.outbox with ⟨rows2, heq2, hrows2⟩
  refine ⟨h2.users.trans h1.users, h2.messages.trans h1.messages,
    h2.uploads.trans h1.uploads, h2.messageAttachments.trans h1.messageAttachments,
    h2.bindingStates.trans h1.bindingStates, rows1 ++ rows2, ?_, ?_⟩
  · rw [heq2, heq1, List.append_assoc]
  · intro row hrow
    exact (List.mem_append.mp hrow).elim (hrows1 row) (hrows2 row)

/-- The outbox rows of a channel call are notices and announcements. -/
theorem Frame.outbox_of_touched (hframe : Frame db mid) (htouched : Touched mid db' pairs) :
    exists rows, db'.outbox = db.outbox ++ rows ∧
      forall row, row ∈ rows -> IsNotice row ∨ Announces db' row := by
  rcases hframe.outbox with ⟨notices, hnotices, hisNotice⟩
  rcases htouched.outbox with ⟨announced, hannounced, hannounces⟩
  refine ⟨notices ++ announced, ?_, ?_⟩
  · rw [hannounced, hnotices, List.append_assoc]
  · intro row hrow
    exact (List.mem_append.mp hrow).imp (hisNotice row) (hannounces row)

theorem payload_ne_message (h : IsNotice row ∨ Announces db row) (payload : MessagePayload)
    (generation : Nat) : row.payload ≠ OutboxPayload.message payload generation := by
  intro hpayload
  rcases h with ⟨_, hnotice⟩ | ⟨_, _, _, _, _, hbinding, _⟩
  · rw [hpayload] at hnotice
    exact hnotice
  · rw [hpayload] at hbinding
    cases hbinding

theorem Frame.enqueue (db : Database) (h : IsNotice row) : Frame db (db.enqueue row) :=
  ⟨rfl, rfl, rfl, rfl, rfl, [row], rfl, fun r hr => by rwa [List.mem_singleton.mp hr]⟩

theorem Frame.setChannel (db : Database) (c : Uuid) (channel : Channel) :
    Frame db (db.setChannel c channel) :=
  ⟨rfl, rfl, rfl, rfl, rfl, (Frame.refl db).outbox⟩

theorem Frame.setMembership (db : Database) (c u : Uuid)
    (row : Option ChannelMembership) : Frame db (db.setMembership c u row) :=
  ⟨rfl, rfl, rfl, rfl, rfl, (Frame.refl db).outbox⟩

/-!
# Events and generation bumps
-/

variable {eventType : String} {payload : Nat -> OutboxPayload} {aggregateId : Uuid}

theorem enqueueChannelEventOutbox_ok
    (h : enqueueChannelEventOutbox env db aggregateId channelId eventType payload
      = Except.ok db') :
    exists row generation, db' = db.enqueue row ∧ row.type = eventType ∧
      row.payload = payload generation := by
  simp only [enqueueChannelEventOutbox, bind_eq_ok, pure_eq_ok] at h
  rcases h with ⟨state, _, rfl⟩
  exact ⟨_, state.2, rfl, rfl, rfl⟩

theorem enqueueUserEventOutbox_ok
    (h : enqueueUserEventOutbox env db aggregateId channelId userId eventType payload
      = Except.ok db') :
    exists row generation, db' = db.enqueue row ∧ row.type = eventType ∧
      row.payload = payload generation := by
  simp only [enqueueUserEventOutbox, bind_eq_ok, pure_eq_ok] at h
  rcases h with ⟨_, _, state, _, rfl⟩
  exact ⟨_, state.2, rfl, rfl, rfl⟩

theorem isNotice_of_event {generation : Nat}
    (h : row.type = eventType ∧ row.payload = payload generation) (htype : eventType ≠ "message")
    (hpayload : forall g, (payload g).Notice) : IsNotice row := by
  unfold IsNotice
  rw [h.1, h.2]
  exact ⟨htype, hpayload generation⟩

theorem bumpChannelMembershipGeneration_ok
    (h : bumpChannelMembershipGeneration db channelId = Except.ok db') :
    exists channel, db.channels.get channelId = some channel ∧
      db' = db.setChannel channelId channel.bumped := by
  simp only [bumpChannelMembershipGeneration, bind_eq_ok, orFail_eq_ok, pure_eq_ok] at h
  rcases h with ⟨channel, hchannel, rfl⟩
  exact ⟨channel, hchannel, rfl⟩

theorem announceMembership_ok {c u a : Uuid} {role : Option MembershipRole} {reason : String}
    {payload : Json} (h : announceMembership env db c u a role reason eventType payload
      = Except.ok db') :
    exists channel mid, db.channels.get c = some channel ∧ Frame db mid ∧
      mid.channels = db.channels.set c (some channel.bumped) ∧
      mid.memberships = db.memberships ∧ Touched mid db' [(c, u)] := by
  simp only [announceMembership, enqueueMembershipUpdate, bind_eq_ok, pure_eq_ok] at h
  rcases h with ⟨touched, ⟨bumped, hbump, told, htold, target, htarget, htouch⟩, rfl⟩
  rcases bumpChannelMembershipGeneration_ok hbump with ⟨channel, hchannel, rfl⟩
  rcases enqueueChannelEventOutbox_ok htold with ⟨row1, g1, rfl, hrow1⟩
  rcases enqueueUserEventOutbox_ok htarget with ⟨row2, g2, rfl, hrow2⟩
  have hnotice1 := isNotice_of_event hrow1 (by decide) (fun _ => trivial)
  have hnotice2 := isNotice_of_event hrow2 (by decide) (fun _ => trivial)
  have hbumped := Frame.setChannel db c channel.bumped
  refine ⟨channel, _, hchannel,
    (hbumped.trans (Frame.enqueue _ hnotice1)).trans (Frame.enqueue _ hnotice2), rfl, rfl, ?_⟩
  exact (enqueueBrokerBindingOutbox_touched htouch).logEvent _

end MessagingSystem
