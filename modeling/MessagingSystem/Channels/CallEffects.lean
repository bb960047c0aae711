import MessagingSystem.Channels.Effects

/-!
# The effect of each call

One inversion lemma per operation, from its definition to the list of changes,
and their union over all calls.
-/

namespace MessagingSystem

open Foundation

variable {env : Env} {db db' : Database} {c a t : Uuid} {call : Call} {result : ChannelMembership}
  {channel : Channel}

/-!
# Membership operations
-/

variable {u : Uuid} {row : ChannelMembership} {eventType : String} {r : Unit}
  {mid stored : Database}

theorem storeMembership_ok (h : storeMembership db c u row = Except.ok db') :
    db' = db.setMembership c u (some row) := by
  simp only [storeMembership, bind_eq_ok, pure_eq_ok] at h
  rcases h with ⟨_, _, rfl⟩
  rfl

theorem getPair_ok {pair : ChannelMembership × ChannelMembership}
    (h : getPair db c a t = Except.ok pair) :
    db.getMembership c a = some pair.1 ∧ db.getMembership c t = some pair.2 := by
  simp only [getPair, bind_eq_ok, orFail_eq_ok, pure_eq_ok] at h
  rcases h with ⟨actor, hactor, target, htarget, rfl⟩
  exact ⟨hactor, htarget⟩

/-- The databases differ in their membership and invite tables only. -/
structure Restated (db stored : Database) : Prop where
  frame : Frame db stored
  channels : stored.channels = db.channels

theorem consumeInvite_restated (db : Database) (found : Uuid × ChannelInvite)
    (now : Instant) : Restated db (consumeInvite db found now) ∧
      (consumeInvite db found now).memberships = db.memberships := by
  unfold consumeInvite
  split
  · exact ⟨⟨Frame.refl db, rfl⟩, rfl⟩
  · exact ⟨⟨⟨rfl, rfl, rfl, rfl, rfl, (Frame.refl db).outbox⟩, rfl⟩, rfl⟩

theorem setMembership_restated (db : Database) (c u : Uuid)
    (row : Option ChannelMembership) : Restated db (db.setMembership c u row) :=
  ⟨Frame.setMembership db c u row, rfl⟩

theorem Restated.trans (h1 : Restated db mid) (h2 : Restated mid db') : Restated db db' :=
  ⟨h1.frame.trans h2.frame, h2.channels.trans h1.channels⟩

/-- The tail that every membership operation shares. -/
theorem member_effect {row : Option ChannelMembership} {role : Option MembershipRole}
    {reason : String} {payload : Json} (hchannel : getChannelForUpdate db c = Except.ok channel)
    (hrule : Rule env db c u call row) (hrestated : Restated db stored)
    (hmemberships : stored.memberships = db.memberships.set (c, u) row)
    (h : announceMembership env stored c u a role reason eventType payload
      = Except.ok db') : CallEffect env call db db' := by
  rcases getChannelForUpdate_eq_ok.mp hchannel with ⟨hget, hlive⟩
  rcases announceMembership_ok h with ⟨found, mid, hfound, hframe, hch, hmem, htouched⟩
  rw [hrestated.channels, hget] at hfound
  cases hfound
  rw [hrestated.channels] at hch
  exact ⟨mid, _, hrestated.frame.trans hframe,
    Change.member call c u channel row hget hlive hch (hmem.trans hmemberships) hrule,
    htouched⟩

theorem changeMember_effect {reason : String} {payload : Json}
    (hchannel : getChannelForUpdate db c = Except.ok channel)
    (hrule : Rule env db c t call (some row))
    (h : changeMember env db c a t row reason eventType payload
      = Except.ok (db', result)) : CallEffect env call db db' := by
  simp only [changeMember, bind_eq_ok, pure_eq_ok] at h
  rcases h with ⟨stored, hstored, told, htold, heq⟩
  cases heq
  rw [storeMembership_ok hstored] at htold
  exact member_effect hchannel hrule (setMembership_restated db c t _) rfl htold

theorem approveMember_effect
    (h : approveMember env db c a t = Except.ok (db', result)) :
    CallEffect env (Call.approveMember c a t) db db' := by
  simp only [approveMember, bind_eq_ok, require_eq_ok, beq_iff_eq] at h
  rcases h with ⟨channel, hchannel, pair, hpair, _, hcan, _, hpending, h⟩
  rcases getPair_ok hpair with ⟨hactor, htarget⟩
  exact changeMember_effect hchannel
    (Rule.approve a pair.1 pair.2 _ hactor htarget hcan hpending rfl) h

theorem admitted_role (existing : Option ChannelMembership) (now : Instant)
    (creator : Uuid) : (admitted existing now creator).role = MembershipRole.member := by
  cases existing <;> rfl

theorem addMemberDirect_effect
    (h : addMemberDirect env db c a t = Except.ok (db', result)) :
    CallEffect env (Call.addMemberDirect c a t) db db' := by
  simp only [addMemberDirect, bind_eq_ok, require_eq_ok] at h
  rcases h with ⟨channel, hchannel, _, hcan, h⟩
  exact changeMember_effect hchannel (Rule.add a _ hcan (admitted_role _ _ _)) h

theorem promoteMember_effect
    (h : promoteMember env db c a t = Except.ok (db', result)) :
    CallEffect env (Call.promoteMember c a t) db db' := by
  simp only [promoteMember, bind_eq_ok, require_eq_ok] at h
  rcases h with ⟨channel, hchannel, pair, hpair, _, hcan, h⟩
  rcases getPair_ok hpair with ⟨hactor, htarget⟩
  exact changeMember_effect hchannel
    (Rule.promote a pair.1 pair.2 _ hactor htarget hcan rfl) h

theorem demoteMember_effect
    (h : demoteMember env db c a t = Except.ok (db', result)) :
    CallEffect env (Call.demoteMember c a t) db db' := by
  simp only [demoteMember, bind_eq_ok, require_eq_ok] at h
  rcases h with ⟨channel, hchannel, pair, hpair, _, hcan, h⟩
  rcases getPair_ok hpair with ⟨hactor, htarget⟩
  exact changeMember_effect hchannel
    (Rule.demote a pair.1 pair.2 _ hactor htarget hcan rfl) h

theorem updateAdminPermissions_effect
    {req : AdminPermissionsUpdateRequest}
    (h : updateAdminPermissions env db c a t req = Except.ok (db', result)) :
    CallEffect env (Call.updateAdminPermissions c a t req) db db' := by
  simp only [updateAdminPermissions, bind_eq_ok, require_eq_ok, beq_iff_eq] at h
  rcases h with ⟨channel, hchannel, pair, hpair, _, howner, _, hadmin, h⟩
  rcases getPair_ok hpair with ⟨hactor, htarget⟩
  refine changeMember_effect hchannel
    (Rule.permissions a req pair.1 pair.2 _ hactor htarget howner hadmin ?_) h
  exact hadmin

theorem removeMember_effect (h : removeMember env db c a t = Except.ok (db', r)) :
    CallEffect env (Call.removeMember c a t) db db' := by
  simp only [removeMember, bind_eq_ok, require_eq_ok, pure_eq_ok] at h
  rcases h with ⟨channel, hchannel, pair, hpair, _, hmanage, _, hcan, told, htold, heq⟩
  cases heq
  rcases getPair_ok hpair with ⟨hactor, htarget⟩
  exact member_effect hchannel
    (Rule.remove a pair.1 pair.2 hactor htarget hmanage hcan)
    (setMembership_restated db c t none) rfl htold

theorem leaveChannel_effect (h : leaveChannel env db c u = Except.ok (db', r)) :
    CallEffect env (Call.leaveChannel c u) db db' := by
  simp only [leaveChannel, bind_eq_ok, require_eq_ok, orFail_eq_ok, pure_eq_ok,
    bne_iff_ne] at h
  rcases h with ⟨channel, hchannel, membership, hmember, _, hrole, told, htold, heq⟩
  cases heq
  exact member_effect hchannel (Rule.leave membership hmember hrole)
    (setMembership_restated db c u none) rfl htold

/-!
# Joining and invites
-/

/-- Nothing that a change describes has moved. -/
theorem quiet_effect (h : Restated db db')
    (hmemberships : db'.memberships = db.memberships) : CallEffect env call db db' :=
  ⟨db', [], h.frame, Change.quiet call [] h.channels hmemberships, Touched.refl db'⟩

theorem enterChannel_effect {status : JoinStatus} {message : String} {outcome : JoinOutcome}
    (hchannel : getChannelForUpdate db c = Except.ok channel)
    (hrule : Rule env db c u call (some row)) (hrestated : Restated db stored)
    (hmemberships : stored.memberships = db.memberships)
    (h : enterChannel env stored c u row status message = Except.ok (db', outcome)) :
    CallEffect env call db db' := by
  simp only [enterChannel, bind_eq_ok, pure_eq_ok] at h
  rcases h with ⟨written, hwritten, told, htold, heq⟩
  cases heq
  rw [storeMembership_ok hwritten] at htold
  refine member_effect hchannel hrule
    (hrestated.trans (setMembership_restated stored c u (some row))) ?_ htold
  exact congrArg (fun m => m.set (c, u) (some row)) hmemberships

theorem joinChannel_effect {token : Option String} {outcome : JoinOutcome}
    (h : joinChannel env db c u token = Except.ok (db', outcome)) :
    CallEffect env (Call.joinChannel c u token) db db' := by
  simp only [joinChannel, bind_eq_ok] at h
  rcases h with ⟨channel, hchannel, h⟩
  have hself : Restated db db := ⟨Frame.refl db, rfl⟩
  split at h
  · cases h
    exact quiet_effect hself rfl
  · rename_i hnew
    split at h
    · split at h
      · cases h
        exact quiet_effect hself rfl
      · rw [bind_eq_ok] at h
        rcases h with ⟨found, _, h⟩
        rcases consumeInvite_restated db found (env.clock 1) with ⟨hrestated, hmem⟩
        exact enterChannel_effect hchannel (Rule.join token _ hnew (Or.inl rfl))
          hrestated hmem h
    · exact enterChannel_effect hchannel (Rule.join token _ hnew (Or.inr rfl))
        hself rfl h
    · exact enterChannel_effect hchannel (Rule.join token _ hnew (Or.inl rfl))
        hself rfl h

theorem setInvite_quiet (db : Database) (inviteId : Uuid)
    (invite : ChannelInvite) (record : AuditRecord) :
    CallEffect env call db ((db.setInvite inviteId invite).logEvent record) :=
  quiet_effect ⟨⟨rfl, rfl, rfl, rfl, rfl, (Frame.refl db).outbox⟩, rfl⟩ rfl

theorem createInvite_effect {req : InviteRequest} {result : Uuid × String}
    (h : createInvite env db c a req = Except.ok (db', result)) :
    CallEffect env (Call.createInvite c a req) db db' := by
  simp only [createInvite, bind_eq_ok, pure_eq_ok] at h
  rcases h with ⟨_, _, _, _, _, _, _, _, _, _, _, _, _, _, _, _, heq⟩
  cases heq
  exact setInvite_quiet db _ _ _

theorem revokeInvite_effect {i : Uuid} {result : ChannelInvite}
    (h : revokeInvite env db c i a = Except.ok (db', result)) :
    CallEffect env (Call.revokeInvite c i a) db db' := by
  simp only [revokeInvite, bind_eq_ok] at h
  rcases h with ⟨_, _, _, _, invite, _, _, _, _, _, h⟩
  split at h
  · cases h
    exact quiet_effect ⟨Frame.refl db, rfl⟩ rfl
  · cases h
    exact setInvite_quiet db _ _ _

theorem acceptInvite_effect {token : String}
    (h : acceptInvite env db token u = Except.ok (db', result)) :
    CallEffect env (Call.acceptInvite token u) db db' := by
  simp only [acceptInvite, bind_eq_ok] at h
  rcases h with ⟨_, _, invited, _, channel, hchannel, found, hfound, h⟩
  split at h
  · cases h
    exact quiet_effect ⟨Frame.refl db, rfl⟩ rfl
  · rename_i hfilter
    simp only [bind_eq_ok, pure_eq_ok] at h
    rcases h with ⟨written, hwritten, told, htold, heq⟩
    cases heq
    rw [storeMembership_ok hwritten] at htold
    rcases consumeInvite_restated
      (db.setMembership invited.2.channelId u
        (some (admitted (db.getMembership invited.2.channelId u) (env.clock 1)
          found.2.createdByUserId))) found (env.clock 2) with ⟨hrestated, hmem⟩
    have hrule : Rule env db invited.2.channelId u (Call.acceptInvite token u)
        (some (admitted (db.getMembership invited.2.channelId u) (env.clock 1)
          found.2.createdByUserId)) := by
      refine Rule.accept token found.1 found.2 _ hfound ?_ (admitted_role _ _ _)
      intro hgeneric happroved
      unfold Database.Approved Database.role at happroved
      cases hget : db.getMembership invited.2.channelId u with
      | none =>
          rw [hget] at happroved
          cases happroved
      | some m =>
          rw [hget] at happroved hfilter
          have hm : m.role.approved = true := happroved
          simp [Option.filter, hgeneric, hm] at hfilter
    exact member_effect hchannel hrule
      ((setMembership_restated db _ u _).trans hrestated) hmem htold

/-!
# Channel operations
-/

variable {pairs : List (Uuid × Uuid)} {req : ChannelCreateRequest}

theorem requestedSlug_text {slug : String} (h : requestedSlug req = Except.ok slug) :
    IsSlugText slug := by
  simp only [requestedSlug, bind_eq_ok, pure_eq_ok] at h
  rcases h with ⟨provided, hprovided, rfl⟩
  split
  · exact slugify_text req.name
  · rename_i hne
    unfold providedSlug at hprovided
    split at hprovided
    · split at hprovided
      · exact absurd (pure_eq_ok.mp hprovided).symm hne
      · exact normalizeChannelSlug_text hprovided
    · exact absurd (pure_eq_ok.mp hprovided).symm hne

theorem freeSlug_spec {slugBase : String} (h : IsSlugText slugBase) :
    freeSlug db slugBase ∉ db.slugs ∧ IsSlugText (freeSlug db slugBase) :=
  nextAvailableSlug_spec h (Option.some_get _).symm

theorem logCreation_touched (h : Touched db db' pairs) (c owner : Uuid)
    (name slugBase slug : String) :
    Touched db (logCreation db' c owner name slugBase slug) pairs := by
  unfold logCreation
  dsimp only
  split
  · exact h.logEvent _
  · exact (h.logEvent _).logEvent _

theorem createChannel_effect {owner : Uuid} {result : Uuid}
    (h : createChannel env db owner req = Except.ok (db', result)) :
    CallEffect env (Call.createChannel owner req) db db' := by
  simp only [createChannel, bind_eq_ok, require_eq_ok, pure_eq_ok,
    Option.isNone_iff_eq_none] at h
  rcases h with ⟨_, _, _, _, slugBase, hbase, _, hfresh, _, _, _, _, told, htold, heq⟩
  cases heq
  rcases freeSlug_spec (requestedSlug_text hbase) with ⟨hfree, htext⟩
  have htouched := enqueueBrokerBindingOutbox_touched htold
  let channel := newChannel owner (freeSlug db slugBase) req
  let row := ownerMembership owner (env.clock 0)
  let created := (db.setChannel (env.fresh 0) channel).setMembership (env.fresh 0) owner
    (some row)
  have hframe : Frame db created :=
    (Frame.setChannel db _ _).trans (Frame.setMembership _ _ _ _)
  have hchange : Change env db created (Call.createChannel owner req) [(env.fresh 0, owner)] :=
    Change.created (env.fresh 0) owner req channel row hfresh rfl rfl rfl rfl htext hfree rfl
      rfl
  exact ⟨created, _, hframe, hchange, logCreation_touched htouched _ _ _ _ _⟩

theorem updateChannel_effect {req : ChannelPatchRequest} {result : Channel}
    (h : updateChannel env db c a req = Except.ok (db', result)) :
    CallEffect env (Call.updateChannel c a req) db db' := by
  simp only [updateChannel, bind_eq_ok, require_eq_ok, pure_eq_ok] at h
  rcases h with ⟨channel, hchannel, _, _, _, _, _, hunique, told, htold, bound, hbound, heq⟩
  cases heq
  rcases getChannelForUpdate_eq_ok.mp hchannel with ⟨hget, hlive⟩
  rcases enqueueChannelEventOutbox_ok htold with ⟨row, g, rfl, hrow⟩
  have hnotice := isNotice_of_event hrow (by decide) (fun _ => trivial)
  have hframe : Frame db ((db.setChannel c (req.patch channel)).enqueue row) :=
    (Frame.setChannel db c (req.patch channel)).trans (Frame.enqueue _ hnotice)
  have hother : forall c' channel', c' ≠ c -> db.channels.get c' = some channel' ->
      channel'.channelSlug ≠ (req.patch channel).channelSlug := by
    intro c' channel' hne hget'
    have hrow' := List.all_eq_true.mp hunique (c', channel') (Table.mem_rows.mpr hget')
    simpa [hne] using hrow'
  unfold rebindMembers at hbound
  split at hbound
  · rename_i hsame
    cases hbound
    exact ⟨_, [], hframe, Change.edited c a req channel [] hget hlive rfl rfl hother
      (Or.inl ⟨rfl, hsame⟩), (Touched.refl _).logEvent _⟩
  · have htouched := enqueueMemberBindings_touched hbound
    exact ⟨_, _, hframe, Change.edited c a req channel _ hget hlive rfl rfl hother
      (Or.inr rfl), htouched.logEvent _⟩

/-- Deleting and restoring differ in the value they give to `deleted_at`. -/
theorem switch_effect {told bumped bound : Database} {aggregateId : Uuid}
    {deletedAt : Option Instant} {action : String} {payload : Nat -> OutboxPayload}
    {record : AuditRecord} (hchannel : db.channels.get c = some channel)
    (hswitch : channel.deletedAt.isSome = !deletedAt.isSome) (htype : eventType ≠ "message")
    (hnotice : forall g, (payload g).Notice) (htold : enqueueChannelEventOutbox env
      (db.setChannel c { channel with deletedAt := deletedAt }) aggregateId c eventType
        payload = Except.ok told)
    (hbumped : bumpChannelMembershipGeneration told c = Except.ok bumped)
    (hbound : enqueueMemberBindings env bumped c action = Except.ok bound) :
    CallEffect env call db (bound.logEvent record) := by
  rcases enqueueChannelEventOutbox_ok htold with ⟨row, g, rfl, hrow⟩
  rcases bumpChannelMembershipGeneration_ok hbumped with ⟨found, hfound, rfl⟩
  have hfound' : some { channel with deletedAt := deletedAt } = some found :=
    (Table.get_set_self db.channels c _).symm.trans hfound
  cases hfound'
  have htouched := enqueueMemberBindings_touched hbound
  refine ⟨_, (db.approvedMembers c).map (fun u => (c, u)), ?_,
    Change.switched call c channel deletedAt hchannel hswitch ?_ ?_,
    htouched.logEvent _⟩
  · exact ((Frame.setChannel db c _).trans
      (Frame.enqueue _ (isNotice_of_event hrow htype hnotice))).trans (Frame.setChannel _ c _)
  · exact Table.set_set db.channels c _ _
  · rfl

theorem deleteChannel_effect (h : deleteChannel env db c a = Except.ok (db', r)) :
    CallEffect env (Call.deleteChannel c a) db db' := by
  simp only [deleteChannel, bind_eq_ok, pure_eq_ok] at h
  rcases h with ⟨channel, hchannel, _, _, told, htold, bumped, hbumped, bound, hbound, heq⟩
  cases heq
  rcases getChannelForUpdate_eq_ok.mp hchannel with ⟨hget, hlive⟩
  refine switch_effect hget ?_ (by decide) (by intro g; trivial) htold hbumped hbound
  rw [hlive]
  rfl

theorem restoreChannel_effect (h : restoreChannel env db a c = Except.ok (db', r)) :
    CallEffect env (Call.restoreChannel a c) db db' := by
  simp only [restoreChannel, bind_eq_ok, orFail_eq_ok, require_eq_ok, pure_eq_ok] at h
  rcases h with
    ⟨_, _, channel, hget, _, hdeleted, told, htold, bumped, hbumped, bound, hbound, heq⟩
  cases heq
  refine switch_effect hget ?_ (by decide) (by intro g; trivial) htold hbumped hbound
  rw [hdeleted]
  rfl

/-!
# Repair
-/

theorem announceBindingStates_touched (h : Touched db mid pairs)
    (states : List ((Uuid × Uuid) × BrokerBindingState))
    (hstates : forall r, r ∈ states -> mid.bindingStates.get r.1 = some r.2) :
    Touched db (announceBindingStates env mid states) pairs := by
  induction states generalizing mid with
  | nil => exact h
  | cons r states ih =>
      have hmid := hstates r List.mem_cons_self
      refine @ih (enqueueBrokerBindingSnapshot env mid r.1.1 r.1.2 r.2) ?_
        (fun r' hr' => hstates r' (List.mem_cons_of_mem r hr'))
      rcases h.outbox with ⟨rows, hrows, hannounce⟩
      refine ⟨h.users, h.channels, h.memberships, h.messages, h.uploads, h.messageAttachments,
        h.touched, h.kept, rows ++ [bindingRow env r.1.1 r.1.2 r.2], ?_, ?_⟩
      · change mid.outbox ++ [_] = _
        rw [hrows, List.append_assoc]
      · intro row hrow
        rcases List.mem_append.mp hrow with hrow | hrow
        · exact hannounce row hrow
        · rw [List.mem_singleton.mp hrow]
          exact ⟨rfl, r.1.1, r.1.2, r.2.generation, r.2, rfl, hmid, Nat.le_refl _⟩

theorem repair_effect {created : Database} {states : List ((Uuid × Uuid) × BrokerBindingState)}
    (hnodup : pairs.Nodup) (hcreated : createBindingStates env db pairs = Except.ok created)
    (hstates : forall r, r ∈ states -> r ∈ created.bindingStates.rows)
    (h : announceBindingStates env created states = db') : CallEffect env call db db' := by
  have htouched : Touched db created pairs := by
    exact @foldlM_touched db created pairs env
      (fun db pair => bindingAction (db.role pair.1 pair.2)) hnodup hcreated
  subst h
  exact ⟨db, pairs, Frame.refl db, Change.quiet call pairs rfl rfl,
    announceBindingStates_touched htouched states
      (fun r hr => Table.mem_rows.mp (hstates r hr))⟩

theorem nodup_filter_sort (p : Uuid × Uuid -> Bool) (r : Uuid × Uuid -> Uuid × Uuid -> Prop)
    [DecidableRel r] : ((db.memberships.keys.filter p).insertionSort r).Nodup := by
  rw [(List.perm_insertionSort _ _).nodup_iff]
  exact (Table.nodup_keys db.memberships).filter p

theorem mem_of_mem_filter_sort {α : Type} {l : List α} {p : α -> Bool}
    {r : α -> α -> Prop} [DecidableRel r] {a : α}
    (h : a ∈ (l.filter p).insertionSort r) : a ∈ l :=
  (List.mem_filter.mp ((List.mem_insertionSort r).mp h)).1

theorem reconcileUser_effect {n : Nat}
    (h : enqueueUserBrokerBindingReconciliation env db u = Except.ok (db', n)) :
    CallEffect env (Call.reconcileUser u) db db' := by
  simp only [enqueueUserBrokerBindingReconciliation, bind_eq_ok, pure_eq_ok] at h
  rcases h with ⟨created, hcreated, heq⟩
  exact repair_effect (nodup_filter_sort _ _) hcreated
    (fun _ hr => mem_of_mem_filter_sort hr) (congrArg Prod.fst heq)

theorem reconcileAll_effect {n : Nat}
    (h : enqueueAllBrokerBindingReconciliation env db = Except.ok (db', n)) :
    CallEffect env Call.reconcileAll db db' := by
  simp only [enqueueAllBrokerBindingReconciliation, bind_eq_ok, pure_eq_ok] at h
  rcases h with ⟨created, hcreated, heq⟩
  exact repair_effect (nodup_filter_sort _ _) hcreated
    (fun _ hr => mem_of_mem_filter_sort hr) (congrArg Prod.fst heq)

/-- Every successful call makes one of the listed changes. -/
theorem Call.effect
    (h : call.apply env db = Except.ok db') : CallEffect env call db db' := by
  cases call with
  | createChannel owner req =>
      exact (map_fst_eq_ok.mp h).elim fun _ h => createChannel_effect h
  | updateChannel c a req =>
      exact (map_fst_eq_ok.mp h).elim fun _ h => updateChannel_effect h
  | deleteChannel c a =>
      exact (map_fst_eq_ok.mp h).elim fun _ h => deleteChannel_effect h
  | restoreChannel a c =>
      exact (map_fst_eq_ok.mp h).elim fun _ h => restoreChannel_effect h
  | joinChannel c u token =>
      exact (map_fst_eq_ok.mp h).elim fun _ h => joinChannel_effect h
  | createInvite c a req =>
      exact (map_fst_eq_ok.mp h).elim fun _ h => createInvite_effect h
  | revokeInvite c i a =>
      exact (map_fst_eq_ok.mp h).elim fun _ h => revokeInvite_effect h
  | acceptInvite token u =>
      exact (map_fst_eq_ok.mp h).elim fun _ h => acceptInvite_effect h
  | approveMember c a t =>
      exact (map_fst_eq_ok.mp h).elim fun _ h => approveMember_effect h
  | addMemberDirect c a t =>
      exact (map_fst_eq_ok.mp h).elim fun _ h => addMemberDirect_effect h
  | promoteMember c a t =>
      exact (map_fst_eq_ok.mp h).elim fun _ h => promoteMember_effect h
  | demoteMember c a t =>
      exact (map_fst_eq_ok.mp h).elim fun _ h => demoteMember_effect h
  | updateAdminPermissions c a t req =>
      exact (map_fst_eq_ok.mp h).elim fun _ h => updateAdminPermissions_effect h
  | removeMember c a t =>
      exact (map_fst_eq_ok.mp h).elim fun _ h => removeMember_effect h
  | leaveChannel c u =>
      exact (map_fst_eq_ok.mp h).elim fun _ h => leaveChannel_effect h
  | reconcileUser u =>
      exact (map_fst_eq_ok.mp h).elim fun _ h => reconcileUser_effect h
  | reconcileAll =>
      exact (map_fst_eq_ok.mp h).elim fun _ h => reconcileAll_effect h

end MessagingSystem
