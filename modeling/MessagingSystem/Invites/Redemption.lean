import MessagingSystem.Channels.System
import MessagingSystem.Invites.Service

/-!
# Every invite is redeemed as it was meant

A targeted invite lets one user in, once, and is not revoked as well; a generic invite
stays as it is.  Both follow from the two locks: the channel row is locked from before the
invite is looked at, and the invite row from the time its columns are checked.
-/

namespace MessagingSystem

open Foundation
open Script

variable {db db' : Database}
variable {env : Env}
variable {result : InviteResult}
variable {e : inviteWorkload.system.Execution}

/-!
# Redemption
-/

/-- The invite by which a result lets a user in. -/
def InviteResult.grant : InviteResult -> Option (Env × InviteGrant)
  | InviteResult.accepted env grant => some (env, grant)
  | InviteResult.joined env grant => some (env, grant)
  | _ => none

/-- At this step of the run the session commits with the grant. -/
def GrantsAt (e : inviteWorkload.system.Execution) (n : Nat)
    (session : Session Database InviteCall) (env : Env) (grant : InviteGrant) : Prop :=
  n < e.length ∧ exists t result, e.labelAt n = StoreLabel.commit t ∧
    (e.stateAt n).sessions.get t = some session ∧
    session.request.script.Returns session.seen result ∧ result.grant = some (env, grant)

/--
The invite and its channel in a database that the session saw while it held the channel
lock, which it keeps until it ends.
-/
def CheckedUnderLock (session : Session Database InviteCall) (env : Env)
    (grant : InviteGrant) : Prop :=
  exists since db channel,
    session.request.script.HeldSince session.seen (InviteLock.channel grant.channelId)
      LockMode.exclusive since ∧ db ∈ since ∧
    db.channels.get grant.channelId = some channel ∧ channel.deletedAt = none ∧
    db.invites.get grant.inviteId = some grant.invite ∧
    grant.invite.channelId = grant.channelId ∧
    grant.invite.revokedAt = none ∧ env.clock 0 < grant.invite.expiresAt

/-- The invited user, or one whose verified address was the invited one at some moment. -/
def IsForUser (session : Session Database InviteCall) (env : Env) (grant : InviteGrant) :
    Prop :=
  (forall userId, grant.invite.invitedUserId = some userId -> grant.userId = userId) ∧
  forall email, grant.invite.invitedUserId = none -> grant.invite.invitedEmail = some email ->
    exists db user, db ∈ session.seen ∧ db.users.get grant.userId = some user ∧
      user.email.map (normalizeEmail env) = some (normalizeEmail env email) ∧
      user.emailVerifiedAt.isSome = true

structure InvitesRedeemed (e : inviteWorkload.system.Execution) : Prop where
  once : forall m n session session' env env' grant grant',
    GrantsAt e m session env grant -> GrantsAt e n session' env' grant' ->
    grant.inviteId = grant'.inviteId -> grant.invite.isGeneric = false -> m = n
  notBoth : forall n, n ≤ e.length -> forall inviteId invite,
    (e.stateAt n).committed.invites.get inviteId = some invite ->
    invite.isGeneric = false -> invite.acceptedAt = none ∨ invite.revokedAt = none
  admits : forall n session env grant, GrantsAt e n session env grant ->
    (e.stateAt (n + 1)).committed.role grant.channelId grant.userId
      = some MembershipRole.member
  checked : forall n session env grant, GrantsAt e n session env grant ->
    CheckedUnderLock session env grant
  forUser : forall n session env grant, GrantsAt e n session env grant ->
    IsForUser session env grant
  generic : forall n session env grant, GrantsAt e n session env grant ->
    grant.invite.isGeneric = true ->
    (e.stateAt (n + 1)).committed.invites = (e.stateAt n).committed.invites

/-!
# What the commits write
-/

variable {c a d u i : Uuid} {eventType : String} {row : ChannelMembership} {grant : InviteGrant}
  {invite : ChannelInvite} {payload : Nat -> OutboxPayload}
  {action reason message : String} {role : Option MembershipRole}

/-- The databases have the same invites, and the same channels apart from one. -/
structure WritesChannel (c : Uuid) (db db' : Database) : Prop where
  invites : db'.invites = db.invites
  channels : forall c', c' ≠ c -> db'.channels.get c' = db.channels.get c'

theorem WritesChannel.trans {a b d : Database} (h1 : WritesChannel c a b)
    (h2 : WritesChannel c b d) : WritesChannel c a d where
  invites := h2.invites.trans h1.invites
  channels := fun c' hne => (h2.channels c' hne).trans (h1.channels c' hne)

theorem writesChannel_of_eq (hinvites : db'.invites = db.invites)
    (hchannels : db'.channels = db.channels) : WritesChannel c db db' where
  invites := hinvites
  channels := fun c' _ => by rw [hchannels]

theorem enqueueChannelEventOutbox_writes
    (h : enqueueChannelEventOutbox env db a c eventType payload = Except.ok db') :
    WritesChannel d db db' := by
  rcases bind_eq_ok.mp h with ⟨state, _, h⟩
  rw [← pure_eq_ok.mp h]
  exact writesChannel_of_eq rfl rfl

theorem enqueueUserEventOutbox_writes
    (h : enqueueUserEventOutbox env db a c u eventType payload = Except.ok db') :
    WritesChannel d db db' := by
  rcases bind_eq_ok.mp h with ⟨username, _, h⟩
  rcases bind_eq_ok.mp h with ⟨state, _, h⟩
  rw [← pure_eq_ok.mp h]
  exact writesChannel_of_eq rfl rfl

theorem enqueueBrokerBindingOutbox_writes
    (h : enqueueBrokerBindingOutbox env db c u action = Except.ok db') :
    WritesChannel d db db' := by
  rcases bind_eq_ok.mp h with ⟨_, _, h⟩
  rcases bind_eq_ok.mp h with ⟨channel, _, h⟩
  rcases bind_eq_ok.mp h with ⟨slug, _, h⟩
  rw [← pure_eq_ok.mp h]
  exact writesChannel_of_eq rfl rfl

theorem bumpChannelMembershipGeneration_writes
    (h : bumpChannelMembershipGeneration db c = Except.ok db') : WritesChannel c db db' := by
  rcases bumpChannelMembershipGeneration_ok h with ⟨channel, _, hdb⟩
  rw [hdb]
  exact ⟨rfl, fun c' hne => Table.get_set_ne _ hne _⟩

theorem enqueueMemberBindings_writes (h : enqueueMemberBindings env db c action = Except.ok db') :
    WritesChannel d db db' := by
  unfold enqueueMemberBindings at h
  generalize db.approvedMembers c = users at h
  induction users generalizing db with
  | nil =>
      cases h
      exact writesChannel_of_eq rfl rfl
  | cons u users ih =>
      rcases bind_eq_ok.mp h with ⟨mid, hmid, hrest⟩
      exact (enqueueBrokerBindingOutbox_writes hmid).trans (ih hrest)

theorem announceMembership_writes {payload : Json}
    (h : announceMembership env db c u a role reason eventType payload = Except.ok db') :
    WritesChannel c db db' := by
  rcases bind_eq_ok.mp h with ⟨touched, hupdate, h⟩
  rw [← pure_eq_ok.mp h]
  rcases bind_eq_ok.mp hupdate with ⟨bumped, hbump, hupdate⟩
  rcases bind_eq_ok.mp hupdate with ⟨told, htold, hupdate⟩
  rcases bind_eq_ok.mp hupdate with ⟨target, htarget, htouch⟩
  have hwrites := (bumpChannelMembershipGeneration_writes hbump).trans
    ((enqueueChannelEventOutbox_writes htold).trans
      ((enqueueUserEventOutbox_writes htarget).trans (enqueueBrokerBindingOutbox_writes htouch)))
  exact hwrites.trans (writesChannel_of_eq rfl rfl)

theorem storeMembership_writes (h : storeMembership db c u row = Except.ok db') :
    WritesChannel d db db' ∧ db'.memberships = db.memberships.set (c, u) (some row) := by
  rw [storeMembership_ok h]
  exact ⟨writesChannel_of_eq rfl rfl, rfl⟩

theorem announceMembership_memberships {payload : Json}
    (h : announceMembership env db c u a role reason eventType payload = Except.ok db') :
    db'.memberships = db.memberships := by
  rcases announceMembership_ok h with ⟨_, mid, _, _, _, hmemberships, htouched⟩
  rw [htouched.memberships, hmemberships]

/-- The new row is announced and nothing else is written outside the channel. -/
theorem enterChannel_writes {status : JoinStatus} {outcome : JoinOutcome}
    (h : enterChannel env db c u row status message = Except.ok (db', outcome)) :
    WritesChannel c db db' ∧ db'.memberships = db.memberships.set (c, u) (some row) := by
  rcases bind_eq_ok.mp h with ⟨stored, hstored, h⟩
  rcases bind_eq_ok.mp h with ⟨told, htold, h⟩
  cases pure_eq_ok.mp h
  rcases storeMembership_writes (d := c) hstored with ⟨hwrites, hmemberships⟩
  refine ⟨hwrites.trans (announceMembership_writes htold), ?_⟩
  rw [announceMembership_memberships htold, hmemberships]

theorem commitEntered_writes {status : JoinStatus}
    (h : commitEntered env c u row status message db = Except.ok db') :
    WritesChannel c db db' ∧ db'.memberships = db.memberships.set (c, u) (some row) := by
  rcases bind_eq_ok.mp h with ⟨_, _, h⟩
  rcases bind_eq_ok.mp h with ⟨⟨entered, outcome⟩, henter, h⟩
  rw [← pure_eq_ok.mp h]
  exact enterChannel_writes henter

theorem markAccepted_eq (db : Database) (grant : InviteGrant) :
    (markAccepted db grant).channels = db.channels ∧
      (markAccepted db grant).memberships = db.memberships := by
  unfold markAccepted
  split
  · exact ⟨rfl, rfl⟩
  · exact ⟨rfl, rfl⟩

/-- The commit of a grant: the membership, and the invite if it is a targeted one. -/
structure GrantCommit (grant : InviteGrant) (db db' : Database) : Prop where
  invites : db'.invites = (markAccepted db grant).invites
  channels : forall c, c ≠ grant.channelId -> db'.channels.get c = db.channels.get c
  role : db'.role grant.channelId grant.userId = some MembershipRole.member

theorem role_of_set (h : db'.memberships = db.memberships.set (c, u) (some row)) :
    db'.role c u = some row.role := by
  unfold Database.role
  rw [Database.getMembership_set h, if_pos ⟨rfl, rfl⟩]
  rfl

theorem grantCommit_of_commit (hgrant : result.grant = some (env, grant))
    (h : result.commit db = some db') : GrantCommit grant db db' := by
  cases result with
  | accepted env grant =>
      cases hgrant
      rcases bind_eq_ok.mp (toOption_eq_some.mp h) with ⟨stored, hstored, htold⟩
      rcases storeMembership_writes (d := grant.channelId) hstored with ⟨hwrites, hmemberships⟩
      have hannounce := announceMembership_writes htold
      constructor
      · rw [hannounce.invites]
        unfold markAccepted
        split
        · exact hwrites.invites
        · show stored.invites.update _ _ = db.invites.update _ _
          rw [hwrites.invites]
      · intro c hne
        rw [hannounce.channels c hne, (markAccepted_eq stored grant).1]
        exact hwrites.channels c hne
      · have hrow : db'.memberships = db.memberships.set (grant.channelId, grant.userId)
            (some (admitted (db.getMembership grant.channelId grant.userId) grant.approvedAt
              grant.invite.createdByUserId)) := by
          rw [announceMembership_memberships htold, (markAccepted_eq stored grant).2,
            hmemberships]
        rw [role_of_set hrow, admitted_role]
  | joined env grant =>
      cases hgrant
      rcases commitEntered_writes (toOption_eq_some.mp h) with ⟨hwrites, hmemberships⟩
      refine ⟨hwrites.invites, ?_, ?_⟩
      · intro c hne
        rw [hwrites.channels c hne, (markAccepted_eq db grant).1]
      · rw [(markAccepted_eq db grant).2] at hmemberships
        rw [role_of_set hmemberships]
        rfl
  | unchanged | entered | created | revoked | channelDeleted => cases hgrant

theorem commitChannelDeleted_writes {isSuperadminOverride : Bool}
    (h : commitChannelDeleted env c a isSuperadminOverride db = Except.ok db') :
    WritesChannel c db db' := by
  rcases bind_eq_ok.mp h with ⟨told, htold, h⟩
  rcases bind_eq_ok.mp h with ⟨bumped, hbumped, h⟩
  rcases bind_eq_ok.mp h with ⟨bound, hbound, h⟩
  rw [← pure_eq_ok.mp h]
  have hdeleted : WritesChannel c db
      { db with channels := db.channels.update c (fun channel =>
        { channel with deletedAt := some (env.clock 0) }) } := by
    refine ⟨rfl, ?_⟩
    intro c' hne
    show (db.channels.update c _).get c' = db.channels.get c'
    rw [Table.get_update, if_neg hne]
  exact hdeleted.trans ((enqueueChannelEventOutbox_writes htold).trans
    ((bumpChannelMembershipGeneration_writes hbumped).trans
      ((enqueueMemberBindings_writes hbound).trans (writesChannel_of_eq rfl rfl))))

theorem commitCreated_invites (h : commitCreated i invite db = Except.ok db') :
    db.invites.get i = none ∧ db'.invites = db.invites.set i (some invite) ∧
      db'.channels = db.channels := by
  rcases bind_eq_ok.mp h with ⟨_, hfresh, h⟩
  rcases bind_eq_ok.mp h with ⟨_, _, h⟩
  rcases bind_eq_ok.mp h with ⟨_, _, h⟩
  rw [← pure_eq_ok.mp h]
  exact ⟨Option.isNone_iff_eq_none.mp (require_eq_ok.mp hfresh), rfl, rfl⟩

/-!
# What a request has seen when it commits
-/

abbrev InviteTrace := List (Option (InviteLock × LockMode) × Database)

variable {trace : InviteTrace} {user : User} {channel : Channel} {token : String}
  {dbUser dbChannel : Database}

/-- The row was locked, and this is what was committed at that time. -/
def LockedIn (trace : InviteTrace) (key : InviteLock) (db : Database) : Prop :=
  (some (key, LockMode.exclusive), db) ∈ trace

/-- The channel was locked and found live, and then the invite was locked and checked. -/
structure GrantSeen (trace : InviteTrace) (env : Env) (grant : InviteGrant) : Prop where
  locks : exists before after dbChannel db channel,
    trace = before ++ (some (InviteLock.channel grant.channelId, LockMode.exclusive),
      dbChannel) :: after ∧
    dbChannel.channels.get grant.channelId = some channel ∧ channel.deletedAt = none ∧
    LockedIn after (InviteLock.invite grant.inviteId) db ∧
    db.invites.get grant.inviteId = some grant.invite
  channelId : grant.invite.channelId = grant.channelId
  unrevoked : grant.invite.revokedAt = none
  unaccepted : grant.invite.isGeneric = false -> grant.invite.acceptedAt = none
  unexpired : env.clock 0 < grant.invite.expiresAt
  target : exists db user, db ∈ trace.map Prod.snd ∧ db.users.get grant.userId = some user ∧
    checkInviteTarget env grant.invite grant.userId user = Except.ok ()

theorem GrantSeen.invite_locked (h : GrantSeen trace env grant) : exists db,
    LockedIn trace (InviteLock.invite grant.inviteId) db ∧
      db.invites.get grant.inviteId = some grant.invite := by
  rcases h.locks with ⟨before, after, dbChannel, db, channel, htrace, _, _, hlock, hget⟩
  refine ⟨db, ?_, hget⟩
  rw [htrace]
  exact List.mem_append_right _ (List.mem_cons_of_mem _ hlock)

inductive InviteEffect (trace : InviteTrace) : InviteResult -> Prop where
  | unchanged : InviteEffect trace InviteResult.unchanged
  | entered {env : Env} {c u : Uuid} {row : ChannelMembership} {status : JoinStatus}
      {message : String} {db : Database} (hlock : LockedIn trace (InviteLock.channel c) db) :
      InviteEffect trace (InviteResult.entered env c u row status message)
  | granted {result : InviteResult} {env : Env} {grant : InviteGrant}
      (hgrant : result.grant = some (env, grant)) (hseen : GrantSeen trace env grant) :
      InviteEffect trace result
  | created {inviteId : Uuid} {invite : ChannelInvite} (haccepted : invite.acceptedAt = none)
      (hrevoked : invite.revokedAt = none) :
      InviteEffect trace (InviteResult.created inviteId invite)
  | revoked {inviteId c a : Uuid} {revokedAt : Instant} {db : Database}
      {invite : ChannelInvite} (hlock : LockedIn trace (InviteLock.invite inviteId) db)
      (hget : db.invites.get inviteId = some invite)
      (hunaccepted : invite.isGeneric = false -> invite.acceptedAt = none) :
      InviteEffect trace (InviteResult.revoked inviteId c a revokedAt)
  | channelDeleted {env : Env} {c a : Uuid} {isSuperadminOverride : Bool} {db : Database}
      (hlock : LockedIn trace (InviteLock.channel c) db) :
      InviteEffect trace (InviteResult.channelDeleted env c a isSuperadminOverride)

theorem InviteEffect.grantSeen (h : InviteEffect trace result)
    (hgrant : result.grant = some (env, grant)) : GrantSeen trace env grant := by
  cases h with
  | granted hgrant' hseen =>
      rw [hgrant] at hgrant'
      cases hgrant'
      exact hseen
  | unchanged | entered | created | revoked | channelDeleted => cases hgrant

theorem getUser_ends {failure : Failure} (h : Ends (getUser u failure) trace user) :
    exists db, trace = [(none, db)] ∧ db.users.get u = some user := by
  rcases ends_read_bind.mp h with ⟨db, rest, htrace, h⟩
  rcases ends_lift.mp h with ⟨hnil, hget⟩
  rw [hnil] at htrace
  exact ⟨db, htrace, orFail_eq_ok.mp hget⟩

theorem lockChannel_ends (h : Ends (lockChannel c) trace channel) :
    exists db, trace = [(some (InviteLock.channel c, LockMode.exclusive), db)] ∧
      db.channels.get c = some channel ∧ channel.deletedAt = none := by
  rcases ends_lock_bind.mp h with ⟨db, rest, htrace, h⟩
  rcases ends_lift.mp h with ⟨hnil, hget⟩
  rw [hnil] at htrace
  exact ⟨db, htrace, getChannelForUpdate_eq_ok.mp hget⟩

theorem lockInvite_ends {found : Uuid × ChannelInvite}
    (h : Ends (lockInvite env c token) trace found) :
    exists db, LockedIn trace (InviteLock.invite found.1) db ∧
      db.invites.get found.1 = some found.2 ∧ found.2.channelId = c := by
  rcases ends_read_bind.mp h with ⟨_, rest, htrace, h⟩
  rcases ends_lift_bind.mp h with ⟨row, _, h⟩
  rcases ends_lock_bind.mp h with ⟨db, rest', hrest, h⟩
  rcases ends_lift_bind.mp h with ⟨invite, hinvite, h⟩
  rcases ends_pure.mp h with ⟨_, heq⟩
  subst heq
  rcases Option.filter_eq_some_iff.mp (orFail_eq_ok.mp hinvite) with ⟨hget, htoken⟩
  refine ⟨db, ?_, hget, ?_⟩
  · rw [htrace, hrest]
    exact List.mem_cons_of_mem _ List.mem_cons_self
  · exact beq_iff_eq.mp ((Bool.and_eq_true _ _).mp htoken).1

theorem checkInvite_ok (h : checkInvite env invite u user = Except.ok ()) :
    invite.revokedAt = none ∧ (invite.isGeneric = false -> invite.acceptedAt = none) ∧
      env.clock 0 < invite.expiresAt ∧
      checkInviteTarget env invite u user = Except.ok () := by
  rcases bind_eq_ok.mp h with ⟨_, hrevoked, h⟩
  rcases bind_eq_ok.mp h with ⟨_, haccepted, h⟩
  rcases bind_eq_ok.mp h with ⟨_, hexpired, h⟩
  refine ⟨Option.isNone_iff_eq_none.mp (require_eq_ok.mp hrevoked), ?_,
    of_decide_eq_true (require_eq_ok.mp hexpired), h⟩
  intro htargeted
  have hunaccepted := require_eq_ok.mp haccepted
  rw [htargeted, Bool.false_or] at hunaccepted
  exact Option.isNone_iff_eq_none.mp hunaccepted

/-- The checks of `_validate_invite`, made after the channel was locked. -/
theorem grantSeen_of_validate (grant : InviteGrant) (before between after : InviteTrace)
    (hvalid : Ends (validateLockedInvite env grant.channelId token grant.userId user) trace
      (grant.inviteId, grant.invite)) (huser : dbUser.users.get grant.userId = some user)
    (hmem : dbUser ∈ before.map Prod.snd)
    (hchannel : dbChannel.channels.get grant.channelId = some channel)
    (hlive : channel.deletedAt = none) :
    GrantSeen (before ++ (some (InviteLock.channel grant.channelId, LockMode.exclusive),
      dbChannel) :: (between ++ (trace ++ after))) env grant := by
  rcases ends_bind.mp hvalid with ⟨first, rest, found, htrace, hlock, h⟩
  rcases ends_lift_bind.mp h with ⟨_, hcheck, h⟩
  rcases ends_pure.mp h with ⟨_, heq⟩
  rw [heq] at hlock hcheck
  rcases lockInvite_ends hlock with ⟨db, hlocked, hget, hsame⟩
  rcases checkInvite_ok hcheck with ⟨hrevoked, haccepted, hexpires, htarget⟩
  refine ⟨⟨before, _, dbChannel, db, channel, rfl, hchannel, hlive, ?_, hget⟩, hsame, hrevoked,
    haccepted, hexpires, dbUser, user, ?_, huser, htarget⟩
  · rw [htrace]
    exact List.mem_append_right _ (List.mem_append_left _ (List.mem_append_left _ hlocked))
  · rw [List.map_append]
    exact List.mem_append_left _ hmem

theorem acceptInvite_seen (h : Ends (InviteRequests.acceptInvite env token u) trace result) :
    InviteEffect trace result := by
  rcases ends_bind.mp h with ⟨t1, rest1, user, htrace, huser, h⟩
  rcases getUser_ends huser with ⟨dbUser, ht1, hget⟩
  rcases ends_read_bind.mp h with ⟨d, rest2, hrest1, h⟩
  rcases ends_lift_bind.mp h with ⟨invited, _, h⟩
  rcases ends_bind.mp h with ⟨t2, rest3, channel, hrest2, hchannel, h⟩
  rcases lockChannel_ends hchannel with ⟨dbChannel, ht2, hfound, hlive⟩
  rcases ends_bind.mp h with ⟨t3, rest4, found, hrest3, hvalid, h⟩
  rcases ends_read_bind.mp h with ⟨d', rest5, hrest4, h⟩
  split at h
  · exact h.of_pure InviteEffect.unchanged
  · rcases ends_pure.mp h with ⟨_, heq⟩
    subst heq
    refine InviteEffect.granted rfl ?_
    have hseen := grantSeen_of_validate
      ⟨found.1, found.2, invited.2.channelId, u, env.clock 1, env.clock 2⟩
      [(none, dbUser), (none, d)] [] rest4
      hvalid hget List.mem_cons_self hfound hlive
    rw [htrace, ht1, hrest1, hrest2, ht2, hrest3]
    exact hseen

theorem joinByInvite_seen {token : Option String} (before between : InviteTrace)
    (huser : dbUser.users.get u = some user) (hmem : dbUser ∈ before.map Prod.snd)
    (hchannel : dbChannel.channels.get c = some channel) (hlive : channel.deletedAt = none)
    (h : Ends (InviteRequests.joinByInvite env c u user token) trace result) :
    InviteEffect (before ++ (some (InviteLock.channel c, LockMode.exclusive), dbChannel) ::
      (between ++ trace)) result := by
  cases token with
  | none =>
      exact h.of_pure InviteEffect.unchanged
  | some token =>
      rcases ends_bind.mp h with ⟨first, rest, found, htrace, hvalid, h⟩
      rcases ends_pure.mp h with ⟨_, heq⟩
      subst heq
      refine InviteEffect.granted rfl ?_
      rw [htrace]
      exact grantSeen_of_validate
        ⟨found.1, found.2, c, u, env.clock 2, env.clock 1⟩ before between rest
        hvalid huser hmem hchannel hlive

theorem joinChannel_seen {token : Option String}
    (h : Ends (InviteRequests.joinChannel env c u token) trace result) :
    InviteEffect trace result := by
  rcases ends_bind.mp h with ⟨t1, rest1, user, htrace, huser, h⟩
  rcases getUser_ends huser with ⟨dbUser, ht1, hget⟩
  rcases ends_bind.mp h with ⟨t2, rest2, channel, hrest1, hchannel, h⟩
  rcases lockChannel_ends hchannel with ⟨dbChannel, ht2, hfound, hlive⟩
  rcases ends_read_bind.mp h with ⟨d, rest3, hrest2, h⟩
  rw [htrace, ht1, hrest1, ht2, hrest2]
  split at h
  · exact h.of_pure InviteEffect.unchanged
  · split at h
    · exact joinByInvite_seen [_] [_] hget List.mem_cons_self hfound
        hlive h
    · exact h.of_pure (InviteEffect.entered (List.mem_cons_of_mem _ List.mem_cons_self))
    · exact h.of_pure (InviteEffect.entered (List.mem_cons_of_mem _ List.mem_cons_self))

theorem createInvite_seen {req : InviteRequest}
    (h : Ends (InviteRequests.createInvite env c a req) trace result) :
    InviteEffect trace result := by
  rcases ends_read_bind.mp h with ⟨_, _, _, h⟩
  rcases ends_lift_bind.mp h with ⟨_, _, h⟩
  rcases ends_read_bind.mp h with ⟨_, _, _, h⟩
  rcases ends_lift_bind.mp h with ⟨_, _, h⟩
  rcases ends_lock_bind.mp h with ⟨_, _, _, h⟩
  rcases ends_read_bind.mp h with ⟨_, _, _, h⟩
  rcases ends_lift_bind.mp h with ⟨_, _, h⟩
  rcases ends_read_bind.mp h with ⟨_, _, _, h⟩
  rcases ends_lift_bind.mp h with ⟨target, _, h⟩
  rcases ends_lift_bind.mp h with ⟨expiresAt, _, h⟩
  exact h.of_pure (InviteEffect.created rfl rfl)

theorem revokeInvite_seen (h : Ends (InviteRequests.revokeInvite env c i a) trace result) :
    InviteEffect trace result := by
  rcases ends_bind.mp h with ⟨t1, rest1, channel, htrace, _, h⟩
  rcases ends_read_bind.mp h with ⟨_, rest2, hrest1, h⟩
  rcases ends_lift_bind.mp h with ⟨_, _, h⟩
  rcases ends_lock_bind.mp h with ⟨db, rest3, hrest2, h⟩
  rcases ends_lift_bind.mp h with ⟨invite, hinvite, h⟩
  rcases ends_lift_bind.mp h with ⟨_, _, h⟩
  rcases ends_lift_bind.mp h with ⟨_, hcheck, h⟩
  split at h
  · exact h.of_pure InviteEffect.unchanged
  · rename_i hopen
    rcases ends_pure.mp h with ⟨_, heq⟩
    rw [← heq]
    refine InviteEffect.revoked ?_ (orFail_eq_ok.mp hinvite) ?_
    · rw [htrace, hrest1, hrest2]
      exact List.mem_append_right _ (List.mem_cons_of_mem _ List.mem_cons_self)
    · intro htargeted
      have hfree := require_eq_ok.mp hcheck
      rw [htargeted, Bool.false_or, Bool.or_eq_true] at hfree
      rcases hfree with hnone | hrevoked
      · exact Option.isNone_iff_eq_none.mp hnone
      · exact absurd hrevoked hopen

theorem deleteChannel_seen (h : Ends (InviteRequests.deleteChannel env c a) trace result) :
    InviteEffect trace result := by
  rcases ends_bind.mp h with ⟨t1, rest1, actor, htrace, _, h⟩
  rcases ends_bind.mp h with ⟨t2, rest2, channel, hrest1, hchannel, h⟩
  rcases lockChannel_ends hchannel with ⟨db, ht2, _⟩
  rcases ends_read_bind.mp h with ⟨_, rest3, hrest2, h⟩
  rcases ends_lift_bind.mp h with ⟨_, _, h⟩
  rcases ends_pure.mp h with ⟨_, heq⟩
  rw [← heq, htrace, hrest1, ht2]
  exact InviteEffect.channelDeleted
    (List.mem_append_right _ (List.mem_append_left _ List.mem_cons_self))

theorem InviteCall.effect {call : InviteCall}
    (h : Ends call.script trace result) : InviteEffect trace result := by
  cases call with
  | accept env token u => exact acceptInvite_seen h
  | join env c u token => exact joinChannel_seen h
  | create env c a req => exact createInvite_seen h
  | revoke env c i a => exact revokeInvite_seen h
  | deleteChannel env c a => exact deleteChannel_seen h

/-!
# What a commit does to the rows
-/

/-- A commit changes the channels that it has locked. -/
theorem InviteEffect.channel_kept (h : InviteEffect trace result)
    (hcommit : result.commit db = some db') (c : Uuid) :
    (exists d, LockedIn trace (InviteLock.channel c) d) ∨
      db'.channels.get c = db.channels.get c := by
  have hothers : forall {c' d}, LockedIn trace (InviteLock.channel c') d ->
      (c ≠ c' -> db'.channels.get c = db.channels.get c) ->
      (exists d, LockedIn trace (InviteLock.channel c) d) ∨
        db'.channels.get c = db.channels.get c := by
    intro c' d hlock hkept
    by_cases heq : c = c'
    · rw [heq]
      exact Or.inl ⟨d, hlock⟩
    · exact Or.inr (hkept heq)
  cases h with
  | unchanged | revoked =>
      cases hcommit
      exact Or.inr rfl
  | entered hlock =>
      exact hothers hlock ((commitEntered_writes (toOption_eq_some.mp hcommit)).1.channels c)
  | granted hgrant hseen =>
      rcases hseen.locks with ⟨before, after, d1, d2, _, htrace, _⟩
      refine hothers (d := d1) ?_ ((grantCommit_of_commit hgrant hcommit).channels c)
      rw [htrace]
      exact List.mem_append_right _ List.mem_cons_self
  | created haccepted hrevoked =>
      rw [(commitCreated_invites (toOption_eq_some.mp hcommit)).2.2]
      exact Or.inr rfl
  | channelDeleted hlock =>
      exact hothers hlock
        ((commitChannelDeleted_writes (toOption_eq_some.mp hcommit)).channels c)

/-- A commit adds an invite, or changes one that it has locked, if it touches any. -/
inductive InvitesChange (trace : InviteTrace) (db db' : Database) : Prop where
  | same (hsame : db'.invites = db.invites)
  | created {i : Uuid} {invite : ChannelInvite} (hnone : db.invites.get i = none)
      (hset : db'.invites = db.invites.set i (some invite))
      (hunaccepted : invite.acceptedAt = none)
  | updated {i : Uuid} {d : Database} {old : ChannelInvite}
      {change : ChannelInvite -> ChannelInvite}
      (hlock : LockedIn trace (InviteLock.invite i) d) (hget : d.invites.get i = some old)
      (hupdate : db'.invites = db.invites.update i change)
      (hgeneric : forall invite, (change invite).isGeneric = invite.isGeneric)
      (haccepted : forall invite, invite.acceptedAt.isSome = true ->
        (change invite).acceptedAt.isSome = true)
      (hone : old.isGeneric = false ->
        (change old).acceptedAt = none ∨ (change old).revokedAt = none)

theorem InviteEffect.invitesChange
    (h : InviteEffect trace result) (hcommit : result.commit db = some db') :
    InvitesChange trace db db' := by
  cases h with
  | unchanged =>
      cases hcommit
      exact InvitesChange.same rfl
  | entered hlock =>
      exact InvitesChange.same (commitEntered_writes (toOption_eq_some.mp hcommit)).1.invites
  | granted hgrant hseen =>
      have hinvites := (grantCommit_of_commit hgrant hcommit).invites
      rcases hseen.invite_locked with ⟨d, hlock, hget⟩
      unfold markAccepted at hinvites
      split at hinvites
      · exact InvitesChange.same hinvites
      · exact InvitesChange.updated hlock hget hinvites (fun _ => rfl) (fun _ _ => rfl)
          (fun _ => Or.inr hseen.unrevoked)
  | created haccepted hrevoked =>
      rcases commitCreated_invites (toOption_eq_some.mp hcommit) with ⟨hnone, hset, _⟩
      exact InvitesChange.created hnone hset haccepted
  | revoked hlock hget hunaccepted =>
      cases hcommit
      exact InvitesChange.updated hlock hget rfl (fun _ => rfl) (fun _ hsome => hsome)
        (fun htargeted => Or.inl (hunaccepted htargeted))
  | channelDeleted hlock =>
      exact InvitesChange.same
        (commitChannelDeleted_writes (toOption_eq_some.mp hcommit)).invites

theorem InvitesChange.invite_kept (h : InvitesChange trace db db')
    (hget : db.invites.get i = some invite) :
    (exists d, LockedIn trace (InviteLock.invite i) d) ∨ db'.invites.get i = some invite := by
  cases h with
  | same hsame =>
      rw [hsame]
      exact Or.inr hget
  | created hnone hset _ =>
      rw [hset]
      exact Or.inr (Table.get_set_of_free hnone hget)
  | @updated j d _ _ hlock _ hupdate _ _ _ =>
      by_cases heq : i = j
      · rw [heq]
        exact Or.inl ⟨d, hlock⟩
      · rw [hupdate, Table.get_update, if_neg heq]
        exact Or.inr hget

theorem InviteOutside.keeps {action : InviteOutside} (h : action.run db = some db') :
    db'.invites = db.invites ∧ forall c channel,
      db.channels.get c = some channel -> db'.channels.get c = some channel := by
  cases action with
  | putUser | putMembership =>
      cases h
      exact ⟨rfl, fun _ _ hget => hget⟩
  | openChannel c channel =>
      simp only [InviteOutside.run] at h
      split at h
      · rename_i hnone
        cases h
        exact ⟨rfl, fun _ _ hget => Table.get_set_of_free hnone hget⟩
      · cases h

/-- What a row lock protects. -/
def keepsLocked (k : InviteLock) (db db' : Database) : Prop :=
  match k with
  | InviteLock.channel c =>
      forall channel, db.channels.get c = some channel -> db'.channels.get c = some channel
  | InviteLock.invite i =>
      forall invite, db.invites.get i = some invite -> db'.invites.get i = some invite
  | InviteLock.user _ => True

theorem inviteGuarantee : inviteWorkload.Guarantee keepsLocked := by
  constructor
  · intro k db
    cases k with
    | channel | invite => exact fun _ hget => hget
    | user u => trivial
  · intro k a b d h1 h2
    cases k with
    | channel c => exact fun channel hget => h2 channel (h1 channel hget)
    | invite i => exact fun invite hget => h2 invite (h1 invite hget)
    | user u => trivial
  · intro k action db db' hrun
    rcases InviteOutside.keeps hrun with ⟨hinvites, hchannels⟩
    cases k with
    | channel c => exact hchannels c
    | invite i =>
        intro invite hget
        rw [hinvites]
        exact hget
    | user u => trivial
  · intro k call seen result db db' hreturns hcommit hlock
    rcases hreturns.exists_ends with ⟨trace, hends, hseen⟩
    have heffect := InviteCall.effect hends
    have hfree : forall d, ¬LockedIn trace k d := by
      intro d hlocked
      apply hlock
      rw [← hseen]
      exact hends.mem_acquired hlocked
    cases k with
    | channel c =>
        intro channel hget
        rcases heffect.channel_kept hcommit c with ⟨d, hlocked⟩ | hsame
        · exact absurd hlocked (hfree d)
        · rw [hsame]
          exact hget
    | invite i =>
        intro invite hget
        rcases (heffect.invitesChange hcommit).invite_kept hget with ⟨d, hlocked⟩ | hsame
        · exact absurd hlocked (hfree d)
        · exact hsame
    | user u => trivial

/-!
# Invites over time
-/

variable {change : ChannelInvite -> ChannelInvite} {store : Store Database InviteCall}

/-- Invites stay, with their target, and what was accepted stays accepted. -/
def InvitesStay (db db' : Database) : Prop :=
  forall i invite, db.invites.get i = some invite -> exists invite',
    db'.invites.get i = some invite' ∧ invite'.isGeneric = invite.isGeneric ∧
      (invite.acceptedAt.isSome = true -> invite'.acceptedAt.isSome = true)

theorem invitesStay_of_eq (h : db'.invites = db.invites) :
    InvitesStay db db' := by
  intro i invite hget
  rw [h]
  exact ⟨invite, hget, rfl, fun hsome => hsome⟩

theorem InvitesStay.trans {a b d : Database} (h1 : InvitesStay a b) (h2 : InvitesStay b d) :
    InvitesStay a d := by
  intro i invite hget
  rcases h1 i invite hget with ⟨invite', hget', hgeneric, haccepted⟩
  rcases h2 i invite' hget' with ⟨invite'', hget'', hgeneric', haccepted'⟩
  exact ⟨invite'', hget'', hgeneric'.trans hgeneric, fun hsome => haccepted' (haccepted hsome)⟩

theorem invitesStay_update (h : db'.invites = db.invites.update i change)
    (hgeneric : forall invite, (change invite).isGeneric = invite.isGeneric)
    (haccepted : forall invite, invite.acceptedAt.isSome = true ->
      (change invite).acceptedAt.isSome = true) : InvitesStay db db' := by
  intro j invite hget
  rw [h, Table.get_update]
  split
  · rename_i heq
    rw [← heq, hget]
    exact ⟨change invite, rfl, hgeneric invite, haccepted invite⟩
  · exact ⟨invite, hget, rfl, fun hsome => hsome⟩

theorem InvitesChange.invitesStay (h : InvitesChange trace db db') : InvitesStay db db' := by
  cases h with
  | same hsame => exact invitesStay_of_eq hsame
  | created hnone hset _ =>
      intro i invite hget
      rw [hset]
      exact ⟨invite, Table.get_set_of_free hnone hget, rfl, fun hsome => hsome⟩
  | updated _ _ hupdate hgeneric haccepted _ =>
      exact invitesStay_update hupdate hgeneric haccepted

theorem invitesStay_of_next {store' : Store Database InviteCall}
    {label : StoreLabel InviteCall InviteOutside}
    (h : inviteWorkload.next store label = some store') :
    InvitesStay store.committed store'.committed := by
  cases Workload.step_of_next h with
  | begin | statement | rollback => exact invitesStay_of_eq rfl
  | commit hget hreturns hcommit =>
      rcases hreturns.exists_ends with ⟨trace, hends, _⟩
      exact ((InviteCall.effect hends).invitesChange hcommit).invitesStay
  | outside hrun => exact invitesStay_of_eq (InviteOutside.keeps hrun).1

/-- No targeted invite is accepted and revoked. -/
def NotBoth (db : Database) : Prop :=
  forall i invite, db.invites.get i = some invite -> invite.isGeneric = false ->
    invite.acceptedAt = none ∨ invite.revokedAt = none

theorem NotBoth.of_eq (h : NotBoth db) (heq : db'.invites = db.invites) :
    NotBoth db' := by
  unfold NotBoth
  rw [heq]
  exact h

theorem NotBoth.update (h : NotBoth db) (heq : db'.invites = db.invites.update i change)
    (hchange : forall invite, db.invites.get i = some invite ->
      (change invite).isGeneric = false ->
      (change invite).acceptedAt = none ∨ (change invite).revokedAt = none) : NotBoth db' := by
  intro j invite hget htargeted
  rw [heq] at hget
  rcases Table.get_update_cases hget with ⟨_, old, hold, hinvite⟩ | ⟨_, hold⟩
  · rw [hinvite]
    rw [hinvite] at htargeted
    exact hchange old hold htargeted
  · exact h j invite hold htargeted

theorem InvitesChange.notBoth {s : Session Database InviteCall}
    (h : InvitesChange trace db db')
    (hends : (inviteWorkload.script s.request).Ends trace result)
    (hseen : trace.map Prod.snd = s.seen)
    (hstable : Workload.Stable inviteWorkload keepsLocked s db) (hold : NotBoth db) :
    NotBoth db' := by
  cases h with
  | same hsame => exact hold.of_eq hsame
  | created _ hset hunaccepted =>
      intro j invite hget htargeted
      rw [hset] at hget
      rcases Table.get_set_some_cases hget with ⟨_, rfl⟩ | ⟨_, hget⟩
      · exact Or.inl hunaccepted
      · exact hold j invite hget htargeted
  | updated hlock hget hupdate hgeneric _ hone =>
      have hrow := hstable.keeps_of_ends hends hseen hlock _ hget
      refine hold.update hupdate ?_
      intro invite hinvite htargeted
      rw [hrow] at hinvite
      cases hinvite
      rw [hgeneric] at htargeted
      exact hone htargeted

theorem notBoth_of_reachable (h : inviteWorkload.system.Reachable store) :
    NotBoth store.committed := by
  refine Workload.invariant inviteGuarantee (I := NotBoth) ?_ ?_ ?_ h
  · intro db hstart i invite hget
    have hempty : db.invites = Table.empty := hstart
    rw [hempty] at hget
    cases hget
  · intro action db db' hold hrun
    exact hold.of_eq (InviteOutside.keeps hrun).1
  · intro s result db db' hold hstable hreturns hcommit
    rcases hreturns.exists_ends with ⟨trace, hends, hseen⟩
    exact ((InviteCall.effect hends).invitesChange hcommit).notBoth hends hseen hstable hold

/-!
# Grants in a run
-/

variable {n : Nat} {session : Session Database InviteCall}

/-- What is known of a run at a grant. -/
structure GrantStep (e : inviteWorkload.system.Execution) (n : Nat)
    (session : Session Database InviteCall) (env : Env) (grant : InviteGrant) : Prop where
  lt : n < e.length
  stable : Workload.Stable inviteWorkload keepsLocked session (e.stateAt n).committed
  seen : exists trace result, session.request.script.Ends trace result ∧
    trace.map Prod.snd = session.seen ∧ GrantSeen trace env grant
  done : GrantCommit grant (e.stateAt n).committed (e.stateAt (n + 1)).committed
  row : (e.stateAt n).committed.invites.get grant.inviteId = some grant.invite

theorem grantStep_of_grantsAt (h : GrantsAt e n session env grant) :
    GrantStep e n session env grant := by
  rcases h with ⟨hlt, t, result, hlabel, hget, hreturns, hgrant⟩
  have hnext := e.step n hlt
  rw [hlabel] at hnext
  rcases Workload.commit_of_next hnext with ⟨s, r, db', hget', hreturns', hcommit, hstore⟩
  rw [hget] at hget'
  cases hget'
  have hsame : r = result := Option.some.inj (hreturns'.symm.trans hreturns)
  subst hsame
  rcases hreturns.exists_ends with ⟨trace, hends, hseen⟩
  have hgranted := (InviteCall.effect hends).grantSeen hgrant
  have hstable := (Workload.storeOk_of_reachable inviteGuarantee
    (e.reachable (Nat.le_of_lt hlt))).stable t session hget
  rcases hgranted.invite_locked with ⟨d, hlock, hrow⟩
  refine ⟨hlt, hstable, ⟨trace, r, hends, hseen, hgranted⟩, ?_, ?_⟩
  · rw [hstore]
    exact grantCommit_of_commit hgrant hcommit
  · exact hstable.keeps_of_ends hends hseen hlock _ hrow

/-- Only a generic invite is redeemed again later. -/
theorem GrantStep.generic_of_lt {m : Nat} {session' : Session Database InviteCall}
    {env env' : Env} {grant' : InviteGrant} (h : GrantStep e m session env grant)
    (h' : GrantStep e n session' env' grant') (hid : grant.inviteId = grant'.inviteId)
    (hlt : m < n) : grant.invite.isGeneric = true ∧ grant'.invite.isGeneric = true := by
  have hstay : InvitesStay (e.stateAt (m + 1)).committed (e.stateAt n).committed :=
    e.related (R := fun a b => InvitesStay a.committed b.committed)
      (fun _ => invitesStay_of_eq rfl) (fun _ _ _ h1 h2 => h1.trans h2)
      (fun _ _ _ hstep => invitesStay_of_next hstep) hlt (Nat.le_of_lt h'.lt)
  by_cases htargeted : grant.invite.isGeneric = true
  · have hrow : (e.stateAt (m + 1)).committed.invites.get grant'.inviteId
        = some grant.invite := by
      rw [h.done.invites, markAccepted, if_pos htargeted, ← hid]
      exact h.row
    rcases hstay _ _ hrow with ⟨invite, hget, hgeneric, _⟩
    rw [h'.row] at hget
    cases hget
    exact ⟨htargeted, hgeneric.trans htargeted⟩
  · exfalso
    have hrow : (e.stateAt (m + 1)).committed.invites.get grant'.inviteId
        = some { grant.invite with acceptedAt := some grant.acceptedAt } := by
      rw [h.done.invites, markAccepted, if_neg htargeted, ← hid]
      show ((e.stateAt m).committed.invites.update grant.inviteId _).get grant.inviteId = _
      rw [Table.get_update, if_pos rfl, h.row]
      rfl
    rcases hstay _ _ hrow with ⟨invite, hget, hgeneric, haccepted⟩
    rw [h'.row] at hget
    cases hget
    rcases h'.seen with ⟨_, _, _, _, hgranted⟩
    have hnone := hgranted.unaccepted (hgeneric.trans (Bool.not_eq_true _ ▸ htargeted))
    rw [hnone] at haccepted
    cases haccepted rfl

/-- The channel was still live in the database in which the invite was checked. -/
theorem GrantStep.checked (h : GrantStep e n session env grant) :
    CheckedUnderLock session env grant := by
  rcases h.seen with ⟨trace, result, hends, hseen, hgranted⟩
  rcases hgranted.locks with ⟨before, after, d, db, channel, htrace, hchannel, hlive, hlock, hget⟩
  rw [htrace] at hends hseen
  have hheld := hends.heldSince
  rw [hseen] at hheld
  have hmem : db ∈ after.map Prod.snd := List.mem_map_of_mem hlock
  refine ⟨_, db, channel, hheld, List.mem_cons_of_mem _ hmem, ?_, hlive, hget,
    hgranted.channelId, hgranted.unrevoked, hgranted.unexpired⟩
  have hpairs := (List.pairwise_append.mp (h.stable _ _ _ hheld)).1
  exact (List.pairwise_cons.mp hpairs).1 db hmem channel hchannel

theorem GrantStep.forUser (h : GrantStep e n session env grant) : IsForUser session env grant := by
  rcases h.seen with ⟨trace, result, _, hseen, hgranted⟩
  rcases hgranted.target with ⟨db, user, hmem, huser, hcheck⟩
  rw [hseen] at hmem
  unfold checkInviteTarget at hcheck
  constructor
  · intro userId hinvited
    rw [hinvited] at hcheck
    exact (beq_iff_eq.mp (require_eq_ok.mp hcheck)).symm
  · intro email hinvited hemail
    rw [hinvited, hemail] at hcheck
    have hboth := (Bool.and_eq_true _ _).mp (require_eq_ok.mp hcheck)
    exact ⟨db, user, hmem, huser, beq_iff_eq.mp hboth.1, hboth.2⟩

theorem invites_are_redeemed_once (e : inviteWorkload.system.Execution) : InvitesRedeemed e := by
  constructor
  · intro m n session session' env env' grant grant' hgrant hgrant' hid htargeted
    have h := grantStep_of_grantsAt hgrant
    have h' := grantStep_of_grantsAt hgrant'
    rcases Nat.lt_trichotomy m n with hlt | heq | hgt
    · rw [(h.generic_of_lt h' hid hlt).1] at htargeted
      cases htargeted
    · exact heq
    · rw [(h'.generic_of_lt h hid.symm hgt).2] at htargeted
      cases htargeted
  · intro n hn
    exact notBoth_of_reachable (e.reachable hn)
  · intro n session env grant hgrant
    exact (grantStep_of_grantsAt hgrant).done.role
  · intro n session env grant hgrant
    exact (grantStep_of_grantsAt hgrant).checked
  · intro n session env grant hgrant
    exact (grantStep_of_grantsAt hgrant).forUser
  · intro n session env grant hgrant hgeneric
    rw [(grantStep_of_grantsAt hgrant).done.invites, markAccepted, if_pos hgeneric]

/-- A channel of user 1, who invites user 2; that user accepts. -/
def acceptedRun : List (StoreLabel InviteCall InviteOutside) :=
  [StoreLabel.outside (InviteOutside.putUser 1 (sampleUser "ann")),
    StoreLabel.outside (InviteOutside.putUser 2 (sampleUser "bob")),
    StoreLabel.outside (InviteOutside.openChannel 3
      { ownerUserId := 1
        name := "general"
        channelSlug := "general"
        description := none
        avatarUrl := none
        visibility := ChannelVisibility.private
        joinMode := ChannelJoinMode.inviteOnly
        deletedAt := none
        lastSeqId := 0
        membershipGeneration := 0 }),
    StoreLabel.outside (InviteOutside.putMembership 3 1
      (some (ownerMembership 1 0))),
    StoreLabel.begin 0 (InviteCall.create (sampleEnv 10) 3 1 ⟨InviteTarget.user 2, 1⟩)] ++
  List.replicate 5 (StoreLabel.statement 0) ++
  [StoreLabel.commit 0, StoreLabel.begin 1 (InviteCall.accept (sampleEnv 20) "token" 2)] ++
  List.replicate 6 (StoreLabel.statement 1) ++
  [StoreLabel.commit 1]

theorem acceptedRun_redeems_targeted_invite :
    exists (e : inviteWorkload.system.Execution) (session : Session Database InviteCall)
      (env : Env) (grant : InviteGrant), GrantsAt e 18 session env grant ∧
        grant.invite.isGeneric = false ∧ InvitesRedeemed e := by
  have hrun : (acceptedRun.foldlM inviteWorkload.next ⟨Database.empty, Table.empty⟩).isSome
      = true := by
    decide +kernel
  have hgrant : (((System.runStates inviteWorkload.next ⟨Database.empty, Table.empty⟩
      acceptedRun 18).sessions.get 1).bind (fun session =>
        ((session.request.script.outcome session.seen).bind InviteResult.grant).map
          (fun found => found.2.invite.isGeneric))) = some false := by
    decide +kernel
  rcases Option.isSome_iff_exists.mp hrun with ⟨last, hlast⟩
  rcases Option.bind_eq_some_iff.mp hgrant with ⟨session, hget, hfound⟩
  rcases Option.map_eq_some_iff.mp hfound with ⟨⟨env, grant⟩, hresult, htargeted⟩
  rcases Option.bind_eq_some_iff.mp hresult with ⟨result, hreturns, hgrants⟩
  have hstart : inviteWorkload.system.start ⟨Database.empty, Table.empty⟩ := ⟨rfl, rfl⟩
  refine ⟨System.Execution.ofRun (fun _ _ _ hstep => hstep) hstart hlast
    (StoreLabel.rollback 0), session, env, grant, ?_, htargeted, invites_are_redeemed_once _⟩
  have hlength : 18 < acceptedRun.length := by
    decide
  exact ⟨hlength, 1, result, rfl, hget, hreturns, hgrants⟩

end MessagingSystem
