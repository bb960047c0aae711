import MessagingSystem.Channels.System

/-!
# Owners and the role hierarchy

Every channel has one owner row, that of `owner_user_id`, as long as no operation
overwrites it.  Two operations can: `add_member_direct` aimed at the owner, and
`accept_invite` when the owner presents an invite that is addressed to somebody.
The same missing check lets an admin turn another admin into a plain member.
-/

namespace MessagingSystem

open Foundation

variable {env : Env} {db db' : Database}

/-!
# The owner invariant
-/

variable {c u : Uuid} {call : Call} {row : Option ChannelMembership} {mid : Database}

/-- The user of `owner_user_id`, and nobody else, has the owner role. -/
def OwnersUnique (db : Database) : Prop :=
  forall c channel, db.channels.get c = some channel ->
    forall u, db.role c u = some MembershipRole.owner ↔ u = channel.ownerUserId

/-- The step replaces the owner's row by that of a plain member. -/
def OverwritesOwner (db : Database) : ChannelAction -> Prop
  | ChannelAction.call _ (Call.addMemberDirect c _ t) =>
      exists channel, db.channels.get c = some channel ∧ channel.ownerUserId = t
  | ChannelAction.call env (Call.acceptInvite token u) =>
      exists inviteId invite channel, db.invites.get inviteId = some invite ∧
        invite.tokenHash = env.sha256Hex token ∧ invite.isGeneric = false ∧
        db.channels.get invite.channelId = some channel ∧ channel.ownerUserId = u
  | _ => False

structure OwnerInvariant (db : Database) : Prop where
  unique : OwnersUnique db
  memberships : MembershipsHaveChannels db

theorem role_of_getMembership {m : ChannelMembership} (h : db.getMembership c u = some m) :
    db.role c u = some m.role := by
  unfold Database.role
  rw [h]
  rfl

/-- No rule other than the two overwriting ones gives or takes the owner role. -/
theorem Rule.spares_owner (h : Rule env db c u call row) {channel : Channel}
    (hchannel : db.channels.get c = some channel)
    (howner : db.role c channel.ownerUserId = some MembershipRole.owner)
    (hsafe : ¬OverwritesOwner db (ChannelAction.call env call)) :
    u ≠ channel.ownerUserId ∧
      row.map ChannelMembership.role ≠ some MembershipRole.owner := by
  -- A target whose role is known not to be owner is not the owner.
  have hother : forall {m : ChannelMembership}, db.getMembership c u = some m ->
      m.role ≠ MembershipRole.owner -> u ≠ channel.ownerUserId := by
    rintro m hm hrole rfl
    rw [role_of_getMembership hm] at howner
    exact hrole (Option.some.inj howner)
  cases h with
  | join token row hnew hrole =>
      constructor
      · rintro rfl
        rw [Database.role, hnew] at howner
        cases howner
      · rcases hrole with hrole | hrole <;> simp [hrole]
  | accept token inviteId invite row hvalid hgeneric hrole =>
      constructor
      · intro heq
        rcases validateInvite_found hvalid with ⟨hinvite, hc, hhash⟩
        cases hkind : invite.isGeneric with
        | true =>
            refine hgeneric hkind ?_
            rw [Database.Approved, heq, howner]
            rfl
        | false =>
            refine hsafe ⟨inviteId, invite, channel, hinvite, hhash, hkind, ?_, heq.symm⟩
            exact hc.symm ▸ hchannel
      · simp [hrole]
  | approve a actor target row _ htarget _ hpending hrole =>
      exact ⟨hother htarget (by simp [hpending]), by simp [hrole]⟩
  | add a row _ hrole =>
      constructor
      · intro heq
        exact hsafe ⟨channel, hchannel, heq.symm⟩
      · simp [hrole]
  | promote a actor target row _ htarget hcan hrole =>
      refine ⟨hother htarget ?_, by simp [hrole]⟩
      intro htargetRole
      simp [canPromote, htargetRole] at hcan
  | demote a actor target row _ htarget hcan hrole =>
      refine ⟨hother htarget ?_, by simp [hrole]⟩
      intro htargetRole
      simp [canDemote, htargetRole] at hcan
  | permissions a req actor target row _ htarget _ hadmin hrole =>
      exact ⟨hother htarget (by simp [hadmin]), by simp [hrole]⟩
  | remove a actor target _ htarget _ hcan =>
      refine ⟨hother htarget ?_, by simp⟩
      intro htargetRole
      rw [htargetRole] at hcan
      revert hcan
      cases actor.role <;> decide
  | leave membership hmember hrole =>
      exact ⟨hother hmember hrole, by simp⟩

theorem role_set (h : mid.memberships = db.memberships.set (c, u) row) (c' u' : Uuid) :
    mid.role c' u' =
      if c' = c ∧ u' = u then row.map ChannelMembership.role else db.role c' u' := by
  unfold Database.role
  rw [Database.getMembership_set h]
  split <;> rfl

theorem role_setMembership (db : Database) (c u : Uuid)
    (row : Option ChannelMembership) :
    (db.setMembership c u row).role c u = row.map ChannelMembership.role := by
  rw [@role_set db c u row (db.setMembership c u row) rfl, if_pos ⟨rfl, rfl⟩]

/-- A changed channel row keeps its owner column, so equal roles suffice. -/
theorem ownersUnique_of_roles {pairs : List (Uuid × Uuid)} (h : Change env db mid call pairs)
    (hdb : OwnersUnique db)
    (hold : forall c, (mid.channels.get c).isSome -> (db.channels.get c).isSome)
    (hroles : forall c u, (db.channels.get c).isSome = true ->
      (mid.role c u = some MembershipRole.owner ↔
        db.role c u = some MembershipRole.owner)) : OwnersUnique mid := by
  intro c channel hchannel u
  have hisSome : (db.channels.get c).isSome = true := by
    apply hold
    rw [hchannel]
    rfl
  rcases Option.isSome_iff_exists.mp hisSome with ⟨before, hbefore⟩
  rcases h.keeps_channel hbefore with ⟨after, hafter, howner⟩
  rw [hchannel] at hafter
  cases hafter
  rw [hroles c u hisSome, hdb c before hbefore u, howner]

theorem Change.ownersUnique {pairs : List (Uuid × Uuid)} (h : Change env db mid call pairs)
    (hdb : OwnerInvariant db) (hsafe : ¬OverwritesOwner db (ChannelAction.call env call)) :
    OwnersUnique mid := by
  have hset : forall {c : Uuid} {found changed : Channel},
      db.channels.get c = some found ->
      mid.channels = db.channels.set c (some changed) ->
      forall c', (mid.channels.get c').isSome -> (db.channels.get c').isSome := by
    intro c found changed hfound hchannels c' hc'
    rw [hchannels] at hc'
    exact Table.isSome_of_get_set (by rw [hfound]; rfl) hc'
  have hsame : mid.memberships = db.memberships ->
      forall c u, (db.channels.get c).isSome = true ->
        (mid.role c u = some MembershipRole.owner ↔
          db.role c u = some MembershipRole.owner) := by
    intro heq c u _
    rw [role_congr heq]
  cases hcase : h with
  | quiet _ _ hchannels hmemberships =>
      refine ownersUnique_of_roles h hdb.unique ?_ (hsame hmemberships)
      rw [hchannels]
      exact fun _ hc => hc
  | created c owner req channel row hfresh hchannels hmemberships howner _ _ _ hrole _ =>
      -- The new channel has no other membership, because its id was unused.
      intro c' channel' hchannel' u
      rw [role_set hmemberships]
      rw [hchannels] at hchannel'
      rcases Table.get_set_some_cases hchannel' with ⟨rfl, rfl⟩ | ⟨hne, hchannel'⟩
      · rw [howner]
        by_cases hu : u = owner
        · rw [if_pos ⟨rfl, hu⟩]
          simp [hrole, hu]
        · rw [if_neg (fun hand => hu hand.2)]
          have hnone : db.role c' u = none := by
            unfold Database.role
            rw [Option.map_eq_none_iff]
            by_contra hsome
            have := hdb.memberships c' u (Option.isSome_iff_ne_none.mpr hsome)
            rw [hfresh] at this
            cases this
          simp [hnone, hu]
      · rw [if_neg (fun hand => hne hand.1)]
        exact hdb.unique c' channel' hchannel' u
  | member _ c u channel row hchannel _ hchannels hmemberships hrule =>
      refine ownersUnique_of_roles h hdb.unique (hset hchannel hchannels) ?_
      intro c' u' _
      rw [role_set hmemberships]
      split
      · rename_i heq
        rw [heq.1, heq.2]
        have howner := (hdb.unique c channel hchannel channel.ownerUserId).mpr rfl
        rcases hrule.spares_owner hchannel howner hsafe with ⟨hne, hrow⟩
        rw [hdb.unique c channel hchannel u]
        exact ⟨fun h => absurd h hrow, fun h => absurd h hne⟩
      · rfl
  | edited c _ _ _ _ hchannel _ hchannels hmemberships =>
      exact ownersUnique_of_roles h hdb.unique (hset hchannel hchannels)
        (hsame hmemberships)
  | switched _ c _ _ hchannel _ hchannels hmemberships =>
      exact ownersUnique_of_roles h hdb.unique (hset hchannel hchannels)
        (hsame hmemberships)

theorem OwnerInvariant.congr (h : OwnerInvariant db)
    (hchannels : db'.channels = db.channels)
    (hmemberships : db'.memberships = db.memberships) : OwnerInvariant db' := by
  constructor
  · intro c channel hchannel u
    rw [hchannels] at hchannel
    rw [role_congr hmemberships]
    exact h.unique c channel hchannel u
  · intro c u hmember
    rw [getMembership_congr hmemberships] at hmember
    rw [hchannels]
    exact h.memberships c u hmember

theorem ownerInvariant_step {action : ChannelAction}
    (hdb : OwnerInvariant db) (hsafe : ¬OverwritesOwner db action)
    (h : action.run db = Except.ok db') : OwnerInvariant db' := by
  cases action with
  | call env request =>
      rcases (Call.effect h).exists_change with ⟨mid, pairs, _, hchange, htouched⟩
      have hmid : OwnerInvariant mid :=
        ⟨hchange.ownersUnique hdb hsafe, hchange.membershipsHaveChannels hdb.memberships⟩
      exact hmid.congr htouched.channels htouched.memberships
  | putUser userId user =>
      cases h
      exact hdb.congr rfl rfl

theorem ownerInvariant_empty : OwnerInvariant Database.empty := by
  constructor
  · intro c channel hchannel
    cases hchannel
  · intro c u hmember
    cases hmember

/-- Histories in which no step overwrites the owner's row. -/
def ownerSafeSystem : System Database ChannelAction :=
  channelSystem.restrict (fun db action => ¬OverwritesOwner db action)

theorem owner_is_unique {db : Database} (h : ownerSafeSystem.Reachable db) :
    OwnersUnique db := by
  have hinvariant : OwnerInvariant db := by
    refine System.Reachable.invariant ?_ ?_ h
    · intro s hs
      rw [hs]
      exact ownerInvariant_empty
    · intro s action t hs hstep
      exact ownerInvariant_step hs hstep.1 hstep.2
  exact hinvariant.unique

/-- User 1 opens the channel 100. -/
def openedChannel : List ChannelAction :=
  [ChannelAction.putUser 1 (sampleUser "alice"),
    ChannelAction.call (sampleEnv 100)
      (Call.createChannel 1 (sampleChannelRequest "general"))]

/-- Users 2 and 3 join the channel of user 1, who makes user 2 an admin. -/
def staffedChannel : List ChannelAction :=
  openedChannel ++
    [ChannelAction.putUser 2 (sampleUser "bob"),
      ChannelAction.putUser 3 (sampleUser "carol"),
      ChannelAction.call (sampleEnv 200) (Call.joinChannel 100 2 none),
      ChannelAction.call (sampleEnv 300) (Call.joinChannel 100 3 none),
      ChannelAction.call (sampleEnv 400) (Call.promoteMember 100 1 2)]

/-- User 2, now an admin, adds user 4. -/
theorem staffedChannel_owner_is_unique :
    exists db, ownerSafeSystem.Reachable db ∧ db.channels.keys = [100] ∧
      db.role 100 2 = some MembershipRole.admin ∧ db.role 100 4 = some MembershipRole.member ∧
      OwnersUnique db := by
  let add := ChannelAction.call (sampleEnv 500) (Call.addMemberDirect 100 2 4)
  let actions := staffedChannel ++ [ChannelAction.putUser 4 (sampleUser "dave")]
  have hsafe : forall action, action ∈ actions -> forall s, ¬OverwritesOwner s action := by
    intro action haction s
    simp only [actions, staffedChannel, openedChannel, List.cons_append, List.nil_append,
      List.mem_cons, List.not_mem_nil, or_false] at haction
    rcases haction with rfl | rfl | rfl | rfl | rfl | rfl | rfl | rfl <;> exact id
  have hrun : (runActions Database.empty actions).toOption.map
      (fun db => ((db.channels.get 100).map Channel.ownerUserId, (add.run db).toOption.map
        (fun db' => (db'.channels.keys, db'.role 100 2, db'.role 100 4))))
        = some (some 1,
          some ([100], some MembershipRole.admin, some MembershipRole.member)) := by
    decide +kernel
  rcases exists_reachable_of_run hsafe hrun with ⟨db, hreach, hview⟩
  have howner : (db.channels.get 100).map Channel.ownerUserId = some 1 :=
    congrArg Prod.fst hview
  have hadded := congrArg Prod.snd hview
  dsimp only at hadded
  cases hok : add.run db with
  | error e =>
      rw [hok] at hadded
      cases hadded
  | ok db' =>
      rw [hok] at hadded
      have hsafe' : ¬OverwritesOwner db add := by
        rintro ⟨channel, hchannel, htarget⟩
        rw [hchannel, Option.map_some, htarget] at howner
        exact absurd (Option.some.inj howner) (by decide)
      have hreach' : ownerSafeSystem.Reachable db' :=
        System.Reachable.step hreach ⟨hsafe', hok⟩
      have hshown := Option.some.inj hadded
      exact ⟨db', hreach', congrArg Prod.fst hshown, congrArg (fun v => v.2.1) hshown,
        congrArg (fun v => v.2.2) hshown, owner_is_unique hreach'⟩

/-- The owner adds themselves as a member and is a plain member afterwards. -/
theorem owner_can_lose_ownership :
    exists db, channelSystem.Reachable db ∧ ¬OwnersUnique db := by
  let actions := openedChannel ++
    [ChannelAction.call (sampleEnv 200) (Call.addMemberDirect 100 1 1)]
  have hrun : (runActions Database.empty actions).toOption.map
      (fun db => ((db.channels.get 100).map Channel.ownerUserId, db.role 100 1))
        = some (some 1, some MembershipRole.member) := by
    decide +kernel
  rcases exists_reachable_of_run (P := fun _ _ => True) (fun _ _ _ => trivial) hrun with
    ⟨db, hreach, hview⟩
  refine ⟨db, hreach.of_restrict, ?_⟩
  intro hunique
  rcases Option.map_eq_some_iff.mp (congrArg Prod.fst hview) with
    ⟨channel, hchannel, howner⟩
  have hrole : db.role 100 1 = some MembershipRole.member := congrArg Prod.snd hview
  have hmust := (hunique 100 channel hchannel 1).mpr howner.symm
  rw [hrole] at hmust
  cases hmust

/-!
# The role hierarchy
-/

variable {a t : Uuid}

/-- Channel, actor and target of an operation by which one member changes another. -/
def Call.membershipOperation : Call -> Option (Uuid × Uuid × Uuid)
  | approveMember c a t => some (c, a, t)
  | addMemberDirect c a t => some (c, a, t)
  | promoteMember c a t => some (c, a, t)
  | demoteMember c a t => some (c, a, t)
  | updateAdminPermissions c a t _ => some (c, a, t)
  | removeMember c a t => some (c, a, t)
  | _ => none

def IsAdminOrOwner (role : Option MembershipRole) : Prop :=
  role = some MembershipRole.admin ∨ role = some MembershipRole.owner

/-- An admin or owner keeps the membership, the role and every permission. -/
def KeepsStanding (db db' : Database) (c u : Uuid) : Prop :=
  forall before, db.getMembership c u = some before ->
    IsAdminOrOwner (some before.role) ->
    exists after, db'.getMembership c u = some after ∧
      after.role.weight ≤ before.role.weight ∧
      Permissions.Le (membershipPermissions (some before))
        (membershipPermissions (some after))

/-- `add_member_direct` aimed at somebody else who is admin or owner. -/
def OverwritesHigherRole (db : Database) (call : Call) : Prop :=
  exists c a t, call = Call.addMemberDirect c a t ∧ t ≠ a ∧ IsAdminOrOwner (db.role c t)

theorem keepsStanding_of_eq (h : db'.getMembership c u = db.getMembership c u) :
    KeepsStanding db db' c u := by
  intro before hbefore _
  exact ⟨before, h.trans hbefore, Nat.le_refl _, Permissions.Le.refl _⟩

/-- Below the owner, only `add_member_direct` reaches an admin or the owner. -/
theorem Rule.target_of_not_owner (h : Rule env db c u call row)
    (hop : call.membershipOperation = some (c, a, t))
    (hactor : db.role c a ≠ some MembershipRole.owner) (hadd : call ≠ Call.addMemberDirect c a t) :
    ¬IsAdminOrOwner (db.role c u) := by
  cases h with
  | join | accept | leave => cases hop
  | approve _ actor target _ hactor' htarget _ hpending _ =>
      rw [role_of_getMembership htarget, hpending]
      simp [IsAdminOrOwner]
  | add _ _ _ _ =>
      cases hop
      exact absurd rfl hadd
  | promote _ actor target _ hactor' _ hcan _ =>
      cases hop
      rw [role_of_getMembership hactor'] at hactor
      simp only [canPromote, Bool.and_eq_true, beq_iff_eq] at hcan
      exact absurd hcan.1 hactor
  | demote _ actor target _ hactor' _ hcan _ =>
      cases hop
      rw [role_of_getMembership hactor'] at hactor
      simp only [canDemote, Bool.and_eq_true, beq_iff_eq] at hcan
      exact absurd hcan.1 hactor
  | permissions _ _ actor target _ hactor' _ howner _ _ =>
      cases hop
      rw [role_of_getMembership hactor', howner] at hactor
      exact absurd rfl hactor
  | remove _ actor target hactor' htarget _ hcan =>
      cases hop
      rw [role_of_getMembership hactor'] at hactor
      rw [role_of_getMembership htarget]
      have hlt := weight_lt_of_canRemove hcan
      rintro (hadmin | howner)
      · rw [Option.some.inj hadmin] at hlt
        apply hactor
        revert hlt
        cases actor.role <;> decide
      · rw [Option.some.inj howner] at hlt
        exact absurd hlt (Nat.not_lt_zero _)

theorem addMemberDirect_role (h : (Call.addMemberDirect c a t).apply env db = Except.ok db') :
    db'.role c t = some MembershipRole.member := by
  rcases map_fst_eq_ok.mp h with ⟨result, h⟩
  simp only [addMemberDirect, changeMember, bind_eq_ok, pure_eq_ok] at h
  rcases h with ⟨_, _, _, _, stored, hstored, told, htold, heq⟩
  cases heq
  rw [storeMembership_ok hstored] at htold
  rcases announceMembership_ok htold with ⟨_, mid, _, _, _, hmid, htouched⟩
  rw [role_congr (htouched.memberships.trans hmid), role_setMembership]
  exact congrArg some (admitted_role _ _ _)

theorem CallEffect.keepsStanding (h : CallEffect env call db db')
    (hop : call.membershipOperation = some (c, a, t))
    (hactor : db.role c a ≠ some MembershipRole.owner) (hsafe : ¬OverwritesHigherRole db call)
    {c' u' : Uuid} (hother : u' ≠ a) : KeepsStanding db db' c' u' := by
  rcases h.exists_change with ⟨mid, pairs, _, hchange, htouched⟩
  have hsame : mid.getMembership c' u' = db.getMembership c' u' ->
      KeepsStanding db db' c' u' := fun heq =>
    keepsStanding_of_eq ((getMembership_congr htouched.memberships c' u').trans heq)
  cases hchange with
  | quiet _ _ _ hmemberships => exact hsame (getMembership_congr hmemberships c' u')
  | created _ _ _ _ _ _ _ _ _ _ _ _ _ _ => cases hop
  | edited _ _ _ _ _ _ _ _ hmemberships =>
      exact hsame (getMembership_congr hmemberships c' u')
  | switched _ _ _ _ _ _ _ hmemberships =>
      exact hsame (getMembership_congr hmemberships c' u')
  | member _ rc ru _ row _ _ _ hmemberships hrule =>
      by_cases heq : c' = rc ∧ u' = ru
      · rcases heq with ⟨rfl, rfl⟩
        intro before hbefore hhigh
        rw [← role_of_getMembership hbefore] at hhigh
        have hpair : c = c' ∧ t = u' := by
          cases hrule <;> cases hop <;> exact ⟨rfl, rfl⟩
        rcases hpair with ⟨rfl, rfl⟩
        refine absurd hhigh (hrule.target_of_not_owner hop hactor ?_)
        intro hadd
        exact hsafe ⟨c, a, t, hadd, hother, hhigh⟩
      · apply hsame
        rw [Database.getMembership_set hmemberships, if_neg heq]

theorem hierarchy_kept_iff {env : Env} {call : Call} {db db' : Database}
    {c a t : Uuid} (hop : call.membershipOperation = some (c, a, t))
    (hactor : db.role c a ≠ some MembershipRole.owner)
    (h : call.apply env db = Except.ok db') :
    (forall c' u, u ≠ a -> KeepsStanding db db' c' u) ↔
      ¬OverwritesHigherRole db call := by
  constructor
  · rintro hkeeps ⟨c1, a1, t1, rfl, hne, hhigh⟩
    cases hop
    cases hbefore : db.getMembership c t with
    | none =>
        rw [Database.role, hbefore] at hhigh
        rcases hhigh with hhigh | hhigh <;> cases hhigh
    | some before =>
        rw [role_of_getMembership hbefore] at hhigh
        rcases hkeeps c t hne before hbefore hhigh with ⟨after, hafter, hweight, _⟩
        have hrole := addMemberDirect_role h
        rw [role_of_getMembership hafter] at hrole
        rw [Option.some.inj hrole] at hweight
        rcases hhigh with hhigh | hhigh <;> rw [Option.some.inj hhigh] at hweight <;>
          exact absurd hweight (by decide)
  · intro hsafe c' u hother
    exact (Call.effect h).keepsStanding hop hactor hsafe hother

theorem staffedChannel_hierarchy_kept :
    exists db db', channelSystem.Reachable db ∧
      db.role 100 2 = some MembershipRole.admin ∧
      (Call.removeMember 100 2 3).apply (sampleEnv 500) db = Except.ok db' ∧
      forall c u, u ≠ 2 -> KeepsStanding db db' c u := by
  have hrun : (runActions Database.empty staffedChannel).toOption.map
      (fun db => (db.role 100 2,
        ((Call.removeMember 100 2 3).apply (sampleEnv 500) db).toOption.isSome))
        = some (some MembershipRole.admin, true) := by
    decide +kernel
  rcases exists_reachable_of_run (P := fun _ _ => True) (fun _ _ _ => trivial) hrun with
    ⟨db, hreach, hview⟩
  have hrole : db.role 100 2 = some MembershipRole.admin := congrArg Prod.fst hview
  have hisSome := congrArg Prod.snd hview
  cases hok : (Call.removeMember 100 2 3).apply (sampleEnv 500) db with
  | error e =>
      rw [hok] at hisSome
      cases hisSome
  | ok db' =>
      refine ⟨db, db', hreach.of_restrict, hrole, hok, ?_⟩
      refine (hierarchy_kept_iff rfl ?_ hok).mpr ?_
      · rw [hrole]
        decide
      · rintro ⟨c, a, t, heq, _⟩
        cases heq

/-- User 2, an admin, adds the admin 3 and thereby takes the admin role away. -/
theorem admin_can_demote_admin :
    exists db db', channelSystem.Reachable db ∧
      db.role 100 2 = some MembershipRole.admin ∧
      (Call.addMemberDirect 100 2 3).apply (sampleEnv 600) db = Except.ok db' ∧
      ¬KeepsStanding db db' 100 3 := by
  let actions := staffedChannel ++
    [ChannelAction.call (sampleEnv 500) (Call.promoteMember 100 1 3)]
  have hrun : (runActions Database.empty actions).toOption.map
      (fun db => (db.role 100 2, db.role 100 3,
        ((Call.addMemberDirect 100 2 3).apply (sampleEnv 600) db).toOption.isSome))
        = some (some MembershipRole.admin, some MembershipRole.admin, true) := by
    decide +kernel
  rcases exists_reachable_of_run (P := fun _ _ => True) (fun _ _ _ => trivial) hrun with
    ⟨db, hreach, hview⟩
  have hactor : db.role 100 2 = some MembershipRole.admin := congrArg Prod.fst hview
  have htarget : db.role 100 3 = some MembershipRole.admin :=
    congrArg (fun v => v.2.1) hview
  have hisSome := congrArg (fun v => v.2.2) hview
  cases hok : (Call.addMemberDirect 100 2 3).apply (sampleEnv 600) db with
  | error e =>
      rw [hok] at hisSome
      cases hisSome
  | ok db' =>
      refine ⟨db, db', hreach.of_restrict, hactor, hok, ?_⟩
      intro hkeeps
      rcases Option.map_eq_some_iff.mp htarget with ⟨before, hbefore, hrole⟩
      rcases hkeeps before hbefore (Or.inl (congrArg some hrole)) with
        ⟨after, hafter, hweight, _⟩
      have hmember := addMemberDirect_role hok
      rw [role_of_getMembership hafter] at hmember
      rw [hrole, Option.some.inj hmember] at hweight
      exact absurd hweight (by decide)

end MessagingSystem
