import MessagingSystem.Channels.CallEffects
import MessagingSystem.Foundation.Transition

/-!
# Histories of the channel service

A history starts with empty tables.  Accounts appear and change at any time, and
calls with any arguments are committed one after the other: after creation each
of them locks the channel row first.
-/

namespace MessagingSystem

open Foundation

variable {db db' : Database}

inductive ChannelAction where
  | call (env : Env) (request : Call)
  | putUser (userId : Uuid) (user : User)

def Database.putUser (db : Database) (userId : Uuid) (user : User) : Database :=
  { db with users := db.users.set userId (some user) }

def ChannelAction.run (db : Database) : ChannelAction -> Except Failure Database
  | call env request => request.apply env db
  | putUser userId user => pure (db.putUser userId user)

def channelSystem : System Database ChannelAction where
  start db := db = Database.empty
  step db action db' := action.run db = Except.ok db'

/-- The state a list of actions leads to, when all of them succeed. -/
def runActions (db : Database) (actions : List ChannelAction) :
    Except Failure Database :=
  actions.foldlM ChannelAction.run db

variable {P : Database -> ChannelAction -> Prop} {actions : List ChannelAction}

theorem reachable_of_runActions (hdb : (channelSystem.restrict P).Reachable db)
    (hP : forall action, action ∈ actions -> forall s, P s action)
    (h : runActions db actions = Except.ok db') : (channelSystem.restrict P).Reachable db' := by
  induction actions generalizing db with
  | nil =>
      cases h
      exact hdb
  | cons action actions ih =>
      unfold runActions at h
      rw [List.foldlM_cons, bind_eq_ok] at h
      rcases h with ⟨mid, hmid, hrest⟩
      have hstep := System.Reachable.step hdb ⟨hP action List.mem_cons_self db, hmid⟩
      exact ih hstep (fun a ha => hP a (List.mem_cons_of_mem action ha)) hrest

/-- A history that evaluates to a state with some view is a reachable such state. -/
theorem exists_reachable_of_run {α : Type} {view : Database -> α} {v : α}
    (hP : forall action, action ∈ actions -> forall s, P s action)
    (h : (runActions Database.empty actions).toOption.map view = some v) :
    exists db, (channelSystem.restrict P).Reachable db ∧ view db = v := by
  cases hok : runActions Database.empty actions with
  | error e =>
      rw [hok] at h
      cases h
  | ok db =>
      rw [hok] at h
      exact ⟨db, reachable_of_runActions (System.Reachable.start rfl) hP hok,
        Option.some.inj h⟩

/-!
# A concrete surrounding

Fixed surroundings in which histories can be evaluated: a stopped clock, no
avatars, identity instead of a hash, and identifiers that count up from a seed.
-/

def sampleEnv (seed : Nat) : Env where
  settings :=
    { maxChannelsOwnedPerUser := 10, maxActiveInvitesPerUser := 10,
      outboxMaxAttempts := 5, isProductionLike := false,
      emailVerificationEnabled := false }
  clock := fun _ => 0
  fresh := fun n => BitVec.ofNat 128 (seed + n)
  inviteToken := "token"
  sha256Hex := id
  lowerText := id
  sqlLowerBtrim := id
  validateAvatarUploadReference := fun _ _ => pure ()

def sampleUser (username : String) : User where
  username := username
  email := none
  emailVerifiedAt := none
  displayName := none
  avatarUrl := none
  isSuperadmin := false
  isActive := true

def sampleChannelRequest (name : String) : ChannelCreateRequest where
  name := name
  channelSlug := none
  description := none
  avatarUrl := none
  visibility := ChannelVisibility.public
  joinMode := ChannelJoinMode.open

/-!
# Rows refer to rows
-/

variable {mid : Database} {pairs : List (Uuid × Uuid)}

/-- The foreign key of the membership table. -/
def MembershipsHaveChannels (db : Database) : Prop :=
  forall c u, (db.getMembership c u).isSome = true -> (db.channels.get c).isSome = true

theorem Database.getMembership_set {c u : Uuid} {row : Option ChannelMembership}
    (h : mid.memberships = db.memberships.set (c, u) row) (c' u' : Uuid) :
    mid.getMembership c' u' =
      if c' = c ∧ u' = u then row else db.getMembership c' u' := by
  unfold Database.getMembership
  rw [h, Table.get_set]
  simp only [Prod.mk.injEq]

theorem getMembership_congr (h : db'.memberships = db.memberships) (c u : Uuid) :
    db'.getMembership c u = db.getMembership c u := by
  unfold Database.getMembership
  rw [h]

theorem role_congr (h : db'.memberships = db.memberships) (c u : Uuid) :
    db'.role c u = db.role c u := by
  unfold Database.role
  rw [getMembership_congr h]

theorem Change.keeps_channel {env : Env} {call : Call} (h : Change env db mid call pairs)
    {c : Uuid} {channel : Channel} (hchannel : db.channels.get c = some channel) :
    exists channel', mid.channels.get c = some channel' ∧
      channel'.ownerUserId = channel.ownerUserId := by
  -- Every change of a channel row copies the row it finds.
  have hset : forall (c' : Uuid) (found changed : Channel),
      db.channels.get c' = some found -> changed.ownerUserId = found.ownerUserId ->
      exists channel', (db.channels.set c' (some changed)).get c = some channel' ∧
        channel'.ownerUserId = channel.ownerUserId := by
    intro c' found changed hfound howner
    rw [Table.get_set]
    split
    · rename_i heq
      rw [← heq, hchannel] at hfound
      cases hfound
      exact ⟨changed, rfl, howner⟩
    · exact ⟨channel, hchannel, rfl⟩
  cases h with
  | quiet _ _ hchannels => exact ⟨channel, hchannels ▸ hchannel, rfl⟩
  | created c' _ _ created _ hfresh hchannels =>
      rw [hchannels, Table.get_set_ne]
      · exact ⟨channel, hchannel, rfl⟩
      · rintro rfl
        rw [hfresh] at hchannel
        cases hchannel
  | member _ c' _ found _ hfound _ hchannels =>
      rw [hchannels]
      exact hset c' found _ hfound rfl
  | edited c' _ _ found _ hfound _ hchannels =>
      rw [hchannels]
      exact hset c' found _ hfound rfl
  | switched _ c' found _ hfound _ hchannels =>
      rw [hchannels]
      exact hset c' found _ hfound rfl

theorem Change.membershipsHaveChannels {env : Env} {call : Call}
    (h : Change env db mid call pairs) (hdb : MembershipsHaveChannels db) :
    MembershipsHaveChannels mid := by
  have hkeep : forall c, (db.channels.get c).isSome = true ->
      (mid.channels.get c).isSome = true := by
    intro c hc
    rcases Option.isSome_iff_exists.mp hc with ⟨channel, hchannel⟩
    rcases h.keeps_channel hchannel with ⟨channel', hchannel', _⟩
    rw [hchannel']
    rfl
  have hsame : mid.memberships = db.memberships -> MembershipsHaveChannels mid := by
    intro heq c u hmember
    rw [getMembership_congr heq] at hmember
    exact hkeep c (hdb c u hmember)
  cases h with
  | quiet _ _ _ hmemberships => exact hsame hmemberships
  | created c owner _ channel row _ hchannels hmemberships =>
      intro c' u' hmember
      rw [Database.getMembership_set hmemberships] at hmember
      split at hmember
      · rename_i heq
        rw [hchannels, heq.1, Table.get_set_self]
        rfl
      · exact hkeep c' (hdb c' u' hmember)
  | member _ c u channel row hchannel _ _ hmemberships =>
      intro c' u' hmember
      rw [Database.getMembership_set hmemberships] at hmember
      split at hmember
      · rename_i heq
        apply hkeep
        rw [heq.1, hchannel]
        rfl
      · exact hkeep c' (hdb c' u' hmember)
  | edited _ _ _ _ _ _ _ _ hmemberships => exact hsame hmemberships
  | switched _ _ _ _ _ _ _ hmemberships => exact hsame hmemberships

end MessagingSystem
