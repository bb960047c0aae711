import MessagingSystem.Channels.OutboxService
import MessagingSystem.Core.Encodings
import MessagingSystem.Channels.Slug

/-!
# Requests of the channel service

Bodies as the service receives them, after schema validation, and the lookups
and checks that several operations share.
-/

namespace MessagingSystem

open Foundation

structure ChannelCreateRequest where
  name : String
  channelSlug : Option ValidSlug
  description : Option String
  avatarUrl : Option String
  visibility : ChannelVisibility
  joinMode : ChannelJoinMode

/--
A patch.  `description` and `avatarUrl` may be cleared, so a provided field is
told apart from an absent one.
-/
structure ChannelPatchRequest where
  name : Option String
  channelSlug : Option ValidSlug
  description : Option (Option String)
  avatarUrl : Option (Option String)
  visibility : Option ChannelVisibility
  joinMode : Option ChannelJoinMode

/-- A validated invite is generic or names exactly one target. -/
inductive InviteTarget where
  | generic
  | user (invitedUserId : Uuid)
  | email (invitedEmail : String)

structure InviteRequest where
  target : InviteTarget
  expiresInHours : Nat

structure AdminPermissionsUpdateRequest where
  canPublish : Option Bool
  canInvite : Option Bool
  canApprove : Option Bool
  canManageMembers : Option Bool
  canEditChannel : Option Bool

/-!
# Shared lookups
-/

def forbidden : Failure :=
  appError "forbidden" 403 "FORBIDDEN"

def channelNotFound : Failure :=
  appError "channel not found" 404 "CHANNEL_NOT_FOUND"

def membershipNotFound : Failure :=
  appError "membership not found" 404 "MEMBERSHIP_NOT_FOUND"

/-- `_get_channel_for_update` and `get_channel_or_404`. -/
def getChannelForUpdate (db : Database) (channelId : Uuid) :
    Except Failure Channel := do
  let channel ← orFail (db.channels.get channelId) channelNotFound
  require channel.deletedAt.isNone channelNotFound
  pure channel

def membershipPermissions (membership : Option ChannelMembership) : Permissions :=
  buildPermissions (membership.map ChannelMembership.role)
    (membership.bind ChannelMembership.adminPermissions)

def mayInvite (membership : Option ChannelMembership) : Bool :=
  canInvite (membership.map ChannelMembership.role)
    (membership.bind ChannelMembership.adminPermissions)

theorem getChannelForUpdate_eq_ok {db : Database} {channelId : Uuid}
    {channel : Channel} :
    getChannelForUpdate db channelId = Except.ok channel ↔
      db.channels.get channelId = some channel ∧ channel.deletedAt = none := by
  simp only [getChannelForUpdate, bind_eq_ok, orFail_eq_ok, require_eq_ok, pure_eq_ok,
    Option.isNone_iff_eq_none]
  constructor
  · rintro ⟨found, hfound, _, hlive, rfl⟩
    exact ⟨hfound, hlive⟩
  · rintro ⟨hfound, hlive⟩
    exact ⟨channel, hfound, (), hlive, rfl⟩

def normalizeEmail (env : Env) (value : String) : String :=
  env.lowerText (strip value)

/-!
# Invites
-/

def ChannelInvite.isGeneric (invite : ChannelInvite) : Bool :=
  invite.invitedUserId.isNone && invite.invitedEmail.isNone

/-- The check of the invited identity that ends `_validate_invite`. -/
def checkInviteTarget (env : Env) (invite : ChannelInvite) (userId : Uuid)
    (user : User) : Except Failure Unit :=
  match invite.invitedUserId, invite.invitedEmail with
  | some invitedUserId, _ =>
      require (invitedUserId == userId)
        (appError "invite is not for this user" 403 "FORBIDDEN")
  | none, some invitedEmail =>
      require (user.email.map (normalizeEmail env)
          == some (normalizeEmail env invitedEmail) && user.emailVerifiedAt.isSome)
        (appError "verified invited email required" 403 "EMAIL_VERIFICATION_REQUIRED")
  | none, none => pure ()

def validateInvite (env : Env) (db : Database) (channelId : Uuid) (token : String)
    (userId : Uuid) : Except Failure (Uuid × ChannelInvite) := do
  let user ← orFail (db.users.get userId)
    (appError "invalid invite" 404 "INVITE_INVALID")
  let found ← orFail (db.invites.rows.find? (fun r =>
      r.2.channelId == channelId && r.2.tokenHash == env.sha256Hex token))
    (appError "invalid invite" 400 "INVITE_INVALID")
  require found.2.revokedAt.isNone (appError "invite revoked" 400 "INVITE_REVOKED")
  require (found.2.isGeneric || found.2.acceptedAt.isNone)
    (appError "invite already accepted" 409 "INVITE_ALREADY_ACCEPTED")
  require (decide (env.clock 0 < found.2.expiresAt))
    (appError "invite expired" 400 "INVITE_EXPIRED")
  checkInviteTarget env found.2 userId user
  pure found

/-- What a validated invite is: a stored row of the channel with this token. -/
theorem validateInvite_found {env : Env} {db : Database} {channelId userId : Uuid}
    {token : String} {found : Uuid × ChannelInvite}
    (h : validateInvite env db channelId token userId = Except.ok found) :
    db.invites.get found.1 = some found.2 ∧ found.2.channelId = channelId ∧
      found.2.tokenHash = env.sha256Hex token := by
  simp only [validateInvite, bind_eq_ok, orFail_eq_ok, pure_eq_ok] at h
  rcases h with ⟨_, _, row, hrow, _, _, _, _, _, _, _, _, rfl⟩
  have hmatch := List.find?_some hrow
  simp only [Bool.and_eq_true, beq_iff_eq] at hmatch
  exact ⟨Table.mem_rows.mp (List.mem_of_find?_eq_some hrow), hmatch⟩

/-- Consume a one-use invite; a generic invite stays as it is. -/
def consumeInvite (db : Database) (found : Uuid × ChannelInvite) (now : Instant) :
    Database :=
  if found.2.isGeneric then db
  else db.setInvite found.1 { found.2 with acceptedAt := some now }

end MessagingSystem
