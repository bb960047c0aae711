import MessagingSystem.Foundation.Json

/-!
# Role-based access control

Roles, the per-admin permission dictionary and the predicates the services ask
before they change a membership.  The dictionary is stored as JSON, so it is
normalized before every use: a missing key takes its default and a present value
is read by its truth value.
-/

namespace MessagingSystem

open Foundation

inductive MembershipRole where
  | owner
  | admin
  | member
  | pending
  deriving DecidableEq, Repr

namespace MembershipRole

def value : MembershipRole -> String
  | owner => "owner"
  | admin => "admin"
  | member => "member"
  | pending => "pending"

/-- `ROLE_WEIGHT`: a higher role has a smaller weight. -/
def weight : MembershipRole -> Nat
  | owner => 0
  | admin => 1
  | member => 2
  | pending => 3

/-- Membership in `APPROVED_ROLES`. -/
def approved : MembershipRole -> Bool
  | owner => true
  | admin => true
  | member => true
  | pending => false

end MembershipRole

/-!
# Permission dictionaries
-/

structure AdminPermissions where
  canPublish : Bool
  canInvite : Bool
  canApprove : Bool
  canManageMembers : Bool
  canEditChannel : Bool
  deriving DecidableEq, Repr

def defaultAdminPermissions : AdminPermissions where
  canPublish := true
  canInvite := true
  canApprove := true
  canManageMembers := true
  canEditChannel := false

def AdminPermissions.toJson (p : AdminPermissions) : Json :=
  Json.obj
    [("can_publish", Json.bool p.canPublish),
      ("can_invite", Json.bool p.canInvite),
      ("can_approve", Json.bool p.canApprove),
      ("can_manage_members", Json.bool p.canManageMembers),
      ("can_edit_channel", Json.bool p.canEditChannel)]

def permissionFlag (members : List (String × Json)) (key : String)
    (fallback : Bool) : Bool :=
  match Json.member? members key with
  | some v => v.truthy
  | none => fallback

def normalizeAdminPermissions : Option Json -> AdminPermissions
  | some (Json.obj members) =>
      { canPublish := permissionFlag members "can_publish"
          defaultAdminPermissions.canPublish
        canInvite := permissionFlag members "can_invite"
          defaultAdminPermissions.canInvite
        canApprove := permissionFlag members "can_approve"
          defaultAdminPermissions.canApprove
        canManageMembers := permissionFlag members "can_manage_members"
          defaultAdminPermissions.canManageMembers
        canEditChannel := permissionFlag members "can_edit_channel"
          defaultAdminPermissions.canEditChannel }
  | _ => defaultAdminPermissions

structure Permissions extends AdminPermissions where
  canDeleteChannel : Bool
  deriving DecidableEq, Repr

/-- Every permission of the left side is a permission of the right side. -/
def Permissions.Le (p q : Permissions) : Prop :=
  (p.canPublish -> q.canPublish) ∧ (p.canInvite -> q.canInvite) ∧
    (p.canApprove -> q.canApprove) ∧
    (p.canManageMembers -> q.canManageMembers) ∧
    (p.canEditChannel -> q.canEditChannel) ∧
    (p.canDeleteChannel -> q.canDeleteChannel)

instance (p q : Permissions) : Decidable (Permissions.Le p q) := by
  unfold Permissions.Le
  infer_instance

theorem Permissions.Le.refl (p : Permissions) : Permissions.Le p p :=
  ⟨id, id, id, id, id, id⟩

def buildPermissions (role : Option MembershipRole)
    (adminPermissions : Option Json) : Permissions :=
  match role with
  | some MembershipRole.owner =>
      { canPublish := true, canInvite := true, canApprove := true,
        canManageMembers := true, canEditChannel := true,
        canDeleteChannel := true }
  | some MembershipRole.admin =>
      { normalizeAdminPermissions adminPermissions with
        canDeleteChannel := false }
  | _ =>
      { canPublish := false, canInvite := false, canApprove := false,
        canManageMembers := false, canEditChannel := false,
        canDeleteChannel := false }

/-!
# Predicates
-/

def canPublish (role : Option MembershipRole) (adminPermissions : Option Json) :
    Bool :=
  (buildPermissions role adminPermissions).canPublish

def canInvite (role : Option MembershipRole) (adminPermissions : Option Json) :
    Bool :=
  (buildPermissions role adminPermissions).canInvite

def canApprove (role : Option MembershipRole) (adminPermissions : Option Json) :
    Bool :=
  (buildPermissions role adminPermissions).canApprove

def canRemove (actorRole targetRole : Option MembershipRole) : Bool :=
  match actorRole with
  | some MembershipRole.owner => targetRole != some MembershipRole.owner
  | some MembershipRole.admin =>
      targetRole == some MembershipRole.member ||
        targetRole == some MembershipRole.pending
  | _ => false

def canPromote (actorRole targetRole : Option MembershipRole) : Bool :=
  actorRole == some MembershipRole.owner &&
    targetRole == some MembershipRole.member

def canDemote (actorRole targetRole : Option MembershipRole) : Bool :=
  actorRole == some MembershipRole.owner &&
    targetRole == some MembershipRole.admin

def canRead : Option MembershipRole -> Bool
  | some role => role.approved
  | none => false

/-- Nobody may be removed by an actor whose role is not strictly higher. -/
theorem weight_lt_of_canRemove {actorRole targetRole : MembershipRole}
    (h : canRemove (some actorRole) (some targetRole) = true) :
    actorRole.weight < targetRole.weight := by
  revert h
  cases actorRole <;> cases targetRole <;> decide

end MessagingSystem
