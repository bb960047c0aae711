import MessagingSystem.Core.Identifiers
import MessagingSystem.Foundation.SortedSet
import MessagingSystem.Foundation.Transition

/-!
# Presence by leases

Every connection of a user holds a lease that it renews.  The leases of a user are a sorted set
by the time at which they expire, an index holds the leases of all users, a hash the usernames
of users with leases, and a set the usernames that are online.  Three scripts change these
structures, and Redis drops the key of a user when its time to live is over.
-/

namespace MessagingSystem

open Foundation

/-- `leases` and `expireAt` are the keys of the users, by the text of the user id. -/
structure PresenceStore where
  leases : String -> SortedSet String Rat
  expireAt : String -> Option Rat
  expirations : SortedSet String Rat
  usernames : Table String String
  online : Finset String

def PresenceStore.empty : PresenceStore where
  leases := fun _ => SortedSet.empty
  expireAt := fun _ => none
  expirations := SortedSet.empty
  usernames := Table.empty
  online := ∅

/-- The member of the index for a lease. -/
def indexMember (userId connectionId : String) : String :=
  userId ++ ":" ++ connectionId

/-- The parts of a member before and after its first colon. -/
def splitMember (member : String) : Option (String × String) :=
  if ':' ∈ member.toList then
    some (String.ofList (member.toList.takeWhile (fun c => c != ':')),
      String.ofList (member.toList.dropWhile (fun c => c != ':')).tail)
  else none

namespace PresenceStore

def setLeases (s : PresenceStore) (userId : String) (z : SortedSet String Rat) : PresenceStore :=
  { s with leases := Function.update s.leases userId z }

/-- The beginning of two scripts: the expired leases of the user go, here and in the index. -/
def dropExpired (s : PresenceStore) (userId : String) (now : Rat) : PresenceStore :=
  let expired := (s.leases userId).zrangeByScore now
  { s with
    leases := Function.update s.leases userId ((s.leases userId).zremrangeByScore now)
    expirations := expired.foldl (fun z c => z.zrem (indexMember userId c)) s.expirations }

def registerOrRefreshScript (s : PresenceStore) (userId connectionId username : String)
    (now expiresAt : Rat) (keyTtl : Nat) : Int × PresenceStore :=
  let s := s.dropExpired userId now
  let before := (s.leases userId).zcard
  let s :=
    { s with
      leases := Function.update s.leases userId ((s.leases userId).zadd expiresAt connectionId)
      expirations := s.expirations.zadd expiresAt (indexMember userId connectionId)
      usernames := s.usernames.set userId (some username)
      expireAt := Function.update s.expireAt userId (some (now + keyTtl))
      online := insert username s.online }
  (if before = 0 then 1 else 0, s)

def disconnectScript (s : PresenceStore) (userId connectionId username : String) (now : Rat) :
    Int × PresenceStore :=
  let s := s.dropExpired userId now
  let before := (s.leases userId).zcard
  let s :=
    { s with
      leases := Function.update s.leases userId ((s.leases userId).zrem connectionId)
      expirations := s.expirations.zrem (indexMember userId connectionId) }
  if (s.leases userId).zcard = 0 then
    (if 0 < before then -1 else 0,
      { s with
        leases := Function.update s.leases userId SortedSet.empty
        expireAt := Function.update s.expireAt userId none
        usernames := s.usernames.set userId none
        online := s.online.erase username })
  else (0, s)

/-- What the reaper does when a user has no lease left. -/
def dropUser (s : PresenceStore) (userId : String) (offline : List String) :
    List String × PresenceStore :=
  let found := s.usernames.get userId
  let s :=
    { s with
      leases := Function.update s.leases userId SortedSet.empty
      expireAt := Function.update s.expireAt userId none
      usernames := s.usernames.set userId none }
  match found with
  | some username =>
      if username ∈ s.online then
        (offline ++ [username], { s with online := s.online.erase username })
      else (offline, s)
  | none => (offline, s)

/-- The body of the loop of the reaper; the list holds the usernames that went offline. -/
def reapMember (now : Rat) (state : List String × PresenceStore) (member : String) :
    List String × PresenceStore :=
  let s := state.2
  match splitMember member with
  | none => (state.1, { s with expirations := s.expirations.zrem member })
  | some (userId, connectionId) =>
      if (s.expirations.zscore member).any (fun score => decide (score ≤ now)) then
        let own := s.leases userId
        let own :=
          if (own.zscore connectionId).any (fun score => decide (score ≤ now)) then
            own.zrem connectionId
          else own
        let own := own.zremrangeByScore now
        let s := { s.setLeases userId own with expirations := s.expirations.zrem member }
        if own.zcard = 0 then s.dropUser userId state.1 else (state.1, s)
      else state

def reapScript (s : PresenceStore) (now : Rat) (batchSize : Nat) :
    List String × PresenceStore :=
  let due := (s.expirations.zrangeByScore now).take batchSize
  due.foldl (reapMember now) ([], s)

/-- The key of a user is dropped by Redis. -/
def dropKey (s : PresenceStore) (userId : String) : PresenceStore :=
  { s with
    leases := Function.update s.leases userId SortedSet.empty
    expireAt := Function.update s.expireAt userId none }

end PresenceStore

/-!
# The service
-/

structure PresenceSettings where
  leaseSeconds : Nat
  reaperBatchSize : Nat
  reaperBatchSize_pos : 0 < reaperBatchSize

def PresenceSettings.keyTtl (settings : PresenceSettings) : Nat :=
  max (settings.leaseSeconds + 1) (settings.leaseSeconds * 2)

inductive PresenceTransition where
  | online
  | offline
  | none
  | unknown
  deriving DecidableEq, Repr

section

variable (settings : PresenceSettings)

/--
Both `register` and `refresh`.  Nothing happens when Redis cannot be reached or when the
username is refused.
-/
def registerOrRefresh (reachable : Bool) (s : PresenceStore) (userId : Uuid)
    (username connectionId : String) (now : Rat) : PresenceTransition × PresenceStore :=
  match reachable, normalizeUsername username with
  | true, Except.ok name =>
      let result := s.registerOrRefreshScript userId.str connectionId name now
        (now + settings.leaseSeconds) settings.keyTtl
      (if result.1 = 1 then PresenceTransition.online else PresenceTransition.none, result.2)
  | _, _ => (PresenceTransition.unknown, s)

def disconnectPresence (reachable : Bool) (s : PresenceStore) (userId : Uuid)
    (username connectionId : String) (now : Rat) : PresenceTransition × PresenceStore :=
  match reachable, normalizeUsername username with
  | true, Except.ok name =>
      let result := s.disconnectScript userId.str connectionId name now
      (if result.1 = -1 then PresenceTransition.offline else PresenceTransition.none, result.2)
  | _, _ => (PresenceTransition.unknown, s)

structure PresenceReapResult where
  offlineUsernames : List String
  available : Bool

def reapExpired (reachable : Bool) (s : PresenceStore) (now : Rat) :
    PresenceReapResult × PresenceStore :=
  if reachable then
    let result := s.reapScript now settings.reaperBatchSize
    (⟨result.1, true⟩, result.2)
  else (⟨[], false⟩, s)

/-!
# Histories

The clock of a step is not before the clock of the last one.  A user always comes with the same
username.
-/

structure PresenceState where
  store : PresenceStore
  now : Rat

inductive PresenceLabel where
  | registerOrRefresh (userId : Uuid) (connectionId : String) (now : Rat)
  | disconnect (userId : Uuid) (connectionId : String) (now : Rat)
  | reap (now : Rat)
  | keyExpires (userId : Uuid) (now : Rat)

def PresenceLabel.time : PresenceLabel -> Rat
  | registerOrRefresh _ _ now => now
  | disconnect _ _ now => now
  | reap now => now
  | keyExpires _ now => now

variable (usernameOf : Uuid -> String)

def PresenceStore.run (s : PresenceStore) : PresenceLabel -> Option PresenceStore
  | PresenceLabel.registerOrRefresh userId connectionId now =>
      some (MessagingSystem.registerOrRefresh settings true s userId (usernameOf userId)
        connectionId now).2
  | PresenceLabel.disconnect userId connectionId now =>
      some (disconnectPresence true s userId (usernameOf userId) connectionId now).2
  | PresenceLabel.reap now => some (reapExpired settings true s now).2
  | PresenceLabel.keyExpires userId now =>
      if (s.expireAt userId.str).any (fun expiry => decide (expiry ≤ now)) then
        some (s.dropKey userId.str)
      else none

def PresenceState.next (state : PresenceState) (label : PresenceLabel) : Option PresenceState :=
  if state.now ≤ label.time then
    (state.store.run settings usernameOf label).map fun store => ⟨store, label.time⟩
  else none

def presenceSystem : System PresenceState PresenceLabel where
  start state := state.store = PresenceStore.empty
  step state label state' := state.next settings usernameOf label = some state'

end

end MessagingSystem
