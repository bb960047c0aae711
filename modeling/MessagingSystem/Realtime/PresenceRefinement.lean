import MessagingSystem.Realtime.Presence
import MessagingSystem.Realtime.PresenceLeases

/-!
# The scripts, user by user

Each script acts on one user as the lease machine of that user does, and leaves everything of
the other users as it is.  Only the index is shared; a user id has no colon, so its members
belong to one user each.
-/

namespace MessagingSystem

open Foundation

variable {period : Rat}

/-!
# Members of the index
-/

def ColonFree (userId : String) : Prop :=
  forall ch, ch ∈ userId.toList -> (ch != ':') = true

theorem splitMember_indexMember {userId : String} (h : ColonFree userId) (connection : String) :
    splitMember (indexMember userId connection) = some (userId, connection) := by
  have hlist : (indexMember userId connection).toList
      = userId.toList ++ ':' :: connection.toList := by
    simp [indexMember]
  have htake : (userId.toList ++ ':' :: connection.toList).takeWhile (fun ch => ch != ':')
      = userId.toList := by
    rw [List.takeWhile_append_of_pos h, List.takeWhile_cons_of_neg (by decide), List.append_nil]
  have hdrop : (userId.toList ++ ':' :: connection.toList).dropWhile (fun ch => ch != ':')
      = ':' :: connection.toList := by
    rw [List.dropWhile_append_of_pos h, List.dropWhile_cons_of_neg (by decide)]
  unfold splitMember
  rw [hlist, if_pos (List.mem_append_right _ List.mem_cons_self), htake, hdrop, List.tail_cons,
    String.ofList_toList, String.ofList_toList]

theorem indexMember_injective {u v c d : String} (hu : ColonFree u) (hv : ColonFree v)
    (h : indexMember u c = indexMember v d) : u = v ∧ c = d := by
  have hsplit := congrArg splitMember h
  rw [splitMember_indexMember hu, splitMember_indexMember hv] at hsplit
  injection hsplit with hpair
  injection hpair with huv hcd
  exact ⟨huv, hcd⟩

theorem indexMember_eq_iff {u c d : String} (hu : ColonFree u) :
    indexMember u c = indexMember u d ↔ c = d :=
  ⟨fun h => (indexMember_injective hu hu h).2, fun h => h ▸ rfl⟩

/-!
# The view of a user
-/

namespace PresenceStore

def view (s : PresenceStore) (userId name : String) : UserPresence where
  lease c := (s.leases userId).zscore c
  indexed c := s.expirations.zscore (indexMember userId c)
  username := s.usernames.get userId
  online := name ∈ s.online
  expireAt := s.expireAt userId

/-- `s'` is `s` except for the things of one user. -/
structure AgreesExcept (s s' : PresenceStore) (userId name : String) : Prop where
  leases : forall k, k ≠ userId -> s'.leases k = s.leases k
  expireAt : forall k, k ≠ userId -> s'.expireAt k = s.expireAt k
  expirations : forall m, (forall c, m ≠ indexMember userId c) ->
    s'.expirations.zscore m = s.expirations.zscore m
  usernames : forall k, k ≠ userId -> s'.usernames.get k = s.usernames.get k
  online : forall n, n ≠ name -> (n ∈ s'.online ↔ n ∈ s.online)

variable {s s' s'' : PresenceStore} {userId other name connection : String} {now expiry : Rat}

theorem AgreesExcept.refl (s : PresenceStore) (userId name : String) :
    AgreesExcept s s userId name :=
  ⟨fun _ _ => rfl, fun _ _ => rfl, fun _ _ => rfl, fun _ _ => rfl, fun _ _ => Iff.rfl⟩

theorem AgreesExcept.trans (h : AgreesExcept s s' userId name)
    (h' : AgreesExcept s' s'' userId name) : AgreesExcept s s'' userId name where
  leases k hk := (h'.leases k hk).trans (h.leases k hk)
  expireAt k hk := (h'.expireAt k hk).trans (h.expireAt k hk)
  expirations m hm := (h'.expirations m hm).trans (h.expirations m hm)
  usernames k hk := (h'.usernames k hk).trans (h.usernames k hk)
  online n hn := (h'.online n hn).trans (h.online n hn)

theorem AgreesExcept.view_eq (h : AgreesExcept s s' userId name) (huser : ColonFree userId)
    (hother : ColonFree other) (hne : other ≠ userId) {otherName : String}
    (hname : otherName ≠ name) : s'.view other otherName = s.view other otherName := by
  apply UserPresence.ext
  · funext c
    show (s'.leases other).zscore c = (s.leases other).zscore c
    rw [h.leases _ hne]
  · funext c
    exact h.expirations _ (fun d heq => hne (indexMember_injective hother huser heq).1)
  · exact h.usernames _ hne
  · exact propext (h.online _ hname)
  · exact h.expireAt _ hne

/-!
# Expired leases
-/

theorem zscore_expirations_dropExpired (m : String) :
    (s.dropExpired userId now).expirations.zscore m
      = if m ∈ ((s.leases userId).zrangeByScore now).map (indexMember userId) then none
        else s.expirations.zscore m := by
  rw [← SortedSet.zscore_foldl_zrem, List.foldl_map]
  rfl

theorem leases_dropExpired :
    (s.dropExpired userId now).leases userId = (s.leases userId).zremrangeByScore now :=
  Function.update_self _ _ _

theorem view_dropExpired (huser : ColonFree userId) :
    (s.dropExpired userId now).view userId name = (s.view userId name).sweep now := by
  apply UserPresence.ext
  · funext c
    show ((s.dropExpired userId now).leases userId).zscore c = _
    rw [leases_dropExpired, SortedSet.zscore_zremrangeByScore]
    rfl
  · funext c
    show (s.dropExpired userId now).expirations.zscore (indexMember userId c) = _
    rw [zscore_expirations_dropExpired]
    refine if_congr ?_ rfl rfl
    rw [List.mem_map]
    constructor
    · intro h
      rcases h with ⟨d, hd, heq⟩
      rw [← (indexMember_eq_iff huser).mp heq]
      exact SortedSet.mem_zrangeByScore.mp hd
    · intro h
      exact ⟨c, SortedSet.mem_zrangeByScore.mpr h, rfl⟩
  · rfl
  · rfl
  · rfl

theorem agreesExcept_dropExpired (s : PresenceStore) (userId name : String) (now : Rat) :
    AgreesExcept s (s.dropExpired userId now) userId name where
  leases _ hk := Function.update_of_ne hk _ _
  expireAt _ _ := rfl
  expirations m hm := by
    rw [zscore_expirations_dropExpired, if_neg]
    intro hmem
    rcases List.mem_map.mp hmem with ⟨c, _, heq⟩
    exact hm c heq.symm
  usernames _ _ := rfl
  online _ _ := Iff.rfl

/-!
# Taking, dropping and losing leases
-/

theorem view_registerOrRefreshScript (huser : ColonFree userId) (ttl : Nat) :
    (s.registerOrRefreshScript userId connection name now expiry ttl).2.view userId name
      = (s.view userId name).touch name connection now expiry (now + ttl) := by
  have hsweep : (s.dropExpired userId now).view userId name = (s.view userId name).sweep now :=
    view_dropExpired huser
  unfold registerOrRefreshScript UserPresence.touch
  rw [← hsweep]
  apply UserPresence.ext
  · funext c
    dsimp only [view]
    rw [Function.update_self, SortedSet.zscore_zadd]
  · funext c
    dsimp only [view]
    rw [SortedSet.zscore_zadd]
    exact if_congr (indexMember_eq_iff huser) rfl rfl
  · exact Table.get_set_self _ _ _
  · exact eq_true (Finset.mem_insert_self _ _)
  · exact Function.update_self _ _ _

theorem agreesExcept_registerOrRefreshScript (ttl : Nat) :
    AgreesExcept s (s.registerOrRefreshScript userId connection name now expiry ttl).2
      userId name := by
  refine (agreesExcept_dropExpired s userId name now).trans ?_
  constructor
  · exact fun _ hk => Function.update_of_ne hk _ _
  · exact fun _ hk => Function.update_of_ne hk _ _
  · exact fun m hm => (SortedSet.zscore_zadd _ _ _ _).trans (if_neg (hm connection))
  · exact fun _ hk => Table.get_set_ne _ hk _
  · exact fun _ hn => Finset.mem_insert.trans (or_iff_right hn)

/-- The store after the lease of the connection is removed. -/
def dropConnection (s : PresenceStore) (userId connection : String) (now : Rat) :
    PresenceStore :=
  let s := s.dropExpired userId now
  { s with
    leases := Function.update s.leases userId ((s.leases userId).zrem connection)
    expirations := s.expirations.zrem (indexMember userId connection) }

theorem view_dropConnection (huser : ColonFree userId) :
    (s.dropConnection userId connection now).view userId name
      = (s.view userId name).drop connection now := by
  have hsweep : (s.dropExpired userId now).view userId name = (s.view userId name).sweep now :=
    view_dropExpired huser
  unfold dropConnection UserPresence.drop
  rw [← hsweep]
  apply UserPresence.ext
  · funext c
    dsimp only [view]
    rw [Function.update_self, SortedSet.zscore_zrem]
  · funext c
    dsimp only [view]
    rw [SortedSet.zscore_zrem]
    exact if_congr (indexMember_eq_iff huser) rfl rfl
  · rfl
  · rfl
  · rfl

theorem agreesExcept_dropConnection :
    AgreesExcept s (s.dropConnection userId connection now) userId name := by
  refine (agreesExcept_dropExpired s userId name now).trans ?_
  constructor
  · exact fun _ hk => Function.update_of_ne hk _ _
  · exact fun _ _ => rfl
  · exact fun m hm => (SortedSet.zscore_zrem _ _ _).trans (if_neg (hm connection))
  · exact fun _ _ => rfl
  · exact fun _ _ => Iff.rfl

theorem vacant_view : (s.view userId name).Vacant ↔ (s.leases userId).zcard = 0 :=
  SortedSet.zcard_eq_zero.symm

/-- What the scripts leave of a user without a lease. -/
def clearUser (s : PresenceStore) (userId name : String) : PresenceStore :=
  { s with
    leases := Function.update s.leases userId SortedSet.empty
    expireAt := Function.update s.expireAt userId none
    usernames := s.usernames.set userId none
    online := s.online.erase name }

theorem view_clearUser (hvacant : (s.leases userId).zcard = 0) :
    (s.clearUser userId name).view userId name = (s.view userId name).settle := by
  unfold UserPresence.settle
  rw [if_pos (vacant_view.mpr hvacant)]
  apply UserPresence.ext
  · funext c
    show (Function.update s.leases userId SortedSet.empty userId).zscore c = _
    rw [Function.update_self]
    exact (SortedSet.zcard_eq_zero.mp hvacant c).symm
  · rfl
  · exact Table.get_set_self _ _ _
  · exact eq_false (Finset.notMem_erase _ _)
  · exact Function.update_self _ _ _

theorem view_settle_of_occupied (hoccupied : (s.leases userId).zcard ≠ 0) :
    (s.view userId name).settle = s.view userId name := by
  unfold UserPresence.settle
  exact if_neg (fun hvacant => hoccupied (vacant_view.mp hvacant))

theorem agreesExcept_clearUser : AgreesExcept s (s.clearUser userId name) userId name where
  leases _ hk := Function.update_of_ne hk _ _
  expireAt _ hk := Function.update_of_ne hk _ _
  expirations _ _ := rfl
  usernames _ hk := Table.get_set_ne _ hk _
  online _ hn := by
    show _ ∈ s.online.erase name ↔ _
    rw [Finset.mem_erase]
    exact and_iff_right hn

theorem disconnectScript_store :
    (s.disconnectScript userId connection name now).2
      = if ((s.dropConnection userId connection now).leases userId).zcard = 0 then
          (s.dropConnection userId connection now).clearUser userId name
        else s.dropConnection userId connection now := by
  unfold disconnectScript dropConnection clearUser
  dsimp only
  split <;> rfl

theorem view_disconnectScript (huser : ColonFree userId) :
    (s.disconnectScript userId connection name now).2.view userId name
      = ((s.view userId name).drop connection now).settle := by
  rw [disconnectScript_store, ← view_dropConnection huser]
  split
  case isTrue hvacant => exact view_clearUser hvacant
  case isFalse hoccupied => exact (view_settle_of_occupied hoccupied).symm

theorem agreesExcept_disconnectScript :
    AgreesExcept s (s.disconnectScript userId connection name now).2 userId name := by
  rw [disconnectScript_store]
  split
  · exact agreesExcept_dropConnection.trans agreesExcept_clearUser
  · exact agreesExcept_dropConnection

/-- The script adds nothing to the index. -/
theorem zscore_disconnectScript {m : String} {t : Rat}
    (h : (s.disconnectScript userId connection name now).2.expirations.zscore m = some t) :
    s.expirations.zscore m = some t := by
  have hindex : (s.disconnectScript userId connection name now).2.expirations
      = (s.dropExpired userId now).expirations.zrem (indexMember userId connection) := by
    rw [disconnectScript_store]
    split <;> rfl
  rw [hindex, SortedSet.zscore_zrem, zscore_expirations_dropExpired] at h
  split at h
  · cases h
  · split at h
    · cases h
    · exact h

theorem expirations_dropKey (s : PresenceStore) (userId : String) :
    (s.dropKey userId).expirations = s.expirations :=
  rfl

theorem view_dropKey : (s.dropKey userId).view userId name = (s.view userId name).lapse := by
  apply UserPresence.ext
  · funext c
    show (Function.update s.leases userId SortedSet.empty userId).zscore c = none
    rw [Function.update_self]
    rfl
  · rfl
  · rfl
  · rfl
  · exact Function.update_self _ _ _

theorem agreesExcept_dropKey : AgreesExcept s (s.dropKey userId) userId name where
  leases _ hk := Function.update_of_ne hk _ _
  expireAt _ hk := Function.update_of_ne hk _ _
  expirations _ _ := rfl
  usernames _ _ := rfl
  online _ _ := Iff.rfl

/-!
# The reaper
-/

/-- The store after a due entry of the index is taken out. -/
def takeDue (s : PresenceStore) (userId connection : String) (now : Rat) : PresenceStore :=
  let own := s.leases userId
  let own :=
    if (own.zscore connection).any (fun score => decide (score ≤ now)) then own.zrem connection
    else own
  { s.setLeases userId (own.zremrangeByScore now) with
    expirations := s.expirations.zrem (indexMember userId connection) }

theorem any_le_iff {score : Option Rat} :
    score.any (fun t => decide (t ≤ now)) = true ↔ exists t, score = some t ∧ t ≤ now := by
  cases score with
  | none | some => simp

/-- Removing the lease of the entry first makes no difference: the range holds it. -/
theorem zscore_leases_takeDue (c : String) :
    ((s.takeDue userId connection now).leases userId).zscore c
      = UserPresence.unexpired now ((s.leases userId).zscore c) := by
  show (Function.update s.leases userId _ userId).zscore c = _
  rw [Function.update_self, SortedSet.zscore_zremrangeByScore]
  split
  case isTrue hexpired =>
    rw [SortedSet.zscore_zrem]
    by_cases heq : c = connection
    · rcases any_le_iff.mp hexpired with ⟨t, ht, hle⟩
      rw [if_pos heq, heq, ht]
      symm
      unfold UserPresence.unexpired
      rw [Option.filter_some, decide_eq_false (not_lt.mpr hle)]
      rfl
    · rw [if_neg heq]
      rfl
  case isFalse => rfl

theorem view_takeDue (huser : ColonFree userId) :
    (s.takeDue userId connection now).view userId name
      = (s.view userId name).collect connection now := by
  apply UserPresence.ext
  · funext c
    exact zscore_leases_takeDue c
  · funext c
    show (s.expirations.zrem (indexMember userId connection)).zscore (indexMember userId c) = _
    rw [SortedSet.zscore_zrem]
    exact if_congr (indexMember_eq_iff huser) rfl rfl
  · rfl
  · rfl
  · rfl

theorem agreesExcept_takeDue :
    AgreesExcept s (s.takeDue userId connection now) userId name where
  leases _ hk := Function.update_of_ne hk _ _
  expireAt _ _ := rfl
  expirations _ hm := (SortedSet.zscore_zrem _ _ _).trans (if_neg (hm connection))
  usernames _ _ := rfl
  online _ _ := Iff.rfl

theorem dropUser_store (hnamed : forall x, s.usernames.get userId = some x -> x = name)
    (honline : name ∈ s.online -> (s.usernames.get userId).isSome = true)
    (offline : List String) : (s.dropUser userId offline).2 = s.clearUser userId name := by
  have herase : name ∉ s.online -> s.online.erase name = s.online := Finset.erase_eq_of_notMem
  unfold dropUser clearUser
  dsimp only
  cases hfound : s.usernames.get userId with
  | none =>
      have hoff : name ∉ s.online := by
        intro hmem
        rw [hfound] at honline
        cases honline hmem
      dsimp only
      rw [herase hoff]
  | some x =>
      dsimp only
      rw [hnamed x hfound]
      split
      · rfl
      case isFalse hoff => rw [herase hoff]

section

variable (huser : ColonFree userId)
include huser

section

variable (hok : (s.view userId name).Ok name period now)
include hok

/-- The store after the reaper has seen one member of the index. -/
theorem reapMember_store (offline : List String) :
    (reapMember now (offline, s) (indexMember userId connection)).2
      = if (s.expirations.zscore (indexMember userId connection)).any
            (fun score => decide (score ≤ now)) then
          if ((s.takeDue userId connection now).leases userId).zcard = 0 then
            (s.takeDue userId connection now).clearUser userId name
          else s.takeDue userId connection now
        else s := by
  have hleases : (s.takeDue userId connection now).leases userId
      = (if ((s.leases userId).zscore connection).any (fun score => decide (score ≤ now)) then
          (s.leases userId).zrem connection else s.leases userId).zremrangeByScore now :=
    Function.update_self _ _ _
  have hdrop := dropUser_store (s := s.takeDue userId connection now) hok.named
    hok.online_iff.mp offline
  unfold reapMember
  rw [splitMember_indexMember huser, hleases, ← hdrop]
  dsimp only
  by_cases hdue : (s.expirations.zscore (indexMember userId connection)).any
      (fun score => decide (score ≤ now)) = true
  · rw [if_pos hdue, if_pos hdue]
    exact apply_ite Prod.snd _ _ _
  · rw [if_neg hdue, if_neg hdue]

/-- The entry is due: the user is handled as the lease machine says. -/
theorem view_reapMember_of_due (offline : List String)
    (hdue : exists t, s.expirations.zscore (indexMember userId connection) = some t ∧ t ≤ now) :
    (reapMember now (offline, s) (indexMember userId connection)).2.view userId name
      = ((s.view userId name).collect connection now).settle := by
  rw [reapMember_store huser hok, if_pos (any_le_iff.mpr hdue), ← view_takeDue huser]
  split
  case isTrue hvacant => exact view_clearUser hvacant
  case isFalse hoccupied => exact (view_settle_of_occupied hoccupied).symm

/-- The entry is gone or was renewed: nothing happens. -/
theorem reapMember_of_not_due (offline : List String)
    (hdue : ¬ exists t, s.expirations.zscore (indexMember userId connection) = some t ∧
      t ≤ now) :
    (reapMember now (offline, s) (indexMember userId connection)).2 = s := by
  rw [reapMember_store huser hok, if_neg (fun hany => hdue (any_le_iff.mp hany))]

theorem agreesExcept_reapMember (offline : List String) :
    AgreesExcept s (reapMember now (offline, s) (indexMember userId connection)).2
      userId name := by
  rw [reapMember_store huser hok]
  split
  · split
    · exact agreesExcept_takeDue.trans agreesExcept_clearUser
    · exact agreesExcept_takeDue
  · exact AgreesExcept.refl s userId name

/-- In the index, the reaper touches only the member, and only when it is due. -/
theorem zscore_reapMember (connection : String)
    (offline : List String) (m : String) :
    (reapMember now (offline, s) (indexMember userId connection)).2.expirations.zscore m
      = if m = indexMember userId connection
        then UserPresence.unexpired now (s.expirations.zscore m)
        else s.expirations.zscore m := by
  rw [reapMember_store huser hok]
  split
  case isTrue hdue =>
    have hzscore : (s.takeDue userId connection now).expirations.zscore m
        = if m = indexMember userId connection then none else s.expirations.zscore m :=
      SortedSet.zscore_zrem _ _ _
    have hclear : forall r : PresenceStore,
        (r.clearUser userId name).expirations.zscore m = r.expirations.zscore m :=
      fun _ => rfl
    rcases any_le_iff.mp hdue with ⟨t, ht, hle⟩
    have hnone : m = indexMember userId connection ->
        UserPresence.unexpired now (s.expirations.zscore m) = none := by
      intro heq
      unfold UserPresence.unexpired
      rw [heq, ht, Option.filter_some, decide_eq_false (not_lt.mpr hle)]
      rfl
    have hresult : (s.takeDue userId connection now).expirations.zscore m
        = if m = indexMember userId connection
          then UserPresence.unexpired now (s.expirations.zscore m)
          else s.expirations.zscore m := by
      rw [hzscore]
      split
      case isTrue heq => exact (hnone heq).symm
      case isFalse => rfl
    split
    · exact (hclear _).trans hresult
    · exact hresult
  case isFalse hdue =>
    split
    case isTrue heq =>
      cases hscore : s.expirations.zscore m with
      | none => rfl
      | some t =>
          refine (UserPresence.unexpired_eq_some.mpr ⟨rfl, lt_of_not_ge ?_⟩).symm
          intro hle
          exact hdue (any_le_iff.mpr ⟨t, heq ▸ hscore, hle⟩)
    case isFalse => rfl

end

end

end PresenceStore

end MessagingSystem
