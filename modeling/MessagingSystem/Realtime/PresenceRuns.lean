import MessagingSystem.Core.Encodings
import MessagingSystem.Realtime.PresenceRefinement

/-!
# Presence along histories

The invariant of every user holds along every history, the index and the online set belong to
users, and the reaper makes the index smaller until nobody without a lease is left online.
-/

namespace MessagingSystem

open Foundation

variable {label : PresenceLabel}

theorem colonFree_str (u : Uuid) : ColonFree u.str := by
  have hdigits : forall ch, ch ∈ numeral 16 32 u.toNat -> (ch != ':') = true := by
    intro ch hch
    rcases List.mem_map.mp hch with ⟨d, hd, heq⟩
    have hlt : d < 16 := fixedDigits_lt (by decide) 32 u.toNat d hd
    have hall : forall d : Fin 16, (Nat.digitChar d != ':') = true := by decide
    rw [← heq]
    exact hall ⟨d, hlt⟩
  have hdash : ('-' != ':') = true := by decide
  intro ch hch
  unfold Uuid.str at hch
  rw [String.toList_ofList] at hch
  simp only [List.mem_append, List.mem_cons] at hch
  rcases hch with h | heq | h | heq | h | heq | h | heq | h
  · exact hdigits ch (List.mem_of_mem_take h)
  · exact heq ▸ hdash
  · exact hdigits ch (List.mem_of_mem_drop (List.mem_of_mem_take h))
  · exact heq ▸ hdash
  · exact hdigits ch (List.mem_of_mem_drop (List.mem_of_mem_take h))
  · exact heq ▸ hdash
  · exact hdigits ch (List.mem_of_mem_drop (List.mem_of_mem_take h))
  · exact heq ▸ hdash
  · exact hdigits ch (List.mem_of_mem_drop h)

section

variable (settings : PresenceSettings) (usernameOf : Uuid -> String)

/-- The username as the scripts get it. -/
def HasUsername (user : Uuid) (name : String) : Prop :=
  normalizeUsername (usernameOf user) = Except.ok name

def DistinctUsernames : Prop :=
  forall user other name, HasUsername usernameOf user name -> HasUsername usernameOf other name ->
    user = other

/-- The key of a user of the application. -/
def IsUserKey (userId : String) : Prop :=
  exists user name, HasUsername usernameOf user name ∧ userId = user.str

/-- A member of the index that belongs to a user. -/
def IsUserEntry (m : String) : Prop :=
  exists userId c, IsUserKey usernameOf userId ∧ m = indexMember userId c

structure PresenceOk (s : PresenceStore) (now : Rat) : Prop where
  distinct : DistinctUsernames usernameOf
  users : forall user name, HasUsername usernameOf user name ->
    (s.view user.str name).Ok name settings.leaseSeconds now
  leases : forall userId c t, (s.leases userId).zscore c = some t -> IsUserKey usernameOf userId
  expireAt : forall userId e, s.expireAt userId = some e -> IsUserKey usernameOf userId
  expirations : forall m t, s.expirations.zscore m = some t -> IsUserEntry usernameOf m
  online : forall name, name ∈ s.online -> exists user, HasUsername usernameOf user name

variable {settings usernameOf}

theorem HasUsername.unique {user : Uuid} {name name' : String}
    (h : HasUsername usernameOf user name) (h' : HasUsername usernameOf user name') :
    name = name' := by
  unfold HasUsername at h h'
  rw [h] at h'
  injection h'

variable {s s' : PresenceStore} {now now' t time : Rat} {user : Uuid} {name connection : String}
  {i n : Nat}

theorem presenceOk_empty (hdistinct : DistinctUsernames usernameOf) (now : Rat) :
    PresenceOk settings usernameOf PresenceStore.empty now where
  distinct := hdistinct
  users user name _ := by
    have hnone : forall (c : String) (t : Rat),
        (none : Option Rat) = some t -> False := fun _ _ h => nomatch h
    constructor
    · intro x hx
      cases hx
    · exact iff_of_false (Finset.notMem_empty name) Bool.false_ne_true
    · exact fun c t ht => (hnone c t ht).elim
    · exact fun c t ht => (hnone c t ht).elim
    · exact fun c t ht => (hnone c t ht).elim
    · intro hsome
      cases hsome
    · exact fun c t ht => (hnone c t ht).elim
    · exact fun c t ht => (hnone c t ht).elim
  leases _ _ _ ht := by cases ht
  expireAt _ _ he := by cases he
  expirations _ _ ht := by cases ht
  online name hmem := absurd hmem (Finset.notMem_empty name)

theorem PresenceOk.later (h : PresenceOk settings usernameOf s now) (hnow : now ≤ now') :
    PresenceOk settings usernameOf s now' where
  distinct := h.distinct
  users user name hname := (h.users user name hname).later hnow
  leases := h.leases
  expireAt := h.expireAt
  expirations := h.expirations
  online := h.online

/-- A change of the things of one user is no change for another user. -/
theorem view_of_agreesExcept (hdistinct : DistinctUsernames usernameOf)
    (hname : HasUsername usernameOf user name) (hagree : s.AgreesExcept s' user.str name)
    {other : Uuid} {otherName : String} (hother : HasUsername usernameOf other otherName)
    (hne : other ≠ user) : s'.view other.str otherName = s.view other.str otherName := by
  have hkey : other.str ≠ user.str := fun hstr => hne (Uuid.str_injective hstr)
  have hnames : otherName ≠ name := by
    intro hsame
    rw [hsame] at hother
    exact hne (hdistinct other user name hother hname)
  exact hagree.view_eq (colonFree_str user) (colonFree_str other) hkey hnames

/-- A change of the things of one user that keeps the invariant of that user. -/
theorem PresenceOk.userStep (h : PresenceOk settings usernameOf s now)
    (hname : HasUsername usernameOf user name) (hagree : s.AgreesExcept s' user.str name)
    (huser : (s'.view user.str name).Ok name settings.leaseSeconds now) :
    PresenceOk settings usernameOf s' now where
  distinct := h.distinct
  users other otherName hother := by
    by_cases heq : other = user
    · rw [heq] at hother ⊢
      rw [hother.unique hname]
      exact huser
    · rw [view_of_agreesExcept h.distinct hname hagree hother heq]
      exact h.users other otherName hother
  leases userId c t ht := by
    by_cases heq : userId = user.str
    · exact ⟨user, name, hname, heq⟩
    · rw [hagree.leases userId heq] at ht
      exact h.leases userId c t ht
  expireAt userId e he := by
    by_cases heq : userId = user.str
    · exact ⟨user, name, hname, heq⟩
    · rw [hagree.expireAt userId heq] at he
      exact h.expireAt userId e he
  expirations m t ht := by
    by_cases hown : exists c, m = indexMember user.str c
    · rcases hown with ⟨c, hc⟩
      exact ⟨user.str, c, ⟨user, name, hname, rfl⟩, hc⟩
    · rw [hagree.expirations m (not_exists.mp hown)] at ht
      exact h.expirations m t ht
  online n hn := by
    by_cases heq : n = name
    · exact ⟨user, heq ▸ hname⟩
    · exact h.online n ((hagree.online n heq).mp hn)

/-!
# The reaper
-/

/-- What holds before the reaper comes to any member, holds after it. -/
theorem reap_induct {P : PresenceStore -> Prop}
    (hstep : forall (s : PresenceStore) (user : Uuid) (name connection : String)
      (offline : List String), PresenceOk settings usernameOf s now ->
      HasUsername usernameOf user name -> P s ->
      P (PresenceStore.reapMember now (offline, s) (indexMember user.str connection)).2)
    {members : List String} (hmembers : forall m, m ∈ members -> IsUserEntry usernameOf m)
    (state : List String × PresenceStore) (hok : PresenceOk settings usernameOf state.2 now)
    (hP : P state.2) :
    PresenceOk settings usernameOf (members.foldl (PresenceStore.reapMember now) state).2 now ∧
      P (members.foldl (PresenceStore.reapMember now) state).2 := by
  induction members generalizing state with
  | nil => exact ⟨hok, hP⟩
  | cons m members ih =>
      rcases hmembers m List.mem_cons_self with ⟨userId, c, ⟨user, name, hname, hkey⟩, hm⟩
      have huser := hok.users user name hname
      have hok' : PresenceOk settings usernameOf
          (PresenceStore.reapMember now state m).2 now := by
        rw [hm, hkey]
        refine hok.userStep hname
          (PresenceStore.agreesExcept_reapMember (colonFree_str user) huser state.1) ?_
        by_cases hdue : exists t,
            state.2.expirations.zscore (indexMember user.str c) = some t ∧ t ≤ now
        · rw [PresenceStore.view_reapMember_of_due (colonFree_str user) huser state.1 hdue]
          exact huser.settle (huser.shrinks_collect hdue)
        · rw [PresenceStore.reapMember_of_not_due (colonFree_str user) huser state.1 hdue]
          exact huser
      have hP' : P (PresenceStore.reapMember now state m).2 := by
        rw [hm, hkey]
        exact hstep state.2 user name c state.1 hok hname hP
      rw [List.foldl_cons]
      exact ih (fun m' hm' => hmembers m' (List.mem_cons_of_mem m hm')) _ hok' hP'

theorem PresenceOk.due_members (h : PresenceOk settings usernameOf s now) (time : Rat)
    (size : Nat) (m : String) (hm : m ∈ (s.expirations.zrangeByScore time).take size) :
    IsUserEntry usernameOf m := by
  rcases SortedSet.mem_zrangeByScore.mp (List.mem_of_mem_take hm) with ⟨t, ht, _⟩
  exact h.expirations m t ht

/-- The entries the reaper has come to are gone unless they were renewed. -/
theorem zscore_reap {members : List String}
    (hmembers : forall m, m ∈ members -> IsUserEntry usernameOf m)
    (state : List String × PresenceStore) (hok : PresenceOk settings usernameOf state.2 now)
    (m : String) :
    (members.foldl (PresenceStore.reapMember now) state).2.expirations.zscore m
      = if m ∈ members then UserPresence.unexpired now (state.2.expirations.zscore m)
        else state.2.expirations.zscore m := by
  induction members generalizing state with
  | nil => rfl
  | cons m' members ih =>
      rcases hmembers m' List.mem_cons_self with ⟨userId, c, ⟨user, name, hname, hkey⟩, hm⟩
      have hone : forall x, x ∈ [m'] -> IsUserEntry usernameOf x := by
        intro x hx
        exact hmembers x (List.mem_singleton.mp hx ▸ List.mem_cons_self)
      have hok' := (reap_induct (P := fun _ => True) (fun _ _ _ _ _ _ _ _ => trivial) hone state
        hok trivial).1
      have hscore : (PresenceStore.reapMember now state m').2.expirations.zscore m
          = if m = m' then UserPresence.unexpired now (state.2.expirations.zscore m)
            else state.2.expirations.zscore m := by
        have hmember := PresenceStore.zscore_reapMember (colonFree_str user)
          (hok.users user name hname) c state.1 m
        rw [← hkey, ← hm] at hmember
        exact hmember
      have hrest := ih (fun x hx => hmembers x (List.mem_cons_of_mem m' hx)) _ hok'
      rw [List.foldl_cons]
      refine hrest.trans ?_
      rw [List.foldl_cons, List.foldl_nil, hscore]
      by_cases hhead : m = m'
      · rw [if_pos hhead, UserPresence.unexpired_unexpired, ite_self,
          if_pos (hhead ▸ List.mem_cons_self)]
      · rw [if_neg hhead]
        exact if_congr (by simp [hhead]) rfl rfl

theorem zscore_reapExpired (hok : PresenceOk settings usernameOf s now) (m : String) :
    (reapExpired settings true s now).2.expirations.zscore m
      = if m ∈ (s.expirations.zrangeByScore now).take settings.reaperBatchSize
        then UserPresence.unexpired now (s.expirations.zscore m)
        else s.expirations.zscore m :=
  zscore_reap (hok.due_members now settings.reaperBatchSize) ([], s) hok m

/-!
# Steps
-/

theorem PresenceState.next_eq_some {state state' : PresenceState}
    (h : state.next settings usernameOf label = some state') :
    state.now ≤ label.time ∧ state'.now = label.time ∧
      state.store.run settings usernameOf label = some state'.store := by
  unfold PresenceState.next at h
  split at h
  case isTrue hle =>
    rcases Option.map_eq_some_iff.mp h with ⟨store, hrun, heq⟩
    rw [← heq]
    exact ⟨hle, rfl, hrun⟩
  case isFalse => cases h

theorem lease_lt_keyTtl (now : Rat) : now + settings.leaseSeconds < now + settings.keyTtl := by
  have hnat : settings.leaseSeconds < settings.keyTtl :=
    Nat.lt_of_lt_of_le (Nat.lt_succ_self _) (Nat.le_max_left _ _)
  have hrat : (settings.leaseSeconds : Rat) < settings.keyTtl := Nat.cast_lt.mpr hnat
  linarith

/-- Nothing is run for a user without a username. -/
theorem run_registerOrRefresh (h : s.run settings usernameOf
      (PresenceLabel.registerOrRefresh user connection now) = some s') :
    s' = s ∨ exists name, HasUsername usernameOf user name ∧
      s' = (s.registerOrRefreshScript user.str connection name now
        (now + settings.leaseSeconds) settings.keyTtl).2 := by
  rw [← Option.some.inj h]
  unfold registerOrRefresh
  cases hname : normalizeUsername (usernameOf user) with
  | error failure => exact Or.inl rfl
  | ok name => exact Or.inr ⟨name, hname, rfl⟩

theorem run_registerOrRefresh_of_hasUsername (hname : HasUsername usernameOf user name) :
    s.run settings usernameOf (PresenceLabel.registerOrRefresh user connection now)
      = some (s.registerOrRefreshScript user.str connection name now
        (now + settings.leaseSeconds) settings.keyTtl).2 := by
  unfold HasUsername at hname
  unfold PresenceStore.run registerOrRefresh
  dsimp only
  rw [hname]

theorem run_disconnect (h : s.run settings usernameOf
      (PresenceLabel.disconnect user connection now) = some s') :
    s' = s ∨ exists name, HasUsername usernameOf user name ∧
      s' = (s.disconnectScript user.str connection name now).2 := by
  rw [← Option.some.inj h]
  unfold disconnectPresence
  cases hname : normalizeUsername (usernameOf user) with
  | error failure => exact Or.inl rfl
  | ok name =>
      dsimp only
      exact Or.inr ⟨name, hname, rfl⟩

theorem run_keyExpires (h : s.run settings usernameOf (PresenceLabel.keyExpires user now) =
      some s') :
    (exists e, s.expireAt user.str = some e ∧ e ≤ now) ∧ s' = s.dropKey user.str := by
  change (if _ then _ else _) = _ at h
  split at h
  case isTrue hover =>
    exact ⟨PresenceStore.any_le_iff.mp hover, (Option.some.inj h).symm⟩
  case isFalse => cases h

theorem PresenceOk.run (hok : PresenceOk settings usernameOf s label.time)
    (hrun : s.run settings usernameOf label = some s') :
    PresenceOk settings usernameOf s' label.time := by
  cases label with
  | registerOrRefresh user connection now =>
      rcases run_registerOrRefresh hrun with heq | ⟨name, hname, heq⟩
      · exact heq ▸ hok
      · rw [heq]
        refine hok.userStep hname (PresenceStore.agreesExcept_registerOrRefreshScript _) ?_
        rw [PresenceStore.view_registerOrRefreshScript (colonFree_str user)]
        exact (hok.users user name hname).touch (lease_lt_keyTtl now)
  | disconnect user connection now =>
      rcases run_disconnect hrun with heq | ⟨name, hname, heq⟩
      · exact heq ▸ hok
      · have huser := hok.users user name hname
        rw [heq]
        refine hok.userStep hname PresenceStore.agreesExcept_disconnectScript ?_
        rw [PresenceStore.view_disconnectScript (colonFree_str user)]
        exact huser.settle (huser.shrinks_drop connection)
  | reap now =>
      cases hrun
      exact (reap_induct (P := fun _ => True) (fun _ _ _ _ _ _ _ _ => trivial)
        (hok.due_members now _) ([], s) hok trivial).1
  | keyExpires user now =>
      rcases run_keyExpires hrun with ⟨hover, heq⟩
      rcases hover with ⟨e, he, hle⟩
      rcases hok.expireAt user.str e he with ⟨owner, name, hname, hkey⟩
      rw [heq, hkey]
      rw [hkey] at he
      refine hok.userStep hname PresenceStore.agreesExcept_dropKey ?_
      rw [PresenceStore.view_dropKey]
      exact (hok.users owner name hname).lapse ⟨e, he, hle⟩

/-- A live lease stays until it expires or its connection is disconnected. -/
theorem PresenceOk.run_holds (hok : PresenceOk settings usernameOf s label.time)
    (hrun : s.run settings usernameOf label = some s') {deadline : Rat}
    (hname : HasUsername usernameOf user name)
    (hlive : label.time < deadline) (hdeadline : deadline ≤ label.time + settings.leaseSeconds)
    (hkept : forall t, label ≠ PresenceLabel.disconnect user connection t)
    (h : (s.view user.str name).Holds connection deadline) :
    (s'.view user.str name).Holds connection deadline := by
  cases label with
  | registerOrRefresh other otherConnection now =>
      rcases run_registerOrRefresh hrun with heq | ⟨otherName, hother, heq⟩
      · exact heq ▸ h
      · rw [heq]
        by_cases huser : user = other
        · rw [← huser] at hother
          rw [← huser, hother.unique hname,
            PresenceStore.view_registerOrRefreshScript (colonFree_str user)]
          exact h.touch hlive hdeadline otherConnection _
        · rw [view_of_agreesExcept hok.distinct hother
            (PresenceStore.agreesExcept_registerOrRefreshScript _) hname huser]
          exact h
  | disconnect other otherConnection now =>
      rcases run_disconnect hrun with heq | ⟨otherName, hother, heq⟩
      · exact heq ▸ h
      · rw [heq]
        by_cases huser : user = other
        · have hne : connection ≠ otherConnection := by
            intro hsame
            apply hkept now
            rw [huser, hsame]
          rw [← huser] at hother
          rw [← huser, hother.unique hname,
            PresenceStore.view_disconnectScript (colonFree_str user)]
          exact h.drop hlive hne
        · rw [view_of_agreesExcept hok.distinct hother
            PresenceStore.agreesExcept_disconnectScript hname huser]
          exact h
  | reap now =>
      cases hrun
      refine (reap_induct (P := fun s => (s.view user.str name).Holds connection deadline)
        ?_ (hok.due_members now _) ([], s) hok h).2
      intro r other otherName c offline hr hother hholds
      have hotherOk := hr.users other otherName hother
      by_cases hdue : exists t, r.expirations.zscore (indexMember other.str c) = some t ∧ t ≤ now
      · by_cases huser : user = other
        · rw [← huser] at hother hdue hotherOk ⊢
          rw [hother.unique hname] at hotherOk
          rw [PresenceStore.view_reapMember_of_due (colonFree_str user) hotherOk offline hdue]
          exact hholds.collect hlive c
        · rw [view_of_agreesExcept hok.distinct hother
            (PresenceStore.agreesExcept_reapMember (colonFree_str other) hotherOk offline)
            hname huser]
          exact hholds
      · rw [PresenceStore.reapMember_of_not_due (colonFree_str other) hotherOk offline hdue]
        exact hholds
  | keyExpires other now =>
      rcases run_keyExpires hrun with ⟨hover, heq⟩
      rcases hover with ⟨e, he, hle⟩
      by_cases huser : user = other
      · rw [← huser] at he
        exact absurd ⟨e, he, hle⟩ ((hok.users user name hname).not_over h hlive)
      · rcases hok.expireAt other.str e he with ⟨owner, otherName, hother, hkey⟩
        rw [← Uuid.str_injective hkey] at hother
        rw [heq, view_of_agreesExcept hok.distinct hother PresenceStore.agreesExcept_dropKey
          hname huser]
        exact h

/-!
# The index
-/

def PresenceLabel.isRegister : PresenceLabel -> Bool
  | registerOrRefresh _ _ _ => true
  | _ => false

def PresenceLabel.isReap : PresenceLabel -> Bool
  | reap _ => true
  | _ => false

theorem PresenceLabel.isReap_iff :
    label.isReap = true ↔ exists now, label = reap now := by
  cases label <;> simp [isReap]

/-- Only a registration adds to the index. -/
theorem PresenceOk.zscore_of_run (hok : PresenceOk settings usernameOf s label.time)
    (hrun : s.run settings usernameOf label = some s') (hlabel : label.isRegister = false)
    {m : String} (h : s'.expirations.zscore m = some t) : s.expirations.zscore m = some t := by
  cases label with
  | registerOrRefresh user connection now => cases hlabel
  | disconnect user connection now =>
      rcases run_disconnect hrun with heq | ⟨name, _, heq⟩
      · exact heq ▸ h
      · rw [heq] at h
        exact PresenceStore.zscore_disconnectScript h
  | reap now =>
      cases hrun
      change PresenceOk settings usernameOf s now at hok
      rw [zscore_reapExpired hok] at h
      split at h
      · exact (UserPresence.unexpired_eq_some.mp h).1
      · exact h
  | keyExpires user now =>
      rw [(run_keyExpires hrun).2, PresenceStore.expirations_dropKey] at h
      exact h

/-- When everything is due, a reap takes a full batch out of the index. -/
theorem PresenceOk.zcard_reap (hok : PresenceOk settings usernameOf s now)
    (hdue : forall m t, s.expirations.zscore m = some t -> t ≤ now) :
    (reapExpired settings true s now).2.expirations.zcard
      = s.expirations.zcard - settings.reaperBatchSize := by
  have hscore : forall m, (reapExpired settings true s now).2.expirations.zscore m
      = if m ∈ (s.expirations.zrangeByScore now).take settings.reaperBatchSize then none
        else s.expirations.zscore m := by
    intro m
    rw [zscore_reapExpired hok]
    refine if_congr Iff.rfl ?_ rfl
    refine Option.eq_none_iff_forall_ne_some.mpr ?_
    intro t ht
    have hlive := UserPresence.unexpired_eq_some.mp ht
    exact absurd hlive.2 (not_lt.mpr (hdue m t hlive.1))
  have hpresent : forall m,
      m ∈ (s.expirations.zrangeByScore now).take settings.reaperBatchSize ->
        (s.expirations.zscore m).isSome = true := by
    intro m hm
    rcases SortedSet.mem_zrangeByScore.mp (List.mem_of_mem_take hm) with ⟨t, ht, _⟩
    rw [ht]
    rfl
  have hremoved := SortedSet.zcard_of_removed
    ((SortedSet.nodup_zrangeByScore _ _).sublist (List.take_sublist _ _)) hpresent hscore
  rw [List.length_take, SortedSet.length_zrangeByScore hdue] at hremoved
  omega

/-!
# Histories
-/

section

variable (e : System.Execution (presenceSystem settings usernameOf))

theorem presenceOk_stateAt (hdistinct : DistinctUsernames usernameOf) (hn : n ≤ e.length) :
    PresenceOk settings usernameOf (e.stateAt n).store (e.stateAt n).now := by
  refine e.induct
    (I := fun i => PresenceOk settings usernameOf (e.stateAt i).store (e.stateAt i).now) ?_ ?_ hn
  · rw [show (e.stateAt 0).store = PresenceStore.empty from e.start]
    exact presenceOk_empty hdistinct _
  · intro i hi hok hstep
    rcases PresenceState.next_eq_some hstep with ⟨hle, htime, hrun⟩
    rw [htime]
    exact (hok.later hle).run hrun

/-- What holds in every state. -/
structure PresenceConsistent (usernameOf : Uuid -> String) (s : PresenceStore) : Prop where
  online_iff : forall name, name ∈ s.online ↔
    exists user, HasUsername usernameOf user name ∧ (s.usernames.get user.str).isSome = true
  leased : forall userId c t, (s.leases userId).zscore c = some t ->
    s.expirations.zscore (indexMember userId c) = some t
  indexed : forall user name, HasUsername usernameOf user name -> name ∈ s.online ->
    exists c t, s.expirations.zscore (indexMember user.str c) = some t

theorem PresenceOk.consistent (hok : PresenceOk settings usernameOf s now) :
    PresenceConsistent usernameOf s where
  online_iff name := by
    constructor
    · intro hmem
      rcases hok.online name hmem with ⟨user, hname⟩
      exact ⟨user, hname, (hok.users user name hname).online_iff.mp hmem⟩
    · intro hentry
      rcases hentry with ⟨user, hname, hsome⟩
      exact (hok.users user name hname).online_iff.mpr hsome
  leased userId c t ht := by
    rcases hok.leases userId c t ht with ⟨user, name, hname, hkey⟩
    rw [hkey] at ht ⊢
    exact (hok.users user name hname).leased c t ht
  indexed user name hname hmem := by
    have huser := hok.users user name hname
    exact huser.found (huser.online_iff.mp hmem)

theorem now_le_stateAt {m : Nat} (hmn : m ≤ n) (hn : n ≤ e.length) :
    (e.stateAt m).now ≤ (e.stateAt n).now := by
  refine e.related (R := fun s t => s.now ≤ t.now) (fun _ => le_refl _)
    (fun _ _ _ => le_trans) ?_ hmn hn
  intro s a t hstep
  rcases PresenceState.next_eq_some hstep with ⟨hle, htime, _⟩
  exact htime ▸ hle

/-- The lease taken at step `i` is held as long as it has not expired. -/
theorem holds_stateAt (hdistinct : DistinctUsernames usernameOf) (hin : i < n) (hn : n ≤ e.length)
    (hname : HasUsername usernameOf user name)
    (hlabel : e.labelAt i = PresenceLabel.registerOrRefresh user connection t)
    (hkept : forall j t', i < j -> j < n ->
      e.labelAt j ≠ PresenceLabel.disconnect user connection t')
    (hlive : (e.stateAt n).now < t + settings.leaseSeconds) :
    ((e.stateAt n).store.view user.str name).Holds connection (t + settings.leaseSeconds) := by
  induction n, hin using Nat.le_induction with
  | base =>
      rcases PresenceState.next_eq_some (e.step i hn) with ⟨_, _, hrun⟩
      rw [hlabel, run_registerOrRefresh_of_hasUsername hname] at hrun
      rw [← Option.some.inj hrun,
        PresenceStore.view_registerOrRefreshScript (colonFree_str user)]
      exact ⟨_, if_pos rfl, le_refl _⟩
  | succ n hin ih =>
      rcases PresenceState.next_eq_some (e.step n hn) with ⟨hle, htime, hrun⟩
      have hstart : t ≤ (e.stateAt n).now := by
        rcases PresenceState.next_eq_some (e.step i (by omega)) with ⟨_, htaken, _⟩
        rw [hlabel] at htaken
        exact htaken.ge.trans (now_le_stateAt e hin (Nat.le_of_lt hn))
      have hbefore := ih (Nat.le_of_lt hn) (fun j t' hij hj => hkept j t' hij (by omega))
        ((htime ▸ hle).trans_lt hlive)
      have hok := presenceOk_stateAt e hdistinct (Nat.le_of_lt hn)
      exact (hok.later hle).run_holds hrun hname (htime ▸ hlive) (by linarith)
        (fun t' => hkept n t' hin (Nat.lt_succ_self n)) hbefore

/-- The reaps among the steps from `i` to `n`. -/
def reapsBetween (i n : Nat) : Nat :=
  (List.range n).countP (fun j => decide (i ≤ j) && (e.labelAt j).isReap)

theorem reapsBetween_succ (hin : i ≤ n) :
    reapsBetween e i (n + 1)
      = reapsBetween e i n + (if (e.labelAt n).isReap = true then 1 else 0) := by
  unfold reapsBetween
  rw [List.range_succ, List.countP_append, List.countP_singleton, decide_eq_true hin,
    Bool.true_and]

/-- Without registrations, everything in the index stays due, and every reap takes a batch. -/
theorem zcard_stateAt (hdistinct : DistinctUsernames usernameOf) (hin : i ≤ n) (hn : n ≤ e.length)
    (hdue : forall m t, (e.stateAt i).store.expirations.zscore m = some t -> t ≤ time)
    (hlabels : forall j, i ≤ j -> j < n ->
      (e.labelAt j).isRegister = false ∧ time ≤ (e.labelAt j).time) :
    (forall m t, (e.stateAt n).store.expirations.zscore m = some t -> t ≤ time) ∧
      (e.stateAt n).store.expirations.zcard ≤ (e.stateAt i).store.expirations.zcard
        - settings.reaperBatchSize * reapsBetween e i n := by
  induction n, hin using Nat.le_induction with
  | base =>
      refine ⟨hdue, ?_⟩
      have hzero : reapsBetween e i i = 0 := by
        unfold reapsBetween
        rw [List.countP_eq_zero]
        intro j hj
        have hlt := List.mem_range.mp hj
        simp [Nat.not_le.mpr hlt]
      rw [hzero, Nat.mul_zero, Nat.sub_zero]
  | succ n hin ih =>
      rcases ih (Nat.le_of_lt hn) (fun j hij hj => hlabels j hij (by omega)) with ⟨hbefore, hcard⟩
      rcases PresenceState.next_eq_some (e.step n hn) with ⟨hle, htime, hrun⟩
      rcases hlabels n hin (Nat.lt_succ_self n) with ⟨hregister, hafter⟩
      have hok := (presenceOk_stateAt e hdistinct (Nat.le_of_lt hn)).later hle
      have hshrinks : forall m t, (e.stateAt (n + 1)).store.expirations.zscore m = some t ->
          (e.stateAt n).store.expirations.zscore m = some t :=
        fun m t ht => hok.zscore_of_run hrun hregister ht
      refine ⟨fun m t ht => hbefore m t (hshrinks m t ht), ?_⟩
      rw [reapsBetween_succ e hin]
      cases hreap : (e.labelAt n).isReap with
      | false =>
          refine (SortedSet.zcard_le ?_).trans hcard
          intro m hm
          rcases Option.isSome_iff_exists.mp hm with ⟨t, ht⟩
          rw [hshrinks m t ht]
          rfl
      | true =>
          rcases PresenceLabel.isReap_iff.mp hreap with ⟨now, hlabel⟩
          rw [hlabel] at hrun hok hafter
          have hall : forall m t, (e.stateAt n).store.expirations.zscore m = some t -> t ≤ now :=
            fun m t ht => (hbefore m t ht).trans hafter
          have hbatch : (e.stateAt (n + 1)).store.expirations.zcard
              = (e.stateAt n).store.expirations.zcard - settings.reaperBatchSize := by
            rw [← Option.some.inj hrun]
            exact hok.zcard_reap hall
          rw [hbatch, if_pos rfl, Nat.mul_add, Nat.mul_one]
          omega

end

theorem PresenceOk.lease_le (hok : PresenceOk settings usernameOf s now) {userId c : String}
    (ht : (s.leases userId).zscore c = some t) : t ≤ now + settings.leaseSeconds := by
  rcases hok.leases userId c t ht with ⟨user, name, hname, hkey⟩
  rw [hkey] at ht
  exact (hok.users user name hname).bounded c t ht

/-- Once every lease has expired, everything in the index is due. -/
theorem PresenceOk.due_of_expired (hok : PresenceOk settings usernameOf s now) (hnow : now ≤ time)
    (hexpired : forall userId c t, (s.leases userId).zscore c = some t -> t ≤ time) (m : String)
    (t : Rat) (ht : s.expirations.zscore m = some t) : t ≤ time := by
  rcases hok.expirations m t ht with ⟨userId, c, ⟨user, name, hname, hkey⟩, hm⟩
  rw [hm, hkey] at ht
  rcases (hok.users user name hname).stale c t ht with hlease | hle
  · exact hexpired user.str c t hlease
  · exact hle.trans hnow

/-- Nobody is online when the index is empty. -/
theorem PresenceOk.online_eq_empty (hok : PresenceOk settings usernameOf s now)
    (hcard : s.expirations.zcard = 0) : s.online = ∅ := by
  refine Finset.eq_empty_of_forall_notMem ?_
  intro name hmem
  rcases hok.online name hmem with ⟨user, hname⟩
  rcases hok.consistent.indexed user name hname hmem with ⟨c, t, ht⟩
  rw [SortedSet.zcard_eq_zero.mp hcard] at ht
  cases ht

/--
Presence along every history: the structures agree in every state; a user whose connection has
registered or refreshed and has not disconnected is online until the lease expires; and when
all leases have expired, one reap for every batch of the index leaves nobody online.
-/
theorem presence_along_history (settings : PresenceSettings) (usernameOf : Uuid -> String)
    (hdistinct : DistinctUsernames usernameOf)
    (e : System.Execution (presenceSystem settings usernameOf)) :
    (forall n, n ≤ e.length -> PresenceConsistent usernameOf (e.stateAt n).store) ∧
    (forall i n user name connection t, i < n -> n ≤ e.length ->
      HasUsername usernameOf user name ->
      e.labelAt i = PresenceLabel.registerOrRefresh user connection t ->
      (forall j t', i < j -> j < n ->
        e.labelAt j ≠ PresenceLabel.disconnect user connection t') ->
      (e.stateAt n).now < t + settings.leaseSeconds ->
      name ∈ (e.stateAt n).store.online) ∧
    (forall i n time, i ≤ n -> n ≤ e.length -> (e.stateAt i).now ≤ time ->
      (forall userId c t, ((e.stateAt i).store.leases userId).zscore c = some t -> t ≤ time) ->
      (forall j, i ≤ j -> j < n ->
        (e.labelAt j).isRegister = false ∧ time ≤ (e.labelAt j).time) ->
      (e.stateAt i).store.expirations.zcard ⌈/⌉ settings.reaperBatchSize ≤ reapsBetween e i n ->
      (e.stateAt n).store.online = ∅) := by
  refine ⟨?_, ?_, ?_⟩
  · intro n hn
    exact (presenceOk_stateAt e hdistinct hn).consistent
  · intro i n user name connection t hin hn hname hlabel hkept hlive
    have hholds := holds_stateAt e hdistinct hin hn hname hlabel hkept hlive
    exact ((presenceOk_stateAt e hdistinct hn).users user name hname).online_of_holds hholds
  · intro i n time hin hn hnow hexpired hlabels hreaps
    have hstart := presenceOk_stateAt e hdistinct (hin.trans hn)
    have hcard := (zcard_stateAt e hdistinct hin hn (hstart.due_of_expired hnow hexpired)
      hlabels).2
    have henough := (ceilDiv_le_iff_le_mul settings.reaperBatchSize_pos).mp hreaps
    refine (presenceOk_stateAt e hdistinct hn).online_eq_empty ?_
    omega

/-!
One user registers a connection and is lost; a later reap takes the user offline.
-/

def presenceSettings : PresenceSettings where
  leaseSeconds := 60
  reaperBatchSize := 10
  reaperBatchSize_pos := by decide

def onlyAlice (user : Uuid) : String :=
  if user = 1 then "alice" else ""

theorem onlyAlice_distinct : DistinctUsernames onlyAlice := by
  have hone : forall user name, HasUsername onlyAlice user name -> user = 1 := by
    intro user name hname
    by_contra hne
    unfold HasUsername onlyAlice at hname
    rw [if_neg hne] at hname
    have herror : (normalizeUsername "").toBool = false := by decide +kernel
    rw [hname] at herror
    cases herror
  intro user other name huser hother
  rw [hone user name huser, hone other name hother]

def aliceLabels : List PresenceLabel :=
  [PresenceLabel.registerOrRefresh 1 "c" 0, PresenceLabel.reap 100]

theorem aliceLabels_run :
    (aliceLabels.foldlM (PresenceState.next presenceSettings onlyAlice)
      ⟨PresenceStore.empty, 0⟩).isSome = true := by
  decide +kernel

def aliceLost : System.Execution (presenceSystem presenceSettings onlyAlice) :=
  System.Execution.ofRun (fun _ _ _ hnext => hnext)
    (show (presenceSystem presenceSettings onlyAlice).start ⟨PresenceStore.empty, 0⟩ from rfl)
    (Option.some_get aliceLabels_run).symm (PresenceLabel.reap 100)

theorem alice_online_then_reaped :
    "alice" ∈ (aliceLost.stateAt 1).store.online ∧ (aliceLost.stateAt 2).store.online = ∅ := by
  have hname : HasUsername onlyAlice 1 "alice" := by
    unfold HasUsername onlyAlice
    decide +kernel
  have hok := presenceOk_stateAt aliceLost onlyAlice_distinct (n := 1) (by decide)
  rcases presence_along_history presenceSettings onlyAlice onlyAlice_distinct aliceLost with
    ⟨_, honline, hreaped⟩
  have hnow : (aliceLost.stateAt 1).now = 0 := by decide +kernel
  have hindex : (aliceLost.stateAt 1).store.expirations.zcard = 1 := by decide +kernel
  have hcount : reapsBetween aliceLost 1 2 = 1 := by decide +kernel
  constructor
  · refine honline 0 1 1 "alice" "c" 0 (by decide) (by decide) hname rfl
      (fun j t' hj hj' => absurd hj' (by omega)) ?_
    rw [hnow]
    decide +kernel
  · refine hreaped 1 2 60 (by decide) (by decide) ?_ ?_ ?_ ?_
    · rw [hnow]
      decide +kernel
    · intro userId c t ht
      refine (hok.lease_le ht).trans ?_
      rw [hnow]
      decide +kernel
    · intro j hj hj'
      have hone : j = 1 := by omega
      rw [hone]
      decide +kernel
    · rw [hindex, hcount]
      decide

end

end MessagingSystem
