import MessagingSystem.Broker.Worker

/-!
# Entitlement and generations

A user is entitled to a routing key when it is the current key of a live channel
that lists the user as owner, admin or member.  Every committed change either leaves
the entitlement of a pair alone or raises the generation of its binding state; that
is what makes a generation check a check of authorization.
-/

namespace MessagingSystem

open Foundation

variable {db db' mid : Database} {c u : Uuid} {k : String}

/-- The key is the current one of a live channel with the user as approved member. -/
def Database.Entitled (db : Database) (c u : Uuid) (k : String) : Prop :=
  exists channel, db.channels.get c = some channel ∧ channel.deletedAt = none ∧
    db.Approved c u ∧ k = channelRoutingKey channel.channelSlug

theorem entitled_congr (hchannels : db'.channels = db.channels)
    (hmemberships : db'.memberships = db.memberships) (c u : Uuid) (k : String) :
    db'.Entitled c u k ↔ db.Entitled c u k := by
  unfold Database.Entitled Database.Approved
  rw [hchannels, role_congr hmemberships]

theorem approved_iff_of_role (h : db'.role c u = db.role c u) :
    db'.Approved c u ↔ db.Approved c u := by
  unfold Database.Approved
  rw [h]

theorem mem_approvedPairs {c' : Uuid} :
    (c', u) ∈ (db.approvedMembers c).map (fun x => (c, x)) ↔ c' = c ∧ db.Approved c u := by
  rw [List.mem_map]
  constructor
  · intro h
    rcases h with ⟨x, hx, heq⟩
    cases heq
    exact ⟨rfl, Database.mem_approvedMembers.mp hx⟩
  · intro h
    exact ⟨u, Database.mem_approvedMembers.mpr h.2, by rw [h.1]⟩

/-- A row change that keeps slug and deletion keeps entitlement. -/
theorem entitled_setChannel {channel channel' : Channel} (hget : db.channels.get c = some channel)
    (hchannels : mid.channels = db.channels.set c (some channel'))
    (hslug : channel'.channelSlug = channel.channelSlug)
    (hdeleted : channel'.deletedAt = channel.deletedAt) {c' : Uuid}
    (hrole : mid.role c' u = db.role c' u) (k : String) :
    mid.Entitled c' u k ↔ db.Entitled c' u k := by
  unfold Database.Entitled
  rw [approved_iff_of_role hrole, hchannels, Table.get_set]
  by_cases hc : c' = c
  · subst hc
    rw [if_pos rfl, hget]
    constructor
    · intro h
      rcases h with ⟨found, hfound, hlive, happroved, hk⟩
      cases hfound
      exact ⟨channel, rfl, hdeleted ▸ hlive, happroved, hslug ▸ hk⟩
    · intro h
      rcases h with ⟨found, hfound, hlive, happroved, hk⟩
      cases hfound
      exact ⟨channel', rfl, hdeleted ▸ hlive, happroved, hslug.symm ▸ hk⟩
  · rw [if_neg hc]

/-- A channel row change does not concern users who are not approved. -/
theorem entitled_setChannel_of_not_approved {row : Option Channel}
    (hchannels : mid.channels = db.channels.set c row) {c' : Uuid}
    (hrole : mid.role c' u = db.role c' u) (hnot : c' = c -> ¬db.Approved c' u) (k : String) :
    mid.Entitled c' u k ↔ db.Entitled c' u k := by
  unfold Database.Entitled
  rw [approved_iff_of_role hrole]
  by_cases hc : c' = c
  · constructor
    · rintro ⟨_, _, _, happroved, _⟩
      exact absurd happroved (hnot hc)
    · rintro ⟨_, _, _, happroved, _⟩
      exact absurd happroved (hnot hc)
  · rw [hchannels, Table.get_set_ne _ hc]

theorem Change.entitled_of_not_mem {env : Env} {call : Call} {pairs : List (Uuid × Uuid)}
    (h : Change env db mid call pairs) (hmembers : MembershipsHaveChannels db)
    (hpair : (c, u) ∉ pairs) (k : String) : mid.Entitled c u k ↔ db.Entitled c u k := by
  -- A channel row replaced while nobody outside `pairs` is approved in it.
  have hother : forall {c0 : Uuid} {channel' : Channel},
      mid.channels = db.channels.set c0 (some channel') ->
      mid.memberships = db.memberships ->
      pairs = (db.approvedMembers c0).map (fun x => (c0, x)) ->
      (mid.Entitled c u k ↔ db.Entitled c u k) := by
    intro c0 channel' hchannels hmemberships hpairs
    refine entitled_setChannel_of_not_approved hchannels (role_congr hmemberships c u) ?_ k
    intro hc happroved
    apply hpair
    rw [hpairs, mem_approvedPairs]
    exact ⟨hc, hc ▸ happroved⟩
  -- A membership row written for one of `pairs`.
  have hkept : forall {c0 u0 : Uuid} {row : Option ChannelMembership},
      mid.memberships = db.memberships.set (c0, u0) row -> (c0, u0) ∈ pairs ->
      mid.role c u = db.role c u := by
    intro c0 u0 row hmemberships hmem
    have hne : ¬(c = c0 ∧ u = u0) := by
      intro heq
      apply hpair
      rw [heq.1, heq.2]
      exact hmem
    unfold Database.role
    rw [Database.getMembership_set hmemberships, if_neg hne]
  cases h with
  | quiet _ _ hchannels hmemberships => exact entitled_congr hchannels hmemberships c u k
  | created c0 owner _ channel row hfresh hchannels hmemberships =>
      refine entitled_setChannel_of_not_approved hchannels
        (hkept hmemberships List.mem_cons_self) ?_ k
      intro hc happroved
      unfold Database.Approved Database.role at happroved
      cases hget : db.getMembership c u with
      | none =>
          rw [hget] at happroved
          cases happroved
      | some m =>
          have hsome := hmembers c u (by rw [hget]; rfl)
          rw [hc, hfresh] at hsome
          cases hsome
  | member _ c0 u0 channel row hchannel _ hchannels hmemberships =>
      exact entitled_setChannel hchannel hchannels rfl rfl
        (hkept hmemberships List.mem_cons_self) k
  | edited c0 _ req channel _ hchannel _ hchannels hmemberships _ hpairs =>
      rcases hpairs with ⟨_, hslug⟩ | hpairs
      · exact entitled_setChannel hchannel hchannels hslug.symm rfl
          (role_congr hmemberships c u) k
      · exact hother hchannels hmemberships hpairs
  | switched _ c0 channel _ hchannel _ hchannels hmemberships =>
      exact hother hchannels hmemberships rfl

/-!
# Routing keys
-/

def IsRoutingKey (k : String) : Prop :=
  exists slug, IsSlugText slug ∧ k = channelRoutingKey slug

theorem strip_of_isRoutingKey (h : IsRoutingKey k) : strip k = k := by
  rcases h with ⟨slug, hslug, rfl⟩
  have hspace : forall c, c ∈ (channelRoutingKey slug).toList -> isSpace c = false := by
    intro c hc
    unfold channelRoutingKey at hc
    rw [String.toList_append] at hc
    rcases List.mem_append.mp hc with hc | hc
    · have hfixed : "channel.".toList.all (fun d => !isSpace d) = true := rfl
      exact Bool.not_eq_true' _ ▸ List.all_eq_true.mp hfixed c hc
    · exact isSlugChar_not_space (hslug c hc)
  unfold strip
  rw [stripChars_of_all_false hspace, String.ofList_toList]

theorem IsRoutingKey.ne_empty (h : IsRoutingKey k) : k ≠ "" := by
  rcases h with ⟨slug, _, rfl⟩
  intro heq
  have hlength := congrArg (fun s : String => s.toList.length) heq
  unfold channelRoutingKey at hlength
  simp [String.toList_append] at hlength

theorem mem_knownRoutingKeys {s : BrokerBindingState} {key : String}
    (h : k ∈ knownRoutingKeys s key) : k ∈ s.routingKeys ∨ k = s.desiredRoutingKey ∨ k = key := by
  unfold knownRoutingKeys at h
  simp only at h
  split at h
  · split at h
    · rcases List.mem_append.mp h with h | h
      · rcases List.mem_append.mp h with h | h
        · exact Or.inl (List.mem_filter.mp h).1
        · exact Or.inr (Or.inl (List.mem_singleton.mp h))
      · exact Or.inr (Or.inr (List.mem_singleton.mp h))
    · rcases List.mem_append.mp h with h | h
      · exact Or.inl (List.mem_filter.mp h).1
      · exact Or.inr (Or.inl (List.mem_singleton.mp h))
  · split at h
    · rcases List.mem_append.mp h with h | h
      · exact Or.inl (List.mem_filter.mp h).1
      · exact Or.inr (Or.inr (List.mem_singleton.mp h))
    · exact Or.inl (List.mem_filter.mp h).1

theorem knownRoutingKeys_of_mem {s : BrokerBindingState} {key : String} (h : k ∈ s.routingKeys)
    (hne : k ≠ "") : k ∈ knownRoutingKeys s key := by
  have hfilter : k ∈ s.routingKeys.filter (fun key => key != "") := by
    exact List.mem_filter.mpr ⟨h, by simpa using hne⟩
  unfold knownRoutingKeys
  simp only
  split
  · split
    · exact List.mem_append_left _ (List.mem_append_left _ hfilter)
    · exact List.mem_append_left _ hfilter
  · split
    · exact List.mem_append_left _ hfilter
    · exact hfilter

theorem self_mem_knownRoutingKeys (s : BrokerBindingState) (key : String) :
    key ∈ knownRoutingKeys s key := by
  unfold knownRoutingKeys
  simp only
  generalize (if s.desiredRoutingKey ≠ "" ∧
      s.desiredRoutingKey ∉ s.routingKeys.filter (fun key => key != "") then _ else _) = known
  split
  · exact List.mem_append_right _ List.mem_cons_self
  · rename_i h
    exact not_not.mp h

end MessagingSystem
