import MessagingSystem.Broker.Generations

/-!
# What a projection does

The plan of a worker that holds a state row agrees with the tables for as long as
the lock is held: it binds the one key the user is entitled to through the pair, and
unbinds every other key the row remembers.
-/

namespace MessagingSystem

open Foundation

variable {known : List String} {bound : Bool} {current : String}

theorem isSafeIdentifierChar_not_space {c : Char} (h : isSafeIdentifierChar c = true) :
    isSpace c = false := by
  have hrange : 45 ≤ c.toNat ∧ c.toNat ≤ 122 := by
    simp only [isSafeIdentifierChar, Char.isAlphanum, Char.isAlpha, Char.isUpper,
      Char.isLower, Char.isDigit, Bool.or_eq_true, Bool.and_eq_true, decide_eq_true_eq,
      beq_iff_eq] at h
    have hval : forall a b : UInt32, c.val ≥ a -> c.val ≤ b ->
        a.toNat ≤ c.toNat ∧ c.toNat ≤ b.toNat := fun _ _ hlo hhi => ⟨hlo, hhi⟩
    rcases h with ((((⟨hlo, hhi⟩ | ⟨hlo, hhi⟩) | ⟨hlo, hhi⟩)) | hus) | hdash
    · exact ⟨Nat.le_trans (by decide) (hval _ _ hlo hhi).1,
        Nat.le_trans (hval _ _ hlo hhi).2 (by decide)⟩
    · exact ⟨Nat.le_trans (by decide) (hval _ _ hlo hhi).1,
        Nat.le_trans (hval _ _ hlo hhi).2 (by decide)⟩
    · exact ⟨Nat.le_trans (by decide) (hval _ _ hlo hhi).1,
        Nat.le_trans (hval _ _ hlo hhi).2 (by decide)⟩
    · subst hus
      decide
    · subst hdash
      decide
  simp only [isSpace, Bool.or_eq_false_iff, Bool.and_eq_false_iff,
    decide_eq_false_iff_not, beq_eq_false_iff_ne, ne_eq]
  omega

theorem strip_of_isSafeIdentifier {s : String} (h : isSafeIdentifier s = true) :
    strip s = s := by
  have hspace : forall c, c ∈ s.toList -> isSpace c = false := by
    intro c hc
    have hsafe : isSafeIdentifierChar c = true := by
      unfold isSafeIdentifier at h
      simp only [Bool.and_eq_true, List.all_eq_true] at h
      exact h.2 c hc
    exact isSafeIdentifierChar_not_space hsafe
  unfold strip
  rw [stripChars_of_all_false hspace, String.ofList_toList]

theorem collectKeys_spec {values keys : List String}
    (h : collectKeys known values = Except.ok keys) :
    (forall k, k ∈ known -> k ∈ keys) ∧ forall v, v ∈ values -> strip v ∈ keys := by
  induction values generalizing known with
  | nil =>
      cases h
      exact ⟨fun _ hk => hk, fun _ hv => absurd hv List.not_mem_nil⟩
  | cons value values ih =>
      unfold collectKeys at h
      simp only [bind_eq_ok] at h
      rcases h with ⟨_, _, _, _, hrest⟩
      rcases ih hrest with ⟨hknown, hvalues⟩
      have hself : strip value ∈
          (if strip value ∈ known then known else known ++ [strip value]) := by
        split
        · assumption
        · exact List.mem_append_right _ List.mem_cons_self
      have hkeep : forall k, k ∈ known ->
          k ∈ (if strip value ∈ known then known else known ++ [strip value]) := by
        intro k hk
        split
        · exact hk
        · exact List.mem_append_left _ hk
      refine ⟨fun k hk => hknown k (hkeep k hk), ?_⟩
      intro v hv
      rcases List.mem_cons.mp hv with hv | hv
      · rw [hv]
        exact hknown _ hself
      · exact hvalues v hv

/-- The operations a plan may still have to do. -/
def PlannedOp (bound : Bool) (current : String) (op : BrokerOp) : Prop :=
  (exists k, op = BrokerOp.unbind k ∧ (bound = true -> k ≠ current)) ∨
    (op = BrokerOp.bind current ∧ bound = true)

theorem brokerOps_planned {op : BrokerOp} (h : op ∈ brokerOps bound current known) :
    PlannedOp bound current op := by
  unfold brokerOps at h
  cases bound with
  | true =>
      rw [if_pos rfl] at h
      rcases List.mem_append.mp h with h | h
      · rcases List.mem_map.mp h with ⟨k, hk, heq⟩
        have hne : k ≠ current := by simpa using (List.mem_filter.mp hk).2
        exact Or.inl ⟨k, heq.symm, fun _ => hne⟩
      · exact Or.inr ⟨List.mem_singleton.mp h, rfl⟩
  | false =>
      rw [if_neg Bool.false_ne_true] at h
      rcases List.mem_map.mp h with ⟨k, _, heq⟩
      exact Or.inl ⟨k, heq.symm, fun hfalse => absurd hfalse Bool.false_ne_true⟩

theorem brokerOps_accounts {k : String} (h : k ∈ known) :
    BrokerOp.unbind k ∈ brokerOps bound current known ∨ (bound = true ∧ k = current) := by
  unfold brokerOps
  cases bound with
  | true =>
      rw [if_pos rfl]
      by_cases hk : k = current
      · exact Or.inr ⟨rfl, hk⟩
      · have hfilter : k ∈ known.filter (fun key => key != current) :=
          List.mem_filter.mpr ⟨h, by simpa using hk⟩
        exact Or.inl (List.mem_append_left _ (List.mem_map_of_mem hfilter))
  | false =>
      rw [if_neg Bool.false_ne_true]
      exact Or.inl (List.mem_map_of_mem h)

theorem brokerOps_bind (h : bound = true) :
    BrokerOp.bind current ∈ brokerOps bound current known := by
  unfold brokerOps
  rw [if_pos h]
  exact List.mem_append_right _ List.mem_cons_self

/-!
# The plan of a lock holder
-/

variable {db : Database} {plan : BindingPlan}

/-- The plan still has to unbind the key, or wants it bound. -/
def BindingPlan.Accounts (plan : BindingPlan) (k : String) : Prop :=
  BrokerOp.unbind k ∈ plan.remaining ∨
    (plan.actualDesiredBound = true ∧ k = plan.currentRoutingKey)

structure PlanOk (db : Database) (plan : BindingPlan) : Prop where
  state : exists s, db.bindingStates.get (plan.channelId, plan.userId) = some s
  user : exists user, db.users.get plan.userId = some user ∧ user.username = plan.username
  entitled : forall k, db.Entitled plan.channelId plan.userId k ↔
    (plan.actualDesiredBound = true ∧ k = plan.currentRoutingKey)
  current : IsRoutingKey plan.currentRoutingKey
  ops : forall op, op ∈ plan.remaining ->
    PlannedOp plan.actualDesiredBound plan.currentRoutingKey op

theorem PlanOk.entitled_current (h : PlanOk db plan) (hbound : plan.actualDesiredBound = true) :
    db.Entitled plan.channelId plan.userId plan.currentRoutingKey :=
  (h.entitled _).mpr ⟨hbound, rfl⟩

/-- A plan is good for as long as nobody else writes its state row. -/
theorem PlanOk.mono {db' : Database} (h : PlanOk db plan) (hstates : TracksStates db db')
    (husers : KeepsUsernames db db') (hsame : db.SameEntitlement db' plan.channelId plan.userId) :
    PlanOk db' plan := by
  rcases h.state with ⟨s, hs⟩
  rcases hstates _ _ s hs with ⟨s', hs', _⟩
  rcases h.user with ⟨user, huser, hname⟩
  rcases husers _ user huser with ⟨user', huser', hname'⟩
  refine ⟨⟨s', hs'⟩, ⟨user', huser', hname'.trans hname⟩, ?_, h.current, h.ops⟩
  intro k
  rw [hsame k]
  exact h.entitled k

structure PlannedFor (db : Database) (c u : Uuid) (plan : BindingPlan) : Prop where
  channelId : plan.channelId = c
  userId : plan.userId = u
  ok : PlanOk db plan
  accounts : forall s, db.bindingStates.get (c, u) = some s ->
    forall k, k ∈ s.routingKeys -> plan.Accounts k
  binds : plan.actualDesiredBound = true ->
    BrokerOp.bind plan.currentRoutingKey ∈ plan.remaining

theorem readBindingState_eq_some {snapshot now : Database} {c u : Uuid} {state : BindingRead}
    (h : readBindingState snapshot now c u = some state) :
    exists s0 s channel user, snapshot.bindingStates.get (c, u) = some s0 ∧
      now.bindingStates.get (c, u) = some s ∧ snapshot.channels.get c = some channel ∧
      snapshot.users.get u = some user ∧ state =
        { generation := s.generation
          desiredRoutingKey := s.desiredRoutingKey
          routingKeys := s.routingKeys
          channelSlug := channel.channelSlug
          deletedAt := channel.deletedAt
          username := user.username
          membershipRole := snapshot.role c u } := by
  unfold readBindingState at h
  simp only [Option.bind_eq_bind, Option.bind_eq_some_iff] at h
  rcases h with ⟨s0, hs0, s, hs, channel, hchannel, user, huser, heq⟩
  cases heq
  exact ⟨s0, s, channel, user, hs0, hs, hchannel, huser, rfl⟩

/-- Entitlement, as the read sees it. -/
theorem entitled_iff_read {c u : Uuid} {channel : Channel}
    (hchannel : db.channels.get c = some channel) (k : String) :
    db.Entitled c u k ↔
      ((channel.deletedAt.isNone && canRead (db.role c u)) = true ∧
        k = channelRoutingKey channel.channelSlug) := by
  unfold Database.Entitled
  rw [Bool.and_eq_true, Option.isNone_iff_eq_none]
  constructor
  · intro h
    rcases h with ⟨found, hfound, hlive, happroved, hk⟩
    rw [hchannel] at hfound
    cases hfound
    exact ⟨⟨hlive, happroved⟩, hk⟩
  · intro h
    exact ⟨channel, hchannel, h.1.1, h.1.2, h.2⟩

/--
A worker that finds the announced generation under the lock plans for the tables as
they are now, although it read some of them before it got the lock.
-/
theorem planBinding_spec {snapshot : Database} {c u : Uuid} {state : BindingRead}
    (hdb : BindingTablesOk db) (hsnapshot : BindingTablesOk snapshot)
    (htracks : Tracks snapshot db)
    (hannounced : snapshot.Announced (OutboxPayload.brokerBinding state.generation u c))
    (hread : readBindingState snapshot db c u = some state)
    (hplan : planBinding c u state = Except.ok plan) : PlannedFor db c u plan := by
  rcases readBindingState_eq_some hread with
    ⟨s0, s, channel, user, hs0, hs, hchannel, huser, heq⟩
  subst heq
  have hslug := hsnapshot.slugs c channel hchannel
  -- The row announced the generation before the snapshot was taken.
  have hsame : snapshot.SameEntitlement db c u := by
    rcases hannounced _ u c rfl with ⟨s1, hs1, hle⟩
    rw [hs0] at hs1
    cases hs1
    rcases htracks.states c u s0 hs0 with ⟨s2, hs2, hle2, hentitled⟩
    rw [hs] at hs2
    cases hs2
    exact hentitled (Nat.le_antisymm hle hle2)
  unfold planBinding at hplan
  simp only [bind_eq_ok, pure_eq_ok] at hplan
  rcases hplan with ⟨_, _, known, hknown, hplan⟩
  rw [strip_of_isSlugText hslug] at hplan hknown
  rw [strip_of_isSafeIdentifier (hsnapshot.usernames u user huser)] at hplan
  rcases htracks.usernames u user huser with ⟨user', huser', hname⟩
  have haccounts : forall k, k ∈ s.routingKeys -> k ∈ known := by
    intro k hk
    have hstrip := (collectKeys_spec hknown).2 k (List.mem_append_left _ hk)
    rwa [strip_of_isRoutingKey (hdb.routingKeys _ s hs k (Or.inr hk))] at hstrip
  subst hplan
  refine ⟨rfl, rfl, ⟨⟨s, hs⟩, ⟨user', huser', hname⟩, ?_, ⟨_, hslug, rfl⟩, ?_⟩, ?_, ?_⟩
  · intro k
    rw [hsame k]
    exact entitled_iff_read hchannel k
  · intro op hop
    exact brokerOps_planned hop
  · intro s1 hs1 k hk
    rw [hs] at hs1
    cases hs1
    exact brokerOps_accounts (haccounts k hk)
  · intro hbound
    exact brokerOps_bind hbound

end MessagingSystem
