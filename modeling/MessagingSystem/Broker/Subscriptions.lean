import MessagingSystem.Broker.Bindings

/-!
# Bindings and lost subscriptions

Each pair unbinds every key its state remembers, although another channel may have
taken the key meanwhile and share the user's queue.  As long as no worker unbinds a
key that the user is entitled to through another channel, nothing is lost.
-/

namespace MessagingSystem

open Foundation

def BrokerLabel.expires : BrokerLabel -> Bool
  | expire _ => true
  | _ => false

/-- The step does not drop a user's queue. -/
def KeepsQueues (label : BrokerLabel) : Prop :=
  label.expires = false

instance (label : BrokerLabel) : Decidable (KeepsQueues label) :=
  inferInstanceAs (Decidable (_ = _))

/-- The worker is about to unbind a key that its user is entitled to. -/
def UnbindsEntitled (s : BrokerState) (label : BrokerLabel) : Prop :=
  exists w row plan k rest c, label = BrokerLabel.operate w ∧
    s.workers.get w = some (BindingWorker.holding row plan) ∧
    plan.remaining = BrokerOp.unbind k :: rest ∧ s.db.Entitled c plan.userId k

/-- Histories in which no queue expires. -/
def lastingSystem : System BrokerState BrokerLabel :=
  brokerSystem.restrict (fun _ label => KeepsQueues label)

/-- Histories in which, moreover, no worker unbinds a key the user is entitled to. -/
def carefulSystem : System BrokerState BrokerLabel :=
  lastingSystem.restrict (fun s label => ¬UnbindsEntitled s label)

/-!
# The invariant
-/

/-- The key is bound to the queue of the user. -/
def BrokerState.Bound (s : BrokerState) (u : Uuid) (k : String) : Prop :=
  exists user, s.db.users.get u = some user ∧ k ∈ s.keys user.username

/-- A plan that wants the current key bound has bound it or is going to. -/
def PlanServed (s : BrokerState) : BindingWorker -> Prop
  | BindingWorker.holding _ plan => plan.actualDesiredBound = true ->
      BrokerOp.bind plan.currentRoutingKey ∈ plan.remaining ∨
        s.Bound plan.userId plan.currentRoutingKey
  | _ => True

structure SubscriptionsOk (s : BrokerState) : Prop where
  bindings : BindingsOk s
  planned : forall w worker, s.workers.get w = some worker -> PlanServed s worker
  reconciled : forall c u st k, s.db.bindingStates.get (c, u) = some st ->
    st.reconciledGeneration = st.generation -> s.db.Entitled c u k -> s.Bound u k

theorem subscriptionsOk_empty : SubscriptionsOk BrokerState.empty := by
  refine ⟨bindingsOk_empty, ?_, ?_⟩
  · intro w worker h
    cases h
  · intro c u st k h
    cases h

section

variable {s s' : BrokerState} {label : BrokerLabel}

theorem mem_apply_of_mem {op : BrokerOp} {keys : List String} {k : String} (h : k ∈ keys)
    (hop : op ≠ BrokerOp.unbind k) : k ∈ op.apply keys := by
  cases op with
  | unbind key =>
      have hne : k ≠ key := fun heq => hop (by rw [heq])
      exact List.mem_filter.mpr ⟨h, by simpa using hne⟩
  | bind key =>
      simp only [BrokerOp.apply]
      split
      · exact h
      · exact List.mem_append_left _ h

theorem self_mem_apply_bind (keys : List String) (k : String) :
    k ∈ (BrokerOp.bind k).apply keys := by
  simp only [BrokerOp.apply]
  split
  · assumption
  · exact List.mem_append_right _ List.mem_cons_self

/-- A careful step keeps every binding that a user is entitled to. -/
theorem BrokerStep.keeps_bound (h : BrokerStep s label s') (hok : BindingsOk s)
    (hqueues : KeepsQueues label) (hsafe : ¬UnbindsEntitled s label) {c u : Uuid} {k : String}
    (hentitled : s.db.Entitled c u k) (hbound : s.Bound u k) : s'.Bound u k := by
  rcases hbound with ⟨user, huser, hk⟩
  rcases (h.tracks hok).usernames u user huser with ⟨user', huser', hname⟩
  refine ⟨user', huser', ?_⟩
  rw [hname]
  cases h with
  | backend | account | rewrite | pick | read | close | hold | finish | crash => exact hk
  | operate hw hops =>
      rename_i w row plan op rest
      show k ∈ ((s.queues.set plan.username _).get user.username).getD []
      rw [keys_set]
      split
      · rename_i hsame
        rw [← hsame]
        refine mem_apply_of_mem hk ?_
        intro hop
        rcases (hok.planOk hw).user with ⟨owner, howner, hownerName⟩
        have hu : u = plan.userId :=
          hok.tables.uniqueNames _ _ _ _ huser howner (hsame.trans hownerName.symm)
        subst hu
        rw [hop] at hops
        exact hsafe ⟨w, row, plan, k, rest, c, rfl, hw, hops, hentitled⟩
      · exact hk
  | expire => cases hqueues

theorem BrokerStep.planned (h : BrokerStep s label s') (hok : SubscriptionsOk s)
    (hqueues : KeepsQueues label) (hsafe : ¬UnbindsEntitled s label) :
    forall w worker, s'.workers.get w = some worker -> PlanServed s' worker := by
  have hkept : forall w worker, s.workers.get w = some worker -> PlanServed s' worker := by
    intro w worker hw
    cases worker with
    | picked | reading => trivial
    | holding row plan =>
        intro hbound
        rcases hok.planned w _ hw hbound with hop | hkey
        · exact Or.inl hop
        · have hentitled := (hok.bindings.planOk hw).entitled_current hbound
          exact Or.inr (h.keeps_bound hok.bindings hqueues hsafe hentitled hkey)
  cases h with
  | backend | account | rewrite | expire => exact hkept
  | close | finish | crash =>
      exact fun w' worker hget => hkept w' worker (Table.get_of_get_set_none hget).2
  | pick | read =>
      exact Table.forall_get_set_some hkept trivial
  | hold hw hpayload hread _ hplan =>
      refine Table.forall_get_set_some hkept ?_
      intro hbound
      exact Or.inl ((hok.bindings.plannedFor hw hpayload hread hplan).binds hbound)
  | operate hw hops =>
      rename_i w row plan op rest
      refine Table.forall_get_set_some hkept ?_
      intro hbound
      rcases hkept w _ hw hbound with hop | hkey
      · rw [hops] at hop
        rcases List.mem_cons.mp hop with hop | hop
        · rcases (hok.bindings.planOk hw).user with ⟨user, huser, hname⟩
          refine Or.inr ⟨user, huser, ?_⟩
          show _ ∈ ((s.queues.set plan.username _).get user.username).getD []
          rw [keys_set, if_pos hname, ← hop]
          exact self_mem_apply_bind _ _
        · exact Or.inl hop
      · exact Or.inr hkey

/-- A reconciled state after the commit was reconciled before, with the same keys allowed. -/
theorem BackendCommit.reconciled_before {db db' : Database} (h : BackendCommit db db')
    (hok : BindingTablesOk db) {c u : Uuid} {st : BrokerBindingState}
    (hst : db'.bindingStates.get (c, u) = some st)
    (hreconciled : st.reconciledGeneration = st.generation) :
    db.bindingStates.get (c, u) = some st ∧ db.SameEntitlement db' c u := by
  cases hbefore : db.bindingStates.get (c, u) with
  | none =>
      rcases h.state_cases hok.slugs hst with hold | ⟨bound, slug, _, heq, _⟩
      · rw [hbefore] at hold
        cases hold
      · rw [hbefore] at heq
        subst heq
        exact absurd hreconciled Nat.zero_ne_one
  | some before =>
      rcases h.advances hok.members c u before hbefore with ⟨after, hafter, hcase⟩
      rw [hst] at hafter
      cases hafter
      rcases hcase with ⟨heq, hsame⟩ | ⟨hlt, hsameReconciled, _⟩
      · exact ⟨congrArg some heq.symm, hsame⟩
      · have hle := hok.reconciled _ before hbefore
        omega

theorem BrokerStep.reconciled (h : BrokerStep s label s') (hok : SubscriptionsOk s)
    (hqueues : KeepsQueues label) (hsafe : ¬UnbindsEntitled s label) :
    forall c u st k, s'.db.bindingStates.get (c, u) = some st ->
      st.reconciledGeneration = st.generation -> s'.db.Entitled c u k -> s'.Bound u k := by
  intro c u st k hst hreconciled hentitled
  have hbefore : s.db.bindingStates.get (c, u) = some st -> s.db.Entitled c u k ->
      s'.Bound u k := by
    intro hst hentitled
    exact h.keeps_bound hok.bindings hqueues hsafe hentitled
      (hok.reconciled c u st k hst hreconciled hentitled)
  cases h with
  | backend hcommit =>
      rcases hcommit.reconciled_before hok.bindings.tables hst hreconciled with ⟨hst, hsame⟩
      exact hbefore hst ((hsame k).mp hentitled)
  | account | rewrite | pick | read | close | hold | operate | crash | expire =>
      exact hbefore hst hentitled
  | finish hw hops =>
      rename_i w row plan
      have hplan := hok.bindings.planOk hw
      rcases finishBinding_state hst with hold | ⟨_, hpair, _, _⟩
      · exact hbefore hold ((finishBinding_entitled c u k).mp hentitled)
      · cases hpair
        have hcurrent := (hplan.entitled k).mp ((finishBinding_entitled _ _ k).mp hentitled)
        rcases hok.planned w _ hw hcurrent.1 with hop | hkey
        · rw [hops] at hop
          cases hop
        · rw [hcurrent.2]
          exact hkey

theorem subscriptionsOk_of_reachable (h : carefulSystem.Reachable s) : SubscriptionsOk s := by
  refine System.Reachable.invariant ?_ ?_ h
  · intro s hs
    cases hs
    exact subscriptionsOk_empty
  · intro s label s' hok hstep
    rcases hstep with ⟨hsafe, hqueues, hnext⟩
    have hbroker := brokerStep_of_next hnext
    exact ⟨bindingsOk_step hok.bindings hbroker, hbroker.planned hok hqueues hsafe,
      hbroker.reconciled hok hqueues hsafe⟩

end

/-!
# Nothing is lost in a careful history
-/

theorem entitled_keys_are_bound {s : BrokerState} (h : carefulSystem.Reachable s) {u : Uuid}
    {user : User} (huser : s.db.users.get u = some user) (hreconciled : s.db.Reconciled u) :
    forall c k, s.db.Entitled c u k -> k ∈ s.keys user.username := by
  intro c k hentitled
  have hok := subscriptionsOk_of_reachable h
  rcases hok.bindings.tables.entitled c u k hentitled with ⟨st, hst, _⟩
  rcases hok.reconciled c u st k hst (hreconciled c st hst) hentitled with
    ⟨found, hfound, hk⟩
  rw [huser] at hfound
  cases hfound
  exact hk

/-- Whether some live channel of the user has the key. -/
def Database.hasEntitled (db : Database) (u : Uuid) (k : String) : Bool :=
  db.channels.rows.any (fun r => r.2.deletedAt.isNone && canRead (db.role r.1 u) &&
    k == channelRoutingKey r.2.channelSlug)

theorem hasEntitled_iff {db : Database} {u : Uuid} {k : String} :
    db.hasEntitled u k = true ↔ exists c, db.Entitled c u k := by
  unfold Database.hasEntitled
  rw [List.any_eq_true]
  simp only [Bool.and_eq_true, Option.isNone_iff_eq_none, beq_iff_eq]
  constructor
  · intro h
    rcases h with ⟨⟨c, channel⟩, hmem, ⟨hlive, hrole⟩, hk⟩
    exact ⟨c, channel, Table.mem_rows.mp hmem, hlive, hrole, hk⟩
  · intro h
    rcases h with ⟨c, channel, hget, hlive, hrole, hk⟩
    exact ⟨(c, channel), Table.mem_rows.mpr hget, ⟨hlive, hrole⟩, hk⟩

def unbindsEntitled (s : BrokerState) : BrokerLabel -> Bool
  | BrokerLabel.operate w =>
      match s.workers.get w with
      | some (BindingWorker.holding _ plan) =>
          match plan.remaining with
          | BrokerOp.unbind k :: _ => s.db.hasEntitled plan.userId k
          | _ => false
      | _ => false
  | _ => false

theorem unbindsEntitled_iff {s : BrokerState} {label : BrokerLabel} :
    unbindsEntitled s label = true ↔ UnbindsEntitled s label := by
  constructor
  · intro h
    unfold unbindsEntitled at h
    split at h
    · rename_i w
      split at h
      · rename_i row plan hw
        split at h
        · rename_i k rest hops
          rcases hasEntitled_iff.mp h with ⟨c, hentitled⟩
          exact ⟨w, row, plan, k, rest, c, rfl, hw, hops, hentitled⟩
        · cases h
      · cases h
    · cases h
  · intro h
    rcases h with ⟨w, row, plan, k, rest, c, hlabel, hw, hops, hentitled⟩
    subst hlabel
    simp only [unbindsEntitled, hw, hops]
    exact hasEntitled_iff.mpr ⟨c, hentitled⟩

instance (s : BrokerState) (label : BrokerLabel) : Decidable (UnbindsEntitled s label) :=
  decidable_of_iff _ unbindsEntitled_iff

def lastingNext : BrokerState -> BrokerLabel -> Option BrokerState :=
  System.guarded (fun _ label => KeepsQueues label) BrokerState.next

def carefulNext : BrokerState -> BrokerLabel -> Option BrokerState :=
  System.guarded (fun s label => ¬UnbindsEntitled s label) lastingNext

theorem lastingSystem_step (s : BrokerState) (label : BrokerLabel) (s' : BrokerState)
    (h : lastingNext s label = some s') : lastingSystem.step s label s' :=
  System.step_of_guarded (fun _ _ _ hstep => hstep) s label s' h

def renameChannel (seed : Nat) (c : Uuid) (slug : ValidSlug) : BrokerLabel :=
  BrokerLabel.call (sampleEnv seed) (Call.updateChannel c 1
    { name := none, channelSlug := some slug, description := none, avatarUrl := none,
      visibility := none, joinMode := none })

def alphaSlug : ValidSlug where
  text := "alpha"
  safe := by decide
  slugText := isSlugText_of_all rfl

def gammaSlug : ValidSlug where
  text := "gamma"
  safe := by decide
  slugText := isSlugText_of_all rfl

/-- What the runs below are judged by: is everything projected, and what is bound? -/
def settledKeys (s : BrokerState) : Option (List String) :=
  if s.db.outbox.all (fun row => row.aggregateType != "broker_binding" ||
        row.status == OutboxStatus.published) &&
      s.db.bindingStates.rows.all
        (fun r => r.2.reconciledGeneration == r.2.generation) then
    (s.db.users.get 1).map (fun user => s.keys user.username)
  else none

theorem settledKeys_eq_some {s : BrokerState} {keys : List String}
    (h : settledKeys s = some keys) :
    (forall row, row ∈ s.db.outbox -> row.aggregateType = "broker_binding" ->
      row.status = OutboxStatus.published) ∧ s.db.Reconciled 1 ∧
      exists user, s.db.users.get 1 = some user ∧ s.keys user.username = keys := by
  unfold settledKeys at h
  split at h
  · rename_i hsettled
    rw [Bool.and_eq_true, List.all_eq_true] at hsettled
    refine ⟨?_, reconciled_of_rows hsettled.2 1, Option.map_eq_some_iff.mp h⟩
    intro row hrow htype
    have hpublished := hsettled.1 row hrow
    rw [htype] at hpublished
    simpa using hpublished
  · cases h

theorem renamed_channel_is_bound :
    exists s user, carefulSystem.Reachable s ∧ s.db.users.get 1 = some user ∧
      s.db.Entitled 100 1 "channel.gamma" ∧ "channel.gamma" ∈ s.keys user.username := by
  let labels := [BrokerLabel.account 1 (sampleUser "alice"),
    BrokerLabel.call (sampleEnv 100)
      (Call.createChannel 1 (sampleChannelRequest "alpha"))] ++ projectRow 0 1 ++
    [renameChannel 200 100 gammaSlug] ++ projectRow 2 2
  have hrun : (labels.foldlM carefulNext BrokerState.empty).map
      (fun s => (settledKeys s, s.db.hasEntitled 1 "channel.gamma",
        s.db.channels.keys)) = some (some ["channel.gamma"], true, [100]) := by
    decide +kernel
  rcases System.exists_reachable_of_run (M := carefulSystem)
    (System.step_of_guarded lastingSystem_step) rfl hrun with ⟨s, hreach, hview⟩
  rcases settledKeys_eq_some (congrArg Prod.fst hview) with
    ⟨_, hreconciled, user, huser, _⟩
  rcases hasEntitled_iff.mp (congrArg (fun v => v.2.1) hview) with ⟨c, hentitled⟩
  have hc : c = 100 := by
    rcases hentitled with ⟨channel, hget, _⟩
    have hmem : c ∈ s.db.channels.keys := by
      rw [Table.mem_keys, hget]
      rfl
    have hkeys : s.db.channels.keys = [100] := congrArg (fun v => v.2.2) hview
    rw [hkeys] at hmem
    exact List.mem_singleton.mp hmem
  subst hc
  exact ⟨s, user, hreach, huser, hentitled,
    entitled_keys_are_bound hreach huser hreconciled 100 _ hentitled⟩

/-!
# A key that changes hands

The first channel gives up its slug and the second one takes it.  The row of the first
fails once, so the second is projected before it.
-/

def slugHandover : List BrokerLabel :=
  [BrokerLabel.account 1 (sampleUser "alice"),
    BrokerLabel.call (sampleEnv 100) (Call.createChannel 1 (sampleChannelRequest "alpha")),
    BrokerLabel.call (sampleEnv 200) (Call.createChannel 1 (sampleChannelRequest "bravo"))] ++
  projectRow 0 1 ++ projectRow 1 1 ++
  [renameChannel 300 100 gammaSlug, renameChannel 400 200 alphaSlug,
    BrokerLabel.pick 0 3, BrokerLabel.fail 0 5] ++ projectRow 5 2 ++ projectRow 3 2

theorem slugHandover_loses_subscription :
    exists s user c, lastingSystem.Reachable s ∧
      (forall row, row ∈ s.db.outbox -> row.aggregateType = "broker_binding" ->
        row.status = OutboxStatus.published) ∧
      s.db.users.get 1 = some user ∧ s.db.Reconciled 1 ∧
      s.db.Entitled c 1 "channel.alpha" ∧ "channel.alpha" ∉ s.keys user.username := by
  have hrun : (slugHandover.foldlM lastingNext BrokerState.empty).map
      (fun s => (settledKeys s, s.db.hasEntitled 1 "channel.alpha")) =
        some (some ["channel.gamma"], true) := by
    decide +kernel
  rcases System.exists_reachable_of_run (M := lastingSystem) lastingSystem_step rfl hrun with
    ⟨s, hreach, hview⟩
  rcases settledKeys_eq_some (congrArg Prod.fst hview) with
    ⟨hpublished, hreconciled, user, huser, hkeys⟩
  rcases hasEntitled_iff.mp (congrArg Prod.snd hview) with ⟨c, hentitled⟩
  refine ⟨s, user, c, hreach, hpublished, huser, hreconciled, hentitled, ?_⟩
  rw [hkeys]
  decide

end MessagingSystem
