import MessagingSystem.Broker.Steps

/-!
# Bindings never over-grant

Every key on a user's queue has an explanation: a pair whose state remembers the key
and, if a worker is at work on the pair, a plan that accounts for it.  A state that is
reconciled remembers only a key the user is entitled to.
-/

namespace MessagingSystem

open Foundation

variable {plan : BindingPlan}

/-!
# The invariant
-/

def WorkerOk (db : Database) : BindingWorker -> Prop
  | BindingWorker.picked row => exists p, db.outbox[row]?.map Outbox.payload = some p
  | BindingWorker.reading row snapshot =>
      BindingTablesOk snapshot ∧ Tracks snapshot db ∧
        exists p, snapshot.outbox[row]?.map Outbox.payload = some p
  | BindingWorker.holding _ plan => PlanOk db plan

/-- The state of the pair remembers the key, and rightly so once it is reconciled. -/
def Database.Remembers (db : Database) (c u : Uuid) (k : String) : Prop :=
  exists s, db.bindingStates.get (c, u) = some s ∧ k ∈ s.routingKeys ∧
    (s.reconciledGeneration = s.generation -> db.Entitled c u k)

structure Explains (s : BrokerState) (c u : Uuid) (n k : String) : Prop where
  user : exists user, s.db.users.get u = some user ∧ user.username = n
  remembered : s.db.Remembers c u k
  holders : forall w row plan, s.workers.get w = some (BindingWorker.holding row plan) ->
    (plan.channelId, plan.userId) = (c, u) -> plan.Accounts k

/-- Two workers never hold the same state row. -/
def LocksDistinct (workers : Table Nat BindingWorker) : Prop :=
  forall w worker, workers.get w = some worker ->
    forall w' worker', workers.get w' = some worker' ->
      forall pair, worker.pair = some pair -> worker'.pair = some pair -> w = w'

structure BindingsOk (s : BrokerState) : Prop where
  tables : BindingTablesOk s.db
  workers : forall w worker, s.workers.get w = some worker -> WorkerOk s.db worker
  distinct : LocksDistinct s.workers
  explained : forall n k, k ∈ s.keys n -> exists c u, Explains s c u n k

theorem bindingsOk_empty : BindingsOk BrokerState.empty := by
  refine ⟨bindingTablesOk_empty, ?_, ?_, ?_⟩
  · intro w worker h
    cases h
  · intro w worker h
    cases h
  · intro n k h
    cases h

/-!
# Workers
-/

variable {db : Database}

theorem WorkerOk.mono {db' : Database} {worker : BindingWorker} (h : WorkerOk db worker)
    (htracks : Tracks db db') (hsame : forall pair, worker.pair = some pair ->
      db.SameEntitlement db' pair.1 pair.2) : WorkerOk db' worker := by
  cases worker with
  | picked row =>
      rcases h with ⟨p, hp⟩
      exact ⟨p, htracks.payloads row p hp⟩
  | reading row snapshot =>
      rcases h with ⟨htables, hsnapshot, hp⟩
      exact ⟨htables, hsnapshot.trans htracks, hp⟩
  | holding row plan =>
      have hplan : PlanOk db plan := h
      exact hplan.mono htracks.states htracks.usernames (hsame _ rfl)

theorem PlanOk.tail {op : BrokerOp} {rest : List BrokerOp} (h : PlanOk db plan)
    (hops : plan.remaining = op :: rest) : PlanOk db { plan with remaining := rest } := by
  refine ⟨h.state, h.user, h.entitled, h.current, ?_⟩
  intro op' hop'
  apply h.ops
  rw [hops]
  exact List.mem_cons_of_mem op hop'

theorem LocksDistinct.set {workers : Table Nat BindingWorker} {w : Nat}
    {r : Option BindingWorker} (h : LocksDistinct workers)
    (hnew : forall worker pair, r = some worker -> worker.pair = some pair ->
      forall w' worker', workers.get w' = some worker' -> worker'.pair = some pair ->
        w' = w) : LocksDistinct (workers.set w r) := by
  refine Table.forall_get_set ?_ ?_
  · intro w1 worker1 h1
    refine Table.forall_get_set (h w1 worker1 h1) ?_
    intro worker2 h2 pair hp1 hp2
    exact hnew worker2 pair h2 hp2 w1 worker1 h1 hp1
  · intro worker1 h1
    refine Table.forall_get_set ?_ ?_
    · intro w2 worker2 h2 pair hp1 hp2
      exact (hnew worker1 pair h1 hp1 w2 worker2 h2 hp2).symm
    · intro worker2 _ pair _ _
      rfl

section

variable {s s' : BrokerState} {label : BrokerLabel}

theorem BindingsOk.planOk (hok : BindingsOk s) {w row : Nat}
    (hw : s.workers.get w = some (BindingWorker.holding row plan)) : PlanOk s.db plan :=
  hok.workers w _ hw

theorem BindingsOk.plannedFor (hok : BindingsOk s) {w row : Nat} {snapshot : Database}
    {c u : Uuid} {state : BindingRead}
    (hw : s.workers.get w = some (BindingWorker.reading row snapshot))
    (hpayload : s.db.outbox[row]?.map Outbox.payload =
      some (OutboxPayload.brokerBinding state.generation u c))
    (hread : readBindingState snapshot s.db c u = some state)
    (hplan : planBinding c u state = Except.ok plan) : PlannedFor s.db c u plan := by
  rcases hok.workers w _ hw with ⟨htables, htracks, p, hp⟩
  refine planBinding_spec hok.tables htables htracks ?_ hread hplan
  have hp' := htracks.payloads row p hp
  rw [hpayload] at hp'
  cases hp'
  rcases Option.map_eq_some_iff.mp hp with ⟨r, hr, heq⟩
  rw [← heq]
  exact htables.announced r (List.mem_of_getElem? hr)

section

variable (h : BrokerStep s label s')
include h

theorem BrokerStep.tablesOk (hok : BindingsOk s) :
    BindingTablesOk s'.db := by
  cases h with
  | backend hcommit => exact hcommit.tablesOk hok.tables
  | account hallowed => exact hok.tables.putUser hallowed
  | rewrite hchange => exact hok.tables.setRow hchange _
  | close hchange => exact hok.tables.setRow hchange _
  | finish hw => exact hok.tables.finishBinding (hok.planOk hw)
  | pick | read | hold | operate | crash | expire => exact hok.tables

theorem BrokerStep.tracks (hok : BindingsOk s) :
    Tracks s.db s'.db := by
  cases h with
  | backend hcommit => exact hcommit.tracks hok.tables.members
  | account hallowed => exact (sameBindings_putUser hallowed).tracks
  | rewrite hchange => exact (sameBindings_setRow hchange _).tracks
  | close hchange => exact (sameBindings_setRow hchange _).tracks
  | finish => exact finishBinding_tracks
  | pick | read | hold | operate | crash | expire => exact Tracks.refl _

/-- Nobody changes what a lock holder's user is entitled to through the pair. -/
theorem BrokerStep.entitlement_of_held (hok : BindingsOk s)
    {w : Nat} {worker : BindingWorker} (hw : s.workers.get w = some worker)
    {pair : Uuid × Uuid} (hpair : worker.pair = some pair) :
    s.db.SameEntitlement s'.db pair.1 pair.2 := by
  cases h with
  | backend hcommit hlocks =>
      rename_i db'
      have hlocked : db'.bindingStates.get pair = s.db.bindingStates.get pair :=
        hlocks (w, worker) (Table.mem_rows.mpr hw) pair (by rw [hpair]; exact List.mem_cons_self)
      have hstate : exists st, s.db.bindingStates.get pair = some st := by
        cases worker with
        | picked row => cases hpair
        | reading row snapshot => cases hpair
        | holding row plan =>
            cases hpair
            exact (hok.planOk hw).state
      rcases hstate with ⟨st, hst⟩
      rcases hcommit.advances hok.tables.members pair.1 pair.2 st hst with ⟨st', hst', hcase⟩
      have hkept : st' = st := by
        have hsome : some st' = some st := by
          rw [← hst', ← hst]
          exact hlocked
        exact Option.some.inj hsome
      rcases hcase with ⟨_, hsame⟩ | ⟨hlt, _⟩
      · exact hsame
      · rw [hkept] at hlt
        exact absurd hlt (Nat.lt_irrefl _)
  | account hallowed => exact (sameBindings_putUser hallowed).entitlement _ _
  | rewrite hchange => exact (sameBindings_setRow hchange _).entitlement _ _
  | close hchange => exact (sameBindings_setRow hchange _).entitlement _ _
  | finish => exact finishBinding_entitled _ _
  | pick | read | hold | operate | crash | expire => exact fun _ => Iff.rfl

theorem BrokerStep.workersOk (hok : BindingsOk s) :
    forall w worker, s'.workers.get w = some worker -> WorkerOk s'.db worker := by
  have hkept : forall w worker, s.workers.get w = some worker -> WorkerOk s'.db worker := by
    intro w worker hw
    exact (hok.workers w worker hw).mono (h.tracks hok)
      (fun pair hpair => h.entitlement_of_held hok hw hpair)
  cases h with
  | backend | account | rewrite | expire => exact hkept
  | close | finish | crash =>
      exact fun w' worker hget => hkept w' worker (Table.get_of_get_set_none hget).2
  | pick hrow =>
      exact Table.forall_get_set_some hkept ⟨_, congrArg (Option.map Outbox.payload) hrow⟩
  | read hw =>
      exact Table.forall_get_set_some hkept ⟨hok.tables, Tracks.refl _, hok.workers _ _ hw⟩
  | hold hw hpayload hread _ hplan =>
      exact Table.forall_get_set_some hkept (hok.plannedFor hw hpayload hread hplan).ok
  | operate hw hops =>
      exact Table.forall_get_set_some hkept ((hok.planOk hw).tail hops)

theorem BrokerStep.distinct (hok : BindingsOk s) :
    LocksDistinct s'.workers := by
  cases h with
  | backend | account | rewrite | expire => exact hok.distinct
  | close | finish | crash =>
      refine hok.distinct.set ?_
      intro worker pair hnone
      cases hnone
  | pick | read =>
      refine hok.distinct.set ?_
      intro worker pair hsome hpair
      cases hsome
      cases hpair
  | hold hw hpayload hread hfree hplan =>
      refine hok.distinct.set ?_
      intro worker pair hsome hpair w' worker' hw' hpair'
      cases hsome
      have hplanned := hok.plannedFor hw hpayload hread hplan
      cases hpair
      rw [hplanned.channelId, hplanned.userId] at hpair'
      exact absurd hpair' (hfree (w', worker') (Table.mem_rows.mpr hw'))
  | operate hw hops =>
      refine hok.distinct.set ?_
      intro worker pair hsome hpair w' worker' hw' hpair'
      cases hsome
      exact hok.distinct w' worker' hw' _ _ hw pair hpair' hpair

end

end

/-!
# What the states remember
-/

section

variable {db db' : Database} {c u : Uuid} {k : String}

theorem Database.Remembers.of_same (h : db.Remembers c u k) (hsame : SameBindings db db') :
    db'.Remembers c u k := by
  rcases h with ⟨s, hs, hk, hentitled⟩
  refine ⟨s, ?_, hk, ?_⟩
  · rw [hsame.bindingStates]
    exact hs
  · intro hreconciled
    exact (hsame.entitlement c u k).mpr (hentitled hreconciled)

/-- A commit that changes what the user may have leaves the state unreconciled. -/
theorem Database.Remembers.of_commit (h : db.Remembers c u k) (hok : BindingTablesOk db)
    (hcommit : BackendCommit db db') : db'.Remembers c u k := by
  rcases h with ⟨s, hs, hk, hentitled⟩
  rcases hcommit.advances hok.members c u s hs with ⟨s', hs', hcase⟩
  rcases hcase with ⟨heq, hsame⟩ | ⟨hlt, hreconciled, hkeys⟩
  · subst heq
    exact ⟨s', hs', hk, fun hr => (hsame k).mpr (hentitled hr)⟩
  · refine ⟨s', hs', hkeys k hk (hok.routingKeys _ s hs k (Or.inr hk)), ?_⟩
    intro hr
    have hle := hok.reconciled _ s hs
    omega

theorem Database.Remembers.of_finish {row : Nat}
    (h : db.Remembers c u k) (hplan : PlanOk db plan)
    (hwanted : (plan.channelId, plan.userId) = (c, u) ->
      plan.actualDesiredBound = true ∧ k = plan.currentRoutingKey) :
    (finishBinding db row plan).Remembers c u k := by
  rcases h with ⟨s, hs, hk, hentitled⟩
  unfold Database.Remembers
  rw [finishBinding_get]
  split
  · rename_i hpair
    cases hpair
    have hcurrent := hwanted rfl
    rw [hs]
    refine ⟨_, rfl, List.mem_singleton.mpr hcurrent.2, ?_⟩
    intro _
    exact (finishBinding_entitled _ _ k).mpr ((hplan.entitled k).mpr hcurrent)
  · exact ⟨s, hs, hk, fun hr => (finishBinding_entitled c u k).mpr (hentitled hr)⟩

end

/-!
# Every key has an explanation
-/

section

variable {s s' : BrokerState} {label : BrokerLabel} {c u : Uuid} {n k : String}
  {queues : Table String (List String)}

theorem Explains.mono (h : Explains s c u n k) (husers : KeepsUsernames s.db s'.db)
    (hremembered : s'.db.Remembers c u k)
    (hholders : forall w row plan,
      s'.workers.get w = some (BindingWorker.holding row plan) ->
      s.workers.get w = some (BindingWorker.holding row plan) ∨
        ((plan.channelId, plan.userId) = (c, u) -> plan.Accounts k)) :
    Explains s' c u n k := by
  rcases h.user with ⟨user, huser, hname⟩
  rcases husers u user huser with ⟨user', huser', hname'⟩
  refine ⟨⟨user', huser', hname'.trans hname⟩, hremembered, ?_⟩
  intro w row plan hw hpair
  rcases hholders w row plan hw with hw | haccounts
  · exact h.holders w row plan hw hpair
  · exact haccounts hpair

/-- A write to the worker table leaves the other workers as they are. -/
theorem holders_set {w : Nat} {r : Option BindingWorker}
    (hnew : forall row plan, r = some (BindingWorker.holding row plan) ->
      (plan.channelId, plan.userId) = (c, u) -> plan.Accounts k) :
    forall w' row plan, (s.workers.set w r).get w' = some (BindingWorker.holding row plan) ->
      s.workers.get w' = some (BindingWorker.holding row plan) ∨
        ((plan.channelId, plan.userId) = (c, u) -> plan.Accounts k) := by
  intro w' row plan hw'
  rw [Table.get_set] at hw'
  split at hw'
  · exact Or.inr (hnew row plan hw')
  · exact Or.inl hw'

theorem Explains.of_same (h : Explains s c u n k) (hsame : SameBindings s.db s'.db)
    (hholders : forall w row plan,
      s'.workers.get w = some (BindingWorker.holding row plan) ->
      s.workers.get w = some (BindingWorker.holding row plan) ∨
        ((plan.channelId, plan.userId) = (c, u) -> plan.Accounts k)) :
    Explains s' c u n k :=
  h.mono hsame.usernames (h.remembered.of_same hsame) hholders

/-- An operation of the worker does not take the explanation of a remaining key away. -/
theorem Explains.of_operate {w row : Nat} {op : BrokerOp} {rest : List BrokerOp}
    (h : Explains s c u n k) (hok : BindingsOk s)
    (hw : s.workers.get w = some (BindingWorker.holding row plan))
    (hops : plan.remaining = op :: rest) (hop : n = plan.username -> op ≠ BrokerOp.unbind k) :
    Explains { s.setWorker w (some (BindingWorker.holding row
      { plan with remaining := rest })) with queues := queues } c u n k := by
  refine h.of_same (SameBindings.refl _) (holders_set ?_)
  intro row' plan' heq hpair
  cases heq
  rcases h.holders w row plan hw hpair with haccounts | haccounts
  · rw [hops] at haccounts
    rcases List.mem_cons.mp haccounts with heq | hrest
    · rcases (hok.planOk hw).user with ⟨user, huser, hname⟩
      rcases h.user with ⟨user', huser', hname'⟩
      cases hpair
      rw [huser] at huser'
      cases huser'
      exact absurd heq.symm (hop (hname'.symm.trans hname))
    · exact Or.inl hrest
  · exact Or.inr haccounts

/-- The binding a worker adds is explained by the pair it works on. -/
theorem BindingsOk.explains_bind {w row : Nat} {rest : List BrokerOp} (hok : BindingsOk s)
    (hw : s.workers.get w = some (BindingWorker.holding row plan))
    (hbound : plan.actualDesiredBound = true) :
    Explains { s.setWorker w (some (BindingWorker.holding row
      { plan with remaining := rest })) with queues := queues }
      plan.channelId plan.userId plan.username plan.currentRoutingKey := by
  have hplan := hok.planOk hw
  have hentitled := hplan.entitled_current hbound
  rcases hok.tables.entitled _ _ _ hentitled with ⟨st, hst, hmem⟩
  refine ⟨hplan.user, ⟨st, hst, hmem, fun _ => hentitled⟩, ?_⟩
  intro w' row' plan' hw' hpair
  have hw0 : (s.workers.set w (some (BindingWorker.holding row
      { plan with remaining := rest }))).get w' =
        some (BindingWorker.holding row' plan') := hw'
  rcases Table.get_set_some_cases hw0 with ⟨_, hw0⟩ | ⟨hne, hw0⟩
  · cases hw0
    exact Or.inr ⟨hbound, rfl⟩
  · exact absurd (hok.distinct w' _ hw0 w _ hw _ (congrArg some hpair) rfl) hne

theorem keys_set (username n : String) (keys : Option (List String)) :
    ((s.queues.set username keys).get n).getD [] =
      if n = username then keys.getD [] else s.keys n := by
  rw [Table.get_set, apply_ite (fun keys => Option.getD keys [])]
  rfl

theorem mem_apply_op {op : BrokerOp} {keys : List String} (h : k ∈ op.apply keys) :
    (k ∈ keys ∧ op ≠ BrokerOp.unbind k) ∨ op = BrokerOp.bind k := by
  cases op with
  | unbind key =>
      have hfilter := List.mem_filter.mp h
      refine Or.inl ⟨hfilter.1, ?_⟩
      intro heq
      cases heq
      simp at hfilter
  | bind key =>
      simp only [BrokerOp.apply] at h
      split at h
      · exact Or.inl ⟨h, fun heq => by cases heq⟩
      · rcases List.mem_append.mp h with h | h
        · exact Or.inl ⟨h, fun heq => by cases heq⟩
        · rw [List.mem_singleton.mp h]
          exact Or.inr rfl

theorem BrokerStep.explained (h : BrokerStep s label s') (hok : BindingsOk s) :
    forall n k, k ∈ s'.keys n -> exists c u, Explains s' c u n k := by
  intro n k hk
  cases h with
  | backend hcommit =>
      rcases hok.explained n k hk with ⟨c, u, hexp⟩
      refine ⟨c, u, hexp.mono ?_ (hexp.remembered.of_commit hok.tables hcommit) ?_⟩
      · exact (hcommit.tracks hok.tables.members).usernames
      · exact fun _ _ _ hw => Or.inl hw
  | account hallowed =>
      rcases hok.explained n k hk with ⟨c, u, hexp⟩
      exact ⟨c, u, hexp.of_same (sameBindings_putUser hallowed) fun _ _ _ hw => Or.inl hw⟩
  | rewrite hchange =>
      rcases hok.explained n k hk with ⟨c, u, hexp⟩
      exact ⟨c, u, hexp.of_same (sameBindings_setRow hchange _) fun _ _ _ hw => Or.inl hw⟩
  | close hchange =>
      rcases hok.explained n k hk with ⟨c, u, hexp⟩
      refine ⟨c, u, hexp.of_same (sameBindings_setRow hchange _) (holders_set ?_)⟩
      intro row plan hnone
      cases hnone
  | pick | read | crash =>
      rcases hok.explained n k hk with ⟨c, u, hexp⟩
      refine ⟨c, u, hexp.of_same (SameBindings.refl _) (holders_set ?_)⟩
      intro row plan hother
      cases hother
  | hold hw hpayload hread _ hplan =>
      rcases hok.explained n k hk with ⟨c, u, hexp⟩
      refine ⟨c, u, hexp.of_same (SameBindings.refl _) (holders_set ?_)⟩
      intro row' plan' heq hpair
      cases heq
      have hplanned := hok.plannedFor hw hpayload hread hplan
      rcases hexp.remembered with ⟨st, hst, hmem, _⟩
      rw [hplanned.channelId, hplanned.userId] at hpair
      cases hpair
      exact hplanned.accounts st hst k hmem
  | operate hw hops =>
      rename_i w row plan op rest
      change k ∈ ((s.queues.set plan.username _).get n).getD [] at hk
      rw [keys_set] at hk
      split at hk
      · rename_i hn
        rcases mem_apply_op hk with ⟨hkept, hop⟩ | hop
        · rw [← hn] at hkept
          rcases hok.explained n k hkept with ⟨c, u, hexp⟩
          exact ⟨c, u, hexp.of_operate hok hw hops fun _ => hop⟩
        · have hplanned := (hok.planOk hw).ops op (by rw [hops]; exact List.mem_cons_self)
          rw [hop] at hplanned
          rcases hplanned with ⟨_, heq, _⟩ | ⟨heq, hbound⟩
          · cases heq
          · cases heq
            exact ⟨plan.channelId, plan.userId, hn ▸ hok.explains_bind hw hbound⟩
      · rename_i hn
        rcases hok.explained n k hk with ⟨c, u, hexp⟩
        exact ⟨c, u, hexp.of_operate hok hw hops fun heq => absurd heq hn⟩
  | finish hw hops =>
      rcases hok.explained n k hk with ⟨c, u, hexp⟩
      refine ⟨c, u, hexp.mono finishBinding_tracks.usernames ?_ (holders_set ?_)⟩
      · refine hexp.remembered.of_finish (hok.planOk hw) ?_
        intro hpair
        rcases hexp.holders _ _ _ hw hpair with haccounts | haccounts
        · rw [hops] at haccounts
          cases haccounts
        · exact haccounts
      · intro row plan hnone
        cases hnone
  | expire =>
      change k ∈ ((s.queues.set _ none).get n).getD [] at hk
      rw [keys_set] at hk
      split at hk
      · cases hk
      · rcases hok.explained n k hk with ⟨c, u, hexp⟩
        exact ⟨c, u, hexp.of_same (SameBindings.refl _) fun _ _ _ hw => Or.inl hw⟩

theorem bindingsOk_step (hok : BindingsOk s) (h : BrokerStep s label s') : BindingsOk s' :=
  ⟨h.tablesOk hok, h.workersOk hok, h.distinct hok, h.explained hok⟩

theorem bindingsOk_of_reachable (h : brokerSystem.Reachable s) : BindingsOk s := by
  refine System.Reachable.invariant ?_ ?_ h
  · intro s hs
    cases hs
    exact bindingsOk_empty
  · intro s label s' hok hstep
    exact bindingsOk_step hok (brokerStep_of_next hstep)

end

/-!
# No over-grant
-/

/-- Every binding state of the user has been projected at its current generation. -/
def Database.Reconciled (db : Database) (u : Uuid) : Prop :=
  forall c s, db.bindingStates.get (c, u) = some s -> s.reconciledGeneration = s.generation

theorem bound_keys_are_entitled {s : BrokerState} (h : brokerSystem.Reachable s) {u : Uuid}
    {user : User} (huser : s.db.users.get u = some user) (hreconciled : s.db.Reconciled u) :
    forall k, k ∈ s.keys user.username -> exists c, s.db.Entitled c u k := by
  intro k hk
  have hok := bindingsOk_of_reachable h
  rcases hok.explained user.username k hk with ⟨c, u', hexp⟩
  rcases hexp.user with ⟨user', huser', hname⟩
  have hu : u' = u := hok.tables.uniqueNames u' u user' user huser' huser hname
  subst hu
  rcases hexp.remembered with ⟨st, hst, _, hentitled⟩
  exact ⟨c, hentitled (hreconciled c st hst)⟩

/-- A worker takes the row, does its operations and commits. -/
def projectRow (row ops : Nat) : List BrokerLabel :=
  [BrokerLabel.pick 0 row, BrokerLabel.read 0, BrokerLabel.grant 0 5] ++
    List.replicate ops (BrokerLabel.operate 0) ++ [BrokerLabel.finish 0]

theorem reconciled_of_rows (h : db.bindingStates.rows.all
    (fun r => r.2.reconciledGeneration == r.2.generation) = true) (u : Uuid) : db.Reconciled u := by
  intro c s hs
  rw [List.all_eq_true] at h
  exact eq_of_beq (h ((c, u), s) (Table.mem_rows.mpr hs))

theorem projected_channel_is_entitled :
    exists s, brokerSystem.Reachable s ∧ s.keys "alice" = ["channel.general"] ∧
      exists c, s.db.Entitled c 1 "channel.general" := by
  let labels := [BrokerLabel.account 1 (sampleUser "alice"),
    BrokerLabel.call (sampleEnv 100)
      (Call.createChannel 1 (sampleChannelRequest "general"))] ++ projectRow 0 1
  have hrun : (labels.foldlM BrokerState.next BrokerState.empty).map
      (fun s => ((s.db.users.get 1).map User.username, s.keys "alice",
        s.db.bindingStates.rows.all
          (fun r => r.2.reconciledGeneration == r.2.generation))) =
      some (some "alice", ["channel.general"], true) := by
    decide +kernel
  rcases System.exists_reachable_of_run (M := brokerSystem) (fun _ _ _ hstep => hstep) rfl hrun
    with ⟨s, hreach, hview⟩
  rcases Option.map_eq_some_iff.mp (congrArg Prod.fst hview) with ⟨user, huser, hname⟩
  have hkeys : s.keys "alice" = ["channel.general"] := congrArg (fun v => v.2.1) hview
  have hrows := congrArg (fun v => v.2.2) hview
  refine ⟨s, hreach, hkeys, ?_⟩
  refine bound_keys_are_entitled hreach huser (reconciled_of_rows hrows 1) _ ?_
  rw [hname, hkeys]
  exact List.mem_cons_self

end MessagingSystem
