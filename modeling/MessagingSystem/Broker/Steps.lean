import MessagingSystem.Broker.Projection

/-!
# Steps of the broker system

`BrokerStep` says what a step can do, with the guards it has passed.  The lemmas
after it say what the steps do to the tables; the invariants only use these.
-/

namespace MessagingSystem

open Foundation

variable {db : Database} {s s' : BrokerState} {u : Uuid}

/-- A change of an outbox row that leaves what the row says alone. -/
def KeepsPayload (change : Outbox -> Outbox) : Prop :=
  forall row, (change row).payload = row.payload

inductive BrokerStep (s : BrokerState) : BrokerLabel -> BrokerState -> Prop where
  | backend {label : BrokerLabel} {db' : Database} (hcommit : BackendCommit s.db db')
      (hlocks : s.RespectsLocks db') : BrokerStep s label { s with db := db' }
  | account {label : BrokerLabel} {u : Uuid} {user : User}
      (hallowed : accountAllowed s.db u user = true) :
      BrokerStep s label { s with db := s.db.putUser u user }
  | rewrite {label : BrokerLabel} {row : Nat} {change : Outbox -> Outbox}
      (hchange : KeepsPayload change) :
      BrokerStep s label { s with db := s.db.setRow row change }
  | pick {label : BrokerLabel} {w row : Nat} {rec : Outbox}
      (hrow : s.db.outbox[row]? = some rec) :
      BrokerStep s label (s.setWorker w (some (BindingWorker.picked row)))
  | read {label : BrokerLabel} {w row : Nat}
      (hw : s.workers.get w = some (BindingWorker.picked row)) :
      BrokerStep s label (s.setWorker w (some (BindingWorker.reading row s.db)))
  | close {label : BrokerLabel} {w row : Nat} {change : Outbox -> Outbox}
      (hchange : KeepsPayload change) : BrokerStep s label (s.closeRow w row change)
  | hold {label : BrokerLabel} {w row : Nat} {snapshot : Database} {c u : Uuid}
      {state : BindingRead} {plan : BindingPlan}
      (hw : s.workers.get w = some (BindingWorker.reading row snapshot))
      (hpayload : s.db.outbox[row]?.map Outbox.payload =
        some (OutboxPayload.brokerBinding state.generation u c))
      (hread : readBindingState snapshot s.db c u = some state)
      (hfree : s.PairFree (c, u)) (hplan : planBinding c u state = Except.ok plan) :
      BrokerStep s label (s.setWorker w (some (BindingWorker.holding row plan)))
  | operate {w row : Nat} {plan : BindingPlan} {op : BrokerOp} {rest : List BrokerOp}
      (hw : s.workers.get w = some (BindingWorker.holding row plan))
      (hops : plan.remaining = op :: rest) :
      BrokerStep s (BrokerLabel.operate w)
        { s.setWorker w (some (BindingWorker.holding row { plan with remaining := rest })) with
          queues := s.queues.set plan.username (some (op.apply (s.keys plan.username))) }
  | finish {label : BrokerLabel} {w row : Nat} {plan : BindingPlan}
      (hw : s.workers.get w = some (BindingWorker.holding row plan))
      (hops : plan.remaining = []) :
      BrokerStep s label { s.setWorker w none with db := finishBinding s.db row plan }
  | crash {label : BrokerLabel} {w : Nat} : BrokerStep s label (s.setWorker w none)
  | expire {username : String} :
      BrokerStep s (BrokerLabel.expire username)
        { s with queues := s.queues.set username none }

theorem commit_eq_some {result : Except Failure Database} (h : s.commit result = some s') :
    exists db', result = Except.ok db' ∧ s.RespectsLocks db' ∧ s' = { s with db := db' } := by
  cases result with
  | error e => cases h
  | ok db' =>
      unfold BrokerState.commit at h
      simp only at h
      split at h
      · cases h
        exact ⟨db', rfl, by assumption, rfl⟩
      · cases h

theorem keepsPayload_published : KeepsPayload Outbox.published := fun _ => rfl

theorem keepsPayload_failedOnce (outboxMaxAttempts : Nat) :
    KeepsPayload (Outbox.failedOnce outboxMaxAttempts) := fun _ => rfl

theorem keepsPayload_reset : KeepsPayload Outbox.reset := fun _ => rfl

theorem BrokerState.grant_step {label : BrokerLabel} {outboxMaxAttempts w row : Nat}
    {snapshot : Database} {generation : Nat} {c : Uuid}
    (hw : s.workers.get w = some (BindingWorker.reading row snapshot))
    (hpayload : s.db.outbox[row]?.map Outbox.payload =
      some (OutboxPayload.brokerBinding generation u c))
    (h : s.grant outboxMaxAttempts w row snapshot generation u c = some s') :
    BrokerStep s label s' := by
  unfold BrokerState.grant at h
  split at h
  · cases h
    exact BrokerStep.close keepsPayload_published
  · rename_i state hread
    rcases Option.ite_none_right_eq_some.mp h with ⟨hfree, h⟩
    split at h
    · cases h
      exact BrokerStep.close keepsPayload_published
    · rename_i hgeneration
      rw [not_not.mp hgeneration] at hpayload
      split at h
      · cases h
        exact BrokerStep.close (keepsPayload_failedOnce _)
      · rename_i plan hplan
        cases h
        exact BrokerStep.hold hw hpayload hread hfree hplan

theorem brokerStep_of_next {label : BrokerLabel} (h : s.next label = some s') :
    BrokerStep s label s' := by
  cases label with
  | call env request =>
      rcases commit_eq_some h with ⟨db', hresult, hlocks, heq⟩
      subst heq
      exact BrokerStep.backend (backendCommit_of_call hresult) hlocks
  | touch env channelId userId action =>
      rcases commit_eq_some h with ⟨db', hresult, hlocks, heq⟩
      subst heq
      exact BrokerStep.backend (backendCommit_of_touch hresult) hlocks
  | account userId user =>
      rcases Option.ite_none_right_eq_some.mp h with ⟨_, h⟩
      cases h
      exact BrokerStep.account (by assumption)
  | reset row =>
      rcases Option.ite_none_right_eq_some.mp h with ⟨_, h⟩
      cases h
      exact BrokerStep.rewrite keepsPayload_reset
  | pick w row =>
      simp only [BrokerState.next] at h
      split at h
      · rename_i hrow
        split at h
        · cases h
          exact BrokerStep.pick hrow
        · cases h
      · cases h
  | read w =>
      simp only [BrokerState.next] at h
      split at h
      · rename_i hw
        cases h
        exact BrokerStep.read hw
      · cases h
  | grant w outboxMaxAttempts =>
      simp only [BrokerState.next] at h
      split at h
      · rename_i hw
        split at h
        · rename_i hpayload
          exact BrokerState.grant_step hw hpayload h
        · cases h
      · cases h
  | operate w =>
      simp only [BrokerState.next] at h
      split at h
      · rename_i row plan hw
        cases hops : plan.remaining with
        | nil =>
            rw [hops] at h
            cases h
        | cons op rest =>
            rw [hops] at h
            cases h
            exact BrokerStep.operate hw hops
      · cases h
  | finish w =>
      simp only [BrokerState.next] at h
      split at h
      · rename_i row plan hw
        split at h
        · rename_i hops
          cases h
          exact BrokerStep.finish hw hops
        · cases h
      · cases h
  | fail w outboxMaxAttempts =>
      simp only [BrokerState.next] at h
      split at h
      · cases h
        exact BrokerStep.close (keepsPayload_failedOnce _)
      · cases h
  | crash w =>
      simp only [BrokerState.next] at h
      split at h
      · cases h
        exact BrokerStep.crash
      · cases h
  | expire username =>
      cases h
      exact BrokerStep.expire

/-!
# Changes that do not concern bindings
-/

variable {change : Outbox -> Outbox}

/-- The tables agree on everything that decides entitlement. -/
structure SameBindings (db db' : Database) : Prop where
  channels : db'.channels = db.channels
  memberships : db'.memberships = db.memberships
  bindingStates : db'.bindingStates = db.bindingStates
  usernames : KeepsUsernames db db'
  payloads : KeepsPayloads db db'

theorem SameBindings.refl (db : Database) : SameBindings db db :=
  ⟨rfl, rfl, rfl, fun _ user huser => ⟨user, huser, rfl⟩, fun _ _ h => h⟩

theorem SameBindings.entitlement {db db' : Database} (h : SameBindings db db') (c u : Uuid) :
    db.SameEntitlement db' c u :=
  entitled_congr h.channels h.memberships c u

theorem SameBindings.tracks {db db' : Database} (h : SameBindings db db') :
    Tracks db db' := by
  refine ⟨?_, h.usernames, h.payloads⟩
  intro c u s hs
  refine ⟨s, ?_, Nat.le_refl _, fun _ => h.entitlement c u⟩
  rw [h.bindingStates]
  exact hs

theorem getElem?_setRow_payload (db : Database) (h : KeepsPayload change) (row i : Nat) :
    (db.setRow row change).outbox[i]?.map Outbox.payload =
      db.outbox[i]?.map Outbox.payload := by
  unfold Database.setRow
  simp only [List.getElem?_modify]
  split
  · cases db.outbox[i]? with
    | none => rfl
    | some r => exact congrArg some (h r)
  · cases db.outbox[i]? with
    | none | some => rfl

theorem sameBindings_setRow (h : KeepsPayload change) (row : Nat) :
    SameBindings db (db.setRow row change) := by
  refine ⟨rfl, rfl, rfl, fun _ user huser => ⟨user, huser, rfl⟩, ?_⟩
  intro i p hp
  rw [getElem?_setRow_payload db h]
  exact hp

theorem mem_setRow (h : KeepsPayload change) {row : Nat} {r : Outbox}
    (hr : r ∈ (db.setRow row change).outbox) :
    exists r0, r0 ∈ db.outbox ∧ r0.payload = r.payload := by
  rcases List.getElem?_of_mem hr with ⟨i, hi⟩
  have hpayload := getElem?_setRow_payload db h row i
  rw [hi] at hpayload
  rcases Option.map_eq_some_iff.mp hpayload.symm with ⟨r0, hr0, heq⟩
  exact ⟨r0, List.mem_of_getElem? hr0, heq⟩

theorem BindingTablesOk.setRow (hok : BindingTablesOk db) (h : KeepsPayload change) (row : Nat) :
    BindingTablesOk (db.setRow row change) := by
  refine ⟨hok.members, hok.slugs, hok.routingKeys, hok.reconciled, hok.entitled, ?_,
    hok.usernames, hok.uniqueNames⟩
  intro r hr
  rcases mem_setRow h hr with ⟨r0, hr0, heq⟩
  rw [← heq]
  exact hok.announced r0 hr0

/-!
# Accounts
-/

theorem accountAllowed_spec {user : User} (h : accountAllowed db u user = true) :
    isSafeIdentifier user.username = true ∧ forall u' user',
      db.users.get u' = some user' -> (u' = u ↔ user'.username = user.username) := by
  unfold accountAllowed at h
  rw [Bool.and_eq_true, List.all_eq_true] at h
  refine ⟨h.1, ?_⟩
  intro u' user' huser'
  have hrow := h.2 (u', user') (Table.mem_rows.mpr huser')
  simp only [Bool.or_eq_true, Bool.and_eq_true, beq_iff_eq, bne_iff_ne] at hrow
  rcases hrow with ⟨hu, hname⟩ | ⟨hu, hname⟩
  · exact iff_of_true hu hname
  · exact iff_of_false hu hname

theorem sameBindings_putUser {user : User} (h : accountAllowed db u user = true) :
    SameBindings db (db.putUser u user) := by
  refine ⟨rfl, rfl, rfl, ?_, fun _ _ hp => hp⟩
  intro u' user' huser'
  show exists user'', (db.users.set u (some user)).get u' = some user'' ∧ _
  rw [Table.get_set]
  split
  · rename_i hu
    exact ⟨user, rfl, (((accountAllowed_spec h).2 u' user' huser').mp hu).symm⟩
  · exact ⟨user', huser', rfl⟩

theorem BindingTablesOk.putUser {user : User} (hok : BindingTablesOk db)
    (h : accountAllowed db u user = true) : BindingTablesOk (db.putUser u user) := by
  have hget : forall u', (db.putUser u user).users.get u' =
      if u' = u then some user else db.users.get u' := fun _ => Table.get_set _ _ _ _
  have hspec := accountAllowed_spec h
  refine ⟨hok.members, hok.slugs, hok.routingKeys, hok.reconciled, hok.entitled,
    hok.announced, ?_, ?_⟩
  · intro u' user' huser'
    rw [hget] at huser'
    split at huser'
    · cases huser'
      exact hspec.1
    · exact hok.usernames u' user' huser'
  · intro u1 u2 user1 user2 h1 h2 hname
    rw [hget] at h1 h2
    split at h1
    · rename_i hu1
      cases h1
      split at h2
      · rename_i hu2
        rw [hu1, hu2]
      · exact hu1.trans (((hspec.2 u2 user2 h2).mpr hname.symm).symm)
    · split at h2
      · rename_i hu2
        cases h2
        exact ((hspec.2 u1 user1 h1).mpr hname).trans hu2.symm
      · exact hok.uniqueNames u1 u2 user1 user2 h1 h2 hname

/-!
# The end of a projection
-/

section

variable {db : Database} {row : Nat} {plan : BindingPlan}

theorem finishBinding_get (pair : Uuid × Uuid) :
    (finishBinding db row plan).bindingStates.get pair =
      if pair = (plan.channelId, plan.userId) then
        (db.bindingStates.get (plan.channelId, plan.userId)).map
          (fun s => s.reconciled plan.actualDesiredBound plan.currentRoutingKey)
      else db.bindingStates.get pair :=
  Table.get_update _ _ _ _

theorem finishBinding_entitled (c u : Uuid) :
    db.SameEntitlement (finishBinding db row plan) c u :=
  entitled_congr rfl rfl c u

theorem finishBinding_tracks : Tracks db (finishBinding db row plan) := by
  refine ⟨?_, fun _ user huser => ⟨user, huser, rfl⟩, ?_⟩
  · intro c u s hs
    rw [finishBinding_get]
    split
    · rename_i hpair
      rw [← hpair, hs]
      exact ⟨_, rfl, Nat.le_refl _, fun _ => finishBinding_entitled c u⟩
    · exact ⟨s, hs, Nat.le_refl _, fun _ => finishBinding_entitled c u⟩
  · intro i p hp
    have hsame := getElem?_setRow_payload db keepsPayload_published row i
    rw [hp] at hsame
    exact hsame

/-- Every state row after the end of a projection, with where it comes from. -/
theorem finishBinding_state {pair : Uuid × Uuid} {s' : BrokerBindingState}
    (h : (finishBinding db row plan).bindingStates.get pair = some s') :
    db.bindingStates.get pair = some s' ∨
      exists s, pair = (plan.channelId, plan.userId) ∧ db.bindingStates.get pair = some s ∧
        s' = s.reconciled plan.actualDesiredBound plan.currentRoutingKey := by
  rw [finishBinding_get] at h
  split at h
  · rename_i hpair
    rcases Option.map_eq_some_iff.mp h with ⟨s, hs, heq⟩
    exact Or.inr ⟨s, hpair, hpair ▸ hs, heq.symm⟩
  · exact Or.inl h

theorem BindingTablesOk.finishBinding (hok : BindingTablesOk db) (hplan : PlanOk db plan) :
    BindingTablesOk (finishBinding db row plan) := by
  refine ⟨hok.members, hok.slugs, ?_, ?_, ?_, ?_, hok.usernames, hok.uniqueNames⟩
  · intro pair s' hs' k hk
    rcases finishBinding_state hs' with hold | ⟨s, _, _, heq⟩
    · exact hok.routingKeys pair s' hold k hk
    · subst heq
      have hcurrent : k = plan.currentRoutingKey := by
        rcases hk with hk | hk
        · exact hk
        · exact List.mem_singleton.mp hk
      rw [hcurrent]
      exact hplan.current
  · intro pair s' hs'
    rcases finishBinding_state hs' with hold | ⟨s, _, _, heq⟩
    · exact hok.reconciled pair s' hold
    · subst heq
      exact Nat.le_refl _
  · intro c u k hk
    have hbefore := (finishBinding_entitled c u k).mp hk
    rcases hok.entitled c u k hbefore with ⟨s, hs, hmem⟩
    rw [finishBinding_get]
    split
    · rename_i hpair
      cases hpair
      rw [hs]
      exact ⟨_, rfl, List.mem_singleton.mpr ((hplan.entitled k).mp hbefore).2⟩
    · exact ⟨s, hs, hmem⟩
  · intro r hr
    have hr' : r ∈ (db.setRow row Outbox.published).outbox := hr
    rcases mem_setRow keepsPayload_published hr' with ⟨r0, hr0, heq⟩
    rw [← heq]
    exact (hok.announced r0 hr0).mono finishBinding_tracks.states

end

end MessagingSystem
