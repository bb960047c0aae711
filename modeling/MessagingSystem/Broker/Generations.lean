import MessagingSystem.Broker.Entitlement

/-!
# Committed states of the binding tables

What holds of the tables in every committed state, and how one committed state is
related to a later one.
-/

namespace MessagingSystem

open Foundation

variable {db db' : Database}

/-- The row announces a generation that its state has reached. -/
def Database.Announced (db : Database) (payload : OutboxPayload) : Prop :=
  forall generation u c, payload = OutboxPayload.brokerBinding generation u c ->
    exists s, db.bindingStates.get (c, u) = some s ∧ generation ≤ s.generation

structure BindingTablesOk (db : Database) : Prop where
  members : MembershipsHaveChannels db
  slugs : forall c channel, db.channels.get c = some channel ->
    IsSlugText channel.channelSlug
  routingKeys : forall pair s, db.bindingStates.get pair = some s ->
    forall k, k = s.desiredRoutingKey ∨ k ∈ s.routingKeys -> IsRoutingKey k
  reconciled : forall pair s, db.bindingStates.get pair = some s ->
    s.reconciledGeneration ≤ s.generation
  entitled : forall c u k, db.Entitled c u k ->
    exists s, db.bindingStates.get (c, u) = some s ∧ k ∈ s.routingKeys
  announced : forall row, row ∈ db.outbox -> db.Announced row.payload
  usernames : forall u user, db.users.get u = some user ->
    isSafeIdentifier user.username = true
  uniqueNames : forall u u' user user', db.users.get u = some user ->
    db.users.get u' = some user' -> user.username = user'.username -> u = u'

theorem bindingTablesOk_empty : BindingTablesOk Database.empty := by
  refine ⟨?_, ?_, ?_, ?_, ?_, ?_, ?_, ?_⟩
  · intro c u h
    cases h
  · intro c channel h
    cases h
  · intro pair s h
    cases h
  · intro pair s h
    cases h
  · intro c u k h
    rcases h with ⟨_, hget, _⟩
    cases hget
  · intro row h
    cases h
  · intro u user h
    cases h
  · intro u u' user user' h
    cases h

/-!
# Generations advance

`Advances` is what one committed change does to each state row, `Tracks` what any
number of them do.
-/

def Database.SameEntitlement (db db' : Database) (c u : Uuid) : Prop :=
  forall k, db'.Entitled c u k ↔ db.Entitled c u k

/-- The next state of a pair is untouched, or has a higher generation and forgets no key. -/
def Advances (db db' : Database) : Prop :=
  forall c u s, db.bindingStates.get (c, u) = some s ->
    exists s', db'.bindingStates.get (c, u) = some s' ∧
      ((s' = s ∧ db.SameEntitlement db' c u) ∨
        (s.generation < s'.generation ∧
          s'.reconciledGeneration = s.reconciledGeneration ∧
          forall k, k ∈ s.routingKeys -> IsRoutingKey k -> k ∈ s'.routingKeys))

/-- Equal generations mean equal entitlement. -/
def TracksStates (db db' : Database) : Prop :=
  forall c u s, db.bindingStates.get (c, u) = some s ->
    exists s', db'.bindingStates.get (c, u) = some s' ∧ s.generation ≤ s'.generation ∧
      (s'.generation = s.generation -> db.SameEntitlement db' c u)

def KeepsUsernames (db db' : Database) : Prop :=
  forall u user, db.users.get u = some user ->
    exists user', db'.users.get u = some user' ∧ user'.username = user.username

/-- Outbox rows stay where they are and keep what they say. -/
def KeepsPayloads (db db' : Database) : Prop :=
  forall (i : Nat) (p : OutboxPayload), db.outbox[i]?.map Outbox.payload = some p ->
    db'.outbox[i]?.map Outbox.payload = some p

structure Tracks (db db' : Database) : Prop where
  states : TracksStates db db'
  usernames : KeepsUsernames db db'
  payloads : KeepsPayloads db db'

theorem Advances.tracksStates (h : Advances db db') :
    TracksStates db db' := by
  intro c u s hs
  rcases h c u s hs with ⟨s', hs', hcase⟩
  refine ⟨s', hs', ?_⟩
  rcases hcase with ⟨heq, hsame⟩ | ⟨hlt, _⟩
  · subst heq
    exact ⟨Nat.le_refl _, fun _ => hsame⟩
  · exact ⟨Nat.le_of_lt hlt, fun heq => absurd heq (Nat.ne_of_gt hlt)⟩

theorem Tracks.refl (db : Database) : Tracks db db :=
  ⟨fun _ _ s hs => ⟨s, hs, Nat.le_refl _, fun _ _ => Iff.rfl⟩,
    fun _ user huser => ⟨user, huser, rfl⟩, fun _ _ h => h⟩

theorem Tracks.trans {a b d : Database} (h1 : Tracks a b) (h2 : Tracks b d) :
    Tracks a d := by
  refine ⟨?_, ?_, ?_⟩
  · intro c u s hs
    rcases h1.states c u s hs with ⟨s1, hs1, hle1, hsame1⟩
    rcases h2.states c u s1 hs1 with ⟨s2, hs2, hle2, hsame2⟩
    refine ⟨s2, hs2, Nat.le_trans hle1 hle2, ?_⟩
    intro heq k
    rw [hsame2 (by omega) k, hsame1 (by omega) k]
  · intro u user huser
    rcases h1.usernames u user huser with ⟨user1, huser1, hname1⟩
    rcases h2.usernames u user1 huser1 with ⟨user2, huser2, hname2⟩
    exact ⟨user2, huser2, hname2.trans hname1⟩
  · intro i p hp
    exact h2.payloads i p (h1.payloads i p hp)

theorem Database.Announced.mono {payload : OutboxPayload}
    (h : db.Announced payload) (htracks : TracksStates db db') : db'.Announced payload := by
  intro generation u c hpayload
  rcases h generation u c hpayload with ⟨s, hs, hle⟩
  rcases htracks c u s hs with ⟨s', hs', hle', _⟩
  exact ⟨s', hs', Nat.le_trans hle hle'⟩

theorem keepsPayloads_append {rows : List Outbox}
    (h : db'.outbox = db.outbox ++ rows) : KeepsPayloads db db' := by
  intro i p hp
  rw [h]
  rcases Option.map_eq_some_iff.mp hp with ⟨row, hrow, hpayload⟩
  have hlt : i < db.outbox.length := (List.getElem?_eq_some_iff.mp hrow).1
  rw [List.getElem?_append_left hlt, hrow]
  exact congrArg some hpayload

/-!
# Backend commits

A call of the channel service and a single refresh of a pair have the same shape:
one framed change followed by touches.
-/

structure BackendCommit (db db' : Database) : Prop where
  exists_change : exists env call mid pairs,
    Frame db mid ∧ Change env db mid call pairs ∧ Touched mid db' pairs

theorem backendCommit_of_call {env : Env} {call : Call}
    (h : call.apply env db = Except.ok db') : BackendCommit db db' := by
  rcases (Call.effect h).exists_change with ⟨mid, pairs, heffect⟩
  exact ⟨env, call, mid, pairs, heffect⟩

theorem backendCommit_of_touch {env : Env} {c u : Uuid}
    {action : String} (h : enqueueBrokerBindingOutbox env db c u action = Except.ok db') :
    BackendCommit db db' :=
  ⟨env, Call.reconcileAll, db, [(c, u)], Frame.refl db,
    Change.quiet Call.reconcileAll _ rfl rfl, enqueueBrokerBindingOutbox_touched h⟩

theorem Change.slugs {env : Env} {db mid : Database} {call : Call}
    {pairs : List (Uuid × Uuid)} (h : Change env db mid call pairs)
    (hdb : forall c channel, db.channels.get c = some channel ->
      IsSlugText channel.channelSlug) :
    forall c channel, mid.channels.get c = some channel ->
      IsSlugText channel.channelSlug := by
  have hset : forall {c0 : Uuid} {channel0 : Channel},
      mid.channels = db.channels.set c0 (some channel0) ->
      IsSlugText channel0.channelSlug -> forall c channel,
      mid.channels.get c = some channel -> IsSlugText channel.channelSlug := by
    intro c0 channel0 hchannels htext c channel hget
    rw [hchannels] at hget
    rcases Table.get_set_some_cases hget with ⟨_, rfl⟩ | ⟨_, hget⟩
    · exact htext
    · exact hdb c channel hget
  cases h with
  | quiet _ _ hchannels =>
      rw [hchannels]
      exact hdb
  | created _ _ _ _ _ _ hchannels _ _ _ htext => exact hset hchannels htext
  | member _ c0 _ channel0 _ hchannel _ hchannels =>
      exact hset hchannels (hdb c0 channel0 hchannel)
  | edited c0 _ req channel0 _ hchannel _ hchannels =>
      refine hset hchannels ?_
      unfold ChannelPatchRequest.patch
      cases req.channelSlug with
      | none => exact hdb c0 channel0 hchannel
      | some slug => exact slug.slugText
  | switched _ c0 channel0 _ hchannel _ hchannels =>
      exact hset hchannels (hdb c0 channel0 hchannel)

theorem nextBindingState_reconciled {before : Option BrokerBindingState} {bound : Bool}
    {key : String} {s : BrokerBindingState} (h : before = some s) :
    (nextBindingState before bound key).reconciledGeneration = s.reconciledGeneration := by
  subst h
  rfl

theorem nextBindingState_mem {before : Option BrokerBindingState} {bound : Bool}
    {key k : String} {s : BrokerBindingState} (h : before = some s)
    (hk : k ∈ s.routingKeys) (hkey : IsRoutingKey k) :
    k ∈ (nextBindingState before bound key).routingKeys := by
  subst h
  exact knownRoutingKeys_of_mem hk hkey.ne_empty

theorem self_mem_nextBindingState (before : Option BrokerBindingState) (bound : Bool)
    (key : String) : key ∈ (nextBindingState before bound key).routingKeys := by
  cases before with
  | none => exact List.mem_cons_self
  | some s => exact self_mem_knownRoutingKeys s key

section

variable {db db' : Database}

section

variable (h : BackendCommit db db')
include h

theorem BackendCommit.advances
    (hmembers : MembershipsHaveChannels db) : Advances db db' := by
  rcases h.exists_change with ⟨env, call, mid, pairs, hframe, hchange, htouched⟩
  intro c u s hs
  by_cases hpair : (c, u) ∈ pairs
  · rcases htouched.touched (c, u) hpair with ⟨s', hs', channel, slug, _, _, heq⟩
    have hbefore : mid.bindingStates.get (c, u) = some s := by
      rw [hframe.bindingStates]
      exact hs
    refine ⟨s', hs', Or.inr ⟨?_, ?_, ?_⟩⟩
    · rw [heq, nextBindingState_generation _ _ _ hbefore]
      exact Nat.lt_succ_self _
    · rw [heq, nextBindingState_reconciled hbefore]
    · intro k hk hkey
      rw [heq]
      exact nextBindingState_mem hbefore hk hkey
  · refine ⟨s, ?_, Or.inl ⟨rfl, ?_⟩⟩
    · rw [htouched.kept _ hpair, hframe.bindingStates]
      exact hs
    · intro k
      rw [entitled_congr htouched.channels htouched.memberships]
      exact hchange.entitled_of_not_mem hmembers hpair k

theorem BackendCommit.outbox :
    exists rows, db'.outbox = db.outbox ++ rows ∧
      forall row, row ∈ rows -> db'.Announced row.payload := by
  rcases h.exists_change with ⟨env, call, mid, pairs, hframe, hchange, htouched⟩
  rcases hframe.outbox_of_touched htouched with ⟨rows, houtbox, hrows⟩
  refine ⟨rows, houtbox, ?_⟩
  intro row hrow generation u c hpayload
  rcases hrows row hrow with ⟨_, hnotice⟩ | ⟨_, c', u', g', s, hpayload', hs, hle⟩
  · rw [hpayload] at hnotice
    exact absurd hnotice id
  · rw [hpayload] at hpayload'
    cases hpayload'
    exact ⟨s, hs, hle⟩

theorem BackendCommit.users : db'.users = db.users := by
  rcases h.exists_change with ⟨env, call, mid, pairs, hframe, _, htouched⟩
  exact htouched.users.trans hframe.users

theorem BackendCommit.tracks
    (hmembers : MembershipsHaveChannels db) : Tracks db db' := by
  rcases h.outbox with ⟨rows, houtbox, _⟩
  refine ⟨(h.advances hmembers).tracksStates, ?_, keepsPayloads_append houtbox⟩
  intro u user huser
  exact ⟨user, by rw [h.users]; exact huser, rfl⟩

/-- Every state row after the commit, with where it comes from. -/
theorem BackendCommit.state_cases
    (hslugs : forall c channel, db.channels.get c = some channel ->
      IsSlugText channel.channelSlug) {pair : Uuid × Uuid} {s' : BrokerBindingState}
    (hs' : db'.bindingStates.get pair = some s') :
    db.bindingStates.get pair = some s' ∨
      exists bound slug, IsSlugText slug ∧
        s' = nextBindingState (db.bindingStates.get pair) bound (channelRoutingKey slug) ∧
        forall k, db'.Entitled pair.1 pair.2 k -> k = channelRoutingKey slug := by
  rcases h.exists_change with ⟨env, call, mid, pairs, hframe, hchange, htouched⟩
  by_cases hpair : pair ∈ pairs
  · rcases htouched.touched pair hpair with ⟨s, hs, channel, slug, hchannel, hslug, heq⟩
    rw [hs] at hs'
    cases hs'
    have htext := hchange.slugs hslugs pair.1 channel hchannel
    have hnormal := normalizeChannelSlug_eq htext hslug
    refine Or.inr ⟨desiredBound mid channel pair.1 pair.2, slug, hnormal ▸ htext, ?_, ?_⟩
    · rw [heq, hframe.bindingStates]
    · intro k hentitled
      rcases hentitled with ⟨found, hfound, _, _, hk⟩
      rw [htouched.channels, hchannel] at hfound
      cases hfound
      rw [hk, hnormal]
  · rw [htouched.kept pair hpair, hframe.bindingStates] at hs'
    exact Or.inl hs'

theorem BackendCommit.entitled_state (hok : BindingTablesOk db)
    {c u : Uuid} {k : String} (hk : db'.Entitled c u k) :
    exists s, db'.bindingStates.get (c, u) = some s ∧ k ∈ s.routingKeys := by
  cases hs' : db'.bindingStates.get (c, u) with
  | some s' =>
      refine ⟨s', rfl, ?_⟩
      rcases h.state_cases hok.slugs hs' with hold | ⟨bound, slug, _, heq, hcurrent⟩
      · rcases h.advances hok.members c u s' hold with ⟨s2, hs2, hcase⟩
        rw [hs'] at hs2
        cases hs2
        rcases hcase with ⟨_, hsame⟩ | ⟨hlt, _⟩
        · rcases hok.entitled c u k ((hsame k).mp hk) with ⟨s3, hs3, hmem⟩
          rw [hold] at hs3
          cases hs3
          exact hmem
        · exact absurd hlt (Nat.lt_irrefl _)
      · rw [heq, hcurrent k hk]
        exact self_mem_nextBindingState _ _ _
  | none =>
      -- A pair without a state was not touched, so it was entitled before.
      rcases h.exists_change with ⟨env, call, mid, pairs, hframe, hchange, htouched⟩
      have hpair : (c, u) ∉ pairs := by
        intro hmem
        rcases htouched.touched (c, u) hmem with ⟨s, hs, _⟩
        rw [hs'] at hs
        cases hs
      have hbefore : db.Entitled c u k := by
        rw [entitled_congr htouched.channels htouched.memberships] at hk
        exact (hchange.entitled_of_not_mem hok.members hpair k).mp hk
      rcases hok.entitled c u k hbefore with ⟨s, hs, _⟩
      rw [htouched.kept _ hpair, hframe.bindingStates, hs] at hs'
      cases hs'

theorem BackendCommit.tablesOk (hok : BindingTablesOk db) :
    BindingTablesOk db' := by
  have htracks := h.tracks hok.members
  refine ⟨?_, ?_, ?_, ?_, ?_, ?_, ?_, ?_⟩
  · rcases h.exists_change with ⟨env, call, mid, pairs, _, hchange, htouched⟩
    intro c u hmember
    rw [getMembership_congr htouched.memberships] at hmember
    rw [htouched.channels]
    exact hchange.membershipsHaveChannels hok.members c u hmember
  · rcases h.exists_change with ⟨env, call, mid, pairs, _, hchange, htouched⟩
    rw [htouched.channels]
    exact hchange.slugs hok.slugs
  · intro pair s' hs' k hk
    rcases h.state_cases hok.slugs hs' with hold | ⟨bound, slug, htext, heq, _⟩
    · exact hok.routingKeys pair s' hold k hk
    · have hslug : IsRoutingKey (channelRoutingKey slug) := ⟨slug, htext, rfl⟩
      cases hbefore : db.bindingStates.get pair with
      | none =>
          rw [heq, hbefore] at hk
          rcases hk with hk | hk
          · rw [hk]
            exact hslug
          · rw [List.mem_singleton.mp hk]
            exact hslug
      | some s =>
          rw [heq, hbefore] at hk
          rcases hk with hk | hk
          · rw [hk]
            exact hslug
          · rcases mem_knownRoutingKeys hk with hk | hk | hk
            · exact hok.routingKeys pair s hbefore k (Or.inr hk)
            · exact hok.routingKeys pair s hbefore k (Or.inl hk)
            · rw [hk]
              exact hslug
  · intro pair s' hs'
    rcases h.state_cases hok.slugs hs' with hold | ⟨bound, slug, _, heq, _⟩
    · exact hok.reconciled pair s' hold
    · cases hbefore : db.bindingStates.get pair with
      | none =>
          rw [heq, hbefore]
          exact Nat.zero_le 1
      | some s =>
          rw [heq, hbefore]
          exact Nat.le_succ_of_le (hok.reconciled pair s hbefore)
  · intro c u k hk
    exact h.entitled_state hok hk
  · rcases h.outbox with ⟨rows, houtbox, hrows⟩
    intro row hrow
    rw [houtbox] at hrow
    rcases List.mem_append.mp hrow with hrow | hrow
    · exact (hok.announced row hrow).mono htracks.states
    · exact hrows row hrow
  · rw [h.users]
    exact hok.usernames
  · rw [h.users]
    exact hok.uniqueNames

end

end

end MessagingSystem
