import MessagingSystem.Foundation.Table
import MessagingSystem.Foundation.Transition

/-!
# Consumers of online users

The worker keeps one consumer task for every user who is online.  A scan reads the online set,
starts the missing tasks and cancels the others.  A task takes the messages from the queue of
its user one by one and publishes them; when all attempts at a message have failed it puts the
message back and ends with the exception.
-/

namespace MessagingSystem
namespace OnlineConsumers

open Foundation

/-!
# Consumer tasks
-/

/-- Where `_consume_user` is waiting. -/
inductive ConsumerPhase where
  | declaring
  | waiting
  | publishing (body : String) (attempt : Nat)
  | backingOff (body : String) (attempt : Nat)
  | requeueing (body : String)
  | ended
  deriving DecidableEq

/-- How the operation that a task waits for comes out. -/
inductive ConsumerEvent where
  | declared
  | delivered
  | published
  | publishFailed
  | slept
  /-- The broker fails, or the body is not UTF-8. -/
  | raised
  | cancelled
  deriving DecidableEq

structure ConsumerTask where
  username : String
  phase : ConsumerPhase
  cancelRequested : Bool

/-- The message that `message.process` puts back when its block raises. -/
def ConsumerPhase.held : ConsumerPhase -> List String
  | publishing body _ => [body]
  | backingOff body _ => [body]
  | requeueing body => [body]
  | _ => []

/-- `_consume_user` and `publish_redis_with_backoff` up to their next wait. -/
def ConsumerPhase.resume (maxAttempts : Nat) :
    ConsumerPhase -> ConsumerEvent -> List String -> Option (ConsumerPhase × List String)
  | declaring, ConsumerEvent.declared, queue => some (waiting, queue)
  | declaring, ConsumerEvent.raised, queue => some (ended, queue)
  | waiting, ConsumerEvent.delivered, body :: queue => some (publishing body 1, queue)
  | waiting, ConsumerEvent.raised, queue => some (ended, queue)
  | publishing _ _, ConsumerEvent.published, queue => some (waiting, queue)
  | publishing body attempt, ConsumerEvent.publishFailed, queue =>
      if attempt < max 1 maxAttempts then some (backingOff body attempt, queue)
      else some (requeueing body, queue)
  | backingOff body attempt, ConsumerEvent.slept, queue =>
      some (publishing body (attempt + 1), queue)
  | requeueing body, ConsumerEvent.slept, queue => some (ended, body :: queue)
  | ended, _, _ => none
  | phase, ConsumerEvent.cancelled, queue => some (ended, phase.held ++ queue)
  | _, _, _ => none

/-!
# The manager
-/

/-- `registry` is `self.tasks`; `scanned` is what a scan has read and not yet acted on. -/
structure ConsumerState where
  online : List String
  queues : Table String (List String)
  tasks : Table Nat ConsumerTask
  nextTask : Nat
  registry : Table String Nat
  scanned : Option (List String)

variable {s : ConsumerState} {maxAttempts : Nat}

def ConsumerState.initial : ConsumerState where
  online := []
  queues := Table.empty
  tasks := Table.empty
  nextTask := 0
  registry := Table.empty
  scanned := none

def ConsumerState.start (s : ConsumerState) (username : String) : ConsumerState :=
  match s.registry.get username with
  | some _ => s
  | none =>
      { s with
        tasks := s.tasks.set s.nextTask
          (some { username := username, phase := ConsumerPhase.declaring,
                  cancelRequested := false })
        nextTask := s.nextTask + 1
        registry := s.registry.set username (some s.nextTask) }

def ConsumerState.cancelUnless (onlineUsers : List String) (s : ConsumerState)
    (username : String) : ConsumerState :=
  if username ∈ onlineUsers then s
  else
    match s.registry.get username with
    | none => s
    | some t =>
        { s with
          tasks := s.tasks.update t (fun task => { task with cancelRequested := true })
          registry := s.registry.set username none }

/-- The part of a scan after the online set has been read; it does not wait. -/
def ConsumerState.reconcile (onlineUsers : List String) (s : ConsumerState) : ConsumerState :=
  let started := onlineUsers.foldl ConsumerState.start s
  started.registry.keys.foldl (ConsumerState.cancelUnless onlineUsers) started

inductive ConsumerLabel where
  | setOnline (usernames : List String)
  | enqueue (username body : String)
  | scanRead
  | scan
  | consumer (t : Nat) (event : ConsumerEvent)

def ConsumerState.resumeTask (maxAttempts : Nat) (s : ConsumerState) (t : Nat)
    (event : ConsumerEvent) : Option ConsumerState := do
  let task ← s.tasks.get t
  if event = ConsumerEvent.cancelled ∧ task.cancelRequested = false then none
  else do
    let resumed ← task.phase.resume maxAttempts event ((s.queues.get task.username).getD [])
    pure
      { s with
        tasks := s.tasks.set t (some { task with phase := resumed.1 })
        queues := s.queues.set task.username (some resumed.2) }

/-- A scan whose read raises is logged and changes nothing, so it is no step here. -/
def ConsumerState.next (maxAttempts : Nat) (s : ConsumerState) :
    ConsumerLabel -> Option ConsumerState
  | ConsumerLabel.setOnline usernames => some { s with online := usernames }
  | ConsumerLabel.enqueue username body =>
      some { s with
        queues := s.queues.set username (some ((s.queues.get username).getD [] ++ [body])) }
  | ConsumerLabel.scanRead =>
      match s.scanned with
      | none => some { s with scanned := some s.online }
      | some _ => none
  | ConsumerLabel.scan =>
      s.scanned.map fun onlineUsers => { s.reconcile onlineUsers with scanned := none }
  | ConsumerLabel.consumer t event => s.resumeTask maxAttempts t event

def consumerSystem (maxAttempts : Nat) : System ConsumerState ConsumerLabel where
  start s := s = ConsumerState.initial
  step s label s' := s.next maxAttempts label = some s'

/-!
# The registry

Exactly the tasks that nobody has cancelled are registered, those that have ended among them.
-/

variable {s' : ConsumerState} {t : Nat}

structure RegistryOk (s : ConsumerState) : Prop where
  registered : forall u t, s.registry.get u = some t -> exists task,
    s.tasks.get t = some task ∧ task.username = u ∧ task.cancelRequested = false
  kept : forall t task, s.tasks.get t = some task -> task.cancelRequested = false ->
    s.registry.get task.username = some t
  numbered : forall t task, s.tasks.get t = some task -> t < s.nextTask

theorem RegistryOk.start (h : RegistryOk s) (u : String) :
    RegistryOk (s.start u) := by
  unfold ConsumerState.start
  split
  · exact h
  · rename_i hfree
    have hold : forall t task, s.tasks.get t = some task -> t ≠ s.nextTask := by
      intro t task hget heq
      exact absurd (h.numbered t task hget) (by omega)
    constructor
    · intro v t hget
      dsimp only at hget ⊢
      rcases Table.get_set_some_cases hget with ⟨hv, rfl⟩ | ⟨_, hget⟩
      · exact ⟨_, Table.get_set_self _ _ _, hv.symm, rfl⟩
      · rcases h.registered v t hget with ⟨task, htask, hrest⟩
        exact ⟨task, by rw [Table.get_set_ne _ (hold t task htask), htask], hrest⟩
    · intro t task hget hlive
      dsimp only at hget ⊢
      rcases Table.get_set_some_cases hget with ⟨ht, rfl⟩ | ⟨_, hget⟩
      · rw [Table.get_set_self, ht]
      · exact Table.get_set_of_free hfree (h.kept t task hget hlive)
    · intro t task hget
      dsimp only at hget ⊢
      rw [Table.get_set] at hget
      split at hget
      · omega
      · exact Nat.lt_succ_of_lt (h.numbered t task hget)

theorem RegistryOk.cancelUnless (h : RegistryOk s)
    (onlineUsers : List String) (u : String) : RegistryOk (s.cancelUnless onlineUsers u) := by
  unfold ConsumerState.cancelUnless
  split
  · exact h
  · split
    · exact h
    · rename_i t hreg
      constructor
      · intro v t' hget
        dsimp only at hget ⊢
        rw [Table.get_set] at hget
        rcases Option.ite_none_left_eq_some.mp hget with ⟨hv, hget⟩
        rcases h.registered v t' hget with ⟨task, htask, hname, hlive⟩
        refine ⟨task, ?_, hname, hlive⟩
        have hne : t' ≠ t := by
          intro heq
          rcases h.registered u t hreg with ⟨other, hother, hotherName, _⟩
          rw [← heq, htask] at hother
          cases hother
          exact hv (hname.symm.trans hotherName)
        rw [Table.get_update, if_neg hne, htask]
      · intro t' task hget hlive
        rcases Table.get_update_cases hget with ⟨_, old, _, heq⟩ | ⟨hne, hold⟩
        · rw [heq] at hlive
          cases hlive
        · have hkept := h.kept t' task hold hlive
          have hname : task.username ≠ u := by
            intro heq
            rw [heq, hreg] at hkept
            cases hkept
            exact hne rfl
          show (s.registry.set u none).get task.username = some t'
          rw [Table.get_set_ne _ hname, hkept]
      · intro t' task hget
        rcases Table.get_update_cases hget with ⟨heq, old, hold, _⟩ | ⟨_, hold⟩
        · rw [heq]
          exact h.numbered t old hold
        · exact h.numbered t' task hold

theorem RegistryOk.foldl {step : ConsumerState -> String -> ConsumerState}
    (hstep : forall s u, RegistryOk s -> RegistryOk (step s u))
    (h : RegistryOk s) (usernames : List String) : RegistryOk (usernames.foldl step s) := by
  induction usernames generalizing s with
  | nil => exact h
  | cons u usernames ih => exact ih (hstep s u h)

theorem RegistryOk.reconcile (h : RegistryOk s)
    (onlineUsers : List String) : RegistryOk (s.reconcile onlineUsers) :=
  RegistryOk.foldl (fun _ u hs => hs.cancelUnless onlineUsers u)
    (RegistryOk.foldl (fun _ u hs => hs.start u) h onlineUsers) _

/-- A task resumes under the name and with the cancellation it has. -/
theorem resumeTask_eq_some {event : ConsumerEvent}
    (h : s.resumeTask maxAttempts t event = some s') :
    exists task phase queue, s.tasks.get t = some task ∧
      task.phase.resume maxAttempts event ((s.queues.get task.username).getD [])
        = some (phase, queue) ∧
      (event = ConsumerEvent.cancelled -> task.cancelRequested = true) ∧
      s' = { s with
        tasks := s.tasks.set t (some { task with phase := phase })
        queues := s.queues.set task.username (some queue) } := by
  rcases Option.bind_eq_some_iff.mp h with ⟨task, htask, h⟩
  split at h
  · cases h
  · rename_i hcancel
    rcases Option.bind_eq_some_iff.mp h with ⟨resumed, hresumed, h⟩
    cases h
    refine ⟨task, resumed.1, resumed.2, htask, hresumed, ?_, rfl⟩
    intro hevent
    cases hrequested : task.cancelRequested with
    | true => rfl
    | false => exact absurd ⟨hevent, hrequested⟩ hcancel

theorem RegistryOk.next {label : ConsumerLabel} (h : RegistryOk s)
    (hnext : s.next maxAttempts label = some s') : RegistryOk s' := by
  cases label with
  | setOnline | enqueue =>
      cases hnext
      exact ⟨h.registered, h.kept, h.numbered⟩
  | scanRead =>
      simp only [ConsumerState.next] at hnext
      split at hnext
      · cases hnext
        exact ⟨h.registered, h.kept, h.numbered⟩
      · cases hnext
  | scan =>
      rcases Option.map_eq_some_iff.mp hnext with ⟨onlineUsers, _, heq⟩
      subst heq
      have hok := h.reconcile onlineUsers
      exact ⟨hok.registered, hok.kept, hok.numbered⟩
  | consumer t event =>
      rcases resumeTask_eq_some hnext with ⟨task, phase, queue, htask, _, _, heq⟩
      subst heq
      constructor
      · intro u t' hget
        rcases h.registered u t' hget with ⟨other, hother, hrest⟩
        show exists other, (s.tasks.set t _).get t' = some other ∧ _
        rw [Table.get_set]
        split
        · rename_i ht
          rw [ht, htask] at hother
          cases hother
          exact ⟨_, rfl, hrest⟩
        · exact ⟨other, hother, hrest⟩
      · intro t' other hget hlive
        refine Table.forall_get_set (P := fun t' other => other.cancelRequested = false ->
          s.registry.get other.username = some t') h.kept ?_ t' other hget hlive
        intro new hnew hlive
        cases hnew
        exact h.kept t task htask hlive
      · refine Table.forall_get_set (P := fun t' _ => t' < s.nextTask) h.numbered ?_
        intro _ _
        exact h.numbered t task htask

theorem registryOk_initial (h : s = ConsumerState.initial) :
    RegistryOk s := by
  subst h
  constructor
  · intro u t hget
    cases hget
  · intro t task hget
    cases hget
  · intro t task hget
    cases hget

theorem registryOk_of_reachable
    (h : (consumerSystem maxAttempts).Reachable s) : RegistryOk s :=
  System.Reachable.invariant (fun _ => registryOk_initial)
    (fun _ _ _ hok hstep => hok.next hstep) h

/-!
# What a scan does to the registry
-/

variable {u v : String} {onlineUsers : List String}

theorem start_registry_some (h : s.registry.get v = some t) :
    (s.start u).registry.get v = some t := by
  unfold ConsumerState.start
  split
  · exact h
  · rename_i hfree
    exact Table.get_set_of_free hfree h

theorem start_task (hok : RegistryOk s) {task : ConsumerTask} (h : s.tasks.get t = some task) :
    (s.start u).tasks.get t = some task := by
  unfold ConsumerState.start
  split
  · exact h
  · have hne : t ≠ s.nextTask := Nat.ne_of_lt (hok.numbered t task h)
    exact (Table.get_set_ne _ hne _).trans h

def Runs (s : ConsumerState) (t : Nat) : Prop :=
  exists task, s.tasks.get t = some task ∧ task.phase ≠ ConsumerPhase.ended

/-- Starting keeps what is there, and whoever it registers gets a task that runs. -/
structure StartedFrom (s s' : ConsumerState) : Prop where
  registry : forall u t, s.registry.get u = some t -> s'.registry.get u = some t
  tasks : forall t task, s.tasks.get t = some task -> s'.tasks.get t = some task
  started : forall u t, s.registry.get u = none -> s'.registry.get u = some t -> Runs s' t

theorem startedFrom_start (hok : RegistryOk s) (u : String) :
    StartedFrom s (s.start u) := by
  refine ⟨fun v t => start_registry_some, fun t task => start_task hok, ?_⟩
  intro v t hfree hget
  unfold ConsumerState.start at hget ⊢
  split at hget
  · rw [hfree] at hget
    cases hget
  · dsimp only at hget
    rcases Table.get_set_some_cases hget with ⟨_, rfl⟩ | ⟨_, hget⟩
    · exact ⟨_, Table.get_set_self _ _ _, nofun⟩
    · rw [hfree] at hget
      cases hget

theorem StartedFrom.refl (s : ConsumerState) : StartedFrom s s := by
  refine ⟨fun _ _ h => h, fun _ _ h => h, ?_⟩
  intro u t hfree hget
  rw [hfree] at hget
  cases hget

theorem StartedFrom.trans {a b c : ConsumerState} (h1 : StartedFrom a b)
    (h2 : StartedFrom b c) : StartedFrom a c := by
  refine ⟨fun u t h => h2.registry u t (h1.registry u t h),
    fun t task h => h2.tasks t task (h1.tasks t task h), ?_⟩
  intro u t hfree hget
  cases hmid : b.registry.get u with
  | none => exact h2.started u t hmid hget
  | some t' =>
      have heq := h2.registry u t' hmid
      rw [hget] at heq
      cases heq
      rcases h1.started u t hfree hmid with ⟨task, htask, hphase⟩
      exact ⟨task, h2.tasks t task htask, hphase⟩

theorem start_registered (s : ConsumerState) (u : String) :
    ((s.start u).registry.get u).isSome = true := by
  unfold ConsumerState.start
  split
  · rename_i t hget
    rw [hget]
    rfl
  · dsimp only
    rw [Table.get_set_self]
    rfl

theorem startAll_spec (hok : RegistryOk s) (usernames : List String) :
    StartedFrom s (usernames.foldl ConsumerState.start s) ∧
      forall u, u ∈ usernames ->
        ((usernames.foldl ConsumerState.start s).registry.get u).isSome = true := by
  induction usernames generalizing s with
  | nil => exact ⟨StartedFrom.refl s, nofun⟩
  | cons v usernames ih =>
      rcases ih (hok.start v) with ⟨hrest, hall⟩
      refine ⟨(startedFrom_start hok v).trans hrest, ?_⟩
      intro u hu
      rcases List.mem_cons.mp hu with heq | hmem
      · rcases Option.isSome_iff_exists.mp (start_registered s v) with ⟨t, ht⟩
        rw [heq]
        exact Option.isSome_iff_exists.mpr ⟨t, hrest.registry v t ht⟩
      · exact hall u hmem

theorem cancelUnless_registry (s : ConsumerState) (onlineUsers : List String)
    (u v : String) :
    (s.cancelUnless onlineUsers u).registry.get v =
      if v = u ∧ v ∉ onlineUsers then none else s.registry.get v := by
  unfold ConsumerState.cancelUnless
  split
  · rename_i hu
    rw [if_neg]
    intro h
    rw [h.1] at h
    exact h.2 hu
  · rename_i hu
    split
    · rename_i hfree
      split
      · rename_i h
        rw [h.1, hfree]
      · rfl
    · dsimp only
      rw [Table.get_set]
      by_cases hv : v = u
      · rw [if_pos hv, if_pos ⟨hv, hv ▸ hu⟩]
      · rw [if_neg hv, if_neg (fun h => hv h.1)]

theorem cancelAll_registry (onlineUsers : List String) (usernames : List String)
    (s : ConsumerState) (v : String) :
    (usernames.foldl (ConsumerState.cancelUnless onlineUsers) s).registry.get v =
      if v ∈ usernames ∧ v ∉ onlineUsers then none else s.registry.get v := by
  induction usernames generalizing s with
  | nil => simp
  | cons u usernames ih =>
      rw [List.foldl_cons, ih, cancelUnless_registry]
      by_cases hv : v ∈ onlineUsers
      · simp [hv]
      · by_cases hu : v = u
        · simp [hu, hu ▸ hv]
        · simp [hv, hu]

/-- The tasks of the users in the list stay as they are. -/
theorem cancelUnless_task (hok : RegistryOk s) (hv : v ∈ onlineUsers)
    (hget : s.registry.get v = some t) :
    (s.cancelUnless onlineUsers u).tasks.get t = s.tasks.get t := by
  unfold ConsumerState.cancelUnless
  split
  · rfl
  · rename_i hu
    split
    · rfl
    · rename_i t' hreg
      dsimp only
      rw [Table.get_update, if_neg]
      intro heq
      rcases hok.registered v t hget with ⟨task, htask, hname, _⟩
      rcases hok.registered u t' hreg with ⟨other, hother, hotherName, _⟩
      rw [← heq, htask] at hother
      cases hother
      rw [← hotherName, hname] at hu
      exact hu hv

theorem cancelAll_task (hok : RegistryOk s) (hv : v ∈ onlineUsers)
    (hget : s.registry.get v = some t) (usernames : List String) :
    (usernames.foldl (ConsumerState.cancelUnless onlineUsers) s).tasks.get t
      = s.tasks.get t := by
  induction usernames generalizing s with
  | nil => rfl
  | cons u usernames ih =>
      have hkept : (s.cancelUnless onlineUsers u).registry.get v = some t := by
        rw [cancelUnless_registry, if_neg (fun h => h.2 hv), hget]
      rw [List.foldl_cons, ih (hok.cancelUnless onlineUsers u) hkept,
        cancelUnless_task hok hv hget]

/-!
# Live consumers
-/

/-- The user has a task that runs and that is not cancelled. -/
def HasLiveConsumer (s : ConsumerState) (u : String) : Prop :=
  exists t task, s.tasks.get t = some task ∧ task.username = u ∧
    task.phase ≠ ConsumerPhase.ended ∧ task.cancelRequested = false

def LiveConsumers (s : ConsumerState) (onlineUsers : List String) : Prop :=
  forall u, HasLiveConsumer s u ↔ u ∈ onlineUsers

/-- The registered task of the user has ended. -/
def Crashed (s : ConsumerState) (u : String) : Prop :=
  exists t task, s.registry.get u = some t ∧ s.tasks.get t = some task ∧
    task.phase = ConsumerPhase.ended

theorem hasLiveConsumer_iff (hok : RegistryOk s) :
    HasLiveConsumer s u ↔ exists t, s.registry.get u = some t ∧ Runs s t := by
  constructor
  · intro h
    rcases h with ⟨t, task, htask, hname, hphase, hlive⟩
    exact ⟨t, hname ▸ hok.kept t task htask hlive, task, htask, hphase⟩
  · intro h
    rcases h with ⟨t, hget, task, htask, hphase⟩
    rcases hok.registered u t hget with ⟨other, hother, hname, hlive⟩
    rw [htask] at hother
    cases hother
    exact ⟨t, task, htask, hname, hphase, hlive⟩

theorem runs_or_crashed (hok : RegistryOk s) (hget : s.registry.get u = some t) :
    Runs s t ∨ Crashed s u := by
  rcases hok.registered u t hget with ⟨task, htask, _, _⟩
  by_cases hphase : task.phase = ConsumerPhase.ended
  · exact Or.inr ⟨t, task, hget, htask, hphase⟩
  · exact Or.inl ⟨task, htask, hphase⟩

/-- A scan registers exactly the users it has read, and leaves their tasks as they are. -/
theorem reconcile_spec (hok : RegistryOk s) (onlineUsers : List String)
    (u : String) :
    (u ∉ onlineUsers -> (s.reconcile onlineUsers).registry.get u = none) ∧
    (u ∈ onlineUsers -> exists t, (s.reconcile onlineUsers).registry.get u = some t ∧
      (Runs (s.reconcile onlineUsers) t ↔ ¬Crashed s u)) := by
  rcases startAll_spec hok onlineUsers with ⟨hstarted, hall⟩
  have hstartedOk : RegistryOk (onlineUsers.foldl ConsumerState.start s) :=
    RegistryOk.foldl (fun _ v hs => hs.start v) hok onlineUsers
  unfold ConsumerState.reconcile
  dsimp only
  generalize onlineUsers.foldl ConsumerState.start s = started at hstarted hall hstartedOk ⊢
  rw [cancelAll_registry]
  constructor
  · intro hu
    by_cases hkey : u ∈ started.registry.keys
    · rw [if_pos ⟨hkey, hu⟩]
    · rw [if_neg (fun h => hkey h.1)]
      exact Option.not_isSome_iff_eq_none.mp (fun h => hkey (Table.mem_keys.mpr h))
  · intro hu
    rcases Option.isSome_iff_exists.mp (hall u hu) with ⟨t, ht⟩
    refine ⟨t, by rw [if_neg (fun h => h.2 hu), ht], ?_⟩
    have htask := cancelAll_task hstartedOk hu ht started.registry.keys
    have hruns : Runs (started.registry.keys.foldl
        (ConsumerState.cancelUnless onlineUsers) started) t ↔ Runs started t := by
      unfold Runs
      rw [htask]
    rw [hruns]
    constructor
    · intro hrun hcrash
      rcases hrun with ⟨task, hget, hphase⟩
      rcases hcrash with ⟨t', old, hreg, hold, hended⟩
      have heq := hstarted.registry u t' hreg
      rw [ht] at heq
      cases heq
      rw [hstarted.tasks t old hold] at hget
      cases hget
      exact hphase hended
    · intro hcrash
      cases hreg : s.registry.get u with
      | none => exact hstarted.started u t hreg ht
      | some t' =>
          have heq := hstarted.registry u t' hreg
          rw [ht] at heq
          cases heq
          rcases runs_or_crashed hok hreg with ⟨task, htask, hphase⟩ | hcrashed
          · exact ⟨task, hstarted.tasks t task htask, hphase⟩
          · exact absurd hcrashed hcrash

theorem live_consumers_iff (hok : RegistryOk s) (hread : s.scanned = some onlineUsers)
    (hscan : s.next maxAttempts ConsumerLabel.scan = some s') :
    LiveConsumers s' onlineUsers ↔ forall u, u ∈ onlineUsers -> ¬Crashed s u := by
  have hok' := hok.next hscan
  have heq : s' = { s.reconcile onlineUsers with scanned := none } := by
    rw [ConsumerState.next, hread] at hscan
    cases hscan
    rfl
  have hlive : forall u, HasLiveConsumer s' u ↔ exists t,
      (s.reconcile onlineUsers).registry.get u = some t ∧ Runs (s.reconcile onlineUsers) t := by
    intro u
    rw [hasLiveConsumer_iff hok', heq]
    rfl
  constructor
  · intro h u hu
    rcases (hlive u).mp ((h u).mpr hu) with ⟨t, hget, hrun⟩
    rcases (reconcile_spec hok onlineUsers u).2 hu with ⟨t', hget', hruns⟩
    rw [hget] at hget'
    cases hget'
    exact hruns.mp hrun
  · intro h u
    rw [hlive u]
    constructor
    · intro hrun
      rcases hrun with ⟨t, hget, _⟩
      apply Classical.byContradiction
      intro hu
      rw [(reconcile_spec hok onlineUsers u).1 hu] at hget
      cases hget
    · intro hu
      rcases (reconcile_spec hok onlineUsers u).2 hu with ⟨t, hget, hruns⟩
      exact ⟨t, hget, hruns.mpr (h u hu)⟩

/--
After a scan the users with a live consumer are the online users it has read, if and only if
no registered consumer of one of them had ended.
-/
theorem live_consumers_after_scan_iff (maxAttempts : Nat) {s s' : ConsumerState}
    (hreach : (consumerSystem maxAttempts).Reachable s) {onlineUsers : List String}
    (hread : s.scanned = some onlineUsers)
    (hscan : s.next maxAttempts ConsumerLabel.scan = some s') :
    LiveConsumers s' onlineUsers ↔ forall u, u ∈ onlineUsers -> ¬Crashed s u :=
  live_consumers_iff (registryOk_of_reachable hreach) hread hscan

/-!
# One user
-/

def adaOnline : List ConsumerLabel :=
  [ConsumerLabel.setOnline ["ada"], ConsumerLabel.scanRead]

/-- The only attempt at a message fails, and the user stays online. -/
def failedPublish : List ConsumerLabel :=
  adaOnline ++ [ConsumerLabel.scan, ConsumerLabel.consumer 0 ConsumerEvent.declared,
    ConsumerLabel.enqueue "ada" "hello", ConsumerLabel.consumer 0 ConsumerEvent.delivered,
    ConsumerLabel.consumer 0 ConsumerEvent.publishFailed,
    ConsumerLabel.consumer 0 ConsumerEvent.slept, ConsumerLabel.scanRead]

def phasesAfterScan (s : ConsumerState) : Option (List ConsumerPhase) :=
  (s.next 1 ConsumerLabel.scan).map fun s' => s'.tasks.rows.map fun r => r.2.phase

theorem failed_publish_leaves_no_consumer :
    exists s s', (consumerSystem 1).Reachable s ∧ s.scanned = some ["ada"] ∧
      s.next 1 ConsumerLabel.scan = some s' ∧ ¬LiveConsumers s' ["ada"] := by
  have hview : (failedPublish.foldlM (ConsumerState.next 1) ConsumerState.initial).map
      (fun s => (s.scanned, phasesAfterScan s))
        = some (some ["ada"], some [ConsumerPhase.ended]) := by
    decide +kernel
  rcases System.exists_reachable_of_run (M := consumerSystem 1) (fun _ _ _ h => h) rfl hview with
    ⟨s, hreach, hs⟩
  injection hs with hscanned hphases
  rcases Option.map_eq_some_iff.mp hphases with ⟨s', hscan, hended⟩
  refine ⟨s, s', hreach, hscanned, hscan, ?_⟩
  intro hlive
  rcases (hlive "ada").mpr List.mem_cons_self with ⟨t, task, htask, _, hphase, _⟩
  have hmem : task.phase ∈ s'.tasks.rows.map (fun r => r.2.phase) :=
    List.mem_map.mpr ⟨(t, task), Table.mem_rows.mpr htask, rfl⟩
  rw [hended] at hmem
  exact hphase (List.mem_singleton.mp hmem)

theorem first_scan_starts_consumer :
    exists s s', (consumerSystem 1).Reachable s ∧ s.scanned = some ["ada"] ∧
      s.next 1 ConsumerLabel.scan = some s' ∧ LiveConsumers s' ["ada"] := by
  have hview : (adaOnline.foldlM (ConsumerState.next 1) ConsumerState.initial).map
      (fun s => (s.scanned, s.registry.keys, (phasesAfterScan s).isSome))
        = some (some ["ada"], [], true) := by
    decide +kernel
  rcases System.exists_reachable_of_run (M := consumerSystem 1) (fun _ _ _ h => h) rfl hview with
    ⟨s, hreach, hs⟩
  injection hs with hscanned hs
  injection hs with hkeys hscan
  rw [phasesAfterScan, Option.isSome_map] at hscan
  rcases Option.isSome_iff_exists.mp hscan with ⟨s', hscan⟩
  refine ⟨s, s', hreach, hscanned, hscan, ?_⟩
  apply (live_consumers_after_scan_iff 1 hreach hscanned hscan).mpr
  intro u _ hcrash
  rcases hcrash with ⟨t, _, hget, _⟩
  have hmem : u ∈ s.registry.keys := Table.mem_keys.mpr (by rw [hget]; rfl)
  rw [hkeys] at hmem
  cases hmem

end OnlineConsumers
end MessagingSystem
