import MessagingSystem.Foundation.Script
import MessagingSystem.Foundation.Table
import MessagingSystem.Foundation.Transition

/-!
# Concurrent transactions

Any number of sessions run scripts against one committed database.  A step of the
system is one statement of one session, a commit, a rollback, or a committed change
made by something outside the scripts.  A session keeps its row locks until it
ends.

The rule of the module is `Workload.invariant`: to prove that committed states
satisfy an invariant it is enough to look at one commit, and there one may use that
whatever a lock protects has not changed since the lock was taken.
-/

namespace MessagingSystem
namespace Foundation

structure Workload (db request action row fault result : Type) where
  start : db -> Prop
  script : request -> Script db row fault result
  /-- The commit of a result; `none` when a constraint of the schema refuses it. -/
  commit : result -> db -> Option db
  outside : action -> db -> Option db

structure Session (db request : Type) where
  request : request
  seen : List db

structure Store (db request : Type) where
  committed : db
  sessions : Table Nat (Session db request)

inductive StoreLabel (request action : Type) where
  | begin (t : Nat) (r : request)
  | statement (t : Nat)
  | commit (t : Nat)
  | rollback (t : Nat)
  | outside (a : action)

namespace Workload

section

variable {db request action row fault result : Type}
variable (W : Workload db request action row fault result)

def held (s : Session db request) : List (row × LockMode) :=
  (W.script s.request).acquired s.seen

/-- No other session holds a lock that conflicts with the wanted one. -/
def Granted (store : Store db request) (t : Nat) (want : Option (row × LockMode)) :
    Prop :=
  forall other, other ∈ store.sessions.rows -> other.1 ≠ t ->
    forall h, h ∈ W.held other.2 -> forall w, w ∈ want.toList ->
      h.1 = w.1 -> h.2.Compatible w.2

instance [DecidableEq row] (store : Store db request) (t : Nat) (want : Option (row × LockMode)) :
    Decidable (W.Granted store t want) :=
  inferInstanceAs (Decidable (forall other, other ∈ store.sessions.rows -> other.1 ≠ t ->
    forall h, h ∈ W.held other.2 -> forall w, w ∈ want.toList ->
      h.1 = w.1 -> h.2.Compatible w.2))

def Store.setSession (store : Store db request) (t : Nat)
    (s : Option (Session db request)) : Store db request :=
  { store with sessions := store.sessions.set t s }

def next [DecidableEq row] (store : Store db request) :
    StoreLabel request action -> Option (Store db request)
  | StoreLabel.begin t r =>
      match store.sessions.get t with
      | none => some (Store.setSession store t (some ⟨r, []⟩))
      | some _ => none
  | StoreLabel.statement t =>
      match store.sessions.get t with
      | none => none
      | some s =>
          match (W.script s.request).pending s.seen with
          | none => none
          | some want =>
              if W.Granted store t want then
                some (Store.setSession store t
                  (some { s with seen := s.seen ++ [store.committed] }))
              else none
  | StoreLabel.commit t =>
      match store.sessions.get t with
      | none => none
      | some s =>
          match (W.script s.request).outcome s.seen with
          | none => none
          | some r =>
              (W.commit r store.committed).map fun db' =>
                { committed := db', sessions := store.sessions.set t none }
  | StoreLabel.rollback t =>
      match store.sessions.get t with
      | none => none
      | some _ => some (Store.setSession store t none)
  | StoreLabel.outside a =>
      (W.outside a store.committed).map fun db' => { store with committed := db' }

def system [DecidableEq row] : System (Store db request) (StoreLabel request action) where
  start store := W.start store.committed ∧ store.sessions = Table.empty
  step store label store' := W.next store label = some store'

/-!
# What a step does
-/

inductive Step (store : Store db request) : Store db request -> Prop where
  | begin {t : Nat} (r : request) (hget : store.sessions.get t = none) :
      Step store (Store.setSession store t (some ⟨r, []⟩))
  | statement {t : Nat} {s : Session db request} {want : Option (row × LockMode)}
      (hget : store.sessions.get t = some s)
      (hpending : (W.script s.request).pending s.seen = some want)
      (hgranted : W.Granted store t want) :
      Step store (Store.setSession store t
        (some { s with seen := s.seen ++ [store.committed] }))
  | commit {t : Nat} {s : Session db request} {r : result} {db' : db}
      (hget : store.sessions.get t = some s)
      (hreturns : (W.script s.request).Returns s.seen r)
      (hcommit : W.commit r store.committed = some db') :
      Step store { committed := db', sessions := store.sessions.set t none }
  | rollback {t : Nat} : Step store (Store.setSession store t none)
  | outside {a : action} {db' : db} (hrun : W.outside a store.committed = some db') :
      Step store { store with committed := db' }

variable {W} {store store' : Store db request} {t : Nat} {label : StoreLabel request action}

theorem commit_of_next [DecidableEq row] (h : W.next store (StoreLabel.commit t) = some store') :
    exists s r db', store.sessions.get t = some s ∧ (W.script s.request).Returns s.seen r ∧
      W.commit r store.committed = some db' ∧
      store' = { committed := db', sessions := store.sessions.set t none } := by
  simp only [next] at h
  split at h
  · cases h
  · rename_i s hget
    split at h
    · cases h
    · rename_i r hreturns
      rcases Option.map_eq_some_iff.mp h with ⟨db', hcommit, hstore⟩
      exact ⟨s, r, db', hget, hreturns, hcommit, hstore.symm⟩

/-- Only a commit or a change from outside touches the committed rows. -/
theorem committed_of_next [DecidableEq row] (h : W.next store label = some store')
    (hcommit : forall t, label ≠ StoreLabel.commit t)
    (houtside : forall a, label ≠ StoreLabel.outside a) : store'.committed = store.committed := by
  cases label with
  | begin t r =>
      simp only [next] at h
      split at h
      · cases h
        rfl
      · cases h
  | statement t =>
      simp only [next] at h
      split at h
      · cases h
      · split at h
        · cases h
        · split at h
          · cases h
            rfl
          · cases h
  | commit t => exact absurd rfl (hcommit t)
  | rollback t =>
      simp only [next] at h
      split at h
      · cases h
      · cases h
        rfl
  | outside a => exact absurd rfl (houtside a)

/-- Where a step gets its committed rows from. -/
theorem committed_cases [DecidableEq row] (h : W.next store label = some store') :
    (exists t s r, label = StoreLabel.commit t ∧ store.sessions.get t = some s ∧
      (W.script s.request).Returns s.seen r ∧
      W.commit r store.committed = some store'.committed) ∨
    (exists a, label = StoreLabel.outside a ∧
      W.outside a store.committed = some store'.committed) ∨
    store'.committed = store.committed := by
  cases label with
  | commit t =>
      rcases commit_of_next h with ⟨s, r, db', hget, hreturns, hcommit, hstore⟩
      rw [hstore]
      exact Or.inl ⟨t, s, r, rfl, hget, hreturns, hcommit⟩
  | outside a =>
      rcases Option.map_eq_some_iff.mp h with ⟨db', hrun, hstore⟩
      rw [← hstore]
      exact Or.inr (Or.inl ⟨a, rfl, hrun⟩)
  | begin | statement | rollback => exact Or.inr (Or.inr (committed_of_next h nofun nofun))

theorem step_of_next [DecidableEq row] (h : W.next store label = some store') :
    Step W store store' := by
  cases label with
  | begin t r =>
      simp only [next] at h
      split at h
      · rename_i hget
        cases h
        exact Step.begin r hget
      · cases h
  | statement t =>
      simp only [next] at h
      split at h
      · cases h
      · rename_i s hget
        split at h
        · cases h
        · rename_i want hpending
          rcases Option.ite_none_right_eq_some.mp h with ⟨hgranted, h⟩
          cases h
          exact Step.statement hget hpending hgranted
  | commit t =>
      rcases commit_of_next h with ⟨s, r, db', hget, hreturns, hcommit, hstore⟩
      subst hstore
      exact Step.commit hget hreturns hcommit
  | rollback t =>
      simp only [next] at h
      split at h
      · cases h
      · cases h
        exact Step.rollback
  | outside a =>
      simp only [next] at h
      rcases Option.map_eq_some_iff.mp h with ⟨db', hrun, hstore⟩
      subst hstore
      exact Step.outside hrun

/-!
# Locks exclude each other
-/

variable (W) in
def Exclusive (store : Store db request) : Prop :=
  forall t t' s s', t ≠ t' -> store.sessions.get t = some s ->
    store.sessions.get t' = some s' -> forall h, h ∈ W.held s -> forall h', h' ∈ W.held s' ->
      h.1 = h'.1 -> h.2.Compatible h'.2

theorem Exclusive.setSession (h : Exclusive W store) {new : Session db request}
    (hnew : forall t' s', t' ≠ t -> store.sessions.get t' = some s' ->
      forall a, a ∈ W.held s' -> forall b, b ∈ W.held new -> a.1 = b.1 -> a.2.Compatible b.2) :
    Exclusive W (Store.setSession store t (some new)) := by
  refine Table.pairwise_get_set (R := fun s s' => forall a, a ∈ W.held s ->
    forall b, b ∈ W.held s' -> a.1 = b.1 -> a.2.Compatible b.2) ?_ h hnew
  intro s s' hs a ha b hb hkey
  exact (hs b hb a ha hkey.symm).symm

theorem Exclusive.close (h : Exclusive W store) (t : Nat) :
    Exclusive W (Store.setSession store t none) := by
  intro t1 t2 s s' hne hget hget'
  exact h t1 t2 s s' hne (Table.get_of_get_set_none hget).2
    (Table.get_of_get_set_none hget').2

theorem Exclusive.step (h : Exclusive W store) (hstep : Step W store store') :
    Exclusive W store' := by
  cases hstep with
  | begin r hget =>
      refine h.setSession ?_
      intro t' s' _ _ a _ b hb
      have hnone : W.held (⟨r, []⟩ : Session db request) = [] := by
        unfold held
        cases W.script r <;> rfl
      rw [hnone] at hb
      cases hb
  | @statement t s want hget hpending hgranted =>
      refine h.setSession ?_
      intro t' s' hne hget' a ha b hb hkey
      unfold held at hb
      rw [Script.acquired_snoc _ hpending] at hb
      rcases List.mem_append.mp hb with hold | hnew
      · exact h t' t s' s hne hget' hget a ha b hold hkey
      · exact hgranted (t', s') (Table.mem_rows.mpr hget') hne a ha b hnew hkey
  | commit | rollback => exact h.close _
  | outside hrun => exact h

/-!
# What a lock protects

`keeps k` relates two databases that agree on what the lock `k` protects.  If only
holders of the exclusive lock break it, everything a session has seen since it took
the lock still agrees with the committed rows.
-/

variable (W) in
structure Guarantee (keeps : row -> db -> db -> Prop) : Prop where
  refl : forall k d, keeps k d d
  trans : forall k a b c, keeps k a b -> keeps k b c -> keeps k a c
  outside : forall k a d d', W.outside a d = some d' -> keeps k d d'
  commit : forall k req seen r d d', (W.script req).Returns seen r ->
    W.commit r d = some d' ->
    (k, LockMode.exclusive) ∉ (W.script req).acquired seen -> keeps k d d'

variable (W) in
def Stable (keeps : row -> db -> db -> Prop) (s : Session db request) (committed : db) :
    Prop :=
  forall k mode since, (W.script s.request).HeldSince s.seen k mode since ->
    (since ++ [committed]).Pairwise (keeps k)

variable {keeps : row -> db -> db -> Prop} {s : Session db request}

/-- A change that keeps what the session has locked. -/
theorem Stable.change {d d' : db}
    (htrans : forall k a b c, keeps k a b -> keeps k b c -> keeps k a c) (h : Stable W keeps s d)
    (hkeeps : forall k mode, (k, mode) ∈ W.held s -> keeps k d d') : Stable W keeps s d' := by
  intro k mode since hsince
  have hpairs := List.pairwise_append.mp (h k mode since hsince)
  refine List.pairwise_append.mpr ⟨hpairs.1, List.pairwise_singleton _ _, ?_⟩
  intro a ha b hb
  rw [List.mem_singleton.mp hb]
  exact htrans k a d d' (hpairs.2.2 a ha d List.mem_cons_self)
    (hkeeps k mode hsince.mem_acquired)

theorem Stable.statement {d : db} {want : Option (row × LockMode)}
    (hrefl : forall k d, keeps k d d) (h : Stable W keeps s d)
    (hpending : (W.script s.request).pending s.seen = some want) :
    Stable W keeps { s with seen := s.seen ++ [d] } d := by
  intro k mode since hsince
  rcases Script.heldSince_snoc hpending hsince with ⟨before, heq, hheld⟩ | ⟨heq, _⟩
  · have hpairs := h k mode before hheld
    rw [heq]
    refine List.pairwise_append.mpr ⟨hpairs, List.pairwise_singleton _ _, ?_⟩
    intro a ha b hb
    rw [List.mem_singleton.mp hb]
    rcases List.mem_append.mp ha with ha | ha
    · exact (List.pairwise_append.mp hpairs).2.2 a ha d List.mem_cons_self
    · rw [List.mem_singleton.mp ha]
      exact hrefl k d
  · rw [heq]
    simp [hrefl]

/-- A row that was locked on the way to a result still agrees with the committed one. -/
theorem Stable.keeps_of_ends {committed : db} (h : Stable W keeps s committed)
    {trace : List (Option (row × LockMode) × db)} {r : result}
    (hends : (W.script s.request).Ends trace r) (hseen : trace.map Prod.snd = s.seen) {k : row}
    {mode : LockMode} {d : db} (hmem : (some (k, mode), d) ∈ trace) : keeps k d committed := by
  rcases List.append_of_mem hmem with ⟨before, after, htrace⟩
  rw [htrace] at hends hseen
  have hheld := hends.heldSince
  rw [hseen] at hheld
  have hpairs := h k mode _ hheld
  exact (List.pairwise_append.mp hpairs).2.2 d List.mem_cons_self committed List.mem_cons_self

variable (W keeps) in
structure StoreOk (store : Store db request) : Prop where
  exclusive : Exclusive W store
  stable : forall t s, store.sessions.get t = some s -> Stable W keeps s store.committed

/-- The sessions that remain when one of them is replaced. -/
theorem StoreOk.stable_set (h : StoreOk W keeps store) {new : Option (Session db request)}
    (hnew : forall s, new = some s -> Stable W keeps s store.committed) :
    forall t' s, (store.sessions.set t new).get t' = some s ->
      Stable W keeps s store.committed := by
  intro t' s hget
  by_cases ht : t' = t
  · subst ht
    rw [Table.get_set_self] at hget
    exact hnew s hget
  · rw [Table.get_set_ne _ ht] at hget
    exact h.stable t' s hget

theorem StoreOk.step (hG : Guarantee W keeps) (h : StoreOk W keeps store)
    (hstep : Step W store store') : StoreOk W keeps store' := by
  refine ⟨h.exclusive.step hstep, ?_⟩
  cases hstep with
  | begin r hget =>
      refine h.stable_set ?_
      intro s hs
      cases hs
      intro k mode since hsince
      exact absurd hsince Script.not_heldSince_nil
  | statement hget hpending hgranted =>
      refine h.stable_set ?_
      intro s hs
      cases hs
      exact (h.stable _ _ hget).statement hG.refl hpending
  | @commit t s r db' hget hreturns hcommit =>
      intro t' s' hget'
      rcases Table.get_of_get_set_none hget' with ⟨hne, hget'⟩
      refine (h.stable t' s' hget').change hG.trans ?_
      intro k mode hheld
      refine hG.commit k s.request s.seen r _ _ hreturns hcommit ?_
      intro hexclusive
      cases (h.exclusive t' t s' s hne hget' hget _ hheld _ hexclusive rfl).2
  | rollback =>
      refine h.stable_set ?_
      intro s hs
      cases hs
  | outside hrun =>
      intro t s hget
      refine (h.stable t s hget).change hG.trans ?_
      intro k mode _
      exact hG.outside k _ _ _ hrun

theorem storeOk_of_reachable [DecidableEq row] (hG : Guarantee W keeps)
    (h : W.system.Reachable store) : StoreOk W keeps store := by
  refine System.Reachable.invariant ?_ ?_ h
  · intro store hstart
    refine ⟨?_, ?_⟩
    · intro t t' s s' _ hget
      rw [hstart.2] at hget
      cases hget
    · intro t s hget
      rw [hstart.2] at hget
      cases hget
  · intro store label store' hok hstep
    exact hok.step hG (step_of_next hstep)

/-- What a session has seen was committed before: a preorder kept by every step relates it. -/
theorem seen_related [DecidableEq row] {R : db -> db -> Prop} (hrefl : forall d, R d d)
    (htrans : forall a b c, R a b -> R b c -> R a c)
    (hnext : forall store label store', W.next store label = some store' ->
      R store.committed store'.committed) (h : W.system.Reachable store)
    (hget : store.sessions.get t = some s) {d : db} (hd : d ∈ s.seen) : R d store.committed := by
  induction h generalizing t s d with
  | start h0 =>
      rw [h0.2] at hget
      cases hget
  | @step store store' label hreach hstep ih =>
      have hkept : R store.committed store'.committed := hnext store label store' hstep
      -- Sessions other than the one that moves have seen what they had seen.
      have hold : store.sessions.get t = some s -> R d store'.committed := by
        intro hget
        exact htrans _ _ _ (ih hget hd) hkept
      have hset : forall {t' : Nat} {new : Option (Session db request)},
          (store.sessions.set t' new).get t = some s ->
          (forall s', new = some s' -> forall d, d ∈ s'.seen -> R d store.committed) ->
          R d store'.committed := by
        intro t' new hget hnew
        by_cases ht : t = t'
        · rw [ht, Table.get_set_self] at hget
          exact htrans _ _ _ (hnew s hget d hd) hkept
        · rw [Table.get_set_ne _ ht] at hget
          exact hold hget
      cases step_of_next hstep with
      | begin r hnone =>
          apply hset hget
          intro s' hs' d' hd'
          cases hs'
          cases hd'
      | statement hsession hpending hgranted =>
          apply hset hget
          intro s' hs' d' hd'
          cases hs'
          rcases List.mem_append.mp hd' with hd' | hd'
          · exact ih hsession hd'
          · rw [List.mem_singleton.mp hd']
            exact hrefl _
      | commit hsession hreturns hcommit =>
          apply hset hget
          intro s' hs'
          cases hs'
      | rollback =>
          apply hset hget
          intro s' hs'
          cases hs'
      | outside hrun => exact hold hget

/--
An invariant of the committed rows, proved commit by commit, of the runs in which
every step satisfies some condition.
-/
theorem restricted_invariant [DecidableEq row] (hG : Guarantee W keeps)
    {P : Store db request -> StoreLabel request action -> Prop} {I : db -> Prop}
    (hstart : forall d, W.start d -> I d)
    (houtside : forall a d d', I d -> W.outside a d = some d' -> I d')
    (hcommit : forall store t s r d', P store (StoreLabel.commit t) -> I store.committed ->
      store.sessions.get t = some s -> Stable W keeps s store.committed ->
      (W.script s.request).Returns s.seen r -> W.commit r store.committed = some d' -> I d')
    (h : (W.system.restrict P).Reachable store) : I store.committed := by
  induction h with
  | start h0 => exact hstart _ h0.1
  | @step store store' label hreach hnext ih =>
      have hok := storeOk_of_reachable hG hreach.of_restrict
      rcases hnext with ⟨hP, hnext⟩
      cases label with
      | commit t =>
          rcases commit_of_next hnext with ⟨s, r, d', hget, hreturns, hdone, hstore⟩
          rw [hstore]
          exact hcommit store t s r d' hP ih hget (hok.stable t s hget) hreturns hdone
      | outside a =>
          rcases Option.map_eq_some_iff.mp hnext with ⟨d', hrun, hstore⟩
          rw [← hstore]
          exact houtside a _ d' ih hrun
      | begin t r =>
          rw [committed_of_next hnext nofun nofun]
          exact ih
      | statement t =>
          rw [committed_of_next hnext nofun nofun]
          exact ih
      | rollback t =>
          rw [committed_of_next hnext nofun nofun]
          exact ih

/-- An invariant of the committed rows, proved commit by commit. -/
theorem invariant [DecidableEq row] (hG : Guarantee W keeps) {I : db -> Prop}
    (hstart : forall d, W.start d -> I d)
    (houtside : forall a d d', I d -> W.outside a d = some d' -> I d')
    (hcommit : forall s r d d', I d -> Stable W keeps s d ->
      (W.script s.request).Returns s.seen r -> W.commit r d = some d' -> I d')
    (h : W.system.Reachable store) : I store.committed := by
  refine restricted_invariant hG hstart houtside ?_
    (h.to_restrict (P := fun _ _ => True) (fun _ _ => trivial))
  intro store t s r d' _ hI _ hstable hreturns hdone
  exact hcommit s r store.committed d' hI hstable hreturns hdone

/-!
# Runs
-/

section

variable [DecidableEq row] {labels : List (StoreLabel request action)} {d : db} {value : Type}
  {view : Store db request -> value} {v : value}

theorem exists_reachable_of_run (h : (labels.foldlM W.next ⟨d, Table.empty⟩).map view = some v)
    (hstart : W.start d) : exists store, W.system.Reachable store ∧ view store = v :=
  System.exists_reachable_of_run (M := W.system) (fun _ _ _ hstep => hstep) ⟨hstart, rfl⟩ h

theorem exists_reachable_of_guarded {P : Store db request -> StoreLabel request action -> Prop}
    [forall store label, Decidable (P store label)]
    (h : (labels.foldlM (System.guarded P W.next) ⟨d, Table.empty⟩).map view = some v)
    (hstart : W.start d) : exists store, (W.system.restrict P).Reachable store ∧ view store = v :=
  System.exists_reachable_of_run (M := W.system.restrict P)
    (System.step_of_guarded (fun _ _ _ hstep => hstep)) ⟨hstart, rfl⟩ h

end

end

end Workload

end Foundation
end MessagingSystem
