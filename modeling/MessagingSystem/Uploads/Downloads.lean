import MessagingSystem.Core.Values
import MessagingSystem.Foundation.Tally
import MessagingSystem.Foundation.Transition

/-!
# Protected downloads

One limiter admits downloads by user, by client address and in total.  A lease gives its slots
back once, however often and by however many tasks it is released.
-/

namespace MessagingSystem

open Foundation

/-!
# The limiter
-/

/-- A lease whose `_released` is set waits for the limiter before its slots are given back. -/
inductive LeasePhase where
  | held
  | releasing
  | released
  deriving DecidableEq, Repr

structure DownloadLease where
  userId : Uuid
  clientIp : String
  phase : LeasePhase := LeasePhase.held
  deriving DecidableEq

structure DownloadConcurrencyLimiter where
  activeByUser : Table Uuid Nat := Table.empty
  activeByIp : Table String Nat := Table.empty
  activeGlobal : Nat := 0

structure DownloadLimits where
  perUserLimit : Int
  perIpLimit : Int
  globalLimit : Int

/-- `str(client_ip)[:64] or "unknown"`. -/
def normalizedIp (clientIp : String) : String :=
  if clientIp = "" then "unknown" else String.ofList (clientIp.toList.take 64)

namespace DownloadConcurrencyLimiter

def tryAcquire (limiter : DownloadConcurrencyLimiter) (userId : Uuid) (clientIp : String)
    (limits : DownloadLimits) : DownloadConcurrencyLimiter × Option DownloadLease :=
  let ip := normalizedIp clientIp
  let userActive := (limiter.activeByUser.get userId).getD 0
  let ipActive := (limiter.activeByIp.get ip).getD 0
  if (userActive : Int) ≥ max 1 limits.perUserLimit ∨ (ipActive : Int) ≥ max 1 limits.perIpLimit ∨
      (limiter.activeGlobal : Int) ≥ max 1 limits.globalLimit then
    (limiter, none)
  else
    ({ activeByUser := limiter.activeByUser.increment userId
       activeByIp := limiter.activeByIp.increment ip
       activeGlobal := limiter.activeGlobal + 1 },
      some { userId := userId, clientIp := ip })

/-- `_release`. -/
def release (limiter : DownloadConcurrencyLimiter) (userId : Uuid) (clientIp : String) :
    DownloadConcurrencyLimiter where
  activeByUser := limiter.activeByUser.decrement userId
  activeByIp := limiter.activeByIp.decrement clientIp
  activeGlobal := limiter.activeGlobal - 1

theorem tryAcquire_cases (limiter : DownloadConcurrencyLimiter) (userId : Uuid)
    (clientIp : String) (limits : DownloadLimits) :
    limiter.tryAcquire userId clientIp limits = (limiter, none) ∨
      ((limiter.activeByUser.get userId).getD 0 < max 1 limits.perUserLimit ∧
        (limiter.activeByIp.get (normalizedIp clientIp)).getD 0 < max 1 limits.perIpLimit ∧
        limiter.activeGlobal < max 1 limits.globalLimit ∧
        limiter.tryAcquire userId clientIp limits =
          (⟨limiter.activeByUser.increment userId,
              limiter.activeByIp.increment (normalizedIp clientIp), limiter.activeGlobal + 1⟩,
            some { userId := userId, clientIp := normalizedIp clientIp })) := by
  unfold tryAcquire
  dsimp only
  split
  · exact Or.inl rfl
  · rename_i hroom
    simp only [ge_iff_le, not_or, not_le] at hroom
    exact Or.inr ⟨hroom.1, hroom.2.1, hroom.2.2, rfl⟩

end DownloadConcurrencyLimiter

/-!
# Leases of many tasks
-/

structure DownloadState where
  limiter : DownloadConcurrencyLimiter := {}
  leases : List DownloadLease := []

/-- The leases that were acquired and whose slots have not been given back. -/
def DownloadState.active (s : DownloadState) : List DownloadLease :=
  s.leases.filter (fun lease => lease.phase != LeasePhase.released)

inductive DownloadLabel where
  | tryAcquire (userId : Uuid) (clientIp : String) (limits : DownloadLimits)
  | release (lease : Nat)
  | settle (lease : Nat)

namespace DownloadState

def next (s : DownloadState) : DownloadLabel -> Option DownloadState
  | DownloadLabel.tryAcquire userId clientIp limits =>
      let result := s.limiter.tryAcquire userId clientIp limits
      some { limiter := result.1, leases := s.leases ++ result.2.toList }
  | DownloadLabel.release i => do
      let lease ← s.leases[i]?
      match lease.phase with
      | LeasePhase.held =>
          some { s with leases := s.leases.set i { lease with phase := LeasePhase.releasing } }
      -- Another task is in the release lock of the lease.
      | LeasePhase.releasing => none
      | LeasePhase.released => some s
  | DownloadLabel.settle i => do
      let lease ← s.leases[i]?
      match lease.phase with
      | LeasePhase.releasing =>
          some { limiter := s.limiter.release lease.userId lease.clientIp
                 leases := s.leases.set i { lease with phase := LeasePhase.released } }
      | _ => none

end DownloadState

def downloadSystem : System DownloadState DownloadLabel where
  start s := s = {}
  step s a t := s.next a = some t

/-- The counters agree with the active leases. -/
structure DownloadState.Accounted (s : DownloadState) : Prop where
  byUser : Tallies s.limiter.activeByUser (s.active.map DownloadLease.userId)
  byIp : Tallies s.limiter.activeByIp (s.active.map DownloadLease.clientIp)
  global : s.limiter.activeGlobal = s.active.length

theorem DownloadState.active_concat {s : DownloadState} {lease : DownloadLease}
    (hheld : lease.phase = LeasePhase.held) (limiter : DownloadConcurrencyLimiter) :
    (DownloadState.mk limiter (s.leases ++ [lease])).active = s.active ++ [lease] := by
  rw [DownloadState.active, List.filter_append, List.filter_cons_of_pos (by rw [hheld]; rfl)]
  rfl

/-- One lease of a list is replaced. -/
theorem exists_filter_set {α : Type} {p : α -> Bool} {l : List α} {i : Nat} {a : α}
    (h : l[i]? = some a) (ha : p a = true) (b : α) :
    exists rest, (l.filter p).Perm (a :: rest) ∧
      ((l.set i b).filter p).Perm ([b].filter p ++ rest) := by
  rcases List.getElem?_eq_some_iff.mp h with ⟨hi, hget⟩
  have hsplit : l = l.take i ++ a :: l.drop (i + 1) := by
    rw [← hget, List.cons_getElem_drop_succ, List.take_append_drop]
  refine ⟨(l.take i ++ l.drop (i + 1)).filter p, ?_, ?_⟩
  · rw [← List.filter_cons_of_pos ha]
    nth_rewrite 1 [hsplit]
    exact List.perm_middle.filter p
  · rw [List.set_eq_take_append_cons_drop, if_pos hi, ← List.filter_append]
    exact List.perm_middle.filter p

theorem DownloadState.Accounted.step {s t : DownloadState} {a : DownloadLabel}
    (h : s.Accounted) (hstep : s.next a = some t) : t.Accounted := by
  cases a with
  | tryAcquire userId clientIp limits =>
      cases hstep
      rcases s.limiter.tryAcquire_cases userId clientIp limits with heq | ⟨_, _, _, heq⟩
      · rw [heq, Option.toList_none, List.append_nil]
        exact h
      · rw [heq]
        refine ⟨?_, ?_, ?_⟩
        · rw [Option.toList_some, DownloadState.active_concat rfl, List.map_append]
          exact (h.byUser.increment userId).perm (List.perm_append_singleton _ _).symm
        · rw [Option.toList_some, DownloadState.active_concat rfl, List.map_append]
          exact (h.byIp.increment _).perm (List.perm_append_singleton _ _).symm
        · rw [Option.toList_some, DownloadState.active_concat rfl, List.length_append, ← h.global]
          rfl
  | release i =>
      rcases Option.bind_eq_some_iff.mp hstep with ⟨lease, hlease, hstep⟩
      split at hstep
      · rename_i hheld
        cases hstep
        rcases exists_filter_set (p := fun lease => lease.phase != LeasePhase.released) hlease
          (by rw [hheld]; rfl) { lease with phase := LeasePhase.releasing } with
          ⟨rest, hold, hnew⟩
        refine ⟨?_, ?_, ?_⟩
        · exact h.byUser.perm ((hold.map DownloadLease.userId).trans
            (hnew.map DownloadLease.userId).symm)
        · exact h.byIp.perm ((hold.map DownloadLease.clientIp).trans
            (hnew.map DownloadLease.clientIp).symm)
        · exact h.global.trans (hold.length_eq.trans hnew.length_eq.symm)
      · cases hstep
      · cases hstep
        exact h
  | settle i =>
      rcases Option.bind_eq_some_iff.mp hstep with ⟨lease, hlease, hstep⟩
      split at hstep
      · rename_i hreleasing
        cases hstep
        rcases exists_filter_set (p := fun lease => lease.phase != LeasePhase.released) hlease
          (by rw [hreleasing]; rfl) { lease with phase := LeasePhase.released } with
          ⟨rest, hold, hnew⟩
        refine ⟨?_, ?_, ?_⟩
        · exact (h.byUser.perm (hold.map _)).decrement.perm (hnew.map _).symm
        · exact (h.byIp.perm (hold.map _)).decrement.perm (hnew.map _).symm
        · show s.limiter.activeGlobal - 1 = _
          rw [h.global, DownloadState.active, hold.length_eq, DownloadState.active,
            hnew.length_eq]
          rfl
      · cases hstep

theorem DownloadState.Accounted.of_reachable {s : DownloadState}
    (h : downloadSystem.Reachable s) : s.Accounted := by
  refine System.Reachable.invariant ?_ (fun _ _ _ ok hstep => ok.step hstep) h
  intro s hs
  rw [hs]
  exact ⟨Tallies.empty, Tallies.empty, rfl⟩

/--
In every reached state the three counts agree with the active leases, and an attempt either
changes nothing or stays within its limits, each of which is taken as at least one.
-/
theorem downloads_are_accounted {s : DownloadState} (h : downloadSystem.Reachable s) :
    s.limiter.activeGlobal = s.active.length ∧
    (s.limiter.activeByUser.rows.map Prod.snd).sum = s.limiter.activeGlobal ∧
    (s.limiter.activeByIp.rows.map Prod.snd).sum = s.limiter.activeGlobal ∧
    (forall userId n, s.limiter.activeByUser.get userId = some n -> 0 < n) ∧
    (forall ip n, s.limiter.activeByIp.get ip = some n -> 0 < n) ∧
    forall userId clientIp limits limiter lease,
      s.limiter.tryAcquire userId clientIp limits = (limiter, lease) ->
        (lease = none -> limiter = s.limiter) ∧
        (lease ≠ none ->
          (limiter.activeByUser.get userId).getD 0 ≤ max 1 limits.perUserLimit ∧
          (limiter.activeByIp.get (normalizedIp clientIp)).getD 0 ≤ max 1 limits.perIpLimit ∧
          limiter.activeGlobal ≤ max 1 limits.globalLimit) := by
  have hok := DownloadState.Accounted.of_reachable h
  refine ⟨hok.global, ?_, ?_, fun _ _ => hok.byUser.pos, fun _ _ => hok.byIp.pos, ?_⟩
  · rw [hok.byUser.sum_eq_length, List.length_map, hok.global]
  · rw [hok.byIp.sum_eq_length, List.length_map, hok.global]
  · intro userId clientIp limits limiter lease hacquire
    rcases s.limiter.tryAcquire_cases userId clientIp limits with heq | ⟨huser, hip, hglobal, heq⟩
    · cases heq.symm.trans hacquire
      exact ⟨fun _ => rfl, fun hsome => absurd rfl hsome⟩
    · cases heq.symm.trans hacquire
      refine ⟨fun hnone => (nomatch hnone), fun _ => ⟨?_, ?_, ?_⟩⟩
      · rw [Table.get_increment_self]
        exact huser
      · rw [Table.get_increment_self]
        exact hip
      · exact hglobal

theorem released_twice_counted_once :
    exists s, downloadSystem.Reachable s ∧ s.limiter.activeGlobal = 1 ∧ s.active.length = 1 := by
  have hrun : ([DownloadLabel.tryAcquire 1 "10.0.0.1" ⟨2, 5, 5⟩,
      DownloadLabel.tryAcquire 1 "10.0.0.2" ⟨2, 5, 5⟩, DownloadLabel.release 0,
      DownloadLabel.settle 0, DownloadLabel.release 0].foldlM DownloadState.next {}).map
        (fun s => s.limiter.activeGlobal) = some 1 := by
    decide
  rcases System.exists_reachable_of_run (M := downloadSystem) (fun _ _ _ hstep => hstep) rfl hrun
    with ⟨s, hreach, hglobal⟩
  exact ⟨s, hreach, hglobal, (downloads_are_accounted hreach).1.symm.trans hglobal⟩

/-- A limit of zero admits one download. -/
theorem zero_limit_admits_download :
    ¬forall s, downloadSystem.Reachable s -> forall userId clientIp limits limiter lease,
      s.limiter.tryAcquire userId clientIp limits = (limiter, some lease) ->
        (limiter.activeByUser.get userId).getD 0 ≤ limits.perUserLimit := by
  intro hall
  have hclaim := hall {} (System.Reachable.start rfl) 1 "10.0.0.1" ⟨0, 5, 5⟩ _ _ rfl
  exact absurd hclaim (by decide)

end MessagingSystem
