import MessagingSystem.Events.Log
import MessagingSystem.Foundation.Sha256

/-!
# Committed scopes are chains

A transaction holds the lock of every scope it has written to, so the rows it sees
of such a scope are the rows there will be when it commits.  From this the chains of
all scopes survive every interleaving.
-/

namespace MessagingSystem

open Foundation

variable {log : EventLog} {tx : LogTransaction} {committed : List Event}

/-!
# The invariant
-/

structure TransactionOk (hashtext : String -> Int) (sha256 : Sha256)
    (committed : List Event) (tx : LogTransaction) : Prop where
  inScope : forall event, event ∈ tx.events ->
    event.integrityScope = some (integrityScopeForEvent event.channelId)
  locked : forall event, event ∈ tx.events ->
    hashtext (integrityScopeForEvent event.channelId) ∈ tx.locks
  chain : forall scope, Chain sha256 scope (scopeEvents scope (committed ++ tx.events))
  phaseLocked : forall scope, tx.phase.scope = some scope -> hashtext scope ∈ tx.locks
  phaseLatest : forall scope latest, tx.phase.latest = some (scope, latest) ->
    latest = (scopeEvents scope (committed ++ tx.events)).getLast?
  unhashed : tx.phase.Unhashed

structure EventLogOk (hashtext : String -> Int) (sha256 : Sha256) (log : EventLog) :
    Prop where
  inScope : forall event, event ∈ log.committed ->
    event.integrityScope = some (integrityScopeForEvent event.channelId)
  chain : forall scope, Chain sha256 scope (scopeEvents scope log.committed)
  transactions : forall t tx, log.txs.get t = some tx ->
    TransactionOk hashtext sha256 log.committed tx
  exclusive : forall t t' tx tx', t ≠ t' -> log.txs.get t = some tx ->
    log.txs.get t' = some tx' -> forall key, key ∈ tx.locks -> key ∉ tx'.locks

@[simp] theorem scopeEvents_append (scope : String) (first second : List Event) :
    scopeEvents scope (first ++ second)
      = scopeEvents scope first ++ scopeEvents scope second :=
  List.filter_append first second

theorem scopeEvents_unhashed {phase : LogPhase} (h : phase.Unhashed) (scope : String) :
    scopeEvents scope phase.rows = [] := by
  apply List.filter_eq_nil_iff.mpr
  intro event hevent
  rw [h event hevent]
  simp

theorem scopeEvents_rows (h : tx.phase.Unhashed) (scope : String)
    (committed : List Event) :
    scopeEvents scope (committed ++ tx.rows)
      = scopeEvents scope (committed ++ tx.events) := by
  unfold LogTransaction.rows
  simp [scopeEvents_unhashed h]

section

variable {hashtext : String -> Int} {sha256 : Sha256}

theorem TransactionOk.latest_eq
    (h : TransactionOk hashtext sha256 committed tx) (scope : String) :
    latestIntegrityEvent (committed ++ tx.rows) scope
      = (scopeEvents scope (committed ++ tx.events)).getLast? := by
  have hrows := scopeEvents_rows h.unhashed scope committed
  have hchain : Chain sha256 scope (scopeEvents scope (committed ++ tx.rows)) := by
    rw [hrows]
    exact h.chain scope
  rw [hchain.latest_eq, hrows]

/-- Only rows of locked scopes are among the rows of a transaction. -/
theorem TransactionOk.scopeEvents_eq_nil
    (h : TransactionOk hashtext sha256 committed tx) {scope : String}
    (hlock : hashtext scope ∉ tx.locks) : scopeEvents scope tx.events = [] := by
  apply List.filter_eq_nil_iff.mpr
  intro event hevent heq
  have hscope := (h.inScope event hevent).symm.trans (of_decide_eq_true heq)
  injection hscope with hscope
  exact hlock (hscope ▸ h.locked event hevent)

theorem TransactionOk.advance {t : Nat} {tx tx' : LogTransaction}
    (h : TransactionOk hashtext sha256 log.committed tx)
    (hadvance : Advance hashtext sha256 log t tx tx') :
    TransactionOk hashtext sha256 log.committed tx' := by
  cases hadvance with
  | @lock scope phase hfree hscope hlatest hrows =>
      refine ⟨h.inScope, ?_, h.chain, ?_, ?_, ?_⟩
      · intro event hevent
        exact List.mem_cons_of_mem _ (h.locked event hevent)
      · intro other hother
        have heq : some scope = some other := hscope.symm.trans hother
        cases heq
        exact List.mem_cons_self
      · intro other latest hother
        exact absurd (hlatest.symm.trans hother) (by simp)
      · intro event hevent
        change event ∈ phase.rows at hevent
        rw [hrows] at hevent
        cases hevent
  | move hscope hlatest hrows =>
      refine ⟨h.inScope, h.locked, h.chain, ?_, ?_, hrows h.unhashed⟩
      · intro scope hphase
        exact h.phaseLocked scope (hscope scope hphase)
      · intro scope latest hphase
        rw [hlatest scope latest hphase]
        exact h.latest_eq scope
  | @append latest event hlatest hevent =>
      have hkey := h.phaseLocked _ (LogPhase.scope_of_latest hlatest)
      have hlast := h.phaseLatest _ _ hlatest
      refine ⟨?_, ?_, ?_, ?_, ?_, ?_⟩
      · exact List.forall_mem_append.mpr
          ⟨h.inScope, List.forall_mem_singleton.mpr hevent.scope⟩
      · exact List.forall_mem_append.mpr ⟨h.locked, List.forall_mem_singleton.mpr hkey⟩
      · intro scope
        change Chain sha256 scope (scopeEvents scope (log.committed ++ (tx.events ++ [event])))
        rw [← List.append_assoc, scopeEvents_append]
        by_cases hscope : integrityScopeForEvent event.channelId = scope
        · have hsingle : scopeEvents scope [event] = [event] := by
            simp [scopeEvents, hevent.scope, hscope]
          rw [hsingle]
          refine (h.chain scope).append ?_ hscope
          rw [← hscope, ← hlast]
          exact hevent
        · have hsingle : scopeEvents scope [event] = [] := by
            simp [scopeEvents, hevent.scope, hscope]
          rw [hsingle, List.append_nil]
          exact h.chain scope
      · intro scope hphase
        cases hphase
      · intro scope found hphase
        cases hphase
      · intro e he
        cases he

/-- What another transaction commits under its own locks does not concern this one. -/
theorem TransactionOk.commit_other {tx other : LogTransaction}
    (h : TransactionOk hashtext sha256 committed tx)
    (hother : TransactionOk hashtext sha256 committed other)
    (hexclusive : forall key, key ∈ other.locks -> key ∉ tx.locks) :
    TransactionOk hashtext sha256 (committed ++ other.events) tx := by
  have hrows : forall scope, hashtext scope ∈ tx.locks ->
      scopeEvents scope (committed ++ other.events ++ tx.events)
        = scopeEvents scope (committed ++ tx.events) := by
    intro scope hlock
    have hnone := hother.scopeEvents_eq_nil (fun hkey => hexclusive _ hkey hlock)
    simp [hnone]
  refine ⟨h.inScope, h.locked, ?_, h.phaseLocked, ?_, h.unhashed⟩
  · intro scope
    by_cases hlock : hashtext scope ∈ tx.locks
    · rw [hrows scope hlock]
      exact h.chain scope
    · rw [scopeEvents_append, h.scopeEvents_eq_nil hlock, List.append_nil]
      exact hother.chain scope
  · intro scope latest hlatest
    rw [hrows scope (h.phaseLocked scope (LogPhase.scope_of_latest hlatest))]
    exact h.phaseLatest scope latest hlatest

theorem EventLogOk.empty : EventLogOk hashtext sha256 EventLog.empty := by
  refine ⟨?_, ?_, ?_, ?_⟩
  · intro event hevent
    cases hevent
  · intro scope
    exact ⟨trivial, List.Pairwise.nil⟩
  · intro t tx hget
    cases hget
  · intro t t' tx tx' _ hget
    cases hget

theorem TransactionOk.fresh
    (hchain : forall scope, Chain sha256 scope (scopeEvents scope committed)) :
    TransactionOk hashtext sha256 committed LogTransaction.fresh := by
  refine ⟨?_, ?_, ?_, ?_, ?_, ?_⟩
  · intro event hevent
    cases hevent
  · intro event hevent
    cases hevent
  · intro scope
    show Chain sha256 scope (scopeEvents scope (committed ++ []))
    rw [List.append_nil]
    exact hchain scope
  · intro scope hscope
    cases hscope
  · intro scope latest hlatest
    cases hlatest
  · intro event hevent
    cases hevent

section

variable (h : EventLogOk hashtext sha256 log)
include h

/-- Replacing the row of one transaction. -/
theorem EventLogOk.setTransaction
    {t : Nat} {new : LogTransaction} (hok : TransactionOk hashtext sha256 log.committed new)
    (hlocks : forall t' tx', t' ≠ t -> log.txs.get t' = some tx' ->
      forall key, key ∈ new.locks -> key ∉ tx'.locks) :
    EventLogOk hashtext sha256 { log with txs := log.txs.set t (some new) } := by
  refine ⟨h.inScope, h.chain, ?_, ?_⟩
  · exact Table.forall_get_set_some h.transactions hok
  · refine Table.pairwise_get_set (R := fun tx tx' : LogTransaction =>
      forall key, key ∈ tx.locks -> key ∉ tx'.locks)
      (fun _ _ hs key hkey hkey' => hs key hkey' hkey) h.exclusive ?_
    intro t' tx' hne hget key hkey hkey'
    exact hlocks t' tx' hne hget key hkey' hkey

theorem EventLogOk.advance {t : Nat}
    {tx tx' : LogTransaction} (hget : log.txs.get t = some tx)
    (hadvance : Advance hashtext sha256 log t tx tx') :
    EventLogOk hashtext sha256 { log with txs := log.txs.set t (some tx') } := by
  refine h.setTransaction ((h.transactions t tx hget).advance hadvance) ?_
  intro t' other hne hother key hkey
  have hbefore : forall k, k ∈ tx.locks -> k ∉ other.locks :=
    h.exclusive t t' tx other (Ne.symm hne) hget hother
  cases hadvance with
  | lock hfree hscope hlatest hrows =>
      rcases List.mem_cons.mp hkey with hnew | hold
      · rw [hnew]
        exact hfree (t', other) (Table.mem_rows.mpr hother) hne
      · exact hbefore key hold
  | move | append => exact hbefore key hkey

theorem EventLogOk.rollback
    (t : Nat) : EventLogOk hashtext sha256 { log with txs := log.txs.set t none } := by
  refine ⟨h.inScope, h.chain, ?_, ?_⟩
  · intro t' tx hget
    exact h.transactions t' tx (Table.get_of_get_set_none hget).2
  · intro t1 t2 tx tx' hne hget hget'
    exact h.exclusive t1 t2 tx tx' hne (Table.get_of_get_set_none hget).2
      (Table.get_of_get_set_none hget').2

theorem EventLogOk.commit {t : Nat}
    (hget : log.txs.get t = some tx) :
    EventLogOk hashtext sha256
      { committed := log.committed ++ tx.events, txs := log.txs.set t none } := by
  have htx := h.transactions t tx hget
  have hclosed := h.rollback t
  refine ⟨?_, htx.chain, ?_, hclosed.exclusive⟩
  · exact List.forall_mem_append.mpr ⟨h.inScope, htx.inScope⟩
  · intro t' other hother
    rcases Table.get_of_get_set_none hother with ⟨hne, hold⟩
    refine (hclosed.transactions t' other hother).commit_other htx ?_
    exact h.exclusive t t' tx other (Ne.symm hne) hget hold

end

/-- What a step of the log does. -/
inductive LogStep (hashtext : String -> Int) (sha256 : Sha256) (log : EventLog) :
    EventLog -> Prop where
  | begin (t : Nat) : LogStep hashtext sha256 log
      { log with txs := log.txs.set t (some LogTransaction.fresh) }
  | statement {t : Nat} {tx tx' : LogTransaction} {statement : LogStatement}
      (hget : log.txs.get t = some tx)
      (hadvance : log.advance hashtext sha256 t tx statement tx.phase = some tx') :
      LogStep hashtext sha256 log { log with txs := log.txs.set t (some tx') }
  | commit {t : Nat} {tx : LogTransaction} (hget : log.txs.get t = some tx) :
      LogStep hashtext sha256 log
        { committed := log.committed ++ tx.events, txs := log.txs.set t none }
  | rollback (t : Nat) :
      LogStep hashtext sha256 log { log with txs := log.txs.set t none }

theorem logStep_of_step {log log' : EventLog} {label : LogLabel}
    (h : log.step hashtext sha256 label = some log') : LogStep hashtext sha256 log log' := by
  cases label with
  | begin t =>
      simp only [EventLog.step] at h
      split at h
      · cases h
        exact LogStep.begin t
      · cases h
  | statement t statement =>
      simp only [EventLog.step] at h
      split at h
      · cases h
      · rename_i tx hget
        rcases Option.map_eq_some_iff.mp h with ⟨tx', hadvance, hlog⟩
        subst hlog
        exact LogStep.statement hget hadvance
  | commit t =>
      simp only [EventLog.step] at h
      split at h
      · cases h
      · rename_i tx hget
        split at h
        · cases h
          exact LogStep.commit hget
        · cases h
  | rollback t =>
      simp only [EventLog.step] at h
      split at h
      · cases h
      · cases h
        exact LogStep.rollback t

theorem EventLogOk.step {log log' : EventLog} {label : LogLabel}
    (h : EventLogOk hashtext sha256 log)
    (hstep : log.step hashtext sha256 label = some log') :
    EventLogOk hashtext sha256 log' := by
  cases logStep_of_step hstep with
  | begin t =>
      refine h.setTransaction (TransactionOk.fresh h.chain) ?_
      intro t' tx' _ _ key hkey
      cases hkey
  | statement hget hadvance => exact h.advance hget (EventLog.advance_cases hadvance)
  | commit hget => exact h.commit hget
  | rollback t => exact h.rollback t

theorem eventLogOk_of_reachable
    (h : (eventLogSystem hashtext sha256).Reachable log) :
    EventLogOk hashtext sha256 log := by
  refine System.Reachable.invariant ?_ ?_ h
  · intro log hstart
    cases hstart
    exact EventLogOk.empty
  · intro log label log' hok hstep
    exact hok.step hstep

end

/-!
# Verification of committed scopes
-/

/-- The query of a scope's events, in `(created_at, id)` order. -/
def EventLog.scopeRows (log : EventLog) (scope : String) : List Event :=
  orderByAsc Event.rowKey (scopeEvents scope log.committed)

/-- The rows a query returns for stored rows, each with its payload re-read. -/
def ReadBack (stored read : List Event) : Prop :=
  List.Forall₂ SameRow stored read

theorem ReadBack.refl (stored : List Event) : ReadBack stored stored :=
  List.forall₂_same.mpr (fun event _ => SameRow.refl event)

theorem ReadBack.createdAt_eq {stored read : List Event} (h : ReadBack stored read) :
    read.map Event.createdAt = stored.map Event.createdAt := by
  induction h with
  | nil => rfl
  | cons hrow _ ih => rw [List.map_cons, List.map_cons, ih, hrow.rest]

theorem ReadBack.increasing {stored read : List Event} (h : ReadBack stored read)
    (hstored : Increasing Event.createdAt stored) : Increasing Event.createdAt read := by
  have hmap : (stored.map Event.createdAt).Pairwise (fun a b => a < b) :=
    List.pairwise_map.mpr hstored
  rw [← h.createdAt_eq] at hmap
  exact List.pairwise_map.mp hmap

/--
Whatever the transactions do and whatever their clocks say, every committed event is
in the scope of its channel, and the committed events of a scope carry increasing
timestamps and pass verification.
-/
theorem committed_scope_verifies (hashtext : String -> Int) (sha256 : Sha256)
    (log : EventLog) (hlog : (eventLogSystem hashtext sha256).Reachable log) :
    (forall event, event ∈ log.committed ->
      event ∈ log.scopeRows (integrityScopeForEvent event.channelId)) ∧
    forall scope read, ReadBack (log.scopeRows scope) read ->
      Increasing Event.createdAt read ∧
        (verifyEvents sha256 scope read).valid = true := by
  have hok := eventLogOk_of_reachable hlog
  constructor
  · intro event hevent
    apply (orderByAsc_perm _ _).mem_iff.mpr
    exact List.mem_filter.mpr ⟨hevent, decide_eq_true (hok.inScope event hevent)⟩
  · intro scope read hread
    have hchain := hok.chain scope
    have hrows : log.scopeRows scope = scopeEvents scope log.committed :=
      orderByAsc_of_increasing hchain.increasing_rowKey
    rw [hrows] at hread
    exact ⟨hread.increasing hchain.increasing,
      verifyEvents_valid.mpr (hchain.linked.of_sameRows hread)⟩

/-- A request and the worker write to one channel at the same clock reading. -/
def sharedChannelRun : List LogLabel :=
  [LogLabel.begin 0,
    LogLabel.begin 1,
    LogLabel.statement 1 (LogStatement.draftDelivery
      ⟨"broker.published", some 7, samplePayload, 2, 5⟩),
    LogLabel.statement 0 (LogStatement.lockScope
      ⟨"message.published", samplePayload, some 7, some 9⟩),
    LogLabel.statement 0 (LogStatement.insertEvent 1 5),
    LogLabel.statement 0 LogStatement.readLatest,
    LogLabel.statement 0 LogStatement.attachIntegrity,
    LogLabel.commit 0,
    LogLabel.statement 1 LogStatement.lockDelivery,
    LogLabel.statement 1 LogStatement.readLatestDelivery,
    LogLabel.statement 1 LogStatement.insertDelivery,
    LogLabel.commit 1]

theorem sharedChannelRun_verifies :
    exists log, (eventLogSystem (fun scope => scope.length) sha256).Reachable log ∧
      log.committed.map (fun event => (event.id, event.createdAt.val)) = [(1, 5), (2, 6)] ∧
      forall event, event ∈ log.committed ->
        (verifyEvents sha256 (integrityScopeForEvent event.channelId)
          (log.scopeRows (integrityScopeForEvent event.channelId))).valid = true := by
  have hrun : (sharedChannelRun.foldlM
      (EventLog.step (fun scope => scope.length) sha256)
      EventLog.empty).map
        (fun log => log.committed.map (fun event => (event.id, event.createdAt.val)))
      = some [(1, 5), (2, 6)] := by
    decide +kernel
  rcases System.exists_reachable_of_run
    (M := eventLogSystem (fun scope => scope.length) sha256)
    (fun _ _ _ hstep => hstep) rfl hrun with ⟨log, hreach, hview⟩
  refine ⟨log, hreach, hview, ?_⟩
  intro event _
  exact ((committed_scope_verifies _ _ log hreach).2 _ _ (ReadBack.refl _)).2

end MessagingSystem
