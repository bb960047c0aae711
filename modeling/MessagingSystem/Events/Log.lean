import MessagingSystem.Events.Writers
import MessagingSystem.Foundation.Table
import MessagingSystem.Foundation.Transition

/-!
# The event log under concurrent transactions

Any number of transactions append events at the same time.  The step of the system
is one SQL statement of one transaction: the advisory lock, the insert, the
predecessor query, the update.  A transaction sees the committed rows and its own
rows.  Its locks last until it commits or rolls back, and it can roll back at any
point.
-/

namespace MessagingSystem

open Foundation

/-- How far a transaction is in the writer it is running. -/
inductive LogPhase where
  | idle
  | locked (call : LogCall)
  | inserted (event : Event)
  | found (event : Event) (latest : Option Event)
  | drafted (draft : DeliveryDraft)
  | draftLocked (draft : DeliveryDraft)
  | draftFound (draft : DeliveryDraft) (latest : Option Event)
  | failed

/-- The row that `log_event` has flushed and not yet hashed. -/
def LogPhase.rows : LogPhase -> List Event
  | inserted event => [event]
  | found event _ => [event]
  | _ => []

structure LogTransaction where
  events : List Event
  locks : List Int
  phase : LogPhase

def LogTransaction.fresh : LogTransaction where
  events := []
  locks := []
  phase := LogPhase.idle

def LogTransaction.rows (tx : LogTransaction) : List Event :=
  tx.events ++ tx.phase.rows

structure EventLog where
  committed : List Event
  txs : Table Nat LogTransaction

def EventLog.empty : EventLog where
  committed := []
  txs := Table.empty

/-- The advisory lock is held by no other transaction. -/
def EventLog.LockFree (log : EventLog) (t : Nat) (key : Int) : Prop :=
  forall row, row ∈ log.txs.rows -> row.1 ≠ t -> key ∉ row.2.locks

instance (log : EventLog) (t : Nat) (key : Int) : Decidable (log.LockFree t key) :=
  inferInstanceAs (Decidable (forall row, row ∈ log.txs.rows -> row.1 ≠ t ->
    key ∉ row.2.locks))

/-- The primary key is not taken. -/
def EventLog.IdFree (log : EventLog) (id : Uuid) : Prop :=
  (forall event, event ∈ log.committed -> event.id ≠ id) ∧
    forall row, row ∈ log.txs.rows -> forall event, event ∈ row.2.rows -> event.id ≠ id

instance (log : EventLog) (id : Uuid) : Decidable (log.IdFree id) :=
  inferInstanceAs (Decidable ((forall event, event ∈ log.committed -> event.id ≠ id) ∧
    forall row, row ∈ log.txs.rows -> forall event, event ∈ row.2.rows -> event.id ≠ id))

/-!
# Statements
-/

inductive LogStatement where
  | lockScope (call : LogCall)
  | insertEvent (id : Uuid) (now : Instant)
  | readLatest
  | attachIntegrity
  | draftDelivery (draft : DeliveryDraft)
  | lockDelivery
  | readLatestDelivery
  | insertDelivery

/-- An exception of the writer; all that is left to the transaction is to roll back. -/
def LogTransaction.fail (tx : LogTransaction) : LogTransaction :=
  { tx with phase := LogPhase.failed }

def LogTransaction.lock (tx : LogTransaction) (key : Int) (phase : LogPhase) :
    LogTransaction :=
  { tx with locks := key :: tx.locks, phase := phase }

def LogTransaction.move (tx : LogTransaction) (phase : LogPhase) : LogTransaction :=
  { tx with phase := phase }

/-- The row is complete and the writer returns. -/
def LogTransaction.append (tx : LogTransaction) : Option Event -> LogTransaction
  | some event => { tx with events := tx.events ++ [event], phase := LogPhase.idle }
  | none => tx.fail

section

variable (hashtext : String -> Int) (sha256 : Sha256)

/-- One statement of transaction `t`; a statement that has to wait is not enabled. -/
def EventLog.advance (log : EventLog) (t : Nat) (tx : LogTransaction) :
    LogStatement -> LogPhase -> Option LogTransaction
  | LogStatement.lockScope call, LogPhase.idle =>
      if log.LockFree t (hashtext call.scope) then
        some (tx.lock (hashtext call.scope) (LogPhase.locked call))
      else none
  | LogStatement.insertEvent id now, LogPhase.locked call =>
      if log.IdFree id then some (tx.move (LogPhase.inserted (call.row id now)))
      else none
  | LogStatement.readLatest, LogPhase.inserted event =>
      some (tx.move (LogPhase.found event (latestIntegrityEvent (log.committed ++ tx.rows)
        (integrityScopeForEvent event.channelId))))
  | LogStatement.attachIntegrity, LogPhase.found event latest =>
      some (tx.append (attachIntegrity sha256 (integrityScopeForEvent event.channelId)
        latest event))
  | LogStatement.draftDelivery draft, LogPhase.idle =>
      some (tx.move (LogPhase.drafted draft))
  | LogStatement.lockDelivery, LogPhase.drafted draft =>
      if log.LockFree t (hashtext draft.scope) then
        some (tx.lock (hashtext draft.scope) (LogPhase.draftLocked draft))
      else none
  | LogStatement.readLatestDelivery, LogPhase.draftLocked draft =>
      some (tx.move (LogPhase.draftFound draft
        (latestIntegrityEvent (log.committed ++ tx.rows) draft.scope)))
  | LogStatement.insertDelivery, LogPhase.draftFound draft latest =>
      if log.IdFree draft.eventId then
        some (tx.append (insertDeliveryEvent sha256 latest draft))
      else none
  | _, _ => none

inductive LogLabel where
  | begin (t : Nat)
  | statement (t : Nat) (statement : LogStatement)
  | commit (t : Nat)
  | rollback (t : Nat)

/-- A transaction commits between two writer calls, never inside one. -/
def LogTransaction.commits (tx : LogTransaction) : Bool :=
  match tx.phase with
  | LogPhase.idle => true
  | _ => false

def EventLog.step (log : EventLog) : LogLabel -> Option EventLog
  | LogLabel.begin t =>
      match log.txs.get t with
      | none => some { log with txs := log.txs.set t (some LogTransaction.fresh) }
      | some _ => none
  | LogLabel.statement t statement =>
      match log.txs.get t with
      | none => none
      | some tx =>
          (log.advance hashtext sha256 t tx statement tx.phase).map fun tx' =>
            { log with txs := log.txs.set t (some tx') }
  | LogLabel.commit t =>
      match log.txs.get t with
      | none => none
      | some tx =>
          if tx.commits then
            some { committed := log.committed ++ tx.events, txs := log.txs.set t none }
          else none
  | LogLabel.rollback t =>
      match log.txs.get t with
      | none => none
      | some _ => some { log with txs := log.txs.set t none }

def eventLogSystem : System EventLog LogLabel where
  start log := log = EventLog.empty
  step log label log' := log.step hashtext sha256 label = some log'

end

/-!
# What a statement does

A statement takes one lock, or moves the transaction on, or completes one row that
continues the chain after the predecessor the transaction has read.
-/

variable {hashtext : String -> Int} {sha256 : Sha256} {log : EventLog} {tx : LogTransaction}

/-- The scope whose lock the phase relies on. -/
def LogPhase.scope : LogPhase -> Option String
  | locked call => some call.scope
  | inserted event => some (integrityScopeForEvent event.channelId)
  | found event _ => some (integrityScopeForEvent event.channelId)
  | draftLocked draft => some draft.scope
  | draftFound draft _ => some draft.scope
  | _ => none

/-- The scope and the predecessor the phase relies on. -/
def LogPhase.latest : LogPhase -> Option (String × Option Event)
  | found event latest => some (integrityScopeForEvent event.channelId, latest)
  | draftFound draft latest => some (draft.scope, latest)
  | _ => none

def LogPhase.Unhashed (phase : LogPhase) : Prop :=
  forall event, event ∈ phase.rows -> event.integrityScope = none

theorem LogPhase.scope_of_latest {phase : LogPhase} {scope : String}
    {latest : Option Event} (h : phase.latest = some (scope, latest)) :
    phase.scope = some scope := by
  cases phase with
  | found | draftFound =>
      cases h
      rfl
  | idle | locked | inserted | drafted | draftLocked | failed => cases h

inductive Advance (hashtext : String -> Int) (sha256 : Sha256) (log : EventLog) (t : Nat)
    (tx : LogTransaction) : LogTransaction -> Prop where
  | lock {scope : String} {phase : LogPhase}
      (hfree : log.LockFree t (hashtext scope)) (hscope : phase.scope = some scope)
      (hlatest : phase.latest = none) (hrows : phase.rows = []) :
      Advance hashtext sha256 log t tx (tx.lock (hashtext scope) phase)
  | move {phase : LogPhase}
      (hscope : forall scope, phase.scope = some scope -> tx.phase.scope = some scope)
      (hlatest : forall scope latest, phase.latest = some (scope, latest) ->
        latest = latestIntegrityEvent (log.committed ++ tx.rows) scope)
      (hrows : tx.phase.Unhashed -> phase.Unhashed) :
      Advance hashtext sha256 log t tx (tx.move phase)
  | append {latest : Option Event} {event : Event}
      (hlatest : tx.phase.latest
        = some (integrityScopeForEvent event.channelId, latest))
      (hevent : Continues sha256 latest event) :
      Advance hashtext sha256 log t tx (tx.append (some event))

theorem Advance.fail {t : Nat} : Advance hashtext sha256 log t tx tx.fail := by
  refine Advance.move ?_ ?_ ?_
  · intro scope h
    cases h
  · intro scope latest h
    cases h
  · intro _ event hevent
    cases hevent

theorem Advance.of_append {t : Nat} {scope : String} {latest row : Option Event}
    (hlatest : tx.phase.latest = some (scope, latest))
    (hrow : forall event, row = some event -> Continues sha256 latest event ∧
      integrityScopeForEvent event.channelId = scope) :
    Advance hashtext sha256 log t tx (tx.append row) := by
  cases row with
  | none => exact Advance.fail
  | some event =>
      rcases hrow event rfl with ⟨hcontinues, hscope⟩
      exact Advance.append (hscope ▸ hlatest) hcontinues

theorem EventLog.advance_cases {t : Nat} {tx' : LogTransaction} {statement : LogStatement}
    (h : log.advance hashtext sha256 t tx statement tx.phase = some tx') :
    Advance hashtext sha256 log t tx tx' := by
  generalize hphase : tx.phase = phase at h
  unfold EventLog.advance at h
  split at h
  · split at h
    · rename_i hfree
      cases h
      exact Advance.lock hfree rfl rfl rfl
    · cases h
  · rename_i id now call
    split at h
    · cases h
      refine Advance.move ?_ ?_ ?_
      · intro scope hscope
        rw [hphase]
        exact hscope
      · intro scope latest hlatest
        cases hlatest
      · intro _ event hevent
        rw [List.mem_singleton.mp hevent]
        rfl
    · cases h
  · cases h
    refine Advance.move ?_ ?_ ?_
    · intro scope hscope
      rw [hphase]
      exact hscope
    · intro scope latest hlatest
      cases hlatest
      rfl
    · intro hunhashed
      rw [hphase] at hunhashed
      exact hunhashed
  · cases h
    refine Advance.of_append (by rw [hphase]; rfl) ?_
    intro event hrow
    rcases attachIntegrity_continues hrow with ⟨hcontinues, hchannel, _⟩
    exact ⟨hcontinues, by rw [hchannel]⟩
  · cases h
    refine Advance.move ?_ ?_ ?_
    · intro scope hscope
      cases hscope
    · intro scope latest hlatest
      cases hlatest
    · intro _ event hevent
      cases hevent
  · split at h
    · rename_i hfree
      cases h
      exact Advance.lock hfree rfl rfl rfl
    · cases h
  · cases h
    refine Advance.move ?_ ?_ ?_
    · intro scope hscope
      rw [hphase]
      exact hscope
    · intro scope latest hlatest
      cases hlatest
      rfl
    · intro _ event hevent
      cases hevent
  · split at h
    · cases h
      refine Advance.of_append (by rw [hphase]; rfl) ?_
      intro event hrow
      rcases insertDeliveryEvent_continues hrow with ⟨hcontinues, hchannel, _⟩
      rw [hchannel, DeliveryDraft.scope_eq]
      exact ⟨hcontinues, rfl⟩
    · cases h
  · cases h

end MessagingSystem
