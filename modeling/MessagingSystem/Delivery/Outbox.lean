import MessagingSystem.Channels.OutboxService
import MessagingSystem.Foundation.OrderBy
import MessagingSystem.Foundation.Transition

/-!
# The delivery of outbox rows

Workers take one row at a time, publish it and commit what became of it; rows that
another transaction has locked are skipped.  Operators hand failed rows back to the
workers.  They look at the rows without a lock and wait for it only when their
changes are written, by primary key and whatever the row says by then.
-/

namespace MessagingSystem

open Foundation

/-!
# Rows
-/

/-- A row of the outbox with the columns that delivery uses. -/
structure DeliveryRow extends Outbox where
  createdAt : Instant
  updatedAt : Instant
  publishedAt : Option Instant
  nextRetryAt : Option Instant
  deadLetteredAt : Option Instant
  lastError : Option String

structure DeliverySettings where
  outboxMaxAttempts : Nat
  /-- `calculate_retry_delay`, in seconds. -/
  calculateRetryDelay : Nat -> Nat

namespace DeliveryRow

def enqueued (row : Outbox) (createdAt : Instant) : DeliveryRow :=
  { row with
    createdAt := createdAt
    updatedAt := createdAt
    publishedAt := none
    nextRetryAt := none
    deadLetteredAt := none
    lastError := none }

def markPublishing (row : DeliveryRow) (now : Instant) : DeliveryRow :=
  { row with
    status := OutboxStatus.publishing
    updatedAt := now }

def markPublished (row : DeliveryRow) (now : Instant) : DeliveryRow :=
  { row with
    status := OutboxStatus.published
    publishedAt := some now
    nextRetryAt := none
    lastError := none
    deadLetteredAt := none
    updatedAt := now }

def markRetryScheduled (row : DeliveryRow) (error : String) (attemptCount : Nat)
    (nextRetryAt now : Instant) : DeliveryRow :=
  { row with
    status := OutboxStatus.retryScheduled
    attempts := attemptCount
    lastError := some error
    nextRetryAt := some nextRetryAt
    updatedAt := now }

def markDeadLettered (row : DeliveryRow) (error : String) (attemptCount : Nat)
    (now : Instant) : DeliveryRow :=
  { row with
    status := OutboxStatus.deadLettered
    attempts := attemptCount
    lastError := some error
    nextRetryAt := none
    deadLetteredAt := some now
    updatedAt := now }

/-- Nothing when the time of the retry is out of range, which is an error of its own. -/
def handlePublishFailure (settings : DeliverySettings) (row : DeliveryRow) (error : String)
    (now : Instant) : Option DeliveryRow :=
  let attemptCount := row.attempts + 1
  if row.attemptLimit settings.outboxMaxAttempts ≤ attemptCount then
    some (row.markDeadLettered error attemptCount now)
  else
    (now.add? (settings.calculateRetryDelay attemptCount * microsPerSecond)).map
      (fun nextRetryAt => row.markRetryScheduled error attemptCount nextRetryAt now)

/-- The condition of the query by which workers take rows. -/
def IsDue (row : DeliveryRow) (now : Instant) : Prop :=
  row.status = OutboxStatus.pending ∨
    row.status = OutboxStatus.retryScheduled ∧
      exists nextRetryAt, row.nextRetryAt = some nextRetryAt ∧ nextRetryAt ≤ now

instance (row : DeliveryRow) (now : Instant) : Decidable (row.IsDue now) :=
  match h : row.nextRetryAt with
  | none => decidable_of_iff (row.status = OutboxStatus.pending) (by simp [IsDue, h])
  | some nextRetryAt =>
      decidable_of_iff (row.status = OutboxStatus.pending ∨
        row.status = OutboxStatus.retryScheduled ∧ nextRetryAt ≤ now) (by simp [IsDue, h])

/-- `_reset_for_manual_retry`, with the columns that the flush writes. -/
def resetForManualRetry (loaded : DeliveryRow) (now : Instant) (row : DeliveryRow) :
    DeliveryRow :=
  { row with
    status := (changed loaded.status OutboxStatus.pending).getD row.status
    attempts := (changed loaded.attempts 0).getD row.attempts
    nextRetryAt := (changed loaded.nextRetryAt none).getD row.nextRetryAt
    lastError := (changed loaded.lastError none).getD row.lastError
    deadLetteredAt := (changed loaded.deadLetteredAt none).getD row.deadLetteredAt
    updatedAt := (changed loaded.updatedAt now).getD row.updatedAt }

end DeliveryRow

/-!
# Manual retries
-/

def manualRetryStatuses : List OutboxStatus :=
  [OutboxStatus.failed, OutboxStatus.retryScheduled, OutboxStatus.deadLettered]

def canManageDelivery (role : MembershipRole) (adminPermissions : Option Json) : Bool :=
  match role with
  | MembershipRole.owner => true
  | MembershipRole.admin => (normalizeAdminPermissions adminPermissions).canManageMembers
  | _ => false

def getManagedChannelIds (db : Database) (actorUserId : Uuid) :
    Except Failure (List Uuid) := do
  if (db.users.get actorUserId).any (fun actor => actor.isSuperadmin) then
    pure (db.channels.rows.filterMap (fun r => if r.2.deletedAt.isNone then some r.1 else none))
  else do
    let channelIds := db.memberships.rows.filterMap (fun m =>
      if m.1.2 = actorUserId ∧ canManageDelivery m.2.role m.2.adminPermissions = true then
        some m.1.1
      else none)
    require (!channelIds.isEmpty)
      (appError "delivery monitor requires channel owner/admin permissions" 403 "FORBIDDEN")
    pure channelIds

/-- The rows of the given channels, with their numbers. -/
def managedRows (db : Database) (channelIds : List Uuid) (rows : List DeliveryRow) :
    List (Nat × DeliveryRow) :=
  (rows.zipIdx.map Prod.swap).filter (fun r =>
    channelIds.contains r.2.channelId && (db.channels.get r.2.channelId).isSome)

/-- The rows that `retry_one` resets: the one asked for, if it may be retried. -/
def retryOne (db : Database) (rows : List DeliveryRow) (actorUserId : Uuid) (outboxId : Nat) :
    Except Failure (List (Nat × DeliveryRow)) := do
  let channelIds ← getManagedChannelIds db actorUserId
  let row ← orFail ((managedRows db channelIds rows).find? (fun r => r.1 == outboxId))
    (appError "delivery record not found" 404 "NOT_FOUND")
  pure (if manualRetryStatuses.contains row.2.status then [row] else [])

def retryAll (db : Database) (rows : List DeliveryRow) (actorUserId : Uuid) (limit : Nat) :
    Except Failure (List (Nat × DeliveryRow)) := do
  let channelIds ← getManagedChannelIds db actorUserId
  pure ((orderByAsc (fun r : Nat × DeliveryRow => toLex (r.2.updatedAt, r.2.createdAt))
    ((managedRows db channelIds rows).filter (fun r =>
      manualRetryStatuses.contains r.2.status))).take limit)

/-!
# The system
-/

/-- A worker's transaction: its row as it stands in there, and whether it is published. -/
structure DeliveryWorker where
  row : Nat
  now : Instant
  draft : DeliveryRow
  sent : Bool

/-- An operator's transaction: the loaded rows, and those already written and locked. -/
structure ManualRetry where
  resets : List (Nat × DeliveryRow)
  flushed : List Nat

structure Publication where
  row : Nat
  routingKey : String
  payload : OutboxPayload

structure OutboxState where
  rows : List DeliveryRow
  workers : Table Nat DeliveryWorker
  operators : Table Nat ManualRetry
  published : List Publication

inductive OutboxLabel where
  | enqueue (row : Outbox) (createdAt : Instant)
  | pick (w row : Nat) (now : Instant)
  | publish (w : Nat)
  | finish (w : Nat)
  | fail (w : Nat) (error : String)
  | crash (w : Nat)
  | retryOne (o : Nat) (db : Database) (actorUserId : Uuid) (outboxId : Nat)
  | retryAll (o : Nat) (db : Database) (actorUserId : Uuid) (limit : Nat)
  | flush (o row : Nat)
  | commitRetry (o : Nat) (now : Instant)
  | abort (o : Nat)

namespace OutboxState

def empty : OutboxState where
  rows := []
  workers := Table.empty
  operators := Table.empty
  published := []

/-- No transaction has the row locked. -/
def RowFree (s : OutboxState) (row : Nat) : Prop :=
  (forall w, w ∈ s.workers.rows -> w.2.row ≠ row) ∧
    forall o, o ∈ s.operators.rows -> row ∉ o.2.flushed

instance (s : OutboxState) (row : Nat) : Decidable (s.RowFree row) :=
  inferInstanceAs (Decidable ((forall w, w ∈ s.workers.rows -> w.2.row ≠ row) ∧
    forall o, o ∈ s.operators.rows -> row ∉ o.2.flushed))

/-- `ORDER BY created_at ASC LIMIT 1 FOR UPDATE SKIP LOCKED`. -/
def IsNext (s : OutboxState) (row : DeliveryRow) (now : Instant) : Prop :=
  forall other, other ∈ s.rows.zipIdx -> other.1.IsDue now -> s.RowFree other.2 ->
    row.createdAt ≤ other.1.createdAt

instance (s : OutboxState) (row : DeliveryRow) (now : Instant) :
    Decidable (s.IsNext row now) :=
  inferInstanceAs (Decidable (forall other, other ∈ s.rows.zipIdx -> other.1.IsDue now ->
    s.RowFree other.2 -> row.createdAt ≤ other.1.createdAt))

def setWorker (s : OutboxState) (w : Nat) (worker : Option DeliveryWorker) : OutboxState :=
  { s with workers := s.workers.set w worker }

def setOperator (s : OutboxState) (o : Nat) (operator : Option ManualRetry) : OutboxState :=
  { s with operators := s.operators.set o operator }

/-- A row for the broker; announcements of bindings are projected and not published. -/
def publication (row : Nat) (record : DeliveryRow) : List Publication :=
  if record.aggregateType = "broker_binding" then []
  else [{ row := row, routingKey := record.routingKey, payload := record.payload }]

def send (s : OutboxState) (w : Nat) (worker : DeliveryWorker) : OutboxState :=
  { s.setWorker w (some { worker with sent := true }) with
    published := s.published ++ publication worker.row worker.draft }

/-- The worker commits the row and goes on to the next one. -/
def closeRow (s : OutboxState) (w row : Nat) (record : DeliveryRow) : OutboxState :=
  { s.setWorker w none with rows := s.rows.set row record }

def resetRows (rows : List DeliveryRow) (now : Instant) (resets : List (Nat × DeliveryRow)) :
    List DeliveryRow :=
  resets.foldl (fun rows r => rows.modify r.1 (DeliveryRow.resetForManualRetry r.2 now)) rows

/-- Rows to reset make a transaction; without any it is rolled back. -/
def beginRetry (s : OutboxState) (o : Nat) :
    Except Failure (List (Nat × DeliveryRow)) -> Option OutboxState
  | Except.ok (r :: resets) =>
      match s.operators.get o with
      | none => some (s.setOperator o (some { resets := r :: resets, flushed := [] }))
      | some _ => none
  | _ => none

def next (settings : DeliverySettings) (s : OutboxState) : OutboxLabel -> Option OutboxState
  | OutboxLabel.enqueue row createdAt =>
      if row.status = OutboxStatus.pending then
        some { s with rows := s.rows ++ [DeliveryRow.enqueued row createdAt] }
      else none
  | OutboxLabel.pick w row now =>
      match s.workers.get w, s.rows[row]? with
      | none, some record =>
          if record.IsDue now ∧ s.RowFree row ∧ s.IsNext record now then
            some (s.setWorker w (some
              { row := row
                now := now
                draft := record.markPublishing now
                sent := false }))
          else none
      | _, _ => none
  | OutboxLabel.publish w => do
      let worker ← s.workers.get w
      if worker.sent then none else some (s.send w worker)
  | OutboxLabel.finish w => do
      let worker ← s.workers.get w
      if worker.sent then
        some (s.closeRow w worker.row (worker.draft.markPublished worker.now))
      else none
  | OutboxLabel.fail w error => do
      -- A publish can fail here and have reached the broker all the same.
      let worker ← s.workers.get w
      let failed ← worker.draft.handlePublishFailure settings error worker.now
      some (s.closeRow w worker.row failed)
  | OutboxLabel.crash w => do
      let _ ← s.workers.get w
      some (s.setWorker w none)
  | OutboxLabel.retryOne o db actorUserId outboxId =>
      s.beginRetry o (MessagingSystem.retryOne db s.rows actorUserId outboxId)
  | OutboxLabel.retryAll o db actorUserId limit =>
      s.beginRetry o (MessagingSystem.retryAll db s.rows actorUserId limit)
  | OutboxLabel.flush o row => do
      let operator ← s.operators.get o
      if row ∈ operator.resets.map Prod.fst ∧ s.RowFree row then
        some (s.setOperator o (some { operator with flushed := operator.flushed ++ [row] }))
      else none
  | OutboxLabel.commitRetry o now => do
      let operator ← s.operators.get o
      if forall r, r ∈ operator.resets -> r.1 ∈ operator.flushed then
        some { s.setOperator o none with rows := resetRows s.rows now operator.resets }
      else none
  | OutboxLabel.abort o => do
      let _ ← s.operators.get o
      some (s.setOperator o none)

end OutboxState

def outboxSystem (settings : DeliverySettings) : System OutboxState OutboxLabel where
  start s := s = OutboxState.empty
  step s label s' := s.next settings label = some s'

/-!
# What a step does

The steps of the system with their guards, one constructor for each way in which the
state can change.
-/

variable {db : Database} {rows : List DeliveryRow}

def OutboxLabel.isRetry : OutboxLabel -> Bool
  | OutboxLabel.retryOne .. => true
  | OutboxLabel.retryAll .. => true
  | _ => false

inductive OutboxStep (settings : DeliverySettings) (s : OutboxState) :
    OutboxLabel -> OutboxState -> Prop where
  | enqueued {row : Outbox} {createdAt : Instant} (hstatus : row.status = OutboxStatus.pending) :
      OutboxStep settings s (OutboxLabel.enqueue row createdAt)
        { s with rows := s.rows ++ [DeliveryRow.enqueued row createdAt] }
  | picked {w row : Nat} {now : Instant} {record : DeliveryRow}
      (hworker : s.workers.get w = none) (hrow : s.rows[row]? = some record)
      (hdue : record.IsDue now) (hfree : s.RowFree row) (hnext : s.IsNext record now) :
      OutboxStep settings s (OutboxLabel.pick w row now)
        (s.setWorker w (some
          { row := row
            now := now
            draft := record.markPublishing now
            sent := false }))
  | sent {w : Nat} {worker : DeliveryWorker} (hworker : s.workers.get w = some worker) :
      OutboxStep settings s (OutboxLabel.publish w) (s.send w worker)
  | finished {w : Nat} {worker : DeliveryWorker} (hworker : s.workers.get w = some worker)
      (hsent : worker.sent = true) :
      OutboxStep settings s (OutboxLabel.finish w)
        (s.closeRow w worker.row (worker.draft.markPublished worker.now))
  | failed {w : Nat} {error : String} {worker : DeliveryWorker} {record : DeliveryRow}
      (hworker : s.workers.get w = some worker)
      (hfailed : worker.draft.handlePublishFailure settings error worker.now = some record) :
      OutboxStep settings s (OutboxLabel.fail w error) (s.closeRow w worker.row record)
  | crashed {w : Nat} {worker : DeliveryWorker} (hworker : s.workers.get w = some worker) :
      OutboxStep settings s (OutboxLabel.crash w) (s.setWorker w none)
  | loaded {o : Nat} {label : OutboxLabel} {resets : List (Nat × DeliveryRow)}
      (hlabel : label.isRetry = true) (hoperator : s.operators.get o = none)
      (hresets : forall r, r ∈ resets ->
        s.rows[r.1]? = some r.2 ∧ r.2.status ∈ manualRetryStatuses) :
      OutboxStep settings s label
        (s.setOperator o (some { resets := resets, flushed := [] }))
  | flushed {o row : Nat} {operator : ManualRetry} (hoperator : s.operators.get o = some operator)
      (hfree : s.RowFree row) :
      OutboxStep settings s (OutboxLabel.flush o row)
        (s.setOperator o (some { operator with flushed := operator.flushed ++ [row] }))
  | reset {o : Nat} {now : Instant} {operator : ManualRetry}
      (hoperator : s.operators.get o = some operator)
      (hflushed : forall r, r ∈ operator.resets -> r.1 ∈ operator.flushed) :
      OutboxStep settings s (OutboxLabel.commitRetry o now)
        { s.setOperator o none with rows := OutboxState.resetRows s.rows now operator.resets }
  | aborted {o : Nat} {operator : ManualRetry} (hoperator : s.operators.get o = some operator) :
      OutboxStep settings s (OutboxLabel.abort o) (s.setOperator o none)

theorem mem_managedRows {channelIds : List Uuid} {r : Nat × DeliveryRow}
    (h : r ∈ managedRows db channelIds rows) : rows[r.1]? = some r.2 := by
  rcases List.mem_map.mp (List.mem_filter.mp h).1 with ⟨⟨row, i⟩, hmem, heq⟩
  cases heq
  exact List.mem_zipIdx_iff_getElem?.mp hmem

/-- What an operator resets is read from the rows, in a state that may be retried. -/
theorem mem_retryOne {actorUserId : Uuid} {outboxId : Nat} {resets : List (Nat × DeliveryRow)}
    (h : retryOne db rows actorUserId outboxId = Except.ok resets) :
    forall r, r ∈ resets -> rows[r.1]? = some r.2 ∧ r.2.status ∈ manualRetryStatuses := by
  intro r hmem
  rcases bind_eq_ok.mp h with ⟨channelIds, _, h⟩
  rcases bind_eq_ok.mp h with ⟨row, hrow, h⟩
  have hresets := pure_eq_ok.mp h
  split at hresets
  · rename_i hstatus
    rw [← hresets, List.mem_singleton] at hmem
    rw [hmem]
    exact ⟨mem_managedRows (List.mem_of_find?_eq_some (orFail_eq_ok.mp hrow)),
      List.contains_iff_mem.mp hstatus⟩
  · rw [← hresets] at hmem
    cases hmem

theorem mem_retryAll {actorUserId : Uuid} {limit : Nat} {resets : List (Nat × DeliveryRow)}
    (h : retryAll db rows actorUserId limit = Except.ok resets) :
    forall r, r ∈ resets -> rows[r.1]? = some r.2 ∧ r.2.status ∈ manualRetryStatuses := by
  intro r hmem
  rcases bind_eq_ok.mp h with ⟨channelIds, _, h⟩
  rw [← pure_eq_ok.mp h] at hmem
  rcases List.mem_filter.mp ((orderByAsc_perm _ _).mem_iff.mp (List.mem_of_mem_take hmem)) with
    ⟨hrow, hstatus⟩
  exact ⟨mem_managedRows hrow, List.contains_iff_mem.mp hstatus⟩

section

variable {settings : DeliverySettings} {s s' : OutboxState}

theorem outboxStep_of_beginRetry {o : Nat} {label : OutboxLabel}
    {loading : Except Failure (List (Nat × DeliveryRow))} (hlabel : label.isRetry = true)
    (hloading : forall resets, loading = Except.ok resets -> forall r, r ∈ resets ->
      s.rows[r.1]? = some r.2 ∧ r.2.status ∈ manualRetryStatuses)
    (h : s.beginRetry o loading = some s') : OutboxStep settings s label s' := by
  unfold OutboxState.beginRetry at h
  split at h
  · split at h
    · rename_i hoperator
      cases h
      exact OutboxStep.loaded hlabel hoperator (hloading _ rfl)
    · cases h
  · cases h

theorem outboxStep_of_next {label : OutboxLabel} (h : s.next settings label = some s') :
    OutboxStep settings s label s' := by
  cases label with
  | enqueue row createdAt =>
      rcases Option.ite_none_right_eq_some.mp h with ⟨hstatus, h⟩
      cases h
      exact OutboxStep.enqueued hstatus
  | pick w row now =>
      simp only [OutboxState.next] at h
      split at h
      · rename_i record hworker hrow
        split at h
        · rename_i hguard
          cases h
          exact OutboxStep.picked hworker hrow hguard.1 hguard.2.1 hguard.2.2
        · cases h
      · cases h
  | publish w =>
      rcases Option.bind_eq_some_iff.mp h with ⟨worker, hworker, h⟩
      split at h
      · cases h
      · cases h
        exact OutboxStep.sent hworker
  | finish w =>
      rcases Option.bind_eq_some_iff.mp h with ⟨worker, hworker, h⟩
      split at h
      · rename_i hsent
        cases h
        exact OutboxStep.finished hworker hsent
      · cases h
  | fail w error =>
      rcases Option.bind_eq_some_iff.mp h with ⟨worker, hworker, h⟩
      rcases Option.bind_eq_some_iff.mp h with ⟨record, hfailed, h⟩
      cases h
      exact OutboxStep.failed hworker hfailed
  | crash w =>
      rcases Option.bind_eq_some_iff.mp h with ⟨worker, hworker, h⟩
      cases h
      exact OutboxStep.crashed hworker
  | retryOne o db actorUserId outboxId =>
      exact outboxStep_of_beginRetry rfl (fun _ => mem_retryOne) h
  | retryAll o db actorUserId limit =>
      exact outboxStep_of_beginRetry rfl (fun _ => mem_retryAll) h
  | flush o row =>
      rcases Option.bind_eq_some_iff.mp h with ⟨operator, hoperator, h⟩
      split at h
      · rename_i hguard
        cases h
        exact OutboxStep.flushed hoperator hguard.2
      · cases h
  | commitRetry o now =>
      rcases Option.bind_eq_some_iff.mp h with ⟨operator, hoperator, h⟩
      split at h
      · rename_i hflushed
        cases h
        exact OutboxStep.reset hoperator hflushed
      · cases h
  | abort o =>
      rcases Option.bind_eq_some_iff.mp h with ⟨operator, hoperator, h⟩
      cases h
      exact OutboxStep.aborted hoperator

end

end MessagingSystem
