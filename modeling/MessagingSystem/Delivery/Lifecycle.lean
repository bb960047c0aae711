import MessagingSystem.Channels.System
import MessagingSystem.Delivery.Outbox

/-!
# The lifecycle of an outbox row

What a row's committed status may become.  A worker keeps its row locked from the time
it looks at it until it commits, and so moves the row from the status it saw.  An
operator does not: a row that is published between the look and the write is pending
again afterwards.  Apart from such a write every run follows the lifecycle.
-/

namespace MessagingSystem

open Foundation

variable {label : OutboxLabel} {record : DeliveryRow} {i : Nat}

/-!
# The lifecycle
-/

def OutboxStatus.mayBecome : OutboxStatus -> OutboxStatus -> Bool
  | OutboxStatus.pending, OutboxStatus.published => true
  | OutboxStatus.pending, OutboxStatus.retryScheduled => true
  | OutboxStatus.pending, OutboxStatus.deadLettered => true
  | OutboxStatus.retryScheduled, OutboxStatus.published => true
  | OutboxStatus.retryScheduled, OutboxStatus.retryScheduled => true
  | OutboxStatus.retryScheduled, OutboxStatus.deadLettered => true
  | OutboxStatus.retryScheduled, OutboxStatus.pending => true
  | OutboxStatus.deadLettered, OutboxStatus.pending => true
  | _, _ => false

/-- Every step keeps the committed status of a row or moves it along the lifecycle. -/
def FollowsLifecycle {M : System OutboxState OutboxLabel} (e : M.Execution) : Prop :=
  forall n, n < e.length -> forall (i : Nat) (record : DeliveryRow),
    (e.stateAt n).rows[i]? = some record ->
    exists record' : DeliveryRow, (e.stateAt (n + 1)).rows[i]? = some record' ∧
      (record'.status = record.status ∨ record.status.mayBecome record'.status = true)

/-- A row that is published stays so, and no worker takes it again. -/
def PublishedIsFinal {M : System OutboxState OutboxLabel} (e : M.Execution) : Prop :=
  forall m n, m ≤ n -> n ≤ e.length -> forall (i : Nat) (record : DeliveryRow),
    (e.stateAt m).rows[i]? = some record -> record.status = OutboxStatus.published ->
      (exists record' : DeliveryRow, (e.stateAt n).rows[i]? = some record' ∧
        record'.status = OutboxStatus.published) ∧
      (n < e.length -> forall w now, e.labelAt n ≠ OutboxLabel.pick w i now)

/-- The condition on a run: no manual retry commits the reset of a row that is published. -/
def NoResetOfPublished (s : OutboxState) : OutboxLabel -> Prop
  | OutboxLabel.commitRetry o _ =>
      forall p, p ∈ s.operators.rows -> p.1 = o -> forall r, r ∈ p.2.resets ->
        s.rows[r.1]?.map (fun record => record.status) ≠ some OutboxStatus.published
  | _ => True

instance (s : OutboxState) (label : OutboxLabel) : Decidable (NoResetOfPublished s label) := by
  unfold NoResetOfPublished
  split <;> infer_instance

/-!
# Rows under lock
-/

/-- What holds of every reachable state, whatever the operators do. -/
structure OutboxOk (s : OutboxState) : Prop where
  /-- A worker's row is still as the worker read it. -/
  held : forall w worker, s.workers.get w = some worker ->
    exists record, s.rows[worker.row]? = some record ∧ record.IsDue worker.now ∧
      worker.draft = record.markPublishing worker.now
  apart : forall v w a b, s.workers.get v = some a -> s.workers.get w = some b ->
    a.row = b.row -> v = w
  unflushed : forall w worker o operator, s.workers.get w = some worker ->
    s.operators.get o = some operator -> worker.row ∉ operator.flushed

/-- How a step changes one row. -/
inductive RowChange (settings : DeliverySettings) (s : OutboxState) (i : Nat)
    (record : DeliveryRow) : OutboxLabel -> DeliveryRow -> Prop where
  | kept {label : OutboxLabel} : RowChange settings s i record label record
  | finished {w : Nat} {worker : DeliveryWorker} (hworker : s.workers.get w = some worker)
      (hrow : worker.row = i) (hsent : worker.sent = true) (hdue : record.IsDue worker.now) :
      RowChange settings s i record (OutboxLabel.finish w)
        ((record.markPublishing worker.now).markPublished worker.now)
  | failed {w : Nat} {error : String} {worker : DeliveryWorker} {record' : DeliveryRow}
      (hworker : s.workers.get w = some worker) (hrow : worker.row = i)
      (hdue : record.IsDue worker.now)
      (hfailed : (record.markPublishing worker.now).handlePublishFailure settings error
        worker.now = some record') :
      RowChange settings s i record (OutboxLabel.fail w error) record'
  | reset {o : Nat} {now : Instant} {operator : ManualRetry} {record' : DeliveryRow}
      (hoperator : s.operators.get o = some operator)
      (hflushed : i ∈ operator.flushed) (hreset : i ∈ operator.resets.map Prod.fst)
      (hstatus : record'.status = record.status ∨ record'.status = OutboxStatus.pending) :
      RowChange settings s i record (OutboxLabel.commitRetry o now) record'

section

variable {settings : DeliverySettings} {s s' : OutboxState} {w : Nat} {now : Instant}

theorem OutboxState.RowFree.worker {row : Nat} (h : s.RowFree row) {worker : DeliveryWorker}
    (hworker : s.workers.get w = some worker) : worker.row ≠ row :=
  h.1 (w, worker) (Table.mem_rows.mpr hworker)

theorem OutboxState.RowFree.operator {row : Nat} (h : s.RowFree row) {o : Nat}
    {operator : ManualRetry} (hoperator : s.operators.get o = some operator) :
    row ∉ operator.flushed :=
  h.2 (o, operator) (Table.mem_rows.mpr hoperator)

theorem resetForManualRetry_status (loaded record : DeliveryRow) (now : Instant) :
    (loaded.resetForManualRetry now record).status = record.status ∨
      (loaded.resetForManualRetry now record).status = OutboxStatus.pending := by
  by_cases h : loaded.status = OutboxStatus.pending
  · left
    show (changed loaded.status OutboxStatus.pending).getD record.status = record.status
    rw [h]
    rfl
  · right
    show (changed loaded.status OutboxStatus.pending).getD record.status = OutboxStatus.pending
    rw [changed_of_ne (fun heq => h heq.symm)]
    rfl

/-- The rows that a manual retry writes are the ones it loaded. -/
theorem getElem?_resetRows {rows : List DeliveryRow} {resets : List (Nat × DeliveryRow)}
    (h : rows[i]? = some record) :
    exists record', (OutboxState.resetRows rows now resets)[i]? = some record' ∧
      (record' = record ∨ i ∈ resets.map Prod.fst ∧
        (record'.status = record.status ∨ record'.status = OutboxStatus.pending)) := by
  induction resets generalizing rows record with
  | nil => exact ⟨record, h, Or.inl rfl⟩
  | cons r resets ih =>
      have hmodify : (rows.modify r.1 (r.2.resetForManualRetry now))[i]? =
          some (if r.1 = i then r.2.resetForManualRetry now record else record) := by
        rw [List.getElem?_modify, h]
        split
        · rfl
        · rfl
      rcases ih hmodify with ⟨record', hrow, hchange⟩
      refine ⟨record', hrow, ?_⟩
      by_cases heq : r.1 = i
      · right
        refine ⟨List.mem_cons.mpr (Or.inl heq.symm), ?_⟩
        rw [if_pos heq] at hchange
        have hfirst := resetForManualRetry_status r.2 record now
        rcases hchange with hsame | ⟨_, hstatus | hpending⟩
        · rw [hsame]
          exact hfirst
        · rw [hstatus]
          exact hfirst
        · exact Or.inr hpending
      · rw [if_neg heq] at hchange
        rcases hchange with hsame | ⟨hmem, hstatus⟩
        · exact Or.inl hsame
        · exact Or.inr ⟨List.mem_cons_of_mem _ hmem, hstatus⟩

/-- The row a worker writes changes, and the others stay. -/
theorem rowChange_of_set (hrow : s.rows[i]? = some record) {row : Nat} {new : DeliveryRow}
    (hnew : row = i -> RowChange settings s i record label new) :
    exists record', (s.rows.set row new)[i]? = some record' ∧
      RowChange settings s i record label record' := by
  by_cases heq : row = i
  · refine ⟨new, ?_, hnew heq⟩
    rw [heq, List.getElem?_set_self (List.getElem?_eq_some_iff.mp hrow).1]
  · refine ⟨record, ?_, RowChange.kept⟩
    rw [List.getElem?_set_ne heq, hrow]

/-- One row before and after a step. -/
theorem OutboxOk.rowChange (hok : OutboxOk s)
    (h : OutboxStep settings s label s')
    (hrow : s.rows[i]? = some record) :
    exists record', s'.rows[i]? = some record' ∧ RowChange settings s i record label record' := by
  cases h with
  | enqueued hstatus =>
      refine ⟨record, ?_, RowChange.kept⟩
      show (s.rows ++ _)[i]? = some record
      rw [List.getElem?_append_left (List.getElem?_eq_some_iff.mp hrow).1, hrow]
  | picked | sent | crashed | loaded | flushed | aborted => exact ⟨record, hrow, RowChange.kept⟩
  | @finished w worker hworker hsent =>
      rcases hok.held w worker hworker with ⟨found, hfound, hdue, hdraft⟩
      refine rowChange_of_set hrow ?_
      intro heq
      rw [heq, hrow] at hfound
      cases hfound
      rw [hdraft]
      exact RowChange.finished hworker heq hsent hdue
  | @failed w error worker record' hworker hfailed =>
      rcases hok.held w worker hworker with ⟨found, hfound, hdue, hdraft⟩
      refine rowChange_of_set hrow ?_
      intro heq
      rw [heq, hrow] at hfound
      cases hfound
      rw [hdraft] at hfailed
      exact RowChange.failed hworker heq hdue hfailed
  | @reset o now operator hoperator hflushed =>
      rcases getElem?_resetRows hrow with ⟨record', hrow', hsame | ⟨hmem, hstatus⟩⟩
      · rw [hsame] at hrow'
        exact ⟨record, hrow', RowChange.kept⟩
      · rcases List.mem_map.mp hmem with ⟨r, hr, heq⟩
        have hlocked : i ∈ operator.flushed := by
          rw [← heq]
          exact hflushed r hr
        exact ⟨record', hrow', RowChange.reset hoperator hlocked hmem hstatus⟩

/-- While a worker has its row locked, the row stays as it is. -/
theorem OutboxOk.rowKept (hok : OutboxOk s) (h : OutboxStep settings s label s')
    {worker : DeliveryWorker} (hworker : s.workers.get w = some worker)
    (hworker' : s'.workers.get w = some worker) (hrow : s.rows[worker.row]? = some record) :
    s'.rows[worker.row]? = some record := by
  have hclosed : forall v (other : DeliveryWorker) closing, s.workers.get v = some other ->
      (s.closeRow v other.row closing).workers.get w = some worker ->
      (s.closeRow v other.row closing).rows[worker.row]? = some record := by
    intro v other closing hother hstays
    have hne : other.row ≠ worker.row := by
      intro hsame
      have hv := hok.apart v w other worker hother hworker hsame
      rw [hv] at hstays
      change (s.workers.set w none).get w = _ at hstays
      rw [Table.get_set_self] at hstays
      cases hstays
    show (s.rows.set other.row closing)[worker.row]? = some record
    rw [List.getElem?_set_ne hne, hrow]
  cases h with
  | enqueued hstatus =>
      show (s.rows ++ _)[worker.row]? = some record
      rw [List.getElem?_append_left (List.getElem?_eq_some_iff.mp hrow).1, hrow]
  | picked | sent | crashed | loaded | flushed | aborted => exact hrow
  | finished hother hsent => exact hclosed _ _ _ hother hworker'
  | failed hother hfailed => exact hclosed _ _ _ hother hworker'
  | reset hoperator hflushed =>
      rcases getElem?_resetRows hrow with ⟨record', hrow', hsame | ⟨hmem, _⟩⟩
      · rw [hsame] at hrow'
        exact hrow'
      · rcases List.mem_map.mp hmem with ⟨r, hr, heq⟩
        have hlocked := hflushed r hr
        rw [heq] at hlocked
        exact absurd hlocked (hok.unflushed w worker _ _ hworker hoperator)

/-- A step that takes no row: workers only leave, operators lock free rows only. -/
theorem OutboxOk.leave (hok : OutboxOk s)
    (h : OutboxStep settings s label s')
    (hworkers : forall w worker, s'.workers.get w = some worker ->
      s.workers.get w = some worker)
    (hoperators : forall o operator, s'.operators.get o = some operator ->
      forall row, row ∈ operator.flushed -> s.RowFree row ∨
        exists before, s.operators.get o = some before ∧ row ∈ before.flushed) :
    OutboxOk s' := by
  constructor
  · intro w worker hworker
    rcases hok.held w worker (hworkers w worker hworker) with ⟨record, hrow, hdue, hdraft⟩
    exact ⟨record, hok.rowKept h (hworkers w worker hworker) hworker hrow, hdue, hdraft⟩
  · intro v w a b ha hb
    exact hok.apart v w a b (hworkers v a ha) (hworkers w b hb)
  · intro w worker o operator hworker hoperator hmem
    have hbefore := hworkers w worker hworker
    rcases hoperators o operator hoperator _ hmem with hfree | ⟨before, hold, hmem⟩
    · exact hfree.worker hbefore rfl
    · exact hok.unflushed w worker o before hbefore hold hmem

theorem OutboxOk.pick (hok : OutboxOk s) {row : Nat} (hrow : s.rows[row]? = some record)
    (hdue : record.IsDue now) (hfree : s.RowFree row) :
    OutboxOk (s.setWorker w (some
      { row := row
        now := now
        draft := record.markPublishing now
        sent := false })) := by
  constructor
  · exact Table.forall_get_set_some hok.held ⟨record, hrow, hdue, rfl⟩
  · intro v v' a b ha hb hsame
    change (s.workers.set w _).get v = _ at ha
    change (s.workers.set w _).get v' = _ at hb
    rw [Table.get_set] at ha hb
    split at ha
    · split at hb
      · rename_i hv hv'
        rw [hv, hv']
      · cases ha
        exact absurd hsame.symm (hfree.worker hb)
    · split at hb
      · cases hb
        exact absurd hsame (hfree.worker ha)
      · exact hok.apart v v' a b ha hb hsame
  · intro v worker o operator hworker hoperator
    revert v worker
    refine Table.forall_get_set_some ?_ (hfree.operator hoperator)
    intro v worker hworker
    exact hok.unflushed v worker o operator hworker hoperator

theorem OutboxOk.send (hok : OutboxOk s) {worker : DeliveryWorker}
    (hworker : s.workers.get w = some worker) : OutboxOk (s.send w worker) := by
  have hrow : forall v other, (s.send w worker).workers.get v = some other ->
      exists before, s.workers.get v = some before ∧ other.row = before.row ∧
        other.now = before.now ∧ other.draft = before.draft := by
    refine Table.forall_get_set_some ?_ ⟨worker, hworker, rfl, rfl, rfl⟩
    intro v other hother
    exact ⟨other, hother, rfl, rfl, rfl⟩
  constructor
  · intro v other hother
    rcases hrow v other hother with ⟨before, hbefore, hsame, hnow, hdraft⟩
    rw [hsame, hnow, hdraft]
    exact hok.held v before hbefore
  · intro v v' a b ha hb hsame
    rcases hrow v a ha with ⟨before, hbefore, hrowa, _⟩
    rcases hrow v' b hb with ⟨before', hbefore', hrowb, _⟩
    rw [hrowa, hrowb] at hsame
    exact hok.apart v v' before before' hbefore hbefore' hsame
  · intro v other o operator hother hoperator
    rcases hrow v other hother with ⟨before, hbefore, hsame, _⟩
    rw [hsame]
    exact hok.unflushed v before o operator hbefore hoperator

theorem OutboxOk.step (hok : OutboxOk s)
    (h : OutboxStep settings s label s') : OutboxOk s' := by
  have hsame : forall o operator, s.operators.get o = some operator ->
      forall row, row ∈ operator.flushed -> s.RowFree row ∨
        exists before, s.operators.get o = some before ∧ row ∈ before.flushed :=
    fun o operator hoperator row hmem => Or.inr ⟨operator, hoperator, hmem⟩
  have hstep := h
  cases h with
  | enqueued hstatus => exact hok.leave hstep (fun _ _ h => h) hsame
  | picked hworker hrow hdue hfree hnext => exact hok.pick hrow hdue hfree
  | sent hworker => exact hok.send hworker
  | finished | failed | crashed =>
      exact hok.leave hstep (fun _ _ hget => (Table.get_of_get_set_none hget).2) hsame
  | loaded hlabel hoperator hresets =>
      apply hok.leave hstep (fun _ _ h => h)
      apply Table.forall_get_set
      · exact hsame
      · intro operator hnew row hmem
        cases hnew
        cases hmem
  | flushed hoperator hfree =>
      apply hok.leave hstep (fun _ _ h => h)
      apply Table.forall_get_set
      · exact hsame
      · intro operator hnew row hmem
        cases hnew
        rcases List.mem_append.mp hmem with hmem | hmem
        · exact Or.inr ⟨_, hoperator, hmem⟩
        · rw [List.mem_singleton.mp hmem]
          exact Or.inl hfree
  | reset | aborted =>
      exact hok.leave hstep (fun _ _ h => h) (fun o operator hget =>
        hsame o operator (Table.get_of_get_set_none hget).2)

theorem outboxOk_empty : OutboxOk OutboxState.empty := by
  constructor
  · intro w worker hworker
    cases hworker
  · intro v w a b ha
    cases ha
  · intro w worker o operator hworker
    cases hworker

/-!
# Runs
-/

theorem handlePublishFailure_status {record failed : DeliveryRow} {error : String}
    (h : record.handlePublishFailure settings error now = some failed) :
    failed.status = OutboxStatus.retryScheduled ∨ failed.status = OutboxStatus.deadLettered := by
  simp only [DeliveryRow.handlePublishFailure] at h
  split at h
  · cases h
    exact Or.inr rfl
  · rcases Option.map_eq_some_iff.mp h with ⟨nextRetryAt, _, heq⟩
    rw [← heq]
    exact Or.inl rfl

theorem DeliveryRow.IsDue.status (h : record.IsDue now) :
    record.status = OutboxStatus.pending ∨ record.status = OutboxStatus.retryScheduled := by
  rcases h with hpending | ⟨hretry, _⟩
  · exact Or.inl hpending
  · exact Or.inr hretry

/-- The statuses at rest: no committed row is left as publishing or failed. -/
def StatusesSettled (s : OutboxState) : Prop :=
  forall (i : Nat) (record : DeliveryRow), s.rows[i]? = some record ->
    record.status ≠ OutboxStatus.publishing ∧ record.status ≠ OutboxStatus.failed

theorem length_resetRows (rows : List DeliveryRow) (now : Instant)
    (resets : List (Nat × DeliveryRow)) :
    (OutboxState.resetRows rows now resets).length = rows.length := by
  induction resets generalizing rows with
  | nil => rfl
  | cons r resets ih =>
      show (OutboxState.resetRows (rows.modify r.1 _) now resets).length = rows.length
      rw [ih, List.length_modify]

/-- A row was there before the step or is a new one. -/
theorem OutboxStep.row_before (h : OutboxStep settings s label s')
    (hrow : s'.rows[i]? = some record) :
    i < s.rows.length ∨ record.status = OutboxStatus.pending := by
  have hlt := (List.getElem?_eq_some_iff.mp hrow).1
  cases h with
  | @enqueued row createdAt hstatus =>
      change (s.rows ++ [DeliveryRow.enqueued row createdAt])[i]? = some record at hrow
      rw [List.getElem?_append] at hrow
      split at hrow
      · exact Or.inl (by assumption)
      · right
        rw [List.mem_singleton.mp (List.mem_of_getElem? hrow)]
        exact hstatus
  | picked | sent | crashed | loaded | flushed | aborted => exact Or.inl hlt
  | finished | failed => exact Or.inl (by rwa [← List.length_set])
  | reset hoperator hflushed => exact Or.inl (by rwa [← length_resetRows])

/-- The lifecycle of one row over one step. -/
theorem RowChange.mayBecome {record record' : DeliveryRow}
    (h : RowChange settings s i record label record')
    (hrow : s.rows[i]? = some record) (hclear : NoResetOfPublished s label)
    (hsettled : StatusesSettled s) :
    record'.status = record.status ∨ record.status.mayBecome record'.status = true := by
  cases h with
  | kept => exact Or.inl rfl
  | finished hworker hsame hsent hdue =>
      right
      show record.status.mayBecome OutboxStatus.published = true
      rcases hdue.status with hstatus | hstatus
      · rw [hstatus]
        rfl
      · rw [hstatus]
        rfl
  | failed hworker hsame hdue hfailed =>
      right
      rcases hdue.status with hstatus | hstatus
      · rcases handlePublishFailure_status hfailed with hfailed | hfailed
        · rw [hstatus, hfailed]
          rfl
        · rw [hstatus, hfailed]
          rfl
      · rcases handlePublishFailure_status hfailed with hfailed | hfailed
        · rw [hstatus, hfailed]
          rfl
        · rw [hstatus, hfailed]
          rfl
  | reset hoperator hflushed hreset hstatus =>
      rcases hstatus with hstatus | hstatus
      · exact Or.inl hstatus
      · rcases List.mem_map.mp hreset with ⟨r, hmem, heq⟩
        have hunpublished := hclear _ (Table.mem_rows.mpr hoperator) rfl r hmem
        rw [heq, hrow] at hunpublished
        rcases hsettled i record hrow with ⟨hpublishing, hfailed⟩
        rw [hstatus]
        cases hbefore : record.status with
        | pending => exact Or.inl rfl
        | publishing => exact absurd hbefore hpublishing
        | published => exact absurd (congrArg some hbefore) hunpublished
        | failed => exact absurd hbefore hfailed
        | retryScheduled => exact Or.inr rfl
        | deadLettered => exact Or.inr rfl

theorem OutboxStatus.settled_of_mayBecome {status status' : OutboxStatus}
    (h : status.mayBecome status' = true) :
    status' ≠ OutboxStatus.publishing ∧ status' ≠ OutboxStatus.failed := by
  constructor
  · intro heq
    rw [heq] at h
    cases status <;> cases h
  · intro heq
    rw [heq] at h
    cases status <;> cases h

/-- What holds of every state of such a run. -/
structure LifecycleOk (s : OutboxState) : Prop where
  rows : OutboxOk s
  settled : StatusesSettled s

theorem LifecycleOk.rowStep (h : LifecycleOk s) (hclear : NoResetOfPublished s label)
    (hstep : OutboxStep settings s label s') (hrow : s.rows[i]? = some record) :
    exists record' : DeliveryRow, s'.rows[i]? = some record' ∧
      (record'.status = record.status ∨ record.status.mayBecome record'.status = true) := by
  rcases h.rows.rowChange hstep hrow with ⟨record', hrow', hchange⟩
  exact ⟨record', hrow', hchange.mayBecome hrow hclear h.settled⟩

theorem LifecycleOk.step (h : LifecycleOk s)
    (hclear : NoResetOfPublished s label) (hstep : OutboxStep settings s label s') :
    LifecycleOk s' := by
  refine ⟨h.rows.step hstep, ?_⟩
  intro i record' hrow'
  rcases hstep.row_before hrow' with hlt | hpending
  · have hrow := List.getElem?_eq_getElem hlt
    rcases h.rowStep hclear hstep hrow with ⟨found, hfound, hstatus | hmoves⟩
    · rw [hrow'] at hfound
      cases hfound
      rw [hstatus]
      exact h.settled i _ hrow
    · rw [hrow'] at hfound
      cases hfound
      exact OutboxStatus.settled_of_mayBecome hmoves
  · rw [hpending]
    exact ⟨by nofun, by nofun⟩

theorem lifecycleOk_of_reachable
    (h : ((outboxSystem settings).restrict NoResetOfPublished).Reachable s) :
    LifecycleOk s := by
  apply h.invariant
  · intro s hstart
    rw [hstart]
    refine ⟨outboxOk_empty, ?_⟩
    intro i record hrow
    cases hrow
  · intro s label t hok hnext
    exact hok.step hnext.1 (outboxStep_of_next hnext.2)

theorem not_pick_of_published (h : OutboxStep settings s label s') (hrow : s.rows[i]? = some record)
    (hpublished : record.status = OutboxStatus.published) (w : Nat) (now : Instant) :
    label ≠ OutboxLabel.pick w i now := by
  intro hlabel
  rw [hlabel] at h
  cases h with
  | picked hworker hfound hdue hfree hnext =>
      rw [hrow] at hfound
      cases hfound
      rcases hdue.status with hstatus | hstatus
      · rw [hstatus] at hpublished
        cases hpublished
      · rw [hstatus] at hpublished
        cases hpublished
  | loaded hretry hoperator hresets => cases hretry

/--
In a run in which no manual retry commits the reset of a row that has been published since it
was loaded, every row follows the lifecycle and a published row is final.
-/
theorem outbox_rows_follow_lifecycle (settings : DeliverySettings)
    (e : ((outboxSystem settings).restrict NoResetOfPublished).Execution) :
    FollowsLifecycle e ∧ PublishedIsFinal e := by
  have hstep : forall n, n < e.length -> LifecycleOk (e.stateAt n) ∧
      OutboxStep settings (e.stateAt n) (e.labelAt n) (e.stateAt (n + 1)) := by
    intro n hn
    exact ⟨lifecycleOk_of_reachable (e.reachable (Nat.le_of_lt hn)),
      outboxStep_of_next (e.step n hn).2⟩
  have hfollows : FollowsLifecycle e := by
    intro n hn i record hrow
    exact (hstep n hn).1.rowStep (e.step n hn).1 (hstep n hn).2 hrow
  refine ⟨hfollows, ?_⟩
  intro m n hmn hn i record hrow hpublished
  -- Nothing follows on published, so the status stays along the run.
  have hstays : exists record' : DeliveryRow, (e.stateAt n).rows[i]? = some record' ∧
      record'.status = OutboxStatus.published := by
    induction n with
    | zero =>
        rw [Nat.le_zero.mp hmn] at hrow
        exact ⟨record, hrow, hpublished⟩
    | succ n ih =>
        rcases Nat.lt_or_eq_of_le hmn with hlt | heq
        · rcases ih (Nat.le_of_lt_succ hlt) (Nat.le_of_lt hn) with ⟨before, hbefore, hstatus⟩
          rcases hfollows n hn i before hbefore with ⟨after, hafter, hsame | hmoves⟩
          · exact ⟨after, hafter, hsame.trans hstatus⟩
          · rw [hstatus] at hmoves
            cases hmoves
        · rw [heq] at hrow
          exact ⟨record, hrow, hpublished⟩
  refine ⟨hstays, ?_⟩
  intro hlt w now
  rcases hstays with ⟨record', hrow', hpublished'⟩
  exact not_pick_of_published (hstep n hlt).2 hrow' hpublished' w now

end

def sampleDeliverySettings : DeliverySettings where
  outboxMaxAttempts := 5
  calculateRetryDelay := fun attemptCount => attemptCount

def sampleOutboxRow : Outbox where
  aggregateType := "channel"
  aggregateId := 3
  channelId := 3
  payload := OutboxPayload.channelDeleted 3 1
  type := "channel_deleted"
  routingKey := "channel.general"
  status := OutboxStatus.pending
  attempts := 0
  maxAttempts := 5

/-- User 1 is a superadmin and channel 3 exists. -/
def operatorDatabase : Database :=
  { Database.empty with
    users := Database.empty.users.set 1 (some { sampleUser "root" with isSuperadmin := true })
    channels := Database.empty.channels.set 3 (some
      { ownerUserId := 1
        name := "General"
        channelSlug := "general"
        description := none
        avatarUrl := none
        visibility := ChannelVisibility.public
        joinMode := ChannelJoinMode.open
        deletedAt := none
        lastSeqId := 0
        membershipGeneration := 1 }) }

/-- The first publish of the row fails. -/
def failedPublish : List OutboxLabel :=
  [OutboxLabel.enqueue sampleOutboxRow 0,
    OutboxLabel.pick 0 0 1,
    OutboxLabel.fail 0 "connection lost"]

/-- The row is published between an operator's look at it and the operator's write. -/
def republishedRun : List OutboxLabel :=
  failedPublish ++
    [OutboxLabel.retryOne 0 operatorDatabase 1 0,
      OutboxLabel.pick 0 0 2000000,
      OutboxLabel.publish 0,
      OutboxLabel.finish 0,
      OutboxLabel.flush 0 0,
      OutboxLabel.commitRetry 0 2000001,
      OutboxLabel.pick 0 0 2000002]

theorem published_row_is_published_again :
    exists e : (outboxSystem sampleDeliverySettings).Execution,
      ¬FollowsLifecycle e ∧ ¬PublishedIsFinal e := by
  let stateAt := System.runStates (OutboxState.next sampleDeliverySettings) OutboxState.empty
    republishedRun
  have hrun : (republishedRun.foldlM (OutboxState.next sampleDeliverySettings)
      OutboxState.empty).isSome = true := by
    decide +kernel
  have hpublished : (stateAt 8).rows[0]?.map (fun record => record.status)
      = some OutboxStatus.published := by
    decide +kernel
  have hpending : (stateAt 9).rows[0]?.map (fun record => record.status)
      = some OutboxStatus.pending := by
    decide +kernel
  have hlength : 9 < republishedRun.length := by
    decide
  rcases Option.isSome_iff_exists.mp hrun with ⟨last, hlast⟩
  rcases Option.map_eq_some_iff.mp hpublished with ⟨record, hrow, hstatus⟩
  rcases Option.map_eq_some_iff.mp hpending with ⟨record', hrow', hstatus'⟩
  refine ⟨System.Execution.ofRun (fun _ _ _ hstep => hstep) rfl hlast (OutboxLabel.crash 0),
    ?_, ?_⟩
  · intro hfollows
    rcases hfollows 8 (Nat.lt_of_succ_lt hlength) 0 record hrow with ⟨found, hfound, hsame | hmoves⟩
    · cases hrow'.symm.trans hfound
      rw [hstatus, hstatus'] at hsame
      cases hsame
    · rw [hstatus] at hmoves
      cases hmoves
  · intro hfinal
    exact (hfinal 8 9 (by decide) (Nat.le_of_lt hlength) 0 record hrow hstatus).2 hlength 0
      ⟨2000002, by decide⟩ rfl

/-- The operator's retry is over before a worker takes the row. -/
def retriedRun : List OutboxLabel :=
  failedPublish ++
    [OutboxLabel.retryOne 0 operatorDatabase 1 0,
      OutboxLabel.flush 0 0,
      OutboxLabel.commitRetry 0 5,
      OutboxLabel.pick 0 0 6,
      OutboxLabel.publish 0,
      OutboxLabel.finish 0]

theorem retriedRun_follows_lifecycle :
    exists e : ((outboxSystem sampleDeliverySettings).restrict NoResetOfPublished).Execution,
      e.length = 9 ∧
      (e.stateAt 9).rows.map (fun record => record.status) = [OutboxStatus.published] ∧
      FollowsLifecycle e ∧ PublishedIsFinal e := by
  have hrun : (retriedRun.foldlM (System.guarded NoResetOfPublished
      (OutboxState.next sampleDeliverySettings)) OutboxState.empty).isSome = true := by
    decide +kernel
  have hpublished : (System.runStates (System.guarded NoResetOfPublished
      (OutboxState.next sampleDeliverySettings)) OutboxState.empty retriedRun 9).rows.map
        (fun record => record.status)
      = [OutboxStatus.published] := by
    decide +kernel
  rcases Option.isSome_iff_exists.mp hrun with ⟨last, hlast⟩
  exact ⟨System.Execution.ofRun (System.step_of_guarded (fun _ _ _ hstep => hstep)) rfl hlast
    (OutboxLabel.crash 0), rfl, hpublished, outbox_rows_follow_lifecycle sampleDeliverySettings _⟩

end MessagingSystem
