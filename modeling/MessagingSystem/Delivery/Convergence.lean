import MessagingSystem.Delivery.Feed
import MessagingSystem.Delivery.Lifecycle
import MessagingSystem.Messages.Retries

/-!
# Realtime convergence

Requests commit messages and their outbox rows, and workers publish the rows.  Workers
look at the rows in the order in which the transactions began, and a row that could not
be published waits for its retry while later rows are taken.  So an older state of a
message can be published last.  When no row of a message is published before the earlier
rows of that message are done, what is published last is the current message.
-/

namespace MessagingSystem

open Foundation

/-!
# The system
-/

structure FeedState where
  store : Store Database FeedRequest
  outbox : OutboxState

inductive FeedLabel where
  | store (label : StoreLabel FeedRequest OutsideAction) (now : Instant)
  | worker (label : OutboxLabel)

def OutboxLabel.isWorker : OutboxLabel -> Bool
  | OutboxLabel.pick .. => true
  | OutboxLabel.publish _ => true
  | OutboxLabel.finish _ => true
  | OutboxLabel.fail .. => true
  | OutboxLabel.crash _ => true
  | _ => false

def MessageRequest.transactionTime : MessageRequest -> Option Instant
  | MessageRequest.publish env _ _ _ => some env.transactionTime
  | MessageRequest.publishConflict .. => none
  | MessageRequest.edit env _ _ _ _ => some env.transactionTime
  | MessageRequest.delete env _ _ _ => some env.transactionTime

def FeedRequest.transactionTime : FeedRequest -> Option Instant
  | FeedRequest.message request => request.transactionTime
  | FeedRequest.pin env _ _ _ => some env.transactionTime
  | FeedRequest.unpin env _ _ _ => some env.transactionTime

def OutboxState.enqueueAll (s : OutboxState) (rows : List Outbox) (createdAt : Instant) :
    OutboxState :=
  { s with rows := s.rows ++ rows.map (fun row => DeliveryRow.enqueued row createdAt) }

namespace FeedState

variable {label : OutboxLabel}

def empty : FeedState where
  store := { committed := Database.empty, sessions := Table.empty }
  outbox := OutboxState.empty

/-- `created_at` of new rows: when the transaction began that adds them. -/
def createdAt (s : FeedState) (now : Instant) :
    StoreLabel FeedRequest OutsideAction -> Instant
  | StoreLabel.commit t =>
      ((s.store.sessions.get t).bind (fun session => session.request.transactionTime)).getD now
  | _ => now

/-- The rows that a commit adds to the outbox table. -/
def added (s : FeedState) (store : Store Database FeedRequest) : List Outbox :=
  store.committed.outbox.drop s.store.committed.outbox.length

def next (settings : DeliverySettings) (s : FeedState) : FeedLabel -> Option FeedState
  | FeedLabel.store label now =>
      (feedWorkload.next s.store label).map (fun store =>
        { store := store
          outbox := s.outbox.enqueueAll (s.added store) (s.createdAt now label) })
  | FeedLabel.worker label =>
      if label.isWorker then
        (s.outbox.next settings label).map (fun outbox => { s with outbox := outbox })
      else none

end FeedState

def feedSystem (settings : DeliverySettings) : System FeedState FeedLabel where
  start s := s = FeedState.empty
  step s label s' := s.next settings label = some s'

/-!
# Convergence
-/

/--
Once all rows of a message are published, the payload that was published last carries the
message as it is stored.
-/
def Converged (s : FeedState) : Prop :=
  forall id message, s.store.committed.messages.get id = some message ->
    (forall (i : Nat) (record : DeliveryRow), s.outbox.rows[i]? = some record ->
      record.payload.isAbout id = true -> record.status = OutboxStatus.published) ->
    exists publication snapshot,
      (s.outbox.published.filter (fun p => p.payload.isAbout id)).getLast? = some publication ∧
      publication.payload.snapshot = some snapshot ∧ snapshot.Carries message

/-- A worker publishes a message only when the earlier rows of the message are published. -/
def PublishesInOrder (s : OutboxState) : OutboxLabel -> Prop
  | OutboxLabel.publish w =>
      forall v, v ∈ s.workers.rows -> v.1 = w ->
        forall other, other ∈ s.rows.zipIdx -> other.2 < v.2.row ->
          v.2.draft.payload.messageId.isSome = true ->
          other.1.payload.messageId = v.2.draft.payload.messageId ->
          other.1.status = OutboxStatus.published
  | _ => True

instance (s : OutboxState) (label : OutboxLabel) : Decidable (PublishesInOrder s label) := by
  unfold PublishesInOrder
  split <;> infer_instance

def MessagesInOrder (s : FeedState) : FeedLabel -> Prop
  | FeedLabel.worker label => PublishesInOrder s.outbox label
  | FeedLabel.store _ _ => True

instance (s : FeedState) (label : FeedLabel) : Decidable (MessagesInOrder s label) := by
  unfold MessagesInOrder
  split <;> infer_instance

/-!
# Steps of workers
-/

section

variable {settings : DeliverySettings} {s s' : OutboxState} {record record' : DeliveryRow} {i : Nat}

/-- What no worker changes in a row. -/
def Outbox.content (row : Outbox) : String × OutboxPayload :=
  (row.aggregateType, row.payload)

theorem handlePublishFailure_content {failed : DeliveryRow} {error : String} {now : Instant}
    (h : record.handlePublishFailure settings error now = some failed) :
    failed.content = record.content := by
  simp only [DeliveryRow.handlePublishFailure] at h
  split at h
  · cases h
    rfl
  · rcases Option.map_eq_some_iff.mp h with ⟨nextRetryAt, _, heq⟩
    rw [← heq]
    rfl

theorem RowChange.content (hlabel : label.isWorker = true)
    (h : RowChange settings s i record label record') : record'.content = record.content := by
  cases h with
  | kept | finished => rfl
  | failed hworker hrow hdue hfailed => exact handlePublishFailure_content hfailed
  | reset hoperator hflushed hreset hstatus => cases hlabel

theorem RowChange.published (hlabel : label.isWorker = true)
    (h : RowChange settings s i record label record')
    (hpublished : record.status = OutboxStatus.published) :
    record'.status = OutboxStatus.published := by
  have hdue : forall now, ¬record.IsDue now := by
    intro now hdue
    rcases hdue.status with hstatus | hstatus
    · rw [hstatus] at hpublished
      cases hpublished
    · rw [hstatus] at hpublished
      cases hpublished
  cases h with
  | kept => exact hpublished
  | finished hworker hrow hsent hnow => rfl
  | failed hworker hrow hnow hfailed => exact absurd hnow (hdue _)
  | reset hoperator hflushed hreset hstatus => cases hlabel

theorem OutboxStep.length_rows (hlabel : label.isWorker = true)
    (h : OutboxStep settings s label s') : s'.rows.length = s.rows.length := by
  cases h with
  | enqueued | reset => cases hlabel
  | picked | sent | crashed | loaded | flushed | aborted => rfl
  | finished | failed => exact List.length_set

theorem OutboxOk.row_before (hok : OutboxOk s) (hlabel : label.isWorker = true)
    (h : OutboxStep settings s label s') (hrow' : s'.rows[i]? = some record') :
    exists record, s.rows[i]? = some record ∧ RowChange settings s i record label record' := by
  have hlt := (List.getElem?_eq_some_iff.mp hrow').1
  rw [h.length_rows hlabel] at hlt
  have hrow := List.getElem?_eq_getElem hlt
  rcases hok.rowChange h hrow with ⟨found, hfound, hchange⟩
  rw [hrow'] at hfound
  cases hfound
  exact ⟨_, hrow, hchange⟩

theorem OutboxOk.contents (hok : OutboxOk s)
    (hlabel : label.isWorker = true) (h : OutboxStep settings s label s') :
    s'.rows.map (fun record => record.content) = s.rows.map (fun record => record.content) := by
  apply List.ext_getElem?
  intro i
  rw [List.getElem?_map, List.getElem?_map]
  cases hrow' : s'.rows[i]? with
  | none =>
      have hle := List.getElem?_eq_none_iff.mp hrow'
      rw [h.length_rows hlabel] at hle
      rw [List.getElem?_eq_none_iff.mpr hle]
  | some record' =>
      rcases hok.row_before hlabel h hrow' with ⟨record, hrow, hchange⟩
      rw [hrow, Option.map_some, Option.map_some, hchange.content hlabel]

/-!
# What has been published
-/

structure PublishingOk (s : OutboxState) : Prop where
  faithful : forall p, p ∈ s.published ->
    exists record : DeliveryRow, s.rows[p.row]? = some record ∧ record.payload = p.payload
  /-- What a worker has sent, and what is marked as published, was published. -/
  sending : forall w worker, s.workers.get w = some worker -> worker.sent = true ->
    worker.draft.aggregateType ≠ "broker_binding" ->
    exists p, p ∈ s.published ∧ p.row = worker.row
  done : forall (i : Nat) (record : DeliveryRow), s.rows[i]? = some record ->
    record.status = OutboxStatus.published -> record.payload.snapshot.isSome = true ->
    record.aggregateType ≠ "broker_binding" -> exists p, p ∈ s.published ∧ p.row = i
  ordered : forall id, (s.published.filter (fun p => p.payload.isAbout id)).Pairwise
    (fun p q => p.row ≤ q.row)
  earlier : forall id p, p ∈ s.published -> p.payload.isAbout id = true ->
    forall (i : Nat) (record : DeliveryRow), i < p.row -> s.rows[i]? = some record ->
      record.payload.isAbout id = true -> record.status = OutboxStatus.published

/-- A step that publishes nothing. -/
theorem PublishingOk.keep (h : PublishingOk s) (hok : OutboxOk s)
    (hlabel : label.isWorker = true) (hstep : OutboxStep settings s label s')
    (hpublished : s'.published = s.published)
    (hworkers : forall w worker, s'.workers.get w = some worker -> worker.sent = true ->
      s.workers.get w = some worker) : PublishingOk s' := by
  constructor
  · intro p hp
    rw [hpublished] at hp
    rcases h.faithful p hp with ⟨record, hrow, hpayload⟩
    rcases hok.rowChange hstep hrow with ⟨record', hrow', hchange⟩
    have hcontent := congrArg Prod.snd (hchange.content hlabel)
    exact ⟨record', hrow', hcontent.trans hpayload⟩
  · intro w worker hworker hsent haggregate
    rw [hpublished]
    exact h.sending w worker (hworkers w worker hworker hsent) hsent haggregate
  · intro i record' hrow' hstatus hmessage haggregate
    rw [hpublished]
    rcases hok.row_before hlabel hstep hrow' with ⟨record, hrow, hchange⟩
    cases hchange with
    | kept => exact h.done i record' hrow hstatus hmessage haggregate
    | @finished w worker hworker hsame hsent hdue =>
        rw [← hsame]
        apply h.sending w worker hworker hsent
        rcases hok.held w worker hworker with ⟨found, hfound, _, hdraft⟩
        rw [hsame, hrow] at hfound
        cases hfound
        rw [hdraft]
        exact haggregate
    | failed hworker hsame hdue hfailed =>
        rcases handlePublishFailure_status hfailed with hnot | hnot
        · rw [hnot] at hstatus
          cases hstatus
        · rw [hnot] at hstatus
          cases hstatus
    | reset hoperator hflushed hreset hreset' => cases hlabel
  · rw [hpublished]
    exact h.ordered
  · intro id p hp habout i record' hlt hrow' habout'
    rw [hpublished] at hp
    rcases hok.row_before hlabel hstep hrow' with ⟨record, hrow, hchange⟩
    have hcontent : record'.payload = record.payload := congrArg Prod.snd (hchange.content hlabel)
    rw [hcontent] at habout'
    exact hchange.published hlabel (h.earlier id p hp habout i record hlt hrow habout')

theorem isAbout_iff {payload : OutboxPayload} {id : Uuid} :
    payload.isAbout id = true ↔ payload.messageId = some id :=
  beq_iff_eq

/-- A row that is sent comes after everything published for its message. -/
theorem PublishingOk.send (h : PublishingOk s) (hok : OutboxOk s) {w : Nat}
    {worker : DeliveryWorker} (hworker : s.workers.get w = some worker)
    (horder : PublishesInOrder s (OutboxLabel.publish w)) : PublishingOk (s.send w worker) := by
  rcases hok.held w worker hworker with ⟨record, hrow, hdue, hdraft⟩
  have hpayload : worker.draft.payload = record.payload := by
    rw [hdraft]
    rfl
  have hunpublished : record.status ≠ OutboxStatus.published := by
    rcases hdue.status with hstatus | hstatus
    · rw [hstatus]
      nofun
    · rw [hstatus]
      nofun
  have hnew : forall p, p ∈ OutboxState.publication worker.row worker.draft ->
      p.row = worker.row ∧ p.payload = record.payload := by
    intro p hp
    unfold OutboxState.publication at hp
    split at hp
    · cases hp
    · rw [List.mem_singleton.mp hp]
      exact ⟨rfl, hpayload⟩
  constructor
  · intro p hp
    rcases List.mem_append.mp hp with hp | hp
    · exact h.faithful p hp
    · rcases hnew p hp with ⟨hsame, hcarried⟩
      rw [hsame, hcarried]
      exact ⟨record, hrow, rfl⟩
  · apply Table.forall_get_set
    · intro v other hother hsent haggregate
      rcases h.sending v other hother hsent haggregate with ⟨p, hp, hsame⟩
      exact ⟨p, List.mem_append_left _ hp, hsame⟩
    · intro other hsame _ haggregate
      cases hsame
      change worker.draft.aggregateType ≠ _ at haggregate
      refine ⟨⟨worker.row, worker.draft.routingKey, worker.draft.payload⟩,
        List.mem_append_right _ ?_, rfl⟩
      unfold OutboxState.publication
      rw [if_neg haggregate]
      exact List.mem_cons_self
  · intro i found hfound hstatus hmessage haggregate
    rcases h.done i found hfound hstatus hmessage haggregate with ⟨p, hp, hsame⟩
    exact ⟨p, List.mem_append_left _ hp, hsame⟩
  · intro id
    show ((s.published ++ _).filter _).Pairwise _
    rw [List.filter_append]
    apply List.pairwise_append.mpr
    refine ⟨h.ordered id, ?_, ?_⟩
    · apply List.Pairwise.filter
      unfold OutboxState.publication
      split
      · exact List.Pairwise.nil
      · exact List.pairwise_singleton _ _
    · intro p hp q hq
      rcases List.mem_filter.mp hp with ⟨hp, haboutp⟩
      rcases List.mem_filter.mp hq with ⟨hq, haboutq⟩
      rcases hnew q hq with ⟨hsame, hcarried⟩
      rw [hcarried] at haboutq
      rw [hsame]
      apply Nat.le_of_not_lt
      intro hlt
      exact hunpublished (h.earlier id p hp haboutp worker.row record hlt hrow haboutq)
  · intro id p hp habout i found hlt hfound habout'
    rcases List.mem_append.mp hp with hp | hp
    · exact h.earlier id p hp habout i found hlt hfound habout'
    · rcases hnew p hp with ⟨hsame, hcarried⟩
      rw [hsame] at hlt
      rw [hcarried] at habout
      have hid := isAbout_iff.mp habout
      apply horder (w, worker) (Table.mem_rows.mpr hworker) rfl (found, i)
        (List.mem_zipIdx_iff_getElem?.mpr hfound) hlt
      · rw [hpayload, hid]
        rfl
      · rw [hpayload, hid]
        exact isAbout_iff.mp habout'

theorem PublishingOk.step (h : PublishingOk s) (hok : OutboxOk s)
    (hlabel : label.isWorker = true) (horder : PublishesInOrder s label)
    (hstep : OutboxStep settings s label s') : PublishingOk s' := by
  have hdone := hstep
  cases hstep with
  | enqueued | flushed | reset | aborted => cases hlabel
  | picked hworker hrow hdue hfree hnext =>
      refine h.keep hok hlabel hdone rfl ?_
      apply Table.forall_get_set
      · intro w worker hget _
        exact hget
      · intro worker hnew hsent
        cases hnew
        cases hsent
  | sent hworker => exact h.send hok hworker horder
  | finished | failed | crashed =>
      exact h.keep hok hlabel hdone rfl
        (fun _ _ hget _ => (Table.get_of_get_set_none hget).2)
  | loaded hretry hoperator hresets =>
      exact h.keep hok hlabel hdone rfl (fun _ _ hget _ => hget)

/-!
# New rows
-/

variable {rows : List Outbox}

theorem getElem?_enqueueAll {createdAt : Instant} (h : s.rows[i]? = some record) :
    (s.enqueueAll rows createdAt).rows[i]? = some record := by
  show (s.rows ++ _)[i]? = some record
  rw [List.getElem?_append_left (List.getElem?_eq_some_iff.mp h).1, h]

theorem enqueueAll_row {createdAt : Instant}
    (h : (s.enqueueAll rows createdAt).rows[i]? = some record) :
    s.rows[i]? = some record ∨
      s.rows.length ≤ i ∧ exists row, row ∈ rows ∧ record = DeliveryRow.enqueued row createdAt := by
  change (s.rows ++ _)[i]? = some record at h
  rw [List.getElem?_append] at h
  split at h
  · exact Or.inl h
  · rename_i hnot
    rcases List.mem_map.mp (List.mem_of_getElem? h) with ⟨row, hmem, heq⟩
    exact Or.inr ⟨Nat.le_of_not_lt hnot, row, hmem, heq.symm⟩

theorem OutboxOk.enqueueAll (h : OutboxOk s) (rows : List Outbox) (createdAt : Instant) :
    OutboxOk (s.enqueueAll rows createdAt) := by
  constructor
  · intro w worker hworker
    rcases h.held w worker hworker with ⟨record, hrow, hrest⟩
    exact ⟨record, getElem?_enqueueAll hrow, hrest⟩
  · exact h.apart
  · exact h.unflushed

theorem PublishingOk.enqueueAll (h : PublishingOk s)
    (hrows : forall row, row ∈ rows -> row.payload.snapshot.isSome = true ->
      row.status ≠ OutboxStatus.published) (createdAt : Instant) :
    PublishingOk (s.enqueueAll rows createdAt) := by
  constructor
  · intro p hp
    rcases h.faithful p hp with ⟨record, hrow, hpayload⟩
    exact ⟨record, getElem?_enqueueAll hrow, hpayload⟩
  · exact h.sending
  · intro i record hrow hstatus hmessage haggregate
    rcases enqueueAll_row hrow with hold | ⟨_, row, hmem, heq⟩
    · exact h.done i record hold hstatus hmessage haggregate
    · rw [heq] at hstatus hmessage
      exact absurd hstatus (hrows row hmem hmessage)
  · exact h.ordered
  · intro id p hp habout i record hlt hrow habout'
    rcases enqueueAll_row hrow with hold | ⟨hle, _⟩
    · exact h.earlier id p hp habout i record hlt hold habout'
    · rcases h.faithful p hp with ⟨found, hfound, _⟩
      have hbound := (List.getElem?_eq_some_iff.mp hfound).1
      exact absurd (Nat.lt_of_lt_of_le (Nat.lt_trans hlt hbound) hle) (Nat.lt_irrefl i)

end

/-!
# Runs
-/

/-- Commits append to the outbox table. -/
theorem feed_outbox_append {store store' : Store Database FeedRequest}
    {label : StoreLabel FeedRequest OutsideAction}
    (h : feedWorkload.next store label = some store') :
    exists added, store'.committed.outbox = store.committed.outbox ++ added := by
  cases Workload.step_of_next h with
  | begin | statement | rollback => exact ⟨[], (List.append_nil _).symm⟩
  | outside hrun =>
      rcases OutsideAction.feed hrun with ⟨_, added, houtbox, _⟩
      exact ⟨added, houtbox⟩
  | commit hget hreturns hcommit =>
      rcases hreturns.exists_ends with ⟨trace, hends, _⟩
      cases FeedRequest.effect hends with
      | quiet hquiet => exact ⟨[], by rw [(hquiet _ _ hcommit).2, List.append_nil]⟩
      | published hrow hcarries hbody => exact ⟨_, (published_commit hcommit).2.2⟩
      | changed change hlocked hget hrow hcarries hdone =>
          cases (hdone store.committed).symm.trans hcommit
          exact ⟨_, rfl⟩

/-- What holds of every state of a run that publishes in order. -/
structure FeedStateOk (s : FeedState) : Prop where
  store : feedWorkload.system.Reachable s.store
  workers : OutboxOk s.outbox
  publishing : PublishingOk s.outbox
  aligned : s.outbox.rows.map (fun record => record.content)
    = s.store.committed.outbox.map (fun row => row.content)

section

variable {settings : DeliverySettings} {s s' : FeedState}

theorem FeedStateOk.commit (h : FeedStateOk s) {store : Store Database FeedRequest}
    {label : StoreLabel FeedRequest OutsideAction}
    (hnext : feedWorkload.next s.store label = some store) (createdAt : Instant) :
    FeedStateOk { store := store, outbox := s.outbox.enqueueAll (s.added store) createdAt } := by
  have hreach : feedWorkload.system.Reachable store := System.Reachable.step h.store hnext
  rcases feed_outbox_append hnext with ⟨added, houtbox⟩
  have hadded : s.added store = added := by
    unfold FeedState.added
    rw [houtbox, List.drop_left]
  rw [hadded]
  refine ⟨hreach, h.workers.enqueueAll added createdAt, ?_, ?_⟩
  · apply h.publishing.enqueueAll
    intro row hmem hmessage
    have hrow : row ∈ store.committed.outbox := by
      rw [houtbox]
      exact List.mem_append_right _ hmem
    rw [((feedOk_of_reachable hreach).rows row hrow hmessage).status]
    nofun
  · show (s.outbox.rows ++ _).map _ = store.committed.outbox.map _
    rw [houtbox, List.map_append, List.map_append, h.aligned, List.map_map]
    rfl

theorem FeedStateOk.step (h : FeedStateOk s) {label : FeedLabel}
    (horder : MessagesInOrder s label) (hnext : s.next settings label = some s') :
    FeedStateOk s' := by
  cases label with
  | store label now =>
      rcases Option.map_eq_some_iff.mp hnext with ⟨store, hstore, heq⟩
      rw [← heq]
      exact h.commit hstore _
  | worker label =>
      rcases Option.ite_none_right_eq_some.mp hnext with ⟨hlabel, hnext⟩
      rcases Option.map_eq_some_iff.mp hnext with ⟨outbox, hrun, heq⟩
      rw [← heq]
      have hstep := outboxStep_of_next hrun
      exact ⟨h.store, h.workers.step hstep, h.publishing.step h.workers hlabel horder hstep,
        (h.workers.contents hlabel hstep).trans h.aligned⟩

theorem feedStateOk_of_reachable
    (h : ((feedSystem settings).restrict MessagesInOrder).Reachable s) : FeedStateOk s := by
  apply h.invariant
  · intro s hstart
    cases hstart
    refine ⟨System.Reachable.start ⟨rfl, rfl⟩, outboxOk_empty, ?_, rfl⟩
    constructor
    · intro p hp
      cases hp
    · intro w worker hworker
      cases hworker
    · intro i record hrow
      cases hrow
    · intro id
      exact List.Pairwise.nil
    · intro id p hp
      cases hp
  · intro s label s' hok hnext
    exact hok.step hnext.1 hnext.2

end

/-- The last entry of a list with some property, and where it stands. -/
theorem exists_of_getLast?_filter {l : List α} {p : α -> Bool} {a : α}
    (h : (l.filter p).getLast? = some a) :
    exists before after, l = before ++ a :: after ∧ p a = true ∧
      forall x, x ∈ after -> p x = false := by
  rcases List.getLast?_eq_some_iff.mp h with ⟨init, hinit⟩
  rcases List.filter_eq_append_iff.mp hinit with ⟨l1, l2, hl, _, hlast⟩
  rcases List.filter_eq_cons_iff.mp hlast with ⟨l3, after, hl2, _, ha, hnone⟩
  refine ⟨l1 ++ l3, after, ?_, ha, ?_⟩
  · rw [hl, hl2, List.append_assoc]
  · intro x hx
    exact Bool.eq_false_iff.mpr (List.filter_eq_nil_iff.mp hnone x hx)

theorem key_le_of_getLast? {l : List α} {key : α -> Nat} {a last : α}
    (h : l.Pairwise (fun x y => key x ≤ key y)) (hlast : l.getLast? = some last) (ha : a ∈ l) :
    key a ≤ key last := by
  rcases List.getLast?_eq_some_iff.mp hlast with ⟨init, hinit⟩
  rw [hinit] at h ha
  rcases List.mem_append.mp ha with ha | ha
  · exact (List.pairwise_append.mp h).2.2 a ha last List.mem_cons_self
  · rw [List.mem_singleton.mp ha]

/--
In a run in which workers publish the rows of each message in the order of their commits,
every state has converged.
-/
theorem feed_converges (settings : DeliverySettings) {s : FeedState}
    (h : ((feedSystem settings).restrict MessagesInOrder).Reachable s) : Converged s := by
  have hok := feedStateOk_of_reachable h
  have hfeed := feedOk_of_reachable hok.store
  intro id message hget hall
  rcases hfeed.current id message hget with ⟨row, hlast, snapshot, hsnapshot, hid, hcarries⟩
  rcases exists_of_getLast?_filter hlast with ⟨before, after, hsplit, habout, hafter⟩
  have hcontent : forall i : Nat, (s.outbox.rows[i]?).map (fun record => record.content)
      = (s.store.committed.outbox[i]?).map (fun row => row.content) := by
    intro i
    rw [← List.getElem?_map, ← List.getElem?_map, hok.aligned]
  -- The last row of the message, as the workers see it.
  have hat : s.store.committed.outbox[before.length]? = some row := by
    rw [hsplit, List.getElem?_append_right (Nat.le_refl _), Nat.sub_self]
    rfl
  have hrecord := hcontent before.length
  rw [hat] at hrecord
  rcases Option.map_eq_some_iff.mp hrecord with ⟨record, hrow, hsame⟩
  have hpayload : record.payload = row.payload := congrArg Prod.snd hsame
  have haggregate : record.aggregateType = "message" := by
    have hmem : row ∈ s.store.committed.outbox := List.mem_of_getElem? hat
    exact (congrArg Prod.fst hsame).trans
      (hfeed.rows row hmem (by rw [hsnapshot]; rfl)).aggregateType
  have hstatus := hall before.length record hrow (by rw [hpayload]; exact habout)
  rcases hok.publishing.done before.length record hrow hstatus (by rw [hpayload, hsnapshot]; rfl)
    (by rw [haggregate]; decide) with ⟨p, hp, hprow⟩
  have hppayload : p.payload = row.payload := by
    rcases hok.publishing.faithful p hp with ⟨found, hfound, hsent⟩
    rw [hprow, hrow] at hfound
    cases hfound
    rw [← hsent, hpayload]
  have hpmem : p ∈ s.outbox.published.filter (fun p => p.payload.isAbout id) :=
    List.mem_filter.mpr ⟨hp, by rw [hppayload]; exact habout⟩
  cases hfinal : (s.outbox.published.filter (fun p => p.payload.isAbout id)).getLast? with
  | none =>
      rw [List.getLast?_eq_none_iff.mp hfinal] at hpmem
      cases hpmem
  | some q =>
      refine ⟨q, snapshot, rfl, ?_, hcarries⟩
      rcases List.mem_filter.mp (List.mem_of_getLast? hfinal) with ⟨hq, hqabout⟩
      have hle := key_le_of_getLast? (hok.publishing.ordered id) hfinal hpmem
      rcases hok.publishing.faithful q hq with ⟨found, hfound, hqpayload⟩
      -- No row about the message comes after the last one.
      have hnot : ¬before.length < q.row := by
        intro hlt
        have hlater := hcontent q.row
        rw [hfound, hsplit, List.getElem?_append_right (Nat.le_of_lt hlt)] at hlater
        rcases Option.map_eq_some_iff.mp hlater.symm with ⟨other, hother, hsame'⟩
        have hindex : q.row - before.length = (q.row - before.length - 1) + 1 :=
          (Nat.sub_add_cancel (Nat.sub_pos_of_lt hlt)).symm
        rw [hindex, List.getElem?_cons_succ] at hother
        have hfalse := hafter other (List.mem_of_getElem? hother)
        have hother' : other.payload = found.payload := congrArg Prod.snd hsame'
        rw [hother', hqpayload, hqabout] at hfalse
        cases hfalse
      have hqrow : q.row = before.length :=
        Nat.le_antisymm (Nat.le_of_not_lt hnot) (hprow ▸ hle)
      rw [hqrow, hrow] at hfound
      cases hfound
      rw [← hqpayload, hpayload, hsnapshot]

/-!
# Two edits
-/

/-- A request that runs alone; its transaction begins at the time of its environment. -/
def runAlone (request : FeedRequest) : List FeedLabel :=
  FeedLabel.store (StoreLabel.begin 0 request) 0 ::
    List.replicate 5 (FeedLabel.store (StoreLabel.statement 0) 0) ++
    [FeedLabel.store (StoreLabel.commit 0) 0]

def editTo (text : String) (now : Instant) : FeedRequest :=
  FeedRequest.message (MessageRequest.edit
    { sampleMessageEnv 0 with transactionTime := now } 100 1 200
    { contentText := some text, contentJson := none })

def deliver (row : Nat) (now : Instant) : List FeedLabel :=
  [FeedLabel.worker (OutboxLabel.pick 0 row now),
    FeedLabel.worker (OutboxLabel.publish 0),
    FeedLabel.worker (OutboxLabel.finish 0)]

/-- Ann has published message 200 in channel 100, and all rows so far are published. -/
def deliveredGreeting : List FeedLabel :=
  [FeedLabel.store (StoreLabel.outside (OutsideAction.channel
      (ChannelAction.putUser 1 (sampleUser "ann")))) 0,
    FeedLabel.store (StoreLabel.outside (OutsideAction.channel (ChannelAction.call
      (sampleEnv 100) (Call.createChannel 1 (sampleChannelRequest "General"))))) 0] ++
  runAlone (FeedRequest.message (MessageRequest.publish
    { sampleMessageEnv 200 with transactionTime := 1 } 100 1 greeting)) ++
  deliver 0 2 ++ deliver 1 3

/-- The first edit could not be published at once and is retried after the second. -/
def overtakenEditRun : List FeedLabel :=
  deliveredGreeting ++
  runAlone (editTo "first" 4) ++
  [FeedLabel.worker (OutboxLabel.pick 0 2 5),
    FeedLabel.worker (OutboxLabel.fail 0 "connection lost")] ++
  runAlone (editTo "second" 6) ++
  deliver 3 7 ++ deliver 2 2000000

/-- The stored text of message 200, what was last published for it, and what is due. -/
def feedView (s : FeedState) : Option (Option String) × Option (Option (Option String)) × Bool :=
  ((s.store.committed.messages.get 200).map (fun message => message.contentText),
    (s.outbox.published.filter (fun p => p.payload.isAbout 200)).getLast?.map (fun p =>
      p.payload.snapshot.map (fun snapshot => snapshot.contentText)),
    s.outbox.rows.all (fun record => record.status == OutboxStatus.published))

theorem overtaken_edit_is_published_last :
    exists s : FeedState, (feedSystem sampleDeliverySettings).Reachable s ∧ ¬Converged s := by
  have hrun : (overtakenEditRun.foldlM (FeedState.next sampleDeliverySettings)
      FeedState.empty).map feedView
      = some (some (some "sealed:second"), some (some (some "sealed:first")), true) := by
    decide +kernel
  rcases System.exists_reachable_of_run (M := feedSystem sampleDeliverySettings)
    (fun _ _ _ hstep => hstep) rfl hrun with ⟨s, hreach, hview⟩
  rcases Prod.mk.inj hview with ⟨hstored, hview⟩
  rcases Prod.mk.inj hview with ⟨hlast, hdone⟩
  rcases Option.map_eq_some_iff.mp hstored with ⟨message, hget, htext⟩
  refine ⟨s, hreach, ?_⟩
  intro hconverged
  have hall : forall (i : Nat) (record : DeliveryRow), s.outbox.rows[i]? = some record ->
      record.payload.isAbout 200 = true -> record.status = OutboxStatus.published := by
    intro i record hrow _
    exact beq_iff_eq.mp (List.all_eq_true.mp hdone record (List.mem_of_getElem? hrow))
  rcases hconverged 200 message hget hall with ⟨p, snapshot, hp, hsnapshot, hcarries⟩
  rw [hp] at hlast
  have hpublished : snapshot.contentText = some "sealed:first" := by
    rw [Option.map_some, hsnapshot] at hlast
    exact Option.some.inj (Option.some.inj hlast)
  have hsame := hcarries.contentText
  rw [hpublished, htext] at hsame
  exact absurd (Option.some.inj hsame) (by decide)

/-- The retry of the first edit comes before the second edit is taken. -/
def orderedEditRun : List FeedLabel :=
  deliveredGreeting ++
  runAlone (editTo "first" 4) ++
  [FeedLabel.worker (OutboxLabel.pick 0 2 5),
    FeedLabel.worker (OutboxLabel.fail 0 "connection lost")] ++
  runAlone (editTo "second" 6) ++
  deliver 2 2000000 ++ deliver 3 2000001

theorem orderedEditRun_converges :
    exists s : FeedState,
      ((feedSystem sampleDeliverySettings).restrict MessagesInOrder).Reachable s ∧
      feedView s = (some (some "sealed:second"), some (some (some "sealed:second")), true) ∧
      Converged s := by
  have hrun : (orderedEditRun.foldlM (System.guarded MessagesInOrder
      (FeedState.next sampleDeliverySettings)) FeedState.empty).map feedView
      = some (some (some "sealed:second"), some (some (some "sealed:second")), true) := by
    decide +kernel
  rcases System.exists_reachable_of_run
    (M := (feedSystem sampleDeliverySettings).restrict MessagesInOrder)
    (System.step_of_guarded (fun _ _ _ hstep => hstep)) rfl hrun with ⟨s, hreach, hview⟩
  exact ⟨s, hreach, hview, feed_converges sampleDeliverySettings hreach⟩

end MessagingSystem
