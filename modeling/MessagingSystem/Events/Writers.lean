import MessagingSystem.Events.Integrity
import MessagingSystem.Foundation.Sha256

/-!
# The two writers of the chain

The backend appends through `log_event`, which inserts a row without hash and
completes it; the worker computes the whole row first and inserts it at once.  The
two are separate programs, and the chain depends on their agreeing about the scope,
the predecessor, the timestamp and the hashed text.
-/

namespace MessagingSystem

open Foundation

variable {sha256 : Sha256}

def Event.rowKey (event : Event) : Instant ×ₗ Nat :=
  toLex (event.createdAt, event.id.toNat)

/-- The query both writers use to find the predecessor of a new event. -/
def latestIntegrityEvent (rows : List Event) (scope : String) : Option Event :=
  (orderByDesc Event.rowKey (rows.filter (fun event =>
    event.integrityScope = some scope ∧ event.eventHash.isSome))).head?

/-- The clock reading, or one microsecond after the predecessor. -/
def createdAfter (createdAt : Instant) : Option Event -> Option Instant
  | none => some createdAt
  | some latest =>
      if createdAt ≤ latest.createdAt then latest.createdAt.add? 1 else some createdAt

/-!
# Backend
-/

/-- The arguments of `log_event`. -/
structure LogCall where
  eventType : String
  payload : Payload
  channelId : Option Uuid
  actorUserId : Option Uuid

def LogCall.scope (call : LogCall) : String :=
  integrityScopeForEvent call.channelId

/-- The row of the first flush. -/
def LogCall.row (call : LogCall) (id : Uuid) (now : Instant) : Event where
  id := id
  channelId := call.channelId
  actorUserId := call.actorUserId
  eventType := call.eventType
  payload := call.payload
  createdAt := now
  previousHash := none
  eventHash := none
  hashAlgorithm := none
  integrityVersion := none
  integrityScope := none

def attachIntegrity (sha256 : Sha256) (scope : String) (latest : Option Event)
    (event : Event) : Option Event :=
  (createdAfter event.createdAt latest).map fun createdAt =>
    let linked : Event :=
      { event with
        createdAt := createdAt
        previousHash := latest.bind Event.eventHash
        hashAlgorithm := some hashAlgorithmName
        integrityVersion := some integrityVersionNumber
        integrityScope := some scope }
    { linked with eventHash := some (computeEventHash sha256 linked) }

/-!
# Worker
-/

/-- The arguments of `_insert_delivery_event`, with the id and the clock it draws first. -/
structure DeliveryDraft where
  eventType : String
  channelId : Option Uuid
  payload : Payload
  eventId : Uuid
  createdAt : Instant

/-- `_event_integrity_scope` -/
def DeliveryDraft.scope (draft : DeliveryDraft) : String :=
  match draft.channelId with
  | none => "system"
  | some channelId => "channel:" ++ channelId.str

/-- The worker's own `_compute_event_hash`. -/
def computeDeliveryHash (sha256 : Sha256) (eventId : Uuid)
    (channelId actorUserId : Option Uuid) (eventType : String) (payload : Payload)
    (createdAt : Instant) (previousHash : Option String) (integrityScope : String) :
    String :=
  sha256.hexdigest (String.ofList (Json.obj
    [("id", idJson eventId),
      ("channel_id", optionalId channelId),
      ("actor_user_id", optionalId actorUserId),
      ("event_type", Json.str eventType),
      ("created_at", Json.str createdAt.isoformat),
      ("payload", payload.json.sortKeys),
      ("previous_hash", optionalText previousHash),
      ("integrity_version", Json.int integrityVersionNumber),
      ("integrity_scope", Json.str integrityScope)]).dumps)

/-- The inserted row. -/
def insertDeliveryEvent (sha256 : Sha256) (latest : Option Event)
    (draft : DeliveryDraft) : Option Event :=
  (createdAfter draft.createdAt latest).map fun createdAt =>
    let previousHash := latest.bind Event.eventHash
    { id := draft.eventId
      channelId := draft.channelId
      actorUserId := none
      eventType := draft.eventType
      payload := draft.payload
      createdAt := createdAt
      previousHash := previousHash
      eventHash := some (computeDeliveryHash sha256 draft.eventId draft.channelId none
        draft.eventType draft.payload createdAt previousHash draft.scope)
      hashAlgorithm := some hashAlgorithmName
      integrityVersion := some integrityVersionNumber
      integrityScope := some draft.scope }

theorem DeliveryDraft.scope_eq (draft : DeliveryDraft) :
    draft.scope = integrityScopeForEvent draft.channelId := by
  unfold DeliveryDraft.scope integrityScopeForEvent
  cases draft.channelId with
  | none | some => rfl

/-- The two programs hash the same text. -/
theorem computeDeliveryHash_eq (sha256 : Sha256) (event : Event) {scope : String}
    (hversion : event.integrityVersion = some integrityVersionNumber)
    (hscope : event.integrityScope = some scope) :
    computeDeliveryHash sha256 event.id event.channelId event.actorUserId event.eventType
      event.payload event.createdAt event.previousHash scope
      = computeEventHash sha256 event := by
  unfold computeEventHash canonicalEventJson canonicalEventPayload computeDeliveryHash
  rw [hversion, hscope]
  rfl

/-!
# What a writer appends

Either writer produces a row that continues the chain after the predecessor it
was given, and it fails only when there is no later instant.
-/

variable {latest : Option Event} {event : Event}

structure Continues (sha256 : Sha256) (latest : Option Event) (event : Event) : Prop where
  scope : event.integrityScope = some (integrityScopeForEvent event.channelId)
  later : forall last, latest = some last -> last.createdAt < event.createdAt
  previousHash : event.previousHash = latest.bind Event.eventHash
  hashAlgorithm : event.hashAlgorithm = some hashAlgorithmName
  integrityVersion : event.integrityVersion = some integrityVersionNumber
  eventHash : event.eventHash = some (computeEventHash sha256 event)

theorem createdAfter_later {createdAt instant : Instant}
    (h : createdAfter createdAt latest = some instant) :
    forall last, latest = some last -> last.createdAt < instant := by
  intro last hlast
  rw [hlast] at h
  change (if createdAt ≤ last.createdAt then last.createdAt.add? 1 else some createdAt)
    = some instant at h
  split at h
  · exact Instant.lt_of_add? Nat.one_pos h
  · rename_i hlater
    cases h
    exact not_le.mp hlater

theorem attachIntegrity_continues {row : Event}
    (h : attachIntegrity sha256 (integrityScopeForEvent row.channelId) latest row
      = some event) :
    Continues sha256 latest event ∧ event.channelId = row.channelId ∧ event.id = row.id := by
  rcases Option.map_eq_some_iff.mp h with ⟨createdAt, hcreated, hevent⟩
  subst hevent
  refine ⟨⟨rfl, createdAfter_later hcreated, rfl, rfl, rfl, ?_⟩, rfl, rfl⟩
  -- The hash column is not part of the hashed text.
  rfl

theorem insertDeliveryEvent_continues {draft : DeliveryDraft}
    (h : insertDeliveryEvent sha256 latest draft = some event) :
    Continues sha256 latest event ∧ event.channelId = draft.channelId ∧
      event.id = draft.eventId := by
  rcases Option.map_eq_some_iff.mp h with ⟨createdAt, hcreated, hevent⟩
  have hscope : event.integrityScope = some draft.scope := by
    rw [← hevent]
  have hversion : event.integrityVersion = some integrityVersionNumber := by
    rw [← hevent]
  have hhash : event.eventHash = some (computeEventHash sha256 event) := by
    rw [← computeDeliveryHash_eq sha256 event hversion hscope, ← hevent]
  subst hevent
  refine ⟨⟨?_, createdAfter_later hcreated, rfl, rfl, rfl, hhash⟩, rfl, rfl⟩
  rw [hscope, draft.scope_eq]

/-!
# A delivery event that is read again

The driver returns `created_at` in the zone of its connection, and the keys of the payload in
any order.
-/

/-- The clock of a zone and how far it is ahead of UTC, unless the datetime is naive. -/
structure ZonedDatetime where
  clock : Instant
  utcOffset : Option Int

def asUtcDatetime (value : ZonedDatetime) : Option Instant :=
  let utc := (value.clock.val : Int) - value.utcOffset.getD 0
  if h : 0 ≤ utc ∧ utc < instantBound then some ⟨utc.toNat, by omega⟩ else none

theorem asUtcDatetime_eq {value : ZonedDatetime} {instant : Instant}
    (h : (value.clock.val : Int) - value.utcOffset.getD 0 = instant.val) :
    asUtcDatetime value = some instant := by
  have hbound : 0 ≤ (instant.val : Int) ∧ (instant.val : Int) < instantBound := by omega
  unfold asUtcDatetime
  simp only [h]
  rw [dif_pos hbound]
  exact congrArg some (Fin.ext (Int.toNat_natCast _))

/-- The returned datetime stands for the stored instant, in whatever zone it is given. -/
theorem delivery_hash_is_recomputed (sha256 : Sha256) (latest : Option Event)
    (draft : DeliveryDraft) (stored read : Event) (createdAt : ZonedDatetime)
    (hstored : insertDeliveryEvent sha256 latest draft = some stored)
    (hread : SameRow stored read)
    (hzone : (createdAt.clock.val : Int) - createdAt.utcOffset.getD 0 = stored.createdAt.val) :
    (asUtcDatetime createdAt).map (fun utc =>
      computeEventHash sha256 { read with createdAt := utc }) = stored.eventHash := by
  have hcreated : { read with createdAt := stored.createdAt } = read := by
    rw [hread.rest]
  rw [asUtcDatetime_eq hzone, Option.map_some, hcreated, hread.hash_eq]
  exact (insertDeliveryEvent_continues hstored).1.eventHash.symm

def samplePayload : Payload where
  members := [("b", Json.int 1), ("a", Json.null)]
  wellFormed := by simp [Json.WellFormed, Json.WellFormedMembers]

/-- The payload with its keys in another order. -/
def reorderedPayload : Payload where
  members := [("a", Json.null), ("b", Json.int 1)]
  wellFormed := by simp [Json.WellFormed, Json.WellFormedMembers]

theorem samplePayload_same : samplePayload.json.Same reorderedPayload.json :=
  (Json.sortKeys_eq_iff samplePayload.wellFormed reorderedPayload.wellFormed).mp rfl

def sampleDraft : DeliveryDraft :=
  ⟨"broker.retry_scheduled", some 7, samplePayload, 1, 5⟩

/-- A row written at 5 microseconds, read one hour east of UTC with its keys in another order. -/
theorem delivery_hash_east_of_utc :
    exists stored, insertDeliveryEvent Foundation.sha256 none sampleDraft = some stored ∧
      (asUtcDatetime ⟨3600000005, some 3600000000⟩).map (fun utc =>
        computeEventHash Foundation.sha256
          { stored with payload := reorderedPayload, createdAt := utc }) = stored.eventHash := by
  rcases Option.isSome_iff_exists.mp
    (show (insertDeliveryEvent Foundation.sha256 none sampleDraft).isSome = true from rfl) with
    ⟨stored, hstored⟩
  have hrow : stored.payload = samplePayload ∧ stored.createdAt.val = 5 := by
    rcases Option.map_eq_some_iff.mp hstored with ⟨createdAt, hcreated, hrow⟩
    cases hcreated
    rw [← hrow]
    exact ⟨rfl, rfl⟩
  refine ⟨stored, hstored, delivery_hash_is_recomputed _ none sampleDraft stored
    { stored with payload := reorderedPayload } _ hstored ⟨rfl, ?_⟩ ?_⟩
  · rw [hrow.1]
    exact samplePayload_same
  · rw [hrow.2]
    rfl

/-!
# Chains of a scope
-/

variable {events : List Event}

def scopeEvents (scope : String) (events : List Event) : List Event :=
  events.filter (fun event => event.integrityScope = some scope)

/-- What a scope looks like while nobody tampers with it. -/
structure Chain (sha256 : Sha256) (scope : String) (events : List Event) : Prop where
  linked : LinkedFrom sha256 scope none events
  increasing : Increasing Event.createdAt events

theorem checkEvent_eq_none_iff {scope : String} {previousHash : Option String} :
    checkEvent sha256 scope previousHash event = none ↔
      event.eventHash = some (computeEventHash sha256 event) ∧
      event.integrityScope = some scope ∧
      event.hashAlgorithm = some hashAlgorithmName ∧
      event.integrityVersion = some integrityVersionNumber ∧
      event.previousHash = previousHash := by
  unfold checkEvent
  split
  · rename_i hhash hscope halgorithm hversion
    rw [hhash, hscope, halgorithm, hversion]
    simp only [Option.some.injEq]
    repeat' split
    all_goals simp_all
  · rename_i hnone
    constructor
    · intro h
      cases h
    · intro h
      exact absurd h.2.2.2.1 (hnone _ _ _ _ h.1 h.2.1 h.2.2.1)

theorem LinkedFrom.hashed {scope : String} {previousHash : Option String}
    (h : LinkedFrom sha256 scope previousHash events) :
    forall event, event ∈ events -> event.eventHash = some (computeEventHash sha256 event) := by
  induction events generalizing previousHash with
  | nil =>
      intro event hevent
      cases hevent
  | cons first events ih =>
      intro event hevent
      rcases List.mem_cons.mp hevent with hfirst | hrest
      · rw [hfirst]
        exact (checkEvent_eq_none_iff.mp h.1).1
      · exact ih h.2 event hrest

theorem Chain.increasing_rowKey {scope : String} (h : Chain sha256 scope events) :
    Increasing Event.rowKey events := by
  refine List.Pairwise.imp ?_ h.increasing
  intro a b hlt
  exact Prod.Lex.toLex_lt_toLex.mpr (Or.inl hlt)

theorem Chain.append {scope : String} (h : Chain sha256 scope events)
    (hevent : Continues sha256 events.getLast? event)
    (hscope : integrityScopeForEvent event.channelId = scope) :
    Chain sha256 scope (events ++ [event]) := by
  constructor
  · rw [linkedFrom_append]
    refine ⟨h.linked, ?_, trivial⟩
    rw [checkEvent_eq_none_iff, lastHash_none, hevent.scope, hscope]
    exact ⟨hevent.eventHash, rfl, hevent.hashAlgorithm, hevent.integrityVersion,
      hevent.previousHash⟩
  · rw [increasing_append_singleton]
    refine ⟨h.increasing, ?_⟩
    cases hlast : events.getLast? with
    | none =>
        intro x hx
        rw [List.getLast?_eq_none_iff.mp hlast] at hx
        cases hx
    | some last =>
        exact h.increasing.lt_of_last hlast (hevent.later last hlast)

/-- On a chain the predecessor query returns its last event. -/
theorem Chain.latest_eq {scope : String} {rows : List Event}
    (h : Chain sha256 scope (scopeEvents scope rows)) :
    latestIntegrityEvent rows scope = (scopeEvents scope rows).getLast? := by
  have hrows : rows.filter (fun event =>
      event.integrityScope = some scope ∧ event.eventHash.isSome)
      = scopeEvents scope rows := by
    unfold scopeEvents
    apply List.filter_congr
    intro event hevent
    by_cases hscope : event.integrityScope = some scope
    · have hhash := h.linked.hashed event
        (List.mem_filter.mpr ⟨hevent, decide_eq_true hscope⟩)
      simp [hscope, hhash]
    · simp [hscope]
  unfold latestIntegrityEvent
  rw [hrows, orderByDesc_head_of_increasing h.increasing_rowKey]

end MessagingSystem
