import MessagingSystem.Core.Encodings

/-!
# The event hash chain

Every audit event belongs to one integrity scope, its channel or the system.  Its
hash covers all of its columns and the hash of its predecessor in the scope, over
a canonical text in which the order of object keys does not matter.
-/

namespace MessagingSystem

open Foundation

/-- A JSON object without repeated keys, at any depth. -/
structure Payload where
  members : List (String × Json)
  wellFormed : (Json.obj members).WellFormed

def Payload.json (p : Payload) : Json :=
  Json.obj p.members

structure Event where
  id : Uuid
  channelId : Option Uuid
  actorUserId : Option Uuid
  eventType : String
  payload : Payload
  createdAt : Instant
  previousHash : Option String
  eventHash : Option String
  hashAlgorithm : Option String
  integrityVersion : Option Int
  integrityScope : Option String

def hashAlgorithmName : String := "sha256"

def integrityVersionNumber : Int := 1

def integrityScopeForEvent : Option Uuid -> String
  | none => "system"
  | some channelId => "channel:" ++ channelId.str

/-!
# The hash of one event
-/

variable {stored read : Event}

def optionalInt : Option Int -> Json
  | some n => Json.int n
  | none => Json.null

/-- `_canonical_value` of a payload sorts the keys of every object in it. -/
def canonicalEventPayload (event : Event) : Json :=
  Json.obj
    [("id", idJson event.id),
      ("channel_id", optionalId event.channelId),
      ("actor_user_id", optionalId event.actorUserId),
      ("event_type", Json.str event.eventType),
      ("created_at", Json.str event.createdAt.isoformat),
      ("payload", event.payload.json.sortKeys),
      ("previous_hash", optionalText event.previousHash),
      ("integrity_version", optionalInt event.integrityVersion),
      ("integrity_scope", optionalText event.integrityScope)]

def canonicalEventJson (event : Event) : String :=
  String.ofList (canonicalEventPayload event).dumps

def computeEventHash (sha256 : Sha256) (event : Event) : String :=
  sha256.hexdigest (canonicalEventJson event)

/-- A stored row and the row a query returns for it. -/
structure SameRow (stored read : Event) : Prop where
  rest : read = { stored with payload := read.payload }
  payload : stored.payload.json.Same read.payload.json

theorem SameRow.refl (event : Event) : SameRow event event :=
  ⟨rfl, (Json.sortKeys_eq_iff event.payload.wellFormed event.payload.wellFormed).mp rfl⟩

theorem SameRow.json_eq (h : SameRow stored read) :
    canonicalEventJson read = canonicalEventJson stored := by
  have hsorted : stored.payload.json.sortKeys = read.payload.json.sortKeys :=
    (Json.sortKeys_eq_iff stored.payload.wellFormed read.payload.wellFormed).mpr h.payload
  unfold canonicalEventJson canonicalEventPayload
  rw [← hsorted, h.rest]

theorem SameRow.hash_eq (h : SameRow stored read) (sha256 : Sha256) :
    computeEventHash sha256 read = computeEventHash sha256 stored := by
  unfold computeEventHash
  rw [h.json_eq]

/-!
# Verification
-/

inductive BrokenReason where
  | missingHash
  | integrityScopeMismatch
  | unsupportedAlgorithm
  | unsupportedIntegrityVersion
  | previousHashMismatch
  | hashMismatch
  deriving DecidableEq, Repr

def BrokenReason.value : BrokenReason -> String
  | missingHash => "missing_hash"
  | integrityScopeMismatch => "integrity_scope_mismatch"
  | unsupportedAlgorithm => "unsupported_algorithm"
  | unsupportedIntegrityVersion => "unsupported_integrity_version"
  | previousHashMismatch => "previous_hash_mismatch"
  | hashMismatch => "hash_mismatch"

structure Break where
  reason : BrokenReason
  expectedHash : Option String
  actualHash : Option String
  deriving DecidableEq

/-- The first check an event fails, given the hash of its predecessor. -/
def checkEvent (sha256 : Sha256) (scope : String) (previousHash : Option String)
    (event : Event) : Option Break :=
  match event.eventHash, event.integrityScope, event.hashAlgorithm,
    event.integrityVersion with
  | some eventHash, some integrityScope, some hashAlgorithm, some integrityVersion =>
      if integrityScope ≠ scope then
        some ⟨BrokenReason.integrityScopeMismatch, some scope, some integrityScope⟩
      else if hashAlgorithm ≠ hashAlgorithmName then
        some ⟨BrokenReason.unsupportedAlgorithm, some hashAlgorithmName,
          some hashAlgorithm⟩
      else if integrityVersion ≠ integrityVersionNumber then
        some ⟨BrokenReason.unsupportedIntegrityVersion,
          some (toString integrityVersionNumber), some (toString integrityVersion)⟩
      else if event.previousHash ≠ previousHash then
        some ⟨BrokenReason.previousHashMismatch, previousHash, event.previousHash⟩
      else if eventHash ≠ computeEventHash sha256 event then
        some ⟨BrokenReason.hashMismatch, some (computeEventHash sha256 event),
          some eventHash⟩
      else none
  | _, _, _, _ => some ⟨BrokenReason.missingHash, none, none⟩

structure VerifyResult where
  scope : String
  valid : Bool
  checkedEvents : Nat
  brokenEventId : Option String
  reason : Option BrokenReason
  expectedHash : Option String
  actualHash : Option String
  previousEventId : Option String
  lastValidHash : Option String
  firstEventId : Option String
  lastEventId : Option String
  hashAlgorithm : String
  integrityVersion : Int

/-- The loop of `verify_events` with its three accumulators. -/
def verifyFrom (sha256 : Sha256) (scope : String) (firstEventId lastEventId : Option String) :
    Nat -> Option String -> Option String -> List Event -> VerifyResult
  | checked, previousHash, previousEventId, [] =>
      { scope := scope, valid := true, checkedEvents := checked
        brokenEventId := none, reason := none, expectedHash := none, actualHash := none
        previousEventId := previousEventId, lastValidHash := previousHash
        firstEventId := firstEventId, lastEventId := lastEventId
        hashAlgorithm := hashAlgorithmName, integrityVersion := integrityVersionNumber }
  | checked, previousHash, previousEventId, event :: events =>
      match checkEvent sha256 scope previousHash event with
      | some broken =>
          { scope := scope, valid := false, checkedEvents := checked + 1
            brokenEventId := some event.id.str, reason := some broken.reason
            expectedHash := broken.expectedHash, actualHash := broken.actualHash
            previousEventId := previousEventId, lastValidHash := previousHash
            firstEventId := firstEventId, lastEventId := lastEventId
            hashAlgorithm := hashAlgorithmName, integrityVersion := integrityVersionNumber }
      | none =>
          verifyFrom sha256 scope firstEventId lastEventId (checked + 1) event.eventHash
            (some event.id.str) events

def verifyEvents (sha256 : Sha256) (scope : String) (events : List Event) : VerifyResult :=
  verifyFrom sha256 scope (events.head?.map (fun e => e.id.str))
    (events.getLast?.map (fun e => e.id.str)) 0 none none events

/-!
# Chains

What verification accepts, as a property of the list: every event passes its
checks against the hash of the event before it.
-/

variable {sha256 : Sha256} {scope : String} {previousHash : Option String} {events : List Event}
  {firstEventId lastEventId previousEventId : Option String}

def LinkedFrom (sha256 : Sha256) (scope : String) : Option String -> List Event -> Prop
  | _, [] => True
  | previousHash, event :: events =>
      checkEvent sha256 scope previousHash event = none ∧
        LinkedFrom sha256 scope event.eventHash events

/-- The hash the next event of a chain has to name. -/
def lastHash (previousHash : Option String) (events : List Event) : Option String :=
  events.foldl (fun _ event => event.eventHash) previousHash

theorem lastHash_none (events : List Event) :
    lastHash none events = events.getLast?.bind Event.eventHash := by
  rcases List.eq_nil_or_concat events with hnil | ⟨before, last, hevents⟩
  · rw [hnil]
    rfl
  · rw [hevents, lastHash, List.concat_eq_append, List.foldl_append,
      List.getLast?_append]
    rfl

theorem verifyFrom_valid {checked : Nat} :
    (verifyFrom sha256 scope firstEventId lastEventId checked previousHash
      previousEventId events).valid = true ↔
      LinkedFrom sha256 scope previousHash events := by
  induction events generalizing checked previousHash previousEventId with
  | nil => simp [verifyFrom, LinkedFrom]
  | cons event events ih =>
      unfold verifyFrom LinkedFrom
      cases hcheck : checkEvent sha256 scope previousHash event with
      | none => simp [ih]
      | some broken => simp

theorem verifyEvents_valid :
    (verifyEvents sha256 scope events).valid = true ↔
      LinkedFrom sha256 scope none events :=
  verifyFrom_valid

theorem verifyFrom_lastValidHash {checked : Nat} (h : LinkedFrom sha256 scope previousHash events) :
    (verifyFrom sha256 scope firstEventId lastEventId checked previousHash
      previousEventId events).lastValidHash = lastHash previousHash events := by
  induction events generalizing checked previousHash previousEventId with
  | nil => rfl
  | cons event events ih =>
      rw [verifyFrom, h.1]
      exact ih h.2

theorem linkedFrom_append {first second : List Event} :
    LinkedFrom sha256 scope previousHash (first ++ second) ↔
      LinkedFrom sha256 scope previousHash first ∧
        LinkedFrom sha256 scope (lastHash previousHash first) second := by
  induction first generalizing previousHash with
  | nil => simp [LinkedFrom, lastHash]
  | cons event first ih =>
      have hlast : lastHash previousHash (event :: first)
          = lastHash event.eventHash first := rfl
      simp only [List.cons_append, LinkedFrom, ih, hlast, and_assoc]

theorem SameRow.checkEvent_eq (h : SameRow stored read) (sha256 : Sha256) (scope : String)
    (previousHash : Option String) :
    checkEvent sha256 scope previousHash read
      = checkEvent sha256 scope previousHash stored := by
  have hhash := h.hash_eq sha256
  unfold checkEvent
  rw [hhash, h.rest]

/-- Verification does not see in which order a payload's keys are returned. -/
theorem LinkedFrom.of_sameRows {stored read : List Event}
    (hrows : List.Forall₂ SameRow stored read) (h : LinkedFrom sha256 scope previousHash stored) :
    LinkedFrom sha256 scope previousHash read := by
  induction hrows generalizing previousHash with
  | nil => exact h
  | cons hrow _ ih =>
      constructor
      · rw [hrow.checkEvent_eq]
        exact h.1
      · rw [hrow.rest]
        exact ih h.2

end MessagingSystem
