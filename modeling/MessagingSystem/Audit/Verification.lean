import MessagingSystem.Audit.Checkpoint
import MessagingSystem.Events.Writers

/-!
# Verification of a stored history

The verifier reads checkpoints in the order of their numbers.  Each must carry the
next number, name the hash before it, and agree with its signature, its leaves and
the events the leaves point to.
-/

namespace MessagingSystem

open Foundation

structure MerkleLeaf where
  batchId : Uuid
  eventId : Uuid
  leafIndex : Int
  eventHash : String
  leafHash : String
  deriving DecidableEq

/-- The tables a verification reads. -/
structure AuditTables where
  events : List Event
  batches : List MerkleBatch
  leaves : List MerkleLeaf

/-- The leaves of a batch, in index order. -/
def AuditTables.batchLeaves (tables : AuditTables) (batchId : Uuid) : List MerkleLeaf :=
  orderByAsc MerkleLeaf.leafIndex
    (tables.leaves.filter (fun leaf => leaf.batchId = batchId))

def AuditTables.eventsWithIds (tables : AuditTables) (ids : List Uuid) : List Event :=
  tables.events.filter (fun event => event.id ∈ ids)

def eventById (events : List Event) (id : Uuid) : Option Event :=
  events.find? (fun event => event.id = id)

/-- `range(n)` as integers. -/
def intRange (n : Int) : List Int :=
  (List.range n.toNat).map Int.ofNat

/-!
# One batch
-/

section

variable (sha256 : Sha256) (ed : Ed25519) (publicKeys : String -> Option String)

/-- The two checks of a leaf against the event it points to. -/
def checkLeafEvent (events : List Event) (leaf : MerkleLeaf) : Except ReasonCode Unit := do
  let event ← orFail (eventById events leaf.eventId) ReasonCode.eventMissing
  require (event.eventHash == some leaf.eventHash) ReasonCode.eventHashSnapshotMismatch
  require (computeEventHash sha256 event == leaf.eventHash) ReasonCode.eventHashMismatch

def boundary (leaf : Option MerkleLeaf) : Option (Uuid × String) :=
  leaf.map (fun leaf => (leaf.eventId, leaf.eventHash))

def verifyBatch (tables : AuditTables) (batch : MerkleBatch) : Except ReasonCode Unit := do
  let expected ← (computeCheckpointHash sha256 batch).mapError
    (fun _ => ReasonCode.checkpointFormatInvalid)
  require (batch.checkpointHash == expected) ReasonCode.checkpointHashMismatch
  refuse (verifyCheckpointSignature ed batch.checkpointHash batch.signingKeyId
    batch.signature publicKeys)
  let leaves := tables.batchLeaves batch.id
  require (leaves.length == batch.leafCount) ReasonCode.leafCountMismatch
  require (leaves.map MerkleLeaf.leafIndex == intRange batch.leafCount)
    ReasonCode.leafIndexMismatch
  require (!leaves.isEmpty) ReasonCode.leafCountMismatch
  require (boundary leaves.head? == some (batch.firstEventId, batch.firstEventHash) &&
      boundary leaves.getLast? == some (batch.lastEventId, batch.lastEventHash))
    ReasonCode.checkpointBoundaryMismatch
  require (leaves.all (fun leaf => leafHash sha256 leaf.eventHash = Except.ok leaf.leafHash))
    ReasonCode.leafHashMismatch
  require (buildMerkleRoot sha256 (leaves.map MerkleLeaf.leafHash)
      = Except.ok batch.merkleRoot)
    ReasonCode.merkleRootMismatch
  let events := tables.eventsWithIds (leaves.map MerkleLeaf.eventId)
  require ((events.map Event.id).dedup.length == leaves.length) ReasonCode.eventMissing
  leaves.forM (checkLeafEvent sha256 events)

/-- What a verified batch is, given its leaves. -/
structure VerifiedBatch (tables : AuditTables) (batch : MerkleBatch)
    (leaves : List MerkleLeaf) : Prop where
  formatted : batch.Formatted
  checkpointHash : batch.checkpointHash = (sha256 (checkpointBytes batch)).hex
  signature : verifyCheckpointSignature ed batch.checkpointHash batch.signingKeyId
    batch.signature publicKeys = none
  leafCount : (leaves.length : Int) = batch.leafCount
  leafIndexes : leaves.map MerkleLeaf.leafIndex = intRange batch.leafCount
  nonempty : leaves ≠ []
  first : boundary leaves.head? = some (batch.firstEventId, batch.firstEventHash)
  last : boundary leaves.getLast? = some (batch.lastEventId, batch.lastEventHash)
  leafHashes : forall leaf, leaf ∈ leaves ->
    leafHash sha256 leaf.eventHash = Except.ok leaf.leafHash
  merkleRoot : buildMerkleRoot sha256 (leaves.map MerkleLeaf.leafHash)
    = Except.ok batch.merkleRoot
  eventCount : ((tables.eventsWithIds (leaves.map MerkleLeaf.eventId)).map
    Event.id).dedup.length = leaves.length
  events : forall leaf, leaf ∈ leaves -> exists event,
    eventById (tables.eventsWithIds (leaves.map MerkleLeaf.eventId)) leaf.eventId
      = some event ∧
    event.eventHash = some leaf.eventHash ∧ computeEventHash sha256 event = leaf.eventHash

variable {sha256 ed publicKeys}

theorem checkLeafEvent_eq_ok {events : List Event} {leaf : MerkleLeaf} :
    checkLeafEvent sha256 events leaf = Except.ok () ↔ exists event,
      eventById events leaf.eventId = some event ∧
      event.eventHash = some leaf.eventHash ∧
      computeEventHash sha256 event = leaf.eventHash := by
  unfold checkLeafEvent
  simp only [bind_eq_ok, orFail_eq_ok, require_eq_ok, beq_iff_eq, exists_const]

theorem verifyBatch_eq_ok {tables : AuditTables} {batch : MerkleBatch} {u : Unit} :
    verifyBatch sha256 ed publicKeys tables batch = Except.ok u ↔
      VerifiedBatch sha256 ed publicKeys tables batch (tables.batchLeaves batch.id) := by
  unfold verifyBatch
  simp only [bind_eq_ok, mapError_eq_ok, computeCheckpointHash_eq_ok, require_eq_ok,
    refuse_eq_ok, forM_eq_ok, checkLeafEvent_eq_ok, beq_iff_eq, Bool.and_eq_true,
    List.all_eq_true, decide_eq_true_eq, Bool.not_eq_true', List.isEmpty_eq_false_iff]
  constructor
  · intro h
    rcases h with ⟨expected, ⟨hformat, hexpected⟩, _, hhash, _, hsignature, _, hcount, _,
      hindexes, _, hne, _, ⟨hfirst, hlast⟩, _, hleaves, _, hroot, _, hevents, hchecked⟩
    exact ⟨hformat, hhash.trans hexpected, hsignature, hcount, hindexes, hne, hfirst, hlast,
      hleaves, hroot, hevents, hchecked⟩
  · intro h
    exact ⟨_, ⟨h.formatted, rfl⟩, (), h.checkpointHash, (), h.signature, (), h.leafCount, (),
      h.leafIndexes, (), h.nonempty, (), ⟨h.first, h.last⟩, (), h.leafHashes, (),
      h.merkleRoot, (), h.eventCount, h.events⟩

end

/-!
# The chain of batches
-/

structure DatabaseVerification where
  valid : Bool
  reasonCode : Option ReasonCode
  batchCount : Nat
  checkedBatches : Int
  checkedEvents : Int
  brokenSequence : Option Int
  latestSequence : Option Int
  latestCheckpointHash : Option String

def invalidVerification (reason : ReasonCode) (batchCount : Nat)
    (checkedBatches checkedEvents : Int) (brokenSequence : Option Int) :
    DatabaseVerification where
  valid := false
  reasonCode := some reason
  batchCount := batchCount
  checkedBatches := checkedBatches
  checkedEvents := checkedEvents
  brokenSequence := brokenSequence
  latestSequence := none
  latestCheckpointHash := none

/-- The variables of the loop over the batches. -/
structure ChainProgress where
  expectedSequence : Int
  expectedPrevious : Option String
  checkedEvents : Int
  scopes : List String

def ChainProgress.initial : ChainProgress where
  expectedSequence := 1
  expectedPrevious := none
  checkedEvents := 0
  scopes := []

/-- The scopes of the events that a batch covers. -/
def AuditTables.batchScopes (tables : AuditTables) (batchId : Uuid) : List String :=
  (tables.leaves.filter (fun leaf => leaf.batchId = batchId)).flatMap fun leaf =>
    (tables.events.filter (fun event => event.id = leaf.eventId)).filterMap
      Event.integrityScope

/-- The batches up to a sequence number, in the order of their numbers. -/
def AuditTables.batchesThrough (tables : AuditTables) (throughSequence : Option Int) :
    List MerkleBatch :=
  orderByAsc MerkleBatch.sequenceNo
    (tables.batches.filter (fun batch => throughSequence.all (batch.sequenceNo ≤ ·)))

/-- The events of a scope, in `(created_at, id)` order. -/
def AuditTables.scopeRows (tables : AuditTables) (scope : String) : List Event :=
  orderByAsc Event.rowKey (scopeEvents scope tables.events)

section

variable (sha256 : Sha256) (ed : Ed25519) (publicKeys : String -> Option String)
  (tables : AuditTables) (verifyEventChains : Bool)

/-- The updates at the end of a round. -/
def ChainProgress.advance (progress : ChainProgress) (batch : MerkleBatch) :
    ChainProgress where
  expectedSequence := progress.expectedSequence + 1
  expectedPrevious := some batch.checkpointHash
  checkedEvents := progress.checkedEvents + batch.leafCount
  scopes := if verifyEventChains then progress.scopes ++ tables.batchScopes batch.id
    else progress.scopes

/-- One round of the loop. -/
def checkBatch (batchCount : Nat) (progress : ChainProgress) (batch : MerkleBatch) :
    Except DatabaseVerification ChainProgress := do
  let invalid (reason : ReasonCode) : DatabaseVerification :=
    invalidVerification reason batchCount (progress.expectedSequence - 1)
      progress.checkedEvents (some batch.sequenceNo)
  require (batch.sequenceNo == progress.expectedSequence)
    (invalid ReasonCode.checkpointSequenceBroken)
  require (batch.previousCheckpointHash == progress.expectedPrevious)
    (invalid ReasonCode.checkpointChainBroken)
  (verifyBatch sha256 ed publicKeys tables batch).mapError invalid
  pure (progress.advance tables verifyEventChains batch)

/-- The result, as an error when a check fails. -/
def verifyChain (throughSequence : Option Int) :
    Except DatabaseVerification DatabaseVerification := do
  let batches := tables.batchesThrough throughSequence
  let progress ← batches.foldlM
    (checkBatch sha256 ed publicKeys tables verifyEventChains batches.length)
    ChainProgress.initial
  require (throughSequence.all (fun through =>
      batches.getLast?.map MerkleBatch.sequenceNo == some through))
    (invalidVerification ReasonCode.anchoredCheckpointMissing batches.length batches.length
      progress.checkedEvents throughSequence)
  -- No scope is collected unless the event chains are to be verified.
  require ((orderByAsc id progress.scopes.dedup).all (fun scope =>
      (verifyEvents sha256 scope (tables.scopeRows scope)).valid))
    (invalidVerification ReasonCode.eventChainBroken batches.length batches.length
      progress.checkedEvents none)
  pure
    { valid := true
      reasonCode := none
      batchCount := batches.length
      checkedBatches := batches.length
      checkedEvents := progress.checkedEvents
      brokenSequence := none
      latestSequence := batches.getLast?.map MerkleBatch.sequenceNo
      latestCheckpointHash := batches.getLast?.map MerkleBatch.checkpointHash }

def verifyDatabase (throughSequence : Option Int) : DatabaseVerification :=
  match verifyChain sha256 ed publicKeys tables verifyEventChains throughSequence with
  | Except.error result => result
  | Except.ok result => result

/-- What the loop accepts, from an expected number and an expected hash on. -/
def CheckedFrom : Int -> Option String -> List MerkleBatch -> Prop
  | _, _, [] => True
  | expected, previous, batch :: rest =>
      batch.sequenceNo = expected ∧ batch.previousCheckpointHash = previous ∧
        VerifiedBatch sha256 ed publicKeys tables batch (tables.batchLeaves batch.id) ∧
        CheckedFrom (expected + 1) (some batch.checkpointHash) rest

variable {sha256 ed publicKeys tables verifyEventChains} {batchCount : Nat}
  {progress progress' : ChainProgress} {throughSequence : Option Int}
  {batches : List MerkleBatch} {result : DatabaseVerification}

theorem checkBatch_eq_ok {batch : MerkleBatch} :
    checkBatch sha256 ed publicKeys tables verifyEventChains batchCount progress batch
      = Except.ok progress' ↔
      batch.sequenceNo = progress.expectedSequence ∧
      batch.previousCheckpointHash = progress.expectedPrevious ∧
      VerifiedBatch sha256 ed publicKeys tables batch (tables.batchLeaves batch.id) ∧
      progress.advance tables verifyEventChains batch = progress' := by
  unfold checkBatch
  simp only [bind_eq_ok, require_eq_ok, mapError_eq_ok, verifyBatch_eq_ok, pure_eq_ok,
    beq_iff_eq, exists_const]

theorem foldlM_checkBatch :
    batches.foldlM (checkBatch sha256 ed publicKeys tables verifyEventChains batchCount)
        progress = Except.ok progress' ↔
      CheckedFrom sha256 ed publicKeys tables progress.expectedSequence
        progress.expectedPrevious batches ∧
      batches.foldl (ChainProgress.advance tables verifyEventChains) progress
        = progress' := by
  induction batches generalizing progress with
  | nil =>
      rw [List.foldlM_nil, pure_eq_ok]
      exact (and_iff_right trivial).symm
  | cons batch batches ih =>
      rw [List.foldlM_cons, bind_eq_ok]
      simp only [checkBatch_eq_ok, CheckedFrom, List.foldl_cons]
      constructor
      · intro h
        rcases h with ⟨next, ⟨hnumber, hprevious, hbatch, hnext⟩, hrest⟩
        subst hnext
        rcases ih.mp hrest with ⟨hchecked, hfold⟩
        exact ⟨⟨hnumber, hprevious, hbatch, hchecked⟩, hfold⟩
      · intro h
        rcases h with ⟨⟨hnumber, hprevious, hbatch, hchecked⟩, hfold⟩
        exact ⟨_, ⟨hnumber, hprevious, hbatch, rfl⟩, ih.mpr ⟨hchecked, hfold⟩⟩

theorem mem_scopes_foldl {scope : String} :
    scope ∈ (batches.foldl (ChainProgress.advance tables verifyEventChains) progress).scopes ↔
      scope ∈ progress.scopes ∨ verifyEventChains = true ∧ exists batch, batch ∈ batches ∧
        scope ∈ tables.batchScopes batch.id := by
  induction batches generalizing progress with
  | nil => simp
  | cons batch batches ih =>
      rw [List.foldl_cons, ih]
      cases verifyEventChains with
      | false => simp [ChainProgress.advance]
      | true => simp [ChainProgress.advance, or_assoc]

/-- What the verifier accepts. -/
structure Accepted (sha256 : Sha256) (ed : Ed25519) (publicKeys : String -> Option String)
    (tables : AuditTables) (verifyEventChains : Bool) (throughSequence : Option Int)
    (batches : List MerkleBatch) : Prop where
  chain : CheckedFrom sha256 ed publicKeys tables 1 none batches
  through : forall through, throughSequence = some through ->
    batches.getLast?.map MerkleBatch.sequenceNo = some through
  scopes : verifyEventChains = true -> forall batch, batch ∈ batches ->
    forall scope, scope ∈ tables.batchScopes batch.id ->
      (verifyEvents sha256 scope (tables.scopeRows scope)).valid = true

theorem checkBatch_error {batch : MerkleBatch}
    (h : checkBatch sha256 ed publicKeys tables verifyEventChains batchCount progress batch
      = Except.error result) : result.valid = false := by
  unfold checkBatch at h
  rcases bind_eq_error.mp h with h | ⟨_, _, h⟩
  · rw [← require_eq_error h]
    rfl
  · rcases bind_eq_error.mp h with h | ⟨_, _, h⟩
    · rw [← require_eq_error h]
      rfl
    · rcases bind_eq_error.mp h with h | ⟨_, _, h⟩
      · rcases mapError_eq_error h with ⟨reason, hresult⟩
        rw [← hresult]
        rfl
      · cases h

theorem verifyChain_error
    (h : verifyChain sha256 ed publicKeys tables verifyEventChains throughSequence
      = Except.error result) : result.valid = false := by
  unfold verifyChain at h
  rcases bind_eq_error.mp h with h | ⟨progress, _, h⟩
  · exact foldlM_failure (fun _ _ _ => checkBatch_error) h
  · rcases bind_eq_error.mp h with h | ⟨_, _, h⟩
    · rw [← require_eq_error h]
      rfl
    · rcases bind_eq_error.mp h with h | ⟨_, _, h⟩
      · rw [← require_eq_error h]
        rfl
      · cases h

theorem verifyChain_eq_ok :
    (exists result, verifyChain sha256 ed publicKeys tables verifyEventChains
        throughSequence = Except.ok result ∧ result.valid = true) ↔
      Accepted sha256 ed publicKeys tables verifyEventChains throughSequence
        (tables.batchesThrough throughSequence) := by
  unfold verifyChain
  simp only [bind_eq_ok, foldlM_checkBatch, require_eq_ok, pure_eq_ok, List.all_eq_true,
    Option.all_eq_true, beq_iff_eq]
  constructor
  · intro h
    rcases h with ⟨_, ⟨progress, ⟨hchain, hprogress⟩, _, hthrough, _, hscopes, _⟩, _⟩
    refine ⟨hchain, hthrough, ?_⟩
    intro hchains batch hbatch scope hscope
    apply hscopes scope
    rw [(orderByAsc_perm _ _).mem_iff, List.mem_dedup, ← hprogress, mem_scopes_foldl]
    exact Or.inr ⟨hchains, batch, hbatch, hscope⟩
  · intro h
    refine ⟨_, ⟨_, ⟨h.chain, rfl⟩, (), h.through, (), ?_, rfl⟩, rfl⟩
    intro scope hscope
    rw [(orderByAsc_perm _ _).mem_iff, List.mem_dedup, mem_scopes_foldl] at hscope
    rcases hscope with hscope | ⟨hchains, batch, hbatch, hscope⟩
    · cases hscope
    · exact h.scopes hchains batch hbatch scope hscope

theorem verifyDatabase_valid :
    (verifyDatabase sha256 ed publicKeys tables verifyEventChains throughSequence).valid
        = true ↔
      Accepted sha256 ed publicKeys tables verifyEventChains throughSequence
        (tables.batchesThrough throughSequence) := by
  rw [← verifyChain_eq_ok]
  unfold verifyDatabase
  cases hchain : verifyChain sha256 ed publicKeys tables verifyEventChains throughSequence with
  | error result =>
      rw [verifyChain_error hchain]
      constructor
      · intro h
        cases h
      · intro h
        rcases h with ⟨_, hok, _⟩
        cases hok
  | ok result =>
      constructor
      · intro h
        exact ⟨result, rfl, h⟩
      · intro h
        rcases h with ⟨_, hok, hvalid⟩
        cases hok
        exact hvalid

end

end MessagingSystem
