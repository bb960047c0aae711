import MessagingSystem.Audit.Verification
import MessagingSystem.Events.Log

/-!
# Checkpoint runs

A run creates one checkpoint after another, each in a transaction of its own, until
no event is pending.  The step of the system is one statement of one run or one step
of the event log.  The checkpoint lock is held from the first statement of a
transaction to its end, and a run may fail at any point.
-/

namespace MessagingSystem

open Foundation

/-- The keyword arguments of a run; the trusted public keys are the same for all. -/
structure CheckpointSettings where
  maxLeaves : Int
  signingKeyId : String
  privateKeyBase64 : String
  allPending : Bool

/-!
# Statements of `create_checkpoint`
-/

/-- `_valid_event_metadata_filter`. -/
def hasIntegrityMetadata (event : Event) : Bool :=
  event.eventHash.isSome && event.hashAlgorithm == some hashAlgorithmName &&
    event.integrityVersion == some integrityVersionNumber && event.integrityScope.isSome

def checkBatchSize (maxLeaves : Int) : Except MerkleFailure Unit :=
  require (1 ≤ maxLeaves && maxLeaves ≤ maxBatchSize) (MerkleFailure.integrity
    "BATCH_SIZE_INVALID" "Merkle batch size must be between 1 and 4096")

def checkMissingMetadata (events : List Event) : Except MerkleFailure Unit :=
  let missingCount := (events.filter (fun event => !hasIntegrityMetadata event)).length
  require (missingCount == 0) (MerkleFailure.integrity "MISSING_INTEGRITY_METADATA"
    (toString missingCount ++
      " audit event(s) require integrity initialization before checkpointing"))

/-- The events in no leaf yet, oldest first, up to the batch size. -/
def pendingEvents (tables : AuditTables) (maxLeaves : Int) : List Event :=
  (orderByAsc Event.rowKey (tables.events.filter (fun event =>
    tables.leaves.all (fun leaf => leaf.eventId != event.id) &&
      hasIntegrityMetadata event))).take maxLeaves.toNat

def latestBatch (batches : List MerkleBatch) : Option MerkleBatch :=
  (orderByDesc MerkleBatch.sequenceNo batches).head?

/-- `str(event.event_hash)`. -/
def eventHashText (event : Event) : String :=
  event.eventHash.getD "None"

section

variable (sha256 : Sha256) (ed : Ed25519)

def checkEventHash (event : Event) : Except MerkleFailure Unit :=
  require (event.eventHash == some (computeEventHash sha256 event))
    (MerkleFailure.integrity ReasonCode.eventHashMismatch.value
      ("audit event " ++ event.id.str ++ " failed hash verification before checkpointing"))

/-- The row before it is hashed and signed. -/
def draftBatch (settings : CheckpointSettings) (latest : Option MerkleBatch)
    (first : Event) (rest : List Event) (merkleRoot : String) (id : Uuid)
    (createdAt : Instant) : MerkleBatch where
  id := id
  sequenceNo :=
    match latest with
    | none => 1
    | some batch => batch.sequenceNo + 1
  merkleVersion := merkleVersionNumber
  hashAlgorithm := hashAlgorithmName
  leafCount := (first :: rest).length
  firstEventId := first.id
  lastEventId := (rest.getLastD first).id
  firstEventHash := eventHashText first
  lastEventHash := eventHashText (rest.getLastD first)
  merkleRoot := merkleRoot
  previousCheckpointHash := latest.map MerkleBatch.checkpointHash
  checkpointHash := String.ofList (List.replicate 64 '0')
  signingKeyId := settings.signingKeyId
  signature := ""
  createdAt := createdAt

/-- The signed row and the leaf hashes it was built from. -/
def signedBatch (settings : CheckpointSettings) (latest : Option MerkleBatch)
    (first : Event) (rest : List Event) (id : Uuid) (createdAt : Instant) :
    Except MerkleFailure (MerkleBatch × List String) := do
  let leafHashes ← (first :: rest).mapM (fun event => leafHash sha256 (eventHashText event))
  let merkleRoot ← buildMerkleRoot sha256 leafHashes
  let draft := draftBatch settings latest first rest merkleRoot id createdAt
  let checkpointHash ← computeCheckpointHash sha256 draft
  let signature ← signCheckpointHash ed checkpointHash settings.privateKeyBase64
  pure ({ draft with checkpointHash := checkpointHash, signature := signature }, leafHashes)

end

def leafRow (batchId : Uuid) (index : Nat) (event : Event) (hash : String) : MerkleLeaf where
  batchId := batchId
  eventId := event.id
  leafIndex := index
  eventHash := eventHashText event
  leafHash := hash

def leafRows (batchId : Uuid) (events : List Event) (leafHashes : List String) :
    List MerkleLeaf :=
  (events.zip leafHashes).mapIdx (fun index p => leafRow batchId index p.1 p.2)

/-!
# Runs
-/

structure CheckpointBatchResult where
  sequenceNo : Int
  leafCount : Int
  merkleRoot : String

/-- How far a run is; all phases but the first and the last two hold the lock. -/
inductive CheckpointPhase where
  | ready
  | locked
  | counted
  | selected (first : Event) (rest : List Event)
  | found (first : Event) (rest : List Event) (latest : Option MerkleBatch)
  | inserted (first : Event) (rest : List Event) (batch : MerkleBatch)
      (leafHashes : List String)
  | prepared (batch : MerkleBatch) (leaves : List MerkleLeaf)
  | drained
  | finished
  | failed (failure : Option MerkleFailure)

def CheckpointPhase.holdsLock : CheckpointPhase -> Bool
  | ready => false
  | finished => false
  | failed _ => false
  | _ => true

structure CheckpointRun where
  settings : CheckpointSettings
  /-- The events that were committed when the run started. -/
  startedWith : List Event
  created : List CheckpointBatchResult
  phase : CheckpointPhase

structure AuditStore where
  log : EventLog
  batches : List MerkleBatch
  leaves : List MerkleLeaf
  runs : Table Nat CheckpointRun

def AuditStore.empty : AuditStore where
  log := EventLog.empty
  batches := []
  leaves := []
  runs := Table.empty

def AuditStore.tables (store : AuditStore) : AuditTables where
  events := store.log.committed
  batches := store.batches
  leaves := store.leaves

def AuditStore.LockFree (store : AuditStore) (w : Nat) : Prop :=
  forall row, row ∈ store.runs.rows -> row.1 ≠ w -> row.2.phase.holdsLock = false

instance (store : AuditStore) (w : Nat) : Decidable (store.LockFree w) :=
  inferInstanceAs (Decidable (forall row, row ∈ store.runs.rows -> row.1 ≠ w ->
    row.2.phase.holdsLock = false))

/-- The unique columns of the batch table are not taken. -/
def batchFits (batches : List MerkleBatch) (batch : MerkleBatch) : Bool :=
  batches.all (fun other => other.id != batch.id && other.sequenceNo != batch.sequenceNo &&
    other.checkpointHash != batch.checkpointHash)

/-- The unique event column of the leaf table is not taken. -/
def leavesFit (leaves added : List MerkleLeaf) : Bool :=
  ((leaves ++ added).map MerkleLeaf.eventId).Nodup

inductive CheckpointStatement where
  | lock
  | countMissing
  | selectPending
  | readLatest
  | insertBatch (id : Uuid) (now : Instant)
  | insertLeaves
  | rollback
  | fail

/-- Go on with the result of a check, or end with its error. -/
def CheckpointPhase.after {value : Type} (result : Except MerkleFailure value)
    (next : value -> CheckpointPhase) : CheckpointPhase :=
  match result with
  | Except.ok v => next v
  | Except.error failure => failed (some failure)

section

variable (hashtext : String -> Int) (sha256 : Sha256) (ed : Ed25519)
  (publicKeys : String -> Option String)

/-- The checks before the lock. -/
def checkSettings (settings : CheckpointSettings) : Except MerkleFailure Unit := do
  checkBatchSize settings.maxLeaves
  validateSigningConfiguration ed settings.signingKeyId settings.privateKeyBase64 publicKeys

def selectPhase (events : List Event) : CheckpointPhase :=
  match events with
  | [] => CheckpointPhase.drained
  | first :: rest => CheckpointPhase.after ((first :: rest).forM (checkEventHash sha256))
      (fun _ => CheckpointPhase.selected first rest)

def insertBatchPhase (batches : List MerkleBatch) (settings : CheckpointSettings)
    (latest : Option MerkleBatch) (first : Event) (rest : List Event) (id : Uuid)
    (now : Instant) : CheckpointPhase :=
  CheckpointPhase.after (signedBatch sha256 ed settings latest first rest id now) fun signed =>
    if batchFits batches signed.1 then
      CheckpointPhase.inserted first rest signed.1 signed.2
    else CheckpointPhase.failed none

def insertLeavesPhase (leaves : List MerkleLeaf) (batch : MerkleBatch)
    (added : List MerkleLeaf) : CheckpointPhase :=
  if leavesFit leaves added then CheckpointPhase.prepared batch added
  else CheckpointPhase.failed none

/-- One statement of run `w`; a statement that has to wait is not enabled. -/
def AuditStore.advance (store : AuditStore) (w : Nat) (settings : CheckpointSettings) :
    CheckpointStatement -> CheckpointPhase -> Option CheckpointPhase
  | CheckpointStatement.lock, CheckpointPhase.ready =>
      match checkSettings ed publicKeys settings with
      | Except.error failure => some (CheckpointPhase.failed (some failure))
      | Except.ok _ => if store.LockFree w then some CheckpointPhase.locked else none
  | CheckpointStatement.countMissing, CheckpointPhase.locked =>
      some (CheckpointPhase.after (checkMissingMetadata store.log.committed)
        (fun _ => CheckpointPhase.counted))
  | CheckpointStatement.selectPending, CheckpointPhase.counted =>
      some (selectPhase sha256 (pendingEvents store.tables settings.maxLeaves))
  | CheckpointStatement.readLatest, CheckpointPhase.selected first rest =>
      some (CheckpointPhase.found first rest (latestBatch store.batches))
  | CheckpointStatement.insertBatch id now, CheckpointPhase.found first rest latest =>
      some (insertBatchPhase sha256 ed store.batches settings latest first rest id now)
  | CheckpointStatement.insertLeaves, CheckpointPhase.inserted first rest batch leafHashes =>
      some (insertLeavesPhase store.leaves batch
        (leafRows batch.id (first :: rest) leafHashes))
  | CheckpointStatement.rollback, CheckpointPhase.drained => some CheckpointPhase.finished
  | CheckpointStatement.fail, CheckpointPhase.finished => none
  | CheckpointStatement.fail, CheckpointPhase.failed _ => none
  | CheckpointStatement.fail, _ => some (CheckpointPhase.failed none)
  | _, _ => none

inductive AuditLabel where
  | log (label : LogLabel)
  | start (w : Nat) (settings : CheckpointSettings)
  | statement (w : Nat) (statement : CheckpointStatement)
  | commit (w : Nat) (acknowledged : Bool)

/-- What the run does after its commit: fail, stop or begin the next checkpoint. -/
def CheckpointRun.committed (run : CheckpointRun) (batch : MerkleBatch)
    (acknowledged : Bool) : CheckpointRun :=
  if acknowledged then
    { run with
      created := run.created ++ [⟨batch.sequenceNo, batch.leafCount, batch.merkleRoot⟩]
      phase := if run.settings.allPending then CheckpointPhase.ready
        else CheckpointPhase.finished }
  else { run with phase := CheckpointPhase.failed none }

def AuditStore.commit (store : AuditStore) (w : Nat) (run : CheckpointRun)
    (acknowledged : Bool) : CheckpointPhase -> Option AuditStore
  | CheckpointPhase.prepared batch leaves =>
      some
        { store with
          batches := store.batches ++ [batch]
          leaves := store.leaves ++ leaves
          runs := store.runs.set w (some (run.committed batch acknowledged)) }
  | _ => none

def AuditStore.next (store : AuditStore) : AuditLabel -> Option AuditStore
  | AuditLabel.log label =>
      (store.log.step hashtext sha256 label).map fun log => { store with log := log }
  | AuditLabel.start w settings =>
      match store.runs.get w with
      | some _ => none
      | none =>
          some { store with
            runs := store.runs.set w (some
              { settings := settings
                startedWith := store.log.committed
                created := []
                phase := CheckpointPhase.ready }) }
  | AuditLabel.statement w statement =>
      match store.runs.get w with
      | none => none
      | some run =>
          (store.advance sha256 ed publicKeys w run.settings statement run.phase).map
            fun phase =>
              { store with runs := store.runs.set w (some { run with phase := phase }) }
  | AuditLabel.commit w acknowledged =>
      match store.runs.get w with
      | none => none
      | some run => store.commit w run acknowledged run.phase

def auditSystem : System AuditStore AuditLabel where
  start store := store = AuditStore.empty
  step store label store' := store.next hashtext sha256 ed publicKeys label = some store'

end

end MessagingSystem
