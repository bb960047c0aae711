import MessagingSystem.Uploads.Migration

/-!
# Storing the content of an upload

One call writes the encrypted content to a temporary file, links it to its final path and
then commits the row.  Every await can complete, raise an exception, or be where the task is
cancelled; in the last case the awaited operation may have taken place all the same.  The
handlers of the call are for exceptions, and a cancellation is not one.
-/

namespace MessagingSystem

open Foundation

namespace ContentStorage

inductive AwaitOutcome where
  | completes
  | raises
  | cancelled (performed : Bool)
  deriving DecidableEq, Repr

/-- `AppError`, any other `Exception`, and `CancelledError`. -/
inductive StoreFault where
  | app (failure : Failure)
  | exception
  | cancelled
  deriving DecidableEq, Repr

/-- What is awaited. -/
inductive StorageStep where
  | selectRow
  | openTemp
  | write
  | receive
  | flush
  | close
  | fsync
  | link
  | removeTemp
  | logStored
  | commit
  | rollback
  | logFailure
  | commitFailure
  | rollbackFailure
  | refresh
  deriving DecidableEq, Repr

inductive StoreEvent where
  | contentStored (uploadId : Uuid) (filename contentType : String) (sizeBytes : Nat)
  | storeFailed (uploadId : Uuid) (reason : String) (expectedSizeBytes actualSizeBytes : Nat)
  deriving DecidableEq, Repr

/--
The store and the session of the request, the temporary file, and the variables that the
handlers read.  The awaits end as scheduled; what has become of them is kept.
-/
structure StoreCall where
  store : UploadStore
  session : Table Uuid StoredUpload
  events : List StoreEvent
  pendingEvents : List StoreEvent
  temp : Option Bytes
  totalSize : Nat
  finalizedHere : Bool
  failureReason : String
  schedule : List AwaitOutcome
  log : List (StorageStep × AwaitOutcome)

def opened (store : UploadStore) (schedule : List AwaitOutcome) : StoreCall where
  store := store
  session := store.rows
  events := []
  pendingEvents := []
  temp := none
  totalSize := 0
  finalizedHere := false
  failureReason := "storage_error"
  schedule := schedule
  log := []

abbrev Action (α : Type) : Type :=
  EStateM StoreFault StoreCall α

/-- The outcome of the next await; when nothing is scheduled it completes. -/
def nextOutcome (step : StorageStep) : Action AwaitOutcome := do
  let s ← get
  let outcome := s.schedule.headD AwaitOutcome.completes
  set { s with schedule := s.schedule.tail, log := s.log ++ [(step, outcome)] }
  pure outcome

def awaiting (step : StorageStep) (perform : StoreCall -> StoreCall) : Action Unit := do
  match ← nextOutcome step with
  | AwaitOutcome.completes => modify perform
  | AwaitOutcome.raises => throw StoreFault.exception
  | AwaitOutcome.cancelled true => do
      modify perform
      throw StoreFault.cancelled
  | AwaitOutcome.cancelled false => throw StoreFault.cancelled

def refuseWith {α : Type} (reason : String) (failure : Failure) : Action α := do
  modify (fun s => { s with failureReason := reason })
  throw (StoreFault.app failure)

def appendTemp (bytes : Bytes) (s : StoreCall) : StoreCall :=
  { s with temp := s.temp.map (fun written => written ++ bytes) }

section

variable (env : StorageEnv) (uploadMaxSizeBytes : Nat)

/-!
# Receiving
-/

/-- The encryptor, the plaintext not yet encrypted, and what the digest has seen. -/
structure Receiving where
  encryptor : UploadChunkEncryptor
  pending : Bytes
  digested : Bytes

def encryptedFrame (encryptor : UploadChunkEncryptor) (chunk : Bytes) :
    Action (Bytes × UploadChunkEncryptor) :=
  attempt ((encryptChunk env.crypto encryptor chunk).mapError (fun _ => StoreFault.exception))

/-- Every round takes a full chunk, so the length of the buffer bounds the rounds. -/
def drainPending : Nat -> Receiving -> Action Receiving
  | 0, receiving => pure receiving
  | fuel + 1, receiving =>
      if uploadEncryptionChunkSize ≤ receiving.pending.length then do
        let frame ← encryptedFrame env receiving.encryptor
          (receiving.pending.take uploadEncryptionChunkSize)
        awaiting StorageStep.write (appendTemp frame.1)
        drainPending fuel { receiving with
          encryptor := frame.2
          pending := receiving.pending.drop uploadEncryptionChunkSize }
      else pure receiving

def configuredMax : Nat :=
  max 1 uploadMaxSizeBytes

def tooLarge {α : Type} : Action α :=
  refuseWith "configured_size_exceeded" (appError "file too large" 413 "PAYLOAD_TOO_LARGE")

def sizeMismatch {α : Type} : Action α :=
  refuseWith "size_mismatch" (appError "uploaded size mismatch" 400 "VALIDATION_ERROR")

/-- One slice of a received chunk. -/
def receiveSlice (expectedSize : Nat) (receiving : Receiving) (slice : Bytes) :
    Action Receiving := do
  let s ← get
  let nextTotal := s.totalSize + slice.length
  if configuredMax uploadMaxSizeBytes < nextTotal then tooLarge
  else if expectedSize < nextTotal then sizeMismatch
  else do
    let pending := receiving.pending ++ slice
    let drained ← drainPending env pending.length { receiving with
      pending := pending
      digested := receiving.digested ++ slice }
    modify (fun s => { s with totalSize := nextTotal })
    pure drained

/-- One item of the stream; `none` is an item that is not bytes. -/
def receiveItem (expectedSize : Nat) (receiving : Receiving) (item : Option Bytes) :
    Action Receiving := do
  awaiting StorageStep.receive id
  match item with
  | none =>
      refuseWith "invalid_stream_chunk" (appError "invalid upload stream" 400 "VALIDATION_ERROR")
  | some received =>
      (pieces uploadEncryptionChunkSize received).foldlM
        (receiveSlice env uploadMaxSizeBytes expectedSize) receiving

def writePending (receiving : Receiving) : Action UploadChunkEncryptor :=
  if receiving.pending = [] then pure receiving.encryptor
  else do
    let frame ← encryptedFrame env receiving.encryptor receiving.pending
    awaiting StorageStep.write (appendTemp frame.1)
    pure frame.2

/-- The body of the block in which the temporary file is open. -/
def writeTemp (upload : StoredUpload) (encryptor : UploadChunkEncryptor)
    (content : List (Option Bytes)) : Action Unit := do
  awaiting StorageStep.write (appendTemp encryptor.header.encoded)
  let receiving ← content.foldlM (receiveItem env uploadMaxSizeBytes upload.sizeBytes)
    { encryptor := encryptor, pending := [], digested := [] }
  awaiting StorageStep.receive id
  let s ← get
  if s.totalSize ≠ upload.sizeBytes then sizeMismatch
  else if checksumMatches env.crypto upload.checksum receiving.digested = false then
    refuseWith "checksum_mismatch" (appError "checksum mismatch" 400 "VALIDATION_ERROR")
  else do
    let encryptor ← writePending env receiving
    attempt ((finalizeEncryptor encryptor).mapError (fun _ => StoreFault.exception))
    awaiting StorageStep.flush id

/-!
# Finalizing
-/

def alreadyStored {α : Type} : Action α :=
  refuseWith "already_stored"
    (appError "upload content is already stored" 409 "UPLOAD_IMMUTABLE")

/-- `os.link`, which does not overwrite. -/
def linkTemp (path : String) (s : StoreCall) : StoreCall :=
  match s.store.files.get path with
  | some _ => s
  | none => { s with store := { s.store with files := s.store.files.set path s.temp } }

def linkFinal (path : String) : Action Unit := do
  let s ← get
  match s.store.files.get path with
  | some _ => do
      awaiting StorageStep.link id
      alreadyStored
  | none => awaiting StorageStep.link (linkTemp path)

def storedRow (fileId : Uuid) (upload : StoredUpload) : StoredUpload :=
  { upload with
    publicUrl := some (attachmentUrl fileId)
    storageEncryptionVersion := 1
    storageKeyId := some env.crypto.activeKeyId }

def commitSession (s : StoreCall) : StoreCall :=
  { s with
    store := { s.store with rows := s.session }
    events := s.events ++ s.pendingEvents
    pendingEvents := [] }

def rollbackSession (s : StoreCall) : StoreCall :=
  { s with session := s.store.rows, pendingEvents := [] }

def logEvent (event : StoreEvent) (s : StoreCall) : StoreCall :=
  { s with pendingEvents := s.pendingEvents ++ [event] }

/-- What is done inside the `try` of the call. -/
def storeBody (fileId : Uuid) (upload : StoredUpload) (path : String)
    (encryptor : UploadChunkEncryptor) (content : List (Option Bytes)) : Action Unit := do
  let s ← get
  if hasText upload.publicUrl = true ∨ (s.store.files.get path).isSome = true then alreadyStored
  else if configuredMax uploadMaxSizeBytes < upload.sizeBytes then tooLarge
  else do
    awaiting StorageStep.openTemp (fun s => { s with temp := some [] })
    tryFinally (writeTemp env uploadMaxSizeBytes upload encryptor content)
      (awaiting StorageStep.close id)
    awaiting StorageStep.fsync id
    linkFinal path
    modify (fun s => { s with finalizedHere := true })
    awaiting StorageStep.removeTemp (fun s => { s with temp := none })
    modify (fun s => { s with
      session := s.session.set fileId (some (storedRow env fileId upload)) })
    awaiting StorageStep.logStored (logEvent
      (StoreEvent.contentStored fileId upload.filename upload.contentType upload.sizeBytes))
    awaiting StorageStep.commit commitSession

/-- `_safe_log_event` with a commit of its own. -/
def safeLogEvent (event : StoreEvent) : Action Unit :=
  tryCatch (do
    awaiting StorageStep.logFailure (logEvent event)
    awaiting StorageStep.commitFailure commitSession)
    (fun fault => match fault with
      | StoreFault.cancelled => throw StoreFault.cancelled
      | _ => awaiting StorageStep.rollbackFailure rollbackSession)

/-- What both handlers do before they raise. -/
def cleanUp (fileId : Uuid) (upload : StoredUpload) (path : String) : Action Unit := do
  modify (fun s =>
    if s.finalizedHere then
      { s with store := { s.store with files := s.store.files.set path none } }
    else s)
  awaiting StorageStep.rollback rollbackSession
  let s ← get
  safeLogEvent (StoreEvent.storeFailed fileId s.failureReason upload.sizeBytes s.totalSize)

def handleFault (fileId : Uuid) (upload : StoredUpload) (path : String) :
    StoreFault -> Action Unit
  | StoreFault.app failure => do
      cleanUp fileId upload path
      throw (StoreFault.app failure)
  | StoreFault.exception => do
      cleanUp fileId upload path
      throw (StoreFault.app (appError "failed to store upload" 500 "UPLOAD_STORE_FAILED"))
  | StoreFault.cancelled => throw StoreFault.cancelled

def storeUploadContent (noncePrefix : Bytes) (actorUserId fileId : Uuid)
    (content : List (Option Bytes)) : Action StoredUpload := do
  awaiting StorageStep.selectRow id
  let s ← get
  let notFound := StoreFault.app (appError "upload not found" 404 "NOT_FOUND")
  let upload ← attempt (orFail (s.session.get fileId) notFound)
  attempt (require (upload.ownerUserId == actorUserId) notFound)
  let path ← attempt (orFail (env.resolvePath upload.storagePath) notFound)
  let encryptor ← attempt ((newUploadChunkEncryptor env.crypto fileId env.crypto.activeKeyId
    upload.sizeBytes noncePrefix).mapError (fun _ => StoreFault.exception))
  tryFinally
    (tryCatch (storeBody env uploadMaxSizeBytes fileId upload path encryptor content)
      (handleFault fileId upload path))
    (modify (fun s => { s with temp := none }))
  awaiting StorageStep.refresh id
  pure (storedRow env fileId upload)

end

end ContentStorage

end MessagingSystem
