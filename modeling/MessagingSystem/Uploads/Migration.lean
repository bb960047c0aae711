import MessagingSystem.Foundation.Keyset
import MessagingSystem.Messages.Service
import MessagingSystem.Uploads.EncryptedFiles

/-!
# Serving and migrating stored uploads

The download route decides from the committed row and from the file at its path how the
content is read.  The maintenance command goes through all rows in batches: it replaces files
one by one, and commits the rows of a batch together.  It can die between any two of these
effects, and then the rows that are not committed are lost while the files stay replaced.
-/

namespace MessagingSystem

open Foundation

/-- An upload with the columns about its storage. -/
structure StoredUpload extends Upload where
  checksum : Option String
  storagePath : String
  storageEncryptionVersion : Nat
  storageKeyId : Option String

/-- The committed rows, and the files by resolved path. -/
structure UploadStore where
  rows : Table Uuid StoredUpload
  files : Table String Bytes

/-- `resolvePath` is `_resolve_upload_path` under the configured directory. -/
structure StorageEnv where
  crypto : UploadCrypto
  allowLegacyPlaintextUploads : Bool
  resolvePath : String -> Option String

def UploadStore.fileOf (env : StorageEnv) (store : UploadStore) (upload : StoredUpload) :
    Option Bytes :=
  (env.resolvePath upload.storagePath).bind store.files.get

section

variable (env : StorageEnv)

/-!
# Downloads
-/

inductive UploadResponse where
  | encryptedFile (keyId : String)
  | plainFile
  deriving DecidableEq, Repr

/-- The header check of the route, with the key that the stream is then opened with. -/
def acceptEncrypted (id : Uuid) (upload : StoredUpload) (encryptedKeyId : Option String)
    (file : Bytes) : Except Failure UploadResponse :=
  let checked := do
    let opened ← readUploadEncryptionHeader env.crypto file (some id) encryptedKeyId
    require (opened.1.plaintextSize == upload.sizeBytes)
      (UploadFault.integrity "encrypted upload size metadata mismatch")
    pure (UploadResponse.encryptedFile opened.1.keyId)
  checked.mapError (fun _ =>
    appError "upload storage integrity validation failed" 500 "DECRYPTION_FAILED")

/-- `get_upload_content`, for a user who may read the upload. -/
def getUploadContent (rangeHeader : Option String) (id : Uuid) (upload : StoredUpload)
    (stored : Option Bytes) : Except Failure UploadResponse := do
  let file ← orFail stored (appError "upload content not found" 404 "NOT_FOUND")
  let version := upload.storageEncryptionVersion
  require (version == 0 || version == 1 && hasText upload.storageKeyId)
    (appError "upload storage metadata is invalid" 500 "DECRYPTION_FAILED")
  let encryptedStorage := version == 1 || fileHasEncryptedUploadMagic file
  require (encryptedStorage || env.allowLegacyPlaintextUploads)
    (appError "plaintext upload storage is not permitted" 500 "DECRYPTION_FAILED")
  require (!(encryptedStorage && hasText rangeHeader))
    (appError "range requests are not supported for encrypted uploads" 416
      "RANGE_NOT_SUPPORTED")
  if encryptedStorage then
    acceptEncrypted env id upload (if version == 1 then upload.storageKeyId else none) file
  else pure UploadResponse.plainFile

/-- The bytes of the response. -/
def UploadResponse.body (id : Uuid) (upload : StoredUpload) (file : Bytes) :
    UploadResponse -> Except UploadFault Bytes
  | encryptedFile keyId => decryptedUpload env.crypto file id (some keyId) upload.sizeBytes
  | plainFile => pure file

/-- What a download of the whole upload is answered with, if all of it is. -/
def servedContent (store : UploadStore) (id : Uuid) : Option Bytes := do
  let upload ← store.rows.get id
  let file ← store.fileOf env upload
  let response ← (getUploadContent env none id upload (some file)).toOption
  (response.body env id upload file).toOption

/-!
# The migration of one upload
-/

inductive MigrationFault where
  | runtime (message : String)
  | app (failure : Failure)
  | upload (fault : UploadFault)
  /-- The process has died. -/
  | crashed
  deriving DecidableEq, Repr

inductive MigrationCount where
  | pendingMissing
  | reencrypted
  | metadataRepaired
  | unchanged
  | encrypted
  deriving DecidableEq, Repr

/-- The row to commit, the file that replaces the stored one, and the counter. -/
structure UploadChange where
  row : StoredUpload
  replacement : Option Bytes
  count : MigrationCount

section

variable (target : String) (rotateV1 : Bool) (noncePrefix : Bytes) (id : Uuid)
  (upload : StoredUpload)

def encryptedUploadChange (file : Bytes) : Except MigrationFault UploadChange := do
  let header ← (validateEncryptedUploadFile env.crypto file id none upload.sizeBytes
    upload.checksum).mapError MigrationFault.upload
  if rotateV1 && header.keyId != target then do
    let rotated ← (reencryptUploadFile env.crypto file id header.keyId target upload.sizeBytes
      upload.checksum noncePrefix).mapError MigrationFault.upload
    pure
      { row := { upload with storageEncryptionVersion := 1, storageKeyId := some target }
        replacement := some rotated
        count := MigrationCount.reencrypted }
  else
    pure
      { row := { upload with storageEncryptionVersion := 1, storageKeyId := some header.keyId }
        replacement := none
        count := if upload.storageEncryptionVersion != 1 then MigrationCount.metadataRepaired
          else MigrationCount.unchanged }

def plaintextUploadChange (file : Bytes) : Except MigrationFault UploadChange := do
  require env.allowLegacyPlaintextUploads
    (MigrationFault.runtime "plaintext upload migration compatibility is disabled")
  let encrypted ← (encryptPlaintextFile env.crypto file id target upload.sizeBytes
    upload.checksum noncePrefix).mapError MigrationFault.upload
  pure
    { row := { upload with storageEncryptionVersion := 1, storageKeyId := some target }
      replacement := some encrypted
      count := MigrationCount.encrypted }

def uploadChange (stored : Option Bytes) : Except MigrationFault UploadChange :=
  match stored with
  | none => do
      require (!hasText upload.publicUrl)
        (MigrationFault.runtime "a finalized upload file is missing")
      pure { row := upload, replacement := none, count := MigrationCount.pendingMissing }
  | some file => do
      let encrypted := fileHasEncryptedUploadMagic file
      require (!(upload.storageEncryptionVersion == 1 && !encrypted))
        (MigrationFault.runtime "encrypted upload metadata references a non-encrypted file")
      if encrypted then encryptedUploadChange env target rotateV1 noncePrefix id upload file
      else plaintextUploadChange env target noncePrefix id upload file

end

/-!
# The command
-/

structure MigrationCounts where
  pendingMissing : Nat
  reencrypted : Nat
  metadataRepaired : Nat
  unchanged : Nat
  encrypted : Nat
  deriving DecidableEq, Repr

def MigrationCounts.zero : MigrationCounts :=
  ⟨0, 0, 0, 0, 0⟩

def MigrationCounts.add (counts : MigrationCounts) : MigrationCount -> MigrationCounts
  | MigrationCount.pendingMissing => { counts with pendingMissing := counts.pendingMissing + 1 }
  | MigrationCount.reencrypted => { counts with reencrypted := counts.reencrypted + 1 }
  | MigrationCount.metadataRepaired =>
      { counts with metadataRepaired := counts.metadataRepaired + 1 }
  | MigrationCount.unchanged => { counts with unchanged := counts.unchanged + 1 }
  | MigrationCount.encrypted => { counts with encrypted := counts.encrypted + 1 }

/--
The store, the rows as the open transaction sees them, and the number of effects after which
the process dies, if it does.
-/
structure MigrationState where
  store : UploadStore
  session : Table Uuid StoredUpload
  counts : MigrationCounts
  budget : Option Nat

def UploadStore.opened (store : UploadStore) (budget : Option Nat) : MigrationState where
  store := store
  session := store.rows
  counts := MigrationCounts.zero
  budget := budget

/-- Something that others can see happens, unless the process dies before. -/
def visibly (change : UploadStore -> Table Uuid StoredUpload -> UploadStore) :
    EStateM MigrationFault MigrationState Unit := do
  let s ← get
  match s.budget with
  | some 0 => throw MigrationFault.crashed
  | some (budget + 1) =>
      set { s with store := change s.store s.session, budget := some budget }
  | none => set { s with store := change s.store s.session }

/-- `os.replace`, if there is a new file. -/
def placeFile (path : String) : Option Bytes -> EStateM MigrationFault MigrationState Unit
  | some file =>
      visibly (fun store _ => { store with files := store.files.set path (some file) })
  | none => pure ()

/-- What `os.urandom` returns for each file. -/
def NonceSource : Type :=
  { nonces : Uuid -> Bytes // forall id, (nonces id).length = 8 }

section

variable (nonces : NonceSource) (target : String) (rotateV1 : Bool)

def migrateUpload (id : Uuid) : EStateM MigrationFault MigrationState Unit := do
  let s ← get
  match s.session.get id with
  | none => pure ()
  | some upload => do
      let path ← attempt (orFail (env.resolvePath upload.storagePath)
        (MigrationFault.runtime "upload storage path escapes the configured base directory"))
      let change ← attempt
        (uploadChange env target rotateV1 (nonces.1 id) id upload (s.store.files.get path))
      placeFile path change.replacement
      modify (fun s => { s with
        session := s.session.set id (some change.row)
        counts := s.counts.add change.count })

/-- The rows of one batch, committed together. -/
def migrateBatch (ids : List Uuid) : EStateM MigrationFault MigrationState Unit := do
  ids.forM (migrateUpload env nonces target rotateV1)
  visibly (fun store session => { store with rows := session })

end

def requireTargetKey (targetKeyId : Option String) : Except MigrationFault String := do
  let target := if hasText targetKeyId then targetKeyId.getD "" else env.crypto.activeKeyId
  require (env.crypto.masterKey target).isSome (MigrationFault.app
    (appError "referenced data encryption key is unavailable" 500 "ENCRYPTION_FAILED"))
  require (target == env.crypto.activeKeyId)
    (MigrationFault.runtime "rotation target must match DATA_ENCRYPTION_ACTIVE_KEY_ID")
  pure target

/-- Every batch has a row that is later than all before it, so the rows bound the rounds. -/
def migrateUploads (nonces : NonceSource) (batchSize : Nat) (targetKeyId : Option String)
    (rotateV1 : Bool) : EStateM MigrationFault MigrationState MigrationCounts := do
  let target ← attempt (requireTargetKey env targetKeyId)
  let s ← get
  keysetLoop BitVec.toNat (fun s : MigrationState => s.session.keys) batchSize
    (migrateBatch env nonces target rotateV1) (s.session.keys.length + 1) none
  let s ← get
  pure s.counts

/-!
# What downloads depend on
-/

variable {env}

theorem servedContent_eq_some {store : UploadStore} {id : Uuid} {data : Bytes} :
    servedContent env store id = some data ↔ exists upload file response,
      store.rows.get id = some upload ∧ store.fileOf env upload = some file ∧
      getUploadContent env none id upload (some file) = Except.ok response ∧
      response.body env id upload file = Except.ok data := by
  simp only [servedContent, Option.bind_eq_bind, Option.bind_eq_some_iff, toOption_eq_some,
    exists_and_left]

/-- An encrypted file is opened with its own key, unless the row names another one. -/
theorem acceptEncrypted_eq_ok {id : Uuid} {upload : StoredUpload} {keyId : String}
    {data file : Bytes} {expectedKeyId : Option String} {response : UploadResponse}
    (h : IsUploadFile env.crypto id keyId data file) (hsize : upload.sizeBytes = data.length) :
    acceptEncrypted env id upload expectedKeyId file = Except.ok response ↔
      (forall key, expectedKeyId = some key -> key = keyId) ∧
        response = UploadResponse.encryptedFile keyId := by
  rcases h.readHeader with ⟨header, rest, _, hkeyId, hplaintext, hread⟩
  have hmatches : (header.plaintextSize == upload.sizeBytes) = true := by
    rw [hplaintext, hsize]
    exact beq_self_eq_true _
  unfold acceptEncrypted
  rw [mapError_eq_ok, hread]
  constructor
  · intro hok
    rcases bind_eq_ok.mp hok with ⟨opened, hopened, hok⟩
    rcases bind_eq_ok.mp hopened with ⟨_, hexpected, hopened⟩
    rcases bind_eq_ok.mp hok with ⟨_, _, hok⟩
    refine ⟨checkExpected_eq_ok.mp hexpected, ?_⟩
    rw [← pure_eq_ok.mp hok, ← pure_eq_ok.mp hopened, hkeyId]
  · rintro ⟨hexpected, hresponse⟩
    rw [(checkExpected_eq_ok (u := ())).mpr hexpected, hresponse, ← hkeyId]
    refine bind_eq_ok.mpr ⟨(header, rest), rfl, ?_⟩
    exact bind_eq_ok.mpr ⟨(), require_eq_ok.mpr hmatches, rfl⟩

end

end MessagingSystem
