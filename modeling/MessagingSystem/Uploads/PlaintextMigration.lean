import MessagingSystem.Uploads.Rotation

/-!
# Migrating plaintext uploads

Whether a file of version 0 counts as encrypted is decided from its first bytes.  A plaintext
that starts with the magic of the encrypted format is read as an encrypted file, and as such
it is never accepted, because it is as long as the row says its content is.
-/

namespace MessagingSystem

open Foundation

section

variable (env : StorageEnv)

/-- A finalized upload of version 0, whose file is the data. -/
structure PlainUpload (store : UploadStore) (id : Uuid) (upload : StoredUpload)
    (data : Bytes) : Prop where
  finalized : hasText upload.publicUrl = true
  version : upload.storageEncryptionVersion = 0
  keyless : upload.storageKeyId = none
  size : upload.sizeBytes = data.length
  checksum : checksumMatches env.crypto upload.checksum data = true
  file : store.fileOf env upload = some data

/-- All uploads of the store are plaintext, each in a file of its own. -/
structure PlainStore (content : Uuid -> Bytes) (store : UploadStore) : Prop where
  plain : forall id upload, store.rows.get id = some upload ->
    PlainUpload env store id upload (content id)
  apart : forall id id' upload upload' path, store.rows.get id = some upload ->
    store.rows.get id' = some upload' -> env.resolvePath upload.storagePath = some path ->
    env.resolvePath upload'.storagePath = some path -> id = id'

/-- What the format can hold and does not take for an encrypted file. -/
def Migratable (data : Bytes) : Prop :=
  fileHasEncryptedUploadMagic data = false ∧ data.length ≤ uploadEncryptionMaxPlaintextSize

variable {env} {store : UploadStore} {id : Uuid} {upload : StoredUpload} {data : Bytes}

/-!
# Downloads before the migration
-/

theorem PlainUpload.served (h : PlainUpload env store id upload data)
    (hlegacy : env.allowLegacyPlaintextUploads = true)
    (hrow : store.rows.get id = some upload)
    (hmagic : fileHasEncryptedUploadMagic data = false) :
    servedContent env store id = some data := by
  refine servedContent_eq_some.mpr ⟨upload, data, UploadResponse.plainFile, hrow, h.file, ?_, rfl⟩
  unfold getUploadContent
  simp only [orFail, pure_bind, h.version, hmagic, hlegacy]
  rfl

/-- A plaintext with the magic is not served. -/
theorem PlainUpload.not_magic (h : PlainUpload env store id upload data)
    (hrow : store.rows.get id = some upload)
    (hserved : servedContent env store id = some data) :
    fileHasEncryptedUploadMagic data = false := by
  rcases servedContent_eq_some.mp hserved with
    ⟨upload', file, response, hrow', hfile, hresponse, hbody⟩
  rw [Option.some.inj (hrow'.symm.trans hrow)] at hfile hresponse hbody
  rw [Option.some.inj (hfile.symm.trans h.file)] at hresponse hbody
  cases hmagic : fileHasEncryptedUploadMagic data with
  | false => rfl
  | true =>
      have haccept : acceptEncrypted env id upload none data = Except.ok response := by
        unfold getUploadContent at hresponse
        simp only [orFail, pure_bind, h.version, hmagic] at hresponse
        exact hresponse
      rcases bind_eq_ok.mp (mapError_eq_ok.mp haccept) with ⟨opened, _, haccept⟩
      rcases bind_eq_ok.mp haccept with ⟨_, _, haccept⟩
      rw [← pure_eq_ok.mp haccept] at hbody
      -- The decoder would need more bytes than the row says there are.
      rcases bind_eq_ok.mp hbody with ⟨read, hread, _⟩
      have hlt := (foldUploadFile_bounds hread).1
      rw [h.size] at hlt
      exact absurd hlt (Nat.lt_irrefl _)

/-!
# The change of one upload
-/

/-- What the command does with a plaintext upload. -/
structure EncryptionChange (env : StorageEnv) (target : String) (id : Uuid)
    (upload : StoredUpload) (data : Bytes) (change : UploadChange) : Prop where
  row : change.row
    = { upload with storageEncryptionVersion := 1, storageKeyId := some target }
  file : exists file, change.replacement = some file ∧
    IsUploadFile env.crypto id target data file

theorem PlainUpload.uploadChange {target : String} {targetKeyId : Option String}
    {noncePrefix : Bytes} {rotateV1 : Bool} (h : PlainUpload env store id upload data)
    (htarget : TargetKey env targetKeyId target) (hlength : noncePrefix.length = 8)
    (hlegacy : env.allowLegacyPlaintextUploads = true) (hdata : Migratable data) :
    exists change, MessagingSystem.uploadChange env target rotateV1 noncePrefix id upload
        (some data) = Except.ok change ∧ EncryptionChange env target id upload data change := by
  rcases htarget.cipher id with ⟨key, hkey⟩
  rcases encryptPlaintextFile_eq_ok htarget.wellFormed hdata.2 hlength hkey h.checksum with
    ⟨file, hfile, henc⟩
  rw [← h.size] at hfile
  let change : UploadChange :=
    { row := { upload with storageEncryptionVersion := 1, storageKeyId := some target }
      replacement := some file
      count := MigrationCount.encrypted }
  refine ⟨change, ?_, rfl, file, rfl, henc⟩
  unfold MessagingSystem.uploadChange plaintextUploadChange
  simp only [hdata.1, h.version, hlegacy, hfile]
  rfl

section

variable {content : Uuid -> Bytes} {start : UploadStore} {targetKeyId : Option String}
  {target : String} {rotateV1 : Bool} {batchSize : Nat}

theorem PlainStore.run_completes (h : PlainStore env content start)
    (hlegacy : env.allowLegacyPlaintextUploads = true)
    (htarget : TargetKey env targetKeyId target) (hsize : 0 < batchSize)
    (hcontent : forall id, (start.rows.get id).isSome = true -> Migratable (content id))
    (nonces : NonceSource) :
    exists counts s, migrateUploads env nonces batchSize targetKeyId rotateV1
        (start.opened none) = EStateM.Result.ok counts s ∧
      StoredUnder env content target start s.store := by
  have hplanned : exists change, Planned env nonces target rotateV1 start change ∧
      forall id upload, start.rows.get id = some upload -> exists path,
        env.resolvePath upload.storagePath = some path ∧
        EncryptionChange env target id upload (content id) (change id) := by
    refine exists_planned (fun id upload _ change =>
      EncryptionChange env target id upload (content id) change) ?_ h.apart
    intro id upload hrow
    have hplain := h.plain id upload hrow
    rcases fileOf_eq_some.mp hplain.file with ⟨path, hpath, hget⟩
    rcases hplain.uploadChange htarget (nonces.2 id) hlegacy
      (hcontent id (Option.isSome_iff_exists.mpr ⟨upload, hrow⟩)) with ⟨change, hok, hchange⟩
    rw [← hget] at hok
    exact ⟨path, change, hpath, hok, hchange⟩
  rcases hplanned with ⟨change, hplan, hchanges⟩
  rcases migrateUploads_completes htarget.required hsize hplan with ⟨s, hrun, hs⟩
  refine ⟨_, s, hrun, ?_, ?_, ?_⟩
  · intro id hnone
    rw [hs.rows, rowAfter, hnone]
    split <;> rfl
  · intro id upload hrow
    rcases hchanges id upload hrow with ⟨_, _, hchange⟩
    have hmem : id ∈ start.order := by
      rw [UploadStore.mem_order, hrow]
      rfl
    rw [hs.rows, rowAfter_of_mem hrow hmem, hchange.row]
  · intro id upload hrow
    rcases hchanges id upload hrow with ⟨path, hpath, hchange⟩
    rcases hchange.file with ⟨file, hreplacement, henc⟩
    have hmem : id ∈ start.order := by
      rw [UploadStore.mem_order, hrow]
      rfl
    have hget := hs.files id upload path hrow hpath
    rw [fileAfter, if_pos hmem, hreplacement, Option.some_or] at hget
    have hplain := h.plain id upload hrow
    have hexpected : forall key, some target = some key -> key = target :=
      fun _ heq => (Option.some.inj heq).symm
    rcases henc.validate hexpected hplain.checksum with ⟨header, hkeyId, hvalid⟩
    rw [hplain.size]
    exact ⟨file, header, fileOf_eq_some.mpr ⟨path, hpath, hget⟩, hkeyId, hvalid,
      henc.decrypted_eq_ok hexpected⟩

theorem plaintext_migration_iff (h : PlainStore env content start)
    (hlegacy : env.allowLegacyPlaintextUploads = true)
    (htarget : TargetKey env targetKeyId target) (hsize : 0 < batchSize)
    (nonces : NonceSource) :
    ((exists counts s, migrateUploads env nonces batchSize targetKeyId rotateV1
          (start.opened none) = EStateM.Result.ok counts s ∧
        StoredUnder env content target start s.store) ∧
      forall id, (start.rows.get id).isSome = true ->
        servedContent env start id = some (content id)) ↔
    forall id, (start.rows.get id).isSome = true -> Migratable (content id) := by
  constructor
  · rintro ⟨⟨counts, s, _, hstored⟩, hserved⟩ id hid
    rcases Option.isSome_iff_exists.mp hid with ⟨upload, hrow⟩
    have hplain := h.plain id upload hrow
    refine ⟨hplain.not_magic hrow (hserved id hid), ?_⟩
    rcases hstored.file id upload hrow with ⟨file, header, _, _, hvalid, _⟩
    rcases bind_eq_ok.mp hvalid with ⟨read, hread, _⟩
    rw [← hplain.size]
    exact (foldUploadFile_bounds hread).2
  · intro hcontent
    refine ⟨h.run_completes hlegacy htarget hsize hcontent nonces, ?_⟩
    intro id hid
    rcases Option.isSome_iff_exists.mp hid with ⟨upload, hrow⟩
    exact (h.plain id upload hrow).served hlegacy hrow (hcontent id hid).1

end

end

/-!
# A store with one plaintext upload
-/

def plainUpload (data : Bytes) : StoredUpload :=
  { oneUpload with
    sizeBytes := data.length
    checksum := some (Digest.hex (sha256 data))
    storageEncryptionVersion := 0
    storageKeyId := none }

def plainStore (data : Bytes) : UploadStore where
  rows := Table.empty.set 7 (some (plainUpload data))
  files := Table.empty.set "1/a.txt" (some data)

theorem plainStore_get {data : Bytes} {id : Uuid} {upload : StoredUpload}
    (h : (plainStore data).rows.get id = some upload) :
    id = 7 ∧ upload = plainUpload data := by
  have h : (Table.set Table.empty 7 (some (plainUpload data))).get id = some upload := h
  rcases Table.get_set_some_cases h with hrow | ⟨_, h⟩
  · exact hrow
  · cases h

theorem plainStore_plain {data : Bytes}
    (hchecksum : checksumMatches sampleUploadCrypto (plainUpload data).checksum data = true) :
    PlainStore oneUploadEnv (fun _ => data) (plainStore data) := by
  constructor
  · intro id upload hrow
    rw [(plainStore_get hrow).2]
    refine ⟨(by decide : hasText oneUpload.publicUrl = true), rfl, rfl, rfl, hchecksum, ?_⟩
    show (Table.set Table.empty "1/a.txt" (some data)).get "1/a.txt" = some data
    rw [Table.get_set_self]
  · intro id id' _ _ _ hrow hrow' _ _
    rw [(plainStore_get hrow).1, (plainStore_get hrow').1]

/-- A text that starts with `MSGUPENC` is neither served nor migrated. -/
theorem magic_plaintext_not_migrated :
    PlainStore oneUploadEnv (fun _ => uploadEncryptionMagic) (plainStore uploadEncryptionMagic) ∧
    servedContent oneUploadEnv (plainStore uploadEncryptionMagic) 7 = none ∧
    (match migrateUploads oneUploadEnv zeroNonces 1 none false
        ((plainStore uploadEncryptionMagic).opened none) with
      | EStateM.Result.ok _ _ => false
      | EStateM.Result.error fault _ =>
          fault == MigrationFault.upload (UploadFault.format "truncated encrypted upload"))
      = true := by
  refine ⟨plainStore_plain (by decide +kernel), ?_, ?_⟩
  · decide +kernel
  · decide +kernel

theorem plainStore_migrated :
    (exists counts s, migrateUploads oneUploadEnv zeroNonces 1 none false
        ((plainStore [65]).opened none) = EStateM.Result.ok counts s ∧
      StoredUnder oneUploadEnv (fun _ => [65]) "k2" (plainStore [65]) s.store) ∧
    forall id, ((plainStore [65]).rows.get id).isSome = true ->
      servedContent oneUploadEnv (plainStore [65]) id = some [65] := by
  have htarget : TargetKey oneUploadEnv none "k2" := ⟨by decide, by decide⟩
  refine (plaintext_migration_iff (plainStore_plain (by decide +kernel)) rfl htarget Nat.zero_lt_one
    zeroNonces).mpr ?_
  intro _ _
  exact ⟨by decide, by decide⟩

end MessagingSystem
