import MessagingSystem.Uploads.MigrationRuns

/-!
# Rotating the keys of stored uploads

In a store of encrypted uploads every change of the command is determined: an upload whose
file is under another key is encrypted again, and for the others only the row is repaired.
Whatever a run that dies leaves behind is again a store of encrypted uploads with the same
content, so that the next run starts from the same situation.
-/

namespace MessagingSystem

open Foundation

variable {store : UploadStore} {upload : StoredUpload} {id : Uuid}

section

variable (env : StorageEnv)

/-- A finalized upload of version 1, whose file is an encryption of the data. -/
structure EncryptedUpload (store : UploadStore) (id : Uuid) (upload : StoredUpload)
    (keyId : String) (data : Bytes) : Prop where
  finalized : hasText upload.publicUrl = true
  version : upload.storageEncryptionVersion = 1
  size : upload.sizeBytes = data.length
  checksum : checksumMatches env.crypto upload.checksum data = true
  file : exists file, store.fileOf env upload = some file ∧
    IsUploadFile env.crypto id keyId data file

/-- All uploads of the store are encrypted, each under its key. -/
def EncryptedStore (content : Uuid -> Bytes) (keyOf : Uuid -> String) (store : UploadStore) :
    Prop :=
  forall id upload, store.rows.get id = some upload ->
    EncryptedUpload env store id upload (keyOf id) (content id)

/-- The key that new files are written under. -/
structure TargetKey (targetKeyId : Option String) (target : String) : Prop where
  required : requireTargetKey env targetKeyId = Except.ok target
  wellFormed : isDataKeyId target = true

variable {env} {target : String}

theorem TargetKey.cipher {targetKeyId : Option String} (h : TargetKey env targetKeyId target)
    (id : Uuid) : exists key, aesgcmForUpload env.crypto target id = Except.ok key := by
  rcases bind_eq_ok.mp h.required with ⟨_, hmaster, hrest⟩
  rcases bind_eq_ok.mp hrest with ⟨_, _, heq⟩
  rw [pure_eq_ok.mp heq] at hmaster
  rcases Option.isSome_iff_exists.mp (require_eq_ok.mp hmaster) with ⟨master, hmaster⟩
  refine ⟨env.crypto.hkdf master (uuidBytes id), ?_⟩
  unfold aesgcmForUpload
  rw [hmaster]
  rfl

theorem fileOf_eq_some {file : Bytes} :
    store.fileOf env upload = some file ↔ exists path,
      env.resolvePath upload.storagePath = some path ∧ store.files.get path = some file :=
  Option.bind_eq_some_iff

/-- Two encrypted uploads do not share a file. -/
theorem EncryptedStore.apart {content : Uuid -> Bytes} {keyOf : Uuid -> String}
    (h : EncryptedStore env content keyOf store) {id id' : Uuid}
    {upload upload' : StoredUpload} {path : String} (hrow : store.rows.get id = some upload)
    (hrow' : store.rows.get id' = some upload')
    (hpath : env.resolvePath upload.storagePath = some path)
    (hpath' : env.resolvePath upload'.storagePath = some path) : id = id' := by
  rcases (h id upload hrow).file with ⟨file, hfile, henc⟩
  rcases (h id' upload' hrow').file with ⟨file', hfile', henc'⟩
  have hsame : some file = some file' := by
    rw [← hfile, ← hfile', UploadStore.fileOf, UploadStore.fileOf, hpath, hpath']
  rw [← Option.some.inj hsame] at henc'
  exact henc.uploadId_unique henc'

/-!
# The change of one upload
-/

/-- What the command does with an upload that is encrypted under some key. -/
structure RotationChange (env : StorageEnv) (target : String) (id : Uuid)
    (upload : StoredUpload) (keyId : String) (data file : Bytes) (change : UploadChange) :
    Prop where
  row : change.row = { upload with storageKeyId := some target }
  file : exists rotated, change.replacement.or (some file) = some rotated ∧
    IsUploadFile env.crypto id target data rotated
  settled : keyId = target -> change.replacement = none ∧ change.count = MigrationCount.unchanged

theorem EncryptedUpload.uploadChange {keyId : String} {targetKeyId : Option String}
    {data noncePrefix file : Bytes} (h : EncryptedUpload env store id upload keyId data)
    (htarget : TargetKey env targetKeyId target) (hlength : noncePrefix.length = 8)
    (hfile : store.fileOf env upload = some file) :
    exists change, MessagingSystem.uploadChange env target true noncePrefix id upload (some file)
        = Except.ok change ∧ RotationChange env target id upload keyId data file change := by
  rcases h.file with ⟨file', hfile', henc⟩
  have hsame : file' = file := Option.some.inj (hfile'.symm.trans hfile)
  rw [hsame] at henc
  have hexpected : forall id, (none : Option String) = some id -> id = keyId := by
    intro id hid
    cases hid
  rcases henc.validate hexpected h.checksum with ⟨header, hheader, hvalid⟩
  rcases htarget.cipher id with ⟨key, hkey⟩
  rw [← h.size] at hvalid
  have hversion : { upload with storageEncryptionVersion := 1, storageKeyId := some target }
      = { upload with storageKeyId := some target } := by
    rw [← h.version]
  unfold MessagingSystem.uploadChange
  simp only [henc.magic, Bool.not_true, Bool.and_false, Bool.not_false, if_true]
  show exists change, encryptedUploadChange env target true noncePrefix id upload file
    = Except.ok change ∧ _
  unfold encryptedUploadChange
  rw [hvalid]
  simp only [Except.mapError, ok_bind, hheader, Bool.true_and]
  by_cases heq : keyId = target
  · rw [if_neg (by simp [heq])]
    refine ⟨_, rfl, ?_, ⟨file, rfl, heq ▸ henc⟩, ?_⟩
    · rw [heq]
      exact hversion
    · intro _
      refine ⟨rfl, ?_⟩
      rw [if_neg (by simp [h.version])]
  · rcases henc.reencrypt htarget.wellFormed hlength hkey h.checksum with
      ⟨rotated, hrotated, hrotatedFile⟩
    rw [if_pos (by simp [heq]), h.size, hrotated]
    refine ⟨_, rfl, hversion, ⟨rotated, rfl, hrotatedFile⟩, ?_⟩
    intro hsettled
    exact absurd hsettled heq

/-!
# One run
-/

instance : Inhabited StoredUpload :=
  ⟨{ ownerUserId := 0, filename := "", contentType := "", sizeBytes := 0, publicUrl := none,
     checksum := none, storagePath := "", storageEncryptionVersion := 0, storageKeyId := none }⟩

/-- The changes of all uploads, each found on its own. -/
theorem exists_planned {nonces : NonceSource} {rotateV1 : Bool} {start : UploadStore}
    (P : Uuid -> StoredUpload -> String -> UploadChange -> Prop)
    (hchange : forall id upload, start.rows.get id = some upload ->
      exists path change, env.resolvePath upload.storagePath = some path ∧
        uploadChange env target rotateV1 (nonces.1 id) id upload (start.files.get path)
          = Except.ok change ∧ P id upload path change)
    (hapart : forall id id' upload upload' path, start.rows.get id = some upload ->
      start.rows.get id' = some upload' -> env.resolvePath upload.storagePath = some path ->
      env.resolvePath upload'.storagePath = some path -> id = id') :
    exists change, Planned env nonces target rotateV1 start change ∧
      forall id upload, start.rows.get id = some upload -> exists path,
        env.resolvePath upload.storagePath = some path ∧ P id upload path (change id) := by
  have hchoice : forall id, exists change, forall upload, start.rows.get id = some upload ->
      exists path, env.resolvePath upload.storagePath = some path ∧
        uploadChange env target rotateV1 (nonces.1 id) id upload (start.files.get path)
          = Except.ok change ∧ P id upload path change := by
    intro id
    cases hrow : start.rows.get id with
    | none =>
        refine ⟨⟨default, none, MigrationCount.unchanged⟩, ?_⟩
        intro upload hupload
        cases hupload
    | some upload =>
        rcases hchange id upload hrow with ⟨path, change, hpath, hok, hP⟩
        refine ⟨change, ?_⟩
        intro upload' hupload'
        rw [← Option.some.inj hupload']
        exact ⟨path, hpath, hok, hP⟩
  choose change hall using hchoice
  refine ⟨change, ⟨?_, hapart⟩, ?_⟩
  · intro id upload hupload
    rcases hall id upload hupload with ⟨path, hpath, hok, _⟩
    exact ⟨path, hpath, hok⟩
  · intro id upload hupload
    rcases hall id upload hupload with ⟨path, hpath, _, hP⟩
    exact ⟨path, hpath, hP⟩

section

variable {content : Uuid -> Bytes} {keyOf : Uuid -> String} {start : UploadStore}
  {targetKeyId : Option String} {target : String} {change : Uuid -> UploadChange}

/-- The changes of a run that rotates an encrypted store. -/
def Rotates (env : StorageEnv) (content : Uuid -> Bytes) (keyOf : Uuid -> String)
    (start : UploadStore) (target : String) (change : Uuid -> UploadChange) : Prop :=
  forall id upload, start.rows.get id = some upload -> exists path,
    env.resolvePath upload.storagePath = some path ∧ exists file,
      start.files.get path = some file ∧
        RotationChange env target id upload (keyOf id) (content id) file (change id)

theorem EncryptedStore.exists_rotation (h : EncryptedStore env content keyOf start)
    (htarget : TargetKey env targetKeyId target) (nonces : NonceSource) :
    exists change, Planned env nonces target true start change ∧
      Rotates env content keyOf start target change := by
  refine exists_planned (fun id upload path change => exists file,
    start.files.get path = some file ∧
      RotationChange env target id upload (keyOf id) (content id) file change) ?_
    (fun _ _ _ _ _ => h.apart)
  intro id upload hrow
  rcases (h id upload hrow).file with ⟨file, hfile, _⟩
  rcases fileOf_eq_some.mp hfile with ⟨path, hpath, hget⟩
  rcases (h id upload hrow).uploadChange htarget (nonces.2 id) hfile with
    ⟨change, hok, hchange⟩
  rw [← hget] at hok
  exact ⟨path, change, hpath, hok, file, hget, hchange⟩

/-- The rows are those at the start, but for the key ids. -/
def KeepsColumns (start store : UploadStore) : Prop :=
  forall id, (start.rows.get id = none -> store.rows.get id = none) ∧
    forall upload, start.rows.get id = some upload ->
      exists key, store.rows.get id = some { upload with storageKeyId := key }

theorem KeepsColumns.refl (store : UploadStore) : KeepsColumns store store :=
  fun _ => ⟨fun h => h, fun upload h => ⟨upload.storageKeyId, h⟩⟩

theorem KeepsColumns.trans {first second third : UploadStore} (h : KeepsColumns first second)
    (h' : KeepsColumns second third) : KeepsColumns first third := by
  intro id
  constructor
  · intro hnone
    exact (h' id).1 ((h id).1 hnone)
  · intro upload hupload
    rcases (h id).2 upload hupload with ⟨key, hkey⟩
    rcases (h' id).2 _ hkey with ⟨key', hkey'⟩
    exact ⟨key', hkey'⟩

/-- The key of each file at a point of a run. -/
def keyAfter (keyOf : Uuid -> String) (target : String) (handled : List Uuid) (id : Uuid) :
    String :=
  if id ∈ handled then target else keyOf id

variable {limited : Bool} {handled committed : List Uuid} {s : MigrationState}

section

variable (hs : Snapshot env start change limited handled committed s)
include hs

section

variable (hrotates : Rotates env content keyOf start target change)
include hrotates

theorem Snapshot.rotated_row
    (hrow : start.rows.get id = some upload) :
    s.store.rows.get id = some { upload with
      storageKeyId := if id ∈ committed then some target else upload.storageKeyId } := by
  rw [hs.rows]
  by_cases hmem : id ∈ committed
  · rcases hrotates id upload hrow with ⟨_, _, _, _, hchange⟩
    rw [rowAfter_of_mem hrow hmem, if_pos hmem, hchange.row]
  · rw [rowAfter_of_not_mem hmem, if_neg hmem, hrow]

theorem Snapshot.rotated_file
    (hstart : EncryptedStore env content keyOf start)
    (hrow : start.rows.get id = some upload) :
    exists file, s.store.fileOf env upload = some file ∧
      IsUploadFile env.crypto id (keyAfter keyOf target handled id) (content id) file := by
  rcases hrotates id upload hrow with ⟨path, hpath, old, hold, hchange⟩
  have hget := hs.files id upload path hrow hpath
  unfold fileAfter at hget
  unfold keyAfter
  by_cases hmem : id ∈ handled
  · rcases hchange.file with ⟨rotated, hrotated, hfile⟩
    rw [if_pos hmem, hold, hrotated] at hget
    rw [if_pos hmem]
    exact ⟨rotated, fileOf_eq_some.mpr ⟨path, hpath, hget⟩, hfile⟩
  · rcases (hstart id upload hrow).file with ⟨file, hfile, henc⟩
    rcases fileOf_eq_some.mp hfile with ⟨path', hpath', hfile⟩
    have hsame : path' = path := Option.some.inj (hpath'.symm.trans hpath)
    rw [hsame] at hfile
    rw [if_neg hmem, hfile] at hget
    rw [if_neg hmem]
    exact ⟨file, fileOf_eq_some.mpr ⟨path, hpath, hget⟩, henc⟩

theorem Snapshot.keepsColumns : KeepsColumns start s.store := by
  intro id
  constructor
  · intro hnone
    rw [hs.rows, rowAfter, hnone]
    split <;> rfl
  · intro upload hrow
    exact ⟨_, hs.rotated_row hrotates hrow⟩

/-- What is left behind at any point is an encrypted store with the same content. -/
theorem Snapshot.encryptedStore
    (hstart : EncryptedStore env content keyOf start) :
    EncryptedStore env content (keyAfter keyOf target handled) s.store := by
  intro id row hrow
  cases hupload : start.rows.get id with
  | none =>
      rw [(hs.keepsColumns hrotates id).1 hupload] at hrow
      cases hrow
  | some upload =>
      rw [hs.rotated_row hrotates hupload] at hrow
      have hold := hstart id upload hupload
      rcases hs.rotated_file hrotates hstart hupload with ⟨file, hfile, henc⟩
      rw [← Option.some.inj hrow]
      exact ⟨hold.finalized, hold.version, hold.size, hold.checksum, file, hfile, henc⟩

end

end

end

/-!
# Interrupted runs
-/

/-- The stores that any number of runs leave behind, each of which may have died. -/
inductive AfterRotations (env : StorageEnv) (targetKeyId : Option String)
    (start : UploadStore) : UploadStore -> Prop where
  | start : AfterRotations env targetKeyId start start
  | run {store : UploadStore} (nonces : NonceSource) {batchSize : Nat} (budget : Option Nat) :
      AfterRotations env targetKeyId start store -> 0 < batchSize ->
      AfterRotations env targetKeyId start
        (finalState (migrateUploads env nonces batchSize targetKeyId true)
          (store.opened budget)).store

section

variable {content : Uuid -> Bytes} {keyOf : Uuid -> String} {start : UploadStore}
  {targetKeyId : Option String} {target : String} {change : Uuid -> UploadChange}

/-- Every end of a run, by death or not, is a point that the plan describes. -/
theorem finalState_snapshot {nonces : NonceSource} {batchSize : Nat} (budget : Option Nat)
    (htarget : TargetKey env targetKeyId target) (hsize : 0 < batchSize)
    (hplan : Planned env nonces target true start change) :
    exists handled committed, Snapshot env start change budget.isSome handled committed
      (finalState (migrateUploads env nonces batchSize targetKeyId true)
        (start.opened budget)) := by
  have hrun := migrateUploads_spec budget htarget.required hsize hplan (start.opened budget) rfl
  unfold finalState
  cases hresult : migrateUploads env nonces batchSize targetKeyId true (start.opened budget) with
  | ok counts s =>
      rw [hresult] at hrun
      exact ⟨_, _, hrun.2⟩
  | error fault s =>
      rw [hresult] at hrun
      exact hrun.2.2

theorem AfterRotations.encryptedStore
    (h : AfterRotations env targetKeyId start store) (htarget : TargetKey env targetKeyId target)
    (hstart : EncryptedStore env content keyOf start) :
    KeepsColumns start store ∧ exists keys, EncryptedStore env content keys store := by
  induction h with
  | start => exact ⟨KeepsColumns.refl start, keyOf, hstart⟩
  | run nonces budget _ hsize ih =>
      rcases ih with ⟨hkeeps, keys, hstore⟩
      rcases hstore.exists_rotation htarget nonces with ⟨change, hplan, hrotates⟩
      rcases finalState_snapshot budget htarget hsize hplan with ⟨handled, committed, hs⟩
      exact ⟨hkeeps.trans (hs.keepsColumns hrotates), _, hs.encryptedStore hrotates hstore⟩

/-- All rows and files name the target key, and the content is that at the start. -/
structure StoredUnder (env : StorageEnv) (content : Uuid -> Bytes) (target : String)
    (start store : UploadStore) : Prop where
  missing : forall id, start.rows.get id = none -> store.rows.get id = none
  row : forall id upload, start.rows.get id = some upload -> store.rows.get id
    = some { upload with storageEncryptionVersion := 1, storageKeyId := some target }
  file : forall id upload, start.rows.get id = some upload -> exists file header,
    store.fileOf env upload = some file ∧ header.keyId = target ∧
      validateEncryptedUploadFile env.crypto file id (some target) upload.sizeBytes
        upload.checksum = Except.ok header ∧
      decryptedUpload env.crypto file id (some target) upload.sizeBytes
        = Except.ok (content id)

theorem EncryptedStore.run_completes {batchSize : Nat}
    (h : EncryptedStore env content keyOf store) (htarget : TargetKey env targetKeyId target)
    (hsize : 0 < batchSize) (nonces : NonceSource) :
    exists change s, Rotates env content keyOf store target change ∧
      migrateUploads env nonces batchSize targetKeyId true (store.opened none)
        = EStateM.Result.ok (countsAfter change store.order) s ∧
      Snapshot env store change false store.order store.order s := by
  rcases h.exists_rotation htarget nonces with ⟨change, hplan, hrotates⟩
  rcases migrateUploads_completes htarget.required hsize hplan with ⟨s, hrun, hs⟩
  exact ⟨change, s, hrotates, hrun, hs⟩

theorem Snapshot.rotated {limited : Bool} {s : MigrationState} (hkeeps : KeepsColumns start store)
    (hstart : EncryptedStore env content keyOf start)
    (hstore : exists keys, EncryptedStore env content keys store ∧
      Rotates env content keys store target change)
    (hs : Snapshot env store change limited store.order store.order s) :
    StoredUnder env content target start s.store := by
  rcases hstore with ⟨keys, hstore, hrotates⟩
  refine ⟨?_, ?_, ?_⟩
  · intro id hnone
    exact (hs.keepsColumns hrotates id).1 ((hkeeps id).1 hnone)
  · intro id upload hrow
    rcases (hkeeps id).2 upload hrow with ⟨key, hkey⟩
    have hmem : id ∈ store.order := by
      rw [UploadStore.mem_order, hkey]
      rfl
    rw [hs.rotated_row hrotates hkey, if_pos hmem, ← (hstart id upload hrow).version]
  · intro id upload hrow
    rcases (hkeeps id).2 upload hrow with ⟨key, hkey⟩
    have hmem : id ∈ store.order := by
      rw [UploadStore.mem_order, hkey]
      rfl
    rcases hs.rotated_file hrotates hstore hkey with ⟨file, hfile, henc⟩
    rw [keyAfter, if_pos hmem] at henc
    have hexpected : forall id, some target = some id -> id = target :=
      fun _ heq => (Option.some.inj heq).symm
    rcases henc.validate hexpected (hstart id upload hrow).checksum with ⟨header, hkeyId, hvalid⟩
    rw [(hstart id upload hrow).size]
    exact ⟨file, header, hfile, hkeyId, hvalid, henc.decrypted_eq_ok hexpected⟩

theorem foldl_add_unchanged (counts : List MigrationCount)
    (h : forall count, count ∈ counts -> count = MigrationCount.unchanged)
    (start : MigrationCounts) :
    counts.foldl MigrationCounts.add start
      = { start with unchanged := start.unchanged + counts.length } := by
  induction counts generalizing start with
  | nil => rfl
  | cons count counts ih =>
      rw [List.foldl_cons, h count List.mem_cons_self,
        ih (fun c hc => h c (List.mem_cons_of_mem count hc)), List.length_cons]
      simp only [MigrationCounts.add, Nat.add_assoc, Nat.add_comm 1]

/-- In a rotated store nothing is left to do. -/
theorem Rotates.unchanged (h : Rotates env content (fun _ => target) store target change) :
    countsAfter change store.order
      = { MigrationCounts.zero with unchanged := store.order.length } := by
  unfold countsAfter
  rw [foldl_add_unchanged]
  · simp [MigrationCounts.zero]
  · intro count hcount
    rcases List.mem_map.mp hcount with ⟨id, hid, heq⟩
    rcases Option.isSome_iff_exists.mp (UploadStore.mem_order.mp hid) with ⟨upload, hrow⟩
    rcases h id upload hrow with ⟨_, _, _, _, hchange⟩
    rw [← heq]
    exact (hchange.settled rfl).2

/-- Without further changes the files stay as they are. -/
theorem Snapshot.settled_file {limited : Bool} {handled committed : List Uuid}
    {s : MigrationState} (hs : Snapshot env store change limited handled committed s)
    (hrotates : Rotates env content (fun _ => target) store target change)
    (hrow : store.rows.get id = some upload) :
    s.store.fileOf env upload = store.fileOf env upload := by
  rcases hrotates id upload hrow with ⟨path, hpath, file, hfile, hchange⟩
  have hget := hs.files id upload path hrow hpath
  unfold fileAfter at hget
  rw [(hchange.settled rfl).1, Option.none_or, ite_self] at hget
  rw [UploadStore.fileOf, UploadStore.fileOf, hpath]
  exact hget

/-!
# Downloads during a rotation
-/

/-- Of the encrypted files only those under the key of the committed row are served. -/
theorem EncryptedUpload.served_iff
    {keyId rowKey : String} {data : Bytes} (h : EncryptedUpload env store id upload keyId data)
    (hrow : store.rows.get id = some upload) (hrowKey : upload.storageKeyId = some rowKey)
    (hwellFormed : isDataKeyId rowKey = true) :
    servedContent env store id = some data ↔ rowKey = keyId := by
  rcases h.file with ⟨file, hfile, henc⟩
  have hnotEmpty : hasText (some rowKey) = true := by
    refine bne_iff_ne.mpr ?_
    intro hempty
    have hlength := (isDataKeyId_length hwellFormed).1
    rw [hempty] at hlength
    exact absurd hlength (by decide)
  have hget : getUploadContent env none id upload (some file)
      = acceptEncrypted env id upload (some rowKey) file := by
    unfold getUploadContent
    simp only [orFail, h.version, hrowKey, hnotEmpty]
    rfl
  rw [servedContent_eq_some]
  constructor
  · rintro ⟨upload', file', response, hrow', hfile', hresponse, _⟩
    have hupload : upload' = upload := Option.some.inj (hrow'.symm.trans hrow)
    rw [hupload] at hfile' hresponse
    rw [Option.some.inj (hfile'.symm.trans hfile), hget] at hresponse
    exact ((acceptEncrypted_eq_ok henc h.size).mp hresponse).1 rowKey rfl
  · intro heq
    have hself : forall key, some keyId = some key -> key = keyId :=
      fun _ hsome => (Option.some.inj hsome).symm
    refine ⟨upload, file, UploadResponse.encryptedFile keyId, hrow, hfile, ?_, ?_⟩
    · rw [hget, heq]
      exact (acceptEncrypted_eq_ok henc h.size).mpr ⟨hself, rfl⟩
    · show decryptedUpload env.crypto file id (some keyId) upload.sizeBytes = Except.ok data
      rw [h.size]
      exact henc.decrypted_eq_ok hself

end

end

/-!
# A store with one upload
-/

def oneUploadEnv : StorageEnv where
  crypto := sampleUploadCrypto
  allowLegacyPlaintextUploads := true
  resolvePath := some

def zeroNonces : NonceSource :=
  ⟨fun _ => List.replicate 8 0, fun _ => rfl⟩

def oneUploadHeader : UploadEncryptionHeader :=
  headerUnder sampleUploadCrypto ([1] ++ uuidBytes 7) 7 "k1" 1 (List.replicate 8 0)

def oneUpload : StoredUpload where
  ownerUserId := 1
  filename := "a.txt"
  contentType := "text/plain"
  sizeBytes := 1
  publicUrl := some (attachmentUrl 7)
  checksum := some "559aead08264d5795d3909718cdd05abd49572e84fe55590eef31a88a08fdffd"
  storagePath := "1/a.txt"
  storageEncryptionVersion := 1
  storageKeyId := some "k1"

def oneUploadFile : Bytes :=
  oneUploadHeader.encoded ++
    framesFrom sampleUploadCrypto oneUploadHeader ([1] ++ uuidBytes 7) 0
      (pieces uploadEncryptionChunkSize [65])

def oneUploadStore : UploadStore where
  rows := Table.empty.set 7 (some oneUpload)
  files := Table.empty.set "1/a.txt" (some oneUploadFile)

theorem oneUploadStore_get
    (h : oneUploadStore.rows.get id = some upload) : id = 7 ∧ upload = oneUpload := by
  have h : (Table.set Table.empty 7 (some oneUpload)).get id = some upload := h
  rcases Table.get_set_some_cases h with hrow | ⟨_, h⟩
  · exact hrow
  · cases h

theorem oneUpload_checksum :
    checksumMatches sampleUploadCrypto oneUpload.checksum [65] = true := by
  decide +kernel

theorem oneUploadFile_valid : IsUploadFile sampleUploadCrypto 7 "k1" [65] oneUploadFile :=
  ⟨by decide, by decide, [1] ++ uuidBytes 7, List.replicate 8 0, rfl, rfl, rfl⟩

theorem oneUploadStore_encrypted :
    EncryptedStore oneUploadEnv (fun _ => [65]) (fun _ => "k1") oneUploadStore := by
  intro id upload hrow
  rcases oneUploadStore_get hrow with ⟨hid, hupload⟩
  rw [hid, hupload]
  exact ⟨by decide, rfl, rfl, oneUpload_checksum, oneUploadFile, rfl, oneUploadFile_valid⟩

theorem oneUploadStore_target : TargetKey oneUploadEnv (some "k2") "k2" :=
  ⟨by decide, by decide⟩

/-!
# From key to key
-/

/-- A file that is encrypted again and again, each time with new randomness. -/
def reencryptThrough (env : UploadCrypto) (uploadId : Uuid) (plaintextSize : Nat)
    (checksum : Option String) (nexts : List (String × Bytes)) (stored : String × Bytes) :
    Except UploadFault (String × Bytes) :=
  nexts.foldlM (fun stored next => do
    let file ← reencryptUploadFile env stored.2 uploadId stored.1 next.1 plaintextSize checksum
      next.2
    pure (next.1, file)) stored

theorem rotations_keep_content {env : UploadCrypto} {uploadId : Uuid} {keyId : String}
    {data file : Bytes} (checksum : Option String) (nexts : List (String × Bytes))
    (h : IsUploadFile env uploadId keyId data file)
    (hchecksum : checksumMatches env checksum data = true)
    (hnexts : forall next, next ∈ nexts -> isDataKeyId next.1 = true ∧ next.2.length = 8 ∧
      exists key, aesgcmForUpload env next.1 uploadId = Except.ok key) :
    exists last rotated header,
      reencryptThrough env uploadId data.length checksum nexts (keyId, file)
        = Except.ok (last, rotated) ∧
      last = (nexts.map Prod.fst).getLastD keyId ∧
      validateEncryptedUploadFile env rotated uploadId (some last) data.length checksum
        = Except.ok header ∧
      decryptedUpload env rotated uploadId (some last) data.length = Except.ok data := by
  unfold reencryptThrough
  induction nexts generalizing keyId file with
  | nil =>
      have hself : forall id, some keyId = some id -> id = keyId :=
        fun _ hid => (Option.some.inj hid).symm
      rcases h.validate hself hchecksum with ⟨header, _, hvalid⟩
      exact ⟨keyId, file, header, rfl, rfl, hvalid, h.decrypted_eq_ok hself⟩
  | cons next nexts ih =>
      rcases List.forall_mem_cons.mp hnexts with ⟨⟨hvalid, hlength, key, hkey⟩, hnexts⟩
      rcases h.reencrypt hvalid hlength hkey hchecksum with ⟨rotated, hrotated, hfile⟩
      rw [List.foldlM_cons, hrotated, List.map_cons, List.getLastD_cons]
      exact ih hfile hnexts

theorem rotated_there_and_back :
    exists rotated header,
      reencryptThrough sampleUploadCrypto 7 1 oneUpload.checksum
        [("k2", List.replicate 8 1), ("k1", List.replicate 8 2)] ("k1", oneUploadFile)
          = Except.ok ("k1", rotated) ∧
      validateEncryptedUploadFile sampleUploadCrypto rotated 7 (some "k1") 1 oneUpload.checksum
        = Except.ok header ∧
      decryptedUpload sampleUploadCrypto rotated 7 (some "k1") 1 = Except.ok [65] := by
  rcases rotations_keep_content oneUpload.checksum
    [("k2", List.replicate 8 1), ("k1", List.replicate 8 2)] oneUploadFile_valid
    oneUpload_checksum
    (List.forall_mem_cons.mpr ⟨⟨by decide, rfl, _, rfl⟩, List.forall_mem_singleton.mpr
      ⟨by decide, rfl, _, rfl⟩⟩) with ⟨_, rotated, header, hrotated, rfl, hvalid, hdecrypted⟩
  exact ⟨rotated, header, hrotated, hvalid, hdecrypted⟩

/-!
# Restarts
-/

section

variable {env : StorageEnv} {content : Uuid -> Bytes} {keyOf : Uuid -> String}
  {start : UploadStore} {targetKeyId : Option String} {target : String}

theorem rotation_is_restartable {store : UploadStore} {batchSize : Nat}
    (hstart : EncryptedStore env content keyOf start) (htarget : TargetKey env targetKeyId target)
    (hafter : AfterRotations env targetKeyId start store) (hsize : 0 < batchSize)
    (nonces : NonceSource) :
    exists counts s,
      migrateUploads env nonces batchSize targetKeyId true (store.opened none)
        = EStateM.Result.ok counts s ∧
      StoredUnder env content target start s.store ∧
      forall (nonces' : NonceSource) (batchSize' : Nat), 0 < batchSize' -> exists again s',
        migrateUploads env nonces' batchSize' targetKeyId true (s.store.opened none)
          = EStateM.Result.ok again s' ∧
        again.reencrypted = 0 ∧ again.encrypted = 0 ∧
        StoredUnder env content target start s'.store ∧
        forall id upload, start.rows.get id = some upload ->
          s'.store.fileOf env upload = s.store.fileOf env upload := by
  rcases hafter.encryptedStore htarget hstart with ⟨hkeeps, keys, hstore⟩
  rcases hstore.run_completes htarget hsize nonces with ⟨change, s, hrotates, hrun, hs⟩
  have hnext : EncryptedStore env content (keyAfter keys target store.order) s.store :=
    hs.encryptedStore hrotates hstore
  have hkeepsNext : KeepsColumns start s.store := hkeeps.trans (hs.keepsColumns hrotates)
  have hsettled : EncryptedStore env content (fun _ => target) s.store := by
    intro id row hrow
    have hmem : id ∈ store.order := by
      rw [UploadStore.mem_order]
      cases hold : store.rows.get id with
      | some _ => rfl
      | none =>
          rw [(hs.keepsColumns hrotates id).1 hold] at hrow
          cases hrow
    have hupload := hnext id row hrow
    rwa [keyAfter, if_pos hmem] at hupload
  refine ⟨_, s, hrun, hs.rotated hkeeps hstart ⟨keys, hstore, hrotates⟩, ?_⟩
  intro nonces' batchSize' hsize'
  rcases hsettled.run_completes htarget hsize' nonces' with
    ⟨change', s', hrotates', hrun', hs'⟩
  have hcounts := hrotates'.unchanged
  refine ⟨_, s', hrun', ?_, ?_, hs'.rotated hkeepsNext hstart ⟨_, hsettled, hrotates'⟩, ?_⟩
  · rw [hcounts]
    rfl
  · rw [hcounts]
    rfl
  · intro id upload hrow
    rcases (hkeepsNext id).2 upload hrow with ⟨key, hkey⟩
    have hfile := hs'.settled_file hrotates' hkey
    exact hfile

theorem oneUploadStore_restarts : exists counts s,
    migrateUploads oneUploadEnv zeroNonces 1 (some "k2") true
      ((finalState (migrateUploads oneUploadEnv zeroNonces 1 (some "k2") true)
        (oneUploadStore.opened (some 1))).store.opened none) = EStateM.Result.ok counts s ∧
    StoredUnder oneUploadEnv (fun _ => [65]) "k2" oneUploadStore s.store := by
  have hafter := AfterRotations.run zeroNonces (some 1)
    (AfterRotations.start : AfterRotations oneUploadEnv (some "k2") oneUploadStore _)
    Nat.zero_lt_one
  rcases rotation_is_restartable oneUploadStore_encrypted oneUploadStore_target hafter
    Nat.zero_lt_one zeroNonces with ⟨counts, s, hrun, hrotated, _⟩
  exact ⟨counts, s, hrun, hrotated⟩

/-!
# Every point of a run
-/

theorem rotation_serves_iff {batchSize : Nat} {budget : Option Nat} {nonces : NonceSource}
    (hstart : EncryptedStore env content keyOf start)
    (hkeys : forall id upload, start.rows.get id = some upload ->
      upload.storageKeyId = some (keyOf id))
    (htarget : TargetKey env targetKeyId target) (hsize : 0 < batchSize) {s : MigrationState}
    (hs : s = finalState (migrateUploads env nonces batchSize targetKeyId true)
      (start.opened budget)) {id : Uuid} (hid : (start.rows.get id).isSome = true) :
    servedContent env s.store id = some (content id) ↔
      (s.store.rows.get id).map (fun row => row.storageKeyId)
        = (s.session.get id).map (fun row => row.storageKeyId) := by
  rcases hstart.exists_rotation htarget nonces with ⟨change, hplan, hrotates⟩
  rcases finalState_snapshot budget htarget hsize hplan with ⟨handled, committed, hpoint⟩
  rw [← hs] at hpoint
  rcases Option.isSome_iff_exists.mp hid with ⟨upload, hupload⟩
  have hrow := hpoint.rotated_row hrotates hupload
  have hkey : upload.storageKeyId = some (keyOf id) := hkeys id upload hupload
  have hsession : (s.session.get id).map (fun row => row.storageKeyId)
      = some (some (keyAfter keyOf target handled id)) := by
    rw [hpoint.session]
    unfold keyAfter
    by_cases hmem : id ∈ handled
    · rcases hrotates id upload hupload with ⟨_, _, _, _, hchange⟩
      rw [rowAfter_of_mem hupload hmem, if_pos hmem, Option.map_some, hchange.row]
    · rw [rowAfter_of_not_mem hmem, if_neg hmem, hupload, Option.map_some, hkey]
  have hrowKey : (if id ∈ committed then some target else upload.storageKeyId)
      = some (keyAfter keyOf target committed id) := by
    unfold keyAfter
    split
    · rfl
    · exact hkey
  have hwellFormed : isDataKeyId (keyAfter keyOf target committed id) = true := by
    unfold keyAfter
    split
    · exact htarget.wellFormed
    · rcases (hstart id upload hupload).file with ⟨_, _, henc⟩
      exact henc.keyIdOk
  rw [hrowKey] at hrow
  have hencrypted := hpoint.encryptedStore hrotates hstart id _ hrow
  rw [hencrypted.served_iff hrow rfl hwellFormed, hsession, hrow, Option.map_some]
  constructor
  · intro heq
    rw [heq]
  · intro heq
    exact Option.some.inj (Option.some.inj heq)

/-- The command dies when the file is replaced and its row is not committed. -/
theorem interrupted_rotation_not_served :
    EncryptedStore oneUploadEnv (fun _ => [65]) (fun _ => "k1") oneUploadStore ∧
    oneUpload.storageKeyId = some "k1" ∧
    servedContent oneUploadEnv oneUploadStore 7 = some [65] ∧
    servedContent oneUploadEnv
    (finalState (migrateUploads oneUploadEnv zeroNonces 1 (some "k2") true)
      (oneUploadStore.opened (some 1))).store 7 = none := by
  refine ⟨oneUploadStore_encrypted, rfl, ?_, ?_⟩
  · decide +kernel
  · decide +kernel

/-- The row of the replaced file is committed. -/
theorem oneUploadStore_served_after_commit :
    ((finalState (migrateUploads oneUploadEnv zeroNonces 1 (some "k2") true)
        (oneUploadStore.opened (some 2))).store.rows.get 7).map
          (fun row => row.storageKeyId) = some (some "k2") ∧
    servedContent oneUploadEnv
      (finalState (migrateUploads oneUploadEnv zeroNonces 1 (some "k2") true)
        (oneUploadStore.opened (some 2))).store 7 = some [65] := by
  have hkeys : forall id upload, oneUploadStore.rows.get id = some upload ->
      upload.storageKeyId = some "k1" := by
    intro id upload hrow
    rw [(oneUploadStore_get hrow).2]
    rfl
  refine ⟨by decide +kernel, ?_⟩
  exact (rotation_serves_iff oneUploadStore_encrypted hkeys oneUploadStore_target Nat.zero_lt_one
    rfl rfl).mpr (by decide +kernel)

end

end MessagingSystem
