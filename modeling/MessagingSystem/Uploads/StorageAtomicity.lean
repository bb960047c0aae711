import MessagingSystem.Uploads.StorageWriting

/-!
# Atomicity of storing an upload

Until the link the store is as it was, and from the commit on the row and the file belong
together.  In between, every exception leads to a handler that removes the file again, and a
cancellation leads past it.
-/

namespace MessagingSystem

open Foundation

namespace ContentStorage

variable {s : StoreCall} {step : StorageStep}

/-- The row is finalized and its file is a complete encryption of what was received. -/
def Stored (env : StorageEnv) (fileId : Uuid) (received : Bytes) (store : UploadStore) : Prop :=
  exists row file header, store.rows.get fileId = some row ∧
    row.publicUrl = some (attachmentUrl fileId) ∧ store.fileOf env row = some file ∧
    validateEncryptedUploadFile env.crypto file fileId row.storageKeyId row.sizeBytes
      row.checksum = Except.ok header ∧
    decryptedUpload env.crypto file fileId row.storageKeyId row.sizeBytes
      = Except.ok received ∧
    row.sizeBytes = received.length ∧ checksumMatches env.crypto row.checksum received = true

/-- The rows and the files are what they were. -/
def Untouched (start store : UploadStore) : Prop :=
  (forall id, store.rows.get id = start.rows.get id) ∧
    forall path, store.files.get path = start.files.get path

section

variable {env : StorageEnv} {start : UploadStore} {fileId : Uuid} {upload : StoredUpload}
  {uploadMaxSizeBytes : Nat} {noncePrefix : Bytes} {encryptor : UploadChunkEncryptor}
  {content : List (Option Bytes)}

/-!
# From the link to the commit
-/

/-- The file is linked and the row is not committed. -/
structure Exposed (start : UploadStore) (fileId : Uuid) (upload : StoredUpload) (path : String)
    (s : StoreCall) : Prop where
  row : start.rows.get fileId = some upload
  pending : hasText upload.publicUrl = false
  absent : start.files.get path = none
  rows : s.store.rows = start.rows
  files : exists file, s.store.files = start.files.set path (some file)

/-- The row is committed together with its complete file. -/
structure Committed (env : StorageEnv) (start : UploadStore) (fileId : Uuid)
    (upload : StoredUpload) (path : String) (data : Bytes) (s : StoreCall) : Prop where
  rows : s.store.rows = start.rows.set fileId (some (storedRow env fileId upload))
  files : exists file, s.store.files = start.files.set path (some file) ∧
    Complete env fileId upload data file
  clean : Clean s

/-- How the body can fail. -/
inductive BodyFailure (env : StorageEnv) (start : UploadStore) (fileId : Uuid)
    (upload : StoredUpload) (path : String) (data : Bytes) :
    StoreFault -> StoreCall -> Prop where
  | fresh {fault : StoreFault} {s : StoreCall} (h : Fresh start s) :
      BodyFailure env start fileId upload path data fault s
  | removable {fault : StoreFault} {s : StoreCall} (h : Exposed start fileId upload path s)
      (hfinalized : s.finalizedHere = true) (hclean : Clean s)
      (hfault : fault ≠ StoreFault.cancelled) :
      BodyFailure env start fileId upload path data fault s
  | abandoned {s : StoreCall} (h : Exposed start fileId upload path s) (hharm : ¬Clean s) :
      BodyFailure env start fileId upload path data StoreFault.cancelled s
  | committed {s : StoreCall} (h : Committed env start fileId upload path data s) :
      BodyFailure env start fileId upload path data StoreFault.cancelled s

variable {path : String} {data : Bytes} {perform : StoreCall -> StoreCall}

theorem not_clean_logged {outcome : AwaitOutcome}
    (h : harmful (step, outcome) = true) (schedule : List AwaitOutcome) :
    ¬Clean (s.logged step outcome schedule) := by
  intro hclean
  have hfalse := hclean (step, outcome) (List.mem_append_right _ List.mem_cons_self)
  rw [h] at hfalse
  cases hfalse

/-- Linked here, with the complete file. -/
structure Linked (env : StorageEnv) (start : UploadStore) (fileId : Uuid)
    (upload : StoredUpload) (path : String) (data : Bytes) (s : StoreCall) : Prop where
  row : start.rows.get fileId = some upload
  pending : hasText upload.publicUrl = false
  absent : start.files.get path = none
  rows : s.store.rows = start.rows
  session : s.session = start.rows
  files : exists file, s.store.files = start.files.set path (some file) ∧
    Complete env fileId upload data file
  clean : Clean s

theorem Linked.exposed (h : Linked env start fileId upload path data s) :
    Exposed start fileId upload path s := by
  rcases h.files with ⟨file, hfiles, _⟩
  exact ⟨h.row, h.pending, h.absent, h.rows, file, hfiles⟩

theorem linkTemp_log (path : String) (s : StoreCall) : (linkTemp path s).log = s.log := by
  unfold linkTemp
  split <;> rfl

theorem linkFinal_spec (hrow : start.rows.get fileId = some upload)
    (hpending : hasText upload.publicUrl = false) (habsent : start.files.get path = none) :
    Triple (Prepared env start fileId upload data) (linkFinal path)
      (fun _ => Linked env start fileId upload path data)
      (BodyFailure env start fileId upload path data) := by
  refine Triple.get ?_
  intro s hs
  have hnone : s.store.files.get path = none := by
    rw [hs.1.store]
    exact habsent
  rw [hnone]
  have hlinked : forall t outcome schedule, t = s ->
      Exposed start fileId upload path
        (linkTemp path (t.logged StorageStep.link outcome schedule)) ∧
      (Clean (t.logged StorageStep.link outcome schedule) ->
        Linked env start fileId upload path data
          (linkTemp path (t.logged StorageStep.link outcome schedule))) := by
    intro t outcome schedule ht
    rcases hs.2 with ⟨file, htemp, hcomplete⟩
    have hlink : linkTemp path (t.logged StorageStep.link outcome schedule)
        = { t.logged StorageStep.link outcome schedule with
            store := { s.store with files := s.store.files.set path (some file) } } := by
      have hget : (s.logged StorageStep.link outcome schedule).store.files.get path = none := hnone
      rw [ht, linkTemp, hget]
      show { s.logged StorageStep.link outcome schedule with
        store := { s.store with files := s.store.files.set path s.temp } } = _
      rw [htemp]
    rw [hlink]
    have hrows : s.store.rows = start.rows := by rw [hs.1.store]
    have hfiles : s.store.files.set path (some file) = start.files.set path (some file) := by
      rw [hs.1.store]
    refine ⟨⟨hrow, hpending, habsent, hrows, file, hfiles⟩, ?_⟩
    intro hclean
    refine ⟨hrow, hpending, habsent, hrows, ?_, ⟨file, hfiles, hcomplete⟩, hclean⟩
    show t.session = start.rows
    rw [ht]
    exact hs.1.session
  have hfresh : forall t outcome schedule, t = s -> harmful (StorageStep.link, outcome) = false ->
      Fresh start (t.logged StorageStep.link outcome schedule) := by
    intro t outcome schedule ht hharm
    rw [ht]
    exact hs.1.logged hharm schedule
  refine awaiting_spec ?_ ?_ ?_ ?_
  · intro t schedule ht
    exact (hlinked t _ schedule ht).2 (hfresh t _ schedule ht rfl).clean
  · intro t schedule ht
    exact BodyFailure.fresh (hfresh t _ schedule ht rfl)
  · intro t schedule ht
    refine BodyFailure.abandoned (hlinked t _ schedule ht).1 ?_
    intro hclean
    unfold Clean at hclean
    rw [linkTemp_log] at hclean
    exact not_clean_logged rfl schedule hclean
  · intro t schedule ht
    exact BodyFailure.fresh (hfresh t _ schedule ht rfl)

/-- An await between the link and the commit, with no effect on the store. -/
theorem awaiting_linked {pre post : StoreCall -> Prop}
    (hstep : forall performed, harmful (step, AwaitOutcome.cancelled performed) = true)
    (hother : harmful (step, AwaitOutcome.completes) = false ∧
      harmful (step, AwaitOutcome.raises) = false)
    (hpre : forall s, pre s -> Exposed start fileId upload path s ∧ s.finalizedHere = true ∧
      Clean s) (hperform : forall s, (perform s).store = s.store ∧ (perform s).log = s.log)
    (hpost : forall s schedule, pre s ->
      post (perform (s.logged step AwaitOutcome.completes schedule))) :
    Triple pre (awaiting step perform) (fun _ => post)
      (BodyFailure env start fileId upload path data) := by
  have hexposed : forall s (t : StoreCall), pre s -> t.store = s.store ->
      Exposed start fileId upload path t := by
    intro s t hs ht
    have hold := (hpre s hs).1
    exact ⟨hold.row, hold.pending, hold.absent, by rw [ht]; exact hold.rows,
      by rw [ht]; exact hold.files⟩
  refine awaiting_spec ?_ ?_ ?_ ?_
  · intro s schedule hs
    exact hpost s schedule hs
  · intro s schedule hs
    have hold := hpre s hs
    refine BodyFailure.removable (hexposed s _ hs rfl) hold.2.1 (hold.2.2.logged hother.2 schedule)
      ?_
    intro heq
    cases heq
  · intro s schedule hs
    refine BodyFailure.abandoned (hexposed s _ hs (hperform _).1) ?_
    unfold Clean
    rw [(hperform _).2]
    exact not_clean_logged (hstep true) schedule
  · intro s schedule hs
    exact BodyFailure.abandoned (hexposed s _ hs rfl) (not_clean_logged (hstep false) schedule)

/-- Linked and recorded as such; the session has the new row or not yet. -/
structure Finalizing (env : StorageEnv) (start : UploadStore) (fileId : Uuid)
    (upload : StoredUpload) (path : String) (data : Bytes)
    (session : Table Uuid StoredUpload) (s : StoreCall) : Prop where
  exposed : Exposed start fileId upload path s
  complete : exists file, s.store.files = start.files.set path (some file) ∧
    Complete env fileId upload data file
  session : s.session = session
  finalizedHere : s.finalizedHere = true
  clean : Clean s

theorem Finalizing.kept {session : Table Uuid StoredUpload} {s t : StoreCall}
    (h : Finalizing env start fileId upload path data session s) (hstore : t.store = s.store)
    (hsession : t.session = s.session) (hfinalized : t.finalizedHere = s.finalizedHere)
    (hclean : Clean t) : Finalizing env start fileId upload path data session t := by
  refine ⟨⟨h.exposed.row, h.exposed.pending, h.exposed.absent, ?_, ?_⟩, ?_, ?_, ?_, hclean⟩
  · rw [hstore]
    exact h.exposed.rows
  · rw [hstore]
    exact h.exposed.files
  · rw [hstore]
    exact h.complete
  · rw [hsession]
    exact h.session
  · rw [hfinalized]
    exact h.finalizedHere

theorem storeBody_spec (hrow : start.rows.get fileId = some upload)
    (hencryptor : newUploadChunkEncryptor env.crypto fileId env.crypto.activeKeyId
      upload.sizeBytes noncePrefix = Except.ok encryptor) :
    Triple (fun s => Fresh start s ∧ s.totalSize = 0)
      (storeBody env uploadMaxSizeBytes fileId upload path encryptor content)
      (fun _ => Committed env start fileId upload path (receivedBytes content))
      (BodyFailure env start fileId upload path (receivedBytes content)) := by
  have hearly : forall (fault : StoreFault) (s : StoreCall), Fresh start s ->
      BodyFailure env start fileId upload path (receivedBytes content) fault s :=
    fun _ _ h => BodyFailure.fresh h
  refine Triple.get ?_
  intro s hs
  have hfresh : forall t, t = s -> Fresh start t := by
    intro t ht
    rw [ht]
    exact hs.1
  by_cases hstored : hasText upload.publicUrl = true ∨ (s.store.files.get path).isSome = true
  · rw [if_pos hstored]
    exact (refuseWith_spec hfresh).conseq (fun _ h => h) (fun _ _ h => h) hearly
  rw [if_neg hstored]
  rcases not_or.mp hstored with ⟨hurl, habsent⟩
  have hpending : hasText upload.publicUrl = false := Bool.of_not_eq_true hurl
  have habsent : start.files.get path = none := by
    rw [hs.1.store] at habsent
    exact Option.not_isSome_iff_eq_none.mp habsent
  by_cases hmax : configuredMax uploadMaxSizeBytes < upload.sizeBytes
  · rw [if_pos hmax]
    exact (refuseWith_spec hfresh).conseq (fun _ h => h) (fun _ _ h => h) hearly
  rw [if_neg hmax]
  -- The temporary file is opened, written and closed.
  have hopen : Triple (fun t => t = s)
      (awaiting StorageStep.openTemp (fun s => { s with temp := some [] }))
      (fun _ t => Fresh start t ∧ t.temp = some [] ∧ t.totalSize = 0)
      (fun _ => Fresh start) := by
    refine awaiting_early rfl hfresh
      (fun t ht => ⟨ht.store, ht.session, ht.finalizedHere, ht.clean⟩) ?_
    intro t outcome schedule ht
    have hlogged := (hfresh t ht).logged
      (not_harmful_of_early (rfl : early StorageStep.openTemp = true) outcome) schedule
    refine ⟨⟨hlogged.store, hlogged.session, hlogged.finalizedHere, hlogged.clean⟩, rfl, ?_⟩
    show t.totalSize = 0
    rw [ht]
    exact hs.2
  have hwrite : Triple (fun t => Fresh start t ∧ t.temp = some [] ∧ t.totalSize = 0)
      (tryFinally (writeTemp env uploadMaxSizeBytes upload encryptor content)
        (awaiting StorageStep.close id))
      (fun _ => Prepared env start fileId upload (receivedBytes content))
      (fun _ => Fresh start) := by
    refine Triple.finally _ _ (writeTemp_spec hencryptor) ?_ ?_
    · intro _
      exact awaiting_early rfl (fun t ht => ht.1) (fun t ht => ht)
        (fun t outcome schedule ht => ht.logged rfl outcome schedule)
    · intro _
      exact awaiting_early rfl (fun t ht => ht) (fun t ht => ht)
        (fun t outcome schedule ht => ht.logged (not_harmful_of_early rfl outcome) schedule)
  have hsync : Triple (Prepared env start fileId upload (receivedBytes content))
      (awaiting StorageStep.fsync id)
      (fun _ => Prepared env start fileId upload (receivedBytes content))
      (fun _ => Fresh start) :=
    awaiting_early rfl (fun t ht => ht.1) (fun t ht => ht)
      (fun t outcome schedule ht => ht.logged rfl outcome schedule)
  refine Triple.bind _ (hopen.conseq (fun _ h => h) (fun _ _ h => h) hearly) (fun _ => ?_)
  refine Triple.bind _ (hwrite.conseq (fun _ h => h) (fun _ _ h => h) hearly) (fun _ => ?_)
  refine Triple.bind _ (hsync.conseq (fun _ h => h) (fun _ _ h => h) hearly) (fun _ => ?_)
  refine Triple.bind _ (linkFinal_spec hrow hpending habsent) (fun _ => ?_)
  let updated := start.rows.set fileId (some (storedRow env fileId upload))
  refine Triple.bind
    (fun _ => Finalizing env start fileId upload path (receivedBytes content) start.rows)
    (Triple.modified ?_) (fun _ => ?_)
  · intro t ht
    have hexposed := ht.exposed
    exact ⟨⟨hexposed.row, hexposed.pending, hexposed.absent, hexposed.rows, hexposed.files⟩,
      ht.files, ht.session, rfl, ht.clean⟩
  refine Triple.bind
    (fun _ => Finalizing env start fileId upload path (receivedBytes content) start.rows)
    (awaiting_linked (fun _ => rfl) ⟨rfl, rfl⟩
      (fun t ht => ⟨ht.exposed, ht.finalizedHere, ht.clean⟩) (fun _ => ⟨rfl, rfl⟩) ?_)
    (fun _ => ?_)
  · intro t schedule ht
    exact ht.kept rfl rfl rfl (ht.clean.logged rfl schedule)
  refine Triple.bind
    (fun _ => Finalizing env start fileId upload path (receivedBytes content) updated)
    (Triple.modified ?_) (fun _ => ?_)
  · intro t ht
    have hkept := ht.exposed
    refine ⟨⟨hkept.row, hkept.pending, hkept.absent, hkept.rows, hkept.files⟩, ht.complete, ?_,
      ht.finalizedHere, ht.clean⟩
    show t.session.set fileId (some (storedRow env fileId upload)) = updated
    rw [ht.session]
  refine Triple.bind
    (fun _ => Finalizing env start fileId upload path (receivedBytes content) updated)
    (awaiting_linked (fun _ => rfl) ⟨rfl, rfl⟩
      (fun t ht => ⟨ht.exposed, ht.finalizedHere, ht.clean⟩) (fun _ => ⟨rfl, rfl⟩) ?_)
    (fun _ => ?_)
  · intro t schedule ht
    exact ht.kept rfl rfl rfl (ht.clean.logged rfl schedule)
  -- The commit: performed or not.
  refine awaiting_spec ?_ ?_ ?_ ?_
  · intro t schedule ht
    exact ⟨ht.session, ht.complete, ht.clean.logged rfl schedule⟩
  · intro t schedule ht
    have hkept := ht.kept (t := t.logged StorageStep.commit AwaitOutcome.raises schedule)
      rfl rfl rfl (ht.clean.logged rfl schedule)
    refine BodyFailure.removable hkept.exposed hkept.finalizedHere hkept.clean ?_
    intro heq
    cases heq
  · intro t schedule ht
    exact BodyFailure.committed ⟨ht.session, ht.complete, ht.clean.logged rfl schedule⟩
  · intro t schedule ht
    refine BodyFailure.abandoned ?_ (not_clean_logged rfl schedule)
    have hexposed := ht.exposed
    exact ⟨hexposed.row, hexposed.pending, hexposed.absent, hexposed.rows, hexposed.files⟩

/-!
# The handlers
-/

/-- Nothing of the call is left, and no await was harmful. -/
def Undone (start : UploadStore) (s : StoreCall) : Prop :=
  Untouched start s.store ∧ Clean s

theorem Fresh.undone (h : Fresh start s) : Undone start s := by
  refine ⟨⟨?_, ?_⟩, h.clean⟩
  · intro id
    rw [h.store]
  · intro path
    rw [h.store]

/-- An early await keeps what it neither reads nor writes. -/
theorem awaiting_keeps {I : StoreCall -> Prop}
    (hlogged : forall s outcome schedule, I s -> I (s.logged step outcome schedule))
    (hperform : forall s, I s -> I (perform s)) :
    Triple I (awaiting step perform) (fun _ => I) (fun _ => I) := by
  refine awaiting_spec ?_ ?_ ?_ ?_
  · intro s schedule hs
    exact hperform _ (hlogged s _ schedule hs)
  · intro s schedule hs
    exact hlogged s _ schedule hs
  · intro s schedule hs
    exact hperform _ (hlogged s _ schedule hs)
  · intro s schedule hs
    exact hlogged s _ schedule hs

theorem Undone.logged (h : Undone start s)
    (hstep : early step = true) (outcome : AwaitOutcome) (schedule : List AwaitOutcome) :
    Undone start (s.logged step outcome schedule) :=
  ⟨h.1, h.2.logged (not_harmful_of_early hstep outcome) schedule⟩

/-- After the rollback the session has no change of the rows, so that it can be committed. -/
def RolledBack (start : UploadStore) (s : StoreCall) : Prop :=
  Undone start s ∧ s.session = s.store.rows

theorem safeLogEvent_spec (event : StoreEvent) :
    Triple (RolledBack start) (safeLogEvent event) (fun _ => Undone start)
      (fun _ => Undone start) := by
  have hlogged : forall step, early step = true -> forall s outcome schedule,
      RolledBack start s -> RolledBack start (s.logged step outcome schedule) :=
    fun step hstep s outcome schedule hs => ⟨hs.1.logged hstep outcome schedule, hs.2⟩
  have hcommit : forall s, RolledBack start s -> RolledBack start (commitSession s) := by
    intro s hs
    refine ⟨⟨⟨?_, hs.1.1.2⟩, hs.1.2⟩, rfl⟩
    intro id
    show s.session.get id = start.rows.get id
    rw [hs.2]
    exact hs.1.1.1 id
  refine Triple.tryCatch (fun _ => RolledBack start) ?_ ?_
  · refine Triple.bind (fun _ => RolledBack start)
      (awaiting_keeps (hlogged _ rfl) (fun s hs => hs)) (fun _ => ?_)
    exact (awaiting_keeps (hlogged _ rfl) hcommit).conseq (fun _ h => h) (fun _ _ h => h.1)
      (fun _ _ h => h)
  · intro fault
    have hback : forall s, RolledBack start s -> RolledBack start (rollbackSession s) :=
      fun s hs => ⟨hs.1, rfl⟩
    have hrollback : Triple (RolledBack start)
        (awaiting StorageStep.rollbackFailure rollbackSession) (fun _ => Undone start)
        (fun _ => Undone start) :=
      (awaiting_keeps (hlogged _ rfl) hback).conseq (fun _ h => h) (fun _ _ h => h.1)
        (fun _ _ h => h.1)
    cases fault with
    | cancelled => exact Triple.throw (fun _ h => h.1)
    | app | exception => exact hrollback

theorem cleanUp_spec :
    Triple (fun s => Fresh start s ∨
        (Exposed start fileId upload path s ∧ s.finalizedHere = true ∧ Clean s))
      (cleanUp fileId upload path) (fun _ => Undone start) (fun _ => Undone start) := by
  refine Triple.bind (fun _ => Undone start) (Triple.modified ?_) (fun _ => ?_)
  · intro s hs
    rcases hs with hfresh | ⟨hexposed, hfinalized, hclean⟩
    · have hnot : ¬s.finalizedHere = true := by
        rw [hfresh.finalizedHere]
        decide
      rw [if_neg hnot]
      exact hfresh.undone
    · rw [if_pos hfinalized]
      refine ⟨⟨?_, ?_⟩, hclean⟩
      · intro id
        show s.store.rows.get id = start.rows.get id
        rw [hexposed.rows]
      · intro other
        show (s.store.files.set path none).get other = start.files.get other
        rcases hexposed.files with ⟨file, hfiles⟩
        rw [hfiles]
        by_cases hne : other = path
        · rw [hne, Table.get_set_self, hexposed.absent]
        · rw [Table.get_set_ne _ hne, Table.get_set_ne _ hne]
  · have hrollback : Triple (Undone start) (awaiting StorageStep.rollback rollbackSession)
        (fun _ => RolledBack start) (fun _ => Undone start) := by
      refine awaiting_spec ?_ ?_ ?_ ?_
      · intro s schedule hs
        exact ⟨hs.logged rfl _ schedule, rfl⟩
      · intro s schedule hs
        exact hs.logged rfl _ schedule
      · intro s schedule hs
        exact hs.logged rfl _ schedule
      · intro s schedule hs
        exact hs.logged rfl _ schedule
    refine Triple.bind _ hrollback (fun _ => Triple.get ?_)
    intro s hs
    refine (safeLogEvent_spec _).conseq ?_ (fun _ _ h => h) (fun _ _ h => h)
    intro t ht
    rw [ht]
    exact hs

/-- How the call can end without a result. -/
inductive CallFailure (env : StorageEnv) (start : UploadStore) (fileId : Uuid)
    (data : Bytes) (s : StoreCall) : Prop where
  | undone (h : Undone start s)
  | abandoned {upload : StoredUpload} {path : String} (h : Exposed start fileId upload path s)
      (hharm : ¬Clean s)
  | committed {upload : StoredUpload} {path : String}
      (hpath : env.resolvePath upload.storagePath = some path)
      (h : Committed env start fileId upload path data s)

theorem handleFault_spec (hpath : env.resolvePath upload.storagePath = some path)
    (fault : StoreFault) :
    Triple (BodyFailure env start fileId upload path data fault)
      (handleFault fileId upload path fault)
      (fun _ => Committed env start fileId upload path data)
      (fun _ => CallFailure env start fileId data) := by
  have hclean : forall raised : StoreFault, fault ≠ StoreFault.cancelled ->
      Triple (BodyFailure env start fileId upload path data fault)
        (cleanUp fileId upload path >>= fun _ => (throw raised : Action Unit))
        (fun _ => Committed env start fileId upload path data)
        (fun _ => CallFailure env start fileId data) := by
    intro raised hfault
    refine Triple.bind (fun _ => Undone start) (cleanUp_spec.conseq ?_ (fun _ _ h => h)
      (fun _ _ h => CallFailure.undone h))
      (fun _ => Triple.throw (fun _ h => CallFailure.undone h))
    intro s hs
    cases hs with
    | fresh h => exact Or.inl h
    | removable h hfinalized hclean _ => exact Or.inr ⟨h, hfinalized, hclean⟩
    | abandoned | committed => exact absurd rfl hfault
  cases fault with
  | app | exception => exact hclean _ (fun heq => nomatch heq)
  | cancelled =>
      apply Triple.throw
      intro s hs
      cases hs with
      | fresh h => exact CallFailure.undone h.undone
      | removable _ _ _ hfault => exact absurd rfl hfault
      | abandoned h hharm => exact CallFailure.abandoned h hharm
      | committed h => exact CallFailure.committed hpath h

/-!
# The whole call
-/

theorem storeUploadContent_spec {actorUserId : Uuid} {schedule : List AwaitOutcome} :
    Triple (fun s => s = opened start schedule)
      (storeUploadContent env uploadMaxSizeBytes noncePrefix actorUserId fileId content)
      (fun _ s => exists upload path, env.resolvePath upload.storagePath = some path ∧
        Committed env start fileId upload path (receivedBytes content) s)
      (fun _ => CallFailure env start fileId (receivedBytes content)) := by
  have hundone : forall s, Fresh start s ->
      CallFailure env start fileId (receivedBytes content) s :=
    fun s h => CallFailure.undone h.undone
  have hstart : forall s, s = opened start schedule -> Fresh start s ∧ s.totalSize = 0 := by
    intro s hs
    rw [hs]
    exact ⟨⟨rfl, rfl, rfl, fun _ hentry => nomatch hentry⟩, rfl⟩
  have hselect : Triple (fun s => s = opened start schedule) (awaiting StorageStep.selectRow id)
      (fun _ s => Fresh start s ∧ s.totalSize = 0) (fun _ => Fresh start) := by
    refine awaiting_early rfl (fun s hs => (hstart s hs).1) (fun s hs => hs) ?_
    intro s outcome schedule hs
    exact ⟨(hstart s hs).1.logged (not_harmful_of_early rfl outcome) schedule, (hstart s hs).2⟩
  refine Triple.bind _ (hselect.conseq (fun _ h => h) (fun _ _ h => h) (fun _ s h => hundone s h))
    (fun _ => Triple.get ?_)
  intro s hs
  have hfails : forall (e : StoreFault) (t : StoreCall), t = s ->
      CallFailure env start fileId (receivedBytes content) t := by
    intro _ t ht
    rw [ht]
    exact hundone s hs.1
  refine Triple.attempting ?_ (fun e t _ ht => hfails e t ht)
  intro upload hupload
  have hrow : start.rows.get fileId = some upload := by
    rw [← hs.1.session]
    exact orFail_eq_ok.mp hupload
  refine Triple.attempting ?_ (fun e t _ ht => hfails e t ht)
  intro _ _
  refine Triple.attempting ?_ (fun e t _ ht => hfails e t ht)
  intro path hpath
  have hpath := orFail_eq_ok.mp hpath
  refine Triple.attempting ?_ (fun e t _ ht => hfails e t ht)
  intro encryptor hencryptor
  have hbody : Triple (fun t => t = s)
      (tryCatch (storeBody env uploadMaxSizeBytes fileId upload path encryptor content)
        (handleFault fileId upload path))
      (fun _ => Committed env start fileId upload path (receivedBytes content))
      (fun _ => CallFailure env start fileId (receivedBytes content)) := by
    refine Triple.tryCatch _ ((storeBody_spec hrow (mapError_eq_ok.mp hencryptor)).conseq ?_
      (fun _ _ h => h) (fun _ _ h => h)) (handleFault_spec hpath)
    intro t ht
    rw [ht]
    exact hs
  have hfinally : Triple (fun t => t = s)
      (tryFinally (tryCatch (storeBody env uploadMaxSizeBytes fileId upload path encryptor content)
        (handleFault fileId upload path)) (modify (fun s => { s with temp := none })))
      (fun _ => Committed env start fileId upload path (receivedBytes content))
      (fun _ => CallFailure env start fileId (receivedBytes content)) := by
    refine Triple.finally _ _ hbody (fun _ => Triple.modified ?_) (fun _ => Triple.modified ?_)
    · intro t ht
      exact ⟨ht.rows, ht.files, ht.clean⟩
    · intro t ht
      cases ht with
      | undone h => exact CallFailure.undone ⟨h.1, h.2⟩
      | abandoned h hharm =>
          exact CallFailure.abandoned ⟨h.row, h.pending, h.absent, h.rows, h.files⟩ hharm
      | committed hpath h => exact CallFailure.committed hpath ⟨h.rows, h.files, h.clean⟩
  refine Triple.bind _ hfinally (fun _ => ?_)
  have hrefresh : Triple (Committed env start fileId upload path (receivedBytes content))
      (awaiting StorageStep.refresh id)
      (fun _ => Committed env start fileId upload path (receivedBytes content))
      (fun _ => Committed env start fileId upload path (receivedBytes content)) :=
    awaiting_keeps (fun t outcome schedule ht => ⟨ht.rows, ht.files,
      ht.clean.logged (not_harmful_of_early rfl outcome) schedule⟩) (fun t ht => ht)
  refine Triple.bind _ (hrefresh.conseq (fun _ h => h) (fun _ _ h => h)
    (fun _ _ h => CallFailure.committed hpath h)) (fun _ => Triple.pure ?_)
  intro t ht
  exact ⟨upload, path, hpath, ht⟩

theorem Committed.stored (h : Committed env start fileId upload path data s)
    (hpath : env.resolvePath upload.storagePath = some path) :
    Stored env fileId data s.store := by
  rcases h.files with ⟨file, hfiles, hcomplete⟩
  have hexpected : forall key, some env.crypto.activeKeyId = some key ->
      key = env.crypto.activeKeyId := fun _ heq => (Option.some.inj heq).symm
  rcases hcomplete.file.validate hexpected hcomplete.checksum with ⟨header, _, hvalid⟩
  refine ⟨storedRow env fileId upload, file, header, ?_, rfl, ?_, ?_, ?_, hcomplete.size,
    hcomplete.checksum⟩
  · rw [h.rows, Table.get_set_self]
  · show (env.resolvePath upload.storagePath).bind s.store.files.get = some file
    rw [hpath, hfiles]
    exact Table.get_set_self _ _ _
  · show validateEncryptedUploadFile env.crypto file fileId (some env.crypto.activeKeyId)
      upload.sizeBytes upload.checksum = Except.ok header
    rw [hcomplete.size]
    exact hvalid
  · show decryptedUpload env.crypto file fileId (some env.crypto.activeKeyId) upload.sizeBytes
      = Except.ok data
    rw [hcomplete.size]
    exact hcomplete.file.decrypted_eq_ok hexpected

theorem attachmentUrl_hasText (id : Uuid) : hasText (some (attachmentUrl id)) = true := by
  refine bne_iff_ne.mpr ?_
  intro hempty
  have hlength := congrArg (fun text => text.toList.length) hempty
  simp [attachmentUrl] at hlength

theorem Exposed.not_atomic (h : Exposed start fileId upload path s) :
    ¬(Stored env fileId data s.store ∨ Untouched start s.store) := by
  rintro (⟨row, file, header, hrow, hurl, _⟩ | huntouched)
  · rw [h.rows, h.row] at hrow
    have hpending := h.pending
    rw [Option.some.inj hrow, hurl, attachmentUrl_hasText] at hpending
    cases hpending
  · rcases h.files with ⟨file, hfiles⟩
    have hpath := huntouched.2 path
    rw [hfiles, Table.get_set_self, h.absent] at hpath
    cases hpath

theorem upload_storage_atomic_iff {actorUserId : Uuid} {schedule : List AwaitOutcome}
    {s : StoreCall}
    (hs : s = finalState
      (storeUploadContent env uploadMaxSizeBytes noncePrefix actorUserId fileId content)
      (opened start schedule)) :
    (Stored env fileId (receivedBytes content) s.store ∨ Untouched start s.store) ↔
      forall entry, entry ∈ s.log -> harmful entry = false := by
  unfold finalState at hs
  cases hresult : storeUploadContent env uploadMaxSizeBytes noncePrefix actorUserId fileId content
      (opened start schedule) with
  | ok row t =>
      rw [hresult] at hs
      rw [hs]
      rcases storeUploadContent_spec.of_ok rfl hresult with ⟨upload, path, hpath, hcommitted⟩
      exact ⟨fun _ => hcommitted.clean, fun _ => Or.inl (hcommitted.stored hpath)⟩
  | error fault t =>
      rw [hresult] at hs
      rw [hs]
      cases storeUploadContent_spec.of_error rfl hresult with
      | undone h => exact ⟨fun _ => h.2, fun _ => Or.inr h.1⟩
      | abandoned h hharm =>
          constructor
          · intro hatomic
            exact absurd hatomic h.not_atomic
          · intro hclean
            exact absurd hclean hharm
      | committed hpath h => exact ⟨fun _ => h.clean, fun _ => Or.inl (h.stored hpath)⟩

end

/-!
# A pending upload
-/

def pendingEnv : StorageEnv where
  crypto := sampleUploadCrypto
  allowLegacyPlaintextUploads := false
  resolvePath := some

def pendingStore : UploadStore where
  rows := Table.empty.set 7 (some
    { ownerUserId := 1
      filename := "a.txt"
      contentType := "text/plain"
      sizeBytes := 1
      publicUrl := none
      checksum := some "559aead08264d5795d3909718cdd05abd49572e84fe55590eef31a88a08fdffd"
      storagePath := "1/a.txt"
      storageEncryptionVersion := 0
      storageKeyId := none })
  files := Table.empty

def pendingCall : Action StoredUpload :=
  storeUploadContent pendingEnv 10 (List.replicate 8 0) 1 7 [some [65]]

/-- Every await completes up to the link, and there the task is cancelled. -/
def cancelledAtLink : List AwaitOutcome :=
  List.replicate 9 AwaitOutcome.completes ++ [AwaitOutcome.cancelled true]

/-- The file stays, the row stays pending, and another attempt is refused. -/
theorem cancelled_storage_not_atomic :
    ¬(Stored pendingEnv 7 [65]
        (finalState pendingCall (opened pendingStore cancelledAtLink)).store ∨
      Untouched pendingStore
        (finalState pendingCall (opened pendingStore cancelledAtLink)).store) ∧
    (match pendingCall (opened
        (finalState pendingCall (opened pendingStore cancelledAtLink)).store []) with
      | EStateM.Result.ok _ _ => false
      | EStateM.Result.error fault _ => fault == StoreFault.app
          (appError "upload content is already stored" 409 "UPLOAD_IMMUTABLE")) = true := by
  constructor
  · rintro (⟨row, _, _, hrow, hurl, _⟩ | ⟨_, hfiles⟩)
    · have hnone : ((finalState pendingCall
          (opened pendingStore cancelledAtLink)).store.rows.get 7).map
            (fun row => row.publicUrl) = some none := by
        decide +kernel
      rw [hrow, Option.map_some, hurl] at hnone
      cases hnone
    · have hsome : ((finalState pendingCall
          (opened pendingStore cancelledAtLink)).store.files.get "1/a.txt").isSome = true := by
        decide +kernel
      rw [hfiles "1/a.txt"] at hsome
      cases hsome
  · decide +kernel

theorem completed_storage_atomic :
    Stored pendingEnv 7 [65] (finalState pendingCall (opened pendingStore [])).store ∨
      Untouched pendingStore (finalState pendingCall (opened pendingStore [])).store :=
  (upload_storage_atomic_iff rfl).mpr (by decide +kernel)

end ContentStorage

end MessagingSystem
