import MessagingSystem.Uploads.Storage

/-!
# Writing the temporary file

Up to the link the call changes nothing but its temporary file.  However the content arrives
in chunks, the file that is complete is the encryption of all of it.
-/

namespace MessagingSystem

open Foundation

namespace ContentStorage

variable {s : StoreCall} {step : StorageStep}

/-- The awaits at which a cancellation leaves the linked file behind. -/
def harmful : StorageStep × AwaitOutcome -> Bool
  | (StorageStep.link, AwaitOutcome.cancelled true) => true
  | (StorageStep.removeTemp, AwaitOutcome.cancelled _) => true
  | (StorageStep.logStored, AwaitOutcome.cancelled _) => true
  | (StorageStep.commit, AwaitOutcome.cancelled false) => true
  | _ => false

def Clean (s : StoreCall) : Prop :=
  forall entry, entry ∈ s.log -> harmful entry = false

/-- The bytes of all items. -/
def receivedBytes (content : List (Option Bytes)) : Bytes :=
  (content.filterMap id).flatten

/-!
# Awaits
-/

def StoreCall.logged (s : StoreCall) (step : StorageStep) (outcome : AwaitOutcome)
    (schedule : List AwaitOutcome) : StoreCall :=
  { s with schedule := schedule, log := s.log ++ [(step, outcome)] }

theorem Clean.logged (h : Clean s) {outcome : AwaitOutcome}
    (hstep : harmful (step, outcome) = false) (schedule : List AwaitOutcome) :
    Clean (s.logged step outcome schedule) := by
  exact List.forall_mem_append.mpr ⟨h, List.forall_mem_singleton.mpr hstep⟩

section

variable {pre : StoreCall -> Prop} {post : Unit -> StoreCall -> Prop}
  {fail : StoreFault -> StoreCall -> Prop} {step : StorageStep}
  {perform : StoreCall -> StoreCall}

theorem awaiting_spec
    (hcompletes : forall s schedule, pre s ->
      post () (perform (s.logged step AwaitOutcome.completes schedule)))
    (hraises : forall s schedule, pre s ->
      fail StoreFault.exception (s.logged step AwaitOutcome.raises schedule))
    (hperformed : forall s schedule, pre s -> fail StoreFault.cancelled
      (perform (s.logged step (AwaitOutcome.cancelled true) schedule)))
    (hcancelled : forall s schedule, pre s -> fail StoreFault.cancelled
      (s.logged step (AwaitOutcome.cancelled false) schedule)) :
    Triple pre (awaiting step perform) post fail := by
  refine Triple.bind (fun outcome s' => exists s schedule, pre s ∧
    s' = s.logged step outcome schedule) ?_ ?_
  · intro s hs
    exact ⟨s, s.schedule.tail, hs, rfl⟩
  · intro outcome
    cases outcome with
    | completes =>
        rintro _ ⟨s, schedule, hs, rfl⟩
        exact hcompletes s schedule hs
    | raises =>
        rintro _ ⟨s, schedule, hs, rfl⟩
        exact hraises s schedule hs
    | cancelled performed =>
        cases performed with
        | true =>
            rintro _ ⟨s, schedule, hs, rfl⟩
            exact hperformed s schedule hs
        | false =>
            rintro _ ⟨s, schedule, hs, rfl⟩
            exact hcancelled s schedule hs

end

/-!
# Before the link
-/

/-- The store is as it was. -/
structure Fresh (start : UploadStore) (s : StoreCall) : Prop where
  store : s.store = start
  session : s.session = start.rows
  finalizedHere : s.finalizedHere = false
  clean : Clean s

/-- The awaits of the first part, none of which is harmful. -/
def early : StorageStep -> Bool
  | StorageStep.link => false
  | StorageStep.removeTemp => false
  | StorageStep.logStored => false
  | StorageStep.commit => false
  | _ => true

theorem not_harmful_of_early (h : early step = true)
    (outcome : AwaitOutcome) : harmful (step, outcome) = false := by
  cases step <;> first | rfl | cases h

section

variable {start : UploadStore}

theorem Fresh.logged (h : Fresh start s)
    {outcome : AwaitOutcome} (hstep : harmful (step, outcome) = false)
    (schedule : List AwaitOutcome) : Fresh start (s.logged step outcome schedule) :=
  ⟨h.store, h.session, h.finalizedHere, h.clean.logged hstep schedule⟩

/-- An early await, whose effect is seen only in the temporary file. -/
theorem awaiting_early {pre post : StoreCall -> Prop}
    {perform : StoreCall -> StoreCall} (hstep : early step = true)
    (hpre : forall s, pre s -> Fresh start s)
    (hperform : forall s, Fresh start s -> Fresh start (perform s))
    (hpost : forall s outcome schedule, pre s ->
      post (perform (s.logged step outcome schedule))) :
    Triple pre (awaiting step perform) (fun _ => post) (fun _ => Fresh start) := by
  have hlogged : forall s outcome schedule, pre s ->
      Fresh start (s.logged step outcome schedule) :=
    fun s outcome schedule hs =>
      (hpre s hs).logged (not_harmful_of_early hstep outcome) schedule
  refine awaiting_spec ?_ ?_ ?_ ?_
  · intro s schedule hs
    exact hpost s _ schedule hs
  · intro s schedule hs
    exact hlogged s _ schedule hs
  · intro s schedule hs
    exact hperform _ (hlogged s _ schedule hs)
  · intro s schedule hs
    exact hlogged s _ schedule hs

theorem refuseWith_spec {α : Type} {pre : StoreCall -> Prop} {post : α -> StoreCall -> Prop}
    {reason : String} {failure : Failure} (hpre : forall s, pre s -> Fresh start s) :
    Triple pre (refuseWith reason failure) post (fun _ => Fresh start) := by
  refine Triple.bind (fun _ => Fresh start) (Triple.modified ?_) (fun _ => Triple.throw ?_)
  · intro s hs
    have hfresh := hpre s hs
    exact ⟨hfresh.store, hfresh.session, hfresh.finalizedHere, hfresh.clean⟩
  · intro s hs
    exact hs

end

/-!
# Receiving
-/

/--
Some full chunks have been written; what is left of the data is pending.  The writer is the
one that has written nothing but the header.
-/
structure Holding (env : StorageEnv) (start : UploadStore) (writer : UploadWriter)
    (data : Bytes) (receiving : Receiving) (chunks : List Bytes) (s : StoreCall) : Prop where
  fresh : Fresh start s
  full : forall chunk, chunk ∈ chunks -> chunk.length = uploadEncryptionChunkSize
  encryptor : receiving.encryptor = (writer.after env.crypto chunks).encryptor
  temp : s.temp = some (writer.after env.crypto chunks).written
  digested : receiving.digested = data
  split : chunks.flatten ++ receiving.pending = data

section

variable {env : StorageEnv} {start : UploadStore} {writer : UploadWriter}

/-- A frame that was encrypted is the next one of the writer. -/
theorem encryptedFrame_spec {α : Type} (pre : StoreCall -> Prop)
    {post : α -> StoreCall -> Prop} {encryptor : UploadChunkEncryptor} {chunk : Bytes}
    {chunks : List Bytes} {next : Bytes × UploadChunkEncryptor -> Action α}
    (hnonceSize : writer.encryptor.header.noncePrefix.length = 8)
    (hencryptor : encryptor = (writer.after env.crypto chunks).encryptor)
    (hpre : forall s, pre s -> Fresh start s)
    (hnext : forall frame, frame.2 = (writer.after env.crypto (chunks ++ [chunk])).encryptor ->
      (writer.after env.crypto chunks).written ++ frame.1
        = (writer.after env.crypto (chunks ++ [chunk])).written ->
      Triple pre (next frame) post (fun _ => Fresh start)) :
    Triple pre (encryptedFrame env encryptor chunk >>= next) post (fun _ => Fresh start) := by
  refine Triple.attempting ?_ (fun _ s _ hs => hpre s hs)
  intro frame hframe
  have hframe := mapError_eq_ok.mp hframe
  rw [hencryptor] at hframe
  have hwrite : (writer.after env.crypto chunks).write env.crypto chunk
      = Except.ok
        { encryptor := frame.2
          plaintext := (writer.after env.crypto chunks).plaintext ++ chunk
          written := (writer.after env.crypto chunks).written ++ frame.1 } :=
    bind_eq_ok.mpr ⟨frame, hframe, rfl⟩
  have hsize : (writer.after env.crypto chunks).encryptor.header.noncePrefix.length = 8 :=
    hnonceSize
  rcases (UploadWriter.write_eq_ok hsize).mp hwrite with ⟨_, _, _, _, hafter⟩
  rw [UploadWriter.after_append] at hafter
  refine hnext frame ?_ ?_
  · rw [hafter]
  · rw [hafter]

variable {data : Bytes} {receiving : Receiving}

/-- What is known about the data while it is received. -/
def Held (env : StorageEnv) (start : UploadStore) (writer : UploadWriter) (data : Bytes)
    (receiving : Receiving) (total : Nat) (s : StoreCall) : Prop :=
  s.totalSize = total ∧ exists chunks, Holding env start writer data receiving chunks s

theorem appendTemp_fresh (bytes : Bytes) (h : Fresh start s) :
    Fresh start (appendTemp bytes s) :=
  ⟨h.store, h.session, h.finalizedHere, h.clean⟩

theorem Held.fresh {total : Nat} (h : Held env start writer data receiving total s) :
    Fresh start s := by
  rcases h with ⟨_, chunks, hholding⟩
  exact hholding.fresh

theorem drainPending_spec (hnonceSize : writer.encryptor.header.noncePrefix.length = 8)
    {total fuel : Nat} (hfuel : receiving.pending.length ≤ fuel) :
    Triple (Held env start writer data receiving total) (drainPending env fuel receiving)
      (fun drained s => Held env start writer data drained total s ∧
        drained.pending.length < uploadEncryptionChunkSize)
      (fun _ => Fresh start) := by
  induction fuel generalizing receiving with
  | zero =>
      apply Triple.pure
      intro s hs
      exact ⟨hs, Nat.lt_of_le_of_lt hfuel (by decide)⟩
  | succ fuel ih =>
      unfold drainPending
      by_cases hfull : uploadEncryptionChunkSize ≤ receiving.pending.length
      · rw [if_pos hfull]
        intro s hs
        rcases hs with ⟨htotal, chunks, hs⟩
        -- The chunk that is taken from the front joins those that are written.
        let chunk := receiving.pending.take uploadEncryptionChunkSize
        have hchunk : chunk.length = uploadEncryptionChunkSize :=
          List.length_take_of_le hfull
        have hshorter : (receiving.pending.drop uploadEncryptionChunkSize).length ≤ fuel := by
          rw [List.length_drop]
          have hpos : 0 < uploadEncryptionChunkSize := by decide
          omega
        refine encryptedFrame_spec
          (fun s => s.totalSize = total ∧ Holding env start writer data receiving chunks s)
          hnonceSize hs.encryptor (fun s hs => hs.2.fresh) ?_ s ⟨htotal, hs⟩
        intro frame hencryptor hwritten
        refine Triple.bind (fun _ => Held env start writer data
          { receiving with
            encryptor := frame.2
            pending := receiving.pending.drop uploadEncryptionChunkSize } total)
          (awaiting_early rfl (fun s hs => hs.2.fresh) (fun s => appendTemp_fresh frame.1) ?_)
          (fun _ => ih hshorter)
        intro s outcome schedule hs
        refine ⟨hs.1, chunks ++ [chunk], ?_, ?_, hencryptor, ?_, hs.2.digested, ?_⟩
        · exact appendTemp_fresh frame.1 (hs.2.fresh.logged (not_harmful_of_early rfl outcome) _)
        · exact List.forall_mem_append.mpr
            ⟨hs.2.full, List.forall_mem_singleton.mpr hchunk⟩
        · show s.temp.map _ = _
          rw [hs.2.temp, Option.map_some, hwritten]
        · rw [List.flatten_append, List.append_assoc, List.flatten_cons, List.flatten_nil,
            List.append_nil]
          show chunks.flatten ++ (receiving.pending.take uploadEncryptionChunkSize ++
            receiving.pending.drop uploadEncryptionChunkSize) = data
          rw [List.take_append_drop, hs.2.split]
      · rw [if_neg hfull]
        apply Triple.pure
        intro s hs
        exact ⟨hs, Nat.lt_of_not_le hfull⟩

/-- Between two slices: the total is that of the data, and less than a chunk is pending. -/
def Settled (env : StorageEnv) (start : UploadStore) (writer : UploadWriter) (data : Bytes)
    (receiving : Receiving) (s : StoreCall) : Prop :=
  Held env start writer data receiving data.length s ∧
    receiving.pending.length < uploadEncryptionChunkSize

variable {uploadMaxSizeBytes expectedSize : Nat}

theorem receiveSlice_spec (hnonceSize : writer.encryptor.header.noncePrefix.length = 8)
    (receiving : Receiving) (slice : Bytes) :
    Triple (Settled env start writer data receiving)
      (receiveSlice env uploadMaxSizeBytes expectedSize receiving slice)
      (fun received => Settled env start writer (data ++ slice) received)
      (fun _ => Fresh start) := by
  refine Triple.get ?_
  intro s hs
  have hfresh : forall t, t = s -> Fresh start t := by
    intro t ht
    rw [ht]
    exact hs.1.fresh
  dsimp only
  by_cases hmax : configuredMax uploadMaxSizeBytes < s.totalSize + slice.length
  · rw [if_pos hmax]
    exact refuseWith_spec hfresh
  rw [if_neg hmax]
  by_cases hexpected : expectedSize < s.totalSize + slice.length
  · rw [if_pos hexpected]
    exact refuseWith_spec hfresh
  rw [if_neg hexpected]
  let longer : Receiving :=
    { receiving with
      pending := receiving.pending ++ slice
      digested := receiving.digested ++ slice }
  have hdrain : Triple (Held env start writer (data ++ slice) longer data.length)
      (drainPending env longer.pending.length longer) _ _ :=
    drainPending_spec hnonceSize (Nat.le_refl _)
  refine Triple.bind _ (hdrain.conseq ?_ (fun _ _ h => h) (fun _ _ h => h)) ?_
  · intro t ht
    rw [ht]
    rcases hs.1 with ⟨htotal, chunks, hholding⟩
    refine ⟨htotal, chunks, hholding.fresh, hholding.full, hholding.encryptor, hholding.temp, ?_,
      ?_⟩
    · show receiving.digested ++ slice = data ++ slice
      rw [hholding.digested]
    · show chunks.flatten ++ (receiving.pending ++ slice) = data ++ slice
      rw [← List.append_assoc, hholding.split]
  · intro drained
    refine Triple.bind (fun _ => Settled env start writer (data ++ slice) drained)
      (Triple.modified ?_) (fun _ => Triple.pure (fun _ h => h))
    intro t ht
    rcases ht with ⟨⟨_, chunks, hholding⟩, hpending⟩
    refine ⟨⟨?_, chunks, ?_⟩, hpending⟩
    · show s.totalSize + slice.length = (data ++ slice).length
      rw [hs.1.1, List.length_append]
    · have hfresh := hholding.fresh
      exact ⟨⟨hfresh.store, hfresh.session, hfresh.finalizedHere, hfresh.clean⟩, hholding.full,
        hholding.encryptor, hholding.temp, hholding.digested, hholding.split⟩

theorem Settled.logged (h : Settled env start writer data receiving s) (hstep : early step = true)
    (outcome : AwaitOutcome) (schedule : List AwaitOutcome) :
    Settled env start writer data receiving (s.logged step outcome schedule) := by
  rcases h with ⟨⟨htotal, chunks, hholding⟩, hpending⟩
  exact ⟨⟨htotal, chunks, hholding.fresh.logged (not_harmful_of_early hstep outcome) schedule,
    hholding.full, hholding.encryptor, hholding.temp, hholding.digested, hholding.split⟩, hpending⟩

theorem receiveItem_spec (hnonceSize : writer.encryptor.header.noncePrefix.length = 8)
    (receiving : Receiving) (item : Option Bytes) :
    Triple (Settled env start writer data receiving)
      (receiveItem env uploadMaxSizeBytes expectedSize receiving item)
      (fun received => Settled env start writer (data ++ item.getD []) received)
      (fun _ => Fresh start) := by
  refine Triple.bind (fun _ => Settled env start writer data receiving)
    (awaiting_early rfl (fun s hs => hs.1.fresh) (fun s hs => hs)
      (fun s outcome schedule hs => hs.logged rfl outcome schedule)) ?_
  intro _
  cases item with
  | none => exact refuseWith_spec (fun s hs => hs.1.fresh)
  | some received =>
      have hslice : forall (done : List Bytes) (slice : Bytes) (rest : List Bytes) receiving,
          Triple (Settled env start writer (data ++ done.flatten) receiving)
            (receiveSlice env uploadMaxSizeBytes expectedSize receiving slice)
            (fun received => Settled env start writer (data ++ (done ++ [slice]).flatten) received)
            (fun _ => Fresh start) := by
        intro done slice _ receiving
        rw [List.flatten_append, List.flatten_cons, List.flatten_nil, List.append_nil,
          ← List.append_assoc]
        exact receiveSlice_spec hnonceSize receiving slice
      have hfold := Triple.foldlM
        (I := fun done _ received => Settled env start writer (data ++ done.flatten) received)
        hslice [] (pieces uploadEncryptionChunkSize received) receiving
      rw [List.nil_append, flatten_pieces (by decide), List.flatten_nil, List.append_nil] at hfold
      exact hfold

theorem writePending_spec (hnonceSize : writer.encryptor.header.noncePrefix.length = 8)
    (data : Bytes) (receiving : Receiving) :
    Triple (Settled env start writer data receiving) (writePending env receiving)
      (fun _ s => Fresh start s ∧ s.temp
        = some (writer.after env.crypto (pieces uploadEncryptionChunkSize data)).written)
      (fun _ => Fresh start) := by
  intro s hs
  rcases hs with ⟨⟨_, chunks, hs⟩, hpending⟩
  have hpieces : pieces uploadEncryptionChunkSize data
      = chunks ++ pieces uploadEncryptionChunkSize receiving.pending := by
    rw [← hs.split]
    exact pieces_flatten_append (by decide) hs.full receiving.pending
  unfold writePending
  by_cases hempty : receiving.pending = []
  · rw [if_pos hempty]
    rw [hempty, pieces_nil, List.append_nil] at hpieces
    rw [hpieces]
    exact ⟨hs.fresh, hs.temp⟩
  · rw [if_neg hempty]
    rw [pieces_of_short hempty (Nat.le_of_lt hpending)] at hpieces
    rw [hpieces]
    refine encryptedFrame_spec (Holding env start writer data receiving chunks) hnonceSize
      hs.encryptor (fun s hs => hs.fresh) ?_ s hs
    intro frame _ hwritten
    refine Triple.bind _ (awaiting_early rfl (fun s hs => hs.fresh)
      (fun s => appendTemp_fresh frame.1) ?_) (fun _ => Triple.pure (fun _ h => h))
    intro s outcome schedule hs
    refine ⟨appendTemp_fresh frame.1 (hs.fresh.logged (not_harmful_of_early rfl outcome) _), ?_⟩
    show s.temp.map _ = _
    rw [hs.temp, Option.map_some, hwritten]

end

/-!
# The temporary file
-/

section

variable {env : StorageEnv} {start : UploadStore} {fileId : Uuid} {upload : StoredUpload}

/-- The file is a complete encryption of the data, and the data is what the row promises. -/
structure Complete (env : StorageEnv) (fileId : Uuid) (upload : StoredUpload)
    (data file : Bytes) : Prop where
  file : IsUploadFile env.crypto fileId env.crypto.activeKeyId data file
  size : upload.sizeBytes = data.length
  checksum : checksumMatches env.crypto upload.checksum data = true

/-- The store is as it was, and the temporary file is complete. -/
def Prepared (env : StorageEnv) (start : UploadStore) (fileId : Uuid) (upload : StoredUpload)
    (data : Bytes) (s : StoreCall) : Prop :=
  Fresh start s ∧ exists file, s.temp = some file ∧ Complete env fileId upload data file

theorem Prepared.logged {data : Bytes}
    (h : Prepared env start fileId upload data s) (hstep : early step = true)
    (outcome : AwaitOutcome) (schedule : List AwaitOutcome) :
    Prepared env start fileId upload data (s.logged step outcome schedule) :=
  ⟨h.1.logged (not_harmful_of_early hstep outcome) schedule, h.2⟩

theorem receivedBytes_append (done : List (Option Bytes)) (item : Option Bytes) :
    receivedBytes (done ++ [item]) = receivedBytes done ++ item.getD [] := by
  unfold receivedBytes
  rw [List.filterMap_append, List.flatten_append]
  cases item <;> simp

variable {uploadMaxSizeBytes : Nat} {noncePrefix : Bytes} {encryptor : UploadChunkEncryptor}
  {content : List (Option Bytes)}

theorem writeTemp_spec
    (hencryptor : newUploadChunkEncryptor env.crypto fileId env.crypto.activeKeyId
      upload.sizeBytes noncePrefix = Except.ok encryptor) :
    Triple (fun s => Fresh start s ∧ s.temp = some [] ∧ s.totalSize = 0)
      (writeTemp env uploadMaxSizeBytes upload encryptor content)
      (fun _ => Prepared env start fileId upload (receivedBytes content))
      (fun _ => Fresh start) := by
  let writer : UploadWriter :=
    { encryptor := encryptor, plaintext := [], written := encryptor.header.encoded }
  have hopen : openUploadWriter env.crypto fileId env.crypto.activeKeyId upload.sizeBytes
      noncePrefix = Except.ok writer :=
    bind_eq_ok.mpr ⟨encryptor, hencryptor, rfl⟩
  rcases openUploadWriter_eq_ok.mp hopen with ⟨hkeyId, hsize, hlength, key, hkey, hwriter⟩
  have hnonceSize : writer.encryptor.header.noncePrefix.length = 8 := by
    rw [← hwriter]
    exact hlength
  have hitem : forall (done : List (Option Bytes)) item (rest : List (Option Bytes)) receiving,
      Triple (Settled env start writer (receivedBytes done) receiving)
        (receiveItem env uploadMaxSizeBytes upload.sizeBytes receiving item)
        (fun received => Settled env start writer (receivedBytes (done ++ [item])) received)
        (fun _ => Fresh start) := by
    intro done item _ receiving
    rw [receivedBytes_append]
    exact receiveItem_spec hnonceSize receiving item
  have hloop := Triple.foldlM
    (I := fun done _ received => Settled env start writer (receivedBytes done) received)
    hitem [] content { encryptor := encryptor, pending := [], digested := [] }
  -- The header is written; no chunk is.
  refine Triple.bind (fun _ => Settled env start writer (receivedBytes [])
    { encryptor := encryptor, pending := [], digested := [] })
    (awaiting_early rfl (fun s hs => hs.1) (fun s => appendTemp_fresh _) ?_) ?_
  · intro s outcome schedule hs
    have hpos : 0 < uploadEncryptionChunkSize := by decide
    refine ⟨⟨hs.2.2, [], ?_, ?_, ?_, ?_, rfl, rfl⟩, hpos⟩
    · exact appendTemp_fresh _ (hs.1.logged (not_harmful_of_early rfl outcome) _)
    · intro chunk hchunk
      cases hchunk
    · simp [UploadWriter.after, writer]
    · show s.temp.map _ = _
      rw [hs.2.1]
      simp [UploadWriter.after, writer, framesFrom]
  intro _
  refine Triple.bind _ hloop ?_
  intro receiving
  refine Triple.bind (fun _ => Settled env start writer (receivedBytes content) receiving)
    (awaiting_early rfl (fun s hs => hs.1.fresh) (fun s hs => hs)
      (fun s outcome schedule hs => hs.logged rfl outcome schedule)) ?_
  intro _
  refine Triple.get ?_
  intro s hs
  have hfresh : forall t, t = s -> Fresh start t := by
    intro t ht
    rw [ht]
    exact hs.1.fresh
  have htotal : s.totalSize = (receivedBytes content).length := hs.1.1
  have hdigested : receiving.digested = receivedBytes content := by
    rcases hs.1.2 with ⟨chunks, hholding⟩
    exact hholding.digested
  by_cases htotalSize : s.totalSize ≠ upload.sizeBytes
  · rw [if_pos htotalSize]
    exact refuseWith_spec hfresh
  rw [if_neg htotalSize]
  have hsizeEq : upload.sizeBytes = (receivedBytes content).length := by
    rw [← htotal]
    exact (not_not.mp htotalSize).symm
  by_cases hchecksum : checksumMatches env.crypto upload.checksum receiving.digested = false
  · rw [if_pos hchecksum]
    exact refuseWith_spec hfresh
  rw [if_neg hchecksum]
  have hchecksum : checksumMatches env.crypto upload.checksum (receivedBytes content) = true := by
    rw [← hdigested]
    exact Bool.of_not_eq_false hchecksum
  have hcomplete : Complete env fileId upload (receivedBytes content)
      (writer.after env.crypto
        (pieces uploadEncryptionChunkSize (receivedBytes content))).written := by
    refine ⟨⟨hkeyId, ?_, key, noncePrefix, hkey, hlength, ?_⟩, hsizeEq, hchecksum⟩
    · rw [← hsizeEq]
      exact hsize
    · rw [← hsizeEq, ← hwriter]
      rfl
  have hpending : Triple (fun t => t = s) (writePending env receiving)
      (fun _ => Prepared env start fileId upload (receivedBytes content))
      (fun _ => Fresh start) := by
    refine (writePending_spec hnonceSize (receivedBytes content) receiving).conseq ?_ ?_
      (fun _ _ h => h)
    · intro t ht
      rw [ht]
      exact hs
    · intro _ t ht
      exact ⟨ht.1, _, ht.2, hcomplete⟩
  refine Triple.bind _ hpending ?_
  intro last
  refine Triple.attempting ?_ (fun _ t _ ht => ht.1)
  intro _ _
  exact awaiting_early rfl (fun t ht => ht.1) (fun t ht => ht)
    (fun t outcome schedule ht => ht.logged rfl outcome schedule)

end

end ContentStorage

end MessagingSystem
