import MessagingSystem.Uploads.Migration

/-!
# Runs of the migration

When the change of every upload is known in advance, a run is known at every point: some
uploads have been handled, and of these some are committed.  A run that dies stops at such a
point, and one that does not die ends when all uploads are handled and committed.
-/

namespace MessagingSystem

open Foundation

/-- The change of each upload; different uploads have different files. -/
structure Planned (env : StorageEnv) (nonces : NonceSource) (target : String) (rotateV1 : Bool)
    (start : UploadStore) (change : Uuid -> UploadChange) : Prop where
  planned : forall id upload, start.rows.get id = some upload ->
    exists path, env.resolvePath upload.storagePath = some path ∧
      uploadChange env target rotateV1 (nonces.1 id) id upload (start.files.get path)
        = Except.ok (change id)
  apart : forall id id' upload upload' path, start.rows.get id = some upload ->
    start.rows.get id' = some upload' -> env.resolvePath upload.storagePath = some path ->
    env.resolvePath upload'.storagePath = some path -> id = id'

def rowAfter (start : UploadStore) (change : Uuid -> UploadChange) (done : List Uuid)
    (id : Uuid) : Option StoredUpload :=
  if id ∈ done then (start.rows.get id).map (fun _ => (change id).row) else start.rows.get id

def fileAfter (start : UploadStore) (change : Uuid -> UploadChange) (done : List Uuid)
    (id : Uuid) (path : String) : Option Bytes :=
  if id ∈ done then (change id).replacement.or (start.files.get path)
  else start.files.get path

def countsAfter (change : Uuid -> UploadChange) (done : List Uuid) : MigrationCounts :=
  (done.map (fun id => (change id).count)).foldl MigrationCounts.add MigrationCounts.zero

/-- A point of a run: which uploads are handled, and which of them are committed. -/
structure Snapshot (env : StorageEnv) (start : UploadStore) (change : Uuid -> UploadChange)
    (limited : Bool) (handled committed : List Uuid) (s : MigrationState) : Prop where
  session : forall id, s.session.get id = rowAfter start change handled id
  rows : forall id, s.store.rows.get id = rowAfter start change committed id
  files : forall id upload path, start.rows.get id = some upload ->
    env.resolvePath upload.storagePath = some path ->
    s.store.files.get path = fileAfter start change handled id path
  counts : s.counts = countsAfter change handled
  budget : s.budget.isSome = limited

/-- Where a run that dies has come to. -/
def StoppedAt (env : StorageEnv) (start : UploadStore) (change : Uuid -> UploadChange)
    (limited : Bool) (fault : MigrationFault) (s : MigrationState) : Prop :=
  fault = MigrationFault.crashed ∧ limited = true ∧
    exists handled committed, Snapshot env start change limited handled committed s

section

variable {env : StorageEnv} {nonces : NonceSource} {target : String} {rotateV1 : Bool}
  {start : UploadStore} {change : Uuid -> UploadChange} {limited : Bool} {done : List Uuid}
  {id : Uuid} {upload : StoredUpload} {s : MigrationState}

theorem rowAfter_of_mem (hrow : start.rows.get id = some upload) (h : id ∈ done) :
    rowAfter start change done id = some (change id).row := by
  rw [rowAfter, if_pos h, hrow]
  rfl

theorem rowAfter_of_not_mem (h : id ∉ done) :
    rowAfter start change done id = start.rows.get id := by
  rw [rowAfter, if_neg h]

theorem rowAfter_append_ne {id' : Uuid} (h : id' ≠ id) :
    rowAfter start change (done ++ [id]) id' = rowAfter start change done id' := by
  simp [rowAfter, h]

theorem fileAfter_append_ne {id' : Uuid} {path : String} (h : id' ≠ id) :
    fileAfter start change (done ++ [id]) id' path = fileAfter start change done id' path := by
  simp [fileAfter, h]

theorem countsAfter_append (done : List Uuid) (id : Uuid) :
    countsAfter change (done ++ [id]) = (countsAfter change done).add (change id).count := by
  simp [countsAfter]

/-- A visible effect: it takes place, or the process dies before it. -/
theorem visibly_spec {effect : UploadStore -> Table Uuid StoredUpload -> UploadStore}
    {pre : MigrationState -> Prop} {post : Unit -> MigrationState -> Prop}
    {fail : MigrationFault -> MigrationState -> Prop}
    (hpost : forall s budget, pre s -> budget.isSome = s.budget.isSome ->
      post () { s with store := effect s.store s.session, budget := budget })
    (hfail : forall s, pre s -> s.budget.isSome = true -> fail MigrationFault.crashed s) :
    Triple pre (visibly effect) post fail := by
  refine Triple.get ?_
  intro s hs
  cases hbudget : s.budget with
  | none =>
      intro t ht
      rw [ht]
      exact hpost s none hs (by rw [hbudget])
  | some budget =>
      cases budget with
      | zero =>
          intro t ht
          rw [ht]
          exact hfail s hs (by rw [hbudget]; rfl)
      | succ budget =>
          intro t ht
          rw [ht]
          exact hpost s (some budget) hs (by rw [hbudget]; rfl)

/-- The file of the next upload is in place; its row and the counter are not touched yet. -/
structure Placed (env : StorageEnv) (start : UploadStore) (change : Uuid -> UploadChange)
    (limited : Bool) (handled committed : List Uuid) (id : Uuid) (u : Unit)
    (s : MigrationState) : Prop where
  session : forall id', s.session.get id' = rowAfter start change handled id'
  rows : forall id', s.store.rows.get id' = rowAfter start change committed id'
  files : forall id' upload path, start.rows.get id' = some upload ->
    env.resolvePath upload.storagePath = some path ->
    s.store.files.get path = fileAfter start change (handled ++ [id]) id' path
  counts : s.counts = countsAfter change handled
  budget : s.budget.isSome = limited

theorem placeFile_spec (hplan : Planned env nonces target rotateV1 start change)
    {handled committed : List Uuid} {path : String} (hid : id ∉ handled)
    (hupload : start.rows.get id = some upload)
    (hpath : env.resolvePath upload.storagePath = some path) :
    Triple (Snapshot env start change limited handled committed)
      (placeFile path (change id).replacement)
      (Placed env start change limited handled committed id)
      (StoppedAt env start change limited) := by
  have hself : id ∈ handled ++ [id] := List.mem_append_right _ List.mem_cons_self
  cases hreplacement : (change id).replacement with
  | none =>
      apply Triple.pure
      intro s hs
      refine ⟨hs.session, hs.rows, ?_, hs.counts, hs.budget⟩
      intro id' upload' path' hupload' hpath'
      rw [hs.files id' upload' path' hupload' hpath']
      by_cases hne : id' = id
      · rw [hne, fileAfter, if_neg hid, fileAfter, if_pos hself, hreplacement]
        rfl
      · rw [fileAfter_append_ne hne]
  | some file =>
      unfold placeFile
      refine visibly_spec ?_ ?_
      · intro s budget hs hbudget
        refine ⟨hs.session, hs.rows, ?_, hs.counts, hbudget.trans hs.budget⟩
        intro id' upload' path' hupload' hpath'
        show (s.store.files.set path (some file)).get path' = _
        by_cases hne : id' = id
        · have hsame : upload' = upload := by
            rw [hne, hupload] at hupload'
            exact (Option.some.inj hupload').symm
          rw [hsame, hpath] at hpath'
          rw [← Option.some.inj hpath', hne, Table.get_set_self, fileAfter, if_pos hself,
            hreplacement]
          rfl
        · have hapart : path' ≠ path := by
            intro heq
            rw [heq] at hpath'
            exact hne (hplan.apart id' id upload' upload path hupload' hupload hpath' hpath)
          rw [Table.get_set_ne _ hapart, fileAfter_append_ne hne]
          exact hs.files id' upload' path' hupload' hpath'
      · intro s hs hsome
        exact ⟨rfl, hs.budget ▸ hsome, handled, committed, hs⟩

theorem Placed.handled {handled committed : List Uuid}
    (h : Placed env start change limited handled committed id () s)
    (hupload : start.rows.get id = some upload) :
    Snapshot env start change limited (handled ++ [id]) committed
      { s with
        session := s.session.set id (some (change id).row)
        counts := s.counts.add (change id).count } := by
  refine ⟨?_, h.rows, h.files, ?_, h.budget⟩
  · intro id'
    show (s.session.set id (some (change id).row)).get id' = _
    by_cases hne : id' = id
    · rw [hne, Table.get_set_self,
        rowAfter_of_mem hupload (List.mem_append_right _ List.mem_cons_self)]
    · rw [Table.get_set_ne _ hne, rowAfter_append_ne hne]
      exact h.session id'
  · show s.counts.add (change id).count = _
    rw [h.counts, countsAfter_append]

/-- The step: one more upload is handled. -/
theorem migrateUpload_spec (hplan : Planned env nonces target rotateV1 start change)
    {handled committed : List Uuid} (hid : id ∉ handled)
    (hrow : (start.rows.get id).isSome = true) :
    Triple (Snapshot env start change limited handled committed)
      (migrateUpload env nonces target rotateV1 id)
      (fun _ => Snapshot env start change limited (handled ++ [id]) committed)
      (StoppedAt env start change limited) := by
  rcases Option.isSome_iff_exists.mp hrow with ⟨upload, hupload⟩
  rcases hplan.planned id upload hupload with ⟨path, hpath, hchange⟩
  refine Triple.get ?_
  intro s hs
  have hsession : s.session.get id = some upload := by
    rw [hs.session, rowAfter_of_not_mem hid, hupload]
  have hfile : s.store.files.get path = start.files.get path := by
    rw [hs.files id upload path hupload hpath, fileAfter, if_neg hid]
  rw [hsession]
  refine Triple.attempt (orFail_eq_ok.mpr hpath) (Triple.attempt (hfile ▸ hchange) ?_)
  refine Triple.bind (Placed env start change limited handled committed id)
    ((placeFile_spec hplan hid hupload hpath).conseq ?_ (fun _ _ h => h) (fun _ _ h => h)) ?_
  · intro t ht
    rw [ht]
    exact hs
  · intro _
    exact Triple.modified (fun t ht => ht.handled hupload)

theorem migrateBatch_spec (hplan : Planned env nonces target rotateV1 start change)
    {handled page : List Uuid} (hnodup : (handled ++ page).Nodup)
    (hrows : forall id, id ∈ page -> (start.rows.get id).isSome = true) :
    Triple (Snapshot env start change limited handled handled)
      (migrateBatch env nonces target rotateV1 page)
      (fun _ => Snapshot env start change limited (handled ++ page) (handled ++ page))
      (StoppedAt env start change limited) := by
  -- The uploads of the page that are done are handled; none of them is committed.
  have hloop : Triple (Snapshot env start change limited handled handled)
      (page.forM (migrateUpload env nonces target rotateV1))
      (fun _ => Snapshot env start change limited (handled ++ page) handled)
      (StoppedAt env start change limited) :=
    Triple.forM (I := fun done => Snapshot env start change limited done handled) hnodup
      (fun _ id hmem hid => migrateUpload_spec hplan hid (hrows id hmem))
  refine Triple.bind _ hloop ?_
  intro _
  refine visibly_spec ?_ ?_
  · intro s budget hs hbudget
    exact ⟨hs.session, hs.session, hs.files, hs.counts, hbudget.trans hs.budget⟩
  · intro s hs hsome
    exact ⟨rfl, hs.budget ▸ hsome, _, _, hs⟩

/-- No row is added and none is deleted. -/
def SameKeys (start : UploadStore) (s : MigrationState) : Prop :=
  forall id, (s.session.get id).isSome = (start.rows.get id).isSome

theorem SameKeys.perm (h : SameKeys start s) : s.session.keys.Perm start.rows.keys := by
  refine (List.perm_ext_iff_of_nodup s.session.nodup_keys start.rows.nodup_keys).mpr ?_
  intro id
  rw [Table.mem_keys, Table.mem_keys, h id]

theorem Snapshot.sameKeys {handled committed : List Uuid}
    (h : Snapshot env start change limited handled committed s) : SameKeys start s := by
  intro id
  rw [h.session]
  unfold rowAfter
  split
  · rw [Option.isSome_map]
  · rfl

/-- The keys in the order in which the command goes through them. -/
def UploadStore.order (store : UploadStore) : List Uuid :=
  orderByAsc BitVec.toNat store.rows.keys

theorem UploadStore.mem_order {store : UploadStore} :
    id ∈ store.order ↔ (store.rows.get id).isSome = true := by
  rw [← Table.mem_keys]
  exact (orderByAsc_perm BitVec.toNat store.rows.keys).mem_iff

theorem snapshot_opened {budget : Option Nat} :
    Snapshot env start change budget.isSome [] [] (start.opened budget) :=
  ⟨fun _ => (rowAfter_of_not_mem List.not_mem_nil).symm,
    fun _ => (rowAfter_of_not_mem List.not_mem_nil).symm,
    fun _ _ _ _ _ => (if_neg List.not_mem_nil).symm, rfl, rfl⟩

/-- A whole run: all uploads are handled and committed, or the process dies on the way. -/
theorem migrateUploads_spec {targetKeyId : Option String} {batchSize : Nat}
    (budget : Option Nat) (htarget : requireTargetKey env targetKeyId = Except.ok target)
    (hsize : 0 < batchSize) (hplan : Planned env nonces target rotateV1 start change) :
    Triple (fun s => s = start.opened budget)
      (migrateUploads env nonces batchSize targetKeyId rotateV1)
      (fun counts s => counts = countsAfter change start.order ∧
        Snapshot env start change budget.isSome start.order start.order s)
      (StoppedAt env start change budget.isSome) := by
  refine Triple.attempt htarget (Triple.get ?_)
  intro s hs
  have hinjective : Function.Injective (BitVec.toNat : Uuid -> Nat) :=
    fun _ _ h => BitVec.eq_of_toNat_eq h
  have hnodup : start.order.Nodup :=
    (orderByAsc_perm BitVec.toNat start.rows.keys).nodup_iff.mpr start.rows.nodup_keys
  refine Triple.bind
    (fun _ => Snapshot env start change budget.isSome start.order start.order) ?_ ?_
  · refine (keysetLoop_spec
      (I := fun done => Snapshot env start change budget.isSome done done) hinjective hsize
      start.rows.nodup_keys (fun _ _ h => h.sameKeys.perm) ?_ ?_).conseq ?_ (fun _ _ h => h)
      (fun _ _ h => h)
    · intro done page rest horder
      have horder : start.order = done ++ (page ++ rest) := horder
      rw [horder, ← List.append_assoc] at hnodup
      apply migrateBatch_spec hplan (List.nodup_append.mp hnodup).1
      intro id hid
      rw [← UploadStore.mem_order, horder]
      exact List.mem_append_right _ (List.mem_append_left _ hid)
    · rw [hs]
      exact Nat.lt_succ_self _
    · intro t ht
      rw [ht, hs]
      exact snapshot_opened
  · intro _
    refine Triple.get ?_
    intro t ht
    apply Triple.pure
    intro u hu
    rw [hu]
    exact ⟨ht.counts, ht⟩

theorem migrateUploads_completes {targetKeyId : Option String} {batchSize : Nat}
    (htarget : requireTargetKey env targetKeyId = Except.ok target) (hsize : 0 < batchSize)
    (hplan : Planned env nonces target rotateV1 start change) :
    exists s, migrateUploads env nonces batchSize targetKeyId rotateV1 (start.opened none)
        = EStateM.Result.ok (countsAfter change start.order) s ∧
      Snapshot env start change false start.order start.order s := by
  have hrun := migrateUploads_spec none htarget hsize hplan (start.opened none) rfl
  cases hresult : migrateUploads env nonces batchSize targetKeyId rotateV1
      (start.opened none) with
  | ok counts s =>
      rw [hresult] at hrun
      exact ⟨s, by rw [hrun.1], hrun.2⟩
  | error fault s =>
      rw [hresult] at hrun
      exact nomatch hrun.2.1

end

end MessagingSystem
