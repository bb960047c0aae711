import MessagingSystem.Audit.Checkpointing
import MessagingSystem.Events.LogKeys

/-!
# Batches that verify

A batch built from stored events verifies, and it keeps verifying while events and
other batches are added and however the payloads are read back.
-/

namespace MessagingSystem

open Foundation

variable {tables : AuditTables} {batch : MerkleBatch} {leaves : List MerkleLeaf}

/-!
# Leaf rows
-/

section

variable {batchId : Uuid} {events : List Event} {leafHashes : List String}

theorem leafRows_length (hlength : events.length = leafHashes.length) :
    (leafRows batchId events leafHashes).length = events.length := by
  simp [leafRows, hlength]

theorem leafRows_map_leafIndex (hlength : events.length = leafHashes.length) :
    (leafRows batchId events leafHashes).map MerkleLeaf.leafIndex
      = intRange events.length := by
  apply List.ext_getElem
  · simp [leafRows, intRange, hlength]
  · intro i _ _
    simp [leafRows, intRange, leafRow]

/-- A column that is copied from the event. -/
theorem leafRows_map_of_event {column : Type} {f : MerkleLeaf -> column}
    {g : Event -> column} (hf : forall i event hash, f (leafRow batchId i event hash) = g event)
    (hlength : events.length = leafHashes.length) :
    (leafRows batchId events leafHashes).map f = events.map g := by
  apply List.ext_getElem
  · simp [leafRows, hlength]
  · intro i _ _
    simp [leafRows, hf]

theorem leafRows_map_leafHash (hlength : events.length = leafHashes.length) :
    (leafRows batchId events leafHashes).map MerkleLeaf.leafHash = leafHashes := by
  apply List.ext_getElem
  · simp [leafRows, hlength]
  · intro i _ _
    simp [leafRows, leafRow]

/-- Every leaf row stands for one of the events and its hash. -/
theorem mem_leafRows {leaf : MerkleLeaf} (h : leaf ∈ leafRows batchId events leafHashes) :
    exists event hash, (event, hash) ∈ events.zip leafHashes ∧ leaf.batchId = batchId ∧
      leaf.eventId = event.id ∧ leaf.eventHash = eventHashText event ∧
      leaf.leafHash = hash := by
  rcases List.mem_mapIdx.mp h with ⟨i, hi, hleaf⟩
  refine ⟨_, _, List.getElem_mem hi, ?_⟩
  rw [← hleaf]
  exact ⟨rfl, rfl, rfl, rfl⟩

theorem leafRows_increasing (hlength : events.length = leafHashes.length) :
    Increasing MerkleLeaf.leafIndex (leafRows batchId events leafHashes) := by
  have hrange : (intRange events.length).Pairwise (fun a b => a < b) := by
    unfold intRange
    rw [List.pairwise_map]
    exact List.pairwise_lt_range.imp (fun h => Int.ofNat_lt.mpr h)
  have hindexes : (leafRows batchId events leafHashes).map MerkleLeaf.leafIndex
      = intRange events.length := leafRows_map_leafIndex hlength
  rw [← hindexes] at hrange
  exact List.pairwise_map.mp hrange

end

/-!
# Rows found by their id
-/

variable {events : List Event} {event : Event}

theorem eventById_some {id : Uuid} (h : eventById events id = some event) :
    event ∈ events ∧ event.id = id := by
  unfold eventById at h
  have hid := List.find?_some h
  exact ⟨List.mem_of_find?_eq_some h, of_decide_eq_true hid⟩

theorem eventById_of_mem (hkeys : (events.map Event.id).Nodup) (hevent : event ∈ events) :
    eventById events event.id = some event := by
  induction events with
  | nil => cases hevent
  | cons first events ih =>
      rw [List.map_cons, List.nodup_cons] at hkeys
      unfold eventById
      rw [List.find?_cons]
      rcases List.mem_cons.mp hevent with hfirst | hrest
      · rw [hfirst, decide_eq_true rfl]
      · have hne : first.id ≠ event.id := by
          intro heq
          exact hkeys.1 (List.mem_map.mpr ⟨event, hrest, heq.symm⟩)
        rw [decide_eq_false hne]
        exact ih hkeys.2 hrest

theorem eventsWithIds_keys
    (hkeys : (tables.events.map Event.id).Nodup) (ids : List Uuid) :
    ((tables.eventsWithIds ids).map Event.id).Nodup :=
  (List.filter_sublist.map Event.id).nodup hkeys

/-- Distinct ids of stored events find as many events. -/
theorem eventsWithIds_count (hkeys : (tables.events.map Event.id).Nodup)
    (hstored : forall event, event ∈ events -> event ∈ tables.events)
    (hdistinct : (events.map Event.id).Nodup) :
    ((tables.eventsWithIds (events.map Event.id)).map Event.id).dedup.length
      = events.length := by
  have hnodup := eventsWithIds_keys hkeys (events.map Event.id)
  rw [List.Nodup.dedup hnodup]
  have hperm : ((tables.eventsWithIds (events.map Event.id)).map Event.id).Perm
      (events.map Event.id) := by
    apply (List.perm_ext_iff_of_nodup hnodup hdistinct).mpr
    intro id
    constructor
    · intro hid
      rcases List.mem_map.mp hid with ⟨event, hevent, heq⟩
      rw [← heq]
      exact of_decide_eq_true (List.mem_filter.mp hevent).2
    · intro hid
      rcases List.mem_map.mp hid with ⟨event, hevent, heq⟩
      refine List.mem_map.mpr ⟨event, List.mem_filter.mpr ⟨hstored event hevent, ?_⟩, heq⟩
      exact decide_eq_true (List.mem_map.mpr ⟨event, hevent, rfl⟩)
  rw [hperm.length_eq, List.length_map]

theorem eventById_eventsWithIds (hkeys : (tables.events.map Event.id).Nodup) {ids : List Uuid}
    (hstored : event ∈ tables.events) (hid : event.id ∈ ids) :
    eventById (tables.eventsWithIds ids) event.id = some event :=
  eventById_of_mem (eventsWithIds_keys hkeys ids)
    (List.mem_filter.mpr ⟨hstored, decide_eq_true hid⟩)

/-!
# New batches
-/

section

variable {sha256 : Sha256} {ed : Ed25519} {publicKeys : String -> Option String}
  {settings : CheckpointSettings} {latest : Option MerkleBatch}

/-- Events that are stored, in no leaf, and carry their own hash. -/
structure SelectedEvents (sha256 : Sha256) (tables : AuditTables) (events : List Event) :
    Prop where
  stored : forall event, event ∈ events -> event ∈ tables.events
  distinct : (events.map Event.id).Nodup
  fresh : forall event, event ∈ events -> forall leaf, leaf ∈ tables.leaves ->
    leaf.eventId ≠ event.id
  hashed : forall event, event ∈ events ->
    event.eventHash = some (computeEventHash sha256 event)

/-- The parts of a signed batch. -/
structure SignedFrom (sha256 : Sha256) (ed : Ed25519) (settings : CheckpointSettings)
    (latest : Option MerkleBatch) (first : Event) (rest : List Event) (batch : MerkleBatch)
    (leafHashes : List String) : Prop where
  length : (first :: rest).length = leafHashes.length
  hashes : forall event hash, (event, hash) ∈ (first :: rest).zip leafHashes ->
    leafHash sha256 (eventHashText event) = Except.ok hash
  merkleRoot : buildMerkleRoot sha256 leafHashes = Except.ok batch.merkleRoot
  formatted : batch.Formatted
  checkpointHash : batch.checkpointHash = (sha256 (checkpointBytes batch)).hex
  signature : signCheckpointHash ed batch.checkpointHash settings.privateKeyBase64
    = Except.ok batch.signature
  sequenceNo : batch.sequenceNo = latest.elim 1 (fun previous => previous.sequenceNo + 1)
  previous : batch.previousCheckpointHash = latest.map MerkleBatch.checkpointHash
  leafCount : batch.leafCount = (first :: rest).length
  firstEvent : (first.id, eventHashText first)
    = (batch.firstEventId, batch.firstEventHash)
  lastEvent : ((rest.getLastD first).id, eventHashText (rest.getLastD first))
    = (batch.lastEventId, batch.lastEventHash)
  signingKeyId : batch.signingKeyId = settings.signingKeyId

theorem signedBatch_eq_ok {first : Event} {rest : List Event} {id : Uuid} {createdAt : Instant}
    {leafHashes : List String} (h : signedBatch sha256 ed settings latest first rest id createdAt
      = Except.ok (batch, leafHashes)) :
    SignedFrom sha256 ed settings latest first rest batch leafHashes := by
  unfold signedBatch at h
  simp only [bind_eq_ok, pure_eq_ok, computeCheckpointHash_eq_ok] at h
  rcases h with ⟨hashes, hhashes, root, hroot, text, ⟨hformat, htext⟩, signature, hsignature,
    heq⟩
  injection heq with hbatch hleaves
  subst hbatch
  subst hleaves
  rcases mapM_eq_ok hhashes with ⟨hlength, hzip⟩
  refine ⟨hlength, hzip, hroot, ?_, htext, hsignature, ?_, rfl, rfl, rfl, rfl, rfl⟩
  · exact ⟨hformat.sequenceNo, hformat.merkleVersion, hformat.leafCount,
      hformat.hashAlgorithm, hformat.firstEventHash, hformat.lastEventHash,
      hformat.merkleRoot, hformat.previous, hformat.signingKeyId⟩
  · cases latest with
    | none | some => rfl

/-- A batch built from stored events verifies when the leaf table holds its rows. -/
theorem SignedFrom.verified (hcorrect : ed.Correct) {first : Event} {rest : List Event}
    {leafHashes : List String}
    (h : SignedFrom sha256 ed settings latest first rest batch leafHashes)
    (hsettings : validateSigningConfiguration ed settings.signingKeyId
      settings.privateKeyBase64 publicKeys = Except.ok ())
    (hkeys : (tables.events.map Event.id).Nodup)
    (hstored : forall event, event ∈ first :: rest -> event ∈ tables.events)
    (hdistinct : ((first :: rest).map Event.id).Nodup)
    (hhashed : forall event, event ∈ first :: rest ->
      event.eventHash = some (computeEventHash sha256 event)) :
    VerifiedBatch sha256 ed publicKeys tables batch
      (leafRows batch.id (first :: rest) leafHashes) := by
  have hids : (leafRows batch.id (first :: rest) leafHashes).map MerkleLeaf.eventId
      = (first :: rest).map Event.id :=
    leafRows_map_of_event (fun _ _ _ => rfl) h.length
  have hbounds : (leafRows batch.id (first :: rest) leafHashes).map
      (fun leaf => (leaf.eventId, leaf.eventHash))
      = (first :: rest).map (fun event => (event.id, eventHashText event)) :=
    leafRows_map_of_event (fun _ _ _ => rfl) h.length
  refine
    { formatted := h.formatted
      checkpointHash := h.checkpointHash
      signature := ?_
      leafCount := ?_
      leafIndexes := ?_
      nonempty := ?_
      first := ?_
      last := ?_
      leafHashes := ?_
      merkleRoot := ?_
      eventCount := ?_
      events := ?_ }
  · rcases validateSigningConfiguration_eq_ok hsettings with ⟨_, seed, hseed, hkey⟩
    have hsigned := h.signature
    rw [h.checkpointHash, signCheckpointHash_hex hseed] at hsigned
    rw [← Except.ok.inj hsigned, h.checkpointHash, h.signingKeyId]
    exact verifyCheckpointSignature_of_signed hcorrect hkey _
  · rw [leafRows_length h.length, h.leafCount]
  · rw [leafRows_map_leafIndex h.length, h.leafCount]
  · intro hnil
    rw [hnil] at hids
    cases hids
  · rw [boundary, ← List.head?_map, hbounds, ← h.firstEvent]
    rfl
  · rw [boundary, ← List.getLast?_map, hbounds, ← h.lastEvent, List.getLast?_map,
      List.getLast?_cons, List.getLastD_eq_getLast?]
    rfl
  · intro leaf hleaf
    rcases mem_leafRows hleaf with ⟨event, hash, hzip, _, _, htext, hhash⟩
    rw [htext, hhash]
    exact h.hashes event hash hzip
  · rw [leafRows_map_leafHash h.length]
    exact h.merkleRoot
  · rw [hids, eventsWithIds_count hkeys hstored hdistinct, leafRows_length h.length]
  · intro leaf hleaf
    rcases mem_leafRows hleaf with ⟨event, hash, hzip, _, hid, htext, _⟩
    have hevent := (List.of_mem_zip hzip).1
    have hhash := hhashed event hevent
    refine ⟨event, ?_, ?_, ?_⟩
    · rw [hid, hids]
      exact eventById_eventsWithIds hkeys (hstored event hevent)
        (List.mem_map.mpr ⟨event, hevent, rfl⟩)
    · rw [htext, eventHashText, hhash]
      rfl
    · rw [htext, eventHashText, hhash]
      rfl

/-!
# Growth and rereading
-/

variable {stored read : List Event} {tables' : AuditTables}

theorem SameRow.id_eq {stored read : Event} (h : SameRow stored read) : read.id = stored.id := by
  rw [h.rest]

theorem ReadBack.ids_eq (h : ReadBack stored read) : read.map Event.id = stored.map Event.id := by
  induction h with
  | nil => rfl
  | cons hrow _ ih => rw [List.map_cons, List.map_cons, ih, hrow.id_eq]

theorem ReadBack.filter (h : ReadBack stored read) {p : Event -> Bool}
    (hp : forall a b, SameRow a b -> p b = p a) : ReadBack (stored.filter p) (read.filter p) := by
  induction h with
  | nil => exact List.Forall₂.nil
  | @cons a b _ _ hrow _ ih =>
      rw [List.filter_cons, List.filter_cons, hp a b hrow]
      split
      · exact List.Forall₂.cons hrow ih
      · exact ih

theorem ReadBack.eventById (h : ReadBack stored read) {id : Uuid} {event : Event}
    (hevent : eventById stored id = some event) :
    exists event', eventById read id = some event' ∧ SameRow event event' := by
  unfold MessagingSystem.eventById at hevent ⊢
  induction h with
  | nil => cases hevent
  | @cons a b _ _ hrow _ ih =>
      rw [List.find?_cons] at hevent ⊢
      rw [hrow.id_eq]
      split at hevent
      · cases hevent
        exact ⟨b, rfl, hrow⟩
      · exact ih hevent

/-- Only the events a batch covers matter, up to the order of payload keys. -/
theorem VerifiedBatch.of_rows (h : VerifiedBatch sha256 ed publicKeys tables batch leaves)
    (hrows : ReadBack (tables.eventsWithIds (leaves.map MerkleLeaf.eventId))
      (tables'.eventsWithIds (leaves.map MerkleLeaf.eventId))) :
    VerifiedBatch sha256 ed publicKeys tables' batch leaves := by
  refine { h with eventCount := ?_, events := ?_ }
  · rw [hrows.ids_eq]
    exact h.eventCount
  · intro leaf hleaf
    rcases h.events leaf hleaf with ⟨event, hevent, hstored, hhash⟩
    rcases hrows.eventById hevent with ⟨event', hevent', hsame⟩
    refine ⟨event', hevent', ?_, ?_⟩
    · rw [hsame.rest]
      exact hstored
    · rw [hsame.hash_eq]
      exact hhash

theorem VerifiedBatch.leaf_stored (h : VerifiedBatch sha256 ed publicKeys tables batch leaves)
    {leaf : MerkleLeaf} (hleaf : leaf ∈ leaves) :
    leaf.eventId ∈ tables.events.map Event.id := by
  rcases h.events leaf hleaf with ⟨event, hevent, _⟩
  rcases eventById_some hevent with ⟨hmem, hid⟩
  exact List.mem_map.mpr ⟨event, (List.mem_filter.mp hmem).1, hid⟩

/-- Events with other ids do not concern a verified batch. -/
theorem VerifiedBatch.add_events {added : List Event}
    (h : VerifiedBatch sha256 ed publicKeys tables batch leaves)
    (hevents : tables'.events = tables.events ++ added)
    (hkeys : (tables'.events.map Event.id).Nodup) :
    VerifiedBatch sha256 ed publicKeys tables' batch leaves := by
  apply h.of_rows
  have hnone : added.filter (fun event => event.id ∈ leaves.map MerkleLeaf.eventId) = [] := by
    apply List.filter_eq_nil_iff.mpr
    intro event hevent hid
    rcases List.mem_map.mp (of_decide_eq_true hid) with ⟨leaf, hleaf, heq⟩
    rw [hevents, List.map_append, List.nodup_append] at hkeys
    exact hkeys.2.2 leaf.eventId (h.leaf_stored hleaf) event.id
      (List.mem_map.mpr ⟨event, hevent, rfl⟩) heq
  unfold AuditTables.eventsWithIds
  rw [hevents, List.filter_append, hnone, List.append_nil]
  exact ReadBack.refl _

theorem VerifiedBatch.read_back (h : VerifiedBatch sha256 ed publicKeys tables batch leaves)
    (hread : ReadBack tables.events read) :
    VerifiedBatch sha256 ed publicKeys { tables with events := read } batch leaves := by
  apply h.of_rows
  refine hread.filter ?_
  intro a b hrow
  rw [hrow.id_eq]

end

end MessagingSystem
