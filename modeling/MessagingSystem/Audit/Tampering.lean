import MessagingSystem.Audit.Anchors
import MessagingSystem.Audit.Runs
import MessagingSystem.Foundation.JsonRead

/-!
# Tamper evidence

An anchor fixes the whole history before it.  From its hash backwards every checkpoint
is determined by the next one, the leaves are determined by the root over them, and
the events are determined by the hashes in the leaves, as long as the hash function
has no collision among the texts that are hashed on the way.
-/

namespace MessagingSystem

open Foundation

/-!
# Texts that determine their values
-/

theorem optional_injective {α : Type} {f : Option α -> Json}
    (hsome : forall a b, f (some a) = f (some b) -> a = b)
    (hnone : forall a, f (some a) ≠ f none) : Function.Injective f := by
  intro a b h
  cases a with
  | none =>
      cases b with
      | none => rfl
      | some b => exact absurd h.symm (hnone b)
  | some a =>
      cases b with
      | none => exact absurd h (hnone a)
      | some b => exact congrArg some (hsome a b h)

theorem optionalText_injective : Function.Injective optionalText :=
  optional_injective (fun _ _ h => Json.str.inj h) (fun _ h => nomatch h)

theorem optionalInt_injective : Function.Injective optionalInt :=
  optional_injective (fun _ _ h => Json.int.inj h) (fun _ h => nomatch h)

theorem optionalId_injective {a b : Option Uuid} (h : optionalId a = optionalId b) : a = b :=
  Option.map_injective (fun _ _ => Uuid.str_injective) (optionalText_injective h)

theorem plain_optionalText (text : Option String) :
    (optionalText text).WellFormed ∧ (optionalText text).sortKeys = optionalText text := by
  cases text with
  | none | some => exact ⟨trivial, rfl⟩

theorem plain_optionalInt (n : Option Int) :
    (optionalInt n).WellFormed ∧ (optionalInt n).sortKeys = optionalInt n := by
  cases n with
  | none | some => exact ⟨trivial, rfl⟩

/-- The columns that the hash of a checkpoint covers. -/
def checkpointColumns : List (String × (MerkleBatch -> Json)) :=
  [("checkpoint_version", fun _ => Json.int checkpointVersionNumber),
    ("sequence_no", fun batch => Json.int batch.sequenceNo),
    ("merkle_version", fun batch => Json.int batch.merkleVersion),
    ("hash_algorithm", fun _ => Json.str hashAlgorithmName),
    ("leaf_count", fun batch => Json.int batch.leafCount),
    ("first_event_id", fun batch => idJson batch.firstEventId),
    ("last_event_id", fun batch => idJson batch.lastEventId),
    ("first_event_hash", fun batch => Json.str batch.firstEventHash),
    ("last_event_hash", fun batch => Json.str batch.lastEventHash),
    ("merkle_root", fun batch => Json.str batch.merkleRoot),
    ("previous_checkpoint_hash", fun batch => optionalText batch.previousCheckpointHash),
    ("signing_key_id", fun batch => Json.str batch.signingKeyId),
    ("created_at", fun batch => Json.str batch.createdAt.isoformat)]

theorem checkpointFields_eq_record (batch : MerkleBatch) :
    checkpointFields batch = Json.record checkpointColumns batch :=
  rfl

theorem plain_checkpointColumn {f : String × (MerkleBatch -> Json)}
    (hf : f ∈ checkpointColumns) (batch : MerkleBatch) :
    (f.2 batch).WellFormed ∧ (f.2 batch).sortKeys = f.2 batch := by
  simp only [checkpointColumns, List.mem_cons, List.not_mem_nil, or_false] at hf
  rcases hf with rfl | rfl | rfl | rfl | rfl | rfl | rfl | rfl | rfl | rfl | rfl | rfl | rfl
  all_goals first
    | exact ⟨trivial, rfl⟩
    | exact plain_optionalText _

theorem dumps_text_inj {a b : Json} (ha : a.WellFormed) (hb : b.WellFormed)
    (h : utf8 (String.ofList a.dumps) = utf8 (String.ofList b.dumps)) :
    a.sortKeys = b.sortKeys :=
  Json.print_injective (Json.wellFormed_sortKeys ha) (Json.wellFormed_sortKeys hb)
    (ofList_injective (utf8_injective h))

theorem checkpointBytes_injective {first second : MerkleBatch}
    (h : checkpointBytes first = checkpointBytes second) :
    checkpointFields first = checkpointFields second := by
  have hkeys : (checkpointColumns.map Prod.fst).Nodup := by
    simp [checkpointColumns]
  have hwell : forall batch, (checkpointFields batch).WellFormed := fun batch =>
    Json.wellFormed_record hkeys (fun f hf => (plain_checkpointColumn hf batch).1)
  have hsorted := dumps_text_inj (hwell first) (hwell second) h
  rw [checkpointFields_eq_record, checkpointFields_eq_record] at hsorted ⊢
  refine congrArg Json.obj (List.map_congr_left ?_)
  intro f hf
  have hfield := Json.sortKeys_record hkeys hsorted hf
  rw [(plain_checkpointColumn hf _).2, (plain_checkpointColumn hf _).2] at hfield
  rw [hfield]

/-- What the rest of the argument needs of equal checkpoint fields. -/
theorem checkpointFields_inj {first second : MerkleBatch}
    (h : checkpointFields first = checkpointFields second) :
    first.sequenceNo = second.sequenceNo ∧ first.leafCount = second.leafCount ∧
      first.merkleRoot = second.merkleRoot ∧
      first.previousCheckpointHash = second.previousCheckpointHash := by
  simp only [checkpointFields, Json.obj.injEq, List.cons.injEq, Prod.mk.injEq, true_and,
    and_true, Json.int.injEq, Json.str.injEq] at h
  rcases h with ⟨hsequence, _, hcount, _, _, _, _, hroot, hprevious, _⟩
  exact ⟨hsequence, hcount, hroot, optionalText_injective hprevious⟩

/-- The same event, up to the order of the keys of its payload. -/
structure SameEvent (first second : Event) : Prop where
  id : first.id = second.id
  channelId : first.channelId = second.channelId
  actorUserId : first.actorUserId = second.actorUserId
  eventType : first.eventType = second.eventType
  createdAt : first.createdAt = second.createdAt
  payload : first.payload.json.Same second.payload.json
  previousHash : first.previousHash = second.previousHash
  integrityVersion : first.integrityVersion = second.integrityVersion
  integrityScope : first.integrityScope = second.integrityScope

def eventColumns : List (String × (Event -> Json)) :=
  [("id", fun event => idJson event.id),
    ("channel_id", fun event => optionalId event.channelId),
    ("actor_user_id", fun event => optionalId event.actorUserId),
    ("event_type", fun event => Json.str event.eventType),
    ("created_at", fun event => Json.str event.createdAt.isoformat),
    ("payload", fun event => event.payload.json.sortKeys),
    ("previous_hash", fun event => optionalText event.previousHash),
    ("integrity_version", fun event => optionalInt event.integrityVersion),
    ("integrity_scope", fun event => optionalText event.integrityScope)]

/-- The bytes an event hash is taken of. -/
def eventBytes (event : Event) : List UInt8 :=
  utf8 (canonicalEventJson event)

theorem eventBytes_injective {first second : Event} (h : eventBytes first = eventBytes second) :
    SameEvent first second := by
  have hkeys : (eventColumns.map Prod.fst).Nodup := by
    simp [eventColumns]
  have hwell : forall event, (Json.record eventColumns event).WellFormed := by
    intro event
    refine Json.wellFormed_record hkeys ?_
    simp only [eventColumns, List.forall_mem_cons]
    exact ⟨trivial, (plain_optionalText _).1, (plain_optionalText _).1, trivial, trivial,
      Json.wellFormed_sortKeys event.payload.wellFormed, (plain_optionalText _).1,
      (plain_optionalInt _).1, (plain_optionalText _).1, List.forall_mem_nil _⟩
  have hsorted : (Json.record eventColumns first).sortKeys
      = (Json.record eventColumns second).sortKeys :=
    dumps_text_inj (hwell first) (hwell second) h
  have hfields : forall f, f ∈ eventColumns -> (f.2 first).sortKeys = (f.2 second).sortKeys :=
    fun f hf => Json.sortKeys_record hkeys hsorted hf
  simp only [eventColumns, List.forall_mem_cons] at hfields
  rcases hfields with ⟨hid, hchannel, hactor, htype, hcreated, hpayload, hprevious, hversion,
    hscope, _⟩
  unfold optionalId at hchannel hactor
  rw [(plain_optionalText _).2, (plain_optionalText _).2] at hchannel hactor hprevious hscope
  rw [(plain_optionalInt _).2, (plain_optionalInt _).2] at hversion
  rw [Json.sortKeys_sortKeys, Json.sortKeys_sortKeys] at hpayload
  injection hid with hid
  injection htype with htype
  injection hcreated with hcreated
  exact ⟨Uuid.str_injective hid, optionalId_injective hchannel, optionalId_injective hactor,
    htype, Instant.isoformat_injective hcreated,
    (Json.sortKeys_eq_iff first.payload.wellFormed second.payload.wellFormed).mp hpayload,
    optionalText_injective hprevious, optionalInt_injective hversion,
    optionalText_injective hscope⟩

/-!
# What is hashed
-/

def leafInput (eventHash : Digest) : List UInt8 :=
  0x00 :: eventHash.bytes

def nodeInput (children : Digest × Digest) : List UInt8 :=
  0x01 :: (children.1.bytes ++ children.2.bytes)

theorem leafInput_injective {a b : Digest} (h : leafInput a = leafInput b) : a = b := by
  exact Digest.bytes_injective (List.cons.inj h).2

theorem nodeInput_injective {a b : Digest × Digest} (h : nodeInput a = nodeInput b) :
    a = b := by
  have hsplit := List.append_inj (List.cons.inj h).2
    (by rw [Digest.bytes_length, Digest.bytes_length])
  exact Prod.ext (Digest.bytes_injective hsplit.1) (Digest.bytes_injective hsplit.2)

section

variable (sha256 : Sha256) (tables : AuditTables)

def leafInputs (leaves : List MerkleLeaf) : List (List UInt8) :=
  (leaves.filterMap (fun leaf => Digest.ofHex? leaf.eventHash)).map leafInput

/-- The inputs of the inner nodes over the leaves. -/
def nodeInputs (level : List Digest) : List (List UInt8) :=
  (climbPairs (parentHash sha256) level.length level).map nodeInput

/-- Everything that is hashed while a batch is verified. -/
def batchInputs (batch : MerkleBatch) (leaves : List MerkleLeaf) : List (List UInt8) :=
  checkpointBytes batch :: (leafInputs leaves ++
    nodeInputs sha256 (leaves.filterMap (fun leaf => Digest.ofHex? leaf.leafHash)) ++
    (tables.eventsWithIds (leaves.map MerkleLeaf.eventId)).map eventBytes)

/-- Everything that is hashed while the chain up to a checkpoint is verified. -/
def hashedInputs (throughSequence : Int) : List (List UInt8) :=
  (tables.batchesThrough (some throughSequence)).flatMap (fun batch =>
    batchInputs sha256 tables batch (tables.batchLeaves batch.id))

end

/-- The hash function has no collision among the inputs. -/
def HashesApart (sha256 : Sha256) (inputs : List (List UInt8)) : Prop :=
  forall x, x ∈ inputs -> forall y, y ∈ inputs -> sha256 x = sha256 y -> x = y

instance (sha256 : Sha256) (inputs : List (List UInt8)) :
    Decidable (HashesApart sha256 inputs) :=
  inferInstanceAs (Decidable (forall x, x ∈ inputs -> forall y, y ∈ inputs ->
    sha256 x = sha256 y -> x = y))

theorem HashesApart.mono {sha256 : Sha256} {inputs some : List (List UInt8)}
    (h : HashesApart sha256 inputs) (hsome : forall x, x ∈ some -> x ∈ inputs) :
    HashesApart sha256 some :=
  fun x hx y hy heq => h x (hsome x hx) y (hsome y hy) heq

/-!
# Two event chains

The last hash of a chain fixes the last event, which names the hash before it.
-/

theorem LinkedFrom.last {sha256 : Sha256} {scope : String} {events : List Event}
    {event : Event} (h : LinkedFrom sha256 scope none (events ++ [event])) :
    LinkedFrom sha256 scope none events ∧ event.previousHash = lastHash none events ∧
      lastHash none (events ++ [event]) = some (sha256 (eventBytes event)).hex := by
  rcases linkedFrom_append.mp h with ⟨hevents, hcheck, _⟩
  rcases checkEvent_eq_none_iff.mp hcheck with ⟨hhash, _, _, _, hprevious⟩
  refine ⟨hevents, hprevious, ?_⟩
  rw [lastHash_none, List.getLast?_concat]
  exact hhash

theorem linkedFrom_agree {sha256 : Sha256} {scope : String} {first second : List Event}
    (hfirst : LinkedFrom sha256 scope none first) (hsecond : LinkedFrom sha256 scope none second)
    (hlast : lastHash none first = lastHash none second)
    (hapart : HashesApart sha256 ((first ++ second).map eventBytes)) :
    List.Forall₂ SameEvent first second := by
  induction first using List.reverseRecOn generalizing second with
  | nil =>
      rcases List.eq_nil_or_concat' second with rfl | ⟨others, other, rfl⟩
      · exact List.Forall₂.nil
      · rw [hsecond.last.2.2] at hlast
        cases hlast
  | append_singleton events event ih =>
      rcases hfirst.last with ⟨hevents, hprevious, hhash⟩
      rw [hhash] at hlast
      rcases List.eq_nil_or_concat' second with rfl | ⟨others, other, rfl⟩
      · cases hlast
      · rcases hsecond.last with ⟨hothers, hprevious', hhash'⟩
        rw [hhash'] at hlast
        have hsame : SameEvent event other := by
          refine eventBytes_injective (hapart _ (by simp) _ (by simp) ?_)
          exact Digest.hex_injective (Option.some.inj hlast)
        have hbefore : List.Forall₂ SameEvent events others := by
          refine ih hevents hothers ?_ (hapart.mono ?_)
          · rw [← hprevious, ← hprevious', hsame.previousHash]
          · intro x hx
            simp only [List.map_append, List.mem_append] at hx ⊢
            tauto
        exact List.rel_append hbefore (List.Forall₂.cons hsame List.Forall₂.nil)

/-- An accepted history cannot be altered without changing its last hash. -/
theorem last_hash_fixes_events (sha256 : Sha256) (scope : String) (first second : List Event)
    (hfirst : (verifyEvents sha256 scope first).valid = true)
    (hsecond : (verifyEvents sha256 scope second).valid = true)
    (hlast : (verifyEvents sha256 scope first).lastValidHash
      = (verifyEvents sha256 scope second).lastValidHash)
    (hapart : HashesApart sha256 ((first ++ second).map eventBytes)) :
    List.Forall₂ SameEvent first second := by
  rw [verifyEvents_valid] at hfirst hsecond
  refine linkedFrom_agree hfirst hsecond ?_ hapart
  have hsame := hlast
  unfold verifyEvents at hsame
  rwa [verifyFrom_lastValidHash hfirst, verifyFrom_lastValidHash hsecond] at hsame

/-!
# One batch

Two verified batches with the same fields have the same leaves and the same events.
-/

/-- Reading a column that prints digests. -/
theorem filterMap_ofHex? {column : MerkleLeaf -> String} {leaves : List MerkleLeaf}
    {ds : List Digest} (h : leaves.map column = ds.map Digest.hex) :
    leaves.filterMap (fun leaf => Digest.ofHex? (column leaf)) = ds := by
  have hread : (ds.map Digest.hex).filterMap Digest.ofHex? = ds := by
    clear h
    induction ds with
    | nil => rfl
    | cons d ds ih => rw [List.map_cons, List.filterMap_cons, Digest.ofHex?_hex, ih]
  rw [← h, List.filterMap_map] at hread
  exact hread

section

variable {sha256 : Sha256} {ed : Ed25519} {publicKeys : String -> Option String}
  {tables tables' : AuditTables} {batch batch' : MerkleBatch}
  {leaves leaves' : List MerkleLeaf}

/-- The leaf digests of a verified batch and their root. -/
theorem VerifiedBatch.level (h : VerifiedBatch sha256 ed publicKeys tables batch leaves) :
    exists (level : List Digest) (root : Digest),
      leaves.map MerkleLeaf.leafHash = level.map Digest.hex ∧
      leaves.filterMap (fun leaf => Digest.ofHex? leaf.leafHash) = level ∧
      climb (parentHash sha256) level.length level = [root] ∧
      batch.merkleRoot = root.hex := by
  rcases buildMerkleRoot_eq_ok.mp h.merkleRoot with ⟨level, root, hlevel, hroot, htext⟩
  refine ⟨level, root, hlevel, filterMap_ofHex? hlevel, ?_, htext⟩
  have hne : level ≠ [] := by
    intro hnil
    rw [hnil] at hlevel
    exact h.nonempty (List.map_eq_nil_iff.mp hlevel)
  rcases exists_treeRoot (parentHash sha256) hne with ⟨root', hroot', hclimb⟩
  rw [hroot] at hroot'
  rw [Option.some.inj hroot']
  exact hclimb

theorem combinesApart_of_hashesApart {pairs : List (Digest × Digest)}
    (h : HashesApart sha256 (pairs.map nodeInput)) :
    CombinesApart (parentHash sha256) pairs := by
  intro p q hp hq heq
  exact nodeInput_injective (h _ (List.mem_map_of_mem hp) _ (List.mem_map_of_mem hq) heq)

theorem leafHashes_agree (h : VerifiedBatch sha256 ed publicKeys tables batch leaves)
    (h' : VerifiedBatch sha256 ed publicKeys tables' batch' leaves')
    (hfields : checkpointFields batch = checkpointFields batch')
    (hapart : HashesApart sha256
      (batchInputs sha256 tables batch leaves ++ batchInputs sha256 tables' batch' leaves')) :
    leaves.map MerkleLeaf.leafHash = leaves'.map MerkleLeaf.leafHash := by
  rcases checkpointFields_inj hfields with ⟨_, hcount, hroot, _⟩
  rcases h.level with ⟨level, root, hlevel, hread, hclimb, htext⟩
  rcases h'.level with ⟨level', root', hlevel', hread', hclimb', htext'⟩
  have hlength : level.length = level'.length := by
    have hl := congrArg List.length hlevel
    have hl' := congrArg List.length hlevel'
    rw [List.length_map, List.length_map] at hl hl'
    have hn := h.leafCount
    have hn' := h'.leafCount
    omega
  have hroots : root = root' := by
    apply Digest.hex_injective
    rw [← htext, ← htext', hroot]
  have hnodes : forall x, x ∈ (climbPairs (parentHash sha256) level.length level ++
      climbPairs (parentHash sha256) level.length level').map nodeInput ->
      x ∈ batchInputs sha256 tables batch leaves ++
        batchInputs sha256 tables' batch' leaves' := by
    intro x hx
    rw [List.map_append] at hx
    rcases List.mem_append.mp hx with hx | hx
    · have hnode : x ∈ nodeInputs sha256 level := hx
      rw [← hread] at hnode
      simp [batchInputs, hnode]
    · have hnode : x ∈ nodeInputs sha256 level' := by
        rw [hlength] at hx
        exact hx
      rw [← hread'] at hnode
      simp [batchInputs, hnode]
  have hsame : level = level' := by
    refine climb_injective hlength (combinesApart_of_hashesApart (hapart.mono hnodes)) ?_
    rw [hclimb, hlength, hclimb', hroots]
  rw [hlevel, hlevel', hsame]

/-- A leaf of one history and the leaf at its place in the other. -/
structure LeavesAgree (tables tables' : AuditTables) (leaf leaf' : MerkleLeaf) : Prop where
  leafHash : leaf.leafHash = leaf'.leafHash
  eventHash : leaf.eventHash = leaf'.eventHash
  eventId : leaf.eventId = leaf'.eventId
  events : exists event event',
    tables.events.filter (fun row => row.id = leaf.eventId) = [event] ∧
    tables'.events.filter (fun row => row.id = leaf'.eventId) = [event'] ∧
    SameEvent event event'

theorem leaves_agree (h : VerifiedBatch sha256 ed publicKeys tables batch leaves)
    (h' : VerifiedBatch sha256 ed publicKeys tables' batch' leaves')
    (hapart : HashesApart sha256
      (batchInputs sha256 tables batch leaves ++ batchInputs sha256 tables' batch' leaves'))
    (hkeys : (tables.events.map Event.id).Nodup)
    (hkeys' : (tables'.events.map Event.id).Nodup)
    {leaf leaf' : MerkleLeaf} (hleaf : leaf ∈ leaves) (hleaf' : leaf' ∈ leaves')
    (hhash : leaf.leafHash = leaf'.leafHash) : LeavesAgree tables tables' leaf leaf' := by
  rcases leafHash_eq_ok.mp (h.leafHashes leaf hleaf) with ⟨d, hd, hleafText⟩
  rcases leafHash_eq_ok.mp (h'.leafHashes leaf' hleaf') with ⟨d', hd', hleafText'⟩
  have hinput : forall {l : MerkleLeaf} {ls : List MerkleLeaf} {e : Digest}, l ∈ ls ->
      l.eventHash = e.hex -> leafInput e ∈ leafInputs ls := by
    intro l ls e hl he
    refine List.mem_map_of_mem (List.mem_filterMap.mpr ⟨l, hl, ?_⟩)
    rw [he]
    exact Digest.ofHex?_hex e
  have hdigest : d = d' := by
    apply leafInput_injective
    apply hapart
    · simp [batchInputs, hinput hleaf hd]
    · simp [batchInputs, hinput hleaf' hd']
    · apply Digest.hex_injective
      exact hleafText.symm.trans (hhash.trans hleafText')
  have hevents : leaf.eventHash = leaf'.eventHash := by
    rw [hd, hd', hdigest]
  rcases h.events leaf hleaf with ⟨event, hfound, _, hcompute⟩
  rcases h'.events leaf' hleaf' with ⟨event', hfound', _, hcompute'⟩
  rcases eventById_some hfound with ⟨hmem, hid⟩
  rcases eventById_some hfound' with ⟨hmem', hid'⟩
  have hsame : SameEvent event event' := by
    apply eventBytes_injective
    apply hapart
    · have hbytes := List.mem_map_of_mem (f := eventBytes) hmem
      simp [batchInputs, hbytes]
    · have hbytes := List.mem_map_of_mem (f := eventBytes) hmem'
      simp [batchInputs, hbytes]
    · apply Digest.hex_injective
      exact hcompute.trans (hevents.trans hcompute'.symm)
  refine ⟨hhash, hevents, ?_, event, event', ?_, ?_, hsame⟩
  · rw [← hid, ← hid', hsame.id]
  · rw [← hid]
    exact filter_key_eq hkeys (List.mem_filter.mp hmem).1
  · rw [← hid']
    exact filter_key_eq hkeys' (List.mem_filter.mp hmem').1

/-- All leaves of two verified batches with the same fields. -/
theorem batches_agree (h : VerifiedBatch sha256 ed publicKeys tables batch leaves)
    (h' : VerifiedBatch sha256 ed publicKeys tables' batch' leaves')
    (hfields : checkpointFields batch = checkpointFields batch')
    (hapart : HashesApart sha256
      (batchInputs sha256 tables batch leaves ++ batchInputs sha256 tables' batch' leaves'))
    (hkeys : (tables.events.map Event.id).Nodup)
    (hkeys' : (tables'.events.map Event.id).Nodup) :
    leaves.map MerkleLeaf.leafIndex = leaves'.map MerkleLeaf.leafIndex ∧
      List.Forall₂ (LeavesAgree tables tables') leaves leaves' := by
  constructor
  · rw [h.leafIndexes, h'.leafIndexes, (checkpointFields_inj hfields).2.1]
  · have hhashes := leafHashes_agree h h' hfields hapart
    rw [← List.forall₂_eq_eq_eq, List.forall₂_map_left_iff, List.forall₂_map_right_iff,
      List.forall₂_iff_zip] at hhashes
    apply List.forall₂_iff_zip.mpr
    refine ⟨hhashes.1, ?_⟩
    intro leaf leaf' hzip
    rcases List.of_mem_zip hzip with ⟨hleaf, hleaf'⟩
    exact leaves_agree h h' hapart hkeys hkeys' hleaf hleaf' (hhashes.2 hzip)

/-!
# The chain

From the last checkpoint backwards, each one is determined by the hash the next one
names.
-/

theorem nextPrevious_concat (previous : Option String) (batches : List MerkleBatch)
    (last : MerkleBatch) :
    nextPrevious previous (batches ++ [last]) = some last.checkpointHash := by
  unfold nextPrevious
  rw [List.getLast?_concat]
  rfl

theorem chains_agree {batches batches' : List MerkleBatch}
    (h : CheckedFrom sha256 ed publicKeys tables 1 none batches)
    (h' : CheckedFrom sha256 ed publicKeys tables' 1 none batches')
    (hlength : batches.length = batches'.length)
    (hlast : nextPrevious none batches = nextPrevious none batches')
    (hapart : HashesApart sha256
      (batches.map checkpointBytes ++ batches'.map checkpointBytes)) :
    batches.map checkpointFields = batches'.map checkpointFields := by
  induction batches using List.reverseRecOn generalizing batches' with
  | nil =>
      rw [List.length_eq_zero_iff.mp hlength.symm]
  | append_singleton before last ih =>
      rcases List.eq_nil_or_concat batches' with hnil | ⟨before', last', hconcat⟩
      · rw [hnil, List.length_append] at hlength
        cases hlength
      · rw [List.concat_eq_append] at hconcat
        subst hconcat
        rw [checkedFrom_concat] at h h'
        rw [nextPrevious_concat, nextPrevious_concat] at hlast
        have hfields : checkpointFields last = checkpointFields last' := by
          apply checkpointBytes_injective
          apply hapart
          · simp
          · simp
          · apply Digest.hex_injective
            rw [← h.2.2.2.checkpointHash, ← h'.2.2.2.checkpointHash]
            exact Option.some.inj hlast
        have hprevious : nextPrevious none before = nextPrevious none before' := by
          rw [← h.2.2.1, ← h'.2.2.1]
          exact (checkpointFields_inj hfields).2.2.2
        have hbefore : before.map checkpointFields = before'.map checkpointFields := by
          refine ih h.1 h'.1 (by simpa using hlength) hprevious (hapart.mono ?_)
          intro x hx
          simp only [List.map_append, List.mem_append] at hx ⊢
          rcases hx with hx | hx
          · exact Or.inl (Or.inl hx)
          · exact Or.inr (Or.inl hx)
        rw [List.map_append, List.map_append, hbefore, List.map_singleton, List.map_singleton,
          hfields]

/-- Facts about the chain that an accepted anchor names. -/
structure AnchoredChain (sha256 : Sha256) (ed : Ed25519)
    (publicKeys : String -> Option String) (tables : AuditTables)
    (batches : List MerkleBatch) (sequenceNo : Nat) (last : MerkleBatch) : Prop where
  chain : CheckedFrom sha256 ed publicKeys tables 1 none batches
  length : batches.length = sequenceNo
  lastHash : nextPrevious none batches = some last.checkpointHash
  rows : forall (i : Nat) (batch : MerkleBatch), batches[i]? = some batch ->
    tables.batches.filter (fun row => row.sequenceNo = 1 + (i : Int)) = [batch]

/-- Among all rows the number of a batch in a checked chain is its own. -/
theorem CheckedFrom.row_unique {sequenceNo : Int}
    (h : CheckedFrom sha256 ed publicKeys tables 1 none
      (tables.batchesThrough (some sequenceNo))) {i : Nat} {batch : MerkleBatch}
    (hbatch : (tables.batchesThrough (some sequenceNo))[i]? = some batch) :
    tables.batches.filter (fun row => row.sequenceNo = 1 + (i : Int)) = [batch] := by
  have hnumber := (h.getElem hbatch).1
  have hmem := List.mem_of_getElem? hbatch
  have hle : batch.sequenceNo ≤ sequenceNo := by
    have hfiltered := (orderByAsc_perm _ _).mem_iff.mp hmem
    exact of_decide_eq_true (List.mem_filter.mp hfiltered).2
  have hsame : (tables.batches.filter (fun row =>
      (some sequenceNo).all (row.sequenceNo ≤ ·))).filter
        (fun row => row.sequenceNo = batch.sequenceNo)
      = tables.batches.filter (fun row => row.sequenceNo = batch.sequenceNo) := by
    rw [List.filter_filter]
    apply List.filter_congr
    intro row _
    by_cases heq : row.sequenceNo = batch.sequenceNo
    · simp [heq, hle]
    · simp [heq]
  have hperm := (orderByAsc_perm MerkleBatch.sequenceNo (tables.batches.filter (fun row =>
    (some sequenceNo).all (row.sequenceNo ≤ ·)))).filter
      (fun row => row.sequenceNo = batch.sequenceNo)
  rw [hsame] at hperm
  rw [← hnumber]
  apply List.perm_singleton.mp
  refine hperm.symm.trans (List.Perm.of_eq ?_)
  exact filter_key_eq h.increasing.keys_nodup hmem

theorem AnchorAccepted.anchored {py : Conversions} {anchor : List (String × Json)}
    {sequenceNo : Int} {last : MerkleBatch}
    (h : AnchorAccepted py sha256 ed publicKeys tables anchor sequenceNo last) :
    exists k : Nat, sequenceNo = k ∧ AnchoredChain sha256 ed publicKeys tables
      (tables.batchesThrough (some sequenceNo)) k last := by
  have hchain := h.chain.chain
  rcases Option.map_eq_some_iff.mp (h.chain.through sequenceNo rfl) with
    ⟨final, hfinal, hnumber⟩
  rcases List.getLast?_eq_some_iff.mp hfinal with ⟨before, hsplit⟩
  have hindex : (tables.batchesThrough (some sequenceNo))[before.length]? = some final := by
    rw [hsplit]
    exact List.getElem?_concat_length
  have hposition := (hchain.getElem hindex).1
  have hlast : final = last := by
    have hrow := hchain.row_unique hindex
    rw [← hposition, hnumber, h.row] at hrow
    exact (List.cons.inj hrow).1.symm
  refine ⟨before.length + 1, ?_, hchain, ?_, ?_, ?_⟩
  · rw [← hnumber, hposition]
    push_cast
    omega
  · rw [hsplit, List.length_append, List.length_singleton]
  · rw [hsplit, nextPrevious_concat, hlast]
  · intro i batch hbatch
    exact hchain.row_unique hbatch

end

/--
An anchor that is accepted against two databases, whatever they hold and whoever has
the signing key, fixes what they say up to its checkpoint: the fields of every
checkpoint, every leaf, and every event that a leaf points to.
-/
theorem accepted_anchor_fixes_history (py : Conversions) (sha256 : Sha256) (ed : Ed25519)
    (publicKeys : String -> Option String) (anchor : List (String × Json))
    (tables tables' : AuditTables) (result result' : AnchorResult)
    (haccept : verifyAnchorAgainstDatabase py sha256 ed publicKeys tables anchor
      = Except.ok result) (hvalid : result.valid = true)
    (haccept' : verifyAnchorAgainstDatabase py sha256 ed publicKeys tables' anchor
      = Except.ok result') (hvalid' : result'.valid = true)
    (hkeys : (tables.events.map Event.id).Nodup)
    (hkeys' : (tables'.events.map Event.id).Nodup)
    (hapart : forall k, toInt py (anchorGet anchor "sequence_no" (Json.int 0))
      = Except.ok k ->
      HashesApart sha256 (hashedInputs sha256 tables k ++ hashedInputs sha256 tables' k)) :
    exists k : Nat,
      toInt py (anchorGet anchor "sequence_no" (Json.int 0)) = Except.ok (k : Int) ∧
      forall i, i < k -> exists batch batch',
        tables.batches.filter (fun row => row.sequenceNo = 1 + (i : Int)) = [batch] ∧
        tables'.batches.filter (fun row => row.sequenceNo = 1 + (i : Int)) = [batch'] ∧
        checkpointFields batch = checkpointFields batch' ∧
        (tables.batchLeaves batch.id).map MerkleLeaf.leafIndex
          = (tables'.batchLeaves batch'.id).map MerkleLeaf.leafIndex ∧
        List.Forall₂ (LeavesAgree tables tables') (tables.batchLeaves batch.id)
          (tables'.batchLeaves batch'.id) := by
  rcases verifyAnchorAgainstDatabase_accepts haccept hvalid with ⟨s, last, hanchor⟩
  rcases verifyAnchorAgainstDatabase_accepts haccept' hvalid' with ⟨s', last', hanchor'⟩
  have hnumber : s = s' := Except.ok.inj (hanchor.number.symm.trans hanchor'.number)
  subst hnumber
  rcases hanchor.anchored with ⟨k, hk, hchain⟩
  rcases hanchor'.anchored with ⟨k', hk', hchain'⟩
  have hkk : k = k' := Int.ofNat.inj (hk.symm.trans hk')
  subst hkk
  have hinputs := hapart s hanchor.number
  -- Both databases carry the checkpoint hash that the anchor names.
  have hlast : nextPrevious none (tables.batchesThrough (some s))
      = nextPrevious none (tables'.batchesThrough (some s)) := by
    have hhash := hanchor.checkpointHash.symm.trans hanchor'.checkpointHash
    injection hhash with hhash
    rw [hchain.lastHash, hchain'.lastHash, hhash]
  have hfields := chains_agree hchain.chain hchain'.chain
    (hchain.length.trans hchain'.length.symm) hlast (hinputs.mono (by
      intro x hx
      rcases List.mem_append.mp hx with hx | hx
      · rcases List.mem_map.mp hx with ⟨b, hb, rfl⟩
        exact List.mem_append_left _ (List.mem_flatMap.mpr ⟨b, hb, List.mem_cons_self⟩)
      · rcases List.mem_map.mp hx with ⟨b, hb, rfl⟩
        exact List.mem_append_right _ (List.mem_flatMap.mpr ⟨b, hb, List.mem_cons_self⟩)))
  refine ⟨k, by rw [hanchor.number, hk], ?_⟩
  intro i hi
  have hrow : exists batch, (tables.batchesThrough (some s))[i]? = some batch :=
    ⟨_, List.getElem?_eq_getElem (hchain.length ▸ hi)⟩
  have hrow' : exists batch, (tables'.batchesThrough (some s))[i]? = some batch :=
    ⟨_, List.getElem?_eq_getElem (hchain'.length ▸ hi)⟩
  rcases hrow with ⟨batch, hbatch⟩
  rcases hrow' with ⟨batch', hbatch'⟩
  have hmem := List.mem_of_getElem? hbatch
  have hmem' := List.mem_of_getElem? hbatch'
  have hsame : checkpointFields batch = checkpointFields batch' := by
    have hi' := congrArg (fun l => l[i]?) hfields
    simp only [List.getElem?_map, hbatch, hbatch', Option.map_some] at hi'
    exact Option.some.inj hi'
  refine ⟨batch, batch', hchain.rows i batch hbatch, hchain'.rows i batch' hbatch', hsame, ?_⟩
  refine batches_agree (hchain.chain.verified hmem) (hchain'.chain.verified hmem') hsame
    (hinputs.mono ?_) hkeys hkeys'
  intro x hx
  rcases List.mem_append.mp hx with hx | hx
  · exact List.mem_append_left _ (List.mem_flatMap.mpr ⟨_, hmem, hx⟩)
  · exact List.mem_append_right _ (List.mem_flatMap.mpr ⟨_, hmem', hx⟩)

/-!
# Two databases with one anchor

Two checkpoints cover a chain of three events.  One database returns the keys of the payloads in
another order than the other.
-/

def firstDigest : Digest := 0xfa7df80c8081c721cc7fb98c4e9acbbfe9fd43b9cda840208ed5f183ca6fe555

def secondDigest : Digest := 0x65b6c048011a1d54235ab1bdd603bef0c0eca0f7f45ca583513487e0147ace9c

def thirdDigest : Digest := 0x20da651e37c2610ae2f3b57c414e89b450372f97833afbee6e1a45b54f3d4986

def sealedEvent (payload : Payload) (id : Uuid) (createdAt : Instant)
    (previous : Option Digest) (digest : Digest) : Event where
  id := id
  channelId := none
  actorUserId := none
  eventType := "user.login"
  payload := payload
  createdAt := createdAt
  previousHash := previous.map Digest.hex
  eventHash := some digest.hex
  hashAlgorithm := some hashAlgorithmName
  integrityVersion := some integrityVersionNumber
  integrityScope := some "system"

def firstEvent (payload : Payload) : Event :=
  sealedEvent payload 1 5 none firstDigest

def secondEvent (payload : Payload) : Event :=
  sealedEvent payload 2 6 (some firstDigest) secondDigest

def thirdEvent (payload : Payload) : Event :=
  sealedEvent payload 3 7 (some secondDigest) thirdDigest

def sealedEvents (payload : Payload) : List Event :=
  [firstEvent payload, secondEvent payload, thirdEvent payload]

theorem sealedEvents_digests :
    sha256 (eventBytes (firstEvent samplePayload)) = firstDigest ∧
      sha256 (eventBytes (secondEvent samplePayload)) = secondDigest ∧
      sha256 (eventBytes (thirdEvent samplePayload)) = thirdDigest := by
  decide +kernel

theorem sealedEvents_reordered :
    List.Forall₂ SameRow (sealedEvents samplePayload) (sealedEvents reorderedPayload) :=
  List.Forall₂.cons ⟨rfl, samplePayload_same⟩ (List.Forall₂.cons ⟨rfl, samplePayload_same⟩
    (List.Forall₂.cons ⟨rfl, samplePayload_same⟩ List.Forall₂.nil))

theorem sealedEvents_linked :
    LinkedFrom sha256 "system" none (sealedEvents samplePayload) := by
  have hchecked : forall event (d : Digest), sha256 (eventBytes event) = d ->
      event.eventHash = some d.hex -> event.eventHash = some (computeEventHash sha256 event) := by
    intro event d hd hhash
    rw [hhash, ← hd]
    rfl
  refine ⟨checkEvent_eq_none_iff.mpr ⟨?_, rfl, rfl, rfl, rfl⟩,
    checkEvent_eq_none_iff.mpr ⟨?_, rfl, rfl, rfl, rfl⟩,
    checkEvent_eq_none_iff.mpr ⟨?_, rfl, rfl, rfl, rfl⟩, trivial⟩
  · exact hchecked _ _ sealedEvents_digests.1 rfl
  · exact hchecked _ _ sealedEvents_digests.2.1 rfl
  · exact hchecked _ _ sealedEvents_digests.2.2 rfl

theorem map_eventBytes_of_sameRows {stored read : List Event}
    (h : List.Forall₂ SameRow stored read) : read.map eventBytes = stored.map eventBytes := by
  induction h with
  | nil => rfl
  | cons hrow _ ih => rw [List.map_cons, List.map_cons, ih, eventBytes, hrow.json_eq, eventBytes]

theorem hashesApart_of_nodup {sha256 : Sha256} {inputs : List (List UInt8)}
    {digests : List Digest} (h : List.Forall₂ (fun x d => sha256 x = d) inputs digests)
    (hnodup : digests.Nodup) : HashesApart sha256 inputs := by
  rw [<- List.forall₂_map_left_iff, List.forall₂_eq_eq_eq] at h
  subst h
  intro x hx y hy heq
  exact List.inj_on_of_nodup_map hnodup hx hy heq

theorem sealedEvents_fixed_by_last_hash :
    (verifyEvents sha256 "system" (sealedEvents samplePayload)).valid = true ∧
      (verifyEvents sha256 "system" (sealedEvents reorderedPayload)).valid = true ∧
      List.Forall₂ SameEvent (sealedEvents samplePayload) (sealedEvents reorderedPayload) := by
  have hlinked := sealedEvents_linked
  have hlinked' := hlinked.of_sameRows sealedEvents_reordered
  refine ⟨verifyEvents_valid.mpr hlinked, verifyEvents_valid.mpr hlinked', ?_⟩
  refine last_hash_fixes_events _ _ _ _ (verifyEvents_valid.mpr hlinked)
    (verifyEvents_valid.mpr hlinked') ?_ ?_
  · unfold verifyEvents
    rw [verifyFrom_lastValidHash hlinked, verifyFrom_lastValidHash hlinked']
    rfl
  · rcases sealedEvents_digests with ⟨hfirst, hsecond, hthird⟩
    have hapart : HashesApart sha256 ((sealedEvents samplePayload).map eventBytes) :=
      hashesApart_of_nodup (List.Forall₂.cons hfirst (List.Forall₂.cons hsecond
        (List.Forall₂.cons hthird List.Forall₂.nil))) (by decide)
    refine hapart.mono ?_
    intro x hx
    rw [List.map_append, map_eventBytes_of_sameRows sealedEvents_reordered] at hx
    exact (List.mem_append.mp hx).elim id id

def firstLeaf : Digest := 0xf67c0a56704a0208f4c545158d6ca71e69d6dc80d97873bd7c23457de2706e18

def secondLeaf : Digest := 0x8a32f84e9f179aeb7e4d953b7e6d54eecc60f20d78b74e83a806a84a9c54fba6

def thirdLeaf : Digest := 0x751256ec0d2aeba20c6eaca15fccd96bd113054a06a5ac5ac28c72b672941256

def firstRoot : Digest := 0xff33af01616ce200cf50d438f23ccc8e9f5e1c12d6d2b30dac1ddebff820c309

def firstCheckpoint : Digest := 0xa5026b52e09302fb7c07b67e9e6c6d8b5833a360bec0f41c1e2f17d6cc7878a9

def secondCheckpoint : Digest := 0x1640442005ddcfc2883d0627d69fc90d28136eb21b460a5df8459c7b85aa560b

def sealedBatch (latest : Option MerkleBatch) (first : Event) (rest : List Event) (root : Digest)
    (id : Uuid) (createdAt : Instant) (digest : Digest) : MerkleBatch :=
  { draftBatch sampleSettings latest first rest root.hex id createdAt with
    checkpointHash := digest.hex
    signature := encodeBase64 64 (sampleEd25519.sign (BitVec.ofNat 256 5) digest) }

def firstBatch : MerkleBatch :=
  sealedBatch none (firstEvent samplePayload) [secondEvent samplePayload] firstRoot 100 8
    firstCheckpoint

/-- No column of a checkpoint reads the payloads. -/
theorem firstBatch_eq (payload : Payload) :
    sealedBatch none (firstEvent payload) [secondEvent payload] firstRoot 100 8 firstCheckpoint
      = firstBatch := rfl

/-- The root over one leaf is the leaf. -/
def secondBatch : MerkleBatch :=
  sealedBatch (some firstBatch) (thirdEvent samplePayload) [] thirdLeaf 101 9 secondCheckpoint

theorem secondBatch_eq (payload : Payload) :
    sealedBatch (some firstBatch) (thirdEvent payload) [] thirdLeaf 101 9 secondCheckpoint
      = secondBatch := rfl

def sealedTables (payload : Payload) : AuditTables where
  events := sealedEvents payload
  batches := [firstBatch, secondBatch]
  leaves := leafRows 100 [firstEvent payload, secondEvent payload]
      [firstLeaf.hex, secondLeaf.hex] ++
    leafRows 101 [thirdEvent payload] [thirdLeaf.hex]

theorem formatted_of_payload {batch : MerkleBatch}
    (h : (checkpointPayload batch).toOption.isSome = true) : batch.Formatted := by
  cases hpayload : checkpointPayload batch with
  | error failure =>
      rw [hpayload] at h
      cases h
  | ok payload => exact (checkpointPayload_eq_ok.mp hpayload).1

def IsLeafOf (event : Event) (leaf : Digest) : Prop :=
  exists d : Digest, event.eventHash = some d.hex ∧ sha256 (leafInput d) = leaf

theorem sealedBatch_signed {latest : Option MerkleBatch} {first : Event} {rest : List Event}
    {root digest : Digest} {id : Uuid} {createdAt : Instant} {leaves : List Digest}
    {batch : MerkleBatch} (hbatch : sealedBatch latest first rest root id createdAt digest = batch)
    (hleaves : List.Forall₂ IsLeafOf (first :: rest) leaves)
    (hroot : treeRoot (parentHash sha256) leaves = some root)
    (hformat : (checkpointPayload batch).toOption.isSome = true)
    (hdigest : sha256 (checkpointBytes batch) = digest) :
    SignedFrom sha256 sampleEd25519 sampleSettings latest first rest batch
      (leaves.map Digest.hex) := by
  have hchecked : batch.Formatted := formatted_of_payload hformat
  subst hbatch
  refine ⟨hleaves.length_eq.trans (List.length_map _).symm, ?_,
    buildMerkleRoot_eq_ok.mpr ⟨leaves, root, rfl, hroot, rfl⟩, hchecked,
    congrArg Digest.hex hdigest.symm,
    signCheckpointHash_hex (decodeBase64_encodeBase64 (by decide) _ _) digest, ?_, rfl, rfl, rfl,
    rfl, rfl⟩
  · intro event hash hmem
    rw [List.zip_map_right] at hmem
    rcases List.mem_map.mp hmem with ⟨⟨e, leaf⟩, hzip, heq⟩
    rcases Prod.mk.inj heq with ⟨hevent, hhash⟩
    rcases (List.forall₂_iff_zip.mp hleaves).2 hzip with ⟨d, hstored, hleaf⟩
    subst hevent
    have htext : eventHashText e = d.hex := by
      rw [eventHashText, hstored, Option.getD_some]
    exact leafHash_eq_ok.mpr ⟨d, htext, hhash.symm.trans (congrArg Digest.hex hleaf.symm)⟩
  · cases latest with
    | none | some => rfl

theorem sealedLeaves_digests :
    sha256 (leafInput firstDigest) = firstLeaf ∧ sha256 (leafInput secondDigest) = secondLeaf ∧
      sha256 (leafInput thirdDigest) = thirdLeaf ∧
      sha256 (nodeInput (firstLeaf, secondLeaf)) = firstRoot := by
  decide +kernel

theorem sealedBatches_digests :
    sha256 (checkpointBytes firstBatch) = firstCheckpoint ∧
      sha256 (checkpointBytes secondBatch) = secondCheckpoint := by
  decide +kernel

theorem sealedBatches_formatted :
    (checkpointPayload firstBatch).toOption.isSome = true ∧
      (checkpointPayload secondBatch).toOption.isSome = true := by
  decide +kernel

theorem sampleSettings_valid : validateSigningConfiguration sampleEd25519
    sampleSettings.signingKeyId sampleSettings.privateKeyBase64 sampleKeys
      = Except.ok () := by
  decide +kernel

section

variable {payload : Payload}
  (hlinked : LinkedFrom sha256 "system" none (sealedEvents payload))
include hlinked

theorem firstBatch_verified :
    VerifiedBatch sha256 sampleEd25519 sampleKeys (sealedTables payload) firstBatch
      ((sealedTables payload).batchLeaves firstBatch.id) := by
  rcases sealedLeaves_digests with ⟨hfirst, hsecond, _, hroot⟩
  have hleaves : List.Forall₂ IsLeafOf [firstEvent payload, secondEvent payload]
      [firstLeaf, secondLeaf] :=
    List.Forall₂.cons ⟨firstDigest, rfl, hfirst⟩
      (List.Forall₂.cons ⟨secondDigest, rfl, hsecond⟩ List.Forall₂.nil)
  have hsigned : SignedFrom sha256 sampleEd25519 sampleSettings none (firstEvent payload)
      [secondEvent payload] firstBatch [firstLeaf.hex, secondLeaf.hex] :=
    sealedBatch_signed (firstBatch_eq payload) hleaves (congrArg some hroot)
      sealedBatches_formatted.1 sealedBatches_digests.1
  refine hsigned.verified sampleEd25519_correct sampleSettings_valid
    (show ([1, 2, 3] : List Uuid).Nodup by decide) ?_ (show ([1, 2] : List Uuid).Nodup by decide)
    ?_
  · intro event hevent
    exact List.mem_append_left [thirdEvent payload] hevent
  · intro event hevent
    exact hlinked.hashed event (List.mem_append_left [thirdEvent payload] hevent)

theorem secondBatch_verified :
    VerifiedBatch sha256 sampleEd25519 sampleKeys (sealedTables payload) secondBatch
      ((sealedTables payload).batchLeaves secondBatch.id) := by
  have hleaves : List.Forall₂ IsLeafOf [thirdEvent payload] [thirdLeaf] :=
    List.Forall₂.cons ⟨thirdDigest, rfl, sealedLeaves_digests.2.2.1⟩ List.Forall₂.nil
  have hsigned : SignedFrom sha256 sampleEd25519 sampleSettings (some firstBatch)
      (thirdEvent payload) [] secondBatch [thirdLeaf.hex] :=
    sealedBatch_signed (secondBatch_eq payload) hleaves rfl sealedBatches_formatted.2
      sealedBatches_digests.2
  refine hsigned.verified sampleEd25519_correct sampleSettings_valid
    (show ([1, 2, 3] : List Uuid).Nodup by decide) ?_ (List.nodup_singleton _) ?_
  · intro event hevent
    exact List.mem_append_right [firstEvent payload, secondEvent payload] hevent
  · intro event hevent
    exact hlinked.hashed event
      (List.mem_append_right [firstEvent payload, secondEvent payload] hevent)

theorem sealedTables_accepts (py : Conversions) {instant : Instant}
    (hread : py.readTimestamp secondBatch.createdAt.isoformat = Except.ok instant) :
    exists result, verifyAnchorAgainstDatabase py sha256 sampleEd25519 sampleKeys
      (sealedTables payload) (anchorForBatch secondBatch) = Except.ok result ∧
        result.valid = true := by
  have hverified := secondBatch_verified hlinked
  have hchain : Accepted sha256 sampleEd25519 sampleKeys (sealedTables payload) false
      (some secondBatch.sequenceNo)
      ((sealedTables payload).batchesThrough (some secondBatch.sequenceNo)) := by
    refine ⟨⟨rfl, rfl, firstBatch_verified hlinked, rfl, rfl, hverified, trivial⟩, ?_, nofun⟩
    intro through hthrough
    exact hthrough
  exact ⟨_, anchorForBatch_accepted hread rfl hverified hchain, rfl⟩

end

theorem sealedTables_inputs {payload : Payload} {bytes bytes' bytes'' : List UInt8}
    (hbytes : (sealedEvents payload).map eventBytes = [bytes, bytes', bytes'']) :
    hashedInputs sha256 (sealedTables payload) 2
      = [checkpointBytes firstBatch, leafInput firstDigest, leafInput secondDigest,
        nodeInput (firstLeaf, secondLeaf), bytes, bytes', checkpointBytes secondBatch,
        leafInput thirdDigest, bytes''] := by
  have hfirst := (List.cons.inj hbytes).1
  have hsecond := (List.cons.inj (List.cons.inj hbytes).2).1
  have hthird := (List.cons.inj (List.cons.inj (List.cons.inj hbytes).2).2).1
  subst hfirst hsecond hthird
  have hinputs : forall batch leaves (ds level : List Digest),
      leaves.map MerkleLeaf.eventHash = ds.map Digest.hex ->
      leaves.map MerkleLeaf.leafHash = level.map Digest.hex ->
      batchInputs sha256 (sealedTables payload) batch leaves
        = checkpointBytes batch :: (ds.map leafInput ++ nodeInputs sha256 level ++
          ((sealedTables payload).eventsWithIds (leaves.map MerkleLeaf.eventId)).map
            eventBytes) := by
    intro batch leaves ds level hds hlevel
    rw [batchInputs, leafInputs, filterMap_ofHex? hds, filterMap_ofHex? hlevel]
  show batchInputs sha256 (sealedTables payload) firstBatch _ ++
    (batchInputs sha256 (sealedTables payload) secondBatch _ ++ []) = _
  rw [hinputs _ _ [firstDigest, secondDigest] [firstLeaf, secondLeaf] rfl rfl,
    hinputs _ _ [thirdDigest] [thirdLeaf] rfl rfl]
  rfl

def sampleConversions : Conversions where
  intOfFloat _ := throw AnchorError.valueError
  intOfText _ := throw AnchorError.valueError
  floatEqInt _ _ := false
  textOf _ := ""
  readTimestamp _ := pure 7

theorem sealedTables_apart :
    HashesApart sha256 (hashedInputs sha256 (sealedTables samplePayload) 2 ++
      hashedInputs sha256 (sealedTables reorderedPayload) 2) := by
  rw [sealedTables_inputs (rfl : (sealedEvents samplePayload).map eventBytes = _),
    sealedTables_inputs (map_eventBytes_of_sameRows sealedEvents_reordered)]
  rcases sealedEvents_digests with ⟨hfirst, hsecond, hthird⟩
  rcases sealedLeaves_digests with ⟨hleaf, hleaf', hleaf'', hroot⟩
  rcases sealedBatches_digests with ⟨hbatch, hbatch'⟩
  refine (hashesApart_of_nodup (List.Forall₂.cons hbatch (List.Forall₂.cons hleaf
    (List.Forall₂.cons hleaf' (List.Forall₂.cons hroot (List.Forall₂.cons hfirst
    (List.Forall₂.cons hsecond (List.Forall₂.cons hbatch' (List.Forall₂.cons hleaf''
    (List.Forall₂.cons hthird List.Forall₂.nil)))))))))
    (by decide)).mono ?_
  intro x hx
  exact (List.mem_append.mp hx).elim id id

/-- The anchor of the second checkpoint. -/
theorem sealedTables_agree :
    exists result result',
      verifyAnchorAgainstDatabase sampleConversions sha256 sampleEd25519 sampleKeys
        (sealedTables samplePayload) (anchorForBatch secondBatch) = Except.ok result ∧
      result.valid = true ∧
      verifyAnchorAgainstDatabase sampleConversions sha256 sampleEd25519 sampleKeys
        (sealedTables reorderedPayload) (anchorForBatch secondBatch) = Except.ok result' ∧
      result'.valid = true ∧
      exists k : Nat, toInt sampleConversions
          (anchorGet (anchorForBatch secondBatch) "sequence_no" (Json.int 0))
        = Except.ok (k : Int) ∧
      forall i, i < k -> exists batch batch',
        (sealedTables samplePayload).batches.filter
          (fun row => row.sequenceNo = 1 + (i : Int)) = [batch] ∧
        (sealedTables reorderedPayload).batches.filter
          (fun row => row.sequenceNo = 1 + (i : Int)) = [batch'] ∧
        checkpointFields batch = checkpointFields batch' ∧
        ((sealedTables samplePayload).batchLeaves batch.id).map MerkleLeaf.leafIndex
          = ((sealedTables reorderedPayload).batchLeaves batch'.id).map MerkleLeaf.leafIndex ∧
        List.Forall₂ (LeavesAgree (sealedTables samplePayload) (sealedTables reorderedPayload))
          ((sealedTables samplePayload).batchLeaves batch.id)
          ((sealedTables reorderedPayload).batchLeaves batch'.id) := by
  have hlinked := sealedEvents_linked
  have hkeys : ([1, 2, 3] : List Uuid).Nodup := by decide
  rcases sealedTables_accepts hlinked sampleConversions rfl with ⟨result, haccept, hvalid⟩
  rcases sealedTables_accepts (hlinked.of_sameRows sealedEvents_reordered) sampleConversions
    rfl with ⟨result', haccept', hvalid'⟩
  refine ⟨result, result', haccept, hvalid, haccept', hvalid', ?_⟩
  refine accepted_anchor_fixes_history _ _ _ _ _ _ _ _ _ haccept hvalid haccept' hvalid' hkeys
    hkeys ?_
  intro k hk
  have htwo : 2 = k := Except.ok.inj hk
  exact htwo ▸ sealedTables_apart

end MessagingSystem
