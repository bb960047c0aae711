import MessagingSystem.Audit.Merkle
import MessagingSystem.Core.Identifiers
import MessagingSystem.Events.Integrity
import MessagingSystem.Foundation.Base64

/-!
# Signed checkpoints

A checkpoint row names the root of a batch of events and the checkpoint before it.
Its hash covers thirteen fields in canonical JSON, and the hash is signed with
Ed25519.  Keys and signatures are stored in Base64.
-/

namespace MessagingSystem

open Foundation

def checkpointVersionNumber : Int := 1

def merkleVersionNumber : Int := 1

def maxBatchSize : Int := 4096

/-!
# Keys and signatures
-/

/-- The operations of the `cryptography` package, on raw keys and signatures. -/
structure Ed25519 where
  publicKey : BitVec 256 -> BitVec 256
  sign : BitVec 256 -> Digest -> BitVec 512
  verify : BitVec 256 -> BitVec 512 -> Digest -> Bool

/-- A signature verifies under the public key of the key it was made with. -/
def Ed25519.Correct (ed : Ed25519) : Prop :=
  forall seed digest, ed.verify (ed.publicKey seed) (ed.sign seed digest) digest = true

def decodeBase64 (value : String) (size : Nat) (field : String) :
    Except MerkleFailure (BitVec (8 * size)) := do
  require (value != "") (MerkleFailure.integrity "KEY_FORMAT_INVALID"
    (field ++ " is missing or malformed"))
  let bytes ← orFail (base64Decode value.toList) (MerkleFailure.integrity
    "KEY_FORMAT_INVALID" (field ++ " is missing or malformed"))
  require (bytes.length == size) (MerkleFailure.integrity "KEY_FORMAT_INVALID"
    (field ++ " has an invalid decoded length"))
  pure (BitVec.ofNat (8 * size) (digitsValue 256 bytes))

def encodeBase64 (size : Nat) (value : BitVec (8 * size)) : String :=
  String.ofList (base64Encode (fixedDigits 256 size value.toNat))

theorem encodeBase64_ne_empty {size : Nat} (hsize : 0 < size) (value : BitVec (8 * size)) :
    encodeBase64 size value ≠ "" := by
  intro h
  have hnil : base64Encode (fixedDigits 256 size value.toNat) = [] :=
    ofList_injective h
  have hback := base64Decode_base64Encode
    (fixedDigits_lt (by decide) size value.toNat : forall b, b ∈ _ -> b < 256)
  rw [hnil] at hback
  have hlength := congrArg List.length (Option.some.inj hback)
  rw [fixedDigits_length] at hlength
  exact absurd hlength (Nat.ne_of_lt hsize)

theorem decodeBase64_encodeBase64 {size : Nat} (hsize : 0 < size)
    (value : BitVec (8 * size)) (field : String) :
    decodeBase64 (encodeBase64 size value) size field = Except.ok value := by
  have hwidth : value.toNat < 256 ^ size := by
    exact lt_of_lt_of_eq value.isLt (Nat.pow_mul 2 8 size)
  have hbytes : base64Decode (encodeBase64 size value).toList
      = some (fixedDigits 256 size value.toNat) := by
    unfold encodeBase64
    rw [String.toList_ofList]
    exact base64Decode_base64Encode (fixedDigits_lt (by decide) size value.toNat)
  have hne := encodeBase64_ne_empty hsize value
  unfold decodeBase64
  rw [hbytes]
  simp only [bind_eq_ok, require_eq_ok, orFail_eq_ok, pure_eq_ok]
  refine ⟨(), by simpa using hne, _, rfl, (), by simp, ?_⟩
  rw [digitsValue_fixedDigits size hwidth, BitVec.ofNat_toNat, BitVec.setWidth_eq]

/-- `SIGNING_KEY_ID_RE.fullmatch(value)`. -/
def isSigningKeyId (text : String) : Bool :=
  1 ≤ text.toList.length && text.toList.length ≤ 64 && text.toList.all isSafeIdentifierChar

/-- Why a checkpoint or an anchor is refused. -/
inductive ReasonCode where
  | checkpointFormatInvalid
  | checkpointHashMismatch
  | unknownSigningKey
  | signatureInvalid
  | leafCountMismatch
  | leafIndexMismatch
  | checkpointBoundaryMismatch
  | leafHashMismatch
  | merkleRootMismatch
  | eventMissing
  | eventHashSnapshotMismatch
  | eventHashMismatch
  | checkpointSequenceBroken
  | checkpointChainBroken
  | anchoredCheckpointMissing
  | eventChainBroken
  | anchorFormatInvalid
  | anchorCheckpointMismatch
  deriving DecidableEq, Repr

def ReasonCode.value : ReasonCode -> String
  | checkpointFormatInvalid => "CHECKPOINT_FORMAT_INVALID"
  | checkpointHashMismatch => "CHECKPOINT_HASH_MISMATCH"
  | unknownSigningKey => "UNKNOWN_SIGNING_KEY"
  | signatureInvalid => "SIGNATURE_INVALID"
  | leafCountMismatch => "LEAF_COUNT_MISMATCH"
  | leafIndexMismatch => "LEAF_INDEX_MISMATCH"
  | checkpointBoundaryMismatch => "CHECKPOINT_BOUNDARY_MISMATCH"
  | leafHashMismatch => "LEAF_HASH_MISMATCH"
  | merkleRootMismatch => "MERKLE_ROOT_MISMATCH"
  | eventMissing => "EVENT_MISSING"
  | eventHashSnapshotMismatch => "EVENT_HASH_SNAPSHOT_MISMATCH"
  | eventHashMismatch => "EVENT_HASH_MISMATCH"
  | checkpointSequenceBroken => "CHECKPOINT_SEQUENCE_BROKEN"
  | checkpointChainBroken => "CHECKPOINT_CHAIN_BROKEN"
  | anchoredCheckpointMissing => "ANCHORED_CHECKPOINT_MISSING"
  | eventChainBroken => "EVENT_CHAIN_BROKEN"
  | anchorFormatInvalid => "ANCHOR_FORMAT_INVALID"
  | anchorCheckpointMismatch => "ANCHOR_CHECKPOINT_MISMATCH"

section

variable (ed : Ed25519)

def derivePublicKey (privateKeyBase64 : String) : Except MerkleFailure String := do
  let seed ← decodeBase64 privateKeyBase64 32 "signing private key"
  pure (encodeBase64 32 (ed.publicKey seed))

def validateSigningConfiguration (signingKeyId privateKeyBase64 : String)
    (publicKeys : String -> Option String) : Except MerkleFailure Unit := do
  require (isSigningKeyId signingKeyId) (MerkleFailure.integrity
    "SIGNING_KEY_CONFIG_INVALID" "active Merkle signing key ID is invalid")
  let trustedValue ← orFail (publicKeys signingKeyId) (MerkleFailure.integrity
    "UNKNOWN_SIGNING_KEY" "active Merkle signing key ID is not trusted")
  let _ ← decodeBase64 trustedValue 32 "trusted public key"
  let derived ← derivePublicKey ed privateKeyBase64
  require (derived == trustedValue) (MerkleFailure.integrity "SIGNING_KEY_MISMATCH"
    "active Merkle signing private key does not match its configured public key")

def signCheckpointHash (checkpointHash privateKeyBase64 : String) :
    Except MerkleFailure String := do
  let digest ← orFail (Digest.ofHex? checkpointHash) (MerkleFailure.integrity
    "CHECKPOINT_HASH_MISMATCH" "checkpoint hash is malformed")
  let seed ← decodeBase64 privateKeyBase64 32 "signing private key"
  pure (encodeBase64 64 (ed.sign seed digest))

/-- The signature check proper, with keys and signature decoded first. -/
def checkSignature (digest : Digest) (publicValue signature : String) :
    Except MerkleFailure Bool := do
  let publicKey ← decodeBase64 publicValue 32 "trusted public key"
  let signatureBytes ← decodeBase64 signature 64 "checkpoint signature"
  pure (ed.verify publicKey signatureBytes digest)

/-- The reason a signature is refused, or none. -/
def verifyCheckpointSignature (checkpointHash signingKeyId signature : String)
    (publicKeys : String -> Option String) : Option ReasonCode :=
  match Digest.ofHex? checkpointHash, publicKeys signingKeyId with
  | none, _ => some ReasonCode.checkpointHashMismatch
  | some _, none => some ReasonCode.unknownSigningKey
  | some digest, some publicValue =>
      if checkSignature ed digest publicValue signature = Except.ok true then none
      else some ReasonCode.signatureInvalid

variable {ed} {signingKeyId privateKeyBase64 : String} {publicKeys : String -> Option String}

/-- What the configuration check establishes about the two keys. -/
theorem validateSigningConfiguration_eq_ok
    (h : validateSigningConfiguration ed signingKeyId privateKeyBase64 publicKeys
      = Except.ok ()) :
    isSigningKeyId signingKeyId = true ∧ exists seed : BitVec 256,
      decodeBase64 privateKeyBase64 32 "signing private key" = Except.ok seed ∧
        publicKeys signingKeyId = some (encodeBase64 32 (ed.publicKey seed)) := by
  unfold validateSigningConfiguration derivePublicKey at h
  simp only [bind_eq_ok, require_eq_ok, orFail_eq_ok, pure_eq_ok, beq_iff_eq] at h
  rcases h with ⟨_, hid, trusted, htrusted, _, _, _, ⟨seed, hseed, hderived⟩, hequal⟩
  exact ⟨hid, seed, hseed, by rw [htrusted, ← hequal, ← hderived]⟩

theorem signCheckpointHash_hex {seed : BitVec 256}
    (hseed : decodeBase64 privateKeyBase64 32 "signing private key" = Except.ok seed)
    (digest : Digest) :
    signCheckpointHash ed digest.hex privateKeyBase64
      = Except.ok (encodeBase64 64 (ed.sign seed digest)) := by
  unfold signCheckpointHash
  rw [Digest.ofHex?_hex, hseed]
  rfl

theorem verifyCheckpointSignature_of_signed (hcorrect : ed.Correct) {seed : BitVec 256}
    (hkey : publicKeys signingKeyId = some (encodeBase64 32 (ed.publicKey seed)))
    (digest : Digest) :
    verifyCheckpointSignature ed digest.hex signingKeyId
      (encodeBase64 64 (ed.sign seed digest)) publicKeys = none := by
  have hpublic := decodeBase64_encodeBase64 (by decide : 0 < 32) (ed.publicKey seed)
    "trusted public key"
  have hsigned := decodeBase64_encodeBase64 (by decide : 0 < 64) (ed.sign seed digest)
    "checkpoint signature"
  unfold verifyCheckpointSignature
  rw [Digest.ofHex?_hex, hkey]
  apply if_pos
  unfold checkSignature
  rw [hpublic, hsigned]
  exact congrArg Except.ok (hcorrect seed digest)

end

/-!
# Checkpoint rows
-/

structure MerkleBatch where
  id : Uuid
  sequenceNo : Int
  merkleVersion : Int
  hashAlgorithm : String
  leafCount : Int
  firstEventId : Uuid
  lastEventId : Uuid
  firstEventHash : String
  lastEventHash : String
  merkleRoot : String
  previousCheckpointHash : Option String
  checkpointHash : String
  signingKeyId : String
  signature : String
  createdAt : Instant

/-- The dictionary of a row that passes the format checks. -/
def checkpointFields (batch : MerkleBatch) : Json :=
  Json.obj
    [("checkpoint_version", Json.int checkpointVersionNumber),
      ("sequence_no", Json.int batch.sequenceNo),
      ("merkle_version", Json.int batch.merkleVersion),
      ("hash_algorithm", Json.str hashAlgorithmName),
      ("leaf_count", Json.int batch.leafCount),
      ("first_event_id", idJson batch.firstEventId),
      ("last_event_id", idJson batch.lastEventId),
      ("first_event_hash", Json.str batch.firstEventHash),
      ("last_event_hash", Json.str batch.lastEventHash),
      ("merkle_root", Json.str batch.merkleRoot),
      ("previous_checkpoint_hash", optionalText batch.previousCheckpointHash),
      ("signing_key_id", Json.str batch.signingKeyId),
      ("created_at", Json.str batch.createdAt.isoformat)]

def formatInvalid (message : String) : MerkleFailure :=
  MerkleFailure.integrity ReasonCode.checkpointFormatInvalid.value message

def checkpointPayload (batch : MerkleBatch) : Except MerkleFailure Json := do
  require (1 ≤ batch.sequenceNo && batch.merkleVersion == merkleVersionNumber &&
      (1 ≤ batch.leafCount && batch.leafCount ≤ maxBatchSize))
    (formatInvalid "checkpoint numeric metadata is invalid")
  require (batch.hashAlgorithm == hashAlgorithmName)
    (formatInvalid "checkpoint version or algorithm is unsupported")
  require (isHashHex batch.firstEventHash) (formatInvalid "first_event_hash is malformed")
  require (isHashHex batch.lastEventHash) (formatInvalid "last_event_hash is malformed")
  require (isHashHex batch.merkleRoot) (formatInvalid "merkle_root is malformed")
  require (batch.previousCheckpointHash.all isHashHex)
    (formatInvalid "previous checkpoint hash is malformed")
  require (isSigningKeyId batch.signingKeyId)
    (formatInvalid "checkpoint signing key ID is invalid")
  pure (checkpointFields batch)

def canonicalCheckpointJson (batch : MerkleBatch) : Except MerkleFailure String :=
  (fun payload => String.ofList payload.dumps) <$> checkpointPayload batch

def computeCheckpointHash (sha256 : Sha256) (batch : MerkleBatch) :
    Except MerkleFailure String :=
  sha256.hexdigest <$> canonicalCheckpointJson batch

/-- The format checks, as a property of the row. -/
structure MerkleBatch.Formatted (batch : MerkleBatch) : Prop where
  sequenceNo : 1 ≤ batch.sequenceNo
  merkleVersion : batch.merkleVersion = merkleVersionNumber
  leafCount : 1 ≤ batch.leafCount ∧ batch.leafCount ≤ maxBatchSize
  hashAlgorithm : batch.hashAlgorithm = hashAlgorithmName
  firstEventHash : isHashHex batch.firstEventHash = true
  lastEventHash : isHashHex batch.lastEventHash = true
  merkleRoot : isHashHex batch.merkleRoot = true
  previous : batch.previousCheckpointHash.all isHashHex = true
  signingKeyId : isSigningKeyId batch.signingKeyId = true

theorem checkpointPayload_eq_ok {batch : MerkleBatch} {payload : Json} :
    checkpointPayload batch = Except.ok payload ↔
      batch.Formatted ∧ payload = checkpointFields batch := by
  unfold checkpointPayload
  simp only [bind_eq_ok, require_eq_ok, pure_eq_ok, Bool.and_eq_true, decide_eq_true_eq,
    beq_iff_eq]
  constructor
  · intro h
    rcases h with ⟨_, ⟨⟨hsequence, hversion⟩, hcount⟩, _, halgorithm, _, hfirst, _, hlast, _,
      hroot, _, hprevious, _, hkey, hpayload⟩
    exact ⟨⟨hsequence, hversion, hcount, halgorithm, hfirst, hlast, hroot, hprevious, hkey⟩,
      hpayload.symm⟩
  · intro h
    rcases h with ⟨hformat, hpayload⟩
    exact ⟨(), ⟨⟨hformat.sequenceNo, hformat.merkleVersion⟩, hformat.leafCount⟩, (),
      hformat.hashAlgorithm, (), hformat.firstEventHash, (), hformat.lastEventHash, (),
      hformat.merkleRoot, (), hformat.previous, (), hformat.signingKeyId, hpayload.symm⟩

/-- The bytes a checkpoint hash is taken of. -/
def checkpointBytes (batch : MerkleBatch) : List UInt8 :=
  utf8 (String.ofList (checkpointFields batch).dumps)

theorem computeCheckpointHash_eq_ok {sha256 : Sha256} {batch : MerkleBatch} {text : String} :
    computeCheckpointHash sha256 batch = Except.ok text ↔
      batch.Formatted ∧ text = (sha256 (checkpointBytes batch)).hex := by
  unfold computeCheckpointHash canonicalCheckpointJson
  simp only [map_eq_ok, checkpointPayload_eq_ok]
  constructor
  · intro h
    rcases h with ⟨_, ⟨_, ⟨hformat, hfields⟩, hjson⟩, htext⟩
    rw [← htext, ← hjson, hfields]
    exact ⟨hformat, rfl⟩
  · intro h
    exact ⟨_, ⟨_, ⟨h.1, rfl⟩, rfl⟩, h.2.symm⟩

end MessagingSystem
