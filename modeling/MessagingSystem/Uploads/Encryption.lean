import MessagingSystem.Core.Encodings
import MessagingSystem.Core.Identifiers
import MessagingSystem.Foundation.Aead
import MessagingSystem.Foundation.Fallible
import MessagingSystem.Foundation.Sha256

/-!
# The storage format of uploads

A file is an authenticated header followed by one frame for each piece of the plaintext.
The functions below read and write this format.
-/

namespace MessagingSystem

open Foundation

inductive UploadFault where
  | format (message : String)
  | integrity (message : String)
  | key (message : String)
  deriving DecidableEq, Repr

/-!
# Constants
-/

def asciiBytes (text : String) : Bytes :=
  text.toList.map (fun c => UInt8.ofNat c.toNat)

/-- The bytes of `MSGUPENC`. -/
def uploadEncryptionMagic : Bytes :=
  [77, 83, 71, 85, 80, 69, 78, 67]

def uploadEncryptionVersion : Nat := 1

def uploadEncryptionChunkSize : Nat := 65536

def uploadEncryptionMaxChunkSize : Nat := 1048576

def uploadEncryptionMaxPlaintextSize : Nat := 1099511627776

def uploadEncryptionTagSize : Nat := 16

def uploadEncryptionNoncePrefixSize : Nat := 8

def uploadEncryptionMaxKeyIdSize : Nat := 64

def uploadEncryptionHeaderNonceCounter : Nat := 0xffffffff

def uploadEncryptionMaxChunkCounter : Nat := 0xfffffffe

/-- Magic, version, upload id and length of the key id. -/
def headerPrefixSize : Nat := 26

/-- Plaintext size, chunk size and nonce prefix. -/
def headerSuffixWithoutTagSize : Nat := 20

def frameHeaderSize : Nat := 8

def chunkAadDomain : Bytes :=
  asciiBytes "MessagingSystem/upload/v1/chunk" ++ [0]

/-!
# Keys
-/

/-- `DATA_ENCRYPTION_KEY_ID_RE.fullmatch(key_id)`. -/
def isDataKeyId (keyId : String) : Bool :=
  decide (1 ≤ keyId.toList.length) && decide (keyId.toList.length ≤ 64) &&
    keyId.toList.all (fun c => c.isAlphanum || c == '_' || c == '-')

/--
The key ring and the primitives: AES-GCM, SHA-256, and HKDF with the info string of uploads
as a function of the master key and the salt.
-/
structure UploadCrypto where
  activeKeyId : String
  masterKey : String -> Option Bytes
  aes : Aead 16
  sha256 : Sha256
  hkdf : Bytes -> Bytes -> Bytes

def uuidBytes (id : Uuid) : Bytes :=
  packBE 16 id.toNat

section

variable (env : UploadCrypto)

/-- `_aesgcm_for_upload`: the key of the cipher for one upload. -/
def aesgcmForUpload (keyId : String) (uploadId : Uuid) : Except UploadFault Bytes :=
  match env.masterKey keyId with
  | some master => pure (env.hkdf master (uuidBytes uploadId))
  | none => throw (UploadFault.key "referenced upload encryption key is unavailable")

def uploadNonce (noncePrefix : Bytes) (counter : Nat) : Except UploadFault Bytes := do
  require (noncePrefix.length == uploadEncryptionNoncePrefixSize &&
      decide (counter ≤ 0xffffffff))
    (UploadFault.format "invalid encrypted upload nonce")
  pure (noncePrefix ++ packBE 4 counter)

/-!
# Headers
-/

structure UploadEncryptionHeader where
  uploadId : Uuid
  keyId : String
  plaintextSize : Nat
  chunkSize : Nat
  noncePrefix : Bytes
  canonicalBytes : Bytes
  headerTag : Bytes

def UploadEncryptionHeader.encoded (header : UploadEncryptionHeader) : Bytes :=
  header.canonicalBytes ++ header.headerTag

def UploadEncryptionHeader.digest (header : UploadEncryptionHeader) : Bytes :=
  packBE 32 (env.sha256 header.canonicalBytes).toNat

def canonicalHeader (uploadId : Uuid) (keyId : String) (plaintextSize chunkSize : Nat)
    (noncePrefix : Bytes) : Bytes :=
  uploadEncryptionMagic ++ (packBE 1 uploadEncryptionVersion ++ (uuidBytes uploadId ++
    (packBE 1 (asciiBytes keyId).length ++ (asciiBytes keyId ++ (packBE 8 plaintextSize ++
      (packBE 4 chunkSize ++ noncePrefix))))))

/-- The nonce prefix is what `os.urandom` has returned. -/
def buildUploadEncryptionHeader (uploadId : Uuid) (keyId : String) (plaintextSize : Nat)
    (noncePrefix : Bytes) : Except UploadFault UploadEncryptionHeader := do
  require (isDataKeyId keyId) (UploadFault.format "invalid upload encryption key ID")
  require (decide (plaintextSize ≤ uploadEncryptionMaxPlaintextSize))
    (UploadFault.format "invalid encrypted upload plaintext size")
  require (noncePrefix.length == uploadEncryptionNoncePrefixSize)
    (UploadFault.format "invalid encrypted upload nonce prefix")
  let canonical :=
    canonicalHeader uploadId keyId plaintextSize uploadEncryptionChunkSize noncePrefix
  let key ← aesgcmForUpload env keyId uploadId
  let nonce ← uploadNonce noncePrefix uploadEncryptionHeaderNonceCounter
  let tag := env.aes.encrypt key nonce [] canonical
  require (tag.length == uploadEncryptionTagSize)
    (UploadFault.integrity "invalid encrypted upload header authentication tag")
  pure
    { uploadId := uploadId
      keyId := keyId
      plaintextSize := plaintextSize
      chunkSize := uploadEncryptionChunkSize
      noncePrefix := noncePrefix
      canonicalBytes := canonical
      headerTag := tag }

def decodeAscii (bytes : Bytes) : Except UploadFault String := do
  require (bytes.all (fun b => decide (b.toNat < 128)))
    (UploadFault.format "invalid encrypted upload key ID")
  pure (String.ofList (bytes.map (fun b => Char.ofNat b.toNat)))

def checkExpected (expectedUploadId : Option Uuid) (expectedKeyId : Option String)
    (uploadId : Uuid) (keyId : String) : Except UploadFault Unit := do
  require (expectedUploadId.all (fun id => id == uploadId))
    (UploadFault.integrity "encrypted upload UUID does not match its database record")
  require (expectedKeyId.all (fun id => id == keyId))
    (UploadFault.integrity "encrypted upload key ID does not match its database record")

def authenticateHeader (header : UploadEncryptionHeader) : Except UploadFault Unit := do
  let key ← aesgcmForUpload env header.keyId header.uploadId
  let nonce ← uploadNonce header.noncePrefix uploadEncryptionHeaderNonceCounter
  let plaintext ← orFail (env.aes.decrypt key nonce header.headerTag header.canonicalBytes)
    (UploadFault.integrity "encrypted upload header authentication failed")
  require (plaintext == [])
    (UploadFault.integrity "invalid encrypted upload header authentication result")

/-- The layout of a header, before anything is compared or authenticated. -/
def parseHeaderFields (encoded : Bytes) : Except UploadFault UploadEncryptionHeader := do
  let minimum := headerPrefixSize + 1 + headerSuffixWithoutTagSize + uploadEncryptionTagSize
  require (decide (minimum ≤ encoded.length) &&
      decide (encoded.length ≤ minimum + uploadEncryptionMaxKeyIdSize - 1))
    (UploadFault.format "invalid encrypted upload header length")
  require (encoded.take 8 == uploadEncryptionMagic)
    (UploadFault.format "invalid encrypted upload magic")
  let afterMagic := encoded.drop 8
  require (unpackBE (afterMagic.take 1) == uploadEncryptionVersion)
    (UploadFault.format "unsupported encrypted upload version")
  let afterVersion := afterMagic.drop 1
  let uploadId : Uuid := BitVec.ofNat 128 (unpackBE (afterVersion.take 16))
  let afterId := afterVersion.drop 16
  let keyIdLength := unpackBE (afterId.take 1)
  require (decide (1 ≤ keyIdLength) && decide (keyIdLength ≤ uploadEncryptionMaxKeyIdSize))
    (UploadFault.format "invalid encrypted upload key ID length")
  require (encoded.length ==
      headerPrefixSize + keyIdLength + headerSuffixWithoutTagSize + uploadEncryptionTagSize)
    (UploadFault.format "invalid encrypted upload header length")
  let afterLength := afterId.drop 1
  let keyId ← decodeAscii (afterLength.take keyIdLength)
  require (isDataKeyId keyId) (UploadFault.format "invalid encrypted upload key ID")
  let afterKey := afterLength.drop keyIdLength
  let plaintextSize := unpackBE (afterKey.take 8)
  let afterSize := afterKey.drop 8
  let chunkSize := unpackBE (afterSize.take 4)
  require (decide (plaintextSize ≤ uploadEncryptionMaxPlaintextSize))
    (UploadFault.format "encrypted upload plaintext size exceeds format bound")
  require (chunkSize == uploadEncryptionChunkSize &&
      decide (chunkSize ≤ uploadEncryptionMaxChunkSize))
    (UploadFault.format "unsupported encrypted upload chunk size")
  let afterChunkSize := afterSize.drop 4
  let canonicalSize := headerPrefixSize + keyIdLength + headerSuffixWithoutTagSize
  pure
    { uploadId := uploadId
      keyId := keyId
      plaintextSize := plaintextSize
      chunkSize := chunkSize
      noncePrefix := afterChunkSize.take uploadEncryptionNoncePrefixSize
      canonicalBytes := encoded.take canonicalSize
      headerTag := (encoded.drop canonicalSize).take uploadEncryptionTagSize }

/-- `_parse_upload_encryption_header_bytes`. -/
def parseUploadEncryptionHeader (encoded : Bytes) (expectedUploadId : Option Uuid)
    (expectedKeyId : Option String) : Except UploadFault UploadEncryptionHeader := do
  let header ← parseHeaderFields encoded
  checkExpected expectedUploadId expectedKeyId header.uploadId header.keyId
  authenticateHeader env header
  pure header

/-- The bytes that were read and what is left of the source. -/
def readExact (source : Bytes) (length : Nat) : Except UploadFault (Bytes × Bytes) := do
  require (decide (length ≤ source.length)) (UploadFault.format "truncated encrypted upload")
  pure (source.take length, source.drop length)

def readUploadEncryptionHeader (source : Bytes) (expectedUploadId : Option Uuid)
    (expectedKeyId : Option String) :
    Except UploadFault (UploadEncryptionHeader × Bytes) := do
  let front ← readExact source headerPrefixSize
  let keyIdLength := unpackBE (front.1.drop 25)
  require (decide (1 ≤ keyIdLength) && decide (keyIdLength ≤ uploadEncryptionMaxKeyIdSize))
    (UploadFault.format "invalid encrypted upload key ID length")
  let remainder ← readExact front.2
    (keyIdLength + headerSuffixWithoutTagSize + uploadEncryptionTagSize)
  let header ← parseUploadEncryptionHeader env (front.1 ++ remainder.1) expectedUploadId
    expectedKeyId
  pure (header, remainder.2)

def fileHasEncryptedUploadMagic (file : Bytes) : Bool :=
  file.take 8 == uploadEncryptionMagic

/-!
# Frames
-/

def chunkAad (header : UploadEncryptionHeader) (index plaintextLength : Nat) : Bytes :=
  chunkAadDomain ++ (header.digest env ++ (packBE 4 index ++ packBE 4 plaintextLength))

structure UploadChunkEncryptor where
  header : UploadEncryptionHeader
  key : Bytes
  nextIndex : Nat
  totalPlaintext : Nat

def newUploadChunkEncryptor (uploadId : Uuid) (keyId : String) (plaintextSize : Nat)
    (noncePrefix : Bytes) : Except UploadFault UploadChunkEncryptor := do
  let header ← buildUploadEncryptionHeader env uploadId keyId plaintextSize noncePrefix
  let key ← aesgcmForUpload env keyId uploadId
  pure { header := header, key := key, nextIndex := 0, totalPlaintext := 0 }

def encryptChunk (encryptor : UploadChunkEncryptor) (chunk : Bytes) :
    Except UploadFault (Bytes × UploadChunkEncryptor) := do
  require (chunk != [] && decide (chunk.length ≤ encryptor.header.chunkSize))
    (UploadFault.format "invalid plaintext upload chunk length")
  require (decide (encryptor.nextIndex ≤ uploadEncryptionMaxChunkCounter))
    (UploadFault.format "encrypted upload chunk counter overflow")
  require (decide (encryptor.totalPlaintext + chunk.length ≤ encryptor.header.plaintextSize))
    (UploadFault.format "plaintext upload exceeds declared size")
  let nonce ← uploadNonce encryptor.header.noncePrefix encryptor.nextIndex
  let ciphertext := env.aes.encrypt encryptor.key nonce chunk
    (chunkAad env encryptor.header encryptor.nextIndex chunk.length)
  pure
    (packBE 4 encryptor.nextIndex ++ (packBE 4 chunk.length ++ ciphertext),
      { encryptor with
        nextIndex := encryptor.nextIndex + 1
        totalPlaintext := encryptor.totalPlaintext + chunk.length })

def finalizeEncryptor (encryptor : UploadChunkEncryptor) : Except UploadFault Unit :=
  require (encryptor.totalPlaintext == encryptor.header.plaintextSize)
    (UploadFault.format "plaintext upload does not match declared size")

/-- One frame: the plaintext and the rest of the source. -/
def decryptFrame (strict : Bool) (header : UploadEncryptionHeader) (key : Bytes)
    (remaining expectedIndex : Nat) (source : Bytes) :
    Except UploadFault (Bytes × Bytes) := do
  require (!strict || decide (expectedIndex ≤ uploadEncryptionMaxChunkCounter))
    (UploadFault.format "encrypted upload chunk counter overflow")
  let front ← readExact source frameHeaderSize
  let index := unpackBE (front.1.take 4)
  let plaintextLength := unpackBE (front.1.drop 4)
  require (index == expectedIndex && plaintextLength == min header.chunkSize remaining)
    (UploadFault.format "invalid encrypted upload frame ordering or length")
  let body ← readExact front.2 (plaintextLength + uploadEncryptionTagSize)
  let nonce ← uploadNonce header.noncePrefix index
  let plaintext ← orFail
    (env.aes.decrypt key nonce body.1 (chunkAad env header index plaintextLength))
    (UploadFault.integrity "encrypted upload chunk authentication failed")
  require (!strict || plaintext.length == plaintextLength)
    (UploadFault.integrity "invalid encrypted upload plaintext length")
  pure (plaintext, body.2)

/--
The loop of the two decoders, which hands each piece to its consumer.  The one that serves
downloads leaves out the checks of the counter and of the length (`strict` is false).  Every
round consumes at least one byte of what remains, so that number of rounds is enough.
-/
def foldFrames {σ : Type} (strict : Bool) (header : UploadEncryptionHeader) (key : Bytes)
    (consume : σ -> Bytes -> Except UploadFault σ) :
    Nat -> Nat -> Nat -> Bytes -> σ -> Except UploadFault σ
  | _, 0, _, source, acc => do
      require (source == [])
        (UploadFault.format "encrypted upload contains trailing data")
      pure acc
  | 0, _ + 1, _, _, _ => throw (UploadFault.format "truncated encrypted upload")
  | fuel + 1, remaining + 1, expectedIndex, source, acc => do
      let frame ← decryptFrame env strict header key (remaining + 1) expectedIndex source
      let acc ← consume acc frame.1
      foldFrames strict header key consume fuel
        (remaining + 1 - min header.chunkSize (remaining + 1)) (expectedIndex + 1) frame.2 acc

/-- Header and frames of one file. -/
def foldUploadFile {σ : Type} (strict : Bool) (file : Bytes) (expectedUploadId : Option Uuid)
    (expectedKeyId : Option String) (expectedPlaintextSize : Nat)
    (consume : σ -> Bytes -> Except UploadFault σ) (acc : σ) :
    Except UploadFault (UploadEncryptionHeader × σ) := do
  let opened ← readUploadEncryptionHeader env file expectedUploadId expectedKeyId
  require (opened.1.plaintextSize == expectedPlaintextSize)
    (UploadFault.integrity "encrypted upload size does not match its database record")
  let key ← aesgcmForUpload env opened.1.keyId opened.1.uploadId
  let acc ← foldFrames env strict opened.1 key consume opened.1.plaintextSize
    opened.1.plaintextSize 0 opened.2 acc
  pure (opened.1, acc)

/-- `iter_decrypted_upload_async`, as the bytes that it streams. -/
def decryptedUpload (file : Bytes) (expectedUploadId : Uuid) (expectedKeyId : Option String)
    (expectedPlaintextSize : Nat) : Except UploadFault Bytes := do
  let read ← foldUploadFile env false file (some expectedUploadId) expectedKeyId
    expectedPlaintextSize (fun (acc : Bytes) chunk => pure (acc ++ chunk)) []
  pure read.2

/-!
# Whole files
-/

/-- `expected_checksum and checksum.lower() != expected_checksum.strip().lower()`. -/
def checksumMatches (expected : Option String) (content : Bytes) : Bool :=
  match expected with
  | none => true
  | some text =>
      text == "" || lower (env.sha256 content).hex == lower (strip text)

/-- `validate_encrypted_upload_file`, with the plaintext in place of its running digest. -/
def validateEncryptedUploadFile (file : Bytes) (expectedUploadId : Uuid)
    (expectedKeyId : Option String) (expectedPlaintextSize : Nat)
    (expectedChecksum : Option String) : Except UploadFault UploadEncryptionHeader := do
  let read ← foldUploadFile env true file (some expectedUploadId) expectedKeyId
    expectedPlaintextSize (fun (acc : Bytes) chunk => pure (acc ++ chunk)) []
  require (read.2.length == read.1.plaintextSize)
    (UploadFault.integrity "encrypted upload plaintext length mismatch")
  require (checksumMatches env expectedChecksum read.2)
    (UploadFault.integrity "encrypted upload checksum does not match its database record")
  pure read.1

/-- What a writer keeps while it works: its encryptor, the plaintext and the file so far. -/
structure UploadWriter where
  encryptor : UploadChunkEncryptor
  plaintext : Bytes
  written : Bytes

def openUploadWriter (uploadId : Uuid) (keyId : String) (plaintextSize : Nat)
    (noncePrefix : Bytes) : Except UploadFault UploadWriter := do
  let encryptor ← newUploadChunkEncryptor env uploadId keyId plaintextSize noncePrefix
  pure { encryptor := encryptor, plaintext := [], written := encryptor.header.encoded }

def UploadWriter.write (writer : UploadWriter) (chunk : Bytes) :
    Except UploadFault UploadWriter := do
  let frame ← encryptChunk env writer.encryptor chunk
  pure
    { encryptor := frame.2
      plaintext := writer.plaintext ++ chunk
      written := writer.written ++ frame.1 }

/-- The checks at the end of the two rewriting functions, which differ in their messages. -/
def UploadWriter.close (writer : UploadWriter) (plaintextSize : Nat)
    (expectedChecksum : Option String) (sizeMessage checksumMessage : String) :
    Except UploadFault Bytes := do
  finalizeEncryptor writer.encryptor
  require (writer.plaintext.length == plaintextSize) (UploadFault.integrity sizeMessage)
  require (checksumMatches env expectedChecksum writer.plaintext)
    (UploadFault.integrity checksumMessage)
  pure writer.written

def encryptPlaintextFile (source : Bytes) (uploadId : Uuid) (keyId : String)
    (plaintextSize : Nat) (expectedChecksum : Option String) (noncePrefix : Bytes) :
    Except UploadFault Bytes := do
  let writer ← openUploadWriter env uploadId keyId plaintextSize noncePrefix
  let writer ← (pieces uploadEncryptionChunkSize source).foldlM (UploadWriter.write env) writer
  writer.close env plaintextSize expectedChecksum
    "plaintext upload size does not match its database record"
    "plaintext upload checksum does not match its database record"

def reencryptUploadFile (source : Bytes) (uploadId : Uuid) (sourceKeyId targetKeyId : String)
    (plaintextSize : Nat) (expectedChecksum : Option String) (noncePrefix : Bytes) :
    Except UploadFault Bytes := do
  let writer ← openUploadWriter env uploadId targetKeyId plaintextSize noncePrefix
  let read ← foldUploadFile env true source (some uploadId) (some sourceKeyId) plaintextSize
    (UploadWriter.write env) writer
  read.2.close env plaintextSize expectedChecksum
    "rotated upload plaintext length mismatch" "rotated upload checksum mismatch"

end

/-- Two master keys, and a cipher that leaves the plaintext readable. -/
def sampleUploadCrypto : UploadCrypto where
  activeKeyId := "k2"
  masterKey := fun keyId =>
    if keyId == "k1" then some [1] else if keyId == "k2" then some [2] else none
  aes := Aead.transparent 16
  sha256 := Foundation.sha256
  hkdf := fun master salt => master ++ salt

end MessagingSystem
