import MessagingSystem.Uploads.Encryption

/-!
# Encrypted files

What an encrypted file is, stated without the loops that read and write it.  The writers
write such files, the readers get the plaintext back from them, and a file that is accepted
is longer than its plaintext.
-/

namespace MessagingSystem

open Foundation

variable {keyId : String} {uploadId : Uuid} {header : UploadEncryptionHeader} {strict : Bool}
  {plaintextSize : Nat} {expectedKeyId : Option String} {checksum : Option String}

section

variable (env : UploadCrypto)

/-!
# Well-formed files
-/

def frameBytes (header : UploadEncryptionHeader) (key : Bytes) (index : Nat) (chunk : Bytes) :
    Bytes :=
  packBE 4 index ++ (packBE 4 chunk.length ++ env.aes.encrypt key
    (header.noncePrefix ++ packBE 4 index) chunk (chunkAad env header index chunk.length))

def framesFrom (header : UploadEncryptionHeader) (key : Bytes) : Nat -> List Bytes -> Bytes
  | _, [] => []
  | index, chunk :: chunks =>
      frameBytes env header key index chunk ++ framesFrom header key (index + 1) chunks

/-- The header that is written under a key. -/
def headerUnder (key : Bytes) (uploadId : Uuid) (keyId : String) (plaintextSize : Nat)
    (noncePrefix : Bytes) : UploadEncryptionHeader where
  uploadId := uploadId
  keyId := keyId
  plaintextSize := plaintextSize
  chunkSize := uploadEncryptionChunkSize
  noncePrefix := noncePrefix
  canonicalBytes :=
    canonicalHeader uploadId keyId plaintextSize uploadEncryptionChunkSize noncePrefix
  headerTag := env.aes.encrypt key
    (noncePrefix ++ packBE 4 uploadEncryptionHeaderNonceCounter) []
    (canonicalHeader uploadId keyId plaintextSize uploadEncryptionChunkSize noncePrefix)

/-- The file is the encryption of the data, for this upload and under this key. -/
structure IsUploadFile (uploadId : Uuid) (keyId : String) (data file : Bytes) : Prop where
  keyIdOk : isDataKeyId keyId = true
  sizeOk : data.length ≤ uploadEncryptionMaxPlaintextSize
  bytes : exists key noncePrefix, aesgcmForUpload env keyId uploadId = Except.ok key ∧
    noncePrefix.length = 8 ∧
    file = (headerUnder env key uploadId keyId data.length noncePrefix).encoded ++
      framesFrom env (headerUnder env key uploadId keyId data.length noncePrefix) key 0
        (pieces uploadEncryptionChunkSize data)

variable {env} {noncePrefix : Bytes}

theorem uploadNonce_eq_ok {nonce : Bytes} {counter : Nat} :
    uploadNonce noncePrefix counter = Except.ok nonce ↔
      noncePrefix.length = 8 ∧ counter ≤ 0xffffffff ∧ noncePrefix ++ packBE 4 counter = nonce := by
  simp only [uploadNonce, bind_eq_ok, require_eq_ok, pure_eq_ok, Bool.and_eq_true, beq_iff_eq,
    decide_eq_true_eq, exists_and_left, exists_const, uploadEncryptionNoncePrefixSize, and_assoc]

theorem buildUploadEncryptionHeader_eq_ok :
    buildUploadEncryptionHeader env uploadId keyId plaintextSize noncePrefix
        = Except.ok header ↔
      isDataKeyId keyId = true ∧ plaintextSize ≤ uploadEncryptionMaxPlaintextSize ∧
      noncePrefix.length = 8 ∧ exists key, aesgcmForUpload env keyId uploadId = Except.ok key ∧
        headerUnder env key uploadId keyId plaintextSize noncePrefix = header := by
  constructor
  · intro h
    rcases bind_eq_ok.mp h with ⟨_, hkeyId, h⟩
    rcases bind_eq_ok.mp h with ⟨_, hsize, h⟩
    rcases bind_eq_ok.mp h with ⟨_, _, h⟩
    rcases bind_eq_ok.mp h with ⟨key, hkey, h⟩
    rcases bind_eq_ok.mp h with ⟨nonce, hnonce, h⟩
    rcases bind_eq_ok.mp h with ⟨_, _, h⟩
    rcases uploadNonce_eq_ok.mp hnonce with ⟨hlength, _, heq⟩
    rw [← pure_eq_ok.mp h, ← heq]
    exact ⟨require_eq_ok.mp hkeyId, decide_eq_true_eq.mp (require_eq_ok.mp hsize), hlength,
      key, hkey, rfl⟩
  · rintro ⟨hkeyId, hsize, hlength, key, hkey, hheader⟩
    rw [← hheader]
    refine bind_eq_ok.mpr ⟨(), require_eq_ok.mpr hkeyId, ?_⟩
    refine bind_eq_ok.mpr ⟨(), require_eq_ok.mpr (decide_eq_true hsize), ?_⟩
    refine bind_eq_ok.mpr ⟨(), require_eq_ok.mpr (beq_iff_eq.mpr hlength), ?_⟩
    refine bind_eq_ok.mpr ⟨key, hkey, ?_⟩
    refine bind_eq_ok.mpr ⟨_, uploadNonce_eq_ok.mpr ⟨hlength, Nat.le_refl _, rfl⟩, ?_⟩
    refine bind_eq_ok.mpr ⟨(), require_eq_ok.mpr ?_, rfl⟩
    rw [env.aes.encrypt_length]
    rfl

/-!
# Reading a header back
-/

variable {key : Bytes} {length : Nat}

theorem keyIdChar_lt {c : Char} (h : (c.isAlphanum || c == '_' || c == '-') = true) :
    c.toNat < 128 := by
  simp only [Char.isAlphanum, Char.isAlpha, Char.isUpper, Char.isLower, Char.isDigit,
    Bool.or_eq_true, Bool.and_eq_true, decide_eq_true_eq, beq_iff_eq] at h
  rcases h with (((⟨_, hhi⟩ | ⟨_, hhi⟩) | ⟨_, hhi⟩) | heq) | heq
  · exact Nat.lt_of_le_of_lt (show c.toNat ≤ 90 from hhi) (by decide)
  · exact Nat.lt_of_le_of_lt (show c.toNat ≤ 122 from hhi) (by decide)
  · exact Nat.lt_of_le_of_lt (show c.toNat ≤ 57 from hhi) (by decide)
  · rw [heq]
    decide
  · rw [heq]
    decide

theorem decodeAscii_asciiBytes (h : isDataKeyId keyId = true) :
    decodeAscii (asciiBytes keyId) = Except.ok keyId := by
  simp only [isDataKeyId, Bool.and_eq_true, List.all_eq_true] at h
  have hchar : forall c, c ∈ keyId.toList -> (UInt8.ofNat c.toNat).toNat = c.toNat := by
    intro c hc
    rw [UInt8.toNat_ofNat']
    exact Nat.mod_eq_of_lt (Nat.lt_trans (keyIdChar_lt (h.2 c hc)) (by decide))
  unfold decodeAscii asciiBytes
  refine bind_eq_ok.mpr ⟨(), require_eq_ok.mpr ?_, pure_eq_ok.mpr ?_⟩
  · rw [List.all_map, List.all_eq_true]
    intro c hc
    exact decide_eq_true (by rw [hchar c hc]; exact keyIdChar_lt (h.2 c hc))
  · rw [map_map_cancel, String.ofList_toList]
    intro c hc
    rw [hchar c hc, Char.ofNat_toNat]

theorem isDataKeyId_length (h : isDataKeyId keyId = true) :
    1 ≤ (asciiBytes keyId).length ∧ (asciiBytes keyId).length ≤ 64 := by
  simp only [isDataKeyId, Bool.and_eq_true, decide_eq_true_eq] at h
  unfold asciiBytes
  rw [List.length_map]
  exact ⟨h.1.1, h.1.2⟩

theorem canonicalHeader_length {chunkSize : Nat} (h : noncePrefix.length = 8) :
    (canonicalHeader uploadId keyId plaintextSize chunkSize noncePrefix).length
      = 46 + (asciiBytes keyId).length := by
  simp only [canonicalHeader, uuidBytes, uploadEncryptionMagic, List.length_append,
    packBE_length, List.length_cons, List.length_nil, h]
  omega

theorem authenticateHeader_headerUnder (hkey : aesgcmForUpload env keyId uploadId = Except.ok key)
    (hlength : noncePrefix.length = 8) :
    authenticateHeader env (headerUnder env key uploadId keyId plaintextSize noncePrefix)
      = Except.ok () := by
  refine bind_eq_ok.mpr ⟨key, hkey, ?_⟩
  refine bind_eq_ok.mpr ⟨_, uploadNonce_eq_ok.mpr ⟨hlength, Nat.le_refl _, rfl⟩, ?_⟩
  exact bind_eq_ok.mpr ⟨[], orFail_eq_ok.mpr (env.aes.decrypt_encrypt _ _ _ _), rfl⟩

theorem uuidBytes_length (id : Uuid) : (uuidBytes id).length = 16 :=
  packBE_length 16 id.toNat

theorem uuid_of_uuidBytes (id : Uuid) :
    (BitVec.ofNat 128 (unpackBE (uuidBytes id)) : Uuid) = id := by
  unfold uuidBytes
  rw [unpackBE_packBE (Nat.lt_of_lt_of_le id.isLt (by decide)), BitVec.ofNat_toNat,
    BitVec.setWidth_eq]

theorem parseHeaderFields_headerUnder (hkeyId : isDataKeyId keyId = true)
    (hsize : plaintextSize ≤ uploadEncryptionMaxPlaintextSize) (hlength : noncePrefix.length = 8) :
    parseHeaderFields (headerUnder env key uploadId keyId plaintextSize noncePrefix).encoded
      = Except.ok (headerUnder env key uploadId keyId plaintextSize noncePrefix) := by
  let header := headerUnder env key uploadId keyId plaintextSize noncePrefix
  let count := (asciiBytes keyId).length
  have hcount : 1 ≤ count ∧ count ≤ 64 := isDataKeyId_length hkeyId
  have hcanonical : header.canonicalBytes.length = 46 + count := canonicalHeader_length hlength
  have htag : header.headerTag.length = 16 := env.aes.encrypt_length _ _ _ _
  have htotal : header.encoded.length = 62 + count := by
    rw [UploadEncryptionHeader.encoded, List.length_append, hcanonical, htag]
    omega
  -- The fields one after the other, each in front of the rest.
  obtain ⟨afterChunkSize, hafterChunkSize⟩ :
      exists rest, rest = noncePrefix ++ header.headerTag := ⟨_, rfl⟩
  obtain ⟨afterSize, hafterSize⟩ :
      exists rest, rest = packBE 4 uploadEncryptionChunkSize ++ afterChunkSize := ⟨_, rfl⟩
  obtain ⟨afterKey, hafterKey⟩ :
      exists rest, rest = packBE 8 plaintextSize ++ afterSize := ⟨_, rfl⟩
  obtain ⟨afterLength, hafterLength⟩ :
      exists rest, rest = asciiBytes keyId ++ afterKey := ⟨_, rfl⟩
  obtain ⟨afterId, hafterId⟩ : exists rest, rest = packBE 1 count ++ afterLength := ⟨_, rfl⟩
  obtain ⟨afterVersion, hafterVersion⟩ :
      exists rest, rest = uuidBytes uploadId ++ afterId := ⟨_, rfl⟩
  obtain ⟨afterMagic, hafterMagic⟩ :
      exists rest, rest = packBE 1 uploadEncryptionVersion ++ afterVersion := ⟨_, rfl⟩
  have hencoded : header.encoded = uploadEncryptionMagic ++ afterMagic := by
    show canonicalHeader _ _ _ _ _ ++ header.headerTag = _
    rw [hafterMagic, hafterVersion, hafterId, hafterLength, hafterKey, hafterSize,
      hafterChunkSize]
    simp only [canonicalHeader, List.append_assoc]
    rfl
  have hmagic : header.encoded.drop 8 = afterMagic := by
    rw [hencoded]
    exact List.drop_left' rfl
  have hversion : afterMagic.drop 1 = afterVersion := by
    rw [hafterMagic]
    exact List.drop_left' (packBE_length 1 _)
  have hid : afterVersion.drop 16 = afterId := by
    rw [hafterVersion]
    exact List.drop_left' (packBE_length 16 _)
  have hcountBack : unpackBE (afterId.take 1) = count := by
    rw [hafterId, List.take_left' (packBE_length 1 _)]
    exact unpackBE_packBE (Nat.lt_of_le_of_lt hcount.2 (by decide))
  have hkeyLength : afterId.drop 1 = afterLength := by
    rw [hafterId]
    exact List.drop_left' (packBE_length 1 _)
  have hkeyBytes : afterLength.drop count = afterKey := by
    rw [hafterLength]
    exact List.drop_left' rfl
  have hsizeBack : unpackBE (afterKey.take 8) = plaintextSize := by
    rw [hafterKey, List.take_left' (packBE_length 8 _)]
    exact unpackBE_packBE (Nat.lt_of_le_of_lt hsize (by decide))
  have hsizeBytes : afterKey.drop 8 = afterSize := by
    rw [hafterKey]
    exact List.drop_left' (packBE_length 8 _)
  have hchunkBack : unpackBE (afterSize.take 4) = uploadEncryptionChunkSize := by
    rw [hafterSize, List.take_left' (packBE_length 4 _)]
    exact unpackBE_packBE (by decide)
  have hchunkBytes : afterSize.drop 4 = afterChunkSize := by
    rw [hafterSize]
    exact List.drop_left' (packBE_length 4 _)
  change parseHeaderFields header.encoded = Except.ok header
  unfold parseHeaderFields
  dsimp only
  rw [hmagic, hversion, hid, hcountBack, hkeyLength, hkeyBytes, hsizeBack, hsizeBytes,
    hchunkBack, hchunkBytes]
  refine bind_eq_ok.mpr ⟨(), require_eq_ok.mpr ?_, ?_⟩
  · rw [htotal, Bool.and_eq_true]
    constructor
    · exact decide_eq_true (Nat.add_le_add_left hcount.1 62)
    · exact decide_eq_true (Nat.add_le_add_left hcount.2 62)
  refine bind_eq_ok.mpr ⟨(), require_eq_ok.mpr ?_, ?_⟩
  · rw [hencoded, List.take_left' (show uploadEncryptionMagic.length = 8 from rfl)]
    rfl
  refine bind_eq_ok.mpr ⟨(), require_eq_ok.mpr ?_, ?_⟩
  · rw [hafterMagic, List.take_left' (packBE_length 1 _)]
    decide
  refine bind_eq_ok.mpr ⟨(), require_eq_ok.mpr ?_, ?_⟩
  · rw [Bool.and_eq_true]
    exact ⟨decide_eq_true hcount.1, decide_eq_true hcount.2⟩
  refine bind_eq_ok.mpr ⟨(), require_eq_ok.mpr ?_, ?_⟩
  · rw [htotal, beq_iff_eq]
    show 62 + count = 26 + count + 20 + 16
    omega
  refine bind_eq_ok.mpr ⟨keyId, ?_, ?_⟩
  · rw [hafterLength, List.take_left' rfl]
    exact decodeAscii_asciiBytes hkeyId
  refine bind_eq_ok.mpr ⟨(), require_eq_ok.mpr hkeyId, ?_⟩
  refine bind_eq_ok.mpr ⟨(), require_eq_ok.mpr (decide_eq_true hsize), ?_⟩
  refine bind_eq_ok.mpr ⟨(), require_eq_ok.mpr (by decide), pure_eq_ok.mpr ?_⟩
  have hfront : header.canonicalBytes.length
      = headerPrefixSize + count + headerSuffixWithoutTagSize := by
    rw [hcanonical]
    show 46 + count = 26 + count + 20
    omega
  have hidBack : (BitVec.ofNat 128 (unpackBE (afterVersion.take 16)) : Uuid) = uploadId := by
    rw [hafterVersion, List.take_left' (uuidBytes_length uploadId)]
    exact uuid_of_uuidBytes uploadId
  have hnonceSize : afterChunkSize.take uploadEncryptionNoncePrefixSize = noncePrefix := by
    rw [hafterChunkSize]
    exact List.take_left' hlength
  have hcanonicalBack : header.encoded.take
      (headerPrefixSize + count + headerSuffixWithoutTagSize) = header.canonicalBytes :=
    List.take_left' hfront
  have htagBack : (header.encoded.drop
      (headerPrefixSize + count + headerSuffixWithoutTagSize)).take uploadEncryptionTagSize
        = header.headerTag := by
    rw [UploadEncryptionHeader.encoded, List.drop_left' hfront]
    exact List.take_of_length_le (Nat.le_of_eq htag)
  rw [hidBack, hnonceSize, hcanonicalBack, htagBack]
  rfl

theorem readExact_append {front : Bytes} (h : front.length = length) (rest : Bytes) :
    readExact (front ++ rest) length = Except.ok (front, rest) := by
  unfold readExact
  refine bind_eq_ok.mpr ⟨(), require_eq_ok.mpr (decide_eq_true ?_), pure_eq_ok.mpr ?_⟩
  · rw [List.length_append, h]
    exact Nat.le_add_right length rest.length
  · rw [List.take_left' h, List.drop_left' h]

/-- The header of a well-formed file is accepted unless another upload or key is expected. -/
theorem readUploadEncryptionHeader_headerUnder (hkeyId : isDataKeyId keyId = true)
    (hsize : plaintextSize ≤ uploadEncryptionMaxPlaintextSize) (hlength : noncePrefix.length = 8)
    (hkey : aesgcmForUpload env keyId uploadId = Except.ok key) (rest : Bytes)
    (expectedUploadId : Option Uuid) (expectedKeyId : Option String) :
    readUploadEncryptionHeader env
        ((headerUnder env key uploadId keyId plaintextSize noncePrefix).encoded ++ rest)
        expectedUploadId expectedKeyId
      = checkExpected expectedUploadId expectedKeyId uploadId keyId >>= fun _ =>
          pure (headerUnder env key uploadId keyId plaintextSize noncePrefix, rest) := by
  let header := headerUnder env key uploadId keyId plaintextSize noncePrefix
  let count := (asciiBytes keyId).length
  have hcount := isDataKeyId_length hkeyId
  obtain ⟨beforeLength, hbeforeLength⟩ : exists front, front =
      uploadEncryptionMagic ++ (packBE 1 uploadEncryptionVersion ++ uuidBytes uploadId) :=
    ⟨_, rfl⟩
  obtain ⟨tail, htail⟩ : exists tail, tail = asciiBytes keyId ++ (packBE 8 plaintextSize ++
      (packBE 4 uploadEncryptionChunkSize ++ (noncePrefix ++ header.headerTag))) := ⟨_, rfl⟩
  have hbefore : beforeLength.length = 25 := by
    rw [hbeforeLength, List.length_append, List.length_append, packBE_length, uuidBytes_length]
    rfl
  have hfront : (beforeLength ++ packBE 1 count).length = headerPrefixSize := by
    rw [List.length_append, hbefore, packBE_length]
    rfl
  have htag : header.headerTag.length = 16 := env.aes.encrypt_length _ _ _ _
  have htailLength : tail.length
      = count + headerSuffixWithoutTagSize + uploadEncryptionTagSize := by
    rw [htail]
    simp only [List.length_append, packBE_length, hlength, htag]
    rfl
  have hencoded : header.encoded = beforeLength ++ packBE 1 count ++ tail := by
    show canonicalHeader _ _ _ _ _ ++ header.headerTag = _
    rw [hbeforeLength, htail]
    simp only [canonicalHeader, List.append_assoc]
    rfl
  have hback : unpackBE ((beforeLength ++ packBE 1 count).drop 25) = count := by
    rw [List.drop_left' hbefore]
    exact unpackBE_packBE (Nat.lt_of_le_of_lt hcount.2 (by decide))
  change readUploadEncryptionHeader env (header.encoded ++ rest) _ _ = _
  have hreadFront := readExact_append hfront (tail ++ rest)
  rw [← List.append_assoc, ← hencoded] at hreadFront
  unfold readUploadEncryptionHeader
  rw [hreadFront, ok_bind]
  dsimp only
  rw [hback, require_pos (by
    rw [Bool.and_eq_true]
    exact ⟨decide_eq_true hcount.1, decide_eq_true hcount.2⟩), ok_bind,
    readExact_append htailLength rest, ok_bind, ← hencoded]
  unfold parseUploadEncryptionHeader
  rw [parseHeaderFields_headerUnder hkeyId hsize hlength, ok_bind]
  show ((checkExpected expectedUploadId expectedKeyId uploadId keyId >>= fun _ => _) >>= _) = _
  rw [authenticateHeader_headerUnder hkey hlength]
  cases checkExpected expectedUploadId expectedKeyId uploadId keyId <;> rfl

/-!
# Reading the frames back
-/

variable {remaining index : Nat} {data : Bytes}

variable {chunk : Bytes} {fuel : Nat}

theorem decryptFrame_frameBytes (hnonceSize : header.noncePrefix.length = 8)
    (hindex : index ≤ uploadEncryptionMaxChunkCounter)
    (hchunk : chunk.length = min header.chunkSize remaining)
    (hbound : chunk.length ≤ uploadEncryptionChunkSize) (rest : Bytes) :
    decryptFrame env strict header key remaining index
        (frameBytes env header key index chunk ++ rest) = Except.ok (chunk, rest) := by
  let cipher := env.aes.encrypt key (header.noncePrefix ++ packBE 4 index) chunk
    (chunkAad env header index chunk.length)
  have hcipher : cipher.length = chunk.length + uploadEncryptionTagSize :=
    env.aes.encrypt_length _ _ _ _
  have hfront : (packBE 4 index ++ packBE 4 chunk.length).length = frameHeaderSize := by
    rw [List.length_append, packBE_length, packBE_length]
    rfl
  have hsource : frameBytes env header key index chunk ++ rest
      = packBE 4 index ++ packBE 4 chunk.length ++ (cipher ++ rest) := by
    simp only [frameBytes, List.append_assoc]
    rfl
  have hindexLt : index < 256 ^ 4 := Nat.lt_of_le_of_lt hindex (by decide)
  have hlengthLt : chunk.length < 256 ^ 4 := Nat.lt_of_le_of_lt hbound (by decide)
  have hindexBack : unpackBE ((packBE 4 index ++ packBE 4 chunk.length).take 4) = index := by
    rw [List.take_left' (packBE_length 4 index)]
    exact unpackBE_packBE hindexLt
  have hlengthBack :
      unpackBE ((packBE 4 index ++ packBE 4 chunk.length).drop 4) = chunk.length := by
    rw [List.drop_left' (packBE_length 4 index)]
    exact unpackBE_packBE hlengthLt
  have hnonce : uploadNonce header.noncePrefix index
      = Except.ok (header.noncePrefix ++ packBE 4 index) :=
    uploadNonce_eq_ok.mpr ⟨hnonceSize, Nat.le_of_lt_succ hindexLt, rfl⟩
  unfold decryptFrame
  rw [require_pos (by rw [decide_eq_true hindex, Bool.or_true]), ok_bind, hsource,
    readExact_append hfront, ok_bind]
  dsimp only
  rw [hindexBack, hlengthBack, require_pos (by
    rw [Bool.and_eq_true]
    exact ⟨beq_self_eq_true index, beq_iff_eq.mpr hchunk⟩), ok_bind,
    readExact_append hcipher, ok_bind, hnonce, ok_bind, env.aes.decrypt_encrypt]
  show (require (!strict || chunk.length == chunk.length) _ >>= _) = _
  rw [require_pos (by rw [beq_self_eq_true, Bool.or_true]), ok_bind]
  rfl

/-- The loop hands the pieces of the plaintext to its consumer. -/
theorem foldFrames_framesFrom {σ : Type} {consume : σ -> Bytes -> Except UploadFault σ}
    (hnonceSize : header.noncePrefix.length = 8)
    (hchunkSize : header.chunkSize = uploadEncryptionChunkSize) (data : Bytes)
    (hfuel : data.length ≤ fuel) (hcount : index + (pieces uploadEncryptionChunkSize data).length
      ≤ uploadEncryptionMaxChunkCounter + 1) (acc : σ) :
    foldFrames env strict header key consume fuel data.length index
        (framesFrom env header key index (pieces uploadEncryptionChunkSize data)) acc
      = (pieces uploadEncryptionChunkSize data).foldlM consume acc := by
  have hpos : 0 < uploadEncryptionChunkSize := by decide
  induction data using pieces_induct hpos generalizing fuel index acc with
  | nil =>
      cases fuel <;> rfl
  | step data hdata ih =>
      obtain ⟨remaining, hremaining⟩ : exists remaining, data.length = remaining + 1 :=
        Nat.exists_eq_succ_of_ne_zero (fun hzero => hdata (List.eq_nil_of_length_eq_zero hzero))
      obtain ⟨rounds, hrounds⟩ : exists rounds, fuel = rounds + 1 :=
        Nat.exists_eq_succ_of_ne_zero (by omega)
      rw [pieces_cons hpos hdata] at hcount ⊢
      rw [List.length_cons] at hcount
      have hchunk : (data.take uploadEncryptionChunkSize).length
          = min header.chunkSize (remaining + 1) := by
        rw [List.length_take, hchunkSize, hremaining]
      have hrest : remaining + 1 - min header.chunkSize (remaining + 1)
          = (data.drop uploadEncryptionChunkSize).length := by
        rw [List.length_drop, hchunkSize, hremaining]
        omega
      have hdropLe : (data.drop uploadEncryptionChunkSize).length ≤ rounds := by
        rw [List.length_drop]
        omega
      rw [hrounds, hremaining, List.foldlM_cons]
      unfold foldFrames framesFrom
      rw [decryptFrame_frameBytes hnonceSize (by omega) hchunk (List.length_take_le _ _), ok_bind,
        hrest]
      congr 1
      funext acc
      exact ih hdropLe (by omega) acc

/-- The bytes of the pieces, collected. -/
theorem foldlM_collect (chunks : List Bytes) (acc : Bytes) :
    chunks.foldlM (fun (acc : Bytes) chunk => (pure (acc ++ chunk) : Except UploadFault Bytes))
      acc = Except.ok (acc ++ chunks.flatten) := by
  induction chunks generalizing acc with
  | nil =>
      rw [List.flatten_nil, List.append_nil]
      rfl
  | cons chunk chunks ih =>
      rw [List.foldlM_cons, List.flatten_cons, ← List.append_assoc]
      exact ih (acc ++ chunk)

/-- The bound on the plaintext keeps the counter of the frames in its range. -/
theorem length_pieces_le (h : data.length ≤ uploadEncryptionMaxPlaintextSize) :
    (pieces uploadEncryptionChunkSize data).length ≤ uploadEncryptionMaxChunkCounter + 1 := by
  have hpos : 0 < uploadEncryptionChunkSize := by decide
  have hlt := length_pieces_mul_lt hpos data
  simp only [uploadEncryptionChunkSize, uploadEncryptionMaxPlaintextSize,
    uploadEncryptionMaxChunkCounter] at hlt h ⊢
  omega

/-!
# Readers of well-formed files
-/

theorem checkExpected_eq_ok {u : Unit} :
    checkExpected (some uploadId) expectedKeyId uploadId keyId = Except.ok u ↔
      forall id, expectedKeyId = some id -> id = keyId := by
  simp [checkExpected, bind_eq_ok, require_eq_ok, Option.all_eq_true]

namespace IsUploadFile

variable {uploadId : Uuid} {keyId : String} {data file : Bytes}

section

variable (h : IsUploadFile env uploadId keyId data file)
include h

/-- What the two decoders do with a well-formed file. -/
theorem fold :
    exists header : UploadEncryptionHeader, header.keyId = keyId ∧
      header.plaintextSize = data.length ∧
      forall {σ : Type} (strict : Bool) expectedKeyId
        (consume : σ -> Bytes -> Except UploadFault σ) (acc : σ),
        (forall id, expectedKeyId = some id -> id = keyId) ->
        foldUploadFile env strict file (some uploadId) expectedKeyId data.length consume acc
          = (pieces uploadEncryptionChunkSize data).foldlM consume acc >>= fun acc =>
              pure (header, acc) := by
  rcases h.bytes with ⟨key, noncePrefix, hkey, hlength, hfile⟩
  refine ⟨headerUnder env key uploadId keyId data.length noncePrefix, rfl, rfl, ?_⟩
  intro σ strict expectedKeyId consume acc hexpected
  have hcount : 0 + (pieces uploadEncryptionChunkSize data).length
      ≤ uploadEncryptionMaxChunkCounter + 1 := by
    rw [Nat.zero_add]
    exact length_pieces_le h.sizeOk
  have hnonceSize : (headerUnder env key uploadId keyId data.length noncePrefix).noncePrefix.length
      = 8 := hlength
  unfold foldUploadFile
  rw [hfile, readUploadEncryptionHeader_headerUnder h.keyIdOk h.sizeOk hlength hkey,
    (checkExpected_eq_ok (u := ())).mpr hexpected, ok_bind]
  show (require (data.length == data.length) _ >>= fun _ =>
    aesgcmForUpload env keyId uploadId >>= fun key => _) = _
  rw [require_pos (beq_self_eq_true _), ok_bind, hkey, ok_bind]
  show (foldFrames env strict _ key consume data.length data.length 0 _ acc >>= _) = _
  rw [foldFrames_framesFrom hnonceSize rfl data (Nat.le_refl _) hcount acc]

theorem readHeader :
    exists (header : UploadEncryptionHeader) (rest : Bytes), header.uploadId = uploadId ∧
      header.keyId = keyId ∧ header.plaintextSize = data.length ∧
      forall expectedUploadId expectedKeyId,
        readUploadEncryptionHeader env file expectedUploadId expectedKeyId
          = checkExpected expectedUploadId expectedKeyId uploadId keyId >>= fun _ =>
              pure (header, rest) := by
  rcases h.bytes with ⟨key, noncePrefix, hkey, hlength, hfile⟩
  let header := headerUnder env key uploadId keyId data.length noncePrefix
  refine ⟨header, framesFrom env header key 0 (pieces uploadEncryptionChunkSize data), rfl, rfl,
    rfl, ?_⟩
  intro expectedUploadId expectedKeyId
  rw [hfile]
  exact readUploadEncryptionHeader_headerUnder h.keyIdOk h.sizeOk hlength hkey _ _ _

/-- A file belongs to one upload. -/
theorem uploadId_unique {otherId : Uuid} {otherKey : String} {otherData : Bytes}
    (hother : IsUploadFile env otherId otherKey otherData file) : uploadId = otherId := by
  rcases h.readHeader with ⟨header, rest, hid, _, _, hread⟩
  rcases hother.readHeader with ⟨header', rest', hid', _, _, hread'⟩
  have hsame : (Except.ok (header, rest) : Except UploadFault _) = Except.ok (header', rest') :=
    (hread none none).symm.trans (hread' none none)
  rw [← hid, ← hid', (Prod.mk.inj (Except.ok.inj hsame)).1]

theorem magic :
    fileHasEncryptedUploadMagic file = true := by
  rcases h.bytes with ⟨key, noncePrefix, _, _, hfile⟩
  rw [hfile]
  unfold fileHasEncryptedUploadMagic
  show (List.take 8 (uploadEncryptionMagic ++ _ ++ _ ++ _) == uploadEncryptionMagic) = true
  rw [List.append_assoc, List.append_assoc,
    List.take_left' (show uploadEncryptionMagic.length = 8 from rfl)]
  rfl

theorem validate
    (hexpected : forall id, expectedKeyId = some id -> id = keyId)
    (hchecksum : checksumMatches env checksum data = true) :
    exists header : UploadEncryptionHeader, header.keyId = keyId ∧
      validateEncryptedUploadFile env file uploadId expectedKeyId data.length checksum
        = Except.ok header := by
  rcases h.fold with ⟨header, hkeyId, hsize, hfold⟩
  refine ⟨header, hkeyId, ?_⟩
  unfold validateEncryptedUploadFile
  rw [hfold true _ _ _ hexpected, foldlM_collect, flatten_pieces (by decide)]
  show (require (data.length == header.plaintextSize) _ >>= fun _ =>
    require (checksumMatches env checksum data) _ >>= fun _ => pure header) = _
  rw [hsize, require_pos (beq_self_eq_true _), ok_bind, require_pos hchecksum]
  rfl

/-- The download streams the data, unless another key is expected. -/
theorem decrypted_eq_ok
    (hexpected : forall id, expectedKeyId = some id -> id = keyId) :
    decryptedUpload env file uploadId expectedKeyId data.length = Except.ok data := by
  rcases h.fold with ⟨header, _, _, hfold⟩
  unfold decryptedUpload
  rw [hfold false _ _ _ hexpected, foldlM_collect, flatten_pieces (by decide)]
  rfl

end

end IsUploadFile

/-!
# Writers
-/

variable {writer : UploadWriter} {file : Bytes}

/-- A writer that has written some pieces. -/
def UploadWriter.after (env : UploadCrypto) (writer : UploadWriter) (chunks : List Bytes) :
    UploadWriter where
  encryptor :=
    { writer.encryptor with
      nextIndex := writer.encryptor.nextIndex + chunks.length
      totalPlaintext := writer.encryptor.totalPlaintext + chunks.flatten.length }
  plaintext := writer.plaintext ++ chunks.flatten
  written := writer.written ++ framesFrom env writer.encryptor.header writer.encryptor.key
    writer.encryptor.nextIndex chunks

theorem UploadWriter.write_eq_ok {written : UploadWriter}
    (hnonceSize : writer.encryptor.header.noncePrefix.length = 8) :
    writer.write env chunk = Except.ok written ↔
      chunk ≠ [] ∧ chunk.length ≤ writer.encryptor.header.chunkSize ∧
      writer.encryptor.nextIndex ≤ uploadEncryptionMaxChunkCounter ∧
      writer.encryptor.totalPlaintext + chunk.length
        ≤ writer.encryptor.header.plaintextSize ∧
      writer.after env [chunk] = written := by
  have hafter : writer.after env [chunk] =
      { encryptor :=
          { writer.encryptor with
            nextIndex := writer.encryptor.nextIndex + 1
            totalPlaintext := writer.encryptor.totalPlaintext + chunk.length }
        plaintext := writer.plaintext ++ chunk
        written := writer.written ++ frameBytes env writer.encryptor.header
          writer.encryptor.key writer.encryptor.nextIndex chunk } := by
    simp only [UploadWriter.after, framesFrom, List.flatten_cons, List.flatten_nil,
      List.append_nil, List.length_cons, List.length_nil]
  rw [hafter]
  constructor
  · intro h
    rcases bind_eq_ok.mp h with ⟨frame, hframe, h⟩
    rcases bind_eq_ok.mp hframe with ⟨_, hchunk, hframe⟩
    rcases bind_eq_ok.mp hframe with ⟨_, hindex, hframe⟩
    rcases bind_eq_ok.mp hframe with ⟨_, htotal, hframe⟩
    rcases bind_eq_ok.mp hframe with ⟨nonce, hnonce, hframe⟩
    rcases Bool.and_eq_true_iff.mp (require_eq_ok.mp hchunk) with ⟨hne, hsize⟩
    rw [← pure_eq_ok.mp h, ← pure_eq_ok.mp hframe, ← (uploadNonce_eq_ok.mp hnonce).2.2]
    exact ⟨bne_iff_ne.mp hne, of_decide_eq_true hsize,
      of_decide_eq_true (require_eq_ok.mp hindex), of_decide_eq_true (require_eq_ok.mp htotal),
      rfl⟩
  · rintro ⟨hne, hsize, hindex, htotal, hwritten⟩
    have hcounter : writer.encryptor.nextIndex ≤ 0xffffffff :=
      Nat.le_trans hindex (by decide)
    unfold UploadWriter.write encryptChunk
    rw [← hwritten, require_pos (by
      rw [Bool.and_eq_true]
      exact ⟨bne_iff_ne.mpr hne, decide_eq_true hsize⟩), ok_bind,
      require_pos (decide_eq_true hindex), ok_bind, require_pos (decide_eq_true htotal), ok_bind,
      uploadNonce_eq_ok.mpr ⟨hnonceSize, hcounter, rfl⟩]
    rfl

theorem framesFrom_append (header : UploadEncryptionHeader) (key : Bytes) (index : Nat)
    (chunks rest : List Bytes) :
    framesFrom env header key index (chunks ++ rest) = framesFrom env header key index chunks
      ++ framesFrom env header key (index + chunks.length) rest := by
  induction chunks generalizing index with
  | nil => rfl
  | cons chunk chunks ih =>
      rw [List.cons_append, framesFrom, framesFrom, ih, List.append_assoc, List.length_cons,
        Nat.add_assoc, Nat.add_comm 1]

theorem UploadWriter.after_append (writer : UploadWriter) (chunks rest : List Bytes) :
    (writer.after env chunks).after env rest = writer.after env (chunks ++ rest) := by
  simp only [UploadWriter.after, framesFrom_append, List.flatten_append, List.length_append,
    List.append_assoc, Nat.add_assoc]

/-- The pieces are written one after the other. -/
theorem UploadWriter.foldlM_write {chunks : List Bytes}
    (hnonceSize : writer.encryptor.header.noncePrefix.length = 8)
    (hchunks : forall chunk, chunk ∈ chunks ->
      chunk ≠ [] ∧ chunk.length ≤ writer.encryptor.header.chunkSize)
    (hindex : writer.encryptor.nextIndex + chunks.length
      ≤ uploadEncryptionMaxChunkCounter + 1)
    (htotal : writer.encryptor.totalPlaintext + chunks.flatten.length
      ≤ writer.encryptor.header.plaintextSize) :
    chunks.foldlM (UploadWriter.write env) writer = Except.ok (writer.after env chunks) := by
  induction chunks generalizing writer with
  | nil =>
      simp only [UploadWriter.after, framesFrom, List.flatten_nil, List.append_nil,
        List.length_nil, Nat.add_zero]
      rfl
  | cons chunk chunks ih =>
      rw [List.length_cons] at hindex
      rw [List.flatten_cons, List.length_append] at htotal
      rcases hchunks chunk List.mem_cons_self with ⟨hne, hchunk⟩
      have hwrite : writer.write env chunk = Except.ok (writer.after env [chunk]) :=
        (UploadWriter.write_eq_ok hnonceSize).mpr ⟨hne, hchunk, by omega, by omega, rfl⟩
      have hnonceSizeAfter : (writer.after env [chunk]).encryptor.header.noncePrefix.length = 8 :=
        hnonceSize
      have hafter : writer.after env (chunk :: chunks)
          = (writer.after env [chunk]).after env chunks :=
        (UploadWriter.after_append writer [chunk] chunks).symm
      rw [List.foldlM_cons, hwrite, ok_bind, hafter]
      refine ih hnonceSizeAfter (fun c hc => hchunks c (List.mem_cons_of_mem chunk hc)) ?_ ?_
      · show writer.encryptor.nextIndex + 1 + chunks.length ≤ _
        omega
      · show writer.encryptor.totalPlaintext + [chunk].flatten.length + chunks.flatten.length ≤ _
        rw [List.flatten_cons, List.flatten_nil, List.append_nil]
        exact Nat.le_trans (Nat.le_of_eq (Nat.add_assoc _ _ _)) htotal

theorem openUploadWriter_eq_ok :
    openUploadWriter env uploadId keyId plaintextSize noncePrefix = Except.ok writer ↔
      isDataKeyId keyId = true ∧ plaintextSize ≤ uploadEncryptionMaxPlaintextSize ∧
      noncePrefix.length = 8 ∧ exists key, aesgcmForUpload env keyId uploadId = Except.ok key ∧
        { encryptor :=
            { header := headerUnder env key uploadId keyId plaintextSize noncePrefix
              key := key
              nextIndex := 0
              totalPlaintext := 0 }
          plaintext := []
          written := (headerUnder env key uploadId keyId plaintextSize noncePrefix).encoded }
            = writer := by
  unfold openUploadWriter newUploadChunkEncryptor
  constructor
  · intro h
    rcases bind_eq_ok.mp h with ⟨encryptor, hencryptor, h⟩
    rcases bind_eq_ok.mp hencryptor with ⟨header, hheader, hencryptor⟩
    rcases bind_eq_ok.mp hencryptor with ⟨key, hkey, hencryptor⟩
    rcases buildUploadEncryptionHeader_eq_ok.mp hheader with
      ⟨hkeyId, hsize, hlength, headerKey, hheaderKey, heq⟩
    have hsame : headerKey = key := Except.ok.inj (hheaderKey.symm.trans hkey)
    rw [← pure_eq_ok.mp h, ← pure_eq_ok.mp hencryptor, ← heq, hsame]
    exact ⟨hkeyId, hsize, hlength, key, hkey, rfl⟩
  · rintro ⟨hkeyId, hsize, hlength, key, hkey, hwriter⟩
    rw [buildUploadEncryptionHeader_eq_ok.mpr ⟨hkeyId, hsize, hlength, key, hkey, rfl⟩, ok_bind,
      hkey, ok_bind, ← hwriter]
    rfl

/-- A new writer that has written the pieces of all its plaintext. -/
theorem openUploadWriter_write (hkeyId : isDataKeyId keyId = true)
    (hsize : data.length ≤ uploadEncryptionMaxPlaintextSize) (hlength : noncePrefix.length = 8)
    (hkey : aesgcmForUpload env keyId uploadId = Except.ok key) :
    exists writer closing, openUploadWriter env uploadId keyId data.length noncePrefix
        = Except.ok writer ∧
      (pieces uploadEncryptionChunkSize data).foldlM (UploadWriter.write env) writer
        = Except.ok closing ∧
      closing.plaintext = data ∧ IsUploadFile env uploadId keyId data closing.written ∧
      finalizeEncryptor closing.encryptor = Except.ok () := by
  have hpos : 0 < uploadEncryptionChunkSize := by decide
  let writer : UploadWriter :=
    { encryptor :=
        { header := headerUnder env key uploadId keyId data.length noncePrefix
          key := key
          nextIndex := 0
          totalPlaintext := 0 }
      plaintext := []
      written := (headerUnder env key uploadId keyId data.length noncePrefix).encoded }
  have hopen : openUploadWriter env uploadId keyId data.length noncePrefix = Except.ok writer :=
    openUploadWriter_eq_ok.mpr ⟨hkeyId, hsize, hlength, key, hkey, rfl⟩
  have hflat := flatten_pieces hpos data
  have hnonceSize : writer.encryptor.header.noncePrefix.length = 8 := hlength
  have hwrite : (pieces uploadEncryptionChunkSize data).foldlM (UploadWriter.write env) writer
      = Except.ok (writer.after env (pieces uploadEncryptionChunkSize data)) := by
    refine UploadWriter.foldlM_write hnonceSize (fun chunk hchunk => mem_pieces hpos hchunk) ?_ ?_
    · exact Nat.le_trans (Nat.le_of_eq (Nat.zero_add _)) (length_pieces_le hsize)
    · rw [hflat]
      exact Nat.le_of_eq (Nat.zero_add _)
  refine ⟨writer, _, hopen, hwrite, ?_, ?_, ?_⟩
  · show [] ++ (pieces uploadEncryptionChunkSize data).flatten = data
    rw [hflat, List.nil_append]
  · exact ⟨hkeyId, hsize, key, noncePrefix, hkey, hlength, rfl⟩
  · refine require_eq_ok.mpr (beq_iff_eq.mpr ?_)
    show 0 + (pieces uploadEncryptionChunkSize data).flatten.length = data.length
    rw [hflat, Nat.zero_add]

theorem UploadWriter.close_eq_ok {sizeMessage checksumMessage : String}
    (hfinal : finalizeEncryptor writer.encryptor = Except.ok ()) (hdata : writer.plaintext = data)
    (hchecksum : checksumMatches env checksum data = true) :
    writer.close env data.length checksum sizeMessage checksumMessage
      = Except.ok writer.written := by
  unfold UploadWriter.close
  rw [hfinal, ok_bind, hdata, require_pos (beq_self_eq_true _), ok_bind, require_pos hchecksum]
  rfl

theorem encryptPlaintextFile_eq_ok (hkeyId : isDataKeyId keyId = true)
    (hsize : data.length ≤ uploadEncryptionMaxPlaintextSize) (hlength : noncePrefix.length = 8)
    (hkey : aesgcmForUpload env keyId uploadId = Except.ok key)
    (hchecksum : checksumMatches env checksum data = true) :
    exists file, encryptPlaintextFile env data uploadId keyId data.length checksum noncePrefix
        = Except.ok file ∧ IsUploadFile env uploadId keyId data file := by
  rcases openUploadWriter_write hkeyId hsize hlength hkey with
    ⟨writer, closing, hopen, hwrite, hplain, hfile, hfinal⟩
  refine ⟨closing.written, ?_, hfile⟩
  unfold encryptPlaintextFile
  rw [hopen, ok_bind, hwrite, ok_bind]
  exact UploadWriter.close_eq_ok hfinal hplain hchecksum

theorem IsUploadFile.reencrypt {keyId target : String}
    (h : IsUploadFile env uploadId keyId data file) (htarget : isDataKeyId target = true)
    (hlength : noncePrefix.length = 8)
    (hkey : aesgcmForUpload env target uploadId = Except.ok key)
    (hchecksum : checksumMatches env checksum data = true) :
    exists rotated, reencryptUploadFile env file uploadId keyId target data.length checksum
        noncePrefix = Except.ok rotated ∧ IsUploadFile env uploadId target data rotated := by
  rcases openUploadWriter_write htarget h.sizeOk hlength hkey with
    ⟨writer, closing, hopen, hwrite, hplain, hfile, hfinal⟩
  rcases h.fold with ⟨header, _, _, hfold⟩
  refine ⟨closing.written, ?_, hfile⟩
  unfold reencryptUploadFile
  rw [hopen, ok_bind, hfold true _ _ _ (fun _ hid => (Option.some.inj hid).symm), hwrite, ok_bind]
  exact UploadWriter.close_eq_ok hfinal hplain hchecksum

/-!
# Accepted files

The frames alone are as long as the plaintext that they declare.
-/

variable {source : Bytes}

theorem readExact_eq_ok {read : Bytes × Bytes} (h : readExact source length = Except.ok read) :
    source.length = length + read.2.length := by
  rcases bind_eq_ok.mp h with ⟨_, hle, h⟩
  have hle := of_decide_eq_true (require_eq_ok.mp hle)
  rw [← pure_eq_ok.mp h, List.length_drop]
  omega

theorem decryptFrame_consumes {frame : Bytes × Bytes}
    (h : decryptFrame env strict header key remaining index source = Except.ok frame) :
    min header.chunkSize remaining + frame.2.length ≤ source.length := by
  rcases bind_eq_ok.mp h with ⟨_, _, h⟩
  rcases bind_eq_ok.mp h with ⟨front, hfront, h⟩
  rcases bind_eq_ok.mp h with ⟨_, hcheck, h⟩
  rcases bind_eq_ok.mp h with ⟨body, hbody, h⟩
  rcases bind_eq_ok.mp h with ⟨nonce, _, h⟩
  rcases bind_eq_ok.mp h with ⟨plaintext, _, h⟩
  rcases bind_eq_ok.mp h with ⟨_, _, h⟩
  have hlength := beq_iff_eq.mp (Bool.and_eq_true_iff.mp (require_eq_ok.mp hcheck)).2
  have hfront := readExact_eq_ok hfront
  have hbody := readExact_eq_ok hbody
  rw [← pure_eq_ok.mp h, ← hlength]
  show unpackBE (front.1.drop 4) + body.2.length ≤ source.length
  omega

theorem foldFrames_consumes {σ : Type} {consume : σ -> Bytes -> Except UploadFault σ}
    {acc result : σ} (h : foldFrames env strict header key consume fuel remaining index source acc
      = Except.ok result) : remaining ≤ source.length := by
  induction fuel generalizing remaining index source acc with
  | zero =>
      cases remaining with
      | zero => exact Nat.zero_le _
      | succ remaining => cases h
  | succ fuel ih =>
      cases remaining with
      | zero => exact Nat.zero_le _
      | succ remaining =>
          unfold foldFrames at h
          rcases bind_eq_ok.mp h with ⟨frame, hframe, h⟩
          rcases bind_eq_ok.mp h with ⟨next, _, h⟩
          have hrest := ih h
          have hconsumes := decryptFrame_consumes hframe
          omega

theorem parseHeaderFields_size {encoded : Bytes}
    (h : parseHeaderFields encoded = Except.ok header) :
    header.plaintextSize ≤ uploadEncryptionMaxPlaintextSize := by
  rcases bind_eq_ok.mp h with ⟨_, _, h⟩
  rcases bind_eq_ok.mp h with ⟨_, _, h⟩
  rcases bind_eq_ok.mp h with ⟨_, _, h⟩
  rcases bind_eq_ok.mp h with ⟨_, _, h⟩
  rcases bind_eq_ok.mp h with ⟨_, _, h⟩
  rcases bind_eq_ok.mp h with ⟨keyId, _, h⟩
  rcases bind_eq_ok.mp h with ⟨_, _, h⟩
  rcases bind_eq_ok.mp h with ⟨_, hsize, h⟩
  rcases bind_eq_ok.mp h with ⟨_, _, h⟩
  rw [← pure_eq_ok.mp h]
  exact decide_eq_true_eq.mp (require_eq_ok.mp hsize)

/-- An accepted file is longer than its plaintext, which is within the bound. -/
theorem foldUploadFile_bounds {σ : Type} {expectedUploadId : Option Uuid}
    {expectedPlaintextSize : Nat} {consume : σ -> Bytes -> Except UploadFault σ} {acc : σ}
    {read : UploadEncryptionHeader × σ}
    (h : foldUploadFile env strict file expectedUploadId expectedKeyId expectedPlaintextSize
      consume acc = Except.ok read) :
    expectedPlaintextSize < file.length ∧
      expectedPlaintextSize ≤ uploadEncryptionMaxPlaintextSize := by
  rcases bind_eq_ok.mp h with ⟨opened, hopened, h⟩
  rcases bind_eq_ok.mp h with ⟨_, hsize, h⟩
  rcases bind_eq_ok.mp h with ⟨key, _, h⟩
  rcases bind_eq_ok.mp h with ⟨result, hfold, _⟩
  rcases bind_eq_ok.mp hopened with ⟨front, hfront, hopened⟩
  rcases bind_eq_ok.mp hopened with ⟨_, _, hopened⟩
  rcases bind_eq_ok.mp hopened with ⟨remainder, hremainder, hopened⟩
  rcases bind_eq_ok.mp hopened with ⟨header, hheader, hopened⟩
  rcases bind_eq_ok.mp hheader with ⟨fields, hfields, hheader⟩
  rcases bind_eq_ok.mp hheader with ⟨_, _, hheader⟩
  rcases bind_eq_ok.mp hheader with ⟨_, _, hheader⟩
  have hsize := beq_iff_eq.mp (require_eq_ok.mp hsize)
  have hfront := readExact_eq_ok hfront
  have hremainder := readExact_eq_ok hremainder
  have hframes := foldFrames_consumes hfold
  rw [pure_eq_ok.mp hheader] at hfields
  constructor
  · rw [hsize, ← pure_eq_ok.mp hopened] at hframes
    have hframes : expectedPlaintextSize ≤ remainder.2.length := hframes
    simp only [headerPrefixSize] at hfront
    omega
  · rw [← hsize, ← pure_eq_ok.mp hopened]
    exact parseHeaderFields_size hfields

end

end MessagingSystem
