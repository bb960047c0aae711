import MessagingSystem.Core.Encodings
import MessagingSystem.Foundation.Bytes
import MessagingSystem.Foundation.Fallible
import MessagingSystem.Foundation.PairTree

/-!
# Merkle trees over event hashes

Event hashes are texts of sixty-four hexadecimal digits.  A leaf hashes the raw
digest behind a zero byte, an inner node hashes its two children behind a one byte,
and an unpaired last node is promoted to the next level.
-/

namespace MessagingSystem

open Foundation

/-- `MerkleIntegrityError` with its code, and the `ValueError` of malformed hashes. -/
inductive MerkleFailure where
  | integrity (code message : String)
  | valueError (message : String)
  deriving DecidableEq, Repr

/-!
# Hexadecimal digests
-/

def isHexChar (c : Char) : Bool :=
  c.isDigit || ('a' ≤ c && c ≤ 'f')

/-- `HASH_HEX_RE.fullmatch(value)`. -/
def isHashHex (text : String) : Bool :=
  text.toList.length == 64 && text.toList.all isHexChar

/-- The digest a text stands for, when it has the form of one. -/
def Digest.ofHex? (text : String) : Option Digest :=
  if isHashHex text then
    some (BitVec.ofNat 256 (digitsValue 16 (text.toList.map digitOf)))
  else none

theorem isHexChar_digitChar : forall d : Fin 16, isHexChar (Nat.digitChar d) = true := by
  decide

theorem isHexChar_range {c : Char} (h : isHexChar c = true) :
    (48 ≤ c.toNat ∧ c.toNat ≤ 57) ∨ (97 ≤ c.toNat ∧ c.toNat ≤ 102) := by
  simp only [isHexChar, Char.isDigit, Bool.or_eq_true, Bool.and_eq_true,
    decide_eq_true_eq] at h
  rcases h with ⟨hlo, hhi⟩ | ⟨hlo, hhi⟩
  · exact Or.inl ⟨hlo, hhi⟩
  · exact Or.inr ⟨hlo, hhi⟩

/-- The characters of the pattern are the digits that are printed. -/
theorem digitChar_digitOf {c : Char} (h : isHexChar c = true) :
    digitOf c < 16 ∧ Nat.digitChar (digitOf c) = c := by
  have hall : forall n, n < 128 -> isHexChar (Char.ofNat n) = true ->
      digitOf (Char.ofNat n) < 16 ∧
        Nat.digitChar (digitOf (Char.ofNat n)) = Char.ofNat n := by
    decide +kernel
  have hlt : c.toNat < 128 := by
    have hrange := isHexChar_range h
    omega
  have hc := hall c.toNat hlt
  rw [Char.ofNat_toNat] at hc
  exact hc h

theorem isHashHex_hex (d : Digest) : isHashHex d.hex = true := by
  unfold isHashHex Digest.hex numeral
  rw [String.toList_ofList, Bool.and_eq_true, List.all_eq_true]
  constructor
  · simp
  · intro c hc
    rcases List.mem_map.mp hc with ⟨n, hn, hchar⟩
    rw [← hchar]
    exact isHexChar_digitChar ⟨n, fixedDigits_lt (by decide) 64 _ n hn⟩

theorem Digest.ofHex?_hex (d : Digest) : Digest.ofHex? d.hex = some d := by
  have hdigits : (numeral 16 64 d.toNat).map digitOf = fixedDigits 16 64 d.toNat := by
    apply map_map_cancel
    intro n hn
    exact digitOf_digitChar ⟨n, fixedDigits_lt (by decide) 64 _ n hn⟩
  have hwidth : d.toNat < 16 ^ 64 := lt_of_lt_of_eq d.isLt (by decide)
  unfold Digest.ofHex?
  rw [if_pos (isHashHex_hex d), Digest.hex, String.toList_ofList, hdigits,
    digitsValue_fixedDigits 64 hwidth, BitVec.ofNat_toNat, BitVec.setWidth_eq]

/-- Only the printed form of a digest is read as that digest. -/
theorem Digest.hex_of_ofHex? {text : String} {d : Digest}
    (h : Digest.ofHex? text = some d) : d.hex = text := by
  unfold Digest.ofHex? at h
  rcases Option.ite_none_right_eq_some.mp h with ⟨htext, h⟩
  cases h
  unfold isHashHex at htext
  rw [Bool.and_eq_true, List.all_eq_true, beq_iff_eq] at htext
  have hlt : forall n, n ∈ text.toList.map digitOf -> n < 16 := by
    intro n hn
    rcases List.mem_map.mp hn with ⟨c, hc, hvalue⟩
    rw [← hvalue]
    exact (digitChar_digitOf (htext.2 c hc)).1
  have hlength : (text.toList.map digitOf).length = 64 := by
    rw [List.length_map, htext.1]
  have hvalue := digitsValue_lt hlt
  have hdigits := fixedDigits_digitsValue hlt
  rw [hlength] at hvalue hdigits
  have hback : (text.toList.map digitOf).map Nat.digitChar = text.toList :=
    map_map_cancel (fun c hc => (digitChar_digitOf (htext.2 c hc)).2)
  unfold Digest.hex numeral
  rw [BitVec.toNat_ofNat, Nat.mod_eq_of_lt (lt_of_lt_of_eq hvalue (by decide)), hdigits,
    hback, String.ofList_toList]

theorem Digest.ofHex?_eq_some {text : String} {d : Digest} :
    Digest.ofHex? text = some d ↔ text = d.hex := by
  constructor
  · intro h
    exact (Digest.hex_of_ofHex? h).symm
  · intro h
    rw [h]
    exact Digest.ofHex?_hex d

/-- `bytes.fromhex` of the printed digest. -/
def Digest.bytes (d : Digest) : List UInt8 :=
  (fixedDigits 256 32 d.toNat).map UInt8.ofNat

theorem Digest.bytes_length (d : Digest) : d.bytes.length = 32 := by
  unfold Digest.bytes
  rw [List.length_map, fixedDigits_length]

theorem Digest.bytes_injective {d e : Digest} (h : d.bytes = e.bytes) : d = e := by
  have hback : forall f : Digest, unpackBE f.bytes = f.toNat := by
    intro f
    exact unpackBE_packBE (lt_of_lt_of_eq f.isLt (by decide))
  apply BitVec.eq_of_toNat_eq
  rw [← hback d, h, hback e]

/-!
# Leaves and nodes
-/

/-- `_hash_bytes`. -/
def hashBytes (value field : String) : Except MerkleFailure Digest :=
  orFail (Digest.ofHex? value) (MerkleFailure.valueError
    (field ++ " must be a lowercase 64-character SHA-256 hex string"))

theorem hashBytes_eq_ok {value field : String} {d : Digest} :
    hashBytes value field = Except.ok d ↔ value = d.hex := by
  unfold hashBytes
  rw [orFail_eq_ok, Digest.ofHex?_eq_some]

section

variable (sha256 : Sha256)

def leafDigest (eventHash : Digest) : Digest :=
  sha256 (0x00 :: eventHash.bytes)

def leafHash (eventHash : String) : Except MerkleFailure String :=
  (fun digest => (leafDigest sha256 digest).hex) <$> hashBytes eventHash "event_hash"

/-- The children of a node have been read as digests before. -/
def parentHash (left right : Digest) : Digest :=
  sha256 (0x01 :: (left.bytes ++ right.bytes))

def buildMerkleRoot (leaves : List String) : Except MerkleFailure String := do
  let level ← leaves.mapM (fun value => hashBytes value "leaf_hash")
  let root ← orFail (treeRoot (parentHash sha256) level)
    (MerkleFailure.valueError "a Merkle tree requires at least one leaf")
  pure root.hex

variable {sha256}

theorem leafHash_eq_ok {eventHash leaf : String} :
    leafHash sha256 eventHash = Except.ok leaf ↔
      exists d : Digest, eventHash = d.hex ∧ leaf = (leafDigest sha256 d).hex := by
  unfold leafHash
  rw [map_eq_ok]
  simp only [hashBytes_eq_ok, eq_comm (b := leaf)]

theorem mapM_hashBytes_eq_ok {texts : List String} {field : String} {ds : List Digest} :
    texts.mapM (fun value => hashBytes value field) = Except.ok ds ↔
      texts = ds.map Digest.hex := by
  induction texts generalizing ds with
  | nil =>
      rw [List.mapM_nil, pure_eq_ok, eq_comm (b := List.map _ _), List.map_eq_nil_iff]
      exact eq_comm
  | cons text texts ih =>
      simp only [List.mapM_cons, bind_eq_ok, pure_eq_ok, hashBytes_eq_ok, ih]
      constructor
      · intro h
        rcases h with ⟨d, hd, rest, hrest, hds⟩
        rw [← hds, hd, hrest]
        rfl
      · intro h
        rcases List.map_eq_cons_iff.mp h.symm with ⟨d, rest, hds, hd, hrest⟩
        exact ⟨d, hd.symm, rest, hrest.symm, hds.symm⟩

theorem buildMerkleRoot_eq_ok {leaves : List String} {text : String} :
    buildMerkleRoot sha256 leaves = Except.ok text ↔
      exists (ds : List Digest) (root : Digest), leaves = ds.map Digest.hex ∧
        treeRoot (parentHash sha256) ds = some root ∧ text = root.hex := by
  unfold buildMerkleRoot
  simp only [bind_eq_ok, mapM_hashBytes_eq_ok, orFail_eq_ok, pure_eq_ok]
  constructor
  · intro h
    rcases h with ⟨ds, hleaves, root, hroot, htext⟩
    exact ⟨ds, root, hleaves, hroot, htext.symm⟩
  · intro h
    rcases h with ⟨ds, root, hleaves, hroot, htext⟩
    exact ⟨ds, hleaves, root, hroot, htext.symm⟩

end

end MessagingSystem
