import MessagingSystem.Foundation.Digits

/-!
# SHA-256

The hash function, on natural numbers below `2 ^ 32` as words.  Statements about
hashed data hold for every hash function; this one is there to evaluate concrete
histories.
-/

namespace MessagingSystem
namespace Foundation
namespace Sha2

def wordAdd (a b : Nat) : Nat :=
  (a + b) % 2 ^ 32

def rotateRight (x n : Nat) : Nat :=
  (x >>> n) ||| ((x <<< (32 - n)) % 2 ^ 32)

def roundConstants : List Nat :=
  [
    0x428a2f98, 0x71374491, 0xb5c0fbcf, 0xe9b5dba5, 0x3956c25b, 0x59f111f1,
    0x923f82a4, 0xab1c5ed5, 0xd807aa98, 0x12835b01, 0x243185be, 0x550c7dc3,
    0x72be5d74, 0x80deb1fe, 0x9bdc06a7, 0xc19bf174, 0xe49b69c1, 0xefbe4786,
    0x0fc19dc6, 0x240ca1cc, 0x2de92c6f, 0x4a7484aa, 0x5cb0a9dc, 0x76f988da,
    0x983e5152, 0xa831c66d, 0xb00327c8, 0xbf597fc7, 0xc6e00bf3, 0xd5a79147,
    0x06ca6351, 0x14292967, 0x27b70a85, 0x2e1b2138, 0x4d2c6dfc, 0x53380d13,
    0x650a7354, 0x766a0abb, 0x81c2c92e, 0x92722c85, 0xa2bfe8a1, 0xa81a664b,
    0xc24b8b70, 0xc76c51a3, 0xd192e819, 0xd6990624, 0xf40e3585, 0x106aa070,
    0x19a4c116, 0x1e376c08, 0x2748774c, 0x34b0bcb5, 0x391c0cb3, 0x4ed8aa4a,
    0x5b9cca4f, 0x682e6ff3, 0x748f82ee, 0x78a5636f, 0x84c87814, 0x8cc70208,
    0x90befffa, 0xa4506ceb, 0xbef9a3f7, 0xc67178f2]

def initialHash : List Nat :=
  [0x6a09e667, 0xbb67ae85, 0x3c6ef372, 0xa54ff53a,
    0x510e527f, 0x9b05688c, 0x1f83d9ab, 0x5be0cd19]

/-- Pad to a multiple of 64 bytes: one bit, zeros and the length in bits. -/
def pad (bytes : List Nat) : List Nat :=
  let zeros := (119 - bytes.length % 64) % 64
  bytes ++ 0x80 :: (List.replicate zeros 0 ++ fixedDigits 256 8 (8 * bytes.length))

def words : List Nat -> List Nat
  | a :: b :: c :: d :: rest =>
      (a * 2 ^ 24 + b * 2 ^ 16 + c * 2 ^ 8 + d) :: words rest
  | _ => []

/-- Extend the sixteen words of a block; the list is kept newest first. -/
def extend : Nat -> List Nat -> List Nat
  | 0, ws => ws
  | n + 1, ws =>
      let w15 := ws.getD 14 0
      let w2 := ws.getD 1 0
      let s0 := rotateRight w15 7 ^^^ rotateRight w15 18 ^^^ (w15 >>> 3)
      let s1 := rotateRight w2 17 ^^^ rotateRight w2 19 ^^^ (w2 >>> 10)
      extend n ((ws.getD 15 0 + s0 + ws.getD 6 0 + s1) % 2 ^ 32 :: ws)

def schedule (block : List Nat) : List Nat :=
  (extend 48 block.reverse).reverse

def round (state : List Nat) (kw : Nat × Nat) : List Nat :=
  match state with
  | [a, b, c, d, e, f, g, h] =>
      let s1 := rotateRight e 6 ^^^ rotateRight e 11 ^^^ rotateRight e 25
      let choice := (e &&& f) ^^^ ((e ^^^ 0xffffffff) &&& g)
      let t1 := h + s1 + choice + kw.1 + kw.2
      let s0 := rotateRight a 2 ^^^ rotateRight a 13 ^^^ rotateRight a 22
      let majority := (a &&& b) ^^^ (a &&& c) ^^^ (b &&& c)
      [(t1 + s0 + majority) % 2 ^ 32, a, b, c, wordAdd d t1, e, f, g]
  | other => other

def compress (hash block : List Nat) : List Nat :=
  List.zipWith wordAdd hash ((roundConstants.zip (schedule block)).foldl round hash)

/-- Compress the blocks one after the other; the fuel is the number of blocks. -/
def compressAll : Nat -> List Nat -> List Nat -> List Nat
  | 0, hash, _ => hash
  | n + 1, hash, ws => compressAll n (compress hash (ws.take 16)) (ws.drop 16)

end Sha2

/-- The digest as one number of 256 bits. -/
def sha256 (bytes : List UInt8) : BitVec 256 :=
  let ws := Sha2.words (Sha2.pad (bytes.map UInt8.toNat))
  let hash := Sha2.compressAll (ws.length / 16) Sha2.initialHash ws
  BitVec.ofNat 256 (hash.foldl (fun acc w => acc * 2 ^ 32 + w) 0)

example : sha256 [97, 98, 99] =
    0xba7816bf8f01cfea414140de5dae2223b00361a396177a9cb410ff61f20015ad := by
  decide +kernel

end Foundation
end MessagingSystem
