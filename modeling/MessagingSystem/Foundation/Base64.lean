import MessagingSystem.Foundation.Digits

/-!
# Base64

The URL-safe alphabet with padding.  Three bytes are printed as four characters; a
last group of one or two bytes is padded.  The reader also takes the characters of
the standard alphabet, which the URL-safe ones replace.
-/

namespace MessagingSystem
namespace Foundation

/-- Letters, digits, then `-` and `_`. -/
def base64Char (n : Nat) : Char :=
  if n < 26 then Char.ofNat (65 + n)
  else if n < 52 then Char.ofNat (71 + n)
  else if n < 62 then Char.ofNat (n - 4)
  else if n = 62 then '-'
  else '_'

def base64Value (c : Char) : Option Nat :=
  if c.isUpper then some (c.toNat - 65)
  else if c.isLower then some (c.toNat - 71)
  else if c.isDigit then some (c.toNat + 4)
  else if c = '-' ∨ c = '+' then some 62
  else if c = '_' ∨ c = '/' then some 63
  else none

def base64Encode : List Nat -> List Char
  | a :: b :: c :: rest =>
      (fixedDigits 64 4 (digitsValue 256 [a, b, c])).map base64Char ++ base64Encode rest
  | [a, b] => (fixedDigits 64 3 (digitsValue 256 [a, b] * 4)).map base64Char ++ ['=']
  | [a] => (fixedDigits 64 2 (digitsValue 256 [a] * 16)).map base64Char ++ ['=', '=']
  | [] => []

/-- Strict decoding; the bits that a padded group has left over are dropped. -/
def base64Decode : List Char -> Option (List Nat)
  | [] => some []
  | a :: b :: c :: d :: rest =>
      if d = '=' ∧ rest = [] then
        if c = '=' then
          ([a, b].mapM base64Value).map fun ds => fixedDigits 256 1 (digitsValue 64 ds / 16)
        else
          ([a, b, c].mapM base64Value).map fun ds =>
            fixedDigits 256 2 (digitsValue 64 ds / 4)
      else
        ([a, b, c, d].mapM base64Value).bind fun ds =>
          (base64Decode rest).map fun bytes =>
            fixedDigits 256 3 (digitsValue 64 ds) ++ bytes
  | _ => none

/-!
# Reading printed bytes back
-/

theorem base64Value_base64Char :
    forall n : Fin 64, base64Value (base64Char n) = some n.val := by
  decide +kernel

theorem base64Char_ne_pad : forall n : Fin 64, base64Char n ≠ '=' := by
  decide +kernel

/-- A group of characters, read back as the number it was printed from. -/
theorem mapM_group {width n : Nat} (hn : n < 64 ^ width) :
    (((fixedDigits 64 width n).map base64Char).mapM base64Value).map (digitsValue 64)
      = some n := by
  rw [mapM_map_cancel, Option.map_some, digitsValue_fixedDigits width hn]
  intro d hd
  exact base64Value_base64Char ⟨d, fixedDigits_lt (by decide) width n d hd⟩

theorem base64Char_mod_ne_pad (n : Nat) : base64Char (n % 64) ≠ '=' :=
  base64Char_ne_pad ⟨n % 64, Nat.mod_lt n (by decide)⟩

theorem base64Decode_group {n : Nat} {rest : List Char} {bytes : List Nat}
    (hn : n < 64 ^ 4) (hrest : base64Decode rest = some bytes) :
    base64Decode ((fixedDigits 64 4 n).map base64Char ++ rest)
      = some (fixedDigits 256 3 n ++ bytes) := by
  rcases Option.map_eq_some_iff.mp (mapM_group hn) with ⟨ds, hds, hvalue⟩
  change (if base64Char (n % 64) = '=' ∧ rest = [] then _ else
    (((fixedDigits 64 4 n).map base64Char).mapM base64Value).bind fun ds =>
      (base64Decode rest).map _) = _
  rw [if_neg (fun h => base64Char_mod_ne_pad n h.1), hds, Option.bind_some, hrest,
    Option.map_some, hvalue]

theorem base64Decode_two {n : Nat} (hn : n < 64 ^ 3) :
    base64Decode ((fixedDigits 64 3 n).map base64Char ++ ['='])
      = some (fixedDigits 256 2 (n / 4)) := by
  rcases Option.map_eq_some_iff.mp (mapM_group hn) with ⟨ds, hds, hvalue⟩
  change (if '=' = '=' ∧ ([] : List Char) = [] then
    if base64Char (n % 64) = '=' then _ else
      (((fixedDigits 64 3 n).map base64Char).mapM base64Value).map _ else _) = _
  rw [if_pos ⟨rfl, rfl⟩, if_neg (base64Char_mod_ne_pad n), hds, Option.map_some, hvalue]

theorem base64Decode_one {n : Nat} (hn : n < 64 ^ 2) :
    base64Decode ((fixedDigits 64 2 n).map base64Char ++ ['=', '='])
      = some (fixedDigits 256 1 (n / 16)) := by
  rcases Option.map_eq_some_iff.mp (mapM_group hn) with ⟨ds, hds, hvalue⟩
  change (if '=' = '=' ∧ ([] : List Char) = [] then
    if '=' = '=' then (((fixedDigits 64 2 n).map base64Char).mapM base64Value).map _
      else _ else _) = _
  rw [if_pos ⟨rfl, rfl⟩, if_pos rfl, hds, Option.map_some, hvalue]

theorem base64Decode_base64Encode {bytes : List Nat}
    (hbytes : forall b, b ∈ bytes -> b < 256) :
    base64Decode (base64Encode bytes) = some bytes := by
  induction bytes using base64Encode.induct with
  | case1 a b c rest ih =>
      have hgroup : forall d, d ∈ [a, b, c] -> d < 256 := by
        intro d hd
        exact hbytes d (List.mem_append_left rest hd)
      have hlt : digitsValue 256 [a, b, c] < 64 ^ 4 :=
        lt_of_lt_of_eq (digitsValue_lt hgroup) (by simp)
      have hrest := ih (fun d hd => hbytes d (List.mem_append_right [a, b, c] hd))
      rw [base64Encode, base64Decode_group hlt hrest]
      exact congrArg (fun l => some (l ++ rest)) (fixedDigits_digitsValue hgroup)
  | case2 a b =>
      have hlt : digitsValue 256 [a, b] * 4 < 64 ^ 3 :=
        lt_of_lt_of_eq (Nat.mul_lt_mul_of_pos_right (digitsValue_lt hbytes) (by decide))
          (by simp)
      rw [base64Encode, base64Decode_two hlt, Nat.mul_div_cancel _ (by decide)]
      exact congrArg some (fixedDigits_digitsValue hbytes)
  | case3 a =>
      have hlt : digitsValue 256 [a] * 16 < 64 ^ 2 :=
        lt_of_lt_of_eq (Nat.mul_lt_mul_of_pos_right (digitsValue_lt hbytes) (by decide))
          (by simp)
      rw [base64Encode, base64Decode_one hlt, Nat.mul_div_cancel _ (by decide)]
      exact congrArg some (fixedDigits_digitsValue hbytes)
  | case4 => rfl

end Foundation
end MessagingSystem
