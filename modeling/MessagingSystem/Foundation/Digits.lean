import Mathlib

/-!
# Fixed-width numerals

Identifiers, digests and timestamps are printed as digit strings of a fixed
width.  A numeral of fixed width determines the number it was printed from.
-/

namespace MessagingSystem
namespace Foundation

variable {base n : Nat}

/-- The last `width` digits of `n`, most significant first. -/
def fixedDigits (base : Nat) : Nat -> Nat -> List Nat
  | 0, _ => []
  | width + 1, n => fixedDigits base width (n / base) ++ [n % base]

@[simp] theorem fixedDigits_length (base width n : Nat) :
    (fixedDigits base width n).length = width := by
  induction width generalizing n with
  | zero => rfl
  | succ width ih => simp [fixedDigits, ih]

theorem fixedDigits_lt (hbase : 0 < base) (width n : Nat) :
    forall d, d ∈ fixedDigits base width n -> d < base := by
  induction width generalizing n with
  | zero =>
      intro d hd
      cases hd
  | succ width ih =>
      exact List.forall_mem_append.mpr
        ⟨ih (n / base), List.forall_mem_singleton.mpr (Nat.mod_lt n hbase)⟩

/-- The number a list of digits denotes, most significant first. -/
def digitsValue (base : Nat) (ds : List Nat) : Nat :=
  ds.foldl (fun n d => n * base + d) 0

theorem digitsValue_concat (base : Nat) (ds : List Nat) (d : Nat) :
    digitsValue base (ds ++ [d]) = digitsValue base ds * base + d := by
  unfold digitsValue
  rw [List.foldl_append]
  rfl

theorem digitsValue_lt {ds : List Nat} (hds : forall d, d ∈ ds -> d < base) :
    digitsValue base ds < base ^ ds.length := by
  induction ds using List.reverseRecOn with
  | nil => exact Nat.one_pos
  | append_singleton ds d ih =>
      have hfront := ih (fun x hx => hds x (List.mem_append_left _ hx))
      have hlast := hds d (List.mem_append_right _ List.mem_cons_self)
      rw [digitsValue_concat, List.length_append, List.length_singleton, Nat.pow_succ]
      calc digitsValue base ds * base + d
          < digitsValue base ds * base + base := Nat.add_lt_add_left hlast _
        _ = (digitsValue base ds + 1) * base := (Nat.succ_mul _ _).symm
        _ ≤ base ^ ds.length * base := Nat.mul_le_mul_right base hfront

theorem digitsValue_fixedDigits (width : Nat) (hn : n < base ^ width) :
    digitsValue base (fixedDigits base width n) = n := by
  induction width generalizing n with
  | zero =>
      rw [Nat.pow_zero] at hn
      rw [Nat.lt_one_iff.mp hn]
      rfl
  | succ width ih =>
      have hdiv : n / base < base ^ width := by
        exact Nat.div_lt_of_lt_mul (by rwa [Nat.pow_succ, Nat.mul_comm] at hn)
      rw [fixedDigits, digitsValue_concat, ih hdiv, Nat.div_add_mod']

theorem fixedDigits_digitsValue {ds : List Nat} (hds : forall d, d ∈ ds -> d < base) :
    fixedDigits base ds.length (digitsValue base ds) = ds := by
  induction ds using List.reverseRecOn with
  | nil => rfl
  | append_singleton ds d ih =>
      have hlast := hds d (List.mem_append_right _ List.mem_cons_self)
      have hbase : 0 < base := Nat.lt_of_le_of_lt (Nat.zero_le d) hlast
      have hdiv : (digitsValue base ds * base + d) / base = digitsValue base ds := by
        rw [Nat.mul_comm, Nat.mul_add_div hbase, Nat.div_eq_of_lt hlast, Nat.add_zero]
      have hmod : (digitsValue base ds * base + d) % base = d := by
        rw [Nat.mul_comm, Nat.mul_add_mod, Nat.mod_eq_of_lt hlast]
      rw [digitsValue_concat, List.length_append, List.length_singleton, fixedDigits, hdiv,
        hmod, ih (fun x hx => hds x (List.mem_append_left _ hx))]

/-!
# Digit characters
-/

/-- Digits are read back when each of them is. -/
theorem map_map_cancel {α β : Type _} {f : α -> β} {g : β -> α} {l : List α}
    (h : forall a, a ∈ l -> g (f a) = a) : (l.map f).map g = l := by
  rw [List.map_map]
  exact (List.map_congr_left h).trans (List.map_id l)

theorem mapM_map_cancel {α β : Type _} {f : α -> β} {g : β -> Option α} {l : List α}
    (h : forall a, a ∈ l -> g (f a) = some a) : (l.map f).mapM g = some l := by
  induction l with
  | nil => rfl
  | cons a l ih =>
      rw [List.map_cons, List.mapM_cons, h a List.mem_cons_self,
        ih (fun b hb => h b (List.mem_cons_of_mem a hb))]
      rfl

def isHexDigit (c : Char) : Bool :=
  c.isDigit || ('a' ≤ c && c ≤ 'f') || ('A' ≤ c && c ≤ 'F')

/-- The value of a hexadecimal digit in either case. -/
def digitOf (c : Char) : Nat :=
  if c.isDigit then c.toNat - 48 else c.toLower.toNat - 87

theorem digitOf_digitChar : forall d : Fin 16, digitOf (Nat.digitChar d) = d := by
  decide

/-- A fixed-width numeral in base ten or sixteen, in lower case. -/
def numeral (base width n : Nat) : List Char :=
  (fixedDigits base width n).map Nat.digitChar

@[simp] theorem numeral_length (base width n : Nat) :
    (numeral base width n).length = width := by
  simp [numeral]

theorem numeral_injective {width m : Nat} (hbase : 0 < base) (hsmall : base ≤ 16)
    (hm : m < base ^ width) (hn : n < base ^ width)
    (h : numeral base width m = numeral base width n) : m = n := by
  have hback : forall k, k < base ^ width ->
      digitsValue base ((numeral base width k).map digitOf) = k := by
    intro k hk
    rw [numeral, map_map_cancel, digitsValue_fixedDigits width hk]
    intro d hd
    exact digitOf_digitChar
      ⟨d, Nat.lt_of_lt_of_le (fixedDigits_lt hbase width k d hd) hsmall⟩
  rw [← hback m hm, h, hback n hn]

/-!
# Decimal numbers
-/

theorem toDigits_isDigit {c : Char} (h : c ∈ Nat.toDigits 10 n) : c.isDigit = true :=
  Nat.isDigit_of_mem_toDigits (by decide) (by decide) h

theorem toDigits_injective {m : Nat} (h : Nat.toDigits 10 m = Nat.toDigits 10 n) : m = n := by
  rw [← Nat.ofDigitChars_ten_toDigits (n := m), h, Nat.ofDigitChars_ten_toDigits]

end Foundation
end MessagingSystem
