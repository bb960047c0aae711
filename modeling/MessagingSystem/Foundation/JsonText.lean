import MessagingSystem.Foundation.Digits
import MessagingSystem.Foundation.JsonOrder

/-!
# JSON text

`json.dumps` without blanks and with ASCII output: a character outside printable
ASCII is written as the escapes of its UTF-16 code units.
-/

namespace MessagingSystem
namespace Foundation
namespace Json

variable {c : Char}

/-!
# Strings
-/

def codeUnits (c : Char) : List Nat :=
  if c.toNat < 0x10000 then [c.toNat]
  else [0xd800 + (c.toNat - 0x10000) / 0x400, 0xdc00 + (c.toNat - 0x10000) % 0x400]

def shortEscape : Nat -> Option Char
  | 34 => some '"'
  | 92 => some '\\'
  | 10 => some 'n'
  | 13 => some 'r'
  | 9 => some 't'
  | 12 => some 'f'
  | 8 => some 'b'
  | _ => none

def escapeUnit (n : Nat) : List Char :=
  match shortEscape n with
  | some c => ['\\', c]
  | none =>
      if 32 ≤ n ∧ n ≤ 126 then [Char.ofNat n]
      else '\\' :: 'u' :: numeral 16 4 n

def escape (s : String) : List Char :=
  (s.toList.flatMap codeUnits).flatMap escapeUnit

def quoted (s : String) : List Char :=
  '"' :: (escape s ++ ['"'])

/-!
# Values
-/

def intText (n : Int) : List Char :=
  if n < 0 then '-' :: Nat.toDigits 10 n.natAbs else Nat.toDigits 10 n.natAbs

mutual

def print : Json -> List Char
  | null => "null".toList
  | bool true => "true".toList
  | bool false => "false".toList
  | int n => intText n
  | float x => x.text
  | str s => quoted s
  | arr items => '[' :: printItems items
  | obj members => '{' :: printMembers members

def printItems : List Json -> List Char
  | [] => [']']
  | item :: items => print item ++ printItemsTail items

def printItemsTail : List Json -> List Char
  | [] => [']']
  | item :: items => ',' :: (print item ++ printItemsTail items)

def printMembers : List (String × Json) -> List Char
  | [] => ['}']
  | (k, value) :: members => quoted k ++ ':' :: (print value ++ printMembersTail members)

def printMembersTail : List (String × Json) -> List Char
  | [] => ['}']
  | (k, value) :: members =>
      ',' :: (quoted k ++ ':' :: (print value ++ printMembersTail members))

end

/-- `json.dumps(value, sort_keys=True, separators=(",", ":"))`. -/
def dumps (value : Json) : List Char :=
  print (sortKeys value)

example : print (obj [("a\n", arr [int (-12), bool true]), ("é", null)])
    = "\x7b\"a\\n\":[-12,true],\"\\u00e9\":null\x7d".toList := by
  decide

/-!
# Numbers

A number has no closing character, so what follows it must not continue it.
-/

def Delimited (r : List Char) : Prop :=
  forall c, c ∈ r.head? -> isNumberChar c = false

theorem delimited_nil : Delimited [] := by
  intro c hc
  cases hc

theorem delimited_cons (r : List Char) (h : isNumberChar c = false) :
    Delimited (c :: r) := by
  intro d hd
  cases hd
  exact h

theorem takeWhile_number {text r : List Char}
    (htext : forall c, c ∈ text -> isNumberChar c = true) (hr : Delimited r) :
    (text ++ r).takeWhile isNumberChar = text := by
  rw [List.takeWhile_append_of_pos htext]
  cases r with
  | nil => exact List.append_nil text
  | cons c r =>
      have hc : isNumberChar c = false := hr c rfl
      rw [List.takeWhile_cons, hc]
      exact List.append_nil text

theorem intText_digits {n : Int} (h : c ∈ intText n) :
    c.isDigit = true ∨ c = '-' := by
  unfold intText at h
  split at h
  · rcases List.mem_cons.mp h with heq | hmem
    · exact Or.inr heq
    · exact Or.inl (toDigits_isDigit hmem)
  · exact Or.inl (toDigits_isDigit h)

theorem isNumberChar_intText {n : Int} (h : c ∈ intText n) :
    isNumberChar c = true := by
  rcases intText_digits h with hdigit | heq
  · simp [isNumberChar, hdigit]
  · rw [heq]
    decide

theorem isNumberChar_float {x : FloatText} (h : c ∈ x.text) :
    isNumberChar c = true := by
  have hshape := x.shape
  simp only [isFloatText, Bool.and_eq_true, List.all_eq_true] at hshape
  exact hshape.1.1 c h

/-- A printed float has a character that no integer has. -/
theorem float_not_digits (x : FloatText) :
    ¬forall c, c ∈ x.text -> c.isDigit = true ∨ c = '-' := by
  intro hall
  have hshape := x.shape
  simp only [isFloatText, Bool.and_eq_true, List.any_eq_true] at hshape
  rcases hshape.2 with ⟨c, hc, hother⟩
  rcases hall c hc with hdigit | hminus
  · simp [hdigit] at hother
  · simp [hminus] at hother

/-!
# First characters

The first character tells what kind of value follows.
-/

def headKind (c : Char) : Nat :=
  if c = 'n' then 0
  else if c = 't' then 1
  else if c = 'f' then 2
  else if c = '"' then 3
  else if c = '[' then 4
  else if c = '{' then 5
  else if isNumberStart c then 6
  else 7

theorem headKind_number (h : isNumberStart c = true) : headKind c = 6 := by
  have hne : forall d : Char, isNumberStart d = false -> c ≠ d := by
    intro d hd heq
    rw [heq, hd] at h
    cases h
  unfold headKind
  rw [if_neg (hne 'n' (by decide)), if_neg (hne 't' (by decide)),
    if_neg (hne 'f' (by decide)), if_neg (hne '"' (by decide)),
    if_neg (hne '[' (by decide)), if_neg (hne '{' (by decide)), if_pos h]

theorem intText_head (n : Int) :
    exists c rest, intText n = c :: rest ∧ isNumberStart c = true := by
  unfold intText
  split
  · exact ⟨'-', _, rfl, by decide⟩
  · cases hdigits : Nat.toDigits 10 n.natAbs with
    | nil => exact absurd hdigits Nat.toDigits_ne_nil
    | cons c rest =>
        have hc : c ∈ Nat.toDigits 10 n.natAbs := hdigits ▸ List.mem_cons_self
        exact ⟨c, rest, rfl, by simp [isNumberStart, toDigits_isDigit hc]⟩

theorem float_head (x : FloatText) :
    exists c rest, x.text = c :: rest ∧ isNumberStart c = true := by
  have hshape := x.shape
  simp only [isFloatText, Bool.and_eq_true] at hshape
  cases htext : x.text with
  | nil =>
      rw [htext] at hshape
      exact absurd hshape.1.2 (by decide)
  | cons c rest =>
      rw [htext] at hshape
      exact ⟨c, rest, rfl, by simpa using hshape.1.2⟩

end Json
end Foundation
end MessagingSystem
