import MessagingSystem.Foundation.JsonText

/-!
# Reading JSON text

`json.dumps` without blanks and with Unicode output, and `json.loads`.  What was printed is
read back as it was, and whatever is read has no object with a repeated key.
-/

namespace MessagingSystem
namespace Foundation
namespace Json

variable {fuel : Nat}

/-!
# Unicode output

Only quotes, backslashes and control characters are escaped.
-/

def escapeChar (c : Char) : List Char :=
  match shortEscape c.toNat with
  | some e => ['\\', e]
  | none => if c.toNat < 32 then '\\' :: 'u' :: numeral 16 4 c.toNat else [c]

def quotedText (s : String) : List Char :=
  '"' :: (s.toList.flatMap escapeChar ++ ['"'])

mutual

def printText : Json -> List Char
  | null => "null".toList
  | bool true => "true".toList
  | bool false => "false".toList
  | int n => intText n
  | float x => x.text
  | str s => quotedText s
  | arr items => '[' :: printTextItems items
  | obj members => '{' :: printTextMembers members

def printTextItems : List Json -> List Char
  | [] => [']']
  | item :: items => printText item ++ printTextItemsTail items

def printTextItemsTail : List Json -> List Char
  | [] => [']']
  | item :: items => ',' :: (printText item ++ printTextItemsTail items)

def printTextMembers : List (String × Json) -> List Char
  | [] => ['}']
  | (k, value) :: members =>
      quotedText k ++ ':' :: (printText value ++ printTextMembersTail members)

def printTextMembersTail : List (String × Json) -> List Char
  | [] => ['}']
  | (k, value) :: members =>
      ',' :: (quotedText k ++ ':' :: (printText value ++ printTextMembersTail members))

end

/-- `json.dumps(value, separators=(",", ":"), ensure_ascii=False)`. -/
def dumpsText (value : Json) : String :=
  String.ofList (printText value)

/-!
# The reader

The fuel bounds the number of values and characters; the length of the text is enough.
-/

def isBlank (c : Char) : Bool :=
  c == ' ' || c == '\t' || c == '\n' || c == '\r'

def skipBlanks (text : List Char) : List Char :=
  text.dropWhile isBlank

def hexValue (c : Char) : Option Nat :=
  if isHexDigit c then some (digitOf c) else none

/-- Four hexadecimal digits. -/
def readUnit : List Char -> Option (Nat × List Char)
  | a :: b :: c :: d :: rest =>
      ([a, b, c, d].mapM hexValue).map (fun ds => (digitsValue 16 ds, rest))
  | _ => none

def unescapeShort (c : Char) : Option Char :=
  if c = '"' ∨ c = '\\' ∨ c = '/' then some c
  else if c = 'b' then some (Char.ofNat 8)
  else if c = 'f' then some (Char.ofNat 12)
  else if c = 'n' then some '\n'
  else if c = 'r' then some '\r'
  else if c = 't' then some '\t'
  else none

/-- A half of a surrogate pair that stands alone is no character. -/
def readUnicode (text : List Char) : Option (Char × List Char) := do
  let (unit, rest) ← readUnit text
  if 0xd800 ≤ unit ∧ unit < 0xdc00 then
    match rest with
    | '\\' :: 'u' :: second => do
        let (low, rest) ← readUnit second
        if 0xdc00 ≤ low ∧ low < 0xe000 then
          some (Char.ofNat (0x10000 + (unit - 0xd800) * 0x400 + (low - 0xdc00)), rest)
        else none
    | _ => none
  else if 0xdc00 ≤ unit ∧ unit < 0xe000 then none
  else some (Char.ofNat unit, rest)

def readEscape : List Char -> Option (Char × List Char)
  | [] => none
  | e :: rest => if e = 'u' then readUnicode rest else (unescapeShort e).map (fun c => (c, rest))

/-- The rest of a string whose opening quote has been read. -/
def readChars : Nat -> List Char -> Option (List Char × List Char)
  | 0, _ => none
  | _ + 1, [] => none
  | fuel + 1, c :: rest =>
      if c = '"' then some ([], rest)
      else if c = '\\' then
        (readEscape rest).bind fun e =>
          (readChars fuel e.2).map fun r => (e.1 :: r.1, r.2)
      else if c.toNat < 32 then none
      else (readChars fuel rest).map fun r => (c :: r.1, r.2)

def readString (text : List Char) : Option (String × List Char) :=
  match skipBlanks text with
  | c :: rest =>
      if c = '"' then
        (readChars (rest.length + 1) rest).map fun r => (String.ofList r.1, r.2)
      else none
  | [] => none

/-- Digits without leading zeros. -/
def readNat (digits : List Char) : Option Nat :=
  let n := Nat.ofDigitChars 10 digits 0
  if Nat.toDigits 10 n = digits then some n else none

def readInt : List Char -> Option Int
  | [] => none
  | c :: rest =>
      if c = '-' then (readNat rest).map fun (n : Nat) => -(n : Int)
      else (readNat (c :: rest)).map fun (n : Nat) => (n : Int)

def readWord (word : List Char) (value : Json) (text : List Char) : Option (Json × List Char) :=
  if word.isPrefixOf text then some (value, text.drop word.length) else none

/-- A repeated key keeps its place and gets the last value. -/
def insertMember (members : List (String × Json)) (m : String × Json) : List (String × Json) :=
  if m.1 ∈ members.map Prod.fst then
    members.map (fun old => if old.1 = m.1 then m else old)
  else members ++ [m]

def dictOf (pairs : List (String × Json)) : List (String × Json) :=
  pairs.foldl insertMember []

section

-- What `float` makes of the text of a number.
variable (readFloat : List Char -> Option FloatText)

def readNumber (text : List Char) : Option (Json × List Char) :=
  let run := text.takeWhile isNumberChar
  let rest := text.dropWhile isNumberChar
  match readInt run with
  | some n => some (int n, rest)
  | none => (readFloat run).map fun x => (float x, rest)

mutual

def readValue : Nat -> List Char -> Option (Json × List Char)
  | 0, _ => none
  | fuel + 1, text =>
      match skipBlanks text with
      | [] => none
      | c :: rest =>
          if c = '"' then (readString (c :: rest)).map fun r => (str r.1, r.2)
          else if c = '[' then
            if (skipBlanks rest).head? = some ']' then some (arr [], (skipBlanks rest).tail)
            else (readItems fuel rest).map fun r => (arr r.1, r.2)
          else if c = '{' then
            if (skipBlanks rest).head? = some '}' then some (obj [], (skipBlanks rest).tail)
            else (readMembers fuel rest).map fun r => (obj (dictOf r.1), r.2)
          else if isNumberStart c then readNumber readFloat (c :: rest)
          else
            (readWord "null".toList null (c :: rest)).or
              ((readWord "true".toList (bool true) (c :: rest)).or
                (readWord "false".toList (bool false) (c :: rest)))

def readItems : Nat -> List Char -> Option (List Json × List Char)
  | 0, _ => none
  | fuel + 1, text =>
      (readValue fuel text).bind fun item =>
        match skipBlanks item.2 with
        | [] => none
        | c :: rest =>
            if c = ',' then (readItems fuel rest).map fun r => (item.1 :: r.1, r.2)
            else if c = ']' then some ([item.1], rest)
            else none

def readMembers : Nat -> List Char -> Option (List (String × Json) × List Char)
  | 0, _ => none
  | fuel + 1, text =>
      (readString text).bind fun k =>
        match skipBlanks k.2 with
        | [] => none
        | c :: rest =>
            if c = ':' then
              (readValue fuel rest).bind fun value =>
                match skipBlanks value.2 with
                | [] => none
                | d :: rest =>
                    if d = ',' then
                      (readMembers fuel rest).map fun r => ((k.1, value.1) :: r.1, r.2)
                    else if d = '}' then some ([(k.1, value.1)], rest)
                    else none
            else none

end

/-- `json.loads`; `none` is a `JSONDecodeError`. -/
def loads (text : String) : Option Json :=
  (readValue readFloat (text.toList.length + 1) text.toList).bind fun r =>
    if skipBlanks r.2 = [] then some r.1 else none

end

/-!
# Strings
-/

variable {n : Nat}

theorem hexValue_digitChar :
    forall d : Fin 16, hexValue (Nat.digitChar d) = some d.val := by
  decide

theorem readUnit_numeral (hn : n < 16 ^ 4) (rest : List Char) :
    readUnit (numeral 16 4 n ++ rest) = some (n, rest) := by
  change (((fixedDigits 16 4 n).map Nat.digitChar).mapM hexValue).map _ = _
  rw [mapM_map_cancel, Option.map_some, digitsValue_fixedDigits 4 hn]
  · rfl
  · intro d hd
    exact hexValue_digitChar ⟨d, fixedDigits_lt (by decide) 4 n d hd⟩

theorem readEscape_short {c e : Char} (h : shortEscape c.toNat = some e) (rest : List Char) :
    readEscape (e :: rest) = some (c, rest) := by
  have hcases : forall n e, shortEscape n = some e ->
      e ≠ 'u' ∧ unescapeShort e = some (Char.ofNat n) := by
    intro n e h
    unfold shortEscape at h
    split at h
    all_goals
      cases h
      try decide
  rcases hcases c.toNat e h with ⟨hu, hshort⟩
  rw [readEscape, if_neg hu, hshort, Char.ofNat_toNat]
  rfl

theorem readEscape_unit (hn : n < 0xd800 ∨ (0xdfff < n ∧ n < 0x10000)) (rest : List Char) :
    readEscape ('u' :: (numeral 16 4 n ++ rest)) = some (Char.ofNat n, rest) := by
  show (readUnit (numeral 16 4 n ++ rest)).bind _ = _
  rw [readUnit_numeral (by omega)]
  show (if 0xd800 ≤ n ∧ n < 0xdc00 then _ else
    if 0xdc00 ≤ n ∧ n < 0xe000 then none else some (Char.ofNat n, rest)) = _
  rw [if_neg (by omega), if_neg (by omega)]

theorem readEscape_pair {high low : Nat} (hhigh : high < 0x400) (hlow : low < 0x400)
    (hn : n = 0x10000 + high * 0x400 + low) (rest : List Char) :
    readEscape ('u' :: (numeral 16 4 (0xd800 + high) ++
        '\\' :: 'u' :: (numeral 16 4 (0xdc00 + low) ++ rest))) = some (Char.ofNat n, rest) := by
  show (readUnit (numeral 16 4 (0xd800 + high) ++ _)).bind _ = _
  rw [readUnit_numeral (by omega)]
  show (if 0xd800 ≤ 0xd800 + high ∧ 0xd800 + high < 0xdc00 then
    (readUnit (numeral 16 4 (0xdc00 + low) ++ rest)).bind _ else _) = _
  rw [if_pos (by omega), readUnit_numeral (by omega)]
  show (if 0xdc00 ≤ 0xdc00 + low ∧ 0xdc00 + low < 0xe000 then
    some (Char.ofNat (0x10000 + (0xd800 + high - 0xd800) * 0x400 + (0xdc00 + low - 0xdc00)), rest)
    else none) = _
  rw [if_pos (by omega), Nat.add_sub_cancel_left, Nat.add_sub_cancel_left, hn]

/-- Each character that is written so can be read back, whatever follows it. -/
def ReadsChars (code : Char -> List Char) : Prop :=
  forall c rest fuel, readChars (fuel + 1) (code c ++ rest) =
    (readChars fuel rest).map (fun r => (c :: r.1, r.2))

section

variable {c : Char} {rest : List Char}

theorem readChars_escaped {text : List Char} (h : readEscape text = some (c, rest)) :
    readChars (fuel + 1) ('\\' :: text) =
      (readChars fuel rest).map (fun r => (c :: r.1, r.2)) := by
  show (if '\\' = '"' then _ else if '\\' = '\\' then (readEscape text).bind _ else _) = _
  rw [if_neg (by decide), if_pos rfl, h]
  rfl

theorem readChars_plain (hnone : shortEscape c.toNat = none) (hc : ¬c.toNat < 32) :
    readChars (fuel + 1) (c :: rest) =
      (readChars fuel rest).map (fun r => (c :: r.1, r.2)) := by
  have hne : forall d : Char, shortEscape d.toNat ≠ none -> c ≠ d := by
    intro d hd heq
    exact hd (heq ▸ hnone)
  show (if c = '"' then _ else if c = '\\' then _ else if c.toNat < 32 then none
    else (readChars fuel rest).map _) = _
  rw [if_neg (hne '"' (by decide)), if_neg (hne '\\' (by decide)), if_neg hc]

end

theorem escapeChar_reads : ReadsChars escapeChar := by
  intro c rest fuel
  unfold escapeChar
  split
  · rename_i e he
    exact readChars_escaped (readEscape_short he rest)
  · rename_i hnone
    split
    · rename_i hcontrol
      have hread := readEscape_unit (n := c.toNat) (by omega) rest
      rw [Char.ofNat_toNat] at hread
      exact readChars_escaped hread
    · rename_i hcontrol
      exact readChars_plain hnone hcontrol

theorem escapeUnit_long (h : 126 < n) : escapeUnit n = '\\' :: 'u' :: numeral 16 4 n := by
  unfold escapeUnit
  split
  · rename_i e he
    unfold shortEscape at he
    split at he
    all_goals
      first
        | omega
        | cases he
  · rw [if_neg (by omega)]

theorem codeUnits_reads : ReadsChars (fun c => (codeUnits c).flatMap escapeUnit) := by
  intro c rest fuel
  have hvalid : c.toNat < 0xd800 ∨ (0xdfff < c.toNat ∧ c.toNat < 0x110000) := c.valid
  unfold codeUnits
  dsimp only
  split
  · rename_i hsmall
    rw [List.flatMap_singleton, escapeUnit]
    split
    · rename_i e he
      exact readChars_escaped (readEscape_short he rest)
    · rename_i hnone
      split
      · rename_i hprintable
        rw [Char.ofNat_toNat]
        exact readChars_plain hnone (by omega)
      · have hread := readEscape_unit (n := c.toNat) (by omega) rest
        rw [Char.ofNat_toNat] at hread
        exact readChars_escaped hread
  · rename_i hlarge
    have hread := readEscape_pair (n := c.toNat)
      (show (c.toNat - 0x10000) / 0x400 < 0x400 by omega)
      (show (c.toNat - 0x10000) % 0x400 < 0x400 by omega) (by omega) rest
    rw [Char.ofNat_toNat] at hread
    rw [List.flatMap_cons, List.flatMap_singleton, escapeUnit_long (by omega),
      escapeUnit_long (by omega), List.append_assoc]
    exact readChars_escaped hread

section

variable {code : Char -> List Char}

theorem ReadsChars.append (h : ReadsChars code) (cs rest : List Char)
    (hfuel : cs.length < fuel) :
    readChars fuel (cs.flatMap code ++ '"' :: rest) = some (cs, rest) := by
  induction cs generalizing fuel with
  | nil =>
      cases fuel with
      | zero => cases hfuel
      | succ fuel => rfl
  | cons c cs ih =>
      cases fuel with
      | zero => cases hfuel
      | succ fuel =>
          rw [List.flatMap_cons, List.append_assoc, h c, ih (Nat.lt_of_succ_lt_succ hfuel)]
          rfl

theorem ReadsChars.length_le (h : ReadsChars code) (cs : List Char) :
    cs.length ≤ (cs.flatMap code).length := by
  induction cs with
  | nil => exact Nat.le_refl 0
  | cons c cs ih =>
      have hc : code c ≠ [] := by
        intro hnil
        have hread := h c ['"'] 0
        rw [hnil] at hread
        cases hread
      have hpos := List.length_pos_of_ne_nil hc
      rw [List.flatMap_cons, List.length_append, List.length_cons]
      omega

theorem ReadsChars.readString (h : ReadsChars code) (s : String) (rest : List Char) :
    readString ('"' :: (s.toList.flatMap code ++ ['"']) ++ rest) = some (s, rest) := by
  have hlength := h.length_le s.toList
  have hfuel : s.toList.length < (s.toList.flatMap code ++ '"' :: rest).length + 1 := by
    rw [List.length_append]
    omega
  rw [List.cons_append, List.append_assoc, List.singleton_append]
  show (if '"' = '"' then (readChars _ _).map _ else none) = _
  rw [if_pos rfl, h.append s.toList rest hfuel, Option.map_some, String.ofList_toList]

end

/-!
# Numbers
-/

theorem readNat_toDigits (n : Nat) : readNat (Nat.toDigits 10 n) = some n := by
  unfold readNat
  rw [Nat.ofDigitChars_ten_toDigits, if_pos rfl]

theorem readInt_intText (n : Int) : readInt (intText n) = some n := by
  unfold intText
  split
  · rename_i hneg
    rw [readInt, if_pos rfl, readNat_toDigits, Option.map_some]
    congr 1
    omega
  · rename_i hpos
    cases hdigits : Nat.toDigits 10 n.natAbs with
    | nil => exact absurd hdigits Nat.toDigits_ne_nil
    | cons c rest =>
        have hc : c ≠ '-' := by
          intro heq
          have hmem : c ∈ Nat.toDigits 10 n.natAbs := hdigits ▸ List.mem_cons_self
          rw [heq] at hmem
          exact absurd (toDigits_isDigit hmem) (by decide)
        rw [readInt, if_neg hc, ← hdigits, readNat_toDigits, Option.map_some]
        congr 1
        omega

theorem dropWhile_number {text r : List Char}
    (htext : forall c, c ∈ text -> isNumberChar c = true) (hr : Delimited r) :
    (text ++ r).dropWhile isNumberChar = r := by
  rw [List.dropWhile_append_of_pos htext]
  cases r with
  | nil => rfl
  | cons c r =>
      have hc : isNumberChar c = false := hr c rfl
      rw [List.dropWhile_cons, hc]
      rfl

section

variable {readFloat : List Char -> Option FloatText} {r text : List Char} {c : Char}

theorem readNumber_int (n : Int) (hr : Delimited r) :
    readNumber readFloat (intText n ++ r) = some (int n, r) := by
  have hchars : forall c, c ∈ intText n -> isNumberChar c = true :=
    fun _ => isNumberChar_intText
  unfold readNumber
  dsimp only
  rw [takeWhile_number hchars hr, dropWhile_number hchars hr, readInt_intText]

theorem readNat_digits {digits : List Char} {n : Nat} (h : readNat digits = some n)
    (hc : c ∈ digits) : c.isDigit = true := by
  unfold readNat at h
  dsimp only at h
  split at h
  · rename_i heq
    rw [← heq] at hc
    exact toDigits_isDigit hc
  · cases h

theorem readInt_digits {n : Int} (h : readInt text = some n) (hc : c ∈ text) :
    c.isDigit = true ∨ c = '-' := by
  cases text with
  | nil => cases hc
  | cons d rest =>
      rw [readInt] at h
      split at h
      · rename_i hd
        rcases Option.map_eq_some_iff.mp h with ⟨k, hk, _⟩
        rcases List.mem_cons.mp hc with heq | hmem
        · exact Or.inr (heq.trans hd)
        · exact Or.inl (readNat_digits hk hmem)
      · rcases Option.map_eq_some_iff.mp h with ⟨k, hk, _⟩
        exact Or.inl (readNat_digits hk hc)

theorem readInt_float (x : FloatText) : readInt x.text = none := by
  cases hread : readInt x.text with
  | none => rfl
  | some n => exact absurd (fun _ => readInt_digits hread) (float_not_digits x)

theorem readNumber_float (x : FloatText) (hx : readFloat x.text = some x) (hr : Delimited r) :
    readNumber readFloat (x.text ++ r) = some (float x, r) := by
  have hchars : forall c, c ∈ x.text -> isNumberChar c = true := fun _ => isNumberChar_float
  unfold readNumber
  dsimp only
  rw [takeWhile_number hchars hr, dropWhile_number hchars hr, readInt_float, hx]
  rfl

/-!
# Objects
-/

variable {members pairs : List (String × Json)}

theorem insertMember_of_new {m : String × Json} (h : m.1 ∉ members.map Prod.fst) :
    insertMember members m = members ++ [m] := by
  rw [insertMember, if_neg h]

theorem foldl_insertMember (h : ((members ++ pairs).map Prod.fst).Nodup) :
    pairs.foldl insertMember members = members ++ pairs := by
  induction pairs generalizing members with
  | nil => exact (List.append_nil members).symm
  | cons m pairs ih =>
      have hnew : m.1 ∉ members.map Prod.fst := by
        intro hmem
        rw [List.map_append] at h
        exact (List.nodup_append.mp h).2.2 m.1 hmem m.1 (by simp) rfl
      rw [List.foldl_cons, insertMember_of_new hnew, ih]
      · simp
      · simpa using h

theorem dictOf_eq (h : (pairs.map Prod.fst).Nodup) : dictOf pairs = pairs :=
  foldl_insertMember h

/-!
# Values
-/

variable {j : Json}

theorem skipBlanks_cons (hc : isBlank c = false) (rest : List Char) :
    skipBlanks (c :: rest) = c :: rest := by
  unfold skipBlanks
  rw [List.dropWhile_cons, hc]
  rfl

/-- A printer, by what it writes for a string and behind the first item or member. -/
structure Printer (print : Json -> List Char) (quote : String -> List Char)
    (itemsTail : List Json -> List Char) (membersTail : List (String × Json) -> List Char) :
    Prop where
  null : print null = "null".toList
  bool : forall b, print (bool b) = if b then "true".toList else "false".toList
  int : forall n, print (int n) = intText n
  float : forall x, print (float x) = x.text
  str : forall s, print (str s) = quote s
  arr_nil : print (arr []) = ['[', ']']
  arr_cons : forall item items,
    print (arr (item :: items)) = '[' :: (print item ++ itemsTail items)
  items_nil : itemsTail [] = [']']
  items_cons : forall item items,
    itemsTail (item :: items) = ',' :: (print item ++ itemsTail items)
  obj_nil : print (obj []) = ['{', '}']
  obj_cons : forall k value members, print (obj ((k, value) :: members)) =
    '{' :: (quote k ++ ':' :: (print value ++ membersTail members))
  members_nil : membersTail [] = ['}']
  members_cons : forall k value members, membersTail ((k, value) :: members) =
    ',' :: (quote k ++ ':' :: (print value ++ membersTail members))
  quotes : forall s, exists rest, quote s = '"' :: rest
  reads : forall s rest, readString (quote s ++ rest) = some (s, rest)

theorem printText_printer :
    Printer printText quotedText printTextItemsTail printTextMembersTail where
  null := rfl
  bool b := by cases b <;> rfl
  int _ := rfl
  float _ := rfl
  str _ := rfl
  arr_nil := rfl
  arr_cons _ _ := rfl
  items_nil := rfl
  items_cons _ _ := rfl
  obj_nil := rfl
  obj_cons _ _ _ := rfl
  members_nil := rfl
  members_cons _ _ _ := rfl
  quotes _ := ⟨_, rfl⟩
  reads := escapeChar_reads.readString

theorem print_printer : Printer print quoted printItemsTail printMembersTail where
  null := rfl
  bool b := by cases b <;> rfl
  int _ := rfl
  float _ := rfl
  str _ := rfl
  arr_nil := rfl
  arr_cons _ _ := rfl
  items_nil := rfl
  items_cons _ _ := rfl
  obj_nil := rfl
  obj_cons _ _ _ := rfl
  members_nil := rfl
  members_cons _ _ _ := rfl
  quotes _ := ⟨_, rfl⟩
  reads s rest := by
    rw [quoted, escape, List.flatMap_assoc]
    exact codeUnits_reads.readString s rest

/-- The reader gets a value back from the front of a longer text. -/
def ReadBack (readFloat : List Char -> Option FloatText) (print : Json -> List Char)
    (j : Json) : Prop :=
  forall fuel r, (print j).length ≤ fuel -> Delimited r ->
    readValue readFloat fuel (print j ++ r) = some (j, r)

theorem isBlank_of_isNumberStart (h : isNumberStart c = true) : isBlank c = false := by
  cases hblank : isBlank c with
  | false => rfl
  | true =>
      simp only [isBlank, Bool.or_eq_true, beq_iff_eq] at hblank
      rcases hblank with ((hc | hc) | hc) | hc
      all_goals
        rw [hc] at h
        exact absurd h (by decide)

/-- Numbers go to the reader of numbers. -/
theorem readValue_number {rest : List Char} (htext : text = c :: rest)
    (hc : isNumberStart c = true) (fuel : Nat) :
    readValue readFloat (fuel + 1) text = readNumber readFloat text := by
  have hkind := headKind_number hc
  have hne : forall d, headKind d ≠ 6 -> c ≠ d := by
    intro d hd heq
    exact hd (heq ▸ hkind)
  rw [htext, readValue, skipBlanks_cons (isBlank_of_isNumberStart hc)]
  dsimp only
  rw [if_neg (hne '"' (by decide)), if_neg (hne '[' (by decide)), if_neg (hne '{' (by decide)),
    if_pos hc]

theorem readItems_comma {rest : List Char} {item : Json}
    (h : readValue readFloat fuel text = some (item, ',' :: rest)) :
    readItems readFloat (fuel + 1) text =
      (readItems readFloat fuel rest).map (fun r => (item :: r.1, r.2)) := by
  rw [readItems, h]
  rfl

theorem readItems_close {text rest : List Char} {item : Json}
    (h : readValue readFloat fuel text = some (item, ']' :: rest)) :
    readItems readFloat (fuel + 1) text = some ([item], rest) := by
  rw [readItems, h]
  rfl

section

variable {print : Json -> List Char} {quote : String -> List Char}
  {itemsTail : List Json -> List Char} {membersTail : List (String × Json) -> List Char}
  (h : Printer print quote itemsTail membersTail)
include h

theorem Printer.items_read {items : List Json} (r : List Char) :
    forall {item : Json} {fuel : Nat},
      (forall x, x ∈ item :: items -> ReadBack readFloat print x) ->
      (print item ++ itemsTail items).length ≤ fuel ->
      readItems readFloat fuel (print item ++ (itemsTail items ++ r))
        = some (item :: items, r) := by
  induction items with
  | nil =>
      intro item fuel ih hfuel
      rw [h.items_nil, List.length_append, List.length_singleton] at hfuel
      cases fuel with
      | zero => cases hfuel
      | succ fuel =>
          rw [h.items_nil]
          exact readItems_close (ih item List.mem_cons_self fuel _ (Nat.le_of_succ_le_succ hfuel)
            (delimited_cons r (by decide)))
  | cons next items ihItems =>
      intro item fuel ih hfuel
      rw [List.length_append, h.items_cons, List.length_cons] at hfuel
      cases fuel with
      | zero => cases hfuel
      | succ fuel =>
          have hitem := ih item List.mem_cons_self fuel
            (',' :: (print next ++ (itemsTail items ++ r))) (by omega)
            (delimited_cons _ (by decide))
          rw [h.items_cons, List.cons_append, List.append_assoc, readItems_comma hitem,
            ihItems (fun x hx => ih x (List.mem_cons_of_mem item hx)) (by omega)]
          rfl

/-- A key with its value, up to the character after it. -/
theorem Printer.member_read {k : String} {value : Json} {d : Char} {rest : List Char}
    (hvalue : ReadBack readFloat print value) (hfuel : (print value).length ≤ fuel)
    (hd : isNumberChar d = false) (hblank : isBlank d = false) :
    readMembers readFloat (fuel + 1) (quote k ++ ':' :: (print value ++ d :: rest)) =
      if d = ',' then
        (readMembers readFloat fuel rest).map fun r => ((k, value) :: r.1, r.2)
      else if d = '}' then some ([(k, value)], rest)
      else none := by
  have hread := hvalue fuel (d :: rest) hfuel (delimited_cons rest hd)
  rw [readMembers, h.reads]
  show (readValue readFloat fuel (print value ++ d :: rest)).bind _ = _
  rw [hread, Option.bind_some, skipBlanks_cons hblank]

theorem Printer.members_read {members : List (String × Json)} (r : List Char) :
    forall {k : String} {value : Json} {fuel : Nat},
      (forall m, m ∈ (k, value) :: members -> ReadBack readFloat print m.2) ->
      (quote k ++ ':' :: (print value ++ membersTail members)).length ≤ fuel ->
      readMembers readFloat fuel
          (quote k ++ ':' :: (print value ++ (membersTail members ++ r)))
        = some ((k, value) :: members, r) := by
  induction members with
  | nil =>
      intro k value fuel ih hfuel
      rw [List.length_append, List.length_cons, List.length_append] at hfuel
      cases fuel with
      | zero => omega
      | succ fuel =>
          have hvalue : ReadBack readFloat print value := ih (k, value) List.mem_cons_self
          rw [h.members_nil]
          exact h.member_read hvalue (by omega) (by decide) (by decide)
  | cons next members ihMembers =>
      intro k value fuel ih hfuel
      rcases next with ⟨k', value'⟩
      rw [List.length_append, List.length_cons, List.length_append, h.members_cons,
        List.length_cons] at hfuel
      cases fuel with
      | zero => omega
      | succ fuel =>
          have hvalue : ReadBack readFloat print value := ih (k, value) List.mem_cons_self
          have hnext := ihMembers (fun m hm => ih m (List.mem_cons_of_mem (k, value) hm))
            (show _ ≤ fuel by omega)
          rw [h.members_cons, List.cons_append,
            h.member_read hvalue (by omega) (by decide) (by decide), if_pos rfl,
            List.append_assoc, List.cons_append, List.append_assoc, hnext]
          rfl

/-- No printed value starts with a blank or with a closing character. -/
theorem Printer.head (j : Json) :
    exists c rest, print j = c :: rest ∧ isBlank c = false ∧ headKind c ≠ 7 := by
  have hnumber : forall c rest, print j = c :: rest -> isNumberStart c = true ->
      exists c rest, print j = c :: rest ∧ isBlank c = false ∧ headKind c ≠ 7 := by
    intro c rest htext hstart
    refine ⟨c, rest, htext, isBlank_of_isNumberStart hstart, ?_⟩
    rw [headKind_number hstart]
    decide
  cases j with
  | null => exact ⟨'n', _, h.null, by decide, by decide⟩
  | bool b =>
      cases b with
      | true => exact ⟨'t', _, h.bool true, by decide, by decide⟩
      | false => exact ⟨'f', _, h.bool false, by decide, by decide⟩
  | int n =>
      rcases intText_head n with ⟨c, rest, htext, hstart⟩
      exact hnumber c rest ((h.int n).trans htext) hstart
  | float x =>
      rcases float_head x with ⟨c, rest, htext, hstart⟩
      exact hnumber c rest ((h.float x).trans htext) hstart
  | str s =>
      rcases h.quotes s with ⟨rest, hquote⟩
      exact ⟨'"', rest, (h.str s).trans hquote, by decide, by decide⟩
  | arr items =>
      cases items with
      | nil => exact ⟨'[', _, h.arr_nil, by decide, by decide⟩
      | cons item items => exact ⟨'[', _, h.arr_cons item items, by decide, by decide⟩
  | obj members =>
      cases members with
      | nil => exact ⟨'{', _, h.obj_nil, by decide, by decide⟩
      | cons m members => exact ⟨'{', _, h.obj_cons m.1 m.2 members, by decide, by decide⟩

theorem Printer.head_ne (j : Json) {c : Char} (hc : headKind c = 7) (r : List Char) :
    (skipBlanks (print j ++ r)).head? ≠ some c := by
  rcases h.head j with ⟨d, rest, htext, hblank, hd⟩
  rw [htext, List.cons_append, skipBlanks_cons hblank]
  intro heq
  injection heq with heq
  rw [heq] at hd
  exact hd hc

theorem Printer.exists_fuel {j : Json} (hfuel : (print j).length ≤ fuel) :
    exists n, fuel = n + 1 := by
  rcases h.head j with ⟨c, rest, htext, _⟩
  rw [htext, List.length_cons] at hfuel
  exact Nat.exists_eq_add_one.mpr (Nat.lt_of_lt_of_le (Nat.succ_pos _) hfuel)

/-- Reading back, for every reader of floats that reads printed floats back. -/
theorem Printer.readBack (hfloat : forall x, readFloat x.text = some x) {j : Json}
    (hj : WellFormed j) : ReadBack readFloat print j := by
  induction j using Json.induct with
  | null =>
      intro fuel r hfuel _
      rcases h.exists_fuel hfuel with ⟨fuel, rfl⟩
      rw [h.null]
      rfl
  | bool b =>
      intro fuel r hfuel _
      rcases h.exists_fuel hfuel with ⟨fuel, rfl⟩
      rw [h.bool]
      cases b <;> rfl
  | int n =>
      intro fuel r hfuel hr
      rcases h.exists_fuel hfuel with ⟨fuel, rfl⟩
      rcases intText_head n with ⟨c, rest, htext, hstart⟩
      rw [h.int, readValue_number (by rw [htext, List.cons_append]) hstart fuel,
        readNumber_int n hr]
  | float x =>
      intro fuel r hfuel hr
      rcases h.exists_fuel hfuel with ⟨fuel, rfl⟩
      rcases float_head x with ⟨c, rest, htext, hstart⟩
      rw [h.float, readValue_number (by rw [htext, List.cons_append]) hstart fuel,
        readNumber_float x (hfloat x) hr]
  | str s =>
      intro fuel r hfuel _
      rcases h.exists_fuel hfuel with ⟨fuel, rfl⟩
      rcases h.quotes s with ⟨rest, hquote⟩
      have hread := h.reads s r
      rw [h.str, readValue]
      rw [hquote] at hread ⊢
      show (readString ('"' :: rest ++ r)).map _ = _
      rw [hread]
      rfl
  | arr items ih =>
      intro fuel r hfuel _
      have hitems := wellFormedItems_iff.mp hj
      rcases h.exists_fuel hfuel with ⟨fuel, rfl⟩
      cases items with
      | nil =>
          rw [h.arr_nil]
          rfl
      | cons item items =>
          rw [h.arr_cons, List.length_cons] at hfuel
          have hread := h.items_read r (fun x hx => ih x hx (hitems x hx))
            (Nat.le_of_succ_le_succ hfuel)
          rw [h.arr_cons, List.cons_append, List.append_assoc, readValue]
          show (if (skipBlanks (print item ++ _)).head? = some ']' then _ else
            (readItems readFloat fuel _).map _) = _
          rw [if_neg (h.head_ne item (by decide) _), hread]
          rfl
  | obj members ih =>
      intro fuel r hfuel _
      have hmembers := wellFormedMembers_iff.mp hj.2
      rcases h.exists_fuel hfuel with ⟨fuel, rfl⟩
      cases members with
      | nil =>
          rw [h.obj_nil]
          rfl
      | cons m members =>
          rcases m with ⟨k, value⟩
          rcases h.quotes k with ⟨rest, hquote⟩
          rw [h.obj_cons, List.length_cons] at hfuel
          have hread := h.members_read r (fun x hx => ih x hx (hmembers x hx))
            (Nat.le_of_succ_le_succ hfuel)
          rw [h.obj_cons, List.cons_append, List.append_assoc, List.cons_append,
            List.append_assoc, readValue]
          rw [hquote] at hread ⊢
          show (readMembers readFloat fuel ('"' :: rest ++ _)).map _ = _
          rw [hread, Option.map_some, dictOf_eq hj.1]

end

theorem loads_dumpsText (hfloat : forall x, readFloat x.text = some x) (hj : WellFormed j) :
    loads readFloat (dumpsText j) = some j := by
  have hread := printText_printer.readBack hfloat hj ((printText j).length + 1) []
    (Nat.le_succ _) delimited_nil
  rw [List.append_nil] at hread
  rw [loads, dumpsText, String.toList_ofList, hread]
  rfl

/-- A printed value determines the value. -/
theorem print_injective {a b : Json} (ha : WellFormed a) (hb : WellFormed b)
    (h : print a = print b) : a = b := by
  let readFloat : List Char -> Option FloatText :=
    fun text => if hx : isFloatText text = true then some ⟨text, hx⟩ else none
  have hfloat : forall x, readFloat x.text = some x := fun x => dif_pos x.shape
  have hread := print_printer.readBack hfloat ha (print a).length [] (Nat.le_refl _)
    delimited_nil
  rw [h, print_printer.readBack hfloat hb (print b).length [] (Nat.le_refl _)
    delimited_nil] at hread
  exact (Prod.mk.inj (Option.some.inj hread)).1.symm

/-!
# What is read is well formed
-/

theorem keys_insertMember (members : List (String × Json)) (m : String × Json) :
    (insertMember members m).map Prod.fst =
      if m.1 ∈ members.map Prod.fst then members.map Prod.fst
      else members.map Prod.fst ++ [m.1] := by
  unfold insertMember
  split
  · rw [List.map_map]
    apply List.map_congr_left
    intro old _
    show (if old.1 = m.1 then m else old).1 = old.1
    split
    · rename_i heq
      exact heq.symm
    · rfl
  · simp

theorem mem_insertMember {m x : String × Json} (h : x ∈ insertMember members m) :
    x = m ∨ x ∈ members := by
  unfold insertMember at h
  split at h
  · rcases List.mem_map.mp h with ⟨old, hold, heq⟩
    split at heq
    · exact Or.inl heq.symm
    · exact Or.inr (heq ▸ hold)
  · rcases List.mem_append.mp h with hmem | hmem
    · exact Or.inr hmem
    · exact Or.inl (List.mem_singleton.mp hmem)

theorem foldl_insertMember_wellFormed (hpairs : forall m, m ∈ pairs -> WellFormed m.2)
    (hmembers : WellFormed (obj members)) :
    WellFormed (obj (pairs.foldl insertMember members)) := by
  induction pairs generalizing members with
  | nil => exact hmembers
  | cons m pairs ih =>
      apply ih (fun x hx => hpairs x (List.mem_cons_of_mem m hx))
      constructor
      · rw [keys_insertMember]
        split
        · exact hmembers.1
        · rename_i hnew
          exact List.nodup_append.mpr ⟨hmembers.1, List.nodup_singleton _,
            fun a ha b hb hab => hnew (List.mem_singleton.mp hb ▸ hab ▸ ha)⟩
      · apply wellFormedMembers_iff.mpr
        intro x hx
        rcases mem_insertMember hx with heq | hold
        · rw [heq]
          exact hpairs m List.mem_cons_self
        · exact wellFormedMembers_iff.mp hmembers.2 x hold

theorem wellFormed_dictOf (h : forall m, m ∈ pairs -> WellFormed m.2) :
    WellFormed (obj (dictOf pairs)) :=
  foldl_insertMember_wellFormed h ⟨List.nodup_nil, trivial⟩

theorem readNumber_wellFormed (h : readNumber readFloat text = some (j, r)) : WellFormed j := by
  unfold readNumber at h
  dsimp only at h
  split at h
  · cases h
    trivial
  · rcases Option.map_eq_some_iff.mp h with ⟨x, _, heq⟩
    cases heq
    trivial

theorem readWord_eq_some {word : List Char} {value : Json}
    (h : readWord word value text = some (j, r)) : j = value := by
  unfold readWord at h
  split at h
  · cases h
    rfl
  · cases h

theorem read_wellFormed (fuel : Nat) :
    (forall text j r, readValue readFloat fuel text = some (j, r) -> WellFormed j) ∧
    (forall text items r, readItems readFloat fuel text = some (items, r) ->
      forall item, item ∈ items -> WellFormed item) ∧
    (forall text members r, readMembers readFloat fuel text = some (members, r) ->
      forall m, m ∈ members -> WellFormed m.2) := by
  induction fuel with
  | zero =>
      refine ⟨?_, ?_, ?_⟩
      all_goals
        intro text value r h
        cases h
  | succ fuel ih =>
      rcases ih with ⟨ihValue, ihItems, ihMembers⟩
      refine ⟨?_, ?_, ?_⟩
      · intro text j r h
        rw [readValue] at h
        split at h
        · cases h
        · split at h
          · rcases Option.map_eq_some_iff.mp h with ⟨_, _, heq⟩
            cases heq
            trivial
          · split at h
            · split at h
              · cases h
                trivial
              · rcases Option.map_eq_some_iff.mp h with ⟨items, hitems, heq⟩
                cases heq
                exact wellFormedItems_iff.mpr (ihItems _ _ _ hitems)
            · split at h
              · split at h
                · cases h
                  exact ⟨List.nodup_nil, trivial⟩
                · rcases Option.map_eq_some_iff.mp h with ⟨members, hmembers, heq⟩
                  cases heq
                  exact wellFormed_dictOf (ihMembers _ _ _ hmembers)
              · split at h
                · exact readNumber_wellFormed h
                · rcases Option.or_eq_some_iff.mp h with hword | ⟨_, h⟩
                  · rw [readWord_eq_some hword]
                    trivial
                  · rcases Option.or_eq_some_iff.mp h with hword | ⟨_, hword⟩
                    · rw [readWord_eq_some hword]
                      trivial
                    · rw [readWord_eq_some hword]
                      trivial
      · intro text items r h
        rw [readItems] at h
        rcases Option.bind_eq_some_iff.mp h with ⟨first, hfirst, h⟩
        have hvalue := ihValue _ _ _ hfirst
        split at h
        · cases h
        · split at h
          · rcases Option.map_eq_some_iff.mp h with ⟨rest, hrest, heq⟩
            cases heq
            exact List.forall_mem_cons.mpr ⟨hvalue, ihItems _ _ _ hrest⟩
          · split at h
            · cases h
              exact List.forall_mem_singleton.mpr hvalue
            · cases h
      · intro text members r h
        rw [readMembers] at h
        rcases Option.bind_eq_some_iff.mp h with ⟨k, _, h⟩
        split at h
        · cases h
        · rcases Option.ite_none_right_eq_some.mp h with ⟨_, h⟩
          rcases Option.bind_eq_some_iff.mp h with ⟨first, hfirst, h⟩
          have hvalue := ihValue _ _ _ hfirst
          split at h
          · cases h
          · split at h
            · rcases Option.map_eq_some_iff.mp h with ⟨rest, hrest, heq⟩
              cases heq
              exact List.forall_mem_cons.mpr ⟨hvalue, ihMembers _ _ _ hrest⟩
            · split at h
              · cases h
                exact List.forall_mem_singleton.mpr hvalue
              · cases h

theorem loads_wellFormed {text : String} (h : loads readFloat text = some j) : WellFormed j := by
  rcases Option.bind_eq_some_iff.mp h with ⟨r, hread, hrest⟩
  split at hrest
  · cases hrest
    exact (read_wellFormed _).1 _ _ _ hread
  · cases hrest

end

end Json
end Foundation
end MessagingSystem
