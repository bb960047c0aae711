import MessagingSystem.Core.Values

/-!
# Broker-safe identifiers

Usernames and channel slugs become parts of routing keys, so both are held to
`SAFE_IDENTIFIER_PATTERN`.  A slug is lower-cased as well, and text that is
already a slug passes through the normalization unchanged.
-/

namespace MessagingSystem

/-!
# Text operations of the standard library
-/

/-- The characters `str.strip` removes. -/
def isSpace (c : Char) : Bool :=
  let n := c.toNat
  (9 ≤ n && n ≤ 13) || (28 ≤ n && n ≤ 32) || n == 0x85 || n == 0xa0 ||
    n == 0x1680 || (0x2000 ≤ n && n ≤ 0x200a) || n == 0x2028 || n == 0x2029 ||
    n == 0x202f || n == 0x205f || n == 0x3000

def stripChars (p : Char -> Bool) (cs : List Char) : List Char :=
  ((cs.dropWhile p).reverse.dropWhile p).reverse

def strip (s : String) : String :=
  String.ofList (stripChars isSpace s.toList)

/--
`str.lower` on one character.  Two characters outside ASCII have ASCII letters
in their lower case; every other one stays outside ASCII, where no identifier
pattern accepts it.
-/
def lowerChar (c : Char) : List Char :=
  if c.toNat = 0x130 then ['i', Char.ofNat 0x307]
  else if c.toNat = 0x212a then ['k']
  else [c.toLower]

def lower (s : String) : String :=
  String.ofList (s.toList.flatMap lowerChar)

/-!
# The identifier pattern
-/

def safeIdentifierMaxLength : Nat := 50

def isSafeIdentifierChar (c : Char) : Bool :=
  c.isAlphanum || c == '_' || c == '-'

/-- `SAFE_IDENTIFIER_RE.fullmatch(value)`. -/
def isSafeIdentifier (s : String) : Bool :=
  3 ≤ s.toList.length && s.toList.length ≤ safeIdentifierMaxLength &&
    s.toList.all isSafeIdentifierChar

def normalizeIdentifier (value field : String) (lowercase : Bool) :
    Except Failure String :=
  let normalized := if lowercase then lower (strip value) else strip value
  if isSafeIdentifier normalized then pure normalized
  else throw (appError (field ++ " must match ^[A-Za-z0-9_-]\x7b3,50\x7d$") 400
    "VALIDATION_ERROR" [("field", field)])

def normalizeUsername (value : String) : Except Failure String :=
  normalizeIdentifier value "username" false

def normalizeChannelSlug (value : String) : Except Failure String :=
  normalizeIdentifier value "channel_slug" true

/-!
# Slug text

`IsSlugText` is what survives of the pattern for every slug the service stores:
no upper-case letter and no character that `strip` or `lower` would touch.
-/

variable {s : String} {c : Char}

def isSlugChar (c : Char) : Bool :=
  c.isLower || c.isDigit || c == '_' || c == '-'

def IsSlugText (s : String) : Prop :=
  forall c, c ∈ s.toList -> isSlugChar c = true

theorem isSlugText_of_all (h : s.toList.all isSlugChar = true) : IsSlugText s :=
  List.all_eq_true.mp h

theorem isSlugChar_range (h : isSlugChar c = true) :
    (97 ≤ c.toNat ∧ c.toNat ≤ 122) ∨ (48 ≤ c.toNat ∧ c.toNat ≤ 57) ∨
      c.toNat = 95 ∨ c.toNat = 45 := by
  simp only [isSlugChar, Char.isLower, Char.isDigit, Bool.or_eq_true,
    Bool.and_eq_true, decide_eq_true_eq, beq_iff_eq] at h
  rcases h with ((⟨hlo, hhi⟩ | ⟨hlo, hhi⟩) | hus) | hdash
  · exact Or.inl ⟨hlo, hhi⟩
  · exact Or.inr (Or.inl ⟨hlo, hhi⟩)
  · subst hus
    exact Or.inr (Or.inr (Or.inl rfl))
  · subst hdash
    exact Or.inr (Or.inr (Or.inr rfl))

theorem isSlugChar_not_space (h : isSlugChar c = true) : isSpace c = false := by
  have hrange := isSlugChar_range h
  simp only [isSpace, Bool.or_eq_false_iff, Bool.and_eq_false_iff,
    decide_eq_false_iff_not, beq_eq_false_iff_ne, ne_eq]
  omega

theorem lowerChar_of_isSlugChar (h : isSlugChar c = true) : lowerChar c = [c] := by
  have hrange := isSlugChar_range h
  have hupper : ¬(c.val ≥ 'A'.val ∧ c.val ≤ 'Z'.val) := by
    rintro ⟨hlo, hhi⟩
    have hlo' : 65 ≤ c.toNat := hlo
    have hhi' : c.toNat ≤ 90 := hhi
    omega
  have hlower : c.toLower = c := by
    unfold Char.toLower
    rw [dif_neg hupper]
  unfold lowerChar
  rw [if_neg (by omega), if_neg (by omega), hlower]

section

variable {p : Char -> Bool} {cs : List Char}

theorem head?_dropWhile_false {c : Char} (h : c ∈ (cs.dropWhile p).head?) : p c = false := by
  have hnot := List.head?_dropWhile_not p cs
  rw [Option.mem_def.mp h] at hnot
  exact hnot

theorem stripChars_ends (p : Char -> Bool) (cs : List Char) :
    (forall c, c ∈ (stripChars p cs).head? -> p c = false) ∧
      forall c, c ∈ (stripChars p cs).getLast? -> p c = false := by
  constructor
  · intro c hc
    rcases List.rdropWhile_prefix p (cs.dropWhile p) with ⟨dropped, hprefix⟩
    refine head?_dropWhile_false (?_ : c ∈ (cs.dropWhile p).head?)
    rw [← hprefix]
    exact List.mem_head?_append_of_mem_head? hc
  · intro c hc
    rw [stripChars, List.getLast?_reverse] at hc
    exact head?_dropWhile_false hc

theorem stripChars_eq_self (hfirst : forall c, c ∈ cs.head? -> p c = false)
    (hlast : forall c, c ∈ cs.getLast? -> p c = false) : stripChars p cs = cs := by
  have hid : forall ds : List Char, (forall c, c ∈ ds.head? -> p c = false) ->
      ds.dropWhile p = ds := by
    intro ds hds
    cases ds with
    | nil => rfl
    | cons d ds => simp [List.dropWhile, hds d rfl]
  unfold stripChars
  rw [hid cs hfirst, hid cs.reverse (by rwa [List.head?_reverse]), List.reverse_reverse]

theorem stripChars_of_all_false (h : forall c, c ∈ cs -> p c = false) : stripChars p cs = cs :=
  stripChars_eq_self (fun c hc => h c (List.mem_of_mem_head? hc))
    (fun c hc => h c (List.mem_of_mem_getLast? hc))

theorem stripChars_stripChars (p : Char -> Bool) (cs : List Char) :
    stripChars p (stripChars p cs) = stripChars p cs :=
  stripChars_eq_self (stripChars_ends p cs).1 (stripChars_ends p cs).2

end

theorem strip_strip (s : String) : strip (strip s) = strip s := by
  unfold strip
  rw [String.toList_ofList, stripChars_stripChars]

theorem strip_of_isSlugText (h : IsSlugText s) : strip s = s := by
  unfold strip
  rw [stripChars_of_all_false (fun c hc => isSlugChar_not_space (h c hc)),
    String.ofList_toList]

theorem lower_of_isSlugText (h : IsSlugText s) : lower s = s := by
  have hflat : forall cs : List Char,
      (forall c, c ∈ cs -> isSlugChar c = true) -> cs.flatMap lowerChar = cs := by
    intro cs hcs
    induction cs with
    | nil => rfl
    | cons c cs ih =>
        rw [List.flatMap_cons, lowerChar_of_isSlugChar (hcs c List.mem_cons_self),
          ih (fun d hd => hcs d (List.mem_cons_of_mem c hd))]
        rfl
  unfold lower
  rw [hflat s.toList h, String.ofList_toList]

/-- A stored slug is its own normal form whenever it is accepted at all. -/
theorem normalizeChannelSlug_eq {k : String} (h : IsSlugText s)
    (hk : normalizeChannelSlug s = Except.ok k) : k = s := by
  unfold normalizeChannelSlug normalizeIdentifier at hk
  simp only [if_true, strip_of_isSlugText h, lower_of_isSlugText h] at hk
  split at hk
  · cases hk
    rfl
  · cases hk

theorem toLower_not_upper (c : Char) :
    ¬(c.toLower.val ≥ 'A'.val ∧ c.toLower.val ≤ 'Z'.val) := by
  unfold Char.toLower
  split
  · rename_i hupper
    rintro ⟨_, hhi⟩
    have hlo : 65 ≤ c.val.toNat := hupper.left
    have hle : c.val.toNat ≤ 90 := hupper.right
    have hhi' : (c.val + ('a'.val - 'A'.val)).toNat ≤ 90 := hhi
    have hsum : (c.val + ('a'.val - 'A'.val)).toNat = c.val.toNat + 32 := by
      rw [UInt32.toNat_add]
      exact Nat.mod_eq_of_lt (Nat.lt_of_le_of_lt (Nat.add_le_add_right hle 32) (by decide))
    omega
  · assumption

theorem isSlugChar_of_safe (hupper : ¬(c.val ≥ 'A'.val ∧ c.val ≤ 'Z'.val))
    (hsafe : isSafeIdentifierChar c = true) : isSlugChar c = true := by
  simp only [isSafeIdentifierChar, Char.isAlphanum, Char.isAlpha, Char.isUpper,
    Bool.or_eq_true, decide_eq_true_eq] at hsafe
  simp only [isSlugChar, Bool.or_eq_true]
  tauto

theorem isSlugChar_of_lowerChar {d : Char} (hd : d ∈ lowerChar c)
    (hsafe : isSafeIdentifierChar d = true) : isSlugChar d = true := by
  unfold lowerChar at hd
  split at hd
  · rcases List.mem_pair.mp hd with rfl | rfl
    · rfl
    · exact absurd hsafe (by decide)
  · split at hd
    · rw [List.mem_singleton.mp hd]
      rfl
    · rw [List.mem_singleton.mp hd] at hsafe ⊢
      exact isSlugChar_of_safe (toLower_not_upper c) hsafe

theorem normalizeChannelSlug_text {value k : String}
    (h : normalizeChannelSlug value = Except.ok k) : IsSlugText k := by
  unfold normalizeChannelSlug normalizeIdentifier at h
  simp only [if_true] at h
  split at h
  · rename_i hsafe
    have hk : lower (strip value) = k := Except.ok.inj h
    intro c hc
    rw [← hk] at hc
    have hchars : c ∈ (strip value).toList.flatMap lowerChar := by
      rwa [lower, String.toList_ofList] at hc
    rcases List.mem_flatMap.mp hchars with ⟨b, _, hb⟩
    simp only [isSafeIdentifier, Bool.and_eq_true, List.all_eq_true] at hsafe
    exact isSlugChar_of_lowerChar hb (hsafe.right c hc)
  · cases h

/-!
# Validated request fields

Request schemas run `validate_channel_slug` before a service sees the value, so
a validated slug carries what the validation established.
-/

structure ValidSlug where
  text : String
  safe : isSafeIdentifier text = true
  slugText : IsSlugText text

theorem isSlugText_of_safe {value : String}
    (h : isSafeIdentifier (lower (strip value)) = true) :
    IsSlugText (lower (strip value)) := by
  have hok : normalizeChannelSlug value = Except.ok (lower (strip value)) := by
    unfold normalizeChannelSlug normalizeIdentifier
    simp only [if_true]
    rw [if_pos h]
    rfl
  exact normalizeChannelSlug_text hok

def validateChannelSlug (value : String) : Except Failure ValidSlug :=
  if h : isSafeIdentifier (lower (strip value)) = true then
    pure ⟨lower (strip value), h, isSlugText_of_safe h⟩
  else throw (Failure.valueError
    "channel_slug must match ^[A-Za-z0-9_-]\x7b3,50\x7d$")

end MessagingSystem
