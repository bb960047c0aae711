import MessagingSystem.Core.Identifiers

/-!
# Channel slugs

A channel without an explicit slug gets one from its name, and a taken slug gets
a numeric suffix.  The search for a free suffix is unbounded in the source; here
it has fuel for two more tries than there are slugs, and that is always enough.
-/

namespace MessagingSystem

open Foundation

/-!
# Slugs from names
-/

variable {cs : List Char} {c : Char}

/-- `re.sub(r"[^...]+", "-", text)`: every run of rejected characters is a dash. -/
def collapseRuns (keep : Char -> Bool) : Bool -> List Char -> List Char
  | _, [] => []
  | inRun, c :: cs =>
      if keep c then c :: collapseRuns keep false cs
      else if inRun then collapseRuns keep true cs
      else '-' :: collapseRuns keep true cs

def isDash (c : Char) : Bool :=
  c == '-'

def isLowerAlphanum (c : Char) : Bool :=
  c.isLower || c.isDigit

/-- `text or "channel"`. -/
def orChannel (cs : List Char) : String :=
  if cs = [] then "channel" else String.ofList cs

def dashedName (raw : String) : List Char :=
  collapseRuns (fun c => !isDash c) false
    (stripChars isDash
      (collapseRuns isLowerAlphanum false (lower (strip raw)).toList))

def paddedName (name : List Char) : List Char :=
  if name.length < 3 then name ++ "-channel".toList else name

def slugify (raw : String) : String :=
  if dashedName raw = [] then "channel"
  else orChannel (stripChars isDash
    ((paddedName (dashedName raw)).take safeIdentifierMaxLength))

theorem collapseRuns_slugChar {keep : Char -> Bool} {inRun : Bool}
    (h : forall c, c ∈ cs -> keep c = true -> isSlugChar c = true)
    (hc : c ∈ collapseRuns keep inRun cs) : isSlugChar c = true := by
  induction cs generalizing inRun with
  | nil => cases hc
  | cons d cs ih =>
      have htail := fun b => @ih b (fun c hc => h c (List.mem_cons_of_mem d hc))
      unfold collapseRuns at hc
      split at hc
      · rename_i hkeep
        rcases List.mem_cons.mp hc with rfl | hc
        · exact h c List.mem_cons_self hkeep
        · exact htail false hc
      · split at hc
        · exact htail true hc
        · rcases List.mem_cons.mp hc with rfl | hc
          · rfl
          · exact htail true hc

theorem stripChars_sublist (p : Char -> Bool) (cs : List Char) :
    (stripChars p cs).Sublist cs := by
  have hback := (List.dropWhile_sublist p (l := (cs.dropWhile p).reverse)).reverse
  rw [List.reverse_reverse] at hback
  exact hback.trans (List.dropWhile_sublist p)

theorem isSlugText_channel : IsSlugText "channel" :=
  isSlugText_of_all rfl

theorem orChannel_text (h : forall c, c ∈ cs -> isSlugChar c = true) :
    IsSlugText (orChannel cs) := by
  unfold orChannel
  split
  · exact isSlugText_channel
  · intro c hc
    rw [String.toList_ofList] at hc
    exact h c hc

theorem dashedName_slugChar {raw : String} (h : c ∈ dashedName raw) : isSlugChar c = true := by
  refine collapseRuns_slugChar (fun d hd _ => ?_) h
  refine collapseRuns_slugChar (fun e _ he => ?_) ((stripChars_sublist _ _).mem hd)
  simp only [isLowerAlphanum, Bool.or_eq_true] at he
  simp only [isSlugChar, Bool.or_eq_true]
  exact Or.inl (Or.inl he)

theorem paddedName_slugChar {name : List Char} (hname : forall c, c ∈ name -> isSlugChar c = true)
    (h : c ∈ paddedName name) : isSlugChar c = true := by
  have hpad : IsSlugText "-channel" := isSlugText_of_all rfl
  unfold paddedName at h
  split at h
  · rcases List.mem_append.mp h with h | h
    · exact hname c h
    · exact hpad c h
  · exact hname c h

theorem slugify_text (raw : String) : IsSlugText (slugify raw) := by
  unfold slugify
  split
  · exact isSlugText_channel
  · refine orChannel_text (fun c hc => ?_)
    exact paddedName_slugChar (fun d hd => dashedName_slugChar hd)
      (List.mem_of_mem_take ((stripChars_sublist _ _).mem hc))

/-!
# Lengths

Two dashes are never neighbours in a dashed name, so a prefix of fifty characters keeps many
others; a shorter name starts and ends with no dash and is not stripped.
-/

def collapseDashes (inRun : Bool) (cs : List Char) : List Char :=
  collapseRuns (fun c => !isDash c) inRun cs

theorem collapseDashes_concat (hc : isDash c = false) (inRun : Bool) (cs : List Char) :
    collapseDashes inRun (cs ++ [c]) = collapseDashes inRun cs ++ [c] := by
  unfold collapseDashes
  induction cs generalizing inRun with
  | nil => simp [collapseRuns, hc]
  | cons d cs ih =>
      simp only [List.cons_append, collapseRuns]
      split
      · rw [ih, List.cons_append]
      · split
        · exact ih true
        · rw [ih, List.cons_append]

theorem stripChars_collapseDashes (hfirst : forall c, c ∈ cs.head? -> isDash c = false)
    (hlast : forall c, c ∈ cs.getLast? -> isDash c = false) :
    stripChars isDash (collapseDashes false cs) = collapseDashes false cs := by
  apply stripChars_eq_self
  · intro c hc
    cases cs with
    | nil => cases hc
    | cons d cs =>
        have hd := hfirst d rfl
        simp only [collapseDashes, collapseRuns, hd, Bool.not_false, if_true] at hc
        cases hc
        exact hd
  · intro c hc
    rcases List.eq_nil_or_concat cs with heq | ⟨before, last, heq⟩
    · rw [heq] at hc
      cases hc
    · have hd := hlast last (by simp [heq])
      rw [heq, List.concat_eq_append, collapseDashes_concat hd, List.getLast?_concat] at hc
      cases hc
      exact hd

theorem length_take_collapseDashes (inRun : Bool) (cs : List Char) (n : Nat) :
    ((collapseDashes inRun cs).take n).length
      ≤ 2 * ((collapseDashes inRun cs).take n).countP (fun c => !isDash c)
        + (if inRun then 0 else 1) := by
  unfold collapseDashes
  induction cs generalizing inRun n with
  | nil => simp [collapseRuns]
  | cons c cs ih =>
      unfold collapseRuns
      cases n with
      | zero => simp
      | succ n =>
          split
          · rename_i hkeep
            have hrest := ih false n
            rw [List.take_succ_cons, List.length_cons,
              List.countP_cons_of_pos (p := fun c => !isDash c) hkeep]
            simp only [Bool.false_eq_true, if_false] at hrest
            omega
          · rename_i hdash
            split
            · exact ih true (n + 1)
            · have hrest := ih true n
              rw [List.take_succ_cons, List.length_cons,
                List.countP_cons_of_neg (by decide)]
              simp only [if_true] at hrest
              omega

theorem countP_stripChars (p : Char -> Bool) (cs : List Char) :
    (stripChars p cs).countP (fun c => !p c) = cs.countP (fun c => !p c) := by
  have hdrop : forall ds : List Char,
      (ds.dropWhile p).countP (fun c => !p c) = ds.countP (fun c => !p c) := by
    intro ds
    induction ds with
    | nil => rfl
    | cons d ds ih =>
        rw [List.dropWhile_cons]
        split
        · rename_i hd
          rw [ih, List.countP_cons_of_neg (by simp [hd])]
        · rfl
  rw [stripChars, List.countP_reverse, hdrop, List.countP_reverse, hdrop]

theorem slugify_length (raw : String) :
    3 ≤ (slugify raw).toList.length ∧ (slugify raw).toList.length ≤ safeIdentifierMaxLength := by
  unfold slugify orChannel
  split
  · decide
  split
  · decide
  rw [String.toList_ofList]
  have hcount := countP_stripChars isDash
    ((paddedName (dashedName raw)).take safeIdentifierMaxLength)
  have hmany := List.countP_le_length (p := fun c => !isDash c)
    (l := stripChars isDash ((paddedName (dashedName raw)).take safeIdentifierMaxLength))
  constructor
  · by_cases hshort : (dashedName raw).length < 3
    · have hall : (paddedName (dashedName raw)).take safeIdentifierMaxLength
          = dashedName raw ++ "-channel".toList := by
        rw [paddedName, if_pos hshort]
        refine List.take_of_length_le ?_
        rw [List.length_append]
        exact Nat.le_trans (Nat.add_le_add_right (Nat.le_of_lt hshort) _) (by decide)
      have hchannel : "-channel".toList.countP (fun c => !isDash c) = 7 := by decide
      rw [hall, List.countP_append, hchannel] at hcount
      rw [hall] at hmany ⊢
      omega
    · rw [paddedName, if_neg hshort] at hcount hmany ⊢
      by_cases hfits : (dashedName raw).length ≤ safeIdentifierMaxLength
      · have hends := stripChars_ends isDash
          (collapseRuns isLowerAlphanum false (lower (strip raw)).toList)
        have hname : stripChars isDash (dashedName raw) = dashedName raw :=
          stripChars_collapseDashes hends.1 hends.2
        rw [List.take_of_length_le hfits, hname]
        exact Nat.le_of_not_lt hshort
      · have hlong : ((dashedName raw).take safeIdentifierMaxLength).length
            ≤ 2 * ((dashedName raw).take safeIdentifierMaxLength).countP (fun c => !isDash c) + 1 :=
          length_take_collapseDashes false _ _
        rw [List.length_take_of_le (Nat.le_of_not_le hfits)] at hlong
        have hfifty : safeIdentifierMaxLength = 50 := rfl
        omega
  · exact Nat.le_trans (stripChars_sublist _ _).length_le (List.length_take_le _ _)

/-!
# Free slugs
-/

variable {base candidate slug : String} {slugs : List String} {fuel suffix : Nat}
  {s baseSlug : String}

def suffixToken (suffix : Nat) : List Char :=
  '-' :: Nat.toDigits 10 suffix

def suffixedSlug (base : String) (suffix : Nat) : String :=
  String.ofList
    (base.toList.take (max 1 (safeIdentifierMaxLength - (suffixToken suffix).length))
      ++ suffixToken suffix)

def searchSlug (slugs : List String) (base : String) :
    Nat -> String -> Nat -> Option String
  | 0, _, _ => none
  | fuel + 1, candidate, suffix =>
      if candidate ∈ slugs then
        searchSlug slugs base fuel (suffixedSlug base suffix) (suffix + 1)
      else some candidate

def slugBase (baseSlug : String) : String :=
  orChannel (baseSlug.toList.take safeIdentifierMaxLength)

def nextAvailableSlug (slugs : List String) (baseSlug : String) : Option String :=
  searchSlug slugs (slugBase baseSlug) (slugs.length + 2) (slugBase baseSlug) 2

theorem isSlugText_take (h : IsSlugText s) (n : Nat) :
    forall c, c ∈ s.toList.take n -> isSlugChar c = true :=
  fun c hc => h c (List.mem_of_mem_take hc)

theorem suffixedSlug_text (h : IsSlugText base) (suffix : Nat) :
    IsSlugText (suffixedSlug base suffix) := by
  intro c hc
  rw [suffixedSlug, String.toList_ofList] at hc
  rcases List.mem_append.mp hc with hc | hc
  · exact isSlugText_take h _ c hc
  · rcases List.mem_cons.mp hc with rfl | hc
    · rfl
    · simp [isSlugChar, toDigits_isDigit hc]

theorem slugBase_text (h : IsSlugText baseSlug) : IsSlugText (slugBase baseSlug) :=
  orChannel_text (isSlugText_take h safeIdentifierMaxLength)

theorem searchSlug_spec (hbase : IsSlugText base) (hcandidate : IsSlugText candidate)
    (h : searchSlug slugs base fuel candidate suffix = some slug) :
    slug ∉ slugs ∧ IsSlugText slug := by
  induction fuel generalizing candidate suffix with
  | zero => cases h
  | succ fuel ih =>
      unfold searchSlug at h
      split at h
      · exact ih (suffixedSlug_text hbase suffix) h
      · rename_i hfree
        cases h
        exact ⟨hfree, hcandidate⟩

theorem nextAvailableSlug_spec (hbase : IsSlugText baseSlug)
    (h : nextAvailableSlug slugs baseSlug = some slug) : slug ∉ slugs ∧ IsSlugText slug :=
  searchSlug_spec (slugBase_text hbase) (slugBase_text hbase) h

/-!
# The search ends

Distinct suffixes give distinct candidates, so the candidates outnumber the
slugs that could be taken.
-/

theorem suffixedSlug_injective {m n : Nat} (h : suffixedSlug base m = suffixedSlug base n) :
    m = n := by
  have hlist := congrArg String.toList h
  rw [suffixedSlug, suffixedSlug, String.toList_ofList, String.toList_ofList] at hlist
  -- Read from the right, the digits end at the first dash.
  have hdigits : forall (front : List Char) (k : Nat),
      ((front ++ suffixToken k).reverse.takeWhile Char.isDigit)
        = (Nat.toDigits 10 k).reverse := by
    intro front k
    rw [List.reverse_append, suffixToken, List.reverse_cons, List.append_assoc,
      List.takeWhile_append_of_pos
        (fun c hc => toDigits_isDigit (List.mem_reverse.mp hc))]
    exact List.append_nil _
  have heq := congrArg (fun l => l.reverse.takeWhile Char.isDigit) hlist
  simp only [hdigits, List.reverse_inj] at heq
  exact toDigits_injective heq

theorem searchSlug_none (h : searchSlug slugs base (fuel + 1) candidate suffix = none) :
    forall i, i < fuel -> suffixedSlug base (suffix + i) ∈ slugs := by
  induction fuel generalizing candidate suffix with
  | zero =>
      intro i hi
      exact absurd hi (Nat.not_lt_zero i)
  | succ fuel ih =>
      unfold searchSlug at h
      split at h
      · intro i hi
        cases i with
        | zero =>
            unfold searchSlug at h
            split at h
            · assumption
            · cases h
        | succ i =>
            have hnext := ih h i (Nat.lt_of_succ_lt_succ hi)
            rwa [Nat.add_assoc, Nat.add_comm 1 i] at hnext
      · cases h

theorem nextAvailableSlug_isSome (slugs : List String) (baseSlug : String) :
    (nextAvailableSlug slugs baseSlug).isSome := by
  rw [Option.isSome_iff_ne_none]
  intro hnone
  have hall := searchSlug_none hnone
  let candidates := (List.range (slugs.length + 1)).map
    (fun i => suffixedSlug (slugBase baseSlug) (2 + i))
  have hnodup : candidates.Nodup := by
    refine List.Nodup.map ?_ List.nodup_range
    intro i j hij
    exact Nat.add_left_cancel (suffixedSlug_injective hij)
  have hsubset : candidates ⊆ slugs := by
    intro s hs
    rcases List.mem_map.mp hs with ⟨i, hi, rfl⟩
    exact hall i (List.mem_range.mp hi)
  have hlength := (List.subperm_of_subset hnodup hsubset).length_le
  rw [List.length_map, List.length_range] at hlength
  exact absurd hlength (Nat.not_succ_le_self slugs.length)

/-!
# Slugs are safe
-/

theorem isSafeIdentifier_of_slugText (h : IsSlugText s)
    (hlength : 3 ≤ s.toList.length ∧ s.toList.length ≤ safeIdentifierMaxLength) :
    isSafeIdentifier s = true := by
  unfold isSafeIdentifier
  rw [Bool.and_eq_true, Bool.and_eq_true, decide_eq_true_iff, decide_eq_true_iff,
    List.all_eq_true]
  refine ⟨hlength, ?_⟩
  intro c hc
  have hchar := h c hc
  simp only [isSlugChar, Bool.or_eq_true] at hchar
  simp only [isSafeIdentifierChar, Char.isAlphanum, Char.isAlpha, Bool.or_eq_true]
  tauto

theorem searchSlug_candidate (h : searchSlug slugs base fuel candidate suffix = some slug) :
    slug = candidate ∨ exists k, k < suffix + fuel ∧ slug = suffixedSlug base k := by
  induction fuel generalizing candidate suffix with
  | zero => cases h
  | succ fuel ih =>
      unfold searchSlug at h
      split at h
      · rcases ih h with heq | ⟨k, hk, heq⟩
        · exact Or.inr ⟨suffix, Nat.lt_add_of_pos_right (Nat.succ_pos fuel), heq⟩
        · exact Or.inr ⟨k, by omega, heq⟩
      · exact Or.inl (Option.some.inj h).symm

/-- A suffix of at most forty-one digits leaves eight characters of the base. -/
theorem suffixedSlug_length (hbase : 3 ≤ base.toList.length) (hsuffix : suffix < 10 ^ 41) :
    3 ≤ (suffixedSlug base suffix).toList.length ∧
      (suffixedSlug base suffix).toList.length ≤ safeIdentifierMaxLength := by
  have hdigits := (Nat.length_toDigits_le_iff (b := 10) (by decide) (by decide)).mpr hsuffix
  rw [suffixedSlug, String.toList_ofList, List.length_append, List.length_take, suffixToken,
    List.length_cons]
  have hfifty : safeIdentifierMaxLength = 50 := rfl
  omega

theorem nextAvailableSlug_safe (hfew : slugs.length < 10 ^ 40) (htext : IsSlugText base)
    (hlength : 3 ≤ base.toList.length ∧ base.toList.length ≤ safeIdentifierMaxLength) :
    exists slug, nextAvailableSlug slugs base = some slug ∧ slug ∉ slugs ∧
      isSafeIdentifier slug = true := by
  rcases Option.isSome_iff_exists.mp (nextAvailableSlug_isSome slugs base) with ⟨slug, hslug⟩
  have hspec := nextAvailableSlug_spec htext hslug
  refine ⟨slug, hslug, hspec.1, isSafeIdentifier_of_slugText hspec.2 ?_⟩
  have hbase : slugBase base = base := by
    unfold slugBase orChannel
    rw [List.take_of_length_le hlength.2, if_neg, String.ofList_toList]
    intro hnil
    rw [hnil] at hlength
    exact absurd hlength.1 (by decide)
  unfold nextAvailableSlug at hslug
  rw [hbase] at hslug
  rcases searchSlug_candidate hslug with heq | ⟨k, hk, heq⟩
  · rw [heq]
    exact hlength
  · rw [heq]
    exact suffixedSlug_length hlength.1 (by omega)

/--
Every name and every accepted client slug gets a free slug that matches the pattern.  The
search makes one lookup for each unit of fuel, and has two more than there are slugs.
-/
theorem free_slug_is_safe (slugs : List String) (hfew : slugs.length < 10 ^ 40) :
    (forall name, exists slug, nextAvailableSlug slugs (slugify name) = some slug ∧
      slug ∉ slugs ∧ isSafeIdentifier slug = true) ∧
    forall value base, normalizeChannelSlug value = Except.ok base ->
      exists slug, nextAvailableSlug slugs base = some slug ∧ slug ∉ slugs ∧
        isSafeIdentifier slug = true := by
  constructor
  · intro name
    exact nextAvailableSlug_safe hfew (slugify_text name) (slugify_length name)
  · intro value base hbase
    refine nextAvailableSlug_safe hfew (normalizeChannelSlug_text hbase) ?_
    unfold normalizeChannelSlug normalizeIdentifier at hbase
    simp only [if_true] at hbase
    split at hbase
    · rename_i hsafe
      simp only [isSafeIdentifier, Bool.and_eq_true, decide_eq_true_eq] at hsafe
      have heq : lower (strip value) = base := Except.ok.inj hbase
      exact heq ▸ hsafe.1
    · cases hbase

theorem taken_name_gets_free_slug :
    exists slug, nextAvailableSlug ["a-channel", "a-channel-2"] (slugify " A! ") = some slug ∧
      slug ∉ ["a-channel", "a-channel-2"] ∧ isSafeIdentifier slug = true :=
  (free_slug_is_safe ["a-channel", "a-channel-2"] (by decide)).1 " A! "

end MessagingSystem
