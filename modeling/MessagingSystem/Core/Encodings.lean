import MessagingSystem.Core.Values
import MessagingSystem.Foundation.JsonText
import MessagingSystem.Foundation.Calendar

/-!
# Printed scalars

Hashes are computed over text, so identifiers, instants and digests are printed
first.  Each of them has a fixed width and can be read back from its text.
-/

namespace MessagingSystem

open Foundation

theorem ofList_injective {a b : List Char} (h : String.ofList a = String.ofList b) :
    a = b := by
  have hlist := congrArg String.toList h
  rwa [String.toList_ofList, String.toList_ofList] at hlist

/-!
# UUIDs
-/

/-- Removing the dashes again. -/
theorem groups_injective {a b : List Char} (hlength : a.length = b.length)
    (h : a.take 8 ++ '-' :: ((a.drop 8).take 4 ++ '-' :: ((a.drop 12).take 4 ++ '-' ::
        ((a.drop 16).take 4 ++ '-' :: a.drop 20)))
      = b.take 8 ++ '-' :: ((b.drop 8).take 4 ++ '-' :: ((b.drop 12).take 4 ++ '-' ::
        ((b.drop 16).take 4 ++ '-' :: b.drop 20)))) : a = b := by
  have hsplit : forall l : List Char, l = l.take 8 ++ ((l.drop 8).take 4 ++
      ((l.drop 12).take 4 ++ ((l.drop 16).take 4 ++ l.drop 20))) := by
    intro l
    have h4 : forall n : Nat, (l.drop n).take 4 ++ l.drop (n + 4) = l.drop n := by
      intro n
      rw [← List.drop_drop, List.take_append_drop]
    rw [h4 16, h4 12, h4 8, List.take_append_drop]
  have h1 := List.append_inj h (by simp [hlength])
  injection h1.2 with _ h2
  have h2 := List.append_inj h2 (by simp [hlength])
  injection h2.2 with _ h3
  have h3 := List.append_inj h3 (by simp [hlength])
  injection h3.2 with _ h4
  have h4 := List.append_inj h4 (by simp [hlength])
  injection h4.2 with _ h5
  rw [hsplit a, hsplit b, h1.1, h2.1, h3.1, h4.1, h5]

theorem Uuid.str_injective {u v : Uuid} (h : u.str = v.str) : u = v := by
  have hdigits := groups_injective (by simp) (ofList_injective h)
  have hwidth : 2 ^ 128 = 16 ^ 32 := by decide
  apply BitVec.eq_of_toNat_eq
  exact numeral_injective (by decide) (by decide) (hwidth ▸ u.isLt) (hwidth ▸ v.isLt)
    hdigits

def idJson (id : Uuid) : Json :=
  Json.str id.str

def optionalText : Option String -> Json
  | some text => Json.str text
  | none => Json.null

def optionalId (id : Option Uuid) : Json :=
  optionalText (id.map Uuid.str)

/-!
# Instants
-/

def Instant.dayNumber (t : Instant) : Nat :=
  t.val / microsPerDay

def Instant.timeOfDay (t : Instant) : Nat :=
  t.val % microsPerDay

/-- `isoformat(timespec="microseconds")` in UTC, with `Z` for the offset. -/
def Instant.isoformat (t : Instant) : String :=
  let date := dateOf t.dayNumber
  let time := t.timeOfDay
  String.ofList
    (numeral 10 4 date.year ++ '-' :: (numeral 10 2 date.month ++ '-' ::
      (numeral 10 2 date.day ++ 'T' :: (numeral 10 2 (time / 3600000000) ++ ':' ::
        (numeral 10 2 (time / 60000000 % 60) ++ ':' ::
          (numeral 10 2 (time / 1000000 % 60) ++ '.' ::
            (numeral 10 6 (time % 1000000) ++ ['Z'])))))))

example : Instant.isoformat ⟨63839664000000001, by decide⟩
    = "2024-01-01T00:00:00.000001Z" := by
  decide +kernel

/-- A fixed-width column and its separator, read back from the front. -/
theorem column_inj {width m n : Nat} {c : Char} {r r' : List Char}
    (hm : m < 10 ^ width) (hn : n < 10 ^ width)
    (h : numeral 10 width m ++ c :: r = numeral 10 width n ++ c :: r') :
    m = n ∧ r = r' := by
  have hsplit := List.append_inj h (by simp)
  injection hsplit.2 with _ hrest
  exact ⟨numeral_injective (by decide) (by decide) hm hn hsplit.1, hrest⟩

theorem Instant.isoformat_injective {t u : Instant} (h : t.isoformat = u.isoformat) :
    t = u := by
  have hday : forall v : Instant, v.dayNumber < 3652059 := by
    intro v
    have hv : v.val < 315537897600000000 := v.isLt
    unfold Instant.dayNumber microsPerDay
    omega
  have htime : forall v : Instant, v.timeOfDay < 86400000000 := by
    intro v
    exact Nat.mod_lt _ (by decide)
  have hlist := ofList_injective h
  have hboundsT := (dateOf_spec _).2 (hday t)
  have hboundsU := (dateOf_spec _).2 (hday u)
  have htimeT := htime t
  have htimeU := htime u
  have hyear := column_inj hboundsT.1 hboundsU.1 hlist
  have hmonth := column_inj hboundsT.2.1 hboundsU.2.1 hyear.2
  have hdays := column_inj hboundsT.2.2 hboundsU.2.2 hmonth.2
  have hhour := column_inj (by omega) (by omega) hdays.2
  have hminute := column_inj (by omega) (by omega) hhour.2
  have hsecond := column_inj (by omega) (by omega) hminute.2
  have hmicro := column_inj (by omega) (by omega) hsecond.2
  have hdate : dateOf t.dayNumber = dateOf u.dayNumber := by
    exact Date.ext hyear.1 hmonth.1 hdays.1
  have hnumber := dateOf_injective hdate
  have htod : t.timeOfDay = u.timeOfDay := by
    have h1 := hhour.1
    have h2 := hminute.1
    have h3 := hsecond.1
    have h4 := hmicro.1
    omega
  apply Fin.ext
  rw [← Nat.div_add_mod t.val microsPerDay, ← Nat.div_add_mod u.val microsPerDay]
  exact congrArg₂ (fun d r => microsPerDay * d + r) hnumber htod

/-!
# Digests

The hash function is a parameter of everything that uses it; only the width of
its result is fixed.
-/

abbrev Digest := BitVec 256

abbrev Sha256 := List UInt8 -> Digest

def Digest.hex (d : Digest) : String :=
  String.ofList (numeral 16 64 d.toNat)

theorem Digest.hex_injective {d e : Digest} (h : d.hex = e.hex) : d = e := by
  have hwidth : 2 ^ 256 = 16 ^ 64 := by decide
  apply BitVec.eq_of_toNat_eq
  exact numeral_injective (by decide) (by decide) (hwidth ▸ d.isLt) (hwidth ▸ e.isLt)
    (ofList_injective h)

/-- `text.encode("utf-8")`. -/
def utf8 (text : String) : List UInt8 :=
  text.toUTF8.data.toList

theorem utf8_injective {s t : String} (h : utf8 s = utf8 t) : s = t := by
  have harray : s.toUTF8.data = t.toUTF8.data := Array.toList_inj.mp h
  have hbytes : s.toUTF8 = t.toUTF8 := ByteArray.ext harray
  exact String.toByteArray_inj.mp hbytes

def Sha256.hexdigest (sha256 : Sha256) (text : String) : String :=
  (sha256 (utf8 text)).hex

end MessagingSystem
