import MessagingSystem.Foundation.Digits

/-!
# The proleptic Gregorian calendar

Day numbers start with 0 for the first of January of year 1.  The conversion to
year, month and day splits off whole cycles of 400, 100, 4 and 1 years, as the
standard library does, and the day number can be computed back.
-/

namespace MessagingSystem
namespace Foundation

def isLeap (year : Nat) : Bool :=
  year % 4 == 0 && (year % 100 != 0 || year % 400 == 0)

def daysBeforeYear (year : Nat) : Nat :=
  (year - 1) * 365 + (year - 1) / 4 - (year - 1) / 100 + (year - 1) / 400

def daysBeforeMonth (leap : Bool) (month : Nat) : Nat :=
  [0, 0, 31, 59, 90, 120, 151, 181, 212, 243, 273, 304, 334].getD month 0 +
    (if leap && decide (2 < month) then 1 else 0)

@[ext] structure Date where
  year : Nat
  month : Nat
  day : Nat
  deriving DecidableEq, Repr

def Date.ordinal (date : Date) : Nat :=
  daysBeforeYear date.year + daysBeforeMonth (isLeap date.year) date.month + (date.day - 1)

/-- Month and day of a day of the year; the first estimate can be one too high. -/
def monthDay (leap : Bool) (n : Nat) : Nat × Nat :=
  let month := (n + 50) / 32
  if daysBeforeMonth leap month > n then
    (month - 1, n - daysBeforeMonth leap (month - 1) + 1)
  else (month, n - daysBeforeMonth leap month + 1)

/-- `_ord2ymd`, from a day number that starts with 0. -/
def dateOf (n : Nat) : Date :=
  let n400 := n / 146097
  let n := n % 146097
  let n100 := n / 36524
  let n := n % 36524
  let n4 := n / 1461
  let n := n % 1461
  let n1 := n / 365
  let n := n % 365
  let year := n400 * 400 + 1 + n100 * 100 + n4 * 4 + n1
  if n1 = 4 ∨ n100 = 4 then ⟨year - 1, 12, 31⟩
  else
    let leap := n1 == 3 && (n4 != 24 || n100 == 3)
    ⟨year, (monthDay leap n).1, (monthDay leap n).2⟩

example : dateOf 738885 = ⟨2024, 1, 1⟩ := by
  decide

theorem monthDay_spec : forall (leap : Bool) (n : Fin 365),
    1 ≤ (monthDay leap n).1 ∧ (monthDay leap n).1 ≤ 12 ∧
      1 ≤ (monthDay leap n).2 ∧ (monthDay leap n).2 ≤ 31 ∧
      daysBeforeMonth leap (monthDay leap n).1 + ((monthDay leap n).2 - 1) = n := by
  decide +kernel

/-!
# Back to the day number

The four quotients and the remainder of `dateOf` are named once.  Only the last
day of a leap year, or of a cycle that ends with one, makes a quotient 4.
-/

structure Cycles (n a b c d e : Nat) : Prop where
  sum : n = 146097 * a + 36524 * b + 1461 * c + 365 * d + e
  first : 36524 * b + 1461 * c + 365 * d + e < 146097
  second : 1461 * c + 365 * d + e < 36524
  third : 365 * d + e < 1461
  fourth : e < 365

theorem cycles_of (n : Nat) :
    Cycles n (n / 146097) (n % 146097 / 36524) (n % 146097 % 36524 / 1461)
      (n % 146097 % 36524 % 1461 / 365) (n % 146097 % 36524 % 1461 % 365) := by
  constructor <;> omega

theorem daysBeforeYear_cycles {a b c d : Nat} (hb : b ≤ 3) (hc : c ≤ 24) (hd : d ≤ 3) :
    daysBeforeYear (a * 400 + 1 + b * 100 + c * 4 + d)
      = 146097 * a + 36524 * b + 1461 * c + 365 * d := by
  have hyear : a * 400 + 1 + b * 100 + c * 4 + d - 1 = 400 * a + 100 * b + 4 * c + d := by
    omega
  have hfour : (400 * a + 100 * b + 4 * c + d) / 4 = 100 * a + 25 * b + c := by
    omega
  have hcentury : (400 * a + 100 * b + 4 * c + d) / 100 = 4 * a + b := by
    omega
  have hcycle : (400 * a + 100 * b + 4 * c + d) / 400 = a := by
    omega
  rw [daysBeforeYear, hyear, hfour, hcentury, hcycle]
  omega

theorem Cycles.isLeap_last {n a b c d e : Nat} (h : Cycles n a b c d e)
    (hlast : d = 4 ∨ b = 4) :
    isLeap (a * 400 + 1 + b * 100 + c * 4 + d - 1) = true := by
  have h1 := h.first
  have h2 := h.second
  have h3 := h.third
  simp only [isLeap, Bool.and_eq_true, Bool.or_eq_true, beq_iff_eq, bne_iff_ne]
  omega

theorem Cycles.isLeap_eq {n a b c d e : Nat} (h : Cycles n a b c d e) :
    isLeap (a * 400 + 1 + b * 100 + c * 4 + d) = (d == 3 && (c != 24 || b == 3)) := by
  have h1 := h.first
  have h2 := h.second
  have h3 := h.third
  rw [Bool.eq_iff_iff]
  simp only [isLeap, Bool.and_eq_true, Bool.or_eq_true, beq_iff_eq, bne_iff_ne]
  omega

/--
The date determines the day number it was computed from, and every part of the date of a
day before year 10000 fits its column.
-/
theorem dateOf_spec (n : Nat) : (dateOf n).ordinal = n ∧
    (n < 3652059 -> (dateOf n).year < 10000 ∧ (dateOf n).month < 100 ∧
      (dateOf n).day < 100) := by
  have h := cycles_of n
  unfold dateOf
  dsimp only
  generalize n / 146097 = a at h ⊢
  generalize n % 146097 / 36524 = b at h ⊢
  generalize n % 146097 % 36524 / 1461 = c at h ⊢
  generalize n % 146097 % 36524 % 1461 / 365 = d at h ⊢
  generalize n % 146097 % 36524 % 1461 % 365 = e at h ⊢
  have hsum := h.sum
  have h1 := h.first
  have h2 := h.second
  have h3 := h.third
  have h4 := h.fourth
  split
  · rename_i hlast
    refine ⟨?_, fun hn => ⟨by dsimp only; omega, by dsimp only; omega, by dsimp only; omega⟩⟩
    have hbefore : daysBeforeMonth true 12 = 335 := by decide
    simp only [Date.ordinal, h.isLeap_last hlast, hbefore]
    rcases hlast with hlast | hlast
    · have hyear := @daysBeforeYear_cycles a b c 3 (by omega) (by omega) (by omega)
      have heq : a * 400 + 1 + b * 100 + c * 4 + d - 1 = a * 400 + 1 + b * 100 + c * 4 + 3 := by
        omega
      rw [heq, hyear]
      omega
    · have hyear := @daysBeforeYear_cycles a 3 24 3 (by omega) (by omega) (by omega)
      have heq : a * 400 + 1 + b * 100 + c * 4 + d - 1
          = a * 400 + 1 + 3 * 100 + 24 * 4 + 3 := by
        omega
      rw [heq, hyear]
      omega
  · rename_i hlast
    rcases monthDay_spec (d == 3 && (c != 24 || b == 3)) ⟨e, h4⟩ with
      ⟨_, hmonth, _, hday, hsplit⟩
    refine ⟨?_, fun hn => ⟨by dsimp only; omega, by dsimp only at *; omega,
      by dsimp only at *; omega⟩⟩
    simp only [Date.ordinal, h.isLeap_eq]
    rw [daysBeforeYear_cycles (by omega) (by omega) (by omega), Nat.add_assoc]
    exact (congrArg _ hsplit).trans hsum.symm

theorem dateOf_injective {m n : Nat} (h : dateOf m = dateOf n) : m = n := by
  rw [← (dateOf_spec m).1, h, (dateOf_spec n).1]

end Foundation
end MessagingSystem
