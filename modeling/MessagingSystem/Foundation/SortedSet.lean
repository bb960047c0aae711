import MessagingSystem.Foundation.OrderBy
import MessagingSystem.Foundation.Table

/-!
# Sorted sets

Members with a score, as Redis keeps them.  A range goes by score and, within one score, by
member.
-/

namespace MessagingSystem
namespace Foundation

structure SortedSet (member score : Type) where
  scores : Table member score

namespace SortedSet

variable {member score : Type} [DecidableEq member] {z z' : SortedSet member score}

def empty : SortedSet member score :=
  ⟨Table.empty⟩

def zscore (z : SortedSet member score) (m : member) : Option score :=
  z.scores.get m

def zadd (z : SortedSet member score) (s : score) (m : member) : SortedSet member score :=
  ⟨z.scores.set m (some s)⟩

def zrem (z : SortedSet member score) (m : member) : SortedSet member score :=
  ⟨z.scores.set m none⟩

def zcard (z : SortedSet member score) : Nat :=
  z.scores.keys.length

theorem zscore_zadd (z : SortedSet member score) (s : score) (m m' : member) :
    (z.zadd s m).zscore m' = if m' = m then some s else z.zscore m' :=
  Table.get_set z.scores m m' (some s)

theorem zscore_zrem (z : SortedSet member score) (m m' : member) :
    (z.zrem m).zscore m' = if m' = m then none else z.zscore m' :=
  Table.get_set z.scores m m' none

theorem zscore_foldl_zrem (removed : List member) (z : SortedSet member score) (m : member) :
    (removed.foldl zrem z).zscore m = if m ∈ removed then none else z.zscore m := by
  induction removed generalizing z with
  | nil => rfl
  | cons m' removed ih =>
      rw [List.foldl_cons, ih, zscore_zrem]
      by_cases heq : m = m'
      · simp [heq]
      · simp [heq]

theorem zcard_eq_zero : z.zcard = 0 ↔ forall m, z.zscore m = none := by
  unfold zcard
  rw [List.length_eq_zero_iff, List.eq_nil_iff_forall_not_mem]
  apply forall_congr'
  intro m
  rw [Table.mem_keys, Bool.not_eq_true, Option.isSome_eq_false_iff, Option.isNone_iff_eq_none]
  rfl

/-- Fewer members make a smaller set. -/
theorem zcard_le (h : forall m, (z'.zscore m).isSome = true -> (z.zscore m).isSome = true) :
    z'.zcard ≤ z.zcard := by
  refine (List.subperm_of_subset (z'.scores.nodup_keys) ?_).length_le
  intro m hm
  rw [Table.mem_keys] at hm ⊢
  exact h m hm

/-- Every member that is removed counts once. -/
theorem zcard_of_removed {removed : List member} (hnodup : removed.Nodup)
    (hmem : forall m, m ∈ removed -> (z.zscore m).isSome = true)
    (h : forall m, z'.zscore m = if m ∈ removed then none else z.zscore m) :
    z'.zcard + removed.length = z.zcard := by
  have hkept : forall m, m ∈ z'.scores.keys ↔ m ∈ z.scores.keys ∧ m ∉ removed := by
    intro m
    rw [Table.mem_keys, Table.mem_keys]
    show (z'.zscore m).isSome = true ↔ (z.zscore m).isSome = true ∧ m ∉ removed
    rw [h]
    by_cases hm : m ∈ removed
    · simp [hm]
    · simp [hm]
  have hdisjoint : List.Disjoint (z'.scores.keys) removed :=
    fun m hm hm' => ((hkept m).mp hm).2 hm'
  have hperm : (z'.scores.keys ++ removed).Perm (z.scores.keys) := by
    refine (List.perm_ext_iff_of_nodup ((z'.scores.nodup_keys).append hnodup hdisjoint)
      (z.scores.nodup_keys)).mpr ?_
    intro m
    rw [List.mem_append, hkept]
    constructor
    · intro hm
      rcases hm with hm | hm
      · exact hm.1
      · exact Table.mem_keys.mpr (hmem m hm)
    · intro hm
      by_cases hremoved : m ∈ removed
      · exact Or.inr hremoved
      · exact Or.inl ⟨hm, hremoved⟩
  have hlength := hperm.length_eq
  rw [List.length_append] at hlength
  exact hlength

/-!
# Ranges
-/

section

variable [LinearOrder member] [LinearOrder score]

/-- `ZRANGEBYSCORE z -inf max`. -/
def zrangeByScore (z : SortedSet member score) (max : score) : List member :=
  (orderByAsc (fun row : member × score => toLex (row.2, row.1))
    (z.scores.rows.filter (fun row => decide (row.2 ≤ max)))).map Prod.fst

/-- `ZREMRANGEBYSCORE z -inf max`. -/
def zremrangeByScore (z : SortedSet member score) (max : score) : SortedSet member score :=
  (z.zrangeByScore max).foldl zrem z

theorem mem_zrangeByScore {max : score} {m : member} :
    m ∈ z.zrangeByScore max ↔ exists s, z.zscore m = some s ∧ s ≤ max := by
  unfold zrangeByScore
  rw [List.mem_map]
  constructor
  · intro h
    rcases h with ⟨row, hrow, heq⟩
    rcases List.mem_filter.mp ((orderByAsc_perm _ _).mem_iff.mp hrow) with ⟨hrow, hle⟩
    rw [← heq]
    exact ⟨row.2, Table.mem_rows.mp hrow, of_decide_eq_true hle⟩
  · intro h
    rcases h with ⟨s, hs, hle⟩
    refine ⟨(m, s), (orderByAsc_perm _ _).mem_iff.mpr ?_, rfl⟩
    exact List.mem_filter.mpr ⟨Table.mem_rows.mpr hs, decide_eq_true hle⟩

omit [DecidableEq member] in
theorem nodup_zrangeByScore (z : SortedSet member score) (max : score) :
    (z.zrangeByScore max).Nodup := by
  unfold zrangeByScore
  refine ((orderByAsc_perm _ _).map Prod.fst).nodup_iff.mpr ?_
  exact List.pairwise_map.mpr (z.scores.rows_pairwise.filter _)

/-- What is left after the range is removed has a larger score. -/
theorem zscore_zremrangeByScore (z : SortedSet member score) (max : score) (m : member) :
    (z.zremrangeByScore max).zscore m
      = (z.zscore m).filter (fun s => decide (max < s)) := by
  unfold zremrangeByScore
  rw [zscore_foldl_zrem]
  cases hs : z.zscore m with
  | none => exact ite_self _
  | some s =>
      by_cases hle : s ≤ max
      · rw [if_pos (mem_zrangeByScore.mpr ⟨s, hs, hle⟩), Option.filter_some,
          decide_eq_false (not_lt.mpr hle)]
        rfl
      · have hnot : m ∉ z.zrangeByScore max := by
          intro hm
          rcases mem_zrangeByScore.mp hm with ⟨s', hs', hle'⟩
          rw [hs] at hs'
          cases hs'
          exact hle hle'
        rw [if_neg hnot, Option.filter_some, decide_eq_true (not_le.mp hle)]
        rfl

/-- The size of a range that covers everything. -/
theorem length_zrangeByScore {max : score} (h : forall m s, z.zscore m = some s -> s ≤ max) :
    (z.zrangeByScore max).length = z.zcard := by
  apply List.Perm.length_eq
  refine (List.perm_ext_iff_of_nodup (nodup_zrangeByScore z max) z.scores.nodup_keys).mpr ?_
  intro m
  rw [mem_zrangeByScore, Table.mem_keys, Option.isSome_iff_exists]
  constructor
  · intro hm
    rcases hm with ⟨s, hs, _⟩
    exact ⟨s, hs⟩
  · intro hm
    rcases hm with ⟨s, hs⟩
    exact ⟨s, hs, h m s hs⟩

end

end SortedSet

end Foundation
end MessagingSystem
