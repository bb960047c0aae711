import Mathlib

/-!
# Ordered queries

`ORDER BY key ASC` and `ORDER BY key DESC LIMIT 1` over a list of rows.  On rows
that are already stored in strictly increasing order the first returns the rows
as they are and the second returns the last of them.
-/

namespace MessagingSystem
namespace Foundation

section

variable {row key : Type} [LinearOrder key]

def orderByAsc (sortKey : row -> key) (rows : List row) : List row :=
  rows.insertionSort (fun a b => sortKey a ≤ sortKey b)

def orderByDesc (sortKey : row -> key) (rows : List row) : List row :=
  rows.insertionSort (fun a b => sortKey b ≤ sortKey a)

def Increasing (sortKey : row -> key) (rows : List row) : Prop :=
  rows.Pairwise (fun a b => sortKey a < sortKey b)

theorem orderByAsc_perm (sortKey : row -> key) (rows : List row) :
    (orderByAsc sortKey rows).Perm rows :=
  List.perm_insertionSort _ rows

theorem sorted_orderByAsc (sortKey : row -> key) (rows : List row) :
    (orderByAsc sortKey rows).Pairwise (fun a b => sortKey a ≤ sortKey b) := by
  have htotal : Std.Total (fun a b : row => sortKey a ≤ sortKey b) :=
    ⟨fun a b => le_total (sortKey a) (sortKey b)⟩
  have htrans : IsTrans row (fun a b => sortKey a ≤ sortKey b) :=
    ⟨fun a b c hab hbc => le_trans hab hbc⟩
  exact List.pairwise_insertionSort _ rows

variable {sortKey : row -> key} {rows : List row}

/-- Rows with unique keys have one arrangement in the order of the key. -/
theorem orderByAsc_eq {sorted : List row} (hkeys : (rows.map sortKey).Nodup)
    (hsorted : sorted.Pairwise (fun a b => sortKey a ≤ sortKey b)) (h : rows.Perm sorted) :
    orderByAsc sortKey rows = sorted := by
  have hperm := orderByAsc_perm sortKey rows
  refine (hperm.trans h).eq_of_pairwise ?_ (sorted_orderByAsc sortKey rows) hsorted
  intro a b ha hb hab hba
  exact List.inj_on_of_nodup_map hkeys (hperm.mem_iff.mp ha) (h.mem_iff.mpr hb)
    (le_antisymm hab hba)

theorem orderByAsc_eq_of_perm {others : List row} (hkeys : (rows.map sortKey).Nodup)
    (h : rows.Perm others) :
    orderByAsc sortKey rows = orderByAsc sortKey others :=
  orderByAsc_eq hkeys (sorted_orderByAsc sortKey others)
    (h.trans (orderByAsc_perm sortKey others).symm)

/-- `WHERE` and `ORDER BY` commute where the sort key is unique. -/
theorem orderByAsc_filter (h : (rows.map sortKey).Nodup) (p : row -> Bool) :
    orderByAsc sortKey (rows.filter p) = (orderByAsc sortKey rows).filter p :=
  orderByAsc_eq (h.sublist (List.filter_sublist.map sortKey))
    ((sorted_orderByAsc sortKey rows).filter p) ((orderByAsc_perm sortKey rows).filter p).symm

theorem Increasing.keys_nodup (h : Increasing sortKey rows) : (rows.map sortKey).Nodup :=
  List.pairwise_map.mpr (h.imp (fun hlt => ne_of_lt hlt))

theorem orderByAsc_of_increasing (h : Increasing sortKey rows) :
    orderByAsc sortKey rows = rows := by
  apply List.Pairwise.insertionSort_eq
  exact h.imp (fun hlt => le_of_lt hlt)

theorem orderByDesc_of_increasing (h : Increasing sortKey rows) :
    orderByDesc sortKey rows = rows.reverse := by
  have hreverse : rows.reverse.Pairwise (fun a b => sortKey b ≤ sortKey a) :=
    List.pairwise_reverse.mpr (h.imp (fun hlt => le_of_lt hlt))
  show orderByAsc (fun r => OrderDual.toDual (sortKey r)) rows = _
  exact orderByAsc_eq h.keys_nodup hreverse (List.reverse_perm rows).symm

theorem orderByDesc_head_of_increasing (h : Increasing sortKey rows) :
    (orderByDesc sortKey rows).head? = rows.getLast? := by
  rw [orderByDesc_of_increasing h, List.head?_reverse]

theorem increasing_append_singleton {r : row} :
    Increasing sortKey (rows ++ [r]) ↔ Increasing sortKey rows ∧
      forall x, x ∈ rows -> sortKey x < sortKey r := by
  unfold Increasing
  rw [List.pairwise_append]
  simp

theorem Increasing.lt_of_last {last r : row} (h : Increasing sortKey rows)
    (hlast : rows.getLast? = some last)
    (hlt : sortKey last < sortKey r) : forall x, x ∈ rows -> sortKey x < sortKey r := by
  rcases List.getLast?_eq_some_iff.mp hlast with ⟨before, hrows⟩
  subst hrows
  refine List.forall_mem_append.mpr ⟨?_, List.forall_mem_singleton.mpr hlt⟩
  intro x hx
  exact lt_trans ((increasing_append_singleton.mp h).2 x hx) hlt

end

/-- `LIMIT` before `WHERE`, where the first rows satisfy the condition anyway. -/
theorem take_filter_of_forall {row : Type} {p : row -> Bool} {n : Nat} {rows : List row}
    (h : forall r, r ∈ rows.take n -> p r = true) : (rows.filter p).take n = rows.take n := by
  induction rows generalizing n with
  | nil => rfl
  | cons r rows ih =>
      cases n with
      | zero => rfl
      | succ n =>
          rw [List.take_succ_cons, List.forall_mem_cons] at h
          rw [List.filter_cons_of_pos h.1, List.take_succ_cons, List.take_succ_cons, ih h.2]

/-- A unique key selects one row. -/
theorem filter_key_eq {row key : Type} [DecidableEq key] {column : row -> key}
    {rows : List row} (h : (rows.map column).Nodup) {r : row} (hr : r ∈ rows) :
    rows.filter (fun x => column x = column r) = [r] := by
  classical
  have hsame : rows.filter (fun x => column x = column r) = rows.filter (fun x => x == r) := by
    refine List.filter_congr ?_
    intro x hx
    rw [Bool.eq_iff_iff, decide_eq_true_iff, beq_iff_eq]
    exact ⟨List.inj_on_of_nodup_map h hx hr, congrArg column⟩
  rw [hsame, List.filter_beq, List.count_eq_one_of_mem h.of_map hr]
  rfl

end Foundation
end MessagingSystem
