import MessagingSystem.Foundation.Table

/-!
# Dictionaries of counters

A dictionary counts how often each key is in use; a counter that would reach zero is dropped.
It tallies the list of the keys in use, whatever their order.
-/

namespace MessagingSystem
namespace Foundation

variable {key : Type} [DecidableEq key] {t : Table key Nat} {k : key} {l l' : List key}

namespace Table

def increment (t : Table key Nat) (k : key) : Table key Nat :=
  t.set k (some ((t.get k).getD 0 + 1))

def decrement (t : Table key Nat) (k : key) : Table key Nat :=
  if (t.get k).getD 0 ≤ 1 then t.set k none else t.set k (some ((t.get k).getD 0 - 1))

theorem get_increment_self : (t.increment k).get k = some ((t.get k).getD 0 + 1) :=
  get_set_self t k _

end Table

def Tallies (t : Table key Nat) (l : List key) : Prop :=
  forall k, t.get k = if l.count k = 0 then none else some (l.count k)

namespace Tallies

theorem empty : Tallies (Table.empty : Table key Nat) [] :=
  fun _ => rfl

theorem perm (h : Tallies t l) (hperm : l.Perm l') : Tallies t l' := by
  intro k
  rw [← hperm.count_eq k]
  exact h k

theorem getD (h : Tallies t l) (k : key) : (t.get k).getD 0 = l.count k := by
  rw [h k]
  split
  · rename_i hzero
    exact hzero.symm
  · rfl

theorem pos (h : Tallies t l) {n : Nat} (hget : t.get k = some n) : 0 < n := by
  rw [h k] at hget
  split at hget
  · cases hget
  · rename_i hne
    cases hget
    exact Nat.pos_of_ne_zero hne

theorem increment (h : Tallies t l) (k : key) : Tallies (t.increment k) (k :: l) := by
  intro k'
  rw [Table.increment, Table.get_set, h.getD]
  split
  · rename_i heq
    rw [heq, List.count_cons_self, if_neg (Nat.succ_ne_zero _)]
  · rename_i hne
    rw [List.count_cons_of_ne (Ne.symm hne)]
    exact h k'

theorem decrement (h : Tallies t (k :: l)) : Tallies (t.decrement k) l := by
  intro k'
  have hcount := h.getD k
  rw [List.count_cons_self] at hcount
  have hother : k' ≠ k -> t.get k' = if l.count k' = 0 then none else some (l.count k') := by
    intro hne
    rw [h k', List.count_cons_of_ne (Ne.symm hne)]
  rw [Table.decrement, hcount]
  split
  · rename_i hlast
    rw [Table.get_set]
    split
    · rename_i heq
      rw [heq, if_pos (by omega)]
    · rename_i hne
      exact hother hne
  · rename_i hmore
    rw [Table.get_set]
    split
    · rename_i heq
      rw [heq, if_neg (by omega), Nat.add_sub_cancel]
    · rename_i hne
      exact hother hne

/-- The counters add up to the number of keys in use. -/
theorem sum_eq_length (h : Tallies t l) : (t.rows.map Prod.snd).sum = l.length := by
  have hcounts : t.rows.map Prod.snd = t.keys.map (fun k => l.count k) := by
    rw [← t.rows_keys, List.map_map]
    refine List.map_congr_left ?_
    rintro ⟨k, n⟩ hrow
    have hcount := h.getD k
    rw [Table.mem_rows.mp hrow] at hcount
    exact hcount
  have hkeys : t.keys.Perm l.dedup := by
    refine (List.perm_ext_iff_of_nodup t.nodup_keys l.nodup_dedup).mpr ?_
    intro k
    rw [Table.mem_keys, h k, List.mem_dedup, ← List.count_pos_iff]
    split
    · simp only [Option.isSome_none, Bool.false_eq_true, false_iff]
      omega
    · simp only [Option.isSome_some, true_iff]
      omega
  rw [hcounts, (hkeys.map _).sum_eq, List.sum_map_count_dedup_eq_length]

end Tallies

end Foundation
end MessagingSystem
