import MessagingSystem.Foundation.Table

/-!
# Dictionaries of dictionaries

A dictionary that keeps the members of each key in a dictionary of their own.  A key is there as
long as it has members: the last member that goes takes its key along.
-/

namespace MessagingSystem
namespace Foundation

structure Buckets (key member : Type) [DecidableEq key] where
  table : Table key (List member)
  occupied : forall k l, table.get k = some l -> l ≠ []

namespace Buckets

variable {key member : Type} [DecidableEq key] {b : Buckets key member} {k : key}

def empty : Buckets key member where
  table := Table.empty
  occupied _ _ h := by cases h

def members (b : Buckets key member) (k : key) : List member :=
  (b.table.get k).getD []

/-- Nothing is left of a dictionary without members. -/
theorem get_eq_none (h : forall m, m ∉ b.members k) : b.table.get k = none := by
  cases hget : b.table.get k with
  | none => rfl
  | some l =>
      have hmembers : b.members k = l := by
        unfold members
        rw [hget]
        rfl
      rw [hmembers] at h
      exact absurd (List.eq_nil_iff_forall_not_mem.mpr h) (b.occupied k l hget)

theorem eq_empty (h : forall k m, m ∉ b.members k) : b = Buckets.empty := by
  have htable : b.table = Table.empty := Table.eq_empty (fun k => get_eq_none (h k))
  cases b
  cases htable
  rfl

/-- Put a list under the key; the empty list removes the key. -/
def put (b : Buckets key member) (k : key) (l : List member) : Buckets key member where
  table := b.table.set k (if l.isEmpty then none else some l)
  occupied := by
    refine Table.forall_get_set (P := fun _ r => r ≠ []) b.occupied ?_
    intro r hr
    split at hr
    · cases hr
    case isFalse hne =>
      cases hr
      intro heq
      rw [heq] at hne
      exact hne rfl

theorem members_put (b : Buckets key member) (k k' : key) (l : List member) :
    (b.put k l).members k' = if k' = k then l else b.members k' := by
  unfold members put
  rw [Table.get_set]
  split
  · cases l with
    | nil | cons => rfl
  · rfl

variable [DecidableEq member] {m m' : member}

/-- `d.setdefault(k, {})[m] = ...`. -/
def add (b : Buckets key member) (k : key) (m : member) : Buckets key member :=
  if m ∈ b.members k then b else b.put k (b.members k ++ [m])

/-- The member is popped, and the key with it when it was the last one. -/
def discard (b : Buckets key member) (k : key) (m : member) : Buckets key member :=
  b.put k ((b.members k).filter (fun x => x != m))

/-- The member is popped under every key. -/
def discardAll (b : Buckets key member) (m : member) : Buckets key member :=
  b.table.keys.foldl (fun b k => b.discard k m) b

theorem mem_add {k' : key} :
    m' ∈ (b.add k m).members k' ↔ (k' = k ∧ m' = m) ∨ m' ∈ b.members k' := by
  unfold add
  split
  case isTrue hmem =>
    constructor
    · exact Or.inr
    · intro h
      rcases h with ⟨hk, hm⟩ | h
      · rw [hk, hm]
        exact hmem
      · exact h
  case isFalse =>
    rw [members_put]
    split
    case isTrue heq =>
      rw [heq, List.mem_append, List.mem_singleton]
      tauto
    case isFalse hne =>
      tauto

theorem mem_discard {k' : key} :
    m' ∈ (b.discard k m).members k' ↔ m' ∈ b.members k' ∧ ¬(k' = k ∧ m' = m) := by
  unfold discard
  rw [members_put]
  split
  case isTrue heq =>
    rw [heq, List.mem_filter, bne_iff_ne]
    tauto
  case isFalse hne =>
    tauto

theorem mem_foldl_discard {keys : List key} :
    m' ∈ (keys.foldl (fun b k => b.discard k m) b).members k
      ↔ m' ∈ b.members k ∧ ¬(k ∈ keys ∧ m' = m) := by
  induction keys generalizing b with
  | nil => simp
  | cons k' keys ih =>
      rw [List.foldl_cons, ih, mem_discard, List.mem_cons]
      tauto

theorem mem_discardAll : m' ∈ (b.discardAll m).members k ↔ m' ∈ b.members k ∧ m' ≠ m := by
  unfold discardAll
  rw [mem_foldl_discard]
  have hkey : m' ∈ b.members k -> k ∈ b.table.keys := by
    intro hmem
    rw [Table.mem_keys]
    unfold members at hmem
    cases hget : b.table.get k with
    | none =>
        rw [hget] at hmem
        exact absurd hmem List.not_mem_nil
    | some l => rfl
  constructor
  · intro h
    exact ⟨h.1, fun heq => h.2 ⟨hkey h.1, heq⟩⟩
  · intro h
    exact ⟨h.1, fun hboth => h.2 hboth.2⟩

/-!
# Sizes
-/

/-- No key has more members than the bound. -/
def Within (b : Buckets key member) (bound : Nat) : Prop :=
  forall k, (b.members k).length ≤ bound

variable {b : Buckets key member} {bound : Nat}

theorem Within.add (h : b.Within bound) (m : member) (hroom : (b.members k).length < bound) :
    (b.add k m).Within bound := by
  intro k'
  unfold Buckets.add
  split
  · exact h k'
  · rw [members_put]
    split
    · rw [List.length_append, List.length_singleton]
      exact hroom
    · exact h k'

theorem Within.discard (h : b.Within bound) (k : key) (m : member) :
    (b.discard k m).Within bound := by
  intro k'
  unfold Buckets.discard
  rw [members_put]
  split
  · exact Nat.le_trans (List.length_filter_le _ _) (h k)
  · exact h k'

theorem Within.discardAll (h : b.Within bound) (m : member) :
    (b.discardAll m).Within bound := by
  unfold Buckets.discardAll
  generalize b.table.keys = keys
  induction keys generalizing b with
  | nil => exact h
  | cons k keys ih => exact ih (h.discard k m)

end Buckets

end Foundation
end MessagingSystem
