import Mathlib

/-!
# Keyed tables

A relational table with a primary key is a finite map from keys to rows.  The
duplicate-freeness of the key column is part of the type, and one write lemma
says what every insert, update and delete does to every lookup.
-/

namespace MessagingSystem
namespace Foundation

def Table (key row : Type) : Type :=
  AList (fun _ : key => row)

namespace Table

variable {key row : Type} [DecidableEq key] {k k' : key} {t : Table key row} {r : Option row}

def empty : Table key row :=
  (∅ : AList (fun _ : key => row))

def get (t : Table key row) (k : key) : Option row :=
  AList.lookup k t

/-- Write one row: `some` inserts or overwrites it and `none` deletes it. -/
def set (t : Table key row) (k : key) : Option row -> Table key row
  | some r => AList.insert k r t
  | none => AList.erase k t

def update (t : Table key row) (k : key) (f : row -> row) : Table key row :=
  t.set k ((t.get k).map f)

def rows (t : Table key row) : List (key × row) :=
  AList.entries t |>.map (fun e => (e.1, e.2))

def keys (t : Table key row) : List key :=
  AList.keys t

@[simp] theorem get_empty (k : key) : (empty : Table key row).get k = none := rfl

@[grind =] theorem get_set (t : Table key row) (k k' : key) (r : Option row) :
    (t.set k r).get k' = if k' = k then r else t.get k' := by
  by_cases hk : k' = k
  · subst hk
    rw [if_pos rfl]
    cases r with
    | none => exact AList.lookup_erase k' t
    | some r => exact AList.lookup_insert t
  · rw [if_neg hk]
    cases r with
    | none => exact AList.lookup_erase_ne hk
    | some r => exact AList.lookup_insert_ne hk

@[simp] theorem get_set_self (t : Table key row) (k : key) (r : Option row) :
    (t.set k r).get k = r := by
  rw [get_set, if_pos rfl]

theorem get_set_ne (t : Table key row) (h : k' ≠ k) (r : Option row) :
    (t.set k r).get k' = t.get k' := by
  rw [get_set, if_neg h]

/-- An insert under a free key leaves the rows that exist. -/
theorem get_set_of_free {r' : row} (hfree : t.get k = none) (h : t.get k' = some r') :
    (t.set k r).get k' = some r' := by
  have hne : k' ≠ k := by
    intro heq
    rw [heq, hfree] at h
    cases h
  rw [get_set_ne t hne, h]

/-- Overwriting a row that exists adds no key. -/
theorem isSome_of_get_set (hk : (t.get k).isSome = true) (h : ((t.set k r).get k').isSome = true) :
    (t.get k').isSome = true := by
  by_cases heq : k' = k
  · rwa [heq]
  · rwa [get_set_ne t heq] at h

/-- What holds of every row and of a new one holds after the write. -/
theorem forall_get_set {P : key -> row -> Prop}
    (hold : forall k' r', t.get k' = some r' -> P k' r') (hnew : forall r', r = some r' -> P k r') :
    forall k' r', (t.set k r).get k' = some r' -> P k' r' := by
  intro k' r' hget
  rw [get_set] at hget
  split at hget
  · rename_i heq
    subst heq
    exact hnew r' hget
  · exact hold k' r' hget

theorem get_of_get_set_none {r : row} (h : (t.set k none).get k' = some r) :
    k' ≠ k ∧ t.get k' = some r := by
  rw [get_set] at h
  split at h
  · cases h
  · rename_i hne
    exact ⟨hne, h⟩

/-- A row of a table with one more row is the new one or an old one. -/
theorem get_set_some_cases {new r : row} (h : (t.set k (some new)).get k' = some r) :
    k' = k ∧ r = new ∨ k' ≠ k ∧ t.get k' = some r := by
  rw [get_set] at h
  split at h
  · rename_i heq
    exact Or.inl ⟨heq, (Option.some.inj h).symm⟩
  · rename_i hne
    exact Or.inr ⟨hne, h⟩

theorem forall_get_set_some {P : key -> row -> Prop} {new : row}
    (hold : forall k' r', t.get k' = some r' -> P k' r') (hnew : P k new) :
    forall k' r', (t.set k (some new)).get k' = some r' -> P k' r' := by
  intro k' r' hget
  rcases get_set_some_cases hget with ⟨rfl, rfl⟩ | ⟨_, hget⟩
  · exact hnew
  · exact hold k' r' hget

/-- Rows that are pairwise related stay so when one of them is replaced. -/
theorem pairwise_get_set {R : row -> row -> Prop} (hsymm : forall r r', R r r' -> R r' r)
    {new : row}
    (hold : forall k1 k2 r1 r2, k1 ≠ k2 -> t.get k1 = some r1 -> t.get k2 = some r2 -> R r1 r2)
    (hnew : forall k' r', k' ≠ k -> t.get k' = some r' -> R r' new) :
    forall k1 k2 r1 r2, k1 ≠ k2 -> (t.set k (some new)).get k1 = some r1 ->
      (t.set k (some new)).get k2 = some r2 -> R r1 r2 := by
  intro k1 k2 r1 r2 hne hget1 hget2
  rcases get_set_some_cases hget1 with ⟨rfl, rfl⟩ | ⟨hk1, hrow1⟩
  · rw [get_set_ne _ (Ne.symm hne)] at hget2
    exact hsymm _ _ (hnew k2 r2 (Ne.symm hne) hget2)
  · rcases get_set_some_cases hget2 with ⟨rfl, rfl⟩ | ⟨_, hrow2⟩
    · exact hnew k1 r1 hk1 hrow1
    · exact hold k1 k2 r1 r2 hne hrow1 hrow2

theorem get_foldl_erase (ks : List key) (t : Table key row) (k : key) :
    (ks.foldl (fun t k => t.set k none) t).get k = if k ∈ ks then none else t.get k := by
  induction ks generalizing t with
  | nil => rfl
  | cons k' ks ih =>
      rw [List.foldl_cons, ih, get_set]
      by_cases hk : k = k'
      · simp [hk]
      · simp [hk]

/-- Rows inserted one after the other. -/
theorem get_foldl_set {entry : Type} {keyOf : entry -> key} {rowOf : entry -> row}
    {entries : List entry} {r : row}
    (h : (entries.foldl (fun t e => t.set (keyOf e) (some (rowOf e))) t).get k = some r) :
    (exists e, e ∈ entries ∧ k = keyOf e ∧ r = rowOf e) ∨ t.get k = some r := by
  induction entries generalizing t with
  | nil => exact Or.inr h
  | cons e entries ih =>
      rcases ih h with ⟨e', he', heq⟩ | hget
      · exact Or.inl ⟨e', List.mem_cons_of_mem e he', heq⟩
      · rw [get_set] at hget
        split at hget
        · rename_i heq
          cases hget
          exact Or.inl ⟨e, List.mem_cons_self, heq, rfl⟩
        · exact Or.inr hget

@[simp] theorem set_set (t : Table key row) (k : key) (r r' : row) :
    (t.set k (some r)).set k (some r') = t.set k (some r') :=
  AList.insert_insert t

@[grind =] theorem get_update (t : Table key row) (k k' : key) (f : row -> row) :
    (t.update k f).get k' = if k' = k then (t.get k).map f else t.get k' := by
  rw [update, get_set]

theorem update_eq_set {r : row} (h : t.get k = some r) (f : row -> row) :
    t.update k f = t.set k (some (f r)) := by
  rw [update, h]
  rfl

/-- A row after an update: the changed one or an old one. -/
theorem get_update_cases {f : row -> row} {r' : row} (h : (t.update k f).get k' = some r') :
    (k' = k ∧ exists r, t.get k = some r ∧ r' = f r) ∨ (k' ≠ k ∧ t.get k' = some r') := by
  rw [get_update] at h
  split at h
  · rename_i hk
    rcases Option.map_eq_some_iff.mp h with ⟨r, hget, heq⟩
    exact Or.inl ⟨hk, r, hget, heq.symm⟩
  · rename_i hk
    exact Or.inr ⟨hk, h⟩

/-- The same change to several rows. -/
def updateAll (t : Table key row) (ks : List key) (f : row -> row) : Table key row :=
  ks.foldl (fun t k => t.update k f) t

theorem get_updateAll {f : row -> row} (hf : forall r, f (f r) = f r) (t : Table key row)
    (ks : List key) (k : key) :
    (t.updateAll ks f).get k = if k ∈ ks then (t.get k).map f else t.get k := by
  unfold updateAll
  induction ks generalizing t with
  | nil => simp
  | cons k' ks ih =>
      rw [List.foldl_cons, ih, get_update]
      by_cases hk : k = k'
      · subst hk
        have htwice : f ∘ f = f := funext hf
        simp [Option.map_map, htwice]
      · simp [hk]

theorem mem_rows {r : row} : (k, r) ∈ t.rows ↔ t.get k = some r := by
  have hentry : (k, r) ∈ t.rows ↔
      (⟨k, r⟩ : Sigma fun _ : key => row) ∈ AList.entries t := by
    simp only [rows, List.mem_map]
    constructor
    · rintro ⟨⟨k', r'⟩, hmem, heq⟩
      cases heq
      exact hmem
    · intro hmem
      exact ⟨⟨k, r⟩, hmem, rfl⟩
  rw [hentry]
  exact AList.mem_lookup_iff.symm

theorem mem_keys : k ∈ t.keys ↔ (t.get k).isSome := by
  exact AList.lookup_isSome.symm

theorem eq_empty (h : forall k, t.get k = none) : t = Table.empty := by
  have hkeys : AList.keys t = [] := by
    refine List.eq_nil_iff_forall_not_mem.mpr ?_
    intro k hk
    have hsome := mem_keys.mp hk
    rw [h k] at hsome
    cases hsome
  exact AList.ext (List.map_eq_nil_iff.mp hkeys)

omit [DecidableEq key] in
theorem nodup_keys (t : Table key row) : t.keys.Nodup :=
  AList.keys_nodup t

omit [DecidableEq key] in
theorem rows_keys (t : Table key row) : t.rows.map Prod.fst = t.keys := by
  simp only [rows, List.map_map]
  rfl

omit [DecidableEq key] in
theorem rows_pairwise (t : Table key row) :
    t.rows.Pairwise (fun a b => a.1 ≠ b.1) := by
  have hnodup := t.nodup_keys
  rw [← t.rows_keys] at hnodup
  exact List.pairwise_map.mp hnodup

end Table

end Foundation
end MessagingSystem
