import MessagingSystem.Foundation.Json
import MessagingSystem.Foundation.OrderBy

/-!
# JSON up to key order

Two values are the same up to key order when they differ only in the order of
object members, at any depth.  Sorting all members by key picks one value out of
every such class.
-/

namespace MessagingSystem
namespace Foundation
namespace Json

/-!
# Well-formed values
-/

variable {members : List (String × Json)}

mutual

/-- No object, at any depth, repeats a key. -/
def WellFormed : Json -> Prop
  | null => True
  | bool _ => True
  | int _ => True
  | float _ => True
  | str _ => True
  | arr items => WellFormedItems items
  | obj members => (members.map Prod.fst).Nodup ∧ WellFormedMembers members

def WellFormedItems : List Json -> Prop
  | [] => True
  | item :: items => WellFormed item ∧ WellFormedItems items

def WellFormedMembers : List (String × Json) -> Prop
  | [] => True
  | (_, value) :: members => WellFormed value ∧ WellFormedMembers members

end

theorem wellFormedItems_iff {items : List Json} :
    WellFormedItems items ↔ forall item, item ∈ items -> WellFormed item := by
  induction items with
  | nil => simp [WellFormedItems]
  | cons item items ih => simp [WellFormedItems, ih]

theorem wellFormedMembers_iff :
    WellFormedMembers members ↔ forall m, m ∈ members -> WellFormed m.2 := by
  induction members with
  | nil => simp [WellFormedMembers]
  | cons m members ih => simp [WellFormedMembers, ih]

/-!
# The same up to key order
-/

variable {others : List (String × Json)}

mutual

def Same : Json -> Json -> Prop
  | null, other => other = null
  | bool b, other => other = bool b
  | int n, other => other = int n
  | float x, other => other = float x
  | str s, other => other = str s
  | arr items, other => exists items', other = arr items' ∧ SameItems items items'
  | obj members, other => exists members', other = obj members' ∧
      members'.length = members.length ∧ SameMembers members members'

def SameItems : List Json -> List Json -> Prop
  | [], others => others = []
  | item :: items, others => exists item' items', others = item' :: items' ∧
      Same item item' ∧ SameItems items items'

def SameMembers : List (String × Json) -> List (String × Json) -> Prop
  | [], _ => True
  | (k, value) :: members, others =>
      (exists value', (k, value') ∈ others ∧ Same value value') ∧
        SameMembers members others

end

theorem sameMembers_iff :
    SameMembers members others ↔ forall m, m ∈ members ->
      exists value', (m.1, value') ∈ others ∧ Same m.2 value' := by
  induction members with
  | nil => simp [SameMembers]
  | cons m members ih => simp [SameMembers, ih]

/-!
# Sorting the keys
-/

def sortMembers (members : List (String × Json)) : List (String × Json) :=
  members.insertionSort (fun a b => a.1 ≤ b.1)

mutual

def sortKeys : Json -> Json
  | null => null
  | bool b => bool b
  | int n => int n
  | float x => float x
  | str s => str s
  | arr items => arr (sortKeysItems items)
  | obj members => obj (sortMembers (sortKeysMembers members))

def sortKeysItems : List Json -> List Json
  | [] => []
  | item :: items => sortKeys item :: sortKeysItems items

def sortKeysMembers : List (String × Json) -> List (String × Json)
  | [] => []
  | (k, value) :: members => (k, sortKeys value) :: sortKeysMembers members

end

theorem sortKeysItems_eq_map (items : List Json) :
    sortKeysItems items = items.map sortKeys := by
  induction items with
  | nil => rfl
  | cons item items ih => rw [sortKeysItems, ih, List.map_cons]

theorem sortKeysMembers_eq_map (members : List (String × Json)) :
    sortKeysMembers members = members.map (fun m => (m.1, sortKeys m.2)) := by
  induction members with
  | nil => rfl
  | cons m members ih => rw [sortKeysMembers, ih, List.map_cons]

theorem sortKeysMembers_keys (members : List (String × Json)) :
    (sortKeysMembers members).map Prod.fst = members.map Prod.fst := by
  rw [sortKeysMembers_eq_map, List.map_map]
  rfl

/-- Members with distinct keys have one sorted arrangement. -/
theorem sortMembers_eq_of_perm {ms ns : List (String × Json)}
    (hkeys : (ms.map Prod.fst).Nodup) (h : ms.Perm ns) :
    sortMembers ms = sortMembers ns :=
  orderByAsc_eq_of_perm hkeys h

/-!
# Sorting decides sameness
-/

theorem sameItems_iff {items : List Json}
    (ih : forall item, item ∈ items -> forall other, WellFormed item ->
      WellFormed other -> (sortKeys item = sortKeys other ↔ Same item other))
    {others : List Json} (hitems : WellFormedItems items)
    (hothers : WellFormedItems others) :
    sortKeysItems items = sortKeysItems others ↔ SameItems items others := by
  induction items generalizing others with
  | nil =>
      cases others with
      | nil => simp [SameItems]
      | cons other others => simp [sortKeysItems, SameItems]
  | cons item items ihItems =>
      cases others with
      | nil => simp [sortKeysItems, SameItems]
      | cons other others =>
          have hhead := ih item List.mem_cons_self other hitems.1 hothers.1
          have htail := ihItems (fun x hx => ih x (List.mem_cons_of_mem item hx))
            hitems.2 hothers.2
          simp only [sortKeysItems, List.cons.injEq, hhead, htail, SameItems]
          constructor
          · rintro ⟨h1, h2⟩
            exact ⟨other, others, ⟨rfl, rfl⟩, h1, h2⟩
          · rintro ⟨_, _, ⟨rfl, rfl⟩, h1, h2⟩
            exact ⟨h1, h2⟩

theorem sameMembers_of_sort_eq
    (ih : forall m, m ∈ members -> forall other, WellFormed m.2 -> WellFormed other ->
      (sortKeys m.2 = sortKeys other ↔ Same m.2 other)) (hmembers : WellFormedMembers members)
    (hothers : WellFormedMembers others)
    (h : sortMembers (sortKeysMembers members) = sortMembers (sortKeysMembers others)) :
    others.length = members.length ∧ SameMembers members others := by
  have hperm : (sortKeysMembers members).Perm (sortKeysMembers others) := by
    have hleft := List.perm_insertionSort (fun a b : String × Json => a.1 ≤ b.1)
      (sortKeysMembers members)
    have hright := List.perm_insertionSort (fun a b : String × Json => a.1 ≤ b.1)
      (sortKeysMembers others)
    unfold sortMembers at h
    exact hleft.symm.trans (h ▸ hright)
  constructor
  · have hlength := hperm.length_eq
    rw [sortKeysMembers_eq_map, sortKeysMembers_eq_map, List.length_map,
      List.length_map] at hlength
    exact hlength.symm
  · apply sameMembers_iff.mpr
    intro m hm
    have hsorted : (m.1, sortKeys m.2) ∈ sortKeysMembers others := by
      apply hperm.mem_iff.mp
      rw [sortKeysMembers_eq_map]
      exact List.mem_map_of_mem hm
    rw [sortKeysMembers_eq_map] at hsorted
    rcases List.mem_map.mp hsorted with ⟨⟨k, value⟩, hother, heq⟩
    injection heq with hkey hvalue
    refine ⟨value, hkey ▸ hother, ?_⟩
    exact (ih m hm value (wellFormedMembers_iff.mp hmembers m hm)
      (wellFormedMembers_iff.mp hothers _ hother)).mp hvalue.symm

theorem sort_eq_of_sameMembers
    (ih : forall m, m ∈ members -> forall other, WellFormed m.2 -> WellFormed other ->
      (sortKeys m.2 = sortKeys other ↔ Same m.2 other)) (hkeys : (members.map Prod.fst).Nodup)
    (hmembers : WellFormedMembers members) (hothers : WellFormedMembers others)
    (hlength : others.length = members.length) (h : SameMembers members others) :
    sortMembers (sortKeysMembers members) = sortMembers (sortKeysMembers others) := by
  have hsortedKeys : ((sortKeysMembers members).map Prod.fst).Nodup := by
    rwa [sortKeysMembers_keys]
  have hsubset : sortKeysMembers members ⊆ sortKeysMembers others := by
    intro sorted hsorted
    rw [sortKeysMembers_eq_map] at hsorted ⊢
    rcases List.mem_map.mp hsorted with ⟨m, hm, rfl⟩
    rcases sameMembers_iff.mp h m hm with ⟨value, hvalue, hsame⟩
    refine List.mem_map.mpr ⟨(m.1, value), hvalue, ?_⟩
    have heq := (ih m hm value (wellFormedMembers_iff.mp hmembers m hm)
      (wellFormedMembers_iff.mp hothers _ hvalue)).mpr hsame
    simp only [heq]
  have hperm : (sortKeysMembers members).Perm (sortKeysMembers others) := by
    refine (List.subperm_of_subset (List.Nodup.of_map Prod.fst hsortedKeys)
      hsubset).perm_of_length_le ?_
    rw [sortKeysMembers_eq_map, sortKeysMembers_eq_map, List.length_map,
      List.length_map, hlength]
  exact sortMembers_eq_of_perm hsortedKeys hperm

/-- Two well-formed values sort to one value exactly when they are the same. -/
theorem sortKeys_eq_iff {a b : Json} (ha : WellFormed a) (hb : WellFormed b) :
    sortKeys a = sortKeys b ↔ Same a b := by
  induction a using Json.induct generalizing b with
  | null => cases b <;> simp [sortKeys, Same]
  | bool | int | float | str => cases b <;> simp [sortKeys, Same, eq_comm]
  | arr items ih =>
      cases b with
      | arr others =>
          simp only [sortKeys, arr.injEq, Same]
          rw [sameItems_iff (fun x hx other h1 h2 => ih x hx h1 h2) ha hb]
          constructor
          · intro h
            exact ⟨others, rfl, h⟩
          · rintro ⟨_, rfl, h⟩
            exact h
      | _ => simp [sortKeys, Same]
  | obj members ih =>
      cases b with
      | obj others =>
          have ih' := fun m hm other h1 h2 => @ih m hm other h1 h2
          simp only [sortKeys, obj.injEq, Same]
          constructor
          · intro h
            exact ⟨others, rfl, sameMembers_of_sort_eq ih' ha.2 hb.2 h⟩
          · rintro ⟨_, rfl, hlength, h⟩
            exact sort_eq_of_sameMembers ih' ha.1 ha.2 hb.2 hlength h
      | _ => simp [sortKeys, Same]

/-!
# Sorted values

Sorting a sorted value changes nothing, and the sorted text of a record determines
each of its fields.
-/

theorem sortKeysMembers_sortMembers (members : List (String × Json)) :
    sortKeysMembers (sortMembers members) = sortMembers (sortKeysMembers members) := by
  rw [sortKeysMembers_eq_map, sortKeysMembers_eq_map]
  exact List.map_insertionSort _ _ _ _ (fun _ _ _ _ => Iff.rfl)

theorem sortMembers_sortMembers (members : List (String × Json)) :
    sortMembers (sortMembers members) = sortMembers members :=
  (List.pairwise_insertionSort _ members).insertionSort_eq

theorem sortKeys_sortKeys (a : Json) : sortKeys (sortKeys a) = sortKeys a := by
  induction a using Json.induct with
  | null | bool | int | float | str => rfl
  | arr items ih =>
      simp only [sortKeys, sortKeysItems_eq_map, List.map_map]
      exact congrArg arr (List.map_congr_left ih)
  | obj members ih =>
      have hvalues : sortKeysMembers (sortKeysMembers members) = sortKeysMembers members := by
        simp only [sortKeysMembers_eq_map, List.map_map]
        refine List.map_congr_left ?_
        intro m hm
        exact congrArg (fun v => (m.1, v)) (ih m hm)
      simp only [sortKeys]
      rw [sortKeysMembers_sortMembers, hvalues, sortMembers_sortMembers]

theorem wellFormed_sortKeys {a : Json} (h : WellFormed a) : WellFormed (sortKeys a) := by
  induction a using Json.induct with
  | null | bool | int | float | str => exact h
  | arr items ih =>
      have hitems := wellFormedItems_iff.mp h
      rw [sortKeys, sortKeysItems_eq_map]
      refine wellFormedItems_iff.mpr (List.forall_mem_map.mpr ?_)
      intro item hitem
      exact ih item hitem (hitems item hitem)
  | obj members ih =>
      have hmembers := wellFormedMembers_iff.mp h.2
      have hperm := orderByAsc_perm Prod.fst (sortKeysMembers members)
      refine ⟨(hperm.map Prod.fst).nodup_iff.mpr ?_, wellFormedMembers_iff.mpr ?_⟩
      · rw [sortKeysMembers_keys]
        exact h.1
      · intro m hm
        have hsorted := hperm.mem_iff.mp hm
        rw [sortKeysMembers_eq_map] at hsorted
        rcases List.mem_map.mp hsorted with ⟨m', hm', rfl⟩
        exact ih m' hm' (hmembers m' hm')

/-- A record as an object, one member for each field. -/
def record {value : Type _} (fields : List (String × (value -> Json))) (v : value) : Json :=
  obj (fields.map (fun f => (f.1, f.2 v)))

theorem wellFormed_record {value : Type _} {fields : List (String × (value -> Json))}
    (hkeys : (fields.map Prod.fst).Nodup) {v : value}
    (h : forall f, f ∈ fields -> WellFormed (f.2 v)) : WellFormed (record fields v) := by
  refine ⟨?_, wellFormedMembers_iff.mpr (List.forall_mem_map.mpr h)⟩
  rw [List.map_map]
  exact hkeys

theorem sortKeys_record {value : Type _} {fields : List (String × (value -> Json))}
    (hkeys : (fields.map Prod.fst).Nodup) {v w : value}
    (h : sortKeys (record fields v) = sortKeys (record fields w))
    {f : String × (value -> Json)} (hf : f ∈ fields) :
    sortKeys (f.2 v) = sortKeys (f.2 w) := by
  simp only [record, sortKeys, sortKeysMembers_eq_map, List.map_map, obj.injEq] at h
  have hperm := (List.perm_insertionSort _ _).symm.trans
    ((List.Perm.of_eq h).trans (List.perm_insertionSort _ _))
  have hmem : (f.1, sortKeys (f.2 v)) ∈ fields.map (fun f => (f.1, sortKeys (f.2 w))) :=
    hperm.mem_iff.mp (List.mem_map.mpr ⟨f, hf, rfl⟩)
  rcases List.mem_map.mp hmem with ⟨g, hg, heq⟩
  injection heq with hkey hvalue
  rw [← hvalue, List.inj_on_of_nodup_map hkeys hg hf hkey]

end Json
end Foundation
end MessagingSystem
