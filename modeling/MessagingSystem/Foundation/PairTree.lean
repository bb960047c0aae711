import Mathlib

/-!
# Trees over a list

A binary tree is built over a list of leaves level by level: neighbours are combined,
and a last node without a neighbour is taken to the next level as it is.  When the
operation has no collision among the pairs it is applied to, the root determines all
leaves of a list of known length.
-/

namespace MessagingSystem
namespace Foundation

section

variable {node : Type} (combine : node -> node -> node)

def pairUp : List node -> List node
  | a :: b :: rest => combine a b :: pairUp rest
  | level => level

/-- Combine levels until one node is left; the fuel bounds the number of levels. -/
def climb : Nat -> List node -> List node
  | 0, level => level
  | fuel + 1, level => if level.length ≤ 1 then level else climb fuel (pairUp combine level)

def treeRoot (leaves : List node) : Option node :=
  (climb combine leaves.length leaves).head?

theorem pairUp_length (level : List node) :
    (pairUp combine level).length = (level.length + 1) / 2 := by
  induction level using pairUp.induct with
  | case1 a b rest ih =>
      rw [pairUp, List.length_cons, ih, List.length_cons, List.length_cons]
      omega
  | case2 level hshort =>
      match level, hshort with
      | [], _ => simp [pairUp]
      | [a], _ => simp [pairUp]
      | a :: b :: rest, hshort => exact absurd rfl (hshort a b rest)

theorem climb_length {fuel : Nat} {level : List node} (hlevel : level ≠ [])
    (hfuel : level.length ≤ fuel + 1) : (climb combine fuel level).length = 1 := by
  have hpos : 0 < level.length := List.length_pos_iff.mpr hlevel
  induction fuel generalizing level with
  | zero => exact Nat.le_antisymm hfuel hpos
  | succ fuel ih =>
      unfold climb
      split
      · exact Nat.le_antisymm (by assumption) hpos
      · have hlength := pairUp_length combine level
        have hup : 0 < (pairUp combine level).length := by omega
        exact ih (List.length_pos_iff.mp hup) (by omega) hup

theorem exists_treeRoot {leaves : List node} (h : leaves ≠ []) :
    exists root, treeRoot combine leaves = some root ∧
      climb combine leaves.length leaves = [root] := by
  have hlength := climb_length combine h (Nat.le_succ _)
  rcases List.length_eq_one_iff.mp hlength with ⟨root, hroot⟩
  unfold treeRoot
  rw [hroot]
  exact ⟨root, rfl, rfl⟩

/-!
# The leaves under a root
-/

/-- The pairs of neighbours of one level. -/
def levelPairs : List node -> List (node × node)
  | a :: b :: rest => (a, b) :: levelPairs rest
  | _ => []

/-- All pairs that are combined on the way to the root. -/
def climbPairs : Nat -> List node -> List (node × node)
  | 0, _ => []
  | fuel + 1, level =>
      if level.length ≤ 1 then []
      else levelPairs level ++ climbPairs fuel (pairUp combine level)

/-- No two different pairs of the list are combined to the same node. -/
def CombinesApart (pairs : List (node × node)) : Prop :=
  forall p q, p ∈ pairs -> q ∈ pairs -> combine p.1 p.2 = combine q.1 q.2 -> p = q

variable {combine}

theorem CombinesApart.mono {pairs some : List (node × node)} (h : CombinesApart combine pairs)
    (hsome : forall p, p ∈ some -> p ∈ pairs) : CombinesApart combine some :=
  fun p q hp hq heq => h p q (hsome p hp) (hsome q hq) heq

theorem pairUp_injective {first second : List node} (hlength : first.length = second.length)
    (happart : CombinesApart combine (levelPairs first ++ levelPairs second))
    (h : pairUp combine first = pairUp combine second) : first = second := by
  induction first using pairUp.induct generalizing second with
  | case1 a b rest ih =>
      match second, hlength with
      | c :: d :: other, hlength =>
          injection h with hhead htail
          have hpair : (a, b) = (c, d) := by
            refine happart _ _ (by simp [levelPairs]) (by simp [levelPairs]) hhead
          have hrest : rest = other := by
            refine ih (by simpa using hlength) (happart.mono ?_) htail
            exact ((List.sublist_cons_self _ _).append (List.sublist_cons_self _ _)).subset
          cases hpair
          rw [hrest]
  | case2 level hshort =>
      match level, second, hlength, hshort with
      | [], [], _, _ => rfl
      | [a], [b], _, _ => exact h
      | a :: b :: rest, _, _, hshort => exact absurd rfl (hshort a b rest)

theorem climb_injective {fuel : Nat} {first second : List node}
    (hlength : first.length = second.length)
    (happart : CombinesApart combine
      (climbPairs combine fuel first ++ climbPairs combine fuel second))
    (h : climb combine fuel first = climb combine fuel second) : first = second := by
  induction fuel generalizing first second with
  | zero => exact h
  | succ fuel ih =>
      unfold climb at h
      unfold climbPairs at happart
      rw [hlength] at h happart
      split at h
      · exact h
      · rename_i hlong
        rw [if_neg hlong, if_neg hlong] at happart
        have hup := pairUp_length combine
        refine pairUp_injective hlength (happart.mono ?_)
          (ih (by rw [hup, hup, hlength]) (happart.mono ?_) h)
        · exact ((List.sublist_append_left _ _).append (List.sublist_append_left _ _)).subset
        · exact ((List.sublist_append_right _ _).append (List.sublist_append_right _ _)).subset

end

end Foundation
end MessagingSystem
