import MessagingSystem.Foundation.Bytes
import MessagingSystem.Foundation.Effects
import MessagingSystem.Foundation.OrderBy

/-!
# Keyset pagination

A loop that selects the next page of a table in the order of its key, handles it, and goes on
after the last key of the page.  As long as no key comes or goes, the loop handles every key
once, in the order of the table, and stops.
-/

namespace MessagingSystem
namespace Foundation

section

variable {key order : Type} [LinearOrder order]

/-- `WHERE key > cursor ORDER BY key LIMIT limit`. -/
def pageAfter (sortKey : key -> order) (cursor : Option key) (limit : Nat) (keys : List key) :
    List key :=
  ((orderByAsc sortKey keys).filter
    (fun k => cursor.all (fun c => decide (sortKey c < sortKey k)))).take limit

variable {ε σ : Type} {sortKey : key -> order} {keys done rest all : List key}

def keysetLoop (sortKey : key -> order) (keysOf : σ -> List key) (limit : Nat)
    (batch : List key -> EStateM ε σ PUnit) : Nat -> Option key -> EStateM ε σ PUnit
  | 0, _ => pure ()
  | fuel + 1, cursor => do
      let s ← get
      let page := pageAfter sortKey cursor limit (keysOf s)
      match page.getLast? with
      | none => pure ()
      | some last => do
          batch page
          keysetLoop sortKey keysOf limit batch fuel (some last)

theorem increasing_orderByAsc (hsort : Function.Injective sortKey) (h : keys.Nodup) :
    Increasing sortKey (orderByAsc sortKey keys) := by
  have hnodup : (orderByAsc sortKey keys).Nodup := (orderByAsc_perm sortKey keys).nodup_iff.mpr h
  refine (List.Pairwise.and (sorted_orderByAsc sortKey keys) hnodup).imp ?_
  intro a b hab
  exact lt_of_le_of_ne hab.1 (fun heq => hab.2 (hsort heq))

/-- What remains after the last key that is done. -/
theorem filter_after (h : Increasing sortKey (done ++ rest)) :
    (done ++ rest).filter
        (fun k => done.getLast?.all (fun c => decide (sortKey c < sortKey k))) = rest := by
  cases hlast : done.getLast? with
  | none =>
      rw [List.getLast?_eq_none_iff.mp hlast]
      simp
  | some last =>
      rcases List.getLast?_eq_some_iff.mp hlast with ⟨before, hdone⟩
      rcases List.pairwise_append.mp h with ⟨hbefore, _, hcross⟩
      have hmem : last ∈ done := by
        rw [hdone]
        simp
      have hnone : done.filter (fun k => decide (sortKey last < sortKey k)) = [] := by
        apply List.filter_eq_nil_iff.mpr
        intro k hk hlt
        have hlt := of_decide_eq_true hlt
        rw [hdone] at hk hbefore
        rcases List.mem_append.mp hk with hk | hk
        · exact lt_asymm hlt ((increasing_append_singleton.mp hbefore).2 k hk)
        · rw [List.mem_singleton.mp hk] at hlt
          exact lt_irrefl _ hlt
      have hall : rest.filter (fun k => decide (sortKey last < sortKey k)) = rest := by
        apply List.filter_eq_self.mpr
        intro k hk
        exact decide_eq_true (hcross last hmem k hk)
      show (done ++ rest).filter (fun k => decide (sortKey last < sortKey k)) = rest
      rw [List.filter_append, hnone, hall, List.nil_append]

theorem pageAfter_eq (hsort : Function.Injective sortKey) (hnodup : all.Nodup)
    (hkeys : keys.Perm all) (hall : orderByAsc sortKey all = done ++ rest) (limit : Nat) :
    pageAfter sortKey done.getLast? limit keys = rest.take limit := by
  unfold pageAfter
  rw [← orderByAsc_eq_of_perm (hnodup.map hsort) hkeys.symm, hall,
    filter_after (hall ▸ increasing_orderByAsc hsort hnodup)]

/--
The rule of the loop.  The invariant speaks about the keys that are done, which are the first
ones in the order of the table.
-/
theorem keysetLoop_spec {keysOf : σ -> List key} {limit fuel : Nat}
    {batch : List key -> EStateM ε σ PUnit} {I : List key -> σ -> Prop} {fail : ε -> σ -> Prop}
    (hsort : Function.Injective sortKey) (hlimit : 0 < limit) (hnodup : all.Nodup)
    (hkeys : forall done s, I done s -> (keysOf s).Perm all)
    (hbatch : forall done page rest, orderByAsc sortKey all = done ++ (page ++ rest) ->
      Triple (I done) (batch page) (fun _ => I (done ++ page)) fail) (hfuel : all.length < fuel) :
    Triple (I []) (keysetLoop sortKey keysOf limit batch fuel none)
      (fun _ => I (orderByAsc sortKey all)) fail := by
  have hgo : forall rest done : List key, orderByAsc sortKey all = done ++ rest ->
      forall fuel, rest.length < fuel ->
        Triple (I done) (keysetLoop sortKey keysOf limit batch fuel done.getLast?)
          (fun _ => I (orderByAsc sortKey all)) fail := by
    intro rest
    induction rest using pieces_induct hlimit with
    | nil =>
        intro done hall fuel hfuel
        cases fuel with
        | zero => cases hfuel
        | succ fuel => ?_
        refine Triple.get ?_
        intro s hs
        dsimp only
        rw [pageAfter_eq hsort hnodup (hkeys done s hs) hall, List.take_nil, hall,
          List.append_nil]
        apply Triple.pure
        intro t ht
        rw [ht]
        exact hs
    | step rest hrest ih =>
        intro done hall fuel hfuel
        cases fuel with
        | zero => cases hfuel
        | succ fuel => ?_
        refine Triple.get ?_
        intro s hs
        obtain ⟨last, hlast⟩ : exists last, (rest.take limit).getLast? = some last := by
          cases hlast : (rest.take limit).getLast? with
          | some last => exact ⟨last, rfl⟩
          | none =>
              rcases List.take_eq_nil_iff.mp (List.getLast?_eq_none_iff.mp hlast) with
                hzero | hempty
              · omega
              · exact absurd hempty hrest
        have hdone : (done ++ rest.take limit).getLast? = some last := by
          rw [List.getLast?_append, hlast]
          rfl
        have hsplit : orderByAsc sortKey all = done ++ (rest.take limit ++ rest.drop limit) := by
          rw [List.take_append_drop, hall]
        have hshorter : (rest.drop limit).length < fuel := by
          have hpos := List.length_pos_of_ne_nil hrest
          rw [List.length_drop]
          omega
        have hnext := ih (done ++ rest.take limit) (by rw [List.append_assoc, hsplit]) fuel
          hshorter
        rw [hdone] at hnext
        dsimp only
        rw [pageAfter_eq hsort hnodup (hkeys done s hs) hall, hlast]
        refine Triple.bind _ ((hbatch done _ _ hsplit).conseq ?_ (fun _ _ h => h)
          (fun _ _ h => h)) (fun _ => hnext)
        intro t ht
        rw [ht]
        exact hs
  have hlength : (orderByAsc sortKey all).length < fuel := by
    rw [(orderByAsc_perm sortKey all).length_eq]
    exact hfuel
  exact hgo (orderByAsc sortKey all) [] rfl fuel hlength

end

end Foundation
end MessagingSystem
