import MessagingSystem.Foundation.Keyset

/-!
# Backfill with one budget for several sources

A reader fetches what it has missed from several sources.  Each round visits the sources in a
fixed order with one budget for all of them, and then the cursor of a source moves to the
largest number received from it.  Round by round this takes the concatenated backlog apart
from the front.
-/

namespace MessagingSystem
namespace Foundation

/-!
# Portions of a list
-/

section

variable {row : Type}

/-- The first portions of a list, all of one size as long as there is enough. -/
def portions (size : Nat) : Nat -> List row -> List (List row)
  | 0, _ => []
  | count + 1, rows => rows.take size :: portions size count (rows.drop size)

theorem length_portions (size count : Nat) (rows : List row) :
    (portions size count rows).length = count := by
  induction count generalizing rows with
  | zero => rfl
  | succ count ih => rw [portions, List.length_cons, ih]

theorem length_le_of_mem_portions {size count : Nat} {rows portion : List row}
    (h : portion ∈ portions size count rows) : portion.length ≤ size := by
  induction count generalizing rows with
  | zero => cases h
  | succ count ih =>
      rcases List.mem_cons.mp h with heq | hrest
      · rw [heq]
        exact List.length_take_le _ _
      · exact ih hrest

theorem flatten_portions (size count : Nat) (rows : List row) :
    (portions size count rows).flatten = rows.take (count * size) := by
  induction count generalizing rows with
  | zero => rw [Nat.zero_mul, List.take_zero]; rfl
  | succ count ih =>
      rw [portions, List.flatten_cons, ih, Nat.succ_mul, Nat.add_comm, List.take_add]

theorem getElem?_portions {size count i : Nat} {rows portion : List row}
    (h : (portions size count rows)[i]? = some portion) :
    portion = (rows.drop (i * size)).take size := by
  induction count generalizing rows i with
  | zero => cases h
  | succ count ih =>
      cases i with
      | zero =>
          rw [Nat.zero_mul, List.drop_zero]
          exact (Option.some.inj h).symm
      | succ i =>
          have hrest := ih h
          rw [List.drop_drop] at hrest
          rw [Nat.succ_mul, Nat.add_comm]
          exact hrest

end

/-!
# One round
-/

section

variable {key row : Type}

/-- One page after the other, until the budget is used up. -/
def budgetedPages (fetch : key -> Nat -> List row) : Nat -> List key -> List row
  | _, [] => []
  | remaining, k :: ks =>
      if remaining = 0 then []
      else
        let page := fetch k remaining
        page ++ budgetedPages fetch (remaining - page.length) ks

theorem budgetedPages_eq_take {fetch : key -> Nat -> List row} {rows : key -> List row}
    (hfetch : forall k n, 0 < n -> fetch k n = (rows k).take n) (remaining : Nat)
    (ks : List key) :
    budgetedPages fetch remaining ks = (ks.flatMap rows).take remaining := by
  induction ks generalizing remaining with
  | nil =>
      rw [List.flatMap_nil, List.take_nil]
      rfl
  | cons k ks ih =>
      unfold budgetedPages
      split
      · rename_i hzero
        rw [hzero, List.take_zero]
      · rename_i hpositive
        dsimp only
        rw [hfetch k remaining (Nat.pos_of_ne_zero hpositive), ih, List.flatMap_cons,
          List.take_append, List.length_take]
        congr 2
        omega

variable [DecidableEq key] (keyOf : row -> key) (seqOf : row -> Nat) (rows : key -> List row)

/-- What a source has after its cursor. -/
def backlog (cursor : key -> Nat) (k : key) : List row :=
  (rows k).filter (fun r => decide (cursor k < seqOf r))

/-- The largest number received from a source, or the old cursor. -/
def advance (cursor : key -> Nat) (page : List row) (k : key) : Nat :=
  ((page.filter (fun r => decide (keyOf r = k))).map seqOf).max?.getD (cursor k)

/-- The pages of one round after the other. -/
def rounds (limit : Nat) (ks : List key) : Nat -> (key -> Nat) -> List (List row)
  | 0, _ => []
  | count + 1, cursor =>
      let page := (ks.flatMap (backlog seqOf rows cursor)).take limit
      page :: rounds limit ks count (advance keyOf seqOf cursor page)

end

section

variable {key row : Type} {keyOf : row -> key} {seqOf : row -> Nat}
  {rows : key -> List row} {cursor : key -> Nat} {k : key} {ks : List key}

theorem increasing_backlog (hrows : forall k, Increasing seqOf (rows k)) (k : key) :
    Increasing seqOf (backlog seqOf rows cursor k) :=
  List.Pairwise.filter _ (hrows k)

theorem backlog_congr {cursor cursor' : key -> Nat} (h : cursor k = cursor' k) :
    backlog seqOf rows cursor k = backlog seqOf rows cursor' k := by
  unfold backlog
  simp only [h]

theorem max?_map_of_increasing {received : List row} {last : row}
    (h : Increasing seqOf received) (hlast : received.getLast? = some last) :
    (received.map seqOf).max? = some (seqOf last) := by
  rcases List.getLast?_eq_some_iff.mp hlast with ⟨before, hreceived⟩
  rw [hreceived] at h
  have hle := (increasing_append_singleton.mp h).2
  apply List.max?_eq_some_iff.mpr
  constructor
  · rw [hreceived]
    simp
  · intro n hn
    rw [hreceived, List.map_append, List.mem_append] at hn
    rcases hn with hbefore | hn
    · rcases List.mem_map.mp hbefore with ⟨r, hr, heq⟩
      rw [← heq]
      exact Nat.le_of_lt (hle r hr)
    · rw [List.mem_singleton.mp hn]

theorem keyOf_of_mem_backlog (hkey : forall k r, r ∈ rows k -> keyOf r = k) {r : row}
    (hr : r ∈ backlog seqOf rows cursor k) : keyOf r = k :=
  hkey k r (List.mem_filter.mp hr).1

theorem keyOf_of_mem_flatMap (hkey : forall k r, r ∈ rows k -> keyOf r = k) {r : row}
    (hr : r ∈ ks.flatMap (backlog seqOf rows cursor)) : keyOf r ∈ ks := by
  rcases List.mem_flatMap.mp hr with ⟨k, hk, hr⟩
  rw [keyOf_of_mem_backlog hkey hr]
  exact hk

variable [DecidableEq key]

/-- Only the rows that were not received are left of a source. -/
theorem backlog_advance (hrows : forall k, Increasing seqOf (rows k)) {page : List row} {n : Nat}
    (h : page.filter (fun r => decide (keyOf r = k)) = (backlog seqOf rows cursor k).take n) :
    backlog seqOf rows (advance keyOf seqOf cursor page) k
      = (backlog seqOf rows cursor k).drop n := by
  have hincreasing : Increasing seqOf (backlog seqOf rows cursor k) :=
    increasing_backlog hrows k
  have hsplit := List.take_append_drop n (backlog seqOf rows cursor k)
  cases hlast : ((backlog seqOf rows cursor k).take n).getLast? with
  | none =>
      rw [List.getLast?_eq_none_iff] at hlast
      rw [hlast, List.nil_append] at hsplit
      rw [hsplit]
      unfold backlog advance
      rw [h, hlast]
      rfl
  | some last =>
      rw [← hsplit] at hincreasing
      have hreceived := (List.pairwise_append.mp hincreasing).1
      have hcursor : advance keyOf seqOf cursor page k = seqOf last := by
        unfold advance
        rw [h, max?_map_of_increasing hreceived hlast]
        rfl
      have hmem : last ∈ backlog seqOf rows cursor k :=
        List.mem_of_mem_take (List.mem_of_getLast? hlast)
      have hlater : cursor k < seqOf last := of_decide_eq_true (List.mem_filter.mp hmem).2
      have hrest := filter_after hincreasing
      rw [hsplit, hlast] at hrest
      rw [← hrest]
      unfold backlog
      rw [hcursor, List.filter_filter]
      apply List.filter_congr
      intro r _
      show decide (seqOf last < seqOf r)
        = (decide (seqOf last < seqOf r) && decide (cursor k < seqOf r))
      by_cases hlt : seqOf last < seqOf r
      · rw [decide_eq_true hlt, decide_eq_true (lt_trans hlater hlt)]
        rfl
      · rw [decide_eq_false hlt]
        rfl

variable (hrows : forall k, Increasing seqOf (rows k))
  (hkey : forall k r, r ∈ rows k -> keyOf r = k)
include hkey

theorem filter_backlog_self (k : key) (n : Nat) :
    ((backlog seqOf rows cursor k).take n).filter (fun r => decide (keyOf r = k))
      = (backlog seqOf rows cursor k).take n := by
  apply List.filter_eq_self.mpr
  intro r hr
  exact decide_eq_true (keyOf_of_mem_backlog hkey (List.mem_of_mem_take hr))

theorem filter_backlog_ne {k' : key} (hne : k ≠ k') (n : Nat) :
    ((backlog seqOf rows cursor k).take n).filter (fun r => decide (keyOf r = k')) = [] := by
  apply List.filter_eq_nil_iff.mpr
  intro r hr heq
  rw [keyOf_of_mem_backlog hkey (List.mem_of_mem_take hr)] at heq
  exact hne (of_decide_eq_true heq)

theorem filter_flatMap_not_mem (hk : k ∉ ks) (n : Nat) :
    ((ks.flatMap (backlog seqOf rows cursor)).take n).filter (fun r => decide (keyOf r = k))
      = [] := by
  apply List.filter_eq_nil_iff.mpr
  intro r hr heq
  have hmem : keyOf r ∈ ks := keyOf_of_mem_flatMap hkey (List.mem_of_mem_take hr)
  rw [of_decide_eq_true heq] at hmem
  exact hk hmem

include hrows

/-- Every source comes in its own order. -/
theorem increasing_filter_flatMap (hks : ks.Nodup) (k : key) :
    Increasing seqOf ((ks.flatMap (backlog seqOf rows cursor)).filter
      (fun r => decide (keyOf r = k))) := by
  induction ks with
  | nil => exact List.Pairwise.nil
  | cons k' ks ih =>
      rcases List.nodup_cons.mp hks with ⟨hk', hks⟩
      rw [List.flatMap_cons, List.filter_append]
      by_cases heq : k' = k
      · subst heq
        rw [← List.take_length (l := backlog seqOf rows cursor k'),
          ← List.take_length (l := ks.flatMap (backlog seqOf rows cursor)),
          filter_backlog_self hkey, filter_flatMap_not_mem hkey hk', List.append_nil,
          List.take_length]
        exact increasing_backlog hrows k'
      · rw [← List.take_length (l := backlog seqOf rows cursor k'),
          filter_backlog_ne hkey heq, List.nil_append]
        exact ih hks

/-- The step: a round takes the first rows of the backlog away. -/
theorem flatMap_backlog_advance (hks : ks.Nodup) (n : Nat) :
    ks.flatMap (backlog seqOf rows (advance keyOf seqOf cursor
        ((ks.flatMap (backlog seqOf rows cursor)).take n)))
      = (ks.flatMap (backlog seqOf rows cursor)).drop n := by
  induction ks generalizing n with
  | nil => simp
  | cons k ks ih =>
      rcases List.nodup_cons.mp hks with ⟨hk, hks⟩
      let own := backlog seqOf rows cursor k
      let others := ks.flatMap (backlog seqOf rows cursor)
      have hpage : (own ++ others).take n = own.take n ++ others.take (n - own.length) :=
        List.take_append
      -- The page splits into the rows of this source and the rows of the later ones.
      have hown : (own.take n ++ others.take (n - own.length)).filter
          (fun r => decide (keyOf r = k)) = own.take n := by
        rw [List.filter_append, filter_backlog_self hkey, filter_flatMap_not_mem hkey hk,
          List.append_nil]
      have hothers : forall k', k' ∈ ks ->
          backlog seqOf rows (advance keyOf seqOf cursor
            (own.take n ++ others.take (n - own.length))) k'
          = backlog seqOf rows (advance keyOf seqOf cursor
            (others.take (n - own.length))) k' := by
        intro k' hk'
        have hne : k ≠ k' := fun heq => hk (heq ▸ hk')
        have hnone : (own.take n).filter (fun r => decide (keyOf r = k')) = [] :=
          filter_backlog_ne hkey hne n
        unfold backlog advance
        rw [List.filter_append, hnone, List.nil_append]
      rw [List.flatMap_cons, List.flatMap_cons]
      show backlog _ _ (advance _ _ _ ((own ++ others).take n)) k ++
        ks.flatMap (backlog _ _ (advance _ _ _ ((own ++ others).take n))) = (own ++ others).drop n
      rw [hpage, List.flatMap_congr hothers, ih hks, backlog_advance hrows hown,
        List.drop_append]

theorem rounds_eq_portions (hks : ks.Nodup) (limit count : Nat) :
    rounds keyOf seqOf rows limit ks count cursor
      = portions limit count (ks.flatMap (backlog seqOf rows cursor)) := by
  induction count generalizing cursor with
  | zero => rfl
  | succ count ih =>
      unfold rounds portions
      dsimp only
      rw [ih, flatMap_backlog_advance hrows hkey hks]

end

end Foundation
end MessagingSystem
