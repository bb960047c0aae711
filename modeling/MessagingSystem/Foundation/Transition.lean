import Mathlib

/-!
# Labelled transition systems

The components of the development are state machines driven by requests, worker
steps and crashes.  This module fixes the vocabulary they share: a system with a
start predicate and a labelled step relation, the states it can reach, and the
finite executions that the temporal statements quantify over.
-/

namespace MessagingSystem
namespace Foundation

structure System (state label : Type _) where
  start : state -> Prop
  step : state -> label -> state -> Prop

namespace System

variable {M : System state label} {labels : List label}
variable {next : state -> label -> Option state}

/-!
# Reachable states

Safety statements quantify over `Reachable`.  The induction is packaged
once: an invariant that holds at the start and survives every step holds in
every reachable state.
-/

variable {s : state} {P : state -> label -> Prop}

inductive Reachable (M : System state label) : state -> Prop where
  | start {s : state} : M.start s -> Reachable M s
  | step {s t : state} {a : label} :
      Reachable M s -> M.step s a t -> Reachable M t

theorem Reachable.invariant {I : state -> Prop} (hstart : forall s, M.start s -> I s)
    (hstep : forall s a t, I s -> M.step s a t -> I t) (h : Reachable M s) : I s := by
  induction h with
  | start h0 => exact hstart _ h0
  | step _ hs ih => exact hstep _ _ _ ih hs

/--
The system whose steps are the steps of `M` that satisfy a condition on the
state before the step and on its label.
-/
def restrict (M : System state label) (P : state -> label -> Prop) :
    System state label where
  start := M.start
  step s a t := P s a ∧ M.step s a t

theorem Reachable.of_restrict (h : Reachable (M.restrict P) s) : Reachable M s := by
  induction h with
  | start h0 => exact Reachable.start h0
  | step _ hs ih => exact Reachable.step ih hs.right

theorem Reachable.to_restrict (hP : forall s a, P s a) (h : Reachable M s) :
    Reachable (M.restrict P) s := by
  induction h with
  | start h0 => exact Reachable.start h0
  | step _ hs ih => exact Reachable.step ih ⟨hP _ _, hs⟩

/-- The steps of a step function that satisfy the condition. -/
def guarded (P : state -> label -> Prop) [forall s a, Decidable (P s a)]
    (next : state -> label -> Option state) (s : state) (a : label) : Option state :=
  if P s a then next s a else none

theorem step_of_guarded [forall s a, Decidable (P s a)]
    (hnext : forall s a t, next s a = some t -> M.step s a t) (s : state) (a : label) (t : state)
    (h : guarded P next s a = some t) : (M.restrict P).step s a t := by
  unfold guarded at h
  split at h
  · exact ⟨by assumption, hnext s a t h⟩
  · cases h

/-!
# Runs of a step function

Concrete histories are evaluated by a step function; what such a history reaches
is reachable in every system that has its steps.
-/

variable {t : state}

theorem Reachable.of_run (hnext : forall s a t, next s a = some t -> M.step s a t)
    (hs : Reachable M s) (h : labels.foldlM next s = some t) : Reachable M t := by
  induction labels generalizing s with
  | nil =>
      cases h
      exact hs
  | cons a labels ih =>
      rw [List.foldlM_cons] at h
      rcases Option.bind_eq_some_iff.mp h with ⟨mid, hmid, hrest⟩
      exact ih (Reachable.step hs (hnext s a mid hmid)) hrest

/-- A run that ends in a state with some view reaches such a state. -/
theorem exists_reachable_of_run (hnext : forall s a t, next s a = some t -> M.step s a t)
    (hs : M.start s) {view : state -> value} {v : value}
    (h : (labels.foldlM next s).map view = some v) : exists t, Reachable M t ∧ view t = v := by
  rcases Option.map_eq_some_iff.mp h with ⟨t, hrun, hview⟩
  exact ⟨t, Reachable.of_run hnext (Reachable.start hs) hrun, hview⟩

/-!
# Executions

A finite execution keeps the states it passes through, so that a statement may speak
about the past of a state.
-/

variable {n : Nat}

structure Execution (M : System state label) where
  length : Nat
  stateAt : Nat -> state
  labelAt : Nat -> label
  start : M.start (stateAt 0)
  step : forall i, i < length -> M.step (stateAt i) (labelAt i) (stateAt (i + 1))

/-- A property of positions that survives every step holds at every position. -/
theorem Execution.induct (e : Execution M) {I : Nat -> Prop} (hstart : I 0)
    (hstep : forall i, i < e.length -> I i ->
      M.step (e.stateAt i) (e.labelAt i) (e.stateAt (i + 1)) -> I (i + 1)) (hn : n ≤ e.length) :
    I n := by
  induction n with
  | zero => exact hstart
  | succ n ih => exact hstep n hn (ih (Nat.le_of_lt hn)) (e.step n hn)

theorem Execution.reachable (e : Execution M) (hn : n ≤ e.length) : M.Reachable (e.stateAt n) := by
  induction n with
  | zero => exact Reachable.start e.start
  | succ n ih => exact Reachable.step (ih (Nat.le_of_lt hn)) (e.step n hn)

/-- A preorder kept by every reachable step relates earlier states to later ones. -/
theorem Execution.related_of_reachable (e : Execution M) {R : state -> state -> Prop}
    (hrefl : forall s, R s s) (htrans : forall a b c, R a b -> R b c -> R a c)
    (hstep : forall s a t, M.Reachable s -> M.step s a t -> R s t) {m : Nat} (hmn : m ≤ n)
    (hn : n ≤ e.length) : R (e.stateAt m) (e.stateAt n) := by
  induction n with
  | zero =>
      rw [Nat.le_zero.mp hmn]
      exact hrefl _
  | succ n ih =>
      rcases Nat.lt_or_eq_of_le hmn with hlt | heq
      · exact htrans _ _ _ (ih (Nat.le_of_lt_succ hlt) (Nat.le_of_lt hn))
          (hstep _ _ _ (e.reachable (Nat.le_of_lt hn)) (e.step n hn))
      · rw [heq]
        exact hrefl _

/-- A preorder kept by every step relates earlier states to later ones. -/
theorem Execution.related (e : Execution M) {R : state -> state -> Prop} (hrefl : forall s, R s s)
    (htrans : forall a b c, R a b -> R b c -> R a c) (hstep : forall s a t, M.step s a t -> R s t)
    {m : Nat} (hmn : m ≤ n) (hn : n ≤ e.length) : R (e.stateAt m) (e.stateAt n) :=
  e.related_of_reachable hrefl htrans (fun s a t _ h => hstep s a t h) hmn hn

/-- The states that a run of a step function passes through. -/
def runStates (next : state -> label -> Option state) (s : state) (labels : List label)
    (i : Nat) : state :=
  ((labels.take i).foldlM next s).getD s

theorem foldlM_take_succ (h : labels.foldlM next s = some t) {i : Nat} (hi : i < labels.length) :
    exists u v, (labels.take i).foldlM next s = some u ∧ next u (labels.get ⟨i, hi⟩) = some v ∧
      (labels.take (i + 1)).foldlM next s = some v := by
  have hsplit : labels.take (i + 1) = labels.take i ++ [labels.get ⟨i, hi⟩] :=
    List.take_succ_eq_append_getElem hi
  have hall : labels.take (i + 1) ++ labels.drop (i + 1) = labels := List.take_append_drop _ _
  rw [← hall, List.foldlM_append] at h
  rcases Option.bind_eq_some_iff.mp h with ⟨v, hv, _⟩
  have hv' := hv
  rw [hsplit, List.foldlM_append] at hv'
  rcases Option.bind_eq_some_iff.mp hv' with ⟨u, hu, hstep⟩
  rw [List.foldlM_cons] at hstep
  rcases Option.bind_eq_some_iff.mp hstep with ⟨v', hv2, hnil⟩
  cases hnil
  exact ⟨u, v, hu, hv2, hv⟩

/-- A run of a step function is an execution. -/
def Execution.ofRun {M : System state label} {next : state -> label -> Option state}
    (hnext : forall s a t, next s a = some t -> M.step s a t)
    {labels : List label} {s t : state} (hs : M.start s)
    (h : labels.foldlM next s = some t) (a : label) : Execution M where
  length := labels.length
  stateAt := runStates next s labels
  labelAt i := labels[i]?.getD a
  start := hs
  step := by
    intro i hi
    rcases foldlM_take_succ h hi with ⟨u, v, hu, hstep, hv⟩
    unfold runStates
    rw [hu, hv, List.getElem?_eq_getElem hi]
    exact hnext u _ v hstep

theorem exists_execution_of_run (hnext : forall s a t, next s a = some t -> M.step s a t)
    (hs : M.start s) (h : labels.foldlM next s = some t) (a : label) :
    exists e : Execution M, e.length = labels.length ∧ e.stateAt e.length = t := by
  refine ⟨Execution.ofRun hnext hs h a, rfl, ?_⟩
  show runStates next s labels labels.length = t
  unfold runStates
  rw [List.take_length, h]
  rfl

end System

end Foundation
end MessagingSystem
