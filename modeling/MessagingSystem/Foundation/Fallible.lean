import Mathlib

/-!
# Fallible computations

Requests run in `Except`.  These rules take a successful run apart: a bind that
succeeds has a successful head, a passed check gives its condition, and a fold
that succeeds carries an invariant from its start to its end.
-/

namespace MessagingSystem
namespace Foundation

variable {ε α β : Type _} {x : Except ε α} {condition : Bool} {failure : ε} {as : List α}

/-- Fail unless the condition holds. -/
def require (condition : Bool) (failure : ε) : Except ε Unit :=
  if condition then pure () else throw failure

/-- The value of an optional lookup, or a failure. -/
def orFail (value : Option α) (failure : ε) : Except ε α :=
  match value with
  | some a => pure a
  | none => throw failure

/-- Fail with the failure that was found, if any. -/
def refuse (failure : Option ε) : Except ε Unit :=
  match failure with
  | some e => throw e
  | none => pure ()

@[simp] theorem ok_bind (a : α) (f : α -> Except ε β) : (Except.ok a >>= f) = f a :=
  rfl

theorem bind_eq_ok {f : α -> Except ε β} {b : β} :
    (x >>= f) = Except.ok b ↔ exists a, x = Except.ok a ∧ f a = Except.ok b := by
  cases x with
  | error e =>
      constructor
      · intro h
        cases h
      · rintro ⟨a, ha, _⟩
        cases ha
  | ok a =>
      constructor
      · intro h
        exact ⟨a, rfl, h⟩
      · rintro ⟨a', ha, h⟩
        cases ha
        exact h

theorem pure_eq_ok {a b : α} :
    (pure a : Except ε α) = Except.ok b ↔ a = b := by
  constructor
  · intro h
    exact Except.ok.inj h
  · intro h
    rw [h]
    rfl

/-- Some element was found to satisfy the test. -/
theorem exists_of_anyM {p : α -> Except ε Bool} {l : List α} (h : l.anyM p = Except.ok true) :
    exists a, a ∈ l ∧ p a = Except.ok true := by
  induction l with
  | nil => cases h
  | cons a l ih =>
      rcases bind_eq_ok.mp h with ⟨found, hfound, h⟩
      cases found with
      | true => exact ⟨a, List.mem_cons_self, hfound⟩
      | false =>
          rcases ih h with ⟨b, hb, htest⟩
          exact ⟨b, List.mem_cons_of_mem a hb, htest⟩

theorem require_pos (h : condition = true) (failure : ε) :
    require condition failure = Except.ok () := by
  rw [h]
  rfl

theorem require_eq_ok {u : Unit} : require condition failure = Except.ok u ↔ condition = true := by
  cases condition with
  | false =>
      constructor
      · intro h
        cases h
      · intro h
        cases h
  | true =>
      constructor
      · intro _
        rfl
      · intro _
        rfl

theorem orFail_eq_ok {value : Option α} {a : α} :
    orFail value failure = Except.ok a ↔ value = some a := by
  cases value with
  | none =>
      constructor
      · intro h
        cases h
      · intro h
        cases h
  | some b =>
      constructor
      · intro h
        cases h
        rfl
      · intro h
        cases h
        rfl

theorem map_eq_ok {f : α -> β} {b : β} :
    f <$> x = Except.ok b ↔ exists a, x = Except.ok a ∧ f a = b := by
  rw [map_eq_pure_bind, bind_eq_ok]
  simp only [pure_eq_ok]

theorem toOption_eq_some {a : α} : x.toOption = some a ↔ x = Except.ok a := by
  cases x with
  | error e =>
      constructor
      · intro h
        cases h
      · intro h
        cases h
  | ok b =>
      constructor
      · intro h
        rw [Option.some.inj h]
      · intro h
        rw [Except.ok.inj h]
        rfl

theorem refuse_eq_ok {failure : Option ε} {u : Unit} :
    refuse failure = Except.ok u ↔ failure = none := by
  cases failure with
  | none =>
      constructor
      · intro _
        rfl
      · intro _
        rfl
  | some e =>
      constructor
      · intro h
        cases h
      · intro h
        cases h

theorem mapError_eq_ok {f : ε -> β} {a : α} : x.mapError f = Except.ok a ↔ x = Except.ok a := by
  cases x with
  | error e =>
      constructor
      · intro h
        cases h
      · intro h
        cases h
  | ok b =>
      constructor
      · intro h
        exact congrArg Except.ok (Except.ok.inj h)
      · intro h
        exact congrArg Except.ok (Except.ok.inj h)

theorem forM_eq_ok {f : α -> Except ε Unit} {u : Unit} :
    as.forM f = Except.ok u ↔ forall a, a ∈ as -> f a = Except.ok () := by
  induction as with
  | nil => simp [pure_eq_ok]
  | cons a as ih =>
      change (f a >>= fun _ => as.forM f) = Except.ok u ↔ _
      rw [bind_eq_ok]
      constructor
      · intro h x hx
        rcases h with ⟨_, ha, has⟩
        rcases List.mem_cons.mp hx with hx | hx
        · rw [hx]
          exact ha
        · exact ih.mp has x hx
      · intro h
        exact ⟨(), h a List.mem_cons_self,
          ih.mpr (fun x hx => h x (List.mem_cons_of_mem a hx))⟩

/-- A successful map pairs every element with its result. -/
theorem mapM_eq_ok {f : α -> Except ε β} {bs : List β} (h : as.mapM f = Except.ok bs) :
    as.length = bs.length ∧
      forall a b, (a, b) ∈ as.zip bs -> f a = Except.ok b := by
  induction as generalizing bs with
  | nil =>
      rw [List.mapM_nil, pure_eq_ok] at h
      subst h
      constructor
      · rfl
      · intro a b hmem
        cases hmem
  | cons a as ih =>
      simp only [List.mapM_cons, bind_eq_ok, pure_eq_ok] at h
      rcases h with ⟨b, hb, rest, hrest, hbs⟩
      subst hbs
      rcases ih hrest with ⟨hlength, hzip⟩
      constructor
      · rw [List.length_cons, List.length_cons, hlength]
      · intro x y hmem
        rcases List.mem_cons.mp hmem with heq | hmem
        · cases heq
          exact hb
        · exact hzip x y hmem

/-- A map succeeds if it does on every element. -/
theorem exists_mapM_eq_ok {f : α -> Except ε β} :
    (exists bs, as.mapM f = Except.ok bs) ↔ forall a, a ∈ as -> exists b, f a = Except.ok b := by
  induction as with
  | nil => simp [pure_eq_ok]
  | cons a as ih =>
      rw [List.forall_mem_cons, ← ih]
      simp only [List.mapM_cons, bind_eq_ok, pure_eq_ok]
      constructor
      · intro h
        rcases h with ⟨_, b, hb, bs, hbs, _⟩
        exact ⟨⟨b, hb⟩, ⟨bs, hbs⟩⟩
      · intro h
        rcases h with ⟨⟨b, hb⟩, ⟨bs, hbs⟩⟩
        exact ⟨b :: bs, b, hb, bs, hbs, rfl⟩

/-- A map that keeps its arguments. -/
theorem map_fst_of_mapM {f : α -> Except ε β} {bs : List (α × β)} (h : as.mapM (fun a => do
      let b ← f a
      pure (a, b)) = Except.ok bs) : bs.map Prod.fst = as := by
  induction as generalizing bs with
  | nil =>
      rw [List.mapM_nil, pure_eq_ok] at h
      subst h
      rfl
  | cons a as ih =>
      simp only [List.mapM_cons, bind_eq_ok, pure_eq_ok] at h
      rcases h with ⟨pair, ⟨b, _, hpair⟩, rest, hrest, hbs⟩
      subst hbs hpair
      rw [List.map_cons, ih (by simpa using hrest)]

theorem map_fst_eq_ok {x : Except ε (α × β)} {a : α} :
    Prod.fst <$> x = Except.ok a ↔ exists b, x = Except.ok (a, b) := by
  rw [map_eq_ok]
  constructor
  · rintro ⟨⟨a', b⟩, hx, rfl⟩
    exact ⟨b, hx⟩
  · rintro ⟨b, hx⟩
    exact ⟨(a, b), hx, rfl⟩

/-!
# Failures
-/

theorem bind_eq_error {f : α -> Except ε β} {e : ε} :
    (x >>= f) = Except.error e ↔
      x = Except.error e ∨ exists a, x = Except.ok a ∧ f a = Except.error e := by
  cases x with
  | error e' =>
      constructor
      · intro h
        exact Or.inl (congrArg Except.error (Except.error.inj h))
      · intro h
        rcases h with h | ⟨a, ha, _⟩
        · exact congrArg Except.error (Except.error.inj h)
        · cases ha
  | ok a =>
      constructor
      · intro h
        exact Or.inr ⟨a, rfl, h⟩
      · intro h
        rcases h with h | ⟨a', ha, h⟩
        · cases h
        · cases ha
          exact h

theorem require_eq_error {e : ε} (h : require condition failure = Except.error e) :
    failure = e := by
  cases condition with
  | false => exact Except.error.inj h
  | true => cases h

theorem mapError_eq_error {f : ε -> β} {e : β} (h : x.mapError f = Except.error e) :
    exists e', f e' = e := by
  cases x with
  | error e' => exact ⟨e', Except.error.inj h⟩
  | ok a => cases h

/-- What every round of a fold can fail with is what the fold can fail with. -/
theorem foldlM_failure {f : α -> β -> Except ε α} {P : ε -> Prop}
    (hstep : forall a b e, f a b = Except.error e -> P e) {bs : List β} {a : α} {e : ε}
    (h : bs.foldlM f a = Except.error e) : P e := by
  induction bs generalizing a with
  | nil => cases h
  | cons b bs ih =>
      rw [List.foldlM_cons, bind_eq_error] at h
      rcases h with h | ⟨a', _, h⟩
      · exact hstep a b e h
      · exact ih h

/--
The invariant rule of a fallible fold.  The invariant may speak about the
elements that are already processed and those that are still to come.
-/
theorem foldlM_invariant {f : α -> β -> Except ε α}
    {I : List β -> List β -> α -> Prop}
    (hstep : forall done b rest a a', I done (b :: rest) a ->
      f a b = Except.ok a' -> I (done ++ [b]) rest a')
    {done rest : List β} {a a' : α} (hI : I done rest a)
    (h : rest.foldlM f a = Except.ok a') : I (done ++ rest) [] a' := by
  induction rest generalizing done a with
  | nil =>
      rw [List.foldlM_nil, pure_eq_ok] at h
      rw [← h, List.append_nil]
      exact hI
  | cons b rest ih =>
      rw [List.foldlM_cons, bind_eq_ok] at h
      rcases h with ⟨mid, hmid, hrest⟩
      have hnext := ih (hstep done b rest a mid hI hmid) hrest
      rwa [List.append_assoc] at hnext

end Foundation
end MessagingSystem
