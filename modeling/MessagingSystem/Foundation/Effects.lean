import MessagingSystem.Foundation.Fallible

/-!
# Programs with effects

A program that fails keeps the effects it had until then.  A triple says what holds of the
state after a run that succeeds and after one that fails, and the rules take a program apart.
-/

namespace MessagingSystem
namespace Foundation

variable {ε σ α β : Type}

/-- What holds after the program, if the precondition held before it. -/
def Triple (pre : σ -> Prop) (program : EStateM ε σ α) (post : α -> σ -> Prop)
    (fail : ε -> σ -> Prop) : Prop :=
  forall s, pre s -> match program s with
    | EStateM.Result.ok a s' => post a s'
    | EStateM.Result.error e s' => fail e s'

def attempt (x : Except ε α) : EStateM ε σ α :=
  fun s => match x with
    | Except.ok a => EStateM.Result.ok a s
    | Except.error e => EStateM.Result.error e s

section

variable {pre : σ -> Prop} {post : α -> σ -> Prop} {fail : ε -> σ -> Prop} {f : β -> EStateM ε σ α}

theorem Triple.conseq {pre' : σ -> Prop} {post' : α -> σ -> Prop} {fail' : ε -> σ -> Prop}
    {program : EStateM ε σ α} (h : Triple pre' program post' fail')
    (hpre : forall s, pre s -> pre' s) (hpost : forall a s, post' a s -> post a s)
    (hfail : forall e s, fail' e s -> fail e s) : Triple pre program post fail := by
  intro s hs
  have hrun := h s (hpre s hs)
  cases hprogram : program s with
  | ok a s' =>
      rw [hprogram] at hrun
      exact hpost a s' hrun
  | error e s' =>
      rw [hprogram] at hrun
      exact hfail e s' hrun

theorem Triple.pure {a : α} (h : forall s, pre s -> post a s) :
    Triple pre (Pure.pure a : EStateM ε σ α) post fail :=
  h

theorem Triple.throw {e : ε} (h : forall s, pre s -> fail e s) :
    Triple pre (MonadExcept.throw e : EStateM ε σ α) post fail :=
  h

theorem Triple.bind {x : EStateM ε σ β} (mid : β -> σ -> Prop) (hx : Triple pre x mid fail)
    (hf : forall b, Triple (mid b) (f b) post fail) : Triple pre (x >>= f) post fail := by
  intro s hs
  have hrun := hx s hs
  show match EStateM.bind x f s with
    | EStateM.Result.ok a s' => post a s'
    | EStateM.Result.error e s' => fail e s'
  unfold EStateM.bind
  cases hx : x s with
  | ok b s' =>
      rw [hx] at hrun
      exact hf b s' hrun
  | error e s' =>
      rw [hx] at hrun
      exact hrun

/-- The state is read; from then on it is a name. -/
theorem Triple.get {f : σ -> EStateM ε σ α}
    (h : forall s, pre s -> Triple (fun t => t = s) (f s) post fail) :
    Triple pre (MonadState.get >>= f) post fail := by
  intro s hs
  exact h s hs s rfl

theorem Triple.modified {change : σ -> σ} {post : PUnit -> σ -> Prop}
    (h : forall s, pre s -> post PUnit.unit (change s)) :
    Triple pre (modify change : EStateM ε σ PUnit) post fail :=
  h

theorem Triple.attempt {x : Except ε β} {b : β} (hx : x = Except.ok b)
    (h : Triple pre (f b) post fail) : Triple pre (Foundation.attempt x >>= f) post fail := by
  rw [hx]
  exact h

theorem Triple.attempting {x : Except ε β}
    (hok : forall b, x = Except.ok b -> Triple pre (f b) post fail)
    (herror : forall e s, x = Except.error e -> pre s -> fail e s) :
    Triple pre (Foundation.attempt x >>= f) post fail := by
  cases hx : x with
  | ok b => exact hok b hx
  | error e => exact fun s hs => herror e s hx hs

/-- The invariant rule of a loop over distinct elements, which speaks about those that are done. -/
theorem Triple.forM {body : β -> EStateM ε σ PUnit} {I : List β -> σ -> Prop}
    {done page : List β} (hnodup : (done ++ page).Nodup)
    (hstep : forall handled b, b ∈ page -> b ∉ handled ->
      Triple (I handled) (body b) (fun _ => I (handled ++ [b])) fail) :
    Triple (I done) (page.forM body) (fun _ => I (done ++ page)) fail := by
  induction page generalizing done with
  | nil =>
      intro s hs
      show I (done ++ []) s
      rwa [List.append_nil]
  | cons b page ih =>
      have hb : b ∉ done :=
        fun hmem => List.disjoint_of_nodup_append hnodup hmem List.mem_cons_self
      have hrest := @ih (done ++ [b]) (by rwa [List.append_assoc])
        (fun handled b' hmem => hstep handled b' (List.mem_cons_of_mem b hmem))
      rw [List.append_assoc] at hrest
      exact Triple.bind _ (hstep done b List.mem_cons_self hb) (fun _ => hrest)

/--
The invariant rule of a loop that hands a value on.  The invariant may speak about the elements
that are done and those that are still to come.
-/
theorem Triple.foldlM {body : α -> β -> EStateM ε σ α} {I : List β -> List β -> α -> σ -> Prop}
    (hstep : forall done b rest a,
      Triple (I done (b :: rest) a) (body a b) (fun a' => I (done ++ [b]) rest a') fail)
    (done rest : List β) (a : α) :
    Triple (I done rest a) (rest.foldlM body a) (fun a' => I (done ++ rest) [] a') fail := by
  induction rest generalizing done a with
  | nil =>
      intro s hs
      show I (done ++ []) [] a s
      rwa [List.append_nil]
  | cons b rest ih =>
      have hrest := ih (done ++ [b])
      rw [List.append_assoc] at hrest
      rw [List.foldlM_cons]
      exact Triple.bind _ (hstep done b rest a) hrest

/-!
# Handlers
-/

theorem Triple.tryCatch {x : EStateM ε σ α} {handle : ε -> EStateM ε σ α}
    (mid : ε -> σ -> Prop) (hx : Triple pre x post mid)
    (hhandle : forall e, Triple (mid e) (handle e) post fail) :
    Triple pre (MonadExcept.tryCatch x handle) post fail := by
  intro s hs
  have hrun := hx s hs
  show match EStateM.tryCatch x handle s with
    | EStateM.Result.ok a s' => post a s'
    | EStateM.Result.error e s' => fail e s'
  unfold EStateM.tryCatch
  cases hx : x s with
  | ok a s' =>
      rw [hx] at hrun
      exact hrun
  | error e s' =>
      rw [hx] at hrun
      exact hhandle e s' hrun

theorem tryFinally_eq (x : EStateM ε σ α) (last : EStateM ε σ PUnit) (s : σ) :
    (tryFinally x last) s = match x s with
      | EStateM.Result.ok a s' => (last >>= fun _ => Pure.pure a) s'
      | EStateM.Result.error e s' => (last >>= fun _ => MonadExcept.throw e) s' := by
  unfold tryFinally
  show EStateM.map Prod.fst (MonadFinally.tryFinally' x _) s = _
  unfold EStateM.map
  simp only [MonadFinally.tryFinally']
  cases x s with
  | ok a s' =>
      show _ = EStateM.bind last _ s'
      unfold EStateM.bind
      cases hlast : last s' with
      | ok u t =>
          simp only [hlast]
          rfl
      | error f t => simp only [hlast]
  | error e s' =>
      show _ = EStateM.bind last _ s'
      unfold EStateM.bind
      cases hlast : last s' with
      | ok u t =>
          simp only [hlast]
          rfl
      | error f t => simp only [hlast]

/-- The last step runs in both cases; if it fails too, its own failure counts. -/
theorem Triple.finally {x : EStateM ε σ α} {last : EStateM ε σ PUnit} (mid : α -> σ -> Prop)
    (midFail : ε -> σ -> Prop) (hx : Triple pre x mid midFail)
    (hok : forall a, Triple (mid a) last (fun _ => post a) fail)
    (herror : forall e, Triple (midFail e) last (fun _ => fail e) fail) :
    Triple pre (tryFinally x last) post fail := by
  intro s hs
  have hrun := hx s hs
  rw [tryFinally_eq]
  cases hresult : x s with
  | ok a s' =>
      rw [hresult] at hrun
      exact Triple.bind _ (hok a) (fun _ => Triple.pure (fun _ h => h)) s' hrun
  | error e s' =>
      rw [hresult] at hrun
      exact Triple.bind _ (herror e) (fun _ => Triple.throw (fun _ h => h)) s' hrun

end

/-!
# Runs
-/

theorem Triple.of_ok {pre : σ -> Prop} {program : EStateM ε σ α} {post : α -> σ -> Prop}
    {fail : ε -> σ -> Prop} (h : Triple pre program post fail) {s s' : σ} {a : α} (hs : pre s)
    (hrun : program s = EStateM.Result.ok a s') : post a s' := by
  have hpost := h s hs
  rwa [hrun] at hpost

theorem Triple.of_error {pre : σ -> Prop} {program : EStateM ε σ α} {post : α -> σ -> Prop}
    {fail : ε -> σ -> Prop} (h : Triple pre program post fail) {s s' : σ} {e : ε} (hs : pre s)
    (hrun : program s = EStateM.Result.error e s') : fail e s' := by
  have hfail := h s hs
  rwa [hrun] at hfail

/-- The state in which a run ends, in either way. -/
def finalState (program : EStateM ε σ α) (s : σ) : σ :=
  match program s with
  | EStateM.Result.ok _ s' => s'
  | EStateM.Result.error _ s' => s'

end Foundation
end MessagingSystem
