import Mathlib

/-!
# The leases of one user

What the presence scripts do to one user: `lease` is the sorted set of the user, `indexed` the
part of the index that belongs to the user.  A lease is in the index with the same score; what
else the index holds has expired, so the reaper will come to it.
-/

namespace MessagingSystem

@[ext] structure UserPresence where
  lease : String -> Option Rat
  indexed : String -> Option Rat
  username : Option String
  online : Prop
  expireAt : Option Rat

namespace UserPresence

/-- The score, unless it has expired. -/
def unexpired (now : Rat) (score : Option Rat) : Option Rat :=
  score.filter (fun t => decide (now < t))

theorem unexpired_eq_some {now t : Rat} {score : Option Rat} :
    unexpired now score = some t ↔ score = some t ∧ now < t := by
  unfold unexpired
  rw [Option.filter_eq_some_iff, decide_eq_true_eq]

theorem unexpired_unexpired (now : Rat) (score : Option Rat) :
    unexpired now (unexpired now score) = unexpired now score := by
  unfold unexpired
  rw [Option.filter_filter]
  simp

/-- No lease is left. -/
def Vacant (p : UserPresence) : Prop :=
  forall c, p.lease c = none

open Classical in
/-- The leases that have not expired, and the index without those that have. -/
noncomputable def sweep (p : UserPresence) (now : Rat) : UserPresence :=
  { p with
    lease := fun c => unexpired now (p.lease c)
    indexed := fun c => if exists t, p.lease c = some t ∧ t ≤ now then none else p.indexed c }

/-- A lease of a connection is taken or renewed until `expiry`. -/
noncomputable def touch (p : UserPresence) (name connection : String) (now expiry lapse : Rat) :
    UserPresence where
  lease c := if c = connection then some expiry else (p.sweep now).lease c
  indexed c := if c = connection then some expiry else (p.sweep now).indexed c
  username := some name
  online := True
  expireAt := some lapse

/-- The connection is dropped. -/
noncomputable def drop (p : UserPresence) (connection : String) (now : Rat) : UserPresence :=
  { p with
    lease := fun c => if c = connection then none else (p.sweep now).lease c
    indexed := fun c => if c = connection then none else (p.sweep now).indexed c }

/-- One due entry of the index is taken out, and every lease that has expired. -/
noncomputable def collect (p : UserPresence) (connection : String) (now : Rat) : UserPresence :=
  { p with
    lease := fun c => unexpired now (p.lease c)
    indexed := fun c => if c = connection then none else p.indexed c }

open Classical in
/-- Only index entries stay of a user without a lease. -/
noncomputable def settle (p : UserPresence) : UserPresence :=
  if p.Vacant then { p with username := none, online := False, expireAt := none } else p

/-- The key of the user is gone. -/
def lapse (p : UserPresence) : UserPresence :=
  { p with lease := fun _ => none, expireAt := none }

/-!
# The invariant
-/

structure Ok (p : UserPresence) (name : String) (period now : Rat) : Prop where
  named : forall x, p.username = some x -> x = name
  online_iff : p.online ↔ p.username.isSome = true
  leased : forall c t, p.lease c = some t -> p.indexed c = some t
  stale : forall c t, p.indexed c = some t -> p.lease c = some t ∨ t ≤ now
  occupied : forall c t, p.lease c = some t -> p.username.isSome = true
  found : p.username.isSome = true -> exists c t, p.indexed c = some t
  lapses : forall c t, p.lease c = some t -> exists e, p.expireAt = some e ∧ t < e
  bounded : forall c t, p.lease c = some t -> t ≤ now + period

variable {p q : UserPresence} {name connection : String} {period now now' expiry : Rat}

theorem Ok.later (h : p.Ok name period now) (hnow : now ≤ now') : p.Ok name period now' where
  named := h.named
  online_iff := h.online_iff
  leased := h.leased
  stale c t ht := (h.stale c t ht).imp_right (fun hle => hle.trans hnow)
  occupied := h.occupied
  found := h.found
  lapses := h.lapses
  bounded c t ht := (h.bounded c t ht).trans (by linarith)

/-- `q` has some of the leases of `p`, and its index is as the invariant wants it. -/
structure Shrinks (p q : UserPresence) (now : Rat) : Prop where
  lease : forall c t, q.lease c = some t -> p.lease c = some t
  leased : forall c t, q.lease c = some t -> q.indexed c = some t
  stale : forall c t, q.indexed c = some t -> q.lease c = some t ∨ t ≤ now
  username : q.username = p.username
  online : q.online ↔ p.online
  expireAt : q.expireAt = p.expireAt

theorem Ok.shrink (h : p.Ok name period now) (hq : p.Shrinks q now) (hvacant : ¬ q.Vacant) :
    q.Ok name period now where
  named x hx := h.named x (hq.username ▸ hx)
  online_iff := by
    rw [hq.online, hq.username]
    exact h.online_iff
  leased := hq.leased
  stale := hq.stale
  occupied c t ht := by
    rw [hq.username]
    exact h.occupied c t (hq.lease c t ht)
  found _ := by
    rcases not_forall.mp hvacant with ⟨c, hc⟩
    rcases Option.ne_none_iff_exists'.mp hc with ⟨t, ht⟩
    exact ⟨c, t, hq.leased c t ht⟩
  lapses c t ht := by
    rw [hq.expireAt]
    exact h.lapses c t (hq.lease c t ht)
  bounded c t ht := h.bounded c t (hq.lease c t ht)

theorem Ok.settle (h : p.Ok name period now) (hq : p.Shrinks q now) :
    q.settle.Ok name period now := by
  unfold UserPresence.settle
  split
  case isTrue hvacant =>
    have hnone : forall c t, q.lease c = some t -> False := by
      intro c t ht
      rw [hvacant c] at ht
      cases ht
    constructor
    · intro x hx
      cases hx
    · exact iff_of_false id Bool.false_ne_true
    · exact fun c t ht => (hnone c t ht).elim
    · exact hq.stale
    · exact fun c t ht => (hnone c t ht).elim
    · intro hsome
      cases hsome
    · exact fun c t ht => (hnone c t ht).elim
    · exact fun c t ht => (hnone c t ht).elim
  case isFalse hvacant => exact h.shrink hq hvacant

/-!
# The steps
-/

theorem Ok.shrinks_sweep (h : p.Ok name period now) : p.Shrinks (p.sweep now) now where
  lease c t ht := (unexpired_eq_some.mp ht).1
  leased c t ht := by
    have hlive := unexpired_eq_some.mp ht
    have hkept : ¬ exists t', p.lease c = some t' ∧ t' ≤ now := by
      intro hexpired
      rcases hexpired with ⟨t', ht', hle⟩
      rw [hlive.1] at ht'
      cases ht'
      exact absurd hlive.2 (not_lt.mpr hle)
    exact (if_neg hkept).trans (h.leased c t hlive.1)
  stale c t ht := by
    have hindexed : p.indexed c = some t := by
      change (if _ then none else p.indexed c) = some t at ht
      split at ht
      · cases ht
      · exact ht
    rcases le_or_gt t now with hle | hlt
    · exact Or.inr hle
    · refine (h.stale c t hindexed).imp_left ?_
      intro hlease
      exact unexpired_eq_some.mpr ⟨hlease, hlt⟩
  username := rfl
  online := Iff.rfl
  expireAt := rfl

theorem Ok.shrinks_drop (h : p.Ok name period now) (connection : String) :
    p.Shrinks (p.drop connection now) now where
  lease c t ht := by
    change (if c = connection then none else (p.sweep now).lease c) = some t at ht
    split at ht
    · cases ht
    · exact h.shrinks_sweep.lease c t ht
  leased c t ht := by
    change (if c = connection then none else (p.sweep now).lease c) = some t at ht
    split at ht
    · cases ht
    case isFalse hne => exact (if_neg hne).trans (h.shrinks_sweep.leased c t ht)
  stale c t ht := by
    change (if c = connection then none else (p.sweep now).indexed c) = some t at ht
    split at ht
    · cases ht
    case isFalse hne =>
      exact (h.shrinks_sweep.stale c t ht).imp_left (fun hlease => (if_neg hne).trans hlease)
  username := rfl
  online := Iff.rfl
  expireAt := rfl

theorem Ok.shrinks_collect (h : p.Ok name period now)
    (hdue : exists t, p.indexed connection = some t ∧ t ≤ now) :
    p.Shrinks (p.collect connection now) now where
  lease c t ht := (unexpired_eq_some.mp ht).1
  leased c t ht := by
    have hlive := unexpired_eq_some.mp ht
    have hne : c ≠ connection := by
      intro heq
      rcases hdue with ⟨t', ht', hle⟩
      rw [← heq, h.leased c t hlive.1] at ht'
      cases ht'
      exact absurd hlive.2 (not_lt.mpr hle)
    exact (if_neg hne).trans (h.leased c t hlive.1)
  stale c t ht := by
    change (if c = connection then none else p.indexed c) = some t at ht
    split at ht
    · cases ht
    · rcases le_or_gt t now with hle | hlt
      · exact Or.inr hle
      · refine (h.stale c t ht).imp_left ?_
        intro hlease
        exact unexpired_eq_some.mpr ⟨hlease, hlt⟩
  username := rfl
  online := Iff.rfl
  expireAt := rfl

theorem Ok.lapse (h : p.Ok name period now) (hover : exists e, p.expireAt = some e ∧ e ≤ now) :
    p.lapse.Ok name period now where
  named := h.named
  online_iff := h.online_iff
  leased c t ht := by cases ht
  stale c t ht := by
    refine Or.inr ?_
    rcases h.stale c t ht with hlease | hle
    · rcases h.lapses c t hlease with ⟨e, he, hlt⟩
      rcases hover with ⟨e', he', hle⟩
      rw [he] at he'
      cases he'
      exact hlt.le.trans hle
    · exact hle
  occupied c t ht := by cases ht
  found := h.found
  lapses c t ht := by cases ht
  bounded c t ht := by cases ht

theorem lease_touch {lapse : Rat} {c : String} {t : Rat}
    (ht : (p.touch name connection now expiry lapse).lease c = some t) :
    (c = connection ∧ t = expiry) ∨ (c ≠ connection ∧ (p.sweep now).lease c = some t) := by
  change (if c = connection then some expiry else (p.sweep now).lease c) = some t at ht
  split at ht
  case isTrue heq =>
    cases ht
    exact Or.inl ⟨heq, rfl⟩
  case isFalse hne => exact Or.inr ⟨hne, ht⟩

/-- A lease lapses with its key only after it has expired. -/
theorem Ok.touch {lapse : Rat} (h : p.Ok name period now) (hlapse : now + period < lapse) :
    (p.touch name connection now (now + period) lapse).Ok name period now where
  named x hx := by
    cases hx
    rfl
  online_iff := iff_of_true trivial rfl
  leased c t ht := by
    rcases lease_touch ht with hself | hother
    · rw [hself.2]
      exact if_pos hself.1
    · exact (if_neg hother.1).trans (h.shrinks_sweep.leased c t hother.2)
  stale c t ht := by
    change (if c = connection then some (now + period) else (p.sweep now).indexed c) = some t at ht
    split at ht
    case isTrue heq =>
      cases ht
      exact Or.inl (if_pos heq)
    case isFalse hne =>
      exact (h.shrinks_sweep.stale c t ht).imp_left (fun hlease => (if_neg hne).trans hlease)
  occupied _ _ _ := rfl
  found _ := ⟨connection, now + period, if_pos rfl⟩
  lapses c t ht := by
    refine ⟨lapse, rfl, ?_⟩
    rcases lease_touch ht with hself | hother
    · rw [hself.2]
      exact hlapse
    · exact (h.bounded c t (h.shrinks_sweep.lease c t hother.2)).trans_lt hlapse
  bounded c t ht := by
    rcases lease_touch ht with hself | hother
    · exact hself.2.le
    · exact h.bounded c t (h.shrinks_sweep.lease c t hother.2)

/-!
# A live lease stays

`Holds` says that the connection has a lease until the deadline at least.
-/

def Holds (p : UserPresence) (connection : String) (deadline : Rat) : Prop :=
  exists t, p.lease connection = some t ∧ deadline ≤ t

variable {deadline : Rat}

theorem Holds.unexpired (h : p.Holds connection deadline) (hnow : now < deadline) :
    exists t, unexpired now (p.lease connection) = some t ∧ deadline ≤ t := by
  rcases h with ⟨t, ht, hle⟩
  exact ⟨t, unexpired_eq_some.mpr ⟨ht, hnow.trans_le hle⟩, hle⟩

theorem Holds.touch (h : p.Holds connection deadline) (hnow : now < deadline)
    (hexpiry : deadline ≤ expiry) (other : String) (lapse : Rat) :
    (p.touch name other now expiry lapse).Holds connection deadline := by
  by_cases heq : connection = other
  · exact ⟨expiry, if_pos heq, hexpiry⟩
  · rcases h.unexpired hnow with ⟨t, ht, hle⟩
    exact ⟨t, (if_neg heq).trans ht, hle⟩

theorem holds_settle : q.settle.Holds connection deadline ↔ q.Holds connection deadline := by
  unfold UserPresence.settle
  split <;> rfl

theorem Holds.drop (h : p.Holds connection deadline) (hnow : now < deadline) {other : String}
    (hne : connection ≠ other) : (p.drop other now).settle.Holds connection deadline := by
  rw [holds_settle]
  rcases h.unexpired hnow with ⟨t, ht, hle⟩
  exact ⟨t, (if_neg hne).trans ht, hle⟩

theorem Holds.collect (h : p.Holds connection deadline) (hnow : now < deadline)
    (other : String) : (p.collect other now).settle.Holds connection deadline := by
  rw [holds_settle]
  exact h.unexpired hnow

/-- The key of a user with a live lease is not over. -/
theorem Ok.not_over (hok : p.Ok name period now) (h : p.Holds connection deadline)
    (hnow : now < deadline) : ¬ exists e, p.expireAt = some e ∧ e ≤ now := by
  intro hover
  rcases h with ⟨t, ht, hle⟩
  rcases hok.lapses connection t ht with ⟨e, he, hlt⟩
  rcases hover with ⟨e', he', hle'⟩
  rw [he] at he'
  cases he'
  linarith

theorem Ok.online_of_holds (hok : p.Ok name period now) (h : p.Holds connection deadline) :
    p.online := by
  rcases h with ⟨t, ht, _⟩
  exact hok.online_iff.mpr (hok.occupied connection t ht)

end UserPresence

end MessagingSystem
