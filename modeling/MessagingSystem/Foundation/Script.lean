import Mathlib

/-!
# Transaction scripts

A request talks to the database in statements.  Each statement sees the rows that
are committed when it runs and may first have to wait for a row lock; what the
request does next depends on the rows it has seen.  A script is the tree of these
possibilities.  It ends with a result or with an error.
-/

namespace MessagingSystem
namespace Foundation

inductive LockMode where
  | share
  | exclusive
  deriving DecidableEq

variable {mode : LockMode}

def LockMode.Compatible (a b : LockMode) : Prop :=
  a = share ∧ b = share

instance (a b : LockMode) : Decidable (a.Compatible b) :=
  inferInstanceAs (Decidable (_ ∧ _))

theorem LockMode.Compatible.symm {a b : LockMode} (h : a.Compatible b) :
    b.Compatible a :=
  ⟨h.2, h.1⟩

inductive Script (db row fault value : Type) : Type where
  | done (v : value)
  | fail (e : fault)
  | query (want : Option (row × LockMode)) (next : db -> Script db row fault value)

namespace Script

section

variable {db row fault value other key : Type}

def bind : Script db row fault value -> (value -> Script db row fault other) ->
    Script db row fault other
  | done v, f => f v
  | fail e, _ => fail e
  | query want next, f => query want (fun d => (next d).bind f)

instance : Monad (Script db row fault) where
  pure := done
  bind := bind

/-- A plain read. -/
def read : Script db row fault db :=
  query none done

/-- A read of a locked row: `SELECT ... FOR UPDATE` or `FOR SHARE`. -/
def lock (key : row) (mode : LockMode) : Script db row fault db :=
  query (some (key, mode)) done

/-- A computation between two statements. -/
def lift : Except fault value -> Script db row fault value
  | Except.ok v => done v
  | Except.error e => fail e

/-!
# Bulk updates

`UPDATE ... WHERE` takes its rows from one snapshot, in an order of its own.  It then
locks them one by one and leaves those alone that no longer match.
-/

/-- Some order of the keys, the ones that are named first. -/
def inScanOrder [DecidableEq key] (order keys : List key) : List key :=
  order.filter (· ∈ keys) ++ keys.filter (· ∉ order)

def updateRows (lockOf : key -> row) (matching : db -> key -> Bool) :
    List key -> Script db row fault (List key)
  | [] => pure []
  | k :: rest => do
      let d ← Script.lock (lockOf k) LockMode.exclusive
      let more ← updateRows lockOf matching rest
      pure (if matching d k then k :: more else more)

/-- The keys of the rows that are updated. -/
def updateWhere [DecidableEq key] (lockOf : key -> row) (matching : db -> key -> Bool)
    (keys : db -> List key) (order : List key) : Script db row fault (List key) := do
  let snapshot ← read
  updateRows lockOf matching (inScanOrder order ((keys snapshot).filter (matching snapshot)))

/-!
# Running a script on the rows it sees
-/

variable {seen : List db} {want : Option (row × LockMode)} {d : db} {e : Except fault value}
  {v w : value} {next : db -> Script db row fault value}

/-- The result, when the statements seen so far are all the script needs. -/
def outcome : Script db row fault value -> List db -> Option value
  | done v, [] => some v
  | query _ next, d :: seen => (next d).outcome seen
  | _, _ => none

/-- The lock wanted by the next statement, when there is a next statement. -/
def pending : Script db row fault value -> List db -> Option (Option (row × LockMode))
  | query want _, [] => some want
  | query _ next, d :: seen => (next d).pending seen
  | _, _ => none

def acquired : Script db row fault value -> List db -> List (row × LockMode)
  | query want next, d :: seen => want.toList ++ (next d).acquired seen
  | _, _ => []

def Returns (s : Script db row fault value) (seen : List db) (v : value) : Prop :=
  s.outcome seen = some v

@[simp] theorem returns_pure :
    Returns (pure v : Script db row fault value) seen w ↔ seen = [] ∧ v = w := by
  show (done v).outcome seen = some w ↔ _
  cases seen with
  | nil | cons => simp [outcome]

@[simp] theorem returns_fail {e : fault} :
    ¬Returns (fail e : Script db row fault value) seen w := by
  intro h
  cases h

@[simp] theorem returns_query :
    Returns (query want next) seen w ↔
      exists d rest, seen = d :: rest ∧ Returns (next d) rest w := by
  cases seen with
  | nil => simp [Returns, outcome]
  | cons d seen =>
      constructor
      · intro h
        exact ⟨d, seen, rfl, h⟩
      · intro h
        rcases h with ⟨d', rest, heq, hnext⟩
        cases heq
        exact hnext

@[simp] theorem returns_read : Returns (read : Script db row fault db) seen d ↔ seen = [d] := by
  show Returns (query none pure) seen d ↔ _
  simp

@[simp] theorem returns_lock {key : row} :
    Returns (Script.lock key mode : Script db row fault db) seen d ↔ seen = [d] := by
  show Returns (query (some (key, mode)) pure) seen d ↔ _
  simp

@[simp] theorem returns_lift :
    Returns (lift e : Script db row fault value) seen v ↔
      seen = [] ∧ e = Except.ok v := by
  cases e with
  | error e => simp [lift]
  | ok w =>
      show Returns (pure w) seen v ↔ _
      simp

/-!
# Locks

`HeldSince` records a lock together with everything seen from the statement that
took it.
-/

variable {s : Script db row fault value} {since : List db}

inductive HeldSince : Script db row fault value -> List db -> row -> LockMode ->
    List db -> Prop where
  | here {key : row} {mode : LockMode} {next : db -> Script db row fault value}
      {d : db} {seen : List db} :
      HeldSince (query (some (key, mode)) next) (d :: seen) key mode (d :: seen)
  | later {want : Option (row × LockMode)} {next : db -> Script db row fault value}
      {d : db} {seen since : List db} {key : row} {mode : LockMode} :
      HeldSince (next d) seen key mode since ->
      HeldSince (query want next) (d :: seen) key mode since

theorem not_heldSince_nil {key : row} : ¬HeldSince s [] key mode since := by
  intro h
  generalize hseen : ([] : List db) = seen at h
  cases h with
  | here | later => cases hseen

theorem HeldSince.mem_acquired {key : row} (h : HeldSince s seen key mode since) :
    (key, mode) ∈ s.acquired seen := by
  induction h with
  | here => exact List.mem_append_left _ List.mem_cons_self
  | later _ ih => exact List.mem_append_right _ ih

theorem heldSince_snoc {key : row} (hpending : s.pending seen = some want)
    (h : HeldSince s (seen ++ [d]) key mode since) :
    (exists before, since = before ++ [d] ∧ HeldSince s seen key mode before) ∨
      (since = [d] ∧ want = some (key, mode)) := by
  induction seen generalizing s with
  | nil =>
      cases s with
      | done v => cases hpending
      | fail e => cases hpending
      | query w next =>
          cases hpending
          cases h with
          | here => exact Or.inr ⟨rfl, rfl⟩
          | later hnext => exact absurd hnext not_heldSince_nil
  | cons x seen ih =>
      cases s with
      | done v => cases hpending
      | fail e => cases hpending
      | query w next =>
          cases h with
          | here => exact Or.inl ⟨x :: seen, rfl, HeldSince.here⟩
          | later hnext =>
              rcases ih hpending hnext with ⟨before, hsince, hheld⟩ | hnew
              · exact Or.inl ⟨before, hsince, HeldSince.later hheld⟩
              · exact Or.inr hnew

theorem acquired_snoc (d : db) (hpending : s.pending seen = some want) :
    s.acquired (seen ++ [d]) = s.acquired seen ++ want.toList := by
  induction seen generalizing s with
  | nil =>
      cases s with
      | done v => cases hpending
      | fail e => cases hpending
      | query w next =>
          cases hpending
          cases hnext : next d <;> simp [acquired, hnext]
  | cons x seen ih =>
      cases s with
      | done v => cases hpending
      | fail e => cases hpending
      | query w next =>
          show w.toList ++ (next x).acquired (seen ++ [d]) = _
          rw [ih hpending, ← List.append_assoc]
          rfl

/-!
# Traces

A trace keeps with each statement the lock it took.
-/

inductive Ends : Script db row fault value -> List (Option (row × LockMode) × db) ->
    value -> Prop where
  | done {v : value} : Ends (done v) [] v
  | query {want : Option (row × LockMode)} {next : db -> Script db row fault value} {d : db}
      {trace : List (Option (row × LockMode) × db)} {v : value} :
      Ends (next d) trace v -> Ends (query want next) ((want, d) :: trace) v

variable {s : Script db row fault value} {v w : value}
  {trace : List (Option (row × LockMode) × db)} {f : value -> Script db row fault other}
  {matching : db -> key -> Bool} {keys ids order : List key}

theorem Returns.exists_ends (h : Returns s seen v) :
    exists trace, Ends s trace v ∧ trace.map Prod.snd = seen := by
  induction s generalizing seen with
  | done w =>
      rcases returns_pure.mp h with ⟨hnil, hv⟩
      rw [hnil, ← hv]
      exact ⟨[], Ends.done, rfl⟩
  | fail e => exact absurd h returns_fail
  | query want next ih =>
      rcases returns_query.mp h with ⟨d, rest, hseen, hnext⟩
      rcases ih d hnext with ⟨trace, hends, htrace⟩
      exact ⟨(want, d) :: trace, Ends.query hends, by rw [hseen, List.map_cons, htrace]⟩

theorem Ends.returns (h : Ends s trace v) :
    Returns s (trace.map Prod.snd) v := by
  induction h with
  | done => rfl
  | query _ ih => exact ih

@[simp] theorem ends_pure :
    Ends (pure v : Script db row fault value) trace w ↔ trace = [] ∧ v = w := by
  constructor
  · intro h
    cases h
    exact ⟨rfl, rfl⟩
  · intro h
    rw [h.1, h.2]
    exact Ends.done

/-- What holds of the value that a script only returns holds of its result. -/
@[elab_as_elim] theorem Ends.of_pure {motive : value -> Prop}
    (h : Ends (pure v : Script db row fault value) trace w) (hv : motive v) : motive w := by
  rw [← (ends_pure.mp h).2]
  exact hv

@[simp] theorem ends_fail {e : fault} :
    ¬Ends (fail e : Script db row fault value) trace w := by
  intro h
  cases h

@[simp] theorem ends_query :
    Ends (query want next) trace w ↔
      exists d rest, trace = (want, d) :: rest ∧ Ends (next d) rest w := by
  constructor
  · intro h
    cases h with
    | query hnext => exact ⟨_, _, rfl, hnext⟩
  · intro h
    rcases h with ⟨d, rest, htrace, hnext⟩
    rw [htrace]
    exact Ends.query hnext

@[simp] theorem ends_lift :
    Ends (lift e : Script db row fault value) trace v ↔ trace = [] ∧ e = Except.ok v := by
  cases e with
  | error e => simp [lift]
  | ok w =>
      show Ends (pure w) trace v ↔ _
      simp

theorem ends_bind {w : other} :
    Ends (s >>= f) trace w ↔ exists first rest v,
      trace = first ++ rest ∧ Ends s first v ∧ Ends (f v) rest w := by
  show Ends (s.bind f) trace w ↔ _
  induction s generalizing trace with
  | done v =>
      constructor
      · intro h
        exact ⟨[], trace, v, rfl, Ends.done, h⟩
      · intro h
        rcases h with ⟨first, rest, v', htrace, hfirst, hrest⟩
        cases hfirst
        rw [htrace]
        exact hrest
  | fail e =>
      constructor
      · intro h
        cases h
      · intro h
        rcases h with ⟨first, rest, v, _, hfirst, _⟩
        cases hfirst
  | query want next ih =>
      show Ends (query want fun d => (next d).bind f) trace w ↔ _
      rw [ends_query]
      constructor
      · intro h
        rcases h with ⟨d, tail, htrace, hnext⟩
        rcases (ih d).mp hnext with ⟨first, rest, v, htail, hfirst, hrest⟩
        refine ⟨(want, d) :: first, rest, v, ?_, Ends.query hfirst, hrest⟩
        rw [htrace, htail, List.cons_append]
      · intro h
        rcases h with ⟨first, rest, v, htrace, hfirst, hrest⟩
        rcases ends_query.mp hfirst with ⟨d, first', heq, hnext⟩
        refine ⟨d, first' ++ rest, ?_, (ih d).mpr ⟨first', rest, v, rfl, hnext, hrest⟩⟩
        rw [htrace, heq, List.cons_append]

/-- A script returns when its two parts return on two parts of what was seen. -/
theorem returns_bind {w : other} :
    Returns (s >>= f) seen w ↔ exists first rest v,
      seen = first ++ rest ∧ Returns s first v ∧ Returns (f v) rest w := by
  constructor
  · intro h
    rcases h.exists_ends with ⟨trace, hends, rfl⟩
    rcases ends_bind.mp hends with ⟨first, rest, v, rfl, hfirst, hrest⟩
    exact ⟨_, _, v, List.map_append, hfirst.returns, hrest.returns⟩
  · rintro ⟨first, rest, v, rfl, hfirst, hrest⟩
    rcases hfirst.exists_ends with ⟨trace, hends, rfl⟩
    rcases hrest.exists_ends with ⟨trace', hends', rfl⟩
    rw [← List.map_append]
    exact (ends_bind.mpr ⟨trace, trace', v, rfl, hends, hends'⟩).returns

/-- A check or a computation that starts a script takes no statement. -/
theorem ends_lift_bind {w : other} :
    Ends (lift e >>= f) trace w ↔ exists v, e = Except.ok v ∧ Ends (f v) trace w := by
  rw [ends_bind]
  constructor
  · intro h
    rcases h with ⟨first, rest, v, htrace, hfirst, hrest⟩
    rcases ends_lift.mp hfirst with ⟨hnil, hok⟩
    rw [htrace, hnil, List.nil_append]
    exact ⟨v, hok, hrest⟩
  · intro h
    rcases h with ⟨v, hok, hrest⟩
    exact ⟨[], trace, v, rfl, ends_lift.mpr ⟨rfl, hok⟩, hrest⟩

theorem ends_read_bind {f : db -> Script db row fault value} :
    Ends (read >>= f) trace w ↔
      exists d rest, trace = (none, d) :: rest ∧ Ends (f d) rest w := by
  show Ends (query none f) trace w ↔ _
  exact ends_query

theorem ends_lock_bind {key : row} {f : db -> Script db row fault value} :
    Ends (Script.lock key mode >>= f) trace w ↔
      exists d rest, trace = (some (key, mode), d) :: rest ∧ Ends (f d) rest w := by
  show Ends (query (some (key, mode)) f) trace w ↔ _
  exact ends_query

theorem Ends.heldSince {key : row} {before after : List (Option (row × LockMode) × db)}
    (h : Ends s (before ++ (some (key, mode), d) :: after) v) :
    HeldSince s ((before ++ (some (key, mode), d) :: after).map Prod.snd) key mode
      (d :: after.map Prod.snd) := by
  induction before generalizing s with
  | nil =>
      cases h with
      | query hnext => exact HeldSince.here
  | cons entry before ih =>
      cases h with
      | query hnext => exact HeldSince.later (ih hnext)

theorem Ends.mem_acquired (h : Ends s trace v) {key : row} (hmem : (some (key, mode), d) ∈ trace) :
    (key, mode) ∈ s.acquired (trace.map Prod.snd) := by
  rcases List.append_of_mem hmem with ⟨before, after, htrace⟩
  rw [htrace] at h ⊢
  exact h.heldSince.mem_acquired

/-- What a bulk update has seen of every key of its snapshot. -/
theorem ends_updateRows {lockOf : key -> row}
    (h : Ends (updateRows lockOf matching keys : Script db row fault (List key)) trace ids) :
    (forall k, k ∈ ids -> exists d, (some (lockOf k, LockMode.exclusive), d) ∈ trace ∧
      matching d k = true) ∧
    forall k, k ∈ keys -> k ∈ ids ∨
      exists d, (some (lockOf k, LockMode.exclusive), d) ∈ trace ∧ matching d k = false := by
  induction keys generalizing ids trace with
  | nil =>
      rcases ends_pure.mp h with ⟨_, hids⟩
      subst hids
      constructor
      · intro k hk
        cases hk
      · intro k hk
        cases hk
  | cons key keys ih =>
      rcases ends_lock_bind.mp h with ⟨d, rest, htrace, hrest⟩
      rcases ends_bind.mp hrest with ⟨first, last, more, hsplit, hmore, hlast⟩
      rcases ends_pure.mp hlast with ⟨hnil, hids⟩
      rw [hnil, List.append_nil] at hsplit
      subst hsplit htrace
      rcases ih hmore with ⟨hupdated, hall⟩
      have hids' : forall k, k ∈ ids ↔ (k = key ∧ matching d key = true) ∨ k ∈ more := by
        intro k
        rw [← hids]
        cases matching d key with
        | false => simp
        | true => simp
      constructor
      · intro k hk
        rcases (hids' k).mp hk with ⟨heq, hmatch⟩ | hk
        · rw [heq]
          exact ⟨d, List.mem_cons_self, hmatch⟩
        · rcases hupdated k hk with ⟨d', hmem, hmatch⟩
          exact ⟨d', List.mem_cons_of_mem _ hmem, hmatch⟩
      · intro k hk
        rcases List.mem_cons.mp hk with heq | hk
        · subst heq
          cases hmatch : matching d k with
          | false => exact Or.inr ⟨d, List.mem_cons_self, hmatch⟩
          | true => exact Or.inl ((hids' k).mpr (Or.inl ⟨rfl, hmatch⟩))
        · rcases hall k hk with hk | ⟨d', hmem, hmatch⟩
          · exact Or.inl ((hids' k).mpr (Or.inr hk))
          · exact Or.inr ⟨d', List.mem_cons_of_mem _ hmem, hmatch⟩

theorem mem_inScanOrder [DecidableEq key] {k : key} : k ∈ inScanOrder order keys ↔ k ∈ keys := by
  unfold inScanOrder
  by_cases hk : k ∈ order
  · simp [hk]
  · simp [hk]

theorem ends_updateWhere [DecidableEq key] {lockOf : key -> row} {keys : db -> List key}
    (h : Ends (updateWhere lockOf matching keys order : Script db row fault (List key))
      trace ids) :
    exists snapshot rest, trace = (none, snapshot) :: rest ∧
      (forall k, k ∈ ids -> exists d, (some (lockOf k, LockMode.exclusive), d) ∈ rest ∧
        matching d k = true) ∧
      forall k, k ∈ keys snapshot -> matching snapshot k = true -> k ∈ ids ∨
        exists d, (some (lockOf k, LockMode.exclusive), d) ∈ rest ∧ matching d k = false := by
  rcases ends_read_bind.mp h with ⟨snapshot, rest, htrace, hrest⟩
  rcases ends_updateRows hrest with ⟨hupdated, hall⟩
  refine ⟨snapshot, rest, htrace, hupdated, ?_⟩
  intro k hk hmatch
  exact hall k (mem_inScanOrder.mpr (List.mem_filter.mpr ⟨hk, hmatch⟩))

end

end Script

end Foundation
end MessagingSystem
