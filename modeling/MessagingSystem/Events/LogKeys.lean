import MessagingSystem.Events.LogInvariant

/-!
# Growth of the log

The committed events form a list that only grows at its end.  Their ids are distinct,
because an insert waits for no row with the same primary key, committed or not, and
every one of them has complete integrity columns.
-/

namespace MessagingSystem

open Foundation

variable {log : EventLog} {tx tx' : LogTransaction}

/-- The ids of the rows a transaction has written. -/
def LogTransaction.ids (tx : LogTransaction) : List Uuid :=
  tx.rows.map Event.id

theorem LogTransaction.ids_eq (tx : LogTransaction) :
    tx.ids = tx.events.map Event.id ++ tx.phase.rows.map Event.id :=
  List.map_append

/-- What a statement does to the ids: it draws at most one that is free. -/
structure IdsFrom (log : EventLog) (tx tx' : LogTransaction) (fresh : List Uuid) : Prop where
  sublist : tx'.ids.Sublist (tx.ids ++ fresh)
  nodup : fresh.Nodup
  free : forall id, id ∈ fresh -> log.IdFree id

theorem IdsFrom.keep
    (h : tx'.ids.Sublist tx.ids) : IdsFrom log tx tx' [] := by
  refine ⟨?_, List.nodup_nil, ?_⟩
  · rw [List.append_nil]
    exact h
  · intro id hid
    cases hid

/-- A phase without rows leaves the completed rows. -/
theorem IdsFrom.clear
    (hevents : tx'.events = tx.events) (hrows : tx'.phase.rows = []) :
    IdsFrom log tx tx' [] := by
  apply IdsFrom.keep
  rw [LogTransaction.ids_eq, LogTransaction.ids_eq, hevents, hrows]
  exact List.Sublist.append_left (List.nil_sublist _) _

theorem IdsFrom.draw {id : Uuid}
    (hfree : log.IdFree id) (hids : tx'.ids = tx.events.map Event.id ++ [id]) :
    IdsFrom log tx tx' [id] := by
  refine ⟨?_, List.nodup_singleton id, ?_⟩
  · rw [hids, LogTransaction.ids_eq, List.append_assoc]
    exact List.Sublist.append_left (List.sublist_append_right _ _) _
  · intro other hother
    rw [List.mem_singleton.mp hother]
    exact hfree

section

variable {hashtext : String -> Int} {sha256 : Sha256} {t : Nat}

theorem EventLog.advance_ids {statement : LogStatement}
    (h : log.advance hashtext sha256 t tx statement tx.phase = some tx') :
    exists fresh, IdsFrom log tx tx' fresh := by
  generalize hphase : tx.phase = phase at h
  unfold EventLog.advance at h
  split at h
  · split at h
    · cases h
      exact ⟨[], IdsFrom.clear rfl rfl⟩
    · cases h
  · rename_i id now call
    split at h
    · rename_i hfree
      cases h
      exact ⟨[id], IdsFrom.draw hfree (LogTransaction.ids_eq _)⟩
    · cases h
  · cases h
    refine ⟨[], IdsFrom.keep ?_⟩
    rw [LogTransaction.ids_eq, LogTransaction.ids_eq, hphase]
    exact List.Sublist.refl _
  · rename_i event latest
    cases h
    cases hrow : attachIntegrity sha256 (integrityScopeForEvent event.channelId) latest
        event with
    | none => exact ⟨[], IdsFrom.clear rfl rfl⟩
    | some row =>
        refine ⟨[], IdsFrom.keep ?_⟩
        have hid := (attachIntegrity_continues hrow).2.2
        rw [LogTransaction.ids_eq, LogTransaction.ids_eq, hphase]
        show ((tx.events ++ [row]).map Event.id ++ []).Sublist
          (tx.events.map Event.id ++ [event.id])
        rw [List.map_append, List.append_nil, List.map_singleton, hid]
  · cases h
    exact ⟨[], IdsFrom.clear rfl rfl⟩
  · split at h
    · cases h
      exact ⟨[], IdsFrom.clear rfl rfl⟩
    · cases h
  · cases h
    exact ⟨[], IdsFrom.clear rfl rfl⟩
  · rename_i draft latest
    rcases Option.ite_none_right_eq_some.mp h with ⟨hfree, h⟩
    cases h
    cases hrow : insertDeliveryEvent sha256 latest draft with
    | none => exact ⟨[], IdsFrom.clear rfl rfl⟩
    | some row =>
        have hid := (insertDeliveryEvent_continues hrow).2.2
        refine ⟨[draft.eventId], IdsFrom.draw hfree ?_⟩
        rw [LogTransaction.ids_eq]
        show (tx.events ++ [row]).map Event.id ++ [] = _
        rw [List.map_append, List.append_nil, List.map_singleton, hid]
  · cases h

/-!
# Distinct ids
-/

structure EventKeysOk (log : EventLog) : Prop where
  committed : (log.committed.map Event.id).Nodup
  transaction : forall t tx, log.txs.get t = some tx -> tx.ids.Nodup
  apart : forall t tx, log.txs.get t = some tx ->
    forall id, id ∈ tx.ids -> id ∉ log.committed.map Event.id
  exclusive : forall t t' tx tx', t ≠ t' -> log.txs.get t = some tx ->
    log.txs.get t' = some tx' -> forall id, id ∈ tx.ids -> id ∉ tx'.ids

theorem EventKeysOk.empty : EventKeysOk EventLog.empty := by
  refine ⟨List.nodup_nil, ?_, ?_, ?_⟩
  · intro t tx hget
    cases hget
  · intro t tx hget
    cases hget
  · intro t t' tx tx' _ hget
    cases hget

/-- Replacing the row of one transaction. -/
theorem EventKeysOk.setTransaction (h : EventKeysOk log) {new : LogTransaction}
    (hnodup : new.ids.Nodup)
    (hapart : forall id, id ∈ new.ids -> id ∉ log.committed.map Event.id)
    (hexclusive : forall t' tx', t' ≠ t -> log.txs.get t' = some tx' ->
      forall id, id ∈ new.ids -> id ∉ tx'.ids) :
    EventKeysOk { log with txs := log.txs.set t (some new) } := by
  refine ⟨h.committed, ?_, ?_, ?_⟩
  · exact Table.forall_get_set_some h.transaction hnodup
  · exact Table.forall_get_set_some h.apart hapart
  · refine Table.pairwise_get_set (R := fun tx tx' : LogTransaction =>
      forall id, id ∈ tx.ids -> id ∉ tx'.ids) (fun _ _ hs id hid hid' => hs id hid' hid)
      h.exclusive ?_
    intro t' tx' hne hget id hid hid'
    exact hexclusive t' tx' hne hget id hid' hid

theorem EventKeysOk.advance (h : EventKeysOk log) (hget : log.txs.get t = some tx)
    {fresh : List Uuid} (hids : IdsFrom log tx tx' fresh) :
    EventKeysOk { log with txs := log.txs.set t (some tx') } := by
  have hmem : forall id, id ∈ tx'.ids -> id ∈ tx.ids ∨ id ∈ fresh := by
    intro id hid
    exact List.mem_append.mp (hids.sublist.subset hid)
  refine h.setTransaction ?_ ?_ ?_
  · refine hids.sublist.nodup (List.nodup_append.mpr ⟨h.transaction t tx hget, hids.nodup, ?_⟩)
    intro id hid other hother heq
    rcases List.mem_map.mp hid with ⟨event, hevent, hid⟩
    exact (hids.free other hother).2 (t, tx) (Table.mem_rows.mpr hget) event hevent
      (hid.trans heq)
  · intro id hid hcommitted
    rcases hmem id hid with hid | hid
    · exact h.apart t tx hget id hid hcommitted
    · rcases List.mem_map.mp hcommitted with ⟨event, hevent, heq⟩
      exact (hids.free id hid).1 event hevent heq
  · intro t' other hne hother id hid hid'
    rcases hmem id hid with hid | hid
    · exact h.exclusive t t' tx other (Ne.symm hne) hget hother id hid hid'
    · rcases List.mem_map.mp hid' with ⟨event, hevent, heq⟩
      exact (hids.free id hid).2 (t', other) (Table.mem_rows.mpr hother) event hevent heq

theorem EventKeysOk.rollback (h : EventKeysOk log) (t : Nat) :
    EventKeysOk { log with txs := log.txs.set t none } := by
  refine ⟨h.committed, ?_, ?_, ?_⟩
  · intro t' tx hget
    exact h.transaction t' tx (Table.get_of_get_set_none hget).2
  · intro t' tx hget
    exact h.apart t' tx (Table.get_of_get_set_none hget).2
  · intro t1 t2 tx tx' hne hget hget'
    exact h.exclusive t1 t2 tx tx' hne (Table.get_of_get_set_none hget).2
      (Table.get_of_get_set_none hget').2

theorem EventKeysOk.commit (h : EventKeysOk log) {tx : LogTransaction}
    (hget : log.txs.get t = some tx) :
    EventKeysOk { committed := log.committed ++ tx.events, txs := log.txs.set t none } := by
  have hclosed := h.rollback t
  have hevents : forall id, id ∈ tx.events.map Event.id -> id ∈ tx.ids := by
    intro id hid
    rw [LogTransaction.ids_eq]
    exact List.mem_append_left _ hid
  have hnodup : (tx.events.map Event.id).Nodup := by
    have hids := h.transaction t tx hget
    rw [LogTransaction.ids_eq] at hids
    exact (List.nodup_append.mp hids).1
  refine ⟨?_, hclosed.transaction, ?_, hclosed.exclusive⟩
  · rw [List.map_append, List.nodup_append]
    refine ⟨h.committed, hnodup, ?_⟩
    intro id hid other hother heq
    exact h.apart t tx hget other (hevents other hother) (heq ▸ hid)
  · intro t' other hother id hid hcommitted
    rcases Table.get_of_get_set_none hother with ⟨hne, hold⟩
    rw [List.map_append] at hcommitted
    rcases List.mem_append.mp hcommitted with hmem | hmem
    · exact hclosed.apart t' other hother id hid hmem
    · exact h.exclusive t t' tx other (Ne.symm hne) hget hold id (hevents id hmem) hid

theorem EventKeysOk.step {log log' : EventLog} {label : LogLabel} (h : EventKeysOk log)
    (hstep : log.step hashtext sha256 label = some log') : EventKeysOk log' := by
  cases logStep_of_step hstep with
  | begin t =>
      refine h.setTransaction List.nodup_nil ?_ ?_
      · intro id hid
        cases hid
      · intro t' tx' _ _ id hid
        cases hid
  | statement hget hadvance =>
      rcases EventLog.advance_ids hadvance with ⟨fresh, hids⟩
      exact h.advance hget hids
  | commit hget => exact h.commit hget
  | rollback t => exact h.rollback t

/-!
# Committed events
-/

/-- A step of the log adds events at the end, or none. -/
theorem EventLog.step_committed {log log' : EventLog} {label : LogLabel}
    (h : log.step hashtext sha256 label = some log') :
    exists added, log'.committed = log.committed ++ added := by
  cases logStep_of_step h with
  | commit hget => exact ⟨_, rfl⟩
  | begin | statement | rollback => exact ⟨[], (List.append_nil _).symm⟩

theorem LinkedFrom.exists_checkEvent {scope : String} {previousHash : Option String}
    {events : List Event} (h : LinkedFrom sha256 scope previousHash events) {event : Event}
    (hevent : event ∈ events) :
    exists previous, checkEvent sha256 scope previous event = none := by
  induction events generalizing previousHash with
  | nil => cases hevent
  | cons first events ih =>
      rcases List.mem_cons.mp hevent with hfirst | hrest
      · rw [hfirst]
        exact ⟨previousHash, h.1⟩
      · exact ih h.2 hrest

/-- Every committed event carries the hash of its columns. -/
theorem EventLogOk.committed_hash (h : EventLogOk hashtext sha256 log)
    {event : Event} (hevent : event ∈ log.committed) :
    event.eventHash = some (computeEventHash sha256 event) ∧
      event.integrityScope.isSome = true ∧
      event.hashAlgorithm = some hashAlgorithmName ∧
      event.integrityVersion = some integrityVersionNumber := by
  have hscope := h.inScope event hevent
  have hmem : event ∈ scopeEvents (integrityScopeForEvent event.channelId) log.committed :=
    List.mem_filter.mpr ⟨hevent, decide_eq_true hscope⟩
  rcases (h.chain _).linked.exists_checkEvent hmem with ⟨previous, hcheck⟩
  rcases checkEvent_eq_none_iff.mp hcheck with ⟨hhash, _, halgorithm, hversion, _⟩
  exact ⟨hhash, by rw [hscope]; rfl, halgorithm, hversion⟩

end

end MessagingSystem
