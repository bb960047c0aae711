import MessagingSystem.Audit.History

/-!
# Runs keep the history

What a run has read stays true until it commits: it holds the lock, so no other run
writes, and the event log only grows.
-/

namespace MessagingSystem

open Foundation

variable {tables : AuditTables} {run : CheckpointRun} {store : AuditStore}
  {settings : CheckpointSettings} {startedWith : List Event}

/-- Every one of the events is in a leaf. -/
def Covered (tables : AuditTables) (events : List Event) : Prop :=
  forall event, event ∈ events -> event.id ∈ tables.leaves.map MerkleLeaf.eventId

section

variable (sha256 : Sha256) (ed : Ed25519) (publicKeys : String -> Option String)

/-- A batch that is ready to be inserted for the events it was built from. -/
structure BuiltBatch (tables : AuditTables) (settings : CheckpointSettings) (first : Event)
    (rest : List Event) (batch : MerkleBatch) (leafHashes : List String) : Prop where
  selected : SelectedEvents sha256 tables (first :: rest)
  signed : SignedFrom sha256 ed settings tables.batches.getLast? first rest batch leafHashes
  fits : batchFits tables.batches batch = true

/-- What a run knows in each phase. -/
def PhaseOk (tables : AuditTables) (settings : CheckpointSettings)
    (startedWith : List Event) : CheckpointPhase -> Prop
  | CheckpointPhase.selected first rest => SelectedEvents sha256 tables (first :: rest)
  | CheckpointPhase.found first rest latest =>
      SelectedEvents sha256 tables (first :: rest) ∧ latest = tables.batches.getLast?
  | CheckpointPhase.inserted first rest batch leafHashes =>
      BuiltBatch sha256 ed tables settings first rest batch leafHashes
  | CheckpointPhase.prepared batch leaves => exists first rest leafHashes,
      BuiltBatch sha256 ed tables settings first rest batch leafHashes ∧
      leaves = leafRows batch.id (first :: rest) leafHashes ∧
      leavesFit tables.leaves leaves = true
  | CheckpointPhase.drained => Covered tables startedWith
  | CheckpointPhase.finished => settings.allPending = true -> Covered tables startedWith
  | _ => True

structure RunOk (tables : AuditTables) (run : CheckpointRun) : Prop where
  started : forall event, event ∈ run.startedWith -> event ∈ tables.events
  settings : run.phase.holdsLock = true ->
    checkSettings ed publicKeys run.settings = Except.ok ()
  phase : PhaseOk sha256 ed tables run.settings run.startedWith run.phase

variable {sha256 ed publicKeys}

/-!
# Other steps
-/

variable {tables' : AuditTables} {added : List Event}

theorem SelectedEvents.add_events {events : List Event} (h : SelectedEvents sha256 tables events)
    (hevents : tables'.events = tables.events ++ added) (hleaves : tables'.leaves = tables.leaves) :
    SelectedEvents sha256 tables' events := by
  refine ⟨?_, h.distinct, ?_, h.hashed⟩
  · intro event hevent
    rw [hevents]
    exact List.mem_append_left _ (h.stored event hevent)
  · rw [hleaves]
    exact h.fresh

theorem PhaseOk.add_events {phase : CheckpointPhase}
    (h : PhaseOk sha256 ed tables settings startedWith phase)
    (hevents : tables'.events = tables.events ++ added)
    (hbatches : tables'.batches = tables.batches) (hleaves : tables'.leaves = tables.leaves) :
    PhaseOk sha256 ed tables' settings startedWith phase := by
  have hbuilt : forall {first rest batch leafHashes},
      BuiltBatch sha256 ed tables settings first rest batch leafHashes ->
      BuiltBatch sha256 ed tables' settings first rest batch leafHashes := by
    intro first rest batch leafHashes hb
    refine ⟨hb.selected.add_events hevents hleaves, ?_, ?_⟩
    · rw [hbatches]
      exact hb.signed
    · rw [hbatches]
      exact hb.fits
  cases phase with
  | selected first rest => exact SelectedEvents.add_events h hevents hleaves
  | found first rest latest =>
      unfold PhaseOk
      rw [hbatches]
      exact ⟨SelectedEvents.add_events h.1 hevents hleaves, h.2⟩
  | inserted first rest batch leafHashes => exact hbuilt h
  | prepared batch leaves =>
      rcases h with ⟨first, rest, leafHashes, hb, hrows, hfit⟩
      refine ⟨first, rest, leafHashes, hbuilt hb, hrows, ?_⟩
      rw [hleaves]
      exact hfit
  | drained | finished =>
      unfold PhaseOk Covered
      rw [hleaves]
      exact h
  | ready | locked | counted | failed => trivial

theorem RunOk.add_events (h : RunOk sha256 ed publicKeys tables run)
    (hevents : tables'.events = tables.events ++ added)
    (hbatches : tables'.batches = tables.batches) (hleaves : tables'.leaves = tables.leaves) :
    RunOk sha256 ed publicKeys tables' run := by
  refine ⟨?_, h.settings, h.phase.add_events hevents hbatches hleaves⟩
  intro event hevent
  rw [hevents]
  exact List.mem_append_left _ (h.started event hevent)

theorem Covered.add_leaves {added : List MerkleLeaf} {events : List Event}
    (h : Covered tables events) (hleaves : tables'.leaves = tables.leaves ++ added) :
    Covered tables' events := by
  intro event hevent
  rw [hleaves, List.map_append]
  exact List.mem_append_left _ (h event hevent)

/-- A run without the lock is not disturbed by a commit. -/
theorem RunOk.add_leaves {added : List MerkleLeaf} (h : RunOk sha256 ed publicKeys tables run)
    (hevents : tables'.events = tables.events) (hleaves : tables'.leaves = tables.leaves ++ added)
    (hlock : run.phase.holdsLock = false) : RunOk sha256 ed publicKeys tables' run := by
  refine ⟨?_, h.settings, ?_⟩
  · rw [hevents]
    exact h.started
  · have hphase := h.phase
    cases hrun : run.phase with
    | finished =>
        rw [hrun] at hphase
        intro hall
        exact (hphase hall).add_leaves hleaves
    | ready | failed => trivial
    | locked | counted | selected | found | inserted | prepared | drained =>
        rw [hrun] at hlock
        cases hlock

/-!
# Statements of the run
-/

variable {event first : Event} {hashtext : String -> Int} {log : EventLog} {rest : List Event}
  {w : Nat}

theorem mem_pendingEvents {maxLeaves : Int} (h : event ∈ pendingEvents tables maxLeaves) :
    event ∈ tables.events ∧ forall leaf, leaf ∈ tables.leaves -> leaf.eventId ≠ event.id := by
  have hmem := (orderByAsc_perm _ _).mem_iff.mp (List.mem_of_mem_take h)
  rcases List.mem_filter.mp hmem with ⟨hstored, hpending⟩
  rw [Bool.and_eq_true, List.all_eq_true] at hpending
  refine ⟨hstored, ?_⟩
  intro leaf hleaf
  exact bne_iff_ne.mp (hpending.1 leaf hleaf)

theorem pendingEvents_distinct (maxLeaves : Int)
    (hkeys : (tables.events.map Event.id).Nodup) :
    ((pendingEvents tables maxLeaves).map Event.id).Nodup := by
  have hfilter : ((tables.events.filter (fun event =>
      tables.leaves.all (fun leaf => leaf.eventId != event.id) &&
        hasIntegrityMetadata event)).map Event.id).Nodup :=
    (List.filter_sublist.map Event.id).nodup hkeys
  have hsorted := ((orderByAsc_perm Event.rowKey _).map Event.id).nodup_iff.mpr hfilter
  exact ((List.take_sublist _ _).map Event.id).nodup hsorted

/-- When nothing is pending, every complete event is in a leaf. -/
theorem covered_of_pendingEvents_nil {maxLeaves : Int} (hsize : 1 ≤ maxLeaves)
    (hnil : pendingEvents tables maxLeaves = []) (hstored : event ∈ tables.events)
    (hcomplete : hasIntegrityMetadata event = true) :
    event.id ∈ tables.leaves.map MerkleLeaf.eventId := by
  rcases List.take_eq_nil_iff.mp hnil with hzero | hsorted
  · omega
  · have hfilter := ((orderByAsc_perm Event.rowKey _).symm.trans
      (List.perm_nil.mpr hsorted)).eq_nil
    have hpending := List.filter_eq_nil_iff.mp hfilter event hstored
    rw [hcomplete, Bool.and_true, List.all_eq_true] at hpending
    by_contra hnone
    apply hpending
    intro leaf hleaf
    apply bne_iff_ne.mpr
    intro heq
    exact hnone (List.mem_map.mpr ⟨leaf, hleaf, heq⟩)

theorem checkSettings_eq_ok
    (h : checkSettings ed publicKeys settings = Except.ok ()) :
    1 ≤ settings.maxLeaves ∧ validateSigningConfiguration ed settings.signingKeyId
      settings.privateKeyBase64 publicKeys = Except.ok () := by
  unfold checkSettings checkBatchSize at h
  rcases bind_eq_ok.mp h with ⟨_, hsize, hkeys⟩
  rw [require_eq_ok, Bool.and_eq_true, decide_eq_true_eq] at hsize
  exact ⟨hsize.1, hkeys⟩

/-- A run that ends with the error of a check knows nothing. -/
theorem PhaseOk.after {value : Type} {result : Except MerkleFailure value}
    {next : value -> CheckpointPhase}
    (h : forall v, result = Except.ok v ->
      PhaseOk sha256 ed tables settings startedWith (next v)) :
    PhaseOk sha256 ed tables settings startedWith (CheckpointPhase.after result next) := by
  cases result with
  | ok v => exact h v rfl
  | error failure => trivial

theorem EventLogOk.complete (h : EventLogOk hashtext sha256 log) (hevent : event ∈ log.committed) :
    hasIntegrityMetadata event = true := by
  rcases h.committed_hash hevent with ⟨hhash, hscope, halgorithm, hversion⟩
  unfold hasIntegrityMetadata
  rw [hhash, halgorithm, hversion, hscope]
  simp

theorem PhaseOk.select (hlog : EventLogOk hashtext sha256 store.log)
    (hhistory : HistoryOk sha256 ed publicKeys store.tables)
    (hrun : RunOk sha256 ed publicKeys store.tables run)
    (hsettings : checkSettings ed publicKeys run.settings = Except.ok ()) :
    PhaseOk sha256 ed store.tables run.settings run.startedWith
      (selectPhase sha256 (pendingEvents store.tables run.settings.maxLeaves)) := by
  cases hpending : pendingEvents store.tables run.settings.maxLeaves with
  | nil =>
      intro event hevent
      have hstored := hrun.started event hevent
      exact covered_of_pendingEvents_nil (checkSettings_eq_ok hsettings).1 hpending hstored
        (hlog.complete hstored)
  | cons first rest =>
      have hmem : forall event, event ∈ first :: rest ->
          event ∈ pendingEvents store.tables run.settings.maxLeaves := by
        intro event hevent
        rw [hpending]
        exact hevent
      refine PhaseOk.after ?_
      intro _ hchecked
      refine ⟨?_, ?_, ?_, ?_⟩
      · intro event hevent
        exact (mem_pendingEvents (hmem event hevent)).1
      · rw [← hpending]
        exact pendingEvents_distinct _ hhistory.eventKeys
      · intro event hevent
        exact (mem_pendingEvents (hmem event hevent)).2
      · intro event hevent
        have hcheck := forM_eq_ok.mp hchecked event hevent
        unfold checkEventHash at hcheck
        rw [require_eq_ok, beq_iff_eq] at hcheck
        exact hcheck

theorem PhaseOk.insertBatch (hselected : SelectedEvents sha256 tables (first :: rest)) (id : Uuid)
    (now : Instant) :
    PhaseOk sha256 ed tables settings startedWith
      (insertBatchPhase sha256 ed tables.batches settings tables.batches.getLast? first rest
        id now) := by
  refine PhaseOk.after ?_
  intro signed hsigned
  split
  · rename_i hfits
    exact ⟨hselected, signedBatch_eq_ok hsigned, hfits⟩
  · trivial

theorem PhaseOk.insertLeaves {batch : MerkleBatch} {leafHashes : List String}
    (hbuilt : BuiltBatch sha256 ed tables settings first rest batch leafHashes) :
    PhaseOk sha256 ed tables settings startedWith
      (insertLeavesPhase tables.leaves batch
        (leafRows batch.id (first :: rest) leafHashes)) := by
  unfold insertLeavesPhase
  split
  · rename_i hfit
    exact ⟨first, rest, leafHashes, hbuilt, rfl, hfit⟩
  · trivial

/-- What a statement leaves behind, and what it needs to take the lock. -/
theorem AuditStore.advance_ok {statement : CheckpointStatement} {phase : CheckpointPhase}
    (hlog : EventLogOk hashtext sha256 store.log)
    (hhistory : HistoryOk sha256 ed publicKeys store.tables)
    (hrun : RunOk sha256 ed publicKeys store.tables run)
    (h : store.advance sha256 ed publicKeys w run.settings statement run.phase = some phase) :
    RunOk sha256 ed publicKeys store.tables { run with phase := phase } ∧
      (phase.holdsLock = true -> run.phase.holdsLock = true ∨ store.LockFree w) := by
  have hok := hrun.phase
  have hlocked := hrun.settings
  -- All statements but the first leave the settings as they were checked.
  have hheld : run.phase.holdsLock = true ->
      PhaseOk sha256 ed store.tables run.settings run.startedWith phase ->
      RunOk sha256 ed publicKeys store.tables { run with phase := phase } ∧
        (phase.holdsLock = true -> run.phase.holdsLock = true ∨ store.LockFree w) := by
    intro hlock hphase
    exact ⟨⟨hrun.started, fun _ => hlocked hlock, hphase⟩, fun _ => Or.inl hlock⟩
  have hfailed : forall failure, phase = CheckpointPhase.failed failure ->
      RunOk sha256 ed publicKeys store.tables { run with phase := phase } ∧
        (phase.holdsLock = true -> run.phase.holdsLock = true ∨ store.LockFree w) := by
    intro failure heq
    rw [heq]
    refine ⟨⟨hrun.started, ?_, trivial⟩, ?_⟩
    · intro hlock
      cases hlock
    · intro hlock
      cases hlock
  generalize hrunPhase : run.phase = before at h hok hlocked hheld hfailed
  unfold AuditStore.advance at h
  split at h
  · split at h
    · cases h
      exact hfailed _ rfl
    · rename_i hchecked
      split at h
      · rename_i hfree
        cases h
        exact ⟨⟨hrun.started, fun _ => hchecked, trivial⟩, fun _ => Or.inr hfree⟩
      · cases h
  · cases h
    exact hheld rfl (PhaseOk.after (fun _ _ => trivial))
  · cases h
    exact hheld rfl (PhaseOk.select hlog hhistory hrun (hlocked rfl))
  · cases h
    exact hheld rfl ⟨hok, hhistory.latestBatch_eq⟩
  · cases h
    rw [hok.2] at hheld ⊢
    exact hheld rfl (PhaseOk.insertBatch hok.1 _ _)
  · cases h
    exact hheld rfl (PhaseOk.insertLeaves hok)
  · cases h
    exact hheld rfl (fun _ => hok)
  · cases h
  · cases h
  · cases h
    exact hfailed _ rfl
  · cases h

/-!
# Whole histories
-/

structure AuditOk (hashtext : String -> Int) (sha256 : Sha256) (ed : Ed25519)
    (publicKeys : String -> Option String) (store : AuditStore) : Prop where
  log : EventLogOk hashtext sha256 store.log
  keys : EventKeysOk store.log
  history : HistoryOk sha256 ed publicKeys store.tables
  runs : forall w run, store.runs.get w = some run ->
    RunOk sha256 ed publicKeys store.tables run
  exclusive : forall w w' run run', w ≠ w' -> store.runs.get w = some run ->
    store.runs.get w' = some run' -> run.phase.holdsLock = true ->
    run'.phase.holdsLock = false

variable {hashtext : String -> Int}

theorem AuditOk.empty : AuditOk hashtext sha256 ed publicKeys AuditStore.empty := by
  refine ⟨EventLogOk.empty, EventKeysOk.empty, HistoryOk.empty, ?_, ?_⟩
  · intro w run hget
    cases hget
  · intro w w' run run' _ hget
    cases hget

theorem AuditOk.log_step {label : LogLabel} (h : AuditOk hashtext sha256 ed publicKeys store)
    (hstep : store.log.step hashtext sha256 label = some log) :
    AuditOk hashtext sha256 ed publicKeys { store with log := log } := by
  have hkeys := h.keys.step hstep
  rcases EventLog.step_committed hstep with ⟨added, hadded⟩
  refine ⟨h.log.step hstep, hkeys, ?_, ?_, h.exclusive⟩
  · exact h.history.add_events hadded hkeys.committed rfl rfl
  · intro w run hget
    exact (h.runs w run hget).add_events hadded rfl rfl

/-- Locks stay exclusive when one run takes the lock only while it is free. -/
theorem AuditOk.exclusive_set (h : AuditOk hashtext sha256 ed publicKeys store)
    (hlock : run.phase.holdsLock = true -> store.LockFree w ∨ exists before,
      store.runs.get w = some before ∧ before.phase.holdsLock = true) :
    forall w1 w2 run1 run2, w1 ≠ w2 -> (store.runs.set w (some run)).get w1 = some run1 ->
      (store.runs.set w (some run)).get w2 = some run2 -> run1.phase.holdsLock = true ->
      run2.phase.holdsLock = false := by
  have hothers : run.phase.holdsLock = true -> forall w' run', w' ≠ w ->
      store.runs.get w' = some run' -> run'.phase.holdsLock = false := by
    intro hheld w' run' hne hget
    rcases hlock hheld with hfree | ⟨before, hbefore, hbeforeLock⟩
    · exact hfree (w', run') (Table.mem_rows.mpr hget) hne
    · exact h.exclusive w w' before run' (Ne.symm hne) hbefore hget hbeforeLock
  intro w1 w2 run1 run2 hne hget1 hget2 hheld
  by_cases hw1 : w1 = w
  · subst hw1
    rw [Table.get_set_self] at hget1
    rw [Table.get_set_ne _ (Ne.symm hne)] at hget2
    cases hget1
    exact hothers hheld w2 run2 (Ne.symm hne) hget2
  · rw [Table.get_set_ne _ hw1] at hget1
    by_cases hw2 : w2 = w
    · subst hw2
      rw [Table.get_set_self] at hget2
      cases hget2
      cases hrun : run.phase.holdsLock with
      | false => rfl
      | true =>
          rw [hothers hrun w1 run1 hw1 hget1] at hheld
          cases hheld
    · rw [Table.get_set_ne _ hw2] at hget2
      exact h.exclusive w1 w2 run1 run2 hne hget1 hget2 hheld

/-- Replacing the row of one run. -/
theorem AuditOk.setRun (h : AuditOk hashtext sha256 ed publicKeys store)
    (hrun : RunOk sha256 ed publicKeys store.tables run)
    (hlock : run.phase.holdsLock = true -> store.LockFree w ∨ exists before,
      store.runs.get w = some before ∧ before.phase.holdsLock = true) :
    AuditOk hashtext sha256 ed publicKeys
      { store with runs := store.runs.set w (some run) } := by
  refine ⟨h.log, h.keys, h.history, ?_, h.exclusive_set hlock⟩
  refine Table.forall_get_set h.runs ?_
  intro row hrow
  cases hrow
  exact hrun

/-- The rows of a prepared batch continue the history. -/
theorem BuiltBatch.history (hcorrect : ed.Correct) {batch : MerkleBatch}
    {leafHashes : List String}
    (h : BuiltBatch sha256 ed tables settings first rest batch leafHashes)
    (hhistory : HistoryOk sha256 ed publicKeys tables)
    (hsettings : checkSettings ed publicKeys settings = Except.ok ())
    (hfit : leavesFit tables.leaves (leafRows batch.id (first :: rest) leafHashes) = true)
    (hevents : tables'.events = tables.events)
    (hbatches : tables'.batches = tables.batches ++ [batch]) (hleaves : tables'.leaves
      = tables.leaves ++ leafRows batch.id (first :: rest) leafHashes) :
    HistoryOk sha256 ed publicKeys tables' := by
  refine hhistory.add_batch h.fits ?_ (leafRows_increasing h.signed.length)
    (of_decide_eq_true hfit) ?_ ?_ ?_ hevents hbatches hleaves
  · intro leaf hleaf
    rcases mem_leafRows hleaf with ⟨_, _, _, hid, _⟩
    exact hid
  · rw [h.signed.sequenceNo]
    cases hlast : tables.batches.getLast? with
    | none =>
        rw [List.getLast?_eq_none_iff.mp hlast]
        rfl
    | some last =>
        rcases List.getLast?_eq_some_iff.mp hlast with ⟨before, hsplit⟩
        have hchain := hhistory.chain
        rw [hsplit, checkedFrom_concat] at hchain
        rw [hsplit, List.length_append, List.length_singleton]
        show last.sequenceNo + 1 = _
        rw [hchain.2.1]
        omega
  · rw [h.signed.previous]
    unfold nextPrevious
    cases tables.batches.getLast? with
    | none | some => rfl
  · exact h.signed.verified hcorrect (checkSettings_eq_ok hsettings).2 hhistory.eventKeys
      h.selected.stored h.selected.distinct h.selected.hashed

/-- After its commit a run has given up the lock. -/
theorem CheckpointRun.committed_unlocked (run : CheckpointRun) (batch : MerkleBatch)
    (acknowledged : Bool) : (run.committed batch acknowledged).phase.holdsLock = false := by
  unfold CheckpointRun.committed
  cases acknowledged with
  | false => rfl
  | true =>
      cases run.settings.allPending with
      | false => rfl
      | true => rfl

theorem RunOk.committed (batch : MerkleBatch)
    (acknowledged : Bool)
    (hstarted : forall event, event ∈ run.startedWith -> event ∈ tables.events) :
    RunOk sha256 ed publicKeys tables (run.committed batch acknowledged) := by
  have hunlocked := run.committed_unlocked batch acknowledged
  unfold CheckpointRun.committed at hunlocked ⊢
  cases acknowledged with
  | false =>
      refine ⟨hstarted, ?_, trivial⟩
      intro hheld
      cases hheld
  | true =>
      refine ⟨hstarted, ?_, ?_⟩
      · intro hheld
        rw [hunlocked] at hheld
        cases hheld
      · cases hall : run.settings.allPending with
        | true => trivial
        | false =>
            intro hpending
            have hfalse : false = true := hall.symm.trans hpending
            cases hfalse

theorem AuditOk.commit (hcorrect : ed.Correct) {store store' : AuditStore} {acknowledged : Bool}
    (h : AuditOk hashtext sha256 ed publicKeys store) (hget : store.runs.get w = some run)
    (hcommit : store.commit w run acknowledged run.phase = some store') :
    AuditOk hashtext sha256 ed publicKeys store' := by
  have hrun := h.runs w run hget
  have hphase := hrun.phase
  have hsettings := hrun.settings
  have hexclusive := h.exclusive w
  cases hprepared : run.phase with
  | prepared batch leaves =>
      rw [hprepared] at hcommit hphase hsettings
      cases hcommit
      rcases hphase with ⟨first, rest, leafHashes, hbuilt, hleaves, hfit⟩
      subst hleaves
      refine ⟨h.log, h.keys, ?_, ?_, ?_⟩
      · exact hbuilt.history hcorrect h.history (hsettings rfl) hfit rfl rfl rfl
      · intro w' other hother
        by_cases hw : w' = w
        · subst hw
          rw [Table.get_set_self] at hother
          cases hother
          refine RunOk.committed batch acknowledged ?_
          exact hrun.started
        · rw [Table.get_set_ne _ hw] at hother
          refine (h.runs w' other hother).add_leaves rfl rfl ?_
          exact hexclusive w' run other (Ne.symm hw) hget hother (by rw [hprepared]; rfl)
      · refine h.exclusive_set ?_
        intro hheld
        rw [run.committed_unlocked] at hheld
        cases hheld
  | _ =>
      rw [hprepared] at hcommit
      cases hcommit

theorem AuditOk.next (hcorrect : ed.Correct) {store store' : AuditStore}
    {label : AuditLabel} (h : AuditOk hashtext sha256 ed publicKeys store)
    (hstep : store.next hashtext sha256 ed publicKeys label = some store') :
    AuditOk hashtext sha256 ed publicKeys store' := by
  cases label with
  | log label =>
      simp only [AuditStore.next] at hstep
      rcases Option.map_eq_some_iff.mp hstep with ⟨log, hlog, hstore⟩
      subst hstore
      exact h.log_step hlog
  | start w settings =>
      simp only [AuditStore.next] at hstep
      split at hstep
      · cases hstep
      · cases hstep
        refine h.setRun ⟨fun event hevent => hevent, ?_, trivial⟩ ?_
        · intro hheld
          cases hheld
        · intro hheld
          cases hheld
  | statement w statement =>
      simp only [AuditStore.next] at hstep
      split at hstep
      · cases hstep
      · rename_i run hget
        rcases Option.map_eq_some_iff.mp hstep with ⟨phase, hphase, hstore⟩
        subst hstore
        rcases AuditStore.advance_ok h.log h.history (h.runs w run hget) hphase with
          ⟨hrun, hlock⟩
        refine h.setRun hrun ?_
        intro hheld
        rcases hlock hheld with hbefore | hfree
        · exact Or.inr ⟨run, hget, hbefore⟩
        · exact Or.inl hfree
  | commit w acknowledged =>
      simp only [AuditStore.next] at hstep
      split at hstep
      · cases hstep
      · rename_i run hget
        exact h.commit hcorrect hget hstep

theorem auditOk_of_reachable (hcorrect : ed.Correct)
    (h : (auditSystem hashtext sha256 ed publicKeys).Reachable store) :
    AuditOk hashtext sha256 ed publicKeys store := by
  refine System.Reachable.invariant ?_ ?_ h
  · intro store hstart
    cases hstart
    exact AuditOk.empty
  · intro store label store' hok hstep
    exact hok.next hcorrect hstep

/-!
# Verification of committed states
-/

variable {read : List Event}

theorem AuditTables.batchesThrough_none
    (h : HistoryOk sha256 ed publicKeys tables) :
    tables.batchesThrough none = tables.batches := by
  unfold AuditTables.batchesThrough
  show orderByAsc _ (tables.batches.filter (fun _ => true)) = _
  rw [List.filter_true]
  exact orderByAsc_of_increasing h.chain.increasing

theorem AuditTables.batchesThrough_some
    (h : HistoryOk sha256 ed publicKeys tables) (n : Nat) :
    tables.batchesThrough (some n) = tables.batches.take n := by
  have hnumber : (1 : Int) + n - 1 = n := by omega
  have hfilter := h.chain.filter_le n
  rw [hnumber] at hfilter
  unfold AuditTables.batchesThrough
  show orderByAsc _ (tables.batches.filter (fun batch => batch.sequenceNo ≤ (n : Int))) = _
  rw [hfilter]
  exact orderByAsc_of_increasing (h.chain.take n).increasing

/-- A chain verifies however the payloads of the events are read back. -/
theorem CheckedFrom.read_back {batches : List MerkleBatch}
    (h : CheckedFrom sha256 ed publicKeys tables 1 none batches)
    (hread : ReadBack tables.events read) :
    CheckedFrom sha256 ed publicKeys { tables with events := read } 1 none batches := by
  apply h.imp
  intro batch _ hverified
  exact hverified.read_back hread

theorem EventLogOk.read_scope (h : EventLogOk hashtext sha256 log)
    (hread : ReadBack log.committed read) (scope : String) (hevents : tables.events = read) :
    (verifyEvents sha256 scope (tables.scopeRows scope)).valid = true := by
  have hscope : ReadBack (scopeEvents scope log.committed) (scopeEvents scope read) := by
    refine hread.filter ?_
    intro a b hrow
    rw [hrow.rest]
  have hchain := h.chain scope
  have hkeys : Increasing Event.rowKey (scopeEvents scope read) := by
    refine List.Pairwise.imp ?_ (hscope.increasing hchain.increasing)
    intro a b hlt
    exact Prod.Lex.toLex_lt_toLex.mpr (Or.inl hlt)
  unfold AuditTables.scopeRows
  rw [hevents, orderByAsc_of_increasing hkeys]
  exact verifyEvents_valid.mpr (hchain.linked.of_sameRows hscope)

theorem AuditOk.accepted (h : AuditOk hashtext sha256 ed publicKeys store)
    (hread : ReadBack store.log.committed read) (verifyEventChains : Bool)
    {throughSequence : Option Int}
    (hthrough : forall n, throughSequence = some n -> 1 ≤ n ∧ n ≤ store.batches.length) :
    (verifyDatabase sha256 ed publicKeys { store.tables with events := read }
      verifyEventChains throughSequence).valid = true := by
  have hscopes : forall scope, (verifyEvents sha256 scope
      (AuditTables.scopeRows { store.tables with events := read } scope)).valid = true :=
    fun scope => h.log.read_scope hread scope rfl
  have hchain := h.history.chain.read_back hread
  rw [verifyDatabase_valid]
  cases throughSequence with
  | none =>
      have hall : AuditTables.batchesThrough { store.tables with events := read } none
          = store.batches := by
        show store.tables.batchesThrough none = store.batches
        exact AuditTables.batchesThrough_none h.history
      rw [hall]
      refine ⟨hchain, ?_, fun _ _ _ scope _ => hscopes scope⟩
      intro n hn
      cases hn
  | some n =>
      rcases hthrough n rfl with ⟨hlow, hhigh⟩
      rcases Int.eq_ofNat_of_zero_le (Int.le_trans (by decide) hlow) with ⟨k, hk⟩
      subst hk
      have hfirst : AuditTables.batchesThrough { store.tables with events := read }
          (some (k : Int)) = store.batches.take k := by
        show store.tables.batchesThrough (some (k : Int)) = store.batches.take k
        exact AuditTables.batchesThrough_some h.history k
      rw [hfirst]
      refine ⟨hchain.take k, ?_, fun _ _ _ scope _ => hscopes scope⟩
      intro n hn
      cases hn
      have hpos : k - 1 < store.batches.length := by omega
      have hlast := List.getElem?_eq_getElem hpos
      have hnumber := (h.history.chain.getElem hlast).1
      rw [List.getLast?_eq_getElem?, List.length_take, Nat.min_eq_left (by omega),
        List.getElem?_take_of_lt (by omega), hlast, Option.map_some, hnumber]
      congr 1
      omega

theorem countLeaves_le_one {leaves : List MerkleLeaf}
    (h : (leaves.map MerkleLeaf.eventId).Nodup) (id : Uuid) :
    (leaves.filter (fun leaf => leaf.eventId = id)).length ≤ 1 := by
  have hcount := List.nodup_iff_count_le_one.mp h id
  rw [List.count_eq_length_filter, List.filter_map, List.length_map] at hcount
  have hsame : leaves.filter (fun leaf => leaf.eventId = id)
      = leaves.filter ((fun x => x == id) ∘ MerkleLeaf.eventId) := by
    apply List.filter_congr
    intro leaf _
    rw [Bool.eq_iff_iff, decide_eq_true_eq, Function.comp_apply, beq_iff_eq]
  rw [hsame]
  exact hcount

/--
Whatever interleaving of event transactions and checkpoint runs led to a committed
state, its checkpoints are numbered without gaps and chained by their hashes, their
leaves are indexed without gaps, no event is in two leaves, and the verifier accepts
all of it and every first part of it.  A run over all pending events that succeeds has
put every event that was committed when it started into exactly one leaf.
-/
theorem checkpoint_history_verifies (hashtext : String -> Int) (sha256 : Sha256)
    (ed : Ed25519) (publicKeys : String -> Option String) (hcorrect : ed.Correct)
    (store : AuditStore)
    (hstore : (auditSystem hashtext sha256 ed publicKeys).Reachable store) :
    store.batches.map MerkleBatch.sequenceNo
      = (intRange store.batches.length).map (fun i => 1 + i) ∧
    (forall i batch, store.batches[i]? = some batch ->
      batch.previousCheckpointHash
        = nextPrevious none (store.batches.take i)) ∧
    (forall batch, batch ∈ store.batches ->
      (store.tables.batchLeaves batch.id).map MerkleLeaf.leafIndex
        = intRange batch.leafCount) ∧
    (forall id, (store.leaves.filter (fun leaf => leaf.eventId = id)).length ≤ 1) ∧
    (forall read verifyEventChains (throughSequence : Option Int),
      ReadBack store.log.committed read ->
      (forall n, throughSequence = some n -> 1 ≤ n ∧ n ≤ store.batches.length) ->
      (verifyDatabase sha256 ed publicKeys { store.tables with events := read }
        verifyEventChains throughSequence).valid = true) ∧
    forall w run, store.runs.get w = some run -> run.settings.allPending = true ->
      run.phase = CheckpointPhase.finished -> forall event, event ∈ run.startedWith ->
        (store.leaves.filter (fun leaf => leaf.eventId = event.id)).length = 1 := by
  have hok := auditOk_of_reachable hcorrect hstore
  have hone := countLeaves_le_one hok.history.leafEvents
  refine ⟨hok.history.chain.sequenceNos, ?_, ?_, hone, ?_, ?_⟩
  · intro i batch hbatch
    exact (hok.history.chain.getElem hbatch).2
  · intro batch hbatch
    exact (hok.history.chain.verified hbatch).leafIndexes
  · intro read verifyEventChains throughSequence hread hthrough
    exact hok.accepted hread verifyEventChains hthrough
  · intro w run hget hall hfinished event hevent
    have hphase := (hok.runs w run hget).phase
    rw [hfinished] at hphase
    rcases List.mem_map.mp (hphase hall event hevent) with ⟨leaf, hleaf, hid⟩
    apply Nat.le_antisymm (hone event.id)
    apply List.length_pos_of_mem
    exact List.mem_filter.mpr ⟨hleaf, decide_eq_true hid⟩

end

/-- Keys that are their own public keys and signatures that repeat the message. -/
def sampleEd25519 : Ed25519 where
  publicKey seed := seed
  sign seed digest := seed ++ digest
  verify publicKey signature digest := signature == publicKey ++ digest

theorem sampleEd25519_correct : sampleEd25519.Correct := by
  intro seed digest
  exact beq_self_eq_true _

/-- Verification holds for every hash function, also for one that is constant. -/
def sampleHash : Sha256 :=
  fun _ => 0

def sampleKeys (keyId : String) : Option String :=
  if keyId = "main" then some (encodeBase64 32 (BitVec.ofNat 256 5)) else none

def sampleSettings : CheckpointSettings where
  maxLeaves := 2
  signingKeyId := "main"
  privateKeyBase64 := encodeBase64 32 (BitVec.ofNat 256 5)
  allPending := true

def CheckpointPhase.isFinished : CheckpointPhase -> Bool
  | finished => true
  | _ => false

/-- One event through `log_event`, in a transaction of its own. -/
def loggedEvent (t : Nat) (id : Uuid) (now : Instant) : List AuditLabel :=
  [AuditLabel.log (LogLabel.begin t),
    AuditLabel.log (LogLabel.statement t (LogStatement.lockScope
      ⟨"message.published", samplePayload, some 7, some 9⟩)),
    AuditLabel.log (LogLabel.statement t (LogStatement.insertEvent id now)),
    AuditLabel.log (LogLabel.statement t LogStatement.readLatest),
    AuditLabel.log (LogLabel.statement t LogStatement.attachIntegrity),
    AuditLabel.log (LogLabel.commit t)]

/-- A run starts with one event, and a second one is committed while it counts. -/
def overtakenRun : List AuditLabel :=
  loggedEvent 0 1 5 ++
    [AuditLabel.start 0 sampleSettings,
      AuditLabel.statement 0 CheckpointStatement.lock,
      AuditLabel.statement 0 CheckpointStatement.countMissing] ++
    loggedEvent 1 2 3 ++
    [AuditLabel.statement 0 CheckpointStatement.selectPending,
      AuditLabel.statement 0 CheckpointStatement.readLatest,
      AuditLabel.statement 0 (CheckpointStatement.insertBatch 100 7),
      AuditLabel.statement 0 CheckpointStatement.insertLeaves,
      AuditLabel.commit 0 true,
      AuditLabel.statement 0 CheckpointStatement.lock,
      AuditLabel.statement 0 CheckpointStatement.countMissing,
      AuditLabel.statement 0 CheckpointStatement.selectPending,
      AuditLabel.statement 0 CheckpointStatement.rollback]

theorem overtakenRun_verifies :
    exists store, (auditSystem (fun scope => scope.length) sampleHash sampleEd25519
        sampleKeys).Reachable store ∧
      store.batches.map MerkleBatch.leafCount = [2] ∧
      (verifyDatabase sampleHash sampleEd25519 sampleKeys store.tables true none).valid = true ∧
      exists run, store.runs.get 0 = some run ∧ run.startedWith.map Event.id = [1] ∧
        forall event, event ∈ run.startedWith ->
          (store.leaves.filter (fun leaf => leaf.eventId = event.id)).length = 1 := by
  have hrun : (overtakenRun.foldlM
      (AuditStore.next (fun scope => scope.length) sampleHash sampleEd25519 sampleKeys)
      AuditStore.empty).map (fun store => (store.batches.map MerkleBatch.leafCount,
        (store.runs.get 0).map (fun run => (run.startedWith.map Event.id,
          run.settings.allPending, run.phase.isFinished))))
      = some ([2], some ([1], true, true)) := by
    decide +kernel
  rcases System.exists_reachable_of_run
    (M := auditSystem (fun scope => scope.length) sampleHash sampleEd25519 sampleKeys)
    (fun _ _ _ hstep => hstep) rfl hrun with ⟨store, hreach, hview⟩
  rcases Prod.mk.inj hview with ⟨hbatches, hview⟩
  rcases Option.map_eq_some_iff.mp hview with ⟨run, hget, hrunView⟩
  rcases Prod.mk.inj hrunView with ⟨hstarted, hrunView⟩
  rcases Prod.mk.inj hrunView with ⟨hall, hfinished⟩
  have hphase : run.phase = CheckpointPhase.finished := by
    cases hrunPhase : run.phase with
    | finished => rfl
    | _ =>
        rw [hrunPhase] at hfinished
        cases hfinished
  rcases checkpoint_history_verifies _ _ _ _ sampleEd25519_correct store hreach with
    ⟨_, _, _, _, hverifies, hcovered⟩
  refine ⟨store, hreach, hbatches, ?_, run, hget, hstarted, ?_⟩
  · refine hverifies store.log.committed true none (ReadBack.refl _) ?_
    intro n hn
    cases hn
  · exact hcovered 0 run hget hall hphase

end MessagingSystem
