import MessagingSystem.Audit.Batches

/-!
# Checkpoint histories

The committed batches form one chain, numbered from one, and every event is in at
most one leaf.  Runs add to the chain one at a time because of the lock, while events
are committed at any time.
-/

namespace MessagingSystem

open Foundation

variable {tables : AuditTables} {expected : Int} {batches : List MerkleBatch}
  {previous : Option String} {batch : MerkleBatch}

/-!
# Chains of batches
-/

section

variable {sha256 : Sha256} {ed : Ed25519} {publicKeys : String -> Option String}
  {tables' : AuditTables}

/-- The hash that the next batch has to name. -/
def nextPrevious (previous : Option String) (batches : List MerkleBatch) : Option String :=
  batches.getLast?.elim previous (fun batch => some batch.checkpointHash)

theorem nextPrevious_cons :
    nextPrevious previous (batch :: batches)
      = nextPrevious (some batch.checkpointHash) batches := by
  unfold nextPrevious
  rw [List.getLast?_cons]
  cases batches.getLast? with
  | none => rfl
  | some last => rfl

theorem checkedFrom_concat :
    CheckedFrom sha256 ed publicKeys tables expected previous (batches ++ [batch]) ↔
      CheckedFrom sha256 ed publicKeys tables expected previous batches ∧
      batch.sequenceNo = expected + batches.length ∧
      batch.previousCheckpointHash = nextPrevious previous batches ∧
      VerifiedBatch sha256 ed publicKeys tables batch (tables.batchLeaves batch.id) := by
  induction batches generalizing expected previous with
  | nil => simp [CheckedFrom, nextPrevious]
  | cons first batches ih =>
      have hnumber : expected + 1 + (batches.length : Int)
          = expected + ((first :: batches).length : Int) := by
        rw [List.length_cons]
        omega
      simp only [List.cons_append, CheckedFrom, ih, hnumber, nextPrevious_cons, and_assoc]

theorem CheckedFrom.imp (h : CheckedFrom sha256 ed publicKeys tables expected previous batches)
    (hbatch : forall batch, batch ∈ batches ->
      VerifiedBatch sha256 ed publicKeys tables batch (tables.batchLeaves batch.id) ->
      VerifiedBatch sha256 ed publicKeys tables' batch (tables'.batchLeaves batch.id)) :
    CheckedFrom sha256 ed publicKeys tables' expected previous batches := by
  induction batches generalizing expected previous with
  | nil => trivial
  | cons first batches ih =>
      refine ⟨h.1, h.2.1, hbatch first List.mem_cons_self h.2.2.1, ih h.2.2.2 ?_⟩
      intro batch hmem
      exact hbatch batch (List.mem_cons_of_mem first hmem)

section

variable (h : CheckedFrom sha256 ed publicKeys tables expected previous batches)
include h

theorem CheckedFrom.verified (hbatch : batch ∈ batches) :
    VerifiedBatch sha256 ed publicKeys tables batch (tables.batchLeaves batch.id) := by
  induction batches generalizing expected previous with
  | nil => cases hbatch
  | cons first batches ih =>
      rcases List.mem_cons.mp hbatch with hfirst | hrest
      · rw [hfirst]
        exact h.2.2.1
      · exact ih h.2.2.2 hrest

theorem CheckedFrom.getElem {i : Nat} (hbatch : batches[i]? = some batch) :
    batch.sequenceNo = expected + i ∧
      batch.previousCheckpointHash = nextPrevious previous (batches.take i) := by
  induction batches generalizing expected previous i with
  | nil => cases hbatch
  | cons first batches ih =>
      cases i with
      | zero =>
          cases hbatch
          rw [Int.natCast_zero, Int.add_zero]
          exact ⟨h.1, h.2.1⟩
      | succ i =>
          rw [List.getElem?_cons_succ] at hbatch
          rcases ih h.2.2.2 hbatch with ⟨hnumber, hprevious⟩
          constructor
          · rw [hnumber, Int.natCast_succ]
            omega
          · rw [hprevious, List.take_succ_cons, nextPrevious_cons]

theorem CheckedFrom.sequenceNos :
    batches.map MerkleBatch.sequenceNo
      = (intRange batches.length).map (fun i => expected + i) := by
  apply List.ext_getElem
  · simp [intRange]
  · intro i hi _
    have hget := (h.getElem (List.getElem?_eq_getElem (by simpa using hi))).1
    simp [intRange, hget]

theorem CheckedFrom.increasing : Increasing MerkleBatch.sequenceNo batches := by
  apply List.pairwise_iff_getElem.mpr
  intro i j hi hj hij
  rw [(h.getElem (List.getElem?_eq_getElem hi)).1, (h.getElem (List.getElem?_eq_getElem hj)).1]
  omega

theorem CheckedFrom.take (n : Nat) :
    CheckedFrom sha256 ed publicKeys tables expected previous (batches.take n) := by
  induction batches generalizing expected previous n with
  | nil =>
      rw [List.take_nil]
      trivial
  | cons first batches ih =>
      cases n with
      | zero => trivial
      | succ n => exact ⟨h.1, h.2.1, h.2.2.1, ih h.2.2.2 n⟩

/-- The batches up to a number are a first part of the chain. -/
theorem CheckedFrom.filter_le (n : Nat) :
    batches.filter (fun batch => batch.sequenceNo ≤ expected + n - 1) = batches.take n := by
  have hgrows := h.increasing
  induction batches generalizing expected previous n with
  | nil => rw [List.filter_nil, List.take_nil]
  | cons first batches ih =>
      have hrest := (List.pairwise_cons.mp hgrows).2
      cases n with
      | zero =>
          rw [List.take_zero]
          apply List.filter_eq_nil_iff.mpr
          intro batch hbatch hle
          have hfirst : expected ≤ batch.sequenceNo := by
            rcases List.mem_cons.mp hbatch with heq | hmem
            · rw [heq, h.1]
            · exact h.1 ▸ le_of_lt ((List.pairwise_cons.mp hgrows).1 batch hmem)
          have hle' := of_decide_eq_true hle
          omega
      | succ n =>
          have hfirst : first.sequenceNo ≤ expected + (n + 1 : Nat) - 1 := by
            rw [h.1]
            omega
          have hshift : expected + 1 + (n : Int) - 1 = expected + (n + 1 : Nat) - 1 := by
            omega
          rw [List.filter_cons, if_pos (decide_eq_true hfirst), List.take_succ_cons,
            ← ih h.2.2.2 n hrest, hshift]

end

/-!
# Tables that only runs have written
-/

structure HistoryOk (sha256 : Sha256) (ed : Ed25519) (publicKeys : String -> Option String)
    (tables : AuditTables) : Prop where
  eventKeys : (tables.events.map Event.id).Nodup
  chain : CheckedFrom sha256 ed publicKeys tables 1 none tables.batches
  leafBatches : forall leaf, leaf ∈ tables.leaves ->
    exists batch, batch ∈ tables.batches ∧ batch.id = leaf.batchId
  leafEvents : (tables.leaves.map MerkleLeaf.eventId).Nodup

theorem HistoryOk.empty : HistoryOk sha256 ed publicKeys AuditStore.empty.tables := by
  refine ⟨List.nodup_nil, trivial, ?_, List.nodup_nil⟩
  intro leaf hleaf
  cases hleaf

theorem HistoryOk.add_events {added : List Event} (h : HistoryOk sha256 ed publicKeys tables)
    (hevents : tables'.events = tables.events ++ added)
    (hkeys : (tables'.events.map Event.id).Nodup) (hbatches : tables'.batches = tables.batches)
    (hleaves : tables'.leaves = tables.leaves) : HistoryOk sha256 ed publicKeys tables' := by
  refine ⟨hkeys, ?_, ?_, ?_⟩
  · rw [hbatches]
    apply h.chain.imp
    intro batch _ hverified
    have hrows : tables'.batchLeaves batch.id = tables.batchLeaves batch.id := by
      unfold AuditTables.batchLeaves
      rw [hleaves]
    rw [hrows]
    exact hverified.add_events hevents hkeys
  · rw [hbatches, hleaves]
    exact h.leafBatches
  · rw [hleaves]
    exact h.leafEvents

theorem HistoryOk.latestBatch_eq
    (h : HistoryOk sha256 ed publicKeys tables) :
    latestBatch tables.batches = tables.batches.getLast? :=
  orderByDesc_head_of_increasing h.chain.increasing

/-- A batch that fits leaves the rows of the others alone and finds its own. -/
theorem HistoryOk.batchLeaves_add
    (h : HistoryOk sha256 ed publicKeys tables)
    (hfits : batchFits tables.batches batch = true) {added : List MerkleLeaf}
    (hadded : forall leaf, leaf ∈ added -> leaf.batchId = batch.id)
    (hincreasing : Increasing MerkleLeaf.leafIndex added) :
    (forall other, other ∈ tables.batches ->
      orderByAsc MerkleLeaf.leafIndex
        ((tables.leaves ++ added).filter (fun leaf => leaf.batchId = other.id))
        = tables.batchLeaves other.id) ∧
    orderByAsc MerkleLeaf.leafIndex
      ((tables.leaves ++ added).filter (fun leaf => leaf.batchId = batch.id)) = added := by
  have hids : forall other, other ∈ tables.batches -> other.id ≠ batch.id := by
    intro other hother
    have hfit := List.all_eq_true.mp hfits other hother
    simp only [Bool.and_eq_true, bne_iff_ne] at hfit
    exact hfit.1.1
  constructor
  · intro other hother
    have hnone : added.filter (fun leaf => leaf.batchId = other.id) = [] := by
      apply List.filter_eq_nil_iff.mpr
      intro leaf hleaf heq
      exact hids other hother ((of_decide_eq_true heq).symm.trans (hadded leaf hleaf))
    unfold AuditTables.batchLeaves
    rw [List.filter_append, hnone, List.append_nil]
  · have hnone : tables.leaves.filter (fun leaf => leaf.batchId = batch.id) = [] := by
      apply List.filter_eq_nil_iff.mpr
      intro leaf hleaf heq
      rcases h.leafBatches leaf hleaf with ⟨other, hother, hid⟩
      exact hids other hother (hid.trans (of_decide_eq_true heq))
    have hall : added.filter (fun leaf => leaf.batchId = batch.id) = added := by
      apply List.filter_eq_self.mpr
      intro leaf hleaf
      exact decide_eq_true (hadded leaf hleaf)
    rw [List.filter_append, hnone, hall, List.nil_append]
    exact orderByAsc_of_increasing hincreasing

/-- Adding a batch that continues the chain. -/
theorem HistoryOk.add_batch (h : HistoryOk sha256 ed publicKeys tables)
    (hfits : batchFits tables.batches batch = true) {added : List MerkleLeaf}
    (hadded : forall leaf, leaf ∈ added -> leaf.batchId = batch.id)
    (hincreasing : Increasing MerkleLeaf.leafIndex added)
    (hfresh : ((tables.leaves ++ added).map MerkleLeaf.eventId).Nodup)
    (hnumber : batch.sequenceNo = 1 + tables.batches.length)
    (hprevious : batch.previousCheckpointHash = nextPrevious none tables.batches)
    (hverified : VerifiedBatch sha256 ed publicKeys tables batch added)
    (hevents : tables'.events = tables.events)
    (hbatches : tables'.batches = tables.batches ++ [batch])
    (hleaves : tables'.leaves = tables.leaves ++ added) :
    HistoryOk sha256 ed publicKeys tables' := by
  rcases h.batchLeaves_add hfits hadded hincreasing with ⟨hothers, hown⟩
  have hsame : forall {b : MerkleBatch} {leaves : List MerkleLeaf},
      VerifiedBatch sha256 ed publicKeys tables b leaves ->
      VerifiedBatch sha256 ed publicKeys tables' b leaves := by
    intro b leaves hb
    apply hb.of_rows
    unfold AuditTables.eventsWithIds
    rw [hevents]
    exact ReadBack.refl _
  refine ⟨?_, ?_, ?_, ?_⟩
  · rw [hevents]
    exact h.eventKeys
  · rw [hbatches, checkedFrom_concat]
    refine ⟨h.chain.imp ?_, hnumber, hprevious, ?_⟩
    · intro other hother hb
      have hrows : tables'.batchLeaves other.id = tables.batchLeaves other.id := by
        unfold AuditTables.batchLeaves
        rw [hleaves]
        exact hothers other hother
      rw [hrows]
      exact hsame hb
    · have hrows : tables'.batchLeaves batch.id = added := by
        unfold AuditTables.batchLeaves
        rw [hleaves]
        exact hown
      rw [hrows]
      exact hsame hverified
  · rw [hleaves, hbatches]
    intro leaf hleaf
    rcases List.mem_append.mp hleaf with hold | hnew
    · rcases h.leafBatches leaf hold with ⟨other, hother, hid⟩
      exact ⟨other, List.mem_append_left _ hother, hid⟩
    · exact ⟨batch, List.mem_append_right _ List.mem_cons_self, (hadded leaf hnew).symm⟩
  · rw [hleaves]
    exact hfresh

end

end MessagingSystem
