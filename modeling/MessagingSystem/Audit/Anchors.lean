import MessagingSystem.Audit.Verification

/-!
# External anchors

An anchor is a JSON object that was exported with a checkpoint and kept elsewhere.
It is accepted against a database when its signature is valid, it agrees with the
checkpoint of its number, and the chain up to that checkpoint verifies.
-/

namespace MessagingSystem

open Foundation

/-!
# Reading untrusted values
-/

/-- The exceptions that reading an anchor can raise. -/
inductive AnchorError where
  | typeError
  | valueError
  | overflowError
  | integrityError
  | multipleResultsFound
  deriving DecidableEq, Repr

/--
What the standard library makes of values that no exported anchor contains: numbers
from floats and texts, texts of other values, and foreign timestamps.
-/
structure Conversions where
  intOfFloat : FloatText -> Except AnchorError Int
  intOfText : String -> Except AnchorError Int
  floatEqInt : FloatText -> Int -> Bool
  textOf : Json -> String
  readTimestamp : String -> Except AnchorError Instant

section

variable (py : Conversions)

/-- `int(value)`. -/
def toInt : Json -> Except AnchorError Int
  | Json.int n => pure n
  | Json.bool b => pure (if b then 1 else 0)
  | Json.float x => py.intOfFloat x
  | Json.str s => py.intOfText s
  | _ => throw AnchorError.typeError

/-- `str(value)`. -/
def toText : Json -> String
  | Json.str s => s
  | other => py.textOf other

/-- `value == n`. -/
def equalsInt : Json -> Int -> Bool
  | Json.int m, n => m = n
  | Json.bool b, n => (if b then 1 else 0) = n
  | Json.float x, n => py.floatEqInt x n
  | _, _ => false

end

def equalsText : Json -> String -> Bool
  | Json.str s, text => s = text
  | _, _ => false

def equalsOptionalText (value : Json) : Option String -> Bool
  | some text => equalsText value text
  | none =>
      match value with
      | Json.null => true
      | _ => false

/-- `anchor.get(key, default)`. -/
def anchorGet (anchor : List (String × Json)) (key : String) (default : Json) : Json :=
  (Json.member? anchor key).getD default

/-!
# Anchors
-/

structure AnchorResult where
  valid : Bool
  signatureValid : Bool
  reasonCode : Option ReasonCode
  checkpointChainValid : Option Bool
  sequenceNo : Option Int

def AnchorResult.refused (signatureValid : Bool) (reason : ReasonCode) : AnchorResult where
  valid := false
  signatureValid := signatureValid
  reasonCode := some reason
  checkpointChainValid := none
  sequenceNo := none

section

variable (py : Conversions) (sha256 : Sha256) (ed : Ed25519)
  (publicKeys : String -> Option String)

/-- `_timestamp` of an anchor's value; only whether it raises matters. -/
def checkTimestamp : Json -> Except AnchorError Unit
  | Json.str text => (fun _ => ()) <$> py.readTimestamp text
  | _ => throw AnchorError.integrityError

/-- The checks before the signature. -/
def checkAnchorFormat (anchor : List (String × Json)) : Except AnchorError Unit := do
  let version ← toInt py (anchorGet anchor "anchor_version" (Json.int 0))
  require (version == 1) AnchorError.valueError
  let sequenceNo ← toInt py (anchorGet anchor "sequence_no" (Json.int 0))
  require (1 ≤ sequenceNo) AnchorError.valueError
  checkTimestamp py (anchorGet anchor "created_at" Json.null)
  require (isHashHex (toText py (anchorGet anchor "merkle_root" (Json.str ""))))
    AnchorError.valueError
  let previous := anchorGet anchor "previous_checkpoint_hash" Json.null
  require (equalsOptionalText previous none || isHashHex (toText py previous))
    AnchorError.valueError

def verifyAnchorSignature (anchor : List (String × Json)) : Except AnchorError AnchorResult :=
  match checkAnchorFormat py anchor with
  | Except.ok _ =>
      match verifyCheckpointSignature ed
        (toText py (anchorGet anchor "checkpoint_hash" (Json.str "")))
        (toText py (anchorGet anchor "signing_key_id" (Json.str "")))
        (toText py (anchorGet anchor "signature" (Json.str ""))) publicKeys with
      | none => pure ⟨true, true, none, none, none⟩
      | some reason => pure (AnchorResult.refused false reason)
  -- An integer that overflows is not among the errors that are caught.
  | Except.error AnchorError.overflowError => throw AnchorError.overflowError
  | Except.error _ => pure (AnchorResult.refused false ReasonCode.anchorFormatInvalid)

def anchorForBatch (batch : MerkleBatch) : List (String × Json) :=
  [("anchor_version", Json.int 1),
    ("sequence_no", Json.int batch.sequenceNo),
    ("checkpoint_hash", Json.str batch.checkpointHash),
    ("merkle_root", Json.str batch.merkleRoot),
    ("previous_checkpoint_hash", optionalText batch.previousCheckpointHash),
    ("created_at", Json.str batch.createdAt.isoformat),
    ("signing_key_id", Json.str batch.signingKeyId),
    ("signature", Json.str batch.signature)]

/-- Every field of `anchor_for_batch` is the anchor's. -/
def anchorMatches (anchor : List (String × Json)) (batch : MerkleBatch) : Bool :=
  let field (key : String) : Json := anchorGet anchor key Json.null
  equalsInt py (field "anchor_version") 1 &&
    equalsInt py (field "sequence_no") batch.sequenceNo &&
    equalsText (field "checkpoint_hash") batch.checkpointHash &&
    equalsText (field "merkle_root") batch.merkleRoot &&
    equalsOptionalText (field "previous_checkpoint_hash") batch.previousCheckpointHash &&
    equalsText (field "created_at") batch.createdAt.isoformat &&
    equalsText (field "signing_key_id") batch.signingKeyId &&
    equalsText (field "signature") batch.signature

def verifyAnchorAgainstDatabase (tables : AuditTables) (anchor : List (String × Json)) :
    Except AnchorError AnchorResult := do
  let signature ← verifyAnchorSignature py ed publicKeys anchor
  if !signature.valid then pure signature
  else do
    let sequenceNo ← toInt py (anchorGet anchor "sequence_no" (Json.int 0))
    match tables.batches.filter (fun batch => batch.sequenceNo = sequenceNo) with
    | [] => pure (AnchorResult.refused true ReasonCode.anchoredCheckpointMissing)
    | [batch] =>
        if anchorMatches py anchor batch then
          let chain := verifyDatabase sha256 ed publicKeys tables false (some sequenceNo)
          pure ⟨chain.valid, true, chain.reasonCode, some chain.valid, some sequenceNo⟩
        else pure (AnchorResult.refused true ReasonCode.anchorCheckpointMismatch)
    | _ => throw AnchorError.multipleResultsFound

variable {py sha256 ed publicKeys}

/-- What an accepted anchor says about the database. -/
structure AnchorAccepted (py : Conversions) (sha256 : Sha256) (ed : Ed25519)
    (publicKeys : String -> Option String) (tables : AuditTables)
    (anchor : List (String × Json)) (sequenceNo : Int) (batch : MerkleBatch) : Prop where
  number : toInt py (anchorGet anchor "sequence_no" (Json.int 0)) = Except.ok sequenceNo
  row : tables.batches.filter (fun row => row.sequenceNo = sequenceNo) = [batch]
  checkpointHash : anchorGet anchor "checkpoint_hash" Json.null
    = Json.str batch.checkpointHash
  chain : Accepted sha256 ed publicKeys tables false (some sequenceNo)
    (tables.batchesThrough (some sequenceNo))

theorem equalsText_eq {value : Json} {text : String} (h : equalsText value text = true) :
    value = Json.str text := by
  cases value with
  | str s =>
      have hs : s = text := of_decide_eq_true h
      rw [hs]
  | _ => cases h

theorem verifyAnchorAgainstDatabase_accepts {tables : AuditTables}
    {anchor : List (String × Json)} {result : AnchorResult}
    (h : verifyAnchorAgainstDatabase py sha256 ed publicKeys tables anchor
      = Except.ok result) (hvalid : result.valid = true) :
    exists sequenceNo batch,
      AnchorAccepted py sha256 ed publicKeys tables anchor sequenceNo batch := by
  unfold verifyAnchorAgainstDatabase at h
  rcases bind_eq_ok.mp h with ⟨signature, _, h⟩
  split at h
  · rename_i hsignature
    rw [pure_eq_ok] at h
    rw [h, hvalid] at hsignature
    cases hsignature
  · rcases bind_eq_ok.mp h with ⟨sequenceNo, hnumber, h⟩
    split at h
    · rw [pure_eq_ok] at h
      rw [← h] at hvalid
      cases hvalid
    · rename_i batch hrow
      split at h
      · rename_i hmatches
        rw [pure_eq_ok] at h
        rw [← h] at hvalid
        unfold anchorMatches at hmatches
        simp only [Bool.and_eq_true] at hmatches
        exact ⟨sequenceNo, batch, hnumber, hrow, equalsText_eq hmatches.1.1.1.1.1.2,
          verifyDatabase_valid.mp hvalid⟩
      · rw [pure_eq_ok] at h
        rw [← h] at hvalid
        cases hvalid
    · cases h

/-!
# Exported anchors

An exported anchor is accepted by every database in which the chain up to its
checkpoint verifies.
-/

theorem equalsOptionalText_optionalText (text : Option String) :
    equalsOptionalText (optionalText text) text = true := by
  cases text with
  | none => rfl
  | some t => exact decide_eq_true rfl

theorem anchorForBatch_matches (batch : MerkleBatch) :
    anchorMatches py (anchorForBatch batch) batch = true := by
  have hprevious : anchorGet (anchorForBatch batch) "previous_checkpoint_hash" Json.null
      = optionalText batch.previousCheckpointHash := rfl
  unfold anchorMatches
  simp only [hprevious, equalsOptionalText_optionalText, Bool.and_true, Bool.and_eq_true]
  exact ⟨⟨⟨⟨⟨⟨rfl, decide_eq_true rfl⟩, decide_eq_true rfl⟩, decide_eq_true rfl⟩,
    decide_eq_true rfl⟩, decide_eq_true rfl⟩, decide_eq_true rfl⟩

theorem anchorForBatch_format {batch : MerkleBatch} (hformat : batch.Formatted)
    {instant : Instant}
    (hread : py.readTimestamp batch.createdAt.isoformat = Except.ok instant) :
    checkAnchorFormat py (anchorForBatch batch) = Except.ok () := by
  have hprevious : (equalsOptionalText (optionalText batch.previousCheckpointHash) none ||
      isHashHex (toText py (optionalText batch.previousCheckpointHash))) = true := by
    have hall := hformat.previous
    cases hhash : batch.previousCheckpointHash with
    | none => rfl
    | some text =>
        rw [hhash] at hall
        exact hall
  unfold checkAnchorFormat
  simp only [bind_eq_ok, require_eq_ok, beq_iff_eq, decide_eq_true_eq]
  refine ⟨1, rfl, (), rfl, batch.sequenceNo, rfl, (), hformat.sequenceNo, (), ?_, (),
    hformat.merkleRoot, hprevious⟩
  change (fun _ => ()) <$> py.readTimestamp batch.createdAt.isoformat = _
  rw [hread]
  rfl

theorem anchorForBatch_accepted {tables : AuditTables} {batch : MerkleBatch}
    {instant : Instant}
    (hread : py.readTimestamp batch.createdAt.isoformat = Except.ok instant)
    (hrow : tables.batches.filter (fun row => row.sequenceNo = batch.sequenceNo) = [batch])
    (hverified : VerifiedBatch sha256 ed publicKeys tables batch
      (tables.batchLeaves batch.id))
    (hchain : Accepted sha256 ed publicKeys tables false (some batch.sequenceNo)
      (tables.batchesThrough (some batch.sequenceNo))) :
    verifyAnchorAgainstDatabase py sha256 ed publicKeys tables (anchorForBatch batch)
      = Except.ok ⟨true, true,
        (verifyDatabase sha256 ed publicKeys tables false (some batch.sequenceNo)).reasonCode,
        some true, some batch.sequenceNo⟩ := by
  have hsignature : verifyAnchorSignature py ed publicKeys (anchorForBatch batch)
      = Except.ok ⟨true, true, none, none, none⟩ := by
    unfold verifyAnchorSignature
    rw [anchorForBatch_format hverified.formatted hread]
    have hsigned : verifyCheckpointSignature ed
        (toText py (anchorGet (anchorForBatch batch) "checkpoint_hash" (Json.str "")))
        (toText py (anchorGet (anchorForBatch batch) "signing_key_id" (Json.str "")))
        (toText py (anchorGet (anchorForBatch batch) "signature" (Json.str "")))
        publicKeys = none := hverified.signature
    simp only [hsigned]
    rfl
  have hnumber : toInt py (anchorGet (anchorForBatch batch) "sequence_no" (Json.int 0))
      = Except.ok batch.sequenceNo := rfl
  unfold verifyAnchorAgainstDatabase
  refine bind_eq_ok.mpr ⟨_, hsignature, ?_⟩
  refine bind_eq_ok.mpr ⟨_, hnumber, ?_⟩
  simp only [hrow, anchorForBatch_matches, if_true, verifyDatabase_valid.mpr hchain]
  rfl

end

end MessagingSystem
