import MessagingSystem.Messages.EncryptedBodies
import MessagingSystem.Uploads.Migration

/-!
# The migration of message bodies

The maintenance command goes through all messages in batches.  It leaves envelopes under the
right key alone, and decrypts and encrypts every other body.  A row that it cannot read stops
the command, and a message without a body is such a row.
-/

namespace MessagingSystem

open Foundation

/-!
# One message
-/

def messageFormat (message : Message) : MessageStorageFormat :=
  match message.contentType with
  | ContentType.text => inspectTextMessageFormat message.contentText
  | ContentType.json => inspectJsonMessageFormat message.contentJson

/-- What a body says. -/
inductive MessageContent where
  | text (value : String)
  | json (payload : Json)

/-- An envelope that is not encrypted again. -/
def keepsEnvelope (target : String) (rotateV2 : Bool) : MessageStorageFormat -> Bool
  | MessageStorageFormat.v2 keyId => !rotateV2 || keyId == target
  | _ => false

/-- The row to commit and the counter. -/
structure MessageChange where
  row : Message
  count : MigrationCount

section

variable (env : MessageCrypto)

/-- A pair of optional values in the source; the content type says which one is there. -/
def decryptMessageStorage (message : Message) : Except Failure MessageContent :=
  match message.contentType with
  | ContentType.text => do
      let body ← orFail message.contentText (decryptionFailed "missing persisted text message")
      let value ← decryptMessage env body
      pure (MessageContent.text value)
  | ContentType.json => do
      let body ← orFail message.contentJson (decryptionFailed "missing persisted json message")
      let payload ← decryptJsonPayload env body
      pure (MessageContent.json payload)

section

variable (target : String) (stamp : Bytes) (now : Instant)

/-- A changed row gets the time of its transaction, as `onupdate` of the column says. -/
def writeMessageContent (message : Message) : MessageContent -> Except Failure Message
  | MessageContent.text value => do
      let body ← encryptMessageWithKey env stamp value target
      pure { message with contentText := some body, updatedAt := now }
  | MessageContent.json payload => do
      let body ← encryptJsonPayloadWithKey env stamp payload target
      pure { message with contentJson := some body, updatedAt := now }

def messageChange (rotateV2 : Bool) (message : Message) :
    Except MigrationFault MessageChange := do
  let format := messageFormat message
  require (format != MessageStorageFormat.unknown)
    (MigrationFault.runtime "an unreadable message storage format prevents migration")
  if keepsEnvelope target rotateV2 format then
    pure { row := message, count := MigrationCount.unchanged }
  else do
    let content ← (decryptMessageStorage env message).mapError MigrationFault.app
    let row ← (writeMessageContent env target stamp now message content).mapError
      MigrationFault.app
    pure { row := row, count := MigrationCount.reencrypted }

end

/-!
# The command
-/

/-- The committed messages, and the messages as the open transaction sees them. -/
structure MessageMigration where
  committed : Table Uuid Message
  session : Table Uuid Message
  counts : MigrationCounts

def MessageMigration.opened (messages : Table Uuid Message) : MessageMigration where
  committed := messages
  session := messages
  counts := MigrationCounts.zero

/-- For each row the randomness of its token and the time of the transaction that locks it. -/
structure MigrationInputs where
  stamp : Uuid -> Bytes
  now : Uuid -> Instant

def KeyRing.requireTargetKey (ring : KeyRing) (targetKeyId : Option String) :
    Except MigrationFault String := do
  let target := if hasText targetKeyId then targetKeyId.getD "" else ring.activeKeyId
  require (ring.masterKey target).isSome (MigrationFault.app
    (appError "referenced data encryption key is unavailable" 500 "ENCRYPTION_FAILED"))
  require (target == ring.activeKeyId)
    (MigrationFault.runtime "rotation target must match DATA_ENCRYPTION_ACTIVE_KEY_ID")
  pure target

variable (inputs : MigrationInputs)

def migrateMessage (target : String) (rotateV2 : Bool) (id : Uuid) :
    EStateM MigrationFault MessageMigration Unit := do
  let s ← get
  match s.session.get id with
  | none => pure ()
  | some message => do
      let change ← attempt
        (messageChange env target (inputs.stamp id) (inputs.now id) rotateV2 message)
      modify (fun s => { s with
        session := s.session.set id (some change.row)
        counts := s.counts.add change.count })

def migrateMessageBatch (target : String) (rotateV2 : Bool) (ids : List Uuid) :
    EStateM MigrationFault MessageMigration Unit := do
  ids.forM (migrateMessage env inputs target rotateV2)
  modify (fun s => { s with committed := s.session })

/-- Every batch has a row that is later than all before it, so the rows bound the rounds. -/
def migrateMessages (batchSize : Nat) (targetKeyId : Option String) (rotateV2 : Bool) :
    EStateM MigrationFault MessageMigration MigrationCounts := do
  let target ← attempt (env.ring.requireTargetKey targetKeyId)
  let s ← get
  keysetLoop BitVec.toNat (fun s : MessageMigration => s.session.keys) batchSize
    (migrateMessageBatch env inputs target rotateV2) (s.session.keys.length + 1) none
  let s ← get
  pure s.counts

end

/-!
# What the change of one message does
-/

section

variable {env : MessageCrypto} {target : String} {stamp : Bytes} {now : Instant}
  {rotateV2 : Bool} {message : Message} {content : MessageContent}

/-- The text that goes into the token. -/
def MessageContent.plaintext : MessageContent -> String
  | text value => value
  | json payload => Json.dumpsText payload

/-- The token is short enough to be read again. -/
def MessageContent.Fits (env : MessageCrypto) (content : MessageContent) : Prop :=
  isMessageToken (env.fernet.encrypt [] [] content.plaintext) = true

/-- Nothing but the body differs. -/
def Message.SameColumns (message changed : Message) : Prop :=
  match message.contentType with
  | ContentType.text => changed = { message with contentText := changed.contentText }
  | ContentType.json => changed = { message with contentJson := changed.contentJson }

theorem messageFormat_of_decrypt (h : decryptMessageStorage env message = Except.ok content) :
    messageFormat message ≠ MessageStorageFormat.unknown := by
  unfold decryptMessageStorage at h
  unfold messageFormat
  split at h
  · rcases bind_eq_ok.mp h with ⟨body, hbody, h⟩
    rcases bind_eq_ok.mp h with ⟨value, hvalue, _⟩
    rw [orFail_eq_ok.mp hbody]
    exact inspectText_of_decrypt hvalue
  · rcases bind_eq_ok.mp h with ⟨body, hbody, h⟩
    rcases bind_eq_ok.mp h with ⟨payload, hpayload, _⟩
    rw [orFail_eq_ok.mp hbody]
    exact inspectJson_of_decrypt hpayload

theorem decryptMessageStorage_text (h : decryptMessageStorage env message = Except.ok content)
    (htype : message.contentType = ContentType.text) :
    exists value, content = MessageContent.text value := by
  unfold decryptMessageStorage at h
  rw [htype] at h
  rcases bind_eq_ok.mp h with ⟨_, _, h⟩
  rcases bind_eq_ok.mp h with ⟨value, _, h⟩
  exact ⟨value, (pure_eq_ok.mp h).symm⟩

theorem decryptMessageStorage_json
    (hbody : forall body, message.contentJson = some body -> body.WellFormed)
    (h : decryptMessageStorage env message = Except.ok content)
    (htype : message.contentType = ContentType.json) :
    exists members, content = MessageContent.json (Json.obj members) ∧
      (Json.obj members).WellFormed := by
  unfold decryptMessageStorage at h
  rw [htype] at h
  rcases bind_eq_ok.mp h with ⟨body, hfound, h⟩
  rcases bind_eq_ok.mp h with ⟨payload, hpayload, h⟩
  rcases decryptJsonPayload_wellFormed (hbody body (orFail_eq_ok.mp hfound)) hpayload with
    ⟨members, hmembers, hwell⟩
  rw [hmembers] at h hwell
  exact ⟨members, (pure_eq_ok.mp h).symm, hwell⟩

theorem fits_iff {key : Bytes} :
    content.Fits env ↔ isMessageToken (env.fernet.encrypt key stamp content.plaintext) = true := by
  unfold MessageContent.Fits
  rw [isMessageToken_encrypt [] key [] stamp]

/-- What becomes of a message whose body is encrypted again. -/
structure Rewritten (env : MessageCrypto) (target : String) (now : Instant) (message : Message)
    (content : MessageContent) (row : Message) : Prop where
  readable : content.Fits env -> messageFormat row = MessageStorageFormat.v2 target ∧
    decryptMessageStorage env row = Except.ok content
  fits : messageFormat row ≠ MessageStorageFormat.unknown -> content.Fits env
  columns : message.SameColumns row ↔ message.updatedAt = now

theorem Rewritten.of_token {token : String} {row : Message}
    (htoken : content.Fits env ↔ isMessageToken token = true)
    (hformat : messageFormat row =
      if isMessageToken token then MessageStorageFormat.v2 target
      else MessageStorageFormat.unknown)
    (hread : isMessageToken token = true -> decryptMessageStorage env row = Except.ok content)
    (hcolumns : message.SameColumns row ↔ message.updatedAt = now) :
    Rewritten env target now message content row := by
  refine ⟨?_, ?_, hcolumns⟩
  · intro hfits
    rw [hformat, if_pos (htoken.mp hfits)]
    exact ⟨rfl, hread (htoken.mp hfits)⟩
  · intro hknown
    rw [hformat] at hknown
    split at hknown
    · rename_i hfits
      exact htoken.mpr hfits
    · exact absurd rfl hknown

theorem rewritten_text (stamp : Bytes) {key : Bytes} {value : String}
    (hvalid : isDataKeyId target = true)
    (hkey : messageKey env target "ENCRYPTION_FAILED" = Except.ok key)
    (htype : message.contentType = ContentType.text) :
    Rewritten env target now message (MessageContent.text value)
      { message with
        contentText := some (v2TextEnvelope target (env.fernet.encrypt key stamp value))
        updatedAt := now } := by
  have htoken : (MessageContent.text value).Fits env ↔
      isMessageToken (env.fernet.encrypt key stamp value) = true := fits_iff
  refine Rewritten.of_token htoken ?_ ?_ ?_
  · rw [messageFormat, htype]
    exact inspectText_v2TextEnvelope hvalid
  · intro hfits
    rw [decryptMessageStorage, htype]
    refine bind_eq_ok.mpr ⟨_, rfl, bind_eq_ok.mpr ⟨value, ?_, rfl⟩⟩
    rw [decryptMessage_v2TextEnvelope hvalid, if_pos hfits]
    exact decryptV2Token_encrypt hkey
  · rw [Message.SameColumns, htype]
    constructor
    · intro hsame
      exact (congrArg Message.updatedAt hsame).symm
    · intro hnow
      subst hnow
      rfl

theorem rewritten_json (stamp : Bytes) {key : Bytes} {members : List (String × Json)}
    (hwell : (Json.obj members).WellFormed) (hvalid : isDataKeyId target = true)
    (hkey : messageKey env target "ENCRYPTION_FAILED" = Except.ok key)
    (htype : message.contentType = ContentType.json) :
    Rewritten env target now message (MessageContent.json (Json.obj members))
      { message with
        contentJson := some (v2JsonEnvelope target
          (env.fernet.encrypt key stamp (Json.dumpsText (Json.obj members))))
        updatedAt := now } := by
  have htoken : (MessageContent.json (Json.obj members)).Fits env ↔ isMessageToken
      (env.fernet.encrypt key stamp (Json.dumpsText (Json.obj members))) = true := fits_iff
  refine Rewritten.of_token htoken ?_ ?_ ?_
  · rw [messageFormat, htype]
    exact inspectJson_v2JsonEnvelope hvalid
  · intro hfits
    rw [decryptMessageStorage, htype]
    refine bind_eq_ok.mpr ⟨_, rfl, bind_eq_ok.mpr ⟨Json.obj members, ?_, rfl⟩⟩
    rw [decryptJson_v2JsonEnvelope hvalid, if_pos hfits, decryptV2Token_encrypt hkey]
    exact loadDecrypted_dumpsText hwell
  · rw [Message.SameColumns, htype]
    constructor
    · intro hsame
      exact (congrArg Message.updatedAt hsame).symm
    · intro hnow
      subst hnow
      rfl

theorem writeMessageContent_rewritten (htarget : (env.ring.masterKey target).isSome = true)
    (hbody : forall body, message.contentJson = some body -> body.WellFormed)
    (h : decryptMessageStorage env message = Except.ok content) :
    exists row, writeMessageContent env target stamp now message content = Except.ok row ∧
      Rewritten env target now message content row := by
  rcases Option.isSome_iff_exists.mp htarget with ⟨master, hmaster⟩
  have hkey : messageKey env target "ENCRYPTION_FAILED"
      = Except.ok (env.deriveMessageKey master) := messageKey_eq_ok.mpr ⟨master, hmaster, rfl⟩
  have hvalid := env.ring.keyIds_valid target htarget
  cases htype : message.contentType with
  | text =>
      rcases decryptMessageStorage_text h htype with ⟨value, rfl⟩
      refine ⟨_, ?_, rewritten_text stamp hvalid hkey htype⟩
      unfold writeMessageContent encryptMessageWithKey
      rw [hkey]
      rfl
  | json =>
      rcases decryptMessageStorage_json hbody h htype with ⟨members, rfl, hwell⟩
      refine ⟨_, ?_, rewritten_json stamp hwell hvalid hkey htype⟩
      unfold writeMessageContent encryptJsonPayloadWithKey
      rw [hkey]
      rfl

/-!
# Messages that are migrated as they should be
-/

/-- The body becomes an envelope with the same content, and nothing else changes. -/
structure Message.Migrated (env : MessageCrypto) (target : String) (rotateV2 : Bool)
    (message changed : Message) : Prop where
  envelope : exists keyId, messageFormat changed = MessageStorageFormat.v2 keyId ∧
    (rotateV2 = true -> keyId = target)
  content : exists content, decryptMessageStorage env message = Except.ok content ∧
    decryptMessageStorage env changed = Except.ok content
  columns : message.SameColumns changed

/--
The message has a body that can be read; if it is encrypted again, the new token can be read
too, and the row happens to have been updated at the time of the migration.
-/
def Message.Movable (env : MessageCrypto) (target : String) (rotateV2 : Bool) (now : Instant)
    (message : Message) : Prop :=
  exists content, decryptMessageStorage env message = Except.ok content ∧
    (keepsEnvelope target rotateV2 (messageFormat message) = false ->
      content.Fits env ∧ message.updatedAt = now)

theorem Message.sameColumns_refl (message : Message) : message.SameColumns message := by
  unfold Message.SameColumns
  split
  · rfl
  · rfl

theorem keepsEnvelope_eq_true {format : MessageStorageFormat} :
    keepsEnvelope target rotateV2 format = true ↔
      exists keyId, format = MessageStorageFormat.v2 keyId ∧
        (rotateV2 = true -> keyId = target) := by
  cases format with
  | v2 keyId => cases rotateV2 <;> simp [keepsEnvelope]
  | _ => simp [keepsEnvelope]

theorem messageChange_of_keeps
    (h : keepsEnvelope target rotateV2 (messageFormat message) = true) :
    messageChange env target stamp now rotateV2 message =
      Except.ok { row := message, count := MigrationCount.unchanged } := by
  rcases keepsEnvelope_eq_true.mp h with ⟨keyId, hformat, _⟩
  unfold messageChange
  dsimp only
  rw [if_pos h, hformat]
  rfl

theorem messageChange_of_rewritten {row : Message}
    (hkeeps : keepsEnvelope target rotateV2 (messageFormat message) = false)
    (hread : decryptMessageStorage env message = Except.ok content)
    (hwrite : writeMessageContent env target stamp now message content = Except.ok row) :
    messageChange env target stamp now rotateV2 message =
      Except.ok { row := row, count := MigrationCount.reencrypted } := by
  unfold messageChange
  dsimp only
  rw [hkeeps, hread, bne_iff_ne.mpr (messageFormat_of_decrypt hread)]
  show Except.bind (Except.mapError _ (writeMessageContent _ _ _ _ _ content)) _ = _
  rw [hwrite]
  rfl

/-- A row without a body is not accepted. -/
theorem messageFormat_of_change {change : MessageChange}
    (h : messageChange env target stamp now rotateV2 message = Except.ok change) :
    messageFormat message ≠ MessageStorageFormat.unknown := by
  rcases bind_eq_ok.mp h with ⟨_, hknown, _⟩
  exact bne_iff_ne.mp (require_eq_ok.mp hknown)

theorem migrated_iff (stamp : Bytes) (htarget : (env.ring.masterKey target).isSome = true)
    (hbody : forall body, message.contentJson = some body -> body.WellFormed) :
    (exists change, messageChange env target stamp now rotateV2 message = Except.ok change ∧
      message.Migrated env target rotateV2 change.row) ↔
      message.Movable env target rotateV2 now := by
  constructor
  · intro h
    rcases h with ⟨change, hchange, hmigrated⟩
    rcases hmigrated.content with ⟨content, hread, _⟩
    refine ⟨content, hread, ?_⟩
    intro hkeeps
    rcases writeMessageContent_rewritten htarget hbody hread with ⟨row, hwrite, hrow⟩
    have hsame := messageChange_of_rewritten hkeeps hread hwrite
    rw [hchange] at hsame
    rw [Except.ok.inj hsame] at hmigrated
    rcases hmigrated.envelope with ⟨keyId, hformat, _⟩
    refine ⟨hrow.fits ?_, hrow.columns.mp hmigrated.columns⟩
    rw [hformat]
    exact nofun
  · intro h
    rcases h with ⟨content, hread, hmoves⟩
    cases hkeeps : keepsEnvelope target rotateV2 (messageFormat message) with
    | true =>
        exact ⟨_, messageChange_of_keeps hkeeps, keepsEnvelope_eq_true.mp hkeeps,
          ⟨content, hread, hread⟩, message.sameColumns_refl⟩
    | false =>
        rcases hmoves hkeeps with ⟨hfits, hnow⟩
        rcases writeMessageContent_rewritten htarget hbody hread with ⟨row, hwrite, hrow⟩
        rcases hrow.readable hfits with ⟨hformat, hreadable⟩
        exact ⟨_, messageChange_of_rewritten hkeeps hread hwrite, ⟨target, hformat, fun _ => rfl⟩,
          ⟨content, hread, hreadable⟩, hrow.columns.mpr hnow⟩

end

end MessagingSystem
