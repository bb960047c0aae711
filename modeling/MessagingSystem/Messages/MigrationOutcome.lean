import MessagingSystem.Messages.Migration
import MessagingSystem.Messages.Retries

/-!
# What the migration of messages leaves behind

A run handles every message once or stops at a message that cannot be changed.  From the
change of one message it follows which tables come through as they should.
-/

namespace MessagingSystem

open Foundation

/-!
# Whole runs
-/

section

variable {env : MessageCrypto} {inputs : MigrationInputs} {target : String} {rotateV2 : Bool}
  {start : Table Uuid Message} {done : List Uuid} {s : MessageMigration} {id : Uuid}
  {message : Message} {targetKeyId : Option String} {batchSize : Nat}

/-- The change of a message that is there at the start. -/
def ChangedTo (env : MessageCrypto) (inputs : MigrationInputs) (target : String)
    (rotateV2 : Bool) (start : Table Uuid Message) (id : Uuid)
    (result : Except MigrationFault MessageChange) : Prop :=
  exists message, start.get id = some message ∧
    messageChange env target (inputs.stamp id) (inputs.now id) rotateV2 message = result

/-- The messages that are done are changed, and the others are as they were. -/
structure Handled (env : MessageCrypto) (inputs : MigrationInputs) (target : String)
    (rotateV2 : Bool) (start : Table Uuid Message) (done : List Uuid)
    (s : MessageMigration) : Prop where
  changed : forall id message, id ∈ done -> start.get id = some message ->
    exists change, messageChange env target (inputs.stamp id) (inputs.now id) rotateV2 message
      = Except.ok change ∧ s.session.get id = some change.row
  untouched : forall id, id ∉ done -> s.session.get id = start.get id
  absent : forall id, start.get id = none -> s.session.get id = none
  counts : (forall id change, ChangedTo env inputs target rotateV2 start id (Except.ok change) ->
    change.count = MigrationCount.unchanged) -> s.counts.reencrypted = 0

def SomeRowFails (env : MessageCrypto) (inputs : MigrationInputs) (target : String)
    (rotateV2 : Bool) (start : Table Uuid Message) (fault : MigrationFault)
    (_ : MessageMigration) : Prop :=
  exists id, ChangedTo env inputs target rotateV2 start id (Except.error fault)

theorem handled_opened :
    Handled env inputs target rotateV2 start [] (MessageMigration.opened start) :=
  ⟨fun _ _ hmem => absurd hmem List.not_mem_nil, fun _ _ => rfl, fun _ h => h, fun _ => rfl⟩

theorem Handled.perm (h : Handled env inputs target rotateV2 start done s) :
    s.session.keys.Perm start.keys := by
  refine (List.perm_ext_iff_of_nodup s.session.nodup_keys start.nodup_keys).mpr ?_
  intro id
  rw [Table.mem_keys, Table.mem_keys]
  cases hstart : start.get id with
  | none => rw [h.absent id hstart]
  | some message =>
      by_cases hmem : id ∈ done
      · rcases h.changed id message hmem hstart with ⟨change, _, hrow⟩
        rw [hrow]
        exact ⟨fun _ => rfl, fun _ => rfl⟩
      · rw [h.untouched id hmem, hstart]

theorem Handled.skip (h : Handled env inputs target rotateV2 start done s)
    (hnone : s.session.get id = none) (hid : id ∉ done) :
    Handled env inputs target rotateV2 start (done ++ [id]) s := by
  have hstart : start.get id = none := by
    rw [← h.untouched id hid]
    exact hnone
  refine ⟨?_, ?_, h.absent, h.counts⟩
  · intro id' message hmem hmessage
    rcases List.mem_append.mp hmem with hdone | hnew
    · exact h.changed id' message hdone hmessage
    · rw [List.mem_singleton.mp hnew, hstart] at hmessage
      cases hmessage
  · intro id' hmem
    exact h.untouched id' (fun hdone => hmem (List.mem_append_left _ hdone))

theorem Handled.change {change : MessageChange}
    (h : Handled env inputs target rotateV2 start done s) (hstart : start.get id = some message)
    (hchange : messageChange env target (inputs.stamp id) (inputs.now id) rotateV2 message
      = Except.ok change) :
    Handled env inputs target rotateV2 start (done ++ [id])
      { s with
        session := s.session.set id (some change.row)
        counts := s.counts.add change.count } := by
  refine ⟨?_, ?_, ?_, ?_⟩
  · intro id' message' hmem hmessage
    by_cases hid : id' = id
    · subst hid
      rw [hstart] at hmessage
      cases hmessage
      exact ⟨change, hchange, Table.get_set_self _ _ _⟩
    · show exists other : MessageChange, _ ∧
        (s.session.set id (some change.row)).get id' = some other.row
      rw [Table.get_set_ne _ hid]
      refine h.changed id' message' ?_ hmessage
      rcases List.mem_append.mp hmem with hdone | hnew
      · exact hdone
      · exact absurd (List.mem_singleton.mp hnew) hid
  · intro id' hmem
    have hid : id' ≠ id :=
      fun heq => hmem (List.mem_append_right _ (List.mem_singleton.mpr heq))
    show (s.session.set id (some change.row)).get id' = _
    rw [Table.get_set_ne _ hid]
    exact h.untouched id' (fun hdone => hmem (List.mem_append_left _ hdone))
  · intro id' hnone
    have hid : id' ≠ id := by
      intro heq
      rw [heq, hstart] at hnone
      cases hnone
    show (s.session.set id (some change.row)).get id' = _
    rw [Table.get_set_ne _ hid]
    exact h.absent id' hnone
  · intro hkept
    show (s.counts.add change.count).reencrypted = 0
    rw [hkept id change ⟨message, hstart, hchange⟩]
    exact h.counts hkept

/-- The step: one more message is handled, or it stops the command. -/
theorem migrateMessage_spec (hid : id ∉ done) :
    Triple (Handled env inputs target rotateV2 start done)
      (migrateMessage env inputs target rotateV2 id)
      (fun _ => Handled env inputs target rotateV2 start (done ++ [id]))
      (SomeRowFails env inputs target rotateV2 start) := by
  refine Triple.get ?_
  intro s hs
  cases hget : s.session.get id with
  | none =>
      apply Triple.pure
      intro t ht
      rw [ht]
      exact hs.skip hget hid
  | some message =>
      have hstart : start.get id = some message := by
        rw [← hs.untouched id hid]
        exact hget
      refine Triple.attempting ?_ ?_
      · intro change hchange
        refine Triple.modified ?_
        intro t ht
        rw [ht]
        exact hs.change hstart hchange
      · intro fault t hfault _
        exact ⟨id, message, hstart, hfault⟩

theorem migrateMessageBatch_spec {page : List Uuid} (hnodup : (done ++ page).Nodup) :
    Triple (fun s => s.committed = s.session ∧ Handled env inputs target rotateV2 start done s)
      (migrateMessageBatch env inputs target rotateV2 page)
      (fun _ s => s.committed = s.session ∧
        Handled env inputs target rotateV2 start (done ++ page) s)
      (SomeRowFails env inputs target rotateV2 start) := by
  have hloop : Triple (Handled env inputs target rotateV2 start done)
      (page.forM (migrateMessage env inputs target rotateV2))
      (fun _ => Handled env inputs target rotateV2 start (done ++ page))
      (SomeRowFails env inputs target rotateV2 start) :=
    Triple.forM hnodup (fun _ _ _ hid => migrateMessage_spec hid)
  refine Triple.bind _ (hloop.conseq (fun _ h => h.2) (fun _ _ h => h) (fun _ _ h => h)) ?_
  intro _
  refine Triple.modified ?_
  intro s hs
  exact ⟨rfl, hs.changed, hs.untouched, hs.absent, hs.counts⟩

/-- A whole run: every message is handled and committed, or one of them stops the command. -/
theorem migrateMessages_spec (htarget : env.ring.requireTargetKey targetKeyId = Except.ok target)
    (hsize : 0 < batchSize) :
    Triple (fun s => s = MessageMigration.opened start)
      (migrateMessages env inputs batchSize targetKeyId rotateV2)
      (fun counts s => counts = s.counts ∧ s.committed = s.session ∧
        Handled env inputs target rotateV2 start start.keys s)
      (SomeRowFails env inputs target rotateV2 start) := by
  refine Triple.attempt htarget (Triple.get ?_)
  intro s hs
  have hinjective : Function.Injective (BitVec.toNat : Uuid -> Nat) :=
    fun _ _ h => BitVec.eq_of_toNat_eq h
  have horder := orderByAsc_perm BitVec.toNat start.keys
  refine Triple.bind (fun _ s => s.committed = s.session ∧
    Handled env inputs target rotateV2 start (orderByAsc BitVec.toNat start.keys) s) ?_ ?_
  · refine (keysetLoop_spec (I := fun done s => s.committed = s.session ∧
      Handled env inputs target rotateV2 start done s) hinjective hsize start.nodup_keys
      (fun _ _ h => h.2.perm) ?_ ?_).conseq ?_ (fun _ _ h => h) (fun _ _ h => h)
    · intro done page rest hall
      apply migrateMessageBatch_spec
      have hnodup := horder.nodup_iff.mpr start.nodup_keys
      rw [hall, ← List.append_assoc] at hnodup
      exact (List.nodup_append.mp hnodup).1
    · rw [hs]
      exact Nat.lt_succ_self _
    · intro t ht
      rw [ht, hs]
      exact ⟨rfl, handled_opened⟩
  · intro _
    refine Triple.get ?_
    intro t ht
    apply Triple.pure
    intro u hu
    rw [hu]
    refine ⟨rfl, ht.1, ?_, ?_, ht.2.absent, ht.2.counts⟩
    · intro id message hmem
      exact ht.2.changed id message (horder.mem_iff.mpr hmem)
    · intro id hmem
      exact ht.2.untouched id (fun hmem' => hmem (horder.mem_iff.mp hmem'))

theorem migrateMessages_cases (inputs : MigrationInputs) (rotateV2 : Bool)
    (start : Table Uuid Message)
    (htarget : env.ring.requireTargetKey targetKeyId = Except.ok target) (hsize : 0 < batchSize) :
    (exists s, migrateMessages env inputs batchSize targetKeyId rotateV2
        (MessageMigration.opened start) = EStateM.Result.ok s.counts s ∧
      s.committed = s.session ∧ Handled env inputs target rotateV2 start start.keys s) ∨
    (exists fault s, migrateMessages env inputs batchSize targetKeyId rotateV2
        (MessageMigration.opened start) = EStateM.Result.error fault s ∧
      SomeRowFails env inputs target rotateV2 start fault s) := by
  have hspec : Triple (fun s => s = MessageMigration.opened start)
      (migrateMessages env inputs batchSize targetKeyId rotateV2)
      (fun counts s => counts = s.counts ∧ s.committed = s.session ∧
        Handled env inputs target rotateV2 start start.keys s)
      (SomeRowFails env inputs target rotateV2 start) := migrateMessages_spec htarget hsize
  cases hresult : migrateMessages env inputs batchSize targetKeyId rotateV2
      (MessageMigration.opened start) with
  | ok counts s =>
      rcases hspec.of_ok rfl hresult with ⟨hcounts, hdone⟩
      exact Or.inl ⟨s, by rw [hcounts], hdone⟩
  | error fault s => exact Or.inr ⟨fault, s, rfl, hspec.of_error rfl hresult⟩

/-- Where every body is a fitting envelope, a run changes nothing. -/
theorem migrateMessages_settled
    (htarget : env.ring.requireTargetKey targetKeyId = Except.ok target) (hsize : 0 < batchSize)
    (hkept : forall id message, start.get id = some message ->
      keepsEnvelope target rotateV2 (messageFormat message) = true) :
    exists counts s, migrateMessages env inputs batchSize targetKeyId rotateV2
        (MessageMigration.opened start) = EStateM.Result.ok counts s ∧
      counts.reencrypted = 0 ∧ forall id, s.committed.get id = start.get id := by
  have hchange : forall id result, ChangedTo env inputs target rotateV2 start id result ->
      exists message, start.get id = some message ∧
        Except.ok { row := message, count := MigrationCount.unchanged } = result := by
    intro id result h
    rcases h with ⟨message, hmessage, hresult⟩
    rw [messageChange_of_keeps (hkept id message hmessage)] at hresult
    exact ⟨message, hmessage, hresult⟩
  rcases migrateMessages_cases inputs rotateV2 start htarget hsize with
    ⟨s, hrun, hcommitted, hdone⟩ | ⟨fault, s, _, id, hfails⟩
  · refine ⟨s.counts, s, hrun, ?_, ?_⟩
    · apply hdone.counts
      intro id change h
      rcases hchange id _ h with ⟨_, _, hok⟩
      cases hok
      rfl
    · intro id
      rw [hcommitted]
      cases hget : start.get id with
      | none => exact hdone.absent id hget
      | some message =>
          have hmem : id ∈ start.keys := Table.mem_keys.mpr (by rw [hget]; rfl)
          rcases hdone.changed id message hmem hget with ⟨change, hok, hrow⟩
          rcases hchange id _ ⟨message, hget, hok⟩ with ⟨message', hget', hsame⟩
          cases hsame
          rw [hrow, ← hget, hget']
  · rcases hchange id _ hfails with ⟨_, _, hok⟩
    cases hok

/-!
# Which tables are migrated as they should be
-/

def Message.hasBody (message : Message) : Bool :=
  match message.contentType with
  | ContentType.text => message.contentText.isSome
  | ContentType.json => message.contentJson.isSome

/--
The command completes.  Every body becomes an envelope with the same content, everything else
stays as it was, and the command finds nothing to do when it is started again.
-/
def MigratesFaithfully (env : MessageCrypto) (inputs : MigrationInputs) (batchSize : Nat)
    (targetKeyId : Option String) (target : String) (rotateV2 : Bool)
    (messages : Table Uuid Message) : Prop :=
  exists counts s, migrateMessages env inputs batchSize targetKeyId rotateV2
      (MessageMigration.opened messages) = EStateM.Result.ok counts s ∧
    (forall id, (s.committed.get id).isSome = (messages.get id).isSome) ∧
    (forall id message, messages.get id = some message ->
      exists changed, s.committed.get id = some changed ∧
        (message.hasBody = true -> message.Migrated env target rotateV2 changed) ∧
        (message.hasBody = false -> changed = message)) ∧
    (forall inputs', exists counts' s', migrateMessages env inputs' batchSize targetKeyId
        rotateV2 (MessageMigration.opened s.committed) = EStateM.Result.ok counts' s' ∧
      counts'.reencrypted = 0 ∧ forall id, s'.committed.get id = s.committed.get id)

theorem Message.hasBody_of_format (h : messageFormat message ≠ MessageStorageFormat.unknown) :
    message.hasBody = true := by
  unfold messageFormat at h
  unfold Message.hasBody
  split
  · rename_i htype
    rw [htype] at h
    cases hbody : message.contentText with
    | some body => rfl
    | none =>
        rw [hbody] at h
        exact absurd rfl h
  · rename_i htype
    rw [htype] at h
    cases hbody : message.contentJson with
    | some body => rfl
    | none =>
        rw [hbody] at h
        exact absurd rfl h

theorem KeyRing.isSome_of_requireTargetKey {ring : KeyRing} {target : String}
    (h : ring.requireTargetKey targetKeyId = Except.ok target) :
    (ring.masterKey target).isSome = true := by
  rcases bind_eq_ok.mp h with ⟨_, hconfigured, h⟩
  rcases bind_eq_ok.mp h with ⟨_, _, h⟩
  cases h
  exact require_eq_ok.mp hconfigured

/-- The last step of the run, with every message committed. -/
theorem Handled.migrated (h : Handled env inputs target rotateV2 start start.keys s)
    (htarget : (env.ring.masterKey target).isSome = true)
    (hwell : forall id message body, start.get id = some message ->
      message.contentJson = some body -> body.WellFormed)
    (hmoves : forall id message, start.get id = some message ->
      message.Movable env target rotateV2 (inputs.now id)) (hget : start.get id = some message) :
    exists changed, s.session.get id = some changed ∧
      message.Migrated env target rotateV2 changed := by
  rcases (migrated_iff (inputs.stamp id) htarget (hwell id message · hget)).mpr
    (hmoves id message hget) with ⟨change, hchange, hmigrated⟩
  have hmem : id ∈ start.keys := Table.mem_keys.mpr (by rw [hget]; rfl)
  rcases h.changed id message hmem hget with ⟨change', hchange', hrow⟩
  rw [hchange] at hchange'
  cases hchange'
  exact ⟨change.row, hrow, hmigrated⟩

theorem messages_migrated_iff {targetKeyId : Option String} {batchSize : Nat}
    {messages : Table Uuid Message}
    (htarget : env.ring.requireTargetKey targetKeyId = Except.ok target)
    (hsize : 0 < batchSize)
    (hwell : forall id message body, messages.get id = some message ->
      message.contentJson = some body -> body.WellFormed) :
    MigratesFaithfully env inputs batchSize targetKeyId target rotateV2 messages ↔
      forall id message, messages.get id = some message ->
        message.Movable env target rotateV2 (inputs.now id) := by
  have hmaster := KeyRing.isSome_of_requireTargetKey htarget
  have hcases := migrateMessages_cases inputs rotateV2 messages htarget hsize
  constructor
  · intro h id message hget
    rcases h with ⟨counts, s, hok, _, hrows, _⟩
    rw [hok] at hcases
    rcases hcases with ⟨s', hsame, hcommitted, hdone⟩ | ⟨_, _, hfails, _⟩
    · cases hsame
      have hmem : id ∈ messages.keys := Table.mem_keys.mpr (by rw [hget]; rfl)
      rcases hdone.changed id message hmem hget with ⟨change, hchange, hrow⟩
      rcases hrows id message hget with ⟨changed, hchanged, hmigrated, _⟩
      rw [hcommitted, hrow] at hchanged
      cases hchanged
      have hbody := Message.hasBody_of_format (messageFormat_of_change hchange)
      exact (migrated_iff (inputs.stamp id) hmaster (hwell id message · hget)).mp
        ⟨change, hchange, hmigrated hbody⟩
    · cases hfails
  · intro hmoves
    rcases hcases with ⟨s, hrun, hcommitted, hdone⟩ | ⟨_, _, _, id, message, hget, hfails⟩
    · have hmigrated : forall id message, messages.get id = some message ->
          exists changed, s.committed.get id = some changed ∧
            message.Migrated env target rotateV2 changed := by
        intro id message hget
        rw [hcommitted]
        exact hdone.migrated hmaster hwell hmoves hget
      have hsame : forall id, (s.committed.get id).isSome = (messages.get id).isSome := by
        intro id
        cases hget : messages.get id with
        | none => rw [hcommitted, hdone.absent id hget]
        | some message =>
            rcases hmigrated id message hget with ⟨changed, hchanged, _⟩
            rw [hchanged]
            rfl
      refine ⟨s.counts, s, hrun, hsame, ?_, ?_⟩
      · intro id message hget
        rcases hmigrated id message hget with ⟨changed, hchanged, hrow⟩
        refine ⟨changed, hchanged, fun _ => hrow, ?_⟩
        intro hnone
        rcases hrow.content with ⟨content, hread, _⟩
        rw [Message.hasBody_of_format (messageFormat_of_decrypt hread)] at hnone
        cases hnone
      · intro inputs'
        refine migrateMessages_settled htarget hsize ?_
        intro id changed hchanged
        cases hget : messages.get id with
        | none =>
            rw [hcommitted, hdone.absent id hget] at hchanged
            cases hchanged
        | some message =>
            rcases hmigrated id message hget with ⟨changed', hchanged', hrow⟩
            rw [hchanged] at hchanged'
            cases hchanged'
            exact keepsEnvelope_eq_true.mpr hrow.envelope
    · rcases (migrated_iff (inputs.stamp id) hmaster (hwell id message · hget)).mpr
        (hmoves id message hget) with ⟨change, hchange, _⟩
      rw [hfails] at hchange
      cases hchange

end

/-!
# A deleted message stops the command
-/

/-- The encryption functions of `core.encryption` under the active key. -/
def encryptingEnv (crypto : MessageCrypto) (stamp : Bytes) (seed : Nat) : MessageEnv where
  toEnv := sampleEnv seed
  encryptMessage := fun text => encryptMessageWithKey crypto stamp text crypto.ring.activeKeyId
  encryptJsonPayload := fun payload =>
    encryptJsonPayloadWithKey crypto stamp payload crypto.ring.activeKeyId
  transactionTime := 0

def deletionHistory : List (StoreLabel MessageRequest OutsideAction) :=
  [StoreLabel.outside (OutsideAction.channel (ChannelAction.putUser 1 (sampleUser "ann"))),
    StoreLabel.outside (OutsideAction.channel (ChannelAction.call (sampleEnv 100)
      (Call.createChannel 1 (sampleChannelRequest "General")))),
    StoreLabel.begin 0
      (MessageRequest.publish (encryptingEnv sampleMessageCrypto [] 200) 100 1 greeting)] ++
  List.replicate 5 (StoreLabel.statement 0) ++
  [StoreLabel.commit 0,
    StoreLabel.begin 1
      (MessageRequest.delete (encryptingEnv sampleMessageCrypto [] 300) 100 1 200)] ++
  List.replicate 5 (StoreLabel.statement 1) ++ [StoreLabel.commit 1]

theorem deleted_message_stops_migration :
    exists store : Store Database MessageRequest, messageWorkload.system.Reachable store ∧
      forall inputs batchSize rotateV2, 0 < batchSize ->
        ¬ MigratesFaithfully sampleMessageCrypto inputs batchSize none "k1" rotateV2
          store.committed.messages := by
  have hrun : (deletionHistory.foldlM messageWorkload.next
      ⟨Database.empty, Table.empty⟩).map (fun store =>
        (store.committed.messages.get 200).map messageFormat)
      = some (some MessageStorageFormat.unknown) := by
    decide +kernel
  rcases Workload.exists_reachable_of_run hrun rfl with ⟨store, hreach, hview⟩
  rcases Option.map_eq_some_iff.mp hview with ⟨message, hget, hformat⟩
  refine ⟨store, hreach, ?_⟩
  intro inputs batchSize rotateV2 hsize h
  rcases h with ⟨counts, s, hok, _⟩
  have htarget : sampleMessageCrypto.ring.requireTargetKey none = Except.ok "k1" := rfl
  rcases migrateMessages_cases inputs rotateV2 store.committed.messages htarget hsize with
    ⟨s', _, _, hdone⟩ | ⟨_, _, hfails, _⟩
  · have hmem : 200 ∈ store.committed.messages.keys := Table.mem_keys.mpr (by rw [hget]; rfl)
    rcases hdone.changed 200 message hmem hget with ⟨change, hchange, _⟩
    exact messageFormat_of_change hchange hformat
  · rw [hfails] at hok
    cases hok

/-- A message in plain text that was updated at the time of the migration. -/
def plainMessage : Message :=
  newMessage (encryptingEnv sampleMessageCrypto [] 200) 100 1 greeting 1 none none
    (some "hello", none)

theorem plain_message_migrated :
    MigratesFaithfully sampleMessageCrypto ⟨fun _ => [], fun _ => ⟨0, by decide⟩⟩ 100 none "k1"
      true (Table.empty.set 1 (some plainMessage)) := by
  have hrows : forall (id : Uuid) message,
      (Table.empty.set 1 (some plainMessage)).get id = some message -> message = plainMessage := by
    refine Table.forall_get_set ?_ ?_
    · intro id message hget
      cases hget
    · intro message hnew
      exact (Option.some.inj hnew).symm
  refine (messages_migrated_iff rfl (by decide) ?_).mpr ?_
  · intro id message body hget hbody
    rw [hrows id message hget] at hbody
    cases hbody
  · intro id message hget
    rw [hrows id message hget]
    exact ⟨MessageContent.text "hello", rfl, fun _ => ⟨rfl, rfl⟩⟩

end MessagingSystem
