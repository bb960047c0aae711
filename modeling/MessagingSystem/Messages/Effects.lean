import MessagingSystem.Messages.Service

/-!
# What a message request writes

One lemma per part of a request says what it has checked and in which of the
databases it saw; the effect of a whole request is assembled from them.
-/

namespace MessagingSystem

open Foundation
open Script

variable {seen : List Database} {env : MessageEnv} {r : MessageResult} {c u id : Uuid}
  {db d : Database} {found : Option (Uuid × Message)} {clientMsgId : Option Uuid}

theorem scalarOneOrNone_ok {rows : List row} {found : Option row}
    (h : scalarOneOrNone rows = Except.ok found) : rows = found.toList := by
  unfold scalarOneOrNone at h
  split at h
  · cases h
    rfl
  · cases h
    rfl
  · cases h

theorem liveChannel_ok {channel : Channel} (h : liveChannel db c = Except.ok channel) :
    db.channels.get c = some channel ∧ channel.deletedAt = none := by
  simp only [liveChannel, bind_eq_ok, orFail_eq_ok, require_eq_ok, pure_eq_ok] at h
  rcases h with ⟨found, hfound, _, hlive, heq⟩
  subst heq
  exact ⟨hfound, Option.isNone_iff_eq_none.mp hlive⟩

/-- The message was sent by the user to the channel under this client id. -/
def Message.HasClientId (message : Message) (c u k : Uuid) : Prop :=
  message.channelId = c ∧ message.senderUserId = u ∧ message.clientMsgId = some k

theorem messageByClientId_ok {k : Uuid} (h : messageByClientId db c u k = Except.ok found) :
    forall id m, (db.messages.get id = some m ∧ m.HasClientId c u k) ↔
      found = some (id, m) := by
  have hrows := scalarOneOrNone_ok h
  intro id m
  have hmem : (id, m) ∈ db.messages.rows.filter (fun r =>
      r.2.channelId == c && r.2.senderUserId == u && r.2.clientMsgId == some k) ↔
      (id, m) ∈ found.toList := by
    rw [hrows]
  rw [List.mem_filter, Table.mem_rows, Option.mem_toList] at hmem
  rw [← Option.mem_def, ← hmem]
  simp [Message.HasClientId, and_assoc]

theorem existingMessage_returns (h : Returns (existingMessage c u clientMsgId) seen found) :
    (clientMsgId = none ∧ found = none) ∨
      exists k d, clientMsgId = some k ∧ seen = [d] ∧
        messageByClientId d c u k = Except.ok found := by
  cases clientMsgId with
  | none =>
      rcases returns_pure.mp h with ⟨_, hfound⟩
      exact Or.inl ⟨rfl, hfound.symm⟩
  | some k =>
      simp only [existingMessage, returns_bind, returns_read, returns_lift] at h
      rcases h with ⟨first, rest, d, hseen, hfirst, hrest, hfound⟩
      subst hfirst hrest
      exact Or.inr ⟨k, d, rfl, by simpa using hseen, hfound⟩

/-- The rows that a reply refers to, in a database the request has seen. -/
def ReplyTarget (c : Uuid) (seen : List Database) (target : Option (Uuid × Nat)) : Prop :=
  forall id seqId, target = some (id, seqId) -> exists d m, d ∈ seen ∧
    d.messages.get id = some m ∧ m.channelId = c ∧ m.seqId = seqId

theorem replyTargetById_ok {seqId : Option Nat} {target : Uuid × Nat}
    (h : replyTargetById d c id seqId = Except.ok target) :
    exists m, d.messages.get target.1 = some m ∧ m.channelId = c ∧ m.seqId = target.2 := by
  simp only [replyTargetById, bind_eq_ok, orFail_eq_ok, require_eq_ok, pure_eq_ok,
    Bool.and_eq_true, beq_iff_eq] at h
  rcases h with ⟨m, hget, _, hchannel, _, _, heq⟩
  subst heq
  exact ⟨m, hget, hchannel.1, rfl⟩

theorem replyTargetBySeqId_ok {seqId : Nat} {target : Uuid × Nat}
    (h : replyTargetBySeqId d c seqId = Except.ok target) :
    exists m, d.messages.get target.1 = some m ∧ m.channelId = c ∧ m.seqId = target.2 := by
  simp only [replyTargetBySeqId, bind_eq_ok, orFail_eq_ok, pure_eq_ok] at h
  rcases h with ⟨found, hfound, r, hr, heq⟩
  subst heq hr
  have hmem : r ∈ d.messages.rows.filter (fun r =>
      r.2.channelId == c && r.2.seqId == seqId && r.2.deletedAt.isNone) := by
    rw [scalarOneOrNone_ok hfound]
    exact List.mem_singleton_self r
  rcases List.mem_filter.mp hmem with ⟨hrow, hmatch⟩
  simp only [Bool.and_eq_true, beq_iff_eq] at hmatch
  exact ⟨r.2, Table.mem_rows.mp hrow, hmatch.1.1, rfl⟩

theorem resolveReplyTarget_returns {messageId : Option Uuid} {seqId : Option Nat}
    {target : Option (Uuid × Nat)}
    (h : Returns (resolveReplyTarget c messageId seqId) seen target) :
    ReplyTarget c seen target := by
  intro id n htarget
  have hread : forall check : Database -> Except Failure (Uuid × Nat),
      (forall d t, check d = Except.ok t ->
        exists m, d.messages.get t.1 = some m ∧ m.channelId = c ∧ m.seqId = t.2) ->
      Returns (do
        let db ← Script.read
        let target ← Script.lift (check db)
        pure (some target) : MessageScript (Option (Uuid × Nat))) seen target ->
      exists d m, d ∈ seen ∧ d.messages.get id = some m ∧ m.channelId = c ∧ m.seqId = n := by
    intro check hcheck hreturns
    simp only [returns_bind, returns_read, returns_lift, returns_pure] at hreturns
    rcases hreturns with
      ⟨first, rest, d, hseen, hfirst, first', rest', t, _, ⟨_, ht⟩, _, heq⟩
    rcases hcheck d t ht with ⟨m, hget, hchannel, hseq⟩
    rw [htarget] at heq
    cases heq
    refine ⟨d, m, ?_, hget, hchannel, hseq⟩
    rw [hseen, hfirst]
    exact List.mem_append_left rest List.mem_cons_self
  cases messageId with
  | none =>
      cases seqId with
      | none =>
          rcases returns_pure.mp h with ⟨_, heq⟩
          rw [htarget] at heq
          cases heq
      | some k => exact hread _ (fun d t => replyTargetBySeqId_ok) h
  | some i => exact hread _ (fun d t => replyTargetById_ok) h

theorem announceMessage_returns {message : Message} {payload : MessageSnapshot -> MessagePayload}
    {outbox : Outbox} (h : Returns (announceMessage env id message payload) seen outbox) :
    outbox.aggregateId = id ∧ exists snapshot, outbox.type = (payload snapshot).type := by
  simp only [announceMessage, returns_bind, returns_lift, enqueueMessageOutbox, bind_eq_ok,
    pure_eq_ok] at h
  rcases h with ⟨_, _, d, _, _, _, _, d', _, _, _, state, _, heq⟩
  subst heq
  exact ⟨rfl, _, rfl⟩

/-!
# Publishing
-/

variable {req : PublishMessageRequest}

/-- What `publish_message` guarantees about the rows it writes. -/
structure NewMessage (c u : Uuid) (req : PublishMessageRequest) (channel : Channel)
    (seen : List Database) (id : Uuid) (message : Message) (outbox : Outbox) : Prop where
  channelId : message.channelId = c
  senderUserId : message.senderUserId = u
  seqId : message.seqId = channel.lastSeqId + 1
  clientMsgId : message.clientMsgId = req.clientMsgId
  isNew : forall k, req.clientMsgId = some k -> exists d, d ∈ seen ∧
    forall i m, d.messages.get i = some m -> ¬m.HasClientId c u k
  reply : exists target, ReplyTarget c seen target ∧
    message.replyToMessageId = target.map Prod.fst ∧
    message.replyToSeqId = target.map Prod.snd
  outboxType : outbox.type = "message"
  outboxAggregate : outbox.aggregateId = id

inductive PublishEffect (c u : Uuid) (req : PublishMessageRequest) (channel : Channel)
    (seen : List Database) : MessageResult -> Prop where
  | forbidden (record : AuditRecord) :
      PublishEffect c u req channel seen (MessageResult.forbidden record)
  | existing {id : Uuid} {m : Message} {k : Uuid} {d : Database} (hseen : d ∈ seen)
      (hclient : req.clientMsgId = some k) (hget : d.messages.get id = some m)
      (hkey : m.HasClientId c u k) :
      PublishEffect c u req channel seen (MessageResult.existing id)
  | published {id : Uuid} {message : Message} {outbox : Outbox} {record : AuditRecord}
      (hnew : NewMessage c u req channel seen id message outbox) :
      PublishEffect c u req channel seen
        (MessageResult.published id message outbox record)

theorem ReplyTarget.mono {seen seen' : List Database} {target : Option (Uuid × Nat)}
    (h : ReplyTarget c seen target) (hsub : forall d, d ∈ seen -> d ∈ seen') :
    ReplyTarget c seen' target := by
  intro id n htarget
  rcases h id n htarget with ⟨d, m, hd, hrest⟩
  exact ⟨d, m, hsub d hd, hrest⟩

theorem publishPermitted_returns {channel : Channel}
    (h : Returns (publishPermitted env c u channel req) seen r) :
    PublishEffect c u req channel seen r := by
  unfold publishPermitted at h
  rcases returns_bind.mp h with ⟨looked, rest, found, hseen, hfound, hrest⟩
  have hlooked := existingMessage_returns hfound
  cases found with
  | some row =>
      rcases returns_pure.mp hrest with ⟨_, heq⟩
      subst heq
      rcases hlooked with ⟨_, hnone⟩ | ⟨k, d, hclient, hd, hlookup⟩
      · cases hnone
      · rcases (messageByClientId_ok hlookup row.1 row.2).mpr rfl with ⟨hget, hkey⟩
        refine PublishEffect.existing (d := d) ?_ hclient hget hkey
        rw [hseen, hd]
        exact List.mem_append_left rest List.mem_cons_self
  | none =>
      simp only [publishNew, returns_bind, returns_lift, returns_pure] at hrest
      rcases hrest with ⟨s1, s2, attachments, h1, _, s3, s4, target, h2, htarget, s5, s6,
        encrypted, h3, _, s7, s8, outbox, h4, houtbox, _, heq⟩
      subst heq
      rcases announceMessage_returns houtbox with ⟨haggregate, snapshot, htype⟩
      refine PublishEffect.published ⟨rfl, rfl, rfl, rfl, ?_, ?_, htype, haggregate⟩
      · intro k hk
        rcases hlooked with ⟨hnone, _⟩ | ⟨k', d, hclient, hd, hlookup⟩
        · rw [hk] at hnone
          cases hnone
        · rw [hk] at hclient
          cases hclient
          refine ⟨d, ?_, ?_⟩
          · rw [hseen, hd]
            exact List.mem_append_left rest List.mem_cons_self
          · intro i m hget hkey
            cases (messageByClientId_ok hlookup i m).mp ⟨hget, hkey⟩
      · refine ⟨target, (resolveReplyTarget_returns htarget).mono ?_, rfl, rfl⟩
        intro d hd
        rw [hseen, h1, h2]
        simp [hd]

/-- Everything a publication sees comes after the channel lock it starts with. -/
theorem publishMessage_returns (h : Returns (publishMessage env c u req) seen r) :
    exists first rest channel, seen = first :: rest ∧
      first.channels.get c = some channel ∧ PublishEffect c u req channel seen r := by
  unfold publishMessage at h
  simp only [returns_bind, returns_lock, returns_lift, returns_read] at h
  rcases h with ⟨s1, s2, first, hseen, h1, s3, s4, channel, h2, ⟨h3, hchannel⟩, s5, s6, d,
    h4, h5, hrest⟩
  subst h1 h3 h5
  have hall : seen = first :: d :: s6 := by
    rw [hseen, h2, h4]
    rfl
  refine ⟨first, d :: s6, channel, hall, (liveChannel_ok hchannel).1, ?_⟩
  rw [hall]
  split at hrest
  · have heffect := publishPermitted_returns hrest
    have hsub : forall x, x ∈ s6 -> x ∈ first :: d :: s6 := by
      intro x hx
      exact List.mem_cons_of_mem _ (List.mem_cons_of_mem _ hx)
    cases heffect with
    | forbidden record => exact PublishEffect.forbidden record
    | existing hx hclient hget hkey =>
        exact PublishEffect.existing (hsub _ hx) hclient hget hkey
    | published hnew =>
        rcases hnew.reply with ⟨target, htarget, hreply⟩
        refine PublishEffect.published { hnew with isNew := ?_, reply := ?_ }
        · intro k hk
          rcases hnew.isNew k hk with ⟨x, hx, hnone⟩
          exact ⟨x, hsub x hx, hnone⟩
        · exact ⟨target, htarget.mono hsub, hreply⟩
  · rcases returns_pure.mp hrest with ⟨_, heq⟩
    subst heq
    exact PublishEffect.forbidden _

/-!
# The other requests

They return a message, change the body of one, or commit a security event.
-/

inductive BodyEffect : MessageResult -> Prop where
  | existing (id : Uuid) : BodyEffect (MessageResult.existing id)
  | unchanged (id : Uuid) : BodyEffect (MessageResult.unchanged id)
  | forbidden (record : AuditRecord) : BodyEffect (MessageResult.forbidden record)
  | edited {id : Uuid} {contentType : ContentType} {contentText : Option String}
      {contentJson : Option Json} {editedAt updatedAt : Instant} {outbox : Outbox}
      (htype : outbox.type = "message_updated") :
      BodyEffect (MessageResult.edited id contentType contentText contentJson editedAt
        updatedAt outbox)
  | deleted {id : Uuid} {deletedAt : Instant} {outbox : Outbox}
      (htype : outbox.type = "message_updated") :
      BodyEffect (MessageResult.deleted id deletedAt outbox)

theorem editMessage_returns {a : Uuid} {req : MessagePatchRequest}
    (h : Returns (editMessage env c a id req) seen r) : BodyEffect r := by
  unfold editMessage at h
  rcases returns_bind.mp h with ⟨_, rest, access, _, _, hrest⟩
  cases access with
  | error record =>
      rcases returns_pure.mp hrest with ⟨_, heq⟩
      subst heq
      exact BodyEffect.forbidden record
  | ok role =>
      simp only [editPermitted, returns_bind, returns_lift, returns_pure] at hrest
      rcases hrest with ⟨_, _, message, _, _, _, _, _, _, _, _, _, encrypted, _, _, _, _,
        outbox, _, houtbox, _, heq⟩
      subst heq
      rcases announceMessage_returns houtbox with ⟨_, snapshot, htype⟩
      exact BodyEffect.edited htype

theorem deleteMessage_returns {a : Uuid} (h : Returns (deleteMessage env c a id) seen r) :
    BodyEffect r := by
  unfold deleteMessage at h
  rcases returns_bind.mp h with ⟨_, rest, access, _, _, hrest⟩
  cases access with
  | error record =>
      rcases returns_pure.mp hrest with ⟨_, heq⟩
      subst heq
      exact BodyEffect.forbidden record
  | ok role =>
      simp only [deletePermitted, returns_bind, returns_lift] at hrest
      rcases hrest with ⟨_, _, message, _, _, _, _, _, _, _, hrest⟩
      split at hrest
      · rcases returns_pure.mp hrest with ⟨_, heq⟩
        subst heq
        exact BodyEffect.unchanged id
      · rcases returns_bind.mp hrest with ⟨_, _, outbox, _, houtbox, hend⟩
        rcases returns_pure.mp hend with ⟨_, heq⟩
        subst heq
        rcases announceMessage_returns houtbox with ⟨_, snapshot, htype⟩
        exact BodyEffect.deleted htype

theorem publishConflict_returns (h : Returns (publishConflict c u clientMsgId) seen r) :
    BodyEffect r := by
  cases clientMsgId with
  | none => exact absurd h returns_fail
  | some k =>
      simp only [publishConflict, returns_bind, returns_lift, returns_pure] at h
      rcases h with ⟨_, _, _, _, _, _, _, _, _, _, _, _, found, _, _, _, heq⟩
      subst heq
      exact BodyEffect.existing found.1

end MessagingSystem
