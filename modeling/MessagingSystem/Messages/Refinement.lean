import MessagingSystem.Messages.MessageLog

/-!
# Committed states are message logs

The view `Database.messageLog` maps the tables to the abstract log.  A commit of a
request and a committed change of another service either leave the view alone, or
open a channel, or append the entry that the request has checked.  The checks are
made on earlier databases; the channel lock carries them over to the commit.
-/

namespace MessagingSystem

open Foundation
open Script

variable {db db' : Database} {id c : Uuid}

def Message.entry (message : Message) : LogEntry where
  channelId := message.channelId
  senderUserId := message.senderUserId
  seqId := message.seqId
  clientMsgId := message.clientMsgId
  replyToMessageId := message.replyToMessageId
  replyToSeqId := message.replyToSeqId

/-- The outbox rows of type `message` that announce a message. -/
def Database.messageRows (db : Database) (id : Uuid) : List Outbox :=
  db.outbox.filter (fun row => row.type = "message" ∧ row.aggregateId = id)

def Database.messageLog (db : Database) : MessageLog where
  entries id := (db.messages.get id).map Message.entry
  lastSeqId c := (db.channels.get c).map Channel.lastSeqId
  announced id := (db.messageRows id).length

theorem messageLog_entries {entry : LogEntry} :
    db.messageLog.entries id = some entry ↔
      exists m, db.messages.get id = some m ∧ m.entry = entry :=
  Option.map_eq_some_iff

theorem messageLog_lastSeqId {last : Nat} :
    db.messageLog.lastSeqId c = some last ↔
      exists channel, db.channels.get c = some channel ∧ channel.lastSeqId = last :=
  Option.map_eq_some_iff

theorem messageRows_append {rows : List Outbox}
    (houtbox : db'.outbox = db.outbox ++ rows)
    (hrows : forall row, row ∈ rows -> row.type ≠ "message") (id : Uuid) :
    db'.messageRows id = db.messageRows id := by
  have hnone : rows.filter (fun row => row.type = "message" ∧ row.aggregateId = id) = [] := by
    apply List.filter_eq_nil_iff.mpr
    intro row hrow heq
    exact hrows row hrow (of_decide_eq_true heq).1
  unfold Database.messageRows
  rw [houtbox, List.filter_append, hnone, List.append_nil]

/-- Changes that the view does not see. -/
theorem messageLog_eq {rows : List Outbox}
    (hmessages : forall id, (db'.messages.get id).map Message.entry
      = (db.messages.get id).map Message.entry)
    (hchannels : forall c, (db'.channels.get c).map Channel.lastSeqId
      = (db.channels.get c).map Channel.lastSeqId)
    (houtbox : db'.outbox = db.outbox ++ rows)
    (hrows : forall row, row ∈ rows -> row.type ≠ "message") :
    db'.messageLog = db.messageLog := by
  apply MessageLog.ext
  · exact funext hmessages
  · exact funext hchannels
  · funext id
    show (db'.messageRows id).length = (db.messageRows id).length
    rw [messageRows_append houtbox hrows id]

/-!
# Other services
-/

theorem Change.lastSeqId {env : Env} {mid : Database} {call : Call} {pairs : List (Uuid × Uuid)}
    (h : Change env db mid call pairs) :
    (forall c, (mid.channels.get c).map Channel.lastSeqId
      = (db.channels.get c).map Channel.lastSeqId) ∨
    exists c channel, db.channels.get c = none ∧ channel.lastSeqId = 0 ∧
      mid.channels = db.channels.set c (some channel) := by
  have hset : forall {c : Uuid} {channel channel' : Channel},
      db.channels.get c = some channel ->
      mid.channels = db.channels.set c (some channel') ->
      channel'.lastSeqId = channel.lastSeqId ->
      forall c', (mid.channels.get c').map Channel.lastSeqId
        = (db.channels.get c').map Channel.lastSeqId := by
    intro c channel channel' hget hchannels hseq c'
    rw [hchannels, Table.get_set]
    split
    · rename_i hc
      rw [hc, hget]
      exact congrArg some hseq
    · rfl
  cases h with
  | quiet _ _ hchannels =>
      refine Or.inl fun c => ?_
      rw [hchannels]
  | created c _ _ channel _ hfresh hchannels _ _ _ _ _ _ hseq =>
      exact Or.inr ⟨c, channel, hfresh, hseq, hchannels⟩
  | member _ c _ channel _ hchannel _ hchannels => exact Or.inl (hset hchannel hchannels rfl)
  | edited c _ _ channel _ hchannel _ hchannels => exact Or.inl (hset hchannel hchannels rfl)
  | switched _ c channel _ hchannel _ hchannels => exact Or.inl (hset hchannel hchannels rfl)

theorem type_ne_message {row : Outbox} (h : IsNotice row ∨ Announces db row) :
    row.type ≠ "message" := by
  rcases h with hnotice | hannounces
  · exact hnotice.1
  · rw [hannounces.1]
    decide

theorem Call.messageLog {env : Env} {call : Call}
    (h : call.apply env db = Except.ok db') :
    db'.messageLog = db.messageLog ∨ exists c, db.messageLog.lastSeqId c = none ∧
      db'.messageLog = db.messageLog.openChannel c := by
  rcases (Call.effect h).exists_change with ⟨mid, pairs, hframe, hchange, htouched⟩
  rcases hframe.outbox_of_touched htouched with ⟨rows, houtbox, hcalls⟩
  have hrows : forall row, row ∈ rows -> row.type ≠ "message" :=
    fun row hrow => type_ne_message (hcalls row hrow)
  have hmessages : forall id, (db'.messages.get id).map Message.entry
      = (db.messages.get id).map Message.entry := by
    intro id
    rw [htouched.messages, hframe.messages]
  rcases hchange.lastSeqId with hkept | ⟨c, channel, hfresh, hseq, hchannels⟩
  · refine Or.inl (messageLog_eq hmessages ?_ houtbox hrows)
    intro c
    rw [htouched.channels]
    exact hkept c
  · refine Or.inr ⟨c, ?_, ?_⟩
    · show (db.channels.get c).map Channel.lastSeqId = none
      rw [hfresh]
      rfl
    · apply MessageLog.ext
      · exact funext hmessages
      · funext c'
        show (db'.channels.get c').map Channel.lastSeqId = _
        rw [htouched.channels, hchannels]
        by_cases hc : c' = c
        · subst hc
          rw [Table.get_set_self, MessageLog.openChannel_lastSeqId_self]
          exact congrArg some hseq
        · rw [Table.get_set_ne _ hc, MessageLog.openChannel_lastSeqId_of_ne _ hc]
          rfl
      · funext id
        show (db'.messageRows id).length = (db.messageRows id).length
        rw [messageRows_append houtbox hrows id]

theorem OutsideAction.messageLog {action : OutsideAction}
    (h : action.run db = some db') :
    db'.messageLog = db.messageLog ∨ exists c, db.messageLog.lastSeqId c = none ∧
      db'.messageLog = db.messageLog.openChannel c := by
  cases action with
  | setUpload fileId upload =>
      cases h
      exact Or.inl rfl
  | channel action =>
      cases action with
      | putUser userId user =>
          cases h
          exact Or.inl rfl
      | call env request =>
          exact Call.messageLog (toOption_eq_some.mp h)

/-!
# Commits
-/

theorem BodyEffect.messageLog {r : MessageResult} (hr : BodyEffect r)
    (h : r.commit db = some db') : db'.messageLog = db.messageLog := by
  have hchange : forall (id : Uuid) (change : Message -> Message) (outbox : Outbox),
      (forall m, (change m).entry = m.entry) -> outbox.type = "message_updated" ->
      ((db.changeMessage id change).enqueue outbox).messageLog = db.messageLog := by
    intro id change outbox hentry htype
    have houtbox : ((db.changeMessage id change).enqueue outbox).outbox
        = db.outbox ++ [outbox] := rfl
    refine messageLog_eq ?_ (fun _ => rfl) houtbox ?_
    · intro i
      show ((db.messages.update id change).get i).map Message.entry = _
      rw [Table.get_update]
      split
      · rename_i hi
        rw [hi, Option.map_map]
        exact congrArg (fun f => Option.map f (db.messages.get id)) (funext hentry)
      · rfl
    · intro row hrow
      rw [List.mem_singleton.mp hrow, htype]
      decide
  cases hr with
  | existing | unchanged | forbidden =>
      cases h
      rfl
  | edited htype =>
      cases h
      exact hchange _ _ _ (fun _ => rfl) htype
  | deleted htype =>
      cases h
      exact hchange _ _ _ (fun _ => rfl) htype

theorem published_messageLog {message : Message} {outbox : Outbox} {record : AuditRecord}
    (htype : outbox.type = "message") (haggregate : outbox.aggregateId = id)
    (h : (MessageResult.published id message outbox record).commit db = some db') :
    db.messageLog.entries id = none ∧
      db'.messageLog = db.messageLog.append id message.entry := by
  rcases Option.ite_none_right_eq_some.mp h with ⟨hinsert, h⟩
  cases h
  simp only [insertable, Bool.and_eq_true] at hinsert
  rcases hinsert with ⟨⟨⟨hfresh, hchannel⟩, _⟩, _⟩
  have hnone : db.messages.get id = none := Option.isNone_iff_eq_none.mp hfresh
  have hentry : db.messageLog.entries id = none := by
    show (db.messages.get id).map Message.entry = none
    rw [hnone]
    rfl
  refine ⟨hentry, MessageLog.ext ?_ ?_ ?_⟩
  · funext i
    show ((db.messages.set id (some message)).get i).map Message.entry = _
    by_cases hi : i = id
    · subst hi
      rw [Table.get_set_self, MessageLog.append_entries_self]
      rfl
    · rw [Table.get_set_ne _ hi, MessageLog.append_entries_of_ne _ _ hi]
      rfl
  · funext c
    show ((db.channels.update message.channelId _).get c).map Channel.lastSeqId = _
    rw [Table.get_update]
    by_cases hc : c = message.channelId
    · subst hc
      rcases Option.isSome_iff_exists.mp hchannel with ⟨channel, hget⟩
      rw [if_pos rfl, hget]
      exact (MessageLog.append_lastSeqId_self _ id message.entry).symm
    · rw [if_neg hc]
      exact (@MessageLog.append_lastSeqId_of_ne c id message.entry db.messageLog hc).symm
  · funext i
    show ((db.outbox ++ [outbox]).filter (fun row =>
      row.type = "message" ∧ row.aggregateId = i)).length = _
    rw [List.filter_append, List.length_append]
    by_cases hi : i = id
    · subst hi
      simp [MessageLog.append, Database.messageLog, Database.messageRows, htype, haggregate]
    · have hne : id ≠ i := fun heq => hi heq.symm
      simp [MessageLog.append, Database.messageLog, Database.messageRows, haggregate, hi, hne]

/-!
# What the channel lock protects
-/

def keepsLog : RowLock -> Database -> Database -> Prop
  | RowLock.channel c, db, db' => MessageLog.SameChannel c db.messageLog db'.messageLog
  | RowLock.message _, _, _ => True

theorem keepsLog_of_eq (h : db'.messageLog = db.messageLog)
    (k : RowLock) : keepsLog k db db' := by
  cases k with
  | channel c =>
      show MessageLog.SameChannel c db.messageLog db'.messageLog
      rw [h]
      exact MessageLog.SameChannel.refl c _
  | message id => trivial

/-- A request either publishes to its channel, which it has locked, or changes bodies. -/
theorem MessageRequest.effect {req : MessageRequest} {seen : List Database}
    {r : MessageResult} (h : Returns req.script seen r) :
    BodyEffect r ∨ exists env c u request first rest channel,
      req = MessageRequest.publish env c u request ∧ seen = first :: rest ∧
        first.channels.get c = some channel ∧ PublishEffect c u request channel seen r := by
  cases req with
  | publish env c u request =>
      rcases publishMessage_returns h with ⟨first, rest, channel, hseen, hget, heffect⟩
      exact Or.inr ⟨env, c, u, request, first, rest, channel, rfl, hseen, hget, heffect⟩
  | publishConflict c u clientMsgId => exact Or.inl (publishConflict_returns h)
  | edit env c a id request => exact Or.inl (editMessage_returns h)
  | delete env c a id => exact Or.inl (deleteMessage_returns h)

theorem publish_acquired (env : MessageEnv) (c u : Uuid) (request : PublishMessageRequest)
    (first : Database) (rest : List Database) :
    (RowLock.channel c, LockMode.exclusive) ∈
      (publishMessage env c u request).acquired (first :: rest) :=
  List.mem_append_left _ List.mem_cons_self

theorem messageGuarantee : messageWorkload.Guarantee keepsLog := by
  refine ⟨?_, ?_, ?_, ?_⟩
  · intro k db
    exact keepsLog_of_eq rfl k
  · intro k a b d h1 h2
    cases k with
    | channel c => exact MessageLog.SameChannel.trans h1 h2
    | message id => trivial
  · intro k action db db' hrun
    rcases OutsideAction.messageLog hrun with heq | ⟨c, hnew, heq⟩
    · exact keepsLog_of_eq heq k
    · cases k with
      | channel c' =>
          show MessageLog.SameChannel c' db.messageLog db'.messageLog
          rw [heq]
          exact MessageLog.sameChannel_openChannel hnew
      | message id => trivial
  · intro k req seen r db db' hreturns hcommit hlock
    rcases MessageRequest.effect hreturns with
      hbody | ⟨env, c, u, request, first, rest, channel, hreq, hseen, _, heffect⟩
    · exact keepsLog_of_eq (hbody.messageLog hcommit) k
    · cases heffect with
      | forbidden record =>
          exact keepsLog_of_eq ((BodyEffect.forbidden record).messageLog hcommit) k
      | @existing id _ _ _ _ _ _ _ =>
          exact keepsLog_of_eq ((BodyEffect.existing id).messageLog hcommit) k
      | published hnew =>
          cases k with
          | message id => trivial
          | channel c' =>
              rcases published_messageLog hnew.outboxType hnew.outboxAggregate hcommit with
                ⟨hfresh, hlog⟩
              show MessageLog.SameChannel c' db.messageLog db'.messageLog
              rw [hlog]
              refine MessageLog.sameChannel_append hfresh ?_
              intro heq
              have hc : c' = c := heq.trans hnew.channelId
              apply hlock
              rw [hc, hreq, hseen]
              exact publish_acquired env c u request first rest

/-!
# The invariant of committed states
-/

/-- Everything a publication has seen agrees with the committed log of its channel. -/
theorem publish_sameChannel {env : MessageEnv} {u : Uuid} {request : PublishMessageRequest}
    {first : Database} {rest : List Database} (hstable : messageWorkload.Stable keepsLog
      ⟨MessageRequest.publish env c u request, first :: rest⟩ db) :
    forall d, d ∈ first :: rest ->
      MessageLog.SameChannel c first.messageLog d.messageLog ∧
        MessageLog.SameChannel c d.messageLog db.messageLog := by
  have hpairs := hstable (RowLock.channel c) LockMode.exclusive (first :: rest)
    HeldSince.here
  have hfirst := List.pairwise_cons.mp hpairs
  intro d hd
  constructor
  · rcases List.mem_cons.mp hd with heq | hrest
    · rw [heq]
      exact MessageLog.SameChannel.refl c _
    · exact hfirst.1 d (List.mem_append_left [db] hrest)
  · exact (List.pairwise_append.mp hpairs).2.2 d hd db List.mem_cons_self

theorem NewMessage.appendable {u : Uuid} {request : PublishMessageRequest} {channel : Channel}
    {first : Database} {rest : List Database} {message : Message} {outbox : Outbox}
    (hnew : NewMessage c u request channel (first :: rest) id message outbox)
    (hchannel : first.channels.get c = some channel) (hsame : forall d, d ∈ first :: rest ->
      MessageLog.SameChannel c first.messageLog d.messageLog ∧
        MessageLog.SameChannel c d.messageLog db.messageLog) (hok : db.messageLog.Ok)
    (hfresh : db.messageLog.entries id = none) : db.messageLog.Appendable id message.entry := by
  have hlast : first.messageLog.lastSeqId c = some channel.lastSeqId :=
    messageLog_lastSeqId.mpr ⟨channel, hchannel, rfl⟩
  have hseen : forall d, d ∈ first :: rest ->
      d.messageLog.lastSeqId c = some channel.lastSeqId :=
    fun d hd => ((hsame d hd).1 _ hlast).1
  have hentries : forall d, d ∈ first :: rest -> forall i e, e.channelId = c ->
      (d.messageLog.entries i = some e ↔ db.messageLog.entries i = some e) :=
    fun d hd => ((hsame d hd).2 _ (hseen d hd)).2
  have hdb : db.messageLog.lastSeqId c = some channel.lastSeqId :=
    ((hsame first List.mem_cons_self).2 _ hlast).1
  refine ⟨hfresh, ?_, ?_, ?_⟩
  · refine ⟨channel.lastSeqId, ?_, hnew.seqId⟩
    show db.messageLog.lastSeqId message.channelId = _
    rw [hnew.channelId]
    exact hdb
  · intro k hk i e he hc hu hclient
    have hkey : request.clientMsgId = some k := hnew.clientMsgId.symm.trans hk
    rcases hnew.isNew k hkey with ⟨d, hd, hnone⟩
    have hcc : e.channelId = c := hc.trans hnew.channelId
    rcases messageLog_entries.mp ((hentries d hd i e hcc).mpr he) with ⟨m, hm, hme⟩
    subst hme
    exact hnone i m hm ⟨hcc, hu.trans hnew.senderUserId, hclient⟩
  · rcases hnew.reply with ⟨target, htarget, hid, hseq⟩
    constructor
    · show message.replyToMessageId.isSome = message.replyToSeqId.isSome
      rw [hid, hseq, Option.isSome_map, Option.isSome_map]
    · intro i n hi hn
      have hi' : target.map Prod.fst = some i := hid.symm.trans hi
      have hn' : target.map Prod.snd = some n := hseq.symm.trans hn
      rcases Option.map_eq_some_iff.mp hi' with ⟨pair, hpair, hfst⟩
      rw [hpair] at hn'
      injection hn' with hsnd
      subst hfst hsnd
      rcases htarget pair.1 pair.2 hpair with ⟨d, m, hd, hm, hmc, hmn⟩
      have hentry : db.messageLog.entries pair.1 = some m.entry :=
        (hentries d hd pair.1 m.entry hmc).mp (messageLog_entries.mpr ⟨m, hm, rfl⟩)
      have hbound := (hok.sequence c _ hdb m.seqId).mp ⟨pair.1, m.entry, hentry, hmc, rfl⟩
      refine ⟨m.entry, hentry, hmc.trans hnew.channelId.symm, hmn, ?_⟩
      show pair.2 < message.seqId
      rw [hnew.seqId, ← hmn]
      omega

theorem messageLogOk_of_reachable {store : Store Database MessageRequest}
    (h : messageWorkload.system.Reachable store) : store.committed.messageLog.Ok := by
  refine Workload.invariant (I := fun db => db.messageLog.Ok) messageGuarantee ?_ ?_ ?_ h
  · intro db hstart
    cases hstart
    refine ⟨?_, ?_, ?_, ?_, ?_, ?_⟩
    · intro c last hlast
      cases hlast
    · intro i i' e e' he
      cases he
    · intro i e he
      cases he
    · intro i
      rfl
    · intro i i' e e' k he
      cases he
    · intro i e he
      cases he
  · intro action db db' hok hrun
    rcases OutsideAction.messageLog hrun with heq | ⟨c, hnew, heq⟩
    · rw [heq]
      exact hok
    · rw [heq]
      exact hok.openChannel hnew
  · intro s r db db' hok hstable hreturns hcommit
    rcases MessageRequest.effect hreturns with
      hbody | ⟨env, c, u, request, first, rest, channel, hreq, hseen, hget, heffect⟩
    · rw [hbody.messageLog hcommit]
      exact hok
    · cases heffect with
      | forbidden record =>
          rw [(BodyEffect.forbidden record).messageLog hcommit]
          exact hok
      | @existing id _ _ _ _ _ _ _ =>
          rw [(BodyEffect.existing id).messageLog hcommit]
          exact hok
      | published hnew =>
          rcases published_messageLog hnew.outboxType hnew.outboxAggregate hcommit with
            ⟨hfresh, hlog⟩
          cases s with
          | mk req seen =>
              cases hreq
              cases hseen
              rw [hlog]
              exact hok.append
                (hnew.appendable hget (publish_sameChannel hstable) hok hfresh)

end MessagingSystem
