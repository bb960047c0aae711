import MessagingSystem.Messages.Refinement

/-!
# Retried publications

A client that has not seen the response sends its request again under the same
client id.  The retry finds the first message under the channel lock, returns it,
and writes nothing.
-/

namespace MessagingSystem

open Foundation
open Script

theorem eq_singleton_of_nodup {l : List α} {a : α} (hnodup : l.Nodup) (ha : a ∈ l)
    (hall : forall x, x ∈ l -> x = a) : l = [a] := by
  cases l with
  | nil => cases ha
  | cons x rest =>
      have hx := hall x List.mem_cons_self
      cases rest with
      | nil => rw [hx]
      | cons y rest =>
          have hy := hall y (List.mem_cons_of_mem x List.mem_cons_self)
          rw [hx, hy] at hnodup
          exact absurd List.mem_cons_self (List.nodup_cons.mp hnodup).1

theorem messageByClientId_of_unique {db : Database} {c u k id : Uuid} {m : Message}
    (hget : db.messages.get id = some m) (hkey : m.HasClientId c u k)
    (hunique : forall i e, db.messages.get i = some e -> e.HasClientId c u k -> i = id) :
    messageByClientId db c u k = Except.ok (some (id, m)) := by
  have hmatch : forall e : Message, (e.channelId == c && e.senderUserId == u &&
      e.clientMsgId == some k) = true ↔ e.HasClientId c u k := by
    intro e
    simp [Message.HasClientId, and_assoc]
  have hrows : db.messages.rows.filter (fun r => r.2.channelId == c &&
      r.2.senderUserId == u && r.2.clientMsgId == some k) = [(id, m)] := by
    apply eq_singleton_of_nodup
    · refine List.Nodup.filter _ ((Table.rows_pairwise db.messages).imp ?_)
      intro a b hne heq
      exact hne (congrArg Prod.fst heq)
    · exact List.mem_filter.mpr ⟨Table.mem_rows.mpr hget, (hmatch m).mpr hkey⟩
    · intro r hr
      rcases List.mem_filter.mp hr with ⟨hrow, hr⟩
      have hr1 := Table.mem_rows.mp hrow
      have hid := hunique r.1 r.2 hr1 ((hmatch r.2).mp hr)
      rw [hid, hget] at hr1
      exact Prod.ext hid (Option.some.inj hr1).symm
  unfold messageByClientId
  rw [hrows]
  rfl

/-- A permitted publication stops at its third statement when it finds its message. -/
theorem publishMessage_existing {env : MessageEnv} {c u k id : Uuid} {m : Message}
    {req : PublishMessageRequest} {first second third : Database} {channel : Channel}
    (hchannel : first.channels.get c = some channel) (hlive : channel.deletedAt = none)
    (hmay : mayPublish (second.getMembership c u) req = true)
    (hclient : req.clientMsgId = some k)
    (hfound : messageByClientId third c u k = Except.ok (some (id, m))) :
    Returns (publishMessage env c u req) [first, second, third]
      (MessageResult.existing id) := by
  have hopen : liveChannel first c = Except.ok channel := by
    simp only [liveChannel, bind_eq_ok, orFail_eq_ok, require_eq_ok, pure_eq_ok]
    exact ⟨channel, hchannel, (), by rw [hlive]; rfl, rfl⟩
  have hlooked : Returns (existingMessage c u req.clientMsgId) [third] (some (id, m)) := by
    rw [hclient]
    exact returns_bind.mpr ⟨[third], [], third, rfl, returns_read.mpr rfl,
      returns_lift.mpr ⟨rfl, hfound⟩⟩
  have hpermitted : Returns (publishPermitted env c u channel req) [third]
      (MessageResult.existing id) :=
    returns_bind.mpr ⟨[third], [], some (id, m), rfl, hlooked, returns_pure.mpr ⟨rfl, rfl⟩⟩
  refine returns_bind.mpr ⟨[first], [second, third], first, rfl, returns_lock.mpr rfl, ?_⟩
  refine returns_bind.mpr ⟨[], [second, third], channel, rfl,
    returns_lift.mpr ⟨rfl, hopen⟩, ?_⟩
  refine returns_bind.mpr ⟨[second], [third], second, rfl, returns_read.mpr rfl, ?_⟩
  rw [if_pos hmay]
  exact hpermitted

section

variable {env : MessageEnv} {c u k id : Uuid} {m : Message}
variable {req : PublishMessageRequest} {first db : Database} {rest : List Database}

/-- The messages of a client id are the same in all databases a publication sees. -/
theorem seen_clientId (hsame : forall d, d ∈ first :: rest ->
      MessageLog.SameChannel c first.messageLog d.messageLog ∧
        MessageLog.SameChannel c d.messageLog db.messageLog)
    (hopen : (first.channels.get c).isSome = true) {d : Database} (hd : d ∈ first :: rest)
    (i : Uuid) :
    (exists e, d.messages.get i = some e ∧ e.HasClientId c u k) ↔
      exists e, db.messages.get i = some e ∧ e.HasClientId c u k := by
  rcases Option.isSome_iff_exists.mp hopen with ⟨channel, hchannel⟩
  have hlast : first.messageLog.lastSeqId c = some channel.lastSeqId :=
    messageLog_lastSeqId.mpr ⟨channel, hchannel, rfl⟩
  have hdlast := ((hsame d hd).1 _ hlast).1
  have hentries := ((hsame d hd).2 _ hdlast).2
  have htransfer : forall a b : Database,
      (forall e, e.channelId = c -> a.messageLog.entries i = some e ->
        b.messageLog.entries i = some e) ->
      (exists e, a.messages.get i = some e ∧ e.HasClientId c u k) ->
        exists e, b.messages.get i = some e ∧ e.HasClientId c u k := by
    intro a b hab hexists
    rcases hexists with ⟨e, he, hc, hu, hk⟩
    rcases messageLog_entries.mp
      (hab e.entry hc (messageLog_entries.mpr ⟨e, he, rfl⟩)) with ⟨e', he', heq⟩
    refine ⟨e', he', ?_, ?_, ?_⟩
    · exact (congrArg LogEntry.channelId heq).trans hc
    · exact (congrArg LogEntry.senderUserId heq).trans hu
    · exact (congrArg LogEntry.clientMsgId heq).trans hk
  constructor
  · exact htransfer d db (fun e hc => (hentries i e hc).mp)
  · exact htransfer db d (fun e hc => (hentries i e hc).mpr)

theorem clientId_unique (hok : db.messageLog.Ok) (hget : db.messages.get id = some m)
    (hkey : m.HasClientId c u k) {i : Uuid} {e : Message}
    (he : db.messages.get i = some e) (hekey : e.HasClientId c u k) : i = id :=
  hok.clientId i id e.entry m.entry k (messageLog_entries.mpr ⟨e, he, rfl⟩)
    (messageLog_entries.mpr ⟨m, hget, rfl⟩) (hekey.1.trans hkey.1.symm)
    (hekey.2.1.trans hkey.2.1.symm) hekey.2.2 hkey.2.2

end

/--
In every committed state the messages form a log, and a publication under a client
id that is already in the log returns the message it finds there, or is refused.
-/
theorem committed_messages_form_log (store : Store Database MessageRequest)
    (hstore : messageWorkload.system.Reachable store) :
    store.committed.messageLog.Ok ∧
    forall t env c u req seen k id m,
      store.sessions.get t = some ⟨MessageRequest.publish env c u req, seen⟩ ->
      req.clientMsgId = some k -> store.committed.messages.get id = some m ->
      m.HasClientId c u k ->
      (forall r, Returns (publishMessage env c u req) seen r ->
        r = MessageResult.existing id ∨ exists record, r = MessageResult.forbidden record) ∧
      (forall first second third channel, seen = [first, second, third] ->
        first.channels.get c = some channel -> channel.deletedAt = none ->
        mayPublish (second.getMembership c u) req = true ->
        Returns (publishMessage env c u req) seen (MessageResult.existing id)) ∧
      (MessageResult.existing id).commit store.committed = some store.committed := by
  have hok := messageLogOk_of_reachable hstore
  refine ⟨hok, ?_⟩
  intro t env c u req seen k id m hsession hclient hget hkey
  have hstable := (Workload.storeOk_of_reachable messageGuarantee hstore).stable t _ hsession
  refine ⟨?_, ?_, rfl⟩
  · intro r hreturns
    rcases publishMessage_returns hreturns with
      ⟨first, rest, channel, hseen, hchannel, heffect⟩
    subst hseen
    have hclientId : forall d, d ∈ first :: rest -> forall i,
        (exists e, d.messages.get i = some e ∧ e.HasClientId c u k) ↔
          exists e, store.committed.messages.get i = some e ∧ e.HasClientId c u k :=
      fun d hd => seen_clientId (publish_sameChannel hstable) (by rw [hchannel]; rfl) hd
    cases heffect with
    | forbidden record => exact Or.inr ⟨record, rfl⟩
    | @existing i e k' d hd hclient' hfound hfoundKey =>
        rw [hclient] at hclient'
        cases hclient'
        rcases (hclientId d hd i).mp ⟨e, hfound, hfoundKey⟩ with ⟨e', he', hekey'⟩
        rw [clientId_unique hok hget hkey he' hekey']
        exact Or.inl rfl
    | published hnew =>
        rcases hnew.isNew k hclient with ⟨d, hd, hnone⟩
        rcases (hclientId d hd id).mpr ⟨m, hget, hkey⟩ with ⟨e, he, hekey⟩
        exact absurd hekey (hnone id e he)
  · intro first second third channel hseen hchannel hlive hmay
    subst hseen
    have hclientId : forall i,
        (exists e, third.messages.get i = some e ∧ e.HasClientId c u k) ↔
          exists e, store.committed.messages.get i = some e ∧ e.HasClientId c u k :=
      seen_clientId (publish_sameChannel hstable) (by rw [hchannel]; rfl) (by simp)
    rcases (hclientId id).mpr ⟨m, hget, hkey⟩ with ⟨e, he, hekey⟩
    refine publishMessage_existing hchannel hlive hmay hclient
      (messageByClientId_of_unique he hekey ?_)
    intro i e' he' hekey'
    rcases (hclientId i).mp ⟨e', he', hekey'⟩ with ⟨e'', he'', hekey''⟩
    exact clientId_unique hok hget hkey he'' hekey''

/-!
# A retry that overlaps the first attempt
-/

def sampleMessageEnv (seed : Nat) : MessageEnv where
  toEnv := sampleEnv seed
  encryptMessage := fun text => Except.ok ("sealed:" ++ text)
  encryptJsonPayload := fun json => Except.ok json
  transactionTime := 0

def greeting : PublishMessageRequest where
  contentText := some "hello"
  contentJson := none
  replyToMessageId := none
  replyToSeqId := none
  attachments := none
  clientMsgId := some 77

def overlappingRetry : List (StoreLabel MessageRequest OutsideAction) :=
  [StoreLabel.outside (OutsideAction.channel (ChannelAction.putUser 1 (sampleUser "ann"))),
    StoreLabel.outside (OutsideAction.channel (ChannelAction.call (sampleEnv 100)
      (Call.createChannel 1 (sampleChannelRequest "General")))),
    StoreLabel.begin 0 (MessageRequest.publish (sampleMessageEnv 200) 100 1 greeting),
    StoreLabel.begin 1 (MessageRequest.publish (sampleMessageEnv 300) 100 1 greeting)] ++
  List.replicate 5 (StoreLabel.statement 0) ++ [StoreLabel.commit 0] ++
  List.replicate 3 (StoreLabel.statement 1)

/-- The second attempt has run three statements and the first message is committed. -/
def retryStopped (store : Store Database MessageRequest) : Bool :=
  match store.sessions.get 1, store.committed.messages.get 200 with
  | some ⟨MessageRequest.publish _ c u req, [first, second, _]⟩, some m =>
      req.clientMsgId == some 77 && m.channelId == c && m.senderUserId == u &&
        m.clientMsgId == some 77 && (liveChannel first c).toOption.isSome &&
        mayPublish (second.getMembership c u) req
  | _, _ => false

theorem overlappingRetry_returns_first :
    exists store env c u req seen, messageWorkload.system.Reachable store ∧
      store.sessions.get 1 = some ⟨MessageRequest.publish env c u req, seen⟩ ∧
      Returns (publishMessage env c u req) seen (MessageResult.existing 200) ∧
      store.committed.messageLog.Ok := by
  have hrun : (overlappingRetry.foldlM messageWorkload.next
      ⟨Database.empty, Table.empty⟩).map retryStopped = some true := by
    decide +kernel
  rcases Workload.exists_reachable_of_run hrun rfl with ⟨store, hreach, hview⟩
  unfold retryStopped at hview
  split at hview
  · rename_i env c u req first second third m hsession hmessage
    simp only [Bool.and_eq_true, beq_iff_eq] at hview
    rcases hview with ⟨⟨⟨⟨⟨hclient, hc⟩, hu⟩, hk⟩, hlive⟩, hmay⟩
    refine ⟨store, env, c, u, req, [first, second, third], hreach, hsession, ?_,
      (committed_messages_form_log store hreach).1⟩
    cases hopen : liveChannel first c with
    | error e =>
        rw [hopen] at hlive
        cases hlive
    | ok channel =>
        rcases liveChannel_ok hopen with ⟨hget, hnotDeleted⟩
        exact ((committed_messages_form_log store hreach).2 1 env c u req _ 77 200 m hsession
          hclient hmessage ⟨hc, hu, hk⟩).2.1 first second third channel rfl hget hnotDeleted
          hmay
  · cases hview

end MessagingSystem
