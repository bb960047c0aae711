import MessagingSystem.Messages.Effects

/-!
# The message log of a channel

What the message tables are for, apart from bodies: per channel an append-only log
whose entries are numbered without gaps, announced once, sent once under a client
id, and refer back to earlier entries only.  The abstract log has two operations,
opening a channel and appending an entry, and both keep this.
-/

namespace MessagingSystem

open Foundation

/-- The columns of a message that never change. -/
structure LogEntry where
  channelId : Uuid
  senderUserId : Uuid
  seqId : Nat
  clientMsgId : Option Uuid
  replyToMessageId : Option Uuid
  replyToSeqId : Option Nat

@[ext] structure MessageLog where
  entries : Uuid -> Option LogEntry
  lastSeqId : Uuid -> Option Nat
  announced : Uuid -> Nat

namespace MessageLog

variable {log : MessageLog} {c id i : Uuid} {entry e : LogEntry}

def openChannel (log : MessageLog) (c : Uuid) : MessageLog :=
  { log with lastSeqId := Function.update log.lastSeqId c (some 0) }

def append (log : MessageLog) (id : Uuid) (entry : LogEntry) : MessageLog where
  entries := Function.update log.entries id (some entry)
  lastSeqId := Function.update log.lastSeqId entry.channelId (some entry.seqId)
  announced := Function.update log.announced id (log.announced id + 1)

/-- A reply names an earlier entry of its channel by id and by number. -/
def RepliesTo (log : MessageLog) (entry : LogEntry) : Prop :=
  entry.replyToMessageId.isSome = entry.replyToSeqId.isSome ∧
    forall id seqId, entry.replyToMessageId = some id -> entry.replyToSeqId = some seqId ->
      exists target, log.entries id = some target ∧
        target.channelId = entry.channelId ∧ target.seqId = seqId ∧ seqId < entry.seqId

structure Ok (log : MessageLog) : Prop where
  /-- The numbers of a channel are exactly 1 to `last_seq_id`, ... -/
  sequence : forall c last, log.lastSeqId c = some last -> forall n,
    (exists id entry, log.entries id = some entry ∧ entry.channelId = c ∧ entry.seqId = n)
      ↔ 1 ≤ n ∧ n ≤ last
  /-- ... each once. -/
  once : forall id id' entry entry', log.entries id = some entry ->
    log.entries id' = some entry' -> entry.channelId = entry'.channelId ->
    entry.seqId = entry'.seqId -> id = id'
  hasChannel : forall id entry, log.entries id = some entry ->
    (log.lastSeqId entry.channelId).isSome = true
  announced : forall id, log.announced id = if (log.entries id).isSome then 1 else 0
  clientId : forall id id' entry entry' k, log.entries id = some entry ->
    log.entries id' = some entry' -> entry.channelId = entry'.channelId ->
    entry.senderUserId = entry'.senderUserId -> entry.clientMsgId = some k ->
    entry'.clientMsgId = some k -> id = id'
  reply : forall id entry, log.entries id = some entry -> log.RepliesTo entry

theorem openChannel_lastSeqId_self (log : MessageLog) (c : Uuid) :
    (log.openChannel c).lastSeqId c = some 0 :=
  Function.update_self c _ _

theorem openChannel_lastSeqId_of_ne (log : MessageLog) {c' : Uuid} (h : c' ≠ c) :
    (log.openChannel c).lastSeqId c' = log.lastSeqId c' :=
  Function.update_of_ne h _ _

theorem Ok.openChannel (h : log.Ok) (hnew : log.lastSeqId c = none) : (log.openChannel c).Ok := by
  have hchannel : forall id entry, log.entries id = some entry -> entry.channelId ≠ c := by
    intro id entry hentry heq
    have hsome := h.hasChannel id entry hentry
    rw [heq, hnew] at hsome
    cases hsome
  refine ⟨?_, h.once, ?_, h.announced, h.clientId, h.reply⟩
  · intro c' last hlast n
    by_cases hc : c' = c
    · subst hc
      rw [openChannel_lastSeqId_self] at hlast
      cases hlast
      constructor
      · intro hexists
        rcases hexists with ⟨id, entry, hentry, heq, _⟩
        exact absurd heq (hchannel id entry hentry)
      · intro hn
        omega
    · rw [openChannel_lastSeqId_of_ne log hc] at hlast
      exact h.sequence c' last hlast n
  · intro id entry hentry
    rw [openChannel_lastSeqId_of_ne log (hchannel id entry hentry)]
    exact h.hasChannel id entry hentry

/-- What has to be checked before an entry is appended. -/
structure Appendable (log : MessageLog) (id : Uuid) (entry : LogEntry) : Prop where
  fresh : log.entries id = none
  next : exists last, log.lastSeqId entry.channelId = some last ∧ entry.seqId = last + 1
  clientId : forall k, entry.clientMsgId = some k -> forall i e, log.entries i = some e ->
    e.channelId = entry.channelId -> e.senderUserId = entry.senderUserId ->
    e.clientMsgId ≠ some k
  reply : log.RepliesTo entry

theorem append_lastSeqId_self (log : MessageLog) (id : Uuid) (entry : LogEntry) :
    (log.append id entry).lastSeqId entry.channelId = some entry.seqId :=
  Function.update_self entry.channelId _ _

theorem append_lastSeqId_of_ne (log : MessageLog) (h : c ≠ entry.channelId) :
    (log.append id entry).lastSeqId c = log.lastSeqId c :=
  Function.update_of_ne h _ _

theorem append_entries_self (log : MessageLog) (id : Uuid) (entry : LogEntry) :
    (log.append id entry).entries id = some entry :=
  Function.update_self id _ _

theorem append_entries_of_ne (log : MessageLog) (entry : LogEntry) (h : i ≠ id) :
    (log.append id entry).entries i = log.entries i :=
  Function.update_of_ne h _ _

theorem append_entries_of_fresh (hfresh : log.entries id = none) (h : log.entries i = some e) :
    (log.append id entry).entries i = some e := by
  have hne : i ≠ id := by
    intro heq
    rw [heq, hfresh] at h
    cases h
  rw [append_entries_of_ne log entry hne, h]

/-- The entries after an append: the new one and the old ones. -/
theorem append_entries (h : (log.append id entry).entries i = some e) :
    (i = id ∧ e = entry) ∨ (i ≠ id ∧ log.entries i = some e) := by
  by_cases hi : i = id
  · subst hi
    rw [append_entries_self] at h
    cases h
    exact Or.inl ⟨rfl, rfl⟩
  · rw [append_entries_of_ne log entry hi] at h
    exact Or.inr ⟨hi, h⟩

theorem Appendable.seqId_lt (ha : log.Appendable id entry) (h : log.Ok)
    (hentry : log.entries i = some e) (hchannel : e.channelId = entry.channelId) :
    e.seqId < entry.seqId := by
  rcases ha.next with ⟨last, hlast, hseq⟩
  have hbound := (h.sequence _ _ hlast e.seqId).mp ⟨i, e, hentry, hchannel, rfl⟩
  omega

theorem RepliesTo.append (h : log.RepliesTo e) (hfresh : log.entries id = none) :
    (log.append id entry).RepliesTo e := by
  refine ⟨h.1, ?_⟩
  intro i seqId hid hseq
  rcases h.2 i seqId hid hseq with ⟨target, htarget, hrest⟩
  exact ⟨target, append_entries_of_fresh hfresh htarget, hrest⟩

theorem Ok.append (h : log.Ok) (ha : log.Appendable id entry) : (log.append id entry).Ok := by
  rcases ha.next with ⟨last, hlast, hseq⟩
  refine ⟨?_, ?_, ?_, ?_, ?_, ?_⟩
  · intro c last' hlast' n
    by_cases hc : c = entry.channelId
    · subst hc
      rw [append_lastSeqId_self] at hlast'
      cases hlast'
      constructor
      · intro hexists
        rcases hexists with ⟨i, e, he, hchannel, hn⟩
        rcases append_entries he with ⟨_, heq⟩ | ⟨_, hold⟩
        · subst heq
          omega
        · have hbound := (h.sequence _ _ hlast n).mp ⟨i, e, hold, hchannel, hn⟩
          omega
      · intro hn
        by_cases hnew : n = entry.seqId
        · exact ⟨id, entry, append_entries_self log id entry, rfl, hnew.symm⟩
        · rcases (h.sequence _ _ hlast n).mpr (by omega) with ⟨i, e, he, hrest⟩
          exact ⟨i, e, append_entries_of_fresh ha.fresh he, hrest⟩
    · rw [append_lastSeqId_of_ne log hc] at hlast'
      rw [← h.sequence c last' hlast' n]
      constructor
      · intro hexists
        rcases hexists with ⟨i, e, he, hchannel, hn⟩
        rcases append_entries he with ⟨_, heq⟩ | ⟨_, hold⟩
        · subst heq
          exact absurd hchannel.symm hc
        · exact ⟨i, e, hold, hchannel, hn⟩
      · intro hexists
        rcases hexists with ⟨i, e, he, hrest⟩
        exact ⟨i, e, append_entries_of_fresh ha.fresh he, hrest⟩
  · intro i i' e e' he he' hchannel hn
    rcases append_entries he with ⟨hi, heq⟩ | ⟨_, hold⟩
    · rcases append_entries he' with ⟨hi', _⟩ | ⟨_, hold'⟩
      · rw [hi, hi']
      · subst heq
        have hlt := ha.seqId_lt h hold' hchannel.symm
        omega
    · rcases append_entries he' with ⟨_, heq'⟩ | ⟨_, hold'⟩
      · subst heq'
        have hlt := ha.seqId_lt h hold hchannel
        omega
      · exact h.once i i' e e' hold hold' hchannel hn
  · intro i e he
    by_cases hc : e.channelId = entry.channelId
    · rw [hc, append_lastSeqId_self]
      rfl
    · rw [append_lastSeqId_of_ne log hc]
      rcases append_entries he with ⟨_, heq⟩ | ⟨_, hold⟩
      · subst heq
        exact absurd rfl hc
      · exact h.hasChannel i e hold
  · intro i
    by_cases hi : i = id
    · subst hi
      rw [append_entries_self]
      show Function.update log.announced i _ i = 1
      rw [Function.update_self, h.announced i, ha.fresh]
      rfl
    · rw [append_entries_of_ne log entry hi]
      show Function.update log.announced id _ i = _
      rw [Function.update_of_ne hi]
      exact h.announced i
  · intro i i' e e' k he he' hchannel hsender hk hk'
    rcases append_entries he with ⟨hi, heq⟩ | ⟨_, hold⟩
    · rcases append_entries he' with ⟨hi', _⟩ | ⟨_, hold'⟩
      · rw [hi, hi']
      · subst heq
        exact absurd hk' (ha.clientId k hk i' e' hold' hchannel.symm hsender.symm)
    · rcases append_entries he' with ⟨_, heq'⟩ | ⟨_, hold'⟩
      · subst heq'
        exact absurd hk (ha.clientId k hk' i e hold hchannel hsender)
      · exact h.clientId i i' e e' k hold hold' hchannel hsender hk hk'
  · intro i e he
    rcases append_entries he with ⟨_, heq⟩ | ⟨_, hold⟩
    · subst heq
      exact ha.reply.append ha.fresh
    · exact (h.reply i e hold).append ha.fresh

/-!
# The log of one channel
-/

/-- The two logs agree on a channel that exists in the first. -/
def SameChannel (c : Uuid) (log log' : MessageLog) : Prop :=
  forall last, log.lastSeqId c = some last -> log'.lastSeqId c = some last ∧
    forall id entry, entry.channelId = c ->
      (log.entries id = some entry ↔ log'.entries id = some entry)

theorem SameChannel.refl (c : Uuid) (log : MessageLog) : SameChannel c log log := by
  intro last hlast
  exact ⟨hlast, fun _ _ _ => Iff.rfl⟩

theorem SameChannel.trans {a b d : MessageLog} (h1 : SameChannel c a b) (h2 : SameChannel c b d) :
    SameChannel c a d := by
  intro last hlast
  rcases h1 last hlast with ⟨hmid, hentries1⟩
  rcases h2 last hmid with ⟨hend, hentries2⟩
  exact ⟨hend, fun id entry hc => (hentries1 id entry hc).trans (hentries2 id entry hc)⟩

theorem sameChannel_openChannel {c' : Uuid} (hnew : log.lastSeqId c' = none) :
    SameChannel c log (log.openChannel c') := by
  intro last hlast
  have hne : c ≠ c' := by
    intro heq
    rw [heq, hnew] at hlast
    cases hlast
  exact ⟨(openChannel_lastSeqId_of_ne log hne).trans hlast, fun _ _ _ => Iff.rfl⟩

theorem sameChannel_append (hfresh : log.entries id = none) (hne : c ≠ entry.channelId) :
    SameChannel c log (log.append id entry) := by
  intro last hlast
  constructor
  · exact (append_lastSeqId_of_ne log hne).trans hlast
  · intro i e hc
    constructor
    · exact append_entries_of_fresh hfresh
    · intro hentry
      rcases append_entries hentry with ⟨_, heq⟩ | ⟨_, hold⟩
      · subst heq
        exact absurd hc.symm hne
      · exact hold

end MessageLog

end MessagingSystem
