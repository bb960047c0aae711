import MessagingSystem.Foundation.Effects
import MessagingSystem.Messages.Retries

/-!
# Reactions

A reaction is a row for a message, a user and an emoji.  A call that changes the rows announces
the new summary of the message to all members of the channel, and every web client that has the
message in its cache replaces the cached summary by the announced one.
-/

namespace MessagingSystem

open Foundation

structure MessageReaction where
  channelId : Uuid
  messageId : Uuid
  userId : Uuid
  emoji : String

structure ReactionStore where
  db : Database
  reactions : Table Uuid MessageReaction

structure ReactionsSummary where
  counts : List (String × Nat)
  myReaction : List String
  deriving DecidableEq

/-- `isOther` is `unicodedata.category(char).startswith("C")`. -/
structure ReactionEnv extends Env where
  maxDistinctReactionsPerMessage : Nat
  isOther : Char -> Bool

/-!
# Emoji
-/

def isEmojiBase (codepoint : Nat) : Bool :=
  (0x1f000 ≤ codepoint && codepoint ≤ 0x1faff) || (0x2600 ≤ codepoint && codepoint ≤ 0x27bf) ||
    (0x2300 ≤ codepoint && codepoint ≤ 0x23ff) ||
    (0x1f1e6 ≤ codepoint && codepoint ≤ 0x1f1ff) ||
    codepoint ∈ [0xa9, 0xae, 0x203c, 0x2049, 0x2122, 0x2139]

def allowedComposition (codepoint : Nat) : Bool :=
  codepoint ∈ [0x200d, 0xfe0f, 0x20e3] || (0x1f3fb ≤ codepoint && codepoint < 0x1f400)

def utf8Length (text : String) : Nat :=
  (text.toList.map Char.utf8Size).sum

def normalizeReaction (isOther : Char -> Bool) (value : String) : Except String String := do
  let emoji := strip value
  require (emoji != "") "emoji cannot be empty"
  require (decide (emoji.toList.length ≤ 16) && decide (utf8Length emoji ≤ 64))
    "emoji is too long"
  require (!emoji.toList.any (fun c => isSpace c || isOther c && c.toNat != 0x200d))
    "emoji cannot contain whitespace or control characters"
  require (emoji.toList.any (fun c => isEmojiBase c.toNat))
    "emoji must contain a supported Unicode emoji"
  require (!emoji.toList.any (fun c => !isEmojiBase c.toNat && !allowedComposition c.toNat))
    "emoji contains unsupported characters"
  pure emoji

/-!
# Summaries
-/

namespace ReactionStore

def onMessage (store : ReactionStore) (messageId : Uuid) : List MessageReaction :=
  (store.reactions.rows.map Prod.snd).filter (fun r => r.messageId == messageId)

def emojiOn (store : ReactionStore) (messageId : Uuid) : List String :=
  (store.onMessage messageId).map MessageReaction.emoji

/-- `_reaction_summary`: the groups of all rows, and the emoji of one user. -/
def reactionSummary (store : ReactionStore) (messageId actorUserId : Uuid) :
    ReactionsSummary where
  counts := (store.emojiOn messageId).dedup.map
    (fun emoji => (emoji, (store.emojiOn messageId).count emoji))
  myReaction := orderByAsc (fun emoji => emoji)
    (((store.onMessage messageId).filter (fun r => r.userId == actorUserId)).map
      MessageReaction.emoji)

end ReactionStore

def ReactionsSummary.toJson (summary : ReactionsSummary) : Json :=
  Json.obj
    [("counts", Json.obj (summary.counts.map (fun count => (count.1, Json.int count.2)))),
      ("my_reaction", Json.arr (summary.myReaction.map Json.str))]

/-!
# The calls
-/

section

variable (env : ReactionEnv) (channelId messageId actorUserId : Uuid)

/-- `_assert_can_read`; a refusal commits its security event. -/
def assertReader : EStateM Failure ReactionStore Unit := do
  let store ← get
  let _ ← attempt (liveChannel store.db channelId)
  if canRead (store.db.role channelId actorUserId) then pure ()
  else do
    modify (fun s => { s with
      db := s.db.logEvent (securityRecord "security.unauthorized_read" channelId actorUserId) })
    throw (appError "forbidden" 403 "FORBIDDEN")

def undeletedMessage : EStateM Failure ReactionStore Message := do
  let store ← get
  let message ← attempt (orFail (store.db.messages.get messageId)
    (appError "message not found" 404 "MESSAGE_NOT_FOUND"))
  attempt (require (message.channelId == channelId && message.deletedAt.isNone)
    (appError "message not found" 404 "MESSAGE_NOT_FOUND"))
  pure message

/-- The changed rows are committed together with the event about them. -/
def announceReactions (changed : ReactionStore) :
    EStateM Failure ReactionStore ReactionsSummary := do
  let summary := changed.reactionSummary messageId actorUserId
  let outbox ← attempt (enqueueMessageOutbox env.toEnv changed.db messageId channelId
    (MessagePayload.reactionUpdated channelId messageId summary.toJson))
  set { changed with db := changed.db.enqueue outbox }
  pure summary

/-- The rows of one user with one emoji on one message. -/
def ReactionStore.ownRows (store : ReactionStore) (messageId actorUserId : Uuid)
    (emoji : String) : List Uuid :=
  (store.reactions.rows.filter (fun r => r.2.messageId == messageId &&
    r.2.userId == actorUserId && r.2.emoji == emoji)).map Prod.fst

def reactionText (value : String) : Except Failure String :=
  (normalizeReaction env.isOther value).mapError
    (fun message => appError message 400 "VALIDATION_ERROR")

def addReaction (value : String) : EStateM Failure ReactionStore ReactionsSummary := do
  let emoji ← attempt (reactionText env value)
  assertReader channelId actorUserId
  let _ ← undeletedMessage channelId messageId
  let store ← get
  let existing ← attempt (scalarOneOrNone (store.ownRows messageId actorUserId emoji))
  match existing with
  | some _ => pure (store.reactionSummary messageId actorUserId)
  | none => do
      let distinctEmoji := (store.emojiOn messageId).dedup
      attempt (require (!(!distinctEmoji.contains emoji &&
          decide (env.maxDistinctReactionsPerMessage ≤ distinctEmoji.length)))
        (appError "message reaction variety quota exceeded" 409 "REACTION_QUOTA_EXCEEDED"))
      announceReactions env channelId messageId actorUserId
        { store with reactions := store.reactions.set (env.fresh 0) (some
          { channelId := channelId, messageId := messageId, userId := actorUserId,
            emoji := emoji }) }

def removeReaction (value : String) : EStateM Failure ReactionStore ReactionsSummary := do
  let emoji ← attempt (reactionText env value)
  assertReader channelId actorUserId
  let _ ← undeletedMessage channelId messageId
  let store ← get
  match store.ownRows messageId actorUserId emoji with
  | [] => pure (store.reactionSummary messageId actorUserId)
  | ids =>
      announceReactions env channelId messageId actorUserId
        { store with reactions := ids.foldl (fun rows id => rows.set id none) store.reactions }

end

structure ReactionCall where
  remove : Bool
  env : ReactionEnv
  channelId : Uuid
  messageId : Uuid
  actorUserId : Uuid
  value : String

def ReactionCall.program (call : ReactionCall) :
    EStateM Failure ReactionStore ReactionsSummary :=
  if call.remove then
    removeReaction call.env call.channelId call.messageId call.actorUserId call.value
  else addReaction call.env call.channelId call.messageId call.actorUserId call.value

/-!
# The web client
-/

structure CachedMessage where
  snapshot : MessageSnapshot
  reactionsSummary : ReactionsSummary

/-- The cached messages of each channel. -/
abbrev MessageCache := Table Uuid (List CachedMessage)

/-- `summary?.counts ?? {}` and `summary?.my_reaction ?? []`. -/
def ReactionsSummary.ofJson : Json -> ReactionsSummary
  | Json.obj members =>
      { counts :=
          match Json.member? members "counts" with
          | some (Json.obj counts) => counts.filterMap fun count =>
              match count.2 with
              | Json.int n => some (count.1, n.toNat)
              | _ => none
          | _ => []
        myReaction :=
          match Json.member? members "my_reaction" with
          | some (Json.arr items) => items.filterMap fun item =>
              match item with
              | Json.str emoji => some emoji
              | _ => none
          | _ => [] }
  | _ => { counts := [], myReaction := [] }

def CachedMessage.replaceSummary (messageId : Uuid) (summary : Json)
    (message : CachedMessage) : CachedMessage :=
  if message.snapshot.id = messageId then
    { message with reactionsSummary := ReactionsSummary.ofJson summary }
  else message

/-- The branch of `onmessage` for `reaction_updated`. -/
def MessageCache.receive (cache : MessageCache) (row : Outbox) : MessageCache :=
  match row.payload with
  | OutboxPayload.message (MessagePayload.reactionUpdated channelId messageId summary) _ =>
      cache.update channelId
        (fun messages => messages.map (CachedMessage.replaceSummary messageId summary))
  | _ => cache

/-- The server with one client that has applied every event so far. -/
structure ReactionState where
  store : ReactionStore
  cache : MessageCache

def ReactionState.next (s : ReactionState) (call : ReactionCall) : ReactionState :=
  let store := finalState call.program s.store
  { store := store
    cache := (store.db.outbox.drop s.store.db.outbox.length).foldl
      MessageCache.receive s.cache }

def reactionSystem : System ReactionState ReactionCall where
  start _ := True
  step s call s' := s.next call = s'

/-!
# What a call announces
-/

/-- The user has a stored reaction with the emoji on the message. -/
def ReactionStore.HasReaction (store : ReactionStore) (messageId userId : Uuid)
    (emoji : String) : Prop :=
  exists id reaction, store.reactions.get id = some reaction ∧
    reaction.messageId = messageId ∧ reaction.userId = userId ∧ reaction.emoji = emoji

def ReactionStore.SameReactions (store : ReactionStore) (messageId userId other : Uuid) :
    Prop :=
  forall emoji, store.HasReaction messageId userId emoji ↔
    store.HasReaction messageId other emoji

/-- The user has the emoji on the message once the call has taken effect on the rows. -/
def ReactionCall.Leaves (call : ReactionCall) (store : ReactionStore) (userId : Uuid)
    (emoji : String) : Prop :=
  if call.remove then
    store.HasReaction call.messageId userId emoji ∧
      ¬(userId = call.actorUserId ∧ emoji = strip call.value)
  else
    store.HasReaction call.messageId userId emoji ∨
      userId = call.actorUserId ∧ emoji = strip call.value

def RowsChanged (call : ReactionCall) (store store' : ReactionStore) : Prop :=
  forall userId emoji,
    store'.HasReaction call.messageId userId emoji ↔ call.Leaves store userId emoji

/-- Nothing was changed and announced, or the summary of the new rows for the actor was. -/
inductive ReactionEffect (call : ReactionCall) (store : ReactionStore) : ReactionStore -> Prop where
  | quiet {store' : ReactionStore} (houtbox : store'.db.outbox = store.db.outbox) :
      ReactionEffect call store store'
  | announced {store' : ReactionStore} {row : Outbox} {generation : Nat}
      (houtbox : store'.db.outbox = store.db.outbox ++ [row])
      (hpayload : row.payload = OutboxPayload.message (MessagePayload.reactionUpdated
        call.channelId call.messageId
        (store'.reactionSummary call.messageId call.actorUserId).toJson) generation)
      (hrows : store.reactions.get (call.env.fresh 0) = none -> RowsChanged call store store') :
      ReactionEffect call store store'

section

variable {call : ReactionCall} {store store' : ReactionStore}

theorem ReactionEffect.of_eq (h : store' = store) : ReactionEffect call store store' :=
  ReactionEffect.quiet (congrArg (fun s => s.db.outbox) h)

theorem assertReader_spec :
    Triple (fun s => s = store) (assertReader call.channelId call.actorUserId)
      (fun _ s => s = store) (fun _ => ReactionEffect call store) := by
  apply Triple.get
  intro s hs
  subst hs
  refine Triple.attempting ?_ (fun _ _ _ => ReactionEffect.of_eq)
  intro _ _
  split
  · exact Triple.pure (fun _ h => h)
  · apply Triple.bind (fun _ t => t.db.outbox = s.db.outbox)
    · apply Triple.modified
      intro t ht
      subst ht
      rfl
    · intro _
      exact Triple.throw (fun _ => ReactionEffect.quiet)

theorem undeletedMessage_spec :
    Triple (fun s => s = store) (undeletedMessage call.channelId call.messageId)
      (fun _ s => s = store) (fun _ => ReactionEffect call store) := by
  apply Triple.get
  intro s hs
  subst hs
  refine Triple.attempting ?_ (fun _ _ _ => ReactionEffect.of_eq)
  intro message _
  refine Triple.attempting ?_ (fun _ _ _ => ReactionEffect.of_eq)
  intro _ _
  exact Triple.pure (fun _ h => h)

theorem announceReactions_spec {changed : ReactionStore} (hchanged : changed.db = store.db)
    (hrows : store.reactions.get (call.env.fresh 0) = none -> RowsChanged call store changed) :
    Triple (fun s => s = store)
      (announceReactions call.env call.channelId call.messageId call.actorUserId changed)
      (fun _ => ReactionEffect call store) (fun _ => ReactionEffect call store) := by
  refine Triple.attempting ?_ (fun _ _ _ => ReactionEffect.of_eq)
  intro outbox houtbox _ _
  rcases bind_eq_ok.mp houtbox with ⟨state, _, heq⟩
  have hafter : changed.db.outbox ++ [outbox] = store.db.outbox ++ [outbox] := by
    rw [hchanged]
  have hpayload : outbox.payload = OutboxPayload.message (MessagePayload.reactionUpdated
      call.channelId call.messageId
      (changed.reactionSummary call.messageId call.actorUserId).toJson) state.2 := by
    rw [← pure_eq_ok.mp heq]
    rfl
  exact ReactionEffect.announced hafter hpayload hrows

theorem reactionText_eq_ok {env : ReactionEnv} {value emoji : String}
    (h : reactionText env value = Except.ok emoji) : emoji = strip value := by
  have hok := mapError_eq_ok.mp h
  unfold normalizeReaction at hok
  simp only [bind_eq_ok, pure_eq_ok] at hok
  rcases hok with ⟨_, _, _, _, _, _, _, _, _, _, heq⟩
  exact heq.symm

/-- Both calls start in the same way. -/
theorem guarded_spec {rest : String -> EStateM Failure ReactionStore α}
    {post : α -> ReactionStore -> Prop}
    (hrest : Triple (fun s => s = store) (rest (strip call.value)) post
      (fun _ => ReactionEffect call store)) :
    Triple (fun s => s = store)
      (do
        let emoji ← attempt (reactionText call.env call.value)
        assertReader call.channelId call.actorUserId
        let _ ← undeletedMessage call.channelId call.messageId
        rest emoji)
      post (fun _ => ReactionEffect call store) := by
  refine Triple.attempting ?_ (fun _ _ _ => ReactionEffect.of_eq)
  intro emoji hemoji
  rw [reactionText_eq_ok hemoji]
  refine Triple.bind _ assertReader_spec ?_
  intro _
  exact Triple.bind _ undeletedMessage_spec (fun _ => hrest)

theorem rowsChanged_add (hremove : call.remove = false)
    (hrows : store'.reactions = store.reactions.set (call.env.fresh 0) (some
      { channelId := call.channelId, messageId := call.messageId, userId := call.actorUserId,
        emoji := strip call.value })) (hfresh : store.reactions.get (call.env.fresh 0) = none) :
    RowsChanged call store store' := by
  intro userId emoji
  unfold ReactionCall.Leaves
  rw [hremove, if_neg Bool.false_ne_true]
  constructor
  · rintro ⟨id, reaction, hget, hmessage, huser, hemoji⟩
    rw [hrows] at hget
    rcases Table.get_set_some_cases hget with ⟨_, rfl⟩ | ⟨_, hget⟩
    · exact Or.inr ⟨huser.symm, hemoji.symm⟩
    · exact Or.inl ⟨id, reaction, hget, hmessage, huser, hemoji⟩
  · rintro (⟨id, reaction, hget, hfields⟩ | ⟨rfl, rfl⟩)
    · refine ⟨id, reaction, ?_, hfields⟩
      rw [hrows]
      exact Table.get_set_of_free hfresh hget
    · exact ⟨call.env.fresh 0, _, by rw [hrows, Table.get_set_self], rfl, rfl, rfl⟩

theorem mem_ownRows {id : Uuid} {emoji : String} :
    id ∈ store.ownRows call.messageId call.actorUserId emoji ↔
      exists reaction, store.reactions.get id = some reaction ∧
        reaction.messageId = call.messageId ∧ reaction.userId = call.actorUserId ∧
        reaction.emoji = emoji := by
  unfold ReactionStore.ownRows
  simp only [List.mem_map, List.mem_filter, Bool.and_eq_true, beq_iff_eq]
  constructor
  · rintro ⟨⟨id', reaction⟩, ⟨hrow, ⟨hmessage, huser⟩, hemoji⟩, rfl⟩
    exact ⟨reaction, Table.mem_rows.mp hrow, hmessage, huser, hemoji⟩
  · rintro ⟨reaction, hget, hmessage, huser, hemoji⟩
    exact ⟨(id, reaction), ⟨Table.mem_rows.mpr hget, ⟨hmessage, huser⟩, hemoji⟩, rfl⟩

theorem rowsChanged_remove (hremove : call.remove = true) (hrows : store'.reactions =
      (store.ownRows call.messageId call.actorUserId (strip call.value)).foldl
        (fun rows id => rows.set id none) store.reactions) : RowsChanged call store store' := by
  have hget : forall id reaction, store'.reactions.get id = some reaction ↔
      store.reactions.get id = some reaction ∧ ¬(reaction.messageId = call.messageId ∧
        reaction.userId = call.actorUserId ∧ reaction.emoji = strip call.value) := by
    intro id reaction
    rw [hrows, Table.get_foldl_erase]
    split
    · rename_i hmem
      rcases mem_ownRows.mp hmem with ⟨own, hown, hfields⟩
      refine iff_of_false nofun ?_
      rintro ⟨hreaction, hnot⟩
      cases hown.symm.trans hreaction
      exact hnot hfields
    · rename_i hmem
      refine ⟨fun hreaction => ⟨hreaction, fun hfields => ?_⟩, And.left⟩
      exact hmem (mem_ownRows.mpr ⟨reaction, hreaction, hfields⟩)
  intro userId emoji
  unfold ReactionCall.Leaves
  rw [hremove, if_pos rfl]
  constructor
  · rintro ⟨id, reaction, hreaction, hmessage, huser, hemoji⟩
    rcases (hget id reaction).mp hreaction with ⟨hold, hother⟩
    refine ⟨⟨id, reaction, hold, hmessage, huser, hemoji⟩, ?_⟩
    rintro ⟨rfl, rfl⟩
    exact hother ⟨hmessage, huser, hemoji⟩
  · rintro ⟨⟨id, reaction, hold, hmessage, huser, hemoji⟩, hne⟩
    refine ⟨id, reaction, (hget id reaction).mpr ⟨hold, ?_⟩, hmessage, huser, hemoji⟩
    intro hfields
    exact hne ⟨huser.symm.trans hfields.2.1, hemoji.symm.trans hfields.2.2⟩

theorem addReaction_spec (hremove : call.remove = false) :
    Triple (fun s => s = store)
      (addReaction call.env call.channelId call.messageId call.actorUserId call.value)
      (fun _ => ReactionEffect call store) (fun _ => ReactionEffect call store) := by
  apply guarded_spec
  apply Triple.get
  intro s hs
  subst hs
  refine Triple.attempting ?_ (fun _ _ _ => ReactionEffect.of_eq)
  intro existing _
  cases existing with
  | some id => exact Triple.pure (fun _ => ReactionEffect.of_eq)
  | none =>
      refine Triple.attempting ?_ (fun _ _ _ => ReactionEffect.of_eq)
      intro _ _
      exact announceReactions_spec rfl (rowsChanged_add hremove rfl)

theorem removeReaction_spec (hremove : call.remove = true) :
    Triple (fun s => s = store)
      (removeReaction call.env call.channelId call.messageId call.actorUserId call.value)
      (fun _ => ReactionEffect call store) (fun _ => ReactionEffect call store) := by
  apply guarded_spec
  apply Triple.get
  intro s hs
  subst hs
  split
  · exact Triple.pure (fun _ => ReactionEffect.of_eq)
  · exact announceReactions_spec rfl (fun _ => rowsChanged_remove hremove rfl)

end

theorem ReactionCall.effect (call : ReactionCall) (store : ReactionStore) :
    ReactionEffect call store (finalState call.program store) := by
  have hspec : Triple (fun s => s = store) call.program
      (fun _ => ReactionEffect call store) (fun _ => ReactionEffect call store) := by
    unfold ReactionCall.program
    cases hremove : call.remove with
    | false => exact addReaction_spec hremove
    | true => exact removeReaction_spec hremove
  have hrun := hspec store rfl
  unfold finalState
  cases hprogram : call.program store with
  | ok | error =>
      rw [hprogram] at hrun
      exact hrun

/-!
# What a summary says
-/

variable {messageId : Uuid}

theorem mem_myReaction {store : ReactionStore} {userId : Uuid} {emoji : String} :
    emoji ∈ (store.reactionSummary messageId userId).myReaction ↔
      store.HasReaction messageId userId emoji := by
  show emoji ∈ orderByAsc (fun emoji => emoji) _ ↔ _
  rw [(orderByAsc_perm _ _).mem_iff]
  simp only [ReactionStore.onMessage, List.mem_map, List.mem_filter, beq_iff_eq]
  constructor
  · intro h
    rcases h with ⟨reaction, ⟨⟨⟨⟨id, row⟩, hrow, hsnd⟩, hmessage⟩, huser⟩, hemoji⟩
    subst hsnd
    exact ⟨id, row, Table.mem_rows.mp hrow, hmessage, huser, hemoji⟩
  · intro h
    rcases h with ⟨id, reaction, hget, hmessage, huser, hemoji⟩
    exact ⟨reaction, ⟨⟨⟨(id, reaction), Table.mem_rows.mpr hget, rfl⟩, hmessage⟩, huser⟩,
      hemoji⟩

theorem lookup_map_pair {l : List String} {f : String -> Nat} {emoji : String} :
    (l.map (fun x => (x, f x))).lookup emoji = if emoji ∈ l then some (f emoji) else none := by
  induction l with
  | nil => rfl
  | cons x l ih =>
      rw [List.map_cons, List.lookup_cons, ih]
      by_cases hx : emoji = x
      · simp [hx]
      · rw [beq_false_of_ne hx]
        simp [hx]

/-- Exactly the emoji that are stored have a count, and it is the number of their rows. -/
theorem lookup_counts (store : ReactionStore) (messageId userId : Uuid) (emoji : String) :
    (store.reactionSummary messageId userId).counts.lookup emoji =
      if emoji ∈ store.emojiOn messageId then some ((store.emojiOn messageId).count emoji)
      else none := by
  show ((store.emojiOn messageId).dedup.map _).lookup emoji = _
  rw [lookup_map_pair]
  simp only [List.mem_dedup]

theorem ofJson_toJson (summary : ReactionsSummary) :
    ReactionsSummary.ofJson summary.toJson = summary := by
  cases summary with
  | mk counts myReaction =>
      show ReactionsSummary.mk ((counts.map _).filterMap _) ((myReaction.map _).filterMap _) = _
      rw [List.filterMap_map, List.filterMap_map]
      congr 1
      · exact List.filterMap_some
      · exact List.filterMap_some

/-!
# What a client shows
-/

variable {s : ReactionState}

/-- The client has the message in its cache. -/
def MessageCache.Holds (cache : MessageCache) (channelId messageId : Uuid) : Prop :=
  exists messages message, cache.get channelId = some messages ∧ message ∈ messages ∧
    message.snapshot.id = messageId

/-- Everything cached about the message agrees with the store, as the user should see it. -/
def ReactionState.Shows (s : ReactionState) (channelId messageId userId : Uuid) : Prop :=
  forall messages message, s.cache.get channelId = some messages -> message ∈ messages ->
    message.snapshot.id = messageId ->
    (forall emoji, message.reactionsSummary.counts.lookup emoji =
      if emoji ∈ s.store.emojiOn messageId then
        some ((s.store.emojiOn messageId).count emoji)
      else none) ∧
    (forall emoji, emoji ∈ message.reactionsSummary.myReaction ↔
      s.store.HasReaction messageId userId emoji)

theorem replaceSummary_id (messageId : Uuid) (summary : Json) (message : CachedMessage) :
    (message.replaceSummary messageId summary).snapshot.id = message.snapshot.id := by
  unfold CachedMessage.replaceSummary
  split
  · rfl
  · rfl

theorem receive_holds {cache : MessageCache} {row : Outbox} {channelId : Uuid}
    (h : cache.Holds channelId messageId) : (cache.receive row).Holds channelId messageId := by
  rcases h with ⟨messages, message, hget, hmem, hid⟩
  unfold MessageCache.receive
  split
  · rename_i c m summary _ _
    by_cases hc : channelId = c
    · subst hc
      refine ⟨messages.map (CachedMessage.replaceSummary m summary), _, ?_,
        List.mem_map.mpr ⟨message, hmem, rfl⟩, (replaceSummary_id m summary message).trans hid⟩
      rw [Table.get_update, if_pos rfl, hget]
      rfl
    · refine ⟨messages, message, ?_, hmem, hid⟩
      rw [Table.get_update, if_neg hc, hget]
  · exact ⟨messages, message, hget, hmem, hid⟩

theorem next_holds {channelId : Uuid} (h : s.cache.Holds channelId messageId)
    (call : ReactionCall) : (s.next call).cache.Holds channelId messageId := by
  unfold ReactionState.next
  dsimp only
  generalize (finalState call.program s.store).db.outbox.drop s.store.db.outbox.length = rows
  generalize s.cache = cache at h
  induction rows generalizing cache with
  | nil => exact h
  | cons row rows ih => exact ih (cache.receive row) (receive_holds h)

/-- After an event the client shows the summary that was computed for the actor. -/
theorem cached_summary {call : ReactionCall}
    (hevent : (s.next call).store.db.outbox ≠ s.store.db.outbox) {messages : List CachedMessage}
    {message : CachedMessage} (hget : (s.next call).cache.get call.channelId = some messages)
    (hmem : message ∈ messages) (hid : message.snapshot.id = call.messageId) :
    message.reactionsSummary =
      (s.next call).store.reactionSummary call.messageId call.actorUserId := by
  have heffect : ReactionEffect call s.store (s.next call).store := call.effect s.store
  cases heffect with
  | quiet houtbox => exact absurd houtbox hevent
  | @announced row generation houtbox hpayload =>
      have hcache : (s.next call).cache = s.cache.receive row := by
        show ((s.next call).store.db.outbox.drop _).foldl MessageCache.receive s.cache = _
        rw [houtbox, List.drop_left]
        rfl
      rw [hcache, MessageCache.receive, hpayload] at hget
      dsimp only at hget
      rw [Table.get_update, if_pos rfl] at hget
      rcases Option.map_eq_some_iff.mp hget with ⟨old, _, hmessages⟩
      rw [← hmessages] at hmem
      rcases List.mem_map.mp hmem with ⟨before, _, hbefore⟩
      rw [← hbefore, replaceSummary_id] at hid
      rw [← hbefore, CachedMessage.replaceSummary, if_pos hid]
      exact ofJson_toJson _

/-- After an event both users have the same reactions, told from the store before the call. -/
theorem sameReactions_next_iff {call : ReactionCall} {userId : Uuid}
    (hevent : (s.next call).store.db.outbox ≠ s.store.db.outbox)
    (hfresh : s.store.reactions.get (call.env.fresh 0) = none) :
    (s.next call).store.SameReactions call.messageId call.actorUserId userId ↔
      forall emoji, call.Leaves s.store call.actorUserId emoji ↔
        call.Leaves s.store userId emoji := by
  have heffect : ReactionEffect call s.store (s.next call).store := call.effect s.store
  cases heffect with
  | quiet houtbox => exact absurd houtbox hevent
  | announced _ _ hrows =>
      refine forall_congr' (fun emoji => ?_)
      rw [hrows hfresh call.actorUserId emoji, hrows hfresh userId emoji]

/--
After every event the client of a user shows the stored reactions, if and only if the user who
made the call has the same reactions on the message as the user of the client.  With a new
identifier for its row, the call leaves what can be told from the rows before it.
-/
theorem shown_reactions_iff (e : System.Execution reactionSystem)
    (channelId messageId userId : Uuid)
    (hloaded : (e.stateAt 0).cache.Holds channelId messageId) {i : Nat} (hi : i < e.length)
    (hchannel : (e.labelAt i).channelId = channelId)
    (hmessage : (e.labelAt i).messageId = messageId)
    (hevent : (e.stateAt (i + 1)).store.db.outbox ≠ (e.stateAt i).store.db.outbox) :
    ((e.stateAt (i + 1)).Shows channelId messageId userId ↔
      (e.stateAt (i + 1)).store.SameReactions messageId (e.labelAt i).actorUserId userId) ∧
    ((e.stateAt i).store.reactions.get ((e.labelAt i).env.fresh 0) = none ->
      ((e.stateAt (i + 1)).Shows channelId messageId userId ↔
        forall emoji,
          (e.labelAt i).Leaves (e.stateAt i).store (e.labelAt i).actorUserId emoji ↔
            (e.labelAt i).Leaves (e.stateAt i).store userId emoji)) := by
  have hholds : (e.stateAt (i + 1)).cache.Holds channelId messageId := by
    refine e.induct (I := fun n => (e.stateAt n).cache.Holds channelId messageId) hloaded ?_ hi
    intro n _ h hstep
    rw [← show (e.stateAt n).next (e.labelAt n) = e.stateAt (n + 1) from hstep]
    exact next_holds h (e.labelAt n)
  have hstep : (e.stateAt i).next (e.labelAt i) = e.stateAt (i + 1) := e.step i hi
  rw [← hstep] at hholds hevent ⊢
  subst hchannel hmessage
  have hiff : ((e.stateAt i).next (e.labelAt i)).Shows (e.labelAt i).channelId
      (e.labelAt i).messageId userId ↔ ((e.stateAt i).next (e.labelAt i)).store.SameReactions
        (e.labelAt i).messageId (e.labelAt i).actorUserId userId := by
    constructor
    · intro hshows emoji
      rcases hholds with ⟨messages, message, hget, hmem, hid⟩
      rw [← (hshows messages message hget hmem hid).2 emoji, cached_summary hevent hget hmem hid]
      exact mem_myReaction.symm
    · intro hsame messages message hget hmem hid
      rw [cached_summary hevent hget hmem hid]
      constructor
      · exact lookup_counts _ _ _
      · intro emoji
        rw [mem_myReaction]
        exact hsame emoji
  exact ⟨hiff, fun hfresh => hiff.trans (sameReactions_next_iff hevent hfresh)⟩

/-!
# Two members
-/

def heart : String := "\u2764"

def reactionDb : Database :=
  (runActions Database.empty
    [ChannelAction.putUser 1 (sampleUser "ann"), ChannelAction.putUser 2 (sampleUser "ben"),
      ChannelAction.call (sampleEnv 100)
        (Call.createChannel 1 (sampleChannelRequest "General")),
      ChannelAction.call (sampleEnv 200) (Call.joinChannel 100 2 none)]).toOption.getD
    Database.empty

def greetingMessage : Message :=
  newMessage (sampleMessageEnv 300) 100 1 greeting 1 none none (some "sealed:hello", none)

/-- The client of any member, with the message in its cache. -/
def reactionStart : ReactionState where
  store :=
    { db := insertMessage reactionDb 300 greetingMessage
      reactions := Table.empty }
  cache := (Table.empty : MessageCache).set 100 (some
    [{ snapshot := serializeMessageForOutbox 300 greetingMessage (none, none, none)
       reactionsSummary := { counts := [], myReaction := [] } }])

def heartCall : ReactionCall where
  remove := false
  env :=
    { sampleEnv 400 with
      maxDistinctReactionsPerMessage := 20
      isOther := fun _ => false }
  channelId := 100
  messageId := 300
  actorUserId := 1
  value := heart

def oneReaction : System.Execution reactionSystem where
  length := 1
  stateAt n := (fun s : ReactionState => s.next heartCall)^[n] reactionStart
  labelAt _ := heartCall
  start := trivial
  step := by
    intro i _
    rw [Function.iterate_succ_apply']
    rfl

theorem oneReaction_loaded : (oneReaction.stateAt 0).cache.Holds 100 300 :=
  ⟨_, _, Table.get_set_self _ _ _, List.mem_cons_self, rfl⟩

theorem oneReaction_event :
    (oneReaction.stateAt 1).store.db.outbox ≠ (oneReaction.stateAt 0).store.db.outbox := by
  intro heq
  have hlength : (oneReaction.stateAt 1).store.db.outbox.length
      ≠ (oneReaction.stateAt 0).store.db.outbox.length := by
    decide +kernel
  exact hlength (congrArg List.length heq)

/-- The client of user 2 shows the reaction of user 1 as its own. -/
theorem foreign_reaction_shown_as_own :
    exists (e : System.Execution reactionSystem) (channelId messageId userId : Uuid) (i : Nat),
      (e.stateAt 0).cache.Holds channelId messageId ∧ i < e.length ∧
      (e.labelAt i).channelId = channelId ∧ (e.labelAt i).messageId = messageId ∧
      (e.stateAt (i + 1)).store.db.outbox ≠ (e.stateAt i).store.db.outbox ∧
      canRead ((e.stateAt (i + 1)).store.db.role channelId userId) = true ∧
      ¬(e.stateAt (i + 1)).Shows channelId messageId userId := by
  refine ⟨oneReaction, 100, 300, 2, 0, oneReaction_loaded, Nat.one_pos, rfl, rfl,
    oneReaction_event, by decide +kernel, ?_⟩
  intro hshows
  have hcached : ((oneReaction.stateAt 1).cache.get 100).map (fun messages =>
      messages.map fun m => (m.snapshot.id, m.reactionsSummary.myReaction))
        = some [(300, [heart])] := by
    decide +kernel
  have hstored : (oneReaction.stateAt 1).store.reactions.rows.map (fun r => r.2.userId)
      = [1] := by
    decide +kernel
  rcases Option.map_eq_some_iff.mp hcached with ⟨messages, hget, hmessages⟩
  have hmem : ((300 : Uuid), [heart]) ∈ messages.map (fun m : CachedMessage =>
      (m.snapshot.id, m.reactionsSummary.myReaction)) := by
    rw [hmessages]
    exact List.mem_cons_self
  rcases List.mem_map.mp hmem with ⟨message, hmessage, hpair⟩
  injection hpair with hid hmine
  have hown := ((hshows messages message hget hmessage hid).2 heart).mp
    (by rw [hmine]; exact List.mem_cons_self)
  rcases hown with ⟨id, reaction, hreaction, _, huser, _⟩
  have huserMem : reaction.userId ∈
      (oneReaction.stateAt 1).store.reactions.rows.map (fun r => r.2.userId) :=
    List.mem_map.mpr ⟨(id, reaction), Table.mem_rows.mpr hreaction, rfl⟩
  rw [hstored, huser] at huserMem
  exact absurd huserMem (by decide)

theorem own_reaction_shown : (oneReaction.stateAt 1).Shows 100 300 1 :=
  ((shown_reactions_iff oneReaction 100 300 1 oneReaction_loaded Nat.one_pos rfl rfl
    oneReaction_event).2 (by decide +kernel)).mpr (fun _ => Iff.rfl)

end MessagingSystem
