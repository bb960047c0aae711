import MessagingSystem.Messages.SyncAvailability

/-!
# Backfill by repeated synchronization

A client asks again and again for the same channels, each time from the largest sequence
number it has received.  As long as the answers do not fail, it gets every missed message
once and in order, and then nothing more.
-/

namespace MessagingSystem

open Foundation

/-- The channels of a request with the cursors of the client. -/
def syncRequestOf (channels : List Uuid) (cursor : Uuid -> Nat) (since : Option Instant)
    (limit : Nat) : SyncRequest where
  channels := channels.map (fun c => ⟨c, some (cursor c)⟩)
  since := since
  limit := limit

def channelOf (row : Uuid × Message) : Uuid :=
  row.2.channelId

def seqIdOf (row : Uuid × Message) : Nat :=
  row.2.seqId

/-- The messages of one call after the other; the cursors move to what was received. -/
def syncRounds (env : SyncEnv) (db : SyncDatabase) (userId : Uuid) (channels : List Uuid)
    (since : Option Instant) (limit : Nat) :
    Nat -> (Uuid -> Nat) -> Except Failure (List (List (Uuid × Message)))
  | 0, _ => pure []
  | calls + 1, cursor => do
      let response ← sync env db userId (syncRequestOf channels cursor since limit)
      let rest ← syncRounds env db userId channels since limit calls
        (advance channelOf seqIdOf cursor response.messages)
      pure (response.messages :: rest)

/-!
# What a client has missed
-/

/-- The unique constraint on channel and sequence number. -/
def UniqueSeqIds (db : Database) : Prop :=
  forall id id' m m', db.messages.get id = some m -> db.messages.get id' = some m' ->
    m.channelId = m'.channelId -> m.seqId = m'.seqId -> id = id'

/-- A message of the channels that is not deleted and lies above the cursor. -/
def Missed (db : Database) (channels : List Uuid) (cursor : Uuid -> Nat)
    (row : Uuid × Message) : Prop :=
  db.messages.get row.1 = some row.2 ∧ row.2.deletedAt = none ∧ channelOf row ∈ channels ∧
    cursor (channelOf row) < seqIdOf row

def missedCount (db : Database) (channels : List Uuid) (cursor : Uuid -> Nat) : Nat :=
  (db.messages.rows.filter (fun row => row.2.deletedAt.isNone &&
    channels.contains (channelOf row) && decide (cursor (channelOf row) < seqIdOf row))).length

/-- All messages of a channel that are not deleted, in the order of the query. -/
def orderedMessages (db : Database) (channelId : Uuid) : List (Uuid × Message) :=
  orderByAsc syncOrder (undeletedMessages db channelId)

section

variable {db : Database} {c : Uuid}

theorem mem_undeletedMessages {row : Uuid × Message} :
    row ∈ undeletedMessages db c ↔ db.messages.get row.1 = some row.2 ∧
      channelOf row = c ∧ row.2.deletedAt = none := by
  unfold undeletedMessages channelOf
  rw [List.mem_filter, Bool.and_eq_true, beq_iff_eq, Option.isNone_iff_eq_none]
  exact and_congr_left' Table.mem_rows

theorem nodup_syncOrder (db : Database) (c : Uuid) :
    ((undeletedMessages db c).map syncOrder).Nodup := by
  refine List.pairwise_map.mpr ((db.messages.rows_pairwise.filter _).imp ?_)
  intro a b hne heq
  have hid : a.1.toNat = b.1.toNat := congrArg (fun k => (ofLex k).2) heq
  exact hne (BitVec.eq_of_toNat_eq hid)

theorem mem_orderedMessages {row : Uuid × Message} :
    row ∈ orderedMessages db c ↔ db.messages.get row.1 = some row.2 ∧
      channelOf row = c ∧ row.2.deletedAt = none :=
  (orderByAsc_perm _ _).mem_iff.trans mem_undeletedMessages

theorem channelOf_orderedMessages (c : Uuid) (row : Uuid × Message)
    (h : row ∈ orderedMessages db c) : channelOf row = c :=
  (mem_orderedMessages.mp h).2.1

theorem nodup_orderedMessages (db : Database) (c : Uuid) : (orderedMessages db c).Nodup :=
  (orderByAsc_perm _ _).nodup_iff.mpr (List.Nodup.of_map _ (nodup_syncOrder db c))

/-- Within a channel the sequence numbers alone give the order. -/
theorem increasing_orderedMessages (hunique : UniqueSeqIds db) (c : Uuid) :
    Increasing seqIdOf (orderedMessages db c) := by
  refine ((sorted_orderByAsc syncOrder _).and (nodup_orderedMessages db c)).imp_of_mem ?_
  intro a b ha hb hab
  have hle : seqIdOf a ≤ seqIdOf b := by
    rcases Prod.Lex.le_iff.mp hab.1 with hlt | heq
    · exact Nat.le_of_lt hlt
    · exact Nat.le_of_eq heq.1
  refine lt_of_le_of_ne hle ?_
  intro heq
  rcases mem_orderedMessages.mp ha with ⟨hgeta, hca, _⟩
  rcases mem_orderedMessages.mp hb with ⟨hgetb, hcb, _⟩
  have hid := hunique a.1 b.1 a.2 b.2 hgeta hgetb (hca.trans hcb.symm) heq
  rw [hid, hgetb] at hgeta
  exact hab.2 (Prod.ext hid (Option.some.inj hgeta).symm)

theorem fetchSyncMessagePage_eq_take (cursor : Uuid -> Nat) (c : Uuid) {n : Nat} (hn : 0 < n) :
    fetchSyncMessagePage db c (cursor c) n
      = (backlog seqIdOf (orderedMessages db) cursor c).take n := by
  unfold fetchSyncMessagePage backlog orderedMessages
  rw [orderByAsc_filter (nodup_syncOrder db c), Nat.max_eq_right hn]
  rfl

end

/-- What the client has missed, in the order in which the channels are served. -/
def missedMessages (db : Database) (channels : List Uuid) (cursor : Uuid -> Nat) :
    List (Uuid × Message) :=
  (orderByAsc Uuid.str channels).flatMap (backlog seqIdOf (orderedMessages db) cursor)

section

variable {db : Database} {channels : List Uuid} {cursor : Uuid -> Nat}

theorem mem_missedMessages {row : Uuid × Message} :
    row ∈ missedMessages db channels cursor ↔ Missed db channels cursor row := by
  unfold missedMessages backlog Missed
  rw [List.mem_flatMap]
  constructor
  · intro h
    rcases h with ⟨c, hc, hrow⟩
    rcases List.mem_filter.mp hrow with ⟨hrow, hlater⟩
    rcases mem_orderedMessages.mp hrow with ⟨hget, hchannel, hlive⟩
    rw [hchannel]
    exact ⟨hget, hlive, (orderByAsc_perm _ _).mem_iff.mp hc, of_decide_eq_true hlater⟩
  · intro h
    rcases h with ⟨hget, hlive, hchannel, hlater⟩
    refine ⟨channelOf row, (orderByAsc_perm _ _).mem_iff.mpr hchannel, ?_⟩
    exact List.mem_filter.mpr
      ⟨mem_orderedMessages.mpr ⟨hget, rfl, hlive⟩, decide_eq_true hlater⟩

theorem nodup_missedMessages (hchannels : channels.Nodup) :
    (missedMessages db channels cursor).Nodup := by
  refine List.nodup_flatMap.mpr ⟨?_, ?_⟩
  · intro c _
    exact (nodup_orderedMessages db c).filter _
  · refine ((orderByAsc_perm _ _).nodup_iff.mpr hchannels).imp ?_
    intro c c' hne
    refine List.disjoint_left.mpr ?_
    intro row hrow hrow'
    apply hne
    rw [← keyOf_of_mem_backlog channelOf_orderedMessages hrow,
      keyOf_of_mem_backlog channelOf_orderedMessages hrow']

theorem length_missedMessages (hchannels : channels.Nodup) :
    (missedMessages db channels cursor).length = missedCount db channels cursor := by
  apply List.Perm.length_eq
  have hrows : db.messages.rows.Nodup :=
    db.messages.rows_pairwise.imp (fun hne heq => hne (congrArg Prod.fst heq))
  refine (List.perm_ext_iff_of_nodup (nodup_missedMessages hchannels)
    (hrows.filter _)).mpr ?_
  intro row
  rw [mem_missedMessages, List.mem_filter, Bool.and_eq_true, Bool.and_eq_true,
    Option.isNone_iff_eq_none, List.contains_iff_mem, decide_eq_true_eq, and_assoc]
  exact and_congr_left' Table.mem_rows.symm

end

/-!
# What a client receives
-/

/-- The pages contain what was missed, each message once and in the order of its channel. -/
structure Backfilled (db : Database) (channels : List Uuid) (cursor : Uuid -> Nat) (limit : Nat)
    (pages : List (List (Uuid × Message))) : Prop where
  bounded : forall page, page ∈ pages -> page.length ≤ limit
  missed : forall row, row ∈ pages.flatten -> Missed db channels cursor row
  once : (pages.flatten.map Prod.fst).Nodup
  increasing : forall c, Increasing seqIdOf
    (pages.flatten.filter (fun row => decide (channelOf row = c)))
  complete : missedCount db channels cursor ⌈/⌉ limit ≤ pages.length ->
    forall row, Missed db channels cursor row -> row ∈ pages.flatten
  silent : forall i page, missedCount db channels cursor ⌈/⌉ limit ≤ i ->
    pages[i]? = some page -> page = []

theorem backfilled_portions {db : Database} {channels : List Uuid} {cursor : Uuid -> Nat}
    {limit : Nat} (hunique : UniqueSeqIds db) (hchannels : channels.Nodup) (hlimit : 1 ≤ limit)
    (calls : Nat) :
    Backfilled db channels cursor limit
      (portions limit calls (missedMessages db channels cursor)) := by
  have hcount : (missedMessages db channels cursor).length = missedCount db channels cursor :=
    length_missedMessages hchannels
  refine ⟨?_, ?_, ?_, ?_, ?_, ?_⟩
  · intro page hpage
    exact length_le_of_mem_portions hpage
  · intro row hrow
    rw [flatten_portions] at hrow
    exact mem_missedMessages.mp (List.mem_of_mem_take hrow)
  · rw [flatten_portions]
    refine ((nodup_missedMessages hchannels).sublist (List.take_sublist _ _)).map_on ?_
    intro a ha b hb heq
    have hgeta := (mem_missedMessages.mp (List.mem_of_mem_take ha)).1
    have hgetb := (mem_missedMessages.mp (List.mem_of_mem_take hb)).1
    rw [heq, hgetb] at hgeta
    exact Prod.ext heq (Option.some.inj hgeta).symm
  · intro c
    rw [flatten_portions]
    refine List.Pairwise.sublist ((List.take_sublist _ _).filter _) ?_
    exact increasing_filter_flatMap (increasing_orderedMessages hunique)
      channelOf_orderedMessages ((orderByAsc_perm _ _).nodup_iff.mpr hchannels) c
  · intro hcalls row hrow
    rw [length_portions, ceilDiv_le_iff_le_mul hlimit, ← hcount] at hcalls
    rw [flatten_portions, List.take_of_length_le (by rw [Nat.mul_comm]; exact hcalls)]
    exact mem_missedMessages.mpr hrow
  · intro i page hi hpage
    rw [ceilDiv_le_iff_le_mul hlimit, ← hcount] at hi
    rw [getElem?_portions hpage, List.drop_of_length_le (by rw [Nat.mul_comm]; exact hi),
      List.take_nil]

/-!
# Calls
-/

theorem get_channelState {channels : List Uuid} {cursor : Uuid -> Nat} {c : Uuid}
    (hc : c ∈ channels) :
    (channelState (channels.map (fun c => ⟨c, some (cursor c)⟩))).get c = some (cursor c) := by
  have hfold : forall (channels : List Uuid) (state : Table Uuid Nat),
      c ∈ channels ∨ state.get c = some (cursor c) ->
      ((channels.map (fun c => (⟨c, some (cursor c)⟩ : SyncChannelCursor))).foldl
        (fun state entry =>
          state.set entry.channelId (some (entry.lastSeenSeqId.getD 0))) state).get c
        = some (cursor c) := by
    intro channels
    induction channels with
    | nil =>
        intro state h
        exact h.resolve_left List.not_mem_nil
    | cons c' channels ih =>
        intro state h
        apply ih
        by_cases heq : c = c'
        · subst heq
          exact Or.inr (Table.get_set_self _ _ _)
        · rw [Table.get_set_ne _ heq]
          rcases h with hmem | hget
          · exact Or.inl ((List.mem_cons.mp hmem).resolve_left heq)
          · exact Or.inr hget
  exact hfold channels Table.empty (Or.inl hc)

theorem syncMessages_eq_take (db : Database) (state : Table Uuid Nat) (limit : Nat)
    (selected : List Uuid) :
    syncMessages db state limit selected =
      (selected.flatMap (backlog seqIdOf (orderedMessages db)
        (fun c => (state.get c).getD 0))).take limit := by
  apply budgetedPages_eq_take
  intro c n hn
  exact fetchSyncMessagePage_eq_take (fun c => (state.get c).getD 0) c hn

section

variable {env : SyncEnv} {db : SyncDatabase} {u : Uuid} {channels : List Uuid}
  {cursor : Uuid -> Nat} {since : Option Instant} {limit : Nat}

theorem selectedChannels_of_request (hne : channels ≠ []) (hnodup : channels.Nodup)
    (happroved : forall c, c ∈ channels -> db.toDatabase.Approved c u) :
    selectedChannels db.toDatabase u (syncRequestOf channels cursor since limit).channels
      = orderByAsc Uuid.str channels := by
  have hkeys : forall c, c ∈ (channelState
      (syncRequestOf channels cursor since limit).channels).keys ↔ c ∈ channels := by
    intro c
    rw [mem_channelState]
    simp [syncRequestOf]
  unfold selectedChannels
  dsimp only
  rw [isEmpty_channelState, if_neg (by simpa [syncRequestOf] using hne)]
  refine orderByAsc_eq_of_perm
    (((Table.nodup_keys _).filter _).map (fun _ _ h => Uuid.str_injective h)) ?_
  refine (List.perm_ext_iff_of_nodup ((Table.nodup_keys _).filter _) hnodup).mpr ?_
  intro c
  rw [List.mem_filter, hkeys, List.contains_iff_mem, mem_approvedChannels]
  exact and_iff_left_of_imp (happroved c)

/-- One call for channels that can be read. -/
theorem sync_of_readable (hne : channels ≠ []) (hnodup : channels.Nodup)
    (happroved : forall c, c ∈ channels -> db.toDatabase.Approved c u)
    (hlive : forall c, c ∈ channels -> db.toDatabase.Live c)
    (hreadable : forall c, c ∈ channels -> LastMessageReadable env.crypto db.toDatabase c) :
    exists response,
      sync env db u (syncRequestOf channels cursor since limit) = Except.ok response ∧
      response.messages = (missedMessages db.toDatabase channels cursor).take limit := by
  have hselected : selectedChannels db.toDatabase u
      (syncRequestOf channels cursor since limit).channels = orderByAsc Uuid.str channels :=
    selectedChannels_of_request hne hnodup happroved
  have hok : exists response,
      sync env db u (syncRequestOf channels cursor since limit) = Except.ok response := by
    apply sync_eq_ok.mpr
    intro c hc
    rw [hselected] at hc
    have hc := (orderByAsc_perm _ _).mem_iff.mp hc
    exact ⟨hlive c hc, hreadable c hc⟩
  rcases hok with ⟨response, hok⟩
  refine ⟨response, hok, ?_⟩
  rw [(sync_response hok).2, hselected, syncMessages_eq_take]
  refine congrArg (List.take limit) (List.flatMap_congr ?_)
  intro c hc
  apply backlog_congr
  show ((channelState (channels.map (fun c => ⟨c, some (cursor c)⟩))).get c).getD 0 = cursor c
  rw [get_channelState ((orderByAsc_perm _ _).mem_iff.mp hc)]
  rfl

theorem syncRounds_eq (hne : channels ≠ []) (hnodup : channels.Nodup)
    (happroved : forall c, c ∈ channels -> db.toDatabase.Approved c u)
    (hlive : forall c, c ∈ channels -> db.toDatabase.Live c)
    (hreadable : forall c, c ∈ channels -> LastMessageReadable env.crypto db.toDatabase c)
    (calls : Nat) :
    syncRounds env db u channels since limit calls cursor = Except.ok
      (rounds channelOf seqIdOf (orderedMessages db.toDatabase) limit
        (orderByAsc Uuid.str channels) calls cursor) := by
  induction calls generalizing cursor with
  | zero => rfl
  | succ calls ih =>
      rcases sync_of_readable hne hnodup happroved hlive hreadable with
        ⟨response, hok, hmessages⟩
      unfold syncRounds
      refine bind_eq_ok.mpr ⟨response, hok, bind_eq_ok.mpr ⟨_, ih, ?_⟩⟩
      rw [hmessages]
      rfl

/-!
# When the backfill is complete
-/

/-- However often the client calls, every call is answered and the pages are as they should be. -/
def BackfillCompletes (env : SyncEnv) (db : SyncDatabase) (userId : Uuid) (channels : List Uuid)
    (cursor : Uuid -> Nat) (since : Option Instant) (limit : Nat) : Prop :=
  forall calls, exists pages,
    syncRounds env db userId channels since limit calls cursor = Except.ok pages ∧
      pages.length = calls ∧ Backfilled db.toDatabase channels cursor limit pages

/-- The channels that are served when none is named. -/
def unnamedChannels (db : Database) (userId : Uuid) : List Uuid :=
  (orderByAsc Uuid.str (approvedChannels db userId)).take protocolChannelArrayMax

/--
The last message of every channel can be read.  Without a channel all channels of the user are
served; then these have to be live and readable too, and without messages.
-/
def AllReadable (crypto : MessageCrypto) (db : Database) (userId : Uuid)
    (channels : List Uuid) : Prop :=
  (forall c, c ∈ channels -> LastMessageReadable crypto db c) ∧
  (channels = [] -> forall c, c ∈ unnamedChannels db userId -> db.Live c ∧
    LastMessageReadable crypto db c ∧ forall row, ¬ Missed db [c] (fun _ => 0) row)

/-- An answer to a request without channels. -/
theorem sync_unnamed {response : SyncResponse}
    (h : sync env db u (syncRequestOf [] cursor since limit) = Except.ok response) :
    response.messages = ((unnamedChannels db.toDatabase u).flatMap
      (backlog seqIdOf (orderedMessages db.toDatabase) (fun _ => 0))).take limit := by
  rw [(sync_response h).2, syncMessages_eq_take]
  rfl

theorem backlog_eq_nil {c : Uuid} :
    backlog seqIdOf (orderedMessages db.toDatabase) (fun _ => 0) c = [] ↔
      forall row, ¬ Missed db.toDatabase [c] (fun _ => 0) row := by
  rw [List.eq_nil_iff_forall_not_mem]
  apply forall_congr'
  intro row
  rw [← mem_missedMessages]
  unfold missedMessages
  rw [List.mem_flatMap]
  simp [orderByAsc]

theorem backfilled_replicate {calls : Nat} :
    Backfilled db.toDatabase [] cursor limit (List.replicate calls []) := by
  have hempty : (List.replicate calls ([] : List (Uuid × Message))).flatten = [] := by
    simp
  refine ⟨?_, ?_, ?_, ?_, ?_, ?_⟩
  · intro page hpage
    rw [List.eq_of_mem_replicate hpage]
    exact Nat.zero_le _
  · intro row hrow
    rw [hempty] at hrow
    cases hrow
  · rw [hempty]
    exact List.nodup_nil
  · intro c
    rw [hempty]
    exact List.Pairwise.nil
  · intro _ row hrow
    exact absurd hrow.2.2.1 List.not_mem_nil
  · intro i page _ hpage
    exact List.eq_of_mem_replicate (List.mem_of_getElem? hpage)

theorem syncRounds_unnamed
    (h : forall c, c ∈ unnamedChannels db.toDatabase u -> db.toDatabase.Live c ∧
      LastMessageReadable env.crypto db.toDatabase c ∧
        forall row, ¬ Missed db.toDatabase [c] (fun _ => 0) row) (calls : Nat) :
    syncRounds env db u [] since limit calls cursor = Except.ok (List.replicate calls []) := by
  induction calls generalizing cursor with
  | zero => rfl
  | succ calls ih =>
      have hok : exists response,
          sync env db u (syncRequestOf [] cursor since limit) = Except.ok response :=
        sync_eq_ok.mpr (fun c hc => ⟨(h c hc).1, (h c hc).2.1⟩)
      rcases hok with ⟨response, hok⟩
      have hnone : response.messages = [] := by
        rw [sync_unnamed hok, List.flatMap_eq_nil_iff.mpr, List.take_nil]
        intro c hc
        exact backlog_eq_nil.mpr (h c hc).2.2
      unfold syncRounds
      refine bind_eq_ok.mpr ⟨response, hok, bind_eq_ok.mpr ⟨_, ih, ?_⟩⟩
      rw [hnone]
      rfl

theorem BackfillCompletes.first_call
    (h : BackfillCompletes env db u channels cursor since limit) :
    exists response,
      sync env db u (syncRequestOf channels cursor since limit) = Except.ok response ∧
        Backfilled db.toDatabase channels cursor limit [response.messages] := by
  rcases h 1 with ⟨pages, hpages, _, hbackfilled⟩
  rcases bind_eq_ok.mp hpages with ⟨response, hok, hpages⟩
  rcases bind_eq_ok.mp hpages with ⟨rest, hrest, hpages⟩
  cases hrest
  cases hpages
  exact ⟨response, hok, hbackfilled⟩

theorem readable_of_unnamed (hlimit : 1 ≤ limit)
    (h : BackfillCompletes env db u [] cursor since limit) {c : Uuid}
    (hc : c ∈ unnamedChannels db.toDatabase u) :
    db.toDatabase.Live c ∧ LastMessageReadable env.crypto db.toDatabase c ∧
      forall row, ¬ Missed db.toDatabase [c] (fun _ => 0) row := by
  rcases h.first_call with ⟨response, hok, hbackfilled⟩
  have hview := sync_eq_ok.mp ⟨response, hok⟩ c hc
  have hzero : missedCount db.toDatabase [] cursor ⌈/⌉ limit ≤ 0 := by
    rw [ceilDiv_le_iff_le_mul hlimit, ← length_missedMessages List.nodup_nil]
    exact Nat.zero_le _
  have hnone := hbackfilled.silent 0 response.messages hzero rfl
  rw [sync_unnamed hok, List.take_eq_nil_iff] at hnone
  have hempty := List.flatMap_eq_nil_iff.mp (hnone.resolve_left (by omega)) c hc
  exact ⟨hview.1, hview.2, backlog_eq_nil.mp hempty⟩

theorem sync_backfill_iff (hunique : UniqueSeqIds db.toDatabase) (hnodup : channels.Nodup)
    (hlive : forall c, c ∈ channels -> db.toDatabase.Live c)
    (happroved : forall c, c ∈ channels -> db.toDatabase.Approved c u) (hlimit : 1 ≤ limit) :
    BackfillCompletes env db u channels cursor since limit ↔
      AllReadable env.crypto db.toDatabase u channels := by
  by_cases hne : channels = []
  · subst hne
    constructor
    · intro h
      exact ⟨fun _ hc => absurd hc List.not_mem_nil,
        fun _ c hc => readable_of_unnamed hlimit h hc⟩
    · intro h calls
      exact ⟨_, syncRounds_unnamed (h.2 rfl) calls, List.length_replicate, backfilled_replicate⟩
  · constructor
    · intro h
      refine ⟨?_, fun hempty => absurd hempty hne⟩
      intro c hc
      rcases h.first_call with ⟨response, hok, _⟩
      refine (sync_eq_ok.mp ⟨response, hok⟩ c ?_).2
      rw [selectedChannels_of_request hne hnodup happroved]
      exact (orderByAsc_perm _ _).mem_iff.mpr hc
    · intro h calls
      refine ⟨_, syncRounds_eq hne hnodup happroved hlive h.1 calls, ?_⟩
      rw [rounds_eq_portions (increasing_orderedMessages hunique) channelOf_orderedMessages
        ((orderByAsc_perm _ _).nodup_iff.mpr hnodup)]
      exact ⟨length_portions _ _ _, backfilled_portions hunique hnodup hlimit calls⟩

end

/-!
# A message whose key is lost
-/

def isReadable (crypto : MessageCrypto) (db : Database) (channelId : Uuid) : Bool :=
  (lastMessageOf db channelId).all
    (fun row => (decryptedMessagePayload crypto row.2).toOption.isSome)

theorem isReadable_iff {crypto : MessageCrypto} {db : Database} {c : Uuid} :
    isReadable crypto db c = true ↔ LastMessageReadable crypto db c := by
  unfold isReadable LastMessageReadable
  cases lastMessageOf db c with
  | none => simp
  | some last =>
      rcases last with ⟨id, message⟩
      rw [Option.all_some, Option.isSome_iff_exists]
      simp only [toOption_eq_some]
      constructor
      · intro h id' message' heq
        cases heq
        exact h
      · intro h
        exact h id message rfl

theorem uniqueSeqIds_of_nodup {db : Database}
    (h : (db.messages.rows.map (fun row => (channelOf row, seqIdOf row))).Nodup) :
    UniqueSeqIds db := by
  intro id id' m m' hget hget' hchannel hseq
  have hsame := List.inj_on_of_nodup_map h (Table.mem_rows.mpr hget) (Table.mem_rows.mpr hget')
    (Prod.ext hchannel hseq)
  exact congrArg Prod.fst hsame

theorem twoChannels_member (body : String) : forall c : Uuid, c ∈ [100, 200] ->
    (twoChannels body).toDatabase.Live c ∧ (twoChannels body).toDatabase.Approved c 1 := by
  have hcheck : [100, 200].all (fun c => (twoChannels "").toDatabase.isLive c &&
      decide ((twoChannels "").toDatabase.Approved c 1)) = true := by
    decide +kernel
  intro c hc
  have hboth := List.all_eq_true.mp hcheck c hc
  rw [Bool.and_eq_true] at hboth
  exact ⟨Database.isLive_iff.mp hboth.1, of_decide_eq_true hboth.2⟩

/-- The key of the last message of the first channel is no longer configured. -/
theorem lost_key_stops_backfill :
    (UniqueSeqIds (twoChannels "enc:v2:k0:thello").toDatabase ∧
      forall c : Uuid, c ∈ [100, 200] -> (twoChannels "enc:v2:k0:thello").toDatabase.Live c ∧
        (twoChannels "enc:v2:k0:thello").toDatabase.Approved c 1) ∧
    ¬ BackfillCompletes sampleSyncEnv (twoChannels "enc:v2:k0:thello") 1 [100, 200]
      (fun _ => 0) none 2 := by
  refine ⟨⟨uniqueSeqIds_of_nodup (by decide +kernel), twoChannels_member _⟩, ?_⟩
  intro h
  rcases h.first_call with ⟨response, hok, _⟩
  have hselected : (100 : Uuid) ∈ selectedChannels (twoChannels "enc:v2:k0:thello").toDatabase 1
      (syncRequestOf [100, 200] (fun _ => 0) none 2).channels := by
    rw [selectedChannels_of_request (by decide) (by decide)
      (fun c hc => (twoChannels_member _ c hc).2)]
    exact (orderByAsc_perm _ _).mem_iff.mpr List.mem_cons_self
  have hreadable := isReadable_iff.mpr (sync_eq_ok.mp ⟨response, hok⟩ 100 hselected).2
  have hnot : isReadable sampleSyncEnv.crypto (twoChannels "enc:v2:k0:thello").toDatabase 100
      = false := by
    decide +kernel
  rw [hnot] at hreadable
  cases hreadable

/-- Three messages in pages of two. -/
theorem two_channels_backfilled :
    missedCount (twoChannels "enc:v2:k1:thello").toDatabase [100, 200] (fun _ => 0) = 3 ∧
    BackfillCompletes sampleSyncEnv (twoChannels "enc:v2:k1:thello") 1 [100, 200] (fun _ => 0)
      none 2 := by
  refine ⟨by decide +kernel, (sync_backfill_iff (uniqueSeqIds_of_nodup (by decide +kernel))
    (by decide) (fun c hc => (twoChannels_member _ c hc).1)
    (fun c hc => (twoChannels_member _ c hc).2) (by decide)).mpr ⟨?_, nofun⟩⟩
  intro c _
  exact lastMessageReadable_of_allDecrypt (by decide +kernel) c

end MessagingSystem
