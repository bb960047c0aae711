import MessagingSystem.Messages.EncryptedBodies
import MessagingSystem.Messages.Retries
import MessagingSystem.Messages.Sync

/-!
# When synchronization is answered

The view of a channel is refused when the channel is deleted, and it fails when the last
message cannot be decrypted.  One such channel among the selected ones is enough for the
request to fail as a whole.
-/

namespace MessagingSystem

open Foundation

variable {db : Database} {channels : List SyncChannelCursor}

/-!
# Views
-/

def LastMessageReadable (crypto : MessageCrypto) (db : Database) (channelId : Uuid) : Prop :=
  forall id message, lastMessageOf db channelId = some (id, message) ->
    exists content, decryptedMessagePayload crypto message = Except.ok content

section

variable {crypto : MessageCrypto} {db : SyncDatabase} {c u : Uuid} {role : Option MembershipRole}

theorem canRead_effectiveRole {channel : Channel} (h : canRead role = true) :
    canRead (effectiveRole channel u role) = true := by
  unfold effectiveRole
  split
  · rfl
  · exact h

theorem exists_previewFor (hrole : canRead role = true) {last : Option (Uuid × Message)} :
    (exists preview, previewFor crypto db.toDatabase role last = Except.ok preview) ↔
      forall id message, last = some (id, message) ->
        exists content, decryptedMessagePayload crypto message = Except.ok content := by
  constructor
  · intro h id message hlast
    rcases h with ⟨preview, h⟩
    rw [hlast, previewFor, if_pos hrole] at h
    rcases bind_eq_ok.mp h with ⟨_, h, _⟩
    rcases bind_eq_ok.mp h with ⟨content, hcontent, _⟩
    exact ⟨content, hcontent⟩
  · intro h
    cases last with
    | none => exact ⟨none, rfl⟩
    | some last =>
        rcases h last.1 last.2 rfl with ⟨content, hcontent⟩
        have hpreview : exists snapshot,
            lastMessagePreview crypto db.toDatabase last.1 last.2 = Except.ok snapshot :=
          ⟨_, bind_eq_ok.mpr ⟨content, hcontent, rfl⟩⟩
        rcases hpreview with ⟨snapshot, hsnapshot⟩
        rw [previewFor, if_pos hrole]
        exact ⟨some snapshot, bind_eq_ok.mpr ⟨snapshot, hsnapshot, rfl⟩⟩

theorem exists_enrichChannelPayload {channel : Channel} {adminPermissions : Option Json}
    (hrole : canRead role = true) :
    (exists view, enrichChannelPayload crypto db c channel u role adminPermissions
      = Except.ok view) ↔ LastMessageReadable crypto db.toDatabase c := by
  unfold LastMessageReadable
  rw [← exists_previewFor hrole]
  constructor
  · intro h
    rcases h with ⟨view, h⟩
    rcases bind_eq_ok.mp h with ⟨preview, hpreview, _⟩
    exact ⟨preview, hpreview⟩
  · intro h
    rcases h with ⟨preview, hpreview⟩
    exact ⟨_, bind_eq_ok.mpr ⟨preview, hpreview, rfl⟩⟩

/-- A member gets the view of a channel that is live and whose last message can be read. -/
theorem exists_getChannelView (happroved : db.toDatabase.Approved c u) :
    (exists view, getChannelView crypto db c u = Except.ok view) ↔
      db.toDatabase.Live c ∧ LastMessageReadable crypto db.toDatabase c := by
  have hrole : forall channel, canRead (effectiveRole channel u
      ((db.toDatabase.getMembership c u).map ChannelMembership.role)) = true :=
    fun channel => canRead_effectiveRole happroved
  constructor
  · intro h
    rcases h with ⟨view, h⟩
    rcases bind_eq_ok.mp h with ⟨found, hfound, h⟩
    rcases bind_eq_ok.mp h with ⟨_, _, h⟩
    rcases Option.bind_eq_some_iff.mp (orFail_eq_ok.mp hfound) with ⟨channel, hget, hfound⟩
    split at hfound
    · rename_i hlive
      cases hfound
      exact ⟨⟨channel, hget, Option.isNone_iff_eq_none.mp hlive⟩,
        (exists_enrichChannelPayload (hrole channel)).mp ⟨view, h⟩⟩
    · cases hfound
  · intro h
    rcases h with ⟨⟨channel, hget, hlive⟩, hreadable⟩
    have hfound : getChannelWithRole db.toDatabase c u = some (channel,
        effectiveRole channel u
          ((db.toDatabase.getMembership c u).map ChannelMembership.role),
        (db.toDatabase.getMembership c u).bind ChannelMembership.adminPermissions) := by
      refine Option.bind_eq_some_iff.mpr ⟨channel, hget, ?_⟩
      rw [hlive]
      rfl
    rcases (exists_enrichChannelPayload (hrole channel)).mpr hreadable with ⟨view, hview⟩
    refine ⟨view, bind_eq_ok.mpr ⟨_, orFail_eq_ok.mpr hfound, ?_⟩⟩
    refine bind_eq_ok.mpr ⟨(), require_eq_ok.mpr ?_, hview⟩
    have hsome := hrole channel
    dsimp only
    cases hcase : effectiveRole channel u
        ((db.toDatabase.getMembership c u).map ChannelMembership.role) with
    | none =>
        rw [hcase] at hsome
        cases hsome
    | some role => exact Bool.not_eq_true' _ ▸ Bool.and_false _

end

/-!
# Selected channels
-/

variable {c u : Uuid}

theorem mem_approvedChannels : c ∈ approvedChannels db u ↔ db.Approved c u := by
  unfold approvedChannels Database.Approved Database.role Database.getMembership
  rw [List.mem_filterMap]
  constructor
  · intro h
    rcases h with ⟨⟨⟨c', u'⟩, m⟩, hrow, hif⟩
    split at hif
    · rename_i hcond
      rcases hcond with ⟨hu, happroved⟩
      cases hif
      cases hu
      rw [Table.mem_rows.mp hrow]
      exact happroved
    · cases hif
  · intro happroved
    cases hget : db.memberships.get (c, u) with
    | none =>
        rw [hget] at happroved
        cases happroved
    | some m =>
        rw [hget] at happroved
        exact ⟨((c, u), m), Table.mem_rows.mpr hget, if_pos ⟨rfl, happroved⟩⟩

theorem nodup_approvedChannels (db : Database) (u : Uuid) : (approvedChannels db u).Nodup := by
  refine List.Pairwise.filterMap _ ?_ db.memberships.rows_pairwise
  intro a b hne c hc c' hc' heq
  split at hc
  · rename_i ha
    split at hc'
    · rename_i hb
      cases hc
      cases hc'
      exact hne (Prod.ext heq (ha.1.trans hb.1.symm))
    · cases hc'
  · cases hc

theorem mem_channelState :
    c ∈ (channelState channels).keys ↔ exists entry, entry ∈ channels ∧ entry.channelId = c := by
  have hfold : forall (state : Table Uuid Nat),
      c ∈ (channels.foldl (fun state entry =>
        state.set entry.channelId (some (entry.lastSeenSeqId.getD 0))) state).keys ↔
      (exists entry, entry ∈ channels ∧ entry.channelId = c) ∨ c ∈ state.keys := by
    induction channels with
    | nil => simp
    | cons entry channels ih =>
        intro state
        rw [List.foldl_cons, ih, Table.mem_keys, Table.mem_keys, Table.get_set]
        by_cases heq : c = entry.channelId
        · rw [if_pos heq]
          simp [heq]
        · rw [if_neg heq]
          have hne : entry.channelId ≠ c := fun h => heq h.symm
          simp [hne]
  have hempty : c ∉ (Table.empty : Table Uuid Nat).keys := by
    rw [Table.mem_keys]
    simp
  exact (hfold Table.empty).trans (or_iff_left hempty)

theorem approved_of_selected (h : c ∈ selectedChannels db u channels) : db.Approved c u := by
  unfold selectedChannels at h
  dsimp only at h
  split at h
  · exact mem_approvedChannels.mp
      ((orderByAsc_perm _ _).mem_iff.mp (List.mem_of_mem_take h))
  · have hmem := (List.mem_filter.mp ((orderByAsc_perm _ _).mem_iff.mp h)).2
    exact mem_approvedChannels.mp (List.contains_iff_mem.mp hmem)

/-- The request is answered if every selected channel is live and its last message readable. -/
theorem sync_eq_ok {env : SyncEnv} {db : SyncDatabase} {req : SyncRequest} :
    (exists response, sync env db u req = Except.ok response) ↔
      forall c, c ∈ selectedChannels db.toDatabase u req.channels ->
        db.toDatabase.Live c ∧ LastMessageReadable env.crypto db.toDatabase c := by
  have hviews : (exists updates, (selectedChannels db.toDatabase u req.channels).mapM (fun c => do
      let patch ← getChannelView env.crypto db c u
      pure (c, patch)) = Except.ok updates) ↔
      forall c, c ∈ selectedChannels db.toDatabase u req.channels ->
        db.toDatabase.Live c ∧ LastMessageReadable env.crypto db.toDatabase c := by
    rw [exists_mapM_eq_ok]
    apply forall_congr'
    intro c
    apply imp_congr_right
    intro hc
    rw [← exists_getChannelView (approved_of_selected hc)]
    constructor
    · intro h
      rcases h with ⟨_, h⟩
      rcases bind_eq_ok.mp h with ⟨view, hview, _⟩
      exact ⟨view, hview⟩
    · intro h
      rcases h with ⟨view, hview⟩
      exact ⟨(c, view), bind_eq_ok.mpr ⟨view, hview, rfl⟩⟩
  rw [← hviews]
  constructor
  · intro h
    rcases h with ⟨response, h⟩
    rcases bind_eq_ok.mp h with ⟨updates, hupdates, _⟩
    exact ⟨updates, hupdates⟩
  · intro h
    rcases h with ⟨updates, hupdates⟩
    exact ⟨_, bind_eq_ok.mpr ⟨updates, hupdates, rfl⟩⟩

/-- What an answer consists of. -/
theorem sync_response {env : SyncEnv} {db : SyncDatabase} {req : SyncRequest}
    {response : SyncResponse} (h : sync env db u req = Except.ok response) :
    response.channelUpdates.map Prod.fst = selectedChannels db.toDatabase u req.channels ∧
      response.messages = syncMessages db.toDatabase (channelState req.channels) req.limit
        (selectedChannels db.toDatabase u req.channels) := by
  rcases bind_eq_ok.mp h with ⟨updates, hupdates, h⟩
  cases h
  exact ⟨map_fst_of_mapM hupdates, rfl⟩

/-!
# Which requests are answered as they should be
-/

def Database.isLive (db : Database) (channelId : Uuid) : Bool :=
  (db.channels.get channelId).any (fun channel => channel.deletedAt.isNone)

theorem Database.isLive_iff : db.isLive c = true ↔ db.Live c := by
  unfold Database.isLive Database.Live
  cases db.channels.get c with
  | none | some => simp

/--
The channels an answer should cover: those of the request, or the first ones of the user, that
are live and in which the user is owner, admin or member.
-/
def coveredChannels (db : Database) (userId : Uuid) (channels : List SyncChannelCursor) :
    List Uuid :=
  let live := (approvedChannels db userId).filter db.isLive
  if channels.isEmpty then (orderByAsc Uuid.str live).take protocolChannelArrayMax
  else orderByAsc Uuid.str ((channelState channels).keys.filter (fun c => live.contains c))

/-- No requested channel of the user is deleted, or none of the first ones without a request. -/
def NoneDeleted (db : Database) (userId : Uuid) (channels : List SyncChannelCursor) : Prop :=
  (forall entry, entry ∈ channels -> db.Approved entry.channelId userId ->
    db.Live entry.channelId) ∧
  (channels = [] -> forall c, c ∈ (orderByAsc Uuid.str (approvedChannels db userId)).take
    protocolChannelArrayMax -> db.Live c)

theorem isEmpty_channelState :
    (channelState channels).keys.isEmpty = channels.isEmpty := by
  cases channels with
  | nil => rfl
  | cons entry channels =>
      have hmem : entry.channelId ∈ (channelState (entry :: channels)).keys :=
        mem_channelState.mpr ⟨entry, List.mem_cons_self, rfl⟩
      rw [List.isEmpty_cons, List.isEmpty_eq_false_iff_exists_mem]
      exact ⟨_, hmem⟩

theorem noneDeleted_iff :
    NoneDeleted db u channels ↔ forall c, c ∈ selectedChannels db u channels -> db.Live c := by
  unfold NoneDeleted selectedChannels
  dsimp only
  rw [isEmpty_channelState]
  cases channels with
  | nil =>
      constructor
      · intro h
        exact h.2 rfl
      · intro h
        exact ⟨fun _ hmem => absurd hmem List.not_mem_nil, fun _ => h⟩
  | cons entry channels =>
      rw [List.isEmpty_cons, if_neg Bool.false_ne_true]
      constructor
      · intro h c hc
        rcases List.mem_filter.mp ((orderByAsc_perm _ _).mem_iff.mp hc) with ⟨hkey, happroved⟩
        rcases mem_channelState.mp hkey with ⟨entry', hentry, heq⟩
        have happroved := mem_approvedChannels.mp (List.contains_iff_mem.mp happroved)
        rw [← heq] at happroved ⊢
        exact h.1 entry' hentry happroved
      · intro h
        refine ⟨?_, nofun⟩
        intro entry' hentry happroved
        apply h
        refine (orderByAsc_perm _ _).mem_iff.mpr (List.mem_filter.mpr ⟨?_, ?_⟩)
        · exact mem_channelState.mpr ⟨entry', hentry, rfl⟩
        · exact List.contains_iff_mem.mpr (mem_approvedChannels.mpr happroved)

theorem selectedChannels_of_live (h : forall c, c ∈ selectedChannels db u channels -> db.Live c) :
    selectedChannels db u channels = coveredChannels db u channels := by
  unfold selectedChannels coveredChannels at *
  dsimp only at *
  rw [isEmpty_channelState] at *
  cases channels with
  | nil =>
      have hnodup : ((approvedChannels db u).map Uuid.str).Nodup :=
        (nodup_approvedChannels db u).map (fun _ _ heq => Uuid.str_injective heq)
      have hlive : forall c, c ∈ (orderByAsc Uuid.str (approvedChannels db u)).take
          protocolChannelArrayMax -> db.isLive c = true :=
        fun c hc => Database.isLive_iff.mpr (h c hc)
      show (orderByAsc Uuid.str (approvedChannels db u)).take protocolChannelArrayMax
        = (orderByAsc Uuid.str ((approvedChannels db u).filter db.isLive)).take
          protocolChannelArrayMax
      rw [orderByAsc_filter hnodup, take_filter_of_forall hlive]
  | cons entry channels =>
      rw [List.isEmpty_cons, if_neg Bool.false_ne_true] at *
      refine congrArg (orderByAsc Uuid.str) (List.filter_congr ?_)
      intro c hc
      rw [Bool.eq_iff_iff, List.contains_iff_mem, List.contains_iff_mem, List.mem_filter]
      constructor
      · intro happroved
        refine ⟨happroved, Database.isLive_iff.mpr (h c ?_)⟩
        exact (orderByAsc_perm _ _).mem_iff.mpr
          (List.mem_filter.mpr ⟨hc, List.contains_iff_mem.mpr happroved⟩)
      · intro hboth
        exact hboth.1

theorem sync_available_iff {env : SyncEnv} {db : SyncDatabase} {u : Uuid} {req : SyncRequest}
    (hreadable : forall c, LastMessageReadable env.crypto db.toDatabase c) :
    (exists response, sync env db u req = Except.ok response ∧
      response.channelUpdates.map Prod.fst = coveredChannels db.toDatabase u req.channels) ↔
      NoneDeleted db.toDatabase u req.channels := by
  rw [noneDeleted_iff]
  constructor
  · intro h
    rcases h with ⟨response, hok, _⟩
    intro c hc
    exact (sync_eq_ok.mp ⟨response, hok⟩ c hc).1
  · intro h
    rcases sync_eq_ok.mpr (fun c hc => ⟨h c hc, hreadable c⟩) with ⟨response, hok⟩
    refine ⟨response, hok, ?_⟩
    rw [(sync_response hok).1]
    exact selectedChannels_of_live h

/-!
# A deleted channel
-/

def sampleSyncEnv : SyncEnv where
  crypto := sampleMessageCrypto
  uuidOf := fun _ => none
  textOf := fun _ => ""
  now := 0

/-- The owner deletes a channel and stays a member of it. -/
def deletedChannelHistory : List ChannelAction :=
  [ChannelAction.putUser 1 (sampleUser "ann"),
    ChannelAction.call (sampleEnv 100) (Call.createChannel 1 (sampleChannelRequest "General")),
    ChannelAction.call (sampleEnv 200) (Call.deleteChannel 100 1)]

def failsWith (failure : Failure) (result : Except Failure SyncResponse) : Bool :=
  match result with
  | Except.error e => decide (e = failure)
  | Except.ok _ => false

theorem eq_error_of_failsWith {failure : Failure} {result : Except Failure SyncResponse}
    (h : failsWith failure result = true) : result = Except.error failure := by
  unfold failsWith at h
  split at h
  · rw [of_decide_eq_true h]
  · cases h

theorem deleted_channel_fails_sync :
    exists db, channelSystem.Reachable db ∧
      sync sampleSyncEnv ⟨db, Table.empty, []⟩ 1 ⟨[], none, 200⟩
        = Except.error channelNotFound ∧
      sync sampleSyncEnv ⟨db, Table.empty, []⟩ 1 ⟨[⟨100, none⟩], none, 200⟩
        = Except.error channelNotFound := by
  have hrun : (runActions Database.empty deletedChannelHistory).toOption.map (fun db =>
      failsWith channelNotFound
        (sync sampleSyncEnv ⟨db, Table.empty, []⟩ 1 ⟨[], none, 200⟩) &&
      failsWith channelNotFound
        (sync sampleSyncEnv ⟨db, Table.empty, []⟩ 1 ⟨[⟨100, none⟩], none, 200⟩))
      = some true := by
    decide +kernel
  rcases exists_reachable_of_run (P := fun _ _ => True) (fun _ _ _ => trivial) hrun with
    ⟨db, hreach, hview⟩
  rw [Bool.and_eq_true] at hview
  exact ⟨db, hreach.of_restrict, eq_error_of_failsWith hview.1, eq_error_of_failsWith hview.2⟩

def sampleMessage (channelId : Uuid) (seqId : Nat) (body : String) : Message :=
  newMessage (sampleMessageEnv 300) channelId 1 greeting seqId none none (some body, none)

/-- Two channels of one user, with two messages in the first and one in the second. -/
def twoChannels (body : String) : SyncDatabase where
  toDatabase :=
    { (runActions Database.empty (deletedChannelHistory.take 2 ++
        [ChannelAction.call (sampleEnv 200)
          (Call.createChannel 1 (sampleChannelRequest "Random"))])).toOption.getD
        Database.empty with
      messages := ((Table.empty.set 300 (some (sampleMessage 100 1 "enc:v2:k1:thello"))).set 301
        (some (sampleMessage 100 2 body))).set 302
          (some (sampleMessage 200 1 "enc:v2:k1:thello")) }
  lastSeenSeqIds := Table.empty
  events := []

def allDecrypt (crypto : MessageCrypto) (db : Database) : Bool :=
  db.messages.rows.all (fun row => (decryptedMessagePayload crypto row.2).toOption.isSome)

theorem lastMessageReadable_of_allDecrypt {crypto : MessageCrypto} {db : Database}
    (h : allDecrypt crypto db = true) (c : Uuid) : LastMessageReadable crypto db c := by
  intro id message hlast
  have hmem : (id, message) ∈ undeletedMessages db c :=
    (List.perm_insertionSort _ _).mem_iff.mp (List.mem_of_head? hlast)
  have hdecrypts := List.all_eq_true.mp h _ (List.mem_of_mem_filter hmem)
  rcases Option.isSome_iff_exists.mp hdecrypts with ⟨content, hcontent⟩
  exact ⟨content, toOption_eq_some.mp hcontent⟩

theorem two_channels_synced :
    exists response, sync sampleSyncEnv (twoChannels "enc:v2:k1:thello") 1 ⟨[], none, 200⟩
        = Except.ok response ∧
      response.channelUpdates.map Prod.fst
        = coveredChannels (twoChannels "enc:v2:k1:thello").toDatabase 1 [] := by
  have hlive : (selectedChannels (twoChannels "enc:v2:k1:thello").toDatabase 1 []).all
      (twoChannels "enc:v2:k1:thello").toDatabase.isLive = true := by
    decide +kernel
  refine (sync_available_iff (lastMessageReadable_of_allDecrypt ?_)).mpr (noneDeleted_iff.mpr ?_)
  · decide +kernel
  · intro c hc
    exact Database.isLive_iff.mp (List.all_eq_true.mp hlive c hc)

end MessagingSystem
