import MessagingSystem.Uploads.Access

/-!
# Only the owner opens an upload to others

Whoever may read an upload owns it, or reads it by way of an image that its owner has set
or of a message to which its owner has attached it.  The history of a run is part of the
statement: the step at which the owner did so is one of the steps before.
-/

namespace MessagingSystem

open Foundation
open Script

variable {db db' : Database} {url : String}
variable {trace : List (Option (RowLock × LockMode) × Database)}
variable {e : (uploadWorkload checkNetloc).system.Execution}

/-!
# What an owner can do
-/

inductive AvatarOf where
  | user (userId : Uuid)
  | channel (channelId : Uuid)

def Database.avatarOf (db : Database) : AvatarOf -> Option String
  | AvatarOf.user userId => (db.users.get userId).bind User.avatarUrl
  | AvatarOf.channel channelId => (db.channels.get channelId).bind Channel.avatarUrl

theorem avatarOf_user (db : Database) (u : Uuid) :
    db.avatarOf (AvatarOf.user u) = (db.users.get u).bind User.avatarUrl :=
  rfl

theorem avatarOf_channel (db : Database) (c : Uuid) :
    db.avatarOf (AvatarOf.channel c) = (db.channels.get c).bind Channel.avatarUrl :=
  rfl

/-- The call, as the service sees it, gives the channel this image. -/
def Call.SetsAvatar (env : Env) (actorUserId channelId : Uuid) (url : String) : Call -> Prop
  | Call.createChannel owner req =>
      owner = actorUserId ∧ env.fresh 0 = channelId ∧ req.avatarUrl = some url
  | Call.updateChannel c a req =>
      a = actorUserId ∧ c = channelId ∧ req.avatarUrl = some (some url)
  | _ => False

section

variable (checkNetloc : String -> Except Failure Unit)

def UploadAction.SetsAvatar (actorUserId : Uuid) :
    UploadAction -> AvatarOf -> String -> Prop
  | UploadAction.channel env call, AvatarOf.channel channelId, url =>
      exists validated,
        call.validated checkNetloc env.settings.isProductionLike = Except.ok validated ∧
        validated.SetsAvatar env actorUserId channelId url
  | UploadAction.updateMe isProductionLike userId req, AvatarOf.user target, url =>
      userId = actorUserId ∧ target = actorUserId ∧ exists given,
        req.avatarUrl = some given ∧
        normalizeAvatarUrl checkNetloc isProductionLike given = Except.ok (some url)
  | _, _, _ => False

variable {checkNetloc}

/-- The image names the upload, and the user has set it in an earlier step. -/
def ImageSetBy (e : (uploadWorkload checkNetloc).system.Execution) (n : Nat)
    (ownerUserId fileId : Uuid) (target : AvatarOf) : Prop :=
  exists m action url, m < n ∧ e.labelAt m = StoreLabel.outside action ∧
    action.SetsAvatar checkNetloc ownerUserId target url ∧
    (e.stateAt n).committed.avatarOf target = some url ∧
    extractUploadIdFromUrl checkNetloc (some url) = Except.ok (some fileId)

/-- The user has published the message with the upload in an earlier step. -/
def AttachedBy (e : (uploadWorkload checkNetloc).system.Execution) (n : Nat)
    (ownerUserId fileId messageId channelId : Uuid) : Prop :=
  exists m t session env req message outbox record, m < n ∧
    e.labelAt m = StoreLabel.commit t ∧ (e.stateAt m).sessions.get t = some session ∧
    session.request = MessageRequest.publish env channelId ownerUserId req ∧
    fileId ∈ req.attachments.getD [] ∧
    session.request.script.Returns session.seen
      (MessageResult.published messageId message outbox record)

inductive Readable (e : (uploadWorkload checkNetloc).system.Execution) (n : Nat)
    (ownerUserId userId fileId : Uuid) : Prop where
  | own (howner : userId = ownerUserId)
  | userAvatar (hset : ImageSetBy e n ownerUserId fileId (AvatarOf.user ownerUserId))
  | channelAvatar {channelId : Uuid} {channel : Channel}
      (hset : ImageSetBy e n ownerUserId fileId (AvatarOf.channel channelId))
      (hget : (e.stateAt n).committed.channels.get channelId = some channel)
      (hlive : channel.deletedAt = none)
      (hvisible : channel.visibility = ChannelVisibility.public ∨
        (e.stateAt n).committed.Approved channelId userId)
  | attachment {messageId channelId : Uuid} {message : Message}
      (hattached : AttachedBy e n ownerUserId fileId messageId channelId)
      (hget : (e.stateAt n).committed.messages.get messageId = some message)
      (hchannel : message.channelId = channelId)
      (hpresent : message.deletedAt = none)
      (hlive : (e.stateAt n).committed.Live channelId)
      (happroved : (e.stateAt n).committed.Approved channelId userId)

structure UploadsConfidential (e : (uploadWorkload checkNetloc).system.Execution) : Prop where
  readable : forall n userId fileId, n ≤ e.length ->
    canAccessUpload checkNetloc (e.stateAt n).committed userId fileId = Except.ok true ->
    exists upload, (e.stateAt n).committed.uploads.get fileId = some upload ∧
      Readable e n upload.ownerUserId userId fileId
  byOwner : forall n userId fileId upload, n ≤ e.length ->
    (e.stateAt n).committed.uploads.get fileId = some upload ->
    canAccessUpload checkNetloc (e.stateAt n).committed userId fileId = Except.ok true ->
    userId ≠ upload.ownerUserId ->
    (exists target, ImageSetBy e n upload.ownerUserId fileId target) ∨
      exists messageId channelId,
        AttachedBy e n upload.ownerUserId fileId messageId channelId

/-!
# Images
-/

variable {c userId u fileId : Uuid} {target : AvatarOf} {action : UploadAction}

/-- Uploads stay, with their owner. -/
def UploadsStay (db db' : Database) : Prop :=
  forall fileId upload, db.uploads.get fileId = some upload -> exists upload',
    db'.uploads.get fileId = some upload' ∧ upload'.ownerUserId = upload.ownerUserId

theorem uploadsStay_of_eq (h : db'.uploads = db.uploads) :
    UploadsStay db db' := by
  intro fileId upload hget
  rw [h]
  exact ⟨upload, hget, rfl⟩

theorem UploadsStay.trans {a b d : Database} (h1 : UploadsStay a b) (h2 : UploadsStay b d) :
    UploadsStay a d := by
  intro fileId upload hget
  rcases h1 fileId upload hget with ⟨upload', hget', howner⟩
  rcases h2 fileId upload' hget' with ⟨upload'', hget'', howner'⟩
  exact ⟨upload'', hget'', howner'.trans howner⟩

theorem createChannel_channels {env : Env} {owner : Uuid} {req : ChannelCreateRequest}
    (h : createChannel env db owner req = Except.ok (db', c)) :
    checkAvatar env owner req.avatarUrl = Except.ok () ∧ exists slug,
      db'.channels = db.channels.set (env.fresh 0) (some (newChannel owner slug req)) := by
  rcases bind_eq_ok.mp h with ⟨_, _, h⟩
  rcases bind_eq_ok.mp h with ⟨_, havatar, h⟩
  rcases bind_eq_ok.mp h with ⟨slugBase, _, h⟩
  rcases bind_eq_ok.mp h with ⟨_, _, h⟩
  rcases bind_eq_ok.mp h with ⟨_, _, h⟩
  rcases bind_eq_ok.mp h with ⟨_, _, h⟩
  rcases bind_eq_ok.mp h with ⟨bound, hbound, h⟩
  cases pure_eq_ok.mp h
  refine ⟨havatar, freeSlug db slugBase, ?_⟩
  rw [(logCreation_touched (enqueueBrokerBindingOutbox_touched hbound) _ _ _ _ _).channels]
  rfl

theorem updateChannel_checked {env : Env} {a : Uuid} {req : ChannelPatchRequest}
    {channel : Channel} (h : updateChannel env db c a req = Except.ok (db', channel)) :
    checkAvatar env a req.avatarUrl.join = Except.ok () := by
  rcases bind_eq_ok.mp h with ⟨_, _, h⟩
  rcases bind_eq_ok.mp h with ⟨_, _, h⟩
  rcases bind_eq_ok.mp h with ⟨_, havatar, _⟩
  exact havatar

theorem avatarOf_channel_set {c' : Uuid} {channel : Channel}
    (h : db'.channels = db.channels.set c (some channel))
    (hurl : db'.avatarOf (AvatarOf.channel c') = some url) :
    db.avatarOf (AvatarOf.channel c') = some url ∨ (c' = c ∧ channel.avatarUrl = some url) := by
  rw [avatarOf_channel, h, Table.get_set] at hurl
  split at hurl
  · rename_i heq
    exact Or.inr ⟨heq, hurl⟩
  · exact Or.inl hurl

/-- A call changes images of channels only, and it checks the image that it sets. -/
theorem avatarOf_call {env : Env} {call : Call} (h : call.apply env db = Except.ok db')
    (hurl : db'.avatarOf target = some url) :
    db.avatarOf target = some url ∨ exists actor channelId,
      target = AvatarOf.channel channelId ∧ call.SetsAvatar env actor channelId url ∧
      checkAvatar env actor (some url) = Except.ok () := by
  rcases (Call.effect h).exists_change with ⟨mid, pairs, hframe, hchange, htouched⟩
  cases target with
  | user userId =>
      rw [avatarOf_user, htouched.users, hframe.users] at hurl
      exact Or.inl hurl
  | channel c' =>
      have hmid : mid.avatarOf (AvatarOf.channel c') = some url := by
        rw [avatarOf_channel, htouched.channels] at hurl
        exact hurl
      -- A row that is written again with its old image.
      have hkept : forall {c : Uuid} {old new : Channel}, db.channels.get c = some old ->
          mid.channels = db.channels.set c (some new) -> new.avatarUrl = old.avatarUrl ->
          db.avatarOf (AvatarOf.channel c') = some url := by
        intro c old new hget hset hsame
        rcases avatarOf_channel_set hset hmid with hold | ⟨heq, hnew⟩
        · exact hold
        · rw [avatarOf_channel, heq, hget, Option.bind_some, ← hsame]
          exact hnew
      cases hchange with
      | quiet _ _ hchannels hmemberships =>
          rw [avatarOf_channel, hchannels] at hmid
          exact Or.inl hmid
      | created c owner req channel row hfresh hchannels =>
          rcases map_fst_eq_ok.mp h with ⟨r, hcreate⟩
          rcases createChannel_channels hcreate with ⟨hcheck, slug, hset⟩
          rcases avatarOf_channel_set hset hurl with hold | ⟨heq, hnew⟩
          · exact Or.inl hold
          · have havatar : req.avatarUrl = some url := hnew
            rw [havatar] at hcheck
            exact Or.inr ⟨owner, c', rfl, ⟨rfl, heq.symm, havatar⟩, hcheck⟩
      | member _ c u channel row hchannel hlive hchannels =>
          exact Or.inl (hkept hchannel hchannels rfl)
      | edited c a req channel _ hchannel hlive hchannels =>
          rcases map_fst_eq_ok.mp h with ⟨r, hupdate⟩
          have hcheck := updateChannel_checked hupdate
          cases hgiven : req.avatarUrl with
          | none =>
              refine Or.inl (hkept hchannel hchannels ?_)
              show req.avatarUrl.getD channel.avatarUrl = channel.avatarUrl
              rw [hgiven]
              rfl
          | some given =>
              rcases avatarOf_channel_set hchannels hmid with hold | ⟨heq, hnew⟩
              · exact Or.inl hold
              · have havatar : given = some url := by
                  have hpatched : req.avatarUrl.getD channel.avatarUrl = some url := hnew
                  rw [hgiven] at hpatched
                  exact hpatched
                rw [hgiven, havatar] at hcheck
                rw [havatar] at hgiven
                exact Or.inr ⟨a, c', rfl, ⟨rfl, heq.symm, hgiven⟩, hcheck⟩
      | switched _ c channel deletedAt hchannel hswitch hchannels =>
          exact Or.inl (hkept hchannel hchannels rfl)

theorem updateMeImages_ok {isProductionLike : Bool} {req : UpdateMeRequest}
    (h : updateMeImages checkNetloc isProductionLike db userId req = Except.ok db') :
    exists user avatarUrl, db.users.get userId = some user ∧
      req.avatarUrl.mapM (normalizeAvatarUrl checkNetloc isProductionLike)
        = Except.ok avatarUrl ∧
      validateGivenImage checkNetloc db userId avatarUrl "avatar" = Except.ok () ∧
      db' = { db with users := db.users.set userId (some
        { user with
          displayName := req.displayName.getD user.displayName
          avatarUrl := avatarUrl.getD user.avatarUrl }) } := by
  rcases bind_eq_ok.mp h with ⟨avatarUrl, havatar, h⟩
  rcases bind_eq_ok.mp h with ⟨_, _, h⟩
  rcases bind_eq_ok.mp h with ⟨user, huser, h⟩
  rcases bind_eq_ok.mp h with ⟨_, hcheck, h⟩
  rcases bind_eq_ok.mp h with ⟨_, _, h⟩
  exact ⟨user, avatarUrl, orFail_eq_ok.mp huser, havatar, hcheck, (pure_eq_ok.mp h).symm⟩

theorem avatarOf_updateMeImages {isProductionLike : Bool} {req : UpdateMeRequest}
    (h : updateMeImages checkNetloc isProductionLike db userId req = Except.ok db')
    (hurl : db'.avatarOf target = some url) :
    db.avatarOf target = some url ∨
      ((UploadAction.updateMe isProductionLike userId req).SetsAvatar checkNetloc userId
          target url ∧
        validateAvatarUploadReference checkNetloc db userId (some url) = Except.ok ()) := by
  rcases updateMeImages_ok h with ⟨user, avatarUrl, huser, havatar, hcheck, hdb⟩
  subst hdb
  cases target with
  | channel c => exact Or.inl hurl
  | user u =>
      change ((db.users.set userId _).get u).bind User.avatarUrl = some url at hurl
      rw [Table.get_set] at hurl
      split at hurl
      · rename_i heq
        have hnew : avatarUrl.getD user.avatarUrl = some url := hurl
        cases avatarUrl with
        | none =>
            rw [avatarOf_user, heq, huser]
            exact Or.inl hnew
        | some given =>
            have hgiven : given = some url := hnew
            subst hgiven
            refine Or.inr ⟨⟨rfl, heq, ?_⟩, hcheck⟩
            cases hreq : req.avatarUrl with
            | none =>
                rw [hreq] at havatar
                cases havatar
            | some raw =>
                rw [hreq] at havatar
                rcases bind_eq_ok.mp havatar with ⟨normalized, hnormalized, heq'⟩
                cases pure_eq_ok.mp heq'
                exact ⟨raw, rfl, hnormalized⟩
      · exact Or.inl hurl

theorem createUpload_ok {env : UploadEnv} {req : UploadCreateRequest}
    (h : createUpload env db u req = Except.ok db') :
    exists upload, db.uploads.get env.fresh = none ∧
      db' = { db with uploads := db.uploads.set env.fresh (some upload) } := by
  simp only [createUpload, bind_eq_ok, require_eq_ok, pure_eq_ok,
    Option.isNone_iff_eq_none] at h
  rcases h with ⟨_, _, _, _, _, _, _, _, _, _, _, _, _, _, _, hnone, _, _, hdb⟩
  exact ⟨_, hnone, hdb.symm⟩

theorem storeUploadContent_ok (h : storeUploadContent db u fileId = Except.ok db') :
    exists upload, db.uploads.get fileId = some upload ∧
      db' = { db with uploads := db.uploads.set fileId (some
        { upload with publicUrl := some (attachmentUrl fileId) }) } := by
  rcases bind_eq_ok.mp h with ⟨upload, hupload, h⟩
  rcases bind_eq_ok.mp h with ⟨_, _, h⟩
  rcases bind_eq_ok.mp h with ⟨_, _, h⟩
  exact ⟨upload, orFail_eq_ok.mp hupload, (pure_eq_ok.mp h).symm⟩

/-- Every action checks the images that it sets. -/
theorem avatarOf_run (h : action.run checkNetloc db = Except.ok db')
    (hurl : db'.avatarOf target = some url) :
    db.avatarOf target = some url ∨ exists actor,
      action.SetsAvatar checkNetloc actor target url ∧
      validateAvatarUploadReference checkNetloc db actor (some url) = Except.ok () := by
  cases action with
  | channel env call =>
      rcases bind_eq_ok.mp h with ⟨validated, hvalidated, happly⟩
      rcases avatarOf_call happly hurl with hold | ⟨actor, c, htarget, hsets, hcheck⟩
      · exact Or.inl hold
      · subst htarget
        refine Or.inr ⟨actor, ⟨validated, hvalidated, ?_⟩, hcheck⟩
        cases validated <;> exact hsets
  | account userId user =>
      cases pure_eq_ok.mp h
      left
      cases target with
      | channel c => exact hurl
      | user u =>
          change ((db.users.set userId _).get u).bind User.avatarUrl = some url at hurl
          rw [Table.get_set] at hurl
          split at hurl
          · rename_i heq
            rw [avatarOf_user, heq]
            exact hurl
          · exact hurl
  | updateMe isProductionLike userId req =>
      rcases avatarOf_updateMeImages h hurl with hold | ⟨hsets, hcheck⟩
      · exact Or.inl hold
      · exact Or.inr ⟨userId, hsets, hcheck⟩
  | createUpload env actorUserId req =>
      rcases createUpload_ok h with ⟨upload, _, hdb⟩
      rw [hdb] at hurl
      exact Or.inl hurl
  | storeUploadContent actorUserId fileId =>
      rcases storeUploadContent_ok h with ⟨upload, _, hdb⟩
      rw [hdb] at hurl
      exact Or.inl hurl

/-- What no action of the other services touches, and what happens to uploads. -/
structure FilesKept (db db' : Database) : Prop where
  messages : db'.messages = db.messages
  messageAttachments : db'.messageAttachments = db.messageAttachments
  uploads : UploadsStay db db'

theorem filesKept_of_run (h : action.run checkNetloc db = Except.ok db') : FilesKept db db' := by
  cases action with
  | channel env call =>
      rcases bind_eq_ok.mp h with ⟨validated, _, happly⟩
      rcases (Call.effect happly).exists_change with ⟨mid, pairs, hframe, _, htouched⟩
      exact ⟨htouched.messages.trans hframe.messages,
        htouched.messageAttachments.trans hframe.messageAttachments,
        uploadsStay_of_eq (htouched.uploads.trans hframe.uploads)⟩
  | account userId user =>
      cases pure_eq_ok.mp h
      exact ⟨rfl, rfl, uploadsStay_of_eq rfl⟩
  | updateMe isProductionLike userId req =>
      rcases updateMeImages_ok h with ⟨user, avatarUrl, _, _, _, hdb⟩
      rw [hdb]
      exact ⟨rfl, rfl, uploadsStay_of_eq rfl⟩
  | createUpload env actorUserId req =>
      rcases createUpload_ok h with ⟨upload, hnone, hdb⟩
      rw [hdb]
      refine ⟨rfl, rfl, ?_⟩
      intro fileId old hget
      exact ⟨old, Table.get_set_of_free hnone hget, rfl⟩
  | storeUploadContent actorUserId fileId =>
      rcases storeUploadContent_ok h with ⟨upload, hupload, hdb⟩
      rw [hdb]
      refine ⟨rfl, rfl, ?_⟩
      intro fileId' old hget
      show exists upload', (db.uploads.set fileId _).get fileId' = some upload' ∧ _
      rw [Table.get_set]
      split
      · rename_i heq
        rw [heq, hupload] at hget
        cases hget
        exact ⟨_, rfl, rfl⟩
      · exact ⟨old, hget, rfl⟩

/-!
# Attachments
-/

variable {id : Uuid}

/-- The attachment is one of the wanted uploads and belonged to the sender when it was read. -/
def IsOwnAttachment (senderId : Uuid) (fileIds : List Uuid) (seen : List Database)
    (attachment : Attachment) : Prop :=
  attachment.fileId ∈ fileIds ∧ exists db upload, db ∈ seen ∧
    db.uploads.get attachment.fileId = some upload ∧ upload.ownerUserId = senderId

theorem normalizeAttachment_ok {attachment : Attachment}
    (h : normalizeAttachment db u fileId = Except.ok attachment) :
    attachment.fileId = fileId ∧ exists upload, db.uploads.get fileId = some upload ∧
      upload.ownerUserId = u := by
  rcases bind_eq_ok.mp h with ⟨upload, hupload, h⟩
  rcases bind_eq_ok.mp h with ⟨_, howner, h⟩
  rcases bind_eq_ok.mp h with ⟨_, _, h⟩
  rw [← pure_eq_ok.mp h]
  exact ⟨rfl, upload, orFail_eq_ok.mp hupload, beq_iff_eq.mp (require_eq_ok.mp howner)⟩

theorem normalizeAttachmentsFrom_own {done fileIds : List Uuid} {attachments : List Attachment}
    (h : Ends (normalizeAttachmentsFrom u done fileIds) trace attachments) :
    forall a, a ∈ attachments -> IsOwnAttachment u fileIds (trace.map Prod.snd) a := by
  induction fileIds generalizing done trace attachments with
  | nil =>
      rcases ends_pure.mp h with ⟨_, heq⟩
      intro a ha
      rw [← heq] at ha
      cases ha
  | cons fileId fileIds ih =>
      rcases ends_lift_bind.mp h with ⟨_, _, h⟩
      rcases ends_read_bind.mp h with ⟨db, rest, htrace, h⟩
      rcases ends_lift_bind.mp h with ⟨attachment, hattachment, h⟩
      rcases ends_bind.mp h with ⟨first, last, attachments', hrest, hnext, h⟩
      rcases ends_pure.mp h with ⟨_, heq⟩
      rw [htrace, hrest]
      intro a ha
      rw [← heq] at ha
      rcases List.mem_cons.mp ha with ha | ha
      · rcases normalizeAttachment_ok hattachment with ⟨hid, upload, hupload, howner⟩
        rw [ha]
        unfold IsOwnAttachment
        rw [hid]
        exact ⟨List.mem_cons_self, db, upload, List.mem_cons_self, hupload, howner⟩
      · rcases ih hnext a ha with ⟨hmem, d, upload, hd, hupload⟩
        refine ⟨List.mem_cons_of_mem _ hmem, d, upload, ?_, hupload⟩
        rw [List.map_cons, List.map_append]
        exact List.mem_cons_of_mem _ (List.mem_append_left _ hd)

theorem normalizeAttachments_own {fileIds : Option (List Uuid)}
    {attachments : Option (List Attachment)}
    (h : Ends (normalizeAttachments u fileIds) trace attachments) :
    forall a, a ∈ attachments.getD [] ->
      IsOwnAttachment u (fileIds.getD []) (trace.map Prod.snd) a := by
  intro a ha
  match fileIds, h with
  | none, h =>
      rcases ends_pure.mp h with ⟨_, heq⟩
      rw [← heq] at ha
      cases ha
  | some [], h =>
      rcases ends_pure.mp h with ⟨_, heq⟩
      rw [← heq] at ha
      cases ha
  | some (fileId :: fileIds), h =>
      rcases ends_lift_bind.mp h with ⟨_, _, h⟩
      rcases ends_bind.mp h with ⟨first, last, normalized, htrace, hnormalized, h⟩
      rcases ends_pure.mp h with ⟨_, heq⟩
      rw [← heq] at ha
      rcases normalizeAttachmentsFrom_own hnormalized a ha with ⟨hmem, d, upload, hd, hupload⟩
      refine ⟨hmem, d, upload, ?_, hupload⟩
      rw [htrace, List.map_append]
      exact List.mem_append_left _ hd

/-- The rows that a published message brings along. -/
theorem publishMessage_own {env : MessageEnv} {req : PublishMessageRequest} {message : Message}
    {outbox : Outbox} {record : AuditRecord} (h : Ends (publishMessage env c u req) trace
      (MessageResult.published id message outbox record)) :
    message.channelId = c ∧ forall a, a ∈ message.attachments.getD [] ->
      IsOwnAttachment u (req.attachments.getD []) (trace.map Prod.snd) a := by
  rcases ends_lock_bind.mp h with ⟨_, rest1, htrace, h⟩
  rcases ends_lift_bind.mp h with ⟨channel, _, h⟩
  rcases ends_read_bind.mp h with ⟨_, rest2, hrest1, h⟩
  split at h
  · rcases ends_bind.mp h with ⟨looked, rest3, found, hrest2, _, h⟩
    cases found with
    | some row =>
        rcases ends_pure.mp h with ⟨_, heq⟩
        cases heq
    | none =>
        rcases ends_bind.mp h with ⟨first, rest4, attachments, hrest3, hattachments, h⟩
        rcases ends_bind.mp h with ⟨_, _, target, _, _, h⟩
        rcases ends_lift_bind.mp h with ⟨encrypted, _, h⟩
        rcases ends_bind.mp h with ⟨_, _, outbox', _, _, h⟩
        rcases ends_pure.mp h with ⟨_, heq⟩
        cases heq
        refine ⟨rfl, ?_⟩
        intro a ha
        rcases normalizeAttachments_own hattachments a ha with ⟨hmem, d, upload, hd, hupload⟩
        refine ⟨hmem, d, upload, ?_, hupload⟩
        rw [htrace, hrest1, hrest2, hrest3]
        simp only [List.map_cons, List.map_append, List.mem_cons, List.mem_append]
        exact Or.inr (Or.inr (Or.inr (Or.inl hd)))
  · rcases ends_pure.mp h with ⟨_, heq⟩
    cases heq

/-!
# Committed messages
-/

/-- Messages stay in their channel. -/
def MessagesStay (db db' : Database) : Prop :=
  forall id message, db.messages.get id = some message -> exists message',
    db'.messages.get id = some message' ∧ message'.channelId = message.channelId

theorem messagesStay_of_eq (h : db'.messages = db.messages) :
    MessagesStay db db' := by
  intro id message hget
  rw [h]
  exact ⟨message, hget, rfl⟩

theorem messagesStay_change {change : Message -> Message}
    (h : forall message, (change message).channelId = message.channelId) :
    MessagesStay db (db.changeMessage id change) := by
  intro id' message hget
  show exists message', (db.messages.update id change).get id' = some message' ∧ _
  rw [Table.get_update]
  split
  · rename_i heq
    rw [← heq, hget]
    exact ⟨change message, rfl, h message⟩
  · exact ⟨message, hget, rfl⟩

structure MessageCommit (db db' : Database) : Prop where
  uploads : db'.uploads = db.uploads
  avatarOf : forall target, db'.avatarOf target = db.avatarOf target
  messages : MessagesStay db db'

theorem messageCommit_of_commit {result : MessageResult}
    (h : result.commit db = some db') : MessageCommit db db' := by
  cases result with
  | existing | unchanged | forbidden =>
      cases h
      exact ⟨rfl, fun _ => rfl, messagesStay_of_eq rfl⟩
  | edited | deleted =>
      cases h
      exact ⟨rfl, fun _ => rfl, messagesStay_change (fun _ => rfl)⟩
  | published id message outbox record =>
      rcases Option.ite_none_right_eq_some.mp h with ⟨hinsertable, h⟩
      cases h
      simp only [insertable, Bool.and_eq_true, Option.isNone_iff_eq_none] at hinsertable
      refine ⟨rfl, ?_, ?_⟩
      · intro target
        cases target with
        | user u => rfl
        | channel c =>
            show ((db.channels.update message.channelId _).get c).bind _ = _
            rw [Table.get_update, avatarOf_channel]
            split
            · rename_i heq
              rw [heq]
              cases db.channels.get message.channelId with
              | none => rfl
              | some channel => rfl
            · rfl
      · intro id' message' hget
        exact ⟨message', Table.get_set_of_free hinsertable.1.1.1 hget, rfl⟩

/-- A new row of the attachment table comes from the message that is published. -/
theorem attachment_of_commit {result : MessageResult} (h : result.commit db = some db')
    (hget : db'.messageAttachments.get (id, fileId) = some c) :
    db.messageAttachments.get (id, fileId) = some c ∨ exists message outbox record a,
      result = MessageResult.published id message outbox record ∧ message.channelId = c ∧
      db'.messages.get id = some message ∧ a ∈ message.attachments.getD [] ∧
      a.fileId = fileId := by
  cases result with
  | existing | unchanged | forbidden | edited | deleted =>
      cases h
      exact Or.inl hget
  | published id' message outbox record =>
      rcases Option.ite_none_right_eq_some.mp h with ⟨_, h⟩
      cases h
      rcases Table.get_foldl_set hget with ⟨a, ha, hkey, hvalue⟩ | hold
      · cases hkey
        exact Or.inr ⟨message, outbox, record, a, rfl, hvalue.symm,
          Table.get_set_self _ _ _, ha, rfl⟩
      · exact Or.inl hold

/-!
# Every run keeps uploads confidential
-/

variable {n : Nat}

theorem uploadsStay_of_next {store store' : Store Database MessageRequest}
    {label : StoreLabel MessageRequest UploadAction}
    (h : (uploadWorkload checkNetloc).next store label = some store') :
    UploadsStay store.committed store'.committed := by
  rcases Workload.committed_cases h with ⟨t, s, r, _, _, _, hcommit⟩ | ⟨a, _, hrun⟩ | hsame
  · exact uploadsStay_of_eq (messageCommit_of_commit hcommit).uploads
  · exact (filesKept_of_run (toOption_eq_some.mp hrun)).uploads
  · rw [hsame]
    exact uploadsStay_of_eq rfl

/-- A publication that commits attaches uploads of its sender. -/
theorem attachedBy_of_commit {t : Nat} (hn : n < e.length)
    (hlabel : e.labelAt n = StoreLabel.commit t) {session : Session Database MessageRequest}
    (hsession : (e.stateAt n).sessions.get t = some session) {message : Message} {outbox : Outbox}
    {record : AuditRecord} (hreturns : session.request.script.Returns session.seen
      (MessageResult.published id message outbox record)) {a : Attachment}
    (ha : a ∈ message.attachments.getD []) :
    exists upload, (e.stateAt n).committed.uploads.get a.fileId = some upload ∧
      AttachedBy e (n + 1) upload.ownerUserId a.fileId id message.channelId := by
  cases hrequest : session.request with
  | publish env c u req =>
      have hpublish := hreturns
      rw [hrequest] at hpublish
      rcases hpublish.exists_ends with ⟨trace, hends, hseen⟩
      rcases publishMessage_own hends with ⟨hchannel, hown⟩
      rcases hown a ha with ⟨hmem, d, upload, hd, hupload, howner⟩
      rw [hseen] at hd
      have hstay : UploadsStay d (e.stateAt n).committed :=
        Workload.seen_related (fun _ => uploadsStay_of_eq rfl) (fun _ _ _ h1 h2 => h1.trans h2)
          (fun _ _ _ hstep => uploadsStay_of_next hstep) (e.reachable (Nat.le_of_lt hn))
          hsession hd
      rcases hstay _ _ hupload with ⟨upload', hupload', howner'⟩
      refine ⟨upload', hupload', n, t, session, env, req, message, outbox, record,
        Nat.lt_succ_self n, hlabel, hsession, ?_, hmem, hreturns⟩
      rw [hrequest, hchannel, howner', howner]
  | publishConflict c u clientMsgId =>
      rw [hrequest] at hreturns
      cases publishConflict_returns hreturns
  | edit env c u id' req =>
      rw [hrequest] at hreturns
      cases editMessage_returns hreturns
  | delete env c u id' =>
      rw [hrequest] at hreturns
      cases deleteMessage_returns hreturns

/-- Users set their own images only. -/
theorem UploadAction.SetsAvatar.user_eq {actor : Uuid}
    (h : action.SetsAvatar checkNetloc actor (AvatarOf.user u) url) : u = actor := by
  cases action with
  | updateMe isProductionLike userId req => exact h.2.1
  | channel | account | createUpload | storeUploadContent => cases h

/-- Every image and every attachment goes back to a step of the owner. -/
structure UploadsOk (e : (uploadWorkload checkNetloc).system.Execution) (n : Nat) : Prop where
  images : forall target url fileId, (e.stateAt n).committed.avatarOf target = some url ->
    extractUploadIdFromUrl checkNetloc (some url) = Except.ok (some fileId) ->
    exists upload, (e.stateAt n).committed.uploads.get fileId = some upload ∧
      exists m action, m < n ∧ e.labelAt m = StoreLabel.outside action ∧
        action.SetsAvatar checkNetloc upload.ownerUserId target url
  attachments : forall id fileId c,
    (e.stateAt n).committed.messageAttachments.get (id, fileId) = some c ->
    (exists upload, (e.stateAt n).committed.uploads.get fileId = some upload ∧
      AttachedBy e n upload.ownerUserId fileId id c) ∧
    exists message, (e.stateAt n).committed.messages.get id = some message ∧
      message.channelId = c

theorem AttachedBy.later {owner : Uuid} (h : AttachedBy e n owner fileId id c) :
    AttachedBy e (n + 1) owner fileId id c := by
  rcases h with ⟨m, t, session, env, req, message, outbox, record, hm, hrest⟩
  exact ⟨m, t, session, env, req, message, outbox, record, Nat.lt_succ_of_lt hm, hrest⟩

theorem UploadsOk.step (h : UploadsOk e n) (hn : n < e.length) : UploadsOk e (n + 1) := by
  have hnext : (uploadWorkload checkNetloc).next (e.stateAt n) (e.labelAt n)
      = some (e.stateAt (n + 1)) := e.step n hn
  have hstay := uploadsStay_of_next hnext
  -- What was there before has its step already.
  have hold : forall target url fileId,
      (e.stateAt n).committed.avatarOf target = some url ->
      extractUploadIdFromUrl checkNetloc (some url) = Except.ok (some fileId) ->
      exists upload, (e.stateAt (n + 1)).committed.uploads.get fileId = some upload ∧
        exists m action, m < n + 1 ∧ e.labelAt m = StoreLabel.outside action ∧
          action.SetsAvatar checkNetloc upload.ownerUserId target url := by
    intro target url fileId hurl hid
    rcases h.images target url fileId hurl hid with ⟨upload, hget, m, action, hm, hlabel, hsets⟩
    rcases hstay _ _ hget with ⟨upload', hget', howner⟩
    rw [← howner] at hsets
    exact ⟨upload', hget', m, action, Nat.lt_succ_of_lt hm, hlabel, hsets⟩
  have hkept : forall id fileId c,
      (e.stateAt n).committed.messageAttachments.get (id, fileId) = some c ->
      MessagesStay (e.stateAt n).committed (e.stateAt (n + 1)).committed ->
      (exists upload, (e.stateAt (n + 1)).committed.uploads.get fileId = some upload ∧
        AttachedBy e (n + 1) upload.ownerUserId fileId id c) ∧
      exists message, (e.stateAt (n + 1)).committed.messages.get id = some message ∧
        message.channelId = c := by
    intro id fileId c hget hmessages
    rcases h.attachments id fileId c hget with ⟨⟨upload, hupload, hattached⟩, message, hmessage,
      hchannel⟩
    rcases hstay _ _ hupload with ⟨upload', hupload', howner⟩
    rw [← howner] at hattached
    rcases hmessages id message hmessage with ⟨message', hmessage', hsame⟩
    exact ⟨⟨upload', hupload', hattached.later⟩, message', hmessage', hsame.trans hchannel⟩
  rcases Workload.committed_cases hnext with
    ⟨t, session, result, hlabel, hsession, hreturns, hcommit⟩ | ⟨action, hlabel, hrun⟩ | hsame
  · have hdone := messageCommit_of_commit hcommit
    constructor
    · intro target url fileId hurl
      rw [hdone.avatarOf] at hurl
      exact hold target url fileId hurl
    · intro id fileId c hget
      rcases attachment_of_commit hcommit hget with hget |
        ⟨message, outbox, record, a, hresult, hchannel, hmessage, ha, hid⟩
      · exact hkept id fileId c hget hdone.messages
      · rw [hresult] at hreturns
        rcases attachedBy_of_commit hn hlabel hsession hreturns ha with
          ⟨upload, hupload, hattached⟩
        rw [hid] at hupload hattached
        rw [hchannel] at hattached
        rw [hdone.uploads]
        exact ⟨⟨upload, hupload, hattached⟩, message, hmessage, hchannel⟩
  · have hok := toOption_eq_some.mp hrun
    have hfiles := filesKept_of_run hok
    constructor
    · intro target url fileId hurl hid
      rcases avatarOf_run hok hurl with hurl | ⟨actor, hsets, hcheck⟩
      · exact hold target url fileId hurl hid
      · rcases owner_of_validateAvatar checkNetloc hcheck hid with ⟨upload, hupload, howner⟩
        rcases hstay _ _ hupload with ⟨upload', hupload', howner'⟩
        rw [← howner, ← howner'] at hsets
        exact ⟨upload', hupload', n, action, Nat.lt_succ_self n, hlabel, hsets⟩
    · intro id fileId c hget
      rw [hfiles.messageAttachments] at hget
      exact hkept id fileId c hget (messagesStay_of_eq hfiles.messages)
  · constructor
    · intro target url fileId hurl
      rw [hsame] at hurl
      exact hold target url fileId hurl
    · intro id fileId c hget
      rw [hsame] at hget
      exact hkept id fileId c hget (messagesStay_of_eq (by rw [hsame]))

theorem uploadsOk (e : (uploadWorkload checkNetloc).system.Execution) (hn : n ≤ e.length) :
    UploadsOk e n := by
  refine e.induct (I := UploadsOk e) ?_ ?_ hn
  · have hempty : (e.stateAt 0).committed = Database.empty := e.start.1
    constructor
    · intro target url fileId hurl
      rw [hempty] at hurl
      cases target <;> cases hurl
    · intro id fileId c hget
      rw [hempty] at hget
      cases hget
  · intro n hn h _
    exact h.step hn

theorem namesUpload_true {url : Option String}
    (h : namesUpload checkNetloc fileId url = Except.ok true) : exists text,
    url = some text ∧
      extractUploadIdFromUrl checkNetloc (some text) = Except.ok (some fileId) := by
  rcases bind_eq_ok.mp h with ⟨uploadId, hid, h⟩
  have heq := beq_iff_eq.mp (pure_eq_ok.mp h)
  cases url with
  | none =>
      rw [← pure_eq_ok.mp hid] at heq
      cases heq
  | some text =>
      rw [heq] at hid
      exact ⟨text, rfl, hid⟩

/-- The image by which a user who is not the owner may read. -/
theorem canAccessAvatarUpload_true
    (h : canAccessAvatarUpload checkNetloc db userId fileId = Except.ok true) :
    exists target url, db.avatarOf target = some url ∧
      extractUploadIdFromUrl checkNetloc (some url) = Except.ok (some fileId) ∧
      forall c, target = AvatarOf.channel c -> exists channel,
        db.channels.get c = some channel ∧ channel.deletedAt = none ∧
        (channel.visibility = ChannelVisibility.public ∨ db.Approved c userId) := by
  rcases bind_eq_ok.mp h with ⟨ofUser, hofUser, h⟩
  cases ofUser with
  | true =>
      rcases exists_of_anyM hofUser with ⟨row, hrow, hnames⟩
      rcases namesUpload_true hnames with ⟨url, hurl, hid⟩
      have hget := Table.mem_rows.mp (List.mem_filter.mp hrow).1
      refine ⟨AvatarOf.user row.1, url, ?_, hid, ?_⟩
      · rw [avatarOf_user, hget]
        exact hurl
      · intro c htarget
        cases htarget
  | false =>
      rcases exists_of_anyM h with ⟨row, hrow, hcheck⟩
      rcases bind_eq_ok.mp hcheck with ⟨named, hnames, hcheck⟩
      rcases (Bool.and_eq_true _ _).mp (pure_eq_ok.mp hcheck) with ⟨hnamed, hvisible⟩
      rw [hnamed] at hnames
      rcases namesUpload_true hnames with ⟨url, hurl, hid⟩
      rcases List.mem_filter.mp hrow with ⟨hmem, hlive⟩
      have hget := Table.mem_rows.mp hmem
      refine ⟨AvatarOf.channel row.1, url, ?_, hid, ?_⟩
      · rw [avatarOf_channel, hget]
        exact hurl
      · intro c htarget
        cases htarget
        refine ⟨row.2, hget,
          Option.isNone_iff_eq_none.mp ((Bool.and_eq_true _ _).mp hlive).1, ?_⟩
        rcases (Bool.or_eq_true _ _).mp hvisible with hpublic | happroved
        · exact Or.inl (beq_iff_eq.mp hpublic)
        · exact Or.inr (of_decide_eq_true happroved)

theorem canSeeAttachment_true {row : (Uuid × Uuid) × Uuid}
    (h : canSeeAttachment db userId fileId row = true) :
    row.1.2 = fileId ∧ db.Approved row.2 userId ∧
      (exists message, db.messages.get row.1.1 = some message ∧ message.deletedAt = none) ∧
      db.Live row.2 := by
  simp only [canSeeAttachment, Bool.and_eq_true, beq_iff_eq, decide_eq_true_eq,
    Option.any_eq_true, Option.isNone_iff_eq_none] at h
  rcases h with ⟨⟨⟨hid, happroved⟩, hmessage⟩, hchannel⟩
  exact ⟨hid, happroved, hmessage, hchannel⟩

theorem uploads_are_confidential (e : (uploadWorkload checkNetloc).system.Execution) :
    UploadsConfidential e := by
  have hreadable : forall n userId fileId, n ≤ e.length ->
      canAccessUpload checkNetloc (e.stateAt n).committed userId fileId = Except.ok true ->
      exists upload, (e.stateAt n).committed.uploads.get fileId = some upload ∧
        Readable e n upload.ownerUserId userId fileId := by
    intro n userId fileId hn haccess
    have hok := uploadsOk e hn
    unfold canAccessUpload at haccess
    split at haccess
    · cases haccess
    · rename_i upload hupload
      refine ⟨upload, hupload, ?_⟩
      split at haccess
      · rename_i howner
        exact Readable.own howner.symm
      · rcases bind_eq_ok.mp haccess with ⟨byAvatar, hbyAvatar, haccess⟩
        cases byAvatar with
        | true =>
            rcases canAccessAvatarUpload_true hbyAvatar with ⟨target, url, hurl, hid, hchannel⟩
            rcases hok.images target url fileId hurl hid with
              ⟨found, hfound, m, action, hm, hlabel, hsets⟩
            rw [hupload] at hfound
            cases hfound
            have hset : ImageSetBy e n upload.ownerUserId fileId target :=
              ⟨m, action, url, hm, hlabel, hsets, hurl, hid⟩
            cases target with
            | user u =>
                rw [hsets.user_eq] at hset
                exact Readable.userAvatar hset
            | channel c =>
                rcases hchannel c rfl with ⟨channel, hget, hlive, hvisible⟩
                exact Readable.channelAvatar hset hget hlive hvisible
        | false =>
            rcases List.any_eq_true.mp (pure_eq_ok.mp haccess) with ⟨row, hrow, hsee⟩
            rcases canSeeAttachment_true hsee with
              ⟨hid, happroved, ⟨message, hmessage, hpresent⟩, hlive⟩
            have hget := Table.mem_rows.mp hrow
            rcases hok.attachments row.1.1 row.1.2 row.2 hget with
              ⟨⟨found, hfound, hattached⟩, message', hmessage', hchannel⟩
            rw [hid] at hfound hattached
            rw [hupload] at hfound
            cases hfound
            rw [hmessage] at hmessage'
            cases hmessage'
            exact Readable.attachment hattached hmessage hchannel hpresent hlive happroved
  refine ⟨hreadable, ?_⟩
  intro n userId fileId upload hn hupload haccess hother
  rcases hreadable n userId fileId hn haccess with ⟨found, hfound, hread⟩
  rw [hupload] at hfound
  cases hfound
  cases hread with
  | own howner => exact absurd howner hother
  | userAvatar hset => exact Or.inl ⟨_, hset⟩
  | channelAvatar hset hget hlive hvisible => exact Or.inl ⟨_, hset⟩
  | attachment hattached hget hchannel hpresent hlive happroved =>
      exact Or.inr ⟨_, _, hattached⟩

end

/-- User 1 attaches an upload to a message of a channel which user 2 has joined. -/
def sharedUploadRun : List (StoreLabel MessageRequest UploadAction) :=
  [StoreLabel.outside (UploadAction.account 1 (sampleUser "ann")),
    StoreLabel.outside (UploadAction.account 2 (sampleUser "bob")),
    StoreLabel.outside (UploadAction.channel (sampleEnv 100)
      (Call.createChannel 1 (sampleChannelRequest "General"))),
    StoreLabel.outside (UploadAction.channel (sampleEnv 110) (Call.joinChannel 100 2 none)),
    StoreLabel.outside (UploadAction.createUpload ⟨⟨10, 1, 1, 10⟩, 0, 500⟩ 1
      ⟨"note.txt", "text/plain", 5⟩),
    StoreLabel.outside (UploadAction.storeUploadContent 1 500),
    StoreLabel.begin 0 (MessageRequest.publish
      { sampleEnv 200 with
        encryptMessage := fun text => Except.ok text
        encryptJsonPayload := fun json => Except.ok json
        transactionTime := 0 }
      100 1
      { contentText := some "see the note"
        contentJson := none
        replyToMessageId := none
        replyToSeqId := none
        attachments := some [500]
        clientMsgId := none })] ++
  List.replicate 5 (StoreLabel.statement 0) ++ [StoreLabel.commit 0]

theorem sharedUploadRun_is_confidential :
    exists e : (uploadWorkload (fun _ => pure ())).system.Execution,
      canAccessUpload (fun _ => pure ()) (e.stateAt 13).committed 2 500 = Except.ok true ∧
      ((e.stateAt 13).committed.uploads.get 500).map Upload.ownerUserId = some 1 ∧
      UploadsConfidential e := by
  have hrun : (sharedUploadRun.foldlM (uploadWorkload (fun _ => pure ())).next
      ⟨Database.empty, Table.empty⟩).isSome = true := by
    decide +kernel
  have hshared : canAccessUpload (fun _ => pure ())
      (System.runStates (uploadWorkload (fun _ => pure ())).next
        ⟨Database.empty, Table.empty⟩ sharedUploadRun 13).committed 2 500
      = Except.ok true := by
    decide +kernel
  have howner : ((System.runStates (uploadWorkload (fun _ => pure ())).next
      ⟨Database.empty, Table.empty⟩ sharedUploadRun 13).committed.uploads.get 500).map
        Upload.ownerUserId = some 1 := by
    decide +kernel
  have hstart : (uploadWorkload (fun _ => pure ())).system.start
      ⟨Database.empty, Table.empty⟩ := ⟨rfl, rfl⟩
  rcases Option.isSome_iff_exists.mp hrun with ⟨last, hlast⟩
  exact ⟨System.Execution.ofRun (fun _ _ _ hstep => hstep) hstart hlast
    (StoreLabel.rollback 0), hshared, howner, uploads_are_confidential _⟩

end MessagingSystem
