import MessagingSystem.Messages.Effects
import MessagingSystem.Uploads.References

/-!
# Who may read an upload

The decision looks at the owner, at the images that name the upload and at the messages it
is attached to.  The workload below is everything that can change one of these: messages
are requests of their own, and the other services commit in between.
-/

namespace MessagingSystem

open Foundation

section

variable (checkNetloc : String -> Except Failure Unit)

/-!
# The decision
-/

/-- The SQL condition `avatar_url.contains(str(file_id))`. -/
def mentions (fileId : Uuid) (url : Option String) : Bool :=
  url.any (fun text => decide (fileId.str.toList <:+: text.toList))

def namesUpload (fileId : Uuid) (url : Option String) : Except Failure Bool := do
  let uploadId ← extractUploadIdFromUrl checkNetloc url
  pure (uploadId == some fileId)

def canSeeAvatar (db : Database) (actorUserId channelId : Uuid) (channel : Channel) : Bool :=
  channel.visibility == ChannelVisibility.public ||
    decide (db.Approved channelId actorUserId)

def canAccessAvatarUpload (db : Database) (actorUserId fileId : Uuid) :
    Except Failure Bool := do
  let ofUser ← (db.users.rows.filter (fun r => mentions fileId r.2.avatarUrl)).anyM
    (fun r => namesUpload checkNetloc fileId r.2.avatarUrl)
  if ofUser then pure true
  else
    (db.channels.rows.filter
      (fun r => r.2.deletedAt.isNone && mentions fileId r.2.avatarUrl)).anyM (fun r => do
        let named ← namesUpload checkNetloc fileId r.2.avatarUrl
        pure (named && canSeeAvatar db actorUserId r.1 r.2))

/-- One row of the join over attachments, memberships, messages and channels. -/
def canSeeAttachment (db : Database) (actorUserId fileId : Uuid)
    (row : (Uuid × Uuid) × Uuid) : Bool :=
  row.1.2 == fileId && decide (db.Approved row.2 actorUserId) &&
    (db.messages.get row.1.1).any (fun message => message.deletedAt.isNone) &&
    (db.channels.get row.2).any (fun channel => channel.deletedAt.isNone)

def canAccessUpload (db : Database) (actorUserId fileId : Uuid) : Except Failure Bool :=
  match db.uploads.get fileId with
  | none => pure false
  | some upload =>
      if upload.ownerUserId = actorUserId then pure true
      else do
        let byAvatar ← canAccessAvatarUpload checkNetloc db actorUserId fileId
        if byAvatar then pure true
        else pure (db.messageAttachments.rows.any (canSeeAttachment db actorUserId fileId))

/-!
# Creating and storing uploads

How many uploads a user has created in the last day is not kept in these rows, so the
number is taken from the surroundings.
-/

structure UploadSettings where
  uploadMaxSizeBytes : Nat
  maxUploadsPerUserPerDay : Nat
  maxPendingUploadsPerUser : Nat
  maxStoredUploadBytesPerUser : Nat

structure UploadEnv where
  settings : UploadSettings
  uploadsToday : Nat
  fresh : Uuid

structure UploadCreateRequest where
  filename : String
  contentType : String
  sizeBytes : Nat

def mediaType (contentType : String) : String :=
  strip (String.ofList ((lower (strip contentType)).toList.takeWhile (fun c => c != ';')))

def isAllowedMediaType (text : String) : Bool :=
  ["image/", "video/", "audio/", "text/"].any (fun p => p.toList.isPrefixOf text.toList) ||
    ["application/json", "application/pdf"].contains text

def createUpload (env : UploadEnv) (db : Database) (actorUserId : Uuid)
    (req : UploadCreateRequest) : Except Failure Database := do
  require (decide (req.sizeBytes ≤ env.settings.uploadMaxSizeBytes))
    (appError "file too large" 400 "VALIDATION_ERROR")
  let media := mediaType req.contentType
  require (media.toList.contains '/') (appError "invalid content_type" 400 "VALIDATION_ERROR")
  require (isAllowedMediaType media)
    (appError "content_type not allowed" 400 "VALIDATION_ERROR")
  require (media != "image/svg+xml")
    (appError "svg uploads are not allowed" 400 "VALIDATION_ERROR")
  let owned := db.uploads.rows.filter (fun r => r.2.ownerUserId == actorUserId)
  require (decide (env.uploadsToday < env.settings.maxUploadsPerUserPerDay))
    (appError "daily upload quota exceeded" 429 "RESOURCE_QUOTA_EXCEEDED")
  require (decide ((owned.filter (fun r => r.2.publicUrl.isNone)).length
      < env.settings.maxPendingUploadsPerUser))
    (appError "pending upload quota exceeded" 429 "RESOURCE_QUOTA_EXCEEDED")
  require (decide ((owned.map (fun r => r.2.sizeBytes)).sum + req.sizeBytes
      ≤ env.settings.maxStoredUploadBytesPerUser))
    (appError "upload storage quota exceeded" 429 "RESOURCE_QUOTA_EXCEEDED")
  require (db.uploads.get env.fresh).isNone (Failure.integrityError "uploads_pkey")
  require (db.users.get actorUserId).isSome
    (Failure.integrityError "uploads_owner_user_id_fkey")
  pure { db with uploads := db.uploads.set env.fresh (some
    { ownerUserId := actorUserId
      filename := req.filename
      contentType := media
      sizeBytes := req.sizeBytes
      publicUrl := none }) }

/-- What a successful `store_upload_content` commits. -/
def storeUploadContent (db : Database) (actorUserId fileId : Uuid) :
    Except Failure Database := do
  let notFound := appError "upload not found" 404 "NOT_FOUND"
  let upload ← orFail (db.uploads.get fileId) notFound
  require (upload.ownerUserId == actorUserId) notFound
  require (!hasText upload.publicUrl)
    (appError "upload content is already stored" 409 "UPLOAD_IMMUTABLE")
  pure { db with uploads := db.uploads.set fileId (some
    { upload with publicUrl := some (attachmentUrl fileId) }) }

/-!
# Profiles and channels

Request schemas normalize an image URL before the service looks at it.
-/

/-- The fields of `UpdateMeRequest` about the profile; `none` is a field not given. -/
structure UpdateMeRequest where
  displayName : Option (Option String)
  avatarUrl : Option (Option String)
  wallpaperUrl : Option (Option String)

def validateGivenImage (db : Database) (userId : Uuid) (given : Option (Option String))
    (label : String) : Except Failure Unit :=
  match given with
  | none => pure ()
  | some imageUrl => validateProfileImageUploadReference checkNetloc db userId imageUrl label

def updateMeImages (isProductionLike : Bool) (db : Database) (userId : Uuid)
    (req : UpdateMeRequest) : Except Failure Database := do
  let avatarUrl ← req.avatarUrl.mapM (normalizeAvatarUrl checkNetloc isProductionLike)
  let wallpaperUrl ←
    req.wallpaperUrl.mapM (normalizeWallpaperUrl checkNetloc isProductionLike)
  let user ← orFail (db.users.get userId) (appError "invalid session" 401 "AUTH_INVALID")
  validateGivenImage checkNetloc db userId avatarUrl "avatar"
  validateGivenImage checkNetloc db userId wallpaperUrl "wallpaper"
  pure { db with users := db.users.set userId (some
    { user with
      displayName := req.displayName.getD user.displayName
      avatarUrl := avatarUrl.getD user.avatarUrl }) }

/-- The account service writes every other column. -/
def storeAccount (db : Database) (userId : Uuid) (user : User) : Database :=
  { db with users := db.users.set userId (some
    { user with avatarUrl := (db.users.get userId).bind User.avatarUrl }) }

def Call.validated (isProductionLike : Bool) : Call -> Except Failure Call
  | Call.createChannel owner req => do
      let avatarUrl ← normalizeAvatarUrl checkNetloc isProductionLike req.avatarUrl
      pure (Call.createChannel owner { req with avatarUrl := avatarUrl })
  | Call.updateChannel c a req => do
      let avatarUrl ← req.avatarUrl.mapM (normalizeAvatarUrl checkNetloc isProductionLike)
      pure (Call.updateChannel c a { req with avatarUrl := avatarUrl })
  | call => pure call

/-- The channel service with the real check of avatars. -/
def Env.withUploads (env : Env) (db : Database) : Env :=
  { env with validateAvatarUploadReference := fun userId url =>
      MessagingSystem.validateAvatarUploadReference checkNetloc db userId (some url) }

/-!
# The workload
-/

inductive UploadAction where
  | channel (env : Env) (call : Call)
  | account (userId : Uuid) (user : User)
  | updateMe (isProductionLike : Bool) (userId : Uuid) (req : UpdateMeRequest)
  | createUpload (env : UploadEnv) (actorUserId : Uuid) (req : UploadCreateRequest)
  | storeUploadContent (actorUserId fileId : Uuid)

def UploadAction.run (db : Database) : UploadAction -> Except Failure Database
  | channel env call => do
      let call ← call.validated checkNetloc env.settings.isProductionLike
      call.apply (env.withUploads checkNetloc db) db
  | account userId user => pure (storeAccount db userId user)
  | updateMe isProductionLike userId req =>
      MessagingSystem.updateMeImages checkNetloc isProductionLike db userId req
  | createUpload env actorUserId req => MessagingSystem.createUpload env db actorUserId req
  | storeUploadContent actorUserId fileId =>
      MessagingSystem.storeUploadContent db actorUserId fileId

def uploadWorkload :
    Workload Database MessageRequest UploadAction RowLock Failure MessageResult where
  start db := db = Database.empty
  script := MessageRequest.script
  commit := MessageResult.commit
  outside action db := (action.run checkNetloc db).toOption

end

end MessagingSystem
