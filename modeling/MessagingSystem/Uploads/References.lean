import MessagingSystem.Messages.Service

/-!
# References to uploads

Profile images are URLs.  Those whose path is a content path name an upload, and both the
check when an image is set and the decision who may read the upload take the name from the
URL by the same function.
-/

namespace MessagingSystem

open Foundation

/-!
# Splitting a URL

The tests of `urlsplit` on a network location (brackets, Unicode normal forms) are a
parameter of what follows.
-/

/-- What `urllib.parse.urlsplit` returns. -/
structure SplitResult where
  scheme : String
  netloc : String
  path : String
  query : String
  fragment : String

def isSchemeChar (c : Char) : Bool :=
  c.isAlphanum || c == '+' || c == '-' || c == '.'

/-- The scheme in lower case, if there is one, and the rest. -/
def splitScheme (url : List Char) : List Char × List Char :=
  let scheme := url.takeWhile (fun c => c != ':')
  match url.dropWhile (fun c => c != ':') with
  | [] => ([], url)
  | _ :: rest =>
      if scheme.head?.any Char.isAlpha && scheme.all isSchemeChar then
        (scheme.map Char.toLower, rest)
      else ([], url)

def isNetlocChar (c : Char) : Bool :=
  c != '/' && c != '?' && c != '#'

def splitNetloc : List Char -> List Char × List Char
  | '/' :: '/' :: rest => (rest.takeWhile isNetlocChar, rest.dropWhile isNetlocChar)
  | url => ([], url)

/-- `url.split(mark, 1)`, with an empty second part when there is no mark. -/
def splitMark (mark : Char) (url : List Char) : List Char × List Char :=
  (url.takeWhile (fun c => c != mark), (url.dropWhile (fun c => c != mark)).drop 1)

/-- Tabs and line ends are taken out, and control characters and blanks in front. -/
def cleanUrl (url : String) : List Char :=
  (url.toList.dropWhile (fun c => decide (c.toNat ≤ 32))).filter
    (fun c => c.toNat != 9 && c.toNat != 10 && c.toNat != 13)

section

variable (checkNetloc : String -> Except Failure Unit)

def urlsplit (url : String) : Except Failure SplitResult := do
  let scheme := splitScheme (cleanUrl url)
  let netloc := splitNetloc scheme.2
  let fragment := splitMark '#' netloc.2
  let query := splitMark '?' fragment.1
  checkNetloc (String.ofList netloc.1)
  pure
    { scheme := String.ofList scheme.1
      netloc := String.ofList netloc.1
      path := String.ofList query.1
      query := String.ofList query.2
      fragment := String.ofList fragment.2 }

/-!
# Content paths
-/

def isUuidPosition (i : Nat) (c : Char) : Bool :=
  if i = 8 || i = 13 || i = 18 || i = 23 then c == '-' else isHexDigit c

def isUuidText (text : List Char) : Bool :=
  text.length == 36 && text.zipIdx.all (fun r => isUuidPosition r.2 r.1)

def dropText (text : String) (cs : List Char) : Option (List Char) :=
  if text.toList.isPrefixOf cs then some (cs.drop text.toList.length) else none

/-- The group of `UPLOAD_CONTENT_PATH_RE.fullmatch(path)`. -/
def uploadIdText (path : String) : Option (List Char) := do
  let rest ← (dropText "/uploads/" path.toList).or (dropText "/v1/uploads/" path.toList)
  if isUuidText (rest.take 36) && rest.drop 36 == "/content".toList then some (rest.take 36)
  else none

/-- `UUID(text)` of a text in the canonical form. -/
def uuidOfText (text : List Char) : Uuid :=
  BitVec.ofNat 128
    (digitsValue 16 ((text.filter (fun c => c != '-')).map digitOf))

def extractUploadIdFromUrl : Option String -> Except Failure (Option Uuid)
  | none => pure none
  | some value =>
      if value = "" then pure none
      else do
        let parsed ← urlsplit checkNetloc (strip value)
        pure ((uploadIdText parsed.path).map uuidOfText)

/-!
# Accepted image URLs
-/

def normalizeWebUrl (isProductionLike : Bool) (normalized fieldName : String)
    (parsed : SplitResult) : Except Failure (Option String) := do
  require (parsed.scheme == "http" || parsed.scheme == "https")
    (Failure.valueError (fieldName ++ " must use http, https, or a protected upload path"))
  require (parsed.netloc != "") (Failure.valueError (fieldName ++ " must include a host"))
  require (!(parsed.scheme == "http" && isProductionLike))
    (Failure.valueError (fieldName ++ " must use https in production-like environments"))
  pure (some normalized)

def normalizeUploadPath (normalized fieldName : String) (parsed : SplitResult) :
    Except Failure (Option String) := do
  require (parsed.netloc == "" && !("//".toList.isPrefixOf normalized.toList))
    (Failure.valueError (fieldName ++ " must not be protocol-relative"))
  require (parsed.query == "" && parsed.fragment == "")
    (Failure.valueError ("protected upload " ++ fieldName ++
      " URLs cannot include query strings or fragments"))
  let uploadId ← extractUploadIdFromUrl checkNetloc (some normalized)
  require uploadId.isSome
    (Failure.valueError (fieldName ++
      " must be an http(s) URL or /v1/uploads/\x7bfile_id\x7d/content"))
  pure (some normalized)

def normalizeProfileImageUrl (isProductionLike : Bool) (fieldName : String) :
    Option String -> Except Failure (Option String)
  | none => pure none
  | some value =>
      let normalized := strip value
      if normalized = "" then pure none
      else do
        require (normalized.toList.all (fun c => !isSpace c && decide (32 ≤ c.toNat)))
          (Failure.valueError (fieldName ++
            " cannot contain whitespace or control characters"))
        let parsed ← urlsplit checkNetloc normalized
        if parsed.scheme != "" then
          normalizeWebUrl isProductionLike normalized fieldName parsed
        else normalizeUploadPath checkNetloc normalized fieldName parsed

def normalizeAvatarUrl (isProductionLike : Bool) (value : Option String) :
    Except Failure (Option String) :=
  normalizeProfileImageUrl checkNetloc isProductionLike "avatar_url" value

def normalizeWallpaperUrl (isProductionLike : Bool) (value : Option String) :
    Except Failure (Option String) :=
  normalizeProfileImageUrl checkNetloc isProductionLike "wallpaper_url" value

/-!
# Setting an image
-/

def checkImageUpload (db : Database) (actorUserId uploadId : Uuid) (label : String) :
    Except Failure Unit := do
  let notFound := appError (label ++ " upload not found") 404 "NOT_FOUND"
  let upload ← orFail (db.uploads.get uploadId) notFound
  require (upload.ownerUserId == actorUserId) notFound
  let contentType := lower upload.contentType
  require ("image/".toList.isPrefixOf contentType.toList && contentType != "image/svg+xml")
    (appError (label ++ " upload must be a non-SVG image") 400 "VALIDATION_ERROR")
  require (hasText upload.publicUrl)
    (appError (label ++ " upload content has not been stored") 400 "VALIDATION_ERROR")

def validateProfileImageUploadReference (db : Database) (actorUserId : Uuid)
    (imageUrl : Option String) (label : String) : Except Failure Unit := do
  let uploadId ← extractUploadIdFromUrl checkNetloc imageUrl
  match uploadId with
  | none => pure ()
  | some uploadId => checkImageUpload db actorUserId uploadId label

def validateAvatarUploadReference (db : Database) (actorUserId : Uuid)
    (avatarUrl : Option String) : Except Failure Unit :=
  validateProfileImageUploadReference checkNetloc db actorUserId avatarUrl "avatar"

/-- A URL that was accepted names no upload, or one of the user who set it. -/
theorem owner_of_validateAvatar {db : Database} {actorUserId uploadId : Uuid}
    {avatarUrl : Option String}
    (h : validateAvatarUploadReference checkNetloc db actorUserId avatarUrl = Except.ok ())
    (hid : extractUploadIdFromUrl checkNetloc avatarUrl = Except.ok (some uploadId)) :
    exists upload, db.uploads.get uploadId = some upload ∧
      upload.ownerUserId = actorUserId := by
  rcases bind_eq_ok.mp h with ⟨found, hfound, h⟩
  rw [hid] at hfound
  cases hfound
  rcases bind_eq_ok.mp h with ⟨upload, hupload, h⟩
  rcases bind_eq_ok.mp h with ⟨_, howner, _⟩
  exact ⟨upload, orFail_eq_ok.mp hupload, beq_iff_eq.mp (require_eq_ok.mp howner)⟩

end

/-- The paths that the service itself hands out name their upload. -/
example : extractUploadIdFromUrl (fun _ => pure ()) (some (attachmentUrl 255))
    = Except.ok (some 255) := by
  decide +kernel

end MessagingSystem
