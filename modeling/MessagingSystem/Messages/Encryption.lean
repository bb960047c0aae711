import MessagingSystem.Foundation.Base64
import MessagingSystem.Foundation.JsonRead
import MessagingSystem.Uploads.Encryption

/-!
# The storage formats of message bodies

A body is written as a versioned envelope that names its key.  Older rows may hold a token of
the legacy key or, where the configuration permits it, plain text.
-/

namespace MessagingSystem

open Foundation

/-- The configured keys; their ids have been checked when the settings were read. -/
structure KeyRing where
  activeKeyId : String
  masterKey : String -> Option Bytes
  keyIds_valid : forall keyId, (masterKey keyId).isSome = true -> isDataKeyId keyId = true

/--
The key ring with the derivation of message keys, the token scheme, the key of legacy tokens
and the settings of `core.encryption`; `readFloat` is Python's reader of numbers.
-/
structure MessageCrypto where
  ring : KeyRing
  deriveMessageKey : Bytes -> Bytes
  fernet : Fernet
  legacyKey : Option Bytes
  allowLegacyPlaintextMessages : Bool
  readFloat : List Char -> Option FloatText
  readFloat_text : forall x, readFloat x.text = some x

def messageV2Prefix : String := "enc:v2:"

def legacyJsonField : String := "_enc_v1"

def v2JsonField : String := "_enc_v2"

def maxMessageTokenLength : Nat := 524288

inductive MessageStorageFormat where
  | unknown
  | v2 (keyId : String)
  | legacyV1
  | plaintext
  deriving DecidableEq, Repr

def decryptionFailed (message : String) : Failure :=
  appError message 500 "DECRYPTION_FAILED"

/-!
# Envelopes
-/

/-- `text.split(sep, n)`. -/
def splitMax (sep : Char) : Nat -> List Char -> List (List Char)
  | 0, text => [text]
  | n + 1, text =>
      if sep ∈ text then
        text.takeWhile (fun c => c != sep) ::
          splitMax sep n (text.dropWhile (fun c => c != sep)).tail
      else [text]

def startsWith (pre : String) (text : String) : Bool :=
  pre.toList.isPrefixOf text.toList

def isMessageToken (token : String) : Bool :=
  token != "" && decide (token.toList.length ≤ maxMessageTokenLength)

def parseV2TextEnvelope (ciphertext : String) : Except Failure (Option (String × String)) :=
  if startsWith messageV2Prefix ciphertext then
    match (splitMax ':' 3 ciphertext.toList).map String.ofList with
    | [enc, v2, keyId, token] => do
        require (enc == "enc" && v2 == "v2")
          (decryptionFailed "invalid encrypted message envelope")
        require (isDataKeyId keyId && isMessageToken token)
          (decryptionFailed "invalid encrypted message envelope")
        pure (some (keyId, token))
    | _ => throw (decryptionFailed "invalid encrypted message envelope")
  else pure none

def isFernetTokenChar (c : Char) : Bool :=
  c.isAlphanum || c == '_' || c == '-'

/-- `_FERNET_TOKEN_RE.fullmatch(value)`. -/
def matchesFernetToken (value : List Char) : Bool :=
  let padding := value.dropWhile isFernetTokenChar
  !(value.takeWhile isFernetTokenChar).isEmpty && decide (padding.length ≤ 2) &&
    padding.all (fun c => c == '=')

def looksLikeLegacyFernetToken (value : String) : Bool :=
  isMessageToken value && matchesFernetToken value.toList &&
    match base64Decode value.toList with
    | some decoded => decide (73 ≤ decoded.length) && decoded.head? == some 0x80
    | none => false

/-- Whether the keys are exactly the given ones, as `set(payload) == {...}`. -/
def hasExactKeys (members : List (String × Json)) (keys : List String) : Bool :=
  members.all (fun m => keys.contains m.1) &&
    keys.all (fun k => (members.map Prod.fst).contains k)

def strictV2JsonEnvelope (members : List (String × Json)) :
    Except Failure (Option (String × String)) :=
  match Json.member? members v2JsonField with
  | none => pure none
  | some envelope => do
      require (hasExactKeys members [v2JsonField])
        (decryptionFailed "invalid encrypted json envelope")
      match envelope with
      | Json.obj fields => do
          require (hasExactKeys fields ["kid", "token"])
            (decryptionFailed "invalid encrypted json envelope")
          match Json.member? fields "kid", Json.member? fields "token" with
          | some (Json.str keyId), some (Json.str token) => do
              require (isDataKeyId keyId && isMessageToken token)
                (decryptionFailed "invalid encrypted json envelope")
              pure (some (keyId, token))
          | _, _ => throw (decryptionFailed "invalid encrypted json envelope")
      | _ => throw (decryptionFailed "invalid encrypted json envelope")

/-!
# Formats
-/

def inspectTextMessageFormat : Option String -> MessageStorageFormat
  | none => MessageStorageFormat.unknown
  | some value =>
      if startsWith messageV2Prefix value then
        match parseV2TextEnvelope value with
        | Except.ok (some (keyId, _)) => MessageStorageFormat.v2 keyId
        | _ => MessageStorageFormat.unknown
      else if startsWith "enc:" value then MessageStorageFormat.unknown
      else if looksLikeLegacyFernetToken value then MessageStorageFormat.legacyV1
      else MessageStorageFormat.plaintext

/-- The token of a legacy payload, if it has the form of one. -/
def legacyJsonToken (members : List (String × Json)) : Option String :=
  match hasExactKeys members [legacyJsonField], Json.member? members legacyJsonField with
  | true, some (Json.str token) =>
      if looksLikeLegacyFernetToken token then some token else none
  | _, _ => none

def hasReservedKey (members : List (String × Json)) : Bool :=
  members.any (fun m => startsWith "_enc_" m.1)

def inspectJsonMessageFormat : Option Json -> MessageStorageFormat
  | some (Json.obj members) =>
      if (Json.member? members v2JsonField).isSome then
        match strictV2JsonEnvelope members with
        | Except.ok (some (keyId, _)) => MessageStorageFormat.v2 keyId
        | _ => MessageStorageFormat.unknown
      else if (Json.member? members legacyJsonField).isSome then
        if (legacyJsonToken members).isSome then MessageStorageFormat.legacyV1
        else MessageStorageFormat.unknown
      else if hasReservedKey members then MessageStorageFormat.unknown
      else MessageStorageFormat.plaintext
  | _ => MessageStorageFormat.unknown

/-!
# Encryption
-/

section

variable (env : MessageCrypto)

/-- The message key of a configured master key. -/
def messageKey (keyId code : String) : Except Failure Bytes :=
  match env.ring.masterKey keyId with
  | some master => pure (env.deriveMessageKey master)
  | none => throw (appError "referenced data encryption key is unavailable" 500 code)

def v2TextEnvelope (keyId token : String) : String :=
  messageV2Prefix ++ keyId ++ ":" ++ token

def encryptMessageWithKey (stamp : Bytes) (plaintext keyId : String) :
    Except Failure String := do
  let key ← messageKey env keyId "ENCRYPTION_FAILED"
  pure (v2TextEnvelope keyId (env.fernet.encrypt key stamp plaintext))

def v2JsonEnvelope (keyId token : String) : Json :=
  Json.obj [(v2JsonField, Json.obj [("kid", Json.str keyId), ("token", Json.str token)])]

def encryptJsonPayloadWithKey (stamp : Bytes) (payload : Json) (keyId : String) :
    Except Failure Json := do
  let key ← messageKey env keyId "ENCRYPTION_FAILED"
  pure (v2JsonEnvelope keyId (env.fernet.encrypt key stamp (Json.dumpsText payload)))

/-!
# Decryption
-/

def decryptV2Token (keyId token : String) : Except Failure String := do
  let key ← messageKey env keyId "DECRYPTION_FAILED"
  orFail (env.fernet.decrypt key token) (decryptionFailed "unable to decrypt message")

def decryptLegacyToken (token : String) : Except Failure String := do
  let key ← orFail env.legacyKey
    (decryptionFailed "legacy message decryption key is unavailable")
  orFail (env.fernet.decrypt key token) (decryptionFailed "unable to decrypt legacy message")

def decryptMessage (ciphertext : String) : Except Failure String := do
  let parsed ← parseV2TextEnvelope ciphertext
  match parsed with
  | some (keyId, token) => decryptV2Token env keyId token
  | none =>
      if startsWith "enc:" ciphertext then
        throw (decryptionFailed "unknown encrypted message format")
      else if looksLikeLegacyFernetToken ciphertext then decryptLegacyToken env ciphertext
      else if env.allowLegacyPlaintextMessages then pure ciphertext
      else throw (decryptionFailed "plaintext message storage is not permitted")

/-- `json.loads` of a decrypted text, which has to be an object. -/
def loadDecrypted (raw : String) : Except Failure Json :=
  match Json.loads env.readFloat raw with
  | some (Json.obj members) => pure (Json.obj members)
  | _ => throw (decryptionFailed "invalid decrypted json payload")

def decryptJsonPayload (payload : Json) : Except Failure Json :=
  match payload with
  | Json.obj members => do
      let parsed ← strictV2JsonEnvelope members
      match parsed with
      | some (keyId, token) => do
          let raw ← decryptV2Token env keyId token
          loadDecrypted env raw
      | none =>
          if (Json.member? members legacyJsonField).isSome then do
            let token ← orFail (legacyJsonToken members)
              (decryptionFailed "invalid legacy encrypted json envelope")
            let raw ← decryptLegacyToken env token
            loadDecrypted env raw
          else if hasReservedKey members then
            throw (decryptionFailed "unknown encrypted json format")
          else if env.allowLegacyPlaintextMessages then pure payload
          else throw (decryptionFailed "plaintext json message storage is not permitted")
  | _ => throw (decryptionFailed "invalid encrypted json payload")

end

end MessagingSystem
