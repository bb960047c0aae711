import MessagingSystem.Messages.Encryption

/-!
# Envelopes that are written and read

An envelope whose token is not too long is recognized with its key and decrypts to what was
encrypted.  Only bodies of a recognized format decrypt, and every failure to decrypt is reported
under one code.
-/

namespace MessagingSystem

open Foundation

variable {keyId token : String}

/-!
# Text envelopes
-/

variable {text : String}

theorem splitMax_cons {sep : Char} {a b : List Char} (h : sep ∉ a) (n : Nat) :
    splitMax sep (n + 1) (a ++ sep :: b) = a :: splitMax sep n b := by
  have hother : forall c, c ∈ a -> (c != sep) = true := by
    intro c hc
    exact bne_iff_ne.mpr (fun heq => h (heq ▸ hc))
  rw [splitMax, if_pos (by simp), List.takeWhile_append_of_pos hother,
    List.dropWhile_append_of_pos hother]
  simp

theorem colon_not_mem_keyId (h : isDataKeyId keyId = true) : ':' ∉ keyId.toList := by
  intro hmem
  simp only [isDataKeyId, Bool.and_eq_true, List.all_eq_true] at h
  exact absurd (h.2 ':' hmem) (by decide)

theorem toList_v2TextEnvelope (keyId token : String) :
    (v2TextEnvelope keyId token).toList =
      "enc".toList ++ ':' :: ("v2".toList ++ ':' :: (keyId.toList ++ ':' :: token.toList)) := by
  simp [v2TextEnvelope, messageV2Prefix]

theorem startsWith_v2TextEnvelope (keyId token : String) :
    startsWith messageV2Prefix (v2TextEnvelope keyId token) = true := by
  rw [startsWith, toList_v2TextEnvelope]
  rfl

theorem splitMax_v2TextEnvelope (h : isDataKeyId keyId = true) :
    (splitMax ':' 3 (v2TextEnvelope keyId token).toList).map String.ofList
      = ["enc", "v2", keyId, token] := by
  rw [toList_v2TextEnvelope, splitMax_cons (by decide), splitMax_cons (by decide),
    splitMax_cons (colon_not_mem_keyId h)]
  simp [splitMax]

theorem parse_v2TextEnvelope (h : isDataKeyId keyId = true) :
    parseV2TextEnvelope (v2TextEnvelope keyId token) =
      if isMessageToken token then Except.ok (some (keyId, token))
      else Except.error (decryptionFailed "invalid encrypted message envelope") := by
  unfold parseV2TextEnvelope
  rw [startsWith_v2TextEnvelope, splitMax_v2TextEnvelope h, if_pos rfl]
  dsimp only
  rw [h]
  cases isMessageToken token with
  | true | false => rfl

/-- What a parsed envelope names was checked. -/
theorem parseV2TextEnvelope_eq_ok (h : parseV2TextEnvelope text = Except.ok (some (keyId, token))) :
    startsWith messageV2Prefix text = true ∧ isDataKeyId keyId = true ∧
      isMessageToken token = true := by
  unfold parseV2TextEnvelope at h
  split at h
  · rename_i hstart
    split at h
    · rcases bind_eq_ok.mp h with ⟨_, _, h⟩
      rcases bind_eq_ok.mp h with ⟨_, hrequire, h⟩
      cases h
      have hchecked := require_eq_ok.mp hrequire
      rw [Bool.and_eq_true] at hchecked
      exact ⟨hstart, hchecked⟩
    · cases h
  · cases h

theorem parseV2TextEnvelope_eq_none (h : parseV2TextEnvelope text = Except.ok none) :
    startsWith messageV2Prefix text = false := by
  unfold parseV2TextEnvelope at h
  split at h
  · split at h
    · rcases bind_eq_ok.mp h with ⟨_, _, h⟩
      rcases bind_eq_ok.mp h with ⟨_, _, h⟩
      cases h
    · cases h
  · rename_i hstart
    exact Bool.eq_false_iff.mpr hstart

theorem inspectText_v2TextEnvelope (h : isDataKeyId keyId = true) :
    inspectTextMessageFormat (some (v2TextEnvelope keyId token)) =
      if isMessageToken token then MessageStorageFormat.v2 keyId
      else MessageStorageFormat.unknown := by
  rw [inspectTextMessageFormat, if_pos (startsWith_v2TextEnvelope keyId token),
    parse_v2TextEnvelope h]
  cases isMessageToken token with
  | true | false => rfl

/-!
# JSON envelopes
-/

theorem strict_v2JsonEnvelope (h : isDataKeyId keyId = true) :
    strictV2JsonEnvelope [(v2JsonField,
        Json.obj [("kid", Json.str keyId), ("token", Json.str token)])] =
      if isMessageToken token then Except.ok (some (keyId, token))
      else Except.error (decryptionFailed "invalid encrypted json envelope") := by
  show (do
    require (isDataKeyId keyId && isMessageToken token) _
    pure (some (keyId, token)) : Except Failure (Option (String × String))) = _
  rw [h]
  cases isMessageToken token with
  | true | false => rfl

theorem inspectJson_v2JsonEnvelope (h : isDataKeyId keyId = true) :
    inspectJsonMessageFormat (some (v2JsonEnvelope keyId token)) =
      if isMessageToken token then MessageStorageFormat.v2 keyId
      else MessageStorageFormat.unknown := by
  unfold inspectJsonMessageFormat v2JsonEnvelope
  dsimp only
  rw [strict_v2JsonEnvelope h]
  cases isMessageToken token with
  | true | false => rfl

/-!
# Decrypting what was encrypted
-/

section

variable {env : MessageCrypto} {members : List (String × Json)} {payload : Json}
  {code text : String}

theorem messageKey_eq_ok {key : Bytes} :
    messageKey env keyId code = Except.ok key ↔
      exists master, env.ring.masterKey keyId = some master ∧
        env.deriveMessageKey master = key := by
  unfold messageKey
  cases env.ring.masterKey keyId with
  | none => simp
  | some master => simp [pure_eq_ok]

theorem decryptMessage_v2TextEnvelope (h : isDataKeyId keyId = true) :
    decryptMessage env (v2TextEnvelope keyId token) =
      if isMessageToken token then decryptV2Token env keyId token
      else Except.error (decryptionFailed "invalid encrypted message envelope") := by
  unfold decryptMessage
  rw [parse_v2TextEnvelope h]
  cases isMessageToken token with
  | true | false => rfl

theorem decryptJson_v2JsonEnvelope (h : isDataKeyId keyId = true) :
    decryptJsonPayload env (v2JsonEnvelope keyId token) =
      if isMessageToken token then decryptV2Token env keyId token >>= loadDecrypted env
      else Except.error (decryptionFailed "invalid encrypted json envelope") := by
  unfold v2JsonEnvelope decryptJsonPayload
  dsimp only
  rw [strict_v2JsonEnvelope h]
  cases isMessageToken token with
  | true | false => rfl

theorem decryptV2Token_encrypt {key stamp : Bytes} (h : messageKey env keyId code = Except.ok key) :
    decryptV2Token env keyId (env.fernet.encrypt key stamp text) = Except.ok text := by
  have hkey : messageKey env keyId "DECRYPTION_FAILED" = Except.ok key :=
    messageKey_eq_ok.mpr (messageKey_eq_ok.mp h)
  unfold decryptV2Token
  rw [hkey]
  show orFail (env.fernet.decrypt key _) _ = _
  rw [env.fernet.decrypt_encrypt]
  rfl

/-- Objects that were printed are loaded again. -/
theorem loadDecrypted_dumpsText (h : Json.WellFormed (Json.obj members)) :
    loadDecrypted env (Json.dumpsText (Json.obj members)) = Except.ok (Json.obj members) := by
  unfold loadDecrypted
  rw [Json.loads_dumpsText env.readFloat_text h]
  rfl

theorem loadDecrypted_eq_ok {raw : String} (h : loadDecrypted env raw = Except.ok payload) :
    exists members, payload = Json.obj members ∧ Json.WellFormed payload := by
  unfold loadDecrypted at h
  split at h
  · rename_i members hloads
    cases h
    exact ⟨members, rfl, Json.loads_wellFormed hloads⟩
  · cases h

/-- The length of a token depends on the text alone. -/
theorem isMessageToken_encrypt (key key' stamp stamp' : Bytes) (text : String) :
    isMessageToken (env.fernet.encrypt key stamp text)
      = isMessageToken (env.fernet.encrypt key' stamp' text) := by
  unfold isMessageToken
  rw [env.fernet.encrypt_length key key' stamp stamp' text]
  have hne := bne_iff_ne.mpr (env.fernet.encrypt_ne_empty key stamp text)
  have hne' := bne_iff_ne.mpr (env.fernet.encrypt_ne_empty key' stamp' text)
  rw [hne, hne']

/-!
# Which bodies decrypt
-/

theorem inspectText_of_decrypt {body : String} (h : decryptMessage env body = Except.ok text) :
    inspectTextMessageFormat (some body) ≠ MessageStorageFormat.unknown := by
  rcases bind_eq_ok.mp h with ⟨parsed, hparsed, h⟩
  rw [inspectTextMessageFormat]
  cases parsed with
  | some envelope =>
      rcases envelope with ⟨keyId, token⟩
      rw [if_pos (parseV2TextEnvelope_eq_ok hparsed).1, hparsed]
      exact nofun
  | none =>
      rw [if_neg (Bool.eq_false_iff.mp (parseV2TextEnvelope_eq_none hparsed))]
      dsimp only at h
      split at h
      · cases h
      · rename_i hreserved
        rw [if_neg hreserved]
        split
        · exact nofun
        · exact nofun

theorem strictV2JsonEnvelope_eq_none (h : strictV2JsonEnvelope members = Except.ok none) :
    (Json.member? members v2JsonField).isSome = false := by
  unfold strictV2JsonEnvelope at h
  split at h
  · rename_i hnone
    rw [hnone]
    rfl
  · rcases bind_eq_ok.mp h with ⟨_, _, h⟩
    split at h
    · rcases bind_eq_ok.mp h with ⟨_, _, h⟩
      split at h
      · rcases bind_eq_ok.mp h with ⟨_, _, h⟩
        cases h
      · cases h
    · cases h

theorem strictV2JsonEnvelope_eq_some {envelope : String × String}
    (h : strictV2JsonEnvelope members = Except.ok (some envelope)) :
    (Json.member? members v2JsonField).isSome = true := by
  unfold strictV2JsonEnvelope at h
  split at h
  · cases h
  · rename_i found
    rw [found]
    rfl

theorem inspectJson_of_decrypt {value : Json}
    (h : decryptJsonPayload env payload = Except.ok value) :
    inspectJsonMessageFormat (some payload) ≠ MessageStorageFormat.unknown := by
  cases payload with
  | obj members =>
      rcases bind_eq_ok.mp h with ⟨parsed, hparsed, h⟩
      rw [inspectJsonMessageFormat]
      cases parsed with
      | some envelope =>
          rw [if_pos (strictV2JsonEnvelope_eq_some hparsed), hparsed]
          exact nofun
      | none =>
          rw [if_neg (Bool.eq_false_iff.mp (strictV2JsonEnvelope_eq_none hparsed))]
          dsimp only at h
          split at h
          · rename_i hlegacy
            rcases bind_eq_ok.mp h with ⟨token, htoken, _⟩
            rw [if_pos hlegacy, orFail_eq_ok.mp htoken]
            exact nofun
          · rename_i hlegacy
            rw [if_neg hlegacy]
            split at h
            · cases h
            · rename_i hreserved
              rw [if_neg hreserved]
              exact nofun
  | _ => cases h

/-- A decrypted payload is an object without repeated keys. -/
theorem decryptJsonPayload_wellFormed {value : Json} (hpayload : payload.WellFormed)
    (h : decryptJsonPayload env payload = Except.ok value) :
    exists members, value = Json.obj members ∧ value.WellFormed := by
  cases payload with
  | obj members =>
      rcases bind_eq_ok.mp h with ⟨parsed, _, h⟩
      cases parsed with
      | some envelope =>
          rcases bind_eq_ok.mp h with ⟨_, _, h⟩
          exact loadDecrypted_eq_ok h
      | none =>
          dsimp only at h
          split at h
          · rcases bind_eq_ok.mp h with ⟨_, _, h⟩
            rcases bind_eq_ok.mp h with ⟨_, _, h⟩
            exact loadDecrypted_eq_ok h
          · split at h
            · cases h
            · split at h
              · cases h
                exact ⟨members, rfl, hpayload⟩
              · cases h
  | _ => cases h

end

/-!
# What a format says about decryption
-/

def sampleMessageCrypto : MessageCrypto where
  ring :=
    { activeKeyId := "k1"
      masterKey := fun keyId => if keyId == "k1" then some [] else none
      keyIds_valid := by
        intro keyId h
        split at h
        · rename_i hkey
          rw [beq_iff_eq.mp hkey]
          decide
        · cases h }
  deriveMessageKey := id
  fernet := Fernet.transparent
  legacyKey := none
  allowLegacyPlaintextMessages := true
  readFloat := fun text => if h : isFloatText text = true then some ⟨text, h⟩ else none
  readFloat_text := fun x => dif_pos x.shape

end MessagingSystem
