import MessagingSystem.Foundation.Bytes

/-!
# Authenticated encryption

A cipher that binds associated data.  Nothing is assumed about secrecy: decryption under the
same key, nonce and associated data inverts encryption, and the tag has a fixed size.
-/

namespace MessagingSystem
namespace Foundation

structure Aead (tagSize : Nat) where
  encrypt : (key nonce plaintext aad : Bytes) -> Bytes
  decrypt : (key nonce ciphertext aad : Bytes) -> Option Bytes
  decrypt_encrypt : forall key nonce plaintext aad,
    decrypt key nonce (encrypt key nonce plaintext aad) aad = some plaintext
  encrypt_length : forall key nonce plaintext aad,
    (encrypt key nonce plaintext aad).length = plaintext.length + tagSize

/-- The tag is constant; good enough to evaluate concrete histories. -/
def Aead.transparent (tagSize : Nat) : Aead tagSize where
  encrypt _ _ plaintext _ := plaintext ++ List.replicate tagSize 0
  decrypt _ _ ciphertext _ := some (ciphertext.take (ciphertext.length - tagSize))
  decrypt_encrypt := by
    intro key nonce plaintext aad
    simp
  encrypt_length := by
    intro key nonce plaintext aad
    simp

/-!
# Tokens

Text encrypted to a printable token, as Fernet does it.  The stamp is the time and the
initialization vector that go into the token.  All tokens for one text have the same length.
-/

structure Fernet where
  encrypt : (key stamp : Bytes) -> (text : String) -> String
  decrypt : (key : Bytes) -> (token : String) -> Option String
  decrypt_encrypt : forall key stamp text, decrypt key (encrypt key stamp text) = some text
  encrypt_ne_empty : forall key stamp text, encrypt key stamp text ≠ ""
  encrypt_length : forall key key' stamp stamp' text,
    (encrypt key stamp text).toList.length = (encrypt key' stamp' text).toList.length

/-- A token that shows its text. -/
def Fernet.transparent : Fernet where
  encrypt _ _ text := String.ofList ('t' :: text.toList)
  decrypt _ token :=
    match token.toList with
    | 't' :: text => some (String.ofList text)
    | _ => none
  decrypt_encrypt := by
    intro key stamp text
    simp
  encrypt_ne_empty := by
    intro key stamp text h
    have hlist := congrArg String.toList h
    simp at hlist
  encrypt_length := by
    intro key key' stamp stamp' text
    rfl

end Foundation
end MessagingSystem
