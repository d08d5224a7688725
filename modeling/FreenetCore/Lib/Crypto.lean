import Mathlib.Data.List.Basic

/-!
Signatures and encryption over byte strings, as abstract schemes.

A signature scheme signs a message with a private key and checks a
signature against a public key. Nothing is assumed of it but that a
signature made with a private key is accepted under the matching public key,
which is what a correct implementation of the scheme gives. Which signatures
a wrong key or a changed message are refused is not assumed: a model that
needs a refusal states it.

A public-key encryption scheme takes its randomness as an argument, so that
each draw is explicit; encrypting may fail, every ciphertext of a key has
the key's size (as PKCS#1 v1.5 gives), and decryption undoes encryption. An
authenticated symmetric cipher takes a key and a nonce, and decryption
undoes encryption.
-/

namespace Crypto

/-- A signature scheme: signing with `SK`, checking with `PK`, and the
round trip from the one to the other. -/
structure SignatureScheme (SK PK : Type) where
  toPublicKey : SK → PK
  sign : SK → List UInt8 → List UInt8
  verify : PK → List UInt8 → List UInt8 → Bool
  verify_sign : ∀ sk msg, verify (toPublicKey sk) msg (sign sk msg) = true

attribute [simp] SignatureScheme.verify_sign

/-- A scheme the round trip holds for, to evaluate a model on: the public
key is the private key, and a signature is the key followed by the
message. -/
def echoScheme : SignatureScheme (List UInt8) (List UInt8) where
  toPublicKey sk := sk
  sign sk msg := sk ++ msg
  verify pk msg sig := sig == pk ++ msg
  verify_sign sk msg := by simp

/-- Public-key encryption with randomness drawn from `R`. -/
structure EncryptionScheme (SK PK R : Type) where
  toPublicKey : SK → PK
  encrypt : PK → R → List UInt8 → Except String (List UInt8)
  decrypt : SK → List UInt8 → Except String (List UInt8)
  size : PK → Nat
  length_encrypt : ∀ pk r m c, encrypt pk r m = .ok c → c.length = size pk
  decrypt_encrypt : ∀ sk r m c, encrypt (toPublicKey sk) r m = .ok c → decrypt sk c = .ok m

/-- An authenticated cipher: a key and a nonce encrypt, and decrypt what
they encrypted. -/
structure Aead where
  encrypt : List UInt8 → List UInt8 → List UInt8 → List UInt8
  decrypt : List UInt8 → List UInt8 → List UInt8 → Option (List UInt8)
  decrypt_encrypt : ∀ key nonce m, decrypt key nonce (encrypt key nonce m) = some m

attribute [simp] Aead.decrypt_encrypt

/-- A padding of `m` to `n` bytes that can be undone: ones, a zero, then the
message. -/
def padTo (n : Nat) (m : List UInt8) : List UInt8 := List.replicate (n - 1 - m.length) 1 ++ 0 :: m

/-- What `padTo` padded. -/
def unpad (c : List UInt8) : List UInt8 := (c.dropWhile (· == 1)).drop 1

theorem unpad_replicate (k : Nat) (m : List UInt8) : unpad (List.replicate k 1 ++ 0 :: m) = m := by
  induction k with
  | zero => rfl
  | succ k ih =>
      rw [List.replicate_succ, List.cons_append, unpad, List.dropWhile_cons_of_pos rfl]
      exact ih

theorem unpad_padTo (n : Nat) (m : List UInt8) : unpad (padTo n m) = m := unpad_replicate _ m

/-- An encryption scheme the laws hold for, to evaluate a model on: the
public key is the private key, and a ciphertext is the message padded to
512 bytes, the size of a 4096-bit key's block; a message of more than 511
bytes is refused. -/
def padScheme : EncryptionScheme (List UInt8) (List UInt8) Unit where
  toPublicKey sk := sk
  encrypt _ _ m := if m.length ≤ 511 then .ok (padTo 512 m) else .error "message too long"
  decrypt _ c := .ok (unpad c)
  size _ := 512
  length_encrypt _ _ m c h := by
    split at h
    · next hm =>
        cases h
        simp only [padTo, List.length_append, List.length_replicate, List.length_cons]
        omega
    · cases h
  decrypt_encrypt _ _ m c h := by
    split at h
    · cases h
      rw [unpad_padTo]
    · cases h

/-- A cipher the law holds for, to evaluate a model on: the nonce and the
message. -/
def echoAead : Aead where
  encrypt _ nonce m := nonce ++ m
  decrypt _ nonce c := if nonce.isPrefixOf c then some (c.drop nonce.length) else none
  decrypt_encrypt key nonce m := by simp [List.isPrefixOf_iff_prefix]

end Crypto
