import Uxsp.Crypto.Hybrid
import Uxsp.Js.Value

/-!
# `crypto.ts` and `pqc.ts`

`JsPlatform` is what the SDK calls in Web Crypto and, where it can be loaded, in `@oqs/liboqs-js`.
Keys are strings in base64.  Without the module, or with a stub key, ML-KEM is replaced by random
bytes and ML-DSA by failure.
-/

namespace Uxsp

/-- ML-KEM-768 and ML-DSA-65 of `@oqs/liboqs-js`, with the sizes that they have. -/
structure Oqs where
  /-- `kem.encapsulate(publicKey)`: the ciphertext and the shared secret. -/
  encapsulate : (publicKey : Bytes) → (coins : Urandom 32) → Except JsErr (Bytes × Bytes)
  encapsulate_length : ∀ {publicKey coins ciphertext s},
    encapsulate publicKey coins = .ok (ciphertext, s) → ciphertext.length = 1088 ∧ s.length = 32
  decapsulate : (ciphertext privateKey : Bytes) → Except JsErr Bytes
  decapsulate_length : ∀ {ciphertext privateKey s},
    decapsulate ciphertext privateKey = .ok s → s.length = 32
  sign : (data privateKey : Bytes) → (coins : Urandom 32) → Except JsErr Bytes
  verify : (data signature publicKey : Bytes) → Except JsErr Bool
  verify_length : ∀ {data signature publicKey},
    verify data signature publicKey = .ok true → signature.length = 3309

structure JsPlatform extends JsRuntime where
  /-- `generateKey` and `exportKey` of X25519: the private key as `pkcs8`, the public key `raw`. -/
  x25519Keypair : (coins : Urandom 32) → RawKeypair
  /-- `importKey` of both keys and `deriveBits`. -/
  x25519 : (privateKey publicKey : Bytes) → Except JsErr Bytes
  ed25519Sign : (privateKey data : Bytes) → Except JsErr Bytes
  ed25519Verify : (publicKey signature data : Bytes) → Except JsErr Bool
  hkdf : (ikm salt info : Bytes) → (length : ℕ) → Except JsErr Bytes
  hmacSha256 : (key data : Bytes) → Except JsErr Bytes
  sha256 : Bytes → Bytes
  aesGcmEncrypt : (key nonce plaintext associatedData : Bytes) → Except JsErr Bytes
  aesGcmDecrypt : (key nonce ciphertext associatedData : Bytes) → Except JsErr Bytes
  /-- The module, if it can be loaded. -/
  oqs : Option Oqs

/-- A key pair, both keys in base64. -/
structure JsKeypair where
  publicKey : JsStr
  privateKey : JsStr
  deriving DecidableEq

/-- The random bytes of one key exchange. -/
structure JsCoins where
  exchange : Urandom 32
  kem : Urandom 32
  /-- What `getRandomValues` fills a stubbed secret and ciphertext with. -/
  stubSecret : Urandom 32
  stubCiphertext : Urandom 32
  signing : Urandom 32

namespace JsPlatform

variable (J : JsPlatform)

/-! ## `crypto.ts` -/

def generateX25519KeyPair (coins : Urandom 32) : JsKeypair where
  publicKey := JsStr.encodeBase64 (J.x25519Keypair coins).publicKey
  privateKey := JsStr.encodeBase64 (J.x25519Keypair coins).privateKey

def deriveSharedSecret (ourPrivateKey peerPublicKey : JsStr) : Except JsErr Bytes := do
  let ours ← decodeBase64 ourPrivateKey
  let theirs ← decodeBase64 peerPublicKey
  J.x25519 ours theirs

def signEd25519 (privateKey : JsStr) (data : Bytes) : Except JsErr Bytes := do
  J.ed25519Sign (← decodeBase64 privateKey) data

def verifyEd25519 (publicKey : JsStr) (signature data : Bytes) : Except JsErr Bool := do
  J.ed25519Verify (← decodeBase64 publicKey) signature data

/-! ## `pqc.ts` -/

def encapsulateMLKEM (peerPublicKey : JsStr) (coins : JsCoins) : Except JsErr (Bytes × Bytes) :=
  match J.oqs with
  | some oqs =>
      if peerPublicKey = JsStr.ofString "STUB_MLKEM_PUB" then
        .ok (coins.stubCiphertext, coins.stubSecret)
      else do oqs.encapsulate (← decodeBase64 peerPublicKey) coins.kem
  | none => .ok (coins.stubCiphertext, coins.stubSecret)

def decapsulateMLKEM (ciphertext : Bytes) (privateKey : JsStr) : Except JsErr Bytes :=
  match J.oqs with
  | some oqs =>
      if privateKey = JsStr.ofString "STUB_MLKEM_PRIV" then .ok (List.replicate 32 0)
      else do oqs.decapsulate ciphertext (← decodeBase64 privateKey)
  | none => .ok (List.replicate 32 0)

def pqcUnavailable : JsErr :=
  ⟨.error, [.lit ("PQCUnavailableError: Cannot sign with ML-DSA: PQC module is unavailable or " ++
    "stub key provided.")]⟩

def signMLDSA (privateKey : JsStr) (data : Bytes) (coins : Urandom 32) : Except JsErr Bytes :=
  match J.oqs with
  | some oqs =>
      if privateKey = JsStr.ofString "STUB_MLDSA_PRIV" then .error pqcUnavailable
      else do oqs.sign data (← decodeBase64 privateKey) coins
  | none => .error pqcUnavailable

def verifyMLDSA (publicKey : JsStr) (signature data : Bytes) : Except JsErr Bool :=
  match J.oqs with
  | some oqs =>
      if publicKey = JsStr.ofString "STUB_MLDSA_PUB" then .ok false
      else do oqs.verify data signature (← decodeBase64 publicKey)
  | none => .ok false

/-! ## Sizes -/

variable {J}

/-- A decapsulated secret has 32 bytes. -/
theorem decapsulateMLKEM_length {ciphertext s : Bytes} {privateKey : JsStr}
    (opened : J.decapsulateMLKEM ciphertext privateKey = .ok s) : s.length = 32 := by
  unfold decapsulateMLKEM at opened
  split at opened
  · split at opened
    · cases opened
      exact List.length_replicate
    · rename_i oqs _ _
      cases decoded : decodeBase64 privateKey with
      | error e =>
          rw [decoded] at opened
          cases opened
      | ok key =>
          rw [decoded] at opened
          exact oqs.decapsulate_length opened
  · cases opened
    exact List.length_replicate

/-- A signature that verifies has the size of one. -/
theorem verifyMLDSA_length {publicKey : JsStr} {signature data : Bytes}
    (valid : J.verifyMLDSA publicKey signature data = .ok true) : signature.length = 3309 := by
  unfold verifyMLDSA at valid
  split at valid
  · split at valid
    · cases valid
    · rename_i oqs _ _
      cases decoded : decodeBase64 publicKey with
      | error e =>
          rw [decoded] at valid
          cases valid
      | ok key =>
          rw [decoded] at valid
          exact oqs.verify_length valid
  · cases valid

end JsPlatform

/-! ## `bindFields` -/

/-- Every field behind its length; a length is written modulo `2 ^ 32`. -/
def jsBindFields (fields : List Bytes) : Bytes := LengthPrefix.join packLength fields

end Uxsp
