import Uxsp.Python.Value

/-!
# The cryptographic libraries

`Platform` is what the code calls in `hashlib`, `cryptography` and `liboqs`: SHA-256, AES-256-GCM,
HKDF-SHA256, HMAC-SHA256, X25519, Ed25519, ML-KEM and ML-DSA, over bytes.  A call that a library
may refuse returns `Except`; the random bytes a call draws are an argument.  What the libraries
promise is stated as separate laws, so that a theorem names the ones it rests on.

* `AeadCorrect`, `ExchangeCorrect`, `SignatureCorrect`: honest use works.
* `AeadAuthentic`, `HkdfSeparates`: a key opens nothing of another key, and labels make other keys.
* `AeadBinds`, `AeadTidy`: what was encrypted opens as it was encrypted only, and what opens was.
* `AeadSized`: a ciphertext is longer than its plaintext by the tag.
* `Platform.transparent`: a platform with no secrecy that satisfies the laws, for evaluating the
  model on concrete inputs.
-/

namespace Uxsp

/-- `os.urandom(n)`. -/
abbrev Urandom (n : ℕ) := { b : Bytes // b.length = n }

/-- `n` bytes that are all `b`. -/
def Urandom.filled (n : ℕ) (b : UInt8) : Urandom n := ⟨List.replicate n b, List.length_replicate⟩

/-- A private key and its public key. -/
structure RawKeypair where
  privateKey : Bytes
  publicKey : Bytes
  deriving DecidableEq

structure Platform extends Runtime where
  /-- `AESGCM(key).encrypt(nonce, data, ad)`. -/
  aesgcmEncrypt : (key nonce data ad : Bytes) → Except PyErr Bytes
  /-- `AESGCM(key).decrypt(nonce, ciphertext, ad)`. -/
  aesgcmDecrypt : (key nonce ciphertext ad : Bytes) → Except PyErr Bytes
  /-- `HKDF(SHA256(), length, salt, info).derive(ikm)`. -/
  hkdf : (length : ℕ) → (salt : Option Bytes) → (info ikm : Bytes) → Bytes
  hkdf_length : ∀ length salt info ikm, (hkdf length salt info ikm).length = length
  /-- `hmac.new(key, message, sha256).digest()`. -/
  hmacSha256 : (key message : Bytes) → Bytes
  hmac_length : ∀ key message, (hmacSha256 key message).length = 32
  /-- `hashlib.sha256(data).digest()`. -/
  sha256 : Bytes → Bytes
  sha256_length : ∀ data, (sha256 data).length = 32
  /-- The public key of an X25519 private key. -/
  x25519Public : Bytes → Bytes
  /-- `X25519PrivateKey(mine).exchange(X25519PublicKey(theirs))`. -/
  x25519 : (mine theirs : Bytes) → Except PyErr Bytes
  ed25519Public : Bytes → Bytes
  ed25519Sign : (privateKey message : Bytes) → Except PyErr Bytes
  ed25519Verify : (publicKey signature message : Bytes) → Bool
  /-- `KeyEncapsulation.generate_keypair()` from its random bytes. -/
  kemKeypair : (coins : Urandom 64) → RawKeypair
  /-- `encap_secret(publicKey)`: the ciphertext and the shared secret. -/
  kemEncapsulate : (publicKey : Bytes) → (coins : Urandom 32) → Except PyErr (Bytes × Bytes)
  kemDecapsulate : (privateKey ciphertext : Bytes) → Except PyErr Bytes
  /-- `Signature.generate_keypair()` from its random bytes. -/
  pqcSigKeypair : (coins : Urandom 32) → RawKeypair
  pqcSign : (privateKey message : Bytes) → (coins : Urandom 32) → Except PyErr Bytes
  pqcVerify : (publicKey signature message : Bytes) → Except PyErr Bool

namespace Platform

/-- The longest plaintext and associated data AESGCM takes. -/
def aesgcmMaxSize : ℕ := 2 ^ 31 - 1

/-- AES-256-GCM takes every message of its message space, and decryption undoes encryption. -/
structure AeadCorrect (P : Platform) : Prop where
  total : ∀ {key nonce data ad : Bytes}, key.length = 32 → nonce.length = 12 →
    data.length ≤ aesgcmMaxSize → ad.length ≤ aesgcmMaxSize →
      ∃ c, P.aesgcmEncrypt key nonce data ad = .ok c
  open_seal : ∀ {key nonce data ad c : Bytes},
    P.aesgcmEncrypt key nonce data ad = .ok c → P.aesgcmDecrypt key nonce c ad = .ok data

/-- A ciphertext does not open under another key. -/
structure AeadAuthentic (P : Platform) : Prop where
  foreign : ∀ {key key' nonce data ad c : Bytes} (nonce' ad' : Bytes), key.length = 32 →
    key'.length = 32 → key ≠ key' → P.aesgcmEncrypt key nonce data ad = .ok c →
      ∃ e, P.aesgcmDecrypt key' nonce' c ad' = .error e

/-- A ciphertext opens under its own key, nonce and associated data only. -/
structure AeadBinds (P : Platform) : Prop where
  bound : ∀ {key key' nonce nonce' data ad ad' c m : Bytes}, key.length = 32 → key'.length = 32 →
    nonce.length = 12 → nonce'.length = 12 → P.aesgcmEncrypt key nonce data ad = .ok c →
      P.aesgcmDecrypt key' nonce' c ad' = .ok m → key' = key ∧ nonce' = nonce ∧ ad' = ad

/-- What opens is what its plaintext is encrypted to: the tag is a function of the rest. -/
structure AeadTidy (P : Platform) : Prop where
  seals : ∀ {key nonce data ad c : Bytes},
    P.aesgcmDecrypt key nonce c ad = .ok data → P.aesgcmEncrypt key nonce data ad = .ok c

/-- A ciphertext is its plaintext and a tag of 16 bytes. -/
structure AeadSized (P : Platform) : Prop where
  sealed : ∀ {key nonce data ad c : Bytes},
    P.aesgcmEncrypt key nonce data ad = .ok c → c.length = data.length + 16
  opened : ∀ {key nonce data ad c : Bytes},
    P.aesgcmDecrypt key nonce c ad = .ok data → c.length = data.length + 16

/-- Keys derived for the two directions of a session differ. -/
structure HkdfSeparates (P : Platform) : Prop where
  directions : ∀ info ikm : Bytes, P.hkdf 32 none (info ++ .lit ":init_to_resp") ikm ≠
    P.hkdf 32 none (info ++ .lit ":resp_to_init") ikm

/-- Diffie-Hellman keys agree and a decapsulated secret is the encapsulated one; with generated
keys the calls return, and what is sent has a size a length field can hold. -/
structure ExchangeCorrect (P : Platform) : Prop where
  agree : ∀ {a b s : Bytes}, P.x25519 a (P.x25519Public b) = .ok s →
    P.x25519 b (P.x25519Public a) = .ok s
  exchange_total : ∀ a b : Urandom 32, ∃ s, P.x25519 a (P.x25519Public b) = .ok s
  public_size : ∀ a : Urandom 32, (P.x25519Public a).length < 2 ^ 32
  decapsulate : ∀ {seed : Urandom 64} {coins : Urandom 32} {ciphertext s : Bytes},
    P.kemEncapsulate (P.kemKeypair seed).publicKey coins = .ok (ciphertext, s) →
      P.kemDecapsulate (P.kemKeypair seed).privateKey ciphertext = .ok s
  encapsulate_total : ∀ (seed : Urandom 64) (coins : Urandom 32), ∃ ciphertext s,
    P.kemEncapsulate (P.kemKeypair seed).publicKey coins = .ok (ciphertext, s) ∧
      ciphertext.length < 2 ^ 32

/-- Signing with a generated key returns, and the signature verifies under the key. -/
structure SignatureCorrect (P : Platform) : Prop where
  classical : ∀ {key : Urandom 32} {message signature : Bytes},
    P.ed25519Sign key message = .ok signature →
      P.ed25519Verify (P.ed25519Public key) signature message = true
  classical_total : ∀ (key : Urandom 32) (message : Bytes), ∃ signature,
    P.ed25519Sign key message = .ok signature
  pqc : ∀ {seed coins : Urandom 32} {message signature : Bytes},
    P.pqcSign (P.pqcSigKeypair seed).privateKey message coins = .ok signature →
      P.pqcVerify (P.pqcSigKeypair seed).publicKey signature message = .ok true
  pqc_total : ∀ (seed coins : Urandom 32) (message : Bytes), ∃ signature,
    P.pqcSign (P.pqcSigKeypair seed).privateKey message coins = .ok signature

end Platform

end Uxsp
