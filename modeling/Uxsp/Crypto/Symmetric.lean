import Uxsp.Crypto.Platform

/-!
# `uxsp.crypto.symmetric` and `uxsp.crypto.kdf`

AES-256-GCM with a random nonce, the key wipe, and the HKDF wrapper.
-/

namespace Uxsp

def KEY_SIZE : ℕ := 32

def NONCE_SIZE : ℕ := 12

/-- Overwrite a buffer with zeroes. -/
def zeroize (buf : Bytes) : Bytes := List.replicate buf.length 0

@[simp] theorem length_zeroize (buf : Bytes) : (zeroize buf).length = buf.length :=
  List.length_replicate

@[simp] theorem zeroize_zeroize (buf : Bytes) : zeroize (zeroize buf) = zeroize buf := by
  simp [zeroize]

namespace Symmetric

variable (P : Platform)

/-- What `encrypt` returns. -/
structure Encrypted where
  ciphertext : Bytes
  nonce : Bytes

/-- Encrypt data with AES-256-GCM using a fresh random nonce. -/
def encrypt (data key associatedData : Bytes) (nonce : Urandom NONCE_SIZE) :
    Except PyErr Encrypted :=
  if key.length ≠ KEY_SIZE then
    .error ⟨.valueError, ["Key must be ", .int KEY_SIZE, " bytes, got ", .int key.length]⟩
  else
    match P.aesgcmEncrypt key nonce data associatedData with
    | .ok ciphertext => .ok ⟨ciphertext, nonce⟩
    | .error e => .error e

/-- Decrypt and verify AES-256-GCM ciphertext; only an invalid tag is turned into `ValueError`. -/
def decrypt (ciphertext nonce key associatedData : Bytes) : Except PyErr Bytes :=
  if key.length ≠ KEY_SIZE then
    .error ⟨.valueError, ["Key must be ", .int KEY_SIZE, " bytes, got ", .int key.length]⟩
  else if nonce.length ≠ NONCE_SIZE then
    .error ⟨.valueError, ["Nonce must be ", .int NONCE_SIZE, " bytes, got ", .int nonce.length]⟩
  else
    match P.aesgcmDecrypt key nonce ciphertext associatedData with
    | .ok data => .ok data
    | .error e =>
        if e.cls.isA .invalidTag then
          .error ⟨.valueError, ["Decryption failed: authentication tag invalid. ",
            "Data may be tampered or key/nonce mismatch."]⟩
        else .error e

variable {P}

theorem encrypt_eq_ok {data key ad : Bytes} {nonce : Urandom NONCE_SIZE} {e : Encrypted} :
    encrypt P data key ad nonce = .ok e ↔ key.length = KEY_SIZE ∧ e.nonce = nonce ∧
      P.aesgcmEncrypt key nonce data ad = .ok e.ciphertext := by
  obtain ⟨ciphertext, n⟩ := e
  unfold encrypt
  split
  · rename_i wrong
    exact ⟨nofun, fun h => absurd h.1 wrong⟩
  · rename_i size
    split
    · rename_i c sealed
      rw [sealed]
      simp only [Except.ok.injEq, Encrypted.mk.injEq, not_not.mp size, true_and]
      exact ⟨fun h => ⟨h.2.symm, h.1⟩, fun h => ⟨h.2, h.1.symm⟩⟩
    · rename_i err refused
      rw [refused]
      exact ⟨nofun, fun h => nomatch h.2.2⟩

theorem decrypt_eq_ok {ciphertext nonce key ad m : Bytes} :
    decrypt P ciphertext nonce key ad = .ok m ↔ key.length = KEY_SIZE ∧ nonce.length = NONCE_SIZE ∧
      P.aesgcmDecrypt key nonce ciphertext ad = .ok m := by
  unfold decrypt
  split
  · rename_i wrong
    exact ⟨nofun, fun h => absurd h.1 wrong⟩
  · rename_i size
    split
    · rename_i wrong
      exact ⟨nofun, fun h => absurd h.2.1 wrong⟩
    · rename_i size'
      cases P.aesgcmDecrypt key nonce ciphertext ad with
      | ok data => exact ⟨fun h => ⟨not_not.mp size, not_not.mp size', h⟩, fun h => h.2.2⟩
      | error e =>
          refine ⟨fun h => ?_, fun h => nomatch h.2.2⟩
          dsimp only at h
          split at h <;> cases h

/-- Decryption undoes encryption. -/
theorem decrypt_encrypt (correct : P.AeadCorrect) {data key ad : Bytes}
    {nonce : Urandom NONCE_SIZE} {e : Encrypted} (ok : encrypt P data key ad nonce = .ok e) :
    decrypt P e.ciphertext e.nonce key ad = .ok data := by
  obtain ⟨size, drawn, sealed⟩ := encrypt_eq_ok.mp ok
  have opened := correct.open_seal sealed
  rw [decrypt, if_neg (not_not.mpr size), drawn, if_neg (not_not.mpr nonce.2), opened]

/-- What opens was encrypted. -/
theorem encrypt_of_decrypt (tidy : P.AeadTidy) {ciphertext nonce key ad m : Bytes}
    (opened : decrypt P ciphertext nonce key ad = .ok m) :
    ∃ size : nonce.length = NONCE_SIZE,
      encrypt P m key ad ⟨nonce, size⟩ = .ok ⟨ciphertext, nonce⟩ := by
  obtain ⟨size, sizeN, decrypted⟩ := decrypt_eq_ok.mp opened
  exact ⟨sizeN, encrypt_eq_ok.mpr ⟨size, rfl, tidy.seals decrypted⟩⟩

/-- What was encrypted opens under its key and associated data only, and to what it was. -/
theorem decrypt_bound (binds : P.AeadBinds) (correct : P.AeadCorrect) {data key key' ad ad' m : Bytes}
    {nonce : Urandom NONCE_SIZE} {e : Encrypted} (ok : encrypt P data key ad nonce = .ok e)
    (opened : decrypt P e.ciphertext e.nonce key' ad' = .ok m) :
    key' = key ∧ ad' = ad ∧ m = data := by
  obtain ⟨size, drawn, sealed⟩ := encrypt_eq_ok.mp ok
  obtain ⟨size', sizeN, decrypted⟩ := decrypt_eq_ok.mp opened
  obtain ⟨rfl, _, rfl⟩ := binds.bound size size' nonce.2 sizeN sealed decrypted
  exact ⟨rfl, rfl, Except.ok.inj (opened.symm.trans (decrypt_encrypt correct ok))⟩

/-- A message of the message space is encrypted. -/
theorem exists_encrypt (correct : P.AeadCorrect) {data key ad : Bytes}
    (nonce : Urandom NONCE_SIZE) (size : key.length = KEY_SIZE)
    (hdata : data.length ≤ Platform.aesgcmMaxSize) (had : ad.length ≤ Platform.aesgcmMaxSize) :
    ∃ e, encrypt P data key ad nonce = .ok e := by
  obtain ⟨c, sealed⟩ := correct.total size nonce.2 hdata had
  exact ⟨⟨c, nonce⟩, encrypt_eq_ok.mpr ⟨size, rfl, sealed⟩⟩

/-- Nothing sealed under one key opens under another. -/
theorem decrypt_foreign (authentic : P.AeadAuthentic) {data key key' ad : Bytes}
    {nonce : Urandom NONCE_SIZE} {e : Encrypted} (nonce' ad' : Bytes) (differ : key ≠ key')
    (ok : encrypt P data key ad nonce = .ok e) :
    ∃ err, decrypt P e.ciphertext nonce' key' ad' = .error err := by
  rcases encrypt_eq_ok.mp ok with ⟨size, -, sealed⟩
  unfold decrypt
  split
  · exact ⟨_, rfl⟩
  · rename_i size'
    rcases authentic.foreign nonce' ad' size (not_not.mp size') differ sealed with ⟨err, refused⟩
    split
    · exact ⟨_, rfl⟩
    · simp only [refused]
      split <;> exact ⟨_, rfl⟩

end Symmetric

/-- `derive_key(ikm, length, salt, info)` for the positive lengths the code asks for. -/
def deriveKey (P : Platform) (ikm : Bytes) (length : ℕ) (salt : Option Bytes) (info : Bytes) :
    Bytes :=
  P.hkdf length salt info ikm

@[simp] theorem length_deriveKey (P : Platform) (ikm : Bytes) (length : ℕ) (salt : Option Bytes)
    (info : Bytes) : (deriveKey P ikm length salt info).length = length :=
  P.hkdf_length length salt info ikm

end Uxsp
