import Uxsp.Crypto.Symmetric
import Uxsp.Lib.LengthPrefix

/-!
# `uxsp.core.live`

Frames of a live stream under one symmetric key.  The key is replaced by its HKDF image, the
ratchet, after every 65536 frames; a frame carries the epoch it was made in, and a receiver that
is behind ratchets up to it.
-/

namespace Uxsp

/-! ## `struct` -/

/-- The two bytes of a number below 65536, big-endian. -/
def shortBytes (n : ℕ) : Bytes := (LengthPrefix.bigEndian 256 2 n).map UInt8.ofNat

/-- `struct.pack(">H", n)`. -/
def packShort (n : ℕ) : Except PyErr Bytes :=
  if n < 2 ^ 16 then .ok (shortBytes n)
  else .error ⟨.structError, ["'H' format requires 0 <= number <= 65535"]⟩

/-- `struct.unpack(">H", b)[0]`. -/
def unpackShort (b : Bytes) : ℕ := LengthPrefix.ofBigEndian 256 (b.map UInt8.toNat)

@[simp] theorem length_shortBytes (n : ℕ) : (shortBytes n).length = 2 := by simp [shortBytes]

theorem unpackShort_shortBytes {n : ℕ} (fits : n < 2 ^ 16) : unpackShort (shortBytes n) = n := by
  have digits : (shortBytes n).map UInt8.toNat = LengthPrefix.bigEndian 256 2 n := by
    simp [shortBytes, LengthPrefix.bigEndian, List.map_map]
  rw [unpackShort, digits]
  exact LengthPrefix.ofBigEndian_bigEndian (by omega)

structure LiveSession where
  key : Bytes
  sessionId : Bytes
  frameCount : ℕ
  lastSeq : ℤ
  epoch : ℕ
  key_size : key.length = KEY_SIZE

namespace LiveSession

/-- The key that is given, or a fresh one. -/
def keyOr (key : Option Bytes) (fresh : Urandom KEY_SIZE) : Except PyErr (Urandom KEY_SIZE) :=
  match key with
  | none => .ok fresh
  | some key =>
      if size : key.length = KEY_SIZE then .ok ⟨key, size⟩
      else .error ⟨.valueError, ["LiveSession key must be ", .int KEY_SIZE, " bytes."]⟩

/-- The identifier that is given, as bytes or as a non-empty string, or a fresh one. -/
def sessionIdOr (sessionId : Option (Bytes ⊕ Str)) (fresh : Urandom 16) : Except PyErr Bytes :=
  match sessionId with
  | some (.inl b) => .ok b
  | some (.inr s) => if s = [] then .ok fresh else s.utf8
  | none => .ok fresh

/-- `LiveSession(key, session_id)`. -/
def init (key : Option Bytes) (sessionId : Option (Bytes ⊕ Str)) (freshKey : Urandom KEY_SIZE)
    (freshId : Urandom 16) : Except PyErr LiveSession := do
  let key ← keyOr key freshKey
  let sessionId ← sessionIdOr sessionId freshId
  return ⟨key, sessionId, 0, -1, 0, key.2⟩

variable (P : Platform)

/-- `_ratchet_key`. -/
def ratchetKey (s : LiveSession) : LiveSession where
  key := deriveKey P s.key 32 none (.lit "UXSP-live-ratchet")
  sessionId := s.sessionId
  frameCount := 0
  lastSeq := s.lastSeq
  epoch := s.epoch + 1
  key_size := length_deriveKey P s.key 32 none _

/-- One more frame under this key, and the ratchet after the last one. -/
def countFrame (s : LiveSession) : LiveSession :=
  if 65536 ≤ s.frameCount + 1 then { s with frameCount := s.frameCount + 1 }.ratchetKey P
  else { s with frameCount := s.frameCount + 1 }

def associatedData (s : LiveSession) (epochBytes metadata : Bytes) : Bytes :=
  s.sessionId ++ epochBytes ++ metadata

/-- Metadata length, metadata, epoch, nonce, ciphertext. -/
def sealFrame (s : LiveSession) (frame metadata : Bytes) (nonce : Urandom NONCE_SIZE) :
    Except PyErr Bytes := do
  let epochBytes ← packShort s.epoch
  let enc ← Symmetric.encrypt P frame s.key (s.associatedData epochBytes metadata) nonce
  let metaLen ← packShort metadata.length
  return metaLen ++ metadata ++ epochBytes ++ enc.nonce ++ enc.ciphertext

/-- `encrypt_frame`. -/
def encryptFrame (s : LiveSession) (frame metadata : Bytes) (nonce : Urandom NONCE_SIZE) :
    Except PyErr Bytes × LiveSession :=
  if 65535 < metadata.length then
    (.error ⟨.valueError, ["Metadata too large (max 65535 bytes)."]⟩, s)
  else
    match s.sealFrame P frame metadata nonce with
    | .error e => (.error e, s)
    | .ok result => (.ok result, s.countFrame P)

/-- The fields of an encrypted frame. -/
structure Frame where
  metadata : Bytes
  epoch : ℕ
  nonce : Bytes
  ciphertext : Bytes

/-- Read the header; nothing is authenticated yet. -/
def parseFrame (b : Bytes) : Except PyErr Frame :=
  if b.length < 2 then
    .error ⟨.valueError, ["Encrypted frame is too small to contain length header."]⟩
  else
    let metaLen := unpackShort (b.take 2)
    if b.length < 2 + metaLen + 2 + NONCE_SIZE then
      .error ⟨.valueError, ["Encrypted frame is too small to contain metadata and nonce."]⟩
    else
      let rest := b.drop (2 + metaLen)
      .ok {
        metadata := (b.drop 2).take metaLen
        epoch := unpackShort (rest.take 2)
        nonce := (rest.drop 2).take NONCE_SIZE
        ciphertext := rest.drop (2 + NONCE_SIZE) }

/-- `while self.epoch < epoch: self._ratchet_key()`. -/
def catchUp (s : LiveSession) (epoch : ℕ) : LiveSession :=
  if s.epoch < epoch then catchUp (s.ratchetKey P) epoch else s
termination_by epoch - s.epoch
decreasing_by simp only [ratchetKey]; omega

/-- The frame's number, where the caller gives one, is used up. -/
def replayed (s : LiveSession) : Option ℤ → Bool
  | some seq => seq ≤ s.lastSeq
  | none => false

def noteSeq (s : LiveSession) : Option ℤ → LiveSession
  | some seq => { s with lastSeq := seq }
  | none => s

/-- Authenticate and decrypt under the present key. -/
def openFrame (s : LiveSession) (f : Frame) : Except PyErr Bytes := do
  let epochBytes ← packShort f.epoch
  Symmetric.decrypt P f.ciphertext f.nonce s.key (s.associatedData epochBytes f.metadata)

/-- `decrypt_frame`: the frame and its metadata. -/
def decryptFrame (s : LiveSession) (encryptedFrame : Bytes) (expectedSeq : Option ℤ) :
    Except PyErr (Bytes × Bytes) × LiveSession :=
  match parseFrame encryptedFrame with
  | .error e => (.error e, s)
  | .ok f =>
      if s.replayed expectedSeq then (.error ⟨.replayError, ["Frame replay detected"]⟩, s)
      else
        let s := s.catchUp P f.epoch
        match s.openFrame P f with
        | .error e => (.error e, s)
        | .ok frame => (.ok (frame, f.metadata), (s.noteSeq expectedSeq).countFrame P)

/-- `extract_metadata`. -/
def extractMetadata (b : Bytes) : Except PyErr Bytes :=
  if b.length < 2 then
    .error ⟨.valueError, ["Malformed frame: too short to contain metadata length."]⟩
  else
    let metaLen := unpackShort (b.take 2)
    if b.length < 2 + metaLen then
      .error ⟨.valueError, ["Malformed frame: too short to contain full metadata."]⟩
    else .ok ((b.drop 2).take metaLen)

end LiveSession

end Uxsp
