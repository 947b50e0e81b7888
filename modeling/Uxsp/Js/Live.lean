import Uxsp.Core.Live
import Uxsp.Js.Crypto
import Uxsp.Lib.Recent
import Uxsp.Lib.Run

/-!
# `live.ts`

Frames of a live stream in the JavaScript SDK: one key, no ratchet, and a memory of the last 10000
nonces.  `decryptFrame` waits for Web Crypto between its checks and what it remembers, so that calls
overlap: `Step` lets any number of them be under way, and any of them be next.
-/

namespace Uxsp

structure JsLiveSession where
  key : Bytes
  seenFrameNonces : List JsStr
  lastSeq : PyFloat
  key_size : key.length = KEY_SIZE

namespace JsLiveSession

def MAX_SEEN_FRAME_NONCES : ℕ := 10000

/-- `new LiveSession(key)`. -/
def init (key : Bytes) : Except JsErr JsLiveSession :=
  if size : key.length = KEY_SIZE then .ok ⟨key, [], .finite (-1), size⟩
  else .error ⟨.error, [.lit "LiveSession key must be 32 bytes."]⟩

variable (J : JsPlatform)

/-- Metadata length, metadata, nonce, ciphertext. -/
def encryptFrame (s : JsLiveSession) (frame metadata : Bytes) (nonce : Urandom NONCE_SIZE) :
    Except JsErr Bytes := do
  jsEnsure (metadata.length ≤ 65535) ⟨.error, [.lit "Metadata too large (max 65535 bytes)."]⟩
  let ciphertext ← J.aesGcmEncrypt s.key nonce frame metadata
  return shortBytes metadata.length ++ metadata ++ nonce ++ ciphertext

/-- The fields of an encrypted frame. -/
structure Frame where
  metadata : Bytes
  nonce : Bytes
  ciphertext : Bytes

/-- Read the header; nothing is authenticated yet. -/
def parseFrame (b : Bytes) : Except JsErr Frame :=
  if b.length < 2 then
    .error ⟨.error, [.lit "Encrypted frame is too small to contain length header."]⟩
  else if b.length < 2 + unpackShort (b.take 2) + NONCE_SIZE then
    .error ⟨.error, [.lit "Encrypted frame is too small to contain metadata and nonce."]⟩
  else
    .ok {
      metadata := (b.drop 2).take (unpackShort (b.take 2))
      nonce := (b.drop (2 + unpackShort (b.take 2))).take NONCE_SIZE
      ciphertext := b.drop (2 + unpackShort (b.take 2) + NONCE_SIZE) }

/-- The frame's number, where the caller gives one, is used up. -/
def replayed (s : JsLiveSession) : Option PyFloat → Bool
  | some seq => seq.le s.lastSeq
  | none => false

def replayError (s : JsLiveSession) (expectedSeq : Option PyFloat) : JsErr :=
  ⟨.error, [.lit "ReplayError: Frame replay detected (expectedSeq ",
    .str (J.numberToString (expectedSeq.getD .nan)), .lit " <= lastSeq ",
    .str (J.numberToString s.lastSeq), .lit ")"]⟩

/-- `nonceHex`. -/
def Frame.nonceHex (f : Frame) : JsStr := JsStr.ofBytes f.nonce

/-- `decryptFrame` up to the call of Web Crypto. -/
def decryptBegin (s : JsLiveSession) (encryptedFrame : Bytes) (expectedSeq : Option PyFloat) :
    Except JsErr Frame := do
  let f ← parseFrame encryptedFrame
  jsEnsure (!s.replayed expectedSeq) (s.replayError J expectedSeq)
  jsEnsure (!s.seenFrameNonces.contains f.nonceHex)
    ⟨.error, [.lit "ReplayError: Frame replay detected"]⟩
  return f

def noteSeq (s : JsLiveSession) : Option PyFloat → JsLiveSession
  | some seq => { s with lastSeq := seq }
  | none => s

/-- Remember a nonce; the oldest of a full set is forgotten. -/
def noteNonce (s : JsLiveSession) (nonceHex : JsStr) : JsLiveSession :=
  { s with seenFrameNonces := Recent.push MAX_SEEN_FRAME_NONCES s.seenFrameNonces nonceHex }

/-- `decryptFrame` from what Web Crypto answers: the frame and its metadata. -/
def decryptSettle (s : JsLiveSession) (f : Frame) (expectedSeq : Option PyFloat) :
    Except JsErr (Bytes × Bytes) × JsLiveSession :=
  match J.aesGcmDecrypt s.key f.nonce f.ciphertext f.metadata with
  | .error e => (.error e, s)
  | .ok frame => (.ok (frame, f.metadata), (s.noteNonce f.nonceHex).noteSeq expectedSeq)

/-- `decryptFrame` with nothing in between. -/
def decryptFrame (s : JsLiveSession) (encryptedFrame : Bytes) (expectedSeq : Option PyFloat) :
    Except JsErr (Bytes × Bytes) × JsLiveSession :=
  match s.decryptBegin J encryptedFrame expectedSeq with
  | .error e => (.error e, s)
  | .ok f => s.decryptSettle J f expectedSeq

/-! ## Small facts -/

variable {J} {s : JsLiveSession} {b : Bytes} {f : Frame} {seq : Option PyFloat}

@[simp] theorem noteSeq_seen : (s.noteSeq seq).seenFrameNonces = s.seenFrameNonces := by
  cases seq <;> rfl

theorem decryptBegin_eq_ok : s.decryptBegin J b seq = .ok f ↔ parseFrame b = .ok f ∧
    s.replayed seq = false ∧ f.nonceHex ∉ s.seenFrameNonces := by
  unfold decryptBegin
  simp only [js_bind_eq_ok, jsEnsure_eq_ok, js_pure_eq_ok, Bool.not_eq_true',
    List.contains_eq_mem, decide_eq_false_iff_not]
  constructor
  · rintro ⟨g, parsed, _, fresh, _, new, rfl⟩
    exact ⟨parsed, fresh, new⟩
  · rintro ⟨parsed, fresh, new⟩
    exact ⟨f, parsed, (), fresh, (), new, rfl⟩

/-- The bytes `encryptFrame` puts together. -/
def frameBytes (f : Frame) : Bytes :=
  shortBytes f.metadata.length ++ f.metadata ++ f.nonce ++ f.ciphertext

/-- The header of a frame reads back what was written. -/
theorem parseFrame_frameBytes (short : f.metadata.length < 2 ^ 16)
    (size : f.nonce.length = NONCE_SIZE) : parseFrame (frameBytes f) = .ok f := by
  have layout : frameBytes f =
      shortBytes f.metadata.length ++ (f.metadata ++ (f.nonce ++ f.ciphertext)) := by
    simp [frameBytes]
  have header : (frameBytes f).take 2 = shortBytes f.metadata.length := by
    rw [layout]
    exact List.take_left' (length_shortBytes _)
  have body : (frameBytes f).drop 2 = f.metadata ++ (f.nonce ++ f.ciphertext) := by
    rw [layout]
    exact List.drop_left' (length_shortBytes _)
  have rest : (frameBytes f).drop (2 + f.metadata.length) = f.nonce ++ f.ciphertext := by
    rw [← List.drop_drop, body]
    exact List.drop_left' rfl
  have length : (frameBytes f).length =
      2 + f.metadata.length + NONCE_SIZE + f.ciphertext.length := by
    simp only [layout, List.length_append, length_shortBytes, size]
    omega
  have long : ¬ (frameBytes f).length < 2 := by omega
  have longer : ¬ (frameBytes f).length < 2 + f.metadata.length + NONCE_SIZE := by omega
  unfold parseFrame
  rw [if_neg long, header, unpackShort_shortBytes short, if_neg longer, body, rest,
    ← List.drop_drop, rest, List.take_left' rfl, List.take_left' size, List.drop_left' size]

/-! ## Overlapping calls -/

/-- A call that waits for Web Crypto. -/
structure Pending where
  bytes : Bytes
  frame : Frame
  expectedSeq : Option PyFloat

/-- A session, the calls that wait, and the calls that returned a decrypted frame, oldest first. -/
structure Calls where
  session : JsLiveSession
  pending : List Pending
  returned : List Pending

inductive Event
  | refused (b : Bytes) (seq : Option PyFloat) (e : JsErr)
  | began (b : Bytes) (seq : Option PyFloat)
  | settled (b : Bytes) (result : Except JsErr (Bytes × Bytes))

/-- The frame that a step returns decrypted. -/
def Event.returned : Event → Option Bytes
  | .settled b (.ok _) => some b
  | _ => none

def Calls.start (s : JsLiveSession) : Calls := ⟨s, [], []⟩

inductive Step (J : JsPlatform) (c : Calls) : Event → Calls → Prop
  | refuse {b : Bytes} {seq : Option PyFloat} {e : JsErr} :
      c.session.decryptBegin J b seq = .error e → Step J c (.refused b seq e) c
  | begin {b : Bytes} {seq : Option PyFloat} {f : Frame} :
      c.session.decryptBegin J b seq = .ok f →
      Step J c (.began b seq) { c with pending := c.pending ++ [⟨b, f, seq⟩] }
  | fail {front back : List Pending} {p : Pending} {e : JsErr} {s : JsLiveSession} :
      c.pending = front ++ p :: back →
      c.session.decryptSettle J p.frame p.expectedSeq = (.error e, s) →
      Step J c (.settled p.bytes (.error e)) ⟨s, front ++ back, c.returned⟩
  | open {front back : List Pending} {p : Pending} {out : Bytes × Bytes} {s : JsLiveSession} :
      c.pending = front ++ p :: back →
      c.session.decryptSettle J p.frame p.expectedSeq = (.ok out, s) →
      Step J c (.settled p.bytes (.ok out)) ⟨s, front ++ back, c.returned ++ [p]⟩

end JsLiveSession

end Uxsp
