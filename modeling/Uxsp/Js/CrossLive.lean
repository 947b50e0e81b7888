import Uxsp.Js.LiveReplay

/-!
# Live frames between the SDKs

A frame of `uxsp.core.live` carries its epoch and binds it with the session identifier; a frame of
`live.ts` does neither.  What an SDK returns for a frame is therefore shorter or longer by the two
bytes of the epoch than what the other SDK encrypted: `cross_frames_never`.
-/

namespace Uxsp

variable {P : Platform} {frame metadata b : Bytes} {nonce : Urandom NONCE_SIZE}

namespace LiveSession

variable {s : LiveSession} {seq : Option ℤ}

theorem length_of_parse {f : Frame} (parsed : parseFrame b = .ok f) :
    b.length = 2 + f.metadata.length + 2 + NONCE_SIZE + f.ciphertext.length := by
  unfold parseFrame at parsed
  split at parsed
  · cases parsed
  · simp only at parsed
    split at parsed
    · cases parsed
    · cases parsed
      simp only [List.length_take, List.length_drop]
      omega

/-- The length of what `encrypt_frame` returns. -/
theorem length_encryptFrame (sized : P.AeadSized)
    (made : (s.encryptFrame P frame metadata nonce).1 = .ok b) :
    b.length = 2 + metadata.length + 2 + NONCE_SIZE + (frame.length + 16) := by
  unfold encryptFrame at made
  split at made
  · cases made
  · split at made
    · cases made
    · rename_i result returned
      cases made
      simp only [sealFrame, bind_eq_ok, packShort_eq_ok, pure_eq_ok] at returned
      obtain ⟨_, ⟨_, rfl⟩, enc, encrypted, _, ⟨_, rfl⟩, rfl⟩ := returned
      obtain ⟨_, drawn, called⟩ := Symmetric.encrypt_eq_ok.mp encrypted
      have tagged := sized.sealed called
      have drawn : enc.nonce.length = NONCE_SIZE := by
        rw [drawn]
        exact nonce.2
      simp only [List.length_append, length_shortBytes]
      omega

/-- The length of what `decrypt_frame` opens. -/
theorem length_decryptFrame (sized : P.AeadSized)
    (opened : (s.decryptFrame P b seq).1 = .ok (frame, metadata)) :
    b.length = 2 + metadata.length + 2 + NONCE_SIZE + (frame.length + 16) := by
  unfold decryptFrame at opened
  split at opened
  · cases opened
  · rename_i f parsed
    split at opened
    · cases opened
    · simp only at opened
      split at opened
      · cases opened
      · rename_i result returned
        cases opened
        simp only [openFrame, bind_eq_ok] at returned
        obtain ⟨_, _, decrypted⟩ := returned
        obtain ⟨_, _, called⟩ := Symmetric.decrypt_eq_ok.mp decrypted
        rw [length_of_parse parsed, sized.opened called]

end LiveSession

namespace JsLiveSession

variable {R : JsRuntime} {oqs : Option Oqs} {s : JsLiveSession} {seq : Option PyFloat}

theorem length_of_parse {f : Frame} (parsed : parseFrame b = .ok f) :
    b.length = 2 + f.metadata.length + NONCE_SIZE + f.ciphertext.length := by
  unfold parseFrame at parsed
  split at parsed
  · cases parsed
  · split at parsed
    · cases parsed
    · cases parsed
      simp only [List.length_take, List.length_drop]
      omega

/-- The length of what `encryptFrame` returns. -/
theorem length_encryptFrame (sized : P.AeadSized)
    (made : s.encryptFrame (P.js R oqs) frame metadata nonce = .ok b) :
    b.length = 2 + metadata.length + NONCE_SIZE + (frame.length + 16) := by
  simp only [encryptFrame, js_bind_eq_ok, js_pure_eq_ok] at made
  obtain ⟨_, _, ciphertext, encrypted, rfl⟩ := made
  have tagged := sized.sealed (webResult_eq_ok.mp encrypted)
  have drawn : nonce.1.length = NONCE_SIZE := nonce.2
  simp only [List.length_append, length_shortBytes]
  omega

/-- The length of what `decryptFrame` opens. -/
theorem length_decryptFrame (sized : P.AeadSized)
    (opened : (s.decryptFrame (P.js R oqs) b seq).1 = .ok (frame, metadata)) :
    b.length = 2 + metadata.length + NONCE_SIZE + (frame.length + 16) := by
  unfold decryptFrame at opened
  split at opened
  · cases opened
  · rename_i f began
    unfold decryptSettle at opened
    split at opened
    · cases opened
    · rename_i result decrypted
      cases opened
      have parsed := (decryptBegin_eq_ok.mp began).1
      rw [length_of_parse parsed, sized.opened (webResult_eq_ok.mp decrypted)]

end JsLiveSession

/-- What the Python session makes of a frame the JavaScript session opens. -/
def OpensInJs (P : Platform) (R : JsRuntime) (oqs : Option Oqs) (s : LiveSession)
    (r : JsLiveSession) (frame metadata : Bytes) : Prop :=
  ∃ (nonce : Urandom NONCE_SIZE) (b : Bytes) (seq : Option PyFloat),
    (s.encryptFrame P frame metadata nonce).1 = .ok b ∧
      (r.decryptFrame (P.js R oqs) b seq).1 = .ok (frame, metadata)

/-- What the JavaScript session makes of a frame the Python session opens. -/
def OpensInPython (P : Platform) (R : JsRuntime) (oqs : Option Oqs) (s : LiveSession)
    (r : JsLiveSession) (frame metadata : Bytes) : Prop :=
  ∃ (nonce : Urandom NONCE_SIZE) (b : Bytes) (seq : Option ℤ),
    r.encryptFrame (P.js R oqs) frame metadata nonce = .ok b ∧
      (s.decryptFrame P b seq).1 = .ok (frame, metadata)

/-- No session opens a frame of the other SDK, whatever its key, its identifier and the frames it
has had before. -/
theorem cross_frames_never (sized : P.AeadSized) (R : JsRuntime) (oqs : Option Oqs)
    (s : LiveSession) (r : JsLiveSession) (frame metadata : Bytes) :
    ¬ OpensInJs P R oqs s r frame metadata ∧ ¬ OpensInPython P R oqs s r frame metadata := by
  constructor
  · intro ⟨nonce, b, seq, made, opened⟩
    have long := LiveSession.length_encryptFrame sized made
    have short := JsLiveSession.length_decryptFrame sized opened
    omega
  · intro ⟨nonce, b, seq, made, opened⟩
    have short := JsLiveSession.length_encryptFrame sized made
    have long := LiveSession.length_decryptFrame sized opened
    omega

/-! ## A platform with tags -/

namespace Platform

/-- The tag shows the nonce and the first bytes of the associated data. -/
def sampleTag (key nonce ad : Bytes) : Bytes := Bytes.sized 16 (nonce ++ ad ++ key)

/-- The plaintext is sent as it is, before its tag. -/
def tagged : Platform :=
  { transparent with
    aesgcmEncrypt := fun key nonce data ad => .ok (data ++ sampleTag key nonce ad)
    aesgcmDecrypt := fun key nonce ciphertext ad =>
      if 16 ≤ ciphertext.length ∧
          ciphertext.drop (ciphertext.length - 16) = sampleTag key nonce ad then
        .ok (ciphertext.take (ciphertext.length - 16))
      else .error ⟨.invalidTag, []⟩ }

theorem tagged_sized : tagged.AeadSized where
  sealed := by
    intro key nonce data ad c encrypted
    cases encrypted
    rw [List.length_append, sampleTag, Bytes.length_sized]
  opened := by
    intro key nonce data ad c decrypted
    change (if _ then _ else _) = _ at decrypted
    split at decrypted
    · rename_i long
      cases decrypted
      rw [List.length_take]
      omega
    · cases decrypted

end Platform

/-- An empty frame, between two new sessions of one key. -/
theorem sampleLive_never :
    ¬ OpensInJs .tagged .plain none LiveSession.sampleLive JsLiveSession.sampleSession [] [] ∧
      ¬ OpensInPython .tagged .plain none LiveSession.sampleLive JsLiveSession.sampleSession [] [] :=
  cross_frames_never Platform.tagged_sized _ _ _ _ _ _

def sampleCrossNonce : Urandom NONCE_SIZE := ⟨[1, 2, 3, 4, 5, 6, 7, 8, 9, 10, 11, 12], rfl⟩

/-- The first frame of a new Python session is refused by the new JavaScript session of its key. -/
theorem sampleLive_refused : ¬ ∀ (P : Platform) (R : JsRuntime) (oqs : Option Oqs)
    (key sessionId : Bytes) (s : LiveSession) (r : JsLiveSession) (frame metadata b : Bytes)
    (nonce : Urandom NONCE_SIZE), P.AeadSized → LiveSession.Created key sessionId s →
      JsLiveSession.init key = .ok r → (s.encryptFrame P frame metadata nonce).1 = .ok b →
        (r.decryptFrame (P.js R oqs) b none).1 = .ok (frame, metadata) := by
  intro always
  have made : (LiveSession.sampleLive.encryptFrame .tagged [] [] sampleCrossNonce).1 =
      .ok (LiveSession.frameBytes [] 0
        ⟨Platform.sampleTag LiveSession.sampleKey sampleCrossNonce [0, 0], sampleCrossNonce⟩) := by
    rfl
  have opened := always .tagged .plain none _ [] LiveSession.sampleLive
    JsLiveSession.sampleSession [] [] _ sampleCrossNonce Platform.tagged_sized
    ⟨rfl, rfl, some LiveSession.sampleKey, some (.inl []), ⟨LiveSession.sampleKey, rfl⟩,
      ⟨List.replicate 16 0, rfl⟩, rfl⟩ rfl made
  have refused : (JsLiveSession.sampleSession.decryptFrame (Platform.tagged.js .plain none)
      (LiveSession.frameBytes [] 0
        ⟨Platform.sampleTag LiveSession.sampleKey sampleCrossNonce [0, 0], sampleCrossNonce⟩)
      none).1.isOk = false := by
    decide +kernel
  rw [opened] at refused
  cases refused

end Uxsp
