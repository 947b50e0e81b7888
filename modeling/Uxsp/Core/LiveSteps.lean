import Uxsp.Core.Live
import Uxsp.Crypto.Transparent

/-!
# What a live session does with one frame

`DecryptStep` lists the ways `decrypt_frame` ends.  `epochKey` is the chain of ratcheted keys and
`OnChain` says that a session is on it; `FrameOf` says that bytes are a frame of one epoch.  A
session that is not past the epoch opens the frame: `decryptFrame_genuine`.
-/

namespace Uxsp.LiveSession

variable {P : Platform} {s s' : LiveSession} {seq : Option ℤ}

/-! ## Frames -/

/-- The bytes `encrypt_frame` puts together. -/
def frameBytes (metadata : Bytes) (epoch : ℕ) (enc : Symmetric.Encrypted) : Bytes :=
  shortBytes metadata.length ++ metadata ++ shortBytes epoch ++ enc.nonce ++ enc.ciphertext

/-- The header of a frame reads back what was written. -/
theorem parseFrame_frameBytes {metadata : Bytes} {epoch : ℕ} {enc : Symmetric.Encrypted}
    (short : metadata.length < 2 ^ 16) (fits : epoch < 2 ^ 16)
    (size : enc.nonce.length = NONCE_SIZE) :
    parseFrame (frameBytes metadata epoch enc) =
      .ok ⟨metadata, epoch, enc.nonce, enc.ciphertext⟩ := by
  have layout : frameBytes metadata epoch enc =
      shortBytes metadata.length ++ (metadata ++ (shortBytes epoch ++ (enc.nonce ++
        enc.ciphertext))) := by
    simp [frameBytes]
  have header : (frameBytes metadata epoch enc).take 2 = shortBytes metadata.length := by
    rw [layout]
    exact List.take_left' (length_shortBytes _)
  have body : (frameBytes metadata epoch enc).drop 2 =
      metadata ++ (shortBytes epoch ++ (enc.nonce ++ enc.ciphertext)) := by
    rw [layout]
    exact List.drop_left' (length_shortBytes _)
  have rest : (frameBytes metadata epoch enc).drop (2 + metadata.length) =
      shortBytes epoch ++ (enc.nonce ++ enc.ciphertext) := by
    rw [← List.drop_drop, body]
    exact List.drop_left' rfl
  have length : (frameBytes metadata epoch enc).length =
      2 + metadata.length + 2 + NONCE_SIZE + enc.ciphertext.length := by
    simp only [layout, List.length_append, length_shortBytes, size]
    omega
  have long : ¬ (frameBytes metadata epoch enc).length < 2 := by omega
  have longer : ¬ (frameBytes metadata epoch enc).length < 2 + metadata.length + 2 + NONCE_SIZE := by
    omega
  have tail : (shortBytes epoch ++ (enc.nonce ++ enc.ciphertext)).drop 2 =
      enc.nonce ++ enc.ciphertext := List.drop_left' (length_shortBytes _)
  unfold parseFrame
  rw [if_neg long, header, unpackShort_shortBytes short]
  simp only
  rw [if_neg longer, rest, body, List.take_left' rfl, List.take_left' (length_shortBytes _),
    unpackShort_shortBytes fits, ← List.drop_drop, tail, List.take_left' size, List.drop_left' size]

/-- `extract_metadata` reads from a frame what `decrypt_frame` returns with it. -/
theorem extractMetadata_of_parse {b : Bytes} {f : Frame} (parsed : parseFrame b = .ok f) :
    extractMetadata b = .ok f.metadata := by
  unfold parseFrame at parsed
  unfold extractMetadata
  split at parsed
  · cases parsed
  · rename_i long
    rw [if_neg long]
    simp only at parsed ⊢
    split at parsed
    · cases parsed
    · rename_i longer
      cases parsed
      rw [if_neg (by omega)]

/-! ## The ways `decrypt_frame` ends -/

inductive DecryptStep (P : Platform) (s : LiveSession) (b : Bytes) (seq : Option ℤ) :
    Except PyErr (Bytes × Bytes) → LiveSession → Prop
  | malformed {e : PyErr} : parseFrame b = .error e → DecryptStep P s b seq (.error e) s
  | replay {f : Frame} {e : PyErr} :
      parseFrame b = .ok f → s.replayed seq = true → DecryptStep P s b seq (.error e) s
  | refused {f : Frame} {e : PyErr} :
      parseFrame b = .ok f → s.replayed seq = false →
      DecryptStep P s b seq (.error e) (s.catchUp P f.epoch)
  | opened {f : Frame} {frame : Bytes} :
      parseFrame b = .ok f → s.replayed seq = false →
      DecryptStep P s b seq (.ok (frame, f.metadata))
        (((s.catchUp P f.epoch).noteSeq seq).countFrame P)

theorem decryptFrame_step (P : Platform) (s : LiveSession) (b : Bytes) (seq : Option ℤ) :
    DecryptStep P s b seq (s.decryptFrame P b seq).1 (s.decryptFrame P b seq).2 := by
  unfold decryptFrame
  cases parsed : parseFrame b with
  | error e => exact .malformed parsed
  | ok f =>
      simp only
      cases used : s.replayed seq with
      | true => exact .replay parsed used
      | false =>
          simp only [Bool.false_eq_true, if_false]
          split
          · exact .refused parsed used
          · exact .opened parsed used

/-! ## Catching up -/

theorem catchUp_of_le {epoch : ℕ} (le : epoch ≤ s.epoch) : s.catchUp P epoch = s := by
  rw [catchUp, if_neg (not_lt.mpr le)]

theorem catchUp_of_lt {epoch : ℕ} (lt : s.epoch < epoch) :
    s.catchUp P epoch = (s.ratchetKey P).catchUp P epoch := by
  rw [catchUp, if_pos lt]

theorem catchUp_epoch (P : Platform) (s : LiveSession) (epoch : ℕ) :
    (s.catchUp P epoch).epoch = max s.epoch epoch := by
  induction s using catchUp.induct P epoch with
  | case1 s lt ih =>
      rw [catchUp_of_lt lt, ih]
      simp only [ratchetKey]
      omega
  | case2 s le =>
      rw [catchUp_of_le (not_lt.mp le)]
      omega

/-- The header alone moves the session: the frame is well formed, its number is new, and it
claims a later epoch. -/
def RunsAhead (s : LiveSession) (b : Bytes) (seq : Option ℤ) : Prop :=
  ∃ f, parseFrame b = .ok f ∧ s.replayed seq = false ∧ s.epoch < f.epoch

/-- A rejected frame leaves the session as it was if and only if its header did not move it. -/
theorem rejected_unchanged_iff {b : Bytes} {e : PyErr}
    (raised : s.decryptFrame P b seq = (.error e, s')) : s' = s ↔ ¬ s.RunsAhead b seq := by
  have step := decryptFrame_step P s b seq
  rw [raised] at step
  cases step with
  | malformed malformed =>
      refine ⟨fun _ ahead => ?_, fun _ => rfl⟩
      rcases ahead with ⟨f, parsed, -, -⟩
      rw [malformed] at parsed
      cases parsed
  | replay parsed used =>
      refine ⟨fun _ ahead => ?_, fun _ => rfl⟩
      rcases ahead with ⟨f, -, unused, -⟩
      rw [used] at unused
      cases unused
  | @refused f _ parsed unused =>
      constructor
      · intro same ahead
        rcases ahead with ⟨g, parsed', -, lt⟩
        rw [parsed] at parsed'
        cases parsed'
        have moved := catchUp_epoch P s f.epoch
        rw [same] at moved
        omega
      · intro calm
        refine catchUp_of_le (not_lt.mp fun lt => calm ⟨f, parsed, unused, lt⟩)

/-! ## The chain of keys -/

/-- The key of an epoch, from the first key. -/
def epochKey (P : Platform) (key : Bytes) : ℕ → Bytes
  | 0 => key
  | n + 1 => deriveKey P (epochKey P key n) 32 none (.lit "UXSP-live-ratchet")

/-- The session holds the key of its epoch and has frames left under it. -/
structure OnChain (P : Platform) (key sessionId : Bytes) (s : LiveSession) : Prop where
  key_eq : s.key = epochKey P key s.epoch
  sessionId_eq : s.sessionId = sessionId
  room : s.frameCount < 65536

variable {key sessionId : Bytes}

theorem OnChain.ratchetKey (chain : OnChain P key sessionId s) :
    OnChain P key sessionId (s.ratchetKey P) where
  key_eq := by
    simp only [LiveSession.ratchetKey, epochKey, chain.key_eq]
  sessionId_eq := chain.sessionId_eq
  room := Nat.zero_lt_succ _

theorem OnChain.noteSeq (chain : OnChain P key sessionId s) (seq : Option ℤ) :
    OnChain P key sessionId (s.noteSeq seq) := by
  cases seq with
  | none => exact chain
  | some seq => exact ⟨chain.key_eq, chain.sessionId_eq, chain.room⟩

theorem OnChain.countFrame (chain : OnChain P key sessionId s) :
    OnChain P key sessionId (s.countFrame P) := by
  unfold LiveSession.countFrame
  split
  · have same : ({ s with frameCount := s.frameCount + 1 } : LiveSession).ratchetKey P =
        s.ratchetKey P := rfl
    rw [same]
    exact chain.ratchetKey
  · rename_i room
    exact ⟨chain.key_eq, chain.sessionId_eq, not_le.mp room⟩

theorem OnChain.catchUp (chain : OnChain P key sessionId s) (epoch : ℕ) :
    OnChain P key sessionId (s.catchUp P epoch) := by
  induction s using catchUp.induct P epoch with
  | case1 s lt ih =>
      rw [catchUp_of_lt lt]
      exact ih chain.ratchetKey
  | case2 s le =>
      rw [catchUp_of_le (not_lt.mp le)]
      exact chain

theorem catchUp_lastSeq (P : Platform) (s : LiveSession) (epoch : ℕ) :
    (s.catchUp P epoch).lastSeq = s.lastSeq := by
  induction s using catchUp.induct P epoch with
  | case1 s lt ih =>
      rw [catchUp_of_lt lt, ih]
      rfl
  | case2 s le => rw [catchUp_of_le (not_lt.mp le)]

/-! ## Positions -/

/-- How many frames the session has counted, with all earlier epochs full. -/
def position (s : LiveSession) : ℕ := 65536 * s.epoch + s.frameCount

theorem position_noteSeq (s : LiveSession) (seq : Option ℤ) :
    (s.noteSeq seq).position = s.position := by
  cases seq <;> rfl

theorem position_countFrame (room : s.frameCount < 65536) :
    (s.countFrame P).position = s.position + 1 := by
  unfold countFrame
  split
  · simp only [position, ratchetKey]
    omega
  · simp only [position]
    omega

theorem position_catchUp (room : s.frameCount < 65536) (epoch : ℕ) :
    (s.catchUp P epoch).position = max s.position (65536 * epoch) := by
  induction s using catchUp.induct P epoch with
  | case1 s lt ih =>
      rw [catchUp_of_lt lt, ih (Nat.zero_lt_succ _)]
      simp only [position, ratchetKey]
      omega
  | case2 s le =>
      rw [catchUp_of_le (not_lt.mp le)]
      simp only [position]
      omega

/-! ## Genuine frames -/

/-- The bytes carry a frame and its metadata under the key of an epoch. -/
def FrameOf (P : Platform) (key sessionId : Bytes) (epoch : ℕ) (frame metadata b : Bytes) : Prop :=
  epoch < 2 ^ 16 ∧ metadata.length < 2 ^ 16 ∧ ∃ (nonce : Urandom NONCE_SIZE) (enc : _),
    Symmetric.encrypt P frame (epochKey P key epoch) (sessionId ++ shortBytes epoch ++ metadata)
      nonce = .ok enc ∧ b = frameBytes metadata epoch enc

theorem packShort_eq_ok {n : ℕ} {b : Bytes} : packShort n = .ok b ↔ n < 2 ^ 16 ∧ b = shortBytes n := by
  unfold packShort
  split
  · rename_i fits
    rw [Except.ok.injEq]
    exact ⟨fun h => ⟨fits, h.symm⟩, fun h => h.2.symm⟩
  · rename_i large
    exact ⟨nofun, fun h => absurd h.1 large⟩

/-- `encrypt_frame` leaves the session alone or makes a frame of its epoch and counts it. -/
theorem OnChain.encryptFrame (chain : OnChain P key sessionId s) (frame metadata : Bytes)
    (nonce : Urandom NONCE_SIZE) :
    (∃ e, s.encryptFrame P frame metadata nonce = (.error e, s)) ∨
      ∃ b, s.encryptFrame P frame metadata nonce = (.ok b, s.countFrame P) ∧
        FrameOf P key sessionId s.epoch frame metadata b := by
  unfold LiveSession.encryptFrame
  split
  · exact Or.inl ⟨_, rfl⟩
  · cases made : s.sealFrame P frame metadata nonce with
    | error e => exact Or.inl ⟨e, rfl⟩
    | ok b =>
        refine Or.inr ⟨b, rfl, ?_⟩
        simp only [sealFrame, bind_eq_ok, packShort_eq_ok, pure_eq_ok] at made
        rcases made with ⟨epochBytes, ⟨fits, rfl⟩, enc, sealed, metaLen, ⟨short, rfl⟩, rfl⟩
        rw [associatedData, chain.key_eq, chain.sessionId_eq] at sealed
        exact ⟨fits, short, nonce, enc, sealed, rfl⟩

theorem openFrame_eq {f : Frame} (fits : f.epoch < 2 ^ 16) :
    s.openFrame P f = Symmetric.decrypt P f.ciphertext f.nonce s.key
      (s.associatedData (shortBytes f.epoch) f.metadata) := by
  rw [openFrame, packShort_eq_ok.mpr ⟨fits, rfl⟩]
  rfl

/-- The session opens a frame whose epoch it has not passed. -/
theorem OnChain.decryptFrame (aead : P.AeadCorrect) (chain : OnChain P key sessionId s)
    {epoch : ℕ} {frame metadata b : Bytes} (genuine : FrameOf P key sessionId epoch frame metadata b)
    (le : s.epoch ≤ epoch) (fresh : s.replayed seq = false) :
    s.decryptFrame P b seq =
      (.ok (frame, metadata), ((s.catchUp P epoch).noteSeq seq).countFrame P) := by
  rcases genuine with ⟨fits, short, nonce, enc, sealed, rfl⟩
  have size : enc.nonce.length = NONCE_SIZE := by
    rw [(Symmetric.encrypt_eq_ok.mp sealed).2.1]
    exact nonce.2
  have caught := chain.catchUp epoch
  have here : (s.catchUp P epoch).epoch = epoch := by
    rw [catchUp_epoch]
    exact max_eq_right le
  have opened : (s.catchUp P epoch).openFrame P ⟨metadata, epoch, enc.nonce, enc.ciphertext⟩ =
      .ok frame := by
    rw [openFrame_eq fits, associatedData, caught.key_eq, caught.sessionId_eq, here]
    exact Symmetric.decrypt_encrypt aead sealed
  simp only [LiveSession.decryptFrame, parseFrame_frameBytes short fits size, fresh, opened,
    Bool.false_eq_true, if_false]

/-- A session that has passed the frame's epoch refuses it, and stays as it is. -/
theorem OnChain.decryptFrame_stale (authentic : P.AeadAuthentic)
    (chain : OnChain P key sessionId s) {epoch : ℕ} {frame metadata b : Bytes}
    (genuine : FrameOf P key sessionId epoch frame metadata b)
    (lt : epoch < s.epoch) (differ : epochKey P key epoch ≠ epochKey P key s.epoch) :
    ∃ e, s.decryptFrame P b seq = (.error e, s) := by
  rcases genuine with ⟨fits, short, nonce, enc, sealed, rfl⟩
  have size : enc.nonce.length = NONCE_SIZE := by
    rw [(Symmetric.encrypt_eq_ok.mp sealed).2.1]
    exact nonce.2
  rw [← chain.key_eq] at differ
  rcases Symmetric.decrypt_foreign authentic enc.nonce
    (s.associatedData (shortBytes epoch) metadata) differ sealed with ⟨err, refused⟩
  have closed : s.openFrame P ⟨metadata, epoch, enc.nonce, enc.ciphertext⟩ = .error err := by
    rw [openFrame_eq fits]
    exact refused
  simp only [LiveSession.decryptFrame, parseFrame_frameBytes short fits size, catchUp_of_le lt.le,
    closed]
  split <;> exact ⟨_, rfl⟩

/-! ## A session on the transparent platform -/

def sampleKey : Bytes := List.replicate 32 7

theorem length_sampleKey : sampleKey.length = 32 := rfl

def zeroNonce : Urandom NONCE_SIZE := .filled 12 0

def sampleLive : LiveSession := ⟨sampleKey, [], 0, -1, 0, length_sampleKey⟩

theorem sampleLive_onChain : OnChain .transparent sampleKey [] sampleLive :=
  ⟨rfl, rfl, Nat.zero_lt_succ _⟩

theorem sampleKey_ratchets : epochKey .transparent sampleKey 0 ≠ epochKey .transparent sampleKey 1 := by
  intro same
  have last : (Bytes.lit "UXSP-live-ratchet").reverse.head? = some 116 := by decide
  have head := congrArg List.head? same
  simp [epochKey, sampleKey, deriveKey, Platform.transparent, List.head?_take, List.head?_append,
    last] at head

/-- The transparent platform encrypts an empty frame in every epoch that fits the header. -/
theorem transparent_encryptFrame (s : LiveSession) (fits : s.epoch < 2 ^ 16) :
    ∃ b, s.encryptFrame .transparent [] [] zeroNonce =
      (.ok b, s.countFrame .transparent) := by
  have packed : packShort s.epoch = .ok (shortBytes s.epoch) := packShort_eq_ok.mpr ⟨fits, rfl⟩
  have sealed : Symmetric.encrypt .transparent [] s.key (s.associatedData (shortBytes s.epoch) [])
      zeroNonce = .ok ⟨_, zeroNonce⟩ :=
    Symmetric.encrypt_eq_ok.mpr ⟨s.key_size, rfl, rfl⟩
  have made : ∃ b, s.sealFrame .transparent [] [] zeroNonce = .ok b := by
    rw [sealFrame, packed]
    simp only [bind, Except.bind, sealed]
    exact ⟨_, rfl⟩
  rcases made with ⟨b, made⟩
  refine ⟨b, ?_⟩
  have small : ¬ 65535 < ([] : Bytes).length := Nat.not_lt_zero _
  rw [LiveSession.encryptFrame, if_neg small, made]

theorem sampleKey_seals {epoch : ℕ} (fits : epoch < 2 ^ 16)
    (size : (epochKey .transparent sampleKey epoch).length = KEY_SIZE) :
    ∃ b, FrameOf .transparent sampleKey [] epoch [] [] b := by
  have small : ([] ++ shortBytes epoch ++ []).length ≤ Platform.aesgcmMaxSize := by
    simp [Platform.aesgcmMaxSize]
  have empty : ([] : Bytes).length ≤ Platform.aesgcmMaxSize := Nat.zero_le _
  rcases Symmetric.exists_encrypt Platform.transparent_aead zeroNonce size empty
    small with ⟨enc, sealed⟩
  exact ⟨_, fits, Nat.two_pow_pos 16, _, enc, sealed, rfl⟩

/-- A header of sixteen bytes that claims epoch 1, with nothing behind it. -/
def forgedFrame : Bytes := frameBytes [] 1 ⟨[], List.replicate 12 0⟩

theorem forgedFrame_moves : ∃ e, sampleLive.decryptFrame .transparent forgedFrame none =
    (.error e, sampleLive.catchUp .transparent 1) := by
  have parsed : parseFrame forgedFrame = .ok ⟨[], 1, List.replicate 12 0, []⟩ :=
    parseFrame_frameBytes (Nat.two_pow_pos 16) (by norm_num) rfl
  have foreign : ∀ rest, ([] : Bytes) ≠ (sampleLive.catchUp .transparent 1).key ++ rest := by
    intro rest same
    have size := congrArg List.length same
    rw [List.length_append, (sampleLive.catchUp .transparent 1).key_size, KEY_SIZE] at size
    simp only [List.length_nil] at size
    omega
  rcases Platform.transparent_refuses (List.replicate 12 0)
    ((sampleLive.catchUp .transparent 1).associatedData (shortBytes 1) []) foreign with ⟨e, refused⟩
  have closed : (sampleLive.catchUp .transparent 1).openFrame .transparent
      ⟨[], 1, List.replicate 12 0, []⟩ = .error e := by
    rw [openFrame_eq (by norm_num)]
    exact refused
  refine ⟨e, ?_⟩
  simp only [LiveSession.decryptFrame, parsed, replayed, closed, Bool.false_eq_true, if_false]

/-- One forged header moves the key on, and the next genuine frame is lost. -/
theorem forgedFrame_not_harmless : ∃ e s' genuine,
    sampleLive.decryptFrame .transparent forgedFrame none = (.error e, s') ∧ s' ≠ sampleLive ∧
      (sampleLive.decryptFrame .transparent genuine none).1 = .ok ([], []) ∧
      ∃ e', (s'.decryptFrame .transparent genuine none).1 = .error e' := by
  rcases forgedFrame_moves with ⟨e, moved⟩
  rcases sampleKey_seals (Nat.two_pow_pos 16) rfl with ⟨b, genuine⟩
  have epoch : (sampleLive.catchUp .transparent 1).epoch = 1 := catchUp_epoch _ _ 1
  refine ⟨e, _, b, moved, ?_, ?_, ?_⟩
  · intro same
    rw [same] at epoch
    cases epoch
  · rw [sampleLive_onChain.decryptFrame Platform.transparent_aead genuine le_rfl rfl]
  · have stale : ∃ e', (sampleLive.catchUp .transparent 1).decryptFrame .transparent b none =
        (.error e', sampleLive.catchUp .transparent 1) := by
      apply (sampleLive_onChain.catchUp 1).decryptFrame_stale Platform.transparent_authentic genuine
      · rw [epoch]
        exact Nat.one_pos
      · rw [epoch]
        exact sampleKey_ratchets
    rcases stale with ⟨e', refused⟩
    rw [refused]
    exact ⟨e', rfl⟩

theorem empty_frame_unchanged : ¬ sampleLive.RunsAhead [] none := by
  have raised : sampleLive.decryptFrame .transparent [] none = (.error _, sampleLive) := rfl
  exact (rejected_unchanged_iff raised).mp rfl

end Uxsp.LiveSession
