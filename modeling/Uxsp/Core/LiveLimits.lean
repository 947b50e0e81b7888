import Uxsp.Core.LiveReplay

/-!
# How long a live session lasts

`encrypt_frame` counts the frames of an epoch up to 65536 and packs the epoch into two bytes.
`never_runs_out_iff`: a run of calls returns a frame each time, and the epoch stays within its two
bytes, exactly if fewer than 2 ^ 32 frames have been counted at its end and AES-GCM takes what it
is given.  An epoch never has more than 65536 frames.
-/

namespace Uxsp

/-- AES-GCM refuses what is longer than its message space. -/
structure Platform.AeadLimited (P : Platform) : Prop where
  limited : ∀ {key nonce data ad c : Bytes}, P.aesgcmEncrypt key nonce data ad = .ok c →
    data.length ≤ Platform.aesgcmMaxSize ∧ ad.length ≤ Platform.aesgcmMaxSize

namespace LiveSession

variable {P : Platform}

/-- A session that was created, and what calls have made of it. -/
inductive Used (P : Platform) : LiveSession → Prop
  | created {key sessionId : Bytes} {s : LiveSession} : Created key sessionId s → Used P s
  | encrypted {s : LiveSession} (frame metadata : Bytes) (nonce : Urandom NONCE_SIZE) :
      Used P s → Used P (s.encryptFrame P frame metadata nonce).2
  | decrypted {s : LiveSession} (b : Bytes) (seq : Option ℤ) :
      Used P s → Used P (s.decryptFrame P b seq).2

theorem Used.onChain {s : LiveSession} (used : Used P s) :
    ∃ key sessionId, OnChain P key sessionId s := by
  induction used with
  | created created => exact ⟨_, _, created.onChain⟩
  | encrypted frame metadata nonce _ ih =>
      obtain ⟨key, sessionId, chain⟩ := ih
      rcases chain.encryptFrame frame metadata nonce with ⟨e, raised⟩ | ⟨b, returned, -⟩
      · rw [raised]
        exact ⟨key, sessionId, chain⟩
      · rw [returned]
        exact ⟨key, sessionId, chain.countFrame⟩
  | decrypted b seq _ ih =>
      obtain ⟨key, sessionId, chain⟩ := ih
      exact ⟨key, sessionId, (decryptFrame_step P _ b seq).onChain chain⟩

/-- The arguments of a call, with metadata that a header can announce. -/
structure FrameCall where
  frame : Bytes
  metadata : Bytes
  nonce : Urandom NONCE_SIZE
  short : metadata.length ≤ 65535

/-- AES-GCM takes the frame and what is authenticated with it. -/
def FrameCall.Fits (c : FrameCall) (sessionId : Bytes) : Prop :=
  c.frame.length ≤ Platform.aesgcmMaxSize ∧
    sessionId.length + 2 + c.metadata.length ≤ Platform.aesgcmMaxSize

/-- One call: what it was given, the key and the epoch it found, and what it left. -/
structure Made where
  call : FrameCall
  key : Bytes
  epoch : ℕ
  result : Except PyErr Bytes

def Made.returned (e : Made) : Bool := succeeded e.result

/-- One call of `encrypt_frame`. -/
def made (P : Platform) (s : LiveSession) (c : FrameCall) : Made :=
  ⟨c, s.key, s.epoch, (s.encryptFrame P c.frame c.metadata c.nonce).1⟩

inductive EncryptStep (P : Platform) (s : LiveSession) : Made → LiveSession → Prop
  | call (c : FrameCall) :
      EncryptStep P s (s.made P c) (s.encryptFrame P c.frame c.metadata c.nonce).2

variable {s t : LiveSession} {e : Made} {es : List Made}

/-! ## One call -/

theorem sealFrame_eq_ok {c : FrameCall} {b : Bytes} :
    s.sealFrame P c.frame c.metadata c.nonce = .ok b ↔ s.epoch < 2 ^ 16 ∧ ∃ enc,
      Symmetric.encrypt P c.frame s.key (s.associatedData (shortBytes s.epoch) c.metadata)
        c.nonce = .ok enc ∧ b = frameBytes c.metadata s.epoch enc := by
  have short : c.metadata.length < 2 ^ 16 := Nat.lt_succ_of_le c.short
  simp only [sealFrame, bind_eq_ok, packShort_eq_ok, pure_eq_ok]
  constructor
  · rintro ⟨epochBytes, ⟨fits, rfl⟩, enc, encrypted, metaLen, ⟨-, rfl⟩, rfl⟩
    exact ⟨fits, enc, encrypted, rfl⟩
  · rintro ⟨fits, enc, encrypted, rfl⟩
    exact ⟨_, ⟨fits, rfl⟩, enc, encrypted, _, ⟨short, rfl⟩, rfl⟩

/-- The ways a call ends: it returns a frame and counts it, or nothing has changed. -/
theorem EncryptStep.cases (step : EncryptStep P s e t) :
    e.key = s.key ∧ e.epoch = s.epoch ∧
      (e.returned = true ∧ t = s.countFrame P ∨ e.returned = false ∧ t = s) := by
  cases step with
  | call c =>
      refine ⟨rfl, rfl, ?_⟩
      have small : ¬ 65535 < c.metadata.length := Nat.not_lt.mpr c.short
      simp only [made, Made.returned, encryptFrame, if_neg small]
      cases s.sealFrame P c.frame c.metadata c.nonce with
      | error e => exact Or.inr ⟨rfl, rfl⟩
      | ok b => exact Or.inl ⟨rfl, rfl⟩

/-- A call returns exactly if the epoch fits its two bytes and AES-GCM takes the frame. -/
theorem EncryptStep.returned_iff (aead : P.AeadCorrect) (limited : P.AeadLimited)
    (step : EncryptStep P s e t) :
    e.returned = true ↔ s.epoch < 2 ^ 16 ∧ e.call.Fits s.sessionId := by
  cases step with
  | call c =>
      have small : ¬ 65535 < c.metadata.length := Nat.not_lt.mpr c.short
      have sizes : (s.associatedData (shortBytes s.epoch) c.metadata).length =
          s.sessionId.length + 2 + c.metadata.length := by
        simp only [associatedData, List.length_append, length_shortBytes]
      have outcome : (s.made P c).returned =
          succeeded (s.sealFrame P c.frame c.metadata c.nonce) := by
        simp only [made, Made.returned, encryptFrame, if_neg small]
        cases s.sealFrame P c.frame c.metadata c.nonce <;> rfl
      rw [outcome, succeeded_eq_true]
      simp only [sealFrame_eq_ok, FrameCall.Fits, made, ← sizes]
      constructor
      · rintro ⟨_, fits, enc, encrypted, -⟩
        exact ⟨fits, limited.limited (Symmetric.encrypt_eq_ok.mp encrypted).2.2⟩
      · rintro ⟨fits, frame, ad⟩
        obtain ⟨enc, encrypted⟩ := Symmetric.exists_encrypt aead c.nonce s.key_size frame ad
        exact ⟨_, fits, enc, encrypted, rfl⟩

/-! ## Runs -/

/-- The frames that were made under a key in an epoch. -/
def uses (es : List Made) (key : Bytes) (epoch : ℕ) : ℕ :=
  es.countP fun e => e.returned && e.key == key && e.epoch == epoch

/-- The frames of an epoch that a session has counted. -/
def counted (s : LiveSession) (epoch : ℕ) : ℕ :=
  if epoch < s.epoch then 65536 else if epoch = s.epoch then s.frameCount else 0

theorem counted_le (room : s.frameCount < 65536) (epoch : ℕ) : s.counted epoch ≤ 65536 := by
  unfold counted
  split
  · exact le_rfl
  · split
    · exact room.le
    · exact Nat.zero_le _

/-- The counters after one more frame. -/
theorem countFrame_cases (P : Platform) (s : LiveSession) :
    65536 ≤ s.frameCount + 1 ∧ (s.countFrame P).epoch = s.epoch + 1 ∧
        (s.countFrame P).frameCount = 0 ∨
      s.frameCount + 1 < 65536 ∧ (s.countFrame P).epoch = s.epoch ∧
        (s.countFrame P).frameCount = s.frameCount + 1 := by
  unfold countFrame
  split
  · rename_i full
    exact Or.inl ⟨full, rfl, rfl⟩
  · rename_i room
    exact Or.inr ⟨not_le.mp room, rfl, rfl⟩

theorem counted_countFrame (room : s.frameCount < 65536) (epoch : ℕ) :
    s.counted epoch + (if epoch = s.epoch then 1 else 0) ≤ (s.countFrame P).counted epoch := by
  rcases countFrame_cases P s with ⟨full, epochs, frames⟩ | ⟨below, epochs, frames⟩
  · rw [counted, counted, epochs, frames]
    split_ifs <;> omega
  · rw [counted, counted, epochs, frames]
    split_ifs <;> omega

/-- What a session has been through: the frames it has counted are those of the run. -/
structure Counts (s : LiveSession) (es : List Made) (t : LiveSession) : Prop where
  room : t.frameCount < 65536
  sessionId : t.sessionId = s.sessionId
  position : t.position = s.position + es.countP Made.returned
  uses : ∀ key epoch, s.counted epoch + LiveSession.uses es key epoch ≤ t.counted epoch
  epochs : ∀ e ∈ es, e.epoch ≤ t.epoch

theorem sessionId_countFrame (P : Platform) (s : LiveSession) :
    (s.countFrame P).sessionId = s.sessionId := by
  unfold countFrame
  split <;> rfl

theorem frameCount_countFrame : (s.countFrame P).frameCount < 65536 := by
  rcases countFrame_cases P s with ⟨-, -, frames⟩ | ⟨below, -, frames⟩
  · rw [frames]
    exact Nat.zero_lt_succ _
  · rw [frames]
    exact below

theorem Counts.step {u : LiveSession} (counts : Counts s es t) (step : EncryptStep P t e u) :
    Counts s (es ++ [e]) u := by
  obtain ⟨key, epoch, ⟨returned, rfl⟩ | ⟨raised, rfl⟩⟩ := step.cases
  · refine ⟨frameCount_countFrame, (sessionId_countFrame P t).trans counts.sessionId,
      ?_, ?_, ?_⟩
    · rw [position_countFrame counts.room, counts.position, List.countP_append,
        List.countP_singleton, if_pos returned]
      omega
    · intro k n
      have before := counts.uses k n
      have here := counted_countFrame (P := P) counts.room n
      have one : LiveSession.uses [e] k n ≤ if n = t.epoch then 1 else 0 := by
        simp only [LiveSession.uses, List.countP_singleton, returned, Bool.true_and, epoch]
        split
        · rename_i made
          rw [Bool.and_eq_true, beq_iff_eq, beq_iff_eq] at made
          rw [if_pos made.2.symm]
        · exact Nat.zero_le _
      rw [LiveSession.uses, List.countP_append]
      unfold LiveSession.uses at before one
      omega
    · intro f mem
      have grown := epoch_le_countFrame P t
      rcases List.mem_append.mp mem with mem | mem
      · exact (counts.epochs f mem).trans grown
      · rw [List.mem_singleton.mp mem, epoch]
        exact grown
  · refine ⟨counts.room, counts.sessionId, ?_, ?_, ?_⟩
    · rw [counts.position, List.countP_append, List.countP_singleton, raised]
      rfl
    · intro k n
      have nothing : LiveSession.uses (es ++ [e]) k n = LiveSession.uses es k n := by
        simp only [LiveSession.uses, List.countP_append, List.countP_singleton, raised,
          Bool.false_and, Bool.false_eq_true, if_false, Nat.add_zero]
      rw [nothing]
      exact counts.uses k n
    · intro f mem
      rcases List.mem_append.mp mem with mem | mem
      · exact counts.epochs f mem
      · rw [List.mem_singleton.mp mem, epoch]

theorem counts_of_run (room : s.frameCount < 65536) (run : Run (EncryptStep P) s es t) :
    Counts s es t := by
  refine run.history (I := Counts s) (fun _ _ _ _ counts step => counts.step step) ?_
  exact ⟨room, rfl, rfl, fun _ _ => le_rfl, nofun⟩

/-- Each call returns a frame, no key of an epoch is used for more than 65536, and the epochs fit
the two bytes of the header. -/
structure NeverRunsOut (s : LiveSession) (es : List Made) (t : LiveSession) : Prop where
  returns : ∀ e ∈ es, e.returned = true
  uses : ∀ key epoch, s.counted epoch + LiveSession.uses es key epoch ≤ 65536
  carried : (∀ e ∈ es, e.epoch < 2 ^ 16) ∧ t.epoch < 2 ^ 16

/-- As long as its frames have been counted below 2 ^ 32, the epoch of a session fits. -/
theorem epoch_fits_iff (room : s.frameCount < 65536) : s.epoch < 2 ^ 16 ↔ s.position < 2 ^ 32 := by
  unfold position
  omega

theorem Counts.position_le (counts : Counts s es t) : t.position ≤ s.position + es.length := by
  have some := List.countP_le_length (p := Made.returned) (l := es)
  have here := counts.position
  omega

/-- In a run that stays below 2 ^ 32 frames each call returns. -/
theorem returned_of_run (aead : P.AeadCorrect) (limited : P.AeadLimited)
    (room : s.frameCount < 65536) (run : Run (EncryptStep P) s es t)
    (fits : ∀ e ∈ es, e.call.Fits s.sessionId) (below : s.position + es.length < 2 ^ 32) :
    ∀ e ∈ es, e.returned = true := by
  induction run with
  | nil => exact nofun
  | @snoc t u es e run step ih =>
      rw [List.length_append, List.length_singleton] at below
      have counts := counts_of_run room run
      have position := counts.position_le
      have early := ih (fun f mem => fits f (List.mem_append_left _ mem)) (by omega)
      have here : e.returned = true := by
        rw [step.returned_iff aead limited, epoch_fits_iff counts.room, counts.sessionId]
        exact ⟨by omega, fits e (List.mem_append_right _ List.mem_cons_self)⟩
      intro f mem
      rcases List.mem_append.mp mem with mem | mem
      · exact early f mem
      · rw [List.mem_singleton.mp mem]
        exact here

/-- A call that returned was given what AES-GCM takes. -/
theorem fits_of_run (aead : P.AeadCorrect) (limited : P.AeadLimited)
    (room : s.frameCount < 65536) (run : Run (EncryptStep P) s es t)
    (returns : ∀ e ∈ es, e.returned = true) : ∀ e ∈ es, e.call.Fits s.sessionId := by
  intro e mem
  obtain ⟨before, after, rfl⟩ := List.append_of_mem mem
  obtain ⟨m, m', early, step, -⟩ := run.split_at
  have counts := counts_of_run room early
  have here := (step.returned_iff aead limited).mp (returns e mem)
  rw [counts.sessionId] at here
  exact here.2

/-- Where each call returned, all of them were counted. -/
theorem Counts.position_eq (counts : Counts s es t) (returns : ∀ e ∈ es, e.returned = true) :
    t.position = s.position + es.length := by
  rw [counts.position, List.countP_eq_length.mpr returns]

/-- A run of calls never runs out exactly if AES-GCM takes what they are given and the frames that
were counted before and in the run are fewer than 2 ^ 32. -/
theorem never_runs_out_iff (aead : P.AeadCorrect) (limited : P.AeadLimited) (used : Used P s)
    (run : Run (EncryptStep P) s es t) : NeverRunsOut s es t ↔
      (∀ e ∈ es, e.call.Fits s.sessionId) ∧ s.position + es.length < 2 ^ 32 := by
  obtain ⟨key, sessionId, chain⟩ := used.onChain
  have counts := counts_of_run chain.room run
  constructor
  · intro lasts
    have last := lasts.carried.2
    rw [epoch_fits_iff counts.room, counts.position_eq lasts.returns] at last
    exact ⟨fits_of_run aead limited chain.room run lasts.returns, last⟩
  · rintro ⟨fits, below⟩
    have last : t.epoch < 2 ^ 16 := by
      rw [epoch_fits_iff counts.room]
      exact counts.position_le.trans_lt below
    refine ⟨returned_of_run aead limited chain.room run fits below, ?_, ?_, last⟩
    · intro k n
      exact (counts.uses k n).trans (counted_le counts.room n)
    · intro e mem
      exact (counts.epochs e mem).trans_lt last

/-! ## A session that encrypts empty frames -/

/-- The transparent platform with the limit of AES-GCM. -/
def limitedPlatform : Platform :=
  { Platform.transparent with
    aesgcmEncrypt := fun key nonce data ad =>
      if data.length ≤ Platform.aesgcmMaxSize ∧ ad.length ≤ Platform.aesgcmMaxSize then
        Platform.transparent.aesgcmEncrypt key nonce data ad
      else .error ⟨.overflowError, ["Data or associated data too long. Max 2**31 - 1 bytes"]⟩ }

theorem limitedPlatform_aead : limitedPlatform.AeadCorrect where
  total := by
    intro key nonce data ad _ _ hdata had
    exact ⟨_, if_pos ⟨hdata, had⟩⟩
  open_seal := by
    intro key nonce data ad c encrypted
    simp only [limitedPlatform] at encrypted
    split at encrypted
    · exact Platform.transparent_aead.open_seal encrypted
    · cases encrypted

theorem limitedPlatform_limited : limitedPlatform.AeadLimited where
  limited := by
    intro key nonce data ad c encrypted
    simp only [limitedPlatform] at encrypted
    split at encrypted
    · assumption
    · cases encrypted

def emptyCall : FrameCall := ⟨[], [], zeroNonce, Nat.zero_le _⟩

theorem emptyCall_fits : emptyCall.Fits sampleLive.sessionId := by
  refine ⟨?_, ?_⟩ <;> simp [emptyCall, sampleLive, Platform.aesgcmMaxSize]

/-- There are runs of any length. -/
theorem exists_run (P : Platform) (s : LiveSession) (n : ℕ) : ∃ es t,
    Run (EncryptStep P) s es t ∧ es.length = n ∧ ∀ e ∈ es, e.call = emptyCall := by
  induction n with
  | zero => exact ⟨[], s, .nil, rfl, nofun⟩
  | succ n ih =>
      obtain ⟨es, t, run, length, calls⟩ := ih
      refine ⟨_, _, run.snoc (.call emptyCall), by rw [List.length_append, length]; rfl, ?_⟩
      intro e mem
      rcases List.mem_append.mp mem with mem | mem
      · exact calls e mem
      · rw [List.mem_singleton.mp mem]
        rfl

theorem sampleLive_used (P : Platform) : Used P sampleLive := .created Stream.sampleLive_created

/-- Two frames of a fresh session. -/
theorem sampleLive_lasts : ∃ es t, Run (EncryptStep limitedPlatform) sampleLive es t ∧
    es.length = 2 ∧ NeverRunsOut sampleLive es t := by
  obtain ⟨es, t, run, length, calls⟩ := exists_run limitedPlatform sampleLive 2
  refine ⟨es, t, run, length, (never_runs_out_iff limitedPlatform_aead limitedPlatform_limited
    (sampleLive_used _) run).mpr ⟨fun e mem => ?_, ?_⟩⟩
  · rw [calls e mem]
    exact emptyCall_fits
  · rw [length]
    decide

/-- After 2 ^ 32 frames the epoch does not fit the header. -/
theorem sampleLive_runs_out : ¬ ∀ (P : Platform) (s : LiveSession) (es : List Made)
    (t : LiveSession), P.AeadCorrect → P.AeadLimited → Used P s →
    (∀ e ∈ es, e.call.Fits s.sessionId) → Run (EncryptStep P) s es t → NeverRunsOut s es t := by
  intro always
  obtain ⟨es, t, run, length, calls⟩ := exists_run limitedPlatform sampleLive (2 ^ 32)
  have fits : ∀ e ∈ es, e.call.Fits sampleLive.sessionId := by
    intro e mem
    rw [calls e mem]
    exact emptyCall_fits
  have lasts := always _ _ _ _ limitedPlatform_aead limitedPlatform_limited (sampleLive_used _)
    fits run
  have counts := counts_of_run (sampleLive_onChain.room) run
  have last := lasts.carried.2
  rw [epoch_fits_iff counts.room, counts.position_eq lasts.returns, length] at last
  exact absurd last (by simp [position, sampleLive])

end LiveSession

end Uxsp
