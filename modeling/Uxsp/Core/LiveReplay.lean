import Uxsp.Core.LiveStream

/-!
# Replayed frames

`decrypt_frame` remembers no nonce.  A frame that was returned once is returned again unless the
caller's number stops it, or the key that it was opened with has been ratcheted away:
`returned_once`.
-/

namespace Uxsp.LiveSession

variable {P : Platform} {s s' : LiveSession} {b key sessionId : Bytes} {seq : Option ℤ}

/-- The epoch of the key that a frame is opened with. -/
def openingEpoch (s : LiveSession) (b : Bytes) : ℕ :=
  match parseFrame b with
  | .ok f => max s.epoch f.epoch
  | .error _ => s.epoch

theorem FrameOf.parsed {epoch : ℕ} {frame metadata : Bytes}
    (genuine : FrameOf P key sessionId epoch frame metadata b) :
    ∃ f, parseFrame b = .ok f ∧ f.epoch = epoch := by
  obtain ⟨fits, short, nonce, enc, encrypted, rfl⟩ := genuine
  have size : enc.nonce.length = NONCE_SIZE := by
    rw [(Symmetric.encrypt_eq_ok.mp encrypted).2.1]
    exact nonce.2
  exact ⟨_, parseFrame_frameBytes short fits size, rfl⟩

/-- The epochs up to `n` have different keys. -/
def KeysDiffer (P : Platform) (key : Bytes) (n : ℕ) : Prop :=
  ∀ e e', e < e' → e' ≤ n → epochKey P key e ≠ epochKey P key e'

/-- The bytes are what the key of an epoch encrypts; their header names that epoch or an earlier
one. -/
def SealedIn (P : Platform) (key : Bytes) (epoch : ℕ) (b : Bytes) : Prop :=
  ∃ (f : Frame) (nonce : Urandom NONCE_SIZE) (frame ad : Bytes), parseFrame b = .ok f ∧
    f.epoch ≤ epoch ∧ Symmetric.encrypt P frame (epochKey P key epoch) ad nonce =
      .ok ⟨f.ciphertext, nonce⟩

theorem epoch_le_countFrame (P : Platform) (s : LiveSession) : s.epoch ≤ (s.countFrame P).epoch := by
  unfold countFrame
  split
  · exact Nat.le_succ _
  · exact le_rfl

theorem noteSeq_epoch (s : LiveSession) (seq : Option ℤ) : (s.noteSeq seq).epoch = s.epoch := by
  cases seq <;> rfl

variable {result : Except PyErr (Bytes × Bytes)}

theorem decryptFrame_step_of (out : s.decryptFrame P b seq = (result, s')) :
    DecryptStep P s b seq result s' := by
  have step := decryptFrame_step P s b seq
  rw [out] at step
  exact step

theorem DecryptStep.epoch_le (step : DecryptStep P s b seq result s') : s.epoch ≤ s'.epoch := by
  have caught : ∀ epoch, s.epoch ≤ (s.catchUp P epoch).epoch := by
    intro epoch
    rw [catchUp_epoch]
    exact le_max_left _ _
  cases step with
  | malformed | replay => exact le_rfl
  | refused => exact caught _
  | @opened f _ _ _ =>
      have counted := epoch_le_countFrame P ((s.catchUp P f.epoch).noteSeq seq)
      rw [noteSeq_epoch] at counted
      exact (caught f.epoch).trans counted

theorem DecryptStep.onChain (step : DecryptStep P s b seq result s')
    (chain : OnChain P key sessionId s) : OnChain P key sessionId s' := by
  cases step with
  | malformed | replay => exact chain
  | refused => exact chain.catchUp _
  | opened => exact ((chain.catchUp _).noteSeq seq).countFrame

/-- Where a frame is returned, its number was not used up, and it was sealed in the epoch of the
session, that is not gone back. -/
theorem OnChain.returned (tidy : P.AeadTidy) (chain : OnChain P key sessionId s)
    {out : Bytes × Bytes} (returned : s.decryptFrame P b seq = (.ok out, s')) :
    s.replayed seq = false ∧ SealedIn P key (s.openingEpoch b) b ∧
      s.openingEpoch b ≤ s'.epoch ∧ s.epoch ≤ s.openingEpoch b := by
  unfold LiveSession.decryptFrame at returned
  unfold openingEpoch
  cases parsed : parseFrame b with
  | error e =>
      rw [parsed] at returned
      cases returned
  | ok f =>
      rw [parsed] at returned
      simp only at returned ⊢
      cases used : s.replayed seq with
      | true =>
          rw [used] at returned
          cases returned
      | false =>
          rw [used] at returned
          simp only [Bool.false_eq_true, if_false] at returned
          cases opened : (s.catchUp P f.epoch).openFrame P f with
          | error e =>
              rw [opened] at returned
              cases returned
          | ok frame =>
              rw [opened] at returned
              cases returned
              simp only [openFrame, bind_eq_ok] at opened
              obtain ⟨epochBytes, _, decrypted⟩ := opened
              obtain ⟨size, encrypted⟩ := Symmetric.encrypt_of_decrypt tidy decrypted
              rw [(chain.catchUp f.epoch).key_eq, catchUp_epoch] at encrypted
              have kept := epoch_le_countFrame P ((s.catchUp P f.epoch).noteSeq seq)
              rw [noteSeq_epoch, catchUp_epoch] at kept
              exact ⟨rfl, ⟨f, ⟨f.nonce, size⟩, frame, _, parsed, le_max_right _ _, encrypted⟩, kept,
                le_max_left _ _⟩

/-- What was sealed in an epoch that the session has left is not returned. -/
theorem OnChain.not_returned (authentic : P.AeadAuthentic) (chain : OnChain P key sessionId s)
    (seq : Option ℤ) {epoch : ℕ} (origin : SealedIn P key epoch b) (lt : epoch < s.epoch)
    (differ : epochKey P key epoch ≠ epochKey P key s.epoch) :
    ∃ e, (s.decryptFrame P b seq).1 = .error e := by
  obtain ⟨f, nonce, frame, ad, parsed, le, encrypted⟩ := origin
  rw [← chain.key_eq] at differ
  unfold LiveSession.decryptFrame
  rw [parsed]
  simp only [catchUp_of_le (le.trans lt.le)]
  split
  · exact ⟨_, rfl⟩
  · cases packed : packShort f.epoch with
    | error e =>
        refine ⟨e, ?_⟩
        rw [openFrame, packed]
        rfl
    | ok epochBytes =>
        obtain ⟨err, refused⟩ := Symmetric.decrypt_foreign authentic f.nonce
          (s.associatedData epochBytes f.metadata) differ encrypted
        refine ⟨err, ?_⟩
        have closed : s.openFrame P f = .error err := by
          rw [openFrame, packed]
          exact refused
        rw [closed]

/-! ## Runs -/

/-- A session and the frames that it returned decrypted, oldest first, with the epochs of the keys
that opened them. -/
structure Receipts where
  session : LiveSession
  returned : List (Bytes × ℕ)

namespace Receipts

inductive Event
  | decrypted (b : Bytes) (seq : Option ℤ) (result : Except PyErr (Bytes × Bytes))
  | encrypted (result : Except PyErr Bytes)

/-- The frame that a step returns decrypted. -/
def Event.returned : Event → Option Bytes
  | .decrypted b _ (.ok _) => some b
  | _ => none

def start (s : LiveSession) : Receipts := ⟨s, []⟩

inductive Step (P : Platform) (r : Receipts) : Event → Receipts → Prop
  | refuse {b : Bytes} {seq : Option ℤ} {e : PyErr} {s : LiveSession} :
      r.session.decryptFrame P b seq = (.error e, s) →
      Step P r (.decrypted b seq (.error e)) ⟨s, r.returned⟩
  | open {b : Bytes} {seq : Option ℤ} {out : Bytes × Bytes} {s : LiveSession} :
      r.session.decryptFrame P b seq = (.ok out, s) →
      Step P r (.decrypted b seq (.ok out)) ⟨s, r.returned ++ [(b, r.session.openingEpoch b)]⟩
  | encrypt {frame metadata : Bytes} (nonce : Urandom NONCE_SIZE) :
      Step P r (.encrypted (r.session.encryptFrame P frame metadata nonce).1)
        ⟨(r.session.encryptFrame P frame metadata nonce).2, r.returned⟩

/-- A frame that was returned is presented again with a number that is used up, or to a session that
has ratcheted since. -/
def Guarded (r : Receipts) : Event → Prop
  | .decrypted b seq _ => ∀ epoch, (b, epoch) ∈ r.returned →
      r.session.replayed seq = true ∨ epoch < r.session.epoch
  | .encrypted _ => True

def GuardedStep (P : Platform) (r : Receipts) (e : Event) (t : Receipts) : Prop :=
  Step P r e t ∧ r.Guarded e

structure Inv (P : Platform) (key sessionId : Bytes) (es : List Event) (r : Receipts) : Prop where
  chain : OnChain P key sessionId r.session
  origin : ∀ x ∈ r.returned, SealedIn P key x.2 x.1 ∧ x.2 ≤ r.session.epoch
  nodup : (r.returned.map Prod.fst).Nodup
  listed : r.returned.map Prod.fst = es.filterMap Event.returned

variable {r t : Receipts} {e : Event} {es : List Event}

/-- No step goes back to an earlier epoch. -/
theorem Step.epoch_le (step : Step P r e t) : r.session.epoch ≤ t.session.epoch := by
  cases step with
  | refuse out => exact (decryptFrame_step_of out).epoch_le
  | «open» out => exact (decryptFrame_step_of out).epoch_le
  | encrypt =>
      unfold encryptFrame
      split
      · exact le_rfl
      · split
        · exact le_rfl
        · exact epoch_le_countFrame P _

theorem Step.chain (chain : OnChain P key sessionId r.session) (step : Step P r e t) :
    OnChain P key sessionId t.session := by
  cases step with
  | refuse out => exact (decryptFrame_step_of out).onChain chain
  | «open» out => exact (decryptFrame_step_of out).onChain chain
  | @encrypt frame metadata nonce =>
      rcases chain.encryptFrame frame metadata nonce with ⟨e, failed⟩ | ⟨b, made, _⟩
      · rw [failed]
        exact chain
      · rw [made]
        exact chain.countFrame

theorem Inv.step (tidy : P.AeadTidy) (authentic : P.AeadAuthentic)
    (differ : KeysDiffer P key r.session.epoch) (inv : Inv P key sessionId es r)
    (step : GuardedStep P r e t) : Inv P key sessionId (es ++ [e]) t := by
  obtain ⟨step, guarded⟩ := step
  have chain := step.chain inv.chain
  have later := step.epoch_le
  have origin : ∀ x ∈ r.returned, SealedIn P key x.2 x.1 ∧ x.2 ≤ t.session.epoch := by
    intro x mem
    obtain ⟨made, le⟩ := inv.origin x mem
    exact ⟨made, le.trans later⟩
  cases step with
  | refuse out =>
      exact ⟨chain, origin, inv.nodup, by simp [inv.listed, Event.returned]⟩
  | encrypt =>
      exact ⟨chain, origin, inv.nodup, by simp [inv.listed, Event.returned]⟩
  | @«open» b seq res s out =>
      obtain ⟨unused, made, le, _⟩ := inv.chain.returned tidy out
      have new : b ∉ r.returned.map Prod.fst := by
        intro mem
        obtain ⟨⟨b', epoch⟩, before, rfl⟩ := List.mem_map.mp mem
        rcases guarded epoch before with used | lt
        · rw [unused] at used
          cases used
        · obtain ⟨err, refused⟩ := inv.chain.not_returned authentic seq (inv.origin _ before).1 lt
            (differ epoch _ lt le_rfl)
          rw [out] at refused
          cases refused
      refine ⟨chain, ?_, ?_, by simp [inv.listed, Event.returned]⟩
      · intro x mem
        rcases List.mem_append.mp mem with old | last
        · exact origin x old
        · rw [List.mem_singleton.mp last]
          exact ⟨made, le⟩
      · rw [List.map_append]
        refine List.nodup_append.mpr ⟨inv.nodup, List.nodup_singleton _, ?_⟩
        intro x mem y last same
        rw [same, List.mem_singleton.mp last] at mem
        exact new mem

/-- In a run that presents no returned frame again to the key that opened it, no frame is returned
twice. -/
theorem returned_once (tidy : P.AeadTidy) (authentic : P.AeadAuthentic)
    (made : Created key sessionId s) (run : Run (GuardedStep P) (start s) es r)
    (differ : KeysDiffer P key r.session.epoch) : (es.filterMap Event.returned).Nodup := by
  have history : KeysDiffer P key r.session.epoch → Inv P key sessionId es r := by
    refine run.history (I := fun es r => KeysDiffer P key r.session.epoch →
      Inv P key sessionId es r) ?_ ?_
    · intro es r e t before step differ
      have earlier : KeysDiffer P key r.session.epoch := fun e e' lt le =>
        differ e e' lt (le.trans step.1.epoch_le)
      exact (before earlier).step tidy authentic earlier step
    · intro _
      exact ⟨made.onChain, fun x mem => absurd mem List.not_mem_nil, List.nodup_nil, rfl⟩
  have inv := history differ
  rw [← inv.listed]
  exact inv.nodup

/-! ## Sample runs -/

/-- An empty frame of an epoch is returned by the sample session that has not passed it. -/
theorem sampleLive_opens {s : LiveSession} (chain : OnChain .transparent sampleKey [] s) {epoch : ℕ}
    {b : Bytes} (genuine : FrameOf .transparent sampleKey [] epoch [] [] b) (le : s.epoch ≤ epoch)
    (returned : List (Bytes × ℕ)) : Step .transparent ⟨s, returned⟩
      (.decrypted b none (.ok ([], [])))
      ⟨(s.catchUp .transparent epoch).countFrame .transparent,
        returned ++ [(b, s.openingEpoch b)]⟩ :=
  .open (chain.decryptFrame Platform.transparent_aead genuine le rfl)

/-- The sample session after one frame. -/
def sampleCounted : LiveSession := ⟨sampleKey, [], 1, -1, 0, length_sampleKey⟩

theorem sampleLive_counted :
    (sampleLive.catchUp .transparent 0).countFrame .transparent = sampleCounted := by
  rw [catchUp_of_le (Nat.zero_le _), countFrame, if_neg (by decide)]
  rfl

/-- Without numbers a frame is returned as often as it comes. -/
theorem sampleLive_returns_twice : ∃ es r, Run (Step .transparent) (start sampleLive) es r ∧
    ¬ (es.filterMap Event.returned).Nodup := by
  obtain ⟨b, genuine⟩ := sampleKey_seals (Nat.two_pow_pos 16) rfl
  have first := sampleLive_opens sampleLive_onChain genuine le_rfl []
  have chain := first.chain sampleLive_onChain
  rw [sampleLive_counted] at first chain
  have second := sampleLive_opens chain genuine le_rfl ([] ++ [(b, sampleLive.openingEpoch b)])
  refine ⟨_, _, .cons first (.single second), ?_⟩
  simp [Event.returned]

/-- A frame of epoch 0, one of epoch 1, and the first again, that is refused. -/
theorem sampleLive_ratchets : ∃ b c e r, r.session.epoch = 1 ∧
    Run (GuardedStep .transparent) (start sampleLive)
      [.decrypted b none (.ok ([], [])), .decrypted c none (.ok ([], [])),
        .decrypted b none (.error e)] r := by
  obtain ⟨b, genuine⟩ := sampleKey_seals (Nat.two_pow_pos 16) rfl
  obtain ⟨c, genuine'⟩ : ∃ c, FrameOf .transparent sampleKey [] 1 [] [] c :=
    sampleKey_seals (by norm_num) (length_deriveKey .transparent sampleKey 32 none _)
  obtain ⟨f, parsed, epoch⟩ := genuine.parsed
  obtain ⟨g, parsed', epoch'⟩ := genuine'.parsed
  have differ : c ≠ b := by
    intro same
    rw [same, parsed] at parsed'
    cases parsed'
    rw [epoch] at epoch'
    cases epoch'
  have opening : sampleLive.openingEpoch b = 0 := by
    rw [openingEpoch, parsed]
    simp only [epoch]
    rfl
  have first := sampleLive_opens sampleLive_onChain genuine le_rfl []
  rw [sampleLive_counted] at first
  have chain : OnChain .transparent sampleKey [] sampleCounted := first.chain sampleLive_onChain
  have second := sampleLive_opens chain genuine' (Nat.zero_le 1)
    ([] ++ [(b, sampleLive.openingEpoch b)])
  have caught : sampleCounted.catchUp .transparent 1 = sampleCounted.ratchetKey .transparent := by
    rw [catchUp_of_lt Nat.one_pos]
    exact catchUp_of_le le_rfl
  have passed : ((sampleCounted.catchUp .transparent 1).countFrame .transparent).epoch = 1 := by
    rw [caught, countFrame, if_neg (by decide)]
    rfl
  have chain' : OnChain .transparent sampleKey []
      ((sampleCounted.catchUp .transparent 1).countFrame .transparent) := second.chain chain
  generalize (sampleCounted.catchUp .transparent 1).countFrame .transparent = s at *
  have later : 0 < s.epoch := by rw [passed]; exact Nat.one_pos
  obtain ⟨e, refused⟩ := chain'.decryptFrame_stale Platform.transparent_authentic
    genuine later (by rw [passed]; exact sampleKey_ratchets)
  refine ⟨b, c, e, _, passed, .cons ⟨first, ?_⟩ (.cons ⟨second, ?_⟩ (.single ⟨.refuse refused, ?_⟩))⟩
  · exact fun epoch mem => absurd mem List.not_mem_nil
  · intro epoch mem
    exact absurd (congrArg Prod.fst (List.mem_singleton.mp mem)) differ
  · intro epoch mem
    rcases List.mem_append.mp mem with old | last
    · have here : epoch = 0 := (congrArg Prod.snd (List.mem_singleton.mp old)).trans opening
      rw [here]
      exact Or.inr later
    · exact absurd (congrArg Prod.fst (List.mem_singleton.mp last)).symm differ

end Receipts

end Uxsp.LiveSession
