import Uxsp.Core.LiveSteps
import Uxsp.Lib.Numbered
import Uxsp.Lib.Run

/-!
# Live streams

Two live sessions with one key.  `Stream` has one of them encrypt and the other decrypt, over a
channel that keeps the order and may lose frames: every frame that arrives is opened.  `Call` has
both do both over channels that lose nothing; there the two counters run apart, and a frame is
opened if its receiver has not ratcheted past it on the way.
-/

namespace Uxsp.LiveSession

/-- The session was constructed with, or drew, this key and this identifier. -/
def Created (key sessionId : Bytes) (s : LiveSession) : Prop :=
  s.key = key ∧ s.sessionId = sessionId ∧
    ∃ keyArg idArg freshKey freshId, init keyArg idArg freshKey freshId = .ok s

variable {P : Platform} {key sessionId : Bytes} {s : LiveSession}

theorem Created.counters (created : Created key sessionId s) : s.frameCount = 0 ∧ s.epoch = 0 := by
  rcases created with ⟨-, -, keyArg, idArg, freshKey, freshId, made⟩
  simp only [init, bind_eq_ok, pure_eq_ok] at made
  rcases made with ⟨k, -, sid, -, rfl⟩
  exact ⟨rfl, rfl⟩

theorem Created.onChain (created : Created key sessionId s) : OnChain P key sessionId s where
  key_eq := by
    rw [created.counters.2]
    exact created.1
  sessionId_eq := created.2.1
  room := by
    rw [created.counters.1]
    exact Nat.zero_lt_succ _

theorem Created.position (created : Created key sessionId s) : s.position = 0 := by
  rw [LiveSession.position, created.counters.1, created.counters.2]

/-- A frame on the way: its bytes, and what was encrypted in which epoch. -/
structure InFlight where
  bytes : Bytes
  frame : Bytes
  metadata : Bytes
  epoch : ℕ

/-! ## One way, with loss -/

structure Stream where
  sender : LiveSession
  receiver : LiveSession
  flight : List InFlight

namespace Stream

inductive Event
  | sent
  | raised (e : PyErr)
  | lost
  | delivered (m : InFlight) (result : Except PyErr (Bytes × Bytes))

/-- The sender encrypts; the oldest frame on the way is lost or delivered, under no number or
under a number above the last one. -/
inductive Step (P : Platform) (c : Stream) : Event → Stream → Prop
  | send {frame metadata b : Bytes} {s : LiveSession} (nonce : Urandom NONCE_SIZE) :
      c.sender.encryptFrame P frame metadata nonce = (.ok b, s) →
      Step P c .sent
        { c with sender := s, flight := c.flight ++ [⟨b, frame, metadata, c.sender.epoch⟩] }
  | fail {frame metadata : Bytes} {e : PyErr} {s : LiveSession} (nonce : Urandom NONCE_SIZE) :
      c.sender.encryptFrame P frame metadata nonce = (.error e, s) →
      Step P c (.raised e) { c with sender := s }
  | lose {m : InFlight} {rest : List InFlight} :
      c.flight = m :: rest → Step P c .lost { c with flight := rest }
  | deliver {m : InFlight} {rest : List InFlight} {seq : Option ℤ}
      {result : Except PyErr (Bytes × Bytes)} {r : LiveSession} :
      c.flight = m :: rest → c.receiver.replayed seq = false →
      c.receiver.decryptFrame P m.bytes seq = (result, r) →
      Step P c (.delivered m result) { c with receiver := r, flight := rest }

/-- The frame that a position of the sender makes. -/
def Carries (P : Platform) (key sessionId : Bytes) (n : ℕ) (payload : Bytes × Bytes)
    (m : InFlight) : Prop :=
  payload = (m.frame, m.metadata) ∧
    FrameOf P key sessionId (n / 65536) m.frame m.metadata m.bytes

/-- Both are on the chain, the frames on the way are the sender's last ones, and the receiver is
not past the oldest of them. -/
structure Inv (P : Platform) (key sessionId : Bytes) (c : Stream) : Prop where
  sender : OnChain P key sessionId c.sender
  receiver : OnChain P key sessionId c.receiver
  queue : ∃ n payloads, Numbered (Carries P key sessionId) n payloads c.flight ∧
    n + c.flight.length = c.sender.position ∧ c.receiver.position ≤ n

theorem epoch_eq_div (room : s.frameCount < 65536) : s.epoch = s.position / 65536 := by
  rw [LiveSession.position]
  omega

variable {c d : Stream} {e : Event} {es : List Event}

theorem Inv.send (inv : Inv P key sessionId c) {frame metadata b : Bytes} {t : LiveSession}
    {nonce : Urandom NONCE_SIZE}
    (out : c.sender.encryptFrame P frame metadata nonce = (.ok b, t)) :
    Inv P key sessionId
      { c with sender := t, flight := c.flight ++ [⟨b, frame, metadata, c.sender.epoch⟩] } := by
  rcases inv.sender.encryptFrame frame metadata nonce with ⟨e, failed⟩ | ⟨b', made, genuine⟩
  · rw [failed] at out
    cases out
  · rw [made] at out
    cases out
    rcases inv.queue with ⟨n, payloads, queue, last, behind⟩
    refine ⟨inv.sender.countFrame, inv.receiver, n, payloads ++ [(frame, metadata)], ?_, ?_, behind⟩
    · apply queue.snoc
      rw [queue.length_eq, last]
      rw [epoch_eq_div inv.sender.room] at genuine
      exact ⟨rfl, genuine⟩
    · rw [position_countFrame inv.sender.room, List.length_append, List.length_singleton]
      omega

/-- The oldest frame is opened, and the receiver stays behind the next one. -/
theorem Inv.deliver (aead : P.AeadCorrect) (inv : Inv P key sessionId c) {m : InFlight}
    {rest : List InFlight} {seq : Option ℤ} (head : c.flight = m :: rest)
    (fresh : c.receiver.replayed seq = false) :
    ∃ r, c.receiver.decryptFrame P m.bytes seq = (.ok (m.frame, m.metadata), r) ∧
      Inv P key sessionId { c with receiver := r, flight := rest } := by
  rcases inv.queue with ⟨n, payloads, queue, last, behind⟩
  rw [head] at queue last
  rcases queue.of_cons with ⟨payload, others, -, ⟨-, genuine⟩, tail⟩
  have le : c.receiver.epoch ≤ n / 65536 := by
    rw [LiveSession.position] at behind
    omega
  have caught := inv.receiver.catchUp (n / 65536)
  refine ⟨_, inv.receiver.decryptFrame aead genuine le fresh, inv.sender,
    (caught.noteSeq seq).countFrame, n + 1, others, tail, ?_, ?_⟩
  · rw [List.length_cons] at last
    exact (Nat.add_right_comm n 1 rest.length).trans last
  · rw [position_countFrame (caught.noteSeq seq).room, position_noteSeq,
      position_catchUp inv.receiver.room]
    omega

theorem Inv.step (aead : P.AeadCorrect) (inv : Inv P key sessionId c) (step : Step P c e d) :
    Inv P key sessionId d ∧ ∀ m result, e = .delivered m result →
      result = .ok (m.frame, m.metadata) := by
  cases step with
  | send nonce out => exact ⟨inv.send out, nofun⟩
  | @fail frame metadata _ _ nonce out =>
      refine ⟨?_, nofun⟩
      rcases inv.sender.encryptFrame frame metadata nonce with ⟨e, failed⟩ | ⟨b, made, -⟩
      · rw [failed] at out
        cases out
        exact inv
      · rw [made] at out
        cases out
  | @lose m rest head =>
      refine ⟨⟨inv.sender, inv.receiver, ?_⟩, nofun⟩
      rcases inv.queue with ⟨n, payloads, queue, last, behind⟩
      rw [head] at queue last
      rcases queue.of_cons with ⟨payload, others, -, -, tail⟩
      rw [List.length_cons] at last
      exact ⟨n + 1, others, tail, (Nat.add_right_comm n 1 rest.length).trans last,
        Nat.le_succ_of_le behind⟩
  | deliver head fresh out =>
      rcases inv.deliver aead head fresh with ⟨r, opened, kept⟩
      rw [opened] at out
      cases out
      refine ⟨kept, ?_⟩
      intro m result same
      cases same
      rfl

/-- Every frame that arrives decrypts to its frame and metadata, whatever was lost before it. -/
theorem delivered_frames_open (aead : P.AeadCorrect) {sender receiver : LiveSession}
    (made : Created key sessionId sender) (made' : Created key sessionId receiver)
    (run : Run (Step P) ⟨sender, receiver, []⟩ es c) {m : InFlight}
    {result : Except PyErr (Bytes × Bytes)} (mem : .delivered m result ∈ es) :
    result = .ok (m.frame, m.metadata) := by
  have start : Inv P key sessionId ⟨sender, receiver, []⟩ := by
    refine ⟨made.onChain, made'.onChain, 0, [], .nil, ?_, made'.position.le⟩
    exact made.position.symm
  have history : Inv P key sessionId c ∧ ∀ m result, .delivered m result ∈ es →
      result = .ok (m.frame, m.metadata) := by
    apply run.history (I := fun es c => Inv P key sessionId c ∧ ∀ m result,
      .delivered m result ∈ es → result = .ok (m.frame, m.metadata))
    · intro es c e d before step
      rcases before.1.step aead step with ⟨kept, opened⟩
      refine ⟨kept, fun m result mem => ?_⟩
      rcases List.mem_append.mp mem with mem | mem
      · exact before.2 m result mem
      · exact opened m result (List.mem_singleton.mp mem).symm
    · exact ⟨start, fun m result mem => absurd mem List.not_mem_nil⟩
  exact history.2 m result mem

theorem sampleLive_created : Created sampleKey [] sampleLive :=
  ⟨rfl, rfl, some sampleKey, some (.inl []), ⟨sampleKey, rfl⟩, ⟨List.replicate 16 0, rfl⟩, rfl⟩

/-- One frame sent and delivered. -/
theorem sampleLive_stream : ∃ es c m, Run (Step .transparent) ⟨sampleLive, sampleLive, []⟩ es c ∧
    .delivered m (.ok (m.frame, m.metadata)) ∈ es := by
  rcases transparent_encryptFrame sampleLive (Nat.two_pow_pos 16) with ⟨b, made⟩
  have sent : Step .transparent ⟨sampleLive, sampleLive, []⟩ .sent _ := .send _ made
  have delivered : Step .transparent ⟨sampleLive.countFrame .transparent, sampleLive,
      [⟨b, [], [], 0⟩]⟩ (.delivered ⟨b, [], [], 0⟩
        (sampleLive.decryptFrame .transparent b none).1) _ := .deliver rfl rfl rfl
  have run := (Run.single sent).snoc delivered
  have opened := delivered_frames_open Platform.transparent_aead sampleLive_created
    sampleLive_created run (List.mem_append_right _ List.mem_cons_self)
  rw [opened] at run
  exact ⟨_, _, _, run, List.mem_append_right _ List.mem_cons_self⟩

end Stream

/-! ## Both ways -/

/-- Two sessions that send and receive; `flight x` is on the way to side `x`. -/
structure Call where
  session : Bool → LiveSession
  flight : Bool → List InFlight

namespace Call

inductive Event
  | sent (x : Bool)
  | raised (x : Bool) (e : PyErr)
  /-- The receiver's epoch is the one before the call. -/
  | delivered (x : Bool) (m : InFlight) (epoch : ℕ) (result : Except PyErr (Bytes × Bytes))

def start (a b : LiveSession) : Call := ⟨fun x => if x then b else a, fun _ => []⟩

/-- Side `x` becomes `s`. -/
def put (c : Call) (x : Bool) (s : LiveSession) (flight : Bool → List InFlight) : Call :=
  ⟨Function.update c.session x s, flight⟩

/-- Side `x` encrypts, or gets the oldest frame on its way. -/
inductive Step (P : Platform) (c : Call) : Event → Call → Prop
  | send {x : Bool} {frame metadata b : Bytes} {s : LiveSession} (nonce : Urandom NONCE_SIZE) :
      (c.session x).encryptFrame P frame metadata nonce = (.ok b, s) →
      Step P c (.sent x) (c.put x s (Function.update c.flight (!x)
        (c.flight (!x) ++ [⟨b, frame, metadata, (c.session x).epoch⟩])))
  | fail {x : Bool} {frame metadata : Bytes} {e : PyErr} {s : LiveSession}
      (nonce : Urandom NONCE_SIZE) :
      (c.session x).encryptFrame P frame metadata nonce = (.error e, s) →
      Step P c (.raised x e) (c.put x s c.flight)
  | deliver {x : Bool} {m : InFlight} {rest : List InFlight} {seq : Option ℤ}
      {result : Except PyErr (Bytes × Bytes)} {r : LiveSession} :
      c.flight x = m :: rest → (c.session x).replayed seq = false →
      (c.session x).decryptFrame P m.bytes seq = (result, r) →
      Step P c (.delivered x m (c.session x).epoch result)
        (c.put x r (Function.update c.flight x rest))

/-- Both sides are on the chain, and what is on the way was made on it. -/
structure Inv (P : Platform) (key sessionId : Bytes) (c : Call) : Prop where
  session : ∀ x, OnChain P key sessionId (c.session x)
  flight : ∀ x, ∀ m ∈ c.flight x, FrameOf P key sessionId m.epoch m.frame m.metadata m.bytes

variable {c d : Call} {e : Event} {es : List Event}

theorem Inv.put (inv : Inv P key sessionId c) {x : Bool} {s : LiveSession}
    (chain : OnChain P key sessionId s) (flight : Bool → List InFlight) :
    ∀ y, OnChain P key sessionId ((c.put x s flight).session y) := by
  intro y
  simp only [Call.put]
  by_cases same : y = x
  · subst same
    rw [Function.update_self]
    exact chain
  · rw [Function.update_of_ne same]
    exact inv.session y

/-- What the delivery of a frame does: the frame is opened by a receiver that has not passed its
epoch, and refused by one that has. -/
structure Outcome (P : Platform) (key : Bytes) (m : InFlight) (epoch : ℕ)
    (result : Except PyErr (Bytes × Bytes)) : Prop where
  opened : epoch ≤ m.epoch → result = .ok (m.frame, m.metadata)
  refused : m.epoch < epoch → epochKey P key m.epoch ≠ epochKey P key epoch →
    ∃ err, result = .error err

theorem Inv.deliver (aead : P.AeadCorrect) (authentic : P.AeadAuthentic)
    (inv : Inv P key sessionId c) {x : Bool} {m : InFlight} {rest : List InFlight}
    {seq : Option ℤ} {result : Except PyErr (Bytes × Bytes)} {r : LiveSession}
    (head : c.flight x = m :: rest) (fresh : (c.session x).replayed seq = false)
    (out : (c.session x).decryptFrame P m.bytes seq = (result, r)) :
    OnChain P key sessionId r ∧ Outcome P key m (c.session x).epoch result := by
  have chain := inv.session x
  have genuine := inv.flight x m (by rw [head]; exact List.mem_cons_self)
  have kept : OnChain P key sessionId r := by
    have step := decryptFrame_step P (c.session x) m.bytes seq
    rw [out] at step
    cases step with
    | malformed | replay => exact chain
    | refused => exact chain.catchUp _
    | opened => exact ((chain.catchUp _).noteSeq seq).countFrame
  refine ⟨kept, ?_, ?_⟩
  · intro le
    rw [chain.decryptFrame aead genuine le fresh] at out
    exact (congrArg Prod.fst out).symm
  · intro lt differ
    rcases chain.decryptFrame_stale authentic genuine lt differ with ⟨err, refused⟩
    rw [refused] at out
    exact ⟨err, (congrArg Prod.fst out).symm⟩

theorem Inv.step (aead : P.AeadCorrect) (authentic : P.AeadAuthentic)
    (inv : Inv P key sessionId c) (step : Step P c e d) :
    Inv P key sessionId d ∧
      ∀ x m epoch result, e = .delivered x m epoch result → Outcome P key m epoch result := by
  cases step with
  | @send x frame metadata b s nonce out =>
      rcases (inv.session x).encryptFrame frame metadata nonce with ⟨e, failed⟩ | ⟨b', made, genuine⟩
      · rw [failed] at out
        cases out
      · rw [made] at out
        cases out
        refine ⟨⟨inv.put (inv.session x).countFrame _, ?_⟩, nofun⟩
        intro y m mem
        simp only [Call.put] at mem
        by_cases same : y = !x
        · subst same
          rw [Function.update_self] at mem
          rcases List.mem_append.mp mem with mem | mem
          · exact inv.flight _ m mem
          · rw [List.mem_singleton.mp mem]
            exact genuine
        · rw [Function.update_of_ne same] at mem
          exact inv.flight y m mem
  | @fail x frame metadata err s nonce out =>
      rcases (inv.session x).encryptFrame frame metadata nonce with ⟨e, failed⟩ | ⟨b, made, -⟩
      · rw [failed] at out
        cases out
        exact ⟨⟨inv.put (inv.session x) _, inv.flight⟩, nofun⟩
      · rw [made] at out
        cases out
  | @deliver x m rest seq result r head fresh out =>
      rcases inv.deliver aead authentic head fresh out with ⟨kept, outcome⟩
      refine ⟨⟨inv.put kept _, ?_⟩, ?_⟩
      · intro y n mem
        simp only [Call.put] at mem
        by_cases same : y = x
        · subst same
          rw [Function.update_self] at mem
          exact inv.flight y n (by rw [head]; exact List.mem_cons_of_mem _ mem)
        · rw [Function.update_of_ne same] at mem
          exact inv.flight y n mem
      · intro x m epoch result same
        cases same
        exact outcome

/-- In every interleaving, a delivered frame is opened if and only if its receiver has not
ratcheted past the frame's epoch. -/
theorem delivered_iff_not_passed (aead : P.AeadCorrect) (authentic : P.AeadAuthentic)
    {a b : LiveSession} (made : Created key sessionId a) (made' : Created key sessionId b)
    (run : Run (Step P) (start a b) es c) {x : Bool} {m : InFlight} {epoch : ℕ}
    {result : Except PyErr (Bytes × Bytes)} (mem : .delivered x m epoch result ∈ es) :
    Outcome P key m epoch result := by
  have begun : Inv P key sessionId (start a b) := by
    refine ⟨fun x => ?_, fun x m mem => absurd mem List.not_mem_nil⟩
    cases x
    · exact made.onChain
    · exact made'.onChain
  have history : Inv P key sessionId c ∧ ∀ x m epoch result,
      .delivered x m epoch result ∈ es → Outcome P key m epoch result := by
    apply run.history (I := fun es c => Inv P key sessionId c ∧ ∀ x m epoch result,
      .delivered x m epoch result ∈ es → Outcome P key m epoch result)
    · intro es c e d before step
      rcases before.1.step aead authentic step with ⟨kept, outcome⟩
      refine ⟨kept, fun x m epoch result mem => ?_⟩
      rcases List.mem_append.mp mem with mem | mem
      · exact before.2 x m epoch result mem
      · exact outcome x m epoch result (List.mem_singleton.mp mem).symm
    · exact ⟨begun, fun x m epoch result mem => absurd mem List.not_mem_nil⟩
  exact history.2 x m epoch result mem

/-- A frame crosses in an undisturbed call. -/
theorem sampleLive_call : ∃ es c m epoch result,
    Run (Step .transparent) (start sampleLive sampleLive) es c ∧
      .delivered true m epoch result ∈ es ∧ result = .ok (m.frame, m.metadata) := by
  rcases transparent_encryptFrame sampleLive (Nat.two_pow_pos 16) with ⟨b, made⟩
  have sent : Step .transparent (start sampleLive sampleLive) (.sent false) _ :=
    .send (x := false) _ made
  generalize after : (start sampleLive sampleLive).put false _ _ = c at sent
  have head : c.flight true = [⟨b, [], [], 0⟩] := by
    rw [← after]
    rfl
  have epoch : (c.session true).epoch = 0 := by
    rw [← after]
    rfl
  have delivered : Step .transparent c (.delivered true ⟨b, [], [], 0⟩ (c.session true).epoch _) _ :=
    .deliver head (rfl : (c.session true).replayed none = false) rfl
  have run := (Run.single sent).snoc delivered
  have outcome := delivered_iff_not_passed Platform.transparent_aead
    Platform.transparent_authentic Stream.sampleLive_created Stream.sampleLive_created run
    (List.mem_append_right _ List.mem_cons_self)
  exact ⟨_, _, _, _, _, run, List.mem_append_right _ List.mem_cons_self,
    outcome.opened epoch.le⟩

/-- Side `false` with a number of frames sent and none delivered. -/
theorem sampleLive_sends (n : ℕ) (le : n < 65536) : ∃ es c,
    Run (Step .transparent) (start sampleLive sampleLive) es c ∧
      c.session false = { sampleLive with frameCount := n } ∧ c.session true = sampleLive ∧
      c.flight false = [] := by
  induction n with
  | zero => exact ⟨[], _, .nil, rfl, rfl, rfl⟩
  | succ n ih =>
      rcases ih (by omega) with ⟨es, c, run, session, other, empty⟩
      have counted : (c.session false).countFrame .transparent =
          { sampleLive with frameCount := n + 1 } := by
        rw [session, countFrame, if_neg (not_le.mpr le)]
      have fits : (c.session false).epoch < 2 ^ 16 := by
        rw [session]
        exact Nat.two_pow_pos 16
      rcases transparent_encryptFrame (c.session false) fits with ⟨b, made⟩
      refine ⟨_, _, run.snoc (.send _ made), ?_, ?_, ?_⟩
      · simp [Call.put, counted]
      · simp [Call.put, other]
      · simp [Call.put, empty]

/-- One side ratchets at its 65536th frame, and a frame the other side sends in the old epoch is
refused. -/
theorem crossing_frame_refused : ∃ es c x m epoch err,
    Run (Step .transparent) (start sampleLive sampleLive) es c ∧
      .delivered x m epoch (.error err) ∈ es := by
  rcases sampleLive_sends 65535 (by norm_num) with ⟨es, c, run, session, other, empty⟩
  have ratcheted : (c.session false).countFrame .transparent = sampleLive.ratchetKey .transparent := by
    rw [session, countFrame, if_pos le_rfl]
    rfl
  have fits : (c.session false).epoch < 2 ^ 16 := by
    rw [session]
    exact Nat.two_pow_pos 16
  rcases transparent_encryptFrame (c.session false) fits with ⟨b, last⟩
  have sent := run.snoc (.send _ last)
  generalize after : c.put false _ _ = d at sent
  have mine : d.session false = sampleLive.ratchetKey .transparent := by
    rw [← after]
    simp [Call.put, ratcheted]
  have theirs : d.session true = sampleLive := by
    rw [← after]
    simp [Call.put, other]
  have empty : d.flight false = [] := by
    rw [← after]
    simp [Call.put, empty]
  rcases transparent_encryptFrame (d.session true) (by rw [theirs]; exact Nat.two_pow_pos 16) with
    ⟨b', answer⟩
  have answered := sent.snoc (.send _ answer)
  generalize crossed : d.put true _ _ = f at answered
  have passed : f.session false = sampleLive.ratchetKey .transparent := by
    rw [← crossed]
    simp [Call.put, mine]
  have head : f.flight false = [⟨b', [], [], 0⟩] := by
    rw [← crossed]
    simp [Call.put, empty, theirs, sampleLive]
  have genuine : FrameOf .transparent sampleKey [] 0 [] [] b' := by
    rw [theirs] at answer
    rcases sampleLive_onChain.encryptFrame [] [] zeroNonce with ⟨e, failed⟩ | ⟨b'', made, genuine⟩
    · rw [failed] at answer
      cases answer
    · rw [made] at answer
      cases answer
      exact genuine
  have stale : ∃ err, (sampleLive.ratchetKey .transparent).decryptFrame .transparent b' none =
      (.error err, sampleLive.ratchetKey .transparent) :=
    sampleLive_onChain.ratchetKey.decryptFrame_stale Platform.transparent_authentic genuine
      Nat.one_pos sampleKey_ratchets
  rcases stale with ⟨err, refused⟩
  rw [← passed] at refused
  exact ⟨_, _, _, _, _, err, answered.snoc (.deliver head rfl refused),
    List.mem_append_right _ List.mem_cons_self⟩

end Call

end Uxsp.LiveSession
