import Uxsp.Core.LiveReplay
import Uxsp.Js.Live
import Uxsp.Js.Transparent

/-!
# Replayed frames in both SDKs

The nonces that `live.ts` remembers are no more than 10000, and a nonce is remembered only once Web
Crypto has answered.  `live_frames_once` says in which runs no frame is returned decrypted twice, in
JavaScript and in Python.
-/

namespace Uxsp

namespace JsLiveSession

variable {J : JsPlatform} {s : JsLiveSession} {c d : Calls} {e : Event} {es : List Event}

/-- The nonces of the frames that were returned, oldest first. -/
def Calls.nonces (c : Calls) : List JsStr := c.returned.map fun p => p.frame.nonceHex

/-- A call that the caller's number does not stop comes while no other waits with its frame, and if
the frame was returned, while fewer than 10000 frames have been returned since the first with its
nonce. -/
def Guarded (c : Calls) : Event → Prop
  | .began b seq => c.session.replayed seq = true ∨
      (∀ p ∈ c.pending, p.bytes ≠ b) ∧ ∀ p ∈ c.returned, p.bytes = b →
        (Recent.after c.nonces p.frame.nonceHex).length < MAX_SEEN_FRAME_NONCES
  | _ => True

def GuardedStep (J : JsPlatform) (c : Calls) (e : Event) (d : Calls) : Prop :=
  Step J c e d ∧ Guarded c e

structure Inv (es : List Event) (c : Calls) : Prop where
  seen : c.session.seenFrameNonces = Recent.pushes MAX_SEEN_FRAME_NONCES c.nonces
  parsed : ∀ p ∈ c.returned ++ c.pending, parseFrame p.bytes = .ok p.frame
  nodup : ((c.returned ++ c.pending).map Pending.bytes).Nodup
  listed : c.returned.map Pending.bytes = es.filterMap Event.returned

/-- A call that passes the checks has a frame that neither was returned nor waits. -/
theorem Inv.new (inv : Inv es c) {b : Bytes} {seq : Option PyFloat} {f : Frame}
    (guarded : Guarded c (.began b seq)) (began : c.session.decryptBegin J b seq = .ok f) :
    ∀ p ∈ c.returned ++ c.pending, p.bytes ≠ b := by
  obtain ⟨parsed, unused, unseen⟩ := decryptBegin_eq_ok.mp began
  rcases guarded with used | ⟨alone, recent⟩
  · rw [unused] at used
    cases used
  · intro p mem
    rcases List.mem_append.mp mem with returned | waiting
    · intro same
      have frame : p.frame = f := by
        have here := inv.parsed p mem
        rw [same, parsed] at here
        exact (Except.ok.inj here).symm
      have listed : p.frame.nonceHex ∈ c.nonces := List.mem_map.mpr ⟨p, returned, rfl⟩
      have kept := Recent.mem_pushes_of_after listed (recent p returned same)
      rw [← inv.seen, frame] at kept
      exact unseen kept
    · exact alone p waiting

/-- A waiting call that is done leaves the others. -/
theorem Inv.drop (inv : Inv es c) {front back : List Pending} {p : Pending}
    (here : c.pending = front ++ p :: back) :
    (∀ q ∈ c.returned ++ (front ++ back), parseFrame q.bytes = .ok q.frame) ∧
      ((c.returned ++ (front ++ back)).map Pending.bytes).Nodup := by
  have rest : (c.returned ++ (front ++ back)).Sublist (c.returned ++ c.pending) := by
    rw [here]
    exact ((List.sublist_cons_self p back).append_left front).append_left c.returned
  exact ⟨fun q mem => inv.parsed q (rest.subset mem), inv.nodup.sublist (rest.map _)⟩

theorem Inv.step (inv : Inv es c) (step : GuardedStep J c e d) : Inv (es ++ [e]) d := by
  obtain ⟨step, guarded⟩ := step
  cases step with
  | refuse => exact ⟨inv.seen, inv.parsed, inv.nodup, by simp [inv.listed, Event.returned]⟩
  | @begin b seq f began =>
      have new := inv.new guarded began
      refine ⟨inv.seen, ?_, ?_, by simp [inv.listed, Event.returned]⟩
      · intro p mem
        rw [← List.append_assoc] at mem
        rcases List.mem_append.mp mem with old | last
        · exact inv.parsed p old
        · rw [List.mem_singleton.mp last]
          exact (decryptBegin_eq_ok.mp began).1
      · rw [← List.append_assoc, List.map_append]
        refine List.nodup_append.mpr ⟨inv.nodup, List.nodup_singleton _, ?_⟩
        intro x mem y last
        obtain ⟨p, before, rfl⟩ := List.mem_map.mp mem
        rw [List.mem_singleton.mp last]
        exact new p before
  | @fail front back p e s here out =>
      obtain ⟨parsed, nodup⟩ := inv.drop here
      have same : s = c.session := by
        unfold decryptSettle at out
        split at out
        · cases out
          rfl
        · cases out
      rw [same]
      exact ⟨inv.seen, parsed, nodup, by simp [inv.listed, Event.returned]⟩
  | @«open» front back p res s here out =>
      have member : p ∈ c.returned ++ c.pending := by simp [here]
      have order : ((c.returned ++ [p]) ++ (front ++ back)).Perm (c.returned ++ c.pending) := by
        rw [here, List.append_assoc, List.singleton_append]
        exact (List.perm_middle.symm).append_left c.returned
      refine ⟨?_, ?_, ?_, by simp [inv.listed, Event.returned]⟩
      · unfold decryptSettle at out
        split at out
        · cases out
        · cases out
          rw [noteSeq_seen]
          simp only [noteNonce, Calls.nonces, List.map_append, List.map_cons, List.map_nil]
          rw [Recent.pushes_snoc, inv.seen, Calls.nonces]
      · exact fun q mem => inv.parsed q (order.subset mem)
      · exact (order.map Pending.bytes).nodup_iff.mpr inv.nodup

theorem returned_once (fresh : s.seenFrameNonces = [])
    (run : Run (GuardedStep J) (Calls.start s) es c) : (es.filterMap Event.returned).Nodup := by
  have begun : Inv [] (Calls.start s) :=
    ⟨fresh, fun p mem => absurd mem List.not_mem_nil, List.nodup_nil, rfl⟩
  have inv := run.history (I := Inv) (fun _ _ _ _ before step => before.step step) begun
  rw [← inv.listed]
  exact (List.nodup_append.mp (List.map_append ▸ inv.nodup)).1

/-! ## Sample runs -/

theorem begins_frame {b : Bytes} {f : Frame} (idle : c.pending = []) (parsed : parseFrame b = .ok f)
    (new : f.nonceHex ∉ c.session.seenFrameNonces) :
    Step J c (.began b none) ⟨c.session, [⟨b, f, none⟩], c.returned⟩ := by
  have begun : c.session.decryptBegin J b none = .ok f :=
    decryptBegin_eq_ok.mpr ⟨parsed, rfl, new⟩
  have step := Step.begin begun
  rw [idle] at step
  exact step

theorem settles_frame {b frame : Bytes} {f : Frame} (waits : c.pending = [⟨b, f, none⟩])
    (opened : J.aesGcmDecrypt c.session.key f.nonce f.ciphertext f.metadata = .ok frame) :
    Step J c (.settled b (.ok (frame, f.metadata)))
      ⟨c.session.noteNonce f.nonceHex, [], c.returned ++ [⟨b, f, none⟩]⟩ := by
  have settled : c.session.decryptSettle J f none =
      (.ok (frame, f.metadata), c.session.noteNonce f.nonceHex) := by
    rw [decryptSettle, opened]
    rfl
  have only : c.pending = [] ++ (⟨b, f, none⟩ : Pending) :: [] := waits
  exact .open (p := ⟨b, f, none⟩) only settled

/-- A call that nothing overlaps, on a new frame that opens. -/
theorem opens_frame {b frame : Bytes} {f : Frame} (idle : c.pending = [])
    (parsed : parseFrame b = .ok f) (new : f.nonceHex ∉ c.session.seenFrameNonces)
    (opened : J.aesGcmDecrypt c.session.key f.nonce f.ciphertext f.metadata = .ok frame) :
    Run (Step J) c [.began b none, .settled b (.ok (frame, f.metadata))]
      ⟨c.session.noteNonce f.nonceHex, [], c.returned ++ [⟨b, f, none⟩]⟩ :=
  .cons (begins_frame idle parsed new) (.single (settles_frame rfl opened))

def sampleSession : JsLiveSession := ⟨LiveSession.sampleKey, [], .finite (-1), LiveSession.length_sampleKey⟩

def sampleNonce (i : ℕ) : Bytes := (LengthPrefix.bigEndian 256 12 i).map UInt8.ofNat

/-- An empty frame that the sample session encrypts with the nonce `i`. -/
def sampleFrame (i : ℕ) : Frame := ⟨[], sampleNonce i, LiveSession.sampleKey ++ sampleNonce i⟩

theorem sampleNonce_size (i : ℕ) : (sampleNonce i).length = NONCE_SIZE := by
  rw [sampleNonce, List.length_map, LengthPrefix.length_bigEndian]
  rfl

theorem sampleFrame_parsed (i : ℕ) : parseFrame (frameBytes (sampleFrame i)) = .ok (sampleFrame i) :=
  parseFrame_frameBytes (Nat.two_pow_pos 16) (sampleNonce_size i)

theorem sampleFrame_opens (i : ℕ) : JsPlatform.transparent.aesGcmDecrypt LiveSession.sampleKey
    (sampleFrame i).nonce (sampleFrame i).ciphertext (sampleFrame i).metadata = .ok [] := by
  have opened := Platform.stripped_append ⟨.invalidTag, []⟩
    (LiveSession.sampleKey ++ sampleNonce i) []
  rw [List.append_nil] at opened
  have same : JsPlatform.transparent.aesGcmDecrypt LiveSession.sampleKey
      (sampleFrame i).nonce (sampleFrame i).ciphertext (sampleFrame i).metadata =
      webResult (Platform.stripped ⟨.invalidTag, []⟩
        (LiveSession.sampleKey ++ sampleNonce i ++ [])
        (LiveSession.sampleKey ++ sampleNonce i)) := rfl
  rw [same, List.append_nil, opened]
  rfl

theorem sampleNonce_inj {i j : ℕ} (hi : i < 256 ^ 12) (hj : j < 256 ^ 12)
    (same : (sampleFrame i).nonceHex = (sampleFrame j).nonceHex) : i = j := by
  have bytes := congrArg JsStr.hexPairs same
  simp only [Frame.nonceHex, sampleFrame, JsStr.hexPairs_ofBytes] at bytes
  have digits := congrArg (List.map UInt8.toNat) bytes
  have back : ∀ k, (sampleNonce k).map UInt8.toNat = LengthPrefix.bigEndian 256 12 k := by
    intro k
    simp [sampleNonce, LengthPrefix.bigEndian, List.map_map]
  rw [back, back] at digits
  exact LengthPrefix.bigEndian_inj hi hj digits

/-- A frame, and the same frame again. -/
theorem sampleSession_refuses : ∃ c, Run (GuardedStep .transparent) (Calls.start sampleSession)
    [.began (frameBytes (sampleFrame 0)) none,
      .settled (frameBytes (sampleFrame 0)) (.ok ([], [])),
      .refused (frameBytes (sampleFrame 0)) none
        ⟨.error, [.lit "ReplayError: Frame replay detected"]⟩] c := by
  have began : Step .transparent (Calls.start sampleSession) _ _ :=
    begins_frame rfl (sampleFrame_parsed 0) List.not_mem_nil
  have settled : Step .transparent
      ⟨sampleSession, [⟨frameBytes (sampleFrame 0), sampleFrame 0, none⟩], []⟩ _ _ :=
    settles_frame rfl (sampleFrame_opens 0)
  refine ⟨_, .cons ⟨began, Or.inr ⟨nofun, nofun⟩⟩
    (.cons ⟨settled, trivial⟩ (.single ⟨.refuse ?_, trivial⟩))⟩
  rw [decryptBegin, sampleFrame_parsed]
  have seen : (sampleSession.noteNonce (sampleFrame 0).nonceHex).seenFrameNonces.contains
      (sampleFrame 0).nonceHex = true := by decide +kernel
  simp only [bind, Except.bind, replayed, Bool.not_false, jsEnsure, if_true, seen, Bool.not_true,
    Bool.false_eq_true, if_false]

/-- The first `n` sample frames are opened one after another. -/
theorem opens_frames (n : ℕ) (small : n ≤ 256 ^ 12) : ∃ es c,
    Run (Step .transparent) (Calls.start sampleSession) es c ∧ c.pending = [] ∧
      c.session.key = LiveSession.sampleKey ∧
      c.session.seenFrameNonces = Recent.pushes MAX_SEEN_FRAME_NONCES
        ((List.range n).map fun i => (sampleFrame i).nonceHex) ∧
      es.filterMap Event.returned = (List.range n).map fun i => frameBytes (sampleFrame i) := by
  induction n with
  | zero => exact ⟨[], _, .nil, rfl, rfl, rfl, rfl⟩
  | succ n ih =>
      obtain ⟨es, c, run, idle, key, seen, returned⟩ := ih (by omega)
      have new : (sampleFrame n).nonceHex ∉ c.session.seenFrameNonces := by
        intro mem
        rw [seen] at mem
        obtain ⟨i, below, same⟩ := List.mem_map.mp (Recent.mem_of_mem_pushes mem)
        have := List.mem_range.mp below
        have := sampleNonce_inj (by omega) (by omega) same
        omega
      have opened : JsPlatform.transparent.aesGcmDecrypt c.session.key (sampleFrame n).nonce
          (sampleFrame n).ciphertext (sampleFrame n).metadata = .ok [] := by
        rw [key]
        exact sampleFrame_opens n
      refine ⟨_, _, run.append (opens_frame idle (sampleFrame_parsed n) new opened), rfl, key, ?_, ?_⟩
      · rw [noteNonce, seen, List.range_succ, List.map_append, List.map_singleton,
          Recent.pushes_snoc]
      · rw [List.filterMap_append, returned, List.range_succ, List.map_append]
        rfl

/-- After 10000 others the first frame is returned again. -/
theorem forgotten_frame_returned : ∃ es c,
    Run (Step .transparent) (Calls.start sampleSession) es c ∧
      ¬ (es.filterMap Event.returned).Nodup := by
  obtain ⟨es, c, run, idle, key, seen, returned⟩ := opens_frames 10001 (by norm_num)
  have distinct : ((List.range 10001).map fun i => (sampleFrame i).nonceHex).Nodup := by
    refine List.Nodup.map_on ?_ List.nodup_range
    intro i hi j hj same
    have := List.mem_range.mp hi
    have := List.mem_range.mp hj
    exact sampleNonce_inj (by omega) (by omega) same
  have new : (sampleFrame 0).nonceHex ∉ c.session.seenFrameNonces := by
    rw [seen, Recent.pushes_of_nodup (by decide) distinct]
    intro mem
    rw [List.length_map, List.length_range, MAX_SEEN_FRAME_NONCES, ← List.map_drop] at mem
    obtain ⟨i, later, same⟩ := List.mem_map.mp mem
    obtain ⟨k, at_k, rfl⟩ := List.mem_iff_getElem.mp later
    rw [List.length_drop, List.length_range] at at_k
    rw [List.getElem_drop, List.getElem_range] at same
    have := sampleNonce_inj (by omega) (by omega) same
    omega
  have opened : JsPlatform.transparent.aesGcmDecrypt c.session.key (sampleFrame 0).nonce
      (sampleFrame 0).ciphertext (sampleFrame 0).metadata = .ok [] := by
    rw [key]
    exact sampleFrame_opens 0
  refine ⟨_, _, run.append (opens_frame idle (sampleFrame_parsed 0) new opened), ?_⟩
  rw [List.filterMap_append, returned]
  intro nodup
  have first : frameBytes (sampleFrame 0) ∈
      (List.range 10001).map fun i => frameBytes (sampleFrame i) :=
    List.mem_map.mpr ⟨0, List.mem_range.mpr (by norm_num), rfl⟩
  exact (List.nodup_append.mp nodup).2.2 _ first _ (List.mem_singleton.mpr rfl) rfl

end JsLiveSession

/-- Replayed frames are not returned, in JavaScript if they come while their nonce is remembered and
one at a time, in Python if the caller's number or the ratchet stops them. -/
theorem live_frames_once (J : JsPlatform) {P : Platform} (tidy : P.AeadTidy)
    (authentic : P.AeadAuthentic) :
    (∀ (key : Bytes) (s : JsLiveSession) (es : List JsLiveSession.Event) (c : JsLiveSession.Calls),
      JsLiveSession.init key = .ok s → Run (JsLiveSession.GuardedStep J) (.start s) es c →
        (es.filterMap JsLiveSession.Event.returned).Nodup) ∧
    (∀ (key sessionId : Bytes) (s : LiveSession) (es : List LiveSession.Receipts.Event)
      (r : LiveSession.Receipts), LiveSession.Created key sessionId s →
        Run (LiveSession.Receipts.GuardedStep P) (.start s) es r →
          LiveSession.KeysDiffer P key r.session.epoch →
            (es.filterMap LiveSession.Receipts.Event.returned).Nodup) := by
  constructor
  · intro key s es c made run
    have fresh : s.seenFrameNonces = [] := by
      unfold JsLiveSession.init at made
      split at made
      · cases made
        rfl
      · cases made
    exact JsLiveSession.returned_once fresh run
  · intro key sessionId s es r made run differ
    exact LiveSession.Receipts.returned_once tidy authentic made run differ

/-- In JavaScript a frame and the same once more, in Python a ratchet between the two. -/
theorem sample_frames_once : ∃ fs gs, fs ≠ [] ∧ gs ≠ [] ∧
    (fs.filterMap JsLiveSession.Event.returned).Nodup ∧
      (gs.filterMap LiveSession.Receipts.Event.returned).Nodup := by
  obtain ⟨b, c, e, r, epoch, run⟩ := LiveSession.Receipts.sampleLive_ratchets
  obtain ⟨d, run'⟩ := JsLiveSession.sampleSession_refuses
  have once := live_frames_once .transparent Platform.transparent_tidy
    Platform.transparent_authentic
  refine ⟨_, _, List.cons_ne_nil _ _, List.cons_ne_nil _ _,
    once.1 LiveSession.sampleKey _ _ _ rfl run',
    once.2 _ _ _ _ _ LiveSession.Stream.sampleLive_created run ?_⟩
  intro e e' lt le
  rw [epoch] at le
  obtain ⟨rfl, rfl⟩ : e = 0 ∧ e' = 1 := by omega
  exact LiveSession.sampleKey_ratchets

/-- A frame of JavaScript is returned again after 10000 others, one of Python at once. -/
theorem live_frames_twice :
    (∃ es c, Run (JsLiveSession.Step .transparent) (.start JsLiveSession.sampleSession) es c ∧
      ¬ (es.filterMap JsLiveSession.Event.returned).Nodup) ∧
    ∃ es r, Run (LiveSession.Receipts.Step .transparent) (.start LiveSession.sampleLive) es r ∧
      ¬ (es.filterMap LiveSession.Receipts.Event.returned).Nodup :=
  ⟨JsLiveSession.forgotten_frame_returned, LiveSession.Receipts.sampleLive_returns_twice⟩

end Uxsp
