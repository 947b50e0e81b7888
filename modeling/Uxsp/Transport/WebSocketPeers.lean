import Uxsp.Core.SessionLink
import Uxsp.Lib.Lane
import Uxsp.Transport.WebSocketClose

/-!
# Two sockets with a session

The sockets at the two ends of a strictly ordered session send data and keepalives, and may resume.
Frames arrive in any order, more than once or never, and a cut of the connection loses those that
are under way.  In each direction the frames form a `Lane`: `Step.lane`.

* `decode_iff_all_opened`: a frame decodes exactly if all frames before it have been opened, which
  nothing does to a PONG.
* `decode_after_cut_iff`: whether data comes through after a cut depends on what the cut has lost,
  and not on whether the session is resumed.
-/

namespace Uxsp

/-! ## Payloads of the peer -/

namespace Session

variable {P : Platform} {s : Session} {payload : Dict} {plaintext : Bytes} {seq : ℕ}

/-- A payload of the peer is opened on an active session that expects its number, and otherwise
refused, which leaves the numbers alone. -/
theorem decrypt_carried (aead : P.AeadCorrect) (ordered : s.config.enforceOrdering = true)
    (carries : Link.Carries P s.sessionId s.recvKey seq plaintext payload) (now after : ℚ) :
    (s.ActiveAt now ∧ seq = s.recvSeq) ∧ decrypt P s payload now after =
        (.ok plaintext, ({ s with recvSeq := s.recvSeq + 1 } : Session).evaluateExpiry after) ∨
      ¬ (s.ActiveAt now ∧ seq = s.recvSeq) ∧ ∃ e, decrypt P s payload now after = (.error e, s) ∨
        decrypt P s payload now after = (.error e, s.evaluateExpiry now) := by
  obtain ⟨nonce, genuine⟩ := carries
  obtain ⟨m, valid, rfl⟩ := validatePayload_genuine (R := P.toRuntime) genuine
  have admitted : s.Admitted m.seq ↔ m.seq = s.recvSeq := by
    rw [Admitted, if_pos ordered]
  by_cases active : s.ActiveAt now
  · by_cases next : m.seq = s.recvSeq
    · have opened := decrypt_genuine after aead active (admitted.mpr next) genuine
      rw [advance, if_pos ordered] at opened
      exact Or.inl ⟨⟨active, next⟩, opened⟩
    · obtain ⟨e, refused⟩ := decrypt_refused after valid active (mt admitted.mp next)
      exact Or.inr ⟨fun h => next h.2, e, Or.inl refused⟩
  · obtain ⟨e, refused⟩ := decrypt_inactive after valid active
    exact Or.inr ⟨fun h => active h.1, e, Or.inr refused⟩

end Session

namespace UXSPWebSocket

open Session (SameChannel)

variable {P : Platform} {S : NonceStore} {w w' : UXSPWebSocket P S} {r : SessionRef}
  {s t : Session} {k : Option ℕ} {o : Outcome}

/-! ## One call on the session -/

/-- The frame that a call returns. -/
def Outcome.sent : Outcome → Option UXSPFrame
  | .frame (.ok f) => some f
  | _ => none

/-- What a call does to the session: it may use up a number, which goes into the frame that it
returns, and it may open the frame with the number `k`. -/
structure Turn (P : Platform) (s t : Session) (o : Outcome) (k : Option ℕ) : Prop where
  channel : SameChannel s t
  sent : t.sendSeq = s.sendSeq ∨ t.sendSeq = s.sendSeq + 1 ∧ ∀ frame, o.sent = some frame →
    ∃ plaintext, Link.Carries P s.sessionId s.sendKey s.sendSeq plaintext frame.payload
  received : t.recvSeq = s.recvSeq ∨ t.recvSeq = s.recvSeq + 1 ∧ k = some s.recvSeq

theorem Turn.refl (s : Session) : Turn P s s o k := ⟨.refl s, Or.inl rfl, Or.inl rfl⟩

theorem Turn.evaluateExpiry (s : Session) (now : ℚ) : Turn P s (s.evaluateExpiry now) o k :=
  ⟨.evaluateExpiry s now, Or.inl rfl, Or.inl rfl⟩

/-- The call leaves the socket its session, which has had its turn. -/
structure Turned (w : UXSPWebSocket P S) (r : SessionRef) (o : Outcome) (k : Option ℕ)
    (w' : UXSPWebSocket P S) : Prop where
  session : w'.session = some r
  turn : Turn P (w.sessions r) (w'.sessions r) o k

theorem Turned.refl (own : w.session = some r) : Turned w r o k w := ⟨own, .refl _⟩

theorem Turned.put (own : w.session = some r) (turn : Turn P (w.sessions r) t o k) :
    Turned w r o k (w.put r t) := by
  refine ⟨own, ?_⟩
  rwa [put_sessions_self]

theorem EncryptStep.turn {plaintext : Bytes} {nonce : Urandom NONCE_SIZE} {now after : ℚ}
    {payload : Except PyErr Dict}
    (step : Session.EncryptStep P s plaintext nonce now after payload t) (type : FrameType)
    (stamp : ℚ) : Turn P s t (.frame (payload.map (UXSPFrame.build type · stamp))) k := by
  refine ⟨step.sameChannel, ?_, ?_⟩
  · cases step with
    | inactive => exact Or.inl rfl
    | burnt =>
        refine Or.inr ⟨rfl, fun frame sent => ?_⟩
        cases sent
    | sent _ sealed =>
        refine Or.inr ⟨rfl, fun frame sent => ?_⟩
        cases sent
        exact ⟨plaintext, nonce, sealed⟩
  · cases step <;> exact Or.inl rfl

theorem encrypted_turned (own : w.session = some r) (type : FrameType) (plaintext : Bytes)
    (nonce : Urandom NONCE_SIZE) (now after stamp : ℚ) :
    Turned w r (.frame (w.encrypted type r plaintext nonce now after stamp).1) k
      (w.encrypted type r plaintext nonce now after stamp).2 :=
  .put own (EncryptStep.turn (Session.encrypt_step P (w.sessions r) plaintext nonce now after)
    type stamp)

theorem control_turned (own : w.session = some r) (type : FrameType) (payload : Dict)
    (nonce : Urandom NONCE_SIZE) (now after stamp : ℚ) :
    Turned w r (.frame (w.control type payload nonce now after stamp).1) k
      (w.control type payload nonce now after stamp).2 := by
  rcases control_eq own type payload nonce now after stamp with ⟨e, -, out⟩ | ⟨raw, -, out⟩
  · rw [out]
    exact .refl own
  · rw [out]
    exact encrypted_turned own ..

theorem encode_turned (own : w.session = some r) (plaintext : Bytes) (nonce : Urandom NONCE_SIZE)
    (now after stamp : ℚ) :
    Turned w r (.frame (w.encode plaintext nonce now after stamp).1) k
      (w.encode plaintext nonce now after stamp).2 := by
  simp only [encode, own]
  exact encrypted_turned own ..

/-- What opening the frame with a number does to the session. -/
structure Read (s t : Session) (seq : ℕ) : Prop where
  channel : SameChannel s t
  sent : t.sendSeq = s.sendSeq
  received : t.recvSeq = s.recvSeq ∨ t.recvSeq = s.recvSeq + 1 ∧ seq = s.recvSeq

theorem Read.refl (s : Session) (seq : ℕ) : Read s s seq := ⟨.refl s, rfl, Or.inl rfl⟩

theorem Read.turn {seq : ℕ} (read : Read s t seq) : Turn P s t o (some seq) where
  channel := read.channel
  sent := Or.inl read.sent
  received := read.received.imp_right fun next => ⟨next.1, congrArg some next.2⟩

/-- Reading and then sending. -/
theorem Read.trans {u : Session} {seq : ℕ} (read : Read s t seq) (turn : Turn P t u o none) :
    Turn P s u o (some seq) where
  channel := read.channel.trans turn.channel
  sent := by
    have sent := turn.sent
    rwa [read.sent, read.channel.sessionId, read.channel.sendKey] at sent
  received := by
    rcases turn.received with kept | ⟨-, other⟩
    · rw [kept]
      exact read.turn (P := P) (o := o) |>.received
    · cases other

theorem decrypt_read (aead : P.AeadCorrect) (ordered : s.config.enforceOrdering = true)
    {payload : Dict} {plaintext : Bytes} {seq : ℕ}
    (carries : Link.Carries P s.sessionId s.recvKey seq plaintext payload) (now after : ℚ) :
    Read s (Session.decrypt P s payload now after).2 seq := by
  have channel := (Session.decrypt_step P s payload now after).sameChannel
  rcases Session.decrypt_carried aead ordered carries now after with
    ⟨⟨-, next⟩, out⟩ | ⟨-, e, out | out⟩
  · rw [out] at channel ⊢
    exact ⟨channel, rfl, Or.inr ⟨rfl, next⟩⟩
  · rw [out]
    exact .refl s seq
  · rw [out]
    exact ⟨.evaluateExpiry s now, rfl, Or.inl rfl⟩

theorem decode_turned (aead : P.AeadCorrect) (own : w.session = some r)
    (ordered : (w.sessions r).config.enforceOrdering = true) {frame : UXSPFrame}
    {plaintext : Bytes} {seq : ℕ}
    (carries : Link.Carries P (w.sessions r).sessionId (w.sessions r).recvKey seq plaintext
      frame.payload) (now after : ℚ) :
    Turned w r o (if frame.type = .data then some seq else none) (w.decode frame now after).2 := by
  by_cases type : frame.type = .data
  · simp only [decode, own, type, ne_eq, not_true_eq_false, if_false, if_true]
    exact .put own (decrypt_read aead ordered carries now after).turn
  · simp only [decode, own, type, ne_eq, not_false_eq_true, if_true, if_false]
    exact .refl own

theorem pong_turned (aead : P.AeadCorrect) (own : w.session = some r)
    (ordered : (w.sessions r).config.enforceOrdering = true) {frame : UXSPFrame}
    {plaintext : Bytes} {seq : ℕ}
    (carries : Link.Carries P (w.sessions r).sessionId (w.sessions r).recvKey seq plaintext
      frame.payload) (nonce : Urandom NONCE_SIZE) (opening opened now after stamp : ℚ) :
    Turned w r (.frame (w.pong frame nonce opening opened now after stamp).1) (some seq)
      (w.pong frame nonce opening opened now after stamp).2 := by
  have read : ∃ t, (w.pingData frame opening opened).2 = w.put r t ∧ Read (w.sessions r) t seq := by
    simp only [pingData, own]
    split
    · exact ⟨_, rfl, decrypt_read aead ordered carries opening opened⟩
    · exact ⟨w.sessions r, (put_self r).symm, .refl _ seq⟩
  obtain ⟨t, out, read⟩ := read
  unfold pong
  generalize w.pingData frame opening opened = result at out
  rcases result with ⟨data, w'⟩
  cases out
  simp only
  split
  · exact .put own read.turn
  · rename_i ts _
    -- the PONG is made on the session as reading the PING has left it
    have made := control_turned (k := none) (w := w.put r t) own .pong [("echo_ts", ts)] nonce now
      after stamp
    have turn := made.turn
    rw [put_sessions_self] at turn
    exact ⟨made.session, read.trans turn⟩

theorem isReady_turned (own : w.session = some r) (now : ℚ) :
    Turned w r o k (w.isReady now).2 := by
  simp only [isReady, own, Session.isActive_eq]
  exact .put own (.evaluateExpiry _ now)

theorem startResume_turned (own : w.session = some r) (nonce : Urandom 16) (now stamp : ℚ) :
    Turned w r o k (w.startResume nonce now stamp).2 := by
  have turned : Turned w r o k (w.put r ((w.sessions r).evaluateExpiry now)) :=
    .put own (.evaluateExpiry _ now)
  simp only [startResume, own, Session.isActive_eq]
  split <;> rename_i out <;> rw [Prod.mk.injEq] at out <;> rwa [← out.2]

theorem completeResume_turned (own : w.session = some r) (frame : UXSPFrame) (now : ℚ) :
    Turned w r o k (w.completeResume frame now).2 := by
  have turned : Turned w r o k (w.put r ((w.sessions r).evaluateExpiry now)) :=
    .put own (.evaluateExpiry _ now)
  simp only [completeResume, own, Session.isActive_eq]
  split <;> rename_i out <;> rw [Prod.mk.injEq] at out <;> rwa [← out.2]

theorem handleResume_turned (own : w.session = some r) (frame : UXSPFrame) (nonce : Urandom 16)
    (now stamp : ℚ) : Turned w r o k (w.handleResume frame none nonce now stamp).2 := by
  have turned : Turned w r o k (w.put r ((w.sessions r).evaluateExpiry now)) :=
    .put own (.evaluateExpiry _ now)
  by_cases type : frame.type = .resume
  · simp only [handleResume, type, ne_eq, not_true_eq_false, if_false, Option.none_or, own,
      Session.isActive_eq]
    split
    · rename_i out
      rw [Prod.mk.injEq] at out
      rwa [← out.2]
    · rename_i out
      rw [Prod.mk.injEq] at out
      rw [← out.2]
      split
      · exact turned
      · exact ⟨rfl, turned.turn⟩
  · simp only [handleResume, ne_eq, type, not_false_eq_true, if_true]
    exact .refl own

end UXSPWebSocket

/-! ## The two sockets -/

open UXSPWebSocket

structure Peers (P : Platform) (S : NonceStore) where
  socket : Bool → UXSPWebSocket P S
  /-- The frames that the numbers of a side have gone into; a call that fails may lose one. -/
  made : Bool → List (Option UXSPFrame)
  /-- The frames towards a side below this number are lost. -/
  lost : Bool → ℕ

namespace Peers

variable {P : Platform} {S : NonceStore}

inductive Event (P : Platform) (S : NonceStore)
  | call (x : Bool) (c : Call P S) (o : Outcome)
  | cut

variable (ref : Bool → SessionRef) (p : Peers P S)

/-- The session of a side. -/
def session (x : Bool) : Session := (p.socket x).sessions (ref x)

/-- The entry of a number that a call has used up. -/
def entry (s t : Session) (o : Outcome) : List (Option UXSPFrame) :=
  if t.sendSeq = s.sendSeq then [] else [o.sent]

/-- A side has made a call. -/
def turn (x : Bool) (o : Outcome) (w' : UXSPWebSocket P S) : Peers P S where
  socket := Function.update p.socket x w'
  made := Function.update p.made x (p.made x ++ entry (p.session ref x) (w'.sessions (ref x)) o)
  lost := p.lost

/-- The connection is cut, and what is under way is lost. -/
def cut : Peers P S := { p with lost := fun x => (p.made (!x)).length }

/-- What a side may be given to open: a frame of the other side that is not lost. -/
def Arrives (x : Bool) (k : ℕ) (frame : UXSPFrame) : Prop :=
  p.lost x ≤ k ∧ (p.made (!x))[k]? = some (some frame)

/-- The calls of a side, with the number of the frame that it is given to open.  What comes in as a
RESUME or a RESUME_ACK may be any frame. -/
inductive Talks (x : Bool) : Call P S → Option ℕ → Prop
  | encode (plaintext : Bytes) (nonce : Urandom NONCE_SIZE) (now after stamp : ℚ) :
      Talks x (.encode plaintext nonce now after stamp) none
  | ping (nonce : Urandom NONCE_SIZE) (ts now after stamp : ℚ) :
      Talks x (.ping nonce ts now after stamp) none
  | decode {frame : UXSPFrame} {k : ℕ} (now after : ℚ) :
      p.Arrives x k frame → Talks x (.decode frame now after) (some k)
  | pong {frame : UXSPFrame} {k : ℕ} (nonce : Urandom NONCE_SIZE)
      (opening opened now after stamp : ℚ) :
      p.Arrives x k frame → frame.type = .ping →
      Talks x (.pong frame nonce opening opened now after stamp) (some k)
  | startResume (nonce : Urandom 16) (now stamp : ℚ) : Talks x (.startResume nonce now stamp) none
  | handleResume (frame : UXSPFrame) (nonce : Urandom 16) (now stamp : ℚ) :
      Talks x (.handleResume frame none nonce now stamp) none
  | completeResume (frame : UXSPFrame) (now : ℚ) : Talks x (.completeResume frame now) none
  | isReady (now : ℚ) : Talks x (.isReady now) none

inductive Step : Event P S → Peers P S → Prop
  | call {x : Bool} {c : Call P S} {k : Option ℕ} {o : Outcome} {w' : UXSPWebSocket P S} :
      p.Talks x c k → (p.socket x).apply c = (o, w') → Step (.call x c o) (p.turn ref x o w')
  | cut : Step .cut p.cut

/-- The sockets share a strictly ordered session, and each number of a side went into a frame that
carries it. -/
structure Inv : Prop where
  own : ∀ x, (p.socket x).session = some (ref x)
  paired : Link.Paired (p.session ref)
  count : ∀ x, (p.made x).length = (p.session ref x).sendSeq
  carried : ∀ x k frame, (p.made x)[k]? = some (some frame) → ∃ plaintext, Link.Carries P
    (p.session ref x).sessionId (p.session ref x).sendKey k plaintext frame.payload

/-- The frames towards a side. -/
def lane (x : Bool) : Lane UXSPFrame := ⟨p.made (!x), (p.session ref x).recvSeq, p.lost x⟩

/-- The frames that are opened: DATA by `decode`, PING by `pong`. -/
def Openable (frame : UXSPFrame) : Prop := frame.type = .data ∨ frame.type = .ping

variable {ref} {p} {q : Peers P S} {x : Bool} {c : Call P S} {k : Option ℕ} {o : Outcome}
  {w' : UXSPWebSocket P S}

/-- What arrives carries its number under the receiver's own key. -/
theorem Inv.arrived (inv : p.Inv ref) {n : ℕ} {frame : UXSPFrame}
    (made : (p.made (!x))[n]? = some (some frame)) : ∃ plaintext,
    Link.Carries P (p.session ref x).sessionId (p.session ref x).recvKey n plaintext
      frame.payload := by
  obtain ⟨plaintext, carries⟩ := inv.carried (!x) n frame made
  rw [inv.paired.sessionId x, inv.paired.keys x] at carries
  exact ⟨plaintext, carries⟩

/-- A call is a turn of the side's session, which only opens what is openable. -/
theorem Talks.turned (aead : P.AeadCorrect) (inv : p.Inv ref) (talks : p.Talks x c k)
    (out : (p.socket x).apply c = (o, w')) :
    ∃ k', Turned (p.socket x) (ref x) o k' w' ∧
      ∀ n, k' = some n → ∃ frame, p.Arrives x n frame ∧ Openable frame := by
  have own := inv.own x
  have ordered := inv.paired.ordered x
  have nothing (n : ℕ) (same : (none : Option ℕ) = some n) :
      ∃ frame, p.Arrives x n frame ∧ Openable frame := by
    cases same
  cases talks with
  | encode plaintext nonce now after stamp =>
      cases out
      exact ⟨none, encode_turned own .., nothing⟩
  | ping nonce ts now after stamp =>
      cases out
      exact ⟨none, control_turned own .., nothing⟩
  | @decode frame n now after arrives =>
      cases out
      obtain ⟨plaintext, carries⟩ := inv.arrived arrives.2
      refine ⟨_, decode_turned aead own ordered carries now after, fun n' same => ?_⟩
      split at same
      · rename_i type
        cases same
        exact ⟨frame, arrives, Or.inl type⟩
      · cases same
  | @pong frame n nonce opening opened now after stamp arrives type =>
      cases out
      obtain ⟨plaintext, carries⟩ := inv.arrived arrives.2
      refine ⟨_, pong_turned aead own ordered carries nonce opening opened now after stamp,
        fun n' same => ?_⟩
      cases same
      exact ⟨frame, arrives, Or.inr type⟩
  | startResume nonce now stamp =>
      cases out
      exact ⟨none, startResume_turned own nonce now stamp, nothing⟩
  | handleResume frame nonce now stamp =>
      cases out
      exact ⟨none, handleResume_turned own frame nonce now stamp, nothing⟩
  | completeResume frame now =>
      cases out
      exact ⟨none, completeResume_turned own frame now, nothing⟩
  | isReady now =>
      cases out
      exact ⟨none, isReady_turned own now, nothing⟩

/-! ## What a step does to the two of them -/

theorem session_turn : (p.turn ref x o w').session ref =
    Function.update (p.session ref) x (w'.sessions (ref x)) := by
  funext y
  rcases eq_or_ne y x with rfl | ne
  · simp only [session, turn, Function.update_self]
  · simp only [session, turn, Function.update_of_ne ne]

theorem session_turn_self : (p.turn ref x o w').session ref x = w'.sessions (ref x) := by
  rw [session_turn, Function.update_self]

theorem session_turn_other : (p.turn ref x o w').session ref (!x) = p.session ref (!x) := by
  rw [session_turn, Function.update_of_ne (Bool.not_ne_self x)]

theorem made_turn_self : (p.turn ref x o w').made x =
    p.made x ++ entry (p.session ref x) (w'.sessions (ref x)) o := Function.update_self ..

theorem made_turn_other : (p.turn ref x o w').made (!x) = p.made (!x) :=
  Function.update_of_ne (Bool.not_ne_self x) ..

theorem entry_cases (turn : Turn P (p.session ref x) (w'.sessions (ref x)) o k) :
    entry (p.session ref x) (w'.sessions (ref x)) o = [] ∧
        (w'.sessions (ref x)).sendSeq = (p.session ref x).sendSeq ∨
      entry (p.session ref x) (w'.sessions (ref x)) o = [o.sent] ∧
        (w'.sessions (ref x)).sendSeq = (p.session ref x).sendSeq + 1 ∧
        ∀ frame, o.sent = some frame → ∃ plaintext, Link.Carries P (p.session ref x).sessionId
          (p.session ref x).sendKey (p.session ref x).sendSeq plaintext frame.payload := by
  rcases turn.sent with same | ⟨more, carries⟩
  · exact Or.inl ⟨if_pos same, same⟩
  · exact Or.inr ⟨if_neg (by omega), more, carries⟩

theorem Inv.turn (inv : p.Inv ref) (turned : Turned (p.socket x) (ref x) o k w') :
    (p.turn ref x o w').Inv ref where
  own := by
    refine Link.forall_side x ?_ ?_
    · change (Function.update p.socket x w' x).session = some (ref x)
      rw [Function.update_self]
      exact turned.session
    · change (Function.update p.socket x w' (!x)).session = some (ref (!x))
      rw [Function.update_of_ne (Bool.not_ne_self x)]
      exact inv.own (!x)
  paired := by
    rw [session_turn]
    exact inv.paired.update turned.turn.channel
  count := by
    refine Link.forall_side x ?_ ?_
    · rw [made_turn_self, session_turn_self, List.length_append, inv.count x]
      rcases entry_cases turned.turn with ⟨entry, same⟩ | ⟨entry, more, -⟩
      · rw [entry, same, List.length_nil, Nat.add_zero]
      · rw [entry, more, List.length_singleton]
    · rw [made_turn_other, session_turn_other, inv.count (!x)]
  carried := by
    refine Link.forall_side x ?_ ?_
    · intro n frame made
      have same := turned.turn.channel
      rw [made_turn_self] at made
      rw [session_turn_self, same.sessionId, same.sendKey]
      rcases Nat.lt_or_ge n (p.made x).length with old | new
      · rw [List.getElem?_append_left old] at made
        exact inv.carried x n frame made
      · rw [List.getElem?_append_right new] at made
        rcases entry_cases turned.turn with ⟨entry, -⟩ | ⟨entry, -, carries⟩
        · rw [entry] at made
          cases made
        · rw [entry, List.getElem?_singleton] at made
          split at made
          · rename_i last
            have place : n = (p.session ref x).sendSeq := by
              rw [← inv.count x]
              omega
            rw [place]
            exact carries frame (Option.some.inj made)
          · cases made
    · rw [made_turn_other, session_turn_other]
      exact inv.carried (!x)

theorem Inv.step (aead : P.AeadCorrect) (inv : p.Inv ref) {e : Event P S} (step : p.Step ref e q) :
    q.Inv ref := by
  cases step with
  | call talks out =>
      obtain ⟨k', turned, -⟩ := talks.turned aead inv out
      exact inv.turn turned
  | cut => exact ⟨inv.own, inv.paired, inv.count, inv.carried⟩

/-- Each direction is a lane. -/
theorem Step.lane (aead : P.AeadCorrect) (inv : p.Inv ref) {e : Event P S}
    (step : p.Step ref e q) (y : Bool) :
    Lane.Step Openable (p.lane ref y) () (q.lane ref y) := by
  cases step with
  | @call x c k o w' talks out =>
      obtain ⟨k', turned, opens⟩ := talks.turned aead inv out
      revert y
      refine Link.forall_side x ?_ ?_
      · simp only [Peers.lane, made_turn_other, session_turn_self]
        rcases turned.turn.received with same | ⟨more, opened⟩
        · rw [same]
          exact .idle
        · obtain ⟨frame, arrives, openable⟩ := opens _ opened
          rw [more]
          exact .take (l := p.lane ref x) arrives.1 arrives.2 openable
      · simp only [Peers.lane, Bool.not_not, made_turn_self, session_turn_other]
        rcases entry_cases turned.turn with ⟨entry, -⟩ | ⟨entry, -⟩
        · rw [entry, List.append_nil]
          have here := Lane.Step.idle (Q := Openable) (l := p.lane ref (!x))
          simp only [Peers.lane, Bool.not_not] at here
          exact here
        · rw [entry]
          have here := Lane.Step.put (Q := Openable) (l := p.lane ref (!x)) o.sent
          simp only [Peers.lane, Bool.not_not] at here
          exact here
  | cut => exact .cut

theorem Run.lane (aead : P.AeadCorrect) {es : List (Event P S)} (run : Run (Step ref) p es q)
    (inv : p.Inv ref) : q.Inv ref ∧
      ∀ y, ∃ us, Run (Lane.Step Openable) (p.lane ref y) us (q.lane ref y) := by
  induction run with
  | nil => exact ⟨inv, fun y => ⟨[], .nil⟩⟩
  | snoc _ last ih =>
      refine ⟨ih.1.step aead last, fun y => ?_⟩
      obtain ⟨us, lane⟩ := ih.2 y
      exact ⟨us ++ [()], .snoc lane (last.lane aead ih.1 y)⟩

/-! ## Which frames decode -/

/-- Nothing has been sent over the session yet. -/
structure Start (ref : Bool → SessionRef) (p : Peers P S) : Prop where
  own : ∀ x, (p.socket x).session = some (ref x)
  paired : Link.Paired (p.session ref)
  place : ∀ x, (p.session ref x).sendSeq = 0 ∧ (p.session ref x).recvSeq = 0
  made : ∀ x, p.made x = []
  lost : ∀ x, p.lost x = 0

theorem Start.inv (start : p.Start ref) : p.Inv ref where
  own := start.own
  paired := start.paired
  count := by
    intro x
    rw [start.made x, (start.place x).1]
    rfl
  carried := by
    intro x n frame made
    rw [start.made x] at made
    cases made

theorem Start.takes (start : p.Start ref) (x : Bool) : (p.lane ref x).Takes Openable := by
  constructor
  · rw [Peers.lane, start.lost x]
    exact Nat.zero_le _
  · intro n below
    rw [Peers.lane, (start.place x).2] at below
    exact absurd below (Nat.not_lt_zero n)

/-- A frame decodes if it is a DATA frame and has the number that the session expects. -/
theorem Inv.decode_iff (aead : P.AeadCorrect) (inv : p.Inv ref) {n : ℕ} {frame : UXSPFrame}
    (made : (p.made (!x))[n]? = some (some frame)) (now after : ℚ) :
    (∃ plaintext, ((p.socket x).decode frame now after).1 = .ok plaintext) ↔
      frame.type = .data ∧ (p.session ref x).ActiveAt now ∧ n = (p.session ref x).recvSeq := by
  obtain ⟨plaintext, carries⟩ := inv.arrived made
  by_cases type : frame.type = .data
  · simp only [decode, inv.own x, type, ne_eq, not_true_eq_false, if_false, true_and]
    have opened := Session.decrypt_carried aead (inv.paired.ordered x) carries now after
    change _ ∧ Session.decrypt P ((p.socket x).sessions (ref x)) _ _ _ = _ ∨ _ at opened
    rcases opened with ⟨expected, out⟩ | ⟨unexpected, e, out | out⟩
    · rw [out]
      exact iff_of_true ⟨plaintext, rfl⟩ expected
    · change Session.decrypt P ((p.socket x).sessions (ref x)) _ _ _ = _ at out
      rw [out]
      exact iff_of_false (fun ok => by cases ok.choose_spec) unexpected
    · change Session.decrypt P ((p.socket x).sessions (ref x)) _ _ _ = _ at out
      rw [out]
      exact iff_of_false (fun ok => by cases ok.choose_spec) unexpected
  · simp only [decode, inv.own x, type, ne_eq, not_false_eq_true, if_true, false_and, iff_false]
    exact fun ok => by cases ok.choose_spec

def sampleSide (x : Bool) : Session :=
  { Session.init .transparent "s" (bif x then "alice" else "bob") (bif x then "bob" else "alice") []
      x .default 0 with state := .active }

def samplePeers : Peers .transparent MemoryNonceStore.nonceStore where
  socket := fun x =>
    { asResponder (Network.sampleParties x) none MemoryNonceStore.empty (fun _ => sampleSide x) 1
      with session := some 0 }
  made := fun _ => []
  lost := fun _ => 0

theorem sampleSide_paired : Link.Paired sampleSide where
  ordered := by
    intro x
    rfl
  sessionId := by
    intro x
    rfl
  keys := by
    intro x
    cases x <;> rfl
  sizes := by
    intro x
    exact Session.length_directionKey .transparent .default [] x
  apart := by
    intro x
    exact Link.directionKey_ne Platform.transparent_separates .default [] x
  encodes := by
    intro x
    exact ⟨_, Str.encode_ofString "s", by decide⟩

theorem samplePeers_start : samplePeers.Start fun _ => 0 where
  own := by
    intro x
    rfl
  paired := sampleSide_paired
  place := by
    intro x
    exact ⟨rfl, rfl⟩
  made := by
    intro x
    rfl
  lost := by
    intro x
    rfl

theorem sampleSide_active (x : Bool) : (sampleSide x).ActiveAt 0 :=
  ⟨rfl, by norm_num [sampleSide, Session.init, SessionConfig.default], by cases x <;> decide⟩

/-- Alice encrypts an empty message. -/
theorem samplePeers_encodes : ∃ es q frame,
    Run (Step fun _ => 0) samplePeers es q ∧ q.made true = [some frame] ∧ q.lost false = 0 := by
  have step := Session.encrypt_step .transparent (sampleSide true) [] (.filled 12 0) 0 0
  have fits : ([] : Bytes).length ≤ Platform.aesgcmMaxSize := Nat.zero_le _
  have prints : Str.printable (sampleSide true).sendSeq := by decide
  obtain ⟨payload, sealed⟩ := Link.exists_sealPayload Platform.transparent_aead (.filled 12 0)
    (sampleSide_paired.sizes true) (Str.encode_ofString "s") (by decide) fits prints
  have sent : ∃ payload t, Session.encrypt .transparent (sampleSide true) [] (.filled 12 0) 0 0 =
      (.ok payload, t) ∧ t.sendSeq = 1 := by
    generalize Session.encrypt .transparent (sampleSide true) [] (.filled 12 0) 0 0 = out at step
    rcases out with ⟨r, t⟩
    cases step with
    | inactive inactive => exact absurd (sampleSide_active true) inactive
    | burnt _ refused =>
        rw [sealed] at refused
        cases refused
    | sent => exact ⟨_, _, rfl, rfl⟩
  obtain ⟨payload, t, out, next⟩ := sent
  have call : (samplePeers.socket true).apply (.encode [] (.filled 12 0) 0 0 0) =
      (.frame (.ok (.build .data payload 0)), (samplePeers.socket true).put 0 t) := by
    change Prod.map Outcome.frame id ((samplePeers.socket true).encrypted .data 0 [] _ 0 0 0) = _
    simp only [encrypted]
    change Prod.map Outcome.frame id
      ((Session.encrypt .transparent (sampleSide true) [] (.filled 12 0) 0 0).1.map _,
        (samplePeers.socket true).put 0
          (Session.encrypt .transparent (sampleSide true) [] (.filled 12 0) 0 0).2) = _
    rw [out]
    rfl
  refine ⟨_, _, .build .data payload 0, .single (.call (.encode ..) call), ?_, rfl⟩
  rw [made_turn_self, entry, put_sessions_self, if_neg]
  · rfl
  · rw [next]
    exact Nat.one_ne_zero

/-- After a cut, data comes through exactly if the cut has lost nothing, whatever RESUMEs have been
exchanged since. -/
theorem decode_after_cut_iff (aead : P.AeadCorrect) (start : p.Start ref) {es fs : List (Event P S)}
    (run : Run (Step ref) p es q) {z : Peers P S} (rest : Run (Step ref) q.cut fs z) {n : ℕ}
    {frame : UXSPFrame} (arrives : z.Arrives x n frame) (now after : ℚ) :
    (∃ plaintext, ((z.socket x).decode frame now after).1 = .ok plaintext) ↔
      (frame.type = .data ∧ (z.session ref x).ActiveAt now ∧ (z.session ref x).recvSeq = n) ∧
        (q.session ref x).recvSeq = (q.made (!x)).length := by
  obtain ⟨inv, lanes⟩ := Run.lane aead run start.inv
  obtain ⟨us, lane⟩ := lanes x
  have takes := Lane.Run.takes lane (start.takes x)
  obtain ⟨inv', lanes'⟩ := Run.lane aead rest (inv.step aead .cut)
  obtain ⟨vs, lane'⟩ := lanes' x
  have takes' : (q.cut.lane ref x).Takes Openable := Lane.Step.takes .cut takes
  have exact_ := inv'.decode_iff aead arrives.2 now after
  rw [exact_, eq_comm (a := n), iff_self_and]
  intro next
  by_contra lost
  have gap : (q.cut.lane ref x).taken < (q.cut.lane ref x).floor :=
    lt_of_le_of_ne takes.taken_le lost
  have stuck := (Lane.Run.stuck lane' takes' gap).2
  change (z.session ref x).recvSeq < z.lost x at stuck
  have above := arrives.1
  omega

/-- Nothing is lost when the connection is cut before Alice's first message. -/
theorem sample_decode_after_cut_iff : ∃ (z : Peers .transparent MemoryNonceStore.nonceStore)
    (frame : UXSPFrame), z.made true = [some frame] ∧
      ((∃ plaintext, ((z.socket false).decode frame 0 0).1 = .ok plaintext) ↔
        (frame.type = .data ∧ (z.session (fun _ => 0) false).ActiveAt 0 ∧
          (z.session (fun _ => 0) false).recvSeq = 0) ∧
        (samplePeers.session (fun _ => 0) false).recvSeq = (samplePeers.made true).length) := by
  obtain ⟨es, z, frame, run, made, kept⟩ := samplePeers_encodes
  have first : (z.made (!false))[0]? = some (some frame) := by
    rw [Bool.not_false, made]
    rfl
  have calm : samplePeers.cut = samplePeers := rfl
  rw [← calm] at run
  exact ⟨z, frame, made, decode_after_cut_iff Platform.transparent_aead samplePeers_start .nil run
    ⟨kept.le, first⟩ 0 0⟩

end Peers

end Uxsp
