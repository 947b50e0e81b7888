import Uxsp.Transport.WebSocketSteps

/-!
# How a socket is closed

`close` and `handle_close` revoke the session object, which its other holders share, and let go of
it.  Such a session is never used again, whoever refers to it.  The last section says when the two
methods get that far.
-/

namespace Uxsp.UXSPWebSocket

variable {P : Platform} {S : NonceStore} {w w' start z z' : UXSPWebSocket P S} {c : Call P S}
  {e : Event P S} {es fs : List (Event P S)} {r : SessionRef}

/-! ## What the two methods do -/

/-- The socket has closed its session. -/
inductive Closes : Event P S → Prop
  | closed {reason : Str} {nonce : Urandom NONCE_SIZE} {now after stamp : ℚ} {frame : UXSPFrame} :
      Closes (.close reason nonce now after stamp, .frame (.ok frame))
  | handled {frame : UXSPFrame} {now after : ℚ} {reason : Str} :
      Closes (.handleClose frame now after, .reason (.ok reason))

/-- The session, as some call of the method has left it, is revoked and let go. -/
def TornDown (w : UXSPWebSocket P S) (r : SessionRef) (w' : UXSPWebSocket P S) : Prop :=
  w'.session = none ∧ Session.Dead (w.sessions r) (w'.sessions r)

theorem tornDown {s : Session} (same : Session.SameChannel (w.sessions r) s)
    (own : w.session = some r) : TornDown w r (w.put r s).tearDown := by
  rw [tearDown_put own]
  refine ⟨rfl, ?_⟩
  change Session.Dead (w.sessions r) ((w.put r s.revoke).sessions r)
  rw [put_sessions_self]
  exact ⟨rfl, congrArg zeroize same.sendKey, congrArg zeroize same.recvKey⟩

/-- What a control frame comes to on a session. -/
theorem control_eq (own : w.session = some r) (type : FrameType) (payload : Dict)
    (nonce : Urandom NONCE_SIZE) (now after stamp : ℚ) :
    (∃ e, P.jsonDumps (.dict payload) = .error e ∧
      w.control type payload nonce now after stamp = (.error e, w)) ∨
    ∃ raw, P.jsonDumps (.dict payload) = .ok raw ∧
      w.control type payload nonce now after stamp =
        w.encrypted type r raw nonce now after stamp := by
  cases dumped : P.jsonDumps (.dict payload) with
  | error e => exact Or.inl ⟨e, rfl, by simp only [control, own, dumped]⟩
  | ok raw => exact Or.inr ⟨raw, rfl, by simp only [control, own, dumped]⟩

/-- The CLOSE frame of a session can be encrypted. -/
def Sealable (w : UXSPWebSocket P S) (r : SessionRef) (reason : Str) (nonce : Urandom NONCE_SIZE)
    (now : ℚ) : Prop :=
  (w.sessions r).ActiveAt now ∧ ∃ raw payload,
    P.jsonDumps (.dict [("reason", .str reason)]) = .ok raw ∧
    Session.sealPayload P (w.sessions r).sessionId (w.sessions r).sendKey (w.sessions r).sendSeq raw
      nonce = .ok payload

/-- A `close` that cannot encrypt its frame raises, and leaves the session to the socket, revoked
only if it was before. -/
structure LeftOpen (w : UXSPWebSocket P S) (r : SessionRef)
    (out : Except PyErr UXSPFrame × UXSPWebSocket P S) : Prop where
  raised : ∃ e, out.1 = .error e
  session : out.2.session = some r
  revoked : (out.2.sessions r).state = .revoked → (w.sessions r).state = .revoked

theorem revoked_of_put {s : Session}
    (before : s.state = .revoked → (w.sessions r).state = .revoked) :
    ((w.put r s).sessions r).state = .revoked → (w.sessions r).state = .revoked := by
  rwa [put_sessions_self]

theorem close_cases (own : w.session = some r) (reason : Str) (nonce : Urandom NONCE_SIZE)
    (now after stamp : ℚ) :
    Sealable w r reason nonce now ∧
      (∃ frame, (w.close reason nonce now after stamp).1 = .ok frame) ∧
      TornDown w r (w.close reason nonce now after stamp).2 ∨
    ¬ Sealable w r reason nonce now ∧ LeftOpen w r (w.close reason nonce now after stamp) := by
  rcases control_eq own .close [("reason", .str reason)] nonce now after stamp with
    ⟨e, dumped, out⟩ | ⟨raw, dumped, out⟩
  · right
    refine ⟨fun sealable => ?_, ?_⟩
    · obtain ⟨-, raw, -, dumped', -⟩ := sealable
      rw [dumped] at dumped'
      cases dumped'
    · simp only [close, out]
      exact ⟨⟨e, rfl⟩, own, id⟩
  · have step := Session.encrypt_step P (w.sessions r) raw nonce now after
    simp only [close, out, encrypted]
    generalize Session.encrypt P (w.sessions r) raw nonce now after = result at step
    rcases result with ⟨payload, s⟩
    have same := step.sameChannel
    cases step with
    | inactive inactive =>
        have kept : Session.Effect (w.sessions r) now _ := .evaluate
        exact Or.inr ⟨fun sealable => inactive sealable.1, ⟨_, rfl⟩, own,
          revoked_of_put kept.revoked_iff.mp⟩
    | burnt active refused =>
        refine Or.inr ⟨fun sealable => ?_, ⟨_, rfl⟩, own, revoked_of_put id⟩
        obtain ⟨-, raw', payload', dumped', sealed⟩ := sealable
        rw [dumped] at dumped'
        cases dumped'
        rw [refused] at sealed
        cases sealed
    | sent active sealed =>
        exact Or.inl ⟨⟨active, raw, _, dumped, sealed⟩, ⟨_, rfl⟩, tornDown same own⟩

/-- The reason in the frame is printed. -/
def Printed (w : UXSPWebSocket P S) (r : SessionRef) (frame : UXSPFrame) (now after : ℚ) : Prop :=
  ∃ reason, closeReason P.toRuntime
    ((Session.decrypt P (w.sessions r) frame.payload now after).1.bind P.jsonLoads) = .ok reason

theorem handleClose_cases (own : w.session = some r) {frame : UXSPFrame}
    (type : frame.type = .close) (now after : ℚ) :
    Printed w r frame now after ∧ (∃ reason, (w.handleClose frame now after).1 = .ok reason) ∧
      TornDown w r (w.handleClose frame now after).2 ∨
    ¬ Printed w r frame now after ∧ (∃ e, (w.handleClose frame now after).1 = .error e) ∧
      (w.handleClose frame now after).2.session = some r := by
  have step := Session.decrypt_step P (w.sessions r) frame.payload now after
  simp only [handleClose, type, own, Printed, ne_eq, not_true_eq_false, if_false]
  generalize Session.decrypt P (w.sessions r) frame.payload now after = result at step
  rcases result with ⟨raw, s⟩
  have same := step.sameChannel
  simp only at same ⊢
  cases closeReason P.toRuntime (raw.bind P.jsonLoads) with
  | error e =>
      refine Or.inr ⟨fun printed => ?_, ⟨e, rfl⟩, own⟩
      obtain ⟨reason, printed⟩ := printed
      cases printed
  | ok reason => exact Or.inl ⟨⟨reason, rfl⟩, ⟨reason, rfl⟩, tornDown same own⟩

theorem Step.tornDown (step : Step w e w') (closes : Closes e) (own : w.session = some r) :
    TornDown w r w' := by
  have out := step.2
  cases closes with
  | @closed reason nonce now after stamp frame =>
      simp only [apply] at out
      have ends := close_cases own reason nonce now after stamp
      generalize w.close reason nonce now after stamp = result at out ends
      rcases result with ⟨a, x⟩
      cases out
      rcases ends with ⟨-, -, torn⟩ | ⟨-, left⟩
      · exact torn
      · obtain ⟨e, raised⟩ := left.raised
        cases raised
  | @handled frame now after reason =>
      simp only [apply] at out
      by_cases type : frame.type = .close
      · have ends := handleClose_cases own type now after
        generalize w.handleClose frame now after = result at out ends
        rcases result with ⟨a, x⟩
        cases out
        rcases ends with ⟨-, -, torn⟩ | ⟨-, raised, -⟩
        · exact torn
        · obtain ⟨e, raised⟩ := raised
          cases raised
      · simp only [handleClose, ne_eq, type, not_false_eq_true, if_true] at out
        cases out

/-! ## Afterwards -/

/-- In every run that goes on after a socket has closed its session, the session stays revoked under
zeroes, and the socket sends no data, receives none and is not ready on it, even if a COMPLETE or a
RESUME gives it back to the socket. -/
theorem closed_for_good (run : Run Step start es w) (new : start.New) (step : Step w e w')
    (closes : Closes e) (own : w.session = some r) (rest : Run Step w' fs z) :
    Session.Dead (w.sessions r) (z.sessions r) ∧
      ∀ f z' now, Step z f z' → Carries f now → z.session ≠ some r := by
  have sound := Run.sound run new.sound
  have effect := step.effect sound
  have torn := step.tornDown closes own
  have later := (Run.sessions rest (effect.sound sound)
    ((sound.session r own).trans_le effect.fresh_le)).2
  have dead := torn.2.later later
  refine ⟨dead, fun f z' now next carries same => ?_⟩
  obtain ⟨q, pointer, active⟩ := next.carries carries
  cases same.symm.trans pointer
  exact Session.not_activeAt_of_revoked dead.state active

/-- The socket of a session that was resumed. -/
def sampleResumed : UXSPWebSocket .transparent MemoryNonceStore.nonceStore :=
  { sampleSocket with session := some 0 }

def sampleClose : UXSPFrame := ⟨.close, [], 0⟩

theorem sampleClose_handled :
    (sampleResumed.handleClose sampleClose 0 0).1 = .ok "unauthenticated-close" := rfl

/-- Bob's socket closes the session it was handed. -/
theorem sample_closed_for_good : ∃ w' : UXSPWebSocket .transparent MemoryNonceStore.nonceStore,
    w'.session = none ∧ Session.Dead sampleLeft (w'.sessions 0) ∧
      ∀ f z' now, Step w' f z' → Carries f now → w'.session ≠ some 0 := by
  obtain ⟨o, resumed⟩ := sampleResume_step
  have step : Step sampleResumed
      (.handleClose sampleClose 0 0, .reason (.ok "unauthenticated-close"))
      (sampleResumed.handleClose sampleClose 0 0).2 :=
    ⟨trivial, Prod.ext (congrArg Outcome.reason sampleClose_handled) rfl⟩
  have forever := closed_for_good (.single resumed) sampleSocket_new step .handled rfl .nil
  exact ⟨_, (step.tornDown .handled rfl).1, forever⟩

/-- On a socket with a session, `close` ends it exactly if it can encrypt its frame, and
`handle_close` of a CLOSE frame exactly if it can print the reason in it; otherwise both raise, and
the socket keeps the session. -/
theorem tears_down_iff (own : w.session = some r) (reason : Str) (nonce : Urandom NONCE_SIZE)
    (frame : UXSPFrame) (type : frame.type = .close) (now after stamp : ℚ) :
    (TornDown w r (w.close reason nonce now after stamp).2 ↔ Sealable w r reason nonce now) ∧
    (¬ Sealable w r reason nonce now → LeftOpen w r (w.close reason nonce now after stamp)) ∧
    (TornDown w r (w.handleClose frame now after).2 ↔ Printed w r frame now after) ∧
    (¬ Printed w r frame now after →
      (∃ e, (w.handleClose frame now after).1 = .error e) ∧
        (w.handleClose frame now after).2.session = some r) := by
  have kept {x : UXSPWebSocket P S} (has : x.session = some r) : ¬ TornDown w r x := by
    intro torn
    rw [torn.1] at has
    cases has
  refine ⟨?_, ?_, ?_, ?_⟩
  · rcases close_cases own reason nonce now after stamp with ⟨sealable, -, torn⟩ | ⟨not, left⟩
    · exact iff_of_true torn sealable
    · exact iff_of_false (kept left.session) not
  · intro not
    rcases close_cases own reason nonce now after stamp with ⟨sealable, -, -⟩ | ⟨-, left⟩
    · exact absurd sealable not
    · exact left
  · rcases handleClose_cases own type now after with ⟨printed, -, torn⟩ | ⟨not, -, has⟩
    · exact iff_of_true torn printed
    · exact iff_of_false (kept has) not
  · intro not
    rcases handleClose_cases own type now after with ⟨printed, -, -⟩ | ⟨-, left⟩
    · exact absurd printed not
    · exact left

/-- A CLOSE frame that holds nothing ends the session all the same. -/
theorem sample_tears_down :
    TornDown sampleResumed 0 (sampleResumed.handleClose sampleClose 0 0).2 := by
  have exact_ := tears_down_iff (w := sampleResumed) (r := 0) rfl "normal" (.filled 12 0)
    sampleClose rfl 0 0 0
  exact exact_.2.2.1.mpr ⟨_, rfl⟩

end Uxsp.UXSPWebSocket
