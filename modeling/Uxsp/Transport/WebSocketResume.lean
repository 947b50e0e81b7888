import Uxsp.Core.Chunking
import Uxsp.Transport.WebSocketClose

/-!
# What a RESUME proves

A RESUME and its acknowledgement carry a nonce and a tag of the session, and no clock and no counter
that the receiver compares.  `resume_accepted_again`: the receiver takes whatever it has taken once
as long as the session is active.
-/

namespace Uxsp

namespace Session

variable {P : Platform} {s t : Session} {now : ℚ}

/-- Calls leave the channel of a session alone until it is revoked. -/
theorem Later.sameChannel (later : Later P s t) : SameChannel s t ∨ t.state = .revoked := by
  obtain ⟨ops, rfl⟩ := later
  induction ops generalizing s with
  | nil => exact Or.inl (.refl s)
  | cons op ops ih =>
      rcases apply_sameChannel (P := P) s op with ⟨-, revoked⟩ | same
      · have dead : Dead s (apply P s op) := by
          rw [revoked]
          exact revoke_dead s
        exact Or.inr (dead.later ⟨ops, rfl⟩).state
      · exact (ih (s := apply P s op)).imp_left same.trans

theorem Later.sameChannel_of_active (later : Later P s t) (active : t.ActiveAt now) :
    SameChannel s t := by
  rcases later.sameChannel with same | revoked
  · exact same
  · exact absurd active (not_activeAt_of_revoked revoked)

end Session

namespace UXSPWebSocket

variable {P : Platform} {S : NonceStore} {w w' start z : UXSPWebSocket P S} {c : Call P S}
  {es fs : List (Event P S)} {r : SessionRef} {s t : Session} {label : String} {payload : Dict}
  {now : ℚ}

theorem Tagged.sameChannel (tagged : Tagged P label s payload) (same : Session.SameChannel s t) :
    Tagged P label t payload where
  sessionId := by
    rw [same.sessionId]
    exact tagged.sessionId
  tag := by
    obtain ⟨msg, built, tag⟩ := tagged.tag
    refine ⟨msg, by rwa [same.sessionId], ?_⟩
    rw [tag, Session.computeAuthTag, Session.computeAuthTag, Session.keyOf, Session.keyOf,
      same.recvKey]

/-! ## Frames with a tag -/

theorem encode_append_isSome {a b : Str} :
    (a ++ b).encode.isSome = true ↔ a.encode.isSome = true ∧ b.encode.isSome = true := by
  rw [Str.encode_append]
  cases a.encode <;> cases b.encode <;> simp

theorem exists_utf8 {a : Str} : (∃ b, a.utf8 = .ok b) ↔ a.encode.isSome = true := by
  simp only [Str.utf8_eq_ok, Option.isSome_iff_exists]

/-- The text over a number that prints and the nonce of the sender can be built if the session id
can be encoded. -/
theorem exists_resumeText {sessionId : Str} {seq : ℕ} (prints : Str.printable seq)
    (nonce : Urandom 16) :
    (∃ msg, resumeText P.toRuntime label sessionId (.int seq) (.str nonce.1.hex) = .ok msg) ↔
      sessionId.encode.isSome = true := by
  have drawn : P.str (.str nonce.1.hex) = .ok nonce.1.hex := rfl
  have text : (Str.ofString label).encode.isSome = true := by
    rw [Str.encode_ofString, Option.isSome_some]
  have colon : (":" : Str).encode.isSome = true := by
    rw [Str.encode_ofString, Option.isSome_some]
  have number : (Str.ofInt seq).encode.isSome = true := by
    rw [Str.encode_ofInt, Option.isSome_some]
  simp only [resumeText, P.str_int prints, drawn, bind, Except.bind, exists_utf8,
    encode_append_isSome, text, colon, number, hex_encode, and_true, true_and]

theorem exists_resumePayload (prints : Str.printable s.recvSeq) (nonce : Urandom 16) :
    (∃ payload, resumePayload P label s nonce = .ok payload) ↔
      s.sessionId.encode.isSome = true := by
  have text : (∃ msg, resumeText P.toRuntime label s.sessionId (.int s.recvSeq)
      (.str nonce.1.hex) = .ok msg) ↔ _ := exists_resumeText prints nonce
  rw [← text]
  simp only [resumePayload, bind_eq_ok, pure_eq_ok]
  constructor
  · intro made
    obtain ⟨payload, msg, built, -⟩ := made
    exact ⟨msg, built⟩
  · intro built
    obtain ⟨msg, built⟩ := built
    exact ⟨_, msg, built, rfl⟩

/-- The acknowledgement of a RESUME shows that its sender could print its number. -/
theorem printable_of_resumePayload {nonce : Urandom 16}
    (made : resumePayload P label s nonce = .ok payload) : Str.printable s.recvSeq := by
  simp only [resumePayload, resumeText, bind_eq_ok, P.str_int_eq_ok] at made
  obtain ⟨msg, ⟨seq, ⟨prints, -⟩, -⟩, -⟩ := made
  exact prints

/-! ## Acceptance -/

theorem handleResume_eq_ok {frame ack : UXSPFrame} {session : Option SessionRef}
    {nonce : Urandom 16} {stamp : ℚ}
    (ok : w.handleResume frame session nonce now stamp = (.ok ack, w')) :
    ∃ r payload, session.or w.session = some r ∧ frame.type = .resume ∧
      (w.sessions r).ActiveAt now ∧ Tagged P "RESUME" (w.sessions r) frame.payload ∧
      resumePayload P "RESUME_ACK" (w.sessions r) nonce = .ok payload := by
  by_cases type : frame.type = .resume
  · cases chosen : session.or w.session with
    | none =>
        simp only [handleResume, type, chosen, ne_eq, not_true_eq_false, if_false] at ok
        cases ok
    | some r =>
        by_cases active : (w.sessions r).ActiveAt now
        · cases checked : resumeChecked P frame (w.sessions r) with
          | error e =>
              simp only [handleResume, type, chosen, ne_eq, not_true_eq_false, if_false,
                Session.isActive_eq, active, decide_true, Session.evaluateExpiry_of_active active,
                checked] at ok
              cases ok
          | ok _ =>
              have tagged := resumeChecked_eq_ok.mp checked
              rw [handleResume_of_tagged session nonce stamp type chosen active tagged] at ok
              cases made : resumePayload P "RESUME_ACK" (w.sessions r) nonce with
              | error e =>
                  rw [made] at ok
                  cases ok
              | ok payload => exact ⟨r, payload, rfl, type, active, tagged, made⟩
        · simp only [handleResume, type, chosen, ne_eq, not_true_eq_false, if_false,
            Session.isActive_eq, active, decide_false] at ok
          cases ok
  · simp only [handleResume, ne_eq, type, not_false_eq_true, if_true] at ok
    cases ok

/-- In every run, a RESUME that a socket has answered for a session is answered again whenever the
session is active later on, and makes the session the socket's own once more. -/
theorem resume_accepted_again (run : Run Step start es w) (new : start.New)
    {frame ack : UXSPFrame} {session : Option SessionRef} {nonce : Urandom 16} {stamp : ℚ}
    (step : Step w (.handleResume frame session nonce now stamp, .frame (.ok ack)) w')
    (rest : Run Step w' fs z) :
    ∃ r, session.or w.session = some r ∧
      ∀ later nonce' stamp', (z.sessions r).ActiveAt later → Str.printable (z.sessions r).recvSeq →
        (∃ again, (z.handleResume frame (some r) nonce' later stamp').1 = .ok again) ∧
          (z.handleResume frame (some r) nonce' later stamp').2.session = some r := by
  have sound := Run.sound run new.sound
  have answered := step.2
  simp only [apply] at answered
  generalize out : w.handleResume frame session nonce now stamp = result at answered
  rcases result with ⟨answer, x⟩
  cases answered
  obtain ⟨r, payload, chosen, type, active, tagged, made⟩ := handleResume_eq_ok out
  have exists_ : r < w.fresh := by
    rcases Option.or_eq_some_iff.mp chosen with given | ⟨-, own⟩
    · exact step.1 r given
    · exact sound.session r own
  have effect := step.effect sound
  have later_ : Session.Later P (w.sessions r) (z.sessions r) := (effect.sessions exists_).trans
    (Run.sessions rest (effect.sound sound) (exists_.trans_le effect.fresh_le)).2
  refine ⟨r, chosen, fun later nonce' stamp' active' prints => ?_⟩
  have same := later_.sameChannel_of_active active'
  have encodes := (exists_resumePayload (printable_of_resumePayload made) nonce).mp ⟨_, made⟩
  rw [← same.sessionId] at encodes
  have made' : ∃ payload, resumePayload P "RESUME_ACK" (z.sessions r) nonce' = .ok payload :=
    (exists_resumePayload prints nonce').mpr encodes
  obtain ⟨payload', made'⟩ := made'
  rw [handleResume_of_tagged (some r) nonce' stamp' type rfl active'
    (tagged.sameChannel same), made']
  exact ⟨⟨_, rfl⟩, rfl⟩

/-- Bob answers the same RESUME twice. -/
theorem sample_resume_accepted_again : ∃ z : UXSPWebSocket .transparent MemoryNonceStore.nonceStore,
    z.session = some 0 ∧
      ∃ again, (z.handleResume sampleResume (some 0) (.filled 16 1) 0 0).1 = .ok again := by
  have prints : Str.printable sampleLeft.recvSeq := by decide
  have encodes : sampleLeft.sessionId.encode.isSome = true :=
    congrArg Option.isSome (Str.encode_ofString "s")
  have made : ∃ payload, resumePayload .transparent "RESUME_ACK" sampleLeft (.filled 16 0) =
      .ok payload := (exists_resumePayload prints _).mpr encodes
  obtain ⟨payload, made⟩ := made
  have out := handleResume_of_tagged (w := sampleSocket) (some 0) (.filled 16 0) 0 rfl rfl
    sampleLeft_active sampleResume_tagged
  change _ = ((resumePayload .transparent "RESUME_ACK" sampleLeft (.filled 16 0)).map _, _) at out
  rw [made] at out
  have step : Step sampleSocket (sampleResumeCall, .frame (.ok (.build .resumeAck payload 0)))
      { sampleSocket with session := some 0 } := by
    refine ⟨?_, ?_⟩
    · intro r same
      cases same
      exact Nat.one_pos
    · simp only [apply, sampleResumeCall, out, Prod.map_apply, id_eq, Except.map]
  obtain ⟨r, same, again⟩ := resume_accepted_again .nil sampleSocket_new step .nil
  cases same
  exact ⟨_, rfl, (again 0 (.filled 16 1) 0 sampleLeft_active prints).1⟩

end UXSPWebSocket

end Uxsp
