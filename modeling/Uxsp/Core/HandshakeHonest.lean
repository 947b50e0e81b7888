import Uxsp.Core.HandshakeSteps

/-!
# The honest handshake

An initiator and a responder with generated keys, messages delivered unchanged and in time, and
nonce stores that have not seen the session: all three calls return, and the two sessions are the
two ends of one channel (`honest_run`).
-/

namespace Uxsp

/-! ## Strings that can be signed -/

/-- The string has an encoding that a length field can describe. -/
def Str.Bindable (s : Str) : Prop := ∃ b, s.encode = some b ∧ b.length < 2 ^ 32

theorem Str.bindable_of_ascii {s : Str} (ascii : ∀ c ∈ s, c.val < 128) (short : s.length < 2 ^ 30) :
    s.Bindable := by
  rcases exists_encode ascii with ⟨b, encoded⟩
  have size := length_encode encoded
  exact ⟨b, encoded, by omega⟩

theorem Uuid4.bindable_str (u : Uuid4) : u.str.Bindable := by
  refine Str.bindable_of_ascii ?_ ?_
  · intro c mem
    rcases mem_grouped mem with rfl | ⟨d, rfl⟩
    · decide
    · exact hexDigit_ascii d
  · rw [u.length_str]
    norm_num

theorem Bytes.bindable_hex {b : Bytes} (short : b.length < 2 ^ 20) : b.hex.Bindable := by
  refine Str.bindable_of_ascii ?_ ?_
  · intro c mem
    simp only [Bytes.hex, List.mem_flatMap, List.mem_cons, List.not_mem_nil, or_false] at mem
    rcases mem with ⟨x, -, rfl | rfl⟩
    · exact Uuid4.hexDigit_ascii _
    · exact Uuid4.hexDigit_ascii _
  · rw [Bytes.length_hex]
    omega

theorem Str.bindable_ofInt {n : ℤ} (short : Str.printable n) : (Str.ofInt n).Bindable := by
  have size := length_encode (encode_ofInt n)
  have few := length_ofInt short
  exact ⟨_, encode_ofInt n, by omega⟩

namespace Handshake

variable {P : Platform} {initiator responder : Identity P} {config : Option SessionConfig}
  {started now after : ℚ} {b : Bytes}

theorem exists_bindFields {fields : List Bytes} (short : ∀ f ∈ fields, f.length < 2 ^ 32) :
    ∃ b, bindFields fields = .ok b :=
  ⟨_, bindFields_eq_ok.mpr ⟨short, rfl⟩⟩

/-! ## The initiator's call -/

theorem exists_helloPreimage {R : Runtime} {sessionId initiatorId responderId : Str} {ts : ℤ}
    {exchange : ExchangeResult} (hs : sessionId.Bindable) (hi : initiatorId.Bindable)
    (hr : responderId.Bindable) (short : Str.printable ts)
    (eph : exchange.ephemeralPub.length < 2 ^ 32) (kem : exchange.kemCiphertext.length < 2 ^ 32) :
    ∃ b, helloPreimage R sessionId initiatorId responderId ts exchange = .ok b := by
  rcases hs with ⟨sid, es, ls⟩
  rcases hi with ⟨ini, ei, li⟩
  rcases hr with ⟨res, er, lr⟩
  rcases Str.bindable_ofInt short with ⟨time, et, lt⟩
  have fits : ∀ f ∈ [Bytes.lit "UXSP-HELLO", versionsBytes, sid, ini, res, exchange.ephemeralPub,
      exchange.kemCiphertext, time], f.length < 2 ^ 32 := by
    have label : (Bytes.lit "UXSP-HELLO").length < 2 ^ 32 := by decide
    have versions : versionsBytes.length < 2 ^ 32 := by decide
    simp only [List.forall_mem_cons, List.not_mem_nil, false_implies, implies_true, and_true]
    exact ⟨label, versions, ls, li, lr, eph, kem, lt⟩
  rcases exists_bindFields fits with ⟨b, bound⟩
  exact ⟨b, helloPreimage_eq_ok.mpr ⟨⟨_, sid, ini, res, _, _, time⟩,
    ⟨rfl, es, ei, er, rfl, rfl, et, short⟩, bound⟩⟩

theorem exists_initiate {ρ : Type} (correct : P.ExchangeCorrect) (signing : P.SignatureCorrect)
    (hi : initiator.entityId.Bindable) (hr : responder.entityId.Bindable)
    (short : Str.printable ⌊started⌋) (config : Option SessionConfig) (uuid : Uuid4)
    (coins : MessageCoins) :
    ∃ (hs : Handshake P ρ) (exchange : ExchangeResult) (b : Bytes),
      initiate P initiator responder.publicCard config uuid started coins = .ok hs ∧
        Initiated P initiator responder.publicCard config started uuid.str hs exchange b := by
  rcases exists_hybridSenderExchange correct responder.generated coins.exchange with
    ⟨exchange, exchanged, eph, kem⟩
  rcases exists_helloPreimage (R := P.toRuntime) uuid.bindable_str hi hr short eph kem with
    ⟨b, covered⟩
  rcases exists_hybridSign signing initiator.generated b coins.signing with ⟨sigs, signed⟩
  have made : ∃ hs : Handshake P ρ,
      initiate P initiator responder.publicCard config uuid started coins = .ok hs := by
    simp only [initiate, makeHello, bind_eq_ok, pure_eq_ok]
    exact ⟨_, _, ⟨exchange, exchanged, b, covered, sigs, signed, rfl⟩, rfl⟩
  rcases made with ⟨hs, made⟩
  rcases initiate_initiated made with ⟨exchange', b', initiated⟩
  exact ⟨hs, exchange', b', made, initiated⟩

/-! ## The responder's call -/

/-- The clock is within the freshness bound of a message made at another reading. -/
def Timely (made now : ℚ) : Prop := -MAX_AGE ≤ ⌊now⌋ - ⌊made⌋ ∧ ⌊now⌋ - ⌊made⌋ ≤ MAX_AGE

theorem negotiate_own (R : Runtime) :
    negotiate R (some (.list (SUPPORTED_VERSIONS.map .str))) = .ok "1" := by
  simp [negotiate, SUPPORTED_VERSIONS, hashable]

/-- A HELLO delivered in time is accepted. -/
theorem HelloMade.verified {sessionId : Str} {hello : Dict} {exchange : ExchangeResult}
    (signing : P.SignatureCorrect) (timely : Timely started now)
    (made : HelloMade P initiator responder.publicCard sessionId started hello exchange b) :
    verifyHelloSignature P hello initiator.publicCard responder now = .ok (b, "1") := by
  have signable := made.signable
  rcases made.signed with ⟨sigs, coins, signed, rfl⟩
  refine verifyHelloSignature_eq_ok.mpr ⟨⟨?_, ?_, ?_⟩, ?_, ?_, ?_, signable, ?_⟩
  · simp [missingFields, HELLO_REQUIRED, Dict.has, helloDict]
  · simp [helloDict]
  · rw [← negotiate_own P.toRuntime]
    simp [helloDict]
  · exact ⟨.int ⌊started⌋, ⌊started⌋, by simp [helloDict], rfl, timely⟩
  · simp [helloDict, Identity.publicCard]
  · simp [helloDict, Identity.publicCard]
  · refine ⟨.str sigs.classicalSig, .str sigs.pqcSig, by simp [helloDict], by simp [helloDict], ?_⟩
    exact hybridVerify_sign signing initiator.generated signed

theorem exists_responderProof {sessionId : Str} (encodes : sessionId.Bindable) (secretA : Bytes) :
    ∃ proof, responderProof P secretA (.str sessionId) = .ok proof ∧ proof.Bindable := by
  rcases encodes with ⟨sid, encoded, -⟩
  have message : (sessionId ++ (":responder-proof" : Str)).utf8 =
      .ok (sid ++ .lit ":responder-proof") := by
    rw [Str.utf8_eq_ok, Str.encode_append, encoded, Str.encode_ofString]
    rfl
  refine ⟨(P.hmacSha256 secretA (sid ++ .lit ":responder-proof")).hex, ?_, ?_⟩
  · simp only [responderProof, concat_str, bind_eq_ok, pure_eq_ok]
    exact ⟨_, rfl, _, message, rfl⟩
  · refine Bytes.bindable_hex ?_
    rw [P.hmac_length]
    norm_num

theorem exists_ackPreimage {R : Runtime} {version sessionId responderId initiatorId proof : Str}
    {ts : ℤ} {exchange : ExchangeResult} (hv : version.Bindable) (hs : sessionId.Bindable)
    (hr : responderId.Bindable) (hi : initiatorId.Bindable) (hp : proof.Bindable)
    (short : Str.printable ts) (eph : exchange.ephemeralPub.length < 2 ^ 32)
    (kem : exchange.kemCiphertext.length < 2 ^ 32) :
    ∃ b, ackPreimage R version (.str sessionId) responderId (.str initiatorId) ts proof exchange =
      .ok b := by
  rcases hv with ⟨versionBytes, ev, lv⟩
  rcases hs with ⟨sid, es, ls⟩
  rcases hr with ⟨res, er, lr⟩
  rcases hi with ⟨ini, ei, li⟩
  rcases hp with ⟨proofBytes, ep, lp⟩
  rcases Str.bindable_ofInt short with ⟨time, et, lt⟩
  have fits : ∀ f ∈ [Bytes.lit "UXSP-ACK", versionBytes, sid, res, ini, proofBytes,
      exchange.ephemeralPub, exchange.kemCiphertext, time], f.length < 2 ^ 32 := by
    have label : (Bytes.lit "UXSP-ACK").length < 2 ^ 32 := by decide
    simp only [List.forall_mem_cons, List.not_mem_nil, false_implies, implies_true, and_true]
    exact ⟨label, lv, ls, lr, li, lp, eph, kem, lt⟩
  rcases exists_bindFields fits with ⟨b, bound⟩
  exact ⟨b, ackPreimage_eq_ok.mpr ⟨⟨_, sid, res, ini, _, _, _, time⟩,
    ⟨ev, es, er, ei, ep, rfl, rfl, et, short⟩, bound⟩⟩

theorem exists_makeAck (correct : P.ExchangeCorrect) (signing : P.SignatureCorrect)
    (sessionId : Str) (hs : sessionId.Bindable) (hi : initiator.entityId.Bindable)
    (hr : responder.entityId.Bindable) (short : Str.printable ⌊after⌋) (secretA : Bytes)
    (coins : MessageCoins) :
    ∃ made, makeAck P responder (.str sessionId) (.str initiator.entityId) secretA
      initiator.publicCard "1" after coins = .ok made := by
  rcases exists_hybridSenderExchange correct initiator.generated coins.exchange with
    ⟨exchange, exchanged, eph, kem⟩
  rcases exists_responderProof (P := P) hs secretA with ⟨proof, proved, hp⟩
  have version : ("1" : Str).Bindable := ⟨_, Str.encode_ofString "1", by decide⟩
  rcases exists_ackPreimage (R := P.toRuntime) version hs hr hi hp short eph kem with ⟨b, covered⟩
  rcases exists_hybridSign signing responder.generated b coins.signing with ⟨sigs, signed⟩
  simp only [makeAck, bind_eq_ok, pure_eq_ok]
  exact ⟨_, exchange, exchanged, proof, proved, b, covered, sigs, signed, rfl⟩

theorem HelloMade.sessionId_eq {card : PublicCard} {sessionId : Str} {hello : Dict}
    {exchange : ExchangeResult}
    (made : HelloMade P initiator card sessionId started hello exchange b) :
    hello.get? "session_id" = some (.str sessionId) := by
  rcases made.signed with ⟨sigs, coins, -, rfl⟩
  simp [helloDict]

theorem HelloMade.initiatorId_eq {card : PublicCard} {sessionId : Str} {hello : Dict}
    {exchange : ExchangeResult}
    (made : HelloMade P initiator card sessionId started hello exchange b) :
    hello.get? "initiator_id" = some (.str initiator.entityId) := by
  rcases made.signed with ⟨sigs, coins, -, rfl⟩
  simp [helloDict]

/-- The responder the HELLO was made for derives the initiator's half. -/
theorem HelloMade.derives (correct : P.ExchangeCorrect) {sessionId : Str} {hello : Dict}
    {exchange : ExchangeResult}
    (made : HelloMade P initiator responder.publicCard sessionId started hello exchange b) :
    Derives P hello responder.keypair exchange.sharedKey := by
  rcases made.exchanged with ⟨coins, exchanged⟩
  rcases made.signed with ⟨sigs, _, -, rfl⟩
  exact ⟨_, _, .of_hex (by simp [helloDict]), .of_hex (by simp [helloDict]),
    hybridRecipientExchange_sender correct responder.generated exchanged⟩

/-- A HELLO delivered in time is answered. -/
theorem exists_respond {S : NonceStore} {store store' : S.State} (correct : P.ExchangeCorrect)
    (signing : P.SignatureCorrect) (hi : initiator.entityId.Bindable)
    (hr : responder.entityId.Bindable) {uuid : Uuid4} {hello : Dict} {exchange : ExchangeResult}
    (made : HelloMade P initiator responder.publicCard uuid.str started hello exchange b)
    (timely : Timely started now) (short : Str.printable ⌊after⌋)
    (unused : S.markUsed store (("hello:" : Str) ++ uuid.str) NONCE_TTL after =
      (.ok true, store')) (config : Option SessionConfig) (coins : MessageCoins) :
    ∃ ack session, respondSession P S store responder hello initiator.publicCard config now after
      coins = (.ok (ack, session), store') := by
  have sid := made.sessionId_eq
  have check : respondCheck P responder hello initiator.publicCard now =
      .ok (("hello:" : Str) ++ uuid.str, "1") := by
    simp only [respondCheck, bind_eq_ok, ensure_eq_ok, Dict.item_eq_ok, sid, Option.getD_some,
      pure_eq_ok]
    exact ⟨_, rfl, (), uuid.parses_str _, _, made.verified signing timely, _, rfl, _, rfl, rfl⟩
  rcases exists_makeAck correct signing uuid.str uuid.bindable_str hi hr short
    exchange.sharedKey coins with ⟨⟨ack, exchangeB⟩, answered⟩
  rcases uuid.bindable_str with ⟨sidBytes, es, -⟩
  rcases hi with ⟨ini, ei, -⟩
  rcases hr with ⟨res, er, -⟩
  have finish : ∃ session, respondFinish P responder hello initiator.publicCard "1" config after
      coins = .ok (ack, session) := by
    simp only [respondFinish, bind_eq_ok, Dict.item_eq_ok, deriveHelloSecret_eq_ok, sid,
      made.initiatorId_eq, pure_eq_ok, strOf_eq_ok, activate_init]
    exact ⟨_, _, made.derives correct, _, rfl, _, rfl, _, answered, _, Str.utf8_eq_ok.mpr es, _,
      Str.utf8_eq_ok.mpr ei, _, Str.utf8_eq_ok.mpr er, _, rfl, _, rfl, _, rfl, rfl⟩
  rcases finish with ⟨session, finish⟩
  refine ⟨ack, session, ?_⟩
  simp only [respondSession, check, unused, finish]

/-! ## The initiator's second call -/

/-- An ACK delivered in time is accepted. -/
theorem AckMade.verified {card : PublicCard} {version sessionId initiatorId : Str} {secretA : Bytes}
    {ack : Dict} {exchange : ExchangeResult} (signing : P.SignatureCorrect)
    (supported : version ∈ SUPPORTED_VERSIONS) (timely : Timely after now)
    (made : AckMade P responder card version sessionId initiatorId secretA after ack exchange b) :
    verifyAckSignature P ack responder.publicCard now = .ok b := by
  have signable := made.signable
  rcases made.bytes with ⟨proof, a, -, -, -, sigs, coins, signed, rfl⟩
  refine verifyAckSignature_eq_ok.mpr ⟨⟨?_, ?_, version, supported, ?_⟩, ?_, signable, ?_⟩
  · simp [missingFields, ACK_REQUIRED, Dict.has, ackDict]
  · simp [ackDict]
  · simp [ackDict]
  · exact ⟨.int ⌊after⌋, ⌊after⌋, by simp [ackDict], rfl, timely⟩
  · refine ⟨.str sigs.classicalSig, .str sigs.pqcSig, by simp [ackDict], by simp [ackDict], ?_⟩
    exact hybridVerify_sign signing responder.generated signed

theorem compareDigest_hex (b : Bytes) : Session.compareDigest b.hex (.str b.hex) = .ok true := by
  have ascii : b.hex.all fun c => c.val < 128 := by
    refine List.all_eq_true.mpr fun c mem => decide_eq_true ?_
    simp only [Bytes.hex, List.mem_flatMap, List.mem_cons, List.not_mem_nil, or_false] at mem
    rcases mem with ⟨x, -, rfl | rfl⟩
    · exact Uuid4.hexDigit_ascii _
    · exact Uuid4.hexDigit_ascii _
  simp only [Session.compareDigest, ascii, if_true, beq_self_eq_true]

theorem responderProof_hex {sessionId : Val} {secretA : Bytes} {proof : Str}
    (proved : responderProof P secretA sessionId = .ok proof) : ∃ tag : Bytes, proof = tag.hex := by
  simp only [responderProof, bind_eq_ok, pure_eq_ok] at proved
  rcases proved with ⟨_, -, _, -, rfl⟩
  exact ⟨_, rfl⟩

/-- The initiator the ACK was made for derives the responder's half. -/
theorem AckMade.derived (correct : P.ExchangeCorrect) {version sessionId initiatorId : Str}
    {secretA : Bytes} {ack : Dict} {exchange : ExchangeResult}
    (made : AckMade P responder initiator.publicCard version sessionId initiatorId secretA after
      ack exchange b) :
    deriveAckSecret P ack secretA initiator = .ok exchange.sharedKey := by
  rcases made.exchanged with ⟨coins, exchanged⟩
  rcases made.bytes with ⟨proof, a, proved, -, -, sigs, _, -, rfl⟩
  rcases responderProof_hex proved with ⟨tag, rfl⟩
  have mine := hybridRecipientExchange_sender correct initiator.generated exchanged
  simp only [deriveAckSecret, bind_eq_ok, ensure_eq_ok, Dict.item_eq_ok]
  exact ⟨.str sessionId, by simp [ackDict], _, proved, .str tag.hex, by simp [ackDict], true,
    compareDigest_hex tag, (), rfl, .str exchange.ephemeralPub.hex, by simp [ackDict], _,
    by simp [fromHexVal], .str exchange.kemCiphertext.hex, by simp [ackDict], _,
    by simp [fromHexVal], mine⟩

/-- An ACK delivered in time completes the handshake. -/
theorem exists_complete {ρ : Type} {S : NonceStore} {store store' : S.State}
    (correct : P.ExchangeCorrect) (signing : P.SignatureCorrect) {version sessionId : Str}
    (hs : sessionId.Bindable) (hi : initiator.entityId.Bindable) (hr : responder.entityId.Bindable)
    {handshake : Handshake P ρ} {pending : Pending P} (waits : handshake.pending = .ok pending)
    (mine : pending.initiator = initiator) (sid : pending.sessionId = sessionId)
    (card : pending.respCard = some responder.publicCard) {ack : Dict} {exchange : ExchangeResult}
    (made : AckMade P responder initiator.publicCard version sessionId initiator.entityId
      pending.exchange.sharedKey after ack exchange b)
    (supported : version ∈ SUPPORTED_VERSIONS) {later : ℚ} (timely : Timely after now)
    (unused : S.markUsed store (("ack:" : Str) ++ sessionId) NONCE_TTL later =
      (.ok true, store')) :
    ∃ session, completeSession P S store handshake ack responder.publicCard now later =
      (.ok session, store') := by
  subst mine sid
  have derived := made.derived correct
  have verified := made.verified signing supported timely
  have check : completeCheck P pending ack responder.publicCard now =
      .ok (("ack:" : Str) ++ pending.sessionId) := by
    rcases made.bytes with ⟨proof, a, -, -, -, sigs, _, -, rfl⟩
    simp only [completeCheck, bind_eq_ok, ensure_eq_ok, Val.eqStr_eq_true, Dict.item_eq_ok,
      pure_eq_ok]
    exact ⟨_, verified, (), by simp [ackDict], (), by simp [ackDict], (),
      by simp [ackDict, Identity.publicCard], .str pending.sessionId, by simp [ackDict], _, rfl, rfl⟩
  rcases hs with ⟨sid, es, -⟩
  rcases hi with ⟨ini, ei, -⟩
  rcases hr with ⟨res, er, -⟩
  have finish : ∃ session, completeFinish P pending ack responder.publicCard later = .ok session := by
    simp only [completeFinish, bind_eq_ok, ensure_eq_ok, activate_init, Str.utf8_eq_ok]
    exact ⟨_, (), by simp [card], _, derived, _, es, _, ei, _, er, rfl⟩
  rcases finish with ⟨session, finish⟩
  refine ⟨session, ?_⟩
  simp only [completeSession, waits, check, unused, finish]

/-! ## The whole run -/

/-- The sessions are the two ends of one channel. -/
def Ends (P : Platform) (initiator responder : Identity P) (sessionId : Str)
    (config config' : SessionConfig) (mine theirs : Session) : Prop :=
  ∃ final begun answered,
    mine = established P sessionId initiator.entityId responder.entityId final true config begun ∧
      theirs = established P sessionId responder.entityId initiator.entityId final false config'
        answered

/-- What an honest handshake is given: identifiers that can be signed, clock readings that are
floats, messages within the freshness bound, and stores that see the session for the first time. -/
structure HonestRun (S : NonceStore) (initiator responder : Identity P) (uuid : Uuid4)
    (started received answered back finished : ℚ) (storeB storeB' storeA storeA' : S.State) :
    Prop where
  initiatorId : initiator.entityId.Bindable
  responderId : responder.entityId.Bindable
  started_float : Str.printable ⌊started⌋
  answered_float : Str.printable ⌊answered⌋
  hello_timely : Timely started received
  ack_timely : Timely answered back
  hello_unused : S.markUsed storeB (("hello:" : Str) ++ uuid.str) NONCE_TTL answered =
    (.ok true, storeB')
  ack_unused : S.markUsed storeA (("ack:" : Str) ++ uuid.str) NONCE_TTL finished =
    (.ok true, storeA')

/-- All three calls return and their sessions are the two ends of one channel. -/
theorem exists_honest_run {S : NonceStore} {uuid : Uuid4}
    {started received answered back finished : ℚ} {storeB storeB' storeA storeA' : S.State}
    (correct : P.ExchangeCorrect) (signing : P.SignatureCorrect)
    (run : HonestRun S initiator responder uuid started received answered back finished storeB
      storeB' storeA storeA') (config : Option SessionConfig) (coinsA coinsB : MessageCoins) :
    ∃ (hs : Handshake P Session) (hello ack : Dict) (mine theirs : Session),
      initiate P initiator responder.publicCard config uuid started coinsA = .ok hs ∧
        hs.helloMsg = some hello ∧
        respondSession P S storeB responder hello initiator.publicCard config received answered
          coinsB = (.ok (ack, theirs), storeB') ∧
        completeSession P S storeA hs ack responder.publicCard back finished =
          (.ok mine, storeA') ∧
        Ends P initiator responder uuid.str (configOr config) (configOr config) mine theirs := by
  rcases exists_initiate correct signing run.initiatorId run.responderId run.started_float config
    uuid coinsA with ⟨hs, exchangeA, b, ok, ⟨hello, sent, made⟩, waits⟩
  rcases exists_respond correct signing run.initiatorId run.responderId made run.hello_timely
    run.answered_float run.hello_unused config coinsB with ⟨ack, theirs, answer⟩
  rcases respondSession_responds answer with
    ⟨sid, b', secretA, exchangeB, version, c, final, responds, -⟩
  have same : sid = uuid.str := by
    have found := responds.sessionId
    rw [made.sessionId_eq] at found
    cases found
    rfl
  subst same
  have half : secretA = exchangeA.sharedKey := by
    have mine := made.derives correct
    rcases mine with ⟨eph, kem, rawEph, rawKem, derived⟩
    have theirs := responds.derived.unique rawEph rawKem
    rw [derived] at theirs
    exact (Except.ok.inj theirs).symm
  subst half
  rcases exists_complete correct signing uuid.bindable_str run.initiatorId run.responderId waits
    rfl rfl rfl responds.made responds.supported run.ack_timely run.ack_unused with
    ⟨mine, completed⟩
  refine ⟨hs, hello, ack, mine, theirs, ok, sent, answer, completed, ?_⟩
  rcases completeSession_completes waits completed with ⟨c', secretB, final', completes, -⟩
  have half : secretB = exchangeB.sharedKey := by
    rcases completes.derived with ⟨eph, kem, rawEph, rawKem, derived⟩
    have proof := responds.made.derived correct
    rcases deriveAckSecret_eq_ok proof with ⟨eph', kem', rawEph', rawKem', derived'⟩
    have both := completes.derived.unique rawEph' rawKem'
    rw [derived'] at both
    exact (Except.ok.inj both).symm
  subst half
  have agreed := completes.agreed.unique responds.agreed
  subst agreed
  exact ⟨_, _, _, completes.session_eq, responds.session_eq⟩

end Handshake

end Uxsp
