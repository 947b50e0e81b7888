import Uxsp.Core.Handshake

/-!
# What the handshake functions establish

The signed bytes of a message determine its fields: `HelloBytes`, `AckBytes`.  From there one
lemma for each function says what its success means: `Hello.Made` and `Hello.Accepted` for the two
ends of a HELLO, `Ack.Made` and `Ack.Accepted` for those of an ACK, `initiate_made`,
`respondSession_facts` and `completeSession_facts` for the three calls.
-/

namespace Uxsp

namespace Handshake

variable {P : Platform} {R : Runtime} {b : Bytes} {now after : ℚ}

/-! ## Fields as bytes -/

/-- `str(message[field]).encode()` gives these bytes. -/
def Text (R : Runtime) (message : Dict) (field : Str) (b : Bytes) : Prop :=
  ∃ v s, message.get? field = some v ∧ R.str v = .ok s ∧ s.encode = some b

/-- `bytes.fromhex(message[field])` gives these bytes. -/
def Raw (message : Dict) (field : Str) (b : Bytes) : Prop :=
  ∃ v, message.get? field = some v ∧ fromHexVal v = .ok b

/-- A string whose bytes are those of the field is the printed field. -/
theorem Text.str_eq {message : Dict} {field s : Str} {v : Val} (text : Text R message field b)
    (found : message.get? field = some v) (encoded : s.encode = some b) : R.str v = .ok s := by
  rcases text with ⟨w, t, other, printed, bytes⟩
  rw [found] at other
  cases other
  rw [printed, Str.encode_inj bytes encoded]

theorem Text.of_str {message : Dict} {field s : Str} (found : message.get? field = some (.str s))
    (encoded : s.encode = some b) : Text R message field b :=
  ⟨_, s, found, rfl, encoded⟩

theorem Raw.of_hex {message : Dict} {field : Str} {b : Bytes}
    (found : message.get? field = some (.str b.hex)) : Raw message field b := by
  refine ⟨_, found, ?_⟩
  simp [fromHexVal]

/-! ## The bytes of a HELLO -/

/-- What the signatures of a HELLO cover. -/
structure HelloBytes where
  versions : Bytes
  sessionId : Bytes
  initiatorId : Bytes
  responderId : Bytes
  ephemeralPub : Bytes
  kemCiphertext : Bytes
  timestamp : Bytes

def HelloBytes.fields (h : HelloBytes) : List Bytes :=
  [.lit "UXSP-HELLO", h.versions, h.sessionId, h.initiatorId, h.responderId, h.ephemeralPub,
    h.kemCiphertext, h.timestamp]

theorem HelloBytes.fields_inj {h h' : HelloBytes} (same : h.fields = h'.fields) : h = h' := by
  cases h
  cases h'
  simpa [fields] using same

/-- The fields of the dict read as these bytes. -/
structure HelloBytes.Reads (R : Runtime) (hello : Dict) (h : HelloBytes) : Prop where
  versions : ∃ v, hello.get? "supported_versions" = some v ∧ joinVersions v = .ok h.versions
  sessionId : Text R hello "session_id" h.sessionId
  initiatorId : Text R hello "initiator_id" h.initiatorId
  responderId : Text R hello "responder_id" h.responderId
  ephemeralPub : Raw hello "ephemeral_pub" h.ephemeralPub
  kemCiphertext : Raw hello "kem_ciphertext" h.kemCiphertext
  timestamp : Text R hello "timestamp" h.timestamp

theorem helloSignable_eq_ok {hello : Dict} : helloSignable R hello = .ok b ↔
    ∃ h : HelloBytes, h.Reads R hello ∧ bindFields h.fields = .ok b := by
  constructor
  · intro signable
    simp only [helloSignable, bind_eq_ok, Dict.item_eq_ok, Str.utf8_eq_ok] at signable
    rcases signable with ⟨v, hv, versions, joined, i, hi, si, pi, sid, ei, j, hj, sj, pj, ini, ej,
      k, hk, sk, pk, res, ek, e, he, eph, xe, c, hc, kem, xc, t, ht, st, pt, ts, et, bound⟩
    exact ⟨⟨versions, sid, ini, res, eph, kem, ts⟩,
      ⟨⟨v, hv, joined⟩, ⟨i, si, hi, pi, ei⟩, ⟨j, sj, hj, pj, ej⟩, ⟨k, sk, hk, pk, ek⟩,
        ⟨e, he, xe⟩, ⟨c, hc, xc⟩, ⟨t, st, ht, pt, et⟩⟩, bound⟩
  · intro read
    rcases read with ⟨h, ⟨⟨v, hv, joined⟩, ⟨i, si, hi, pi, ei⟩, ⟨j, sj, hj, pj, ej⟩,
      ⟨k, sk, hk, pk, ek⟩, ⟨e, he, xe⟩, ⟨c, hc, xc⟩, ⟨t, st, ht, pt, et⟩⟩, bound⟩
    simp only [helloSignable, bind_eq_ok, Dict.item_eq_ok, Str.utf8_eq_ok]
    exact ⟨v, hv, _, joined, i, hi, si, pi, _, ei, j, hj, sj, pj, _, ej, k, hk, sk, pk, _, ek,
      e, he, _, xe, c, hc, _, xc, t, ht, st, pt, _, et, bound⟩

/-! ## The bytes of an ACK -/

/-- What the signatures of an ACK cover. -/
structure AckBytes where
  version : Bytes
  sessionId : Bytes
  responderId : Bytes
  initiatorId : Bytes
  proof : Bytes
  ephemeralPub : Bytes
  kemCiphertext : Bytes
  timestamp : Bytes

def AckBytes.fields (a : AckBytes) : List Bytes :=
  [.lit "UXSP-ACK", a.version, a.sessionId, a.responderId, a.initiatorId, a.proof,
    a.ephemeralPub, a.kemCiphertext, a.timestamp]

theorem AckBytes.fields_inj {a a' : AckBytes} (same : a.fields = a'.fields) : a = a' := by
  cases a
  cases a'
  simpa [fields] using same

/-- No HELLO is an ACK. -/
theorem HelloBytes.fields_ne {h : HelloBytes} {a : AckBytes} : h.fields ≠ a.fields := by
  intro same
  have label := (List.cons.inj same).1
  rw [Str.lit_inj] at label
  exact absurd label (by decide)

structure AckBytes.Reads (R : Runtime) (ack : Dict) (a : AckBytes) : Prop where
  version : Text R ack "version" a.version
  sessionId : Text R ack "session_id" a.sessionId
  responderId : Text R ack "responder_id" a.responderId
  initiatorId : Text R ack "initiator_id" a.initiatorId
  proof : Text R ack "proof" a.proof
  ephemeralPub : Raw ack "ephemeral_pub" a.ephemeralPub
  kemCiphertext : Raw ack "kem_ciphertext" a.kemCiphertext
  timestamp : Text R ack "timestamp" a.timestamp

theorem ackSignable_eq_ok {ack : Dict} : ackSignable R ack = .ok b ↔
    ∃ a : AckBytes, a.Reads R ack ∧ bindFields a.fields = .ok b := by
  constructor
  · intro signable
    simp only [ackSignable, bind_eq_ok, Dict.item_eq_ok, Str.utf8_eq_ok] at signable
    rcases signable with ⟨v, hv, sv, pv, version, ev, i, hi, si, pi, sid, ei, j, hj, sj, pj, res,
      ej, k, hk, sk, pk, ini, ek, p, hp, sp, pp, proof, ep, e, he, eph, xe, c, hc, kem, xc, t, ht,
      st, pt, ts, et, bound⟩
    exact ⟨⟨version, sid, res, ini, proof, eph, kem, ts⟩,
      ⟨⟨v, sv, hv, pv, ev⟩, ⟨i, si, hi, pi, ei⟩, ⟨j, sj, hj, pj, ej⟩, ⟨k, sk, hk, pk, ek⟩,
        ⟨p, sp, hp, pp, ep⟩, ⟨e, he, xe⟩, ⟨c, hc, xc⟩, ⟨t, st, ht, pt, et⟩⟩, bound⟩
  · intro read
    rcases read with ⟨a, ⟨⟨v, sv, hv, pv, ev⟩, ⟨i, si, hi, pi, ei⟩, ⟨j, sj, hj, pj, ej⟩,
      ⟨k, sk, hk, pk, ek⟩, ⟨p, sp, hp, pp, ep⟩, ⟨e, he, xe⟩, ⟨c, hc, xc⟩, ⟨t, st, ht, pt, et⟩⟩,
      bound⟩
    simp only [ackSignable, bind_eq_ok, Dict.item_eq_ok, Str.utf8_eq_ok]
    exact ⟨v, hv, sv, pv, _, ev, i, hi, si, pi, _, ei, j, hj, sj, pj, _, ej, k, hk, sk, pk, _, ek,
      p, hp, sp, pp, _, ep, e, he, _, xe, c, hc, _, xc, t, ht, st, pt, _, et, bound⟩

/-! ## Making messages -/

/-- The supported versions, joined, as bytes. -/
def versionsBytes : Bytes := .lit "1"

/-- What the initiator's signatures cover. -/
structure HelloBytes.Covers (h : HelloBytes) (sessionId initiatorId responderId : Str) (ts : ℤ)
    (exchange : ExchangeResult) : Prop where
  versions : h.versions = versionsBytes
  sessionId : sessionId.encode = some h.sessionId
  initiatorId : initiatorId.encode = some h.initiatorId
  responderId : responderId.encode = some h.responderId
  ephemeralPub : h.ephemeralPub = exchange.ephemeralPub
  kemCiphertext : h.kemCiphertext = exchange.kemCiphertext
  timestamp : (Str.ofInt ts).encode = some h.timestamp
  printable : Str.printable ts

theorem joinComma_supported : (joinComma SUPPORTED_VERSIONS).utf8 = .ok versionsBytes :=
  Str.utf8_eq_ok.mpr (Str.encode_ofString "1")

theorem helloPreimage_eq_ok {sessionId initiatorId responderId : Str} {ts : ℤ}
    {exchange : ExchangeResult} :
    helloPreimage R sessionId initiatorId responderId ts exchange = .ok b ↔
      ∃ h : HelloBytes, h.Covers sessionId initiatorId responderId ts exchange ∧
        bindFields h.fields = .ok b := by
  simp only [helloPreimage, joinComma_supported, bind_eq_ok, Str.utf8_eq_ok,
    timestampBytes_eq_ok]
  constructor
  · intro made
    rcases made with ⟨_, same, sid, es, ini, ei, res, er, time, ⟨short, et⟩, bound⟩
    cases same
    exact ⟨⟨_, sid, ini, res, _, _, time⟩, ⟨rfl, es, ei, er, rfl, rfl, et, short⟩, bound⟩
  · intro made
    rcases made with ⟨h, ⟨versions, es, ei, er, eph, kem, et, short⟩, bound⟩
    rw [HelloBytes.fields, versions, eph, kem] at bound
    exact ⟨_, rfl, _, es, _, ei, _, er, _, ⟨short, et⟩, bound⟩

/-- The dict of a HELLO reads as what its signatures cover. -/
theorem HelloBytes.Covers.reads {h : HelloBytes} {sessionId initiatorId responderId : Str}
    {ts : ℤ} {exchange : ExchangeResult} {sigs : Signatures}
    (covers : h.Covers sessionId initiatorId responderId ts exchange) :
    h.Reads R (helloDict sessionId initiatorId responderId ts exchange sigs) where
  versions := by
    refine ⟨.list (SUPPORTED_VERSIONS.map .str), by simp [helloDict], ?_⟩
    rw [covers.versions]
    exact joinComma_supported
  sessionId := .of_str (by simp [helloDict]) covers.sessionId
  initiatorId := .of_str (by simp [helloDict]) covers.initiatorId
  responderId := .of_str (by simp [helloDict]) covers.responderId
  ephemeralPub := covers.ephemeralPub ▸ .of_hex (by simp [helloDict])
  kemCiphertext := covers.kemCiphertext ▸ .of_hex (by simp [helloDict])
  timestamp := ⟨.int ts, Str.ofInt ts, by simp [helloDict], R.str_int covers.printable,
    covers.timestamp⟩

/-- What the responder's signatures cover. -/
structure AckBytes.Covers (a : AckBytes) (version sessionId responderId initiatorId : Str) (ts : ℤ)
    (proof : Str) (exchange : ExchangeResult) : Prop where
  version : version.encode = some a.version
  sessionId : sessionId.encode = some a.sessionId
  responderId : responderId.encode = some a.responderId
  initiatorId : initiatorId.encode = some a.initiatorId
  proof : proof.encode = some a.proof
  ephemeralPub : a.ephemeralPub = exchange.ephemeralPub
  kemCiphertext : a.kemCiphertext = exchange.kemCiphertext
  timestamp : (Str.ofInt ts).encode = some a.timestamp
  printable : Str.printable ts

@[simp] theorem encodeVal_str (s : Str) : encodeVal (.str s) = s.utf8 := rfl

@[simp] theorem concat_str (s t : Str) : concat (.str s) t = .ok (s ++ t) := rfl

theorem concat_eq_ok {v : Val} {s t : Str} :
    concat v s = .ok t ↔ ∃ u, v = .str u ∧ t = u ++ s := by
  cases v with
  | str u =>
      rw [concat_str, Except.ok.injEq]
      constructor
      · intro h
        exact ⟨u, rfl, h.symm⟩
      · intro h
        rcases h with ⟨_, same, rfl⟩
        cases same
        rfl
  | _ => exact ⟨nofun, fun h => by rcases h with ⟨_, same, -⟩; cases same⟩

@[simp] theorem strOf_eq_ok {v : Val} {s : Str} : strOf v = .ok s ↔ v = .str s := by
  cases v with
  | str t => rw [strOf, Except.ok.injEq, Val.str.injEq]
  | _ => exact ⟨nofun, nofun⟩

theorem ackPreimage_eq_ok {version sessionId responderId initiatorId : Str} {ts : ℤ} {proof : Str}
    {exchange : ExchangeResult} :
    ackPreimage R version (.str sessionId) responderId (.str initiatorId) ts proof exchange = .ok b ↔
      ∃ a : AckBytes, a.Covers version sessionId responderId initiatorId ts proof exchange ∧
        bindFields a.fields = .ok b := by
  simp only [ackPreimage, encodeVal_str, bind_eq_ok, Str.utf8_eq_ok, timestampBytes_eq_ok]
  constructor
  · intro made
    rcases made with ⟨_, ev, sid, es, res, er, ini, ei, proofBytes, ep, time, ⟨short, et⟩, bound⟩
    exact ⟨⟨_, sid, res, ini, proofBytes, _, _, time⟩,
      ⟨ev, es, er, ei, ep, rfl, rfl, et, short⟩, bound⟩
  · intro made
    rcases made with ⟨a, ⟨ev, es, er, ei, ep, eph, kem, et, short⟩, bound⟩
    rw [AckBytes.fields, eph, kem] at bound
    exact ⟨_, ev, _, es, _, er, _, ei, _, ep, _, ⟨short, et⟩, bound⟩

/-- The dict of an ACK reads as what its signatures cover. -/
theorem AckBytes.Covers.reads {a : AckBytes} {version sessionId responderId initiatorId : Str}
    {ts : ℤ} {proof : Str} {exchange : ExchangeResult} {sigs : Signatures}
    (covers : a.Covers version sessionId responderId initiatorId ts proof exchange) :
    a.Reads R (ackDict version (.str sessionId) responderId (.str initiatorId) ts proof exchange
      sigs) where
  version := .of_str (by simp [ackDict]) covers.version
  sessionId := .of_str (by simp [ackDict]) covers.sessionId
  responderId := .of_str (by simp [ackDict]) covers.responderId
  initiatorId := .of_str (by simp [ackDict]) covers.initiatorId
  proof := .of_str (by simp [ackDict]) covers.proof
  ephemeralPub := covers.ephemeralPub ▸ .of_hex (by simp [ackDict])
  kemCiphertext := covers.kemCiphertext ▸ .of_hex (by simp [ackDict])
  timestamp := ⟨.int ts, Str.ofInt ts, by simp [ackDict], R.str_int covers.printable,
    covers.timestamp⟩

/-- The initiator of `sessionId` signed a HELLO for the holder of the card. -/
structure HelloMade (P : Platform) (initiator : Identity P) (card : PublicCard) (sessionId : Str)
    (now : ℚ) (hello : Dict) (exchange : ExchangeResult) (b : Bytes) : Prop where
  exchanged : ∃ coins, hybridSenderExchange P card.publicKeys coins = .ok exchange
  bytes : ∃ h : HelloBytes, h.Covers sessionId initiator.entityId card.entityId ⌊now⌋ exchange ∧
    bindFields h.fields = .ok b
  signed : ∃ sigs coins, hybridSign P b initiator.keypair coins = .ok sigs ∧
    hello = helloDict sessionId initiator.entityId card.entityId ⌊now⌋ exchange sigs

theorem makeHello_made {initiator : Identity P} {card : PublicCard} {sessionId : Str}
    {coins : MessageCoins} {hello : Dict} {exchange : ExchangeResult}
    (made : makeHello P initiator card sessionId now coins = .ok (hello, exchange)) :
    ∃ b, HelloMade P initiator card sessionId now hello exchange b := by
  simp only [makeHello, bind_eq_ok, pure_eq_ok, Prod.mk.injEq] at made
  rcases made with ⟨_, exchanged, b, covered, sigs, signed, rfl, rfl⟩
  exact ⟨b, ⟨_, exchanged⟩, helloPreimage_eq_ok.mp covered, sigs, _, signed, rfl⟩

theorem HelloMade.signable {initiator : Identity P} {card : PublicCard} {sessionId : Str}
    {hello : Dict} {exchange : ExchangeResult}
    (made : HelloMade P initiator card sessionId now hello exchange b) :
    helloSignable P.toRuntime hello = .ok b := by
  rcases made.bytes with ⟨h, covers, bound⟩
  rcases made.signed with ⟨sigs, coins, -, rfl⟩
  exact helloSignable_eq_ok.mpr ⟨h, covers.reads, bound⟩

theorem encodeVal_eq_ok {v : Val} :
    encodeVal v = .ok b ↔ ∃ s, v = .str s ∧ s.encode = some b := by
  cases v with
  | str s =>
      rw [encodeVal_str, Str.utf8_eq_ok]
      exact ⟨fun h => ⟨s, rfl, h⟩, fun h => by rcases h with ⟨_, same, h⟩; cases same; exact h⟩
  | _ => exact ⟨nofun, fun h => by rcases h with ⟨_, same, -⟩; cases same⟩

/-- The responder signed an ACK for the holder of the card. -/
structure AckMade (P : Platform) (responder : Identity P) (card : PublicCard) (version : Str)
    (sessionId initiatorId : Str) (sharedSecretA : Bytes) (after : ℚ) (ack : Dict)
    (exchange : ExchangeResult) (b : Bytes) : Prop where
  exchanged : ∃ coins, hybridSenderExchange P card.publicKeys coins = .ok exchange
  bytes : ∃ proof, ∃ a : AckBytes,
    responderProof P sharedSecretA (.str sessionId) = .ok proof ∧
      a.Covers version sessionId responder.entityId initiatorId ⌊after⌋ proof exchange ∧
      bindFields a.fields = .ok b ∧
      ∃ sigs coins, hybridSign P b responder.keypair coins = .ok sigs ∧
        ack = ackDict version (.str sessionId) responder.entityId (.str initiatorId) ⌊after⌋ proof
          exchange sigs

theorem makeAck_made {responder : Identity P} {card : PublicCard} {version : Str}
    {sessionId initiatorId : Val} {sharedSecretA : Bytes} {coins : MessageCoins} {ack : Dict}
    {exchange : ExchangeResult}
    (made : makeAck P responder sessionId initiatorId sharedSecretA card version after coins =
      .ok (ack, exchange)) :
    ∃ sid ini b, sessionId = .str sid ∧ initiatorId = .str ini ∧
      AckMade P responder card version sid ini sharedSecretA after ack exchange b := by
  simp only [makeAck, bind_eq_ok, pure_eq_ok, Prod.mk.injEq] at made
  rcases made with ⟨_, exchanged, proof, proved, b, covered, sigs, signed, rfl, rfl⟩
  have strings := covered
  simp only [ackPreimage, bind_eq_ok, encodeVal_eq_ok] at strings
  rcases strings with ⟨_, -, _, ⟨sid, rfl, -⟩, _, -, _, ⟨ini, rfl, -⟩, -⟩
  rcases ackPreimage_eq_ok.mp covered with ⟨a, covers, bound⟩
  exact ⟨sid, ini, b, rfl, rfl, ⟨_, exchanged⟩, proof, a, proved, covers, bound, sigs, _, signed,
    rfl⟩

theorem AckMade.signable {responder : Identity P} {card : PublicCard} {version : Str}
    {sessionId initiatorId : Str} {sharedSecretA : Bytes} {ack : Dict} {exchange : ExchangeResult}
    (made : AckMade P responder card version sessionId initiatorId sharedSecretA after ack exchange
      b) : ackSignable P.toRuntime ack = .ok b := by
  rcases made.bytes with ⟨proof, a, -, covers, bound, sigs, coins, -, rfl⟩
  exact ackSignable_eq_ok.mpr ⟨a, covers.reads, bound⟩

/-! ## Accepting messages -/

/-- The timestamp field lies within the freshness bound of the clock. -/
def Fresh (R : Runtime) (message : Dict) (now : ℚ) : Prop :=
  ∃ v ts, message.get? "timestamp" = some v ∧ R.int v = .ok ts ∧
    -MAX_AGE ≤ ⌊now⌋ - ts ∧ ⌊now⌋ - ts ≤ MAX_AGE

theorem checkAge_eq_ok {message : Dict} {invalid : PyErr} {expired : ℤ → PyErr} {u : Unit} :
    checkAge R message now invalid expired = .ok u ↔ Fresh R message now := by
  simp only [checkAge, bind_eq_ok, catching_eq_ok, Dict.item_eq_ok, ensure_eq_ok,
    Bool.and_eq_true, decide_eq_true_eq, Fresh]
  constructor
  · intro h
    rcases h with ⟨ts, ⟨v, found, converted⟩, young⟩
    exact ⟨v, ts, found, converted, young⟩
  · intro h
    rcases h with ⟨v, ts, found, converted, young⟩
    exact ⟨ts, ⟨v, found, converted⟩, young⟩

/-- The message carries signatures that verify over the bytes. -/
def SignedBy (P : Platform) (message : Dict) (keys : PublicKeys) (b : Bytes) : Prop :=
  ∃ c d, message.get? "classical_sig" = some c ∧ message.get? "pqc_sig" = some d ∧
    hybridVerify P b c d keys = .ok true

theorem checkSignature_eq_ok {message : Dict} {keys : PublicKeys} {invalid : PyErr → PyErr}
    {wrong : PyErr} {u : Unit} :
    checkSignature P message b keys invalid wrong = .ok u ↔ SignedBy P message keys b := by
  simp only [checkSignature, bind_eq_ok, catching_eq_ok, Dict.item_eq_ok, ensure_eq_ok, SignedBy]
  constructor
  · intro h
    rcases h with ⟨_, ⟨c, hc, d, hd, verified⟩, rfl⟩
    exact ⟨c, d, hc, hd, verified⟩
  · intro h
    rcases h with ⟨c, d, hc, hd, verified⟩
    exact ⟨true, ⟨c, hc, d, hd, verified⟩, rfl⟩

/-- The responder took the HELLO for one of the holder of the card. -/
structure HelloAccepted (P : Platform) (hello : Dict) (card : PublicCard) (responder : Identity P)
    (now : ℚ) (b : Bytes) : Prop where
  fresh : Fresh P.toRuntime hello now
  initiatorId : hello.get? "initiator_id" = some (.str card.entityId)
  responderId : hello.get? "responder_id" = some (.str responder.entityId)
  signable : helloSignable P.toRuntime hello = .ok b
  signed : SignedBy P hello card.publicKeys b

theorem verifyHelloSignature_eq_ok {hello : Dict} {card : PublicCard} {responder : Identity P}
    {version : Str} :
    verifyHelloSignature P hello card responder now = .ok (b, version) ↔
      (missingFields HELLO_REQUIRED hello = [] ∧ hello.get? "type" = some (.str "UXSP-HELLO") ∧
        negotiate P.toRuntime (hello.get? "supported_versions") = .ok version) ∧
      HelloAccepted P hello card responder now b := by
  simp only [verifyHelloSignature, bind_eq_ok, ensure_eq_ok, checkAge_eq_ok, Val.eqStr_eq_true,
    catching_eq_ok, checkSignature_eq_ok, pure_eq_ok, Prod.mk.injEq, List.isEmpty_iff]
  constructor
  · intro h
    rcases h with ⟨_, complete, _, typed, _, fresh, _, ini, _, res, _, agreed, _, signable, _,
      signed, rfl, rfl⟩
    exact ⟨⟨complete, typed, agreed⟩, fresh, ini, res, signable, signed⟩
  · intro h
    rcases h with ⟨⟨complete, typed, agreed⟩, fresh, ini, res, signable, signed⟩
    exact ⟨(), complete, (), typed, (), fresh, (), ini, (), res, _, agreed, _, signable, (),
      signed, rfl, rfl⟩

/-- The initiator took the ACK for one of the holder of the card. -/
structure AckAccepted (P : Platform) (ack : Dict) (card : PublicCard) (now : ℚ) (b : Bytes) :
    Prop where
  fresh : Fresh P.toRuntime ack now
  signable : ackSignable P.toRuntime ack = .ok b
  signed : SignedBy P ack card.publicKeys b

theorem verifyAckSignature_eq_ok {ack : Dict} {card : PublicCard} :
    verifyAckSignature P ack card now = .ok b ↔
      (missingFields ACK_REQUIRED ack = [] ∧ ack.get? "type" = some (.str "UXSP-ACK") ∧
        ∃ version ∈ SUPPORTED_VERSIONS, ack.get? "version" = some (.str version)) ∧
      AckAccepted P ack card now b := by
  simp only [verifyAckSignature, bind_eq_ok, ensure_eq_ok, checkAge_eq_ok, Val.eqStr_eq_true,
    catching_eq_ok, checkSignature_eq_ok, pure_eq_ok, List.isEmpty_iff, List.any_eq_true]
  constructor
  · intro h
    rcases h with ⟨_, complete, _, typed, _, fresh, _, version, _, signable, _, signed, rfl⟩
    exact ⟨⟨complete, typed, version⟩, fresh, signable, signed⟩
  · intro h
    rcases h with ⟨⟨complete, typed, version⟩, fresh, signable, signed⟩
    exact ⟨(), complete, (), typed, (), fresh, (), version, _, signable, (), signed, rfl⟩

/-! ## `initiate` -/

/-- The handshake holds a HELLO of this session and waits for its ACK. -/
structure Initiated {ρ : Type} (P : Platform) (initiator : Identity P) (card : PublicCard)
    (config : Option SessionConfig) (now : ℚ) (sessionId : Str) (hs : Handshake P ρ)
    (exchange : ExchangeResult) (b : Bytes) : Prop where
  made : ∃ hello, hs.helloMsg = some hello ∧
    HelloMade P initiator card sessionId now hello exchange b
  pending : hs.pending = .ok ⟨initiator, sessionId, exchange, configOr config, some card⟩

theorem sessionId_of_pending {ρ : Type} {hs : Handshake P ρ} {pending : Pending P}
    (waits : hs.pending = .ok pending) : hs.sessionId = some pending.sessionId := by
  unfold Handshake.pending at waits
  split at waits
  · rename_i found _
    cases waits
    exact found
  · cases waits

theorem initiate_initiated {ρ : Type} {initiator : Identity P} {card : PublicCard}
    {config : Option SessionConfig} {uuid : Uuid4} {coins : MessageCoins} {hs : Handshake P ρ}
    (ok : initiate P initiator card config uuid now coins = .ok hs) :
    ∃ exchange b, Initiated P initiator card config now uuid.str hs exchange b := by
  simp only [initiate, bind_eq_ok, pure_eq_ok] at ok
  rcases ok with ⟨⟨hello, exchange⟩, made, rfl⟩
  rcases makeHello_made made with ⟨b, made⟩
  exact ⟨exchange, b, ⟨hello, rfl, made⟩, rfl⟩

/-! ## `respond` -/

/-- The final secret of the two halves, the session and the two parties. -/
def FinalSecret (P : Platform) (secretA secretB : Bytes) (sessionId initiatorId responderId : Str)
    (final : Bytes) : Prop :=
  ∃ s i r, sessionId.encode = some s ∧ initiatorId.encode = some i ∧
    responderId.encode = some r ∧ final = finalSharedSecret P secretA secretB s i r

theorem FinalSecret.unique {secretA secretB : Bytes} {sessionId initiatorId responderId : Str}
    {final final' : Bytes} (h : FinalSecret P secretA secretB sessionId initiatorId responderId final)
    (h' : FinalSecret P secretA secretB sessionId initiatorId responderId final') :
    final = final' := by
  rcases h with ⟨s, i, r, hs, hi, hr, rfl⟩
  rcases h' with ⟨s', i', r', hs', hi', hr', rfl⟩
  rw [hs] at hs'
  rw [hi] at hi'
  rw [hr] at hr'
  cases hs'
  cases hi'
  cases hr'
  rfl

/-- The recipient of the exchange fields of a message derives this secret. -/
def Derives (P : Platform) (message : Dict) (keypair : HybridKeypair) (secret : Bytes) : Prop :=
  ∃ eph kem, Raw message "ephemeral_pub" eph ∧ Raw message "kem_ciphertext" kem ∧
    hybridRecipientExchange P eph kem keypair = .ok secret

theorem deriveHelloSecret_eq_ok {hello : Dict} {responder : Identity P} :
    deriveHelloSecret P hello responder = .ok b ↔ Derives P hello responder.keypair b := by
  simp only [deriveHelloSecret, bind_eq_ok, Dict.item_eq_ok, Derives, Raw]
  constructor
  · intro h
    rcases h with ⟨v, hv, eph, ve, w, hw, kem, wk, derived⟩
    exact ⟨eph, kem, ⟨v, hv, ve⟩, ⟨w, hw, wk⟩, derived⟩
  · intro h
    rcases h with ⟨eph, kem, ⟨v, hv, ve⟩, ⟨w, hw, wk⟩, derived⟩
    exact ⟨v, hv, eph, ve, w, hw, kem, wk, derived⟩

/-- The session both ends construct. -/
def established (P : Platform) (sessionId localId remoteId : Str) (final : Bytes)
    (isInitiator : Bool) (config : SessionConfig) (now : ℚ) : Session :=
  { Session.init P sessionId localId remoteId final isInitiator config now with state := .active }

@[simp] theorem activate_init {sessionId localId remoteId : Str} {final : Bytes}
    {isInitiator : Bool} {config : SessionConfig} :
    (Session.init P sessionId localId remoteId final isInitiator config now).activate =
      .ok (established P sessionId localId remoteId final isInitiator config now) := rfl

/-- What a `respond` that returned has done. -/
structure Responds (P : Platform) (responder : Identity P) (hello : Dict) (card : PublicCard)
    (config : Option SessionConfig) (now after : ℚ) (ack : Dict) (session : Session)
    (sid : Str) (b secretA : Bytes) (exchange : ExchangeResult) (version : Str) (c final : Bytes) :
    Prop where
  accepted : HelloAccepted P hello card responder now b
  sessionId : hello.get? "session_id" = some (.str sid)
  derived : Derives P hello responder.keypair secretA
  supported : version ∈ SUPPORTED_VERSIONS
  made : AckMade P responder card version sid card.entityId secretA after ack exchange c
  agreed : FinalSecret P secretA exchange.sharedKey sid card.entityId responder.entityId final
  session_eq : session =
    established P sid responder.entityId card.entityId final false (configOr config) after

theorem negotiate_supported {v : Option Val} {version : Str}
    (ok : negotiate R v = .ok version) : version ∈ SUPPORTED_VERSIONS := by
  unfold negotiate at ok
  split at ok
  · split at ok
    · cases ok
    · split at ok
      · rename_i common
        cases ok
        exact List.mem_of_mem_filter (common ▸ List.mem_cons_self)
      · cases ok
  · cases ok

theorem respondCheck_eq_ok {responder : Identity P} {hello : Dict} {card : PublicCard}
    {nonce version : Str} (ok : respondCheck P responder hello card now = .ok (nonce, version)) :
    ∃ b v s, HelloAccepted P hello card responder now b ∧ version ∈ SUPPORTED_VERSIONS ∧
      hello.get? "session_id" = some v ∧ P.str v = .ok s ∧ nonce = ("hello:" : Str) ++ s := by
  simp only [respondCheck, bind_eq_ok, ensure_eq_ok, Dict.item_eq_ok, pure_eq_ok,
    Prod.mk.injEq] at ok
  rcases ok with ⟨_, -, _, -, ⟨b, v⟩, verified, w, found, s, printed, rfl, rfl⟩
  rcases verifyHelloSignature_eq_ok.mp verified with ⟨⟨-, -, common⟩, accepted⟩
  exact ⟨b, w, s, accepted, negotiate_supported common, found, printed, rfl⟩

theorem respondSession_responds {S : NonceStore} {store store' : S.State} {responder : Identity P}
    {hello ack : Dict} {card : PublicCard} {config : Option SessionConfig} {coins : MessageCoins}
    {session : Session}
    (ok : respondSession P S store responder hello card config now after coins =
      (.ok (ack, session), store')) :
    ∃ sid b secretA exchange version c final,
      Responds P responder hello card config now after ack session sid b secretA exchange version c
        final ∧
      S.markUsed store (("hello:" : Str) ++ sid) NONCE_TTL after = (.ok true, store') := by
  unfold respondSession at ok
  cases check : respondCheck P responder hello card now with
  | error e => rw [check] at ok; cases ok
  | ok pair =>
      rcases pair with ⟨nonce, version⟩
      rw [check] at ok
      rcases respondCheck_eq_ok check with ⟨b, v, s, accepted, supported, found, printed, rfl⟩
      simp only at ok
      split at ok
      · cases ok
      · cases ok
      · rename_i marked
        rw [Prod.mk.injEq] at ok
        rcases ok with ⟨finished, rfl⟩
        simp only [respondFinish, bind_eq_ok, Dict.item_eq_ok, deriveHelloSecret_eq_ok,
          pure_eq_ok, Prod.mk.injEq, strOf_eq_ok, activate_init] at finished
        rcases finished with ⟨secretA, derived, _, found', _, ini, ⟨ack', exchange⟩, made, i, ei,
          j, ej, r, er, sid, rfl, k, rfl, session', constructed, rfl, rfl⟩
        rcases makeAck_made made with ⟨_, _, c, same, same', made⟩
        cases same
        cases same'
        rw [found, Option.some.injEq] at found'
        subst found'
        cases printed
        rw [accepted.initiatorId] at ini
        cases ini
        rw [encodeVal_str, Str.utf8_eq_ok] at ei ej
        exact ⟨s, b, secretA, exchange, version, c, _, ⟨accepted, found, derived, supported, made,
          ⟨i, j, r, ei, ej, Str.utf8_eq_ok.mp er, rfl⟩, (Except.ok.inj constructed).symm⟩, marked⟩

/-! ## `complete` -/

/-- What a `complete` that returned has done. -/
structure Completes (P : Platform) (pending : Pending P) (ack : Dict) (card : PublicCard)
    (now after : ℚ) (session : Session) (c secretB final : Bytes) : Prop where
  accepted : AckAccepted P ack card now c
  sessionId : ack.get? "session_id" = some (.str pending.sessionId)
  initiatorId : ack.get? "initiator_id" = some (.str pending.initiator.entityId)
  responderId : ack.get? "responder_id" = some (.str card.entityId)
  sameCard : ∀ other ∈ pending.respCard, other.entityId = card.entityId
  derived : Derives P ack pending.initiator.keypair secretB
  agreed : FinalSecret P pending.exchange.sharedKey secretB pending.sessionId
    pending.initiator.entityId card.entityId final
  session_eq : session = established P pending.sessionId pending.initiator.entityId card.entityId
    final true pending.config after

theorem completeCheck_eq_ok {pending : Pending P} {ack : Dict} {card : PublicCard} {nonce : Str}
    (ok : completeCheck P pending ack card now = .ok nonce) :
    ∃ c, AckAccepted P ack card now c ∧ ack.get? "session_id" = some (.str pending.sessionId) ∧
      ack.get? "initiator_id" = some (.str pending.initiator.entityId) ∧
      ack.get? "responder_id" = some (.str card.entityId) ∧
      nonce = ("ack:" : Str) ++ pending.sessionId := by
  simp only [completeCheck, bind_eq_ok, ensure_eq_ok, Val.eqStr_eq_true, Dict.item_eq_ok,
    pure_eq_ok] at ok
  rcases ok with ⟨c, verified, _, sid, _, ini, _, res, _, found, _, printed, rfl⟩
  rw [sid, Option.some.injEq] at found
  subst found
  cases printed
  exact ⟨c, (verifyAckSignature_eq_ok.mp verified).2, sid, ini, res, rfl⟩

theorem deriveAckSecret_eq_ok {ack : Dict} {secretA : Bytes} {initiator : Identity P}
    (ok : deriveAckSecret P ack secretA initiator = .ok b) : Derives P ack initiator.keypair b := by
  simp only [deriveAckSecret, bind_eq_ok, ensure_eq_ok, Dict.item_eq_ok] at ok
  rcases ok with ⟨_, -, _, -, _, -, _, -, _, -, v, hv, eph, ve, w, hw, kem, wk, derived⟩
  exact ⟨eph, kem, ⟨v, hv, ve⟩, ⟨w, hw, wk⟩, derived⟩

theorem completeSession_completes {ρ : Type} {S : NonceStore} {store store' : S.State}
    {hs : Handshake P ρ} {pending : Pending P} {ack : Dict} {card : PublicCard} {session : Session}
    (waits : hs.pending = .ok pending)
    (ok : completeSession P S store hs ack card now after = (.ok session, store')) :
    ∃ c secretB final, Completes P pending ack card now after session c secretB final ∧
      S.markUsed store (("ack:" : Str) ++ pending.sessionId) NONCE_TTL after =
        (.ok true, store') := by
  unfold completeSession at ok
  rw [waits] at ok
  cases check : completeCheck P pending ack card now with
  | error e => simp only [check] at ok; cases ok
  | ok nonce =>
      simp only [check] at ok
      rcases completeCheck_eq_ok check with ⟨c, accepted, sid, ini, res, rfl⟩
      split at ok
      · cases ok
      · cases ok
      · rename_i marked
        rw [Prod.mk.injEq] at ok
        rcases ok with ⟨finished, rfl⟩
        simp only [completeFinish, bind_eq_ok, ensure_eq_ok, activate_init, Str.utf8_eq_ok,
          Except.ok.injEq] at finished
        rcases finished with ⟨_, matching, secretB, derived, s, hs, i, hi, r, hr, rfl⟩
        refine ⟨c, secretB, _, ⟨accepted, sid, ini, res, ?_, deriveAckSecret_eq_ok derived,
          ⟨s, i, r, hs, hi, hr, rfl⟩, rfl⟩, marked⟩
        intro other found
        rw [Option.mem_def.mp found] at matching
        exact beq_iff_eq.mp matching

/-! ## What the calls do to the store -/

theorem respondSession_store {S : NonceStore} {store store' : S.State} {responder : Identity P}
    {hello : Dict} {card : PublicCard} {config : Option SessionConfig} {coins : MessageCoins}
    {r : Except PyErr (Dict × Session)}
    (out : respondSession P S store responder hello card config now after coins = (r, store')) :
    store' = store ∨ ∃ nonce, store' = (S.markUsed store nonce NONCE_TTL after).2 := by
  unfold respondSession at out
  split at out
  · cases out
    exact Or.inl rfl
  · rename_i nonce version checked
    refine Or.inr ⟨nonce, ?_⟩
    split at out <;> rename_i marked <;> cases out <;> rw [marked]

theorem completeSession_store {ρ : Type} {S : NonceStore} {store store' : S.State}
    {hs : Handshake P ρ} {ack : Dict} {card : PublicCard} {r : Except PyErr Session}
    (out : completeSession P S store hs ack card now after = (r, store')) :
    store' = store ∨ ∃ nonce, store' = (S.markUsed store nonce NONCE_TTL after).2 := by
  unfold completeSession at out
  split at out
  · cases out
    exact Or.inl rfl
  · split at out
    · cases out
      exact Or.inl rfl
    · rename_i nonce checked
      refine Or.inr ⟨nonce, ?_⟩
      split at out <;> rename_i marked <;> cases out <;> rw [marked]

/-! ## The two ends of a message -/

/-- An accepted HELLO whose bytes an initiator signed carries that initiator's fields. -/
structure SameHello (P : Platform) (initiator : Identity P) (card responderCard : PublicCard)
    (responder : Identity P) (made now : ℚ) (hello : Dict) (sessionId : Str)
    (exchange : ExchangeResult) : Prop where
  initiator : card.entityId = initiator.entityId
  responder : responderCard.entityId = responder.entityId
  sessionId : ∀ s, hello.get? "session_id" = some (.str s) → s = sessionId
  ephemeralPub : Raw hello "ephemeral_pub" exchange.ephemeralPub
  kemCiphertext : Raw hello "kem_ciphertext" exchange.kemCiphertext
  age : -MAX_AGE ≤ ⌊now⌋ - ⌊made⌋ ∧ ⌊now⌋ - ⌊made⌋ ≤ MAX_AGE

theorem Fresh.of_text {message : Dict} {n : ℤ} {encoded : Bytes}
    (fresh : Fresh R message now) (text : Text R message "timestamp" encoded)
    (printed : (Str.ofInt n).encode = some encoded) :
    -MAX_AGE ≤ ⌊now⌋ - n ∧ ⌊now⌋ - n ≤ MAX_AGE := by
  rcases fresh with ⟨v, ts, found, converted, young⟩
  rw [R.int_of_str_eq (text.str_eq found printed) converted] at young
  exact young

theorem Text.eq_of_str {message : Dict} {field s t : Str} (text : Text R message field b)
    (found : message.get? field = some (.str s)) (encoded : t.encode = some b) : s = t :=
  Except.ok.inj (text.str_eq found encoded)

theorem HelloAccepted.sameHello {initiator responder : Identity P} {card responderCard : PublicCard}
    {made : ℚ} {hello hello' : Dict} {sessionId : Str} {exchange : ExchangeResult}
    (accepted : HelloAccepted P hello card responder now b)
    (origin : HelloMade P initiator responderCard sessionId made hello' exchange b) :
    SameHello P initiator card responderCard responder made now hello sessionId exchange := by
  rcases helloSignable_eq_ok.mp accepted.signable with ⟨h, reads, bound⟩
  rcases origin.bytes with ⟨h', covers, bound'⟩
  have same := HelloBytes.fields_inj (bindFields_inj bound bound')
  subst same
  exact {
    initiator := reads.initiatorId.eq_of_str accepted.initiatorId covers.initiatorId
    responder := (reads.responderId.eq_of_str accepted.responderId covers.responderId).symm
    sessionId := fun s found => reads.sessionId.eq_of_str found covers.sessionId
    ephemeralPub := covers.ephemeralPub ▸ reads.ephemeralPub
    kemCiphertext := covers.kemCiphertext ▸ reads.kemCiphertext
    age := accepted.fresh.of_text reads.timestamp covers.timestamp }

/-- An accepted ACK whose bytes a responder signed carries that responder's fields. -/
structure SameAck (P : Platform) (responder : Identity P) (initiatorId : Str) (made now : ℚ)
    (ack : Dict) (sessionId : Str) (exchange : ExchangeResult) : Prop where
  sessionId : ∀ s, ack.get? "session_id" = some (.str s) → s = sessionId
  responderId : ∀ s, ack.get? "responder_id" = some (.str s) → s = responder.entityId
  initiatorId : ∀ s, ack.get? "initiator_id" = some (.str s) → s = initiatorId
  ephemeralPub : Raw ack "ephemeral_pub" exchange.ephemeralPub
  kemCiphertext : Raw ack "kem_ciphertext" exchange.kemCiphertext
  age : -MAX_AGE ≤ ⌊now⌋ - ⌊made⌋ ∧ ⌊now⌋ - ⌊made⌋ ≤ MAX_AGE

theorem AckAccepted.sameAck {responder : Identity P} {card responderCard : PublicCard} {made : ℚ}
    {ack ack' : Dict} {version sessionId initiatorId : Str} {secretA : Bytes}
    {exchange : ExchangeResult} (accepted : AckAccepted P ack responderCard now b)
    (origin : AckMade P responder card version sessionId initiatorId secretA made ack' exchange b) :
    SameAck P responder initiatorId made now ack sessionId exchange := by
  rcases ackSignable_eq_ok.mp accepted.signable with ⟨a, reads, bound⟩
  rcases origin.bytes with ⟨proof, a', -, covers, bound', -⟩
  have same := AckBytes.fields_inj (bindFields_inj bound bound')
  subst same
  exact {
    sessionId := fun s found => reads.sessionId.eq_of_str found covers.sessionId
    responderId := fun s found => reads.responderId.eq_of_str found covers.responderId
    initiatorId := fun s found => reads.initiatorId.eq_of_str found covers.initiatorId
    ephemeralPub := covers.ephemeralPub ▸ reads.ephemeralPub
    kemCiphertext := covers.kemCiphertext ▸ reads.kemCiphertext
    age := accepted.fresh.of_text reads.timestamp covers.timestamp }

theorem Derives.unique {message : Dict} {keypair : HybridKeypair} {eph kem secret : Bytes}
    (derives : Derives P message keypair secret) (rawEph : Raw message "ephemeral_pub" eph)
    (rawKem : Raw message "kem_ciphertext" kem) :
    hybridRecipientExchange P eph kem keypair = .ok secret := by
  rcases derives with ⟨eph', kem', ⟨v, hv, ve⟩, ⟨w, hw, wk⟩, derived⟩
  rcases rawEph with ⟨v', hv', ve'⟩
  rcases rawKem with ⟨w', hw', wk'⟩
  rw [hv] at hv'
  rw [hw] at hw'
  cases hv'
  cases hw'
  rw [ve] at ve'
  rw [wk] at wk'
  cases ve'
  cases wk'
  exact derived

/-- The recipient an exchange was made for derives its key. -/
theorem Derives.eq_sharedKey (correct : P.ExchangeCorrect) {message : Dict} {i : Identity P}
    {secret : Bytes} {exchange : ExchangeResult} (derives : Derives P message i.keypair secret)
    (rawEph : Raw message "ephemeral_pub" exchange.ephemeralPub)
    (rawKem : Raw message "kem_ciphertext" exchange.kemCiphertext)
    (sent : ∃ coins, hybridSenderExchange P i.publicCard.publicKeys coins = .ok exchange) :
    secret = exchange.sharedKey := by
  rcases sent with ⟨coins, sent⟩
  have mine := hybridRecipientExchange_sender correct i.generated sent
  rw [derives.unique rawEph rawKem] at mine
  exact Except.ok.inj mine

end Handshake

end Uxsp
