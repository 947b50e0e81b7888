import Uxsp.Core.Identity
import Uxsp.Core.Nonce
import Uxsp.Core.Session
import Uxsp.Python.Uuid

/-!
# `uxsp.core.handshake`

The mutual-authentication handshake: HELLO, ACK and the session both sides derive.  `now` is the
clock at the freshness check of a call and `after` its reading from the nonce store on; the random
bytes a call draws are arguments.  Messages are dicts, so that what an attacker may put into a
field is whatever a dict may hold.
-/

namespace Uxsp

def SUPPORTED_VERSIONS : List Str := ["1"]

/-- The freshness bound of both messages, in seconds. -/
def MAX_AGE : ℤ := 30

/-- How long the nonce stores remember a message, in seconds. -/
def NONCE_TTL : ℚ := 90

/-- The random bytes of one HELLO or ACK. -/
structure MessageCoins where
  exchange : ExchangeCoins
  signing : Urandom 32

namespace Handshake

/-! ## HELLO -/

/-- `",".join(versions)`. -/
def joinComma (versions : List Str) : Str := List.intercalate ("," : Str) versions

def helloDict (sessionId initiatorId responderId : Str) (ts : ℤ) (exchange : ExchangeResult)
    (sigs : Signatures) : Dict :=
  [("type", .str "UXSP-HELLO"), ("supported_versions", .list (SUPPORTED_VERSIONS.map .str)),
    ("session_id", .str sessionId), ("initiator_id", .str initiatorId),
    ("responder_id", .str responderId), ("timestamp", .int ts),
    ("ephemeral_pub", .str exchange.ephemeralPub.hex),
    ("kem_ciphertext", .str exchange.kemCiphertext.hex),
    ("classical_sig", .str sigs.classicalSig), ("pqc_sig", .str sigs.pqcSig)]

/-- The bytes the initiator signs. -/
def helloPreimage (R : Runtime) (sessionId initiatorId responderId : Str) (ts : ℤ)
    (exchange : ExchangeResult) : Except PyErr Bytes := do
  let versions ← (joinComma SUPPORTED_VERSIONS).utf8
  let sid ← sessionId.utf8
  let initiator ← initiatorId.utf8
  let responder ← responderId.utf8
  let timestamp ← timestampBytes R ts
  bindFields [.lit "UXSP-HELLO", versions, sid, initiator, responder, exchange.ephemeralPub,
    exchange.kemCiphertext, timestamp]

/-- Build the HELLO of the initiator. -/
def makeHello (P : Platform) (initiator : Identity P) (responderCard : PublicCard)
    (sessionId : Str) (now : ℚ) (coins : MessageCoins) :
    Except PyErr (Dict × ExchangeResult) := do
  let ts := ⌊now⌋
  let exchange ← hybridSenderExchange P responderCard.publicKeys coins.exchange
  let signable ← helloPreimage P.toRuntime sessionId initiator.entityId responderCard.entityId ts
    exchange
  let sigs ← hybridSign P signable initiator.keypair coins.signing
  return (helloDict sessionId initiator.entityId responderCard.entityId ts exchange sigs, exchange)

def HELLO_REQUIRED : List String :=
  ["type", "supported_versions", "session_id", "initiator_id", "responder_id", "timestamp",
    "ephemeral_pub", "kem_ciphertext", "classical_sig", "pqc_sig"]

/-- The required fields a message lacks. -/
def missingFields (required : List String) (message : Dict) : List String :=
  required.filter fun field => !message.has field

/-- `",".join(v).encode()`. -/
def joinVersions : Val → Except PyErr Bytes
  | .list xs => do
      let versions ← xs.mapM fun
        | .str s => Except.ok s
        | _ => .error ⟨.typeError, ["sequence item: expected str instance"]⟩
      (joinComma versions).utf8
  | _ => .error ⟨.typeError, ["can only join an iterable"]⟩

/-- The bytes the signatures of a received HELLO must cover. -/
def helloSignable (R : Runtime) (hello : Dict) : Except PyErr Bytes := do
  let versions ← joinVersions (← hello.item "supported_versions")
  let sid ← (← R.str (← hello.item "session_id")).utf8
  let initiatorId ← (← R.str (← hello.item "initiator_id")).utf8
  let responderId ← (← R.str (← hello.item "responder_id")).utf8
  let ephemeralPub ← fromHexVal (← hello.item "ephemeral_pub")
  let kemCiphertext ← fromHexVal (← hello.item "kem_ciphertext")
  let timestamp ← (← R.str (← hello.item "timestamp")).utf8
  bindFields [.lit "UXSP-HELLO", versions, sid, initiatorId, responderId, ephemeralPub,
    kemCiphertext, timestamp]

/-- `int(time.time()) - int(message["timestamp"])`, within the freshness bound. -/
def checkAge (R : Runtime) (message : Dict) (now : ℚ) (invalid : PyErr)
    (expired : ℤ → PyErr) : Except PyErr Unit := do
  let ts ← catching [.valueError, .typeError] (fun _ => invalid)
    (do R.int (← message.item "timestamp"))
  let age := ⌊now⌋ - ts
  ensure (-MAX_AGE ≤ age && age ≤ MAX_AGE) (expired age)

def hashable : Val → Bool
  | .list _ | .dict _ => false
  | _ => true

/-- The version both sides support.  There is one supported version, so the largest common one
is the first. -/
def negotiate (R : Runtime) (clientVersions : Option Val) : Except PyErr Str :=
  match clientVersions with
  | some (.list (x :: xs)) =>
      if (x :: xs).any fun v => !hashable v then
        .error ⟨.typeError, ["unhashable type"]⟩
      else
        match SUPPORTED_VERSIONS.filter fun v => (x :: xs).any fun w => Val.eqStr (some w) v with
        | version :: _ => .ok version
        | [] => .error (R.err .handshakeAuthError
            ["No common protocol version supported. Peer supports: ", .val (.list (x :: xs))])
  | _ => .error ⟨.handshakeAuthError, ["HelloMessage missing or invalid 'supported_versions'."]⟩

/-- Verify the signatures of a message over its signable bytes. -/
def checkSignature (P : Platform) (message : Dict) (signable : Bytes) (sender : PublicKeys)
    (invalid : PyErr → PyErr) (wrong : PyErr) : Except PyErr Unit := do
  let signatureOk ← catching [.envelopeValidationError] invalid
    (do hybridVerify P signable (← message.item "classical_sig") (← message.item "pqc_sig") sender)
  ensure signatureOk wrong

/-- Check signature and metadata of a HELLO: the signable bytes and the negotiated version. -/
def verifyHelloSignature (P : Platform) (hello : Dict) (initiatorCard : PublicCard)
    (responder : Identity P) (now : ℚ) : Except PyErr (Bytes × Str) := do
  let R := P.toRuntime
  let missing := missingFields HELLO_REQUIRED hello
  ensure missing.isEmpty ⟨.handshakeAuthError, ["HelloMessage missing required fields: ",
    .names missing, ". Possible malformed or truncated payload."]⟩
  ensure (Val.eqStr (hello.get? "type") "UXSP-HELLO") (R.err .handshakeAuthError
    ["Expected UXSP-HELLO message, got '", .val ((hello.get? "type").getD .none),
      "'. Possible protocol confusion attack."])
  checkAge R hello now
    (R.err .handshakeAuthError ["Invalid timestamp format in HelloMessage: '",
      .val ((hello.get? "timestamp").getD .none), "'. Must be a Unix integer."])
    (fun age => R.err .handshakeExpiredError
      ["HelloMessage is ", .int age, "s old. Maximum: ", .int MAX_AGE, "s."])
  ensure (Val.eqStr (hello.get? "initiator_id") initiatorCard.entityId) ⟨.handshakeAuthError,
    ["HelloMessage initiator_id does not match provided card. ",
      "Possible identity confusion attack."]⟩
  ensure (Val.eqStr (hello.get? "responder_id") responder.entityId) ⟨.handshakeAuthError,
    ["HelloMessage responder_id is not for this responder. ",
      "Possible misdirected or replayed handshake."]⟩
  let version ← negotiate R (hello.get? "supported_versions")
  let signable ← catching [.valueError, .typeError, .attributeError]
    (fun e => ⟨.handshakeAuthError,
      [.lit "HelloMessage contains malformed or invalid field types: "] ++ e.msg⟩)
    (helloSignable R hello)
  checkSignature P hello signable initiatorCard.publicKeys
    (fun e => ⟨.handshakeAuthError,
      [.lit "HelloMessage signature fields are invalid: "] ++ e.msg⟩)
    ⟨.handshakeAuthError, ["HelloMessage signature invalid. ",
      "Initiator identity could not be verified."]⟩
  return (signable, version)

/-- The initiator's half of the secret. -/
def deriveHelloSecret (P : Platform) (hello : Dict) (responder : Identity P) :
    Except PyErr Bytes := do
  let ephemeralPub ← fromHexVal (← hello.item "ephemeral_pub")
  let kemCiphertext ← fromHexVal (← hello.item "kem_ciphertext")
  hybridRecipientExchange P ephemeralPub kemCiphertext responder.keypair

/-! ## ACK -/

/-- `v + s` for a string `s`. -/
def concat (v : Val) (s : Str) : Except PyErr Str :=
  match v with
  | .str t => .ok (t ++ s)
  | _ => .error ⟨.typeError, ["unsupported operand type(s) for +"]⟩

/-- `v.encode()`. -/
def encodeVal : Val → Except PyErr Bytes
  | .str s => s.utf8
  | _ => .error ⟨.attributeError, ["object has no attribute 'encode'"]⟩

/-- The string a value is, where the code has used it as one before. -/
def strOf : Val → Except PyErr Str
  | .str s => .ok s
  | _ => .error ⟨.typeError, ["expected str"]⟩

/-- The proof that the responder holds the initiator's half. -/
def responderProof (P : Platform) (sharedSecretA : Bytes) (sessionId : Val) : Except PyErr Str := do
  let message ← (← concat sessionId ":responder-proof").utf8
  return (P.hmacSha256 sharedSecretA message).hex

def ackDict (version : Str) (sessionId : Val) (responderId : Str) (initiatorId : Val) (ts : ℤ)
    (proof : Str) (exchange : ExchangeResult) (sigs : Signatures) : Dict :=
  [("type", .str "UXSP-ACK"), ("version", .str version), ("session_id", sessionId),
    ("responder_id", .str responderId), ("initiator_id", initiatorId), ("timestamp", .int ts),
    ("proof", .str proof), ("ephemeral_pub", .str exchange.ephemeralPub.hex),
    ("kem_ciphertext", .str exchange.kemCiphertext.hex),
    ("classical_sig", .str sigs.classicalSig), ("pqc_sig", .str sigs.pqcSig)]

/-- The bytes the responder signs. -/
def ackPreimage (R : Runtime) (version : Str) (sessionId : Val) (responderId : Str)
    (initiatorId : Val) (ts : ℤ) (proof : Str) (exchange : ExchangeResult) :
    Except PyErr Bytes := do
  let versionBytes ← version.utf8
  let sid ← encodeVal sessionId
  let responder ← responderId.utf8
  let initiator ← encodeVal initiatorId
  let proofBytes ← proof.utf8
  let timestamp ← timestampBytes R ts
  bindFields [.lit "UXSP-ACK", versionBytes, sid, responder, initiator, proofBytes,
    exchange.ephemeralPub, exchange.kemCiphertext, timestamp]

/-- Build the ACK of the responder. -/
def makeAck (P : Platform) (responder : Identity P) (sessionId initiatorId : Val)
    (sharedSecretA : Bytes) (initiatorCard : PublicCard) (version : Str) (now : ℚ)
    (coins : MessageCoins) : Except PyErr (Dict × ExchangeResult) := do
  let ts := ⌊now⌋
  let exchange ← hybridSenderExchange P initiatorCard.publicKeys coins.exchange
  let proof ← responderProof P sharedSecretA sessionId
  let signable ← ackPreimage P.toRuntime version sessionId responder.entityId initiatorId ts proof
    exchange
  let sigs ← hybridSign P signable responder.keypair coins.signing
  return (ackDict version sessionId responder.entityId initiatorId ts proof exchange sigs, exchange)

def ACK_REQUIRED : List String :=
  ["type", "version", "session_id", "responder_id", "initiator_id", "timestamp", "proof",
    "ephemeral_pub", "kem_ciphertext", "classical_sig", "pqc_sig"]

/-- The bytes the signatures of a received ACK must cover. -/
def ackSignable (R : Runtime) (ack : Dict) : Except PyErr Bytes := do
  let version ← (← R.str (← ack.item "version")).utf8
  let sid ← (← R.str (← ack.item "session_id")).utf8
  let responderId ← (← R.str (← ack.item "responder_id")).utf8
  let initiatorId ← (← R.str (← ack.item "initiator_id")).utf8
  let proof ← (← R.str (← ack.item "proof")).utf8
  let ephemeralPub ← fromHexVal (← ack.item "ephemeral_pub")
  let kemCiphertext ← fromHexVal (← ack.item "kem_ciphertext")
  let timestamp ← (← R.str (← ack.item "timestamp")).utf8
  bindFields [.lit "UXSP-ACK", version, sid, responderId, initiatorId, proof, ephemeralPub,
    kemCiphertext, timestamp]

/-- Check signature and metadata of an ACK: the signable bytes. -/
def verifyAckSignature (P : Platform) (ack : Dict) (responderCard : PublicCard) (now : ℚ) :
    Except PyErr Bytes := do
  let R := P.toRuntime
  let missing := missingFields ACK_REQUIRED ack
  ensure missing.isEmpty ⟨.handshakeAuthError, ["AckMessage missing required fields: ",
    .names missing, ". Possible malformed or truncated payload."]⟩
  ensure (Val.eqStr (ack.get? "type") "UXSP-ACK") (R.err .handshakeAuthError
    ["Expected UXSP-ACK message, got '", .val ((ack.get? "type").getD .none), "'."])
  checkAge R ack now
    (R.err .handshakeAuthError ["Invalid timestamp format in AckMessage: '",
      .val ((ack.get? "timestamp").getD .none), "'. Must be a Unix integer."])
    (fun age => R.err .handshakeExpiredError
      ["AckMessage age ", .int age, "s is out of bounds. Maximum: ", .int MAX_AGE, "s."])
  ensure (SUPPORTED_VERSIONS.any fun v => Val.eqStr (ack.get? "version") v)
    (R.err .handshakeAuthError
      ["Unsupported ack version '", .val ((ack.get? "version").getD .none), "'."])
  let signable ← catching [.valueError, .typeError, .attributeError]
    (fun e => ⟨.handshakeAuthError,
      [.lit "AckMessage contains malformed or invalid field types: "] ++ e.msg⟩)
    (ackSignable R ack)
  checkSignature P ack signable responderCard.publicKeys
    (fun e => ⟨.handshakeAuthError,
      [.lit "AckMessage signature fields are invalid: "] ++ e.msg⟩)
    ⟨.handshakeAuthError, ["AckMessage signature invalid. ",
      "Responder identity could not be verified."]⟩
  return signable

/-- Check the proof and recover the responder's half of the secret. -/
def deriveAckSecret (P : Platform) (ack : Dict) (sharedSecretA : Bytes)
    (initiator : Identity P) : Except PyErr Bytes := do
  let expectedProof ← responderProof P sharedSecretA (← ack.item "session_id")
  let proofOk ← Session.compareDigest expectedProof (← ack.item "proof")
  ensure proofOk ⟨.handshakeProofError,
    ["Shared secret proof mismatch. Possible man-in-the-middle attack."]⟩
  let ephemeralPub ← fromHexVal (← ack.item "ephemeral_pub")
  let kemCiphertext ← fromHexVal (← ack.item "kem_ciphertext")
  hybridRecipientExchange P ephemeralPub kemCiphertext initiator.keypair

/-- Both halves of the secret, bound to the session and the two parties. -/
def finalSharedSecret (P : Platform) (sharedSecretA sharedSecretB : Bytes)
    (sessionId initiatorId responderId : Bytes) : Bytes :=
  deriveKey P (sharedSecretA ++ sharedSecretB) 32 none
    (.lit "UXSP-final-session-key:" ++ sessionId ++ .lit ":" ++ initiatorId ++ .lit ":" ++
      responderId)

end Handshake

/-! ## The handshake object -/

/-- A handshake; `ρ` is how the object refers to its session. -/
structure Handshake (P : Platform) (ρ : Type) where
  helloMsg : Option Dict
  ackMsg : Option Dict
  session : Option ρ
  exchange : Option ExchangeResult
  sessionId : Option Str
  config : Option SessionConfig
  initiator : Option (Identity P)
  respCard : Option PublicCard

namespace Handshake

variable {ρ : Type}

/-- `config or SessionConfig()`. -/
def configOr (config : Option SessionConfig) : SessionConfig := config.getD .default

/-- Start a handshake as the initiating party. -/
def initiate (P : Platform) (initiator : Identity P) (responderCard : PublicCard)
    (config : Option SessionConfig) (uuid : Uuid4) (now : ℚ) (coins : MessageCoins) :
    Except PyErr (Handshake P ρ) := do
  let (hello, exchange) ← makeHello P initiator responderCard uuid.str now coins
  return {
    helloMsg := hello
    ackMsg := none
    session := none
    exchange := exchange
    sessionId := uuid.str
    config := configOr config
    initiator := initiator
    respCard := responderCard }

/-- The checks of `respond` before the nonce store is asked: the nonce and the version. -/
def respondCheck (P : Platform) (responder : Identity P) (hello : Dict)
    (initiatorCard : PublicCard) (now : ℚ) : Except PyErr (Str × Str) := do
  let sessionId ← P.str ((hello.get? "session_id").getD (.str ""))
  ensure (Uuid.parses P.toRuntime sessionId)
    ⟨.handshakeAuthError, ["Invalid or malformed session_id: ", .str sessionId]⟩
  let (_, version) ← verifyHelloSignature P hello initiatorCard responder now
  let nonce ← P.str (← hello.item "session_id")
  return (("hello:" : Str) ++ nonce, version)

/-- The rest of `respond`: the ACK and the active session. -/
def respondFinish (P : Platform) (responder : Identity P) (hello : Dict)
    (initiatorCard : PublicCard) (version : Str) (config : Option SessionConfig) (now : ℚ)
    (coins : MessageCoins) : Except PyErr (Dict × Session) := do
  let sharedSecretA ← deriveHelloSecret P hello responder
  let sessionId ← hello.item "session_id"
  let initiatorId ← hello.item "initiator_id"
  let (ack, exchange) ← makeAck P responder sessionId initiatorId sharedSecretA initiatorCard
    version now coins
  let final := finalSharedSecret P sharedSecretA exchange.sharedKey (← encodeVal sessionId)
    (← encodeVal initiatorId) (← responder.entityId.utf8)
  let session ← (Session.init P (← strOf sessionId) responder.entityId
    (← strOf initiatorId) final false (configOr config) now).activate
  return (ack, session)

/-- Process a HELLO as the responder: the ACK and the session. -/
def respondSession (P : Platform) (S : NonceStore) (store : S.State) (responder : Identity P)
    (hello : Dict) (initiatorCard : PublicCard) (config : Option SessionConfig) (now after : ℚ)
    (coins : MessageCoins) : Except PyErr (Dict × Session) × S.State :=
  match respondCheck P responder hello initiatorCard now with
  | .error e => (.error e, store)
  | .ok (nonce, version) =>
      match S.markUsed store nonce NONCE_TTL after with
      | (.error e, store) => (.error e, store)
      | (.ok false, store) => (.error ⟨.handshakeExpiredError,
          ["Replay attack detected: hello message already processed."]⟩, store)
      | (.ok true, store) =>
          (respondFinish P responder hello initiatorCard version config after coins, store)

/-- The handshake object `respond` returns. -/
def responded (P : Platform) (sessionId : Option Str) (ack : Dict) (session : ρ)
    (config : Option SessionConfig) : Handshake P ρ where
  helloMsg := none
  ackMsg := ack
  session := session
  exchange := none
  sessionId := sessionId
  config := configOr config
  initiator := none
  respCard := none

/-- What `complete` needs of the handshake, set by `initiate`. -/
structure Pending (P : Platform) where
  initiator : Identity P
  sessionId : Str
  exchange : ExchangeResult
  config : SessionConfig
  respCard : Option PublicCard

def pending (hs : Handshake P ρ) : Except PyErr (Pending P) :=
  match hs.helloMsg, hs.initiator, hs.sessionId, hs.exchange with
  | some _, some initiator, some sessionId, some exchange =>
      .ok ⟨initiator, sessionId, exchange, configOr hs.config, hs.respCard⟩
  | _, _, _, _ => .error ⟨.handshakeError, ["complete() called before initiate()."]⟩

/-- The checks of `complete` before the nonce store is asked: the nonce. -/
def completeCheck (P : Platform) (pending : Pending P) (ack : Dict)
    (responderCard : PublicCard) (now : ℚ) : Except PyErr Str := do
  let _ ← verifyAckSignature P ack responderCard now
  ensure (Val.eqStr (ack.get? "session_id") pending.sessionId) ⟨.handshakeAuthError,
    ["AckMessage session_id does not match the pending handshake."]⟩
  ensure (Val.eqStr (ack.get? "initiator_id") pending.initiator.entityId) ⟨.handshakeAuthError,
    ["AckMessage initiator_id does not match this initiator."]⟩
  ensure (Val.eqStr (ack.get? "responder_id") responderCard.entityId) ⟨.handshakeAuthError,
    ["AckMessage responder_id does not match the responder card."]⟩
  return ("ack:" : Str) ++ (← P.str (← ack.item "session_id"))

/-- The rest of `complete`: the active session. -/
def completeFinish (P : Platform) (pending : Pending P) (ack : Dict)
    (responderCard : PublicCard) (now : ℚ) : Except PyErr Session := do
  ensure (pending.respCard.all fun card => card.entityId == responderCard.entityId)
    ⟨.handshakeAuthError, ["responder_card does not match the card used in initiate()."]⟩
  let sharedSecretA := pending.exchange.sharedKey
  let sharedSecretB ← deriveAckSecret P ack sharedSecretA pending.initiator
  let final := finalSharedSecret P sharedSecretA sharedSecretB (← pending.sessionId.utf8)
    (← pending.initiator.entityId.utf8) (← responderCard.entityId.utf8)
  (Session.init P pending.sessionId pending.initiator.entityId responderCard.entityId final true
    pending.config now).activate

/-- Finalise the handshake as the initiating party: the session. -/
def completeSession (P : Platform) (S : NonceStore) (store : S.State) (hs : Handshake P ρ)
    (ack : Dict) (responderCard : PublicCard) (now after : ℚ) :
    Except PyErr Session × S.State :=
  match hs.pending with
  | .error e => (.error e, store)
  | .ok pending =>
      match completeCheck P pending ack responderCard now with
      | .error e => (.error e, store)
      | .ok nonce =>
          match S.markUsed store nonce NONCE_TTL after with
          | (.error e, store) => (.error e, store)
          | (.ok false, store) => (.error ⟨.handshakeExpiredError,
              ["Replay attack detected: ack message already processed."]⟩, store)
          | (.ok true, store) => (completeFinish P pending ack responderCard after, store)

end Handshake

end Uxsp
