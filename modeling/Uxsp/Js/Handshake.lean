import Uxsp.Js.Session
import Uxsp.Python.Uuid

/-!
# `handshake.ts`

The handshake of the JavaScript SDK.  A message is whatever object `JSON.parse` makes; `now` is the
clock, in seconds, at the freshness check of a call and `after` its reading from the nonce store on.
A HELLO or ACK whose ciphertext has 32 bytes is taken for one without ML-KEM.
-/

namespace Uxsp

structure JsPublicKeys where
  exchangePub : JsStr
  kemPub : JsStr
  signingPub : JsStr
  pqcSigPub : JsStr
  deriving DecidableEq

structure JsPublicCard where
  entityId : JsStr
  publicKeys : JsPublicKeys
  deriving DecidableEq

/-- An identity with its four key pairs. -/
structure JsIdentity where
  entityId : JsStr
  exchange : JsKeypair
  kem : JsKeypair
  signing : JsKeypair
  pqcSig : JsKeypair
  deriving DecidableEq

def JsIdentity.publicCard (i : JsIdentity) : JsPublicCard where
  entityId := i.entityId
  publicKeys := ⟨i.exchange.publicKey, i.kem.publicKey, i.signing.publicKey, i.pqcSig.publicKey⟩

/-- `abstract class NonceStore`; what `markUsed` answers is awaited. -/
structure JsNonceStore where
  State : Type
  markUsed : State → (nonce : JsStr) → (ttlSeconds now : ℚ) → Except JsErr Bool × State

/-- `ExchangeResult`. -/
structure JsExchange where
  ephemeralPub : Bytes
  kemCiphertext : Bytes
  sharedKey : Bytes

namespace JsHandshake

def SUPPORTED_VERSIONS : List JsStr := ["1.0", "1.1", "1.2"]

/-- The default of `maxAge`, in seconds. -/
def MAX_AGE : ℚ := 30

def NONCE_TTL : ℚ := 90

def authError (message : List JsPart) : JsErr := ⟨.handshakeAuthError, message⟩

/-! ## Reading a message -/

/-- `message[key]`, where the field is used as a string. -/
def field (message : JsObject) (key : JsStr) : Except JsErr JsVal := message.item key

/-- The loop over the required fields. -/
def requireFields (missing : String) (required : List String) (message : JsObject) :
    Except JsErr Unit :=
  match required.find? fun (f : String) => (message.get? f).isNone with
  | some f => .error (authError [.lit missing, .lit f])
  | none => .ok ()

def requireType (J : JsPlatform) (message : JsObject) (expected : String) : Except JsErr Unit := do
  let type ← field message "type"
  if JsVal.isStr (some type) expected then return ()
  else .error (authError
    [.lit "Expected ", .lit expected, .lit " message, got '", .str (← J.str type), .lit "'"])

/-- `Math.floor(Date.now() / 1000) - ts`. -/
def ageOf (now : ℚ) : PyFloat → PyFloat
  | .finite ts => .finite (⌊now⌋ - ts)
  | .inf negative => .inf !negative
  | .nan => .nan

/-- `!(age < -maxAge || age > maxAge)`. -/
def fresh : PyFloat → Bool
  | .finite age => -MAX_AGE ≤ age && age ≤ MAX_AGE
  | .inf _ => false
  | .nan => true

/-- Check the timestamp of a message: the number it is read as. -/
def checkTimestamp (J : JsPlatform) (message : JsObject) (now : ℚ) (invalid : String)
    (expired : JsStr → List JsPart) : Except JsErr PyFloat := do
  let ts ← J.num (← field message "timestamp")
  jsEnsure (ts ≠ .nan) (authError [.lit invalid])
  let age := ageOf now ts
  jsEnsure (fresh age) ⟨.handshakeExpiredError, expired (J.numberToString age)⟩
  return ts

/-- `message[key] !== id`, thrown. -/
def requireId (message : JsObject) (key id : JsStr) (wrong : String) : Except JsErr Unit :=
  jsEnsure (JsVal.isStr (message.get? key) id) (authError [.lit wrong])

/-- `isPqcStubbed`. -/
def isPqcStubbed (kemCiphertext : Bytes) : Bool := kemCiphertext.length = 32

/-- The ciphertext as the signatures cover it. -/
def boundCiphertext (kemCiphertext : Bytes) : Bytes :=
  if isPqcStubbed kemCiphertext then [] else kemCiphertext

/-- Verify the signatures of a message over its signable bytes. -/
def checkSignatures (J : JsPlatform) (message : JsObject) (kemCiphertext signable : Bytes)
    (sender : JsPublicKeys) (who : String) : Except JsErr Unit := do
  let classicalSig ← decodeHex J.toJsRuntime (← field message "classical_sig")
  let classicalValid ← J.verifyEd25519 sender.signingPub classicalSig signable
  jsEnsure classicalValid
    (authError [.lit who, .lit " classical signature verification failed."])
  let pqcSig ← field message "pqc_sig"
  if !isPqcStubbed kemCiphertext && pqcSig.truthy then
    let pqcValid ← J.verifyMLDSA sender.pqcSigPub (← decodeHex J.toJsRuntime pqcSig) signable
    jsEnsure pqcValid (authError [.lit who, .lit " PQC signature verification failed."])
  else return ()

/-! ## Key exchange -/

def exchangeInfo : Bytes := .lit "UXSP-hybrid-key-exchange-v1"

/-- The secrets of a received message before the key derivation. -/
def combinedSecret (J : JsPlatform) (message : JsObject) (ephemeralPub : Bytes)
    (ours : JsIdentity) : Except JsErr Bytes := do
  let sharedX25519 ←
    J.deriveSharedSecret ours.exchange.privateKey (JsStr.encodeBase64 ephemeralPub)
  let kemCiphertext ← decodeHex J.toJsRuntime (← field message "kem_ciphertext")
  if isPqcStubbed kemCiphertext then return sharedX25519
  else return sharedX25519 ++ (← J.decapsulateMLKEM kemCiphertext ours.kem.privateKey)

/-- The sender's half of the secret, from the message that carries it. -/
def receiveExchange (J : JsPlatform) (message : JsObject) (ours : JsIdentity) :
    Except JsErr Bytes := do
  let ephemeralPub ← decodeHex J.toJsRuntime (← field message "ephemeral_pub")
  let combined ← combinedSecret J message ephemeralPub ours
  J.hkdf combined ephemeralPub exchangeInfo 32

/-- A half of the secret for the holder of a card. -/
def sendExchange (J : JsPlatform) (theirs : JsPublicKeys) (coins : JsCoins) :
    Except JsErr JsExchange := do
  let ephemeral := J.generateX25519KeyPair coins.exchange
  let ephemeralPub ← decodeBase64 ephemeral.publicKey
  let sharedX25519 ← J.deriveSharedSecret ephemeral.privateKey theirs.exchangePub
  let (ciphertext, kemSecret) ← J.encapsulateMLKEM theirs.kemPub coins
  let combined := if isPqcStubbed ciphertext then sharedX25519 else sharedX25519 ++ kemSecret
  return ⟨ephemeralPub, ciphertext, ← J.hkdf combined ephemeralPub exchangeInfo 32⟩

/-- Both signatures of a message, in hex; without ML-KEM the second is empty. -/
def signBoth (J : JsPlatform) (ours : JsIdentity) (kemCiphertext signable : Bytes)
    (coins : Urandom 32) : Except JsErr (JsStr × JsStr) := do
  let classicalSig ← J.signEd25519 ours.signing.privateKey signable
  if isPqcStubbed kemCiphertext then return (JsStr.ofBytes classicalSig, [])
  else
    let pqcSig ← J.signMLDSA ours.pqcSig.privateKey signable coins
    return (JsStr.ofBytes classicalSig, JsStr.ofBytes pqcSig)

/-! ## HELLO -/

/-- The bytes a HELLO is signed over, with a ciphertext in its place. -/
def helloBytes (versions sessionId initiatorId responderId : JsStr)
    (ephemeralPub kemCiphertext : Bytes) (ts : JsStr) : Bytes :=
  jsBindFields [.lit "UXSP-HELLO", versions.utf8, sessionId.utf8, initiatorId.utf8,
    responderId.utf8, ephemeralPub, kemCiphertext, ts.utf8]

/-- Build the HELLO of the initiator. -/
def makeHello (J : JsPlatform) (initiator : JsIdentity) (responderCard : JsPublicCard)
    (sessionId : JsStr) (now : ℚ) (coins : JsCoins) : Except JsErr (JsObject × JsExchange) := do
  let ts : PyFloat := .finite ⌊now⌋
  let exchange ← sendExchange J responderCard.publicKeys coins
  let signable := helloBytes (JsStr.join "," SUPPORTED_VERSIONS) sessionId initiator.entityId
    responderCard.entityId exchange.ephemeralPub (boundCiphertext exchange.kemCiphertext)
    (J.numberToString ts)
  let (classicalSig, pqcSig) ← signBoth J initiator exchange.kemCiphertext signable coins.signing
  return ([("type", .string "UXSP-HELLO"),
    ("supported_versions", .array (SUPPORTED_VERSIONS.map .string)),
    ("session_id", .string sessionId), ("initiator_id", .string initiator.entityId),
    ("responder_id", .string responderCard.entityId), ("timestamp", .number ts),
    ("ephemeral_pub", .string (JsStr.ofBytes exchange.ephemeralPub)),
    ("kem_ciphertext", .string (JsStr.ofBytes exchange.kemCiphertext)),
    ("classical_sig", .string classicalSig), ("pqc_sig", .string pqcSig)], exchange)

def HELLO_REQUIRED : List String :=
  ["type", "supported_versions", "session_id", "initiator_id", "responder_id", "timestamp",
    "ephemeral_pub", "kem_ciphertext", "classical_sig", "pqc_sig"]

/-- The versions a HELLO names; what is no array names none. -/
def versionsOf (hello : JsObject) : List JsVal :=
  match hello.get? "supported_versions" with
  | some (.array versions) => versions
  | _ => []

/-- The last of our versions that the peer has too. -/
def negotiate (J : JsPlatform) (versions : List JsVal) : Except JsErr JsStr := do
  let common := SUPPORTED_VERSIONS.filter fun v => versions.any fun w => JsVal.isStr (some w) v
  match common.getLast? with
  | some version => return version
  | none => .error (authError [.lit "No common protocol version supported. Peer supports: ",
      .str (JsStr.join "," (← J.strElements versions))])

/-- The bytes the signatures of a received HELLO must cover, with a ciphertext in its place. -/
def helloSignable (J : JsPlatform) (hello : JsObject) (ts : PyFloat) (kemCiphertext : Bytes) :
    Except JsErr Bytes := do
  let versions ← J.strElements (versionsOf hello)
  let sessionId ← J.str (← field hello "session_id")
  let initiatorId ← J.str (← field hello "initiator_id")
  let responderId ← J.str (← field hello "responder_id")
  let ephemeralPub ← decodeHex J.toJsRuntime (← field hello "ephemeral_pub")
  return helloBytes (JsStr.join "," versions) sessionId initiatorId responderId ephemeralPub
    kemCiphertext (J.numberToString ts)

/-- Check signatures and metadata of a HELLO: the negotiated version. -/
def verifyHelloSignature (J : JsPlatform) (hello : JsObject) (initiatorCard : JsPublicCard)
    (responder : JsIdentity) (now : ℚ) : Except JsErr JsStr := do
  requireFields "HelloMessage missing required field: " HELLO_REQUIRED hello
  requireType J hello "UXSP-HELLO"
  let ts ← checkTimestamp J hello now "Invalid timestamp in HelloMessage." fun age =>
    [.lit "HelloMessage is ", .str age, .lit "s old. Maximum allowed: 30s."]
  requireId hello "initiator_id" initiatorCard.entityId
    "HelloMessage initiator_id does not match initiator card."
  requireId hello "responder_id" responder.entityId
    "HelloMessage responder_id is not addressed to this responder."
  let version ← negotiate J (versionsOf hello)
  let kemCiphertext ← decodeHex J.toJsRuntime (← field hello "kem_ciphertext")
  let signable ← helloSignable J hello ts (boundCiphertext kemCiphertext)
  checkSignatures J hello kemCiphertext signable initiatorCard.publicKeys "Initiator"
  return version

def deriveHelloSecret (J : JsPlatform) (hello : JsObject) (responder : JsIdentity) :
    Except JsErr Bytes :=
  receiveExchange J hello responder

/-! ## ACK -/

/-- The bytes an ACK is signed over, with a ciphertext in its place. -/
def ackBytes (version sessionId responderId initiatorId proof : JsStr)
    (ephemeralPub kemCiphertext : Bytes) (ts : JsStr) : Bytes :=
  jsBindFields [.lit "UXSP-ACK", version.utf8, sessionId.utf8, responderId.utf8, initiatorId.utf8,
    proof.utf8, ephemeralPub, kemCiphertext, ts.utf8]

/-- The proof that the responder holds the initiator's half. -/
def responderProof (J : JsPlatform) (sharedSecretA : Bytes) (sessionId : JsVal) :
    Except JsErr JsStr := do
  let sid ← J.str sessionId
  return JsStr.ofBytes
    (← J.hmacSha256 sharedSecretA (JsStr.utf8 (sid ++ (":responder-proof" : JsStr))))

/-- Build the ACK of the responder. -/
def makeAck (J : JsPlatform) (responder : JsIdentity) (sessionId initiatorId : JsVal)
    (sharedSecretA : Bytes) (initiatorCard : JsPublicCard) (negotiatedVersion : JsStr) (now : ℚ)
    (coins : JsCoins) : Except JsErr (JsObject × JsExchange) := do
  let ts : PyFloat := .finite ⌊now⌋
  let exchange ← sendExchange J initiatorCard.publicKeys coins
  let proof ← responderProof J sharedSecretA sessionId
  let sid ← J.str sessionId
  let initiator ← J.str initiatorId
  let signable := ackBytes negotiatedVersion sid responder.entityId initiator proof
    exchange.ephemeralPub (boundCiphertext exchange.kemCiphertext) (J.numberToString ts)
  let (classicalSig, pqcSig) ← signBoth J responder exchange.kemCiphertext signable coins.signing
  return ([("type", .string "UXSP-ACK"), ("version", .string negotiatedVersion),
    ("session_id", sessionId), ("responder_id", .string responder.entityId),
    ("initiator_id", initiatorId), ("timestamp", .number ts), ("proof", .string proof),
    ("ephemeral_pub", .string (JsStr.ofBytes exchange.ephemeralPub)),
    ("kem_ciphertext", .string (JsStr.ofBytes exchange.kemCiphertext)),
    ("classical_sig", .string classicalSig), ("pqc_sig", .string pqcSig)], exchange)

def ACK_REQUIRED : List String :=
  ["type", "version", "session_id", "responder_id", "initiator_id", "timestamp", "proof",
    "ephemeral_pub", "kem_ciphertext", "classical_sig", "pqc_sig"]

/-- The bytes the signatures of a received ACK must cover, with a ciphertext in its place. -/
def ackSignable (J : JsPlatform) (ack : JsObject) (ts : PyFloat) (kemCiphertext : Bytes) :
    Except JsErr Bytes := do
  let version ← J.str (← field ack "version")
  let sessionId ← J.str (← field ack "session_id")
  let responderId ← J.str (← field ack "responder_id")
  let initiatorId ← J.str (← field ack "initiator_id")
  let proof ← J.str (← field ack "proof")
  let ephemeralPub ← decodeHex J.toJsRuntime (← field ack "ephemeral_pub")
  return ackBytes version sessionId responderId initiatorId proof ephemeralPub kemCiphertext
    (J.numberToString ts)

/-- Check signatures and metadata of an ACK. -/
def verifyAckSignature (J : JsPlatform) (ack : JsObject) (responderCard : JsPublicCard) (now : ℚ) :
    Except JsErr Unit := do
  requireFields "AckMessage missing required field: " ACK_REQUIRED ack
  requireType J ack "UXSP-ACK"
  let ts ← checkTimestamp J ack now "Invalid timestamp in AckMessage." fun age =>
    [.lit "AckMessage age ", .str age, .lit "s is out of bounds. Maximum: 30s."]
  let kemCiphertext ← decodeHex J.toJsRuntime (← field ack "kem_ciphertext")
  let signable ← ackSignable J ack ts (boundCiphertext kemCiphertext)
  checkSignatures J ack kemCiphertext signable responderCard.publicKeys "Responder"

/-- `constantTimeEqual(v, s)`: a value that is no string is compared by its elements. -/
def constantTimeEqual (J : JsPlatform) (v : JsVal) (s : JsStr) : Except JsErr Bool :=
  match v with
  | .string t => .ok (t.utf8 == s.utf8)
  | .null => .error ⟨.typeError, [.lit "Cannot read properties of null (reading 'length')"]⟩
  | .bool _ | .number _ => .ok false
  | .array xs =>
      if xs.length ≠ s.utf8.length then .ok false
      else do return (← xs.mapM J.int32) == s.utf8.map fun x => (x.toNat : ℤ)
  | .object fields =>
      match JsObject.get? fields "length" with
      | some (.number x) =>
          if x ≠ .finite s.utf8.length then .ok false
          else do
            let xs ← (List.range s.utf8.length).mapM fun (i : ℕ) =>
              match JsObject.get? fields (JsStr.ofStr (Str.ofInt i)) with
              | some x => J.int32 x
              | none => .ok 0
            return xs == s.utf8.map fun x => (x.toNat : ℤ)
      | _ => .ok false

/-- Check the proof and recover the responder's half of the secret. -/
def deriveAckSecret (J : JsPlatform) (ack : JsObject) (sharedSecretA : Bytes)
    (initiator : JsIdentity) : Except JsErr Bytes := do
  let expectedProof ← responderProof J sharedSecretA (← field ack "session_id")
  let proofOk ← constantTimeEqual J (← field ack "proof") expectedProof
  jsEnsure proofOk ⟨.handshakeProofError,
    [.lit "Shared secret proof mismatch. Possible man-in-the-middle attack."]⟩
  receiveExchange J ack initiator

/-- Both halves of the secret, bound to the session and the two parties. -/
def finalSharedSecret (J : JsPlatform) (sharedSecretA sharedSecretB : Bytes)
    (sessionId initiatorId responderId : JsStr) : Except JsErr Bytes :=
  J.hkdf (sharedSecretA ++ sharedSecretB) []
    (JsStr.utf8 (("UXSP-final-session-key:" : JsStr) ++ sessionId ++ (":" : JsStr) ++ initiatorId ++
      (":" : JsStr) ++ responderId)) 32

/-! ## `respond` -/

/-- `String(hello?.session_id || "")`. -/
def sessionIdOf (J : JsPlatform) (hello : JsObject) : Except JsErr JsStr :=
  match hello.get? "session_id" with
  | some v => if v.truthy then J.str v else .ok []
  | none => .ok []

/-- The checks of `respond` before the nonce store is asked: the nonce and the version. -/
def respondCheck (J : JsPlatform) (responder : JsIdentity) (hello : JsObject)
    (initiatorCard : JsPublicCard) (now : ℚ) : Except JsErr (JsStr × JsStr) := do
  let sessionId ← sessionIdOf J hello
  jsEnsure (!sessionId.isEmpty)
    (authError [.lit "Invalid or missing session_id in HelloMessage."])
  let version ← verifyHelloSignature J hello initiatorCard responder now
  let nonce ← J.str (← field hello "session_id")
  return (("hello:" : JsStr) ++ nonce, version)

/-- The rest of `respond`: the ACK and the active session. -/
def respondFinish (J : JsPlatform) (responder : JsIdentity) (hello : JsObject)
    (initiatorCard : JsPublicCard) (version : JsStr) (config : Option JsSessionConfig) (now : ℚ)
    (coins : JsCoins) : Except JsErr (JsObject × JsSession) := do
  let sharedSecretA ← deriveHelloSecret J hello responder
  let sessionId ← field hello "session_id"
  let initiatorId ← field hello "initiator_id"
  let (ack, exchange) ← makeAck J responder sessionId initiatorId sharedSecretA initiatorCard
    version now coins
  let final ← finalSharedSecret J sharedSecretA exchange.sharedKey (← J.str sessionId)
    (← J.str initiatorId) responder.entityId
  let session ← JsSession.init J sessionId responder.entityId initiatorId final false
    (config.getD .default) now
  return (ack, ← session.activate)

/-- Process a HELLO as the responder: the ACK and the session. -/
def respond (J : JsPlatform) (S : JsNonceStore) (store : S.State) (responder : JsIdentity)
    (hello : JsObject) (initiatorCard : JsPublicCard) (config : Option JsSessionConfig)
    (now after : ℚ) (coins : JsCoins) : Except JsErr (JsObject × JsSession) × S.State :=
  match respondCheck J responder hello initiatorCard now with
  | .error e => (.error e, store)
  | .ok (nonce, version) =>
      match S.markUsed store nonce NONCE_TTL after with
      | (.error e, store) => (.error e, store)
      | (.ok false, store) => (.error ⟨.handshakeExpiredError,
          [.lit "Replay attack detected: hello message already processed."]⟩, store)
      | (.ok true, store) =>
          (respondFinish J responder hello initiatorCard version config after coins, store)

end JsHandshake

/-! ## The handshake object -/

/-- What `initiate` leaves for `complete`; `new Handshake()` has nothing in it. -/
structure JsHandshake where
  helloMsg : Option JsObject
  exchange : Option JsExchange
  sessionId : Option JsStr
  config : Option JsSessionConfig
  initiator : Option JsIdentity

namespace JsHandshake

/-- Start a handshake as the initiating party. -/
def initiate (J : JsPlatform) (initiator : JsIdentity) (responderCard : JsPublicCard)
    (config : Option JsSessionConfig) (uuid : Uuid4) (now : ℚ) (coins : JsCoins) :
    Except JsErr JsHandshake := do
  let sessionId := JsStr.ofStr uuid.str
  let (hello, exchange) ← makeHello J initiator responderCard sessionId now coins
  return {
    helloMsg := hello
    exchange := exchange
    sessionId := sessionId
    config := config.getD .default
    initiator := initiator }

/-- What `complete` needs of the handshake, set by `initiate`. -/
structure Pending where
  initiator : JsIdentity
  sessionId : JsStr
  exchange : JsExchange
  config : JsSessionConfig

def pending (hs : JsHandshake) : Except JsErr Pending :=
  match hs.helloMsg, hs.initiator, hs.sessionId, hs.exchange with
  | some _, some initiator, some (u :: sessionId), some exchange =>
      .ok ⟨initiator, u :: sessionId, exchange, hs.config.getD .default⟩
  | _, _, _, _ => .error ⟨.handshakeError, [.lit "complete() called before initiate()."]⟩

/-- The checks of `complete` before the nonce store is asked: the nonce. -/
def completeCheck (J : JsPlatform) (pending : Pending) (ack : JsObject)
    (responderCard : JsPublicCard) (now : ℚ) : Except JsErr JsStr := do
  verifyAckSignature J ack responderCard now
  requireId ack "session_id" pending.sessionId
    "AckMessage session_id does not match pending handshake."
  requireId ack "initiator_id" pending.initiator.entityId
    "AckMessage initiator_id does not match this initiator."
  requireId ack "responder_id" responderCard.entityId
    "AckMessage responder_id does not match responder card."
  let nonce ← J.str (← field ack "session_id")
  return ("ack:" : JsStr) ++ nonce

/-- The rest of `complete`: the active session. -/
def completeFinish (J : JsPlatform) (pending : Pending) (ack : JsObject)
    (responderCard : JsPublicCard) (now : ℚ) : Except JsErr JsSession := do
  let sharedSecretA := pending.exchange.sharedKey
  let sharedSecretB ← deriveAckSecret J ack sharedSecretA pending.initiator
  let final ← finalSharedSecret J sharedSecretA sharedSecretB pending.sessionId
    pending.initiator.entityId responderCard.entityId
  let session ← JsSession.init J (.string pending.sessionId) pending.initiator.entityId
    (.string responderCard.entityId) final true pending.config now
  session.activate

/-- Finalise the handshake as the initiating party: the session. -/
def complete (J : JsPlatform) (S : JsNonceStore) (store : S.State) (hs : JsHandshake)
    (ack : JsObject) (responderCard : JsPublicCard) (now after : ℚ) :
    Except JsErr JsSession × S.State :=
  match hs.pending with
  | .error e => (.error e, store)
  | .ok pending =>
      match completeCheck J pending ack responderCard now with
      | .error e => (.error e, store)
      | .ok nonce =>
          match S.markUsed store nonce NONCE_TTL after with
          | (.error e, store) => (.error e, store)
          | (.ok false, store) => (.error ⟨.handshakeExpiredError,
              [.lit "Replay attack detected: ack message already processed."]⟩, store)
          | (.ok true, store) => (completeFinish J pending ack responderCard after, store)

end JsHandshake

end Uxsp
