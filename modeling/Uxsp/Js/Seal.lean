import Uxsp.Js.Handshake
import Uxsp.Lib.Assoc

/-!
# `seal.ts`

Sealed envelopes of the JavaScript SDK.  `openSeal` waits for Web Crypto twice: `openBegin` is what
it does before the signatures are verified, `verify` their verification, `commitNonce` what it
remembers when they are valid, and `decrypt` the rest, in which nothing shared is read or written.
A clock is `Date.now()`, in milliseconds.
-/

namespace Uxsp

/-! ## `seal` -/

/-- The random bytes of one envelope. -/
structure JsSealCoins where
  exchange : JsCoins
  nonce : Urandom NONCE_SIZE
  envelopeNonce : Urandom 32

/-- What both signatures of an envelope cover. -/
def sealPayload (ciphertext nonce : Bytes) (senderId recipientId timestamp envelopeNonce : JsStr)
    (ephemeralPub kemCiphertext : Bytes) : Bytes :=
  jsBindFields [.lit "UXSP-1", ciphertext, nonce, senderId.utf8, recipientId.utf8, timestamp.utf8,
    envelopeNonce.utf8, ephemeralPub, kemCiphertext]

/-- `Math.floor(Date.now() / 1000)`. -/
def unixSeconds (now : ℤ) : ℤ := now / 1000

/-- With ML-KEM and ML-DSA, or a note that there are none. -/
def pqcFields (kemCiphertext : Bytes) (pqcSig : JsStr) : JsObject :=
  if JsHandshake.isPqcStubbed kemCiphertext then [("pqc_mode", .string "none")]
  else [("kem_ciphertext", .string (JsStr.ofBytes kemCiphertext)), ("pqc_sig", .string pqcSig)]

/-- What `seal` puts together. -/
def sealObject (sender : JsIdentity) (recipientCard : JsPublicCard) (timestamp : PyFloat)
    (envelopeNonce : JsStr) (ciphertext nonce : Bytes) (exchange : JsExchange)
    (classicalSig pqcSig : JsStr) : JsObject :=
  ([("version", .string "UXSP-1"), ("sender_id", .string sender.entityId),
    ("recipient_id", .string recipientCard.entityId), ("timestamp", .number timestamp),
    ("envelope_nonce", .string envelopeNonce), ("ciphertext", .string (JsStr.ofBytes ciphertext)),
    ("nonce", .string (JsStr.ofBytes nonce)),
    ("ephemeral_pub", .string (JsStr.ofBytes exchange.ephemeralPub)),
    ("classical_sig", .string classicalSig)] : JsObject) ++ pqcFields exchange.kemCiphertext pqcSig

def JsIdentity.seal (J : JsPlatform) (sender : JsIdentity) (recipientCard : JsPublicCard)
    (plaintext associatedData : Bytes) (now : ℤ) (coins : JsSealCoins) :
    Except JsErr JsObject := do
  let timestamp : PyFloat := .finite (unixSeconds now)
  let exchange ← JsHandshake.sendExchange J recipientCard.publicKeys coins.exchange
  let ciphertext ← J.aesGcmEncrypt exchange.sharedKey coins.nonce plaintext associatedData
  let envelopeNonce := JsStr.ofBytes coins.envelopeNonce
  let payload := sealPayload ciphertext coins.nonce sender.entityId recipientCard.entityId
    (J.numberToString timestamp) envelopeNonce exchange.ephemeralPub
    (JsHandshake.boundCiphertext exchange.kemCiphertext)
  let (classicalSig, pqcSig) ←
    JsHandshake.signBoth J sender exchange.kemCiphertext payload coins.exchange.signing
  return sealObject sender recipientCard timestamp envelopeNonce ciphertext coins.nonce exchange
    classicalSig pqcSig

/-! ## `openSeal` -/

/-- `seenNonces`, oldest entry first. -/
abbrev SeenNonces := List (JsStr × ℤ)

namespace JsSeal

def MAX_SEEN_NONCES : ℕ := 100000

def MAX_AGE_SECONDS : ℤ := 300

def CLOCK_SKEW_SECONDS : ℤ := 30

def NONCE_TTL_MS : ℤ := (MAX_AGE_SECONDS + CLOCK_SKEW_SECONDS) * 1000

/-- A call that passed the checks before the signatures, and what it has read. -/
structure Opening where
  receiver : JsIdentity
  senderKeys : JsPublicKeys
  associatedData : Bytes
  /-- `Date.now()` at the freshness check. -/
  now : ℤ
  timestamp : ℚ
  envelopeNonce : JsStr
  ciphertext : Bytes
  nonce : Bytes
  ephemeralPub : Bytes
  /-- Absent where `pqc_mode` is `"none"`. -/
  kemCiphertext : Option Bytes
  classicalSig : Bytes
  pqcSig : Option JsVal
  sigPayload : Bytes

def thrown (message : List JsPart) : JsErr := ⟨.error, message⟩

def replayError (J : JsPlatform) (age : PyFloat) : JsErr :=
  thrown [.lit "ReplayError: Envelope is ", .str (J.numberToString age),
    .lit "s old. Possible replay attack."]

def timestampError (J : JsPlatform) (ahead : PyFloat) : JsErr :=
  thrown [.lit "TimestampError: Envelope timestamp is ", .str (J.numberToString ahead),
    .lit "s in the future. Clock skew too large."]

/-- The age of an envelope at a reading of the clock, in seconds. -/
def ageAt (now : ℤ) (timestamp : ℚ) : ℚ := unixSeconds now - timestamp

/-- The timestamp is a number, not too old and not too far ahead. -/
def freshTimestamp (J : JsPlatform) (envelope : JsObject) (now : ℤ) : Except JsErr ℚ :=
  match envelope.get? "timestamp" with
  | some (.number (.finite timestamp)) => do
      let age := ageAt now timestamp
      jsEnsure (age ≤ MAX_AGE_SECONDS) (replayError J (.finite age))
      jsEnsure (-CLOCK_SKEW_SECONDS ≤ age) (timestampError J (.finite (-age)))
      return timestamp
  | some (.number (.inf true)) => .error (replayError J (.inf false))
  | some (.number (.inf false)) => .error (timestampError J (.inf false))
  | _ => .error (thrown
      [.lit "EnvelopeValidationError: Envelope timestamp must be a valid integer Unix timestamp."])

def checkNonce (envelope : JsObject) : Except JsErr JsStr :=
  match envelope.get? "envelope_nonce" with
  | some (.string (u :: s)) => .ok (u :: s)
  | _ => .error (thrown
      [.lit "EnvelopeValidationError: Envelope envelope_nonce must be a non-empty string."])

/-- `pqcMode === "none"`. -/
def isPqcStubbed (envelope : JsObject) : Bool := JsVal.isStr (envelope.get? "pqc_mode") "none"

/-- The ciphertext of ML-KEM, where the mode is not `"none"`. -/
def readKem (J : JsPlatform) (envelope : JsObject) : Except JsErr (Option Bytes) := do
  if isPqcStubbed envelope then return none
  else
    jsEnsure ((envelope.get? "kem_ciphertext").any JsVal.truthy) (thrown
      [.lit "Envelope is missing kem_ciphertext but is not in classical-only mode."])
    return some (← decodeHex J.toJsRuntime (← envelope.item "kem_ciphertext"))

/-- `openSeal` up to the verification of the signatures. -/
def openBegin (J : JsPlatform) (seen : SeenNonces) (receiver : JsIdentity)
    (senderCard : JsPublicCard) (envelope : JsObject) (associatedData : Bytes) (now : ℤ) :
    Except JsErr Opening := do
  jsEnsure (JsVal.isStr (envelope.get? "recipient_id") receiver.entityId)
    (thrown [.lit "Envelope is not addressed to this receiver."])
  jsEnsure (JsVal.isStr (envelope.get? "sender_id") senderCard.entityId)
    (thrown [.lit "Envelope sender_id does not match the provided senderCard."])
  let timestamp ← freshTimestamp J envelope now
  let envelopeNonce ← checkNonce envelope
  jsEnsure (seen.lookup envelopeNonce).isNone
    (thrown [.lit "ReplayError: Envelope replay detected"])
  let ciphertext ← decodeHex J.toJsRuntime (← envelope.item "ciphertext")
  let nonce ← decodeHex J.toJsRuntime (← envelope.item "nonce")
  jsEnsure (!(isPqcStubbed envelope && 32 < senderCard.publicKeys.pqcSigPub.length)) (thrown
    [.lit "Sender card advertises PQC capability but envelope specifies pqc_mode: 'none'"])
  let ephemeralPub ← decodeHex J.toJsRuntime (← envelope.item "ephemeral_pub")
  let kemCiphertext ← readKem J envelope
  let classicalSig ← decodeHex J.toJsRuntime (← envelope.item "classical_sig")
  return {
    receiver := receiver
    senderKeys := senderCard.publicKeys
    associatedData := associatedData
    now := now
    timestamp := timestamp
    envelopeNonce := envelopeNonce
    ciphertext := ciphertext
    nonce := nonce
    ephemeralPub := ephemeralPub
    kemCiphertext := kemCiphertext
    classicalSig := classicalSig
    pqcSig := envelope.get? "pqc_sig"
    sigPayload := sealPayload ciphertext nonce senderCard.entityId receiver.entityId
      (J.numberToString (.finite timestamp)) envelopeNonce ephemeralPub (kemCiphertext.getD []) }

/-- The signature of ML-DSA, where the mode is not `"none"`. -/
def Opening.verifyPqc (J : JsPlatform) (o : Opening) : Except JsErr Unit :=
  match o.kemCiphertext, o.pqcSig with
  | none, _ => .ok ()
  | some _, none => .error (thrown
      [.lit "Envelope is missing PQC signature but is not in classical-only mode."])
  | some _, some pqcSig => do
      jsEnsure pqcSig.truthy (thrown
        [.lit "Envelope is missing PQC signature but is not in classical-only mode."])
      let pqcValid ← J.verifyMLDSA o.senderKeys.pqcSigPub (← decodeHex J.toJsRuntime pqcSig)
        o.sigPayload
      jsEnsure pqcValid (thrown [.lit "PQC signature verification failed."])

def Opening.verify (J : JsPlatform) (o : Opening) : Except JsErr Unit := do
  let classicalValid ← J.verifyEd25519 o.senderKeys.signingPub o.classicalSig o.sigPayload
  jsEnsure classicalValid (thrown [.lit "Classical signature verification failed."])
  o.verifyPqc J

/-- The loop over the entries: it ends at the first that has not expired. -/
def evictExpired (seen : SeenNonces) (now : ℤ) : SeenNonces :=
  seen.dropWhile fun entry => NONCE_TTL_MS < now - entry.2

/-- The loop that deletes the oldest entries of a full map. -/
def evictOldest : SeenNonces → SeenNonces
  | [] => []
  | entry :: seen =>
      if MAX_SEEN_NONCES ≤ seen.length + 1 then evictOldest seen else entry :: seen

/-- `seenNonces` once the signatures are valid; an entry that is there keeps its place. -/
def commitNonce (seen : SeenNonces) (o : Opening) : SeenNonces :=
  Assoc.set (evictOldest (evictExpired seen o.now)) o.envelopeNonce o.now

/-- The secrets of an envelope before the key derivation. -/
def Opening.combinedSecret (J : JsPlatform) (o : Opening) : Except JsErr Bytes := do
  let sharedX25519 ←
    J.deriveSharedSecret o.receiver.exchange.privateKey (JsStr.encodeBase64 o.ephemeralPub)
  match o.kemCiphertext with
  | none => return sharedX25519
  | some kem => return sharedX25519 ++ (← J.decapsulateMLKEM kem o.receiver.kem.privateKey)

def Opening.decrypt (J : JsPlatform) (o : Opening) : Except JsErr Bytes := do
  let combined ← o.combinedSecret J
  let symmetricKey ← J.hkdf combined o.ephemeralPub JsHandshake.exchangeInfo 32
  J.aesGcmDecrypt symmetricKey o.nonce o.ciphertext o.associatedData

/-- `openSeal` with nothing in between. -/
def openSeal (J : JsPlatform) (seen : SeenNonces) (receiver : JsIdentity)
    (senderCard : JsPublicCard) (envelope : JsObject) (associatedData : Bytes) (now : ℤ) :
    Except JsErr Bytes × SeenNonces :=
  match openBegin J seen receiver senderCard envelope associatedData now with
  | .error e => (.error e, seen)
  | .ok o =>
      match o.verify J with
      | .error e => (.error e, seen)
      | .ok () => (o.decrypt J, commitNonce seen o)

end JsSeal

end Uxsp
