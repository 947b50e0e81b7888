import Uxsp.Js.Handshake
import Uxsp.Lib.Assoc

/-!
# `trustAnchor.ts`

Signed cards and the trust store of the JavaScript SDK.  `verify` reads the store before it waits
for Web Crypto and not after.  `addCRL` takes a revocation list as it is: it does not call the
list's own `verify`.
-/

namespace Uxsp

/-- The whole of a public card; `keyVersion` may be left out. -/
structure JsCardRecord extends JsPublicCard where
  name : JsStr
  role : JsStr
  createdAt : JsStr
  keyVersion : Option PyFloat

/-- A card with the signature of an anchor, both signatures in hex; the second may be missing. -/
structure JsSignedCard where
  card : JsCardRecord
  certId : JsStr
  issuerId : JsStr
  issuerName : JsStr
  notBefore : PyFloat
  notAfter : PyFloat
  classicalSig : JsStr
  pqcSig : Option JsStr

/-- `x || 1`. -/
def PyFloat.orOne : Option PyFloat → PyFloat
  | none | some .nan => .finite 1
  | some x => if x = .finite 0 then .finite 1 else x

def jsCardSignable (R : JsRuntime) (card : JsCardRecord) (notBefore notAfter : PyFloat)
    (certId : JsStr) : Except JsErr Bytes := do
  let exchangePub ← decodeBase64 card.publicKeys.exchangePub
  let kemPub ← decodeBase64 card.publicKeys.kemPub
  let signingPub ← decodeBase64 card.publicKeys.signingPub
  let pqcSigPub ← decodeBase64 card.publicKeys.pqcSigPub
  return jsBindFields [card.entityId.utf8, card.name.utf8, card.role.utf8, card.createdAt.utf8,
    exchangePub, kemPub, signingPub, pqcSigPub,
    JsStr.utf8 (R.numberToString (PyFloat.orOne card.keyVersion)),
    JsStr.utf8 (R.numberToString notBefore), JsStr.utf8 (R.numberToString notAfter), certId.utf8]

namespace JsSignedCard

/-- `checkTimeValidity(t)`. -/
def checkTimeValidity (R : JsRuntime) (sc : JsSignedCard) (t : PyFloat) : Except JsErr Unit := do
  jsEnsure (!t.lt sc.notBefore) ⟨.cardNotYetValidError, [.lit "SignedCard for '",
    .str sc.card.name, .lit "' is not yet valid (valid from ", .str (R.numberToString sc.notBefore),
    .lit ", current ", .str (R.numberToString t), .lit ")."]⟩
  jsEnsure (!sc.notAfter.lt t) ⟨.expiredCardError, [.lit "SignedCard for '", .str sc.card.name,
    .lit "' expired at ", .str (R.numberToString sc.notAfter), .lit " (current ",
    .str (R.numberToString t), .lit ")."]⟩

/-- Verify a second signature that is there and not empty. -/
def checkPqcSig (J : JsPlatform) (sc : JsSignedCard) (anchor : JsPublicKeys) (signable : Bytes) :
    Except JsErr Unit :=
  match sc.pqcSig with
  | none | some [] => .ok ()
  | some hex => do
      let signature ← decodeHex J.toJsRuntime (.string hex)
      if 0 < signature.length then
        let pqcValid ← J.verifyMLDSA anchor.pqcSigPub signature signable
        jsEnsure pqcValid ⟨.invalidCardSignatureError,
          [.lit "SignedCard PQC signature verification failed."]⟩
      else return ()

end JsSignedCard

structure JsPublicAnchor where
  anchorId : JsStr
  publicKeys : JsPublicKeys

/-- A revocation list: what it says of each certificate. -/
structure JsCertificateRevocationList where
  revokedCerts : List (JsStr × JsVal)

/-- The two `Map`s. -/
structure JsTrustStore where
  anchors : List (JsStr × JsPublicAnchor)
  revokedCerts : List (JsStr × JsVal)

namespace JsTrustStore

def empty : JsTrustStore := ⟨[], []⟩

def add (store : JsTrustStore) (anchor : JsPublicAnchor) : JsTrustStore :=
  { store with anchors := Assoc.set store.anchors anchor.anchorId anchor }

def remove (store : JsTrustStore) (anchorId : JsStr) : JsTrustStore :=
  { store with anchors := Assoc.erase store.anchors anchorId }

/-- Revoke a certificate; without a date it is revoked now. -/
def revoke (store : JsTrustStore) (certId reason : JsStr) (revocationDate : Option PyFloat)
    (now : ℚ) : JsTrustStore :=
  { store with
    revokedCerts := Assoc.set store.revokedCerts certId (.object
      [("revocation_date", .number (revocationDate.getD (.finite ⌊now⌋))),
        ("reason", .string reason)]) }

def isRevoked (store : JsTrustStore) (certId : JsStr) : Bool :=
  (store.revokedCerts.lookup certId).isSome

/-- `addCRL`. -/
def addCrl (store : JsTrustStore) (crl : JsCertificateRevocationList) : JsTrustStore :=
  { store with revokedCerts := Assoc.update store.revokedCerts crl.revokedCerts }

/-- The anchor that issued a card. -/
def issuerOf (store : JsTrustStore) (sc : JsSignedCard) : Except JsErr JsPublicAnchor :=
  match store.anchors.lookup sc.issuerId with
  | some anchor => .ok anchor
  | none => .error ⟨.untrustedCardError, [.lit "SignedCard issuer '", .str sc.issuerId,
      .lit "' (", .str sc.issuerName, .lit ") is not in trust store."]⟩

/-- An expected id that is not empty is that of the card. -/
def expects (sc : JsSignedCard) : Option JsStr → Bool
  | none | some [] => true
  | some id => sc.card.entityId == id

/-- Verify a signed card; `now` is the override or the clock, in seconds. -/
def verify (J : JsPlatform) (store : JsTrustStore) (sc : JsSignedCard)
    (expectedEntityId : Option JsStr) (now : PyFloat) : Except JsErr Bool := do
  let anchor ← store.issuerOf sc
  jsEnsure (!store.isRevoked sc.certId) ⟨.revokedCardError,
    [.lit "SignedCard cert '", .str sc.certId, .lit "' has been revoked."]⟩
  sc.checkTimeValidity J.toJsRuntime now
  jsEnsure (expects sc expectedEntityId) ⟨.signingError,
    [.lit "SignedCard entity_id mismatch: expected '", .str (expectedEntityId.getD []),
      .lit "', got '", .str sc.card.entityId, .lit "'"]⟩
  let signable ← jsCardSignable J.toJsRuntime sc.card sc.notBefore sc.notAfter sc.certId
  let classicalSig ← decodeHex J.toJsRuntime (.string sc.classicalSig)
  let classicalValid ← J.verifyEd25519 anchor.publicKeys.signingPub classicalSig signable
  jsEnsure classicalValid ⟨.invalidCardSignatureError,
    [.lit "SignedCard classical signature verification failed."]⟩
  sc.checkPqcSig J anchor.publicKeys signable
  return true

end JsTrustStore

end Uxsp
