import Uxsp.Core.IdentitySeal
import Uxsp.Python.Uuid

/-!
# `uxsp.core.signing`: signed cards and revocation lists

A trust anchor signs cards and certificate revocation lists.  What it signs is put together by
`cardSignable` and `crlSignable`.
-/

namespace Uxsp

/-! ## Cards -/

/-- The whole of a public card. -/
structure CardRecord extends Card where
  name : Str
  role : Str
  createdAt : Str
  revokedAt : Option Str
  keyVersion : ℤ

/-- The canonical bytes that are signed when a card is issued. -/
def cardSignable (R : Runtime) (card : CardRecord) (notBefore notAfter : ℤ) (certId : Str) :
    Except PyErr Bytes := do
  let entityId ← card.entityId.utf8
  let name ← card.name.utf8
  let role ← card.role.utf8
  let createdAt ← card.createdAt.utf8
  let keyVersion ← timestampBytes R card.keyVersion
  let notBefore ← timestampBytes R notBefore
  let notAfter ← timestampBytes R notAfter
  let certId ← certId.utf8
  bindFields [entityId, name, role, createdAt, card.publicKeys.exchangePub, card.publicKeys.kemPub,
    card.publicKeys.signingPub, card.publicKeys.pqcSigPub, keyVersion, notBefore, notAfter, certId]

theorem cardSignable_eq_ok {R : Runtime} {card : CardRecord} {notBefore notAfter : ℤ}
    {certId : Str} {b : Bytes} :
    cardSignable R card notBefore notAfter certId = .ok b ↔
      ∃ entityId name role createdAt keyVersion from' until' cert,
        card.entityId.encode = some entityId ∧ card.name.encode = some name ∧
        card.role.encode = some role ∧ card.createdAt.encode = some createdAt ∧
        timestampBytes R card.keyVersion = .ok keyVersion ∧
        timestampBytes R notBefore = .ok from' ∧ timestampBytes R notAfter = .ok until' ∧
        certId.encode = some cert ∧
        bindFields [entityId, name, role, createdAt, card.publicKeys.exchangePub,
          card.publicKeys.kemPub, card.publicKeys.signingPub, card.publicKeys.pqcSigPub, keyVersion,
          from', until', cert] = .ok b := by
  simp only [cardSignable, bind_eq_ok, Str.utf8_eq_ok]
  constructor
  · rintro ⟨e, he, n, hn, r, hr, c, hc, k, hk, f, hf, u, hu, i, hi, bound⟩
    exact ⟨e, n, r, c, k, f, u, i, he, hn, hr, hc, hk, hf, hu, hi, bound⟩
  · rintro ⟨e, n, r, c, k, f, u, i, he, hn, hr, hc, hk, hf, hu, hi, bound⟩
    exact ⟨e, he, n, hn, r, hr, c, hc, k, hk, f, hf, u, hu, i, hi, bound⟩

/-- A card with the signature of an anchor. -/
structure SignedCard where
  card : CardRecord
  certId : Str
  issuerId : Str
  issuerName : Str
  notBefore : ℤ
  notAfter : ℤ
  classicalSig : Bytes
  pqcSig : Bytes

namespace SignedCard

def signable (R : Runtime) (sc : SignedCard) : Except PyErr Bytes :=
  cardSignable R sc.card sc.notBefore sc.notAfter sc.certId

/-- `check_time_validity(t)`. -/
def checkTimeValidity (R : Runtime) (sc : SignedCard) (t : ℤ) : Except PyErr Unit := do
  ensure (sc.notBefore ≤ t) (R.err .cardNotYetValidError ["SignedCard for '", .str sc.card.name,
    "' is not yet valid. Valid from ", .int sc.notBefore, ", current time ", .int t, "."])
  ensure (t ≤ sc.notAfter) (R.err .expiredCardError ["SignedCard for '", .str sc.card.name,
    "' expired at ", .int sc.notAfter, ". Current time ", .int t,
    ". Request a new card from the issuer."])

end SignedCard

/-! ## Revocation lists -/

/-- One entry of a revocation list: the certificate, its date and the reason. -/
structure CrlEntry where
  certId : Str
  date : ℤ
  reason : Str
  deriving DecidableEq

/-- `f"{cert_id}:{rev_date}:{reason}"`. -/
def CrlEntry.text (R : Runtime) (e : CrlEntry) : Except PyErr Str := do
  let date ← R.str (.int e.date)
  return e.certId ++ (":" : Str) ++ date ++ (":" : Str) ++ e.reason

def byCertId (a b : CrlEntry) : Prop := a.certId ≤ b.certId

instance : DecidableRel byCertId := fun a b => inferInstanceAs (Decidable (a.certId ≤ b.certId))

/-- The canonical bytes that are signed when a revocation list is issued. -/
def crlSignable (R : Runtime) (issuerId : Str) (crlNumber issuedAt : ℤ) (entries : List CrlEntry) :
    Except PyErr Bytes := do
  let entriesBytes ← (entries.insertionSort byCertId).mapM fun e => do (← e.text R).utf8
  let issuerId ← issuerId.utf8
  let crlNumber ← timestampBytes R crlNumber
  let issuedAt ← timestampBytes R issuedAt
  bindFields ([.lit "UXSP-CRL-1", issuerId, crlNumber, issuedAt] ++ entriesBytes)

/-- No colon is printed in an integer. -/
theorem colon_notMem_ofInt (n : ℤ) : CodePoint.ofChar ':' ∉ Str.ofInt n := by
  have digits : ∀ k : ℕ, ':' ∉ Nat.toDigits 10 k := by
    intro k mem
    have digit := Nat.isDigit_of_mem_toDigits (by decide) (by decide) mem
    cases digit
  intro mem
  rw [Str.ofInt, Str.ofString, Int.repr_eq_if] at mem
  obtain ⟨c, mem, same⟩ := List.mem_map.mp mem
  obtain rfl := CodePoint.ofChar_injective same
  split at mem
  · rw [Nat.toList_repr] at mem
    exact digits _ mem
  · rw [String.toList_append, Nat.toList_repr] at mem
    rcases List.mem_append.mp mem with sign | mem
    · exact absurd sign (by decide)
    · exact digits _ mem

/-- The line of an entry. -/
def CrlEntry.line (e : CrlEntry) : Str :=
  e.certId ++ (":" : Str) ++ Str.ofInt e.date ++ (":" : Str) ++ e.reason

/-- The line of an entry, as bytes. -/
def CrlEntry.Encodes (e : CrlEntry) (t : Bytes) : Prop :=
  Str.printable e.date ∧ e.line.encode = some t

theorem CrlEntry.text_utf8_eq_ok {R : Runtime} {e : CrlEntry} {t : Bytes} :
    (do (← e.text R).utf8) = .ok t ↔ e.Encodes t := by
  simp only [CrlEntry.text, bind_eq_ok, R.str_int_eq_ok, pure_eq_ok, Str.utf8_eq_ok]
  constructor
  · rintro ⟨_, ⟨_, ⟨short, rfl⟩, rfl⟩, encoded⟩
    exact ⟨short, encoded⟩
  · intro encodes
    exact ⟨_, ⟨_, ⟨encodes.1, rfl⟩, rfl⟩, encodes.2⟩

theorem crlSignable_eq_ok {R : Runtime} {issuerId : Str} {crlNumber issuedAt : ℤ}
    {entries : List CrlEntry} {b : Bytes} :
    crlSignable R issuerId crlNumber issuedAt entries = .ok b ↔ ∃ lines issuer number issued,
      List.Forall₂ CrlEntry.Encodes (entries.insertionSort byCertId) lines ∧
      issuerId.encode = some issuer ∧ timestampBytes R crlNumber = .ok number ∧
      timestampBytes R issuedAt = .ok issued ∧
      bindFields ([.lit "UXSP-CRL-1", issuer, number, issued] ++ lines) = .ok b := by
  simp only [crlSignable, bind_eq_ok, Str.utf8_eq_ok, mapM_eq_ok]
  constructor
  · rintro ⟨lines, written, issuer, hi, number, hn, issued, ha, bound⟩
    refine ⟨lines, issuer, number, issued, written.imp fun e t same => ?_, hi, hn, ha, bound⟩
    exact CrlEntry.text_utf8_eq_ok.mp (bind_eq_ok.mpr (by simpa only [Str.utf8_eq_ok] using same))
  · rintro ⟨lines, issuer, number, issued, written, hi, hn, ha, bound⟩
    refine ⟨lines, written.imp fun e t encodes => ?_, issuer, hi, number, hn, issued, ha, bound⟩
    have same := CrlEntry.text_utf8_eq_ok (R := R).mpr encodes
    simpa only [bind_eq_ok, Str.utf8_eq_ok] using same

/-- A signed list of revoked certificates. -/
structure CertificateRevocationList where
  issuerId : Str
  issuerName : Str
  crlNumber : ℤ
  issuedAt : ℤ
  revokedCerts : Dict
  classicalSig : Bytes
  pqcSig : Bytes
  /-- A dict has one entry for a key. -/
  keyed : (revokedCerts.map Prod.fst).Nodup

/-- `info.get(key, default)`. -/
def infoGet (info : Val) (key : Str) (default : Val) : Except PyErr Val :=
  match info with
  | .dict d => .ok ((Dict.get? d key).getD default)
  | v => .error ⟨.attributeError, ["'", v.typeName, "' object has no attribute 'get'"]⟩

namespace CertificateRevocationList

/-- What one entry of `revoked_certs` says. -/
def entry (R : Runtime) (issuedAt : ℤ) (item : Str × Val) : Except PyErr CrlEntry := do
  let date ← R.int (← infoGet item.2 "revocation_date" (.int issuedAt))
  let reason ← R.str (← infoGet item.2 "reason" (.str "unspecified"))
  return ⟨item.1, date, reason⟩

def entries (R : Runtime) (crl : CertificateRevocationList) : Except PyErr (List CrlEntry) :=
  crl.revokedCerts.mapM (entry R crl.issuedAt)

def signable (R : Runtime) (crl : CertificateRevocationList) : Except PyErr Bytes := do
  let entries ← crl.entries R
  crlSignable R crl.issuerId crl.crlNumber crl.issuedAt entries

/-- Verify a revocation list against the public keys of an anchor. -/
def verify (P : Platform) (crl : CertificateRevocationList) (anchor : PublicKeys) :
    Except PyErr Unit := do
  let signable ← crl.signable P.toRuntime
  let ok ← catching [.envelopeValidationError] (fun e => ⟨.invalidCardSignatureError,
      [.lit "Signature on CRL from '", .str crl.issuerName, .lit "' is malformed: "] ++ e.msg⟩)
    (hybridVerify P signable (.str crl.classicalSig.hex) (.str crl.pqcSig.hex) anchor)
  ensure ok (P.err .invalidCardSignatureError ["Signature on CRL #", .int crl.crlNumber, " from '",
    .str crl.issuerName, "' does not verify."])

end CertificateRevocationList

/-! ## Anchors -/

/-- The public side of an anchor. -/
structure PublicAnchor where
  anchorId : Str
  name : Str
  publicKeys : PublicKeys
  createdAt : Str

/-- An identity that issues cards. -/
structure TrustAnchor (P : Platform) extends Identity P where
  name : Str
  createdAt : Str

namespace TrustAnchor

variable {P : Platform}

def publicAnchor (anchor : TrustAnchor P) : PublicAnchor where
  anchorId := anchor.entityId
  name := anchor.name
  publicKeys := extractPublicKeys anchor.keypair
  createdAt := anchor.createdAt

/-- Sign a card for some days from `notBefore` on. -/
def issue (anchor : TrustAnchor P) (card : CardRecord) (validityDays notBefore : ℤ) (uuid : Uuid4)
    (coins : Urandom 32) : Except PyErr SignedCard := do
  ensure (0 < validityDays) ⟨.valueError, ["validity_days must be positive"]⟩
  ensure (validityDays ≤ 730) ⟨.valueError, ["validity_days cannot exceed 730 (2 years)"]⟩
  let notAfter := notBefore + validityDays * 86400
  let signable ← cardSignable P.toRuntime card notBefore notAfter uuid.str
  let sigs ← hybridSign P signable anchor.keypair coins
  let classicalSig ← fromHexVal (.str sigs.classicalSig)
  let pqcSig ← fromHexVal (.str sigs.pqcSig)
  return {
    card := card
    certId := uuid.str
    issuerId := anchor.entityId
    issuerName := anchor.name
    notBefore := notBefore
    notAfter := notAfter
    classicalSig := classicalSig
    pqcSig := pqcSig }

end TrustAnchor

end Uxsp
