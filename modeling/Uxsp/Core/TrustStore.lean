import Uxsp.Core.Signing
import Uxsp.Lib.Assoc

/-!
# `uxsp.core.signing`: the trust store

A store has the anchors that are trusted and the certificates that are revoked.  A file holds the
store as `to_dict()`; `JsonFile` is what `json.load` makes of what `json.dumps` wrote.
-/

namespace Uxsp

variable {P : Platform}

/-! ## Anchors as dicts -/

/-- `{k: v.hex() for k, v in public_keys.items()}`. -/
def PublicKeys.toDict (keys : PublicKeys) : Dict :=
  [("exchange_pub", .str keys.exchangePub.hex), ("kem_pub", .str keys.kemPub.hex),
    ("signing_pub", .str keys.signingPub.hex), ("pqc_sig_pub", .str keys.pqcSigPub.hex)]

/-- `v.items()`. -/
def itemsOf : Val → Except PyErr Dict
  | .dict d => .ok d
  | v => .error ⟨.attributeError, ["'", v.typeName, "' object has no attribute 'items'"]⟩

/-- `for x in v`. -/
def elementsOf : Val → Except PyErr (List Val)
  | .list xs => .ok xs
  | .dict d => .ok (d.map fun item => .str item.1)
  | .str s => .ok (s.map fun c => .str [c])
  | v => .error ⟨.typeError, ["'", v.typeName, "' object is not iterable"]⟩

/-- `v[key]`. -/
def valItem (v : Val) (key : Str) : Except PyErr Val :=
  match v with
  | .dict d => Dict.item d key
  | w => .error ⟨.typeError, ["'", w.typeName, "' object is not subscriptable"]⟩

/-- What a field that is annotated as a string holds. -/
def strOf : Val → Except PyErr Str
  | .str s => .ok s
  | v => .error ⟨.typeError, ["expected str, got ", v.typeName]⟩

def strItem (v : Val) (key : Str) : Except PyErr Str := do strOf (← valItem v key)

namespace PublicAnchor

def toDict (anchor : PublicAnchor) : Dict :=
  [("anchor_id", .str anchor.anchorId), ("name", .str anchor.name),
    ("created_at", .str anchor.createdAt), ("public_keys", .dict anchor.publicKeys.toDict)]

def keyOf (decoded : List (Str × Bytes)) (name : Str) : Except PyErr Bytes :=
  match decoded.lookup name with
  | some b => .ok b
  | none => .error ⟨.keyError, [.str name]⟩

/-- The four keys of a decoded `public_keys`. -/
def keysOf (decoded : List (Str × Bytes)) : Except PyErr PublicKeys := do
  let exchangePub ← keyOf decoded "exchange_pub"
  let kemPub ← keyOf decoded "kem_pub"
  let signingPub ← keyOf decoded "signing_pub"
  let pqcSigPub ← keyOf decoded "pqc_sig_pub"
  return ⟨exchangePub, kemPub, signingPub, pqcSigPub⟩

def fromDict (v : Val) : Except PyErr PublicAnchor := do
  let anchorId ← strItem v "anchor_id"
  let name ← strItem v "name"
  let createdAt ← strItem v "created_at"
  let items ← itemsOf (← valItem v "public_keys")
  let decoded ← items.mapM fun item => do return (item.1, ← fromHexVal item.2)
  let publicKeys ← keysOf decoded
  return ⟨anchorId, name, publicKeys, createdAt⟩

end PublicAnchor

/-! ## The store -/

structure TrustStore where
  anchors : List (Str × PublicAnchor)
  revokedCerts : List (Str × Dict)
  /-- An anchor stands under its id. -/
  keyed : ∀ item ∈ anchors, item.1 = item.2.anchorId

namespace TrustStore

def empty : TrustStore := ⟨[], [], nofun⟩

theorem keyed_set {anchors : List (Str × PublicAnchor)}
    (keyed : ∀ item ∈ anchors, item.1 = item.2.anchorId) (anchor : PublicAnchor) :
    ∀ item ∈ Assoc.set anchors anchor.anchorId anchor, item.1 = item.2.anchorId := by
  intro item mem
  unfold Assoc.set at mem
  split at mem
  · obtain ⟨old, here, rfl⟩ := List.mem_map.mp mem
    split
    · rfl
    · exact keyed old here
  · rcases List.mem_append.mp mem with here | here
    · exact keyed item here
    · rw [List.mem_singleton.mp here]

/-- Add a trusted anchor. -/
def add (store : TrustStore) (anchor : PublicAnchor) : TrustStore :=
  { store with
    anchors := Assoc.set store.anchors anchor.anchorId anchor
    keyed := keyed_set store.keyed anchor }

/-- Remove an anchor. -/
def remove (store : TrustStore) (anchorId : Str) : TrustStore :=
  { store with
    anchors := Assoc.erase store.anchors anchorId
    keyed := fun item mem => store.keyed item (List.mem_of_mem_filter mem) }

/-- Revoke a certificate; without a date it is revoked now. -/
def revoke (store : TrustStore) (certId : Str) (reason revocationDate : Val) (now : ℚ) :
    TrustStore :=
  let date := if revocationDate.isNone then .int ⌊now⌋ else revocationDate
  { store with
    revokedCerts := Assoc.set store.revokedCerts certId
      [("revocation_date", date), ("reason", reason)] }

/-- Remove a certificate from the revocation registry. -/
def unrevoke (store : TrustStore) (certId : Str) : TrustStore :=
  { store with revokedCerts := Assoc.erase store.revokedCerts certId }

def isRevoked (store : TrustStore) (certId : Str) : Bool := (store.revokedCerts.lookup certId).isSome

/-- `dict(info)` of an entry that has been read as a dict. -/
def infoDict : Val → Dict
  | .dict d => d
  | _ => []

/-- Incorporate a revocation list after verifying it. -/
def addCrl (P : Platform) (store : TrustStore) (crl : CertificateRevocationList) :
    Except PyErr Unit × TrustStore :=
  match store.anchors.lookup crl.issuerId with
  | none => (.error ⟨.untrustedCardError, ["CRL issuer '", .str (crl.issuerId.take 8), "...' (",
      .repr (.str crl.issuerName), ") is not in the trust store."]⟩, store)
  | some anchor =>
      match crl.verify P anchor.publicKeys with
      | .error e => (.error e, store)
      | .ok () =>
          (.ok (), { store with
            revokedCerts := Assoc.update store.revokedCerts
              (crl.revokedCerts.map fun item => (item.1, infoDict item.2)) })

/-- Why a certificate is revoked. -/
def revocationReason (store : TrustStore) (certId : Str) : Val :=
  match store.revokedCerts.lookup certId with
  | none | some [] => .str "unspecified"
  | some info => (Dict.get? info "reason").getD (.str "unspecified")

/-- The anchor that issued a card. -/
def issuerOf (store : TrustStore) (sc : SignedCard) : Except PyErr PublicAnchor :=
  match store.anchors.lookup sc.issuerId with
  | some anchor => .ok anchor
  | none => .error ⟨.untrustedCardError, ["Card issuer '", .str (sc.issuerId.take 8), "...' (",
      .repr (.str sc.issuerName), ") is not in the trust store. Trusted anchors: ",
      .val (.list (store.anchors.map fun item => .str (item.1.take 8 ++ ("..." : Str))))]⟩

theorem issuerOf_eq_ok {store : TrustStore} {sc : SignedCard} {anchor : PublicAnchor} :
    store.issuerOf sc = .ok anchor ↔ store.anchors.lookup sc.issuerId = some anchor := by
  unfold issuerOf
  cases store.anchors.lookup sc.issuerId with
  | none => exact ⟨nofun, nofun⟩
  | some found => rw [Except.ok.injEq, Option.some.injEq]

/-- Verify a signed card; `now` is the override or the clock. -/
def verify (P : Platform) (store : TrustStore) (sc : SignedCard) (now : ℤ)
    (expectedEntityId : Option Str) : Except PyErr CardRecord := do
  let anchor ← store.issuerOf sc
  ensure (!store.isRevoked sc.certId) (P.err .revokedCardError ["SignedCard for '",
    .str sc.card.name, "' (cert ", .str (sc.certId.take 8), "...) has been revoked: ",
    .val (store.revocationReason sc.certId), "."])
  ensure (expectedEntityId.all fun id => sc.card.entityId = id) ⟨.untrustedCardError,
    ["Card entity_id '", .str (sc.card.entityId.take 8), "...' does not match expected entity '",
      .str ((expectedEntityId.getD []).take 8), "...'. Possible card substitution attack."]⟩
  sc.checkTimeValidity P.toRuntime now
  let signable ← sc.signable P.toRuntime
  let ok ← catching [.envelopeValidationError] (fun e => ⟨.invalidCardSignatureError,
      [.lit "Signature on card for '", .str sc.card.name, .lit "' is malformed: "] ++ e.msg⟩)
    (hybridVerify P signable (.str sc.classicalSig.hex) (.str sc.pqcSig.hex) anchor.publicKeys)
  ensure ok ⟨.invalidCardSignatureError, ["Signature on card for '", .str sc.card.name, "' (cert ",
    .str (sc.certId.take 8), "...) does not verify against anchor '", .str anchor.name,
    "'. Card was tampered."]⟩
  return sc.card

/-! ## Persistence -/

def toDict (store : TrustStore) : Val :=
  .dict [("anchors", .list (store.anchors.map fun item => .dict item.2.toDict)),
    ("revoked_certs", .dict (store.revokedCerts.map fun item => (item.1, .dict item.2)))]

/-- Add what a file says about an anchor. -/
def loadAnchor (store : TrustStore) (v : Val) : Except PyErr TrustStore := do
  return store.add (← PublicAnchor.fromDict v)

/-- Revoke what a file says is revoked. -/
def loadRevoked (now : ℚ) (store : TrustStore) (item : Str × Val) : Except PyErr TrustStore := do
  let reason ← infoGet item.2 "reason" (.str "unspecified")
  let date ← infoGet item.2 "revocation_date" .none
  return store.revoke item.1 reason date now

/-- Build a store from what a file holds. -/
def load (path : Str) (data : Val) (now : ℚ) : Except PyErr TrustStore :=
  match data with
  | .dict d => do
      let anchors ← elementsOf ((Dict.get? d "anchors").getD (.list []))
      let store ← anchors.foldlM loadAnchor empty
      let revoked ← itemsOf ((Dict.get? d "revoked_certs").getD (.dict []))
      revoked.foldlM (loadRevoked now) store
  | _ => .error ⟨.valueError, ["TrustStore file '", .str path, "' must contain a JSON object."]⟩

end TrustStore

end Uxsp
