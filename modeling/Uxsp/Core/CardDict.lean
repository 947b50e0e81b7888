import Uxsp.Core.TrustRuns

/-!
# `uxsp.core.identity`, `uxsp.core.signing`: cards as dicts

`to_dict()` and `from_dict()` of both kinds of cards.  A card whose strings survive JSON is read
back as it was.
-/

namespace Uxsp

/-- `s.strip()`. -/
def Str.trim (s : Str) : Str := ((s.dropWhile isSpace).reverse.dropWhile isSpace).reverse

/-- The role in capitals, without the space around it. -/
def validateRole (upper : Str → Str) : Val → Except PyErr Str
  | .str s => do
      let role := upper s.trim
      ensure (!role.isEmpty) ⟨.valueError, ["Role cannot be empty"]⟩
      ensure (role.length ≤ 64) ⟨.valueError, ["Role must be 64 characters or fewer"]⟩
      ensure (!role.any Str.isSpace)
        ⟨.valueError, ["Role cannot contain internal whitespace"]⟩
      return role
  | _ => .error ⟨.valueError, ["Role must be a string"]⟩

/-- A member that is there if there is a string for it. -/
def optionalItem (key : Str) : Option Str → Dict
  | some s => [(key, .str s)]
  | none => []

/-- What a field holds that is annotated as an optional string. -/
def strOrNone : Option Val → Except PyErr (Option Str)
  | some (.str s) => .ok (some s)
  | some .none | none => .ok none
  | some v => .error ⟨.typeError, ["expected str or None, got ", v.typeName]⟩

/-! ## Public cards -/

namespace CardRecord

def VERSION : String := "UXSP-PUBCARD-1"

def toDict (card : CardRecord) : Dict :=
  ("version", .str VERSION) :: ("entity_id", .str card.entityId) :: ("name", .str card.name) ::
  ("role", .str card.role) :: ("created_at", .str card.createdAt) ::
  ("public_keys", .dict card.publicKeys.toDict) :: ("key_version", .int card.keyVersion) ::
  ("is_revoked", .bool card.isRevoked) :: (optionalItem "valid_until" card.validUntil ++
    (optionalItem "revocation_reason" card.revocationReason ++
      optionalItem "revoked_at" card.revokedAt))

/-- The version that a dict names, if it names one, is known. -/
def checkVersion (R : Runtime) (d : Dict) : Except PyErr Unit :=
  ensure (Val.eqStr (Dict.get? d "version") VERSION || (Dict.get? d "version").all Val.isNone)
    (R.err .valueError ["Unknown PublicCard version: ", .val ((Dict.get? d "version").getD .none)])

def fromDict (R : Runtime) (upper : Str → Str) : Val → Except PyErr CardRecord
  | .dict d => do
      checkVersion R d
      let entityId ← strItem (.dict d) "entity_id"
      let name ← strItem (.dict d) "name"
      let role ← Dict.item d "role"
      let createdAt ← strItem (.dict d) "created_at"
      let items ← itemsOf (← Dict.item d "public_keys")
      let decoded ← items.mapM fun item => do return (item.1, ← fromHexVal item.2)
      let publicKeys ← PublicAnchor.keysOf decoded
      let validUntil ← strOrNone (Dict.get? d "valid_until")
      let isRevoked := ((Dict.get? d "is_revoked").getD (.bool false)).truthy
      let revocationReason ← strOrNone (Dict.get? d "revocation_reason")
      let revokedAt ← strOrNone (Dict.get? d "revoked_at")
      let keyVersion ← R.int ((Dict.get? d "key_version").getD (.int 1))
      let role ← validateRole upper role
      return {
        entityId := entityId
        publicKeys := publicKeys
        isRevoked := isRevoked
        revocationReason := revocationReason
        validUntil := validUntil
        name := name
        role := role
        createdAt := createdAt
        revokedAt := revokedAt
        keyVersion := keyVersion }
  | v => .error ⟨.attributeError, ["'", v.typeName, "' object has no attribute 'get'"]⟩

end CardRecord

/-! ## Signed cards -/

namespace SignedCard

def toDict (sc : SignedCard) : Dict :=
  [("cert_id", .str sc.certId), ("issuer_id", .str sc.issuerId),
    ("issuer_name", .str sc.issuerName), ("not_before", .int sc.notBefore),
    ("not_after", .int sc.notAfter), ("classical_sig", .str sc.classicalSig.hex),
    ("pqc_sig", .str sc.pqcSig.hex), ("card", .dict sc.card.toDict)]

def fromDict (R : Runtime) (upper : Str → Str) (v : Val) : Except PyErr SignedCard := do
  let card ← CardRecord.fromDict R upper (← valItem v "card")
  let certId ← strItem v "cert_id"
  let issuerId ← strItem v "issuer_id"
  let issuerName ← strItem v "issuer_name"
  let notBefore ← R.int (← valItem v "not_before")
  let notAfter ← R.int (← valItem v "not_after")
  let classicalSig ← fromHexVal (← valItem v "classical_sig")
  let pqcSig ← fromHexVal (← valItem v "pqc_sig")
  return ⟨card, certId, issuerId, issuerName, notBefore, notAfter, classicalSig, pqcSig⟩

end SignedCard

/-! ## The round trip -/

/-- A string that JSON reads back as it was. -/
def Str.Stable (s : Str) : Prop := s.reread = s

/-- The strings of a card are read back, and its role is a valid one. -/
structure CardRecord.Stable (upper : Str → Str) (card : CardRecord) : Prop where
  entityId : card.entityId.Stable
  name : card.name.Stable
  role : card.role.Stable
  createdAt : card.createdAt.Stable
  validUntil : ∀ s ∈ card.validUntil, s.Stable
  revocationReason : ∀ s ∈ card.revocationReason, s.Stable
  revokedAt : ∀ s ∈ card.revokedAt, s.Stable
  valid : validateRole upper (.str card.role) = .ok card.role

structure SignedCard.Stable (upper : Str → Str) (sc : SignedCard) : Prop where
  card : sc.card.Stable upper
  certId : sc.certId.Stable
  issuerId : sc.issuerId.Stable
  issuerName : sc.issuerName.Stable

/-- `d` has the members of `items`, but for its type, as they are read back. -/
def Dict.Rereads (d items : Dict) : Prop :=
  ∀ key : String, key ≠ "type" →
    Dict.get? d (Str.ofString key) = (Dict.get? items (Str.ofString key)).map Val.reread

theorem Dict.get?_optionalItem (a b : String) (o : Option Str) (d : Dict) :
    Dict.get? (optionalItem (Str.ofString a) o ++ d) (Str.ofString b) =
      if b = a then (o.map Val.str).or (Dict.get? d (Str.ofString b))
      else Dict.get? d (Str.ofString b) := by
  cases o with
  | none => simp [optionalItem]
  | some s =>
      rw [optionalItem, List.singleton_append, Dict.get?_cons]
      rfl

theorem Dict.get?_optionalItem_last (a b : String) (o : Option Str) :
    Dict.get? (optionalItem (Str.ofString a) o) (Str.ofString b) =
      if b = a then o.map Val.str else none := by
  have last := Dict.get?_optionalItem a b o []
  rwa [List.append_nil, Dict.get?_nil, Option.or_none] at last

theorem strOrNone_reread {o : Option Str} (stable : ∀ s ∈ o, s.Stable) :
    strOrNone ((o.map Val.str).map Val.reread) = .ok o := by
  cases o with
  | none => rfl
  | some s =>
      have same : s.reread = s := stable s rfl
      simp only [Option.map_some, Val.reread, same]
      rfl

/-- The names of the members of a card. -/
def CardRecord.members : List String :=
  ["type", "version", "entity_id", "name", "role", "created_at", "public_keys", "key_version",
    "is_revoked", "valid_until", "revocation_reason", "revoked_at"]

theorem keys_optionalItem (key : Str) (o : Option Str) :
    ((optionalItem key o).map Prod.fst).Sublist [key] := by
  cases o with
  | none => exact List.nil_sublist _
  | some s => exact List.Sublist.refl _

theorem Dict.wellKeyed_of_sublist {d : Dict} (keys : List String)
    (sub : (d.map Prod.fst).Sublist (keys.map Str.ofString)) (distinct : keys.Nodup) :
    d.wellKeyed = true := by
  rw [wellKeyed, Bool.and_eq_true, decide_eq_true_eq]
  constructor
  · exact (distinct.map fun a b h => Str.ofString_inj.mp h).sublist sub
  · refine List.all_eq_true.mpr fun item mem => ?_
    have key := sub.subset (List.mem_map_of_mem mem)
    obtain ⟨k, _, literal⟩ := List.mem_map.mp key
    rw [← literal, Str.encode_ofString]
    rfl

/-- A card as a dict, with a type. -/
theorem CardRecord.wellKeyed_typed (card : CardRecord) (v : Val) :
    Dict.wellKeyed (("type", v) :: card.toDict) = true := by
  refine Dict.wellKeyed_of_sublist members ?_ (by decide)
  simp only [toDict, members, List.map_cons, List.map_append]
  iterate 9 apply List.Sublist.cons_cons
  exact (keys_optionalItem _ _).append ((keys_optionalItem _ _).append (keys_optionalItem _ _))

theorem CardRecord.wellKeyed_toDict (card : CardRecord) : Dict.wellKeyed card.toDict = true := by
  have typed := Bool.and_eq_true_iff.mp (card.wellKeyed_typed .none)
  obtain ⟨distinct, encodable⟩ := typed
  rw [Dict.wellKeyed, Bool.and_eq_true, decide_eq_true_eq]
  exact ⟨(List.nodup_cons.mp (of_decide_eq_true distinct)).2,
    (Bool.and_eq_true_iff.mp encodable).2⟩

/-- A card is read from a dict with its members. -/
theorem CardRecord.fromDict_of_rereads {R : Runtime} {upper : Str → Str} {card : CardRecord}
    {d : Dict} (stable : card.Stable upper) (rereads : d.Rereads card.toDict) :
    fromDict R upper (.dict d) = .ok card := by
  have member : ∀ (key : String) (v : Val), key ≠ "type" →
      Dict.get? card.toDict (Str.ofString key) = some v →
      Dict.get? d (Str.ofString key) = some v.reread := by
    intro key v other found
    rw [rereads key other, found, Option.map_some]
  have text : ∀ (key : String) (s : Str), key ≠ "type" → s.Stable →
      Dict.get? card.toDict (Str.ofString key) = some (.str s) →
      Dict.get? d (Str.ofString key) = some (.str s) := by
    intro key s other same found
    rw [member key _ other found, Val.reread, same]
  have optional : ∀ (key : String) (o : Option Str), key ≠ "type" → (∀ s ∈ o, s.Stable) →
      Dict.get? card.toDict (Str.ofString key) = o.map Val.str →
      strOrNone (Dict.get? d (Str.ofString key)) = .ok o := by
    intro key o other same found
    rw [rereads key other, found, strOrNone_reread same]
  have version : checkVersion R d = .ok () := by
    rw [checkVersion, text "version" VERSION (by decide) (Str.reread_ofString _) (by simp [toDict])]
    rfl
  have entityId := text "entity_id" _ (by decide) stable.entityId (by simp [toDict])
  have name := text "name" _ (by decide) stable.name (by simp [toDict])
  have role := text "role" _ (by decide) stable.role (by simp [toDict])
  have createdAt := text "created_at" _ (by decide) stable.createdAt (by simp [toDict])
  have publicKeys := member "public_keys" (.dict card.publicKeys.toDict) (by decide)
    (by simp [toDict])
  have keyVersion := member "key_version" (.int card.keyVersion) (by decide) (by simp [toDict])
  have isRevoked := member "is_revoked" (.bool card.isRevoked) (by decide) (by simp [toDict])
  have validUntil := optional "valid_until" _ (by decide) stable.validUntil
    (by simp [toDict, Dict.get?_optionalItem, Dict.get?_optionalItem_last])
  have revocationReason := optional "revocation_reason" _ (by decide) stable.revocationReason
    (by simp [toDict, Dict.get?_optionalItem, Dict.get?_optionalItem_last])
  have revokedAt := optional "revoked_at" _ (by decide) stable.revokedAt
    (by simp [toDict, Dict.get?_optionalItem, Dict.get?_optionalItem_last])
  rw [PublicKeys.reread_toDict] at publicKeys
  simp only [fromDict, bind_eq_ok, pure_eq_ok, strItem_eq_ok, Dict.item_eq_ok]
  refine ⟨(), version, _, entityId, _, name, _, role, _, createdAt, _, publicKeys, _, rfl, _,
    card.publicKeys.decode_toDict, _, card.publicKeys.keysOf_decoded, _, validUntil, _,
    revocationReason, _, revokedAt, card.keyVersion, ?_, _, stable.valid, ?_⟩
  · rw [keyVersion]
    rfl
  · rw [isRevoked]
    rfl

/-- The members of a dict, as they are read back. -/
theorem Dict.rereads_of_wellKeyed {items : Dict} (keyed : items.wellKeyed = true) :
    Dict.Rereads (Assoc.update [] (Dict.rereadItems items)) items :=
  fun key _ => Dict.reread_get? keyed (Str.ofString key)

/-- A card is read back from JSON as it was. -/
theorem CardRecord.fromDict_toDict {R : Runtime} {upper : Str → Str} {card : CardRecord}
    (stable : card.Stable upper) :
    fromDict R upper (Val.dict card.toDict).reread = .ok card := by
  rw [Val.reread]
  exact fromDict_of_rereads stable (Dict.rereads_of_wellKeyed card.wellKeyed_toDict)

/-- A signed card is read from a dict with its members. -/
theorem SignedCard.fromDict_of_rereads {R : Runtime} {upper : Str → Str} {sc : SignedCard}
    {d : Dict} (stable : sc.Stable upper) (rereads : d.Rereads sc.toDict) :
    fromDict R upper (.dict d) = .ok sc := by
  obtain ⟨card, certId, issuerId, issuerName⟩ := stable
  have member : ∀ (key : String) (v : Val), key ≠ "type" →
      Dict.get? sc.toDict (Str.ofString key) = some v →
      Dict.get? d (Str.ofString key) = some v.reread := by
    intro key v other found
    rw [rereads key other, found, Option.map_some]
  have inner := member "card" _ (by decide) (by simp [toDict]; rfl)
  have id := member "cert_id" _ (by decide) (by simp [toDict]; rfl)
  have issuer := member "issuer_id" _ (by decide) (by simp [toDict]; rfl)
  have name := member "issuer_name" _ (by decide) (by simp [toDict]; rfl)
  have notBefore := member "not_before" _ (by decide) (by simp [toDict]; rfl)
  have notAfter := member "not_after" _ (by decide) (by simp [toDict]; rfl)
  have classicalSig := member "classical_sig" _ (by decide) (by simp [toDict]; rfl)
  have pqcSig := member "pqc_sig" _ (by decide) (by simp [toDict]; rfl)
  rw [Val.reread, certId] at id
  rw [Val.reread, issuerId] at issuer
  rw [Val.reread, issuerName] at name
  rw [Val.reread, Str.reread_hex] at classicalSig pqcSig
  have signature : ∀ b : Bytes, fromHexVal (.str b.hex) = .ok b := by
    intro b
    rw [fromHexVal, Str.fromHex_hex]
  simp only [fromDict, bind_eq_ok, pure_eq_ok, strItem_eq_ok, valItem, Dict.item_eq_ok]
  exact ⟨_, inner, _, CardRecord.fromDict_toDict card, _, id, _, issuer, _, name, _, notBefore, _,
    rfl, _, notAfter, _, rfl, _, classicalSig, _, signature _, _, pqcSig, _, signature _, rfl⟩

end Uxsp
