import Uxsp.Core.CardTrust

/-!
# Trust stores over runs

Several stores are changed by the operations of `TrustStore` and pass through files.  A `Ledger` says
what a store is for: the anchors that are trusted and the certificates that are revoked.
`verify_allowed_iff`: in every run the store returns a card exactly if the ledger accepts it.  That is
what the specification allows but for the card's own mark, which `verify` does not look at.
-/

namespace Uxsp

variable {P : Platform} {J : JsonFile}

/-! ## What comes back from a file -/

/-- The anchor, with the strings that are read back. -/
def PublicAnchor.reread (anchor : PublicAnchor) : PublicAnchor :=
  ⟨anchor.anchorId.reread, anchor.name.reread, anchor.publicKeys, anchor.createdAt.reread⟩

theorem Val.reread_dict {items : Dict} (keys : List String)
    (same : items.map Prod.fst = keys.map Str.ofString) (distinct : keys.Nodup) :
    (Val.dict items).reread = .dict (items.map fun item => (item.1, item.2.reread)) := by
  have literal : ∀ item ∈ items, item.1.reread = item.1 := by
    intro item mem
    have key : item.1 ∈ keys.map Str.ofString := same ▸ List.mem_map_of_mem mem
    obtain ⟨k, _, literal⟩ := List.mem_map.mp key
    rw [← literal, Str.reread_ofString]
  have read : Dict.rereadItems items = items.map fun item => (item.1, item.2.reread) := by
    rw [Dict.rereadItems_eq_map]
    apply List.map_congr_left
    intro item mem
    rw [literal item mem]
  rw [Val.reread, read, Assoc.update_nil]
  rw [List.map_map]
  show (items.map Prod.fst).Nodup
  rw [same]
  exact distinct.map fun a b h => Str.ofString_inj.mp h

theorem PublicKeys.reread_toDict (keys : PublicKeys) :
    (Val.dict keys.toDict).reread = .dict keys.toDict := by
  rw [Val.reread_dict ["exchange_pub", "kem_pub", "signing_pub", "pqc_sig_pub"] rfl (by decide)]
  simp [PublicKeys.toDict, Val.reread]

/-- The keys of an anchor, decoded. -/
def PublicKeys.decoded (keys : PublicKeys) : List (Str × Bytes) :=
  [("exchange_pub", keys.exchangePub), ("kem_pub", keys.kemPub), ("signing_pub", keys.signingPub),
    ("pqc_sig_pub", keys.pqcSigPub)]

theorem PublicKeys.decode_toDict (keys : PublicKeys) :
    (keys.toDict.mapM fun item => do return (item.1, ← fromHexVal item.2)) =
      (.ok keys.decoded : Except PyErr _) := by
  have decode : ∀ (k : Str) (b : Bytes),
      (do return (k, ← fromHexVal (.str b.hex))) = (.ok (k, b) : Except PyErr (Str × Bytes)) := by
    intro k b
    rw [fromHexVal, Str.fromHex_hex]
    rfl
  rw [mapM_eq_ok]
  exact .cons (decode _ _) (.cons (decode _ _) (.cons (decode _ _) (.cons (decode _ _) .nil)))

theorem PublicKeys.keysOf_decoded (keys : PublicKeys) :
    PublicAnchor.keysOf keys.decoded = .ok keys := by
  rfl

theorem strItem_eq_ok {d : Dict} {key s : Str} :
    strItem (.dict d) key = .ok s ↔ Dict.get? d key = some (.str s) := by
  simp only [strItem, valItem, bind_eq_ok, Dict.item_eq_ok]
  constructor
  · intro read
    obtain ⟨v, found, string⟩ := read
    cases v <;> cases string
    exact found
  · intro found
    exact ⟨_, found, rfl⟩

/-- An anchor is read from the file it was written to. -/
theorem PublicAnchor.fromDict_toDict (anchor : PublicAnchor) :
    PublicAnchor.fromDict (Val.dict anchor.toDict).reread = .ok anchor.reread := by
  rw [Val.reread_dict ["anchor_id", "name", "created_at", "public_keys"] rfl (by decide)]
  simp only [fromDict, bind_eq_ok, pure_eq_ok, strItem_eq_ok]
  refine ⟨anchor.anchorId.reread, by simp [toDict, Val.reread], anchor.name.reread,
    by simp [toDict, Val.reread], anchor.createdAt.reread, by simp [toDict, Val.reread],
    .dict anchor.publicKeys.toDict, ?_, anchor.publicKeys.toDict, rfl, anchor.publicKeys.decoded,
    anchor.publicKeys.decode_toDict, anchor.publicKeys, anchor.publicKeys.keysOf_decoded, rfl⟩
  rw [valItem, Dict.item_eq_ok, ← anchor.publicKeys.reread_toDict]
  simp [toDict]

/-! ## Revocation -/

namespace TrustStore

variable {store : TrustStore} {c : Str}

theorem isRevoked_revoke {certId : Str} {reason date : Val} {now : ℚ} :
    (store.revoke certId reason date now).isRevoked c = true ↔
      c = certId ∨ store.isRevoked c = true := by
  rw [isRevoked, revoke, Assoc.lookup_set, isRevoked]
  by_cases same : c = certId <;> simp [same]

theorem isRevoked_unrevoke {certId : Str} :
    (store.unrevoke certId).isRevoked c = true ↔ store.isRevoked c = true ∧ c ≠ certId := by
  rw [isRevoked, unrevoke, Assoc.lookup_erase, isRevoked]
  by_cases same : c = certId <;> simp [same]

/-- A revocation list adds its certificates. -/
theorem addCrl_of_returned {crl : CertificateRevocationList}
    (returned : (store.addCrl P crl).1 = .ok ()) :
    (store.addCrl P crl).2.anchors = store.anchors ∧ ∀ c, (store.addCrl P crl).2.isRevoked c = true ↔
      store.isRevoked c = true ∨ c ∈ crl.revokedCerts.map Prod.fst := by
  unfold addCrl at returned ⊢
  split at returned
  · cases returned
  · split at returned
    · cases returned
    · refine ⟨rfl, fun c => ?_⟩
      rw [isRevoked, Assoc.isSome_lookup_update, isRevoked, List.map_map]
      exact Iff.rfl

/-- A revocation list that is refused adds nothing. -/
theorem addCrl_of_raised {crl : CertificateRevocationList} {e : PyErr}
    (raised : (store.addCrl P crl).1 = .error e) : (store.addCrl P crl).2 = store := by
  unfold addCrl at raised ⊢
  split at raised
  · rfl
  · split at raised
    · rfl
    · cases raised

/-! ## Loading what was saved -/

theorem foldlM_map_eq_ok {σ α β : Type} {f : σ → β → Except PyErr σ} {g : σ → α → σ} {h : α → β}
    {ys : List α} (each : ∀ s, ∀ y ∈ ys, f s (h y) = .ok (g s y)) (s : σ) :
    (ys.map h).foldlM f s = .ok (ys.foldl g s) := by
  induction ys generalizing s with
  | nil => rfl
  | cons y ys ih =>
      rw [List.map_cons, List.foldlM_cons, each s y List.mem_cons_self, List.foldl_cons]
      exact ih (fun s z mem => each s z (List.mem_cons_of_mem _ mem)) (g s y)

/-- Revoke again what an item of a file says. -/
def revokeItem (now : ℚ) (store : TrustStore) (item : Str × Val) : TrustStore :=
  store.revoke item.1 ((Dict.get? (infoDict item.2) "reason").getD (.str "unspecified"))
    ((Dict.get? (infoDict item.2) "revocation_date").getD .none) now

theorem foldl_revokeItem (now : ℚ) (items : Dict) :
    (items.foldl (revokeItem now) store).anchors = store.anchors ∧
      ((items.foldl (revokeItem now) store).isRevoked c = true ↔
        store.isRevoked c = true ∨ c ∈ items.map Prod.fst) := by
  induction items generalizing store with
  | nil => simp
  | cons item items ih =>
      obtain ⟨anchors, revoked⟩ := @ih (revokeItem now store item)
      refine ⟨anchors, ?_⟩
      rw [List.foldl_cons, revoked, revokeItem, isRevoked_revoke, List.map_cons, List.mem_cons]
      tauto

theorem foldl_add (anchors : List PublicAnchor) :
    (anchors.foldl add store).anchors =
      anchors.foldl (fun d a => Assoc.set d a.anchorId a) store.anchors ∧
      (anchors.foldl add store).revokedCerts = store.revokedCerts := by
  induction anchors generalizing store with
  | nil => exact ⟨rfl, rfl⟩
  | cons anchor anchors ih => exact @ih (store.add anchor)

/-- What a file holds of the revoked certificates. -/
def revokedItems (store : TrustStore) : Dict :=
  Assoc.update [] (Dict.rereadItems (store.revokedCerts.map fun item => (item.1, .dict item.2)))

theorem mem_revokedItems :
    c ∈ (revokedItems store).map Prod.fst ↔ ∃ x, store.isRevoked x = true ∧ x.reread = c := by
  rw [← Assoc.isSome_lookup, revokedItems, Assoc.isSome_lookup_update, Dict.rereadItems_eq_map]
  simp only [List.lookup_nil, Option.isSome_none, Bool.false_eq_true, false_or, List.map_map,
    isRevoked, Assoc.isSome_lookup, List.mem_map, Function.comp_apply]
  constructor
  · intro mem
    obtain ⟨item, mem, read⟩ := mem
    exact ⟨item.1, ⟨item, mem, rfl⟩, read⟩
  · intro mem
    obtain ⟨_, ⟨item, mem, rfl⟩, read⟩ := mem
    exact ⟨item, mem, read⟩

theorem dict_of_mem_revokedItems : ∀ item ∈ revokedItems store, ∃ d, item.2 = .dict d := by
  refine @Assoc.forall_update Str Val _ [] (fun v => ∃ d, v = .dict d) _ nofun ?_
  intro item mem
  rw [Dict.rereadItems_eq_map, List.map_map] at mem
  obtain ⟨old, _, rfl⟩ := List.mem_map.mp mem
  exact ⟨_, rfl⟩

theorem reread_toDict (store : TrustStore) : store.toDict.reread =
    .dict [("anchors", .list (store.anchors.map fun item => (Val.dict item.2.toDict).reread)),
      ("revoked_certs", .dict (revokedItems store))] := by
  rw [toDict, Val.reread_dict ["anchors", "revoked_certs"] rfl (by decide)]
  simp only [List.map_cons, List.map_nil, Val.reread, Val.rereadList_eq_map, List.map_map]
  rfl

/-- A store that is saved can be loaded, with its anchors and its revoked certificates. -/
theorem load_toDict (path : Str) (store : TrustStore) (now : ℚ) : ∃ loaded,
    load path store.toDict.reread now = .ok loaded ∧
      loaded.anchors = (store.anchors.map fun item => item.2.reread).foldl
        (fun d a => Assoc.set d a.anchorId a) [] ∧
      ∀ c, loaded.isRevoked c = true ↔ ∃ x, store.isRevoked x = true ∧ x.reread = c := by
  have anchors : (store.anchors.map fun item => (Val.dict item.2.toDict).reread).foldlM loadAnchor
      empty = .ok (store.anchors.foldl (fun s item => s.add item.2.reread) empty) := by
    apply foldlM_map_eq_ok
    intro s item _
    rw [loadAnchor, item.2.fromDict_toDict]
    rfl
  have revoked : ∀ s, (revokedItems store).foldlM (loadRevoked now) s =
      .ok ((revokedItems store).foldl (revokeItem now) s) := by
    intro s
    rw [← List.map_id (revokedItems store)]
    rw [foldlM_map_eq_ok (g := revokeItem now), List.map_id]
    intro s item mem
    obtain ⟨d, dict⟩ := dict_of_mem_revokedItems item mem
    rw [id, loadRevoked, revokeItem, dict]
    rfl
  have loaded : load path store.toDict.reread now = .ok ((revokedItems store).foldl (revokeItem now)
      (store.anchors.foldl (fun s item => s.add item.2.reread) empty)) := by
    rw [reread_toDict]
    simp only [load, bind_eq_ok]
    refine ⟨_, ?_, _, anchors, _, ?_, revoked _⟩
    · simp [elementsOf]
    · simp [itemsOf]
  have added : store.anchors.foldl (fun s item => s.add item.2.reread) empty =
      (store.anchors.map fun item => item.2.reread).foldl add empty := List.foldl_map.symm
  obtain ⟨trusted, none⟩ := @foldl_add empty (store.anchors.map fun item => item.2.reread)
  rw [added] at loaded
  refine ⟨_, loaded, (@foldl_revokeItem _ [] now _).1.trans trusted, fun c => ?_⟩
  rw [(foldl_revokeItem now _).2, mem_revokedItems, isRevoked, none]
  exact ⟨fun read => read.resolve_left (by rintro ⟨⟩), Or.inr⟩

end TrustStore

/-! ## Stores and files -/

/-- The stores of a process, and the files by their path. -/
structure TrustWorld where
  stores : ℕ → TrustStore
  files : Str → Option Bytes

inductive TrustEvent
  | create (i : ℕ)
  | add (i : ℕ) (anchor : PublicAnchor)
  | remove (i : ℕ) (anchorId : Str)
  | revoke (i : ℕ) (certId : Str) (reason revocationDate : Val) (now : ℚ)
  | unrevoke (i : ℕ) (certId : Str)
  | addCrl (i : ℕ) (crl : CertificateRevocationList)
  | save (i : ℕ) (path : Str)
  /-- The loaded store takes the place of the store `i`. -/
  | load (i : ℕ) (path : Str) (now : ℚ)

namespace TrustWorld

def start : TrustWorld := ⟨fun _ => .empty, fun _ => none⟩

def setStore (w : TrustWorld) (i : ℕ) (store : TrustStore) : TrustWorld :=
  { w with stores := Function.update w.stores i store }

theorem setStore_self (w : TrustWorld) (i : ℕ) : w.setStore i (w.stores i) = w := by
  rw [setStore, Function.update_eq_self]

/-- One operation: whether it returns, and what is left. -/
def apply (P : Platform) (J : JsonFile) (w : TrustWorld) : TrustEvent → Bool × TrustWorld
  | .create i => (true, w.setStore i .empty)
  | .add i anchor => (true, w.setStore i ((w.stores i).add anchor))
  | .remove i anchorId => (true, w.setStore i ((w.stores i).remove anchorId))
  | .revoke i certId reason date now =>
      (true, w.setStore i ((w.stores i).revoke certId reason date now))
  | .unrevoke i certId => (true, w.setStore i ((w.stores i).unrevoke certId))
  | .addCrl i crl =>
      (succeeded ((w.stores i).addCrl P crl).1, w.setStore i ((w.stores i).addCrl P crl).2)
  | .save i path =>
      match J.dumps (w.stores i).toDict with
      | .ok text => (true, { w with files := Function.update w.files path (some text) })
      | .error _ => (false, w)
  | .load i path now =>
      match w.files path with
      | some text =>
          match (do TrustStore.load path (← J.load text) now) with
          | .ok store => (true, w.setStore i store)
          | .error _ => (false, w)
      | none => (false, w)

end TrustWorld

/-! ## What a store is for -/

/-- The anchors that are trusted and the certificates that are revoked. -/
structure Ledger where
  trusted : List (Str × PublicAnchor)
  revoked : Set Str

namespace Ledger

def empty : Ledger := ⟨[], ∅⟩

/-- The ledger of a file: its strings are read back. -/
def reread (l : Ledger) : Ledger where
  trusted := (l.trusted.map fun item => item.2.reread).foldl
    (fun d a => Assoc.set d a.anchorId a) []
  revoked := Str.reread '' l.revoked

end Ledger

structure LedgerWorld where
  stores : ℕ → Ledger
  files : Str → Option Ledger

namespace LedgerWorld

def start : LedgerWorld := ⟨fun _ => .empty, fun _ => none⟩

def setStore (l : LedgerWorld) (i : ℕ) (ledger : Ledger) : LedgerWorld :=
  { l with stores := Function.update l.stores i ledger }

/-- What an operation that returns is for. -/
def effect (l : LedgerWorld) : TrustEvent → LedgerWorld
  | .create i => l.setStore i .empty
  | .add i anchor => l.setStore i { l.stores i with
      trusted := Assoc.set (l.stores i).trusted anchor.anchorId anchor }
  | .remove i anchorId => l.setStore i { l.stores i with
      trusted := Assoc.erase (l.stores i).trusted anchorId }
  | .revoke i certId _ _ _ => l.setStore i { l.stores i with
      revoked := insert certId (l.stores i).revoked }
  | .unrevoke i certId => l.setStore i { l.stores i with
      revoked := (l.stores i).revoked \ {certId} }
  | .addCrl i crl => l.setStore i { l.stores i with
      revoked := (l.stores i).revoked ∪ {c | c ∈ crl.revokedCerts.map Prod.fst} }
  | .save i path => { l with files := Function.update l.files path (some (l.stores i)) }
  | .load i path _ => l.setStore i (((l.files path).getD .empty).reread)

/-- An operation that raises changes nothing. -/
def step (l : LedgerWorld) (e : TrustEvent) (returned : Bool) : LedgerWorld :=
  if returned then l.effect e else l

end LedgerWorld

/-! ## A store keeps its ledger -/

structure TrustStore.Keeps (store : TrustStore) (l : Ledger) : Prop where
  anchors : store.anchors = l.trusted
  revoked : ∀ c, store.isRevoked c = true ↔ c ∈ l.revoked

structure TrustWorld.Keeps (J : JsonFile) (w : TrustWorld) (l : LedgerWorld) : Prop where
  stores : ∀ i, (w.stores i).Keeps (l.stores i)
  /-- A file was written by a store that kept the ledger of the file. -/
  files : ∀ path text, w.files path = some text → ∃ (store : TrustStore) (ledger : Ledger),
    l.files path = some ledger ∧ J.dumps store.toDict = .ok text ∧ store.Keeps ledger

variable {w : TrustWorld} {l : LedgerWorld}

theorem TrustStore.Keeps.empty : TrustStore.empty.Keeps .empty where
  anchors := rfl
  revoked _ := ⟨nofun, nofun⟩

theorem TrustWorld.Keeps.setStore (keeps : w.Keeps J l) (i : ℕ) {store : TrustStore}
    {ledger : Ledger} (here : store.Keeps ledger) :
    (w.setStore i store).Keeps J (l.setStore i ledger) where
  stores := by
    intro j
    by_cases same : j = i
    · subst same
      simpa [TrustWorld.setStore, LedgerWorld.setStore] using here
    · simpa [TrustWorld.setStore, LedgerWorld.setStore, same] using keeps.stores j
  files := keeps.files

/-- What is loaded keeps the ledger of the file. -/
theorem TrustStore.Keeps.load {store : TrustStore} {ledger : Ledger} (keeps : store.Keeps ledger)
    {text : Bytes} (written : J.dumps store.toDict = .ok text) (path : Str) (now : ℚ) :
    ∃ loaded, (do TrustStore.load path (← J.load text) now) = .ok loaded ∧
      loaded.Keeps ledger.reread := by
  obtain ⟨loaded, read, anchors, revoked⟩ := TrustStore.load_toDict path store now
  refine ⟨loaded, bind_eq_ok.mpr ⟨_, J.load_dumps written, read⟩, ?_, fun c => ?_⟩
  · rw [anchors, keeps.anchors]
    rfl
  · simp only [revoked, keeps.revoked]
    exact Iff.rfl

/-- One operation does to a store what it does to the ledger. -/
theorem TrustWorld.Keeps.apply (keeps : w.Keeps J l) (e : TrustEvent) :
    (w.apply P J e).2.Keeps J (l.step e (w.apply P J e).1) := by
  cases e with
  | create i => exact keeps.setStore i .empty
  | add i anchor =>
      obtain ⟨anchors, revoked⟩ := keeps.stores i
      exact keeps.setStore i ⟨by rw [← anchors]; rfl, revoked⟩
  | remove i anchorId =>
      obtain ⟨anchors, revoked⟩ := keeps.stores i
      exact keeps.setStore i ⟨by rw [← anchors]; rfl, revoked⟩
  | revoke i certId reason date now =>
      obtain ⟨anchors, revoked⟩ := keeps.stores i
      refine keeps.setStore i ⟨anchors, fun c => ?_⟩
      rw [TrustStore.isRevoked_revoke, revoked, Set.mem_insert_iff]
  | unrevoke i certId =>
      obtain ⟨anchors, revoked⟩ := keeps.stores i
      refine keeps.setStore i ⟨anchors, fun c => ?_⟩
      rw [TrustStore.isRevoked_unrevoke, revoked]
      exact Iff.rfl
  | addCrl i crl =>
      obtain ⟨anchors, revoked⟩ := keeps.stores i
      show (w.setStore i ((w.stores i).addCrl P crl).2).Keeps J
        (l.step (.addCrl i crl) (succeeded ((w.stores i).addCrl P crl).1))
      cases result : ((w.stores i).addCrl P crl).1 with
      | error err =>
          rw [TrustStore.addCrl_of_raised result, TrustWorld.setStore_self]
          exact keeps
      | ok u =>
          obtain ⟨same, added⟩ := TrustStore.addCrl_of_returned result
          refine keeps.setStore i ⟨same.trans anchors, fun c => ?_⟩
          rw [added, revoked]
          exact Iff.rfl
  | save i path =>
      rw [TrustWorld.apply]
      split
      · rename_i text written
        refine ⟨keeps.stores, fun path' text' found => ?_⟩
        by_cases same : path' = path
        · subst same
          simp only [Function.update_self, Option.some.injEq] at found
          subst found
          exact ⟨w.stores i, l.stores i, by simp [LedgerWorld.step, LedgerWorld.effect], written,
            keeps.stores i⟩
        · simp only [Function.update_of_ne same] at found
          simpa [LedgerWorld.step, LedgerWorld.effect, same] using keeps.files path' text' found
      · exact keeps
  | load i path now =>
      rw [TrustWorld.apply]
      split
      · rename_i text found
        obtain ⟨store, ledger, kept, written, here⟩ := keeps.files path text found
        obtain ⟨loaded, read, same⟩ := here.load written path now
        rw [read]
        have effect : l.step (.load i path now) true = l.setStore i ledger.reread := by
          simp [LedgerWorld.step, LedgerWorld.effect, kept]
        rw [effect]
        exact keeps.setStore i same
      · exact keeps

/-! ## The decision -/

/-- What the specification asks of a card but for its own mark. -/
def Ledger.Accepts (P : Platform) (l : Ledger) (sc : SignedCard) (now : ℤ) : Prop :=
  ∃ anchor, l.trusted.lookup sc.issuerId = some anchor ∧ sc.certId ∉ l.revoked ∧
    sc.notBefore ≤ now ∧ now ≤ sc.notAfter ∧ ∃ b, sc.signable P.toRuntime = .ok b ∧
      P.ed25519Verify anchor.publicKeys.signingPub sc.classicalSig b = true ∧
      P.pqcVerify anchor.publicKeys.pqcSigPub sc.pqcSig b = .ok true

/-- What the specification allows. -/
def Ledger.Allows (P : Platform) (l : Ledger) (sc : SignedCard) (now : ℤ) : Prop :=
  l.Accepts P sc now ∧ sc.card.isRevoked = false

theorem TrustStore.signatureOk_iff {sc : SignedCard} {keys : PublicKeys} :
    SignatureOk P sc keys ↔ ∃ b, sc.signable P.toRuntime = .ok b ∧
      P.ed25519Verify keys.signingPub sc.classicalSig b = true ∧
      P.pqcVerify keys.pqcSigPub sc.pqcSig b = .ok true := by
  simp [SignatureOk, hybridVerify_eq_true, fromHexVal]

theorem TrustStore.Keeps.verify {store : TrustStore} {ledger : Ledger} (keeps : store.Keeps ledger)
    (sc : SignedCard) (now : ℤ) :
    (∃ card, store.verify P sc now none = .ok card) ↔ ledger.Accepts P sc now := by
  have live : store.isRevoked sc.certId = false ↔ sc.certId ∉ ledger.revoked := by
    rw [← keeps.revoked, Bool.not_eq_true]
  simp only [TrustStore.verify_eq_ok, TrustStore.signatureOk_iff, Ledger.Accepts, keeps.anchors, live]
  constructor
  · intro verified
    obtain ⟨_, rfl, anchor, trusted, unrevoked, _, window⟩ := verified
    exact ⟨anchor, trusted, unrevoked, window⟩
  · intro accepted
    obtain ⟨anchor, trusted, unrevoked, window⟩ := accepted
    exact ⟨_, rfl, anchor, trusted, unrevoked, nofun, window⟩

/-- One call of an operation, and whether it returned. -/
def TrustWorld.Step (P : Platform) (J : JsonFile) (w : TrustWorld) (call : TrustEvent × Bool)
    (w' : TrustWorld) : Prop :=
  w.apply P J call.1 = (call.2, w')

/-- The ledger after these calls. -/
def LedgerWorld.after (calls : List (TrustEvent × Bool)) : LedgerWorld :=
  calls.foldl (fun l call => l.step call.1 call.2) .start

/-- After every run each store keeps its ledger. -/
theorem TrustWorld.Keeps.run {calls : List (TrustEvent × Bool)}
    (run : Run (TrustWorld.Step P J) .start calls w) : w.Keeps J (.after calls) := by
  refine run.history (I := fun calls w => w.Keeps J (.after calls)) (fun calls w call w' keeps step => ?_)
    ⟨fun _ => .empty, nofun⟩
  have kept := keeps.apply (P := P) call.1
  rw [step] at kept
  rwa [LedgerWorld.after, List.foldl_append]

/-- The operation puts another store in the place of this one. -/
def TrustEvent.Replaces (i : ℕ) (e : TrustEvent) : Prop :=
  e = .create i ∨ ∃ path now, e = .load i path now

/-- A certificate stays revoked until it is unrevoked. -/
theorem TrustWorld.Keeps.revoked_apply (keeps : w.Keeps J l) {i : ℕ} {c : Str}
    (revoked : (w.stores i).isRevoked c = true) {e : TrustEvent} (other : e ≠ .unrevoke i c)
    (same : ¬ e.Replaces i) : ((w.apply P J e).2.stores i).isRevoked c = true := by
  have here := ((keeps.stores i).revoked c).mp revoked
  refine (((keeps.apply e).stores i).revoked c).mpr ?_
  cases (w.apply P J e).1 with
  | false => exact here
  | true =>
      have elsewhere : ∀ j ledger, (j = i → c ∈ ledger.revoked) →
          c ∈ ((l.setStore j ledger).stores i).revoked := by
        intro j ledger kept
        by_cases at' : i = j
        · subst at'
          simpa [LedgerWorld.setStore] using kept rfl
        · simpa [LedgerWorld.setStore, at'] using here
      cases e with
      | create j => exact elsewhere j _ fun at' => absurd (.inl (at' ▸ rfl)) same
      | add j anchor => exact elsewhere j _ fun at' => at' ▸ here
      | remove j anchorId => exact elsewhere j _ fun at' => at' ▸ here
      | revoke j certId reason date now =>
          exact elsewhere j _ fun at' => .inr (at' ▸ here)
      | unrevoke j certId =>
          refine elsewhere j _ fun at' => ⟨at' ▸ here, fun gone => other ?_⟩
          rw [at', Set.mem_singleton_iff.mp gone]
      | addCrl j crl => exact elsewhere j _ fun at' => .inl (at' ▸ here)
      | save j path => exact here
      | load j path now => exact elsewhere j _ fun at' => absurd (.inr ⟨path, now, at' ▸ rfl⟩) same

/-- After every run a store returns exactly the cards that the specification allows, if the card is
not marked as revoked or is refused for another reason. -/
theorem verify_allowed_iff {calls : List (TrustEvent × Bool)}
    (run : Run (TrustWorld.Step P J) .start calls w) (i : ℕ) (sc : SignedCard) (now : ℤ) :
    ((∃ card, (w.stores i).verify P sc now none = .ok card) ↔
        ((LedgerWorld.after calls).stores i).Allows P sc now) ↔
      (sc.card.isRevoked = true → ¬ ((LedgerWorld.after calls).stores i).Accepts P sc now) := by
  rw [((TrustWorld.Keeps.run run).stores i).verify, Ledger.Allows]
  cases sc.card.isRevoked <;> simp

/-! A store that goes through a file, with a codec that reads what it can write. -/

def JsonFile.text : JsonFile where
  dumps := JsonText.dumps .default
  load text := do return (← JsonText.loads text).reread
  load_dumps := by
    intro v text written
    rw [JsonText.loads_dumps JsonText.Separators.default_lawful written]
    exact congrArg Except.ok (JsonText.reread_joined v)

theorem TrustWorld.step_of_returned {e : TrustEvent} (returned : (w.apply P J e).1 = true) :
    TrustWorld.Step P J w (e, true) (w.apply P J e).2 :=
  Prod.ext returned rfl

def sampleCalls : List (TrustEvent × Bool) :=
  [(.add 0 sampleAnchor.publicAnchor, true), (.save 0 "store.json", true),
    (.load 1 "store.json" 0, true)]

theorem exists_sampleRun : ∃ w, Run (TrustWorld.Step .transparent .text) .start sampleCalls w := by
  have added : (TrustWorld.start.apply .transparent .text (.add 0 sampleAnchor.publicAnchor)).1 = true :=
    rfl
  have first := TrustWorld.step_of_returned added
  have saved : ((TrustWorld.start.apply .transparent .text (.add 0 sampleAnchor.publicAnchor)).2.apply
      .transparent .text (.save 0 "store.json")).1 = true := by
    decide +kernel
  have second := TrustWorld.step_of_returned saved
  have loaded : (((TrustWorld.start.apply .transparent .text
      (.add 0 sampleAnchor.publicAnchor)).2.apply .transparent .text (.save 0 "store.json")).2.apply
      .transparent .text (.load 1 "store.json" 0)).1 = true := by
    decide +kernel
  exact ⟨_, .cons first (.cons second (.cons (TrustWorld.step_of_returned loaded) .nil))⟩

/-- The card of the sample, after the store went through the file. -/
theorem sample_allowed_iff : ∃ w : TrustWorld, ∃ e : Issued sampleAnchor,
    ((∃ card, (w.stores 1).verify .transparent e.signedCard 0 none = .ok card) ↔
        ((LedgerWorld.after sampleCalls).stores 1).Allows .transparent e.signedCard 0) ↔
      (e.signedCard.card.isRevoked = true →
        ¬ ((LedgerWorld.after sampleCalls).stores 1).Accepts .transparent e.signedCard 0) := by
  obtain ⟨w, run⟩ := exists_sampleRun
  obtain ⟨e, _⟩ := exists_sampleIssued
  exact ⟨w, e, verify_allowed_iff run 1 e.signedCard 0⟩

/-- A card that is marked as revoked is returned. -/
theorem revoked_card_verified : ¬ ∀ (P : Platform) (J : JsonFile) (calls : List (TrustEvent × Bool))
    (w : TrustWorld), Run (TrustWorld.Step P J) .start calls w → ∀ i sc now,
      (∃ card, (w.stores i).verify P sc now none = .ok card) ↔
        ((LedgerWorld.after calls).stores i).Allows P sc now := by
  intro allowed
  obtain ⟨e, card, _, verified, _⟩ := exists_sampleIssued
  have added : TrustWorld.Step .transparent .text .start (.add 0 sampleAnchor.publicAnchor, true)
      (TrustWorld.start.setStore 0 sampleStore) := rfl
  have stores : (TrustWorld.start.setStore 0 sampleStore).stores 0 = sampleStore := rfl
  obtain ⟨_, unmarked⟩ := (allowed .transparent .text _ _ (.single added) 0 e.signedCard 0).mp
    ⟨_, stores ▸ verified⟩
  rw [e.facts.1, card] at unmarked
  cases unmarked

end Uxsp
