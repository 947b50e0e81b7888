import Uxsp.Core.TrustRuns
import Uxsp.Js.Transparent
import Uxsp.Js.TrustAnchor
import Uxsp.Js.Wire

/-!
# The trust stores of the two SDKs

`Stores` is a store of each SDK, and a run makes the same calls on both, with what corresponds in
each language.  JavaScript takes a card without a signature of ML-DSA and a revocation list nobody
has signed, so the stores decide alike only in runs without such cards and lists:
`stores_decide_alike`.
-/

namespace Uxsp

/-- Integers below `2 ^ 53` are read and printed exactly. -/
structure JsRuntime.ExactIntegers (R : JsRuntime) : Prop where
  read : ∀ n : ℤ, |n| < 2 ^ 53 → R.integer n = .finite n
  print : ∀ n : ℤ, |n| < 2 ^ 53 → R.numberToString (.finite n) = JsStr.ofStr (Str.ofInt n)

/-- The module for JavaScript accepts the signatures of ML-DSA that Python's accepts. -/
def Oqs.VerifiesAs (oqs : Oqs) (P : Platform) : Prop :=
  ∀ key signature data : Bytes,
    oqs.verify data signature key = .ok true ↔ P.pqcVerify key signature data = .ok true

/-- A text without lone surrogates, which both languages write and read alike. -/
def Str.Encodable (s : Str) : Prop := s.encode.isSome = true

theorem Str.encodable_ofString (s : String) : (Str.ofString s).Encodable :=
  Option.isSome_of_eq_some (Str.encode_ofString s)

theorem JsStr.ofStr_inj {s t : Str} (hs : s.Encodable) (ht : t.Encodable)
    (same : JsStr.ofStr s = JsStr.ofStr t) : s = t := by
  obtain ⟨b, encoded⟩ := Option.isSome_iff_exists.mp hs
  obtain ⟨c, encoded'⟩ := Option.isSome_iff_exists.mp ht
  rw [← JsStr.codePoints_ofStr encoded, same, JsStr.codePoints_ofStr encoded']

namespace CrossTrust

variable {P : Platform} {R : JsRuntime} {oqs : Oqs}

/-! ## What corresponds -/

/-- The keys of a card or an anchor: in JavaScript in base64. -/
structure KeysMatch (keys : PublicKeys) (js : JsPublicKeys) : Prop where
  exchangePub : js.exchangePub.base64? = some keys.exchangePub
  kemPub : js.kemPub.base64? = some keys.kemPub
  signingPub : js.signingPub.base64? = some keys.signingPub
  pqcSigPub : js.pqcSigPub.base64? = some keys.pqcSigPub

/-- A second signature: one that is missing in JavaScript is empty in Python. -/
def PqcSigsMatch (R : JsRuntime) (pqcSig : Bytes) : Option JsStr → Prop
  | none => pqcSig = []
  | some hex => decodeHex R (.string hex) = .ok pqcSig

/-- A signed card, whoever made it. -/
structure CardsMatch (R : JsRuntime) (sc : SignedCard) (js : JsSignedCard) : Prop where
  entityId : js.card.entityId = JsStr.ofStr sc.card.entityId
  name : js.card.name = JsStr.ofStr sc.card.name
  role : js.card.role = JsStr.ofStr sc.card.role
  createdAt : js.card.createdAt = JsStr.ofStr sc.card.createdAt
  keys : KeysMatch sc.card.publicKeys js.card.publicKeys
  keyVersion : js.card.keyVersion = some (R.integer sc.card.keyVersion) ∨
    js.card.keyVersion = none ∧ sc.card.keyVersion = 1
  certId : js.certId = JsStr.ofStr sc.certId
  issuerId : js.issuerId = JsStr.ofStr sc.issuerId
  issuerName : js.issuerName = JsStr.ofStr sc.issuerName
  notBefore : js.notBefore = R.integer sc.notBefore
  notAfter : js.notAfter = R.integer sc.notAfter
  classicalSig : decodeHex R (.string js.classicalSig) = .ok sc.classicalSig
  pqcSig : PqcSigsMatch R sc.pqcSig js.pqcSig

/-- Revocation lists of the same certificates. -/
def CrlsMatch (crl : CertificateRevocationList) (js : JsCertificateRevocationList) : Prop :=
  ∀ key, key ∈ js.revokedCerts.map Prod.fst ↔
    ∃ id ∈ crl.revokedCerts.map Prod.fst, key = JsStr.ofStr id

/-! ## Runs -/

/-- A store of each SDK. -/
structure Stores where
  python : TrustStore
  js : JsTrustStore

def Stores.start : Stores := ⟨.empty, .empty⟩

/-- A call on both stores; a card is accepted or not in each. -/
inductive Event
  | added (anchor : PublicAnchor)
  | removed (anchorId : Str)
  | revoked (certId : Str)
  | listed (crl : CertificateRevocationList)
  | verified (sc : SignedCard) (expected : Option Str) (now : ℤ) (python js : Bool)

def Event.Agrees : Event → Prop
  | .verified _ _ _ python js => python = js
  | _ => True

inductive Step (P : Platform) (R : JsRuntime) (oqs : Oqs) (w : Stores) : Event → Stores → Prop
  | add {anchor : PublicAnchor} {js : JsPublicAnchor} :
      js.anchorId = JsStr.ofStr anchor.anchorId → KeysMatch anchor.publicKeys js.publicKeys →
      Step P R oqs w (.added anchor) ⟨w.python.add anchor, w.js.add js⟩
  | remove {anchorId : Str} : Step P R oqs w (.removed anchorId)
      ⟨w.python.remove anchorId, w.js.remove (JsStr.ofStr anchorId)⟩
  | revoke {certId : Str} {reason date : Val} {jsReason : JsStr} {jsDate : Option PyFloat}
      {now now' : ℚ} : Step P R oqs w (.revoked certId)
      ⟨w.python.revoke certId reason date now,
        w.js.revoke (JsStr.ofStr certId) jsReason jsDate now'⟩
  | addCrl {crl : CertificateRevocationList} {js : JsCertificateRevocationList} :
      CrlsMatch crl js →
      Step P R oqs w (.listed crl) ⟨(w.python.addCrl P crl).2, w.js.addCrl js⟩
  | verify {sc : SignedCard} {js : JsSignedCard} {expected : Option Str} {now : ℤ} :
      CardsMatch R sc js → Step P R oqs w (.verified sc expected now
        (succeeded (w.python.verify P sc now expected))
        (w.js.verify (P.js R (some oqs)) js (expected.map JsStr.ofStr) (.finite now)).isOk) w

/-- The card's numbers are small, its key version is not 0, and its texts are signed in Python. -/
structure Plain (R : Runtime) (sc : SignedCard) : Prop where
  signable : ∃ b, sc.signable R = .ok b
  issuerId : sc.issuerId.Encodable
  keyVersion : sc.card.keyVersion ≠ 0 ∧ |sc.card.keyVersion| < 2 ^ 53
  notBefore : |sc.notBefore| < 2 ^ 53
  notAfter : |sc.notAfter| < 2 ^ 53

/-- A card whose first signature verifies under the keys of its issuer has a second one. -/
def TwiceSigned (P : Platform) (store : TrustStore) (sc : SignedCard) : Prop :=
  ∀ anchor b, store.anchors.lookup sc.issuerId = some anchor →
    sc.signable P.toRuntime = .ok b →
      P.ed25519Verify anchor.publicKeys.signingPub sc.classicalSig b = true → sc.pqcSig ≠ []

/-- Python accepts a revocation list that says anything new; a card that comes is plain and signed
twice; an expected id is not empty; and no text has lone surrogates. -/
def Guarded (P : Platform) (w : Stores) : Event → Prop
  | .added anchor => anchor.anchorId.Encodable
  | .removed anchorId => anchorId.Encodable
  | .revoked certId => certId.Encodable
  | .listed crl => (∀ id ∈ crl.revokedCerts.map Prod.fst, id.Encodable) ∧
      ((w.python.addCrl P crl).1 = .ok () ∨
        ∀ id ∈ crl.revokedCerts.map Prod.fst, w.python.isRevoked id = true)
  | .verified sc expected _ _ _ => Plain P.toRuntime sc ∧ TwiceSigned P w.python sc ∧
      ∀ id ∈ expected, id.Encodable ∧ id ≠ []

def GuardedStep (P : Platform) (R : JsRuntime) (oqs : Oqs) (w : Stores) (e : Event) (w' : Stores) :
    Prop :=
  Step P R oqs w e w' ∧ Guarded P w e

/-! ## One card -/

variable {sc : SignedCard} {js : JsSignedCard} {w w' : Stores} {e : Event} {es : List Event}
  {id : Str}

/-- What both languages print of a small integer. -/
theorem utf8_number (exact : R.ExactIntegers) {n : ℤ} (small : |n| < 2 ^ 53) {b : Bytes}
    (printed : timestampBytes P.toRuntime n = .ok b) :
    JsStr.utf8 (R.numberToString (R.integer n)) = b := by
  rw [exact.read n small, exact.print n small]
  exact JsStr.utf8_ofStr (timestampBytes_eq_ok.mp printed).2

theorem decodeBase64_eq_ok {s : JsStr} {b : Bytes} :
    decodeBase64 s = .ok b ↔ s.base64? = some b := by
  unfold decodeBase64
  cases s.base64? with
  | none => exact ⟨nofun, nofun⟩
  | some c => simp

/-- The version of the keys is printed alike. -/
theorem CardsMatch.keyVersion_orOne (same : CardsMatch R sc js) (exact : R.ExactIntegers)
    (small : |sc.card.keyVersion| < 2 ^ 53) (nonzero : sc.card.keyVersion ≠ 0) :
    PyFloat.orOne js.card.keyVersion = R.integer sc.card.keyVersion := by
  rw [exact.read _ small]
  rcases same.keyVersion with given | ⟨absent, one⟩
  · have other : ((sc.card.keyVersion : ℚ)) ≠ 0 := Int.cast_ne_zero.mpr nonzero
    have differs : PyFloat.finite (sc.card.keyVersion : ℚ) ≠ .finite 0 :=
      fun equal => other (PyFloat.finite.inj equal)
    rw [given, exact.read _ small, PyFloat.orOne, if_neg differs]
    exact nofun
  · rw [absent, one]
    rfl

/-- Both SDKs verify a card over the same bytes. -/
theorem CardsMatch.signable (same : CardsMatch R sc js) (exact : R.ExactIntegers)
    (plain : Plain P.toRuntime sc) {b : Bytes} (signable : sc.signable P.toRuntime = .ok b) :
    jsCardSignable R js.card js.notBefore js.notAfter js.certId = .ok b := by
  obtain ⟨entityId, name, role, createdAt, keyVersion, notBefore, notAfter, certId, hentity, hname,
    hrole, hcreated, hversion, hbefore, hafter, hcert, bound⟩ := cardSignable_eq_ok.mp signable
  obtain ⟨_, rfl⟩ := bindFields_eq_ok.mp bound
  have version := utf8_number exact plain.keyVersion.2 hversion
  rw [← same.keyVersion_orOne exact plain.keyVersion.2 plain.keyVersion.1] at version
  have before := utf8_number exact plain.notBefore hbefore
  have after := utf8_number exact plain.notAfter hafter
  rw [← same.notBefore] at before
  rw [← same.notAfter] at after
  have exchangePub := decodeBase64_eq_ok.mpr same.keys.exchangePub
  have kemPub := decodeBase64_eq_ok.mpr same.keys.kemPub
  have signingPub := decodeBase64_eq_ok.mpr same.keys.signingPub
  have pqcSigPub := decodeBase64_eq_ok.mpr same.keys.pqcSigPub
  simp only [jsCardSignable, exchangePub, kemPub, signingPub, pqcSigPub, bind, Except.bind, pure,
    Except.pure, jsBindFields, version, before, after, same.entityId, same.name, same.role,
    same.createdAt, same.certId, JsStr.utf8_ofStr hentity, JsStr.utf8_ofStr hname,
    JsStr.utf8_ofStr hrole, JsStr.utf8_ofStr hcreated, JsStr.utf8_ofStr hcert]

/-- No key is the stub of the SDK, which is no base64. -/
theorem verifyMLDSA_iff (verifies : oqs.VerifiesAs P) {key : JsStr} {pub signature data : Bytes}
    (decoded : key.base64? = some pub) :
    (P.js R (some oqs)).verifyMLDSA key signature data = .ok true ↔
      P.pqcVerify pub signature data = .ok true := by
  have real : key ≠ JsStr.ofString "STUB_MLDSA_PUB" := by
    intro stub
    have none : JsStr.base64? (JsStr.ofString "STUB_MLDSA_PUB") = none := by decide +kernel
    rw [stub, none] at decoded
    cases decoded
  rw [← verifies]
  simp only [JsPlatform.verifyMLDSA, Platform.js, if_neg real, decodeBase64_eq_ok.mpr decoded, bind,
    Except.bind]

/-- A second signature that is there is verified in JavaScript as in Python. -/
theorem CardsMatch.checkPqcSig_iff (same : CardsMatch R sc js) (verifies : oqs.VerifiesAs P)
    (signed : sc.pqcSig ≠ []) {keys : PublicKeys} {jsKeys : JsPublicKeys}
    (decoded : KeysMatch keys jsKeys) (b : Bytes) :
    js.checkPqcSig (P.js R (some oqs)) jsKeys b = .ok () ↔
      P.pqcVerify keys.pqcSigPub sc.pqcSig b = .ok true := by
  have match' := same.pqcSig
  unfold JsSignedCard.checkPqcSig
  cases given : js.pqcSig with
  | none =>
      rw [given] at match'
      exact absurd match' signed
  | some hex =>
      rw [given] at match'
      cases hex with
      | nil => exact absurd (Except.ok.inj match').symm signed
      | cons u hex =>
          have long : 0 < sc.pqcSig.length := List.length_pos_of_ne_nil signed
          have read : decodeHex (P.js R (some oqs)).toJsRuntime (.string (u :: hex)) =
              .ok sc.pqcSig := match'
          rw [← verifyMLDSA_iff (R := R) verifies decoded.pqcSigPub]
          simp only [read, js_bind_eq_ok, Except.ok.injEq, exists_eq_left', long, if_true,
            jsEnsure_eq_ok, exists_eq_right]

/-- A number of Python is before another in JavaScript exactly if it is smaller. -/
theorem lt_integer (exact : R.ExactIntegers) {n : ℤ} (small : |n| < 2 ^ 53) (m : ℤ) :
    ((R.integer n).lt (.finite m) = false ↔ m ≤ n) ∧
      ((PyFloat.finite m).lt (R.integer n) = false ↔ n ≤ m) := by
  rw [exact.read n small]
  simp [PyFloat.lt]

variable (P R oqs) in
theorem verifyEd25519_iff {key : JsStr} {pub : Bytes} (decoded : key.base64? = some pub)
    (signature data : Bytes) :
    (P.js R (some oqs)).verifyEd25519 key signature data = .ok true ↔
      P.ed25519Verify pub signature data = true := by
  simp only [JsPlatform.verifyEd25519, decodeBase64_eq_ok.mpr decoded, bind, Except.bind,
    Platform.js, Except.ok.injEq]

theorem isOk_iff_exists {α : Type} {x : Except JsErr α} : x.isOk = true ↔ ∃ a, x = .ok a := by
  cases x with
  | error e => exact ⟨nofun, nofun⟩
  | ok a => exact ⟨fun _ => ⟨a, rfl⟩, fun _ => rfl⟩

/-- What JavaScript asks of a card whose issuer it trusts. -/
theorem JsAccepts_iff (same : CardsMatch R sc js) (exact : R.ExactIntegers)
    (verifies : oqs.VerifiesAs P) (plain : Plain P.toRuntime sc) {b : Bytes}
    (signable : sc.signable P.toRuntime = .ok b) {store : JsTrustStore} {anchor : JsPublicAnchor}
    {keys : PublicKeys} (trusted : store.anchors.lookup js.issuerId = some anchor)
    (decoded : KeysMatch keys anchor.publicKeys)
    (twice : P.ed25519Verify keys.signingPub sc.classicalSig b = true → sc.pqcSig ≠ [])
    (expected : Option JsStr) (now : ℤ) :
    (store.verify (P.js R (some oqs)) js expected (.finite now)).isOk = true ↔
      store.isRevoked js.certId = false ∧ sc.notBefore ≤ now ∧ now ≤ sc.notAfter ∧
        JsTrustStore.expects js expected = true ∧
        P.ed25519Verify keys.signingPub sc.classicalSig b = true ∧
        P.pqcVerify keys.pqcSigPub sc.pqcSig b = .ok true := by
  have found : store.issuerOf js = .ok anchor := by
    rw [JsTrustStore.issuerOf, trusted]
  have bytes : jsCardSignable (P.js R (some oqs)).toJsRuntime js.card js.notBefore js.notAfter
      js.certId = .ok b := same.signable exact plain signable
  have signature : decodeHex (P.js R (some oqs)).toJsRuntime (.string js.classicalSig) =
      .ok sc.classicalSig := same.classicalSig
  have early := (lt_integer exact plain.notBefore now).2
  have late := (lt_integer exact plain.notAfter now).1
  rw [← same.notBefore] at early
  rw [← same.notAfter] at late
  have first := verifyEd25519_iff P R oqs decoded.signingPub sc.classicalSig b
  simp only [isOk_iff_exists, JsTrustStore.verify, found, bytes, signature,
    JsSignedCard.checkTimeValidity, js_bind_eq_ok, js_pure_eq_ok, jsEnsure_eq_ok, Except.ok.injEq,
    exists_eq_left', Bool.not_eq_true', early, late]
  constructor
  · intro accepted
    obtain ⟨_, _, live, _, ⟨_, before, after⟩, _, wanted, valid, verified, _, sound, _, second, _⟩ :=
      accepted
    rw [sound] at verified
    have classical := first.mp verified
    exact ⟨live, before, after, wanted, classical,
      (same.checkPqcSig_iff verifies (twice classical) decoded b).mp second⟩
  · rintro ⟨live, before, after, wanted, classical, pqc⟩
    exact ⟨true, (), live, (), ⟨(), before, after⟩, (), wanted, true, first.mpr classical, (), rfl,
      (), (same.checkPqcSig_iff verifies (twice classical) decoded b).mpr pqc, rfl⟩

/-! ## Both stores -/

/-- Both stores trust the same anchors and hold the same certificates revoked. -/
structure Alike (w : Stores) : Prop where
  anchors : ∀ id : Str, id.Encodable →
    match w.python.anchors.lookup id, w.js.anchors.lookup (JsStr.ofStr id) with
    | none, none => True
    | some anchor, some js => KeysMatch anchor.publicKeys js.publicKeys
    | _, _ => False
  revoked : ∀ id : Str, id.Encodable →
    (w.python.isRevoked id = true ↔ w.js.isRevoked (JsStr.ofStr id) = true)

theorem Alike.start : Alike .start :=
  ⟨fun _ _ => trivial, fun _ _ => Iff.rfl⟩

theorem ofStr_beq {s t : Str} (hs : s.Encodable) (ht : t.Encodable) :
    (JsStr.ofStr s == JsStr.ofStr t) = (s == t) := by
  rw [Bool.eq_iff_iff, beq_iff_eq, beq_iff_eq]
  exact ⟨JsStr.ofStr_inj hs ht, congrArg JsStr.ofStr⟩

theorem Alike.add (alike : Alike w) {anchor : PublicAnchor} {js : JsPublicAnchor}
    (named : js.anchorId = JsStr.ofStr anchor.anchorId)
    (keys : KeysMatch anchor.publicKeys js.publicKeys) (text : anchor.anchorId.Encodable) :
    Alike ⟨w.python.add anchor, w.js.add js⟩ where
  anchors := by
    intro id encodable
    simp only [TrustStore.add, JsTrustStore.add, Assoc.lookup_set, named, ofStr_beq encodable text]
    by_cases same : (id == anchor.anchorId) = true
    · rw [if_pos same, if_pos same]
      exact keys
    · rw [if_neg same, if_neg same]
      exact alike.anchors id encodable
  revoked := alike.revoked

theorem Alike.remove (alike : Alike w) {anchorId : Str} (text : anchorId.Encodable) :
    Alike ⟨w.python.remove anchorId, w.js.remove (JsStr.ofStr anchorId)⟩ where
  anchors := by
    intro id encodable
    simp only [TrustStore.remove, JsTrustStore.remove, Assoc.lookup_erase,
      ofStr_beq encodable text]
    by_cases same : (id == anchorId) = true
    · rw [if_pos same, if_pos same]
      trivial
    · rw [if_neg same, if_neg same]
      exact alike.anchors id encodable
  revoked := alike.revoked

theorem Alike.revoke (alike : Alike w) {certId : Str} (text : certId.Encodable) (reason date : Val)
    (jsReason : JsStr) (jsDate : Option PyFloat) (now now' : ℚ) :
    Alike ⟨w.python.revoke certId reason date now,
      w.js.revoke (JsStr.ofStr certId) jsReason jsDate now'⟩ where
  anchors := alike.anchors
  revoked := by
    intro id encodable
    have before := alike.revoked id encodable
    simp only [TrustStore.isRevoked, JsTrustStore.isRevoked, TrustStore.revoke, JsTrustStore.revoke,
      Assoc.lookup_set, ofStr_beq encodable text] at before ⊢
    by_cases same : (id == certId) = true
    · simp only [if_pos same, Option.isSome_some]
    · simp only [if_neg same]
      exact before

theorem Alike.addCrl (alike : Alike w) {crl : CertificateRevocationList}
    {js : JsCertificateRevocationList} (same : CrlsMatch crl js)
    (text : ∀ id ∈ crl.revokedCerts.map Prod.fst, id.Encodable)
    (known : (w.python.addCrl P crl).1 = .ok () ∨
      ∀ id ∈ crl.revokedCerts.map Prod.fst, w.python.isRevoked id = true) :
    Alike ⟨(w.python.addCrl P crl).2, w.js.addCrl js⟩ := by
  have listed : ∀ id : Str, id.Encodable → (JsStr.ofStr id ∈ js.revokedCerts.map Prod.fst ↔
      id ∈ crl.revokedCerts.map Prod.fst) := by
    intro id encodable
    rw [same]
    constructor
    · intro ⟨other, mem, equal⟩
      rw [JsStr.ofStr_inj encodable (text other mem) equal]
      exact mem
    · exact fun mem => ⟨id, mem, rfl⟩
  have revoked : ∀ id : Str, id.Encodable → ((w.js.addCrl js).isRevoked (JsStr.ofStr id) = true ↔
      w.python.isRevoked id = true ∨ id ∈ crl.revokedCerts.map Prod.fst) := by
    intro id encodable
    rw [JsTrustStore.isRevoked, JsTrustStore.addCrl, Assoc.isSome_lookup_update, listed id encodable,
      alike.revoked id encodable]
    exact Iff.rfl
  cases added : (w.python.addCrl P crl).1 with
  | ok u =>
      obtain ⟨anchors, certs⟩ := TrustStore.addCrl_of_returned added
      refine ⟨fun id encodable => ?_, fun id encodable => ?_⟩
      · rw [anchors]
        exact alike.anchors id encodable
      · rw [certs, revoked id encodable]
  | error e =>
      rw [added] at known
      have nothing := known.resolve_left nofun
      rw [TrustStore.addCrl_of_raised added]
      refine ⟨alike.anchors, fun id encodable => ?_⟩
      rw [revoked id encodable]
      exact ⟨Or.inl, fun either => either.elim (fun old => old) (nothing id)⟩

theorem expects_iff (entity : js.card.entityId = JsStr.ofStr sc.card.entityId)
    (text : sc.card.entityId.Encodable) {expected : Option Str}
    (texts : ∀ id ∈ expected, id.Encodable ∧ id ≠ []) :
    JsTrustStore.expects js (expected.map JsStr.ofStr) = true ↔
      ∀ id ∈ expected, sc.card.entityId = id := by
  cases expected with
  | none => exact ⟨fun _ => nofun, fun _ => rfl⟩
  | some id =>
      obtain ⟨encodable, nonempty⟩ := texts id rfl
      have given : JsStr.ofStr id ≠ [] := fun empty =>
        nonempty (JsStr.ofStr_inj encodable rfl (empty.trans JsStr.ofStr_nil.symm))
      have compared : JsTrustStore.expects js (some (JsStr.ofStr id)) =
          (js.card.entityId == JsStr.ofStr id) := by
        unfold JsTrustStore.expects
        split
        · rename_i absent
          cases absent
        · rename_i empty
          exact absurd (Option.some.inj empty) given
        · rename_i found
          rw [Option.some.inj found]
      rw [Option.map_some, compared, entity, ofStr_beq text encodable, beq_iff_eq]
      simp

/-- The stores decide alike on a plain card that is signed twice. -/
theorem Alike.verify (alike : Alike w) (same : CardsMatch R sc js) (exact : R.ExactIntegers)
    (verifies : oqs.VerifiesAs P) (plain : Plain P.toRuntime sc)
    (twice : TwiceSigned P w.python sc) {expected : Option Str}
    (texts : ∀ id ∈ expected, id.Encodable ∧ id ≠ []) (now : ℤ) :
    succeeded (w.python.verify P sc now expected) =
      (w.js.verify (P.js R (some oqs)) js (expected.map JsStr.ofStr) (.finite now)).isOk := by
  obtain ⟨b, signable⟩ := plain.signable
  obtain ⟨_, _, _, _, _, _, _, _, hentity, -, -, -, -, -, -, hcert, -⟩ :=
    cardSignable_eq_ok.mp signable
  have entity : sc.card.entityId.Encodable := Option.isSome_of_eq_some hentity
  have cert : sc.certId.Encodable := Option.isSome_of_eq_some hcert
  have issuer := alike.anchors sc.issuerId plain.issuerId
  rw [Bool.eq_iff_iff, succeeded_eq_true]
  simp only [TrustStore.verify_eq_ok, TrustStore.signatureOk_iff, signable, Except.ok.injEq,
    exists_eq_left']
  cases found : w.python.anchors.lookup sc.issuerId with
  | none =>
      cases found' : w.js.anchors.lookup (JsStr.ofStr sc.issuerId) with
      | none =>
          have refused : (w.js.verify (P.js R (some oqs)) js (expected.map JsStr.ofStr)
              (.finite now)).isOk = false := by
            rw [JsTrustStore.verify, JsTrustStore.issuerOf, same.issuerId, found']
            rfl
          rw [refused]
          simp
      | some anchor' =>
          rw [found, found'] at issuer
          exact issuer.elim
  | some anchor =>
      cases found' : w.js.anchors.lookup (JsStr.ofStr sc.issuerId) with
      | none =>
          rw [found, found'] at issuer
          exact issuer.elim
      | some anchor' =>
          rw [found, found'] at issuer
          rw [← same.issuerId] at found'
          have signedTwice := twice anchor b found signable
          rw [JsAccepts_iff same exact verifies plain signable found' issuer signedTwice,
            expects_iff same.entityId entity texts, same.certId]
          have live : w.python.isRevoked sc.certId = false ↔
              w.js.isRevoked (JsStr.ofStr sc.certId) = false := by
            rw [← Bool.not_eq_true, ← Bool.not_eq_true, alike.revoked _ cert]
          rw [← live]
          simp only [Option.some.injEq, exists_eq_left']
          tauto

/-! ## Every run -/

theorem Alike.step (alike : Alike w) (exact : R.ExactIntegers) (verifies : oqs.VerifiesAs P)
    (step : GuardedStep P R oqs w e w') : Alike w' ∧ e.Agrees := by
  obtain ⟨step, guarded⟩ := step
  cases step with
  | add named keys => exact ⟨alike.add named keys guarded, trivial⟩
  | remove => exact ⟨alike.remove guarded, trivial⟩
  | revoke => exact ⟨alike.revoke guarded _ _ _ _ _ _, trivial⟩
  | addCrl same => exact ⟨alike.addCrl same guarded.1 guarded.2, trivial⟩
  | verify same =>
      obtain ⟨plain, twice, texts⟩ := guarded
      exact ⟨alike, alike.verify same exact verifies plain twice texts _⟩

/-- In every run with such calls the two stores accept the same cards. -/
theorem stores_decide_alike (exact : R.ExactIntegers) (verifies : oqs.VerifiesAs P)
    (run : Run (GuardedStep P R oqs) .start es w) : ∀ e ∈ es, e.Agrees := by
  have history : Alike w ∧ ∀ e ∈ es, e.Agrees := by
    refine run.history (I := fun es w => Alike w ∧ ∀ e ∈ es, e.Agrees) ?_ ⟨.start, nofun⟩
    intro es w e w' before step
    obtain ⟨alike, agrees⟩ := before.1.step exact verifies step
    refine ⟨alike, fun f mem => ?_⟩
    rcases List.mem_append.mp mem with old | last
    · exact before.2 f old
    · rw [List.mem_singleton.mp last]
      exact agrees
  exact history.2

/-! ## A card without a second signature -/

/-- Signatures of ML-DSA as `Oqs.transparent` makes them. -/
def samplePlatform : Platform :=
  { Platform.transparent with
    pqcSign := fun privateKey message _ => .ok (Bytes.sized 3309 (privateKey ++ message))
    pqcVerify := fun publicKey signature message =>
      .ok (signature == Bytes.sized 3309 (publicKey ++ message)) }

theorem samplePlatform_verifies : Oqs.transparent.VerifiesAs samplePlatform := by
  intro key signature data
  change Except.ok _ = _ ↔ Except.ok _ = _
  rw [Except.ok.injEq, Except.ok.injEq]

theorem plain_exact : JsRuntime.plain.ExactIntegers where
  read := fun _ _ => rfl
  print := by
    intro n _
    show JsStr.ofStr (Str.ofInt ⌊(n : ℚ)⌋) = _
    rw [Int.floor_intCast]

def sampleKeys : PublicKeys :=
  ⟨List.replicate 32 1, List.replicate 32 2, List.replicate 32 3, List.replicate 32 4⟩

def sampleJsKeys : JsPublicKeys where
  exchangePub := JsStr.encodeBase64 sampleKeys.exchangePub
  kemPub := JsStr.encodeBase64 sampleKeys.kemPub
  signingPub := JsStr.encodeBase64 sampleKeys.signingPub
  pqcSigPub := JsStr.encodeBase64 sampleKeys.pqcSigPub

theorem sampleKeys_match : KeysMatch sampleKeys sampleJsKeys :=
  ⟨by decide +kernel, by decide +kernel, by decide +kernel, by decide +kernel⟩

def sampleRecord : CardRecord where
  entityId := "B"
  publicKeys := sampleKeys
  isRevoked := false
  revocationReason := none
  validUntil := none
  name := "Bob"
  role := "member"
  createdAt := "2026"
  revokedAt := none
  keyVersion := 1

def sampleSignable : Bytes :=
  (cardSignable samplePlatform.toRuntime sampleRecord 0 10 "cert").toOption.getD []

/-- The card, signed by the holder of `sampleKeys` with Ed25519, and with these bytes beside it. -/
def sampleSigned (pqcSig : Bytes) : SignedCard where
  card := sampleRecord
  certId := "cert"
  issuerId := "anchor"
  issuerName := "Root"
  notBefore := 0
  notAfter := 10
  classicalSig := sampleKeys.signingPub ++ sampleSignable
  pqcSig := pqcSig

def sampleJsSigned (pqcSig : Bytes) : JsSignedCard where
  card := {
    entityId := "B"
    publicKeys := sampleJsKeys
    name := "Bob"
    role := "member"
    createdAt := "2026"
    keyVersion := none }
  certId := "cert"
  issuerId := "anchor"
  issuerName := "Root"
  notBefore := JsRuntime.plain.integer 0
  notAfter := JsRuntime.plain.integer 10
  classicalSig := JsStr.ofBytes (sampleKeys.signingPub ++ sampleSignable)
  pqcSig := some (JsStr.ofBytes pqcSig)

theorem sampleSigned_match (pqcSig : Bytes) :
    CardsMatch .plain (sampleSigned pqcSig) (sampleJsSigned pqcSig) where
  entityId := rfl
  name := rfl
  role := rfl
  createdAt := rfl
  keys := sampleKeys_match
  keyVersion := .inr ⟨rfl, rfl⟩
  certId := rfl
  issuerId := rfl
  issuerName := rfl
  notBefore := rfl
  notAfter := rfl
  classicalSig := decodeHex_ofBytes _ _
  pqcSig := decodeHex_ofBytes _ _

/-- Two stores that trust the holder of `sampleKeys`. -/
def sampleStores : Stores :=
  ⟨TrustStore.empty.add ⟨"anchor", "Root", sampleKeys, "2026"⟩,
    JsTrustStore.empty.add ⟨"anchor", sampleJsKeys⟩⟩

theorem sampleStores_step : Step samplePlatform .plain .transparent .start
    (.added ⟨"anchor", "Root", sampleKeys, "2026"⟩) sampleStores :=
  .add rfl sampleKeys_match

/-- What ML-DSA signs the sample card with. -/
def samplePqcSig : Bytes := Bytes.sized 3309 (sampleKeys.pqcSigPub ++ sampleSignable)

theorem sampleSigned_plain (pqcSig : Bytes) :
    Plain samplePlatform.toRuntime (sampleSigned pqcSig) where
  signable := by
    have computed : succeeded (cardSignable samplePlatform.toRuntime sampleRecord 0 10 "cert") =
        true := by decide +kernel
    exact succeeded_eq_true.mp computed
  issuerId := Str.encodable_ofString "anchor"
  keyVersion := ⟨one_ne_zero, by norm_num [sampleSigned, sampleRecord]⟩
  notBefore := by norm_num [sampleSigned]
  notAfter := by norm_num [sampleSigned]

/-- The card that both signed is decided alike. -/
theorem sampleStores_agree :
    succeeded (sampleStores.python.verify samplePlatform (sampleSigned samplePqcSig) 5 none) =
      (sampleStores.js.verify (samplePlatform.js .plain (some .transparent))
        (sampleJsSigned samplePqcSig) none (.finite (5 : ℤ))).isOk := by
  have second : Step samplePlatform .plain .transparent sampleStores
      (.verified (sampleSigned samplePqcSig) none 5 _ _) sampleStores :=
    .verify (sampleSigned_match samplePqcSig)
  have long : samplePqcSig.length = 3309 := Bytes.length_sized _ _
  have twice : TwiceSigned samplePlatform sampleStores.python (sampleSigned samplePqcSig) := by
    intro anchor b _ _ _ empty
    have empty : samplePqcSig = [] := empty
    rw [empty] at long
    cases long
  have run : Run (GuardedStep samplePlatform .plain .transparent) .start _ sampleStores :=
    .cons ⟨sampleStores_step, Str.encodable_ofString "anchor"⟩
      (.single ⟨second, sampleSigned_plain samplePqcSig, twice, nofun⟩)
  exact stores_decide_alike plain_exact samplePlatform_verifies run _ (.tail _ (.head _))

/-- A card that only Ed25519 signed is accepted in JavaScript alone. -/
theorem sampleStores_disagree : ¬ ∀ (P : Platform) (R : JsRuntime) (oqs : Oqs) (es : List Event)
    (w : Stores), R.ExactIntegers → oqs.VerifiesAs P → Run (Step P R oqs) .start es w →
      ∀ e ∈ es, e.Agrees := by
  intro always
  have second : Step samplePlatform .plain .transparent sampleStores
      (.verified (sampleSigned []) none 5 _ _) sampleStores := .verify (sampleSigned_match [])
  have agrees := always _ _ _ _ _ plain_exact samplePlatform_verifies
    (.cons sampleStores_step (.single second)) _ (.tail _ (.head _))
  have python : succeeded (sampleStores.python.verify samplePlatform (sampleSigned []) 5 none) =
      false := by decide +kernel
  have js : (sampleStores.js.verify (samplePlatform.js .plain (some .transparent))
      (sampleJsSigned []) none (.finite (5 : ℤ))).isOk = true := by decide +kernel
  exact Bool.false_ne_true (python.symm.trans (agrees.trans js))

end CrossTrust

end Uxsp
