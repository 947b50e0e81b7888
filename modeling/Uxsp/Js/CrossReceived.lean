import Uxsp.Js.Client
import Uxsp.Js.CrossEnvelope

/-!
# Packages of JavaScript in Python

A chunked package of JavaScript has an envelope for every chunk and none of its own, so Python opens
packages with one envelope only, and those up to its own limit: `js_package_received_iff`.
-/

namespace Uxsp

variable {P : Platform} {R : JsRuntime}

/-! ## Python reads an envelope of JavaScript -/

/-- A dict reads as one envelope at most. -/
theorem Envelope.Reads.unique {data : Dict} {e e' : Envelope} (reads : e.Reads P.toRuntime data)
    (reads' : e'.Reads P.toRuntime data) : e = e' := by
  have text : ∀ {key : Str} {s t : Str}, data.get? key = some (.str s) →
      data.get? key = some (.str t) → s = t :=
    fun found found' => Val.str.inj (Option.some.inj (found.symm.trans found'))
  obtain ⟨v, stamped, converted⟩ := reads.timestamp
  obtain ⟨v', stamped', converted'⟩ := reads'.timestamp
  obtain rfl := Option.some.inj (stamped.symm.trans stamped')
  have stamp : e.timestamp = e'.timestamp := Except.ok.inj (converted.symm.trans converted')
  have version := text reads.version reads'.version
  have senderId := text reads.senderId reads'.senderId
  have recipientId := text reads.recipientId reads'.recipientId
  have envelopeNonce := text reads.envelopeNonce reads'.envelopeNonce
  have ciphertext := text reads.ciphertext reads'.ciphertext
  have nonce := text reads.nonce reads'.nonce
  have ephemeralPub := text reads.ephemeralPub reads'.ephemeralPub
  have kemCiphertext := text reads.kemCiphertext reads'.kemCiphertext
  have classicalSig := text reads.classicalSig reads'.classicalSig
  have pqcSig := text reads.pqcSig reads'.pqcSig
  cases e
  cases e'
  rw [Envelope.mk.injEq]
  exact ⟨version, senderId, recipientId, stamp, envelopeNonce, ciphertext, nonce, ephemeralPub,
    kemCiphertext, classicalSig, pqcSig⟩

theorem exists_jsText {f : SealedFields} (sigs : Signatures)
    (printable : Str.printable f.timestamp) :
    ∃ text, JsonText.val .compact (.dict (jsSealDict f sigs)) = some text ∧
      text.length = (Secure.envelopeOf f sigs).compactSize := by
  obtain ⟨digits, written, length⟩ := Envelope.length_number printable
  have keys : Envelope.REQUIRED_FIELDS.map (fun k => (JsonText.body (Str.ofString k)).length) =
      [11, 14, 15, 14, 15, 6, 8, 13, 10, 10, 8] := by decide
  simp only [Envelope.REQUIRED_FIELDS, List.map_cons, List.map_nil, List.cons.injEq,
    and_true] at keys
  simp only [jsSealDict, JsonText.val, JsonText.members, written, Option.bind_eq_bind,
    Option.bind_some, Option.pure_def, Option.some.injEq, exists_eq_left',
    JsonText.Separators.compact]
  simp only [List.length_append, List.length_cons, List.length_nil, keys, Envelope.compactSize,
    Envelope.texts, Secure.envelopeOf, UXSP_VERSION, List.map_cons, List.map_nil, List.sum_cons,
    List.sum_nil, JsonText.quoted, ← length]
  omega

/-- The envelope is taken if its text is within the limit. -/
theorem fromDict_jsSealDict (json : P.JsonExact) {f : SealedFields} {sigs : Signatures}
    (printable : Str.printable f.timestamp) {e : Envelope} :
    Envelope.fromDict P.toRuntime (.dict (jsSealDict f sigs)) = .ok e ↔
      (Secure.envelopeOf f sigs).compactSize ≤ Envelope.MAX_BYTES ∧
        Secure.envelopeOf f sigs = e := by
  obtain ⟨text, written, length⟩ := exists_jsText sigs printable
  have compact := json.compact written
  have reads : (Secure.envelopeOf f sigs).Reads P.toRuntime (jsSealDict f sigs) := by
    constructor <;> simp [jsSealDict, Secure.envelopeOf, UXSP_VERSION]
  rw [Envelope.fromDict_eq_ok]
  constructor
  · rintro ⟨read, -, text', compact', small⟩
    obtain rfl := Except.ok.inj (compact.symm.trans compact')
    exact ⟨length ▸ small, reads.unique read⟩
  · rintro ⟨small, rfl⟩
    exact ⟨reads, rfl, text, compact, length ▸ small⟩

theorem printable_of_safe {n : ℤ} (small : |n| < 2 ^ 53) : Str.printable n := by
  have magnitude : n.natAbs < 10 ^ 16 := by
    rw [Int.abs_eq_natAbs] at small
    omega
  have printable := Str.printable_of_lt magnitude (by decide) (by decide)
  rwa [Str.printable, Int.natAbs_natCast] at printable

/-- An envelope with signatures of its sender is opened by its recipient, once the guard has let it
pass. -/
theorem openFrom_signed (signature : P.SignatureCorrect) {a b : Identity P} {f : SealedFields}
    {sigs : Signatures} {payload plaintext : Bytes} {coins : Urandom 32} {S : SeenStore}
    {s : S.State} {card : Card} {guard : ReplayGuard} {t : Identity.OpenReadings}
    (senderId : f.senderId = a.entityId) (recipientId : f.recipientId = b.entityId)
    (named : a.entityId ≠ [] ∧ b.entityId ≠ []) (nonce : f.envelopeNonce ≠ [])
    (signable : f.signable P.toRuntime = .ok payload)
    (signed : hybridSign P payload a.keypair coins = .ok sigs)
    (decrypts : decryptVerifiedEnvelope P (f.context sigs) b.keypair [] = .ok plaintext)
    (origin : card.toPublicCard = a.publicCard)
    (valid : card.verifyValidity P.toRuntime t.checked = .ok ())
    (admits : Admits guard S s f.timestamp f.envelopeNonce t) :
    (b.openFrom S s (Secure.envelopeOf f sigs).toDict card (some guard) t).1 = .ok plaintext := by
  have cardId : card.entityId = a.entityId := congrArg PublicCard.entityId origin
  have keys : card.publicKeys = extractPublicKeys a.keypair :=
    congrArg PublicCard.publicKeys origin
  have checks : b.openChecks (Secure.envelopeOf f sigs).toDict card (some guard) t.checked =
      .ok guard := by
    refine openChecks_eq_ok.mpr ⟨Card.verifyValidity_live valid, valid, ?_, ?_, rfl⟩
    · rw [← recipientId]
      simp [Envelope.toDict, Secure.envelopeOf]
    · rw [cardId, ← senderId]
      simp [Envelope.toDict, Secure.envelopeOf]
  have notStale : t.verify - f.timestamp ≤ guard.window :=
    (sub_le_sub_right t.verify_le _).trans admits.notStale
  have notFuture : -(guard.clockSkew : ℚ) ≤ t.verify - f.timestamp := by
    have early := t.fresh_le_verify
    have allowed := admits.notFuture
    linarith
  have verified := verifyEnvelope_sealDict signature a.generated signable signed
    (senderId ▸ named.1) (recipientId ▸ named.2) nonce notStale notFuture
  rw [senderId, recipientId, ← keys, ← cardId, ← Secure.toDict_envelopeOf] at verified
  have precheck := admits.precheck (R := P.toRuntime) (e := Secure.envelopeOf f sigs) nonce
  have committed := admits.commit (R := P.toRuntime) (e := Secure.envelopeOf f sigs) nonce
  simp only [Identity.openFrom, checks, precheck, Identity.openGuarded, verified]
  generalize guard.commit S P.toRuntime (S.isSeen s (Secure.envelopeOf f sigs).envelopeNonce
    t.seen).2 (.dict (Secure.envelopeOf f sigs).toDict) t.again t.mark = result at committed ⊢
  rcases result with ⟨_, s'⟩
  cases committed
  exact decrypts

namespace SealedByJs

variable {a b : Identity P} {plaintext : Bytes} {now : ℤ} {coins : JsSealCoins}
  {envelope : JsObject} {f : SealedFields} {sigs : Signatures}

/-- The keys of the recipient decrypt it. -/
theorem decrypts (made : SealedByJs R a b plaintext now coins envelope f sigs)
    (exchange : P.ExchangeCorrect) (aead : P.AeadCorrect) :
    decryptVerifiedEnvelope P (f.context sigs) b.keypair [] = .ok plaintext := by
  obtain ⟨key, exchanged, encrypted⟩ := made.encrypted
  have agreed := hybridRecipientExchange_sender exchange b.generated exchanged
  simp only [SealedFields.context, decryptVerifiedEnvelope, bind_eq_ok]
  exact ⟨key, agreed, Symmetric.decrypt_encrypt aead encrypted⟩

/-- The length of its text. -/
theorem compactSize (made : SealedByJs R a b plaintext now coins envelope f sigs)
    (tag : P.AeadSized) (suite : P.SuiteSized) :
    (Secure.envelopeOf f sigs).compactSize = 9286 + (Str.ofInt (unixSeconds now)).length +
      JsonText.quoted a.entityId + JsonText.quoted b.entityId + 2 * plaintext.length := by
  obtain ⟨key, exchanged, encrypted⟩ := made.encrypted
  obtain ⟨-, drawn, called⟩ := Symmetric.encrypt_eq_ok.mp encrypted
  obtain ⟨⟨c, classical, longC⟩, q, pqc, longQ⟩ := Secure.hybridSign_sized suite made.signed
  simp only [hybridSenderExchange, bind_eq_ok, pure_eq_ok, ExchangeResult.mk.injEq] at exchanged
  obtain ⟨-, -, ⟨kem, secret⟩, encapsulated, -, ephemeral, rfl⟩ := exchanged
  have tagged := tag.sealed called
  have nonce : f.nonce.length = 12 := (congrArg List.length drawn).trans coins.nonce.2
  have ephemeralPub : f.ephemeralPub.length = 32 := ephemeral ▸ suite.exchange _
  have kemCiphertext := suite.kem encapsulated
  have version : JsonText.quoted UXSP_VERSION = 8 := by decide
  simp only at tagged kemCiphertext
  simp only [Envelope.compactSize, Envelope.texts, Secure.envelopeOf, made.timestamp,
    made.senderId, made.recipientId, made.envelopeNonce, classical, pqc, List.map_cons,
    List.map_nil, List.sum_cons, List.sum_nil, Secure.quoted_hex, version, tagged, nonce,
    ephemeralPub, kemCiphertext, longC, longQ, coins.envelopeNonce.2]
  omega

/-- The recipient opens it. -/
theorem openFrom (made : SealedByJs R a b plaintext now coins envelope f sigs)
    (laws : Secure.Sized P) (exact : R.ExactIntegers) (alice : a.Named) (bob : b.Named)
    (small : |unixSeconds now| < 2 ^ 53)
    (fits : (Secure.envelopeOf f sigs).compactSize ≤ Envelope.MAX_BYTES) {S : SeenStore}
    {s : S.State} {card : Card} {guard : ReplayGuard} {t : Identity.OpenReadings}
    (origin : card.toPublicCard = a.publicCard)
    (valid : card.verifyValidity P.toRuntime t.checked = .ok ())
    (admits : Admits guard S s (unixSeconds now) coins.envelopeNonce.1.hex t) :
    (b.openFrom S s (Secure.envelopeOf f sigs).toDict card (some guard) t).1 = .ok plaintext := by
  have stamp : |f.timestamp| < 2 ^ 53 := made.timestamp ▸ small
  have printable := printable_of_safe stamp
  obtain ⟨payload, signable⟩ := exists_signable_of_small (P := P) made.envelopeNonce
    (made.senderId ▸ alice.2) (made.recipientId ▸ bob.2) printable fits
  have signed := made.signed
  rw [signable_js exact stamp signable] at signed
  have nonce : f.envelopeNonce ≠ [] := by
    intro none
    have size := congrArg List.length (made.envelopeNonce.symm.trans none)
    rw [Bytes.length_hex, coins.envelopeNonce.2] at size
    cases size
  rw [← made.timestamp, ← made.envelopeNonce] at admits
  exact openFrom_signed laws.signature made.senderId made.recipientId ⟨alice.1, bob.1⟩ nonce
    signable signed (made.decrypts laws.exchange laws.aead) origin valid admits

end SealedByJs

/-! ## A package of JavaScript -/

/-- The object that `JSON.stringify` writes. -/
def JsSecurePackage.toObject (pkg : JsSecurePackage) : JsObject :=
  [("uxsp_package_version", .string pkg.uxspPackageVersion), ("sender_id", .string pkg.senderId),
    ("receiver_id", .string pkg.receiverId), ("data_type", .string pkg.dataType),
    ("is_chunked", .bool pkg.isChunked),
    ("envelope", (pkg.envelope.map JsVal.object).getD .null),
    ("chunks", .array (pkg.chunks.map .object)), ("metadata", .object pkg.metadata)]

variable {J : JsPlatform} {sender : JsIdentity} {card : JsPublicCard} {plaintext : Bytes}
  {dataType : JsStr} {metadata : JsObject} {options : JsPackageOptions} {now : ℕ → ℤ}
  {coins : JsPackageCoins} {pkg : JsSecurePackage}

/-- What is common to the packages of one call, and which of them have an envelope. -/
theorem createEncryptedPackage_facts
    (created : JsClient.createEncryptedPackage J sender card plaintext dataType metadata options now
      coins = .ok pkg) :
    pkg.senderId = sender.entityId ∧ pkg.receiverId = card.entityId ∧
      ((options.shouldChunk plaintext.length = true ∧ pkg.envelope = none) ∨
        (options.shouldChunk plaintext.length = false ∧ pkg.isChunked = false ∧
          ∃ envelope, pkg.envelope = some envelope ∧
            sender.seal J card plaintext [] (now 0) (coins.seals 0) = .ok envelope)) := by
  unfold JsClient.createEncryptedPackage at created
  split at created
  · rename_i chunked
    simp only [JsClient.createPackage, js_bind_eq_ok, js_pure_eq_ok] at created
    obtain ⟨-, -, -, -, -, -, rfl⟩ := created
    exact ⟨rfl, rfl, .inl ⟨chunked, rfl⟩⟩
  · rename_i single
    simp only [JsClient.createPackage, js_bind_eq_ok, js_pure_eq_ok] at created
    obtain ⟨envelope, made, -, -, rfl⟩ := created
    exact ⟨rfl, rfl, .inr ⟨Bool.eq_false_iff.mpr single, rfl, envelope, rfl, made⟩⟩

/-- The package as Python reads it. -/
theorem fromDict_toObject (pkg : JsSecurePackage) :
    ∃ package, SecurePackage.fromDict P.toRuntime (.dict (JsVal.toItems pkg.toObject)) =
        .ok package ∧
      package.senderId = pkg.senderId.codePoints ∧
      package.receiverId = pkg.receiverId.codePoints ∧
      package.dataType = pkg.dataType.codePoints ∧ package.isChunked = pkg.isChunked ∧
      package.envelope = ((pkg.envelope.map JsVal.object).getD .null).toVal := by
  have text : ∀ t : JsStr, (JsVal.string t).toVal = .str t.codePoints := fun t => rfl
  simp only [SecurePackage.fromDict, JsSecurePackage.toObject, JsVal.toItems, codePoints_literal,
    Dict.get?_cons, String.reduceEq, if_false, if_true, Option.getD_some, text, Runtime.str_str]
  exact ⟨_, rfl, rfl, rfl, rfl, rfl, rfl⟩

/-- A call of Python for a package of `a`'s JavaScript: it names `a`, holds its live card and
expects the type of the package, and the guard lets the envelope pass. -/
structure Expects (a : Identity P) (guard : ReplayGuard) (S : SeenStore) (s : S.State)
    (call : Secure.ReceiveCall) (pkg : JsSecurePackage) (timestamp : ℤ) (nonce : Str) : Prop where
  input : call.input = .dict (JsVal.toItems pkg.toObject)
  senderId : call.sender.id = a.entityId
  senderCard : call.sender.card.toPublicCard = a.publicCard
  type : ∀ type ∈ call.expectedType, type = pkg.dataType.codePoints
  valid : call.sender.card.verifyValidity P.toRuntime call.readings.checked = .ok ()
  admits : Admits guard S s timestamp nonce call.readings

/-- How long the text of an envelope of JavaScript is. -/
def jsSealedSize (timestamp : ℤ) (senderId recipientId : Str) (plaintext : ℕ) : ℕ :=
  9286 + (Str.ofInt timestamp).length + JsonText.quoted senderId + JsonText.quoted recipientId +
    2 * plaintext

section Receive

variable {oqs : Option Oqs} {a b : Identity P} {guard : ReplayGuard} {S : SeenStore} {s : S.State}
  {call : Secure.ReceiveCall}

/-- Python resolves the package. -/
theorem Expects.resolved (alice : a.Named) (bob : b.Named)
    (created : JsClient.createEncryptedPackage (P.js R oqs) a.js b.js.publicCard plaintext dataType
      metadata options now coins = .ok pkg) {timestamp : ℤ} {nonce : Str}
    (expects : Expects a guard S s call pkg timestamp nonce) :
    ∃ package : SecurePackage, call.resolved P.toRuntime b.entityId = .ok package ∧
      package.isChunked = pkg.isChunked ∧
      package.envelope = ((pkg.envelope.map JsVal.object).getD .null).toVal := by
  obtain ⟨fromSender, toReceiver, -⟩ := createEncryptedPackage_facts created
  obtain ⟨package, built, named, addressed, typed, chunked, envelope⟩ :=
    fromDict_toObject (P := P) pkg
  obtain ⟨_, sent⟩ := Option.isSome_iff_exists.mp alice.2
  obtain ⟨_, received⟩ := Option.isSome_iff_exists.mp bob.2
  have senderId : package.senderId = a.entityId := by
    rw [named, fromSender]
    exact JsStr.codePoints_ofStr sent
  have receiverId : package.receiverId = b.entityId := by
    rw [addressed, toReceiver]
    exact JsStr.codePoints_ofStr received
  refine ⟨package, Secure.resolved_eq_ok.mpr ⟨?_, ?_⟩, chunked, envelope⟩
  · rw [expects.input]
    exact built
  · simp only [Secure.checkPackage, bind_eq_ok, ensure_eq_ok, decide_eq_true_eq, senderId,
      receiverId, expects.senderId, exists_const, true_and]
    cases expected : call.expectedType with
    | none => rfl
    | some type =>
        rw [typed]
        exact decide_eq_true (expects.type type expected).symm

/-- A package that is one envelope is received as what is in it. -/
theorem receivePayload_single {package : SecurePackage} {data : Dict} {env : Envelope}
    (resolved : call.resolved P.toRuntime b.entityId = .ok package)
    (unchunked : package.isChunked = false) (field : package.envelope = .dict data)
    (built : Envelope.fromDict P.toRuntime (.dict data) = .ok env)
    (opened : (b.openFrom S s env.toDict call.sender.card (some guard) call.readings).1 =
      .ok plaintext) : (Secure.receivePayload b guard S s call).1 = .ok plaintext := by
  have found : Secure.packageEnvelope P.toRuntime package = .ok env := by
    simp only [Secure.packageEnvelope, bind_eq_ok, ensure_eq_ok, field, unchunked]
    exact ⟨(), rfl, (), rfl, built⟩
  rw [Secure.receivePayload, resolved]
  simp only [Secure.openPackage, found]
  generalize b.openFrom S s env.toDict call.sender.card (some guard) call.readings = result
    at opened ⊢
  obtain ⟨_, s'⟩ := result
  cases opened
  simp only [Secure.contents, unchunked, Bool.false_eq_true, if_false]

/-- An envelope without ML-KEM is refused for its missing fields. -/
theorem no_pqc_refused {recipient : JsIdentity} {envelope : JsObject} {now : ℤ}
    {coins : JsSealCoins} {e : Envelope}
    (made : sender.seal (P.js R none) recipient.publicCard plaintext [] now coins = .ok envelope)
    (read : Envelope.fromDict P.toRuntime (.dict (JsVal.toItems envelope)) = .ok e) : False := by
  obtain ⟨exchange, ciphertext, classicalSig, pqcSig, made⟩ := JsSeal.exists_sealing made
  obtain ⟨_, _, _, _, encapsulated, _⟩ := JsSeal.sendExchange_facts made.exchanged
  have stub : JsHandshake.isPqcStubbed exchange.kemCiphertext = true := by
    rw [← (Prod.mk.inj (Except.ok.inj encapsulated)).1, JsHandshake.isPqcStubbed,
      coins.exchange.stubCiphertext.property]
    rfl
  have absent := (Envelope.fromDict_eq_ok.mp read).1.kemCiphertext
  rw [made.made, sealObject, pqcFields, stub, if_pos rfl] at absent
  simp [JsVal.toItems, codePoints_literal] at absent

/-- Python returns the plaintext of a package of JavaScript exactly if the module for ML-KEM and
ML-DSA was there, the package has not been chunked, and the text of its envelope is within the
limit; and it returns nothing else. -/
theorem js_package_received_iff (computes : ∀ o ∈ oqs, o.Computes P) (laws : Secure.Sized P)
    (exact : R.ExactIntegers) (alice : a.Named) (bob : b.Named)
    (safe : |unixSeconds (now 0)| < 2 ^ 53)
    (created : JsClient.createEncryptedPackage (P.js R oqs) a.js b.js.publicCard plaintext dataType
      metadata options now coins = .ok pkg)
    (expects : Expects a guard S s call pkg (unixSeconds (now 0))
      (coins.seals 0).envelopeNonce.1.hex) (r : Bytes) :
    (Secure.receivePayload b guard S s call).1 = .ok r ↔
      r = plaintext ∧ oqs.isSome ∧ options.shouldChunk plaintext.length = false ∧
        jsSealedSize (unixSeconds (now 0)) a.entityId b.entityId plaintext.length ≤
          Envelope.MAX_BYTES := by
  obtain ⟨package, resolved, chunked, envelopeField⟩ := expects.resolved alice bob created
  obtain ⟨-, -, ⟨large, absent⟩ | ⟨single, whole, envelope, present, made⟩⟩ :=
    createEncryptedPackage_facts created
  · -- a chunked package has no envelope
    refine iff_of_false (fun returned => ?_) fun h => ?_
    · obtain ⟨package', env, _, resolved', found, -⟩ := Secure.receivePayload_facts returned
      obtain rfl := Except.ok.inj (resolved.symm.trans resolved')
      simp only [Secure.packageEnvelope, bind_eq_ok, ensure_eq_ok, envelopeField, absent] at found
      obtain ⟨-, -, -, has, -⟩ := found
      cases has
    · rw [large] at h
      cases h.2.2.1
  · have field : package.envelope = .dict (JsVal.toItems envelope) := by
      rw [envelopeField, present]
      rfl
    have unchunked := chunked.trans whole
    cases oqs with
    | none =>
        refine iff_of_false (fun returned => ?_) fun h => Bool.false_ne_true h.2.1
        obtain ⟨package', env, _, resolved', found, -⟩ := Secure.receivePayload_facts returned
        obtain rfl := Except.ok.inj (resolved.symm.trans resolved')
        simp only [Secure.packageEnvelope, bind_eq_ok, field] at found
        obtain ⟨-, -, -, -, read⟩ := found
        exact no_pqc_refused made read
    | some oqs =>
        obtain ⟨f, sigs, sealedBy⟩ := sealing_python (computes oqs rfl) alice.2 bob.2 safe made
        have printable := printable_of_safe (sealedBy.timestamp ▸ safe)
        have size := sealedBy.compactSize laws.tag laws.suite
        have opens : jsSealedSize (unixSeconds (now 0)) a.entityId b.entityId plaintext.length ≤
            Envelope.MAX_BYTES → (Secure.receivePayload b guard S s call).1 = .ok plaintext := by
          intro fits
          rw [jsSealedSize, ← size] at fits
          have built : Envelope.fromDict P.toRuntime (.dict (jsSealDict f sigs)) =
              .ok (Secure.envelopeOf f sigs) :=
            (fromDict_jsSealDict laws.json printable).mpr ⟨fits, rfl⟩
          have opened := sealedBy.openFrom laws exact alice bob safe fits expects.senderCard
            expects.valid expects.admits
          exact receivePayload_single resolved unchunked (field.trans (sealedBy.written ▸ rfl))
            built opened
        constructor
        · intro returned
          obtain ⟨package', env, _, resolved', found, -⟩ := Secure.receivePayload_facts returned
          obtain rfl := Except.ok.inj (resolved.symm.trans resolved')
          simp only [Secure.packageEnvelope, bind_eq_ok, field, sealedBy.written] at found
          obtain ⟨-, -, -, -, read⟩ := found
          have fits := ((fromDict_jsSealDict laws.json printable).mp read).1
          rw [size] at fits
          have again := (opens fits).symm.trans returned
          exact ⟨(Except.ok.inj again).symm, rfl, single, fits⟩
        · rintro ⟨rfl, -, -, fits⟩
          exact opens fits

end Receive

/-! ## Alice in a browser and Bob in Python -/

namespace CrossSample

def jsCoins : JsPackageCoins where
  transferId := .least
  seals := fun _ => {
    exchange := .transparent 3
    nonce := .filled 12 4
    envelopeNonce := .filled 32 5 }

def jsOptions : JsPackageOptions := ⟨true, none, none⟩

def jsCreate : Except JsErr JsSecurePackage :=
  JsClient.createEncryptedPackage (paired.js .plain (some pairedOqs)) alice.js bob.js.publicCard
    [1, 2, 3] "FILE" [] jsOptions (fun _ => 1000000) jsCoins

theorem jsCreate_isOk : jsCreate.isOk = true := by decide +kernel

def jsCall (pkg : JsSecurePackage) : Secure.ReceiveCall where
  sender := ⟨alice.entityId, alice.card⟩
  input := .dict (JsVal.toItems pkg.toObject)
  expectedType := none
  readings := Secure.sampleReadings

theorem js_admits : Admits .default MemoryNonceStore.seenStore .empty (unixSeconds 1000000)
    (jsCoins.seals 0).envelopeNonce.1.hex Secure.sampleReadings where
  notStale := by decide +kernel
  notFuture := by decide +kernel
  unseen := rfl
  marked := Except.of_toOption (by decide +kernel)

/-- Bob receives what Alice sent. -/
theorem js_received : ∃ pkg, jsCreate = .ok pkg ∧
    (Secure.receivePayload bob .default MemoryNonceStore.seenStore .empty (jsCall pkg)).1 =
      .ok [1, 2, 3] := by
  obtain ⟨pkg, created⟩ := CrossTrust.isOk_iff_exists.mp jsCreate_isOk
  have expects : Expects alice .default MemoryNonceStore.seenStore .empty (jsCall pkg) pkg
      (unixSeconds 1000000) (jsCoins.seals 0).envelopeNonce.1.hex := by
    refine ⟨rfl, rfl, rfl, ?_, rfl, js_admits⟩
    rintro type ⟨⟩
  refine ⟨pkg, created, (js_package_received_iff paired_computes paired_sized
    CrossTrust.plain_exact alice_named bob_named ?_ created expects _).mpr ⟨rfl, rfl, rfl, ?_⟩⟩
  · decide
  · decide +kernel

end CrossSample

end Uxsp
