import Uxsp.Js.CrossReceived

/-!
# Packages of Python in JavaScript

A chunk of Python is no envelope to JavaScript, which checks the chunks of a package before it opens
it, so JavaScript opens packages with one envelope only: `python_package_opened_iff`.
-/

namespace Uxsp

variable {P : Platform} {R : JsRuntime}

/-! ## JavaScript reads an envelope of Python -/

/-- An envelope of Python, as JavaScript reads it. -/
def pythonEnvelope (R : JsRuntime) (f : SealedFields) (classicalSig pqcSig : Bytes) : JsObject :=
  [("version", .string "UXSP-1"), ("sender_id", .string (JsStr.ofStr f.senderId)),
    ("recipient_id", .string (JsStr.ofStr f.recipientId)),
    ("timestamp", .number (R.integer f.timestamp)),
    ("envelope_nonce", .string (JsStr.ofStr f.envelopeNonce)),
    ("ciphertext", .string (JsStr.ofBytes f.ciphertext)),
    ("nonce", .string (JsStr.ofBytes f.nonce)),
    ("ephemeral_pub", .string (JsStr.ofBytes f.ephemeralPub)),
    ("kem_ciphertext", .string (JsStr.ofBytes f.kemCiphertext)),
    ("classical_sig", .string (JsStr.ofBytes classicalSig)),
    ("pqc_sig", .string (JsStr.ofBytes pqcSig))]

theorem ofItems_sealDict (R : JsRuntime) (f : SealedFields) (classicalSig pqcSig : Bytes) :
    R.ofItems (sealDict f ⟨classicalSig.hex, pqcSig.hex⟩) =
      some (pythonEnvelope R f classicalSig pqcSig) := by
  simp only [pythonEnvelope, ← JsStr.ofStr_hex]
  rfl

/-- What a call of `openSeal` has read before it verifies the signatures. -/
def pythonOpening (R : JsRuntime) (a b : Identity P) (f : SealedFields)
    (classicalSig pqcSig : Bytes) (clock : ℤ) : JsSeal.Opening where
  receiver := b.js
  senderKeys := a.js.publicCard.publicKeys
  associatedData := []
  now := clock
  timestamp := f.timestamp
  envelopeNonce := JsStr.ofStr f.envelopeNonce
  ciphertext := f.ciphertext
  nonce := f.nonce
  ephemeralPub := f.ephemeralPub
  kemCiphertext := some f.kemCiphertext
  classicalSig := classicalSig
  pqcSig := some (.string (JsStr.ofBytes pqcSig))
  sigPayload := f.jsPayload R

/-- The envelope passes the first checks of `openSeal`. -/
structure JsAdmits (seen : SeenNonces) (timestamp : ℤ) (nonce : Str) (clock : ℤ) : Prop where
  young : JsSeal.ageAt clock timestamp ≤ JsSeal.MAX_AGE_SECONDS
  past : -JsSeal.CLOCK_SKEW_SECONDS ≤ JsSeal.ageAt clock timestamp
  unseen : seen.lookup (JsStr.ofStr nonce) = none

section Open

variable {oqs : Option Oqs} {a b : Identity P} {f : SealedFields} {classicalSig pqcSig : Bytes}
  {seen : SeenNonces} {clock : ℤ}

theorem truthy_ofBytes {bytes : Bytes} (long : bytes ≠ []) :
    (JsVal.string (JsStr.ofBytes bytes)).truthy = true := by
  cases bytes with
  | nil => exact absurd rfl long
  | cons x bytes => rfl

theorem openBegin_python (exact : R.ExactIntegers) (senderId : f.senderId = a.entityId)
    (recipientId : f.recipientId = b.entityId) (safe : |f.timestamp| < 2 ^ 53) {nonce : Bytes}
    (drawn : f.envelopeNonce = nonce.hex) (long : nonce ≠ []) (kem : f.kemCiphertext ≠ [])
    (admits : JsAdmits seen f.timestamp f.envelopeNonce clock) :
    JsSeal.openBegin (P.js R oqs) seen b.js a.js.publicCard
      (pythonEnvelope R f classicalSig pqcSig) [] clock =
        .ok (pythonOpening R a b f classicalSig pqcSig clock) := by
  have recipient : (pythonEnvelope R f classicalSig pqcSig).get? "recipient_id" =
      some (.string (JsStr.ofStr f.recipientId)) := rfl
  have sender : (pythonEnvelope R f classicalSig pqcSig).get? "sender_id" =
      some (.string (JsStr.ofStr f.senderId)) := rfl
  have timestamp : (pythonEnvelope R f classicalSig pqcSig).get? "timestamp" =
      some (.number (R.integer f.timestamp)) := rfl
  have nonceField : (pythonEnvelope R f classicalSig pqcSig).get? "envelope_nonce" =
      some (.string (JsStr.ofStr f.envelopeNonce)) := rfl
  have kemField : (pythonEnvelope R f classicalSig pqcSig).get? "kem_ciphertext" =
      some (.string (JsStr.ofBytes f.kemCiphertext)) := rfl
  have mode : JsSeal.isPqcStubbed (pythonEnvelope R f classicalSig pqcSig) = false := rfl
  have item : ∀ {key : JsStr} {v : JsVal},
      (pythonEnvelope R f classicalSig pqcSig).get? key = some v →
        (pythonEnvelope R f classicalSig pqcSig).item key = .ok v := by
    intro key v found
    rw [JsObject.item, found]
  have checked : JsSeal.checkNonce (pythonEnvelope R f classicalSig pqcSig) =
      .ok (JsStr.ofStr f.envelopeNonce) := by
    rw [JsSeal.checkNonce, nonceField, drawn, JsStr.ofStr_hex]
    cases nonce with
    | nil => exact absurd rfl long
    | cons x nonce => rfl
  have fresh : JsSeal.freshTimestamp (P.js R oqs) (pythonEnvelope R f classicalSig pqcSig) clock =
      .ok f.timestamp := by
    rw [JsSeal.freshTimestamp, timestamp, exact.read _ safe]
    simp only [js_bind_eq_ok, jsEnsure_eq_ok, js_pure_eq_ok, decide_eq_true_eq, exists_const]
    exact ⟨admits.young, admits.past, trivial⟩
  have readKem : JsSeal.readKem (P.js R oqs) (pythonEnvelope R f classicalSig pqcSig) =
      .ok (some f.kemCiphertext) := by
    rw [JsSeal.readKem, mode, if_neg Bool.false_ne_true, kemField]
    simp only [js_bind_eq_ok, jsEnsure_eq_ok, js_pure_eq_ok]
    exact ⟨(), truthy_ofBytes kem, _, item kemField, _, decodeHex_ofBytes _ _, rfl⟩
  have ciphertext : (pythonEnvelope R f classicalSig pqcSig).item "ciphertext" =
      .ok (.string (JsStr.ofBytes f.ciphertext)) := item rfl
  have nonceItem : (pythonEnvelope R f classicalSig pqcSig).item "nonce" =
      .ok (.string (JsStr.ofBytes f.nonce)) := item rfl
  have ephemeralPub : (pythonEnvelope R f classicalSig pqcSig).item "ephemeral_pub" =
      .ok (.string (JsStr.ofBytes f.ephemeralPub)) := item rfl
  have classical : (pythonEnvelope R f classicalSig pqcSig).item "classical_sig" =
      .ok (.string (JsStr.ofBytes classicalSig)) := item rfl
  have unseen := Option.isNone_iff_eq_none.mpr admits.unseen
  simp only [JsSeal.openBegin, js_bind_eq_ok, jsEnsure_eq_ok, js_pure_eq_ok]
  refine ⟨(), ?_, (), ?_, _, fresh, _, checked, (), unseen, _, ciphertext, _,
    decodeHex_ofBytes _ _, _, nonceItem, _, decodeHex_ofBytes _ _, (), rfl, _, ephemeralPub, _,
    decodeHex_ofBytes _ _, _, readKem, _, classical, _, decodeHex_ofBytes _ _, ?_⟩
  · rw [recipient, recipientId]
    exact beq_self_eq_true _
  · rw [sender, senderId]
    exact beq_self_eq_true _
  · rw [pythonOpening, SealedFields.jsPayload, senderId, recipientId]
    rfl

/-- Both signatures of Python verify in JavaScript. -/
theorem verify_python {oqs : Oqs} (computes : oqs.Computes P) (signature : P.SignatureCorrect)
    (exact : R.ExactIntegers) (safe : |f.timestamp| < 2 ^ 53) {payload : Bytes}
    {coins : Urandom 32} (signable : f.signable P.toRuntime = .ok payload)
    (signed : hybridSign P payload a.keypair coins = .ok ⟨classicalSig.hex, pqcSig.hex⟩)
    (long : pqcSig ≠ []) :
    (pythonOpening R a b f classicalSig pqcSig clock).verify (P.js R (some oqs)) = .ok () := by
  obtain ⟨c, q, readC, readQ, classical, pqc⟩ :=
    hybridVerify_eq_true.mp (hybridVerify_sign signature a.generated signed)
  rw [fromHexVal, Str.fromHex_hex, Except.ok.injEq] at readC readQ
  subst readC readQ
  rw [← signable_js exact safe signable] at classical pqc
  have classicalValid := (CrossTrust.verifyEd25519_iff P R oqs
    (JsStr.base64?_encodeBase64 a.keypair.signing.publicKey) classicalSig (f.jsPayload R)).mpr
      classical
  have pqcValid := (CrossTrust.verifyMLDSA_iff (R := R) computes.verifiesAs
    (JsStr.base64?_encodeBase64 a.keypair.pqcSig.publicKey)).mpr pqc
  simp only [JsSeal.Opening.verify, JsSeal.Opening.verifyPqc, pythonOpening, js_bind_eq_ok,
    jsEnsure_eq_ok, exists_const]
  exact ⟨true, classicalValid, rfl, truthy_ofBytes long, _, decodeHex_ofBytes _ _, true, pqcValid,
    rfl⟩

/-- Without the module no signature of ML-DSA verifies. -/
theorem verify_python_none (R : JsRuntime) :
    (pythonOpening R a b f classicalSig pqcSig clock).verify (P.js R none) ≠ .ok () := by
  intro verified
  simp only [JsSeal.Opening.verify, JsSeal.Opening.verifyPqc, pythonOpening, js_bind_eq_ok,
    jsEnsure_eq_ok, exists_const] at verified
  obtain ⟨_, _, _, _, _, _, _, called, rfl⟩ := verified
  exact Bool.false_ne_true (Except.ok.inj called)

/-- The keys of the recipient decrypt it. -/
theorem decrypt_python {oqs : Oqs} (computes : oqs.Computes P) (exchange : P.ExchangeCorrect)
    (aead : P.AeadCorrect) {exchangeCoins : ExchangeCoins} {nonce : Urandom NONCE_SIZE}
    {key plaintext : Bytes}
    (exchanged : hybridSenderExchange P (extractPublicKeys b.keypair) exchangeCoins =
      .ok ⟨key, f.ephemeralPub, f.kemCiphertext⟩)
    (encrypted : Symmetric.encrypt P plaintext key [] nonce = .ok ⟨f.ciphertext, f.nonce⟩) :
    (pythonOpening R a b f classicalSig pqcSig clock).decrypt (P.js R (some oqs)) =
      .ok plaintext := by
  have agreed := hybridRecipientExchange_sender exchange b.generated exchanged
  simp only [hybridRecipientExchange, bind_eq_ok, pure_eq_ok] at agreed
  obtain ⟨classical, derived, secret, decapsulated, rfl⟩ := agreed
  obtain ⟨-, -, decrypted⟩ := Symmetric.decrypt_eq_ok.mp (Symmetric.decrypt_encrypt aead encrypted)
  have shared := (@Platform.js_deriveSharedSecret P R (some oqs) _ _).trans
    (webResult_eq_ok.mpr derived)
  have opened := (computes.decapsulateMLKEM (R := R) _ _).trans (webResult_eq_ok.mpr decapsulated)
  simp only [JsSeal.Opening.decrypt, JsSeal.Opening.combinedSecret, pythonOpening, js_bind_eq_ok,
    js_pure_eq_ok]
  exact ⟨_, ⟨classical, shared, secret, opened, rfl⟩, _, rfl, webResult_eq_ok.mpr decrypted⟩

end Open

/-! ## A package of Python -/

namespace JsSchema

/-- `typeof v === "boolean"`. -/
def isBoolean : Option JsVal → Bool
  | some (.bool _) => true
  | _ => false

/-- `validateEnvelope` of any value. -/
def validateEnvelopeValue : JsVal → Bool
  | .object env => validateEnvelope env
  | _ => false

/-- An envelope that is `null` or not there is not checked. -/
def validateEnvelopeField : Option JsVal → Bool
  | none | some .null => true
  | some v => validateEnvelopeValue v

/-- Chunks are checked if they are an array. -/
def validateChunksField : Option JsVal → Bool
  | some (.array chunks) => chunks.all validateEnvelopeValue
  | _ => true

/-- `validatePackage` of any object. -/
def validatePackageObject (p : JsObject) : Bool :=
  JsVal.isStr (p.get? "uxsp_package_version") "1.0" && isString (p.get? "sender_id") &&
    isString (p.get? "receiver_id") && isString (p.get? "data_type") &&
    isBoolean (p.get? "is_chunked") && validateEnvelopeField (p.get? "envelope") &&
    validateChunksField (p.get? "chunks")

end JsSchema

namespace JsClient

/-- The string in a field. -/
def stringOf : Option JsVal → JsStr
  | some (.string s) => s
  | _ => []

/-- The object in a field. -/
def objectOf : Option JsVal → Option JsObject
  | some (.object o) => some o
  | _ => none

/-- The objects of the array in a field. -/
def objectsOf : Option JsVal → List JsObject
  | some (.array xs) => xs.filterMap fun x => objectOf (some x)
  | _ => []

/-- An object as the package that its type says it is. -/
def asPackage (data : JsObject) : JsSecurePackage where
  uxspPackageVersion := stringOf (data.get? "uxsp_package_version")
  senderId := stringOf (data.get? "sender_id")
  receiverId := stringOf (data.get? "receiver_id")
  dataType := stringOf (data.get? "data_type")
  isChunked := (data.get? "is_chunked").any JsVal.truthy
  envelope := objectOf (data.get? "envelope")
  chunks := objectsOf (data.get? "chunks")
  metadata := (objectOf (data.get? "metadata")).getD []

/-- `parsePackage` of an object. -/
def parsePackage (data : JsObject) : Except JsErr JsSecurePackage := do
  jsEnsure (JsSchema.validatePackageObject data)
    ⟨.error, [.lit "Invalid UXSP SecurePackage payload format."]⟩
  return asPackage data

end JsClient

/-- A chunk of Python, as JavaScript reads it. -/
def jsChunkEntry (e : Symmetric.Encrypted) : JsVal :=
  .object [("c", .string (JsStr.ofStr e.ciphertext.hex)), ("n", .string (JsStr.ofStr e.nonce.hex))]

theorem ofVals_chunks (R : JsRuntime) (chunks : List Symmetric.Encrypted) :
    R.ofVals (chunks.map Secure.chunkEntry) = some (chunks.map jsChunkEntry) := by
  induction chunks with
  | nil => rfl
  | cons e chunks ih =>
      rw [List.map_cons, JsRuntime.ofVals, ih]
      rfl

/-- No chunk of Python is an envelope to JavaScript. -/
theorem validate_chunk (e : Symmetric.Encrypted) :
    JsSchema.validateEnvelopeValue (jsChunkEntry e) = false := rfl

/-- The object that JavaScript reads for a package of Python. -/
theorem ofItems_toDict {package : SecurePackage} {object : JsObject}
    (read : R.ofItems package.toDict = some object) :
    ∃ envelope chunks metadata, R.ofVal package.envelope = some envelope ∧
      R.ofVal package.chunks = some chunks ∧
        object = ([("uxsp_package_version", .string "1.0"),
          ("sender_id", .string (JsStr.ofStr package.senderId)),
          ("receiver_id", .string (JsStr.ofStr package.receiverId)),
          ("data_type", .string (JsStr.ofStr package.dataType)),
          ("is_chunked", .bool package.isChunked), ("envelope", envelope), ("chunks", chunks),
          ("metadata", metadata)] : JsObject) := by
  simp only [SecurePackage.toDict, JsRuntime.ofItems, JsRuntime.ofVal, Option.bind_eq_bind,
    Option.bind_some, Option.pure_def, Option.bind_eq_some_iff, Option.some.injEq] at read
  obtain ⟨_, ⟨_, ⟨_, ⟨_, ⟨_, ⟨envelope, sealedAs, _, ⟨chunks, listed, _, ⟨metadata, _, rfl⟩, rfl⟩,
    rfl⟩, rfl⟩, rfl⟩, rfl⟩, rfl⟩, rfl⟩ := read
  exact ⟨envelope, chunks, metadata, sealedAs, listed, rfl⟩

section Opened

variable {oqs : Option Oqs} {a b : Identity P} {peer : Secure.Peer} {payload : Bytes} {type : Str}
  {metadata : Dict} {checked stamp : ℚ} {coins : Secure.SendCoins} {package : SecurePackage}
  {object : JsObject} {seen : SeenNonces} {clock : ℕ → ℤ}

/-- What JavaScript makes of the text of a package: `parsePackage`, then `openEncryptedPackage`. -/
def JsOpens (J : JsPlatform) (seen : SeenNonces) (receiver : JsIdentity) (senderCard : JsPublicCard)
    (object : JsObject) (clock : ℕ → ℤ) (r : Bytes) : Prop :=
  ∃ pkg, JsClient.parsePackage object = .ok pkg ∧
    (JsClient.openEncryptedPackage J seen receiver senderCard pkg clock).1 = .ok r

/-- A package of chunks is not opened. -/
theorem chunked_not_opened {J : JsPlatform} {receiver : JsIdentity} {senderCard : JsPublicCard}
    {chunks : List Symmetric.Encrypted} (chunked : package.isChunked = true)
    (listed : package.chunks = .list (chunks.map Secure.chunkEntry))
    (read : R.ofItems package.toDict = some object) (r : Bytes) :
    ¬ JsOpens J seen receiver senderCard object clock r := by
  rintro ⟨pkg, parsed, opened⟩
  obtain ⟨envelope, value, metadata, -, chunksRead, rfl⟩ := ofItems_toDict read
  rw [listed, JsRuntime.ofVal, ofVals_chunks] at chunksRead
  obtain rfl := Option.some.inj chunksRead
  simp only [JsClient.parsePackage, js_bind_eq_ok, jsEnsure_eq_ok, js_pure_eq_ok] at parsed
  obtain ⟨_, valid, rfl⟩ := parsed
  have each : (chunks.map jsChunkEntry).all JsSchema.validateEnvelopeValue = true :=
    (Bool.and_eq_true _ _ ▸ valid : _ ∧ _).2
  cases chunks with
  | nil =>
      simp only [JsClient.openEncryptedPackage, chunked] at opened
      cases opened
  | cons e chunks => cases each

/-- A package of one envelope is opened as its envelope. -/
theorem single_opened_iff {J : JsPlatform} {receiver : JsIdentity} {senderCard : JsPublicCard}
    {f : SealedFields} {classicalSig pqcSig : Bytes} (single : package.isChunked = false)
    (sealedAs : package.envelope = .dict (sealDict f ⟨classicalSig.hex, pqcSig.hex⟩))
    (unlisted : package.chunks = .list []) (read : R.ofItems package.toDict = some object)
    (r : Bytes) : JsOpens J seen receiver senderCard object clock r ↔
      (JsSeal.openSeal J seen receiver senderCard (pythonEnvelope R f classicalSig pqcSig) []
        (clock 0)).1 = .ok r := by
  obtain ⟨envelope, value, metadata, envelopeRead, chunksRead, rfl⟩ := ofItems_toDict read
  rw [sealedAs, JsRuntime.ofVal, ofItems_sealDict] at envelopeRead
  obtain rfl := Option.some.inj envelopeRead
  rw [unlisted, JsRuntime.ofVal] at chunksRead
  obtain rfl := Option.some.inj chunksRead
  rw [single]
  constructor
  · rintro ⟨pkg, parsed, opened⟩
    simp only [JsClient.parsePackage, js_bind_eq_ok, jsEnsure_eq_ok, js_pure_eq_ok] at parsed
    obtain ⟨_, _, rfl⟩ := parsed
    exact opened
  · intro opened
    exact ⟨_, rfl, opened⟩

/-- JavaScript opens what Python sealed exactly if it has the module. -/
theorem openSeal_python_iff (computes : ∀ o ∈ oqs, o.Computes P) (laws : Secure.Sized P)
    (exact : R.ExactIntegers) {card : Card} {coins : SealCoins} {e : Envelope} {f : SealedFields}
    {signedBytes classicalSig pqcSig : Bytes}
    (made : SealedFor a payload card stamp coins e f signedBytes)
    (signed : hybridSign P signedBytes a.keypair coins.signing =
      .ok ⟨classicalSig.hex, pqcSig.hex⟩)
    (addressee : card.toPublicCard = b.publicCard) (safe : |⌊stamp⌋| < 2 ^ 53) {now : ℤ}
    (admits : JsAdmits seen ⌊stamp⌋ coins.envelopeNonce.1.hex now) (r : Bytes) :
    (JsSeal.openSeal (P.js R oqs) seen b.js a.js.publicCard
      (pythonEnvelope R f classicalSig pqcSig) [] now).1 = .ok r ↔ r = payload ∧ oqs.isSome := by
  obtain ⟨-, -, exchange, enc, exchanged, encrypted, fields⟩ := sealFields_eq_ok.mp made.fields
  have keys : card.publicKeys = extractPublicKeys b.keypair :=
    congrArg PublicCard.publicKeys addressee
  have recipientId : f.recipientId = b.entityId := by
    rw [fields]
    exact congrArg PublicCard.entityId addressee
  have timestamp : f.timestamp = ⌊stamp⌋ := by rw [fields]
  have drawn : f.envelopeNonce = coins.envelopeNonce.1.hex := by rw [fields]
  have kemCiphertext : f.kemCiphertext = exchange.kemCiphertext := by rw [fields]
  have kem : f.kemCiphertext ≠ [] := by
    have parts := exchanged
    simp only [hybridSenderExchange, bind_eq_ok, pure_eq_ok] at parts
    obtain ⟨_, _, ⟨ciphertext, _⟩, encapsulated, rfl⟩ := parts
    rw [kemCiphertext]
    exact List.ne_nil_of_length_eq_add_one (laws.suite.kem encapsulated)
  have long : pqcSig ≠ [] := by
    obtain ⟨-, q, same, longQ⟩ := Secure.hybridSign_sized laws.suite signed
    rw [Str.hex_inj.mp same]
    exact List.ne_nil_of_length_eq_add_one longQ
  rw [← timestamp] at safe
  rw [← timestamp, ← drawn] at admits
  have senderId : f.senderId = a.entityId := by rw [fields]
  have began : JsSeal.openBegin (P.js R oqs) seen b.js a.js.publicCard
      (pythonEnvelope R f classicalSig pqcSig) [] now =
        .ok (pythonOpening R a b f classicalSig pqcSig now) :=
    openBegin_python exact senderId recipientId safe drawn
      (List.ne_nil_of_length_eq_add_one coins.envelopeNonce.2) kem admits
  rw [JsSeal.openSeal, began]
  cases oqs with
  | none =>
      refine iff_of_false (fun opened => ?_) fun h => Bool.false_ne_true h.2
      cases verified : (pythonOpening R a b f classicalSig pqcSig now).verify (P.js R none) with
      | ok u => exact verify_python_none R verified
      | error e =>
          simp only [verified] at opened
          cases opened
  | some oqs =>
      have exchanged' : hybridSenderExchange P (extractPublicKeys b.keypair) coins.exchange =
          .ok ⟨exchange.sharedKey, f.ephemeralPub, f.kemCiphertext⟩ := by
        rw [← keys, fields]
        exact exchanged
      have encrypted' : Symmetric.encrypt P payload exchange.sharedKey [] coins.nonce =
          .ok ⟨f.ciphertext, f.nonce⟩ := by
        rw [fields]
        exact encrypted
      have verified : (pythonOpening R a b f classicalSig pqcSig now).verify (P.js R (some oqs)) =
          .ok () := verify_python (computes oqs rfl) laws.signature exact safe made.signable signed
            long
      have decrypted : (pythonOpening R a b f classicalSig pqcSig now).decrypt
          (P.js R (some oqs)) = .ok payload :=
        decrypt_python (computes oqs rfl) laws.exchange laws.aead exchanged' encrypted'
      simp only [verified, decrypted, Except.ok.injEq, Option.isSome_some, and_true, eq_comm]

/-- JavaScript opens a package of Python as its payload exactly if the module for ML-KEM and ML-DSA
is there and the payload is no longer than one envelope takes; and as nothing else. -/
theorem python_package_opened_iff (computes : ∀ o ∈ oqs, o.Computes P) (laws : Secure.Sized P)
    (exact : R.ExactIntegers)
    (sent : Secure.sendPayload a peer payload type metadata checked stamp coins = .ok package)
    (addressee : peer.card.toPublicCard = b.publicCard) (safe : |⌊stamp⌋| < 2 ^ 53)
    (read : R.ofItems package.toDict = some object)
    (admits : JsAdmits seen ⌊stamp⌋ coins.envelope.envelopeNonce.1.hex (clock 0)) (r : Bytes) :
    JsOpens (P.js R oqs) seen b.js a.js.publicCard object clock r ↔
      r = payload ∧ oqs.isSome ∧ payload.length ≤ Secure.ENVELOPE_LIMIT := by
  unfold Secure.sendPayload at sent
  split at sent
  · rename_i small
    simp only [bind_eq_ok, pure_eq_ok] at sent
    obtain ⟨env, made, rfl⟩ := sent
    obtain ⟨f, signed, sealedFor⟩ := sealFor_facts made
    obtain ⟨sigs, signs, written⟩ := sealedFor.dict
    obtain ⟨⟨c, classical, -⟩, q, pqc, -⟩ := Secure.hybridSign_sized laws.suite signs
    have hexes : sigs = ⟨c.hex, q.hex⟩ := by rw [← classical, ← pqc]
    rw [hexes] at signs written
    have sealedAs : Val.dict env.toDict = .dict (sealDict f ⟨c.hex, q.hex⟩) := congrArg _ written
    rw [single_opened_iff rfl sealedAs rfl read,
      openSeal_python_iff computes laws exact sealedFor signs addressee safe admits]
    exact ⟨fun h => ⟨h.1, h.2, small⟩, fun h => ⟨h.1, h.2.1⟩⟩
  · rename_i large
    simp only [bind_eq_ok, pure_eq_ok] at sent
    obtain ⟨env, -, packed, -, sealedChunks, -, rfl⟩ := sent
    exact iff_of_false (chunked_not_opened rfl rfl read r) fun h => large h.2.2

end Opened

/-! ## Alice in Python and Bob in a browser -/

namespace CrossSample

open Secure

def bobPeer : Peer := ⟨bob.entityId, bob.card⟩

def pythonCoins : SendCoins where
  envelope := {
    exchange := ⟨.filled 32 3, .filled 32 4⟩
    nonce := .filled 12 5
    envelopeNonce := .filled 16 6
    signing := .filled 32 7 }
  sessionKey := .filled 32 8
  transferId := .least
  chunkNonce := fun _ => .filled 12 9

theorem floor_stamp : ⌊(1700000000 : ℚ)⌋ = 1700000000 := by
  rw [show (1700000000 : ℚ) = ((1700000000 : ℤ) : ℚ) by norm_num, Int.floor_intCast]

theorem alice_sealable : Sealable alice bobPeer.card 1700000000 1700000000 where
  live := rfl
  valid := rfl
  keys := ⟨_, bob.generated, rfl⟩
  senderId := by decide
  recipientId := by decide
  stamp := by
    rw [floor_stamp]
    norm_num

/-- Bob opens what Alice sent. -/
theorem python_opened : ∃ package object,
    sendPayload alice bobPeer [1, 2, 3] "file" [] 1700000000 1700000000 pythonCoins =
      .ok package ∧
    JsRuntime.plain.ofItems package.toDict = some object ∧
    JsOpens (paired.js .plain (some pairedOqs)) [] bob.js alice.js.publicCard object
      (fun _ => 1700000000000) [1, 2, 3] := by
  have fits : sealedSize alice.entityId bobPeer.card.entityId 3 ≤ Envelope.MAX_BYTES := by
    decide +kernel
  have addressable : ([1, 2, 3] : Bytes).length < 2 ^ 63 := by norm_num
  obtain ⟨package, sent⟩ : ∃ package, sendPayload alice bobPeer [1, 2, 3] "file" [] 1700000000
      1700000000 pythonCoins = .ok package :=
    (exists_sent_iff paired_sized alice_sealable addressable).mpr (.inr fits)
  obtain ⟨object, read⟩ : ∃ object, JsRuntime.plain.ofItems package.toDict = some object := by
    have parts := sent
    rw [sendPayload, if_pos (by decide)] at parts
    simp only [bind_eq_ok, pure_eq_ok] at parts
    obtain ⟨env, -, rfl⟩ := parts
    exact ⟨_, rfl⟩
  have admits : JsAdmits [] ⌊(1700000000 : ℚ)⌋ pythonCoins.envelope.envelopeNonce.1.hex
      1700000000000 := by
    rw [floor_stamp]
    have age : JsSeal.ageAt 1700000000000 (1700000000 : ℤ) = 0 := by
      norm_num [JsSeal.ageAt, unixSeconds]
    refine ⟨?_, ?_, rfl⟩ <;> rw [age]
    · norm_num [JsSeal.MAX_AGE_SECONDS]
    · norm_num [JsSeal.CLOCK_SKEW_SECONDS]
  refine ⟨package, object, sent, read, (python_package_opened_iff paired_computes paired_sized
    CrossTrust.plain_exact sent rfl ?_ read admits _).mpr ⟨rfl, rfl, by decide⟩⟩
  rw [floor_stamp]
  norm_num

end CrossSample

end Uxsp
