import Uxsp.Js.CrossHandshake
import Uxsp.Js.CrossSession
import Uxsp.Js.CrossTrust
import Uxsp.Js.SealOpen
import Uxsp.Secure.Delivery
import Uxsp.Secure.EnvelopeSize

/-!
# Envelopes between the two SDKs

An identity holds one set of keys, which each SDK encodes its own way, and both modules for ML-KEM
and ML-DSA compute the same.  Then `seal` of JavaScript makes the fields and signatures that Python
would make, with a nonce twice as long and its fields in another order (`sealing_python`), and both
languages sign the same bytes (`signable_js`).
-/

namespace Uxsp

/-! ## Parties -/

/-- The identity as JavaScript holds it: all keys in base64, private ones of Web Crypto behind the
headers of `pkcs8`. -/
def Identity.js {P : Platform} (i : Identity P) : JsIdentity where
  entityId := JsStr.ofStr i.entityId
  exchange := {
    publicKey := JsStr.encodeBase64 i.keypair.exchange.publicKey
    privateKey := JsStr.encodeBase64 (pkcs8 0x6e i.keypair.exchange.privateKey) }
  kem := {
    publicKey := JsStr.encodeBase64 i.keypair.kem.publicKey
    privateKey := JsStr.encodeBase64 i.keypair.kem.privateKey }
  signing := {
    publicKey := JsStr.encodeBase64 i.keypair.signing.publicKey
    privateKey := JsStr.encodeBase64 (pkcs8 0x70 i.keypair.signing.privateKey) }
  pqcSig := {
    publicKey := JsStr.encodeBase64 i.keypair.pqcSig.publicKey
    privateKey := JsStr.encodeBase64 i.keypair.pqcSig.privateKey }

/-- `@oqs/liboqs-js` computes what the library of Python computes. -/
structure Oqs.Computes (oqs : Oqs) (P : Platform) : Prop where
  encapsulate : ∀ (publicKey : Bytes) (coins : Urandom 32),
    oqs.encapsulate publicKey coins = webResult (P.kemEncapsulate publicKey coins)
  decapsulate : ∀ ciphertext privateKey : Bytes,
    oqs.decapsulate ciphertext privateKey = webResult (P.kemDecapsulate privateKey ciphertext)
  sign : ∀ (data privateKey : Bytes) (coins : Urandom 32),
    oqs.sign data privateKey coins = webResult (P.pqcSign privateKey data coins)
  verify : ∀ data signature publicKey : Bytes,
    oqs.verify data signature publicKey = webResult (P.pqcVerify publicKey signature data)

variable {P : Platform} {R : JsRuntime} {oqs : Oqs}

/-- No key is a stub of the SDK, which is no base64. -/
theorem encodeBase64_ne_stub (b : Bytes) :
    JsStr.encodeBase64 b ≠ JsStr.ofString "STUB_MLKEM_PUB" ∧
      JsStr.encodeBase64 b ≠ JsStr.ofString "STUB_MLKEM_PRIV" ∧
      JsStr.encodeBase64 b ≠ JsStr.ofString "STUB_MLDSA_PRIV" := by
  have refused : JsStr.base64? (JsStr.ofString "STUB_MLKEM_PUB") = none ∧
      JsStr.base64? (JsStr.ofString "STUB_MLKEM_PRIV") = none ∧
      JsStr.base64? (JsStr.ofString "STUB_MLDSA_PRIV") = none := by decide +kernel
  have encoded := JsStr.base64?_encodeBase64 b
  refine ⟨fun same => ?_, fun same => ?_, fun same => ?_⟩
  · rw [same, refused.1] at encoded
    cases encoded
  · rw [same, refused.2.1] at encoded
    cases encoded
  · rw [same, refused.2.2] at encoded
    cases encoded

namespace Oqs.Computes

variable (computes : oqs.Computes P)

include computes

theorem verifiesAs : oqs.VerifiesAs P := by
  intro key signature data
  rw [computes.verify, webResult_eq_ok]

theorem encapsulateMLKEM (publicKey : Bytes) (coins : JsCoins) :
    (P.js R (some oqs)).encapsulateMLKEM (JsStr.encodeBase64 publicKey) coins =
      webResult (P.kemEncapsulate publicKey coins.kem) := by
  simp only [JsPlatform.encapsulateMLKEM, Platform.js, if_neg (encodeBase64_ne_stub publicKey).1,
    decodeBase64_encodeBase64, bind, Except.bind, computes.encapsulate]

theorem decapsulateMLKEM (ciphertext privateKey : Bytes) :
    (P.js R (some oqs)).decapsulateMLKEM ciphertext (JsStr.encodeBase64 privateKey) =
      webResult (P.kemDecapsulate privateKey ciphertext) := by
  simp only [JsPlatform.decapsulateMLKEM, Platform.js,
    if_neg (encodeBase64_ne_stub privateKey).2.1, decodeBase64_encodeBase64, bind, Except.bind,
    computes.decapsulate]

theorem signMLDSA (privateKey data : Bytes) (coins : Urandom 32) :
    (P.js R (some oqs)).signMLDSA (JsStr.encodeBase64 privateKey) data coins =
      webResult (P.pqcSign privateKey data coins) := by
  simp only [JsPlatform.signMLDSA, Platform.js, if_neg (encodeBase64_ne_stub privateKey).2.2,
    decodeBase64_encodeBase64, bind, Except.bind, computes.sign]

/-- With the module there is no stub. -/
theorem not_stubbed {publicKey kem s : Bytes} {coins : JsCoins}
    (encapsulated : (P.js R (some oqs)).encapsulateMLKEM (JsStr.encodeBase64 publicKey) coins =
      .ok (kem, s)) : JsHandshake.isPqcStubbed kem = false := by
  rw [computes.encapsulateMLKEM, ← computes.encapsulate] at encapsulated
  rw [JsHandshake.isPqcStubbed, (oqs.encapsulate_length encapsulated).1]
  rfl

end Oqs.Computes

theorem js_signEd25519 (oqs : Option Oqs) (privateKey data : Bytes) :
    (P.js R oqs).signEd25519 (JsStr.encodeBase64 (pkcs8 0x70 privateKey)) data =
      webResult (P.ed25519Sign privateKey data) := by
  simp only [JsPlatform.signEd25519, decodeBase64_encodeBase64]
  show (importPkcs8 0x70 (pkcs8 0x70 privateKey) >>= fun key =>
    webResult (P.ed25519Sign key data)) = _
  rw [Platform.importPkcs8_pkcs8]
  rfl

/-- An id that both languages write alike and that is not refused as empty. -/
def Identity.Named (i : Identity P) : Prop := i.entityId ≠ [] ∧ i.entityId.Encodable

/-! ## What both languages sign -/

/-- The fields as JavaScript signs them. -/
def SealedFields.jsPayload (R : JsRuntime) (f : SealedFields) : Bytes :=
  sealPayload f.ciphertext f.nonce (JsStr.ofStr f.senderId) (JsStr.ofStr f.recipientId)
    (R.numberToString (.finite f.timestamp)) (JsStr.ofStr f.envelopeNonce) f.ephemeralPub
    f.kemCiphertext

theorem signable_js (exact : R.ExactIntegers) {f : SealedFields} (small : |f.timestamp| < 2 ^ 53)
    {b : Bytes} (signable : f.signable P.toRuntime = .ok b) : f.jsPayload R = b := by
  simp only [SealedFields.signable, bind_eq_ok, Str.utf8_eq_ok] at signable
  obtain ⟨s, sender, r, recipient, t, stamp, n, nonce, bound⟩ := signable
  obtain ⟨_, rfl⟩ := bindFields_eq_ok.mp bound
  have printed := CrossTrust.utf8_number exact small stamp
  rw [exact.read _ small] at printed
  simp only [SealedFields.jsPayload, sealPayload, jsBindFields, JsStr.utf8_ofStr sender,
    JsStr.utf8_ofStr recipient, JsStr.utf8_ofStr nonce, printed]

/-- Between its marks a text takes a byte a character at least. -/
theorem length_lt_quoted (s : Str) : s.length < JsonText.quoted s := by
  have char : ∀ c : CodePoint, 0 < (JsonText.char c).length := by
    intro c
    unfold JsonText.char
    split
    · exact Nat.two_pos
    · split
      · exact Nat.one_pos
      · split <;> exact Nat.succ_pos _
  unfold JsonText.quoted
  induction s with
  | nil => exact Nat.zero_lt_succ _
  | cons c s ih =>
      have here := char c
      rw [JsonText.body, List.length_append, List.length_cons]
      omega

/-- What fits in an envelope can be bound. -/
theorem exists_signable_of_small {f : SealedFields} {sigs : Signatures} {nonce : Bytes}
    (drawn : f.envelopeNonce = nonce.hex) (sender : f.senderId.Encodable)
    (recipient : f.recipientId.Encodable) (printable : Str.printable f.timestamp)
    (small : (Secure.envelopeOf f sigs).compactSize ≤ Envelope.MAX_BYTES) :
    ∃ b, f.signable P.toRuntime = .ok b := by
  obtain ⟨s, sent⟩ := Option.isSome_iff_exists.mp sender
  obtain ⟨r, received⟩ := Option.isSome_iff_exists.mp recipient
  obtain ⟨n, encoded⟩ := Option.isSome_iff_exists.mp (hex_encode nonce)
  have stamp := Str.encode_ofInt f.timestamp
  simp only [Envelope.compactSize, Envelope.texts, Secure.envelopeOf, List.map_cons, List.map_nil,
    List.sum_cons, List.sum_nil, Secure.quoted_hex, drawn, Envelope.MAX_BYTES] at small
  have sLength := Str.length_encode sent
  have rLength := Str.length_encode received
  have nLength := Str.length_encode encoded
  have tLength := Str.length_encode stamp
  have sShort := length_lt_quoted f.senderId
  have rShort := length_lt_quoted f.recipientId
  rw [Bytes.length_hex] at nLength
  simp only [SealedFields.signable, bind_eq_ok, Str.utf8_eq_ok, timestampBytes_eq_ok, drawn,
    bindFields_eq_ok]
  refine ⟨_, s, sent, r, received, _, ⟨printable, stamp⟩, n, encoded, ?_, rfl⟩
  have tag : (Bytes.lit "UXSP-1").length < 2 ^ 32 := by decide
  simp only [List.forall_mem_cons, List.not_mem_nil, IsEmpty.forall_iff, implies_true, and_true]
  omega

/-! ## What `seal` of JavaScript makes -/

/-- An envelope of JavaScript with both signatures, as Python reads it. -/
def jsSealDict (f : SealedFields) (sigs : Signatures) : Dict :=
  [("version", .str "UXSP-1"), ("sender_id", .str f.senderId),
    ("recipient_id", .str f.recipientId), ("timestamp", .int f.timestamp),
    ("envelope_nonce", .str f.envelopeNonce), ("ciphertext", .str f.ciphertext.hex),
    ("nonce", .str f.nonce.hex), ("ephemeral_pub", .str f.ephemeralPub.hex),
    ("classical_sig", .str sigs.classicalSig), ("kem_ciphertext", .str f.kemCiphertext.hex),
    ("pqc_sig", .str sigs.pqcSig)]

/-- An envelope that JavaScript sealed, in the terms of Python. -/
structure SealedByJs (R : JsRuntime) (a b : Identity P) (plaintext : Bytes) (now : ℤ)
    (coins : JsSealCoins) (envelope : JsObject) (f : SealedFields) (sigs : Signatures) : Prop where
  senderId : f.senderId = a.entityId
  recipientId : f.recipientId = b.entityId
  timestamp : f.timestamp = unixSeconds now
  envelopeNonce : f.envelopeNonce = coins.envelopeNonce.1.hex
  encrypted : ∃ key, hybridSenderExchange P (extractPublicKeys b.keypair)
      ⟨coins.exchange.exchange, coins.exchange.kem⟩ = .ok ⟨key, f.ephemeralPub, f.kemCiphertext⟩ ∧
    Symmetric.encrypt P plaintext key [] coins.nonce = .ok ⟨f.ciphertext, f.nonce⟩
  signed : hybridSign P (f.jsPayload R) a.keypair coins.exchange.signing = .ok sigs
  written : JsVal.toItems envelope = jsSealDict f sigs

/-- The key exchange of JavaScript is the one of Python. -/
theorem sendExchange_python (computes : oqs.Computes P) {b : Identity P} {coins : JsCoins}
    {exchange : JsExchange}
    (exchanged : JsHandshake.sendExchange (P.js R (some oqs)) b.js.publicCard.publicKeys coins =
      .ok exchange) :
    hybridSenderExchange P (extractPublicKeys b.keypair) ⟨coins.exchange, coins.kem⟩ =
        .ok ⟨exchange.sharedKey, exchange.ephemeralPub, exchange.kemCiphertext⟩ ∧
      exchange.sharedKey.length = KEY_SIZE ∧
      JsHandshake.isPqcStubbed exchange.kemCiphertext = false := by
  obtain ⟨s, k, pub, shared, encapsulated, derived⟩ := JsSeal.sendExchange_facts exchanged
  have real := computes.not_stubbed encapsulated
  have ephemeral : exchange.ephemeralPub = P.x25519Public coins.exchange := by
    have decoded := congrArg decodeBase64 pub
    rw [decodeBase64_encodeBase64] at decoded
    exact Except.ok.inj (decoded.trans (decodeBase64_encodeBase64 _))
  have classical : P.x25519 coins.exchange b.keypair.exchange.publicKey = .ok s :=
    webResult_eq_ok.mp ((Platform.js_deriveSharedSecret _ _).symm.trans shared)
  have pqc : P.kemEncapsulate b.keypair.kem.publicKey coins.kem = .ok (exchange.kemCiphertext, k) :=
    webResult_eq_ok.mp ((computes.encapsulateMLKEM _ _).symm.trans encapsulated)
  rw [real, if_neg Bool.false_ne_true] at derived
  have key : P.hkdf 32 (some exchange.ephemeralPub) JsHandshake.exchangeInfo (s ++ k) =
      exchange.sharedKey := Except.ok.inj derived
  refine ⟨?_, ?_, real⟩
  · simp only [hybridSenderExchange, extractPublicKeys, classical, pqc, bind, Except.bind, pure,
      Except.pure, exchangeKey, deriveKey, ← ephemeral, ← key]
    rfl
  · rw [← key]
    exact P.hkdf_length _ _ _ _

theorem toVal_stamp {n : ℤ} (small : |n| < 2 ^ 53) :
    (JsVal.number (.finite n)).toVal = .int n := by
  have digits : ((n : ℚ)).den = 1 ∧ |(n : ℚ)| < 10 ^ 21 := by
    refine ⟨Rat.den_intCast n, ?_⟩
    have cast : |(n : ℚ)| < 2 ^ 53 := by exact_mod_cast small
    exact cast.trans (by norm_num)
  rw [JsVal.toVal, if_pos digits, Rat.num_intCast]

/-- What JavaScript seals is sealed for Python. -/
theorem sealing_python (computes : oqs.Computes P) {a b : Identity P} {plaintext : Bytes} {now : ℤ}
    {coins : JsSealCoins} {envelope : JsObject} (sender : a.entityId.Encodable)
    (recipient : b.entityId.Encodable) (small : |unixSeconds now| < 2 ^ 53)
    (made : a.js.seal (P.js R (some oqs)) b.js.publicCard plaintext [] now coins = .ok envelope) :
    ∃ f sigs, SealedByJs R a b plaintext now coins envelope f sigs := by
  obtain ⟨exchange, ciphertext, classicalSig, pqcSig, made⟩ := JsSeal.exists_sealing made
  obtain ⟨exchanged, size, real⟩ := sendExchange_python computes made.exchanged
  obtain ⟨s, sent⟩ := Option.isSome_iff_exists.mp sender
  obtain ⟨r, received⟩ := Option.isSome_iff_exists.mp recipient
  have bound : JsHandshake.boundCiphertext exchange.kemCiphertext = exchange.kemCiphertext := by
    rw [JsHandshake.boundCiphertext, real, if_neg Bool.false_ne_true]
  refine ⟨⟨ciphertext, coins.nonce, a.entityId, b.entityId, unixSeconds now,
    coins.envelopeNonce.1.hex, exchange.ephemeralPub, exchange.kemCiphertext⟩,
    ⟨classicalSig.hex, pqcSig.hex⟩, rfl, rfl, rfl, rfl, ⟨exchange.sharedKey, exchanged, ?_⟩, ?_, ?_⟩
  · exact Symmetric.encrypt_eq_ok.mpr ⟨size, rfl, webResult_eq_ok.mp made.encrypted⟩
  · have payload : JsSeal.sealedPayload (P.js R (some oqs)) a.js b.js.publicCard now coins exchange
        ciphertext = SealedFields.jsPayload R ⟨ciphertext, coins.nonce, a.entityId, b.entityId,
          unixSeconds now, coins.envelopeNonce.1.hex, exchange.ephemeralPub,
          exchange.kemCiphertext⟩ := by
      rw [JsSeal.sealedPayload, bound, ← JsStr.ofStr_hex]
      rfl
    have classical := made.classical
    have pqc := made.pqc real
    rw [payload] at classical pqc
    have classical' := webResult_eq_ok.mp ((js_signEd25519 (some oqs) _ _).symm.trans classical)
    have pqc' := webResult_eq_ok.mp ((computes.signMLDSA _ _ _).symm.trans pqc)
    rw [hybridSign, classical', pqc']
  · have stamp := toVal_stamp small
    rw [made.made, sealObject, pqcFields, real, if_neg Bool.false_ne_true,
      if_neg Bool.false_ne_true]
    have text : ∀ t : JsStr, (JsVal.string t).toVal = .str t.codePoints := fun t => rfl
    simp only [List.cons_append, List.nil_append, JsVal.toItems, text, stamp, codePoints_literal,
      JsStr.codePoints_ofBytes, Identity.js, JsIdentity.publicCard, JsStr.codePoints_ofStr sent,
      JsStr.codePoints_ofStr received]
    rfl

/-! ## Two parties -/

namespace CrossSample

open Secure

/-- A platform with the sizes of the suite, whose ML-KEM decapsulates any ciphertext. -/
def paired : Platform :=
  { suited with kemDecapsulate := fun _ ciphertext => .ok (Bytes.sized 32 ciphertext) }

def pairedOqs : Oqs where
  encapsulate := fun _ coins => .ok (coins ++ zeros 1056, coins)
  encapsulate_length := by
    intro publicKey coins ciphertext s encapsulated
    cases encapsulated
    exact ⟨@suited_sized.suite.kem [] _ _ coins rfl, coins.2⟩
  decapsulate := fun ciphertext _ => .ok (Bytes.sized 32 ciphertext)
  decapsulate_length := by
    intro ciphertext privateKey s opened
    cases opened
    exact Bytes.length_sized _ _
  sign := fun data privateKey _ => .ok (padded 3309 privateKey data)
  verify := fun data signature publicKey => .ok (signature == padded 3309 publicKey data)
  verify_length := by
    intro data signature publicKey valid
    rw [eq_of_beq (Except.ok.inj valid)]
    exact length_padded _ _ _

theorem paired_computes : ∀ oqs ∈ some pairedOqs, oqs.Computes paired := by
  rintro oqs ⟨⟩
  exact ⟨fun _ _ => rfl, fun _ _ => rfl, fun _ _ _ => rfl, fun _ _ _ => rfl⟩

theorem paired_sized : Sized paired where
  exchange := {
    agree := suited_sized.exchange.agree
    exchange_total := suited_sized.exchange.exchange_total
    public_size := suited_sized.exchange.public_size
    decapsulate := by
      intro seed coins ciphertext s encapsulated
      cases encapsulated
      refine congrArg Except.ok ?_
      rw [Bytes.sized, List.append_assoc, List.take_left' coins.2]
    encapsulate_total := suited_sized.exchange.encapsulate_total }
  signature := {
    classical := @fun key => @suited_sized.signature.classical key
    classical_total := suited_sized.signature.classical_total
    pqc := @fun seed coins => @suited_sized.signature.pqc seed coins
    pqc_total := suited_sized.signature.pqc_total }
  aead := {
    total := @fun key nonce data ad => @suited_sized.aead.total key nonce data ad
    open_seal := @fun key nonce data ad => @suited_sized.aead.open_seal key nonce data ad }
  tag := {
    sealed := @fun key nonce data ad => @suited_sized.tag.sealed key nonce data ad
    opened := @fun key nonce data ad => @suited_sized.tag.opened key nonce data ad }
  suite := {
    exchange := suited_sized.suite.exchange
    kem := @fun publicKey _ _ coins => @suited_sized.suite.kem publicKey _ _ coins
    classical := @fun key message => @suited_sized.suite.classical key message
    pqc := @fun key message _ coins => @suited_sized.suite.pqc key message _ coins }
  json := ⟨suited_sized.json.compact, suited_sized.json.dumps⟩

def alice : Identity paired := .generate paired "00000000-0000-4000-8000-00000000000a"
  (.filled 32 1) (.filled 64 1) (.filled 32 1) (.filled 32 1)

def bob : Identity paired := .generate paired "00000000-0000-4000-8000-00000000000b"
  (.filled 32 2) (.filled 64 2) (.filled 32 2) (.filled 32 2)

theorem alice_named : alice.Named := ⟨by decide, Str.encodable_ofString _⟩

theorem bob_named : bob.Named := ⟨by decide, Str.encodable_ofString _⟩

end CrossSample

end Uxsp
