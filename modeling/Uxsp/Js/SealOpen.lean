import Uxsp.Js.Seal
import Uxsp.Js.Transparent

/-!
# Opening what was sealed in `seal.ts`

`decrypt_seal`: with the keys that an envelope was sealed for, decryption returns the plaintext.
-/

namespace Uxsp

/-! ## Laws -/

/-- AES-GCM opens what it encrypted. -/
structure JsPlatform.AeadCorrect (J : JsPlatform) : Prop where
  open_seal : ∀ {key nonce plaintext associatedData ciphertext : Bytes},
    J.aesGcmEncrypt key nonce plaintext associatedData = .ok ciphertext →
      J.aesGcmDecrypt key nonce ciphertext associatedData = .ok plaintext

/-- The private keys of an identity belong to its public ones: Diffie-Hellman agrees with an
ephemeral key, and a secret of ML-KEM is decapsulated. -/
structure JsIdentity.Paired (J : JsPlatform) (ours : JsIdentity) : Prop where
  exchange : ∀ {coins : Urandom 32} {s : Bytes},
    J.deriveSharedSecret (J.generateX25519KeyPair coins).privateKey ours.exchange.publicKey =
      .ok s →
    J.deriveSharedSecret ours.exchange.privateKey (J.generateX25519KeyPair coins).publicKey =
      .ok s
  kem : ∀ {coins : JsCoins} {ciphertext s : Bytes},
    J.encapsulateMLKEM ours.kem.publicKey coins = .ok (ciphertext, s) →
    JsHandshake.isPqcStubbed ciphertext = false →
    J.decapsulateMLKEM ciphertext ours.kem.privateKey = .ok s

/-- A private key behind the header of `pkcs8`. -/
def webKeypair (P : Platform) (key : Bytes) : JsKeypair where
  publicKey := JsStr.encodeBase64 (P.x25519Public key)
  privateKey := JsStr.encodeBase64 (pkcs8 0x6e key)

namespace Platform

variable {P : Platform} {R : JsRuntime} {oqs : Option Oqs}

theorem js_aead (aead : P.AeadCorrect) : (P.js R oqs).AeadCorrect where
  open_seal := fun made => webResult_eq_ok.mpr (aead.open_seal (webResult_eq_ok.mp made))

theorem importPkcs8_pkcs8 (curve : UInt8) (key : Bytes) :
    importPkcs8 curve (pkcs8 curve key) = .ok key := by
  rw [importPkcs8, pkcs8, Bytes.dropPrefix_append]

/-- Both keys of `deriveSharedSecret` are decoded. -/
theorem js_deriveSharedSecret (mine theirs : Bytes) :
    (P.js R oqs).deriveSharedSecret (JsStr.encodeBase64 (pkcs8 0x6e mine))
      (JsStr.encodeBase64 theirs) = webResult (P.x25519 mine theirs) := by
  simp only [JsPlatform.deriveSharedSecret, decodeBase64_encodeBase64]
  show (importPkcs8 0x6e (pkcs8 0x6e mine) >>= fun key => webResult (P.x25519 key theirs)) = _
  rw [importPkcs8_pkcs8]
  rfl

/-- Diffie-Hellman agrees with the key pair of an ephemeral key. -/
theorem js_agree (correct : P.ExchangeCorrect) {key : Bytes} {coins : Urandom 32} {s : Bytes}
    (shared : (P.js R oqs).deriveSharedSecret ((P.js R oqs).generateX25519KeyPair coins).privateKey
      (webKeypair P key).publicKey = .ok s) :
    (P.js R oqs).deriveSharedSecret (webKeypair P key).privateKey
      ((P.js R oqs).generateX25519KeyPair coins).publicKey = .ok s := by
  rw [webKeypair] at shared ⊢
  have sent : P.x25519 coins (P.x25519Public key) = .ok s :=
    webResult_eq_ok.mp ((js_deriveSharedSecret _ _).symm.trans shared)
  exact (js_deriveSharedSecret _ _).trans (webResult_eq_ok.mpr (correct.agree sent))

end Platform

variable {J : JsPlatform} {sender receiver : JsIdentity} {card : JsPublicCard} {now : ℤ}
  {coins : JsSealCoins} {plaintext associatedData : Bytes} {envelope : JsObject}

namespace JsSeal

/-! ## What is in an envelope -/

/-- What a call of `seal` signs. -/
def sealedPayload (J : JsPlatform) (sender : JsIdentity) (card : JsPublicCard) (now : ℤ)
    (coins : JsSealCoins) (exchange : JsExchange) (ciphertext : Bytes) : Bytes :=
  sealPayload ciphertext coins.nonce sender.entityId card.entityId
    (J.numberToString (.finite (unixSeconds now))) (JsStr.ofBytes coins.envelopeNonce)
    exchange.ephemeralPub (JsHandshake.boundCiphertext exchange.kemCiphertext)

/-- A call of `seal` that returned, in its parts. -/
structure Sealing (J : JsPlatform) (sender : JsIdentity) (card : JsPublicCard)
    (plaintext associatedData : Bytes) (now : ℤ) (coins : JsSealCoins) (envelope : JsObject)
    (exchange : JsExchange) (ciphertext classicalSig pqcSig : Bytes) : Prop where
  exchanged : JsHandshake.sendExchange J card.publicKeys coins.exchange = .ok exchange
  encrypted : J.aesGcmEncrypt exchange.sharedKey coins.nonce plaintext associatedData =
    .ok ciphertext
  classical : J.signEd25519 sender.signing.privateKey
    (sealedPayload J sender card now coins exchange ciphertext) = .ok classicalSig
  pqc : JsHandshake.isPqcStubbed exchange.kemCiphertext = false →
    J.signMLDSA sender.pqcSig.privateKey
      (sealedPayload J sender card now coins exchange ciphertext) coins.exchange.signing =
        .ok pqcSig
  made : envelope = sealObject sender card (.finite (unixSeconds now))
    (JsStr.ofBytes coins.envelopeNonce) ciphertext coins.nonce exchange
    (JsStr.ofBytes classicalSig)
    (if JsHandshake.isPqcStubbed exchange.kemCiphertext then [] else JsStr.ofBytes pqcSig)

theorem exists_sealing
    (made : sender.seal J card plaintext associatedData now coins = .ok envelope) :
    ∃ exchange ciphertext classicalSig pqcSig, Sealing J sender card plaintext associatedData now
      coins envelope exchange ciphertext classicalSig pqcSig := by
  simp only [JsIdentity.seal, js_bind_eq_ok, js_pure_eq_ok, Prod.exists] at made
  obtain ⟨exchange, exchanged, ciphertext, encrypted, classicalSig, pqcSig, signed, rfl⟩ := made
  simp only [JsHandshake.signBoth, js_bind_eq_ok] at signed
  obtain ⟨classical, signedClassical, signed⟩ := signed
  cases stub : JsHandshake.isPqcStubbed exchange.kemCiphertext with
  | true =>
      rw [stub, if_pos rfl, js_pure_eq_ok] at signed
      cases signed
      refine ⟨exchange, ciphertext, classical, [], exchanged, encrypted, signedClassical, ?_, ?_⟩
      · rw [stub]
        rintro ⟨⟩
      · rw [stub, if_pos rfl]
  | false =>
      rw [stub, if_neg Bool.false_ne_true] at signed
      simp only [js_bind_eq_ok, js_pure_eq_ok] at signed
      obtain ⟨pqc, signedPqc, same⟩ := signed
      cases same
      refine ⟨exchange, ciphertext, classical, pqc, exchanged, encrypted, signedClassical,
        fun _ => signedPqc, ?_⟩
      rw [stub, if_neg Bool.false_ne_true]

variable {exchange : JsExchange} {ciphertext classicalSig pqcSig : Bytes}

/-- The secrets behind a key that was sent. -/
theorem sendExchange_facts {theirs : JsPublicKeys} {c : JsCoins}
    (exchanged : JsHandshake.sendExchange J theirs c = .ok exchange) :
    ∃ s k, JsStr.encodeBase64 exchange.ephemeralPub =
        (J.generateX25519KeyPair c.exchange).publicKey ∧
      J.deriveSharedSecret (J.generateX25519KeyPair c.exchange).privateKey theirs.exchangePub =
        .ok s ∧
      J.encapsulateMLKEM theirs.kemPub c = .ok (exchange.kemCiphertext, k) ∧
      J.hkdf (if JsHandshake.isPqcStubbed exchange.kemCiphertext then s else s ++ k)
        exchange.ephemeralPub JsHandshake.exchangeInfo 32 = .ok exchange.sharedKey := by
  simp only [JsHandshake.sendExchange, js_bind_eq_ok, js_pure_eq_ok, Prod.exists] at exchanged
  obtain ⟨ephemeralPub, decoded, s, shared, kem, k, encapsulated, key, derived, rfl⟩ := exchanged
  refine ⟨s, k, ?_, shared, encapsulated, derived⟩
  rw [JsPlatform.generateX25519KeyPair, decodeBase64_encodeBase64] at decoded
  cases decoded
  rfl

/-- A ciphertext of ML-KEM that is no stub has its size. -/
theorem encapsulateMLKEM_length {publicKey : JsStr} {c : JsCoins} {kem k : Bytes}
    (encapsulated : J.encapsulateMLKEM publicKey c = .ok (kem, k))
    (real : JsHandshake.isPqcStubbed kem = false) : kem.length = 1088 := by
  have stubbed : ∀ {k' : Bytes},
      (.ok (c.stubCiphertext.val, k') : Except JsErr (Bytes × Bytes)) ≠ .ok (kem, k) := by
    intro k' same
    rw [← (Prod.mk.inj (Except.ok.inj same)).1, JsHandshake.isPqcStubbed,
      c.stubCiphertext.property] at real
    cases real
  unfold JsPlatform.encapsulateMLKEM at encapsulated
  split at encapsulated
  · split at encapsulated
    · exact absurd encapsulated stubbed
    · obtain ⟨_, _, encapsulated⟩ := js_bind_eq_ok.mp encapsulated
      rename_i oqs _ _ _ _ _
      exact (oqs.encapsulate_length encapsulated).1
  · exact absurd encapsulated stubbed

namespace Sealing

/-! ## Reading an envelope -/

/-- The mode of an envelope is `"none"` where its ciphertext of ML-KEM is a stub. -/
theorem stub (made : Sealing J sender card plaintext associatedData now coins envelope exchange
    ciphertext classicalSig pqcSig) :
    isPqcStubbed envelope = JsHandshake.isPqcStubbed exchange.kemCiphertext := by
  rw [isPqcStubbed, made.made]
  show JsVal.isStr (JsObject.get? (pqcFields exchange.kemCiphertext _) "pqc_mode") "none" = _
  rw [pqcFields]
  cases JsHandshake.isPqcStubbed exchange.kemCiphertext <;> rfl

theorem pqcFields_real (made : Sealing J sender card plaintext associatedData now coins envelope
    exchange ciphertext classicalSig pqcSig)
    (real : JsHandshake.isPqcStubbed exchange.kemCiphertext = false) :
    envelope.get? "kem_ciphertext" = some (.string (JsStr.ofBytes exchange.kemCiphertext)) ∧
      envelope.get? "pqc_sig" = some (.string (JsStr.ofBytes pqcSig)) := by
  rw [made.made]
  show JsObject.get? (pqcFields exchange.kemCiphertext _) "kem_ciphertext" = _ ∧
    JsObject.get? (pqcFields exchange.kemCiphertext _) "pqc_sig" = _
  rw [pqcFields, real, if_neg Bool.false_ne_true, if_neg Bool.false_ne_true]
  exact ⟨rfl, rfl⟩

theorem readKem (made : Sealing J sender card plaintext associatedData now coins envelope exchange
    ciphertext classicalSig pqcSig) :
    JsSeal.readKem J envelope = .ok (if JsHandshake.isPqcStubbed exchange.kemCiphertext then none
      else some exchange.kemCiphertext) := by
  rw [JsSeal.readKem, made.stub]
  cases stub : JsHandshake.isPqcStubbed exchange.kemCiphertext with
  | true => rfl
  | false =>
      have found := (made.pqcFields_real stub).1
      have item : envelope.item "kem_ciphertext" =
          .ok (.string (JsStr.ofBytes exchange.kemCiphertext)) := by
        rw [JsObject.item, found]
      obtain ⟨_, _, _, _, encapsulated, _⟩ := sendExchange_facts made.exchanged
      have long := JsStr.length_ofBytes exchange.kemCiphertext
      rw [encapsulateMLKEM_length encapsulated stub] at long
      have truthy : (JsVal.string (JsStr.ofBytes exchange.kemCiphertext)).truthy = true := by
        cases digits : JsStr.ofBytes exchange.kemCiphertext with
        | nil =>
            rw [digits] at long
            cases long
        | cons _ _ => rfl
      rw [if_neg Bool.false_ne_true, if_neg Bool.false_ne_true, found]
      simp only [js_bind_eq_ok, jsEnsure_eq_ok, js_pure_eq_ok]
      exact ⟨(), truthy, _, item, _, decodeHex_ofBytes _ _, rfl⟩

/-- What a call of `openSeal` that passes the first checks has read. -/
def opening (J : JsPlatform) (sender receiver : JsIdentity) (card senderCard : JsPublicCard)
    (associated : Bytes) (now clock : ℤ) (coins : JsSealCoins) (envelope : JsObject)
    (exchange : JsExchange) (ciphertext classicalSig : Bytes) : Opening where
  receiver := receiver
  senderKeys := senderCard.publicKeys
  associatedData := associated
  now := clock
  timestamp := unixSeconds now
  envelopeNonce := JsStr.ofBytes coins.envelopeNonce
  ciphertext := ciphertext
  nonce := coins.nonce
  ephemeralPub := exchange.ephemeralPub
  kemCiphertext :=
    if JsHandshake.isPqcStubbed exchange.kemCiphertext then none else some exchange.kemCiphertext
  classicalSig := classicalSig
  pqcSig := envelope.get? "pqc_sig"
  sigPayload := sealedPayload J sender card now coins exchange ciphertext

/-- The first checks of `openSeal`, for an envelope of `seal`. -/
structure Admitted (sender receiver : JsIdentity) (card senderCard : JsPublicCard)
    (now clock : ℤ) (coins : JsSealCoins) (stub : Bool) (seen : SeenNonces) : Prop where
  recipient : card.entityId = receiver.entityId
  sender : sender.entityId = senderCard.entityId
  young : ageAt clock (unixSeconds now) ≤ MAX_AGE_SECONDS
  past : -CLOCK_SKEW_SECONDS ≤ ageAt clock (unixSeconds now)
  unseen : seen.lookup (JsStr.ofBytes coins.envelopeNonce) = none
  capable : (stub && 32 < senderCard.publicKeys.pqcSigPub.length) = false

theorem openBegin_eq_ok (made : Sealing J sender card plaintext associatedData now coins envelope
    exchange ciphertext classicalSig pqcSig) {seen : SeenNonces} {senderCard : JsPublicCard}
    {associated : Bytes} {clock : ℤ} {o : Opening} :
    openBegin J seen receiver senderCard envelope associated clock = .ok o ↔
      Admitted sender receiver card senderCard now clock coins
        (JsHandshake.isPqcStubbed exchange.kemCiphertext) seen ∧
      opening J sender receiver card senderCard associated now clock coins envelope exchange
        ciphertext classicalSig = o := by
  have recipient : envelope.get? "recipient_id" = some (.string card.entityId) := by
    rw [made.made]
    rfl
  have senderId : envelope.get? "sender_id" = some (.string sender.entityId) := by
    rw [made.made]
    rfl
  have timestamp : envelope.get? "timestamp" = some (.number (.finite (unixSeconds now))) := by
    rw [made.made]
    rfl
  have nonceField : envelope.get? "envelope_nonce" =
      some (.string (JsStr.ofBytes coins.envelopeNonce)) := by
    rw [made.made]
    rfl
  have ciphertextItem : envelope.item "ciphertext" = .ok (.string (JsStr.ofBytes ciphertext)) := by
    rw [made.made]
    rfl
  have nonceItem : envelope.item "nonce" = .ok (.string (JsStr.ofBytes coins.nonce)) := by
    rw [made.made]
    rfl
  have pubItem : envelope.item "ephemeral_pub" =
      .ok (.string (JsStr.ofBytes exchange.ephemeralPub)) := by
    rw [made.made]
    rfl
  have sigItem : envelope.item "classical_sig" =
      .ok (.string (JsStr.ofBytes classicalSig)) := by
    rw [made.made]
    rfl
  have checked : checkNonce envelope = .ok (JsStr.ofBytes coins.envelopeNonce) := by
    have long := JsStr.length_ofBytes coins.envelopeNonce.val
    rw [coins.envelopeNonce.property] at long
    rw [checkNonce, nonceField]
    cases digits : JsStr.ofBytes coins.envelopeNonce.val with
    | nil =>
        rw [digits] at long
        cases long
    | cons _ _ => rfl
  have fresh : ∀ {q : ℚ}, freshTimestamp J envelope clock = .ok q ↔
      ageAt clock (unixSeconds now) ≤ MAX_AGE_SECONDS ∧
        -CLOCK_SKEW_SECONDS ≤ ageAt clock (unixSeconds now) ∧ (unixSeconds now : ℚ) = q := by
    intro q
    rw [freshTimestamp, timestamp]
    simp only [js_bind_eq_ok, jsEnsure_eq_ok, js_pure_eq_ok, decide_eq_true_eq, exists_const]
  have addressed : ∀ a b : JsStr, JsVal.isStr (some (.string a)) b = true ↔ a = b :=
    fun a b => beq_iff_eq
  simp only [openBegin, js_bind_eq_ok, jsEnsure_eq_ok, js_pure_eq_ok, recipient, senderId,
    addressed, fresh, checked, ciphertextItem, nonceItem, pubItem, sigItem, made.readKem, made.stub,
    decodeHex_ofBytes, exists_const, Except.ok.injEq, exists_eq_left', Option.isNone_iff_eq_none,
    Bool.not_eq_true']
  have bound : JsHandshake.boundCiphertext exchange.kemCiphertext =
      (if JsHandshake.isPqcStubbed exchange.kemCiphertext then none
        else some exchange.kemCiphertext).getD [] := by
    rw [JsHandshake.boundCiphertext]
    cases JsHandshake.isPqcStubbed exchange.kemCiphertext <;> rfl
  constructor
  · rintro ⟨toReceiver, fromSender, _, ⟨young, past, rfl⟩, unseen, capable, rfl⟩
    refine ⟨⟨toReceiver, fromSender, young, past, unseen, capable⟩, ?_⟩
    rw [opening, sealedPayload, toReceiver, fromSender, bound]
  · rintro ⟨admitted, rfl⟩
    refine ⟨admitted.recipient, admitted.sender, _, ⟨admitted.young, admitted.past, rfl⟩,
      admitted.unseen, admitted.capable, ?_⟩
    rw [opening, sealedPayload, admitted.recipient, admitted.sender, bound]

/-- The receiver derives the key of the envelope and decrypts its plaintext. -/
theorem decrypt (made : Sealing J sender card plaintext associatedData now coins envelope exchange
    ciphertext classicalSig pqcSig) (aead : J.AeadCorrect) (paired : receiver.Paired J)
    (keys : card.publicKeys = receiver.publicCard.publicKeys) (senderCard : JsPublicCard)
    (clock : ℤ) :
    (opening J sender receiver card senderCard associatedData now clock coins envelope exchange
      ciphertext classicalSig).decrypt J = .ok plaintext := by
  obtain ⟨s, k, pub, shared, encapsulated, derived⟩ := sendExchange_facts made.exchanged
  rw [keys] at shared encapsulated
  have agreed := paired.exchange shared
  rw [← pub] at agreed
  have combined : (opening J sender receiver card senderCard associatedData now clock coins
      envelope exchange ciphertext classicalSig).combinedSecret J =
        .ok (if JsHandshake.isPqcStubbed exchange.kemCiphertext then s else s ++ k) := by
    simp only [Opening.combinedSecret, opening, js_bind_eq_ok]
    refine ⟨s, agreed, ?_⟩
    cases stub : JsHandshake.isPqcStubbed exchange.kemCiphertext with
    | true => rfl
    | false =>
        rw [if_neg Bool.false_ne_true, if_neg Bool.false_ne_true, js_bind_eq_ok]
        exact ⟨k, paired.kem encapsulated stub, rfl⟩
  simp only [Opening.decrypt, js_bind_eq_ok]
  exact ⟨_, combined, _, derived, aead.open_seal made.encrypted⟩

end Sealing

/-- What `openSeal` returns for an envelope of `seal` is its plaintext. -/
theorem openSeal_seal (aead : J.AeadCorrect) (paired : receiver.Paired J)
    (made : sender.seal J card plaintext associatedData now coins = .ok envelope)
    (keys : card.entityId = receiver.entityId →
      card.publicKeys = receiver.publicCard.publicKeys)
    {seen seen' : SeenNonces} {senderCard : JsPublicCard} {clock : ℤ} {x : Bytes}
    (opened : openSeal J seen receiver senderCard envelope associatedData clock = (.ok x, seen')) :
    x = plaintext := by
  obtain ⟨exchange, ciphertext, classicalSig, pqcSig, made⟩ := exists_sealing made
  rw [openSeal] at opened
  split at opened
  · cases opened
  · rename_i o began
    obtain ⟨admitted, rfl⟩ := made.openBegin_eq_ok.mp began
    have out := made.decrypt aead paired (keys admitted.recipient) senderCard clock
    split at opened
    · cases opened
    · exact Except.ok.inj ((Prod.mk.inj opened).1.symm.trans out)

end JsSeal

end Uxsp
