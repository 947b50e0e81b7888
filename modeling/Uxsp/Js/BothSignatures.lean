import Uxsp.Js.Transparent

/-!
# Two signatures and two secrets

A message is protected as the protocol asks for when its Ed25519 and its ML-DSA signature verify on
one string, which covers the ciphertext whose secret goes into the key.  Whether `respond` and
`complete` look at the second signature and at the ciphertext is up to the message: of those they
accept, the protected ones are those whose ciphertext has not the size of a stub and whose second
signature is not empty.
-/

namespace Uxsp

namespace JsHandshake

/-- `decodeHex(message[key])` returns. -/
def Decodes (J : JsPlatform) (message : JsObject) (key : JsStr) (b : Bytes) : Prop :=
  ∃ v, field message key = .ok v ∧ decodeHex J.toJsRuntime v = .ok b

theorem Decodes.unique {J : JsPlatform} {message : JsObject} {key : JsStr} {b b' : Bytes}
    (first : Decodes J message key b) (second : Decodes J message key b') : b = b' := by
  obtain ⟨v, found, decoded⟩ := first
  obtain ⟨v', found', decoded'⟩ := second
  cases found.symm.trans found'
  exact Except.ok.inj (decoded.symm.trans decoded')

/-- The two signatures of a message verify. -/
structure SignedTwice (J : JsPlatform) (message : JsObject) (sender : JsPublicKeys)
    (signable : Bytes) : Prop where
  classical : ∃ signature, Decodes J message "classical_sig" signature ∧
    J.verifyEd25519 sender.signingPub signature signable = .ok true
  pqc : ∃ signature, Decodes J message "pqc_sig" signature ∧
    J.verifyMLDSA sender.pqcSigPub signature signable = .ok true

/-- The key of a message is derived from both secrets, the second one from the ciphertext. -/
def MixesBoth (J : JsPlatform) (message : JsObject) (ours : JsIdentity) (kemCiphertext : Bytes) :
    Prop :=
  ∃ ephemeralPub x s, Decodes J message "ephemeral_pub" ephemeralPub ∧
    J.deriveSharedSecret ours.exchange.privateKey (JsStr.encodeBase64 ephemeralPub) = .ok x ∧
    J.decapsulateMLKEM kemCiphertext ours.kem.privateKey = .ok s ∧
    combinedSecret J message ephemeralPub ours = .ok (x ++ s)

/-- What the protocol asks of a message: `signable` are the bytes its signatures must cover. -/
def Protected (J : JsPlatform) (signable : PyFloat → Bytes → Except JsErr Bytes)
    (message : JsObject) (sender : JsPublicKeys) (ours : JsIdentity) : Prop :=
  ∃ kemCiphertext v ts b, Decodes J message "kem_ciphertext" kemCiphertext ∧
    field message "timestamp" = .ok v ∧ J.num v = .ok ts ∧ signable ts kemCiphertext = .ok b ∧
    SignedTwice J message sender b ∧ MixesBoth J message ours kemCiphertext

def HelloProtected (J : JsPlatform) (hello : JsObject) (initiator : JsPublicKeys)
    (responder : JsIdentity) : Prop :=
  Protected J (helloSignable J hello) hello initiator responder

def AckProtected (J : JsPlatform) (ack : JsObject) (responder : JsPublicKeys)
    (initiator : JsIdentity) : Prop :=
  Protected J (ackSignable J ack) ack responder initiator

/-- The ciphertext has not the size of a stub and the second signature is there. -/
def CarriesPqc (J : JsPlatform) (message : JsObject) : Prop :=
  (∃ kemCiphertext, Decodes J message "kem_ciphertext" kemCiphertext ∧
    kemCiphertext.length ≠ 32) ∧
  ∃ v, field message "pqc_sig" = .ok v ∧ v.truthy = true

/-! ## What is checked -/

/-- What decodes to something is no empty value. -/
theorem truthy_of_decodeHex {R : JsRuntime} {v : JsVal} {b : Bytes}
    (decoded : decodeHex R v = .ok b) (some_bytes : b ≠ []) : v.truthy = true := by
  cases v with
  | null => cases decoded
  | bool _ => cases decoded
  | number _ => cases decoded
  | array _ => rfl
  | object _ => rfl
  | string s =>
      cases s with
      | nil =>
          cases decoded
          exact absurd rfl some_bytes
      | cons u s => rfl

theorem checkSignatures_eq_ok {J : JsPlatform} {message : JsObject} {kemCiphertext signable : Bytes}
    {sender : JsPublicKeys} {who : String} :
    checkSignatures J message kemCiphertext signable sender who = .ok () ↔
      (∃ signature, Decodes J message "classical_sig" signature ∧
        J.verifyEd25519 sender.signingPub signature signable = .ok true) ∧
      ∃ v, field message "pqc_sig" = .ok v ∧
        (kemCiphertext.length ≠ 32 → v.truthy = true →
          ∃ signature, decodeHex J.toJsRuntime v = .ok signature ∧
            J.verifyMLDSA sender.pqcSigPub signature signable = .ok true) := by
  have second : ∀ v : JsVal, (if !isPqcStubbed kemCiphertext && v.truthy then do
        let pqcValid ←
          J.verifyMLDSA sender.pqcSigPub (← decodeHex J.toJsRuntime v) signable
        jsEnsure pqcValid (authError [.lit who, .lit " PQC signature verification failed."])
      else return ()) = .ok () ↔ (kemCiphertext.length ≠ 32 → v.truthy = true →
        ∃ signature, decodeHex J.toJsRuntime v = .ok signature ∧
          J.verifyMLDSA sender.pqcSigPub signature signable = .ok true) := by
    intro v
    by_cases looked : (!isPqcStubbed kemCiphertext && v.truthy) = true
    · rw [if_pos looked]
      simp only [isPqcStubbed, Bool.and_eq_true, Bool.not_eq_true', decide_eq_false_iff_not]
        at looked
      simp only [js_bind_eq_ok, jsEnsure_eq_ok]
      constructor
      · rintro ⟨signature, decoded, valid, verified, rfl⟩ - -
        exact ⟨signature, decoded, verified⟩
      · intro verifies
        obtain ⟨signature, decoded, verified⟩ := verifies looked.1 looked.2
        exact ⟨signature, decoded, true, verified, rfl⟩
    · rw [if_neg looked]
      simp only [isPqcStubbed, Bool.and_eq_true, Bool.not_eq_true', decide_eq_false_iff_not]
        at looked
      exact ⟨fun _ size there => absurd ⟨size, there⟩ looked, fun _ => rfl⟩
  simp only [checkSignatures, js_bind_eq_ok, jsEnsure_eq_ok, second]
  constructor
  · rintro ⟨v, found, signature, decoded, valid, verified, -, rfl, w, there, rest⟩
    exact ⟨⟨signature, ⟨v, found, decoded⟩, verified⟩, w, there, rest⟩
  · rintro ⟨⟨signature, ⟨v, found, decoded⟩, verified⟩, w, there, rest⟩
    exact ⟨v, found, signature, decoded, true, verified, (), rfl, w, there, rest⟩

/-- What the checks of a message have established when they pass. -/
def Checked (J : JsPlatform) (signable : PyFloat → Bytes → Except JsErr Bytes)
    (message : JsObject) (sender : JsPublicKeys) : Prop :=
  ∃ kemCiphertext v ts b who, Decodes J message "kem_ciphertext" kemCiphertext ∧
    field message "timestamp" = .ok v ∧ J.num v = .ok ts ∧
    signable ts (boundCiphertext kemCiphertext) = .ok b ∧
    checkSignatures J message kemCiphertext b sender who = .ok ()

theorem checkTimestamp_num {J : JsPlatform} {message : JsObject} {now : ℚ} {invalid : String}
    {expired : JsStr → List JsPart} {ts : PyFloat}
    (checked : checkTimestamp J message now invalid expired = .ok ts) :
    ∃ v, field message "timestamp" = .ok v ∧ J.num v = .ok ts := by
  simp only [checkTimestamp, js_bind_eq_ok, js_pure_eq_ok] at checked
  obtain ⟨v, found, ts', read, -, -, -, -, rfl⟩ := checked
  exact ⟨v, found, read⟩

theorem checked_of_verifyHello {J : JsPlatform} {hello : JsObject} {initiatorCard : JsPublicCard}
    {responder : JsIdentity} {now : ℚ} {version : JsStr}
    (verified : verifyHelloSignature J hello initiatorCard responder now = .ok version) :
    Checked J (helloSignable J hello) hello initiatorCard.publicKeys := by
  simp only [verifyHelloSignature, js_bind_eq_ok] at verified
  obtain ⟨-, -, -, -, ts, timely, -, -, -, -, -, -, w, found, kem, decoded, b, built, _, signed, -⟩ :=
    verified
  obtain ⟨v, stamped, read⟩ := checkTimestamp_num timely
  exact ⟨kem, v, ts, b, _, ⟨w, found, decoded⟩, stamped, read, built, signed⟩

theorem checked_of_verifyAck {J : JsPlatform} {ack : JsObject} {responderCard : JsPublicCard}
    {now : ℚ} (verified : verifyAckSignature J ack responderCard now = .ok ()) :
    Checked J (ackSignable J ack) ack responderCard.publicKeys := by
  simp only [verifyAckSignature, js_bind_eq_ok] at verified
  obtain ⟨-, -, -, -, ts, timely, w, found, kem, decoded, b, built, signed⟩ := verified
  obtain ⟨v, stamped, read⟩ := checkTimestamp_num timely
  exact ⟨kem, v, ts, b, _, ⟨w, found, decoded⟩, stamped, read, built, signed⟩

/-! ## What is derived -/

/-- A key has been derived from the secret of the message. -/
theorem combined_of_receiveExchange {J : JsPlatform} {message : JsObject} {ours : JsIdentity}
    {key : Bytes} (received : receiveExchange J message ours = .ok key) :
    ∃ ephemeralPub combined, Decodes J message "ephemeral_pub" ephemeralPub ∧
      combinedSecret J message ephemeralPub ours = .ok combined := by
  simp only [receiveExchange, js_bind_eq_ok] at received
  obtain ⟨v, found, ephemeralPub, decoded, combined, mixed, -⟩ := received
  exact ⟨ephemeralPub, combined, ⟨v, found, decoded⟩, mixed⟩

/-- Without a stub both secrets go in. -/
theorem combinedSecret_both {J : JsPlatform} {message : JsObject} {ours : JsIdentity}
    {ephemeralPub combined kemCiphertext : Bytes}
    (mixed : combinedSecret J message ephemeralPub ours = .ok combined)
    (decoded : Decodes J message "kem_ciphertext" kemCiphertext)
    (size : kemCiphertext.length ≠ 32) :
    ∃ x s, J.deriveSharedSecret ours.exchange.privateKey (JsStr.encodeBase64 ephemeralPub) = .ok x ∧
      J.decapsulateMLKEM kemCiphertext ours.kem.privateKey = .ok s ∧ combined = x ++ s := by
  simp only [combinedSecret, js_bind_eq_ok] at mixed
  obtain ⟨x, exchanged, v, found, kem, read, rest⟩ := mixed
  cases Decodes.unique ⟨v, found, read⟩ decoded
  have whole : isPqcStubbed kemCiphertext = false := decide_eq_false size
  rw [whole, if_neg Bool.false_ne_true] at rest
  obtain ⟨s, opened, joined⟩ := js_bind_eq_ok.mp rest
  exact ⟨x, s, exchanged, opened, (js_pure_eq_ok.mp joined).symm⟩

/-- With a stub the first secret is all there is. -/
theorem combinedSecret_stub {J : JsPlatform} {message : JsObject} {ours : JsIdentity}
    {ephemeralPub combined kemCiphertext x : Bytes}
    (mixed : combinedSecret J message ephemeralPub ours = .ok combined)
    (exchanged :
      J.deriveSharedSecret ours.exchange.privateKey (JsStr.encodeBase64 ephemeralPub) = .ok x)
    (decoded : Decodes J message "kem_ciphertext" kemCiphertext)
    (size : kemCiphertext.length = 32) : combined = x := by
  simp only [combinedSecret, js_bind_eq_ok] at mixed
  obtain ⟨x', exchanged', v, found, kem, read, rest⟩ := mixed
  cases Decodes.unique ⟨v, found, read⟩ decoded
  cases exchanged.symm.trans exchanged'
  have stub : isPqcStubbed kemCiphertext = true := decide_eq_true size
  rw [stub, if_pos rfl] at rest
  exact (js_pure_eq_ok.mp rest).symm

/-! ## Which messages are protected -/

variable {J : JsPlatform} {signable : PyFloat → Bytes → Except JsErr Bytes} {message : JsObject}
  {sender : JsPublicKeys} {ours : JsIdentity}

/-- A ciphertext of the size of a stub adds no secret. -/
theorem not_protected_of_stub {kemCiphertext : Bytes}
    (decoded : Decodes J message "kem_ciphertext" kemCiphertext)
    (size : kemCiphertext.length = 32) : ¬ Protected J signable message sender ours := by
  intro guarded
  obtain ⟨kem, _, _, _, read, -, -, -, -, ephemeralPub, x, s, -, exchanged, opened, mixed⟩ := guarded
  cases Decodes.unique read decoded
  have same : x ++ s = x := combinedSecret_stub mixed exchanged decoded size
  have nothing : s = [] := List.append_right_eq_self.mp same
  have long : s.length = 32 := JsPlatform.decapsulateMLKEM_length opened
  rw [nothing] at long
  cases long

/-- An ML-DSA signature that verifies is not empty. -/
theorem SignedTwice.pqc_truthy {b : Bytes} (signed : SignedTwice J message sender b) :
    ∃ v, field message "pqc_sig" = .ok v ∧ v.truthy = true := by
  obtain ⟨signature, ⟨v, found, decoded⟩, verified⟩ := signed.pqc
  refine ⟨v, found, truthy_of_decodeHex decoded fun nothing => ?_⟩
  have long : signature.length = 3309 := JsPlatform.verifyMLDSA_length verified
  rw [nothing] at long
  cases long

theorem protected_iff {key : Bytes} (checked : Checked J signable message sender)
    (received : receiveExchange J message ours = .ok key) :
    Protected J signable message sender ours ↔ CarriesPqc J message := by
  obtain ⟨kem, v, ts, b, who, decoded, stamped, read, built, signed⟩ := checked
  constructor
  · intro guarded
    have size : kem.length ≠ 32 := fun stub => not_protected_of_stub decoded stub guarded
    obtain ⟨_, _, _, _, -, -, -, -, twice, -⟩ := guarded
    exact ⟨⟨kem, decoded, size⟩, twice.pqc_truthy⟩
  · rintro ⟨⟨kem', decoded', size⟩, w, there, truthy⟩
    cases Decodes.unique decoded' decoded
    have bound : boundCiphertext kem = kem := if_neg (by simpa [isPqcStubbed] using size)
    rw [bound] at built
    obtain ⟨classical, w', there', pqc⟩ := checkSignatures_eq_ok.mp signed
    cases there.symm.trans there'
    obtain ⟨signature, opened, verified⟩ := pqc size truthy
    obtain ⟨ephemeralPub, combined, sent, mixed⟩ := combined_of_receiveExchange received
    obtain ⟨x, s, exchanged, decapsulated, rfl⟩ := combinedSecret_both mixed decoded size
    exact ⟨kem, v, ts, b, decoded, stamped, read, built,
      ⟨classical, signature, ⟨w, there, opened⟩, verified⟩,
      ephemeralPub, x, s, sent, exchanged, decapsulated, mixed⟩

/-! ## What is accepted -/

theorem respond_checked {S : JsNonceStore} {store store' : S.State} {responder : JsIdentity}
    {hello ack : JsObject} {initiatorCard : JsPublicCard} {config : Option JsSessionConfig}
    {now after : ℚ} {coins : JsCoins} {session : JsSession}
    (accepted : respond J S store responder hello initiatorCard config now after coins =
      (.ok (ack, session), store')) :
    Checked J (helloSignable J hello) hello initiatorCard.publicKeys ∧
      ∃ secret, receiveExchange J hello responder = .ok secret := by
  unfold respond at accepted
  split at accepted
  · cases accepted
  · rename_i nonce version checked
    simp only [respondCheck, js_bind_eq_ok] at checked
    obtain ⟨-, -, -, -, version', verified, -⟩ := checked
    refine ⟨checked_of_verifyHello verified, ?_⟩
    split at accepted
    · cases accepted
    · cases accepted
    · have finished := congrArg Prod.fst accepted
      simp only [respondFinish, js_bind_eq_ok] at finished
      obtain ⟨secret, derived, -⟩ := finished
      exact ⟨secret, derived⟩

theorem complete_checked {S : JsNonceStore} {store store' : S.State} {hs : JsHandshake}
    {ack : JsObject} {responderCard : JsPublicCard} {now after : ℚ} {session : JsSession}
    {initiator : JsIdentity} (owner : hs.initiator = some initiator)
    (accepted : complete J S store hs ack responderCard now after = (.ok session, store')) :
    Checked J (ackSignable J ack) ack responderCard.publicKeys ∧
      ∃ secret, receiveExchange J ack initiator = .ok secret := by
  unfold complete at accepted
  split at accepted
  · cases accepted
  · rename_i pending found
    have same : pending.initiator = initiator := by
      unfold JsHandshake.pending at found
      split at found
      · rename_i initiator' _ _ _ _ owner' _ _
        cases found
        exact Option.some.inj (owner'.symm.trans owner)
      · cases found
    split at accepted
    · cases accepted
    · rename_i nonce checked
      simp only [completeCheck, js_bind_eq_ok] at checked
      obtain ⟨_, verified, -⟩ := checked
      refine ⟨checked_of_verifyAck verified, ?_⟩
      split at accepted
      · cases accepted
      · cases accepted
      · have finished := congrArg Prod.fst accepted
        simp only [completeFinish, deriveAckSecret, js_bind_eq_ok] at finished
        obtain ⟨secret, ⟨-, -, -, -, -, -, -, -, -, -, derived⟩, -⟩ := finished
        exact ⟨secret, same ▸ derived⟩

/-- Of the messages that are accepted, those are protected that bring the second signature and a
ciphertext of another size than a stub's. -/
theorem accepted_protected_iff (J : JsPlatform) (S : JsNonceStore) :
    (∀ {store store' : S.State} {responder : JsIdentity} {hello ack : JsObject}
        {initiatorCard : JsPublicCard} {config : Option JsSessionConfig} {now after : ℚ}
        {coins : JsCoins} {session : JsSession},
      respond J S store responder hello initiatorCard config now after coins =
        (.ok (ack, session), store') →
      (HelloProtected J hello initiatorCard.publicKeys responder ↔ CarriesPqc J hello)) ∧
    (∀ {store store' : S.State} {hs : JsHandshake} {ack : JsObject} {responderCard : JsPublicCard}
        {now after : ℚ} {session : JsSession} {initiator : JsIdentity},
      hs.initiator = some initiator →
      complete J S store hs ack responderCard now after = (.ok session, store') →
      (AckProtected J ack responderCard.publicKeys initiator ↔ CarriesPqc J ack)) := by
  constructor
  · intro store store' responder hello ack initiatorCard config now after coins session accepted
    obtain ⟨checked, secret, received⟩ := respond_checked accepted
    exact protected_iff checked received
  · intro store store' hs ack responderCard now after session initiator owner accepted
    obtain ⟨checked, secret, received⟩ := complete_checked owner accepted
    exact protected_iff checked received

/-! ## Alice and Bob -/

def sampleAlice : JsIdentity := .transparent "Alice" 1

def sampleBob : JsIdentity := .transparent "Bob" 2

def sampleUuid : Uuid4 := .least

/-- A handshake that an owner of keys starts with the holder of a card. -/
def sampleInitiate (initiator : JsIdentity) (card : JsPublicCard) : JsHandshake :=
  match initiate .transparent initiator card none sampleUuid 1000 (.transparent 3) with
  | .ok hs => hs
  | .error _ => ⟨none, none, none, none, none⟩

def sampleHello (initiator : JsIdentity) (card : JsPublicCard) : JsObject :=
  (sampleInitiate initiator card).helloMsg.getD []

/-- Bob's answer to a HELLO that is said to be Alice's. -/
def sampleRespond (hello : JsObject) : Except JsErr (JsObject × JsSession) × List JsStr :=
  respond .transparent .unbounded [] sampleBob hello sampleAlice.publicCard none 1000 1000
    (.transparent 4)

def sampleAck : JsObject :=
  match (sampleRespond (sampleHello sampleAlice sampleBob.publicCard)).1 with
  | .ok (ack, _) => ack
  | .error _ => []

def sampleComplete : Except JsErr JsSession × List JsStr :=
  complete .transparent .unbounded [] (sampleInitiate sampleAlice sampleBob.publicCard) sampleAck
    sampleBob.publicCard 1000 1000

/-- An honest handshake. -/
theorem sample_protected_iff :
    (∃ answer store, sampleRespond (sampleHello sampleAlice sampleBob.publicCard) =
        (.ok answer, store) ∧
      (HelloProtected .transparent (sampleHello sampleAlice sampleBob.publicCard)
          sampleAlice.publicCard.publicKeys sampleBob ↔
        CarriesPqc .transparent (sampleHello sampleAlice sampleBob.publicCard))) ∧
    ∃ session store, sampleComplete = (.ok session, store) ∧
      (AckProtected .transparent sampleAck sampleBob.publicCard.publicKeys sampleAlice ↔
        CarriesPqc .transparent sampleAck) := by
  have owner : (sampleInitiate sampleAlice sampleBob.publicCard).initiator = some sampleAlice := by
    decide +kernel
  obtain ⟨answer, store, responded⟩ :=
    exists_of_isOk (x := sampleRespond (sampleHello sampleAlice sampleBob.publicCard))
      (by decide +kernel)
  obtain ⟨session, store', completed⟩ := exists_of_isOk (x := sampleComplete) (by decide +kernel)
  exact ⟨⟨answer, store, responded, (accepted_protected_iff _ _).1 responded⟩,
    session, store', completed, (accepted_protected_iff _ _).2 owner completed⟩

/-- Who has of Alice's keys the one for Ed25519 only. -/
def sampleForger : JsIdentity :=
  { sampleAlice with exchange := ⟨[], []⟩, kem := ⟨[], []⟩, pqcSig := ⟨[], []⟩ }

/-- Bob's card with a stub for its ML-KEM key. -/
def sampleStubCard : JsPublicCard :=
  { sampleBob.publicCard with
    publicKeys := { sampleBob.publicCard.publicKeys with kemPub := "STUB_MLKEM_PUB" } }

/-- The card has an ML-DSA key of full size. -/
def JsPublicKeys.FullPqcSig (keys : JsPublicKeys) : Prop :=
  ∃ key, decodeBase64 keys.pqcSigPub = .ok key ∧ key.length = 1952

/-- A HELLO that was made without Alice's ML-DSA key and has no second secret is accepted. -/
theorem forged_hello_accepted :
    JsPublicKeys.FullPqcSig sampleAlice.publicCard.publicKeys ∧
    (∃ answer store, sampleRespond (sampleHello sampleForger sampleStubCard) =
      (.ok answer, store)) ∧
    ¬ HelloProtected .transparent (sampleHello sampleForger sampleStubCard)
      sampleAlice.publicCard.publicKeys sampleBob := by
  refine ⟨⟨List.replicate 1952 1, by decide +kernel, List.length_replicate⟩,
    exists_of_isOk (by decide +kernel), ?_⟩
  have decoded : Decodes .transparent (sampleHello sampleForger sampleStubCard) "kem_ciphertext"
      (List.replicate 32 3) := ⟨_, rfl, by decide +kernel⟩
  exact not_protected_of_stub decoded List.length_replicate

end JsHandshake

end Uxsp
