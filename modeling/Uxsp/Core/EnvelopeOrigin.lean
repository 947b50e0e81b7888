import Uxsp.Core.IdentitySeal
import Uxsp.Core.SigningDomains
import Uxsp.Crypto.Transparent

/-!
# Where an envelope comes from

`openSeal` is given any dict at all.  `opened_seal`: with ideal signatures and ciphertexts that open
as they were encrypted only, what it returns was sealed by the sender for the recipient, under the
same associated data and at the timestamp that the dict carries; and what was sealed for the
recipient opens while it is fresh.
-/

namespace Uxsp

variable {P : Platform} {keypair : HybridKeypair}

/-- A call of `seal` that returned. -/
structure SealCall (P : Platform) (keypair : HybridKeypair) where
  plaintext : Bytes
  recipient : PublicKeys
  senderId : Str
  recipientId : Str
  now : ℚ
  associatedData : Bytes
  coins : SealCoins
  envelope : Dict
  returned : Hybrid.seal P plaintext keypair recipient senderId recipientId now associatedData coins =
    .ok envelope

namespace SealCall

/-- The fields that the call has signed, and their bytes. -/
def Signs (e : SealCall P keypair) (f : SealedFields) (b : Bytes) : Prop :=
  sealFields P e.plaintext e.recipient e.senderId e.recipientId e.now e.associatedData e.coins =
      .ok f ∧
    f.signable P.toRuntime = .ok b

theorem facts (e : SealCall P keypair) : ∃ f b sigs, e.Signs f b ∧
    hybridSign P b keypair e.coins.signing = .ok sigs ∧ e.envelope = sealDict f sigs := by
  have returned := e.returned
  simp only [Hybrid.seal, bind_eq_ok, pure_eq_ok] at returned
  obtain ⟨f, fields, b, signable, sigs, signed, built⟩ := returned
  exact ⟨f, b, sigs, ⟨fields, signable⟩, signed, built.symm⟩

end SealCall

/-- A sender that signs envelopes in these calls only. -/
structure Seals (P : Platform) (keypair : HybridKeypair) (sent : List (SealCall P keypair)) where
  signer : Signer P.toRuntime
  envelopes : ∀ b, signer.made .envelope b → ∃ e ∈ sent, ∃ f, e.Signs f b

/-- The signatures in the dict verify only for what the sender has signed. -/
def Seals.Unforged {sent : List (SealCall P keypair)} (seals : Seals P keypair sent)
    (envelope : Dict) : Prop :=
  ∀ (ctx : VerifiedContext) b, ctx.Reads P envelope → ctx.signable P.toRuntime = .ok b →
    seals.signer.Unforged (extractPublicKeys keypair) b ctx.classicalSig ctx.pqcSig

variable {sent : List (SealCall P keypair)} {envelope : Dict} {recipient : HybridKeypair}
  {recipientId senderId : Str} {maxAge clockSkew : ℤ} {ad m : Bytes} {now : ℚ}

/-- What is returned for a dict was sealed in a call of the sender. -/
theorem Seals.origin (seals : Seals P keypair sent) (binds : P.AeadBinds) (aead : P.AeadCorrect)
    (unforged : seals.Unforged envelope)
    (opened : openSeal P envelope recipient (extractPublicKeys keypair) recipientId senderId maxAge
      clockSkew ad now = .ok m) :
    ∃ e ∈ sent, e.recipientId = recipientId ∧ e.senderId = senderId ∧ e.associatedData = ad ∧
      e.plaintext = m ∧ ∃ v, envelope.get? "timestamp" = some v ∧ P.int v = .ok ⌊e.now⌋ := by
  obtain ⟨ctx, verified, decrypted⟩ := bind_eq_ok.mp opened
  have facts := verifyEnvelope_facts verified
  obtain ⟨b, signable, accepted⟩ := facts.signed
  have made := Signer.made_of_verified (unforged ctx b facts.reads signable)
    (Signed.envelope (f := ctx.toSealedFields) signable) accepted
  obtain ⟨e, mem, f, fields, signed⟩ := seals.envelopes b made
  have same : ctx.toSealedFields = f := SealedFields.signable_inj signable signed
  obtain ⟨_, _, exchange, encrypted, _, sealed, built⟩ := sealFields_eq_ok.mp fields
  rw [built] at same
  obtain ⟨key, _, opened⟩ := bind_eq_ok.mp decrypted
  have ciphertext : ctx.ciphertext = encrypted.ciphertext := congrArg SealedFields.ciphertext same
  have nonce : ctx.nonce = encrypted.nonce := congrArg SealedFields.nonce same
  rw [ciphertext, nonce] at opened
  obtain ⟨_, data, plain⟩ := Symmetric.decrypt_bound binds aead sealed opened
  refine ⟨e, mem, ?_, ?_, data.symm, plain.symm, ?_⟩
  · rw [← facts.addressed]
    exact (congrArg SealedFields.recipientId same).symm
  · rw [← facts.sent]
    exact (congrArg SealedFields.senderId same).symm
  · obtain ⟨v, found, converted⟩ := facts.reads.timestamp
    have stamp : ctx.timestamp = ⌊e.now⌋ := congrArg SealedFields.timestamp same
    exact ⟨v, found, stamp ▸ converted⟩

/-- What was sealed for the recipient opens while it is fresh. -/
theorem SealCall.opens (exchange : P.ExchangeCorrect) (aead : P.AeadCorrect)
    (signature : P.SignatureCorrect) (generated : keypair.Generated P)
    (generated' : recipient.Generated P) (e : SealCall P keypair)
    (keys : e.recipient = extractPublicKeys recipient) (notStale : now - ⌊e.now⌋ ≤ maxAge)
    (notFuture : -clockSkew ≤ now - ⌊e.now⌋) :
    openSeal P e.envelope recipient (extractPublicKeys keypair) e.recipientId e.senderId maxAge
      clockSkew e.associatedData now = .ok e.plaintext := by
  obtain ⟨f, b, sigs, ⟨fields, signable⟩, signed, built⟩ := e.facts
  have opened := fields
  rw [keys] at opened
  obtain ⟨sender, address, _, _, _, _, rfl⟩ := sealFields_eq_ok.mp fields
  have nonce : e.coins.envelopeNonce.1.hex ≠ [] := by
    intro none
    have size := congrArg List.length none
    rw [Bytes.length_hex, e.coins.envelopeNonce.2] at size
    cases size
  rw [built, openSeal]
  refine bind_eq_ok.mpr ⟨_, verifyEnvelope_sealDict signature generated signable signed sender address
    nonce notStale notFuture, ?_⟩
  exact decrypt_sealFields exchange aead generated' opened rfl

/-- What `open_seal` returns was sealed by the sender for the recipient, with the same associated
data and at the timestamp of the dict; and what was sealed for the recipient it returns. -/
theorem opened_seal (exchange : P.ExchangeCorrect) (aead : P.AeadCorrect) (binds : P.AeadBinds)
    (signature : P.SignatureCorrect) (generated : keypair.Generated P)
    (generated' : recipient.Generated P) (seals : Seals P keypair sent) :
    (∀ envelope, seals.Unforged envelope → ∀ recipientId senderId maxAge clockSkew ad now m,
      openSeal P envelope recipient (extractPublicKeys keypair) recipientId senderId maxAge clockSkew
          ad now = .ok m →
        ∃ e ∈ sent, e.recipientId = recipientId ∧ e.senderId = senderId ∧ e.associatedData = ad ∧
          e.plaintext = m ∧ ∃ v, Dict.get? envelope "timestamp" = some v ∧ P.int v = .ok ⌊e.now⌋) ∧
    ∀ e : SealCall P keypair, e.recipient = extractPublicKeys recipient →
      ∀ (maxAge clockSkew : ℤ) (now : ℚ), now - ⌊e.now⌋ ≤ maxAge → -clockSkew ≤ now - ⌊e.now⌋ →
        openSeal P e.envelope recipient (extractPublicKeys keypair) e.recipientId e.senderId maxAge
          clockSkew e.associatedData now = .ok e.plaintext := by
  constructor
  · intro envelope unforged recipientId senderId maxAge clockSkew ad now m opened
    exact seals.origin binds aead unforged opened
  · intro e keys maxAge clockSkew now notStale notFuture
    exact e.opens exchange aead signature generated generated' keys notStale notFuture

/-- The sender has made this call only. -/
def SealCall.seals (e : SealCall P keypair) : Seals P keypair [e] where
  signer := {
    made := fun p b => p = .envelope ∧ ∃ f, e.Signs f b
    signed := by
      intro p b made
      obtain ⟨rfl, f, signs⟩ := made
      exact .envelope signs.2 }
  envelopes _ made := ⟨e, List.mem_cons_self, made.2⟩

/-- The envelope of the call carries the signatures of the call. -/
theorem SealCall.seals_unforged (e : SealCall P keypair) : e.seals.Unforged e.envelope := by
  intro ctx b reads signable _
  obtain ⟨f, b', sigs, signs, _, built⟩ := e.facts
  rw [built] at reads
  rw [reads.unique (reads_context P f sigs)] at signable
  exact ⟨.envelope, rfl, f, signs.1, signable⟩

/-! A call whose keys repeat one byte, with associated data. -/

def framedKeypair (n : UInt8) : HybridKeypair :=
  generateHybridKeypair .framed (.filled 32 n) (.filled 64 n)
    (.filled 32 n) (.filled 32 n)

theorem framedKeypair_generated (n : UInt8) : (framedKeypair n).Generated .framed :=
  ⟨_, _, _, _, rfl⟩

def framedCoins : SealCoins where
  exchange := ⟨.filled 32 3, .filled 32 4⟩
  nonce := .filled 12 5
  envelopeNonce := .filled 16 6
  signing := .filled 32 7

theorem exists_framedSeal : ∃ envelope, Hybrid.seal .framed [1, 2] (framedKeypair 1)
    (extractPublicKeys (framedKeypair 2)) "A" "B" 1000 [7] framedCoins = .ok envelope :=
  succeeded_eq_true.mp (by decide +kernel)

/-- The envelope of the sample is opened, and what is returned was sealed in the call. -/
theorem framedSeal_opened : ∃ e : SealCall .framed (framedKeypair 1), ∃ e' ∈ [e],
    e'.recipientId = "B" ∧ e'.senderId = "A" ∧ e'.associatedData = [7] ∧ e'.plaintext = [1, 2] ∧
      ∃ v, Dict.get? e.envelope "timestamp" = some v ∧
        Platform.framed.int v = .ok ⌊e'.now⌋ := by
  obtain ⟨envelope, returned⟩ := exists_framedSeal
  let e : SealCall .framed (framedKeypair 1) := ⟨_, _, _, _, _, _, _, envelope, returned⟩
  obtain ⟨origin, opens⟩ := opened_seal Platform.framed_exchange Platform.framed_aead
    Platform.framed_binds Platform.framed_signature (framedKeypair_generated 1)
    (framedKeypair_generated 2) e.seals
  have stamp : ⌊(1000 : ℚ)⌋ = 1000 := by decide +kernel
  have fresh : (1000 : ℚ) - ⌊e.now⌋ = 0 := by
    show (1000 : ℚ) - (⌊(1000 : ℚ)⌋ : ℤ) = 0
    rw [stamp]
    norm_num
  have opened := opens e rfl 300 30 1000 (by rw [fresh]; norm_num) (by rw [fresh]; norm_num)
  exact ⟨e, origin e.envelope e.seals_unforged _ _ _ _ _ _ _ opened⟩

end Uxsp
