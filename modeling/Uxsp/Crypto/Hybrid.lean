import Uxsp.Crypto.Symmetric
import Uxsp.Lib.LengthPrefix

/-!
# `uxsp.crypto.hybrid`

The hybrid key exchange of X25519 and ML-KEM, the double signature of Ed25519 and ML-DSA, and
the length-prefixed binding of signed fields.  Randomness a function draws is its last argument.
-/

namespace Uxsp

/-! ## Keypairs -/

/-- The four keypairs of an entity. -/
structure HybridKeypair where
  exchange : RawKeypair
  kem : RawKeypair
  signing : RawKeypair
  pqcSig : RawKeypair
  deriving DecidableEq

/-- The four public keys of an entity. -/
structure PublicKeys where
  exchangePub : Bytes
  kemPub : Bytes
  signingPub : Bytes
  pqcSigPub : Bytes
  deriving DecidableEq

def extractPublicKeys (keypair : HybridKeypair) : PublicKeys where
  exchangePub := keypair.exchange.publicKey
  kemPub := keypair.kem.publicKey
  signingPub := keypair.signing.publicKey
  pqcSigPub := keypair.pqcSig.publicKey

/-- `generate_hybrid_keypair()` from the random bytes of the four generators. -/
def generateHybridKeypair (P : Platform) (exchange : Urandom 32) (kem : Urandom 64)
    (signing pqcSig : Urandom 32) : HybridKeypair where
  exchange := ⟨exchange, P.x25519Public exchange⟩
  kem := P.kemKeypair kem
  signing := ⟨signing, P.ed25519Public signing⟩
  pqcSig := P.pqcSigKeypair pqcSig

/-- The keypair came out of `generate_hybrid_keypair`. -/
def HybridKeypair.Generated (P : Platform) (keypair : HybridKeypair) : Prop :=
  ∃ exchange kem signing pqcSig,
    keypair = generateHybridKeypair P exchange kem signing pqcSig

/-! ## Binding fields -/

/-- `struct.pack(">I", n)`. -/
def packLength (n : ℕ) : Bytes := (LengthPrefix.bigEndian 256 4 n).map UInt8.ofNat

theorem packLength_lawful : LengthPrefix.Lawful packLength (2 ^ 32) where
  width := ⟨4, by omega, fun n => by simp [packLength]⟩
  inj := by
    intro m n hm hn same
    have digits : ∀ k, (packLength k).map UInt8.toNat = LengthPrefix.bigEndian 256 4 k := by
      intro k
      simp [packLength, LengthPrefix.bigEndian, List.map_map]
    refine LengthPrefix.bigEndian_inj (b := 256) (w := 4) hm hn ?_
    rw [← digits m, ← digits n, same]

/-- Length-prefixed concatenation; a field past 4 GiB is refused. -/
def bindFields (fields : List Bytes) : Except PyErr Bytes :=
  match fields.find? fun f => 0xFFFFFFFF < f.length with
  | some f => .error ⟨.valueError, ["bind_fields: field length (", .int f.length,
      " bytes) exceeds maximum 4 GiB limit (32-bit uint)."]⟩
  | none => .ok (LengthPrefix.join packLength fields)

theorem bindFields_eq_ok {fields : List Bytes} {b : Bytes} : bindFields fields = .ok b ↔
    (∀ f ∈ fields, f.length < 2 ^ 32) ∧ b = LengthPrefix.join packLength fields := by
  unfold bindFields
  cases found : fields.find? fun f => 0xFFFFFFFF < f.length with
  | some f =>
      have long := List.find?_some found
      have mem := List.mem_of_find?_eq_some found
      refine ⟨nofun, fun h => ?_⟩
      have short := h.1 f mem
      simp only [decide_eq_true_eq] at long
      omega
  | none =>
      rw [Except.ok.injEq]
      refine ⟨fun h => ⟨fun f hf => ?_, h.symm⟩, fun h => h.2.symm⟩
      have short := List.find?_eq_none.mp found f hf
      simp only [decide_eq_true_eq] at short
      omega

/-- Bound fields determine the fields. -/
theorem bindFields_inj {fs gs : List Bytes} {b : Bytes} (hf : bindFields fs = .ok b)
    (hg : bindFields gs = .ok b) : fs = gs := by
  obtain ⟨short, rfl⟩ := bindFields_eq_ok.mp hf
  obtain ⟨short', same⟩ := bindFields_eq_ok.mp hg
  exact packLength_lawful.join_injective short short' same

/-- `str(ts).encode()`. -/
def timestampBytes (R : Runtime) (ts : ℤ) : Except PyErr Bytes := do (← R.str (.int ts)).utf8

theorem timestampBytes_eq_ok {R : Runtime} {n : ℤ} {b : Bytes} : timestampBytes R n = .ok b ↔
    Str.printable n ∧ (Str.ofInt n).encode = some b := by
  simp only [timestampBytes, bind_eq_ok, Str.utf8_eq_ok, R.str_int_eq_ok]
  constructor
  · intro h
    rcases h with ⟨s, ⟨short, rfl⟩, encoded⟩
    exact ⟨short, encoded⟩
  · intro h
    exact ⟨_, ⟨h.1, rfl⟩, h.2⟩

/-! ## Key exchange -/

/-- What `hybrid_sender_exchange` returns. -/
structure ExchangeResult where
  sharedKey : Bytes
  ephemeralPub : Bytes
  kemCiphertext : Bytes

/-- The random bytes of one sender exchange. -/
structure ExchangeCoins where
  ephemeral : Urandom 32
  kem : Urandom 32

/-- Both halves of the secret, under the ephemeral key as salt. -/
def exchangeKey (P : Platform) (ephemeralPub classicalSecret pqcSecret : Bytes) : Bytes :=
  deriveKey P (classicalSecret ++ pqcSecret) 32 (some ephemeralPub)
    (.lit "UXSP-hybrid-key-exchange-v1")

def hybridSenderExchange (P : Platform) (recipient : PublicKeys) (coins : ExchangeCoins) :
    Except PyErr ExchangeResult := do
  let ephemeralPub := P.x25519Public coins.ephemeral
  let classicalSecret ← P.x25519 coins.ephemeral recipient.exchangePub
  let (ciphertext, pqcSecret) ← P.kemEncapsulate recipient.kemPub coins.kem
  return ⟨exchangeKey P ephemeralPub classicalSecret pqcSecret, ephemeralPub, ciphertext⟩

def hybridRecipientExchange (P : Platform) (ephemeralPub kemCiphertext : Bytes)
    (mine : HybridKeypair) : Except PyErr Bytes := do
  let classicalSecret ← P.x25519 mine.exchange.privateKey ephemeralPub
  let pqcSecret ← P.kemDecapsulate mine.kem.privateKey kemCiphertext
  return exchangeKey P ephemeralPub classicalSecret pqcSecret

/-- The recipient derives the sender's key. -/
theorem hybridRecipientExchange_sender {P : Platform} (correct : P.ExchangeCorrect)
    {keypair : HybridKeypair} (generated : keypair.Generated P) {coins : ExchangeCoins}
    {result : ExchangeResult}
    (sent : hybridSenderExchange P (extractPublicKeys keypair) coins = .ok result) :
    hybridRecipientExchange P result.ephemeralPub result.kemCiphertext keypair =
      .ok result.sharedKey := by
  rcases generated with ⟨exchange, kem, signing, pqcSig, rfl⟩
  simp only [hybridSenderExchange, extractPublicKeys, generateHybridKeypair] at sent
  cases classical : P.x25519 coins.ephemeral (P.x25519Public exchange) with
  | error e => rw [classical] at sent; cases sent
  | ok classicalSecret =>
      cases pqc : P.kemEncapsulate (P.kemKeypair kem).publicKey coins.kem with
      | error e => rw [classical, pqc] at sent; cases sent
      | ok pair =>
          obtain ⟨ciphertext, pqcSecret⟩ := pair
          rw [classical, pqc] at sent
          cases sent
          simp only [hybridRecipientExchange, generateHybridKeypair, correct.agree classical,
            correct.decapsulate pqc]
          rfl

/-- An exchange with a generated key returns. -/
theorem exists_hybridSenderExchange {P : Platform} (correct : P.ExchangeCorrect)
    {keypair : HybridKeypair} (generated : keypair.Generated P) (coins : ExchangeCoins) :
    ∃ result, hybridSenderExchange P (extractPublicKeys keypair) coins = .ok result ∧
      result.ephemeralPub.length < 2 ^ 32 ∧ result.kemCiphertext.length < 2 ^ 32 := by
  rcases generated with ⟨exchange, kem, signing, pqcSig, rfl⟩
  rcases correct.exchange_total coins.ephemeral exchange with ⟨s, classical⟩
  rcases correct.encapsulate_total kem coins.kem with ⟨c, t, pqc, size⟩
  refine ⟨⟨exchangeKey P (P.x25519Public coins.ephemeral) s t, P.x25519Public coins.ephemeral, c⟩,
    ?_, correct.public_size _, size⟩
  simp only [hybridSenderExchange, extractPublicKeys, generateHybridKeypair, classical, pqc]
  rfl

/-! ## Signatures -/

/-- The two signatures, in hex. -/
structure Signatures where
  classicalSig : Str
  pqcSig : Str

/-- What a signing failure is turned into. -/
def signingError (e : PyErr) : PyErr :=
  if e.cls.isA .attributeError || e.cls.isA .keyError then
    ⟨.valueError, [.lit "Signing failed — missing key or invalid result: "] ++ e.msg⟩
  else e

/-- Sign with Ed25519 and ML-DSA. -/
def hybridSign (P : Platform) (message : Bytes) (keypair : HybridKeypair)
    (coins : Urandom 32) : Except PyErr Signatures :=
  match P.ed25519Sign keypair.signing.privateKey message with
  | .error e => .error (signingError e)
  | .ok classical =>
      match P.pqcSign keypair.pqcSig.privateKey message coins with
      | .error e => .error (signingError e)
      | .ok pqc => .ok ⟨classical.hex, pqc.hex⟩

/-- `bytes.fromhex(v)`. -/
def fromHexVal : Val → Except PyErr Bytes
  | .str s => match s.fromHex with
      | some b => .ok b
      | none => .error ⟨.valueError, ["non-hexadecimal number found in fromhex() arg"]⟩
  | _ => .error ⟨.typeError, ["fromhex() argument must be str"]⟩

/-- Verify both signatures.  A signature field that is not hex is a validation error. -/
def hybridVerify (P : Platform) (message : Bytes) (classicalSig pqcSig : Val)
    (sender : PublicKeys) : Except PyErr Bool :=
  match fromHexVal classicalSig, fromHexVal pqcSig with
  | .ok classical, .ok pqc =>
      if P.ed25519Verify sender.signingPub classical message then
        P.pqcVerify sender.pqcSigPub pqc message
      else .ok false
  | .error e, _ | _, .error e =>
      .error ⟨.envelopeValidationError,
        [.lit "Signature fields contain invalid hex data: "] ++ e.msg⟩

/-- Both signatures are valid. -/
theorem hybridVerify_eq_true {P : Platform} {message : Bytes} {c q : Val} {sender : PublicKeys} :
    hybridVerify P message c q sender = .ok true ↔ ∃ classical pqc,
      fromHexVal c = .ok classical ∧ fromHexVal q = .ok pqc ∧
      P.ed25519Verify sender.signingPub classical message = true ∧
      P.pqcVerify sender.pqcSigPub pqc message = .ok true := by
  unfold hybridVerify
  cases fromHexVal c with
  | error e => exact ⟨nofun, fun ⟨_, _, h, _⟩ => nomatch h⟩
  | ok classical =>
      cases fromHexVal q with
      | error e => exact ⟨nofun, fun ⟨_, _, _, h, _⟩ => nomatch h⟩
      | ok pqc =>
          simp only [Except.ok.injEq, exists_and_left, exists_eq_left']
          split
          · rename_i valid
            simp only [valid, true_and]
          · rename_i wrong
            exact ⟨nofun, fun h => absurd h.1 wrong⟩

/-- Signing with a generated key returns. -/
theorem exists_hybridSign {P : Platform} (correct : P.SignatureCorrect) {keypair : HybridKeypair}
    (generated : keypair.Generated P) (message : Bytes) (coins : Urandom 32) :
    ∃ signatures, hybridSign P message keypair coins = .ok signatures := by
  rcases generated with ⟨exchange, kem, signing, pqcSig, rfl⟩
  rcases correct.classical_total signing message with ⟨c, classical⟩
  rcases correct.pqc_total pqcSig coins message with ⟨d, pqc⟩
  refine ⟨⟨c.hex, d.hex⟩, ?_⟩
  simp only [hybridSign, generateHybridKeypair, classical, pqc]

/-- Signatures made with a generated key verify. -/
theorem hybridVerify_sign {P : Platform} (correct : P.SignatureCorrect)
    {keypair : HybridKeypair} (generated : keypair.Generated P) {message : Bytes}
    {coins : Urandom 32} {signatures : Signatures}
    (signed : hybridSign P message keypair coins = .ok signatures) :
    hybridVerify P message (.str signatures.classicalSig) (.str signatures.pqcSig)
      (extractPublicKeys keypair) = .ok true := by
  rcases generated with ⟨exchange, kem, signing, pqcSig, rfl⟩
  simp only [hybridSign, generateHybridKeypair] at signed
  cases classical : P.ed25519Sign signing message with
  | error e => rw [classical] at signed; cases signed
  | ok c =>
      cases pqc : P.pqcSign (P.pqcSigKeypair pqcSig).privateKey message coins with
      | error e => rw [classical, pqc] at signed; cases signed
      | ok d =>
          rw [classical, pqc] at signed
          cases signed
          simp [hybridVerify, fromHexVal, extractPublicKeys, generateHybridKeypair,
            correct.classical classical, correct.pqc pqc]

end Uxsp
