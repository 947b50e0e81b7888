import Uxsp.Core.ChunkTransfer
import Uxsp.Core.EnvelopeWire
import Uxsp.Secure.EngineSteps

/-!
# How large a sealed envelope is

A payload of up to 30 KiB travels in one envelope, and `Envelope.from_dict` refuses more than 64 KiB
of JSON.  With the sizes of the suite the text of an envelope is as long as `sealedSize` says: two
characters a byte and 9264 for the rest, the ids apart.

`send_returns_iff`: between the longest plaintext that fits and the threshold nothing can be sent.
-/

namespace Uxsp

open Chunking

/-- The sizes of X25519, ML-KEM-768, Ed25519 and ML-DSA-65. -/
structure Platform.SuiteSized (P : Platform) : Prop where
  exchange : ∀ a : Urandom 32, (P.x25519Public a).length = 32
  kem : ∀ {publicKey ciphertext s : Bytes} {coins : Urandom 32},
    P.kemEncapsulate publicKey coins = .ok (ciphertext, s) → ciphertext.length = 1088
  classical : ∀ {key message signature : Bytes},
    P.ed25519Sign key message = .ok signature → signature.length = 64
  pqc : ∀ {key message signature : Bytes} {coins : Urandom 32},
    P.pqcSign key message coins = .ok signature → signature.length = 3309

namespace Secure

/-- The length of the text of an envelope with a timestamp of ten digits. -/
def sealedSize (senderId recipientId : Str) (plaintext : ℕ) : ℕ :=
  9264 + JsonText.quoted senderId + JsonText.quoted recipientId + 2 * plaintext

/-- What a text of hexadecimal digits takes. -/
theorem quoted_hex (b : Bytes) : JsonText.quoted b.hex = 2 * b.length + 2 := by
  have plain : ∀ d : Fin 16, 32 ≤ (Str.hexDigit d).val ∧ (Str.hexDigit d).val ≤ 126 ∧
      (Str.hexDigit d).val ≠ 34 ∧ (Str.hexDigit d).val ≠ 92 := by decide
  rw [JsonText.quoted_plain, Bytes.length_hex]
  intro c mem
  obtain ⟨d, rfl⟩ := mem_hex mem
  exact plain d

/-- Between its marks a character takes at most twelve bytes. -/
theorem quoted_le (s : Str) : JsonText.quoted s ≤ 12 * s.length + 2 := by
  have char : ∀ c : CodePoint, (JsonText.char c).length ≤ 12 := by
    intro c
    unfold JsonText.char
    split
    · exact Nat.le_of_ble_eq_true rfl
    · split
      · exact Nat.le_of_ble_eq_true rfl
      · split <;> exact Nat.le_of_ble_eq_true rfl
  unfold JsonText.quoted
  induction s with
  | nil => exact le_rfl
  | cons c s ih =>
      have here := char c
      rw [JsonText.body, List.length_append, List.length_cons]
      omega

variable {P : Platform} {sender : Identity P} {peer : Peer} {payload plaintext : Bytes}
  {checked now : ℚ}

/-- A sealing that nothing but the size of the envelope stands in the way of: a live card with
generated keys, ids that can be encoded and a ten-digit timestamp. -/
structure Sealable (sender : Identity P) (card : Card) (checked now : ℚ) : Prop where
  live : card.isRevoked = false
  valid : card.verifyValidity P.toRuntime checked = .ok ()
  keys : ∃ keypair : HybridKeypair,
    keypair.Generated P ∧ card.publicKeys = extractPublicKeys keypair
  senderId : sender.entityId.length = 36 ∧ sender.entityId.encode.isSome
  recipientId : card.entityId.length = 36 ∧ card.entityId.encode.isSome
  stamp : 10 ^ 9 ≤ ⌊now⌋ ∧ ⌊now⌋ < 10 ^ 10

/-- The laws of the platform that a size rests on. -/
structure Sized (P : Platform) : Prop where
  exchange : P.ExchangeCorrect
  signature : P.SignatureCorrect
  aead : P.AeadCorrect
  tag : P.AeadSized
  suite : P.SuiteSized
  json : P.JsonExact

/-- The envelope of fields and signatures. -/
def envelopeOf (f : SealedFields) (sigs : Signatures) : Envelope where
  version := UXSP_VERSION
  senderId := f.senderId
  recipientId := f.recipientId
  timestamp := f.timestamp
  envelopeNonce := f.envelopeNonce
  ciphertext := f.ciphertext.hex
  nonce := f.nonce.hex
  ephemeralPub := f.ephemeralPub.hex
  kemCiphertext := f.kemCiphertext.hex
  classicalSig := sigs.classicalSig
  pqcSig := sigs.pqcSig

theorem toDict_envelopeOf (f : SealedFields) (sigs : Signatures) :
    (envelopeOf f sigs).toDict = sealDict f sigs := rfl

theorem stamp_digits {n : ℤ} (stamp : 10 ^ 9 ≤ n ∧ n < 10 ^ 10) :
    (Str.ofInt n).length = 10 ∧ Str.printable n := by
  obtain ⟨k, rfl⟩ := Int.eq_ofNat_of_zero_le (by omega : 0 ≤ n)
  have low : 10 ^ 9 ≤ k := by omega
  have high : k < 10 ^ 10 := by omega
  have digits : (Nat.toDigits 10 k).length = 10 := by
    have most := (Nat.length_toDigits_le_iff (b := 10) (n := k) (k := 10) (by decide)
      (by decide)).mpr high
    have least := (Nat.length_toDigits_le_iff (b := 10) (n := k) (k := 9) (by decide)
      (by decide)).not.mpr (by omega)
    omega
  refine ⟨?_, ?_⟩
  · rw [Str.ofInt, Str.ofString, List.length_map, Int.repr_eq_if, if_pos (by omega),
      Nat.toList_repr, Int.toNat_natCast, digits]
  · rw [Str.printable, Int.natAbs_natCast, digits]
    decide

/-- How long the text of an envelope is, from the sizes of its fields. -/
theorem compactSize_envelopeOf {f : SealedFields} {sigs : Signatures} {ciphertext : ℕ}
    (stamp : 10 ^ 9 ≤ f.timestamp ∧ f.timestamp < 10 ^ 10)
    (envelopeNonce : ∃ b : Bytes, f.envelopeNonce = b.hex ∧ b.length = 16)
    (sealedBytes : f.ciphertext.length = ciphertext + 16) (nonce : f.nonce.length = 12)
    (ephemeralPub : f.ephemeralPub.length = 32) (kemCiphertext : f.kemCiphertext.length = 1088)
    (classicalSig : ∃ b : Bytes, sigs.classicalSig = b.hex ∧ b.length = 64)
    (pqcSig : ∃ b : Bytes, sigs.pqcSig = b.hex ∧ b.length = 3309) :
    (envelopeOf f sigs).compactSize = sealedSize f.senderId f.recipientId ciphertext := by
  obtain ⟨n, drawn, long⟩ := envelopeNonce
  obtain ⟨c, classical, longC⟩ := classicalSig
  obtain ⟨q, pqc, longQ⟩ := pqcSig
  have version : JsonText.quoted UXSP_VERSION = 8 := by decide
  simp only [Envelope.compactSize, Envelope.texts, envelopeOf, (stamp_digits stamp).1, drawn,
    classical, pqc, List.map_cons, List.map_nil, List.sum_cons, List.sum_nil, quoted_hex, version,
    long, longC, longQ, sealedBytes, nonce, ephemeralPub, kemCiphertext, sealedSize]
  omega

theorem hybridSign_sized (suite : P.SuiteSized) {message : Bytes} {keypair : HybridKeypair}
    {coins : Urandom 32} {sigs : Signatures}
    (signed : hybridSign P message keypair coins = .ok sigs) :
    (∃ b : Bytes, sigs.classicalSig = b.hex ∧ b.length = 64) ∧
      ∃ b : Bytes, sigs.pqcSig = b.hex ∧ b.length = 3309 := by
  unfold hybridSign at signed
  split at signed
  · cases signed
  · rename_i c classical
    split at signed
    · cases signed
    · rename_i q pqc
      obtain rfl := Except.ok.inj signed
      exact ⟨⟨c, rfl, suite.classical classical⟩, q, rfl, suite.pqc pqc⟩

/-- Fields of these sizes can be bound. -/
theorem exists_signable {R : Runtime} {f : SealedFields}
    (senderId : f.senderId.length = 36 ∧ f.senderId.encode.isSome)
    (recipientId : f.recipientId.length = 36 ∧ f.recipientId.encode.isSome)
    (stamp : 10 ^ 9 ≤ f.timestamp ∧ f.timestamp < 10 ^ 10)
    (envelopeNonce : ∃ b : Bytes, f.envelopeNonce = b.hex ∧ b.length = 16)
    (short : f.ciphertext.length < 2 ^ 32 ∧ f.nonce.length < 2 ^ 32 ∧
      f.ephemeralPub.length < 2 ^ 32 ∧ f.kemCiphertext.length < 2 ^ 32) :
    ∃ b, f.signable R = .ok b := by
  obtain ⟨s, sent⟩ := Option.isSome_iff_exists.mp senderId.2
  obtain ⟨r, received⟩ := Option.isSome_iff_exists.mp recipientId.2
  obtain ⟨b, drawn, long⟩ := envelopeNonce
  obtain ⟨n, nonce⟩ := Option.isSome_iff_exists.mp (hex_encode b)
  obtain ⟨digits, printable⟩ := stamp_digits stamp
  have sLength := Str.length_encode sent
  have rLength := Str.length_encode received
  have nLength := Str.length_encode nonce
  have tLength := Str.length_encode (Str.encode_ofInt f.timestamp)
  rw [Bytes.length_hex] at nLength
  simp only [SealedFields.signable, bind_eq_ok, Str.utf8_eq_ok, timestampBytes_eq_ok, drawn,
    bindFields_eq_ok]
  refine ⟨_, s, sent, r, received, _, ⟨printable, Str.encode_ofInt _⟩, n, nonce, ?_, rfl⟩
  have tag : (Bytes.lit "UXSP-1").length < 2 ^ 32 := by decide
  simp only [List.forall_mem_cons, List.not_mem_nil, IsEmpty.forall_iff, implies_true, and_true]
  omega

/-- The fields and signatures of a sealing that is only too large, if anything. -/
theorem Sealable.exists_fields (sized : Sized P) {card : Card}
    (ready : Sealable sender card checked now) (coins : SealCoins)
    (short : plaintext.length ≤ Platform.aesgcmMaxSize) :
    ∃ f sigs, Hybrid.seal P plaintext sender.keypair card.publicKeys sender.entityId card.entityId
        now [] coins = .ok (sealDict f sigs) ∧ f.timestamp = ⌊now⌋ ∧
      (envelopeOf f sigs).compactSize =
        sealedSize sender.entityId card.entityId plaintext.length := by
  obtain ⟨keypair, generated, keys⟩ := ready.keys
  obtain ⟨exchange, exchanged, -, -⟩ :=
    exists_hybridSenderExchange sized.exchange generated coins.exchange
  rw [← keys] at exchanged
  have parts := exchanged
  simp only [hybridSenderExchange, bind_eq_ok, pure_eq_ok] at parts
  obtain ⟨classical, -, ⟨ciphertext, secret⟩, encapsulated, rfl⟩ := parts
  have ephemeral := sized.suite.exchange coins.exchange.ephemeral
  have kem := sized.suite.kem encapsulated
  obtain ⟨enc, encrypted⟩ := @Symmetric.exists_encrypt P sized.aead plaintext _ [] coins.nonce
    (length_deriveKey P _ _ _ _) short (Nat.zero_le _)
  obtain ⟨-, drawn, called⟩ := Symmetric.encrypt_eq_ok.mp encrypted
  have tag := sized.tag.sealed called
  have nonce : enc.nonce.length = 12 := (congrArg List.length drawn).trans coins.nonce.2
  have some36 : ∀ s : Str, s.length = 36 → s ≠ [] := by
    rintro s long rfl
    cases long
  have fields : sealFields P plaintext card.publicKeys sender.entityId card.entityId now [] coins =
      .ok _ := sealFields_eq_ok.mpr ⟨some36 _ ready.senderId.1, some36 _ ready.recipientId.1, _, enc,
        exchanged, encrypted, rfl⟩
  have drawnNonce : ∃ b : Bytes, coins.envelopeNonce.1.hex = b.hex ∧ b.length = 16 :=
    ⟨_, rfl, coins.envelopeNonce.2⟩
  have most : Platform.aesgcmMaxSize = 2 ^ 31 - 1 := rfl
  obtain ⟨b, bound⟩ := exists_signable (R := P.toRuntime) (f := ⟨enc.ciphertext, enc.nonce,
    sender.entityId, card.entityId, ⌊now⌋, coins.envelopeNonce.1.hex,
    P.x25519Public coins.exchange.ephemeral, ciphertext⟩) ready.senderId ready.recipientId
    ready.stamp drawnNonce (by simp only [tag, nonce, ephemeral, kem]; omega)
  obtain ⟨sigs, signed⟩ := exists_hybridSign sized.signature sender.generated b coins.signing
  obtain ⟨classicalSig, pqcSig⟩ := hybridSign_sized sized.suite signed
  refine ⟨⟨enc.ciphertext, enc.nonce, sender.entityId, card.entityId, ⌊now⌋,
    coins.envelopeNonce.1.hex, P.x25519Public coins.exchange.ephemeral, ciphertext⟩, sigs, ?_, rfl, ?_⟩
  · simp only [Hybrid.seal, bind_eq_ok, pure_eq_ok]
    exact ⟨_, fields, b, bound, sigs, signed, rfl⟩
  · exact compactSize_envelopeOf ready.stamp drawnNonce tag nonce ephemeral kem classicalSig pqcSig

/-- A plaintext is sealed exactly if the text of its envelope is within the limit. -/
theorem Sealable.sealFor_iff (sized : Sized P) {card : Card}
    (ready : Sealable sender card checked now) (coins : SealCoins)
    (short : plaintext.length ≤ Platform.aesgcmMaxSize) :
    (∃ env, sender.sealFor plaintext card checked now coins = .ok env) ↔
      sealedSize sender.entityId card.entityId plaintext.length ≤ Envelope.MAX_BYTES := by
  obtain ⟨f, sigs, made, stamp, size⟩ := ready.exists_fields sized coins short
  have printable : Str.printable (envelopeOf f sigs).timestamp := by
    show Str.printable f.timestamp
    rw [stamp]
    exact (stamp_digits ready.stamp).2
  obtain ⟨text, written, length⟩ := Envelope.exists_text printable .compact
  have compact := sized.json.compact written
  have length : text.length = (envelopeOf f sigs).compactSize := by
    simp only [JsonText.Separators.compact, List.length_cons, List.length_nil] at length
    omega
  rw [← size, ← length]
  simp only [Identity.sealFor, bind_eq_ok, ensure_eq_ok, ready.live, ready.valid, Bool.not_false,
    made, Except.ok.injEq, exists_eq_left', exists_const, true_and]
  rw [← toDict_envelopeOf]
  constructor
  · rintro ⟨env, returned⟩
    obtain ⟨-, -, text', compact', small⟩ := Envelope.fromDict_eq_ok.mp returned
    obtain rfl := Except.ok.inj (compact.symm.trans compact')
    exact small
  · intro small
    exact ⟨_, Envelope.fromDict_eq_ok.mpr ⟨Envelope.reads_toDict _ _, rfl, text, compact, small⟩⟩

/-! ## A large payload -/

/-- The header of a chunk is short where its numbers print. -/
theorem exists_headerText (json : P.JsonExact) {data body : Bytes} {total index : ℕ} {id : Uuid4}
    (numbers : Str.printable index ∧ Str.printable total ∧ Str.printable body.length) :
    ∃ text, P.jsonCompact (.dict (transferChunk P data total .default id index body).header) =
      .ok text ∧ text.length ≤ MAX_HEADER_LEN := by
  obtain ⟨i, iText, iLong⟩ := Envelope.length_number numbers.1
  obtain ⟨t, tText, tLong⟩ := Envelope.length_number numbers.2.1
  obtain ⟨n, nText, nLong⟩ := Envelope.length_number numbers.2.2
  have iShort := Str.length_ofInt numbers.1
  have tShort := Str.length_ofInt numbers.2.1
  have nShort := Str.length_ofInt numbers.2.2
  have written : ∃ text, JsonText.val .compact
      (.dict (transferChunk P data total .default id index body).header) = some text ∧
        text.length ≤ MAX_HEADER_LEN := by
    simp only [UXSPChunk.header, transferChunk, TransferMeta.default, UXSPChunk.optional,
      JsonText.val, JsonText.members, iText, tText, nText, Option.bind_eq_bind, Option.bind_some,
      Option.pure_def, Option.some.injEq, exists_eq_left']
    have keys : ["transfer_id", "chunk_index", "total_chunks", "file_hash_sha256",
        "chunk_hash_sha256", "kind", "filename", "content_type", "encoding", "body_len"].map
          (fun k => (JsonText.body (Str.ofString k)).length) =
        [12, 12, 13, 17, 18, 5, 9, 13, 9, 9] := by decide
    have null : (Bytes.lit "null").length = 4 := by decide
    have idSize : JsonText.quoted id.hex ≤ _ := quoted_le id.hex
    have kindSize : JsonText.quoted ChunkKind.binary.str = 8 := by decide
    have typeSize : JsonText.quoted "application/octet-stream" = 26 := by decide
    have idLength : id.hex.length = 32 := (List.length_map _).trans id.length_eq
    have fileSize := quoted_hex (P.sha256 data)
    have bodySize := quoted_hex (P.sha256 body)
    rw [P.sha256_length] at fileSize bodySize
    rw [idLength] at idSize
    simp only [JsonText.quoted] at idSize kindSize typeSize fileSize bodySize
    simp only [List.map_cons, List.map_nil, List.cons.injEq, and_true] at keys
    simp only [JsonText.Separators.compact, List.length_append, List.length_cons, List.length_nil,
      keys, null, sha256Hex, MAX_HEADER_LEN]
    omega
  obtain ⟨text, written, short⟩ := written
  exact ⟨text, json.compact written, short⟩

theorem length_rawChunks {data : Bytes} {size : ℕ} (positive : 0 < size) :
    (rawChunks data size).length ≤ data.length + 1 := by
  unfold rawChunks
  split
  · exact Nat.le_add_left _ _
  · rw [Slices.length_slices]
    exact (Slices.count_le positive).trans (Nat.le_succ _)

theorem length_of_mem_rawChunks {data body : Bytes} {size : ℕ} (mem : body ∈ rawChunks data size) :
    body.length ≤ size := by
  unfold rawChunks at mem
  split at mem
  · rw [List.mem_singleton.mp mem]
    exact Nat.zero_le _
  · exact Slices.length_of_mem_slices mem

theorem printable_of_small {n : ℕ} (small : n ≤ 2 ^ 63) : Str.printable n :=
  Str.printable_of_lt (k := 20) (small.trans_lt (by norm_num)) (by decide) (by decide)

/-- A payload that a `bytes` object can hold is cut into chunks. -/
theorem exists_packed (json : P.JsonExact) (addressable : payload.length < 2 ^ 63) (id : Uuid4) :
    ∃ packed, createChunkedTransfer P payload CHUNK_SIZE .default id = .ok packed ∧
      packed.length ≤ payload.length + 1 ∧
      ∀ raw ∈ packed, raw.length ≤ Platform.aesgcmMaxSize := by
  have positive : 0 < CHUNK_SIZE := by decide
  have few : (rawChunks payload CHUNK_SIZE).length ≤ payload.length + 1 := length_rawChunks positive
  have parts : ∀ c ∈ transferChunks P payload CHUNK_SIZE .default id,
      c.body.length ≤ CHUNK_SIZE ∧ ∃ text, P.jsonCompact (.dict c.header) = .ok text ∧
        text.length ≤ MAX_HEADER_LEN := by
    intro c mem
    obtain ⟨k, less, rfl⟩ := List.mem_iff_getElem.mp mem
    obtain ⟨body, here, same⟩ := getElem_transferChunks less
    rw [length_transferChunks] at less
    have short := length_of_mem_rawChunks (List.mem_of_getElem? here)
    rw [same]
    refine ⟨short, exists_headerText json ⟨?_, ?_, ?_⟩⟩
    · exact printable_of_small (by omega)
    · exact printable_of_small (by omega)
    · exact printable_of_small (short.trans (by decide))
  have size : (CHUNK_SIZE : ℤ).toNat = CHUNK_SIZE := Int.toNat_natCast _
  obtain ⟨packed, created⟩ : ∃ packed,
      createChunkedTransfer P payload CHUNK_SIZE .default id = .ok packed :=
    exists_created (by decide) fun c mem => (parts c (size ▸ mem)).2
  obtain ⟨-, chunks⟩ := createChunkedTransfer_eq_ok.mp created
  rw [size] at chunks
  refine ⟨packed, created, ?_, fun raw mem => ?_⟩
  · rw [← chunks.length_eq, length_transferChunks]
    exact few
  · obtain ⟨c, inside, bytes⟩ := exists_of_forall₂ chunks mem
    obtain ⟨text, -, short, rfl⟩ := UXSPChunk.toBytes_eq_ok.mp bytes
    have body := (parts c inside).1
    have magic : MAGIC.length = 12 := by decide
    simp only [List.length_append, magic, UXSPChunk.length_packLength, HEADER_LEN_BYTES]
    simp only [CHUNK_SIZE, MAX_HEADER_LEN, Platform.aesgcmMaxSize] at *
    omega

theorem exists_chunkAd (R : Runtime) (nonce : Bytes) (size : nonce.length = 16) {seq : ℕ}
    (small : seq ≤ 2 ^ 63) :
    ∃ ad, chunkAd R nonce.hex seq = .ok ad ∧ ad.length ≤ Platform.aesgcmMaxSize := by
  have printable := printable_of_small small
  have short := Str.length_ofInt printable
  obtain ⟨n, encoded⟩ := Option.isSome_iff_exists.mp (hex_encode nonce)
  have whole : Str.encode (nonce.hex ++ (":" : Str) ++ Str.ofInt seq) =
      some (n ++ Bytes.lit ":" ++ Bytes.lit (Int.repr seq)) := by
    rw [Str.encode_append, Str.encode_append, encoded, Str.encode_ofString, Str.encode_ofInt]
    rfl
  have built : chunkAd R nonce.hex seq = .ok (n ++ Bytes.lit ":" ++ Bytes.lit (Int.repr seq)) := by
    simp only [chunkAd, bind_eq_ok, Str.utf8_eq_ok, R.str_int_eq_ok]
    exact ⟨_, ⟨printable, rfl⟩, whole⟩
  refine ⟨_, built, ?_⟩
  have long := Str.length_encode whole
  have colon : (":" : Str).length = 1 := by decide
  simp only [List.length_append, Bytes.length_hex, size, colon] at long
  simp only [List.length_append, Platform.aesgcmMaxSize]
  omega

/-- Chunks of these sizes are sealed. -/
theorem exists_sealChunks (aead : P.AeadCorrect) {env : Envelope} {coins : SendCoins}
    (drawn : env.envelopeNonce = coins.envelope.envelopeNonce.1.hex) {packed : List Bytes}
    (few : packed.length ≤ 2 ^ 63) (short : ∀ raw ∈ packed, raw.length ≤ Platform.aesgcmMaxSize) :
    ∃ sealedChunks, sealChunks P env.envelopeNonce coins packed = .ok sealedChunks := by
  have each : ∀ p ∈ packed.zipIdx, ∃ enc, sealChunk P env.envelopeNonce coins p.1 p.2 = .ok enc := by
    intro p mem
    obtain ⟨less, here⟩ := List.mem_zipIdx' mem
    have within : p.2 ≤ 2 ^ 63 := by omega
    obtain ⟨ad, bound, size⟩ := exists_chunkAd P.toRuntime coins.envelope.envelopeNonce
      coins.envelope.envelopeNonce.2 within
    obtain ⟨enc, encrypted⟩ := Symmetric.exists_encrypt aead (coins.chunkNonce p.2)
      coins.sessionKey.2 (short p.1 (here ▸ List.getElem_mem less)) size
    refine ⟨enc, ?_⟩
    rw [drawn, sealChunk, bound]
    exact encrypted
  obtain ⟨sealedChunks, all⟩ := exists_forall₂ each
  exact ⟨sealedChunks, mapM_eq_ok.mpr all⟩

/-! A platform with the sizes of the suite, its tags and signatures padded with zeros. -/

def zeros (n : ℕ) : Bytes := List.replicate n 0

theorem length_zeros (n : ℕ) : (zeros n).length = n := List.length_replicate

/-- The first `n` bytes of a key and a message. -/
def padded (n : ℕ) (key message : Bytes) : Bytes := (key ++ message ++ zeros n).take n

theorem length_padded (n : ℕ) (key message : Bytes) : (padded n key message).length = n := by
  rw [padded, List.length_take, List.length_append, length_zeros]
  omega

/-- `AESGCM.decrypt` of a ciphertext that ends in its tag. -/
def untagged (ciphertext : Bytes) : Except PyErr Bytes :=
  if 16 ≤ ciphertext.length then .ok (ciphertext.take (ciphertext.length - 16))
  else .error ⟨.invalidTag, []⟩

def suited : Platform :=
  { Platform.reading with
    aesgcmEncrypt := fun _ _ data _ => .ok (data ++ zeros 16)
    aesgcmDecrypt := fun _ _ ciphertext _ => untagged ciphertext
    ed25519Sign := fun key message => .ok (padded 64 key message)
    ed25519Verify := fun key signature message => signature == padded 64 key message
    x25519Public := fun a => padded 32 a []
    x25519 := fun mine theirs => .ok (List.zipWith (fun a b => a ^^^ b) (padded 32 mine []) theirs)
    kemEncapsulate := fun _ coins => .ok (coins ++ zeros 1056, coins)
    kemDecapsulate := fun _ ciphertext => .ok (ciphertext.take 32)
    pqcSign := fun key message _ => .ok (padded 3309 key message)
    pqcVerify := fun key signature message => .ok (signature == padded 3309 key message) }

theorem suited_sized : Sized suited where
  exchange := {
    agree := by
      intro a b s exchanged
      cases exchanged
      refine congrArg Except.ok (List.zipWith_comm_of_comm ?_)
      exact fun x y => UInt8.xor_comm x y
    exchange_total := fun _ _ => ⟨_, rfl⟩
    public_size := fun a => (length_padded 32 a []).trans_lt (by norm_num)
    decapsulate := by
      intro seed coins ciphertext s encapsulated
      cases encapsulated
      exact congrArg Except.ok (List.take_left' coins.2)
    encapsulate_total := by
      intro seed coins
      refine ⟨_, _, rfl, ?_⟩
      rw [List.length_append, coins.2, length_zeros]
      norm_num }
  signature := {
    classical := by
      intro key message signature signed
      cases signed
      exact beq_self_eq_true _
    classical_total := fun _ _ => ⟨_, rfl⟩
    pqc := by
      intro seed coins message signature signed
      cases signed
      exact congrArg Except.ok (beq_self_eq_true _)
    pqc_total := fun _ _ _ => ⟨_, rfl⟩ }
  aead := {
    total := fun _ _ _ _ => ⟨_, rfl⟩
    open_seal := by
      intro key nonce data ad c encrypted
      cases encrypted
      have size : (data ++ zeros 16).length = data.length + 16 := by
        rw [List.length_append, length_zeros]
      show untagged _ = _
      rw [untagged, if_pos (by omega), size, Nat.add_sub_cancel, List.take_left] }
  tag := {
    sealed := by
      intro key nonce data ad c encrypted
      cases encrypted
      rw [List.length_append, length_zeros]
    opened := by
      intro key nonce data ad c opened
      change untagged c = _ at opened
      unfold untagged at opened
      split at opened
      · obtain rfl := Except.ok.inj opened
        rw [List.length_take]
        omega
      · cases opened }
  suite := {
    exchange := fun a => length_padded 32 a []
    kem := by
      intro publicKey ciphertext s coins encapsulated
      cases encapsulated
      rw [List.length_append, coins.2, length_zeros]
    classical := by
      intro key message signature signed
      cases signed
      exact length_padded 64 key message
    pqc := by
      intro key message signature coins signed
      cases signed
      exact length_padded 3309 key message }
  json := ⟨Platform.reading_exact.compact, Platform.reading_exact.dumps⟩

def suitedSender : Identity suited :=
  .generate suited "00000000-0000-4000-8000-00000000000a" ⟨zeros 32, rfl⟩ ⟨zeros 64, rfl⟩
    ⟨zeros 32, rfl⟩ ⟨zeros 32, rfl⟩

def suitedPeer : Peer :=
  ⟨"b", (Identity.generate suited "00000000-0000-4000-8000-00000000000b" ⟨zeros 32, rfl⟩
    ⟨zeros 64, rfl⟩ ⟨zeros 32, rfl⟩ ⟨zeros 32, rfl⟩).card⟩

def suitedCoins : SendCoins where
  envelope := {
    exchange := ⟨⟨zeros 32, rfl⟩, ⟨zeros 32, rfl⟩⟩
    nonce := ⟨zeros 12, rfl⟩
    envelopeNonce := ⟨zeros 16, rfl⟩
    signing := ⟨zeros 32, rfl⟩ }
  sessionKey := ⟨zeros 32, rfl⟩
  transferId := ChunkTransfer.sampleId
  chunkNonce := fun _ => ⟨zeros 12, rfl⟩

theorem suited_sealable : Sealable suitedSender suitedPeer.card 1700000000 1700000000 where
  live := rfl
  valid := rfl
  keys := ⟨_, ⟨_, _, _, _, rfl⟩, rfl⟩
  senderId := by decide
  recipientId := by decide
  stamp := by
    rw [show (1700000000 : ℚ) = ((1700000000 : ℤ) : ℚ) by norm_num, Int.floor_intCast]
    norm_num

/-! ## Which payloads can be sent -/

/-- Ids of plain characters take two marks and themselves. -/
theorem sealedSize_plain {senderId recipientId : Str} (long : senderId.length = 36)
    (long' : recipientId.length = 36)
    (plain : ∀ c ∈ senderId ++ recipientId, JsonText.PlainChar c) (n : ℕ) :
    sealedSize senderId recipientId n = 9340 + 2 * n := by
  rw [sealedSize, JsonText.quoted_plain fun c mem => plain c (List.mem_append_left _ mem),
    JsonText.quoted_plain fun c mem => plain c (List.mem_append_right _ mem), long, long']

/-- A package is returned exactly if the payload goes into chunks or its envelope is within the
limit. -/
theorem exists_sent_iff (sized : Sized P) (ready : Sealable sender peer.card checked now)
    (addressable : payload.length < 2 ^ 63) {dataType : Str} {metadata : Dict} {coins : SendCoins} :
    (∃ package, sendPayload sender peer payload dataType metadata checked now coins = .ok package) ↔
      ENVELOPE_LIMIT < payload.length ∨
        sealedSize sender.entityId peer.card.entityId payload.length ≤ Envelope.MAX_BYTES := by
  unfold sendPayload
  split
  · rename_i small
    have short : payload.length ≤ Platform.aesgcmMaxSize := small.trans (by decide)
    rw [or_iff_right (not_lt.mpr small), ← ready.sealFor_iff sized coins.envelope short]
    simp only [bind_eq_ok, pure_eq_ok]
    constructor
    · rintro ⟨_, env, made, -⟩
      exact ⟨env, made⟩
    · rintro ⟨env, made⟩
      exact ⟨_, env, made, rfl⟩
  · rename_i large
    refine iff_of_true ?_ (.inl (not_le.mp large))
    have keyShort : coins.sessionKey.1.length ≤ Platform.aesgcmMaxSize := by
      rw [coins.sessionKey.2]
      decide
    have fits : sealedSize sender.entityId peer.card.entityId coins.sessionKey.1.length ≤
        Envelope.MAX_BYTES := by
      have senderSize := quoted_le sender.entityId
      have recipientSize := quoted_le peer.card.entityId
      rw [ready.senderId.1] at senderSize
      rw [ready.recipientId.1] at recipientSize
      rw [sealedSize, coins.sessionKey.2, Envelope.MAX_BYTES]
      omega
    obtain ⟨env, made⟩ := (ready.sealFor_iff sized coins.envelope keyShort).mpr fits
    obtain ⟨packed, created, few, short⟩ := exists_packed sized.json addressable coins.transferId
    obtain ⟨sealedChunks, sealedAll⟩ := exists_sealChunks sized.aead
      (SendCall.sealFor_envelopeNonce made) (by omega) short
    simp only [bind_eq_ok, pure_eq_ok]
    exact ⟨_, env, made, packed, created, sealedChunks, sealedAll, rfl⟩

/-- A package is returned exactly if the payload goes into chunks or the text of its envelope is
within the limit.  With plain ids those are the payloads over 30 KiB and those of up to 28098
bytes.  No `bytes` object has 2 ** 63 bytes. -/
theorem send_returns_iff (sized : Sized P) (ready : Sealable sender peer.card checked now)
    (addressable : payload.length < 2 ^ 63) (dataType : Str) (metadata : Dict) (coins : SendCoins) :
    ((∃ package, sendPayload sender peer payload dataType metadata checked now coins = .ok package) ↔
      ENVELOPE_LIMIT < payload.length ∨
        sealedSize sender.entityId peer.card.entityId payload.length ≤ Envelope.MAX_BYTES) ∧
    ((∀ c ∈ sender.entityId ++ peer.card.entityId, JsonText.PlainChar c) →
      (sealedSize sender.entityId peer.card.entityId payload.length ≤ Envelope.MAX_BYTES ↔
        payload.length ≤ 28098)) := by
  refine ⟨exists_sent_iff sized ready addressable, ?_⟩
  intro plain
  rw [sealedSize_plain ready.senderId.1 ready.recipientId.1 plain, Envelope.MAX_BYTES]
  omega

theorem send_returns_iff_sample :
    ∃ package, sendPayload suitedSender suitedPeer (zeros 28098) "binary" [] 1700000000 1700000000
      suitedCoins = .ok package := by
  have size : (zeros 28098).length = 28098 := length_zeros _
  have addressable : (zeros 28098).length < 2 ^ 63 := by
    rw [size]
    norm_num
  have sent := send_returns_iff suited_sized suited_sealable addressable "binary" [] suitedCoins
  have plain : ∀ c ∈ suitedSender.entityId ++ suitedPeer.card.entityId, JsonText.PlainChar c := by
    have checked : ((suitedSender.entityId ++ suitedPeer.card.entityId).all fun c =>
        decide (32 ≤ c.val ∧ c.val ≤ 126 ∧ c.val ≠ 34 ∧ c.val ≠ 92)) = true := by decide
    intro c mem
    simpa only [decide_eq_true_eq, JsonText.PlainChar] using List.all_eq_true.mp checked c mem
  exact sent.1.mpr (.inr ((sent.2 plain).mpr size.le))

/-- One byte more than fits, and below the threshold for chunks. -/
theorem unsendable_payload :
    ¬ ∃ package, sendPayload suitedSender suitedPeer (zeros 28099) "binary" [] 1700000000 1700000000
      suitedCoins = .ok package := by
  have size : (zeros 28099).length = 28099 := length_zeros _
  have short : (zeros 28099).length ≤ Platform.aesgcmMaxSize := by
    rw [size]
    decide
  rintro ⟨package, returned⟩
  rw [sendPayload, if_pos (by rw [size]; decide)] at returned
  obtain ⟨env, made, -⟩ := bind_eq_ok.mp returned
  have within := (suited_sealable.sealFor_iff suited_sized suitedCoins.envelope short).mp ⟨env, made⟩
  have ids : JsonText.quoted suitedSender.entityId = 38 ∧
      JsonText.quoted suitedPeer.card.entityId = 38 := by decide
  rw [sealedSize, ids.1, ids.2, size, Envelope.MAX_BYTES] at within
  omega

end Secure

end Uxsp
