import Uxsp.Secure.Authenticity

/-!
# Chunked packages

`chunked_package`: the package of a large payload is received, also through JSON; with another list
of chunk entries in it the payload is returned if the entries hold the same bytes, and nothing
otherwise.  The associated data bind a chunk to its place, the count is checked when the chunks are
put together, and no digest is needed.
-/

namespace Uxsp.Secure

variable {P : Platform} {A B : Identity P} {guard : ReplayGuard} {S : SeenStore} {s : S.State}
  {call : ReceiveCall} {package : SecurePackage} {env : Envelope}

/-- The ciphertexts and nonces of a chunk list. -/
def decodedChunks (chunks : Val) : Except PyErr (List (Bytes × Bytes)) := do
  (← chunkEntries chunks).mapM decodeEntry

/-- Ideal AEAD: an entry that opens in its place under the session key of the call was sealed by the
call. -/
def SendCall.Unforged (e : SendCall A) (chunks : Val) : Prop :=
  ∀ entries seq entry ad ciphertext nonce raw, chunkEntries chunks = .ok entries →
    entries[seq]? = some entry → chunkAd P.toRuntime e.envelopeNonce seq = .ok ad →
    decodeEntry entry = .ok (ciphertext, nonce) →
    Symmetric.decrypt P ciphertext nonce e.coins.sessionKey ad = .ok raw →
      ∃ k, e.SealedChunk k ad nonce ciphertext

/-- What the package of the call needs to be received: it was made for the recipient, the recipient
has a valid card of the sender, and the guard lets the envelope pass. -/
structure Welcome (e : SendCall A) (B : Identity P) (guard : ReplayGuard) (S : SeenStore)
    (s : S.State) (sender : Peer) (t : Identity.OpenReadings) : Prop where
  peerId : e.peer.id = B.entityId
  cardId : e.peer.card.entityId = B.entityId
  keys : e.peer.card.publicKeys = extractPublicKeys B.keypair
  senderId : sender.id = A.entityId
  senderCard : sender.card.toPublicCard = A.publicCard
  valid : sender.card.verifyValidity P.toRuntime t.checked = .ok ()
  admits : Admits guard S s ⌊e.now⌋ e.envelopeNonce t

/-! ## The honest chunks -/

/-- Chunks in a spelling that decodes to their bytes. -/
theorem mapM_decodeEntry {spell : Symmetric.Encrypted → Val}
    (spelled : ∀ enc, decodeEntry (spell enc) = .ok (enc.ciphertext, enc.nonce))
    (encrypted : List Symmetric.Encrypted) : (encrypted.map spell).mapM decodeEntry =
      .ok (encrypted.map fun enc => (enc.ciphertext, (enc.nonce : Bytes))) := by
  rw [mapM_eq_ok, List.forall₂_map_left_iff, List.forall₂_map_right_iff, List.forall₂_same]
  exact fun enc _ => spelled enc

theorem SendCall.Chunks.decoded {e : SendCall A} {packed : List Bytes}
    {encrypted : List Symmetric.Encrypted} (made : e.Chunks packed encrypted) :
    decodedChunks e.package.chunks =
      .ok (encrypted.map fun enc => (enc.ciphertext, (enc.nonce : Bytes))) := by
  rw [made.chunks, decodedChunks, bind_eq_ok]
  exact ⟨_, rfl, mapM_decodeEntry decodeEntry_chunkEntry encrypted⟩

/-- Entries with the bytes of the call's chunks are put together to the payload. -/
theorem SendCall.Chunks.opens (aead : P.AeadCorrect) (json : P.JsonCorrect) {e : SendCall A}
    {packed : List Bytes} {encrypted : List Symmetric.Encrypted} (made : e.Chunks packed encrypted)
    {chunks : Val} (same : decodedChunks chunks = decodedChunks e.package.chunks) :
    openChunks P e.envelopeNonce e.coins.sessionKey chunks = .ok e.payload := by
  rw [made.decoded, decodedChunks, bind_eq_ok] at same
  rcases same with ⟨entries, listed, decoded⟩
  rw [mapM_eq_ok, List.forall₂_iff_get] at decoded
  rcases decoded with ⟨lengths, decoded⟩
  rw [List.length_map] at lengths
  have opened : entries.zipIdx.mapM (fun item =>
      openEntry P e.envelopeNonce e.coins.sessionKey item.1 item.2) = .ok packed := by
    rw [mapM_eq_ok, List.forall₂_iff_get]
    refine ⟨(List.length_zipIdx.trans lengths).trans made.length_eq, fun k less less' => ?_⟩
    rw [List.length_zipIdx] at less
    have there : k < encrypted.length := lengths ▸ less
    have here := decoded k less (by rwa [List.length_map])
    simp only [List.get_eq_getElem, List.getElem_map, List.getElem_zipIdx, Nat.zero_add] at here ⊢
    rcases made.sealedAt there with ⟨ad, raw, found, bound, sealedChunk⟩
    rw [List.getElem?_eq_getElem less', Option.some.injEq] at found
    rw [found]
    exact openEntry_eq_ok.mpr ⟨ad, _, _, bound, here, Symmetric.decrypt_encrypt aead sealedChunk⟩
  rcases reassembleChunkedTransfer_perm json TransferMeta.default_sound made.created
    (List.Perm.refl packed) with ⟨m, reassembled⟩
  simp only [openChunks, bind_eq_ok, pure_eq_ok]
  exact ⟨entries, listed, packed, opened, (m, e.payload), reassembled, rfl⟩

/-- Entries that were put together have the bytes of the call's chunks, in order. -/
theorem SendCall.Chunks.decoded_eq (aead : P.AeadCorrect) (json : P.JsonCorrect) {e : SendCall A}
    {packed : List Bytes} {encrypted : List Symmetric.Encrypted} (made : e.Chunks packed encrypted)
    {chunks : Val} (unforged : e.Unforged chunks) {r : Bytes}
    (returned : openChunks P e.envelopeNonce e.coins.sessionKey chunks = .ok r) :
    decodedChunks chunks = decodedChunks e.package.chunks ∧ r = e.payload := by
  rcases openChunks_facts returned with ⟨entries, raws, m, listed, opened, reassembled⟩
  rw [List.forall₂_iff_get] at opened
  rcases opened with ⟨lengths, opened⟩
  rw [List.length_zipIdx] at lengths
  -- what stands at a place is the chunk of the place
  have place : ∀ k (less : k < entries.length) (less' : k < raws.length),
      packed[k]? = some raws[k] ∧ ∃ there : k < encrypted.length,
        decodeEntry entries[k] = .ok (encrypted[k].ciphertext, encrypted[k].nonce) := by
    intro k less less'
    have here := opened k (by rwa [List.length_zipIdx]) less'
    simp only [List.get_eq_getElem, List.getElem_zipIdx, Nat.zero_add] at here
    rcases openEntry_eq_ok.mp here with ⟨ad, ciphertext, nonce, bound, decoded, decrypted⟩
    rcases unforged entries k _ ad ciphertext nonce _ listed (List.getElem?_eq_getElem less) bound
      decoded decrypted with ⟨j, chunk⟩
    obtain rfl := (chunkAd_inj rfl chunk.2.1 bound).2
    rcases chunk.eq made with ⟨there, rfl, rfl⟩
    exact ⟨chunk.opens aead made decrypted, there, decoded⟩
  have inside : raws ⊆ packed := by
    intro raw mem
    rcases List.mem_iff_getElem.mp mem with ⟨k, less, rfl⟩
    exact List.mem_of_getElem? (place k (lengths ▸ less) less).1
  rcases reassembleChunkedTransfer_subset json TransferMeta.default_sound made.created inside
    reassembled with ⟨payload, count⟩
  refine ⟨?_, payload⟩
  rw [made.decoded, decodedChunks, bind_eq_ok]
  refine ⟨entries, listed, ?_⟩
  rw [mapM_eq_ok, List.forall₂_iff_get]
  have all : entries.length = encrypted.length := lengths.trans (count.trans made.length_eq.symm)
  refine ⟨all.trans (List.length_map _).symm, fun k less less' => ?_⟩
  rcases (place k less (lengths ▸ less)).2 with ⟨there, decoded⟩
  rw [List.get_eq_getElem, List.get_eq_getElem, List.getElem_map]
  exact decoded

/-- What decodes to the first chunks of the call was sealed by the call. -/
theorem SendCall.Chunks.unforged {e : SendCall A} {packed : List Bytes}
    {encrypted : List Symmetric.Encrypted} (made : e.Chunks packed encrypted)
    (chunked : e.chunked = true) {entries : List Val} {n : ℕ}
    (decoded : entries.mapM decodeEntry =
      .ok ((encrypted.take n).map fun enc => (enc.ciphertext, (enc.nonce : Bytes)))) :
    e.Unforged (.list entries) := by
  intro entries' seq entry ad ciphertext nonce raw listed found bound here _
  obtain rfl : entries = entries' := Except.ok.inj listed
  rw [mapM_eq_ok, List.forall₂_iff_get] at decoded
  rcases decoded with ⟨lengths, decoded⟩
  rcases List.getElem?_eq_some_iff.mp found with ⟨less, rfl⟩
  have there := decoded seq less (lengths ▸ less)
  have below : seq < (encrypted.take n).length := by
    rw [← List.length_map, ← lengths]
    exact less
  simp only [List.get_eq_getElem, List.getElem_map, List.getElem_take, here, Except.ok.injEq,
    Prod.mk.injEq] at there
  have less' : seq < encrypted.length := below.trans_le (List.length_take_le' _ _)
  refine ⟨seq, chunked, bound, _, chunkEntry encrypted[seq], made.chunks, ?_, ?_⟩
  · rw [List.getElem?_map, List.getElem?_eq_getElem less']
    rfl
  · rw [decodeEntry_chunkEntry, there.1, there.2]

/-! ## Receiving a chunked package -/

/-- Nothing is put together from a chunk list without chunks. -/
theorem truthy_of_openChunks {nonce : Str} {key : Bytes} {chunks : Val} {r : Bytes}
    (returned : openChunks P nonce key chunks = .ok r) : chunks.truthy = true := by
  rcases openChunks_facts returned with ⟨entries, raws, m, listed, opened, reassembled⟩
  have nonempty : entries ≠ [] := by
    rintro rfl
    cases opened
    cases reassembled
  have mapped : ∀ {α : Type} {f : α → Val} {xs : List α}, entries = xs.map f → xs.isEmpty = false := by
    intro α f xs same
    refine Bool.eq_false_iff.mpr fun none => nonempty ?_
    rw [same, List.isEmpty_iff.mp none]
    rfl
  cases chunks with
  | list xs =>
      have same : entries = xs.map id := by rw [List.map_id, Except.ok.inj listed]
      exact congrArg Bool.not (mapped same)
  | dict items => exact congrArg Bool.not (mapped (Except.ok.inj listed).symm)
  | str t => exact congrArg Bool.not (mapped (Except.ok.inj listed).symm)
  | none => cases listed
  | bool b => cases listed
  | int n => cases listed
  | float x => cases listed

/-- A welcome package returns what its chunks are put together to, and nothing else. -/
theorem Welcome.receive (exchange : P.ExchangeCorrect) (aead : P.AeadCorrect)
    (signature : P.SignatureCorrect) {e : SendCall A} (large : ENVELOPE_LIMIT < e.payload.length)
    (welcome : Welcome e B guard S s call.sender call.readings)
    (resolved : call.resolved P.toRuntime B.entityId = .ok package)
    (envelope : package.envelope = e.package.envelope)
    (kind : package.isChunked = e.package.isChunked) {r : Bytes} :
    (receivePayload B guard S s call).1 = .ok r ↔
      openChunks P e.envelopeNonce e.coins.sessionKey package.chunks = .ok r := by
  have chunked : e.chunked = true := decide_eq_true large
  rcases e.exists_made with ⟨env, f, b, made⟩
  rw [made.isChunked, chunked] at kind
  have nonce : env.envelopeNonce = e.envelopeNonce := by
    rcases sealFields_eq_ok.mp made.sealedFor.fields with ⟨_, _, _, _, _, _, rfl⟩
    exact made.sealedFor.envelope_eq.2.2.2
  have stamp : env.timestamp = ⌊e.now⌋ := by
    rcases sealFields_eq_ok.mp made.sealedFor.fields with ⟨_, _, _, _, _, _, rfl⟩
    exact made.sealedFor.envelope_eq.2.2.1
  have admits : Admits guard S s env.timestamp env.envelopeNonce call.readings := by
    rw [stamp, nonce]
    exact welcome.admits
  have opened := made.sealedFor.openFrom exchange aead signature welcome.cardId welcome.keys
    welcome.senderCard welcome.valid admits
  have plain : e.plaintext = e.coins.sessionKey := by rw [SendCall.plaintext, chunked, if_pos rfl]
  rw [plain] at opened
  have found : package.chunks.truthy = true → packageEnvelope P.toRuntime package = .ok env := by
    intro chunks
    simp only [packageEnvelope, bind_eq_ok, ensure_eq_ok]
    refine ⟨(), by rw [chunks, Bool.or_true], (), ?_, ?_⟩
    · rw [envelope, made.envelope]
      rfl
    · rw [envelope, made.envelope]
      exact made.sealedFor.small
  constructor
  · intro returned
    rcases receivePayload_facts returned with ⟨package', env', plaintext, resolved', found', opened',
      unpacked⟩
    obtain rfl : package' = package := Except.ok.inj (resolved'.symm.trans resolved)
    have chunks : package'.chunks.truthy = true := by
      simp only [packageEnvelope, bind_eq_ok, ensure_eq_ok, kind, Bool.not_true,
        Bool.false_or] at found'
      rcases found' with ⟨_, chunks, _⟩
      exact chunks
    obtain rfl : env' = env := Except.ok.inj (found'.symm.trans (found chunks))
    rw [opened, Except.ok.injEq] at opened'
    rw [contents, kind, if_pos rfl, ← opened', nonce] at unpacked
    exact unpacked
  · intro unpacked
    have chunks := truthy_of_openChunks unpacked
    simp only [receivePayload, resolved, openPackage, found chunks]
    generalize B.openFrom S s env.toDict call.sender.card (some guard) call.readings = result
      at opened ⊢
    rcases result with ⟨_, s'⟩
    cases opened
    simp only [contents, kind, if_true, nonce, unpacked]

/-- The outer fields of a welcome package pass the checks. -/
theorem Welcome.resolved {e : SendCall A} {sender : Peer} {t : Identity.OpenReadings}
    (welcome : Welcome e B guard S s sender t) {expected : Option Str}
    (type : ∀ x ∈ expected, x = e.dataType) {input : PackageInput} {chunks metadata : Val}
    (found : resolvePackageInput P.toRuntime input =
      .ok { e.package with chunks := chunks, metadata := metadata }) :
    ReceiveCall.resolved P.toRuntime ⟨sender, input, expected, t⟩ B.entityId =
      .ok { e.package with chunks := chunks, metadata := metadata } := by
  rcases e.exists_made with ⟨env, f, b, made⟩
  refine resolved_eq_ok.mpr ⟨found, ?_⟩
  simp only [checkPackage, bind_eq_ok, ensure_eq_ok, decide_eq_true_eq, made.senderId,
    made.receiverId, made.dataType]
  refine ⟨(), welcome.senderId.symm, (), welcome.peerId, ?_⟩
  cases expected with
  | none => rfl
  | some x => exact decide_eq_true (type x rfl).symm

/-! ## Through JSON -/

theorem hybridSign_plain {message : Bytes} {keypair : HybridKeypair} {coins : Urandom 32}
    {sigs : Signatures} (signed : hybridSign P message keypair coins = .ok sigs) :
    sigs.classicalSig.encode.isSome = true ∧ sigs.pqcSig.encode.isSome = true := by
  unfold hybridSign at signed
  split at signed
  · cases signed
  · split at signed
    · cases signed
    · cases signed
      exact ⟨hex_encode _, hex_encode _⟩

/-- The envelope of a call is plain. -/
theorem SendCall.Made.plain {e : SendCall A} {f : SealedFields} {b : Bytes}
    (made : e.Made env f b) : e.package.envelope.plain = true ∧
      A.entityId.encode.isSome = true ∧ e.peer.card.entityId.encode.isSome = true := by
  rcases made.sealedFor.dict with ⟨sigs, signed, written⟩
  have signatures := hybridSign_plain signed
  have signable := made.sealedFor.signable
  rcases sealFields_eq_ok.mp made.sealedFor.fields with ⟨_, _, _, _, _, _, rfl⟩
  simp only [SealedFields.signable, bind_eq_ok, Str.utf8_eq_ok] at signable
  rcases signable with ⟨_, sender, _, recipient, _⟩
  have keys : Dict.wellKeyed env.toDict = true :=
    @Dict.wellKeyed_of_keys _ ["version", "sender_id", "recipient_id", "timestamp",
      "envelope_nonce", "ciphertext", "nonce", "ephemeral_pub", "kem_ciphertext", "classical_sig",
      "pqc_sig"] rfl (by decide)
  have senderId := congrArg Option.isSome sender
  have recipientId := congrArg Option.isSome recipient
  have version : (Str.encode "UXSP-1").isSome = true :=
    congrArg Option.isSome (Str.encode_ofString "UXSP-1")
  refine ⟨?_, senderId, recipientId⟩
  rw [made.envelope, Val.plain, keys, written, sealDict]
  simp only [Dict.plainItems, Val.plain, hex_encode, signatures.1, signatures.2, version,
    senderId, recipientId, Option.isSome_some, Bool.and_self]

theorem chunkEntries_plain (encrypted : List Symmetric.Encrypted) :
    Val.plainList (encrypted.map chunkEntry) = true := by
  induction encrypted with
  | nil => rfl
  | cons enc encrypted ih =>
      have keys : Dict.wellKeyed [("c", .str enc.ciphertext.hex), ("n", .str enc.nonce.hex)] =
          true :=
        @Dict.wellKeyed_of_keys _ ["c", "n"] rfl (by decide)
      rw [List.map_cons, Val.plainList, ih, Bool.and_true, chunkEntry, Val.plain, keys]
      simp only [Dict.plainItems, Val.plain, hex_encode, Bool.and_self]

/-- The package of a large payload is received through JSON; with another chunk list it is received
exactly if the entries hold the same bytes. -/
theorem chunked_package (exchange : P.ExchangeCorrect) (aead : P.AeadCorrect)
    (signature : P.SignatureCorrect) (json : P.JsonCorrect) {e : SendCall A}
    (large : ENVELOPE_LIMIT < e.payload.length) {sender : Peer} {t : Identity.OpenReadings}
    (welcome : Welcome e B guard S s sender t) (ascii : e.dataType.encode.isSome = true)
    {expected : Option Str} (type : ∀ x ∈ expected, x = e.dataType) :
    (∀ text, e.package.toJson P.toRuntime = .ok text →
      (receivePayload B guard S s ⟨sender, .text text, expected, t⟩).1 = .ok e.payload) ∧
    ∀ (input : PackageInput) (chunks metadata : Val), e.Unforged chunks →
      resolvePackageInput P.toRuntime input =
        .ok { e.package with chunks := chunks, metadata := metadata } →
      (decodedChunks chunks = decodedChunks e.package.chunks →
        (receivePayload B guard S s ⟨sender, input, expected, t⟩).1 = .ok e.payload) ∧
      (decodedChunks chunks ≠ decodedChunks e.package.chunks →
        ∃ err, (receivePayload B guard S s ⟨sender, input, expected, t⟩).1 = .error err) := by
  have chunked : e.chunked = true := decide_eq_true large
  rcases e.exists_made with ⟨env, f, b, made⟩
  rcases made.chunks chunked with ⟨packed, encrypted, chunks⟩
  have resolved : ∀ (input : PackageInput) (chunks metadata : Val),
      resolvePackageInput P.toRuntime input =
        .ok { e.package with chunks := chunks, metadata := metadata } →
      ReceiveCall.resolved P.toRuntime ⟨sender, input, expected, t⟩ B.entityId =
        .ok { e.package with chunks := chunks, metadata := metadata } :=
    fun _ _ _ found => welcome.resolved type found
  constructor
  · intro text written
    rcases made.plain with ⟨envelope, senderId, receiverId⟩
    have list : e.package.chunks.plain = true := by
      rw [chunks.chunks]
      exact chunkEntries_plain encrypted
    rcases SecurePackage.fromJson_toJson json written (made.senderId ▸ senderId)
      (by rw [made.receiverId, welcome.peerId, ← welcome.cardId]; exact receiverId)
      (made.dataType ▸ ascii) envelope list with ⟨metadata, read⟩
    have found := resolved (.text text) e.package.chunks metadata read
    exact (Welcome.receive exchange aead signature large welcome found rfl rfl).mpr
      (chunks.opens aead json rfl)
  · intro input list metadata unforged read
    have received := fun r => Welcome.receive (r := r) exchange aead signature large welcome
      (resolved input list metadata read) rfl rfl
    refine ⟨fun same => (received _).mpr (chunks.opens aead json same), fun other => ?_⟩
    cases result : (receivePayload B guard S s ⟨sender, input, expected, t⟩).1 with
    | error err => exact ⟨err, rfl⟩
    | ok r =>
        exact absurd (chunks.decoded_eq aead json unforged ((received r).mp result)).1 other

/-! A payload of 30721 zeros, which takes two chunks. -/

def sampleZeros : Bytes := List.replicate 30721 0

theorem rawChunks_sampleZeros :
    rawChunks sampleZeros CHUNK_SIZE = [List.replicate 16384 0, List.replicate 14337 0] := by
  have two : Slices.count CHUNK_SIZE sampleZeros.length = 2 := by
    rw [sampleZeros, List.length_replicate]
    rfl
  have slice : ∀ k, (sampleZeros.drop (k * CHUNK_SIZE)).take CHUNK_SIZE =
      List.replicate (min CHUNK_SIZE (30721 - k * CHUNK_SIZE)) 0 := by
    intro k
    rw [sampleZeros, List.drop_replicate, List.take_replicate]
  have nonempty : sampleZeros ≠ [] := List.replicate_succ_ne_nil
  rw [rawChunks, if_neg nonempty, Slices.slices, two]
  show [(sampleZeros.drop (0 * CHUNK_SIZE)).take CHUNK_SIZE,
    (sampleZeros.drop (1 * CHUNK_SIZE)).take CHUNK_SIZE] = _
  rw [slice, slice]
  rfl

theorem sha256_zeros (n : ℕ) :
    Platform.textual.sha256 (List.replicate n 0) = List.replicate 32 0 := by
  have unfolded : Platform.textual.sha256 (List.replicate n 0) =
      ((List.replicate n (0 : UInt8)).reverse ++ List.replicate 32 0).take 32 := rfl
  rw [unfolded, List.reverse_replicate, ← List.replicate_add, List.take_replicate,
    Nat.min_eq_left (Nat.le_add_left 32 n)]

/-- The header of a chunk of zeros. -/
def sampleHeader (index bodyLen : ℕ) : Dict :=
  [("transfer_id", .str sampleUuid.hex), ("chunk_index", .int index), ("total_chunks", .int 2),
    ("file_hash_sha256", .str (Bytes.hex (List.replicate 32 0))),
    ("chunk_hash_sha256", .str (Bytes.hex (List.replicate 32 0))), ("kind", .str "binary"),
    ("filename", .none), ("content_type", .str "application/octet-stream"), ("encoding", .none),
    ("body_len", .int bodyLen)]

theorem header_sampleZeros (index bodyLen : ℕ) :
    (transferChunk .textual sampleZeros 2 .default sampleUuid index
      (List.replicate bodyLen 0)).header = sampleHeader index bodyLen := by
  simp only [UXSPChunk.header, transferChunk, Chunking.sha256Hex, sampleZeros, sha256_zeros,
    List.length_replicate]
  rfl

theorem toBytes_sampleZeros {index bodyLen : ℕ} (less : index < 2)
    (short : (JsonText.val .compact (.dict (sampleHeader index bodyLen))).any
      (fun text => text.length ≤ Chunking.MAX_HEADER_LEN) = true) :
    ∃ raw, (do (← (transferChunk .textual sampleZeros 2 .default sampleUuid index
      (List.replicate bodyLen 0)).postInit).toBytes Platform.textual.toRuntime) = .ok raw := by
  have sound : (transferChunk .textual sampleZeros 2 .default sampleUuid index
      (List.replicate bodyLen 0)).Sound .textual :=
    transferChunk_sound TransferMeta.default_sound less _
  rcases (Option.any_eq_true _ _).mp short with ⟨text, written, short⟩
  have compact : Platform.textual.jsonCompact (.dict (sampleHeader index bodyLen)) = .ok text := by
    show JsonText.dumps .compact _ = _
    rw [JsonText.dumps, written]
  have bytes : succeeded ((transferChunk .textual sampleZeros 2 .default sampleUuid index
      (List.replicate bodyLen 0)).toBytes Platform.textual.toRuntime) = true := by
    rw [UXSPChunk.toBytes, header_sampleZeros, compact]
    simp only [bind, Except.bind, ensure, if_pos short]
    rfl
  rcases succeeded_eq_true.mp bytes with ⟨raw, bytes⟩
  exact ⟨raw, bind_eq_ok.mpr ⟨_, sound.postInit, bytes⟩⟩

theorem exists_packed_sampleZeros : ∃ raw raw',
    createChunkedTransfer .textual sampleZeros CHUNK_SIZE .default sampleUuid = .ok [raw, raw'] := by
  rcases @toBytes_sampleZeros 0 16384 (by decide) (by decide +kernel) with ⟨raw, first⟩
  rcases @toBytes_sampleZeros 1 14337 (by decide) (by decide +kernel) with ⟨raw', second⟩
  refine ⟨raw, raw', ?_⟩
  have chunks : transferChunks .textual sampleZeros CHUNK_SIZE .default sampleUuid =
      [transferChunk .textual sampleZeros 2 .default sampleUuid 0 (List.replicate 16384 0),
        transferChunk .textual sampleZeros 2 .default sampleUuid 1 (List.replicate 14337 0)] := by
    rw [transferChunks, rawChunks_sampleZeros]
    rfl
  simp only [createChunkedTransfer, bind_eq_ok, ensure_eq_ok, mapM_eq_ok]
  refine ⟨(), by decide, ?_⟩
  have size : Int.toNat CHUNK_SIZE = CHUNK_SIZE := Int.toNat_natCast _
  rw [size, chunks]
  exact .cons (bind_eq_ok.mp first) (.cons (bind_eq_ok.mp second) .nil)

theorem exists_sealChunk (chunk : Bytes) {seq : ℕ} {nonce : Str}
    (bound : succeeded (chunkAd Platform.textual.toRuntime nonce seq) = true) :
    ∃ enc, sealChunk .textual nonce sampleCoins chunk seq = .ok enc := by
  rcases succeeded_eq_true.mp bound with ⟨ad, bound⟩
  rw [sealChunk, bound]
  exact ⟨_, rfl⟩

theorem exists_sampleSend : ∃ package, sampleSend sampleZeros = .ok package := by
  have large : ¬ sampleZeros.length ≤ ENVELOPE_LIMIT := by
    rw [sampleZeros, List.length_replicate]
    decide
  have env : succeeded (sampleSender.sealFor sampleCoins.sessionKey samplePeer.card 1000 1000
      sampleCoins.envelope) = true := by
    decide +kernel
  rcases succeeded_eq_true.mp env with ⟨env, made⟩
  rcases exists_packed_sampleZeros with ⟨raw, raw', packed⟩
  have nonce := SendCall.sealFor_envelopeNonce made
  have bound : ∀ seq < 2,
      succeeded (chunkAd Platform.textual.toRuntime env.envelopeNonce seq) = true := by
    rw [nonce]
    decide +kernel
  rcases exists_sealChunk raw (bound 0 Nat.two_pos) with ⟨enc, first⟩
  rcases exists_sealChunk raw' (bound 1 Nat.one_lt_two) with ⟨enc', second⟩
  have sealedChunks : sealChunks .textual env.envelopeNonce sampleCoins [raw, raw'] =
      .ok [enc, enc'] :=
    mapM_eq_ok.mpr (.cons first (.cons second .nil))
  refine succeeded_eq_true.mp ?_
  rw [sampleSend, sendPayload, if_neg large]
  have created : createChunkedTransfer .textual sampleZeros CHUNK_SIZE .default
      sampleCoins.transferId = .ok [raw, raw'] := packed
  simp only [bind, Except.bind, made, created, sealedChunks]
  rfl

theorem welcome_sampleZeros {package : SecurePackage}
    (returned : sampleSend sampleZeros = .ok package) :
    Welcome (sampleSent returned) sampleRecipient .default MemoryNonceStore.seenStore .empty
      ⟨"A", sampleSender.card⟩ sampleReadings where
  peerId := rfl
  cardId := rfl
  keys := rfl
  senderId := rfl
  senderCard := rfl
  valid := rfl
  admits := by
    have stamp : ⌊(1000 : ℚ)⌋ = 1000 := by decide +kernel
    refine ⟨?_, ?_, rfl, rfl⟩
    · show (1000 : ℚ) - (⌊(1000 : ℚ)⌋ : ℤ) ≤ (ReplayGuard.default.window : ℤ)
      rw [stamp]
      decide +kernel
    · show ((⌊(1000 : ℚ)⌋ : ℤ) : ℚ) ≤ 1000 + (ReplayGuard.default.clockSkew : ℤ)
      rw [stamp]
      decide +kernel

theorem large_sampleZeros : ENVELOPE_LIMIT < sampleZeros.length := by
  rw [sampleZeros, List.length_replicate]
  decide

/-- The sample call and its two chunks. -/
theorem exists_sampleChunks : ∃ package, ∃ returned : sampleSend sampleZeros = .ok package,
    ∃ packed encrypted, (sampleSent returned).Chunks packed encrypted ∧ encrypted.length = 2 := by
  rcases exists_sampleSend with ⟨package, returned⟩
  rcases (sampleSent returned).exists_made with ⟨_, _, _, sent⟩
  rcases sent.chunks (decide_eq_true large_sampleZeros) with ⟨packed, encrypted, made⟩
  refine ⟨package, returned, packed, encrypted, made, ?_⟩
  rcases exists_packed_sampleZeros with ⟨raw, raw', created⟩
  rw [made.length_eq, Except.ok.inj (made.created.symm.trans created)]
  rfl

/-- The recipient is given the package of the sample with another chunk list. -/
def sampleReceiveChunks (package : SecurePackage) (chunks : List Val) : Except PyErr Bytes :=
  (receivePayload sampleRecipient .default MemoryNonceStore.seenStore .empty
    ⟨⟨"A", sampleSender.card⟩, .package { package with chunks := .list chunks }, some "file",
      sampleReadings⟩).1

/-- The sample is received through JSON, and refused without its last chunk. -/
theorem chunked_sampleZeros : ∃ package, ∃ encrypted : List Symmetric.Encrypted,
    sampleSend sampleZeros = .ok package ∧
    package.chunks = .list (encrypted.map chunkEntry) ∧
    (∀ text, package.toJson Platform.textual.toRuntime = .ok text →
      (receivePayload sampleRecipient .default MemoryNonceStore.seenStore .empty
        ⟨⟨"A", sampleSender.card⟩, .text text, some "file", sampleReadings⟩).1 =
          .ok sampleZeros) ∧
    ∃ err, sampleReceiveChunks package ((encrypted.take 1).map chunkEntry) = .error err := by
  rcases exists_sampleChunks with ⟨package, returned, packed, encrypted, made, two⟩
  have settled := chunked_package Platform.textual_exchange Platform.textual_aead
    Platform.textual_signature Platform.textual_json (e := sampleSent returned) large_sampleZeros
    (welcome_sampleZeros returned) rfl (fun x mem => (Option.some.inj mem).symm)
  have decoded := mapM_decodeEntry decodeEntry_chunkEntry (encrypted.take 1)
  have unforged := made.unforged (decide_eq_true large_sampleZeros) decoded
  refine ⟨package, encrypted, returned, made.chunks, settled.1,
    (settled.2 _ _ package.metadata unforged rfl).2 fun same => ?_⟩
  rw [made.decoded, decodedChunks] at same
  have lengths := congrArg List.length (Except.ok.inj (decoded.symm.trans same))
  rw [List.length_map, List.length_map, List.length_take, two] at lengths
  cases lengths

/-- A chunk, as an entry with one more member. -/
def widerEntry (e : Symmetric.Encrypted) : Val :=
  .dict [("c", .str e.ciphertext.hex), ("n", .str e.nonce.hex), ("x", .none)]

theorem decodeEntry_widerEntry (e : Symmetric.Encrypted) :
    decodeEntry (widerEntry e) = .ok (e.ciphertext, e.nonce) := by
  simp [decodeEntry, widerEntry, entryItem, Dict.item, fromHexVal]

/-- Another list of entries is received: they hold the same bytes in dicts with one more member. -/
theorem wider_entries_received :
    ¬ ∀ (A B : Identity .textual) (guard : ReplayGuard) (S : SeenStore) (s : S.State)
      (e : SendCall A) (sender : Peer) (t : Identity.OpenReadings) (chunks : List Val),
      ENVELOPE_LIMIT < e.payload.length → Welcome e B guard S s sender t →
      e.Unforged (.list chunks) → .list chunks ≠ e.package.chunks →
        ∃ err, (receivePayload B guard S s ⟨sender,
          .package { e.package with chunks := .list chunks }, some e.dataType, t⟩).1 =
            .error err := by
  intro refused
  rcases exists_sampleChunks with ⟨package, returned, packed, encrypted, made, two⟩
  have decoded := mapM_decodeEntry decodeEntry_widerEntry encrypted
  have unforged := made.unforged (n := encrypted.length) (decide_eq_true large_sampleZeros)
    (by rw [List.take_length]; exact decoded)
  have welcome := welcome_sampleZeros returned
  have other : Val.list (encrypted.map widerEntry) ≠ (sampleSent returned).package.chunks := by
    rw [made.chunks]
    intro same
    rcases encrypted with _ | ⟨enc, encrypted⟩
    · cases two
    · rcases List.cons.inj (Val.list.inj same) with ⟨first, _⟩
      cases congrArg List.length (Val.dict.inj first)
  rcases refused _ _ _ _ _ _ _ _ _ large_sampleZeros welcome unforged other with ⟨err, raised⟩
  have resolved := welcome.resolved (fun x mem => (Option.some.inj mem).symm :
    ∀ x ∈ some (sampleSent returned).dataType, x = (sampleSent returned).dataType)
    (rfl : resolvePackageInput Platform.textual.toRuntime (.package { package with
      chunks := .list (encrypted.map widerEntry) }) = .ok { package with
        chunks := .list (encrypted.map widerEntry), metadata := package.metadata })
  have opened : openChunks .textual (sampleSent returned).envelopeNonce sampleCoins.sessionKey
      (.list (encrypted.map widerEntry)) = .ok sampleZeros :=
    made.opens Platform.textual_aead Platform.textual_json (decoded.trans made.decoded.symm)
  have received := (Welcome.receive Platform.textual_exchange Platform.textual_aead
    Platform.textual_signature large_sampleZeros welcome resolved rfl rfl).mpr opened
  cases raised.symm.trans received

end Uxsp.Secure
