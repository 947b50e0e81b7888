import Uxsp.Secure.Engine

/-!
# What the calls of `uxsp.secure._engine` have done

`SendCall` is a call of `sendPayload` that returned, with `SendCall.exists_made` for what its package
is made of; `receivePayload_facts` and `openChunks_facts` say what a receiving call that returned
has found in the package it was given.
-/

namespace Uxsp.Secure

variable {P : Platform}

/-! ## Sending -/

/-- A call of `sendPayload` that returned. -/
structure SendCall (A : Identity P) where
  peer : Peer
  payload : Bytes
  dataType : Str
  metadata : Dict
  checked : ℚ
  now : ℚ
  coins : SendCoins
  package : SecurePackage
  returned : sendPayload A peer payload dataType metadata checked now coins = .ok package

namespace SendCall

variable {A : Identity P} (e : SendCall A)

/-- The payload is too long for an envelope. -/
def chunked : Bool := decide (ENVELOPE_LIMIT < e.payload.length)

/-- What the envelope of the package holds: the payload or the session key. -/
def plaintext : Bytes := if e.chunked then e.coins.sessionKey else e.payload

/-- The envelope nonce that is drawn. -/
def envelopeNonce : Str := e.coins.envelope.envelopeNonce.1.hex

/-- The chunks of the package and how they were sealed. -/
structure Chunks (packed : List Bytes) (encrypted : List Symmetric.Encrypted) : Prop where
  created : createChunkedTransfer P e.payload CHUNK_SIZE .default e.coins.transferId = .ok packed
  sealedChunks : sealChunks P e.envelopeNonce e.coins packed = .ok encrypted
  chunks : e.package.chunks = .list (encrypted.map chunkEntry)

/-- What the package is made of. -/
structure Made (env : Envelope) (f : SealedFields) (b : Bytes) : Prop where
  sealedFor : SealedFor A e.plaintext e.peer.card e.now e.coins.envelope env f b
  senderId : e.package.senderId = A.entityId
  receiverId : e.package.receiverId = e.peer.id
  dataType : e.package.dataType = e.dataType
  isChunked : e.package.isChunked = e.chunked
  envelope : e.package.envelope = .dict env.toDict
  chunks : e.chunked = true → ∃ packed encrypted, e.Chunks packed encrypted

theorem sealFor_envelopeNonce {plaintext : Bytes} {card : Card} {checked now : ℚ} {coins : SealCoins}
    {env : Envelope} (made : A.sealFor plaintext card checked now coins = .ok env) :
    env.envelopeNonce = coins.envelopeNonce.1.hex := by
  rcases sealFor_facts made with ⟨f, b, made⟩
  rcases sealFields_eq_ok.mp made.fields with ⟨_, _, _, _, _, _, rfl⟩
  exact made.envelope_eq.2.2.2

theorem exists_made : ∃ env f b, e.Made env f b := by
  have returned := e.returned
  unfold sendPayload at returned
  split at returned
  · rename_i small
    have single : e.chunked = false := decide_eq_false (not_lt.mpr small)
    simp only [bind_eq_ok, pure_eq_ok] at returned
    rcases returned with ⟨env, made, built⟩
    rcases sealFor_facts made with ⟨f, b, sealedFor⟩
    have plain : e.plaintext = e.payload := by
      rw [plaintext, single, if_neg Bool.false_ne_true]
    have outer : e.package.isChunked = e.chunked := by rw [← built, single]
    refine ⟨env, f, b, plain ▸ sealedFor, by rw [← built], by rw [← built], by rw [← built], outer,
      by rw [← built], fun chunked => ?_⟩
    rw [single] at chunked
    cases chunked
  · rename_i large
    have chunked : e.chunked = true := decide_eq_true (not_le.mp large)
    simp only [bind_eq_ok, pure_eq_ok] at returned
    rcases returned with ⟨env, made, packed, created, encrypted, sealedChunks, built⟩
    rcases sealFor_facts made with ⟨f, b, sealedFor⟩
    have plain : e.plaintext = e.coins.sessionKey := if_pos chunked
    have outer : e.package.isChunked = e.chunked := by rw [← built, chunked]
    refine ⟨env, f, b, plain ▸ sealedFor, by rw [← built], by rw [← built], by rw [← built], outer,
      by rw [← built], fun _ => ⟨packed, encrypted, created, ?_, by rw [← built]⟩⟩
    rw [sealFor_envelopeNonce made] at sealedChunks
    exact sealedChunks

end SendCall

/-! ## The associated data of a chunk -/

/-- The associated data tells the envelopes and the positions apart. -/
theorem chunkAd_inj {R : Runtime} {m n : Str} {j k : ℕ} {ad : Bytes} (size : m.length = n.length)
    (left : chunkAd R m j = .ok ad) (right : chunkAd R n k = .ok ad) : m = n ∧ j = k := by
  simp only [chunkAd, bind_eq_ok, R.str_int_eq_ok, Str.utf8_eq_ok] at left right
  rcases left with ⟨_, ⟨_, rfl⟩, left⟩
  rcases right with ⟨_, ⟨_, rfl⟩, right⟩
  have same := Str.encode_inj left right
  rw [List.append_assoc, List.append_assoc] at same
  rcases List.append_inj same size with ⟨nonces, numbers⟩
  have positions := Str.ofInt_inj.mp (List.append_cancel_left numbers)
  exact ⟨nonces, Int.natCast_inj.mp positions⟩

/-- The chunk at a place, sealed under the associated data of the place. -/
theorem SendCall.Chunks.sealedAt {A : Identity P} {e : SendCall A} {packed : List Bytes}
    {encrypted : List Symmetric.Encrypted} (made : e.Chunks packed encrypted) {k : ℕ}
    (less : k < encrypted.length) : ∃ ad raw, packed[k]? = some raw ∧
      chunkAd P.toRuntime e.envelopeNonce k = .ok ad ∧
      Symmetric.encrypt P raw e.coins.sessionKey ad (e.coins.chunkNonce k) = .ok encrypted[k] := by
  have sealedChunks := made.sealedChunks
  rw [sealChunks, mapM_eq_ok, List.forall₂_iff_get] at sealedChunks
  have less' : k < packed.length := by
    have lengths := sealedChunks.1
    rw [List.length_zipIdx] at lengths
    exact lengths ▸ less
  have sealedChunk := sealedChunks.2 k (by rwa [List.length_zipIdx]) less
  simp only [List.get_eq_getElem, List.getElem_zipIdx, Nat.zero_add, sealChunk,
    bind_eq_ok] at sealedChunk
  rcases sealedChunk with ⟨ad, bound, encrypted⟩
  exact ⟨ad, packed[k], List.getElem?_eq_getElem less', bound, encrypted⟩

theorem SendCall.Chunks.length_eq {A : Identity P} {e : SendCall A} {packed : List Bytes}
    {encrypted : List Symmetric.Encrypted} (made : e.Chunks packed encrypted) :
    encrypted.length = packed.length := by
  have sealedChunks := made.sealedChunks
  rw [sealChunks, mapM_eq_ok] at sealedChunks
  rw [← sealedChunks.length_eq, List.length_zipIdx]

/-! ## Receiving -/

theorem resolved_eq_ok {R : Runtime} {call : ReceiveCall} {receiverId : Str}
    {package : SecurePackage} : call.resolved R receiverId = .ok package ↔
      resolvePackageInput R call.input = .ok package ∧
        checkPackage package call.sender.id receiverId call.expectedType = .ok () := by
  simp only [ReceiveCall.resolved, bind_eq_ok, pure_eq_ok]
  constructor
  · rintro ⟨package, found, _, checked, rfl⟩
    exact ⟨found, checked⟩
  · rintro ⟨found, checked⟩
    exact ⟨package, found, (), checked, rfl⟩

/-- A call that returned has resolved a package, opened its envelope and found the payload in it. -/
theorem receivePayload_facts {B : Identity P} {guard : ReplayGuard} {S : SeenStore} {s : S.State}
    {call : ReceiveCall} {r : Bytes} (returned : (receivePayload B guard S s call).1 = .ok r) :
    ∃ package env plaintext, call.resolved P.toRuntime B.entityId = .ok package ∧
      packageEnvelope P.toRuntime package = .ok env ∧
      (B.openFrom S s env.toDict call.sender.card (some guard) call.readings).1 = .ok plaintext ∧
      contents P package env plaintext = .ok r := by
  unfold receivePayload at returned
  cases resolved : call.resolved P.toRuntime B.entityId with
  | error e => rw [resolved] at returned; cases returned
  | ok package =>
      rw [resolved] at returned
      simp only [openPackage] at returned
      cases found : packageEnvelope P.toRuntime package with
      | error e => rw [found] at returned; cases returned
      | ok env =>
          rw [found] at returned
          simp only at returned
          generalize opened : B.openFrom S s env.toDict call.sender.card (some guard)
            call.readings = result at returned
          rcases result with ⟨_ | plaintext, s'⟩
          · cases returned
          · simp only at returned
            cases unpacked : contents P package env plaintext with
            | error e => rw [unpacked] at returned; cases returned
            | ok payload =>
                rw [unpacked] at returned
                cases returned
                refine ⟨package, env, plaintext, rfl, found, ?_, unpacked⟩
                rw [opened]

/-- The envelope of a package is made from a dict. -/
theorem packageEnvelope_facts {R : Runtime} {package : SecurePackage} {env : Envelope}
    (found : packageEnvelope R package = .ok env) :
    ∃ data, package.envelope = .dict data ∧ Envelope.fromDict R (.dict data) = .ok env := by
  simp only [packageEnvelope, bind_eq_ok, ensure_eq_ok] at found
  rcases found with ⟨_, _, _, _, built⟩
  rcases Envelope.fromDict_dict built with ⟨data, same⟩
  exact ⟨data, same, same ▸ built⟩

/-- Chunks that were put together were opened one by one. -/
theorem openChunks_facts {envelopeNonce : Str} {sessionKey : Bytes} {chunks : Val} {r : Bytes}
    (returned : openChunks P envelopeNonce sessionKey chunks = .ok r) :
    ∃ entries raws m, chunkEntries chunks = .ok entries ∧
      List.Forall₂ (fun item raw => openEntry P envelopeNonce sessionKey item.1 item.2 = .ok raw)
        entries.zipIdx raws ∧
      reassembleChunkedTransfer P raws = .ok (m, r) := by
  simp only [openChunks, bind_eq_ok, pure_eq_ok, mapM_eq_ok] at returned
  rcases returned with ⟨entries, found, raws, opened, ⟨m, _⟩, reassembled, rfl⟩
  exact ⟨entries, raws, m, found, opened, reassembled⟩

theorem openEntry_eq_ok {envelopeNonce : Str} {sessionKey : Bytes} {entry : Val} {seq : ℕ}
    {raw : Bytes} : openEntry P envelopeNonce sessionKey entry seq = .ok raw ↔
      ∃ ad ciphertext nonce, chunkAd P.toRuntime envelopeNonce seq = .ok ad ∧
        decodeEntry entry = .ok (ciphertext, nonce) ∧
        Symmetric.decrypt P ciphertext nonce sessionKey ad = .ok raw := by
  simp only [openEntry, bind_eq_ok]
  constructor
  · rintro ⟨ad, bound, ⟨ciphertext, nonce⟩, decoded, opened⟩
    exact ⟨ad, ciphertext, nonce, bound, decoded, opened⟩
  · rintro ⟨ad, ciphertext, nonce, bound, decoded, opened⟩
    exact ⟨ad, bound, (ciphertext, nonce), decoded, opened⟩

@[simp] theorem decodeEntry_chunkEntry (e : Symmetric.Encrypted) :
    decodeEntry (chunkEntry e) = .ok (e.ciphertext, e.nonce) := by
  simp [decodeEntry, chunkEntry, entryItem, Dict.item, fromHexVal]

end Uxsp.Secure
