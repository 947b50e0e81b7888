import Uxsp.Crypto.Transparent
import Uxsp.Secure.EngineSteps

/-!
# Packages from a sender

`SendCall` is one call of the sender; the recipient is given any package at all.  What bounds the
attacker is `Ideal`: signatures and chunks that are accepted were made in a call of the sender.

`received_iff`: the payload that is returned is that of the call whose envelope the package carries
exactly if the package has kept the type and the kind of that call.  Nothing ties these two outer
fields to the envelope.
-/

namespace Uxsp.Secure

variable {P : Platform} {A B : Identity P} {guard : ReplayGuard} {S : SeenStore} {s : S.State}
  {call : ReceiveCall} {sent : List (SendCall A)} {package : SecurePackage} {env : Envelope}

namespace SendCall

/-- The call signed these bytes. -/
def Signed (e : SendCall A) (b : Bytes) : Prop :=
  ∃ f, sealFields P e.plaintext e.peer.card.publicKeys A.entityId e.peer.card.entityId e.now []
      e.coins.envelope = .ok f ∧ f.signable P.toRuntime = .ok b

/-- The call sealed the ciphertext as its chunk `k`. -/
def SealedChunk (e : SendCall A) (k : ℕ) (ad nonce ciphertext : Bytes) : Prop :=
  e.chunked = true ∧ chunkAd P.toRuntime e.envelopeNonce k = .ok ad ∧
    ∃ entries entry, e.package.chunks = .list entries ∧ entries[k]? = some entry ∧
      decodeEntry entry = .ok (ciphertext, nonce)

/-- The envelope of the package has the nonce that the call drew. -/
def Carried (e : SendCall A) (package : SecurePackage) : Prop :=
  ∃ data, package.envelope = .dict data ∧
    Dict.get? data "envelope_nonce" = some (.str e.envelopeNonce)

/-- The package has kept the type and the kind of the call. -/
def Kept (e : SendCall A) (package : SecurePackage) : Prop :=
  package.dataType = e.dataType ∧ package.isChunked = e.chunked

end SendCall

/-- Ideal signatures and AEAD, for what one call is given; `sent` are the calls of the sender. -/
structure Ideal (sent : List (SendCall A)) (B : Identity P) (call : ReceiveCall) : Prop where
  /-- What is sealed for the recipient is sealed for its keys. -/
  cards : ∀ e ∈ sent, e.peer.card.entityId = B.entityId →
    e.peer.card.publicKeys = extractPublicKeys B.keypair
  nonces : (sent.map SendCall.envelopeNonce).Nodup
  /-- A signature that verifies was made by the sender. -/
  signatures : ∀ package env ctx b, call.resolved P.toRuntime B.entityId = .ok package →
    packageEnvelope P.toRuntime package = .ok env → VerifiedContext.Reads P env.toDict ctx →
    ctx.signable P.toRuntime = .ok b →
    hybridVerify P b ctx.classicalSig ctx.pqcSig call.sender.card.publicKeys = .ok true →
      ∃ e ∈ sent, e.Signed b
  /-- A chunk that opens under a session key was sealed under it. -/
  chunks : ∀ package env entries seq entry ad ciphertext nonce raw,
    call.resolved P.toRuntime B.entityId = .ok package →
    packageEnvelope P.toRuntime package = .ok env →
    chunkEntries package.chunks = .ok entries → entries[seq]? = some entry →
    chunkAd P.toRuntime env.envelopeNonce seq = .ok ad →
    decodeEntry entry = .ok (ciphertext, nonce) →
    ∀ e ∈ sent, e.chunked = true →
      Symmetric.decrypt P ciphertext nonce e.coins.sessionKey ad = .ok raw →
        ∃ e' ∈ sent, ∃ k, e'.coins.sessionKey = e.coins.sessionKey ∧
          e'.SealedChunk k ad nonce ciphertext

/-! ## The call whose envelope a package carries -/

/-- A verified envelope was signed in a call for the recipient, and holds its signed fields. -/
theorem Ideal.origin (ideal : Ideal sent B call)
    (resolved : call.resolved P.toRuntime B.entityId = .ok package)
    (found : packageEnvelope P.toRuntime package = .ok env) {ctx : VerifiedContext}
    (verified : verifyEnvelope P env.toDict call.sender.card.publicKeys B.entityId
      call.sender.card.entityId guard.window guard.clockSkew call.readings.verify = .ok ctx) :
    ∃ e ∈ sent, ∃ env' f b, e.Made env' f b ∧ ctx.toSealedFields = f ∧
      e.peer.card.entityId = B.entityId := by
  have facts := verifyEnvelope_facts verified
  rcases facts.signed with ⟨b, signable, accepted⟩
  rcases ideal.signatures package env ctx b resolved found facts.reads signable accepted with
    ⟨e, mem, f, fields, signed⟩
  rcases e.exists_made with ⟨env', f', b', made⟩
  obtain rfl : f' = f := Except.ok.inj (made.sealedFor.fields.symm.trans fields)
  have same := SealedFields.signable_inj signable signed
  refine ⟨e, mem, env', f', b', made, same, ?_⟩
  rcases sealFields_eq_ok.mp fields with ⟨_, _, _, _, _, _, rfl⟩
  rw [← facts.addressed, same]

theorem Ideal.eq_of_nonce (ideal : Ideal sent B call) {e e' : SendCall A} (mem : e ∈ sent)
    (mem' : e' ∈ sent) (same : e.envelopeNonce = e'.envelopeNonce) : e = e' :=
  List.inj_on_of_nodup_map ideal.nonces mem mem' same

/-- What a call that returned has found: the envelope of a call of the sender, and in it what that
call sealed. -/
theorem Ideal.opened (ideal : Ideal sent B call) (exchange : P.ExchangeCorrect)
    (aead : P.AeadCorrect) (resolved : call.resolved P.toRuntime B.entityId = .ok package)
    {r : Bytes} (returned : (receivePayload B guard S s call).1 = .ok r) :
    ∃ e ∈ sent, ∃ env, packageEnvelope P.toRuntime package = .ok env ∧ e.Carried package ∧
      e.peer.card.entityId = B.entityId ∧ env.envelopeNonce = e.envelopeNonce ∧
      contents P package env e.plaintext = .ok r := by
  rcases receivePayload_facts returned with ⟨package', env, plaintext, resolved', found, opened,
    unpacked⟩
  obtain rfl : package' = package := Except.ok.inj (resolved'.symm.trans resolved)
  rcases openFrom_facts opened with ⟨ctx, verified, decrypted⟩
  rcases ideal.origin resolved found verified with ⟨e, mem, env', f, b, made, same, address⟩
  have reads := (verifyEnvelope_facts verified).reads
  have nonce : env.envelopeNonce = e.envelopeNonce := by
    have drawn : f.envelopeNonce = e.envelopeNonce := by
      rcases sealFields_eq_ok.mp made.sealedFor.fields with ⟨_, _, _, _, _, _, rfl⟩
      rfl
    have read := (Envelope.reads_toDict P.toRuntime env).envelopeNonce.symm.trans
      reads.envelopeNonce
    simp only [Option.some.injEq, Val.str.injEq] at read
    rw [read, same, drawn]
  have plain : plaintext = e.plaintext := by
    have sealedFor := made.sealedFor.opens exchange aead (ideal.cards e mem address) same
    exact Except.ok.inj (decrypted.symm.trans sealedFor)
  rcases packageEnvelope_facts found with ⟨data, outer, built⟩
  refine ⟨e, mem, env, found, ⟨data, outer, ?_⟩, address, nonce, plain ▸ unpacked⟩
  rw [← nonce]
  exact (Envelope.fromDict_eq_ok.mp built).1.envelopeNonce

/-! ## Chunks of a call -/

/-- What the call sealed as its chunk `k` is the chunk of that number. -/
theorem SendCall.SealedChunk.eq {e : SendCall A} {packed : List Bytes}
    {encrypted : List Symmetric.Encrypted} (made : e.Chunks packed encrypted) {k : ℕ}
    {ad nonce ciphertext : Bytes} (chunk : e.SealedChunk k ad nonce ciphertext) :
    ∃ less : k < encrypted.length, ciphertext = encrypted[k].ciphertext ∧
      nonce = encrypted[k].nonce := by
  rcases chunk with ⟨_, _, entries, entry, list, here, decoded⟩
  obtain rfl : entries = encrypted.map chunkEntry :=
    Val.list.inj (list.symm.trans made.chunks)
  rw [List.getElem?_map, Option.map_eq_some_iff] at here
  rcases here with ⟨enc, here, rfl⟩
  rcases List.getElem?_eq_some_iff.mp here with ⟨less, rfl⟩
  rw [decodeEntry_chunkEntry, Except.ok.injEq, Prod.mk.injEq] at decoded
  exact ⟨less, decoded.1.symm, decoded.2.symm⟩

/-- A chunk that the call sealed opens to the chunk of that number. -/
theorem SendCall.SealedChunk.opens (aead : P.AeadCorrect) {e : SendCall A} {packed : List Bytes}
    {encrypted : List Symmetric.Encrypted} (made : e.Chunks packed encrypted) {k : ℕ}
    {ad nonce ciphertext raw : Bytes} (chunk : e.SealedChunk k ad nonce ciphertext)
    (opened : Symmetric.decrypt P ciphertext nonce e.coins.sessionKey ad = .ok raw) :
    packed[k]? = some raw := by
  rcases chunk.eq made with ⟨less, rfl, rfl⟩
  rcases made.sealedAt less with ⟨ad', raw', here, bound, sealedChunk⟩
  obtain rfl : ad' = ad := Except.ok.inj (bound.symm.trans chunk.2.1)
  have same := opened.symm.trans (Symmetric.decrypt_encrypt aead sealedChunk)
  rw [here, Except.ok.inj same]

/-- The chunk entries of a package that opened under the session key of the call whose envelope it
carries are chunks of that call, in their places. -/
theorem Ideal.chunks_origin (ideal : Ideal sent B call) (aead : P.AeadCorrect) {e : SendCall A}
    (mem : e ∈ sent) (chunked : e.chunked = true) {packed : List Bytes}
    {encrypted : List Symmetric.Encrypted} (made : e.Chunks packed encrypted)
    (resolved : call.resolved P.toRuntime B.entityId = .ok package)
    (found : packageEnvelope P.toRuntime package = .ok env)
    (nonce : env.envelopeNonce = e.envelopeNonce) {entries : List Val} {raws : List Bytes}
    (listed : chunkEntries package.chunks = .ok entries)
    (opened : List.Forall₂ (fun item raw =>
      openEntry P env.envelopeNonce e.coins.sessionKey item.1 item.2 = .ok raw) entries.zipIdx raws)
    {k : ℕ} (less : k < raws.length) : packed[k]? = some raws[k] := by
  rw [List.forall₂_iff_get] at opened
  have less' : k < entries.length := by
    have lengths := opened.1
    rw [List.length_zipIdx] at lengths
    exact lengths ▸ less
  have here := opened.2 k (by rwa [List.length_zipIdx]) less
  simp only [List.get_eq_getElem, List.getElem_zipIdx, Nat.zero_add] at here
  rcases openEntry_eq_ok.mp here with ⟨ad, ciphertext, n, bound, decoded, decrypted⟩
  rcases ideal.chunks package env entries k _ ad ciphertext n _ resolved found listed
    (List.getElem?_eq_getElem less') bound decoded e mem chunked decrypted with
    ⟨e', mem', j, _, chunk⟩
  have sizes : e'.envelopeNonce.length = env.envelopeNonce.length := by
    rw [nonce, SendCall.envelopeNonce, SendCall.envelopeNonce, Bytes.length_hex, Bytes.length_hex,
      e'.coins.envelope.envelopeNonce.2, e.coins.envelope.envelopeNonce.2]
  rcases chunkAd_inj sizes chunk.2.1 bound with ⟨nonces, rfl⟩
  obtain rfl := ideal.eq_of_nonce mem' mem (nonces.trans nonce)
  exact chunk.opens aead made decrypted

/-- In a package that has kept the kind of the call there is only the payload of the call. -/
theorem Ideal.contents_eq (ideal : Ideal sent B call) (aead : P.AeadCorrect) (json : P.JsonCorrect)
    {e : SendCall A} (mem : e ∈ sent)
    (resolved : call.resolved P.toRuntime B.entityId = .ok package)
    (found : packageEnvelope P.toRuntime package = .ok env)
    (nonce : env.envelopeNonce = e.envelopeNonce) (kind : package.isChunked = e.chunked) {r : Bytes}
    (unpacked : contents P package env e.plaintext = .ok r) : r = e.payload := by
  cases chunked : e.chunked with
  | false =>
      rw [contents, kind, chunked, if_neg Bool.false_ne_true, SendCall.plaintext, chunked,
        if_neg Bool.false_ne_true] at unpacked
      exact (Except.ok.inj unpacked).symm
  | true =>
      rw [contents, kind, chunked, if_pos rfl, SendCall.plaintext, chunked, if_pos rfl] at unpacked
      rcases openChunks_facts unpacked with ⟨entries, raws, m, listed, opened, reassembled⟩
      rcases e.exists_made with ⟨_, _, _, sendMade⟩
      rcases sendMade.chunks chunked with ⟨packed, encrypted, made⟩
      have inside : raws ⊆ packed := by
        intro raw here
        rcases List.mem_iff_getElem.mp here with ⟨k, less, rfl⟩
        exact List.mem_of_getElem? (ideal.chunks_origin aead mem chunked made resolved found nonce
          listed opened less)
      exact (reassembleChunkedTransfer_subset json TransferMeta.default_sound made.created inside
        reassembled).1

/-- A payload that is returned comes from the one call whose envelope the package carries.  It is
the payload of that call, under the type and the kind of that call, exactly if the package has kept
them. -/
theorem received_iff (exchange : P.ExchangeCorrect) (aead : P.AeadCorrect) (json : P.JsonCorrect)
    (ideal : Ideal sent B call) (resolved : call.resolved P.toRuntime B.entityId = .ok package)
    {r : Bytes} (returned : (receivePayload B guard S s call).1 = .ok r) :
    ∃ e ∈ sent, e.Carried package ∧ (∀ e' ∈ sent, e'.Carried package → e' = e) ∧
      e.peer.card.entityId = B.entityId ∧
      ((r = e.payload ∧ package.dataType = e.dataType ∧ package.isChunked = e.chunked) ↔
        e.Kept package) := by
  rcases ideal.opened exchange aead resolved returned with
    ⟨e, mem, env, found, carried, address, nonce, unpacked⟩
  refine ⟨e, mem, carried, ?_, address, fun genuine => genuine.2, fun kept => ⟨?_, kept⟩⟩
  · rintro e' mem' ⟨data, outer, there⟩
    rcases carried with ⟨data', outer', here⟩
    obtain rfl : data = data' := Val.dict.inj (outer.symm.trans outer')
    rw [there, Option.some.injEq, Val.str.injEq] at here
    exact ideal.eq_of_nonce mem' mem here
  · exact ideal.contents_eq aead json mem resolved found nonce kept.2 unpacked

/-! ## A relabelled package -/

/-- An envelope that the call made carries the signature of the call. -/
theorem SendCall.signed_of_reads (e : SendCall A) (same : package.envelope = e.package.envelope)
    (found : packageEnvelope P.toRuntime package = .ok env) {ctx : VerifiedContext} {b : Bytes}
    (reads : ctx.Reads P env.toDict) (signable : ctx.signable P.toRuntime = .ok b) : e.Signed b := by
  rcases e.exists_made with ⟨env', f, b', made⟩
  rcases packageEnvelope_facts found with ⟨data, outer, built⟩
  have dict : data = env'.toDict :=
    Val.dict.inj (outer.symm.trans (same.trans made.envelope))
  rw [dict, made.sealedFor.small] at built
  cases built
  rcases made.sealedFor.dict with ⟨sigs, _, written⟩
  rw [written] at reads
  rw [reads.unique (reads_context P f sigs)] at signable
  exact ⟨f, made.sealedFor.fields, signable⟩

/-- The envelope of a single call, in whatever package it travels. -/
theorem Ideal.of_single {e : SendCall A} (single : e.chunked = false)
    (card : e.peer.card.publicKeys = extractPublicKeys B.keypair)
    (same : ∀ package, call.resolved P.toRuntime B.entityId = .ok package →
      package.envelope = e.package.envelope) : Ideal [e] B call where
  cards := by
    intro e' mem _
    rw [List.mem_singleton.mp mem]
    exact card
  nonces := List.nodup_singleton _
  signatures := by
    intro package env ctx b resolved found reads signable _
    exact ⟨e, List.mem_cons_self, e.signed_of_reads (same package resolved) found reads signable⟩
  chunks := by
    intro _ _ _ _ _ _ _ _ _ _ _ _ _ _ _ e' mem chunked
    rw [List.mem_singleton.mp mem, single] at chunked
    cases chunked

/-! Two identities whose keys repeat one byte, and calls at the instant 1000. -/

def sampleIdentity (name : String) (n : UInt8) : Identity .textual :=
  Identity.generate .textual name (.filled 32 n) (.filled 64 n)
    (.filled 32 n) (.filled 32 n)

def sampleSender : Identity .textual := sampleIdentity "A" 1

def sampleRecipient : Identity .textual := sampleIdentity "B" 2

def sampleUuid : Uuid4 := .least

def sampleCoins : SendCoins where
  envelope := {
    exchange := ⟨.filled 32 3, .filled 32 4⟩
    nonce := .filled 12 5
    envelopeNonce := .filled 16 6
    signing := .filled 32 7 }
  sessionKey := .filled 32 8
  transferId := sampleUuid
  chunkNonce := fun _ => .filled 12 9

def samplePeer : Peer := ⟨"B", sampleRecipient.card⟩

def sampleSend (payload : Bytes) : Except PyErr SecurePackage :=
  sendPayload sampleSender samplePeer payload "file" [] 1000 1000 sampleCoins

/-- A call of `sampleSend` that returned. -/
def sampleSent {payload : Bytes} {package : SecurePackage}
    (returned : sampleSend payload = .ok package) : SendCall sampleSender where
  peer := samplePeer
  payload := payload
  dataType := "file"
  metadata := []
  checked := 1000
  now := 1000
  coins := sampleCoins
  package := package
  returned := returned

def sampleReadings : Identity.OpenReadings where
  checked := 1000
  fresh := 1000
  seen := 1000
  verify := 1000
  again := 1000
  mark := 1000
  checked_le := le_rfl
  fresh_le := le_rfl
  seen_le := le_rfl
  verify_le := le_rfl
  again_le := le_rfl

/-- The recipient is given the package, with another type. -/
def sampleCall (type : Str) (package : SecurePackage) : ReceiveCall where
  sender := ⟨"A", sampleSender.card⟩
  input := .package { package with dataType := type }
  expectedType := some type
  readings := sampleReadings

def sampleReceive (call : ReceiveCall) : Except PyErr Bytes :=
  (receivePayload sampleRecipient .default MemoryNonceStore.seenStore .empty call).1

/-- The package of a small payload is accepted under this type. -/
def SampleAccepts (type : Str) : Prop :=
  ∃ package, ∃ returned : sampleSend [1, 2] = .ok package,
    Ideal [sampleSent returned] sampleRecipient (sampleCall type package) ∧
    (sampleCall type package).resolved Platform.textual.toRuntime sampleRecipient.entityId =
      .ok { package with dataType := type } ∧
    sampleReceive (sampleCall type package) = .ok [1, 2]

theorem sampleAccepts {type : Str}
    (computed : ((sampleSend [1, 2]).toOption.bind fun package =>
      (sampleReceive (sampleCall type package)).toOption) = some [1, 2]) : SampleAccepts type := by
  rcases Option.bind_eq_some_iff.mp computed with ⟨package, sent, received⟩
  have returned := Except.of_toOption sent
  have accepted := Except.of_toOption received
  rcases receivePayload_facts accepted with ⟨package', _, _, resolved, _⟩
  have input := (resolved_eq_ok.mp resolved).1
  cases input
  refine ⟨package, returned, ?_, resolved, accepted⟩
  refine Ideal.of_single rfl rfl fun package' resolved' => ?_
  rw [resolved] at resolved'
  cases resolved'
  rfl

theorem sampleAccepts_file : SampleAccepts "file" := sampleAccepts (by decide +kernel)

theorem sampleAccepts_text : SampleAccepts "text" := sampleAccepts (by decide +kernel)

/-- A package that has kept its type. -/
theorem sampleReceived_iff : ∃ package, ∃ returned : sampleSend [1, 2] = .ok package,
    ∃ e ∈ [sampleSent returned], e.Carried { package with dataType := "file" } ∧
      (∀ e' ∈ [sampleSent returned], e'.Carried { package with dataType := "file" } → e' = e) ∧
      e.peer.card.entityId = "B" ∧
      (([1, 2] = e.payload ∧ "file" = e.dataType ∧ package.isChunked = e.chunked) ↔
        e.Kept { package with dataType := "file" }) := by
  rcases sampleAccepts_file with ⟨package, returned, ideal, resolved, accepted⟩
  exact ⟨package, returned, received_iff Platform.textual_exchange Platform.textual_aead
    Platform.textual_json ideal resolved accepted⟩

/-- A file that is accepted as a text. -/
theorem relabelled_accepted :
    ¬ ∀ (A B : Identity .textual) (guard : ReplayGuard) (S : SeenStore) (s : S.State)
      (sent : List (SendCall A)) (call : ReceiveCall) (package : SecurePackage) (r : Bytes),
      Ideal sent B call →
      call.resolved Platform.textual.toRuntime B.entityId = .ok package →
      (receivePayload B guard S s call).1 = .ok r →
        ∃ e ∈ sent, e.peer.card.entityId = B.entityId ∧ r = e.payload ∧
          package.dataType = e.dataType ∧ package.isChunked = e.chunked := by
  intro always
  rcases sampleAccepts_text with ⟨package, returned, ideal, resolved, accepted⟩
  rcases always sampleSender sampleRecipient .default MemoryNonceStore.seenStore .empty _ _ _ _ ideal
    resolved accepted with ⟨e, mem, _, _, type, _⟩
  rw [List.mem_singleton.mp mem] at type
  exact absurd (Str.ofString_inj.mp type) (by decide)

end Uxsp.Secure
