import Uxsp.Python.JsonCanonical
import Uxsp.Secure.EnvelopeSize
import Uxsp.Secure.TypedMessages

/-!
# The text of a package that was sent

`SendCall.exists_toJson`: the package of every call of `sendPayload` is written as JSON.
`receive_text`: the right recipient of the text unpacks the payload.
-/

namespace Uxsp.Secure

open JsonText

variable {P : Platform} {A B : Identity P} {guard : ReplayGuard} {S : SeenStore} {s : S.State}

theorem writes_chunkEntry {sep : Separators} (c : Symmetric.Encrypted) :
    Writes sep (chunkEntry c) := by
  refine writes_dict fun item mem => ?_
  rcases List.mem_cons.mp mem with rfl | mem
  · exact writes_str _
  · rw [List.mem_singleton.mp mem]
    exact writes_str _

theorem SendCall.metadata_eq (e : SendCall A) : e.package.metadata = .dict e.metadata := by
  have returned := e.returned
  unfold sendPayload at returned
  split at returned
  · simp only [bind_eq_ok, pure_eq_ok] at returned
    obtain ⟨_, _, built⟩ := returned
    rw [← built]
  · simp only [bind_eq_ok, pure_eq_ok] at returned
    obtain ⟨_, _, _, _, _, _, built⟩ := returned
    rw [← built]

/-- A package that was sent is written as JSON. -/
theorem SendCall.exists_toJson (exact : P.JsonExact) (e : SendCall A)
    (stamp : Str.printable ⌊e.now⌋) (metadata : Writes .default (.dict e.metadata)) :
    ∃ text, e.package.toJson P.toRuntime = .ok text := by
  obtain ⟨env, f, b, made⟩ := e.exists_made
  have printable : Str.printable env.timestamp := made.envelope_facts.2 ▸ stamp
  have envelope : Writes .default (.dict env.toDict) := by
    obtain ⟨text, written, -⟩ := Envelope.exists_text printable .default
    exact ⟨text, written⟩
  have chunks : Writes .default e.package.chunks := by
    cases chunked : e.chunked with
    | true =>
        obtain ⟨packed, encrypted, chunks⟩ := made.chunks chunked
        rw [chunks.chunks]
        refine writes_list fun x mem => ?_
        obtain ⟨c, _, rfl⟩ := List.mem_map.mp mem
        exact writes_chunkEntry c
    | false =>
        rw [e.chunks_of_single chunked]
        exact writes_list nofun
  have whole : Writes .default (.dict e.package.toDict) := by
    refine writes_dict fun item mem => ?_
    simp only [SecurePackage.toDict, made.envelope, e.metadata_eq, List.mem_cons,
      List.not_mem_nil, or_false] at mem
    rcases mem with rfl | rfl | rfl | rfl | rfl | rfl | rfl | rfl
    · exact writes_str _
    · exact writes_str _
    · exact writes_str _
    · exact writes_str _
    · exact writes_bool _
    · exact envelope
    · exact chunks
    · exact metadata
  obtain ⟨text, written⟩ := whole
  exact ⟨text, exact.dumps written⟩

/-! ## The text is received -/

section Received

variable {g : Sending P} {site : Site P} {a : Arrival P} {package : SecurePackage} {t : FileTree}

/-- What was packed is what the right receiver unpacks of a package that was read back. -/
theorem received_of_reread (exchange : P.ExchangeCorrect) (aead : P.AeadCorrect)
    (signature : P.SignatureCorrect) (json : P.JsonCorrect) (reaches : g.Reaches site S s a)
    {payload : Bytes} {dataType : String} (sent : sendPayload g.sender g.peer payload dataType
      g.metadata g.checked g.now g.coins = .ok package) (unpack : Bytes → Except PyErr Receipt) :
    (receiveWith site S s { a with package := .package package.reread } (some dataType) unpack).1 =
      unpack payload := by
  obtain ⟨peer, resolved, peerId, peerCard, valid⟩ := reaches.sender
  let e : SendCall g.sender :=
    ⟨g.peer, payload, dataType, g.metadata, g.checked, g.now, g.coins, package, sent⟩
  let call : ReceiveCall := ⟨peer, .package package.reread, some dataType, a.readings⟩
  obtain ⟨env, f, b, facts⟩ := e.exists_made
  have welcome : Welcome e site.identity site.guard S s call.sender call.readings :=
    ⟨reaches.peerId, reaches.cardId, reaches.keys, peerId, peerCard, valid, reaches.admits⟩
  have back : Back (retyped e.package.dataType e.package) package.reread := .inr rfl
  obtain ⟨_, senderPlain, receiverPlain⟩ := facts.plain
  obtain ⟨_, encoded⟩ := Option.isSome_iff_exists.mp senderPlain
  obtain ⟨_, encoded'⟩ := Option.isSome_iff_exists.mp receiverPlain
  have senderId : package.senderId = g.sender.entityId := facts.senderId
  have receiverId : package.receiverId = g.peer.id := facts.receiverId
  have type : package.dataType = dataType := facts.dataType
  have outer : call.resolved P.toRuntime site.identity.entityId = .ok package.reread := by
    refine resolved_eq_ok.mpr ⟨rfl, ?_⟩
    simp only [checkPackage, bind_eq_ok, ensure_eq_ok, decide_eq_true_eq]
    refine ⟨(), ?_, (), ?_, decide_eq_true ?_⟩
    · show package.senderId.reread = peer.id
      rw [senderId, Str.reread_of_encode encoded, peerId]
    · show package.receiverId.reread = _
      rw [receiverId, reaches.peerId, ← reaches.cardId, Str.reread_of_encode encoded']
    · show package.dataType.reread = _
      rw [type, Str.reread_ofString]
  have delivered := SendCall.delivered exchange aead signature json welcome outer back.genuine
  have found : secureReceivePayload site S s { a with package := .package package.reread }
      (some dataType) = (.ok payload, site.guard.passed S s e.envelopeNonce call.readings) := by
    rw [secureReceivePayload, resolved]
    exact delivered
  rw [receiveWith, found]

/-- `Receive` of the text of a package reads it back and takes the receiver of its data type. -/
theorem receive_text (json : P.JsonRereads) {content : Bytes}
    (written : package.toJson P.toRuntime = .ok content) :
    receive site S s t { a with package := .text content } =
      (receiverOf site.codecs package.dataType.reread).run site S s t
        { a with package := .package package.reread } := by
  have read : resolvePackageInput P.toRuntime (.text content) = .ok package.reread :=
    SecurePackage.fromJson_reread json written
  rw [receive, read]
  rfl

end Received

end Uxsp.Secure
