import Uxsp.Secure.StreamSteps

/-!
# Streams from end to end

`stream_round_trip_iff`: the packages of a stream, or the lines of JSON that hold them, are received
in order as the bytes of the source exactly if the stream has the type `binary` or the source has no
bytes.  `receiveBinaryPiece` takes packages of that type only, and `sendStream` gives the type it is
asked for to every package but the one of an empty source.
-/

namespace Uxsp.Secure

variable {P : Platform} {A B : Identity P} {guard : ReplayGuard} {S : SeenStore} {s : S.State}
  {sender : Peer} {t : ℕ → Identity.OpenReadings} {run : StreamRun A}

/-- The stream was made for the recipient, and the recipient takes the sender for its maker. -/
structure StreamRun.AddressedTo (run : StreamRun A) (B : Identity P) (sender : Peer) : Prop where
  peerId : run.peer.id = B.entityId
  cardId : run.peer.card.entityId = B.entityId
  keys : run.peer.card.publicKeys = extractPublicKeys B.keypair
  senderId : sender.id = A.entityId
  senderCard : sender.card.toPublicCard = A.publicCard

/-- The nonce of the envelope of a package. -/
def StreamRun.nonce (run : StreamRun A) (index : ℕ) : Str :=
  (run.coins index).envelope.envelopeNonce.1.hex

/-- So many packages from a place on are fresh: when a package is received, the sender's card is
valid and the guard, which has let the packages before it pass, lets its envelope pass. -/
def StreamRun.FreshFrom (run : StreamRun A) (sender : Peer) (guard : ReplayGuard) (S : SeenStore)
    (t : ℕ → Identity.OpenReadings) : ℕ → ℕ → S.State → Prop
  | 0, _, _ => True
  | n + 1, index, s =>
      sender.card.verifyValidity P.toRuntime (t index).checked = .ok () ∧
        Admits guard S s ⌊run.now index⌋ (run.nonce index) (t index) ∧
        run.FreshFrom sender guard S t n (index + 1)
          (guard.passed S s (run.nonce index) (t index))

/-! ## One package -/

/-- The outer fields of a package of a stream. -/
theorem Back.outer (addressed : run.AddressedTo B sender) {piece : Bytes} {index : ℕ}
    {e : SendCall A} (made : run.Made piece index e) {type : Str} {package : SecurePackage}
    (back : Back (retyped type e.package) package) :
    package.senderId = sender.id ∧ package.receiverId = B.entityId ∧
      (package.dataType = type ∨ package.dataType = type.reread) := by
  obtain ⟨env, f, b, facts⟩ := e.exists_made
  obtain ⟨_, senderPlain, receiverPlain⟩ := facts.plain
  have senderId : e.package.senderId = sender.id := facts.senderId.trans addressed.senderId.symm
  have receiverId : e.package.receiverId = B.entityId := by
    rw [facts.receiverId, made.peer, addressed.peerId]
  obtain rfl | rfl := back
  · exact ⟨senderId, receiverId, .inl rfl⟩
  · obtain ⟨_, encoded⟩ := Option.isSome_iff_exists.mp senderPlain
    obtain ⟨_, encoded'⟩ := Option.isSome_iff_exists.mp receiverPlain
    rw [made.peer, addressed.cardId] at encoded'
    refine ⟨?_, ?_, .inr rfl⟩
    · show e.package.senderId.reread = _
      rw [senderId, addressed.senderId, Str.reread_of_encode encoded]
    · show e.package.receiverId.reread = _
      rw [receiverId, Str.reread_of_encode encoded']

/-- The call in which a package of type `binary` is received. -/
def binaryCall (sender : Peer) (package : SecurePackage) (t : Identity.OpenReadings) : ReceiveCall :=
  ⟨sender, .package package, some "binary", t⟩

theorem binaryCall_resolved {R : Runtime} {package : SecurePackage} {t : Identity.OpenReadings}
    (senderId : package.senderId = sender.id) (receiverId : package.receiverId = B.entityId)
    (type : package.dataType = "binary") :
    (binaryCall sender package t).resolved R B.entityId = .ok package := by
  refine resolved_eq_ok.mpr ⟨rfl, ?_⟩
  simp only [checkPackage, bind_eq_ok, ensure_eq_ok, decide_eq_true_eq]
  exact ⟨(), senderId, (), receiverId, decide_eq_true type⟩

/-- A fresh package of type `binary` is received as its piece. -/
theorem StreamRun.Made.receives (exchange : P.ExchangeCorrect) (aead : P.AeadCorrect)
    (signature : P.SignatureCorrect) (json : P.JsonRereads) (addressed : run.AddressedTo B sender)
    {piece : Bytes} {index : ℕ} {e : SendCall A} (made : run.Made piece index e)
    {package : SecurePackage} (back : Back (retyped "binary" e.package) package)
    (valid : sender.card.verifyValidity P.toRuntime (t index).checked = .ok ())
    (admits : Admits guard S s ⌊run.now index⌋ (run.nonce index) (t index)) :
    receiveBinaryPiece B guard S s sender package (t index) =
      (.ok piece, guard.passed S s (run.nonce index) (t index)) := by
  obtain ⟨senderId, receiverId, type⟩ := back.outer addressed made
  have type : package.dataType = "binary" := by
    obtain same | same := type
    · exact same
    · exact same.trans (Str.reread_ofString "binary")
  have nonce : e.envelopeNonce = run.nonce index := by
    rw [SendCall.envelopeNonce, made.coins, StreamRun.nonce]
  have welcome : Welcome e B guard S s sender (t index) := {
    peerId := by rw [made.peer, addressed.peerId]
    cardId := by rw [made.peer, addressed.cardId]
    keys := by rw [made.peer, addressed.keys]
    senderId := addressed.senderId
    senderCard := addressed.senderCard
    valid := valid
    admits := by rw [made.now, nonce]; exact admits }
  have delivered : receivePayload B guard S s (binaryCall sender package (t index)) = _ :=
    SendCall.delivered exchange aead signature json.correct welcome
      (binaryCall_resolved senderId receiverId type) back.genuine
  rw [receiveBinaryPiece, show receivePayload B guard S s
    ⟨sender, .package package, some "binary", t index⟩ = _ from delivered]
  simp only
  rw [made.unpacks json, nonce]
  rfl

/-- A package of another type is refused. -/
theorem receiveBinaryPiece_refused (addressed : run.AddressedTo B sender) {piece : Bytes} {index : ℕ}
    {e : SendCall A} (made : run.Made piece index e) {type : Str} (other : type ≠ "binary")
    {package : SecurePackage} (back : Back (retyped type e.package) package) :
    ∃ err, receiveBinaryPiece B guard S s sender package (t index) = (.error err, s) := by
  obtain ⟨senderId, receiverId, type'⟩ := back.outer addressed made
  have apart : package.dataType ≠ "binary" := by
    intro same
    obtain kept | read := type'
    · exact other (kept.symm.trans same)
    · have binary : type.reread = "binary" := read.symm.trans same
      have basic : ((Str.ofString "binary").all fun c => decide (c.val < 0x10000)) = true := by
        decide +kernel
      have kept : type.reread = type := Str.reread_of_basic fun c mem =>
        of_decide_eq_true (List.all_eq_true.mp basic c (binary ▸ mem))
      exact other (kept.symm.trans binary)
  have refused : ∃ err, (binaryCall sender package (t index)).resolved P.toRuntime B.entityId =
      .error err := by
    cases resolved : (binaryCall sender package (t index)).resolved P.toRuntime B.entityId with
    | error err => exact ⟨err, rfl⟩
    | ok package' =>
        obtain ⟨found, checked⟩ := resolved_eq_ok.mp resolved
        cases found
        simp only [checkPackage, bind_eq_ok, ensure_eq_ok] at checked
        obtain ⟨_, _, _, _, typed⟩ := checked
        exact absurd (of_decide_eq_true typed) apart
  obtain ⟨err, refused⟩ := refused
  have nothing : receivePayload B guard S s (binaryCall sender package (t index)) =
      (.error err, s) := by
    rw [receivePayload, refused]
  refine ⟨err, ?_⟩
  rw [receiveBinaryPiece, show receivePayload B guard S s
    ⟨sender, .package package, some "binary", t index⟩ = _ from nothing]

/-! ## All packages -/

/-- Fresh packages of type `binary` are received as their pieces, in order. -/
theorem receivePackages_fresh (exchange : P.ExchangeCorrect) (aead : P.AeadCorrect)
    (signature : P.SignatureCorrect) (json : P.JsonRereads) (addressed : run.AddressedTo B sender)
    {pieces : List Bytes} {packages back : List SecurePackage} {index : ℕ} {out : Bytes} {total : ℕ}
    (made : List.Forall₂ (fun piece package => ∃ e : SendCall A, run.Made piece.1 piece.2 e ∧
      package = retyped "binary" e.package) (pieces.zipIdx index) packages)
    (backs : List.Forall₂ Back packages back)
    (fresh : run.FreshFrom sender guard S t pieces.length index s) :
    ∃ s', receivePackages B guard S sender t index out total s (back.map .ok) =
      ⟨.ok (total + pieces.flatten.length), out ++ pieces.flatten, s'⟩ := by
  induction pieces generalizing index packages back out total s with
  | nil =>
      cases made
      cases backs
      exact ⟨s, by rw [List.flatten_nil, List.append_nil]; rfl⟩
  | cons piece pieces ih =>
      rw [List.zipIdx_cons] at made
      obtain ⟨_, packages, ⟨e, here, rfl⟩, rest, rfl⟩ := List.forall₂_cons_left_iff.mp made
      obtain ⟨package, back, this, others, rfl⟩ := List.forall₂_cons_left_iff.mp backs
      obtain ⟨valid, admits, later⟩ := fresh
      have received := here.receives exchange aead signature json addressed this valid admits
      obtain ⟨s', all⟩ : ∃ s', receivePackages B guard S sender t (index + 1) (out ++ piece)
          (total + piece.length) (guard.passed S s (run.nonce index) (t index)) (back.map .ok) =
          ⟨.ok (total + piece.length + pieces.flatten.length), out ++ piece ++ pieces.flatten, s'⟩ :=
        ih rest others later
      refine ⟨s', ?_⟩
      simp only at received
      rw [List.map_cons, receivePackages, received]
      simp only
      rw [all, List.flatten_cons, List.length_append, List.append_assoc, Nat.add_assoc]

/-- In order and fresh, a stream is received as the bytes of its source exactly if it has the type
`binary` or the source has no bytes. -/
theorem stream_round_trip_iff (exchange : P.ExchangeCorrect) (aead : P.AeadCorrect)
    (signature : P.SignatureCorrect) (json : P.JsonRereads) (line : P.JsonLine)
    (run : StreamRun A) (positive : 0 < run.options.chunkSize)
    (addressed : run.AddressedTo B sender)
    (fresh : run.FreshFrom sender guard S t run.packages.length 0 s) {input : StreamInput}
    (given : Given P.toRuntime run.packages input) :
    (∃ s', receiveStream B guard S s sender t input =
        ⟨.ok run.source.bytes.length, run.source.bytes, s'⟩) ↔
      run.options.dataType = "binary" ∨ run.source.bytes = [] := by
  obtain ⟨back, read, backs⟩ := iterPackages_given json line given
  have made := run.made
  rw [receiveStream, read]
  constructor
  · rintro ⟨s', received⟩
    by_contra other
    push Not at other
    obtain ⟨type, nonempty⟩ := other
    have some : run.chunks ≠ [] := fun none => nonempty ((StreamRun.chunks_eq_nil positive).mp none)
    rw [StreamRun.pieces, if_neg some, StreamRun.dataType, if_neg some] at made
    cases cut : run.chunks with
    | nil => exact some cut
    | cons chunk rest =>
        rw [cut, List.zipIdx_cons] at made
        obtain ⟨_, packages, ⟨e, here, rfl⟩, _, same⟩ := List.forall₂_cons_left_iff.mp made
        rw [same] at backs
        obtain ⟨package, back, this, _, rfl⟩ := List.forall₂_cons_left_iff.mp backs
        obtain ⟨err, refused⟩ : ∃ err, receiveBinaryPiece B guard S s sender package (t 0) =
            (.error err, s) := receiveBinaryPiece_refused addressed here type this
        rw [List.map_cons, receivePackages, refused] at received
        cases congrArg Received.result received
  · intro type
    have binary : run.dataType = "binary" := by
      unfold StreamRun.dataType
      split
      · rfl
      · rename_i some
        exact type.resolve_right fun none => some ((StreamRun.chunks_eq_nil positive).mpr none)
    rw [binary] at made
    rw [run.length_packages] at fresh
    obtain ⟨s', received⟩ := @receivePackages_fresh _ _ _ guard S s sender t run exchange aead
      signature json addressed _ _ _ _ [] 0 made backs fresh
    refine ⟨s', ?_⟩
    rw [received, Nat.zero_add, List.nil_append, StreamRun.flatten_pieces positive]

/-! A stream of two pieces, sent and received at the instant 1000. -/

def sampleParty (name : String) (n : UInt8) : Identity .reading :=
  Identity.generate .reading name (.filled 32 n) (.filled 64 n)
    (.filled 32 n) (.filled 32 n)

def sampleWriter : Identity .reading := sampleParty "A" 1

def sampleReader : Identity .reading := sampleParty "B" 2

/-- The coins of a package, with a nonce of its own. -/
def sampleStreamCoins (index : ℕ) : SendCoins where
  envelope := {
    sampleCoins.envelope with
    envelopeNonce := ⟨List.replicate 16 (UInt8.ofNat index), List.length_replicate⟩ }
  sessionKey := sampleCoins.sessionKey
  transferId := sampleUuid
  chunkNonce := sampleCoins.chunkNonce

def sampleOptions (dataType : Str) : StreamOptions := ⟨2, none, [], dataType⟩

def sampleSource : StreamSource := .reads none [1, 2, 3]

def sampleStream (dataType : Str) : Except PyErr (List SecurePackage) :=
  sendStream sampleWriter ⟨"B", sampleReader.card⟩ (sampleOptions dataType) sampleSource
    (fun _ => 1000) (fun _ => 1000) sampleStreamCoins

/-- A call of `sampleStream` that returned. -/
def sampleRun {dataType : Str} {packages : List SecurePackage}
    (returned : sampleStream dataType = .ok packages) : StreamRun sampleWriter where
  peer := ⟨"B", sampleReader.card⟩
  options := sampleOptions dataType
  source := sampleSource
  checked := fun _ => 1000
  now := fun _ => 1000
  coins := sampleStreamCoins
  packages := packages
  returned := returned

/-- The recipient reads the packages. -/
def sampleReceived (packages : List SecurePackage) : Received MemoryNonceStore.seenStore :=
  receiveStream sampleReader .default MemoryNonceStore.seenStore .empty
    ⟨"A", sampleWriter.card⟩ (fun _ => sampleReadings) (.items (packages.map .package))

variable {dataType : Str} {packages : List SecurePackage}

theorem sampleRun_addressed (returned : sampleStream dataType = .ok packages) :
    (sampleRun returned).AddressedTo sampleReader ⟨"A", sampleWriter.card⟩ :=
  ⟨rfl, rfl, rfl, rfl, rfl⟩

/-- The guard lets the two envelopes pass, one after the other. -/
theorem sampleNonces_admitted :
    Admits .default MemoryNonceStore.seenStore MemoryNonceStore.empty ⌊(1000 : ℚ)⌋
      (sampleStreamCoins 0).envelope.envelopeNonce.1.hex sampleReadings ∧
    Admits .default MemoryNonceStore.seenStore
      (ReplayGuard.default.passed MemoryNonceStore.seenStore MemoryNonceStore.empty
        (sampleStreamCoins 0).envelope.envelopeNonce.1.hex sampleReadings) ⌊(1000 : ℚ)⌋
      (sampleStreamCoins 1).envelope.envelopeNonce.1.hex sampleReadings := by
  have timely : (1000 : ℚ) - ⌊(1000 : ℚ)⌋ ≤ (300 : ℤ) ∧ (⌊(1000 : ℚ)⌋ : ℚ) ≤ 1000 + (30 : ℤ) := by
    norm_num
  exact ⟨⟨timely.1, timely.2, Except.of_toOption (by decide +kernel),
    Except.of_toOption (by decide +kernel)⟩, ⟨timely.1, timely.2,
    Except.of_toOption (by decide +kernel), Except.of_toOption (by decide +kernel)⟩⟩

theorem sampleRun_fresh (returned : sampleStream dataType = .ok packages) :
    (sampleRun returned).FreshFrom ⟨"A", sampleWriter.card⟩ .default MemoryNonceStore.seenStore
      (fun _ => sampleReadings) packages.length 0 MemoryNonceStore.empty := by
  have pieces : (sampleRun returned).pieces.length = 2 := by
    have cut : sampleSource.chunks 2 = [[1, 2], [3]] := by decide
    show (if sampleSource.chunks 2 = [] then [[]] else sampleSource.chunks 2).length = 2
    rw [cut]
    rfl
  have two : packages.length = 2 := (sampleRun returned).length_packages.trans pieces
  rw [two]
  exact ⟨rfl, sampleNonces_admitted.1, rfl, sampleNonces_admitted.2, trivial⟩

/-- A stream of type `binary`. -/
theorem sampleStream_binary : ∃ packages, ∃ returned : sampleStream "binary" = .ok packages,
    (∃ s', sampleReceived packages = ⟨.ok 3, [1, 2, 3], s'⟩) ↔
      (sampleRun returned).options.dataType = "binary" ∨ sampleSource.bytes = [] := by
  have sent : (sampleStream "binary").toOption.isSome = true := by decide +kernel
  obtain ⟨packages, found⟩ := Option.isSome_iff_exists.mp sent
  have returned := Except.of_toOption found
  exact ⟨packages, returned, stream_round_trip_iff Platform.reading_exchange Platform.reading_aead
    Platform.reading_signature Platform.reading_json Platform.reading_line (sampleRun returned)
    (show (0 : ℤ) < 2 by decide) (sampleRun_addressed returned) (sampleRun_fresh returned) .packages⟩

/-- A stream of type `file` is refused at its first package. -/
theorem file_stream_refused :
    ¬ ∀ (A B : Identity .reading) (guard : ReplayGuard) (S : SeenStore) (s : S.State)
      (sender : Peer) (t : ℕ → Identity.OpenReadings) (run : StreamRun A) (input : StreamInput),
      0 < run.options.chunkSize → run.AddressedTo B sender →
      run.FreshFrom sender guard S t run.packages.length 0 s →
      Given Platform.reading.toRuntime run.packages input →
        ∃ s', receiveStream B guard S s sender t input =
          ⟨.ok run.source.bytes.length, run.source.bytes, s'⟩ := by
  intro always
  have computed : ((sampleStream "file").toOption.map fun packages =>
      (sampleReceived packages).result.toOption) = some none := by decide +kernel
  obtain ⟨packages, found, refused⟩ := Option.map_eq_some_iff.mp computed
  have returned := Except.of_toOption found
  obtain ⟨s', received⟩ := always sampleWriter sampleReader .default MemoryNonceStore.seenStore
    .empty ⟨"A", sampleWriter.card⟩ (fun _ => sampleReadings) (sampleRun returned) _
    (show (0 : ℤ) < 2 by decide) (sampleRun_addressed returned) (sampleRun_fresh returned) .packages
  have result := congrArg (fun r => r.result.toOption) received
  exact absurd (refused.symm.trans result) nofun

end Uxsp.Secure
