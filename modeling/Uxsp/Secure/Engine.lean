import Uxsp.Core.Chunking
import Uxsp.Core.IdentitySeal
import Uxsp.Secure.Package

/-!
# `uxsp.secure._engine`

`Secure.sendPayload` seals a payload for a card: a small one in an envelope, a large one in chunks
under a session key that travels in the envelope.  `Secure.receivePayload` opens what it is given
under a replay guard.  The global context is its three answers: a card for an id, the identity and
the guard.
-/

namespace Uxsp.Secure

variable {P : Platform}

/-- Who a caller names: an identity, a card, or the id of a registered peer. -/
inductive Party (P : Platform)
  | identity (i : Identity P)
  | card (c : Card)
  | id (v : Val)

/-- An id and the card it stands for. -/
structure Peer where
  id : Str
  card : Card

/-- `str(v).strip()`, which must leave something. -/
def normalizeId (R : Runtime) (v : Val) : Except PyErr Str := do
  let printed ← R.str v
  let norm := ((printed.dropWhile Str.isSpace).reverse.dropWhile Str.isSpace).reverse
  ensure (norm ≠ []) ⟨.valueError, ["Entity ID cannot be empty."]⟩
  return norm

/-- Look a party up; `peers` is the key store. -/
def resolve (peers : Str → Option Card) : Party P → Except PyErr Peer
  | .identity i => .ok ⟨i.entityId, i.card⟩
  | .card c => .ok ⟨c.entityId, c⟩
  | .id v => do
      let id ← normalizeId P.toRuntime v
      match peers id with
      | some card => return ⟨id, card⟩
      | none => .error ⟨.peerNotFoundError, ["No public card registered for peer '", .str id, "'. ",
          "Register peer using uxsp.secure.register_peer(card) first."]⟩

/-! ## Sending -/

/-- The longest payload that travels in a single envelope. -/
def ENVELOPE_LIMIT : ℕ := 30 * 1024

def CHUNK_SIZE : ℕ := 16 * 1024

/-- The random bytes of one send. -/
structure SendCoins where
  envelope : SealCoins
  sessionKey : Urandom 32
  transferId : Uuid4
  chunkNonce : ℕ → Urandom NONCE_SIZE

/-- `f"{envelope_nonce}:{seq}".encode()`. -/
def chunkAd (R : Runtime) (envelopeNonce : Str) (seq : ℕ) : Except PyErr Bytes := do
  let number ← R.str (.int seq)
  Str.utf8 (envelopeNonce ++ (":" : Str) ++ number)

/-- Seal one chunk under the session key. -/
def sealChunk (P : Platform) (envelopeNonce : Str) (coins : SendCoins) (chunk : Bytes) (seq : ℕ) :
    Except PyErr Symmetric.Encrypted := do
  let ad ← chunkAd P.toRuntime envelopeNonce seq
  Symmetric.encrypt P chunk coins.sessionKey ad (coins.chunkNonce seq)

/-- A sealed chunk, as an entry of the chunk list. -/
def chunkEntry (e : Symmetric.Encrypted) : Val :=
  .dict [("c", .str e.ciphertext.hex), ("n", .str e.nonce.hex)]

def sealChunks (P : Platform) (envelopeNonce : Str) (coins : SendCoins) (chunks : List Bytes) :
    Except PyErr (List Symmetric.Encrypted) :=
  chunks.zipIdx.mapM fun (chunk, seq) => sealChunk P envelopeNonce coins chunk seq

/-- Encrypt and seal payload bytes for a peer. -/
def sendPayload (sender : Identity P) (peer : Peer) (payload : Bytes) (dataType : Str)
    (metadata : Dict) (checked now : ℚ) (coins : SendCoins) : Except PyErr SecurePackage :=
  if payload.length ≤ ENVELOPE_LIMIT then do
    let env ← sender.sealFor payload peer.card checked now coins.envelope
    return {
      senderId := sender.entityId
      receiverId := peer.id
      dataType := dataType
      isChunked := false
      envelope := .dict env.toDict
      chunks := .list []
      metadata := .dict metadata }
  else do
    let env ← sender.sealFor coins.sessionKey peer.card checked now coins.envelope
    let chunks ← createChunkedTransfer P payload CHUNK_SIZE .default coins.transferId
    let sealedChunks ← sealChunks P env.envelopeNonce coins chunks
    return {
      senderId := sender.entityId
      receiverId := peer.id
      dataType := dataType
      isChunked := true
      envelope := .dict env.toDict
      chunks := .list (sealedChunks.map chunkEntry)
      metadata := .dict metadata }

/-! ## Receiving -/

/-- What `_secure_receive_payload` is given.  A `text` is JSON given as `bytes`, as a string or in a
file; `missing` is a string or path that names no file. -/
inductive PackageInput
  | package (p : SecurePackage)
  | dict (d : Dict)
  | text (b : Bytes)
  | missing (name : Str)
  | other (typeName : String)

/-- Resolve a package from diverse inputs. -/
def resolvePackageInput (R : Runtime) : PackageInput → Except PyErr SecurePackage
  | .package p => .ok p
  | .dict d => SecurePackage.fromDict R (.dict d)
  | .text b => SecurePackage.fromJson R b
  | .missing name => .error ⟨.secureReceiveError, ["Package file not found: ", .str name]⟩
  | .other typeName => .error ⟨.secureReceiveError,
      ["Cannot resolve package from input of type ", typeName]⟩

/-- What the package is checked for before it is opened. -/
def checkPackage (package : SecurePackage) (senderId receiverId : Str) (expectedType : Option Str) :
    Except PyErr Unit := do
  ensure (package.senderId = senderId) ⟨.secureReceiveError, ["Sender ID mismatch: expected '",
    .str senderId, "', package has '", .str package.senderId, "'"]⟩
  ensure (package.receiverId = receiverId) ⟨.secureReceiveError,
    ["Receiver ID mismatch: intended for '", .str package.receiverId, "', current identity is '",
      .str receiverId, "'"]⟩
  ensure (expectedType.all fun type => package.dataType = type) ⟨.typeMismatchError,
    ["Data type mismatch: expected '", .str (expectedType.getD []), "', got '",
      .str package.dataType, "'"]⟩

/-- The envelope of a package that has one, and chunks if it is marked chunked. -/
def packageEnvelope (R : Runtime) (package : SecurePackage) : Except PyErr Envelope := do
  ensure (!package.isChunked || package.chunks.truthy) ⟨.secureReceiveError,
    ["Package is marked chunked but contains no chunks."]⟩
  ensure (!package.envelope.isNone) ⟨.secureReceiveError, [if package.isChunked then
      "Package is marked chunked but missing session key envelope."
    else "Package is marked non-chunked but missing envelope."]⟩
  Envelope.fromDict R package.envelope

/-- What a chunk list iterates over. -/
def chunkEntries : Val → Except PyErr (List Val)
  | .list xs => .ok xs
  | .dict items => .ok (items.map fun item => .str item.1)
  | .str s => .ok (s.map fun c => .str [c])
  | v => .error ⟨.typeError, ["'", v.typeName, "' object is not iterable"]⟩

/-- `entry[key]`. -/
def entryItem (entry : Val) (key : Str) : Except PyErr Val :=
  match entry with
  | .dict d => Dict.item d key
  | .str _ => .error ⟨.typeError, ["string indices must be integers, not 'str'"]⟩
  | .list _ => .error ⟨.typeError, ["list indices must be integers or slices, not str"]⟩
  | v => .error ⟨.typeError, ["'", v.typeName, "' object is not subscriptable"]⟩

/-- Ciphertext and nonce of an entry of the chunk list. -/
def decodeEntry (entry : Val) : Except PyErr (Bytes × Bytes) := do
  let ciphertext ← fromHexVal (← entryItem entry "c")
  let nonce ← fromHexVal (← entryItem entry "n")
  return (ciphertext, nonce)

/-- Decrypt one entry of the chunk list. -/
def openEntry (P : Platform) (envelopeNonce : Str) (sessionKey : Bytes) (entry : Val) (seq : ℕ) :
    Except PyErr Bytes := do
  let ad ← chunkAd P.toRuntime envelopeNonce seq
  let (ciphertext, nonce) ← decodeEntry entry
  Symmetric.decrypt P ciphertext nonce sessionKey ad

/-- Decrypt the chunks and put them together. -/
def openChunks (P : Platform) (envelopeNonce : Str) (sessionKey : Bytes) (chunks : Val) :
    Except PyErr Bytes := do
  let entries ← chunkEntries chunks
  let rawChunks ← entries.zipIdx.mapM fun (entry, seq) =>
    openEntry P envelopeNonce sessionKey entry seq
  let (_, reassembled) ← reassembleChunkedTransfer P rawChunks
  return reassembled

/-- What a package holds, its envelope holding `plaintext`. -/
def contents (P : Platform) (package : SecurePackage) (env : Envelope) (plaintext : Bytes) :
    Except PyErr Bytes :=
  if package.isChunked then openChunks P env.envelopeNonce plaintext package.chunks
  else .ok plaintext

/-- The exceptions of the layers below, as those of this one. -/
def receiveError (e : PyErr) : PyErr :=
  if e.cls.isA .duplicateNonceError then ⟨.duplicateMessageError,
    [.lit "Message already processed (duplicate). Nonce already used: "] ++ e.msg⟩
  else if e.cls.isA .staleEnvelopeError || e.cls.isA .futureEnvelopeError ||
      e.cls.isA .envelopeExpiredError then
    ⟨.messageExpiredError, [.lit "Message expired: "] ++ e.msg⟩
  else if e.cls.isA .cardRevokedError || e.cls.isA .cardExpiredError ||
      e.cls.isA .envelopeValidationError then
    ⟨.invalidSenderError, [.lit "Invalid sender: "] ++ e.msg⟩
  else e

/-- Open a package that passed its checks. -/
def openPackage (receiver : Identity P) (S : SeenStore) (s : S.State) (package : SecurePackage)
    (senderCard : Card) (guard : ReplayGuard) (t : Identity.OpenReadings) :
    Except PyErr Bytes × S.State :=
  match packageEnvelope P.toRuntime package with
  | .error e => (.error e, s)
  | .ok env =>
      match receiver.openFrom S s env.toDict senderCard (some guard) t with
      | (.error e, s) => (.error e, s)
      | (.ok plaintext, s) => (contents P package env plaintext, s)

/-- The arguments of a call of `_secure_receive_payload`, its sender looked up. -/
structure ReceiveCall where
  sender : Peer
  input : PackageInput
  expectedType : Option Str
  readings : Identity.OpenReadings

/-- The package of a call, with the checks of its outer fields. -/
def ReceiveCall.resolved (R : Runtime) (call : ReceiveCall) (receiverId : Str) :
    Except PyErr SecurePackage := do
  let package ← resolvePackageInput R call.input
  checkPackage package call.sender.id receiverId call.expectedType
  return package

/-- Verify, unseal and assemble payload bytes from a sender. -/
def receivePayload (receiver : Identity P) (guard : ReplayGuard) (S : SeenStore) (s : S.State)
    (call : ReceiveCall) : Except PyErr Bytes × S.State :=
  match call.resolved P.toRuntime receiver.entityId with
  | .error e => (.error e, s)
  | .ok package =>
      match openPackage receiver S s package call.sender.card guard call.readings with
      | (.error e, s) => (.error (receiveError e), s)
      | (.ok payload, s) => (.ok payload, s)

end Uxsp.Secure
