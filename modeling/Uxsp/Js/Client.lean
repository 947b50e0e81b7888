import Uxsp.Js.Chunking
import Uxsp.Js.SealOpen

/-!
# `client.ts` and `schema.ts`

Packages of the JavaScript client.  `createEncryptedPackage` seals a plaintext in one envelope, or
every chunk of it in one of its own; `openEncryptedPackage` opens the envelopes in turn and puts the
pieces together.  `now` and `coins` are what the calls of `seal` and `openSeal` read and draw, by
their number.
-/

namespace Uxsp

/-! ## `schema.ts` -/

/-- `SecurePackage`. -/
structure JsSecurePackage where
  uxspPackageVersion : JsStr
  senderId : JsStr
  receiverId : JsStr
  dataType : JsStr
  isChunked : Bool
  envelope : Option JsObject
  chunks : List JsObject
  metadata : JsObject

namespace JsSchema

/-- `typeof v === "string"`. -/
def isString : Option JsVal → Bool
  | some (.string _) => true
  | _ => false

/-- `typeof v === "number"`. -/
def isNumber : Option JsVal → Bool
  | some (.number _) => true
  | _ => false

def validateEnvelope (env : JsObject) : Bool :=
  JsVal.isStr (env.get? "version") "UXSP-1" && isString (env.get? "sender_id") &&
    isString (env.get? "recipient_id") && isNumber (env.get? "timestamp") &&
    isString (env.get? "envelope_nonce") && isString (env.get? "ciphertext") &&
    isString (env.get? "nonce") && isString (env.get? "ephemeral_pub") &&
    isString (env.get? "classical_sig") &&
    (JsVal.isStr (env.get? "pqc_mode") "none" ||
      (isString (env.get? "kem_ciphertext") && isString (env.get? "pqc_sig")))

def validatePackage (pkg : JsSecurePackage) : Bool :=
  pkg.uxspPackageVersion == "1.0" && pkg.envelope.all validateEnvelope &&
    pkg.chunks.all validateEnvelope

end JsSchema

/-! ## `UXSPClient` -/

/-- `CreatePackageOptions`. -/
structure JsCreatePackageOptions where
  senderId : JsStr
  receiverId : JsStr
  dataType : Option JsStr := none
  envelope : Option JsObject := none
  chunks : Option (List JsObject) := none
  metadata : Option JsObject := none

/-- The options of `createEncryptedPackage`; sizes are whole numbers of bytes. -/
structure JsPackageOptions where
  autoChunk : Bool
  chunkThreshold : Option ℤ
  chunkSize : Option ℤ

/-- The random bytes of one package. -/
structure JsPackageCoins where
  transferId : Uuid4
  seals : ℕ → JsSealCoins

namespace JsPackageOptions

def threshold (options : JsPackageOptions) : ℤ := options.chunkThreshold.getD (64 * 1024)

def shouldChunk (options : JsPackageOptions) (length : ℕ) : Bool :=
  (options.autoChunk && options.threshold < length) ||
    options.chunkSize.any fun size => size < (length : ℤ)

end JsPackageOptions

namespace JsClient

variable (J : JsPlatform)

def createPackage (options : JsCreatePackageOptions) : Except JsErr JsSecurePackage := do
  let chunks := options.chunks.getD []
  let pkg : JsSecurePackage := {
    uxspPackageVersion := "1.0"
    senderId := options.senderId
    receiverId := options.receiverId
    dataType :=
      match options.dataType with
      | some (u :: s) => u :: s
      | _ => "TEXT"
    isChunked := !chunks.isEmpty
    envelope := options.envelope
    chunks := chunks
    metadata := options.metadata.getD [] }
  jsEnsure (JsSchema.validatePackage pkg)
    ⟨.error, [.lit "Failed to validate created UXSP SecurePackage against wire schema."]⟩
  return pkg

/-- The options of the transfer that a plaintext is cut into. -/
def transferOptions (dataType : JsStr) (options : JsPackageOptions) : JsTransferOptions where
  chunkSize := some (options.chunkSize.getD options.threshold)
  kind := some (if J.toLowerCase dataType = "text" then .text else .binary)
  transferId := none
  toJsChunkOptions := ⟨none, none, none⟩

/-- Every chunk in an envelope of its own. -/
def sealChunks (sender : JsIdentity) (recipientCard : JsPublicCard) (now : ℕ → ℤ)
    (coins : JsPackageCoins) (chunks : List JsUXSPChunk) : Except JsErr (List JsObject) :=
  chunks.zipIdx.mapM fun (ch, k) => do
    sender.seal J recipientCard (← ch.toBytes J.toJsRuntime) [] (now k) (coins.seals k)

/-- The metadata of a chunked package. -/
def chunkedMetadata (metadata : JsObject) (totalChunks totalBytes : ℕ) : JsObject :=
  Assoc.set (Assoc.set (Assoc.set metadata "uxsp_chunked_transfer" (.bool true))
    "total_chunks" (.number (.finite totalChunks))) "total_bytes" (.number (.finite totalBytes))

def createEncryptedPackage (sender : JsIdentity) (recipientCard : JsPublicCard)
    (plaintext : Bytes) (dataType : JsStr) (metadata : JsObject) (options : JsPackageOptions)
    (now : ℕ → ℤ) (coins : JsPackageCoins) : Except JsErr JsSecurePackage :=
  if options.shouldChunk plaintext.length then do
    let chunks ← jsCreateChunkedTransfer J plaintext (transferOptions J dataType options)
      coins.transferId
    let chunkEnvelopes ← sealChunks J sender recipientCard now coins chunks
    createPackage {
      senderId := sender.entityId
      receiverId := recipientCard.entityId
      dataType := some dataType
      chunks := some chunkEnvelopes
      metadata := some (chunkedMetadata metadata chunks.length plaintext.length) }
  else do
    let envelope ← sender.seal J recipientCard plaintext [] (now 0) (coins.seals 0)
    createPackage {
      senderId := sender.entityId
      receiverId := recipientCard.entityId
      dataType := some dataType
      envelope := some envelope
      metadata := some metadata }

/-! ## `openEncryptedPackage` -/

/-- The loop over the envelopes, from the `k`th on. -/
def openSlices (receiver : JsIdentity) (senderCard : JsPublicCard) (now : ℕ → ℤ) :
    ℕ → SeenNonces → List JsObject → Except JsErr (List Bytes) × SeenNonces
  | _, seen, [] => (.ok [], seen)
  | k, seen, envelope :: chunks =>
      match JsSeal.openSeal J seen receiver senderCard envelope [] (now k) with
      | (.error e, seen) => (.error e, seen)
      | (.ok decrypted, seen) =>
          match openSlices receiver senderCard now (k + 1) seen chunks with
          | (.error e, seen) => (.error e, seen)
          | (.ok slices, seen) => (.ok (decrypted :: slices), seen)

/-- The first slice has at least 16 bytes and starts with `UXSP`. -/
def looksPacked (slices : List Bytes) : Bool :=
  match slices with
  | first :: _ => 16 ≤ first.length && first.take 4 = [0x55, 0x58, 0x53, 0x50]
  | [] => false

/-- The slices as packed chunks of one transfer. -/
def readTransfer (slices : List Bytes) : Except JsErr Bytes := do
  jsReassembleChunkedTransfer J (← slices.mapM (JsUXSPChunk.fromBytes J))

/-- The slices put together: what is no transfer is concatenated. -/
def joinSlices (slices : List Bytes) : Bytes :=
  if looksPacked slices then
    match readTransfer J slices with
    | .ok data => data
    | .error _ => slices.flatten
  else slices.flatten

def noChunks : JsErr := ⟨.error, [.lit "Package is marked as chunked but contains no chunks."]⟩

def noEnvelope : JsErr := ⟨.error, [.lit "SecurePackage is missing its envelope."]⟩

def openEncryptedPackage (seen : SeenNonces) (receiver : JsIdentity) (senderCard : JsPublicCard)
    (pkg : JsSecurePackage) (now : ℕ → ℤ) : Except JsErr Bytes × SeenNonces :=
  if pkg.isChunked then
    if pkg.chunks.isEmpty then (.error noChunks, seen)
    else
      match openSlices J receiver senderCard now 0 seen pkg.chunks with
      | (.error e, seen) => (.error e, seen)
      | (.ok slices, seen) => (.ok (joinSlices J slices), seen)
  else
    match pkg.envelope with
    | none => (.error noEnvelope, seen)
    | some envelope => JsSeal.openSeal J seen receiver senderCard envelope [] (now 0)

end JsClient

end Uxsp
