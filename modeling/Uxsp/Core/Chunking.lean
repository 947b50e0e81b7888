import Uxsp.Crypto.Hybrid
import Uxsp.Lib.Slices
import Uxsp.Python.Json
import Uxsp.Python.Uuid

/-!
# `uxsp.core.chunking`

A large payload is cut into chunks.  A packed chunk is a magic prefix, the length of a JSON header,
the header, and the body; the header holds the position of the chunk and two SHA-256 digests.

`reassembleChunkedTransfer_perm`: the chunks of a transfer, in any order, give back the payload.
-/

namespace Uxsp

inductive ChunkKind
  | file
  | binary
  | text
  deriving DecidableEq

def ChunkKind.str : ChunkKind → Str
  | .file => "file"
  | .binary => "binary"
  | .text => "text"

@[simp] theorem ChunkKind.reread_str (kind : ChunkKind) : kind.str.reread = kind.str := by
  cases kind <;> exact Str.reread_ofString _

namespace Chunking

def MAGIC : Bytes := .lit "UXSP-CHUNK-1"

def HEADER_LEN_BYTES : ℕ := 4

def MAX_HEADER_LEN : ℕ := 64 * 1024

def invalid (msg : Msg) : PyErr := ⟨.chunkValidationError, msg⟩

def malformed (msg : Msg) : PyErr := ⟨.chunkFormatError, msg⟩

def headerTooLong : Msg :=
  ["Chunk header exceeds maximum allowed size (", .int MAX_HEADER_LEN, " bytes)."]

/-- The SHA-256 digest of data in hex. -/
def sha256Hex (P : Platform) (data : Bytes) : Str := (P.sha256 data).hex

/-- `s.lower()` of an ASCII string. -/
def lowerAscii (s : Str) : Str :=
  s.map fun c => if h : 65 ≤ c.val ∧ c.val ≤ 90 then ⟨c.val + 32, by omega⟩ else c

/-- A digest of 64 hex characters, in lower case. -/
def validateSha256Hex (v : Val) (field : String) : Except PyErr Str :=
  match v with
  | .str s => do
      ensure (s.length = 64) (invalid [field, " must be a 64-char hex string."])
      ensure s.fromHex.isSome (invalid [field, " must be a valid hex string."])
      return lowerAscii s
  | _ => .error (invalid [field, " must be a string."])

def requireNonNegativeInt (v : Val) (field : String) : Except PyErr ℕ :=
  match v with
  | .int n =>
      if 0 ≤ n then .ok n.toNat else .error (invalid [field, " must be non-negative."])
  | _ => .error (invalid [field, " must be an int."])

end Chunking

open Chunking

/-- One chunk of a larger payload. -/
structure UXSPChunk where
  transferId : Str
  chunkIndex : ℕ
  totalChunks : ℕ
  fileHash : Str
  chunkHash : Str
  kind : ChunkKind
  body : Bytes
  filename : Option Str
  contentType : Str
  encoding : Option Str
  deriving DecidableEq

namespace UXSPChunk

/-- `__post_init__`: both digests are validated and put in lower case. -/
def postInit (c : UXSPChunk) : Except PyErr UXSPChunk := do
  let fileHash ← validateSha256Hex (.str c.fileHash) "file_hash_sha256"
  let chunkHash ← validateSha256Hex (.str c.chunkHash) "chunk_hash_sha256"
  return { c with fileHash := fileHash, chunkHash := chunkHash }

/-- A string or `None`. -/
def optional : Option Str → Val
  | some s => .str s
  | none => .none

def header (c : UXSPChunk) : Dict :=
  [("transfer_id", .str c.transferId), ("chunk_index", .int c.chunkIndex),
    ("total_chunks", .int c.totalChunks), ("file_hash_sha256", .str c.fileHash),
    ("chunk_hash_sha256", .str c.chunkHash), ("kind", .str c.kind.str),
    ("filename", optional c.filename), ("content_type", .str c.contentType),
    ("encoding", optional c.encoding), ("body_len", .int c.body.length)]

/-- Serialise a chunk: magic, header length, header, body. -/
def toBytes (R : Runtime) (c : UXSPChunk) : Except PyErr Bytes := do
  let headerRaw ← R.jsonCompact (.dict c.header)
  ensure (headerRaw.length ≤ MAX_HEADER_LEN) (invalid headerTooLong)
  return MAGIC ++ packLength headerRaw.length ++ headerRaw ++ c.body

/-- `int.from_bytes(b, "big")`. -/
def unpackLength (b : Bytes) : ℕ := LengthPrefix.ofBigEndian 256 (b.map UInt8.toNat)

/-- The header text and the body of a packed chunk. -/
def unframe (raw : Bytes) : Except PyErr (Bytes × Bytes) := do
  ensure (MAGIC.length + HEADER_LEN_BYTES ≤ raw.length) (malformed ["Packed chunk is too short."])
  ensure (raw.take MAGIC.length = MAGIC) (malformed ["Invalid chunk magic header."])
  let rest := raw.drop MAGIC.length
  let headerLen := unpackLength (rest.take HEADER_LEN_BYTES)
  ensure (headerLen ≤ MAX_HEADER_LEN) (malformed headerTooLong)
  let rest := rest.drop HEADER_LEN_BYTES
  ensure (headerLen ≤ rest.length) (malformed ["Chunk header length exceeds packed size."])
  return (rest.take headerLen, rest.drop headerLen)

/-- The JSON object in a header. -/
def parseHeader (R : Runtime) (text : Bytes) : Except PyErr Dict := do
  match ← catching [.unicodeDecodeError, .jsonDecodeError]
      (fun _ => malformed ["Invalid chunk header encoding."]) (R.jsonLoads text) with
  | .dict header => return header
  | _ => .error (malformed ["Chunk header must be a JSON object."])

def requireKind : Val → Except PyErr ChunkKind
  | .str s =>
      if s = ChunkKind.file.str then .ok .file
      else if s = ChunkKind.binary.str then .ok .binary
      else if s = ChunkKind.text.str then .ok .text
      else .error (invalid ["Invalid chunk kind."])
  | .list _ => .error ⟨.typeError, ["unhashable type: 'list'"]⟩
  | .dict _ => .error ⟨.typeError, ["unhashable type: 'dict'"]⟩
  | _ => .error (invalid ["Invalid chunk kind."])

/-- A field that must be a string or `None`. -/
def requireOptional (v : Val) (field : String) : Except PyErr (Option Str) :=
  match v with
  | .none => .ok none
  | .str s => .ok (some s)
  | _ => .error (invalid [field, " must be string or null."])

/-- A field that must be a non-empty string. -/
def requireNonEmpty (v : Val) (field : String) : Except PyErr Str :=
  match v with
  | .str (c :: s) => .ok (c :: s)
  | _ => .error (invalid [field, " must be a non-empty string."])

/-- Validate the header of a chunk against its body. -/
def ofHeader (P : Platform) (header : Dict) (body : Bytes) : Except PyErr UXSPChunk := do
  let field (key : String) : Val := (header.get? key).getD .none
  let expectedLen ← requireNonNegativeInt (field "body_len") "body_len"
  ensure (expectedLen = body.length) (invalid ["Chunk body length mismatch."])
  let kind ← requireKind (field "kind")
  let filename ← requireOptional (field "filename") "filename"
  let contentType ← requireNonEmpty (field "content_type") "content_type"
  let encoding ← requireOptional (field "encoding") "encoding"
  ensure (encoding ≠ some []) (invalid ["encoding must be non-empty when present."])
  let transferId ← requireNonEmpty (field "transfer_id") "transfer_id"
  let chunkIndex ← requireNonNegativeInt (field "chunk_index") "chunk_index"
  let totalChunks ← requireNonNegativeInt (field "total_chunks") "total_chunks"
  ensure (totalChunks ≠ 0) (invalid ["total_chunks must be a positive int."])
  ensure (chunkIndex < totalChunks) (P.err .chunkValidationError ["chunk_index (",
    .int chunkIndex, ") cannot be >= total_chunks (", .int totalChunks, ")."])
  let fileHash ← validateSha256Hex (field "file_hash_sha256") "file_hash_sha256"
  let chunkHash ← validateSha256Hex (field "chunk_hash_sha256") "chunk_hash_sha256"
  ensure (sha256Hex P body = chunkHash)
    (invalid ["Chunk body hash mismatch (possible corruption)."])
  postInit {
    transferId := transferId
    chunkIndex := chunkIndex
    totalChunks := totalChunks
    fileHash := fileHash
    chunkHash := chunkHash
    kind := kind
    body := body
    filename := filename
    contentType := contentType
    encoding := encoding }

/-- Deserialise and validate a chunk. -/
def fromBytes (P : Platform) (raw : Bytes) : Except PyErr UXSPChunk := do
  let (text, body) ← unframe raw
  let header ← parseHeader P.toRuntime text
  ofHeader P header body

end UXSPChunk

/-- What all chunks of a transfer have in common. -/
structure TransferMeta where
  kind : ChunkKind
  filename : Option Str
  contentType : Str
  encoding : Option Str

/-- The arguments `create_chunked_transfer` has by default. -/
def TransferMeta.default : TransferMeta := ⟨.binary, none, "application/octet-stream", none⟩

/-- `uuid.uuid4().hex`. -/
def Uuid4.hex (u : Uuid4) : Str := u.digits.map Str.hexDigit

/-- The bodies of the chunks; an empty payload has one empty chunk. -/
def rawChunks (data : Bytes) (chunkSize : ℕ) : List Bytes :=
  if data = [] then [[]] else Slices.slices chunkSize data

/-- The chunk of a transfer at a position. -/
def transferChunk (P : Platform) (data : Bytes) (total : ℕ) (shared : TransferMeta)
    (transferId : Uuid4) (index : ℕ) (body : Bytes) : UXSPChunk where
  transferId := transferId.hex
  chunkIndex := index
  totalChunks := total
  fileHash := sha256Hex P data
  chunkHash := sha256Hex P body
  kind := shared.kind
  body := body
  filename := shared.filename
  contentType := shared.contentType
  encoding := shared.encoding

/-- The chunks of a transfer, in order. -/
def transferChunks (P : Platform) (data : Bytes) (chunkSize : ℕ) (shared : TransferMeta)
    (transferId : Uuid4) : List UXSPChunk :=
  let bodies := rawChunks data chunkSize
  bodies.mapIdx (transferChunk P data bodies.length shared transferId)

/-- Split data into serialised chunks. -/
def createChunkedTransfer (P : Platform) (data : Bytes) (chunkSize : ℤ) (shared : TransferMeta)
    (transferId : Uuid4) : Except PyErr (List Bytes) := do
  ensure (0 < chunkSize) (invalid ["chunk_size must be positive."])
  (transferChunks P data chunkSize.toNat shared transferId).mapM fun c => do
    (← c.postInit).toBytes P.toRuntime

/-- `c` belongs to the same transfer as the first chunk. -/
def sameTransfer (first c : UXSPChunk) : Except PyErr Unit := do
  ensure (c.transferId = first.transferId) (invalid ["transfer_id mismatch across chunks."])
  ensure (c.totalChunks = first.totalChunks) (invalid ["total_chunks mismatch across chunks."])
  ensure (c.fileHash = first.fileHash) (invalid ["file_hash_sha256 mismatch across chunks."])
  ensure (c.kind = first.kind ∧ c.contentType = first.contentType ∧ c.filename = first.filename ∧
    c.encoding = first.encoding) (invalid ["Chunk metadata mismatch across chunks."])

/-- The metadata a reassembled transfer returns. -/
def metaDict (first : UXSPChunk) : Dict :=
  [("transfer_id", .str first.transferId), ("total_chunks", .int first.totalChunks),
    ("kind", .str first.kind.str), ("filename", UXSPChunk.optional first.filename),
    ("content_type", .str first.contentType), ("encoding", UXSPChunk.optional first.encoding),
    ("file_hash_sha256", .str first.fileHash)]

def byIndex (a b : UXSPChunk) : Prop := a.chunkIndex ≤ b.chunkIndex

instance : DecidableRel byIndex := fun a b => Nat.decLe a.chunkIndex b.chunkIndex

instance : Std.Total byIndex := ⟨fun a b => Nat.le_total a.chunkIndex b.chunkIndex⟩

instance : IsTrans UXSPChunk byIndex := ⟨fun _ _ _ => Nat.le_trans⟩

/-- The bodies in the order of their indices. -/
def assembled (decoded : List UXSPChunk) : Bytes :=
  ((decoded.insertionSort byIndex).map UXSPChunk.body).flatten

/-- Reassemble decoded chunks, the first of which is given apart. -/
def reassembleDecoded (P : Platform) (first : UXSPChunk) (rest : List UXSPChunk) :
    Except PyErr (Dict × Bytes) := do
  rest.forM (sameTransfer first)
  let decoded := first :: rest
  ensure ((decoded.map UXSPChunk.chunkIndex).dedup.length = decoded.length)
    (invalid ["Duplicate chunk_index detected."])
  ensure (decoded.length = first.totalChunks) (P.err .chunkValidationError
    ["Chunk count mismatch: expected ", .int first.totalChunks, ", got ", .int decoded.length, "."])
  ensure (sha256Hex P (assembled decoded) = first.fileHash)
    (invalid ["Reassembled file hash mismatch (corruption)."])
  return (metaDict first, assembled decoded)

/-- Verify and reassemble a chunked transfer. -/
def reassembleChunkedTransfer (P : Platform) (packedChunks : List Bytes) :
    Except PyErr (Dict × Bytes) := do
  match ← packedChunks.mapM (UXSPChunk.fromBytes P) with
  | [] => .error (invalid ["No chunks provided."])
  | first :: rest => reassembleDecoded P first rest

/-! ## A packed chunk is read back -/

theorem hexDigit_not_upper (d : Fin 16) :
    ¬ (65 ≤ (Str.hexDigit d).val ∧ (Str.hexDigit d).val ≤ 90) := by
  decide +revert

theorem mem_hex {b : Bytes} {c : CodePoint} (mem : c ∈ b.hex) : ∃ d, c = Str.hexDigit d := by
  rw [Bytes.hex, List.mem_flatMap] at mem
  rcases mem with ⟨x, _, here⟩
  simp only [List.mem_cons, List.not_mem_nil, or_false] at here
  rcases here with rfl | rfl
  · exact ⟨_, rfl⟩
  · exact ⟨_, rfl⟩

theorem lowerAscii_hex (b : Bytes) : lowerAscii b.hex = b.hex := by
  refine (List.map_congr_left fun c mem => ?_).trans (List.map_id _)
  rcases mem_hex mem with ⟨d, rfl⟩
  exact dif_neg (hexDigit_not_upper d)

/-- A printed digest is accepted as it is. -/
theorem validateSha256Hex_hex {digest : Bytes} (size : digest.length = 32) (field : String) :
    validateSha256Hex (.str digest.hex) field = .ok digest.hex := by
  have long : digest.hex.length = 64 := by rw [Bytes.length_hex, size]
  have hex : (Str.fromHex digest.hex).isSome = true := by rw [Str.fromHex_hex]; rfl
  simp only [validateSha256Hex, bind_eq_ok, ensure_eq_ok, pure_eq_ok, decide_eq_true_eq]
  exact ⟨(), long, (), hex, lowerAscii_hex digest⟩

theorem validateSha256Hex_sha256 (P : Platform) (data : Bytes) (field : String) :
    validateSha256Hex (.str (sha256Hex P data)) field = .ok (sha256Hex P data) :=
  validateSha256Hex_hex (P.sha256_length data) field

@[simp] theorem requireKind_str (kind : ChunkKind) :
    UXSPChunk.requireKind (.str kind.str) = .ok kind := by
  cases kind <;> rfl

@[simp] theorem requireOptional_optional (s : Option Str) (field : String) :
    UXSPChunk.requireOptional (UXSPChunk.optional s) field = .ok s := by
  cases s <;> rfl

theorem requireNonEmpty_str {s : Str} (nonempty : s ≠ []) (field : String) :
    UXSPChunk.requireNonEmpty (.str s) field = .ok s := by
  cases s with
  | nil => exact absurd rfl nonempty
  | cons c s => rfl

@[simp] theorem requireNonNegativeInt_nat (n : ℕ) (field : String) :
    requireNonNegativeInt (.int n) field = .ok n := by
  rw [requireNonNegativeInt, if_pos (Int.natCast_nonneg n), Int.toNat_natCast]

namespace UXSPChunk

variable {P : Platform} {c : UXSPChunk}

/-- What `from_bytes` checks about a chunk, and that JSON carries its header. -/
structure Sound (P : Platform) (c : UXSPChunk) : Prop where
  transferId : c.transferId ≠ []
  index : c.chunkIndex < c.totalChunks
  fileHash : ∀ field, validateSha256Hex (.str c.fileHash) field = .ok c.fileHash
  chunkHash : c.chunkHash = sha256Hex P c.body
  contentType : c.contentType ≠ []
  encoding : c.encoding ≠ some []
  plain : Dict.plainItems c.header = true

theorem Sound.postInit (sound : c.Sound P) : c.postInit = .ok c := by
  have chunkHash : validateSha256Hex (.str c.chunkHash) "chunk_hash_sha256" = .ok c.chunkHash := by
    rw [sound.chunkHash]
    exact validateSha256Hex_sha256 P c.body _
  simp only [UXSPChunk.postInit, bind_eq_ok, pure_eq_ok]
  exact ⟨_, sound.fileHash _, _, chunkHash, rfl⟩

theorem header_wellKeyed (c : UXSPChunk) : Dict.wellKeyed c.header = true :=
  @Dict.wellKeyed_of_keys _ ["transfer_id", "chunk_index", "total_chunks",
    "file_hash_sha256", "chunk_hash_sha256", "kind", "filename", "content_type", "encoding",
    "body_len"] rfl (by decide)

/-- A header that kept the members of a chunk's header describes the chunk. -/
theorem Sound.ofHeader (sound : c.Sound P) {header : Dict} (keeps : c.header.Keeps header) :
    UXSPChunk.ofHeader P header c.body = .ok c := by
  have field : ∀ {key : Str} {v : Val}, c.header.get? key = some v → header.get? key = some v :=
    fun found => keeps.get? sound.plain found
  have transferId : header.get? "transfer_id" = some (.str c.transferId) :=
    field (by simp [UXSPChunk.header])
  have chunkIndex : header.get? "chunk_index" = some (.int c.chunkIndex) :=
    field (by simp [UXSPChunk.header])
  have totalChunks : header.get? "total_chunks" = some (.int c.totalChunks) :=
    field (by simp [UXSPChunk.header])
  have fileHash : header.get? "file_hash_sha256" = some (.str c.fileHash) :=
    field (by simp [UXSPChunk.header])
  have chunkHash : header.get? "chunk_hash_sha256" = some (.str c.chunkHash) :=
    field (by simp [UXSPChunk.header])
  have kind : header.get? "kind" = some (.str c.kind.str) :=
    field (by simp [UXSPChunk.header])
  have filename : header.get? "filename" = some (optional c.filename) :=
    field (by simp [UXSPChunk.header])
  have contentType : header.get? "content_type" = some (.str c.contentType) :=
    field (by simp [UXSPChunk.header])
  have encoding : header.get? "encoding" = some (optional c.encoding) :=
    field (by simp [UXSPChunk.header])
  have bodyLen : header.get? "body_len" = some (.int c.body.length) :=
    field (by simp [UXSPChunk.header])
  have positive : c.totalChunks ≠ 0 := by
    have := sound.index
    omega
  have digest := validateSha256Hex_sha256 P c.body "chunk_hash_sha256"
  simp only [UXSPChunk.ofHeader, transferId, chunkIndex, totalChunks, fileHash, chunkHash, kind,
    filename, contentType, encoding, bodyLen, Option.getD_some, requireNonNegativeInt_nat,
    requireKind_str, requireOptional_optional, requireNonEmpty_str sound.contentType,
    requireNonEmpty_str sound.transferId, sound.fileHash, sound.chunkHash, digest, bind_eq_ok,
    ensure_eq_ok, Except.ok.injEq, exists_eq_left', decide_eq_true_eq]
  refine ⟨(), trivial, (), sound.encoding, (), positive, (), sound.index, (), trivial, ?_⟩
  rw [← sound.chunkHash]
  exact sound.postInit

/-- The length field in front of a header is read back. -/
theorem unpackLength_packLength {n : ℕ} (fits : n < 256 ^ 4) :
    unpackLength (packLength n) = n := by
  have digits : (packLength n).map UInt8.toNat = LengthPrefix.bigEndian 256 4 n := by
    simp [packLength, LengthPrefix.bigEndian, List.map_map]
  rw [unpackLength, digits, LengthPrefix.ofBigEndian_bigEndian fits]

theorem length_packLength (n : ℕ) : (packLength n).length = HEADER_LEN_BYTES := by
  simp [packLength, HEADER_LEN_BYTES]

theorem unframe_frame {text body : Bytes} (short : text.length ≤ MAX_HEADER_LEN) :
    unframe (MAGIC ++ packLength text.length ++ text ++ body) = .ok (text, body) := by
  have width := length_packLength text.length
  have length := unpackLength_packLength (short.trans_lt (by norm_num [MAX_HEADER_LEN]))
  simp only [unframe, List.append_assoc, List.drop_left, List.take_left, List.length_append,
    bind_eq_ok, ensure_eq_ok, pure_eq_ok, decide_eq_true_eq, Prod.mk.injEq, width]
  rw [List.take_left' width, List.drop_left' width, length]
  refine ⟨(), ?_, (), trivial, (), short, (), ?_, List.take_left, List.drop_left⟩
  · omega
  · rw [List.length_append]
    omega

/-- What `to_bytes` packs, `from_bytes` unpacks. -/
theorem Sound.fromBytes_toBytes (json : P.JsonCorrect) (sound : c.Sound P) {raw : Bytes}
    (packed : c.toBytes P.toRuntime = .ok raw) : fromBytes P raw = .ok c := by
  simp only [toBytes, bind_eq_ok, ensure_eq_ok, pure_eq_ok, decide_eq_true_eq] at packed
  rcases packed with ⟨text, written, _, short, rfl⟩
  rcases json.compact c.header_wellKeyed written with ⟨header, read, keeps⟩
  simp only [fromBytes, bind_eq_ok]
  refine ⟨_, unframe_frame short, header, ?_, sound.ofHeader keeps⟩
  simp only [parseHeader, read]
  rfl

end UXSPChunk

/-! ## The chunks of a transfer -/

/-- Metadata that a chunk may carry and JSON keeps. -/
structure TransferMeta.Sound (shared : TransferMeta) : Prop where
  contentType : shared.contentType ≠ []
  encoding : shared.encoding ≠ some []
  plain : ∀ s ∈ [some shared.contentType, shared.filename, shared.encoding].reduceOption,
    s.encode.isSome = true

theorem TransferMeta.default_sound : TransferMeta.default.Sound where
  contentType := by decide
  encoding := nofun
  plain := by
    intro s mem
    rw [List.mem_singleton.mp mem]
    exact congrArg Option.isSome (Str.encode_ofString "application/octet-stream")

theorem hexDigits_encode (ds : List (Fin 16)) :
    (Str.encode (ds.map Str.hexDigit)).isSome = true := by
  have ascii : ∀ c ∈ ds.map Str.hexDigit, c.val < 128 := by
    intro c mem
    rcases List.mem_map.mp mem with ⟨d, _, rfl⟩
    exact Uuid4.hexDigit_ascii d
  rcases Str.exists_encode ascii with ⟨b, encoded⟩
  rw [encoded]
  rfl

theorem hex_encode (b : Bytes) : (Str.encode b.hex).isSome = true := by
  have ascii : ∀ c ∈ b.hex, c.val < 128 := by
    intro c mem
    rcases mem_hex mem with ⟨d, rfl⟩
    exact Uuid4.hexDigit_ascii d
  rcases Str.exists_encode ascii with ⟨b, encoded⟩
  rw [encoded]
  rfl

theorem optional_plain {s : Option Str} (plain : ∀ t, s = some t → t.encode.isSome = true) :
    (UXSPChunk.optional s).plain = true := by
  cases s with
  | none => rfl
  | some t => exact plain t rfl

variable {P : Platform} {data : Bytes} {size : ℕ} {shared : TransferMeta} {id : Uuid4}
  {c : UXSPChunk}

theorem transferChunk_sound (sound : shared.Sound) {total index : ℕ} (less : index < total)
    (body : Bytes) : (transferChunk P data total shared id index body).Sound P where
  transferId := by
    intro none
    have size := congrArg List.length none
    rw [transferChunk, Uuid4.hex, List.length_map, id.length_eq] at size
    cases size
  index := less
  fileHash := validateSha256Hex_sha256 P data
  chunkHash := rfl
  contentType := sound.contentType
  encoding := sound.encoding
  plain := by
    have kind : shared.kind.str.encode.isSome = true := by
      cases shared.kind <;> exact congrArg Option.isSome (Str.encode_ofString _)
    have filename : (UXSPChunk.optional shared.filename).plain = true :=
      optional_plain fun t same => sound.plain t (by simp [List.reduceOption, same])
    have encoding : (UXSPChunk.optional shared.encoding).plain = true :=
      optional_plain fun t same => sound.plain t (by simp [List.reduceOption, same])
    have contentType : shared.contentType.encode.isSome = true :=
      sound.plain _ (by simp [List.reduceOption])
    simp only [transferChunk, UXSPChunk.header, Dict.plainItems, Val.plain, Uuid4.hex,
      hexDigits_encode, sha256Hex, hex_encode, kind, filename, encoding, contentType,
      Bool.and_self]

theorem length_transferChunks :
    (transferChunks P data size shared id).length = (rawChunks data size).length :=
  List.length_mapIdx

theorem getElem_transferChunks {k : ℕ} (less : k < (transferChunks P data size shared id).length) :
    ∃ body, (rawChunks data size)[k]? = some body ∧
      (transferChunks P data size shared id)[k] =
        transferChunk P data (rawChunks data size).length shared id k body := by
  have less' : k < (rawChunks data size).length := length_transferChunks ▸ less
  refine ⟨(rawChunks data size)[k], List.getElem?_eq_getElem less', ?_⟩
  simp only [transferChunks, List.getElem_mapIdx]

theorem mem_transferChunks (mem : c ∈ transferChunks P data size shared id) :
    ∃ k body, k < (rawChunks data size).length ∧
      c = transferChunk P data (rawChunks data size).length shared id k body := by
  rcases List.mem_iff_getElem.mp mem with ⟨k, less, rfl⟩
  rcases getElem_transferChunks less with ⟨body, _, same⟩
  exact ⟨k, body, length_transferChunks ▸ less, same⟩

/-- The chunks are numbered in order. -/
theorem map_index_transferChunks :
    (transferChunks P data size shared id).map UXSPChunk.chunkIndex =
      List.range (rawChunks data size).length := by
  refine List.ext_getElem ?_ fun k less less' => ?_
  · rw [List.length_map, length_transferChunks, List.length_range]
  · rw [List.getElem_map, List.getElem_range]
    rw [List.length_map] at less
    rcases getElem_transferChunks less with ⟨body, _, same⟩
    rw [same]
    rfl

theorem map_body_transferChunks :
    (transferChunks P data size shared id).map UXSPChunk.body = rawChunks data size := by
  refine List.ext_getElem ?_ fun k less less' => ?_
  · rw [List.length_map, length_transferChunks]
  · rw [List.getElem_map]
    rw [List.length_map] at less
    rcases getElem_transferChunks less with ⟨body, found, same⟩
    rw [same]
    exact ((List.getElem?_eq_some_iff.mp found).2).symm

theorem flatten_rawChunks (positive : 0 < size) : (rawChunks data size).flatten = data := by
  unfold rawChunks
  split
  · rename_i empty
    rw [empty]
    rfl
  · exact Slices.flatten_slices positive data

theorem rawChunks_ne_nil (positive : 0 < size) : rawChunks data size ≠ [] := by
  unfold rawChunks
  split
  · exact List.cons_ne_nil _ _
  · rename_i nonempty
    intro none
    have few := congrArg List.length none
    rw [Slices.length_slices, List.length_nil] at few
    exact (Slices.count_pos positive (List.length_pos_iff.mpr nonempty)).ne' few

theorem sameTransfer_transferChunks {first : UXSPChunk}
    (memFirst : first ∈ transferChunks P data size shared id)
    (mem : c ∈ transferChunks P data size shared id) : sameTransfer first c = .ok () := by
  rcases mem_transferChunks memFirst with ⟨_, _, _, rfl⟩
  rcases mem_transferChunks mem with ⟨_, _, _, rfl⟩
  simp only [sameTransfer, bind_eq_ok, ensure_eq_ok, transferChunk, decide_true, and_self,
    exists_const]

/-- Sorting puts the chunks back in order. -/
theorem assembled_perm (positive : 0 < size) {decoded : List UXSPChunk}
    (perm : decoded.Perm (transferChunks P data size shared id)) : assembled decoded = data := by
  have sorted : (transferChunks P data size shared id).Pairwise fun a b =>
      a.chunkIndex < b.chunkIndex := by
    rw [← List.pairwise_map, map_index_transferChunks]
    exact List.pairwise_lt_range
  have ordered : decoded.insertionSort byIndex = transferChunks P data size shared id := by
    refine @List.Perm.eq_of_pairwise _ byIndex _ _ ?_ ?_ ?_ ?_
    · intro a b hleft hright ab ba
      have memA := ((List.perm_insertionSort byIndex decoded).trans perm).mem_iff.mp hleft
      have same : a.chunkIndex = b.chunkIndex := Nat.le_antisymm ab ba
      refine List.inj_on_of_nodup_map ?_ memA hright same
      rw [map_index_transferChunks]
      exact List.nodup_range
    · exact List.pairwise_insertionSort byIndex decoded
    · exact sorted.imp fun less => Nat.le_of_lt less
    · exact (List.perm_insertionSort byIndex decoded).trans perm
  rw [assembled, ordered, map_body_transferChunks, flatten_rawChunks positive]

theorem reassembleDecoded_perm (positive : 0 < size) {first : UXSPChunk} {rest : List UXSPChunk}
    (perm : (first :: rest).Perm (transferChunks P data size shared id)) :
    reassembleDecoded P first rest = .ok (metaDict first, data) := by
  have memFirst := perm.mem_iff.mp List.mem_cons_self
  have others : rest.forM (sameTransfer first) = .ok () :=
    forM_eq_ok.mpr fun c mem =>
      sameTransfer_transferChunks memFirst (perm.mem_iff.mp (List.mem_cons_of_mem _ mem))
  have indices : ((first :: rest).map UXSPChunk.chunkIndex).Nodup := by
    rw [(perm.map UXSPChunk.chunkIndex).nodup_iff, map_index_transferChunks]
    exact List.nodup_range
  have total : (first :: rest).length = first.totalChunks := by
    rw [perm.length_eq, length_transferChunks]
    rcases mem_transferChunks memFirst with ⟨_, _, _, rfl⟩
    rfl
  have digest : sha256Hex P data = first.fileHash := by
    rcases mem_transferChunks memFirst with ⟨_, _, _, rfl⟩
    rfl
  simp only [reassembleDecoded, bind_eq_ok, ensure_eq_ok, pure_eq_ok, decide_eq_true_eq]
  refine ⟨(), others, (), ?_, (), total, (), ?_, ?_⟩
  · rw [indices.dedup, List.length_map]
  · rw [assembled_perm positive perm, digest]
  · rw [assembled_perm positive perm]

/-- A transfer that was made has a positive chunk size and one packed chunk a chunk. -/
theorem createChunkedTransfer_facts (sound : shared.Sound) {chunkSize : ℤ} {packed : List Bytes}
    (created : createChunkedTransfer P data chunkSize shared id = .ok packed) :
    0 < chunkSize.toNat ∧ List.Forall₂ (fun c raw => c.toBytes P.toRuntime = .ok raw)
      (transferChunks P data chunkSize.toNat shared id) packed := by
  simp only [createChunkedTransfer, bind_eq_ok, ensure_eq_ok, mapM_eq_ok,
    decide_eq_true_eq] at created
  rcases created with ⟨_, positive, chunks⟩
  refine ⟨by omega, ?_⟩
  rw [List.forall₂_iff_get] at chunks ⊢
  refine ⟨chunks.1, fun k less less' => ?_⟩
  rcases chunks.2 k less less' with ⟨c, init, bytes⟩
  rcases mem_transferChunks (List.get_mem _ ⟨k, less⟩) with ⟨index, body, small, same⟩
  rw [same] at init ⊢
  rw [(transferChunk_sound sound small body).postInit] at init
  cases init
  exact bytes

theorem decodes_packed (json : P.JsonCorrect) (sound : shared.Sound) {packed : List Bytes}
    (chunks : List.Forall₂ (fun c raw => c.toBytes P.toRuntime = .ok raw)
      (transferChunks P data size shared id) packed) :
    List.Forall₂ (fun raw c => UXSPChunk.fromBytes P raw = .ok c) packed
      (transferChunks P data size shared id) := by
  rw [List.forall₂_iff_get] at chunks ⊢
  refine ⟨chunks.1.symm, fun k less less' => ?_⟩
  have bytes := chunks.2 k less' less
  rcases mem_transferChunks (List.get_mem _ ⟨k, less'⟩) with ⟨index, body, small, same⟩
  rw [same] at bytes ⊢
  exact (transferChunk_sound sound small body).fromBytes_toBytes json bytes

/-- The packed chunks of a transfer, in any order, give back the payload. -/
theorem reassembleChunkedTransfer_perm (json : P.JsonCorrect) (sound : shared.Sound)
    {chunkSize : ℤ} {packed raws : List Bytes}
    (created : createChunkedTransfer P data chunkSize shared id = .ok packed)
    (perm : raws.Perm packed) : ∃ m, reassembleChunkedTransfer P raws = .ok (m, data) := by
  rcases createChunkedTransfer_facts sound created with ⟨positive, chunks⟩
  rcases List.perm_comp_forall₂ perm (decodes_packed json sound chunks) with
    ⟨decoded, decodes, perm⟩
  cases decoded with
  | nil =>
      have none := congrArg List.length (List.nil_perm.mp perm)
      rw [length_transferChunks, List.length_nil] at none
      exact absurd (List.length_eq_zero_iff.mp none) (rawChunks_ne_nil positive)
  | cons first rest =>
      refine ⟨metaDict first, ?_⟩
      rw [reassembleChunkedTransfer, bind_eq_ok]
      exact ⟨_, mapM_eq_ok.mpr decodes, reassembleDecoded_perm positive perm⟩

theorem reassembleDecoded_facts {first : UXSPChunk} {rest : List UXSPChunk} {result : Dict × Bytes}
    (returned : reassembleDecoded P first rest = .ok result) : (first :: rest).Nodup ∧
      (first :: rest).length = first.totalChunks := by
  simp only [reassembleDecoded, bind_eq_ok, ensure_eq_ok, decide_eq_true_eq] at returned
  rcases returned with ⟨_, _, _, distinct, _, total, _⟩
  refine ⟨?_, total⟩
  rw [← List.length_map UXSPChunk.chunkIndex] at distinct
  have same := (List.dedup_sublist _).eq_of_length distinct
  exact List.Nodup.of_map _ (List.dedup_eq_self.mp same)

/-- Out of packed chunks of a transfer nothing but the payload is reassembled, and only out of all
of them. -/
theorem reassembleChunkedTransfer_subset (json : P.JsonCorrect) (sound : shared.Sound)
    {chunkSize : ℤ} {packed raws : List Bytes}
    (created : createChunkedTransfer P data chunkSize shared id = .ok packed)
    (subset : raws ⊆ packed) {m : Dict} {r : Bytes}
    (returned : reassembleChunkedTransfer P raws = .ok (m, r)) :
    r = data ∧ raws.length = packed.length := by
  rcases createChunkedTransfer_facts sound created with ⟨positive, chunks⟩
  have decodes := decodes_packed json sound chunks
  rw [reassembleChunkedTransfer, bind_eq_ok] at returned
  rcases returned with ⟨decoded, mapped, returned⟩
  rw [mapM_eq_ok] at mapped
  -- every decoded chunk is one of the transfer
  have inside : decoded ⊆ transferChunks P data chunkSize.toNat shared id := by
    intro c mem
    rcases List.mem_iff_get.mp mem with ⟨⟨k, less⟩, rfl⟩
    rw [List.forall₂_iff_get] at mapped
    have here := mapped.2 k (mapped.1 ▸ less) less
    rcases List.mem_iff_get.mp (subset (List.get_mem raws ⟨k, mapped.1 ▸ less⟩)) with
      ⟨⟨j, small⟩, same⟩
    have there := (List.forall₂_iff_get.mp decodes).2 j small (decodes.length_eq ▸ small)
    rw [same, here] at there
    rw [Except.ok.inj there]
    exact List.get_mem _ _
  cases decoded with
  | nil => cases returned
  | cons first rest =>
      simp only at returned
      rcases reassembleDecoded_facts returned with ⟨distinct, total⟩
      have all : first.totalChunks = (transferChunks P data chunkSize.toNat shared id).length := by
        rcases mem_transferChunks (inside List.mem_cons_self) with ⟨_, _, _, rfl⟩
        exact length_transferChunks.symm
      have perm := (List.subperm_of_subset distinct inside).perm_of_length_le
        (all.symm.trans total.symm).le
      rw [reassembleDecoded_perm positive perm] at returned
      cases returned
      exact ⟨rfl, (mapped.length_eq.trans (total.trans all)).trans decodes.length_eq.symm⟩

end Uxsp
