import Uxsp.Core.Chunking
import Uxsp.Js.Json

/-!
# `chunking.ts`

A packed chunk is a magic prefix, the length of a JSON header, the header, and the body.  `fromBytes`
takes the members of the header as they are: `reassembleChunkedTransfer` is where they are compared.
Sizes are whole numbers of bytes.

`reassembleChunkedTransfer_perm`: the chunks of a transfer, in any order, give back the payload.
-/

namespace Uxsp

/-! ## Values -/

namespace JsVal

/-- `v === n` for a whole number. -/
def isNat (v : Option JsVal) (n : ℕ) : Bool :=
  match v with
  | some (.number x) => x == .finite n
  | _ => false

/-- `v === w`; two objects are not the same one. -/
def strictEq : Option JsVal → Option JsVal → Bool
  | none, none => true
  | some .null, some .null => true
  | some (.bool a), some (.bool b) => a == b
  | some (.number x), some (.number y) => x == y && x != .nan
  | some (.string s), some (.string t) => s == t
  | _, _ => false

/-- `v || w`. -/
def orElse (v : Option JsVal) (w : JsVal) : JsVal :=
  match v with
  | some v => if v.truthy then v else w
  | none => w

/-- `v[key]` of a value of `JSON.parse` that is not `null`. -/
def member (v : JsVal) (key : String) : Option JsVal :=
  match v with
  | .object fields => JsObject.get? fields key
  | _ => none

/-- The string that `toLowerCase` is called of. -/
def lowered (what : String) : Option JsVal → Except JsErr JsStr
  | some (.string s) => .ok s
  | none => .error ⟨.typeError,
      [.lit "Cannot read properties of undefined (reading 'toLowerCase')"]⟩
  | some .null => .error ⟨.typeError,
      [.lit "Cannot read properties of null (reading 'toLowerCase')"]⟩
  | _ => .error ⟨.typeError, [.lit what, .lit ".toLowerCase is not a function"]⟩

end JsVal

namespace JsChunking

def MAGIC : Bytes := .lit "UXSP-CHUNK-1"

def HEADER_LEN_BYTES : ℕ := 4

def MAX_HEADER_LEN : ℕ := 64 * 1024

def DEFAULT_CHUNK_SIZE : ℤ := 64 * 1024

def formatError (message : List JsPart) : JsErr := ⟨.chunkFormatError, message⟩

def validationError (message : List JsPart) : JsErr := ⟨.chunkValidationError, message⟩

/-- A whole number, as a template prints it. -/
def digits (n : ℕ) : JsPart := .str (JsStr.ofStr (Str.ofInt n))

/-- `sha256Hex(data)`. -/
def sha256Hex (J : JsPlatform) (data : Bytes) : JsStr := JsStr.ofBytes (J.sha256 data)

end JsChunking

open JsChunking

/-! ## `UXSPChunk` -/

/-- One chunk; what a header does not have is `undefined`. -/
structure JsUXSPChunk where
  transferId : Option JsVal
  chunkIndex : Option JsVal
  totalChunks : Option JsVal
  fileHashSha256 : JsStr
  chunkHashSha256 : JsStr
  kind : Option JsVal
  body : Bytes
  filename : JsVal
  contentType : JsVal
  encoding : JsVal

/-- `ChunkOptions`. -/
structure JsChunkOptions where
  filename : Option JsVal
  contentType : Option JsVal
  encoding : Option JsVal

namespace JsUXSPChunk

/-- The constructor, on digests that are strings. -/
def new (R : JsRuntime) (transferId chunkIndex totalChunks : Option JsVal)
    (fileHashSha256 chunkHashSha256 : JsStr) (kind : Option JsVal) (body : Bytes)
    (options : JsChunkOptions) : JsUXSPChunk where
  transferId := transferId
  chunkIndex := chunkIndex
  totalChunks := totalChunks
  fileHashSha256 := R.toLowerCase fileHashSha256
  chunkHashSha256 := R.toLowerCase chunkHashSha256
  kind := kind
  body := body
  filename := JsVal.orElse options.filename .null
  contentType := JsVal.orElse options.contentType (.string "application/octet-stream")
  encoding := JsVal.orElse options.encoding .null

/-- The object that `toBytes` writes; `JSON.stringify` leaves out what is `undefined`. -/
def header (c : JsUXSPChunk) : JsObject :=
  ([("transfer_id", c.transferId), ("chunk_index", c.chunkIndex),
    ("total_chunks", c.totalChunks), ("file_hash_sha256", some (.string c.fileHashSha256)),
    ("chunk_hash_sha256", some (.string c.chunkHashSha256)), ("kind", c.kind),
    ("filename", some c.filename), ("content_type", some c.contentType),
    ("encoding", some c.encoding), ("body_len", some (.number (.finite c.body.length)))] :
      List (JsStr × Option JsVal)).filterMap fun (key, v) => v.map fun v => (key, v)

def toBytes (R : JsRuntime) (c : JsUXSPChunk) : Except JsErr Bytes := do
  let headerRaw := JsStr.utf8 (R.jsonStringify (.object c.header))
  jsEnsure (headerRaw.length ≤ MAX_HEADER_LEN) (validationError
    [.lit "Chunk header exceeds maximum size (", digits MAX_HEADER_LEN, .lit " bytes)."])
  return MAGIC ++ packLength headerRaw.length ++ headerRaw ++ c.body

/-- The header text and the body of a packed chunk. -/
def unframe (raw : Bytes) : Except JsErr (Bytes × Bytes) := do
  jsEnsure (MAGIC.length + HEADER_LEN_BYTES ≤ raw.length)
    (formatError [.lit "Packed chunk is too short."])
  jsEnsure (raw.take MAGIC.length = MAGIC) (formatError [.lit "Invalid chunk magic header."])
  let rest := raw.drop MAGIC.length
  let headerLen := UXSPChunk.unpackLength (rest.take HEADER_LEN_BYTES)
  let rest := rest.drop HEADER_LEN_BYTES
  jsEnsure (headerLen ≤ rest.length)
    (formatError [.lit "Chunk header length exceeds total buffer size."])
  return (rest.take headerLen, rest.drop headerLen)

/-- `JSON.parse(decodeUTF8(headerRaw))`, and the first use of the header. -/
def parseHeader (R : JsRuntime) (headerRaw : Bytes) : Except JsErr JsVal :=
  match R.jsonParse (R.decodeUtf8 headerRaw) with
  | .error e => .error (formatError (.lit "Corrupted chunk header JSON: " :: e.message))
  | .ok .null => .error ⟨.typeError,
      [.lit "Cannot read properties of null (reading 'body_len')"]⟩
  | .ok header => .ok header

/-- The error of a body that has not the length declared. -/
def lengthMismatch (R : JsRuntime) (declared : Option JsVal) (actual : ℕ) : JsErr :=
  let mismatch (s : JsStr) : JsErr := validationError
    [.lit "Body length mismatch: declared ", .str s, .lit ", actual ", digits actual]
  match declared with
  | none => mismatch "undefined"
  | some v =>
      match R.str v with
      | .ok s => mismatch s
      | .error e => e

/-- The chunk that a header describes, once its body is checked. -/
def ofHeader (J : JsPlatform) (header : JsVal) (body : Bytes) : Except JsErr JsUXSPChunk := do
  jsEnsure (JsVal.isNat (header.member "body_len") body.length)
    (lengthMismatch J.toJsRuntime (header.member "body_len") body.length)
  let chunkHash ← JsVal.lowered "header.chunk_hash_sha256" (header.member "chunk_hash_sha256")
  jsEnsure (J.toLowerCase (sha256Hex J body) = J.toLowerCase chunkHash) (validationError
    [.lit "Chunk body SHA-256 hash mismatch: chunk corrupted or tampered."])
  let fileHash ← JsVal.lowered "fileHashSha256" (header.member "file_hash_sha256")
  return new J.toJsRuntime (header.member "transfer_id") (header.member "chunk_index")
    (header.member "total_chunks") fileHash chunkHash (header.member "kind") body
    ⟨header.member "filename", header.member "content_type", header.member "encoding"⟩

def fromBytes (J : JsPlatform) (raw : Bytes) : Except JsErr JsUXSPChunk := do
  let (headerRaw, body) ← unframe raw
  ofHeader J (← parseHeader J.toJsRuntime headerRaw) body

end JsUXSPChunk

/-! ## `createChunkedTransfer` -/

/-- `ChunkTransferOptions`. -/
structure JsTransferOptions where
  chunkSize : Option ℤ
  kind : Option ChunkKind
  transferId : Option JsStr
  toJsChunkOptions : JsChunkOptions

/-- What the chunks of one call are made of. -/
structure JsTransfer where
  data : Bytes
  chunkSize : ℕ
  transferId : JsStr
  kind : ChunkKind
  options : JsChunkOptions

namespace JsTransfer

variable (J : JsPlatform) (t : JsTransfer)

/-- `data.subarray(start, end)` for the chunk at a position. -/
def slice (i : ℕ) : Bytes := (t.data.drop (i * t.chunkSize)).take t.chunkSize

/-- `Math.max(1, Math.ceil(totalLen / chunkSize))`. -/
def totalChunks : ℕ := max 1 (Slices.count t.chunkSize t.data.length)

/-- The chunk at a position. -/
def chunk (i : ℕ) : JsUXSPChunk :=
  .new J.toJsRuntime (some (.string t.transferId)) (some (.number (.finite i)))
    (some (.number (.finite t.totalChunks))) (sha256Hex J t.data) (sha256Hex J (t.slice i))
    (some (.string (JsStr.ofStr t.kind.str))) (t.slice i) t.options

def chunks : List JsUXSPChunk := (List.range t.totalChunks).map (t.chunk J)

end JsTransfer

/-- `options?.transferId || crypto.randomUUID()`. -/
def JsTransferOptions.id (options : JsTransferOptions) (uuid : Uuid4) : JsStr :=
  match options.transferId with
  | some (u :: s) => u :: s
  | _ => JsStr.ofStr uuid.str

def jsCreateChunkedTransfer (J : JsPlatform) (data : Bytes) (options : JsTransferOptions)
    (uuid : Uuid4) : Except JsErr (List JsUXSPChunk) := do
  let chunkSize := options.chunkSize.getD DEFAULT_CHUNK_SIZE
  jsEnsure (0 < chunkSize) (validationError [.lit "chunkSize must be positive"])
  return JsTransfer.chunks J ⟨data, chunkSize.toNat, options.id uuid, options.kind.getD .binary,
    options.toJsChunkOptions⟩

/-! ## `reassembleChunkedTransfer` -/

/-- An index as the subtraction of the comparator reads it. -/
def JsUXSPChunk.sortKey (R : JsRuntime) (c : JsUXSPChunk) : PyFloat :=
  match c.chunkIndex with
  | some v => (R.num v).toOption.getD .nan
  | none => .nan

/-- The difference of two indices is not positive.  An index that is no number is found in the loop
over the sorted chunks, wherever the sort puts it. -/
def JsUXSPChunk.byIndex (R : JsRuntime) (a b : JsUXSPChunk) : Prop :=
  ¬ (b.sortKey R).lt (a.sortKey R) = true

instance (R : JsRuntime) : DecidableRel (JsUXSPChunk.byIndex R) :=
  fun _ _ => inferInstanceAs (Decidable (¬ _ = true))

/-- What the loop asks of the chunk at a position.  In a transfer of one chunk it is `first`, and
its identifier is the same whatever it is. -/
def checkChunk (first : JsUXSPChunk) (alone : Bool) (i : ℕ) (c : JsUXSPChunk) :
    Except JsErr Unit := do
  jsEnsure (alone || JsVal.strictEq c.transferId first.transferId)
    (validationError [.lit "Chunk transfer_id mismatch within transfer."])
  jsEnsure (JsVal.isNat c.chunkIndex i)
    (validationError [.lit "Missing chunk index ", digits i, .lit "."])
  jsEnsure (c.fileHashSha256 = first.fileHashSha256)
    (validationError [.lit "file_hash_sha256 mismatch between chunks."])

/-- The loop over the sorted chunks. -/
def checkChunks (first : JsUXSPChunk) (alone : Bool) : ℕ → List JsUXSPChunk → Except JsErr Unit
  | _, [] => .ok ()
  | i, c :: cs => do
      checkChunk first alone i c
      checkChunks first alone (i + 1) cs

/-- The error of a transfer that has not as many chunks as it declares. -/
def incompleteTransfer (R : JsRuntime) (declared : Option JsVal) (actual : ℕ) : JsErr :=
  let incomplete (s : JsStr) : JsErr := validationError
    [.lit "Incomplete transfer: expected ", .str s, .lit " chunks, got ", digits actual]
  match declared with
  | none => incomplete "undefined"
  | some v =>
      match R.str v with
      | .ok s => incomplete s
      | .error e => e

def jsReassembleChunkedTransfer (J : JsPlatform) (chunks : List JsUXSPChunk) :
    Except JsErr Bytes :=
  match chunks with
  | [] => .error (validationError [.lit "Cannot reassemble empty chunk array."])
  | first :: _ => do
      jsEnsure (JsVal.isNat first.totalChunks chunks.length)
        (incompleteTransfer J.toJsRuntime first.totalChunks chunks.length)
      let sorted := chunks.insertionSort (JsUXSPChunk.byIndex J.toJsRuntime)
      checkChunks first (chunks.length = 1) 0 sorted
      let reassembled := (sorted.map JsUXSPChunk.body).flatten
      jsEnsure (J.toLowerCase (sha256Hex J reassembled) = J.toLowerCase first.fileHashSha256)
        (validationError
          [.lit "Reassembled file SHA-256 digest mismatch. File corrupted."])
      return reassembled

/-! ## Calls that return -/

theorem js_mapM_eq_ok {α β : Type} {f : α → Except JsErr β} {xs : List α} {ys : List β} :
    xs.mapM f = .ok ys ↔ List.Forall₂ (fun x y => f x = .ok y) xs ys := by
  induction xs generalizing ys with
  | nil =>
      rw [List.mapM_nil, js_pure_eq_ok, List.forall₂_nil_left_iff]
      exact eq_comm
  | cons x xs ih =>
      simp only [List.mapM_cons, js_bind_eq_ok, js_pure_eq_ok, ih, List.forall₂_cons_left_iff]
      constructor
      · rintro ⟨y, here, ys, rest, rfl⟩
        exact ⟨y, ys, here, rest, rfl⟩
      · rintro ⟨y, ys, here, rest, rfl⟩
        exact ⟨y, here, ys, rest, rfl⟩

theorem checkChunks_eq_ok {first : JsUXSPChunk} {alone : Bool} {i : ℕ} {cs : List JsUXSPChunk} :
    checkChunks first alone i cs = .ok () ↔
      ∀ k (less : k < cs.length), checkChunk first alone (i + k) cs[k] = .ok () := by
  induction cs generalizing i with
  | nil => exact ⟨fun _ _ less => absurd less (Nat.not_lt_zero _), fun _ => rfl⟩
  | cons c cs ih =>
      simp only [checkChunks, js_bind_eq_ok, ih]
      constructor
      · rintro ⟨_, here, rest⟩ k less
        cases k with
        | zero => exact here
        | succ k =>
            rw [← Nat.add_assoc, Nat.add_right_comm]
            exact rest k (Nat.lt_of_succ_lt_succ less)
      · intro all
        refine ⟨(), all 0 (Nat.zero_lt_succ _), fun k less => ?_⟩
        rw [Nat.add_right_comm, Nat.add_assoc]
        exact all (k + 1) (Nat.succ_lt_succ less)

/-! ## A packed chunk is read back -/

/-- `toLowerCase` leaves ASCII without capital letters as it is. -/
structure JsRuntime.LowerCorrect (R : JsRuntime) : Prop where
  keeps : ∀ {s : JsStr}, (∀ u ∈ s, u.toNat < 128 ∧ ¬ (65 ≤ u.toNat ∧ u.toNat ≤ 90)) →
    R.toLowerCase s = s

theorem JsRuntime.textual_lower : JsRuntime.textual.LowerCorrect where
  keeps := by
    intro s small
    refine (List.map_congr_left fun u mem => ?_).trans (List.map_id s)
    refine if_neg fun capital => (small u mem).2 ?_
    rw [Bool.and_eq_true, decide_eq_true_eq, decide_eq_true_eq] at capital
    exact ⟨capital.1, capital.2⟩

theorem hexUnit_range : ∀ d : Fin 16, 48 ≤ (JsStr.hexUnit d.val).toNat ∧
    (JsStr.hexUnit d.val).toNat ≤ 102 ∧
      ¬ (65 ≤ (JsStr.hexUnit d.val).toNat ∧ (JsStr.hexUnit d.val).toNat ≤ 90) := by
  decide

theorem mem_ofBytes {b : Bytes} {u : UInt16} (mem : u ∈ JsStr.ofBytes b) :
    48 ≤ u.toNat ∧ u.toNat ≤ 102 ∧ ¬ (65 ≤ u.toNat ∧ u.toNat ≤ 90) := by
  obtain ⟨x, _, here⟩ := List.mem_flatMap.mp mem
  have := x.toNat_lt
  simp only [List.mem_cons, List.not_mem_nil, or_false] at here
  rcases here with rfl | rfl
  · exact hexUnit_range ⟨x.toNat / 16, by omega⟩
  · exact hexUnit_range ⟨x.toNat % 16, by omega⟩

theorem printable_ofBytes (b : Bytes) : (JsStr.ofBytes b).Printable := by
  intro u mem
  have := mem_ofBytes mem
  omega

variable {J : JsPlatform} {t : JsTransfer} {i : ℕ}

theorem lower_sha256Hex (lower : J.LowerCorrect) (data : Bytes) :
    J.toLowerCase (sha256Hex J data) = sha256Hex J data := by
  refine lower.keeps fun u mem => ?_
  have := mem_ofBytes mem
  omega

/-- A transfer that JSON can carry: its sizes are exact as floats, and its strings are ASCII. -/
structure JsTransfer.Sound (t : JsTransfer) : Prop where
  positive : 0 < t.chunkSize
  small : t.data.length < 2 ^ 53
  transferId : t.transferId.Printable
  filename : (JsVal.orElse t.options.filename .null).Flat
  contentType : (JsVal.orElse t.options.contentType (.string "application/octet-stream")).Flat
  encoding : (JsVal.orElse t.options.encoding .null).Flat

namespace JsTransfer

theorem totalChunks_pos (t : JsTransfer) : 0 < t.totalChunks :=
  Nat.lt_of_lt_of_le Nat.one_pos (le_max_left _ _)

theorem Sound.total (sound : t.Sound) : t.totalChunks < 2 ^ 53 := by
  refine max_lt (by norm_num) ((Slices.count_le sound.positive).trans_lt sound.small)

theorem length_slice_le (t : JsTransfer) (i : ℕ) : (t.slice i).length ≤ t.data.length := by
  rw [slice, List.length_take, List.length_drop]
  omega

end JsTransfer

namespace JsUXSPChunk

theorem unframe_frame {text body : Bytes} (short : text.length ≤ MAX_HEADER_LEN) :
    unframe (MAGIC ++ packLength text.length ++ text ++ body) = .ok (text, body) := by
  have width : (packLength text.length).length = HEADER_LEN_BYTES :=
    UXSPChunk.length_packLength text.length
  have length := UXSPChunk.unpackLength_packLength
    (short.trans_lt (show MAX_HEADER_LEN < 256 ^ 4 by norm_num [MAX_HEADER_LEN]))
  simp only [unframe, List.append_assoc, List.drop_left, List.take_left, List.length_append,
    js_bind_eq_ok, jsEnsure_eq_ok, js_pure_eq_ok, decide_eq_true_eq, Prod.mk.injEq, width]
  rw [List.take_left' width, List.drop_left' width, length]
  refine ⟨(), ?_, (), trivial, (), ?_, List.take_left, List.drop_left⟩
  · omega
  · rw [List.length_append]
    omega

theorem orElse_orElse (v : Option JsVal) (w : JsVal) :
    JsVal.orElse (some (JsVal.orElse v w)) w = JsVal.orElse v w := by
  cases v with
  | none => exact ite_self w
  | some v =>
      by_cases truthy : v.truthy = true
      · have chosen : JsVal.orElse (some v) w = v := if_pos truthy
        rw [chosen, chosen]
      · have chosen : JsVal.orElse (some v) w = w := if_neg truthy
        rw [chosen]
        exact ite_self w

theorem printable_kind (kind : ChunkKind) : JsStr.Printable (JsStr.ofStr kind.str) := by
  cases kind <;> decide +kernel

/-- What the members of a header are named. -/
def headerKeys : List JsStr :=
  ["transfer_id", "chunk_index", "total_chunks", "file_hash_sha256", "chunk_hash_sha256", "kind",
    "filename", "content_type", "encoding", "body_len"]

theorem headerKeys_plain : headerKeys.Nodup ∧
    ∀ key ∈ headerKeys, key.Printable ∧ ∃ u ∈ key.head?, 97 ≤ u.toNat := by
  decide +kernel

/-- JSON keeps the header of a chunk. -/
theorem header_flat (lower : J.LowerCorrect) (sound : t.Sound) (inside : i < t.totalChunks) :
    (t.chunk J i).header.Flat where
  nodup := headerKeys_plain.1
  keys := fun field mem => headerKeys_plain.2 field.1 (List.mem_map_of_mem mem)
  values := by
    have digest : ∀ b, (JsVal.string (J.toLowerCase (sha256Hex J b))).Flat := by
      intro b
      rw [lower_sha256Hex lower]
      exact .string (printable_ofBytes _)
    have total := sound.total
    have bodyLen := (t.length_slice_le i).trans_lt sound.small
    refine List.forall_mem_cons.mpr ⟨.string sound.transferId, List.forall_mem_cons.mpr
      ⟨.number (inside.trans total), List.forall_mem_cons.mpr ⟨.number total,
      List.forall_mem_cons.mpr ⟨digest _, List.forall_mem_cons.mpr ⟨digest _,
      List.forall_mem_cons.mpr ⟨.string (printable_kind t.kind), List.forall_mem_cons.mpr
      ⟨sound.filename, List.forall_mem_cons.mpr ⟨sound.contentType, List.forall_mem_cons.mpr
      ⟨sound.encoding, List.forall_mem_singleton.mpr (.number bodyLen)⟩⟩⟩⟩⟩⟩⟩⟩⟩

/-- The header of a chunk describes it. -/
theorem ofHeader_header (lower : J.LowerCorrect) (t : JsTransfer) (i : ℕ) :
    ofHeader J (.object (t.chunk J i).header) (t.slice i) = .ok (t.chunk J i) := by
  have bodyLen : JsVal.isNat ((JsVal.object (t.chunk J i).header).member "body_len")
      (t.slice i).length = true := by
    show (PyFloat.finite _ == PyFloat.finite _) = true
    exact beq_self_eq_true _
  have again : ∀ b, J.toLowerCase (J.toLowerCase (sha256Hex J b)) =
      J.toLowerCase (sha256Hex J b) := by
    intro b
    rw [lower_sha256Hex lower, lower_sha256Hex lower]
  have chunkHash : JsVal.lowered "header.chunk_hash_sha256"
      ((JsVal.object (t.chunk J i).header).member "chunk_hash_sha256") =
        .ok (J.toLowerCase (sha256Hex J (t.slice i))) := rfl
  have fileHash : JsVal.lowered "fileHashSha256"
      ((JsVal.object (t.chunk J i).header).member "file_hash_sha256") =
        .ok (J.toLowerCase (sha256Hex J t.data)) := rfl
  simp only [ofHeader, js_bind_eq_ok, jsEnsure_eq_ok, js_pure_eq_ok, decide_eq_true_eq]
  refine ⟨(), bodyLen, _, chunkHash, (), (again _).symm, _, fileHash, ?_⟩
  show JsUXSPChunk.mk _ _ _ (J.toLowerCase (J.toLowerCase (sha256Hex J t.data)))
    (J.toLowerCase (J.toLowerCase (sha256Hex J (t.slice i)))) _ _
    (JsVal.orElse (some (JsVal.orElse t.options.filename .null)) .null)
    (JsVal.orElse (some (JsVal.orElse t.options.contentType _)) _)
    (JsVal.orElse (some (JsVal.orElse t.options.encoding .null)) .null) = _
  rw [again, again, orElse_orElse, orElse_orElse, orElse_orElse]
  rfl

/-- What `toBytes` packs, `fromBytes` unpacks. -/
theorem fromBytes_toBytes (json : J.JsonCorrect) (lower : J.LowerCorrect) (sound : t.Sound)
    (inside : i < t.totalChunks) {raw : Bytes}
    (packed : (t.chunk J i).toBytes J.toJsRuntime = .ok raw) :
    fromBytes J raw = .ok (t.chunk J i) := by
  simp only [toBytes, js_bind_eq_ok, jsEnsure_eq_ok, js_pure_eq_ok, decide_eq_true_eq] at packed
  obtain ⟨_, short, rfl⟩ := packed
  simp only [fromBytes, js_bind_eq_ok]
  refine ⟨_, unframe_frame short, _, ?_, ofHeader_header lower t i⟩
  simp only [parseHeader, json.reads (header_flat lower sound inside)]

end JsUXSPChunk

/-! ## The chunks of a transfer -/

namespace JsTransfer

variable {c : JsUXSPChunk} {cs : List JsUXSPChunk}

theorem length_chunks : (t.chunks J).length = t.totalChunks := by
  rw [chunks, List.length_map, List.length_range]

theorem getElem_chunks {k : ℕ} (less : k < (t.chunks J).length) :
    (t.chunks J)[k] = t.chunk J k := by
  simp only [chunks, List.getElem_map, List.getElem_range]

theorem mem_chunks : c ∈ t.chunks J ↔ ∃ k < t.totalChunks, t.chunk J k = c := by
  simp only [chunks, List.mem_map, List.mem_range]

/-- The slices are the data. -/
theorem flatten_bodies (positive : 0 < t.chunkSize) :
    ((t.chunks J).map JsUXSPChunk.body).flatten = t.data := by
  have bodies : (t.chunks J).map JsUXSPChunk.body = (List.range t.totalChunks).map fun k =>
      (t.data.drop (k * t.chunkSize)).take t.chunkSize := by
    rw [chunks, List.map_map]
    rfl
  rw [bodies, Slices.flatten_range]
  refine List.take_of_length_le ((Slices.length_le_count positive).trans ?_)
  exact Nat.mul_le_mul_right _ (le_max_right _ _)

/-- Of the chunks of a transfer, the earlier one is sorted first. -/
theorem byIndex_chunk {j k : ℕ} :
    JsUXSPChunk.byIndex J.toJsRuntime (t.chunk J j) (t.chunk J k) ↔ j ≤ k := by
  show ¬ PyFloat.lt (.finite k) (.finite j) = true ↔ j ≤ k
  rw [PyFloat.lt, decide_eq_true_eq, not_lt, Nat.cast_le]

/-- Sorting puts the chunks back in order. -/
theorem sorted_perm (perm : cs.Perm (t.chunks J)) :
    cs.insertionSort (JsUXSPChunk.byIndex J.toJsRuntime) = t.chunks J := by
  have made : List.Forall₂ (fun c k => c = t.chunk J k) (t.chunks J) (List.range t.totalChunks) :=
    List.forall₂_map_left_iff.mpr (List.forall₂_same.mpr fun _ _ => rfl)
  obtain ⟨ks, indices, order⟩ := List.perm_comp_forall₂ perm made
  have back : cs = ks.map (t.chunk J) :=
    (congrFun (congrFun List.forall₂_eq_eq_eq cs) _).mp (List.forall₂_map_right_iff.mpr indices)
  have sorted : ks.insertionSort (· ≤ ·) = List.range t.totalChunks :=
    List.Perm.eq_of_pairwise (fun _ _ _ _ => Nat.le_antisymm)
      (List.pairwise_insertionSort (· ≤ ·) ks) List.pairwise_le_range
      ((List.perm_insertionSort _ ks).trans order)
  rw [back, ← List.map_insertionSort (· ≤ ·) _ (t.chunk J) ks fun _ _ _ _ => byIndex_chunk.symm,
    sorted]
  rfl

end JsTransfer

/-- Chunks of one transfer pass the loop at their own places. -/
theorem checkChunk_chunk {j k : ℕ} (alone : Bool) :
    checkChunk (t.chunk J j) alone k (t.chunk J k) = .ok () := by
  simp only [checkChunk, js_bind_eq_ok, jsEnsure_eq_ok]
  refine ⟨(), ?_, (), ?_, ?_⟩
  · show (alone || t.transferId == t.transferId) = true
    rw [beq_self_eq_true, Bool.or_true]
  · show (PyFloat.finite k == PyFloat.finite k) = true
    exact beq_self_eq_true _
  · exact decide_eq_true rfl

/-- The chunks of a transfer, in any order, give back the payload. -/
theorem jsReassembleChunkedTransfer_perm (lower : J.LowerCorrect) (positive : 0 < t.chunkSize)
    {cs : List JsUXSPChunk} (perm : cs.Perm (t.chunks J)) :
    jsReassembleChunkedTransfer J cs = .ok t.data := by
  have sorted := JsTransfer.sorted_perm perm
  have size := perm.length_eq
  rw [JsTransfer.length_chunks] at size
  cases cs with
  | nil => exact absurd size.symm t.totalChunks_pos.ne'
  | cons first rest =>
      obtain ⟨j, _, rfl⟩ := JsTransfer.mem_chunks.mp (perm.mem_iff.mp List.mem_cons_self)
      simp only [jsReassembleChunkedTransfer, js_bind_eq_ok, jsEnsure_eq_ok, js_pure_eq_ok,
        sorted, JsTransfer.flatten_bodies positive, decide_eq_true_eq, size]
      refine ⟨(), ?_, (), ?_, (), ?_, trivial⟩
      · show (PyFloat.finite t.totalChunks == PyFloat.finite t.totalChunks) = true
        exact beq_self_eq_true _
      · refine checkChunks_eq_ok.mpr fun k less => ?_
        rw [JsTransfer.getElem_chunks, Nat.zero_add]
        exact checkChunk_chunk _
      · show J.toLowerCase _ = J.toLowerCase (J.toLowerCase (sha256Hex J t.data))
        rw [lower_sha256Hex lower, lower_sha256Hex lower]

/-- What a call that returns has checked. -/
theorem jsReassembleChunkedTransfer_facts {cs : List JsUXSPChunk} {x : Bytes}
    (returned : jsReassembleChunkedTransfer J cs = .ok x) :
    ∃ (first : JsUXSPChunk) (sorted : List JsUXSPChunk), first ∈ cs ∧ sorted.Perm cs ∧
      JsVal.isNat first.totalChunks cs.length = true ∧
      (∀ k (less : k < sorted.length),
        checkChunk first (cs.length = 1) k sorted[k] = .ok ()) ∧
      x = (sorted.map JsUXSPChunk.body).flatten := by
  cases cs with
  | nil => cases returned
  | cons first rest =>
      simp only [jsReassembleChunkedTransfer, js_bind_eq_ok, jsEnsure_eq_ok,
        js_pure_eq_ok] at returned
      obtain ⟨_, total, _, checked, _, _, rfl⟩ := returned
      refine ⟨first, _, List.mem_cons_self, List.perm_insertionSort _ _, total, ?_, rfl⟩
      intro k less
      have here := checkChunks_eq_ok.mp checked k less
      rwa [Nat.zero_add] at here

end Uxsp
