import Uxsp.Core.Chunking

/-!
# `uxsp.core.payload`

A payload travels behind a magic prefix and a JSON header that says what it is.
`UXSPPayload.fromBytes_toBytes`: what was packed is unpacked, its strings as JSON reads them back.
-/

namespace Uxsp

abbrev PayloadKind : Type := ChunkKind

structure UXSPPayload where
  kind : PayloadKind
  body : Bytes
  filename : Option Str
  contentType : Str
  encoding : Option Str

namespace UXSPPayload

def MAGIC : Bytes := .lit "UXSP-PAYLOAD-1"

def HEADER_LEN_BYTES : ℕ := 4

def invalid (msg : Msg) : PyErr := ⟨.payloadValidationError, msg⟩

def malformed (msg : Msg) : PyErr := ⟨.payloadFormatError, msg⟩

/-- `p.filename or default`. -/
def nameOr (p : UXSPPayload) (default : Str) : Str :=
  match p.filename with
  | none | some [] => default
  | some name => name

def header (p : UXSPPayload) : Dict :=
  [("kind", .str p.kind.str), ("filename", UXSPChunk.optional p.filename),
    ("content_type", .str p.contentType), ("encoding", UXSPChunk.optional p.encoding),
    ("body_len", .int p.body.length)]

def toBytes (R : Runtime) (p : UXSPPayload) : Except PyErr Bytes := do
  let headerRaw ← R.jsonCompact (.dict p.header)
  ensure (headerRaw.length ≤ 0xFFFFFFFF) (invalid ["Payload header too large."])
  return MAGIC ++ packLength headerRaw.length ++ headerRaw ++ p.body

/-- The header text and the body of packed bytes. -/
def unframe (raw : Bytes) : Except PyErr (Bytes × Bytes) := do
  ensure (MAGIC.length + HEADER_LEN_BYTES ≤ raw.length) (malformed ["Packed payload is too short."])
  ensure (raw.take MAGIC.length = MAGIC) (malformed ["Invalid payload magic header."])
  let rest := raw.drop MAGIC.length
  let headerLen := UXSPChunk.unpackLength (rest.take HEADER_LEN_BYTES)
  let rest := rest.drop HEADER_LEN_BYTES
  ensure (headerLen ≤ rest.length) (malformed ["Header length exceeds payload size."])
  return (rest.take headerLen, rest.drop headerLen)

/-- The JSON object in a header. -/
def parseHeader (R : Runtime) (text : Bytes) : Except PyErr Dict := do
  match ← catching [.unicodeDecodeError, .jsonDecodeError]
      (fun _ => malformed ["Invalid payload header encoding."]) (R.jsonLoads text) with
  | .dict header => return header
  | _ => .error (malformed ["Payload header must be a JSON object."])

def requireLength : Val → Except PyErr ℕ
  | .int n =>
      if 0 ≤ n then .ok n.toNat else .error (invalid ["Invalid body_len in payload header."])
  | _ => .error (invalid ["Invalid body_len in payload header."])

/-- `kind in {"text", "file", "binary"}`: a list or a dict cannot be hashed. -/
def requireKind : Val → Except PyErr PayloadKind
  | .str s =>
      if s = ChunkKind.text.str then .ok .text
      else if s = ChunkKind.file.str then .ok .file
      else if s = ChunkKind.binary.str then .ok .binary
      else .error (invalid ["Invalid payload kind."])
  | .list _ => .error ⟨.typeError, ["unhashable type: 'list'"]⟩
  | .dict _ => .error ⟨.typeError, ["unhashable type: 'dict'"]⟩
  | _ => .error (invalid ["Invalid payload kind."])

def requireFilename : Val → Except PyErr (Option Str)
  | .none => .ok none
  | .str s => .ok (some s)
  | _ => .error (invalid ["filename must be a string or null."])

def requireContentType : Val → Except PyErr Str
  | .str (c :: s) => .ok (c :: s)
  | _ => .error (invalid ["content_type must be a non-empty string."])

def requireEncoding : Val → Except PyErr (Option Str)
  | .none => .ok none
  | .str (c :: s) => .ok (some (c :: s))
  | _ => .error (invalid ["encoding must be a non-empty string or null."])

/-- Validate a header against the body. -/
def ofHeader (header : Dict) (body : Bytes) : Except PyErr UXSPPayload := do
  let field (key : String) : Val := (header.get? key).getD .none
  let expectedLen ← requireLength (field "body_len")
  ensure (expectedLen = body.length) (invalid ["Payload body length mismatch."])
  let kind ← requireKind (field "kind")
  let filename ← requireFilename (field "filename")
  let contentType ← requireContentType (field "content_type")
  let encoding ← requireEncoding (field "encoding")
  return ⟨kind, body, filename, contentType, encoding⟩

def fromBytes (R : Runtime) (raw : Bytes) : Except PyErr UXSPPayload := do
  let (text, body) ← unframe raw
  let header ← parseHeader R text
  ofHeader header body

end UXSPPayload

/-- Pack binary data. -/
def packBinary (R : Runtime) (data : Bytes) (filename : Option Str) (contentType : Str) :
    Except PyErr Bytes := do
  ensure (contentType ≠ []) (UXSPPayload.invalid ["content_type must be a non-empty string."])
  ensure (filename ≠ some [])
    (UXSPPayload.invalid ["filename must be a non-empty string or None."])
  UXSPPayload.toBytes R ⟨.binary, data, filename, contentType, none⟩

namespace UXSPPayload

/-! ## What was packed is unpacked -/

theorem unframe_frame {text body : Bytes} (fits : text.length ≤ 0xFFFFFFFF) :
    unframe (MAGIC ++ packLength text.length ++ text ++ body) = .ok (text, body) := by
  have width : (packLength text.length).length = HEADER_LEN_BYTES :=
    UXSPChunk.length_packLength text.length
  have length := UXSPChunk.unpackLength_packLength (n := text.length) (by omega)
  simp only [unframe, List.append_assoc, List.drop_left, List.take_left, List.length_append,
    bind_eq_ok, ensure_eq_ok, pure_eq_ok, decide_eq_true_eq, ← width, length]
  exact ⟨(), by omega, (), trivial, (), by omega, trivial⟩

/-- What JSON makes of the strings in a header. -/
def reread (p : UXSPPayload) : UXSPPayload where
  kind := p.kind
  body := p.body
  filename := p.filename.map Str.reread
  contentType := p.contentType.reread
  encoding := p.encoding.map Str.reread

theorem header_wellKeyed (p : UXSPPayload) : Dict.wellKeyed p.header = true :=
  @Dict.wellKeyed_of_keys _ ["kind", "filename", "content_type", "encoding", "body_len"] rfl
    (by decide)

theorem reread_optional (s : Option Str) :
    (UXSPChunk.optional s).reread = UXSPChunk.optional (s.map Str.reread) := by
  cases s <;> rfl

theorem ofHeader_reread {p : UXSPPayload} (contentType : p.contentType ≠ [])
    (encoding : p.encoding ≠ some []) :
    ofHeader (Assoc.update [] (Dict.rereadItems p.header)) p.body = .ok p.reread := by
  have length : requireLength (.int p.body.length) = .ok p.body.length := by
    rw [requireLength, if_pos (Int.natCast_nonneg _), Int.toNat_natCast]
  have kind : ∀ k : PayloadKind, requireKind (.str k.str) = .ok k := by
    intro k
    cases k <;> rfl
  have filename : ∀ s : Option Str, requireFilename (UXSPChunk.optional s).reread =
      .ok (s.map Str.reread) := by
    intro s
    cases s <;> rfl
  have type : requireContentType (.str p.contentType.reread) = .ok p.contentType.reread := by
    cases same : p.contentType.reread with
    | nil => exact absurd (Str.reread_eq_nil.mp same) contentType
    | cons c s => rfl
  have code : requireEncoding (UXSPChunk.optional p.encoding).reread =
      .ok (p.encoding.map Str.reread) := by
    cases given : p.encoding with
    | none => rfl
    | some s =>
        cases same : s.reread with
        | nil => exact absurd (given.trans (by rw [Str.reread_eq_nil.mp same])) encoding
        | cons c t => simp [UXSPChunk.optional, Val.reread, same, requireEncoding]
  simp only [ofHeader, Dict.reread_get? p.header_wellKeyed]
  simp [header, Val.reread, length, kind, filename, type, code, reread]

/-- What was packed is unpacked. -/
theorem fromBytes_toBytes {R : Runtime} (json : R.JsonRereads) {p : UXSPPayload} {raw : Bytes}
    (contentType : p.contentType ≠ []) (encoding : p.encoding ≠ some [])
    (packed : p.toBytes R = .ok raw) : fromBytes R raw = .ok p.reread := by
  simp only [toBytes, bind_eq_ok, ensure_eq_ok, pure_eq_ok, decide_eq_true_eq] at packed
  obtain ⟨text, compact, _, fits, rfl⟩ := packed
  have read := json.compact compact
  simp only [fromBytes, bind_eq_ok, Prod.exists, unframe_frame fits, Except.ok.injEq, Prod.mk.injEq]
  refine ⟨text, p.body, ⟨rfl, rfl⟩, _, ?_, ofHeader_reread contentType encoding⟩
  simp only [parseHeader, bind_eq_ok, catching_eq_ok, read, Except.ok.injEq, exists_eq_left']
  rfl

end UXSPPayload

end Uxsp
