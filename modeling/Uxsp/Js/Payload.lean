import Uxsp.Js.Chunking
import Uxsp.Js.CrossSession
import Uxsp.Secure.Receivers

/-!
# `payload.ts`, and text between the two SDKs

JavaScript packs a text as UTF-8 whatever encoding the header names, and reads every body as UTF-8;
Python uses the encoding of the header both ways.  `text_crosses_iff`: neither reads another text
than was packed exactly if the codec of the encoding reads the UTF-8 of the text as the text, or not
at all, and what it makes of the text is the text in UTF-8.
-/

namespace Uxsp

/-! ## `payload.ts` -/

namespace JsPayload

def MAGIC : Bytes := .lit "UXSP-PAYLOAD-1"

def HEADER_LEN_BYTES : ℕ := 4

def formatError (message : List JsPart) : JsErr := ⟨.payloadFormatError, message⟩

def validationError (message : List JsPart) : JsErr := ⟨.payloadValidationError, message⟩

end JsPayload

open JsPayload

/-- `UXSPPayload`; what a header does not have is `undefined`. -/
structure JsUXSPPayload where
  kind : Option JsVal
  body : Bytes
  filename : JsVal
  contentType : JsVal
  encoding : JsVal

/-- `PayloadOptions`. -/
structure JsPayloadOptions where
  filename : Option JsVal
  contentType : Option JsVal
  encoding : Option JsVal

namespace JsUXSPPayload

/-- The constructor. -/
def new (kind : Option JsVal) (body : Bytes) (options : JsPayloadOptions) : JsUXSPPayload where
  kind := kind
  body := body
  filename := JsVal.orElse options.filename .null
  contentType := JsVal.orElse options.contentType (.string "application/octet-stream")
  encoding := JsVal.orElse options.encoding .null

/-- The object that `toBytes` writes; `JSON.stringify` leaves out what is `undefined`. -/
def header (p : JsUXSPPayload) : JsObject :=
  ([("kind", p.kind), ("filename", some p.filename), ("content_type", some p.contentType),
    ("encoding", some p.encoding), ("body_len", some (.number (.finite p.body.length)))] :
      List (JsStr × Option JsVal)).filterMap fun (key, v) => v.map fun v => (key, v)

/-- The header as it is written. -/
def headerRaw (R : JsRuntime) (p : JsUXSPPayload) : Bytes :=
  JsStr.utf8 (R.jsonStringify (.object p.header))

/-- `setUint32` keeps the length of the header modulo `2 ^ 32`. -/
def toBytes (R : JsRuntime) (p : JsUXSPPayload) : Bytes :=
  MAGIC ++ packLength ((p.headerRaw R).length % 2 ^ 32) ++ p.headerRaw R ++ p.body

/-- The header text and the body of a packed payload. -/
def unframe (raw : Bytes) : Except JsErr (Bytes × Bytes) := do
  jsEnsure (MAGIC.length + HEADER_LEN_BYTES ≤ raw.length)
    (formatError [.lit "Packed payload is too short."])
  jsEnsure (raw.take MAGIC.length = MAGIC) (formatError [.lit "Invalid payload magic header."])
  let rest := raw.drop MAGIC.length
  let headerLen := UXSPChunk.unpackLength (rest.take HEADER_LEN_BYTES)
  let rest := rest.drop HEADER_LEN_BYTES
  jsEnsure (headerLen ≤ rest.length)
    (formatError [.lit "Payload header length exceeds total buffer size."])
  return (rest.take headerLen, rest.drop headerLen)

/-- `JSON.parse(decodeUTF8(headerRaw))`, and the first use of the header. -/
def parseHeader (R : JsRuntime) (headerRaw : Bytes) : Except JsErr JsVal :=
  match R.jsonParse (R.decodeUtf8 headerRaw) with
  | .error e => .error (formatError (.lit "Corrupted payload header JSON: " :: e.message))
  | .ok .null => .error ⟨.typeError,
      [.lit "Cannot read properties of null (reading 'body_len')"]⟩
  | .ok header => .ok header

/-- The error of a body that has not the length declared. -/
def lengthMismatch (R : JsRuntime) (declared : Option JsVal) (actual : ℕ) : JsErr :=
  let mismatch (s : JsStr) : JsErr := validationError
    [.lit "Body length mismatch: declared ", .str s, .lit ", actual ", JsChunking.digits actual]
  match declared with
  | none => mismatch "undefined"
  | some v =>
      match R.str v with
      | .ok s => mismatch s
      | .error e => e

/-- The payload that a header describes, once the length of its body is checked. -/
def ofHeader (R : JsRuntime) (header : JsVal) (body : Bytes) : Except JsErr JsUXSPPayload := do
  jsEnsure (JsVal.isNat (header.member "body_len") body.length)
    (lengthMismatch R (header.member "body_len") body.length)
  return new (header.member "kind") body
    ⟨header.member "filename", header.member "content_type", header.member "encoding"⟩

def fromBytes (R : JsRuntime) (raw : Bytes) : Except JsErr JsUXSPPayload := do
  let (headerRaw, body) ← unframe raw
  ofHeader R (← parseHeader R headerRaw) body

end JsUXSPPayload

namespace JsPayload

/-- The payload of `packText`: the body is UTF-8, whatever the encoding. -/
def textPayload (text encoding : JsStr) : JsUXSPPayload :=
  .new (some (.string "text")) (JsStr.utf8 text)
    ⟨none, some (.string "text/plain"), some (.string encoding)⟩

def packText (R : JsRuntime) (text encoding : JsStr) : Bytes := (textPayload text encoding).toBytes R

/-- The kind of a payload, as a template prints it. -/
def printedKind (R : JsRuntime) : Option JsVal → Except JsErr JsStr
  | none => .ok "undefined"
  | some v => R.str v

def unpackText (R : JsRuntime) (payloadBytes : Bytes) : Except JsErr JsStr := do
  let payload ← JsUXSPPayload.fromBytes R payloadBytes
  if JsVal.isStr payload.kind "text" then return R.decodeUtf8 payload.body
  else do
    let kind ← printedKind R payload.kind
    .error (validationError [.lit "Expected 'text' payload, got '", .str kind, .lit "'"])

end JsPayload

/-! ## `pack_text` and `unpack_text` -/

/-- Python's codecs: `text.encode(encoding)` and `b.decode(encoding)`.  The name of an encoding is
converted to UTF-8 before a codec is looked for. -/
structure TextCodecs where
  encode : (encoding : Str) → Str → Except PyErr Bytes
  decode : (encoding : Str) → Bytes → Except PyErr Str
  named : ∀ {encoding text b}, encode encoding text = .ok b → ∃ n, encoding.encode = some n
  foreign : ∀ {encoding b e}, decode encoding b = .error e → e.cls.isA .payloadError = false

def packTextAs (R : Runtime) (codecs : TextCodecs) (text encoding : Str) : Except PyErr Bytes := do
  ensure (encoding ≠ []) (UXSPPayload.invalid ["encoding must be a non-empty string."])
  let body ← catching [.lookupError]
    (fun _ => UXSPPayload.invalid ["Unknown encoding: ", .repr (.str encoding)])
    (codecs.encode encoding text)
  UXSPPayload.toBytes R ⟨.text, body, none, "text/plain", some encoding⟩

def unpackTextBy (R : Runtime) (decode : Str → Bytes → Except PyErr Str) (raw : Bytes) :
    Except PyErr Str := do
  let payload ← UXSPPayload.fromBytes R raw
  ensure (payload.kind = .text)
    (UXSPPayload.invalid ["Expected text payload, got ", .str payload.kind.str, "."])
  match payload.encoding with
  | none => .error (UXSPPayload.invalid ["Text payload is missing encoding field."])
  | some encoding =>
      catching [.unicodeDecodeError]
        (fun _ => UXSPPayload.invalid ["Text payload is not valid ", .str encoding, "."])
        (decode encoding payload.body)

/-- The receivers unpack a text in the same way. -/
theorem unpackText_eq {P : Platform} (site : Secure.Site P) (raw : Bytes) :
    Secure.unpackText site raw = unpackTextBy P.toRuntime site.codecs.decode raw := rfl

/-! ## JSON that both languages read -/

/-- A value that is the same in both languages: no float, no lone surrogate, and no integer that a
float is not exact for. -/
def Val.light : Val → Bool
  | .none => true
  | .str s => s.encode.isSome
  | .int n => 0 ≤ n && n < 2 ^ 53
  | _ => false

/-- An object of such values, under names that begin with a small letter. -/
structure Dict.Light (d : Dict) : Prop where
  keyed : d.wellKeyed = true
  words : ∀ item ∈ d, item.1.head?.any (fun c => 97 ≤ c.val && c.val ≤ 122) = true
  light : ∀ item ∈ d, item.2.light = true

/-- What `json` and `JSON` promise about an object of both languages that Python can write: the
integers are exact, and each reads it from the text of the other. -/
structure JsonShared (R : Runtime) (J : JsRuntime) : Prop where
  safe : J.SafeIntegers
  toPython : ∀ {d : Dict} {o : JsObject}, d.Light → J.ofItems d = some o →
    R.jsonLoads (JsStr.utf8 (J.jsonStringify (.object o))) = .ok (.dict d)
  toJs : ∀ {d : Dict} {o : JsObject} {text : Bytes}, d.Light → J.ofItems d = some o →
    R.jsonCompact (.dict d) = .ok text → J.jsonParse (J.decodeUtf8 text) = .ok (.object o)

section Headers

variable {R : Runtime} {J : JsRuntime} {e : Str} {n body : Bytes}

/-- The payload of a text in Python. -/
def textOf (e : Str) (body : Bytes) : UXSPPayload := ⟨.text, body, none, "text/plain", some e⟩

/-- The header of a text in JavaScript. -/
def headerObject (e : Str) (body : Bytes) : JsObject :=
  (JsUXSPPayload.new (some (.string "text")) body
    ⟨none, some (.string "text/plain"), some (.string (JsStr.ofStr e))⟩).header

theorem light_header (named : e.encode = some n) (small : body.length < 2 ^ 53) :
    (textOf e body).header.Light where
  keyed := UXSPPayload.header_wellKeyed _
  words := by
    have words : ∀ key ∈ (["kind", "filename", "content_type", "encoding", "body_len"] : List Str),
        key.head?.any (fun c => 97 ≤ c.val && c.val ≤ 122) = true := by decide
    intro item mem
    exact words item.1 (List.mem_map_of_mem (f := Prod.fst) mem)
  light := by
    have length : Val.light (.int body.length) = true := by
      rw [Val.light, Bool.and_eq_true, decide_eq_true_eq, decide_eq_true_eq]
      omega
    have name : Val.light (.str e) = true := by rw [Val.light, named, Option.isSome_some]
    have plain (s : String) : Val.light (.str s) = true := by
      rw [Val.light, Str.encode_ofString, Option.isSome_some]
    simp only [textOf, UXSPPayload.header, List.forall_mem_cons, List.not_mem_nil, false_implies,
      implies_true, and_true]
    exact ⟨plain "text", rfl, plain "text/plain", name, length⟩

/-- The header of JavaScript is that of Python. -/
theorem ofItems_header (shared : JsonShared R J) (nonempty : e ≠ [])
    (small : body.length < 2 ^ 53) :
    J.ofItems (textOf e body).header = some (headerObject e body) := by
  have name : JsVal.orElse (some (.string (JsStr.ofStr e))) .null = .string (JsStr.ofStr e) := by
    cases e with
    | nil => exact absurd rfl nonempty
    | cons c e =>
        refine if_pos ?_
        rw [JsVal.truthy, JsStr.ofStr_cons]
        unfold JsStr.units
        split <;> rfl
  have length := shared.safe.read _ small
  simp only [textOf, UXSPPayload.header, UXSPChunk.optional, JsRuntime.ofItems, JsRuntime.ofVal,
    headerObject, JsUXSPPayload.new, JsUXSPPayload.header, name, length]
  rfl

/-- Python takes the header of a text as it is. -/
theorem ofHeader_textOf (nonempty : e ≠ []) :
    UXSPPayload.ofHeader (textOf e body).header body = .ok (textOf e body) := by
  have length : UXSPPayload.requireLength (.int body.length) = .ok body.length := by
    rw [UXSPPayload.requireLength, if_pos (Int.natCast_nonneg _), Int.toNat_natCast]
  have code : UXSPPayload.requireEncoding (.str e) = .ok (some e) := by
    cases e with
    | nil => exact absurd rfl nonempty
    | cons c e => rfl
  have kind : UXSPPayload.requireKind (.str ChunkKind.text.str) = .ok .text := rfl
  simp [UXSPPayload.ofHeader, UXSPPayload.header, textOf, UXSPChunk.optional, length, code, kind,
    UXSPPayload.requireFilename]
  rfl

end Headers

/-! ## What the other language unpacks -/

section Crossing

variable {R : Runtime} {J : JsRuntime} {codecs : TextCodecs} {t e : Str} {raw : Bytes}

/-- The text in UTF-8, as JavaScript packs it. -/
def jsBody (t : Str) : Bytes := JsStr.utf8 (JsStr.ofStr t)

/-- JavaScript can pack the text: a `Uint8Array` holds its bytes, and four bytes the length of its
header. -/
structure Packable (J : JsRuntime) (t e : Str) : Prop where
  body : (jsBody t).length < 2 ^ 53
  header : ((textPayload (JsStr.ofStr t) (JsStr.ofStr e)).headerRaw J).length < 2 ^ 32

theorem packTextAs_eq_ok : packTextAs R codecs t e = .ok raw ↔
    e ≠ [] ∧ ∃ b, codecs.encode e t = .ok b ∧ (textOf e b).toBytes R = .ok raw := by
  simp only [packTextAs, bind_eq_ok, ensure_eq_ok, catching_eq_ok, decide_eq_true_eq]
  constructor
  · rintro ⟨_, nonempty, rest⟩
    exact ⟨nonempty, rest⟩
  · rintro ⟨nonempty, rest⟩
    exact ⟨(), nonempty, rest⟩

/-- Python finds in the bytes of JavaScript the UTF-8 of the text, and the name of the encoding. -/
theorem fromBytes_packText (shared : JsonShared R J) {n : Bytes} (named : e.encode = some n)
    (nonempty : e ≠ []) (packable : Packable J t e) :
    UXSPPayload.fromBytes R (packText J (JsStr.ofStr t) (JsStr.ofStr e)) =
      .ok (textOf e (jsBody t)) := by
  have header := ofItems_header shared nonempty packable.body
  have loads : R.jsonLoads ((textPayload (JsStr.ofStr t) (JsStr.ofStr e)).headerRaw J) =
      .ok (.dict (textOf e (jsBody t)).header) :=
    shared.toPython (light_header named packable.body) header
  have fits : ((textPayload (JsStr.ofStr t) (JsStr.ofStr e)).headerRaw J).length ≤ 0xFFFFFFFF :=
    Nat.le_of_lt_succ packable.header
  have framed := @UXSPPayload.unframe_frame _ (jsBody t) fits
  have packed : packText J (JsStr.ofStr t) (JsStr.ofStr e) = UXSPPayload.MAGIC ++
      packLength ((textPayload (JsStr.ofStr t) (JsStr.ofStr e)).headerRaw J).length ++
      (textPayload (JsStr.ofStr t) (JsStr.ofStr e)).headerRaw J ++ jsBody t := by
    rw [packText, JsUXSPPayload.toBytes, Nat.mod_eq_of_lt packable.header]
    rfl
  have parsed : UXSPPayload.parseHeader R
      ((textPayload (JsStr.ofStr t) (JsStr.ofStr e)).headerRaw J) =
        .ok (textOf e (jsBody t)).header := by
    rw [UXSPPayload.parseHeader, loads]
    rfl
  rw [UXSPPayload.fromBytes, packed, framed]
  show (do
    let header ← UXSPPayload.parseHeader R _
    UXSPPayload.ofHeader header (jsBody t)) = _
  rw [parsed]
  exact ofHeader_textOf nonempty

theorem unframe_packed {text body : Bytes} (fits : text.length ≤ 0xFFFFFFFF) :
    JsUXSPPayload.unframe (MAGIC ++ packLength text.length ++ text ++ body) = .ok (text, body) := by
  have width : (packLength text.length).length = HEADER_LEN_BYTES :=
    UXSPChunk.length_packLength text.length
  have length := UXSPChunk.unpackLength_packLength (n := text.length) (by omega)
  simp only [JsUXSPPayload.unframe, List.append_assoc, List.drop_left, List.take_left,
    List.length_append, js_bind_eq_ok, jsEnsure_eq_ok, js_pure_eq_ok, decide_eq_true_eq, ← width,
    length]
  exact ⟨(), by omega, (), trivial, (), by omega, trivial⟩

/-- The payload that JavaScript makes of the header of a text. -/
def textRead (e : Str) (body : Bytes) : JsUXSPPayload :=
  .new (some (.string "text")) body ⟨some .null, some (.string "text/plain"),
    some (JsVal.orElse (some (.string (JsStr.ofStr e))) .null)⟩

theorem ofHeader_headerObject {body : Bytes} :
    JsUXSPPayload.ofHeader J (.object (headerObject e body)) body = .ok (textRead e body) := by
  have length : JsVal.isNat ((JsVal.object (headerObject e body)).member "body_len")
      body.length = true := beq_self_eq_true (PyFloat.finite body.length)
  rw [JsUXSPPayload.ofHeader, length]
  rfl

/-- JavaScript finds in the bytes of Python what the codec made of the text. -/
theorem jsUnpackText_packTextAs (shared : JsonShared R J) {b : Bytes} (nonempty : e ≠ [])
    (encoded : codecs.encode e t = .ok b) (packed : (textOf e b).toBytes R = .ok raw)
    (fits : raw.length < 2 ^ 53) : JsPayload.unpackText J raw = .ok (J.decodeUtf8 b) := by
  obtain ⟨n, named⟩ := codecs.named encoded
  simp only [UXSPPayload.toBytes, bind_eq_ok, ensure_eq_ok, pure_eq_ok, decide_eq_true_eq] at packed
  obtain ⟨text, written, _, short, rfl⟩ := packed
  have small : b.length < 2 ^ 53 := by
    refine Nat.lt_of_le_of_lt ?_ fits
    rw [List.length_append]
    exact Nat.le_add_left _ _
  have header := ofItems_header shared nonempty small
  have parsed := shared.toJs (light_header named small) header written
  have framed : JsUXSPPayload.unframe (UXSPPayload.MAGIC ++ packLength text.length ++ text ++ b) =
      .ok (text, b) := unframe_packed short
  have read : JsUXSPPayload.parseHeader J text = .ok (.object (headerObject e b)) := by
    rw [JsUXSPPayload.parseHeader, parsed]
  have whole : JsUXSPPayload.fromBytes J
      (UXSPPayload.MAGIC ++ packLength text.length ++ text ++ (textOf e b).body) =
        .ok (textRead e b) := by
    rw [JsUXSPPayload.fromBytes]
    refine (congrArg (· >>= _) framed).trans ?_
    show (do
      let header ← JsUXSPPayload.parseHeader J text
      JsUXSPPayload.ofHeader J header b) = _
    rw [read]
    exact ofHeader_headerObject
  rw [JsPayload.unpackText, whole]
  rfl

/-! ## No other text -/

/-- What Python unpacks of the text that JavaScript packed: the text, or a `PayloadError`. -/
@[irreducible] def ToPython (R : Runtime) (J : JsRuntime) (codecs : TextCodecs) (t e : Str) : Prop :=
  match unpackTextBy R codecs.decode (packText J (JsStr.ofStr t) (JsStr.ofStr e)) with
  | .ok s => s = t
  | .error err => err.cls.isA .payloadError = true

/-- What JavaScript unpacks of the text that Python packed: the text, or it throws. -/
def ToJs (J : JsRuntime) (t : Str) (raw : Bytes) : Prop :=
  ∀ s, JsPayload.unpackText J raw = .ok s → s = JsStr.ofStr t

/-- The codec reads the UTF-8 of the text as the text, or finds that it is none of its texts. -/
def ReadsUtf8 (codecs : TextCodecs) (t e : Str) : Prop :=
  codecs.decode e (jsBody t) = .ok t ∨
    ∃ err, codecs.decode e (jsBody t) = .error err ∧ err.cls.isA .unicodeDecodeError = true

/-- `TextDecoder` reads what the codec makes of the text as the text. -/
def WritesUtf8 (J : JsRuntime) (codecs : TextCodecs) (t e : Str) : Prop :=
  ∀ b, codecs.encode e t = .ok b → J.decodeUtf8 b = JsStr.ofStr t

theorem toPython_iff (shared : JsonShared R J) {n : Bytes} (named : e.encode = some n)
    (nonempty : e ≠ []) (packable : Packable J t e) :
    ToPython R J codecs t e ↔ ReadsUtf8 codecs t e := by
  have unpacked : unpackTextBy R codecs.decode (packText J (JsStr.ofStr t) (JsStr.ofStr e)) =
      catching [.unicodeDecodeError]
        (fun _ => UXSPPayload.invalid ["Text payload is not valid ", .str e, "."])
        (codecs.decode e (jsBody t)) := by
    rw [unpackTextBy, fromBytes_packText shared named nonempty packable]
    rfl
  rw [ToPython, unpacked, ReadsUtf8]
  cases read : codecs.decode e (jsBody t) with
  | ok s =>
      constructor
      · intro same
        exact .inl (congrArg Except.ok same)
      · rintro (same | ⟨_, failed, _⟩)
        · exact Except.ok.inj same
        · cases failed
  | error err =>
      rw [catching]
      by_cases undecodable : err.cls.isA .unicodeDecodeError = true
      · have caught : ([.unicodeDecodeError] : List ErrClass).any err.cls.isA = true := by
          rw [List.any_cons, undecodable, Bool.true_or]
        rw [if_pos caught]
        exact ⟨fun _ => .inr ⟨err, rfl, undecodable⟩, fun _ => rfl⟩
      · have passed : ¬ ([.unicodeDecodeError] : List ErrClass).any err.cls.isA = true := by
          rw [List.any_cons, List.any_nil, Bool.or_false]
          exact undecodable
        rw [if_neg passed]
        constructor
        · intro payloadError
          exact absurd payloadError (Bool.eq_false_iff.mp (codecs.foreign read))
        · rintro (same | ⟨_, failed, is_unicode⟩)
          · cases same
          · cases failed
            exact absurd is_unicode undecodable

theorem toJs_iff (shared : JsonShared R J) (accepted : packTextAs R codecs t e = .ok raw)
    (fits : raw.length < 2 ^ 53) : ToJs J t raw ↔ WritesUtf8 J codecs t e := by
  obtain ⟨nonempty, b, encoded, packed⟩ := packTextAs_eq_ok.mp accepted
  rw [ToJs, jsUnpackText_packTextAs shared nonempty encoded packed fits]
  constructor
  · intro same b' encoded'
    cases encoded.symm.trans encoded'
    exact same _ rfl
  · intro same s unpacked
    cases unpacked
    exact same b encoded

/-- Neither side returns another text than was packed exactly if the codec reads the UTF-8 of the
text as the text or refuses it, and writes the text as UTF-8. -/
theorem text_crosses_iff (shared : JsonShared R J) (accepted : packTextAs R codecs t e = .ok raw)
    (packable : Packable J t e) (fits : raw.length < 2 ^ 53) :
    ToPython R J codecs t e ∧ ToJs J t raw ↔ ReadsUtf8 codecs t e ∧ WritesUtf8 J codecs t e := by
  obtain ⟨nonempty, b, encoded, packed⟩ := packTextAs_eq_ok.mp accepted
  obtain ⟨n, named⟩ := codecs.named encoded
  rw [toPython_iff shared named nonempty packable, toJs_iff shared accepted fits]

/-! ## UTF-8 itself -/

/-- The codec of the name is UTF-8. -/
structure TextCodecs.Utf8 (codecs : TextCodecs) (e : Str) : Prop where
  encode : ∀ {t : Str} {b : Bytes}, codecs.encode e t = .ok b → t.encode = some b
  decode : ∀ {t : Str} {b : Bytes}, t.encode = some b → codecs.decode e b = .ok t

/-- `TextDecoder` reads UTF-8 and leaves out a byte order mark in front. -/
def JsRuntime.DropsMark (J : JsRuntime) : Prop :=
  ∀ {t : Str} {b : Bytes}, t.encode = some b →
    J.decodeUtf8 b = JsStr.ofStr (if t.head?.any (fun c => c.val == 0xFEFF) then t.tail else t)

/-- In UTF-8 a text crosses exactly if it does not begin with a byte order mark. -/
theorem utf8_crosses_iff (shared : JsonShared R J) (utf8 : codecs.Utf8 e) (drops : J.DropsMark)
    (accepted : packTextAs R codecs t e = .ok raw) (packable : Packable J t e)
    (fits : raw.length < 2 ^ 53) : ToPython R J codecs t e ∧ ToJs J t raw ↔
      t.head?.any (fun c => c.val == 0xFEFF) = false := by
  obtain ⟨nonempty, b, encoded, packed⟩ := packTextAs_eq_ok.mp accepted
  obtain ⟨n, named⟩ := codecs.named encoded
  rw [toPython_iff shared named nonempty packable, toJs_iff shared accepted fits]
  have bytes := utf8.encode encoded
  have body : jsBody t = b := JsStr.utf8_ofStr bytes
  have reads : ReadsUtf8 codecs t e := .inl (body ▸ utf8.decode bytes)
  have writes : WritesUtf8 J codecs t e ↔ J.decodeUtf8 b = JsStr.ofStr t := by
    refine ⟨fun all => all b encoded, fun here b' encoded' => ?_⟩
    cases encoded.symm.trans encoded'
    exact here
  rw [and_iff_right reads, writes, drops bytes]
  cases t with
  | nil => simp
  | cons c t =>
      rw [List.head?_cons, Option.any_some, List.tail_cons]
      by_cases mark : (c.val == 0xFEFF) = true
      · rw [if_pos mark, mark, JsStr.ofStr_cons]
        refine ⟨fun same => ?_, nofun⟩
        have length := congrArg List.length same
        rw [List.length_append] at length
        have some_units : 0 < (JsStr.units c).length := by
          unfold JsStr.units
          split <;> simp
        omega
      · rw [if_neg mark]
        exact ⟨fun _ => Bool.eq_false_iff.mpr mark, fun _ => rfl⟩

end Crossing

/-! ## A letter in latin-1 -/

namespace JsonText

theorem val_light {v : Val} (light : v.light = true) :
    v.plain = true ∧ ∃ b, val .compact v = some b ∧ Ascii b := by
  cases v with
  | none =>
      have ascii : Ascii [110, 117, 108, 108] := by simp [Ascii]
      exact ⟨rfl, _, rfl, ascii⟩
  | bool b => cases light
  | float x => cases light
  | list xs => cases light
  | dict d => cases light
  | str s => exact ⟨light, 34 :: body s, rfl, ascii_cons.mpr ⟨by decide, ascii_body s⟩⟩
  | int n =>
      rw [Val.light, Bool.and_eq_true, decide_eq_true_eq, decide_eq_true_eq] at light
      obtain ⟨k, rfl⟩ := Int.eq_ofNat_of_zero_le light.1
      have small : k < 2 ^ 53 := by omega
      have printable : Str.printable k = true :=
        Str.printable_of_lt (k := 16) (small.trans (by norm_num)) (by norm_num) (by norm_num)
      refine ⟨rfl, digits k, ?_, ascii_digits k⟩
      rw [val, number, if_pos printable, if_neg (by omega), Int.natAbs_natCast]

theorem members_light {d : Dict} (light : ∀ item ∈ d, item.2.light = true) :
    Dict.plainItems d = true ∧ ∃ b, members .compact d = some b ∧ Ascii b := by
  induction d with
  | nil => exact ⟨rfl, [125], rfl, by simp [Ascii]⟩
  | cons item d ih =>
      obtain ⟨key, v⟩ := item
      obtain ⟨here, rest⟩ := List.forall_mem_cons.mp light
      obtain ⟨plain, bv, written, asciiVal⟩ := val_light here
      obtain ⟨plains, bi, others, asciiRest⟩ := ih rest
      refine ⟨?_, [44] ++ (34 :: (body key ++ ([58] ++ (bv ++ bi)))), ?_, ?_⟩
      · rw [Dict.plainItems, plain, plains]
        rfl
      · rw [members, written, others]
        rfl
      · simp only [ascii_append, ascii_cons]
        exact ⟨⟨by decide, List.forall_mem_nil _⟩, by decide, ascii_body _,
          ⟨by decide, List.forall_mem_nil _⟩, asciiVal, asciiRest⟩

/-- A light object is written, and read back as it was. -/
theorem dict_light {d : Dict} (light : d.Light) :
    ∃ b, dumps .compact (.dict d) = .ok b ∧ Ascii b ∧ loads b = .ok (.dict d) := by
  obtain ⟨plain, bm, written, ascii⟩ := members_light light.light
  have whole : ∃ b, val .compact (.dict d) = some b ∧ Ascii b := by
    cases d with
    | nil => exact ⟨[123, 125], rfl, by simp [Ascii]⟩
    | cons item d =>
        obtain ⟨key, v⟩ := item
        simp only [members, Option.bind_eq_bind, Option.bind_eq_some_iff, Option.pure_def,
          Option.some.injEq] at written
        obtain ⟨bv, head, bi, tail, rfl⟩ := written
        refine ⟨123 :: 34 :: (body key ++ ([58] ++ (bv ++ bi))), ?_, ?_⟩
        · rw [val, head, tail]
          rfl
        · rw [ascii_append, ascii_cons] at ascii
          exact ascii_cons.mpr ⟨by decide, ascii_cons.mpr ascii.2⟩
  obtain ⟨b, text, ascii⟩ := whole
  have dumped : dumps .compact (.dict d) = .ok b := by rw [dumps, text]
  have plainDict : (Val.dict d).plain = true := Bool.and_eq_true_iff.mpr ⟨light.keyed, plain⟩
  refine ⟨b, dumped, ascii, ?_⟩
  rw [loads_dumps Separators.compact_lawful dumped, joined_of_plain plainDict]

end JsonText

theorem toVal_light {v : Val} {w : JsVal} (light : v.light = true)
    (made : JsRuntime.textual.ofVal v = some w) : w.toVal = v := by
  cases v with
  | none =>
      cases made
      rfl
  | bool b => cases light
  | float x => cases light
  | list xs => cases light
  | dict d => cases light
  | str s =>
      cases made
      obtain ⟨b, encoded⟩ := Option.isSome_iff_exists.mp light
      rw [JsVal.toVal, JsStr.codePoints_ofStr encoded]
  | int n =>
      cases made
      rw [Val.light, Bool.and_eq_true, decide_eq_true_eq, decide_eq_true_eq] at light
      have bound : |(n : ℚ)| < 10 ^ 21 := by
        rw [abs_of_nonneg (by exact_mod_cast light.1)]
        exact_mod_cast light.2.trans (by norm_num)
      show JsVal.toVal (.number (.finite (n : ℚ))) = _
      rw [JsVal.toVal, if_pos ⟨Rat.den_intCast n, bound⟩, Rat.num_intCast]

theorem toItems_light {d : Dict} {o : JsObject} (keyed : ∀ item ∈ d, item.1.encode.isSome = true)
    (light : ∀ item ∈ d, item.2.light = true) (made : JsRuntime.textual.ofItems d = some o) :
    JsVal.toItems o = d := by
  induction d generalizing o with
  | nil =>
      cases made
      rfl
  | cons item d ih =>
      obtain ⟨key, v⟩ := item
      obtain ⟨here, rest⟩ := List.forall_mem_cons.mp light
      obtain ⟨keyHere, keys⟩ := List.forall_mem_cons.mp keyed
      simp only [JsRuntime.ofItems, Option.bind_eq_bind, Option.bind_eq_some_iff, Option.pure_def,
        Option.some.injEq] at made
      obtain ⟨w, value, ws, values, rfl⟩ := made
      obtain ⟨b, encoded⟩ := Option.isSome_iff_exists.mp keyHere
      rw [JsVal.toItems, toVal_light here value, JsStr.codePoints_ofStr encoded,
        ih keys rest values]

theorem plain_ofItems {d : Dict} (light : ∀ item ∈ d, item.2.light = true) :
    JsRuntime.textual.ofItems d = JsRuntime.plain.ofItems d := by
  induction d with
  | nil => rfl
  | cons item d ih =>
      obtain ⟨key, v⟩ := item
      obtain ⟨here, rest⟩ := List.forall_mem_cons.mp light
      have same : JsRuntime.textual.ofVal v = JsRuntime.plain.ofVal v := by
        cases v with
        | list xs => cases here
        | dict d => cases here
        | float x => cases here
        | _ => rfl
      rw [JsRuntime.ofItems, JsRuntime.ofItems, same, ih rest]

theorem JsRuntime.textual_safe : JsRuntime.textual.SafeIntegers :=
  ⟨JsRuntime.plain_safe.read, JsRuntime.plain_safe.print⟩

/-- The two runtimes with a JSON share it. -/
theorem textual_shared : JsonShared Platform.textual.toRuntime JsRuntime.textual where
  safe := JsRuntime.textual_safe
  toPython := by
    intro d o light made
    obtain ⟨b, dumped, ascii, read⟩ := JsonText.dict_light light
    have keys := List.all_eq_true.mp (Bool.and_eq_true_iff.mp light.keyed).2
    have same := toItems_light keys light.light made
    have text : JsRuntime.textual.jsonStringify (.object o) = JsStr.ofAscii b := by
      show JsStr.ofAscii ((JsonText.val .compact (.dict (JsVal.toItems o))).getD []) = _
      rw [same]
      rw [JsonText.dumps] at dumped
      split at dumped
      · rename_i written
        cases dumped
        rw [written]
        rfl
      · cases dumped
    have small : ∀ u ∈ JsStr.ofAscii b, u.toNat < 128 := by
      intro u mem
      obtain ⟨x, here, rfl⟩ := List.mem_map.mp mem
      rw [JsStr.toNat_ofNat_toNat]
      exact ascii x here
    rw [text, JsStr.utf8_of_small small, JsStr.toAscii_ofAscii]
    exact read
  toJs := by
    intro d o text light made written
    obtain ⟨b, dumped, ascii, read⟩ := JsonText.dict_light light
    cases dumped.symm.trans written
    have back : JsRuntime.plain.ofVal (.dict d) = some (.object o) := by
      show (do return JsVal.object (← JsRuntime.plain.ofItems d)) = _
      rw [← plain_ofItems light.light, made]
      rfl
    have decoded : JsRuntime.plain.decodeUtf8 text = JsStr.ofAscii text := rfl
    have found : (JsonText.loads (JsStr.toAscii (JsRuntime.plain.decodeUtf8 text))).toOption.bind
        JsRuntime.plain.ofVal = some (.object o) := by
      rw [decoded, JsStr.toAscii_ofAscii, read]
      exact back
    dsimp only [JsRuntime.textual]
    rw [found]

/-- A codec for `latin-1` and no other name. -/
def latin1 : TextCodecs where
  encode := fun encoding text =>
    if encoding = "latin-1" then
      if text.all fun c => c.val < 256 then .ok (text.map fun c => UInt8.ofNat c.val)
      else .error ⟨.unicodeEncodeError, ["'latin-1' codec can't encode characters"]⟩
    else .error ⟨.lookupError, ["unknown encoding: ", .str encoding]⟩
  decode := fun encoding b =>
    if encoding = "latin-1" then .ok (b.map fun x => ⟨x.toNat, CodePoint.byte_lt x⟩)
    else .error ⟨.lookupError, ["unknown encoding: ", .str encoding]⟩
  named := by
    intro encoding text b encoded
    by_cases name : encoding = "latin-1"
    · exact ⟨_, name ▸ Str.encode_ofString _⟩
    · rw [if_neg name] at encoded
      cases encoded
  foreign := by
    intro encoding b e failed
    by_cases name : encoding = "latin-1"
    · rw [if_pos name] at failed
      cases failed
    · rw [if_neg name] at failed
      cases failed
      rfl

def samplePacked (t : Str) : Bytes :=
  ((packTextAs Platform.textual.toRuntime latin1 t "latin-1").toOption).getD []

/-- A letter of ASCII is the same in both. -/
theorem text_crosses_sample :
    ToPython Platform.textual.toRuntime JsRuntime.textual latin1 "A" "latin-1" ∧
      ToJs JsRuntime.textual "A" (samplePacked "A") ↔
    ReadsUtf8 latin1 "A" "latin-1" ∧ WritesUtf8 JsRuntime.textual latin1 "A" "latin-1" := by
  have packed : (packTextAs Platform.textual.toRuntime latin1 "A" "latin-1").toOption =
      some (samplePacked "A") := by decide +kernel
  exact text_crosses_iff textual_shared (Except.of_toOption packed)
    ⟨by decide +kernel, by decide +kernel⟩ (by decide +kernel)

/-- Python reads the `é` that JavaScript packed in latin-1 as two letters. -/
theorem latin1_text_changed :
    ¬ ∀ (R : Runtime) (J : JsRuntime) (codecs : TextCodecs) (t e : Str) (raw : Bytes),
      JsonShared R J → packTextAs R codecs t e = .ok raw → Packable J t e → raw.length < 2 ^ 53 →
        ToPython R J codecs t e ∧ ToJs J t raw := by
  intro always
  have packed : (packTextAs Platform.textual.toRuntime latin1 "\u00e9" "latin-1").toOption =
      some (samplePacked "\u00e9") := by decide +kernel
  have packable : Packable JsRuntime.textual "\u00e9" "latin-1" :=
    ⟨by decide +kernel, by decide +kernel⟩
  have fits : (samplePacked "\u00e9").length < 2 ^ 53 := by decide +kernel
  have unpacked : (unpackTextBy Platform.textual.toRuntime latin1.decode
      (packText JsRuntime.textual (JsStr.ofStr "\u00e9") (JsStr.ofStr "latin-1"))).toOption =
        some "\u00c3\u00a9" := by decide +kernel
  have changed : ¬ ToPython Platform.textual.toRuntime JsRuntime.textual latin1 "\u00e9"
      "latin-1" := by
    rw [ToPython, Except.of_toOption unpacked]
    decide
  have both := always Platform.textual.toRuntime JsRuntime.textual latin1 "\u00e9" "latin-1"
    (samplePacked "\u00e9") textual_shared (Except.of_toOption packed) packable fits
  exact changed both.1

end Uxsp
