import Uxsp.Core.Chunking
import Uxsp.Core.EnvelopeWire
import Uxsp.Crypto.Transparent
import Uxsp.Lib.Table

/-!
# `uxsp.transport.http`

`build` puts an envelope into the body of a request, and what routes it into headers; `parse` reads
the body under the limit of its caller, makes an envelope of it under the default limit, and
compares the headers.

`round_trip_iff` says for which envelopes and limits both serialisations return the envelope.
-/

namespace Uxsp.Http

def UXSP_VERSION : Str := "1"
def HEADER_VERSION : Str := "X-UXSP-Version"
def HEADER_SENDER : Str := "X-UXSP-Sender"
def HEADER_RECIPIENT : Str := "X-UXSP-Recipient"
def HEADER_TIMESTAMP : Str := "X-UXSP-Timestamp"
def HEADER_NONCE : Str := "X-UXSP-Nonce"
def HEADER_SEC_UXSP_SUPPORT : Str := "Sec-UXSP-Support"
def HEADER_SEC_UXSP_SELECTED : Str := "Sec-UXSP-Selected"
def DEFAULT_UXSP_SUPPORT : Str := "v1.2, ml-kem-768"
def UXSP_CONTENT_TYPE : Str := "application/uxsp+json"

abbrev Headers : Type := List (Str × Str)

/-- What `build` returns. -/
structure Message where
  headers : Headers
  body : Str
  contentType : Str

/-- A body that was received. -/
inductive Body
  | bytes (b : Bytes)
  | text (s : Str)

/-- `{name: value}` where there is a value. -/
def optionalHeader (name : Str) : Option Str → Headers
  | some (c :: s) => [(name, c :: s)]
  | _ => []

/-- `_build_envelope_response`; an `Envelope` is given as its dict. -/
def buildEnvelopeResponse (R : Runtime) (d : Dict) (secSupport secSelected : Option Str) :
    Except PyErr Message := do
  let field (name : String) : Except PyErr Str := R.str ((d.get? name).getD (.str []))
  let nonce ← field "envelope_nonce"
  let timestamp ← field "timestamp"
  let senderId ← field "sender_id"
  let recipientId ← field "recipient_id"
  let headers := [(HEADER_VERSION, UXSP_VERSION), (HEADER_NONCE, nonce),
    (HEADER_TIMESTAMP, timestamp), (HEADER_SENDER, senderId), (HEADER_RECIPIENT, recipientId)]
  let body ← (← R.jsonDumps (.dict d)).decode
  return {
    headers := headers ++ optionalHeader HEADER_SEC_UXSP_SUPPORT secSupport ++
      optionalHeader HEADER_SEC_UXSP_SELECTED secSelected
    body := body
    contentType := UXSP_CONTENT_TYPE }

/-- `UXSPHTTPRequest.build`. -/
def build (R : Runtime) (e : Envelope) (secSupport : Option Str) : Except PyErr Message :=
  buildEnvelopeResponse R e.toDict secSupport none

/-- Headers match the fields of the envelope. -/
def assertHeadersMatchEnvelope (R : Runtime) (e : Envelope)
    (senderId recipientId timestamp envelopeNonce : Str) : Except PyErr Unit := do
  let differs (what : String) : PyErr := ⟨.uxspHttpError, ["UXSP ", what,
    ". The signed body is authoritative; headers may have been tampered."]⟩
  ensure (e.senderId = senderId) (differs "sender header does not match envelope sender_id")
  ensure (e.recipientId = recipientId)
    (differs "recipient header does not match envelope recipient_id")
  ensure ((← R.str (.int e.timestamp)) = timestamp)
    (differs "timestamp header does not match envelope timestamp")
  ensure (e.envelopeNonce = envelopeNonce)
    (differs "nonce header does not match envelope envelope_nonce")

/-- The body in UTF-8, if it is within the limit. -/
def bodyText (limit : ℤ) : Body → Except PyErr Bytes
  | .bytes b => do
      ensure (b.length ≤ limit) ⟨.envelopeTooLargeError, ["Request body is ", .int b.length,
        " bytes, maximum allowed is ", .int limit, " bytes."]⟩
      let _ ← catching [.unicodeDecodeError]
        (fun _ => ⟨.uxspHttpError, ["Request body must be valid UTF-8 JSON."]⟩) b.decode
      return b
  | .text s => do
      let b ← s.utf8
      ensure (b.length ≤ limit) ⟨.envelopeTooLargeError, ["Request body (UTF-8) is ",
        .int b.length, " bytes, maximum allowed is ", .int limit, " bytes."]⟩
      return b

/-- `UXSPHTTPRequest.parse`; `lower` is `str.lower`. -/
def parse (R : Runtime) (lower : Str → Str) (headers : Headers) (body : Body) (myId : Option Str)
    (maxBytes : Option ℤ) : Except PyErr Envelope := do
  let norm := Assoc.update [] (headers.map fun header => (lower header.1, header.2))
  let getHeader (name : Str) : Except PyErr Str :=
    match norm.lookup (lower name) with
    | some value => .ok value
    | none => .error ⟨.missingUxspHeaderError,
        ["Required UXSP header missing: '", .str name, "'. Is this a UXSP request?"]⟩
  let version ← getHeader HEADER_VERSION
  ensure (version = UXSP_VERSION) ⟨.uxspVersionMismatchError, ["UXSP version mismatch. Server: ",
    .str UXSP_VERSION, ", Client: ", .str version, "."]⟩
  let senderId ← getHeader HEADER_SENDER
  let recipientId ← getHeader HEADER_RECIPIENT
  let timestamp ← getHeader HEADER_TIMESTAMP
  let envelopeNonce ← getHeader HEADER_NONCE
  ensure (myId.all fun id => recipientId = id) ⟨.wrongRecipientError, ["Envelope addressed to '",
    .str (recipientId.take 8), "...', not to this entity '", .str ((myId.getD []).take 8),
    "...'. Possible misrouted or replayed request."]⟩
  let text ← bodyText (Envelope.limit maxBytes) body
  match ← catching [.jsonDecodeError]
      (fun e => ⟨.uxspHttpError, [.lit "Invalid JSON: "] ++ e.msg⟩) (R.jsonLoads text) with
  | .dict data => do
      -- the limit of the caller is not passed on
      let parsed ← Envelope.fromDictMax R none (.dict data)
      assertHeadersMatchEnvelope R parsed senderId recipientId timestamp envelopeNonce
      return parsed
  | _ => .error ⟨.uxspHttpError, ["JSON payload must be an object/dictionary."]⟩

/-- `str.lower` of ASCII text. -/
def LowersAscii (lower : Str → Str) : Prop :=
  ∀ s : Str, (s.all fun c => c.val < 128) → lower s = Chunking.lowerAscii s

variable {R : Runtime} {lower : Str → Str} {loadsRaw : Bytes → Except PyErr Val}
  {maxBytes : Option ℤ} {secSupport : Option Str} {e e' : Envelope} {m : Message}

/-! ## A message that was built -/

/-- The headers of an envelope. -/
def envelopeHeaders (e : Envelope) : Headers :=
  [(HEADER_VERSION, UXSP_VERSION), (HEADER_NONCE, e.envelopeNonce),
    (HEADER_TIMESTAMP, Str.ofInt e.timestamp), (HEADER_SENDER, e.senderId),
    (HEADER_RECIPIENT, e.recipientId)]

theorem build_eq_ok : build R e secSupport = .ok m ↔ Str.printable e.timestamp ∧
    ∃ raw body, R.jsonDumps (.dict e.toDict) = .ok raw ∧ raw.decode = .ok body ∧
      m = ⟨envelopeHeaders e ++ optionalHeader HEADER_SEC_UXSP_SUPPORT secSupport, body,
        UXSP_CONTENT_TYPE⟩ := by
  have none : optionalHeader HEADER_SEC_UXSP_SELECTED none = [] := rfl
  have text : ∀ s, R.str (.str s) = .ok s := fun _ => rfl
  simp only [build, buildEnvelopeResponse, Envelope.toDict, Dict.get?_cons, String.reduceEq,
    if_false, if_true, Option.getD_some, bind_eq_ok, pure_eq_ok, R.str_int_eq_ok, text,
    Except.ok.injEq, exists_eq_left', none, List.append_nil]
  constructor
  · rintro ⟨_, ⟨printable, rfl⟩, raw, dumped, body, decoded, rfl⟩
    exact ⟨printable, raw, body, dumped, decoded, rfl⟩
  · rintro ⟨printable, raw, body, dumped, decoded, rfl⟩
    exact ⟨_, ⟨printable, rfl⟩, raw, dumped, body, decoded, rfl⟩

/-- The names of the headers in lower case, which differ. -/
theorem lowered_names (lowers : LowersAscii lower) :
    [HEADER_VERSION, HEADER_NONCE, HEADER_TIMESTAMP, HEADER_SENDER, HEADER_RECIPIENT,
      HEADER_SEC_UXSP_SUPPORT].map lower =
    ["x-uxsp-version", "x-uxsp-nonce", "x-uxsp-timestamp", "x-uxsp-sender", "x-uxsp-recipient",
      "sec-uxsp-support"].map Str.ofString := by
  simp only [List.map_cons, List.map_nil, List.cons.injEq, and_true]
  refine ⟨?_, ?_, ?_, ?_, ?_, ?_⟩
  all_goals exact (lowers _ (by decide)).trans (by decide)

/-- The headers that a receiver finds, whether or not the sender adds what it supports. -/
theorem lookup_norm (lowers : LowersAscii lower) {name value : Str}
    (mem : (name, value) ∈ envelopeHeaders e) :
    (Assoc.update [] ((envelopeHeaders e ++ optionalHeader HEADER_SEC_UXSP_SUPPORT secSupport).map
      fun header => (lower header.1, header.2))).lookup (lower name) = some value := by
  have names := lowered_names lowers
  have all : ((envelopeHeaders e ++ optionalHeader HEADER_SEC_UXSP_SUPPORT secSupport).map
      fun header => (lower header.1, header.2)).map Prod.fst <+:
        [HEADER_VERSION, HEADER_NONCE, HEADER_TIMESTAMP, HEADER_SENDER, HEADER_RECIPIENT,
          HEADER_SEC_UXSP_SUPPORT].map lower := by
    rcases secSupport with _ | _ | ⟨c, s⟩
    · exact ⟨[lower HEADER_SEC_UXSP_SUPPORT], rfl⟩
    · exact ⟨[lower HEADER_SEC_UXSP_SUPPORT], rfl⟩
    · exact ⟨[], rfl⟩
  have distinct := all.sublist.nodup (names ▸
    List.Nodup.map (fun a b same => Str.ofString_inj.mp same) (by decide))
  rw [Assoc.update_nil distinct]
  refine Table.lookup_of_mem distinct ?_
  exact List.mem_map.mpr ⟨(name, value), List.mem_append_left _ mem, rfl⟩

/-- What is parsed of a message that was built. -/
theorem parse_built (lowers : LowersAscii lower) {raw : Bytes} {body : Str} {data : Dict}
    (encoded : body.encode = some raw) (read : R.jsonLoads raw = .ok (.dict data)) :
    parse R lower (envelopeHeaders e ++ optionalHeader HEADER_SEC_UXSP_SUPPORT secSupport)
        (.text body) none maxBytes = .ok e' ↔
      raw.length ≤ Envelope.limit maxBytes ∧ Envelope.fromDictMax R none (.dict data) = .ok e' ∧
        assertHeadersMatchEnvelope R e' e.senderId e.recipientId (Str.ofInt e.timestamp)
          e.envelopeNonce = .ok () := by
  have found : ∀ item ∈ envelopeHeaders e, (Assoc.update [] ((envelopeHeaders e ++
      optionalHeader HEADER_SEC_UXSP_SUPPORT secSupport).map fun header =>
        (lower header.1, header.2))).lookup (lower item.1) = some item.2 := fun item mem =>
    lookup_norm lowers mem
  simp only [envelopeHeaders, List.forall_mem_cons] at found
  obtain ⟨version, nonce, timestamp, sender, recipient, -⟩ := found
  simp only [parse, envelopeHeaders, version, nonce, timestamp, sender, recipient, bodyText,
    Str.utf8_eq_ok.mpr encoded, bind_eq_ok, pure_eq_ok, ensure_eq_ok, decide_eq_true_eq,
    Except.ok.injEq, exists_eq_left', exists_const, Option.all_none, true_and, catching_eq_ok]
  constructor
  · rintro ⟨_, ⟨fits, rfl⟩, v, loaded, made⟩
    obtain rfl := Except.ok.inj (read.symm.trans loaded)
    simp only [bind_eq_ok, pure_eq_ok] at made
    obtain ⟨_, parsed, _, same, rfl⟩ := made
    exact ⟨fits, parsed, same⟩
  · rintro ⟨fits, parsed, same⟩
    refine ⟨raw, ⟨fits, rfl⟩, _, read, ?_⟩
    simp only [bind_eq_ok, pure_eq_ok]
    exact ⟨e', parsed, (), same, rfl⟩

/-- The headers of an envelope match it. -/
theorem headers_match (printable : Str.printable e.timestamp) :
    assertHeadersMatchEnvelope R e e.senderId e.recipientId (Str.ofInt e.timestamp)
      e.envelopeNonce = .ok () := by
  simp only [assertHeadersMatchEnvelope, bind_eq_ok, ensure_eq_ok, R.str_int_eq_ok, printable,
    decide_true, true_and, exists_const]
  exact ⟨_, rfl, decide_eq_true rfl, trivial⟩

/-- A message that was built is parsed to its envelope exactly if its text with spaces is within the
limit of the caller, the compact one within the default limit, and no field has a surrogate pair. -/
theorem parse_build_iff (json : R.JsonRereads) (exact : R.JsonExact) (lowers : LowersAscii lower)
    (version : e.version = Uxsp.UXSP_VERSION) (built : build R e secSupport = .ok m) :
    parse R lower m.headers (.text m.body) none maxBytes = .ok e ↔
      e.compactSize + 21 ≤ Envelope.limit maxBytes ∧ e.compactSize ≤ Envelope.MAX_BYTES ∧
        e.Unpaired := by
  obtain ⟨printable, raw, body, dumped, decoded, rfl⟩ := build_eq_ok.mp built
  obtain ⟨raw', dumped', -, length, ascii⟩ := Envelope.exists_toBytes exact printable
  obtain rfl := Except.ok.inj (dumped.symm.trans dumped')
  have encoded := Bytes.encode_ascii fun x mem =>
    UInt8.lt_of_le_of_lt (ascii x mem).2 (by decide)
  obtain rfl := Except.ok.inj (decoded.symm.trans (Bytes.decode_encode encoded))
  have read := (json.dumps dumped).trans (congrArg Except.ok Envelope.reread_toDict)
  rw [parse_built lowers encoded read, Envelope.fromDictMax_eq_ok, Envelope.reads_toDict_iff, length,
    ← Envelope.reread_eq_self, Nat.cast_add, Nat.cast_ofNat]
  refine and_congr_right fun fits => ?_
  obtain ⟨text, compact, size⟩ := Envelope.exists_text printable .compact
  have size : text.length = e.compactSize := by
    simp only [JsonText.Separators.compact, List.length_cons, List.length_nil] at size
    omega
  constructor
  · rintro ⟨⟨same, -, text', compact', small⟩, -⟩
    rw [← same, exact.compact compact] at compact'
    obtain rfl := Except.ok.inj compact'
    refine ⟨?_, same.symm⟩
    rw [size] at small
    exact Nat.cast_le.mp small
  · rintro ⟨small, same⟩
    rw [same]
    refine ⟨⟨rfl, version, text, exact.compact compact, ?_⟩, headers_match printable⟩
    rw [size]
    exact Nat.cast_le.mpr small

/-- `Envelope.from_bytes(e.to_bytes(), max_bytes=m)`. -/
def viaBytes (R : Runtime) (loadsRaw : Bytes → Except PyErr Val) (maxBytes : Option ℤ)
    (e : Envelope) : Except PyErr Envelope := do
  Envelope.fromBytes R loadsRaw maxBytes (← e.toBytes R)

/-- `UXSPHTTPRequest.parse` of what `UXSPHTTPRequest.build` made. -/
def viaHttp (R : Runtime) (lower : Str → Str) (secSupport : Option Str) (maxBytes : Option ℤ)
    (e : Envelope) : Except PyErr Envelope := do
  let m ← build R e secSupport
  parse R lower m.headers (.text m.body) none maxBytes

/-- Both serialisations of an accepted envelope give it back under the same limit exactly if its
number prints, no field has a surrogate pair, its text with spaces is within the limit and its
compact text within the default one. -/
theorem round_trip_iff (json : R.JsonRereads) (exact : R.JsonExact) (loads : R.LoadsRaw loadsRaw)
    (lowers : LowersAscii lower) {v : Val}
    (accepted : Envelope.fromDictMax R maxBytes v = .ok e) :
    (viaBytes R loadsRaw maxBytes e = .ok e ∧ viaHttp R lower secSupport maxBytes e = .ok e) ↔
      Str.printable e.timestamp ∧ e.Unpaired ∧
        e.compactSize + 21 ≤ Envelope.limit maxBytes ∧ e.compactSize ≤ Envelope.MAX_BYTES := by
  have version := Envelope.version_of_fromDictMax accepted
  simp only [viaBytes, viaHttp, bind_eq_ok]
  constructor
  · rintro ⟨-, m, built, parsed⟩
    obtain ⟨fits, small, unpaired⟩ := (parse_build_iff json exact lowers version built).mp parsed
    exact ⟨(build_eq_ok.mp built).1, unpaired, fits, small⟩
  · rintro ⟨printable, unpaired, fits, small⟩
    obtain ⟨raw, dumped, written, -, ascii⟩ := Envelope.exists_toBytes exact printable
    have encoded := Bytes.encode_ascii fun x mem =>
      UInt8.lt_of_le_of_lt (ascii x mem).2 (by decide)
    have built : build R e secSupport = .ok _ :=
      build_eq_ok.mpr ⟨printable, raw, _, dumped, Bytes.decode_encode encoded, rfl⟩
    exact ⟨⟨raw, written, (Envelope.fromBytes_toBytes_iff json exact loads printable version
        written).mpr ⟨fits, unpaired⟩⟩,
      _, built, (parse_build_iff json exact lowers version built).mpr ⟨fits, small, unpaired⟩⟩

/-! ## An envelope at its limit -/

/-- The smallest envelope. -/
def sampleEnvelope : Envelope :=
  ⟨Uxsp.UXSP_VERSION, [], [], 0, [], [], [], [], [], [], []⟩

theorem sampleEnvelope_size : sampleEnvelope.compactSize = 185 := by decide

theorem sampleEnvelope_unpaired : sampleEnvelope.Unpaired := by
  rw [← Envelope.reread_eq_self]
  rfl

/-- Its compact text is accepted under a limit that is not below its length. -/
theorem sampleEnvelope_accepted {limit : ℤ} (room : 185 ≤ limit) :
    Envelope.fromDictMax Platform.reading.toRuntime (some limit) (.dict sampleEnvelope.toDict) =
      .ok sampleEnvelope := by
  obtain ⟨text, compact, size⟩ := Envelope.exists_text (e := sampleEnvelope) rfl .compact
  simp only [JsonText.Separators.compact, List.length_cons, List.length_nil,
    sampleEnvelope_size] at size
  refine Envelope.fromDictMax_eq_ok.mpr ⟨Envelope.reads_toDict _ _, rfl, text,
    Platform.reading_exact.compact compact, ?_⟩
  show (text.length : ℤ) ≤ limit
  omega

/-- With 21 bytes more the sample makes the round trip. -/
theorem round_trip_iff_sample :
    (viaBytes Platform.reading.toRuntime Platform.reading.jsonLoads (some 206) sampleEnvelope =
        .ok sampleEnvelope ∧
      viaHttp Platform.reading.toRuntime Chunking.lowerAscii (some DEFAULT_UXSP_SUPPORT) (some 206)
        sampleEnvelope = .ok sampleEnvelope) ↔
      Str.printable sampleEnvelope.timestamp ∧ sampleEnvelope.Unpaired ∧
        sampleEnvelope.compactSize + 21 ≤ Envelope.limit (some 206) ∧
        sampleEnvelope.compactSize ≤ Envelope.MAX_BYTES :=
  round_trip_iff Platform.reading_json Platform.reading_exact (fun _ => rfl) (fun _ _ => rfl)
    (sampleEnvelope_accepted (by decide))

/-- An envelope that exactly fits is refused when it is read back. -/
theorem refused_at_limit : ¬ ∀ (maxBytes : Option ℤ) (v : Val) (e : Envelope),
    Envelope.fromDictMax Platform.reading.toRuntime maxBytes v = .ok e →
    viaBytes Platform.reading.toRuntime Platform.reading.jsonLoads maxBytes e = .ok e ∧
      viaHttp Platform.reading.toRuntime Chunking.lowerAscii (some DEFAULT_UXSP_SUPPORT) maxBytes e =
        .ok e := by
  intro always
  obtain ⟨back, -⟩ := always (some 185) _ _ (sampleEnvelope_accepted le_rfl)
  obtain ⟨raw, written, read⟩ := bind_eq_ok.mp back
  have fits := ((Envelope.fromBytes_toBytes_iff Platform.reading_json Platform.reading_exact
    (fun _ => rfl) rfl rfl written).mp read).1
  rw [sampleEnvelope_size] at fits
  exact absurd fits (by decide)

end Uxsp.Http
