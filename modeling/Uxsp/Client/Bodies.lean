import Uxsp.Client.Peers
import Uxsp.Secure.PackageText
import Uxsp.Transport.Http

/-!
# What `fetch` carries to a peer

The plain path encodes a body by the argument it came in.  The sealed path gives it to `Send`, which
infers a type of its own.  `body_carried_iff`: the peer receives the body exactly if it is bytes, a
string that names no file, a list or a dict, and its payload can be sealed.
-/

namespace Uxsp.Client

open Secure

variable {P : Platform} {C : CapabilityCache} {S : SeenStore} {m : Machine P}
  {client : UXSPClient P} {call : FetchCall P} {w : World C S} {hostKey : Str} {card : Card}

/-! ## Bodies -/

/-- A body that the plain path encodes. -/
inductive Body
  | json (v : Val)
  | bytes (b : Bytes)
  | text (s : Str)
  | form (d : Dict)

/-- What the arguments of a call say to send. -/
def FetchCall.body (call : FetchCall P) : Option Body :=
  if call.actualJson.isNone then
    match call.data with
    | .bytes b => some (.bytes b)
    | .value (.str s) => some (.text s)
    | .value (.dict d) => some (.form d)
    | _ => none
  else some (.json call.actualJson)

/-- The data types that `Send` infers where no file is named. -/
inductive BodyShape
  | text
  | json
  | binary

namespace BodyShape

def dataType : BodyShape → String
  | text => "text"
  | json => "json"
  | binary => "binary"

def payload (raw : Bytes) : BodyShape → UXSPPayload
  | text => textPayload raw "text/plain"
  | json => textPayload raw "application/json"
  | binary => ⟨.binary, raw, none, "application/octet-stream", none⟩

/-- The length of a payload, from the length of the body in it. -/
def size (length : ℕ) : BodyShape → ℕ
  | text => 108 + (Str.ofInt length).length + length
  | json => 114 + (Str.ofInt length).length + length
  | binary => 121 + (Str.ofInt length).length + length

end BodyShape

/-- `json.dumps(v, ensure_ascii=False).encode()`. -/
def jsonRaw (codecs : Codecs) (v : Val) : Option Bytes := (codecs.dumps v).toOption.bind Str.encode

namespace Body

/-- What `Send` is given. -/
def item : Body → SendItem
  | json v => .value v
  | bytes b => .bytes b
  | text s => .value (.str s)
  | form d => .value (.dict d)

/-- The body, as a receiver returns it. -/
def value : Body → Item
  | json v => .json v
  | bytes b => .bytes b
  | text s => .text s
  | form d => .json (.dict d)

/-- The string that `Send` looks for in the file system. -/
def name? : Body → Option Str
  | json (.str s) | text s => some s
  | _ => none

/-- The bytes of a body and the shape in which they are packed, if the body has one. -/
def packed (codecs : Codecs) : Body → Option (BodyShape × Bytes)
  | json (.str s) | text s => s.encode.map (.text, ·)
  | json (.list xs) => (jsonRaw codecs (.list xs)).map (.json, ·)
  | json (.dict d) | form d => (jsonRaw codecs (.dict d)).map (.json, ·)
  | bytes b => some (.binary, b)
  | json _ => none

end Body

/-! ## What `Send` packs -/

theorem packJSON_eq_ok {R : Runtime} {codecs : Codecs} {v : Val} {payload : Bytes} :
    packJSON R codecs v = .ok payload ↔ ∃ raw, jsonRaw codecs v = some raw ∧
      (BodyShape.json.payload raw).toBytes R = .ok payload := by
  rw [packJSON, jsonRaw]
  cases codecs.dumps v with
  | error e => simp [Except.toOption]
  | ok text =>
      simp only [bind_eq_ok, Str.utf8_eq_ok]
      exact Iff.rfl

theorem packText_eq_ok {R : Runtime} {payload : Bytes} {s : Str} :
    packText R s = .ok payload ↔ ∃ raw, s.encode = some raw ∧
      (BodyShape.text.payload raw).toBytes R = .ok payload := by
  simp only [packText, bind_eq_ok, Str.utf8_eq_ok]
  exact Iff.rfl

theorem packBinary_eq_ok {R : Runtime} {data payload : Bytes} :
    packBinary R data none "application/octet-stream" = .ok payload ↔
      (BodyShape.binary.payload data).toBytes R = .ok payload := by
  have type : (Str.ofString "application/octet-stream") ≠ [] := by decide
  simp only [packBinary, bind_eq_ok, ensure_eq_ok, decide_eq_true_eq]
  constructor
  · rintro ⟨_, _, _, _, packed⟩
    exact packed
  · exact fun packed => ⟨(), type, (), (Option.some_ne_none _).symm, packed⟩

/-- What `Send` packs of a body that names no file. -/
theorem packItem_eq_ok {R : Runtime} {codecs : Codecs} {files : Files} {body : Body}
    (unnamed : ∀ name ∈ body.name?, files name = none) {payload : Bytes} {dataType : Str} :
    packItem R codecs files body.item = .ok (payload, dataType) ↔
      ∃ shape raw, body.packed codecs = some (shape, raw) ∧
        (shape.payload raw).toBytes R = .ok payload ∧ dataType = shape.dataType := by
  have shaped (shape : BodyShape) (found : Option Bytes) {x : Except PyErr Bytes}
      (packs : x = .ok payload ↔ ∃ raw, found = some raw ∧
        (shape.payload raw).toBytes R = .ok payload) :
      (do let payload ← x; return (payload, Str.ofString shape.dataType)) =
        Except.ok (payload, dataType) ↔
      ∃ shape' raw, found.map (shape, ·) = some (shape', raw) ∧
        (shape'.payload raw).toBytes R = .ok payload ∧ dataType = shape'.dataType := by
    simp only [bind_eq_ok, pure_eq_ok, Prod.mk.injEq, Option.map_eq_some_iff]
    constructor
    · rintro ⟨_, made, rfl, rfl⟩
      obtain ⟨raw, here, packed⟩ := packs.mp made
      exact ⟨shape, raw, ⟨raw, here, rfl, rfl⟩, packed, rfl⟩
    · rintro ⟨_, _, ⟨raw, here, rfl, rfl⟩, packed, rfl⟩
      exact ⟨payload, packs.mpr ⟨raw, here, packed⟩, rfl, rfl⟩
  have string {s : Str} (none : files s = none) :
      packItem R codecs files (.value (.str s)) = .ok (payload, dataType) ↔
      ∃ shape raw, s.encode.map (BodyShape.text, ·) = some (shape, raw) ∧
        (shape.payload raw).toBytes R = .ok payload ∧ dataType = shape.dataType := by
    rw [packItem, none]
    exact shaped .text _ packText_eq_ok
  have refused {e : PyErr} :
      (Except.error e : Except PyErr (Bytes × Str)) = .ok (payload, dataType) ↔
      ∃ shape raw, (none : Option (BodyShape × Bytes)) = some (shape, raw) ∧
        (shape.payload raw).toBytes R = .ok payload ∧ dataType = shape.dataType := by
    simp
  cases body with
  | text s => exact string (unnamed s rfl)
  | bytes b =>
      refine shaped .binary (some b) ?_
      simp only [packBinary_eq_ok, Option.some.injEq, exists_eq_left']
  | form d => exact shaped .json _ packJSON_eq_ok
  | json v =>
      cases v with
      | str s => exact string (unnamed s rfl)
      | list xs => exact shaped .json _ packJSON_eq_ok
      | dict d => exact shaped .json _ packJSON_eq_ok
      | none => exact refused
      | bool b => exact refused
      | int n => exact refused
      | float x => exact refused

/-- A string that names a file is packed as the file. -/
theorem packItem_named {R : Runtime} {codecs : Codecs} {files : Files} {body : Body} {name : Str}
    {packed : Except PyErr (Bytes × Str)} (named : body.name? = some name)
    (found : files name = some packed) : packItem R codecs files body.item = packed := by
  have string {s : Str} (same : some s = some name) :
      packItem R codecs files (.value (.str s)) = packed := by
    rw [packItem, Option.some.inj same, found]
  cases body with
  | text s => exact string named
  | bytes b => cases named
  | form d => cases named
  | json v =>
      cases v with
      | str s => exact string named
      | _ => cases named

/-- How long a payload is. -/
theorem BodyShape.exists_toBytes {R : Runtime} (exact : R.JsonExact) (shape : BodyShape)
    {raw : Bytes} (printable : Str.printable raw.length) :
    ∃ payload, (shape.payload raw).toBytes R = .ok payload ∧
      payload.length = shape.size raw.length := by
  obtain ⟨digits, written, length⟩ := Envelope.length_number printable
  have short := Str.length_ofInt printable
  have header : ∃ text, JsonText.val .compact (.dict (shape.payload raw).header) = some text ∧
      18 + text.length + raw.length = shape.size raw.length := by
    have keys : ["kind", "filename", "content_type", "encoding", "body_len"].map
        (fun k => (JsonText.body (Str.ofString k)).length) = [5, 9, 13, 9, 9] := by decide
    have null : (Bytes.lit "null").length = 4 := by decide
    simp only [List.map_cons, List.map_nil, List.cons.injEq, and_true] at keys
    have kinds : (JsonText.body ChunkKind.text.str).length = 5 ∧
        (JsonText.body ChunkKind.binary.str).length = 7 := by decide
    have types : ["text/plain", "application/json", "application/octet-stream", "utf-8"].map
        (fun k => (JsonText.body (Str.ofString k)).length) = [11, 17, 25, 6] := by decide
    simp only [List.map_cons, List.map_nil, List.cons.injEq, and_true] at types
    cases shape
    all_goals
      simp only [UXSPPayload.header, BodyShape.payload, textPayload, UXSPChunk.optional,
        JsonText.val, JsonText.members, written, Option.bind_eq_bind, Option.bind_some,
        Option.pure_def, Option.some.injEq, exists_eq_left', JsonText.Separators.compact,
        List.length_append, List.length_cons, List.length_nil, keys, null, kinds, types, length,
        BodyShape.size]
      omega
  obtain ⟨text, written, size⟩ := header
  have few : text.length ≤ 0xFFFFFFFF := by
    have bound : shape.size raw.length ≤ 4422 + raw.length := by
      cases shape <;> simp only [BodyShape.size] <;> omega
    omega
  refine ⟨UXSPPayload.MAGIC ++ packLength text.length ++ text ++ (shape.payload raw).body, ?_, ?_⟩
  · simp only [UXSPPayload.toBytes, exact.compact written, bind_eq_ok, Except.ok.injEq,
      exists_eq_left', ensure_eq_ok, decide_eq_true_eq, pure_eq_ok]
    exact ⟨(), few, trivial⟩
  · have magic : UXSPPayload.MAGIC.length = 14 := by decide
    have body : (shape.payload raw).body = raw := by cases shape <;> rfl
    rw [← size]
    simp only [List.length_append, magic, UXSPChunk.length_packLength, body]
    rfl

/-! ## What `fetch` hands to the HTTP library -/

/-- The sending of the package of a call. -/
def UXSPClient.sending (m : Machine P) (client : UXSPClient P) (call : FetchCall P) (card : Card) :
    Sending P :=
  { call.sending with
    sender := client.activeIdentity m
    peer := ⟨card.entityId, card⟩
    metadata := [] }

/-- The call takes the sealed path to a host that answers: the answer is noted, and it is read or
may be left unread. -/
structure Speaks (m : Machine P) (client : UXSPClient P) (call : FetchCall P) (w : World C S)
    (hostKey : Str) (card : Card) (cache : C.State) : Prop where
  planned : plan m client call w = (.ok (hostKey, .uxsp card), cache)
  canSend : canSend client call.url = true
  answered : ∃ reply, call.reply = .ok reply ∧
    succeeded (C.set cache hostKey (answeredCapability m call card reply)).1 = true ∧
    (client.allowFallback = true ∨ isUxspResponse m reply = false ∨
      succeeded (openReply m client call card reply w.seen w.tree).1 = true)

theorem sealRequest_eq_ok {body : Body} (given : call.body = some body) {package : SecurePackage}
    {content : Bytes} : sealRequest m client call card = .ok (package, content) ↔
      ∃ payload dataType, packItem P.toRuntime m.site.codecs m.files body.item =
          .ok (payload, dataType) ∧
        sendPayload (client.activeIdentity m) ⟨card.entityId, card⟩ payload dataType []
          call.sending.checked call.sending.now call.sending.coins = .ok package ∧
        package.toJson P.toRuntime = .ok content := by
  rw [sealRequest]
  generalize shape : ite (call.actualJson.isNone = true) _ _ = item
  have same : item = body.item := by
    rw [← shape]
    unfold FetchCall.body at given
    split at given
    · rename_i none
      rw [if_pos none]
      split at given <;> rename_i data <;> cases given <;> rw [data] <;> rfl
    · rename_i some
      cases given
      rw [if_neg some]
      rfl
  rw [same]
  simp only [send, bind_eq_ok, pure_eq_ok, Prod.exists, Prod.mk.injEq]
  constructor
  · rintro ⟨_, ⟨payload, dataType, packed, sent⟩, _, written, rfl, rfl⟩
    exact ⟨payload, dataType, packed, sent, written⟩
  · rintro ⟨payload, dataType, packed, sent, written⟩
    exact ⟨package, ⟨payload, dataType, packed, sent⟩, content, written, rfl, rfl⟩

theorem readReply_sent {reply : Reply} :
    (readReply m client call card reply w).2.sent = w.sent := by
  unfold readReply
  split
  · split
    · rfl
    · split <;> rfl
  · rfl

theorem readReply_ok {reply : Reply} (read : client.allowFallback = true ∨
      isUxspResponse m reply = false ∨
      succeeded (openReply m client call card reply w.seen w.tree).1 = true) :
    ∃ response, (readReply m client call card reply w).1 = .ok response := by
  unfold readReply
  split
  · rename_i marked
    split
    · exact ⟨_, rfl⟩
    · rename_i failed
      split
      · exact ⟨_, rfl⟩
      · rename_i strict
        rw [marked, failed] at read
        rcases read with fallback | other | opened
        · exact absurd fallback strict
        · cases other
        · cases opened
  · exact ⟨_, rfl⟩

/-- A package that was sealed is handed over, and nothing else. -/
theorem Speaks.fetch_sent {cache : C.State} (speaks : Speaks m client call w hostKey card cache)
    {package : SecurePackage} {content : Bytes}
    (made : sealRequest m client call card = .ok (package, content)) :
    (fetch m client call w).2.sent =
      w.sent ++ [⟨uxspRequest m client call card content, .package package⟩] := by
  obtain ⟨reply, replied, noted, read⟩ := speaks.answered
  have sent : ∃ response, sendUxsp m client call hostKey card { w with cache := cache } =
      (.ok response, (sendUxsp m client call hostKey card { w with cache := cache }).2) ∧
      (sendUxsp m client call hostKey card { w with cache := cache }).2.sent =
        w.sent ++ [⟨uxspRequest m client call card content, .package package⟩] := by
    have handed : rawSend client ⟨uxspRequest m client call card content, .package package⟩
        call.reply w.sent =
          (.ok reply, w.sent ++ [⟨uxspRequest m client call card content, .package package⟩]) := by
      rw [rawSend, replied]
      exact if_pos speaks.canSend
    rw [sendUxsp, made]
    simp only [handed]
    cases set : C.set cache hostKey (answeredCapability m call card reply) with
    | mk result after =>
        rw [set] at noted
        cases result with
        | error e => cases noted
        | ok _ =>
            obtain ⟨response, returned⟩ : ∃ response, (readReply m client call card reply
                { w with sent := w.sent ++ [⟨uxspRequest m client call card content,
                  .package package⟩], cache := after }).1 = .ok response := readReply_ok read
            exact ⟨response, Prod.ext returned rfl, readReply_sent⟩
  obtain ⟨response, returned, sent⟩ := sent
  rw [fetch, speaks.planned]
  show (uxspFetch m client call hostKey card { w with cache := cache }).2.sent = _
  rw [uxspFetch, returned]
  exact sent

/-- Nothing else than a package is taken for one. -/
theorem rawSend_sent_ne {x : Transmission} {reply : Except PyErr Reply} {sent : List Transmission}
    {request : Request} {package : SecurePackage} (other : x.carries ≠ .package package) :
    (rawSend client x reply sent).2 ≠ sent ++ [⟨request, .package package⟩] := by
  unfold rawSend
  split
  · intro same
    have last : x = ⟨request, .package package⟩ :=
      List.singleton_inj.mp (List.append_cancel_left same)
    exact other (congrArg Transmission.carries last)
  · intro same
    exact absurd (congrArg List.length same) (by simp)

/-- Without a package that was sealed none is handed over. -/
theorem fetch_sent_unsealed {cache : C.State}
    (planned : plan m client call w = (.ok (hostKey, .uxsp card), cache)) {e : PyErr}
    (failed : sealRequest m client call card = .error e) {request : Request}
    {package : SecurePackage} :
    (fetch m client call w).2.sent ≠ w.sent ++ [⟨request, .package package⟩] := by
  have unchanged : w.sent ≠ w.sent ++ [⟨request, .package package⟩] := by
    intro same
    exact absurd (congrArg List.length same) (by simp)
  have lost : sendUxsp m client call hostKey card { w with cache := cache } =
      (.error e, { w with cache := cache }) := by
    rw [sendUxsp, failed]
  rw [fetch, planned]
  show (uxspFetch m client call hostKey card { w with cache := cache }).2.sent ≠ _
  rw [uxspFetch, lost]
  simp only
  split
  · exact unchanged
  · split
    · exact unchanged
    · show (sendPlain m client call call.headers call.fallbackReply w.sent).2 ≠ _
      unfold sendPlain
      split
      · exact unchanged
      · rename_i content _
        have plain : (rawSend client {
            request := ⟨call.method, call.url, plainHeaders call call.headers, content⟩
            carries := if content.isSome then .plaintext else .nothing } call.fallbackReply
            w.sent).2 ≠ w.sent ++ [⟨request, .package package⟩] := by
          refine rawSend_sent_ne ?_
          cases content <;> exact nofun
        split
        · rename_i returned
          rw [returned] at plain
          exact plain
        · rename_i returned
          rw [returned] at plain
          exact plain

/-! ## What the peer receives -/

def BodyShape.receiver : BodyShape → Receiver
  | text => .text
  | json => .json
  | binary => .binary

theorem receiverOf_dataType {codecs : Codecs} (lowers : Http.LowersAscii codecs.lower)
    (shape : BodyShape) : receiverOf codecs (Str.ofString shape.dataType) = shape.receiver := by
  have ascii : ((Str.ofString shape.dataType).all fun c => c.val < 128) = true := by
    cases shape <;> decide
  have lowered : Chunking.lowerAscii (Str.ofString shape.dataType) =
      Str.ofString shape.dataType := by
    cases shape <;> decide
  rw [receiverOf]
  simp only [lowers _ ascii, lowered]
  cases shape <;> rfl

section Received

variable {site : Site P} {T : SeenStore} {s : T.State} {t : FileTree} {a : Arrival P}

/-- What the receiver of its data type makes of a payload is the body. -/
theorem Body.received (json : P.JsonRereads) (lawful : site.codecs.Lawful P.toRuntime)
    (saved : a.downloadPath = none) {body : Body} {shape : BodyShape} {raw payload : Bytes}
    (made : body.packed site.codecs = some (shape, raw))
    (framed : (shape.payload raw).toBytes P.toRuntime = .ok payload)
    (found : ∀ unpack, (receiveWith site T s a (some (Str.ofString shape.dataType)) unpack).1 =
      unpack payload) :
    ∃ item, (shape.receiver.run site T s t a).1 = .ok (.unsaved t item) ∧
      item.normal = body.value.normal := by
  have text {str : Str} (encoded : str.encode.map (BodyShape.text, ·) = some (shape, raw)) :
      (shape.receiver.run site T s t a).1 = .ok (.unsaved t (.text str)) := by
    obtain ⟨_, encoded, same⟩ := Option.map_eq_some_iff.mp encoded
    cases same
    exact (found _).trans
      (unpackTextItem_packText json lawful saved (packText_eq_ok.mpr ⟨raw, encoded, framed⟩))
  have value {v : Val} (dumped : (jsonRaw site.codecs v).map (BodyShape.json, ·) =
      some (shape, raw)) :
      (shape.receiver.run site T s t a).1 = .ok (.unsaved t (.json v)) := by
    obtain ⟨_, dumped, same⟩ := Option.map_eq_some_iff.mp dumped
    cases same
    exact (found _).trans
      (unpackJson_packJSON json lawful saved (packJSON_eq_ok.mpr ⟨raw, dumped, framed⟩))
  cases body with
  | text str => exact ⟨_, text made, rfl⟩
  | form d => exact ⟨_, value made, rfl⟩
  | bytes b =>
      cases made
      exact ⟨_, (found _).trans
        (unpackBinary_packBinary json saved (packBinary_eq_ok.mpr framed)), rfl⟩
  | json v =>
      cases v with
      | str str => exact ⟨_, text made, rfl⟩
      | list xs => exact ⟨_, value made, rfl⟩
      | dict d => exact ⟨_, value made, rfl⟩
      | none => cases made
      | bool b => cases made
      | int n => cases made
      | float x => cases made

end Received

/-! ## What is carried -/

/-- The package is made of what is in a local file that the body names. -/
def Body.FromFile (m : Machine P) (client : UXSPClient P) (call : FetchCall P) (card : Card)
    (body : Body) (package : SecurePackage) : Prop :=
  ∃ name payload dataType, body.name? = some name ∧ m.files name = some (.ok (payload, dataType)) ∧
    sendPayload (client.activeIdentity m) ⟨card.entityId, card⟩ payload dataType []
      call.sending.checked call.sending.now call.sending.coins = .ok package

/-- The call hands one package to the HTTP library, which is not made of a local file, and the peer
receives the body from it. -/
def Carried (m : Machine P) (client : UXSPClient P) (call : FetchCall P) (w : World C S)
    (card : Card) (body : Body) (site : Site P) (T : SeenStore) (s : T.State) (t : FileTree)
    (a : Arrival P) : Prop :=
  ∃ package content item,
    (fetch m client call w).2.sent =
      w.sent ++ [⟨uxspRequest m client call card content, .package package⟩] ∧
    ¬ body.FromFile m client call card package ∧
    (receive site T s t { a with package := .text content }).1 = .ok (.unsaved t item) ∧
    item.normal = body.value.normal

/-- The body names no file, has a type that `Send` infers and goes into chunks or an envelope. -/
structure Body.Sendable (m : Machine P) (client : UXSPClient P) (card : Card) (body : Body) :
    Prop where
  unnamed : ∀ name ∈ body.name?, m.files name = none
  fits : ∃ shape raw, body.packed m.site.codecs = some (shape, raw) ∧
    (ENVELOPE_LIMIT < shape.size raw.length ∨ sealedSize (client.activeIdentity m).entityId
      card.entityId (shape.size raw.length) ≤ Envelope.MAX_BYTES)

/-- The payload of a body is one that a `bytes` object can hold. -/
def Body.Addressable (codecs : Codecs) (body : Body) : Prop :=
  ∀ shape raw, body.packed codecs = some (shape, raw) → shape.size raw.length < 2 ^ 63

theorem BodyShape.length_le_size (shape : BodyShape) (length : ℕ) : length ≤ shape.size length := by
  cases shape <;> exact Nat.le_add_left _ _

/-- The payload of a body with a type. -/
theorem Body.Addressable.exists_payload {codecs : Codecs} {body : Body}
    (addressable : body.Addressable codecs) (exact : P.JsonExact) {shape : BodyShape} {raw : Bytes}
    (made : body.packed codecs = some (shape, raw)) :
    ∃ payload, (shape.payload raw).toBytes P.toRuntime = .ok payload ∧
      payload.length = shape.size raw.length ∧ payload.length < 2 ^ 63 := by
  have bound := addressable shape raw made
  have small := shape.length_le_size raw.length
  obtain ⟨payload, framed, size⟩ :=
    shape.exists_toBytes exact (printable_of_small (n := raw.length) (by omega))
  exact ⟨payload, framed, size, by omega⟩

section Carried

variable {site : Site P} {T : SeenStore} {s : T.State} {t : FileTree} {a : Arrival P}
  {body : Body} {cache : C.State}

/-- What is not sendable is not carried. -/
theorem Carried.sendable (sized : Sized P) (given : call.body = some body)
    (speaks : Speaks m client call w hostKey card cache)
    (ready : Sealable (client.activeIdentity m) card call.sending.checked call.sending.now)
    (addressable : body.Addressable m.site.codecs)
    (carried : Carried m client call w card body site T s t a) : body.Sendable m client card := by
  obtain ⟨package, content, item, sent, own, -⟩ := carried
  cases made : sealRequest m client call card with
  | error e => exact absurd sent (fetch_sent_unsealed speaks.planned made)
  | ok sealed' =>
      obtain ⟨package', content'⟩ := sealed'
      have last := List.append_cancel_left ((speaks.fetch_sent made).symm.trans sent)
      have same := congrArg Transmission.carries (List.singleton_inj.mp last)
      obtain rfl := (Carries.package.inj same).symm
      obtain ⟨payload, dataType, packed, sealedAs, _⟩ := (sealRequest_eq_ok given).mp made
      have unnamed : ∀ name ∈ body.name?, m.files name = none := by
        intro name named
        cases found : m.files name with
        | none => rfl
        | some file =>
            rw [packItem_named named found] at packed
            exact absurd ⟨name, payload, dataType, named, packed ▸ found, sealedAs⟩ own
      obtain ⟨shape, raw, shaped, framed, -⟩ := (packItem_eq_ok unnamed).mp packed
      obtain ⟨_, framed', size, bound⟩ := addressable.exists_payload sized.json shaped
      obtain rfl := Except.ok.inj (framed.symm.trans framed')
      refine ⟨unnamed, shape, raw, shaped, ?_⟩
      rw [← size]
      exact (exists_sent_iff sized ready bound).mp ⟨package, sealedAs⟩

/-- What is sendable is carried. -/
theorem Body.Sendable.carried (sendable : body.Sendable m client card) (sized : Sized P)
    (json : P.JsonRereads) (lawful : m.site.codecs.Lawful P.toRuntime)
    (lowers : Http.LowersAscii m.site.codecs.lower) (given : call.body = some body)
    (speaks : Speaks m client call w hostKey card cache)
    (ready : Sealable (client.activeIdentity m) card call.sending.checked call.sending.now)
    (addressable : body.Addressable m.site.codecs) (codecs : site.codecs = m.site.codecs)
    (reaches : (client.sending m call card).Reaches site T s a) :
    Carried m client call w card body site T s t a := by
  obtain ⟨shape, raw, shaped, fits⟩ := sendable.fits
  obtain ⟨payload, framed, size, bound⟩ := addressable.exists_payload sized.json shaped
  rw [← size] at fits
  obtain ⟨package, sent⟩ : ∃ package, sendPayload (client.activeIdentity m) ⟨card.entityId, card⟩
      payload shape.dataType [] call.sending.checked call.sending.now call.sending.coins =
        .ok package := (exists_sent_iff sized ready bound).mpr fits
  let e : SendCall (client.activeIdentity m) := ⟨⟨card.entityId, card⟩, payload, shape.dataType, [],
    call.sending.checked, call.sending.now, call.sending.coins, package, sent⟩
  obtain ⟨content, written⟩ := e.exists_toJson sized.json (stamp_digits ready.stamp).2
    (JsonText.writes_dict nofun)
  have made : sealRequest m client call card = .ok (package, content) := by
    refine (sealRequest_eq_ok given).mpr ⟨payload, shape.dataType, ?_, sent, written⟩
    exact (packItem_eq_ok sendable.unnamed).mpr ⟨shape, raw, shaped, framed, rfl⟩
  obtain ⟨env, f, _, facts⟩ := e.exists_made
  have type : package.dataType = shape.dataType := facts.dataType
  let b : Arrival P := { a with package := .package package.reread }
  obtain ⟨item, returned, same⟩ := Body.received (a := b) (t := t) json (codecs ▸ lawful) reaches.downloadPath (codecs ▸ shaped) framed
    (received_of_reread sized.exchange sized.aead sized.signature json.correct reaches sent)
  refine ⟨package, content, item, speaks.fetch_sent made, ?_, ?_, same⟩
  · rintro ⟨name, _, _, named, found, _⟩
    rw [sendable.unnamed name named] at found
    cases found
  · rw [receive_text json written, type, Str.reread_ofString,
      receiverOf_dataType (codecs ▸ lowers) shape]
    exact returned

/-- The peer receives the body that a call is given exactly if the body is sendable. -/
theorem body_carried_iff (sized : Sized P) (json : P.JsonRereads)
    (lawful : m.site.codecs.Lawful P.toRuntime) (lowers : Http.LowersAscii m.site.codecs.lower)
    (given : call.body = some body) (speaks : Speaks m client call w hostKey card cache)
    (ready : Sealable (client.activeIdentity m) card call.sending.checked call.sending.now)
    (addressable : body.Addressable m.site.codecs) (codecs : site.codecs = m.site.codecs)
    (reaches : (client.sending m call card).Reaches site T s a) :
    Carried m client call w card body site T s t a ↔ body.Sendable m client card := by
  constructor
  · exact fun carried => carried.sendable sized given speaks ready addressable
  · exact fun sendable => sendable.carried sized json lawful lowers given speaks ready addressable
      codecs reaches

end Carried

/-! A string that is sent, and one that names a local file. -/

/-- The sender's machine has a file `notes.txt`. -/
def suitedMachine : Machine suited where
  site := ⟨suitedSender, .default, fun _ => none, .ofStr "/home/in", sampleCodecs⟩
  files := fun name => if name = "notes.txt" then some (.ok ([], "file")) else none
  urlsplit := fun _ => .ok ⟨"https", some "h", .ok none⟩
  urlencode := fun _ => .ok []

def suitedClient : UXSPClient suited where
  identity := some suitedSender
  allowFallback := true
  forceUxsp := true
  httpClient := true

/-- A call with a JSON string. -/
def suitedFetch (text : Str) : FetchCall suited :=
  { bareFetch suited "https://h" none with
    json := .str text
    peerCard := some suitedPeer.card
    sending := ⟨1700000000, 1700000000, suitedCoins⟩
    reply := .ok ⟨200, [], []⟩ }

def suitedReceiver : Identity suited :=
  .generate suited "00000000-0000-4000-8000-00000000000b" ⟨zeros 32, length_zeros 32⟩
    ⟨zeros 64, length_zeros 64⟩ ⟨zeros 32, length_zeros 32⟩ ⟨zeros 32, length_zeros 32⟩

def suitedSite : Site suited :=
  ⟨suitedReceiver, .default, fun _ => none, .ofStr "/home/in", sampleCodecs⟩

def suitedReadings : Identity.OpenReadings where
  checked := 1700000000
  fresh := 1700000000
  seen := 1700000000
  verify := 1700000000
  again := 1700000000
  mark := 1700000000
  checked_le := le_rfl
  fresh_le := le_rfl
  seen_le := le_rfl
  verify_le := le_rfl
  again_le := le_rfl

def suitedArrival : Arrival suited where
  sender := .card suitedSender.card
  package := .missing []
  downloadPath := none
  readings := suitedReadings
  freshKey := .filled 32 0
  freshId := .filled 16 0

theorem suitedFetch_speaks (text : Str) : Speaks suitedMachine suitedClient (suitedFetch text)
    sampleWorld (Client.hostKey "h" 443) suitedPeer.card [] where
  planned := rfl
  canSend := rfl
  answered := ⟨⟨200, [], []⟩, rfl, rfl, .inl rfl⟩

theorem suited_admits : Admits .default MemoryNonceStore.seenStore MemoryNonceStore.empty
    ⌊(1700000000 : ℚ)⌋ suitedCoins.envelope.envelopeNonce.1.hex suitedReadings := by
  have timely : (1700000000 : ℚ) - ⌊(1700000000 : ℚ)⌋ ≤ (300 : ℤ) ∧
      (⌊(1700000000 : ℚ)⌋ : ℚ) ≤ 1700000000 + (30 : ℤ) := by
    norm_num
  exact ⟨timely.1, timely.2, Except.of_toOption (by decide +kernel),
    Except.of_toOption (by decide +kernel)⟩

theorem suitedFetch_reaches (text : Str) :
    (suitedClient.sending suitedMachine (suitedFetch text) suitedPeer.card).Reaches suitedSite
      MemoryNonceStore.seenStore MemoryNonceStore.empty suitedArrival where
  peerId := rfl
  cardId := rfl
  keys := rfl
  sender := ⟨_, rfl, rfl, rfl, rfl⟩
  admits := suited_admits
  downloadPath := rfl

theorem hi_sendable :
    (Body.json (.str "hi")).Sendable suitedMachine suitedClient suitedPeer.card where
  unnamed := by
    intro name named
    obtain rfl := Option.some.inj named
    have other : Str.ofString "hi" ≠ Str.ofString "notes.txt" := by decide
    show (if Str.ofString "hi" = Str.ofString "notes.txt" then some (.ok ([], "file")) else none) =
      (none : Option (Except PyErr (Bytes × Str)))
    rw [if_neg other]
  fits := ⟨.text, [104, 105], rfl, .inr (by decide +kernel)⟩

theorem hi_addressable : (Body.json (.str "hi")).Addressable sampleCodecs := by
  intro shape raw made
  have found : (Body.json (.str "hi")).packed sampleCodecs = some (.text, [104, 105]) := rfl
  cases found.symm.trans made
  decide +kernel

theorem notes_addressable : (Body.json (.str "notes.txt")).Addressable sampleCodecs := by
  intro shape raw made
  have found : (Body.json (.str "notes.txt")).packed sampleCodecs =
      some (.text, [110, 111, 116, 101, 115, 46, 116, 120, 116]) := rfl
  cases found.symm.trans made
  decide +kernel

/-- The plain path transmits a string as JSON. -/
theorem suitedFetch_plain (text : Str) :
    plainContent suitedMachine (suitedFetch text) = .ok (some (34 :: JsonText.body text)) := by
  show some <$> suited.jsonDumps (.str text) = _
  rw [suited_sized.json.dumps rfl]
  rfl

theorem suited_json : suited.JsonRereads :=
  ⟨Platform.reading_json.compact, Platform.reading_json.dumps⟩

theorem suited_lawful : suitedMachine.site.codecs.Lawful suited.toRuntime := sampleCodecs_lawful

theorem suited_lowers : Http.LowersAscii suitedMachine.site.codecs.lower := fun _ _ => rfl

theorem suitedFetch_body (text : Str) : (suitedFetch text).body = some (.json (.str text)) := rfl

theorem suitedFetch_sealable (text : Str) : Sealable (suitedClient.activeIdentity suitedMachine)
    suitedPeer.card (suitedFetch text).sending.checked (suitedFetch text).sending.now :=
  suited_sealable

theorem suitedSite_codecs : suitedSite.codecs = suitedMachine.site.codecs := rfl

theorem body_carried_sample : Carried suitedMachine suitedClient (suitedFetch "hi") sampleWorld
    suitedPeer.card (.json (.str "hi")) suitedSite MemoryNonceStore.seenStore MemoryNonceStore.empty
    sampleTree suitedArrival :=
  (body_carried_iff suited_sized suited_json suited_lawful suited_lowers (suitedFetch_body "hi")
    (suitedFetch_speaks "hi") (suitedFetch_sealable "hi") hi_addressable suitedSite_codecs
    (suitedFetch_reaches "hi")).mpr hi_sendable

/-- A string that names a local file is sent as the file. -/
theorem local_file_sent : ¬ ∀ (P : Platform) (C : CapabilityCache) (T : SeenStore) (m : Machine P)
    (client : UXSPClient P) (call : FetchCall P) (w : World C T) (hostKey : Str) (card : Card)
    (cache : C.State) (body : Body) (site : Site P) (s : T.State) (t : FileTree) (a : Arrival P),
    Sized P → P.JsonRereads → m.site.codecs.Lawful P.toRuntime →
    Http.LowersAscii m.site.codecs.lower → call.body = some body →
    (∃ content, plainContent m call = .ok (some content)) →
    Speaks m client call w hostKey card cache →
    Sealable (client.activeIdentity m) card call.sending.checked call.sending.now →
    body.Addressable m.site.codecs → site.codecs = m.site.codecs →
    (client.sending m call card).Reaches site T s a →
      Carried m client call w card body site T s t a := by
  intro always
  have carried := always suited _ _ suitedMachine suitedClient (suitedFetch "notes.txt")
    sampleWorld _ suitedPeer.card _ (.json (.str "notes.txt")) suitedSite .empty sampleTree suitedArrival
    suited_sized suited_json suited_lawful suited_lowers (suitedFetch_body _)
    ⟨_, suitedFetch_plain _⟩ (suitedFetch_speaks _) (suitedFetch_sealable _) notes_addressable
    suitedSite_codecs (suitedFetch_reaches _)
  have unnamed := (carried.sendable suited_sized (suitedFetch_body _) (suitedFetch_speaks _)
    (suitedFetch_sealable _) notes_addressable).unnamed "notes.txt" rfl
  rw [show suitedMachine.files "notes.txt" = some (.ok ([], "file")) from rfl] at unnamed
  cases unnamed

end Uxsp.Client
