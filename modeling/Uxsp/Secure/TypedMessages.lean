import Uxsp.Secure.Downloads
import Uxsp.Secure.Senders
import Uxsp.Secure.StreamRoundTrip

/-!
# The typed messages of `uxsp.secure.types`

Each sender packs a value in its own way, and its receiver makes a value of what it unpacks.
`typed_round_trip_iff`: the right receiver returns the value that was sent, but for a contact whose
string is JSON, which is returned as what the JSON says, and for surrogate pairs in a contact or a
description, which are returned as the characters they stand for.
-/

namespace Uxsp.Secure

variable {P : Platform}

/-! ## What the senders pack -/

/-- The payload of a text, with the content type of its message. -/
def textPayload (body : Bytes) (contentType : Str) : UXSPPayload :=
  ⟨.text, body, none, contentType, some "utf-8"⟩

/-- The payload of `SendHTML`. -/
def packHTML (R : Runtime) (html : Str) : Except PyErr Bytes := do
  let body ← html.utf8
  UXSPPayload.toBytes R (textPayload body "text/html")

/-- The payload of `SendContact`. -/
def packContact (R : Runtime) : Val → Except PyErr Bytes
  | .dict d => do
      let body ← R.jsonDumps (.dict d)
      UXSPPayload.toBytes R (textPayload body "application/vnd.uxsp.contact+json")
  | .str s => do
      let body ← s.utf8
      UXSPPayload.toBytes R
        (textPayload body (if ("BEGIN:VCARD" : Str) <:+: s then "text/vcard" else "text/plain"))
  | _ => .error ⟨.secureSendError, ["contact_data must be a dict or string."]⟩

/-- `-limit <= v <= limit`. -/
def within (limit : ℚ) : Val → Except PyErr Bool
  | .int n => .ok (|(n : ℚ)| ≤ limit)
  | .bool b => .ok (|(if b then 1 else 0 : ℚ)| ≤ limit)
  | .float (.finite q) => .ok (|q| ≤ limit)
  | .float _ => .ok false
  | v => .error ⟨.typeError,
      ["'<=' not supported between instances of 'float' and '", v.typeName, "'"]⟩

def locationData (latitude longitude : Val) (description : Option Str) : Dict :=
  [("latitude", latitude), ("longitude", longitude), ("description", .str (description.getD []))]

/-- The payload of `SendLocation`. -/
def packLocation (R : Runtime) (latitude longitude : Val) (description : Option Str) :
    Except PyErr Bytes := do
  let north ← within 90 latitude
  ensure north ⟨.secureSendError,
    ["Invalid latitude ", .val latitude, ": must be between -90.0 and +90.0"]⟩
  let east ← within 180 longitude
  ensure east ⟨.secureSendError,
    ["Invalid longitude ", .val longitude, ": must be between -180.0 and +180.0"]⟩
  let body ← R.jsonDumps (.dict (locationData latitude longitude description))
  UXSPPayload.toBytes R (textPayload body "application/vnd.uxsp.location+json")

/-! ## The senders -/

/-- The arguments that all senders take: the sender, the receiver once it is resolved, the metadata
of the package, and the random bytes. -/
structure Sending (P : Platform) extends SendReadings where
  sender : Identity P
  peer : Peer
  metadata : Dict

/-- Send what was packed. -/
def Sending.send (g : Sending P) (packed : Except PyErr Bytes) (dataType : Str) :
    Except PyErr SecurePackage := do
  let payload ← packed
  sendPayload g.sender g.peer payload dataType g.metadata g.checked g.now g.coins

section

variable (g : Sending P) (codecs : Codecs)

def sendText (text : Str) := g.send (packText P.toRuntime text) "text"

def sendJSON (data : Val) := g.send (packJSON P.toRuntime codecs data) "json"

def sendHTML (html : Str) := g.send (packHTML P.toRuntime html) "html"

def sendContact (contactData : Val) := g.send (packContact P.toRuntime contactData) "contact"

def sendLocation (latitude longitude : Val) (description : Option Str) :=
  g.send (packLocation P.toRuntime latitude longitude description) "location"

/-- `SendBinary`, with its file name and content type. -/
def sendBinaryNamed (data : Bytes) (filename : Option Str) (contentType : Str) :=
  g.send (packBinary P.toRuntime data filename contentType) "binary"

end

/-! ## The typed messages -/

/-- What the typed senders are given. -/
inductive Message
  | text (s : Str)
  | json (v : Val)
  | html (s : Str)
  | contact (v : Val)
  | location (latitude longitude : Val) (description : Option Str)
  | binary (data : Bytes) (filename : Option Str) (contentType : Str)

namespace Message

def send (g : Sending P) (codecs : Codecs) : Message → Except PyErr SecurePackage
  | text s => sendText g s
  | json v => sendJSON g codecs v
  | html s => sendHTML g s
  | contact v => sendContact g v
  | location latitude longitude description => sendLocation g latitude longitude description
  | binary data filename contentType => sendBinaryNamed g data filename contentType

/-- The matching receiver. -/
def receive (site : Site P) (S : SeenStore) (s : S.State) (t : FileTree) (a : Arrival P) :
    Message → Except PyErr Receipt × S.State
  | text _ => receiveText site S s t a
  | json _ => receiveJSON site S s t a
  | html _ => receiveHTML site S s t a
  | contact _ => receiveContact site S s t a
  | location .. => receiveLocation site S s t a
  | binary .. => receiveBinary site S s t a

/-- What was sent, as a receiver returns it. -/
def value : Message → Item
  | text s => .text s
  | json v => .json v
  | html s => .text s
  | contact v => .json v
  | location latitude longitude description =>
      .json (.dict (locationData latitude longitude description))
  | binary data _ _ => .bytes data

end Message

/-- A string is the same whether it is the text of a message or a JSON value. -/
def Item.normal : Item → Item
  | .json (.str s) => .text s
  | item => item

/-- What `str` and `json` promise about UTF-8 and JSON texts. -/
structure Codecs.Lawful (codecs : Codecs) (R : Runtime) : Prop where
  decode : ∀ {text : Str} {b : Bytes}, text.encode = some b → codecs.decode "utf-8" b = .ok text
  /-- Without `ensure_ascii` the characters stand as they are. -/
  loads_dumps : ∀ {v : Val} {text : Str} {b : Bytes}, codecs.dumps v = .ok text →
    text.encode = some b → codecs.loads text = .ok v
  /-- With `ensure_ascii` they are escaped. -/
  loads_jsonDumps : ∀ {v : Val} {b : Bytes}, R.jsonDumps v = .ok b →
    ∃ text, text.encode = some b ∧ codecs.loads text = .ok v.reread

/-- The value of a message survives its way through text: a contact that is a string is no JSON, and
no surrogate pair is in a contact or a description. -/
def Message.Kept (codecs : Codecs) : Message → Prop
  | contact (.str s) =>
      match codecs.loads s with
      | .ok v => v = .str s
      | .error e => e.cls.isA .jsonDecodeError = true
  | contact v => v.reread = v
  | location _ _ description => (description.getD []).reread = description.getD []
  | _ => True

/-! ## The right receiver -/

/-- The package was made for the one who receives it, who takes its sender for the maker, has a valid
card of the sender and has not seen the envelope before. -/
structure Sending.Reaches (g : Sending P) (site : Site P) (S : SeenStore) (s : S.State)
    (a : Arrival P) : Prop where
  peerId : g.peer.id = site.identity.entityId
  cardId : g.peer.card.entityId = site.identity.entityId
  keys : g.peer.card.publicKeys = extractPublicKeys site.identity.keypair
  sender : ∃ peer, resolve site.peers a.sender = .ok peer ∧ peer.id = g.sender.entityId ∧
    peer.card.toPublicCard = g.sender.publicCard ∧
    peer.card.verifyValidity P.toRuntime a.readings.checked = .ok ()
  admits : Admits site.guard S s ⌊g.now⌋ g.coins.envelope.envelopeNonce.1.hex a.readings
  downloadPath : a.downloadPath = none

section Proofs

variable {g : Sending P} {site : Site P} {S : SeenStore} {s : S.State} {t : FileTree}
  {a : Arrival P} {package : SecurePackage} {m : Message}

theorem send_eq_ok {packed : Except PyErr Bytes} {dataType : Str} :
    g.send packed dataType = .ok package ↔ ∃ payload, packed = .ok payload ∧
      sendPayload g.sender g.peer payload dataType g.metadata g.checked g.now g.coins =
        .ok package := by
  simp only [Sending.send, bind_eq_ok]

/-- What was packed is what the right receiver unpacks. -/
theorem received_of_send (exchange : P.ExchangeCorrect) (aead : P.AeadCorrect)
    (signature : P.SignatureCorrect) (json : P.JsonCorrect) (reaches : g.Reaches site S s a)
    (input : a.package = .package package) {packed : Except PyErr Bytes} {dataType : Str}
    (sent : g.send packed dataType = .ok package) (unpack : Bytes → Except PyErr Receipt) :
    ∃ payload, packed = .ok payload ∧
      (receiveWith site S s a (some dataType) unpack).1 = unpack payload := by
  obtain ⟨payload, made, returned⟩ := send_eq_ok.mp sent
  refine ⟨payload, made, ?_⟩
  obtain ⟨peer, resolved, peerId, peerCard, valid⟩ := reaches.sender
  let e : SendCall g.sender :=
    ⟨g.peer, payload, dataType, g.metadata, g.checked, g.now, g.coins, package, returned⟩
  let call : ReceiveCall := ⟨peer, .package package, some dataType, a.readings⟩
  obtain ⟨env, f, b, facts⟩ := e.exists_made
  have welcome : Welcome e site.identity site.guard S s call.sender call.readings :=
    ⟨reaches.peerId, reaches.cardId, reaches.keys, peerId, peerCard, valid, reaches.admits⟩
  have outer : call.resolved P.toRuntime site.identity.entityId = .ok package := by
    refine resolved_eq_ok.mpr ⟨rfl, ?_⟩
    simp only [checkPackage, bind_eq_ok, ensure_eq_ok, decide_eq_true_eq]
    exact ⟨(), facts.senderId.trans peerId.symm, (), facts.receiverId.trans reaches.peerId,
      decide_eq_true facts.dataType⟩
  have delivered := SendCall.delivered exchange aead signature json welcome outer ⟨rfl, rfl, rfl⟩
  have found : secureReceivePayload site S s a (some dataType) =
      (.ok payload, site.guard.passed S s e.envelopeNonce call.readings) := by
    rw [secureReceivePayload, resolved, input]
    exact delivered
  rw [receiveWith, found]

/-- A payload of text is unpacked as it was packed. -/
theorem fromBytes_textPayload (json : P.JsonRereads) {body raw : Bytes} (contentType : String)
    (nonempty : contentType ≠ "") (packed : (textPayload body contentType).toBytes P.toRuntime =
      .ok raw) : UXSPPayload.fromBytes P.toRuntime raw = .ok (textPayload body contentType) := by
  have type : (textPayload body contentType).contentType ≠ [] := by
    intro none
    exact nonempty (Str.ofString_inj.mp (none.trans rfl))
  have encoding : (textPayload body contentType).encoding ≠ some [] := by
    show (some ("utf-8" : Str)) ≠ some []
    decide
  rw [UXSPPayload.fromBytes_toBytes json type encoding packed, UXSPPayload.reread, textPayload,
    Option.map_none, Option.map_some, Str.reread_ofString, Str.reread_ofString]

/-! ## What the receivers make of it -/

theorem fromBytes_packBinary (json : P.JsonRereads) {data raw : Bytes} {filename : Option Str}
    {contentType : Str} (packed : packBinary P.toRuntime data filename contentType = .ok raw) :
    ∃ payload, UXSPPayload.fromBytes P.toRuntime raw = .ok payload ∧ payload.body = data := by
  simp only [packBinary, bind_eq_ok, ensure_eq_ok, decide_eq_true_eq] at packed
  obtain ⟨_, type, _, _, packed⟩ := packed
  exact ⟨_, UXSPPayload.fromBytes_toBytes json type
    (Option.some_ne_none ([] : Str)).symm packed, rfl⟩

theorem decodeBody_textPayload (lawful : site.codecs.Lawful P.toRuntime) {text contentType : Str}
    {body : Bytes} (encoded : text.encode = some body) :
    decodeBody site (textPayload body contentType) = .ok text := lawful.decode encoded

section Unpacking

variable (json : P.JsonRereads) (lawful : site.codecs.Lawful P.toRuntime)
  (saved : a.downloadPath = none) {raw : Bytes}
include json

theorem unpackBinary_packBinary (saved : a.downloadPath = none) {data : Bytes}
    {filename : Option Str} {contentType : Str}
    (packed : packBinary P.toRuntime data filename contentType = .ok raw) :
    unpackBinary site t a raw = .ok ⟨.bytes data, none, t⟩ := by
  obtain ⟨payload, read, rfl⟩ := fromBytes_packBinary json packed
  rw [unpackBinary, read]
  show saveIfAsked site t a _ _ _ = _
  rw [saveIfAsked, saved]

include lawful

/-- `SendText` and `ReceiveText`. -/
theorem unpackTextItem_packText (saved : a.downloadPath = none) {text : Str}
    (packed : packText P.toRuntime text = .ok raw) :
    unpackTextItem site t a raw = .ok ⟨.text text, none, t⟩ := by
  simp only [packText, bind_eq_ok, Str.utf8_eq_ok] at packed
  obtain ⟨body, encoded, packed⟩ := packed
  have read := fromBytes_textPayload json "text/plain" (by decide) packed
  have unpacked : unpackText site raw = .ok text := by
    rw [unpackText, read]
    show catching [.unicodeDecodeError] _ (site.codecs.decode "utf-8" body) = _
    rw [lawful.decode encoded]
    rfl
  rw [unpackTextItem, unpacked]
  show saveIfAsked site t a _ _ _ = _
  rw [saveIfAsked, saved]

/-- `SendHTML` and `ReceiveHTML`. -/
theorem unpackHtml_packHTML (saved : a.downloadPath = none) {html : Str}
    (packed : packHTML P.toRuntime html = .ok raw) :
    unpackHtml site t a raw = .ok ⟨.text html, none, t⟩ := by
  simp only [packHTML, bind_eq_ok, Str.utf8_eq_ok] at packed
  obtain ⟨body, encoded, packed⟩ := packed
  rw [unpackHtml, fromBytes_textPayload json "text/html" (by decide) packed]
  show (do
    let text ← decodeBody site (textPayload body "text/html")
    saveIfAsked site t a (.text text) "received.html" text.utf8) = _
  rw [decodeBody_textPayload lawful encoded]
  show saveIfAsked site t a _ _ _ = _
  rw [saveIfAsked, saved]

/-- `SendJSON` and `ReceiveJSON`. -/
theorem unpackJson_packJSON (saved : a.downloadPath = none) {data : Val}
    (packed : packJSON P.toRuntime site.codecs data = .ok raw) :
    unpackJson site t a raw = .ok ⟨.json data, none, t⟩ := by
  rw [packJSON] at packed
  split at packed
  · cases packed
  · rename_i text dumped
    simp only [bind_eq_ok, Str.utf8_eq_ok] at packed
    obtain ⟨body, encoded, packed⟩ := packed
    have read := fromBytes_textPayload json "application/json" (by decide) packed
    rw [unpackJson, read]
    show (do
      let text ← decodeBody site (textPayload body "application/json")
      let receipt ← saveIfAsked site t a (.text text) "received.json" text.utf8
      return { receipt with item := .json (← site.codecs.loads text) }) = _
    rw [decodeBody_textPayload lawful encoded]
    show (do
      let receipt ← saveIfAsked site t a (.text text) "received.json" text.utf8
      return { receipt with item := .json (← site.codecs.loads text) }) = _
    rw [saveIfAsked, saved]
    show (do
      let v ← site.codecs.loads text
      return (⟨.json v, none, t⟩ : Receipt)) = _
    rw [lawful.loads_dumps dumped encoded]
    rfl

/-- A value that was escaped is read as JSON reads it. -/
theorem unpackContact_dict {d : Dict} (packed : packContact P.toRuntime (.dict d) = .ok raw) :
    unpackContact site t raw = .ok ⟨.json (Val.dict d).reread, none, t⟩ := by
  simp only [packContact, bind_eq_ok] at packed
  obtain ⟨body, dumped, packed⟩ := packed
  obtain ⟨text, encoded, loaded⟩ := lawful.loads_jsonDumps dumped
  rw [unpackContact, fromBytes_textPayload json
    "application/vnd.uxsp.contact+json" (by decide) packed]
  show (do
    let text ← site.codecs.decode "utf-8" body
    match site.codecs.loads text with
    | .ok v => return (⟨.json v, none, t⟩ : Receipt)
    | .error e => if e.cls.isA .jsonDecodeError then return ⟨.text text, none, t⟩ else .error e) = _
  rw [lawful.decode encoded]
  show (match site.codecs.loads text with
    | .ok v => (.ok ⟨.json v, none, t⟩ : Except PyErr Receipt)
    | .error e => if e.cls.isA .jsonDecodeError then .ok ⟨.text text, none, t⟩ else .error e) = _
  rw [loaded]

/-- A string is read as JSON where it is JSON. -/
theorem unpackContact_str {text : Str} (packed : packContact P.toRuntime (.str text) = .ok raw) :
    unpackContact site t raw = match site.codecs.loads text with
      | .ok v => .ok ⟨.json v, none, t⟩
      | .error e => if e.cls.isA .jsonDecodeError then .ok ⟨.text text, none, t⟩ else .error e := by
  simp only [packContact, bind_eq_ok, Str.utf8_eq_ok] at packed
  obtain ⟨body, encoded, packed⟩ := packed
  have read : ∃ contentType, UXSPPayload.fromBytes P.toRuntime raw =
      .ok (textPayload body contentType) := by
    split at packed
    · exact ⟨_, fromBytes_textPayload json "text/vcard" (by decide) packed⟩
    · exact ⟨_, fromBytes_textPayload json "text/plain" (by decide) packed⟩
  obtain ⟨contentType, read⟩ := read
  rw [unpackContact, read]
  show (do
    let text ← site.codecs.decode "utf-8" body
    match site.codecs.loads text with
    | .ok v => return (⟨.json v, none, t⟩ : Receipt)
    | .error e => if e.cls.isA .jsonDecodeError then return ⟨.text text, none, t⟩ else .error e) = _
  rw [lawful.decode encoded]
  rfl

/-- `SendLocation` and `ReceiveLocation`. -/
theorem unpackLocation_packLocation {latitude longitude : Val} {description : Option Str}
    (packed : packLocation P.toRuntime latitude longitude description = .ok raw) :
    unpackLocation site t raw = .ok ⟨.json (Val.dict (locationData latitude longitude
      description)).reread, none, t⟩ := by
  simp only [packLocation, bind_eq_ok] at packed
  obtain ⟨_, _, _, _, _, _, _, _, body, dumped, packed⟩ := packed
  obtain ⟨text, encoded, loaded⟩ := lawful.loads_jsonDumps dumped
  rw [unpackLocation, fromBytes_textPayload json
    "application/vnd.uxsp.location+json" (by decide) packed]
  show (do
    let text ← site.codecs.decode "utf-8" body
    return (⟨.json (← site.codecs.loads text), none, t⟩ : Receipt)) = _
  rw [lawful.decode encoded]
  show (do
    let v ← site.codecs.loads text
    return (⟨.json v, none, t⟩ : Receipt)) = _
  rw [loaded]
  rfl

end Unpacking

/-! ## The round trip -/

/-- A coordinate is a number, which JSON keeps. -/
theorem reread_of_within {limit : ℚ} {v : Val} {inside : Bool} (number : within limit v = .ok inside) :
    v.reread = v := by
  cases v with
  | list xs => cases number
  | dict d => cases number
  | str s => cases number
  | _ => rfl

theorem reread_locationData {latitude longitude : Val} {description : Option Str} {raw : Bytes}
    (packed : packLocation P.toRuntime latitude longitude description = .ok raw) :
    (Val.dict (locationData latitude longitude description)).reread =
      .dict (locationData latitude longitude (some (description.getD []).reread)) := by
  simp only [packLocation, bind_eq_ok] at packed
  obtain ⟨_, north, _, _, _, east, _⟩ := packed
  have distinct : (["latitude", "longitude", "description"] : List Str).Nodup := by decide
  rw [Val.reread, locationData, Dict.rereadItems_eq_map]
  simp only [List.map_cons, List.map_nil, Str.reread_ofString, reread_of_within north,
    reread_of_within east]
  exact congrArg Val.dict (Assoc.update_nil distinct)

/-- What the right receiver returns of a message. -/
def Message.returned (codecs : Codecs) : Message → Except PyErr Item
  | contact (.str s) =>
      match codecs.loads s with
      | .ok v => .ok (.json v)
      | .error e => if e.cls.isA .jsonDecodeError then .ok (.text s) else .error e
  | contact v => .ok (.json v.reread)
  | location latitude longitude description =>
      .ok (.json (.dict (locationData latitude longitude (some (description.getD []).reread))))
  | m => .ok m.value

/-- The receipt of what is returned and not saved. -/
def Receipt.unsaved (t : FileTree) (item : Item) : Receipt := ⟨item, none, t⟩

theorem receive_sent (exchange : P.ExchangeCorrect) (aead : P.AeadCorrect)
    (signature : P.SignatureCorrect) (json : P.JsonRereads)
    (lawful : site.codecs.Lawful P.toRuntime) (reaches : g.Reaches site S s a)
    (input : a.package = .package package) (sent : m.send g site.codecs = .ok package) :
    (m.receive site S s t a).1 = (m.returned site.codecs).map (Receipt.unsaved t) := by
  have saved := reaches.downloadPath
  have unpacks {packed : Except PyErr Bytes} {dataType : Str}
      (sent : g.send packed dataType = .ok package) (unpack : Bytes → Except PyErr Receipt) :=
    received_of_send exchange aead signature json.correct reaches input sent unpack
  cases m with
  | text text =>
      obtain ⟨raw, packed, received⟩ := unpacks sent (unpackTextItem site t a)
      exact received.trans (unpackTextItem_packText json lawful saved packed)
  | json data =>
      obtain ⟨raw, packed, received⟩ := unpacks sent (unpackJson site t a)
      exact received.trans (unpackJson_packJSON json lawful saved packed)
  | html html =>
      obtain ⟨raw, packed, received⟩ := unpacks sent (unpackHtml site t a)
      exact received.trans (unpackHtml_packHTML json lawful saved packed)
  | binary data filename contentType =>
      obtain ⟨raw, packed, received⟩ := unpacks sent (unpackBinary site t a)
      exact received.trans (unpackBinary_packBinary json saved packed)
  | location latitude longitude description =>
      obtain ⟨raw, packed, received⟩ := unpacks sent (unpackLocation site t)
      rw [unpackLocation_packLocation json lawful packed, reread_locationData packed] at received
      exact received
  | contact v =>
      obtain ⟨raw, packed, received⟩ := unpacks sent (unpackContact site t)
      cases v with
      | dict d => exact received.trans (unpackContact_dict json lawful packed)
      | str text =>
          rw [unpackContact_str json lawful packed] at received
          refine Eq.trans received ?_
          rw [Message.returned]
          split
          · rfl
          · split
            · rfl
            · rfl
      | none => cases packed
      | bool b => cases packed
      | int n => cases packed
      | float x => cases packed
      | list xs => cases packed

/-- The value is returned as it was sent. -/
theorem returned_normal_iff (codecs : Codecs) (m : Message) :
    (∃ item, m.returned codecs = .ok item ∧ item.normal = m.value.normal) ↔ m.Kept codecs := by
  have done {item value : Item} : (∃ i, (.ok item : Except PyErr Item) = .ok i ∧
      i.normal = value.normal) ↔ item.normal = value.normal := by
    simp
  cases m with
  | text text => exact iff_of_true ⟨_, rfl, rfl⟩ trivial
  | json data => exact iff_of_true ⟨_, rfl, rfl⟩ trivial
  | html html => exact iff_of_true ⟨_, rfl, rfl⟩ trivial
  | binary data filename contentType => exact iff_of_true ⟨_, rfl, rfl⟩ trivial
  | location latitude longitude description =>
      refine done.trans ⟨fun same => ?_, fun same => ?_⟩
      · have entries := Val.dict.inj (Item.json.inj same)
        have described := congrArg (fun d : Dict => Dict.get? d "description") entries
        exact Val.str.inj (Option.some.inj described)
      · have kept : (description.getD []).reread = description.getD [] := same
        rw [kept]
        rfl
  | contact v =>
      cases v with
      | str text =>
          rw [Message.returned, Message.Kept]
          cases codecs.loads text with
          | ok v =>
              refine done.trans ⟨fun same => ?_, fun same => ?_⟩
              · cases v with
                | str s => exact congrArg Val.str (Item.text.inj same)
                | _ => cases same
              · exact congrArg (fun v => Item.normal (.json v)) same
          | error e =>
              by_cases invalid : e.cls.isA .jsonDecodeError = true
              · simp only [invalid, if_true]
                exact iff_of_true ⟨_, rfl, rfl⟩ trivial
              · simp [invalid]
      | dict d =>
          refine done.trans ⟨fun same => Item.json.inj same, fun same => ?_⟩
          exact congrArg (fun v => Item.normal (.json v)) same
      | none => exact iff_of_true ⟨_, rfl, rfl⟩ rfl
      | bool b => exact iff_of_true ⟨_, rfl, rfl⟩ rfl
      | int n => exact iff_of_true ⟨_, rfl, rfl⟩ rfl
      | float x => exact iff_of_true ⟨_, rfl, rfl⟩ rfl
      | list xs =>
          refine done.trans ⟨fun same => Item.json.inj same, fun same => ?_⟩
          exact congrArg (fun v => Item.normal (.json v)) same

/-- The receiver returns the value that was sent. -/
def RoundTrips (m : Message) (site : Site P) (S : SeenStore) (s : S.State) (t : FileTree)
    (a : Arrival P) : Prop :=
  ∃ item, (m.receive site S s t a).1 = .ok (.unsaved t item) ∧ item.normal = m.value.normal

/-- The right receiver returns the value that was sent exactly if no string in it is taken for
something else: a string contact that is JSON, or a surrogate pair where strings are escaped. -/
theorem typed_round_trip_iff (exchange : P.ExchangeCorrect) (aead : P.AeadCorrect)
    (signature : P.SignatureCorrect) (json : P.JsonRereads)
    (lawful : site.codecs.Lawful P.toRuntime) (reaches : g.Reaches site S s a)
    (input : a.package = .package package) (sent : m.send g site.codecs = .ok package) :
    RoundTrips m site S s t a ↔ m.Kept site.codecs := by
  rw [← returned_normal_iff, RoundTrips,
    receive_sent exchange aead signature json lawful reaches input sent]
  cases m.returned site.codecs with
  | error e => simp [Except.map]
  | ok item =>
      refine exists_congr fun i => and_congr_left fun _ => ?_
      constructor
      · intro same
        exact congrArg (Except.map Receipt.item) same
      · intro same
        exact congrArg (Except.map (Receipt.unsaved t)) same

end Proofs

/-! ## Two contacts -/

/-- `b.decode()`. -/
def utf8Decode (b : Bytes) : Except PyErr Str :=
  match b.toByteArray.utf8Decode? with
  | some chars => .ok (chars.toList.map CodePoint.ofChar)
  | none => .error ⟨.unicodeDecodeError, ["'utf-8' codec can't decode bytes"]⟩

theorem utf8Decode_encode {text : Str} {b : Bytes} (encoded : text.encode = some b) :
    utf8Decode b = .ok text := by
  obtain ⟨chars, scalars, rfl⟩ := Option.map_eq_some_iff.mp encoded
  have decoded := @List.utf8Decode?_utf8Encode chars
  rw [List.utf8Encode] at decoded
  have again := Str.mapM_toChar?_ofString (String.ofList chars)
  rw [Str.ofString, String.toList_ofList] at again
  rw [utf8Decode, decoded]
  exact congrArg Except.ok (Str.mapM_toChar?_inj again scalars)

/-- The characters that ASCII bytes are. -/
def asciiText (b : Bytes) : Str := b.map fun x => ⟨x.toNat, CodePoint.byte_lt x⟩

theorem encode_single : ∀ n : Fin 128,
    Str.encode [⟨(UInt8.ofNat n.val).toNat, CodePoint.byte_lt _⟩] = some [UInt8.ofNat n.val] := by
  decide +kernel

theorem encode_asciiText {b : Bytes} (ascii : ∀ x ∈ b, x.toNat < 128) :
    (asciiText b).encode = some b := by
  induction b with
  | nil => rfl
  | cons x b ih =>
      have here := encode_single ⟨x.toNat, ascii x List.mem_cons_self⟩
      simp only [UInt8.ofNat_toNat] at here
      have rest := ih fun y mem => ascii y (List.mem_cons_of_mem x mem)
      show Str.encode ([⟨x.toNat, CodePoint.byte_lt x⟩] ++ asciiText b) = _
      rw [Str.encode_append, here, rest]
      rfl

/-- Codecs of UTF-8 and JSON, where a text that is not ASCII is no JSON. -/
def sampleCodecs : Codecs where
  decode := fun _ b => utf8Decode b
  loads := fun text =>
    match text.encode with
    | some b => Platform.reading.jsonLoads b
    | none => .error ⟨.jsonDecodeError, ["Expecting value"]⟩
  dumps := fun v =>
    if v.plain then (Platform.reading.jsonDumps v).map asciiText
    else .error ⟨.typeError, ["Object is not JSON serializable"]⟩
  lower := Chunking.lowerAscii
  upper := id

theorem jsonDumps_ascii {v : Val} {b : Bytes} (dumped : Platform.reading.jsonDumps v = .ok b) :
    (asciiText b).encode = some b := by
  refine encode_asciiText fun x mem => ?_
  have written : JsonText.dumps .default v = .ok b := dumped
  rw [JsonText.dumps] at written
  split at written
  · rename_i text
    cases written
    have range := JsonText.printable_iff.mp (JsonText.printable_val
      JsonText.Separators.default_printable.1 JsonText.Separators.default_printable.2 text) x mem
    exact Nat.lt_of_le_of_lt (UInt8.le_iff_toNat_le.mp range.2) (by decide)
  · cases written

theorem sampleCodecs_lawful : sampleCodecs.Lawful Platform.reading.toRuntime where
  decode := utf8Decode_encode
  loads_dumps := by
    intro v text b dumped encoded
    by_cases plain : v.plain = true
    · have written : (Platform.reading.jsonDumps v).map asciiText = .ok text :=
        (if_pos plain).symm.trans dumped
      cases found : Platform.reading.jsonDumps v with
      | error e =>
          rw [found] at written
          cases written
      | ok b =>
          rw [found] at written
          cases written
          show (match (asciiText b).encode with
            | some b => Platform.reading.jsonLoads b
            | none => .error _) = _
          rw [jsonDumps_ascii found]
          exact (Platform.reading_json.dumps found).trans
            (congrArg Except.ok (Val.reread_of_plain plain))
    · cases (if_neg plain).symm.trans dumped
  loads_jsonDumps := by
    intro v b dumped
    refine ⟨asciiText b, jsonDumps_ascii dumped, ?_⟩
    show (match (asciiText b).encode with
      | some b => Platform.reading.jsonLoads b
      | none => .error _) = _
    rw [jsonDumps_ascii dumped]
    exact Platform.reading_json.dumps dumped

/-- `A` sends to `B`, once. -/
def sampleSending : Sending .reading where
  checked := 1000
  now := 1000
  coins := sampleStreamCoins 0
  sender := sampleWriter
  peer := ⟨"B", sampleReader.card⟩
  metadata := []

def readerSite : Site .reading where
  identity := sampleReader
  guard := .default
  peers := fun _ => none
  defaultOutputDir := .ofStr "/home/in"
  codecs := sampleCodecs

def readerArrival (package : SecurePackage) : Arrival .reading where
  sender := .card sampleWriter.card
  package := .package package
  downloadPath := none
  readings := sampleReadings
  freshKey := .filled 32 0
  freshId := .filled 16 0

theorem sampleSending_reaches (package : SecurePackage) : sampleSending.Reaches readerSite
    MemoryNonceStore.seenStore .empty (readerArrival package) where
  peerId := rfl
  cardId := rfl
  keys := rfl
  sender := ⟨_, rfl, rfl, rfl, rfl⟩
  admits := sampleNonces_admitted.1
  downloadPath := rfl

/-- The contact `"hi"`, which is no JSON. -/
theorem typed_round_trip_sample : ∃ package, RoundTrips (.contact (.str "hi")) readerSite
    MemoryNonceStore.seenStore .empty sampleTree (readerArrival package) ↔
      (Message.contact (.str "hi")).Kept sampleCodecs := by
  have made : ((Message.contact (.str "hi")).send sampleSending sampleCodecs).toOption.isSome =
      true := by decide +kernel
  obtain ⟨package, found⟩ := Option.isSome_iff_exists.mp made
  exact ⟨package, typed_round_trip_iff Platform.reading_exchange Platform.reading_aead
    Platform.reading_signature Platform.reading_json sampleCodecs_lawful
    (sampleSending_reaches package) rfl (Except.of_toOption found)⟩

/-- The contact `"123"` is received as a number. -/
theorem numeric_contact_changed :
    ¬ ∀ (P : Platform) (g : Sending P) (site : Site P) (S : SeenStore) (s : S.State) (t : FileTree)
      (a : Arrival P) (package : SecurePackage) (m : Message), P.ExchangeCorrect →
      P.AeadCorrect → P.SignatureCorrect → P.JsonRereads → site.codecs.Lawful P.toRuntime →
      g.Reaches site S s a → a.package = .package package → m.send g site.codecs = .ok package →
        RoundTrips m site S s t a := by
  intro always
  have made : ((Message.contact (.str "123")).send sampleSending sampleCodecs).toOption.isSome =
      true := by decide +kernel
  obtain ⟨package, found⟩ := Option.isSome_iff_exists.mp made
  have sent := Except.of_toOption found
  obtain ⟨item, received, same⟩ := always _ sampleSending readerSite MemoryNonceStore.seenStore .empty
    sampleTree (readerArrival package) package (.contact (.str "123")) Platform.reading_exchange
    Platform.reading_aead Platform.reading_signature Platform.reading_json sampleCodecs_lawful
    (sampleSending_reaches package) rfl sent
  have returned := receive_sent (t := sampleTree) Platform.reading_exchange Platform.reading_aead
    Platform.reading_signature Platform.reading_json sampleCodecs_lawful
    (sampleSending_reaches package) rfl sent
  have number : (Message.contact (.str "123")).returned sampleCodecs = .ok (.json (.int 123)) := by
    have loaded : sampleCodecs.loads "123" = .ok (.int 123) := by rfl
    rw [Message.returned, loaded]
  have both := received.symm.trans returned
  rw [show readerSite.codecs = sampleCodecs from rfl, number] at both
  cases both
  cases same

end Uxsp.Secure
