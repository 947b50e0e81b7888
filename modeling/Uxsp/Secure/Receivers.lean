import Uxsp.Core.Live
import Uxsp.Core.Payload
import Uxsp.Python.Path
import Uxsp.Secure.Engine

/-!
# `uxsp.secure.types` and `Receive`

A receiver opens a package of one data type and makes a text, a value, a session or a file of what
is in it.  `Receive` picks the receiver by the data type that the package names.
-/

namespace Uxsp.Secure

variable {P : Platform}

/-- `bytes.decode(encoding)`, `json.loads` of a string, `json.dumps(v, ensure_ascii=False)`, and the
letters of the other case. -/
structure Codecs where
  decode : (encoding : Str) → Bytes → Except PyErr Str
  loads : Str → Except PyErr Val
  dumps : Val → Except PyErr Str
  lower : Str → Str
  upper : Str → Str

/-- Where a receiver runs: its identity, and what it asks the global context for. -/
structure Site (P : Platform) where
  identity : Identity P
  guard : ReplayGuard
  peers : Str → Option Card
  defaultOutputDir : PosixPath
  codecs : Codecs

/-- The arguments of a receiver. -/
structure Arrival (P : Platform) where
  sender : Party P
  package : PackageInput
  downloadPath : Option Str
  readings : Identity.OpenReadings
  freshKey : Urandom KEY_SIZE
  freshId : Urandom 16

/-- What a receiver returns; files are named by their paths. -/
inductive Item
  | text (s : Str)
  | json (v : Val)
  | bytes (b : Bytes)
  | path (p : PosixPath)
  | liveSession (session : LiveSession)
  | liveVoiceSession (session : LiveSession) (codec sampleRate channels : Val)

/-- What a receiver returns, the file that it wrote, and the file tree that it leaves. -/
structure Receipt where
  item : Item
  saved : Option Location
  tree : FileTree

/-- A download path is a directory, looks like one, or is spelled as one. -/
def denotesDir (t : FileTree) (path : Str) : Bool :=
  let p := PosixPath.ofStr path
  t.isDir p || !p.hasSuffix || path.getLast? = some (.ofChar '/') ||
    path.getLast? = some (.ofChar '\\')

/-- `_resolve_download_target`. -/
def resolveDownloadTarget (outDir : PosixPath) (t : FileTree) (downloadPath : Option Str)
    (defaultFilename : Str) : Except PyErr (PosixPath × FileTree) :=
  match downloadPath with
  | none => do
      let t ← t.mkdir outDir
      return (outDir.join defaultFilename, t)
  | some path =>
      let p := PosixPath.ofStr path
      if denotesDir t path then do
        let t ← t.mkdir p
        return (p.join defaultFilename, t)
      else do
        let t ← t.mkdir p.parent
        return (p, t)

/-- Write a file under the target of a download. -/
def download (site : Site P) (t : FileTree) (downloadPath : Option Str) (name : Str)
    (body : Bytes) : Except PyErr (PosixPath × Location × FileTree) := do
  let (target, t) ← resolveDownloadTarget site.defaultOutputDir t downloadPath name
  let (l, t) ← t.writeBytes target body
  return (target, l, t)

/-! ## What the receivers make of a payload -/

section Unpack

variable (site : Site P) (t : FileTree) (a : Arrival P)

/-- Save the body of a payload. -/
def saveBody (default : Str) (raw : Bytes) : Except PyErr Receipt := do
  let payload ← UXSPPayload.fromBytes P.toRuntime raw
  let (target, l, t) ← download site t a.downloadPath (payload.nameOr default) payload.body
  return ⟨.path target, some l, t⟩

/-- Return an item, and save its bytes under a name where a download path is given. -/
def saveIfAsked (item : Item) (name : Str) (body : Except PyErr Bytes) : Except PyErr Receipt :=
  match a.downloadPath with
  | none => .ok ⟨item, none, t⟩
  | some path => do
      let (_, l, t) ← download site t (some path) name (← body)
      return ⟨item, some l, t⟩

def unpackBinary (raw : Bytes) : Except PyErr Receipt := do
  let payload ← UXSPPayload.fromBytes P.toRuntime raw
  saveIfAsked site t a (.bytes payload.body) (payload.nameOr "received.bin") (.ok payload.body)

/-- `unpack_text`. -/
def unpackText (raw : Bytes) : Except PyErr Str := do
  let payload ← UXSPPayload.fromBytes P.toRuntime raw
  ensure (payload.kind = .text)
    (UXSPPayload.invalid ["Expected text payload, got ", .str payload.kind.str, "."])
  match payload.encoding with
  | none => .error (UXSPPayload.invalid ["Text payload is missing encoding field."])
  | some encoding =>
      catching [.unicodeDecodeError]
        (fun _ => UXSPPayload.invalid ["Text payload is not valid ", .str encoding, "."])
        (site.codecs.decode encoding payload.body)

def unpackTextItem (raw : Bytes) : Except PyErr Receipt := do
  let text ← unpackText site raw
  saveIfAsked site t a (.text text) "received_text.txt" text.utf8

/-- `payload.body.decode(payload.encoding or "utf-8")`. -/
def decodeBody (payload : UXSPPayload) : Except PyErr Str :=
  site.codecs.decode (payload.encoding.getD "utf-8") payload.body

def unpackHtml (raw : Bytes) : Except PyErr Receipt := do
  let text ← decodeBody site (← UXSPPayload.fromBytes P.toRuntime raw)
  saveIfAsked site t a (.text text) "received.html" text.utf8

def unpackJson (raw : Bytes) : Except PyErr Receipt := do
  let text ← decodeBody site (← UXSPPayload.fromBytes P.toRuntime raw)
  let receipt ← saveIfAsked site t a (.text text) "received.json" text.utf8
  return { receipt with item := .json (← site.codecs.loads text) }

def unpackLocation (raw : Bytes) : Except PyErr Receipt := do
  let payload ← UXSPPayload.fromBytes P.toRuntime raw
  let text ← site.codecs.decode "utf-8" payload.body
  return ⟨.json (← site.codecs.loads text), none, t⟩

def unpackContact (raw : Bytes) : Except PyErr Receipt := do
  let payload ← UXSPPayload.fromBytes P.toRuntime raw
  let text ← site.codecs.decode "utf-8" payload.body
  match site.codecs.loads text with
  | .ok v => return ⟨.json v, none, t⟩
  | .error e => if e.cls.isA .jsonDecodeError then return ⟨.text text, none, t⟩ else .error e

/-- `package.metadata or {}`. -/
def metadataOf (package : SecurePackage) : Except PyErr Dict :=
  if package.metadata.truthy then
    match package.metadata with
    | .dict d => .ok d
    | v => .error ⟨.attributeError, ["'", v.typeName, "' object has no attribute 'get'"]⟩
  else .ok []

/-- The session whose key was received. -/
def liveSessionOf (d : Dict) (key : Bytes) : Except PyErr LiveSession := do
  let hex := (Dict.get? d "session_id").getD .none
  let sessionId ← if hex.truthy then .some <$> fromHexVal hex else pure none
  LiveSession.init (some key) (sessionId.map .inl) a.freshKey a.freshId

def unpackLiveSession (package : SecurePackage) (raw : Bytes) : Except PyErr Receipt := do
  let d ← metadataOf package
  let session ← liveSessionOf a d raw
  return ⟨.liveSession session, none, t⟩

def unpackLiveVoiceCall (package : SecurePackage) (raw : Bytes) : Except PyErr Receipt := do
  let d ← metadataOf package
  let session ← liveSessionOf a d raw
  let field (key : String) (default : Val) : Val := (Dict.get? d key).getD default
  return ⟨.liveVoiceSession session (field "codec" (.str "opus"))
    (field "sample_rate" (.int 48000)) (field "channels" (.int 1)), none, t⟩

/-- What a package of another data type holds: a payload, or the bytes themselves. -/
def fallbackContents (raw : Bytes) : Str × Bytes :=
  match UXSPPayload.fromBytes P.toRuntime raw with
  | .ok payload => (payload.nameOr "received_payload.bin", payload.body)
  | .error _ => ("received_payload.bin", raw)

def unpackFallback (raw : Bytes) : Except PyErr Receipt :=
  match a.downloadPath with
  | none => .ok ⟨.bytes (fallbackContents (P := P) raw).2, none, t⟩
  | some path => do
      let (target, l, t) ← download site t (some path) (fallbackContents (P := P) raw).1
        (fallbackContents (P := P) raw).2
      return ⟨.path target, some l, t⟩

end Unpack

/-! ## The receivers -/

/-- `_secure_receive_payload`, its sender still to be looked up. -/
def secureReceivePayload (site : Site P) (S : SeenStore) (s : S.State) (a : Arrival P)
    (expectedType : Option Str) : Except PyErr Bytes × S.State :=
  match resolve site.peers a.sender with
  | .error e => (.error e, s)
  | .ok sender =>
      receivePayload site.identity site.guard S s ⟨sender, a.package, expectedType, a.readings⟩

/-- Receive a payload and unpack it. -/
def receiveWith (site : Site P) (S : SeenStore) (s : S.State) (a : Arrival P)
    (expectedType : Option Str) (unpack : Bytes → Except PyErr Receipt) :
    Except PyErr Receipt × S.State :=
  match secureReceivePayload site S s a expectedType with
  | (.error e, s) => (.error e, s)
  | (.ok raw, s) => (unpack raw, s)

section Receivers

variable (site : Site P) (S : SeenStore) (s : S.State) (t : FileTree) (a : Arrival P)

/-- `_receive_file_type`. -/
def receiveFileType (expectedType defaultFilename : Str) : Except PyErr Receipt × S.State :=
  receiveWith site S s a (some expectedType) (saveBody site t a defaultFilename)

def receiveVideo := receiveFileType site S s t a "video" "received_video.mp4"

def receiveAudio := receiveFileType site S s t a "audio" "received_audio.mp3"

def receivePhoto := receiveFileType site S s t a "photo" "received_photo.jpg"

def receiveDocument := receiveFileType site S s t a "document" "received_document.bin"

def receivePDF := receiveFileType site S s t a "pdf" "received_document.pdf"

def receiveArchive := receiveFileType site S s t a "archive" "received_archive.zip"

def receiveFile := receiveFileType site S s t a "file" "received_file.bin"

def receiveVoice := receiveWith site S s a (some "voice") (saveBody site t a "received_voice.ogg")

def receiveBinary := receiveWith site S s a (some "binary") (unpackBinary site t a)

def receiveText := receiveWith site S s a (some "text") (unpackTextItem site t a)

def receiveJSON := receiveWith site S s a (some "json") (unpackJson site t a)

def receiveHTML := receiveWith site S s a (some "html") (unpackHtml site t a)

def receiveLocation := receiveWith site S s a (some "location") (unpackLocation site t)

def receiveContact := receiveWith site S s a (some "contact") (unpackContact site t)

def receiveLiveSession : Except PyErr Receipt × S.State :=
  match resolvePackageInput P.toRuntime a.package with
  | .error e => (.error e, s)
  | .ok package => receiveWith site S s { a with package := .package package }
      (some "live_session") (unpackLiveSession t a package)

def receiveLiveVoiceCall : Except PyErr Receipt × S.State :=
  match resolvePackageInput P.toRuntime a.package with
  | .error e => (.error e, s)
  | .ok package => receiveWith site S s { a with package := .package package }
      (some "live_voice_session") (unpackLiveVoiceCall t a package)

/-- What `Receive` does with a data type that has no receiver. -/
def receiveFallback := receiveWith site S s a none (unpackFallback site t a)

end Receivers

/-- The receivers by their names. -/
inductive Receiver
  | video | audio | photo | document | pdf | archive | file | voice | binary | text | json | html
  | location | contact | liveSession | liveVoiceCall | fallback

def Receiver.run (site : Site P) (S : SeenStore) (s : S.State) (t : FileTree) (a : Arrival P) :
    Receiver → Except PyErr Receipt × S.State
  | .video => receiveVideo site S s t a
  | .audio => receiveAudio site S s t a
  | .photo => receivePhoto site S s t a
  | .document => receiveDocument site S s t a
  | .pdf => receivePDF site S s t a
  | .archive => receiveArchive site S s t a
  | .file => receiveFile site S s t a
  | .voice => receiveVoice site S s t a
  | .binary => receiveBinary site S s t a
  | .text => receiveText site S s t a
  | .json => receiveJSON site S s t a
  | .html => receiveHTML site S s t a
  | .location => receiveLocation site S s t a
  | .contact => receiveContact site S s t a
  | .liveSession => receiveLiveSession site S s t a
  | .liveVoiceCall => receiveLiveVoiceCall site S s t a
  | .fallback => receiveFallback site S s t a

/-- The receivers of `Receive`, by data type. -/
def receivers : List (String × Receiver) :=
  [("video", .video), ("audio", .audio), ("photo", .photo), ("image", .photo), ("text", .text),
    ("document", .document), ("doc", .document), ("pdf", .pdf), ("file", .file),
    ("binary", .binary), ("json", .json), ("html", .html), ("archive", .archive),
    ("zip", .archive), ("voice", .voice), ("location", .location), ("contact", .contact),
    ("live_session", .liveSession), ("live_voice_session", .liveVoiceCall),
    ("live_voice_call", .liveVoiceCall), ("live_voice", .liveVoiceCall),
    ("voice_call", .liveVoiceCall)]

/-- The receiver of a data type. -/
def receiverOf (codecs : Codecs) (dataType : Str) : Receiver :=
  ((receivers.find? fun entry => codecs.lower dataType = entry.1).map Prod.snd).getD .fallback

/-- `Receive`. -/
def receive (site : Site P) (S : SeenStore) (s : S.State) (t : FileTree) (a : Arrival P) :
    Except PyErr Receipt × S.State :=
  match resolvePackageInput P.toRuntime a.package with
  | .error e => (.error e, s)
  | .ok package =>
      (receiverOf site.codecs package.dataType).run site S s t
        { a with package := .package package }

/-! ## What was received -/

def Receiver.expectedType : Receiver → Option Str
  | .video => some "video"
  | .audio => some "audio"
  | .photo => some "photo"
  | .document => some "document"
  | .pdf => some "pdf"
  | .archive => some "archive"
  | .file => some "file"
  | .voice => some "voice"
  | .binary => some "binary"
  | .text => some "text"
  | .json => some "json"
  | .html => some "html"
  | .location => some "location"
  | .contact => some "contact"
  | .liveSession => some "live_session"
  | .liveVoiceCall => some "live_voice_session"
  | .fallback => none

variable {site : Site P} {S : SeenStore} {s s' : S.State} {t : FileTree} {a : Arrival P}
  {receipt : Receipt} {r : Receiver} {package : SecurePackage}

/-- What a receiver returned was made of the payload that it received. -/
theorem receiveWith_eq_ok {expectedType : Option Str} {unpack : Bytes → Except PyErr Receipt} :
    receiveWith site S s a expectedType unpack = (.ok receipt, s') ↔
      ∃ raw, secureReceivePayload site S s a expectedType = (.ok raw, s') ∧
        unpack raw = .ok receipt := by
  unfold receiveWith
  split
  · rename_i failed
    rw [failed]
    exact ⟨nofun, nofun⟩
  · rename_i raw s₁ returned
    simp only [returned, Prod.mk.injEq, Except.ok.injEq]
    constructor
    · rintro ⟨unpacked, rfl⟩
      exact ⟨raw, ⟨rfl, rfl⟩, unpacked⟩
    · rintro ⟨_, ⟨rfl, rfl⟩, unpacked⟩
      exact ⟨unpacked, rfl⟩

/-- A package is received as what it was resolved to. -/
theorem secureReceivePayload_resolved {expectedType : Option Str}
    (resolved : resolvePackageInput P.toRuntime a.package = .ok package) :
    secureReceivePayload site S s { a with package := .package package } expectedType =
      secureReceivePayload site S s a expectedType := by
  unfold secureReceivePayload receivePayload ReceiveCall.resolved
  cases resolve site.peers a.sender with
  | error e => rfl
  | ok sender =>
      simp only [resolved]
      rfl

/-- A receiver returns when it has received a payload. -/
theorem Receiver.run_payload (received : r.run site S s t a = (.ok receipt, s')) :
    ∃ raw, secureReceivePayload site S s a r.expectedType = (.ok raw, s') := by
  have simple : ∀ {expectedType} {unpack : Bytes → Except PyErr Receipt} {a : Arrival P},
      receiveWith site S s a expectedType unpack = (.ok receipt, s') →
        ∃ raw, secureReceivePayload site S s a expectedType = (.ok raw, s') := by
    intro expectedType unpack a returned
    obtain ⟨raw, opened, _⟩ := receiveWith_eq_ok.mp returned
    exact ⟨raw, opened⟩
  cases r with
  | liveSession =>
      simp only [run, receiveLiveSession] at received
      split at received
      · cases received
      · rename_i resolved
        rw [← secureReceivePayload_resolved resolved]
        exact simple received
  | liveVoiceCall =>
      simp only [run, receiveLiveVoiceCall] at received
      split at received
      · cases received
      · rename_i resolved
        rw [← secureReceivePayload_resolved resolved]
        exact simple received
  | _ => exact simple received

/-- `Receive` returns when it has received the payload of a package of the peer it was told. -/
theorem receive_facts (received : receive site S s t a = (.ok receipt, s')) :
    ∃ package peer raw, resolvePackageInput P.toRuntime a.package = .ok package ∧
      resolve site.peers a.sender = .ok peer ∧ package.senderId = peer.id ∧
      secureReceivePayload site S s a (receiverOf site.codecs package.dataType).expectedType =
        (.ok raw, s') := by
  unfold receive at received
  split at received
  · cases received
  · rename_i package resolved
    obtain ⟨raw, opened⟩ := Receiver.run_payload received
    rw [secureReceivePayload_resolved resolved] at opened
    cases looked : resolve site.peers a.sender with
    | error e =>
        rw [secureReceivePayload, looked] at opened
        cases opened
    | ok peer =>
        refine ⟨package, peer, raw, resolved, rfl, ?_, opened⟩
        simp only [secureReceivePayload, looked, receivePayload, ReceiveCall.resolved, resolved,
          bind, Except.bind] at opened
        cases checked : checkPackage package peer.id site.identity.entityId
            (receiverOf site.codecs package.dataType).expectedType with
        | error e =>
            rw [checked] at opened
            cases opened
        | ok _ =>
            simp only [checkPackage, bind_eq_ok, ensure_eq_ok, decide_eq_true_eq] at checked
            obtain ⟨_, same, _⟩ := checked
            exact same

end Uxsp.Secure
