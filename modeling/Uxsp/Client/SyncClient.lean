import Uxsp.Lib.Assoc
import Uxsp.Secure.Senders

/-!
# `uxsp.client._sync_client`

A client that remembers which hosts speak the protocol.  `fetch` seals the body for the card of the
host where it speaks it or is forced to, and otherwise sends it as it is; `call.reply` is what the
server answers to the request.
-/

namespace Uxsp.Client

open Secure

variable {P : Platform}

/-! ## Capabilities -/

structure HostCapability where
  supportsUxsp : Bool
  selectedVersion : Option Str
  peerId : Option Str
  cachedAt : ℚ
  ttl : ℚ

def HostCapability.isExpired (c : HostCapability) (now : ℚ) : Bool := c.ttl < now - c.cachedAt

/-- `HostCapabilityCache`. -/
structure CapabilityCache where
  State : Type
  get : State → (hostKey : Str) → (now : ℚ) → Except PyErr (Option HostCapability) × State
  set : State → (hostKey : Str) → HostCapability → Except PyErr Unit × State

/-- `InMemoryHostCapabilityCache`. -/
def inMemoryHostCapabilityCache : CapabilityCache where
  State := List (Str × HostCapability)
  get := fun entries hostKey now =>
    match entries.lookup hostKey with
    | none => (.ok none, entries)
    | some entry =>
        if entry.isExpired now then (.ok none, Assoc.erase entries hostKey)
        else (.ok (some entry), entries)
  set := fun entries hostKey capability => (.ok (), Assoc.set entries hostKey capability)

/-! ## Requests and responses -/

abbrev Headers : Type := List (Str × Str)

structure Request where
  method : Str
  url : Str
  headers : Headers
  content : Option Bytes

/-- What the content of a request was made of. -/
inductive Carries
  | nothing
  | plaintext
  | package (p : SecurePackage)

/-- A request that was handed to the HTTP library. -/
structure Transmission where
  request : Request
  carries : Carries

structure Reply where
  status : ℤ
  headers : Headers
  body : Bytes

structure UXSPResponse where
  statusCode : ℤ
  headers : Headers
  content : Bytes
  url : Str
  isUxsp : Bool
  package : Option SecurePackage
  data : Option Item

/-- What `urllib.parse.urlsplit` finds, the port when it is asked for. -/
structure SplitUrl where
  scheme : Str
  hostname : Option Str
  port : Except PyErr (Option ℕ)

/-- The client's surroundings: the global context and what it uses of `urllib`. -/
structure Machine (P : Platform) where
  site : Site P
  files : Files
  urlsplit : Str → Except PyErr SplitUrl
  urlencode : Dict → Except PyErr Str

structure UXSPClient (P : Platform) where
  identity : Option (Identity P)
  allowFallback : Bool
  forceUxsp : Bool
  /-- There is an HTTP client; without one `urllib.request` is used. -/
  httpClient : Bool

/-- The arguments of `fetch`, with what happens around the call: the key store that is asked, the
readings, and what the server answers to the request and to the one after a failure. -/
structure FetchCall (P : Platform) where
  url : Str
  data : SendItem
  json : Val
  jsonData : Val
  method : Str
  headers : Headers
  peerId : Option Str
  peerCard : Option Card
  allowFallback : Option Bool
  forceUxsp : Option Bool
  keystore : Str → Except PyErr (Option Card)
  now : ℚ
  cachedAt : ℚ
  sending : SendReadings
  receiving : Identity.OpenReadings
  freshKey : Urandom KEY_SIZE
  freshId : Urandom 16
  reply : Except PyErr Reply
  fallbackReply : Except PyErr Reply

/-- What outlasts a call. -/
structure World (C : CapabilityCache) (S : SeenStore) where
  cache : C.State
  seen : S.State
  tree : FileTree
  peerRegistry : List (Str × Card)
  sent : List Transmission

/-- `json if json is not None else json_data`. -/
def FetchCall.actualJson (call : FetchCall P) : Val :=
  if call.json.isNone then call.jsonData else call.json

/-- The fallback that a call allows. -/
def UXSPClient.allows (client : UXSPClient P) (call : FetchCall P) : Bool :=
  call.allowFallback.getD client.allowFallback

/-- What a call forces. -/
def UXSPClient.forces (client : UXSPClient P) (call : FetchCall P) : Bool :=
  call.forceUxsp.getD client.forceUxsp

variable (m : Machine P) (client : UXSPClient P) (call : FetchCall P)

/-- `normalize_host_key`. -/
def normalizeHostKey (url : Str) : Except PyErr Str := do
  let schemes : List Str := ["http://", "https://", "ws://", "wss://"]
  let parsed ← m.urlsplit (if schemes.any (·.isPrefixOf url) then url else "https://" ++ url)
  let hostname := m.site.codecs.lower (parsed.hostname.getD [])
  let port := (← parsed.port).getD
    (if parsed.scheme = "https" ∨ parsed.scheme = "wss" then 443 else 80)
  return hostname ++ (":" : Str) ++ Str.ofInt port

/-! ## Peers -/

/-- A peer by an id that is not empty: first the registry, then the key store. -/
def peerById (registry : List (Str × Card)) : Option Str → Except PyErr (Option Card)
  | none | some [] => .ok none
  | some id => match registry.lookup id with
      | some card => .ok (some card)
      | none => call.keystore id

/-- `_resolve_peer_card`. -/
def resolvePeerCard (registry : List (Str × Card)) (hostKey : Str) (cap : Option HostCapability) :
    Except PyErr (Option Card) := do
  if let some card := call.peerCard then return some card
  if let some card ← peerById call registry call.peerId then return some card
  if let some card := registry.lookup hostKey then return some card
  peerById call registry (cap.bind HostCapability.peerId)

/-! ## Plain requests -/

/-- `urllib` sends to HTTP and HTTPS only. -/
def canSend (url : Str) : Bool :=
  client.httpClient || List.isPrefixOf (Str.ofString "http://") url ||
    List.isPrefixOf (Str.ofString "https://") url

/-- `_raw_send`. -/
def rawSend (x : Transmission) (reply : Except PyErr Reply) (sent : List Transmission) :
    Except PyErr Reply × List Transmission :=
  if canSend client x.request.url then (reply, sent ++ [x])
  else (.error ⟨.valueError, ["Unsupported URL scheme in '", .str x.request.url,
    "'. Only HTTP and HTTPS are allowed."]⟩, sent)

/-- The content of a plain request. -/
def plainContent : Except PyErr (Option Bytes) :=
  if call.actualJson.isNone then
    match call.data with
    | .bytes b => .ok (some b)
    | .value (.str s) => some <$> s.utf8
    | .value (.dict d) => do
        let text ← m.urlencode d
        some <$> text.utf8
    | _ => .ok none
  else some <$> P.jsonDumps call.actualJson

/-- `headers.setdefault("Content-Type", type)`. -/
def setContentType (headers : Headers) (type : Str) : Headers :=
  if (headers.lookup (Str.ofString "Content-Type")).isSome then headers
  else headers ++ [(Str.ofString "Content-Type", type)]

def plainHeaders (headers : Headers) : Headers :=
  if call.actualJson.isNone then
    match call.data with
    | .value (.dict _) => setContentType headers "application/x-www-form-urlencoded"
    | _ => headers
  else setContentType headers "application/json"

/-- The response to a request whose reply is not decrypted. -/
def plainResponse (reply : Reply) : UXSPResponse where
  statusCode := reply.status
  headers := reply.headers
  content := reply.body
  url := call.url
  isUxsp := false
  package := none
  data := none

/-- `_send_plain`. -/
def sendPlain (headers : Headers) (reply : Except PyErr Reply) (sent : List Transmission) :
    Except PyErr UXSPResponse × List Transmission :=
  match plainContent m call with
  | .error e => (.error e, sent)
  | .ok content =>
      match rawSend client {
          request := ⟨call.method, call.url, plainHeaders call headers, content⟩
          carries := if content.isSome then .plaintext else .nothing } reply sent with
      | (.error e, sent) => (.error e, sent)
      | (.ok reply, sent) => (.ok (plainResponse call reply), sent)

/-! ## Sealed requests -/

def UXSPClient.activeIdentity : Identity P := client.identity.getD m.site.identity

/-- The package of a call, and its text. -/
def sealRequest (card : Card) : Except PyErr (SecurePackage × Bytes) := do
  let item := if call.actualJson.isNone then
      match call.data with
      | .value .none => .value (.str [])
      | item => item
    else .value call.actualJson
  let package ← send m.site.codecs m.files (client.activeIdentity m) card item call.sending
  let content ← package.toJson P.toRuntime
  return (package, content)

/-- The request with a package in it. -/
def uxspRequest (card : Card) (content : Bytes) : Request where
  method := if m.site.codecs.upper call.method = "GET" ∧ content ≠ [] then "POST"
    else m.site.codecs.upper call.method
  url := call.url
  headers := Assoc.update call.headers [("Content-Type", "application/uxsp+json"),
    ("X-UXSP-Package", "1"), ("X-UXSP-Sender", (client.activeIdentity m).entityId),
    ("X-UXSP-Recipient", card.entityId), ("X-UXSP-Version", "1"),
    ("Sec-UXSP-Support", "v1.2, ml-kem-768")]
  content := some content

/-- A header of a reply, its name in lower case. -/
def replyHeader (headers : Headers) (name : Str) : Option Str :=
  (Assoc.update [] (headers.map fun h => (m.site.codecs.lower h.1, h.2))).lookup name

/-- The reply is marked as a package. -/
def isUxspResponse (reply : Reply) : Bool :=
  decide (Str.ofString "application/uxsp+json" <:+:
      (replyHeader m reply.headers "content-type").getD []) ||
    (replyHeader m reply.headers "x-uxsp-package").any (· ≠ [])

/-- `s.strip()`. -/
def strip (s : Str) : Str :=
  ((s.dropWhile Str.isSpace).reverse.dropWhile Str.isSpace).reverse

/-- The package in a reply. -/
def replyPackage (reply : Reply) : Except PyErr SecurePackage := do
  let text ← m.site.codecs.decode "utf-8" reply.body
  let raw ← (strip text).utf8
  SecurePackage.fromJson P.toRuntime raw

variable {C : CapabilityCache} {S : SeenStore}

/-- A package of the resolved peer is received. -/
def receiveReply (card : Card) (package : SecurePackage) (seen : S.State) (tree : FileTree) :
    Except PyErr Receipt × S.State :=
  receive { m.site with identity := client.activeIdentity m } S seen tree {
    sender := .card card
    package := .package package
    downloadPath := none
    readings := call.receiving
    freshKey := call.freshKey
    freshId := call.freshId }

/-- Open the package in a reply. -/
def openReply (card : Card) (reply : Reply) (seen : S.State) (tree : FileTree) :
    Except PyErr (SecurePackage × Receipt) × S.State :=
  match replyPackage m reply with
  | .error e => (.error e, seen)
  | .ok package =>
      match receiveReply m client call card package seen tree with
      | (.error e, seen) => (.error e, seen)
      | (.ok receipt, seen) => (.ok (package, receipt), seen)

/-- What `_send_uxsp` makes of a reply. -/
def readReply (card : Card) (reply : Reply) (w : World C S) :
    Except PyErr UXSPResponse × World C S :=
  if isUxspResponse m reply then
    match openReply m client call card reply w.seen w.tree with
    | (.ok (package, receipt), seen) =>
        (.ok { plainResponse call reply with
          isUxsp := true
          package := some package
          data := some receipt.item }, { w with seen := seen, tree := receipt.tree })
    | (.error e, seen) =>
        if client.allowFallback then (.ok (plainResponse call reply), { w with seen := seen })
        else (.error ⟨.uxspClientError, [.lit "Failed to decrypt UXSP response: "] ++ e.msg⟩,
          { w with seen := seen })
  else (.ok (plainResponse call reply), w)

/-- What is remembered of a host that has answered a sealed request. -/
def answeredCapability (card : Card) (reply : Reply) : HostCapability where
  supportsUxsp := true
  selectedVersion := match replyHeader m reply.headers "sec-uxsp-selected" with
    | none | some [] => some "v1.2"
    | some selected => some selected
  peerId := some card.entityId
  cachedAt := call.cachedAt
  ttl := 3600

/-- `_send_uxsp`. -/
def sendUxsp (hostKey : Str) (card : Card) (w : World C S) :
    Except PyErr UXSPResponse × World C S :=
  match sealRequest m client call card with
  | .error e => (.error e, w)
  | .ok (package, content) =>
      match rawSend client ⟨uxspRequest m client call card content, .package package⟩ call.reply
          w.sent with
      | (.error e, sent) => (.error e, { w with sent := sent })
      | (.ok reply, sent) =>
          match C.set w.cache hostKey (answeredCapability m call card reply) with
          | (.error e, cache) => (.error e, { w with sent := sent, cache := cache })
          | (.ok _, cache) =>
              readReply m client call card reply { w with sent := sent, cache := cache }

/-! ## `fetch` -/

/-- The way a call takes: a host known to speak HTTPS only, a sealed request, or a probe. -/
inductive Route
  | plain
  | uxsp (card : Card)
  | probe

def route (registry : List (Str × Card)) (hostKey : Str) (cap : Option HostCapability) :
    Except PyErr Route := do
  ensure (!(client.forces call && cap.any (!·.supportsUxsp))) ⟨.protocolFallbackError,
    ["Host '", .str hostKey, "' is known to not support UXSP and force_uxsp=True."]⟩
  let resolved ← resolvePeerCard call registry hostKey cap
  if cap.any (!·.supportsUxsp) then return .plain
  else if cap.any (·.supportsUxsp) || client.forces call then
    match resolved with
    | some card => return .uxsp card
    | none => .error ⟨.uxspPeerResolutionError,
        ["Host '", .str hostKey, "' requires UXSP, but no PublicCard could be resolved."]⟩
  else return .probe

/-- What a probe has shown of a host. -/
def probedCapability (response : UXSPResponse) : HostCapability :=
  match replyHeader m response.headers "sec-uxsp-selected" with
  | none | some [] => ⟨false, none, none, call.cachedAt, 3600⟩
  | some selected =>
      ⟨true, some selected, replyHeader m response.headers "x-uxsp-sender", call.cachedAt, 3600⟩

/-- A plain request that asks the host whether it speaks the protocol. -/
def probe (hostKey : Str) (w : World C S) : Except PyErr UXSPResponse × World C S :=
  let headers := Assoc.set call.headers "Sec-UXSP-Support" "v1.2, ml-kem-768"
  match sendPlain m client call headers call.reply w.sent with
  | (.error e, sent) => (.error e, { w with sent := sent })
  | (.ok response, sent) =>
      match C.set w.cache hostKey (probedCapability m call response) with
      | (.error e, cache) => (.error e, { w with sent := sent, cache := cache })
      | (.ok _, cache) => (.ok response, { w with sent := sent, cache := cache })

/-- A plain request; the capability is left as it is. -/
def plainFetch (reply : Except PyErr Reply) (w : World C S) :
    Except PyErr UXSPResponse × World C S :=
  let (result, sent) := sendPlain m client call call.headers reply w.sent
  (result, { w with sent := sent })

/-- A sealed request, and the plain one after a failure. -/
def uxspFetch (hostKey : Str) (card : Card) (w : World C S) :
    Except PyErr UXSPResponse × World C S :=
  match sendUxsp m client call hostKey card w with
  | (.ok response, w) => (.ok response, w)
  | (.error e, w) =>
      if !client.allows call then (.error e, w)
      else if client.forces call then
        (.error ⟨.protocolFallbackError, [.lit "UXSP request to '", .str hostKey,
          .lit "' failed and force_uxsp is enabled: "] ++ e.msg⟩, w)
      else plainFetch m client call call.fallbackReply w

/-- Look the host up and choose the way. -/
def plan (w : World C S) : Except PyErr (Str × Route) × C.State :=
  match normalizeHostKey m call.url with
  | .error e => (.error e, w.cache)
  | .ok hostKey =>
      match C.get w.cache hostKey call.now with
      | (.error e, cache) => (.error e, cache)
      | (.ok cap, cache) =>
          (Prod.mk hostKey <$> route client call w.peerRegistry hostKey cap, cache)

/-- `UXSPClient.fetch`. -/
def fetch (w : World C S) : Except PyErr UXSPResponse × World C S :=
  match plan m client call w with
  | (.error e, cache) => (.error e, { w with cache := cache })
  | (.ok (_, .plain), cache) => plainFetch m client call call.reply { w with cache := cache }
  | (.ok (hostKey, .uxsp card), cache) =>
      uxspFetch m client call hostKey card { w with cache := cache }
  | (.ok (hostKey, .probe), cache) => probe m client call hostKey { w with cache := cache }

/-- `register_peer`. -/
def registerPeer (hostOrId : Str) (card : Card) (w : World C S) : World C S :=
  { w with peerRegistry := Assoc.set w.peerRegistry (m.site.codecs.lower hostOrId) card }

end Uxsp.Client
