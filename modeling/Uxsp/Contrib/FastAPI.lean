import Uxsp.Secure.Senders

/-!
# `uxsp.contrib.fastapi`

The middleware opens the package in a request, lets the endpoint run and seals what it returns for
the sender.  An endpoint is given by what it does, and by whether it is wrapped in `@protect`.
-/

namespace Uxsp.Contrib

open Secure

variable {P : Platform}

/-- A request: the names of its headers are in lower case, the body is all that is streamed. -/
structure HttpRequest where
  path : Str
  headers : List (Str × Str)
  body : Bytes

def HttpRequest.header (r : HttpRequest) (name : Str) : Option Str := r.headers.lookup name

/-- A header that is there and is not empty. -/
def HttpRequest.has (r : HttpRequest) (name : Str) : Bool := (r.header name).any (· ≠ [])

/-- The body of a response, whole or in pieces. -/
inductive Content
  | body (b : Bytes)
  | stream (chunks : List Bytes)

structure Response where
  status : ℕ
  headers : List (Str × Str)
  content : Content

/-- `request.state`, and the body that the endpoint reads. -/
structure RequestState where
  encrypted : Bool
  payload : Option Item
  senderId : Option Str
  senderCard : Option Card
  forceEncrypt : Bool
  body : Bytes

/-- The handler behind the middleware; it leaves the flags in `request.state` alone. -/
structure Endpoint where
  protect : Bool
  /-- One of its arguments is the `Request`. -/
  takesRequest : Bool
  run : RequestState → Except PyErr Response

/-- `protect`: mark the request, and run the endpoint. -/
def Endpoint.call (e : Endpoint) (state : RequestState) : RequestState × Except PyErr Response :=
  let state := if e.protect && e.takesRequest then { state with forceEncrypt := true } else state
  (state, e.run state)

structure UXSPFastAPIMiddleware (P : Platform) where
  identity : Except PyErr (Identity P)
  /-- `keystore.public_card`. -/
  keystore : Option (Str → Except PyErr (Option Card))
  requireEncryption : Bool
  excludePaths : List Str
  maxResponseSize : ℤ
  maxRequestSize : ℤ

/-- The `require_encryption` that the constructor works out of its arguments. -/
def requireEncryptionOf (lower : Str → Str) (fallback : Bool) (mode : Str)
    (requireEncryption : Option Bool) : Bool :=
  match requireEncryption with
  | some require => require || mode = "strict"
  | none => !fallback || lower mode = "strict"

/-- The global context and what the interpreter has no short description of: the printed form of an
object, and the text of bytes with replacement characters. -/
structure Surroundings (P : Platform) where
  site : Site P
  files : Files
  contextPeer : Str → Except PyErr (Option Card)
  printed : Item → Except PyErr Str
  decodeReplace : Bytes → Str

/-- The times and random bytes of one request. -/
structure DispatchReadings where
  receiving : Identity.OpenReadings
  freshKey : Urandom KEY_SIZE
  freshId : Urandom 16
  sending : ℕ → SendReadings

/-- What the client is sent: an error of the middleware, the response of the endpoint, or packages
in its place. -/
inductive Output
  | refused (status : ℕ) (error : Str)
  | plain (r : Response)
  | sealedStream (status : ℕ) (headers : List (Str × Str)) (packages : List SecurePackage)
      (failure : Option PyErr)
  | sealedBody (status : ℕ) (headers : List (Str × Str)) (package : SecurePackage)

/-- What a request comes to: the state in which the endpoint ran, if it did, and the output. -/
structure Outcome (S : SeenStore) where
  ran : Option RequestState
  output : Except PyErr Output
  seen : S.State
  tree : FileTree

variable (mw : UXSPFastAPIMiddleware P) (env : Surroundings P) (endpoint : Endpoint)

/-! ## Negotiation -/

/-- `s.strip().lower()`. -/
def normalized (lower : Str → Str) (s : Str) : Str :=
  lower ((s.dropWhile Str.isSpace).reverse.dropWhile Str.isSpace).reverse

/-- `negotiate_protocol` of a header that is not empty. -/
def negotiateProtocol (lower : Str → Str) (header : Str) : Str :=
  let tokens := (header.splitOn (.ofChar ',')).map (normalized lower)
  if Str.ofString "v1.2" ∈ tokens ∨ ∃ t ∈ tokens, Str.ofString "ml-kem" <:+: t then "v1.2"
  else if Str.ofString "v1.0" ∈ tokens ∨ Str.ofString "v1" ∈ tokens then "v1.0"
  else "v1.2"

/-- The version that the response names. -/
def selectedVersion (r : HttpRequest) : Option Str :=
  match r.header "sec-uxsp-support" with
  | none | some [] => none
  | some support => some (negotiateProtocol env.site.codecs.lower support)

def selectedHeader (r : HttpRequest) : List (Str × Str) :=
  match selectedVersion env r with
  | none => []
  | some version => [("Sec-UXSP-Selected", version)]

/-! ## The request -/

/-- What a request is taken for before it is opened. -/
inductive Intake
  | refuse (status : ℕ) (error : Str)
  | raise (e : PyErr)
  | plain
  | package (p : SecurePackage)

def tooLarge (r : HttpRequest) : Bool :=
  (match r.header "content-length" with
    | none | some [] => false
    | some length => match P.toRuntime.int (.str length) with
        | .ok n => decide (mw.maxRequestSize < n)
        | .error _ => false) ||
    decide (mw.maxRequestSize < r.body.length)

/-- The headers or the content type speak of a package. -/
def marked (r : HttpRequest) : Bool :=
  r.has "x-uxsp-package" || r.has "x-uxsp-sender" ||
    normalized env.site.codecs.lower
      (((r.header "content-type").getD []).takeWhile (· ≠ .ofChar ';')) = "application/uxsp+json"

/-- `body.strip().startswith(b"{")`. -/
def opensBrace (body : Bytes) : Bool :=
  (body.dropWhile fun b => (9 ≤ b && b ≤ 13) || b == 32).head? = some 0x7b

/-- What is made of the body of a marked request. -/
def intakeBody (R : Runtime) (body : Bytes) : Intake :=
  match R.jsonLoads body with
  | .error e =>
      if [.jsonDecodeError, .unicodeDecodeError, .keyError].any e.cls.isA then .plain else .raise e
  | .ok (.dict d) =>
      if Dict.has d "sender_id" && (Dict.has d "envelope" || Dict.has d "chunks") then
        match SecurePackage.fromDict R (.dict d) with
        | .ok package => .package package
        | .error _ => .refuse 400 "Malformed UXSP request"
      else .plain
  | .ok _ => .plain

def intake (r : HttpRequest) : Intake :=
  if tooLarge mw r then .refuse 413 "Payload Too Large"
  else if marked env r && opensBrace r.body then intakeBody P.toRuntime r.body
  else .plain

/-- `resolve_peer_card`. -/
def resolvePeerCard (senderId : Str) : Except PyErr (Option Card) :=
  let fromContext := match (do env.contextPeer (← normalizeId P.toRuntime (.str senderId))) with
    | .ok card => card
    | .error _ => none
  match mw.keystore with
  | none => .ok fromContext
  | some publicCard => do
      match ← publicCard senderId with
      | some card => return some card
      | none => return fromContext

/-- `sender_card or sender_id`. -/
def senderOf (card : Option Card) (package : SecurePackage) : Party P :=
  match card with
  | some card => .card card
  | none => .id (.str package.senderId)

/-- Bytes that hold JSON, as the value. -/
def parsePayload (R : Runtime) : Item → Item
  | .bytes b => match R.jsonLoads b with
      | .ok v => .json v
      | .error _ => .bytes b
  | item => item

/-- What the endpoint reads as the body of the request. -/
def payloadBody : Item → Except PyErr Bytes
  | .bytes b => .ok b
  | .json (.list xs) => P.jsonDumps (.list xs)
  | .json (.dict d) => P.jsonDumps (.dict d)
  | item => do (← env.printed item).utf8

variable {S : SeenStore}

/-- Receive the package of a request with the server's identity. -/
def receiveRequest (server : Identity P) (card : Option Card) (package : SecurePackage)
    (t : DispatchReadings) (seen : S.State) (tree : FileTree) : Except PyErr Receipt × S.State :=
  receive { env.site with identity := server } S seen tree {
    sender := senderOf card package
    package := .package package
    downloadPath := none
    readings := t.receiving
    freshKey := t.freshKey
    freshId := t.freshId }

/-- The state for a received item. -/
def receivedState (card : Option Card) (package : SecurePackage) (item : Item) :
    Except PyErr RequestState := do
  let payload := parsePayload P.toRuntime item
  let body ← payloadBody env payload
  return {
    encrypted := true
    payload := some payload
    senderId := some package.senderId
    senderCard := card
    forceEncrypt := false
    body := body }

/-- The state for a request that is no package. -/
def plainState (r : HttpRequest) : RequestState := ⟨false, none, none, none, false, r.body⟩

/-! ## The response -/

/-- Seal the pieces of a stream; what fails ends it. -/
def encryptStream (server : Identity P) (card : Card) :
    List Bytes → (ℕ → SendReadings) → List SecurePackage × Option PyErr
  | [], _ => ([], none)
  | [] :: chunks, t => encryptStream server card chunks t
  | (b :: bs) :: chunks, t =>
      match sendBinary server card (b :: bs) (t 0) with
      | .error e => ([], some e)
      | .ok package =>
          let (packages, failure) := encryptStream server card chunks fun k => t (k + 1)
          (package :: packages, failure)

/-- The headers of a sealed response. -/
def sealedHeaders (server : Identity P) (state : RequestState) (r : HttpRequest) :
    List (Str × Str) :=
  ([("X-UXSP-Package", "1"), ("X-UXSP-Sender", server.entityId),
    ("X-UXSP-Recipient", state.senderId.getD []), ("X-UXSP-Version", "1")] : List (Str × Str)) ++
    selectedHeader env r

/-- The response of the endpoint as it is. -/
def plainOutput (r : HttpRequest) (response : Response) : Output :=
  .plain { response with headers := response.headers ++ selectedHeader env r }

/-- Seal the body of a response; bytes that hold no JSON are sent as a text. -/
def sealBody (server : Identity P) (card : Card) (body : Bytes) (t : SendReadings) :
    Except PyErr SecurePackage := do
  ensure (body.length ≤ mw.maxResponseSize) ⟨.valueError,
    ["Response exceeds max_response_size of ", .int mw.maxResponseSize,
      " bytes. Use StreamingResponse instead."]⟩
  let item := match P.jsonLoads body with
    | .ok v => SendItem.value v
    | .error _ => .value (.str (env.decodeReplace body))
  send env.site.codecs env.files server card item t

/-- What leaves the middleware for a response of the endpoint. -/
def respond (server : Identity P) (state : RequestState) (r : HttpRequest) (t : DispatchReadings)
    (response : Response) : Except PyErr Output :=
  match state.encrypted || state.forceEncrypt, state.senderCard, response.content with
  | true, some card, .stream chunks =>
      let kept := response.headers.filter fun h =>
        env.site.codecs.lower h.1 ≠ "content-length" ∧ env.site.codecs.lower h.1 ≠ "content-type"
      let (packages, failure) := encryptStream server card chunks t.sending
      .ok (.sealedStream response.status (kept ++ sealedHeaders env server state r) packages
        failure)
  | true, some card, .body (b :: bs) => do
      let package ← sealBody mw env server card (b :: bs) (t.sending 0)
      return .sealedBody response.status (response.headers ++ sealedHeaders env server state r)
        package
  | _, _, _ => .ok (plainOutput env r response)

/-! ## `dispatch` -/

/-- Run the endpoint and answer. -/
def serve (server : Identity P) (state : RequestState) (r : HttpRequest) (t : DispatchReadings)
    (seen : S.State) (tree : FileTree) : Outcome S where
  ran := some (endpoint.call state).1
  output := do
    let response ← (endpoint.call state).2
    respond mw env server (endpoint.call state).1 r t response
  seen := seen
  tree := tree

/-- A request that is refused or fails before the endpoint runs. -/
def noRun (output : Except PyErr Output) (seen : S.State) (tree : FileTree) : Outcome S :=
  ⟨none, output, seen, tree⟩

/-- Open the package of a request and let the endpoint run. -/
def dispatchPackage (server : Identity P) (package : SecurePackage) (r : HttpRequest)
    (t : DispatchReadings) (seen : S.State) (tree : FileTree) : Outcome S :=
  match resolvePeerCard mw env package.senderId with
  | .error e => noRun (.error e) seen tree
  | .ok card =>
      match receiveRequest env server card package t seen tree with
      | (.error _, seen) => noRun (.ok (.refused 400 "UXSP Decryption Failed")) seen tree
      | (.ok receipt, seen) =>
          match receivedState env card package receipt.item with
          | .error _ => noRun (.ok (.refused 400 "UXSP Decryption Failed")) seen receipt.tree
          | .ok state => serve mw env endpoint server state r t seen receipt.tree

/-- A path that the middleware leaves alone. -/
def excluded (path : Str) : Bool := mw.excludePaths.any (·.isPrefixOf path)

/-- An excluded path: `@protect` finds no flags. -/
def dispatchExcluded (r : HttpRequest) (seen : S.State) (tree : FileTree) : Outcome S :=
  if endpoint.protect && endpoint.takesRequest then noRun (.error ⟨.runtimeError,
    ["@protect decorator requires UXSPMiddleware to be installed."]⟩) seen tree
  else ⟨some (plainState r), Output.plain <$> endpoint.run (plainState r), seen, tree⟩

/-- `UXSPFastAPIMiddleware.dispatch`. -/
def dispatch (r : HttpRequest) (t : DispatchReadings) (seen : S.State) (tree : FileTree) :
    Outcome S :=
  if excluded mw r.path then dispatchExcluded endpoint r seen tree
  else match intake mw env r, mw.identity with
    | .refuse status error, _ => noRun (.ok (.refused status error)) seen tree
    | .raise e, _ => noRun (.error e) seen tree
    | _, .error e => noRun (.error e) seen tree
    | .package package, .ok server => dispatchPackage mw env endpoint server package r t seen tree
    | .plain, .ok server =>
        if mw.requireEncryption then noRun (.ok (.refused 400 "UXSP Encryption Required")) seen tree
        else serve mw env endpoint server (plainState r) r t seen tree

end Uxsp.Contrib
