import Uxsp.Contrib.FastAPI

/-!
# `uxsp.contrib.flask`

The extension takes requests in as the FastAPI middleware does, but leaves the body of an opened
request as it was sent.  `_after_request` sees every response, those of `_before_request` and of
excluded paths too, and asks for the server's identity a second time.  What the application makes of
an exception is not modelled: an exception is the output.
-/

namespace Uxsp.Contrib

open Secure

variable {P : Platform} (env : Surroundings P) {S : SeenStore}

/-! ## Views -/

/-- `protect_route` and `protect_view`: mark the request, and run the view. -/
def Endpoint.view (e : Endpoint) (state : RequestState) : RequestState × Except PyErr Response :=
  let state := if e.protect then { state with forceEncrypt := true } else state
  (state, e.run state)

/-- Seal the body of a response, an empty one too. -/
def sealContent (maxResponseSize : ℤ) (hint : String) (server : Identity P) (card : Card)
    (body : Bytes) (t : SendReadings) : Except PyErr SecurePackage := do
  ensure (body.length ≤ maxResponseSize) ⟨.valueError,
    ["Response exceeds max_response_size of ", .int maxResponseSize, " bytes. ", .lit hint]⟩
  let item := match P.jsonLoads body with
    | .ok v => SendItem.value v
    | .error _ => .value (.str (env.decodeReplace body))
  send env.site.codecs env.files server card item t

/-- What leaves for the response of a view.  `kept` are the headers of the response that a sealed
body keeps. -/
def respondWith (maxResponseSize : ℤ) (hint : String) (kept : List (Str × Str) → List (Str × Str))
    (server : Identity P) (state : RequestState) (r : HttpRequest) (t : DispatchReadings)
    (response : Response) : Except PyErr Output :=
  match state.encrypted || state.forceEncrypt, state.senderCard, response.content with
  | true, some card, .stream chunks =>
      let kept := response.headers.filter fun h =>
        env.site.codecs.lower h.1 ≠ "content-length" ∧ env.site.codecs.lower h.1 ≠ "content-type"
      let (packages, failure) := encryptStream server card chunks t.sending
      .ok (.sealedStream response.status (kept ++ sealedHeaders env server state r) packages
        failure)
  | true, some card, .body b => do
      let package ← sealContent env maxResponseSize hint server card b (t.sending 0)
      return .sealedBody response.status (kept response.headers ++ sealedHeaders env server state r)
        package
  | _, _, _ => .ok (plainOutput env r response)

/-! ## Flask -/

/-- The settings are those of the FastAPI middleware. -/
structure UXSPFlaskMiddleware (P : Platform) extends UXSPFastAPIMiddleware P where
  /-- `_get_identity` when the response is there. -/
  identityAgain : Except PyErr (Identity P)

namespace Flask

variable (mw : UXSPFlaskMiddleware P) (endpoint : Endpoint)

/-- `flask.g` for a received item. -/
def receivedState (r : HttpRequest) (card : Option Card) (package : SecurePackage) (item : Item) :
    RequestState where
  encrypted := true
  payload := some (parsePayload P.toRuntime item)
  senderId := some package.senderId
  senderCard := card
  forceEncrypt := false
  body := r.body

/-- How `_before_request` ends. -/
inductive Before
  | view (state : RequestState)
  | excluded
  | answer (status : ℕ) (error : Str)
  | raise (e : PyErr)

/-- `_before_request` on a package. -/
def openPackage (server : Identity P) (package : SecurePackage) (r : HttpRequest)
    (t : DispatchReadings) (seen : S.State) (tree : FileTree) : Before × S.State × FileTree :=
  match resolvePeerCard mw.toUXSPFastAPIMiddleware env package.senderId with
  | .error e => (.raise e, seen, tree)
  | .ok card =>
      match receiveRequest env server card package t seen tree with
      | (.error _, seen) => (.answer 400 "UXSP Decryption Failed", seen, tree)
      | (.ok receipt, seen) =>
          (.view (receivedState (P := P) r card package receipt.item), seen, receipt.tree)

/-- `_before_request`. -/
def beforeRequest (r : HttpRequest) (t : DispatchReadings) (seen : S.State) (tree : FileTree) :
    Before × S.State × FileTree :=
  if excluded mw.toUXSPFastAPIMiddleware r.path then (.excluded, seen, tree)
  else match intake mw.toUXSPFastAPIMiddleware env r, mw.identity with
    | .refuse status error, _ => (.answer status error, seen, tree)
    | .raise e, _ => (.raise e, seen, tree)
    | _, .error e => (.raise e, seen, tree)
    | .package package, .ok server => openPackage env mw server package r t seen tree
    | .plain, .ok _ =>
        if mw.requireEncryption then (.answer 400 "UXSP Encryption Required", seen, tree)
        else (.view (plainState r), seen, tree)

/-- `_after_request` behind `_before_request` has set its flags. -/
def afterRequest (state : RequestState) (r : HttpRequest) (t : DispatchReadings)
    (response : Response) : Except PyErr Output := do
  let server ← mw.identityAgain
  respondWith env mw.maxResponseSize "Use streaming response." id server state r t response

/-- The header of a response on an excluded path: nothing was negotiated. -/
def defaultSelected (r : HttpRequest) : List (Str × Str) :=
  if r.has "sec-uxsp-support" then [("Sec-UXSP-Selected", "v1.2")] else []

/-- What a request comes to; `refusal` are the headers that `_after_request` adds to a refusal. -/
structure Outcome (S : SeenStore) extends Contrib.Outcome S where
  refusal : List (Str × Str)

/-- The view on an excluded path: the decorator finds no flags. -/
def runExcluded (r : HttpRequest) : Option RequestState × Except PyErr Output :=
  if endpoint.protect then (none, .error ⟨.runtimeError,
    ["@protect_route decorator requires UXSPFlaskMiddleware to be installed."]⟩)
  else (some (plainState r), do
    let response ← endpoint.run (plainState r)
    let _ ← mw.identityAgain
    return .plain { response with headers := response.headers ++ defaultSelected r })

/-- The request goes on from where `_before_request` ended. -/
def finish (r : HttpRequest) (t : DispatchReadings) (before : Before × S.State × FileTree) :
    Outcome S :=
  match before with
  | (.raise e, seen, tree) => ⟨⟨none, .error e, seen, tree⟩, []⟩
  | (.answer status error, seen, tree) =>
      ⟨⟨none, mw.identityAgain.map fun _ => .refused status error, seen, tree⟩,
        selectedHeader env r⟩
  | (.excluded, seen, tree) =>
      ⟨⟨(runExcluded mw endpoint r).1, (runExcluded mw endpoint r).2, seen, tree⟩, []⟩
  | (.view state, seen, tree) =>
      ⟨⟨some (endpoint.view state).1, (do
        let response ← (endpoint.view state).2
        afterRequest env mw (endpoint.view state).1 r t response), seen, tree⟩, []⟩

/-- A request to an application with the extension. -/
def handle (r : HttpRequest) (t : DispatchReadings) (seen : S.State) (tree : FileTree) :
    Outcome S :=
  finish env mw endpoint r t (beforeRequest env mw r t seen tree)

end Flask

end Uxsp.Contrib
