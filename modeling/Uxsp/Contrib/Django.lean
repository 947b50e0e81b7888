import Uxsp.Contrib.Flask

/-!
# `uxsp.contrib.django`

The middleware takes requests in as the FastAPI middleware does, and puts the payload in the place
of the body.  A sealed body leaves in a new response, which has none of the headers of the view's.
-/

namespace Uxsp.Contrib

open Secure

variable {P : Platform} (env : Surroundings P) {S : SeenStore}

/-- The settings are those of the FastAPI middleware. -/
abbrev UXSPDjangoMiddleware (P : Platform) := UXSPFastAPIMiddleware P

namespace Django

variable (mw : UXSPDjangoMiddleware P) (endpoint : Endpoint)

/-- The response of the view, sealed or as it is. -/
def respond (server : Identity P) (state : RequestState) (r : HttpRequest) (t : DispatchReadings)
    (response : Response) : Except PyErr Output :=
  respondWith env mw.maxResponseSize "Use StreamingHttpResponse." (fun _ => []) server state r t
    response

/-- Run the view and answer. -/
def serve (server : Identity P) (state : RequestState) (r : HttpRequest) (t : DispatchReadings)
    (seen : S.State) (tree : FileTree) : Outcome S where
  ran := some (endpoint.view state).1
  output := do
    let response ← (endpoint.view state).2
    respond env mw server (endpoint.view state).1 r t response
  seen := seen
  tree := tree

/-- Open the package of a request and let the view run. -/
def callPackage (server : Identity P) (package : SecurePackage) (r : HttpRequest)
    (t : DispatchReadings) (seen : S.State) (tree : FileTree) : Outcome S :=
  match resolvePeerCard mw env package.senderId with
  | .error e => noRun (.error e) seen tree
  | .ok card =>
      match receiveRequest env server card package t seen tree with
      | (.error _, seen) => noRun (.ok (.refused 400 "UXSP Decryption Failed")) seen tree
      | (.ok receipt, seen) =>
          match receivedState env card package receipt.item with
          | .error _ => noRun (.ok (.refused 400 "UXSP Decryption Failed")) seen receipt.tree
          | .ok state => serve env mw endpoint server state r t seen receipt.tree

/-- The view on an excluded path: the decorator finds no flags. -/
def callExcluded (r : HttpRequest) (seen : S.State) (tree : FileTree) : Outcome S :=
  if endpoint.protect then noRun (.error ⟨.runtimeError,
    ["@protect_view decorator requires UXSPDjangoMiddleware to be installed."]⟩) seen tree
  else ⟨some (plainState r), Output.plain <$> endpoint.run (plainState r), seen, tree⟩

/-- `UXSPDjangoMiddleware.__call__`. -/
def call (r : HttpRequest) (t : DispatchReadings) (seen : S.State) (tree : FileTree) :
    Outcome S :=
  if excluded mw r.path then callExcluded endpoint r seen tree
  else match intake mw env r, mw.identity with
    | .refuse status error, _ => noRun (.ok (.refused status error)) seen tree
    | .raise e, _ => noRun (.error e) seen tree
    | _, .error e => noRun (.error e) seen tree
    | .package package, .ok server => callPackage env mw endpoint server package r t seen tree
    | .plain, .ok server =>
        if mw.requireEncryption then noRun (.ok (.refused 400 "UXSP Encryption Required")) seen tree
        else serve env mw endpoint server (plainState r) r t seen tree

end Django

end Uxsp.Contrib
