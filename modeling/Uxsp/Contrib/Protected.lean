import Uxsp.Contrib.FastAPI
import Uxsp.Secure.Downloads

/-!
# When an endpoint is protected

`dispatch_kept_iff` says when the endpoint runs on authenticated packages only and nothing of its
response leaves unsealed.  `@protect` has no part in it.
-/

namespace Uxsp.Contrib

open Secure

variable {P : Platform} {S : SeenStore} {mw : UXSPFastAPIMiddleware P} {env : Surroundings P}
  {endpoint : Endpoint} {r : HttpRequest} {t : DispatchReadings} {seen seen' : S.State}
  {tree : FileTree} {server : Identity P} {card : Card} {package : SecurePackage}
  {state : RequestState} {output : Output} {outcome : Outcome S} {receipt : Receipt}

def Content.Empty : Content → Prop
  | .body b => b = []
  | .stream chunks => ∀ chunk ∈ chunks, chunk = []

/-- What leaves of the response is sealed by the server for the card. -/
def Output.SealedFor (env : Surroundings P) (server : Identity P) (card : Card) : Output → Prop
  | .refused _ _ => True
  | .plain response => response.content.Empty
  | .sealedStream _ _ packages _ => ∀ package ∈ packages, ∃ chunk t,
      sendBinary server card chunk t = .ok package
  | .sealedBody _ _ package => ∃ item t,
      send env.site.codecs env.files server card item t = .ok package

/-- If the endpoint ran, then on a package that was received from the sender whose id it saw, and
its response leaves sealed for that sender. -/
def Kept (mw : UXSPFastAPIMiddleware P) (env : Surroundings P) (r : HttpRequest)
    (t : DispatchReadings) (seen : S.State) (tree : FileTree) (outcome : Outcome S) : Prop :=
  ∀ state, outcome.ran = some state → ∃ server package found peer receipt seen',
    mw.identity = .ok server ∧ intake mw env r = .package package ∧
    resolve env.site.peers (senderOf (P := P) found package) = .ok peer ∧
    receiveRequest env server found package t seen tree = (.ok receipt, seen') ∧
    state.senderId = some peer.id ∧
    ∀ output, outcome.output = .ok output → output.SealedFor env server peer.card

/-- The condition: a request that is no package is refused, and where the sender's card is missing
from the stores that are asked first, the endpoint returns no body. -/
def Guarded (mw : UXSPFastAPIMiddleware P) (env : Surroundings P) (endpoint : Endpoint)
    (r : HttpRequest) (t : DispatchReadings) (seen : S.State) (tree : FileTree) : Prop :=
  match intake mw env r, mw.identity with
  | .package package, .ok server => resolvePeerCard mw env package.senderId = .ok none →
      ∀ receipt seen' state response,
        receiveRequest env server none package t seen tree = (.ok receipt, seen') →
        receivedState env none package receipt.item = .ok state →
        (endpoint.call state).2 = .ok response → response.content.Empty
  | .plain, .ok _ => mw.requireEncryption = true
  | _, _ => True

/-! ## The response -/

theorem encryptStream_sealed {chunks : List Bytes} {t : ℕ → SendReadings} :
    ∀ package ∈ (encryptStream server card chunks t).1, ∃ chunk t,
      sendBinary server card chunk t = .ok package := by
  induction chunks generalizing t with
  | nil => exact fun _ mem => absurd mem List.not_mem_nil
  | cons chunk chunks ih =>
      cases chunk with
      | nil => exact ih
      | cons b bs =>
          unfold encryptStream
          split
          · exact fun _ mem => absurd mem List.not_mem_nil
          · rename_i first made
            intro package mem
            obtain rfl | later := List.mem_cons.mp mem
            · exact ⟨_, _, made⟩
            · exact ih package later

/-- A response to a sender whose card is known leaves sealed for it. -/
theorem respond_sealed (encrypted : state.encrypted = true) (known : state.senderCard = some card)
    {response : Response} (answered : respond mw env server state r t response = .ok output) :
    output.SealedFor env server card := by
  unfold respond at answered
  rw [encrypted, known, Bool.true_or] at answered
  cases content : response.content with
  | stream chunks =>
      rw [content] at answered
      cases answered
      exact encryptStream_sealed
  | body b =>
      cases b with
      | nil =>
          rw [content] at answered
          cases answered
          change response.content.Empty
          rw [content]
          rfl
      | cons b bs =>
          rw [content] at answered
          simp only [bind_eq_ok, pure_eq_ok, sealBody, ensure_eq_ok] at answered
          obtain ⟨package, ⟨_, _, sent⟩, rfl⟩ := answered
          exact ⟨_, _, sent⟩

/-- A response to a sender whose card is not known leaves as it is. -/
theorem respond_unknown (unknown : state.senderCard = none) (response : Response) :
    respond mw env server state r t response = .ok (plainOutput env r response) := by
  unfold respond
  rw [unknown]
  cases state.encrypted || state.forceEncrypt <;> rfl

variable (endpoint state) in
theorem call_fields : (endpoint.call state).1.encrypted = state.encrypted ∧
    (endpoint.call state).1.senderCard = state.senderCard ∧
    (endpoint.call state).1.senderId = state.senderId := by
  unfold Endpoint.call
  simp only
  split <;> exact ⟨rfl, rfl, rfl⟩

/-- The flags that a received package sets. -/
theorem receivedState_fields {found : Option Card} {item : Item}
    (received : receivedState env found package item = .ok state) :
    state.encrypted = true ∧ state.senderCard = found ∧
      state.senderId = some package.senderId := by
  simp only [receivedState, bind_eq_ok, pure_eq_ok] at received
  obtain ⟨body, _, rfl⟩ := received
  exact ⟨rfl, rfl, rfl⟩

/-! ## The request -/

theorem kept_noRun {result : Except PyErr Output} {tree' : FileTree} :
    Kept mw env r t seen tree (noRun result seen' tree' : Outcome S) := fun _ ran => nomatch ran

/-- A package was received from the peer whose id the endpoint sees. -/
theorem receiveRequest_facts {found : Option Card}
    (received : receiveRequest env server found package t seen tree = (.ok receipt, seen')) :
    ∃ peer, resolve env.site.peers (senderOf (P := P) found package) = .ok peer ∧
      package.senderId = peer.id := by
  obtain ⟨package', peer, raw, same, looked, id, _⟩ := receive_facts received
  cases same
  exact ⟨peer, looked, id⟩

/-- The endpoint runs on a received package: it is protected if the sender's card is known, or if it
returns no body. -/
theorem kept_serve_iff {found : Option Card} (identity : mw.identity = .ok server)
    (taken : intake mw env r = .package package)
    (received : receiveRequest env server found package t seen tree = (.ok receipt, seen'))
    (made : receivedState env found package receipt.item = .ok state) {tree' : FileTree} :
    Kept mw env r t seen tree (serve mw env endpoint server state r t seen' tree') ↔
      (found = none → ∀ response, (endpoint.call state).2 = .ok response →
        response.content.Empty) := by
  obtain ⟨encrypted, known, id⟩ := receivedState_fields made
  obtain ⟨encrypted', known', id'⟩ := call_fields endpoint state
  obtain ⟨peer, looked, same⟩ := receiveRequest_facts received
  constructor
  · rintro kept rfl response returned
    obtain ⟨server', _, _, peer', _, _, _, _, _, _, _, leaves⟩ := kept _ rfl
    have answered : (serve mw env endpoint server state r t seen' tree').output =
        .ok (plainOutput env r response) := by
      simp only [serve, returned, bind, Except.bind]
      exact respond_unknown (known'.trans known) response
    exact leaves _ answered
  · rintro quiet state' ran
    cases ran
    refine ⟨server, package, found, peer, receipt, seen', identity, taken, looked, received,
      by rw [id', id, same], fun output answered => ?_⟩
    simp only [serve, bind_eq_ok] at answered
    obtain ⟨response, returned, answered⟩ := answered
    cases found with
    | none =>
        rw [respond_unknown (known'.trans known) response] at answered
        cases answered
        exact quiet rfl response returned
    | some card =>
        have here : peer.card = card := by
          cases looked
          rfl
        rw [here]
        exact respond_sealed (encrypted'.trans encrypted) (known'.trans known) answered

/-- On a path that is not excluded an endpoint is protected under the condition and only then. -/
theorem dispatch_kept_iff (inside : excluded mw r.path = false) :
    Kept mw env r t seen tree (dispatch mw env endpoint r t seen tree) ↔
      Guarded mw env endpoint r t seen tree := by
  unfold dispatch Guarded
  rw [if_neg (by rw [inside]; exact Bool.false_ne_true)]
  cases taken : intake mw env r with
  | refuse status error => exact iff_of_true kept_noRun trivial
  | raise e => exact iff_of_true kept_noRun trivial
  | plain =>
      cases identity : mw.identity with
      | error e => exact iff_of_true kept_noRun trivial
      | ok server =>
          by_cases strict : mw.requireEncryption = true
          · simp only [strict, if_true]
            exact iff_of_true kept_noRun trivial
          · simp only [strict]
            refine iff_of_false (fun kept => ?_) Bool.false_ne_true
            obtain ⟨_, _, _, _, _, _, _, package, _⟩ := kept _ rfl
            rw [taken] at package
            cases package
  | package package =>
      cases identity : mw.identity with
      | error e => exact iff_of_true kept_noRun trivial
      | ok server =>
          simp only [dispatchPackage]
          cases found : resolvePeerCard mw env package.senderId with
          | error e => exact iff_of_true kept_noRun nofun
          | ok card =>
              simp only [Except.ok.injEq]
              cases received : receiveRequest env server card package t seen tree with
              | mk result seen' =>
                  cases result with
                  | error e =>
                      refine iff_of_true kept_noRun ?_
                      rintro rfl receipt seen' state response again
                      rw [received] at again
                      cases again
                  | ok receipt =>
                      cases made : receivedState env card package receipt.item with
                      | error e =>
                          simp only [made]
                          refine iff_of_true kept_noRun ?_
                          rintro rfl receipt' seen'' state response again made'
                          rw [received] at again
                          cases again
                          rw [made] at made'
                          cases made'
                      | ok state =>
                          simp only [made]
                          refine (kept_serve_iff identity taken received made).trans ?_
                          constructor
                          · rintro quiet rfl receipt' seen'' state' response again made' returned
                            rw [received] at again
                            cases again
                            rw [made] at made'
                            cases made'
                            exact quiet rfl response returned
                          · rintro quiet rfl response returned
                            exact quiet rfl receipt seen' state response received made returned

/-! A plain request, to a strict middleware and to an endpoint in `@protect`. -/

def sampleMiddleware (requireEncryption : Bool) : UXSPFastAPIMiddleware .textual where
  identity := .ok sampleRecipient
  keystore := none
  requireEncryption := requireEncryption
  excludePaths := ["/docs"]
  maxResponseSize := 16777216
  maxRequestSize := 16777216

def sampleSurroundings : Surroundings .textual where
  site := sampleSite
  files := fun _ => none
  contextPeer := fun _ => .ok none
  printed := fun _ => .ok []
  decodeReplace := fun _ => []

def sampleEndpoint : Endpoint where
  protect := true
  takesRequest := true
  run := fun _ => .ok ⟨200, [], .body [1, 2]⟩

def samplePlainRequest : HttpRequest := ⟨"/pay", [], [1]⟩

def sampleDispatchReadings : DispatchReadings where
  receiving := sampleReadings
  freshKey := .filled 32 0
  freshId := .filled 16 0
  sending := fun _ => ⟨1000, 1000, sampleCoins⟩

/-- A sample request to the sample endpoint. -/
def sampleDispatch (requireEncryption : Bool) : Outcome MemoryNonceStore.seenStore :=
  dispatch (sampleMiddleware requireEncryption) sampleSurroundings sampleEndpoint
    samplePlainRequest sampleDispatchReadings .empty sampleTree

theorem intake_samplePlainRequest (requireEncryption : Bool) :
    intake (sampleMiddleware requireEncryption) sampleSurroundings samplePlainRequest = .plain := by
  cases requireEncryption <;> rfl

/-- A strict middleware refuses it. -/
theorem sampleDispatch_kept : Kept (S := MemoryNonceStore.seenStore) (sampleMiddleware true)
    sampleSurroundings samplePlainRequest sampleDispatchReadings .empty sampleTree
    (sampleDispatch true) := by
  have inside : excluded (sampleMiddleware true) samplePlainRequest.path = false := by decide
  refine (dispatch_kept_iff inside).mpr ?_
  unfold Guarded
  rw [intake_samplePlainRequest]
  rfl

/-- An endpoint in `@protect` runs on it. -/
theorem protect_runs_plain : ¬ ∀ (P : Platform) (S : SeenStore) (mw : UXSPFastAPIMiddleware P)
    (env : Surroundings P) (endpoint : Endpoint) (r : HttpRequest) (t : DispatchReadings)
    (seen : S.State) (tree : FileTree), excluded mw r.path = false →
      mw.requireEncryption = true ∨ endpoint.protect = true →
        Kept mw env r t seen tree (dispatch mw env endpoint r t seen tree) := by
  intro always
  have kept : Kept (S := MemoryNonceStore.seenStore) (sampleMiddleware false) sampleSurroundings
      samplePlainRequest sampleDispatchReadings .empty sampleTree (sampleDispatch false) :=
    always .textual MemoryNonceStore.seenStore (sampleMiddleware false) sampleSurroundings
      sampleEndpoint samplePlainRequest sampleDispatchReadings .empty sampleTree (by decide)
      (.inr rfl)
  have ran : (sampleDispatch false).ran = some (sampleEndpoint.call
      (plainState samplePlainRequest)).1 := by
    unfold sampleDispatch dispatch
    rw [if_neg (by decide), intake_samplePlainRequest]
    rfl
  obtain ⟨_, _, _, _, _, _, _, taken, _⟩ := kept _ ran
  rw [intake_samplePlainRequest] at taken
  cases taken

end Uxsp.Contrib
