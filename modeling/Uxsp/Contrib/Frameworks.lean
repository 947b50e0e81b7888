import Uxsp.Contrib.Django
import Uxsp.Contrib.Protected

/-!
# Three frameworks in front of one store

`letIn` is what the integrations do with a request before the endpoint runs.  The FastAPI and the
Django middleware refine it; the Flask extension does too, except that it also lets a package
through whose payload cannot be written as a body.  A fleet of servers that share their stores
therefore takes the same packages whichever of them a request goes to.
-/

namespace Uxsp.Contrib

open Secure

variable {P : Platform} {S : SeenStore} {mw : UXSPFlaskMiddleware P} {env : Surroundings P}
  {endpoint endpoint' : Endpoint} {r : HttpRequest} {t : DispatchReadings} {seen seen' : S.State}
  {tree tree' : FileTree} {server : Identity P} {package : SecurePackage} {state : RequestState}

/-! ## Admission -/

/-- What is decided about a request before the endpoint runs. -/
inductive Admission (P : Platform)
  | view (server : Identity P) (state : RequestState)
  | refused (status : ℕ) (error : Str)
  | failed (e : PyErr)

section

variable (mw : UXSPFastAPIMiddleware P) (env : Surroundings P)

def letPackageIn (server : Identity P) (package : SecurePackage) (t : DispatchReadings)
    (seen : S.State) (tree : FileTree) : Admission P × S.State × FileTree :=
  match resolvePeerCard mw env package.senderId with
  | .error e => (.failed e, seen, tree)
  | .ok card =>
      match receiveRequest env server card package t seen tree with
      | (.error _, seen) => (.refused 400 "UXSP Decryption Failed", seen, tree)
      | (.ok receipt, seen) =>
          match receivedState env card package receipt.item with
          | .error _ => (.refused 400 "UXSP Decryption Failed", seen, receipt.tree)
          | .ok state => (.view server state, seen, receipt.tree)

def letIn (r : HttpRequest) (t : DispatchReadings) (seen : S.State) (tree : FileTree) :
    Admission P × S.State × FileTree :=
  match intake mw env r, mw.identity with
  | .refuse status error, _ => (.refused status error, seen, tree)
  | .raise e, _ => (.failed e, seen, tree)
  | _, .error e => (.failed e, seen, tree)
  | .package package, .ok server => letPackageIn mw env server package t seen tree
  | .plain, .ok server =>
      if mw.requireEncryption then (.refused 400 "UXSP Encryption Required", seen, tree)
      else (.view server (plainState r), seen, tree)

end

/-- What comes of an admission, given what serves a view. -/
def Admission.outcome
    (serve : Identity P → RequestState → S.State → FileTree → Outcome S) :
    Admission P × S.State × FileTree → Outcome S
  | (.view server state, seen, tree) => serve server state seen tree
  | (.refused status error, seen, tree) => noRun (.ok (.refused status error)) seen tree
  | (.failed e, seen, tree) => noRun (.error e) seen tree

section

variable {mw : UXSPFastAPIMiddleware P}

theorem dispatchPackage_eq : dispatchPackage mw env endpoint server package r t seen tree =
    Admission.outcome
      (fun server state seen tree => serve mw env endpoint server state r t seen tree)
      (letPackageIn mw env server package t seen tree) := by
  unfold dispatchPackage letPackageIn
  cases resolvePeerCard mw env package.senderId with
  | error e => rfl
  | ok card =>
      dsimp only
      rcases receiveRequest env server card package t seen tree with ⟨result, seen'⟩
      cases result with
      | error e => rfl
      | ok receipt =>
          dsimp only
          cases receivedState env card package receipt.item with
          | error e => rfl
          | ok state => rfl

theorem dispatch_eq (inside : excluded mw r.path = false) :
    dispatch mw env endpoint r t seen tree =
      Admission.outcome
        (fun server state seen tree => serve mw env endpoint server state r t seen tree)
        (letIn mw env r t seen tree) := by
  unfold dispatch letIn
  rw [if_neg (by rw [inside]; exact Bool.false_ne_true)]
  cases intake mw env r with
  | refuse status error => rfl
  | raise e => rfl
  | plain =>
      cases mw.identity with
      | error e => rfl
      | ok server => cases strict : mw.requireEncryption <;> rfl
  | package package =>
      cases mw.identity with
      | error e => rfl
      | ok server => exact dispatchPackage_eq

theorem Django.callPackage_eq : Django.callPackage env mw endpoint server package r t seen tree =
    Admission.outcome
      (fun server state seen tree => Django.serve env mw endpoint server state r t seen tree)
      (letPackageIn mw env server package t seen tree) := by
  unfold Django.callPackage letPackageIn
  cases resolvePeerCard mw env package.senderId with
  | error e => rfl
  | ok card =>
      dsimp only
      rcases receiveRequest env server card package t seen tree with ⟨result, seen'⟩
      cases result with
      | error e => rfl
      | ok receipt =>
          dsimp only
          cases receivedState env card package receipt.item with
          | error e => rfl
          | ok state => rfl

theorem Django.call_eq (inside : excluded mw r.path = false) :
    Django.call env mw endpoint r t seen tree =
      Admission.outcome
        (fun server state seen tree => Django.serve env mw endpoint server state r t seen tree)
        (letIn mw env r t seen tree) := by
  unfold Django.call letIn
  rw [if_neg (by rw [inside]; exact Bool.false_ne_true)]
  cases intake mw env r with
  | refuse status error => rfl
  | raise e => rfl
  | plain =>
      cases mw.identity with
      | error e => rfl
      | ok server => cases strict : mw.requireEncryption <;> rfl
  | package package =>
      cases mw.identity with
      | error e => rfl
      | ok server => exact Django.callPackage_eq

end

/-! ## Agreement -/

/-- What an endpoint is told of a request, apart from its body. -/
structure SameFlags (a b : RequestState) : Prop where
  encrypted : a.encrypted = b.encrypted
  payload : a.payload = b.payload
  senderId : a.senderId = b.senderId
  senderCard : a.senderCard = b.senderCard

/-- `a` is what a request to the FastAPI middleware comes to, and `b` what it comes to in another
framework. -/
structure Agrees (mw : UXSPFlaskMiddleware P) (env : Surroundings P) (r : HttpRequest)
    (a b : Outcome S) : Prop where
  seen : a.seen = b.seen
  tree : a.tree = b.tree
  told : excluded mw.toUXSPFastAPIMiddleware r.path = false → ∀ state, a.ran = some state →
    ∃ state', b.ran = some state' ∧ SameFlags state state'
  /-- Where the endpoint does not run, the client is answered the same, or the extension finds no
  identity, or the payload cannot be written as a body. -/
  refused : excluded mw.toUXSPFastAPIMiddleware r.path = false → a.ran = none →
    b.ran = none ∧ (b.output = a.output ∨ ∃ e, mw.identityAgain = .error e ∧ b.output = .error e) ∨
    a.output = .ok (.refused 400 "UXSP Decryption Failed") ∧
      ∃ state payload e, b.ran = some state ∧ state.payload = some payload ∧
        payloadBody env payload = .error e

theorem SameFlags.symm {a b : RequestState} (same : SameFlags a b) : SameFlags b a :=
  ⟨same.encrypted.symm, same.payload.symm, same.senderId.symm, same.senderCard.symm⟩

theorem SameFlags.trans {a b c : RequestState} (left : SameFlags a b) (right : SameFlags b c) :
    SameFlags a c :=
  ⟨left.encrypted.trans right.encrypted, left.payload.trans right.payload,
    left.senderId.trans right.senderId, left.senderCard.trans right.senderCard⟩

theorem sameFlags_call (endpoint : Endpoint) (state : RequestState) :
    SameFlags (endpoint.call state).1 state := by
  unfold Endpoint.call
  dsimp only
  split <;> exact ⟨rfl, rfl, rfl, rfl⟩

theorem sameFlags_view (endpoint : Endpoint) (state : RequestState) :
    SameFlags state (endpoint.view state).1 := by
  unfold Endpoint.view
  dsimp only
  split <;> exact ⟨rfl, rfl, rfl, rfl⟩

theorem dispatchExcluded_stores :
    (dispatchExcluded endpoint r seen tree : Outcome S).seen = seen ∧
      (dispatchExcluded endpoint r seen tree : Outcome S).tree = tree := by
  unfold dispatchExcluded
  split <;> exact ⟨rfl, rfl⟩

theorem Django.callExcluded_stores :
    (Django.callExcluded endpoint r seen tree : Outcome S).seen = seen ∧
      (Django.callExcluded endpoint r seen tree : Outcome S).tree = tree := by
  unfold Django.callExcluded
  split <;> exact ⟨rfl, rfl⟩

variable (seen tree) in
/-- On an excluded path no framework touches the stores. -/
theorem Agrees.of_excluded {a b : Outcome S}
    (outside : excluded mw.toUXSPFastAPIMiddleware r.path = true)
    (left : a.seen = seen ∧ a.tree = tree) (right : b.seen = seen ∧ b.tree = tree) :
    Agrees mw env r a b where
  seen := left.1.trans right.1.symm
  tree := left.2.trans right.2.symm
  told inside := by
    rw [outside] at inside
    cases inside
  refused inside := by
    rw [outside] at inside
    cases inside

/-- Two outcomes without the endpoint. -/
theorem Agrees.of_noRun {a b : Outcome S} (seen : a.seen = b.seen) (tree : a.tree = b.tree)
    (ranA : a.ran = none) (ranB : b.ran = none)
    (output : b.output = a.output ∨ ∃ e, mw.identityAgain = .error e ∧ b.output = .error e) :
    Agrees mw env r a b where
  seen := seen
  tree := tree
  told _ state ran := by
    rw [ranA] at ran
    cases ran
  refused _ _ := .inl ⟨ranB, output⟩

/-- Two outcomes with the endpoint. -/
theorem Agrees.of_run {a b : Outcome S} (seen : a.seen = b.seen) (tree : a.tree = b.tree)
    {told told' : RequestState} (ranA : a.ran = some told) (ranB : b.ran = some told')
    (same : SameFlags told told') : Agrees mw env r a b where
  seen := seen
  tree := tree
  told _ state ran := by
    rw [ranA] at ran
    cases ran
    exact ⟨told', ranB, same⟩
  refused _ ran := by
    rw [ranA] at ran
    cases ran

theorem Django.agrees : Agrees mw env r
    (dispatch mw.toUXSPFastAPIMiddleware env endpoint r t seen tree)
    (Django.call env mw.toUXSPFastAPIMiddleware endpoint' r t seen tree) := by
  cases inside : excluded mw.toUXSPFastAPIMiddleware r.path with
  | true =>
      refine .of_excluded seen tree inside ?_ ?_
      · rw [dispatch, if_pos inside]
        exact dispatchExcluded_stores
      · rw [Django.call, if_pos inside]
        exact Django.callExcluded_stores
  | false =>
      rw [dispatch_eq inside, Django.call_eq inside]
      rcases letIn mw.toUXSPFastAPIMiddleware env r t seen tree with ⟨admission, seen', tree'⟩
      cases admission with
      | view server state => exact .of_run rfl rfl rfl rfl ((sameFlags_call endpoint state).trans
          (sameFlags_view endpoint' state))
      | refused status error => exact .of_noRun rfl rfl rfl rfl (.inl rfl)
      | failed e => exact .of_noRun rfl rfl rfl rfl (.inl rfl)

namespace Flask

theorem answer_cases (output : Output) :
    (mw.identityAgain.map fun _ => output) = .ok output ∨
      ∃ e, mw.identityAgain = .error e ∧ (mw.identityAgain.map fun _ => output) = .error e := by
  cases again : mw.identityAgain with
  | ok server => exact .inl rfl
  | error e => exact .inr ⟨e, rfl, rfl⟩

/-- The flags of an opened request, in the two frameworks. -/
theorem sameFlags_received {card : Option Card} {item : Item}
    (received : Contrib.receivedState env card package item = .ok state) :
    SameFlags state (receivedState (P := P) r card package item) := by
  simp only [Contrib.receivedState, bind_eq_ok, pure_eq_ok] at received
  obtain ⟨body, -, rfl⟩ := received
  exact ⟨rfl, rfl, rfl, rfl⟩

/-- Where the FastAPI middleware fails behind the opening, the payload cannot be written. -/
theorem unwritable {card : Option Card} {item : Item} {e : PyErr}
    (failed : Contrib.receivedState env card package item = .error e) :
    payloadBody env (parsePayload P.toRuntime item) = .error e := by
  unfold Contrib.receivedState at failed
  cases written : payloadBody env (parsePayload P.toRuntime item) with
  | error e' =>
      simp only [written] at failed
      cases failed
      rfl
  | ok body =>
      simp only [written] at failed
      cases failed

theorem openPackage_agrees : Agrees mw env r
    (Admission.outcome
      (fun server state seen tree =>
        serve mw.toUXSPFastAPIMiddleware env endpoint server state r t seen tree)
      (letPackageIn mw.toUXSPFastAPIMiddleware env server package t seen tree))
    (finish env mw endpoint' r t (openPackage env mw server package r t seen tree)).toOutcome := by
  unfold letPackageIn openPackage
  cases resolvePeerCard mw.toUXSPFastAPIMiddleware env package.senderId with
  | error e => exact .of_noRun rfl rfl rfl rfl (.inl rfl)
  | ok card =>
      dsimp only
      rcases receiveRequest env server card package t seen tree with ⟨result, seen'⟩
      cases result with
      | error e => exact .of_noRun rfl rfl rfl rfl (answer_cases _)
      | ok receipt =>
          have told := sameFlags_view endpoint'
            (receivedState (P := P) r card package receipt.item)
          dsimp only
          cases received : Contrib.receivedState env card package receipt.item with
          | ok state =>
              exact .of_run rfl rfl rfl rfl ((sameFlags_call endpoint state).trans
                ((sameFlags_received received).trans told))
          | error e =>
              refine ⟨rfl, rfl, fun _ state ran => ?_,
                fun _ _ => .inr ⟨rfl, _, _, e, rfl, told.payload.symm, unwritable received⟩⟩
              cases ran

theorem agrees : Agrees mw env r
    (dispatch mw.toUXSPFastAPIMiddleware env endpoint r t seen tree)
    (handle env mw endpoint' r t seen tree).toOutcome := by
  cases inside : excluded mw.toUXSPFastAPIMiddleware r.path with
  | true =>
      refine .of_excluded seen tree inside ?_ ?_
      · rw [dispatch, if_pos inside]
        exact dispatchExcluded_stores
      · rw [handle, beforeRequest, if_pos inside]
        exact ⟨rfl, rfl⟩
  | false =>
      rw [dispatch_eq inside, handle, beforeRequest, letIn,
        if_neg (by rw [inside]; exact Bool.false_ne_true)]
      cases intake mw.toUXSPFastAPIMiddleware env r with
      | refuse status error => exact .of_noRun rfl rfl rfl rfl (answer_cases _)
      | raise e => exact .of_noRun rfl rfl rfl rfl (.inl rfl)
      | plain =>
          cases mw.identity with
          | error e => exact .of_noRun rfl rfl rfl rfl (.inl rfl)
          | ok server =>
              cases strict : mw.requireEncryption with
              | true => exact .of_noRun rfl rfl rfl rfl (answer_cases _)
              | false =>
                  exact .of_run rfl rfl rfl rfl
                    ((sameFlags_call endpoint _).trans (sameFlags_view endpoint' _))
      | package package =>
          cases mw.identity with
          | error e => exact .of_noRun rfl rfl rfl rfl (.inl rfl)
          | ok server => exact openPackage_agrees

end Flask

/-! ## A fleet -/

theorem Agrees.refl (a : Outcome S) : Agrees mw env r a a where
  seen := rfl
  tree := rfl
  told _ state ran := ⟨state, ran, rfl, rfl, rfl, rfl⟩
  refused _ ran := .inl ⟨ran, .inl rfl⟩

inductive Framework
  | fastapi
  | django
  | flask

/-- A request, and the framework and the endpoint that it goes to. -/
structure Visit where
  framework : Framework
  endpoint : Endpoint
  request : HttpRequest
  readings : DispatchReadings

/-- What the servers share. -/
structure Stores (S : SeenStore) where
  seen : S.State
  tree : FileTree

def Visit.outcome (mw : UXSPFlaskMiddleware P) (env : Surroundings P) (v : Visit)
    (s : Stores S) : Outcome S :=
  match v.framework with
  | .fastapi =>
      dispatch mw.toUXSPFastAPIMiddleware env v.endpoint v.request v.readings s.seen s.tree
  | .django =>
      Django.call env mw.toUXSPFastAPIMiddleware v.endpoint v.request v.readings s.seen s.tree
  | .flask => (Flask.handle env mw v.endpoint v.request v.readings s.seen s.tree).toOutcome

/-- The servers have the same settings and answer one request after the other. -/
inductive FleetStep (mw : UXSPFlaskMiddleware P) (env : Surroundings P) (s : Stores S) :
    Visit × Outcome S → Stores S → Prop
  | visit (v : Visit) : FleetStep mw env s (v, v.outcome mw env s)
      ⟨(v.outcome mw env s).seen, (v.outcome mw env s).tree⟩

variable (mw env) in
theorem Visit.agrees (v : Visit) (s : Stores S) : Agrees mw env v.request
    (Visit.outcome mw env { v with framework := .fastapi } s) (v.outcome mw env s) := by
  rcases v with ⟨framework, endpoint, request, readings⟩
  cases framework with
  | fastapi => exact .refl _
  | django => exact Django.agrees
  | flask => exact Flask.agrees

/-- Whatever frameworks the requests go to, the stores go through the same states as if all of them
went to FastAPI, and each request is let through, refused and shown to its endpoint alike. -/
theorem fleet_agrees {s s' : Stores S} {es : List (Visit × Outcome S)}
    (run : Run (FleetStep mw env) s es s') :
    ∃ fs, Run (FleetStep mw env) s fs s' ∧ List.Forall₂
      (fun e f => f.1 = { e.1 with framework := .fastapi } ∧ Agrees mw env e.1.request f.2 e.2)
      es fs := by
  induction run with
  | nil => exact ⟨[], .nil, .nil⟩
  | @snoc t u es e before last ih =>
      obtain ⟨fs, run, same⟩ := ih
      cases last with
      | visit v =>
          have agrees := v.agrees mw env t
          have step : FleetStep mw env t _ _ := .visit { v with framework := .fastapi }
          rw [agrees.seen, agrees.tree] at step
          exact ⟨_, .snoc run step, List.rel_append same (.cons ⟨rfl, agrees⟩ .nil)⟩

/-! Two plain requests, to an extension and to a middleware. -/

def sampleFlask (requireEncryption : Bool) : UXSPFlaskMiddleware .textual where
  toUXSPFastAPIMiddleware := sampleMiddleware requireEncryption
  identityAgain := .ok sampleRecipient

def sampleVisit (framework : Framework) : Visit :=
  ⟨framework, sampleEndpoint, samplePlainRequest, sampleDispatchReadings⟩

def sampleStores : Stores MemoryNonceStore.seenStore := ⟨MemoryNonceStore.empty, sampleTree⟩

/-- FastAPI would have done the same. -/
theorem sample_fleet_agrees : ∃ (es fs : List (Visit × Outcome MemoryNonceStore.seenStore))
      (s : Stores MemoryNonceStore.seenStore), es.map (·.1.framework) = [.flask, .django] ∧
    Run (FleetStep (sampleFlask false) sampleSurroundings) sampleStores es s ∧
    Run (FleetStep (sampleFlask false) sampleSurroundings) sampleStores fs s ∧
    fs.map (·.1.framework) = [.fastapi, .fastapi] := by
  have first : FleetStep (sampleFlask false) sampleSurroundings sampleStores _ _ :=
    .visit (sampleVisit .flask)
  have run := (Run.single first).snoc (.visit (sampleVisit .django))
  obtain ⟨fs, again, same⟩ := fleet_agrees run
  refine ⟨_, fs, _, rfl, run, again, ?_⟩
  rcases same with _ | ⟨⟨one, -⟩, _ | ⟨⟨two, -⟩, _ | _⟩⟩
  rw [List.map_cons, List.map_cons, one, two]
  rfl

end Uxsp.Contrib
