import Uxsp.Contrib.Frameworks

/-!
# When a view is protected

For Flask and Django, what `Uxsp.Contrib.Protected` says for FastAPI.  The decorators have no part
in it, in any of the three frameworks.
-/

namespace Uxsp.Contrib

open Secure

variable {P : Platform} {S : SeenStore} {mw : UXSPFastAPIMiddleware P} {env : Surroundings P}
  {endpoint : Endpoint} {r : HttpRequest} {t : DispatchReadings} {seen seen' : S.State}
  {tree tree' : FileTree} {server sealing : Identity P} {card : Card} {package : SecurePackage}
  {state : RequestState} {output : Output} {receipt : Receipt}
  {sealer : Except PyErr (Identity P)} {maxResponseSize : ℤ} {hint : String}
  {kept : List (Str × Str) → List (Str × Str)} {response : Response}

/-- A view that is told of the package, although the sender's card is missing from the stores that
are asked first, returns no body. -/
def Quiet (sealer : Except PyErr (Identity P)) (told : Item → Except PyErr RequestState)
    (env : Surroundings P) (endpoint : Endpoint) (server : Identity P) (package : SecurePackage)
    (t : DispatchReadings) (seen : S.State) (tree : FileTree) : Prop :=
  ∀ receipt seen' state response sealing,
    receiveRequest env server none package t seen tree = (.ok receipt, seen') →
    told receipt.item = .ok state → sealer = .ok sealing →
    (endpoint.view state).2 = .ok response → response.content.Empty

namespace Django

end Django

namespace Flask

variable {mw : UXSPFlaskMiddleware P}

end Flask

/-- What is sealed for a sender was received from it. -/
def RequestState.Admitted (state : RequestState) : Prop :=
  state.encrypted = true ∨ state.senderCard = none

/-- The two requests come to the same for the client and the stores. -/
structure SameAnswer (a b : Outcome S) : Prop where
  output : a.output = b.output
  seen : a.seen = b.seen
  tree : a.tree = b.tree
  ran : a.ran.isSome = b.ran.isSome

theorem SameAnswer.refl (a : Outcome S) : SameAnswer a a := ⟨rfl, rfl, rfl, rfl⟩

end Uxsp.Contrib
