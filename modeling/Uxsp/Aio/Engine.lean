import Uxsp.Secure.Engine
import Uxsp.Storage.AsyncNonceStore

/-!
# `uxsp.aio._engine`

The async engine marks the nonce of an envelope in the store before it opens the envelope, and opens
it under a guard that looks at the timestamp only.  A call asks the store once, at its first reading
of the clock; nothing that follows waits.
-/

namespace Uxsp

variable {P : Platform}

namespace Identity

/-- The clock readings of `open_from` under a guard that looks at the timestamp only. -/
structure FreshReadings where
  checked : ℚ
  fresh : ℚ
  verify : ℚ
  checked_le : checked ≤ fresh
  fresh_le : fresh ≤ verify

/-- `open_from` under a `FreshnessOnlyReplayGuard`, as far as nothing is decrypted: `precheck` is
`check_freshness`, `commit` does nothing. -/
def verifyFresh (i : Identity P) (envelope : Dict) (senderCard : Card) (guard : ReplayGuard)
    (t : FreshReadings) : Except PyErr VerifiedContext := do
  let guard ← i.openChecks envelope senderCard (some guard) t.checked
  let _ ← guard.fresh P.toRuntime (.dict envelope) t.fresh
  verifyEnvelope P envelope senderCard.publicKeys i.entityId senderCard.entityId guard.window
    guard.clockSkew t.verify

/-- `open_from` under a `FreshnessOnlyReplayGuard`. -/
def openFresh (i : Identity P) (envelope : Dict) (senderCard : Card) (guard : ReplayGuard)
    (t : FreshReadings) : Except PyErr Bytes := do
  let verified ← i.verifyFresh envelope senderCard guard t
  decryptVerifiedEnvelope P verified i.keypair []

end Identity

namespace Aio

open Secure

/-- `raise EnvelopeExpiredError("Replay detected (async).")`. -/
def replayDetected : PyErr := ⟨.envelopeExpiredError, ["Replay detected (async)."]⟩

/-- `_check_async_replay`. -/
def checkAsyncReplay (guard : ReplayGuard) (S : AsyncNonceStore) (s : S.State) (nonce : Str)
    (now : ℚ) : Except PyErr Unit × S.State :=
  match S.markUsed s nonce guard.window now with
  | (.error e, s) => (.error e, s)
  | (.ok false, s) => (.error replayDetected, s)
  | (.ok true, s) => (.ok (), s)

/-- A piece of the text has the word in it. -/
def mentions (word : String) (msg : Msg) : Bool :=
  msg.any fun
    | .lit s => decide (word.toList <:+: s.toList)
    | .str s => decide (Str.ofString word <:+: s)
    | _ => false

/-- The exceptions of the layers below, as those of this one. -/
def asyncReceiveError (e : PyErr) : PyErr :=
  if e.cls.isA .duplicateNonceError then ⟨.duplicateMessageError,
    [.lit "Message already processed (duplicate). Nonce already used: "] ++ e.msg⟩
  else if e.cls.isA .staleEnvelopeError || e.cls.isA .futureEnvelopeError ||
      e.cls.isA .envelopeExpiredError then
    if mentions "Replay" e.msg then ⟨.duplicateMessageError,
      [.lit "Message already processed (duplicate). Replay detected: "] ++ e.msg⟩
    else ⟨.messageExpiredError, [.lit "Message expired: "] ++ e.msg⟩
  else if e.cls.isA .cardRevokedError || e.cls.isA .cardExpiredError ||
      e.cls.isA .envelopeValidationError then
    ⟨.invalidSenderError, [.lit "Invalid sender: "] ++ e.msg⟩
  else e

/-- The clock readings of a call: the store's when it marks the nonce, then those of `open_from`. -/
structure Readings extends Identity.FreshReadings where
  mark : ℚ
  mark_le : mark ≤ checked

/-- The arguments of a call of `async_secure_receive_payload`, its sender looked up. -/
structure ReceiveCall where
  sender : Peer
  input : PackageInput
  expectedType : Option Str
  readings : Readings

/-- The package of a call, with the checks of its outer fields. -/
def ReceiveCall.resolved (R : Runtime) (call : ReceiveCall) (receiverId : Str) :
    Except PyErr SecurePackage := do
  let package ← resolvePackageInput R call.input
  checkPackage package call.sender.id receiverId call.expectedType
  return package

/-- What is in a package whose nonce has been marked. -/
def openMarked (receiver : Identity P) (package : SecurePackage) (env : Envelope)
    (senderCard : Card) (guard : ReplayGuard) (t : Readings) : Except PyErr Bytes := do
  let plaintext ← receiver.openFresh env.toDict senderCard guard t.toFreshReadings
  contents P package env plaintext

/-- Open a package that passed its checks: the replay check, then everything else. -/
def openPackage (receiver : Identity P) (S : AsyncNonceStore) (s : S.State)
    (package : SecurePackage) (senderCard : Card) (guard : ReplayGuard) (t : Readings) :
    Except PyErr Bytes × S.State :=
  match packageEnvelope P.toRuntime package with
  | .error e => (.error e, s)
  | .ok env =>
      match checkAsyncReplay guard S s env.envelopeNonce t.mark with
      | (.error e, s) => (.error e, s)
      | (.ok (), s) => (openMarked receiver package env senderCard guard t, s)

/-- Decrypt and authenticate a received package. -/
def asyncReceivePayload (receiver : Identity P) (guard : ReplayGuard) (S : AsyncNonceStore)
    (s : S.State) (call : ReceiveCall) : Except PyErr Bytes × S.State :=
  match call.resolved P.toRuntime receiver.entityId with
  | .error e => (.error e, s)
  | .ok package =>
      match openPackage receiver S s package call.sender.card guard call.readings with
      | (.error e, s) => (.error (asyncReceiveError e), s)
      | (.ok payload, s) => (.ok payload, s)

/-! ## What a call does -/

/-- The call is given a package that passes its checks and has this envelope in it. -/
def ReceiveCall.Carries (call : ReceiveCall) (R : Runtime) (receiverId : Str)
    (package : SecurePackage) (env : Envelope) : Prop :=
  call.resolved R receiverId = .ok package ∧ packageEnvelope R package = .ok env

variable {B : Identity P} {guard : ReplayGuard} {S : AsyncNonceStore} {s : S.State}
  {call : ReceiveCall} {package : SecurePackage} {env : Envelope} {nonce : Str} {now : ℚ}

theorem ReceiveCall.Carries.unique {R : Runtime} {receiverId : Str} {package' : SecurePackage}
    {env' : Envelope} (carries : call.Carries R receiverId package env)
    (carries' : call.Carries R receiverId package' env') : package = package' ∧ env = env' := by
  obtain ⟨resolved, found⟩ := carries
  obtain ⟨resolved', found'⟩ := carries'
  obtain rfl := Except.ok.inj (resolved.symm.trans resolved')
  exact ⟨rfl, Except.ok.inj (found.symm.trans found')⟩

theorem checkAsyncReplay_state :
    (checkAsyncReplay guard S s nonce now).2 = (S.markUsed s nonce guard.window now).2 := by
  unfold checkAsyncReplay
  rcases S.markUsed s nonce guard.window now with ⟨_ | _ | _, s'⟩ <;> rfl

theorem checkAsyncReplay_eq_ok {u : Unit} : (checkAsyncReplay guard S s nonce now).1 = .ok u ↔
    (S.markUsed s nonce guard.window now).1 = .ok true := by
  unfold checkAsyncReplay
  rcases S.markUsed s nonce guard.window now with ⟨_ | _ | _, s'⟩
  · exact ⟨nofun, nofun⟩
  · exact ⟨nofun, nofun⟩
  · exact ⟨fun _ => rfl, fun _ => rfl⟩

/-- The nonce of the envelope is marked whatever comes after. -/
theorem asyncReceivePayload_state (carries : call.Carries P.toRuntime B.entityId package env) :
    (asyncReceivePayload B guard S s call).2 =
      (S.markUsed s env.envelopeNonce guard.window call.readings.mark).2 := by
  obtain ⟨resolved, found⟩ := carries
  rw [← checkAsyncReplay_state]
  simp only [asyncReceivePayload, resolved, openPackage, found]
  rcases checkAsyncReplay guard S s env.envelopeNonce call.readings.mark with ⟨_ | _, s'⟩
  · rfl
  · simp only
    cases openMarked B package env call.sender.card guard call.readings <;> rfl

/-- A package is delivered if its nonce is new to the store and it opens. -/
theorem asyncReceivePayload_eq_ok (carries : call.Carries P.toRuntime B.entityId package env)
    {r : Bytes} : (asyncReceivePayload B guard S s call).1 = .ok r ↔
      (S.markUsed s env.envelopeNonce guard.window call.readings.mark).1 = .ok true ∧
        openMarked B package env call.sender.card guard call.readings = .ok r := by
  obtain ⟨resolved, found⟩ := carries
  rw [← checkAsyncReplay_eq_ok (u := ())]
  simp only [asyncReceivePayload, resolved, openPackage, found]
  rcases checkAsyncReplay guard S s env.envelopeNonce call.readings.mark with ⟨_ | _, s'⟩
  · exact ⟨nofun, nofun⟩
  · simp only
    cases openMarked B package env call.sender.card guard call.readings with
    | error e => exact ⟨nofun, nofun⟩
    | ok payload => simp

/-- A call without an envelope leaves the store alone. -/
theorem asyncReceivePayload_nothing
    (none : ∀ package env, ¬ call.Carries P.toRuntime B.entityId package env) :
    ∃ e, asyncReceivePayload B guard S s call = (.error e, s) := by
  unfold asyncReceivePayload
  cases resolved : call.resolved P.toRuntime B.entityId with
  | error e => exact ⟨e, rfl⟩
  | ok package =>
      simp only [openPackage]
      cases found : packageEnvelope P.toRuntime package with
      | error e => exact ⟨_, rfl⟩
      | ok env => exact absurd ⟨resolved, found⟩ (none package env)

/-- A call that returned carried an envelope. -/
theorem carries_of_ok {r : Bytes} (returned : (asyncReceivePayload B guard S s call).1 = .ok r) :
    ∃ package env, call.Carries P.toRuntime B.entityId package env := by
  by_contra none
  push Not at none
  obtain ⟨e, refused⟩ : ∃ e, asyncReceivePayload B guard S s call = (.error e, s) :=
    asyncReceivePayload_nothing none
  rw [refused] at returned
  cases returned

end Aio

end Uxsp
