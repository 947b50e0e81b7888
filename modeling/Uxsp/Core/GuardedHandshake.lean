import Uxsp.Core.HandshakeAuth

/-!
# `uxsp.core.rate_limit`: the guarded responders

`GuardedHandshake` puts a rate limit before `Handshake.respond`; `AsyncGuardedHandshake` does so
for asynchronous stores, and marks the HELLO itself before it hands it to `Handshake.respond` with a
store that takes everything.  The answer of the limiter is an argument of a call.

`GuardedHandshakes.Step` presents one HELLO to both.  One lemma for each responder says what it
accepts (`respond_accepts`, `respondAsync_none`, `respondAsync_some`) and what it leaves in its store.
-/

namespace Uxsp

open Handshake

namespace GuardedHandshake

variable (P : Platform) (S : SeenStore)

/-- `hello.get` on something that is no dict. -/
def noDictError : PyErr := ⟨.attributeError, ["object has no attribute 'get'"]⟩

/-- Check the rate limit and process the HELLO. -/
def respond (limited : Except PyErr Unit) (store : S.State) (responder : Identity P) (hello : Val)
    (initiatorCard : PublicCard) (config : Option SessionConfig) (now after : ℚ)
    (coins : MessageCoins) : Except PyErr (Dict × Session) × S.State :=
  match limited, hello with
  | .error e, _ => (.error e, store)
  | .ok (), .dict hello =>
      respondSession P S.toNonceStore store responder hello initiatorCard config now after coins
  | .ok (), _ => (.error noDictError, store)

end GuardedHandshake

namespace AsyncGuardedHandshake

variable (P : Platform) (T : SeenStore)

def formatError : PyErr := ⟨.valueError, ["Invalid HELLO format or version."]⟩

/-- `isinstance(v, list)` and `any(x in ("1", 1) for x in v)`. -/
def supportsVersionOne : Option Val → Bool
  | some (.list versions) => versions.any fun v => Val.eqStr (some v) "1" || v.eqInt 1
  | _ => false

/-- `hello.get("n") or hello.get("session_id")`. -/
def nonceOf (hello : Dict) : Val :=
  let n := (hello.get? "n").getD .none
  if n.truthy then n else (hello.get? "session_id").getD .none

/-- A nonce that is a non-empty string. -/
def initiatorNonce : Val → Except PyErr Str
  | .str (c :: s) => .ok (c :: s)
  | _ => .error ⟨.valueError, ["Invalid or missing initiator nonce."]⟩

/-- The format checks: the dict and the nonce in it. -/
def checkFormat : Val → Except PyErr (Dict × Str)
  | .dict hello => do
      let isUxspHello := Val.eqStr (Dict.get? hello "type") "UXSP-HELLO"
      let hasSupportedVersion := supportsVersionOne (Dict.get? hello "supported_versions")
      ensure (isUxspHello && hasSupportedVersion || ((Dict.get? hello "v").getD .none).eqInt 1)
        formatError
      let nonce ← initiatorNonce (nonceOf hello)
      return (hello, nonce)
  | _ => .error formatError

/-- The default time to live of `mark_used`. -/
def DEFAULT_TTL : ℚ := 300

/-- The calls on the nonce store. -/
def markHello (a : T.State) (key nonce : Str) (asked : ℚ) : Except PyErr Unit × T.State :=
  match T.markUsed a key NONCE_TTL asked with
  | (.error e, a) => (.error e, a)
  | (.ok false, a) => (.error ⟨.handshakeExpiredError,
      ["Replay attack detected: hello message already processed."]⟩, a)
  | (.ok true, a) =>
      match T.isSeen a nonce asked with
      | (.error e, a) => (.error e, a)
      | (.ok true, a) => (.error ⟨.valueError, ["Replay detected: nonce already seen."]⟩, a)
      | (.ok false, a) =>
          match T.markUsed a nonce DEFAULT_TTL asked with
          | (.error e, a) => (.error e, a)
          | (.ok _, a) => (.ok (), a)

/-- `Handshake.respond` with the store that takes everything. -/
def respondDummy (responder : Identity P) (hello : Dict) (initiatorCard : PublicCard)
    (config : Option SessionConfig) (now after : ℚ) (coins : MessageCoins) :
    Except PyErr (Dict × Session) := do
  let (_, version) ← respondCheck P responder hello initiatorCard now
  respondFinish P responder hello initiatorCard version config after coins

/-- Check the rate limit and the format, mark the HELLO, and process it.  The store is read at
`asked`, before the checks of `Handshake.respond`. -/
def respond (limited : Except PyErr Unit) (store : Option T.State) (responder : Identity P)
    (hello : Val) (initiatorCard : PublicCard) (config : Option SessionConfig)
    (asked now after : ℚ) (coins : MessageCoins) :
    Except PyErr (Dict × Session) × Option T.State :=
  match limited with
  | .error e => (.error e, store)
  | .ok () =>
      match checkFormat hello with
      | .error e => (.error e, store)
      | .ok (hello, nonce) =>
          match store with
          | none => (respondDummy P responder hello initiatorCard config now after coins, none)
          | some a =>
              match P.str ((hello.get? "session_id").getD .none) with
              | .error e => (.error e, some a)
              | .ok sid =>
                  match markHello T a (("hello:" : Str) ++ sid) nonce asked with
                  | (.error e, a) => (.error e, some a)
                  | (.ok (), a) =>
                      (respondDummy P responder hello initiatorCard config now after coins, some a)

end AsyncGuardedHandshake

/-! ## HELLOs presented to both -/

namespace GuardedHandshakes

open AsyncGuardedHandshake

/-- A HELLO presented to both responders, with the readings of the clock. -/
structure Presented where
  hello : Dict
  card : PublicCard
  config : Option SessionConfig
  coins : MessageCoins
  asked : ℚ
  now : ℚ
  after : ℚ
  asked_le : asked ≤ now
  now_le : now ≤ after
  fast : after ≤ asked + Network.CALL_SECONDS

/-- A HELLO as it was presented, and which responder accepted it. -/
structure Event extends Presented where
  accepted : Bool
  acceptedAsync : Bool

/-- The stores of the two responders; the asynchronous one may have none. -/
structure Stores (S T : SeenStore) where
  store : S.State
  asyncStore : Option T.State
  clock : ℚ

variable {P : Platform} (responder : Identity P)

namespace Presented

/-- The checks of `Handshake.respond` before it asks its nonce store accept the HELLO. -/
def Checked (x : Presented) (key version : Str) : Prop :=
  respondCheck P responder x.hello x.card x.now = .ok (key, version)

/-- `Handshake.respond` accepts the HELLO if its nonce store does. -/
def Valid (x : Presented) : Prop :=
  ∃ answer, respondDummy P responder x.hello x.card x.config x.now x.after x.coins = .ok answer

/-- The names the asynchronous responder marks for the HELLO. -/
structure Asks (P : Platform) (x : Presented) (key nonce : Str) : Prop where
  format : checkFormat (.dict x.hello) = .ok (x.hello, nonce)
  key : ∃ sid, P.str ((x.hello.get? "session_id").getD .none) = .ok sid ∧
    key = ("hello:" : Str) ++ sid

/-- Two HELLOs of one session and one timestamp. -/
structure Repeats (R : Runtime) (x y : Presented) : Prop where
  sessionId : ∃ sid, x.hello.get? "session_id" = some (.str sid) ∧
    y.hello.get? "session_id" = some (.str sid)
  timestamp : ∃ v w ts, x.hello.get? "timestamp" = some v ∧ R.int v = .ok ts ∧
    y.hello.get? "timestamp" = some w ∧ R.int w = .ok ts

end Presented

variable {S T : SeenStore}

/-- One HELLO goes to both responders; the limiters let it pass. -/
structure Step (s : Stores S T) (e : Event) (t : Stores S T) : Prop where
  later : s.clock ≤ e.asked
  clock : t.clock = e.after
  accepts : succeeded (GuardedHandshake.respond P S (.ok ()) s.store responder (.dict e.hello) e.card
    e.config e.now e.after e.coins).1 = e.accepted
  store : (GuardedHandshake.respond P S (.ok ()) s.store responder (.dict e.hello) e.card e.config
    e.now e.after e.coins).2 = t.store
  acceptsAsync : succeeded (AsyncGuardedHandshake.respond P T (.ok ()) s.asyncStore responder
    (.dict e.hello) e.card e.config e.asked e.now e.after e.coins).1 = e.acceptedAsync
  asyncStore : (AsyncGuardedHandshake.respond P T (.ok ()) s.asyncStore responder (.dict e.hello)
    e.card e.config e.asked e.now e.after e.coins).2 = t.asyncStore

/-! ## The calls -/

variable {responder} {s t : Stores S T} {x : Presented} {e : Event} {key nonce version : Str}

theorem Presented.Asks.unique {key' nonce' : Str} (asks : x.Asks P key nonce)
    (asks' : x.Asks P key' nonce') : key' = key ∧ nonce' = nonce := by
  rcases asks with ⟨format, sid, printed, rfl⟩
  rcases asks' with ⟨format', sid', printed', rfl⟩
  rw [format, Except.ok.injEq, Prod.mk.injEq] at format'
  rw [printed, Except.ok.injEq] at printed'
  rw [printed', format'.2]
  exact ⟨rfl, rfl⟩

theorem Presented.Checked.unique {key' version' : Str} (checked : x.Checked responder key version)
    (checked' : x.Checked responder key' version') : key' = key ∧ version' = version := by
  have same := checked.symm.trans checked'
  rw [Except.ok.injEq, Prod.mk.injEq] at same
  exact ⟨same.1.symm, same.2.symm⟩

theorem respondDummy_eq_ok {answer : Dict × Session} :
    respondDummy P responder x.hello x.card x.config x.now x.after x.coins = .ok answer ↔
      ∃ key version, x.Checked responder key version ∧
        respondFinish P responder x.hello x.card version x.config x.after x.coins = .ok answer := by
  simp only [respondDummy, bind_eq_ok, Presented.Checked]
  constructor
  · rintro ⟨⟨key, version⟩, checked, finished⟩
    exact ⟨key, version, checked, finished⟩
  · rintro ⟨key, version, checked, finished⟩
    exact ⟨(key, version), checked, finished⟩

/-- The synchronous responder accepts what is valid and new to its store. -/
theorem respond_accepts (checked : x.Checked responder key version) (store : S.State) :
    succeeded (GuardedHandshake.respond P S (.ok ()) store responder (.dict x.hello) x.card x.config
      x.now x.after x.coins).1 = true ↔
    x.Valid responder ∧ (S.markUsed store key NONCE_TTL x.after).1 = .ok true := by
  have valid : x.Valid responder ↔ ∃ answer, respondFinish P responder x.hello x.card version
      x.config x.after x.coins = .ok answer := by
    constructor
    · rintro ⟨answer, answered⟩
      rcases respondDummy_eq_ok.mp answered with ⟨key', version', checked', finished⟩
      rw [(checked.unique checked').2] at finished
      exact ⟨answer, finished⟩
    · rintro ⟨answer, finished⟩
      exact ⟨answer, respondDummy_eq_ok.mpr ⟨key, version, checked, finished⟩⟩
  rw [succeeded_eq_true, valid]
  simp only [GuardedHandshake.respond, respondSession]
  rw [show respondCheck P responder x.hello x.card x.now = .ok (key, version) from checked]
  simp only
  generalize S.markUsed store key NONCE_TTL x.after = marked
  rcases marked with ⟨_ | _ | _, store'⟩
  · constructor
    · rintro ⟨_, refused⟩
      simp only [reduceCtorEq] at refused
    · rintro ⟨_, ⟨⟩⟩
  · constructor
    · rintro ⟨_, refused⟩
      simp only [reduceCtorEq] at refused
    · rintro ⟨_, ⟨⟩⟩
  · exact ⟨fun accepted => ⟨accepted, rfl⟩, fun accepted => accepted.1⟩

theorem respond_store (checked : x.Checked responder key version) (store : S.State) :
    (GuardedHandshake.respond P S (.ok ()) store responder (.dict x.hello) x.card x.config
      x.now x.after x.coins).2 = (S.markUsed store key NONCE_TTL x.after).2 := by
  simp only [GuardedHandshake.respond, respondSession]
  rw [show respondCheck P responder x.hello x.card x.now = .ok (key, version) from checked]
  simp only
  generalize S.markUsed store key NONCE_TTL x.after = marked
  rcases marked with ⟨_ | _ | _, store'⟩ <;> rfl

theorem respond_unchecked (unchecked : ∀ key version, ¬ x.Checked responder key version)
    (store : S.State) :
    ∃ err, GuardedHandshake.respond P S (.ok ()) store responder (.dict x.hello) x.card x.config
      x.now x.after x.coins = (.error err, store) := by
  simp only [GuardedHandshake.respond, respondSession]
  cases check : respondCheck P responder x.hello x.card x.now with
  | error err => exact ⟨err, rfl⟩
  | ok pair => exact absurd check (unchecked pair.1 pair.2)

theorem valid_of_accepted {store : S.State} (accepted : succeeded (GuardedHandshake.respond P S (.ok ())
    store responder (.dict x.hello) x.card x.config x.now x.after x.coins).1 = true) :
    x.Valid responder := by
  by_cases checks : ∃ key version, x.Checked responder key version
  · rcases checks with ⟨key, version, checked⟩
    exact ((respond_accepts checked store).mp accepted).1
  · push Not at checks
    rcases respond_unchecked checks store with ⟨err, refused⟩
    rw [refused] at accepted
    cases accepted

theorem checkFormat_hello {hello hello' : Dict} (format : checkFormat (.dict hello) =
    .ok (hello', nonce)) : hello' = hello := by
  simp only [checkFormat, bind_eq_ok, pure_eq_ok, Prod.mk.injEq] at format
  rcases format with ⟨_, _, _, _, rfl, _⟩
  rfl

/-- The asynchronous responder without a store accepts what is valid and well formed. -/
theorem respondAsync_none : succeeded (AsyncGuardedHandshake.respond P T (.ok ()) none responder
      (.dict x.hello) x.card x.config x.asked x.now x.after x.coins).1 = true ↔
    (∃ nonce, checkFormat (.dict x.hello) = .ok (x.hello, nonce)) ∧ x.Valid responder := by
  rw [succeeded_eq_true]
  simp only [AsyncGuardedHandshake.respond]
  cases format : checkFormat (.dict x.hello) with
  | error err => exact ⟨nofun, fun h => by rcases h with ⟨⟨_, same⟩, _⟩; cases same⟩
  | ok pair =>
      rcases pair with ⟨hello, nonce⟩
      cases checkFormat_hello format
      exact ⟨fun valid => ⟨⟨nonce, rfl⟩, valid⟩, fun accepted => accepted.2⟩

theorem respondAsync_unstored : (AsyncGuardedHandshake.respond P T (.ok ()) none responder
    (.dict x.hello) x.card x.config x.asked x.now x.after x.coins).2 = none := by
  simp only [AsyncGuardedHandshake.respond]
  split <;> rfl

/-- With a store it accepts what is valid and what its store takes. -/
theorem respondAsync_some (asks : x.Asks P key nonce) (a : T.State) :
    succeeded (AsyncGuardedHandshake.respond P T (.ok ()) (some a) responder
      (.dict x.hello) x.card x.config x.asked x.now x.after x.coins).1 = true ↔
    x.Valid responder ∧ (markHello T a key nonce x.asked).1 = .ok () := by
  rcases asks with ⟨format, sid, printed, rfl⟩
  rw [succeeded_eq_true]
  simp only [AsyncGuardedHandshake.respond, format, printed]
  generalize markHello T a (("hello:" : Str) ++ sid) nonce x.asked = marked
  rcases marked with ⟨_ | _, a'⟩
  · exact ⟨nofun, nofun⟩
  · exact ⟨fun valid => ⟨valid, rfl⟩, fun accepted => accepted.1⟩

theorem respondAsync_store (asks : x.Asks P key nonce) (a : T.State) :
    (AsyncGuardedHandshake.respond P T (.ok ()) (some a) responder (.dict x.hello) x.card x.config
      x.asked x.now x.after x.coins).2 = some (markHello T a key nonce x.asked).2 := by
  rcases asks with ⟨format, sid, printed, rfl⟩
  simp only [AsyncGuardedHandshake.respond, format, printed]
  generalize markHello T a (("hello:" : Str) ++ sid) nonce x.asked = marked
  rcases marked with ⟨_ | _, a'⟩ <;> rfl

theorem respondAsync_unasked (unasked : ∀ key nonce, ¬ x.Asks P key nonce) (a : T.State) :
    ∃ err, AsyncGuardedHandshake.respond P T (.ok ()) (some a) responder (.dict x.hello) x.card
      x.config x.asked x.now x.after x.coins = (.error err, some a) := by
  simp only [AsyncGuardedHandshake.respond]
  cases format : checkFormat (.dict x.hello) with
  | error err => exact ⟨err, rfl⟩
  | ok pair =>
      rcases pair with ⟨hello, nonce⟩
      cases checkFormat_hello format
      simp only
      cases printed : P.str ((x.hello.get? "session_id").getD .none) with
      | error err => exact ⟨err, rfl⟩
      | ok sid => exact absurd ⟨format, sid, printed, rfl⟩ (unasked _ nonce)

/-! ## Valid HELLOs -/

theorem supportsVersionOne_of_negotiate {R : Runtime} {v : Option Val}
    (ok : negotiate R v = .ok version) : supportsVersionOne v = true := by
  unfold negotiate at ok
  split at ok
  · rename_i w ws
    split at ok
    · cases ok
    · split at ok
      · rename_i v' vs common
        have mem : v' ∈ SUPPORTED_VERSIONS.filter fun v =>
            (w :: ws).any fun u => Val.eqStr (some u) v := common ▸ List.mem_cons_self
        rcases List.mem_filter.mp mem with ⟨supported, found⟩
        rw [List.mem_singleton.mp supported] at found
        rcases List.any_eq_true.mp found with ⟨u, mem, same⟩
        exact List.any_eq_true.mpr ⟨u, mem, by simp [same]⟩
      · cases ok
  · cases ok

theorem initiatorNonce_str {n : Str} (nonempty : n ≠ []) : initiatorNonce (.str n) = .ok n := by
  cases n with
  | nil => exact absurd rfl nonempty
  | cons c s => rfl

/-- A valid HELLO names a session, is signed and fresh, and is asked for under its session and its
nonce. -/
theorem Presented.Valid.facts (valid : x.Valid responder) :
    ∃ sid version b, x.hello.get? "session_id" = some (.str sid) ∧
      x.Checked responder (("hello:" : Str) ++ sid) version ∧
      HelloAccepted P x.hello x.card responder x.now b ∧
      ∀ {n}, nonceOf x.hello = .str n → x.Asks P (("hello:" : Str) ++ sid) n := by
  rcases valid with ⟨answer, answered⟩
  rcases respondDummy_eq_ok.mp answered with ⟨key, version, checked, finished⟩
  have names : ∃ sid, x.hello.get? "session_id" = some (.str sid) := by
    simp only [respondFinish, bind_eq_ok, Dict.item_eq_ok, strOf_eq_ok] at finished
    rcases finished with ⟨_, _, v, found, _, _, _, _, _, _, _, _, _, _, sid, rfl, _⟩
    exact ⟨sid, found⟩
  rcases names with ⟨sid, found⟩
  have opened := checked
  simp only [Presented.Checked, respondCheck, bind_eq_ok, ensure_eq_ok, Dict.item_eq_ok,
    pure_eq_ok, Prod.mk.injEq, found, Option.getD_some, Runtime.str_str] at opened
  rcases opened with ⟨printed, same, _, parses, ⟨b, version'⟩, verified, _, same', _, same'', rfl,
    rfl⟩
  cases same
  cases same'
  cases same''
  rcases verifyHelloSignature_eq_ok.mp verified with ⟨⟨_, type, common⟩, accepted⟩
  refine ⟨sid, version', b, found, checked, accepted, fun {n} named => ?_⟩
  have nonempty : n ≠ [] := by
    rintro rfl
    unfold nonceOf at named
    simp only at named
    split at named
    · rename_i truthy
      rw [named] at truthy
      cases truthy
    · rw [found, Option.getD_some, Val.str.injEq] at named
      rw [named] at parses
      cases parses
  refine ⟨?_, sid, ?_, rfl⟩
  · simp only [checkFormat, type, supportsVersionOne_of_negotiate common, named,
      initiatorNonce_str nonempty, Val.eqStr_str, beq_self_eq_true, Bool.and_self, Bool.true_or]
    rfl
  · rw [found]
    rfl

end GuardedHandshakes

end Uxsp
