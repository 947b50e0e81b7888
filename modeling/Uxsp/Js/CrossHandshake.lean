import Uxsp.Core.HandshakeSteps
import Uxsp.Js.Transparent
import Uxsp.Js.Wire

/-!
# A handshake between the two SDKs

Each side holds the card of the other with its key encodings translated; messages travel as JSON.
A responder answers a HELLO only if it supports a version that the HELLO names.  Python names and
supports `1`, JavaScript `1.0`, `1.1` and `1.2`, so no handshake between them succeeds.
-/

namespace Uxsp

/-! ## Parties -/

/-- The card as JavaScript holds it: its keys in base64. -/
def PublicCard.js (card : PublicCard) : JsPublicCard where
  entityId := JsStr.ofStr card.entityId
  publicKeys := {
    exchangePub := JsStr.encodeBase64 card.publicKeys.exchangePub
    kemPub := JsStr.encodeBase64 card.publicKeys.kemPub
    signingPub := JsStr.encodeBase64 card.publicKeys.signingPub
    pqcSigPub := JsStr.encodeBase64 card.publicKeys.pqcSigPub }

/-- An identity of each SDK, and the JavaScript one's card as Python holds it. -/
structure Pairing (P : Platform) where
  python : Identity P
  js : JsIdentity
  jsCard : PublicCard
  translated : jsCard.js = js.publicCard

/-- What the calls of a handshake are made with: configurations, nonce stores, random bytes and the
clock at the HELLO, at the two readings of `respond` and at the two of `complete`. -/
structure CrossCalls (S : NonceStore) (T : JsNonceStore) where
  config : Option SessionConfig
  jsConfig : Option JsSessionConfig
  uuid : Uuid4
  store : S.State
  jsStore : T.State
  coins : MessageCoins
  jsCoins : JsCoins
  opened : ℚ
  received : ℚ
  answered : ℚ
  acknowledged : ℚ
  finished : ℚ

namespace Pairing

variable {P : Platform} {S : NonceStore} {T : JsNonceStore}

/-- The two sessions come from one final secret, and each receives with the key the other sends
with. -/
def Agree (P : Platform) (J : JsPlatform) (session : Session) (jsSession : JsSession)
    (pythonInitiates : Bool) : Prop :=
  (∃ final, session.sendKey = Session.directionKey P session.config final pythonInitiates ∧
    ∃ key, JsSession.directionKey J jsSession.config final (!pythonInitiates) = .ok key ∧
      jsSession.sendKey = some key) ∧
  jsSession.recvKey = some session.sendKey ∧ jsSession.sendKey = some session.recvKey

/-- Python's HELLO is answered, the ACK completes the handshake, and the sessions agree. -/
def PythonInitiates (r : Pairing P) (J : JsPlatform) (c : CrossCalls S T) : Prop :=
  ∃ hs : Handshake P Unit, ∃ hello message ack jsSession jsStore session store,
    Handshake.initiate P r.python r.jsCard c.config c.uuid c.opened c.coins = .ok hs ∧
    hs.helloMsg = some hello ∧ J.ofItems hello = some message ∧
    JsHandshake.respond J T c.jsStore r.js message r.python.publicCard.js c.jsConfig c.received
      c.answered c.jsCoins = (.ok (ack, jsSession), jsStore) ∧
    Handshake.completeSession P S c.store hs (JsVal.toItems ack) r.jsCard c.acknowledged
      c.finished = (.ok session, store) ∧
    Agree P J session jsSession true

/-- The other way round. -/
def JsInitiates (r : Pairing P) (J : JsPlatform) (c : CrossCalls S T) : Prop :=
  ∃ hs hello ack message session store jsSession jsStore,
    JsHandshake.initiate J r.js r.python.publicCard.js c.jsConfig c.uuid c.opened c.jsCoins =
      .ok hs ∧
    hs.helloMsg = some hello ∧
    Handshake.respondSession P S c.store r.python (JsVal.toItems hello) r.jsCard c.config
      c.received c.answered c.coins = (.ok (ack, session), store) ∧
    J.ofItems ack = some message ∧
    JsHandshake.complete J T c.jsStore hs message r.python.publicCard.js c.acknowledged
      c.finished = (.ok jsSession, jsStore) ∧
    Agree P J session jsSession false

end Pairing

/-! ## Versions -/

/-- A HELLO that JavaScript answers names one of its versions. -/
theorem JsHandshake.respond_common {J : JsPlatform} {T : JsNonceStore} {store store' : T.State}
    {responder : JsIdentity} {hello ack : JsObject} {initiatorCard : JsPublicCard}
    {config : Option JsSessionConfig} {now after : ℚ} {coins : JsCoins} {session : JsSession}
    (answered : respond J T store responder hello initiatorCard config now after coins =
      (.ok (ack, session), store')) :
    ∃ version ∈ SUPPORTED_VERSIONS, ∃ w ∈ versionsOf hello, JsVal.isStr (some w) version = true := by
  unfold respond at answered
  split at answered
  · cases answered
  · rename_i nonce version checked
    simp only [respondCheck, verifyHelloSignature, negotiate, js_bind_eq_ok] at checked
    obtain ⟨-, -, -, -, version', ⟨-, -, -, -, -, -, -, -, -, -, common, named, -⟩, -⟩ := checked
    split at named
    · rename_i last found
      have mem := List.mem_of_getLast? found
      obtain ⟨supported, both⟩ := List.mem_filter.mp mem
      exact ⟨last, supported, List.any_eq_true.mp both⟩
    · cases (js_bind_eq_ok.mp named).choose_spec.2

/-- A HELLO that Python answers names one of its versions. -/
theorem Handshake.respondSession_common {P : Platform} {S : NonceStore} {store store' : S.State}
    {responder : Identity P} {hello ack : Dict} {initiatorCard : PublicCard}
    {config : Option SessionConfig} {now after : ℚ} {coins : MessageCoins} {session : Session}
    (answered : respondSession P S store responder hello initiatorCard config now after coins =
      (.ok (ack, session), store')) :
    ∃ version ∈ SUPPORTED_VERSIONS, ∃ ws, hello.get? "supported_versions" = some (.list ws) ∧
      ∃ w ∈ ws, Val.eqStr (some w) version = true := by
  unfold respondSession at answered
  split at answered
  · cases answered
  · rename_i nonce version checked
    simp only [respondCheck, verifyHelloSignature, bind_eq_ok] at checked
    obtain ⟨-, -, -, -, -, ⟨-, -, -, -, -, -, -, -, -, -, version', named, -⟩, -⟩ := checked
    unfold negotiate at named
    split at named
    · rename_i x xs listed
      split at named
      · cases named
      · split at named
        · rename_i first _ common
          have mem := common ▸ List.mem_cons_self (a := first)
          obtain ⟨supported, both⟩ := List.mem_filter.mp mem
          exact ⟨first, supported, x :: xs, listed, List.any_eq_true.mp both⟩
        · cases named
    · cases named

/-- What Python's HELLO names, as it arrives. -/
theorem Handshake.versionsOf_initiate {P : Platform} {R : JsRuntime} {initiator : Identity P}
    {card : PublicCard} {config : Option SessionConfig} {uuid : Uuid4} {now : ℚ}
    {coins : MessageCoins} {hs : Handshake P Unit} {hello : Dict} {message : JsObject}
    (initiated : initiate P initiator card config uuid now coins = .ok hs)
    (made : hs.helloMsg = some hello) (sent : R.ofItems hello = some message) :
    JsHandshake.versionsOf message = [.string "1"] := by
  simp only [initiate, makeHello, bind_eq_ok, pure_eq_ok] at initiated
  obtain ⟨⟨_, _⟩, ⟨exchange, -, signable, -, sigs, -, built⟩, rfl⟩ := initiated
  cases built
  cases made
  cases sent
  rfl

/-- What JavaScript's HELLO names, as it arrives. -/
theorem JsHandshake.versions_initiate {J : JsPlatform} {initiator : JsIdentity}
    {card : JsPublicCard} {config : Option JsSessionConfig} {uuid : Uuid4} {now : ℚ}
    {coins : JsCoins} {hs : JsHandshake} {hello : JsObject}
    (initiated : initiate J initiator card config uuid now coins = .ok hs)
    (made : hs.helloMsg = some hello) :
    Dict.get? (JsVal.toItems hello) "supported_versions" =
      some (.list [.str "1.0", .str "1.1", .str "1.2"]) := by
  simp only [initiate, makeHello, js_bind_eq_ok, js_pure_eq_ok] at initiated
  obtain ⟨⟨_, _⟩, ⟨exchange, -, ⟨classicalSig, pqcSig⟩, -, built⟩, rfl⟩ := initiated
  cases built
  cases made
  rfl

namespace Pairing

variable {P : Platform} {S : NonceStore} {T : JsNonceStore}

/-- No handshake between the two SDKs succeeds. -/
theorem never_agree (r : Pairing P) (J : JsPlatform) (c : CrossCalls S T) :
    ¬ r.PythonInitiates J c ∧ ¬ r.JsInitiates J c := by
  constructor
  · rintro ⟨hs, hello, message, ack, jsSession, jsStore, -, -, initiated, made, sent, answered, -⟩
    have named := Handshake.versionsOf_initiate initiated made sent
    obtain ⟨version, supported, w, listed, same⟩ := JsHandshake.respond_common answered
    rw [named, List.mem_singleton] at listed
    subst listed
    revert version
    decide
  · rintro ⟨hs, hello, ack, -, session, store, -, -, initiated, made, answered, -⟩
    have named := JsHandshake.versions_initiate initiated made
    obtain ⟨version, supported, ws, found, w, listed, same⟩ :=
      Handshake.respondSession_common answered
    cases named.symm.trans found
    cases List.mem_singleton.mp supported
    revert w
    decide

/-! ## Alice in Python and Bob in a browser -/

/-- The transparent platform, printing the one list that is printed. -/
def samplePlatform : Platform :=
  { Platform.transparent with strContainer := fun _ => .ok "['1.0', '1.1', '1.2']" }

def sampleJs : JsPlatform := samplePlatform.js .plain (some .transparent)

def samplePairing : Pairing samplePlatform where
  python := .generate samplePlatform "Alice" (.filled 32 1) (.filled 64 1)
    (.filled 32 1) (.filled 32 1)
  js := .transparent "Bob" 2
  jsCard := ⟨"Bob", ⟨List.replicate 32 2, List.replicate 64 2, List.replicate 32 2,
    List.replicate 1952 2⟩⟩
  translated := rfl

def sampleCalls : CrossCalls MemoryNonceStore.nonceStore .unbounded where
  config := none
  jsConfig := none
  uuid := .least
  store := .empty
  jsStore := []
  coins := {
    exchange := ⟨.filled 32 3, .filled 32 4⟩
    signing := .filled 32 5 }
  jsCoins := .transparent 6
  opened := 1000
  received := 1001
  answered := 1001
  acknowledged := 1002
  finished := 1002

/-- Alice's HELLO, as it reaches Bob. -/
def samplePythonHello : Option JsObject :=
  match Handshake.initiate (ρ := Unit) samplePlatform samplePairing.python samplePairing.jsCard
    sampleCalls.config sampleCalls.uuid sampleCalls.opened sampleCalls.coins with
  | .ok hs => hs.helloMsg.bind sampleJs.ofItems
  | .error _ => none

/-- Bob's HELLO, as it reaches Alice. -/
def sampleJsHello : Option Dict :=
  match JsHandshake.initiate sampleJs samplePairing.js samplePairing.python.publicCard.js
    sampleCalls.jsConfig sampleCalls.uuid sampleCalls.opened sampleCalls.jsCoins with
  | .ok hs => hs.helloMsg.map JsVal.toItems
  | .error _ => none

/-- What Bob throws at a HELLO. -/
def sampleJsThrows (message : JsObject) : Option JsErr :=
  match (JsHandshake.respond sampleJs .unbounded sampleCalls.jsStore samplePairing.js message
    samplePairing.python.publicCard.js sampleCalls.jsConfig sampleCalls.received
    sampleCalls.answered sampleCalls.jsCoins).1 with
  | .ok _ => none
  | .error e => some e

/-- What Alice raises at a HELLO. -/
def samplePythonRaises (message : Dict) : Option ErrClass :=
  match (Handshake.respondSession samplePlatform MemoryNonceStore.nonceStore sampleCalls.store
    samplePairing.python message samplePairing.jsCard sampleCalls.config sampleCalls.received
    sampleCalls.answered sampleCalls.coins).1 with
  | .ok _ => none
  | .error e => some e.cls

theorem samplePythonHello_refused : samplePythonHello.map sampleJsThrows =
    some (some (JsHandshake.authError
      [.lit "No common protocol version supported. Peer supports: ", .str "1"])) := by
  decide +kernel

theorem sampleJsHello_refused :
    sampleJsHello.map samplePythonRaises = some (some .handshakeAuthError) := by
  decide +kernel

/-- Each refuses the fresh and genuine HELLO of the other. -/
theorem sample_disagree : ¬ samplePairing.PythonInitiates sampleJs sampleCalls ∧
    ¬ samplePairing.JsInitiates sampleJs sampleCalls := by
  constructor
  · rintro ⟨hs, hello, message, ack, jsSession, jsStore, -, -, initiated, made, sent, answered, -⟩
    have arrives : samplePythonHello = some message := by
      simp only [samplePythonHello, initiated, made, Option.bind_some, sent]
    have refused := samplePythonHello_refused
    rw [arrives] at refused
    simp only [Option.map_some, sampleJsThrows, answered] at refused
    cases Option.some.inj refused
  · rintro ⟨hs, hello, ack, -, session, store, -, -, initiated, made, answered, -⟩
    have arrives : sampleJsHello = some (JsVal.toItems hello) := by
      unfold sampleJsHello
      rw [initiated]
      exact congrArg (Option.map JsVal.toItems) made
    have refused := sampleJsHello_refused
    rw [arrives] at refused
    simp only [Option.map_some, samplePythonRaises, answered] at refused
    cases Option.some.inj refused

end Pairing

end Uxsp
