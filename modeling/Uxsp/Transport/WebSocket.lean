import Uxsp.Core.Handshake
import Uxsp.Transport.Frame

/-!
# `uxsp.transport.websocket`: the session manager

`UXSPWebSocket` drives a handshake and then a session over frames.  Sessions are objects that a
handshake, a socket and its users share: `sessions` holds them, and they are named by their place in
it.  A method returns its frame or exception together with the socket that it leaves behind.  `now`
is the clock at the first reading of the session or handshake, `after` at its last one, and `stamp`
the one in the frame that is built.
-/

namespace Uxsp

/-- The place of a session object. -/
abbrev SessionRef := ℕ

namespace Handshake

variable {P : Platform} (hs : Handshake P SessionRef)

def helloMessage : Except PyErr Dict :=
  match hs.helloMsg with
  | some message => .ok message
  | none => .error ⟨.handshakeError, ["No hello message. Use Handshake.initiate() first."]⟩

def ackMessage : Except PyErr Dict :=
  match hs.ackMsg with
  | some message => .ok message
  | none => .error ⟨.handshakeError, ["No ack message. Use Handshake.respond() first."]⟩

def sessionRef : Except PyErr SessionRef :=
  match hs.session with
  | some r => .ok r
  | none => .error ⟨.handshakeError,
      ["Session not yet established. Call respond() or complete() first."]⟩

end Handshake

namespace UXSPFrame

/-- `UXSPFrame.build`. -/
def build (type : FrameType) (payload : Dict) (stamp : ℚ) : UXSPFrame := ⟨type, payload, ⌊stamp⌋⟩

/-- What is raised for a frame of another type. -/
def unexpected (name : String) (frame : UXSPFrame) : PyErr :=
  ⟨.unexpectedFrameError, ["Expected ", .lit name, ", got ", .str frame.type.str]⟩

end UXSPFrame

structure UXSPWebSocket (P : Platform) (S : NonceStore) where
  identity : Identity P
  config : Option SessionConfig
  nonceStore : S.State
  session : Option SessionRef
  hs : Option (Handshake P SessionRef)
  remoteCard : Option PublicCard
  sessions : SessionRef → Session
  /-- The sessions from this place on do not exist yet. -/
  fresh : SessionRef

namespace UXSPWebSocket

variable {P : Platform} {S : NonceStore}

/-- `as_responder`, among the sessions that exist. -/
def asResponder (identity : Identity P) (config : Option SessionConfig) (nonceStore : S.State)
    (sessions : SessionRef → Session) (fresh : SessionRef) : UXSPWebSocket P S where
  identity := identity
  config := config
  nonceStore := nonceStore
  session := none
  hs := none
  remoteCard := none
  sessions := sessions
  fresh := fresh

def asInitiator (identity : Identity P) (remoteCard : PublicCard) (config : Option SessionConfig)
    (nonceStore : S.State) (sessions : SessionRef → Session) (fresh : SessionRef) :
    UXSPWebSocket P S :=
  { asResponder identity config nonceStore sessions fresh with remoteCard := remoteCard }

variable (w : UXSPWebSocket P S)

/-- A session object is changed. -/
def put (r : SessionRef) (s : Session) : UXSPWebSocket P S :=
  { w with sessions := Function.update w.sessions r s }

/-- A session object is made. -/
def alloc (s : Session) : UXSPWebSocket P S := { w.put w.fresh s with fresh := w.fresh + 1 }

/-! ## The initiator -/

def startHandshake (uuid : Uuid4) (now stamp : ℚ) (coins : MessageCoins) :
    Except PyErr UXSPFrame × UXSPWebSocket P S :=
  match w.remoteCard with
  | none => (.error ⟨.webSocketError, ["No remote card. Use UXSPWebSocket.as_initiator() ",
      "with a valid responder PublicCard."]⟩, w)
  | some card =>
      match Handshake.initiate P w.identity card w.config uuid now coins with
      | .error e => (.error e, w)
      | .ok hs => (hs.helloMessage.map (UXSPFrame.build .handshakeHello · stamp),
          { w with hs := some hs })

/-- The session of a completed handshake is made, and the handshake refers to it. -/
def established (hs : Handshake P SessionRef) (store : S.State) (s : Session) : UXSPWebSocket P S :=
  { w.alloc s with
    nonceStore := store
    session := some w.fresh
    hs := some { hs with session := some w.fresh } }

def completeHandshake (frame : UXSPFrame) (now after stamp : ℚ) :
    Except PyErr UXSPFrame × UXSPWebSocket P S :=
  match w.hs, w.remoteCard with
  | some hs, some card =>
      if frame.type ≠ .handshakeAck then (.error (frame.unexpected "HANDSHAKE_ACK"), w)
      else
        match Handshake.completeSession P S w.nonceStore hs frame.payload card now after with
        | (.error e, store) => (.error e, { w with nonceStore := store })
        | (.ok s, store) =>
            (.ok (.build .handshakeComplete [("session_id", .str s.sessionId)] stamp),
              w.established hs store s)
  | _, _ => (.error ⟨.sessionNotEstablishedError,
      ["complete_handshake() called before start_handshake()."]⟩, w)

/-! ## Resumption -/

/-- `f"{label}:{session_id}:{last_seq}:{nonce}".encode()`. -/
def resumeText (R : Runtime) (label : String) (sessionId : Str) (lastSeq nonce : Val) :
    Except PyErr Bytes := do
  let seq ← R.str lastSeq
  let drawn ← R.str nonce
  (Str.ofString label ++ (":" : Str) ++ sessionId ++ (":" : Str) ++ seq ++ (":" : Str) ++
    drawn).utf8

/-- The payload of a RESUME or RESUME_ACK frame: the last number that came in, a nonce, and the tag
over both. -/
def resumePayload (P : Platform) (label : String) (s : Session) (nonce : Urandom 16) :
    Except PyErr Dict := do
  let msg ← resumeText P.toRuntime label s.sessionId (.int s.recvSeq) (.str nonce.1.hex)
  return [("session_id", .str s.sessionId), ("last_seq", .int s.recvSeq),
    ("nonce", .str nonce.1.hex), ("auth_tag", .str (s.computeAuthTag P msg .send))]

/-- Whether the tag of a payload is the peer's. -/
def resumeVerified (P : Platform) (label : String) (s : Session) (payload : Dict) :
    Except PyErr Bool := do
  let msg ← resumeText P.toRuntime label s.sessionId ((payload.get? "last_seq").getD (.int 0))
    ((payload.get? "nonce").getD (.str ""))
  s.verifyAuthTag P msg ((payload.get? "auth_tag").getD (.str "")) .recv

def startResume (nonce : Urandom 16) (now stamp : ℚ) : Except PyErr UXSPFrame × UXSPWebSocket P S :=
  let inactive : PyErr :=
    ⟨.sessionNotEstablishedError, ["Cannot resume: no active session found."]⟩
  match w.session with
  | none => (.error inactive, w)
  | some r =>
      match (w.sessions r).isActive now with
      | (false, s) => (.error inactive, w.put r s)
      | (true, s) => ((resumePayload P "RESUME" s nonce).map (UXSPFrame.build .resume · stamp),
          w.put r s)

def completeResume (frame : UXSPFrame) (now : ℚ) : Except PyErr Unit × UXSPWebSocket P S :=
  let inactive : PyErr :=
    ⟨.sessionNotEstablishedError, ["Cannot complete resume: session is not active."]⟩
  match w.session with
  | none => (.error inactive, w)
  | some r =>
      match (w.sessions r).isActive now with
      | (false, s) => (.error inactive, w.put r s)
      | (true, s) => (do
          ensure (frame.type = .resumeAck) (frame.unexpected "UXSP-RESUME-ACK")
          ensure (Val.eqStr (frame.payload.get? "session_id") s.sessionId)
            (P.err .webSocketError ["RESUME_ACK session_id '",
              .val ((frame.payload.get? "session_id").getD .none), "' does not match session '",
              .str s.sessionId, "'"])
          let verified ← resumeVerified P "RESUME_ACK" s frame.payload
          ensure verified ⟨.webSocketError,
            ["Invalid resume ack authentication tag: verification failed."]⟩, w.put r s)

/-! ## The responder -/

/-- The handshake of an answered HELLO refers to the session that was made for it. -/
def answered (hello : Dict) (card : PublicCard) (store : S.State) (ack : Dict) (s : Session) :
    UXSPWebSocket P S :=
  { w.alloc s with
    nonceStore := store
    hs := some (.responded P (P.str ((hello.get? "session_id").getD (.str ""))).toOption ack
      w.fresh w.config)
    remoteCard := some card }

/-- `limited` is the answer of the rate limiter. -/
def handleHello (frame : UXSPFrame) (initiatorCard : PublicCard) (limited : Except PyErr Unit)
    (now after stamp : ℚ) (coins : MessageCoins) :
    Except PyErr UXSPFrame × UXSPWebSocket P S :=
  if w.hs.isSome then
    (.error ⟨.webSocketError, ["handle_hello() called twice. Possible handshake replay."]⟩, w)
  else if frame.type ≠ .handshakeHello then (.error (frame.unexpected "HANDSHAKE_HELLO"), w)
  else
    match limited with
    | .error e => (.error e, w)
    | .ok () =>
        match Handshake.respondSession P S w.nonceStore w.identity frame.payload initiatorCard
            w.config now after coins with
        | (.error e, store) => (.error e, { w with nonceStore := store })
        | (.ok (ack, s), store) =>
            (.ok (.build .handshakeAck ack stamp),
              w.answered frame.payload initiatorCard store ack s)

/-- The session that a COMPLETE frame confirms. -/
def confirmed (frame : UXSPFrame) : Except PyErr SessionRef :=
  match w.hs with
  | none => .error ⟨.sessionNotEstablishedError,
      ["handle_complete() called before handle_hello()."]⟩
  | some hs => do
      ensure (frame.type = .handshakeComplete) (frame.unexpected "HANDSHAKE_COMPLETE")
      ensure w.session.isNone ⟨.webSocketError,
        ["Handshake already completed. Possible replay of COMPLETE frame."]⟩
      let r ← hs.sessionRef
      ensure (Val.eqStr (frame.payload.get? "session_id") (w.sessions r).sessionId)
        (P.err .webSocketError ["COMPLETE frame session_id '",
          .val ((frame.payload.get? "session_id").getD .none),
          "' does not match handshake session '", .str (w.sessions r).sessionId, "'."])
      return r

def handleComplete (frame : UXSPFrame) : Except PyErr Unit × UXSPWebSocket P S :=
  match w.confirmed frame with
  | .error e => (.error e, w)
  | .ok r => (.ok (), { w with session := some r })

/-- What a RESUME frame must have. -/
def resumeChecked (P : Platform) (frame : UXSPFrame) (s : Session) : Except PyErr Unit := do
  ensure (Val.eqStr (frame.payload.get? "session_id") s.sessionId)
    (P.err .webSocketError ["Session ID mismatch: expected ", .str s.sessionId, ", got ",
      .val ((frame.payload.get? "session_id").getD .none)])
  let verified ← resumeVerified P "RESUME" s frame.payload
  ensure verified ⟨.webSocketError,
    ["Invalid resume authentication tag: verification failed."]⟩

/-- `session` is the session that the caller found for the frame, if any. -/
def handleResume (frame : UXSPFrame) (session : Option SessionRef) (nonce : Urandom 16)
    (now stamp : ℚ) : Except PyErr UXSPFrame × UXSPWebSocket P S :=
  let inactive : PyErr :=
    ⟨.sessionNotEstablishedError, ["Cannot resume: session not found or expired."]⟩
  if frame.type ≠ .resume then (.error (frame.unexpected "UXSP-RESUME"), w)
  else
    match session.or w.session with
    | none => (.error inactive, w)
    | some r =>
        match (w.sessions r).isActive now with
        | (false, s) => (.error inactive, w.put r s)
        | (true, s) =>
            match resumeChecked P frame s with
            | .error e => (.error e, w.put r s)
            | .ok () =>
                ((resumePayload P "RESUME_ACK" s nonce).map (UXSPFrame.build .resumeAck · stamp),
                  { w.put r s with session := some r })

/-! ## Data -/

/-- Encrypt a payload, or send it as it is where there is no session. -/
def encrypted (type : FrameType) (r : SessionRef) (plaintext : Bytes) (nonce : Urandom NONCE_SIZE)
    (now after stamp : ℚ) : Except PyErr UXSPFrame × UXSPWebSocket P S :=
  let (payload, s) := Session.encrypt P (w.sessions r) plaintext nonce now after
  (payload.map (UXSPFrame.build type · stamp), w.put r s)

def encode (plaintext : Bytes) (nonce : Urandom NONCE_SIZE) (now after stamp : ℚ) :
    Except PyErr UXSPFrame × UXSPWebSocket P S :=
  match w.session with
  | none => (.error ⟨.sessionNotEstablishedError,
      ["Cannot send data before handshake is complete."]⟩, w)
  | some r => w.encrypted .data r plaintext nonce now after stamp

def decode (frame : UXSPFrame) (now after : ℚ) : Except PyErr Bytes × UXSPWebSocket P S :=
  match w.session with
  | none => (.error ⟨.sessionNotEstablishedError,
      ["Cannot receive data before handshake is complete."]⟩, w)
  | some r =>
      if frame.type ≠ .data then (.error (frame.unexpected "DATA frame"), w)
      else
        let (plaintext, s) := Session.decrypt P (w.sessions r) frame.payload now after
        (plaintext, w.put r s)

/-! ## Keepalive and close -/

/-- A control frame: its payload in JSON, encrypted where there is a session. -/
def control (type : FrameType) (payload : Dict) (nonce : Urandom NONCE_SIZE)
    (now after stamp : ℚ) : Except PyErr UXSPFrame × UXSPWebSocket P S :=
  match w.session with
  | none => (.ok (.build type payload stamp), w)
  | some r =>
      match P.jsonDumps (.dict payload) with
      | .error e => (.error e, w)
      | .ok raw => w.encrypted type r raw nonce now after stamp

/-- `ts` is the clock in the payload. -/
def ping (nonce : Urandom NONCE_SIZE) (ts now after stamp : ℚ) :
    Except PyErr UXSPFrame × UXSPWebSocket P S :=
  w.control .ping [("ts", .int ⌊ts⌋)] nonce now after stamp

/-- The data of a PING: what it decrypts to, and else its payload. -/
def pingData (frame : UXSPFrame) (now after : ℚ) : Val × UXSPWebSocket P S :=
  match w.session with
  | none => (.dict frame.payload, w)
  | some r =>
      if frame.payload.has "ciphertext" then
        let (raw, s) := Session.decrypt P (w.sessions r) frame.payload now after
        (((raw.bind P.jsonLoads).toOption).getD (.dict frame.payload), w.put r s)
      else (.dict frame.payload, w)

/-- `data.get("ts")`. -/
def echoed : Val → Except PyErr Val
  | .dict data => .ok ((Dict.get? data "ts").getD .none)
  | v => .error ⟨.attributeError, ["'", v.typeName, "' object has no attribute 'get'"]⟩

/-- The PING is read from `opening` to `opened`, and the PONG made from `now` on. -/
def pong (frame : UXSPFrame) (nonce : Urandom NONCE_SIZE) (opening opened now after stamp : ℚ) :
    Except PyErr UXSPFrame × UXSPWebSocket P S :=
  let (data, w) := w.pingData frame opening opened
  match echoed data with
  | .error e => (.error e, w)
  | .ok ts => w.control .pong [("echo_ts", ts)] nonce now after stamp

/-- The session is revoked and let go. -/
def tearDown : UXSPWebSocket P S :=
  match w.session with
  | none => w
  | some r => { w.put r (w.sessions r).revoke with session := none }

def close (reason : Str) (nonce : Urandom NONCE_SIZE) (now after stamp : ℚ) :
    Except PyErr UXSPFrame × UXSPWebSocket P S :=
  match w.control .close [("reason", .str reason)] nonce now after stamp with
  | (.error e, w) => (.error e, w)
  | (.ok frame, w) => (.ok frame, w.tearDown)

/-- The reason in what a CLOSE frame decrypts to. -/
def closeReason (R : Runtime) : Except PyErr Val → Except PyErr Str
  | .ok (.dict data) => R.str ((Dict.get? data "reason").getD (.str "unknown"))
  | _ => .ok "unauthenticated-close"

def handleClose (frame : UXSPFrame) (now after : ℚ) : Except PyErr Str × UXSPWebSocket P S :=
  if frame.type ≠ .close then (.error (frame.unexpected "CLOSE frame"), w)
  else
    match w.session with
    | none => (P.str ((frame.payload.get? "reason").getD (.str "unknown")), w)
    | some r =>
        let (raw, s) := Session.decrypt P (w.sessions r) frame.payload now after
        match closeReason P.toRuntime (raw.bind P.jsonLoads) with
        | .error e => (.error e, w.put r s)
        | .ok reason => (.ok reason, (w.put r s).tearDown)

def isReady (now : ℚ) : Bool × UXSPWebSocket P S :=
  match w.session with
  | none => (false, w)
  | some r =>
      let (active, s) := (w.sessions r).isActive now
      (active, w.put r s)

end UXSPWebSocket

end Uxsp
