import Uxsp.Core.Session
import Uxsp.Js.Crypto

/-!
# `session.ts`

The session of the JavaScript SDK, from the moment both keys are derived.  A session that answers a
HELLO takes its identifiers from the message as they are, and a payload is any value that
`JSON.parse` makes.  While Web Crypto is awaited nothing of the session is read or written: `now` is
the clock before it and `after` the clock behind it.
-/

namespace Uxsp

/-- `x <= 0`. -/
def PyFloat.nonpos : PyFloat → Bool
  | .finite q => q ≤ 0
  | .inf negative => negative
  | .nan => false

/-- Lifetime, message cap and key derivation of a session; the constructor checks the fields. -/
structure JsSessionConfig where
  maxLifetimeSeconds : PyFloat
  maxMessages : PyFloat
  keyInfo : JsStr
  enforceOrdering : Bool
  lifetime_pos : maxLifetimeSeconds.nonpos = false
  messages_pos : maxMessages.nonpos = false
  keyInfo_ne : keyInfo ≠ []

/-- `new SessionConfig()`. -/
def JsSessionConfig.default : JsSessionConfig where
  maxLifetimeSeconds := .finite 3600
  maxMessages := .finite 10000
  keyInfo := "UXSP-session-key-v1"
  enforceOrdering := true
  lifetime_pos := by decide
  messages_pos := by decide
  keyInfo_ne := by decide

structure JsSession where
  sessionId : JsVal
  localId : JsStr
  remoteId : JsVal
  config : JsSessionConfig
  state : SessionState
  createdAt : ℚ
  sendSeq : ℕ
  recvSeq : ℕ
  recvCount : ℕ
  seenSeqs : List PyFloat
  maxSeenSeq : PyFloat
  sendKey : Option Bytes
  recvKey : Option Bytes

namespace JsSession

/-- The key of one direction: `info` ends in the direction's label. -/
def directionKey (J : JsPlatform) (config : JsSessionConfig) (sharedSecret : Bytes)
    (initToResp : Bool) : Except JsErr Bytes :=
  J.hkdf sharedSecret [] (JsStr.utf8 (config.keyInfo ++ (":enc" : JsStr) ++
    (if initToResp then (":init_to_resp" : JsStr) else (":resp_to_init" : JsStr)))) 32

/-- `new Session(...)` and `ready()`. -/
def init (J : JsPlatform) (sessionId : JsVal) (localId : JsStr) (remoteId : JsVal)
    (sharedSecret : Bytes) (isInitiator : Bool) (config : JsSessionConfig) (now : ℚ) :
    Except JsErr JsSession := do
  let sendKey ← directionKey J config sharedSecret isInitiator
  let recvKey ← directionKey J config sharedSecret !isInitiator
  return {
    sessionId := sessionId
    localId := localId
    remoteId := remoteId
    config := config
    state := .pending
    createdAt := now
    sendSeq := 0
    recvSeq := 0
    recvCount := 0
    seenSeqs := []
    maxSeenSeq := .finite (-1)
    sendKey := sendKey
    recvKey := recvKey }

def activate (s : JsSession) : Except JsErr JsSession :=
  if s.state ≠ .pending then
    .error ⟨.sessionError, [.lit "Cannot activate session in state ", .lit s.state.name]⟩
  else .ok { s with state := .active }

def WINDOW_SIZE : ℚ := 128

/-- Messages received, as the cap counts them. -/
def received (s : JsSession) : ℕ := if s.config.enforceOrdering then s.recvSeq else s.recvCount

/-- The state after `evaluateExpiry` at `now`. -/
def stateAt (s : JsSession) (now : ℚ) : SessionState :=
  if s.state ≠ .active then s.state
  else if s.config.maxLifetimeSeconds.lt (.finite (now - s.createdAt)) then .expired
  else if s.config.maxMessages.le (.finite (s.sendSeq + s.received : ℕ)) then .expired
  else s.state

def evaluateExpiry (s : JsSession) (now : ℚ) : JsSession := { s with state := s.stateAt now }

/-- What `checkActive` throws in a state. -/
def requireActive : SessionState → Except JsErr Unit
  | .expired =>
      .error ⟨.sessionExpiredError, [.lit "Session expired. Re-establish via Handshake."]⟩
  | .revoked => .error ⟨.sessionRevokedError, [.lit "Session was revoked."]⟩
  | .active => .ok ()
  | .pending => .error ⟨.sessionNotActiveError,
      [.lit "Session is in state ", .lit SessionState.pending.name, .lit ", not ACTIVE."]⟩

/-- The key, unless the session was revoked. -/
def requireKey (key : Option Bytes) (missing : String) : Except JsErr Bytes :=
  match key with
  | some key => .ok key
  | none => .error ⟨.sessionError, [.lit missing]⟩

def revoke (s : JsSession) : JsSession :=
  { s with state := .revoked, sendKey := none, recvKey := none }

section Payloads

variable (J : JsPlatform)

/-- The bytes of `sessionId` and a number, with a colon between. -/
def associatedData (sessionId : JsVal) (seq : PyFloat) : Except JsErr Bytes := do
  let id ← J.str sessionId
  return JsStr.utf8 (id ++ (":" : JsStr) ++ J.numberToString seq)

/-! ## Encrypt -/

/-- `encrypt` up to the associated data: a number is taken. -/
def encryptBegin (s : JsSession) (now : ℚ) : Except JsErr (ℕ × Bytes) × JsSession :=
  let s := s.evaluateExpiry now
  match (do requireActive s.state; requireKey s.sendKey "Session sendKey is not available.") with
  | .error e => (.error e, s)
  | .ok key => (.ok (s.sendSeq, key), { s with sendSeq := s.sendSeq + 1 })

/-- The payload of a number under a key. -/
def sealPayload (sessionId : JsVal) (sendKey : Bytes) (seq : ℕ) (plaintext : Bytes)
    (nonce : Urandom NONCE_SIZE) : Except JsErr JsObject := do
  let ad ← associatedData J sessionId (.finite seq)
  let ciphertext ← J.aesGcmEncrypt sendKey nonce plaintext ad
  return [("session_id", sessionId), ("seq", .number (.finite seq)),
    ("ciphertext", .string (JsStr.ofBytes ciphertext)), ("nonce", .string (JsStr.ofBytes nonce))]

/-- `encrypt` with nothing in between. -/
def encrypt (s : JsSession) (plaintext : Bytes) (nonce : Urandom NONCE_SIZE) (now after : ℚ) :
    Except JsErr JsObject × JsSession :=
  match s.encryptBegin now with
  | (.error e, s) => (.error e, s)
  | (.ok (seq, key), s) =>
      match sealPayload J s.sessionId key seq plaintext nonce with
      | .error e => (.error e, s)
      | .ok payload => (.ok payload, s.evaluateExpiry after)

/-! ## Decrypt -/

/-- The properties of an object; an array has none of those that are read. -/
def payloadFields : JsVal → Except JsErr JsObject
  | .object fields => .ok fields
  | .array _ => .ok []
  | _ => .error ⟨.typeError, [.lit "Payload must be an object"]⟩

/-- `v === w`; two objects are not the same object. -/
def strictEq : Option JsVal → JsVal → Bool
  | some .null, .null => true
  | some (.bool a), .bool b => a == b
  | some (.number x), .number y => x == y && x != .nan
  | some (.string s), .string t => s == t
  | _, _ => false

/-- What is thrown for another session's payload; an identifier that is no string and no array has
no `slice`. -/
def mismatch (sessionId : JsVal) (got : Option JsVal) : JsErr :=
  let error (id : JsStr) : JsErr :=
    match (got.map J.str).getD (.ok "undefined") with
    | .error e => e
    | .ok shown => ⟨.sessionError, [.lit "Payload session_id mismatch: expected ", .str id,
        .lit ", got ", .str (shown.take 8)]⟩
  match sessionId with
  | .string s => error (s.take 8)
  | .array xs =>
      match J.str (.array (xs.take 8)) with
      | .error e => e
      | .ok id => error id
  | .null => ⟨.typeError, [.lit "Cannot read properties of null (reading 'slice')"]⟩
  | _ => ⟨.typeError, [.lit "this.sessionId.slice is not a function"]⟩

/-- The number of a payload; a NaN is one. -/
def payloadSeq : Option JsVal → Except JsErr PyFloat
  | some (.number x) =>
      if x.lt (.finite 0) then .error ⟨.sessionError, [.lit "Invalid sequence number"]⟩ else .ok x
  | _ => .error ⟨.sessionError, [.lit "Invalid sequence number"]⟩

/-- Strict mode: no number that is below or above the expected one. -/
def checkOrdered (s : JsSession) (seq : PyFloat) : Except JsErr Unit := do
  jsEnsure (!seq.lt (.finite s.recvSeq)) ⟨.sessionReorderError,
    [.lit "Sequence replay: seq=", .str (J.numberToString seq), .lit " already received (expected ",
      .str (J.numberToString (.finite s.recvSeq)), .lit ")"]⟩
  jsEnsure (!PyFloat.lt (.finite s.recvSeq) seq) ⟨.sessionReorderError,
    [.lit "Sequence reorder: seq=", .str (J.numberToString seq),
      .lit " arrived out of order (expected ", .str (J.numberToString (.finite s.recvSeq)),
      .lit ")"]⟩

/-- `x - 128`. -/
def windowStart : PyFloat → PyFloat
  | .finite q => .finite (q - WINDOW_SIZE)
  | x => x

/-- Unordered mode: no number that was seen or is below the window. -/
def checkWindow (s : JsSession) (seq : PyFloat) : Except JsErr Unit := do
  jsEnsure (!s.seenSeqs.contains seq) ⟨.sessionReorderError,
    [.lit "Sequence replay: seq=", .str (J.numberToString seq),
      .lit " already seen in session."]⟩
  jsEnsure (!seq.lt (windowStart s.maxSeenSeq)) ⟨.sessionReorderError,
    [.lit "Sequence number ", .str (J.numberToString seq),
      .lit " is too old (outside sliding window)."]⟩

def checkSeq (s : JsSession) (seq : PyFloat) : Except JsErr Unit :=
  if s.config.enforceOrdering then s.checkOrdered J seq else s.checkWindow J seq

/-- Count a number as received. -/
def takeSeq (s : JsSession) (seq : PyFloat) : JsSession :=
  if s.config.enforceOrdering then { s with recvSeq := s.recvSeq + 1 }
  else { s with
    seenSeqs := s.seenSeqs ++ [seq]
    maxSeenSeq := if s.maxSeenSeq.lt seq then seq else s.maxSeenSeq
    recvCount := s.recvCount + 1 }

/-- The checks of `decrypt` in a session whose expiry was evaluated: the payload's fields, its
number and the key. -/
def checkPayload (s : JsSession) (payload : JsVal) : Except JsErr (JsObject × PyFloat × Bytes) := do
  let fields ← payloadFields payload
  requireActive s.state
  let key ← requireKey s.recvKey "Session recvKey is not available."
  jsEnsure (strictEq (fields.get? "session_id") s.sessionId)
    (mismatch J s.sessionId (fields.get? "session_id"))
  let seq ← payloadSeq (fields.get? "seq")
  s.checkSeq J seq
  return (fields, seq, key)

/-- Authenticate and decrypt under a key. -/
def openPayload (sessionId : JsVal) (recvKey : Bytes) (fields : JsObject) (seq : PyFloat) :
    Except JsErr Bytes := do
  let nonce ← decodeHex J.toJsRuntime (← fields.item "nonce")
  let ciphertext ← decodeHex J.toJsRuntime (← fields.item "ciphertext")
  let ad ← associatedData J sessionId seq
  match J.aesGcmDecrypt recvKey nonce ciphertext ad with
  | .ok plaintext => return plaintext
  | .error e => .error ⟨.sessionError,
      .lit "Failed to authenticate/decrypt session payload: " :: e.message⟩

/-- `decrypt`.  The expiry is not evaluated for a value that is no object. -/
def decrypt (s : JsSession) (payload : JsVal) (now after : ℚ) : Except JsErr Bytes × JsSession :=
  match payloadFields payload with
  | .error e => (.error e, s)
  | .ok _ =>
      let s := s.evaluateExpiry now
      match s.checkPayload J payload with
      | .error e => (.error e, s)
      | .ok (fields, seq, key) =>
          match openPayload J s.sessionId key fields seq with
          | .error e => (.error e, s.takeSeq seq)
          | .ok plaintext => (.ok plaintext, (s.takeSeq seq).evaluateExpiry after)

end Payloads

end JsSession

end Uxsp
