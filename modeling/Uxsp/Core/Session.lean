import Uxsp.Crypto.Symmetric

/-!
# `uxsp.core.session`

The encrypted session: directional keys, sequence numbers, the replay window, expiry.  A method
of the class is a function of the session and of the clock readings and random bytes it draws;
it returns its result or exception together with the session it leaves behind.  `now` is the
clock at a method's start and `after` at its last reading.

Every block the source runs under `self._lock` is a definition of its own: `encryptBegin`,
`decryptLocked`, `evaluateExpiry`, `revoke`.
-/

namespace Uxsp

inductive SessionState
  | pending
  | active
  | expired
  | revoked
  deriving DecidableEq, Repr

def SessionState.name : SessionState → String
  | .pending => "PENDING"
  | .active => "ACTIVE"
  | .expired => "EXPIRED"
  | .revoked => "REVOKED"

/-- Lifetime, message cap and key derivation of a session; `__post_init__` checks the fields. -/
structure SessionConfig where
  maxLifetimeSeconds : ℕ
  maxMessages : ℕ
  keyInfo : Bytes
  enforceOrdering : Bool
  lifetime_pos : 0 < maxLifetimeSeconds
  messages_pos : 0 < maxMessages
  keyInfo_ne : keyInfo ≠ []

/-- `SessionConfig()`. -/
def SessionConfig.default : SessionConfig where
  maxLifetimeSeconds := 3600
  maxMessages := 10000
  keyInfo := .lit "UXSP-session-key-v1"
  enforceOrdering := true
  lifetime_pos := by decide
  messages_pos := by decide
  keyInfo_ne := by decide

structure Session where
  sessionId : Str
  localId : Str
  remoteId : Str
  config : SessionConfig
  state : SessionState
  createdAt : ℚ
  sendSeq : ℕ
  recvSeq : ℕ
  seenSeqs : Finset ℕ
  maxSeenSeq : ℤ
  recvCount : ℕ
  sendKey : Bytes
  recvKey : Bytes

namespace Session

def WINDOW_SIZE : ℕ := 128

/-- The key of one direction: `info` ends in the direction's label. -/
def directionKey (P : Platform) (config : SessionConfig) (sharedSecret : Bytes)
    (initToResp : Bool) : Bytes :=
  deriveKey P sharedSecret 32 none (config.keyInfo ++ .lit ":enc" ++
    .lit (if initToResp then ":init_to_resp" else ":resp_to_init"))

@[simp] theorem length_directionKey (P : Platform) (config : SessionConfig)
    (sharedSecret : Bytes) (initToResp : Bool) :
    (directionKey P config sharedSecret initToResp).length = 32 :=
  length_deriveKey P sharedSecret 32 none _

/-- `Session(...)`. -/
def init (P : Platform) (sessionId localId remoteId : Str) (sharedSecret : Bytes)
    (isInitiator : Bool) (config : SessionConfig) (now : ℚ) : Session where
  sessionId := sessionId
  localId := localId
  remoteId := remoteId
  config := config
  state := .pending
  createdAt := now
  sendSeq := 0
  recvSeq := 0
  seenSeqs := ∅
  maxSeenSeq := -1
  recvCount := 0
  sendKey := directionKey P config sharedSecret isInitiator
  recvKey := directionKey P config sharedSecret !isInitiator

/-! ## State management -/

def activate (s : Session) : Except PyErr Session :=
  if s.state ≠ .pending then
    .error ⟨.sessionError, ["Cannot activate session in state ", s.state.name]⟩
  else .ok { s with state := .active }

/-- Messages received, as the cap counts them. -/
def received (s : Session) : ℕ :=
  if s.config.enforceOrdering then s.recvSeq else s.recvCount

def messageCount (s : Session) : ℕ := s.sendSeq + s.received

/-- The state after an expiry check at `now`. -/
def stateAt (s : Session) (now : ℚ) : SessionState :=
  if s.state ≠ .active then s.state
  else if s.config.maxLifetimeSeconds < now - s.createdAt then .expired
  else if s.config.maxMessages ≤ s.messageCount then .expired
  else s.state

def evaluateExpiry (s : Session) (now : ℚ) : Session := { s with state := s.stateAt now }

/-- `_check_active_unlocked`: the session after the evaluation, and whether it may be used. -/
def checkActive (s : Session) (now : ℚ) : Except PyErr Unit × Session :=
  let s := s.evaluateExpiry now
  match s.state with
  | .expired =>
      (.error ⟨.sessionExpiredError, ["Session expired. Re-establish via Handshake."]⟩, s)
  | .revoked => (.error ⟨.sessionRevokedError, ["Session was revoked."]⟩, s)
  | .active => (.ok (), s)
  | .pending =>
      (.error ⟨.sessionNotActiveError, ["Session is ", s.state.name, ", not ACTIVE."]⟩, s)

def isActive (s : Session) (now : ℚ) : Bool × Session :=
  let s := s.evaluateExpiry now
  (s.state = .active, s)

/-- `remaining_messages`: an expiry check, then what the cap leaves. -/
def remainingMessages (s : Session) (now : ℚ) : ℤ × Session :=
  let s := s.evaluateExpiry now
  if s.state ≠ .active then (0, s)
  else (max 0 ((s.config.maxMessages : ℤ) - s.messageCount), s)

/-- Terminate the session and wipe its keys. -/
def revoke (s : Session) : Session :=
  { s with state := .revoked, sendKey := zeroize s.sendKey, recvKey := zeroize s.recvKey }

/-! ## Encrypt -/

/-- `f"{session_id}:{seq}".encode()`. -/
def associatedData (R : Runtime) (sessionId : Str) (seq : ℕ) : Except PyErr Bytes := do
  let printed ← R.str (.int seq)
  (sessionId ++ (":" : Str) ++ printed).utf8

/-- The locked block of `encrypt`: take a sequence number. -/
def encryptBegin (s : Session) (now : ℚ) : Except PyErr ℕ × Session :=
  match s.checkActive now with
  | (.error e, s) => (.error e, s)
  | (.ok (), s) => (.ok s.sendSeq, { s with sendSeq := s.sendSeq + 1 })

/-- The dict `encrypt` returns. -/
def payloadDict (sessionId : Str) (seq : ℕ) (result : Symmetric.Encrypted) : Dict :=
  [("session_id", .str sessionId), ("seq", .int seq),
    ("ciphertext", .str result.ciphertext.hex), ("nonce", .str result.nonce.hex)]

/-- The payload of a sequence number under a key. -/
def sealPayload (P : Platform) (sessionId : Str) (sendKey : Bytes) (seq : ℕ) (plaintext : Bytes)
    (nonce : Urandom NONCE_SIZE) : Except PyErr Dict := do
  let ad ← associatedData P.toRuntime sessionId seq
  let result ← Symmetric.encrypt P plaintext sendKey ad nonce
  return payloadDict sessionId seq result

/-- Encrypt a plaintext into a payload dict; a number once taken is not given back. -/
def encrypt (P : Platform) (s : Session) (plaintext : Bytes) (nonce : Urandom NONCE_SIZE)
    (now after : ℚ) : Except PyErr Dict × Session :=
  match s.encryptBegin now with
  | (.error e, s) => (.error e, s)
  | (.ok seq, s) =>
      match sealPayload P s.sessionId s.sendKey seq plaintext nonce with
      | .error e => (.error e, s)
      | .ok payload => (.ok payload, s.evaluateExpiry after)

/-! ## Decrypt -/

structure Incoming where
  seq : ℕ
  ciphertext : Bytes
  nonce : Bytes

/-- The checks of the payload's fields, before the lock is taken. -/
def validatePayload (R : Runtime) (s : Session) (payload : Dict) : Except PyErr Incoming :=
  if !Val.eqStr (payload.get? "session_id") s.sessionId then
    .error (R.err .valueError ["Payload session_id mismatch. Expected ",
      .str (s.sessionId.take 8), "..., got ",
      .valTake 8 ((payload.get? "session_id").getD (.str "")), "..."])
  else
    match payload.get? "ciphertext", payload.get? "nonce", payload.get? "seq" with
    | none, _, _ => .error ⟨.valueError, ["Session payload missing field: 'ciphertext'"]⟩
    | some _, none, _ => .error ⟨.valueError, ["Session payload missing field: 'nonce'"]⟩
    | some _, some _, none => .error ⟨.valueError, ["Session payload missing field: 'seq'"]⟩
    | some ciphertext, some nonce, some (.int n) =>
        if n < 0 then
          .error ⟨.valueError, ["Session payload field 'seq' must be a non-negative integer."]⟩
        else
          match ciphertext, nonce with
          | .str c, .str d =>
              match c.fromHex, d.fromHex with
              | some ciphertext, some nonce => .ok ⟨n.toNat, ciphertext, nonce⟩
              | _, _ => .error ⟨.valueError, ["Session payload contains invalid hex data: ",
                  "non-hexadecimal number found in fromhex() arg"]⟩
          | _, _ => .error ⟨.valueError,
              ["Session payload fields 'ciphertext' and 'nonce' must be hex strings."]⟩
    | some _, some _, some _ =>
        .error ⟨.valueError, ["Session payload field 'seq' must be a non-negative integer."]⟩

/-- `max(0, max_seen - 128 + 1)`. -/
def windowFloor (s : Session) : ℤ := max 0 (s.maxSeenSeq - WINDOW_SIZE + 1)

/-- Strict mode: only the expected number passes. -/
def acceptOrdered (R : Runtime) (s : Session) (seq : ℕ) : Except PyErr Session :=
  if seq < s.recvSeq then
    .error (R.err .sessionReorderError ["Message seq=", .int seq,
      " already received or replayed. Expected seq=", .int s.recvSeq,
      ". Within-session replay or reorder attack detected."])
  else if s.recvSeq < seq then
    .error (R.err .sessionReorderError ["Message seq=", .int seq,
      " arrived out of order. Expected seq=", .int s.recvSeq,
      ". Messages must arrive in sequence order."])
  else .ok { s with recvSeq := s.recvSeq + 1 }

/-- Drop what is below the window once more than two windows are remembered. -/
def prune (seen : Finset ℕ) (maxSeen : ℤ) : Finset ℕ :=
  if WINDOW_SIZE * 2 < seen.card then
    seen.filter fun n => maxSeen - WINDOW_SIZE + 1 ≤ (n : ℤ)
  else seen

/-- Remember an accepted number and move the window up to it. -/
def advanceWindow (s : Session) (seq : ℕ) : Session :=
  let maxSeen := if s.maxSeenSeq < seq then (seq : ℤ) else s.maxSeenSeq
  { s with
    seenSeqs := prune (insert seq s.seenSeqs) maxSeen
    maxSeenSeq := maxSeen
    recvCount := s.recvCount + 1 }

/-- Unordered mode: a new number inside or above the window passes and is remembered. -/
def acceptWindow (R : Runtime) (s : Session) (seq : ℕ) : Except PyErr Session :=
  if seq ∈ s.seenSeqs then
    .error (R.err .sessionReorderError ["Message seq=", .int seq,
      " already received. Within-session replay attack detected."])
  else if 0 ≤ s.maxSeenSeq ∧ (seq : ℤ) < s.windowFloor then
    .error (R.err .sessionReorderError ["Message seq=", .int seq,
      " is outside the replay-protection window (floor=", .int s.windowFloor, ", max=",
      .int s.maxSeenSeq, "). Possible delayed replay attack."])
  else .ok (s.advanceWindow seq)

def acceptSeq (R : Runtime) (s : Session) (seq : ℕ) : Except PyErr Session :=
  if s.config.enforceOrdering then s.acceptOrdered R seq else s.acceptWindow R seq

/-- `max(seen, default=-1)`. -/
def maxSeqs (seen : Finset ℕ) : ℤ := seen.fold max (-1) fun n : ℕ => (n : ℤ)

/-- What `decrypt` undoes when the ciphertext is refused. -/
def rollbackSeq (s : Session) (seq : ℕ) : Session :=
  if s.config.enforceOrdering then
    if s.recvSeq = seq + 1 then { s with recvSeq := seq } else s
  else
    let seen := s.seenSeqs.erase seq
    { s with
      seenSeqs := seen
      recvCount := if 0 < s.recvCount then s.recvCount - 1 else s.recvCount
      maxSeenSeq := if (seq : ℤ) = s.maxSeenSeq then maxSeqs seen else s.maxSeenSeq }

/-- What is raised for a refused ciphertext. -/
def decryptionError (e : PyErr) : PyErr :=
  if e.cls.isA .valueError then
    ⟨.sessionError,
      [.lit "Session decryption failed: "] ++ e.msg ++ [.lit ". Payload may be tampered."]⟩
  else e

/-- The locked block of `decrypt`.  Building the associated data comes after the window has
advanced and outside the `try`. -/
def decryptLocked (P : Platform) (s : Session) (m : Incoming) (now : ℚ) :
    Except PyErr Bytes × Session :=
  match s.checkActive now with
  | (.error e, s) => (.error e, s)
  | (.ok (), s) =>
      match s.acceptSeq P.toRuntime m.seq with
      | .error e => (.error e, s)
      | .ok advanced =>
          match associatedData P.toRuntime s.sessionId m.seq with
          | .error e => (.error e, advanced)
          | .ok ad =>
              match Symmetric.decrypt P m.ciphertext m.nonce s.recvKey ad with
              | .error e => (.error (decryptionError e), advanced.rollbackSeq m.seq)
              | .ok plaintext => (.ok plaintext, advanced)

/-- Decrypt a payload dict of the remote peer. -/
def decrypt (P : Platform) (s : Session) (payload : Dict) (now after : ℚ) :
    Except PyErr Bytes × Session :=
  match s.validatePayload P.toRuntime payload with
  | .error e => (.error e, s)
  | .ok m =>
      match s.decryptLocked P m now with
      | (.error e, s) => (.error e, s)
      | (.ok plaintext, s) => (.ok plaintext, s.evaluateExpiry after)

/-! ## Authentication tags -/

inductive Direction
  | send
  | recv
  deriving DecidableEq, Repr

def keyOf (s : Session) : Direction → Bytes
  | .send => s.sendKey
  | .recv => s.recvKey

/-- HMAC-SHA256 over a message under a directional key, in hex. -/
def computeAuthTag (P : Platform) (s : Session) (message : Bytes) (direction : Direction) : Str :=
  (P.hmacSha256 (s.keyOf direction) message).hex

/-- `hmac.compare_digest(expected, tag)` takes ASCII strings only. -/
def compareDigest (expected : Str) : Val → Except PyErr Bool
  | .str tag =>
      if tag.all fun c => c.val < 128 then .ok (tag == expected)
      else .error ⟨.typeError,
        ["comparing strings with non-ASCII characters is not supported"]⟩
  | _ => .error ⟨.typeError, ["unsupported operand types(s) or combination of types"]⟩

def verifyAuthTag (P : Platform) (s : Session) (message : Bytes) (tag : Val)
    (direction : Direction) : Except PyErr Bool :=
  compareDigest (s.computeAuthTag P message direction) tag

end Session

end Uxsp
