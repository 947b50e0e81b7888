import Uxsp.Python.Value

/-!
# `uxsp.transport.websocket`: frames

A frame is a JSON object with a type, a payload and a timestamp.  `now` is the clock, which stands in
for a timestamp that is missing; `loadsRaw` is `json.loads` of bytes, which guesses their encoding.
-/

namespace Uxsp

inductive FrameType
  | handshakeHello
  | handshakeAck
  | handshakeComplete
  | data
  | error
  | close
  | ping
  | pong
  | resume
  | resumeAck
  deriving DecidableEq

namespace FrameType

def str : FrameType → Str
  | handshakeHello => "UXSP-HELLO"
  | handshakeAck => "UXSP-ACK"
  | handshakeComplete => "UXSP-COMPLETE"
  | data => "UXSP-DATA"
  | error => "UXSP-ERROR"
  | close => "UXSP-CLOSE"
  | ping => "UXSP-PING"
  | pong => "UXSP-PONG"
  | resume => "UXSP-RESUME"
  | resumeAck => "UXSP-RESUME-ACK"

def all : List FrameType :=
  [handshakeHello, handshakeAck, handshakeComplete, data, error, close, ping, pong, resume,
    resumeAck]

/-- The member with a value. -/
def ofVal : Val → Option FrameType
  | .str s => all.find? fun type => type.str == s
  | _ => none

end FrameType

structure UXSPFrame where
  type : FrameType
  payload : Dict
  timestamp : ℤ

namespace UXSPFrame

/-- What a frame is read from. -/
inductive Source
  | text (s : Str)
  | raw (b : Bytes)

def tooLarge (size : ℕ) (maxBytes : ℤ) : PyErr :=
  ⟨.frameTooLargeError, ["Frame size ", .int size, " bytes exceeds maximum ", .int maxBytes,
    " bytes. Possible memory exhaustion attack."]⟩

/-- The bytes to be parsed; a text is measured before it is encoded. -/
def encoded (maxBytes : ℤ) : Source → Except PyErr Bytes
  | .text s => do
      ensure (s.length ≤ maxBytes) (tooLarge s.length maxBytes)
      s.utf8
  | .raw b => do
      ensure (b.length ≤ maxBytes) (tooLarge b.length maxBytes)
      return b

/-- `FrameType(v)`. -/
def frameType (R : Runtime) (v : Val) : Except PyErr FrameType :=
  match FrameType.ofVal v with
  | some type => .ok type
  | none => .error (R.err .webSocketError ["Unknown frame type: '", .val v, "'"])

/-- `data.get("payload", {})`, which must be an object. -/
def framePayload (data : Dict) : Except PyErr Dict :=
  match data.get? "payload" with
  | none => .ok []
  | some (.dict payload) => .ok payload
  | some _ => .error ⟨.webSocketError, ["Frame payload must be an object/dictionary."]⟩

def ofDict (R : Runtime) (data : Dict) (now : ℚ) : Except PyErr UXSPFrame :=
  match data.get? "uxsp_frame" with
  | none => .error ⟨.webSocketError, ["Missing 'uxsp_frame' field. Is this a UXSP message?"]⟩
  | some v => do
      let type ← frameType R v
      let payload ← framePayload data
      let ts ← catching [.typeError, .valueError]
        (fun _ => ⟨.webSocketError, ["Frame timestamp must be a Unix integer."]⟩)
        (R.int ((data.get? "timestamp").getD (.int ⌊now⌋)))
      return ⟨type, payload, ts⟩

def fromJson (R : Runtime) (loadsRaw : Bytes → Except PyErr Val) (source : Source) (maxBytes : ℤ)
    (now : ℚ) : Except PyErr UXSPFrame := do
  let raw ← encoded maxBytes source
  ensure (raw.length ≤ maxBytes) (tooLarge raw.length maxBytes)
  match ← catching [.jsonDecodeError]
      (fun e => ⟨.webSocketError, [.lit "Invalid JSON: "] ++ e.msg⟩) (loadsRaw raw) with
  | .dict data => ofDict R data now
  | _ => .error ⟨.webSocketError, ["JSON payload must be an object/dictionary."]⟩

end UXSPFrame

end Uxsp
