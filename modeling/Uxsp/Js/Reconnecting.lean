import Uxsp.Js.SealOpen
import Uxsp.Js.SessionCalls

/-!
# The socket that reconnects

`send` of `UXSPReconnectingWebSocket` queues a message, or has the session of the moment encrypt it
and gives the frame to the socket that is there afterwards.  In between other calls of `send`, the
queue, the session's other users and the connection move on.

* `flushQueue_rests`: after a flush the queue is empty or nothing can be sent.
-/

namespace Uxsp

namespace UXSPReconnectingWebSocket

open JsSession (Sealing)

/-! ## State -/

/-- Where a call of `send` waits; a session is named by its handshake, from 0 on. -/
inductive Stage
  /-- For the keys of the session. -/
  | waiting (session : ℕ)
  /-- For Web Crypto. -/
  | sealing (session : ℕ) (p : Sealing)
  /-- For its turn to hand the frame over. -/
  | framed (session : ℕ) (p : Sealing) (payload : JsObject)

/-- A call of `send` under way; `queued` when the queue made it. -/
structure Send where
  message : Bytes
  queued : Bool
  stage : Stage

structure State where
  /-- The socket, named by its connection. -/
  ws : Option ℕ
  /-- The session that `_uxsp` has. -/
  session : Option ℕ
  /-- The sessions of all handshakes, since a call keeps the one it began with. -/
  sessions : List JsSession
  pendingQueue : List Bytes
  sends : List Send

/-- After the constructor. -/
def State.start : State := ⟨none, none, [], [], []⟩

namespace State

variable (c : State)

/-- The session that `_uxsp` has, with its name. -/
def current : Option (ℕ × JsSession) := do
  let i ← c.session
  let s ← c.sessions[i]?
  return (i, s)

/-- `_uxsp.isReady`: the name of the session that is. -/
def isReady (now : ℚ) : Option ℕ × State :=
  match c.current with
  | none => (none, c)
  | some (i, s) =>
      let s := s.evaluateExpiry now
      (if s.state = .active then some i else none, { c with sessions := c.sessions.set i s })

/-- `_ws && _uxsp.isReady`. -/
def canSend (now : ℚ) : Option ℕ × State :=
  match c.ws with
  | none => (none, c)
  | some _ => c.isReady now

/-- `send` up to the first await of `encrypt`. -/
def send (message : Bytes) (queued : Bool) (now : ℚ) : State :=
  match c.canSend now with
  | (none, c) => { c with pendingQueue := c.pendingQueue ++ [message] }
  | (some i, c) => { c with sends := c.sends ++ [⟨message, queued, .waiting i⟩] }

/-- The loop of `_flushQueue`; `clock` has the readings, the last ones first. -/
def flushLoop (clock : ℕ → ℚ) : ℕ → State → State
  | 0, c => c
  | fuel + 1, c =>
      match c.pendingQueue with
      | [] => c
      | message :: rest =>
          match c.canSend (clock (2 * fuel + 1)) with
          | (none, c) => c
          | (some _, c) =>
              flushLoop clock fuel
                (send { c with pendingQueue := rest } message true (clock (2 * fuel)))

def flushQueue (clock : ℕ → ℚ) : State := flushLoop clock (c.pendingQueue.length + 1) c

end State

/-! ## Steps -/

/-- What a socket was given: the frame, and what it was made of. -/
structure Frame where
  ws : ℕ
  session : ℕ
  p : Sealing
  payload : JsObject
  message : Bytes

inductive Event
  | sent (message : Bytes)
  | flushed
  /-- A session has established itself. -/
  | established (s : JsSession)
  /-- A call has taken a number of a session. -/
  | began (session seq : ℕ)
  | sealed
  | handed (f : Frame)
  /-- A call has rejected, which is an `error` event if the queue made it. -/
  | rejected (call : Send) (e : JsErr)
  /-- Another stretch of a call of a session. -/
  | foreign (session : ℕ) (e : JsSession.Event)
  | connection

/-- `this._ws.send` without a socket. -/
def noSocket : JsErr :=
  ⟨.typeError, [.lit "Cannot read properties of null (reading 'send')"]⟩

/-- What runs between two awaits.  A socket comes and goes at any time, and `_flushQueue` runs at
any time. -/
inductive Step (J : JsPlatform) (c : State) : Event → State → Prop
  | send {now : ℚ} (message : Bytes) : Step J c (.sent message) (c.send message false now)
  | flush (clock : ℕ → ℚ) : Step J c .flushed (c.flushQueue clock)
  | refuse {now : ℚ} {i : ℕ} {s t : JsSession} {message : Bytes} {queued : Bool} {e : JsErr}
      (front back : List Send) : c.sends = front ++ ⟨message, queued, .waiting i⟩ :: back →
      c.sessions[i]? = some s → s.encryptBegin now = (.error e, t) →
      Step J c (.rejected ⟨message, queued, .waiting i⟩ e)
        { c with sessions := c.sessions.set i t, sends := front ++ back }
  | take {now : ℚ} {i seq : ℕ} {key : Bytes} {nonce : Urandom NONCE_SIZE} {s t : JsSession}
      {message : Bytes} {queued : Bool} (front back : List Send) :
      c.sends = front ++ ⟨message, queued, .waiting i⟩ :: back → c.sessions[i]? = some s →
      s.encryptBegin now = (.ok (seq, key), t) →
      Step J c (.began i seq) { c with
        sessions := c.sessions.set i t
        sends := front ++ ⟨message, queued, .sealing i ⟨seq, key, message, nonce⟩⟩ :: back }
  | sealFail {i : ℕ} {s : JsSession} {p : Sealing} {message : Bytes} {queued : Bool} {e : JsErr}
      (front back : List Send) : c.sends = front ++ ⟨message, queued, .sealing i p⟩ :: back →
      c.sessions[i]? = some s →
      JsSession.sealPayload J s.sessionId p.key p.seq p.plaintext p.nonce = .error e →
      Step J c (.rejected ⟨message, queued, .sealing i p⟩ e) { c with sends := front ++ back }
  | settle {now : ℚ} {i : ℕ} {s : JsSession} {p : Sealing} {payload : JsObject} {message : Bytes}
      {queued : Bool} (front back : List Send) :
      c.sends = front ++ ⟨message, queued, .sealing i p⟩ :: back → c.sessions[i]? = some s →
      JsSession.sealPayload J s.sessionId p.key p.seq p.plaintext p.nonce = .ok payload →
      Step J c .sealed { c with
        sessions := c.sessions.set i (s.evaluateExpiry now)
        sends := front ++ ⟨message, queued, .framed i p payload⟩ :: back }
  | hand {k i : ℕ} {p : Sealing} {payload : JsObject} {message : Bytes} {queued : Bool}
      (front back : List Send) : c.sends = front ++ ⟨message, queued, .framed i p payload⟩ :: back →
      c.ws = some k →
      Step J c (.handed ⟨k, i, p, payload, message⟩) { c with sends := front ++ back }
  | handNull {i : ℕ} {p : Sealing} {payload : JsObject} {message : Bytes} {queued : Bool}
      (front back : List Send) : c.sends = front ++ ⟨message, queued, .framed i p payload⟩ :: back →
      c.ws = none →
      Step J c (.rejected ⟨message, queued, .framed i p payload⟩ noSocket)
        { c with sends := front ++ back }
  /-- The socket's `send` throws. -/
  | handFail {k i : ℕ} {p : Sealing} {payload : JsObject} {message : Bytes} {queued : Bool}
      {e : JsErr} (front back : List Send) :
      c.sends = front ++ ⟨message, queued, .framed i p payload⟩ :: back → c.ws = some k →
      Step J c (.rejected ⟨message, queued, .framed i p payload⟩ e)
        { c with sends := front ++ back }
  /-- `completeHandshake` has a new session. -/
  | establish (s : JsSession) : Step J c (.established s)
      { c with session := some c.sessions.length, sessions := c.sessions ++ [s] }
  /-- `close` and `handleClose` of `_uxsp` drop the session. -/
  | drop : Step J c .connection { c with session := none }
  /-- `new WS(...)`, and `onclose`. -/
  | connect (ws : Option ℕ) : Step J c .connection { c with ws := ws }
  /-- `decode`, `pong`, `close` and whoever else has the session. -/
  | foreign {i : ℕ} {s t : JsSession} {sealings sealings' : List Sealing}
      {openings openings' : List JsSession.Opening} {e : JsSession.Event} :
      c.sessions[i]? = some s →
      JsSession.Step J ⟨s, sealings, openings⟩ e ⟨t, sealings', openings'⟩ →
      Step J c (.foreign i e) { c with sessions := c.sessions.set i t }

/-! ## What the flush leaves -/

section Flush

variable {c : State} {now : ℚ} {i : ℕ}

/-- There is no socket, or no session that is active. -/
def State.Rests (c : State) : Prop :=
  c.ws = none ∨ ∀ i s, c.current = some (i, s) → s.state ≠ .active

theorem current_eq_some {s : JsSession} :
    c.current = some (i, s) ↔ c.session = some i ∧ c.sessions[i]? = some s := by
  unfold State.current
  cases c.session with
  | none => simp
  | some j =>
      cases found : c.sessions[j]? with
      | none =>
          refine ⟨fun h => ?_, ?_⟩
          · simp [found] at h
          · rintro ⟨same, here⟩
            cases same
            cases found.symm.trans here
      | some t =>
          simp only [Option.bind_eq_bind, Option.bind_some, found, Option.pure_def,
            Option.some.injEq, Prod.mk.injEq]
          constructor
          · rintro ⟨rfl, rfl⟩
            exact ⟨rfl, found⟩
          · rintro ⟨rfl, here⟩
            exact ⟨rfl, Option.some.inj (found.symm.trans here)⟩

/-- Reading `isReady` evaluates the expiry of the session and does nothing else. -/
theorem canSend_cases (c : State) (now : ℚ) :
    (∃ ss, (c.canSend now).2 = { c with sessions := ss } ∧ (ss = c.sessions ∨
      ∃ j s, c.sessions[j]? = some s ∧ ss = c.sessions.set j (s.evaluateExpiry now))) ∧
    ((c.canSend now).1 = none → (c.canSend now).2.Rests) := by
  unfold State.canSend
  split
  · rename_i socket
    exact ⟨⟨c.sessions, rfl, .inl rfl⟩, fun _ => .inl socket⟩
  · unfold State.isReady
    split
    · rename_i here
      refine ⟨⟨c.sessions, rfl, .inl rfl⟩, fun _ => .inr fun i s found => ?_⟩
      cases here.symm.trans found
    · rename_i j s here
      obtain ⟨named, found⟩ := current_eq_some.mp here
      refine ⟨⟨_, rfl, .inr ⟨j, s, found, rfl⟩⟩, fun idle => .inr fun i t held => ?_⟩
      obtain ⟨named', found'⟩ := current_eq_some.mp held
      cases Option.some.inj (named.symm.trans named')
      have inside : j < c.sessions.length := (List.getElem?_eq_some_iff.mp found).1
      rw [List.getElem?_set_self inside] at found'
      cases found'
      simpa using idle

/-- What rests stays so. -/
theorem canSend_of_rests (rests : c.Rests) (now : ℚ) :
    (c.canSend now).1 = none ∧ (c.canSend now).2.Rests := by
  have none : (c.canSend now).1 = none := by
    unfold State.canSend
    split
    · rfl
    · rename_i k socket
      unfold State.isReady
      split
      · rfl
      · rename_i j s here
        rcases rests with gone | inactive
        · cases socket.symm.trans gone
        · refine if_neg fun active => inactive j s here ?_
          exact JsSession.state_of_active active
  exact ⟨none, (canSend_cases c now).2 none⟩

/-- A message is sealed or queued. -/
theorem send_cases (c : State) (message : Bytes) (queued : Bool) (now : ℚ) :
    (∃ i, (c.canSend now).1 = some i ∧ c.send message queued now = { (c.canSend now).2 with
      sends := (c.canSend now).2.sends ++ [⟨message, queued, .waiting i⟩] }) ∨
    ((c.canSend now).2.Rests ∧ c.send message queued now = { (c.canSend now).2 with
      pendingQueue := (c.canSend now).2.pendingQueue ++ [message] }) := by
  have rests := (canSend_cases c now).2
  unfold State.send
  split
  · rename_i c' same
    rw [same] at rests ⊢
    exact .inr ⟨rests rfl, rfl⟩
  · rename_i i c' same
    rw [same]
    exact .inl ⟨i, rfl, rfl⟩

theorem flushLoop_of_rests (clock : ℕ → ℚ) (fuel : ℕ) (rests : c.Rests) :
    (State.flushLoop clock fuel c).Rests := by
  cases fuel with
  | zero => exact rests
  | succ fuel =>
      unfold State.flushLoop
      split
      · exact rests
      · obtain ⟨none, still⟩ := canSend_of_rests rests (clock (2 * fuel + 1))
        split
        · rename_i c' same
          rwa [same] at still
        · rename_i same
          rw [same] at none
          cases none

theorem flushLoop_rests (clock : ℕ → ℚ) {fuel : ℕ} (enough : c.pendingQueue.length < fuel) :
    (State.flushLoop clock fuel c).pendingQueue = [] ∨ (State.flushLoop clock fuel c).Rests := by
  induction fuel generalizing c with
  | zero => exact absurd enough (Nat.not_lt_zero _)
  | succ fuel ih =>
      obtain ⟨⟨ss, same, -⟩, rests⟩ := canSend_cases c (clock (2 * fuel + 1))
      unfold State.flushLoop
      split
      · rename_i empty
        exact .inl empty
      · rename_i message rest queue
        rw [queue, List.length_cons] at enough
        split
        · rename_i c' found
          rw [found] at rests
          exact .inr (rests rfl)
        · rename_i j c' found
          rw [found] at same
          -- The second look at the session may find that it has expired.
          generalize shifted : { c' with pendingQueue := rest } = c''
          rcases send_cases c'' message true (clock (2 * fuel)) with ⟨i, -, sent⟩ | ⟨idle, kept⟩
          · obtain ⟨⟨ts, again, -⟩, -⟩ := canSend_cases c'' (clock (2 * fuel))
            refine ih ?_
            rw [sent, again, ← shifted]
            exact Nat.lt_of_succ_lt_succ enough
          · refine .inr (flushLoop_of_rests clock fuel ?_)
            rw [kept]
            exact idle

/-- A flush ends with an empty queue, or because nothing can be sent. -/
theorem flushQueue_rests (c : State) (clock : ℕ → ℚ) :
    (c.flushQueue clock).pendingQueue = [] ∨ (c.flushQueue clock).Rests :=
  flushLoop_rests clock (Nat.lt_succ_self _)

end Flush

end UXSPReconnectingWebSocket

end Uxsp
