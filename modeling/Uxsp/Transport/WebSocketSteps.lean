import Uxsp.Core.HandshakeErrors
import Uxsp.Core.SessionWipe
import Uxsp.Transport.WebSocket

/-!
# What the calls of a socket do

A socket's sessions are shared: a handshake refers to one, and so may the user of the socket and
other sockets.  `Step` is a call of the socket, or a use of what it shares by someone else.
`Effect` lists what a step can do to the socket, and the invariants are proved from that list.

* `Run.origin`: where the session of a socket comes from.
* `carries_established`: only such a session encrypts, decrypts and makes the socket ready.
-/

namespace Uxsp

/-! ## Sessions over time -/

namespace Session

variable {P : Platform} {s t u : Session} {now after : ℚ}

/-- Calls have led from one state of a session object to another. -/
def Later (P : Platform) (s t : Session) : Prop := ∃ ops : List Op, t = ops.foldl (apply P) s

theorem Later.refl (s : Session) : Later P s s := ⟨[], rfl⟩

theorem Later.trans (first : Later P s t) (second : Later P t u) : Later P s u := by
  obtain ⟨ops, rfl⟩ := first
  obtain ⟨more, rfl⟩ := second
  exact ⟨ops ++ more, (List.foldl_append ..).symm⟩

theorem isActive_eq (s : Session) (now : ℚ) :
    s.isActive now = (decide (s.ActiveAt now), s.evaluateExpiry now) := by
  have same : ((s.evaluateExpiry now).state = .active) = s.ActiveAt now :=
    propext stateAt_eq_active
  simp only [isActive, same]

/-- What calls leave alone, whatever they are. -/
structure SamePeers (s t : Session) : Prop where
  sessionId : t.sessionId = s.sessionId
  localId : t.localId = s.localId
  remoteId : t.remoteId = s.remoteId
  config : t.config = s.config
  createdAt : t.createdAt = s.createdAt

theorem SameChannel.samePeers (same : SameChannel s t) : SamePeers s t :=
  ⟨same.sessionId, same.localId, same.remoteId, same.config, same.createdAt⟩

theorem activate_cases (s : Session) : apply P s .activate = s ∨
    s.state = .pending ∧ apply P s .activate = { s with state := .active } := by
  cases out : s.activate with
  | error e => exact Or.inl (by simp only [apply, out])
  | ok s' =>
      obtain ⟨pending, rfl⟩ := activate_eq_ok.mp out
      exact Or.inr ⟨pending, by simp only [apply, out]⟩

/-- A call revokes the session or leaves its channel alone. -/
theorem apply_sameChannel (s : Session) (op : Op) :
    op = .revoke ∧ apply P s op = s.revoke ∨ SameChannel s (apply P s op) := by
  cases op with
  | activate =>
      right
      rcases activate_cases (P := P) s with same | ⟨-, same⟩ <;> rw [same]
      · exact .refl s
      · constructor <;> rfl
  | encrypt plaintext nonce now after =>
      exact Or.inr (encrypt_step P s plaintext nonce now after).sameChannel
  | decrypt payload now after => exact Or.inr (decrypt_step P s payload now after).sameChannel
  | checkExpiry now => exact Or.inr (.evaluateExpiry s now)
  | revoke => exact Or.inl ⟨rfl, rfl⟩

theorem Later.samePeers (later : Later P s t) : SamePeers s t := by
  obtain ⟨ops, rfl⟩ := later
  induction ops generalizing s with
  | nil => constructor <;> rfl
  | cons op ops ih =>
      have rest := ih (s := apply P s op)
      have first : SamePeers s (apply P s op) := by
        rcases apply_sameChannel (P := P) s op with ⟨-, revoked⟩ | same
        · rw [revoked]
          constructor <;> rfl
        · exact same.samePeers
      exact ⟨rest.sessionId.trans first.sessionId, rest.localId.trans first.localId,
        rest.remoteId.trans first.remoteId, rest.config.trans first.config,
        rest.createdAt.trans first.createdAt⟩

/-- The session was revoked when it was `s`. -/
structure Dead (s t : Session) : Prop where
  state : t.state = .revoked
  sendKey : t.sendKey = zeroize s.sendKey
  recvKey : t.recvKey = zeroize s.recvKey

theorem revoke_dead (s : Session) : Dead s s.revoke := ⟨rfl, rfl, rfl⟩

theorem evaluateExpiry_revoked (revoked : s.state = .revoked) :
    (s.evaluateExpiry now).state = .revoked := by
  have other : s.state ≠ .active := by
    rw [revoked]
    exact nofun
  exact (stateAt_of_not_active other).trans revoked

theorem not_activeAt_of_revoked (revoked : s.state = .revoked) : ¬ s.ActiveAt now := by
  intro active
  have state := active.1
  rw [revoked] at state
  cases state

theorem apply_revoked (op : Op) (revoked : s.state = .revoked) :
    (apply P s op).state = .revoked := by
  cases op with
  | activate =>
      rcases activate_cases (P := P) s with same | ⟨pending, -⟩
      · rw [same, revoked]
      · rw [revoked] at pending
        cases pending
  | encrypt plaintext nonce now after =>
      have step := encrypt_step P s plaintext nonce now after
      change (encrypt P s plaintext nonce now after).2.state = .revoked
      generalize (encrypt P s plaintext nonce now after).1 = r,
        (encrypt P s plaintext nonce now after).2 = t at step
      cases step with
      | inactive => exact evaluateExpiry_revoked revoked
      | burnt active | sent active => exact absurd active (not_activeAt_of_revoked revoked)
  | decrypt payload now after =>
      have step := decrypt_step P s payload now after
      change (decrypt P s payload now after).2.state = .revoked
      generalize (decrypt P s payload now after).1 = r,
        (decrypt P s payload now after).2 = t at step
      cases step with
      | malformed => exact revoked
      | inactive => exact evaluateExpiry_revoked revoked
      | refused _ active | unprintable _ active | unauthentic _ active | delivered _ active =>
          exact absurd active (not_activeAt_of_revoked revoked)
  | checkExpiry now => exact evaluateExpiry_revoked revoked
  | revoke => rfl

theorem Dead.later (dead : Dead s t) (later : Later P t u) : Dead s u := by
  obtain ⟨ops, rfl⟩ := later
  induction ops generalizing t with
  | nil => exact dead
  | cons op ops ih =>
      apply ih
      refine ⟨apply_revoked op dead.state, ?_, ?_⟩ <;>
        rcases apply_sameChannel (P := P) t op with ⟨-, revoked⟩ | same
      · rw [revoked, revoke, dead.sendKey, zeroize_zeroize]
      · exact same.sendKey.trans dead.sendKey
      · rw [revoked, revoke, dead.recvKey, zeroize_zeroize]
      · exact same.recvKey.trans dead.recvKey

end Session

/-! ## Steps -/

namespace UXSPWebSocket

variable {P : Platform} {S : NonceStore}

/-- The calls of a socket, and what others do to the objects that it shares. -/
inductive Call (P : Platform) (S : NonceStore)
  | startHandshake (uuid : Uuid4) (now stamp : ℚ) (coins : MessageCoins)
  | completeHandshake (frame : UXSPFrame) (now after stamp : ℚ)
  | startResume (nonce : Urandom 16) (now stamp : ℚ)
  | completeResume (frame : UXSPFrame) (now : ℚ)
  | handleHello (frame : UXSPFrame) (initiatorCard : PublicCard) (limited : Except PyErr Unit)
      (now after stamp : ℚ) (coins : MessageCoins)
  | handleComplete (frame : UXSPFrame)
  | handleResume (frame : UXSPFrame) (session : Option SessionRef) (nonce : Urandom 16)
      (now stamp : ℚ)
  | encode (plaintext : Bytes) (nonce : Urandom NONCE_SIZE) (now after stamp : ℚ)
  | decode (frame : UXSPFrame) (now after : ℚ)
  | ping (nonce : Urandom NONCE_SIZE) (ts now after stamp : ℚ)
  | pong (frame : UXSPFrame) (nonce : Urandom NONCE_SIZE) (opening opened now after stamp : ℚ)
  | close (reason : Str) (nonce : Urandom NONCE_SIZE) (now after stamp : ℚ)
  | handleClose (frame : UXSPFrame) (now after : ℚ)
  | isReady (now : ℚ)
  /-- A holder of a session calls one of its methods. -/
  | outside (r : SessionRef) (op : Session.Op)
  /-- A session is made elsewhere. -/
  | made (s : Session)
  /-- The nonce store is used elsewhere. -/
  | stored (store : S.State)

/-- What a call returns. -/
inductive Outcome
  | frame (r : Except PyErr UXSPFrame)
  | done (r : Except PyErr Unit)
  | data (r : Except PyErr Bytes)
  | reason (r : Except PyErr Str)
  | ready (b : Bool)
  | silent

/-- The socket after a call, and what the call returns. -/
def apply (w : UXSPWebSocket P S) : Call P S → Outcome × UXSPWebSocket P S
  | .startHandshake uuid now stamp coins => (w.startHandshake uuid now stamp coins).map .frame id
  | .completeHandshake frame now after stamp =>
      (w.completeHandshake frame now after stamp).map .frame id
  | .startResume nonce now stamp => (w.startResume nonce now stamp).map .frame id
  | .completeResume frame now => (w.completeResume frame now).map .done id
  | .handleHello frame card limited now after stamp coins =>
      (w.handleHello frame card limited now after stamp coins).map .frame id
  | .handleComplete frame => (w.handleComplete frame).map .done id
  | .handleResume frame session nonce now stamp =>
      (w.handleResume frame session nonce now stamp).map .frame id
  | .encode plaintext nonce now after stamp =>
      (w.encode plaintext nonce now after stamp).map .frame id
  | .decode frame now after => (w.decode frame now after).map .data id
  | .ping nonce ts now after stamp => (w.ping nonce ts now after stamp).map .frame id
  | .pong frame nonce opening opened now after stamp =>
      (w.pong frame nonce opening opened now after stamp).map .frame id
  | .close reason nonce now after stamp => (w.close reason nonce now after stamp).map .frame id
  | .handleClose frame now after => (w.handleClose frame now after).map .reason id
  | .isReady now => (w.isReady now).map .ready id
  | .outside r op => (.silent, w.put r (Session.apply P (w.sessions r) op))
  | .made s => (.silent, w.alloc s)
  | .stored store => (.silent, { w with nonceStore := store })

/-- A call names sessions that exist. -/
def Call.Known (w : UXSPWebSocket P S) : Call P S → Prop
  | .handleResume _ session _ _ _ => ∀ r ∈ session, r < w.fresh
  | .outside r _ => r < w.fresh
  | _ => True

/-- A call and what it returns. -/
abbrev Event (P : Platform) (S : NonceStore) := Call P S × Outcome

def Step (w : UXSPWebSocket P S) (e : Event P S) (w' : UXSPWebSocket P S) : Prop :=
  e.1.Known w ∧ w.apply e.1 = (e.2, w')

/-- A RESUME or RESUME_ACK frame is for the session and carries the peer's tag. -/
structure Tagged (P : Platform) (label : String) (s : Session) (payload : Dict) : Prop where
  sessionId : payload.get? "session_id" = some (.str s.sessionId)
  tag : ∃ msg, resumeText P.toRuntime label s.sessionId
      ((payload.get? "last_seq").getD (.int 0)) ((payload.get? "nonce").getD (.str "")) = .ok msg ∧
    (payload.get? "auth_tag").getD (.str "") = .str (s.computeAuthTag P msg .recv)

/-- A call brings a session about: the socket has verified a HELLO, or the ACK to its own. -/
inductive Makes (w : UXSPWebSocket P S) : Call P S → SessionRef → Session → Prop
  | answered {frame : UXSPFrame} {card : PublicCard} {limited : Except PyErr Unit}
      {now after stamp : ℚ} {coins : MessageCoins} {ack : Dict} {s : Session} {sid : Str}
      {b secretA : Bytes} {exchange : ExchangeResult} {version : Str} {c final : Bytes} :
      w.hs = none → frame.type = .handshakeHello →
      Handshake.Responds P w.identity frame.payload card w.config now after ack s sid b secretA
        exchange version c final →
      Makes w (.handleHello frame card limited now after stamp coins) w.fresh s
  | completed {frame : UXSPFrame} {now after stamp : ℚ} {card : PublicCard}
      {hs : Handshake P SessionRef} {pending : Handshake.Pending P} {s : Session}
      {c secretB final : Bytes} :
      w.hs = some hs → hs.pending = .ok pending → w.remoteCard = some card →
      frame.type = .handshakeAck →
      Handshake.Completes P pending frame.payload card now after s c secretB final →
      Makes w (.completeHandshake frame now after stamp) w.fresh s

/-- A call makes a session that exists the socket's own. -/
inductive Installs (w : UXSPWebSocket P S) : Call P S → SessionRef → Prop
  | confirmed {frame : UXSPFrame} {hs : Handshake P SessionRef} {r : SessionRef} :
      w.session = none → w.hs = some hs → hs.session = some r →
      frame.type = .handshakeComplete →
      frame.payload.get? "session_id" = some (.str (w.sessions r).sessionId) →
      Installs w (.handleComplete frame) r
  | resumed {frame : UXSPFrame} {session : Option SessionRef} {nonce : Urandom 16}
      {now stamp : ℚ} {r : SessionRef} :
      session.or w.session = some r → frame.type = .resume → (w.sessions r).ActiveAt now →
      Tagged P "RESUME" (w.sessions r) frame.payload →
      Installs w (.handleResume frame session nonce now stamp) r

/-- What a step can do to a socket. -/
inductive Effect (w : UXSPWebSocket P S) : Call P S → UXSPWebSocket P S → Prop
  | stored {c : Call P S} (store : S.State) : Effect w c { w with nonceStore := store }
  | used {c : Call P S} {r : SessionRef} {s : Session} :
      Session.Later P (w.sessions r) s → Effect w c (w.put r s)
  | started {c : Call P S} {hs : Handshake P SessionRef} :
      hs.session = none → Effect w c { w with hs := some hs }
  | completed {c : Call P S} {s : Session} (hs : Handshake P SessionRef) (store : S.State) :
      Makes w c w.fresh s → Effect w c (w.established hs store s)
  | answered {c : Call P S} {s : Session} (hello ack : Dict) (card : PublicCard)
      (store : S.State) :
      Makes w c w.fresh s → Effect w c (w.answered hello card store ack s)
  | installed {c : Call P S} {r : SessionRef} {s : Session} :
      Session.Later P (w.sessions r) s → r < w.fresh → Installs w c r →
      Effect w c { w.put r s with session := some r }
  | torn {c : Call P S} {r : SessionRef} {s : Session} :
      Session.Later P (w.sessions r) s → w.session = some r →
      Effect w c { w.put r s with session := none }
  | made {c : Call P S} (s : Session) : Effect w c (w.alloc s)

theorem Effect.kept {w : UXSPWebSocket P S} {c : Call P S} : Effect w c w := .stored w.nonceStore

/-- The sessions that a socket refers to exist. -/
structure Sound (w : UXSPWebSocket P S) : Prop where
  session : ∀ r ∈ w.session, r < w.fresh
  hs : ∀ hs ∈ w.hs, ∀ r ∈ hs.session, r < w.fresh

/-! ## Calls on the socket's own session -/

variable {w w' : UXSPWebSocket P S} {c : Call P S}

@[simp] theorem put_self (r : SessionRef) : w.put r (w.sessions r) = w := by
  simp only [put, Function.update_eq_self]

@[simp] theorem put_put (r : SessionRef) (s t : Session) : (w.put r s).put r t = w.put r t := by
  simp only [put, Function.update_idem]

@[simp] theorem put_sessions_self (r : SessionRef) (s : Session) :
    (w.put r s).sessions r = s := Function.update_self ..

theorem put_sessions_of_ne {r q : SessionRef} (s : Session) (ne : q ≠ r) :
    (w.put r s).sessions q = w.sessions q := Function.update_of_ne ne ..

/-- Nothing but the socket's session has moved. -/
def Used (w w' : UXSPWebSocket P S) : Prop :=
  w' = w ∨ ∃ r s, w.session = some r ∧ Session.Later P (w.sessions r) s ∧ w' = w.put r s

theorem Used.refl (w : UXSPWebSocket P S) : Used w w := Or.inl rfl

theorem Used.apply {r : SessionRef} (own : w.session = some r) (op : Session.Op) :
    Used w (w.put r (Session.apply P (w.sessions r) op)) :=
  Or.inr ⟨r, _, own, ⟨[op], rfl⟩, rfl⟩

theorem Used.trans {w'' : UXSPWebSocket P S} (first : Used w w') (second : Used w' w'') :
    Used w w'' := by
  rcases first with rfl | ⟨r, s, own, later, rfl⟩
  · exact second
  · rcases second with rfl | ⟨r', s', own', later', rfl⟩
    · exact Or.inr ⟨r, s, own, later, rfl⟩
    · cases own.symm.trans own'
      rw [put_sessions_self] at later'
      exact Or.inr ⟨r, s', own, later.trans later', put_put r s s'⟩

theorem Used.effect (used : Used w w') : Effect w c w' := by
  rcases used with rfl | ⟨r, s, -, later, rfl⟩
  · exact .kept
  · exact .used later

theorem Used.session (used : Used w w') : w'.session = w.session := by
  rcases used with rfl | ⟨r, s, -, -, rfl⟩ <;> rfl

theorem tearDown_put {r : SessionRef} (own : w.session = some r) (s : Session) :
    (w.put r s).tearDown = { w.put r s.revoke with session := none } := by
  rw [tearDown]
  simp only [put, own, Function.update_self, Function.update_idem]

theorem Used.tearDown (used : Used w w') : Effect w c w'.tearDown := by
  cases own : w.session with
  | none =>
      have same := used.session
      rw [own] at same
      rw [UXSPWebSocket.tearDown, same]
      exact used.effect
  | some r =>
      rcases used with rfl | ⟨r', s, own', later, rfl⟩
      · have torn := tearDown_put own (w'.sessions r)
        rw [put_self] at torn
        rw [torn]
        exact .torn ⟨[.revoke], rfl⟩ own
      · rw [tearDown_put own']
        exact .torn (later.trans ⟨[.revoke], rfl⟩) own'

theorem encrypted_used {r : SessionRef} (own : w.session = some r) (type : FrameType)
    (plaintext : Bytes) (nonce : Urandom NONCE_SIZE) (now after stamp : ℚ) :
    Used w (w.encrypted type r plaintext nonce now after stamp).2 :=
  .apply own (.encrypt plaintext nonce now after)

theorem encode_used (plaintext : Bytes) (nonce : Urandom NONCE_SIZE) (now after stamp : ℚ) :
    Used w (w.encode plaintext nonce now after stamp).2 := by
  unfold encode
  split
  · exact .refl w
  · rename_i r own
    exact encrypted_used own ..

theorem decode_used (frame : UXSPFrame) (now after : ℚ) : Used w (w.decode frame now after).2 := by
  unfold decode
  split
  · exact .refl w
  · rename_i r own
    split
    · exact .refl w
    · exact .apply own (.decrypt frame.payload now after)

theorem control_used (type : FrameType) (payload : Dict) (nonce : Urandom NONCE_SIZE)
    (now after stamp : ℚ) : Used w (w.control type payload nonce now after stamp).2 := by
  unfold control
  split
  · exact .refl w
  · rename_i r own
    split
    · exact .refl w
    · exact encrypted_used own ..

theorem pingData_used (frame : UXSPFrame) (now after : ℚ) :
    Used w (w.pingData frame now after).2 := by
  unfold pingData
  split
  · exact .refl w
  · rename_i r own
    split
    · exact .apply own (.decrypt frame.payload now after)
    · exact .refl w

theorem pong_used (frame : UXSPFrame) (nonce : Urandom NONCE_SIZE)
    (opening opened now after stamp : ℚ) :
    Used w (w.pong frame nonce opening opened now after stamp).2 := by
  have read := pingData_used (w := w) frame opening opened
  unfold pong
  generalize w.pingData frame opening opened = out at read
  rcases out with ⟨data, w'⟩
  simp only at read ⊢
  split
  · exact read
  · exact read.trans (control_used ..)

theorem isActive_used {r : SessionRef} (own : w.session = some r) (now : ℚ) :
    Used w (w.put r ((w.sessions r).isActive now).2) :=
  .apply own (.checkExpiry now)

theorem isReady_used (now : ℚ) : Used w (w.isReady now).2 := by
  unfold isReady
  split
  · exact .refl w
  · rename_i r own
    exact isActive_used own now

theorem startResume_used (nonce : Urandom 16) (now stamp : ℚ) :
    Used w (w.startResume nonce now stamp).2 := by
  unfold startResume
  split
  · exact .refl w
  · rename_i r own
    have used := isActive_used own now
    split <;> rename_i active <;> rw [active] at used <;> exact used

theorem completeResume_used (frame : UXSPFrame) (now : ℚ) :
    Used w (w.completeResume frame now).2 := by
  unfold completeResume
  split
  · exact .refl w
  · rename_i r own
    have used := isActive_used own now
    split <;> rename_i active <;> rw [active] at used <;> exact used

end UXSPWebSocket

namespace Handshake

variable {P : Platform} {ρ : Type}

theorem initiate_session {initiator : Identity P} {card : PublicCard}
    {config : Option SessionConfig} {uuid : Uuid4} {now : ℚ} {coins : MessageCoins}
    {hs : Handshake P ρ} (began : initiate P initiator card config uuid now coins = .ok hs) :
    hs.session = none := by
  simp only [initiate, bind_eq_ok, pure_eq_ok] at began
  obtain ⟨made, -, rfl⟩ := began
  rfl

theorem pending_of_completeSession {S : NonceStore} {store store' : S.State}
    {hs : Handshake P ρ} {ack : Dict} {card : PublicCard} {now after : ℚ} {s : Session}
    (ok : completeSession P S store hs ack card now after = (.ok s, store')) :
    ∃ pending, hs.pending = .ok pending := by
  cases waits : hs.pending with
  | ok pending => exact ⟨pending, rfl⟩
  | error e =>
      simp only [completeSession, waits] at ok
      cases ok

theorem sessionRef_eq_ok {hs : Handshake P SessionRef} {r : SessionRef} :
    hs.sessionRef = .ok r ↔ hs.session = some r := by
  unfold sessionRef
  split
  · rename_i q own
    rw [own, Except.ok.injEq, Option.some.injEq]
  · rename_i none
    rw [none]
    exact iff_of_false (fun same => by cases same) (fun same => by cases same)

end Handshake

namespace UXSPWebSocket

variable {P : Platform} {S : NonceStore} {w w' : UXSPWebSocket P S} {c : Call P S}

/-! ## Handshake and resumption -/

theorem startHandshake_effect (uuid : Uuid4) (now stamp : ℚ) (coins : MessageCoins) :
    Effect w c (w.startHandshake uuid now stamp coins).2 := by
  unfold startHandshake
  split
  · exact .kept
  · split
    · exact .kept
    · rename_i began
      exact .started (Handshake.initiate_session began)

theorem completeHandshake_effect (frame : UXSPFrame) (now after stamp : ℚ) :
    Effect w (.completeHandshake frame now after stamp)
      (w.completeHandshake frame now after stamp).2 := by
  unfold completeHandshake
  split
  · rename_i hs card own other
    split
    · exact .kept
    · rename_i type
      split
      · exact .stored _
      · rename_i s store completed
        obtain ⟨pending, waits⟩ := Handshake.pending_of_completeSession completed
        obtain ⟨b, secretB, final, completes, -⟩ :=
          Handshake.completeSession_completes waits completed
        exact .completed hs store (.completed own waits other (not_not.mp type) completes)
  · exact .kept

theorem handleHello_effect (frame : UXSPFrame) (card : PublicCard) (limited : Except PyErr Unit)
    (now after stamp : ℚ) (coins : MessageCoins) :
    Effect w (.handleHello frame card limited now after stamp coins)
      (w.handleHello frame card limited now after stamp coins).2 := by
  unfold handleHello
  split
  · exact .kept
  · rename_i new
    split
    · exact .kept
    · rename_i type
      split
      · exact .kept
      · split
        · exact .stored _
        · rename_i ack s store answered
          obtain ⟨sid, b, secretA, exchange, version, d, final, responds, -⟩ :=
            Handshake.respondSession_responds answered
          exact .answered frame.payload ack card store
            (.answered (Option.not_isSome_iff_eq_none.mp new) (not_not.mp type) responds)

theorem confirmed_eq_ok {frame : UXSPFrame} {r : SessionRef} (ok : w.confirmed frame = .ok r) :
    ∃ hs, w.session = none ∧ w.hs = some hs ∧ hs.session = some r ∧
      frame.type = .handshakeComplete ∧
      frame.payload.get? "session_id" = some (.str (w.sessions r).sessionId) := by
  unfold confirmed at ok
  split at ok
  · cases ok
  · rename_i hs own
    simp only [bind_eq_ok, ensure_eq_ok, decide_eq_true_eq, Option.isNone_iff_eq_none,
      Val.eqStr_eq_true, pure_eq_ok, Handshake.sessionRef_eq_ok] at ok
    obtain ⟨-, type, -, free, q, made, -, same, rfl⟩ := ok
    exact ⟨hs, free, own, made, type, same⟩

theorem handleComplete_effect (sound : w.Sound) (frame : UXSPFrame) :
    Effect w (.handleComplete frame) (w.handleComplete frame).2 := by
  unfold handleComplete
  split
  · exact .kept
  · rename_i r confirmed
    obtain ⟨hs, free, own, made, type, same⟩ := confirmed_eq_ok confirmed
    have effect : Effect w (.handleComplete frame)
        { w.put r (w.sessions r) with session := some r } :=
      .installed (.refl _) (sound.hs hs own r made) (.confirmed free own made type same)
    rwa [put_self] at effect

theorem resumeVerified_eq_true {label : String} {s : Session} {payload : Dict} :
    resumeVerified P label s payload = .ok true ↔
      ∃ msg, resumeText P.toRuntime label s.sessionId
          ((payload.get? "last_seq").getD (.int 0)) ((payload.get? "nonce").getD (.str "")) =
            .ok msg ∧
        (payload.get? "auth_tag").getD (.str "") = .str (s.computeAuthTag P msg .recv) := by
  simp only [resumeVerified, bind_eq_ok, Session.verifyAuthTag]
  refine exists_congr fun msg => and_congr_right fun _ => ?_
  refine ⟨fun same => (Handshake.compareDigest_eq_true.mp same).1, fun same => ?_⟩
  rw [same]
  exact Handshake.compareDigest_hex _

theorem resumeChecked_eq_ok {frame : UXSPFrame} {s : Session} :
    resumeChecked P frame s = .ok () ↔ Tagged P "RESUME" s frame.payload := by
  simp only [resumeChecked, bind_eq_ok, ensure_eq_ok, Val.eqStr_eq_true]
  constructor
  · intro ok
    obtain ⟨-, same, verified, checked, rfl⟩ := ok
    exact ⟨same, resumeVerified_eq_true.mp checked⟩
  · intro tagged
    exact ⟨(), tagged.sessionId, true, resumeVerified_eq_true.mpr tagged.tag, rfl⟩

/-- A RESUME with the peer's tag makes the session the socket's own, and is answered. -/
theorem handleResume_of_tagged {frame : UXSPFrame} (session : Option SessionRef)
    {r : SessionRef} (nonce : Urandom 16) {now : ℚ} (stamp : ℚ) (type : frame.type = .resume)
    (chosen : session.or w.session = some r) (active : (w.sessions r).ActiveAt now)
    (tagged : Tagged P "RESUME" (w.sessions r) frame.payload) :
    w.handleResume frame session nonce now stamp =
      ((resumePayload P "RESUME_ACK" (w.sessions r) nonce).map
        (UXSPFrame.build .resumeAck · stamp), { w with session := some r }) := by
  simp only [handleResume, type, ne_eq, not_true_eq_false, if_false, chosen, Session.isActive_eq,
    active, decide_true, Session.evaluateExpiry_of_active active, resumeChecked_eq_ok.mpr tagged,
    put_self]

theorem handleResume_effect (sound : w.Sound) (frame : UXSPFrame) (session : Option SessionRef)
    (known : ∀ r ∈ session, r < w.fresh) (nonce : Urandom 16) (now stamp : ℚ) :
    Effect w (.handleResume frame session nonce now stamp)
      (w.handleResume frame session nonce now stamp).2 := by
  unfold handleResume
  split
  · exact .kept
  · rename_i type
    split
    · exact .kept
    · rename_i r chosen
      rw [Session.isActive_eq]
      have later : Session.Later P (w.sessions r) ((w.sessions r).evaluateExpiry now) :=
        ⟨[.checkExpiry now], rfl⟩
      by_cases active : (w.sessions r).ActiveAt now
      · rw [decide_eq_true active, Session.evaluateExpiry_of_active active]
        simp only
        split
        · rw [put_self]
          exact .kept
        · rename_i checked
          have exists_ : r < w.fresh := by
            rcases Option.or_eq_some_iff.mp chosen with given | ⟨-, own⟩
            · exact known r given
            · exact sound.session r own
          exact .installed (.refl _) exists_
            (.resumed chosen (not_not.mp type) active (resumeChecked_eq_ok.mp checked))
      · rw [decide_eq_false active]
        exact .used later

theorem close_effect (reason : Str) (nonce : Urandom NONCE_SIZE) (now after stamp : ℚ) :
    Effect w c (w.close reason nonce now after stamp).2 := by
  have used := control_used (w := w) .close [("reason", .str reason)] nonce now after stamp
  unfold close
  generalize w.control .close [("reason", .str reason)] nonce now after stamp = out at used
  rcases out with ⟨r | frame, w'⟩
  · exact used.effect
  · exact used.tearDown

theorem handleClose_effect (frame : UXSPFrame) (now after : ℚ) :
    Effect w c (w.handleClose frame now after).2 := by
  unfold handleClose
  split
  · exact .kept
  · split
    · exact .kept
    · rename_i r own
      have used : Used w (w.put r (Session.decrypt P (w.sessions r) frame.payload now after).2) :=
        .apply own (.decrypt frame.payload now after)
      generalize Session.decrypt P (w.sessions r) frame.payload now after = out at used
      rcases out with ⟨raw, s⟩
      simp only at used ⊢
      split
      · exact used.effect
      · exact used.tearDown

/-- Every step has one of the listed effects. -/
theorem apply_effect (sound : w.Sound) (known : c.Known w) : Effect w c (w.apply c).2 := by
  cases c with
  | startHandshake => exact startHandshake_effect ..
  | completeHandshake => exact completeHandshake_effect ..
  | startResume => exact (startResume_used ..).effect
  | completeResume => exact (completeResume_used ..).effect
  | handleHello => exact handleHello_effect ..
  | handleComplete => exact handleComplete_effect sound _
  | handleResume => exact handleResume_effect sound _ _ known ..
  | encode => exact (encode_used ..).effect
  | decode => exact (decode_used ..).effect
  | ping => exact (control_used ..).effect
  | pong => exact (pong_used ..).effect
  | close => exact close_effect ..
  | handleClose => exact handleClose_effect ..
  | isReady => exact (isReady_used ..).effect
  | outside r op => exact .used ⟨[op], rfl⟩
  | made s => exact .made s
  | stored store => exact .stored store

end UXSPWebSocket

namespace UXSPWebSocket

variable {P : Platform} {S : NonceStore} {w w' start : UXSPWebSocket P S} {c : Call P S}
  {e : Event P S} {es : List (Event P S)} {r : SessionRef}

/-! ## What every step keeps -/

theorem Effect.fresh_le (effect : Effect w c w') : w.fresh ≤ w'.fresh := by
  cases effect with
  | stored | used | started | installed | torn => exact le_rfl
  | completed | answered | made => exact Nat.le_succ _

/-- The session objects are changed by calls of their own methods only. -/
theorem Effect.sessions (effect : Effect w c w') (known : r < w.fresh) :
    Session.Later P (w.sessions r) (w'.sessions r) := by
  have put (q : SessionRef) (s : Session) (later : Session.Later P (w.sessions q) s) :
      Session.Later P (w.sessions r) ((w.put q s).sessions r) := by
    rcases eq_or_ne r q with rfl | ne
    · rwa [put_sessions_self]
    · rw [put_sessions_of_ne s ne]
      exact .refl _
  have alloc (s : Session) : Session.Later P (w.sessions r) ((w.alloc s).sessions r) := by
    rw [UXSPWebSocket.alloc, put_sessions_of_ne s known.ne]
    exact .refl _
  cases effect with
  | stored | started => exact .refl _
  | used later => exact put _ _ later
  | installed later => exact put _ _ later
  | torn later => exact put _ _ later
  | completed | answered | made => exact alloc _

/-- A session becomes the socket's own by being made or by being installed. -/
theorem Effect.session (effect : Effect w c w') (own : w'.session = some r) :
    w.session = some r ∨ Makes w c r (w'.sessions r) ∨ Installs w c r := by
  cases effect with
  | stored | used | started | answered | made => exact Or.inl own
  | completed hs store makes =>
      cases own
      rw [established, UXSPWebSocket.alloc, put_sessions_self]
      exact Or.inr (Or.inl makes)
  | installed later known installs =>
      cases own
      exact Or.inr (Or.inr installs)
  | torn => cases own

/-- The handshake refers to a session that the socket has made. -/
theorem Effect.hs (effect : Effect w c w') {hs : Handshake P SessionRef} (own : w'.hs = some hs)
    (refers : hs.session = some r) :
    (∃ old, w.hs = some old ∧ old.session = some r) ∨ Makes w c r (w'.sessions r) := by
  cases effect with
  | stored | used | installed | torn | made => exact Or.inl ⟨hs, own, refers⟩
  | started none =>
      cases own
      rw [none] at refers
      cases refers
  | completed old store makes =>
      cases own
      cases refers
      rw [established, UXSPWebSocket.alloc, put_sessions_self]
      exact Or.inr makes
  | answered hello ack card store makes =>
      cases own
      cases refers
      rw [UXSPWebSocket.answered, UXSPWebSocket.alloc, put_sessions_self]
      exact Or.inr makes

theorem Makes.eq_fresh {s : Session} (makes : Makes w c r s) : r = w.fresh := by
  cases makes <;> rfl

theorem Effect.sound (effect : Effect w c w') (sound : w.Sound) : w'.Sound := by
  have later := effect.fresh_le
  cases effect with
  | stored | used | made =>
      exact ⟨fun r own => (sound.session r own).trans_le later,
        fun hs own r refers => (sound.hs hs own r refers).trans_le later⟩
  | started none =>
      refine ⟨sound.session, fun hs own r refers => ?_⟩
      cases own
      rw [Option.mem_def, none] at refers
      cases refers
  | completed old store makes =>
      refine ⟨fun r own => ?_, fun hs own r refers => ?_⟩
      · cases own
        exact Nat.lt_succ_self _
      · cases own
        cases refers
        exact Nat.lt_succ_self _
  | answered hello ack card store makes =>
      refine ⟨fun r own => (sound.session r own).trans_le later, fun hs own r refers => ?_⟩
      cases own
      cases refers
      exact Nat.lt_succ_self _
  | installed _ known =>
      refine ⟨fun r own => ?_, sound.hs⟩
      cases own
      exact known
  | torn =>
      refine ⟨fun r own => ?_, sound.hs⟩
      cases own

theorem Step.effect (step : Step w e w') (sound : w.Sound) : Effect w e.1 w' := by
  have effect := apply_effect sound step.1
  rwa [step.2] at effect

theorem Run.sound (run : Run Step w es w') (sound : w.Sound) : w'.Sound :=
  run.invariant (fun _ _ _ sound step => (step.effect sound).sound sound) sound

/-- Over a run, session objects stay where they are and change by their own methods only. -/
theorem Run.sessions (run : Run Step w es w') (sound : w.Sound) (known : r < w.fresh) :
    r < w'.fresh ∧ Session.Later P (w.sessions r) (w'.sessions r) := by
  have keep := run.invariant (I := fun x : UXSPWebSocket P S => x.Sound ∧ r < x.fresh ∧
    Session.Later P (w.sessions r) (x.sessions r)) ?_ ⟨sound, known, .refl _⟩
  · exact keep.2
  · intro x e y inv step
    have effect := step.effect inv.1
    exact ⟨effect.sound inv.1, inv.2.1.trans_le effect.fresh_le,
      inv.2.2.trans (effect.sessions inv.2.1)⟩

/-! ## Where a socket's session comes from -/

/-- A socket that has done nothing yet. -/
structure New (w : UXSPWebSocket P S) : Prop where
  session : w.session = none
  hs : w.hs = none

theorem New.sound (new : w.New) : w.Sound where
  session := by
    rw [new.session]
    intro r own
    cases own
  hs := by
    rw [new.hs]
    intro hs own
    cases own

/-- The session comes from a HELLO or an ACK that the socket has verified. -/
def FromHandshake (start : UXSPWebSocket P S) (es : List (Event P S)) (w : UXSPWebSocket P S)
    (r : SessionRef) : Prop :=
  ∃ front e rest x s, es = front ++ e :: rest ∧ Run Step start front x ∧ Makes x e.1 r s ∧
    Session.Later P s (w.sessions r)

/-- The session was active when a RESUME with the peer's tag came in for it. -/
def FromResume (start : UXSPWebSocket P S) (es : List (Event P S)) (r : SessionRef) : Prop :=
  ∃ front e rest x, es = front ++ e :: rest ∧ Run Step start front x ∧
    ∃ frame session nonce now stamp, e.1 = .handleResume frame session nonce now stamp ∧
      frame.type = .resume ∧ (x.sessions r).ActiveAt now ∧
      Tagged P "RESUME" (x.sessions r) frame.payload

/-- The session that the handshake of a socket refers to was made by the socket. -/
theorem Run.hs_origin (run : Run Step start es w) (new : start.New)
    {hs : Handshake P SessionRef} (own : w.hs = some hs) (refers : hs.session = some r) :
    FromHandshake start es w r := by
  have none : ¬ ∃ hs, start.hs = some hs ∧ hs.session = some r := by
    rw [new.hs]
    intro some
    obtain ⟨hs, same, -⟩ := some
    cases same
  obtain ⟨front, e, rest, x, y, rfl, reached, here, off, on, held⟩ :=
    run.since (p := fun z => ∃ hs, z.hs = some hs ∧ hs.session = some r) none ⟨hs, own, refers⟩
  have effect := here.effect (Run.sound reached new.sound)
  obtain ⟨hs', own', refers'⟩ := on
  rcases effect.hs own' refers' with old | makes
  · exact absurd old off
  · have sound := effect.sound (Run.sound reached new.sound)
    have known : r < y.fresh := sound.hs hs' own' r refers'
    exact ⟨front, e, rest, x, _, rfl, reached, makes,
      (Run.sessions (held.mono fun _ _ _ step => step.1) sound known).2⟩

theorem FromHandshake.append {rest : List (Event P S)} (origin : FromHandshake start es w r)
    (later : Session.Later P (w.sessions r) (w'.sessions r)) :
    FromHandshake start (es ++ rest) w' r := by
  obtain ⟨front, e, tail, x, s, rfl, reached, makes, before⟩ := origin
  exact ⟨front, e, tail ++ rest, x, s, by simp, reached, makes, before.trans later⟩

/-- The session of a socket was made by it in a verified handshake, or handed to it together with
a RESUME that verifies. -/
theorem Run.origin (run : Run Step start es w) (new : start.New) (own : w.session = some r) :
    FromHandshake start es w r ∨ FromResume start es r := by
  have none : start.session ≠ some r := by
    rw [new.session]
    intro same
    cases same
  obtain ⟨front, e, rest, x, y, rfl, reached, here, off, on, held⟩ :=
    run.since (p := fun z : UXSPWebSocket P S => z.session = some r) none own
  have before := Run.sound reached new.sound
  have effect := here.effect before
  have after := effect.sound before
  have later := (Run.sessions (held.mono fun _ _ _ step => step.1) after
    (after.session r on)).2
  rcases effect.session on with same | makes | installs
  · exact absurd same off
  · exact Or.inl ⟨front, e, rest, x, _, rfl, reached, makes, later⟩
  · generalize call : e.1 = c at installs
    cases installs with
    | confirmed free has refers type same =>
        have known := before.hs _ has r refers
        exact Or.inl ((Run.hs_origin reached new has refers).append
          ((effect.sessions known).trans later))
    | resumed chosen type active tagged =>
        exact Or.inr ⟨front, e, rest, x, rfl, reached, _, _, _, _, _, call, type, active, tagged⟩

/-! ## Readiness -/

/-- A call has used the session at a clock reading: data has gone out or come in, or the socket has
said that it is ready. -/
inductive Carries : Event P S → ℚ → Prop
  | encoded {plaintext : Bytes} {nonce : Urandom NONCE_SIZE} {now after stamp : ℚ}
      {frame : UXSPFrame} :
      Carries (.encode plaintext nonce now after stamp, .frame (.ok frame)) now
  | decoded {frame : UXSPFrame} {now after : ℚ} {plaintext : Bytes} :
      Carries (.decode frame now after, .data (.ok plaintext)) now
  | ready {now : ℚ} : Carries (.isReady now, .ready true) now

theorem encode_eq_ok {plaintext : Bytes} {nonce : Urandom NONCE_SIZE} {now after stamp : ℚ}
    {frame : UXSPFrame} (ok : w.encode plaintext nonce now after stamp = (.ok frame, w')) :
    ∃ r, w.session = some r ∧ (w.sessions r).ActiveAt now := by
  unfold encode at ok
  split at ok
  · cases ok
  · rename_i r own
    have step := Session.encrypt_step P (w.sessions r) plaintext nonce now after
    simp only [encrypted] at ok
    generalize Session.encrypt P (w.sessions r) plaintext nonce now after = out at step ok
    rcases out with ⟨payload, s⟩
    cases step with
    | inactive | burnt => cases ok
    | sent active => exact ⟨r, own, active⟩

theorem decode_eq_ok {frame : UXSPFrame} {now after : ℚ} {plaintext : Bytes}
    (ok : w.decode frame now after = (.ok plaintext, w')) :
    ∃ r, w.session = some r ∧ (w.sessions r).ActiveAt now := by
  unfold decode at ok
  split at ok
  · cases ok
  · rename_i r own
    split at ok
    · cases ok
    · have step := Session.decrypt_step P (w.sessions r) frame.payload now after
      simp only at ok
      generalize Session.decrypt P (w.sessions r) frame.payload now after = out at step ok
      rcases out with ⟨opened, s⟩
      cases step with
      | malformed | inactive | refused | unprintable | unauthentic => cases ok
      | delivered _ active => exact ⟨r, own, active⟩

theorem isReady_eq_true {now : ℚ} (ready : w.isReady now = (true, w')) :
    ∃ r, w.session = some r ∧ (w.sessions r).ActiveAt now := by
  unfold isReady at ready
  split at ready
  · cases ready
  · rename_i r own
    rw [Session.isActive_eq, Prod.mk.injEq, decide_eq_true_eq] at ready
    exact ⟨r, own, ready.1⟩

theorem Step.carries {now : ℚ} (step : Step w e w') (carries : Carries e now) :
    ∃ r, w.session = some r ∧ (w.sessions r).ActiveAt now := by
  have out := step.2
  cases carries with
  | @encoded plaintext nonce _ after stamp frame =>
      simp only [apply] at out
      generalize call : w.encode plaintext nonce now after stamp = result at out
      rcases result with ⟨r, x⟩
      cases out
      exact encode_eq_ok call
  | @decoded frame _ after plaintext =>
      simp only [apply] at out
      generalize call : w.decode frame now after = result at out
      rcases result with ⟨r, x⟩
      cases out
      exact decode_eq_ok call
  | ready =>
      simp only [apply] at out
      generalize call : w.isReady now = result at out
      rcases result with ⟨r, x⟩
      cases out
      exact isReady_eq_true call

/-- In every run of a socket, data goes out or comes in, and the socket is ready, only on a session
that is active and stems from a handshake it has verified or from a RESUME with the peer's tag. -/
theorem carries_established {now : ℚ} (run : Run Step start es w) (new : start.New)
    (step : Step w e w') (carries : Carries e now) :
    ∃ r, w.session = some r ∧ (w.sessions r).ActiveAt now ∧
      (FromHandshake start es w r ∨ FromResume start es r) := by
  obtain ⟨r, own, active⟩ := step.carries carries
  exact ⟨r, own, active, Run.origin run new own⟩

/-! A session that another socket has left behind, and a RESUME for it. -/

def sampleLeft : Session :=
  { Session.init .transparent "s" "bob" "alice" [] false .default 0 with state := .active }

theorem sampleLeft_active : sampleLeft.ActiveAt 0 :=
  ⟨rfl, by norm_num [sampleLeft, Session.init, SessionConfig.default], by decide⟩

def sampleTag : Str := sampleLeft.computeAuthTag .transparent (.lit "RESUME:s:0:") .recv

def sampleResume : UXSPFrame where
  type := .resume
  payload := [("session_id", .str "s"), ("last_seq", .int 0), ("nonce", .str ""),
    ("auth_tag", .str sampleTag)]
  timestamp := 0

theorem sampleResume_tagged : Tagged .transparent "RESUME" sampleLeft sampleResume.payload where
  sessionId := rfl
  tag := ⟨.lit "RESUME:s:0:", rfl, rfl⟩

def sampleSocket : UXSPWebSocket .transparent MemoryNonceStore.nonceStore :=
  asResponder (Network.sampleParties true) none MemoryNonceStore.empty
    (fun _ => sampleLeft) 1

theorem sampleSocket_new : sampleSocket.New := ⟨rfl, rfl⟩

def sampleResumeCall : Call .transparent MemoryNonceStore.nonceStore :=
  .handleResume sampleResume (some 0) (.filled 16 0) 0 0

theorem step_apply (known : c.Known w) : Step w (c, (w.apply c).1) (w.apply c).2 := ⟨known, rfl⟩

theorem sampleResume_step :
    ∃ o, Step sampleSocket (sampleResumeCall, o) { sampleSocket with session := some 0 } := by
  have out := handleResume_of_tagged (w := sampleSocket) (some 0) (.filled 16 0) 0 rfl rfl
    sampleLeft_active sampleResume_tagged
  refine ⟨(sampleSocket.apply sampleResumeCall).1, ?_, ?_⟩
  · intro r same
    cases same
    exact Nat.one_pos
  · simp only [apply, sampleResumeCall, out, Prod.map_apply, id_eq]

/-- Bob's socket is handed the session of a RESUME and is ready. -/
theorem sample_carries_established :
    ∃ es w, Run Step sampleSocket es w ∧ ∃ r, w.session = some r ∧ (w.sessions r).ActiveAt 0 ∧
      (FromHandshake sampleSocket es w r ∨ FromResume sampleSocket es r) := by
  obtain ⟨o, resumed⟩ := sampleResume_step
  have ready : Step { sampleSocket with session := some 0 } (.isReady 0, .ready true)
      { sampleSocket with session := some 0 } := by
    refine ⟨trivial, ?_⟩
    have active : sampleLeft.isActive 0 = (true, sampleLeft) := by
      rw [Session.isActive_eq, decide_eq_true sampleLeft_active,
        Session.evaluateExpiry_of_active sampleLeft_active]
    have same : ({ sampleSocket with session := some 0 } : UXSPWebSocket _ _).put 0 sampleLeft =
      { sampleSocket with session := some 0 } := put_self 0
    simp only [apply, isReady, sampleSocket, asResponder, active, Prod.map_apply, id_eq]
    exact congrArg (Prod.mk _) same
  exact ⟨_, _, .single resumed,
    carries_established (.single resumed) sampleSocket_new ready .ready⟩

end UXSPWebSocket

end Uxsp
