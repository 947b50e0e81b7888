import Uxsp.Core.HandshakeHonest
import Uxsp.Core.HandshakeAuth
import Uxsp.Core.SessionSteps
import Uxsp.Lib.Numbered

/-!
# Two sessions on one link

The sessions of the two ends of a channel, strictly ordered, with the payloads in flight between
them in order.  Both sides encrypt when they like, payloads are delivered first in, first out, and
anyone may hand a side one of its own payloads back.

* `Link.Run.inv`: each receiver's counter is the number of payloads delivered to it, and the queue
  towards it holds the payloads numbered from there.
* `session_agreement`: an honest handshake ends in such a link.
-/

namespace Uxsp

/-- The sides are `true`, the initiator, and `false`, the responder. -/
structure Link where
  session : Bool → Session
  /-- The payloads in flight towards a side, the next one first. -/
  flight : Bool → List Dict
  /-- The payloads a side has encrypted. -/
  made : Bool → List Dict

inductive LinkEvent
  | encrypted (side : Bool) (plaintext : Bytes) (r : Except PyErr Dict)
  | delivered (side : Bool) (r : Except PyErr Bytes)
  | reflected (side : Bool) (r : Except PyErr Bytes)

namespace Link

def start (mine theirs : Session) : Link where
  session := fun side => bif side then mine else theirs
  flight := fun _ => []
  made := fun _ => []

/-- A side has encrypted: the payload, if there is one, is in flight to the other side. -/
def push (l : Link) (x : Bool) (r : Except PyErr Dict) (s : Session) : Link where
  session := Function.update l.session x s
  flight := Function.update l.flight (!x) (l.flight (!x) ++ r.toOption.toList)
  made := Function.update l.made x (l.made x ++ r.toOption.toList)

/-- A side has decrypted what was first in flight to it. -/
def pull (l : Link) (x : Bool) (rest : List Dict) (s : Session) : Link where
  session := Function.update l.session x s
  flight := Function.update l.flight x rest
  made := l.made

def replace (l : Link) (x : Bool) (s : Session) : Link where
  session := Function.update l.session x s
  flight := l.flight
  made := l.made

/-- The steps of the link.  Only calls on an active session encrypt and deliver; a payload may be
handed back to its maker at any time. -/
inductive Step (P : Platform) : Link → LinkEvent → Link → Prop
  | encrypt {l : Link} {x : Bool} {plaintext : Bytes} {nonce : Urandom NONCE_SIZE} {now after : ℚ}
      {r : Except PyErr Dict} {s : Session} :
      (l.session x).ActiveAt now → plaintext.length ≤ Platform.aesgcmMaxSize →
      Session.encrypt P (l.session x) plaintext nonce now after = (r, s) →
      Step P l (.encrypted x plaintext r) (l.push x r s)
  | deliver {l : Link} {x : Bool} {payload : Dict} {rest : List Dict} {now after : ℚ}
      {r : Except PyErr Bytes} {s : Session} :
      l.flight x = payload :: rest → (l.session x).ActiveAt now →
      Session.decrypt P (l.session x) payload now after = (r, s) →
      Step P l (.delivered x r) (l.pull x rest s)
  | reflect {l : Link} {x : Bool} {payload : Dict} {now after : ℚ} {r : Except PyErr Bytes}
      {s : Session} :
      payload ∈ l.made x → Session.decrypt P (l.session x) payload now after = (r, s) →
      Step P l (.reflected x r) (l.replace x s)

/-- The plaintexts a side has encrypted into payloads, in order. -/
def sent (x : Bool) (es : List LinkEvent) : List Bytes :=
  es.filterMap fun
    | .encrypted side plaintext (.ok _) => if side = x then some plaintext else none
    | _ => none

/-- What the deliveries to a side have returned, in order. -/
def received (x : Bool) (es : List LinkEvent) : List (Except PyErr Bytes) :=
  es.filterMap fun
    | .delivered side r => if side = x then some r else none
    | _ => none

variable {P : Platform} {l l' : Link} {es : List LinkEvent}

/-- The payload carries the plaintext under the number and the key. -/
def Carries (P : Platform) (sessionId : Str) (key : Bytes) (seq : ℕ) (plaintext : Bytes)
    (payload : Dict) : Prop :=
  ∃ nonce, Session.sealPayload P sessionId key seq plaintext nonce = .ok payload

/-- One direction of the link: towards a side. -/
structure Direction (P : Platform) (es : List LinkEvent) (l : Link) (x : Bool) : Prop where
  /-- Numbers are taken one for each payload, up to where they can no longer be printed. -/
  count : Str.printable (l.session (!x)).sendSeq →
    (l.session (!x)).sendSeq = (sent (!x) es).length
  /-- What was sent is what was received and what is in flight. -/
  queue : ∃ done waiting, sent (!x) es = done ++ waiting ∧ received x es = done.map .ok ∧
    (l.session x).recvSeq = done.length ∧
    Numbered (Carries P (l.session x).sessionId (l.session x).recvKey) done.length waiting
      (l.flight x)
  made : ∀ payload ∈ l.made x, ∃ seq plaintext,
    Carries P (l.session x).sessionId (l.session x).sendKey seq plaintext payload

/-- The sessions are the two ends of one strictly ordered channel. -/
structure Paired (session : Bool → Session) : Prop where
  ordered : ∀ x, (session x).config.enforceOrdering = true
  sessionId : ∀ x, (session (!x)).sessionId = (session x).sessionId
  keys : ∀ x, (session (!x)).sendKey = (session x).recvKey
  sizes : ∀ x, (session x).sendKey.length = 32
  apart : ∀ x, (session x).sendKey ≠ (session x).recvKey
  encodes : ∀ x, ∃ b, (session x).sessionId.encode = some b ∧ b.length < 2 ^ 30

/-- The invariant of the link. -/
structure Inv (P : Platform) (es : List LinkEvent) (l : Link) : Prop where
  paired : Paired l.session
  direction : ∀ x, Direction P es l x
  reflected : ∀ x r, .reflected x r ∈ es → ∃ e, r = .error e

/-! ## What the steps do to the link -/

section Updates

variable {x : Bool} {s : Session} {sealed : Except PyErr Dict} {rest : List Dict}

@[simp] theorem push_session_self : (l.push x sealed s).session x = s := Function.update_self ..

@[simp] theorem push_session_other : (l.push x sealed s).session (!x) = l.session (!x) :=
  Function.update_of_ne (Bool.not_ne_self x) ..

@[simp] theorem push_flight_other :
    (l.push x sealed s).flight (!x) = l.flight (!x) ++ sealed.toOption.toList :=
  Function.update_self ..

@[simp] theorem push_flight_self : (l.push x sealed s).flight x = l.flight x :=
  Function.update_of_ne (Bool.not_ne_self x).symm ..

@[simp] theorem push_made_self :
    (l.push x sealed s).made x = l.made x ++ sealed.toOption.toList := Function.update_self ..

@[simp] theorem push_made_other : (l.push x sealed s).made (!x) = l.made (!x) :=
  Function.update_of_ne (Bool.not_ne_self x) ..

@[simp] theorem pull_session_self : (l.pull x rest s).session x = s := Function.update_self ..

@[simp] theorem pull_session_other : (l.pull x rest s).session (!x) = l.session (!x) :=
  Function.update_of_ne (Bool.not_ne_self x) ..

@[simp] theorem pull_flight_self : (l.pull x rest s).flight x = rest := Function.update_self ..

@[simp] theorem pull_flight_other : (l.pull x rest s).flight (!x) = l.flight (!x) :=
  Function.update_of_ne (Bool.not_ne_self x) ..

@[simp] theorem replace_session_self : (l.replace x s).session x = s := Function.update_self ..

@[simp] theorem replace_session_other : (l.replace x s).session (!x) = l.session (!x) :=
  Function.update_of_ne (Bool.not_ne_self x) ..

/-- What holds of a side and of the other one holds of both. -/
theorem forall_side {p : Bool → Prop} (x : Bool) (self : p x) (other : p (!x)) : ∀ y, p y := by
  intro y
  rcases eq_or_ne y x with rfl | ne
  · exact self
  · rwa [Bool.eq_not_of_ne ne]

theorem Paired.update {session : Bool → Session} (paired : Paired session)
    (same : Session.SameChannel (session x) s) : Paired (Function.update session x s) := by
  have self : Function.update session x s x = s := Function.update_self ..
  have other : Function.update session x s (!x) = session (!x) :=
    Function.update_of_ne (Bool.not_ne_self x) ..
  refine ⟨forall_side x ?_ ?_, forall_side x ?_ ?_, forall_side x ?_ ?_, forall_side x ?_ ?_,
    forall_side x ?_ ?_, forall_side x ?_ ?_⟩ <;>
    simp only [Bool.not_not, self, other, same.config, same.sessionId, same.sendKey, same.recvKey]
  · exact paired.ordered x
  · exact paired.ordered (!x)
  · exact paired.sessionId x
  · exact (paired.sessionId x).symm
  · exact paired.keys x
  · have := paired.keys (!x)
    rwa [Bool.not_not] at this
  · exact paired.sizes x
  · exact paired.sizes (!x)
  · exact paired.apart x
  · exact paired.apart (!x)
  · exact paired.encodes x
  · exact paired.encodes (!x)

end Updates

/-! ## Encrypting -/

open Session in
/-- An active session seals what AES-GCM takes as long as its number prints. -/
theorem exists_sealPayload (aead : P.AeadCorrect) {s : Session} {plaintext b : Bytes}
    (nonce : Urandom NONCE_SIZE) (size : s.sendKey.length = 32)
    (encoded : s.sessionId.encode = some b) (short : b.length < 2 ^ 30)
    (fits : plaintext.length ≤ Platform.aesgcmMaxSize) (prints : Str.printable s.sendSeq) :
    ∃ payload, sealPayload P s.sessionId s.sendKey s.sendSeq plaintext nonce = .ok payload := by
  have built := associatedData_eq (R := P.toRuntime) encoded prints
  have digits := Str.length_encode (Str.encode_ofInt (s.sendSeq : ℤ))
  have few := Str.length_ofInt prints
  have room : (b ++ Bytes.lit ":" ++ Bytes.lit (Int.repr (s.sendSeq : ℤ))).length ≤
      Platform.aesgcmMaxSize := by
    have colon : (Bytes.lit ":").length = 1 := rfl
    rw [List.length_append, List.length_append, colon, Platform.aesgcmMaxSize]
    omega
  rcases Symmetric.exists_encrypt aead nonce size fits room with ⟨result, sealed⟩
  exact ⟨_, sealPayload_eq_ok.mpr ⟨_, result, built, sealed, rfl⟩⟩

theorem printable_of_sealPayload {sessionId : Str} {key plaintext : Bytes} {seq : ℕ}
    {nonce : Urandom NONCE_SIZE} {payload : Dict}
    (sealed : Session.sealPayload P sessionId key seq plaintext nonce = .ok payload) :
    Str.printable seq := by
  rcases Session.sealPayload_eq_ok.mp sealed with ⟨ad, result, built, -, -⟩
  simp only [Session.associatedData, bind_eq_ok, P.str_int_eq_ok] at built
  rcases built with ⟨_, ⟨prints, -⟩, -⟩
  exact prints

/-! ## The labels so far -/

section Labels

variable {x y : Bool} {plaintext : Bytes}

theorem sent_encrypted {payload : Dict} : sent y (es ++ [.encrypted x plaintext (.ok payload)]) =
    sent y es ++ if x = y then [plaintext] else [] := by
  by_cases same : x = y <;> simp [sent, same]

theorem sent_raised {e : PyErr} :
    sent y (es ++ [.encrypted x plaintext (.error e)]) = sent y es := by
  simp [sent]

theorem sent_delivered {r : Except PyErr Bytes} : sent y (es ++ [.delivered x r]) = sent y es := by
  simp [sent]

theorem sent_reflected {r : Except PyErr Bytes} : sent y (es ++ [.reflected x r]) = sent y es := by
  simp [sent]

theorem received_encrypted {r : Except PyErr Dict} :
    received y (es ++ [.encrypted x plaintext r]) = received y es := by
  simp [received]

theorem received_delivered {r : Except PyErr Bytes} :
    received y (es ++ [.delivered x r]) = received y es ++ if x = y then [r] else [] := by
  by_cases same : x = y <;> simp [received, same]

theorem received_reflected {r : Except PyErr Bytes} :
    received y (es ++ [.reflected x r]) = received y es := by
  simp [received]

theorem reflected_snoc {e : LinkEvent} (old : ∀ x r, .reflected x r ∈ es → ∃ e, r = .error e)
    (new : ∀ x r, e = .reflected x r → ∃ e, r = .error e) :
    ∀ x r, .reflected x r ∈ es ++ [e] → ∃ e, r = .error e := by
  intro x r mem
  rcases List.mem_append.mp mem with before | last
  · exact old x r before
  · exact new x r (List.mem_singleton.mp last).symm

end Labels

/-! ## Every step keeps the invariant -/

section Steps

variable {x : Bool} {s : Session} {now after : ℚ}

theorem Inv.encrypt (aead : P.AeadCorrect) (inv : Inv P es l) {plaintext : Bytes}
    {nonce : Urandom NONCE_SIZE} {r : Except PyErr Dict} (active : (l.session x).ActiveAt now)
    (fits : plaintext.length ≤ Platform.aesgcmMaxSize)
    (out : Session.encrypt P (l.session x) plaintext nonce now after = (r, s)) :
    Inv P (es ++ [.encrypted x plaintext r]) (l.push x r s) := by
  have step := Session.encrypt_step P (l.session x) plaintext nonce now after
  rw [out] at step
  have same := step.sameChannel
  have towards := inv.direction (!x)
  have back := inv.direction x
  have numbers := towards.count
  rw [Bool.not_not] at numbers
  refine ⟨inv.paired.update same, forall_side x ?_ ?_, reflected_snoc inv.reflected ?_⟩
  · -- towards the side itself only its sending half has moved
    rcases back.queue with ⟨done, waiting, sent_eq, received_eq, next, queue⟩
    have recvSeq : s.recvSeq = (l.session x).recvSeq := by
      cases step <;> rfl
    have other : sent (!x) (es ++ [.encrypted x plaintext r]) = sent (!x) es := by
      cases r with
      | error e => exact sent_raised
      | ok payload => rw [sent_encrypted, if_neg (Bool.not_ne_self x).symm, List.append_nil]
    refine ⟨?_, ⟨done, waiting, ?_, ?_, ?_, ?_⟩, ?_⟩
    · rw [push_session_other, other]
      exact back.count
    · rw [other, sent_eq]
    · rw [received_encrypted, received_eq]
    · rw [push_session_self, recvSeq, next]
    · rw [push_session_self, push_flight_self, same.sessionId, same.recvKey]
      exact queue
    · rw [push_session_self, push_made_self, same.sessionId, same.sendKey]
      intro payload mem
      rcases List.mem_append.mp mem with old | new
      · exact back.made payload old
      · cases step with
        | inactive | burnt => cases new
        | sent _ sealed =>
            cases List.mem_singleton.mp new
            exact ⟨_, plaintext, nonce, sealed⟩
  · rcases towards.queue with ⟨done, waiting, sent_eq, received_eq, next, queue⟩
    rw [Bool.not_not] at sent_eq
    cases step with
    | inactive inactive => exact absurd active inactive
    | burnt _ refused =>
        -- only a number that does not print is burnt
        have unprintable : ¬ Str.printable (l.session x).sendSeq := by
          intro prints
          rcases inv.paired.encodes x with ⟨b, encoded, short⟩
          rcases exists_sealPayload aead nonce (inv.paired.sizes x) encoded short fits prints with
            ⟨payload, sealed⟩
          rw [refused] at sealed
          cases sealed
        refine ⟨?_, ⟨done, waiting, ?_, ?_, ?_, ?_⟩, ?_⟩
        · rw [Bool.not_not, push_session_self]
          intro prints
          exact absurd (Str.printable_of_le (Nat.le_succ _) prints) unprintable
        · rw [Bool.not_not, sent_raised, sent_eq]
        · rw [received_encrypted, received_eq]
        · rw [push_session_other, next]
        · rw [push_session_other, push_flight_other]
          simpa [Except.toOption] using queue
        · rw [push_session_other, push_made_other]
          exact towards.made
    | sent _ sealed =>
        have numbered := numbers (printable_of_sealPayload sealed)
        have grown : sent x (es ++ [.encrypted x plaintext (.ok ‹_›)]) = sent x es ++ [plaintext] := by
          rw [sent_encrypted, if_pos rfl]
        refine ⟨?_, ⟨done, waiting ++ [plaintext], ?_, ?_, ?_, ?_⟩, ?_⟩
        · rw [Bool.not_not, push_session_self, grown, List.length_append, ← numbered]
          exact fun _ => rfl
        · rw [Bool.not_not, grown, sent_eq, List.append_assoc]
        · rw [received_encrypted, received_eq]
        · rw [push_session_other, next]
        · rw [push_session_other, push_flight_other]
          refine queue.snoc ⟨nonce, ?_⟩
          have position : (l.session x).sendSeq = done.length + waiting.length := by
            rw [numbered, sent_eq, List.length_append]
          rw [inv.paired.sessionId x, ← position, ← inv.paired.keys (!x), Bool.not_not]
          exact sealed
        · rw [push_session_other, push_made_other]
          exact towards.made
  · intro y r' same
    cases same

theorem Inv.deliver (aead : P.AeadCorrect) (inv : Inv P es l) {payload : Dict} {rest : List Dict}
    {r : Except PyErr Bytes} (first : l.flight x = payload :: rest)
    (active : (l.session x).ActiveAt now)
    (out : Session.decrypt P (l.session x) payload now after = (r, s)) :
    Inv P (es ++ [.delivered x r]) (l.pull x rest s) := by
  have step := Session.decrypt_step P (l.session x) payload now after
  rw [out] at step
  have same := step.sameChannel
  have here := inv.direction x
  have there := inv.direction (!x)
  rcases here.queue with ⟨done, waiting, sent_eq, received_eq, next, queue⟩
  rw [first] at queue
  rcases queue.of_cons with ⟨plaintext, waiting', rfl, ⟨nonce, genuine⟩, queue'⟩
  have admitted : (l.session x).Admitted done.length := by
    rw [Session.Admitted, if_pos (inv.paired.ordered x), next]
  have opened := Session.decrypt_genuine after aead active admitted genuine
  rw [out, Prod.mk.injEq] at opened
  rcases opened with ⟨rfl, rfl⟩
  have advanced : ((l.session x).advance done.length).recvSeq = (l.session x).recvSeq + 1 := by
    rw [Session.advance, if_pos (inv.paired.ordered x)]
  have sending : ((l.session x).advance done.length).sendSeq = (l.session x).sendSeq := by
    rw [Session.advance, if_pos (inv.paired.ordered x)]
  refine ⟨inv.paired.update same, forall_side x ?_ ?_, reflected_snoc inv.reflected ?_⟩
  · refine ⟨?_, ⟨done ++ [plaintext], waiting', ?_, ?_, ?_, ?_⟩, ?_⟩
    · rw [pull_session_other, sent_delivered]
      exact here.count
    · rw [sent_delivered, sent_eq, List.append_assoc]
      rfl
    · rw [received_delivered, if_pos rfl, received_eq, List.map_append]
      rfl
    · rw [pull_session_self, List.length_append, List.length_singleton, ← next]
      rw [next] at advanced ⊢
      exact advanced
    · rw [pull_session_self, pull_flight_self, same.sessionId, same.recvKey, List.length_append]
      exact queue'
    · rw [pull_session_self, same.sessionId, same.sendKey]
      exact here.made
  · rcases there.queue with ⟨done', waiting, sent_eq', received_eq', next', queue⟩
    refine ⟨?_, ⟨done', waiting, ?_, ?_, ?_, ?_⟩, ?_⟩
    · rw [Bool.not_not, pull_session_self, sent_delivered]
      have numbers := there.count
      rw [Bool.not_not, ← sending] at numbers
      exact numbers
    · rw [sent_delivered, sent_eq']
    · rw [received_delivered, if_neg (Bool.not_ne_self x).symm, List.append_nil, received_eq']
    · rw [pull_session_other, next']
    · rw [pull_session_other, pull_flight_other]
      exact queue
    · rw [pull_session_other]
      exact there.made
  · intro y r' same
    cases same

/-- Undoing an admitted number restores a strictly ordered session. -/
theorem rollback_advance_ordered {seq : ℕ} (ordered : s.config.enforceOrdering = true)
    (admitted : s.Admitted seq) : (s.advance seq).rollbackSeq seq = s := by
  rw [Session.Admitted, if_pos ordered] at admitted
  subst admitted
  simp [Session.advance, Session.rollbackSeq, ordered]

/-- A session refuses what was sealed under its sending key, and keeps its place. -/
theorem decrypt_own (authentic : P.AeadAuthentic) {seq : ℕ} {plaintext : Bytes} {payload : Dict}
    {r : Except PyErr Bytes} {own : Session} (ordered : own.config.enforceOrdering = true)
    (apart : own.sendKey ≠ own.recvKey)
    (made : Carries P own.sessionId own.sendKey seq plaintext payload)
    (out : Session.decrypt P own payload now after = (r, s)) :
    (∃ e, r = .error e) ∧ (s = own ∨ s = own.evaluateExpiry now) := by
  rcases made with ⟨nonce, sealed⟩
  rcases Session.sealPayload_eq_ok.mp sealed with ⟨ad, result, built, encrypted, rfl⟩
  have valid := Session.validatePayload_payloadDict (R := P.toRuntime) (s := own) seq result
  have step := Session.decrypt_step P own (Session.payloadDict own.sessionId seq result) now after
  rw [out] at step
  cases step with
  | malformed | refused => exact ⟨⟨_, rfl⟩, Or.inl rfl⟩
  | inactive => exact ⟨⟨_, rfl⟩, Or.inr rfl⟩
  | unprintable read _ accepted unbuilt =>
      rw [valid] at read
      cases read
      rw [built] at unbuilt
      cases unbuilt
  | unauthentic _ _ accepted =>
      rcases Session.acceptSeq_eq_ok.mp accepted with ⟨admitted, rfl⟩
      exact ⟨⟨_, rfl⟩, Or.inl (rollback_advance_ordered ordered admitted)⟩
  | delivered read _ _ _ opened =>
      rw [valid] at read
      cases read
      rcases Symmetric.decrypt_foreign authentic result.nonce _ apart encrypted with ⟨e, refused⟩
      rw [refused] at opened
      cases opened

theorem Inv.reflect (authentic : P.AeadAuthentic) (inv : Inv P es l) {payload : Dict}
    {r : Except PyErr Bytes} (made : payload ∈ l.made x)
    (out : Session.decrypt P (l.session x) payload now after = (r, s)) :
    Inv P (es ++ [.reflected x r]) (l.replace x s) := by
  have here := inv.direction x
  have there := inv.direction (!x)
  rcases here.made payload made with ⟨seq, plaintext, carries⟩
  rcases decrypt_own authentic (inv.paired.ordered x) (inv.paired.apart x) carries out with ⟨failed, left⟩
  have same : Session.SameChannel (l.session x) s := by
    rcases left with rfl | rfl
    · exact .refl _
    · exact .evaluateExpiry _ _
  have place : s.recvSeq = (l.session x).recvSeq ∧ s.sendSeq = (l.session x).sendSeq := by
    rcases left with rfl | rfl <;> exact ⟨rfl, rfl⟩
  refine ⟨inv.paired.update same, forall_side x ?_ ?_, reflected_snoc inv.reflected ?_⟩
  · rcases here.queue with ⟨done, waiting, sent_eq, received_eq, next, queue⟩
    refine ⟨?_, ⟨done, waiting, ?_, ?_, ?_, ?_⟩, ?_⟩
    · rw [replace_session_other, sent_reflected]
      exact here.count
    · rw [sent_reflected, sent_eq]
    · rw [received_reflected, received_eq]
    · rw [replace_session_self, place.1, next]
    · rw [replace_session_self, same.sessionId, same.recvKey]
      exact queue
    · rw [replace_session_self, same.sessionId, same.sendKey]
      exact here.made
  · rcases there.queue with ⟨done, waiting, sent_eq, received_eq, next, queue⟩
    refine ⟨?_, ⟨done, waiting, ?_, ?_, ?_, ?_⟩, ?_⟩
    · rw [Bool.not_not, replace_session_self, sent_reflected, place.2]
      have numbers := there.count
      rwa [Bool.not_not] at numbers
    · rw [sent_reflected, sent_eq]
    · rw [received_reflected, received_eq]
    · rw [replace_session_other, next]
    · rw [replace_session_other]
      exact queue
    · rw [replace_session_other]
      exact there.made
  · intro y r' same
    cases same
    exact failed

theorem Inv.keep (aead : P.AeadCorrect) (authentic : P.AeadAuthentic) {e : LinkEvent}
    (inv : Inv P es l) (step : Step P l e l') : Inv P (es ++ [e]) l' := by
  cases step with
  | encrypt active fits out => exact inv.encrypt aead active fits out
  | deliver first active out => exact inv.deliver aead first active out
  | reflect made out => exact inv.reflect authentic made out

theorem Run.inv (aead : P.AeadCorrect) (authentic : P.AeadAuthentic)
    (run : Run (Step P) l es l') (start : Inv P [] l) : Inv P es l' :=
  run.history (I := Inv P) (fun _ _ _ _ inv step => inv.keep aead authentic step) start

/-- Deliveries return what was sent, in order, and nothing handed back is accepted. -/
structure InOrder (es : List LinkEvent) : Prop where
  delivered : ∀ x, received x es <+: (sent (!x) es).map .ok
  reflected : ∀ x r, .reflected x r ∈ es → ∃ e, r = .error e

theorem Inv.inOrder (inv : Inv P es l) : InOrder es where
  delivered := by
    intro x
    rcases (inv.direction x).queue with ⟨done, waiting, sent_eq, received_eq, -, -⟩
    rw [sent_eq, received_eq, List.map_append]
    exact List.prefix_append _ _
  reflected := inv.reflected

end Steps

/-! ## After an honest handshake -/

open Handshake

theorem directionKey_ne (separates : P.HkdfSeparates) (config : SessionConfig) (final : Bytes)
    (x : Bool) :
    Session.directionKey P config final x ≠ Session.directionKey P config final (!x) := by
  have differ := separates.directions (config.keyInfo ++ .lit ":enc") final
  cases x
  · exact fun same => differ same.symm
  · exact differ

theorem established_direction {sessionId localId remoteId : Str} {final : Bytes} {x : Bool}
    {config : SessionConfig} {now : ℚ} (mine : (l.session x).sendSeq = 0 ∧ (l.session x).recvSeq = 0)
    (other : l.session (!x) = established P sessionId localId remoteId final (!x) config now)
    (calm : l.flight = fun _ => []) (fresh : l.made = fun _ => []) : Direction P [] l x where
  count := fun _ => by rw [other]; rfl
  queue := ⟨[], [], rfl, rfl, mine.2, by rw [calm]; exact .nil⟩
  made := by
    rw [fresh]
    exact fun payload mem => absurd mem List.not_mem_nil

/-- The two sessions of an honest handshake, before anything is sent. -/
theorem start_inv (separates : P.HkdfSeparates) {initiator responder : Identity P} {uuid : Uuid4}
    {config : SessionConfig} {mine theirs : Session} (ordered : config.enforceOrdering = true)
    (ends : Ends P initiator responder uuid.str config config mine theirs) :
    Inv P [] (start mine theirs) := by
  rcases ends with ⟨final, begun, answered, rfl, rfl⟩
  refine ⟨⟨?_, ?_, ?_, ?_, ?_, ?_⟩, ?_, fun x r mem => absurd mem List.not_mem_nil⟩
  · intro x
    cases x <;> exact ordered
  · intro x
    cases x <;> rfl
  · intro x
    cases x <;> rfl
  · intro x
    cases x <;> exact Session.length_directionKey P config final _
  · intro x
    cases x
    · exact directionKey_ne separates config final false
    · exact directionKey_ne separates config final true
  · intro x
    rcases uuid.encode_str with ⟨b, encoded⟩
    have size := Str.length_encode encoded
    rw [uuid.length_str] at size
    refine ⟨b, ?_, by omega⟩
    cases x <;> exact encoded
  · intro x
    cases x <;> exact established_direction ⟨rfl, rfl⟩ rfl rfl rfl

/-- An honest handshake ends in two sessions that agree on everything, and the payloads they
exchange arrive in order. -/
theorem session_agreement {S : NonceStore} {initiator responder : Identity P} {uuid : Uuid4}
    {started received' answered back finished : ℚ} {storeB storeB' storeA storeA' : S.State}
    (exchange : P.ExchangeCorrect) (signing : P.SignatureCorrect) (aead : P.AeadCorrect)
    (authentic : P.AeadAuthentic) (separates : P.HkdfSeparates)
    (honest : HonestRun S initiator responder uuid started received' answered back finished storeB
      storeB' storeA storeA') (config : Option SessionConfig)
    (ordered : (configOr config).enforceOrdering = true) (coinsA coinsB : MessageCoins) :
    ∃ (hs : Handshake P Session) (hello ack : Dict) (mine theirs : Session),
      initiate P initiator responder.publicCard config uuid started coinsA = .ok hs ∧
      hs.helloMsg = some hello ∧
      respondSession P S storeB responder hello initiator.publicCard config received' answered
        coinsB = (.ok (ack, theirs), storeB') ∧
      completeSession P S storeA hs ack responder.publicCard back finished = (.ok mine, storeA') ∧
      mine.sessionId = theirs.sessionId ∧
      (mine.localId = initiator.entityId ∧ mine.remoteId = responder.entityId) ∧
      (theirs.localId = responder.entityId ∧ theirs.remoteId = initiator.entityId) ∧
      (mine.sendKey = theirs.recvKey ∧ mine.recvKey = theirs.sendKey) ∧
      ∀ es l, Run (Step P) (start mine theirs) es l → InOrder es := by
  rcases exists_honest_run exchange signing honest config coinsA coinsB with
    ⟨hs, hello, ack, mine, theirs, began, sent, answer, completed, ends⟩
  refine ⟨hs, hello, ack, mine, theirs, began, sent, answer, completed, ?_⟩
  have inv := start_inv separates ordered ends
  rcases ends with ⟨final, begun, replied, rfl, rfl⟩
  refine ⟨rfl, ⟨rfl, rfl⟩, ⟨rfl, rfl⟩, ⟨rfl, rfl⟩, fun es l run => ?_⟩
  exact (Run.inv aead authentic run inv).inOrder

/-- Alice and Bob on the transparent platform. -/
theorem sample_session_agreement :
    ∃ mine theirs : Session, mine.sendKey = theirs.recvKey ∧
      ∀ es l, Run (Step .transparent) (start mine theirs) es l → InOrder es := by
  have honest : HonestRun MemoryNonceStore.nonceStore (Network.sampleParties false)
      (Network.sampleParties true) Network.sampleUuid 0 0 0 0 0 MemoryNonceStore.empty _
      MemoryNonceStore.empty _ :=
    ⟨⟨_, Str.encode_ofString "alice", by decide⟩, ⟨_, Str.encode_ofString "bob", by decide⟩,
      by decide, by decide, by norm_num [Timely, MAX_AGE], by norm_num [Timely, MAX_AGE], rfl, rfl⟩
  rcases session_agreement Platform.transparent_exchange Platform.transparent_signature
    Platform.transparent_aead Platform.transparent_authentic Platform.transparent_separates honest
    none rfl Network.sampleCoins Network.sampleCoins with
    ⟨hs, hello, ack, mine, theirs, -, -, -, -, -, -, -, keys, inOrder⟩
  exact ⟨mine, theirs, keys.1, inOrder⟩

end Link

end Uxsp
