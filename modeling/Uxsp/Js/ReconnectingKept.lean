import Uxsp.Js.Reconnecting
import Uxsp.Lib.Custody

/-!
# Messages of the reconnecting socket

* `messages_kept`: what was given to `send` is in the queue, under way, handed to a socket or
  rejected; a number of a session is handed over once, in a frame that opens to its message.
* `frames_in_order`: while calls of a session do not overlap, its frames come in the order of their
  numbers, and without a gap if nothing else uses the session.
* `may_overtake`: of two calls that overlap, either may be first.
-/

namespace Uxsp

/-! ## What happens to a session -/

/-- What a session may have become. -/
structure JsSession.Passed (s t : JsSession) : Prop where
  sessionId : t.sessionId = s.sessionId
  sendKey : ∀ key, t.sendKey = some key → s.sendKey = some key
  sendSeq : s.sendSeq ≤ t.sendSeq

namespace JsSession

variable {J : JsPlatform} {s t u : JsSession} {now : ℚ}

theorem Passed.refl (s : JsSession) : Passed s s := ⟨rfl, fun _ => id, le_rfl⟩

theorem Passed.trans (left : Passed s t) (right : Passed t u) : Passed s u where
  sessionId := right.sessionId.trans left.sessionId
  sendKey := fun key keyed => left.sendKey key (right.sendKey key keyed)
  sendSeq := left.sendSeq.trans right.sendSeq

theorem passed_evaluateExpiry (s : JsSession) (now : ℚ) : Passed s (s.evaluateExpiry now) :=
  ⟨rfl, fun _ => id, le_rfl⟩

/-- A number is taken under the key of the session. -/
theorem encryptBegin_facts {seq : ℕ} {key : Bytes}
    (began : s.encryptBegin now = (.ok (seq, key), t)) :
    Passed s t ∧ s.sendKey = some key ∧ seq = s.sendSeq ∧ t.sendSeq = seq + 1 := by
  obtain ⟨rfl, rfl⟩ := encryptBegin_eq_ok began
  refine ⟨⟨rfl, fun _ => id, Nat.le_succ _⟩, ?_, rfl, rfl⟩
  unfold encryptBegin at began
  simp only at began
  split at began
  · cases began
  · rename_i key' checked
    cases began
    simp only [js_bind_eq_ok, requireKey] at checked
    obtain ⟨-, -, keyed⟩ := checked
    split at keyed
    · rename_i here
      exact here.trans (congrArg some (Except.ok.inj keyed))
    · cases keyed

theorem takeSeq_passed (s : JsSession) (x : PyFloat) : Passed s (s.takeSeq x) ∧
    (s.takeSeq x).sendSeq = s.sendSeq := by
  unfold takeSeq
  split <;> exact ⟨⟨rfl, fun _ => id, le_rfl⟩, rfl⟩

/-- Only a step that takes a number changes the number that is next. -/
theorem Step.passed {sealings sealings' : List Sealing} {openings openings' : List Opening}
    {e : Event} (step : Step J ⟨s, sealings, openings⟩ e ⟨t, sealings', openings'⟩) :
    Passed s t ∧ (e.taken = none → t.sendSeq = s.sendSeq) := by
  cases step with
  | encryptRefuse refused =>
      cases encryptBegin_eq_error refused
      exact ⟨passed_evaluateExpiry s _, fun _ => rfl⟩
  | encryptBegin began =>
      refine ⟨(encryptBegin_facts began).1, fun none => ?_⟩
      cases none
  | encryptFail | decryptMistyped | decryptFail => exact ⟨.refl s, fun _ => rfl⟩
  | encryptSettle | decryptRefuse | decryptSettle | observe =>
      exact ⟨passed_evaluateExpiry s _, fun _ => rfl⟩
  | @decryptBegin now _ _ seq =>
      obtain ⟨passed, same⟩ := takeSeq_passed (s.evaluateExpiry now) seq
      exact ⟨(passed_evaluateExpiry s now).trans passed, fun _ => same⟩
  | activate activated =>
      unfold JsSession.activate at activated
      split at activated
      · cases activated
      · cases activated
        exact ⟨⟨rfl, fun _ => id, le_rfl⟩, fun _ => rfl⟩
  | revoke =>
      refine ⟨⟨rfl, fun key keyed => ?_, le_rfl⟩, fun _ => rfl⟩
      cases keyed

/-- A payload opens to what was sealed, under the same key. -/
theorem openPayload_of_sealPayload (correct : J.AeadCorrect) {id : JsVal} {key plaintext : Bytes}
    {seq : ℕ} {nonce : Urandom NONCE_SIZE} {payload : JsObject}
    (made : sealPayload J id key seq plaintext nonce = .ok payload) :
    payload.get? "session_id" = some id ∧ payload.get? "seq" = some (.number (.finite seq)) ∧
      openPayload J id key payload (.finite seq) = .ok plaintext := by
  obtain ⟨ad, ciphertext, built, encrypted, rfl⟩ := sealPayload_eq_ok.mp made
  refine ⟨rfl, rfl, ?_⟩
  have nonce' : (wirePayload id seq ⟨ciphertext, nonce⟩).item "nonce" =
      .ok (.string (JsStr.ofBytes nonce)) := rfl
  have ciphertext' : (wirePayload id seq ⟨ciphertext, nonce⟩).item "ciphertext" =
      .ok (.string (JsStr.ofBytes ciphertext)) := rfl
  unfold openPayload
  rw [nonce', ciphertext', built]
  simp only [bind, Except.bind, decodeHex_ofBytes, correct.open_seal encrypted]
  rfl

end JsSession

namespace UXSPReconnectingWebSocket

open JsSession (Passed Sealing)

/-! ## What is counted -/

/-- The messages that are queued or under way. -/
def State.messages (c : State) : List Bytes := c.pendingQueue ++ c.sends.map Send.message

/-- The number of session `i` that a call has taken. -/
def Stage.numberIn (i : ℕ) : Stage → Option ℕ
  | .waiting _ => none
  | .sealing j p | .framed j p _ => if j = i then some p.seq else none

def State.numbersIn (i : ℕ) (c : State) : List ℕ := c.sends.filterMap fun p => p.stage.numberIn i

namespace Event

def messageIn : Event → List Bytes
  | .sent message => [message]
  | _ => []

def messageOut : Event → List Bytes
  | .handed f => [f.message]
  | .rejected call _ => [call.message]
  | _ => []

def established? : Event → Option JsSession
  | .established s => some s
  | _ => none

def frame? : Event → Option Frame
  | .handed f => some f
  | _ => none

def beganIn (i : ℕ) : Event → List ℕ
  | .began j seq => if j = i then [seq] else []
  | _ => []

/-- The number of session `i` of a call that ends. -/
def endedIn (i : ℕ) : Event → List ℕ
  | .handed f => if f.session = i then [f.p.seq] else []
  | .rejected call _ => (call.stage.numberIn i).toList
  | _ => []

def handedIn (i : ℕ) : Event → Option ℕ
  | .handed f => if f.session = i then some f.p.seq else none
  | _ => none

end Event

/-! ## The stretches that only look at a session -/

variable {J : JsPlatform} {c d : State} {e : Event} {es : List Event} {i : ℕ} {now : ℚ}

/-- The sessions are as before, expiries apart, and no call has moved. -/
structure Quiet (c d : State) : Prop where
  length : d.sessions.length = c.sessions.length
  session : ∀ (i : ℕ) (s : JsSession), c.sessions[i]? = some s →
    ∃ t, d.sessions[i]? = some t ∧ Passed s t ∧ t.sendSeq = s.sendSeq
  numbers : ∀ i, d.numbersIn i = c.numbersIn i
  call : ∀ p ∈ d.sends, p ∈ c.sends ∨ ∃ i, p.stage = .waiting i

theorem Quiet.refl (c : State) : Quiet c c :=
  ⟨rfl, fun _ s here => ⟨s, here, .refl s, rfl⟩, fun _ => rfl, fun _ => .inl⟩

theorem Quiet.trans {u : State} (left : Quiet c d) (right : Quiet d u) : Quiet c u where
  length := right.length.trans left.length
  session := by
    intro i s here
    obtain ⟨t, there, passed, same⟩ := left.session i s here
    obtain ⟨u, last, passed', same'⟩ := right.session i t there
    exact ⟨u, last, passed.trans passed', same'.trans same⟩
  numbers := fun i => (right.numbers i).trans (left.numbers i)
  call := by
    intro p mem
    rcases right.call p mem with before | fresh
    · exact left.call p before
    · exact .inr fresh

/-- Only the entry that is set is another. -/
theorem getElem?_set_cases {ss : List JsSession} {j : ℕ} {s t s' : JsSession}
    (there : ss[j]? = some s) (here : ss[i]? = some s') :
    i = j ∧ s' = s ∧ (ss.set j t)[i]? = some t ∨ i ≠ j ∧ (ss.set j t)[i]? = some s' := by
  by_cases same : i = j
  · subst same
    exact .inl ⟨rfl, Option.some.inj (here.symm.trans there),
      List.getElem?_set_self (List.getElem?_eq_some_iff.mp here).1⟩
  · exact .inr ⟨same, (List.getElem?_set_ne (Ne.symm same)).trans here⟩

theorem quiet_canSend (c : State) (now : ℚ) :
    Quiet c (c.canSend now).2 ∧ (c.canSend now).2.pendingQueue = c.pendingQueue ∧
      (c.canSend now).2.sends = c.sends := by
  obtain ⟨⟨ss, same, sessions⟩, -⟩ := canSend_cases c now
  rw [same]
  refine ⟨?_, rfl, rfl⟩
  rcases sessions with rfl | ⟨j, s, there, rfl⟩
  · exact .refl c
  · refine ⟨List.length_set, fun i s' here => ?_, fun _ => rfl, fun _ => .inl⟩
    rcases getElem?_set_cases (t := s.evaluateExpiry now) there here with
      ⟨-, rfl, set⟩ | ⟨-, kept⟩
    · exact ⟨_, set, JsSession.passed_evaluateExpiry s' now, rfl⟩
    · exact ⟨s', kept, .refl s', rfl⟩

theorem quiet_send (c : State) (message : Bytes) (queued : Bool) (now : ℚ) :
    Quiet c (c.send message queued now) ∧
      (c.send message queued now).messages.Perm (c.messages ++ [message]) := by
  obtain ⟨looked, queue, sends⟩ := quiet_canSend c now
  rcases send_cases c message queued now with ⟨i, -, sent⟩ | ⟨-, kept⟩
  · rw [sent]
    refine ⟨looked.trans ⟨rfl, fun _ s here => ⟨s, here, .refl s, rfl⟩, fun j => ?_, ?_⟩, ?_⟩
    · simp only [State.numbersIn, List.filterMap_append]
      exact List.append_nil _
    · intro p mem
      rcases List.mem_append.mp mem with old | new
      · exact .inl old
      · rw [List.mem_singleton.mp new]
        exact .inr ⟨i, rfl⟩
    · simp only [State.messages, queue, sends, List.map_append, List.map_cons, List.map_nil,
        List.append_assoc]
      exact .refl _
  · rw [kept]
    refine ⟨looked.trans ⟨rfl, fun _ s here => ⟨s, here, .refl s, rfl⟩, fun _ => rfl,
      fun _ => .inl⟩, ?_⟩
    simp only [State.messages, queue, sends, List.append_assoc]
    exact List.perm_append_comm.append_left _

theorem quiet_flushLoop (clock : ℕ → ℚ) (fuel : ℕ) (c : State) :
    Quiet c (State.flushLoop clock fuel c) ∧
      (State.flushLoop clock fuel c).messages.Perm c.messages := by
  induction fuel generalizing c with
  | zero => exact ⟨.refl c, .refl _⟩
  | succ fuel ih =>
      obtain ⟨looked, queue, sends⟩ := quiet_canSend c (clock (2 * fuel + 1))
      unfold State.flushLoop
      split
      · exact ⟨.refl c, .refl _⟩
      · rename_i message rest waiting
        split
        · rename_i c' found
          rw [found] at looked queue sends
          refine ⟨looked, ?_⟩
          rw [State.messages, queue, sends]
          exact .refl _
        · rename_i j c' found
          rw [found] at looked queue sends
          change c'.sends = c.sends at sends
          obtain ⟨sent, moved⟩ :=
            quiet_send { c' with pendingQueue := rest } message true (clock (2 * fuel))
          obtain ⟨others, kept⟩ :=
            ih (State.send { c' with pendingQueue := rest } message true (clock (2 * fuel)))
          have shifted : Quiet c' { c' with pendingQueue := rest } :=
            ⟨rfl, fun _ s here => ⟨s, here, .refl s, rfl⟩, fun _ => rfl, fun _ => .inl⟩
          refine ⟨((looked.trans shifted).trans sent).trans others, kept.trans (moved.trans ?_)⟩
          simp only [State.messages, sends, waiting, List.cons_append]
          exact List.perm_append_singleton message _

/-! ## Custody -/

/-- A call that ends takes its message with it. -/
theorem messages_of_end {front back : List Send} {p : Send} (here : c.sends = front ++ p :: back)
    (ss : List JsSession) :
    c.messages.Perm
      (State.messages { c with sessions := ss, sends := front ++ back } ++ [p.message]) := by
  simp only [State.messages, here, List.map_append, List.map_cons, List.append_assoc]
  exact ((List.perm_middle.trans (List.perm_append_singleton _ _).symm).append_left _).trans
    (by simp)

theorem custody_messages : Custody (Step J) State.messages Event.messageIn Event.messageOut := by
  intro c e d step
  cases step with
  | send message =>
      simp only [Event.messageIn, Event.messageOut, List.append_nil]
      exact (quiet_send c message false _).2.symm
  | flush clock =>
      simp only [Event.messageIn, Event.messageOut, List.append_nil]
      exact (quiet_flushLoop clock _ c).2.symm
  | refuse front back here | sealFail front back here | hand front back here
  | handNull front back here | handFail front back here =>
      simp only [Event.messageIn, Event.messageOut, List.append_nil]
      exact messages_of_end here _
  | take front back here | settle front back here =>
      simp only [Event.messageIn, Event.messageOut, List.append_nil, State.messages, here,
        List.map_append, List.map_cons]
      exact .refl _
  | establish | drop | connect | foreign => exact .refl _

/-- The number of one call, apart from those of the others. -/
theorem numbers_split (i : ℕ) (front back : List Send) (p : Send) :
    ((front ++ p :: back).filterMap fun p => p.stage.numberIn i).Perm
      (((front ++ back).filterMap fun p => p.stage.numberIn i) ++ (p.stage.numberIn i).toList) := by
  rw [List.filterMap_append, List.filterMap_append, List.filterMap_cons]
  cases p.stage.numberIn i with
  | none => exact List.append_nil _ ▸ .refl _
  | some k => exact List.perm_middle.trans (List.perm_append_singleton _ _).symm

/-- A call that ends takes its number with it. -/
theorem numbers_of_end (i : ℕ) {front back : List Send} {p : Send}
    (here : c.sends = front ++ p :: back) (ss : List JsSession) :
    (c.numbersIn i).Perm (State.numbersIn i { c with sessions := ss, sends := front ++ back } ++
      (p.stage.numberIn i).toList) := by
  rw [State.numbersIn, here]
  exact numbers_split i front back p

theorem custody_numbers (i : ℕ) :
    Custody (Step J) (State.numbersIn i) (Event.beganIn i) (Event.endedIn i) := by
  intro c e d step
  cases step with
  | send message =>
      simp only [Event.beganIn, Event.endedIn, (quiet_send c message false _).1.numbers i]
      exact .refl _
  | flush clock =>
      simp only [Event.beganIn, Event.endedIn, State.flushQueue,
        (quiet_flushLoop clock _ c).1.numbers i]
      exact .refl _
  | refuse front back here | sealFail front back here | handNull front back here
  | handFail front back here =>
      simp only [Event.beganIn, Event.endedIn, List.append_nil]
      exact numbers_of_end i here _
  | @hand k j p payload message queued front back here =>
      have ended : Event.endedIn i (.handed ⟨k, j, p, payload, message⟩) =
          (Stage.numberIn i (.framed j p payload)).toList := by
        simp only [Event.endedIn, Stage.numberIn]
        split <;> rfl
      rw [ended]
      simp only [Event.beganIn, List.append_nil]
      exact numbers_of_end i here _
  | @take now j seq key nonce s t message queued front back here =>
      have began : Event.beganIn i (.began j seq) =
          (Stage.numberIn i (.sealing j ⟨seq, key, message, nonce⟩)).toList := by
        simp only [Event.beganIn, Stage.numberIn]
        split <;> rfl
      rw [began]
      simp only [Event.endedIn, List.append_nil]
      have left := numbers_of_end i here c.sessions
      simp only [Stage.numberIn, Option.toList_none, List.append_nil] at left
      refine (left.append_right _).trans (numbers_split i front back
        ⟨message, queued, .sealing j ⟨seq, key, message, nonce⟩⟩).symm
  | settle front back here =>
      simp only [Event.beganIn, Event.endedIn, List.append_nil, State.numbersIn, here,
        List.filterMap_append, List.filterMap_cons, Stage.numberIn]
      exact .refl _
  | establish | drop | connect | foreign => exact .refl _

/-! ## Sessions along a run -/

/-- A step that takes a number of session `i`. -/
def Event.Takes (i : ℕ) : Event → Prop
  | .began j _ => j = i
  | .foreign j e => j = i ∧ e.taken ≠ none
  | _ => False

/-- Setting one session lets it pass on and leaves the others. -/
theorem session_set {j : ℕ} {s t s' : JsSession} (there : c.sessions[j]? = some s)
    (passed : Passed s t) (still : ¬ e.Takes i → i = j → t.sendSeq = s.sendSeq)
    (here : c.sessions[i]? = some s') : ∃ t', (c.sessions.set j t)[i]? = some t' ∧ Passed s' t' ∧
      (¬ e.Takes i → t'.sendSeq = s'.sendSeq) := by
  rcases getElem?_set_cases (t := t) there here with ⟨same, rfl, set⟩ | ⟨-, kept⟩
  · exact ⟨t, set, passed, fun other => still other same⟩
  · exact ⟨s', kept, .refl s', fun _ => rfl⟩

theorem Step.session (step : Step J c e d) {s : JsSession} (here : c.sessions[i]? = some s) :
    ∃ t, d.sessions[i]? = some t ∧ Passed s t ∧ (¬ e.Takes i → t.sendSeq = s.sendSeq) := by
  cases step with
  | send message =>
      obtain ⟨t, there, passed, same⟩ := (quiet_send c message false _).1.session i s here
      exact ⟨t, there, passed, fun _ => same⟩
  | flush clock =>
      obtain ⟨t, there, passed, same⟩ := (quiet_flushLoop clock _ c).1.session i s here
      exact ⟨t, there, passed, fun _ => same⟩
  | refuse front back _ there refused =>
      cases JsSession.encryptBegin_eq_error refused
      exact session_set there (JsSession.passed_evaluateExpiry _ _) (fun _ _ => rfl) here
  | take front back _ there began =>
      exact session_set there (JsSession.encryptBegin_facts began).1
        (fun other same => absurd same.symm other) here
  | settle front back _ there =>
      exact session_set there (JsSession.passed_evaluateExpiry _ _) (fun _ _ => rfl) here
  | sealFail | hand | handNull | handFail | drop | connect =>
      exact ⟨s, here, .refl s, fun _ => rfl⟩
  | establish new =>
      have inside : i < c.sessions.length := (List.getElem?_eq_some_iff.mp here).1
      exact ⟨s, (List.getElem?_append_left inside).trans here, .refl s, fun _ => rfl⟩
  | foreign there other =>
      obtain ⟨passed, same⟩ := other.passed
      refine session_set there passed (fun free j => same ?_) here
      by_contra taken
      exact free ⟨j.symm, taken⟩

/-- A number that is taken is the next one of its session. -/
theorem Step.began {k : ℕ} (step : Step J c (.began i k) d) : ∃ s t, c.sessions[i]? = some s ∧
    s.sendSeq = k ∧ d.sessions[i]? = some t ∧ t.sendSeq = k + 1 := by
  cases step with
  | take front back _ there began =>
      obtain ⟨-, -, number, next⟩ := JsSession.encryptBegin_facts began
      have inside := (List.getElem?_eq_some_iff.mp there).1
      exact ⟨_, _, there, number.symm, List.getElem?_set_self inside, next⟩

/-- Only a handshake adds a session. -/
theorem Step.sessions (step : Step J c e d) :
    d.sessions.length = c.sessions.length + e.established?.toList.length ∧
      ∀ s, e.established? = some s → d.sessions = c.sessions ++ [s] := by
  cases step with
  | establish s =>
      refine ⟨List.length_append, fun t same => ?_⟩
      cases same
      rfl
  | send message =>
      refine ⟨(quiet_send c message false _).1.length, fun t same => ?_⟩
      cases same
  | flush clock =>
      refine ⟨(quiet_flushLoop clock _ c).1.length, fun t same => ?_⟩
      cases same
  | refuse | take | settle | foreign =>
      refine ⟨?_, fun t same => ?_⟩
      · rw [List.length_set]
        rfl
      · cases same
  | sealFail | hand | handNull | handFail | drop | connect =>
      refine ⟨rfl, fun t same => ?_⟩
      cases same

/-! ## What the calls have made -/

variable {born : List JsSession} {message : Bytes}

/-- A call seals its message under the key that its session was born with. -/
def Stage.Made (J : JsPlatform) (born : List JsSession) (message : Bytes) : Stage → Prop
  | .waiting _ => True
  | .sealing i p => ∃ b, born[i]? = some b ∧ b.sendKey = some p.key ∧ p.plaintext = message
  | .framed i p payload => ∃ b, born[i]? = some b ∧ b.sendKey = some p.key ∧
      JsSession.sealPayload J b.sessionId p.key p.seq message p.nonce = .ok payload

theorem Stage.Made.append {stage : Stage} (made : stage.Made J born message)
    (more : List JsSession) : stage.Made J (born ++ more) message := by
  have still : ∀ {i b}, born[i]? = some b → (born ++ more)[i]? = some b := fun here =>
    (List.getElem?_append_left (List.getElem?_eq_some_iff.mp here).1).trans here
  cases stage with
  | waiting => trivial
  | sealing | framed =>
      obtain ⟨b, here, rest⟩ := made
      exact ⟨b, still here, rest⟩

/-- The sessions are those that were born, and the calls have sealed under their keys. -/
structure Sound (J : JsPlatform) (born : List JsSession) (c : State) : Prop where
  length : c.sessions.length = born.length
  session : ∀ (i : ℕ) (b : JsSession), born[i]? = some b → ∃ s, c.sessions[i]? = some s ∧ Passed b s
  call : ∀ p ∈ c.sends, p.stage.Made J born p.message

/-- The session of a call that is not at its end. -/
theorem Sound.birth (sound : Sound J born c) {s : JsSession} (here : c.sessions[i]? = some s) :
    ∃ b, born[i]? = some b ∧ Passed b s := by
  have inside : i < born.length := sound.length ▸ (List.getElem?_eq_some_iff.mp here).1
  obtain ⟨s', here', passed⟩ := sound.session i born[i] (List.getElem?_eq_getElem inside)
  cases here.symm.trans here'
  exact ⟨_, List.getElem?_eq_getElem inside, passed⟩

theorem mem_of_end {front back : List Send} {p q : Send} (here : c.sends = front ++ p :: back)
    (mem : q ∈ front ++ back) : q ∈ c.sends :=
  here ▸ ((List.sublist_cons_self p back).append_left front).subset mem

/-- A call that moves on is the only one that does. -/
theorem made_of_move {front back : List Send} {p p' : Send} (here : c.sends = front ++ p :: back)
    (call : ∀ q ∈ c.sends, q.stage.Made J born q.message)
    (moved : p'.stage.Made J born p'.message) :
    ∀ q ∈ front ++ p' :: back, q.stage.Made J born q.message := by
  intro q mem
  rcases List.mem_append.mp mem with before | after
  · exact call q (mem_of_end here (List.mem_append_left _ before))
  · rcases List.mem_cons.mp after with rfl | after
    · exact moved
    · exact call q (mem_of_end here (List.mem_append_right _ after))

theorem Sound.call_step (sound : Sound J born c) (step : Step J c e d) :
    ∀ p ∈ d.sends, p.stage.Made J born p.message := by
  cases step with
  | send message =>
      intro p mem
      rcases (quiet_send c message false _).1.call p mem with old | ⟨j, waiting⟩
      · exact sound.call p old
      · rw [waiting]
        trivial
  | flush clock =>
      intro p mem
      rcases (quiet_flushLoop clock _ c).1.call p mem with old | ⟨j, waiting⟩
      · exact sound.call p old
      · rw [waiting]
        trivial
  | refuse front back here | sealFail front back here | hand front back here
  | handNull front back here | handFail front back here =>
      exact fun p mem => sound.call p (mem_of_end here mem)
  | take front back here there began =>
      obtain ⟨b, birth, passed⟩ := sound.birth there
      obtain ⟨-, keyed, -⟩ := JsSession.encryptBegin_facts began
      exact made_of_move here sound.call ⟨b, birth, passed.sendKey _ keyed, rfl⟩
  | settle front back here there sealed =>
      obtain ⟨b, birth, passed⟩ := sound.birth there
      obtain ⟨b', birth', keyed, plain⟩ :=
        sound.call _ (here ▸ List.mem_append_right _ List.mem_cons_self)
      cases birth.symm.trans birth'
      rw [passed.sessionId, plain] at sealed
      exact made_of_move here sound.call ⟨b, birth, keyed, sealed⟩
  | establish | drop | connect | foreign => exact sound.call

theorem Sound.step (sound : Sound J born c) (step : Step J c e d) :
    Sound J (born ++ e.established?.toList) d := by
  obtain ⟨length, added⟩ := step.sessions
  refine ⟨?_, fun i b here => ?_, fun p mem => (sound.call_step step p mem).append _⟩
  · rw [length, sound.length, List.length_append]
  · rcases Nat.lt_or_ge i born.length with old | new
    · rw [List.getElem?_append_left old] at here
      obtain ⟨s, there, passed⟩ := sound.session i b here
      obtain ⟨t, next, passed', -⟩ := step.session there
      exact ⟨t, next, passed.trans passed'⟩
    · rw [List.getElem?_append_right new] at here
      cases birth : e.established? with
      | none =>
          rw [birth] at here
          cases here
      | some s =>
          rw [birth] at here
          refine ⟨b, ?_, .refl b⟩
          rwa [added s birth, List.getElem?_append_right (sound.length ▸ new), sound.length]

/-- The frame that a step hands over was made by a call. -/
theorem Sound.frame (sound : Sound J born c) (step : Step J c e d) {f : Frame}
    (handed : e.frame? = some f) :
    (Stage.framed f.session f.p f.payload).Made J born f.message := by
  cases step with
  | hand front back here =>
      cases handed
      exact sound.call _ (here ▸ List.mem_append_right _ List.mem_cons_self)
  | send | flush | refuse | take | sealFail | settle | handNull | handFail | establish | drop
  | connect | foreign => cases handed

/-! ## Numbers along a run -/

theorem beganIn_cases (i : ℕ) (e : Event) :
    e.beganIn i = [] ∨ ∃ k, e = .began i k ∧ e.beganIn i = [k] := by
  cases e with
  | began j k =>
      by_cases same : j = i
      · subst same
        exact .inr ⟨k, rfl, if_pos rfl⟩
      · exact .inl (if_neg same)
  | sent | flushed | established | sealed | handed | rejected | foreign | connection =>
      exact .inl rfl

/-- The numbers that were taken of a session lie below its next one, each above those before. -/
structure Counted (es : List Event) (c : State) : Prop where
  below : ∀ (i k : ℕ), k ∈ es.flatMap (Event.beganIn i) →
    ∃ s, c.sessions[i]? = some s ∧ k < s.sendSeq
  rising : ∀ i, (es.flatMap (Event.beganIn i)).Pairwise (· < ·)

theorem Counted.step (counted : Counted es c) (step : Step J c e d) : Counted (es ++ [e]) d := by
  have old : ∀ i k, k ∈ es.flatMap (Event.beganIn i) →
      ∃ t, d.sessions[i]? = some t ∧ k < t.sendSeq := by
    intro i k mem
    obtain ⟨s, here, less⟩ := counted.below i k mem
    obtain ⟨t, there, passed, -⟩ := step.session here
    exact ⟨t, there, less.trans_le passed.sendSeq⟩
  refine ⟨fun i k mem => ?_, fun i => ?_⟩
  · rw [List.flatMap_append, List.flatMap_singleton] at mem
    rcases List.mem_append.mp mem with before | last
    · exact old i k before
    · rcases beganIn_cases i e with none | ⟨l, rfl, one⟩
      · rw [none] at last
        cases last
      · rw [one] at last
        cases List.mem_singleton.mp last
        obtain ⟨-, t, -, -, there, next⟩ := step.began
        exact ⟨t, there, next ▸ Nat.lt_succ_self k⟩
  · rw [List.flatMap_append, List.flatMap_singleton]
    rcases beganIn_cases i e with none | ⟨l, rfl, one⟩
    · rw [none, List.append_nil]
      exact counted.rising i
    · obtain ⟨s, -, here, rfl, -⟩ := step.began
      rw [one]
      refine List.pairwise_append.mpr ⟨counted.rising i, List.pairwise_singleton _ _, ?_⟩
      intro k mem l last
      obtain ⟨s', here', less⟩ := counted.below i k mem
      cases here.symm.trans here'
      exact List.mem_singleton.mp last ▸ less

theorem Counted.start : Counted [] .start where
  below := fun _ _ mem => absurd mem List.not_mem_nil
  rising := fun _ => List.Pairwise.nil

theorem Sound.start : Sound J [] .start where
  length := rfl
  session := by
    intro i b here
    cases here
  call := fun _ mem => absurd mem List.not_mem_nil

/-- A step is of the history. -/
theorem filterMap_established (es : List Event) (e : Event) :
    (es ++ [e]).filterMap Event.established? =
      es.filterMap Event.established? ++ e.established?.toList := by
  rw [List.filterMap_append, List.filterMap_cons, List.filterMap_nil]
  cases e.established? <;> rfl

/-- The frames that were handed over are among the calls that ended. -/
theorem handedIn_sublist (i : ℕ) (es : List Event) :
    (es.filterMap (Event.handedIn i)).Sublist (es.flatMap (Event.endedIn i)) := by
  induction es with
  | nil => exact .refl _
  | cons e es ih =>
      rw [List.flatMap_cons, List.filterMap_cons]
      cases e with
      | handed f =>
          by_cases same : f.session = i
          · simp only [Event.handedIn, Event.endedIn, if_pos same]
            exact ih.cons_cons _
          · simp only [Event.handedIn, Event.endedIn, if_neg same]
            exact ih
      | sent | flushed | established | began | sealed | rejected | foreign | connection =>
          exact ih.trans (List.sublist_append_right _ _)

/-! ## Whole runs -/

/-- Every message that `send` was given is in the queue, in a call under way, handed to a socket or
in a call that rejected.  No number of a session is handed over twice, and the frame with a number
opens, under the key that the session was born with, to the message that was given. -/
theorem messages_kept (correct : J.AeadCorrect) (run : Run (Step J) .start es c) :
    (es.flatMap Event.messageIn).Perm (c.messages ++ es.flatMap Event.messageOut) ∧
    (∀ i, (es.filterMap (Event.handedIn i)).Nodup) ∧
    ∀ f ∈ es.filterMap Event.frame?, ∃ b key,
      (es.filterMap Event.established?)[f.session]? = some b ∧ b.sendKey = some key ∧
      f.payload.get? "session_id" = some b.sessionId ∧
      f.payload.get? "seq" = some (.number (.finite f.p.seq)) ∧
      JsSession.openPayload J b.sessionId key f.payload (.finite f.p.seq) = .ok f.message := by
  have inv : Sound J (es.filterMap Event.established?) c ∧ Counted es c ∧
      ∀ f ∈ es.filterMap Event.frame?, (Stage.framed f.session f.p f.payload).Made J
        (es.filterMap Event.established?) f.message := by
    refine run.history (I := fun es c => Sound J (es.filterMap Event.established?) c ∧
      Counted es c ∧ ∀ f ∈ es.filterMap Event.frame?, (Stage.framed f.session f.p f.payload).Made J
        (es.filterMap Event.established?) f.message) ?_
      ⟨Sound.start, Counted.start, fun f mem => absurd mem List.not_mem_nil⟩
    rintro es c e d ⟨sound, counted, frames⟩ step
    rw [filterMap_established]
    refine ⟨sound.step step, counted.step step, fun f mem => ?_⟩
    rw [List.filterMap_append] at mem
    rcases List.mem_append.mp mem with old | last
    · exact (frames f old).append _
    · obtain ⟨e', here, handed⟩ := List.mem_filterMap.mp last
      cases List.mem_singleton.mp here
      exact (sound.frame step handed).append _
  obtain ⟨-, counted, frames⟩ := inv
  refine ⟨custody_messages.conserved_of_empty run rfl, fun i => ?_, fun f mem => ?_⟩
  · have once := (counted.rising i).imp fun less => less.ne
    exact ((custody_numbers i).nodup_out run rfl once).sublist (handedIn_sublist i es)
  · obtain ⟨b, birth, keyed, made⟩ := frames f mem
    exact ⟨b, f.p.key, birth, keyed, JsSession.openPayload_of_sealPayload correct made⟩

/-- The step takes no number of session `i` for anyone but `send`, and no call of `send` that has
one fails. -/
def Event.Alone (i : ℕ) : Event → Prop
  | .foreign j e => j = i → e.taken = none
  | .rejected call _ => call.stage.numberIn i = none
  | _ => True

/-- The numbers that calls of `send` have taken are all that the session gave since its birth. -/
def Gapless (i : ℕ) (es : List Event) (c : State) : Prop :=
  ∀ b, (es.filterMap Event.established?)[i]? = some b → ∃ s, c.sessions[i]? = some s ∧
    s.sendSeq = b.sendSeq + (es.flatMap (Event.beganIn i)).length ∧
    es.flatMap (Event.beganIn i) = List.range' b.sendSeq (es.flatMap (Event.beganIn i)).length

/-- A step that takes a number and is alone is one of `send`. -/
theorem Event.Alone.began (alone : e.Alone i) (takes : e.Takes i) : ∃ k, e = .began i k := by
  cases e with
  | began j k => exact ⟨k, takes ▸ rfl⟩
  | foreign j e => exact absurd (alone takes.1) takes.2
  | sent | flushed | established | sealed | handed | rejected | connection => exact takes.elim

theorem Gapless.step (gapless : Gapless i es c) (counted : Counted es c)
    (sound : Sound J (es.filterMap Event.established?) c) (step : Step J c e d)
    (alone : e.Alone i) : Gapless i (es ++ [e]) d := by
  intro b birth
  rw [filterMap_established] at birth
  rcases Nat.lt_or_ge i (es.filterMap Event.established?).length with old | new
  · rw [List.getElem?_append_left old] at birth
    obtain ⟨s, here, next, numbers⟩ := gapless b birth
    rw [List.flatMap_append, List.flatMap_singleton]
    rcases beganIn_cases i e with none | ⟨k, rfl, one⟩
    · obtain ⟨t, there, -, same⟩ := step.session here
      rw [none, List.append_nil]
      refine ⟨t, there, ?_, numbers⟩
      refine (same fun takes => ?_).trans next
      obtain ⟨k, rfl⟩ := alone.began takes
      simp [Event.beganIn] at none
    · obtain ⟨s', t, here', number, there, next'⟩ := step.began
      cases here.symm.trans here'
      rw [one, List.length_append, List.length_singleton]
      refine ⟨t, there, ?_, ?_⟩
      · rw [next', ← number, next, Nat.add_assoc]
      · rw [List.range'_1_concat, ← numbers, ← next, number]
  · -- The session is born with this step, so nothing can have taken a number of it.
    have none : es.flatMap (Event.beganIn i) = [] := by
      refine List.eq_nil_iff_forall_not_mem.mpr fun k mem => ?_
      obtain ⟨s, here, -⟩ := counted.below i k mem
      have inside := (List.getElem?_eq_some_iff.mp here).1
      rw [sound.length] at inside
      omega
    rw [List.getElem?_append_right new] at birth
    cases made : e.established? with
    | none =>
        rw [made] at birth
        cases birth
    | some s =>
        rw [made] at birth
        have there : d.sessions[i]? = some b := by
          rwa [step.sessions.2 s made, List.getElem?_append_right (sound.length ▸ new),
            sound.length]
        have begun : e.beganIn i = [] := by
          cases e with
          | established => rfl
          | sent | flushed | began | sealed | handed | rejected | foreign | connection =>
              cases made
        rw [List.flatMap_append, List.flatMap_singleton, none, begun]
        exact ⟨b, there, rfl, rfl⟩

/-- Unless a call failed, those that ended handed their frames over. -/
theorem endedIn_of_alone (alone : ∀ e ∈ es, e.Alone i) :
    es.flatMap (Event.endedIn i) = es.filterMap (Event.handedIn i) := by
  induction es with
  | nil => rfl
  | cons e es ih =>
      have rest := ih fun f mem => alone f (List.mem_cons_of_mem _ mem)
      have here := alone e List.mem_cons_self
      rw [List.flatMap_cons, List.filterMap_cons, rest]
      cases e with
      | handed f =>
          by_cases same : f.session = i
          · simp only [Event.handedIn, Event.endedIn, if_pos same]
            rfl
          · simp only [Event.handedIn, Event.endedIn, if_neg same]
            rfl
      | rejected call e =>
          rw [Event.endedIn, show call.stage.numberIn i = none from here]
          rfl
      | sent | flushed | established | began | sealed | foreign | connection => rfl

/-- While no two calls of `send` have a number of a session at the same time, its frames are handed
over in the order of their numbers; if besides nothing else takes a number and no call with a number
fails, then without a gap, from the first number on. -/
theorem frames_in_order
    (run : Run (fun c e d => Step J c e d ∧ (d.numbersIn i).length ≤ 1) .start es c) :
    (es.filterMap (Event.handedIn i)).Pairwise (· < ·) ∧
    ((∀ e ∈ es, e.Alone i) → ∀ b, (es.filterMap Event.established?)[i]? = some b →
      es.filterMap (Event.handedIn i) =
        List.range' b.sendSeq (es.filterMap (Event.handedIn i)).length) := by
  have apart : ∀ e : Event, e.beganIn i = [] ∨ e.endedIn i = [] := by
    intro e
    rcases beganIn_cases i e with none | ⟨k, rfl, -⟩
    · exact .inl none
    · exact .inr rfl
  have ordered := ((custody_numbers i).in_order apart run (Nat.zero_le 1)).1
  rw [show State.numbersIn i .start = [] from rfl, List.nil_append] at ordered
  have inv : Sound J (es.filterMap Event.established?) c ∧ Counted es c ∧
      ((∀ e ∈ es, e.Alone i) → Gapless i es c) := by
    refine run.history (I := fun es c => Sound J (es.filterMap Event.established?) c ∧
      Counted es c ∧ ((∀ e ∈ es, e.Alone i) → Gapless i es c)) ?_
      ⟨Sound.start, Counted.start, fun _ b birth => ?_⟩
    · rintro es c e d ⟨sound, counted, gapless⟩ ⟨step, -⟩
      refine ⟨filterMap_established es e ▸ sound.step step, counted.step step, fun alone => ?_⟩
      have before := gapless fun f mem => alone f (List.mem_append_left _ mem)
      exact before.step counted sound step (alone e (List.mem_append_right _ List.mem_cons_self))
    · cases birth
  obtain ⟨-, counted, gapless⟩ := inv
  constructor
  · have rising := counted.rising i
    rw [ordered] at rising
    exact (List.pairwise_append.mp rising).1.sublist (handedIn_sublist i es)
  · intro alone b birth
    obtain ⟨-, -, -, numbers⟩ := gapless alone b birth
    rw [ordered, endedIn_of_alone alone] at numbers
    obtain ⟨k, -, front, -⟩ := List.range'_eq_append_iff.mp numbers.symm
    rw [front, List.length_range']

/-- Of two calls that wait for Web Crypto, the one with the later number may be first. -/
theorem may_overtake {k : ℕ} {s : JsSession} {p q : Sealing} {m n : Bytes} {b b' : Bool}
    {payload payload' : JsObject} {front middle back : List Send} (socket : c.ws = some k)
    (here : c.sends = front ++ ⟨m, b, .sealing i p⟩ :: (middle ++ ⟨n, b', .sealing i q⟩ :: back))
    (there : c.sessions[i]? = some s)
    (first : JsSession.sealPayload J s.sessionId p.key p.seq p.plaintext p.nonce = .ok payload)
    (second : JsSession.sealPayload J s.sessionId q.key q.seq q.plaintext q.nonce = .ok payload') :
    ∃ es d, Run (Step J) c es d ∧ es.filterMap (Event.handedIn i) = [q.seq, p.seq] := by
  have split : c.sends =
      (front ++ ⟨m, b, .sealing i p⟩ :: middle) ++ ⟨n, b', .sealing i q⟩ :: back := by
    rw [here, List.append_assoc, List.cons_append]
  have inside := (List.getElem?_eq_some_iff.mp there).1
  have framed : Step J c .sealed { c with
      sessions := c.sessions.set i (s.evaluateExpiry 0)
      sends :=
        (front ++ ⟨m, b, .sealing i p⟩ :: middle) ++ ⟨n, b', .framed i q payload'⟩ :: back } :=
    .settle _ back split there second
  have handed := Step.hand (J := J) (k := k) (c := { c with
    sessions := c.sessions.set i (s.evaluateExpiry 0)
    sends := (front ++ ⟨m, b, .sealing i p⟩ :: middle) ++ ⟨n, b', .framed i q payload'⟩ :: back })
    _ back rfl socket
  have rest : (front ++ ⟨m, b, .sealing i p⟩ :: middle) ++ back =
      front ++ ⟨m, b, .sealing i p⟩ :: (middle ++ back) := by
    rw [List.append_assoc, List.cons_append]
  rw [rest] at handed
  have framed' : Step J { c with
      sessions := c.sessions.set i (s.evaluateExpiry 0)
      sends := front ++ ⟨m, b, .sealing i p⟩ :: (middle ++ back) } .sealed { c with
      sessions := (c.sessions.set i (s.evaluateExpiry 0)).set i
        ((s.evaluateExpiry 0).evaluateExpiry 0)
      sends := front ++ ⟨m, b, .framed i p payload⟩ :: (middle ++ back) } :=
    .settle front (middle ++ back) rfl (List.getElem?_set_self inside) first
  have handed' := Step.hand (J := J) (k := k) (c := { c with
    sessions := (c.sessions.set i (s.evaluateExpiry 0)).set i
      ((s.evaluateExpiry 0).evaluateExpiry 0)
    sends := front ++ ⟨m, b, .framed i p payload⟩ :: (middle ++ back) }) front (middle ++ back) rfl
    socket
  refine ⟨_, _, .cons framed (.cons handed (.cons framed' (.single handed'))), ?_⟩
  simp only [List.filterMap_cons, Event.handedIn, if_true, List.filterMap_nil]

/-! ## A sample run -/

section Sample

def sampleMessage : Bytes := .lit "m"

/-- A socket, a session, and a message under way. -/
def sampleState (n : ℕ) (sends : List Send) : State :=
  ⟨some 0, some 0, [JsSession.sampleTaken n], [], sends⟩

theorem sample_looked (n : ℕ) (few : n < 10000) (sends : List Send) :
    (sampleState n sends).canSend 0 = (some 0, sampleState n sends) := by
  have active : (JsSession.sampleTaken n).ActiveAt 0 := JsSession.sampleTaken_active few
  have current : (sampleState n sends).current = some (0, JsSession.sampleTaken n) := rfl
  simp only [State.canSend, sampleState, State.isReady] at current ⊢
  rw [current]
  simp only [JsSession.evaluateExpiry_of_active active, JsSession.state_of_active active, if_true,
    List.set_cons_zero]

def sampleSend (stage : Stage) : Send := ⟨sampleMessage, false, stage⟩

def sampleSealing : Sealing :=
  ⟨0, JsSession.directedKey ":init_to_resp", sampleMessage, JsSession.sampleNonce⟩

/-- A message is sealed and handed to a socket. -/
theorem sample_run : ∃ es c, Run (fun c e d => Step .transparent c e d ∧ (d.numbersIn 0).length ≤ 1)
    .start es c ∧ es.flatMap Event.messageIn = [sampleMessage] ∧
      es.filterMap (Event.handedIn 0) = [0] ∧ (∀ e ∈ es, e.Alone 0) ∧
        es.filterMap Event.established? = [JsSession.sampleTaken 0] := by
  have few : ∀ {n}, n ≤ 1 → n < 10000 := fun le => le.trans_lt (by norm_num)
  have active : ∀ n ≤ 1, (JsSession.sampleTaken n).ActiveAt 0 := fun n le =>
    JsSession.sampleTaken_active (few le)
  obtain ⟨payload, made⟩ : ∃ payload, JsSession.sealPayload .transparent (.string "sid")
      sampleSealing.key 0 sampleMessage sampleSealing.nonce = .ok payload :=
    ⟨_, JsSession.sealPayload_eq_ok.mpr ⟨_, _, rfl, rfl, rfl⟩⟩
  have sent : Step .transparent (sampleState 0 []) (.sent sampleMessage)
      (sampleState 0 [sampleSend (.waiting 0)]) := by
    have step : Step .transparent (sampleState 0 []) (.sent sampleMessage)
        ((sampleState 0 []).send sampleMessage false 0) := .send sampleMessage
    rw [State.send, sample_looked 0 (few zero_le_one)] at step
    exact step
  have began : Step .transparent (sampleState 0 [sampleSend (.waiting 0)]) (.began 0 0)
      (sampleState 1 [sampleSend (.sealing 0 sampleSealing)]) :=
    .take [] [] rfl rfl (JsSession.encryptBegin_of_active (active 0 zero_le_one) rfl)
  have settled : Step .transparent (sampleState 1 [sampleSend (.sealing 0 sampleSealing)]) .sealed
      (sampleState 1 [sampleSend (.framed 0 sampleSealing payload)]) := by
    have step : Step .transparent (sampleState 1 [sampleSend (.sealing 0 sampleSealing)]) .sealed {
        sampleState 1 [] with
        sessions := [JsSession.sampleTaken 1].set 0 ((JsSession.sampleTaken 1).evaluateExpiry 0)
        sends := [] ++ [sampleSend (.framed 0 sampleSealing payload)] } :=
      .settle (s := JsSession.sampleTaken 1) (p := sampleSealing) [] [] rfl rfl made
    rw [JsSession.evaluateExpiry_of_active (active 1 le_rfl)] at step
    exact step
  have handed : Step .transparent (sampleState 1 [sampleSend (.framed 0 sampleSealing payload)])
      (.handed ⟨0, 0, sampleSealing, payload, sampleMessage⟩) (sampleState 1 []) :=
    .hand [] [] rfl rfl
  refine ⟨_, _, .cons ⟨.establish (JsSession.sampleTaken 0), Nat.zero_le 1⟩
    (.cons ⟨.connect (some 0), Nat.zero_le 1⟩ (.cons ⟨sent, Nat.zero_le 1⟩ (.cons ⟨began, le_rfl⟩
      (.cons ⟨settled, le_rfl⟩ (.single ⟨handed, Nat.zero_le 1⟩))))), rfl, rfl, ?_, rfl⟩
  simp [Event.Alone]

end Sample

theorem sample_messages_kept : ∃ (es : List Event) (c : State),
    es.flatMap Event.messageIn = [sampleMessage] ∧
    (es.flatMap Event.messageIn).Perm (c.messages ++ es.flatMap Event.messageOut) := by
  obtain ⟨es, c, run, sent, -⟩ := sample_run
  exact ⟨es, c, sent, (messages_kept (Platform.js_aead Platform.transparent_aead)
    (run.mono fun _ _ _ step => step.1)).1⟩

theorem sample_frames_in_order : ∃ es : List Event, es.filterMap (Event.handedIn 0) = [0] ∧
    (es.filterMap (Event.handedIn 0)).Pairwise (· < ·) ∧
      es.filterMap (Event.handedIn 0) =
        List.range' 0 (es.filterMap (Event.handedIn 0)).length := by
  obtain ⟨es, c, run, -, handed, alone, born⟩ := sample_run
  obtain ⟨rising, gapless⟩ := frames_in_order run
  exact ⟨es, handed, rising, gapless alone (JsSession.sampleTaken 0) (born ▸ rfl)⟩

end UXSPReconnectingWebSocket

end Uxsp
