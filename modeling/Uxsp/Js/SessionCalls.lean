import Uxsp.Js.SessionSteps
import Uxsp.Js.Transparent
import Uxsp.Js.Wire
import Uxsp.Lib.Run

/-!
# Overlapping calls of one session

Between its two awaits `encrypt` takes a number and `decrypt` checks and counts one.  A call begins
with this stretch and settles when Web Crypto has answered; other calls begin and settle in between,
in any order.  A counter of the session is exact as long as a double is, for `2 ^ 53` calls.

`numbers_used_once`: no number is taken twice, and none is returned decrypted twice.
-/

namespace Uxsp

/-- The text of a whole number is the text of no other value. -/
def JsRuntime.TextsApart (R : JsRuntime) : Prop :=
  ∀ (x : PyFloat) (k : ℕ),
    JsStr.utf8 (R.numberToString x) = JsStr.utf8 (R.numberToString (.finite k)) → x = .finite k

namespace JsSession

variable {J : JsPlatform}

/-- An `encrypt` that waits for Web Crypto. -/
structure Sealing where
  seq : ℕ
  key : Bytes
  plaintext : Bytes
  nonce : Urandom NONCE_SIZE

/-- A `decrypt` that waits for Web Crypto. -/
structure Opening where
  fields : JsObject
  seq : PyFloat
  key : Bytes

/-- A session and the calls that wait. -/
structure Calls where
  session : JsSession
  sealings : List Sealing
  openings : List Opening

def Calls.start (s : JsSession) : Calls := ⟨s, [], []⟩

inductive Event
  | encryptBegan (plaintext : Bytes) (seq : ℕ)
  | encrypted (payload : JsObject)
  | decryptBegan (payload : JsVal)
  | decrypted (seq : PyFloat) (plaintext : Bytes)
  | thrown (e : JsErr)
  /-- `activate`, `revoke`, or a property that evaluates the expiry. -/
  | other

/-- The number that a step takes for a payload. -/
def Event.taken : Event → Option ℕ
  | .encryptBegan _ seq => some seq
  | _ => none

/-- The number in a payload that a step returns. -/
def Event.sent : Event → Option JsVal
  | .encrypted payload => payload.get? "seq"
  | _ => none

/-- The number and the plaintext that a step returns. -/
def Event.returned : Event → Option (PyFloat × Bytes)
  | .decrypted seq plaintext => some (seq, plaintext)
  | _ => none

/-- One stretch of a call between its awaits, at a time that the clock shows. -/
inductive Step (J : JsPlatform) (c : Calls) : Event → Calls → Prop
  | encryptRefuse {now : ℚ} {e : JsErr} {s : JsSession} :
      c.session.encryptBegin now = (.error e, s) → Step J c (.thrown e) { c with session := s }
  | encryptBegin {now : ℚ} {seq : ℕ} {key plaintext : Bytes} {nonce : Urandom NONCE_SIZE}
      {s : JsSession} : c.session.encryptBegin now = (.ok (seq, key), s) →
      Step J c (.encryptBegan plaintext seq)
        ⟨s, c.sealings ++ [⟨seq, key, plaintext, nonce⟩], c.openings⟩
  | encryptFail (front back : List Sealing) {p : Sealing} {e : JsErr} :
      c.sealings = front ++ p :: back →
      sealPayload J c.session.sessionId p.key p.seq p.plaintext p.nonce = .error e →
      Step J c (.thrown e) ⟨c.session, front ++ back, c.openings⟩
  | encryptSettle {now : ℚ} (front back : List Sealing) {p : Sealing} {payload : JsObject} :
      c.sealings = front ++ p :: back →
      sealPayload J c.session.sessionId p.key p.seq p.plaintext p.nonce = .ok payload →
      Step J c (.encrypted payload) ⟨c.session.evaluateExpiry now, front ++ back, c.openings⟩
  /-- The payload is no object. -/
  | decryptMistyped {payload : JsVal} {e : JsErr} :
      payloadFields payload = .error e → Step J c (.thrown e) c
  | decryptRefuse {now : ℚ} {payload : JsVal} {fields : JsObject} {e : JsErr} :
      payloadFields payload = .ok fields →
      (c.session.evaluateExpiry now).checkPayload J payload = .error e →
      Step J c (.thrown e) { c with session := c.session.evaluateExpiry now }
  | decryptBegin {now : ℚ} {payload : JsVal} {fields : JsObject} {seq : PyFloat} {key : Bytes} :
      (c.session.evaluateExpiry now).checkPayload J payload = .ok (fields, seq, key) →
      Step J c (.decryptBegan payload) ⟨(c.session.evaluateExpiry now).takeSeq seq, c.sealings,
        c.openings ++ [⟨fields, seq, key⟩]⟩
  | decryptFail (front back : List Opening) {p : Opening} {e : JsErr} :
      c.openings = front ++ p :: back →
      openPayload J c.session.sessionId p.key p.fields p.seq = .error e →
      Step J c (.thrown e) ⟨c.session, c.sealings, front ++ back⟩
  | decryptSettle {now : ℚ} (front back : List Opening) {p : Opening} {plaintext : Bytes} :
      c.openings = front ++ p :: back →
      openPayload J c.session.sessionId p.key p.fields p.seq = .ok plaintext →
      Step J c (.decrypted p.seq plaintext)
        ⟨c.session.evaluateExpiry now, c.sealings, front ++ back⟩
  | activate {s : JsSession} : c.session.activate = .ok s → Step J c .other { c with session := s }
  | revoke : Step J c .other { c with session := c.session.revoke }
  | observe {now : ℚ} : Step J c .other { c with session := c.session.evaluateExpiry now }

/-- Counting a number leaves the rest of the session. -/
theorem takeSeq_frame (s : JsSession) (x : PyFloat) : (s.takeSeq x).sessionId = s.sessionId ∧
    (s.takeSeq x).sendSeq = s.sendSeq ∧ (s.takeSeq x).recvKey = s.recvKey := by
  unfold takeSeq
  split <;> exact ⟨rfl, rfl, rfl⟩

/-! ## A call that nothing overlaps -/

/-- `encrypt` is its two stretches, one behind the other. -/
theorem encrypt_run {s t : JsSession} {plaintext : Bytes} {nonce : Urandom NONCE_SIZE}
    {now after : ℚ} {payload : JsObject}
    (returned : s.encrypt J plaintext nonce now after = (.ok payload, t)) :
    ∃ seq, Run (Step J) (.start s) [.encryptBegan plaintext seq, .encrypted payload] (.start t) := by
  unfold encrypt at returned
  split at returned
  · cases returned
  · rename_i seq key s' began
    split at returned
    · cases returned
    · rename_i sealedPayload made
      cases returned
      exact ⟨seq, .cons (.encryptBegin began) (.single (.encryptSettle [] [] rfl made))⟩

/-- `decrypt` is its two stretches, one behind the other. -/
theorem decrypt_run {s t : JsSession} {payload : JsVal} {plaintext : Bytes} {now after : ℚ}
    (returned : s.decrypt J payload now after = (.ok plaintext, t)) :
    ∃ seq, Run (Step J) (.start s) [.decryptBegan payload, .decrypted seq plaintext] (.start t) := by
  unfold decrypt at returned
  split at returned
  · cases returned
  · simp only at returned
    split at returned
    · cases returned
    · rename_i fields seq key checked
      split at returned
      · cases returned
      · rename_i opened made
        cases returned
        let waiting : Calls := ⟨(s.evaluateExpiry now).takeSeq seq, [], [⟨fields, seq, key⟩]⟩
        have same : waiting.session.sessionId = (s.evaluateExpiry now).sessionId :=
          (takeSeq_frame _ seq).1
        rw [← same] at made
        have settled : Step J waiting (.decrypted seq plaintext)
            (.start (((s.evaluateExpiry now).takeSeq seq).evaluateExpiry after)) :=
          .decryptSettle (p := ⟨fields, seq, key⟩) [] [] rfl made
        exact ⟨seq, .cons (.decryptBegin checked) (.single settled)⟩

/-! ## Which numbers are new -/

/-- `decrypt` has counted this number. -/
def Counted (s : JsSession) (x : PyFloat) : Prop :=
  if s.config.enforceOrdering then ∃ k < s.recvSeq, x = .finite k else x ∈ s.seenSeqs

/-- A NaN apart, a number that passes the check was not counted. -/
theorem not_counted_of_checkSeq {s : JsSession} {x : PyFloat} (number : x ≠ .nan)
    (passed : s.checkSeq J x = .ok ()) : ¬ s.Counted x := by
  unfold checkSeq at passed
  unfold Counted
  split at passed
  · rename_i ordered
    rw [if_pos ordered]
    rintro ⟨k, below, rfl⟩
    simp only [checkOrdered, js_bind_eq_ok, jsEnsure_eq_ok, PyFloat.lt_finite, Bool.not_eq_true',
      decide_eq_false_iff_not, not_lt, Nat.cast_le] at passed
    obtain ⟨-, least, -⟩ := passed
    omega
  · rename_i unordered
    rw [if_neg unordered]
    simp only [checkWindow, js_bind_eq_ok, jsEnsure_eq_ok, Bool.not_eq_true',
      List.contains_eq_mem, decide_eq_false_iff_not] at passed
    obtain ⟨-, new, -⟩ := passed
    exact new

/-- A number that passes the check and is counted counts, a NaN apart. -/
theorem counted_takeSeq {s : JsSession} {x : PyFloat} (number : x ≠ .nan)
    (passed : s.checkSeq J x = .ok ()) : (s.takeSeq x).Counted x := by
  unfold checkSeq at passed
  unfold takeSeq
  split at passed
  · rename_i ordered
    rw [if_pos ordered]
    simp only [checkOrdered, js_bind_eq_ok, jsEnsure_eq_ok, Bool.not_eq_true'] at passed
    obtain ⟨-, least, most⟩ := passed
    have expected : x = .finite s.recvSeq := by
      cases x with
      | nan => exact absurd rfl number
      | inf negative => cases negative <;> simp [PyFloat.lt] at least most
      | finite q =>
          simp only [PyFloat.lt_finite, decide_eq_false_iff_not, not_lt] at least most
          rw [le_antisymm most least]
    rw [Counted, if_pos ordered]
    exact ⟨s.recvSeq, Nat.lt_succ_self _, expected⟩
  · rename_i unordered
    rw [if_neg unordered, Counted, if_neg unordered]
    exact List.mem_append_right _ (List.mem_singleton.mpr rfl)

theorem Counted.takeSeq {s : JsSession} {x : PyFloat} (counted : s.Counted x) (y : PyFloat) :
    (s.takeSeq y).Counted x := by
  unfold Counted at counted
  unfold JsSession.takeSeq
  split at counted
  · rename_i ordered
    obtain ⟨k, below, rfl⟩ := counted
    rw [if_pos ordered, Counted, if_pos ordered]
    exact ⟨k, Nat.lt_succ_of_lt below, rfl⟩
  · rename_i unordered
    rw [if_neg unordered, Counted, if_neg unordered]
    exact List.mem_append_left _ counted

/-! ## What the stretches do -/

theorem encryptBegin_eq_error {s t : JsSession} {now : ℚ} {e : JsErr}
    (refused : s.encryptBegin now = (.error e, t)) : t = s.evaluateExpiry now := by
  unfold encryptBegin at refused
  simp only at refused
  split at refused
  · cases refused
    rfl
  · cases refused

theorem encryptBegin_eq_ok {s t : JsSession} {now : ℚ} {seq : ℕ} {key : Bytes}
    (began : s.encryptBegin now = (.ok (seq, key), t)) :
    seq = s.sendSeq ∧ t = { s.evaluateExpiry now with sendSeq := s.sendSeq + 1 } := by
  unfold encryptBegin at began
  simp only at began
  split at began
  · cases began
  · cases began
    exact ⟨rfl, rfl⟩

theorem checkPayload_facts {s : JsSession} {payload : JsVal} {fields : JsObject} {seq : PyFloat}
    {key : Bytes} (passed : s.checkPayload J payload = .ok (fields, seq, key)) :
    s.recvKey = some key ∧ s.checkSeq J seq = .ok () := by
  simp only [checkPayload, js_bind_eq_ok, js_pure_eq_ok, Prod.mk.injEq] at passed
  obtain ⟨_, -, _, -, key', keyed, _, -, seq', -, _, checked, rfl, rfl, rfl⟩ := passed
  refine ⟨?_, checked⟩
  unfold requireKey at keyed
  split at keyed
  · rename_i here
    rw [here, Except.ok.inj keyed]
  · cases keyed

theorem openPayload_facts {id : JsVal} {key plaintext : Bytes} {fields : JsObject} {seq : PyFloat}
    (opened : openPayload J id key fields seq = .ok plaintext) :
    ∃ nonce ciphertext ad, associatedData J id seq = .ok ad ∧
      J.aesGcmDecrypt key nonce ciphertext ad = .ok plaintext := by
  simp only [openPayload, js_bind_eq_ok] at opened
  obtain ⟨_, -, nonce, -, _, -, ciphertext, -, ad, bound, opened⟩ := opened
  split at opened
  · rename_i plaintext' decrypted
    rw [js_pure_eq_ok] at opened
    subst opened
    exact ⟨nonce, ciphertext, ad, bound, decrypted⟩
  · cases opened

/-! ## Runs -/

/-- What opens under the receiving key was sealed under it by the peer, for one of its numbers. -/
structure Unforgeable (J : JsPlatform) (s : JsSession) (Sealed : ℕ → Bytes → Prop) : Prop where
  opened : ∀ {key nonce ciphertext ad plaintext : Bytes}, s.recvKey = some key →
    J.aesGcmDecrypt key nonce ciphertext ad = .ok plaintext →
      ∃ k, Sealed k plaintext ∧ associatedData J s.sessionId (.finite k) = .ok ad ∧
        J.aesGcmEncrypt key nonce plaintext ad = .ok ciphertext

/-- The associated data tells whole numbers from every other. -/
theorem associatedData_inj (apart : J.TextsApart) {id : JsVal} {x : PyFloat} {k : ℕ} {ad : Bytes}
    (left : associatedData J id x = .ok ad) (right : associatedData J id (.finite k) = .ok ad) :
    x = .finite k := by
  simp only [associatedData, js_bind_eq_ok, js_pure_eq_ok] at left right
  obtain ⟨shown, printed, rfl⟩ := left
  obtain ⟨shown', printed', same⟩ := right
  obtain rfl := Except.ok.inj (printed.symm.trans printed')
  rw [List.append_assoc, List.append_assoc] at same
  rw [JsStr.utf8_colon, JsStr.utf8_colon] at same
  exact apart x k (List.append_cancel_left (List.append_cancel_left same)).symm

variable {s : JsSession} {Sealed : ℕ → Bytes → Prop} {c d : Calls} {e : Event} {es : List Event}

/-- The numbers of the payloads that were returned and of the calls that wait were all taken, each
by one call. -/
structure Sending (es : List Event) (c : Calls) : Prop where
  taken : es.filterMap Event.taken = List.range c.session.sendSeq
  sent : ∃ ks : List ℕ,
    es.filterMap Event.sent = ks.map (fun k : ℕ => JsVal.number (.finite k)) ∧
      (ks ++ c.sealings.map Sealing.seq).Nodup ∧
      ∀ k ∈ ks ++ c.sealings.map Sealing.seq, k < c.session.sendSeq

theorem Sending.frame (inv : Sending es c) (sealings : d.sealings = c.sealings)
    (sendSeq : d.session.sendSeq = c.session.sendSeq) (taken : e.taken = none)
    (sent : e.sent = none) : Sending (es ++ [e]) d := by
  refine ⟨?_, ?_⟩
  · rw [List.filterMap_append, inv.taken, List.filterMap_cons_none taken, sendSeq]
    exact List.append_nil _
  · rw [List.filterMap_append, List.filterMap_cons_none sent, List.filterMap_nil, List.append_nil,
      sealings, sendSeq]
    exact inv.sent

theorem Sending.step (inv : Sending es c) (step : Step J c e d) : Sending (es ++ [e]) d := by
  cases step with
  | encryptRefuse refused =>
      rw [encryptBegin_eq_error refused]
      exact inv.frame rfl rfl rfl rfl
  | @encryptBegin now seq key plaintext nonce t began =>
      obtain ⟨rfl, rfl⟩ := encryptBegin_eq_ok began
      obtain ⟨ks, sent, nodup, below⟩ := inv.sent
      refine ⟨?_, ks, ?_, ?_, ?_⟩
      · rw [List.filterMap_append, inv.taken, List.range_succ]
        rfl
      · rw [List.filterMap_append, sent]
        exact List.append_nil _
      · rw [List.map_append, ← List.append_assoc]
        refine List.nodup_append.mpr ⟨nodup, List.nodup_singleton _, fun k mem l last => ?_⟩
        rw [List.mem_singleton.mp last]
        exact (below k mem).ne
      · intro k mem
        rw [List.map_append, ← List.append_assoc] at mem
        rcases List.mem_append.mp mem with old | last
        · exact Nat.lt_succ_of_lt (below k old)
        · rw [List.mem_singleton.mp last]
          exact Nat.lt_succ_self _
  | @encryptFail front back p e here failed =>
      obtain ⟨ks, sent, nodup, below⟩ := inv.sent
      have rest : (ks ++ (front ++ back).map Sealing.seq).Sublist
          (ks ++ c.sealings.map Sealing.seq) := by
        rw [here]
        exact (((List.sublist_cons_self p back).append_left front).map _).append_left ks
      refine ⟨?_, ks, ?_, nodup.sublist rest, fun k mem => below k (rest.subset mem)⟩
      · rw [List.filterMap_append, inv.taken]
        exact List.append_nil _
      · rw [List.filterMap_append, sent]
        exact List.append_nil _
  | @encryptSettle now front back p payload here made =>
      obtain ⟨ks, sent, nodup, below⟩ := inv.sent
      obtain ⟨ad, ciphertext, -, -, rfl⟩ := sealPayload_eq_ok.mp made
      have moved : ((ks ++ [p.seq]) ++ (front ++ back).map Sealing.seq).Perm
          (ks ++ c.sealings.map Sealing.seq) := by
        rw [here, List.append_assoc, List.singleton_append, List.map_append, List.map_append,
          List.map_cons]
        exact List.perm_middle.symm.append_left ks
      refine ⟨?_, ks ++ [p.seq], ?_, moved.nodup_iff.mpr nodup,
        fun k mem => below k (moved.subset mem)⟩
      · rw [List.filterMap_append, inv.taken]
        exact List.append_nil _
      · rw [List.filterMap_append, sent, List.map_append]
        rfl
  | decryptMistyped typed => exact inv.frame rfl rfl rfl rfl
  | decryptRefuse typed refused => exact inv.frame rfl rfl rfl rfl
  | @decryptBegin now payload fields seq key passed =>
      exact inv.frame rfl (takeSeq_frame _ seq).2.1 rfl rfl
  | decryptFail front back here failed => exact inv.frame rfl rfl rfl rfl
  | decryptSettle front back here opened => exact inv.frame rfl rfl rfl rfl
  | activate activated =>
      unfold JsSession.activate at activated
      split at activated
      · cases activated
      · cases activated
        exact inv.frame rfl rfl rfl rfl
  | revoke => exact inv.frame rfl rfl rfl rfl
  | observe => exact inv.frame rfl rfl rfl rfl

/-- The numbers that calls returned or wait with, oldest first. -/
def admitted (es : List Event) (c : Calls) : List PyFloat :=
  (es.filterMap Event.returned).map Prod.fst ++ c.openings.map Opening.seq

/-- The numbers that were admitted are counted, each was admitted once, a NaN apart, and what was
returned is what the peer sealed. -/
structure Receiving (s : JsSession) (Sealed : ℕ → Bytes → Prop) (es : List Event) (c : Calls) :
    Prop where
  sessionId : c.session.sessionId = s.sessionId
  key : ∀ k, c.session.recvKey = some k → s.recvKey = some k
  keys : ∀ p ∈ c.openings, s.recvKey = some p.key
  counted : ∀ x ∈ admitted es c, x ≠ .nan → c.session.Counted x
  nodup : ((admitted es c).filter (· != .nan)).Nodup
  genuine : ∀ p ∈ es.filterMap Event.returned, ∃ k : ℕ, p.1 = .finite k ∧ Sealed k p.2

theorem admitted_snoc (returned : e.returned = none) :
    admitted (es ++ [e]) c = admitted es c := by
  rw [admitted, List.filterMap_append, List.filterMap_cons_none returned, List.filterMap_nil,
    List.append_nil, admitted]

theorem Receiving.frame (inv : Receiving s Sealed es c) (openings : d.openings = c.openings)
    (sessionId : d.session.sessionId = c.session.sessionId)
    (key : ∀ k, d.session.recvKey = some k → c.session.recvKey = some k)
    (counted : ∀ x, c.session.Counted x → d.session.Counted x) (returned : e.returned = none) :
    Receiving s Sealed (es ++ [e]) d := by
  have same : admitted (es ++ [e]) d = admitted es c := by
    rw [admitted_snoc returned, admitted, openings, admitted]
  refine ⟨sessionId.trans inv.sessionId, fun k keyed => inv.key k (key k keyed), openings ▸ inv.keys, ?_,
    same ▸ inv.nodup, ?_⟩
  · rw [same]
    exact fun x mem number => counted x (inv.counted x mem number)
  · rw [List.filterMap_append, List.filterMap_cons_none returned, List.filterMap_nil,
      List.append_nil]
    exact inv.genuine

/-- A waiting call that is done leaves the others. -/
theorem Receiving.drop (inv : Receiving s Sealed es c) {front back : List Opening} {p : Opening}
    (here : c.openings = front ++ p :: back) (thrown : e.returned = none) :
    Receiving s Sealed (es ++ [e]) ⟨c.session, c.sealings, front ++ back⟩ := by
  have fewer : (front ++ back).Sublist c.openings := by
    rw [here]
    exact (List.sublist_cons_self p back).append_left front
  have rest : (admitted (es ++ [e]) ⟨c.session, c.sealings, front ++ back⟩).Sublist
      (admitted es c) := by
    rw [admitted_snoc thrown]
    exact (fewer.map _).append_left _
  refine ⟨inv.sessionId, inv.key, fun q mem => inv.keys q (fewer.subset mem),
    fun x mem => inv.counted x (rest.subset mem), inv.nodup.sublist (rest.filter _), ?_⟩
  rw [List.filterMap_append, List.filterMap_cons_none thrown, List.filterMap_nil, List.append_nil]
  exact inv.genuine

theorem Receiving.step (apart : J.TextsApart) (unforgeable : Unforgeable J s Sealed)
    (inv : Receiving s Sealed es c) (step : Step J c e d) :
    Receiving s Sealed (es ++ [e]) d := by
  cases step with
  | encryptRefuse refused =>
      rw [encryptBegin_eq_error refused]
      exact inv.frame rfl rfl (fun _ => id) (fun _ => id) rfl
  | encryptBegin began =>
      obtain ⟨-, rfl⟩ := encryptBegin_eq_ok began
      exact inv.frame rfl rfl (fun _ => id) (fun _ => id) rfl
  | encryptFail front back here failed =>
      exact inv.frame rfl rfl (fun _ => id) (fun _ => id) rfl
  | encryptSettle front back here made =>
      exact inv.frame rfl rfl (fun _ => id) (fun _ => id) rfl
  | decryptMistyped typed => exact inv.frame rfl rfl (fun _ => id) (fun _ => id) rfl
  | decryptRefuse typed refused => exact inv.frame rfl rfl (fun _ => id) (fun _ => id) rfl
  | @decryptBegin now payload fields seq key passed =>
      obtain ⟨keyed, checked⟩ := checkPayload_facts passed
      obtain ⟨sameId, -, sameKey⟩ := takeSeq_frame (c.session.evaluateExpiry now) seq
      have list : admitted (es ++ [.decryptBegan payload])
          ⟨(c.session.evaluateExpiry now).takeSeq seq, c.sealings,
            c.openings ++ [⟨fields, seq, key⟩]⟩ = admitted es c ++ [seq] := by
        rw [admitted_snoc rfl, admitted, List.map_append, ← List.append_assoc]
        rfl
      refine ⟨sameId.trans inv.sessionId, fun k here => inv.key k (sameKey ▸ here), ?_, ?_, ?_, ?_⟩
      · intro p mem
        rcases List.mem_append.mp mem with old | last
        · exact inv.keys p old
        · rw [List.mem_singleton.mp last]
          exact inv.key key keyed
      · rw [list]
        intro x mem number
        rcases List.mem_append.mp mem with old | last
        · have before : (c.session.evaluateExpiry now).Counted x := inv.counted x old number
          exact before.takeSeq seq
        · obtain rfl := List.mem_singleton.mp last
          exact counted_takeSeq number checked
      · rw [list, List.filter_append]
        refine List.nodup_append.mpr ⟨inv.nodup, (List.nodup_singleton seq).filter _, ?_⟩
        intro x mem y last same
        obtain ⟨old, number⟩ := List.mem_filter.mp mem
        obtain ⟨here, -⟩ := List.mem_filter.mp last
        rw [List.mem_singleton.mp here] at same
        subst same
        have number : x ≠ .nan := by simpa using number
        exact not_counted_of_checkSeq number checked (inv.counted x old number)
      · rw [List.filterMap_append, List.filterMap_cons_none rfl, List.filterMap_nil,
          List.append_nil]
        exact inv.genuine
  | decryptFail front back here failed => exact inv.drop here rfl
  | @decryptSettle now front back p plaintext here opened =>
      obtain ⟨nonce, ciphertext, ad, bound, decrypted⟩ := openPayload_facts opened
      have member : p ∈ c.openings := by
        rw [here]
        exact List.mem_append_right _ List.mem_cons_self
      obtain ⟨k, signed, bound', -⟩ := unforgeable.opened (inv.keys p member) decrypted
      rw [inv.sessionId] at bound
      have number := associatedData_inj apart bound bound'
      have moved : (admitted (es ++ [.decrypted p.seq plaintext])
          ⟨c.session.evaluateExpiry now, c.sealings, front ++ back⟩).Perm (admitted es c) := by
        rw [admitted, admitted, here, List.filterMap_append, List.map_append, List.append_assoc]
        simp only [List.filterMap_cons, Event.returned, List.filterMap_nil, List.map_cons,
          List.map_nil, List.map_append, List.singleton_append]
        exact List.perm_middle.symm.append_left _
      refine ⟨inv.sessionId, inv.key, fun q mem => inv.keys q ?_,
        fun x mem => inv.counted x (moved.subset mem), (moved.filter _).nodup_iff.mpr inv.nodup, ?_⟩
      · rw [here]
        exact ((List.sublist_cons_self p back).append_left front).subset mem
      · intro q mem
        rw [List.filterMap_append] at mem
        rcases List.mem_append.mp mem with old | last
        · exact inv.genuine q old
        · rw [List.mem_singleton.mp last]
          exact ⟨k, number, signed⟩
  | activate activated =>
      unfold JsSession.activate at activated
      split at activated
      · cases activated
      · cases activated
        exact inv.frame rfl rfl (fun _ => id) (fun _ => id) rfl
  | revoke => exact inv.frame rfl rfl nofun (fun _ => id) rfl
  | observe => exact inv.frame rfl rfl (fun _ => id) (fun _ => id) rfl

/-! ## A sample run -/

theorem encryptBegin_of_active {now : ℚ} {key : Bytes} (active : s.ActiveAt now)
    (keyed : s.sendKey = some key) :
    s.encryptBegin now = (.ok (s.sendSeq, key), { s with sendSeq := s.sendSeq + 1 }) := by
  unfold encryptBegin
  rw [evaluateExpiry_of_active active]
  simp only [state_of_active active, keyed, requireActive, requireKey, bind, Except.bind]

/-- A text of a number; a whole one has its digits. -/
def numberText : PyFloat → Str
  | .finite q => if q.den = 1 then Str.ofInt q.num else "fraction"
  | .inf negative => if negative then "-Infinity" else "Infinity"
  | .nan => "NaN"

/-- Opens the one ciphertext that the peer has made. -/
def openOnce (key nonce ciphertext ad : Bytes) : Except JsErr Bytes :=
  if ad = .lit "sid:0" ∧ ciphertext = key ++ nonce ++ ad ++ .lit "m" then .ok (.lit "m")
  else .error operationError

/-- A platform where the peer has sealed `m` under its number 0 and nothing else. -/
def sealedOnce : JsPlatform :=
  { JsPlatform.transparent with
    numberToString := fun x => JsStr.ofStr (numberText x)
    aesGcmDecrypt := openOnce }

theorem sealedOnce_apart : sealedOnce.TextsApart := by
  intro x k same
  have natural : numberText (.finite (k : ℚ)) = Str.ofInt k := by
    rw [numberText, Rat.den_natCast, if_pos rfl, Rat.num_natCast]
  have encoded : ∃ b, (numberText x).encode = some b := by
    unfold numberText
    split
    · split
      · exact ⟨_, Str.encode_ofInt _⟩
      · exact ⟨_, Str.encode_ofString _⟩
    · split <;> exact ⟨_, Str.encode_ofString _⟩
    · exact ⟨_, Str.encode_ofString _⟩
  obtain ⟨b, encoded⟩ := encoded
  have texts : numberText x = Str.ofInt k := by
    have left : JsStr.utf8 (sealedOnce.numberToString x) = b := JsStr.utf8_ofStr encoded
    have right : JsStr.utf8 (sealedOnce.numberToString (.finite k)) = _ :=
      JsStr.utf8_ofStr (natural ▸ Str.encode_ofInt k)
    rw [left, right] at same
    exact Str.encode_inj encoded (same ▸ Str.encode_ofInt k)
  cases x with
  | finite q =>
      rw [numberText] at texts
      split at texts
      · rename_i whole
        rw [← Rat.num_div_den q, whole, Str.ofInt_inj.mp texts]
        simp
      · exact absurd texts (Str.ofString_ne_ofInt rfl rfl (by decide))
  | inf negative =>
      rw [numberText] at texts
      split at texts
      · have chars := congrArg String.toList (Str.ofString_inj.mp texts)
        rw [Int.repr_eq_if, if_pos (Int.natCast_nonneg k), Nat.toList_repr] at chars
        have sign : '-' ∈ Nat.toDigits 10 (k : ℤ).toNat := chars ▸ List.mem_cons_self
        exact absurd (Nat.isDigit_of_mem_toDigits (by decide) (by decide) sign) (by decide)
      · exact absurd texts (Str.ofString_ne_ofInt rfl rfl (by decide))
  | nan => exact absurd texts (Str.ofString_ne_ofInt rfl rfl (by decide))

/-- In whatever order calls begin and settle, every number is taken by one `encrypt` and sent in one
payload, and every plaintext that is returned is one that the peer sealed under its number, which
is returned once. -/
theorem numbers_used_once {sessionId : JsVal} {localId : JsStr} {remoteId : JsVal}
    {sharedSecret : Bytes} {isInitiator : Bool} {config : JsSessionConfig} {now : ℚ}
    (made : JsSession.init J sessionId localId remoteId sharedSecret isInitiator config now = .ok s)
    (apart : J.TextsApart) (unforgeable : Unforgeable J s Sealed)
    (run : Run (Step J) (.start s) es c) :
    (es.filterMap Event.taken).Nodup ∧ (es.filterMap Event.sent).Nodup ∧
      ((es.filterMap Event.returned).map Prod.fst).Nodup ∧
      ∀ p ∈ es.filterMap Event.returned, ∃ k : ℕ, p.1 = .finite k ∧ Sealed k p.2 := by
  simp only [JsSession.init, js_bind_eq_ok, js_pure_eq_ok] at made
  obtain ⟨sendKey, -, recvKey, -, rfl⟩ := made
  have sending : Sending es c := run.history (I := Sending) (fun _ _ _ _ inv step => inv.step step)
    ⟨rfl, [], rfl, List.nodup_nil, fun k mem => absurd mem List.not_mem_nil⟩
  have receiving : Receiving _ Sealed es c :=
    run.history (I := Receiving _ Sealed) (fun _ _ _ _ inv step => inv.step apart unforgeable step)
      ⟨rfl, fun _ => id, fun p mem => absurd mem List.not_mem_nil,
        fun x mem => absurd mem List.not_mem_nil, List.nodup_nil,
        fun p mem => absurd mem List.not_mem_nil⟩
  obtain ⟨ks, sent, nodup, -⟩ := sending.sent
  refine ⟨?_, ?_, ?_, receiving.genuine⟩
  · rw [sending.taken]
    exact List.nodup_range
  · rw [sent]
    refine List.Nodup.map ?_ (List.nodup_append.mp nodup).1
    intro k l same
    exact Nat.cast_injective (PyFloat.finite.inj (JsVal.number.inj same))
  · have once := receiving.nodup
    rw [admitted, List.filter_append] at once
    have numbers : ((es.filterMap Event.returned).map Prod.fst).filter (· != .nan) =
        (es.filterMap Event.returned).map Prod.fst := by
      refine List.filter_eq_self.mpr fun x mem => ?_
      obtain ⟨p, returned, rfl⟩ := List.mem_map.mp mem
      obtain ⟨k, number, -⟩ := receiving.genuine p returned
      rw [number]
      rfl
    rw [← numbers]
    exact (List.nodup_append.mp once).1

theorem sealedOnce_unforgeable (named : s.sessionId = .string "sid") :
    Unforgeable sealedOnce s fun k plaintext => k = 0 ∧ plaintext = .lit "m" where
  opened := by
    intro key nonce ciphertext ad plaintext _ opened
    change openOnce _ _ _ _ = _ at opened
    unfold openOnce at opened
    split at opened
    · rename_i genuine
      obtain ⟨rfl, rfl⟩ := genuine
      obtain rfl := Except.ok.inj opened
      refine ⟨0, ⟨rfl, rfl⟩, ?_, rfl⟩
      rw [named]
      decide +kernel
    · cases opened

def directedKey (direction : String) : Bytes :=
  Platform.transparent.hkdf 32 (some [])
    (JsStr.utf8 (JsSessionConfig.default.keyInfo ++ (":enc" : JsStr) ++ (direction : JsStr))) []

/-- A new session of an initiator. -/
def sampleNew : JsSession where
  sessionId := .string "sid"
  localId := "alice"
  remoteId := .string "bob"
  config := .default
  state := .pending
  createdAt := 0
  sendSeq := 0
  recvSeq := 0
  recvCount := 0
  seenSeqs := []
  maxSeenSeq := .finite (-1)
  sendKey := directedKey ":init_to_resp"
  recvKey := directedKey ":resp_to_init"

theorem sampleNew_made :
    JsSession.init sealedOnce (.string "sid") "alice" (.string "bob") [] true .default 0 =
      .ok sampleNew := rfl

def sampleNonce : Urandom NONCE_SIZE := .filled 12 0

/-- The session after it has taken `n` numbers. -/
def sampleTaken (n : ℕ) : JsSession := { sampleNew with state := .active, sendSeq := n }

theorem sampleTaken_active {n : ℕ} (few : n < 10000) : (sampleTaken n).ActiveAt 0 := by
  have young : PyFloat.lt (.finite 3600) (.finite (0 - 0)) = false := by decide +kernel
  have within : PyFloat.le (.finite 10000) (.finite (n + 0 : ℕ)) = false := by
    rw [PyFloat.le_finite, decide_eq_false_iff_not, not_le]
    exact_mod_cast few
  unfold ActiveAt stateAt
  simp only [sampleTaken, sampleNew, JsSessionConfig.default, received, young, within, ne_eq,
    not_true_eq_false, if_true, Bool.false_eq_true, if_false]

def sampleSealing (k : ℕ) : Sealing := ⟨k, directedKey ":init_to_resp", [], sampleNonce⟩

/-- Two calls of `encrypt`, of which the second settles first. -/
theorem sample_encrypts : ∃ es, Run (Step sealedOnce) (.start sampleNew) es (.start (sampleTaken 2)) ∧
    es.filterMap Event.sent = [.number (.finite (1 : ℕ)), .number (.finite (0 : ℕ))] ∧
      es.filterMap Event.returned = [] := by
  have made : ∀ k : ℕ, ∃ payload, sealPayload sealedOnce (.string "sid") (directedKey ":init_to_resp") k
      [] sampleNonce = .ok payload ∧ (Event.encrypted payload).sent = some (.number (.finite k)) :=
    fun k => ⟨_, sealPayload_eq_ok.mpr ⟨_, _, rfl, rfl, rfl⟩, rfl⟩
  obtain ⟨payload₀, made₀, sent₀⟩ := made 0
  obtain ⟨payload₁, made₁, sent₁⟩ := made 1
  have still : (sampleTaken 2).evaluateExpiry 0 = sampleTaken 2 :=
    evaluateExpiry_of_active (sampleTaken_active (by norm_num))
  have began₀ : Step sealedOnce (.start (sampleTaken 0)) (.encryptBegan [] 0)
      ⟨sampleTaken 1, [sampleSealing 0], []⟩ :=
    .encryptBegin (encryptBegin_of_active (sampleTaken_active (by norm_num)) rfl)
  have began₁ : Step sealedOnce ⟨sampleTaken 1, [sampleSealing 0], []⟩ (.encryptBegan [] 1)
      ⟨sampleTaken 2, [sampleSealing 0, sampleSealing 1], []⟩ :=
    .encryptBegin (encryptBegin_of_active (sampleTaken_active (by norm_num)) rfl)
  have settled₁ : Step sealedOnce ⟨sampleTaken 2, [sampleSealing 0, sampleSealing 1], []⟩
      (.encrypted payload₁) ⟨(sampleTaken 2).evaluateExpiry 0, [sampleSealing 0], []⟩ :=
    .encryptSettle [sampleSealing 0] [] rfl made₁
  have settled₀ : Step sealedOnce ⟨sampleTaken 2, [sampleSealing 0], []⟩
      (.encrypted payload₀) ⟨(sampleTaken 2).evaluateExpiry 0, [], []⟩ :=
    .encryptSettle [] [] rfl made₀
  rw [still] at settled₁ settled₀
  refine ⟨_, .cons (.activate rfl) (.cons began₀ (.cons began₁ (.cons settled₁ (.single settled₀)))),
    ?_, rfl⟩
  rw [List.filterMap_cons_none rfl, List.filterMap_cons_none rfl, List.filterMap_cons_none rfl,
    List.filterMap_cons_some sent₁, List.filterMap_cons_some sent₀, List.filterMap_nil]

/-- What the peer has sealed under its number 0. -/
def sampleSealed : Symmetric.Encrypted :=
  ⟨directedKey ":resp_to_init" ++ sampleNonce.1 ++ .lit "sid:0" ++ .lit "m", sampleNonce⟩

def sampleWire : JsObject := wirePayload (.string "sid") 0 sampleSealed

def sampleOpening : Opening := ⟨sampleWire, .finite (0 : ℕ), directedKey ":resp_to_init"⟩

/-- The session after it has counted the number 0. -/
def sampleCounted : JsSession := (sampleTaken 2).takeSeq (.finite (0 : ℕ))

/-- The peer's payload, and the same once more. -/
theorem sample_decrypts : ∃ es, ∃ c : Calls, Run (Step sealedOnce) (.start (sampleTaken 2)) es c ∧
    es.filterMap Event.sent = [] ∧ es.filterMap Event.returned = [(.finite (0 : ℕ), .lit "m")] := by
  have active : (sampleTaken 2).ActiveAt 0 := sampleTaken_active (by norm_num)
  have still : sampleCounted.evaluateExpiry 0 = sampleCounted :=
    evaluateExpiry_of_active (by decide +kernel)
  have passed : (sampleTaken 2).checkSeq sealedOnce (.finite (0 : ℕ)) = .ok () := by decide +kernel
  have refused : ∃ e, sampleCounted.checkSeq sealedOnce (.finite (0 : ℕ)) = .error e := ⟨_, rfl⟩
  obtain ⟨e, refused⟩ := refused
  have first := checkPayload_wire sealedOnce 0 sampleSealed (s := sampleTaken 2) rfl rfl rfl
  have again := checkPayload_wire sealedOnce 0 sampleSealed (s := sampleCounted) rfl rfl rfl
  rw [passed, ← evaluateExpiry_of_active active] at first
  rw [refused, ← still] at again
  have bound : associatedData sealedOnce (.string "sid") (.finite (0 : ℕ)) = .ok (.lit "sid:0") := by
    decide +kernel
  have opened : sealedOnce.aesGcmDecrypt (directedKey ":resp_to_init") sampleSealed.nonce
      sampleSealed.ciphertext (.lit "sid:0") = .ok (.lit "m") := by
    have once : sealedOnce.aesGcmDecrypt = openOnce := rfl
    rw [once, openOnce, if_pos ⟨rfl, rfl⟩]
  have began : Step sealedOnce (.start (sampleTaken 2)) (.decryptBegan (.object sampleWire))
      ⟨((sampleTaken 2).evaluateExpiry 0).takeSeq (.finite (0 : ℕ)), [], [sampleOpening]⟩ :=
    .decryptBegin first
  have settled : Step sealedOnce ⟨sampleCounted, [], [sampleOpening]⟩
      (.decrypted (.finite (0 : ℕ)) (.lit "m")) ⟨sampleCounted.evaluateExpiry 0, [], []⟩ :=
    .decryptSettle (p := sampleOpening) [] [] rfl (openPayload_wire bound opened)
  have typed : payloadFields (.object sampleWire) = .ok sampleWire := rfl
  have replayed : Step sealedOnce (.start sampleCounted) (.thrown e)
      (.start (sampleCounted.evaluateExpiry 0)) :=
    .decryptRefuse typed again
  rw [evaluateExpiry_of_active active] at began
  rw [still] at settled
  exact ⟨_, _, .cons began (.cons settled (.single replayed)), rfl, rfl⟩

/-- The two runs, one behind the other. -/
theorem sample_numbers_used_once : ∃ es : List Event, es.filterMap Event.sent =
      [.number (.finite (1 : ℕ)), .number (.finite (0 : ℕ))] ∧
    es.filterMap Event.returned = [(.finite (0 : ℕ), .lit "m")] ∧
      (es.filterMap Event.taken).Nodup ∧ ((es.filterMap Event.returned).map Prod.fst).Nodup := by
  obtain ⟨es, encrypts, sent, none⟩ := sample_encrypts
  obtain ⟨fs, c, decrypts, none', returned⟩ := sample_decrypts
  obtain ⟨taken, -, once, -⟩ := numbers_used_once sampleNew_made sealedOnce_apart
    (sealedOnce_unforgeable rfl) (encrypts.append decrypts)
  refine ⟨es ++ fs, ?_, ?_, taken, once⟩
  · rw [List.filterMap_append, sent, none', List.append_nil]
  · rw [List.filterMap_append, none, returned, List.nil_append]

end JsSession

end Uxsp
