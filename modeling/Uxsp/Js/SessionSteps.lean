import Uxsp.Crypto.Symmetric
import Uxsp.Js.Session

/-!
# What `decrypt` does with a payload of the peer

A payload on the wire has the session's identifier, a number and two fields in hexadecimal.  What
`decrypt` does with one is said here once for each of the ways it ends.
-/

namespace Uxsp

@[simp] theorem PyFloat.lt_finite (p q : ℚ) :
    (PyFloat.finite p).lt (.finite q) = decide (p < q) := rfl

@[simp] theorem PyFloat.le_finite (p q : ℚ) :
    (PyFloat.finite p).le (.finite q) = decide (p ≤ q) := by
  rw [Bool.eq_iff_iff]
  simp [PyFloat.le, le_iff_lt_or_eq]

namespace JsSession

variable {J : JsPlatform} {s : JsSession} {now : ℚ} {seq : ℕ} {key ad plaintext : Bytes} {id : JsStr}
  {enc : Symmetric.Encrypted} {e : JsErr}

/-- The session is active and neither its lifetime nor its message cap is used up. -/
def ActiveAt (s : JsSession) (now : ℚ) : Prop := s.stateAt now = .active

instance (s : JsSession) (now : ℚ) : Decidable (s.ActiveAt now) :=
  inferInstanceAs (Decidable (_ = _))

theorem state_of_active (active : s.ActiveAt now) : s.state = .active := by
  unfold ActiveAt stateAt at active
  split at active
  · exact active
  · rename_i here
    exact not_not.mp here

theorem evaluateExpiry_of_active (active : s.ActiveAt now) : s.evaluateExpiry now = s := by
  have same : s.stateAt now = s.state := active.trans (state_of_active active).symm
  rw [evaluateExpiry, same]

/-- The object that `encrypt` returns. -/
def wirePayload (sessionId : JsVal) (seq : ℕ) (enc : Symmetric.Encrypted) : JsObject :=
  [("session_id", sessionId), ("seq", .number (.finite seq)),
    ("ciphertext", .string (JsStr.ofBytes enc.ciphertext)),
    ("nonce", .string (JsStr.ofBytes enc.nonce))]

theorem sealPayload_eq_ok {sessionId : JsVal} {nonce : Urandom NONCE_SIZE} {payload : JsObject} :
    sealPayload J sessionId key seq plaintext nonce = .ok payload ↔
      ∃ ad ciphertext, associatedData J sessionId (.finite seq) = .ok ad ∧
        J.aesGcmEncrypt key nonce plaintext ad = .ok ciphertext ∧
        payload = wirePayload sessionId seq ⟨ciphertext, nonce⟩ := by
  simp only [sealPayload, js_bind_eq_ok, js_pure_eq_ok]
  constructor
  · rintro ⟨ad, built, ciphertext, encrypted, rfl⟩
    exact ⟨ad, ciphertext, built, encrypted, rfl⟩
  · rintro ⟨ad, ciphertext, built, encrypted, rfl⟩
    exact ⟨ad, built, ciphertext, encrypted, rfl⟩

variable (J seq enc) in
/-- A payload of this session passes every check but that of its number. -/
theorem checkPayload_wire (named : s.sessionId = .string id) (keyed : s.recvKey = some key)
    (active : s.state = .active) : s.checkPayload J (.object (wirePayload (.string id) seq enc)) =
      (s.checkSeq J (.finite seq)).map fun _ =>
        (wirePayload (.string id) seq enc, .finite seq, key) := by
  have whose : strictEq (JsObject.get? (wirePayload (.string id) seq enc) "session_id")
      s.sessionId = true := by
    rw [named]
    exact beq_self_eq_true id
  have number : payloadSeq (JsObject.get? (wirePayload (.string id) seq enc) "seq") =
      .ok (.finite seq) := by
    show payloadSeq (some (.number (.finite seq))) = _
    have small : ¬ ((seq : ℚ) < 0) := not_lt.mpr (Nat.cast_nonneg seq)
    rw [payloadSeq, PyFloat.lt_finite, decide_eq_false small]
    rfl
  unfold checkPayload
  rw [keyed, active]
  simp only [payloadFields, requireActive, requireKey, bind, Except.bind, whose, jsEnsure, if_true,
    number]
  cases s.checkSeq J (.finite seq) with
  | error e => rfl
  | ok _ => rfl

theorem openPayload_wire (built : associatedData J (.string id) (.finite seq) = .ok ad)
    (opened : J.aesGcmDecrypt key enc.nonce enc.ciphertext ad = .ok plaintext) :
    openPayload J (.string id) key (wirePayload (.string id) seq enc) (.finite seq) =
      .ok plaintext := by
  have nonce : (wirePayload (.string id) seq enc).item "nonce" =
      .ok (.string (JsStr.ofBytes enc.nonce)) := rfl
  have ciphertext : (wirePayload (.string id) seq enc).item "ciphertext" =
      .ok (.string (JsStr.ofBytes enc.ciphertext)) := rfl
  unfold openPayload
  rw [nonce, ciphertext, built]
  simp only [bind, Except.bind, decodeHex_ofBytes, opened]
  rfl

theorem decrypt_inactive (after : ℚ) (inactive : ¬ s.ActiveAt now) (fields : JsObject) :
    ∃ e, s.decrypt J (.object fields) now after = (.error e, s.evaluateExpiry now) := by
  have refused : ∃ e, (s.evaluateExpiry now).checkPayload J (.object fields) = .error e := by
    unfold checkPayload
    cases state : (s.evaluateExpiry now).state with
    | active => exact absurd state inactive
    | pending | expired | revoked => exact ⟨_, rfl⟩
  obtain ⟨e, refused⟩ := refused
  refine ⟨e, ?_⟩
  simp only [decrypt, payloadFields, refused]

theorem decrypt_refused (after : ℚ) (named : s.sessionId = .string id)
    (keyed : s.recvKey = some key) (active : s.ActiveAt now)
    (refused : s.checkSeq J (.finite seq) = .error e) :
    s.decrypt J (.object (wirePayload (.string id) seq enc)) now after = (.error e, s) := by
  have checked := checkPayload_wire J seq enc named keyed (state_of_active active)
  rw [refused] at checked
  simp only [decrypt, payloadFields, evaluateExpiry_of_active active, checked, Except.map]

theorem decrypt_opened (after : ℚ) (named : s.sessionId = .string id)
    (keyed : s.recvKey = some key) (active : s.ActiveAt now)
    (taken : s.checkSeq J (.finite seq) = .ok ())
    (built : associatedData J (.string id) (.finite seq) = .ok ad)
    (opened : J.aesGcmDecrypt key enc.nonce enc.ciphertext ad = .ok plaintext) :
    s.decrypt J (.object (wirePayload (.string id) seq enc)) now after =
      (.ok plaintext, (s.takeSeq (.finite seq)).evaluateExpiry after) := by
  have checked := checkPayload_wire J seq enc named keyed (state_of_active active)
  rw [taken] at checked
  simp only [decrypt, payloadFields, evaluateExpiry_of_active active, checked, Except.map, named,
    openPayload_wire built opened]

variable (J seq) in
/-- In unordered mode a number passes that was not seen and is at most 128 below the maximum. -/
theorem checkSeq_unordered (unordered : s.config.enforceOrdering = false) {max : ℤ}
    (maximum : s.maxSeenSeq = .finite max) : s.checkSeq J (.finite seq) = .ok () ↔
      .finite seq ∉ s.seenSeqs ∧ max ≤ seq + 128 := by
  unfold checkSeq checkWindow
  rw [unordered, maximum]
  simp only [Bool.false_eq_true, if_false, js_bind_eq_ok, jsEnsure_eq_ok, Bool.not_eq_true',
    List.contains_eq_mem, decide_eq_false_iff_not, windowStart, WINDOW_SIZE, PyFloat.lt_finite,
    not_lt]
  have cast : (max : ℚ) - 128 ≤ seq ↔ max ≤ (seq : ℤ) + 128 := by
    rw [sub_le_iff_le_add]
    exact_mod_cast Iff.rfl
  rw [cast]
  constructor
  · rintro ⟨_, new, near⟩
    exact ⟨new, near⟩
  · rintro ⟨new, near⟩
    exact ⟨(), new, near⟩

end JsSession

end Uxsp
