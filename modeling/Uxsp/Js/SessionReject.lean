import Uxsp.Js.Session
import Uxsp.Js.Transparent

/-!
# What a rejected payload leaves behind

`decrypt` counts a number as received before it has decoded the payload and before Web Crypto has
checked it, and gives no number back.  `rejected_counters_iff` says which rejected payloads leave the
receiving state as it was.
-/

namespace Uxsp.JsSession

variable {J : JsPlatform} {s t : JsSession} {payload : JsVal} {now after : ℚ} {seq : PyFloat}
  {e : JsErr}

/-- What of the receiving side a payload may change. -/
def counters (s : JsSession) : ℕ × List PyFloat × PyFloat × ℕ :=
  (s.recvSeq, s.seenSeqs, s.maxSeenSeq, s.recvCount)

/-- The payload passes the checks that come before its number is counted. -/
def Takes (J : JsPlatform) (s : JsSession) (payload : JsVal) (now : ℚ) : Prop :=
  ∃ fields seq key, (s.evaluateExpiry now).checkPayload J payload = .ok (fields, seq, key)

theorem counters_evaluateExpiry (s : JsSession) (now : ℚ) :
    (s.evaluateExpiry now).counters = s.counters := rfl

/-- A number that is counted shows, in either mode. -/
theorem counters_takeSeq_ne (s : JsSession) (seq : PyFloat) :
    (s.takeSeq seq).counters ≠ s.counters := by
  intro same
  unfold takeSeq at same
  split at same
  · have grown : s.recvSeq + 1 = s.recvSeq := congrArg Prod.fst same
    omega
  · have grown : s.recvCount + 1 = s.recvCount := congrArg (fun c => c.2.2.2) same
    omega

theorem not_takes_of_fields (refused : payloadFields payload = .error e) :
    ¬ s.Takes J payload now := by
  intro takes
  obtain ⟨fields, seq, key, passed⟩ := takes
  rw [checkPayload, refused] at passed
  cases passed

/-- A rejected payload leaves the receiving state alone exactly if a check stops it before its
number is counted. -/
theorem rejected_counters_iff (rejected : s.decrypt J payload now after = (.error e, t)) :
    t.counters = s.counters ↔ ¬ s.Takes J payload now := by
  unfold decrypt at rejected
  cases typed : payloadFields payload with
  | error e' =>
      rw [typed] at rejected
      cases rejected
      exact ⟨fun _ => not_takes_of_fields typed, fun _ => rfl⟩
  | ok _ =>
      rw [typed] at rejected
      cases checked : (s.evaluateExpiry now).checkPayload J payload with
      | error e' =>
          simp only [checked] at rejected
          cases rejected
          refine ⟨fun _ takes => ?_, fun _ => rfl⟩
          obtain ⟨fields, seq, key, passed⟩ := takes
          rw [checked] at passed
          cases passed
      | ok taken =>
          obtain ⟨fields, seq, key⟩ := taken
          simp only [checked] at rejected
          refine iff_of_false ?_ (not_not.mpr ⟨fields, seq, key, checked⟩)
          cases opened : openPayload J (s.evaluateExpiry now).sessionId key fields seq with
          | error e' =>
              simp only [opened] at rejected
              cases rejected
              exact counters_takeSeq_ne (s.evaluateExpiry now) seq
          | ok plaintext =>
              simp only [opened] at rejected
              cases rejected

/-! ## A forged payload -/

def sampleKey : Bytes := List.replicate 32 7

/-- An active session for the sample key. -/
def sample (ordering : Bool) : JsSession where
  sessionId := .string "sid"
  localId := "bob"
  remoteId := .string "alice"
  config := { JsSessionConfig.default with enforceOrdering := ordering }
  state := .active
  createdAt := 0
  sendSeq := 0
  recvSeq := 0
  recvCount := 0
  seenSeqs := []
  maxSeenSeq := .finite (-1)
  sendKey := sampleKey
  recvKey := sampleKey

/-- A payload of a number below ten, with the plaintext `m`. -/
def samplePayload (seq : ℕ) : JsVal := .object
  [("session_id", .string "sid"), ("seq", .number (.finite seq)),
    ("ciphertext", .string (JsStr.ofBytes (sampleKey ++ List.replicate 12 0 ++ .lit "sid:" ++
      [UInt8.ofNat (48 + seq)] ++ .lit "m"))),
    ("nonce", .string (JsStr.ofBytes (List.replicate 12 0)))]

/-- A payload that no key made. -/
def forgedPayload (seq : ℕ) : JsVal := .object
  [("session_id", .string "sid"), ("seq", .number (.finite seq)),
    ("ciphertext", .string "0"), ("nonce", .string "")]

/-- A payload that comes too early is rejected and leaves no trace. -/
theorem sample_early_counters : ¬ (sample true).Takes .transparent (samplePayload 1) 0 := by
  have failed : ((sample true).decrypt .transparent (samplePayload 1) 0 0).1.isOk = false := by
    decide +kernel
  have same : ((sample true).decrypt .transparent (samplePayload 1) 0 0).2.counters =
      (sample true).counters := by
    decide +kernel
  cases out : (sample true).decrypt .transparent (samplePayload 1) 0 0 with
  | mk result t =>
      rw [out] at failed same
      cases result with
      | ok plaintext => cases failed
      | error e => exact (rejected_counters_iff out).mp same

/-- A forged payload is rejected, changes the counters, and has the genuine payload of its number
rejected that was accepted before. -/
def Misled (s : JsSession) : Prop :=
  (s.decrypt .transparent (forgedPayload 0) 0 0).1.isOk = false ∧
    (s.decrypt .transparent (forgedPayload 0) 0 0).2.counters ≠ s.counters ∧
    (s.decrypt .transparent (samplePayload 0) 0 0).1.isOk = true ∧
    ((s.decrypt .transparent (forgedPayload 0) 0 0).2.decrypt .transparent (samplePayload 0)
      0 0).1.isOk = false

instance (s : JsSession) : Decidable (Misled s) := inferInstanceAs (Decidable (_ ∧ _ ∧ _ ∧ _))

/-- It happens in either mode. -/
theorem forged_payload_counted : Misled (sample true) ∧ Misled (sample false) := by
  decide +kernel

end Uxsp.JsSession
