import Uxsp.Core.Session
import Uxsp.Lib.Run

/-!
# What a call of a session does

One lemma for each method says everything the method can do: `DecryptStep` lists the six ways
`decrypt` ends, `EncryptStep` the three of `encrypt`.  The invariants of sessions are proved from
these lists, not from the code again.
-/

namespace Uxsp.Session

variable {P : Platform} {s s' : Session} {now after : ℚ}

/-! ## Expiry -/

/-- The session is active and neither its lifetime nor its message cap is used up. -/
def ActiveAt (s : Session) (now : ℚ) : Prop :=
  s.state = .active ∧ now - s.createdAt ≤ s.config.maxLifetimeSeconds ∧
    s.messageCount < s.config.maxMessages

instance (s : Session) (now : ℚ) : Decidable (s.ActiveAt now) :=
  inferInstanceAs (Decidable (_ ∧ _))

theorem stateAt_of_not_active (h : s.state ≠ .active) : s.stateAt now = s.state := if_pos h

theorem stateAt_eq_active : s.stateAt now = .active ↔ s.ActiveAt now := by
  unfold stateAt ActiveAt
  split
  · rename_i other
    exact ⟨fun h => absurd h other, fun h => absurd h.1 other⟩
  · rename_i active
    have active := not_not.mp active
    split
    · rename_i old
      exact ⟨nofun, fun h => absurd h.2.1 (not_le.mpr old)⟩
    · rename_i young
      split
      · rename_i used
        exact ⟨nofun, fun h => absurd h.2.2 (not_lt.mpr used)⟩
      · rename_i unused
        exact ⟨fun _ => ⟨active, not_lt.mp young, not_le.mp unused⟩, fun _ => active⟩

theorem stateAt_cases : s.stateAt now = s.state ∨ s.state = .active ∧ s.stateAt now = .expired := by
  unfold stateAt
  split
  · exact Or.inl rfl
  · rename_i active
    have active := not_not.mp active
    split
    · exact Or.inr ⟨active, rfl⟩
    · split
      · exact Or.inr ⟨active, rfl⟩
      · exact Or.inl rfl

theorem evaluateExpiry_of_active (h : s.ActiveAt now) : s.evaluateExpiry now = s := by
  have same : s.stateAt now = s.state := (stateAt_eq_active.mpr h).trans h.1.symm
  simp only [evaluateExpiry, same]

theorem checkActive_of_active (h : s.ActiveAt now) : s.checkActive now = (.ok (), s) := by
  have active : (s.evaluateExpiry now).state = .active := stateAt_eq_active.mpr h
  rw [checkActive]
  simp only [active]
  rw [evaluateExpiry_of_active h]

theorem checkActive_of_not_active (h : ¬ s.ActiveAt now) :
    ∃ e, s.checkActive now = (.error e, s.evaluateExpiry now) := by
  have other : (s.evaluateExpiry now).state ≠ .active := fun active =>
    h (stateAt_eq_active.mp active)
  unfold checkActive
  cases state : (s.evaluateExpiry now).state with
  | active => exact absurd state other
  | pending | expired | revoked => simp only [state]; exact ⟨_, rfl⟩

/-! ## Encrypt -/

theorem encryptBegin_of_active (h : s.ActiveAt now) :
    s.encryptBegin now = (.ok s.sendSeq, { s with sendSeq := s.sendSeq + 1 }) := by
  simp only [encryptBegin, checkActive_of_active h]

theorem encryptBegin_of_not_active (h : ¬ s.ActiveAt now) :
    ∃ e, s.encryptBegin now = (.error e, s.evaluateExpiry now) := by
  obtain ⟨e, inactive⟩ := checkActive_of_not_active h
  exact ⟨e, by simp only [encryptBegin, inactive]⟩

/-- The ways `encrypt` ends. -/
inductive EncryptStep (P : Platform) (s : Session) (plaintext : Bytes)
    (nonce : Urandom NONCE_SIZE) (now after : ℚ) : Except PyErr Dict → Session → Prop
  | inactive {e : PyErr} :
      ¬ s.ActiveAt now → EncryptStep P s plaintext nonce now after (.error e) (s.evaluateExpiry now)
  | burnt {e : PyErr} :
      s.ActiveAt now → sealPayload P s.sessionId s.sendKey s.sendSeq plaintext nonce = .error e →
      EncryptStep P s plaintext nonce now after (.error e) { s with sendSeq := s.sendSeq + 1 }
  | sent {payload : Dict} :
      s.ActiveAt now →
      sealPayload P s.sessionId s.sendKey s.sendSeq plaintext nonce = .ok payload →
      EncryptStep P s plaintext nonce now after (.ok payload)
        (({ s with sendSeq := s.sendSeq + 1 } : Session).evaluateExpiry after)

theorem encrypt_step (P : Platform) (s : Session) (plaintext : Bytes)
    (nonce : Urandom NONCE_SIZE) (now after : ℚ) :
    EncryptStep P s plaintext nonce now after (encrypt P s plaintext nonce now after).1
      (encrypt P s plaintext nonce now after).2 := by
  by_cases active : s.ActiveAt now
  · simp only [encrypt, encryptBegin_of_active active]
    cases sealed : sealPayload P s.sessionId s.sendKey s.sendSeq plaintext nonce with
    | error e => exact .burnt active sealed
    | ok payload => exact .sent active sealed
  · obtain ⟨e, inactive⟩ := encryptBegin_of_not_active active
    simp only [encrypt, inactive]
    exact .inactive active

/-! ## Decrypt -/

/-- The ways the locked block of `decrypt` ends. -/
inductive LockedStep (P : Platform) (s : Session) (m : Incoming) (now : ℚ) :
    Except PyErr Bytes → Session → Prop
  | inactive {e : PyErr} :
      ¬ s.ActiveAt now → LockedStep P s m now (.error e) (s.evaluateExpiry now)
  | refused {e : PyErr} :
      s.ActiveAt now → s.acceptSeq P.toRuntime m.seq = .error e →
      LockedStep P s m now (.error e) s
  | unprintable {advanced : Session} {e : PyErr} :
      s.ActiveAt now → s.acceptSeq P.toRuntime m.seq = .ok advanced →
      associatedData P.toRuntime s.sessionId m.seq = .error e →
      LockedStep P s m now (.error e) advanced
  | unauthentic {advanced : Session} {ad : Bytes} {e : PyErr} :
      s.ActiveAt now → s.acceptSeq P.toRuntime m.seq = .ok advanced →
      associatedData P.toRuntime s.sessionId m.seq = .ok ad →
      Symmetric.decrypt P m.ciphertext m.nonce s.recvKey ad = .error e →
      LockedStep P s m now (.error (decryptionError e)) (advanced.rollbackSeq m.seq)
  | delivered {advanced : Session} {ad plaintext : Bytes} :
      s.ActiveAt now → s.acceptSeq P.toRuntime m.seq = .ok advanced →
      associatedData P.toRuntime s.sessionId m.seq = .ok ad →
      Symmetric.decrypt P m.ciphertext m.nonce s.recvKey ad = .ok plaintext →
      LockedStep P s m now (.ok plaintext) advanced

theorem decryptLocked_step (P : Platform) (s : Session) (m : Incoming) (now : ℚ) :
    LockedStep P s m now (decryptLocked P s m now).1 (decryptLocked P s m now).2 := by
  unfold decryptLocked
  by_cases active : s.ActiveAt now
  · simp only [checkActive_of_active active]
    cases accepted : s.acceptSeq P.toRuntime m.seq with
    | error e => exact .refused active accepted
    | ok advanced =>
        simp only
        cases built : associatedData P.toRuntime s.sessionId m.seq with
        | error e => exact .unprintable active accepted built
        | ok ad =>
            simp only
            cases opened : Symmetric.decrypt P m.ciphertext m.nonce s.recvKey ad with
            | error e => exact .unauthentic active accepted built opened
            | ok plaintext => exact .delivered active accepted built opened
  · obtain ⟨e, inactive⟩ := checkActive_of_not_active active
    simp only [inactive]
    exact .inactive active

/-- The ways `decrypt` ends. -/
inductive DecryptStep (P : Platform) (s : Session) (payload : Dict) (now after : ℚ) :
    Except PyErr Bytes → Session → Prop
  | malformed {e : PyErr} :
      s.validatePayload P.toRuntime payload = .error e →
      DecryptStep P s payload now after (.error e) s
  | inactive {m : Incoming} {e : PyErr} :
      s.validatePayload P.toRuntime payload = .ok m → ¬ s.ActiveAt now →
      DecryptStep P s payload now after (.error e) (s.evaluateExpiry now)
  | refused {m : Incoming} {e : PyErr} :
      s.validatePayload P.toRuntime payload = .ok m → s.ActiveAt now →
      s.acceptSeq P.toRuntime m.seq = .error e →
      DecryptStep P s payload now after (.error e) s
  | unprintable {m : Incoming} {advanced : Session} {e : PyErr} :
      s.validatePayload P.toRuntime payload = .ok m → s.ActiveAt now →
      s.acceptSeq P.toRuntime m.seq = .ok advanced →
      associatedData P.toRuntime s.sessionId m.seq = .error e →
      DecryptStep P s payload now after (.error e) advanced
  | unauthentic {m : Incoming} {advanced : Session} {ad : Bytes} {e : PyErr} :
      s.validatePayload P.toRuntime payload = .ok m → s.ActiveAt now →
      s.acceptSeq P.toRuntime m.seq = .ok advanced →
      associatedData P.toRuntime s.sessionId m.seq = .ok ad →
      Symmetric.decrypt P m.ciphertext m.nonce s.recvKey ad = .error e →
      DecryptStep P s payload now after (.error (decryptionError e)) (advanced.rollbackSeq m.seq)
  | delivered {m : Incoming} {advanced : Session} {ad plaintext : Bytes} :
      s.validatePayload P.toRuntime payload = .ok m → s.ActiveAt now →
      s.acceptSeq P.toRuntime m.seq = .ok advanced →
      associatedData P.toRuntime s.sessionId m.seq = .ok ad →
      Symmetric.decrypt P m.ciphertext m.nonce s.recvKey ad = .ok plaintext →
      DecryptStep P s payload now after (.ok plaintext) (advanced.evaluateExpiry after)

theorem decrypt_step (P : Platform) (s : Session) (payload : Dict) (now after : ℚ) :
    DecryptStep P s payload now after (decrypt P s payload now after).1
      (decrypt P s payload now after).2 := by
  unfold decrypt
  cases valid : s.validatePayload P.toRuntime payload with
  | error e => exact .malformed valid
  | ok m =>
      have locked := decryptLocked_step P s m now
      simp only
      generalize decryptLocked P s m now = out at locked ⊢
      rcases out with ⟨r, left⟩
      simp only at locked ⊢
      cases locked with
      | inactive active => exact .inactive valid active
      | refused active accepted => exact .refused valid active accepted
      | unprintable active accepted built => exact .unprintable valid active accepted built
      | unauthentic active accepted built opened =>
          exact .unauthentic valid active accepted built opened
      | delivered active accepted built opened =>
          exact .delivered valid active accepted built opened

/-! ## Payloads -/

theorem associatedData_eq {R : Runtime} {sessionId : Str} {b : Bytes}
    (encoded : sessionId.encode = some b) {seq : ℕ} (short : Str.printable seq) :
    associatedData R sessionId seq = .ok (b ++ .lit ":" ++ .lit (Int.repr seq)) := by
  have printed : R.str (.int seq) = .ok (Str.ofInt seq) := R.str_int short
  have utf8 : (sessionId ++ (":" : Str) ++ Str.ofInt seq).utf8 =
      .ok (b ++ .lit ":" ++ .lit (Int.repr seq)) := by
    rw [Str.utf8_eq_ok, Str.encode_append, Str.encode_append, encoded]
    simp
  rw [associatedData, printed]
  exact utf8

theorem sealPayload_eq_ok {sessionId : Str} {key plaintext : Bytes} {seq : ℕ}
    {nonce : Urandom NONCE_SIZE} {payload : Dict} :
    sealPayload P sessionId key seq plaintext nonce = .ok payload ↔
      ∃ ad result, associatedData P.toRuntime sessionId seq = .ok ad ∧
        Symmetric.encrypt P plaintext key ad nonce = .ok result ∧
        payload = payloadDict sessionId seq result := by
  unfold sealPayload
  cases associatedData P.toRuntime sessionId seq with
  | error e => exact ⟨nofun, nofun⟩
  | ok ad =>
      simp only [bind, Except.bind]
      cases sealed : Symmetric.encrypt P plaintext key ad nonce with
      | error e =>
          refine ⟨nofun, ?_⟩
          rintro ⟨ad', result, same, encrypted, -⟩
          cases same
          rw [sealed] at encrypted
          cases encrypted
      | ok result =>
          constructor
          · intro h
            cases h
            exact ⟨ad, result, rfl, sealed, rfl⟩
          · rintro ⟨ad', result', same, encrypted, rfl⟩
            cases same
            rw [sealed] at encrypted
            cases encrypted
            rfl

/-- The fields of a well-formed payload for this session pass. -/
theorem validatePayload_payloadDict {R : Runtime} (seq : ℕ) (result : Symmetric.Encrypted) :
    s.validatePayload R (payloadDict s.sessionId seq result) =
      .ok ⟨seq, result.ciphertext, result.nonce⟩ := by
  simp [validatePayload, payloadDict]

/-! ## Sequence numbers -/

theorem acceptOrdered_eq_ok {R : Runtime} {seq : ℕ} {advanced : Session} :
    s.acceptOrdered R seq = .ok advanced ↔
      seq = s.recvSeq ∧ advanced = { s with recvSeq := s.recvSeq + 1 } := by
  unfold acceptOrdered
  split
  · exact ⟨nofun, fun h => by omega⟩
  · split
    · exact ⟨nofun, fun h => by omega⟩
    · rw [Except.ok.injEq]
      exact ⟨fun h => ⟨by omega, h.symm⟩, fun h => h.2.symm⟩

/-- The replay window lets the number through. -/
def Fits (s : Session) (seq : ℕ) : Prop :=
  seq ∉ s.seenSeqs ∧ ¬ (0 ≤ s.maxSeenSeq ∧ (seq : ℤ) < s.windowFloor)

instance (s : Session) (seq : ℕ) : Decidable (s.Fits seq) :=
  inferInstanceAs (Decidable (_ ∧ _))

theorem acceptWindow_eq_ok {R : Runtime} {seq : ℕ} {advanced : Session} :
    s.acceptWindow R seq = .ok advanced ↔ s.Fits seq ∧ advanced = s.advanceWindow seq := by
  unfold acceptWindow Fits
  split
  · rename_i seen
    exact ⟨nofun, fun h => absurd seen h.1.1⟩
  · rename_i unseen
    split
    · rename_i below
      exact ⟨nofun, fun h => absurd below h.1.2⟩
    · rename_i inside
      rw [Except.ok.injEq]
      exact ⟨fun h => ⟨⟨unseen, inside⟩, h.symm⟩, fun h => h.2.symm⟩

/-- The session's mode lets the number through. -/
def Admitted (s : Session) (seq : ℕ) : Prop :=
  if s.config.enforceOrdering then seq = s.recvSeq else s.Fits seq

instance (s : Session) (seq : ℕ) : Decidable (s.Admitted seq) :=
  inferInstanceAs (Decidable (ite _ _ _))

/-- The session after a number has been let through. -/
def advance (s : Session) (seq : ℕ) : Session :=
  if s.config.enforceOrdering then { s with recvSeq := s.recvSeq + 1 } else s.advanceWindow seq

theorem acceptSeq_eq_ok {R : Runtime} {seq : ℕ} {advanced : Session} :
    s.acceptSeq R seq = .ok advanced ↔ s.Admitted seq ∧ advanced = s.advance seq := by
  unfold acceptSeq Admitted advance
  split
  · exact acceptOrdered_eq_ok
  · exact acceptWindow_eq_ok

theorem acceptSeq_of_admitted {R : Runtime} {seq : ℕ} (h : s.Admitted seq) :
    s.acceptSeq R seq = .ok (s.advance seq) :=
  acceptSeq_eq_ok.mpr ⟨h, rfl⟩

theorem exists_acceptSeq_error {R : Runtime} {seq : ℕ} (h : ¬ s.Admitted seq) :
    ∃ e, s.acceptSeq R seq = .error e := by
  cases accepted : s.acceptSeq R seq with
  | error e => exact ⟨e, rfl⟩
  | ok advanced => exact absurd (acceptSeq_eq_ok.mp accepted).1 h

/-! ## Payloads the peer made -/

/-- An admitted payload of the peer is opened. -/
theorem decrypt_genuine (after : ℚ) (correct : P.AeadCorrect) {seq : ℕ} {plaintext : Bytes}
    {nonce : Urandom NONCE_SIZE} {payload : Dict} (active : s.ActiveAt now)
    (admitted : s.Admitted seq)
    (genuine : sealPayload P s.sessionId s.recvKey seq plaintext nonce = .ok payload) :
    decrypt P s payload now after = (.ok plaintext, (s.advance seq).evaluateExpiry after) := by
  obtain ⟨ad, result, built, sealed, rfl⟩ := sealPayload_eq_ok.mp genuine
  simp only [decrypt, validatePayload_payloadDict, decryptLocked, checkActive_of_active active,
    acceptSeq_of_admitted admitted, built, Symmetric.decrypt_encrypt correct sealed]

/-- A payload whose number is not admitted changes nothing, whoever made it. -/
theorem decrypt_refused (after : ℚ) {m : Incoming} {payload : Dict}
    (valid : s.validatePayload P.toRuntime payload = .ok m) (active : s.ActiveAt now)
    (refused : ¬ s.Admitted m.seq) : ∃ e, decrypt P s payload now after = (.error e, s) := by
  obtain ⟨e, refused⟩ := exists_acceptSeq_error (R := P.toRuntime) refused
  refine ⟨e, ?_⟩
  simp only [decrypt, valid, decryptLocked, checkActive_of_active active, refused]

theorem decrypt_inactive (after : ℚ) {m : Incoming} {payload : Dict}
    (valid : s.validatePayload P.toRuntime payload = .ok m) (inactive : ¬ s.ActiveAt now) :
    ∃ e, decrypt P s payload now after = (.error e, s.evaluateExpiry now) := by
  obtain ⟨e, inactive⟩ := checkActive_of_not_active inactive
  refine ⟨e, ?_⟩
  simp only [decrypt, valid, decryptLocked, inactive]

/-- The ciphertext is refused under the associated data of its number. -/
def Unauthentic (P : Platform) (s : Session) (m : Incoming) : Prop :=
  ∃ ad e, associatedData P.toRuntime s.sessionId m.seq = .ok ad ∧
    Symmetric.decrypt P m.ciphertext m.nonce s.recvKey ad = .error e

theorem decrypt_unauthentic (after : ℚ) {m : Incoming} {payload : Dict} {ad : Bytes} {e : PyErr}
    (valid : s.validatePayload P.toRuntime payload = .ok m) (active : s.ActiveAt now)
    (admitted : s.Admitted m.seq)
    (built : associatedData P.toRuntime s.sessionId m.seq = .ok ad)
    (refused : Symmetric.decrypt P m.ciphertext m.nonce s.recvKey ad = .error e) :
    decrypt P s payload now after =
      (.error (decryptionError e), (s.advance m.seq).rollbackSeq m.seq) := by
  simp only [decrypt, valid, decryptLocked, checkActive_of_active active,
    acceptSeq_of_admitted admitted, built, refused]

theorem validatePayload_genuine {R : Runtime} {key plaintext : Bytes} {seq : ℕ}
    {nonce : Urandom NONCE_SIZE} {payload : Dict}
    (genuine : sealPayload P s.sessionId key seq plaintext nonce = .ok payload) :
    ∃ m : Incoming, s.validatePayload R payload = .ok m ∧ m.seq = seq := by
  obtain ⟨ad, result, -, -, rfl⟩ := sealPayload_eq_ok.mp genuine
  exact ⟨_, validatePayload_payloadDict seq result, rfl⟩

/-! ## What calls leave alone -/

/-- Two states of one channel: identities, configuration, age and keys agree. -/
structure SameChannel (s t : Session) : Prop where
  sessionId : t.sessionId = s.sessionId
  localId : t.localId = s.localId
  remoteId : t.remoteId = s.remoteId
  config : t.config = s.config
  createdAt : t.createdAt = s.createdAt
  sendKey : t.sendKey = s.sendKey
  recvKey : t.recvKey = s.recvKey

theorem SameChannel.refl (s : Session) : SameChannel s s := by constructor <;> rfl

theorem SameChannel.trans {s t u : Session} (first : SameChannel s t) (second : SameChannel t u) :
    SameChannel s u where
  sessionId := second.sessionId.trans first.sessionId
  localId := second.localId.trans first.localId
  remoteId := second.remoteId.trans first.remoteId
  config := second.config.trans first.config
  createdAt := second.createdAt.trans first.createdAt
  sendKey := second.sendKey.trans first.sendKey
  recvKey := second.recvKey.trans first.recvKey

theorem SameChannel.evaluateExpiry (s : Session) (now : ℚ) :
    SameChannel s (s.evaluateExpiry now) := by constructor <;> rfl

theorem SameChannel.advance (s : Session) (seq : ℕ) : SameChannel s (s.advance seq) := by
  unfold Session.advance
  split <;> constructor <;> rfl

theorem SameChannel.rollbackSeq (s : Session) (seq : ℕ) : SameChannel s (s.rollbackSeq seq) := by
  unfold Session.rollbackSeq
  split
  · split <;> constructor <;> rfl
  · constructor <;> rfl

theorem DecryptStep.sameChannel {payload : Dict} {r : Except PyErr Bytes}
    (step : DecryptStep P s payload now after r s') : SameChannel s s' := by
  cases step with
  | malformed | refused => exact .refl s
  | inactive => exact .evaluateExpiry s now
  | unprintable _ _ accepted =>
      obtain ⟨-, rfl⟩ := acceptSeq_eq_ok.mp accepted
      exact .advance s _
  | unauthentic _ _ accepted =>
      obtain ⟨-, rfl⟩ := acceptSeq_eq_ok.mp accepted
      exact (SameChannel.advance s _).trans (.rollbackSeq _ _)
  | delivered _ _ accepted =>
      obtain ⟨-, rfl⟩ := acceptSeq_eq_ok.mp accepted
      exact (SameChannel.advance s _).trans (.evaluateExpiry _ _)

theorem EncryptStep.sameChannel {plaintext : Bytes} {nonce : Urandom NONCE_SIZE}
    {r : Except PyErr Dict} (step : EncryptStep P s plaintext nonce now after r s') :
    SameChannel s s' := by
  cases step <;> constructor <;> rfl

/-! ## Runs of one session -/

/-- A call of a public method; `checkExpiry` stands for the properties that only evaluate the
expiry. -/
inductive Op
  | activate
  | encrypt (plaintext : Bytes) (nonce : Urandom NONCE_SIZE) (now after : ℚ)
  | decrypt (payload : Dict) (now after : ℚ)
  | checkExpiry (now : ℚ)
  | revoke

/-- The session a call leaves behind. -/
def apply (P : Platform) (s : Session) : Op → Session
  | .activate => match s.activate with
      | .ok s' => s'
      | .error _ => s
  | .encrypt plaintext nonce now after => (encrypt P s plaintext nonce now after).2
  | .decrypt payload now after => (decrypt P s payload now after).2
  | .checkExpiry now => s.evaluateExpiry now
  | .revoke => s.revoke

theorem apply_config (P : Platform) (s : Session) (op : Op) :
    (apply P s op).config = s.config := by
  cases op with
  | activate =>
      simp only [apply, activate]
      split <;> rename_i activated
      · split at activated
        · cases activated
        · cases activated
          rfl
      · rfl
  | encrypt plaintext nonce now after =>
      exact (encrypt_step P s plaintext nonce now after).sameChannel.config
  | decrypt payload now after => exact (decrypt_step P s payload now after).sameChannel.config
  | checkExpiry now => rfl
  | revoke => rfl

/-- The number and plaintext a call returns, where it is a `decrypt` that succeeds. -/
def delivers (P : Platform) (s : Session) : Op → Option (ℕ × Bytes)
  | .decrypt payload now after =>
      match s.validatePayload P.toRuntime payload, (decrypt P s payload now after).1 with
      | .ok m, .ok plaintext => some (m.seq, plaintext)
      | _, _ => none
  | _ => none

/-- A call together with what it delivered. -/
abbrev Event := Op × Option (ℕ × Bytes)

def Call (P : Platform) (s : Session) (e : Event) (t : Session) : Prop :=
  e.2 = delivers P s e.1 ∧ t = apply P s e.1

theorem Call.delivered {m : Incoming} {payload : Dict} {plaintext : Bytes}
    (valid : s.validatePayload P.toRuntime payload = .ok m)
    (out : Session.decrypt P s payload now after = (.ok plaintext, s')) :
    Call P s (.decrypt payload now after, some (m.seq, plaintext)) s' := by
  refine ⟨?_, ?_⟩
  · simp only [delivers, valid, out]
  · simp only [apply, out]

theorem Call.raised {payload : Dict} {e : PyErr}
    (out : Session.decrypt P s payload now after = (.error e, s')) :
    Call P s (.decrypt payload now after, none) s' := by
  refine ⟨?_, ?_⟩
  · simp only [delivers, out]
    split <;> rename_i h
    · cases h
    · rfl
  · simp only [apply, out]

/-- A session that calls lead to from its construction. -/
def Reachable (P : Platform) (s : Session) : Prop :=
  ∃ sessionId localId remoteId sharedSecret isInitiator config now es,
    Run (Call P) (init P sessionId localId remoteId sharedSecret isInitiator config now) es s

/-- The numbers delivered in a run, in order. -/
def delivered (es : List Event) : List ℕ := es.filterMap fun e => e.2.map Prod.fst

theorem delivered_snoc (es : List Event) (e : Event) :
    delivered (es ++ [e]) = delivered es ++ (e.2.map Prod.fst).toList := by
  rcases e with ⟨op, _ | out⟩ <;> simp [delivered]

end Uxsp.Session
