import Uxsp.Core.SessionReplay

/-!
# One session, many threads

Every block a method runs under the session's lock is one atomic step, and so is the AES call of
`encrypt`, which comes after its block and reads the key without the lock.  `Threads` is the
session, the clock and where each thread stands in its call; `Step` lets any thread take its next
step.  `Effect` lists what a step other than `revoke` can do to the session, and the life cycle
is proved from that list.
-/

namespace Uxsp.Session

/-- Where a thread stands. -/
inductive Phase
  | idle
  /-- `encrypt` has been called and waits for the lock. -/
  | encrypting (plaintext : Bytes)
  /-- Its locked block is over: it has a number, and the AES call is next. -/
  | numbered (plaintext : Bytes) (seq : ℕ)
  | sealed (payload : Dict)
  /-- `decrypt` has checked the fields and waits for the lock. -/
  | decrypting (m : Incoming)
  | opened (plaintext : Bytes)

/-- A session that threads share. -/
structure Threads (θ : Type*) where
  session : Session
  clock : ℚ
  phase : θ → Phase

namespace Threads

/-- What a step does, as far as the properties speak about it. -/
inductive Event (θ : Type*)
  | waited
  | entered (t : θ)
  | numbered (t : θ) (seq : ℕ)
  | sealed (t : θ) (key : Bytes) (payload : Dict)
  | opened (t : θ) (key plaintext : Bytes)
  | returnedPayload (t : θ) (payload : Dict)
  | returnedPlaintext (t : θ) (plaintext : Bytes)
  | raised (t : θ) (e : PyErr)
  | activated (t : θ)
  | evaluated (t : θ)
  | revoked (t : θ)

def Event.thread {θ : Type*} : Event θ → Option θ
  | .waited => none
  | .entered t | .numbered t _ | .sealed t _ _ | .opened t _ _ | .returnedPayload t _
  | .returnedPlaintext t _ | .raised t _ | .activated t | .evaluated t | .revoked t => some t

variable {θ : Type*} [DecidableEq θ]

/-- A session nobody uses yet. -/
def start (s : Session) (clock : ℚ) : Threads θ := ⟨s, clock, fun _ => .idle⟩

/-- Thread `t` moves to a phase and leaves the session behind. -/
def put (x : Threads θ) (t : θ) (phase : Phase) (session : Session) : Threads θ :=
  ⟨session, x.clock, Function.update x.phase t phase⟩

/-- The atomic steps. -/
inductive Step (P : Platform) (x : Threads θ) : Event θ → Threads θ → Prop
  | wait {now : ℚ} : x.clock ≤ now → Step P x .waited { x with clock := now }
  | callEncrypt {t : θ} (plaintext : Bytes) :
      x.phase t = .idle → Step P x (.entered t) (x.put t (.encrypting plaintext) x.session)
  | takeNumber {t : θ} {plaintext : Bytes} {seq : ℕ} {s : Session} :
      x.phase t = .encrypting plaintext → x.session.encryptBegin x.clock = (.ok seq, s) →
      Step P x (.numbered t seq) (x.put t (.numbered plaintext seq) s)
  | refuseNumber {t : θ} {plaintext : Bytes} {e : PyErr} {s : Session} :
      x.phase t = .encrypting plaintext → x.session.encryptBegin x.clock = (.error e, s) →
      Step P x (.raised t e) (x.put t .idle s)
  | sealNumber {t : θ} {plaintext : Bytes} {seq : ℕ} {payload : Dict} (nonce : Urandom NONCE_SIZE) :
      x.phase t = .numbered plaintext seq →
      sealPayload P x.session.sessionId x.session.sendKey seq plaintext nonce = .ok payload →
      Step P x (.sealed t x.session.sendKey payload) (x.put t (.sealed payload) x.session)
  | loseNumber {t : θ} {plaintext : Bytes} {seq : ℕ} {e : PyErr} (nonce : Urandom NONCE_SIZE) :
      x.phase t = .numbered plaintext seq →
      sealPayload P x.session.sessionId x.session.sendKey seq plaintext nonce = .error e →
      Step P x (.raised t e) (x.put t .idle x.session)
  | returnPayload {t : θ} {payload : Dict} :
      x.phase t = .sealed payload →
      Step P x (.returnedPayload t payload) (x.put t .idle (x.session.evaluateExpiry x.clock))
  | callDecrypt {t : θ} {m : Incoming} (payload : Dict) :
      x.phase t = .idle → x.session.validatePayload P.toRuntime payload = .ok m →
      Step P x (.entered t) (x.put t (.decrypting m) x.session)
  | refusePayload {t : θ} {e : PyErr} (payload : Dict) :
      x.phase t = .idle → x.session.validatePayload P.toRuntime payload = .error e →
      Step P x (.raised t e) (x.put t .idle x.session)
  | openLocked {t : θ} {m : Incoming} {plaintext : Bytes} {s : Session} :
      x.phase t = .decrypting m → decryptLocked P x.session m x.clock = (.ok plaintext, s) →
      Step P x (.opened t x.session.recvKey plaintext) (x.put t (.opened plaintext) s)
  | refuseLocked {t : θ} {m : Incoming} {e : PyErr} {s : Session} :
      x.phase t = .decrypting m → decryptLocked P x.session m x.clock = (.error e, s) →
      Step P x (.raised t e) (x.put t .idle s)
  | returnPlaintext {t : θ} {plaintext : Bytes} :
      x.phase t = .opened plaintext →
      Step P x (.returnedPlaintext t plaintext)
        (x.put t .idle (x.session.evaluateExpiry x.clock))
  | activate {t : θ} {s : Session} :
      x.phase t = .idle → x.session.activate = .ok s → Step P x (.activated t) (x.put t .idle s)
  | refuseActivate {t : θ} {e : PyErr} :
      x.phase t = .idle → x.session.activate = .error e →
      Step P x (.raised t e) (x.put t .idle x.session)
  /-- `is_active` and `remaining_messages`. -/
  | evaluate {t : θ} :
      x.phase t = .idle → Step P x (.evaluated t) (x.put t .idle (x.session.evaluateExpiry x.clock))
  | revoke {t : θ} : x.phase t = .idle → Step P x (.revoked t) (x.put t .idle x.session.revoke)

@[simp] theorem put_session (x : Threads θ) (t : θ) (phase : Phase) (s : Session) :
    (x.put t phase s).session = s := rfl

@[simp] theorem put_clock (x : Threads θ) (t : θ) (phase : Phase) (s : Session) :
    (x.put t phase s).clock = x.clock := rfl

@[simp] theorem put_phase_self (x : Threads θ) (t : θ) (phase : Phase) (s : Session) :
    (x.put t phase s).phase t = phase := Function.update_self ..

theorem put_phase_of_ne (x : Threads θ) {t u : θ} (phase : Phase) (s : Session) (ne : u ≠ t) :
    (x.put t phase s).phase u = x.phase u := Function.update_of_ne ne ..

end Threads

/-! ## What a step does to the session -/

/-- The effects of the atomic blocks other than `revoke`. -/
inductive Effect (s : Session) (now : ℚ) : Session → Prop
  | keep : Effect s now s
  | evaluate : Effect s now (s.evaluateExpiry now)
  | activate : s.state = .pending → Effect s now { s with state := .active }
  | number : s.ActiveAt now → Effect s now { s with sendSeq := s.sendSeq + 1 }
  | advance {seq : ℕ} : s.ActiveAt now → s.Admitted seq → Effect s now (s.advance seq)
  | undo {seq : ℕ} : s.ActiveAt now → s.Admitted seq →
      Effect s now ((s.advance seq).rollbackSeq seq)

variable {P : Platform} {s s' : Session} {now : ℚ}

theorem encryptBegin_effect {r : Except PyErr ℕ} (out : s.encryptBegin now = (r, s')) :
    Effect s now s' := by
  by_cases active : s.ActiveAt now
  · rw [encryptBegin_of_active active] at out
    cases out
    exact .number active
  · obtain ⟨e, refused⟩ := encryptBegin_of_not_active active
    rw [refused] at out
    cases out
    exact .evaluate

theorem LockedStep.effect {m : Incoming} {r : Except PyErr Bytes}
    (step : LockedStep P s m now r s') : Effect s now s' := by
  cases step with
  | inactive => exact .evaluate
  | refused => exact .keep
  | unprintable active accepted =>
      obtain ⟨admitted, rfl⟩ := acceptSeq_eq_ok.mp accepted
      exact .advance active admitted
  | unauthentic active accepted =>
      obtain ⟨admitted, rfl⟩ := acceptSeq_eq_ok.mp accepted
      exact .undo active admitted
  | delivered active accepted =>
      obtain ⟨admitted, rfl⟩ := acceptSeq_eq_ok.mp accepted
      exact .advance active admitted

theorem decryptLocked_locked {m : Incoming} {r : Except PyErr Bytes}
    (out : decryptLocked P s m now = (r, s')) : LockedStep P s m now r s' := by
  have step := decryptLocked_step P s m now
  rwa [out] at step

theorem activate_eq_ok : s.activate = .ok s' ↔ s.state = .pending ∧ s' = { s with state := .active } := by
  unfold activate
  split
  · rename_i other
    exact ⟨nofun, fun h => absurd h.1 other⟩
  · rename_i pending
    rw [Except.ok.injEq]
    exact ⟨fun h => ⟨not_not.mp pending, h.symm⟩, fun h => h.2.symm⟩

namespace Threads

variable {θ : Type*} [DecidableEq θ] {x y : Threads θ} {e : Event θ}

/-- A step revokes the session or has one of the listed effects on it. -/
theorem Step.effect (step : Step P x e y) :
    (∃ t, e = .revoked t) ∧ y.session = x.session.revoke ∨
      (∀ t, e ≠ .revoked t) ∧ Effect x.session x.clock y.session := by
  cases step with
  | revoke => exact Or.inl ⟨⟨_, rfl⟩, rfl⟩
  | wait | callEncrypt | sealNumber | loseNumber | callDecrypt | refusePayload | refuseActivate =>
      exact Or.inr ⟨nofun, .keep⟩
  | returnPayload | returnPlaintext | evaluate => exact Or.inr ⟨nofun, .evaluate⟩
  | takeNumber _ taken => exact Or.inr ⟨nofun, encryptBegin_effect taken⟩
  | refuseNumber _ refused => exact Or.inr ⟨nofun, encryptBegin_effect refused⟩
  | openLocked _ opened => exact Or.inr ⟨nofun, (decryptLocked_locked opened).effect⟩
  | refuseLocked _ refused => exact Or.inr ⟨nofun, (decryptLocked_locked refused).effect⟩
  | activate _ activated =>
      obtain ⟨pending, same⟩ := activate_eq_ok.mp activated
      exact Or.inr ⟨nofun, by rw [put_session, same]; exact .activate pending⟩

theorem Step.clock_le (step : Step P x e y) : x.clock ≤ y.clock := by
  cases step with
  | wait le => exact le
  | _ => exact le_rfl

/-- A step moves its own thread only. -/
theorem Step.phase_eq (step : Step P x e y) {u : θ} (other : e.thread ≠ some u) :
    y.phase u = x.phase u := by
  cases step <;> first
    | rfl
    | exact put_phase_of_ne _ _ _ fun same => other (congrArg some same.symm)

end Threads

/-! ## The life cycle -/

theorem messageCount_advance (s : Session) (seq : ℕ) :
    (s.advance seq).messageCount = s.messageCount + 1 := by
  cases ordering : s.config.enforceOrdering with
  | true =>
      simp only [Session.advance, messageCount, received, ordering, if_true]
      omega
  | false =>
      simp only [Session.advance, messageCount, received, advanceWindow, ordering,
        Bool.false_eq_true, if_false]
      omega

/-- A refused ciphertext is counted for the length of the locked block only. -/
theorem messageCount_rollback {seq : ℕ} (admitted : s.Admitted seq) :
    ((s.advance seq).rollbackSeq seq).messageCount = s.messageCount := by
  cases ordering : s.config.enforceOrdering with
  | true =>
      rw [Session.Admitted, if_pos ordering] at admitted
      subst admitted
      simp [Session.advance, rollbackSeq, messageCount, received, ordering]
  | false =>
      have advanced : s.advance seq = s.advanceWindow seq := by simp [Session.advance, ordering]
      have config : ((s.advanceWindow seq).rollbackSeq seq).config = s.config := by
        rw [rollback_frame seq ordering]
      have sent : ((s.advanceWindow seq).rollbackSeq seq).sendSeq = s.sendSeq := by
        rw [rollback_frame seq ordering]
      rw [advanced]
      simp only [messageCount, received, config, sent, ordering, rollback_count ordering,
        Bool.false_eq_true, if_false]

/-- The transitions of the life cycle. -/
inductive Moves : SessionState → SessionState → Prop
  | stay (a : SessionState) : Moves a a
  | activate : Moves .pending .active
  | expire : Moves .active .expired
  | revoke (a : SessionState) : Moves a .revoked

theorem Effect.sameConfig (effect : Effect s now s') :
    s'.config = s.config ∧ s'.createdAt = s.createdAt := by
  cases effect with
  | keep | evaluate | activate | number => exact ⟨rfl, rfl⟩
  | advance => exact ⟨(SameChannel.advance s _).config, (SameChannel.advance s _).createdAt⟩
  | @undo seq =>
      have same := (SameChannel.advance s seq).trans (.rollbackSeq (s.advance seq) seq)
      exact ⟨same.config, same.createdAt⟩

theorem state_advance (s : Session) (seq : ℕ) : (s.advance seq).state = s.state := by
  unfold Session.advance
  split <;> rfl

theorem state_rollbackSeq (s : Session) (seq : ℕ) : (s.rollbackSeq seq).state = s.state := by
  unfold rollbackSeq
  split
  · split <;> rfl
  · rfl

theorem Effect.moves (effect : Effect s now s') : Moves s.state s'.state := by
  cases effect with
  | keep | number => exact .stay _
  | evaluate =>
      change Moves s.state (s.stateAt now)
      have cases_ : s.stateAt now = s.state ∨ s.state = .active ∧ s.stateAt now = .expired :=
        stateAt_cases
      rcases cases_ with same | ⟨active, expired⟩
      · rw [same]
        exact .stay _
      · rw [active, expired]
        exact .expire
  | activate pending =>
      rw [pending]
      exact .activate
  | advance =>
      rw [state_advance]
      exact .stay _
  | undo =>
      rw [state_rollbackSeq, state_advance]
      exact .stay _

/-- The count never falls, and it stays within the cap. -/
theorem Effect.messageCount (effect : Effect s now s') :
    s.messageCount ≤ s'.messageCount ∧
      (s.messageCount ≤ s.config.maxMessages → s'.messageCount ≤ s.config.maxMessages) := by
  cases effect with
  | keep | evaluate | activate => exact ⟨le_rfl, id⟩
  | number active =>
      have room := active.2.2
      have more : ({ s with sendSeq := s.sendSeq + 1 } : Session).messageCount =
          s.messageCount + 1 := by
        simp only [Session.messageCount, received]
        omega
      omega
  | advance active =>
      have room := active.2.2
      have more := messageCount_advance s
      constructor
      · rw [more]
        omega
      · intro _
        rw [more]
        omega
  | undo active admitted =>
      have same := messageCount_rollback admitted
      omega

/-- The session has left `ACTIVE`, its cap is reached, or its lifetime is over. -/
def Spent (s : Session) (now : ℚ) : Prop :=
  s.state = .expired ∨ s.state = .revoked ∨ s.config.maxMessages ≤ s.messageCount ∨
    s.config.maxLifetimeSeconds < now - s.createdAt

theorem Spent.not_active (spent : s.Spent now) : ¬ s.ActiveAt now := by
  rintro ⟨active, young, unused⟩
  rcases spent with expired | revoked | used | old
  · rw [active] at expired
    cases expired
  · rw [active] at revoked
    cases revoked
  · omega
  · exact absurd young (not_le.mpr old)

theorem Moves.stays_ended {a b : SessionState} (moves : Moves a b)
    (ended : a = .expired ∨ a = .revoked) : b = .expired ∨ b = .revoked := by
  cases moves with
  | stay => exact ended
  | activate | expire => simp at ended
  | revoke => exact Or.inr rfl

theorem Spent.later {now' : ℚ} (spent : s.Spent now) (le : now ≤ now') : s.Spent now' := by
  rcases spent with expired | revoked | used | old
  · exact Or.inl expired
  · exact Or.inr (Or.inl revoked)
  · exact Or.inr (Or.inr (Or.inl used))
  · exact Or.inr (Or.inr (Or.inr (by linarith)))

theorem Effect.spent (effect : Effect s now s') (spent : s.Spent now) : s'.Spent now := by
  rcases effect.sameConfig with ⟨config, createdAt⟩
  unfold Spent at spent ⊢
  rw [config, createdAt]
  rcases spent with expired | revoked | used | old
  · rcases effect.moves.stays_ended (Or.inl expired) with h | h
    · exact Or.inl h
    · exact Or.inr (Or.inl h)
  · rcases effect.moves.stays_ended (Or.inr revoked) with h | h
    · exact Or.inl h
    · exact Or.inr (Or.inl h)
  · exact Or.inr (Or.inr (Or.inl (used.trans effect.messageCount.1)))
  · exact Or.inr (Or.inr (Or.inr old))

namespace Threads

variable {θ : Type*} [DecidableEq θ] {x y : Threads θ} {e : Event θ} {es : List (Event θ)}

theorem Step.moves (step : Step P x e y) : Moves x.session.state y.session.state := by
  rcases step.effect with ⟨-, revoked⟩ | ⟨-, effect⟩
  · rw [revoked]
    exact .revoke _
  · exact effect.moves

theorem Step.config_eq (step : Step P x e y) : y.session.config = x.session.config := by
  rcases step.effect with ⟨-, revoked⟩ | ⟨-, effect⟩
  · rw [revoked]
    rfl
  · exact effect.sameConfig.1

theorem Step.cap (step : Step P x e y)
    (cap : x.session.messageCount ≤ x.session.config.maxMessages) :
    y.session.messageCount ≤ y.session.config.maxMessages := by
  rw [step.config_eq]
  rcases step.effect with ⟨-, revoked⟩ | ⟨-, effect⟩
  · rw [revoked]
    exact cap
  · exact effect.messageCount.2 cap

theorem Step.spent (step : Step P x e y) (spent : x.session.Spent x.clock) :
    y.session.Spent y.clock := by
  refine Spent.later ?_ step.clock_le
  rcases step.effect with ⟨-, revoked⟩ | ⟨-, effect⟩
  · rw [revoked]
    exact Or.inr (Or.inl rfl)
  · exact effect.spent spent

/-- The thread holds no number and no plaintext. -/
def Waiting (x : Threads θ) (t : θ) : Prop :=
  x.phase t = .idle ∨ (∃ plaintext, x.phase t = .encrypting plaintext) ∨
    ∃ m, x.phase t = .decrypting m

/-- On a spent session a thread that holds nothing never gets anything. -/
theorem Step.waiting (step : Step P x e y) {t : θ} (spent : x.session.Spent x.clock)
    (waiting : x.Waiting t) : y.Waiting t ∧ (∀ payload, e ≠ .returnedPayload t payload) ∧
      ∀ plaintext, e ≠ .returnedPlaintext t plaintext := by
  by_cases mine : e.thread = some t
  swap
  · refine ⟨?_, ?_, ?_⟩
    · unfold Waiting
      rw [step.phase_eq mine]
      exact waiting
    · intro payload same
      exact mine (same ▸ rfl)
    · intro plaintext same
      exact mine (same ▸ rfl)
  have inactive := spent.not_active
  unfold Waiting at waiting
  cases step with
  | wait => cases mine
  | callEncrypt | callDecrypt =>
      cases mine
      exact ⟨by simp [Waiting], nofun, nofun⟩
  | refuseNumber | loseNumber | refusePayload | refuseLocked | activate | refuseActivate
  | evaluate | revoke =>
      cases mine
      exact ⟨Or.inl (put_phase_self ..), nofun, nofun⟩
  | takeNumber _ taken =>
      rcases encryptBegin_of_not_active inactive with ⟨err, refused⟩
      rw [refused] at taken
      cases taken
  | openLocked _ opened =>
      cases decryptLocked_locked opened with
      | delivered active => exact absurd active inactive
  | sealNumber nonce at_ | returnPayload at_ | returnPlaintext at_ =>
      cases mine
      simp [at_] at waiting

/-- The run of a session from its construction on: the cap, what `remaining_messages` says, the
transitions, and no result for a call that starts on a spent session. -/
structure Lifecycle (P : Platform) (x : Threads θ) : Prop where
  cap : x.session.messageCount ≤ x.session.config.maxMessages
  remaining : ∀ now, (x.session.remainingMessages now).1 =
    if (x.session.remainingMessages now).2.state = .active
    then (x.session.config.maxMessages : ℤ) - x.session.messageCount else 0
  moves : ∀ e y, Step P x e y → Moves x.session.state y.session.state
  ended : ∀ es y, Run (Step P) x es y → x.session.state = .expired ∨ x.session.state = .revoked →
    y.session.state = .expired ∨ y.session.state = .revoked
  refused : ∀ t, x.phase t = .idle → x.session.Spent x.clock → ∀ es y, Run (Step P) x es y →
    (∀ payload, .returnedPayload t payload ∉ es) ∧ ∀ plaintext, .returnedPlaintext t plaintext ∉ es

omit [DecidableEq θ] in
theorem remaining_eq (s : Session) (now : ℚ) (cap : s.messageCount ≤ s.config.maxMessages) :
    (s.remainingMessages now).1 = if (s.remainingMessages now).2.state = .active
      then (s.config.maxMessages : ℤ) - s.messageCount else 0 := by
  have same : (s.evaluateExpiry now).messageCount = s.messageCount := rfl
  have config : (s.evaluateExpiry now).config = s.config := rfl
  unfold remainingMessages
  by_cases active : (s.evaluateExpiry now).state = .active
  · simp only [active, ne_eq, not_true_eq_false, if_false, if_true, same, config]
    omega
  · simp only [active, ne_eq, not_false_eq_true, if_true, if_false]

theorem Run.ended (run : Run (Step P) x es y)
    (ended : x.session.state = .expired ∨ x.session.state = .revoked) :
    y.session.state = .expired ∨ y.session.state = .revoked := by
  apply run.invariant (I := fun z : Threads θ => z.session.state = .expired ∨ z.session.state = .revoked)
  · intro z e w ended step
    exact step.moves.stays_ended ended
  · exact ended

theorem Run.refused (run : Run (Step P) x es y) {t : θ} (idle : x.phase t = .idle)
    (spent : x.session.Spent x.clock) : (∀ payload, .returnedPayload t payload ∉ es) ∧
      ∀ plaintext, .returnedPlaintext t plaintext ∉ es := by
  have history : (y.session.Spent y.clock ∧ y.Waiting t) ∧
      (∀ payload, .returnedPayload t payload ∉ es) ∧
      ∀ plaintext, .returnedPlaintext t plaintext ∉ es := by
    induction run with
    | nil => exact ⟨⟨spent, Or.inl idle⟩, fun _ => List.not_mem_nil, fun _ => List.not_mem_nil⟩
    | snoc _ last ih =>
        rcases ih with ⟨⟨spent, waiting⟩, noPayload, noPlaintext⟩
        rcases last.waiting spent waiting with ⟨waiting, notPayload, notPlaintext⟩
        refine ⟨⟨last.spent spent, waiting⟩, ?_, ?_⟩
        · intro payload mem
          rcases List.mem_append.mp mem with mem | mem
          · exact noPayload payload mem
          · exact notPayload payload (List.mem_singleton.mp mem).symm
        · intro plaintext mem
          rcases List.mem_append.mp mem with mem | mem
          · exact noPlaintext plaintext mem
          · exact notPlaintext plaintext (List.mem_singleton.mp mem).symm
  exact history.2

/-- Every state that any interleaving reaches from a new session. -/
theorem lifecycle_of_run {sessionId localId remoteId : Str} {sharedSecret : Bytes}
    {isInitiator : Bool} {config : SessionConfig} {now : ℚ}
    (run : Run (Step P) (start (init P sessionId localId remoteId sharedSecret isInitiator config
      now) now : Threads θ) es x) : Lifecycle P x := by
  have cap : x.session.messageCount ≤ x.session.config.maxMessages := by
    apply run.invariant (I := fun z : Threads θ =>
      z.session.messageCount ≤ z.session.config.maxMessages)
    · intro z e w cap step
      exact step.cap cap
    · have unused : (init P sessionId localId remoteId sharedSecret isInitiator config
          now).messageCount = 0 := by
        unfold messageCount received
        split <;> rfl
      exact unused.trans_le (Nat.zero_le _)
  exact {
    cap := cap
    remaining := fun later => remaining_eq x.session later cap
    moves := fun e y step => step.moves
    ended := fun es y onwards => Run.ended onwards
    refused := fun t idle spent es y onwards => Run.refused onwards idle spent }

/-- A new session that thread `false` has activated. -/
def sampleActive (clock : ℚ) : Threads Bool :=
  ⟨{ sampleInit with state := .active }, clock, fun _ => .idle⟩

theorem sampleActive_run {clock : ℚ} (later : 0 ≤ clock) :
    Run (Step .transparent) (start sampleInit 0) [.activated false, .waited] (sampleActive clock) := by
  have first : Step .transparent (start sampleInit 0) (.activated false) (sampleActive 0) := by
    have same : sampleActive 0 =
        (start sampleInit 0).put false .idle { sampleInit with state := .active } := by
      simp [sampleActive, put, start]
    rw [same]
    exact .activate rfl rfl
  exact (Run.single first).snoc (.wait later)

theorem sampleActive_active {clock : ℚ} (young : clock ≤ 3600) :
    (sampleActive clock).session.ActiveAt clock := by
  refine ⟨rfl, ?_, Nat.zero_lt_succ _⟩
  norm_num [sampleActive, sampleInit, init, sampleConfig, SessionConfig.default]
  exact young

theorem sampleInit_sendKey : sampleInit.sendKey.length = KEY_SIZE :=
  length_directionKey .transparent sampleConfig (List.replicate 32 7) false

/-- Thread `false` has taken the number 0. -/
def sampleNumbered (clock : ℚ) : Threads Bool :=
  ((sampleActive clock).put false (.encrypting (.lit "m")) (sampleActive clock).session).put false
    (.numbered (.lit "m") 0) { (sampleActive clock).session with sendSeq := 1 }

theorem sampleNumbered_run {clock : ℚ} (young : clock ≤ 3600) :
    Run (Step .transparent) (sampleActive clock) [.entered false, .numbered false 0]
      (sampleNumbered clock) := by
  have entered : Step .transparent (sampleActive clock) (.entered false) _ :=
    .callEncrypt (.lit "m") rfl
  exact (Run.single entered).snoc
    (.takeNumber (put_phase_self ..) (encryptBegin_of_active (sampleActive_active young)))

/-- The AES call under whatever the buffer holds, and the return. -/
theorem sampleSeal_run {x : Threads Bool} (numbered : x.phase false = .numbered (.lit "m") 0)
    (sessionId : x.session.sessionId = "sid") (size : x.session.sendKey.length = KEY_SIZE) :
    ∃ y, Run (Step .transparent) x
      [.sealed false x.session.sendKey (sealedUnder x.session.sendKey 0),
        .returnedPayload false (sealedUnder x.session.sendKey 0)] y := by
  have genuine : sealPayload .transparent x.session.sessionId x.session.sendKey 0 (.lit "m")
      sampleNonce = .ok (sealedUnder x.session.sendKey 0) := by
    rw [sessionId]
    exact sealedUnder_genuine size (by norm_num)
  exact ⟨_, (Run.single (.sealNumber sampleNonce numbered genuine)).snoc
    (.returnPayload (put_phase_self ..))⟩

/-- An expired session becomes revoked, and a call that starts at the very end of the lifetime
succeeds. -/
theorem expired_to_revoked_and_last_instant :
    (∃ es x e y, Run (Step .transparent) (start sampleInit 0 : Threads Bool) es x ∧
      Step .transparent x e y ∧ x.session.state = .expired ∧ y.session.state = .revoked) ∧
    ∃ es x fs y payload, Run (Step .transparent) (start sampleInit 0 : Threads Bool) es x ∧
      x.phase false = .idle ∧
      x.clock - x.session.createdAt = x.session.config.maxLifetimeSeconds ∧
      Run (Step .transparent) x fs y ∧ .returnedPayload false payload ∈ fs := by
  constructor
  · have expired : ((sampleActive 3601).session.evaluateExpiry 3601).state = .expired := by
      have old : ((sampleActive 3601).session.config.maxLifetimeSeconds : ℚ) <
          3601 - (sampleActive 3601).session.createdAt := by
        norm_num [sampleActive, sampleInit, init, sampleConfig, SessionConfig.default]
      have active : ¬ (sampleActive 3601).session.state ≠ .active := not_not.mpr rfl
      change (sampleActive 3601).session.stateAt 3601 = .expired
      rw [stateAt, if_neg active, if_pos old]
    have begun : Run (Step .transparent) (start sampleInit 0) _ (sampleActive 3601) :=
      sampleActive_run (by norm_num)
    have evaluated := begun.snoc (.evaluate (t := false) rfl)
    exact ⟨_, _, _, _, evaluated, .revoke (put_phase_self ..), expired, rfl⟩
  · rcases sampleSeal_run (x := sampleNumbered 3600) (put_phase_self ..) rfl sampleInit_sendKey
      with ⟨y, sealed⟩
    have run := (sampleNumbered_run le_rfl).append sealed
    refine ⟨_, _, _, y, sealedUnder sampleInit.sendKey 0, sampleActive_run (by norm_num), rfl, ?_,
      run, List.mem_append_right _ (List.mem_cons_of_mem _ List.mem_cons_self)⟩
    norm_num [sampleActive, sampleInit, init, sampleConfig, SessionConfig.default]

theorem sampleActive_lifecycle : Lifecycle .transparent (sampleActive 0) :=
  lifecycle_of_run (sampleActive_run le_rfl)

end Threads

end Uxsp.Session
