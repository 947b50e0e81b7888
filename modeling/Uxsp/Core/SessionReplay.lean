import Uxsp.Core.SessionWindow
import Uxsp.Crypto.Transparent

/-!
# Replay protection of a session

What holds of the window over whole runs of calls, and what a failed `decrypt` leaves behind.

* `failed_decrypt_restores_iff`: when a failed call leaves the session as it was.
* `delivered_nodup`: no number is delivered twice while `Forgets` never happens.
* `decrypt_genuine_iff`: on genuine payloads the window is the ideal one.
-/

namespace Uxsp.Session

open Window

variable {P : Platform} {s t : Session} {seq : ℕ} {payload : Dict} {now after : ℚ}
  {plaintext : Bytes} {nonce : Urandom NONCE_SIZE} {r : Except PyErr Bytes}
  {sent : Except PyErr Dict}

/-! ## Calls keep the window invariant -/

theorem WindowInv.congr (inv : WindowInv s) (max : t.maxSeenSeq = s.maxSeenSeq)
    (seen : t.seenSeqs = s.seenSeqs) : WindowInv t where
  max_eq := by rw [max, seen, inv.max_eq]
  card_le := seen ▸ inv.card_le

theorem WindowInv.advance (inv : WindowInv s) (seq : ℕ) : WindowInv (s.advance seq) := by
  unfold Session.advance
  split
  · exact inv.congr rfl rfl
  · exact inv.advanceWindow seq

/-- Undoing an admitted number either restores the session or finds two windows remembered. -/
theorem rollback_advance (inv : WindowInv s) (admitted : s.Admitted seq) :
    (s.advance seq).rollbackSeq seq = s ∧
        (s.config.enforceOrdering = true ∨ s.seenSeqs.card < 256) ∨
      s.config.enforceOrdering = false ∧ s.seenSeqs.card = 256 ∧ s.Fits seq ∧
        (s.advance seq).rollbackSeq seq = (s.advanceWindow seq).rollbackSeq seq := by
  cases ordering : s.config.enforceOrdering with
  | true =>
      simp only [Admitted, ordering, if_true] at admitted
      subst admitted
      refine Or.inl ⟨?_, Or.inl rfl⟩
      simp [Session.advance, rollbackSeq, ordering]
  | false =>
      simp only [Admitted, ordering, Bool.false_eq_true, if_false] at admitted
      have same : s.advance seq = s.advanceWindow seq := by
        simp [Session.advance, ordering]
      rcases inv.card_le.lt_or_eq with room | full
      · rw [same]
        exact Or.inl ⟨rollback_advanceWindow inv ordering admitted.1 room, Or.inr room⟩
      · exact Or.inr ⟨rfl, full, admitted, by rw [same]⟩

theorem DecryptStep.windowInv (step : DecryptStep P s payload now after r t)
    (inv : WindowInv s) : WindowInv t := by
  cases step with
  | malformed | refused => exact inv
  | inactive => exact inv.congr rfl rfl
  | unprintable _ _ accepted =>
      obtain ⟨-, rfl⟩ := acceptSeq_eq_ok.mp accepted
      exact inv.advance _
  | unauthentic _ _ accepted =>
      obtain ⟨admitted, rfl⟩ := acceptSeq_eq_ok.mp accepted
      rcases rollback_advance inv admitted with ⟨same, -⟩ | ⟨ordering, -, fits, same⟩
      · exact same.symm ▸ inv
      · exact same.symm ▸ inv.rollback ordering fits.1
  | delivered _ _ accepted =>
      obtain ⟨-, rfl⟩ := acceptSeq_eq_ok.mp accepted
      exact (inv.advance _).congr rfl rfl

theorem EncryptStep.windowInv (step : EncryptStep P s plaintext nonce now after sent t)
    (inv : WindowInv s) : WindowInv t := by
  cases step <;> exact inv.congr rfl rfl

theorem WindowInv.apply (inv : WindowInv s) (op : Op) : WindowInv (apply P s op) := by
  cases op with
  | activate =>
      simp only [Session.apply, activate]
      split <;> rename_i activated
      · split at activated
        · cases activated
        · cases activated
          exact inv.congr rfl rfl
      · exact inv
  | encrypt plaintext nonce now after =>
      exact (encrypt_step P s plaintext nonce now after).windowInv inv
  | decrypt payload now after => exact (decrypt_step P s payload now after).windowInv inv
  | checkExpiry now => exact inv.congr rfl rfl
  | revoke => exact inv.congr rfl rfl

theorem init_windowInv {sessionId localId remoteId : Str} {sharedSecret : Bytes}
    {isInitiator : Bool} {config : SessionConfig} {now : ℚ} :
    WindowInv (init P sessionId localId remoteId sharedSecret isInitiator config now) :=
  ⟨rfl, Nat.zero_le _⟩

theorem Run.windowInv {es : List Event} (run : Run (Call P) s es t) (inv : WindowInv s) :
    WindowInv t := by
  refine run.invariant (I := WindowInv) ?_ inv
  rintro s e t inv ⟨-, rfl⟩
  exact inv.apply e.1

theorem Reachable.windowInv (reach : Reachable P s) : WindowInv s := by
  obtain ⟨sessionId, localId, remoteId, sharedSecret, isInitiator, config, now, es, run⟩ := reach
  exact Run.windowInv run init_windowInv

/-! ## A session on the transparent platform -/

def sampleConfig : SessionConfig := { SessionConfig.default with enforceOrdering := false }

def sampleNonce : Urandom NONCE_SIZE := .filled 12 0

def sampleInit : Session :=
  init .transparent "sid" "bob" "alice" (List.replicate 32 7) false sampleConfig 0

theorem sampleInit_recvKey : sampleInit.recvKey.length = KEY_SIZE :=
  length_directionKey .transparent sampleConfig (List.replicate 32 7) true

/-- The session once the numbers below `n` have been delivered. -/
def sampleFilled (n : ℕ) : Session :=
  { sampleInit with
    state := .active
    seenSeqs := Finset.range n
    maxSeenSeq := n - 1
    recvCount := n }

def samplePayload (seq : ℕ) : Dict :=
  payloadDict "sid" seq
    ⟨sampleInit.recvKey ++ sampleNonce ++ (.lit "sid" ++ .lit ":" ++ .lit (Int.repr seq)) ++
      .lit "m", sampleNonce⟩

def forgedPayload (seq : ℕ) : Dict := payloadDict "sid" seq ⟨[], sampleNonce⟩

/-- The payload of the plaintext `m` under a key. -/
def sealedUnder (key : Bytes) (seq : ℕ) : Dict :=
  payloadDict "sid" seq
    ⟨key ++ sampleNonce ++ (.lit "sid" ++ .lit ":" ++ .lit (Int.repr seq)) ++ .lit "m",
      sampleNonce⟩

theorem sealedUnder_genuine {key : Bytes} (size : key.length = KEY_SIZE) (small : seq < 10 ^ 7) :
    sealPayload .transparent "sid" key seq (.lit "m") sampleNonce = .ok (sealedUnder key seq) := by
  have short := Str.printable_of_lt small (by norm_num) (by norm_num)
  exact sealPayload_eq_ok.mpr ⟨_, _, associatedData_eq (Str.encode_ofString "sid") short,
    Symmetric.encrypt_eq_ok.mpr ⟨size, rfl, rfl⟩, rfl⟩

theorem samplePayload_genuine (small : seq < 10 ^ 7) :
    sealPayload .transparent "sid" sampleInit.recvKey seq (.lit "m") sampleNonce =
      .ok (samplePayload seq) :=
  sealedUnder_genuine sampleInit_recvKey small

theorem sampleFilled_active {n : ℕ} (room : n < 10000) : (sampleFilled n).ActiveAt 0 := by
  refine ⟨rfl, ?_, ?_⟩
  · norm_num [sampleFilled, sampleInit, init]
  · show 0 + n < 10000
    omega

theorem sampleFilled_fits {n : ℕ} : (sampleFilled n).Fits n := by
  refine ⟨fun h => absurd (Finset.mem_range.mp h) (lt_irrefl n), ?_⟩
  simp only [sampleFilled, windowFloor, WINDOW_SIZE]
  omega

theorem sampleFilled_advance {n : ℕ} (room : n < 256) :
    (sampleFilled n).advance n = sampleFilled (n + 1) := by
  have grown : insert n (Finset.range n) = Finset.range (n + 1) := Finset.range_add_one.symm
  have below : (n : ℤ) - 1 < n := by omega
  have seen : prune (Finset.range (n + 1)) n = Finset.range (n + 1) :=
    prune_of_card_le _ (by rw [Finset.card_range]; exact room)
  have unordered : sampleInit.config.enforceOrdering = false := rfl
  simp [advance, unordered, advanceWindow, sampleFilled, below, grown, seen]
  

theorem sampleFilled_decrypt {n : ℕ} (room : n < 256) :
    decrypt .transparent (sampleFilled n) (samplePayload n) 0 0 =
      (.ok (.lit "m"), sampleFilled (n + 1)) := by
  have opened := decrypt_genuine 0 Platform.transparent_aead
    (sampleFilled_active (n := n) (by omega)) sampleFilled_fits
    (samplePayload_genuine (by omega))
  rw [opened, sampleFilled_advance room, evaluateExpiry_of_active (sampleFilled_active (by omega))]

/-- The payloads of the numbers below `n`, delivered in order. -/
def sampleDeliveries (n : ℕ) : List Event :=
  (List.range n).map fun k => (.decrypt (samplePayload k) 0 0, some (k, .lit "m"))

theorem delivered_sampleDeliveries (n : ℕ) : delivered (sampleDeliveries n) = List.range n := by
  simp [delivered, sampleDeliveries, List.filterMap_map]

theorem sampleFilled_call {n : ℕ} (room : n < 256) : Call .transparent (sampleFilled n)
    (.decrypt (samplePayload n) 0 0, some (n, .lit "m")) (sampleFilled (n + 1)) :=
  .delivered (validatePayload_payloadDict n _) (sampleFilled_decrypt room)

/-- Delivering in order is a run of every kind of step that takes these calls. -/
theorem sampleDeliveries_run {step : Session → Event → Session → Prop}
    (start : step sampleInit (.activate, none) (sampleFilled 0))
    (each : ∀ n < 256, step (sampleFilled n) (.decrypt (samplePayload n) 0 0, some (n, .lit "m"))
      (sampleFilled (n + 1))) {n : ℕ} (room : n ≤ 256) :
    Run step sampleInit ((.activate, none) :: sampleDeliveries n) (sampleFilled n) := by
  induction n with
  | zero => exact .single start
  | succ n ih =>
      have more : sampleDeliveries (n + 1) = sampleDeliveries n ++
          [(.decrypt (samplePayload n) 0 0, some (n, .lit "m"))] := by
        simp [sampleDeliveries, List.range_succ]
      rw [more, ← List.cons_append]
      exact .snoc (ih (by omega)) (each n room)

theorem sampleFilled_reachable {n : ℕ} (room : n ≤ 256) :
    Reachable .transparent (sampleFilled n) :=
  ⟨_, _, _, _, _, _, _, _, sampleDeliveries_run ⟨rfl, rfl⟩ (fun _ => sampleFilled_call) room⟩

theorem sampleFilled_windowInv {n : ℕ} (room : n ≤ 256) : WindowInv (sampleFilled n) where
  max_eq := by
    simp only [sampleFilled]
    cases n with
    | zero => rfl
    | succ n =>
        refine le_antisymm ?_ (top_le_iff.mpr ⟨by omega, fun k hk => ?_⟩)
        · have last := le_top (Finset.mem_range.mpr (Nat.lt_succ_self n))
          push_cast
          exact (by omega : ((n : ℤ) + 1 - 1) ≤ n).trans last
        · have := Finset.mem_range.mp hk
          omega
  card_le := (Finset.card_range n).trans_le room

/-- A forged number is let through, refused, and undone. -/
theorem sampleFilled_forged (n seq : ℕ) (room : n ≤ 256) (big : n ≤ seq) (small : seq < 10 ^ 7) :
    ∃ e, decrypt .transparent (sampleFilled n) (forgedPayload seq) 0 0 =
        (.error e, ((sampleFilled n).advanceWindow seq).rollbackSeq seq) ∧
      Unauthentic .transparent (sampleFilled n) ⟨seq, [], sampleNonce⟩ := by
  have short := Str.printable_of_lt small (by decide) (by decide)
  have built := associatedData_eq (R := Platform.transparent.toRuntime) (Str.encode_ofString "sid")
    short
  have admitted : (sampleFilled n).Admitted seq := by
    refine ⟨fun h => absurd (Finset.mem_range.mp h) (by omega), ?_⟩
    simp only [sampleFilled, windowFloor, WINDOW_SIZE]
    omega
  have foreign : ∀ rest, ([] : Bytes) ≠ sampleInit.recvKey ++ rest := by
    intro rest same
    have size := congrArg List.length same
    rw [List.length_append, sampleInit_recvKey] at size
    simp [KEY_SIZE] at size
    omega
  obtain ⟨e, refused⟩ := Platform.transparent_refuses sampleNonce
    (.lit "sid" ++ .lit ":" ++ .lit (Int.repr seq)) foreign
  have valid : (sampleFilled n).validatePayload Platform.transparent.toRuntime
      (forgedPayload seq) = .ok ⟨seq, [], sampleNonce⟩ := validatePayload_payloadDict seq _
  exact ⟨_, decrypt_unauthentic 0 valid (sampleFilled_active (by omega)) admitted built refused,
    _, _, built, refused⟩

/-! ## A failed call -/

/-- The receiving state `decrypt` may touch. -/
structure SameWindow (s t : Session) : Prop where
  recvSeq : t.recvSeq = s.recvSeq
  seenSeqs : t.seenSeqs = s.seenSeqs
  maxSeenSeq : t.maxSeenSeq = s.maxSeenSeq
  recvCount : t.recvCount = s.recvCount

theorem SameWindow.refl (s : Session) : SameWindow s s := ⟨rfl, rfl, rfl, rfl⟩

theorem not_sameWindow_advance (s : Session) (seq : ℕ) : ¬ SameWindow s (s.advance seq) := by
  intro same
  unfold Session.advance at same
  split at same
  · exact Nat.succ_ne_self _ same.recvSeq
  · exact Nat.succ_ne_self _ same.recvCount

/-- The well-formed payload is admitted, and then either its associated data cannot be built or
the session is unordered and remembers two full windows. -/
def Disturbs (P : Platform) (s : Session) (payload : Dict) (now : ℚ) : Prop :=
  ∃ m, s.validatePayload P.toRuntime payload = .ok m ∧ s.ActiveAt now ∧ s.Admitted m.seq ∧
    ((∃ e, associatedData P.toRuntime s.sessionId m.seq = .error e) ∨
      s.config.enforceOrdering = false ∧ s.seenSeqs.card = 2 * WINDOW_SIZE)

/-- A failing call leaves a state that differs from the old one exactly when it disturbs it. -/
theorem DecryptStep.restores_iff {e : PyErr} (inv : WindowInv s)
    (step : DecryptStep P s payload now after (.error e) t) :
    SameWindow s t ∧ t = s.evaluateExpiry now ∧ ¬ Disturbs P s payload now ∨
      SameWindow s t ∧ t = s ∧ ¬ Disturbs P s payload now ∨
      ¬ SameWindow s t ∧ Disturbs P s payload now := by
  generalize out : (Except.error e : Except PyErr Bytes) = r at step
  cases step with
  | malformed invalid =>
      refine Or.inr (Or.inl ⟨.refl s, rfl, ?_⟩)
      rintro ⟨m, valid, -⟩
      rw [invalid] at valid
      cases valid
  | inactive valid inactive =>
      exact Or.inl ⟨⟨rfl, rfl, rfl, rfl⟩, rfl, fun ⟨_, _, active, _⟩ => inactive active⟩
  | refused valid active refused =>
      refine Or.inr (Or.inl ⟨.refl s, rfl, ?_⟩)
      rintro ⟨m, again, -, admitted, -⟩
      rw [valid] at again
      cases again
      rw [acceptSeq_of_admitted admitted] at refused
      cases refused
  | unprintable valid active accepted unbuilt =>
      obtain ⟨admitted, rfl⟩ := acceptSeq_eq_ok.mp accepted
      exact Or.inr (Or.inr ⟨not_sameWindow_advance s _,
        _, valid, active, admitted, Or.inl ⟨_, unbuilt⟩⟩)
  | unauthentic valid active accepted built refused =>
      obtain ⟨admitted, rfl⟩ := acceptSeq_eq_ok.mp accepted
      rcases rollback_advance inv admitted with ⟨same, exact⟩ | ⟨ordering, full, fits, same⟩
      · rw [same]
        refine Or.inr (Or.inl ⟨.refl s, rfl, ?_⟩)
        rintro ⟨m, again, -, -, ⟨e, unbuilt⟩ | ⟨ordering, full⟩⟩
        · rw [valid] at again
          cases again
          rw [built] at unbuilt
          cases unbuilt
        · rcases exact with strict | room
          · rw [ordering] at strict
            cases strict
          · exact absurd full room.ne
      · refine Or.inr (Or.inr ⟨?_, _, valid, active, admitted, Or.inr ⟨ordering, full⟩⟩)
        intro unchanged
        rw [same] at unchanged
        exact rollback_seen_ne inv ordering fits.1 full unchanged.seenSeqs
  | delivered => cases out

/-- A failed `decrypt` of a reachable session keeps the receiving state exactly when it does not
disturb it, and then, unless the session expires, keeps the session. -/
theorem failed_decrypt_restores_iff {e : PyErr} (reach : Reachable P s)
    (failed : (decrypt P s payload now after).1 = .error e) :
    (SameWindow s (decrypt P s payload now after).2 ↔ ¬ Disturbs P s payload now) ∧
      (s.evaluateExpiry now = s →
        ((decrypt P s payload now after).2 = s ↔ ¬ Disturbs P s payload now)) := by
  have step := decrypt_step P s payload now after
  rw [failed] at step
  rcases step.restores_iff reach.windowInv with
    ⟨same, left, calm⟩ | ⟨same, left, calm⟩ | ⟨changed, disturbed⟩
  · exact ⟨iff_of_true same calm, fun steady => iff_of_true (left.trans steady) calm⟩
  · exact ⟨iff_of_true same calm, fun _ => iff_of_true left calm⟩
  · refine ⟨iff_of_false changed (not_not.mpr disturbed), fun _ => ?_⟩
    refine iff_of_false (fun left => changed ?_) (not_not.mpr disturbed)
    rw [left]
    exact .refl s

/-- A forgery between genuine payloads, with room in the memory, leaves no trace. -/
theorem forged_three_restores :
    (decrypt .transparent (sampleFilled 3) (forgedPayload 7) 0 0).2 = sampleFilled 3 := by
  obtain ⟨e, forged, -⟩ := sampleFilled_forged 3 7 (by decide) (by decide)
    (by decide)
  have restores := failed_decrypt_restores_iff (sampleFilled_reachable (n := 3) (by decide))
    (congrArg Prod.fst forged)
  refine (restores.2 (evaluateExpiry_of_active (sampleFilled_active (by decide)))).mpr ?_
  rintro ⟨m, valid, -, -, ⟨e, unbuilt⟩ | ⟨-, full⟩⟩
  · have same : (sampleFilled 3).validatePayload Platform.transparent.toRuntime
        (forgedPayload 7) = .ok ⟨7, [], sampleNonce⟩ := validatePayload_payloadDict 7 _
    rw [same] at valid
    cases valid
    have built := associatedData_eq (R := Platform.transparent.toRuntime)
      (Str.encode_ofString "sid")
      (Str.printable_of_lt (n := 7) (k := 1) (by decide) (by decide) (by decide))
    exact nomatch built.symm.trans unbuilt
  · exact absurd full (by decide)

/-- After 256 genuine payloads a forged number leaves a changed window behind. -/
theorem forged_full_disturbs :
    ¬ ∀ s payload now after e, Reachable .transparent s →
      (decrypt .transparent s payload now after).1 = .error e → s.evaluateExpiry now = s →
        SameWindow s (decrypt .transparent s payload now after).2 := by
  intro claim
  obtain ⟨e, forged, -⟩ := sampleFilled_forged 256 1000000 le_rfl (by decide)
    (by decide)
  have same := claim _ _ _ _ _ (sampleFilled_reachable le_rfl) (congrArg Prod.fst forged)
    (evaluateExpiry_of_active (sampleFilled_active (by decide)))
  rw [forged] at same
  exact rollback_seen_ne (sampleFilled_windowInv le_rfl) rfl
    (fun h => absurd (Finset.mem_range.mp h) (by decide)) (Finset.card_range 256) same.seenSeqs

/-! ## At most one delivery of a number -/

/-- A refused ciphertext whose number, while it counted, pushed remembered numbers out of a full
memory that are still inside the window without it. -/
def Forgets (P : Platform) (s : Session) : Op → Prop
  | .decrypt payload now _ =>
      ∃ m, s.validatePayload P.toRuntime payload = .ok m ∧ s.ActiveAt now ∧ s.Fits m.seq ∧
        Unauthentic P s m ∧ s.seenSeqs.card = 2 * WINDOW_SIZE ∧
        ∃ n ∈ s.seenSeqs, s.maxSeenSeq < n + WINDOW_SIZE ∧ n + WINDOW_SIZE ≤ m.seq
  | _ => False

theorem fits_of_accepted {R : Runtime} (ordering : s.config.enforceOrdering = false)
    (accepted : s.acceptSeq R seq = .ok t) : s.Fits seq ∧ t = s.advanceWindow seq := by
  obtain ⟨admitted, rfl⟩ := acceptSeq_eq_ok.mp accepted
  simp only [Admitted, ordering, Bool.false_eq_true, if_false] at admitted
  exact ⟨admitted, by simp [Session.advance, ordering]⟩

/-- A call delivers a number that is new, and whatever it does the memory stays good enough for
what has been used up. -/
theorem DecryptStep.remembers {A : Finset ℕ} (step : DecryptStep P s payload now after r t)
    (ordering : s.config.enforceOrdering = false) (inv : WindowInv s)
    (mem : Remembers 128 A s.seenSeqs) (safe : ¬ Forgets P s (.decrypt payload now after)) :
    (∃ m plaintext, s.validatePayload P.toRuntime payload = .ok m ∧ r = .ok plaintext ∧
      m.seq ∉ A ∧ Remembers 128 (insert m.seq A) t.seenSeqs) ∨
    (∃ e B, r = .error e ∧ A ⊆ B ∧ Remembers 128 B t.seenSeqs) := by
  cases step with
  | malformed | inactive | refused => exact Or.inr ⟨_, A, rfl, subset_rfl, mem⟩
  | @unprintable m advanced e valid active accepted unbuilt =>
      obtain ⟨-, rfl⟩ := fits_of_accepted ordering accepted
      exact Or.inr ⟨e, insert m.seq A, rfl, Finset.subset_insert _ _,
        remembers_advanceWindow inv mem m.seq⟩
  | @unauthentic m advanced ad e valid active accepted built refused =>
      obtain ⟨fits, rfl⟩ := fits_of_accepted ordering accepted
      refine Or.inr ⟨_, A, rfl, subset_rfl, remembers_rollback inv mem ordering fits.1 ?_⟩
      rcases inv.card_le.lt_or_eq with room | full
      · exact Or.inl room
      · refine Or.inr fun n hn inside => not_le.mp fun far => safe ?_
        exact ⟨m, valid, active, fits, ⟨ad, e, built, refused⟩, full, n, hn, inside, by
          simp only [WINDOW_SIZE]; omega⟩
  | @delivered m advanced ad plaintext valid active accepted built opened =>
      obtain ⟨fits, rfl⟩ := fits_of_accepted ordering accepted
      refine Or.inl ⟨m, plaintext, valid, rfl, ?_, remembers_advanceWindow inv mem m.seq⟩
      exact ((inv.fits_iff_admits mem).mp fits).1

/-- A call that forgets nothing it still needs. -/
def SafeCall (P : Platform) (s : Session) (e : Event) (t : Session) : Prop :=
  Call P s e t ∧ ¬ Forgets P s e.1

/-- No number came twice so far, and the memory covers those that came. -/
structure Guarded (es : List Event) (s : Session) : Prop where
  nodup : (delivered es).Nodup
  ordering : s.config.enforceOrdering = false
  window : WindowInv s
  memory : ∃ A : Finset ℕ, (∀ n ∈ delivered es, n ∈ A) ∧ Remembers 128 A s.seenSeqs

theorem Guarded.quiet {es : List Event} {e : Event} (guarded : Guarded es s)
    (silent : e.2 = none) (ordering : t.config = s.config) (window : WindowInv t)
    (memory : ∀ A : Finset ℕ, Remembers 128 A s.seenSeqs →
      ∃ B, A ⊆ B ∧ Remembers 128 B t.seenSeqs) : Guarded (es ++ [e]) t := by
  have same : delivered (es ++ [e]) = delivered es := by
    rw [delivered_snoc, silent]
    exact List.append_nil _
  obtain ⟨A, covers, mem⟩ := guarded.memory
  obtain ⟨B, larger, mem⟩ := memory A mem
  refine ⟨same ▸ guarded.nodup, ordering ▸ guarded.ordering, window, B, ?_, mem⟩
  rw [same]
  exact fun n hn => larger (covers n hn)

theorem apply_activate_seen (P : Platform) (s : Session) :
    (apply P s .activate).seenSeqs = s.seenSeqs := by
  simp only [Session.apply, activate]
  split <;> rename_i activated
  · split at activated
    · cases activated
    · cases activated
      rfl
  · rfl

theorem EncryptStep.seenSeqs_eq (step : EncryptStep P s plaintext nonce now after sent t) :
    t.seenSeqs = s.seenSeqs := by
  cases step <;> rfl

theorem Guarded.step {es : List Event} {e : Event} (guarded : Guarded es s)
    (call : SafeCall P s e t) : Guarded (es ++ [e]) t := by
  obtain ⟨⟨out, rfl⟩, safe⟩ := call
  obtain ⟨op, result⟩ := e
  have config := apply_config P s op
  have window := guarded.window.apply (P := P) op
  cases op with
  | activate =>
      exact guarded.quiet out config window fun A mem =>
        ⟨A, subset_rfl, (apply_activate_seen P s).symm ▸ mem⟩
  | encrypt plaintext nonce now after =>
      exact guarded.quiet out config window fun A mem => ⟨A, subset_rfl,
        (encrypt_step P s plaintext nonce now after).seenSeqs_eq.symm ▸ mem⟩
  | checkExpiry now => exact guarded.quiet out config window fun A mem => ⟨A, subset_rfl, mem⟩
  | revoke => exact guarded.quiet out config window fun A mem => ⟨A, subset_rfl, mem⟩
  | decrypt payload now after =>
      have step := decrypt_step P s payload now after
      obtain ⟨A, covers, mem⟩ := guarded.memory
      rcases step.remembers guarded.ordering guarded.window mem safe with
        ⟨m, plaintext, valid, returned, fresh, mem⟩ | ⟨e, B, raised, larger, mem⟩
      · simp only [delivers, valid, returned] at out
        subst out
        have seqs : delivered (es ++ [(.decrypt payload now after, some (m.seq, plaintext))]) =
            delivered es ++ [m.seq] := delivered_snoc _ _
        refine ⟨?_, config ▸ guarded.ordering, window, insert m.seq A, ?_, mem⟩
        · rw [seqs]
          exact guarded.nodup.append (List.nodup_singleton _)
            (by simpa using fun again => fresh (covers _ again))
        · rw [seqs]
          intro n hn
          rcases List.mem_append.mp hn with hn | hn
          · exact Finset.mem_insert_of_mem (covers n hn)
          · exact Finset.mem_insert.mpr (Or.inl (List.mem_singleton.mp hn))
      · have silent : result = none := by
          simp only [delivers, raised] at out
          rw [out]
          split <;> rename_i h
          · cases h
          · rfl
        refine guarded.quiet silent config window fun A' mem' => ?_
        rcases step.remembers guarded.ordering guarded.window mem' safe with
          ⟨m, plaintext, -, returned, -⟩ | ⟨-, B', -, larger, mem⟩
        · rw [raised] at returned
          cases returned
        · exact ⟨B', larger, mem⟩

theorem init_guarded {sessionId localId remoteId : Str} {sharedSecret : Bytes}
    {isInitiator : Bool} {config : SessionConfig} {now : ℚ}
    (unordered : config.enforceOrdering = false) :
    Guarded [] (init P sessionId localId remoteId sharedSecret isInitiator config now) :=
  ⟨List.nodup_nil, unordered, init_windowInv, ∅, nofun, Remembers.refl 128 ∅⟩

/-- In unordered mode no number is delivered twice, in any run of calls on any payloads, as long
as no refused ciphertext makes the session forget numbers of its window. -/
theorem delivered_nodup {sessionId localId remoteId : Str} {sharedSecret : Bytes}
    {isInitiator : Bool} {config : SessionConfig} {now : ℚ} {es : List Event}
    (unordered : config.enforceOrdering = false)
    (run : Run (SafeCall P)
      (init P sessionId localId remoteId sharedSecret isInitiator config now) es t) :
    (delivered es).Nodup :=
  (run.history (I := Guarded) (fun _ _ _ _ guarded call => guarded.step call)
    (init_guarded unordered)).nodup

/-- What `Forgets` forgets is admitted again right after. -/
theorem fits_of_forgotten (inv : WindowInv s) (ordering : s.config.enforceOrdering = false)
    (unseen : seq ∉ s.seenSeqs) (full : s.seenSeqs.card = 256) {n : ℕ}
    (inside : s.maxSeenSeq < n + 128) (far : n + 128 ≤ seq) :
    ((s.advanceWindow seq).rollbackSeq seq).Fits n := by
  refine ((inv.rollback ordering unseen).fits_iff).mpr ⟨?_, ?_⟩
  · rw [rollback_seen ordering, advanceWindow_seen inv, prune,
      if_pos (by rw [Finset.card_insert_of_notMem unseen, full]; decide)]
    intro kept
    have low := (Finset.mem_filter.mp (Finset.mem_of_mem_erase kept)).2
    rw [top_insert] at low
    simp only [WINDOW_SIZE] at low
    omega
  · refine lt_of_le_of_lt (top_mono (rollback_subset ordering)) ?_
    rw [← inv.max_eq]
    exact inside

theorem sampleFilled_safe {n : ℕ} (room : n < 256) (op : Op) :
    ¬ Forgets .transparent (sampleFilled n) op := by
  cases op with
  | decrypt payload now after =>
      rintro ⟨m, -, -, -, -, full, -⟩
      rw [sampleFilled, Finset.card_range] at full
      exact absurd full room.ne
  | activate | encrypt | checkExpiry | revoke => exact id

/-- Three genuine payloads are delivered once each. -/
theorem delivered_three_nodup : (delivered ((.activate, none) :: sampleDeliveries 3)).Nodup :=
  delivered_nodup rfl (sampleDeliveries_run
    ⟨⟨rfl, rfl⟩, id⟩
    (fun _ room => ⟨sampleFilled_call room, sampleFilled_safe room _⟩) (by decide))

/-- A call an attacker without the key can arrange: its payload is one the peer made, or its
ciphertext is refused. -/
def AttackerCall (P : Platform) (s : Session) (e : Event) (t : Session) : Prop :=
  Call P s e t ∧ match e.1 with
    | .decrypt payload _ _ =>
        (∃ seq plaintext nonce,
          sealPayload P s.sessionId s.recvKey seq plaintext nonce = .ok payload) ∨
        ∃ m, s.validatePayload P.toRuntime payload = .ok m ∧ Unauthentic P s m
    | _ => True

/-- The number 255 delivered a second time, after a forged number has been refused. -/
theorem delivered_not_nodup :
    ¬ ∀ es t, Run (AttackerCall .transparent) sampleInit es t → (delivered es).Nodup := by
  intro claim
  obtain ⟨e, forged, refused⟩ := sampleFilled_forged 256 1000000 le_rfl
    (by decide) (by decide)
  generalize after_forged : ((sampleFilled 256).advanceWindow 1000000).rollbackSeq 1000000 = s
    at forged
  have unordered : (sampleFilled 256).config.enforceOrdering = false := rfl
  have unseen : 1000000 ∉ (sampleFilled 256).seenSeqs := fun h =>
    absurd (Finset.mem_range.mp h) (by decide)
  have frame := rollback_frame 1000000 unordered
  rw [rollback_count unordered, after_forged] at frame
  have fits : s.Fits 255 := by
    rw [← after_forged]
    exact fits_of_forgotten (sampleFilled_windowInv le_rfl) unordered unseen
      (Finset.card_range 256) (by decide) (by decide)
  have active : s.ActiveAt 0 := by
    rw [frame]
    exact sampleFilled_active (n := 256) (by decide)
  have admitted : s.Admitted 255 := by
    have : s.config.enforceOrdering = false := by rw [frame]; rfl
    simpa [Admitted, this] using fits
  have genuine : sealPayload .transparent s.sessionId s.recvKey 255 (.lit "m") sampleNonce =
      .ok (samplePayload 255) := by
    rw [frame]
    exact samplePayload_genuine (by decide)
  have replayed := decrypt_genuine 0 Platform.transparent_aead active admitted genuine
  have filled : Run (AttackerCall .transparent) sampleInit _ (sampleFilled 256) :=
    sampleDeliveries_run ⟨⟨rfl, rfl⟩, trivial⟩ (fun n room => ⟨sampleFilled_call room,
      Or.inl ⟨_, _, _, samplePayload_genuine (room.trans (by decide))⟩⟩) le_rfl
  have attack : AttackerCall .transparent (sampleFilled 256)
      (.decrypt (forgedPayload 1000000) 0 0, none) s :=
    ⟨.raised forged, Or.inr ⟨_, validatePayload_payloadDict _ _, refused⟩⟩
  have sid : s.sessionId = "sid" := by rw [frame]; rfl
  have valid : s.validatePayload Platform.transparent.toRuntime (samplePayload 255) = .ok _ :=
    sid ▸ validatePayload_payloadDict (s := s) 255 _
  have again : AttackerCall .transparent s
      (.decrypt (samplePayload 255) 0 0, some (255, .lit "m")) ((s.advance 255).evaluateExpiry 0) :=
    ⟨.delivered valid replayed, Or.inl ⟨_, _, _, genuine⟩⟩
  have nodup := claim _ _ ((filled.snoc attack).snoc again)
  have twice : delivered ((Op.activate, none) :: sampleDeliveries 256 ++
      [(.decrypt (forgedPayload 1000000) 0 0, none)] ++
      [(.decrypt (samplePayload 255) 0 0, some (255, .lit "m"))]) = List.range 256 ++ [255] := by
    rw [delivered_snoc, delivered_snoc, ← delivered_sampleDeliveries 256]
    simp [delivered]
  rw [twice] at nodup
  exact (List.nodup_append.mp nodup).2.2 255 (List.mem_range.mpr (by decide)) 255
    List.mem_cons_self rfl

/-! ## Genuine traffic -/

/-- A call whose payload, if it is a `decrypt`, the peer made under the receiving key. -/
def GenuineCall (P : Platform) (s : Session) (e : Event) (t : Session) : Prop :=
  Call P s e t ∧ match e.1 with
    | .decrypt payload _ _ => ∃ seq plaintext nonce,
        sealPayload P s.sessionId s.recvKey seq plaintext nonce = .ok payload
    | _ => True

/-- The memory is exact for what has been delivered. -/
structure Tracked (es : List Event) (s : Session) : Prop where
  ordering : s.config.enforceOrdering = false
  window : WindowInv s
  memory : Remembers 128 (delivered es).toFinset s.seenSeqs

theorem Tracked.quiet {es : List Event} {e : Event} (tracked : Tracked es s)
    (silent : e.2 = none) (config : t.config = s.config) (window : WindowInv t)
    (seen : t.seenSeqs = s.seenSeqs) : Tracked (es ++ [e]) t := by
  refine ⟨config ▸ tracked.ordering, window, ?_⟩
  rw [delivered_snoc, silent, seen]
  simpa using tracked.memory

theorem Tracked.admitted_iff {es : List Event} (tracked : Tracked es s) :
    s.Admitted seq ↔ Window.Admits 128 (delivered es).toFinset seq := by
  rw [← tracked.window.fits_iff_admits tracked.memory]
  simp [Admitted, tracked.ordering]

theorem Tracked.step (correct : P.AeadCorrect) {es : List Event} {e : Event}
    (tracked : Tracked es s) (call : GenuineCall P s e t) : Tracked (es ++ [e]) t := by
  obtain ⟨⟨out, rfl⟩, made⟩ := call
  obtain ⟨op, result⟩ := e
  have config := apply_config P s op
  have window := tracked.window.apply (P := P) op
  cases op with
  | activate => exact tracked.quiet out config window (apply_activate_seen P s)
  | encrypt plaintext nonce now after =>
      exact tracked.quiet out config window
        (encrypt_step P s plaintext nonce now after).seenSeqs_eq
  | checkExpiry now => exact tracked.quiet out config window rfl
  | revoke => exact tracked.quiet out config window rfl
  | decrypt payload now after =>
      obtain ⟨seq, plaintext, nonce, genuine⟩ := made
      obtain ⟨m, valid, rfl⟩ := validatePayload_genuine (R := P.toRuntime) genuine
      simp only [delivers, valid] at out
      by_cases active : s.ActiveAt now
      · by_cases admitted : s.Admitted m.seq
        · have opened := decrypt_genuine after correct active admitted genuine
          simp only [opened] at out
          refine ⟨config ▸ tracked.ordering, window, ?_⟩
          rw [out, delivered_snoc]
          simp only [Session.apply, opened]
          have same : s.advance m.seq = s.advanceWindow m.seq := by
            simp [Session.advance, tracked.ordering]
          have added : (delivered es ++ [m.seq]).toFinset = insert m.seq (delivered es).toFinset := by
            rw [List.toFinset_append, Finset.union_comm]
            rfl
          have mem := remembers_advanceWindow tracked.window tracked.memory m.seq
          rw [← added, ← same] at mem
          exact mem
        · obtain ⟨e, refused⟩ := decrypt_refused after valid active admitted
          simp only [refused] at out
          refine tracked.quiet out config window ?_
          simp only [Session.apply, refused]
      · obtain ⟨e, inactive⟩ := decrypt_inactive after valid active
        simp only [inactive] at out
        refine tracked.quiet out config window ?_
        simp only [Session.apply, inactive]
        rfl

/-- On genuine traffic a delivery to an active session is accepted exactly when its number is new
and not older than 127 below the largest accepted one, and it returns its plaintext. -/
theorem decrypt_genuine_iff (correct : P.AeadCorrect) {sessionId localId remoteId : Str}
    {sharedSecret : Bytes} {isInitiator : Bool} {config : SessionConfig} {created : ℚ}
    {es : List Event} (unordered : config.enforceOrdering = false)
    (run : Run (GenuineCall P)
      (init P sessionId localId remoteId sharedSecret isInitiator config created) es s)
    (active : s.ActiveAt now)
    (genuine : sealPayload P s.sessionId s.recvKey seq plaintext nonce = .ok payload) :
    ((∃ p, (decrypt P s payload now after).1 = .ok p) ↔
        seq ∉ delivered es ∧ max 0 (top (delivered es).toFinset - 127) ≤ (seq : ℤ)) ∧
      ∀ p, (decrypt P s payload now after).1 = .ok p → p = plaintext := by
  have tracked : Tracked es s := run.history (fun _ _ _ _ tracked call => tracked.step correct call)
    ⟨unordered, init_windowInv, Remembers.refl 128 ∅⟩
  have ideal : s.Admitted seq ↔
      seq ∉ delivered es ∧ max 0 (top (delivered es).toFinset - 127) ≤ (seq : ℤ) := by
    rw [tracked.admitted_iff, Window.Admits, List.mem_toFinset]
    refine and_congr_right fun _ => ?_
    omega
  rw [← ideal]
  by_cases admitted : s.Admitted seq
  · rw [decrypt_genuine after correct active admitted genuine]
    refine ⟨iff_of_true ⟨plaintext, rfl⟩ admitted, fun p returned => ?_⟩
    exact (Except.ok.inj returned).symm
  · obtain ⟨m, valid, rfl⟩ := validatePayload_genuine (R := P.toRuntime) genuine
    obtain ⟨e, refused⟩ := decrypt_refused after valid active admitted
    rw [refused]
    exact ⟨iff_of_false nofun admitted, nofun⟩

/-- After three genuine payloads the fourth is accepted. -/
theorem decrypt_fourth_genuine :
    ∃ p, (decrypt .transparent (sampleFilled 3) (samplePayload 3) 0 0).1 = .ok p := by
  have run : Run (GenuineCall .transparent) sampleInit _ (sampleFilled 3) :=
    sampleDeliveries_run ⟨⟨rfl, rfl⟩, trivial⟩ (fun n room => ⟨sampleFilled_call room,
      _, _, _, samplePayload_genuine (room.trans (by decide))⟩) (by decide)
  refine (decrypt_genuine_iff Platform.transparent_aead rfl run (sampleFilled_active (by decide))
    (samplePayload_genuine (by decide))).1.mpr ?_
  have three : delivered ((Op.activate, none) :: sampleDeliveries 3) = [0, 1, 2] :=
    delivered_sampleDeliveries 3
  rw [three]
  exact ⟨by decide, by decide⟩

end Uxsp.Session
