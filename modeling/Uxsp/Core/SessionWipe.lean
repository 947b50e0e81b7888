import Uxsp.Core.SessionThreads

/-!
# Which key a ciphertext is made under

`revoke` overwrites both keys with zeroes.  `decrypt` opens a payload inside its locked block, so
it never meets the wiped key; `encrypt` reads the key after its block, and `Overtaken` says when
`revoke` gets in between.
-/

namespace Uxsp.Session

variable {P : Platform} {s s' : Session} {now : ℚ}

theorem Effect.revoked_iff (effect : Effect s now s') :
    s'.state = .revoked ↔ s.state = .revoked := by
  cases effect with
  | keep | number => exact Iff.rfl
  | evaluate =>
      change s.stateAt now = .revoked ↔ s.state = .revoked
      have ways : s.stateAt now = s.state ∨ s.state = .active ∧ s.stateAt now = .expired :=
        stateAt_cases
      rcases ways with same | ⟨active, expired⟩
      · rw [same]
      · rw [active, expired]
        exact ⟨nofun, nofun⟩
  | activate pending =>
      rw [pending]
      exact ⟨nofun, nofun⟩
  | advance => rw [state_advance]
  | undo => rw [state_rollbackSeq, state_advance]

theorem Effect.keys (effect : Effect s now s') :
    s'.sendKey = s.sendKey ∧ s'.recvKey = s.recvKey := by
  cases effect with
  | keep | evaluate | activate | number => exact ⟨rfl, rfl⟩
  | advance => exact ⟨(SameChannel.advance s _).sendKey, (SameChannel.advance s _).recvKey⟩
  | @undo seq =>
      have same := (SameChannel.advance s seq).trans (.rollbackSeq (s.advance seq) seq)
      exact ⟨same.sendKey, same.recvKey⟩

namespace Threads

variable {θ : Type*} {t : θ} {es : List (Event θ)}

/-- Thread `t` takes no step. -/
def Quiet (t : θ) (es : List (Event θ)) : Prop := ∀ e ∈ es, e.thread ≠ some t

/-- The keys have been wiped. -/
def Wiped (es : List (Event θ)) : Prop := ∃ u, .revoked u ∈ es

/-- Every payload `encrypt` returns was made before any wipe, and so was every plaintext
`decrypt` accepts. -/
structure Unwiped (es : List (Event θ)) : Prop where
  encrypted : ∀ front t payload rest, es = front ++ .returnedPayload t payload :: rest →
    ∃ before key mid, front = before ++ .sealed t key payload :: mid ∧ Quiet t mid ∧
      ¬ Wiped before
  decrypted : ∀ before t key plaintext rest, es = before ++ .opened t key plaintext :: rest →
    ¬ Wiped before

/-- Some `revoke` runs between the locked block of an `encrypt` and its AES call. -/
def Overtaken (es : List (Event θ)) : Prop :=
  ∃ front t seq mid key payload tail rest,
    es = front ++ .numbered t seq ::
      (mid ++ .sealed t key payload :: (tail ++ .returnedPayload t payload :: rest)) ∧
    Quiet t mid ∧ Quiet t tail ∧ Wiped mid

theorem Quiet.snoc {e : Event θ} (quiet : Quiet t es) (other : e.thread ≠ some t) :
    Quiet t (es ++ [e]) := by
  intro f mem
  rcases List.mem_append.mp mem with mem | mem
  · exact quiet f mem
  · rw [List.mem_singleton.mp mem]
    exact other

theorem wiped_snoc {e : Event θ} : Wiped (es ++ [e]) ↔ Wiped es ∨ ∃ u, e = .revoked u := by
  simp only [Wiped, List.mem_append, List.mem_singleton, exists_or, eq_comm]

theorem not_wiped_nil : ¬ Wiped ([] : List (Event θ)) := by
  intro wiped
  rcases wiped with ⟨u, mem⟩
  exact absurd mem List.not_mem_nil

variable [DecidableEq θ] {x y : Threads θ} {e : Event θ}

/-- A thread has a number from its own locked block, which the session passed as active. -/
theorem Step.numbered_of (step : Step P x e y) {plaintext : Bytes} {seq : ℕ}
    (numbered : y.phase t = .numbered plaintext seq) :
    e.thread ≠ some t ∧ x.phase t = .numbered plaintext seq ∨
      e = .numbered t seq ∧ x.session.state = .active := by
  by_cases mine : e.thread = some t
  swap
  · exact Or.inl ⟨mine, (step.phase_eq mine).symm.trans numbered⟩
  right
  cases step with
  | wait => cases mine
  | takeNumber _ taken =>
      cases mine
      rw [put_phase_self] at numbered
      cases numbered
      by_cases active : x.session.ActiveAt x.clock
      · exact ⟨rfl, active.1⟩
      · rcases encryptBegin_of_not_active active with ⟨err, refused⟩
        rw [refused] at taken
        cases taken
  | _ =>
      cases mine
      rw [put_phase_self] at numbered
      cases numbered

/-- A thread has a payload from its own AES call, under the key the session holds at that time. -/
theorem Step.sealed_of (step : Step P x e y) {payload : Dict}
    (sealed : y.phase t = .sealed payload) :
    e.thread ≠ some t ∧ x.phase t = .sealed payload ∨
      e = .sealed t x.session.sendKey payload ∧
        ∃ plaintext seq, x.phase t = .numbered plaintext seq := by
  by_cases mine : e.thread = some t
  swap
  · exact Or.inl ⟨mine, (step.phase_eq mine).symm.trans sealed⟩
  right
  cases step with
  | wait => cases mine
  | sealNumber _ numbered =>
      cases mine
      rw [put_phase_self] at sealed
      cases sealed
      exact ⟨rfl, _, _, numbered⟩
  | _ =>
      cases mine
      rw [put_phase_self] at sealed
      cases sealed

/-- What a run from `s` says about its last state: the wipe, the keys, and where the threads
have their numbers and payloads from. -/
structure Traced (s : Session) (es : List (Event θ)) (x : Threads θ) : Prop where
  revoked : x.session.state = .revoked ↔ Wiped es
  original : ¬ Wiped es → x.session.sendKey = s.sendKey ∧ x.session.recvKey = s.recvKey
  zeroes : Wiped es →
    x.session.sendKey = zeroize s.sendKey ∧ x.session.recvKey = zeroize s.recvKey
  numbered : ∀ t plaintext seq, x.phase t = .numbered plaintext seq →
    ∃ front mid, es = front ++ .numbered t seq :: mid ∧ Quiet t mid ∧ ¬ Wiped front
  sealed : ∀ t payload, x.phase t = .sealed payload → ∃ front seq mid key tail,
    es = front ++ .numbered t seq :: (mid ++ .sealed t key payload :: tail) ∧
      Quiet t mid ∧ Quiet t tail ∧ ¬ Wiped front

omit [DecidableEq θ] in
theorem start_traced (live : s.state ≠ .revoked) (clock : ℚ) :
    Traced s [] (start s clock : Threads θ) where
  revoked := ⟨fun revoked => absurd revoked live, fun wiped => absurd wiped not_wiped_nil⟩
  original := fun _ => ⟨rfl, rfl⟩
  zeroes := fun wiped => absurd wiped not_wiped_nil
  numbered := by
    intro t plaintext seq numbered
    cases numbered
  sealed := by
    intro t payload sealed
    cases sealed

theorem Traced.keys (inv : Traced s es x) (step : Step P x e y) :
    (y.session.state = .revoked ↔ Wiped (es ++ [e])) ∧
    (¬ Wiped (es ++ [e]) → y.session.sendKey = s.sendKey ∧ y.session.recvKey = s.recvKey) ∧
    (Wiped (es ++ [e]) →
      y.session.sendKey = zeroize s.sendKey ∧ y.session.recvKey = zeroize s.recvKey) := by
  rcases step.effect with ⟨revoked, session⟩ | ⟨other, effect⟩
  · have wiped : Wiped (es ++ [e]) := wiped_snoc.mpr (Or.inr revoked)
    rw [session]
    refine ⟨⟨fun _ => wiped, fun _ => rfl⟩, fun clean => absurd wiped clean, fun _ => ?_⟩
    by_cases before : Wiped es
    · rcases inv.zeroes before with ⟨send, recv⟩
      simp only [revoke, send, recv, zeroize_zeroize, and_self]
    · rcases inv.original before with ⟨send, recv⟩
      simp only [revoke, send, recv, and_self]
  · have same : Wiped (es ++ [e]) ↔ Wiped es := by
      rw [wiped_snoc]
      exact or_iff_left fun revoked => by
        rcases revoked with ⟨u, revoked⟩
        exact other u revoked
    rcases effect.keys with ⟨send, recv⟩
    rw [same, send, recv]
    exact ⟨effect.revoked_iff.trans inv.revoked, inv.original, inv.zeroes⟩

theorem Traced.step (inv : Traced s es x) (step : Step P x e y) : Traced s (es ++ [e]) y where
  revoked := (inv.keys step).1
  original := (inv.keys step).2.1
  zeroes := (inv.keys step).2.2
  numbered := by
    intro t plaintext seq numbered
    rcases step.numbered_of numbered with ⟨other, before⟩ | ⟨rfl, active⟩
    · rcases inv.numbered t plaintext seq before with ⟨front, mid, rfl, quiet, clean⟩
      exact ⟨front, mid ++ [e], by simp, quiet.snoc other, clean⟩
    · refine ⟨es, [], rfl, fun f mem => absurd mem List.not_mem_nil, fun wiped => ?_⟩
      have revoked := inv.revoked.mpr wiped
      rw [active] at revoked
      cases revoked
  sealed := by
    intro t payload sealed
    rcases step.sealed_of sealed with ⟨other, before⟩ | ⟨rfl, plaintext, seq, numbered⟩
    · rcases inv.sealed t payload before with ⟨front, seq, mid, key, tail, rfl, quiet, idle, clean⟩
      exact ⟨front, seq, mid, key, tail ++ [e], by simp, quiet, idle.snoc other, clean⟩
    · rcases inv.numbered t plaintext seq numbered with ⟨front, mid, rfl, quiet, clean⟩
      exact ⟨front, seq, mid, x.session.sendKey, [], by simp, quiet,
        fun f mem => absurd mem List.not_mem_nil, clean⟩

theorem Run.traced {clock : ℚ} (run : Run (Step P) (start s clock : Threads θ) es x)
    (live : s.state ≠ .revoked) : Traced s es x := by
  apply run.history (I := Traced s)
  · intro es x e y inv step
    exact inv.step step
  · exact start_traced live clock

/-- `decrypt` opens a payload on an active session only. -/
theorem Run.opened {clock : ℚ} {rest : List (Event θ)} {key plaintext : Bytes}
    (run : Run (Step P) (start s clock : Threads θ) (es ++ .opened t key plaintext :: rest) x)
    (live : s.state ≠ .revoked) : ¬ Wiped es ∧ key = s.recvKey := by
  rcases run.split_at with ⟨z, z', before, step, -⟩
  have inv := Run.traced before live
  cases step with
  | openLocked _ opened =>
      cases decryptLocked_locked opened with
      | delivered active =>
          have clean : ¬ Wiped es := fun wiped => by
            have revoked := inv.revoked.mpr wiped
            rw [active.1] at revoked
            cases revoked
          exact ⟨clean, (inv.original clean).2⟩

/-- The key of every AES call of `encrypt`: the session's own before a wipe, zeroes after. -/
theorem Run.sealed {clock : ℚ} {rest : List (Event θ)} {key : Bytes} {payload : Dict}
    (run : Run (Step P) (start s clock : Threads θ) (es ++ .sealed t key payload :: rest) x)
    (live : s.state ≠ .revoked) :
    (¬ Wiped es → key = s.sendKey) ∧ (Wiped es → key = zeroize s.sendKey) := by
  rcases run.split_at with ⟨z, z', before, step, -⟩
  have inv := Run.traced before live
  cases step with
  | sealNumber => exact ⟨fun clean => (inv.original clean).1, fun wiped => (inv.zeroes wiped).1⟩

/-- A returned payload comes from its thread's last AES call, and that from its last number. -/
theorem Run.returned {clock : ℚ} {front rest : List (Event θ)} {payload : Dict}
    (run : Run (Step P) (start s clock : Threads θ)
      (front ++ .returnedPayload t payload :: rest) x) (live : s.state ≠ .revoked) :
    ∃ before seq mid key tail,
      front = before ++ .numbered t seq :: (mid ++ .sealed t key payload :: tail) ∧
        Quiet t mid ∧ Quiet t tail ∧ ¬ Wiped before := by
  rcases run.split_at with ⟨z, z', before, step, -⟩
  have inv := Run.traced before live
  cases step with
  | returnPayload sealed => exact inv.sealed t payload sealed

omit [DecidableEq θ] in
theorem Unwiped.not_overtaken (unwiped : Unwiped es) : ¬ Overtaken es := by
  intro overtaken
  rcases overtaken with ⟨front, t, seq, mid, key, payload, tail, rest, rfl, -, idle, u, revoked⟩
  rcases unwiped.encrypted (front ++ .numbered t seq :: (mid ++ .sealed t key payload :: tail))
    t payload rest (by simp) with ⟨before, key', tail', same, idle', clean⟩
  -- the AES call the payload comes from is the last step of its thread
  have mine : (front ++ .numbered t seq :: mid) ++ .sealed t key payload :: tail =
      before ++ .sealed t key' payload :: tail' := by
    rw [← same]
    simp
  have place := last_unique (fun e : Event θ => e.thread = some t) mine rfl rfl idle idle'
  refine clean ⟨u, ?_⟩
  rw [← place.1]
  exact List.mem_append_right _ (List.mem_cons_of_mem _ revoked)

omit [DecidableEq θ] in
theorem Overtaken.wiped (overtaken : Overtaken es) : Wiped es := by
  rcases overtaken with ⟨front, t, seq, mid, key, payload, tail, rest, rfl, -, -, u, revoked⟩
  exact ⟨u, List.mem_append_right _ (List.mem_cons_of_mem _ (List.mem_append_left _ revoked))⟩

/-- In every interleaving, `encrypt` and `decrypt` work under the session's own keys if and only
if no `revoke` gets between an `encrypt`'s number and its AES call; `decrypt` always does. -/
theorem unwiped_iff_not_overtaken {clock : ℚ} (run : Run (Step P) (start s clock : Threads θ) es x)
    (live : s.state ≠ .revoked) : (Unwiped es ↔ ¬ Overtaken es) ∧
      (∀ before t key payload rest, es = before ++ .sealed t key payload :: rest →
        (¬ Wiped before → key = s.sendKey) ∧ (Wiped before → key = zeroize s.sendKey)) ∧
      ∀ before t key plaintext rest, es = before ++ .opened t key plaintext :: rest →
        ¬ Wiped before ∧ key = s.recvKey := by
  refine ⟨⟨Unwiped.not_overtaken, fun calm => ⟨?_, ?_⟩⟩, ?_, ?_⟩
  · rintro front t payload rest rfl
    rcases Run.returned run live with ⟨before, seq, mid, key, tail, rfl, quiet, idle, clean⟩
    refine ⟨before ++ .numbered t seq :: mid, key, tail, by simp, idle, fun wiped => ?_⟩
    rcases wiped with ⟨u, mem⟩
    rcases List.mem_append.mp mem with mem | mem
    · exact clean ⟨u, mem⟩
    · have inside : Event.revoked u ∈ mid := (List.mem_cons.mp mem).resolve_left nofun
      exact calm ⟨before, t, seq, mid, key, payload, tail, rest, by simp, quiet, idle, u, inside⟩
  · rintro before t key plaintext rest rfl
    exact (Run.opened run live).1
  · rintro before t key payload rest rfl
    exact Run.sealed run live
  · rintro before t key plaintext rest rfl
    exact Run.opened run live

/-- An `encrypt` that no `revoke` disturbs. -/
theorem sample_unwiped : ∃ es x, Run (Step .transparent) (start sampleInit 0 : Threads Bool) es x ∧
    .returnedPayload false (sealedUnder sampleInit.sendKey 0) ∈ es ∧ Unwiped es := by
  rcases sampleSeal_run (x := sampleNumbered 0) (put_phase_self ..) rfl sampleInit_sendKey with
    ⟨x, sealed⟩
  have run := ((sampleActive_run le_rfl).append (sampleNumbered_run (by norm_num))).append sealed
  refine ⟨_, x, run, ?_, (unwiped_iff_not_overtaken run nofun).1.mpr fun overtaken => ?_⟩
  · exact List.mem_append_right _ (List.mem_cons_of_mem _ List.mem_cons_self)
  · rcases overtaken.wiped with ⟨u, revoked⟩
    simp at revoked

/-- A number taken, the session revoked by another thread, and then the AES call: the payload
that comes back was encrypted under 32 zeroes. -/
theorem not_unwiped :
    ∃ es x payload, Run (Step .transparent) (start sampleInit 0 : Threads Bool) es x ∧
      .returnedPayload false payload ∈ es ∧ .sealed false (List.replicate 32 0) payload ∈ es ∧
      ¬ Unwiped es := by
  have revoked : Step .transparent (sampleNumbered 0) (.revoked true)
      ((sampleNumbered 0).put true .idle (sampleNumbered 0).session.revoke) := .revoke rfl
  have zeroes : zeroize sampleInit.sendKey = List.replicate 32 0 := by
    rw [zeroize, sampleInit_sendKey, KEY_SIZE]
  have size : (zeroize sampleInit.sendKey).length = KEY_SIZE := by
    rw [length_zeroize, sampleInit_sendKey]
  rcases sampleSeal_run (x := (sampleNumbered 0).put true .idle (sampleNumbered 0).session.revoke)
    rfl rfl size with ⟨y, sealed⟩
  have run := (((sampleActive_run le_rfl).append (sampleNumbered_run (by norm_num))).snoc
    revoked).append sealed
  refine ⟨_, y, sealedUnder (zeroize sampleInit.sendKey) 0, run, ?_, ?_, ?_⟩
  · exact List.mem_append_right _ (List.mem_cons_of_mem _ List.mem_cons_self)
  · rw [← zeroes]
    exact List.mem_append_right _ List.mem_cons_self
  · intro unwiped
    refine unwiped.not_overtaken ⟨[.activated false, .waited, .entered false], false, 0,
      [.revoked true], _, _, [], [], rfl, ?_, ?_, true, List.mem_cons_self⟩
    · simp [Quiet, Event.thread]
    · simp [Quiet]

end Threads

end Uxsp.Session
