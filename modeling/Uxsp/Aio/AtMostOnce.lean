import Uxsp.Aio.Engine
import Uxsp.Lib.Run
import Uxsp.Secure.Authenticity

/-!
# Delivery at most once

`delivered_once`: a run of async calls delivers an envelope at most once as long as no call presents
it again while it is fresh, `window` or more after a call that delivered it marked its nonce.  The
store is asked for `window` seconds and an envelope is fresh for `window` seconds from its timestamp
on, so the mark runs out early exactly when the envelope was delivered before its timestamp.
-/

namespace Uxsp.Aio

open Secure

variable {P : Platform} {B : Identity P} {g : ReplayGuard} {S : AsyncNonceStore} {ts : ℤ}
  {nonce : Str}

/-- A call as it happened. -/
structure Event where
  call : ReceiveCall
  result : Except PyErr Bytes

/-- The store, and the clock when it was last asked. -/
structure Watch (S : AsyncNonceStore) where
  store : S.State
  clock : ℚ

/-- A call asks the store once; calls that overlap are ordered by that. -/
structure Step (B : Identity P) (g : ReplayGuard) (S : AsyncNonceStore) (s : Watch S) (e : Event)
    (t : Watch S) : Prop where
  later : s.clock ≤ e.call.readings.mark
  performed : asyncReceivePayload B g S s.store e.call = (e.result, t.store)
  clock : t.clock = e.call.readings.mark

/-- The call is given an envelope with this timestamp and nonce. -/
def Event.Presents (B : Identity P) (ts : ℤ) (nonce : Str) (e : Event) : Prop :=
  ∃ package env, e.call.Carries P.toRuntime B.entityId package env ∧ env.timestamp = ts ∧
    env.envelopeNonce = nonce

/-- The call returned the payload of an envelope with this timestamp and nonce. -/
def Event.Delivers (B : Identity P) (ts : ℤ) (nonce : Str) (e : Event) : Prop :=
  e.Presents B ts nonce ∧ ∃ r, e.result = .ok r

/-- The later call presents the envelope again, still fresh, at a time when the mark of the earlier
call has run out. -/
def Outlived (B : Identity P) (g : ReplayGuard) (ts : ℤ) (nonce : Str) (e f : Event) : Prop :=
  e.Delivers B ts nonce ∧ f.Presents B ts nonce ∧ f.call.readings.fresh ≤ ts + g.window ∧
    e.call.readings.mark + g.window ≤ f.call.readings.mark

/-- Only an envelope that was delivered no later than its timestamp is outlived. -/
theorem Outlived.ahead {e f : Event} (outlived : Outlived B g ts nonce e f) :
    e.call.readings.mark ≤ ts := by
  obtain ⟨_, _, fresh, expired⟩ := outlived
  have early := f.call.readings.mark_le.trans f.call.readings.checked_le
  linarith

/-- What a call that delivered the envelope has done. -/
theorem Step.delivers {s t : Watch S} {e : Event} (step : Step B g S s e t)
    (delivers : e.Delivers B ts nonce) :
    (S.markUsed s.store nonce g.window e.call.readings.mark).1 = .ok true ∧
      t.store = (S.markUsed s.store nonce g.window e.call.readings.mark).2 ∧
      e.call.readings.fresh ≤ ts + g.window ∧ ts ≤ e.call.readings.fresh + g.clockSkew := by
  obtain ⟨⟨package, env, carries, rfl, rfl⟩, r, returned⟩ := delivers
  obtain ⟨_, performed, _⟩ := step
  have result : (asyncReceivePayload B g S s.store e.call).1 = .ok r :=
    (congrArg Prod.fst performed).trans returned
  have state := congrArg Prod.snd performed
  rw [asyncReceivePayload_state carries] at state
  obtain ⟨marked, opened⟩ := (asyncReceivePayload_eq_ok carries).mp result
  simp only [openMarked, Identity.openFresh, Identity.verifyFresh, bind_eq_ok] at opened
  obtain ⟨_, ⟨_, ⟨guard, checked, n, fresh, _⟩, _⟩, _⟩ := opened
  obtain rfl := (openChecks_eq_ok.mp checked).2.2.2.2
  obtain ⟨normal, notStale, notFuture⟩ := ReplayGuard.fresh_eq_ok.mp fresh
  obtain ⟨_, rfl⟩ := normalise_toDict_eq_ok.mp normal
  simp only at notStale notFuture
  exact ⟨marked, state.symm, by linarith, notFuture⟩

/-! ## At most once -/

/-- The envelope was delivered once at most, and the store holds its nonce for `window` seconds
after every delivery. -/
structure Remembered (B : Identity P) (g : ReplayGuard) (S : AsyncNonceStore) (ts : ℤ) (nonce : Str)
    (es : List Event) (s : Watch S) : Prop where
  once : es.Pairwise fun e f => ¬ (e.Delivers B ts nonce ∧ f.Delivers B ts nonce)
  held : ∀ e ∈ es, e.Delivers B ts nonce → ∀ t, s.clock ≤ t →
    t < e.call.readings.mark + g.window → S.exact.Live s.store nonce t

/-- No call loses a nonce before its time. -/
theorem Step.kept {s t : Watch S} {e : Event} (step : Step B g S s e t) {at' : ℚ}
    (le : e.call.readings.mark ≤ at') (live : S.exact.Live s.store nonce at') :
    S.exact.Live t.store nonce at' := by
  obtain ⟨_, performed, _⟩ := step
  have state : (asyncReceivePayload B g S s.store e.call).2 = t.store := congrArg Prod.snd performed
  by_cases carries : ∃ package env, e.call.Carries P.toRuntime B.entityId package env
  · obtain ⟨package, env, carries⟩ := carries
    rw [asyncReceivePayload_state carries] at state
    rw [← state]
    exact S.exact.kept le live
  · push Not at carries
    obtain ⟨_, refused⟩ : ∃ err, asyncReceivePayload B g S s.store e.call = (.error err, s.store) :=
      asyncReceivePayload_nothing carries
    rw [refused] at state
    rwa [← state]

theorem Remembered.step {es : List Event} {s s' : Watch S} {f : Event}
    (remembered : Remembered B g S ts nonce es s) (step : Step B g S s f s')
    (inTime : ∀ e ∈ es, ¬ Outlived B g ts nonce e f) :
    Remembered B g S ts nonce (es ++ [f]) s' := by
  have clock := step.clock
  by_cases delivers : f.Delivers B ts nonce
  · obtain ⟨marked, state, fresh, _⟩ := step.delivers delivers
    -- an earlier delivery would still be remembered when this one marks the nonce
    have first : ∀ e ∈ es, ¬ e.Delivers B ts nonce := by
      intro e mem earlier
      have live := remembered.held e mem earlier _ step.later
      have new := (S.exact.mark_iff marked).mp rfl
      have expired := not_lt.mp fun less => new (live less)
      exact inTime e mem ⟨earlier, delivers.1, fresh, expired⟩
    refine ⟨List.pairwise_append.mpr ⟨remembered.once, List.pairwise_singleton _ _, ?_⟩, ?_⟩
    · intro e mem _ _ both
      exact first e mem both.1
    · intro e mem earlier t le less
      obtain old | new := List.mem_append.mp mem
      · exact absurd earlier (first e old)
      · obtain rfl := List.mem_singleton.mp new
        rw [clock] at le
        rw [state]
        exact S.exact.held marked le less
  · refine ⟨List.pairwise_append.mpr ⟨remembered.once, List.pairwise_singleton _ _, ?_⟩, ?_⟩
    · intro e _ f' new both
      rw [List.mem_singleton.mp new] at both
      exact delivers both.2
    · intro e mem earlier t le less
      rw [clock] at le
      obtain old | new := List.mem_append.mp mem
      · exact step.kept le (remembered.held e old earlier t (step.later.trans le) less)
      · rw [List.mem_singleton.mp new] at earlier
        exact absurd earlier delivers

/-- As long as no call outlives an earlier delivery of the envelope, the envelope is delivered at
most once. -/
theorem delivered_once (B : Identity P) (g : ReplayGuard) (S : AsyncNonceStore) (ts : ℤ)
    (nonce : Str) {es : List Event} {s s' : Watch S} (run : Run (Step B g S) s es s')
    (inTime : es.Pairwise fun e f => ¬ Outlived B g ts nonce e f) :
    es.Pairwise fun e f => ¬ (e.Delivers B ts nonce ∧ f.Delivers B ts nonce) := by
  suffices remembered : Remembered B g S ts nonce es s' from remembered.once
  induction run with
  | nil => exact ⟨List.Pairwise.nil, fun e mem => absurd mem List.not_mem_nil⟩
  | snoc _ last ih =>
      obtain ⟨before, _, apart⟩ := List.pairwise_append.mp inTime
      refine (ih before).step last fun e mem => ?_
      exact apart e mem _ (List.mem_singleton_self _)

/-! A package sealed at the instant 1000, given to the recipient of the sample. -/

def sampleStore : AsyncNonceStore := asyncRedisNonceStore "uxsp:nonce:"

/-- The package is presented at an instant. -/
def sampleCall (package : SecurePackage) (now : ℚ) : ReceiveCall where
  sender := ⟨"A", sampleSender.card⟩
  input := .package package
  expectedType := some "file"
  readings := ⟨⟨now, now, now, le_rfl, le_rfl⟩, now, le_rfl⟩

def sampleReceive (db : RedisKeys) (call : ReceiveCall) : Except PyErr Bytes × RedisKeys :=
  asyncReceivePayload sampleRecipient .default sampleStore db call

def sampleEvent (db : RedisKeys) (call : ReceiveCall) : Event := ⟨call, (sampleReceive db call).1⟩

/-- The package is presented at two instants. -/
def sampleEvents (package : SecurePackage) (first again : ℚ) : List Event :=
  [sampleEvent .empty (sampleCall package first),
    sampleEvent (sampleReceive .empty (sampleCall package first)).2 (sampleCall package again)]

theorem sampleEvents_run (package : SecurePackage) (first again : ℚ) (nonneg : 0 ≤ first)
    (later : first ≤ again) : ∃ t, Run (Step sampleRecipient .default sampleStore) ⟨.empty, 0⟩
      (sampleEvents package first again) t :=
  ⟨⟨_, again⟩, .cons (t := ⟨_, first⟩) ⟨nonneg, rfl, rfl⟩ (.single ⟨later, rfl, rfl⟩)⟩

/-- Presented again within `window` seconds of its delivery. -/
theorem sampleEvents_once : ∃ package, sampleSend [1, 2] = .ok package ∧
    ∀ ts nonce, (sampleEvents package 1000 1299).Pairwise fun e f =>
      ¬ (e.Delivers sampleRecipient ts nonce ∧ f.Delivers sampleRecipient ts nonce) := by
  obtain ⟨package, sent, _⟩ := sampleAccepts_file
  refine ⟨package, sent, fun ts nonce => ?_⟩
  obtain ⟨t, run⟩ := sampleEvents_run package 1000 1299 (by norm_num) (by norm_num)
  apply delivered_once sampleRecipient .default sampleStore ts nonce run
  refine List.pairwise_pair.mpr fun outlived => ?_
  have expired := outlived.2.2.2
  norm_num [sampleEvent, sampleCall, ReplayGuard.default] at expired

theorem sampleEvents_delivered : ((sampleSend [1, 2]).toOption.bind fun package =>
    (sampleEvents package 970 1290).mapM fun e => e.result.toOption) = some [[1, 2], [1, 2]] := by
  decide +kernel

/-- Delivered 30 seconds ahead of its timestamp, and again 320 seconds later. -/
theorem early_delivered_twice :
    ¬ ∀ (B : Identity .textual) (g : ReplayGuard) (S : AsyncNonceStore) (ts : ℤ) (nonce : Str)
      (es : List Event) (s s' : Watch S), Run (Step B g S) s es s' →
        es.Pairwise fun e f => ¬ (e.Delivers B ts nonce ∧ f.Delivers B ts nonce) := by
  intro always
  obtain ⟨package, _, both⟩ := Option.bind_eq_some_iff.mp sampleEvents_delivered
  simp only [sampleEvents, List.mapM_cons, List.mapM_nil, Option.bind_eq_bind,
    Option.bind_eq_some_iff, Option.pure_def, Option.some.injEq, List.cons.injEq] at both
  obtain ⟨_, first, _, ⟨_, again, _, _, rfl⟩, rfl, rfl, _⟩ := both
  have first := Except.of_toOption first
  have again := Except.of_toOption again
  obtain ⟨package', env, carries⟩ := carries_of_ok first
  obtain ⟨t, run⟩ := sampleEvents_run package 970 1290 (by norm_num) (by norm_num)
  have once := always sampleRecipient .default sampleStore env.timestamp env.envelopeNonce _ _ _ run
  refine List.pairwise_pair.mp once ⟨⟨⟨package', env, carries, rfl, rfl⟩, _, first⟩, ?_⟩
  exact ⟨⟨package', env, carries, rfl, rfl⟩, _, again⟩

end Uxsp.Aio
