import Uxsp.Aio.AtMostOnce

/-!
# Async and sync delivery

The same packages are presented at the same instants to `receivePayload` over a store with `is_seen`
and to `asyncReceivePayload` over an async store.  The sync engine marks the nonce of an envelope
that verified, for `window + clock_skew` seconds; the async engine marks the nonce of every envelope
it is given, for `window` seconds.

`delivery_agrees`: the two deliver the same as long as every package that verifies finds its nonce
either new to both engines or marked in both.
-/

namespace Uxsp

variable {P : Platform} {B : Identity P} {g : ReplayGuard} {S : SeenStore} {s : S.State}
  {env : Envelope} {card : Card} {now : ℚ} {ctx : VerifiedContext}

/-- The readings of a call that takes no time. -/
def Identity.OpenReadings.instant (now : ℚ) : Identity.OpenReadings :=
  ⟨now, now, now, now, now, now, le_rfl, le_rfl, le_rfl, le_rfl, le_rfl⟩

def Identity.FreshReadings.instant (now : ℚ) : Identity.FreshReadings :=
  ⟨now, now, now, le_rfl, le_rfl⟩

/-- What an envelope that verified was checked for. -/
theorem verifyFresh_facts
    (verified : B.verifyFresh env.toDict card g (.instant now) = .ok ctx) :
    B.openChecks env.toDict card (some g) now = .ok g ∧
      g.fresh P.toRuntime (.dict env.toDict) now =
        .ok ⟨env.toDict, env.timestamp, env.envelopeNonce⟩ ∧
      verifyEnvelope P env.toDict card.publicKeys B.entityId card.entityId g.window g.clockSkew
        now = .ok ctx := by
  simp only [Identity.verifyFresh, bind_eq_ok] at verified
  obtain ⟨guard, checked, n, fresh, verified⟩ := verified
  obtain rfl := (openChecks_eq_ok.mp checked).2.2.2.2
  obtain ⟨_, rfl⟩ := normalise_toDict_eq_ok.mp (ReplayGuard.fresh_eq_ok.mp fresh).1
  exact ⟨checked, fresh, verified⟩

/-- A verified envelope whose nonce the store has seen is refused. -/
theorem openFrom_seen (verified : B.verifyFresh env.toDict card g (.instant now) = .ok ctx)
    (seen : (S.isSeen s env.envelopeNonce now).1 = .ok true) :
    B.openFrom S s env.toDict card (some g) (.instant now) =
      (.error ReplayGuard.duplicateError, (S.isSeen s env.envelopeNonce now).2) := by
  obtain ⟨checked, fresh, -⟩ := verifyFresh_facts verified
  simp only [Identity.openFrom, Identity.OpenReadings.instant, checked, ReplayGuard.precheck, fresh,
    ReplayGuard.refuseSeen]
  generalize S.isSeen s env.envelopeNonce now = looked at seen ⊢
  obtain ⟨_, s'⟩ := looked
  cases seen
  rfl

/-- A verified envelope with a new nonce is decrypted, and the nonce is marked. -/
theorem openFrom_unseen (verified : B.verifyFresh env.toDict card g (.instant now) = .ok ctx)
    (unseen : (S.isSeen s env.envelopeNonce now).1 = .ok false)
    (marked : (S.markUsed (S.isSeen s env.envelopeNonce now).2 env.envelopeNonce g.ttl now).1 =
      .ok true) :
    B.openFrom S s env.toDict card (some g) (.instant now) =
      (decryptVerifiedEnvelope P ctx B.keypair [],
        (S.markUsed (S.isSeen s env.envelopeNonce now).2 env.envelopeNonce g.ttl now).2) := by
  obtain ⟨checked, fresh, signed⟩ := verifyFresh_facts verified
  simp only [Identity.openFrom, Identity.OpenReadings.instant, checked, ReplayGuard.precheck, fresh,
    ReplayGuard.refuseSeen, Identity.openGuarded, signed, ReplayGuard.commit, ReplayGuard.markFirst]
  generalize S.isSeen s env.envelopeNonce now = looked at unseen marked ⊢
  obtain ⟨_, s'⟩ := looked
  cases unseen
  simp only at marked ⊢
  generalize S.markUsed s' env.envelopeNonce g.ttl now = result at marked ⊢
  obtain ⟨_, s''⟩ := result
  cases marked
  rfl

/-- An envelope that does not verify is refused, and its nonce is looked up at most. -/
theorem openFrom_unverified
    (unverified : ∀ ctx, B.verifyFresh env.toDict card g (.instant now) ≠ .ok ctx) :
    ∃ e s', B.openFrom S s env.toDict card (some g) (.instant now) = (.error e, s') ∧
      (s' = s ∨ s' = (S.isSeen s env.envelopeNonce now).2) := by
  simp only [Identity.openFrom, Identity.OpenReadings.instant]
  cases checked : B.openChecks env.toDict card (some g) now with
  | error e => exact ⟨e, s, rfl, .inl rfl⟩
  | ok guard =>
      obtain rfl := (openChecks_eq_ok.mp checked).2.2.2.2
      simp only [ReplayGuard.precheck]
      cases fresh : guard.fresh P.toRuntime (.dict env.toDict) now with
      | error e => exact ⟨e, s, rfl, .inl rfl⟩
      | ok n =>
          obtain ⟨_, rfl⟩ := normalise_toDict_eq_ok.mp (ReplayGuard.fresh_eq_ok.mp fresh).1
          simp only [ReplayGuard.refuseSeen]
          rcases S.isSeen s env.envelopeNonce now with ⟨_ | _ | _, s'⟩
          · exact ⟨_, s', rfl, .inr rfl⟩
          · simp only [Identity.openGuarded]
            cases signed : verifyEnvelope P env.toDict card.publicKeys B.entityId card.entityId
              guard.window guard.clockSkew now with
            | error e => exact ⟨e, s', rfl, .inr rfl⟩
            | ok ctx =>
                refine absurd ?_ (unverified ctx)
                simp only [Identity.verifyFresh, Identity.FreshReadings.instant, bind_eq_ok]
                exact ⟨guard, checked, _, fresh, signed⟩
          · exact ⟨_, s', rfl, .inr rfl⟩

namespace Aio

open Secure

variable {A : AsyncNonceStore}

/-- A package as it is presented to both engines at an instant. -/
structure Presented where
  sender : Peer
  input : PackageInput
  expectedType : Option Str
  now : ℚ

namespace Presented

def sync (p : Presented) : Secure.ReceiveCall := ⟨p.sender, p.input, p.expectedType, .instant p.now⟩

def async (p : Presented) : ReceiveCall :=
  ⟨p.sender, p.input, p.expectedType, ⟨.instant p.now, p.now, le_rfl⟩⟩

/-- The package that is presented passes its checks and has an envelope with this nonce. -/
def HasNonce (B : Identity P) (nonce : Str) (p : Presented) : Prop :=
  ∃ package env, p.async.Carries P.toRuntime B.entityId package env ∧ env.envelopeNonce = nonce

/-- Its envelope is fresh and was signed by the sender for the recipient. -/
def Verified (B : Identity P) (g : ReplayGuard) (p : Presented) : Prop :=
  ∃ package env ctx, p.async.Carries P.toRuntime B.entityId package env ∧
    B.verifyFresh env.toDict p.sender.card g (.instant p.now) = .ok ctx

end Presented

variable {p : Presented} {package : SecurePackage}

/-! ## What the sync engine does at an instant -/

theorem receivePayload_refused (carries : p.async.Carries P.toRuntime B.entityId package env)
    {e : PyErr} {s' : S.State}
    (refused : B.openFrom S s env.toDict p.sender.card (some g) (.instant p.now) = (.error e, s')) :
    receivePayload B g S s p.sync = (.error (receiveError e), s') := by
  obtain ⟨resolved, found⟩ := carries
  have resolved : p.sync.resolved P.toRuntime B.entityId = .ok package := resolved
  simp only [receivePayload, resolved, Secure.openPackage, found]
  rw [show p.sync.readings = .instant p.now from rfl, show p.sync.sender = p.sender from rfl,
    refused]

theorem receivePayload_opened (carries : p.async.Carries P.toRuntime B.entityId package env)
    {plaintext : Bytes} {s' : S.State}
    (opened : B.openFrom S s env.toDict p.sender.card (some g) (.instant p.now) =
      (.ok plaintext, s')) :
    (receivePayload B g S s p.sync).1.toOption = (contents P package env plaintext).toOption ∧
      (receivePayload B g S s p.sync).2 = s' := by
  obtain ⟨resolved, found⟩ := carries
  have resolved : p.sync.resolved P.toRuntime B.entityId = .ok package := resolved
  simp only [receivePayload, resolved, Secure.openPackage, found]
  rw [show p.sync.readings = .instant p.now from rfl, show p.sync.sender = p.sender from rfl,
    opened]
  simp only
  cases contents P package env plaintext with
  | error e => exact ⟨rfl, rfl⟩
  | ok payload => exact ⟨rfl, rfl⟩

theorem receivePayload_nothing
    (none : ∀ package env, ¬ p.async.Carries P.toRuntime B.entityId package env) :
    ∃ e, receivePayload B g S s p.sync = (.error e, s) := by
  unfold receivePayload
  cases resolved : p.sync.resolved P.toRuntime B.entityId with
  | error e => exact ⟨e, rfl⟩
  | ok package =>
      simp only [Secure.openPackage]
      cases found : packageEnvelope P.toRuntime package with
      | error e => exact ⟨_, rfl⟩
      | ok env => exact absurd ⟨resolved, found⟩ (none package env)

variable (exact : Ttl.ExactSeen S.markUsed S.isSeen)

/-- From an instant on the two states hold the same nonces. -/
def SameLive (S : SeenStore) (exact : Ttl.ExactSeen S.markUsed S.isSeen) (now : ℚ)
    (s s' : S.State) : Prop :=
  ∀ nonce t, now ≤ t → (exact.Live s' nonce t ↔ exact.Live s nonce t)

theorem sync_unverified (unverified : ¬ p.Verified B g) :
    ∃ e s', receivePayload B g S s p.sync = (.error e, s') ∧ SameLive S exact p.now s s' := by
  by_cases carries : ∃ package env, p.async.Carries P.toRuntime B.entityId package env
  · obtain ⟨package, env, carries⟩ := carries
    have unsigned : ∀ ctx, B.verifyFresh env.toDict p.sender.card g (.instant p.now) ≠ .ok ctx :=
      fun ctx verified => unverified ⟨package, env, ctx, carries, verified⟩
    obtain ⟨e, s', refused, left⟩ := openFrom_unverified (S := S) (s := s) unsigned
    refine ⟨_, s', receivePayload_refused carries refused, fun nonce t le => ?_⟩
    obtain rfl | rfl := left
    · exact Iff.rfl
    · exact exact.seen_frame le
  · push Not at carries
    obtain ⟨e, refused⟩ := receivePayload_nothing (g := g) (S := S) (s := s) carries
    exact ⟨e, s, refused, fun nonce t le => Iff.rfl⟩

theorem sync_seen (carries : p.async.Carries P.toRuntime B.entityId package env)
    (verified : B.verifyFresh env.toDict p.sender.card g (.instant p.now) = .ok ctx)
    (seen : (S.isSeen s env.envelopeNonce p.now).1 = .ok true) :
    ∃ e s', receivePayload B g S s p.sync = (.error e, s') ∧ SameLive S exact p.now s s' :=
  ⟨_, _, receivePayload_refused carries (openFrom_seen verified seen),
    fun _ _ le => exact.seen_frame le⟩

/-- What is in a package that verified. -/
def opened (P : Platform) (B : Identity P) (package : SecurePackage) (env : Envelope)
    (ctx : VerifiedContext) : Except PyErr Bytes := do
  contents P package env (← decryptVerifiedEnvelope P ctx B.keypair [])

theorem sync_unseen (carries : p.async.Carries P.toRuntime B.entityId package env)
    (verified : B.verifyFresh env.toDict p.sender.card g (.instant p.now) = .ok ctx)
    (unseen : (S.isSeen s env.envelopeNonce p.now).1 = .ok false)
    (answered : ∃ b, (S.markUsed (S.isSeen s env.envelopeNonce p.now).2 env.envelopeNonce g.ttl
      p.now).1 = .ok b) :
    (receivePayload B g S s p.sync).1.toOption = (opened P B package env ctx).toOption ∧
      ∀ nonce t, p.now ≤ t → (exact.Live (receivePayload B g S s p.sync).2 nonce t ↔
        nonce = env.envelopeNonce ∧ t < p.now + g.ttl ∨ exact.Live s nonce t) := by
  obtain ⟨b, answered⟩ := answered
  obtain rfl := exact.mark_unseen unseen answered
  have found := openFrom_unseen verified unseen answered
  have live : ∀ nonce t, p.now ≤ t → (exact.Live (S.markUsed (S.isSeen s env.envelopeNonce
      p.now).2 env.envelopeNonce g.ttl p.now).2 nonce t ↔
      nonce = env.envelopeNonce ∧ t < p.now + g.ttl ∨ exact.Live s nonce t) := by
    intro nonce t le
    rw [exact.mark_live answered le, exact.seen_frame le]
  unfold opened
  cases decrypted : decryptVerifiedEnvelope P ctx B.keypair [] with
  | error e =>
      rw [decrypted] at found
      rw [receivePayload_refused carries found]
      exact ⟨rfl, live⟩
  | ok plaintext =>
      rw [decrypted] at found
      obtain ⟨result, state⟩ := receivePayload_opened carries found
      rw [result, state]
      exact ⟨rfl, live⟩

/-! ## What the async engine does at an instant -/

theorem async_refused {a : A.State} (unverified : ¬ p.Verified B g) :
    (asyncReceivePayload B g A a p.async).1.toOption = none := by
  cases returned : (asyncReceivePayload B g A a p.async).1 with
  | error e => rfl
  | ok r =>
      obtain ⟨package, env, carries⟩ := carries_of_ok returned
      have opens := ((asyncReceivePayload_eq_ok carries).mp returned).2
      simp only [openMarked, Identity.openFresh, bind_eq_ok] at opens
      obtain ⟨_, ⟨ctx, verified, _⟩, _⟩ := opens
      exact absurd ⟨package, env, ctx, carries, verified⟩ unverified

/-- The async store holds nothing new but the nonce of the package, for `window` seconds. -/
theorem async_live {a : A.State} {nonce : Str} {t : ℚ} (le : p.now ≤ t)
    (live : A.exact.Live (asyncReceivePayload B g A a p.async).2 nonce t) :
    p.HasNonce B nonce ∧ t < p.now + g.window ∨ A.exact.Live a nonce t := by
  by_cases carries : ∃ package env, p.async.Carries P.toRuntime B.entityId package env
  · obtain ⟨package, env, carries⟩ := carries
    rw [asyncReceivePayload_state carries] at live
    by_cases marked : (A.markUsed a env.envelopeNonce g.window p.now).1 = .ok true
    · obtain ⟨same, less⟩ | old := (A.exact.mark_live marked le).mp live
      · exact .inl ⟨⟨package, env, carries, same.symm⟩, less⟩
      · exact .inr old
    · exact .inr ((A.exact.mark_frame marked le).mp live)
  · push Not at carries
    obtain ⟨e, refused⟩ : ∃ e, asyncReceivePayload B g A a p.async = (.error e, a) :=
      asyncReceivePayload_nothing carries
    rw [refused] at live
    exact .inr live

theorem async_kept {a : A.State} {nonce : Str} {t : ℚ} (le : p.now ≤ t)
    (live : A.exact.Live a nonce t) :
    A.exact.Live (asyncReceivePayload B g A a p.async).2 nonce t := by
  by_cases carries : ∃ package env, p.async.Carries P.toRuntime B.entityId package env
  · obtain ⟨package, env, carries⟩ := carries
    rw [asyncReceivePayload_state carries]
    exact A.exact.kept le live
  · push Not at carries
    obtain ⟨e, refused⟩ : ∃ e, asyncReceivePayload B g A a p.async = (.error e, a) :=
      asyncReceivePayload_nothing carries
    rw [refused]
    exact live

theorem async_held {a : A.State} (carries : p.async.Carries P.toRuntime B.entityId package env)
    (live : A.exact.Live a env.envelopeNonce p.now) :
    (asyncReceivePayload B g A a p.async).1.toOption = none := by
  cases returned : (asyncReceivePayload B g A a p.async).1 with
  | error e => rfl
  | ok r =>
      have marked := ((asyncReceivePayload_eq_ok carries).mp returned).1
      exact absurd live ((A.exact.mark_iff marked).mp rfl)

theorem async_new {a : A.State} (carries : p.async.Carries P.toRuntime B.entityId package env)
    (verified : B.verifyFresh env.toDict p.sender.card g (.instant p.now) = .ok ctx)
    (new : ¬ A.exact.Live a env.envelopeNonce p.now)
    (answered : ∃ b, (A.markUsed a env.envelopeNonce g.window p.now).1 = .ok b) :
    (asyncReceivePayload B g A a p.async).1.toOption = (opened P B package env ctx).toOption ∧
      ∀ t, p.now ≤ t → t < p.now + g.window →
        A.exact.Live (asyncReceivePayload B g A a p.async).2 env.envelopeNonce t := by
  obtain ⟨b, answered⟩ := answered
  obtain rfl := (A.exact.mark_iff answered).mpr new
  have opens : openMarked B package env p.sender.card g p.async.readings =
      opened P B package env ctx := by
    have verified : B.verifyFresh env.toDict p.sender.card g p.async.readings.toFreshReadings =
        .ok ctx := verified
    simp only [openMarked, Identity.openFresh, verified, opened]
    rfl
  constructor
  · have result : ∀ r, (asyncReceivePayload B g A a p.async).1 = .ok r ↔
        (A.markUsed a env.envelopeNonce g.window p.async.readings.mark).1 = .ok true ∧
          openMarked B package env p.async.sender.card g p.async.readings = .ok r :=
      fun r => asyncReceivePayload_eq_ok carries
    rw [show p.async.sender.card = p.sender.card from rfl, opens] at result
    cases returned : (asyncReceivePayload B g A a p.async).1 with
    | ok r => rw [((result r).mp returned).2]
    | error e =>
        cases found : opened P B package env ctx with
        | error e' => rfl
        | ok r =>
            have delivered := (result r).mpr ⟨answered, found⟩
            rw [returned] at delivered
            cases delivered
  · intro t le less
    rw [asyncReceivePayload_state carries]
    exact A.exact.held answered le less

/-! ## Runs of both engines -/

/-- Both stores, and the instant of the last package. -/
structure Both (S : SeenStore) (A : AsyncNonceStore) where
  sync : S.State
  async : A.State
  clock : ℚ

/-- A package that was presented, and what the two engines made of it. -/
structure Outcome where
  presented : Presented
  sync : Except PyErr Bytes
  async : Except PyErr Bytes

/-- Neither store fails when it is asked about a nonce. -/
structure Answers (g : ReplayGuard) (S : SeenStore) (A : AsyncNonceStore) (s : Both S A) (now : ℚ) :
    Prop where
  seen : ∀ nonce, ∃ b, (S.isSeen s.sync nonce now).1 = .ok b
  marked : ∀ nonce, ∃ b,
    (S.markUsed (S.isSeen s.sync nonce now).2 nonce g.ttl now).1 = .ok b
  async : ∀ nonce, ∃ b, (A.markUsed s.async nonce g.window now).1 = .ok b

/-- A package is presented to both engines. -/
structure BothStep (B : Identity P) (g : ReplayGuard) (S : SeenStore) (A : AsyncNonceStore)
    (s : Both S A) (e : Outcome) (t : Both S A) : Prop where
  later : s.clock ≤ e.presented.now
  answers : Answers g S A s e.presented.now
  sync : receivePayload B g S s.sync e.presented.sync = (e.sync, t.sync)
  async : asyncReceivePayload B g A s.async e.presented.async = (e.async, t.async)
  clock : t.clock = e.presented.now

/-- Both engines deliver the same payload, or neither delivers one. -/
def Outcome.Agrees (e : Outcome) : Prop := e.sync.toOption = e.async.toOption

/-- If the package verifies: an earlier package with its nonce that verified came less than `window`
seconds before it, and if there was none, every package with its nonce came earlier than that. -/
def Undisturbed (B : Identity P) (g : ReplayGuard) (before : List Presented) (f : Presented) :
    Prop :=
  f.Verified B g → ∀ nonce, f.HasNonce B nonce →
    (∀ e ∈ before, e.HasNonce B nonce → e.Verified B g → f.now < e.now + g.window) ∧
    ((∀ e ∈ before, e.HasNonce B nonce → ¬ e.Verified B g) →
      ∀ e ∈ before, e.HasNonce B nonce → e.now + g.window ≤ f.now)

/-- Every package is undisturbed by those before it. -/
def AllUndisturbed (B : Identity P) (g : ReplayGuard) (ps : List Presented) : Prop :=
  ∀ before f after, ps = before ++ f :: after → Undisturbed B g before f

theorem allUndisturbed_nil : AllUndisturbed B g [] := by
  intro before f after split
  simp at split

theorem allUndisturbed_snoc {ps : List Presented} {f : Presented} :
    AllUndisturbed B g (ps ++ [f]) ↔ AllUndisturbed B g ps ∧ Undisturbed B g ps f := by
  constructor
  · intro all
    refine ⟨fun before f' after split => all before f' (after ++ [f]) ?_, all ps f [] rfl⟩
    rw [split, List.append_assoc, List.cons_append]
  · rintro ⟨all, last⟩ before f' after split
    obtain rfl | ⟨after, f'', rfl⟩ := after.eq_nil_or_concat
    · obtain ⟨rfl, rest⟩ := List.append_inj' split rfl
      obtain rfl := List.singleton_inj.mp rest
      exact last
    · rw [List.concat_eq_append, ← List.cons_append, ← List.append_assoc] at split
      exact all before f' after (List.append_inj' split rfl).1

/-- The engines have agreed.  The sync store holds nonces of packages that verified only, the async
store nonces of packages of the last `window` seconds, and both hold the nonce of a package that
verified for `window` seconds after the first such package. -/
structure Alike (B : Identity P) (g : ReplayGuard) (exact : Ttl.ExactSeen S.markUsed S.isSeen)
    (A : AsyncNonceStore) (es : List Outcome) (s : Both S A) : Prop where
  agreed : ∀ e ∈ es, e.Agrees
  sync : ∀ nonce t, s.clock ≤ t → exact.Live s.sync nonce t →
    ∃ e ∈ es, e.presented.HasNonce B nonce ∧ e.presented.Verified B g
  async : ∀ nonce t, s.clock ≤ t → A.exact.Live s.async nonce t →
    ∃ e ∈ es, e.presented.HasNonce B nonce ∧ t < e.presented.now + g.window
  first : ∀ nonce, ∀ e ∈ es, e.presented.HasNonce B nonce → e.presented.Verified B g →
    ∃ e ∈ es, e.presented.HasNonce B nonce ∧ e.presented.Verified B g ∧
      ∀ t, s.clock ≤ t → t < e.presented.now + g.window →
        exact.Live s.sync nonce t ∧ A.exact.Live s.async nonce t

theorem Presented.HasNonce.unique {nonce nonce' : Str} (has : p.HasNonce B nonce)
    (has' : p.HasNonce B nonce') : nonce = nonce' := by
  obtain ⟨_, _, carries, rfl⟩ := has
  obtain ⟨_, _, carries', rfl⟩ := has'
  exact congrArg Envelope.envelopeNonce (carries.unique carries').2

/-- What the async store holds after a package that delivers nothing new. -/
theorem Alike.async_step {es : List Outcome} {s s' : Both S A} {f : Outcome}
    (alike : Alike B g exact A es s) (step : BothStep B g S A s f s') (nonce : Str) (t : ℚ)
    (le : s'.clock ≤ t) (live : A.exact.Live s'.async nonce t) :
    ∃ e ∈ es ++ [f], e.presented.HasNonce B nonce ∧ t < e.presented.now + g.window := by
  have state : (asyncReceivePayload B g A s.async f.presented.async).2 = s'.async :=
    congrArg Prod.snd step.async
  rw [step.clock] at le
  rw [← state] at live
  obtain new | old := async_live le live
  · exact ⟨f, List.mem_append_right _ List.mem_cons_self, new⟩
  · obtain ⟨e, mem, found⟩ := alike.async nonce t (step.later.trans le) old
    exact ⟨e, List.mem_append_left _ mem, found⟩

/-- A package that neither engine delivers, and that leaves the sync store as it is. -/
theorem Alike.refused {es : List Outcome} {s s' : Both S A} {f : Outcome}
    (alike : Alike B g exact A es s) (step : BothStep B g S A s f s')
    (sync : ∃ e s'', receivePayload B g S s.sync f.presented.sync = (.error e, s'') ∧
      SameLive S exact f.presented.now s.sync s'')
    (async : (asyncReceivePayload B g A s.async f.presented.async).1.toOption = none)
    (known : f.presented.Verified B g → ∀ nonce, f.presented.HasNonce B nonce →
      ∃ e ∈ es, e.presented.HasNonce B nonce ∧ e.presented.Verified B g) :
    Alike B g exact A (es ++ [f]) s' := by
  obtain ⟨e, s'', refused, same⟩ := sync
  rw [step.sync, Prod.mk.injEq] at refused
  obtain ⟨result, rfl⟩ := refused
  have clock := step.clock
  have state : (asyncReceivePayload B g A s.async f.presented.async).2 = s'.async :=
    congrArg Prod.snd step.async
  rw [step.async] at async
  refine ⟨?_, ?_, alike.async_step exact step, ?_⟩
  · intro e' mem
    obtain old | new := List.mem_append.mp mem
    · exact alike.agreed e' old
    · rw [List.mem_singleton.mp new, Outcome.Agrees, result]
      exact async.symm
  · intro nonce t le live
    rw [clock] at le
    obtain ⟨e', mem, found⟩ := alike.sync nonce t (step.later.trans le) ((same nonce t le).mp live)
    exact ⟨e', List.mem_append_left _ mem, found⟩
  · intro nonce e' mem has verified
    have earlier : ∃ e ∈ es, e.presented.HasNonce B nonce ∧ e.presented.Verified B g := by
      obtain old | new := List.mem_append.mp mem
      · exact ⟨e', old, has, verified⟩
      · rw [List.mem_singleton.mp new] at has verified
        exact known verified nonce has
    obtain ⟨e'', mem'', has'', verified''⟩ := earlier
    obtain ⟨d, dmem, dhas, dverified, held⟩ := alike.first nonce e'' mem'' has'' verified''
    refine ⟨d, List.mem_append_left _ dmem, dhas, dverified, fun t le less => ?_⟩
    rw [clock] at le
    obtain ⟨synced, asynced⟩ := held t (step.later.trans le) less
    refine ⟨(same nonce t le).mpr synced, ?_⟩
    rw [← state]
    exact async_kept le asynced

/-- A package that verified, with a nonce that neither store holds. -/
theorem Alike.delivered {es : List Outcome} {s s' : Both S A} {f : Outcome}
    (alike : Alike B g exact A es s) (step : BothStep B g S A s f s')
    (carries : f.presented.async.Carries P.toRuntime B.entityId package env)
    (verified : B.verifyFresh env.toDict f.presented.sender.card g (.instant f.presented.now) =
      .ok ctx)
    (unseen : (S.isSeen s.sync env.envelopeNonce f.presented.now).1 = .ok false)
    (new : ¬ A.exact.Live s.async env.envelopeNonce f.presented.now) :
    Alike B g exact A (es ++ [f]) s' := by
  obtain ⟨synced, syncLive⟩ := sync_unseen exact carries verified unseen
    (step.answers.marked env.envelopeNonce)
  obtain ⟨asynced, asyncLive⟩ := async_new carries verified new (step.answers.async env.envelopeNonce)
  have state : (asyncReceivePayload B g A s.async f.presented.async).2 = s'.async :=
    congrArg Prod.snd step.async
  have clock := step.clock
  rw [step.sync] at synced syncLive
  rw [step.async] at asynced
  rw [state] at asyncLive
  have has : f.presented.HasNonce B env.envelopeNonce := ⟨package, env, carries, rfl⟩
  have signed : f.presented.Verified B g := ⟨package, env, ctx, carries, verified⟩
  have here : f ∈ es ++ [f] := List.mem_append_right _ List.mem_cons_self
  refine ⟨?_, ?_, alike.async_step exact step, ?_⟩
  · intro e mem
    obtain old | last := List.mem_append.mp mem
    · exact alike.agreed e old
    · rw [List.mem_singleton.mp last]
      exact synced.trans asynced.symm
  · intro nonce t le live
    rw [clock] at le
    obtain ⟨rfl, _⟩ | old := (syncLive nonce t le).mp live
    · exact ⟨f, here, has, signed⟩
    · obtain ⟨e, mem, found⟩ := alike.sync nonce t (step.later.trans le) old
      exact ⟨e, List.mem_append_left _ mem, found⟩
  · intro nonce e mem hasNonce verifiedToo
    by_cases same : nonce = env.envelopeNonce
    · subst same
      refine ⟨f, here, has, signed, fun t le less => ?_⟩
      rw [clock] at le
      have longer : f.presented.now + g.window ≤ f.presented.now + g.ttl := by
        have nonneg : (0 : ℚ) ≤ g.clockSkew := Int.cast_nonneg g.skew_nonneg
        unfold ReplayGuard.ttl
        linarith
      exact ⟨(syncLive _ t le).mpr (.inl ⟨rfl, less.trans_le longer⟩), asyncLive t le less⟩
    · obtain old | last := List.mem_append.mp mem
      · obtain ⟨d, dmem, dhas, dverified, held⟩ := alike.first nonce e old hasNonce verifiedToo
        refine ⟨d, List.mem_append_left _ dmem, dhas, dverified, fun t le less => ?_⟩
        rw [clock] at le
        obtain ⟨syncHeld, asyncHeld⟩ := held t (step.later.trans le) less
        refine ⟨(syncLive nonce t le).mpr (.inr syncHeld), ?_⟩
        rw [← state]
        exact async_kept le asyncHeld
      · rw [List.mem_singleton.mp last] at hasNonce
        exact absurd (hasNonce.unique has) same

theorem Alike.step {es : List Outcome} {s s' : Both S A} {f : Outcome}
    (alike : Alike B g exact A es s) (step : BothStep B g S A s f s')
    (undisturbed : Undisturbed B g (es.map Outcome.presented) f.presented) :
    Alike B g exact A (es ++ [f]) s' := by
  by_cases signed : f.presented.Verified B g
  · obtain ⟨package, env, ctx, carries, verified⟩ := signed
    have has : f.presented.HasNonce B env.envelopeNonce := ⟨package, env, carries, rfl⟩
    obtain ⟨recent, clear⟩ := undisturbed ⟨package, env, ctx, carries, verified⟩ _ has
    obtain ⟨b, seen⟩ := step.answers.seen env.envelopeNonce
    by_cases earlier : ∃ e ∈ es, e.presented.HasNonce B env.envelopeNonce ∧
        e.presented.Verified B g
    · -- both engines still hold the nonce
      obtain ⟨e, mem, hasNonce, verifiedToo⟩ := earlier
      obtain ⟨d, dmem, dhas, dverified, held⟩ := alike.first _ e mem hasNonce verifiedToo
      have less := recent _ (List.mem_map_of_mem dmem) dhas dverified
      obtain ⟨syncHeld, asyncHeld⟩ := held _ step.later less
      obtain rfl := (exact.seen_iff seen).mpr syncHeld
      refine alike.refused exact step (sync_seen exact carries verified seen)
        (async_held carries asyncHeld) fun _ nonce hasToo => ?_
      rw [hasToo.unique has]
      exact ⟨d, dmem, dhas, dverified⟩
    · -- neither does
      push Not at earlier
      have syncNew : ¬ exact.Live s.sync env.envelopeNonce f.presented.now := by
        intro live
        obtain ⟨e, mem, hasNonce, verifiedToo⟩ := alike.sync _ _ step.later live
        exact earlier e mem hasNonce verifiedToo
      have asyncNew : ¬ A.exact.Live s.async env.envelopeNonce f.presented.now := by
        intro live
        obtain ⟨e, mem, hasNonce, less⟩ := alike.async _ _ step.later live
        have old := clear (by simpa using earlier) _ (List.mem_map_of_mem mem) hasNonce
        exact absurd less (not_lt.mpr old)
      have unseen : b = false := Bool.eq_false_iff.mpr fun held =>
        syncNew ((exact.seen_iff seen).mp held)
      subst unseen
      exact alike.delivered exact step carries verified seen asyncNew
  · exact alike.refused exact step (sync_unverified exact signed) (async_refused signed)
      fun verified => absurd verified signed

/-- Neither store holds a nonce. -/
def Both.Clear (exact : Ttl.ExactSeen S.markUsed S.isSeen) (s : Both S A) : Prop :=
  ∀ nonce t, ¬ exact.Live s.sync nonce t ∧ ¬ A.exact.Live s.async nonce t

/-- From clear stores on, undisturbed packages are delivered by both engines alike. -/
theorem delivery_agrees (B : Identity P) (g : ReplayGuard) (exact : Ttl.ExactSeen S.markUsed S.isSeen)
    (A : AsyncNonceStore) {es : List Outcome} {s s' : Both S A} (clear : s.Clear exact)
    (run : Run (BothStep B g S A) s es s')
    (undisturbed : AllUndisturbed B g (es.map Outcome.presented)) : ∀ e ∈ es, e.Agrees := by
  suffices alike : Alike B g exact A es s' from alike.agreed
  induction run with
  | nil =>
      refine ⟨?_, ?_, ?_, ?_⟩
      · exact fun e mem => absurd mem List.not_mem_nil
      · exact fun nonce t _ live => absurd live (clear nonce t).1
      · exact fun nonce t _ live => absurd live (clear nonce t).2
      · exact fun nonce e mem => absurd mem List.not_mem_nil
  | snoc _ last ih =>
      rw [List.map_append, List.map_singleton] at undisturbed
      obtain ⟨before, here⟩ := allUndisturbed_snoc.mp undisturbed
      exact (ih before).step exact last here

/-! Packages at the recipient of the sample, over an in-process store and a Redis store. -/

abbrev SampleBoth : Type := Both MemoryNonceStore.seenStore sampleStore

def sampleStart : SampleBoth := ⟨.empty, .empty, 0⟩

theorem sampleStart_clear : sampleStart.Clear MemoryNonceStore.exactSeen := by
  refine fun nonce t => ⟨?_, Bool.false_ne_true⟩
  rintro ⟨expiry, holds, -⟩
  exact List.not_mem_nil holds

def samplePresented (package : SecurePackage) (now : ℚ) : Presented :=
  ⟨⟨"A", sampleSender.card⟩, .package package, some "file", now⟩

/-- What both engines make of a package, and what they leave. -/
def sampleOutcome (s : SampleBoth) (p : Presented) : Outcome × SampleBoth :=
  let (result, sync) :=
    receivePayload sampleRecipient .default MemoryNonceStore.seenStore s.sync p.sync
  let (result', async) := asyncReceivePayload sampleRecipient .default sampleStore s.async p.async
  (⟨p, result, result'⟩, ⟨sync, async, p.now⟩)

/-- Two packages in turn. -/
def sampleOutcomes (p q : Presented) : List Outcome :=
  [(sampleOutcome sampleStart p).1, (sampleOutcome (sampleOutcome sampleStart p).2 q).1]

theorem sampleOutcome_step {s : SampleBoth} {p : Presented} (later : s.clock ≤ p.now)
    (room : s.sync.entries.length < MemoryNonceStore.MAX_NONCE_STORE_SIZE) :
    BothStep sampleRecipient .default MemoryNonceStore.seenStore sampleStore s
      (sampleOutcome s p).1 (sampleOutcome s p).2 where
  later := later
  answers := {
    seen := fun _ => ⟨_, rfl⟩
    marked := fun _ => MemoryNonceStore.markUsed_answers
      (MemoryNonceStore.length_isSeen_le.trans_lt room)
    async := fun _ => ⟨_, rfl⟩ }
  sync := rfl
  async := rfl
  clock := rfl

theorem sampleOutcomes_run {p q : Presented} (nonneg : 0 ≤ p.now) (later : p.now ≤ q.now)
    (room : (sampleOutcome sampleStart p).2.sync.entries.length ≤ 1) :
    ∃ t, Run (BothStep sampleRecipient .default MemoryNonceStore.seenStore sampleStore) sampleStart
      (sampleOutcomes p q) t :=
  ⟨_, .cons (sampleOutcome_step nonneg (by decide))
    (.single (sampleOutcome_step later (room.trans_lt (by decide))))⟩

theorem sampleOutcomes_genuine : ((sampleSend [1, 2]).toOption.map fun package =>
    ((sampleOutcome sampleStart (samplePresented package 1000)).1.async.toOption,
      decide ((sampleOutcome sampleStart (samplePresented package 1000)).2.sync.entries.length
        ≤ 1))) = some (some [1, 2], true) := by
  decide +kernel

/-- A package and its replay. -/
theorem sampleOutcomes_agree : ∃ package, sampleSend [1, 2] = .ok package ∧
    ∀ e ∈ sampleOutcomes (samplePresented package 1000) (samplePresented package 1299),
      e.Agrees := by
  obtain ⟨package, sent, computed⟩ := Option.map_eq_some_iff.mp sampleOutcomes_genuine
  obtain ⟨delivered, room⟩ := Prod.mk.inj computed
  refine ⟨package, Except.of_toOption sent, ?_⟩
  obtain ⟨t, run⟩ := sampleOutcomes_run (p := samplePresented package 1000)
    (q := samplePresented package 1299) (by norm_num [samplePresented])
    (by norm_num [samplePresented]) (of_decide_eq_true room)
  apply delivery_agrees sampleRecipient .default MemoryNonceStore.exactSeen sampleStore
    sampleStart_clear run
  have signed : (samplePresented package 1000).Verified sampleRecipient .default := by
    by_contra unverified
    have refused := async_refused (A := sampleStore) (a := .empty) unverified
    exact absurd (refused.symm.trans delivered) nofun
  have apart : Undisturbed sampleRecipient .default [samplePresented package 1000]
      (samplePresented package 1299) := by
    refine fun _ nonce has => ⟨fun e mem _ _ => ?_, fun none => ?_⟩
    · rw [List.mem_singleton.mp mem]
      norm_num [samplePresented, ReplayGuard.default]
    · exact absurd signed (none _ (List.mem_singleton_self _) has)
  refine allUndisturbed_snoc.mpr ⟨allUndisturbed_snoc.mpr ⟨allUndisturbed_nil, ?_⟩, apart⟩
  exact fun _ _ _ => ⟨fun e mem => absurd mem List.not_mem_nil,
    fun _ e mem => absurd mem List.not_mem_nil⟩

/-- The package with another signature in its envelope. -/
def sampleForged (package : SecurePackage) : SecurePackage :=
  match package.envelope with
  | .dict envelope =>
      { package with envelope := .dict (Dict.set envelope "classical_sig" (.str "00")) }
  | _ => package

theorem sampleOutcomes_forged : ((sampleSend [1, 2]).toOption.map fun package =>
    (((sampleOutcomes (samplePresented (sampleForged package) 1000)
        (samplePresented package 1001)).map fun e => (e.sync.toOption, e.async.toOption)),
      decide ((sampleOutcome sampleStart (samplePresented (sampleForged package)
        1000)).2.sync.entries.length ≤ 1))) = some ([(none, none), (some [1, 2], none)], true) := by
  decide +kernel

/-- The genuine package after a forged one with its nonce. -/
theorem forged_nonce_rejects :
    ¬ ∀ (B : Identity .textual) (g : ReplayGuard) (S : SeenStore)
      (exact : Ttl.ExactSeen S.markUsed S.isSeen) (A : AsyncNonceStore) (es : List Outcome)
      (s s' : Both S A), s.Clear exact → Run (BothStep B g S A) s es s' → ∀ e ∈ es, e.Agrees := by
  intro always
  obtain ⟨package, _, computed⟩ := Option.map_eq_some_iff.mp sampleOutcomes_forged
  obtain ⟨results, room⟩ := Prod.mk.inj computed
  obtain ⟨t, run⟩ := sampleOutcomes_run (p := samplePresented (sampleForged package) 1000)
    (q := samplePresented package 1001) (by norm_num [samplePresented])
    (by norm_num [samplePresented]) (of_decide_eq_true room)
  have agree := always sampleRecipient .default _ MemoryNonceStore.exactSeen sampleStore _ _ _
    sampleStart_clear run
  have last := agree _ (List.mem_cons_of_mem _ List.mem_cons_self)
  simp only [sampleOutcomes, List.map_cons, List.map_nil, List.cons.injEq, Prod.mk.injEq] at results
  rw [Outcome.Agrees, results.2.1.1, results.2.1.2] at last
  cases last

end Aio

end Uxsp
