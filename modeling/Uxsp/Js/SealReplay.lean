import Uxsp.Js.Seal
import Uxsp.Js.Transparent
import Uxsp.Lib.Run

/-!
# Replayed envelopes in `seal.ts`

`Module` is the module with the calls of `openSeal` that are under way; any of them may be next.
`envelopes_opened_once` says in which runs no envelope is opened twice: no two calls that would both
open it wait for its signatures at once, and no nonce is forgotten before its envelope is too old.
-/

namespace Uxsp.JsSeal

variable {J : JsPlatform}

/-! ## Overlapping calls -/

/-- The module, its clock, the calls that wait for their signatures, those that have committed
their nonces, and those that returned a plaintext, oldest first. -/
structure Module where
  seen : SeenNonces
  clock : ℤ
  verifying : List Opening
  decrypting : List Opening
  opened : List Opening

def Module.start (clock : ℤ) : Module := ⟨[], clock, [], [], []⟩

inductive Event
  | waited (clock : ℤ)
  | refused (envelope : JsObject) (e : JsErr)
  | began (envelope : JsObject) (o : Opening)
  | rejected (o : Opening) (e : JsErr)
  | committed (o : Opening)
  | failed (o : Opening) (e : JsErr)
  | returned (o : Opening) (plaintext : Bytes)

inductive Step (J : JsPlatform) (m : Module) : Event → Module → Prop
  | wait {clock : ℤ} : m.clock ≤ clock → Step J m (.waited clock) { m with clock := clock }
  | refuse {receiver : JsIdentity} {senderCard : JsPublicCard} {envelope : JsObject}
      {associatedData : Bytes} {e : JsErr} :
      openBegin J m.seen receiver senderCard envelope associatedData m.clock = .error e →
      Step J m (.refused envelope e) m
  | begin {receiver : JsIdentity} {senderCard : JsPublicCard} {envelope : JsObject}
      {associatedData : Bytes} {o : Opening} :
      openBegin J m.seen receiver senderCard envelope associatedData m.clock = .ok o →
      Step J m (.began envelope o) { m with verifying := m.verifying ++ [o] }
  | reject {front back : List Opening} {o : Opening} {e : JsErr} :
      m.verifying = front ++ o :: back → o.verify J = .error e →
      Step J m (.rejected o e) { m with verifying := front ++ back }
  | commit {front back : List Opening} {o : Opening} :
      m.verifying = front ++ o :: back → o.verify J = .ok () →
      Step J m (.committed o)
        { m with
          seen := commitNonce m.seen o
          verifying := front ++ back
          decrypting := m.decrypting ++ [o] }
  | fail {front back : List Opening} {o : Opening} {e : JsErr} :
      m.decrypting = front ++ o :: back → o.decrypt J = .error e →
      Step J m (.failed o e) { m with decrypting := front ++ back }
  | open {front back : List Opening} {o : Opening} {plaintext : Bytes} :
      m.decrypting = front ++ o :: back → o.decrypt J = .ok plaintext →
      Step J m (.returned o plaintext)
        { m with decrypting := front ++ back, opened := m.opened ++ [o] }

/-- What an envelope is told by: both are signed with it. -/
def Opening.mark (o : Opening) : JsStr × ℚ := (o.envelopeNonce, o.timestamp)

/-- The call ends with a plaintext. -/
def Opening.Opens (J : JsPlatform) (o : Opening) : Prop :=
  o.verify J = .ok () ∧ ∃ plaintext, o.decrypt J = .ok plaintext

def Opening.Stale (o : Opening) (clock : ℤ) : Prop := MAX_AGE_SECONDS < ageAt clock o.timestamp

/-- A call begins while no other waits with its envelope, unless one of the two is not to succeed;
and a call that commits its nonce makes the map forget the nonce of an opened envelope only when
that envelope is too old. -/
def Guarded (J : JsPlatform) (m : Module) : Event → Prop
  | .began _ o => ∀ p ∈ m.verifying, p.mark = o.mark → ¬ (p.Opens J ∧ o.Opens J)
  | .committed o => ∀ p ∈ m.opened ++ m.decrypting, p.Opens J →
      (m.seen.lookup p.envelopeNonce).isSome → (commitNonce m.seen o).lookup p.envelopeNonce = none →
        p.Stale m.clock
  | _ => True

def GuardedStep (J : JsPlatform) (m : Module) (e : Event) (n : Module) : Prop :=
  Step J m e n ∧ Guarded J m e

variable {m n : Module} {e : Event} {es : List Event} {o p : Opening}

/-! ## What the checks say -/

theorem freshTimestamp_age {envelope : JsObject} {now : ℤ} {timestamp : ℚ}
    (read : freshTimestamp J envelope now = .ok timestamp) :
    ageAt now timestamp ≤ MAX_AGE_SECONDS := by
  unfold freshTimestamp at read
  split at read
  · simp only [js_bind_eq_ok, jsEnsure_eq_ok, js_pure_eq_ok, decide_eq_true_eq] at read
    obtain ⟨_, young, _, _, rfl⟩ := read
    exact young
  · cases read
  · cases read
  · cases read

/-- A call that passes the checks has a nonce that is not in the map and is not too old. -/
theorem openBegin_new {seen : SeenNonces} {receiver : JsIdentity} {senderCard : JsPublicCard}
    {envelope : JsObject} {associatedData : Bytes} {now : ℤ}
    (began : openBegin J seen receiver senderCard envelope associatedData now = .ok o) :
    seen.lookup o.envelopeNonce = none ∧ ¬ o.Stale now := by
  simp only [openBegin, js_bind_eq_ok, jsEnsure_eq_ok, js_pure_eq_ok] at began
  obtain ⟨_, _, _, _, timestamp, read, nonce, _, _, unseen, _, _, _, _, _, _, _, _, _, _, _, _, _,
    _, _, _, _, _, _, _, rfl⟩ := began
  exact ⟨Option.isNone_iff_eq_none.mp unseen, not_lt.mpr (freshTimestamp_age read)⟩

theorem lookup_commitNonce_self (seen : SeenNonces) (o : Opening) :
    (commitNonce seen o).lookup o.envelopeNonce = some o.now := by
  rw [commitNonce, Assoc.lookup_set, if_pos (beq_self_eq_true _)]

theorem Opening.Stale.later {clock clock' : ℤ} (stale : o.Stale clock) (le : clock ≤ clock') :
    o.Stale clock' := by
  have seconds : unixSeconds clock ≤ unixSeconds clock' :=
    Int.ediv_le_ediv (by norm_num) le
  have seconds : (unixSeconds clock : ℚ) ≤ unixSeconds clock' := Int.cast_le.mpr seconds
  unfold Opening.Stale ageAt at stale ⊢
  linarith

/-! ## The invariant -/

/-- Not both calls open one envelope. -/
def Apart (J : JsPlatform) (p o : Opening) : Prop := p.mark = o.mark → ¬ (p.Opens J ∧ o.Opens J)

theorem Apart.symm (apart : Apart J p o) : Apart J o p :=
  fun same both => apart same.symm both.symm

structure Inv (J : JsPlatform) (m : Module) : Prop where
  apart : (m.opened ++ m.decrypting ++ m.verifying).Pairwise (Apart J)
  opens : ∀ p ∈ m.opened, p.Opens J
  verified : ∀ p ∈ m.decrypting, p.verify J = .ok ()
  held : ∀ p ∈ m.opened ++ m.decrypting, p.Opens J →
    (m.seen.lookup p.envelopeNonce).isSome ∨ p.Stale m.clock

theorem Inv.start (J : JsPlatform) (clock : ℤ) : Inv J (.start clock) :=
  ⟨.nil, fun _ mem => absurd mem List.not_mem_nil, fun _ mem => absurd mem List.not_mem_nil,
    fun _ mem => absurd mem List.not_mem_nil⟩

/-- A call that goes on to the next list. -/
theorem perm_moved (before front back : List Opening) (o : Opening) :
    (before ++ [o] ++ (front ++ back)).Perm (before ++ (front ++ o :: back)) := by
  rw [List.append_assoc, List.singleton_append]
  exact List.perm_middle.symm.append_left before

/-- A call that passes the checks is apart from those that have committed their nonces. -/
theorem Inv.new (inv : Inv J m) (unseen : m.seen.lookup o.envelopeNonce = none)
    (young : ¬ o.Stale m.clock) (mem : p ∈ m.opened ++ m.decrypting) : Apart J p o := by
  intro same ⟨opens, _⟩
  obtain ⟨nonce, timestamp⟩ := Prod.mk.inj same
  rcases inv.held p mem opens with held | stale
  · rw [nonce, unseen] at held
    cases held
  · unfold Opening.Stale at stale young
    rw [timestamp] at stale
    exact young stale

theorem Inv.step (inv : Inv J m) (step : GuardedStep J m e n) : Inv J n := by
  obtain ⟨step, guarded⟩ := step
  cases step with
  | wait le =>
      exact ⟨inv.apart, inv.opens, inv.verified, fun p mem opens =>
        (inv.held p mem opens).imp_right fun stale => stale.later le⟩
  | refuse => exact inv
  | @begin _ _ envelope _ o began =>
      obtain ⟨unseen, young⟩ := openBegin_new began
      refine ⟨?_, inv.opens, inv.verified, inv.held⟩
      rw [← List.append_assoc]
      refine List.pairwise_append.mpr ⟨inv.apart, List.pairwise_singleton _ _, ?_⟩
      intro p mem q last
      rw [List.mem_singleton.mp last]
      rcases List.mem_append.mp mem with committed | waiting
      · exact inv.new unseen young committed
      · exact guarded p waiting
  | @reject front back o e here =>
      have rest : (front ++ back).Sublist m.verifying := by
        rw [here]
        exact (List.sublist_cons_self o back).append_left front
      exact ⟨inv.apart.sublist (rest.append_left _), inv.opens, inv.verified, inv.held⟩
  | @commit front back o here valid =>
      have order : (m.opened ++ (m.decrypting ++ [o]) ++ (front ++ back)).Perm
          (m.opened ++ m.decrypting ++ m.verifying) := by
        rw [here, ← List.append_assoc m.opened]
        exact perm_moved _ _ _ _
      refine ⟨(order.pairwise_iff fun apart => apart.symm).mpr inv.apart, inv.opens, ?_, ?_⟩
      · intro p mem
        rcases List.mem_append.mp mem with before | last
        · exact inv.verified p before
        · rw [List.mem_singleton.mp last]
          exact valid
      intro p mem opens
      rw [← List.append_assoc] at mem
      rcases List.mem_append.mp mem with before | last
      · rcases inv.held p before opens with held | stale
        · cases left : (commitNonce m.seen o).lookup p.envelopeNonce with
          | some _ => exact .inl rfl
          | none => exact .inr (guarded p before opens held left)
        · exact .inr stale
      · rw [List.mem_singleton.mp last, lookup_commitNonce_self]
        exact .inl rfl
  | @fail front back o e here =>
      have rest : (front ++ back).Sublist m.decrypting := by
        rw [here]
        exact (List.sublist_cons_self o back).append_left front
      exact ⟨inv.apart.sublist ((rest.append_left _).append_right _), inv.opens,
        fun p mem => inv.verified p (rest.subset mem),
        fun p mem => inv.held p ((rest.append_left _).subset mem)⟩
  | @«open» front back o plaintext here out =>
      have member : o ∈ m.decrypting := by simp [here]
      have rest : (front ++ back).Sublist m.decrypting := by
        rw [here]
        exact (List.sublist_cons_self o back).append_left front
      have order : (m.opened ++ [o] ++ (front ++ back)).Perm (m.opened ++ m.decrypting) := by
        rw [here]
        exact perm_moved _ _ _ _
      have apart := ((order.append_right m.verifying).pairwise_iff fun apart => apart.symm).mpr
        inv.apart
      refine ⟨apart, ?_, fun p mem => inv.verified p (rest.subset mem),
        fun p mem => inv.held p (order.subset mem)⟩
      intro p mem
      rcases List.mem_append.mp mem with before | last
      · exact inv.opens p before
      · rw [List.mem_singleton.mp last]
        exact ⟨inv.verified o member, plaintext, out⟩

/-- In such a run no envelope is opened twice; and no nonce is, where it belongs to one envelope. -/
theorem envelopes_opened_once {clock : ℤ} (run : Run (GuardedStep J) (.start clock) es m) :
    (m.opened.map Opening.mark).Nodup ∧
      ((∀ p ∈ m.opened, ∀ o ∈ m.opened, p.envelopeNonce = o.envelopeNonce →
          p.timestamp = o.timestamp) → (m.opened.map Opening.envelopeNonce).Nodup) := by
  have inv : Inv J m := run.invariant (fun _ _ _ before step => before.step step) (.start J clock)
  have apart : m.opened.Pairwise (Apart J) :=
    inv.apart.sublist ((List.sublist_append_left _ _).trans (List.sublist_append_left _ _))
  have marks : m.opened.Pairwise fun p o => p.mark ≠ o.mark :=
    apart.imp_of_mem fun memP memO apart same => apart same ⟨inv.opens _ memP, inv.opens _ memO⟩
  refine ⟨List.pairwise_map.mpr marks, fun unique => List.pairwise_map.mpr ?_⟩
  exact marks.imp_of_mem fun memP memO differ same =>
    differ (Prod.ext same (unique _ memP _ memO same))

/-! ## Sample runs -/

/-- An identity that was made without the module of ML-KEM and ML-DSA. -/
def sampleIdentity (name : String) (x : UInt8) : JsIdentity :=
  { JsIdentity.transparent name x with
    kem := ⟨"STUB_MLKEM_PUB", "STUB_MLKEM_PRIV"⟩
    pqcSig := ⟨"STUB_MLDSA_PUB", "STUB_MLDSA_PRIV"⟩ }

def samplePlatform : JsPlatform := Platform.transparent.js .plain none

def sampleCoins : JsSealCoins where
  exchange := .transparent 3
  nonce := .filled 12 4
  envelopeNonce := .filled 32 5

/-- What `a` seals for `b` at the time 0. -/
def sampleEnvelope : JsObject :=
  ((sampleIdentity "a" 1).seal samplePlatform (sampleIdentity "b" 2).publicCard [104, 105] [] 0
    sampleCoins).toOption.getD []

def sampleBegin (seen : SeenNonces) : Except JsErr Opening :=
  openBegin samplePlatform seen (sampleIdentity "b" 2) (sampleIdentity "a" 1).publicCard
    sampleEnvelope [] 0

theorem Step.commit_first (valid : o.verify J = .ok ()) (seen : SeenNonces) (clock : ℤ)
    (rest done opened : List Opening) : Step J ⟨seen, clock, o :: rest, done, opened⟩ (.committed o)
      ⟨commitNonce seen o, clock, rest, done ++ [o], opened⟩ := by
  have first : (⟨seen, clock, o :: rest, done, opened⟩ : Module).verifying = [] ++ o :: rest := rfl
  exact .commit first valid

theorem Step.open_first {plaintext : Bytes} (out : o.decrypt J = .ok plaintext) (seen : SeenNonces)
    (clock : ℤ) (rest opened : List Opening) :
    Step J ⟨seen, clock, [], o :: rest, opened⟩ (.returned o plaintext)
      ⟨seen, clock, [], rest, opened ++ [o]⟩ := by
  have first : (⟨seen, clock, [], o :: rest, opened⟩ : Module).decrypting = [] ++ o :: rest := rfl
  exact .open first out

theorem sampleBegin_opens : ∃ o, sampleBegin [] = .ok o ∧ o.Opens samplePlatform ∧
    (∃ e, sampleBegin (commitNonce [] o) = .error e) := by
  have computed : (sampleBegin []).toOption.any (fun o => (o.verify samplePlatform).isOk &&
      (o.decrypt samplePlatform).isOk && !(sampleBegin (commitNonce [] o)).isOk) = true := by
    decide +kernel
  cases began : sampleBegin [] with
  | error e =>
      rw [began] at computed
      cases computed
  | ok o =>
      rw [began] at computed
      simp only [Except.toOption, Option.any_some, Bool.and_eq_true, Bool.not_eq_true'] at computed
      obtain ⟨⟨valid, out⟩, again⟩ := computed
      refine ⟨o, rfl, ⟨?_, ?_⟩, ?_⟩
      · cases verified : o.verify samplePlatform with
        | error e =>
            rw [verified] at valid
            cases valid
        | ok _ => rfl
      · cases opened : o.decrypt samplePlatform with
        | error e =>
            rw [opened] at out
            cases out
        | ok plaintext => exact ⟨plaintext, rfl⟩
      · cases refused : sampleBegin (commitNonce [] o) with
        | error e => exact ⟨e, rfl⟩
        | ok _ =>
            rw [refused] at again
            cases again

/-- The sample envelope, and the same envelope again. -/
theorem sampleEnvelope_once : ∃ m : Module, m.opened ≠ [] ∧
    (m.opened.map Opening.mark).Nodup ∧ (m.opened.map Opening.envelopeNonce).Nodup := by
  obtain ⟨o, began, ⟨valid, plaintext, out⟩, e, again⟩ := sampleBegin_opens
  have first : Step samplePlatform (.start 0) (.began _ o) ⟨[], 0, [o], [], []⟩ := .begin began
  have second := Step.commit_first valid [] 0 [] [] []
  have third := Step.open_first out (commitNonce [] o) 0 [] []
  have fourth : Step samplePlatform ⟨commitNonce [] o, 0, [], [], [o]⟩ (.refused _ e) _ :=
    .refuse again
  have run : Run (GuardedStep samplePlatform) (.start 0) _ _ :=
    .cons ⟨first, nofun⟩ (.cons ⟨second, nofun⟩ (.cons ⟨third, trivial⟩ (.single ⟨fourth, trivial⟩)))
  have once := envelopes_opened_once run
  refine ⟨_, List.cons_ne_nil _ _, once.1, once.2 ?_⟩
  intro p memP q memQ _
  rw [List.mem_singleton.mp memP, List.mem_singleton.mp memQ]

/-- Two calls with one envelope that both wait for its signatures open it twice. -/
theorem overlapping_opened_twice : ¬ ∀ (J : JsPlatform) (clock : ℤ) (es : List Event)
    (m : Module), Run (Step J) (.start clock) es m → (m.opened.map Opening.mark).Nodup := by
  intro always
  obtain ⟨o, began, ⟨valid, plaintext, out⟩, -⟩ := sampleBegin_opens
  have first : Step samplePlatform (.start 0) (.began _ o) ⟨[], 0, [o], [], []⟩ := .begin began
  have second : Step samplePlatform ⟨[], 0, [o], [], []⟩ (.began _ o) ⟨[], 0, [o, o], [], []⟩ :=
    .begin began
  have third := Step.commit_first valid [] 0 [o] [] []
  have fourth := Step.commit_first valid (commitNonce [] o) 0 [] [o] []
  have fifth := Step.open_first out (commitNonce (commitNonce [] o) o) 0 [o] []
  have sixth := Step.open_first out (commitNonce (commitNonce [] o) o) 0 [] [o]
  have run := Run.cons first (.cons second (.cons third (.cons fourth (.cons fifth
    (.single sixth)))))
  have once := always _ _ _ _ run
  simp at once

end Uxsp.JsSeal
