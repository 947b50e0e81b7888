import Uxsp.Storage.PostgresNonceStore

/-!
# Calls on one Postgres table

A nonce that a call was told is new stays in the table until it has expired and `cleanup` runs,
unless another call drops the insertion before it is committed.  Then no other call is told the same
before the nonce has expired.  On the connections of a pool only the rollback of a call that has put
its connection back already can drop an insertion.
-/

namespace Uxsp

/-- A run whose steps are all good, or the first step that is not. -/
theorem Run.good_or_first {σ ε : Type*} {step : σ → ε → σ → Prop} (bad : σ → ε → Prop) {s t : σ}
    {es : List ε} (run : Run step s es t) :
    Run (fun a e b => step a e b ∧ ¬ bad a e) s es t ∨
    ∃ front e rest a b, es = front ++ e :: rest ∧ Run step s front a ∧ step a e b ∧ bad a e := by
  induction run with
  | nil => exact .inl .nil
  | @snoc a b es e before last ih =>
      rcases ih with good | ⟨front, f, rest, a', b', rfl, reached, here, bad'⟩
      · by_cases this : bad a e
        · exact .inr ⟨es, e, [], a, b, rfl, before, last, this⟩
        · exact .inl (.snoc good ⟨last, this⟩)
      · exact .inr ⟨front, f, rest ++ [e], a', b', by simp, reached, here, bad'⟩

namespace PostgresNonceStore

open Sql

variable {bare : Set ℕ} {x y start : System} {e : Event} {es : List Event} {i j c d : ℕ} {n : Str}
  {t t' now : ℚ} {a : Stmt Str ℚ} {p p' : Phase} {q : Call}

/-! ## Where a mark stands -/

/-- The call marks the nonce until the time. -/
def Call.Marks (q : Call) (n : Str) (t : ℚ) : Prop :=
  ∃ ttlSeconds, q.op = .markUsed n ttlSeconds ∧ t = q.start + ttlSeconds

/-- The nonce is inserted, and the call has not committed yet. -/
inductive Phase.Pending (c : ℕ) (n : Str) (t : ℚ) : Phase → Prop
  | sampling {q : Call} : q.Marks n t → Pending c n t (.sampling q c)
  | answered {q : Call} : q.Marks n t → Pending c n t (.answered q c (.marked true))

/-- The call has committed, and will return `True` or has done so. -/
inductive Phase.Committed (n : Str) (t : ℚ) : Phase → Prop
  | leaving {q : Call} {c : ℕ} : q.Marks n t →
      Committed n t (.leaving q c (.ok (.marked true)))
  | returned {q : Call} : q.Marks n t → Committed n t (.returned q (.marked true))

/-- The call was told that the nonce is new. -/
def Phase.Took (p : Phase) (n : Str) (t : ℚ) : Prop := (∃ c, p.Pending c n t) ∨ p.Committed n t

/-- The call was told that the nonce is known. -/
inductive Phase.Refused (n : Str) : Phase → Prop
  | answered {q : Call} {c : ℕ} {t : ℚ} : q.Marks n t → Refused n (.answered q c (.marked false))
  | leaving {q : Call} {c : ℕ} {t : ℚ} : q.Marks n t →
      Refused n (.leaving q c (.ok (.marked false)))
  | returned {q : Call} {t : ℚ} : q.Marks n t → Refused n (.returned q (.marked false))

/-- The call may have the connection to itself. -/
inductive Phase.Holds (c : ℕ) : Phase → Prop
  | holding {q : Call} : Holds c (.holding q c)
  | sampling {q : Call} : Holds c (.sampling q c)
  | answered {q : Call} {answer : Answer} : Holds c (.answered q c answer)
  | leaving {q : Call} {out : Except PyErr Answer} : Holds c (.leaving q c out)

theorem Phase.Pending.holds (pending : p.Pending c n t) : p.Holds c := by
  cases pending with
  | sampling => exact .sampling
  | answered => exact .answered

theorem Asks.holds (asks : Asks now c p a p') : p.Holds c := by
  cases asks <;> constructor

/-- A nonce becomes pending when it is inserted. -/
theorem Asks.pending (asks : Asks now c p a p') (pending : p'.Pending d n t) :
    p.Pending d n t ∧ ¬ a.Drops ∨ d = c ∧ a = .insert n t true := by
  cases asks with
  | @insert nonce ttlSeconds start inserted =>
      cases inserted with
      | false => cases pending
      | true =>
          have own : d = c ∧ Call.Marks ⟨.markUsed nonce ttlSeconds, start⟩ n t := by
            unfold afterInsert at pending
            split at pending
            · cases pending with
              | sampling marks => exact ⟨rfl, marks⟩
            · cases pending with
              | answered marks => exact ⟨rfl, marks⟩
          obtain ⟨rfl, ttl, same, rfl⟩ := own
          cases same
          exact .inr ⟨rfl, rfl⟩
  | sample =>
      cases pending with
      | answered marks =>
          refine .inl ⟨.sampling marks, ?_⟩
          rintro (drops | drops | drops) <;> cases drops
  | create => cases pending
  | select => cases pending
  | delete => cases pending
  | commit => cases pending
  | lostCommit => cases pending
  | failHolding => cases pending
  | failSampling => cases pending
  | failAnswered => cases pending
  | failLeaving => cases pending

/-- A nonce is committed where it was pending. -/
theorem Asks.committed (asks : Asks now c p a p') (committed : p'.Committed n t) :
    p.Pending c n t ∧ a = .commit := by
  cases asks with
  | commit =>
      cases committed with
      | leaving marks => exact ⟨.answered marks, rfl⟩
  | @insert nonce ttlSeconds start inserted =>
      unfold afterInsert at committed
      split at committed <;> cases committed
  | create => cases committed
  | sample => cases committed
  | select => cases committed
  | delete => cases committed
  | lostCommit => cases committed
  | failHolding => cases committed
  | failSampling => cases committed
  | failAnswered => cases committed
  | failLeaving => cases committed

/-- A call is told that a nonce is known by the statement that inserts. -/
theorem Asks.refused (asks : Asks now c p a p') (refused : p'.Refused n) :
    p.Refused n ∨ ∃ t, a = .insert n t false := by
  cases asks with
  | @insert nonce ttlSeconds start inserted =>
      cases inserted with
      | true =>
          unfold afterInsert at refused
          split at refused <;> cases refused
      | false =>
          cases refused with
          | answered marks =>
              obtain ⟨ttl, same, -⟩ := marks
              cases same
              exact .inr ⟨_, rfl⟩
  | commit =>
      cases refused with
      | leaving marks => exact .inl (.answered marks)
  | create => cases refused
  | sample => cases refused
  | select => cases refused
  | delete => cases refused
  | lostCommit => cases refused
  | failHolding => cases refused
  | failSampling => cases refused
  | failAnswered => cases refused
  | failLeaving => cases refused

/-- `cleanup` deletes what has expired. -/
theorem Asks.expired (asks : Asks now c p a p') (deletes : a.Deletes t) : t < now := by
  obtain ⟨r, ks, same, hit⟩ := deletes
  cases asks with
  | delete _ le =>
      cases same
      exact lt_of_lt_of_le hit le
  | _ => cases same

/-! ## What a step does -/

/-- The step may drop what the connection has not committed. -/
inductive Event.Drops (c : ℕ) : Event → Prop
  | did {i : ℕ} {now : ℚ} {a : Stmt Str ℚ} : a.Drops → Drops c (.did i c now a)
  | put {i : ℕ} : Drops c (.put i c)
  | rolledBack {i : ℕ} : Drops c (.rolledBack i c)

/-- The call that takes the step. -/
def Event.call : Event → Option ℕ
  | .called i _ | .acquired i _ | .refused i | .did i _ _ _ | .put i _ | .left i | .rolledBack i _
  | .gaveUp i => some i
  | .tick => none

/-- What a call may do besides asking for a statement: its marks stand where they stood. -/
structure Keeps (p p' : Phase) : Prop where
  pending : ∀ {c n t}, p'.Pending c n t → p.Pending c n t
  committed : ∀ {n t}, p'.Committed n t → p.Committed n t
  refused : ∀ {n}, p'.Refused n → p.Refused n

theorem Keeps.refl (p : Phase) : Keeps p p := ⟨id, id, id⟩

/-- A phase in which nothing is marked. -/
theorem Keeps.of_none (pending : ∀ {c n t}, ¬ p'.Pending c n t)
    (committed : ∀ {n t}, ¬ p'.Committed n t) (refused : ∀ {n}, ¬ p'.Refused n) : Keeps p p' :=
  ⟨fun h => absurd h pending, fun h => absurd h committed, fun h => absurd h refused⟩

theorem keeps_afterPut {out : Except PyErr Answer} :
    Keeps (.leaving q c out) (afterPut q c out) := by
  cases out with
  | error e => exact .of_none nofun nofun nofun
  | ok answer =>
      refine ⟨nofun, fun committed => ?_, fun refused => ?_⟩
      · cases committed with
        | returned marks => exact .leaving marks
      · cases refused with
        | returned marks => exact .leaving marks

/-- What a step does. -/
inductive Effect (x : System) : Event → System → Prop
  | asked {i c : ℕ} {a : Stmt Str ℚ} {y : System} : Asks x.clock c (x.phase i) a (y.phase i) →
      x.server.Does c a y.server → x.clock = y.clock → (∀ j ≠ i, y.phase j = x.phase j) →
      Effect x (.did i c x.clock a) y
  | reset {c : ℕ} {e : Event} {y : System} : e.Drops c →
      (∀ i, e.call = some i → ∀ n t, ¬ (x.phase i).Pending c n t) →
      Resets x.server c y.server → x.clock = y.clock → (∀ j, Keeps (x.phase j) (y.phase j)) →
      Effect x e y
  | quiet {e : Event} {y : System} : x.server = y.server → x.clock ≤ y.clock →
      (∀ j, Keeps (x.phase j) (y.phase j)) → Effect x e y

theorem System.put_phase_self (i : ℕ) (p : Phase) : (x.put i p).phase i = p :=
  Function.update_self ..

theorem System.put_phase_of_ne {p : Phase} (other : j ≠ i) : (x.put i p).phase j = x.phase j :=
  Function.update_of_ne other ..

theorem keeps_put (keeps : Keeps (x.phase i) p) (j : ℕ) :
    Keeps (x.phase j) ((x.put i p).phase j) := by
  obtain rfl | other := eq_or_ne j i
  · rwa [System.put_phase_self]
  · rw [System.put_phase_of_ne other]
    exact .refl _

theorem Step.effect (step : Step bare x e y) : Effect x e y := by
  cases step with
  | call op idle => exact .quiet rfl le_rfl (keeps_put (.of_none nofun nofun nofun))
  | getconn entered _ => exact .quiet rfl le_rfl (keeps_put (.of_none nofun nofun nofun))
  | bare entered _ => exact .quiet rfl le_rfl (keeps_put (.of_none nofun nofun nofun))
  | getconnFails e entered => exact .quiet rfl le_rfl (keeps_put (.of_none nofun nofun nofun))
  | @ask i c a phase server asks does =>
      refine .asked ?_ does rfl fun j other => System.put_phase_of_ne other
      change Asks x.clock c (x.phase i) a ((x.put i phase).phase i)
      rwa [System.put_phase_self]
  | @put i c q out server free leaving pooled resets sub =>
      refine .reset .put (fun k own n t pending => ?_) resets rfl
        (keeps_put (leaving ▸ keeps_afterPut))
      cases own
      rw [leaving] at pending
      cases pending
  | @putFails i c q out server free e leaving pooled resets sub =>
      refine .reset .put (fun k own n t pending => ?_) resets rfl
        (keeps_put (.of_none nofun nofun nofun))
      cases own
      rw [leaving] at pending
      cases pending
  | leave leaving _ => exact .quiet rfl le_rfl (keeps_put (leaving ▸ keeps_afterPut))
  | @rollback i c q e server unwinding resets =>
      refine .reset .rolledBack (fun k own n t pending => ?_) resets rfl
        (keeps_put (.of_none nofun nofun nofun))
      cases own
      rw [unwinding] at pending
      cases pending
  | giveUp unwinding => exact .quiet rfl le_rfl (keeps_put (.of_none nofun nofun nofun))
  | tick le => exact .quiet rfl le fun j => .refl _

/-! ## Calm runs -/

/-- The step may drop what another call has inserted. -/
def Disturbs (x : System) (e : Event) : Prop :=
  ∃ i c n t, e.Drops c ∧ e.call ≠ some i ∧ (x.phase i).Pending c n t ∧
    (x.server.conn c).pending n = some (some t)

def CalmStep (bare : Set ℕ) (x : System) (e : Event) (y : System) : Prop :=
  Step bare x e y ∧ ¬ Disturbs x e

/-- A nonce that is marked is in the table until it expires. -/
structure Inv (x : System) : Prop where
  tidy : x.server.Tidy
  pending : ∀ {i c n t}, (x.phase i).Pending c n t → t < x.clock ∨ x.server.Has c n t
  committed : ∀ {i n t}, (x.phase i).Committed n t → t < x.clock ∨ x.server.Settled n t

theorem System.Start.inv (new : start.Start bare) : Inv start where
  tidy := by
    rw [new.server]
    exact Server.tidy_start _
  pending := by
    intro i c n t pending
    rw [new.phase i] at pending
    cases pending
  committed := by
    intro i n t committed
    rw [new.phase i] at committed
    cases committed

theorem Resets.tidy {s s' : Server Str ℚ} (resets : Resets s c s') (tidy : s.Tidy) : s'.Tidy := by
  rcases resets with rfl | does | does
  · exact tidy
  · exact does.tidy tidy
  · exact does.tidy tidy

theorem not_deletes_rollback : ¬ (Stmt.rollback : Stmt Str ℚ).Deletes t := by
  rintro ⟨r, ks, same, -⟩
  cases same

theorem not_deletes_fail : ¬ (Stmt.fail : Stmt Str ℚ).Deletes t := by
  rintro ⟨r, ks, same, -⟩
  cases same

theorem Resets.settled {s s' : Server Str ℚ} (resets : Resets s c s') (settled : s.Settled n t) :
    s'.Settled n t := by
  rcases resets with rfl | does | does
  · exact settled
  · exact settled.step does not_deletes_rollback
  · exact settled.step does not_deletes_fail

theorem Resets.has {s s' : Server Str ℚ} (resets : Resets s d s') (has : s.Has c n t)
    (tidy : s.Tidy) (other : c = d → (s.conn c).pending n ≠ some (some t)) : s'.Has c n t := by
  rcases resets with rfl | does | does
  · exact has
  · exact has.step tidy does not_deletes_rollback fun own held => absurd held (other own)
  · exact has.step tidy does not_deletes_fail fun own held => absurd held (other own)

theorem Inv.step (inv : Inv x) (effect : Effect x e y) (calm : ¬ Disturbs x e) : Inv y := by
  cases effect with
  | @asked i c a _ asks does clock same =>
      have kept {t : ℚ} (early : ¬ t < x.clock) : ¬ a.Deletes t :=
        fun deletes => early (asks.expired deletes)
      refine ⟨does.tidy inv.tidy, fun {j d n t} pending => ?_, fun {j n t} committed => ?_⟩
      · rw [← clock]
        by_cases early : t < x.clock
        · exact .inl early
        obtain rfl | other := eq_or_ne j i
        · rcases asks.pending pending with ⟨before, stays⟩ | ⟨rfl, rfl⟩
          · refine .inr ?_
            have has := (inv.pending before).resolve_left early
            exact has.step inv.tidy does (kept early) fun _ _ => stays
          · exact .inr does.has
        · rw [same j other] at pending
          have has := (inv.pending pending).resolve_left early
          refine .inr (has.step inv.tidy does (kept early) fun own held drops => calm ?_)
          subst own
          exact ⟨j, d, n, t, .did drops, fun same => other (Option.some.inj same).symm, pending,
            held⟩
      · rw [← clock]
        by_cases early : t < x.clock
        · exact .inl early
        obtain rfl | other := eq_or_ne j i
        · obtain ⟨before, rfl⟩ := asks.committed committed
          have has := (inv.pending before).resolve_left early
          exact .inr (has.commit inv.tidy does)
        · rw [same j other] at committed
          have settled := (inv.committed committed).resolve_left early
          exact .inr (settled.step does (kept early))
  | @reset c _ _ drops own resets clock keeps =>
      refine ⟨resets.tidy inv.tidy, fun {j d n t} pending => ?_, fun {j n t} committed => ?_⟩
      · rw [← clock]
        have before := (keeps j).pending pending
        refine (inv.pending before).imp_right fun has => ?_
        refine resets.has has inv.tidy fun same held => calm ?_
        subst same
        exact ⟨j, d, n, t, drops, fun mine => own j mine n t before, before, held⟩
      · rw [← clock]
        exact (inv.committed ((keeps j).committed committed)).imp_right resets.settled
  | quiet server clock keeps =>
      refine ⟨server ▸ inv.tidy, fun {j d n t} pending => ?_, fun {j n t} committed => ?_⟩
      · rw [← server]
        exact (inv.pending ((keeps j).pending pending)).imp_left fun early => early.trans_le clock
      · rw [← server]
        exact (inv.committed ((keeps j).committed committed)).imp_left
          fun early => early.trans_le clock

/-- A call inserted the nonce until `t'`, and by then a mark until `t` had expired. -/
def Later (es : List Event) (i : ℕ) (n : Str) (t t' : ℚ) : Prop :=
  ∃ c now, .did i c now (.insert n t' true) ∈ es ∧ t < now

theorem Later.snoc (later : Later es i n t t') : Later (es ++ [e]) i n t t' := by
  obtain ⟨c, now, mem, expired⟩ := later
  exact ⟨c, now, List.mem_append_left _ mem, expired⟩

/-- Of two calls that took a nonce, one did so after the mark of the other had expired. -/
def Once (es : List Event) (x : System) : Prop :=
  ∀ i j n t t', i ≠ j → (x.phase i).Took n t → (x.phase j).Took n t' →
    Later es j n t t' ∨ Later es i n t' t

theorem Keeps.took (keeps : Keeps p p') (took : p'.Took n t) : p.Took n t := by
  rcases took with ⟨c, pending⟩ | committed
  · exact .inl ⟨c, keeps.pending pending⟩
  · exact .inr (keeps.committed committed)

/-- A step by which a call takes a nonce. -/
theorem Effect.took (effect : Effect x e y) (took : (y.phase i).Took n t) :
    (x.phase i).Took n t ∨
      ∃ c, e = .did i c x.clock (.insert n t true) ∧
        x.server.Does c (.insert n t true) y.server := by
  cases effect with
  | @asked k c a _ asks does clock same =>
      obtain rfl | other := eq_or_ne i k
      · rcases took with ⟨d, pending⟩ | committed
        · rcases asks.pending pending with ⟨before, -⟩ | ⟨-, rfl⟩
          · exact .inl (.inl ⟨d, before⟩)
          · exact .inr ⟨c, rfl, does⟩
        · exact .inl (.inl ⟨c, (asks.committed committed).1⟩)
      · rw [same i other] at took
        exact .inl took
  | reset _ _ _ _ keeps => exact .inl ((keeps i).took took)
  | quiet _ _ keeps => exact .inl ((keeps i).took took)

/-- Nobody else has the nonce when it is inserted, or his mark has expired. -/
theorem Inv.expired (inv : Inv x) (took : (x.phase j).Took n t)
    (does : x.server.Does c (.insert n t' true) y.server) : t < x.clock := by
  rcases took with ⟨d, pending⟩ | committed
  · exact (inv.pending pending).resolve_right fun has => Server.Does.not_inserts has does
  · exact (inv.committed committed).resolve_right
      fun settled => Server.Does.not_inserts (c := c) (.inr settled) does

theorem Once.step (once : Once es x) (inv : Inv x) (effect : Effect x e y) :
    Once (es ++ [e]) y := by
  intro i j n t t' ne left right
  rcases effect.took left with left | ⟨c, rfl, does⟩
  · rcases effect.took right with right | ⟨c, rfl, does⟩
    · exact (once i j n t t' ne left right).imp Later.snoc Later.snoc
    · exact .inl ⟨c, x.clock, List.mem_append_right _ (List.mem_singleton_self _),
        inv.expired left does⟩
  · rcases effect.took right with right | ⟨d, same, -⟩
    · exact .inr ⟨c, x.clock, List.mem_append_right _ (List.mem_singleton_self _),
        inv.expired right does⟩
    · cases same
      exact absurd rfl ne

theorem Run.calm (run : Run (CalmStep bare) start es x) (new : start.Start bare) :
    Inv x ∧ Once es x := by
  refine run.history (I := fun es x => Inv x ∧ Once es x) ?_ ⟨new.inv, ?_⟩
  · intro es a e b both step
    have effect := step.1.effect
    exact ⟨both.1.step effect step.2, both.2.step both.1 effect⟩
  · intro i j n t t' _ took _
    rw [new.phase i] at took
    rcases took with ⟨c, pending⟩ | committed
    · cases pending
    · cases committed

/-! ## Where marks come from -/

/-- Some call inserted the nonce. -/
def Inserted (es : List Event) (n : Str) : Prop := ∃ i c now t, .did i c now (.insert n t true) ∈ es

/-- What is in the table or refused was inserted by a call. -/
structure Sourced (es : List Event) (x : System) : Prop where
  known : ∀ {n}, x.server.Known n → Inserted es n
  refused : ∀ {i n}, (x.phase i).Refused n → Inserted es n

theorem Inserted.snoc (inserted : Inserted es n) : Inserted (es ++ [e]) n := by
  obtain ⟨i, c, now, t, mem⟩ := inserted
  exact ⟨i, c, now, t, List.mem_append_left _ mem⟩

theorem Resets.known {s s' : Server Str ℚ} (resets : Resets s c s') (known : s'.Known n) :
    s.Known n := by
  rcases resets with rfl | does | does
  · exact known
  · exact (known.origin does).resolve_right nofun
  · exact (known.origin does).resolve_right nofun

theorem Sourced.step (sourced : Sourced es x) (effect : Effect x e y) :
    Sourced (es ++ [e]) y := by
  cases effect with
  | @asked i c a _ asks does clock same =>
      refine ⟨fun {n} known => ?_, fun {j n} refused => ?_⟩
      · rcases known.origin does with before | ⟨t, rfl⟩
        · exact (sourced.known before).snoc
        · exact ⟨i, c, x.clock, t, List.mem_append_right _ (List.mem_singleton_self _)⟩
      · obtain rfl | other := eq_or_ne j i
        · rcases asks.refused refused with before | ⟨t, rfl⟩
          · exact (sourced.refused before).snoc
          · exact (sourced.known does.known).snoc
        · rw [same j other] at refused
          exact (sourced.refused refused).snoc
  | reset _ _ resets _ keeps =>
      exact ⟨fun known => (sourced.known (resets.known known)).snoc,
        fun {j n} refused => (sourced.refused ((keeps j).refused refused)).snoc⟩
  | quiet server _ keeps =>
      exact ⟨fun {n} known => (sourced.known (server ▸ known)).snoc,
        fun {j n} refused => (sourced.refused ((keeps j).refused refused)).snoc⟩

theorem Run.sourced (run : Run (Step bare) start es x) (new : start.Start bare) :
    Sourced es x := by
  refine run.history (I := Sourced) (fun es a e b sourced step => sourced.step step.effect)
    ⟨fun known => ?_, fun {i n} refused => ?_⟩
  · obtain ⟨t, row | ⟨c, held⟩⟩ := known
    · rw [new.server] at row
      cases row
    · rw [new.server] at held
      cases held
  · rw [new.phase i] at refused
    cases refused

/-! ## Pools -/

/-- A connection of a pool is held by one call or is free. -/
structure Pooled (bare : Set ℕ) (x : System) : Prop where
  disjoint : Disjoint x.free bare
  one : ∀ {i j c}, c ∉ bare → (x.phase i).Holds c → (x.phase j).Holds c → i = j
  taken : ∀ {i c}, c ∉ bare → (x.phase i).Holds c → c ∉ x.free

theorem Asks.holds_of (asks : Asks now c p a p') (holds : p'.Holds d) : d = c := by
  cases asks with
  | @insert nonce ttlSeconds start inserted =>
      unfold afterInsert at holds
      split at holds <;> cases holds <;> rfl
  | _ => cases holds; rfl

theorem not_holds_afterPut {out : Except PyErr Answer} : ¬ (afterPut q c out).Holds d := by
  cases out with
  | ok answer => exact nofun
  | error e => exact nofun

/-- A call that holds less keeps the pools in order. -/
theorem Pooled.put (pooled : Pooled bare x) {server : Server Str ℚ} (free : Set ℕ)
    (holds : ∀ c, c ∉ bare → p.Holds c → (x.phase i).Holds c)
    (sub : ∀ c ∈ free, c ∈ x.free ∨ c ∉ bare ∧ (x.phase i).Holds c ∧ ¬ p.Holds c) :
    Pooled bare { x.put i p with server := server, free := free } := by
  have before {j c : ℕ} (pool : c ∉ bare) (held : ((x.put i p).phase j).Holds c) :
      (x.phase j).Holds c := by
    obtain rfl | other := eq_or_ne j i
    · rw [System.put_phase_self] at held
      exact holds c pool held
    · rwa [System.put_phase_of_ne other] at held
  refine ⟨Set.disjoint_left.mpr fun c mem => ?_, fun pool left right =>
    pooled.one pool (before pool left) (before pool right), fun {j c} pool held mem => ?_⟩
  · rcases sub c mem with mem | ⟨pool, -, -⟩
    · exact Set.disjoint_left.mp pooled.disjoint mem
    · exact pool
  · rcases sub c mem with mem | ⟨-, own, released⟩
    · exact pooled.taken pool (before pool held) mem
    · have same : j = i := pooled.one pool (before pool held) own
      subst same
      have held : ((x.put j p).phase j).Holds c := held
      rw [System.put_phase_self] at held
      exact released held

/-- A call that holds nothing of a pool afterwards. -/
theorem Pooled.drop (pooled : Pooled bare x) {server : Server Str ℚ}
    (none : ∀ c, c ∉ bare → ¬ p.Holds c) : Pooled bare { x.put i p with server := server } :=
  pooled.put x.free (fun c pool held => absurd held (none c pool)) fun _ mem => .inl mem

theorem Pooled.take (pooled : Pooled bare x) (mem : c ∈ x.free) :
    Pooled bare { x.put i (.holding q c) with free := x.free \ {c} } := by
  have before {j d : ℕ} (held : ((x.put i (.holding q c)).phase j).Holds d) :
      j = i ∧ d = c ∨ j ≠ i ∧ (x.phase j).Holds d := by
    obtain rfl | other := eq_or_ne j i
    · rw [System.put_phase_self] at held
      cases held
      exact .inl ⟨rfl, rfl⟩
    · rw [System.put_phase_of_ne other] at held
      exact .inr ⟨other, held⟩
  refine ⟨pooled.disjoint.mono_left Set.sdiff_subset, fun {j k d} pool left right => ?_,
    fun {j d} pool held free => ?_⟩
  · rcases before left with ⟨here, same⟩ | ⟨-, left⟩
    · rcases before right with ⟨there, -⟩ | ⟨-, right⟩
      · rw [here, there]
      · rw [same] at pool right
        exact absurd mem (pooled.taken pool right)
    · rcases before right with ⟨-, same⟩ | ⟨-, right⟩
      · rw [same] at pool left
        exact absurd mem (pooled.taken pool left)
      · exact pooled.one pool left right
  · rcases before held with ⟨-, rfl⟩ | ⟨-, held⟩
    · exact free.2 rfl
    · exact pooled.taken pool held free.1

/-- A call puts its connection back. -/
theorem Pooled.release (pooled : Pooled bare x) {out : Except PyErr Answer}
    {server : Server Str ℚ} {free : Set ℕ} (leaving : x.phase i = .leaving q c out)
    (pool : c ∉ bare) (sub : free ⊆ insert c x.free) (none : ∀ d, ¬ p.Holds d) :
    Pooled bare { x.put i p with server := server, free := free } := by
  refine pooled.put free (fun d _ held => absurd held (none d)) fun d mem => ?_
  rcases sub mem with rfl | mem
  · refine .inr ⟨pool, ?_, none d⟩
    rw [leaving]
    exact .leaving
  · exact .inl mem

theorem Pooled.step (pooled : Pooled bare x) (step : Step bare x e y) : Pooled bare y := by
  cases step with
  | call => exact pooled.drop nofun
  | getconn _ mem => exact pooled.take mem
  | @bare _ c _ _ mem =>
      refine pooled.drop fun d pool held => ?_
      cases held
      exact pool mem
  | getconnFails => exact pooled.drop nofun
  | @ask i c a phase server asks does =>
      refine pooled.put x.free (fun d _ held => ?_) fun _ mem => .inl mem
      rw [asks.holds_of held]
      exact asks.holds
  | put leaving pool _ sub => exact pooled.release leaving pool sub fun _ => not_holds_afterPut
  | putFails e leaving pool _ sub => exact pooled.release leaving pool sub nofun
  | leave => exact pooled.drop fun _ _ => not_holds_afterPut
  | rollback => exact pooled.drop nofun
  | giveUp => exact pooled.drop nofun
  | tick => exact ⟨pooled.disjoint, pooled.one, pooled.taken⟩

theorem System.Start.pooled (new : start.Start bare) : Pooled bare start := by
  refine ⟨new.free, fun {i j c} _ held _ => ?_, fun {i c} _ held => ?_⟩
  · rw [new.phase i] at held
    cases held
  · rw [new.phase i] at held
    cases held

/-- The rollback of a call that has put the connection back, while another call has inserted a nonce
on it and not committed. -/
def LateRollback (x : System) (e : Event) : Prop :=
  ∃ i j c n t q err, e = .rolledBack j c ∧ x.phase j = .unwinding q (some c) err ∧ j ≠ i ∧
    (x.phase i).Pending c n t ∧ (x.server.conn c).pending n = some (some t)

theorem Pooled.late (pooled : Pooled ∅ x) (step : Step ∅ x e y) (disturbs : Disturbs x e) :
    LateRollback x e := by
  obtain ⟨i, c, n, t, drops, other, pending, held⟩ := disturbs
  have alone {j : ℕ} (holds : (x.phase j).Holds c) : j = i :=
    pooled.one (Set.notMem_empty c) holds pending.holds
  cases step with
  | ask asks does =>
      cases drops with
      | did _ => exact absurd (congrArg some (alone asks.holds)) other
  | put leaving _ _ _ =>
      cases drops with
      | put => exact absurd (congrArg some (alone (leaving ▸ .leaving))) other
  | putFails e leaving _ _ _ =>
      cases drops with
      | put => exact absurd (congrArg some (alone (leaving ▸ .leaving))) other
  | @rollback j d q err server unwinding _ =>
      cases drops with
      | rolledBack =>
          exact ⟨i, j, c, n, t, q, err, rfl, unwinding, fun same => other (congrArg some same),
            pending, held⟩
  | call => cases drops
  | getconn => cases drops
  | bare => cases drops
  | getconnFails => cases drops
  | leave => cases drops
  | giveUp => cases drops
  | tick => cases drops

/-- On pools every run is calm in which no call fails. -/
theorem Run.calm_of_pools (run : Run (Step ∅) start es x) (new : start.Start ∅)
    (none : ∀ i c, .rolledBack i c ∉ es) : Run (CalmStep ∅) start es x := by
  rcases run.good_or_first Disturbs with calm | ⟨front, e, rest, w, w', rfl, reached, here, bad⟩
  · exact calm
  · have pooled := reached.invariant (I := Pooled ∅) (fun _ _ _ => Pooled.step) new.pooled
    obtain ⟨i, j, c, n, t, q, err, rfl, -⟩ := pooled.late here bad
    exact absurd (List.mem_append_right _ List.mem_cons_self) (none j c)

/-- An empty table and a pool of one connection. -/
def sampleSystem : System := ⟨0, .start fun _ => none, {0}, fun _ => .idle⟩

def sampleFailure : PyErr := ⟨.typeError, []⟩

theorem sampleSystem_start : sampleSystem.Start ∅ := ⟨rfl, Set.disjoint_empty _, fun _ => rfl⟩

/-- In every run in which no call drops what another one has inserted: of two calls that returned
`True` for a nonce one inserted it after the mark of the other had expired; until a mark expires the
nonce is found and not inserted again; and a nonce that is refused was inserted before. -/
theorem marked_once (run : Run (CalmStep bare) start es x) (new : start.Start bare) :
    (∀ i j q q' n t t', i ≠ j → x.phase i = .returned q (.marked true) → q.Marks n t →
      x.phase j = .returned q' (.marked true) → q'.Marks n t' →
      Later es j n t t' ∨ Later es i n t' t) ∧
    (∀ i q n t, x.phase i = .returned q (.marked true) → q.Marks n t → x.clock ≤ t →
      ∀ c server, (∀ found, x.server.Does c (.select n found) server → found = some t) ∧
        ∀ t', ¬ x.server.Does c (.insert n t' true) server) ∧
    ∀ i q n t, x.phase i = .returned q (.marked false) → q.Marks n t → Inserted es n := by
  obtain ⟨inv, once⟩ := Run.calm run new
  have sourced := Run.sourced (run.mono fun _ _ _ step => step.1) new
  refine ⟨fun i j q q' n t t' ne left marks right marks' => ?_,
    fun i q n t returned marks early c server => ?_, fun i q n t returned marks => ?_⟩
  · refine once i j n t t' ne (.inr ?_) (.inr ?_)
    · rw [left]
      exact .returned marks
    · rw [right]
      exact .returned marks'
  · have committed : (x.phase i).Committed n t := by
      rw [returned]
      exact .returned marks
    have settled := (inv.committed committed).resolve_left early.not_gt
    refine ⟨fun found does => ?_, fun t' does => ?_⟩
    · cases does with
      | select => exact settled.view c
    · exact Server.Does.not_inserts (c := c) (.inr settled) does
  · refine sourced.refused (i := i) ?_
    rw [returned]
    exact .returned marks

/-- One call marks a nonce, and the next one is refused. -/
theorem sample_marked_once : ∃ es x, Run (CalmStep ∅) sampleSystem es x ∧
    (∃ q, x.phase 1 = .returned q (.marked false)) ∧ Inserted es "b" ∧
    ∀ c server t, ¬ x.server.Does c (.insert "b" t true) server := by
  have run : ∃ es x, Run (Step ∅) sampleSystem es x ∧ (∀ i c, .rolledBack i c ∉ es) ∧
      x.phase 0 = .returned ⟨.markUsed "b" 300, 0⟩ (.marked true) ∧
      x.phase 1 = .returned ⟨.markUsed "b" 300, 0⟩ (.marked false) ∧ x.clock = 0 := by
    refine ⟨_, _, .snoc (.snoc (.snoc (.snoc (.snoc (.snoc (.snoc (.snoc (.snoc (.snoc .nil
      (.call (i := 0) (.markUsed "b" 300) rfl))
      (.getconn (i := 0) rfl (Set.mem_singleton 0)))
      (.ask (i := 0) .insert (.insert rfl (fun _ _ => rfl) rfl)))
      (.ask (i := 0) .commit (.commit rfl)))
      (.put (i := 0) rfl (Set.notMem_empty 0) (.inl rfl) subset_rfl))
      (.call (i := 1) (.markUsed "b" 300) rfl))
      (.getconn (i := 1) rfl (Set.mem_insert 0 _)))
      (.ask (i := 1) .insert (.conflict rfl (fun _ _ => ?free) rfl)))
      (.ask (i := 1) .commit (.commit rfl)))
      (.put (i := 1) rfl (Set.notMem_empty 0) (.inl rfl) subset_rfl), ?_, rfl, rfl, rfl⟩
    case free =>
      simp [Server.commit, Server.put, Server.change, System.put, Server.start, Conn.fresh,
        sampleSystem]
    · simp
  obtain ⟨es, x, run, none, first, second, clock⟩ := run
  have calm := Run.calm_of_pools run sampleSystem_start none
  have marks : Call.Marks ⟨.markUsed "b" 300, 0⟩ "b" (0 + 300) := ⟨300, rfl, rfl⟩
  obtain ⟨-, stays, sourced⟩ := marked_once calm sampleSystem_start
  have early : x.clock ≤ 0 + 300 := by
    rw [clock]
    norm_num
  exact ⟨es, x, calm, ⟨_, second⟩, sourced 1 _ "b" _ second marks,
    fun c server t => (stays 0 _ "b" _ first marks early c server).2 t⟩

/-- Two calls have returned `True` for a nonce, and neither mark has expired. -/
def Twice (x : System) : Prop :=
  ∃ i j q q' n t t', i ≠ j ∧ x.phase i = .returned q (.marked true) ∧ q.Marks n t ∧
    x.phase j = .returned q' (.marked true) ∧ q'.Marks n t' ∧ x.clock ≤ t ∧ x.clock ≤ t'

theorem Effect.clock_le (effect : Effect x e y) : x.clock ≤ y.clock := by
  cases effect with
  | asked _ _ clock _ => exact clock.le
  | reset _ _ _ clock _ => exact clock.le
  | quiet _ clock _ => exact clock

theorem Step.now_eq (step : Step bare x (.did i c now a) y) : now = x.clock := by
  cases step with
  | ask => rfl

/-- The statements of a run are in the past. -/
def Past (es : List Event) (x : System) : Prop :=
  ∀ i c now a, .did i c now a ∈ es → now ≤ x.clock

theorem Run.past (run : Run (Step bare) start es x) : Past es x := by
  refine run.history (I := Past) (fun es x e y past step i c now a mem => ?_) nofun
  have le := step.effect.clock_le
  rcases List.mem_append.mp mem with before | here
  · exact (past i c now a before).trans le
  · cases List.mem_singleton.mp here
    exact step.now_eq.le.trans le

theorem Past.not_later (past : Past es x) (early : x.clock ≤ t) : ¬ Later es i n t t' := by
  rintro ⟨c, now, mem, expired⟩
  exact absurd (early.trans_lt expired) (past i c now _ mem).not_gt

theorem twice_run : ∃ es x, Run (Step ∅) sampleSystem es x ∧ Twice x := by
  refine ⟨_, _, .snoc (.snoc (.snoc (.snoc (.snoc (.snoc (.snoc (.snoc (.snoc (.snoc (.snoc (.snoc
    (.snoc (.snoc (.snoc .nil
    (.call (i := 0) .cleanup rfl))
    (.getconn (i := 0) rfl (Set.mem_singleton 0)))
    (.ask (i := 0) (.failHolding sampleFailure) .refused))
    (.put (i := 0) rfl (Set.notMem_empty 0) (.inl rfl) subset_rfl))
    (.call (i := 1) (.markUsed "b" 300) rfl))
    (.getconn (i := 1) rfl (Set.mem_insert 0 _)))
    (.ask (i := 1) .insert (.insert rfl (fun _ _ => rfl) rfl)))
    (.rollback (i := 0) rfl (.inr (.inl (.rollback nofun)))))
    (.ask (i := 1) .commit (.commit rfl)))
    (.put (i := 1) rfl (Set.notMem_empty 0) (.inl rfl) subset_rfl))
    (.call (i := 2) (.markUsed "b" 300) rfl))
    (.getconn (i := 2) rfl (Set.mem_insert 0 _)))
    (.ask (i := 2) .insert (.insert rfl (fun _ _ => ?free) rfl)))
    (.ask (i := 2) .commit (.commit rfl)))
    (.put (i := 2) rfl (Set.notMem_empty 0) (.inl rfl) subset_rfl), ?twice⟩
  case free =>
    simp [Server.commit, Server.put, Server.change, System.put, Server.start, Conn.fresh,
      sampleSystem]
  case twice =>
    refine ⟨1, 2, _, _, _, _, _, by decide, rfl, ⟨300, rfl, rfl⟩, rfl, ⟨300, rfl, rfl⟩, ?_, ?_⟩
    · change (0 : ℚ) ≤ 0 + 300
      norm_num
    · change (0 : ℚ) ≤ 0 + 300
      norm_num

/-- On pools two calls return `True` for one nonce only after a rollback that comes too late, and
then they may. -/
theorem twice_late : (∀ start es x, start.Start ∅ → Run (Step ∅) start es x → Twice x →
      ∃ front e rest w w', es = front ++ e :: rest ∧ Run (Step ∅) start front w ∧ Step ∅ w e w' ∧
        LateRollback w e) ∧
    ∃ start es x, start.Start ∅ ∧ Run (Step ∅) start es x ∧ Twice x := by
  refine ⟨fun start es x new run twice => ?_, ?_⟩
  · rcases run.good_or_first Disturbs with calm | ⟨front, e, rest, w, w', split, reached, here, bad⟩
    · obtain ⟨i, j, q, q', n, t, t', ne, left, marks, right, marks', early, early'⟩ := twice
      have past := Run.past run
      have took : (x.phase i).Took n t := .inr (left ▸ .returned marks)
      have took' : (x.phase j).Took n t' := .inr (right ▸ .returned marks')
      rcases (Run.calm calm new).2 i j n t t' ne took took' with later | later
      · exact absurd later (past.not_later early)
      · exact absurd later (past.not_later early')
    · have pooled := reached.invariant (I := Pooled ∅) (fun _ _ _ => Pooled.step) new.pooled
      exact ⟨front, e, rest, w, w', split, reached, here, pooled.late here bad⟩
  · obtain ⟨es, x, run, twice⟩ := twice_run
    exact ⟨sampleSystem, es, x, sampleSystem_start, run, twice⟩

end PostgresNonceStore

end Uxsp
