import Uxsp.Python.Value

/-!
# What a call may raise

`Raises classes x`: where `x` raises, a handler of `classes` catches it.  The rules take a call
apart in the order in which it runs: what comes later is asked only where what came earlier
returned.
-/

namespace Uxsp

/-- `except classes` catches an exception of class `c`. -/
def ErrClass.among (c : ErrClass) (classes : List ErrClass) : Bool := classes.any c.isA

/-- A handler of the classes catches whatever the call raises. -/
def Raises {α : Type} (classes : List ErrClass) (x : Except PyErr α) : Prop :=
  ∀ e, x = .error e → e.cls.among classes = true

variable {α β : Type} {classes listed : List ErrClass} {x : Except PyErr α} {e : PyErr}

theorem Raises.of_ok {a : α} (returned : x = .ok a) : Raises classes x := by
  intro e raised
  rw [returned] at raised
  cases raised

theorem Raises.of_exists (returned : ∃ a, x = .ok a) : Raises classes x := by
  obtain ⟨a, same⟩ := returned
  exact Raises.of_ok same

@[simp] theorem raises_ok (a : α) : Raises classes (.ok a : Except PyErr α) := Raises.of_ok rfl

@[simp] theorem raises_pure (a : α) : Raises classes (pure a : Except PyErr α) := Raises.of_ok rfl

@[simp] theorem raises_error :
    Raises classes (.error e : Except PyErr α) ↔ e.cls.among classes = true := by
  constructor
  · exact fun raises => raises e rfl
  · rintro declared e' raised
    cases raised
    exact declared

instance : Decidable (Raises classes x) :=
  match x with
  | .ok a => isTrue (raises_ok a)
  | .error _ => decidable_of_iff _ raises_error.symm

theorem raises_ensure {cond : Bool} :
    Raises classes (ensure cond e) ↔ (cond = false → e.cls.among classes = true) := by
  cases cond with
  | true => exact ⟨fun _ => nofun, fun _ => raises_ok ()⟩
  | false => exact raises_error.trans ⟨fun declared _ => declared, fun h => h rfl⟩

/-- What is run behind a call is asked for where the call returned. -/
theorem raises_bind {f : α → Except PyErr β} :
    Raises classes (x >>= f) ↔ Raises classes x ∧ ∀ a, x = .ok a → Raises classes (f a) := by
  cases x with
  | error e =>
      constructor
      · intro raises
        exact ⟨raises_error.mpr (raises e rfl), nofun⟩
      · intro h
        exact raises_error.mpr (h.1 e rfl)
  | ok a =>
      constructor
      · intro raises
        refine ⟨raises_ok a, ?_⟩
        rintro _ same
        cases same
        exact raises
      · exact fun h => h.2 a rfl

theorem catching_error {handler : PyErr → PyErr} :
    catching listed handler (.error e : Except PyErr α) =
      if e.cls.among listed then .error (handler e) else .error e := rfl

/-- A handler takes the classes it lists off a call, and raises in their place. -/
theorem raises_catching {handler : PyErr → PyErr} :
    Raises classes (catching listed handler x) ↔ Raises (listed ++ classes) x ∧
      ∀ e, x = .error e → e.cls.among listed = true → (handler e).cls.among classes = true := by
  cases x with
  | ok a => exact ⟨fun _ => ⟨raises_ok a, nofun⟩, fun _ => raises_ok a⟩
  | error e =>
      have either : e.cls.among (listed ++ classes) = true ↔
          e.cls.among listed = true ∨ e.cls.among classes = true := by
        simp only [ErrClass.among, List.any_append, Bool.or_eq_true]
      rw [raises_error, either, catching_error]
      split
      · rename_i caught
        rw [raises_error]
        refine ⟨fun declared => ⟨Or.inl caught, fun _ same _ => ?_⟩, fun h => h.2 e rfl caught⟩
        cases same
        exact declared
      · rename_i missed
        rw [raises_error]
        refine ⟨fun declared => ⟨Or.inr declared, fun _ same caught => ?_⟩,
          fun h => h.1.resolve_left missed⟩
        cases same
        exact absurd caught missed

/-- A handler that raises a declared class. -/
theorem raises_catching_of {handler : PyErr → PyErr}
    (declared : ∀ e, (handler e).cls.among classes = true) :
    Raises classes (catching listed handler x) ↔ Raises (listed ++ classes) x :=
  raises_catching.trans ⟨fun h => h.1, fun raises => ⟨raises, fun e _ _ => declared e⟩⟩

theorem Raises.mono {more : List ErrClass} (raises : Raises classes x)
    (subset : ∀ c ∈ classes, c ∈ more) : Raises more x := by
  intro e raised
  obtain ⟨c, mem, isA⟩ := List.any_eq_true.mp (raises e raised)
  exact List.any_eq_true.mpr ⟨c, subset c mem, isA⟩

/-- `[f(x) for x in xs]` stops at the first call that raises. -/
theorem raises_mapM {f : α → Except PyErr β} {xs : List α} : Raises classes (xs.mapM f) ↔
    ∀ before x after, xs = before ++ x :: after →
      (∀ y ∈ before, ∃ b, f y = .ok b) → Raises classes (f x) := by
  induction xs with
  | nil =>
      refine ⟨fun _ before x after same => ?_, fun _ => raises_ok []⟩
      cases (List.append_eq_nil_iff.mp same.symm).2
  | cons head tail ih =>
      have collected : ∀ b, Raises classes (do return b :: (← tail.mapM f)) ↔
          Raises classes (tail.mapM f) := by
        intro b
        rw [raises_bind, and_iff_left fun bs _ => raises_pure _]
      rw [List.mapM_cons, raises_bind]
      simp only [collected, ih]
      constructor
      · rintro ⟨here, later⟩ before x after same returned
        cases before with
        | nil =>
            cases same
            exact here
        | cons y before =>
            cases same
            obtain ⟨first, others⟩ := List.forall_mem_cons.mp returned
            obtain ⟨b, first⟩ := first
            exact later b first before x after rfl others
      · intro each
        refine ⟨each [] head tail rfl nofun, fun b first before x after same others => ?_⟩
        refine each (head :: before) x after (congrArg (head :: ·) same) ?_
        exact List.forall_mem_cons.mpr ⟨⟨b, first⟩, others⟩

/-- `for x in xs: f(x)` raises what a call raises. -/
theorem Raises.forM {f : α → Except PyErr Unit} {xs : List α}
    (each : ∀ x ∈ xs, Raises classes (f x)) : Raises classes (xs.forM f) := by
  induction xs with
  | nil => exact raises_ok ()
  | cons x xs ih =>
      obtain ⟨here, rest⟩ := List.forall_mem_cons.mp each
      exact raises_bind.mpr ⟨here, fun _ _ => ih rest⟩

/-! ## Lookups, conversions and messages -/

theorem Dict.raises_item_of_has {d : Dict} {key : Str} (present : d.has key = true) :
    Raises classes (d.item key) := by
  obtain ⟨v, found⟩ := Option.isSome_iff_exists.mp present
  exact Raises.of_ok (Dict.item_eq_ok.mpr found)

/-- `s.encode()` where no handler takes its exception. -/
theorem Str.raises_utf8 {s : Str}
    (hidden : ErrClass.unicodeEncodeError.among classes = false) :
    Raises classes s.utf8 ↔ ∃ b, s.encode = some b := by
  unfold Str.utf8
  split
  · rename_i b encoded
    exact ⟨fun _ => ⟨b, encoded⟩, fun _ => raises_ok b⟩
  · rename_i refused
    rw [raises_error, hidden, refused]
    exact ⟨nofun, nofun⟩

namespace Runtime

variable (R : Runtime)

/-- `int(v)` raises no more than `TypeError` and `ValueError`, but for an infinity. -/
theorem raises_int (v : Val) (some : ∀ c ∈ [ErrClass.typeError, .valueError], c ∈ classes) :
    Raises classes (R.int v) ↔
      (∀ negative, v = .float (.inf negative) → ErrClass.overflowError.among classes = true) := by
  have known : ∀ c ∈ [ErrClass.typeError, .valueError], c.among classes = true := by
    intro c mem
    refine List.any_eq_true.mpr ⟨c, some c mem, ?_⟩
    rw [ErrClass.isA, beq_self_eq_true, Bool.true_or]
  have type := known .typeError List.mem_cons_self
  have value := known .valueError (List.mem_cons_of_mem _ List.mem_cons_self)
  cases v with
  | float x =>
      cases x with
      | finite q => exact iff_of_true (raises_ok _) fun _ same => by cases same
      | inf negative =>
          refine raises_error.trans ⟨fun declared _ _ => declared, fun h => h negative rfl⟩
      | nan => exact iff_of_true (raises_error.mpr value) fun _ same => by cases same
  | str s =>
      refine iff_of_true ?_ fun _ same => by cases same
      rw [int]
      split
      · exact raises_ok _
      · exact raises_error.mpr value
  | bool b | int n => exact iff_of_true (raises_ok _) fun _ same => by cases same
  | none | list xs | dict items =>
      exact iff_of_true (raises_error.mpr type) fun _ same => by cases same

/-- `int(v)` under a handler of `TypeError` and `ValueError`: an infinity gets past it. -/
theorem raises_caught_int {v : Val} {invalid : PyErr}
    (both : ∀ c ∈ [ErrClass.typeError, .valueError], c ∈ listed)
    (hidden : ErrClass.overflowError.among (listed ++ classes) = false) :
    Raises classes (catching listed (fun _ => invalid) (R.int v)) ↔
      (∀ negative, v ≠ .float (.inf negative)) ∧
        ∀ e, R.int v = .error e → invalid.cls.among classes = true := by
  have more : ∀ c ∈ [ErrClass.typeError, .valueError], c ∈ listed ++ classes :=
    fun c mem => List.mem_append_left _ (both c mem)
  rw [raises_catching, R.raises_int v more, hidden]
  constructor
  · rintro ⟨finite, caught⟩
    have plain : ∀ negative, v ≠ .float (.inf negative) :=
      fun negative same => Bool.false_ne_true (finite negative same)
    refine ⟨plain, fun e raised => caught e raised ?_⟩
    exact (R.raises_int v both).mpr (fun negative same => absurd same (plain negative)) e raised
  · rintro ⟨plain, caught⟩
    exact ⟨fun negative same => absurd same (plain negative), fun e raised _ => caught e raised⟩

/-- An f-string can be built, or what building it raises is declared. -/
def Prints (classes : List ErrClass) (v : Val) : Prop := Raises classes (R.str v)

/-! What `raise C(f"...")` raises: its class, unless a piece of the text cannot be printed. -/

variable {R} {cls : ErrClass} {msg : Msg}

theorem cls_err_cons {part : MsgPart} (prints : R.unprintable part = none) :
    (R.err cls (part :: msg)).cls = (R.err cls msg).cls := by
  unfold err
  rw [List.findSome?_cons, prints]
  cases msg.findSome? R.unprintable <;> rfl

theorem among_err_nil :
    (R.err cls []).cls.among classes = true ↔ cls.among classes = true := Iff.rfl

theorem among_err_lit (s : String) : (R.err cls (.lit s :: msg)).cls.among classes = true ↔
    (R.err cls msg).cls.among classes = true := by
  rw [cls_err_cons rfl]

theorem among_err_str (s : Str) : (R.err cls (.str s :: msg)).cls.among classes = true ↔
    (R.err cls msg).cls.among classes = true := by
  rw [cls_err_cons rfl]

theorem among_err_rounded (x : ℚ) : (R.err cls (.rounded x :: msg)).cls.among classes = true ↔
    (R.err cls msg).cls.among classes = true := by
  rw [cls_err_cons rfl]

/-- A piece that shows a value. -/
theorem among_err_shown {part : MsgPart} {v : Val}
    (shows : R.unprintable part = R.unprintable (.val v)) :
    (R.err cls (part :: msg)).cls.among classes = true ↔ R.Prints classes v ∧
      ∀ s, R.str v = .ok s → (R.err cls msg).cls.among classes = true := by
  cases printed : R.str v with
  | ok s =>
      have prints : R.unprintable (.val v) = none := by
        rw [unprintable, printed]
      rw [cls_err_cons (shows.trans prints), Prints, printed]
      exact ⟨fun declared => ⟨raises_ok s, fun _ _ => declared⟩, fun h => h.2 s rfl⟩
  | error e =>
      have stuck : R.unprintable (.val v) = some e := by
        rw [unprintable, printed]
      rw [err, List.findSome?_cons, shows, stuck, Prints, printed, raises_error]
      exact ⟨fun declared => ⟨declared, nofun⟩, fun h => h.1⟩

theorem among_err_val (v : Val) : (R.err cls (.val v :: msg)).cls.among classes = true ↔
    R.Prints classes v ∧ ∀ s, R.str v = .ok s → (R.err cls msg).cls.among classes = true :=
  among_err_shown rfl

theorem among_err_repr (v : Val) : (R.err cls (.repr v :: msg)).cls.among classes = true ↔
    R.Prints classes v ∧ ∀ s, R.str v = .ok s → (R.err cls msg).cls.among classes = true :=
  among_err_shown rfl

theorem among_err_int (n : ℤ) : (R.err cls (.int n :: msg)).cls.among classes = true ↔
    R.Prints classes (.int n) ∧
      ∀ s, R.str (.int n) = .ok s → (R.err cls msg).cls.among classes = true := by
  refine among_err_shown ?_
  simp only [unprintable, str]
  by_cases printable : Str.printable n = true
  · simp only [printable, if_true]
  · simp only [printable, if_false, Bool.false_eq_true]

end Runtime

end Uxsp
