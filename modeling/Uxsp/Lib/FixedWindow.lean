import Mathlib

/-!
# Fixed windows

A window opens at the first request after the last one ran out, admits `cap` requests and runs for
`width`.  `state` is the window after requests at given times; `admitted` are the times it admitted.
`Bounds` is the invariant of a run, from which the bounds on windows and on intervals follow.
-/

namespace Uxsp.FixedWindow

/-- The requests admitted so far and the time of the first. -/
structure Window where
  count : ℕ
  start : ℚ
  deriving DecidableEq

variable (cap : ℕ) (width : ℚ)

/-- The window unless it has run out. -/
def running (w : Option Window) (t : ℚ) : Option Window := w.filter fun w => t - w.start < width

/-- How long a request has to wait; `none` if it is admitted. -/
def refused (w : Option Window) (t : ℚ) : Option ℚ :=
  match running width w t with
  | none => none
  | some w => if cap ≤ w.count then some (width - (t - w.start)) else none

/-- The window after a request. -/
def next (w : Option Window) (t : ℚ) : Option Window :=
  match running width w t with
  | none => some ⟨1, t⟩
  | some w => if cap ≤ w.count then some w else some ⟨w.count + 1, w.start⟩

/-- The window after requests at these times, oldest first. -/
def state (ts : List ℚ) : Option Window := ts.foldl (next cap width) none

/-- The answers to requests at these times, beginning with a window. -/
def answersFrom : Option Window → List ℚ → List (ℚ × Option ℚ)
  | _, [] => []
  | w, t :: ts => (t, refused cap width w t) :: answersFrom (next cap width w t) ts

def answers (ts : List ℚ) : List (ℚ × Option ℚ) := answersFrom cap width none ts

/-- The times of the requests that were admitted. -/
def admitted (ts : List ℚ) : List ℚ :=
  ((answers cap width ts).filter fun a => a.2.isNone).map Prod.fst

variable {cap width} {ts post : List ℚ} {t : ℚ} {p : ℚ → Bool} {o : Option Window} {w v : Window}

@[simp] theorem state_snoc : state cap width (ts ++ [t]) = next cap width (state cap width ts) t := by
  rw [state, List.foldl_append]
  rfl

theorem answersFrom_append : answersFrom cap width o (ts ++ post) =
    answersFrom cap width o ts ++ answersFrom cap width (ts.foldl (next cap width) o) post := by
  induction ts generalizing o with
  | nil => rfl
  | cons t ts ih =>
      rw [List.cons_append, answersFrom, ih, answersFrom, List.cons_append]
      rfl

@[simp] theorem answers_snoc : answers cap width (ts ++ [t]) =
    answers cap width ts ++ [(t, refused cap width (state cap width ts) t)] :=
  answersFrom_append

theorem admitted_snoc : admitted cap width (ts ++ [t]) = admitted cap width ts ++
    if (refused cap width (state cap width ts) t).isNone then [t] else [] := by
  rw [admitted, answers_snoc, List.filter_append, List.map_append, admitted]
  congr 1
  cases refused cap width (state cap width ts) t <;> rfl

theorem running_eq_some :
    running width o t = some w ↔ o = some w ∧ t - w.start < width := by
  rw [running, Option.filter_eq_some_iff, decide_eq_true_eq]

theorem running_eq_none :
    running width o t = none ↔ ∀ w, o = some w → w.start + width ≤ t := by
  rw [running, Option.filter_eq_none_iff]
  refine forall₂_congr fun w _ => ?_
  rw [decide_eq_true_eq, not_lt, le_sub_iff_add_le']

/-- What a request does: it opens a window, is admitted to the window that runs, or is refused. -/
theorem next_cases (cap : ℕ) (width : ℚ) (o : Option Window) (t : ℚ) :
    (∀ w, o = some w → w.start + width ≤ t) ∧ refused cap width o t = none ∧
        next cap width o t = some ⟨1, t⟩ ∨
      ∃ w, o = some w ∧ t < w.start + width ∧
        (w.count < cap ∧ refused cap width o t = none ∧
            next cap width o t = some ⟨w.count + 1, w.start⟩ ∨
          cap ≤ w.count ∧ refused cap width o t = some (w.start + width - t) ∧
            next cap width o t = some w) := by
  unfold refused next
  cases run : running width o t with
  | none => exact .inl ⟨running_eq_none.mp run, rfl, rfl⟩
  | some w =>
      obtain ⟨rfl, young⟩ := running_eq_some.mp run
      refine .inr ⟨w, rfl, sub_lt_iff_lt_add'.mp young, ?_⟩
      by_cases full : cap ≤ w.count
      · simp only [if_pos full]
        exact .inr ⟨full, by rw [sub_sub_eq_add_sub, add_comm], trivial⟩
      · simp only [if_neg full]
        exact .inl ⟨not_le.mp full, trivial, trivial⟩

theorem refused_eq_none : refused cap width o t = none ↔
    ∀ w, o = some w → t < w.start + width → w.count < cap := by
  obtain ⟨late, answer, -⟩ | ⟨w, rfl, young, ⟨room, answer, -⟩ | ⟨full, answer, -⟩⟩ :=
    next_cases cap width o t
  · exact iff_of_true answer fun w here young => absurd (late w here) (not_le.mpr young)
  · refine iff_of_true answer fun v same _ => ?_
    rwa [← Option.some.inj same]
  · rw [answer]
    exact iff_of_false nofun fun all => absurd (all w rfl young) (not_lt.mpr full)

/-- A refused request is told when the window ends. -/
theorem refused_retry {r : ℚ} (refusal : refused cap width o t = some r) :
    0 < r ∧ refused cap width (next cap width o t) (t + r) = none ∧
      ∀ u, u < t + r → refused cap width (next cap width o t) u ≠ none := by
  obtain ⟨-, answer, -⟩ | ⟨w, rfl, young, ⟨-, answer, -⟩ | ⟨full, answer, window⟩⟩ :=
    next_cases cap width o t
  · rw [answer] at refusal
    cases refusal
  · rw [answer] at refusal
    cases refusal
  · rw [answer] at refusal
    obtain rfl := Option.some.inj refusal
    rw [window, add_sub_cancel]
    refine ⟨sub_pos.mpr young, refused_eq_none.mpr fun v same early => ?_, fun u early answer => ?_⟩
    · obtain rfl := Option.some.inj same
      exact absurd early (lt_irrefl _)
    · exact absurd (refused_eq_none.mp answer w rfl early) (not_lt.mpr full)

/-! ## The bounds -/

/-- A set of times of which any two are less than `width` apart. -/
def Short (width : ℚ) (p : ℚ → Bool) : Prop := ∀ x y, p x → p y → y < x + width

theorem short_Ico (lo : ℚ) : Short width fun x => decide (lo ≤ x ∧ x < lo + width) := by
  intro x y hx hy
  rw [decide_eq_true_eq] at hx hy
  linarith

theorem short_Ioc (lo : ℚ) : Short width fun x => decide (lo < x ∧ x ≤ lo + width) := by
  intro x y hx hy
  rw [decide_eq_true_eq] at hx hy
  linarith

/-- What was admitted when the window `w` is the last. -/
structure Bounds (cap : ℕ) (width : ℚ) (hist : List ℚ) (w : Window) : Prop where
  full : w.count ≤ cap
  ends : ∀ x ∈ hist, x < w.start + width
  since : hist.countP (fun x => w.start ≤ x) = w.count
  before : hist.countP (fun x => w.start - width < x ∧ x < w.start) ≤ cap
  short : ∀ p, Short width p → hist.countP p ≤ 2 * cap

variable {hist : List ℚ}

theorem countP_snoc (p : ℚ → Bool) :
    (hist ++ [t]).countP p = hist.countP p + if p t then 1 else 0 := by
  rw [List.countP_append, List.countP_singleton]

theorem countP_le_add {q r : ℚ → Bool} (split : ∀ x ∈ hist, p x → q x ∨ r x) :
    hist.countP p ≤ hist.countP q + hist.countP r := by
  induction hist with
  | nil => exact Nat.zero_le _
  | cons x hist ih =>
      have rest := ih fun y mem => split y (List.mem_cons_of_mem x mem)
      have here := split x List.mem_cons_self
      rw [List.countP_cons, List.countP_cons, List.countP_cons]
      grind

/-- A short set around a time has nothing that is `width` older. -/
theorem countP_le_of_mem {q : ℚ → Bool} (short : Short width p) (mem : p t)
    (sub : ∀ x, t - width < x → q x) : hist.countP p ≤ hist.countP q := by
  refine List.countP_mono_left fun x _ hx => sub x ?_
  linarith [short x t hx mem]

namespace Bounds

variable (bounds : Bounds cap width hist w)

include bounds

/-- The window itself has admitted no more than the cap. -/
theorem countP_le : hist.countP (fun x => w.start ≤ x ∧ x < w.start + width) ≤ cap := by
  have inside : hist.countP (fun x => w.start ≤ x ∧ x < w.start + width) ≤
      hist.countP fun x => w.start ≤ x := by
    refine List.countP_mono_left fun x _ hx => ?_
    rw [decide_eq_true_eq] at hx ⊢
    exact hx.1
  exact inside.trans (bounds.since.trans_le bounds.full)

/-- The first request after a window opens another. -/
theorem opens (positive : 0 < cap) (wide : 0 < width) (late : w.start + width ≤ t) :
    Bounds cap width (hist ++ [t]) ⟨1, t⟩ where
  full := positive
  ends := by
    intro x mem
    obtain old | last := List.mem_append.mp mem
    · exact (bounds.ends x old).trans_le (late.trans (le_add_of_nonneg_right wide.le))
    · rw [List.mem_singleton.mp last]
      exact lt_add_of_pos_right t wide
  since := by
    have none : hist.countP (fun x => decide (t ≤ x)) = 0 := by
      refine List.countP_eq_zero.mpr fun x mem => ?_
      rw [decide_eq_true_eq, not_le]
      exact (bounds.ends x mem).trans_le late
    rw [countP_snoc, none, if_pos (decide_eq_true le_rfl)]
  before := by
    have inside : hist.countP (fun x => decide (t - width < x ∧ x < t)) ≤
        hist.countP fun x => decide (w.start ≤ x) := by
      refine List.countP_mono_left fun x _ hx => ?_
      rw [decide_eq_true_eq] at hx ⊢
      linarith
    rw [countP_snoc, if_neg (by simp)]
    exact inside.trans (bounds.since.trans_le bounds.full)
  short := by
    intro p short
    rw [countP_snoc]
    split
    · rename_i mem
      have inside : hist.countP p ≤ hist.countP fun x => decide (w.start ≤ x) := by
        refine countP_le_of_mem short mem fun x later => decide_eq_true ?_
        linarith
      have few := bounds.since.trans_le bounds.full
      omega
    · exact bounds.short p short

/-- A request inside the window is counted. -/
theorem admits (room : w.count < cap) (after : w.start ≤ t) (young : t < w.start + width) :
    Bounds cap width (hist ++ [t]) ⟨w.count + 1, w.start⟩ where
  full := room
  ends := by
    intro x mem
    obtain old | last := List.mem_append.mp mem
    · exact bounds.ends x old
    · rw [List.mem_singleton.mp last]
      exact young
  since := by rw [countP_snoc, if_pos (decide_eq_true after), bounds.since]
  before := by
    rw [countP_snoc, if_neg (by simpa using fun _ => after)]
    exact bounds.before
  short := by
    intro p short
    rw [countP_snoc]
    split
    · rename_i mem
      -- a short set around `t` begins in the window before, at the earliest
      have parts : hist.countP p ≤
          hist.countP (fun x => w.start - width < x ∧ x < w.start) +
            hist.countP fun x => w.start ≤ x := by
        refine countP_le_add fun x _ hx => ?_
        have later := short x t hx mem
        rw [decide_eq_true_eq, decide_eq_true_eq]
        obtain early | late := lt_or_ge x w.start
        · exact .inl ⟨by linarith, early⟩
        · exact .inr late
      have before := bounds.before
      have since := bounds.since
      omega
    · exact bounds.short p short

end Bounds

theorem bounds_first (positive : 0 < cap) (wide : 0 < width) : Bounds cap width [t] ⟨1, t⟩ where
  full := positive
  ends := by
    intro x mem
    rw [List.mem_singleton.mp mem]
    exact lt_add_of_pos_right t wide
  since := by simp
  before := by simp
  short := by
    intro p _
    have one : [t].countP p ≤ 1 := List.countP_le_length
    omega

/-- The window after requests, if there were any, bounds what they got. -/
theorem bounds_state (positive : 0 < cap) (wide : 0 < width) (ascending : ts.Pairwise (· ≤ ·)) :
    (state cap width ts = none → ts = []) ∧
      ∀ w, state cap width ts = some w → w.start ∈ ts ∧ Bounds cap width (admitted cap width ts) w := by
  induction ts using List.reverseRecOn with
  | nil => exact ⟨fun _ => rfl, nofun⟩
  | append_singleton ts t ih =>
      obtain ⟨ascending, -, greatest⟩ := List.pairwise_append.mp ascending
      obtain ⟨empty, ih⟩ := ih ascending
      rw [state_snoc, admitted_snoc]
      obtain ⟨late, answer, window⟩ | ⟨w, before, young, ⟨room, answer, window⟩ |
        ⟨full, answer, window⟩⟩ := next_cases cap width (state cap width ts) t
      · rw [answer, window]
        refine ⟨nofun, fun v same => ?_⟩
        obtain rfl := Option.some.inj same
        refine ⟨List.mem_append_right _ List.mem_cons_self, ?_⟩
        cases before : state cap width ts with
        | none =>
            rw [empty before]
            exact bounds_first positive wide
        | some w => exact (ih w before).2.opens positive wide (late w before)
      · rw [answer, window]
        refine ⟨nofun, fun v same => ?_⟩
        obtain rfl := Option.some.inj same
        obtain ⟨mem, bounds⟩ := ih w before
        exact ⟨List.mem_append_left _ mem,
          bounds.admits room (greatest w.start mem t List.mem_cons_self) young⟩
      · rw [answer, window]
        refine ⟨nofun, fun v same => ?_⟩
        obtain rfl := Option.some.inj same
        obtain ⟨mem, bounds⟩ := ih w before
        refine ⟨List.mem_append_left _ mem, ?_⟩
        rw [if_neg (by simp), List.append_nil]
        exact bounds

/-- At most twice the cap is admitted in a short set of times. -/
theorem countP_short_le (positive : 0 < cap) (wide : 0 < width) (ascending : ts.Pairwise (· ≤ ·))
    (short : Short width p) : (admitted cap width ts).countP p ≤ 2 * cap := by
  obtain ⟨empty, bounds⟩ := bounds_state positive wide ascending
  cases window : state cap width ts with
  | none =>
      rw [empty window]
      exact Nat.zero_le _
  | some w => exact (bounds w window).2.short p short

/-- A window admits no more than the cap in a whole run: it is still the last, or another began
after its end. -/
theorem countP_window_le (positive : 0 < cap) (wide : 0 < width)
    (ascending : (ts ++ post).Pairwise (· ≤ ·)) (window : state cap width ts = some w) :
    (admitted cap width (ts ++ post)).countP (fun x => w.start ≤ x ∧ x < w.start + width) ≤ cap := by
  suffices h : (admitted cap width (ts ++ post)).countP
      (fun x => w.start ≤ x ∧ x < w.start + width) ≤ cap ∧
        ∃ v, state cap width (ts ++ post) = some v ∧
          (v.start = w.start ∨ w.start + width ≤ v.start) from h.1
  induction post using List.reverseRecOn with
  | nil =>
      rw [List.append_nil] at ascending ⊢
      exact ⟨((bounds_state positive wide ascending).2 w window).2.countP_le, w, window, .inl rfl⟩
  | append_singleton post t ih =>
      rw [← List.append_assoc] at ascending ⊢
      obtain ⟨before, -, greatest⟩ := List.pairwise_append.mp ascending
      obtain ⟨few, v, last, place⟩ := ih before
      have ⟨u, after, start⟩ : ∃ u, state cap width (ts ++ post ++ [t]) = some u ∧
          (u.start = v.start ∨ u.start = t ∧ v.start + width ≤ t) := by
        rw [state_snoc]
        obtain ⟨late, -, window⟩ | ⟨u, here, -, ⟨-, -, window⟩ | ⟨-, -, window⟩⟩ :=
          next_cases cap width (state cap width (ts ++ post)) t
        · exact ⟨_, window, .inr ⟨rfl, late v last⟩⟩
        · exact ⟨_, window, .inl (by rw [Option.some.inj (here.symm.trans last)])⟩
        · exact ⟨_, window, .inl (by rw [Option.some.inj (here.symm.trans last)])⟩
      have place : u.start = w.start ∨ w.start + width ≤ u.start := by
        rcases start with same | ⟨same, late⟩ <;> rcases place with here | later <;> rw [same]
        · exact .inl here
        · exact .inr later
        · exact .inr (here ▸ late)
        · exact .inr (by linarith)
      obtain ⟨mem, bounds⟩ := (bounds_state positive wide ascending).2 u after
      refine ⟨?_, u, after, place⟩
      obtain here | later := place
      · rw [← here]
        exact bounds.countP_le
      · have le : u.start ≤ t := by
          obtain old | new := List.mem_append.mp mem
          · exact greatest u.start old t List.mem_cons_self
          · exact (List.mem_singleton.mp new).le
        rw [admitted_snoc]
        split
        · rw [countP_snoc, if_neg (by simpa using fun _ => later.trans le)]
          exact few
        · rw [List.append_nil]
          exact few

end Uxsp.FixedWindow
