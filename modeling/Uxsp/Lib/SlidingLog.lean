import Mathlib

/-!
# Logs of a sliding window

A log keeps the times of what was admitted, oldest first, and forgets from the front what is older
than the window.  `Records` is the invariant that ties the log to the whole history: from the clock
on, both have the same times inside the window.
-/

namespace Uxsp.SlidingLog

variable {width clock now t lo hi first : ℚ} {cap : ℕ} {ts hist rest : List ℚ}

/-- How many of the times are in `(lo, hi]`. -/
def within (lo hi : ℚ) (ts : List ℚ) : ℕ := ts.countP fun x => lo < x ∧ x ≤ hi

/-- The times later than `t - width`. -/
def recent (width t : ℚ) (ts : List ℚ) : List ℚ := ts.filter fun x => t - width < x

/-- `while ts and ts[0] <= t - width: ts.popleft()`. -/
def prune (width t : ℚ) (ts : List ℚ) : List ℚ := ts.dropWhile fun x => x ≤ t - width

theorem prune_eq_recent (ascending : ts.Pairwise (· ≤ ·)) : prune width t ts = recent width t ts := by
  unfold prune recent
  induction ts with
  | nil => rfl
  | cons x ts ih =>
      obtain ⟨least, ascending⟩ := List.pairwise_cons.mp ascending
      by_cases old : x ≤ t - width
      · rw [List.dropWhile_cons_of_pos (by simpa using old),
          List.filter_cons_of_neg (by simpa using old), ih ascending]
      · have young : ∀ y ∈ x :: ts, decide (t - width < y) = true := by
          intro y mem
          refine decide_eq_true ((not_le.mp old).trans_le ?_)
          obtain rfl | later := List.mem_cons.mp mem
          · exact le_rfl
          · exact least y later
        rw [List.dropWhile_cons_of_neg (by simpa using old), List.filter_eq_self.mpr young]

theorem prune_prune : prune width t (prune width t ts) = prune width t ts :=
  List.dropWhile_idempotent ..

/-- What a pruned log begins with is inside the window. -/
theorem lt_of_prune_eq (log : prune width t ts = first :: rest) : t - width < first := by
  have stop := List.head?_dropWhile_not (fun x => decide (x ≤ t - width)) ts
  rw [← prune, log] at stop
  simpa using stop

/-- Counting from the newest back to the first old one. -/
theorem length_takeWhile_reverse (ascending : ts.Pairwise (· ≤ ·)) :
    (ts.reverse.takeWhile fun x => t - width < x).length = (recent width t ts).length := by
  unfold recent
  induction ts using List.reverseRecOn with
  | nil => rfl
  | append_singleton ts x ih =>
      obtain ⟨ascending, -, greatest⟩ := List.pairwise_append.mp ascending
      rw [List.reverse_append, List.reverse_singleton, List.singleton_append, List.filter_append,
        List.length_append]
      by_cases young : t - width < x
      · rw [List.takeWhile_cons_of_pos (by simpa using young), List.length_cons, ih ascending,
          List.filter_cons_of_pos (by simpa using young)]
        rfl
      · have old : ∀ y ∈ ts, ¬ decide (t - width < y) = true := by
          intro y mem
          have le : y ≤ x := greatest y mem x List.mem_cons_self
          simpa using le.trans (not_lt.mp young)
        rw [List.takeWhile_cons_of_neg (by simpa using young), List.filter_eq_nil_iff.mpr old,
          List.filter_cons_of_neg (by simpa using young)]
        rfl

/-- The log says about the history what the window asks from `clock` on. -/
structure Records (width : ℚ) (cap : ℕ) (hist ts : List ℚ) (clock : ℚ) : Prop where
  ascending : ts.Pairwise (· ≤ ·)
  past : ∀ x ∈ ts, x ≤ clock
  short : ts.length ≤ cap
  faithful : ∀ t, clock ≤ t → recent width t ts = recent width t hist

theorem records_nil : Records width cap [] [] clock :=
  ⟨.nil, nofun, Nat.zero_le _, fun _ _ => rfl⟩

namespace Records

variable (records : Records width cap hist ts clock)

include records

theorem later (le : clock ≤ now) : Records width cap hist ts now :=
  ⟨records.ascending, fun x mem => (records.past x mem).trans le, records.short,
    fun t later => records.faithful t (le.trans later)⟩

/-- What is recent later is recent now. -/
theorem prune (le : clock ≤ now) : Records width cap hist (prune width now ts) now := by
  have shorter := List.dropWhile_sublist (l := ts) fun x => decide (x ≤ now - width)
  refine ⟨records.ascending.sublist shorter, fun x mem => ?_, shorter.length_le.trans records.short,
    fun t later => ?_⟩
  · exact (records.past x (shorter.subset mem)).trans le
  · rw [prune_eq_recent records.ascending, ← records.faithful t (le.trans later), recent, recent,
      recent, List.filter_filter]
    refine List.filter_congr fun x _ => ?_
    rw [← Bool.decide_and, decide_eq_decide]
    exact ⟨And.left, fun young => ⟨young, (sub_le_sub_right later width).trans_lt young⟩⟩

theorem snoc (le : clock ≤ now) (few : (SlidingLog.prune width now ts).length < cap) :
    Records width cap (hist ++ [now]) (SlidingLog.prune width now ts ++ [now]) now := by
  have pruned := records.prune le
  refine ⟨?_, ?_, ?_, fun t later => ?_⟩
  · refine List.pairwise_append.mpr ⟨pruned.ascending, List.pairwise_singleton _ _, ?_⟩
    intro x mem y last
    rw [List.mem_singleton.mp last]
    exact pruned.past x mem
  · intro x mem
    obtain old | last := List.mem_append.mp mem
    · exact pruned.past x old
    · exact (List.mem_singleton.mp last).le
  · rw [List.length_append, List.length_singleton]
    omega
  · have before := pruned.faithful t later
    unfold recent at before ⊢
    rw [List.filter_append, List.filter_append, before]

/-- Once the window has passed, an empty log will do. -/
theorem expired (passed : clock + width ≤ t) (le : clock ≤ t) : Records width cap hist [] t := by
  refine ⟨.nil, nofun, Nat.zero_le _, fun u later => ?_⟩
  rw [← records.faithful u (le.trans later), eq_comm]
  refine List.filter_eq_nil_iff.mpr fun x mem => ?_
  have past := records.past x mem
  rw [decide_eq_true_eq, not_lt]
  linarith

/-- The pruned log is what the window holds of the history. -/
theorem within_eq (le : clock ≤ now) :
    within (now - width) now hist = (SlidingLog.prune width now ts).length := by
  have same := records.faithful now le
  rw [prune_eq_recent records.ascending, same, within, recent, List.countP_eq_length_filter]
  congr 1
  refine List.filter_congr fun x _ => ?_
  rw [decide_eq_decide]
  refine ⟨And.left, fun young => ⟨young, ?_⟩⟩
  have mem : x ∈ recent width now ts := by
    rw [same]
    exact List.mem_filter.mpr ⟨‹x ∈ hist›, decide_eq_true young⟩
  exact (records.past x (List.mem_filter.mp mem).1).trans le

theorem within_le (le : clock ≤ now) : within (now - width) now hist ≤ cap := by
  rw [records.within_eq le]
  exact (records.prune le).short

end Records

/-- A full log is full until its oldest time leaves the window. -/
theorem prune_of_lt (before : t < first + width) :
    prune width t (first :: rest) = first :: rest := by
  refine List.dropWhile_cons_of_neg ?_
  rw [decide_eq_true_eq]
  linarith

/-- At that time it has room. -/
theorem length_prune_lt : (prune width (first + width) (first :: rest)).length <
    (first :: rest).length := by
  have shorter := List.dropWhile_sublist (l := rest) fun x => decide (x ≤ first + width - width)
  rw [prune, List.dropWhile_cons_of_pos (by simp), List.length_cons]
  exact Nat.lt_succ_of_le shorter.length_le

end Uxsp.SlidingLog
