import Mathlib

/-!
# A table behind connections

A server holds a table of rows, and each connection has at most one transaction open: `pending` is
what it has changed and not committed, where `some none` is a deleted row.  A statement sees the
committed rows and the changes of its own connection, and it waits as long as another connection has
changed a row that it wants to change.  An error of a statement may end the transaction, which then
ignores everything up to the next commit or rollback, or it may end the connection.

* `Does.tidy`: a row is changed by one connection at a time.
* `Has.step`: a row that was inserted stays, unless its own connection drops it or someone deletes
  it.
* `not_inserts`: such a row is not inserted twice.
-/

namespace Uxsp.Sql

variable {κ β : Type*}

inductive Status
  | live
  /-- A statement has failed, and the transaction waits to be ended. -/
  | aborted
  | closed
  deriving DecidableEq

structure Conn (κ β : Type*) where
  pending : κ → Option (Option β)
  status : Status

structure Server (κ β : Type*) where
  rows : κ → Option β
  conn : ℕ → Conn κ β

/-- What a connection asks for, with the answer it gets. -/
inductive Stmt (κ β : Type*)
  /-- `INSERT … ON CONFLICT DO NOTHING`. -/
  | insert (k : κ) (v : β) (inserted : Bool)
  /-- `DELETE … WHERE p`, and the rows that are gone. -/
  | delete (p : β → Prop) (ks : Finset κ)
  | select (k : κ) (found : Option β)
  /-- A statement about other tables. -/
  | other
  | fail
  | commit
  /-- The connection breaks after the server has committed and before it has said so. -/
  | lostCommit
  | rollback

def Conn.fresh (status : Status) : Conn κ β := ⟨fun _ => none, status⟩

namespace Server

variable (s : Server κ β) (c : ℕ)

def start (rows : κ → Option β) : Server κ β := ⟨rows, fun _ => .fresh .live⟩

/-- The row as the connection sees it. -/
def view (k : κ) : Option β := ((s.conn c).pending k).getD (s.rows k)

/-- No other connection has changed the row. -/
def Free (k : κ) : Prop := ∀ d ≠ c, (s.conn d).pending k = none

def put (x : Conn κ β) : Server κ β := { s with conn := Function.update s.conn c x }

def change (f : κ → Option (Option β)) : Server κ β := s.put c ⟨f, .live⟩

def commit (status : Status) : Server κ β := { s.put c (.fresh status) with rows := s.view c }

end Server

open Server

variable {s s' : Server κ β} {c d : ℕ} {a : Stmt κ β} {k : κ} {v w : β}

namespace Server

@[simp] theorem put_conn_self {x : Conn κ β} : (s.put c x).conn c = x := Function.update_self ..

theorem put_conn_of_ne {x : Conn κ β} (other : d ≠ c) : (s.put c x).conn d = s.conn d :=
  Function.update_of_ne other ..

@[simp] theorem put_rows {x : Conn κ β} : (s.put c x).rows = s.rows := rfl

@[simp] theorem change_pending_self {f : κ → Option (Option β)} :
    ((s.change c f).conn c).pending = f := by
  rw [change, put_conn_self]

theorem change_conn_of_ne {f : κ → Option (Option β)} (other : d ≠ c) :
    (s.change c f).conn d = s.conn d := put_conn_of_ne other

@[simp] theorem commit_conn_self {status : Status} : (s.commit c status).conn c = .fresh status :=
  put_conn_self

theorem commit_conn_of_ne {status : Status} (other : d ≠ c) :
    (s.commit c status).conn d = s.conn d := put_conn_of_ne other

/-- A row is changed by one connection at a time, and only by one that is live. -/
structure Tidy (s : Server κ β) : Prop where
  exclusive : ∀ {k c d}, (s.conn c).pending k ≠ none → (s.conn d).pending k ≠ none → c = d
  live : ∀ {k c}, (s.conn c).pending k ≠ none → (s.conn c).status = .live

theorem tidy_start (rows : κ → Option β) : (start rows).Tidy where
  exclusive changed := absurd rfl changed
  live changed := absurd rfl changed

/-- A connection may change the rows that no other has changed. -/
theorem Tidy.put (tidy : s.Tidy) {x : Conn κ β}
    (free : ∀ k, x.pending k ≠ none → x.status = .live ∧ s.Free c k) : (s.put c x).Tidy where
  exclusive {k a b} left right := by
    by_cases ha : a = c
    · subst ha
      by_cases hb : b = a
      · exact hb.symm
      · rw [put_conn_self] at left
        rw [put_conn_of_ne hb] at right
        exact absurd ((free k left).2 b hb) right
    · rw [put_conn_of_ne ha] at left
      by_cases hb : b = c
      · subst hb
        rw [put_conn_self] at right
        exact absurd ((free k right).2 a ha) left
      · rw [put_conn_of_ne hb] at right
        exact tidy.exclusive left right
  live {k a} changed := by
    by_cases ha : a = c
    · subst ha
      rw [put_conn_self] at changed ⊢
      exact (free k changed).1
    · rw [put_conn_of_ne ha] at changed ⊢
      exact tidy.live changed

theorem Tidy.free (tidy : s.Tidy) (changed : (s.conn c).pending k ≠ none) : s.Free c k := by
  intro d other
  by_contra also
  exact other (tidy.exclusive also changed)

theorem Tidy.dropped (tidy : s.Tidy) (status : Status) : (s.put c (.fresh status)).Tidy :=
  tidy.put fun _ changed => absurd rfl changed

end Server

/-! ## Rows that stay -/

/-- The row is committed, and no connection has changed it. -/
structure Server.Settled (s : Server κ β) (k : κ) (v : β) : Prop where
  row : s.rows k = some v
  unchanged : ∀ c, (s.conn c).pending k = none

/-- The connection has inserted the row, and the row is still there. -/
def Server.Has (s : Server κ β) (c : ℕ) (k : κ) (v : β) : Prop :=
  (s.conn c).pending k = some (some v) ∨ s.Settled k v

namespace Server

theorem Settled.view (settled : s.Settled k v) (c : ℕ) : s.view c k = some v := by
  rw [Server.view, settled.unchanged c, Option.getD_none, settled.row]

theorem Settled.put (settled : s.Settled k v) {x : Conn κ β} (same : x.pending k = none) :
    (s.put c x).Settled k v where
  row := settled.row
  unchanged d := by
    by_cases own : d = c
    · rw [own, put_conn_self, same]
    · rw [put_conn_of_ne own, settled.unchanged]

theorem Settled.commit (settled : s.Settled k v) (c : ℕ) (status : Status) :
    (s.commit c status).Settled k v :=
  ⟨settled.view c, (settled.put (x := .fresh status) rfl).unchanged⟩

theorem Tidy.commit (tidy : s.Tidy) (held : (s.conn c).pending k = some (some v))
    (status : Status) : (s.commit c status).Settled k v where
  row := congrArg (Option.getD · (s.rows k)) held
  unchanged d := by
    by_cases own : d = c
    · subst own
      rw [commit_conn_self]
      rfl
    · rw [commit_conn_of_ne own]
      have changed : (s.conn c).pending k ≠ none := by rw [held]; exact Option.some_ne_none _
      exact tidy.free changed d own

/-! ## Where rows come from -/

/-- The row is in the table or about to be. -/
def Known (s : Server κ β) (k : κ) : Prop := ∃ v, s.rows k = some v ∨
  ∃ c, (s.conn c).pending k = some (some v)

theorem known_of_view (seen : s.view c k = some v) : s.Known k := by
  cases changed : (s.conn c).pending k with
  | none =>
      rw [view, changed] at seen
      exact ⟨v, .inl seen⟩
  | some x =>
      rw [view, changed] at seen
      exact ⟨v, .inr ⟨c, changed.trans (congrArg some seen)⟩⟩

theorem known_of_put {x : Conn κ β} (known : (s.put c x).Known k)
    (same : ∀ v, x.pending k = some (some v) → s.Known k) : s.Known k := by
  obtain ⟨v, row | ⟨d, held⟩⟩ := known
  · exact ⟨v, .inl row⟩
  · by_cases own : d = c
    · rw [own, put_conn_self] at held
      exact same v held
    · rw [put_conn_of_ne own] at held
      exact ⟨v, .inr ⟨d, held⟩⟩

theorem known_of_commit {status : Status} (known : (s.commit c status).Known k) : s.Known k := by
  obtain ⟨v, row | ⟨d, held⟩⟩ := known
  · exact known_of_view row
  · by_cases own : d = c
    · rw [own, commit_conn_self] at held
      cases held
    · rw [commit_conn_of_ne own] at held
      exact ⟨v, .inr ⟨d, held⟩⟩

end Server

/-! ## Statements -/

/-- The statement deletes rows of this value. -/
def Stmt.Deletes (a : Stmt κ β) (v : β) : Prop := ∃ p ks, a = .delete p ks ∧ p v

/-- The statement may end the transaction without a commit. -/
def Stmt.Drops (a : Stmt κ β) : Prop := a = .fail ∨ a = .rollback ∨ a = .lostCommit

namespace Server

/-- What the connection `c` may do. -/
inductive Does [DecidableEq κ] (s : Server κ β) (c : ℕ) : Stmt κ β → Server κ β → Prop
  | insert {k : κ} {v : β} : (s.conn c).status = .live → s.Free c k → s.view c k = none →
      Does s c (.insert k v true)
        (s.change c (Function.update (s.conn c).pending k (some (some v))))
  | conflict {k : κ} {v w : β} : (s.conn c).status = .live → s.Free c k → s.view c k = some w →
      Does s c (.insert k v false) s
  | delete {p : β → Prop} {ks : Finset κ} : (s.conn c).status = .live →
      (∀ k ∈ ks, s.Free c k ∧ ∃ v, s.view c k = some v ∧ p v) →
      Does s c (.delete p ks)
        (s.change c fun k => if k ∈ ks then some none else (s.conn c).pending k)
  | select {k : κ} : (s.conn c).status = .live → Does s c (.select k (s.view c k)) s
  | other : (s.conn c).status = .live → Does s c .other s
  /-- The error is one of the client. -/
  | refused : Does s c .fail s
  | aborted : (s.conn c).status = .live → Does s c .fail (s.put c (.fresh .aborted))
  | broken : Does s c .fail (s.put c (.fresh .closed))
  | commit : (s.conn c).status = .live → Does s c .commit (s.commit c .live)
  /-- The server ends a failed transaction as if it had been rolled back. -/
  | commitAborted : (s.conn c).status = .aborted → Does s c .commit (s.put c (.fresh .live))
  | lostCommit : (s.conn c).status = .live → Does s c .lostCommit (s.commit c .closed)
  | rollback : (s.conn c).status ≠ .closed → Does s c .rollback (s.put c (.fresh .live))

variable [DecidableEq κ]

theorem Does.tidy (does : s.Does c a s') (tidy : s.Tidy) : s'.Tidy := by
  have kept (status : Status) : (s.commit c status).Tidy :=
    ⟨(tidy.dropped status).exclusive, (tidy.dropped status).live⟩
  cases does with
  | @insert k v _ free _ =>
      refine tidy.put fun k' changed => ⟨rfl, ?_⟩
      obtain rfl | other := eq_or_ne k' k
      · exact free
      · refine tidy.free fun none => changed ?_
        exact (Function.update_of_ne other ..).trans none
  | @delete p ks _ gone =>
      refine tidy.put fun k' changed => ⟨rfl, ?_⟩
      by_cases mem : k' ∈ ks
      · exact (gone k' mem).1
      · exact tidy.free fun none => changed ((if_neg mem).trans none)
  | conflict => exact tidy
  | select => exact tidy
  | other => exact tidy
  | refused => exact tidy
  | aborted => exact tidy.dropped _
  | broken => exact tidy.dropped _
  | commit => exact kept _
  | commitAborted => exact tidy.dropped _
  | lostCommit => exact kept _
  | rollback => exact tidy.dropped _

theorem Settled.step (does : s.Does c a s') (settled : s.Settled k v) (kept : ¬ a.Deletes v) :
    s'.Settled k v := by
  cases does with
  | @insert k' v' _ _ absent =>
      refine settled.put ?_
      obtain rfl | other := eq_or_ne k k'
      · rw [settled.view c] at absent
        cases absent
      · exact (Function.update_of_ne other ..).trans (settled.unchanged c)
  | @delete p ks _ gone =>
      refine settled.put ?_
      by_cases mem : k ∈ ks
      · obtain ⟨v', seen, hit⟩ := (gone k mem).2
        cases (settled.view c).symm.trans seen
        exact absurd ⟨p, ks, rfl, hit⟩ kept
      · exact (if_neg mem).trans (settled.unchanged c)
  | conflict => exact settled
  | select => exact settled
  | other => exact settled
  | refused => exact settled
  | aborted => exact settled.put rfl
  | broken => exact settled.put rfl
  | commit => exact settled.commit c _
  | commitAborted => exact settled.put rfl
  | lostCommit => exact settled.commit c _
  | rollback => exact settled.put rfl

/-- What another connection does leaves a changed row alone. -/
theorem Does.pending_of_ne (does : s.Does d a s') (other : c ≠ d) :
    (s'.conn c).pending = (s.conn c).pending := by
  cases does with
  | insert => rw [change_conn_of_ne other]
  | delete => rw [change_conn_of_ne other]
  | conflict => rfl
  | select => rfl
  | other => rfl
  | refused => rfl
  | aborted => rw [put_conn_of_ne other]
  | broken => rw [put_conn_of_ne other]
  | commit => rw [commit_conn_of_ne other]
  | commitAborted => rw [put_conn_of_ne other]
  | lostCommit => rw [commit_conn_of_ne other]
  | rollback => rw [put_conn_of_ne other]

theorem Tidy.held (tidy : s.Tidy) (does : s.Does c a s')
    (held : (s.conn c).pending k = some (some v)) (kept : ¬ a.Deletes v) (stays : ¬ a.Drops) :
    s'.Has c k v := by
  have seen : s.view c k = some v := congrArg (Option.getD · (s.rows k)) held
  have live : (s.conn c).status = .live :=
    tidy.live (k := k) (by rw [held]; exact Option.some_ne_none _)
  cases does with
  | @insert k' v' _ _ absent =>
      refine .inl ?_
      rw [change_pending_self]
      obtain rfl | other := eq_or_ne k k'
      · rw [seen] at absent
        cases absent
      · exact (Function.update_of_ne other ..).trans held
  | @delete p ks _ gone =>
      refine .inl ?_
      rw [change_pending_self]
      by_cases mem : k ∈ ks
      · obtain ⟨v', seen', hit⟩ := (gone k mem).2
        cases seen.symm.trans seen'
        exact absurd ⟨p, ks, rfl, hit⟩ kept
      · exact (if_neg mem).trans held
  | conflict => exact .inl held
  | select => exact .inl held
  | other => exact .inl held
  | refused => exact absurd (.inl rfl) stays
  | aborted => exact absurd (.inl rfl) stays
  | broken => exact absurd (.inl rfl) stays
  | commit => exact .inr (tidy.commit held _)
  | commitAborted aborted =>
      rw [live] at aborted
      cases aborted
  | lostCommit => exact absurd (.inr (.inr rfl)) stays
  | rollback => exact absurd (.inr (.inl rfl)) stays

/-- A row that was inserted stays. -/
theorem Has.step (has : s.Has c k v) (tidy : s.Tidy) (does : s.Does d a s')
    (kept : ¬ a.Deletes v)
    (stays : c = d → (s.conn c).pending k = some (some v) → ¬ a.Drops) : s'.Has c k v := by
  rcases has with held | settled
  · by_cases own : c = d
    · subst own
      exact tidy.held does held kept (stays rfl held)
    · exact .inl (by rw [does.pending_of_ne own, held])
  · exact .inr (settled.step does kept)

theorem Does.has (does : s.Does c (.insert k v true) s') : s'.Has c k v := by
  cases does with
  | insert =>
      refine .inl ?_
      rw [change_pending_self, Function.update_self]

/-- A row that is there is not inserted again, by whichever connection. -/
theorem Does.not_inserts (has : s.Has c k v) (does : s.Does d (.insert k w true) s') : False := by
  cases does with
  | insert live free absent =>
      rcases has with held | settled
      · by_cases own : c = d
        · subst own
          rw [view, held] at absent
          cases absent
        · rw [free c own] at held
          cases held
      · rw [settled.view d] at absent
        cases absent

/-- A connection that commits has its rows settled. -/
theorem Has.commit (has : s.Has c k v) (tidy : s.Tidy) (does : s.Does c .commit s') :
    s'.Settled k v := by
  rcases has with held | settled
  · cases does with
    | commit => exact tidy.commit held _
    | commitAborted aborted =>
        rw [tidy.live (k := k) (by rw [held]; exact Option.some_ne_none _)] at aborted
        cases aborted
  · refine settled.step does fun deletes => ?_
    obtain ⟨p, ks, same, -⟩ := deletes
    cases same

/-- Only an insertion brings a row about. -/
theorem Known.origin (known : s'.Known k) (does : s.Does c a s') :
    s.Known k ∨ ∃ v, a = .insert k v true := by
  have fresh {status : Status} (known : (s.put c (.fresh status)).Known k) : s.Known k :=
    known_of_put known fun v held => by cases held
  cases does with
  | @insert k' v' =>
      obtain rfl | other := eq_or_ne k k'
      · exact .inr ⟨v', rfl⟩
      · refine .inl (known_of_put known fun v held => ⟨v, .inr ⟨c, ?_⟩⟩)
        exact (Function.update_of_ne other ..).symm.trans held
  | @delete p ks _ gone =>
      refine .inl (known_of_put known fun v held => ⟨v, .inr ⟨c, ?_⟩⟩)
      by_cases mem : k ∈ ks
      · cases (if_pos mem).symm.trans held
      · exact (if_neg mem).symm.trans held
  | conflict => exact .inl known
  | select => exact .inl known
  | other => exact .inl known
  | refused => exact .inl known
  | aborted => exact .inl (fresh known)
  | broken => exact .inl (fresh known)
  | commit => exact .inl (known_of_commit known)
  | commitAborted => exact .inl (fresh known)
  | lostCommit => exact .inl (known_of_commit known)
  | rollback => exact .inl (fresh known)

theorem Does.known (does : s.Does c (.insert k v false) s') : s.Known k := by
  cases does with
  | conflict _ _ seen => exact known_of_view seen

end Server

end Uxsp.Sql
