import Uxsp.Core.Nonce
import Uxsp.Lib.Run
import Uxsp.Lib.Transactions

/-!
# `uxsp.storage.noncestore`: the Postgres store

Every statement of a call is a step of its own, and the calls of any number of stores interleave on
one table, in the isolation level that the server has by default.  A store holds either a pool or
one connection, which then is in `bare` and is shared by all its calls.  Statements, commits and the
pool may fail at any step.

`_rollback_quietly` stands in the handler around `with self._conn()`.  By then the connection of a
pool has been put back: `rollback` comes after `put`, and another call may have taken the connection
in between.
-/

namespace Uxsp.PostgresNonceStore

/-- A method and its arguments. -/
inductive Op
  | createTable
  | markUsed (nonce : Str) (ttlSeconds : ℚ)
  | isSeen (nonce : Str)
  | cleanup

inductive Answer
  | created
  | marked (inserted : Bool)
  | seen (found : Bool)
  | removed (count : ℕ)

/-- A call, and the clock when it began. -/
structure Call where
  op : Op
  start : ℚ

/-- The exception of a handler that quotes another one. -/
def quoting (before : String) (e : PyErr) (after : Msg) : PyErr :=
  ⟨.storeError, .lit before :: (e.msg ++ after)⟩

/-- What the handlers of a call make of an exception. -/
def Op.wrap (op : Op) (e : PyErr) : PyErr :=
  match op with
  | .createTable => quoting "PostgresNonceStore: failed to create table: " e []
  | .markUsed _ _ => if e.cls.isA .storeError then e else
      quoting "PostgresNonceStore unavailable: " e [". Replay protection cannot be guaranteed."]
  | .isSeen _ => if e.cls.isA .storeError then e else
      quoting "PostgresNonceStore unavailable: " e ["."]
  | .cleanup => if e.cls.isA .storeError then e else
      quoting "PostgresNonceStore cleanup failed: " e ["."]

/-- Where a call stands. -/
inductive Phase
  | idle
  | entered (q : Call)
  | holding (q : Call) (c : ℕ)
  /-- The nonce is inserted, and the server is asked how many rows the table has. -/
  | sampling (q : Call) (c : ℕ)
  | answered (q : Call) (c : ℕ) (answer : Answer)
  /-- The body of `with self._conn()` has been left. -/
  | leaving (q : Call) (c : ℕ) (out : Except PyErr Answer)
  /-- The handler is entered. -/
  | unwinding (q : Call) (c : Option ℕ) (e : PyErr)
  | returned (q : Call) (answer : Answer)
  | raised (q : Call) (e : PyErr)

/-- `nonce.endswith("0")`. -/
def endsWithZero (nonce : Str) : Bool := nonce.getLast? == some (.ofChar '0')

def afterInsert (q : Call) (c : ℕ) (nonce : Str) (inserted : Bool) : Phase :=
  if inserted && endsWithZero nonce then .sampling q c else .answered q c (.marked inserted)

def afterPut (q : Call) (c : ℕ) : Except PyErr Answer → Phase
  | .ok answer => .returned q answer
  | .error e => .unwinding q (some c) e

/-- The body of `with self._conn()` at the time `now`: the statement that comes next on the
connection `c`, and where the call goes from there. -/
inductive Asks (now : ℚ) (c : ℕ) : Phase → Sql.Stmt Str ℚ → Phase → Prop
  | create {start : ℚ} : Asks now c (.holding ⟨.createTable, start⟩ c) .other
      (.answered ⟨.createTable, start⟩ c .created)
  | insert {nonce : Str} {ttlSeconds start : ℚ} {inserted : Bool} :
      Asks now c (.holding ⟨.markUsed nonce ttlSeconds, start⟩ c)
        (.insert nonce (start + ttlSeconds) inserted)
        (afterInsert ⟨.markUsed nonce ttlSeconds, start⟩ c nonce inserted)
  /-- At more than a million rows a warning is issued; where warnings are errors this is a
  failure. -/
  | sample {q : Call} : Asks now c (.sampling q c) .other (.answered q c (.marked true))
  /-- Nothing is committed after a `SELECT`. -/
  | select {nonce : Str} {start t : ℚ} {found : Option ℚ} : start ≤ t → t ≤ now →
      Asks now c (.holding ⟨.isSeen nonce, start⟩ c) (.select nonce found)
        (.leaving ⟨.isSeen nonce, start⟩ c (.ok (.seen (found.any (t < ·)))))
  | delete {start t : ℚ} {ks : Finset Str} : start ≤ t → t ≤ now →
      Asks now c (.holding ⟨.cleanup, start⟩ c) (.delete (· < t) ks)
        (.answered ⟨.cleanup, start⟩ c (.removed ks.card))
  | commit {q : Call} {answer : Answer} :
      Asks now c (.answered q c answer) .commit (.leaving q c (.ok answer))
  | lostCommit {q : Call} {answer : Answer} (e : PyErr) :
      Asks now c (.answered q c answer) .lostCommit (.leaving q c (.error e))
  | failHolding {q : Call} (e : PyErr) : Asks now c (.holding q c) .fail (.leaving q c (.error e))
  | failSampling {q : Call} (e : PyErr) : Asks now c (.sampling q c) .fail (.leaving q c (.error e))
  | failAnswered {q : Call} {answer : Answer} (e : PyErr) :
      Asks now c (.answered q c answer) .fail (.leaving q c (.error e))
  /-- The cursor cannot be closed. -/
  | failLeaving {q : Call} {answer : Answer} (e : PyErr) :
      Asks now c (.leaving q c (.ok answer)) .fail (.leaving q c (.error e))

/-- The table, the clock, the connections that the pools would hand out, and where each call
stands. -/
structure System where
  clock : ℚ
  server : Sql.Server Str ℚ
  free : Set ℕ
  phase : ℕ → Phase

/-- A step: a call moves on, or time goes by. -/
inductive Event
  | called (i : ℕ) (q : Call)
  | acquired (i c : ℕ)
  | refused (i : ℕ)
  | did (i c : ℕ) (now : ℚ) (a : Sql.Stmt Str ℚ)
  | put (i c : ℕ)
  | left (i : ℕ)
  | rolledBack (i c : ℕ)
  | gaveUp (i : ℕ)
  | tick

def System.put (x : System) (i : ℕ) (phase : Phase) : System :=
  { x with phase := Function.update x.phase i phase }

/-- The connection is rolled back, it breaks, or nothing happens to it. -/
def Resets (s : Sql.Server Str ℚ) (c : ℕ) (s' : Sql.Server Str ℚ) : Prop :=
  s' = s ∨ s.Does c .rollback s' ∨ s.Does c .fail s'

inductive Step (bare : Set ℕ) (x : System) : Event → System → Prop
  | call {i : ℕ} (op : Op) : x.phase i = .idle →
      Step bare x (.called i ⟨op, x.clock⟩) (x.put i (.entered ⟨op, x.clock⟩))
  | getconn {i c : ℕ} {q : Call} : x.phase i = .entered q → c ∈ x.free →
      Step bare x (.acquired i c) { x.put i (.holding q c) with free := x.free \ {c} }
  | bare {i c : ℕ} {q : Call} : x.phase i = .entered q → c ∈ bare →
      Step bare x (.acquired i c) (x.put i (.holding q c))
  | getconnFails {i : ℕ} {q : Call} (e : PyErr) : x.phase i = .entered q →
      Step bare x (.refused i) (x.put i (.unwinding q none e))
  | ask {i c : ℕ} {a : Sql.Stmt Str ℚ} {phase : Phase} {server : Sql.Server Str ℚ} :
      Asks x.clock c (x.phase i) a phase → x.server.Does c a server →
      Step bare x (.did i c x.clock a) { x.put i phase with server := server }
  /-- `putconn`. -/
  | put {i c : ℕ} {q : Call} {out : Except PyErr Answer} {server : Sql.Server Str ℚ}
      {free : Set ℕ} : x.phase i = .leaving q c out → c ∉ bare → Resets x.server c server →
      free ⊆ insert c x.free →
      Step bare x (.put i c) { x.put i (afterPut q c out) with server := server, free := free }
  | putFails {i c : ℕ} {q : Call} {out : Except PyErr Answer} {server : Sql.Server Str ℚ}
      {free : Set ℕ} (e : PyErr) : x.phase i = .leaving q c out → c ∉ bare →
      Resets x.server c server → free ⊆ insert c x.free →
      Step bare x (.put i c)
        { x.put i (.unwinding q (some c) e) with server := server, free := free }
  | leave {i c : ℕ} {q : Call} {out : Except PyErr Answer} : x.phase i = .leaving q c out →
      c ∈ bare → Step bare x (.left i) (x.put i (afterPut q c out))
  /-- `_rollback_quietly`. -/
  | rollback {i c : ℕ} {q : Call} {e : PyErr} {server : Sql.Server Str ℚ} :
      x.phase i = .unwinding q (some c) e → Resets x.server c server →
      Step bare x (.rolledBack i c) { x.put i (.raised q (q.op.wrap e)) with server := server }
  | giveUp {i : ℕ} {q : Call} {e : PyErr} : x.phase i = .unwinding q none e →
      Step bare x (.gaveUp i) (x.put i (.raised q (q.op.wrap e)))
  | tick {now : ℚ} : x.clock ≤ now → Step bare x .tick { x with clock := now }

/-- The table is empty, and no call has begun. -/
structure System.Start (bare : Set ℕ) (x : System) : Prop where
  server : x.server = .start fun _ => none
  free : Disjoint x.free bare
  phase : ∀ i, x.phase i = .idle

end Uxsp.PostgresNonceStore
