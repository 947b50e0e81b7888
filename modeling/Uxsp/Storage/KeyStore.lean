import Uxsp.Core.Signing
import Uxsp.Lib.Assoc

/-!
# `uxsp.storage.keystore`

What is common to the key stores: cards of both kinds, and `MemoryKeyStore`, which is a dict.
-/

namespace Uxsp

inductive CardType
  | publicCard (card : CardRecord)
  | signedCard (card : SignedCard)

/-- `_entity_id`. -/
def CardType.entityId : CardType → Str
  | .publicCard card => card.entityId
  | .signedCard card => card.card.entityId

/-- What `put` raises when it may not overwrite. -/
def duplicateCard (entityId : Str) : PyErr :=
  ⟨.duplicateCardError, ["Card for '", .valTake 8 (.str entityId),
    "...' already exists and overwrite=False."]⟩

/-- The dict behind a `MemoryKeyStore`. -/
abbrev Cards : Type := List (Str × CardType)

namespace MemoryKeyStore

def put (store : Cards) (card : CardType) (overwrite : Bool) : Except PyErr Unit × Cards :=
  if !overwrite && (store.lookup card.entityId).isSome then
    (.error (duplicateCard card.entityId), store)
  else (.ok (), Assoc.set store card.entityId card)

def get (store : Cards) (entityId : Str) : Option CardType := store.lookup entityId

def delete (store : Cards) (entityId : Str) : Bool × Cards :=
  if (store.lookup entityId).isSome then (true, Assoc.erase store entityId) else (false, store)

def listIds (store : Cards) : List Str := store.map Prod.fst

variable {store store' : Cards} {card : CardType} {overwrite : Bool} {e : PyErr} {id id' : Str}

theorem put_eq_ok (stored : put store card overwrite = (.ok (), store')) :
    store' = Assoc.set store card.entityId card := by
  unfold put at stored
  split at stored
  · cases stored
  · exact (congrArg Prod.snd stored).symm

/-- A refused card changes nothing. -/
theorem put_eq_error (refused : put store card overwrite = (.error e, store')) :
    e = duplicateCard card.entityId ∧ store' = store := by
  unfold put at refused
  split at refused
  · cases refused
    exact ⟨rfl, rfl⟩
  · cases refused

@[simp] theorem put_overwrite : (put store card true).2 = Assoc.set store card.entityId card := rfl

@[simp] theorem lookup_delete :
    (delete store id).2.lookup id' = if id' == id then none else store.lookup id' := by
  unfold delete
  split
  · exact Assoc.lookup_erase store id id'
  · rename_i absent
    have none : store.lookup id = none := Option.not_isSome_iff_eq_none.mp absent
    by_cases same : id' = id
    · subst same
      simp [none]
    · simp [same]

end MemoryKeyStore

/-- A card to run the stores with, under a name. -/
def namedCard (name : String) : CardType := .publicCard {
  entityId := "B"
  publicKeys := ⟨[1], [2], [3], [4]⟩
  isRevoked := false
  revocationReason := none
  validUntil := none
  name := name
  role := "MEMBER"
  createdAt := "2026"
  revokedAt := none
  keyVersion := 1 }

def sampleCard : CardType := namedCard "Bob"

end Uxsp
