import Uxsp.Lib.Assoc

/-!
# Tables

A dict whose keys are different by construction.  `sweep` updates every value and drops those that
the update empties.
-/

namespace Uxsp

structure Table (κ ν : Type*) where
  items : List (κ × ν)
  nodup : (items.map Prod.fst).Nodup

namespace Table

variable {κ ν : Type*} [BEq κ]

def empty : Table κ ν := ⟨[], List.nodup_nil⟩

def size (t : Table κ ν) : ℕ := t.items.length

/-- `t.get(k)`. -/
def get? (t : Table κ ν) (k : κ) : Option ν := t.items.lookup k

@[simp] theorem get?_empty (k : κ) : (empty : Table κ ν).get? k = none := rfl

/-- `t.pop(k, None)`. -/
def erase (t : Table κ ν) (k : κ) : Table κ ν := ⟨Assoc.erase t.items k, Assoc.nodup_erase _ k t.nodup⟩

variable (f : ν → Option ν)

/-- The entries after every value went through `f`. -/
def swept (items : List (κ × ν)) : List (κ × ν) :=
  items.filterMap fun item => (f item.2).map (Prod.mk item.1)

omit [BEq κ] in
theorem swept_cons (item : κ × ν) (items : List (κ × ν)) :
    swept f (item :: items) = match f item.2 with
      | none => swept f items
      | some v => (item.1, v) :: swept f items := by
  rw [swept, List.filterMap_cons]
  cases f item.2 <;> rfl

omit [BEq κ] in
theorem map_fst_swept (items : List (κ × ν)) :
    ((swept f items).map Prod.fst).Sublist (items.map Prod.fst) := by
  induction items with
  | nil => exact .slnil
  | cons item items ih =>
      rw [swept_cons]
      cases f item.2 with
      | none => exact ih.cons _
      | some v => exact ih.cons_cons _

def sweep (t : Table κ ν) : Table κ ν :=
  ⟨swept f t.items, t.nodup.sublist (map_fst_swept f t.items)⟩

omit [BEq κ] in
theorem size_sweep_le (t : Table κ ν) : (t.sweep f).size ≤ t.size :=
  List.length_filterMap_le _ _

variable [LawfulBEq κ] {t : Table κ ν} {k k' : κ} {v : ν}

/-- `t[k] = v`. -/
def set (t : Table κ ν) (k : κ) (v : ν) : Table κ ν :=
  ⟨Assoc.set t.items k v, Assoc.nodup_set t.items k v t.nodup⟩

@[simp] theorem get?_set : (t.set k v).get? k' = if k' == k then some v else t.get? k' :=
  Assoc.lookup_set t.items k k' v

@[simp] theorem get?_erase : (t.erase k).get? k' = if k' == k then none else t.get? k' :=
  Assoc.lookup_erase t.items k k'

/-- A key that is there keeps its place. -/
theorem size_set (present : (t.get? k).isSome = true) : (t.set k v).size = t.size := by
  have keys := congrArg List.length (Assoc.map_fst_set t.items k v present)
  rwa [List.length_map, List.length_map] at keys

/-- The value of an item, where no key stands twice. -/
theorem lookup_of_mem {items : List (κ × ν)} (distinct : (items.map Prod.fst).Nodup)
    (mem : (k, v) ∈ items) : items.lookup k = some v := by
  induction items with
  | nil => cases mem
  | cons item items ih =>
      obtain ⟨outside, distinct⟩ := List.nodup_cons.mp distinct
      rw [Assoc.lookup_cons_ite]
      obtain rfl | later := List.mem_cons.mp mem
      · rw [if_pos (beq_self_eq_true _)]
      · have other : k ≠ item.1 := fun same => outside (same ▸ List.mem_map_of_mem later)
        rw [if_neg (mt beq_iff_eq.mp other), ih distinct later]

theorem lookup_swept {items : List (κ × ν)} (distinct : (items.map Prod.fst).Nodup) :
    (swept f items).lookup k = (items.lookup k).bind f := by
  induction items with
  | nil => rfl
  | cons item items ih =>
      obtain ⟨outside, distinct⟩ := List.nodup_cons.mp distinct
      have ih := ih distinct
      rw [swept_cons, Assoc.lookup_cons_ite]
      by_cases here : k = item.1
      · rw [if_pos (beq_iff_eq.mpr here), Option.bind_some]
        cases swept : f item.2 with
        | none =>
            have absent : items.lookup k = none := by
              rw [← Option.not_isSome_iff_eq_none, Assoc.isSome_lookup, here]
              exact outside
            rw [ih, absent]
            rfl
        | some v => rw [Assoc.lookup_cons_ite, if_pos (beq_iff_eq.mpr here)]
      · rw [if_neg (mt beq_iff_eq.mp here)]
        cases f item.2 with
        | none => exact ih
        | some v => rw [Assoc.lookup_cons_ite, if_neg (mt beq_iff_eq.mp here), ih]

@[simp] theorem get?_sweep : (t.sweep f).get? k = (t.get? k).bind f := lookup_swept f t.nodup

end Table

end Uxsp
