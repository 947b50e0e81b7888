import Mathlib

/-!
# Association lists

A dict as the list of its entries in the order of insertion.  The first entry of a key is its entry;
`set` keeps the place of a key that is there and `erase` drops every entry of a key.
-/

namespace Uxsp.Assoc

variable {κ ν : Type*} [BEq κ] (d : List (κ × ν)) (k k' : κ) (v : ν)

/-- `d[k] = v`. -/
def set : List (κ × ν) :=
  if (d.lookup k).isSome then d.map fun item => if item.1 == k then (k, v) else item
  else d ++ [(k, v)]

/-- `d.pop(k, None)`. -/
def erase : List (κ × ν) := d.filter fun item => item.1 != k

/-- `d.update(items)`. -/
def update (items : List (κ × ν)) : List (κ × ν) :=
  items.foldl (fun d item => set d item.1 item.2) d

theorem lookup_cons_ite (item : κ × ν) :
    (item :: d).lookup k = if k == item.1 then some item.2 else d.lookup k := by
  rw [List.lookup_cons]
  cases k == item.1 <;> rfl

/-- What holds of every entry holds after another is set. -/
theorem forall_set {p : κ × ν → Prop} (old : ∀ item ∈ d, p item) (new : p (k, v)) :
    ∀ item ∈ set d k v, p item := by
  intro item mem
  unfold set at mem
  split at mem
  · obtain ⟨other, inside, rfl⟩ := List.mem_map.mp mem
    split
    · exact new
    · exact old other inside
  · obtain inside | last := List.mem_append.mp mem
    · exact old item inside
    · exact List.mem_singleton.mp last ▸ new

/-- What holds of every entry holds after an update with such entries. -/
theorem forall_update {p : ν → Prop} {items : List (κ × ν)} (old : ∀ item ∈ d, p item.2)
    (new : ∀ item ∈ items, p item.2) : ∀ item ∈ update d items, p item.2 := by
  induction items generalizing d with
  | nil => exact old
  | cons item items ih =>
      refine ih (set d item.1 item.2) ?_ fun x mem => new x (List.mem_cons_of_mem _ mem)
      exact forall_set d item.1 item.2 old (new item List.mem_cons_self)

theorem nodup_erase (distinct : (d.map Prod.fst).Nodup) : ((erase d k).map Prod.fst).Nodup :=
  distinct.sublist (List.filter_sublist.map Prod.fst)

variable [LawfulBEq κ]

@[simp] theorem lookup_erase :
    (erase d k).lookup k' = if k' == k then none else d.lookup k' := by
  unfold erase
  induction d with
  | nil => simp
  | cons item d ih =>
      by_cases here : item.1 = k
      · subst here
        rw [List.filter_cons_of_neg (by simp), ih, lookup_cons_ite]
        by_cases same : k' = item.1 <;> simp [same]
      · rw [List.filter_cons_of_pos (by simpa using here), lookup_cons_ite, ih, lookup_cons_ite]
        by_cases same : k' = k
        · subst same
          simp [Ne.symm here]
        · simp [same]

theorem lookup_replace :
    (d.map fun item => if item.1 == k then (k, v) else item).lookup k' =
      if k' == k then (d.lookup k).map fun _ => v else d.lookup k' := by
  induction d with
  | nil => simp
  | cons item d ih =>
      rw [List.map_cons, lookup_cons_ite, ih, lookup_cons_ite, lookup_cons_ite]
      by_cases here : item.1 = k
      · subst here
        by_cases same : k' = item.1 <;> simp [same]
      · rw [if_neg (mt eq_of_beq here : ¬ (item.1 == k) = true)]
        by_cases same : k' = k
        · subst same
          simp [Ne.symm here]
        · simp [same]

@[simp] theorem lookup_set :
    (set d k v).lookup k' = if k' == k then some v else d.lookup k' := by
  unfold set
  split
  · rename_i present
    obtain ⟨w, found⟩ := Option.isSome_iff_exists.mp present
    rw [lookup_replace, found]
    rfl
  · rename_i absent
    have missing : d.lookup k = none := Option.not_isSome_iff_eq_none.mp absent
    rw [List.lookup_append, lookup_cons_ite]
    by_cases same : k' = k
    · subst same
      simp [missing]
    · simp [same]

theorem isSome_lookup {items : List (κ × ν)} :
    (items.lookup k').isSome = true ↔ k' ∈ items.map Prod.fst := by
  induction items with
  | nil => simp
  | cons item items ih =>
      rw [lookup_cons_ite, List.map_cons, List.mem_cons]
      by_cases same : k' = item.1 <;> simp [same, ih]

/-- An entry keeps its place. -/
theorem map_fst_set (present : (d.lookup k).isSome = true) :
    (set d k v).map Prod.fst = d.map Prod.fst := by
  rw [set, if_pos present, List.map_map]
  refine List.map_congr_left fun item _ => ?_
  by_cases same : item.1 = k <;> simp [same]

theorem nodup_set (distinct : (d.map Prod.fst).Nodup) : ((set d k v).map Prod.fst).Nodup := by
  by_cases present : (d.lookup k).isSome = true
  · rwa [map_fst_set d k v present]
  · rw [set, if_neg present, List.map_append, List.map_singleton]
    exact distinct.append (List.nodup_singleton k)
      (List.disjoint_singleton.mpr (mt (isSome_lookup k).mpr present))

theorem erase_of_none (absent : d.lookup k = none) : erase d k = d := by
  rw [erase, List.filter_eq_self]
  intro item mem
  rw [bne_iff_ne]
  intro same
  have present : (d.lookup k).isSome = true :=
    (isSome_lookup k).mpr (List.mem_map.mpr ⟨item, mem, same⟩)
  rw [absent] at present
  cases present

theorem isSome_lookup_update (items : List (κ × ν)) :
    ((update d items).lookup k').isSome = true ↔
      (d.lookup k').isSome = true ∨ k' ∈ items.map Prod.fst := by
  induction items generalizing d with
  | nil => simp [update]
  | cons item items ih =>
      have step : update d (item :: items) = update (set d item.1 item.2) items := rfl
      rw [step, ih, lookup_set, List.map_cons, List.mem_cons]
      by_cases same : k' = item.1 <;> simp [same]

/-- Entries of new keys are appended. -/
theorem update_eq_append {items : List (κ × ν)} (distinct : (items.map Prod.fst).Nodup)
    (fresh : ∀ item ∈ items, d.lookup item.1 = none) : update d items = d ++ items := by
  induction items generalizing d with
  | nil => exact (List.append_nil d).symm
  | cons item items ih =>
      obtain ⟨outside, rest⟩ := List.nodup_cons.mp distinct
      have absent := fresh item List.mem_cons_self
      have here : set d item.1 item.2 = d ++ [item] := by rw [set, absent]; rfl
      have step : update d (item :: items) = update (set d item.1 item.2) items := rfl
      rw [step, here, ih _ rest, List.append_assoc, List.singleton_append]
      intro other mem
      rw [List.lookup_append, fresh other (List.mem_cons_of_mem _ mem), Option.none_or,
        lookup_cons_ite, List.lookup_nil, if_neg]
      intro same
      exact outside (eq_of_beq same ▸ List.mem_map_of_mem mem)

/-- A dict that is rebuilt from its items. -/
theorem update_nil {items : List (κ × ν)} (distinct : (items.map Prod.fst).Nodup) :
    update [] items = items := by
  rw [update_eq_append [] distinct fun _ _ => List.lookup_nil, List.nil_append]

end Uxsp.Assoc
