import Uxsp.Python.JsonText

/-!
# Canonical JSON

`Writes` says which values `json.dumps` can write.  With `sort_keys=True` the members of every object
stand in the order of their names; `Val.canonical` is what such a text is read back as, and two dicts
with one text have the same members, but for surrogate pairs.
-/

namespace Uxsp.JsonText

/-! ## What JSON can hold -/

variable {sep : Separators}

/-- JSON can hold the value. -/
def Writes (sep : Separators) (v : Val) : Prop := ∃ text, val sep v = some text

theorem writes_str (s : Str) : Writes sep (.str s) := ⟨_, rfl⟩

theorem writes_bool (b : Bool) : Writes sep (.bool b) := by cases b <;> exact ⟨_, rfl⟩

theorem exists_writtenElements {xs : List Val} (all : ∀ x ∈ xs, Writes sep x) :
    ∃ text, elements sep xs = some text := by
  induction xs with
  | nil => exact ⟨_, rfl⟩
  | cons x xs ih =>
      obtain ⟨here, written⟩ := all x List.mem_cons_self
      obtain ⟨rest, tail⟩ := ih fun y mem => all y (List.mem_cons_of_mem x mem)
      exact ⟨_, by rw [elements, written, tail]; rfl⟩

theorem writes_list {xs : List Val} (all : ∀ x ∈ xs, Writes sep x) : Writes sep (.list xs) := by
  cases xs with
  | nil => exact ⟨_, rfl⟩
  | cons x xs =>
      obtain ⟨here, written⟩ := all x List.mem_cons_self
      obtain ⟨rest, tail⟩ := exists_writtenElements fun y mem => all y (List.mem_cons_of_mem x mem)
      exact ⟨_, by rw [val, written, tail]; rfl⟩

theorem exists_writtenMembers {d : Dict} (all : ∀ item ∈ d, Writes sep item.2) :
    ∃ text, members sep d = some text := by
  induction d with
  | nil => exact ⟨_, rfl⟩
  | cons item d ih =>
      obtain ⟨here, written⟩ := all item List.mem_cons_self
      obtain ⟨rest, tail⟩ := ih fun y mem => all y (List.mem_cons_of_mem item mem)
      exact ⟨_, by rw [members, written, tail]; rfl⟩

theorem writes_dict {d : Dict} (all : ∀ item ∈ d, Writes sep item.2) : Writes sep (.dict d) := by
  cases d with
  | nil => exact ⟨_, rfl⟩
  | cons item d =>
      obtain ⟨here, written⟩ := all item List.mem_cons_self
      obtain ⟨rest, tail⟩ := exists_writtenMembers fun y mem => all y (List.mem_cons_of_mem item mem)
      exact ⟨_, by rw [val, written, tail]; rfl⟩

/-! ## How strings are written -/

/-- A character is written in no fewer bytes than UTF-8 needs. -/
theorem utf8Size_le_char {c : CodePoint} {x : Char} (scalar : c.toChar? = some x) :
    x.utf8Size ≤ (char c).length := by
  have same : c.val = x.val.toNat := CodePoint.val_of_toChar? scalar
  have size : x.utf8Size = if c.val ≤ 127 then 1 else if c.val ≤ 2047 then 2
      else if c.val ≤ 65535 then 3 else 4 := by
    rw [same]
    rfl
  rw [size]
  unfold char
  cases short : shortEscapes.lookup c.val with
  | some e =>
      have listed : (c.val, e) ∈ shortEscapes := by
        obtain ⟨left, right, split, -⟩ := List.lookup_eq_some_iff.mp short
        rw [split]
        exact List.mem_append_right _ List.mem_cons_self
      have small : ∀ item ∈ shortEscapes, item.1 ≤ 127 := by decide
      rw [if_pos (small _ listed)]
      show 1 ≤ 2
      decide
  | none =>
      simp only
      by_cases plain : 32 ≤ c.val ∧ c.val ≤ 126
      · rw [if_pos plain, if_pos (plain.2.trans (by decide))]
        exact le_rfl
      · rw [if_neg plain]
        by_cases basic : c.val < 0x10000
        · rw [if_pos basic]
          show _ ≤ 6
          split_ifs <;> omega
        · rw [if_neg basic]
          show _ ≤ 12
          split_ifs <;> omega

/-- So is a string, and its mark comes behind. -/
theorem length_encode_lt : ∀ {s : Str} {b : Bytes}, s.encode = some b → b.length < (body s).length
  | [], _, encoded => by
      cases encoded
      exact Nat.one_pos
  | c :: s, b, encoded => by
      obtain ⟨cs, scalars, rfl⟩ := Option.map_eq_some_iff.mp encoded
      simp only [List.mapM_cons, Option.bind_eq_bind, Option.bind_eq_some_iff, Option.pure_def,
        Option.some.injEq] at scalars
      obtain ⟨x, here, rest, scalars, rfl⟩ := scalars
      have later := length_encode_lt (congrArg (Option.map _) scalars)
      rw [List.flatMap_cons, List.length_append, String.length_utf8EncodeChar, body,
        List.length_append]
      exact Nat.add_lt_add_of_le_of_lt (utf8Size_le_char here) later
/-- Beyond ASCII a character is written as its escapes. -/
theorem char_large {c : CodePoint} (large : 126 < c.val) : char c =
    if c.val < 0x10000 then escapeUnit c.val
    else escapeUnit (highUnit c) ++ escapeUnit (lowUnit c) := by
  have unlisted : shortEscapes.lookup c.val = none := by
    refine List.lookup_eq_none_iff.mpr fun item mem => ?_
    have small : ∀ item ∈ shortEscapes, item.1 ≤ 126 := by decide
    have here := small item mem
    rw [bne_iff_ne]
    omega
  rw [char, unlisted]
  exact if_neg (by omega)

/-- A character is written as its surrogates are. -/
theorem char_ofSurrogates {high low : CodePoint} (up : high.isHighSurrogate = true)
    (down : low.isLowSurrogate = true) :
    char (.ofSurrogates high low) = char high ++ char low := by
  simp only [CodePoint.isHighSurrogate, CodePoint.isLowSurrogate, Bool.and_eq_true,
    decide_eq_true_eq] at up down
  have value : (CodePoint.ofSurrogates high low).val =
      0x10000 + (high.val - 0xD800) * 0x400 + (low.val - 0xDC00) :=
    Nat.mod_eq_of_lt (by omega)
  have first : highUnit (.ofSurrogates high low) = high.val := by
    rw [highUnit, value]
    omega
  have second : lowUnit (.ofSurrogates high low) = low.val := by
    rw [lowUnit, value]
    omega
  rw [char_large (by omega), if_neg (by omega), first, second, char_large (by omega),
    if_pos (by omega), char_large (by omega), if_pos (by omega)]

/-- A string is written as it is read back. -/
theorem body_reread (s : Str) : body s.reread = body s := by
  fun_induction Str.reread s with
  | case1 high low s pair ih =>
      obtain ⟨up, down⟩ := Bool.and_eq_true_iff.mp pair
      rw [body, body, body, ih, char_ofSurrogates up down, List.append_assoc]
  | case2 high low s apart ih =>
      rw [body, ih]
      rfl
  | case3 s short => rfl

end Uxsp.JsonText

namespace Uxsp

/-! ## Sorted keys -/

mutual

/-- The value with the members of every object in the order of their names. -/
def Val.sortKeys : Val → Val
  | .list xs => .list (Val.sortKeysList xs)
  | .dict items => .dict ((Dict.sortKeysItems items).insertionSort fun a b => a.1 ≤ b.1)
  | v => v

def Val.sortKeysList : List Val → List Val
  | [] => []
  | v :: xs => v.sortKeys :: Val.sortKeysList xs

def Dict.sortKeysItems : List (Str × Val) → List (Str × Val)
  | [] => []
  | (key, v) :: items => (key, v.sortKeys) :: Dict.sortKeysItems items

end

/-- What a sorted text is read back as. -/
def Val.canonical (v : Val) : Val := v.sortKeys.reread

variable {d d' items : Dict} {key s : Str} {v : Val}

theorem Dict.sortKeysItems_eq_map (items : Dict) :
    Dict.sortKeysItems items = items.map fun item => (item.1, item.2.sortKeys) := by
  induction items with
  | nil => rfl
  | cons item items ih =>
      obtain ⟨key, v⟩ := item
      rw [sortKeysItems, ih, List.map_cons]

/-! ## Members -/

theorem Dict.get?_orderedInsert (item : Str × Val) (items : Dict) (key : Str) :
    Dict.get? (items.orderedInsert (fun a b => a.1 ≤ b.1) item) key =
      Dict.get? (item :: items) key := by
  unfold Dict.get?
  induction items with
  | nil => rfl
  | cons other items ih =>
      rw [List.orderedInsert_cons]
      split
      · rfl
      · rename_i later
        rw [Assoc.lookup_cons_ite, ih, Assoc.lookup_cons_ite, Assoc.lookup_cons_ite,
          Assoc.lookup_cons_ite]
        by_cases here : key = other.1
        · subst here
          have apart : other.1 ≠ item.1 := fun same => later (le_of_eq same.symm)
          simp [apart]
        · simp [here]

theorem Dict.get?_insertionSort (items : Dict) (key : Str) :
    Dict.get? (items.insertionSort fun a b => a.1 ≤ b.1) key = Dict.get? items key := by
  induction items with
  | nil => rfl
  | cons item items ih =>
      rw [List.insertionSort_cons, Dict.get?_orderedInsert, Dict.get?, Dict.get?,
        Assoc.lookup_cons_ite, Assoc.lookup_cons_ite]
      exact if_congr Iff.rfl rfl ih

theorem Dict.get?_sortKeysItems (items : Dict) (key : Str) :
    Dict.get? (Dict.sortKeysItems items) key = (Dict.get? items key).map Val.sortKeys := by
  unfold Dict.get?
  induction items with
  | nil => rfl
  | cons item items ih =>
      obtain ⟨k, v⟩ := item
      rw [sortKeysItems, Assoc.lookup_cons_ite, Assoc.lookup_cons_ite, ih]
      split <;> rfl

theorem Dict.perm_sorted (d : Dict) :
    ((Dict.sortKeysItems d).insertionSort fun a b => a.1 ≤ b.1).Perm
      (d.map fun item => (item.1, item.2.sortKeys)) := by
  rw [← Dict.sortKeysItems_eq_map]
  exact List.perm_insertionSort _ _

theorem Dict.wellKeyed_sorted (keyed : d.wellKeyed = true) :
    Dict.wellKeyed ((Dict.sortKeysItems d).insertionSort fun a b => a.1 ≤ b.1) = true := by
  obtain ⟨distinct, encodable⟩ := Bool.and_eq_true_iff.mp keyed
  have names : (((Dict.sortKeysItems d).insertionSort fun a b => a.1 ≤ b.1).map Prod.fst).Perm
      (d.map Prod.fst) := by
    refine ((Dict.perm_sorted d).map Prod.fst).trans (List.Perm.of_eq ?_)
    rw [List.map_map]
    rfl
  rw [wellKeyed, Bool.and_eq_true, decide_eq_true_eq]
  refine ⟨names.nodup_iff.mpr (of_decide_eq_true distinct), List.all_eq_true.mpr fun item mem => ?_⟩
  obtain ⟨other, inside, same⟩ := List.mem_map.mp (names.mem_iff.mp (List.mem_map_of_mem mem))
  rw [← same]
  exact List.all_eq_true.mp encodable other inside

/-- A member of a dict with distinct encodable keys, in its sorted text. -/
theorem Dict.get?_of_canonical_eq (keyed : d.wellKeyed = true)
    (same : (Val.dict d).canonical = .dict items) (key : Str) :
    items.get? key = (d.get? key).map Val.canonical := by
  rw [Val.canonical, Val.sortKeys, Val.reread, Val.dict.injEq] at same
  rw [← same, Dict.reread_get? (Dict.wellKeyed_sorted keyed), Dict.get?_insertionSort,
    Dict.get?_sortKeysItems, Option.map_map]
  rfl

/-- Dicts with one sorted text have the same members. -/
theorem Dict.members_of_canonical (keyed : d.wellKeyed = true) (keyed' : d'.wellKeyed = true)
    (same : (Val.dict d').canonical = (Val.dict d).canonical) (key : Str) :
    (d'.get? key).map Val.canonical = (d.get? key).map Val.canonical := by
  rw [← Dict.get?_of_canonical_eq keyed' same key]
  exact Dict.get?_of_canonical_eq keyed rfl key

/-! ## Values -/

theorem Val.canonical_eq_str : v.canonical = .str s ↔ ∃ t, v = .str t ∧ t.reread = s := by
  cases v with
  | str t =>
      refine ⟨fun same => ⟨t, rfl, Val.str.inj same⟩, ?_⟩
      rintro ⟨_, same, reread⟩
      cases same
      exact congrArg Val.str reread
  | none | bool b | int n | float x | list xs | dict items =>
      refine ⟨fun same => ?_, ?_⟩
      · cases same
      · rintro ⟨_, same, -⟩
        cases same

theorem Val.canonical_eq_int {n : ℤ} : v.canonical = .int n ↔ v = .int n := by
  cases v with
  | int m => exact Iff.rfl
  | none | bool b | str s | float x | list xs | dict items =>
      refine ⟨fun same => ?_, fun same => ?_⟩
      · cases same
      · cases same

theorem Val.exists_of_canonical_dict (same : v.canonical = .dict items) : ∃ d, v = .dict d := by
  cases v with
  | dict d => exact ⟨d, rfl⟩
  | none | bool b | int n | str s | float x | list xs => cases same

theorem Assoc.mem_update {κ ν : Type*} [BEq κ] {d items : List (κ × ν)} {item : κ × ν}
    (mem : item ∈ Assoc.update d items) : item ∈ d ∨ item ∈ items := by
  induction items generalizing d with
  | nil => exact Or.inl mem
  | cons head items ih =>
      obtain set | later := ih (d := Assoc.set d head.1 head.2) mem
      · exact Assoc.forall_set d head.1 head.2 (p := fun x => x ∈ d ∨ x ∈ head :: items)
          (fun x old => Or.inl old) (Or.inr List.mem_cons_self) item set
      · exact Or.inr (List.mem_cons_of_mem _ later)

/-- A name and a string of the Basic Multilingual Plane are in every dict with the text. -/
theorem Dict.mem_of_canonical (found : items.get? key = some (.str s))
    (basicKey : ∀ c ∈ key, c.val < 0x10000) (basic : ∀ c ∈ s, c.val < 0x10000)
    (same : (Val.dict d').canonical = .dict items) : (key, .str s) ∈ d' := by
  rw [Val.canonical, Val.sortKeys, Val.reread, Val.dict.injEq] at same
  subst same
  obtain ⟨left, right, split, -⟩ := List.lookup_eq_some_iff.mp found
  obtain none | read := Assoc.mem_update (split ▸ List.mem_append_right left List.mem_cons_self)
  · cases none
  rw [Dict.rereadItems_eq_map] at read
  obtain ⟨⟨k, v⟩, sorted, same⟩ := List.mem_map.mp read
  obtain ⟨name, value⟩ := Prod.mk.inj same
  obtain rfl : k = key := by
    rw [← name, Str.reread_of_basic]
    rwa [name]
  obtain ⟨⟨k', w⟩, inside, same⟩ := List.mem_map.mp ((Dict.perm_sorted d').mem_iff.mp sorted)
  obtain ⟨rfl, rfl⟩ := Prod.mk.inj same
  obtain ⟨t, rfl, back⟩ := Val.canonical_eq_str.mp value
  obtain rfl : t = s := by
    rw [← back, Str.reread_of_basic]
    rwa [back]
  exact inside

end Uxsp
