import Uxsp.Lib.Assoc
import Uxsp.Python.Value

/-!
# `json`

What the code relies on in the JSON codec: an object that was written is read back, and its members
that are made of strings, integers, booleans, `None`, lists and objects are read as they were.  A
surrogate pair, which a Python string may hold as two code points, is read back as one character;
`Val.reread` is what comes back from a file.
-/

namespace Uxsp

/-- No two equal keys, and no key with a lone surrogate. -/
def Dict.wellKeyed (d : Dict) : Bool :=
  decide (d.map Prod.fst).Nodup && d.all fun item => item.1.encode.isSome

/-- A dict whose keys are distinct literals. -/
theorem Dict.wellKeyed_of_keys {d : Dict} {keys : List String}
    (same : d.map Prod.fst = keys.map Str.ofString) (distinct : keys.Nodup) :
    d.wellKeyed = true := by
  rw [wellKeyed, Bool.and_eq_true, decide_eq_true_eq, same]
  constructor
  · exact distinct.map fun a b h => Str.ofString_inj.mp h
  · refine List.all_eq_true.mpr fun item mem => ?_
    have key : item.1 ∈ keys.map Str.ofString := same ▸ List.mem_map_of_mem mem
    rcases List.mem_map.mp key with ⟨k, _, literal⟩
    rw [← literal, Str.encode_ofString]
    rfl

mutual

/-- A value that survives JSON. -/
def Val.plain : Val → Bool
  | .none | .bool _ | .int _ => true
  | .float _ => false
  | .str s => s.encode.isSome
  | .list xs => Val.plainList xs
  | .dict items => Dict.wellKeyed items && Dict.plainItems items

def Val.plainList : List Val → Bool
  | [] => true
  | v :: xs => v.plain && Val.plainList xs

def Dict.plainItems : List (Str × Val) → Bool
  | [] => true
  | (_, v) :: items => v.plain && Dict.plainItems items

end

/-- The dict has every plain member of the other one. -/
def Dict.Keeps (d d' : Dict) : Prop :=
  ∀ key v, d.get? key = some v → v.plain = true → d'.get? key = some v

theorem Dict.plain_of_get? {d : Dict} {key : Str} {v : Val} (plain : Dict.plainItems d = true)
    (found : d.get? key = some v) : v.plain = true := by
  induction d with
  | nil => cases found
  | cons item d ih =>
      obtain ⟨k, w⟩ := item
      rw [plainItems, Bool.and_eq_true] at plain
      unfold Dict.get? at found ih
      rw [List.lookup_cons] at found
      split at found
      · cases found
        exact plain.1
      · exact ih plain.2 found

/-- Of plain members none is lost. -/
theorem Dict.Keeps.get? {d d' : Dict} (keeps : d.Keeps d') (plain : Dict.plainItems d = true)
    {key : Str} {v : Val} (found : d.get? key = some v) : d'.get? key = some v :=
  keeps key v found (Dict.plain_of_get? plain found)

/-- Objects written by `json.dumps` are read by `json.loads`. -/
structure Runtime.JsonCorrect (R : Runtime) : Prop where
  compact : ∀ {d : Dict} {text : Bytes}, d.wellKeyed = true → R.jsonCompact (.dict d) = .ok text →
    ∃ d', R.jsonLoads text = .ok (.dict d') ∧ d.Keeps d'
  dumps : ∀ {d : Dict} {text : Bytes}, d.wellKeyed = true → R.jsonDumps (.dict d) = .ok text →
    ∃ d', R.jsonLoads text = .ok (.dict d') ∧ d.Keeps d'

/-! ## Files -/

namespace CodePoint

def isHighSurrogate (c : CodePoint) : Bool := 0xD800 ≤ c.val && c.val < 0xDC00

def isLowSurrogate (c : CodePoint) : Bool := 0xDC00 ≤ c.val && c.val < 0xE000

/-- The character that a surrogate pair stands for. -/
def ofSurrogates (high low : CodePoint) : CodePoint :=
  Fin.ofNat 0x110000 (0x10000 + (high.val - 0xD800) * 0x400 + (low.val - 0xDC00))

/-- A scalar value is no surrogate. -/
theorem isHighSurrogate_of_toChar? {c : CodePoint} {x : Char} (scalar : c.toChar? = some x) :
    c.isHighSurrogate = false := by
  have valid := x.valid
  simp only [UInt32.isValidChar, Nat.isValidChar] at valid
  have same : c.val = x.val.toNat := val_of_toChar? scalar
  rw [isHighSurrogate, Bool.and_eq_false_iff, decide_eq_false_iff_not, decide_eq_false_iff_not]
  omega

end CodePoint

/-- `json.loads(json.dumps(s))`. -/
def Str.reread : Str → Str
  | high :: low :: s =>
      if high.isHighSurrogate && low.isLowSurrogate then .ofSurrogates high low :: Str.reread s
      else high :: Str.reread (low :: s)
  | s => s

theorem Str.exists_toChar? {s : Str} {b : Bytes} (encoded : s.encode = some b) :
    ∀ c ∈ s, ∃ x, c.toChar? = some x := by
  obtain ⟨cs, scalars, rfl⟩ := Option.map_eq_some_iff.mp encoded
  clear encoded
  induction s generalizing cs with
  | nil => exact nofun
  | cons c s ih =>
      simp only [List.mapM_cons, Option.bind_eq_bind, Option.bind_eq_some_iff, Option.pure_def,
        Option.some.injEq] at scalars
      obtain ⟨x, here, rest, scalars, _⟩ := scalars
      exact List.forall_mem_cons.mpr ⟨⟨x, here⟩, ih rest scalars⟩

/-- Without a high surrogate there is no pair. -/
theorem Str.reread_of_forall {s : Str} (scalar : ∀ c ∈ s, c.isHighSurrogate = false) :
    s.reread = s := by
  fun_induction Str.reread s with
  | case1 high low s pair ih =>
      rw [scalar high List.mem_cons_self] at pair
      cases pair
  | case2 high low s apart ih => rw [ih fun c mem => scalar c (List.mem_cons_of_mem _ mem)]
  | case3 s short => rfl

/-- A string that can be encoded is read back as it was. -/
theorem Str.reread_of_encode {s : Str} {b : Bytes} (encoded : s.encode = some b) :
    s.reread = s := by
  apply Str.reread_of_forall
  intro c mem
  obtain ⟨x, valid⟩ := Str.exists_toChar? encoded c mem
  exact CodePoint.isHighSurrogate_of_toChar? valid

@[simp] theorem Str.reread_ofString (s : String) : (Str.ofString s).reread = Str.ofString s :=
  Str.reread_of_encode (Str.encode_ofString s)

@[simp] theorem Str.reread_hex (b : Bytes) : b.hex.reread = b.hex := by
  have plain : ∀ d : Fin 16, (Str.hexDigit d).isHighSurrogate = false := by decide
  apply Str.reread_of_forall
  intro c mem
  obtain ⟨x, _, digit⟩ := List.mem_flatMap.mp mem
  obtain rfl | rfl := List.mem_pair.mp digit
  · exact plain _
  · exact plain _

mutual

/-- `json.loads(json.dumps(v))`. -/
def Val.reread : Val → Val
  | .str s => .str s.reread
  | .list xs => .list (Val.rereadList xs)
  | .dict items => .dict (Assoc.update [] (Dict.rereadItems items))
  | v => v

def Val.rereadList : List Val → List Val
  | [] => []
  | v :: xs => v.reread :: Val.rereadList xs

def Dict.rereadItems : List (Str × Val) → List (Str × Val)
  | [] => []
  | (key, v) :: items => (key.reread, v.reread) :: Dict.rereadItems items

end

theorem Val.rereadList_eq_map (xs : List Val) : Val.rereadList xs = xs.map Val.reread := by
  induction xs with
  | nil => rfl
  | cons v xs ih => rw [Val.rereadList, ih, List.map_cons]

theorem Dict.rereadItems_eq_map (items : List (Str × Val)) :
    Dict.rereadItems items = items.map fun item => (item.1.reread, item.2.reread) := by
  induction items with
  | nil => rfl
  | cons item items ih =>
      obtain ⟨key, v⟩ := item
      rw [Dict.rereadItems, ih, List.map_cons]

/-! ## What is read back as it was -/

mutual

theorem Val.reread_of_plain : ∀ {v : Val}, v.plain = true → v.reread = v
  | .none, _ => rfl
  | .bool _, _ => rfl
  | .int _, _ => rfl
  | .float _, plain => by cases plain
  | .str s, plain => by
      obtain ⟨b, encoded⟩ := Option.isSome_iff_exists.mp plain
      rw [Val.reread, Str.reread_of_encode encoded]
  | .list xs, plain => by rw [Val.reread, Val.rereadList_of_plain plain]
  | .dict items, plain => by
      obtain ⟨keyed, plain⟩ := Bool.and_eq_true_iff.mp plain
      obtain ⟨distinct, encodable⟩ := Bool.and_eq_true_iff.mp keyed
      rw [Val.reread, Dict.rereadItems_of_plain (List.all_eq_true.mp encodable) plain,
        Assoc.update_nil (of_decide_eq_true distinct)]

theorem Val.rereadList_of_plain : ∀ {xs : List Val}, Val.plainList xs = true →
    Val.rereadList xs = xs
  | [], _ => rfl
  | v :: xs, plain => by
      obtain ⟨here, rest⟩ := Bool.and_eq_true_iff.mp plain
      rw [Val.rereadList, Val.reread_of_plain here, Val.rereadList_of_plain rest]

theorem Dict.rereadItems_of_plain : ∀ {items : List (Str × Val)},
    (∀ item ∈ items, item.1.encode.isSome = true) → Dict.plainItems items = true →
      Dict.rereadItems items = items
  | [], _, _ => rfl
  | (key, v) :: items, encodable, plain => by
      obtain ⟨here, rest⟩ := Bool.and_eq_true_iff.mp plain
      obtain ⟨keyHere, keysRest⟩ := List.forall_mem_cons.mp encodable
      obtain ⟨b, encoded⟩ := Option.isSome_iff_exists.mp keyHere
      rw [Dict.rereadItems, Val.reread_of_plain here, Str.reread_of_encode encoded,
        Dict.rereadItems_of_plain keysRest rest]

end

/-- Reading turns no pair into a character of the Basic Multilingual Plane. -/
theorem Str.reread_of_basic {s : Str} (basic : ∀ c ∈ s.reread, c.val < 0x10000) :
    s.reread = s := by
  fun_induction Str.reread s with
  | case1 high low s pair ih =>
      have small := basic _ List.mem_cons_self
      obtain ⟨up, down⟩ := Bool.and_eq_true_iff.mp pair
      simp only [CodePoint.isHighSurrogate, CodePoint.isLowSurrogate, Bool.and_eq_true,
        decide_eq_true_eq] at up down
      simp only [CodePoint.ofSurrogates, Fin.ofNat] at small
      omega
  | case2 high low s apart ih => rw [ih fun c mem => basic c (List.mem_cons_of_mem _ mem)]
  | case3 s short => rfl

/-- Reading empties no string. -/
theorem Str.reread_eq_nil {s : Str} : s.reread = [] ↔ s = [] := by
  fun_cases Str.reread s with
  | case1 high low s pair => exact ⟨nofun, nofun⟩
  | case2 high low s apart => exact ⟨nofun, nofun⟩
  | case3 s short => rfl

/-- No two code points of the string are a surrogate pair. -/
def Str.Unpaired (s : Str) : Prop :=
  s.IsChain fun high low => ¬ (high.isHighSurrogate && low.isLowSurrogate) = true

theorem Str.Unpaired.reread {s : Str} (unpaired : s.Unpaired) : s.reread = s := by
  fun_induction Str.reread s with
  | case1 high low s pair ih => exact absurd pair (List.isChain_cons_cons.mp unpaired).1
  | case2 high low s apart ih => rw [ih (List.isChain_cons_cons.mp unpaired).2]
  | case3 s short => rfl

/-- What reading leaves alone has no pair. -/
theorem Str.unpaired_of_reread {s : Str} (same : s.reread = s) : s.Unpaired := by
  fun_induction Str.reread s with
  | case1 high low s pair ih =>
      -- the character of the pair would be the high surrogate
      have head := (List.cons.inj same).1
      obtain ⟨up, down⟩ := Bool.and_eq_true_iff.mp pair
      simp only [CodePoint.isHighSurrogate, CodePoint.isLowSurrogate, Bool.and_eq_true,
        decide_eq_true_eq] at up down
      have value : (CodePoint.ofSurrogates high low).val =
          0x10000 + (high.val - 0xD800) * 0x400 + (low.val - 0xDC00) :=
        Nat.mod_eq_of_lt (by omega)
      rw [head] at value
      omega
  | case2 high low s apart ih =>
      exact List.isChain_cons_cons.mpr ⟨apart, ih (List.cons.inj same).2⟩
  | case3 s short =>
      rcases s with _ | ⟨c, _ | ⟨d, s⟩⟩
      · exact .nil
      · exact .singleton c
      · exact absurd rfl (short c d s)

/-- The member of a dict with distinct encodable keys, as it is read back. -/
theorem Dict.reread_get? {d : Dict} (keyed : d.wellKeyed = true) (key : Str) :
    Dict.get? (Assoc.update [] (Dict.rereadItems d)) key = (d.get? key).map Val.reread := by
  obtain ⟨distinct, encodable⟩ := Bool.and_eq_true_iff.mp keyed
  have same : ∀ item ∈ d, item.1.reread = item.1 := by
    intro item mem
    obtain ⟨b, encoded⟩ := Option.isSome_iff_exists.mp (List.all_eq_true.mp encodable item mem)
    exact Str.reread_of_encode encoded
  have read : Dict.rereadItems d = d.map fun item => (item.1, item.2.reread) := by
    rw [Dict.rereadItems_eq_map]
    exact List.map_congr_left fun item mem => by rw [same item mem]
  rw [read, Assoc.update_nil]
  · unfold Dict.get?
    clear keyed distinct encodable same read
    induction d with
    | nil => rfl
    | cons item d ih =>
        rw [List.map_cons, Assoc.lookup_cons_ite, Assoc.lookup_cons_ite, ih]
        split <;> rfl
  · rw [List.map_map]
    exact of_decide_eq_true distinct

/-- `json.loads` reads what `json.dumps` wrote, but for surrogate pairs. -/
structure Runtime.JsonRereads (R : Runtime) : Prop where
  compact : ∀ {v text}, R.jsonCompact v = .ok text → R.jsonLoads text = .ok v.reread
  dumps : ∀ {v text}, R.jsonDumps v = .ok text → R.jsonLoads text = .ok v.reread

theorem Runtime.JsonRereads.correct {R : Runtime} (json : R.JsonRereads) : R.JsonCorrect := by
  have keeps : ∀ {d : Dict}, d.wellKeyed = true →
      d.Keeps (Assoc.update [] (Dict.rereadItems d)) := by
    intro d keyed key v found plain
    rw [Dict.reread_get? keyed, found, Option.map_some, Val.reread_of_plain plain]
  exact ⟨fun keyed written => ⟨_, json.compact written, keeps keyed⟩,
    fun keyed written => ⟨_, json.dumps written, keeps keyed⟩⟩

/-- `json.dumps` writes an object on one line. -/
def Runtime.JsonLine (R : Runtime) : Prop :=
  ∀ {d : Dict} {text : Bytes}, R.jsonDumps (.dict d) = .ok text →
    ∃ inner, text = 123 :: (inner ++ [125]) ∧ ∀ b ∈ inner, b ≠ 10 ∧ b ≠ 13

/-- The JSON text of a file: `json.dumps(v, indent=indent)` and `json.load(f)`. -/
structure JsonFile where
  dumps : Val → Except PyErr Bytes
  load : Bytes → Except PyErr Val
  load_dumps : ∀ {v text}, dumps v = .ok text → load text = .ok v.reread

end Uxsp
