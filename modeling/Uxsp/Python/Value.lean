import Uxsp.Python.Str

/-!
# Python values, dicts and exceptions

`Val` is what `json.loads` produces and what message dicts hold.  `Runtime` collects the parts
of the interpreter that the code uses and that have no short description: the printed form of
floats and containers, the Unicode table of decimal digits, the JSON text codec.  A theorem
about the code holds for every `Runtime`.
-/

namespace Uxsp

/-- `float`: a finite value, an infinity or a NaN. -/
inductive PyFloat
  | finite (value : ℚ)
  | inf (negative : Bool)
  | nan
  deriving DecidableEq

inductive Val
  | none
  | bool (b : Bool)
  | int (n : ℤ)
  | float (x : PyFloat)
  | str (s : Str)
  | list (xs : List Val)
  | dict (items : List (Str × Val))

/-- A dict with string keys; the first entry of a key is its entry. -/
abbrev Dict := List (Str × Val)

/-- `d.get(key)`, with the missing key kept apart from the value `None`. -/
def Dict.get? (d : Dict) (key : Str) : Option Val := d.lookup key

/-- `key in d`. -/
def Dict.has (d : Dict) (key : Str) : Bool := (d.get? key).isSome

@[simp] theorem Dict.get?_nil (key : Str) : Dict.get? [] key = none := rfl

@[simp] theorem Dict.get?_cons (a b : String) (v : Val) (d : Dict) :
    Dict.get? ((Str.ofString a, v) :: d) (Str.ofString b) =
      if b = a then some v else Dict.get? d (Str.ofString b) := by
  unfold Dict.get?
  rw [List.lookup_cons]
  by_cases same : b = a
  · subst same
    simp
  · have apart : Str.ofString b ≠ Str.ofString a := fun h => same (Str.ofString_inj.mp h)
    rw [beq_eq_false_iff_ne.mpr apart, if_neg same]

/-- `{**d, key: v}`. -/
def Dict.set (d : Dict) (key : Str) (v : Val) : Dict :=
  if d.has key then d.map fun item => if item.1 = key then (key, v) else item
  else d ++ [(key, v)]

theorem Dict.lookup_replace (key other : Str) (v : Val) (d : Dict) :
    (d.map fun item => if item.1 = key then (key, v) else item).lookup other =
      if other = key ∧ d.has key then some v else d.lookup other := by
  induction d with
  | nil => simp [Dict.has, Dict.get?]
  | cons item d ih =>
      obtain ⟨k, w⟩ := item
      unfold Dict.has Dict.get? at ih ⊢
      rw [List.map_cons, List.lookup_cons, ih, List.lookup_cons]
      by_cases same : other = key
      · subst same
        by_cases here : k = other
        · simp [here]
        · have apart : other ≠ k := fun h => here h.symm
          rw [if_neg here, List.lookup_cons, beq_eq_false_iff_ne.mpr apart]
      · by_cases here : k = key
        · subst here
          simp only [same, false_and, if_false, if_true]
          rw [List.lookup_cons, beq_eq_false_iff_ne.mpr same]
        · simp only [here, same, false_and, if_false]
          rw [List.lookup_cons]

theorem Dict.get?_set (d : Dict) (key other : Str) (v : Val) :
    (d.set key v).get? other = if other = key then some v else d.get? other := by
  unfold Dict.set
  split
  · rename_i present
    exact (Dict.lookup_replace key other v d).trans (by simp [present, Dict.get?])
  · rename_i absent
    have missing : d.lookup key = none := by
      rw [Dict.has, Option.not_isSome_iff_eq_none] at absent
      exact absent
    unfold Dict.get?
    rw [List.lookup_append]
    by_cases same : other = key
    · subst same
      simp [missing]
    · simp [same, List.lookup_cons, beq_eq_false_iff_ne.mpr same]

/-- `v == s` for a string `s` and the result `v` of a lookup. -/
def Val.eqStr (v : Option Val) (s : Str) : Bool :=
  match v with
  | some (.str t) => t == s
  | _ => false

@[simp] theorem Val.eqStr_str (s t : Str) : Val.eqStr (some (.str t)) s = (t == s) := rfl

theorem Val.eqStr_eq_true {v : Option Val} {s : Str} :
    Val.eqStr v s = true ↔ v = some (.str s) := by
  unfold Val.eqStr
  split
  · simp
  · rename_i other
    exact ⟨fun h => (Bool.false_ne_true h).elim, fun h => (other s h).elim⟩

/-- `v == n` for an integer `n`: a boolean is an integer and a float may equal one. -/
def Val.eqInt (v : Val) (n : ℤ) : Bool :=
  match v with
  | .bool b => (if b then 1 else 0) == n
  | .int m => m == n
  | .float (.finite q) => q == n
  | _ => false

/-- `type(v).__name__`. -/
def Val.typeName : Val → String
  | .none => "NoneType"
  | .bool _ => "bool"
  | .int _ => "int"
  | .float _ => "float"
  | .str _ => "str"
  | .list _ => "list"
  | .dict _ => "dict"

/-- `v is None`. -/
def Val.isNone : Val → Bool
  | .none => true
  | _ => false

/-- `bool(v)`. -/
def Val.truthy : Val → Bool
  | .none => false
  | .bool b => b
  | .int n => n != 0
  | .float (.finite q) => q != 0
  | .float _ => true
  | .str s => !s.isEmpty
  | .list xs => !xs.isEmpty
  | .dict items => !items.isEmpty

/-! ## Exceptions -/

/-- The exception classes the code raises or names. -/
inductive ErrClass
  | typeError
  | valueError
  | keyError
  | lookupError
  | attributeError
  | overflowError
  | runtimeError
  | unicodeError
  | unicodeEncodeError
  | unicodeDecodeError
  | jsonDecodeError
  | invalidTag
  | storeError
  | envelopeValidationError
  | sessionError
  | sessionExpiredError
  | sessionRevokedError
  | sessionNotActiveError
  | sessionReorderError
  | handshakeError
  | handshakeAuthError
  | handshakeProofError
  | handshakeExpiredError
  | webSocketError
  | unexpectedFrameError
  | sessionNotEstablishedError
  | frameTooLargeError
  | rateLimitExceededError
  | structError
  | replayError
  | staleEnvelopeError
  | futureEnvelopeError
  | duplicateNonceError
  | envelopeError
  /-- `uxsp.core.envelope.EnvelopeValidationError`; the one above is that of `crypto.hybrid`. -/
  | envelopeFormatError
  | envelopeTooLargeError
  | envelopeExpiredError
  | cardExpiredError
  | cardRevokedError
  | chunkingError
  | chunkFormatError
  | chunkValidationError
  | secureError
  | secureSendError
  | secureReceiveError
  | peerNotFoundError
  | typeMismatchError
  | messageExpiredError
  | duplicateMessageError
  | invalidSenderError
  | signingError
  | untrustedCardError
  | invalidCardSignatureError
  | expiredCardError
  | cardNotYetValidError
  | revokedCardError
  | payloadError
  | payloadFormatError
  | payloadValidationError
  | osError
  | keyStoreError
  | keyStoreBackendError
  | duplicateCardError
  | uxspClientError
  | protocolFallbackError
  | uxspPeerResolutionError
  | uxspHttpError
  | missingUxspHeaderError
  | wrongRecipientError
  | uxspVersionMismatchError
  /-- `redis.exceptions.ResponseError`. -/
  | responseError
  /-- A class of a library the code does not name. -/
  | external (code : ℕ)
  deriving DecidableEq, Repr

/-- The proper base classes below `Exception`. -/
def ErrClass.bases : ErrClass → List ErrClass
  | .unicodeError | .jsonDecodeError | .envelopeValidationError => [.valueError]
  | .unicodeEncodeError | .unicodeDecodeError => [.unicodeError, .valueError]
  | .keyError => [.lookupError]
  | .sessionExpiredError | .sessionRevokedError | .sessionNotActiveError
  | .sessionReorderError => [.sessionError]
  | .handshakeAuthError | .handshakeProofError | .handshakeExpiredError => [.handshakeError]
  | .unexpectedFrameError | .sessionNotEstablishedError | .frameTooLargeError => [.webSocketError]
  | .staleEnvelopeError | .futureEnvelopeError | .duplicateNonceError => [.replayError]
  | .envelopeFormatError | .envelopeTooLargeError | .envelopeExpiredError => [.envelopeError]
  | .cardExpiredError | .cardRevokedError => [.valueError]
  | .chunkFormatError | .chunkValidationError => [.chunkingError]
  | .secureSendError | .secureReceiveError | .peerNotFoundError => [.secureError]
  | .typeMismatchError => [.secureReceiveError, .secureError]
  | .messageExpiredError => [.secureReceiveError, .secureError, .staleEnvelopeError, .replayError,
      .envelopeExpiredError, .envelopeError, .futureEnvelopeError]
  | .duplicateMessageError => [.secureReceiveError, .secureError, .duplicateNonceError,
      .replayError, .envelopeExpiredError, .envelopeError]
  | .invalidSenderError => [.secureReceiveError, .secureError, .cardRevokedError,
      .cardExpiredError, .valueError]
  | .untrustedCardError | .invalidCardSignatureError | .expiredCardError | .cardNotYetValidError
  | .revokedCardError => [.signingError]
  | .payloadFormatError | .payloadValidationError => [.payloadError]
  | .keyStoreBackendError | .duplicateCardError => [.keyStoreError]
  | .protocolFallbackError | .uxspPeerResolutionError => [.uxspClientError]
  | .missingUxspHeaderError | .wrongRecipientError | .uxspVersionMismatchError => [.uxspHttpError]
  | _ => []

/-- `isinstance(e, d)` for an exception of class `c`. -/
def ErrClass.isA (c d : ErrClass) : Bool := c == d || c.bases.contains d

/-- One piece of an f-string. -/
inductive MsgPart
  | lit (s : String)
  | str (s : Str)
  | int (n : ℤ)
  /-- `{v}`, the value still to be printed. -/
  | val (v : Val)
  /-- `str(v)[:n]`. -/
  | valTake (n : ℕ) (v : Val)
  /-- `{v!r}`. -/
  | repr (v : Val)
  /-- `{x:.0f}`. -/
  | rounded (x : ℚ)
  /-- A list of field names. -/
  | names (xs : List String)

instance : Coe String MsgPart := ⟨.lit⟩

/-- The text of an exception, as the f-string that makes it. -/
abbrev Msg := List MsgPart

structure PyErr where
  cls : ErrClass
  msg : Msg

/-- `if not cond: raise e`. -/
def ensure (cond : Bool) (e : PyErr) : Except PyErr Unit := if cond then .ok () else .error e

@[simp] theorem ensure_eq_ok {cond : Bool} {e : PyErr} {u : Unit} :
    ensure cond e = .ok u ↔ cond = true := by
  cases cond
  · exact ⟨nofun, nofun⟩
  · exact ⟨fun _ => rfl, fun _ => rfl⟩

@[simp] theorem bind_eq_ok {α β : Type} {x : Except PyErr α} {f : α → Except PyErr β} {b : β} :
    (x >>= f) = .ok b ↔ ∃ a, x = .ok a ∧ f a = .ok b := by
  cases x with
  | error e => exact ⟨nofun, nofun⟩
  | ok a => exact ⟨fun h => ⟨a, rfl, h⟩, fun ⟨_, same, h⟩ => by cases same; exact h⟩

@[simp] theorem pure_eq_ok {α : Type} {a b : α} :
    (pure a : Except PyErr α) = .ok b ↔ a = b :=
  Except.ok.injEq a b ▸ Iff.rfl

/-- `[f(x) for x in xs]` returns what the calls return. -/
theorem mapM_eq_ok {α β : Type} {f : α → Except PyErr β} {xs : List α} {ys : List β} :
    xs.mapM f = .ok ys ↔ List.Forall₂ (fun x y => f x = .ok y) xs ys := by
  induction xs generalizing ys with
  | nil =>
      rw [List.mapM_nil, pure_eq_ok, List.forall₂_nil_left_iff]
      exact eq_comm
  | cons x xs ih =>
      simp only [List.mapM_cons, bind_eq_ok, pure_eq_ok, ih, List.forall₂_cons_left_iff]
      constructor
      · rintro ⟨y, here, ys, rest, rfl⟩
        exact ⟨y, ys, here, rest, rfl⟩
      · rintro ⟨y, ys, here, rest, rfl⟩
        exact ⟨y, here, ys, rest, rfl⟩

theorem forM_eq_ok {α : Type} {f : α → Except PyErr Unit} {xs : List α} :
    xs.forM f = .ok () ↔ ∀ x ∈ xs, f x = .ok () := by
  induction xs with
  | nil => exact ⟨fun _ => nofun, fun _ => rfl⟩
  | cons x xs ih =>
      rw [List.forM.eq_2, bind_eq_ok, List.forall_mem_cons]
      constructor
      · rintro ⟨_, here, rest⟩
        exact ⟨here, ih.mp rest⟩
      · rintro ⟨here, rest⟩
        exact ⟨(), here, ih.mpr rest⟩

/-- The call returned. -/
def succeeded {α : Type} : Except PyErr α → Bool
  | .ok _ => true
  | .error _ => false

theorem succeeded_eq_true {α : Type} {x : Except PyErr α} :
    succeeded x = true ↔ ∃ a, x = .ok a := by
  cases x with
  | ok a => exact ⟨fun _ => ⟨a, rfl⟩, fun _ => rfl⟩
  | error e => exact ⟨nofun, nofun⟩

theorem Except.of_toOption {α : Type} {x : Except PyErr α} {a : α} (same : x.toOption = some a) :
    x = .ok a := by
  cases x with
  | error e => cases same
  | ok b => exact congrArg Except.ok (Option.some.inj same)

/-- `except (ValueError, TypeError, ...)`: the listed classes are replaced. -/
def catching {α : Type} (classes : List ErrClass) (handler : PyErr → PyErr)
    (x : Except PyErr α) : Except PyErr α :=
  match x with
  | .ok a => .ok a
  | .error e => if classes.any e.cls.isA then .error (handler e) else .error e

@[simp] theorem catching_eq_ok {α : Type} {classes : List ErrClass} {handler : PyErr → PyErr}
    {x : Except PyErr α} {a : α} : catching classes handler x = .ok a ↔ x = .ok a := by
  cases x with
  | ok _ => rfl
  | error e =>
      unfold catching
      split
      · rename_i other
        cases other
      · split <;> exact ⟨nofun, nofun⟩

/-- `d[key]`. -/
def Dict.item (d : Dict) (key : Str) : Except PyErr Val :=
  match d.get? key with
  | some v => .ok v
  | none => .error ⟨.keyError, [.str key]⟩

@[simp] theorem Dict.item_eq_ok {d : Dict} {key : Str} {v : Val} :
    d.item key = .ok v ↔ d.get? key = some v := by
  unfold Dict.item
  cases d.get? key with
  | none => exact ⟨nofun, nofun⟩
  | some w => rw [Except.ok.injEq, Option.some.injEq]

/-- `s.encode()`: the bytes or what is raised. -/
def Str.utf8 (s : Str) : Except PyErr Bytes :=
  match s.encode with
  | some b => .ok b
  | none => .error ⟨.unicodeEncodeError, ["'utf-8' codec can't encode: surrogates not allowed"]⟩

theorem Str.utf8_eq_ok {s : Str} {b : Bytes} : s.utf8 = .ok b ↔ s.encode = some b := by
  unfold Str.utf8
  split
  · rename_i encoded
    rw [encoded, Except.ok.injEq, Option.some.injEq]
  · rename_i refused
    rw [refused]
    constructor
    · intro h
      cases h
    · intro h
      cases h

/-- `b.decode("utf-8")`. -/
def Bytes.decode (b : Bytes) : Except PyErr Str :=
  match b.toByteArray.utf8Decode? with
  | some cs => .ok (cs.toList.map CodePoint.ofChar)
  | none => .error ⟨.unicodeDecodeError, ["'utf-8' codec can't decode: invalid byte"]⟩

theorem Str.ofChar_toChar? {s : Str} {cs : List Char}
    (scalars : s.mapM CodePoint.toChar? = some cs) : cs.map CodePoint.ofChar = s := by
  refine Str.mapM_toChar?_inj ?_ scalars
  have chars := Str.mapM_toChar?_ofString (String.ofList cs)
  rwa [Str.ofString, String.toList_ofList] at chars

/-- What was encoded is decoded. -/
theorem Bytes.decode_encode {s : Str} {b : Bytes} (encoded : s.encode = some b) :
    b.decode = .ok s := by
  obtain ⟨cs, scalars, rfl⟩ := Option.map_eq_some_iff.mp encoded
  have read : (cs.flatMap String.utf8EncodeChar).toByteArray.utf8Decode? = some cs.toArray :=
    List.utf8Decode?_utf8Encode
  rw [Bytes.decode, read]
  exact congrArg Except.ok (Str.ofChar_toChar? scalars)

/-- ASCII bytes as the string they encode. -/
def Bytes.ascii (b : Bytes) : Str := b.map fun x => ⟨x.toNat, CodePoint.byte_lt x⟩

theorem Bytes.encode_ascii {b : Bytes} (ascii : ∀ x ∈ b, x < 128) : b.ascii.encode = some b := by
  induction b with
  | nil => rfl
  | cons x b ih =>
      obtain ⟨here, rest⟩ := List.forall_mem_cons.mp ascii
      have split : Bytes.ascii (x :: b) = Bytes.ascii [x] ++ Bytes.ascii b := rfl
      have single : ∀ n : Fin 256, n.val < 128 →
          (Bytes.ascii [UInt8.ofNat n.val]).encode = some [UInt8.ofNat n.val] := by decide +kernel
      have small : x.toNat < 128 := here
      have one := single ⟨x.toNat, x.toNat_lt⟩ small
      rw [UInt8.ofNat_toNat] at one
      rw [split, Str.encode_append, one, ih rest]
      rfl

/-! ## The interpreter -/

structure Runtime where
  /-- The decimal digits outside ASCII. -/
  decimal : CodePoint → Option (Fin 10)
  /-- `str(x)` of a float. -/
  strFloat : PyFloat → Str
  /-- A printed float has a point, an exponent, `inf` or `nan` in it. -/
  strFloat_ne_ofInt : ∀ x n, strFloat x ≠ Str.ofInt n
  /-- `str(v)` of a list or a dict. -/
  strContainer : Val → Except PyErr Str
  /-- `json.dumps(v).encode("utf-8")`. -/
  jsonDumps : Val → Except PyErr Bytes
  /-- `json.dumps(v, separators=(",", ":")).encode("utf-8")`. -/
  jsonCompact : Val → Except PyErr Bytes
  /-- `json.loads(b.decode("utf-8"))`. -/
  jsonLoads : Bytes → Except PyErr Val
  /-- The instant `datetime.fromisoformat(s)` names, in UTC where it names no time zone. -/
  fromIsoFormat : Str → Except PyErr ℚ

/-- What printing an integer past the digit limit raises. -/
def PyErr.digitLimit : PyErr :=
  ⟨.valueError, ["Exceeds the limit (4300 digits) for integer string conversion"]⟩

namespace Runtime

variable (R : Runtime)

/-- `str(v)`. -/
def str : Val → Except PyErr Str
  | .none => .ok "None"
  | .bool b => .ok (if b then "True" else "False")
  | .int n => if Str.printable n then .ok (Str.ofInt n) else .error PyErr.digitLimit
  | .float x => .ok (R.strFloat x)
  | .str s => .ok s
  | v => R.strContainer v

/-- What evaluating one piece of an f-string raises, if anything. -/
def unprintable : MsgPart → Option PyErr
  | .int n => if Str.printable n then none else some PyErr.digitLimit
  | .val v | .valTake _ v | .repr v => match R.str v with
      | .ok _ => none
      | .error e => some e
  | _ => none

/-- The exception `raise C(f"...")` leaves behind: building the text can raise first. -/
def err (cls : ErrClass) (msg : Msg) : PyErr :=
  (msg.findSome? R.unprintable).getD ⟨cls, msg⟩

/-- `int(v)`. -/
def int : Val → Except PyErr ℤ
  | .bool b => .ok (if b then 1 else 0)
  | .int n => .ok n
  | .float (.finite q) => .ok (if 0 ≤ q then ⌊q⌋ else ⌈q⌉)
  | .float (.inf _) =>
      .error ⟨.overflowError, ["cannot convert float infinity to integer"]⟩
  | .float .nan => .error ⟨.valueError, ["cannot convert float NaN to integer"]⟩
  | .str s =>
      match s.toInt? R.decimal 10 with
      | some n => .ok n
      | none =>
          .error ⟨.valueError, ["invalid literal for int() with base 10: ", .str s]⟩
  | _ => .error ⟨.typeError, ["int() argument must be a string or a real number"]⟩

@[simp] theorem str_str (s : Str) : R.str (.str s) = .ok s := rfl

@[simp] theorem int_int (n : ℤ) : R.int (.int n) = .ok n := rfl

theorem str_int {n : ℤ} (h : Str.printable n) : R.str (.int n) = .ok (Str.ofInt n) := if_pos h

theorem str_int_eq_ok {n : ℤ} {s : Str} :
    R.str (.int n) = .ok s ↔ Str.printable n ∧ s = Str.ofInt n := by
  simp only [str]
  split
  · rename_i short
    rw [Except.ok.injEq]
    exact ⟨fun h => ⟨short, h.symm⟩, fun h => h.2.symm⟩
  · rename_i long
    exact ⟨nofun, fun h => absurd h.1 long⟩

/-- A value that prints as an integer and converts to one converts to the printed one. -/
theorem int_of_str_eq {v : Val} {n m : ℤ} (printed : R.str v = .ok (Str.ofInt n))
    (converted : R.int v = .ok m) : m = n := by
  cases v with
  | none => cases converted
  | bool b =>
      cases b
      · exact (Str.ofString_ne_ofInt (s := "False") rfl rfl (by decide)
          (Except.ok.inj printed)).elim
      · exact (Str.ofString_ne_ofInt (s := "True") rfl rfl (by decide)
          (Except.ok.inj printed)).elim
  | int k =>
      cases converted
      simp only [str] at printed
      split at printed
      · exact Str.ofInt_inj.mp (Except.ok.inj printed)
      · cases printed
  | float x => exact (R.strFloat_ne_ofInt x n (Except.ok.inj printed)).elim
  | str s =>
      simp only [str_str, Except.ok.injEq] at printed
      subst printed
      simp only [int] at converted
      split at converted
      · rename_i k parsed
        cases converted
        exact Str.toInt?_ofInt parsed
      · cases converted
  | list xs => cases converted
  | dict d => cases converted

end Runtime

end Uxsp
