import Uxsp.Core.EnvelopeWire
import Uxsp.Core.HandshakeHonest
import Uxsp.Crypto.Errors

/-!
# Malformed envelopes

`Hybrid.verifyEnvelope` is `verify_envelope` with all its parameters, and with the float that
`time.time() - ts` makes of the timestamp; `Hybrid.verifyEnvelope_strict` says when it is the
`verifyEnvelope` that the guards call.

`envelope_errors_iff` says which inputs raise no more than the documented errors.  The others have
an infinite timestamp or one that no float holds, a lone surrogate in a text that is encoded, or a
field that cannot be printed in the message about it.
-/

namespace Uxsp

/-- The texts can be encoded, and no field is longer than a length field can say. -/
structure SealedFields.Bindable (f : SealedFields) : Prop where
  senderId : f.senderId.Bindable
  recipientId : f.recipientId.Bindable
  envelopeNonce : f.envelopeNonce.Bindable
  short : ∀ b ∈ [f.ciphertext, f.nonce, f.ephemeralPub, f.kemCiphertext], b.length < 2 ^ 32

namespace Hybrid

variable (P : Platform)

/-- From here on an integer is too large to convert to a float. -/
def FLOAT_LIMIT : ℕ := 2 ^ 1024 - 2 ^ 970

/-- `time.time() - ts`. -/
def age (now : ℚ) (ts : ℤ) : Except PyErr ℚ :=
  if ts.natAbs < FLOAT_LIMIT then .ok (now - ts)
  else .error ⟨.overflowError, ["int too large to convert to float"]⟩

/-- `envelope.get("pqc_mode") == "none"`. -/
def classicalOnly (envelope : Dict) : Bool := Val.eqStr (envelope.get? "pqc_mode") "none"

/-- The fields that have no default. -/
def required (envelope : Dict) : List String :=
  ["ciphertext", "nonce", "sender_id", "recipient_id", "timestamp", "envelope_nonce",
    "ephemeral_pub", "classical_sig"] ++
      if classicalOnly envelope then [] else ["kem_ciphertext", "pqc_sig"]

/-- The decoded fields of an envelope, and whether it has no post-quantum part. -/
structure OpenContext extends VerifiedContext where
  isClassicalOnly : Bool

def kemField (envelope : Dict) : Except PyErr Bytes :=
  if classicalOnly envelope then .ok [] else hexField envelope "kem_ciphertext"

def decodeFields (envelope : Dict) : Except PyErr SealedBytes := do
  let ciphertext ← hexField envelope "ciphertext"
  let nonce ← hexField envelope "nonce"
  let ephemeralPub ← hexField envelope "ephemeral_pub"
  let kemCiphertext ← kemField envelope
  return ⟨ciphertext, nonce, ephemeralPub, kemCiphertext⟩

/-- `_require_open_context`. -/
def requireOpenContext (envelope : Dict) (expectedRecipientId : Option Str)
    (maxAge clockSkew : ℤ) (allowClassicalOnly : Bool) (now : ℚ) : Except PyErr OpenContext := do
  let R := P.toRuntime
  ensure (Val.eqStr (envelope.get? "version") "UXSP-1") (envelopeInvalid R
    ["Unknown envelope version: ", .val ((envelope.get? "version").getD .none)])
  ensure (!classicalOnly envelope || allowClassicalOnly) (envelopeInvalid R
    ["Classical-only envelope rejected (allow_classical_only=False)."])
  requireFields envelope (required envelope) fun field => envelopeInvalid R
    ["Envelope missing required field: '", field,
      "'. Possible downgrade attack or corrupted envelope."]
  let ts ← intTimestamp R envelope (envelopeInvalid R
    ["Envelope timestamp must be a Unix integer, got ",
      .repr ((envelope.get? "timestamp").getD .none), "."])
  let age ← age now ts
  ensure (age ≤ maxAge) (envelopeInvalid R
    ["Envelope is ", .rounded age, "s old. Possible replay attack."])
  ensure (-clockSkew ≤ age) (envelopeInvalid R
    ["Envelope timestamp is ", .rounded (-age), "s in the future. Clock skew too large."])
  ensure (expectedRecipientId.all fun expected => Val.eqStr (envelope.get? "recipient_id") expected)
    (envelopeInvalid R
      ["Envelope recipient_id '", .val ((envelope.get? "recipient_id").getD .none),
        "' does not match expected '", .str (expectedRecipientId.getD "None"),
        "'. Possible misrouted or replayed envelope."])
  let senderId ← nonEmptyField envelope "sender_id"
  let recipientId ← nonEmptyField envelope "recipient_id"
  let envelopeNonce ← nonEmptyField envelope "envelope_nonce"
  let bytes ← catching [.valueError, .typeError] (fun e => ⟨.envelopeValidationError,
      [.lit "Envelope contains invalid hex data: "] ++ e.msg ++
        [.lit ". Possible malformed or tampered envelope."]⟩)
    (decodeFields envelope)
  return {
    ciphertext := bytes.ciphertext
    nonce := bytes.nonce
    senderId := senderId
    recipientId := recipientId
    timestamp := ts
    envelopeNonce := envelopeNonce
    ephemeralPub := bytes.ephemeralPub
    kemCiphertext := bytes.kemCiphertext
    classicalSig := ← envelope.item "classical_sig"
    pqcSig := (envelope.get? "pqc_sig").getD (.str "")
    isClassicalOnly := classicalOnly envelope }

/-- `hybrid_verify`. -/
def verifySignatures (message : Bytes) (classicalSig pqcSig : Val) (sender : PublicKeys)
    (allowClassicalOnly : Bool) : Except PyErr Bool :=
  if allowClassicalOnly then
    match fromHexVal classicalSig with
    | .ok classical => .ok (P.ed25519Verify sender.signingPub classical message)
    | .error e => .error ⟨.envelopeValidationError,
        [.lit "Signature fields contain invalid hex data: "] ++ e.msg⟩
  else hybridVerify P message classicalSig pqcSig sender

/-- `verify_envelope`. -/
def verifyEnvelope (envelope : Dict) (sender : PublicKeys)
    (expectedRecipientId expectedSenderId : Option Str) (maxAge clockSkew : ℤ)
    (allowClassicalOnly : Bool) (now : ℚ) : Except PyErr OpenContext := do
  let ctx ← requireOpenContext P envelope expectedRecipientId maxAge clockSkew allowClassicalOnly
    now
  ensure (expectedSenderId.all fun expected => ctx.senderId == expected) ⟨.envelopeValidationError,
    ["Envelope sender_id '", .str ctx.senderId, "' does not match expected '",
      .str (expectedSenderId.getD "None"), "'. Possible sender identity confusion attack."]⟩
  let signable ← ctx.signable P.toRuntime
  let signatureOk ← verifySignatures P signable ctx.classicalSig ctx.pqcSig sender
    ctx.isClassicalOnly
  ensure signatureOk ⟨.envelopeValidationError,
    ["Signature verification failed. Envelope tampered or sender identity invalid."]⟩
  return ctx

/-! ## Which envelopes raise what -/

/-- The version is known, the mode is allowed and no required field is missing. -/
structure Headed (envelope : Dict) (allowClassicalOnly : Bool) : Prop where
  version : Val.eqStr (envelope.get? "version") "UXSP-1" = true
  mode : (!classicalOnly envelope || allowClassicalOnly) = true
  fields : ∀ field ∈ required envelope, envelope.has (Str.ofString field) = true

/-- The timestamp of the envelope is one of the window. -/
structure Timely (envelope : Dict) (maxAge clockSkew : ℤ) (now : ℚ) (ts : ℤ) : Prop where
  converts : ∃ v, envelope.get? "timestamp" = some v ∧ P.int v = .ok ts
  small : ts.natAbs < FLOAT_LIMIT
  fresh : now - ts ≤ maxAge
  notFuture : -clockSkew ≤ now - ts

/-- The checks of the metadata raise no more than `EnvelopeValidationError`: what a message shows
can be printed, and the timestamp is no infinity and no integer that a float cannot hold. -/
structure TameContext (envelope : Dict) (expectedRecipientId : Option Str) (maxAge clockSkew : ℤ)
    (allowClassicalOnly : Bool) (now : ℚ) : Prop where
  version : Val.eqStr (envelope.get? "version") "UXSP-1" = false →
    P.Prints [.envelopeValidationError] ((envelope.get? "version").getD .none)
  timestamp : Headed envelope allowClassicalOnly → ∀ v, envelope.get? "timestamp" = some v →
    (∀ negative, v ≠ .float (.inf negative)) ∧ (∀ ts, P.int v = .ok ts → ts.natAbs < FLOAT_LIMIT) ∧
      ∀ e, P.int v = .error e → P.Prints [.envelopeValidationError] v
  recipient : Headed envelope allowClassicalOnly →
    ∀ ts, Timely P envelope maxAge clockSkew now ts → ∀ expected ∈ expectedRecipientId,
      Val.eqStr (envelope.get? "recipient_id") expected = false →
        P.Prints [.envelopeValidationError] ((envelope.get? "recipient_id").getD .none)

/-- The metadata passed, and these are the fields that are bound. -/
structure Opens (envelope : Dict) (expectedRecipientId : Option Str) (maxAge clockSkew : ℤ)
    (allowClassicalOnly : Bool) (now : ℚ) (f : SealedFields) : Prop where
  headed : Headed envelope allowClassicalOnly
  timely : Timely P envelope maxAge clockSkew now f.timestamp
  addressed : ∀ expected ∈ expectedRecipientId, f.recipientId = expected
  senderId : nonEmptyField envelope "sender_id" = .ok f.senderId
  recipientId : nonEmptyField envelope "recipient_id" = .ok f.recipientId
  envelopeNonce : nonEmptyField envelope "envelope_nonce" = .ok f.envelopeNonce
  bytes : decodeFields envelope = .ok ⟨f.ciphertext, f.nonce, f.ephemeralPub, f.kemCiphertext⟩

/-- No envelope that passes the checks of the metadata has a field that cannot be bound. -/
structure Tame (envelope : Dict) (expectedRecipientId expectedSenderId : Option Str)
    (maxAge clockSkew : ℤ) (allowClassicalOnly : Bool) (now : ℚ) : Prop where
  context : TameContext P envelope expectedRecipientId maxAge clockSkew allowClassicalOnly now
  fields : ∀ f, Opens P envelope expectedRecipientId maxAge clockSkew allowClassicalOnly now f →
    (∀ expected ∈ expectedSenderId, f.senderId = expected) → f.Bindable

variable {P} {envelope : Dict} {sender : PublicKeys} {maxAge clockSkew ts : ℤ} {now : ℚ}
  {expectedRecipientId expectedSenderId : Option Str} {allowClassicalOnly : Bool}

theorem age_eq_ok {x : ℚ} : age now ts = .ok x ↔ ts.natAbs < FLOAT_LIMIT ∧ x = now - ts := by
  unfold age
  split
  · rename_i small
    rw [Except.ok.injEq]
    exact ⟨fun same => ⟨small, same.symm⟩, fun h => h.2.symm⟩
  · rename_i large
    exact ⟨nofun, fun h => absurd h.1 large⟩

theorem raises_age : Raises [.envelopeValidationError] (age now ts) ↔ ts.natAbs < FLOAT_LIMIT := by
  unfold age
  split
  · rename_i small
    exact ⟨fun _ => small, fun _ => raises_ok _⟩
  · rename_i large
    rw [raises_error]
    exact ⟨nofun, fun small => absurd small large⟩

theorem raises_requireFields {fields : List String} {missing : String → PyErr}
    {classes : List ErrClass} (declared : ∀ field, (missing field).cls.among classes = true) :
    Raises classes (requireFields envelope fields missing) := by
  unfold requireFields
  split
  · exact raises_error.mpr (declared _)
  · exact raises_ok ()

theorem raises_nonEmptyField (field : String) :
    Raises [.envelopeValidationError] (nonEmptyField envelope field) := by
  unfold nonEmptyField
  split
  · exact raises_ok _
  · exact raises_error.mpr rfl

theorem mem_required {field : String} (mem : field ∈ ["ciphertext", "nonce", "sender_id",
    "recipient_id", "timestamp", "envelope_nonce", "ephemeral_pub", "classical_sig"]) :
    field ∈ required envelope := List.mem_append_left _ mem

theorem raises_decodeFields
    (fields : ∀ field ∈ required envelope, envelope.has (Str.ofString field) = true) :
    Raises [.valueError, .typeError] (decodeFields envelope) := by
  have field : ∀ f ∈ ["ciphertext", "nonce", "ephemeral_pub"],
      Raises [.valueError, .typeError] (hexField envelope (Str.ofString f)) := by
    intro f mem
    refine raises_hexField (fields f (mem_required ?_))
    revert f
    decide
  have kem : Raises [.valueError, .typeError] (kemField envelope) := by
    unfold kemField
    split
    · exact raises_ok _
    · rename_i hybrid
      refine raises_hexField (fields _ (List.mem_append_right _ ?_))
      rw [if_neg hybrid]
      exact List.mem_cons_self
  simp only [decodeFields, raises_bind, raises_pure, implies_true, and_true]
  exact ⟨field _ (by decide), fun _ _ => ⟨field _ (by decide), fun _ _ =>
    ⟨field _ (by decide), fun _ _ => kem⟩⟩⟩

theorem raises_intTimestamp {R : Runtime} {invalid : PyErr} {v : Val} {classes : List ErrClass}
    (found : envelope.get? "timestamp" = some v)
    (hidden : ErrClass.overflowError.among ([.typeError, .valueError] ++ classes) = false) :
    Raises classes (intTimestamp R envelope invalid) ↔
      (∀ negative, v ≠ .float (.inf negative)) ∧
        ∀ e, R.int v = .error e → invalid.cls.among classes = true := by
  have item : envelope.item "timestamp" = .ok v := Dict.item_eq_ok.mpr found
  rw [intTimestamp, item]
  exact R.raises_caught_int (fun _ mem => mem) hidden

/-- Once every field is there, what is left of the metadata checks raises only its own errors. -/
theorem raises_caughtFields {classes : List ErrClass} {handler : PyErr → PyErr}
    (fields : ∀ field ∈ required envelope, envelope.has (Str.ofString field) = true)
    (declared : ∀ e, (handler e).cls.among classes = true) :
    Raises classes (catching [.valueError, .typeError] handler (decodeFields envelope)) := by
  rw [raises_catching_of declared]
  exact (raises_decodeFields fields).mono fun _ mem => List.mem_append_left _ mem

theorem raises_requireOpenContext : Raises [.envelopeValidationError]
    (requireOpenContext P envelope expectedRecipientId maxAge clockSkew allowClassicalOnly now) ↔
      TameContext P envelope expectedRecipientId maxAge clockSkew allowClassicalOnly now := by
  have declared : ErrClass.envelopeValidationError.among [.envelopeValidationError] = true := rfl
  simp only [requireOpenContext, raises_bind, raises_ensure, ensure_eq_ok, forall_const,
    requireFields_eq_ok, age_eq_ok, raises_age, raises_pure, envelopeInvalid,
    Runtime.among_err_lit, Runtime.among_err_val, Runtime.among_err_str, Runtime.among_err_rounded,
    Runtime.among_err_nil, raises_nonEmptyField, decide_eq_true_eq, declared, implies_true,
    and_true, true_and]
  constructor
  · rintro ⟨version, rest⟩
    refine ⟨version, fun headed v found => ?_, fun headed ts timely expected mem other => ?_⟩
    · obtain ⟨caught, later⟩ := (rest headed.version headed.mode).2 headed.fields
      obtain ⟨finite, shown⟩ := (raises_intTimestamp found rfl).mp caught
      refine ⟨finite, fun ts converted => ?_, fun e raised => ?_⟩
      · exact (later ts (intTimestamp_eq_ok.mpr ⟨v, found, converted⟩)).1
      · have prints := shown e raised
        rw [Runtime.among_err_lit, Runtime.among_err_repr, found] at prints
        exact prints.1
    · obtain ⟨-, later⟩ := (rest headed.version headed.mode).2 headed.fields
      have tail := (later ts (intTimestamp_eq_ok.mpr timely.converts)).2 _ ⟨timely.small, rfl⟩
        timely.fresh timely.notFuture
      rw [Option.mem_def.mp mem, Option.all_some] at tail
      exact tail.1 other
  · rintro ⟨version, timestamp, recipient⟩
    refine ⟨version, fun known allowed => ⟨raises_requireFields fun _ => rfl, fun fields => ?_⟩⟩
    have headed : Headed envelope allowClassicalOnly := ⟨known, allowed, fields⟩
    obtain ⟨v, found⟩ := Option.isSome_iff_exists.mp (fields "timestamp" (mem_required (by decide)))
    obtain ⟨finite, small, prints⟩ := timestamp headed v found
    constructor
    · refine (raises_intTimestamp found rfl).mpr ⟨finite, fun e raised => ?_⟩
      rw [Runtime.among_err_lit, Runtime.among_err_repr, found]
      exact ⟨prints e raised, fun _ _ => rfl⟩
    · intro ts converted
      obtain ⟨w, held, converts⟩ := intTimestamp_eq_ok.mp converted
      obtain rfl := Option.some.inj (found.symm.trans held)
      refine ⟨small ts converts, ?_⟩
      rintro _ ⟨fits, rfl⟩ fresh notFuture
      refine ⟨fun other => ?_, fun _ _ _ _ _ _ _ => ⟨raises_caughtFields fields fun _ => rfl,
        fun _ _ => Dict.raises_item_of_has (fields _ (mem_required (by decide)))⟩⟩
      cases expectedRecipientId with
      | none => cases other
      | some expected =>
          have timely : Timely P envelope maxAge clockSkew now ts :=
            ⟨⟨v, found, converts⟩, fits, fresh, notFuture⟩
          exact recipient headed ts timely expected rfl other

theorem exists_requireOpenContext {f : SealedFields} :
    (∃ ctx, requireOpenContext P envelope expectedRecipientId maxAge clockSkew allowClassicalOnly
      now = .ok ctx ∧ ctx.toSealedFields = f) ↔
      Opens P envelope expectedRecipientId maxAge clockSkew allowClassicalOnly now f := by
  simp only [requireOpenContext, bind_eq_ok, ensure_eq_ok, requireFields_eq_ok, intTimestamp_eq_ok,
    age_eq_ok, catching_eq_ok, pure_eq_ok, Dict.item_eq_ok, decide_eq_true_eq]
  constructor
  · rintro ⟨ctx, ⟨_, version, _, mode, _, fields, ts, converts, x, ⟨small, rfl⟩, _, fresh, _,
      notFuture, _, addressed, s, hs, r, hr, n, hn, bytes, hb, c, hc, rfl⟩, rfl⟩
    refine ⟨⟨version, mode, fields⟩, ⟨converts, small, fresh, notFuture⟩, ?_, hs, hr, hn, hb⟩
    intro expected mem
    rw [Option.mem_def.mp mem, Option.all_some, Val.eqStr_eq_true,
      (nonEmptyField_eq_ok.mp hr).1] at addressed
    exact Val.str.inj (Option.some.inj addressed)
  · rintro ⟨headed, timely, addressed, hs, hr, hn, hb⟩
    obtain ⟨c, hc⟩ := Option.isSome_iff_exists.mp
      (headed.fields "classical_sig" (mem_required (by decide)))
    refine ⟨_, ⟨(), headed.version, (), headed.mode, (), headed.fields, f.timestamp,
      timely.converts, _, ⟨timely.small, rfl⟩, (), timely.fresh, (), timely.notFuture, (), ?_,
      _, hs, _, hr, _, hn, _, hb, c, hc, rfl⟩, rfl⟩
    cases expectedRecipientId with
    | none => rfl
    | some expected =>
        rw [Option.all_some, Val.eqStr_eq_true, (nonEmptyField_eq_ok.mp hr).1,
          addressed expected rfl]

/-- A number that a float holds is printed. -/
theorem printable_of_small (small : ts.natAbs < FLOAT_LIMIT) : Str.printable ts := by
  have few : Str.printable (ts.natAbs : ℤ) :=
    Str.printable_of_lt (k := 310) (small.trans (by decide +kernel)) (by decide) (by decide)
  unfold Str.printable at few ⊢
  rwa [Int.natAbs_natCast] at few

/-- The fields as they are signed are the encoded ones, or their binding is refused. -/
theorem raises_signable {f : SealedFields} (small : f.timestamp.natAbs < FLOAT_LIMIT) :
    Raises [.envelopeValidationError] (f.signable P.toRuntime) ↔ f.Bindable := by
  obtain ⟨time, et, lt⟩ := Str.bindable_ofInt (printable_of_small small)
  have stamp : timestampBytes P.toRuntime f.timestamp = .ok time :=
    timestampBytes_eq_ok.mpr ⟨printable_of_small small, et⟩
  have encodes : ∀ s : Str, Raises [.envelopeValidationError] s.utf8 ↔ ∃ b, s.encode = some b :=
    fun _ => Str.raises_utf8 rfl
  have bound : ∀ fs : List Bytes, Raises [.envelopeValidationError] (bindFields fs) ↔
      ∀ f ∈ fs, f.length < 2 ^ 32 := fun _ => raises_bindFields.trans (or_iff_left (by decide))
  simp only [SealedFields.signable, raises_bind, encodes, Str.utf8_eq_ok, stamp, raises_ok,
    Except.ok.injEq, forall_eq', true_and, bound, List.forall_mem_cons,
    List.not_mem_nil, IsEmpty.forall_iff, implies_true, and_true]
  constructor
  · rintro ⟨⟨s, es⟩, later⟩
    obtain ⟨⟨r, er⟩, later⟩ := later s es
    obtain ⟨⟨n, en⟩, later⟩ := later r er
    obtain ⟨-, hc, hb, hs, hr, -, hn, he, hk⟩ := later n en
    refine ⟨⟨s, es, hs⟩, ⟨r, er, hr⟩, ⟨n, en, hn⟩, ?_⟩
    simp only [List.forall_mem_cons, List.not_mem_nil, IsEmpty.forall_iff, implies_true, and_true]
    exact ⟨hc, hb, he, hk⟩
  · rintro ⟨⟨s, es, hs⟩, ⟨r, er, hr⟩, ⟨n, en, hn⟩, short⟩
    simp only [List.forall_mem_cons, List.not_mem_nil, IsEmpty.forall_iff, implies_true,
      and_true] at short
    obtain ⟨hc, hb, he, hk⟩ := short
    have tag : (Bytes.lit "UXSP-1").length < 2 ^ 32 := by decide
    simp only [es, er, en, Option.some.injEq, exists_eq', true_and, forall_eq']
    exact ⟨tag, hc, hb, hs, hr, lt, hn, he, hk⟩

theorem raises_verifySignatures (installed : P.Installed)
    {message : Bytes} {classicalSig pqcSig : Val} : Raises [.envelopeValidationError]
      (verifySignatures P message classicalSig pqcSig sender allowClassicalOnly) := by
  unfold verifySignatures
  split
  · split
    · exact raises_ok _
    · exact raises_error.mpr rfl
  · exact raises_hybridVerify installed

/-- A call of `verify_envelope` raises no more than `EnvelopeValidationError` exactly if the
envelope is tame. -/
theorem raises_verifyEnvelope (installed : P.Installed) :
    Raises [.envelopeValidationError] (verifyEnvelope P envelope sender expectedRecipientId
      expectedSenderId maxAge clockSkew allowClassicalOnly now) ↔ Tame P envelope
        expectedRecipientId expectedSenderId maxAge clockSkew allowClassicalOnly now := by
  have matched : ∀ {ctx : OpenContext}, (expectedSenderId.all fun x => ctx.senderId == x) = true ↔
      ∀ expected ∈ expectedSenderId, ctx.senderId = expected := by
    intro ctx
    cases expectedSenderId with
    | none => exact ⟨fun _ => nofun, fun _ => rfl⟩
    | some x =>
        rw [Option.all_some, beq_iff_eq]
        exact ⟨fun same y mem => same.trans (Option.some.inj mem), fun h => h x rfl⟩
  have declared : ErrClass.envelopeValidationError.among [.envelopeValidationError] = true := rfl
  simp only [verifyEnvelope, raises_bind, raises_ensure, ensure_eq_ok, forall_const, raises_pure,
    raises_verifySignatures installed, raises_requireOpenContext, declared, implies_true, and_true,
    true_and, matched]
  constructor
  · rintro ⟨context, later⟩
    refine ⟨context, fun f opens sent => ?_⟩
    obtain ⟨ctx, opened, rfl⟩ := exists_requireOpenContext.mpr opens
    exact (raises_signable opens.timely.small).mp (later ctx opened sent)
  · rintro ⟨context, fields⟩
    refine ⟨context, fun ctx opened sent => ?_⟩
    have opens := exists_requireOpenContext.mp ⟨ctx, opened, rfl⟩
    exact (raises_signable opens.timely.small).mpr (fields _ opens sent)

/-! ## The call of the guards -/

theorem required_strict (hybrid : classicalOnly envelope = false) :
    required envelope = SEAL_REQUIRED := by
  rw [required, hybrid]
  rfl

theorem decodeFields_strict (hybrid : classicalOnly envelope = false) :
    decodeFields envelope = decodeHexFields envelope := by
  unfold decodeFields decodeHexFields kemField
  rw [hybrid]
  rfl

/-- Where both ids are expected and the two signatures are asked for, a timestamp that a float holds
is read as the guards read it. -/
theorem requireOpenContext_strict {recipientId : Str} {maxAge clockSkew : ℤ} {now : ℚ}
    {ctx : OpenContext} :
    requireOpenContext P envelope (some recipientId) maxAge clockSkew false now = .ok ctx ↔
      Uxsp.requireOpenContext P envelope recipientId maxAge clockSkew now =
        .ok ctx.toVerifiedContext ∧
          ctx.isClassicalOnly = false ∧ ctx.timestamp.natAbs < FLOAT_LIMIT := by
  simp only [requireOpenContext, Uxsp.requireOpenContext, bind_eq_ok, ensure_eq_ok, pure_eq_ok,
    requireFields_eq_ok, age_eq_ok, catching_eq_ok, Option.all_some, Bool.or_false, Dict.item_eq_ok,
    decide_eq_true_eq]
  constructor
  · rintro ⟨_, version, _, mode, _, fields, ts, stamped, _, ⟨small, rfl⟩, _, fresh, _, notFuture, _,
      addressed, s, hs, r, hr, n, hn, bytes, hb, c, hc, rfl⟩
    have strict : classicalOnly envelope = false := (Bool.not_eq_eq_eq_not.mp mode)
    rw [required_strict strict] at fields
    rw [decodeFields_strict strict] at hb
    obtain ⟨p, hp⟩ := Option.isSome_iff_exists.mp (fields "pqc_sig" (by decide))
    refine ⟨⟨(), version, (), mode, (), fields, ts, stamped, (), fresh, (), notFuture, (),
      addressed, s, hs, r, hr, n, hn, bytes, hb, c, hc, p, hp, ?_⟩, strict, small⟩
    rw [hp, Option.getD_some]
  · rintro ⟨⟨_, version, _, mode, _, fields, ts, stamped, _, fresh, _, notFuture, _, addressed,
      s, hs, r, hr, n, hn, bytes, hb, c, hc, p, hp, same⟩, hybrid, small⟩
    have strict : classicalOnly envelope = false := (Bool.not_eq_eq_eq_not.mp mode)
    obtain ⟨ctx, isClassicalOnly⟩ := ctx
    cases same
    refine ⟨(), version, (), mode, (), ?_, ts, stamped, _, ⟨small, rfl⟩, (), fresh, (), notFuture,
      (), addressed, s, hs, r, hr, n, hn, bytes, ?_, c, hc, ?_⟩
    · rwa [required_strict strict]
    · rwa [decodeFields_strict strict]
    · rw [hp, Option.getD_some, strict, ← hybrid]

/-- With both ids expected the call is the one of the guards, on a timestamp that a float holds. -/
theorem verifyEnvelope_strict {recipientId senderId : Str} {maxAge clockSkew : ℤ} {now : ℚ}
    {ctx : OpenContext} :
    verifyEnvelope P envelope sender (some recipientId) (some senderId) maxAge clockSkew false now =
        .ok ctx ↔
      Uxsp.verifyEnvelope P envelope sender recipientId senderId maxAge clockSkew now =
        .ok ctx.toVerifiedContext ∧
          ctx.isClassicalOnly = false ∧ ctx.timestamp.natAbs < FLOAT_LIMIT := by
  simp only [verifyEnvelope, Uxsp.verifyEnvelope, bind_eq_ok, ensure_eq_ok, pure_eq_ok,
    Option.all_some, requireOpenContext_strict]
  constructor
  · rintro ⟨_, ⟨opened, hybrid, small⟩, _, sent, b, signable, ok, accepted, _, valid, rfl⟩
    rw [hybrid] at accepted
    exact ⟨⟨_, opened, (), sent, b, signable, ok, accepted, (), valid, rfl⟩, hybrid, small⟩
  · rintro ⟨⟨_, opened, _, sent, b, signable, ok, accepted, _, valid, rfl⟩, hybrid, small⟩
    refine ⟨ctx, ⟨opened, hybrid, small⟩, (), sent, b, signable, ok, ?_, (), valid, rfl⟩
    rwa [hybrid]

end Hybrid

namespace Envelope

/-! ## Which texts raise what -/

/-- What a caller of `from_json` is told to catch. -/
def DECLARED : List ErrClass := [.envelopeFormatError, .envelopeTooLargeError]

/-- The fields that hold a text. -/
def STRING_FIELDS : List String :=
  ["version", "sender_id", "recipient_id", "envelope_nonce", "ciphertext", "nonce",
    "ephemeral_pub", "kem_ciphertext", "classical_sig", "pqc_sig"]

/-- No required field is missing, the texts are texts and the version is known. -/
structure Shaped (data : Dict) : Prop where
  fields : ∀ field ∈ REQUIRED_FIELDS, data.has (Str.ofString field) = true
  texts : ∀ field ∈ STRING_FIELDS, ∃ s, data.get? (Str.ofString field) = some (.str s)
  version : data.get? "version" = some (.str UXSP_VERSION)

variable (R : Runtime) (loadsRaw : Bytes → Except PyErr Val) (maxBytes : Option ℤ)

/-- A dict of the right shape can be measured, and its timestamp is no infinity and can be printed
where it is no number. -/
structure TameDict (data : Dict) : Prop where
  measured : Shaped data → Raises DECLARED (R.jsonCompact (.dict data))
  timestamp : Shaped data → ∀ text, R.jsonCompact (.dict data) = .ok text →
    text.length ≤ limit maxBytes → ∀ v, data.get? "timestamp" = some v →
      (∀ negative, v ≠ .float (.inf negative)) ∧
        ∀ e, R.int v = .error e → R.Prints DECLARED v

/-- A text within the limit has no lone surrogate, `json.loads` raises nothing but
`JSONDecodeError` on it, and a dict in it is tame. -/
structure TameText (jsonStr : Str) : Prop where
  encodes : jsonStr.length ≤ limit maxBytes → ∃ raw, jsonStr.encode = some raw
  loads : jsonStr.length ≤ limit maxBytes → ∀ raw, jsonStr.encode = some raw →
    raw.length ≤ limit maxBytes → Raises (.jsonDecodeError :: DECLARED) (loadsRaw raw) ∧
      ∀ data, loadsRaw raw = .ok (.dict data) → TameDict R maxBytes data

variable {R loadsRaw maxBytes} {data : Dict} {jsonStr : Str}

theorem raises_stringFields
    (fields : ∀ field ∈ REQUIRED_FIELDS, data.has (Str.ofString field) = true) :
    Raises DECLARED (stringFields data) := by
  have field : ∀ f ∈ STRING_FIELDS, Raises DECLARED (stringField data f) := by
    intro f mem
    have required : ∀ f ∈ STRING_FIELDS, f ∈ REQUIRED_FIELDS := by decide
    obtain ⟨v, found⟩ := Option.isSome_iff_exists.mp (fields f (required f mem))
    unfold stringField
    split
    · exact raises_ok _
    · exact raises_error.mpr rfl
    · rename_i absent
      rw [found] at absent
      cases absent
  simp only [STRING_FIELDS, List.forall_mem_cons, List.not_mem_nil, IsEmpty.forall_iff,
    implies_true, and_true] at field
  obtain ⟨v, s, r, n, c, o, p, k, cs, ps⟩ := field
  simp only [stringFields, raises_bind, raises_pure, implies_true, and_true, *]

theorem exists_stringFields : (∃ s, stringFields data = .ok s ∧ s.version = UXSP_VERSION) ↔
    (∀ field ∈ STRING_FIELDS, ∃ s, data.get? (Str.ofString field) = some (.str s)) ∧
      data.get? "version" = some (.str UXSP_VERSION) := by
  simp only [STRING_FIELDS, stringFields, bind_eq_ok, pure_eq_ok, stringField_eq_ok,
    List.forall_mem_cons, List.not_mem_nil, IsEmpty.forall_iff, implies_true, and_true]
  constructor
  · rintro ⟨_, ⟨v, hv, s, hs, r, hr, n, hn, c, hc, o, ho, p, hp, k, hk, cs, hcs, ps, hps, rfl⟩, rfl⟩
    exact ⟨⟨⟨_, hv⟩, ⟨s, hs⟩, ⟨r, hr⟩, ⟨n, hn⟩, ⟨c, hc⟩, ⟨o, ho⟩, ⟨p, hp⟩, ⟨k, hk⟩, ⟨cs, hcs⟩,
      ps, hps⟩, hv⟩
  · rintro ⟨⟨-, ⟨s, hs⟩, ⟨r, hr⟩, ⟨n, hn⟩, ⟨c, hc⟩, ⟨o, ho⟩, ⟨p, hp⟩, ⟨k, hk⟩, ⟨cs, hcs⟩, ps, hps⟩,
      hv⟩
    exact ⟨_, ⟨_, hv, s, hs, r, hr, n, hn, c, hc, o, ho, p, hp, k, hk, cs, hcs, ps, hps, rfl⟩, rfl⟩

theorem raises_fromDictMax :
    Raises DECLARED (fromDictMax R maxBytes (.dict data)) ↔ TameDict R maxBytes data := by
  have format : ErrClass.envelopeFormatError.among DECLARED = true := rfl
  have large : ErrClass.envelopeTooLargeError.among DECLARED = true := rfl
  have missing : (REQUIRED_FIELDS.filter fun (field : String) => !Dict.has data field).isEmpty =
      true ↔ ∀ field ∈ REQUIRED_FIELDS, data.has (Str.ofString field) = true := by
    simp only [List.isEmpty_iff, List.filter_eq_nil_iff, Bool.not_eq_true', Bool.not_eq_false]
  simp only [fromDictMax, raises_bind, raises_ensure, ensure_eq_ok, forall_const, raises_pure,
    format, large, implies_true, and_true, true_and, missing, beq_iff_eq, decide_eq_true_eq]
  constructor
  · intro rest
    have shaped : Shaped data → Raises DECLARED (R.jsonCompact (.dict data)) ∧
        ∀ text, R.jsonCompact (.dict data) = .ok text → text.length ≤ limit maxBytes →
          Raises DECLARED (intTimestamp R data (R.err .envelopeFormatError
            ["Invalid timestamp value: '", .val ((Dict.get? data "timestamp").getD .none),
              "'. Must be a Unix integer."])) := by
      intro shaped
      obtain ⟨s, strings, version⟩ := exists_stringFields.mpr ⟨shaped.texts, shaped.version⟩
      exact (rest shaped.fields).2 s strings version
    refine ⟨fun h => (shaped h).1, fun h text compact fits v found => ?_⟩
    obtain ⟨finite, shown⟩ :=
      (Hybrid.raises_intTimestamp found rfl).mp ((shaped h).2 text compact fits)
    refine ⟨finite, fun e raised => ?_⟩
    have prints := shown e raised
    rw [Runtime.among_err_lit, Runtime.among_err_val, found] at prints
    exact prints.1
  · rintro ⟨measured, timestamp⟩ fields
    refine ⟨raises_stringFields fields, fun s strings version => ?_⟩
    obtain ⟨texts, known⟩ := exists_stringFields.mp ⟨s, strings, version⟩
    have shaped : Shaped data := ⟨fields, texts, known⟩
    refine ⟨measured shaped, fun text compact fits => ?_⟩
    obtain ⟨v, found⟩ := Option.isSome_iff_exists.mp (fields "timestamp" (by decide))
    obtain ⟨finite, prints⟩ := timestamp shaped text compact fits v found
    refine (Hybrid.raises_intTimestamp found rfl).mpr ⟨finite, fun e raised => ?_⟩
    rw [Runtime.among_err_lit, Runtime.among_err_val, found]
    exact ⟨prints e raised, fun _ _ => rfl⟩

theorem raises_fromJson :
    Raises DECLARED (fromJson R loadsRaw maxBytes jsonStr) ↔
      TameText R loadsRaw maxBytes jsonStr := by
  have format : ErrClass.envelopeFormatError.among DECLARED = true := rfl
  have large : ErrClass.envelopeTooLargeError.among DECLARED = true := rfl
  have encodes : Raises DECLARED jsonStr.utf8 ↔ ∃ raw, jsonStr.encode = some raw :=
    Str.raises_utf8 rfl
  simp only [fromJson, raises_bind, raises_ensure, ensure_eq_ok, forall_const, large,
    implies_true, true_and, decide_eq_true_eq, encodes, Str.utf8_eq_ok, catching_eq_ok]
  constructor
  · intro rest
    refine ⟨fun short => (rest short).1, fun short raw encoded fits => ?_⟩
    obtain ⟨loads, later⟩ := (rest short).2 raw encoded fits
    refine ⟨(raises_catching_of fun _ => format).mp loads, fun data read => ?_⟩
    exact raises_fromDictMax.mp (later _ read)
  · rintro ⟨encodable, loads⟩ short
    refine ⟨encodable short, fun raw encoded fits => ?_⟩
    obtain ⟨caught, dicts⟩ := loads short raw encoded fits
    refine ⟨(raises_catching_of fun _ => format).mpr caught, fun v read => ?_⟩
    cases v with
    | dict data =>
        have tame : Raises DECLARED (fromDictMax R maxBytes (.dict data)) :=
          raises_fromDictMax.mpr (dicts data read)
        exact tame
    | _ => exact raises_error.mpr format

theorem raises_fromBytes {raw : Bytes} : Raises DECLARED (fromBytes R loadsRaw maxBytes raw) ↔
    ∀ text, raw.decode = .ok text → TameText R loadsRaw maxBytes text := by
  have decodes : Raises ([.unicodeDecodeError] ++ DECLARED) raw.decode := by
    unfold Bytes.decode
    split
    · exact raises_ok _
    · exact raises_error.mpr rfl
  simp only [fromBytes, raises_bind, catching_eq_ok, raises_fromJson]
  exact ⟨fun h => h.2, fun tame => ⟨(raises_catching_of fun _ => rfl).mpr decodes, tame⟩⟩

end Envelope

variable {P : Platform} {envelope : Dict} {sender : PublicKeys}

/-- Where a signature algorithm is installed, exactly the tame inputs raise no more than the
documented errors. -/
theorem envelope_errors_iff (installed : P.Installed)
    (expectedRecipientId expectedSenderId : Option Str) (maxAge clockSkew : ℤ)
    (allowClassicalOnly : Bool) (now : ℚ) (loadsRaw : Bytes → Except PyErr Val)
    (maxBytes : Option ℤ) (jsonStr : Str) (raw : Bytes) :
    (Raises [.envelopeValidationError] (Hybrid.verifyEnvelope P envelope sender expectedRecipientId
        expectedSenderId maxAge clockSkew allowClassicalOnly now) ↔
      Hybrid.Tame P envelope expectedRecipientId expectedSenderId maxAge clockSkew
        allowClassicalOnly now) ∧
    (Raises Envelope.DECLARED (Envelope.fromJson P.toRuntime loadsRaw maxBytes jsonStr) ↔
      Envelope.TameText P.toRuntime loadsRaw maxBytes jsonStr) ∧
    (Raises Envelope.DECLARED (Envelope.fromBytes P.toRuntime loadsRaw maxBytes raw) ↔
      ∀ text, raw.decode = .ok text → Envelope.TameText P.toRuntime loadsRaw maxBytes text) :=
  ⟨Hybrid.raises_verifyEnvelope installed, Envelope.raises_fromJson, Envelope.raises_fromBytes⟩

/-- An envelope with empty hex fields. -/
def sampleEnvelope (timestamp : Val) (senderId : Str) : Dict :=
  [("version", .str "UXSP-1"), ("sender_id", .str senderId), ("recipient_id", .str "bob"),
    ("timestamp", timestamp), ("envelope_nonce", .str "n"), ("ciphertext", .str ""),
    ("nonce", .str ""), ("ephemeral_pub", .str ""), ("kem_ciphertext", .str ""),
    ("classical_sig", .str ""), ("pqc_sig", .str "")]

theorem headed_sampleEnvelope (timestamp : Val) (senderId : Str) :
    Hybrid.Headed (sampleEnvelope timestamp senderId) false where
  version := rfl
  mode := rfl
  fields := by
    intro field mem
    simp [Hybrid.required, Hybrid.classicalOnly, sampleEnvelope, Val.eqStr] at mem
    rcases mem with rfl | rfl | rfl | rfl | rfl | rfl | rfl | rfl | rfl | rfl <;>
      simp [sampleEnvelope, Dict.has]

/-- An unknown version is reported as an invalid envelope. -/
theorem sample_version_raises : Raises [.envelopeValidationError] (Hybrid.verifyEnvelope
    Platform.transparent [("version", .str "UXSP-2")] ⟨[], [], [], []⟩ none none 300 30 false 0) :=
  (envelope_errors_iff Platform.transparent_installed none none 300 30 false 0 (fun _ => .ok .none)
    none [] []).1.mpr {
      context := {
        version := fun _ => raises_ok _
        timestamp := fun headed => absurd headed.version (by decide)
        recipient := fun headed => absurd headed.version (by decide) }
      fields := fun f opens => absurd opens.headed.version (by decide) }

/-- An infinite timestamp, a sender id with a lone surrogate and a text with one. -/
theorem sample_errors_escape :
    ¬ Raises [.envelopeValidationError] (Hybrid.verifyEnvelope Platform.transparent
      (sampleEnvelope (.float (.inf false)) "alice") ⟨[], [], [], []⟩ none none 300 30 false 0) ∧
    ¬ Raises [.envelopeValidationError] (Hybrid.verifyEnvelope Platform.transparent
      (sampleEnvelope (.int 0) [0xD800]) ⟨[], [], [], []⟩ none none 300 30 false 0) ∧
    ¬ Raises Envelope.DECLARED (Envelope.fromJson Platform.transparent.toRuntime
      (fun _ => .ok .none) none [0xD800]) := by
  have surrogate : Str.encode [0xD800] = none := by decide
  refine ⟨fun raises => ?_, fun raises => ?_, fun raises => ?_⟩
  · have tame := (Hybrid.raises_verifyEnvelope Platform.transparent_installed).mp raises
    have stamp := tame.context.timestamp (headed_sampleEnvelope _ _) (.float (.inf false))
      (by simp [sampleEnvelope])
    exact stamp.1 false rfl
  · have tame := (Hybrid.raises_verifyEnvelope Platform.transparent_installed).mp raises
    have bindable := tame.fields ⟨[], [], [0xD800], "bob", 0, "n", [], []⟩ {
      headed := headed_sampleEnvelope _ _
      timely := {
        converts := ⟨.int 0, by simp [sampleEnvelope], rfl⟩
        small := by decide +kernel
        fresh := by norm_num
        notFuture := by norm_num }
      addressed := nofun
      senderId := rfl
      recipientId := rfl
      envelopeNonce := rfl
      bytes := rfl } nofun
    obtain ⟨raw, encoded, -⟩ := bindable.senderId
    cases surrogate.symm.trans encoded
  · obtain ⟨raw, encoded⟩ := (Envelope.raises_fromJson.mp raises).encodes (by decide)
    cases surrogate.symm.trans encoded

end Uxsp
