import Uxsp.Core.Envelope
import Uxsp.Python.JsonText

/-!
# `uxsp.core.envelope`: reading and writing

`from_dict` measures the compact text of the dict it is given, `to_bytes` writes a text with a space
behind every comma and colon, and `from_bytes` measures the text it reads.  `Envelope.compactSize`
is how long the compact text of an envelope is; the text that is written has 21 bytes more.

`fromBytes_toBytes_iff` says when an envelope that was written is read back under a limit.
-/

namespace Uxsp

/-- `json.loads(raw)` of bytes takes a text without zero bytes for UTF-8. -/
def Runtime.LoadsRaw (R : Runtime) (loadsRaw : Bytes → Except PyErr Val) : Prop :=
  ∀ {raw : Bytes}, (∀ x ∈ raw, 0 < x ∧ x < 128) → loadsRaw raw = R.jsonLoads raw

namespace Envelope

/-- The limit of a call, `MAX_BYTES` where `max_bytes` is `None`. -/
def limit (maxBytes : Option ℤ) : ℤ := maxBytes.getD MAX_BYTES

/-- `from_dict` with a limit. -/
def fromDictMax (R : Runtime) (maxBytes : Option ℤ) : Val → Except PyErr Envelope
  | .dict data => do
      let missing := REQUIRED_FIELDS.filter fun (field : String) => !Dict.has data field
      ensure missing.isEmpty ⟨.envelopeFormatError, ["Envelope missing required fields: ",
        .names missing, ". Was this produced by UXSP seal()?"]⟩
      let s ← stringFields data
      ensure (s.version == UXSP_VERSION) ⟨.envelopeFormatError,
        ["Unknown envelope version '", .str s.version, "'. Expected '", .str UXSP_VERSION, "'."]⟩
      let text ← R.jsonCompact (.dict data)
      ensure (text.length ≤ limit maxBytes) ⟨.envelopeTooLargeError, ["Envelope total data (",
        .int text.length, " bytes) exceeds limit of ", .int (limit maxBytes), " bytes."]⟩
      let timestamp ← intTimestamp R data (R.err .envelopeFormatError
        ["Invalid timestamp value: '", .val ((Dict.get? data "timestamp").getD .none),
          "'. Must be a Unix integer."])
      return {
        version := s.version
        senderId := s.senderId
        recipientId := s.recipientId
        timestamp := timestamp
        envelopeNonce := s.envelopeNonce
        ciphertext := s.ciphertext
        nonce := s.nonce
        ephemeralPub := s.ephemeralPub
        kemCiphertext := s.kemCiphertext
        classicalSig := s.classicalSig
        pqcSig := s.pqcSig }
  | _ => .error ⟨.attributeError, ["object has no attribute 'keys'"]⟩

/-- Parse and construct an envelope from a JSON string. -/
def fromJson (R : Runtime) (loadsRaw : Bytes → Except PyErr Val) (maxBytes : Option ℤ)
    (jsonStr : Str) : Except PyErr Envelope := do
  let limit := limit maxBytes
  ensure (jsonStr.length ≤ limit) ⟨.envelopeTooLargeError, ["Envelope JSON exceeds ", .int limit,
    " bytes (preliminary character count check)."]⟩
  let raw ← jsonStr.utf8
  ensure (raw.length ≤ limit) ⟨.envelopeTooLargeError, ["Envelope JSON is ", .int raw.length,
    " bytes, maximum allowed is ", .int limit, " bytes."]⟩
  match ← catching [.jsonDecodeError]
      (fun _ => ⟨.envelopeFormatError, ["Invalid JSON payload structure."]⟩) (loadsRaw raw) with
  | .dict data => fromDictMax R (some limit) (.dict data)
  | _ => .error ⟨.envelopeFormatError, ["JSON payload must be an object/dictionary."]⟩

/-- Reconstruct an envelope from UTF-8. -/
def fromBytes (R : Runtime) (loadsRaw : Bytes → Except PyErr Val) (maxBytes : Option ℤ)
    (raw : Bytes) : Except PyErr Envelope := do
  let text ← catching [.unicodeDecodeError]
    (fun _ => ⟨.envelopeFormatError, ["Envelope bytes must be valid UTF-8 JSON."]⟩) raw.decode
  fromJson R loadsRaw maxBytes text

/-- `json.dumps(self.to_dict())`. -/
def toJson (R : Runtime) (e : Envelope) : Except PyErr Str := do
  (← R.jsonDumps (.dict e.toDict)).decode

/-- Serialise to UTF-8. -/
def toBytes (R : Runtime) (e : Envelope) : Except PyErr Bytes := do (← e.toJson R).utf8

/-! ## Under a limit -/

variable {R : Runtime} {loadsRaw : Bytes → Except PyErr Val} {maxBytes : Option ℤ} {data : Dict}
  {e e' : Envelope}

theorem fromDictMax_none (v : Val) : fromDictMax R none v = fromDict R v := by
  cases v with
  | dict data => simp only [fromDictMax, fromDict, limit, Option.getD_none, Nat.cast_le]
  | _ => rfl

theorem fromDictMax_eq_ok : fromDictMax R maxBytes (.dict data) = .ok e ↔
    e.Reads R data ∧ e.version = UXSP_VERSION ∧
      ∃ text, R.jsonCompact (.dict data) = .ok text ∧ text.length ≤ limit maxBytes := by
  simp only [fromDictMax, stringFields, bind_eq_ok, ensure_eq_ok, pure_eq_ok, stringField_eq_ok,
    intTimestamp_eq_ok, beq_iff_eq, decide_eq_true_eq, List.isEmpty_iff]
  constructor
  · rintro ⟨_, _, _, ⟨v, hv, s, hs, r, hr, n, hn, c, hc, o, ho, p, hp, k, hk, cs, hcs, ps, hps, rfl⟩,
      _, version, text, compact, _, small, ts, stamped, rfl⟩
    exact ⟨⟨hv, hs, hr, stamped, hn, hc, ho, hp, hk, hcs, hps⟩, version, text, compact, small⟩
  · rintro ⟨reads, version, text, compact, small⟩
    refine ⟨(), ?_, _, ⟨_, reads.version, _, reads.senderId, _, reads.recipientId, _,
      reads.envelopeNonce, _, reads.ciphertext, _, reads.nonce, _, reads.ephemeralPub, _,
      reads.kemCiphertext, _, reads.classicalSig, _, reads.pqcSig, rfl⟩, (), version, text,
      compact, (), small, e.timestamp, reads.timestamp, rfl⟩
    rcases reads.timestamp with ⟨ts, stamped, _⟩
    simp [REQUIRED_FIELDS, Dict.has, reads.version, reads.senderId, reads.recipientId, stamped,
      reads.envelopeNonce, reads.ciphertext, reads.nonce, reads.ephemeralPub, reads.kemCiphertext,
      reads.classicalSig, reads.pqcSig]

/-- What was accepted has the version of the protocol. -/
theorem version_of_fromDictMax {v : Val} (accepted : fromDictMax R maxBytes v = .ok e) :
    e.version = UXSP_VERSION := by
  cases v with
  | dict data => exact (fromDictMax_eq_ok.mp accepted).2.1
  | _ => cases accepted

/-! ## How long the text of an envelope is -/

/-- The ten string fields. -/
def texts (e : Envelope) : List Str :=
  [e.version, e.senderId, e.recipientId, e.envelopeNonce, e.ciphertext, e.nonce, e.ephemeralPub,
    e.kemCiphertext, e.classicalSig, e.pqcSig]

/-- No field has a surrogate pair. -/
def Unpaired (e : Envelope) : Prop := ∀ s ∈ e.texts, s.Unpaired

/-- The length of the compact text: the braces, the keys, their marks, commas and colons take 158
bytes. -/
def compactSize (e : Envelope) : ℕ :=
  158 + (Str.ofInt e.timestamp).length + (e.texts.map JsonText.quoted).sum

/-- A number is written as it is printed. -/
theorem length_number {n : ℤ} (printable : Str.printable n) :
    ∃ digits, JsonText.number n = some digits ∧ digits.length = (Str.ofInt n).length := by
  refine ⟨_, if_pos printable, ?_⟩
  rw [Str.ofInt, Str.ofString, List.length_map, Int.repr_eq_if]
  split
  · rename_i negative
    rw [if_neg (by omega), List.length_cons, JsonText.digits, List.length_map]
    simp only [String.toList_append, List.length_append, Nat.toList_repr]
    rw [show (-n).toNat = n.natAbs by omega]
    exact Nat.add_comm _ _
  · rename_i positive
    rw [if_pos (by omega), JsonText.digits, List.length_map, Nat.toList_repr,
      show n.toNat = n.natAbs by omega]

/-- Behind the commas and colons of the compact text there may be more. -/
theorem exists_text (printable : Str.printable e.timestamp) (sep : JsonText.Separators) :
    ∃ text, JsonText.val sep (.dict e.toDict) = some text ∧
      text.length + 21 = e.compactSize + 10 * sep.comma.length + 11 * sep.colon.length := by
  obtain ⟨digits, written, length⟩ := length_number printable
  have keys : REQUIRED_FIELDS.map (fun k => (JsonText.body (Str.ofString k)).length) =
      [11, 14, 15, 14, 15, 6, 8, 13, 10, 10, 8] := by decide
  simp only [REQUIRED_FIELDS, List.map_cons, List.map_nil, List.cons.injEq, and_true] at keys
  simp only [toDict, JsonText.val, JsonText.members, written, Option.bind_eq_bind,
    Option.bind_some, Option.pure_def, Option.some.injEq, exists_eq_left']
  simp only [List.length_append, List.length_cons, List.length_nil, keys, compactSize, texts,
    List.map_cons, List.map_nil, List.sum_cons, List.sum_nil, JsonText.quoted, ← length]
  omega

/-! ## Reading back what was written -/

/-- An envelope as it is read back. -/
def reread (e : Envelope) : Envelope where
  version := e.version.reread
  senderId := e.senderId.reread
  recipientId := e.recipientId.reread
  timestamp := e.timestamp
  envelopeNonce := e.envelopeNonce.reread
  ciphertext := e.ciphertext.reread
  nonce := e.nonce.reread
  ephemeralPub := e.ephemeralPub.reread
  kemCiphertext := e.kemCiphertext.reread
  classicalSig := e.classicalSig.reread
  pqcSig := e.pqcSig.reread

theorem reread_eq_self : e.reread = e ↔ e.Unpaired := by
  have field : ∀ s : Str, s.reread = s ↔ s.Unpaired := fun s =>
    ⟨Str.unpaired_of_reread, Str.Unpaired.reread⟩
  cases e
  simp only [reread, Unpaired, texts, List.forall_mem_cons, List.not_mem_nil, IsEmpty.forall_iff,
    implies_true, and_true, mk.injEq, field, true_and]

theorem reread_toDict : (Val.dict e.toDict).reread = .dict e.reread.toDict := by
  have items : Dict.rereadItems e.toDict = e.reread.toDict := by
    simp only [Dict.rereadItems_eq_map, toDict, List.map_cons, List.map_nil, Str.reread_ofString,
      Val.reread, reread]
  have distinct : (e.reread.toDict.map Prod.fst).Nodup := by
    show ((["version", "sender_id", "recipient_id", "timestamp", "envelope_nonce", "ciphertext",
      "nonce", "ephemeral_pub", "kem_ciphertext", "classical_sig", "pqc_sig"] : List String).map
        Str.ofString).Nodup
    exact List.Nodup.map (fun a b same => Str.ofString_inj.mp same) (by decide)
  rw [Val.reread, items, Assoc.update_nil distinct]

/-- What holds the fields of an envelope is that envelope. -/
theorem reads_toDict_iff : e.Reads R e'.toDict ↔ e = e' := by
  constructor
  · rintro ⟨hv, hs, hr, ⟨ts, stamped, converted⟩, hn, hc, ho, hp, hk, hcs, hps⟩
    cases e
    cases e'
    simp only [toDict, Dict.get?_cons, String.reduceEq, if_false, if_true, Option.some.injEq,
      Val.str.injEq] at hv hs hr stamped hn hc ho hp hk hcs hps
    subst stamped
    cases converted
    simp only [hv, hs, hr, hn, hc, ho, hp, hk, hcs, hps]
  · rintro rfl
    exact reads_toDict R e

/-- A text of printable ASCII is decoded, encoded and read. -/
theorem fromBytes_ascii (loads : R.LoadsRaw loadsRaw) {raw : Bytes}
    (ascii : ∀ x ∈ raw, 32 ≤ x ∧ x ≤ 126) (read : R.jsonLoads raw = .ok (.dict data)) :
    fromBytes R loadsRaw maxBytes raw = .ok e ↔
      raw.length ≤ limit maxBytes ∧ fromDictMax R maxBytes (.dict data) = .ok e := by
  have small : ∀ x ∈ raw, 0 < x ∧ x < 128 := fun x mem =>
    ⟨UInt8.lt_of_lt_of_le (by decide) (ascii x mem).1,
      UInt8.lt_of_le_of_lt (ascii x mem).2 (by decide)⟩
  have encoded := Bytes.encode_ascii fun x mem => (small x mem).2
  have same : fromDictMax R (some (limit maxBytes)) (.dict data) =
      fromDictMax R maxBytes (.dict data) := rfl
  have length : (Bytes.ascii raw).length = raw.length := List.length_map _
  simp only [fromBytes, fromJson, Bytes.decode_encode encoded, catching_eq_ok, bind_eq_ok,
    Except.ok.injEq, exists_eq_left', Str.utf8_eq_ok.mpr encoded, ensure_eq_ok, decide_eq_true_eq,
    loads small, read, length, same, exists_const, and_self_left]

/-- What is written. -/
theorem exists_toBytes (exact : R.JsonExact) (printable : Str.printable e.timestamp) :
    ∃ raw, R.jsonDumps (.dict e.toDict) = .ok raw ∧ e.toBytes R = .ok raw ∧
      raw.length = e.compactSize + 21 ∧ ∀ x ∈ raw, 32 ≤ x ∧ x ≤ 126 := by
  obtain ⟨raw, written, length⟩ := exists_text printable .default
  have ascii := JsonText.printable_iff.mp (JsonText.printable_val
    JsonText.Separators.default_printable.1 JsonText.Separators.default_printable.2 written)
  have encoded := Bytes.encode_ascii fun x mem =>
    UInt8.lt_of_le_of_lt (ascii x mem).2 (by decide)
  refine ⟨raw, exact.dumps written, ?_, ?_, ascii⟩
  · simp only [toBytes, toJson, exact.dumps written, bind_eq_ok, Except.ok.injEq, exists_eq_left',
      Bytes.decode_encode encoded, Str.utf8_eq_ok.mpr encoded]
  · simp only [JsonText.Separators.default, List.length_cons, List.length_nil] at length
    omega

/-- An envelope that was written is read back under a limit exactly if its text with spaces fits and
no field has a surrogate pair. -/
theorem fromBytes_toBytes_iff (json : R.JsonRereads) (exact : R.JsonExact)
    (loads : R.LoadsRaw loadsRaw) (printable : Str.printable e.timestamp)
    (version : e.version = UXSP_VERSION) {raw : Bytes} (written : e.toBytes R = .ok raw) :
    fromBytes R loadsRaw maxBytes raw = .ok e ↔
      e.compactSize + 21 ≤ limit maxBytes ∧ e.Unpaired := by
  obtain ⟨raw', dumped, again, length, ascii⟩ := exists_toBytes exact printable
  obtain rfl := Except.ok.inj (written.symm.trans again)
  have read := (json.dumps dumped).trans (congrArg Except.ok reread_toDict)
  rw [fromBytes_ascii loads ascii read, fromDictMax_eq_ok, reads_toDict_iff, length,
    ← reread_eq_self, Nat.cast_add, Nat.cast_ofNat]
  refine and_congr_right fun fits => ?_
  constructor
  · exact fun h => h.1.symm
  · intro same
    obtain ⟨text, compact, size⟩ := exists_text printable .compact
    refine ⟨same.symm, version, text, ?_, ?_⟩
    · rw [same]
      exact exact.compact compact
    · simp only [JsonText.Separators.compact, List.length_cons, List.length_nil] at size
      omega

end Envelope

end Uxsp
