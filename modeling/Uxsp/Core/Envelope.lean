import Uxsp.Crypto.Seal

/-!
# `uxsp.core.envelope`

An envelope is what `from_dict` has let through: ten string fields, of the right version and within
the size limit, and an integer timestamp.
-/

namespace Uxsp

def UXSP_VERSION : Str := "UXSP-1"

structure Envelope where
  version : Str
  senderId : Str
  recipientId : Str
  timestamp : ℤ
  envelopeNonce : Str
  ciphertext : Str
  nonce : Str
  ephemeralPub : Str
  kemCiphertext : Str
  classicalSig : Str
  pqcSig : Str

namespace Envelope

def MAX_BYTES : ℕ := 64 * 1024

/-- The required fields, sorted. -/
def REQUIRED_FIELDS : List String :=
  ["ciphertext", "classical_sig", "envelope_nonce", "ephemeral_pub", "kem_ciphertext", "nonce",
    "pqc_sig", "recipient_id", "sender_id", "timestamp", "version"]

/-- A field that must be a string. -/
def stringField (data : Dict) (field : String) : Except PyErr Str :=
  match data.get? field with
  | some (.str s) => .ok s
  | some v => .error ⟨.envelopeFormatError,
      ["Envelope field '", field, "' must be a string, got ", v.typeName, "."]⟩
  | none => .error ⟨.keyError, [field]⟩

/-- The ten string fields, in the order they are checked. -/
structure Strings where
  version : Str
  senderId : Str
  recipientId : Str
  envelopeNonce : Str
  ciphertext : Str
  nonce : Str
  ephemeralPub : Str
  kemCiphertext : Str
  classicalSig : Str
  pqcSig : Str

def stringFields (data : Dict) : Except PyErr Strings := do
  let version ← stringField data "version"
  let senderId ← stringField data "sender_id"
  let recipientId ← stringField data "recipient_id"
  let envelopeNonce ← stringField data "envelope_nonce"
  let ciphertext ← stringField data "ciphertext"
  let nonce ← stringField data "nonce"
  let ephemeralPub ← stringField data "ephemeral_pub"
  let kemCiphertext ← stringField data "kem_ciphertext"
  let classicalSig ← stringField data "classical_sig"
  let pqcSig ← stringField data "pqc_sig"
  return ⟨version, senderId, recipientId, envelopeNonce, ciphertext, nonce, ephemeralPub,
    kemCiphertext, classicalSig, pqcSig⟩

/-- Construct an envelope from a dict. -/
def fromDict (R : Runtime) : Val → Except PyErr Envelope
  | .dict data => do
      let missing := REQUIRED_FIELDS.filter fun (field : String) => !Dict.has data field
      ensure missing.isEmpty ⟨.envelopeFormatError, ["Envelope missing required fields: ",
        .names missing, ". Was this produced by UXSP seal()?"]⟩
      let s ← stringFields data
      ensure (s.version == UXSP_VERSION) ⟨.envelopeFormatError,
        ["Unknown envelope version '", .str s.version, "'. Expected '", .str UXSP_VERSION, "'."]⟩
      let text ← R.jsonCompact (.dict data)
      ensure (text.length ≤ MAX_BYTES) ⟨.envelopeTooLargeError, ["Envelope total data (",
        .int text.length, " bytes) exceeds limit of ", .int MAX_BYTES, " bytes."]⟩
      let timestamp ← intTimestamp R data (R.err .envelopeFormatError
        ["Invalid timestamp value: '", .val ((Dict.get? data "timestamp").getD .none),
          "'. Must be a Unix integer."])
      return {
        version := s.version
        senderId := s.senderId
        recipientId := s.recipientId
        timestamp := timestamp
        envelopeNonce := s.envelopeNonce
        ciphertext := s.ciphertext
        nonce := s.nonce
        ephemeralPub := s.ephemeralPub
        kemCiphertext := s.kemCiphertext
        classicalSig := s.classicalSig
        pqcSig := s.pqcSig }
  | _ => .error ⟨.attributeError, ["object has no attribute 'keys'"]⟩

def toDict (e : Envelope) : Dict :=
  [("version", .str e.version), ("sender_id", .str e.senderId),
    ("recipient_id", .str e.recipientId), ("timestamp", .int e.timestamp),
    ("envelope_nonce", .str e.envelopeNonce), ("ciphertext", .str e.ciphertext),
    ("nonce", .str e.nonce), ("ephemeral_pub", .str e.ephemeralPub),
    ("kem_ciphertext", .str e.kemCiphertext), ("classical_sig", .str e.classicalSig),
    ("pqc_sig", .str e.pqcSig)]

/-! ## What `from_dict` establishes -/

variable {R : Runtime} {data : Dict} {e : Envelope}

theorem stringField_eq_ok {field : String} {s : Str} :
    stringField data field = .ok s ↔ data.get? field = some (.str s) := by
  unfold stringField
  split
  · rename_i found
    rw [found, Except.ok.injEq, Option.some.injEq, Val.str.injEq]
  · rename_i v other found
    rw [found, Option.some.injEq]
    refine ⟨nofun, fun same => ?_⟩
    subst same
    exact (other s rfl).elim
  · rename_i found
    rw [found]
    exact ⟨nofun, nofun⟩

/-- The envelope holds the fields of the dict. -/
structure Reads (R : Runtime) (data : Dict) (e : Envelope) : Prop where
  version : data.get? "version" = some (.str e.version)
  senderId : data.get? "sender_id" = some (.str e.senderId)
  recipientId : data.get? "recipient_id" = some (.str e.recipientId)
  timestamp : ∃ v, data.get? "timestamp" = some v ∧ R.int v = .ok e.timestamp
  envelopeNonce : data.get? "envelope_nonce" = some (.str e.envelopeNonce)
  ciphertext : data.get? "ciphertext" = some (.str e.ciphertext)
  nonce : data.get? "nonce" = some (.str e.nonce)
  ephemeralPub : data.get? "ephemeral_pub" = some (.str e.ephemeralPub)
  kemCiphertext : data.get? "kem_ciphertext" = some (.str e.kemCiphertext)
  classicalSig : data.get? "classical_sig" = some (.str e.classicalSig)
  pqcSig : data.get? "pqc_sig" = some (.str e.pqcSig)

theorem fromDict_eq_ok : fromDict R (.dict data) = .ok e ↔
    e.Reads R data ∧ e.version = UXSP_VERSION ∧
      ∃ text, R.jsonCompact (.dict data) = .ok text ∧ text.length ≤ MAX_BYTES := by
  simp only [fromDict, stringFields, bind_eq_ok, ensure_eq_ok, pure_eq_ok, stringField_eq_ok,
    intTimestamp_eq_ok, beq_iff_eq, decide_eq_true_eq, List.isEmpty_iff]
  constructor
  · rintro ⟨_, _, _, ⟨v, hv, s, hs, r, hr, n, hn, c, hc, o, ho, p, hp, k, hk, cs, hcs, ps, hps, rfl⟩,
      _, version, text, compact, _, small, ts, stamped, rfl⟩
    exact ⟨⟨hv, hs, hr, stamped, hn, hc, ho, hp, hk, hcs, hps⟩, version, text, compact, small⟩
  · rintro ⟨reads, version, text, compact, small⟩
    refine ⟨(), ?_, _, ⟨_, reads.version, _, reads.senderId, _, reads.recipientId, _,
      reads.envelopeNonce, _, reads.ciphertext, _, reads.nonce, _, reads.ephemeralPub, _,
      reads.kemCiphertext, _, reads.classicalSig, _, reads.pqcSig, rfl⟩, (), version, text,
      compact, (), small, e.timestamp, reads.timestamp, rfl⟩
    rcases reads.timestamp with ⟨ts, stamped, _⟩
    simp [REQUIRED_FIELDS, Dict.has, reads.version, reads.senderId, reads.recipientId, stamped,
      reads.envelopeNonce, reads.ciphertext, reads.nonce, reads.ephemeralPub, reads.kemCiphertext,
      reads.classicalSig, reads.pqcSig]

theorem reads_toDict (R : Runtime) (e : Envelope) : e.Reads R e.toDict := by
  constructor <;> simp [toDict]

theorem fromDict_dict {v : Val} (made : fromDict R v = .ok e) : ∃ data, v = .dict data := by
  cases v with
  | dict data => exact ⟨data, rfl⟩
  | _ => cases made

/-- An envelope made from what `seal` returns is that dict. -/
theorem toDict_of_sealDict {f : SealedFields} {sigs : Signatures}
    (made : fromDict R (.dict (sealDict f sigs)) = .ok e) : e.toDict = sealDict f sigs := by
  rcases fromDict_eq_ok.mp made with ⟨reads, _⟩
  rcases reads with ⟨hv, hs, hr, ⟨ts, stamped, converted⟩, hn, hc, ho, hp, hk, hcs, hps⟩
  cases e
  simp [sealDict] at hv hs hr stamped hn hc ho hp hk hcs hps
  subst stamped
  cases converted
  simp [toDict, sealDict, ← hv, ← hs, ← hr, ← hn, ← hc, ← ho, ← hp, ← hk, ← hcs, ← hps]

end Envelope

end Uxsp
