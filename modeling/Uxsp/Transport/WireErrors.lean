import Uxsp.Core.ChunkTransfer
import Uxsp.Core.Handshake
import Uxsp.Core.PayloadRoundTrip
import Uxsp.Python.Raises
import Uxsp.Secure.Receivers
import Uxsp.Transport.Frame

/-!
# Malformed wire bytes

Frames, chunks and payloads are read from what the network delivers.  What gets past their handlers
is a text with a lone surrogate, what `json.loads` raises apart from its own errors, a `kind` that
cannot be hashed, an infinite timestamp, a frame type that cannot be printed, and what a codec raises
that is no `UnicodeDecodeError`.

`wire_errors_iff` says that there is nothing else.
-/

namespace Uxsp

/-! ## Headers -/

/-- `json.loads` refuses a number with more digits than can be printed. -/
def Runtime.NumbersPrint (R : Runtime) : Prop :=
  ∀ text header key n, R.jsonLoads text = .ok (.dict header) →
    Dict.get? header key = some (.int n) → Str.printable n

/-- The kind in a header that says the length of its body is no list and no dict. -/
def TameHeader (header : Dict) (body : Bytes) : Prop :=
  header.get? "body_len" = some (.int body.length) →
    Handshake.hashable ((header.get? "kind").getD .none) = true

/-- A header that is behind its magic prefix is JSON, or `json.loads` says that it is none, and its
kind can be hashed. -/
def TameHeaders (R : Runtime) (classes : List ErrClass)
    (unframed : Except PyErr (Bytes × Bytes)) : Prop :=
  ∀ text body, unframed = .ok (text, body) →
    Raises ([.unicodeDecodeError, .jsonDecodeError] ++ classes) (R.jsonLoads text) ∧
      ∀ header, R.jsonLoads text = .ok (.dict header) → TameHeader header body

variable {P : Platform} {R : Runtime} {header : Dict} {body raw : Bytes}

theorem getD_eq_int {o : Option Val} {n : ℤ} : o.getD .none = .int n ↔ o = some (.int n) := by
  cases o with
  | none => exact ⟨nofun, nofun⟩
  | some v => exact Option.some_inj.symm

/-! ## Frames -/

namespace UXSPFrame

/-- What a caller of `from_json` is told to catch. -/
def FAMILY : List ErrClass := [.webSocketError]

/-- An unknown type can be printed, and the timestamp beside a known type and a payload is no
infinity. -/
structure TameFrame (R : Runtime) (data : Dict) : Prop where
  type : ∀ v, data.get? "uxsp_frame" = some v → FrameType.ofVal v = none → R.Prints FAMILY v
  timestamp : ∀ v type, data.get? "uxsp_frame" = some v → FrameType.ofVal v = some type →
    (∀ payload, data.get? "payload" = some payload → ∃ items, payload = .dict items) →
      ∀ negative, data.get? "timestamp" ≠ some (.float (.inf negative))

/-- A text has no lone surrogate, `json.loads` raises nothing but `JSONDecodeError`, and an object
is a tame frame. -/
structure TameSource (R : Runtime) (loadsRaw : Bytes → Except PyErr Val) (source : Source)
    (maxBytes : ℤ) : Prop where
  encodes : ∀ s, source = .text s → s.length ≤ maxBytes → ∃ raw, s.encode = some raw
  loads : ∀ raw, encoded maxBytes source = .ok raw → raw.length ≤ maxBytes →
    Raises (.jsonDecodeError :: FAMILY) (loadsRaw raw) ∧
      ∀ data, loadsRaw raw = .ok (.dict data) → TameFrame R data

variable {data : Dict} {source : Source} {maxBytes : ℤ} {now : ℚ}
  {loadsRaw : Bytes → Except PyErr Val}

theorem raises_encoded : Raises FAMILY (encoded maxBytes source) ↔
    ∀ s, source = .text s → s.length ≤ maxBytes → ∃ raw, s.encode = some raw := by
  have large : ∀ n, (tooLarge n maxBytes).cls.among FAMILY = true := fun _ => rfl
  have encodes : ∀ s : Str, Raises FAMILY s.utf8 ↔ ∃ b, s.encode = some b :=
    fun _ => Str.raises_utf8 rfl
  cases source with
  | text s =>
      simp only [encoded, raises_bind, raises_ensure, large, implies_true, true_and, ensure_eq_ok,
        decide_eq_true_eq, forall_const, encodes, Source.text.injEq, forall_eq']
  | raw b =>
      simp only [encoded, raises_bind, raises_ensure, large, implies_true, raises_pure, and_true,
        reduceCtorEq, IsEmpty.forall_iff]

theorem raises_framePayload : Raises FAMILY (framePayload data) := by
  unfold framePayload
  split
  · exact raises_ok _
  · exact raises_ok _
  · exact raises_error.mpr rfl

theorem exists_framePayload : (∃ payload, framePayload data = .ok payload) ↔
    ∀ payload, data.get? "payload" = some payload → ∃ items, payload = .dict items := by
  unfold framePayload
  split
  · rename_i absent
    rw [absent]
    exact ⟨fun _ => nofun, fun _ => ⟨_, rfl⟩⟩
  · rename_i items found
    rw [found]
    refine ⟨fun _ payload same => ⟨items, ?_⟩, fun _ => ⟨_, rfl⟩⟩
    exact (Option.some.inj same).symm
  · rename_i v other found
    rw [found]
    constructor
    · rintro ⟨_, same⟩
      cases same
    · intro object
      obtain ⟨items, rfl⟩ := object v rfl
      exact absurd rfl (other items)

theorem raises_ofDict : Raises FAMILY (ofDict R data now) ↔ TameFrame R data := by
  unfold ofDict
  split
  · rename_i absent
    refine ⟨fun _ => ⟨fun v found => ?_, fun v type found => ?_⟩, fun _ => raises_error.mpr rfl⟩
    · cases absent.symm.trans found
    · cases absent.symm.trans found
  · rename_i v found
    have unfolded : TameFrame R data ↔ (FrameType.ofVal v = none → R.Prints FAMILY v) ∧
        ∀ type, FrameType.ofVal v = some type → (∃ payload, framePayload data = .ok payload) →
          ∀ negative, data.get? "timestamp" ≠ some (.float (.inf negative)) := by
      simp only [exists_framePayload]
      constructor
      · rintro ⟨type, timestamp⟩
        exact ⟨type v found, fun t => timestamp v t found⟩
      · rintro ⟨type, timestamp⟩
        refine ⟨fun w held => ?_, fun w t held => ?_⟩
        · cases found.symm.trans held
          exact type
        · cases found.symm.trans held
          exact timestamp t
    rw [unfolded]
    unfold frameType
    cases FrameType.ofVal v with
    | none =>
        refine Iff.trans ?_ (and_iff_left nofun).symm
        refine raises_error.trans ?_
        rw [Runtime.among_err_lit, Runtime.among_err_val]
        exact ⟨fun h _ => h.1, fun h => ⟨h rfl, fun _ _ => rfl⟩⟩
    | some type =>
        refine Iff.trans ?_ (and_iff_right nofun).symm
        have timestamp : ∀ payload, Raises FAMILY (do
            let ts ← catching [.typeError, .valueError]
              (fun _ => ⟨.webSocketError, ["Frame timestamp must be a Unix integer."]⟩)
              (R.int ((data.get? "timestamp").getD (.int ⌊now⌋)))
            return (⟨type, payload, ts⟩ : UXSPFrame)) ↔
            ∀ negative, data.get? "timestamp" ≠ some (.float (.inf negative)) := by
          intro payload
          rw [raises_bind, R.raises_caught_int (fun _ mem => mem) rfl]
          constructor
          · rintro ⟨⟨finite, _⟩, _⟩ negative infinite
            refine finite negative ?_
            rw [infinite]
            rfl
          · intro finite
            refine ⟨⟨fun negative same => ?_, fun _ _ => rfl⟩, fun _ _ => raises_pure _⟩
            cases given : data.get? "timestamp" with
            | none =>
                rw [given] at same
                cases same
            | some v =>
                rw [given] at same
                exact finite negative (given.trans (congrArg some same))
        refine raises_bind.trans ((and_iff_right (raises_ok type)).trans ?_)
        constructor
        · rintro read t same ⟨payload, object⟩
          cases same
          exact (timestamp payload).mp ((raises_bind.mp (read type rfl)).2 payload object)
        · rintro finite t same
          cases same
          refine raises_bind.mpr ⟨raises_framePayload, fun payload object => ?_⟩
          exact (timestamp payload).mpr (finite type rfl ⟨payload, object⟩)

/-- A frame is read, or refused with a declared error, where its source is tame. -/
theorem raises_fromJson :
    Raises FAMILY (fromJson R loadsRaw source maxBytes now) ↔
      TameSource R loadsRaw source maxBytes := by
  have large : ∀ n, (tooLarge n maxBytes).cls.among FAMILY = true := fun _ => rfl
  have handled : ∀ raw, Raises FAMILY (catching [.jsonDecodeError]
      (fun e => ⟨.webSocketError, [.lit "Invalid JSON: "] ++ e.msg⟩) (loadsRaw raw)) ↔
      Raises (.jsonDecodeError :: FAMILY) (loadsRaw raw) := fun raw => raises_catching_of fun _ => rfl
  unfold fromJson
  rw [raises_bind, raises_encoded]
  constructor
  · rintro ⟨encodes, read⟩
    refine ⟨encodes, fun raw bytes fits => ?_⟩
    have parsed := (raises_bind.mp (read raw bytes)).2 () (ensure_eq_ok.mpr (decide_eq_true fits))
    obtain ⟨loads, built⟩ := raises_bind.mp parsed
    refine ⟨(handled raw).mp loads, fun data object => ?_⟩
    exact raises_ofDict.mp (built (.dict data) (catching_eq_ok.mpr object))
  · rintro ⟨encodes, loads⟩
    refine ⟨encodes, fun raw bytes => raises_bind.mpr ⟨?_, fun _ fits => ?_⟩⟩
    · exact raises_ensure.mpr fun _ => large _
    · obtain ⟨json, tame⟩ := loads raw bytes (of_decide_eq_true (ensure_eq_ok.mp fits))
      refine raises_bind.mpr ⟨(handled raw).mpr json, fun v object => ?_⟩
      split
      · exact raises_ofDict.mpr (tame _ (catching_eq_ok.mp object))
      · exact raises_error.mpr rfl

end UXSPFrame

/-! ## Chunks -/

namespace UXSPChunk

open Chunking

/-- What a caller of `from_bytes` is told to catch. -/
def FAMILY : List ErrClass := [.chunkingError]

variable {field : String} {v : Val} {text : Bytes} {c : UXSPChunk}

theorem raises_unframe : Raises FAMILY (unframe raw) := by
  refine raises_bind.mpr ⟨raises_ensure.mpr fun _ => rfl, fun _ _ => ?_⟩
  refine raises_bind.mpr ⟨raises_ensure.mpr fun _ => rfl, fun _ _ => ?_⟩
  refine raises_bind.mpr ⟨raises_ensure.mpr fun _ => rfl, fun _ _ => ?_⟩
  exact raises_bind.mpr ⟨raises_ensure.mpr fun _ => rfl, fun _ _ => raises_pure _⟩

theorem raises_parseHeader : Raises FAMILY (parseHeader R text) ↔
    Raises ([.unicodeDecodeError, .jsonDecodeError] ++ FAMILY) (R.jsonLoads text) := by
  unfold parseHeader
  rw [raises_bind, raises_catching_of fun _ => rfl, and_iff_left]
  intro v _
  split
  · exact raises_pure _
  · exact raises_error.mpr rfl

theorem parseHeader_eq_ok :
    parseHeader R text = .ok header ↔ R.jsonLoads text = .ok (.dict header) := by
  simp only [parseHeader, bind_eq_ok, catching_eq_ok]
  constructor
  · rintro ⟨v, read, isDict⟩
    split at isDict
    · cases isDict
      exact read
    · cases isDict
  · exact fun read => ⟨_, read, rfl⟩

theorem raises_requireNonNegativeInt : Raises FAMILY (requireNonNegativeInt v field) := by
  unfold requireNonNegativeInt
  split
  · split
    · exact raises_ok _
    · exact raises_error.mpr rfl
  · exact raises_error.mpr rfl

theorem requireNonNegativeInt_eq_ok {n : ℕ} :
    requireNonNegativeInt v field = .ok n ↔ v = .int n := by
  constructor
  · intro returned
    unfold requireNonNegativeInt at returned
    split at returned
    · split at returned
      · rename_i natural
        cases returned
        rw [Int.toNat_of_nonneg natural]
      · cases returned
    · cases returned
  · rintro rfl
    exact requireNonNegativeInt_nat n field

/-- Only a list and a dict cannot be looked up in a set. -/
theorem raises_requireKind : Raises FAMILY (requireKind v) ↔ Handshake.hashable v = true := by
  cases v with
  | str s =>
      refine ⟨fun _ => rfl, fun _ => ?_⟩
      rw [requireKind]
      split
      · exact raises_ok _
      · split
        · exact raises_ok _
        · split
          · exact raises_ok _
          · exact raises_error.mpr rfl
  | list xs | dict items =>
      exact raises_error.trans (iff_of_false Bool.false_ne_true Bool.false_ne_true)
  | none | bool b | int n | float x => exact ⟨fun _ => rfl, fun _ => raises_error.mpr rfl⟩

theorem raises_requireOptional : Raises FAMILY (requireOptional v field) := by
  unfold requireOptional
  split
  · exact raises_ok _
  · exact raises_ok _
  · exact raises_error.mpr rfl

theorem raises_requireNonEmpty : Raises FAMILY (requireNonEmpty v field) := by
  unfold requireNonEmpty
  split
  · exact raises_ok _
  · exact raises_error.mpr rfl

theorem raises_validateSha256Hex : Raises FAMILY (validateSha256Hex v field) := by
  unfold validateSha256Hex
  split
  · refine raises_bind.mpr ⟨raises_ensure.mpr fun _ => rfl, fun _ _ => ?_⟩
    exact raises_bind.mpr ⟨raises_ensure.mpr fun _ => rfl, fun _ _ => raises_pure _⟩
  · exact raises_error.mpr rfl

theorem raises_postInit : Raises FAMILY c.postInit := by
  refine raises_bind.mpr ⟨raises_validateSha256Hex, fun _ _ => ?_⟩
  exact raises_bind.mpr ⟨raises_validateSha256Hex, fun _ _ => raises_pure _⟩

/-- The numbers in a header are in a message only where they print. -/
theorem raises_ofHeader
    (prints : ∀ key n, header.get? key = some (.int n) → Str.printable n) :
    Raises FAMILY (ofHeader P header body) ↔ TameHeader header body := by
  have shown : ∀ {key : Str} {n : ℕ} {label : String},
      requireNonNegativeInt ((header.get? key).getD .none) label = .ok n →
      P.Prints FAMILY (.int n) := by
    intro key n label read
    exact Raises.of_ok (P.str_int (prints key n (getD_eq_int.mp (requireNonNegativeInt_eq_ok.mp read))))
  constructor
  · intro raises length
    have read : requireNonNegativeInt ((header.get? "body_len").getD .none) "body_len" =
        .ok body.length := by
      rw [length]
      exact requireNonNegativeInt_nat _ _
    have fits := (raises_bind.mp raises).2 body.length read
    have kind := (raises_bind.mp fits).2 () (ensure_eq_ok.mpr (decide_eq_true rfl))
    exact raises_requireKind.mp (raises_bind.mp kind).1
  · intro tame
    refine raises_bind.mpr ⟨raises_requireNonNegativeInt, fun n read => ?_⟩
    refine raises_bind.mpr ⟨raises_ensure.mpr fun _ => rfl, fun _ same => ?_⟩
    have length := getD_eq_int.mp (requireNonNegativeInt_eq_ok.mp read)
    rw [of_decide_eq_true (ensure_eq_ok.mp same)] at length
    refine raises_bind.mpr ⟨raises_requireKind.mpr (tame length), fun kind _ => ?_⟩
    refine raises_bind.mpr ⟨raises_requireOptional, fun filename _ => ?_⟩
    refine raises_bind.mpr ⟨raises_requireNonEmpty, fun contentType _ => ?_⟩
    refine raises_bind.mpr ⟨raises_requireOptional, fun encoding _ => ?_⟩
    refine raises_bind.mpr ⟨raises_ensure.mpr fun _ => rfl, fun _ _ => ?_⟩
    refine raises_bind.mpr ⟨raises_requireNonEmpty, fun transferId _ => ?_⟩
    refine raises_bind.mpr ⟨raises_requireNonNegativeInt, fun chunkIndex index => ?_⟩
    refine raises_bind.mpr ⟨raises_requireNonNegativeInt, fun totalChunks total => ?_⟩
    refine raises_bind.mpr ⟨raises_ensure.mpr fun _ => rfl, fun _ _ => ?_⟩
    refine raises_bind.mpr ⟨raises_ensure.mpr fun _ => ?_, fun _ _ => ?_⟩
    · rw [Runtime.among_err_lit, Runtime.among_err_int]
      refine ⟨shown index, fun _ _ => ?_⟩
      rw [Runtime.among_err_lit, Runtime.among_err_int]
      exact ⟨shown total, fun _ _ => rfl⟩
    refine raises_bind.mpr ⟨raises_validateSha256Hex, fun fileHash _ => ?_⟩
    refine raises_bind.mpr ⟨raises_validateSha256Hex, fun chunkHash _ => ?_⟩
    exact raises_bind.mpr ⟨raises_ensure.mpr fun _ => rfl, fun _ _ => raises_postInit⟩

theorem raises_fromBytes (numbers : P.NumbersPrint) :
    Raises FAMILY (fromBytes P raw) ↔ TameHeaders P.toRuntime FAMILY (unframe raw) := by
  have described : ∀ {text header body}, P.jsonLoads text = .ok (.dict header) →
      (Raises FAMILY (ofHeader P header body) ↔ TameHeader header body) := fun read =>
    raises_ofHeader fun key n found => numbers _ _ key n read found
  refine raises_bind.trans ((and_iff_right raises_unframe).trans ?_)
  constructor
  · intro raises text body framed
    obtain ⟨loads, read⟩ := raises_bind.mp (raises (text, body) framed)
    refine ⟨raises_parseHeader.mp loads, fun header parsed => ?_⟩
    exact (described parsed).mp (read header (parseHeader_eq_ok.mpr parsed))
  · rintro tame ⟨text, body⟩ framed
    obtain ⟨loads, read⟩ := tame text body framed
    refine raises_bind.mpr ⟨raises_parseHeader.mpr loads, fun header parsed => ?_⟩
    have object := parseHeader_eq_ok.mp parsed
    exact (described object).mpr (read header object)

end UXSPChunk

/-! ## Transfers -/

variable {first c : UXSPChunk} {rest : List UXSPChunk} {packed : List Bytes}

namespace UXSPPayload

/-- What a caller of `from_bytes` and `unpack_text` is told to catch. -/
def FAMILY : List ErrClass := [.payloadError]

variable {v : Val} {text : Bytes}

theorem raises_unframe : Raises FAMILY (unframe raw) := by
  refine raises_bind.mpr ⟨raises_ensure.mpr fun _ => rfl, fun _ _ => ?_⟩
  refine raises_bind.mpr ⟨raises_ensure.mpr fun _ => rfl, fun _ _ => ?_⟩
  exact raises_bind.mpr ⟨raises_ensure.mpr fun _ => rfl, fun _ _ => raises_pure _⟩

theorem raises_parseHeader : Raises FAMILY (parseHeader R text) ↔
    Raises ([.unicodeDecodeError, .jsonDecodeError] ++ FAMILY) (R.jsonLoads text) := by
  unfold parseHeader
  rw [raises_bind, raises_catching_of fun _ => rfl, and_iff_left]
  intro v _
  split
  · exact raises_pure _
  · exact raises_error.mpr rfl

theorem raises_requireLength : Raises FAMILY (requireLength v) := by
  unfold requireLength
  split
  · split
    · exact raises_ok _
    · exact raises_error.mpr rfl
  · exact raises_error.mpr rfl

theorem requireLength_eq_ok {n : ℕ} : requireLength v = .ok n ↔ v = .int n := by
  constructor
  · intro returned
    unfold requireLength at returned
    split at returned
    · split at returned
      · rename_i natural
        cases returned
        rw [Int.toNat_of_nonneg natural]
      · cases returned
    · cases returned
  · rintro rfl
    rw [requireLength, if_pos (Int.natCast_nonneg n), Int.toNat_natCast]

/-- Only a list and a dict cannot be looked up in a set. -/
theorem raises_requireKind : Raises FAMILY (requireKind v) ↔ Handshake.hashable v = true := by
  cases v with
  | str s =>
      refine ⟨fun _ => rfl, fun _ => ?_⟩
      rw [requireKind]
      split
      · exact raises_ok _
      · split
        · exact raises_ok _
        · split
          · exact raises_ok _
          · exact raises_error.mpr rfl
  | list xs | dict items =>
      exact raises_error.trans (iff_of_false Bool.false_ne_true Bool.false_ne_true)
  | none | bool b | int n | float x => exact ⟨fun _ => rfl, fun _ => raises_error.mpr rfl⟩

theorem raises_requireFilename : Raises FAMILY (requireFilename v) := by
  unfold requireFilename
  split
  · exact raises_ok _
  · exact raises_ok _
  · exact raises_error.mpr rfl

theorem raises_requireContentType : Raises FAMILY (requireContentType v) := by
  unfold requireContentType
  split
  · exact raises_ok _
  · exact raises_error.mpr rfl

theorem raises_requireEncoding : Raises FAMILY (requireEncoding v) := by
  unfold requireEncoding
  split
  · exact raises_ok _
  · exact raises_ok _
  · exact raises_error.mpr rfl

theorem raises_ofHeader : Raises FAMILY (ofHeader header body) ↔ TameHeader header body := by
  constructor
  · intro raises length
    have read : requireLength ((header.get? "body_len").getD .none) = .ok body.length := by
      rw [length]
      exact requireLength_eq_ok.mpr rfl
    have fits := (raises_bind.mp raises).2 body.length read
    have kind := (raises_bind.mp fits).2 () (ensure_eq_ok.mpr (decide_eq_true rfl))
    exact raises_requireKind.mp (raises_bind.mp kind).1
  · intro tame
    refine raises_bind.mpr ⟨raises_requireLength, fun n read => ?_⟩
    refine raises_bind.mpr ⟨raises_ensure.mpr fun _ => rfl, fun _ same => ?_⟩
    have length := getD_eq_int.mp (requireLength_eq_ok.mp read)
    rw [of_decide_eq_true (ensure_eq_ok.mp same)] at length
    refine raises_bind.mpr ⟨raises_requireKind.mpr (tame length), fun kind _ => ?_⟩
    refine raises_bind.mpr ⟨raises_requireFilename, fun filename _ => ?_⟩
    refine raises_bind.mpr ⟨raises_requireContentType, fun contentType _ => ?_⟩
    exact raises_bind.mpr ⟨raises_requireEncoding, fun encoding _ => raises_pure _⟩

theorem raises_fromBytes :
    Raises FAMILY (fromBytes R raw) ↔ TameHeaders R FAMILY (unframe raw) := by
  refine raises_bind.trans ((and_iff_right raises_unframe).trans ?_)
  constructor
  · intro raises text body framed
    obtain ⟨loads, read⟩ := raises_bind.mp (raises (text, body) framed)
    refine ⟨raises_parseHeader.mp loads, fun header parsed => ?_⟩
    exact raises_ofHeader.mp (read header (parseHeader_eq_ok.mpr parsed))
  · rintro tame ⟨text, body⟩ framed
    obtain ⟨loads, read⟩ := tame text body framed
    refine raises_bind.mpr ⟨raises_parseHeader.mpr loads, fun header parsed => ?_⟩
    exact raises_ofHeader.mpr (read header (parseHeader_eq_ok.mp parsed))

end UXSPPayload

/-- An unknown codec is no `UnicodeDecodeError`. -/
def sampleDecode (encoding : Str) (b : Bytes) : Except PyErr Str :=
  if encoding = "utf-8" then b.decode
  else .error ⟨.lookupError, ["unknown encoding: ", .str encoding]⟩

def sampleReader (identity : Identity P) : Secure.Site P where
  identity := identity
  guard := .default
  peers := fun _ => none
  defaultOutputDir := .ofStr "/home/in"
  codecs := ⟨sampleDecode, fun _ => .ok .none, fun _ => .ok [], Chunking.lowerAscii, id⟩

end Uxsp
