import Uxsp.Core.Payload
import Uxsp.Crypto.Transparent

/-!
# `uxsp.core.payload`: the container, both ways

`UXSPPayload.container_round_trip`: a payload whose header fits its length field is packed and
unpacked, a surrogate pair in its texts read as the one character it stands for; and what is
unpacked from foreign bytes is unpacked again from what it packs to, with every byte behind the
header in the body.
-/

namespace Uxsp

/-- `json.loads` leaves no surrogate pair in a string of an object: two escapes that pair up are one
character, and UTF-8 has no surrogates. -/
def Runtime.JsonJoins (R : Runtime) : Prop :=
  ∀ {text : Bytes} {d : Dict} {key s : Str}, R.jsonLoads text = .ok (.dict d) →
    d.get? key = some (.str s) → s.Unpaired

namespace UXSPPayload

variable {R : Runtime} {p : UXSPPayload} {raw : Bytes}

/-- The texts of the metadata. -/
def texts (p : UXSPPayload) : List Str :=
  [p.filename, some p.contentType, p.encoding].reduceOption

def Unpaired (p : UXSPPayload) : Prop := ∀ s ∈ p.texts, s.Unpaired

/-- The JSON of the header has a length that four bytes hold. -/
def HeaderFits (p : UXSPPayload) : Prop :=
  ∃ text, JsonText.val .compact (.dict p.header) = some text ∧ text.length ≤ 0xFFFFFFFF

/-- The bytes are the magic, the length of a header, the header, and the body with nothing left
over. -/
def Frames (raw body : Bytes) : Prop :=
  ∃ length text, length.length = HEADER_LEN_BYTES ∧
    UXSPChunk.unpackLength length = text.length ∧ raw = MAGIC ++ length ++ text ++ body

/-! ## Texts that are read as they were -/

theorem mem_texts {s : Str} : s ∈ p.texts ↔
    p.filename = some s ∨ s = p.contentType ∨ p.encoding = some s := by
  simp only [texts, List.reduceOption_mem_iff, List.mem_cons, List.not_mem_nil, or_false,
    Option.some.injEq, eq_comm]

/-- JSON reads the texts as they were exactly if they have no pair. -/
theorem reread_eq_self : p.reread = p ↔ p.Unpaired := by
  have field : ∀ s : Str, s.reread = s ↔ s.Unpaired := fun s =>
    ⟨Str.unpaired_of_reread, Str.Unpaired.reread⟩
  have option : ∀ o : Option Str, o.map Str.reread = o ↔ ∀ s, o = some s → s.Unpaired := by
    intro o
    cases o with
    | none => exact ⟨nofun, fun _ => rfl⟩
    | some s => simp only [Option.map_some, Option.some.injEq, field, forall_eq']
  simp only [Unpaired, mem_texts, or_imp, forall_and, forall_eq]
  rw [← option, ← field, ← option]
  cases p
  simp only [reread, mk.injEq, true_and]

/-! ## Packing -/

/-- A payload whose header fits is packed. -/
theorem HeaderFits.exists_toBytes (exact : R.JsonExact) (fits : p.HeaderFits) :
    ∃ raw, p.toBytes R = .ok raw := by
  obtain ⟨text, written, short⟩ := fits
  simp only [toBytes, bind_eq_ok, ensure_eq_ok, pure_eq_ok, decide_eq_true_eq]
  exact ⟨_, text, exact.compact written, (), short, rfl⟩

/-! ## Unpacking foreign bytes -/

/-- The bytes are cut into magic, length, header and body. -/
theorem unframe_eq_ok {text body : Bytes} (cut : unframe raw = .ok (text, body)) :
    Frames raw body := by
  simp only [unframe, bind_eq_ok, ensure_eq_ok, pure_eq_ok, decide_eq_true_eq, Prod.mk.injEq] at cut
  obtain ⟨_, long, _, magic, _, fits, here, rest⟩ := cut
  refine ⟨(raw.drop MAGIC.length).take HEADER_LEN_BYTES, text, ?_, ?_, ?_⟩
  · rw [List.length_take, List.length_drop]
    omega
  · rw [← here, List.length_take, min_eq_left fits]
  · have whole := List.take_append_drop MAGIC.length raw
    rw [magic] at whole
    rw [← here, ← rest, List.append_assoc, List.append_assoc, List.take_append_drop,
      List.take_append_drop, whole]

theorem requireFilename_eq_ok {v : Val} {s : Option Str} (given : requireFilename v = .ok s) :
    v = UXSPChunk.optional s := by
  cases v <;> cases given <;> rfl

theorem requireContentType_eq_ok {v : Val} {s : Str} (given : requireContentType v = .ok s) :
    v = .str s ∧ s ≠ [] := by
  unfold requireContentType at given
  split at given
  · cases given
    exact ⟨rfl, List.cons_ne_nil _ _⟩
  · cases given

theorem requireEncoding_eq_ok {v : Val} {s : Option Str} (given : requireEncoding v = .ok s) :
    v = UXSPChunk.optional s ∧ s ≠ some [] := by
  unfold requireEncoding at given
  split at given
  · cases given
    exact ⟨rfl, nofun⟩
  · cases given
    exact ⟨rfl, fun same => List.cons_ne_nil _ _ (Option.some.inj same)⟩
  · cases given

/-- What a header has said about a payload that was accepted. -/
structure Described (header : Dict) (body : Bytes) (p : UXSPPayload) : Prop where
  body : p.body = body
  contentType : p.contentType ≠ []
  encoding : p.encoding ≠ some []
  texts : ∀ s ∈ p.texts, ∃ key : Str, header.get? key = some (.str s)

theorem ofHeader_eq_ok {header : Dict} {body : Bytes} (accepted : ofHeader header body = .ok p) :
    Described header body p := by
  have found : ∀ {key s : Str}, (header.get? key).getD .none = .str s →
      header.get? key = some (.str s) := by
    intro key s same
    cases there : header.get? key with
    | none =>
        rw [there] at same
        cases same
    | some v =>
        rw [there] at same
        exact congrArg some same
  simp only [ofHeader, bind_eq_ok, ensure_eq_ok, pure_eq_ok] at accepted
  obtain ⟨_, _, _, _, kind, _, filename, hf, contentType, hc, encoding, he, rfl⟩ := accepted
  obtain ⟨hc, nonempty⟩ := requireContentType_eq_ok hc
  obtain ⟨he, nonempty'⟩ := requireEncoding_eq_ok he
  have hf := requireFilename_eq_ok hf
  refine ⟨rfl, nonempty, nonempty', fun s mem => ?_⟩
  rcases mem_texts.mp mem with rfl | rfl | rfl
  · exact ⟨"filename", found hf⟩
  · exact ⟨"content_type", found hc⟩
  · exact ⟨"encoding", found he⟩

theorem parseHeader_eq_ok {text : Bytes} {header : Dict} :
    parseHeader R text = .ok header ↔ R.jsonLoads text = .ok (.dict header) := by
  simp only [parseHeader, bind_eq_ok, catching_eq_ok]
  constructor
  · rintro ⟨v, read, isDict⟩
    split at isDict
    · cases isDict
      exact read
    · cases isDict
  · exact fun read => ⟨_, read, rfl⟩

/-- What was accepted has texts without pairs, and all of the bytes behind its header. -/
theorem fromBytes_eq_ok (joins : R.JsonJoins) (accepted : fromBytes R raw = .ok p) :
    p.contentType ≠ [] ∧ p.encoding ≠ some [] ∧ p.Unpaired ∧ Frames raw p.body := by
  simp only [fromBytes, bind_eq_ok, Prod.exists] at accepted
  obtain ⟨text, body, cut, header, parsed, accepted⟩ := accepted
  have described := ofHeader_eq_ok accepted
  refine ⟨described.contentType, described.encoding, fun s mem => ?_, ?_⟩
  · obtain ⟨key, found⟩ := described.texts s mem
    exact joins (parseHeader_eq_ok.mp parsed) found
  · rw [described.body]
    exact unframe_eq_ok cut

/-- A payload whose header fits is packed and unpacked, every pair of surrogates in its texts as the
character it stands for; what is unpacked from any bytes is unpacked again from what it packs to,
and its body is all that stands behind the header. -/
theorem container_round_trip (json : R.JsonRereads) (exact : R.JsonExact) (joins : R.JsonJoins) :
    (∀ p : UXSPPayload, p.contentType ≠ [] → p.encoding ≠ some [] → p.HeaderFits →
      ∃ raw, p.toBytes R = .ok raw ∧ fromBytes R raw = .ok p.reread ∧ (p.reread = p ↔ p.Unpaired)) ∧
    ∀ (raw : Bytes) (p : UXSPPayload), fromBytes R raw = .ok p → Frames raw p.body ∧
      (p.HeaderFits → ∃ again, p.toBytes R = .ok again ∧ fromBytes R again = .ok p) := by
  constructor
  · intro p contentType encoding fits
    obtain ⟨raw, packed⟩ := fits.exists_toBytes exact
    exact ⟨raw, packed, fromBytes_toBytes json contentType encoding packed, reread_eq_self⟩
  · intro raw p accepted
    obtain ⟨contentType, encoding, unpaired, frames⟩ := fromBytes_eq_ok joins accepted
    refine ⟨frames, fun fits => ?_⟩
    obtain ⟨again, packed⟩ := fits.exists_toBytes exact
    have unpacked := fromBytes_toBytes json contentType encoding packed
    rw [reread_eq_self.mpr unpaired] at unpacked
    exact ⟨again, packed, unpacked⟩

/-! ## A name of two surrogates -/

theorem reading_joins : Platform.reading.JsonJoins := by
  intro text d key s read found
  cases parsed : JsonText.loads text with
  | error e =>
      have raised : Platform.reading.jsonLoads text = .error e := congrArg (Except.map _) parsed
      rw [raised] at read
      cases read
  | ok v =>
      have returned : Platform.reading.jsonLoads text = .ok v.reread :=
        congrArg (Except.map _) parsed
      rw [returned, Except.ok.injEq] at read
      cases v with
      | dict items =>
          rw [Val.reread, Val.dict.injEq] at read
          have strings : ∀ item ∈ Assoc.update [] (Dict.rereadItems items), ∀ s,
              item.2 = Val.str s → s.Unpaired := by
            refine Assoc.forall_update (p := fun v => ∀ s, v = Val.str s → s.Unpaired) [] nofun ?_
            intro item mem s same
            rw [Dict.rereadItems_eq_map] at mem
            obtain ⟨⟨k, w⟩, -, rfl⟩ := List.mem_map.mp mem
            cases w with
            | str t =>
                cases same
                exact Str.unpaired_of_reread (JsonText.reread_reread t)
            | _ => cases same
          rw [read] at strings
          obtain ⟨left, right, split, -⟩ := List.lookup_eq_some_iff.mp found
          have mem : (key, Val.str s) ∈ d := by
            rw [split]
            exact List.mem_append_right _ List.mem_cons_self
          exact strings _ mem s rfl
      | _ => cases read

/-- A file of no bytes whose name is a surrogate pair. -/
def samplePayload (filename : Option Str) : UXSPPayload :=
  ⟨.file, [], filename, "text/plain", none⟩

def sampleName : Str := [⟨0xD83D, by decide⟩, ⟨0xDE00, by decide⟩]

theorem samplePayload_encoding (filename : Option Str) :
    (samplePayload filename).encoding ≠ some [] :=
  (Option.some_ne_none []).symm

theorem samplePayload_fits :
    (samplePayload none).HeaderFits ∧ (samplePayload (some sampleName)).HeaderFits := by
  refine ⟨⟨_, rfl, ?_⟩, ⟨_, rfl, ?_⟩⟩ <;> decide

/-- A payload without a name comes back, and so does what is accepted. -/
theorem samplePayload_comes_back : ∃ raw,
    (samplePayload none).toBytes Platform.reading.toRuntime = .ok raw ∧
      fromBytes Platform.reading.toRuntime raw = .ok (samplePayload none) ∧
        Frames raw (samplePayload none).body := by
  have both := container_round_trip Platform.reading_json Platform.reading_exact reading_joins
  obtain ⟨raw, packed, unpacked, -⟩ := both.1 (samplePayload none) (by decide)
    (samplePayload_encoding none) samplePayload_fits.1
  have same : (samplePayload none).reread = samplePayload none := rfl
  rw [same] at unpacked
  exact ⟨raw, packed, unpacked, (both.2 raw _ unpacked).1⟩

/-! ## A header that grows -/

/-- A content type of `n` letters. -/
def letters (n : ℕ) : Str := List.replicate n 97

theorem letters_reread (n : ℕ) : (letters n).reread = letters n := by
  refine Str.reread_of_forall fun c mem => ?_
  rw [List.eq_of_mem_replicate mem]
  decide

theorem length_body_letters (n : ℕ) : (JsonText.body (letters n)).length = n + 1 := by
  have plain : ∀ c ∈ letters n, JsonText.PlainChar c := by
    intro c mem
    rw [List.eq_of_mem_replicate mem]
    exact ⟨by decide, by decide, by decide, by decide⟩
  have size := JsonText.quoted_plain plain
  rw [JsonText.quoted, letters, List.length_replicate] at size
  exact Nat.succ.inj size

/-- A header that names no file and no encoding. -/
def shortHeader (n : ℕ) : Dict :=
  [("kind", .str "text"), ("content_type", .str (letters n)), ("body_len", .int 0)]

/-- The payload that it announces. -/
def longPayload (n : ℕ) : UXSPPayload := ⟨.text, [], none, letters n, none⟩

theorem keys_length : ["kind", "text", "filename", "content_type", "encoding", "body_len"].map
    (fun k => (JsonText.body (Str.ofString k)).length) = [5, 5, 9, 13, 9, 9] := by decide

theorem number_zero : JsonText.number 0 = some [48] := by decide

theorem exists_shortHeader (n : ℕ) : ∃ text,
    JsonText.val .compact (.dict (shortHeader n)) = some text ∧ text.length = n + 46 := by
  have keys := keys_length
  simp only [List.map_cons, List.map_nil, List.cons.injEq, and_true] at keys
  simp only [shortHeader, JsonText.val, JsonText.members, number_zero, Option.bind_eq_bind,
    Option.bind_some, Option.pure_def, Option.some.injEq, exists_eq_left']
  simp only [List.length_append, List.length_cons, List.length_nil, keys, length_body_letters,
    JsonText.Separators.compact]
  omega

/-- What is written of the payload is longer than what it was read from. -/
theorem exists_longHeader (n : ℕ) : ∃ text,
    JsonText.val .compact (.dict (longPayload n).header) = some text ∧ text.length = n + 78 := by
  have keys := keys_length
  simp only [List.map_cons, List.map_nil, List.cons.injEq, and_true] at keys
  simp only [longPayload, header, UXSPChunk.optional, ChunkKind.str, JsonText.val,
    JsonText.members, List.length_nil, Int.natCast_zero, number_zero, Option.bind_eq_bind,
    Option.bind_some, Option.pure_def, Option.some.injEq, exists_eq_left']
  simp only [List.length_append, List.length_cons, List.length_nil, keys, length_body_letters,
    JsonText.Separators.compact]
  have null : (Bytes.lit "null").length = 4 := by decide
  omega

/-- A header with the largest length that is announced is accepted, and what it announces is not
packed again. -/
theorem longPayload_refused : ∃ raw, fromBytes Platform.reading.toRuntime raw =
      .ok (longPayload (0xFFFFFFFF - 46)) ∧
    ∃ e, (longPayload (0xFFFFFFFF - 46)).toBytes Platform.reading.toRuntime = .error e := by
  generalize size : 0xFFFFFFFF - 46 = n
  obtain ⟨short, written, length⟩ := exists_shortHeader n
  obtain ⟨long, written', length'⟩ := exists_longHeader n
  have read := Platform.reading_json.compact (Platform.reading_exact.compact written)
  have keyed : Dict.wellKeyed (shortHeader n) = true :=
    @Dict.wellKeyed_of_keys _ ["kind", "content_type", "body_len"] rfl (by decide)
  have accepted : ofHeader (Assoc.update [] (Dict.rereadItems (shortHeader n))) [] =
      .ok (longPayload n) := by
    have kind : requireKind (.str "text") = .ok .text := rfl
    have contentType : requireContentType (.str (letters n)) = .ok (letters n) := by
      cases n with
      | zero => cases size
      | succ n => rfl
    simp only [ofHeader, Dict.reread_get? keyed]
    simp [shortHeader, Val.reread, requireLength, kind, requireFilename, letters_reread,
      contentType, requireEncoding, longPayload]
  refine ⟨MAGIC ++ packLength short.length ++ short ++ [], ?_, ?_⟩
  · simp only [fromBytes, bind_eq_ok, Prod.exists]
    refine ⟨short, [], unframe_frame (by omega), _, ?_, accepted⟩
    simp only [parseHeader, read]
    rfl
  · have large : ¬ long.length ≤ 0xFFFFFFFF := by omega
    refine ⟨invalid ["Payload header too large."], ?_⟩
    rw [toBytes, Platform.reading_exact.compact written']
    simp only [bind, Except.bind, ensure, large, decide_false, Bool.false_eq_true, if_false]

/-- A name of two surrogates comes back as one character, and the longest header that is read is not
written. -/
theorem sample_round_trips_fail :
    (¬ ∀ (R : Runtime) (p : UXSPPayload), R.JsonRereads → R.JsonExact → R.JsonJoins →
      p.contentType ≠ [] → p.encoding ≠ some [] →
        ∃ raw, p.toBytes R = .ok raw ∧ fromBytes R raw = .ok p) ∧
    ¬ ∀ (R : Runtime) (raw : Bytes) (p : UXSPPayload), R.JsonRereads → R.JsonExact → R.JsonJoins →
      fromBytes R raw = .ok p → ∃ again, p.toBytes R = .ok again ∧ fromBytes R again = .ok p := by
  constructor
  · intro always
    obtain ⟨raw, packed, unpacked⟩ := always _ (samplePayload (some sampleName))
      Platform.reading_json Platform.reading_exact reading_joins (by decide)
      (samplePayload_encoding _)
    have reread := fromBytes_toBytes Platform.reading_json (by decide) (samplePayload_encoding _)
      packed
    rw [unpacked, Except.ok.injEq] at reread
    have names := congrArg UXSPPayload.filename reread
    revert names
    decide
  · intro always
    obtain ⟨raw, accepted, e, refused⟩ := longPayload_refused
    obtain ⟨again, packed, -⟩ := always _ raw _ Platform.reading_json Platform.reading_exact
      reading_joins accepted
    rw [refused] at packed
    cases packed

end UXSPPayload

end Uxsp
