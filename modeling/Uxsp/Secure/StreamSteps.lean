import Uxsp.Secure.Delivery
import Uxsp.Secure.Stream

/-!
# What the streams of `uxsp.secure._stream` have done

`StreamRun` is a call of `sendStream` whose packages were all made.  `Given` says in which forms
packages are handed to `receiveStream`, and `iterPackages_given` what it reads there.
-/

namespace Uxsp.Secure

variable {P : Platform} {A B : Identity P}

/-! ## Lines -/

/-- No space starts with the byte. -/
def Apart (spaces : List Bytes) (c : UInt8) : Bool :=
  spaces.all fun space => space.head?.any fun x => x != c

theorem dropSpaces_apart {spaces : List Bytes} {c : UInt8} (apart : Apart spaces c = true)
    (rest : Bytes) (n : ℕ) : dropSpaces spaces n (c :: rest) = c :: rest := by
  cases n with
  | zero => rfl
  | succ n =>
      have none : spaces.find? (fun space => space.isPrefixOf (c :: rest)) = none := by
        refine List.find?_eq_none.mpr fun space mem => ?_
        have other := List.all_eq_true.mp apart space mem
        cases space with
        | nil => cases other
        | cons x t => simp [List.isPrefixOf, bne_iff_ne.mp other]
      rw [dropSpaces, none]

/-- An object has no space at its ends. -/
theorem strip_object (inner : Bytes) : strip (123 :: (inner ++ [125])) = 123 :: (inner ++ [125]) := by
  have front : Apart SPACES 123 = true := by decide +kernel
  have back : Apart (SPACES.map List.reverse) 125 = true := by decide +kernel
  have reversed : (123 :: (inner ++ [125])).reverse = 125 :: (inner.reverse ++ [123]) := by simp
  rw [strip, dropSpaces_apart front, reversed, dropSpaces_apart back, ← reversed,
    List.reverse_reverse]

/-- The JSON text of a package, also with its line end. -/
theorem parseLine_toJson {R : Runtime} (line : R.JsonLine) {p : SecurePackage} {text : Bytes}
    (written : p.toJson R = .ok text) : parseLine R text = some (SecurePackage.fromJson R text) := by
  obtain ⟨inner, rfl, _⟩ := line written
  rw [parseLine, strip_object, if_neg (List.cons_ne_nil _ _)]

/-- Lines behind one another are split at their ends. -/
theorem splitOnP_lines {isEnd : UInt8 → Bool} (ends : isEnd 10 = true) {lines : List Bytes}
    (whole : ∀ line ∈ lines, ∀ b ∈ line, isEnd b = false) :
    (lines.flatMap fun line => line ++ [10]).splitOnP isEnd = lines ++ [[]] := by
  induction lines with
  | nil => rfl
  | cons line lines ih =>
      obtain ⟨here, rest⟩ := List.forall_mem_cons.mp whole
      rw [List.flatMap_cons, List.append_assoc, List.singleton_append,
        List.splitOnP_append_cons_of_forall_mem here 10 ends, ih rest, List.cons_append]

/-! ## What is handed to the receiver -/

/-- The packages are handed over as they are, as lines of JSON, in a file or through a handle. -/
inductive Given (R : Runtime) (packages : List SecurePackage) : StreamInput → Prop
  | packages : Given R packages (.items (packages.map .package))
  | lines {texts : List Bytes} (written : packages.mapM (SecurePackage.toJson R) = .ok texts) :
      Given R packages (.items (texts.map .text))
  | file {text : Bytes} (written : writeNdjson R packages = .ok text) :
      Given R packages (.file text)
  | handle {text : Bytes} (written : writeNdjson R packages = .ok text) :
      Given R packages (.handle text)

/-- A package as it was, or as JSON reads it back. -/
def Back (p q : SecurePackage) : Prop := q = p ∨ q = p.reread

section

variable {R : Runtime} {packages : List SecurePackage} {texts : List Bytes}

theorem parseLines (json : R.JsonRereads) (line : R.JsonLine)
    (written : packages.mapM (SecurePackage.toJson R) = .ok texts) :
    texts.filterMap (parseLine R) = packages.map fun p => .ok p.reread := by
  rw [mapM_eq_ok] at written
  induction written with
  | nil => rfl
  | cons here _ ih =>
      rw [List.filterMap_cons_some (parseLine_toJson line here), ih, List.map_cons,
        SecurePackage.fromJson_reread json here]

/-- The lines of a file of packages. -/
theorem splitOnP_ndjson (line : R.JsonLine) {isEnd : UInt8 → Bool} (ends : isEnd 10 = true)
    (within : ∀ b, isEnd b = true → b = 10 ∨ b = 13)
    (written : packages.mapM (SecurePackage.toJson R) = .ok texts) :
    (texts.flatMap fun text => text ++ [10]).splitOnP isEnd = texts ++ [[]] := by
  refine splitOnP_lines ends fun text mem b inside => ?_
  rw [mapM_eq_ok, List.forall₂_iff_get] at written
  obtain ⟨k, less, rfl⟩ := List.mem_iff_getElem.mp mem
  obtain ⟨inner, shape, plain⟩ := line (written.2 k (written.1 ▸ less) less)
  refine Bool.eq_false_iff.mpr fun ended => ?_
  obtain ⟨noLf, noCr⟩ : b ≠ 10 ∧ b ≠ 13 := by
    rw [show texts[k] = 123 :: (inner ++ [125]) from shape] at inside
    obtain rfl | tail := List.mem_cons.mp inside
    · decide
    · obtain mid | last := List.mem_append.mp tail
      · exact plain b mid
      · obtain rfl := List.mem_singleton.mp last
        decide
  obtain lf | cr := within b ended
  · exact noLf lf
  · exact noCr cr

/-- What the receiver reads where packages were given. -/
theorem iterPackages_given (json : R.JsonRereads) (line : R.JsonLine) {input : StreamInput}
    (given : Given R packages input) :
    ∃ back, iterPackages R input = back.map .ok ∧ List.Forall₂ Back packages back := by
  have reread : List.Forall₂ Back packages (packages.map SecurePackage.reread) := by
    rw [List.forall₂_map_right_iff, List.forall₂_same]
    exact fun p _ => .inr rfl
  have blank : parseLine R [] = none := if_pos rfl
  cases given with
  | packages =>
      refine ⟨packages, ?_, List.forall₂_same.mpr fun p _ => .inl rfl⟩
      rw [iterPackages, List.filterMap_map]
      exact List.filterMap_eq_map.symm ▸ rfl
  | lines written =>
      refine ⟨_, ?_, reread⟩
      rw [iterPackages, List.filterMap_map, List.map_map]
      exact parseLines json line written
  | file written =>
      simp only [writeNdjson, bind_eq_ok, pure_eq_ok] at written
      obtain ⟨texts, written, rfl⟩ := written
      refine ⟨_, ?_, reread⟩
      rw [iterPackages, splitOnP_ndjson line rfl (by simp) written, List.filterMap_append,
        parseLines json line written, List.map_map, List.filterMap_cons_none blank]
      exact List.append_nil _
  | handle written =>
      simp only [writeNdjson, bind_eq_ok, pure_eq_ok] at written
      obtain ⟨texts, written, rfl⟩ := written
      refine ⟨_, ?_, reread⟩
      rw [iterPackages, splitOnP_ndjson line rfl (by simp +contextual) written,
        List.filterMap_append, parseLines json line written, List.map_map,
        List.filterMap_cons_none blank]
      exact List.append_nil _

end

/-! ## What was sent -/

/-- A call of `sendStream` that made all its packages. -/
structure StreamRun (A : Identity P) where
  peer : Peer
  options : StreamOptions
  source : StreamSource
  checked : ℕ → ℚ
  now : ℕ → ℚ
  coins : ℕ → SendCoins
  packages : List SecurePackage
  returned : sendStream A peer options source checked now coins = .ok packages

/-- The source has bytes where it has pieces. -/
theorem StreamSource.flatten_chunks {source : StreamSource} {chunkSize : ℤ}
    (positive : 0 < chunkSize) : (source.chunks chunkSize).flatten = source.bytes := by
  cases source with
  | reads name data =>
      rw [StreamSource.chunks, if_pos positive]
      exact Slices.flatten_slices (Int.lt_toNat.mpr positive) data
  | items xs =>
      rw [StreamSource.chunks, StreamSource.bytes]
      induction xs with
      | nil => rfl
      | cons x xs ih =>
          by_cases empty : x = []
          · rw [List.filter_cons_of_neg (by simpa using empty), ih, List.flatten_cons, empty,
              List.nil_append]
          · rw [List.filter_cons_of_pos (by simpa using empty), List.flatten_cons, ih,
              List.flatten_cons]

theorem StreamSource.ne_nil_of_mem_chunks {source : StreamSource} {chunkSize : ℤ} {chunk : Bytes}
    (positive : 0 < chunkSize) (mem : chunk ∈ source.chunks chunkSize) : chunk ≠ [] := by
  cases source with
  | reads name data =>
      rw [StreamSource.chunks, if_pos positive] at mem
      exact Slices.ne_nil_of_mem_slices (Int.lt_toNat.mpr positive) mem
  | items xs => exact of_decide_eq_true (List.mem_filter.mp mem).2

/-- A source without bytes has no chunks. -/
theorem StreamSource.chunks_eq_nil {source : StreamSource} {chunkSize : ℤ}
    (positive : 0 < chunkSize) : source.chunks chunkSize = [] ↔ source.bytes = [] := by
  rw [← StreamSource.flatten_chunks positive]
  constructor
  · intro none
    rw [none]
    rfl
  · intro none
    cases cut : source.chunks chunkSize with
    | nil => rfl
    | cons chunk rest =>
        have mem : chunk ∈ source.chunks chunkSize := cut ▸ List.mem_cons_self
        exact absurd (List.flatten_eq_nil_iff.mp none chunk mem)
          (StreamSource.ne_nil_of_mem_chunks positive mem)

namespace StreamRun

variable (run : StreamRun A)

def chunks : List Bytes := run.source.chunks run.options.chunkSize

/-- What the packages hold. -/
def pieces : List Bytes := if run.chunks = [] then [[]] else run.chunks

/-- The type the packages have. -/
def dataType : Str := if run.chunks = [] then "binary" else run.options.dataType

/-- The call that made the package of a piece. -/
structure Made (piece : Bytes) (index : ℕ) (e : SendCall A) : Prop where
  peer : e.peer = run.peer
  now : e.now = run.now index
  coins : e.coins = run.coins index
  dataType : e.dataType = "binary"
  packed : ∃ filename,
    packBinary P.toRuntime piece filename "application/octet-stream" = .ok e.payload

variable {run}

theorem exists_made {piece : Bytes} {index : ℕ} {package : SecurePackage}
    (sent : run.options.sendPiece run.source A run.peer piece index (run.checked index)
      (run.now index) (run.coins index) = .ok package) :
    ∃ e : SendCall A, run.Made piece index e ∧ e.package = package := by
  simp only [StreamOptions.sendPiece, sendBinaryPiece, bind_eq_ok] at sent
  obtain ⟨packed, made, returned⟩ := sent
  exact ⟨⟨run.peer, packed, "binary", _, _, _, _, package, returned⟩,
    ⟨rfl, rfl, rfl, rfl, _, made⟩, rfl⟩

/-- Every package was made in a call of its own. -/
theorem made (run : StreamRun A) : List.Forall₂ (fun piece package =>
    ∃ e : SendCall A, run.Made piece.1 piece.2 e ∧ package = retyped run.dataType e.package)
      run.pieces.zipIdx run.packages := by
  have returned := run.returned
  unfold sendStream at returned
  unfold pieces dataType chunks
  cases cut : run.source.chunks run.options.chunkSize with
  | nil =>
      rw [cut] at returned
      simp only [bind_eq_ok, pure_eq_ok] at returned
      obtain ⟨package, sent, same⟩ := returned
      obtain ⟨e, made, rfl⟩ := exists_made sent
      rw [if_pos rfl, if_pos rfl, ← same]
      refine .cons ⟨e, made, ?_⟩ .nil
      obtain ⟨_, _, _, facts⟩ := e.exists_made
      rw [retyped, ← made.dataType, ← facts.dataType]
  | cons chunk chunks =>
      rw [cut] at returned
      simp only [mapM_eq_ok] at returned
      rw [if_neg (List.cons_ne_nil _ _), if_neg (List.cons_ne_nil _ _)]
      refine returned.imp fun piece package sent => ?_
      simp only [bind_eq_ok, pure_eq_ok] at sent
      obtain ⟨package', sent, rfl⟩ := sent
      obtain ⟨e, made, rfl⟩ := exists_made sent
      exact ⟨e, made, rfl⟩

theorem length_packages (run : StreamRun A) : run.packages.length = run.pieces.length := by
  rw [← run.made.length_eq, List.length_zipIdx]

theorem flatten_pieces (positive : 0 < run.options.chunkSize) :
    run.pieces.flatten = run.source.bytes := by
  rw [← StreamSource.flatten_chunks positive, pieces, chunks]
  split
  · rename_i none
    rw [none]
    rfl
  · rfl

/-- A source without bytes has no chunks. -/
theorem chunks_eq_nil (positive : 0 < run.options.chunkSize) :
    run.chunks = [] ↔ run.source.bytes = [] :=
  StreamSource.chunks_eq_nil positive

end StreamRun

/-- What a package of a stream is unpacked to. -/
theorem StreamRun.Made.unpacks (json : P.JsonRereads) {run : StreamRun A} {piece : Bytes}
    {index : ℕ} {e : SendCall A} (made : run.Made piece index e) :
    (UXSPPayload.fromBytes P.toRuntime e.payload).map UXSPPayload.body = .ok piece := by
  obtain ⟨filename, packed⟩ := made.packed
  simp only [packBinary, bind_eq_ok, ensure_eq_ok] at packed
  obtain ⟨_, contentType, _, _, packed⟩ := packed
  rw [UXSPPayload.fromBytes_toBytes json (of_decide_eq_true contentType) (Option.some_ne_none [] ∘ Eq.symm)
    packed]
  rfl

theorem SendCall.chunks_of_single {e : SendCall A} (single : e.chunked = false) :
    e.package.chunks = .list [] := by
  have returned := e.returned
  unfold sendPayload at returned
  rw [if_pos (not_lt.mp (of_decide_eq_false single))] at returned
  simp only [bind_eq_ok, pure_eq_ok] at returned
  obtain ⟨_, _, built⟩ := returned
  rw [← built]

/-- A package of a stream, also read back from JSON, has the envelope, the chunks and the kind of
its call. -/
theorem Back.genuine {e : SendCall A} {type : Str} {package : SecurePackage}
    (back : Back (retyped type e.package) package) : e.Genuine package := by
  obtain rfl | rfl := back
  · exact ⟨rfl, rfl, rfl⟩
  · obtain ⟨env, f, b, made⟩ := e.exists_made
    refine ⟨Val.reread_of_plain made.plain.1, rfl, Val.reread_of_plain ?_⟩
    cases chunked : e.chunked with
    | true =>
        obtain ⟨packed, encrypted, chunks⟩ := made.chunks chunked
        rw [retyped, chunks.chunks]
        exact chunkEntries_plain encrypted
    | false =>
        rw [retyped, SendCall.chunks_of_single chunked]
        rfl

end Uxsp.Secure
