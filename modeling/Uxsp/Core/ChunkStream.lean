import Uxsp.Core.ChunkTransfer

/-!
# `uxsp.core.chunking.create_chunked_stream_transfer`

The generator reads a file twice: the first pass feeds its blocks to the hash, the second one packs
them.  A handle is what is still to be read, and a read takes a whole block while there is one.
`Stream` is what a generator yields and how it ends.

`stream_eq_memory`: in memory the same chunks are made, or the same error is raised.
-/

namespace Uxsp

open Chunking

/-- What a generator yielded, and the exception that ended it. -/
structure Stream where
  yielded : List Bytes
  ended : Except PyErr Unit

namespace Stream

/-- A generator that returns. -/
def stop : Stream := ⟨[], .ok ()⟩

def raise (e : PyErr) : Stream := ⟨[], .error e⟩

/-- `yield raw`. -/
def yield (raw : Bytes) (rest : Stream) : Stream := ⟨raw :: rest.yielded, rest.ended⟩

/-- `list(generator)`. -/
def toList (s : Stream) : Except PyErr (List Bytes) :=
  match s.ended with
  | .ok () => .ok s.yielded
  | .error e => .error e

end Stream

theorem toNat_pos {chunkSize : ℤ} (positive : 0 < chunkSize) : 0 < chunkSize.toNat :=
  Int.lt_toNat.mpr positive

/-- `while chunk_bytes := f.read(chunk_size): h.update(chunk_bytes)`; the hash is of all the bytes
it was given. -/
def hashBlocks (size : ℕ) (positive : 0 < size) (hashed rest : Bytes) : Bytes :=
  if _done : rest.take size = [] then hashed
  else hashBlocks size positive (hashed ++ rest.take size) (rest.drop size)
termination_by rest.length
decreasing_by
  have nonempty : rest ≠ [] := fun none => _done (by rw [none, List.take_nil])
  have long := List.length_pos_iff.mpr nonempty
  rw [List.length_drop]
  omega

namespace ChunkStream

variable (P : Platform) (shared : TransferMeta) (id : Uuid4) (size : ℕ)

/-- The chunk that the generator packs. -/
def chunkOf (total : ℕ) (fileHash : Str) (index : ℕ) (body : Bytes) : UXSPChunk where
  transferId := id.hex
  chunkIndex := index
  totalChunks := total
  fileHash := fileHash
  chunkHash := sha256Hex P body
  kind := shared.kind
  body := body
  filename := shared.filename
  contentType := shared.contentType
  encoding := shared.encoding

/-- `uxsp_chunk.to_bytes()` of a chunk that is constructed. -/
def pack (c : UXSPChunk) : Except PyErr Bytes := do
  (← c.postInit).toBytes P.toRuntime

/-- The loop over `range(total)`, with `count` indices to go. -/
def yieldChunks (total : ℕ) (fileHash : Str) : (count index : ℕ) → (rest : Bytes) → Stream
  | 0, _, _ => .stop
  | count + 1, index, rest =>
      let body := rest.take size
      if body = [] then .stop
      else
        match pack P (chunkOf P shared id total fileHash index body) with
        | .error e => .raise e
        | .ok raw => .yield raw (yieldChunks total fileHash count (index + 1) (rest.drop size))

end ChunkStream

open ChunkStream

/-- Stream a file that does not change, if there is one at the path. -/
def createChunkedStreamTransfer (P : Platform) (filePath : Str) (file : Option Bytes)
    (chunkSize : ℤ) (shared : TransferMeta) (id : Uuid4) : Stream :=
  if positive : 0 < chunkSize then
    match file with
    | none => .raise (invalid ["File not found: ", .str filePath])
    | some data =>
        let size := chunkSize.toNat
        let fileSize := data.length
        let total := if fileSize = 0 then 1 else (fileSize + size - 1) / size
        let fileHash := sha256Hex P (hashBlocks size (toNat_pos positive) [] data)
        if fileSize = 0 then
          match pack P (chunkOf P shared id total fileHash 0 []) with
          | .error e => .raise e
          | .ok raw => .yield raw .stop
        else yieldChunks P shared id size total fileHash total 0 data
  else .raise (invalid ["chunk_size must be positive."])

/-! ## Both ways of chunking agree -/

variable {P : Platform} {shared : TransferMeta} {id : Uuid4} {size : ℕ} {data : Bytes}

theorem hashBlocks_eq (positive : 0 < size) (hashed rest : Bytes) :
    hashBlocks size positive hashed rest = hashed ++ rest := by
  fun_induction hashBlocks size positive hashed rest with
  | case1 hashed rest empty =>
      have none : rest = [] := by
        rcases List.take_eq_nil_iff.mp empty with zero | none
        · omega
        · exact none
      rw [none, List.append_nil]
  | case2 hashed rest more ih => rw [ih, List.append_assoc, List.take_append_drop]

@[simp] theorem Stream.toList_stop : Stream.stop.toList = .ok [] := rfl

@[simp] theorem Stream.toList_raise (e : PyErr) : (Stream.raise e).toList = .error e := rfl

theorem Stream.toList_yield (raw : Bytes) (rest : Stream) :
    (Stream.yield raw rest).toList = do
      let raws ← rest.toList
      return raw :: raws := by
  obtain ⟨raws, ended⟩ := rest
  cases ended <;> rfl

namespace ChunkStream

variable {total : ℕ} {fileHash : Str}

/-- With the indices of all slices to go, the loop packs slice after slice. -/
theorem toList_yieldChunks (positive : 0 < size) (count index : ℕ) (rest : Bytes)
    (all : count = Slices.count size rest.length) :
    (yieldChunks P shared id size total fileHash count index rest).toList =
      ((Slices.slices size rest).mapIdx fun k body =>
        chunkOf P shared id total fileHash (index + k) body).mapM (pack P) := by
  induction count generalizing index rest with
  | zero =>
      have none : Slices.slices size rest = [] :=
        List.length_eq_zero_iff.mp ((Slices.length_slices size rest).trans all.symm)
      rw [none]
      rfl
  | succ count ih =>
      have nonempty : rest ≠ [] := by
        rintro rfl
        have zero := @Slices.count_le size 0 positive
        rw [List.length_nil] at all
        omega
      have length := List.length_pos_iff.mpr nonempty
      have left : count = Slices.count size (rest.drop size).length := by
        rw [Slices.count_succ positive length] at all
        rw [List.length_drop]
        exact Nat.succ.inj all
      have block : rest.take size ≠ [] := by
        rw [Ne, List.take_eq_nil_iff, not_or]
        exact ⟨positive.ne', nonempty⟩
      have later : (fun k body => chunkOf P shared id total fileHash (index + (k + 1)) body) =
          fun k body => chunkOf P shared id total fileHash (index + 1 + k) body := by
        funext k body
        rw [Nat.add_comm k, Nat.add_assoc]
      rw [Slices.slices_of_ne_nil positive nonempty, List.mapIdx_cons, List.mapM_cons, later,
        ← ih (index + 1) (rest.drop size) left]
      simp only [yieldChunks, if_neg block, Nat.add_zero]
      cases packed : pack P (chunkOf P shared id total fileHash index (rest.take size)) with
      | error e => rfl
      | ok raw => exact Stream.toList_yield raw _

end ChunkStream

/-- The transfers of two identifiers differ in the identifier only. -/
theorem transferChunks_transferId (id' : Uuid4) : transferChunks P data size shared id' =
    (transferChunks P data size shared id).map fun c => { c with transferId := id'.hex } := by
  refine List.ext_getElem ?_ fun k less less' => ?_
  · rw [List.length_map, length_transferChunks, length_transferChunks]
  · simp only [transferChunks, List.getElem_map, List.getElem_mapIdx]
    rfl

/-- The chunks of a file, one by one, are those of its bytes, or the same error ends both; and two
transfers differ in their identifiers only. -/
theorem stream_eq_memory {filePath : Str} {chunkSize : ℤ} (positive : 0 < chunkSize) :
    (createChunkedStreamTransfer P filePath (some data) chunkSize shared id).toList =
        createChunkedTransfer P data chunkSize shared id ∧
      ∀ id', transferChunks P data chunkSize.toNat shared id' =
        (transferChunks P data chunkSize.toNat shared id).map fun c =>
          { c with transferId := id'.hex } := by
  have size : 0 < chunkSize.toNat := by omega
  refine ⟨?_, transferChunks_transferId⟩
  simp only [createChunkedStreamTransfer, createChunkedTransfer, dif_pos positive,
    hashBlocks_eq size, List.nil_append, decide_eq_true positive]
  change _ = (transferChunks P data chunkSize.toNat shared id).mapM (pack P)
  rcases eq_or_ne data [] with rfl | nonempty
  · change Stream.toList (match pack P (chunkOf P shared id 1 (sha256Hex P []) 0 []) with
        | .error e => .raise e
        | .ok raw => .yield raw .stop) =
      [chunkOf P shared id 1 (sha256Hex P []) 0 []].mapM (pack P)
    rw [List.mapM_cons]
    cases pack P (chunkOf P shared id 1 (sha256Hex P []) 0 []) <;> rfl
  · have long := (List.length_pos_iff.mpr nonempty).ne'
    rw [if_neg long, if_neg long]
    refine (toList_yieldChunks size (Slices.count chunkSize.toNat data.length) 0 data rfl).trans ?_
    simp only [transferChunks, rawChunks, if_neg nonempty, Nat.zero_add, Slices.length_slices]
    rfl

/-- Four bytes in blocks of two are two chunks either way. -/
theorem stream_eq_memory_sample :
    (createChunkedStreamTransfer .reading "data.bin" (some [1, 2, 3, 4]) 2 .default
      ChunkTransfer.sampleId).toList =
        createChunkedTransfer .reading [1, 2, 3, 4] 2 .default ChunkTransfer.sampleId ∧
      ∀ id', transferChunks .reading [1, 2, 3, 4] 2 .default id' =
        (transferChunks .reading [1, 2, 3, 4] 2 .default ChunkTransfer.sampleId).map fun c =>
          { c with transferId := id'.hex } :=
  stream_eq_memory (by decide)

end Uxsp
