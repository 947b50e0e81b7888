import Uxsp.Core.Chunking
import Uxsp.Crypto.Transparent

/-!
# What a chunk transfer returns

JSON joins surrogate pairs, so a chunk is read back as `UXSPChunk.reread` says, if `from_bytes`
accepts it at all: it wants a content type and no empty encoding, which `to_bytes` does not ask for.
The chunks of a transfer are then the chunks of a transfer with metadata `TransferMeta.reread`, and
`reassembleDecoded_perm` applies to them.

`reassembleDecoded_parts` is the converse: what reassembles, whoever made it, is a numbered list of
chunks that agree.
-/

namespace Uxsp

open Chunking

/-- Metadata as it is read back. -/
def TransferMeta.reread (shared : TransferMeta) : TransferMeta where
  kind := shared.kind
  filename := shared.filename.map Str.reread
  contentType := shared.contentType.reread
  encoding := shared.encoding.map Str.reread

/-- No text of the metadata has a surrogate pair. -/
structure TransferMeta.Unpaired (shared : TransferMeta) : Prop where
  filename : ∀ s ∈ shared.filename, s.Unpaired
  contentType : shared.contentType.Unpaired
  encoding : ∀ s ∈ shared.encoding, s.Unpaired

theorem map_reread {o : Option Str} (unpaired : ∀ s ∈ o, s.Unpaired) : o.map Str.reread = o := by
  cases o with
  | none => rfl
  | some s => exact congrArg some (unpaired s rfl).reread

theorem TransferMeta.Unpaired.reread {shared : TransferMeta} (unpaired : shared.Unpaired) :
    shared.reread = shared := by
  rw [TransferMeta.reread, map_reread unpaired.filename, unpaired.contentType.reread,
    map_reread unpaired.encoding]

/-- What `from_bytes` asks of the metadata. -/
structure TransferMeta.Accepted (shared : TransferMeta) : Prop where
  contentType : shared.contentType ≠ []
  encoding : shared.encoding ≠ some []

namespace UXSPChunk

variable {P : Platform} {c : UXSPChunk}

/-- A chunk as it is read back. -/
def reread (c : UXSPChunk) : UXSPChunk :=
  { c with
    filename := c.filename.map Str.reread
    contentType := c.contentType.reread
    encoding := c.encoding.map Str.reread }

/-- What a chunk of a transfer has, whatever its metadata. -/
structure Numbered (P : Platform) (c : UXSPChunk) : Prop where
  transferId : c.transferId ≠ [] ∧ c.transferId.reread = c.transferId
  index : c.chunkIndex < c.totalChunks
  fileHash : ∃ data, c.fileHash = sha256Hex P data
  chunkHash : c.chunkHash = sha256Hex P c.body

theorem Numbered.validate (numbered : c.Numbered P) (field field' : String) :
    validateSha256Hex (.str c.fileHash) field = .ok c.fileHash ∧
      validateSha256Hex (.str c.chunkHash) field' = .ok c.chunkHash := by
  obtain ⟨data, file⟩ := numbered.fileHash
  rw [file, numbered.chunkHash]
  exact ⟨validateSha256Hex_sha256 P data field, validateSha256Hex_sha256 P c.body field'⟩

theorem Numbered.postInit (numbered : c.Numbered P) : c.postInit = .ok c := by
  obtain ⟨fileHash, chunkHash⟩ := numbered.validate "file_hash_sha256" "chunk_hash_sha256"
  simp only [UXSPChunk.postInit, bind_eq_ok, pure_eq_ok]
  exact ⟨_, fileHash, _, chunkHash, rfl⟩

theorem Numbered.reread (numbered : c.Numbered P) : c.reread.Numbered P :=
  ⟨numbered.transferId, numbered.index, numbered.fileHash, numbered.chunkHash⟩

theorem requireNonEmpty_eq_ok {s t : Str} {field : String} :
    requireNonEmpty (.str s) field = .ok t ↔ s ≠ [] ∧ t = s := by
  cases s with
  | nil => exact iff_of_false nofun fun h => h.1 rfl
  | cons c s => simp [requireNonEmpty, eq_comm]

theorem reread_optional (o : Option Str) :
    (optional o).reread = optional (o.map Str.reread) := by
  cases o <;> rfl

@[simp] theorem reread_sha256Hex (data : Bytes) :
    (sha256Hex P data).reread = sha256Hex P data :=
  Str.reread_hex _

/-- The header is read back as that of the chunk that is read back. -/
theorem Numbered.reread_header (numbered : c.Numbered P) (key : Str) :
    Dict.get? (Assoc.update [] (Dict.rereadItems c.header)) key = c.reread.header.get? key := by
  obtain ⟨data, file⟩ := numbered.fileHash
  have same : c.reread.header = c.header.map fun item => (item.1, item.2.reread) := by
    simp only [header, UXSPChunk.reread, List.map_cons, List.map_nil, Val.reread, reread_optional,
      ChunkKind.reread_str, numbered.transferId.2, numbered.chunkHash, file, reread_sha256Hex]
  rw [Dict.reread_get? c.header_wellKeyed, same]
  unfold Dict.get?
  induction c.header with
  | nil => rfl
  | cons item d ih =>
      rw [List.map_cons, Assoc.lookup_cons_ite, Assoc.lookup_cons_ite]
      split
      · rfl
      · exact ih

/-- What `from_bytes` makes of the header of a numbered chunk. -/
theorem Numbered.ofHeader (numbered : c.Numbered P) {d : Dict}
    (read : ∀ key, d.get? key = c.header.get? key) {c' : UXSPChunk} :
    UXSPChunk.ofHeader P d c.body = .ok c' ↔
      c.contentType ≠ [] ∧ c.encoding ≠ some [] ∧ c' = c := by
  obtain ⟨fileHash, chunkHash⟩ := numbered.validate "file_hash_sha256" "chunk_hash_sha256"
  have positive : c.totalChunks ≠ 0 := (Nat.zero_lt_of_lt numbered.index).ne'
  have transferId := requireNonEmpty_str numbered.transferId.1 "transfer_id"
  have init := numbered.postInit
  simp only [UXSPChunk.ofHeader, read]
  simp only [header, Dict.get?_cons, String.reduceEq, if_false, if_true, Option.getD_some,
    requireNonNegativeInt_nat, requireKind_str, requireOptional_optional, requireNonEmpty_eq_ok,
    transferId, fileHash, chunkHash, bind_eq_ok, ensure_eq_ok, Except.ok.injEq, exists_eq_left',
    decide_eq_true_eq, numbered.index]
  constructor
  · rintro ⟨-, -, contentType, ⟨nonempty, rfl⟩, -, encoding, -, -, -, -, -, -, made⟩
    exact ⟨nonempty, encoding, Except.ok.inj (made.symm.trans init)⟩
  · rintro ⟨nonempty, encoding, rfl⟩
    exact ⟨(), trivial, _, ⟨nonempty, rfl⟩, (), encoding, (), positive, (), trivial, (),
      numbered.chunkHash.symm, init⟩

theorem toBytes_eq_ok {R : Runtime} {raw : Bytes} : c.toBytes R = .ok raw ↔
    ∃ text, R.jsonCompact (.dict c.header) = .ok text ∧ text.length ≤ MAX_HEADER_LEN ∧
      MAGIC ++ packLength text.length ++ text ++ c.body = raw := by
  simp only [toBytes, bind_eq_ok, ensure_eq_ok, pure_eq_ok, decide_eq_true_eq, exists_const]

/-- What `from_bytes` makes of a packed chunk. -/
theorem Numbered.fromBytes_toBytes (json : P.JsonRereads) (numbered : c.Numbered P) {raw : Bytes}
    (packed : c.toBytes P.toRuntime = .ok raw) {c' : UXSPChunk} :
    fromBytes P raw = .ok c' ↔ c.contentType ≠ [] ∧ c.encoding ≠ some [] ∧ c' = c.reread := by
  obtain ⟨text, written, short, rfl⟩ := toBytes_eq_ok.mp packed
  have read := json.compact written
  have parsed : parseHeader P.toRuntime text =
      .ok (Assoc.update [] (Dict.rereadItems c.header)) := by
    simp only [parseHeader, read]
    rfl
  have unframed : unframe (MAGIC ++ packLength text.length ++ text ++ c.body) = .ok (text, c.body) :=
    unframe_frame short
  have contentType : c.reread.contentType ≠ [] ↔ c.contentType ≠ [] := Str.reread_eq_nil.not
  have encoding : c.reread.encoding ≠ some [] ↔ c.encoding ≠ some [] := by
    refine not_congr ?_
    rw [UXSPChunk.reread, Option.map_eq_some_iff]
    simp only [Str.reread_eq_nil, exists_eq_right]
  rw [← contentType, ← encoding, ← numbered.reread.ofHeader numbered.reread_header]
  simp only [fromBytes, unframed, parsed, bind_eq_ok, Except.ok.injEq, exists_eq_left']
  rfl

end UXSPChunk

/-! ## The chunks of a transfer -/

variable {P : Platform} {data : Bytes} {size : ℕ} {chunkSize : ℤ} {shared : TransferMeta}
  {id : Uuid4} {c : UXSPChunk} {packed raws : List Bytes}

theorem reread_transferId : id.hex.reread = id.hex := by
  have plain : ∀ d : Fin 16, (Str.hexDigit d).isHighSurrogate = false := by decide
  refine Str.reread_of_forall fun c mem => ?_
  obtain ⟨d, -, rfl⟩ := List.mem_map.mp mem
  exact plain d

theorem transferChunk_numbered {total index : ℕ} (less : index < total) (body : Bytes) :
    (transferChunk P data total shared id index body).Numbered P where
  transferId := by
    refine ⟨fun none => ?_, reread_transferId⟩
    have size := congrArg List.length none
    rw [transferChunk, Uuid4.hex, List.length_map, id.length_eq] at size
    cases size
  index := less
  fileHash := ⟨data, rfl⟩
  chunkHash := rfl

/-- Reading the chunks of a transfer back gives the chunks of another. -/
theorem map_reread_transferChunks : (transferChunks P data size shared id).map UXSPChunk.reread =
    transferChunks P data size shared.reread id := by
  refine List.ext_getElem ?_ fun k less less' => ?_
  · rw [List.length_map, length_transferChunks, length_transferChunks]
  · simp only [transferChunks, List.getElem_map, List.getElem_mapIdx]
    rfl

theorem exists_forall₂ {α β : Type*} {r : α → β → Prop} {xs : List α}
    (each : ∀ x ∈ xs, ∃ y, r x y) : ∃ ys, List.Forall₂ r xs ys := by
  induction xs with
  | nil => exact ⟨[], .nil⟩
  | cons x xs ih =>
      obtain ⟨y, here⟩ := each x List.mem_cons_self
      obtain ⟨ys, rest⟩ := ih fun z mem => each z (List.mem_cons_of_mem x mem)
      exact ⟨y :: ys, .cons here rest⟩

theorem createChunkedTransfer_eq_ok : createChunkedTransfer P data chunkSize shared id = .ok packed ↔
    0 < chunkSize ∧ List.Forall₂ (fun c raw => c.toBytes P.toRuntime = .ok raw)
      (transferChunks P data chunkSize.toNat shared id) packed := by
  have init : ∀ c ∈ transferChunks P data chunkSize.toNat shared id, ∀ raw : Bytes,
      (∃ c', c.postInit = .ok c' ∧ c'.toBytes P.toRuntime = .ok raw) ↔
        c.toBytes P.toRuntime = .ok raw := by
    intro c mem raw
    obtain ⟨index, body, less, rfl⟩ := mem_transferChunks mem
    simp only [(transferChunk_numbered less body).postInit, Except.ok.injEq, exists_eq_left']
  simp only [createChunkedTransfer, bind_eq_ok, ensure_eq_ok, mapM_eq_ok, decide_eq_true_eq,
    exists_const]
  refine and_congr_right fun _ => ?_
  rw [List.forall₂_iff_get, List.forall₂_iff_get]
  refine and_congr_right fun _ => forall₃_congr fun k less less' => ?_
  exact init _ (List.get_mem _ ⟨k, less⟩) _

/-- A transfer whose headers are short enough is made. -/
theorem exists_created (positive : 0 < chunkSize)
    (fits : ∀ c ∈ transferChunks P data chunkSize.toNat shared id, ∃ text,
      P.jsonCompact (.dict c.header) = .ok text ∧ text.length ≤ MAX_HEADER_LEN) :
    ∃ packed, createChunkedTransfer P data chunkSize shared id = .ok packed := by
  have bytes : ∀ c ∈ transferChunks P data chunkSize.toNat shared id,
      ∃ raw, c.toBytes P.toRuntime = .ok raw := by
    intro c mem
    obtain ⟨text, written, short⟩ := fits c mem
    exact ⟨_, UXSPChunk.toBytes_eq_ok.mpr ⟨text, written, short, rfl⟩⟩
  obtain ⟨packed, made⟩ := exists_forall₂ bytes
  exact ⟨packed, createChunkedTransfer_eq_ok.mpr ⟨positive, made⟩⟩

/-- A transfer whose metadata is accepted is decoded to the transfer with the metadata reread. -/
theorem decodes_reread (json : P.JsonRereads) (accepted : shared.Accepted)
    (chunks : List.Forall₂ (fun c raw => c.toBytes P.toRuntime = .ok raw)
      (transferChunks P data size shared id) packed) :
    List.Forall₂ (fun raw c => UXSPChunk.fromBytes P raw = .ok c) packed
      (transferChunks P data size shared.reread id) := by
  rw [← map_reread_transferChunks, List.forall₂_map_right_iff]
  rw [List.forall₂_iff_get] at chunks ⊢
  refine ⟨chunks.1.symm, fun k less less' => ?_⟩
  have bytes := chunks.2 k less' less
  obtain ⟨index, body, small, same⟩ := mem_transferChunks (List.get_mem _ ⟨k, less'⟩)
  rw [same] at bytes ⊢
  exact ((transferChunk_numbered small body).fromBytes_toBytes json bytes).mpr
    ⟨accepted.contentType, accepted.encoding, rfl⟩

/-- The metadata that a transfer returns. -/
def transferDict (P : Platform) (data : Bytes) (total : ℕ) (shared : TransferMeta) (id : Uuid4) :
    Dict :=
  [("transfer_id", .str id.hex), ("total_chunks", .int total), ("kind", .str shared.kind.str),
    ("filename", UXSPChunk.optional shared.filename), ("content_type", .str shared.contentType),
    ("encoding", UXSPChunk.optional shared.encoding),
    ("file_hash_sha256", .str (sha256Hex P data))]

/-- The chunks of a transfer, in any order, give back the payload and the metadata reread. -/
theorem reassemble_created (json : P.JsonRereads) (accepted : shared.Accepted)
    (created : createChunkedTransfer P data chunkSize shared id = .ok packed)
    (perm : raws.Perm packed) : reassembleChunkedTransfer P raws =
      .ok (transferDict P data (rawChunks data chunkSize.toNat).length shared.reread id, data) := by
  obtain ⟨positive, chunks⟩ := createChunkedTransfer_eq_ok.mp created
  have positive : 0 < chunkSize.toNat := by omega
  obtain ⟨decoded, decodes, perm⟩ := List.perm_comp_forall₂ perm (decodes_reread json accepted chunks)
  cases decoded with
  | nil =>
      have none := congrArg List.length (List.nil_perm.mp perm)
      rw [length_transferChunks, List.length_nil] at none
      exact absurd (List.length_eq_zero_iff.mp none) (rawChunks_ne_nil positive)
  | cons first rest =>
      obtain ⟨index, body, -, same⟩ := mem_transferChunks (perm.mem_iff.mp List.mem_cons_self)
      rw [reassembleChunkedTransfer, bind_eq_ok]
      refine ⟨_, mapM_eq_ok.mpr decodes, (reassembleDecoded_perm positive perm).trans ?_⟩
      rw [same]
      rfl

/-- A transfer that reassembles at all has metadata that is accepted. -/
theorem accepted_of_reassembled (json : P.JsonRereads)
    (created : createChunkedTransfer P data chunkSize shared id = .ok packed) {result : Dict × Bytes}
    (returned : reassembleChunkedTransfer P packed = .ok result) : shared.Accepted := by
  obtain ⟨positive, chunks⟩ := createChunkedTransfer_eq_ok.mp created
  have positive : 0 < chunkSize.toNat := by omega
  rw [reassembleChunkedTransfer, bind_eq_ok] at returned
  obtain ⟨decoded, mapped, -⟩ := returned
  have decodes := mapM_eq_ok.mp mapped
  cases list : transferChunks P data chunkSize.toNat shared id with
  | nil =>
      have none := congrArg List.length list
      rw [length_transferChunks, List.length_nil] at none
      exact absurd (List.length_eq_zero_iff.mp none) (rawChunks_ne_nil positive)
  | cons c rest =>
      obtain ⟨index, body, less, same⟩ := mem_transferChunks (list ▸ List.mem_cons_self)
      rw [list] at chunks
      cases chunks with
      | cons bytes _ =>
          cases decodes with
          | cons read _ =>
              rw [same] at bytes
              obtain ⟨contentType, encoding, -⟩ :=
                ((transferChunk_numbered less body).fromBytes_toBytes json bytes).mp read
              exact ⟨contentType, encoding⟩

/-! ## Whatever reassembles -/

/-- A decoded chunk has a place among the chunks it announces. -/
theorem UXSPChunk.index_lt {raw : Bytes} (read : UXSPChunk.fromBytes P raw = .ok c) :
    c.chunkIndex < c.totalChunks := by
  simp only [fromBytes, bind_eq_ok] at read
  obtain ⟨⟨text, body⟩, -, header, -, read⟩ := read
  simp only [ofHeader, bind_eq_ok, ensure_eq_ok, decide_eq_true_eq] at read
  obtain ⟨_, -, _, -, kind, -, filename, -, contentType, -, encoding, -, _, -, transferId, -,
    chunkIndex, -, totalChunks, -, _, -, _, less, fileHash, -, chunkHash, -, _, -, init⟩ := read
  simp only [postInit, bind_eq_ok, pure_eq_ok] at init
  obtain ⟨_, -, _, -, rfl⟩ := init
  exact less

/-- `n` different numbers below `n` are all of them. -/
theorem perm_range {ns : List ℕ} {n : ℕ} (nodup : ns.Nodup) (below : ∀ k ∈ ns, k < n)
    (length : ns.length = n) : ns.Perm (List.range n) := by
  refine (List.subperm_of_subset nodup fun k mem => ?_).perm_of_length_le ?_
  · exact List.mem_range.mpr (below k mem)
  · rw [List.length_range, length]

theorem exists_of_forall₂ {α β : Type*} {r : α → β → Prop} {xs : List α} {ys : List β} {y : β}
    (all : List.Forall₂ r xs ys) (mem : y ∈ ys) : ∃ x ∈ xs, r x y := by
  induction all with
  | nil => cases mem
  | cons here _ ih =>
      obtain rfl | rest := List.mem_cons.mp mem
      · exact ⟨_, List.mem_cons_self, here⟩
      · obtain ⟨x, inside, there⟩ := ih rest
        exact ⟨x, List.mem_cons_of_mem _ inside, there⟩

theorem sameTransfer_eq_ok {first : UXSPChunk} : sameTransfer first c = .ok () ↔
    c.transferId = first.transferId ∧ c.totalChunks = first.totalChunks ∧
      c.fileHash = first.fileHash ∧ c.kind = first.kind ∧ c.contentType = first.contentType ∧
      c.filename = first.filename ∧ c.encoding = first.encoding := by
  simp only [sameTransfer, bind_eq_ok, ensure_eq_ok, decide_eq_true_eq, exists_const]

/-- What reassembles is numbered from zero, agrees in all metadata, and is put together by number
to data with the digest that was announced. -/
theorem reassembled_parts {m : Dict} {r : Bytes}
    (returned : reassembleChunkedTransfer P raws = .ok (m, r)) :
    ∃ (first : UXSPChunk) (decoded ordered : List UXSPChunk),
      List.Forall₂ (fun raw c => UXSPChunk.fromBytes P raw = .ok c) raws decoded ∧
      first ∈ decoded ∧ m = metaDict first ∧ (∀ c ∈ decoded, sameTransfer first c = .ok ()) ∧
      ordered.Perm decoded ∧ ordered.map UXSPChunk.chunkIndex = List.range first.totalChunks ∧
      r = (ordered.map UXSPChunk.body).flatten ∧ sha256Hex P r = first.fileHash := by
  rw [reassembleChunkedTransfer, bind_eq_ok] at returned
  obtain ⟨decoded, mapped, returned⟩ := returned
  have decodes := mapM_eq_ok.mp mapped
  cases decoded with
  | nil => cases returned
  | cons first rest =>
      have made := returned
      simp only [reassembleDecoded, bind_eq_ok, ensure_eq_ok, pure_eq_ok, decide_eq_true_eq,
        Prod.mk.injEq] at made
      obtain ⟨_, others, _, distinct, _, total, _, digest, rfl, rfl⟩ := made
      have agree : ∀ c ∈ first :: rest, sameTransfer first c = .ok () :=
        List.forall_mem_cons.mpr ⟨sameTransfer_eq_ok.mpr ⟨rfl, rfl, rfl, rfl, rfl, rfl, rfl⟩,
          forM_eq_ok.mp others⟩
      have nodup : ((first :: rest).map UXSPChunk.chunkIndex).Nodup := by
        rw [← List.length_map UXSPChunk.chunkIndex] at distinct
        exact List.dedup_eq_self.mp ((List.dedup_sublist _).eq_of_length distinct)
      have below : ∀ k ∈ (first :: rest).map UXSPChunk.chunkIndex, k < first.totalChunks := by
        intro k mem
        obtain ⟨c, here, rfl⟩ := List.mem_map.mp mem
        obtain ⟨raw, -, read⟩ := exists_of_forall₂ decodes here
        rw [← (sameTransfer_eq_ok.mp (agree c here)).2.1]
        exact UXSPChunk.index_lt read
      have all := perm_range nodup below ((List.length_map _).trans total)
      refine ⟨first, first :: rest, (first :: rest).insertionSort byIndex, decodes,
        List.mem_cons_self, rfl, agree, List.perm_insertionSort byIndex _, ?_, rfl, digest⟩
      have sorted : (((first :: rest).insertionSort byIndex).map UXSPChunk.chunkIndex).Pairwise
          (· ≤ ·) := List.pairwise_map.mpr (List.pairwise_insertionSort byIndex _)
      have ascending : (List.range first.totalChunks).Pairwise (· ≤ ·) :=
        List.pairwise_lt_range.imp fun less => Nat.le_of_lt less
      exact List.Perm.eq_of_pairwise (fun a b _ _ => Nat.le_antisymm) sorted ascending
        (((List.perm_insertionSort byIndex _).map _).trans all)

namespace ChunkTransfer

/-- A transfer whose headers fit is made; its chunks in any order give back the data, and the
metadata with surrogate pairs joined.  And whatever reassembles is a numbered list of chunks that
agree, put together by number to data with the digest that was announced. -/
theorem round_trip (json : P.JsonRereads) :
    (∀ (data : Bytes) (chunkSize : ℤ) (shared : TransferMeta) (id : Uuid4), 0 < chunkSize →
      shared.contentType ≠ [] → shared.encoding ≠ some [] →
      (∀ c ∈ transferChunks P data chunkSize.toNat shared id, ∃ text,
        P.jsonCompact (.dict c.header) = .ok text ∧ text.length ≤ MAX_HEADER_LEN) →
      (shared.Unpaired → shared.reread = shared) ∧
      ∃ packed, createChunkedTransfer P data chunkSize shared id = .ok packed ∧
        ∀ raws, raws.Perm packed → reassembleChunkedTransfer P raws =
          .ok (transferDict P data (rawChunks data chunkSize.toNat).length shared.reread id, data)) ∧
    ∀ raws m r, reassembleChunkedTransfer P raws = .ok (m, r) →
      ∃ (first : UXSPChunk) (decoded ordered : List UXSPChunk),
        List.Forall₂ (fun raw c => UXSPChunk.fromBytes P raw = .ok c) raws decoded ∧
        first ∈ decoded ∧ m = metaDict first ∧ (∀ c ∈ decoded, sameTransfer first c = .ok ()) ∧
        ordered.Perm decoded ∧ ordered.map UXSPChunk.chunkIndex = List.range first.totalChunks ∧
        r = (ordered.map UXSPChunk.body).flatten ∧ sha256Hex P r = first.fileHash := by
  refine ⟨fun data chunkSize shared id positive contentType encoding fits => ?_,
    fun raws m r => reassembled_parts⟩
  refine ⟨TransferMeta.Unpaired.reread, ?_⟩
  obtain ⟨packed, created⟩ := exists_created positive fits
  exact ⟨packed, created, fun raws => reassemble_created json ⟨contentType, encoding⟩ created⟩

def sampleId : Uuid4 := .least

/-- The chunks of three bytes in two, in reverse. -/
theorem round_trip_sample : ∃ packed,
    createChunkedTransfer .reading [1, 2, 3] 2 .default sampleId = .ok packed ∧
      reassembleChunkedTransfer .reading packed.reverse =
        .ok (transferDict .reading [1, 2, 3] 2 TransferMeta.default.reread sampleId, [1, 2, 3]) := by
  have bytes : ((transferChunks .reading [1, 2, 3] 2 .default sampleId).all fun c =>
      succeeded (c.toBytes Platform.reading.toRuntime)) = true := by decide +kernel
  obtain ⟨-, packed, created, back⟩ := (round_trip Platform.reading_json).1 [1, 2, 3] 2 .default
    sampleId (by decide) (by decide) nofun fun c mem => by
      obtain ⟨raw, packed⟩ := succeeded_eq_true.mp (List.all_eq_true.mp bytes c mem)
      obtain ⟨text, written, short, -⟩ := UXSPChunk.toBytes_eq_ok.mp packed
      exact ⟨text, written, short⟩
  exact ⟨packed, created, back _ (List.reverse_perm packed)⟩

/-- A name of two code points that are a surrogate pair. -/
def samplePair : TransferMeta := { TransferMeta.default with filename := some [0xD83D, 0xDE00] }

/-- The pair is one character in what comes back. -/
theorem surrogate_pair_joined :
    ¬ ∀ (data : Bytes) (chunkSize : ℤ) (shared : TransferMeta) (id : Uuid4) (packed raws : List Bytes),
      0 < chunkSize → shared.contentType ≠ [] → shared.encoding ≠ some [] →
      createChunkedTransfer .reading data chunkSize shared id = .ok packed → raws.Perm packed →
      reassembleChunkedTransfer .reading raws =
        .ok (transferDict .reading data (rawChunks data chunkSize.toNat).length shared id, data) := by
  intro all
  have made : succeeded (createChunkedTransfer .reading [] 1 samplePair sampleId) = true := by
    decide +kernel
  obtain ⟨packed, created⟩ := succeeded_eq_true.mp made
  have same := all [] 1 samplePair sampleId packed packed (by decide) (by decide) (by decide)
    created (.refl _)
  rw [reassemble_created Platform.reading_json ⟨by decide, by decide⟩ created (.refl _)] at same
  have dicts := (Prod.mk.inj (Except.ok.inj same)).1
  simp only [transferDict, List.cons.injEq, Prod.mk.injEq, true_and] at dicts
  have names : UXSPChunk.optional samplePair.reread.filename =
    UXSPChunk.optional samplePair.filename := dicts.2.1
  have read : samplePair.reread.filename = some [0x1F600] := by decide
  rw [read] at names
  have codes : ([0x1F600] : Str) = [0xD83D, 0xDE00] := Val.str.inj names
  exact absurd codes (by decide)

/-- The encoder makes what the decoder takes exactly if there is a content type and no empty
encoding. -/
theorem accepted_iff (json : P.JsonRereads)
    (created : createChunkedTransfer P data chunkSize shared id = .ok packed) :
    (∃ result, reassembleChunkedTransfer P packed = .ok result) ↔
      shared.contentType ≠ [] ∧ shared.encoding ≠ some [] := by
  constructor
  · rintro ⟨result, returned⟩
    obtain ⟨contentType, encoding⟩ := accepted_of_reassembled json created returned
    exact ⟨contentType, encoding⟩
  · rintro ⟨contentType, encoding⟩
    exact ⟨_, reassemble_created json ⟨contentType, encoding⟩ created (.refl _)⟩

/-- Two bytes with the default metadata are accepted. -/
theorem accepted_iff_sample : ∃ packed,
    createChunkedTransfer .reading [104, 105] 8 .default sampleId = .ok packed ∧
      ((∃ result, reassembleChunkedTransfer .reading packed = .ok result) ↔
        TransferMeta.default.contentType ≠ [] ∧ TransferMeta.default.encoding ≠ some []) := by
  have made : succeeded (createChunkedTransfer .reading [104, 105] 8 .default sampleId) = true := by
    decide +kernel
  obtain ⟨packed, created⟩ := succeeded_eq_true.mp made
  exact ⟨packed, created, accepted_iff Platform.reading_json created⟩

/-- The encoder takes an empty content type, the decoder does not. -/
theorem empty_content_type_rejected :
    ¬ ∀ (data : Bytes) (chunkSize : ℤ) (shared : TransferMeta) (id : Uuid4) (packed : List Bytes),
      createChunkedTransfer .reading data chunkSize shared id = .ok packed →
      ∃ result, reassembleChunkedTransfer .reading packed = .ok result := by
  intro all
  have made : succeeded (createChunkedTransfer .reading [104, 105] 8
      { TransferMeta.default with contentType := [] } sampleId) = true := by decide +kernel
  obtain ⟨packed, created⟩ := succeeded_eq_true.mp made
  obtain ⟨result, returned⟩ := all _ _ _ _ packed created
  -- no chunk of this transfer is decoded
  exact (accepted_of_reassembled Platform.reading_json created returned).contentType rfl

end ChunkTransfer

end Uxsp
