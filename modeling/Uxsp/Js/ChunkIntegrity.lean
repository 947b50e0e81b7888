import Uxsp.Js.Client
import Uxsp.Js.SealReplay

/-!
# Chunked packages of the JavaScript client

An attacker makes a chunked package of envelopes that one sender sealed.  Every envelope opens to the
piece that was sealed in it.  The pieces that are the packed chunks of one package, each once, are
put together to its plaintext; other chunks are no transfer, and `openEncryptedPackage` returns them
one behind the other, headers included.
-/

namespace Uxsp

/-- A package that a sender made.  The plaintext is a `Uint8Array`. -/
structure JsSentPackage (J : JsPlatform) (sender : JsIdentity) where
  recipientCard : JsPublicCard
  plaintext : Bytes
  dataType : JsStr
  metadata : JsObject
  options : JsPackageOptions
  now : ℕ → ℤ
  coins : JsPackageCoins
  package : JsSecurePackage
  made : JsClient.createEncryptedPackage J sender recipientCard plaintext dataType metadata options
    now coins = .ok package
  small : plaintext.length < 2 ^ 53

variable {J : JsPlatform} {sender receiver : JsIdentity}

namespace JsSentPackage

/-- The plaintext was cut into chunks. -/
def chunked (p : JsSentPackage J sender) : Bool := p.options.shouldChunk p.plaintext.length

def transfer (p : JsSentPackage J sender) : JsTransfer where
  data := p.plaintext
  chunkSize := (p.options.chunkSize.getD p.options.threshold).toNat
  transferId := JsStr.ofStr p.coins.transferId.str
  kind := if J.toLowerCase p.dataType = "text" then .text else .binary
  options := ⟨none, none, none⟩

/-- The packed chunks of a chunked package. -/
def packed (p : JsSentPackage J sender) : List Bytes :=
  if p.chunked then (p.transfer.chunks J).filterMap fun c => (c.toBytes J.toJsRuntime).toOption
  else []

/-- The envelopes, each with the piece that is sealed in it. -/
def contents (p : JsSentPackage J sender) : List (JsObject × Bytes) :=
  if p.chunked then p.package.chunks.zip p.packed
  else p.package.envelope.toList.map fun envelope => (envelope, p.plaintext)

end JsSentPackage

namespace JsClient

/-! ## Packages that were made -/

theorem createPackage_eq_ok {options : JsCreatePackageOptions} {pkg : JsSecurePackage}
    (made : createPackage options = .ok pkg) :
    pkg.envelope = options.envelope ∧ pkg.chunks = options.chunks.getD [] := by
  simp only [createPackage, js_bind_eq_ok, jsEnsure_eq_ok, js_pure_eq_ok] at made
  obtain ⟨_, _, rfl⟩ := made
  exact ⟨rfl, rfl⟩

theorem sealChunks_facts {card : JsPublicCard} {now : ℕ → ℤ} {coins : JsPackageCoins}
    {chunks : List JsUXSPChunk} {envelopes : List JsObject}
    (made : sealChunks J sender card now coins chunks = .ok envelopes) :
    ∃ raws, List.Forall₂ (fun c raw => c.toBytes J.toJsRuntime = .ok raw) chunks raws ∧
      List.Forall₂ (fun envelope raw => ∃ (now : ℤ) (coins : JsSealCoins),
        sender.seal J card raw [] now coins = .ok envelope) envelopes raws := by
  rw [sealChunks, js_mapM_eq_ok] at made
  generalize 0 = k at made
  induction chunks generalizing k envelopes with
  | nil =>
      cases made
      exact ⟨[], .nil, .nil⟩
  | cons c chunks ih =>
      rw [List.zipIdx_cons] at made
      cases made with
      | cons here rest =>
          obtain ⟨raw, bytes, made⟩ := js_bind_eq_ok.mp here
          obtain ⟨raws, packed, rest⟩ := ih (k + 1) rest
          exact ⟨raw :: raws, .cons bytes packed, .cons ⟨_, _, made⟩ rest⟩

end JsClient

open JsClient

namespace JsSentPackage

variable {p : JsSentPackage J sender} {piece : Bytes}

theorem filterMap_toBytes {chunks : List JsUXSPChunk} {raws : List Bytes}
    (packed : List.Forall₂ (fun c raw => c.toBytes J.toJsRuntime = .ok raw) chunks raws) :
    chunks.filterMap (fun c => (c.toBytes J.toJsRuntime).toOption) = raws := by
  induction packed with
  | nil => rfl
  | cons here _ ih => rw [List.filterMap_cons, here, ih]; rfl

/-- The parts of a chunked package. -/
structure Chunks (p : JsSentPackage J sender) : Prop where
  sound : p.transfer.Sound
  packed : List.Forall₂ (fun c raw => c.toBytes J.toJsRuntime = .ok raw) (p.transfer.chunks J)
    p.packed
  envelopes : List.Forall₂ (fun envelope raw => ∃ (now : ℤ) (coins : JsSealCoins),
    sender.seal J p.recipientCard raw [] now coins = .ok envelope) p.package.chunks p.packed
  single : p.package.envelope = none

theorem printable_str (u : Uuid4) : JsStr.Printable (JsStr.ofStr u.str) := by
  intro v mem
  obtain ⟨c, char, here⟩ := List.mem_flatMap.mp mem
  have hyphen : JsStr.units (CodePoint.ofChar '-') = [45] := by decide
  rcases Uuid4.mem_grouped char with rfl | ⟨d, rfl⟩
  · rw [hyphen, List.mem_singleton] at here
    rw [here]
    decide
  · rw [JsStr.units_hexDigit, List.mem_singleton] at here
    have := hexUnit_range d
    rw [here]
    omega

theorem Chunks.of (chunked : p.chunked = true) : p.Chunks := by
  have made := p.made
  have should : p.options.shouldChunk p.plaintext.length = true := chunked
  rw [createEncryptedPackage, if_pos should] at made
  simp only [jsCreateChunkedTransfer, js_bind_eq_ok, jsEnsure_eq_ok, js_pure_eq_ok,
    decide_eq_true_eq] at made
  obtain ⟨_, ⟨_, positive, rfl⟩, envelopes, wrapped, made⟩ := made
  obtain ⟨raws, packed, wrapped⟩ := sealChunks_facts wrapped
  have same : p.packed = raws := by
    rw [JsSentPackage.packed, if_pos chunked]
    exact filterMap_toBytes packed
  refine ⟨?_, same ▸ packed, ?_, (createPackage_eq_ok made).1⟩
  · refine ⟨?_, p.small, printable_str _, .null, ?_, .null⟩
    · exact Int.pos_iff_toNat_pos.mp positive
    · exact .string (by decide +kernel)
  · rw [same, (createPackage_eq_ok made).2]
    exact wrapped

/-- The envelope of a package that is not chunked seals its plaintext. -/
theorem envelope_of_unchunked (whole : p.chunked = false) : ∃ envelope,
    p.package.envelope = some envelope ∧ p.package.chunks = [] ∧
      sender.seal J p.recipientCard p.plaintext [] (p.now 0) (p.coins.seals 0) = .ok envelope := by
  have made := p.made
  rw [createEncryptedPackage, if_neg (by rw [← chunked, whole]; exact Bool.false_ne_true)] at made
  obtain ⟨envelope, wrapped, made⟩ := js_bind_eq_ok.mp made
  exact ⟨envelope, (createPackage_eq_ok made).1, (createPackage_eq_ok made).2, wrapped⟩

/-- Every envelope seals its piece. -/
theorem sealed_of_mem_contents {x : JsObject × Bytes} (mem : x ∈ p.contents) :
    ∃ (now : ℤ) (coins : JsSealCoins),
      sender.seal J p.recipientCard x.2 [] now coins = .ok x.1 := by
  unfold contents at mem
  split at mem
  · rename_i chunked
    exact List.forall₂_zip (Chunks.of chunked).envelopes mem
  · rename_i whole
    obtain ⟨envelope, here, _, wrapped⟩ := envelope_of_unchunked (Bool.eq_false_iff.mpr whole)
    rw [here] at mem
    rw [List.mem_singleton.mp mem]
    exact ⟨_, _, wrapped⟩

/-- The envelopes of a package. -/
def envelopes (p : JsSentPackage J sender) : List JsObject :=
  p.package.chunks ++ p.package.envelope.toList

theorem map_fst_contents (p : JsSentPackage J sender) : p.contents.map Prod.fst = p.envelopes := by
  rw [envelopes, contents]
  split
  · rename_i chunked
    have parts := Chunks.of chunked
    rw [parts.single, List.map_fst_zip parts.envelopes.length_eq.le]
    exact (List.append_nil _).symm
  · rename_i whole
    obtain ⟨envelope, here, none, _⟩ := envelope_of_unchunked (Bool.eq_false_iff.mpr whole)
    rw [here, none]
    rfl

/-- Envelopes that were sent have pieces. -/
theorem exists_picks {sent : List (JsSentPackage J sender)} {chunks : List JsObject}
    (made : ∀ envelope ∈ chunks, ∃ p ∈ sent, envelope ∈ p.envelopes) :
    ∃ picks : List (JsObject × Bytes), picks.map Prod.fst = chunks ∧
      ∀ x ∈ picks, ∃ p ∈ sent, x ∈ p.contents := by
  induction chunks with
  | nil => exact ⟨[], rfl, fun _ mem => absurd mem List.not_mem_nil⟩
  | cons envelope chunks ih =>
      obtain ⟨p, mem, here⟩ := made envelope List.mem_cons_self
      obtain ⟨picks, same, rest⟩ := ih fun e later => made e (List.mem_cons_of_mem _ later)
      rw [← map_fst_contents] at here
      obtain ⟨x, content, rfl⟩ := List.mem_map.mp here
      refine ⟨x :: picks, by rw [List.map_cons, same], ?_⟩
      exact List.forall_mem_cons.mpr ⟨⟨p, mem, content⟩, rest⟩

end JsSentPackage

/-! ## Opening the envelopes -/

namespace JsClient

/-- An envelope of the list is refused when its turn comes. -/
inductive Refused (J : JsPlatform) (receiver : JsIdentity) (senderCard : JsPublicCard)
    (now : ℕ → ℤ) : ℕ → SeenNonces → List JsObject → Prop
  | here {k : ℕ} {seen seen' : SeenNonces} {envelope : JsObject} {chunks : List JsObject}
      {e : JsErr} :
      JsSeal.openSeal J seen receiver senderCard envelope [] (now k) = (.error e, seen') →
      Refused J receiver senderCard now k seen (envelope :: chunks)
  | later {k : ℕ} {seen seen' : SeenNonces} {envelope : JsObject} {chunks : List JsObject}
      {decrypted : Bytes} :
      JsSeal.openSeal J seen receiver senderCard envelope [] (now k) = (.ok decrypted, seen') →
      Refused J receiver senderCard now (k + 1) seen' chunks →
      Refused J receiver senderCard now k seen (envelope :: chunks)

/-- `x.2` is what the envelope `x.1` opens to, if it opens. -/
def OpensTo (J : JsPlatform) (receiver : JsIdentity) (x : JsObject × Bytes) : Prop :=
  ∀ {seen seen' : SeenNonces} {senderCard : JsPublicCard} {clock : ℤ} {decrypted : Bytes},
    JsSeal.openSeal J seen receiver senderCard x.1 [] clock = (.ok decrypted, seen') →
      decrypted = x.2

variable {picks : List (JsObject × Bytes)} {senderCard : JsPublicCard} {now : ℕ → ℤ}

/-- The loop throws at an envelope that is refused, or returns the pieces. -/
theorem openSlices_cases (opens : ∀ x ∈ picks, OpensTo J receiver x) (k : ℕ)
    (seen : SeenNonces) :
    (Refused J receiver senderCard now k seen (picks.map Prod.fst) ∧ ∃ e seen',
      openSlices J receiver senderCard now k seen (picks.map Prod.fst) = (.error e, seen')) ∨
    (¬ Refused J receiver senderCard now k seen (picks.map Prod.fst) ∧ ∃ seen',
      openSlices J receiver senderCard now k seen (picks.map Prod.fst) =
        (.ok (picks.map Prod.snd), seen')) := by
  induction picks generalizing k seen with
  | nil => exact .inr ⟨nofun, seen, rfl⟩
  | cons x picks ih =>
      have opens' : ∀ y ∈ picks, OpensTo J receiver y :=
        fun y mem => opens y (List.mem_cons_of_mem x mem)
      simp only [List.map_cons]
      rcases opened : JsSeal.openSeal J seen receiver senderCard x.1 [] (now k) with
        ⟨e | decrypted, seen'⟩
      · exact .inl ⟨.here opened, e, seen', by simp only [openSlices, opened]⟩
      · obtain rfl := opens x List.mem_cons_self opened
        rcases ih opens' (k + 1) seen' with ⟨refused, e, last, rest⟩ | ⟨accepted, last, rest⟩
        · exact .inl ⟨.later opened refused, e, last, by simp only [openSlices, opened, rest]⟩
        · refine .inr ⟨?_, last, by simp only [openSlices, opened, rest]⟩
          intro refused
          cases refused with
          | here failed => cases opened.symm.trans failed
          | later returned refused =>
              obtain ⟨_, rfl⟩ := Prod.mk.inj (opened.symm.trans returned)
              exact accepted refused

/-- What a chunked package is opened to. -/
theorem openEncryptedPackage_cases (opens : ∀ x ∈ picks, OpensTo J receiver x)
    {pkg : JsSecurePackage} (chunked : pkg.isChunked = true)
    (chunks : pkg.chunks = picks.map Prod.fst) (seen : SeenNonces) :
    ((picks = [] ∨ Refused J receiver senderCard now 0 seen pkg.chunks) ∧
      ∃ e, (openEncryptedPackage J seen receiver senderCard pkg now).1 = .error e) ∨
    (picks ≠ [] ∧ ¬ Refused J receiver senderCard now 0 seen pkg.chunks ∧
      (openEncryptedPackage J seen receiver senderCard pkg now).1 =
        .ok (joinSlices J (picks.map Prod.snd))) := by
  rw [openEncryptedPackage, if_pos chunked, chunks]
  cases picks with
  | nil => exact .inl ⟨.inl rfl, noChunks, rfl⟩
  | cons x picks =>
      rw [if_neg (by simp)]
      rcases openSlices_cases opens 0 seen with ⟨refused, e, last, rest⟩ | ⟨accepted, last, rest⟩
      · rw [rest]
        exact .inl ⟨.inr refused, e, rfl⟩
      · rw [rest]
        exact .inr ⟨List.cons_ne_nil _ _, accepted, rfl⟩

/-! ## Packed chunks -/

/-- The slices are read as one transfer. -/
def ReadsAs (J : JsPlatform) (slices : List Bytes) (data : Bytes) : Prop :=
  looksPacked slices = true ∧ readTransfer J slices = .ok data

theorem joinSlices_of_reads {slices : List Bytes} {data : Bytes}
    (reads : ReadsAs J slices data) : joinSlices J slices = data := by
  rw [joinSlices, if_pos reads.1, reads.2]

theorem joinSlices_of_not_reads {slices : List Bytes} (other : ∀ data, ¬ ReadsAs J slices data) :
    joinSlices J slices = slices.flatten := by
  unfold joinSlices
  split
  · rename_i looks
    split
    · rename_i data read
      exact absurd ⟨looks, read⟩ (other data)
    · rfl
  · rfl

end JsClient

namespace JsSentPackage

variable {p : JsSentPackage J sender} {piece : Bytes}

theorem chunked_of_mem_packed (mem : piece ∈ p.packed) : p.chunked = true := by
  unfold packed at mem
  split at mem
  · assumption
  · cases mem

theorem length_packed (chunked : p.chunked = true) :
    p.packed.length = p.transfer.totalChunks := by
  rw [← (Chunks.of chunked).packed.length_eq, JsTransfer.length_chunks]

/-- The packed chunks of a package are read as the chunks they are made of. -/
theorem reads_packed (json : J.JsonCorrect) (lower : J.LowerCorrect) (chunked : p.chunked = true) :
    List.Forall₂ (fun raw c => JsUXSPChunk.fromBytes J raw = .ok c) p.packed
      (p.transfer.chunks J) := by
  have parts := Chunks.of chunked
  refine List.forall₂_iff_get.mpr ⟨parts.packed.length_eq.symm, fun k less less' => ?_⟩
  have bytes := (List.forall₂_iff_get.mp parts.packed).2 k less' less
  simp only [List.get_eq_getElem, JsTransfer.getElem_chunks] at bytes ⊢
  rw [JsTransfer.length_chunks] at less'
  exact JsUXSPChunk.fromBytes_toBytes json lower parts.sound less' bytes

theorem exists_chunk (mem : piece ∈ p.packed) : ∃ k < p.transfer.totalChunks,
    (p.transfer.chunk J k).toBytes J.toJsRuntime = .ok piece := by
  have chunked := chunked_of_mem_packed mem
  obtain ⟨⟨k, less⟩, rfl⟩ := List.mem_iff_get.mp mem
  have inside : k < p.transfer.totalChunks := length_packed chunked ▸ less
  have bytes := (List.forall₂_iff_get.mp (Chunks.of chunked).packed).2 k
    (by rwa [JsTransfer.length_chunks]) less
  rw [List.get_eq_getElem, JsTransfer.getElem_chunks] at bytes
  exact ⟨k, inside, bytes⟩

/-- A packed chunk starts with the magic prefix. -/
theorem exists_magic (mem : piece ∈ p.packed) :
    ∃ rest, piece = JsChunking.MAGIC ++ rest ∧ 4 ≤ rest.length := by
  obtain ⟨k, _, bytes⟩ := exists_chunk mem
  simp only [JsUXSPChunk.toBytes, js_bind_eq_ok, js_pure_eq_ok] at bytes
  obtain ⟨_, _, rfl⟩ := bytes
  refine ⟨_, by rw [List.append_assoc, List.append_assoc], ?_⟩
  rw [List.length_append, UXSPChunk.length_packLength]
  exact Nat.le_add_right _ _

theorem looksPacked_cons (mem : piece ∈ p.packed) (pieces : List Bytes) :
    looksPacked (piece :: pieces) = true := by
  obtain ⟨rest, rfl, long⟩ := exists_magic mem
  have length : 16 ≤ (JsChunking.MAGIC ++ rest).length := by
    rw [List.length_append]
    exact Nat.add_le_add (show 12 ≤ JsChunking.MAGIC.length by decide) long
  have start : (JsChunking.MAGIC ++ rest).take 4 = [0x55, 0x58, 0x53, 0x50] := by
    rw [List.take_append_of_le_length (by decide)]
    decide
  rw [looksPacked, start, decide_eq_true length]
  rfl

/-- The packed chunks of a package, in any order, are read as its plaintext. -/
theorem reads_perm (json : J.JsonCorrect) (lower : J.LowerCorrect) (chunked : p.chunked = true)
    {pieces : List Bytes} (perm : pieces.Perm p.packed) : ReadsAs J pieces p.plaintext := by
  obtain ⟨decoded, read, order⟩ :=
    List.perm_comp_forall₂ perm (reads_packed json lower chunked)
  have data := jsReassembleChunkedTransfer_perm lower (Chunks.of chunked).sound.positive order
  constructor
  · cases pieces with
    | nil =>
        have none := perm.length_eq
        rw [length_packed chunked] at none
        exact absurd none.symm p.transfer.totalChunks_pos.ne'
    | cons piece pieces => exact looksPacked_cons (perm.mem_iff.mp List.mem_cons_self) pieces
  · simp only [readTransfer, js_bind_eq_ok]
    exact ⟨decoded, js_mapM_eq_ok.mpr read, data⟩

/-- No two packages have one random identifier of a transfer. -/
def Distinct (sent : List (JsSentPackage J sender)) : Prop :=
  ∀ p ∈ sent, ∀ q ∈ sent, p.coins.transferId.str = q.coins.transferId.str → p = q

theorem transferId_inj {q : JsSentPackage J sender}
    (same : p.transfer.transferId = q.transfer.transferId) :
    p.coins.transferId.str = q.coins.transferId.str := by
  obtain ⟨_, encoded⟩ := p.coins.transferId.encode_str
  obtain ⟨_, encoded'⟩ := q.coins.transferId.encode_str
  rw [← JsStr.codePoints_ofStr encoded, ← JsStr.codePoints_ofStr encoded']
  exact congrArg JsStr.codePoints same

/-- What the loop of the reassembly says about a chunk of a package. -/
theorem checkChunk_facts {p q : JsSentPackage J sender} {alone : Bool} {i j k : ℕ}
    (checked : checkChunk (p.transfer.chunk J j) alone k (q.transfer.chunk J i) = .ok ()) :
    i = k ∧ (alone = true ∨ q.transfer.transferId = p.transfer.transferId) := by
  simp only [checkChunk, js_bind_eq_ok, jsEnsure_eq_ok, Bool.or_eq_true] at checked
  obtain ⟨_, id, _, index, _⟩ := checked
  have place : (PyFloat.finite (i : ℚ) == PyFloat.finite (k : ℚ)) = true := index
  refine ⟨?_, id.imp_right fun same => ?_⟩
  · rw [beq_iff_eq, PyFloat.finite.injEq, Nat.cast_inj] at place
    exact place
  · have equal : (q.transfer.transferId == p.transfer.transferId) = true := same
    exact beq_iff_eq.mp equal

/-- Packed chunks that are read as one transfer are the chunks of one package, each once. -/
theorem perm_of_reads (json : J.JsonCorrect) (lower : J.LowerCorrect)
    {sent : List (JsSentPackage J sender)} (distinct : Distinct sent) {pieces : List Bytes}
    (genuine : ∀ piece ∈ pieces, ∃ p ∈ sent, piece ∈ p.packed) {data : Bytes}
    (reads : ReadsAs J pieces data) : ∃ p ∈ sent, p.chunked = true ∧ pieces.Perm p.packed := by
  obtain ⟨decoded, read, assembled⟩ := js_bind_eq_ok.mp reads.2
  -- every chunk that is read is one of a package, and packs to its piece
  have made : List.Forall₂ (fun c piece => (∃ p ∈ sent, p.chunked = true ∧
      ∃ k, c = p.transfer.chunk J k) ∧ c.toBytes J.toJsRuntime = .ok piece) decoded pieces := by
    refine List.Forall₂.flip (((List.forall₂_and_left _ _).mpr
      ⟨genuine, js_mapM_eq_ok.mp read⟩).imp fun piece c here => ?_)
    obtain ⟨⟨p, mem, packed⟩, back⟩ := here
    have chunked := chunked_of_mem_packed packed
    obtain ⟨k, inside, bytes⟩ := exists_chunk packed
    have same := JsUXSPChunk.fromBytes_toBytes json lower (Chunks.of chunked).sound inside bytes
    obtain rfl := Except.ok.inj (back.symm.trans same)
    exact ⟨⟨p, mem, chunked, k, rfl⟩, bytes⟩
  obtain ⟨origin, bytes⟩ := (List.forall₂_and_left _ _).mp made
  obtain ⟨first, sorted, memFirst, perm, total, checked, _⟩ :=
    jsReassembleChunkedTransfer_facts assembled
  obtain ⟨p, mem, chunked, j, rfl⟩ := origin first memFirst
  have count : p.transfer.totalChunks = decoded.length := by
    have same : (PyFloat.finite (p.transfer.totalChunks : ℚ) ==
      PyFloat.finite (decoded.length : ℚ)) = true := total
    rwa [beq_iff_eq, PyFloat.finite.injEq, Nat.cast_inj] at same
  -- the chunk at a place is the chunk of the first one's package there
  have place : ∀ k (less : k < sorted.length), sorted[k] = p.transfer.chunk J k := by
    intro k less
    have member := perm.mem_iff.mp (List.getElem_mem less)
    have here := checked k less
    by_cases alone : decoded.length = 1
    · obtain ⟨only, rfl⟩ := List.length_eq_one_iff.mp alone
      have same := (List.mem_singleton.mp member).trans (List.mem_singleton.mp memFirst).symm
      rw [same] at here ⊢
      rw [(checkChunk_facts here).1]
    · obtain ⟨q, memQ, _, i, same⟩ := origin _ member
      rw [same] at here ⊢
      obtain ⟨rfl, one | id⟩ := checkChunk_facts here
      · exact absurd (of_decide_eq_true one) alone
      · rw [distinct q memQ p mem (transferId_inj id)]
  have whole : sorted = p.transfer.chunks J := by
    refine List.ext_getElem ?_ fun k less less' => ?_
    · rw [perm.length_eq, JsTransfer.length_chunks, count]
    · rw [place k less, JsTransfer.getElem_chunks]
  rw [whole] at perm
  obtain ⟨raws, packed, order⟩ := List.perm_comp_forall₂ perm bytes
  have unique : Relator.RightUnique fun (c : JsUXSPChunk) raw =>
      c.toBytes J.toJsRuntime = .ok raw :=
    fun _ _ _ here there => Except.ok.inj (here.symm.trans there)
  rw [List.right_unique_forall₂' unique packed (Chunks.of chunked).packed] at order
  exact ⟨p, mem, chunked, order.symm⟩

/-! ## Chunked packages -/

/-- The call throws or returns the plaintext of a package that was sent. -/
def Intact (J : JsPlatform) (sent : List (JsSentPackage J sender)) (seen : SeenNonces)
    (receiver : JsIdentity) (senderCard : JsPublicCard) (pkg : JsSecurePackage) (now : ℕ → ℤ) :
    Prop :=
  (∃ e, (openEncryptedPackage J seen receiver senderCard pkg now).1 = .error e) ∨
    ∃ p ∈ sent, (openEncryptedPackage J seen receiver senderCard pkg now).1 = .ok p.plaintext

/-- The pieces are the packed chunks of one package, each once. -/
def Whole (sent : List (JsSentPackage J sender)) (pieces : List Bytes) : Prop :=
  ∃ p ∈ sent, p.chunked = true ∧ pieces.Perm p.packed

/-- The pieces are no transfer, and one behind the other they happen to be the plaintext of a
package; or some are plaintexts that were sent in the form of packed chunks, and all together are
read as a transfer that happens to be such a plaintext. -/
def Coincides (sent : List (JsSentPackage J sender)) (pieces : List Bytes) : Prop :=
  ∃ q ∈ sent, ((∀ data, ¬ ReadsAs J pieces data) ∧ pieces.flatten = q.plaintext) ∨
    ((¬ ∀ piece ∈ pieces, ∃ p ∈ sent, piece ∈ p.packed) ∧ ReadsAs J pieces q.plaintext)

/-- The packages of one sender, and a receiver: an identity has one set of keys. -/
structure Honest (receiver : JsIdentity) (sent : List (JsSentPackage J sender)) : Prop where
  distinct : Distinct sent
  paired : receiver.Paired J
  keys : ∀ p ∈ sent, p.recipientCard.entityId = receiver.entityId →
    p.recipientCard.publicKeys = receiver.publicCard.publicKeys

variable {sent : List (JsSentPackage J sender)} {picks : List (JsObject × Bytes)}
  {pkg : JsSecurePackage}

theorem opensTo_of_mem (aead : J.AeadCorrect) (honest : Honest receiver sent)
    {x : JsObject × Bytes} (mem : ∃ p ∈ sent, x ∈ p.contents) : OpensTo J receiver x := by
  intro _ _ _ _ _ opened
  obtain ⟨p, memP, here⟩ := mem
  obtain ⟨_, _, made⟩ := sealed_of_mem_contents here
  exact JsSeal.openSeal_seal aead honest.paired made (honest.keys p memP) opened

/-- What a package of envelopes that were sent is opened to. -/
theorem intact_iff (aead : J.AeadCorrect) (honest : Honest receiver sent)
    (made : ∀ x ∈ picks, ∃ p ∈ sent, x ∈ p.contents) (chunked : pkg.isChunked = true)
    (chunks : pkg.chunks = picks.map Prod.fst) (seen : SeenNonces) (senderCard : JsPublicCard)
    (now : ℕ → ℤ) :
    Intact J sent seen receiver senderCard pkg now ↔
      picks = [] ∨ Refused J receiver senderCard now 0 seen pkg.chunks ∨
        ∃ q ∈ sent, joinSlices J (picks.map Prod.snd) = q.plaintext := by
  have opens : ∀ x ∈ picks, OpensTo J receiver x :=
    fun x mem => opensTo_of_mem aead honest (made x mem)
  rcases openEncryptedPackage_cases opens chunked chunks
    seen with ⟨refused, e, thrown⟩ | ⟨some, accepted, returned⟩
  · refine ⟨fun _ => ?_, fun _ => .inl ⟨e, thrown⟩⟩
    exact refused.imp_right .inl
  · constructor
    · rintro (⟨e, thrown⟩ | ⟨q, mem, out⟩)
      · cases returned.symm.trans thrown
      · exact .inr (.inr ⟨q, mem, Except.ok.inj (returned.symm.trans out)⟩)
    · rintro (none | refused | ⟨q, mem, joined⟩)
      · exact absurd none some
      · exact absurd refused accepted
      · exact .inr ⟨q, mem, returned.trans (congrArg Except.ok joined)⟩

theorem joinSlices_iff (json : J.JsonCorrect) (lower : J.LowerCorrect) (distinct : Distinct sent)
    (pieces : List Bytes) :
    (∃ q ∈ sent, joinSlices J pieces = q.plaintext) ↔
      Whole sent pieces ∨ Coincides sent pieces := by
  constructor
  · rintro ⟨q, mem, joined⟩
    by_cases read : ∃ data, ReadsAs J pieces data
    · obtain ⟨data, reads⟩ := read
      by_cases genuine : ∀ piece ∈ pieces, ∃ p ∈ sent, piece ∈ p.packed
      · exact .inl (perm_of_reads json lower distinct genuine reads)
      · rw [joinSlices_of_reads reads] at joined
        exact .inr ⟨q, mem, .inr ⟨genuine, joined ▸ reads⟩⟩
    · have other := not_exists.mp read
      rw [joinSlices_of_not_reads other] at joined
      exact .inr ⟨q, mem, .inl ⟨other, joined⟩⟩
  · rintro (⟨p, mem, chunked, perm⟩ | ⟨q, mem, ⟨other, joined⟩ | ⟨_, reads⟩⟩)
    · exact ⟨p, mem, joinSlices_of_reads (reads_perm json lower chunked perm)⟩
    · exact ⟨q, mem, (joinSlices_of_not_reads other).trans joined⟩
    · exact ⟨q, mem, joinSlices_of_reads reads⟩

/-- Chunks of packages are no plaintext by chance, where none starts like a packed chunk. -/
theorem not_coincides (genuine : ∀ x ∈ picks, ∃ p ∈ sent, x.2 ∈ p.packed)
    (plain : ∀ p ∈ sent, p.plaintext.take 12 ≠ JsChunking.MAGIC) (some : picks ≠ []) :
    ¬ Coincides sent (picks.map Prod.snd) := by
  rintro ⟨q, mem, ⟨_, joined⟩ | ⟨other, _⟩⟩
  · cases picks with
    | nil => exact some rfl
    | cons x picks =>
        obtain ⟨p, _, packed⟩ := genuine x List.mem_cons_self
        obtain ⟨rest, same, _⟩ := exists_magic packed
        refine plain q mem ?_
        rw [← joined, List.map_cons, List.flatten_cons, same, List.append_assoc]
        exact List.take_left' (by decide)
  · refine other fun piece here => ?_
    obtain ⟨x, member, rfl⟩ := List.mem_map.mp here
    exact genuine x member

/-- Exactly when a package of envelopes that were sent is opened to nothing else: it has none, one is
refused, they hold one package, or what is put together is such a plaintext by chance.  Chunks of
packages alone are not, where no plaintext starts like a packed chunk. -/
theorem chunked_package_intact_iff (aead : J.AeadCorrect) (json : J.JsonCorrect)
    (lower : J.LowerCorrect) (honest : Honest receiver sent)
    (made : ∀ x ∈ picks, ∃ p ∈ sent, x ∈ p.contents) (chunked : pkg.isChunked = true)
    (chunks : pkg.chunks = picks.map Prod.fst) (seen : SeenNonces) (senderCard : JsPublicCard)
    (now : ℕ → ℤ) :
    (Intact J sent seen receiver senderCard pkg now ↔
      picks = [] ∨ Refused J receiver senderCard now 0 seen pkg.chunks ∨
        Whole sent (picks.map Prod.snd) ∨ Coincides sent (picks.map Prod.snd)) ∧
    ((∀ x ∈ picks, ∃ p ∈ sent, x.2 ∈ p.packed) →
      (∀ p ∈ sent, p.plaintext.take 12 ≠ JsChunking.MAGIC) →
      (Intact J sent seen receiver senderCard pkg now ↔
        picks = [] ∨ Refused J receiver senderCard now 0 seen pkg.chunks ∨
          Whole sent (picks.map Prod.snd))) := by
  have intact := intact_iff aead honest made chunked chunks seen senderCard now
  rw [joinSlices_iff json lower honest.distinct] at intact
  refine ⟨intact, fun genuine plain => intact.trans ?_⟩
  by_cases none : picks = []
  · exact ⟨fun _ => .inl none, fun _ => .inl none⟩
  · rw [or_iff_left (not_coincides genuine plain none)]

/-! ## A sample package -/

def samplePlatform : JsPlatform := Platform.transparent.js .textual none

def sampleCoins : JsPackageCoins where
  transferId := .least
  seals k := {
    exchange := .transparent 3
    nonce := .filled 12 4
    envelopeNonce := ⟨List.replicate 32 (UInt8.ofNat k), List.length_replicate⟩ }

def sampleSender : JsIdentity := JsSeal.sampleIdentity "a" 1

def sampleReceiver : JsIdentity := JsSeal.sampleIdentity "b" 2

/-- Two bytes, each in a chunk of its own. -/
def sampleCreate : Except JsErr JsSecurePackage :=
  createEncryptedPackage samplePlatform sampleSender sampleReceiver.publicCard [104, 105] "BINARY"
    [] ⟨false, none, some 1⟩ (fun _ => 0) sampleCoins

def sampleOpen (pkg : JsSecurePackage) : Except JsErr Bytes :=
  (openEncryptedPackage samplePlatform [] sampleReceiver sampleSender.publicCard pkg
    (fun _ => 0)).1

def sampleSent {package : JsSecurePackage} (made : sampleCreate = .ok package) :
    JsSentPackage samplePlatform sampleSender where
  recipientCard := sampleReceiver.publicCard
  plaintext := [104, 105]
  dataType := "BINARY"
  metadata := []
  options := ⟨false, none, some 1⟩
  now := fun _ => 0
  coins := sampleCoins
  package := package
  made := made
  small := by decide

theorem sample_paired : sampleReceiver.Paired samplePlatform where
  exchange := Platform.js_agree Platform.transparent_exchange
  kem := by
    intro coins ciphertext s encapsulated real
    obtain ⟨rfl, _⟩ := Prod.mk.inj (Except.ok.inj encapsulated)
    rw [JsHandshake.isPqcStubbed, coins.stubCiphertext.property] at real
    cases real

theorem sample_honest {package : JsSecurePackage} (made : sampleCreate = .ok package) :
    Honest sampleReceiver [sampleSent made] where
  distinct p memP q memQ _ := (List.mem_singleton.mp memP).trans (List.mem_singleton.mp memQ).symm
  paired := sample_paired
  keys p mem _ := by rw [List.mem_singleton.mp mem]; rfl

theorem eq_ok_of_toOption {α : Type} {x : Except JsErr α} {a : α} (some : x.toOption = some a) :
    x = .ok a := by
  cases x with
  | error e => cases some
  | ok b => exact congrArg Except.ok (Option.some.inj some)

/-- Without its last chunk the sample opens, to something else. -/
theorem exists_sample : ∃ package x, sampleCreate = .ok package ∧ package.isChunked = true ∧
    sampleOpen { package with chunks := package.chunks.take 1 } = .ok x ∧ x ≠ [104, 105] := by
  have computed : sampleCreate.toOption.any (fun package => package.isChunked &&
      (sampleOpen { package with chunks := package.chunks.take 1 }).toOption.any
        fun x => x ≠ [104, 105]) = true := by
    decide +kernel
  obtain ⟨package, made, both⟩ := (Option.any_eq_true _ _).mp computed
  obtain ⟨chunked, other⟩ := (Bool.and_eq_true _ _).mp both
  obtain ⟨x, out, differs⟩ := (Option.any_eq_true _ _).mp other
  exact ⟨package, x, eq_ok_of_toOption made, chunked, eq_ok_of_toOption out,
    of_decide_eq_true differs⟩

theorem sample_chunked {package : JsSecurePackage} (made : sampleCreate = .ok package) :
    (sampleSent made).chunked = true := by
  have larger : JsPackageOptions.shouldChunk ⟨false, none, some 1⟩ 2 = true := by decide
  exact larger

theorem map_contents {package : JsSecurePackage} (made : sampleCreate = .ok package) :
    (sampleSent made).contents.map Prod.fst = package.chunks ∧
      (sampleSent made).contents.map Prod.snd = (sampleSent made).packed := by
  have chunked := sample_chunked made
  have parts := (Chunks.of chunked).envelopes.length_eq
  have contents : (sampleSent made).contents = package.chunks.zip (sampleSent made).packed :=
    if_pos chunked
  rw [contents]
  exact ⟨List.map_fst_zip parts.le, List.map_snd_zip parts.ge⟩

def reversed (package : JsSecurePackage) : JsSecurePackage :=
  { package with chunks := package.chunks.reverse }

/-- The sample with its chunks in the other order. -/
theorem sample_reversed : ∃ package, ∃ made : sampleCreate = .ok package,
    Intact samplePlatform [sampleSent made] [] sampleReceiver sampleSender.publicCard
      (reversed package) fun _ => 0 := by
  obtain ⟨package, _, made, computed, _⟩ := exists_sample
  have chunked := sample_chunked made
  obtain ⟨envelopes, pieces⟩ := map_contents made
  have chunks : (reversed package).chunks =
      (sampleSent made).contents.reverse.map Prod.fst := by
    rw [List.map_reverse, envelopes]
    rfl
  have perm : ((sampleSent made).contents.reverse.map Prod.snd).Perm (sampleSent made).packed := by
    rw [List.map_reverse, pieces]
    exact List.reverse_perm _
  have flag : (reversed package).isChunked = true := computed
  have intact := (chunked_package_intact_iff
    (Platform.js_aead Platform.transparent_aead : samplePlatform.AeadCorrect)
    JsRuntime.textual_json JsRuntime.textual_lower (sample_honest made)
    (fun x mem => ⟨_, List.mem_singleton_self _, List.mem_reverse.mp mem⟩) flag chunks []
    sampleSender.publicCard fun _ => 0).1
  exact ⟨package, made, intact.mpr
    (.inr (.inr (.inl ⟨_, List.mem_singleton_self _, chunked, perm⟩)))⟩

/-- The first chunk of the sample alone is returned with its header. -/
theorem sample_dropped : ¬ ∀ (J : JsPlatform) (sender receiver : JsIdentity)
    (sent : List (JsSentPackage J sender)) (picks : List (JsObject × Bytes))
    (pkg : JsSecurePackage) (seen : SeenNonces) (senderCard : JsPublicCard) (now : ℕ → ℤ),
    J.AeadCorrect → J.JsonCorrect → J.LowerCorrect → Honest receiver sent →
      (∀ x ∈ picks, ∃ p ∈ sent, x ∈ p.contents) → pkg.isChunked = true →
      pkg.chunks = picks.map Prod.fst → Intact J sent seen receiver senderCard pkg now := by
  intro always
  obtain ⟨package, x, made, computed, out, differs⟩ := exists_sample
  have intact := always samplePlatform sampleSender sampleReceiver [sampleSent made]
    ((sampleSent made).contents.take 1) { package with chunks := package.chunks.take 1 } []
    sampleSender.publicCard (fun _ => 0) (Platform.js_aead Platform.transparent_aead)
    JsRuntime.textual_json JsRuntime.textual_lower (sample_honest made)
    (fun x mem => ⟨_, List.mem_singleton_self _, List.mem_of_mem_take mem⟩) computed
    (by rw [List.map_take, (map_contents made).1])
  rcases intact with ⟨e, thrown⟩ | ⟨p, mem, returned⟩
  · cases out.symm.trans thrown
  · have same := Except.ok.inj (out.symm.trans returned)
    rw [List.mem_singleton.mp mem] at same
    exact differs same

end JsSentPackage

end Uxsp
