import Uxsp.Secure.StreamRoundTrip

/-!
# The two generators of `SendStream`

`Secure.packageGenerator` is the generator of `uxsp.secure._stream`, which loops over the chunks of
its source; `Aio.packageGenerator` that of `uxsp.aio.stream`, which reads the next chunk when it is
asked for the next package.  `stream_same_iff`: they yield the same packages, up to the random bytes
of the envelopes, unless the source is empty and the stream is not of type `binary`.
-/

namespace Uxsp

variable {P : Platform}

/-- What a generator of packages yielded until it ended, and how it ended. -/
structure Yielded where
  packages : List SecurePackage
  result : Except PyErr Unit

namespace Yielded

/-- A package, and what is yielded after it. -/
def after (package : SecurePackage) (rest : Yielded) : Yielded :=
  ⟨package :: rest.packages, rest.result⟩

/-- A single package, where it can be made. -/
def single : Except PyErr SecurePackage → Yielded
  | .ok package => ⟨[package], .ok ()⟩
  | .error e => ⟨[], .error e⟩

/-- `list(generator)`. -/
def all (y : Yielded) : Except PyErr (List SecurePackage) := y.result.map fun _ => y.packages

end Yielded

namespace Secure

section

variable (sender : Identity P) (peer : Peer) (options : StreamOptions) (source : StreamSource)
  (checked now : ℕ → ℚ) (coins : ℕ → SendCoins)

/-- The loop of `_package_generator`, from the chunk at an index on. -/
def packageLoop : ℕ → List Bytes → Yielded
  | _, [] => ⟨[], .ok ()⟩
  | index, chunk :: rest =>
      match options.sendPiece source sender peer chunk index (checked index) (now index)
        (coins index) with
      | .error e => ⟨[], .error e⟩
      | .ok package => .after (retyped options.dataType package) (packageLoop (index + 1) rest)

/-- `_package_generator`.  The package of an empty source keeps the type it was sent with. -/
def packageGenerator : Yielded :=
  match source.chunks options.chunkSize with
  | [] => .single (options.sendPiece source sender peer [] 0 (checked 0) (now 0) (coins 0))
  | chunks => packageLoop sender peer options source checked now coins 0 chunks

end

end Secure

namespace Aio

open Secure

/-! ## `uxsp.aio.stream` -/

/-- `f.read(size)`: what is read, and what is left. -/
def read (size : ℤ) (data : Bytes) : Bytes × Bytes :=
  if size < 0 then (data, []) else (data.take size.toNat, data.drop size.toNat)

/-- The next item that is not empty, and the items after it. -/
def nextItem : List Bytes → Option (Bytes × List Bytes)
  | [] => none
  | [] :: items => nextItem items
  | item :: items => some (item, items)

/-- The next chunk of `_async_iter_chunks_from_source`, and what the source still has. -/
def nextChunk (chunkSize : ℤ) : StreamSource → Option (Bytes × StreamSource)
  | .reads name data =>
      if (read chunkSize data).1 = [] then none
      else some ((read chunkSize data).1, .reads name (read chunkSize data).2)
  | .items items => (nextItem items).map fun (item, rest) => (item, .items rest)

theorem length_nextItem {items rest : List Bytes} {item : Bytes}
    (next : nextItem items = some (item, rest)) :
    rest.flatten.length < items.flatten.length := by
  induction items using nextItem.induct with
  | case1 => cases next
  | case2 items ih =>
      rw [nextItem] at next
      rw [List.flatten_cons, List.nil_append]
      exact ih next
  | case3 item items nonempty =>
      rw [nextItem.eq_3 item items nonempty] at next
      cases next
      rw [List.flatten_cons, List.length_append]
      have := List.length_pos_iff.mpr nonempty
      omega

theorem length_nextChunk {chunkSize : ℤ} {source rest : StreamSource} {chunk : Bytes}
    (next : nextChunk chunkSize source = some (chunk, rest)) :
    rest.bytes.length < source.bytes.length := by
  cases source with
  | reads name data =>
      rw [nextChunk] at next
      split at next
      · cases next
      · rename_i some
        cases next
        rw [StreamSource.bytes, StreamSource.bytes]
        unfold read at some ⊢
        split
        · rename_i whole
          rw [if_pos whole] at some
          exact List.length_pos_iff.mpr some
        · rename_i part
          rw [if_neg part] at some
          have := List.length_pos_iff.mpr some
          rw [List.length_take] at this
          rw [List.length_drop]
          omega
  | items items =>
      obtain ⟨_, found, same⟩ := Option.map_eq_some_iff.mp next
      cases same
      exact length_nextItem found

section

variable (sender : Identity P) (peer : Peer) (options : StreamOptions) (source : StreamSource)
  (checked now : ℕ → ℚ) (coins : ℕ → SendCoins)

/-- The loop of `_async_package_generator` and what follows it, with what is left of the source,
`chunk_idx` and `has_yielded`. -/
def packageLoop (left : StreamSource) (chunkIdx : ℕ) (hasYielded : Bool) : Yielded :=
  match _ : nextChunk options.chunkSize left with
  | some (chunk, left') =>
      match options.sendPiece source sender peer chunk chunkIdx (checked chunkIdx) (now chunkIdx)
        (coins chunkIdx) with
      | .error e => ⟨[], .error e⟩
      | .ok package =>
          .after (retyped options.dataType package) (packageLoop left' (chunkIdx + 1) true)
  | none =>
      if hasYielded then ⟨[], .ok ()⟩
      else .single ((options.sendPiece source sender peer [] 0 (checked 0) (now 0) (coins 0)).map
        (retyped options.dataType))
termination_by left.bytes.length
decreasing_by exact length_nextChunk ‹_›

/-- `_async_package_generator`. -/
def packageGenerator : Yielded :=
  packageLoop sender peer options source checked now coins source 0 false

end

end Aio

namespace Secure

variable {sender : Identity P} {peer : Peer} {options : StreamOptions} {source : StreamSource}

/-! ## The two chunk iterators -/

theorem chunks_items (chunkSize : ℤ) (items : List Bytes) :
    (StreamSource.items items).chunks chunkSize =
      match Aio.nextItem items with
      | some (item, rest) => item :: (StreamSource.items rest).chunks chunkSize
      | none => [] := by
  induction items using Aio.nextItem.induct with
  | case1 => rfl
  | case2 items ih =>
      rw [Aio.nextItem, ← ih, StreamSource.chunks, List.filter_cons_of_neg (by simp),
        StreamSource.chunks]
  | case3 item items nonempty =>
      have kept : decide (item ≠ []) = true := decide_eq_true nonempty
      rw [Aio.nextItem.eq_3 item items nonempty, StreamSource.chunks, List.filter_cons, kept]
      rfl

theorem chunks_reads (chunkSize : ℤ) (name : Option Str) (data : Bytes) :
    (StreamSource.reads name data).chunks chunkSize =
      if (Aio.read chunkSize data).1 = [] then []
      else (Aio.read chunkSize data).1 ::
        (StreamSource.reads name (Aio.read chunkSize data).2).chunks chunkSize := by
  obtain negative | rfl | positive := lt_trichotomy chunkSize 0
  · -- all is read at once
    have whole : Aio.read chunkSize data = (data, []) := if_pos negative
    have all (data : Bytes) : (StreamSource.reads name data).chunks chunkSize =
        if data = [] then [] else [data] := by
      simp only [StreamSource.chunks, if_neg negative.not_gt, negative.ne, false_or]
    simp only [whole, all, if_true]
  · -- nothing is ever read
    rfl
  · have part : Aio.read chunkSize data =
        (data.take chunkSize.toNat, data.drop chunkSize.toNat) := if_neg positive.not_gt
    simp only [part, StreamSource.chunks, if_pos positive]
    have size := Int.lt_toNat.mpr positive
    by_cases none : data = []
    · rw [none, List.take_nil, if_pos rfl]
      exact List.length_eq_zero_iff.mp ((Slices.length_slices _ _).trans
        (Nat.div_eq_of_lt (by simpa using size)))
    · have first : data.take chunkSize.toNat ≠ [] := by
        rw [ne_eq, List.take_eq_nil_iff, not_or]
        exact ⟨size.ne', none⟩
      rw [if_neg first, Slices.slices_of_ne_nil size none]

/-- What the async iterator reads next is the first chunk of the sync one. -/
theorem chunks_eq_next (chunkSize : ℤ) (source : StreamSource) :
    source.chunks chunkSize =
      match Aio.nextChunk chunkSize source with
      | some (chunk, rest) => chunk :: rest.chunks chunkSize
      | none => [] := by
  cases source with
  | reads name data =>
      rw [chunks_reads, Aio.nextChunk]
      split
      · rfl
      · rfl
  | items items =>
      rw [chunks_items, Aio.nextChunk]
      cases Aio.nextItem items with
      | none => rfl
      | some next => rfl

/-! ## The two loops -/

variable {checked now : ℕ → ℚ} {coins : ℕ → SendCoins}

/-- The async loop, once it has yielded, goes on as the sync loop does over the chunks left. -/
theorem packageLoop_yielded (left : StreamSource) (index : ℕ) :
    Aio.packageLoop sender peer options source checked now coins left index true =
      packageLoop sender peer options source checked now coins index
        (left.chunks options.chunkSize) := by
  induction size : left.bytes.length using Nat.strong_induction_on generalizing left index with
  | _ size ih =>
      rw [Aio.packageLoop, chunks_eq_next]
      split
      · rename_i chunk rest next
        rw [next, packageLoop]
        split
        · rfl
        · rw [ih _ (size ▸ Aio.length_nextChunk next) rest (index + 1) rfl]
      · rename_i next
        rw [next]
        rfl

/-- The async generator, over the chunks of the sync one. -/
theorem asyncGenerator_eq :
    Aio.packageGenerator sender peer options source checked now coins =
      match source.chunks options.chunkSize with
      | [] => .single ((options.sendPiece source sender peer [] 0 (checked 0) (now 0) (coins 0)).map
          (retyped options.dataType))
      | chunks => packageLoop sender peer options source checked now coins 0 chunks := by
  rw [Aio.packageGenerator, Aio.packageLoop, chunks_eq_next]
  split
  · rename_i chunk rest next
    rw [next]
    dsimp only
    rw [packageLoop]
    split
    · rfl
    · rw [packageLoop_yielded]
  · rename_i next
    rw [next]
    rfl

/-- `sendStream` is what the sync generator yields, taken together. -/
theorem all_packageLoop (index : ℕ) (chunks : List Bytes) :
    (packageLoop sender peer options source checked now coins index chunks).all =
      (chunks.zipIdx index).mapM fun (chunk, index) => do
        let package ← options.sendPiece source sender peer chunk index (checked index) (now index)
          (coins index)
        return retyped options.dataType package := by
  induction chunks generalizing index with
  | nil => rfl
  | cons chunk rest ih =>
      rw [packageLoop, List.zipIdx_cons, List.mapM_cons, ← ih]
      dsimp only
      cases options.sendPiece source sender peer chunk index (checked index) (now index)
        (coins index) with
      | error e => rfl
      | ok package =>
          unfold Yielded.all Yielded.after
          cases (packageLoop sender peer options source checked now coins (index + 1) rest).result with
          | error e => rfl
          | ok _ => rfl

theorem all_packageGenerator :
    (packageGenerator sender peer options source checked now coins).all =
      sendStream sender peer options source checked now coins := by
  unfold packageGenerator sendStream
  cases source.chunks options.chunkSize with
  | nil =>
      cases sent : options.sendPiece source sender peer [] 0 (checked 0) (now 0) (coins 0) with
      | error e => rfl
      | ok package => rfl
  | cons chunk rest => exact all_packageLoop 0 (chunk :: rest)

/-! ## What the packages have in common -/

/-- A package that was made of a piece with its index, under whatever random bytes, and then given
the type it has. -/
def MadeOf (sender : Identity P) (peer : Peer) (options : StreamOptions) (source : StreamSource)
    (piece : Bytes) (index : ℕ) (p : SecurePackage) : Prop :=
  ∃ checked now coins made, options.sendPiece source sender peer piece index checked now coins =
    .ok made ∧ p = retyped p.dataType made

/-- What `sendPayload` writes into the open fields. -/
theorem sendPayload_open {payload : Bytes} {dataType : Str} {metadata : Dict} {checked now : ℚ}
    {coins : SendCoins} {p : SecurePackage}
    (sent : sendPayload sender peer payload dataType metadata checked now coins = .ok p) :
    p.dataType = dataType ∧ p.metadata = .dict metadata := by
  unfold sendPayload at sent
  split at sent
  · simp only [bind_eq_ok, pure_eq_ok] at sent
    obtain ⟨_, _, rfl⟩ := sent
    exact ⟨rfl, rfl⟩
  · simp only [bind_eq_ok, pure_eq_ok] at sent
    obtain ⟨_, _, _, _, _, _, rfl⟩ := sent
    exact ⟨rfl, rfl⟩

theorem sendPiece_open {piece : Bytes} {index : ℕ} {checked now : ℚ} {coins : SendCoins}
    {p : SecurePackage}
    (sent : options.sendPiece source sender peer piece index checked now coins = .ok p) :
    p.dataType = "binary" ∧ p.metadata = .dict (options.chunkMeta source index) := by
  simp only [StreamOptions.sendPiece, sendBinaryPiece, bind_eq_ok] at sent
  obtain ⟨_, _, sent⟩ := sent
  exact sendPayload_open sent

theorem MadeOf.of_sent {piece : Bytes} {index : ℕ} {checked now : ℚ} {coins : SendCoins}
    {p : SecurePackage}
    (sent : options.sendPiece source sender peer piece index checked now coins = .ok p) (type : Str) :
    MadeOf sender peer options source piece index (retyped type p) :=
  ⟨checked, now, coins, p, sent, rfl⟩

theorem MadeOf.metadata {piece : Bytes} {index : ℕ} {p : SecurePackage}
    (made : MadeOf sender peer options source piece index p) :
    p.metadata = .dict (options.chunkMeta source index) := by
  obtain ⟨_, _, _, q, sent, same⟩ := made
  rw [same]
  exact (sendPiece_open sent).2

/-- What a generator yields for these pieces: packages of one type, made of the pieces in order,
and one of each if it ends without an error. -/
structure YieldsOf (sender : Identity P) (peer : Peer) (options : StreamOptions)
    (source : StreamSource) (type : Str) (first : ℕ) (pieces : List Bytes) (y : Yielded) : Prop where
  made : ∀ k p, y.packages[k]? = some p → p.dataType = type ∧
    ∃ piece, pieces[k]? = some piece ∧ MadeOf sender peer options source piece (first + k) p
  number : y.result = .ok () → y.packages.length = pieces.length

theorem YieldsOf.error (type : Str) (index : ℕ) (pieces : List Bytes) (e : PyErr) :
    YieldsOf sender peer options source type index pieces ⟨[], .error e⟩ := by
  refine ⟨?_, ?_⟩
  · intro k p at_k
    cases at_k
  · intro done
    cases done

theorem YieldsOf.single {type : Str} {piece : Bytes} {index : ℕ} {y : Except PyErr SecurePackage}
    (made : ∀ p, y = .ok p → p.dataType = type ∧ MadeOf sender peer options source piece index p) :
    YieldsOf sender peer options source type index [piece] (.single y) := by
  cases y with
  | error e => exact .error type index [piece] e
  | ok package =>
      refine ⟨fun k p at_k => ?_, fun _ => rfl⟩
      cases k with
      | zero =>
          cases at_k
          exact ⟨(made package rfl).1, piece, rfl, (made package rfl).2⟩
      | succ k => cases at_k

/-- The packages of the loop. -/
theorem yieldsOf_packageLoop (index : ℕ) (chunks : List Bytes) :
    YieldsOf sender peer options source options.dataType index chunks
      (packageLoop sender peer options source checked now coins index chunks) := by
  induction chunks generalizing index with
  | nil =>
      refine ⟨?_, fun _ => rfl⟩
      intro k p at_k
      cases at_k
  | cons chunk rest ih =>
      rw [packageLoop]
      split
      · exact .error _ _ _ _
      · rename_i package sent
        obtain ⟨made, number⟩ := ih (index + 1)
        refine ⟨fun k p at_k => ?_, fun done => congrArg (· + 1) (number done)⟩
        cases k with
        | zero =>
            cases at_k
            exact ⟨rfl, chunk, rfl, .of_sent sent _⟩
        | succ k =>
            obtain ⟨type, piece, at_piece, of_piece⟩ := made k p at_k
            refine ⟨type, piece, at_piece, ?_⟩
            rw [show index + (k + 1) = index + 1 + k by omega]
            exact of_piece

/-- The pieces the packages of a source are made of. -/
def pieces (options : StreamOptions) (source : StreamSource) : List Bytes :=
  if source.chunks options.chunkSize = [] then [[]] else source.chunks options.chunkSize

/-- The type of the packages that the sync generator yields. -/
def yieldedType (options : StreamOptions) (source : StreamSource) : Str :=
  if source.chunks options.chunkSize = [] then "binary" else options.dataType

theorem yieldsOf_packageGenerator : YieldsOf sender peer options source
    (yieldedType options source) 0 (pieces options source)
    (packageGenerator sender peer options source checked now coins) := by
  unfold packageGenerator pieces yieldedType
  cases source.chunks options.chunkSize with
  | nil =>
      rw [if_pos rfl, if_pos rfl]
      refine .single fun p sent => ⟨(sendPiece_open sent).1, ?_⟩
      exact MadeOf.of_sent sent p.dataType
  | cons chunk rest =>
      rw [if_neg (List.cons_ne_nil _ _), if_neg (List.cons_ne_nil _ _)]
      exact yieldsOf_packageLoop 0 (chunk :: rest)

theorem yieldsOf_asyncGenerator : YieldsOf sender peer options source options.dataType 0
    (pieces options source) (Aio.packageGenerator sender peer options source checked now coins) := by
  rw [asyncGenerator_eq]
  unfold pieces
  cases source.chunks options.chunkSize with
  | nil =>
      rw [if_pos rfl]
      refine .single fun p sent => ?_
      cases made : options.sendPiece source sender peer [] 0 (checked 0) (now 0) (coins 0) with
      | error e =>
          rw [made] at sent
          cases sent
      | ok q =>
          rw [made] at sent
          cases sent
          exact ⟨rfl, .of_sent made _⟩
  | cons chunk rest =>
      rw [if_neg (List.cons_ne_nil _ _)]
      exact yieldsOf_packageLoop 0 (chunk :: rest)

/-! ## The two generators agree -/

/-- The same packages up to the randomness of the envelopes: the same pieces of the source in their
order, with the same type and metadata, and as many where both generators end without an error. -/
structure StreamsAlike (sender : Identity P) (peer : Peer) (options : StreamOptions)
    (source : StreamSource) (y y' : Yielded) : Prop where
  package : ∀ k p p', y.packages[k]? = some p → y'.packages[k]? = some p' →
    p.dataType = p'.dataType ∧ p.metadata = p'.metadata ∧
    ∃ piece, (pieces options source)[k]? = some piece ∧
      MadeOf sender peer options source piece k p ∧ MadeOf sender peer options source piece k p'
  number : y.result = .ok () → y'.result = .ok () → y.packages.length = y'.packages.length

/-- The sync and the async generator yield the same: where they draw the same random bytes the very
same packages, and in any case packages that are alike. -/
structure SameStream (sender : Identity P) (peer : Peer) (options : StreamOptions)
    (source : StreamSource) : Prop where
  equal : ∀ checked now coins,
    Aio.packageGenerator sender peer options source checked now coins =
      packageGenerator sender peer options source checked now coins
  alike : ∀ checked now coins checked' now' coins', StreamsAlike sender peer options source
    (packageGenerator sender peer options source checked now coins)
    (Aio.packageGenerator sender peer options source checked' now' coins')

/-- `SendBinary` raises for the empty piece whatever it draws. -/
def Unsendable (sender : Identity P) (peer : Peer) (options : StreamOptions)
    (source : StreamSource) : Prop :=
  ∀ checked now coins, ∃ e,
    options.sendPiece source sender peer [] 0 checked now coins = .error e

theorem alike_of_types (type : yieldedType options source = options.dataType)
    {checked' now' : ℕ → ℚ} {coins' : ℕ → SendCoins} : StreamsAlike sender peer options source
      (packageGenerator sender peer options source checked now coins)
      (Aio.packageGenerator sender peer options source checked' now' coins') := by
  have left := @yieldsOf_packageGenerator P sender peer options source checked now coins
  have right := @yieldsOf_asyncGenerator P sender peer options source checked' now' coins'
  refine ⟨fun k p p' at_p at_p' => ?_, fun done done' => ?_⟩
  · obtain ⟨is_type, piece, at_piece, made⟩ := left.made k p at_p
    obtain ⟨is_type', piece', at_piece', made'⟩ := right.made k p' at_p'
    obtain rfl : piece = piece' := Option.some.inj (at_piece.symm.trans at_piece')
    rw [Nat.zero_add] at made made'
    exact ⟨is_type.trans (type.trans is_type'.symm), made.metadata.trans made'.metadata.symm,
      piece, at_piece, made, made'⟩
  · exact (left.number done).trans (right.number done').symm

/-- The sync generator, which does not retype the package of an empty source. -/
theorem packageGenerator_empty (empty : source.chunks options.chunkSize = []) :
    packageGenerator sender peer options source checked now coins =
      .single (options.sendPiece source sender peer [] 0 (checked 0) (now 0) (coins 0)) := by
  rw [packageGenerator, empty]

/-- The async generator, which does. -/
theorem asyncGenerator_empty (empty : source.chunks options.chunkSize = []) :
    Aio.packageGenerator sender peer options source checked now coins =
      .single ((options.sendPiece source sender peer [] 0 (checked 0) (now 0) (coins 0)).map
        (retyped options.dataType)) := by
  rw [asyncGenerator_eq, empty]

/-- A package that was sent and is given the type `binary` stays what it was. -/
theorem retyped_binary {piece : Bytes} {index : ℕ} {checked now : ℚ} {coins : SendCoins}
    {p : SecurePackage}
    (sent : options.sendPiece source sender peer piece index checked now coins = .ok p) :
    retyped "binary" p = p := by
  rw [retyped, ← (sendPiece_open sent).1]

/-- The generators draw the same random bytes, and the source has chunks or the type is `binary`. -/
theorem equal_of_types (type : yieldedType options source = options.dataType) :
    Aio.packageGenerator sender peer options source checked now coins =
      packageGenerator sender peer options source checked now coins := by
  cases cut : source.chunks options.chunkSize with
  | nil =>
      rw [yieldedType, if_pos cut] at type
      rw [asyncGenerator_empty cut, packageGenerator_empty cut, ← type]
      cases sent : options.sendPiece source sender peer [] 0 (checked 0) (now 0) (coins 0) with
      | error e => rfl
      | ok p => exact congrArg (Yielded.single ∘ Except.ok) (retyped_binary sent)
  | cons chunk rest => rw [asyncGenerator_eq, packageGenerator, cut]

/-- Two generators that raise the error of one piece, each for random bytes of its own. -/
theorem alike_of_unsendable (empty : source.chunks options.chunkSize = [])
    (unsendable : Unsendable sender peer options source) {checked' now' : ℕ → ℚ}
    {coins' : ℕ → SendCoins} : StreamsAlike sender peer options source
      (packageGenerator sender peer options source checked now coins)
      (Aio.packageGenerator sender peer options source checked' now' coins') := by
  obtain ⟨e, raised⟩ := unsendable (checked 0) (now 0) (coins 0)
  rw [packageGenerator_empty empty, raised]
  refine ⟨?_, ?_⟩
  · intro k p p' at_p
    cases at_p
  · intro done
    cases done

/-- The two functions yield the same packages exactly if the source has bytes, or the stream is of
type `binary`, or the empty piece cannot be sent at all. -/
theorem stream_same_iff (sender : Identity P) (peer : Peer) (options : StreamOptions)
    (source : StreamSource) (positive : 0 < options.chunkSize) :
    SameStream sender peer options source ↔
      source.bytes ≠ [] ∨ options.dataType = "binary" ∨ Unsendable sender peer options source := by
  have no_chunks := @StreamSource.chunks_eq_nil source _ positive
  constructor
  · intro same
    by_contra unlike
    obtain ⟨empty, typed, sendable⟩ : source.bytes = [] ∧ options.dataType ≠ "binary" ∧
        ¬ Unsendable sender peer options source := by
      simpa only [not_or, not_not] using unlike
    obtain ⟨checked, now, coins, sent⟩ : ∃ checked now coins, ∀ e,
        options.sendPiece source sender peer [] 0 checked now coins ≠ .error e := by
      simpa only [Unsendable, not_forall, not_exists] using sendable
    cases made : options.sendPiece source sender peer [] 0 checked now coins with
    | error e => exact sent e made
    | ok p =>
        have alike := (same.alike (fun _ => checked) (fun _ => now) (fun _ => coins)
          (fun _ => checked) (fun _ => now) (fun _ => coins)).package 0 p (retyped options.dataType p)
        rw [packageGenerator_empty (no_chunks.mpr empty), asyncGenerator_empty (no_chunks.mpr empty),
          made] at alike
        exact typed ((alike rfl rfl).1.symm.trans (sendPiece_open made).1)
  · intro condition
    have typed (type : yieldedType options source = options.dataType) :
        SameStream sender peer options source :=
      ⟨fun _ _ _ => equal_of_types type, fun _ _ _ _ _ _ => alike_of_types type⟩
    by_cases empty : source.bytes = []
    · have cut := no_chunks.mpr empty
      obtain full | binary | unsendable := condition
      · exact absurd empty full
      · exact typed ((if_pos cut).trans binary.symm)
      · refine ⟨fun checked now coins => ?_, fun _ _ _ _ _ _ => alike_of_unsendable cut unsendable⟩
        obtain ⟨e, raised⟩ := unsendable (checked 0) (now 0) (coins 0)
        rw [asyncGenerator_empty cut, packageGenerator_empty cut, raised]
        rfl
    · exact typed (if_neg fun cut => empty (no_chunks.mp cut))

/-! A stream of type `video` from an empty file, and one that has bytes. -/

def sampleVideo (data : Bytes) : StreamSource := .reads (some "a.mp4") data

def videoOptions : StreamOptions := ⟨65536, none, [], "video"⟩

theorem stream_same_sample :
    SameStream sampleWriter ⟨"B", sampleReader.card⟩ videoOptions (sampleVideo [1]) ↔
      (sampleVideo [1]).bytes ≠ [] ∨ videoOptions.dataType = "binary" ∨
        Unsendable sampleWriter ⟨"B", sampleReader.card⟩ videoOptions (sampleVideo [1]) :=
  stream_same_iff sampleWriter ⟨"B", sampleReader.card⟩ videoOptions (sampleVideo [1])
    (show (0 : ℤ) < 65536 by decide)

/-- From an empty file the sync function yields a package of type `binary`, the async one a package
of type `video`. -/
theorem empty_stream_types_differ :
    ¬ ∀ (P : Platform) (sender : Identity P) (peer : Peer) (options : StreamOptions)
      (source : StreamSource), 0 < options.chunkSize → SameStream sender peer options source := by
  intro always
  have same := (always .reading sampleWriter ⟨"B", sampleReader.card⟩ videoOptions (sampleVideo [])
    (by decide)).equal (fun _ => 1000) (fun _ => 1000) sampleStreamCoins
  have types := congrArg (fun y => y.packages.map SecurePackage.dataType) same
  have sync : (packageGenerator sampleWriter ⟨"B", sampleReader.card⟩ videoOptions (sampleVideo [])
      (fun _ => 1000) (fun _ => 1000) sampleStreamCoins).packages.map SecurePackage.dataType =
      ["binary"] := by decide +kernel
  rw [sync, asyncGenerator_empty rfl] at types
  exact absurd types (by decide +kernel)

end Secure

end Uxsp
