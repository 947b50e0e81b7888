import Uxsp.Secure.StreamRoundTrip

/-!
# Packages of streams in any order

The receiver is handed packages of streams of one sender in an order of the attacker's choice, some
left out, some twice, some from other streams.  `spliced_stream`: if it does not raise, it has
written the pieces of these packages in the order they were given, and no package was given again
while its nonce was remembered.  Which pieces make a whole stream it cannot tell.
-/

namespace Uxsp.Secure

variable {P : Platform} {A B : Identity P} {guard : ReplayGuard} {S : SeenStore} {s s' : S.State}
  {sender : Peer} {t : ℕ → Identity.OpenReadings}

/-- A package of a stream. -/
structure StreamPick (A : Identity P) where
  run : StreamRun A
  index : ℕ
  less : index < run.packages.length

namespace StreamPick

def package (pick : StreamPick A) : SecurePackage := pick.run.packages.get ⟨pick.index, pick.less⟩

/-- What was sealed in the package. -/
def piece (pick : StreamPick A) : Bytes := pick.run.pieces.getD pick.index []

def nonce (pick : StreamPick A) : Str := pick.run.nonce pick.index

/-- The package was made for the keys of the recipient if it was made for the recipient. -/
def KeyedFor (pick : StreamPick A) (B : Identity P) : Prop :=
  pick.run.peer.card.entityId = B.entityId →
    pick.run.peer.card.publicKeys = extractPublicKeys B.keypair

variable {pick : StreamPick A}

theorem exists_made (pick : StreamPick A) : ∃ e : SendCall A,
    pick.run.Made pick.piece pick.index e ∧
      pick.package = retyped pick.run.dataType e.package := by
  obtain ⟨lengths, all⟩ := List.forall₂_iff_get.mp pick.run.made
  have less := pick.less
  rw [← lengths] at less
  have here := all pick.index less pick.less
  rw [List.length_zipIdx] at less
  simp only [List.get_eq_getElem, List.getElem_zipIdx, Nat.zero_add] at here
  rw [piece, List.getD_eq_getElem _ _ less]
  exact here

/-- A package that was received gave its piece, and its envelope was let pass. -/
theorem received (exchange : P.ExchangeCorrect) (aead : P.AeadCorrect) (json : P.JsonRereads)
    (keyed : pick.KeyedFor B) {package : SecurePackage} (back : Back pick.package package)
    {t : Identity.OpenReadings} {chunk : Bytes}
    (returned : receiveBinaryPiece B guard S s sender package t = (.ok chunk, s')) :
    chunk = pick.piece ∧ Admits guard S s ⌊pick.run.now pick.index⌋ pick.nonce t ∧
      s' = guard.passed S s pick.nonce t := by
  obtain ⟨e, made, same⟩ := pick.exists_made
  rw [same] at back
  have keyed : e.KeyedFor B := by
    rw [SendCall.KeyedFor, made.peer]
    exact keyed
  have nonce : e.envelopeNonce = pick.nonce := by
    rw [SendCall.envelopeNonce, made.coins]
    rfl
  unfold receiveBinaryPiece at returned
  cases delivered : receivePayload B guard S s ⟨sender, .package package, some "binary", t⟩ with
  | mk result s₁ =>
      rw [delivered] at returned
      cases result with
      | error err => cases returned
      | ok raw =>
          obtain ⟨package', _, _, resolved, _⟩ := receivePayload_facts (congrArg Prod.fst delivered)
          obtain rfl : package = package' := Except.ok.inj (resolved_eq_ok.mp resolved).1
          obtain ⟨rfl, admits, rfl⟩ := SendCall.received exchange aead json.correct keyed resolved
            back.genuine delivered
          simp only [made.unpacks json, Prod.mk.injEq, Except.ok.injEq] at returned
          obtain ⟨rfl, rfl⟩ := returned
          rw [made.now, nonce] at admits
          rw [nonce]
          exact ⟨rfl, admits, rfl⟩

end StreamPick

/-- The guard has let the envelopes pass, one after the other from a place on. -/
def Passed (guard : ReplayGuard) (S : SeenStore) (t : ℕ → Identity.OpenReadings) :
    List (StreamPick A) → ℕ → S.State → Prop
  | [], _, _ => True
  | pick :: picks, index, s =>
      Admits guard S s ⌊pick.run.now pick.index⌋ pick.nonce (t index) ∧
        Passed guard S t picks (index + 1) (guard.passed S s pick.nonce (t index))

/-- What has been written once the packages have been received. -/
theorem receivePackages_spliced (exchange : P.ExchangeCorrect) (aead : P.AeadCorrect)
    (json : P.JsonRereads) {picks : List (StreamPick A)} (keyed : ∀ pick ∈ picks, pick.KeyedFor B)
    {back : List SecurePackage} (backs : List.Forall₂ Back (picks.map StreamPick.package) back)
    {index : ℕ} {out : Bytes} {total n : ℕ}
    (returned : (receivePackages B guard S sender t index out total s (back.map .ok)).result =
      .ok n) :
    (receivePackages B guard S sender t index out total s (back.map .ok)).written =
        out ++ (picks.map StreamPick.piece).flatten ∧
      n = total + (picks.map StreamPick.piece).flatten.length ∧
      Passed guard S t picks index s := by
  induction picks generalizing back index out total s with
  | nil =>
      cases backs
      cases returned
      exact ⟨(List.append_nil out).symm, rfl, trivial⟩
  | cons pick picks ih =>
      obtain ⟨package, back, here, others, rfl⟩ := List.forall₂_cons_left_iff.mp backs
      obtain ⟨keyedHere, keyedRest⟩ := List.forall_mem_cons.mp keyed
      rw [List.map_cons, receivePackages] at returned ⊢
      cases opened : receiveBinaryPiece B guard S s sender package (t index) with
      | mk result s₁ =>
          rw [opened] at returned
          cases result with
          | error err => cases returned
          | ok chunk =>
              obtain ⟨rfl, admits, rfl⟩ := pick.received exchange aead json keyedHere here opened
              simp only at returned ⊢
              obtain ⟨written, size, passed⟩ := ih keyedRest others returned
              refine ⟨?_, ?_, admits, passed⟩
              · rw [written, List.map_cons, List.flatten_cons, List.append_assoc]
              · rw [size, List.map_cons, List.flatten_cons, List.length_append, Nat.add_assoc]

/-! ## No package twice -/

/-- A nonce that is remembered until some time is marked again no sooner. -/
theorem Passed.expired {picks : List (StreamPick A)} {index : ℕ} {clock expiry : ℚ} {nonce : Str}
    (later : ∀ i, (t i).mark ≤ (t (i + 1)).checked) (passed : Passed guard S t picks index s)
    (guards : Ttl.Guards S.laws s clock nonce expiry) (le : clock ≤ (t index).checked) {j : ℕ}
    {pick : StreamPick A} (here : picks[j]? = some pick) (same : pick.nonce = nonce) :
    expiry ≤ (t (index + j)).mark := by
  induction picks generalizing index s clock j with
  | nil => cases here
  | cons first picks ih =>
      obtain ⟨admits, rest⟩ := passed
      have toSeen : clock ≤ (t index).seen :=
        le.trans ((t index).checked_le.trans (t index).fresh_le)
      have toMark : (t index).seen ≤ (t index).mark :=
        (t index).seen_le.trans ((t index).verify_le.trans (t index).again_le)
      have looked := guards.tended toSeen (S.isSeen_tends s first.nonce (t index).seen)
      cases j with
      | zero =>
          obtain rfl := Option.some.inj here
          have marked := admits.marked
          rw [same] at marked looked
          exact looked.expired toMark marked
      | succ j =>
          have kept : Ttl.Guards S.laws (guard.passed S s first.nonce (t index)) (t index).mark nonce
              expiry := looked.kept toMark
          rw [Nat.add_succ, ← Nat.succ_add]
          exact ih rest kept (later index) here

/-- Two packages with one nonce are so far apart that the first mark has run out. -/
theorem Passed.apart {picks : List (StreamPick A)} {index : ℕ}
    (later : ∀ i, (t i).mark ≤ (t (i + 1)).checked) (passed : Passed guard S t picks index s)
    {i j : ℕ} (less : i < j) {p q : StreamPick A} (first : picks[i]? = some p)
    (second : picks[j]? = some q) (same : p.nonce = q.nonce) :
    (t (index + i)).mark + guard.ttl ≤ (t (index + j)).mark := by
  induction picks generalizing index s i j with
  | nil => cases first
  | cons pick picks ih =>
      obtain ⟨admits, rest⟩ := passed
      cases j with
      | zero => exact absurd less (Nat.not_lt_zero i)
      | succ j =>
          rw [Nat.add_succ, ← Nat.succ_add]
          cases i with
          | zero =>
              obtain rfl := Option.some.inj first
              have guards := Ttl.Guards.of_mark S.laws admits.marked
              exact rest.expired later guards (later index) second same.symm
          | succ i =>
              rw [Nat.add_succ, ← Nat.succ_add]
              exact ih rest (Nat.lt_of_succ_lt_succ less) first second

/-! ## All packages of one stream -/

namespace StreamRun

/-- All packages of a stream, in order. -/
def picks (run : StreamRun A) : List (StreamPick A) :=
  (List.finRange run.packages.length).map fun i => ⟨run, i.1, i.2⟩

theorem pieces_of_picks (run : StreamRun A) : run.picks.map StreamPick.piece = run.pieces := by
  have lengths := run.length_packages
  refine List.ext_getElem ?_ fun i less less' => ?_
  · rw [List.length_map, picks, List.length_map, List.length_finRange, lengths]
  · rw [List.getElem_map]
    simp only [picks, List.getElem_map, List.getElem_finRange]
    exact List.getD_eq_getElem _ _ less'

end StreamRun

/-- Packages of streams that were received in any order have given their pieces in that order, which
are the bytes of a source if they are all packages of one stream in order, and none was given again
before the mark of its nonce had run out. -/
theorem spliced_stream (exchange : P.ExchangeCorrect) (aead : P.AeadCorrect) (json : P.JsonRereads)
    (line : P.JsonLine) (picks : List (StreamPick A)) (keyed : ∀ pick ∈ picks, pick.KeyedFor B)
    (later : ∀ i, (t i).mark ≤ (t (i + 1)).checked) {input : StreamInput}
    (given : Given P.toRuntime (picks.map StreamPick.package) input) {n : ℕ}
    (returned : (receiveStream B guard S s sender t input).result = .ok n) :
    (receiveStream B guard S s sender t input).written = (picks.map StreamPick.piece).flatten ∧
      n = (picks.map StreamPick.piece).flatten.length ∧
      (∀ run : StreamRun A, 0 < run.options.chunkSize → picks = run.picks →
        (picks.map StreamPick.piece).flatten = run.source.bytes) ∧
      ∀ i j p q, i < j → picks[i]? = some p → picks[j]? = some q → p.nonce = q.nonce →
        (t i).mark + guard.ttl ≤ (t j).mark := by
  obtain ⟨back, read, backs⟩ := iterPackages_given json line given
  rw [receiveStream, read] at returned ⊢
  obtain ⟨written, size, passed⟩ := receivePackages_spliced exchange aead json keyed backs returned
  refine ⟨written, size.trans (Nat.zero_add _), ?_, fun i j p q less first second same => ?_⟩
  · intro run positive whole
    rw [whole, run.pieces_of_picks, StreamRun.flatten_pieces positive]
  · have apart := passed.apart later less first second same
    rwa [Nat.zero_add, Nat.zero_add] at apart

/-! The stream of two pieces again, its packages swapped or the second left out. -/

/-- A package of `sampleStream`. -/
def samplePick {packages : List SecurePackage} (returned : sampleStream "binary" = .ok packages)
    (index : ℕ) (less : index < packages.length) : StreamPick sampleWriter :=
  ⟨sampleRun returned, index, less⟩

/-- Swapped packages give swapped pieces. -/
theorem sampleStream_swapped : ∃ p q, ∃ returned : sampleStream "binary" = .ok [p, q],
    let picks := [samplePick returned 1 Nat.one_lt_two, samplePick returned 0 Nat.two_pos]
    (sampleReceived [q, p]).written = (picks.map StreamPick.piece).flatten ∧
      3 = (picks.map StreamPick.piece).flatten.length ∧
      (∀ run : StreamRun sampleWriter, 0 < run.options.chunkSize → picks = run.picks →
        (picks.map StreamPick.piece).flatten = run.source.bytes) ∧
      ∀ (i j : ℕ) (p q : StreamPick sampleWriter), i < j → picks[i]? = some p → picks[j]? = some q →
        p.nonce = q.nonce → sampleReadings.mark + ReplayGuard.default.ttl ≤ sampleReadings.mark := by
  have computed : ((sampleStream "binary").toOption.map fun packages =>
      (packages.length, (sampleReceived packages.reverse).result.toOption)) = some (2, some 3) := by
    decide +kernel
  obtain ⟨packages, found, both⟩ := Option.map_eq_some_iff.mp computed
  obtain ⟨two, received⟩ := Prod.mk.inj both
  obtain ⟨p, q, rfl⟩ := List.length_eq_two.mp two
  have returned := Except.of_toOption found
  have keyed : ∀ pick ∈ [samplePick returned 1 Nat.one_lt_two, samplePick returned 0 Nat.two_pos],
      pick.KeyedFor sampleReader :=
    List.forall_mem_cons.mpr ⟨fun _ => rfl, List.forall_mem_singleton.mpr fun _ => rfl⟩
  exact ⟨p, q, returned, spliced_stream Platform.reading_exchange Platform.reading_aead
    Platform.reading_json Platform.reading_line _ keyed (fun _ => le_rfl) .packages
    (Except.of_toOption received)⟩

/-- Without its second package a stream is received as its first piece. -/
theorem short_stream_returns :
    ¬ ∀ (A B : Identity .reading) (guard : ReplayGuard) (S : SeenStore) (s : S.State)
      (sender : Peer) (t : ℕ → Identity.OpenReadings) (runs : List (StreamRun A))
      (picks : List (StreamPick A)) (input : StreamInput) (n : ℕ),
      (∀ run ∈ runs, 0 < run.options.chunkSize ∧ run.AddressedTo B sender) →
      (∀ pick ∈ picks, pick.run ∈ runs) →
      (∀ i, (t i).mark ≤ (t (i + 1)).checked) →
      Given Platform.reading.toRuntime (picks.map StreamPick.package) input →
      (receiveStream B guard S s sender t input).result = .ok n →
        ∃ run ∈ runs, (receiveStream B guard S s sender t input).written = run.source.bytes := by
  intro always
  have computed : ((sampleStream "binary").toOption.map fun packages =>
      (packages.length, (sampleReceived (packages.take 1)).result.toOption,
        (sampleReceived (packages.take 1)).written)) = some (2, some 2, [1, 2]) := by decide +kernel
  obtain ⟨packages, found, all⟩ := Option.map_eq_some_iff.mp computed
  obtain ⟨two, rest⟩ := Prod.mk.inj all
  obtain ⟨received, written⟩ := Prod.mk.inj rest
  obtain ⟨p, q, rfl⟩ := List.length_eq_two.mp two
  have returned := Except.of_toOption found
  obtain ⟨run, mem, same⟩ := always sampleWriter sampleReader .default MemoryNonceStore.seenStore
    .empty ⟨"A", sampleWriter.card⟩ (fun _ => sampleReadings) [sampleRun returned]
    [samplePick returned 0 Nat.two_pos] _ 2
    (List.forall_mem_singleton.mpr ⟨show (0 : ℤ) < 2 by decide, sampleRun_addressed returned⟩)
    (List.forall_mem_singleton.mpr List.mem_cons_self) (fun _ => le_rfl) .packages
    (Except.of_toOption received)
  obtain rfl := List.mem_singleton.mp mem
  exact absurd (written.symm.trans same) (show ([1, 2] : Bytes) ≠ [1, 2, 3] by decide)

end Uxsp.Secure
