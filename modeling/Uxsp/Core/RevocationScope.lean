import Uxsp.Core.TrustRuns

/-!
# What a revocation list reaches

A store has one registry for the certificates of all its anchors, so a list that one anchor signed
revokes the cards of the others as well.  `unlisted_unchanged`: it reaches the certificates it names
and no others.  Two processes that differ by the list are followed side by side; `SameBut` is what
they share.
-/

namespace Uxsp

variable {P : Platform} {J : JsonFile} {L : List Str}

/-- The certificates that a revocation list names. -/
def CertificateRevocationList.certIds (crl : CertificateRevocationList) : List Str :=
  crl.revokedCerts.map Prod.fst

/-- The names in a list that verifies are read back from a file as they are. -/
theorem CertificateRevocationList.reread_certId {crl : CertificateRevocationList} {keys : PublicKeys}
    (verified : crl.verify P keys = .ok ()) : ∀ c ∈ crl.certIds, c.reread = c := by
  obtain ⟨b, signed, _⟩ := verify_eq_ok.mp verified
  simp only [signable, bind_eq_ok] at signed
  obtain ⟨entries, read, signed⟩ := signed
  obtain ⟨lines, _, _, _, written, _⟩ := crlSignable_eq_ok.mp signed
  intro c mem
  rw [certIds, ← entries_certId read] at mem
  obtain ⟨e, entry, rfl⟩ := List.mem_map.mp mem
  have listed := (List.mem_insertionSort byCertId).mpr entry
  obtain ⟨k, less, here⟩ := List.mem_iff_getElem.mp listed
  rw [List.forall₂_iff_get] at written
  have encodes := written.2 k less (written.1 ▸ less)
  rw [List.get_eq_getElem, here] at encodes
  apply Str.reread_of_forall
  intro x inside
  have inLine : x ∈ e.line := by simp [CrlEntry.line, inside]
  obtain ⟨_, scalar⟩ := Str.exists_toChar? encodes.2 x inLine
  exact CodePoint.isHighSurrogate_of_toChar? scalar

theorem TrustStore.verified_of_addCrl {store : TrustStore} {crl : CertificateRevocationList}
    (returned : (store.addCrl P crl).1 = .ok ()) : ∃ keys, crl.verify P keys = .ok () := by
  unfold TrustStore.addCrl at returned
  split at returned
  · cases returned
  · split at returned
    · cases returned
    · rename_i verified
      exact ⟨_, verified⟩

/-! ## Two stores -/

/-- The stores have the same anchors, and revoke the same certificates but for those of `L`. -/
structure TrustStore.SameBut (L : List Str) (s s' : TrustStore) : Prop where
  anchors : s.anchors = s'.anchors
  revoked : ∀ c ∉ L, (s.isRevoked c = true ↔ s'.isRevoked c = true)

namespace TrustStore.SameBut

variable {s s' : TrustStore}

theorem refl (s : TrustStore) : SameBut L s s := ⟨rfl, fun _ _ => Iff.rfl⟩

/-- Both stores decide alike about a certificate outside `L`. -/
theorem verify (same : SameBut L s s') {sc : SignedCard} (outside : sc.certId ∉ L) (now : ℤ)
    (expected : Option Str) (card : CardRecord) :
    s.verify P sc now expected = .ok card ↔ s'.verify P sc now expected = .ok card := by
  have live : s.isRevoked sc.certId = s'.isRevoked sc.certId :=
    Bool.eq_iff_iff.mpr (same.revoked _ outside)
  rw [verify_eq_ok, verify_eq_ok, same.anchors, live]

theorem addCrl (same : SameBut L s s') (crl : CertificateRevocationList) :
    SameBut L (s.addCrl P crl).2 (s'.addCrl P crl).2 := by
  have alike : (s.addCrl P crl).1 = (s'.addCrl P crl).1 := by
    obtain ⟨anchors, _, _⟩ := s
    obtain ⟨_, _, _⟩ := s'
    obtain ⟨rfl, _⟩ := same
    unfold TrustStore.addCrl
    dsimp only
    cases anchors.lookup crl.issuerId with
    | none => rfl
    | some anchor =>
        dsimp only
        cases crl.verify P anchor.publicKeys <;> rfl
  cases result : (s.addCrl P crl).1 with
  | error e =>
      rw [addCrl_of_raised result, addCrl_of_raised (alike.symm.trans result)]
      exact same
  | ok u =>
      obtain ⟨anchors, added⟩ := addCrl_of_returned result
      obtain ⟨anchors', added'⟩ := addCrl_of_returned (alike.symm.trans result)
      refine ⟨anchors.trans (same.anchors.trans anchors'.symm), fun c outside => ?_⟩
      rw [added, added', same.revoked c outside]

/-- A list changes only what it names. -/
theorem addCrl_self {crl : CertificateRevocationList} (s : TrustStore) :
    SameBut crl.certIds (s.addCrl P crl).2 s := by
  cases result : (s.addCrl P crl).1 with
  | error e =>
      rw [addCrl_of_raised result]
      exact refl s
  | ok u =>
      obtain ⟨anchors, added⟩ := addCrl_of_returned result
      refine ⟨anchors, fun c outside => ?_⟩
      rw [added]
      exact ⟨fun revoked => revoked.resolve_right outside, Or.inl⟩

/-- What is loaded from the files of both stores. -/
theorem load (same : SameBut L s s') (plain : ∀ c ∈ L, c.reread = c) (path : Str) (now : ℚ) :
    ∃ r r', TrustStore.load path s.toDict.reread now = .ok r ∧
      TrustStore.load path s'.toDict.reread now = .ok r' ∧ SameBut L r r' := by
  obtain ⟨r, read, anchors, revoked⟩ := load_toDict path s now
  obtain ⟨r', read', anchors', revoked'⟩ := load_toDict path s' now
  refine ⟨r, r', read, read', anchors.trans (same.anchors ▸ anchors'.symm), fun c outside => ?_⟩
  rw [revoked, revoked']
  apply exists_congr
  intro x
  refine and_congr_left fun here => same.revoked x fun listed => outside ?_
  rwa [← here, plain x listed]

end TrustStore.SameBut

/-! ## Two processes -/

/-- The stores agree but for `L`, and the files were written by such stores. -/
structure TrustWorld.SameBut (J : JsonFile) (L : List Str) (w w' : TrustWorld) : Prop where
  stores : ∀ i, (w.stores i).SameBut L (w'.stores i)
  files : ∀ path, (w.files path = none ∧ w'.files path = none) ∨ ∃ text text' s s',
    w.files path = some text ∧ w'.files path = some text' ∧
      J.dumps (TrustStore.toDict s) = .ok text ∧ J.dumps (TrustStore.toDict s') = .ok text' ∧
        s.SameBut L s'

namespace TrustWorld

variable {w w' : TrustWorld}

theorem SameBut.setStore (same : w.SameBut J L w') (i : ℕ) {s s' : TrustStore}
    (here : s.SameBut L s') : (w.setStore i s).SameBut J L (w'.setStore i s') where
  stores := by
    intro j
    by_cases at' : j = i
    · subst at'
      simpa [TrustWorld.setStore] using here
    · simpa [TrustWorld.setStore, at'] using same.stores j
  files := same.files

/-- The operation, if it is a save, returns in both processes or raises in both. -/
def Alike (P : Platform) (J : JsonFile) (w w' : TrustWorld) (e : TrustEvent) : Prop :=
  ∀ i path, e = .save i path → (w.apply P J e).1 = (w'.apply P J e).1

/-- One operation keeps what the processes share. -/
theorem SameBut.apply (same : w.SameBut J L w') (plain : ∀ c ∈ L, c.reread = c) {e : TrustEvent}
    (alike : Alike P J w w' e) : (w.apply P J e).2.SameBut J L (w'.apply P J e).2 := by
  cases e with
  | create i => exact same.setStore i (.refl _)
  | add i anchor =>
      obtain ⟨anchors, revoked⟩ := same.stores i
      exact same.setStore i ⟨congrArg (Assoc.set · anchor.anchorId anchor) anchors, revoked⟩
  | remove i anchorId =>
      obtain ⟨anchors, revoked⟩ := same.stores i
      exact same.setStore i ⟨congrArg (Assoc.erase · anchorId) anchors, revoked⟩
  | revoke i certId reason date now =>
      obtain ⟨anchors, revoked⟩ := same.stores i
      refine same.setStore i ⟨anchors, fun c outside => ?_⟩
      rw [TrustStore.isRevoked_revoke, TrustStore.isRevoked_revoke, revoked c outside]
  | unrevoke i certId =>
      obtain ⟨anchors, revoked⟩ := same.stores i
      refine same.setStore i ⟨anchors, fun c outside => ?_⟩
      rw [TrustStore.isRevoked_unrevoke, TrustStore.isRevoked_unrevoke, revoked c outside]
  | addCrl i crl => exact same.setStore i ((same.stores i).addCrl crl)
  | save i path =>
      have alike := alike i path rfl
      cases left : J.dumps (w.stores i).toDict with
      | error e =>
          cases right : J.dumps (w'.stores i).toDict with
          | error e' =>
              simp only [TrustWorld.apply, left, right]
              exact same
          | ok text' =>
              simp only [TrustWorld.apply, left, right] at alike
              cases alike
      | ok text =>
          cases right : J.dumps (w'.stores i).toDict with
          | error e' =>
              simp only [TrustWorld.apply, left, right] at alike
              cases alike
          | ok text' =>
              simp only [TrustWorld.apply, left, right]
              refine ⟨same.stores, fun path' => ?_⟩
              by_cases at' : path' = path
              · subst at'
                exact .inr ⟨text, text', w.stores i, w'.stores i, by simp, by simp, left, right,
                  same.stores i⟩
              · simpa [at'] using same.files path'
  | load i path now =>
      obtain ⟨absent, absent'⟩ | ⟨text, text', s, s', found, found', written, written', here⟩ :=
        same.files path
      · simp only [TrustWorld.apply, absent, absent']
        exact same
      · obtain ⟨r, r', read, read', loaded⟩ := here.load plain path now
        have left : (do TrustStore.load path (← J.load text) now) = .ok r :=
          bind_eq_ok.mpr ⟨_, J.load_dumps written, read⟩
        have right : (do TrustStore.load path (← J.load text') now) = .ok r' :=
          bind_eq_ok.mpr ⟨_, J.load_dumps written', read'⟩
        simp only [TrustWorld.apply, found, found', left, right]
        exact same.setStore i loaded

/-- The state after these operations. -/
def after (P : Platform) (J : JsonFile) (w : TrustWorld) : List TrustEvent → TrustWorld
  | [] => w
  | e :: es => after P J (w.apply P J e).2 es

/-- Every save on the way returns in both processes or raises in both. -/
def AllAlike (P : Platform) (J : JsonFile) : TrustWorld → TrustWorld → List TrustEvent → Prop
  | _, _, [] => True
  | w, w', e :: es => Alike P J w w' e ∧ AllAlike P J (w.apply P J e).2 (w'.apply P J e).2 es

theorem SameBut.after (plain : ∀ c ∈ L, c.reread = c) {es : List TrustEvent}
    (same : w.SameBut J L w') (alike : AllAlike P J w w' es) :
    (w.after P J es).SameBut J L (w'.after P J es) := by
  induction es generalizing w w' with
  | nil => exact same
  | cons e es ih => exact ih (same.apply plain alike.1) alike.2

/-- A process after a run, with a revocation list added to one of its stores and without. -/
theorem SameBut.addCrl {l : LedgerWorld} (keeps : w.Keeps J l) (i : ℕ)
    (crl : CertificateRevocationList) :
    (w.apply P J (.addCrl i crl)).2.SameBut J crl.certIds w where
  stores := by
    intro j
    by_cases at' : j = i
    · subst at'
      simpa [TrustWorld.apply, TrustWorld.setStore] using .addCrl_self (w.stores j)
    · simpa [TrustWorld.apply, TrustWorld.setStore, at'] using .refl (w.stores j)
  files := by
    intro path
    cases found : w.files path with
    | none => exact .inl ⟨found, rfl⟩
    | some text =>
        obtain ⟨store, _, _, written, _⟩ := keeps.files path text found
        exact .inr ⟨text, text, store, store, found, rfl, written, written, .refl _⟩

end TrustWorld

/-- A list that is accepted revokes what it names, whoever issued it; for every other certificate no
store decides otherwise for it, at once or after any further operations. -/
theorem unlisted_unchanged {calls : List (TrustEvent × Bool)} {w : TrustWorld}
    (run : Run (TrustWorld.Step P J) .start calls w) {i : ℕ} {crl : CertificateRevocationList}
    (added : ((w.stores i).addCrl P crl).1 = .ok ()) :
    (∀ sc : SignedCard, sc.certId ∈ crl.certIds → ∀ now expected card,
      ((w.stores i).addCrl P crl).2.verify P sc now expected ≠ .ok card) ∧
    ∀ es, TrustWorld.AllAlike P J (w.apply P J (.addCrl i crl)).2 w es →
      ∀ j (sc : SignedCard), sc.certId ∉ crl.certIds → ∀ now expected card,
        (((w.apply P J (.addCrl i crl)).2.after P J es).stores j).verify P sc now expected = .ok card ↔
          ((w.after P J es).stores j).verify P sc now expected = .ok card := by
  constructor
  · intro sc listed now expected card verified
    obtain ⟨_, _, _, live, _⟩ := TrustStore.verify_eq_ok.mp verified
    have revoked := ((TrustStore.addCrl_of_returned added).2 sc.certId).mpr (.inr listed)
    rw [revoked] at live
    cases live
  · intro es alike j sc outside now expected card
    obtain ⟨keys, verified⟩ := TrustStore.verified_of_addCrl added
    have same := (TrustWorld.SameBut.addCrl (P := P) (TrustWorld.Keeps.run run) i crl).after
      (CertificateRevocationList.reread_certId verified) alike
    exact (same.stores j).verify outside now expected card

/-! Two anchors, and a list of the second one that names a card of the first. -/

def sampleOther : PublicAnchor where
  anchorId := "other"
  name := "Other"
  publicKeys := extractPublicKeys (generateHybridKeypair .transparent (.filled 32 2)
    (.filled 64 2) (.filled 32 2) (.filled 32 2))
  createdAt := "2026"

def sampleEntry : CrlEntry := ⟨sampleCardUuid.str, 1, "x"⟩

def sampleListSig : Bytes :=
  List.replicate 32 2 ++
    ((crlSignable Platform.transparent.toRuntime "other" 1 1000 [sampleEntry]).toOption.getD [])

def sampleForeignList : CertificateRevocationList where
  issuerId := "other"
  issuerName := "Other"
  crlNumber := 1
  issuedAt := 1000
  revokedCerts := [(sampleEntry.certId, .dict [("revocation_date", .int 1), ("reason", .str "x")])]
  classicalSig := sampleListSig
  pqcSig := sampleListSig
  keyed := List.nodup_singleton _

def sampleBoth : TrustStore := sampleStore.add sampleOther

theorem exists_sampleBoth : ∃ w : TrustWorld, w.stores 0 = sampleBoth ∧
    Run (TrustWorld.Step .transparent .text) .start
      [(.add 0 sampleAnchor.publicAnchor, true), (.add 0 sampleOther, true)] w := by
  have first : TrustWorld.Step .transparent .text .start (.add 0 sampleAnchor.publicAnchor, true)
      (TrustWorld.start.setStore 0 sampleStore) := rfl
  have second := TrustWorld.step_of_returned (P := .transparent) (J := .text)
    (w := TrustWorld.start.setStore 0 sampleStore) (e := .add 0 sampleOther) rfl
  exact ⟨_, rfl, .cons first (.single second)⟩

theorem sampleForeignList_added : (sampleBoth.addCrl .transparent sampleForeignList).1 = .ok () := by
  have computed : succeeded (sampleBoth.addCrl .transparent sampleForeignList).1 = true := by
    decide +kernel
  obtain ⟨_, added⟩ := succeeded_eq_true.mp computed
  exact added

/-- The list of the sample reaches what it names. -/
theorem sample_unlisted : ∃ w : TrustWorld,
    (∀ sc : SignedCard, sc.certId ∈ sampleForeignList.certIds → ∀ now expected card,
      ((w.stores 0).addCrl .transparent sampleForeignList).2.verify .transparent sc now expected ≠
        .ok card) ∧
    ∀ es, TrustWorld.AllAlike .transparent .text
        (w.apply .transparent .text (.addCrl 0 sampleForeignList)).2 w es →
      ∀ j (sc : SignedCard), sc.certId ∉ sampleForeignList.certIds → ∀ now expected card,
        (((w.apply .transparent .text (.addCrl 0 sampleForeignList)).2.after .transparent .text
          es).stores j).verify .transparent sc now expected = .ok card ↔
          ((w.after .transparent .text es).stores j).verify .transparent sc now expected =
            .ok card := by
  obtain ⟨w, here, run⟩ := exists_sampleBoth
  exact ⟨w, unlisted_unchanged run (here ▸ sampleForeignList_added)⟩

/-- The list of the second anchor revokes the card of the first. -/
theorem foreign_card_revoked : ¬ ∀ (P : Platform) (J : JsonFile) (calls : List (TrustEvent × Bool))
    (w : TrustWorld), Run (TrustWorld.Step P J) .start calls w → ∀ i crl,
      ((w.stores i).addCrl P crl).1 = .ok () → ∀ sc : SignedCard, sc.issuerId ≠ crl.issuerId →
        ∀ now card, ((w.stores i).addCrl P crl).2.verify P sc now none = .ok card ↔
          (w.stores i).verify P sc now none = .ok card := by
  intro unchanged
  obtain ⟨w, here, run⟩ := exists_sampleBoth
  have computed : sampleIssue.toOption.any (fun sc => succeeded (sampleBoth.verify .transparent sc 0
      none) && decide (sc.certId = sampleEntry.certId ∧ sc.issuerId ≠ "other")) = true := by
    decide +kernel
  obtain ⟨sc, _, verified⟩ := (Option.any_eq_true _ _).mp computed
  rw [Bool.and_eq_true, succeeded_eq_true, decide_eq_true_eq] at verified
  obtain ⟨⟨card, verified⟩, cert, issuer⟩ := verified
  have added := sampleForeignList_added
  rw [← here] at verified added
  have after := (unchanged _ _ _ w run 0 _ added sc issuer 0 card).mpr verified
  obtain ⟨_, _, _, live, _⟩ := TrustStore.verify_eq_ok.mp after
  have listed : sc.certId ∈ sampleForeignList.certIds := cert ▸ List.mem_cons_self
  rw [((TrustStore.addCrl_of_returned added).2 sc.certId).mpr (.inr listed)] at live
  cases live

end Uxsp
