import Uxsp.Core.Signing
import Uxsp.Crypto.Transparent
import Uxsp.Lib.Delimited

/-!
# What the signature of a revocation list fixes

The number, the date and the lines of a list are signed; a line is `cert_id:date:reason`.
`verified_fixed_iff`: the signature fixes the list unless a line can be read with another certificate
that keeps its place among the listed ones.
-/

namespace Uxsp

variable {R : Runtime} {b : Bytes}

/-! ## Readings of a line -/

abbrev colon : CodePoint := CodePoint.ofChar ':'

theorem CrlEntry.line_eq (e : CrlEntry) :
    e.line = Delimited.line colon e.certId (Str.ofInt e.date) e.reason := by
  have one : Str.ofString ":" = [colon] := rfl
  simp [CrlEntry.line, Delimited.line, one]

/-- The line of the entry can be read with this other certificate: a number stands between two colons
in the reason behind a colon, or in the certificate before one. -/
def CrlEntry.Rereads (e : CrlEntry) (certId : Str) : Prop :=
  ∃ n : ℤ, Str.printable n ∧ ∃ reason,
    Delimited.Behind colon e.certId (Str.ofInt e.date) e.reason certId (Str.ofInt n) reason ∨
    Delimited.Behind colon certId (Str.ofInt n) reason e.certId (Str.ofInt e.date) e.reason

theorem CrlEntry.rereads_iff {e : CrlEntry} {certId : Str} : e.Rereads certId ↔
    certId ≠ e.certId ∧
      ∃ e' : CrlEntry, e'.certId = certId ∧ Str.printable e'.date ∧ e'.line = e.line := by
  constructor
  · rintro ⟨n, short, reason, behind⟩
    have same : (⟨certId, n, reason⟩ : CrlEntry).line = e.line := by
      rw [line_eq, line_eq, Delimited.line_eq_iff (colon_notMem_ofInt _) (colon_notMem_ofInt _)]
      exact .inr behind
    refine ⟨?_, _, rfl, short, same⟩
    rcases behind with behind | behind
    · exact behind.ne
    · exact behind.ne.symm
  · rintro ⟨other, e', rfl, short, same⟩
    rw [line_eq, line_eq, Delimited.line_eq_iff (colon_notMem_ofInt _)
      (colon_notMem_ofInt _)] at same
    rcases same with ⟨certId, _⟩ | behind
    · exact absurd certId other
    · exact ⟨e'.date, short, e'.reason, behind⟩

/-- One certificate reads a line in one way. -/
theorem CrlEntry.eq_of_line {e e' : CrlEntry} (lines : e.line = e'.line)
    (certs : e.certId = e'.certId) : e = e' := by
  rw [line_eq, line_eq, certs, Delimited.line_eq_iff (colon_notMem_ofInt _)
    (colon_notMem_ofInt _)] at lines
  rcases lines with ⟨_, date, reason⟩ | behind | behind
  · cases e
    cases e'
    simp only at certs date reason
    rw [certs, Str.ofInt_inj.mp date, reason]
  · exact absurd rfl behind.ne
  · exact absurd rfl behind.ne

/-- A listed certificate lies on the way from one certificate to another, its end included. -/
def Passes (entries : List CrlEntry) (old new : Str) : Prop :=
  ∃ f ∈ entries, (old < f.certId ∧ f.certId ≤ new) ∨ (new ≤ f.certId ∧ f.certId < old)

/-- No line can be read with another certificate that keeps its place. -/
def Unambiguous (entries : List CrlEntry) : Prop :=
  ∀ e ∈ entries, ∀ certId, e.Rereads certId → Passes entries e.certId certId

/-- Without colons every line is read in one way. -/
theorem unambiguous_of_plain {entries : List CrlEntry}
    (plain : ∀ e ∈ entries, colon ∉ e.certId ∧ colon ∉ e.reason) : Unambiguous entries := by
  rintro e mem certId ⟨n, _, reason, (⟨_, same⟩ | ⟨u, _, same⟩) | (⟨same, _⟩ | ⟨u, same, _⟩)⟩
  · exact absurd (same ▸ List.mem_append_right _ List.mem_cons_self) (plain e mem).2
  · exact absurd (same ▸ List.mem_append_right _ List.mem_cons_self) (plain e mem).2
  · exact absurd (same ▸ List.mem_append_right _ List.mem_cons_self) (plain e mem).1
  · exact absurd (same ▸ List.mem_append_right _ List.mem_cons_self) (plain e mem).1

/-! ## Sorted entries -/

/-- The entries stand in the order of their certificates. -/
abbrev Ascending (l : List CrlEntry) : Prop := l.Pairwise fun a b => a.certId < b.certId

theorem sort_ascending {entries : List CrlEntry} (distinct : (entries.map CrlEntry.certId).Nodup) :
    Ascending (entries.insertionSort byCertId) := by
  have total : Std.Total byCertId := ⟨fun a b => le_total a.certId b.certId⟩
  have trans : IsTrans CrlEntry byCertId := ⟨fun a b c => le_trans⟩
  have sorted := List.pairwise_insertionSort byCertId entries
  have apart : (entries.insertionSort byCertId).Pairwise fun a b => a.certId ≠ b.certId := by
    rw [← List.pairwise_map]
    exact (((List.perm_insertionSort byCertId entries).map _).nodup_iff).mpr distinct
  exact sorted.imp₂ (fun _ _ le ne => lt_of_le_of_ne le ne) apart

/-- An ascending list of the same entries is the sorted list. -/
theorem sort_eq {entries l : List CrlEntry} (perm : l.Perm entries) (ascending : Ascending l) :
    entries.insertionSort byCertId = l := by
  have total : Std.Total byCertId := ⟨fun a b => le_total a.certId b.certId⟩
  have trans : IsTrans CrlEntry byCertId := ⟨fun a b c => le_trans⟩
  have distinct : (l.map CrlEntry.certId).Nodup :=
    List.pairwise_map.mpr (ascending.imp ne_of_lt)
  have sorted := (List.perm_insertionSort byCertId entries).trans perm.symm
  refine @List.Perm.eq_of_pairwise _ byCertId _ _ ?_ ?_ (ascending.imp le_of_lt) sorted
  · intro a b left right ab ba
    exact List.inj_on_of_nodup_map distinct (sorted.mem_iff.mp left) right (le_antisymm ab ba)
  · exact List.pairwise_insertionSort byCertId entries

/-- The lines of an unambiguous list are read in one way. -/
theorem eq_of_lines {l l' : List CrlEntry} (ascending : Ascending l) (ascending' : Ascending l')
    (lines : List.Forall₂ (fun e e' => Str.printable e'.date ∧ e'.line = e.line) l l')
    (unambiguous : Unambiguous l) : l = l' := by
  rw [List.forall₂_iff_get] at lines
  obtain ⟨lengths, lines⟩ := lines
  let f : Fin l.length → Str := fun k => l[k].certId
  let g : Fin l.length → Str := fun k => l'[k].certId
  have passes : ∀ k, g k ≠ f k → Passes l (f k) (g k) := by
    intro k other
    obtain ⟨short, same⟩ := lines k k.2 (lengths ▸ k.2)
    exact unambiguous _ (List.getElem_mem _) _
      (CrlEntry.rereads_iff.mpr ⟨other, _, rfl, short, same⟩)
  have certs : f = g := by
    refine Delimited.eq_of_interleaved ?_ ?_ ?_ ?_
    · exact fun j k less => List.pairwise_iff_getElem.mp ascending j k j.2 k.2 less
    · exact fun j k less => List.pairwise_iff_getElem.mp ascending' j k (lengths ▸ j.2)
        (lengths ▸ k.2) less
    · intro k less
      obtain ⟨e, mem, ⟨left, right⟩ | ⟨left, right⟩⟩ := passes k less.ne'
      · obtain ⟨j, here, rfl⟩ := List.mem_iff_getElem.mp mem
        exact ⟨⟨j, here⟩, left, right⟩
      · exact absurd less (not_lt.mpr (left.trans right.le))
    · intro k less
      obtain ⟨e, mem, ⟨left, right⟩ | ⟨left, right⟩⟩ := passes k less.ne
      · exact absurd less (not_lt.mpr (left.le.trans right))
      · obtain ⟨j, here, rfl⟩ := List.mem_iff_getElem.mp mem
        exact ⟨⟨j, here⟩, left, right⟩
  refine List.ext_getElem lengths fun k less less' => ?_
  exact CrlEntry.eq_of_line (lines k less less').2.symm (congrFun certs ⟨k, less⟩)

/-! ## Reading a line anew -/

/-- Put `e` in the place of the entry of a certificate. -/
def CrlEntry.instead (certId : Str) (e x : CrlEntry) : CrlEntry := if x.certId = certId then e else x

theorem Ascending.instead {l : List CrlEntry} (ascending : Ascending l) {old : Str} {e : CrlEntry}
    (keeps : ¬ Passes l old e.certId) : Ascending (l.map (e.instead old)) := by
  refine List.pairwise_map.mpr (ascending.imp_of_mem fun {x y} memX memY less => ?_)
  unfold CrlEntry.instead
  split
  · rename_i here
    subst here
    rw [if_neg less.ne']
    by_contra le
    exact keeps ⟨y, memY, .inl ⟨less, not_lt.mp le⟩⟩
  · split
    · rename_i here
      subst here
      by_contra le
      exact keeps ⟨x, memX, .inr ⟨not_lt.mp le, less⟩⟩
    · exact less

/-! ## Lists -/

namespace CertificateRevocationList

variable {P : Platform} {keys : PublicKeys} {crl crl' : CertificateRevocationList}
  {entries entries' : List CrlEntry}

theorem verify_eq_ok : crl.verify P keys = .ok () ↔ ∃ b, crl.signable P.toRuntime = .ok b ∧
    hybridVerify P b (.str crl.classicalSig.hex) (.str crl.pqcSig.hex) keys = .ok true := by
  simp only [verify, bind_eq_ok, catching_eq_ok, ensure_eq_ok]
  constructor
  · rintro ⟨b, signable, _, accepted, rfl⟩
    exact ⟨b, signable, accepted⟩
  · rintro ⟨b, signable, accepted⟩
    exact ⟨b, signable, true, accepted, rfl⟩

theorem entries_certId (read : crl.entries R = .ok entries) :
    entries.map CrlEntry.certId = crl.revokedCerts.map Prod.fst := by
  rw [CertificateRevocationList.entries, mapM_eq_ok] at read
  refine List.forall₂_eq_eq_eq ▸ List.forall₂_map_left_iff.mpr (List.forall₂_map_right_iff.mpr ?_)
  refine read.flip.imp fun e item same => ?_
  simp only [entry, bind_eq_ok, pure_eq_ok] at same
  obtain ⟨_, _, _, _, _, _, _, _, rfl⟩ := same
  rfl

theorem entries_distinct (read : crl.entries R = .ok entries) :
    (entries.map CrlEntry.certId).Nodup := by
  rw [entries_certId read]
  exact crl.keyed

/-- Equal number, date and entries. -/
def SameContents (R : Runtime) (crl crl' : CertificateRevocationList) : Prop :=
  crl.crlNumber = crl'.crlNumber ∧ crl.issuedAt = crl'.issuedAt ∧
    ∃ entries entries', crl.entries R = .ok entries ∧ crl'.entries R = .ok entries' ∧
      entries.Perm entries'

/-- An unambiguous list is fixed by the bytes that are signed. -/
theorem sameContents_of_signable (read : crl.entries R = .ok entries)
    (unambiguous : Unambiguous entries) (left : crl.signable R = .ok b)
    (right : crl'.signable R = .ok b) : SameContents R crl crl' := by
  simp only [signable, bind_eq_ok] at left right
  obtain ⟨_, same, left⟩ := left
  obtain rfl := Except.ok.inj (read.symm.trans same)
  obtain ⟨entries', read', right⟩ := right
  obtain ⟨lines, _, _, _, written, _, number, issued, bound⟩ := crlSignable_eq_ok.mp left
  obtain ⟨lines', _, _, _, written', _, number', issued', bound'⟩ := crlSignable_eq_ok.mp right
  have fields := bindFields_inj bound bound'
  simp only [List.cons_append, List.nil_append, List.cons.injEq, true_and] at fields
  obtain ⟨_, rfl, rfl, rfl⟩ := fields
  refine ⟨timestampBytes_inj number number', timestampBytes_inj issued issued', entries, entries',
    read, read', ?_⟩
  have sorted := List.perm_insertionSort byCertId entries
  have sorted' := List.perm_insertionSort byCertId entries'
  have same : entries.insertionSort byCertId = entries'.insertionSort byCertId := by
    refine eq_of_lines (sort_ascending (entries_distinct read))
      (sort_ascending (entries_distinct read')) ?_ ?_
    · rw [List.forall₂_iff_get] at written written' ⊢
      refine ⟨written.1.trans written'.1.symm, fun k less less' => ?_⟩
      have left := written.2 k less (written.1 ▸ less)
      have right := written'.2 k less' (written.1 ▸ less)
      exact ⟨right.1, Str.encode_inj right.2 left.2⟩
    · intro e mem certId rereads
      obtain ⟨f, memF, between⟩ := unambiguous e (sorted.mem_iff.mp mem) certId rereads
      exact ⟨f, sorted.mem_iff.mpr memF, between⟩
  exact sorted.symm.trans (same ▸ sorted')

/-- A list with these entries. -/
def withEntries (crl : CertificateRevocationList) (entries : List CrlEntry)
    (distinct : (entries.map CrlEntry.certId).Nodup) : CertificateRevocationList :=
  { crl with
    revokedCerts := entries.map fun e =>
      (e.certId, .dict [("revocation_date", .int e.date), ("reason", .str e.reason)])
    keyed := by rwa [List.map_map] }

theorem entries_withEntries (distinct : (entries.map CrlEntry.certId).Nodup) :
    (crl.withEntries entries distinct).entries R = .ok entries := by
  rw [CertificateRevocationList.entries, mapM_eq_ok]
  refine List.forall₂_map_left_iff.mpr (List.forall₂_same.mpr fun e _ => ?_)
  simp [entry, infoGet]

/-- A list that is not unambiguous has the bytes of another one. -/
theorem exists_signable_of_ambiguous (read : crl.entries R = .ok entries)
    (ambiguous : ¬ Unambiguous entries) (signed : crl.signable R = .ok b) :
    ∃ entries' distinct, (crl.withEntries entries' distinct).signable R = .ok b ∧
      ¬ entries.Perm entries' := by
  unfold Unambiguous at ambiguous
  push Not at ambiguous
  obtain ⟨e, mem, certId, rereads, keeps⟩ := ambiguous
  obtain ⟨other, e', rfl, short, line⟩ := CrlEntry.rereads_iff.mp rereads
  have sorted := List.perm_insertionSort byCertId entries
  have keeps' : ¬ Passes (entries.insertionSort byCertId) e.certId e'.certId := by
    rintro ⟨f, memF, between⟩
    exact keeps ⟨f, sorted.mem_iff.mp memF, between⟩
  have distinct := entries_distinct read
  have ascending := (sort_ascending distinct).instead keeps'
  have perm := sorted.map (e'.instead e.certId)
  have same := sort_eq perm ascending
  have distinct' : ((entries.map (e'.instead e.certId)).map CrlEntry.certId).Nodup :=
    (perm.map CrlEntry.certId).nodup_iff.mp (List.pairwise_map.mpr (ascending.imp ne_of_lt))
  refine ⟨entries.map (e'.instead e.certId), distinct', ?_, fun perm' => ?_⟩
  · simp only [signable, bind_eq_ok] at signed ⊢
    obtain ⟨_, read', signed⟩ := signed
    obtain rfl := Except.ok.inj (read.symm.trans read')
    refine ⟨_, entries_withEntries distinct', ?_⟩
    obtain ⟨lines, issuer, number, issued, written, hi, hn, ha, bound⟩ :=
      crlSignable_eq_ok.mp signed
    refine crlSignable_eq_ok.mpr ⟨lines, issuer, number, issued, ?_, hi, hn, ha, bound⟩
    rw [same]
    rw [List.forall₂_iff_get] at written
    rw [List.forall₂_map_left_iff, List.forall₂_iff_get]
    refine ⟨written.1, fun k less less' => ?_⟩
    have encodes := written.2 k less less'
    unfold CrlEntry.instead
    split
    · rename_i here
      have replaced : (entries.insertionSort byCertId).get ⟨k, less⟩ = e :=
        List.inj_on_of_nodup_map distinct (sorted.mem_iff.mp (List.get_mem _ _)) mem here
      rw [replaced] at encodes
      exact ⟨short, line ▸ encodes.2⟩
    · exact encodes
  · have here := perm'.mem_iff.mp mem
    obtain ⟨x, _, placed⟩ := List.mem_map.mp here
    unfold CrlEntry.instead at placed
    split at placed
    · exact other (congrArg CrlEntry.certId placed)
    · rename_i apart
      exact apart (congrArg CrlEntry.certId placed)

end CertificateRevocationList

/-! ## What is fixed -/

open CertificateRevocationList

variable {P : Platform} {keys : PublicKeys} {crl : CertificateRevocationList}
  {entries : List CrlEntry}

/-- Ideal signatures: one pair of signatures verifies for one message. -/
def OneMessage (P : Platform) (keys : PublicKeys) : Prop :=
  ∀ m n c q, hybridVerify P m c q keys = .ok true → hybridVerify P n c q keys = .ok true → m = n

/-- Every list of the issuer that verifies under the signatures of this one has its contents. -/
def Fixed (P : Platform) (keys : PublicKeys) (crl : CertificateRevocationList) : Prop :=
  ∀ crl' : CertificateRevocationList, crl'.issuerId = crl.issuerId →
    crl'.classicalSig = crl.classicalSig → crl'.pqcSig = crl.pqcSig →
    crl'.verify P keys = .ok () → SameContents P.toRuntime crl crl'

/-- The signatures of a list fix it exactly if no line can be read with another certificate that
keeps its place. -/
theorem verified_fixed_iff (ideal : OneMessage P keys) (read : crl.entries P.toRuntime = .ok entries)
    (verified : crl.verify P keys = .ok ()) : Fixed P keys crl ↔ Unambiguous entries := by
  obtain ⟨b, signed, accepted⟩ := verify_eq_ok.mp verified
  constructor
  · intro fixed
    by_contra ambiguous
    obtain ⟨entries', distinct, signed', moved⟩ :=
      exists_signable_of_ambiguous read ambiguous signed
    have verified' : (crl.withEntries entries' distinct).verify P keys = .ok () :=
      verify_eq_ok.mpr ⟨b, signed', accepted⟩
    obtain ⟨_, _, es, es', left, right, perm⟩ :=
      fixed (crl.withEntries entries' distinct) rfl rfl rfl verified'
    obtain rfl := Except.ok.inj (read.symm.trans left)
    obtain rfl := Except.ok.inj ((entries_withEntries distinct).symm.trans right)
    exact moved perm
  · intro unambiguous crl' _ classical pqc verified'
    obtain ⟨b', signed', accepted'⟩ := verify_eq_ok.mp verified'
    rw [classical, pqc] at accepted'
    obtain rfl := ideal b b' _ _ accepted accepted'
    exact sameContents_of_signable read unambiguous signed signed'

/-! A list of an anchor whose keys repeat one byte, with one certificate in it. -/

def samplePublicKeys : PublicKeys :=
  extractPublicKeys (generateHybridKeypair .transparent (.filled 32 1)
    (.filled 64 1) (.filled 32 1) (.filled 32 1))

def sampleSigned (e : CrlEntry) : Bytes :=
  List.replicate 32 1 ++
    ((crlSignable Platform.transparent.toRuntime "anchor" 1 1000 [e]).toOption.getD [])

def sampleRevocation (signed listed : CrlEntry) : CertificateRevocationList where
  issuerId := "anchor"
  issuerName := "Root"
  crlNumber := 1
  issuedAt := 1000
  revokedCerts := [(listed.certId,
    .dict [("revocation_date", .int listed.date), ("reason", .str listed.reason)])]
  classicalSig := sampleSigned signed
  pqcSig := sampleSigned signed
  keyed := List.nodup_singleton _

theorem transparent_oneMessage (keys : PublicKeys) : OneMessage .transparent keys := by
  intro m n c q left right
  have signed : ∀ k, hybridVerify .transparent k c q keys = .ok true →
      ∃ classical, fromHexVal c = .ok classical ∧ classical = keys.signingPub ++ k := by
    intro k accepted
    unfold hybridVerify at accepted
    split at accepted
    · rename_i classical pqc hc hq
      split at accepted
      · rename_i verified
        exact ⟨classical, hc, eq_of_beq verified⟩
      · cases accepted
    · cases accepted
    · cases accepted
  obtain ⟨classical, found, same⟩ := signed m left
  obtain ⟨classical', found', same'⟩ := signed n right
  obtain rfl := Except.ok.inj (found.symm.trans found')
  exact List.append_cancel_left (same.symm.trans same')

theorem verified_of_succeeded {P : Platform} {keys : PublicKeys} {crl : CertificateRevocationList}
    (computed : succeeded (crl.verify P keys) = true) : crl.verify P keys = .ok () := by
  obtain ⟨_, verified⟩ := succeeded_eq_true.mp computed
  exact verified

/-- The signatures fix a list without colons. -/
theorem sample_fixed :
    Fixed .transparent samplePublicKeys (sampleRevocation ⟨"a", 1, "x"⟩ ⟨"a", 1, "x"⟩) := by
  refine (@verified_fixed_iff _ _ _ [⟨"a", 1, "x"⟩] (transparent_oneMessage _) rfl
    (verified_of_succeeded (by decide +kernel))).mpr (unambiguous_of_plain ?_)
  decide

/-- The line `a:1:x:2:y` is read with the certificate `a` or with `a:1:x`. -/
theorem line_read_anew : ¬ ∀ (P : Platform) (keys : PublicKeys) (crl : CertificateRevocationList),
    OneMessage P keys → crl.verify P keys = .ok () → Fixed P keys crl := by
  intro fixed
  obtain ⟨_, _, es, es', left, right, perm⟩ := fixed .transparent samplePublicKeys
    (sampleRevocation ⟨"a", 1, "x:2:y"⟩ ⟨"a", 1, "x:2:y"⟩) (transparent_oneMessage _)
    (verified_of_succeeded (by decide +kernel))
    (sampleRevocation ⟨"a", 1, "x:2:y"⟩ ⟨"a:1:x", 2, "y"⟩) rfl rfl rfl
    (verified_of_succeeded (by decide +kernel))
  obtain rfl : [⟨"a", 1, "x:2:y"⟩] = es := Except.ok.inj left
  obtain rfl : [⟨"a:1:x", 2, "y"⟩] = es' := Except.ok.inj right
  have same := congrArg CrlEntry.certId (List.singleton_perm_singleton.mp perm)
  exact absurd same (by decide)

end Uxsp
