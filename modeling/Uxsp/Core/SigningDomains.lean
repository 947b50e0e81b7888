import Uxsp.Core.HandshakeSteps
import Uxsp.Core.Signing

/-!
# What is signed for what

Envelopes, HELLOs, ACKs, cards and revocation lists are signed with the keys of one identity.
`Signed p b` holds if `b` is put together for the use `p`, by the side that signs or by the side
that checks.  Four uses start with a label.  A card starts with an id that may read like a label, and
is told apart by the number of its fields; a revocation list of as many fields has the line of a
certificate, with a colon, where the card has the number of its keys.
-/

namespace Uxsp

open Handshake

/-- What a signature is made for. -/
inductive Purpose
  | envelope
  | hello
  | ack
  | card
  | crl
  deriving DecidableEq

/-- The bytes are put together for this use. -/
inductive Signed (R : Runtime) : Purpose → Bytes → Prop
  | envelope {f : SealedFields} {b} : f.signable R = .ok b → Signed R .envelope b
  | makeHello {sessionId initiatorId responderId ts exchange b} :
      helloPreimage R sessionId initiatorId responderId ts exchange = .ok b → Signed R .hello b
  | hello {hello b} : helloSignable R hello = .ok b → Signed R .hello b
  | makeAck {version sessionId responderId initiatorId ts proof exchange b} :
      ackPreimage R version sessionId responderId initiatorId ts proof exchange = .ok b →
        Signed R .ack b
  | ack {ack b} : ackSignable R ack = .ok b → Signed R .ack b
  | card {card notBefore notAfter certId b} :
      cardSignable R card notBefore notAfter certId = .ok b → Signed R .card b
  | crl {issuerId crlNumber issuedAt entries b} :
      crlSignable R issuerId crlNumber issuedAt entries = .ok b → Signed R .crl b

/-- What the bytes start with. -/
def Purpose.label : Purpose → Option String
  | .envelope => some "UXSP-1"
  | .hello => some "UXSP-HELLO"
  | .ack => some "UXSP-ACK"
  | .card => none
  | .crl => some "UXSP-CRL-1"

/-- The fields that are bound for a use, as far as they tell the uses apart. -/
structure Purpose.Shape (p : Purpose) (fields : List Bytes) : Prop where
  labelled : ∀ s ∈ p.label, fields.head? = some (.lit s)
  short : p ≠ .card → p ≠ .crl → fields.length < 12
  card : p = .card → fields.length = 12 ∧
    ∃ t n, fields[8]? = some t ∧ (Str.ofInt n).encode = some t
  crl : p = .crl → ∀ t ∈ fields.drop 4, ∃ e : CrlEntry, e.line.encode = some t

variable {R : Runtime} {b : Bytes}

theorem Purpose.Shape.of_labelled {p : Purpose} {s : String} {rest : List Bytes}
    (labelled : p.label = some s) (other : p ≠ .crl) (short : rest.length < 11) :
    p.Shape (.lit s :: rest) where
  labelled := by
    intro t mem
    obtain rfl := Option.some.inj (labelled.symm.trans mem)
    rfl
  short _ _ := Nat.succ_lt_succ short
  card same := by
    subst same
    cases labelled
  crl same := absurd same other

theorem Signed.shape {p : Purpose} (signed : Signed R p b) :
    ∃ fields, p.Shape fields ∧ bindFields fields = .ok b := by
  cases signed with
  | envelope signable =>
      simp only [SealedFields.signable, bind_eq_ok] at signable
      obtain ⟨_, _, _, _, _, _, _, _, bound⟩ := signable
      refine ⟨_, ?_, bound⟩
      exact .of_labelled rfl (by rintro ⟨⟩) (show 8 < 11 by decide)
  | makeHello made =>
      obtain ⟨h, _, bound⟩ := helloPreimage_eq_ok.mp made
      refine ⟨_, ?_, bound⟩
      exact .of_labelled rfl (by rintro ⟨⟩) (show 7 < 11 by decide)
  | hello signable =>
      obtain ⟨h, _, bound⟩ := helloSignable_eq_ok.mp signable
      refine ⟨_, ?_, bound⟩
      exact .of_labelled rfl (by rintro ⟨⟩) (show 7 < 11 by decide)
  | makeAck made =>
      simp only [ackPreimage, bind_eq_ok] at made
      obtain ⟨_, _, _, _, _, _, _, _, _, _, _, _, bound⟩ := made
      refine ⟨_, ?_, bound⟩
      exact .of_labelled rfl (by rintro ⟨⟩) (show 8 < 11 by decide)
  | ack signable =>
      obtain ⟨a, _, bound⟩ := ackSignable_eq_ok.mp signable
      refine ⟨_, ?_, bound⟩
      exact .of_labelled rfl (by rintro ⟨⟩) (show 8 < 11 by decide)
  | card signable =>
      obtain ⟨_, _, _, _, k, _, _, _, _, _, _, _, number, _, _, _, bound⟩ :=
        cardSignable_eq_ok.mp signable
      refine ⟨_, ⟨?_, fun other => absurd rfl other,
        fun _ => ⟨rfl, k, _, rfl, (timestampBytes_eq_ok.mp number).2⟩, ?_⟩, bound⟩
      · rintro _ ⟨⟩
      · rintro ⟨⟩
  | crl signable =>
      obtain ⟨lines, issuer, number, issued, written, _, _, _, bound⟩ :=
        crlSignable_eq_ok.mp signable
      refine ⟨_, ⟨?_, fun _ other => absurd rfl other, ?_, fun _ t mem => ?_⟩, bound⟩
      · rintro _ ⟨⟩
        rfl
      · rintro ⟨⟩
      · rw [List.forall₂_iff_get] at written
        obtain ⟨k, less, rfl⟩ := List.mem_iff_getElem.mp mem
        exact ⟨_, (written.2 k (written.1 ▸ less) less).2⟩

/-! ## One use only -/

theorem Purpose.label_inj {p q : Purpose} {s : String} (left : p.label = some s)
    (right : q.label = some s) : p = q := by
  have same := left.trans right.symm
  revert same
  cases p <;> cases q <;> simp [label]

/-- A number is not the line of a certificate. -/
theorem CrlEntry.line_ne_ofInt (e : CrlEntry) (n : ℤ) : e.line ≠ Str.ofInt n := by
  intro same
  apply colon_notMem_ofInt n
  rw [← same, line]
  simp [Str.ofString]

/-- The fields of a card are bound for nothing else. -/
theorem Purpose.Shape.eq_card {q : Purpose} {fields : List Bytes}
    (card : Shape .card fields) (other : q.Shape fields) : q = .card := by
  obtain ⟨length, t, n, here, printed⟩ := card.card rfl
  by_contra apart
  by_cases crl : q = .crl
  · have dropped : (fields.drop 4)[4]? = some t := by rw [List.getElem?_drop, here]
    obtain ⟨e, encoded⟩ := other.crl crl t (List.mem_of_getElem? dropped)
    exact e.line_ne_ofInt n (Str.encode_inj encoded printed)
  · have short := other.short apart crl
    rw [length] at short
    exact lt_irrefl 12 short

/-- Fields are bound for one use. -/
theorem Purpose.Shape.unique {p q : Purpose} {fields : List Bytes} (left : p.Shape fields)
    (right : q.Shape fields) : p = q := by
  cases labelled : p.label with
  | none =>
      obtain rfl : p = .card := by cases p <;> first | rfl | cases labelled
      exact (left.eq_card right).symm
  | some s =>
      cases labelled' : q.label with
      | none =>
          obtain rfl : q = .card := by cases q <;> first | rfl | cases labelled'
          exact right.eq_card left
      | some s' =>
          have heads := (left.labelled s labelled).symm.trans (right.labelled s' labelled')
          obtain rfl := Str.lit_inj.mp (Option.some.inj heads)
          exact label_inj labelled labelled'

/-- Bytes are put together for one use. -/
theorem Signed.unique {p q : Purpose} (left : Signed R p b) (right : Signed R q b) : p = q := by
  obtain ⟨fields, shape, bound⟩ := left.shape
  obtain ⟨fields', shape', bound'⟩ := right.shape
  obtain rfl := bindFields_inj bound bound'
  exact shape.unique shape'

/-! ## The fields of one use -/

theorem cardSignable_inj {card card' : CardRecord} {nb nb' na na' : ℤ} {cid cid' : Str}
    (left : cardSignable R card nb na cid = .ok b)
    (right : cardSignable R card' nb' na' cid' = .ok b) :
    card.toPublicCard = card'.toPublicCard ∧ card.name = card'.name ∧ card.role = card'.role ∧
      card.createdAt = card'.createdAt ∧ card.keyVersion = card'.keyVersion ∧ nb = nb' ∧
      na = na' ∧ cid = cid' := by
  obtain ⟨_, _, _, _, _, _, _, _, he, hn, hr, hc, hk, hf, hu, hi, bound⟩ :=
    cardSignable_eq_ok.mp left
  obtain ⟨_, _, _, _, _, _, _, _, he', hn', hr', hc', hk', hf', hu', hi', bound'⟩ :=
    cardSignable_eq_ok.mp right
  have fields := bindFields_inj bound bound'
  simp only [List.cons.injEq, and_true] at fields
  obtain ⟨rfl, rfl, rfl, rfl, exchange, kem, signing, pqc, rfl, rfl, rfl, rfl⟩ := fields
  have keys : card.publicKeys = card'.publicKeys := by
    show PublicKeys.mk _ _ _ _ = PublicKeys.mk _ _ _ _
    rw [exchange, kem, signing, pqc]
  refine ⟨?_, Str.encode_inj hn hn', Str.encode_inj hr hr', Str.encode_inj hc hc',
    timestampBytes_inj hk hk', timestampBytes_inj hf hf', timestampBytes_inj hu hu',
    Str.encode_inj hi hi'⟩
  show PublicCard.mk _ _ = PublicCard.mk _ _
  rw [Str.encode_inj he he', keys]

theorem ackPreimage_inj {version version' responderId responderId' proof proof' : Str}
    {sid sid' ini ini' : Val} {ts ts' : ℤ} {exchange exchange' : ExchangeResult}
    (left : ackPreimage R version sid responderId ini ts proof exchange = .ok b)
    (right : ackPreimage R version' sid' responderId' ini' ts' proof' exchange' = .ok b) :
    version = version' ∧ sid = sid' ∧ responderId = responderId' ∧ ini = ini' ∧ ts = ts' ∧
      proof = proof' ∧ exchange.ephemeralPub = exchange'.ephemeralPub ∧
      exchange.kemCiphertext = exchange'.kemCiphertext := by
  simp only [ackPreimage, bind_eq_ok, Str.utf8_eq_ok, encodeVal_eq_ok] at left right
  obtain ⟨_, hv, _, ⟨s, rfl, hs⟩, _, hr, _, ⟨i, rfl, hi⟩, _, hp, _, ht, bound⟩ := left
  obtain ⟨_, hv', _, ⟨s', rfl, hs'⟩, _, hr', _, ⟨i', rfl, hi'⟩, _, hp', _, ht', bound'⟩ := right
  have fields := bindFields_inj bound bound'
  simp only [List.cons.injEq, and_true, true_and] at fields
  obtain ⟨rfl, rfl, rfl, rfl, rfl, eph, kem, rfl⟩ := fields
  exact ⟨Str.encode_inj hv hv', congrArg Val.str (Str.encode_inj hs hs'), Str.encode_inj hr hr',
    congrArg Val.str (Str.encode_inj hi hi'), timestampBytes_inj ht ht', Str.encode_inj hp hp', eph,
    kem⟩

/-- Two ACKs that are checked against the same bytes read as the same fields. -/
theorem ackSignable_inj {ack ack' : Dict} (left : ackSignable R ack = .ok b)
    (right : ackSignable R ack' = .ok b) : ∃ a : AckBytes, a.Reads R ack ∧ a.Reads R ack' := by
  obtain ⟨a, reads, bound⟩ := ackSignable_eq_ok.mp left
  obtain ⟨a', reads', bound'⟩ := ackSignable_eq_ok.mp right
  obtain rfl := AckBytes.fields_inj (bindFields_inj bound bound')
  exact ⟨a, reads, reads'⟩

/-! ## Signatures -/

/-- What the holder of some keys has signed. -/
structure Signer (R : Runtime) where
  made : Purpose → Bytes → Prop
  signed : ∀ {p b}, made p b → Signed R p b

/-- Ideal signatures: these two verify only for what the signer has signed. -/
def Signer.Unforged {P : Platform} (signer : Signer P.toRuntime) (keys : PublicKeys) (b : Bytes)
    (classicalSig pqcSig : Val) : Prop :=
  hybridVerify P b classicalSig pqcSig keys = .ok true → ∃ p, signer.made p b

/-- What verifies for a use was signed for it. -/
theorem Signer.made_of_verified {P : Platform} {signer : Signer P.toRuntime} {keys : PublicKeys}
    {p : Purpose} {b : Bytes} {c q : Val} (unforged : signer.Unforged keys b c q)
    (checked : Signed P.toRuntime p b) (verified : hybridVerify P b c q keys = .ok true) :
    signer.made p b := by
  obtain ⟨p', made⟩ := unforged verified
  obtain rfl := (signer.signed made).unique checked
  exact made

/-- The bytes that are signed for two uses never coincide; within envelopes, ACKs and cards they
determine the fields; so what verifies for a use was signed for it. -/
theorem signed_apart {P : Platform} :
    (∀ p q b, Signed P.toRuntime p b → Signed P.toRuntime q b → p = q) ∧
    (∀ (f f' : SealedFields) b, f.signable P.toRuntime = .ok b →
      f'.signable P.toRuntime = .ok b → f = f') ∧
    (∀ version version' sid sid' responderId responderId' ini ini' ts ts' proof proof'
      (exchange exchange' : ExchangeResult) b,
      ackPreimage P.toRuntime version sid responderId ini ts proof exchange = .ok b →
      ackPreimage P.toRuntime version' sid' responderId' ini' ts' proof' exchange' = .ok b →
        version = version' ∧ sid = sid' ∧ responderId = responderId' ∧ ini = ini' ∧ ts = ts' ∧
          proof = proof' ∧ exchange.ephemeralPub = exchange'.ephemeralPub ∧
          exchange.kemCiphertext = exchange'.kemCiphertext) ∧
    (∀ ack ack' b, ackSignable P.toRuntime ack = .ok b → ackSignable P.toRuntime ack' = .ok b →
      ∃ a : AckBytes, a.Reads P.toRuntime ack ∧ a.Reads P.toRuntime ack') ∧
    (∀ card card' nb nb' na na' cid cid' b, cardSignable P.toRuntime card nb na cid = .ok b →
      cardSignable P.toRuntime card' nb' na' cid' = .ok b →
        card.toPublicCard = card'.toPublicCard ∧ card.name = card'.name ∧ card.role = card'.role ∧
          card.createdAt = card'.createdAt ∧ card.keyVersion = card'.keyVersion ∧ nb = nb' ∧
          na = na' ∧ cid = cid') ∧
    (∀ (signer : Signer P.toRuntime) keys p b c q, signer.Unforged keys b c q →
      Signed P.toRuntime p b → hybridVerify P b c q keys = .ok true → signer.made p b) := by
  refine ⟨fun _ _ _ => Signed.unique, fun _ _ _ => SealedFields.signable_inj, ?_,
    fun _ _ _ => ackSignable_inj, fun _ _ _ _ _ _ _ _ _ => cardSignable_inj,
    fun _ _ _ _ _ _ => Signer.made_of_verified⟩
  intro _ _ _ _ _ _ _ _ _ _ _ _ _ _ _ left right
  exact ackPreimage_inj left right

end Uxsp
