import Uxsp.Core.HandshakeAuth
import Uxsp.Core.HandshakeHonest
import Uxsp.Crypto.Errors

/-!
# Malformed handshake messages

Which messages make `respond` and `complete` raise something that is no `HandshakeError`.  Before
the signature it is a timestamp that is an infinity, a version that cannot be hashed, or a value
that cannot be printed in a message; behind it, where only the holder of the peer's keys gets, it is
a `session_id` or a `proof` that is no text, or a key or ciphertext that the key exchange refuses.

`handshake_errors_iff` says that there is nothing else.
-/

namespace Uxsp

namespace Handshake

/-- What a caller of the handshake is told to catch. -/
def FAMILY : List ErrClass := [.handshakeError]

/-- What the handler around the signed fields takes for malformed. -/
def MALFORMED : List ErrClass := [.valueError, .typeError, .attributeError] ++ FAMILY

variable {P : Platform} {R : Runtime} {message hello ack : Dict} {now after : ℚ}

/-! ## Printing and hashing -/

/-- A message about the timestamp can be printed, and the timestamp is no infinity. -/
structure TameStamp (R : Runtime) (message : Dict) (now : ℚ) : Prop where
  finite : ∀ negative, message.get? "timestamp" ≠ some (.float (.inf negative))
  number : ∀ v e, message.get? "timestamp" = some v → R.int v = .error e → R.Prints FAMILY v
  age : ∀ v ts, message.get? "timestamp" = some v → R.int v = .ok ts →
    (-MAX_AGE ≤ ⌊now⌋ - ts && ⌊now⌋ - ts ≤ MAX_AGE) = false → R.Prints FAMILY (.int (⌊now⌋ - ts))

theorem raises_checkAge (present : message.has "timestamp" = true) (a b c d e : String) :
    Raises FAMILY (checkAge R message now
      (R.err .handshakeAuthError [a, .val ((message.get? "timestamp").getD .none), b])
      (fun age => R.err .handshakeExpiredError [c, .int age, d, .int MAX_AGE, e])) ↔
      TameStamp R message now := by
  obtain ⟨v, found⟩ := Option.isSome_iff_exists.mp present
  have item : message.item "timestamp" = .ok v := Dict.item_eq_ok.mpr found
  have bound : R.Prints FAMILY (.int MAX_AGE) := Raises.of_ok (R.str_int (by decide))
  have auth : ErrClass.handshakeAuthError.among FAMILY = true := rfl
  have expired : ErrClass.handshakeExpiredError.among FAMILY = true := rfl
  have run : (do R.int (← message.item "timestamp")) = R.int v := by
    rw [item]
    rfl
  have converts : ∀ invalid, Raises FAMILY (catching [.valueError, .typeError] (fun _ => invalid)
      (R.int v)) ↔ (∀ negative, v ≠ .float (.inf negative)) ∧
        ∀ e, R.int v = .error e → invalid.cls.among FAMILY = true :=
    fun _ => R.raises_caught_int (by decide) rfl
  simp only [checkAge, run, raises_bind, raises_ensure, converts, catching_eq_ok,
    Runtime.among_err_lit, Runtime.among_err_val, Runtime.among_err_int, Runtime.among_err_nil,
    auth, expired, bound, implies_true, and_true, found, Option.getD_some]
  constructor
  · rintro ⟨⟨finite, number⟩, age⟩
    refine ⟨fun negative same => ?_, fun w e held => ?_, fun w ts held => ?_⟩
    · exact finite negative (Option.some.inj (found.symm.trans same))
    · cases found.symm.trans held
      exact number e
    · cases found.symm.trans held
      exact age ts
  · rintro ⟨finite, number, age⟩
    refine ⟨⟨fun negative same => finite negative ?_, fun e => number v e found⟩,
      fun ts => age v ts found⟩
    rw [found, same]

/-- The versions of a HELLO can be hashed, and printed where none is supported. -/
def TameVersions (R : Runtime) (versions : Option Val) : Prop :=
  ∀ x xs, versions = some (.list (x :: xs)) → (∀ v ∈ x :: xs, hashable v = true) ∧
    ((∀ v ∈ SUPPORTED_VERSIONS, .str v ∉ x :: xs) → R.Prints FAMILY (.list (x :: xs)))

theorem any_eqStr {s : Str} {xs : List Val} :
    (xs.any fun w => Val.eqStr (some w) s) = true ↔ .str s ∈ xs := by
  simp only [List.any_eq_true, Val.eqStr_eq_true, Option.some.injEq, exists_eq_right]

theorem raises_negotiate {versions : Option Val} :
    Raises FAMILY (negotiate R versions) ↔ TameVersions R versions := by
  unfold negotiate
  split
  · rename_i x xs
    have unfolded : TameVersions R (some (.list (x :: xs))) ↔
        (∀ v ∈ x :: xs, hashable v = true) ∧
          ((∀ v ∈ SUPPORTED_VERSIONS, .str v ∉ x :: xs) → R.Prints FAMILY (.list (x :: xs))) := by
      refine ⟨fun tame => tame x xs rfl, fun tame y ys same => ?_⟩
      cases same
      exact tame
    have hashed : ((x :: xs).any fun v => !hashable v) = false ↔
        ∀ v ∈ x :: xs, hashable v = true := by
      simp only [List.any_eq_false, Bool.not_eq_true', Bool.not_eq_false]
    rw [unfolded, ← hashed]
    split
    · rename_i unhashable
      rw [raises_error, unhashable]
      exact ⟨nofun, nofun⟩
    · rename_i hashed
      rw [Bool.not_eq_true] at hashed
      split
      · rename_i version rest common
        have mem : version ∈ SUPPORTED_VERSIONS.filter _ := common ▸ List.mem_cons_self
        obtain ⟨supported, sent⟩ := List.mem_filter.mp mem
        refine ⟨fun _ => ⟨hashed, fun apart => ?_⟩, fun _ => raises_ok _⟩
        exact absurd (any_eqStr.mp sent) (apart version supported)
      · rename_i disjoint
        have apart : ∀ v ∈ SUPPORTED_VERSIONS, .str v ∉ x :: xs := by
          intro v supported sent
          exact List.filter_eq_nil_iff.mp disjoint v supported (any_eqStr.mpr sent)
        rw [raises_error, Runtime.among_err_lit, Runtime.among_err_val]
        exact ⟨fun h => ⟨hashed, fun _ => h.1⟩, fun h => ⟨h.2 apart, fun _ _ => rfl⟩⟩
  · rename_i other
    rw [raises_error]
    exact ⟨fun _ x xs same => absurd same (other x xs), fun _ => rfl⟩

/-! ## The signed fields -/

theorem raises_checkSignature (installed : P.Installed) {b : Bytes} {keys : PublicKeys}
    {invalid : PyErr → PyErr} {wrong : PyErr} (classical : message.has "classical_sig" = true)
    (pqc : message.has "pqc_sig" = true) (refused : ∀ e, (invalid e).cls.among FAMILY = true)
    (forged : wrong.cls.among FAMILY = true) :
    Raises FAMILY (checkSignature P message b keys invalid wrong) := by
  have verified : Raises [.envelopeValidationError]
      (do hybridVerify P b (← message.item "classical_sig") (← message.item "pqc_sig") keys) := by
    refine raises_bind.mpr ⟨Dict.raises_item_of_has classical, fun c _ => ?_⟩
    refine raises_bind.mpr ⟨Dict.raises_item_of_has pqc, fun d _ => ?_⟩
    exact raises_hybridVerify installed
  unfold checkSignature
  refine raises_bind.mpr ⟨(raises_catching_of refused).mpr ?_, fun ok _ => ?_⟩
  · exact verified.mono fun _ mem => List.mem_append_left _ mem
  · exact raises_ensure.mpr fun _ => forged

theorem malformed_utf8 (s : Str) : Raises MALFORMED s.utf8 := by
  unfold Str.utf8
  split
  · exact raises_ok _
  · exact raises_error.mpr rfl

theorem malformed_fromHexVal (v : Val) : Raises MALFORMED (fromHexVal v) :=
  (raises_fromHexVal v).mono (by decide)

theorem malformed_bindFields (fields : List Bytes) : Raises MALFORMED (bindFields fields) :=
  raises_bindFields.mpr (Or.inr rfl)

theorem malformed_joinVersions (v : Val) : Raises MALFORMED (joinVersions v) := by
  unfold joinVersions
  split
  · refine raises_bind.mpr ⟨raises_mapM.mpr fun _ v _ _ _ => ?_, fun versions _ => malformed_utf8 _⟩
    split
    · exact raises_ok _
    · exact raises_error.mpr rfl
  · exact raises_error.mpr rfl

/-- What has been converted to an integer is printed, unless it has too many digits. -/
theorem malformed_str {v : Val} {n : ℤ} (converted : R.int v = .ok n) :
    Raises MALFORMED (R.str v) := by
  cases v with
  | int n =>
      rw [Runtime.str]
      split
      · exact raises_ok _
      · exact raises_error.mpr rfl
  | bool b | float x | str s => exact raises_ok _
  | none | list xs | dict items => cases converted

theorem raises_helloSignable (complete : ∀ field ∈ HELLO_REQUIRED, hello.has field = true)
    (fresh : Fresh R hello now) {sessionId initiatorId responderId : Str}
    (printed : ∀ v, hello.get? "session_id" = some v → R.str v = .ok sessionId)
    (initiator : hello.get? "initiator_id" = some (.str initiatorId))
    (responder : hello.get? "responder_id" = some (.str responderId)) :
    Raises MALFORMED (helloSignable R hello) := by
  have item : ∀ field ∈ HELLO_REQUIRED, Raises MALFORMED (hello.item field) :=
    fun field mem => Dict.raises_item_of_has (complete field mem)
  simp only [HELLO_REQUIRED, List.forall_mem_cons, List.not_mem_nil, IsEmpty.forall_iff,
    implies_true, and_true] at item
  obtain ⟨-, versions, sid, ini, res, stamp, eph, kem, -⟩ := item
  obtain ⟨w, ts, stamped, converted, -⟩ := fresh
  have ids : ∀ v, hello.get? "initiator_id" = some v ∨ hello.get? "responder_id" = some v →
      Raises MALFORMED (R.str v) := by
    rintro v (found | found)
    · cases initiator.symm.trans found
      exact raises_ok _
    · cases responder.symm.trans found
      exact raises_ok _
  have time : ∀ v, hello.get? "timestamp" = some v → Raises MALFORMED (R.str v) := by
    intro v found
    cases stamped.symm.trans found
    exact malformed_str converted
  simp only [helloSignable, raises_bind, malformed_utf8, malformed_fromHexVal,
    malformed_joinVersions, malformed_bindFields, Dict.item_eq_ok, implies_true, and_true,
    versions, sid, ini, res, eph, kem, stamp, true_and]
  exact fun _ _ _ _ v hv => ⟨.of_ok (printed v hv), fun _ _ _ _ v hv => ⟨ids v (.inl hv),
    fun _ _ _ _ v hv => ⟨ids v (.inr hv), fun _ _ _ _ _ _ _ _ _ _ _ _ v hv => time v hv⟩⟩⟩

/-! ## HELLO -/

/-- The session id reads as a UUID and no field is missing. -/
structure Identified (R : Runtime) (hello : Dict) (sessionId : Str) : Prop where
  printed : R.str ((hello.get? "session_id").getD (.str "")) = .ok sessionId
  parses : Uuid.parses R sessionId = true
  complete : missingFields HELLO_REQUIRED hello = []

/-- A fresh HELLO of the holder of the card for the responder. -/
structure Addressed (P : Platform) (hello : Dict) (card : PublicCard) (responder : Identity P)
    (now : ℚ) (sessionId : Str) : Prop extends Identified P.toRuntime hello sessionId where
  type : hello.get? "type" = some (.str "UXSP-HELLO")
  fresh : Fresh P.toRuntime hello now
  initiatorId : hello.get? "initiator_id" = some (.str card.entityId)
  responderId : hello.get? "responder_id" = some (.str responder.entityId)

/-- The HELLO reaches its responder signed, and for the first time. -/
structure Taken (P : Platform) (S : NonceStore) (store : S.State) (hello : Dict)
    (card : PublicCard) (responder : Identity P) (now after : ℚ) (sessionId : Str) : Prop
    extends Identified P.toRuntime hello sessionId where
  verified : ∃ signed, verifyHelloSignature P hello card responder now = .ok signed
  unused : (S.markUsed store (("hello:" : Str) ++ sessionId) NONCE_TTL after).1 = .ok true

/-- The key exchange takes the ephemeral key, the ciphertext and the keys of the card, and the
session id is a text. -/
def TameHelloExchange (P : Platform) (hello : Dict) (card : PublicCard) (responder : Identity P)
    (coins : MessageCoins) : Prop :=
  ∀ eph kem, Raw hello "ephemeral_pub" eph → Raw hello "kem_ciphertext" kem →
    Raises FAMILY (hybridRecipientExchange P eph kem responder.keypair) ∧
      ∀ secret, hybridRecipientExchange P eph kem responder.keypair = .ok secret →
        Raises FAMILY (hybridSenderExchange P card.publicKeys coins.exchange) ∧
          ∀ sent, hybridSenderExchange P card.publicKeys coins.exchange = .ok sent →
            ∃ s, hello.get? "session_id" = some (.str s)

structure TameHello (P : Platform) (S : NonceStore) (store : S.State) (hello : Dict)
    (card : PublicCard) (responder : Identity P) (now after : ℚ) (coins : MessageCoins) : Prop where
  sessionId : P.Prints FAMILY ((hello.get? "session_id").getD (.str ""))
  type : ∀ s, Identified P.toRuntime hello s → hello.get? "type" ≠ some (.str "UXSP-HELLO") →
    P.Prints FAMILY ((hello.get? "type").getD .none)
  timestamp : ∀ s, Identified P.toRuntime hello s → hello.get? "type" = some (.str "UXSP-HELLO") →
    TameStamp P.toRuntime hello now
  versions : ∀ s, Addressed P hello card responder now s →
    TameVersions P.toRuntime (hello.get? "supported_versions")
  exchange : ∀ s, Taken P S store hello card responder now after s →
    TameHelloExchange P hello card responder coins

variable {card : PublicCard} {responder : Identity P} {sessionId : Str}

theorem missingFields_eq_nil {required : List String} :
    missingFields required message = [] ↔ ∀ field ∈ required, message.has field = true := by
  simp only [missingFields, List.filter_eq_nil_iff, Bool.not_eq_true', Bool.not_eq_false]

theorem eqStr_eq_false {v : Option Val} {s : Str} : Val.eqStr v s = false ↔ v ≠ some (.str s) := by
  rw [ne_eq, ← Val.eqStr_eq_true, Bool.not_eq_true]

theorem raises_verifyHelloSignature (installed : P.Installed)
    (printed : P.str ((hello.get? "session_id").getD (.str "")) = .ok sessionId)
    (parses : Uuid.parses P.toRuntime sessionId = true) :
    Raises FAMILY (verifyHelloSignature P hello card responder now) ↔
      (Identified P.toRuntime hello sessionId →
        (hello.get? "type" ≠ some (.str "UXSP-HELLO") →
          P.Prints FAMILY ((hello.get? "type").getD .none)) ∧
        (hello.get? "type" = some (.str "UXSP-HELLO") → TameStamp P.toRuntime hello now)) ∧
      (Addressed P hello card responder now sessionId →
        TameVersions P.toRuntime (hello.get? "supported_versions")) := by
  have auth : ErrClass.handshakeAuthError.among FAMILY = true := rfl
  by_cases complete : missingFields HELLO_REQUIRED hello = []
  · have identified : Identified P.toRuntime hello sessionId := ⟨printed, parses, complete⟩
    have present := missingFields_eq_nil.mp complete
    have stamp : hello.has "timestamp" = true := present _ (by decide)
    simp only [verifyHelloSignature, raises_bind, raises_ensure, ensure_eq_ok, complete,
      List.isEmpty_nil, reduceCtorEq, true_and, forall_const, eqStr_eq_false,
      Val.eqStr_eq_true, Runtime.among_err_lit, Runtime.among_err_val, Runtime.among_err_nil, auth,
      implies_true, and_true, raises_checkAge stamp, checkAge_eq_ok, raises_negotiate, identified,
      raises_pure]
    constructor
    · rintro ⟨type, rest⟩
      refine ⟨⟨type, fun typed => (rest typed).1⟩, fun addressed => ?_⟩
      exact ((rest addressed.type).2 addressed.fresh addressed.initiatorId
        addressed.responderId).1
    · rintro ⟨⟨type, timestamp⟩, versions⟩
      refine ⟨type, fun typed => ⟨timestamp typed, fun fresh ini res => ?_⟩⟩
      have shown : ∀ v, hello.get? "session_id" = some v → P.str v = .ok sessionId := by
        intro v found
        rwa [found, Option.getD_some] at printed
      refine ⟨versions ⟨identified, typed, fresh, ini, res⟩, fun _ _ => ⟨?_, fun _ _ => ?_⟩⟩
      · exact (raises_catching_of fun _ => rfl).mpr
          (raises_helloSignable present fresh shown ini res)
      · exact raises_checkSignature installed (present _ (by decide)) (present _ (by decide))
          (fun _ => rfl) rfl
  · have missing : (missingFields HELLO_REQUIRED hello).isEmpty = false :=
      List.isEmpty_eq_false_iff.mpr complete
    refine ⟨fun _ => ⟨fun h => absurd h.complete complete, fun h => absurd h.complete complete⟩,
      fun _ => ?_⟩
    refine raises_bind.mpr ⟨raises_ensure.mpr fun _ => rfl, fun _ passed => ?_⟩
    rw [ensure_eq_ok, missing] at passed
    cases passed

/-- The store answers. -/
def Answering (S : NonceStore) (store : S.State) (after : ℚ) : Prop :=
  ∀ nonce, ∃ fresh, (S.markUsed store nonce NONCE_TTL after).1 = .ok fresh

/-- What the calls rest on: a signature algorithm, own keys that sign, fields that a length can
describe, a nonce store that answers and a clock that can be printed. -/
structure Working (P : Platform) (S : NonceStore) (store : S.State) (card : PublicCard)
    (coins : MessageCoins) (after : ℚ) : Prop where
  installed : P.Installed
  signatures : P.SignatureCorrect
  sizes : ∀ sent, hybridSenderExchange P card.publicKeys coins.exchange = .ok sent →
    sent.ephemeralPub.length < 2 ^ 32 ∧ sent.kemCiphertext.length < 2 ^ 32
  store : Answering S store after
  clock : Str.printable ⌊after⌋

variable {S : NonceStore} {store : S.State} {coins : MessageCoins} {config : Option SessionConfig}

/-- An ACK is made for a session id that is a text. -/
theorem raises_makeAck (working : Working P S store card coins after) {v : Val}
    {initiatorId version : Str} (secret : Bytes) (sid : ∀ s, v = .str s → s.Bindable) (ini : initiatorId.Bindable)
    (res : responder.entityId.Bindable) (supported : version ∈ SUPPORTED_VERSIONS) :
    Raises FAMILY (makeAck P responder v (.str initiatorId) secret card version after coins) ↔
      Raises FAMILY (hybridSenderExchange P card.publicKeys coins.exchange) ∧
        ∀ sent, hybridSenderExchange P card.publicKeys coins.exchange = .ok sent →
          ∃ s, v = .str s := by
  rw [makeAck, raises_bind]
  refine and_congr_right fun _ => forall₂_congr fun sent exchanged => ?_
  constructor
  · intro raises
    cases v with
    | str s => exact ⟨s, rfl⟩
    | _ => exact absurd (raises _ rfl) (by decide)
  · rintro ⟨s, rfl⟩
    obtain ⟨eph, kem⟩ := working.sizes sent exchanged
    obtain ⟨proof, proved, hp⟩ := exists_responderProof (P := P) (sid s rfl) secret
    have hv : version.Bindable := by
      obtain rfl := List.mem_singleton.mp supported
      exact ⟨_, Str.encode_ofString "1", by decide⟩
    obtain ⟨b, covered⟩ := exists_ackPreimage (R := P.toRuntime) hv (sid s rfl) res ini hp
      working.clock eph kem
    obtain ⟨sigs, signed⟩ :=
      exists_hybridSign working.signatures responder.generated b coins.signing
    refine Raises.of_exists ?_
    simp only [bind_eq_ok, pure_eq_ok]
    exact ⟨_, proof, proved, b, covered, sigs, signed, rfl⟩

theorem Bindable.raises_utf8 {s : Str} (bindable : s.Bindable) : Raises FAMILY s.utf8 := by
  obtain ⟨b, encoded, -⟩ := bindable
  exact Raises.of_ok (Str.utf8_eq_ok.mpr encoded)

theorem Raw.unique {field : Str} {b c : Bytes} (raw : Raw message field b)
    (other : Raw message field c) : b = c := by
  obtain ⟨v, found, read⟩ := raw
  obtain ⟨w, held, again⟩ := other
  cases found.symm.trans held
  exact Except.ok.inj (read.symm.trans again)

/-- What was encoded as a field that was bound can be bound. -/
theorem Text.bindable {field s : Str} {b : Bytes} (text : Text R message field b)
    (found : message.get? field = some (.str s)) (short : b.length < 2 ^ 32) : s.Bindable := by
  obtain ⟨v, t, held, printed, encoded⟩ := text
  cases found.symm.trans held
  cases printed
  exact ⟨b, encoded, short⟩

theorem deriveHelloSecret_eq {eph kem : Bytes} (he : Raw hello "ephemeral_pub" eph)
    (hk : Raw hello "kem_ciphertext" kem) :
    deriveHelloSecret P hello responder = hybridRecipientExchange P eph kem responder.keypair := by
  obtain ⟨v, foundE, readE⟩ := he
  obtain ⟨w, foundK, readK⟩ := hk
  simp only [deriveHelloSecret, Dict.item_eq_ok.mpr foundE, Dict.item_eq_ok.mpr foundK, bind,
    Except.bind, readE, readK]

/-- Behind the nonce store the session id has to be a text, and the key exchange has to take what
it is given. -/
theorem raises_respondFinish (working : Working P S store card coins after)
    (taken : Taken P S store hello card responder now after sessionId) {version : Str}
    (supported : version ∈ SUPPORTED_VERSIONS) :
    Raises FAMILY (respondFinish P responder hello card version config after coins) ↔
      TameHelloExchange P hello card responder coins := by
  obtain ⟨⟨b, _⟩, verified⟩ := taken.verified
  obtain ⟨-, accepted⟩ := verifyHelloSignature_eq_ok.mp verified
  obtain ⟨h, reads, bound⟩ := helloSignable_eq_ok.mp accepted.signable
  have short := (bindFields_eq_ok.mp bound).1
  simp only [HelloBytes.fields, List.forall_mem_cons, List.not_mem_nil, IsEmpty.forall_iff,
    implies_true, and_true] at short
  obtain ⟨-, -, ls, li, lr, -⟩ := short
  have ini := reads.initiatorId.bindable accepted.initiatorId li
  have res := reads.responderId.bindable accepted.responderId lr
  obtain ⟨v, text, found, -, -⟩ := reads.sessionId
  have sid : ∀ s, v = .str s → s.Bindable := by
    rintro s rfl
    exact reads.sessionId.bindable found ls
  have unfolded : TameHelloExchange P hello card responder coins ↔
      Raises FAMILY (hybridRecipientExchange P h.ephemeralPub h.kemCiphertext responder.keypair) ∧
        ∀ secret, hybridRecipientExchange P h.ephemeralPub h.kemCiphertext responder.keypair =
          .ok secret → Raises FAMILY (hybridSenderExchange P card.publicKeys coins.exchange) ∧
            ∀ sent, hybridSenderExchange P card.publicKeys coins.exchange = .ok sent →
              ∃ s, v = .str s := by
    simp only [TameHelloExchange, found, Option.some.injEq]
    refine ⟨fun tame => tame _ _ reads.ephemeralPub reads.kemCiphertext,
      fun tame eph kem he hk => ?_⟩
    rw [he.unique reads.ephemeralPub, hk.unique reads.kemCiphertext]
    exact tame
  rw [unfolded, respondFinish, raises_bind,
    deriveHelloSecret_eq reads.ephemeralPub reads.kemCiphertext]
  refine and_congr_right fun _ => forall₂_congr fun secret _ => ?_
  rw [← raises_makeAck working secret sid ini res supported]
  simp only [raises_bind, Dict.item_eq_ok.mpr found, Dict.item_eq_ok.mpr accepted.initiatorId,
    raises_ok, true_and, Except.ok.injEq, forall_eq', raises_pure, implies_true, and_true]
  refine and_iff_left_of_imp fun _ => ?_
  rintro ⟨ack, exchange⟩ made
  obtain ⟨s, _, _, rfl, _, -⟩ := makeAck_made made
  have encodes : Raises FAMILY s.utf8 ∧ Raises FAMILY card.entityId.utf8 ∧
      Raises FAMILY responder.entityId.utf8 :=
    ⟨Bindable.raises_utf8 (sid s rfl), Bindable.raises_utf8 ini, Bindable.raises_utf8 res⟩
  exact ⟨encodes.1, fun _ _ => ⟨encodes.2.1, fun _ _ => ⟨encodes.2.2, fun _ _ => ⟨raises_ok s,
    fun _ _ => ⟨raises_ok _, fun _ _ => raises_ok _⟩⟩⟩⟩⟩

theorem raises_respondCheck :
    Raises FAMILY (respondCheck P responder hello card now) ↔
      P.Prints FAMILY ((hello.get? "session_id").getD (.str "")) ∧
        ∀ s, P.str ((hello.get? "session_id").getD (.str "")) = .ok s →
          Uuid.parses P.toRuntime s = true →
            Raises FAMILY (verifyHelloSignature P hello card responder now) := by
  have auth : ErrClass.handshakeAuthError.among FAMILY = true := rfl
  simp only [respondCheck, raises_bind, raises_ensure, ensure_eq_ok, forall_const, auth,
    implies_true, true_and, raises_pure, and_true]
  refine and_congr_right fun _ => forall₂_congr fun s printed => forall_congr' fun _ => ?_
  refine and_iff_left_of_imp fun _ => ?_
  rintro ⟨b, version⟩ verified
  obtain ⟨⟨complete, -⟩, -⟩ := verifyHelloSignature_eq_ok.mp verified
  obtain ⟨v, found⟩ := Option.isSome_iff_exists.mp
    (missingFields_eq_nil.mp complete "session_id" (by decide))
  rw [found, Option.getD_some] at printed
  refine ⟨Raises.of_ok (Dict.item_eq_ok.mpr found), fun w held => ?_⟩
  cases found.symm.trans (Dict.item_eq_ok.mp held)
  exact Raises.of_ok printed

/-- What runs behind the nonce store, which a message passes once. -/
def once {α : Type} (S : NonceStore) (store : S.State) (nonce : Str) (after : ℚ) (replayed : PyErr)
    (run : Except PyErr α) : Except PyErr α × S.State :=
  match S.markUsed store nonce NONCE_TTL after with
  | (.error e, store) => (.error e, store)
  | (.ok false, store) => (.error replayed, store)
  | (.ok true, store) => (run, store)

theorem raises_once {α : Type} {replayed : PyErr} (answering : Answering S store after)
    (declared : replayed.cls.among FAMILY = true) (nonce : Str) (run : Except PyErr α) :
    Raises FAMILY (once S store nonce after replayed run).1 ↔
      ((S.markUsed store nonce NONCE_TTL after).1 = .ok true → Raises FAMILY run) := by
  obtain ⟨fresh, answered⟩ := answering nonce
  unfold once
  split
  · rename_i e next marked
    rw [marked] at answered
    cases answered
  · rename_i next marked
    rw [marked]
    exact ⟨fun _ => nofun, fun _ => raises_error.mpr declared⟩
  · rename_i next marked
    rw [marked]
    exact ⟨fun raises _ => raises, fun h => h rfl⟩

theorem raises_respondSession (answering : Answering S store after) : Raises FAMILY
    (respondSession P S store responder hello card config now after coins).1 ↔
      Raises FAMILY (respondCheck P responder hello card now) ∧
        ∀ nonce version, respondCheck P responder hello card now = .ok (nonce, version) →
          (S.markUsed store nonce NONCE_TTL after).1 = .ok true →
            Raises FAMILY (respondFinish P responder hello card version config after coins) := by
  unfold respondSession
  split
  · rename_i e checked
    rw [checked]
    exact ⟨fun raises => ⟨raises_error.mpr (raises e rfl), nofun⟩,
      fun h => raises_error.mpr (h.1 e rfl)⟩
  · rename_i nonce version checked
    have replayed : (⟨.handshakeExpiredError,
        ["Replay attack detected: hello message already processed."]⟩ : PyErr).cls.among FAMILY =
          true := rfl
    refine (raises_once answering replayed nonce _).trans
      ⟨fun raises => ⟨Raises.of_ok checked, ?_⟩, fun h => h.2 nonce version checked⟩
    rintro n v same
    cases checked.symm.trans same
    exact raises

/-- The checks passed: the HELLO is identified and signed. -/
theorem respondCheck_iff {nonce version : Str} :
    respondCheck P responder hello card now = .ok (nonce, version) ↔ ∃ s b,
      Identified P.toRuntime hello s ∧
        verifyHelloSignature P hello card responder now = .ok (b, version) ∧
          nonce = ("hello:" : Str) ++ s := by
  simp only [respondCheck, bind_eq_ok, ensure_eq_ok, Dict.item_eq_ok, pure_eq_ok, Prod.mk.injEq]
  constructor
  · rintro ⟨s, printed, _, parses, ⟨b, _⟩, verified, v, found, t, again, rfl, rfl⟩
    obtain ⟨⟨complete, -⟩, -⟩ := verifyHelloSignature_eq_ok.mp verified
    refine ⟨s, b, ⟨printed, parses, complete⟩, verified, ?_⟩
    rw [found, Option.getD_some] at printed
    rw [Except.ok.inj (again.symm.trans printed)]
  · rintro ⟨s, b, ⟨printed, parses, complete⟩, verified, rfl⟩
    obtain ⟨v, found⟩ := Option.isSome_iff_exists.mp
      (missingFields_eq_nil.mp complete "session_id" (by decide))
    refine ⟨s, printed, (), parses, _, verified, v, found, s, ?_, rfl, rfl⟩
    rwa [found, Option.getD_some] at printed

/-- `respond` raises only what it is said to raise exactly on the tame messages. -/
theorem raises_respond (working : Working P S store card coins after) : Raises FAMILY
    (respondSession P S store responder hello card config now after coins).1 ↔
      TameHello P S store hello card responder now after coins := by
  rw [raises_respondSession working.store, raises_respondCheck]
  constructor
  · rintro ⟨⟨prints, verify⟩, rest⟩
    have checks : ∀ s, Identified P.toRuntime hello s → _ := fun s identified =>
      (raises_verifyHelloSignature working.installed identified.printed identified.parses).mp
        (verify s identified.printed identified.parses)
    refine ⟨prints, fun s h => ((checks s h).1 h).1, fun s h => ((checks s h).1 h).2,
      fun s h => (checks s h.toIdentified).2 h, fun s taken => ?_⟩
    obtain ⟨⟨b, version⟩, verified⟩ := taken.verified
    have checked := respondCheck_iff.mpr ⟨s, b, taken.toIdentified, verified, rfl⟩
    obtain ⟨⟨-, -, agreed⟩, -⟩ := verifyHelloSignature_eq_ok.mp verified
    exact (raises_respondFinish working taken (negotiate_supported agreed)).mp
      (rest _ _ checked taken.unused)
  · rintro ⟨prints, type, timestamp, versions, exchange⟩
    refine ⟨⟨prints, fun s printed parses => ?_⟩, fun nonce version checked => ?_⟩
    · exact (raises_verifyHelloSignature working.installed printed parses).mpr
        ⟨fun h => ⟨type s h, timestamp s h⟩, versions s⟩
    · intro unused
      obtain ⟨s, b, identified, verified, rfl⟩ := respondCheck_iff.mp checked
      have taken : Taken P S store hello card responder now after s :=
        ⟨identified, ⟨_, verified⟩, unused⟩
      obtain ⟨⟨-, -, agreed⟩, -⟩ := verifyHelloSignature_eq_ok.mp verified
      exact (raises_respondFinish working taken (negotiate_supported agreed)).mpr
        (exchange s taken)

/-! ## ACK -/

/-- The fields are printed one after the other; what printing raises is taken for malformed, and a
text that cannot be encoded ends it. -/
def TameTexts (R : Runtime) (message : Dict) : List String → Prop
  | [] => True
  | field :: fields => ∀ v, message.get? (Str.ofString field) = some v → R.Prints MALFORMED v ∧
      ∀ s, R.str v = .ok s → ∀ b, s.encode = some b → TameTexts R message fields

/-- The signed fields of an ACK that are printed, in their order; `timestamp` is another. -/
def ACK_TEXTS : List String := ["version", "session_id", "responder_id", "initiator_id", "proof"]

theorem raises_ackSignable (complete : ∀ field ∈ ACK_REQUIRED, ack.has field = true)
    (fresh : Fresh R ack now) :
    Raises MALFORMED (ackSignable R ack) ↔ TameTexts R ack ACK_TEXTS := by
  have item : ∀ field ∈ ACK_REQUIRED, Raises MALFORMED (ack.item field) :=
    fun field mem => Dict.raises_item_of_has (complete field mem)
  simp only [ACK_REQUIRED, List.forall_mem_cons, List.not_mem_nil, IsEmpty.forall_iff,
    implies_true, and_true] at item
  obtain ⟨-, version, sid, res, ini, stamp, proof, eph, kem, -⟩ := item
  obtain ⟨w, ts, stamped, converted, -⟩ := fresh
  have time : ∀ v, ack.get? "timestamp" = some v → Raises MALFORMED (R.str v) := by
    intro v found
    cases stamped.symm.trans found
    exact malformed_str converted
  simp only [ackSignable, raises_bind, malformed_utf8, malformed_fromHexVal,
    malformed_bindFields, Dict.item_eq_ok, implies_true, and_true, version, sid, ini, res, eph, kem,
    stamp, proof, true_and, Str.utf8_eq_ok, ACK_TEXTS, TameTexts, Runtime.Prints,
    iff_true_intro time]

/-- A fresh ACK with all its fields. -/
structure Stamped (R : Runtime) (ack : Dict) (now : ℚ) : Prop where
  complete : missingFields ACK_REQUIRED ack = []
  type : ack.get? "type" = some (.str "UXSP-ACK")
  fresh : Fresh R ack now

/-- The signed answer to the pending handshake, for the first time. -/
structure Answers (P : Platform) (S : NonceStore) (store : S.State) (pending : Pending P)
    (ack : Dict) (card : PublicCard) (now after : ℚ) : Prop where
  verified : ∃ b, verifyAckSignature P ack card now = .ok b
  sessionId : ack.get? "session_id" = some (.str pending.sessionId)
  initiatorId : ack.get? "initiator_id" = some (.str pending.initiator.entityId)
  responderId : ack.get? "responder_id" = some (.str card.entityId)
  unused : (S.markUsed store (("ack:" : Str) ++ pending.sessionId) NONCE_TTL after).1 = .ok true
  matching : (pending.respCard.all fun c => c.entityId == card.entityId) = true

/-- The proof is a text of ASCII, and where it is right the key exchange takes what it is given. -/
def TameAckExchange (P : Platform) (pending : Pending P) (ack : Dict) : Prop :=
  ∃ s : Str, ack.get? "proof" = some (.str s) ∧ (∀ c ∈ s, c.val < 128) ∧
    (responderProof P pending.exchange.sharedKey (.str pending.sessionId) = .ok s →
      ∀ eph kem, Raw ack "ephemeral_pub" eph → Raw ack "kem_ciphertext" kem →
        Raises FAMILY (hybridRecipientExchange P eph kem pending.initiator.keypair))

structure TameAckFields (R : Runtime) (ack : Dict) (now : ℚ) : Prop where
  type : missingFields ACK_REQUIRED ack = [] → ack.get? "type" ≠ some (.str "UXSP-ACK") →
    R.Prints FAMILY ((ack.get? "type").getD .none)
  timestamp : missingFields ACK_REQUIRED ack = [] → ack.get? "type" = some (.str "UXSP-ACK") →
    TameStamp R ack now
  version : Stamped R ack now → (∀ v ∈ SUPPORTED_VERSIONS, ack.get? "version" ≠ some (.str v)) →
    R.Prints FAMILY ((ack.get? "version").getD .none)
  texts : Stamped R ack now → ∀ v ∈ SUPPORTED_VERSIONS, ack.get? "version" = some (.str v) →
    TameTexts R ack ACK_TEXTS

structure TameAck (P : Platform) (S : NonceStore) (store : S.State) (pending : Pending P)
    (ack : Dict) (card : PublicCard) (now after : ℚ) : Prop where
  fields : TameAckFields P.toRuntime ack now
  exchange : Answers P S store pending ack card now after → TameAckExchange P pending ack

theorem any_supported {v : Option Val} : (SUPPORTED_VERSIONS.any fun s => Val.eqStr v s) = true ↔
    ∃ s ∈ SUPPORTED_VERSIONS, v = some (.str s) := by
  simp only [List.any_eq_true, Val.eqStr_eq_true]

theorem none_supported {v : Option Val} :
    (SUPPORTED_VERSIONS.any fun s => Val.eqStr v s) = false ↔
      ∀ s ∈ SUPPORTED_VERSIONS, v ≠ some (.str s) := by
  simp only [List.any_eq_false, Val.eqStr_eq_true, ne_eq]

theorem raises_verifyAckSignature (installed : P.Installed) :
    Raises FAMILY (verifyAckSignature P ack card now) ↔ TameAckFields P.toRuntime ack now := by
  have auth : ErrClass.handshakeAuthError.among FAMILY = true := rfl
  by_cases complete : missingFields ACK_REQUIRED ack = []
  · have present := missingFields_eq_nil.mp complete
    have stamp : ack.has "timestamp" = true := present _ (by decide)
    simp only [verifyAckSignature, raises_bind, raises_ensure, ensure_eq_ok, complete,
      List.isEmpty_nil, reduceCtorEq, true_and, forall_const, eqStr_eq_false,
      Val.eqStr_eq_true, Runtime.among_err_lit, Runtime.among_err_val, Runtime.among_err_nil, auth,
      implies_true, and_true, raises_checkAge stamp, checkAge_eq_ok, raises_pure, any_supported,
      none_supported]
    constructor
    · rintro ⟨type, rest⟩
      refine ⟨fun _ => type, fun _ typed => (rest typed).1, fun h => ?_, fun h v mem agreed => ?_⟩
      · exact ((rest h.type).2 h.fresh).1
      · obtain ⟨caught, -⟩ := ((rest h.type).2 h.fresh).2 ⟨v, mem, agreed⟩
        exact (raises_ackSignable present h.fresh).mp ((raises_catching_of fun _ => rfl).mp caught)
    · rintro ⟨type, timestamp, version, texts⟩
      refine ⟨type complete, fun typed => ⟨timestamp complete typed, fun fresh => ?_⟩⟩
      have stamped : Stamped P.toRuntime ack now := ⟨complete, typed, fresh⟩
      refine ⟨version stamped, ?_⟩
      rintro ⟨v, mem, agreed⟩
      refine ⟨(raises_catching_of fun _ => rfl).mpr ?_, fun b _ => ?_⟩
      · exact (raises_ackSignable present fresh).mpr (texts stamped v mem agreed)
      · exact raises_checkSignature installed (present _ (by decide)) (present _ (by decide))
          (fun _ => rfl) rfl
  · have missing : (missingFields ACK_REQUIRED ack).isEmpty = false :=
      List.isEmpty_eq_false_iff.mpr complete
    refine ⟨fun _ => ⟨fun h => absurd h complete, fun h => absurd h complete,
      fun h => absurd h.complete complete, fun h => absurd h.complete complete⟩, fun _ => ?_⟩
    refine raises_bind.mpr ⟨raises_ensure.mpr fun _ => rfl, fun _ passed => ?_⟩
    rw [ensure_eq_ok, missing] at passed
    cases passed

variable {pending : Pending P}

theorem completeCheck_iff {nonce : Str} : completeCheck P pending ack card now = .ok nonce ↔
    (∃ b, verifyAckSignature P ack card now = .ok b) ∧
      ack.get? "session_id" = some (.str pending.sessionId) ∧
      ack.get? "initiator_id" = some (.str pending.initiator.entityId) ∧
      ack.get? "responder_id" = some (.str card.entityId) ∧
      nonce = ("ack:" : Str) ++ pending.sessionId := by
  simp only [completeCheck, bind_eq_ok, ensure_eq_ok, Val.eqStr_eq_true, Dict.item_eq_ok,
    pure_eq_ok]
  constructor
  · rintro ⟨b, verified, _, sid, _, ini, _, res, v, found, s, printed, rfl⟩
    cases sid.symm.trans found
    cases printed
    exact ⟨⟨b, verified⟩, sid, ini, res, rfl⟩
  · rintro ⟨⟨b, verified⟩, sid, ini, res, rfl⟩
    exact ⟨b, verified, (), sid, (), ini, (), res, _, sid, _, rfl, rfl⟩

theorem raises_completeCheck : Raises FAMILY (completeCheck P pending ack card now) ↔
    Raises FAMILY (verifyAckSignature P ack card now) := by
  have auth : ErrClass.handshakeAuthError.among FAMILY = true := rfl
  simp only [completeCheck, raises_bind, raises_ensure, ensure_eq_ok, forall_const, auth,
    implies_true, true_and, raises_pure, and_true, Val.eqStr_eq_true]
  refine and_iff_left_of_imp fun _ b verified sid _ _ => ⟨?_, fun v found => ?_⟩
  · exact Raises.of_ok (Dict.item_eq_ok.mpr sid)
  · cases sid.symm.trans (Dict.item_eq_ok.mp found)
    exact raises_ok _

theorem raises_compareDigest {expected : Str} {v : Val} :
    Raises FAMILY (Session.compareDigest expected v) ↔ ∃ s, v = .str s ∧ ∀ c ∈ s, c.val < 128 := by
  cases v with
  | str s =>
      have ascii : (s.all fun c => decide (c.val < 128)) = true ↔ ∀ c ∈ s, c.val < 128 := by
        simp only [List.all_eq_true, decide_eq_true_eq]
      simp only [Session.compareDigest, Val.str.injEq, exists_eq_left', ← ascii]
      split
      · rename_i plain
        exact ⟨fun _ => plain, fun _ => raises_ok _⟩
      · rename_i other
        exact ⟨fun raises => absurd (raises _ rfl) (by decide), fun plain => absurd plain other⟩
  | _ =>
      refine ⟨fun raises => absurd (raises _ rfl) (by decide), ?_⟩
      rintro ⟨s, same, -⟩
      cases same

theorem compareDigest_eq_true {expected : Str} {v : Val} :
    Session.compareDigest expected v = .ok true ↔
      v = .str expected ∧ ∀ c ∈ expected, c.val < 128 := by
  cases v with
  | str s =>
      simp only [Session.compareDigest, Val.str.injEq]
      split
      · rename_i plain
        rw [Except.ok.injEq, beq_iff_eq]
        refine ⟨fun same => ⟨same, ?_⟩, fun h => h.1⟩
        rw [← same]
        simpa only [List.all_eq_true, decide_eq_true_eq] using plain
      · rename_i other
        refine ⟨fun same => ?_, ?_⟩
        · cases same
        rintro ⟨rfl, plain⟩
        exact absurd (by simpa only [List.all_eq_true, decide_eq_true_eq] using plain) other
  | _ =>
      refine ⟨fun same => ?_, ?_⟩
      · cases same
      rintro ⟨same, -⟩
      cases same

theorem raises_completeFinish (answers : Answers P S store pending ack card now after) :
    Raises FAMILY (completeFinish P pending ack card after) ↔ TameAckExchange P pending ack := by
  obtain ⟨b, verified⟩ := answers.verified
  obtain ⟨-, accepted⟩ := verifyAckSignature_eq_ok.mp verified
  obtain ⟨a, reads, bound⟩ := ackSignable_eq_ok.mp accepted.signable
  have short := (bindFields_eq_ok.mp bound).1
  simp only [AckBytes.fields, List.forall_mem_cons, List.not_mem_nil, IsEmpty.forall_iff,
    implies_true, and_true] at short
  obtain ⟨-, -, ls, lr, li, -⟩ := short
  have sid := reads.sessionId.bindable answers.sessionId ls
  have ini := reads.initiatorId.bindable answers.initiatorId li
  have res := reads.responderId.bindable answers.responderId lr
  obtain ⟨v, _, found, -⟩ := reads.proof
  obtain ⟨proof, proved, -⟩ := exists_responderProof (P := P) sid pending.exchange.sharedKey
  obtain ⟨e, foundE, readE⟩ := reads.ephemeralPub
  obtain ⟨k, foundK, readK⟩ := reads.kemCiphertext
  have mismatch : ErrClass.handshakeProofError.among FAMILY = true := rfl
  simp only [completeFinish, deriveAckSecret, raises_bind, raises_ensure, answers.matching,
    ensure_eq_ok, Dict.item_eq_ok.mpr answers.sessionId, Dict.item_eq_ok.mpr found, proved,
    Dict.item_eq_ok.mpr foundE, Dict.item_eq_ok.mpr foundK, readE, readK, raises_ok, true_and,
    Except.ok.injEq, forall_eq', mismatch, implies_true, Bindable.raises_utf8 sid,
    Bindable.raises_utf8 ini, Bindable.raises_utf8 res, activate_init, and_true,
    raises_compareDigest, forall_const, reduceCtorEq, IsEmpty.forall_iff]
  constructor
  · rintro ⟨⟨s, rfl, ascii⟩, exchange⟩
    refine ⟨s, found, ascii, fun same eph kem he hk => ?_⟩
    cases proved.symm.trans same
    rw [he.unique reads.ephemeralPub, hk.unique reads.kemCiphertext]
    exact exchange true (compareDigest_eq_true.mpr ⟨rfl, ascii⟩) rfl
  · rintro ⟨s, text, ascii, exchange⟩
    cases found.symm.trans text
    refine ⟨⟨s, rfl, ascii⟩, fun ok compared valid => ?_⟩
    subst valid
    obtain ⟨same, -⟩ := compareDigest_eq_true.mp compared
    cases same
    exact exchange proved _ _ reads.ephemeralPub reads.kemCiphertext

/-- `complete` raises only what it is said to raise exactly on the tame messages. -/
theorem raises_complete {ρ : Type} {handshake : Handshake P ρ} (installed : P.Installed)
    (answering : Answering S store after) (waits : handshake.pending = .ok pending) : Raises FAMILY
      (completeSession P S store handshake ack card now after).1 ↔
        TameAck P S store pending ack card now after := by
  have fields : Raises FAMILY (completeCheck P pending ack card now) ↔
      TameAckFields P.toRuntime ack now :=
    raises_completeCheck.trans (raises_verifyAckSignature installed)
  simp only [completeSession, waits]
  split
  · rename_i e checked
    rw [checked, raises_error] at fields
    refine (raises_error.trans fields).trans
      ⟨fun tame => ⟨tame, fun answers => ?_⟩, fun tame => tame.fields⟩
    have passed := completeCheck_iff.mpr ⟨answers.verified, answers.sessionId, answers.initiatorId,
      answers.responderId, rfl⟩
    cases checked.symm.trans passed
  · rename_i nonce checked
    obtain ⟨verified, sid, ini, res, rfl⟩ := completeCheck_iff.mp checked
    have replayed : (⟨.handshakeExpiredError,
        ["Replay attack detected: ack message already processed."]⟩ : PyErr).cls.among FAMILY =
          true := rfl
    refine (raises_once answering replayed _ _).trans
      ⟨fun raises => ⟨fields.mp (Raises.of_ok checked), fun answers => ?_⟩, fun tame unused => ?_⟩
    · exact (raises_completeFinish answers).mp (raises answers.unused)
    · cases matching : pending.respCard.all fun c => c.entityId == card.entityId with
      | true =>
          have answers : Answers P S store pending ack card now after :=
            ⟨verified, sid, ini, res, unused, matching⟩
          exact (raises_completeFinish answers).mpr (tame.exchange answers)
      | false =>
          refine raises_bind.mpr ⟨raises_ensure.mpr fun _ => rfl, fun _ passed => ?_⟩
          rw [ensure_eq_ok, matching] at passed
          cases passed

/-- Exactly the tame messages make `respond` and `complete` raise no more than a
`HandshakeError`. -/
theorem handshake_errors_iff {ρ : Type} {T : NonceStore} {mine : T.State} {finished : ℚ}
    {handshake : Handshake P ρ} (working : Working P S store card coins after)
    (answering : Answering T mine finished) (waits : handshake.pending = .ok pending)
    (hello ack : Dict) (responder : Identity P) (peer : PublicCard)
    (config : Option SessionConfig) (now read : ℚ) :
    (Raises FAMILY (respondSession P S store responder hello card config now after coins).1 ↔
      TameHello P S store hello card responder now after coins) ∧
    (Raises FAMILY (completeSession P T mine handshake ack peer read finished).1 ↔
      TameAck P T mine pending ack peer read finished) :=
  ⟨raises_respond working, raises_complete working.installed answering waits⟩

/-! ## Two messages with an infinite timestamp -/

open Network

/-- A HELLO from Alice to Bob. -/
def sampleHello (timestamp : Val) : Dict :=
  [("type", .str "UXSP-HELLO"), ("supported_versions", .list [.str "1"]),
    ("session_id", .str sampleUuid.str), ("initiator_id", .str "alice"),
    ("responder_id", .str "bob"), ("timestamp", timestamp), ("ephemeral_pub", .str ""),
    ("kem_ciphertext", .str ""), ("classical_sig", .str ""), ("pqc_sig", .str "")]

/-- An ACK from Bob to Alice. -/
def sampleAck (timestamp : Val) : Dict :=
  [("type", .str "UXSP-ACK"), ("version", .str "1"), ("session_id", .str sampleUuid.str),
    ("responder_id", .str "bob"), ("initiator_id", .str "alice"), ("timestamp", timestamp),
    ("proof", .str ""), ("ephemeral_pub", .str ""), ("kem_ciphertext", .str ""),
    ("classical_sig", .str ""), ("pqc_sig", .str "")]

/-- What Alice's handshake waits with. -/
def samplePending : Pending .transparent :=
  ⟨sampleParties false, sampleUuid.str, ⟨[], [], []⟩, .default,
    some (sampleParties true).publicCard⟩

def sampleWaiting : Handshake .transparent Unit where
  helloMsg := some (sampleHello (.int 0))
  ackMsg := none
  session := none
  exchange := some samplePending.exchange
  sessionId := some samplePending.sessionId
  config := some samplePending.config
  initiator := some samplePending.initiator
  respCard := samplePending.respCard

theorem sample_working : Working .transparent MemoryNonceStore.nonceStore .empty
    (sampleParties false).publicCard sampleCoins 0 where
  installed := Platform.transparent_installed
  signatures := Platform.transparent_signature
  sizes := by
    intro sent exchanged
    cases exchanged
    decide
  store := fun _ => ⟨true, rfl⟩
  clock := by decide

theorem sample_answering : Answering MemoryNonceStore.nonceStore .empty 0 := fun _ => ⟨true, rfl⟩

theorem sample_waits : sampleWaiting.pending = .ok samplePending := rfl

/-- A message without fields is refused. -/
theorem sample_empty_raises :
    Raises FAMILY (respondSession .transparent MemoryNonceStore.nonceStore .empty
      (sampleParties true) [] (sampleParties false).publicCard none 0 0 sampleCoins).1 ∧
    Raises FAMILY (completeSession .transparent MemoryNonceStore.nonceStore .empty sampleWaiting []
      (sampleParties true).publicCard 0 0).1 := by
  obtain ⟨responds, completes⟩ := handshake_errors_iff sample_working sample_answering sample_waits
    [] [] (sampleParties true) (sampleParties true).publicCard none 0 0
  have hello : missingFields HELLO_REQUIRED [] ≠ [] := by decide
  have ack : missingFields ACK_REQUIRED [] ≠ [] := by decide
  refine ⟨responds.mpr ⟨raises_ok _, fun _ h => ?_, fun _ h => ?_, fun _ h => ?_, fun _ h => ?_⟩,
    completes.mpr ⟨⟨fun h => ?_, fun h => ?_, fun h => ?_, fun h => ?_⟩, fun h => ?_⟩⟩
  · exact absurd h.complete hello
  · exact absurd h.complete hello
  · exact absurd h.complete hello
  · exact absurd h.complete hello
  · exact absurd h ack
  · exact absurd h ack
  · exact absurd h.complete ack
  · exact absurd h.complete ack
  · cases h.sessionId

/-- Infinite timestamps get past both. -/
theorem sample_infinity_escapes :
    ¬ Raises FAMILY (respondSession .transparent MemoryNonceStore.nonceStore .empty
      (sampleParties true) (sampleHello (.float (.inf false)))
      (sampleParties false).publicCard none 0 0 sampleCoins).1 ∧
    ¬ Raises FAMILY (completeSession .transparent MemoryNonceStore.nonceStore .empty sampleWaiting
      (sampleAck (.float (.inf false))) (sampleParties true).publicCard 0 0).1 := by
  constructor
  · intro raises
    have tame := (raises_respond sample_working).mp raises
    have identified : Identified Platform.transparent.toRuntime
        (sampleHello (.float (.inf false))) sampleUuid.str := by
      refine ⟨?_, Uuid4.parses_str _ _, ?_⟩
      · simp [sampleHello]
      · simp [missingFields, HELLO_REQUIRED, sampleHello, Dict.has]
    have stamp := tame.timestamp _ identified (by simp [sampleHello])
    exact stamp.finite false (by simp [sampleHello])
  · intro raises
    have tame := (raises_complete Platform.transparent_installed sample_answering
      sample_waits).mp raises
    have complete : missingFields ACK_REQUIRED (sampleAck (.float (.inf false))) = [] := by
      simp [missingFields, ACK_REQUIRED, sampleAck, Dict.has]
    have stamp := tame.fields.timestamp complete (by simp [sampleAck])
    exact stamp.finite false (by simp [sampleAck])

end Handshake

end Uxsp
