import Uxsp.Core.SessionReplay
import Uxsp.Js.SessionReject
import Uxsp.Js.SessionSteps
import Uxsp.Js.Transparent
import Uxsp.Js.Wire

/-!
# Unordered sessions in both SDKs

Two receivers of one sender, with the same identifier, key and limits.  Both remember what they need
of the numbers that came, but the window reaches 127 numbers below the largest in Python and 128 in
JavaScript.  `deliveries_agree_iff`: they accept the same deliveries exactly if no new number comes
that is 128 below the largest.
-/

namespace Uxsp

/-- Integers below `2 ^ 53` are read and printed as they are. -/
structure JsRuntime.SafeIntegers (R : JsRuntime) : Prop where
  read : ∀ n : ℕ, n < 2 ^ 53 → R.integer n = .finite n
  print : ∀ n : ℕ, n < 2 ^ 53 → R.numberToString (.finite n) = JsStr.ofStr (Str.ofInt n)

theorem JsRuntime.plain_safe : JsRuntime.plain.SafeIntegers where
  read := fun _ _ => rfl
  print := by
    intro n _
    show JsStr.ofStr (Str.ofInt ⌊(n : ℚ)⌋) = _
    rw [Int.floor_natCast]

open Window

variable {P : Platform} {R : JsRuntime} {oqs : Option Oqs} {id : Str} {b key : Bytes}
  {n : ℕ} {d : Dict} {o : JsObject} {s : Session} {r : JsSession} {A : Finset ℕ} {now : ℚ}

/-! ## Payloads of either SDK -/

/-- A payload of the number `n` as both receivers get it: what one SDK made, and what the other reads
of its JSON. -/
inductive CrossPayload (P : Platform) (R : JsRuntime) (oqs : Option Oqs) (id : Str) (key : Bytes)
    (n : ℕ) : Dict → JsObject → Prop
  | python {plaintext : Bytes} {nonce : Urandom NONCE_SIZE} {d : Dict} {o : JsObject} :
      Session.sealPayload P id key n plaintext nonce = .ok d → R.ofItems d = some o →
      CrossPayload P R oqs id key n d o
  | js {plaintext : Bytes} {nonce : Urandom NONCE_SIZE} {o : JsObject} :
      JsSession.sealPayload (P.js R oqs) (.string (JsStr.ofStr id)) key n plaintext nonce = .ok o →
      CrossPayload P R oqs id key n (JsVal.toItems o) o

variable (P oqs) in
/-- The two languages bind the identifier and the number as the same bytes. -/
theorem associatedData_alike (safe : R.SafeIntegers) (encoded : id.encode = some b)
    (small : n < 2 ^ 53) : Session.associatedData P.toRuntime id n =
        .ok (b ++ .lit ":" ++ .lit (Int.repr n)) ∧
      JsSession.associatedData (P.js R oqs) (.string (JsStr.ofStr id)) (.finite n) =
        .ok (b ++ .lit ":" ++ .lit (Int.repr n)) := by
  have short := Str.printable_of_lt (n := n) (k := 16) (small.trans (by norm_num)) (by norm_num)
    (by norm_num)
  refine ⟨Session.associatedData_eq encoded short, ?_⟩
  have text : (id ++ (":" : Str) ++ Str.ofInt n).encode =
      some (b ++ .lit ":" ++ .lit (Int.repr n)) := by
    rw [Str.encode_append, Str.encode_append, encoded]
    simp
  have printed : (P.js R oqs).numberToString (.finite n) = JsStr.ofStr (Str.ofInt n) :=
    safe.print n small
  have colon : (":" : JsStr) = JsStr.ofStr (":" : Str) := rfl
  rw [JsSession.associatedData, printed, colon]
  show Except.ok (JsStr.utf8 _) = _
  rw [← JsStr.ofStr_append, ← JsStr.ofStr_append, JsStr.utf8_ofStr text]

theorem codePoints_literal (s : String) : JsStr.codePoints (JsStr.ofString s) = Str.ofString s :=
  JsStr.codePoints_ofStr (Str.encode_ofString s)

/-- Python reads the fields that JavaScript wrote. -/
theorem toItems_wirePayload (encoded : id.encode = some b) (small : n < 2 ^ 53)
    (enc : Symmetric.Encrypted) :
    JsVal.toItems (JsSession.wirePayload (.string (JsStr.ofStr id)) n enc) =
      Session.payloadDict id n enc := by
  have digits : (n : ℚ).den = 1 ∧ |(n : ℚ)| < 10 ^ 21 := by
    refine ⟨Rat.den_natCast n, ?_⟩
    rw [abs_of_nonneg (Nat.cast_nonneg n)]
    have large : (n : ℚ) < 2 ^ 53 := by exact_mod_cast small
    exact large.trans (by norm_num)
  simp only [JsSession.wirePayload, JsVal.toItems, JsVal.toVal, codePoints_literal, if_pos digits,
    JsStr.codePoints_ofStr encoded, JsStr.codePoints_ofBytes, Rat.num_natCast]
  rfl

/-- JavaScript reads the fields that Python wrote. -/
theorem ofItems_payloadDict (safe : R.SafeIntegers) (small : n < 2 ^ 53)
    (enc : Symmetric.Encrypted) : R.ofItems (Session.payloadDict id n enc) =
      some (JsSession.wirePayload (.string (JsStr.ofStr id)) n enc) := by
  have fields : R.ofItems (Session.payloadDict id n enc) =
      some ([("session_id", .string (JsStr.ofStr id)), ("seq", .number (R.integer n)),
        ("ciphertext", .string (JsStr.ofStr enc.ciphertext.hex)),
        ("nonce", .string (JsStr.ofStr enc.nonce.hex))] : JsObject) := rfl
  rw [fields, safe.read n small, JsStr.ofStr_hex, JsStr.ofStr_hex]
  rfl

/-- Whoever made it, the payload is sealed for both, and has the same fields for both. -/
theorem CrossPayload.sealed (safe : R.SafeIntegers) (encoded : id.encode = some b)
    (size : key.length = KEY_SIZE) (small : n < 2 ^ 53) (made : CrossPayload P R oqs id key n d o) :
    ∃ plaintext nonce enc, Session.sealPayload P id key n plaintext nonce = .ok d ∧
      d = Session.payloadDict id n enc ∧
      o = JsSession.wirePayload (.string (JsStr.ofStr id)) n enc ∧
      Symmetric.encrypt P plaintext key (b ++ .lit ":" ++ .lit (Int.repr n)) nonce = .ok enc := by
  obtain ⟨built, built'⟩ := associatedData_alike P oqs safe encoded small
  cases made with
  | @python plaintext nonce d o made read =>
      obtain ⟨ad, enc, bound, encrypted, rfl⟩ := Session.sealPayload_eq_ok.mp made
      rw [built] at bound
      cases bound
      refine ⟨plaintext, nonce, enc, made, rfl, ?_, encrypted⟩
      rw [ofItems_payloadDict safe small] at read
      exact (Option.some.inj read).symm
  | @js plaintext nonce o made =>
      obtain ⟨ad, ciphertext, bound, encrypted, rfl⟩ := JsSession.sealPayload_eq_ok.mp made
      rw [built'] at bound
      cases bound
      have encrypted : Symmetric.encrypt P plaintext key (b ++ .lit ":" ++ .lit (Int.repr n)) nonce =
          .ok ⟨ciphertext, nonce⟩ := by
        refine Symmetric.encrypt_eq_ok.mpr ⟨size, rfl, ?_⟩
        change webResult _ = _ at encrypted
        cases result : P.aesgcmEncrypt key nonce plaintext
            (b ++ .lit ":" ++ .lit (Int.repr n)) with
        | error e =>
            rw [result] at encrypted
            cases encrypted
        | ok c =>
            rw [result] at encrypted
            exact congrArg Except.ok (Except.ok.inj encrypted)
      have fields : JsVal.toItems (JsSession.wirePayload (.string (JsStr.ofStr id)) n
          ⟨ciphertext, nonce⟩) = Session.payloadDict id n ⟨ciphertext, nonce⟩ :=
        toItems_wirePayload encoded small _
      refine ⟨plaintext, nonce, ⟨ciphertext, nonce⟩, ?_, fields, rfl, encrypted⟩
      rw [fields]
      exact Session.sealPayload_eq_ok.mpr ⟨_, _, built, encrypted, rfl⟩

/-! ## Two receivers -/

/-- Sessions with the same identifier, receiving key, limits and age. -/
structure SameEnds (id : Str) (key : Bytes) (s : Session) (r : JsSession) : Prop where
  sessionId : s.sessionId = id
  sessionId' : r.sessionId = .string (JsStr.ofStr id)
  recvKey : s.recvKey = key
  recvKey' : r.recvKey = some key
  key_size : key.length = KEY_SIZE
  unordered : s.config.enforceOrdering = false
  unordered' : r.config.enforceOrdering = false
  lifetime : r.config.maxLifetimeSeconds = .finite s.config.maxLifetimeSeconds
  messages : r.config.maxMessages = .finite s.config.maxMessages
  createdAt : r.createdAt = s.createdAt

/-- Both have accepted the numbers in `A`: Python remembers enough of them, JavaScript all. -/
structure Alike (id : Str) (key : Bytes) (A : Finset ℕ) (s : Session) (r : JsSession) : Prop where
  ends : SameEnds id key s r
  state : r.state = s.state
  sendSeq : r.sendSeq = s.sendSeq
  recvCount : r.recvCount = s.recvCount
  window : Session.WindowInv s
  memory : Remembers 128 A s.seenSeqs
  seen : ∀ n : ℕ, .finite n ∈ r.seenSeqs ↔ n ∈ A
  maximum : r.maxSeenSeq = .finite (top A)

theorem Alike.stateAt (alike : Alike id key A s r) (now : ℚ) : r.stateAt now = s.stateAt now := by
  have total : (r.sendSeq + r.received : ℕ) = s.messageCount := by
    simp only [JsSession.received, Session.messageCount, Session.received, alike.ends.unordered,
      alike.ends.unordered', alike.sendSeq, alike.recvCount, Bool.false_eq_true, if_false]
  unfold JsSession.stateAt Session.stateAt
  rw [alike.state, alike.ends.lifetime, alike.ends.messages, alike.ends.createdAt, total]
  simp only [PyFloat.lt_finite, PyFloat.le_finite, decide_eq_true_eq, Nat.cast_le]

theorem Alike.active_iff (alike : Alike id key A s r) : r.ActiveAt now ↔ s.ActiveAt now := by
  rw [JsSession.ActiveAt, alike.stateAt, Session.stateAt_eq_active]

theorem Alike.evaluateExpiry (alike : Alike id key A s r) (now : ℚ) :
    Alike id key A (s.evaluateExpiry now) (r.evaluateExpiry now) where
  ends := ⟨alike.ends.1, alike.ends.2, alike.ends.3, alike.ends.4, alike.ends.5, alike.ends.6,
    alike.ends.7, alike.ends.8, alike.ends.9,
    alike.ends.10⟩
  state := alike.stateAt now
  sendSeq := alike.sendSeq
  recvCount := alike.recvCount
  window := alike.window.congr rfl rfl
  memory := alike.memory
  seen := alike.seen
  maximum := alike.maximum

/-- Both take a number that is new to them. -/
theorem Alike.take (alike : Alike id key A s r) (n : ℕ) :
    Alike id key (insert n A) (s.advance n) (r.takeSeq (.finite n)) := by
  have python : s.advance n = s.advanceWindow n := by
    simp [Session.advance, alike.ends.unordered]
  have js : r.takeSeq (.finite n) = { r with
      seenSeqs := r.seenSeqs ++ [.finite n]
      maxSeenSeq := if r.maxSeenSeq.lt (.finite n) then .finite n else r.maxSeenSeq
      recvCount := r.recvCount + 1 } := by
    simp [JsSession.takeSeq, alike.ends.unordered']
  rw [python, js]
  refine ⟨?_, alike.state, alike.sendSeq, congrArg (· + 1) alike.recvCount,
    alike.window.advanceWindow n, Session.remembers_advanceWindow alike.window alike.memory n,
    ?_, ?_⟩
  · exact ⟨alike.ends.1, alike.ends.2, alike.ends.3, alike.ends.4, alike.ends.5, alike.ends.6,
      alike.ends.7, alike.ends.8, alike.ends.9,
    alike.ends.10⟩
  · intro m
    simp only [List.mem_append, alike.seen, List.mem_singleton, PyFloat.finite.injEq, Nat.cast_inj,
      Finset.mem_insert]
    exact or_comm
  · simp only [alike.maximum, PyFloat.lt_finite, top_insert]
    have cast : ((top A : ℚ) < (n : ℚ)) ↔ top A < (n : ℤ) := by exact_mod_cast Iff.rfl
    by_cases larger : top A < (n : ℤ)
    · rw [decide_eq_true (cast.mpr larger), if_pos rfl, max_eq_left larger.le]
      norm_cast
    · rw [decide_eq_false (mt cast.mp larger), if_neg Bool.false_ne_true,
        max_eq_right (not_lt.mp larger)]

/-- The number is new and 128 below the largest. -/
def AtEdge (r : JsSession) (n : ℕ) (now : ℚ) : Prop :=
  r.ActiveAt now ∧ .finite n ∉ r.seenSeqs ∧ r.maxSeenSeq = .finite (n + 128 : ℕ)

section Deliver

variable (correct : P.AeadCorrect) (safe : R.SafeIntegers) (encoded : id.encode = some b)
  (alike : Alike id key A s r) (small : n < 2 ^ 53)
  (made : CrossPayload P R oqs id key n d o) (now after : ℚ)

include safe encoded small made alike

/-- Sessions that are not active refuse, and stay alike. -/
theorem Alike.inactive (inactive : ¬ s.ActiveAt now) :
    (s.decrypt P d now after).1.toOption = none ∧
      (r.decrypt (P.js R oqs) (.object o) now after).1.toOption = none ∧
      Alike id key A (s.decrypt P d now after).2 (r.decrypt (P.js R oqs) (.object o) now after).2 := by
  obtain ⟨_, _, enc, _, rfl, rfl, _⟩ := made.sealed safe encoded alike.ends.key_size small
  have valid := Session.validatePayload_payloadDict (s := s) (R := P.toRuntime) n enc
  rw [alike.ends.sessionId] at valid
  obtain ⟨e, out⟩ := Session.decrypt_inactive after valid inactive
  obtain ⟨e', out'⟩ := JsSession.decrypt_inactive (J := P.js R oqs) after
    (mt alike.active_iff.mp inactive) (JsSession.wirePayload (.string (JsStr.ofStr id)) n enc)
  rw [out, out']
  exact ⟨rfl, rfl, alike.evaluateExpiry now⟩

include correct

/-- An active session opens the payload if it takes its number, and else stays as it is. -/
theorem Alike.outcomes (active : s.ActiveAt now) : ∃ plaintext,
    (s.Admitted n → s.decrypt P d now after =
      (.ok plaintext, (s.advance n).evaluateExpiry after)) ∧
    (¬ s.Admitted n → ∃ e, s.decrypt P d now after = (.error e, s)) ∧
    (r.checkSeq (P.js R oqs) (.finite n) = .ok () →
      r.decrypt (P.js R oqs) (.object o) now after =
        (.ok plaintext, (r.takeSeq (.finite n)).evaluateExpiry after)) ∧
    (r.checkSeq (P.js R oqs) (.finite n) ≠ .ok () → ∃ e,
      r.decrypt (P.js R oqs) (.object o) now after = (.error e, r)) := by
  obtain ⟨plaintext, nonce, enc, genuine, rfl, rfl, encrypted⟩ :=
    made.sealed safe encoded alike.ends.key_size small
  have active' := alike.active_iff.mpr active
  refine ⟨plaintext, fun admitted => ?_, fun refused => ?_, fun taken => ?_, fun refused => ?_⟩
  · rw [← alike.ends.sessionId, ← alike.ends.recvKey] at genuine
    rw [← alike.ends.sessionId]
    exact Session.decrypt_genuine after correct active admitted genuine
  · have valid := Session.validatePayload_payloadDict (s := s) (R := P.toRuntime) n enc
    rw [alike.ends.sessionId] at valid
    exact Session.decrypt_refused after valid active refused
  · obtain ⟨_, _, opened⟩ := Symmetric.decrypt_eq_ok.mp (Symmetric.decrypt_encrypt correct encrypted)
    have opened' : (P.js R oqs).aesGcmDecrypt key enc.nonce enc.ciphertext
        (b ++ .lit ":" ++ .lit (Int.repr n)) = .ok plaintext := by
      show webResult _ = _
      rw [opened]
      rfl
    exact JsSession.decrypt_opened after alike.ends.sessionId' alike.ends.recvKey' active' taken
      (associatedData_alike P oqs safe encoded small).2 opened'
  · cases checked : r.checkSeq (P.js R oqs) (.finite n) with
    | ok _ => exact absurd checked refused
    | error e => exact ⟨e, JsSession.decrypt_refused after alike.ends.sessionId'
        alike.ends.recvKey' active' checked⟩

/-- What one delivery does to both: they accept it or refuse it together, unless its number is at
the edge, where JavaScript accepts it and Python does not. -/
theorem Alike.deliver :
    (AtEdge r n now ∧ (s.decrypt P d now after).1.toOption ≠
      (r.decrypt (P.js R oqs) (.object o) now after).1.toOption) ∨
    (¬ AtEdge r n now ∧ (s.decrypt P d now after).1.toOption =
        (r.decrypt (P.js R oqs) (.object o) now after).1.toOption ∧
      ∃ B, Alike id key B (s.decrypt P d now after).2
        (r.decrypt (P.js R oqs) (.object o) now after).2) := by
  have admitted_iff : s.Admitted n ↔ Window.Admits 128 A n := by
    rw [Session.Admitted, alike.ends.unordered]
    exact alike.window.fits_iff_admits alike.memory
  have taken_iff := JsSession.checkSeq_unordered (P.js R oqs) n alike.ends.unordered' alike.maximum
  rw [alike.seen] at taken_iff
  by_cases active : s.ActiveAt now
  · obtain ⟨plaintext, opens, refuses, opens', refuses'⟩ :=
      alike.outcomes correct safe encoded small made now after active
    have edge_iff : AtEdge r n now ↔ n ∉ A ∧ top A = n + 128 := by
      rw [AtEdge, alike.seen, alike.maximum, PyFloat.finite.injEq]
      refine (and_iff_right (alike.active_iff.mpr active)).trans (and_congr_right fun _ => ?_)
      exact_mod_cast Iff.rfl
    rw [edge_iff]
    unfold Window.Admits at admitted_iff
    by_cases admitted : s.Admitted n
    · obtain ⟨new, near⟩ := admitted_iff.mp admitted
      rw [opens admitted, opens' (taken_iff.mpr ⟨new, near.le⟩)]
      exact Or.inr ⟨fun edge => by omega, rfl, _, (alike.take n).evaluateExpiry after⟩
    · obtain ⟨e, out⟩ := refuses admitted
      by_cases taken : r.checkSeq (P.js R oqs) (.finite n) = .ok ()
      · -- the one number that only JavaScript lets through
        obtain ⟨new, near⟩ := taken_iff.mp taken
        have far : ¬ top A < n + 128 := fun near => admitted (admitted_iff.mpr ⟨new, near⟩)
        rw [out, opens' taken]
        refine Or.inl ⟨⟨new, by omega⟩, ?_⟩
        rintro ⟨⟩
      · obtain ⟨e', out'⟩ := refuses' taken
        rw [out, out']
        exact Or.inr ⟨fun edge => taken (taken_iff.mpr ⟨edge.1, edge.2.le⟩), rfl, A, alike⟩
  · have inactive := mt alike.active_iff.mp active
    obtain ⟨none_python, none_js, kept⟩ :=
      alike.inactive safe encoded small made now after active
    exact Or.inr ⟨fun edge => inactive edge.1, none_python.trans none_js.symm, A, kept⟩

end Deliver

/-! ## Runs of deliveries -/

/-- A payload, as each receiver gets it, and the clock at the start and the end of the calls. -/
structure CrossDelivery where
  seq : ℕ
  dict : Dict
  object : JsObject
  now : ℚ
  after : ℚ

/-- What Python returns for the deliveries, one after another. -/
def Session.accepted (P : Platform) (s : Session) : List CrossDelivery → List (Option Bytes)
  | [] => []
  | x :: xs => (s.decrypt P x.dict x.now x.after).1.toOption ::
      Session.accepted P (s.decrypt P x.dict x.now x.after).2 xs

/-- What JavaScript returns for them. -/
def JsSession.accepted (J : JsPlatform) (r : JsSession) : List CrossDelivery → List (Option Bytes)
  | [] => []
  | x :: xs => (r.decrypt J (.object x.object) x.now x.after).1.toOption ::
      JsSession.accepted J (r.decrypt J (.object x.object) x.now x.after).2 xs

/-- None of the deliveries is at the edge when it comes. -/
def EdgeFree (J : JsPlatform) (r : JsSession) : List CrossDelivery → Prop
  | [] => True
  | x :: xs => ¬ AtEdge r x.seq x.now ∧
      EdgeFree J (r.decrypt J (.object x.object) x.now x.after).2 xs

/-- Sessions that have received nothing. -/
structure FreshEnds (id : Str) (key : Bytes) (s : Session) (r : JsSession) : Prop where
  ends : SameEnds id key s r
  state : r.state = s.state
  sendSeq : r.sendSeq = s.sendSeq
  seen : s.seenSeqs = ∅ ∧ s.maxSeenSeq = -1 ∧ s.recvCount = 0
  seen' : r.seenSeqs = [] ∧ r.maxSeenSeq = .finite (-1) ∧ r.recvCount = 0

theorem FreshEnds.alike (fresh : FreshEnds id key s r) : Alike id key ∅ s r where
  ends := fresh.ends
  state := fresh.state
  sendSeq := fresh.sendSeq
  recvCount := fresh.seen'.2.2.trans fresh.seen.2.2.symm
  window := ⟨by rw [fresh.seen.2.1, fresh.seen.1]; rfl, by rw [fresh.seen.1]; exact Nat.zero_le _⟩
  memory := by rw [fresh.seen.1]; exact Remembers.refl 128 ∅
  seen := by
    intro n
    rw [fresh.seen'.1]
    exact ⟨nofun, nofun⟩
  maximum := fresh.seen'.2.1

theorem Alike.accepts_iff (correct : P.AeadCorrect) (safe : R.SafeIntegers)
    (encoded : id.encode = some b) {xs : List CrossDelivery}
    (made : ∀ x ∈ xs, x.seq < 2 ^ 53 ∧ CrossPayload P R oqs id key x.seq x.dict x.object)
    (alike : Alike id key A s r) :
    s.accepted P xs = r.accepted (P.js R oqs) xs ↔ EdgeFree (P.js R oqs) r xs := by
  induction xs generalizing A s r with
  | nil => exact iff_of_true rfl trivial
  | cons x xs ih =>
      obtain ⟨small, here⟩ := made x List.mem_cons_self
      have later := fun y mem => made y (List.mem_cons_of_mem x mem)
      simp only [Session.accepted, JsSession.accepted, EdgeFree, List.cons.injEq]
      rcases alike.deliver correct safe encoded small here x.now x.after with
        ⟨edge, differ⟩ | ⟨clear, same, B, kept⟩
      · exact iff_of_false (fun both => differ both.1) (fun free => free.1 edge)
      · rw [ih later kept]
        exact ⟨fun both => ⟨clear, both.2⟩, fun free => ⟨same, free.2⟩⟩

/-- Two fresh unordered sessions accept the same deliveries of genuine payloads exactly if no new
number comes that is 128 below the largest one. -/
theorem deliveries_agree_iff (correct : P.AeadCorrect) (safe : R.SafeIntegers)
    (encoded : id.encode = some b) (fresh : FreshEnds id key s r) {xs : List CrossDelivery}
    (made : ∀ x ∈ xs, x.seq < 2 ^ 53 ∧ CrossPayload P R oqs id key x.seq x.dict x.object) :
    s.accepted P xs = r.accepted (P.js R oqs) xs ↔ EdgeFree (P.js R oqs) r xs :=
  fresh.alike.accepts_iff correct safe encoded made

/-! ## Sample deliveries -/

/-- The sample session of Python in JavaScript. -/
def sampleReceiver : JsSession :=
  { JsSession.sample false with recvKey := some Session.sampleInit.recvKey }

theorem sampleReceiver_fresh :
    FreshEnds "sid" Session.sampleInit.recvKey (Session.sampleFilled 0) sampleReceiver where
  ends := ⟨rfl, rfl, rfl, rfl, Session.sampleInit_recvKey, rfl, rfl, rfl, rfl, rfl⟩
  state := rfl
  sendSeq := rfl
  seen := ⟨rfl, rfl, rfl⟩
  seen' := ⟨rfl, rfl, rfl⟩

/-- The payload `m` of a number, made by Python. -/
def sampleCross (n : ℕ) : CrossDelivery where
  seq := n
  dict := Session.samplePayload n
  object := JsSession.wirePayload (.string "sid") n
    ⟨Session.sampleInit.recvKey ++ Session.sampleNonce ++
      (.lit "sid" ++ .lit ":" ++ .lit (Int.repr n)) ++ .lit "m", Session.sampleNonce⟩
  now := 0
  after := 0

theorem sampleCross_made {n : ℕ} (small : n < 10 ^ 7) : (sampleCross n).seq < 2 ^ 53 ∧
    CrossPayload .transparent .plain (some .transparent) "sid" Session.sampleInit.recvKey n
      (sampleCross n).dict (sampleCross n).object :=
  ⟨small.trans (by norm_num), .python (Session.samplePayload_genuine small)
    (ofItems_payloadDict JsRuntime.plain_safe (small.trans (by norm_num)) _)⟩

instance (r : JsSession) (n : ℕ) (now : ℚ) : Decidable (AtEdge r n now) :=
  inferInstanceAs (Decidable (_ ∧ _ ∧ _))

/-- Two payloads in order. -/
theorem sampleCross_agree :
    (Session.sampleFilled 0).accepted .transparent [sampleCross 0, sampleCross 1] =
      sampleReceiver.accepted .transparent [sampleCross 0, sampleCross 1] := by
  change _ = sampleReceiver.accepted (Platform.transparent.js .plain (some .transparent)) _
  refine (deliveries_agree_iff Platform.transparent_aead JsRuntime.plain_safe
    (Str.encode_ofString "sid") sampleReceiver_fresh ?_).mpr ?_
  · intro x mem
    rcases List.mem_cons.mp mem with rfl | mem
    · exact sampleCross_made (by norm_num)
    · rw [List.mem_singleton.mp mem]
      exact sampleCross_made (by norm_num)
  · exact ⟨by decide +kernel, by decide +kernel, trivial⟩

/-- The number 0 after the number 128 is accepted in JavaScript only. -/
theorem sampleCross_disagree :
    (Session.sampleFilled 0).accepted .transparent [sampleCross 128, sampleCross 0] =
        [some (.lit "m"), none] ∧
      sampleReceiver.accepted .transparent [sampleCross 128, sampleCross 0] =
        [some (.lit "m"), some (.lit "m")] := by
  decide +kernel

end Uxsp
