import Uxsp.Core.HandshakeHonest
import Uxsp.Crypto.Transparent
import Uxsp.Lib.Run

/-!
# Mutual authentication

Any number of honest parties run handshakes over a network an attacker owns: every HELLO and ACK
a call is given is any dict at all.  What bounds the attacker is `Network.Unforged`: a message
whose signatures verify under an honest party's keys has bytes that were signed with those keys.
Cards may belong to anyone; a card under an honest party's identifier is that party's card.

`mutual_authentication` says what holds of every run: whom a completed handshake and an answered
HELLO come from, and that a nonce store lets each of them through once.
-/

namespace Uxsp

/-- A handshake object waiting for its ACK, and the call that made it. -/
structure OpenHandshake (P : Platform) (ι μ : Type) where
  owner : ι
  machine : μ
  card : PublicCard
  config : Option SessionConfig
  started : ℚ
  handshake : Handshake P Session

/-- The machines, each with a clock and nonce stores, the handshakes begun on them, and what has
been signed.  `complete` also puts the session into the handshake object; no later call reads it
there, so `handshakes` keeps the objects as `initiate` made them. -/
structure Network (P : Platform) (S : NonceStore) (ι μ κ : Type) where
  clock : μ → ℚ
  store : μ → κ → S.State
  handshakes : List (OpenHandshake P ι μ)
  signed : List (PublicKeys × Bytes)

/-- What a step of the network shows. -/
inductive NetworkEvent (P : Platform) (ι μ κ : Type)
  | initiated (opened : OpenHandshake P ι μ)
  | responded (machine : μ) (store : κ) (party : ι) (hello : Dict) (card : PublicCard) (ack : Dict)
      (session : Session)
  | completed (machine : μ) (store : κ) (party : ι) (index : ℕ) (ack : Dict) (card : PublicCard)
      (session : Session)
  /-- A call that raised, or a nonce store tending itself. -/
  | other

namespace Network

open Handshake

/-- A bound on the time a call takes from its freshness check to its last clock reading. -/
def CALL_SECONDS : ℚ := 14

variable {P : Platform} {S : NonceStore} {ι μ κ : Type} (ident : ι → Identity P)

/-- A card under an honest party's identifier is that party's card. -/
def Authentic (card : PublicCard) : Prop :=
  ∀ i, card.entityId = (ident i).entityId → card = (ident i).publicCard

/-- Signatures that verify under an honest party's keys were made with them. -/
def Unforged (s : Network P S ι μ κ) (message : Dict) (signable : Except PyErr Bytes) : Prop :=
  ∀ i b, signable = .ok b → SignedBy P message (ident i).publicCard.publicKeys b →
    ((ident i).publicCard.publicKeys, b) ∈ s.signed

/-- When a call on a machine reads its clock. -/
def Reads (s : Network P S ι μ κ) (m : μ) (now after : ℚ) : Prop :=
  s.clock m ≤ now ∧ now ≤ after ∧ after ≤ now + CALL_SECONDS

def sign (s : Network P S ι μ κ) (i : ι) (b : Bytes) : Network P S ι μ κ :=
  { s with signed := s.signed ++ [((ident i).publicCard.publicKeys, b)] }

variable {ident} {s t : Network P S ι μ κ} {m : μ} {k : κ} {nonce : Str} {time expiry : ℚ}

/-- The store of the machine holds the nonce until it expires. -/
def Guarded (s : Network P S ι μ κ) (m : μ) (k : κ) (nonce : Str) (expiry : ℚ) : Prop :=
  Ttl.Guards S.laws (s.store m k) (s.clock m) nonce expiry

/-- Clocks do not run back, handshakes stay, and what a store holds it goes on holding. -/
structure Grows (s t : Network P S ι μ κ) : Prop where
  clock : ∀ m, s.clock m ≤ t.clock m
  handshakes : ∀ {n : ℕ} {opened : OpenHandshake P ι μ},
    s.handshakes[n]? = some opened → t.handshakes[n]? = some opened
  guarded : ∀ {m k nonce expiry}, s.Guarded m k nonce expiry → t.Guarded m k nonce expiry

theorem Grows.refl (s : Network P S ι μ κ) : s.Grows s := ⟨fun _ => le_rfl, id, id⟩

theorem Grows.trans {u : Network P S ι μ κ} (first : s.Grows t) (second : t.Grows u) :
    s.Grows u where
  clock := fun m => (first.clock m).trans (second.clock m)
  handshakes := fun found => second.handshakes (first.handshakes found)
  guarded := fun held => second.guarded (first.guarded held)

theorem grows_sign (s : Network P S ι μ κ) (i : ι) (b : Bytes) : s.Grows (s.sign ident i b) where
  clock := fun _ => le_rfl
  handshakes := id
  guarded := id

theorem Reads.le (reads : s.Reads m time expiry) : s.clock m ≤ expiry :=
  reads.1.trans reads.2.1

variable (ident)

variable [DecidableEq μ]

def begin (s : Network P S ι μ κ) (opened : OpenHandshake P ι μ) : Network P S ι μ κ :=
  { s with
    clock := Function.update s.clock opened.machine opened.started
    handshakes := s.handshakes ++ [opened] }

theorem grows_begin {opened : OpenHandshake P ι μ}
    (later : s.clock opened.machine ≤ opened.started) : s.Grows (s.begin opened) where
  clock := by
    intro m
    simp only [begin, Function.update_apply]
    split
    · rename_i here
      exact here ▸ later
    · exact le_rfl
  handshakes := fun found => by
    have short := (List.getElem?_eq_some_iff.mp found).1
    exact (List.getElem?_append_left short).trans found
  guarded := by
    intro m k nonce expiry held
    simp only [Guarded, begin, Function.update_apply]
    split
    · rename_i here
      exact Ttl.Guards.later held (here ▸ later)
    · exact held

variable [DecidableEq κ]

/-- The clock of a machine and one of its stores move on. -/
def touch (s : Network P S ι μ κ) (m : μ) (k : κ) (time : ℚ) (store : S.State) :
    Network P S ι μ κ :=
  { s with
    clock := Function.update s.clock m time
    store := Function.update s.store m (Function.update (s.store m) k store) }

/-- The steps of the network.  The session identifier of a new handshake is one its owner has not
used. -/
inductive Step : Network P S ι μ κ → NetworkEvent P ι μ κ → Network P S ι μ κ → Prop
  | initiate {s : Network P S ι μ κ} {opened : OpenHandshake P ι μ} {uuid : Uuid4}
      {coins : MessageCoins} {hello : Dict} {b : Bytes} :
      s.clock opened.machine ≤ opened.started → Authentic ident opened.card →
      (∀ earlier ∈ s.handshakes, earlier.owner = opened.owner →
        earlier.handshake.sessionId ≠ some uuid.str) →
      Handshake.initiate P (ident opened.owner) opened.card opened.config uuid opened.started coins =
        .ok opened.handshake →
      opened.handshake.helloMsg = some hello → helloSignable P.toRuntime hello = .ok b →
      Step s (.initiated opened) ((s.begin opened).sign ident opened.owner b)
  | respond {s : Network P S ι μ κ} {m : μ} {k : κ} {i : ι} {hello : Dict} {card : PublicCard}
      {config : Option SessionConfig} {now after : ℚ} {coins : MessageCoins} {ack : Dict}
      {session : Session} {store : S.State} {b : Bytes} :
      s.Reads m now after → Authentic ident card →
      s.Unforged ident hello (helloSignable P.toRuntime hello) →
      respondSession P S (s.store m k) (ident i) hello card config now after coins =
        (.ok (ack, session), store) →
      ackSignable P.toRuntime ack = .ok b →
      Step s (.responded m k i hello card ack session) ((s.touch m k after store).sign ident i b)
  | complete {s : Network P S ι μ κ} {k : κ} {n : ℕ} {opened : OpenHandshake P ι μ} {ack : Dict}
      {card : PublicCard} {now after : ℚ} {session : Session} {store : S.State} :
      s.handshakes[n]? = some opened → s.Reads opened.machine now after → Authentic ident card →
      s.Unforged ident ack (ackSignable P.toRuntime ack) →
      completeSession P S (s.store opened.machine k) opened.handshake ack card now after =
        (.ok session, store) →
      Step s (.completed opened.machine k opened.owner n ack card session)
        (s.touch opened.machine k after store)
  | respondRaises {s : Network P S ι μ κ} {m : μ} {k : κ} {i : ι} {hello : Dict}
      {card : PublicCard} {config : Option SessionConfig} {now after : ℚ} {coins : MessageCoins}
      {e : PyErr} {store : S.State} :
      s.Reads m now after →
      respondSession P S (s.store m k) (ident i) hello card config now after coins =
        (.error e, store) →
      Step s .other (s.touch m k after store)
  | completeRaises {s : Network P S ι μ κ} {k : κ} {n : ℕ} {opened : OpenHandshake P ι μ}
      {ack : Dict} {card : PublicCard} {now after : ℚ} {e : PyErr} {store : S.State} :
      s.handshakes[n]? = some opened → s.Reads opened.machine now after →
      completeSession P S (s.store opened.machine k) opened.handshake ack card now after =
        (.error e, store) →
      Step s .other (s.touch opened.machine k after store)
  | tend {s : Network P S ι μ κ} {m : μ} {k : κ} {now : ℚ} {store : S.State} :
      s.clock m ≤ now → S.tend (s.store m k) now store → Step s .other (s.touch m k now store)

/-! ## What every step keeps -/

variable {ident}

theorem grows_touch {store : S.State} (later : s.clock m ≤ time)
    (keeps : ∀ {nonce expiry}, s.Guarded m k nonce expiry →
      Ttl.Guards S.laws store time nonce expiry) : s.Grows (s.touch m k time store) where
  clock := by
    intro m'
    simp only [touch, Function.update_apply]
    split
    · rename_i here
      exact here ▸ later
    · exact le_rfl
  handshakes := id
  guarded := by
    intro m' k' nonce expiry held
    by_cases here : m' = m
    · subst here
      by_cases same : k' = k
      · subst same
        simpa [Guarded, touch] using keeps held
      · simpa [Guarded, touch, same] using Ttl.Guards.later held later
    · simpa [Guarded, touch, here] using held

/-- A call leaves a store that is the old one or the old one with a mark. -/
theorem grows_call {store : S.State} (later : s.clock m ≤ time)
    (left : store = s.store m k ∨ ∃ nonce,
      store = (S.markUsed (s.store m k) nonce NONCE_TTL time).2) :
    s.Grows (s.touch m k time store) := by
  refine grows_touch later fun held => ?_
  rcases left with rfl | ⟨other, rfl⟩
  · exact held.later later
  · exact held.kept later

theorem Step.grows {e : NetworkEvent P ι μ κ} (step : Step ident s e t) : s.Grows t := by
  cases step with
  | initiate later => exact (grows_begin later).trans (grows_sign _ _ _)
  | respond reads _ _ answered =>
      exact (grows_call reads.le (respondSession_store answered)).trans (grows_sign _ _ _)
  | complete _ reads _ _ completed => exact grows_call reads.le (completeSession_store completed)
  | respondRaises reads raised => exact grows_call reads.le (respondSession_store raised)
  | completeRaises _ reads raised => exact grows_call reads.le (completeSession_store raised)
  | tend later tended => exact grows_touch later fun held => held.tended later tended

/-! ## What the network knows -/

section Knowledge

omit [DecidableEq μ] [DecidableEq κ]

variable (ident)

/-- The party began the handshake of this index, and its HELLO has these bytes. -/
def HelloOf (s : Network P S ι μ κ) (a : ι) (b : Bytes) (n : ℕ) : Prop :=
  ∃ opened sid exchange, s.handshakes[n]? = some opened ∧ opened.owner = a ∧
    Initiated P (ident a) opened.card opened.config opened.started sid opened.handshake exchange b

/-- The party answered the HELLO with an ACK of these bytes, its store remembers it, and if the
card is an honest party's the HELLO is too. -/
def Answered (s : Network P S ι μ κ) (m : μ) (k : κ) (i : ι) (hello : Dict) (card : PublicCard)
    (ack : Dict) (session : Session) (c : Bytes) : Prop :=
  ∃ config now after sid b secretA exchange version final,
    Responds P (ident i) hello card config now after ack session sid b secretA exchange version c
      final ∧
    now ≤ after ∧ after ≤ now + CALL_SECONDS ∧ Authentic ident card ∧
    s.Guarded m k (("hello:" : Str) ++ sid) (after + NONCE_TTL) ∧
    ∀ a, card = (ident a).publicCard → ∃ n, HelloOf ident s a b n

/-- The invariant of the network. -/
structure Inv (es : List (NetworkEvent P ι μ κ)) (s : Network P S ι μ κ) : Prop where
  opened : ∀ {n : ℕ} {o : OpenHandshake P ι μ}, s.handshakes[n]? = some o →
    .initiated o ∈ es ∧ Authentic ident o.card ∧ o.started ≤ s.clock o.machine ∧
      ∃ b, HelloOf ident s o.owner b n
  unique : ∀ {n n' : ℕ} {o o' : OpenHandshake P ι μ}, s.handshakes[n]? = some o →
    s.handshakes[n']? = some o' → o.owner = o'.owner →
    o.handshake.sessionId = o'.handshake.sessionId → n = n'
  signed : ∀ {keys b}, (keys, b) ∈ s.signed → ∃ i, keys = (ident i).publicCard.publicKeys ∧
    ((∃ n, HelloOf ident s i b n) ∨ ∃ m k hello card ack session,
      .responded m k i hello card ack session ∈ es ∧
        Answered ident s m k i hello card ack session b)
  answered : ∀ {m k i hello card ack session}, .responded m k i hello card ack session ∈ es →
    ∃ c, Answered ident s m k i hello card ack session c
  finished : ∀ {m k p n ack card session}, .completed m k p n ack card session ∈ es →
    ∃ o sid after, s.handshakes[n]? = some o ∧ o.machine = m ∧
      o.handshake.sessionId = some sid ∧ o.started ≤ after ∧
      s.Guarded m k (("ack:" : Str) ++ sid) (after + NONCE_TTL)

variable {ident}

theorem HelloOf.mono {a : ι} {b : Bytes} {n : ℕ} (of : HelloOf ident s a b n) (grows : s.Grows t) :
    HelloOf ident t a b n := by
  rcases of with ⟨opened, sid, exchange, found, rest⟩
  exact ⟨opened, sid, exchange, grows.handshakes found, rest⟩

theorem Answered.mono {i : ι} {hello ack : Dict} {card : PublicCard} {session : Session} {c : Bytes}
    (answered : Answered ident s m k i hello card ack session c) (grows : s.Grows t) :
    Answered ident t m k i hello card ack session c := by
  rcases answered with ⟨config, now, after, sid, b, secretA, exchange, version, final, responds,
    order, fast, authentic, held, origin⟩
  refine ⟨config, now, after, sid, b, secretA, exchange, version, final, responds, order, fast,
    authentic, grows.guarded held, fun a mine => ?_⟩
  rcases origin a mine with ⟨n, of⟩
  exact ⟨n, of.mono grows⟩

/-- The bytes of a HELLO are those of no ACK. -/
theorem HelloOf.not_ack {a : ι} {b : Bytes} {n : ℕ} (of : HelloOf ident s a b n) {ack : Dict} :
    ackSignable P.toRuntime ack ≠ .ok b := by
  rcases of with ⟨opened, sid, exchange, -, -, ⟨hello, -, made⟩, -⟩
  rcases made.bytes with ⟨h, -, bound⟩
  intro signable
  rcases ackSignable_eq_ok.mp signable with ⟨c, -, bound'⟩
  exact HelloBytes.fields_ne (bindFields_inj bound bound')

variable {es : List (NetworkEvent P ι μ κ)}

/-- An accepted HELLO under an honest party's card is one that party began. -/
theorem Inv.hello_origin (inv : Inv ident es s)
    (ids : Function.Injective fun i => (ident i).entityId) {hello : Dict} {card : PublicCard} {i : ι}
    {now : ℚ} {b : Bytes} (unforged : s.Unforged ident hello (helloSignable P.toRuntime hello))
    (accepted : HelloAccepted P hello card (ident i) now b) {a : ι}
    (mine : card = (ident a).publicCard) : ∃ n, HelloOf ident s a b n := by
  subst mine
  rcases inv.signed (unforged a b accepted.signable accepted.signed) with
    ⟨a', -, ⟨n, of⟩ | ⟨m, k, hello', card, ack, session, -, answered⟩⟩
  · rcases id of with ⟨opened, sid, exchange, -, -, ⟨hello', -, made⟩, -⟩
    have same : a = a' := ids (accepted.sameHello made).initiator
    exact ⟨n, same ▸ of⟩
  · rcases answered with ⟨_, _, _, _, _, _, _, _, _, responds, -⟩
    rcases responds.made.bytes with ⟨proof, c, -, -, bound, -⟩
    rcases helloSignable_eq_ok.mp accepted.signable with ⟨h, -, bound'⟩
    exact absurd (bindFields_inj bound' bound) HelloBytes.fields_ne

/-- An accepted ACK under an honest party's card is one that party made. -/
theorem Inv.ack_origin (inv : Inv ident es s)
    (ids : Function.Injective fun i => (ident i).entityId) {ack : Dict} {q : ι} {now : ℚ} {c : Bytes}
    (unforged : s.Unforged ident ack (ackSignable P.toRuntime ack))
    (accepted : AckAccepted P ack (ident q).publicCard now c)
    (named : ack.get? "responder_id" = some (.str (ident q).entityId)) :
    ∃ m k hello card ack' session, .responded m k q hello card ack' session ∈ es ∧
      Answered ident s m k q hello card ack' session c := by
  rcases inv.signed (unforged q c accepted.signable accepted.signed) with
    ⟨q', -, ⟨n, of⟩ | ⟨m, k, hello, card, ack', session, event, answered⟩⟩
  · exact absurd accepted.signable of.not_ack
  · rcases id answered with ⟨_, _, _, _, _, _, _, _, _, responds, -⟩
    have same : q = q' := ids ((accepted.sameAck responds.made).responderId _ named)
    subst same
    exact ⟨m, k, hello, card, ack', session, event, answered⟩

/-- The invariant after a step that begins no handshake. -/
theorem Inv.extend {e : NetworkEvent P ι μ κ} (inv : Inv ident es s) (grows : s.Grows t)
    (same : t.handshakes = s.handshakes) (quiet : ∀ o, e ≠ .initiated o)
    (signed : ∀ {keys b}, (keys, b) ∈ t.signed → (keys, b) ∈ s.signed ∨
      ∃ i, keys = (ident i).publicCard.publicKeys ∧ ∃ m k hello card ack session,
        e = .responded m k i hello card ack session ∧
          Answered ident t m k i hello card ack session b)
    (answered : ∀ {m k i hello card ack session}, e = .responded m k i hello card ack session →
      ∃ c, Answered ident t m k i hello card ack session c)
    (finished : ∀ {m k p n ack card session}, e = .completed m k p n ack card session →
      ∃ o sid after, t.handshakes[n]? = some o ∧ o.machine = m ∧
        o.handshake.sessionId = some sid ∧ o.started ≤ after ∧
        t.Guarded m k (("ack:" : Str) ++ sid) (after + NONCE_TTL)) :
    Inv ident (es ++ [e]) t where
  opened := by
    intro n o found
    rcases inv.opened (same ▸ found) with ⟨event, authentic, past, b, of⟩
    exact ⟨List.mem_append_left _ event, authentic, past.trans (grows.clock _), b, of.mono grows⟩
  unique := by
    rw [same]
    exact inv.unique
  signed := by
    intro keys b mem
    rcases signed mem with old | ⟨i, own, m, k, hello, card, ack, session, rfl, fresh⟩
    · rcases inv.signed old with ⟨i, own, ⟨n, of⟩ | ⟨m, k, hello, card, ack, session, event, known⟩⟩
      · exact ⟨i, own, Or.inl ⟨n, of.mono grows⟩⟩
      · exact ⟨i, own, Or.inr ⟨m, k, hello, card, ack, session, List.mem_append_left _ event,
          known.mono grows⟩⟩
    · exact ⟨i, own, Or.inr ⟨m, k, hello, card, ack, session,
        List.mem_append_right _ List.mem_cons_self, fresh⟩⟩
  answered := by
    intro m k i hello card ack session mem
    rcases List.mem_append.mp mem with old | new
    · rcases inv.answered old with ⟨c, known⟩
      exact ⟨c, known.mono grows⟩
    · exact answered (List.mem_singleton.mp new).symm
  finished := by
    intro m k p n ack card session mem
    rcases List.mem_append.mp mem with old | new
    · rcases inv.finished old with ⟨o, sid, after, found, rest, own, past, held⟩
      exact ⟨o, sid, after, grows.handshakes found, rest, own, past, grows.guarded held⟩
    · exact finished (List.mem_singleton.mp new).symm

end Knowledge

theorem guarded_touch {store : S.State} (marked : S.markUsed (s.store m k) nonce NONCE_TTL time =
    (.ok true, store)) : (s.touch m k time store).Guarded m k nonce (time + NONCE_TTL) := by
  have held := Ttl.Guards.of_mark S.laws (congrArg Prod.fst marked)
  rw [marked] at held
  simpa [Guarded, touch] using held

variable {es : List (NetworkEvent P ι μ κ)}

omit [DecidableEq κ] in
theorem Inv.initiate {opened : OpenHandshake P ι μ} {uuid : Uuid4} {coins : MessageCoins}
    {hello : Dict} {b : Bytes} (inv : Inv ident es s)
    (later : s.clock opened.machine ≤ opened.started) (authentic : Authentic ident opened.card)
    (fresh : ∀ earlier ∈ s.handshakes, earlier.owner = opened.owner →
      earlier.handshake.sessionId ≠ some uuid.str)
    (began : Handshake.initiate P (ident opened.owner) opened.card opened.config uuid opened.started
      coins = .ok opened.handshake)
    (sent : opened.handshake.helloMsg = some hello)
    (signable : helloSignable P.toRuntime hello = .ok b) :
    Inv ident (es ++ [.initiated opened]) ((s.begin opened).sign ident opened.owner b) := by
  have grows : s.Grows ((s.begin opened).sign ident opened.owner b) :=
    (grows_begin later).trans (grows_sign _ _ _)
  rcases initiate_initiated began with ⟨exchange, b', initiated⟩
  have own := sessionId_of_pending initiated.pending
  have same : b' = b := by
    rcases initiated.made with ⟨hello', sent', made⟩
    rw [sent] at sent'
    cases sent'
    rw [made.signable] at signable
    exact Except.ok.inj signable
  subst same
  have last : ((s.begin opened).sign ident opened.owner b').handshakes[s.handshakes.length]? =
      some opened := List.getElem?_concat_length
  have of : HelloOf ident ((s.begin opened).sign ident opened.owner b') opened.owner b'
      s.handshakes.length := ⟨opened, _, exchange, last, rfl, initiated⟩
  -- an entry of the longer list is an old one or the new one
  have entries : ∀ {n : ℕ} {o : OpenHandshake P ι μ},
      ((s.begin opened).sign ident opened.owner b').handshakes[n]? = some o →
        s.handshakes[n]? = some o ∨ n = s.handshakes.length ∧ o = opened := by
    intro n o found
    simp only [sign, begin, List.getElem?_append] at found
    split at found
    · exact Or.inl found
    · rename_i long
      rcases List.getElem?_eq_some_iff.mp found with ⟨short, eq⟩
      have zero : n - s.handshakes.length = 0 := by simpa using short
      simp only [zero, List.getElem_cons_zero] at eq
      exact Or.inr ⟨by omega, eq.symm⟩
  refine ⟨?_, ?_, ?_, ?_, ?_⟩
  · intro n o found
    rcases entries found with old | ⟨rfl, rfl⟩
    · rcases inv.opened old with ⟨event, authentic, past, c, of⟩
      exact ⟨List.mem_append_left _ event, authentic, past.trans (grows.clock _), c, of.mono grows⟩
    · refine ⟨List.mem_append_right _ List.mem_cons_self, authentic, ?_, b', of⟩
      simp [sign, begin]
  · intro n n' o o' found found' owner sid
    rcases entries found with old | ⟨rfl, rfl⟩
    · rcases entries found' with old' | ⟨rfl, rfl⟩
      · exact inv.unique old old' owner sid
      · exact absurd (sid.trans own) (fresh o (List.mem_of_getElem? old) owner)
    · rcases entries found' with old' | ⟨rfl, rfl⟩
      · exact absurd (sid.symm.trans own) (fresh o' (List.mem_of_getElem? old') owner.symm)
      · rfl
  · intro keys c mem
    rcases List.mem_append.mp mem with old | new
    · rcases inv.signed old with ⟨i, own, ⟨n, of⟩ | ⟨m, k, hello, card, ack, session, event, known⟩⟩
      · exact ⟨i, own, Or.inl ⟨n, of.mono grows⟩⟩
      · exact ⟨i, own, Or.inr ⟨m, k, hello, card, ack, session, List.mem_append_left _ event,
          known.mono grows⟩⟩
    · cases List.mem_singleton.mp new
      exact ⟨opened.owner, rfl, Or.inl ⟨_, of⟩⟩
  · intro m k i hello card ack session mem
    rcases List.mem_append.mp mem with old | new
    · rcases inv.answered old with ⟨c, known⟩
      exact ⟨c, known.mono grows⟩
    · cases List.mem_singleton.mp new
  · intro m k p n ack card session mem
    rcases List.mem_append.mp mem with old | new
    · rcases inv.finished old with ⟨o, sid, after, found, rest, own, past, held⟩
      exact ⟨o, sid, after, grows.handshakes found, rest, own, past, grows.guarded held⟩
    · cases List.mem_singleton.mp new

theorem Inv.keep {e : NetworkEvent P ι μ κ} (ids : Function.Injective fun i => (ident i).entityId)
    (inv : Inv ident es s) (step : Step ident s e t) : Inv ident (es ++ [e]) t := by
  have grows := step.grows
  cases step with
  | initiate later authentic fresh began sent signable =>
      exact inv.initiate later authentic fresh began sent signable
  | respond reads authentic unforged answer signable =>
      rcases respondSession_responds answer with
        ⟨sid, b, secretA, exchange, version, c, final, responds, marked⟩
      rename_i m k i hello card config now after coins ack session store b'
      have answered : Answered ident ((s.touch m k after store).sign ident i b') m k i hello card ack
          session b' := by
        have same : c = b' := by
          rw [responds.made.signable] at signable
          exact Except.ok.inj signable
        subst same
        refine ⟨config, now, after, sid, b, secretA, exchange, version, final, responds, reads.2.1,
          reads.2.2, authentic, guarded_touch marked, fun a mine => ?_⟩
        rcases inv.hello_origin ids unforged responds.accepted mine with ⟨n, of⟩
        exact ⟨n, of.mono grows⟩
      refine inv.extend grows rfl ?_ ?_ ?_ ?_
      · intro o same
        cases same
      · intro keys c mem
        rcases List.mem_append.mp mem with old | new
        · exact Or.inl old
        · cases List.mem_singleton.mp new
          exact Or.inr ⟨i, rfl, m, k, hello, card, ack, session, rfl, answered⟩
      · intro m' k' i' hello' card' ack' session' same
        cases same
        exact ⟨b', answered⟩
      · intro m' k' p n ack' card' session' same
        cases same
  | complete found reads authentic unforged completed =>
      rcases inv.opened found with ⟨-, -, past, b, opened', sid, exchange, found', -, initiated⟩
      rw [found, Option.some.injEq] at found'
      subst found'
      rcases completeSession_completes initiated.pending completed with ⟨c, secretB, final, -, marked⟩
      refine inv.extend grows rfl ?_ Or.inl ?_ ?_
      · intro o same
        cases same
      · intro m k i hello card ack session same
        cases same
      · intro m k p n ack card session same
        cases same
        exact ⟨_, sid, _, found, rfl, sessionId_of_pending initiated.pending,
          past.trans reads.le, guarded_touch marked⟩
  | respondRaises | completeRaises | tend =>
      refine inv.extend grows rfl ?_ Or.inl ?_ ?_
      · intro o same
        cases same
      · intro m k i hello card ack session same
        cases same
      · intro m k p n ack card session same
        cases same

omit [DecidableEq μ] [DecidableEq κ] in
theorem inv_start (clock : μ → ℚ) (store : μ → κ → S.State) :
    Inv ident ([] : List (NetworkEvent P ι μ κ)) ⟨clock, store, [], []⟩ := by
  refine ⟨?_, ?_, ?_, ?_, ?_⟩
  · intro n o found
    cases found
  · intro n n' o o' found
    cases found
  · intro keys b mem
    cases mem
  · intro m k i hello card ack session mem
    cases mem
  · intro m k p n ack card session mem
    cases mem

theorem Run.inv (ids : Function.Injective fun i => (ident i).entityId) {clock : μ → ℚ}
    {store : μ → κ → S.State} (run : Run (Step ident) ⟨clock, store, [], []⟩ es s) :
    Inv ident es s :=
  run.history (I := Inv ident) (fun _ _ _ _ inv step => inv.keep ids step) (inv_start clock store)

/-! ## Mutual authentication -/

/-- The dict has the signed bytes of the handshake's HELLO. -/
def HelloFrom (P : Platform) (opened : OpenHandshake P ι μ) (hello : Dict) : Prop :=
  ∃ sent b, opened.handshake.helloMsg = some sent ∧ helloSignable P.toRuntime sent = .ok b ∧
    helloSignable P.toRuntime hello = .ok b

variable (ident)

/-- What a run of the network guarantees. -/
structure MutualAuthentication (es : List (NetworkEvent P ι μ κ)) (s : Network P S ι μ κ) :
    Prop where
  /-- A completed handshake was answered by the holder of the card, who took it for one of the
  initiator and computed the same secret. -/
  completed : ∀ {before after : List (NetworkEvent P ι μ κ)} {m k p n ack session q},
    es = before ++ .completed m k p n ack (ident q).publicCard session :: after →
    ∃ opened sid m' k' hello ack' theirs config config',
      s.handshakes[n]? = some opened ∧ .initiated opened ∈ before ∧ opened.owner = p ∧
      opened.card = (ident q).publicCard ∧ opened.handshake.sessionId = some sid ∧
      .responded m' k' q hello (ident p).publicCard ack' theirs ∈ before ∧
      HelloFrom P opened hello ∧ Ends P (ident p) (ident q) sid config config' session theirs
  /-- An answered HELLO was sent by the holder of the card, for this responder. -/
  responded : ∀ {before after : List (NetworkEvent P ι μ κ)} {m k q hello ack session p},
    es = before ++ .responded m k q hello (ident p).publicCard ack session :: after →
    ∃ opened, .initiated opened ∈ before ∧ opened.owner = p ∧
      opened.card = (ident q).publicCard ∧ HelloFrom P opened hello ∧
      opened.handshake.sessionId = some session.sessionId
  /-- A store lets a HELLO through once. -/
  hello_once : ∀ {before between after : List (NetworkEvent P ι μ κ)} {m k i j hello hello' card}
    {card' ack ack' session session'},
    es = before ++ .responded m k i hello card ack session ::
      (between ++ .responded m k j hello' card' ack' session' :: after) →
    helloSignable P.toRuntime hello = helloSignable P.toRuntime hello' →
    hello.get? "timestamp" ≠ hello'.get? "timestamp" ∧ ∀ p, card ≠ (ident p).publicCard
  /-- A store lets a handshake with an honest responder be completed once. -/
  complete_once : ∀ {before between after : List (NetworkEvent P ι μ κ)} {m k p p' n n' card q}
    {ack ack' session session'},
    es = before ++ .completed m k p n ack card session ::
      (between ++ .completed m k p' n' ack' (ident q).publicCard session' :: after) → n ≠ n'

variable {ident}

theorem Run.grows (run : Run (Step ident) s es t) : s.Grows t := by
  induction run with
  | nil => exact .refl _
  | snoc _ last ih => exact ih.trans last.grows

omit [DecidableEq μ] [DecidableEq κ]

/-- The ACK of a completed handshake is an answer to the HELLO of this very handshake. -/
theorem Inv.partner (ids : Function.Injective fun i => (ident i).entityId) (inv : Inv ident es s)
    {n : ℕ} {opened : OpenHandshake P ι μ} {ack : Dict} {q : ι} {now after : ℚ} {session : Session}
    {c secretB final : Bytes} {pending : Pending P} (found : s.handshakes[n]? = some opened)
    (waits : opened.handshake.pending = .ok pending)
    (unforged : s.Unforged ident ack (ackSignable P.toRuntime ack))
    (completes : Completes P pending ack (ident q).publicCard now after session c secretB final) :
    ∃ m' k' hello ack' theirs config asked replied b secretA exchange version final',
      .responded m' k' q hello (ident opened.owner).publicCard ack' theirs ∈ es ∧
      replied ≤ asked + CALL_SECONDS ∧
      Responds P (ident q) hello (ident opened.owner).publicCard config asked replied ack' theirs
        pending.sessionId b secretA exchange version c final' ∧
      pending.initiator = ident opened.owner ∧
      Initiated P (ident opened.owner) (ident q).publicCard opened.config opened.started
        pending.sessionId opened.handshake pending.exchange b := by
  rcases inv.ack_origin ids unforged completes.accepted completes.responderId with
    ⟨m', k', hello, card, ack', theirs, event, answered⟩
  rcases answered with ⟨config', asked, replied, sid', b', secretA, exchangeB, version, final', responds,
    -, fast, authentic', -, origin⟩
  have sameAck := completes.accepted.sameAck responds.made
  rcases inv.opened found with ⟨-, authentic, -, b, o, sid, exchange, found', -, initiated⟩
  rw [found, Option.some.injEq] at found'
  subst found'
  have own := waits
  rw [initiated.pending, Except.ok.injEq] at own
  subst own
  -- the responder answered the initiator, under the initiator's own card
  have partner : card = (ident opened.owner).publicCard :=
    authentic' _ (sameAck.initiatorId _ completes.initiatorId).symm
  subst partner
  have target : opened.card = (ident q).publicCard := authentic q (completes.sameCard _ rfl)
  -- the HELLO it answered is the one of this very handshake
  rcases origin opened.owner rfl with ⟨n', o', sid'', exchange', found', owner, initiated'⟩
  rcases id initiated'.made with ⟨sent', sent_eq', made'⟩
  have sameHello := responds.accepted.sameHello made'
  have same : sid' = sid := (sameAck.sessionId _ completes.sessionId).symm
  subst same
  have sids : sid' = sid'' := sameHello.sessionId _ responds.sessionId
  have index : n = n' := by
    refine inv.unique found found' owner.symm ?_
    rw [sessionId_of_pending initiated.pending, sessionId_of_pending initiated'.pending, sids]
  subst index
  rw [found, Option.some.injEq] at found'
  subst found'
  have pendings := initiated.pending.symm.trans initiated'.pending
  simp only [Except.ok.injEq, Pending.mk.injEq, true_and] at pendings
  rcases pendings with ⟨rfl, rfl, -⟩
  exact ⟨m', k', hello, ack', theirs, _, _, _, _, _, _, _, _, event, fast, responds, rfl,
    target ▸ initiated'⟩

/-- What a completed handshake knows about the other end. -/
theorem Inv.complete_agrees (correct : P.ExchangeCorrect)
    (ids : Function.Injective fun i => (ident i).entityId) (inv : Inv ident es s) {n : ℕ}
    {opened : OpenHandshake P ι μ} {ack : Dict} {q : ι} {now after : ℚ} {session : Session}
    {c secretB final : Bytes} {pending : Pending P} (found : s.handshakes[n]? = some opened)
    (waits : opened.handshake.pending = .ok pending)
    (unforged : s.Unforged ident ack (ackSignable P.toRuntime ack))
    (completes : Completes P pending ack (ident q).publicCard now after session c secretB final) :
    ∃ m' k' hello ack' theirs config', opened.card = (ident q).publicCard ∧
      .responded m' k' q hello (ident opened.owner).publicCard ack' theirs ∈ es ∧
      HelloFrom P opened hello ∧ Ends P (ident opened.owner) (ident q) pending.sessionId
        pending.config config' session theirs := by
  rcases inv.partner ids found waits unforged completes with ⟨m', k', hello, ack', theirs, _, _, _,
    b, secretA, exchange, _, _, event, -, responds, own, initiated⟩
  rcases id initiated.made with ⟨sent, sent_eq, made⟩
  have sameHello := responds.accepted.sameHello made
  have sameAck := completes.accepted.sameAck responds.made
  have target : opened.card = (ident q).publicCard := by
    rcases inv.opened found with ⟨-, -, -, _, o, _, _, found', -, initiated'⟩
    rw [found, Option.some.injEq] at found'
    subst found'
    have pendings := initiated.pending.symm.trans initiated'.pending
    simp only [Except.ok.injEq, Pending.mk.injEq, true_and, Option.some.injEq] at pendings
    exact pendings.2.2.symm
  -- both halves of the secret agree
  have halfA : secretA = pending.exchange.sharedKey :=
    responds.derived.eq_sharedKey correct sameHello.ephemeralPub sameHello.kemCiphertext
      made.exchanged
  have derived := completes.derived
  rw [own] at derived
  have halfB : secretB = exchange.sharedKey :=
    derived.eq_sharedKey correct sameAck.ephemeralPub sameAck.kemCiphertext responds.made.exchanged
  subst halfA halfB
  have agreed := completes.agreed
  rw [own] at agreed
  have same := agreed.unique responds.agreed
  have mine := completes.session_eq
  rw [own, same] at mine
  exact ⟨m', k', hello, ack', theirs, _, target, event, ⟨sent, b, sent_eq, made.signable,
    responds.accepted.signable⟩, _, _, _, mine, responds.session_eq⟩

/-- What an answered HELLO says about its sender. -/
theorem Inv.respond_origin (ids : Function.Injective fun i => (ident i).entityId)
    (inv : Inv ident es s) {hello ack : Dict} {p q : ι} {config : Option SessionConfig}
    {now after : ℚ} {session : Session} {sid version : Str} {b secretA c final : Bytes}
    {exchange : ExchangeResult}
    (unforged : s.Unforged ident hello (helloSignable P.toRuntime hello))
    (responds : Responds P (ident q) hello (ident p).publicCard config now after ack session sid b
      secretA exchange version c final) :
    ∃ opened, .initiated opened ∈ es ∧ opened.owner = p ∧ opened.card = (ident q).publicCard ∧
      HelloFrom P opened hello ∧ opened.handshake.sessionId = some session.sessionId := by
  rcases inv.hello_origin ids unforged responds.accepted rfl with
    ⟨n, opened, sid', exchange', found, rfl, initiated⟩
  rcases inv.opened found with ⟨event, authentic, -, -⟩
  rcases id initiated.made with ⟨sent, sent_eq, made⟩
  have sameHello := responds.accepted.sameHello made
  refine ⟨opened, event, rfl, authentic q sameHello.responder,
    ⟨sent, b, sent_eq, made.signable, responds.accepted.signable⟩, ?_⟩
  rw [sessionId_of_pending initiated.pending, responds.session_eq,
    ← sameHello.sessionId _ responds.sessionId]
  rfl

/-- Two calls that find one timestamp fresh are less than a time to live apart. -/
theorem marks_close {ts : ℤ} {checked marked checked' marked' : ℚ}
    (fresh : -MAX_AGE ≤ ⌊checked⌋ - ts) (order : checked ≤ marked)
    (fresh' : ⌊checked'⌋ - ts ≤ MAX_AGE) (fast : marked' ≤ checked' + CALL_SECONDS) :
    marked' < marked + NONCE_TTL := by
  have first : (ts : ℚ) ≤ ⌊checked⌋ + 30 := by
    have : ts ≤ ⌊checked⌋ + 30 := by unfold MAX_AGE at fresh; omega
    exact_mod_cast this
  have second : (⌊checked'⌋ : ℚ) ≤ ts + 30 := by
    have : ⌊checked'⌋ ≤ ts + 30 := by unfold MAX_AGE at fresh'; omega
    exact_mod_cast this
  have low := Int.floor_le checked
  have high := Int.lt_floor_add_one checked'
  unfold CALL_SECONDS at fast
  unfold NONCE_TTL
  linarith

/-- The mark a store has set on a HELLO stands in the way of the HELLO's next answer. -/
theorem Inv.hello_again (inv : Inv ident es s) {i j : ι} {hello hello' ack ack' : Dict}
    {card card' : PublicCard} {session session' : Session} {config : Option SessionConfig}
    {now after : ℚ}
    {sid version : Str} {b secretA c final : Bytes} {exchange : ExchangeResult} {store : S.State}
    (event : .responded m k i hello card ack session ∈ es) (reads : s.Reads m now after)
    (responds : Responds P (ident j) hello' card' config now after ack' session' sid b secretA
      exchange version c final)
    (marked : S.markUsed (s.store m k) (("hello:" : Str) ++ sid) NONCE_TTL after = (.ok true, store))
    (same : helloSignable P.toRuntime hello = helloSignable P.toRuntime hello') :
    hello.get? "timestamp" ≠ hello'.get? "timestamp" ∧ ∀ p, card ≠ (ident p).publicCard := by
  rcases inv.answered event with ⟨c', _, asked, replied, sid', b', _, _, _, _, first, order, -, -,
    held, origin⟩
  have bytes : b' = b := by
    have signable := first.accepted.signable
    rw [same, responds.accepted.signable] at signable
    exact (Except.ok.inj signable).symm
  subst bytes
  rcases helloSignable_eq_ok.mp first.accepted.signable with ⟨h, reads₁, bound₁⟩
  rcases helloSignable_eq_ok.mp responds.accepted.signable with ⟨h', reads₂, bound₂⟩
  cases HelloBytes.fields_inj (bindFields_inj bound₁ bound₂)
  have sids : sid' = sid := by
    rcases reads₂.sessionId with ⟨v, t, found, printed, encoded⟩
    rw [responds.sessionId] at found
    cases found
    cases printed
    exact reads₁.sessionId.eq_of_str first.sessionId encoded
  subst sids
  have late : replied + NONCE_TTL ≤ after :=
    Ttl.Guards.expired held reads.le (congrArg Prod.fst marked)
  refine ⟨fun stamps => ?_, fun p mine => ?_⟩
  · rcases first.accepted.fresh with ⟨v, ts, found, converted, young⟩
    rcases responds.accepted.fresh with ⟨v', ts', found', converted', young'⟩
    rw [stamps, found', Option.some.injEq] at found
    subst found
    rw [converted', Except.ok.injEq] at converted
    subst converted
    exact absurd late (not_le.mpr (marks_close young.1 order young'.2 reads.2.2))
  · rcases origin p mine with ⟨n, opened, _, _, -, -, initiated⟩
    rcases initiated.made with ⟨sent, -, made⟩
    have young := (first.accepted.sameHello made).age
    have young' := (responds.accepted.sameHello made).age
    exact absurd late (not_le.mpr (marks_close young.1 order young'.2 reads.2.2))

/-- The mark a store has set on an ACK stands in the way of the handshake's next completion. -/
theorem Inv.complete_again (ids : Function.Injective fun i => (ident i).entityId)
    (inv : Inv ident es s) {n : ℕ} {opened : OpenHandshake P ι μ} {p q : ι} {ack ack' : Dict}
    {card : PublicCard} {session session' : Session} {now after : ℚ} {c secretB final : Bytes}
    {pending : Pending P} {store : S.State}
    (event : .completed opened.machine k p n ack card session ∈ es)
    (found : s.handshakes[n]? = some opened) (reads : s.Reads opened.machine now after)
    (waits : opened.handshake.pending = .ok pending)
    (unforged : s.Unforged ident ack' (ackSignable P.toRuntime ack'))
    (completes : Completes P pending ack' (ident q).publicCard now after session' c secretB final)
    (marked : S.markUsed (s.store opened.machine k) (("ack:" : Str) ++ pending.sessionId) NONCE_TTL
      after = (.ok true, store)) : False := by
  rcases inv.finished event with ⟨o, sid, earlier, found', -, own, past, held⟩
  rw [found, Option.some.injEq] at found'
  subst found'
  rw [sessionId_of_pending waits, Option.some.injEq] at own
  subst own
  have late : earlier + NONCE_TTL ≤ after :=
    Ttl.Guards.expired held reads.le (congrArg Prod.fst marked)
  -- the ACK is fresh, its maker found the HELLO fresh, and the HELLO is no younger than `past`
  rcases inv.partner ids found waits unforged completes with ⟨_, _, _, _, _, _, asked, replied, _, _,
    _, _, _, -, fast, responds, -, initiated⟩
  rcases initiated.made with ⟨_, -, made⟩
  have helloAge := (responds.accepted.sameHello made).age.2
  have ackAge := (completes.accepted.sameAck responds.made).age.2
  have first : (⌊asked⌋ : ℚ) ≤ ⌊opened.started⌋ + 30 := by
    have : ⌊asked⌋ ≤ ⌊opened.started⌋ + 30 := by unfold MAX_AGE at helloAge; omega
    exact_mod_cast this
  have second : (⌊now⌋ : ℚ) ≤ ⌊replied⌋ + 30 := by
    have : ⌊now⌋ ≤ ⌊replied⌋ + 30 := by unfold MAX_AGE at ackAge; omega
    exact_mod_cast this
  have begun := Int.floor_le opened.started
  have asking := Int.lt_floor_add_one asked
  have replying := Int.floor_le replied
  have reading := Int.lt_floor_add_one now
  have quick := reads.2.2
  unfold CALL_SECONDS at fast quick
  unfold NONCE_TTL at late
  linarith

/-- Every run of the network is mutually authenticated. -/
theorem mutual_authentication [DecidableEq μ] [DecidableEq κ] (correct : P.ExchangeCorrect)
    (ids : Function.Injective fun i => (ident i).entityId) {clock : μ → ℚ}
    {store : μ → κ → S.State} (run : Run (Step ident) ⟨clock, store, [], []⟩ es s) :
    MutualAuthentication ident es s where
  completed := by
    intro before after m k p n ack session q split
    subst split
    rcases run.split_at with ⟨t, t', prior, step, rest⟩
    have inv := Run.inv ids prior
    cases step with
    | complete found reads authentic unforged completed =>
        rename_i opened _ _ _
        rcases inv.opened found with ⟨event, -, -, b, o, sid, exchange, found', -, initiated⟩
        rw [found, Option.some.injEq] at found'
        subst found'
        rcases completeSession_completes initiated.pending completed with
          ⟨c, secretB, final, completes, -⟩
        rcases inv.complete_agrees correct ids found initiated.pending unforged completes with
          ⟨m', k', hello, ack', theirs, config', target, answer, same, ends⟩
        have grows := ((Run.single (Step.complete found reads authentic unforged completed)).append
          rest)
        exact ⟨opened, sid, m', k', hello, ack', theirs, _, config',
          (Run.grows grows).handshakes found, event, rfl, target,
          sessionId_of_pending initiated.pending, answer, same, ends⟩
  responded := by
    intro before after m k q hello ack session p split
    subst split
    rcases run.split_at with ⟨t, t', prior, step, rest⟩
    have inv := Run.inv ids prior
    cases step with
    | respond reads authentic unforged answer signable =>
        rcases respondSession_responds answer with ⟨_, _, _, _, _, _, _, responds, -⟩
        exact inv.respond_origin ids unforged responds
  hello_once := by
    intro before between after m k i j hello hello' card card' ack ack' session session' split same
    subst split
    rw [List.append_cons, ← List.append_assoc] at run
    rcases run.split_at with ⟨t, t', prior, step, rest⟩
    have inv := Run.inv ids prior
    cases step with
    | respond reads authentic unforged answer signable =>
        rcases respondSession_responds answer with ⟨_, _, _, _, _, _, _, responds, marked⟩
        have event : NetworkEvent.responded m k i hello card ack session ∈
            before ++ [.responded m k i hello card ack session] ++ between := by simp
        exact inv.hello_again event reads responds marked same
  complete_once := by
    intro before between after m k p p' n n' card q ack ack' session session' split same
    subst split same
    rw [List.append_cons, ← List.append_assoc] at run
    rcases run.split_at with ⟨t, t', prior, step, rest⟩
    have inv := Run.inv ids prior
    cases step with
    | complete found reads authentic unforged completed =>
        rename_i opened _ _ _
        rcases inv.opened found with ⟨-, -, -, b, o, sid, exchange, found', -, initiated⟩
        rw [found, Option.some.injEq] at found'
        subst found'
        rcases completeSession_completes initiated.pending completed with
          ⟨c, secretB, final, completes, marked⟩
        have event : NetworkEvent.completed opened.machine k p n ack card session ∈
            before ++ [.completed opened.machine k p n ack card session] ++ between := by simp
        exact inv.complete_again ids event found reads initiated.pending unforged completes marked

/-! ## A network of two parties -/

def sampleIdentity (name : String) (x : UInt8) : Identity .transparent :=
  .generate .transparent name (.filled 32 x) (.filled 64 x)
    (.filled 32 x) (.filled 32 x)

/-- Alice is `false`, Bob is `true`. -/
def sampleParties (i : Bool) : Identity .transparent :=
  if i then sampleIdentity "bob" 2 else sampleIdentity "alice" 1

def sampleUuid : Uuid4 := .least

def sampleCoins : MessageCoins where
  exchange := ⟨.filled 32 3, .filled 32 4⟩
  signing := .filled 32 5

/-- Two machines at time 0 with one empty store each. -/
def sampleStart : Network .transparent MemoryNonceStore.nonceStore Bool Bool Unit :=
  ⟨fun _ => 0, fun _ _ => .empty, [], []⟩

theorem sampleParties_injective : Function.Injective fun i => (sampleParties i).entityId := by
  intro i j same
  cases i <;> cases j <;> first | rfl | exact absurd (Str.ofString_inj.mp same) (by decide)

theorem sampleParties_authentic (i : Bool) :
    Authentic sampleParties (sampleParties i).publicCard := by
  intro j same
  rw [sampleParties_injective same]

theorem sampleParties_keys {i j : Bool} (same : (sampleParties i).publicCard.publicKeys.signingPub =
    (sampleParties j).publicCard.publicKeys.signingPub) : i = j := by
  cases i <;> cases j <;> first | rfl | exact absurd same (by decide)

/-- A transparent signature shows whose it is. -/
theorem signedBy_transparent {message : Dict} {keys keys' : PublicKeys} {b : Bytes}
    (first : SignedBy .transparent message keys b)
    (second : SignedBy .transparent message keys' b) : keys.signingPub = keys'.signingPub := by
  have shows : ∀ {keys : PublicKeys} {c d : Val}, hybridVerify .transparent b c d keys = .ok true →
      fromHexVal c = .ok (keys.signingPub ++ b) := by
    intro keys c d verified
    unfold hybridVerify at verified
    split at verified
    · rename_i classical pqc readC readD
      rw [readC]
      split at verified
      · rename_i same
        exact congrArg Except.ok (beq_iff_eq.mp same)
      · cases verified
    · cases verified
    · cases verified
  rcases first with ⟨c, d, hc, hd, verified⟩
  rcases second with ⟨c', d', hc', hd', verified'⟩
  rw [hc, Option.some.injEq] at hc'
  subst hc'
  have same := (shows verified).symm.trans (shows verified')
  exact List.append_cancel_right (Except.ok.inj same)

/-- A message one party signed, with its bytes recorded, is not forged. -/
theorem sampleParties_unforged
    {s : Network .transparent MemoryNonceStore.nonceStore Bool Bool Unit} {message : Dict} {i : Bool}
    {b : Bytes} {signable : Except PyErr Bytes} (same : signable = .ok b)
    (signed : SignedBy .transparent message (sampleParties i).publicCard.publicKeys b)
    (known : ((sampleParties i).publicCard.publicKeys, b) ∈ s.signed) :
    s.Unforged sampleParties message signable := by
  intro j c found verified
  rw [same, Except.ok.injEq] at found
  subst found
  cases sampleParties_keys (signedBy_transparent signed verified)
  exact known

/-- The three calls of one handshake as a run, on machines whose clocks stand still. -/
theorem run_of_calls {ident : Bool → Identity P} (opened : OpenHandshake P Bool Bool)
    {start : S.State} {uuid : Uuid4} {coins coins' : MessageCoins} {config : Option SessionConfig}
    {hello ack : Dict} {mine theirs : Session} {b c : Bytes} {storeA storeB : S.State}
    (owner : opened.owner = false) (machine : opened.machine = false) (time : opened.started = 0)
    (authentic : ∀ i, Authentic ident (ident i).publicCard)
    (partner : opened.card = (ident true).publicCard)
    (began : Handshake.initiate P (ident false) (ident true).publicCard opened.config uuid 0 coins =
      .ok opened.handshake)
    (sent : opened.handshake.helloMsg = some hello)
    (signable : helloSignable P.toRuntime hello = .ok b)
    (helloUnforged : ∀ s : Network P S Bool Bool Unit,
      ((ident false).publicCard.publicKeys, b) ∈ s.signed →
        s.Unforged ident hello (helloSignable P.toRuntime hello))
    (answer : respondSession P S start (ident true) hello (ident false).publicCard config 0 0 coins' =
      (.ok (ack, theirs), storeB))
    (signable' : ackSignable P.toRuntime ack = .ok c)
    (ackUnforged : ∀ s : Network P S Bool Bool Unit,
      ((ident true).publicCard.publicKeys, c) ∈ s.signed →
        s.Unforged ident ack (ackSignable P.toRuntime ack))
    (completed : completeSession P S start opened.handshake ack (ident true).publicCard 0 0 =
      (.ok mine, storeA)) :
    ∃ s, Run (Step ident) ⟨fun _ => 0, fun _ (_ : Unit) => start, [], []⟩
      [.initiated opened, .responded true () true hello (ident false).publicCard ack theirs,
        .completed false () false 0 ack (ident true).publicCard mine] s := by
  rcases opened with ⟨_, _, _, config', _, hs⟩
  simp only at owner machine time partner began sent completed
  subst owner machine time partner
  have fast : (0 : ℚ) ≤ 0 + CALL_SECONDS := by norm_num [CALL_SECONDS]
  let s₀ : Network P S Bool Bool Unit := ⟨fun _ => 0, fun _ _ => start, [], []⟩
  let opened : OpenHandshake P Bool Bool := ⟨false, false, (ident true).publicCard, config', 0, hs⟩
  let s₁ := (s₀.begin opened).sign ident false b
  have first : Step ident s₀ (.initiated opened) s₁ :=
    .initiate le_rfl (authentic true) (fun _ mem => absurd mem List.not_mem_nil) began sent signable
  let s₂ := (s₁.touch true () 0 storeB).sign ident true c
  have second : Step ident s₁ (.responded true () true hello (ident false).publicCard ack theirs)
      s₂ :=
    .respond ⟨le_rfl, le_rfl, fast⟩ (authentic false) (helloUnforged s₁ List.mem_cons_self) answer
      signable'
  have found : s₂.handshakes[0]? = some opened := rfl
  have reads : s₂.Reads opened.machine 0 0 := ⟨le_rfl, le_rfl, fast⟩
  have untouched : s₂.store opened.machine () = start := rfl
  rw [← untouched] at completed
  have third := Step.complete found reads (authentic true)
    (ackUnforged s₂ (List.mem_append_right _ List.mem_cons_self)) completed
  exact ⟨_, ((Run.single first).snoc second).snoc third⟩

/-- Alice and Bob run one handshake: the run exists and is mutually authenticated. -/
theorem sample_handshake_authenticated : ∃ es s k n ack session,
    Run (Step sampleParties) sampleStart es s ∧
      .completed false k false n ack (sampleParties true).publicCard session ∈ es ∧
      MutualAuthentication sampleParties es s := by
  have floats : Str.printable ⌊(0 : ℚ)⌋ := by decide
  have timely : Timely 0 0 := by norm_num [Timely, MAX_AGE]
  have honest : HonestRun MemoryNonceStore.nonceStore (sampleParties false) (sampleParties true)
      sampleUuid 0 0 0 0 0 MemoryNonceStore.empty _ MemoryNonceStore.empty _ :=
    ⟨⟨_, Str.encode_ofString "alice", by decide⟩, ⟨_, Str.encode_ofString "bob", by decide⟩, floats,
      floats, timely, timely, rfl, rfl⟩
  rcases exists_honest_run Platform.transparent_exchange Platform.transparent_signature honest none
    sampleCoins sampleCoins with ⟨hs, hello, ack, mine, theirs, began, sent, answer, completed, -⟩
  rcases initiate_initiated began with ⟨exchange, b, initiated⟩
  rcases id initiated.made with ⟨hello', sent', made⟩
  rw [sent, Option.some.injEq] at sent'
  subst sent'
  rcases respondSession_responds answer with ⟨_, b', _, _, _, c, _, responds, -⟩
  rcases completeSession_completes initiated.pending completed with ⟨c', _, _, completes, -⟩
  have helloBytes : b' = b := Except.ok.inj (responds.accepted.signable.symm.trans made.signable)
  have ackBytes : c' = c :=
    Except.ok.inj (completes.accepted.signable.symm.trans responds.made.signable)
  subst helloBytes ackBytes
  rcases run_of_calls ⟨false, false, (sampleParties true).publicCard, none, 0, hs⟩ rfl rfl rfl
    sampleParties_authentic rfl began sent made.signable
    (fun s known => sampleParties_unforged made.signable responds.accepted.signed known) answer
    responds.made.signable
    (fun s known => sampleParties_unforged responds.made.signable completes.accepted.signed known)
    completed with ⟨s, run⟩
  exact ⟨_, s, (), 0, ack, mine, run, by simp,
    mutual_authentication Platform.transparent_exchange sampleParties_injective run⟩

end Network

end Uxsp
