import Uxsp.Client.Strict

/-!
# Calls that share a cache

Calls of a client overlap, in threads or in one event loop.  A call looks its host up and chooses
its way; when the answer is there it notes what the host has shown.  In between other calls choose
and note.

* `known_host_kept_iff`: a host that is known to speak the protocol keeps its sealed way exactly if
  no probe of it is under way that will note the contrary.
-/

namespace Uxsp.Client

open Secure

variable {P : Platform} {S : SeenStore}

/-! ## Calls under way -/

/-- A call that has chosen its way. -/
structure Underway (P : Platform) where
  call : FetchCall P
  hostKey : Str
  route : Route

/-- `fetch` behind its choice. -/
def finish {C : CapabilityCache} (m : Machine P) (client : UXSPClient P) (u : Underway P)
    (w : World C S) : Except PyErr UXSPResponse × World C S :=
  match u.route with
  | .plain => plainFetch m client u.call u.call.reply w
  | .uxsp card => uxspFetch m client u.call u.hostKey card w
  | .probe => probe m client u.call u.hostKey w

/-- A world with the cache in memory, and the calls under way. -/
structure Shared (P : Platform) (S : SeenStore) where
  world : World inMemoryHostCapabilityCache S
  underway : List (Underway P)

inductive SharedEvent (P : Platform)
  | chosen (u : Underway P)
  | refused (call : FetchCall P) (e : PyErr)
  | finished (u : Underway P) (result : Except PyErr UXSPResponse)
  | registered

/-- A call chooses, is refused or finishes, and a card is registered. -/
inductive SharedStep (m : Machine P) (client : UXSPClient P) (x : Shared P S) :
    SharedEvent P → Shared P S → Prop
  | choose {call : FetchCall P} {hostKey : Str} {route : Route}
      {cache : List (Str × HostCapability)} :
      plan m client call x.world = (.ok (hostKey, route), cache) →
      SharedStep m client x (.chosen ⟨call, hostKey, route⟩)
        ⟨{ x.world with cache := cache }, x.underway ++ [⟨call, hostKey, route⟩]⟩
  | refuse {call : FetchCall P} {e : PyErr} {cache : List (Str × HostCapability)} :
      plan m client call x.world = (.error e, cache) →
      SharedStep m client x (.refused call e) ⟨{ x.world with cache := cache }, x.underway⟩
  | finish {u : Underway P} (front back : List (Underway P)) : x.underway = front ++ u :: back →
      SharedStep m client x (.finished u (finish m client u x.world).1)
        ⟨(finish m client u x.world).2, front ++ back⟩
  | register (hostOrId : Str) (card : Card) :
      SharedStep m client x .registered ⟨registerPeer m hostOrId card x.world, x.underway⟩

variable {m : Machine P} {client : UXSPClient P} {x y : Shared P S} {h : Str} {T : ℚ}

/-- A call that nothing overlaps chooses and finishes. -/
theorem fetch_shared {call : FetchCall P} {w : World inMemoryHostCapabilityCache S} :
    ∃ es, Run (SharedStep m client) ⟨w, []⟩ es ⟨(fetch m client call w).2, []⟩ := by
  cases planned : plan m client call w with
  | mk result cache =>
      cases result with
      | error e =>
          have same : (fetch m client call w).2 = { w with cache := cache } := by
            rw [fetch, planned]
          rw [same]
          exact ⟨_, .single (.refuse planned)⟩
      | ok chosen =>
          obtain ⟨hostKey, route⟩ := chosen
          have same : fetch m client call w =
              finish m client ⟨call, hostKey, route⟩ { w with cache := cache } := by
            rw [fetch, planned]
            cases route <;> rfl
          rw [same]
          exact ⟨_, .cons (.choose planned) (.single (.finish [] [] rfl))⟩

/-! ## What a host is known for -/

/-- The cache says until `T` that the host speaks the protocol. -/
def Known (h : Str) (T : ℚ) (cache : List (Str × HostCapability)) : Prop :=
  ∃ cap, cache.lookup h = some cap ∧ cap.supportsUxsp = true ∧ T ≤ cap.cachedAt + cap.ttl

theorem lookup_noted {entries : List (Str × HostCapability)} {cap : HostCapability} :
    List.lookup h (Assoc.set entries h cap) = some cap := by
  rw [Assoc.lookup_set, if_pos (beq_self_eq_true _)]

theorem Known.noted {entries : List (Str × HostCapability)} {cap : HostCapability}
    (speaks : cap.supportsUxsp = true) (lasts : T ≤ cap.cachedAt + cap.ttl) :
    Known h T (Assoc.set entries h cap) :=
  ⟨cap, lookup_noted, speaks, lasts⟩

/-- What is noted of another host. -/
theorem Known.set {entries : List (Str × HostCapability)} {k : Str} {cap : HostCapability}
    (known : Known h T entries) (other : k ≠ h) : Known h T (Assoc.set entries k cap) := by
  obtain ⟨old, found, rest⟩ := known
  refine ⟨old, ?_, rest⟩
  rw [Assoc.lookup_set, if_neg]
  · exact found
  · rw [beq_iff_eq]
    exact other.symm

/-- The call will note that the host does not speak the protocol. -/
def Underway.Unlearns (m : Machine P) (client : UXSPClient P) (h : Str) (u : Underway P) : Prop :=
  u.hostKey = h ∧ u.route = .probe ∧ succeeded (plainContent m u.call) = true ∧
    canSend client u.call.url = true ∧ ∃ reply, u.call.reply = .ok reply ∧
      (probedCapability m u.call (plainResponse u.call reply)).supportsUxsp = false

/-- What a call of the host reads of the clock fits with `T`: it asks up to `T`, and what it notes
holds until `T` at least. -/
def SharedEvent.Timely (m : Machine P) (h : Str) (T : ℚ) : SharedEvent P → Prop
  | .chosen u => u.hostKey = h → u.call.now ≤ T
  | .refused call _ => normalizeHostKey m call.url = .ok h → call.now ≤ T
  | .finished u _ => u.hostKey = h → T ≤ u.call.cachedAt + 3600
  | .registered => True

/-- A call of the host has taken the sealed way. -/
def SharedEvent.Sealed (h : Str) : SharedEvent P → Prop
  | .chosen u => u.hostKey = h → ∃ card, u.route = .uxsp card
  | _ => True

/-! ## Choosing -/

section Plan

variable {call : FetchCall P} {w : World inMemoryHostCapabilityCache S} {k : Str}
  {result : Except PyErr (Str × Route)} {cache : List (Str × HostCapability)}

/-- A choice fails for want of a host, or follows what the cache has. -/
theorem plan_cases (planned : plan m client call w = (result, cache)) :
    (∃ e, normalizeHostKey m call.url = .error e ∧ result = .error e ∧ cache = w.cache) ∨
    ∃ k cap, normalizeHostKey m call.url = .ok k ∧
      inMemoryHostCapabilityCache.get w.cache k call.now = (.ok cap, cache) ∧
      result = Prod.mk k <$> route client call w.peerRegistry k cap := by
  unfold plan at planned
  split at planned
  · rename_i e named
    cases planned
    exact .inl ⟨e, named, rfl, rfl⟩
  · rename_i k named
    split at planned
    · rename_i e cache' got
      simp only [inMemoryHostCapabilityCache] at got
      split at got
      · cases got
      · split at got <;> cases got
    · rename_i cap cache' got
      cases planned
      exact .inr ⟨k, cap, named, got, rfl⟩

theorem plan_key {route : Route} (planned : plan m client call w = (.ok (k, route), cache)) :
    normalizeHostKey m call.url = .ok k := by
  rcases plan_cases planned with ⟨e, -, failed, -⟩ | ⟨k', cap, named, -, chosen⟩
  · cases failed
  · cases routed : Client.route client call w.peerRegistry k' cap with
    | error e =>
        rw [routed] at chosen
        cases chosen
    | ok r =>
        rw [routed] at chosen
        cases chosen
        exact named

theorem get_fresh {entries : List (Str × HostCapability)} {cap : HostCapability} {now : ℚ}
    (found : entries.lookup k = some cap) (fresh : now ≤ cap.cachedAt + cap.ttl) :
    inMemoryHostCapabilityCache.get entries k now = (.ok (some cap), entries) := by
  have young : cap.isExpired now = false := by
    rw [HostCapability.isExpired, decide_eq_false_iff_not, not_lt, sub_le_iff_le_add']
    exact fresh
  simp only [inMemoryHostCapabilityCache, found, young, Bool.false_eq_true, if_false]

theorem get_other {entries : List (Str × HostCapability)} {now : ℚ} (other : k ≠ h) :
    List.lookup h (inMemoryHostCapabilityCache.get entries k now).2 = entries.lookup h := by
  simp only [inMemoryHostCapabilityCache]
  split
  · rfl
  · split
    · rw [Assoc.lookup_erase, if_neg]
      rw [beq_iff_eq]
      exact other.symm
    · rfl

/-- Choosing leaves what is known. -/
theorem Known.plan (known : Known h T w.cache)
    (timely : normalizeHostKey m call.url = .ok h → call.now ≤ T)
    (planned : Client.plan m client call w = (result, cache)) : Known h T cache := by
  obtain ⟨cap, found, speaks, lasts⟩ := known
  rcases plan_cases planned with ⟨e, -, -, rfl⟩ | ⟨k, cap', named, got, -⟩
  · exact ⟨cap, found, speaks, lasts⟩
  · by_cases same : k = h
    · subst same
      rw [get_fresh found ((timely named).trans lasts)] at got
      cases got
      exact ⟨cap, found, speaks, lasts⟩
    · have still : List.lookup h (inMemoryHostCapabilityCache.get w.cache k call.now).2 =
          w.cache.lookup h := get_other same
      rw [got] at still
      exact ⟨cap, still.trans found, speaks, lasts⟩

/-- A call of a host that is known is sealed, unless it is refused. -/
theorem Known.sealed {route : Route} (known : Known h T w.cache) (timely : call.now ≤ T)
    (planned : Client.plan m client call w = (.ok (h, route), cache)) :
    ∃ card, route = .uxsp card := by
  obtain ⟨cap, found, speaks, lasts⟩ := known
  have named := plan_key planned
  rcases plan_cases planned with ⟨e, -, failed, -⟩ | ⟨k, cap', named', got, chosen⟩
  · cases failed
  · cases named.symm.trans named'
    rw [get_fresh found (timely.trans lasts)] at got
    cases got
    simp only [Client.route, Option.any_some, speaks, Bool.not_true, Bool.and_false, Bool.not_false,
      ensure, if_true, Bool.true_or, Bool.false_eq_true, if_false, bind, Except.bind] at chosen
    cases resolved : resolvePeerCard call w.peerRegistry h (some cap) with
    | error e =>
        rw [resolved] at chosen
        cases chosen
    | ok card? =>
        rw [resolved] at chosen
        cases card? with
        | none => cases chosen
        | some card =>
            cases chosen
            exact ⟨card, rfl⟩

end Plan

/-! ## Noting -/

section Note

variable {C : CapabilityCache} {w : World C S} {call : FetchCall P} {card : Card} {reply : Reply}

theorem readReply_cache : (readReply m client call card reply w).2.cache = w.cache := by
  unfold readReply
  split
  · split
    · rfl
    · split <;> rfl
  · rfl

/-- A fallback leaves the cache. -/
theorem uxspFetch_cache : (uxspFetch m client call h card w).2.cache =
    (sendUxsp m client call h card w).2.cache := by
  unfold uxspFetch
  split
  · rename_i answered
    rw [answered]
  · rename_i failed
    rw [failed]
    split
    · rfl
    · split <;> rfl

/-- What an answer to a sealed request leaves in the cache. -/
theorem sendUxsp_cache {w : World inMemoryHostCapabilityCache S} :
    (sendUxsp m client call h card w).2.cache = w.cache ∨ ∃ reply,
      (sendUxsp m client call h card w).2.cache =
        Assoc.set w.cache h (answeredCapability m call card reply) := by
  unfold sendUxsp
  split
  · exact .inl rfl
  · split
    · exact .inl rfl
    · rename_i reply sent _
      exact .inr ⟨reply, readReply_cache⟩

/-- What a probe that is answered leaves in the cache. -/
theorem probe_answered {w : World inMemoryHostCapabilityCache S}
    (content : succeeded (plainContent m call) = true) (sendable : canSend client call.url = true)
    (replied : call.reply = .ok reply) : (probe m client call h w).2.cache =
      Assoc.set w.cache h (probedCapability m call (plainResponse call reply)) := by
  have answered (headers : Headers) : (sendPlain m client call headers call.reply w.sent).1 =
      .ok (plainResponse call reply) :=
    sendPlain_eq_ok.mpr ⟨content, sendable, reply, replied, rfl⟩
  unfold probe
  simp only
  split
  · rename_i failed
    have here := answered (Assoc.set call.headers "Sec-UXSP-Support" "v1.2, ml-kem-768")
    rw [failed] at here
    cases here
  · rename_i response sent returned
    have here := answered (Assoc.set call.headers "Sec-UXSP-Support" "v1.2, ml-kem-768")
    rw [returned] at here
    cases here
    rfl

theorem probe_cache {w : World inMemoryHostCapabilityCache S} :
    (probe m client call h w).2.cache = w.cache ∨ ∃ reply,
      succeeded (plainContent m call) = true ∧ canSend client call.url = true ∧
      call.reply = .ok reply ∧ (probe m client call h w).2.cache =
        Assoc.set w.cache h (probedCapability m call (plainResponse call reply)) := by
  unfold probe
  simp only
  split
  · exact .inl rfl
  · rename_i response sent returned
    obtain ⟨content, sendable, reply, replied, rfl⟩ :=
      sendPlain_eq_ok.mp (congrArg Prod.fst returned)
    exact .inr ⟨reply, content, sendable, replied, rfl⟩

theorem probedCapability_facts (m : Machine P) (call : FetchCall P) (response : UXSPResponse) :
    (probedCapability m call response).cachedAt = call.cachedAt ∧
      (probedCapability m call response).ttl = 3600 ∧
      ((probedCapability m call response).supportsUxsp = false →
        (probedCapability m call response).peerId = none) := by
  unfold probedCapability
  split
  · exact ⟨rfl, rfl, fun _ => rfl⟩
  · exact ⟨rfl, rfl, fun _ => rfl⟩
  · refine ⟨rfl, rfl, fun unable => ?_⟩
    cases unable

/-- A call notes nothing, or that its host speaks the protocol, unless it unlearns it. -/
theorem finish_cache (m : Machine P) (client : UXSPClient P) (u : Underway P)
    (w : World inMemoryHostCapabilityCache S) :
    (finish m client u w).2.cache = w.cache ∨ ∃ cap,
      (finish m client u w).2.cache = Assoc.set w.cache u.hostKey cap ∧
      cap.cachedAt = u.call.cachedAt ∧ cap.ttl = 3600 ∧
      (cap.supportsUxsp = true ∨ u.Unlearns m client u.hostKey) := by
  obtain ⟨call, hostKey, route⟩ := u
  cases route with
  | plain => exact .inl rfl
  | uxsp card =>
      have answered : (sendUxsp m client call hostKey card w).2.cache = w.cache ∨ ∃ reply,
          (sendUxsp m client call hostKey card w).2.cache =
            Assoc.set w.cache hostKey (answeredCapability m call card reply) := sendUxsp_cache
      rw [← uxspFetch_cache] at answered
      rcases answered with same | ⟨reply, noted⟩
      · exact .inl same
      · exact .inr ⟨_, noted, rfl, rfl, .inl rfl⟩
  | probe =>
      have answered : (probe m client call hostKey w).2.cache = w.cache ∨ ∃ reply,
          succeeded (plainContent m call) = true ∧ canSend client call.url = true ∧
          call.reply = .ok reply ∧ (probe m client call hostKey w).2.cache =
            Assoc.set w.cache hostKey (probedCapability m call (plainResponse call reply)) :=
        probe_cache
      rcases answered with same | ⟨reply, content, sendable, replied, noted⟩
      · exact .inl same
      · obtain ⟨read, lasting, -⟩ := probedCapability_facts m call (plainResponse call reply)
        refine .inr ⟨_, noted, read, lasting, ?_⟩
        cases shown : (probedCapability m call (plainResponse call reply)).supportsUxsp with
        | true => exact .inl rfl
        | false => exact .inr ⟨rfl, rfl, content, sendable, reply, replied, shown⟩

/-- What a probe that unlearns its host leaves in the cache. -/
theorem Underway.Unlearns.noted {u : Underway P} {w : World inMemoryHostCapabilityCache S}
    (unlearns : u.Unlearns m client h) :
    ∃ cap, List.lookup h (finish m client u w).2.cache = some cap ∧
      cap.supportsUxsp = false ∧ cap.peerId = none ∧
      cap.cachedAt + cap.ttl = u.call.cachedAt + 3600 := by
  obtain ⟨own, probing, content, sendable, reply, replied, unable⟩ := unlearns
  obtain ⟨read, lasting, anonymous⟩ :=
    probedCapability_facts m u.call (plainResponse u.call reply)
  refine ⟨_, ?_, unable, anonymous unable, by rw [read, lasting]⟩
  rw [finish, probing, own, probe_answered content sendable replied]
  exact lookup_noted

end Note

/-! ## Runs -/

/-- The host is known, and no probe of it under way will unlearn it. -/
structure Safe (m : Machine P) (client : UXSPClient P) (h : Str) (T : ℚ) (x : Shared P S) :
    Prop where
  known : Known h T x.world.cache
  probes : ∀ u ∈ x.underway, u.Unlearns m client h → u.call.cachedAt + 3600 < T

/-- Beside a call that finishes, the calls are under way as before. -/
theorem mem_of_beside {us front back : List (Underway P)} {u v : Underway P}
    (here : us = front ++ u :: back) (mem : v ∈ front ++ back) : v ∈ us :=
  here ▸ ((List.sublist_cons_self u back).append_left front).subset mem

theorem Safe.step {e : SharedEvent P} (safe : Safe m client h T x)
    (step : SharedStep m client x e y) (timely : e.Timely m h T) :
    Safe m client h T y ∧ e.Sealed h := by
  obtain ⟨known, probes⟩ := safe
  cases step with
  | @choose call hostKey route cache planned =>
      have named := plan_key planned
      have sealedWay : hostKey = h → ∃ card, route = .uxsp card := by
        rintro rfl
        exact known.sealed (timely rfl) planned
      refine ⟨⟨known.plan (fun here => timely ?_) planned, fun u mem unlearns => ?_⟩, sealedWay⟩
      · exact Except.ok.inj (named.symm.trans here)
      · rcases List.mem_append.mp mem with old | new
        · exact probes u old unlearns
        · cases List.mem_singleton.mp new
          obtain ⟨here, probe, -⟩ := unlearns
          obtain ⟨card, sealedRoute⟩ := sealedWay here
          cases probe.symm.trans sealedRoute
  | refuse planned => exact ⟨⟨known.plan timely planned, probes⟩, trivial⟩
  | @finish u front back here =>
      have others : ∀ v ∈ front ++ back, v.Unlearns m client h → v.call.cachedAt + 3600 < T :=
        fun v mem => probes v (mem_of_beside here mem)
      refine ⟨⟨?_, others⟩, trivial⟩
      rcases finish_cache m client u x.world with same | ⟨cap, noted, read, lasting, shown⟩
      · exact same ▸ known
      · by_cases own : u.hostKey = h
        · subst own
          have lasts : T ≤ cap.cachedAt + cap.ttl := by
            rw [read, lasting]
            exact timely rfl
          rcases shown with speaks | unlearns
          · exact noted ▸ Known.noted speaks lasts
          · have early := probes u (here ▸ List.mem_append_right _ List.mem_cons_self) unlearns
            exact absurd (timely rfl) (not_le.mpr early)
        · exact noted ▸ known.set own
  | register => exact ⟨⟨known, probes⟩, trivial⟩

/-- A call under way is of the host of its URL. -/
theorem named_of_run {w : World inMemoryHostCapabilityCache S} {es : List (SharedEvent P)}
    (run : Run (SharedStep m client) ⟨w, []⟩ es x) :
    ∀ u ∈ x.underway, normalizeHostKey m u.call.url = .ok u.hostKey := by
  refine run.invariant (I := fun x : Shared P S =>
    ∀ u ∈ x.underway, normalizeHostKey m u.call.url = .ok u.hostKey) ?_
    (fun u mem => absurd mem List.not_mem_nil)
  intro x e y named step
  cases step with
  | choose planned =>
      intro u mem
      rcases List.mem_append.mp mem with old | new
      · exact named u old
      · cases List.mem_singleton.mp new
        exact plan_key planned
  | refuse => exact named
  | finish front back here => exact fun v mem => named v (mem_of_beside here mem)
  | register => exact named

/-- A call of the same URL that neither forces the protocol nor brings a card. -/
def FetchCall.unforced (call : FetchCall P) (T : ℚ) : FetchCall P :=
  { call with now := T, forceUxsp := some false, peerId := none, peerCard := none }

/-- A host that is known not to speak the protocol is sent plain requests. -/
theorem plan_unforced {w : World inMemoryHostCapabilityCache S} {call : FetchCall P}
    {cap : HostCapability} (named : normalizeHostKey m call.url = .ok h)
    (found : List.lookup h w.cache = some cap) (fresh : T ≤ cap.cachedAt + cap.ttl)
    (unable : cap.supportsUxsp = false) (anonymous : cap.peerId = none) :
    plan m client (call.unforced T) w = (.ok (h, .plain), w.cache) := by
  have resolved : ∃ card?, resolvePeerCard (call.unforced T) w.peerRegistry h (some cap) =
      .ok card? := by
    simp only [resolvePeerCard, FetchCall.unforced, peerById, Option.bind_some, anonymous, bind,
      Except.bind, pure, Except.pure]
    cases w.peerRegistry.lookup h with
    | none => exact ⟨_, rfl⟩
    | some card => exact ⟨_, rfl⟩
  obtain ⟨card?, resolved⟩ := resolved
  have named' : normalizeHostKey m (call.unforced T).url = .ok h := named
  have got : inMemoryHostCapabilityCache.get w.cache h (call.unforced T).now =
      (.ok (some cap), w.cache) := get_fresh found fresh
  have unforced : client.forces (call.unforced T) = false := rfl
  simp only [plan, named', got, route, unforced, Bool.false_and, Bool.not_false, ensure, if_true,
    resolved, Option.any_some, unable, bind, Except.bind, pure, Except.pure]
  rfl

/-- A host is known to speak the protocol until `T`.  Whatever its calls are answered, every later
call of it takes the sealed way or is refused, exactly if no probe of the host is under way that
will note the contrary until `T` at least. -/
theorem known_host_kept_iff {w : World inMemoryHostCapabilityCache S} {es : List (SharedEvent P)}
    (run : Run (SharedStep m client) ⟨w, []⟩ es x) (known : Known h T x.world.cache) :
    (∀ es y, Run (fun a e b => SharedStep m client a e b ∧ e.Timely m h T) x es y →
      ∀ e ∈ es, e.Sealed h) ↔
    ∀ u ∈ x.underway, u.Unlearns m client h → u.call.cachedAt + 3600 < T := by
  constructor
  · intro always u mem unlearns
    by_contra late
    obtain ⟨front, back, here⟩ := List.append_of_mem mem
    -- The probe finishes, and a call of the same URL then finds the host unable.
    obtain ⟨cap, found, unable, anonymous, lasts⟩ := unlearns.noted (w := x.world)
    have planned : plan m client (u.call.unforced T) (finish m client u x.world).2 =
        (.ok (h, .plain), (finish m client u x.world).2.cache) :=
      plan_unforced (unlearns.1 ▸ named_of_run run u mem) found (lasts ▸ not_lt.mp late) unable
        anonymous
    have finished : SharedStep m client x (.finished u (finish m client u x.world).1)
        ⟨(finish m client u x.world).2, front ++ back⟩ := .finish front back here
    have chosen : SharedStep m client ⟨(finish m client u x.world).2, front ++ back⟩
        (.chosen ⟨u.call.unforced T, h, .plain⟩) _ := .choose planned
    have plain := always _ _ (.cons ⟨finished, fun _ => not_lt.mp late⟩
      (.single ⟨chosen, fun _ => le_rfl⟩)) _ (List.mem_cons_of_mem _ List.mem_cons_self) rfl
    obtain ⟨card, same⟩ := plain
    cases same
  · intro probes es y run
    have inv := run.history (I := fun es y => Safe m client h T y ∧ ∀ e ∈ es, e.Sealed h) ?_
      ⟨⟨known, probes⟩, fun e mem => absurd mem List.not_mem_nil⟩
    · exact inv.2
    · rintro es a e b ⟨safe, sealedSoFar⟩ ⟨step, timely⟩
      obtain ⟨safe', last⟩ := safe.step step timely
      refine ⟨safe', fun f mem => ?_⟩
      rcases List.mem_append.mp mem with old | new
      · exact sealedSoFar f old
      · exact List.mem_singleton.mp new ▸ last

/-! Two probes of a host overlap.  The answer to the first says that the host speaks the protocol,
the answer to the second does not. -/

def sampleLenient : UXSPClient .textual :=
  { sampleClient with forceUxsp := false }

def sampleProbe (headers : Headers) : Underway .textual where
  call := { sampleFetch (.ok ⟨200, headers, []⟩) with peerCard := none }
  hostKey := "h:443"
  route := .probe

def sampleSpeaks : Underway .textual := sampleProbe [("sec-uxsp-selected", "v1.2")]

def sampleSilent : Underway .textual := sampleProbe []

theorem sampleProbe_plan (headers : Headers) :
    plan sampleMachine sampleLenient (sampleProbe headers).call sampleWorld =
      (.ok ("h:443", .probe), []) := rfl

/-- The second probe makes the client forget what the first has shown. -/
theorem sample_known_host_forgotten : ∃ es x, Run (SharedStep sampleMachine sampleLenient)
    ⟨sampleWorld, []⟩ es x ∧ Known "h:443" 4600 x.world.cache ∧
    ¬ ∀ es y, Run (fun a e b => SharedStep sampleMachine sampleLenient a e b ∧
        e.Timely sampleMachine "h:443" 4600) x es y → ∀ e ∈ es, e.Sealed "h:443" := by
  have run : Run (SharedStep sampleMachine sampleLenient) ⟨sampleWorld, []⟩ _
      ⟨(finish sampleMachine sampleLenient sampleSpeaks sampleWorld).2, [sampleSilent]⟩ :=
    .cons (.choose (sampleProbe_plan [("sec-uxsp-selected", "v1.2")]))
      (.cons (.choose (sampleProbe_plan [])) (.single (.finish [] [sampleSilent] rfl)))
  have known : Known "h:443" 4600
      (finish sampleMachine sampleLenient sampleSpeaks sampleWorld).2.cache :=
    ⟨⟨true, some "v1.2", none, 1000, 3600⟩, rfl, rfl, by norm_num⟩
  refine ⟨_, _, run, known, fun kept => ?_⟩
  have early := (known_host_kept_iff run known).mp kept sampleSilent (List.mem_singleton_self _)
    ⟨rfl, rfl, rfl, rfl, _, rfl, rfl⟩
  norm_num [sampleSilent, sampleProbe, sampleFetch] at early

end Uxsp.Client
