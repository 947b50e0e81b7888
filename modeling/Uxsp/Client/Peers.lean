import Uxsp.Client.Strict
import Uxsp.Client.Url

/-!
# Registered peers

`register_peer` files a card under the name in lower case.  A card is looked up by a peer id as it
is given, and by the key of the host of a URL.  `registered_peer_found_iff` says under which names a
registered card is found, whatever the client does between the registration and the lookup.
-/

namespace Uxsp.Client

open Secure Chunking

variable {P : Platform} {C : CapabilityCache} {S : SeenStore} {m : Machine P}
  {client : UXSPClient P} {call : FetchCall P} {w w' : World C S} {key : Str} {card : Card}
  {registry : List (Str × Card)} {cap : Option HostCapability}

/-! ## The registry -/

theorem readReply_peerRegistry {reply : Reply} :
    (readReply m client call card reply w).2.peerRegistry = w.peerRegistry := by
  unfold readReply
  split
  · split
    · rfl
    · split <;> rfl
  · rfl

theorem sendUxsp_peerRegistry :
    (sendUxsp m client call key card w).2.peerRegistry = w.peerRegistry := by
  unfold sendUxsp
  split
  · rfl
  · split
    · rfl
    · split
      · rfl
      · exact readReply_peerRegistry

theorem uxspFetch_peerRegistry :
    (uxspFetch m client call key card w).2.peerRegistry = w.peerRegistry := by
  have sent : (sendUxsp m client call key card w).2.peerRegistry = w.peerRegistry :=
    sendUxsp_peerRegistry
  unfold uxspFetch
  split
  · rename_i response w' same
    rw [same] at sent
    exact sent
  · rename_i e w' same
    rw [same] at sent
    split
    · exact sent
    · split
      · exact sent
      · exact sent

theorem probe_peerRegistry : (probe m client call key w).2.peerRegistry = w.peerRegistry := by
  unfold probe
  simp only
  split
  · rfl
  · split <;> rfl

/-- A call of `fetch` leaves the registry as it is. -/
theorem fetch_peerRegistry : (fetch m client call w).2.peerRegistry = w.peerRegistry := by
  unfold fetch
  split
  · rfl
  · rfl
  · exact uxspFetch_peerRegistry
  · exact probe_peerRegistry

/-- No card is registered for a name, in whatever case. -/
def Unregistered (m : Machine P) (name : Str) (es : List (Event P C S)) : Prop :=
  ∀ other card, Event.registerPeer other card ∈ es →
    m.site.codecs.lower other ≠ m.site.codecs.lower name

theorem Step.lookup {e : Event P C S} (step : Step m client w e w')
    (other : ∀ name card, e = .registerPeer name card → m.site.codecs.lower name ≠ key) :
    w'.peerRegistry.lookup key = w.peerRegistry.lookup key := by
  cases step with
  | registerPeer name card =>
      show (Assoc.set _ _ _).lookup key = _
      rw [Assoc.lookup_set, if_neg]
      rw [beq_iff_eq]
      exact (other name card rfl).symm
  | fetch call => rw [fetch_peerRegistry]

/-- A card stays registered until another one is registered for its name. -/
theorem lookup_of_run {name : Str} {es : List (Event P C S)} (run : Run (Step m client) w es w')
    (later : Unregistered m name es) : w'.peerRegistry.lookup (m.site.codecs.lower name) =
      w.peerRegistry.lookup (m.site.codecs.lower name) := by
  induction run with
  | nil => rfl
  | snoc _ last ih =>
      rw [last.lookup fun other card here => later other card ?_, ih ?_]
      · exact fun other card mem => later other card (List.mem_append_left _ mem)
      · exact here ▸ List.mem_append_right _ (List.mem_singleton_self _)

/-! ## Lookups -/

/-- The card that `fetch` resolves for the host of its URL. -/
def fetchedCard (m : Machine P) (call : FetchCall P) (registry : List (Str × Card))
    (cap : Option HostCapability) : Except PyErr (Option Card) := do
  let hostKey ← normalizeHostKey m call.url
  resolvePeerCard call registry hostKey cap

/-- A host that speaks the protocol is sent a package for the card that is resolved. -/
theorem plan_of_fetchedCard {cache : C.State} (named : normalizeHostKey m call.url = .ok key)
    (get : C.get w.cache key call.now = (.ok cap, cache))
    (speaks : cap.any (·.supportsUxsp) = true)
    (found : fetchedCard m call w.peerRegistry cap = .ok (some card)) :
    plan m client call w = (.ok (key, .uxsp card), cache) := by
  have resolved : resolvePeerCard call w.peerRegistry key cap = .ok (some card) := by
    rw [fetchedCard, named] at found
    exact found
  cases cap with
  | none => cases speaks
  | some cap =>
      have way : route client call w.peerRegistry key (some cap) = .ok (.uxsp card) := by
        rw [route, resolved]
        simp only [Option.any_some, show cap.supportsUxsp = true from speaks]
        cases client.forces call <;> rfl
      rw [plan, named]
      simp only [get, way]
      rfl

/-- A way to ask for a registered peer. -/
inductive Lookup (L : UrlLibrary)
  /-- The name is passed as `peer_id`. -/
  | peerId
  /-- A URL is fetched. -/
  | url (u : Url L)

variable {L : UrlLibrary}

/-- What is looked up is what the name is of: a URL, a host or `host:port` names a host and a port,
443 if it says no other. -/
def Lookup.Concerns (name : Str) : Lookup L → Prop
  | .peerId => True
  | .url u => (∃ v : Url L, name = v.text ∧ v.origin = u.origin) ∨
      ∃ a : Authority L, name = a.text ∧ a.origin 443 = u.origin

/-- What holds of the registry whenever a card has been registered for a name and no other one
since. -/
def AfterRegistering (m : Machine P) (client : UXSPClient P) (name : Str) (card : Card)
    (found : List (Str × Card) → Prop) : Prop :=
  ∀ (C : CapabilityCache) (S : SeenStore) (w w' : World C S) (es : List (Event P C S)),
    Run (Step m client) (registerPeer m name card w) es w' → Unregistered m name es →
      found w'.peerRegistry

/-- A card is what a registry gives for a name. -/
def Lookup.Answers (m : Machine P) (name : Str) (card : Card) (registry : List (Str × Card)) :
    Lookup L → Prop
  | .peerId => ∀ (call : FetchCall P) (hostKey : Str) (cap : Option HostCapability),
      call.peerCard = none → call.peerId = some name →
        resolvePeerCard call registry hostKey cap = .ok (some card)
  | .url u => ∀ (call : FetchCall P) (cap : Option HostCapability), call.peerCard = none →
      call.peerId = none → call.url = u.text → fetchedCard m call registry cap = .ok (some card)

/-- The registered card is found. -/
def Lookup.Finds (m : Machine P) (client : UXSPClient P) (name : Str) (card : Card)
    (look : Lookup L) : Prop :=
  AfterRegistering m client name card fun registry => look.Answers m name card registry

/-- The name in lower case is what is looked up: the id itself, or the host with its port; the
scheme stands for the host where it is not written in lower case. -/
def Lookup.Spelled (m : Machine P) (name : Str) : Lookup L → Prop
  | .peerId => name ≠ [] ∧ m.site.codecs.lower name = name
  | .url u => m.site.codecs.lower name =
      if u.LowerCase then hostKey (lowerAscii u.authority.host.text) u.port
      else hostKey u.scheme.name 443

theorem lookup_registerPeer (name : Str) (card : Card) (w : World C S) :
    (registerPeer m name card w).peerRegistry.lookup (m.site.codecs.lower name) = some card := by
  show (Assoc.set _ _ _).lookup _ = _
  rw [Assoc.lookup_set, if_pos (beq_self_eq_true _)]

/-- After a registration the card is in the registry under the name in lower case. -/
theorem afterRegistering_lookup {name : Str} {found : List (Str × Card) → Prop}
    (enough : ∀ registry, registry.lookup (m.site.codecs.lower name) = some card → found registry) :
    AfterRegistering m client name card found := by
  intro C S w w' es run later
  refine enough w'.peerRegistry ?_
  rw [lookup_of_run run later, lookup_registerPeer]

/-- A call of `fetch` without a body and without a card. -/
def bareFetch (P : Platform) (url : Str) (peerId : Option Str) : FetchCall P where
  url := url
  data := .value .none
  json := .none
  jsonData := .none
  method := "GET"
  headers := []
  peerId := peerId
  peerCard := none
  allowFallback := none
  forceUxsp := none
  keystore := fun _ => .ok none
  now := 1000
  cachedAt := 1000
  sending := ⟨1000, 1000, sampleCoins⟩
  receiving := sampleReadings
  freshKey := .filled 32 0
  freshId := .filled 16 0
  reply := .error ⟨.osError, ["Connection refused"]⟩
  fallbackReply := .error ⟨.osError, ["Connection refused"]⟩

/-- The registry of a client that has registered one card is asked. -/
theorem AfterRegistering.first {name : Str} {found : List (Str × Card) → Prop}
    (after : AfterRegistering m client name card found) :
    found [(m.site.codecs.lower name, card)] :=
  after inMemoryHostCapabilityCache MemoryNonceStore.seenStore sampleWorld _ [] .nil
    (fun _ _ mem => nomatch mem)

theorem lookup_singleton {κ ν : Type} [BEq κ] [LawfulBEq κ] {k k' : κ} {v : ν} (other : k' ≠ k) :
    List.lookup k' [(k, v)] = none := by
  rw [Assoc.lookup_cons_ite, if_neg (mt eq_of_beq other)]
  rfl

/-- A call without a card, a peer id and a known host looks up the key of the host. -/
theorem resolvePeerCard_bare (noCard : call.peerCard = none) (noId : call.peerId = none)
    (found : registry.lookup key = some card) :
    resolvePeerCard call registry key cap = .ok (some card) := by
  rw [resolvePeerCard, noCard, noId, found]
  rfl

/-- A registry with the card under the name in lower case gives it for a name so spelled. -/
theorem Lookup.Spelled.answers {name : Str} {look : Lookup L} (spelled : look.Spelled m name)
    (reads : m.ReadsUrls L) (found : registry.lookup (m.site.codecs.lower name) = some card) :
    look.Answers m name card registry := by
  cases look with
  | peerId =>
      obtain ⟨filled, lowered⟩ := spelled
      intro call key cap noCard id
      rw [lowered] at found
      cases name with
      | nil => exact absurd rfl filled
      | cons c rest =>
          rw [resolvePeerCard, noCard, id]
          simp only [peerById, found]
          rfl
  | url u =>
      intro call cap noCard noId url
      rw [fetchedCard, url, u.normalizeHostKey_eq reads]
      have same : m.site.codecs.lower name = _ := spelled
      refine resolvePeerCard_bare noCard noId ?_
      rw [← same]
      exact found

/-- A registry with that card alone gives it for no other name. -/
theorem Lookup.Answers.spelled {name : Str} {look : Lookup L} (reads : m.ReadsUrls L)
    (answers : look.Answers m name card [(m.site.codecs.lower name, card)]) :
    look.Spelled m name := by
  cases look with
  | peerId =>
      have apart : m.site.codecs.lower name ++ [COLON] ≠ m.site.codecs.lower name := by
        intro same
        exact absurd (congrArg List.length same) (by simp)
      have answer := answers (bareFetch P [] (some name)) (m.site.codecs.lower name ++ [COLON])
        none rfl rfl
      rw [resolvePeerCard, lookup_singleton apart] at answer
      cases name with
      | nil => cases answer
      | cons c rest =>
          refine ⟨List.cons_ne_nil c rest, ?_⟩
          by_contra other
          simp only [bareFetch, peerById, lookup_singleton (Ne.symm other)] at answer
          cases answer
  | url u =>
      by_contra other
      have answer := answers (bareFetch P u.text none) none rfl rfl rfl
      have named : normalizeHostKey m (bareFetch P u.text none).url = _ :=
        u.normalizeHostKey_eq reads
      rw [fetchedCard, named] at answer
      have bare : resolvePeerCard (bareFetch P u.text none) [(m.site.codecs.lower name, card)] _
          none = .ok (some card) := answer
      rw [resolvePeerCard, lookup_singleton (Ne.symm other)] at bare
      cases bare

/-- A registered card is found if its name in lower case is what is looked up, and only then. -/
theorem registered_peer_found_iff (reads : m.ReadsUrls L) (name : Str) (card : Card)
    (look : Lookup L) : look.Finds m client name card ↔ look.Spelled m name := by
  constructor
  · exact fun finds => finds.first.spelled reads
  · exact fun spelled => afterRegistering_lookup fun registry found => spelled.answers reads found

/-- A host is found under its name only with its port behind it, as it is printed. -/
theorem spelled_host_iff (reads : m.ReadsUrls L) {a : Authority L} {u : Url L}
    (name : a.host.bracketed = false) (lower : u.LowerCase) (same : a.origin 443 = u.origin) :
    (Lookup.url u).Spelled m a.text ↔ a.port = some (Str.ofInt u.port) := by
  have host : lowerAscii a.host.text = lowerAscii u.authority.host.text := congrArg Origin.host same
  have written : a.host.written = a.host.text := by
    cases shape : a.host with
    | name text plain whole => rfl
    | literal text plain valid =>
        rw [shape] at name
        cases name
  have ascii : (a.text.all fun c => c.val < 128) = true := by
    rw [List.all_eq_true]
    intro c mem
    rcases Authority.mem_text mem with plain | ⟨literal, _⟩
    · exact decide_eq_true (visible_of_netlocChar (isNetlocChar_of_plain plain)).2
    · rw [name] at literal
      cases literal
  have lowered : m.site.codecs.lower a.text =
      lowerAscii u.authority.host.text ++ portText a.port := by
    rw [reads.lower_eq, reads.lowers _ ascii, Authority.text, written, lowerAscii_append, host]
    refine congrArg _ ?_
    refine (List.map_congr_left fun c mem => ?_).trans (List.map_id _)
    have small : c.val ≤ 58 := by
      rcases mem_portText mem with rfl | ⟨s, here, inside⟩
      · decide
      · have digit := (a.valid s here).digits c inside
        simp only [isDigit, Bool.and_eq_true, decide_eq_true_eq] at digit
        omega
    exact dif_neg (by omega)
  show m.site.codecs.lower a.text = (if u.LowerCase then _ else _) ↔ _
  rw [lowered, if_pos lower, hostKey, List.append_assoc, List.append_cancel_left_eq]
  cases a.port with
  | none =>
      refine iff_of_false (fun text => ?_) (fun port => ?_)
      · cases text
      · cases port
  | some digits =>
      rw [portText, Option.some.injEq]
      exact ⟨fun text => (List.cons.inj text).2, fun text => congrArg _ text⟩

/-! A card registered under `host:port`, and one under an id with a capital. -/

theorem host_and_port_spelled :
    (Lookup.url firstUrlRespelled).Spelled urlMachine "A.example:80" := by
  have lower : firstUrlRespelled.LowerCase := by decide
  show lowerAscii _ = if firstUrlRespelled.LowerCase then _ else _
  rw [if_pos lower]
  decide +kernel

theorem registered_peer_sample : (Lookup.url firstUrlRespelled).Finds urlMachine sampleClient
    "A.example:80" sampleRecipient.card :=
  (registered_peer_found_iff urlMachine_reads _ _ _).mpr host_and_port_spelled

/-- A card is not found under the very id that it was registered for. -/
theorem capital_id_not_found : ¬ ∀ (P : Platform) (m : Machine P) (L : UrlLibrary)
    (client : UXSPClient P) (name : Str) (card : Card) (look : Lookup L), m.ReadsUrls L →
      look.Concerns name → look.Finds m client name card := by
  intro always
  have finds := always _ urlMachine _ sampleClient "Server" sampleRecipient.card .peerId
    urlMachine_reads trivial
  have lowered : lowerAscii (Str.ofString "Server") ≠ Str.ofString "Server" := by decide
  exact lowered (finds.first.spelled urlMachine_reads).2

end Uxsp.Client
