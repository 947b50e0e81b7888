import Uxsp.Client.SyncClient
import Uxsp.Lib.Run
import Uxsp.Secure.Downloads

/-!
# What a strict client lets out and lets in

A call is strict if it forces the protocol or allows no fallback.  `strict_fetches` says of every
strict call in a sequence of calls when its body stays secret and what it returns comes from the
peer.
-/

namespace Uxsp.Client

open Secure

variable {P : Platform} {C : CapabilityCache} {S : SeenStore} {m : Machine P}
  {client : UXSPClient P} {call : FetchCall P} {w w' : World C S} {hostKey : Str} {card : Card}
  {reply : Reply} {response : UXSPResponse} {headers : Headers}

def UXSPClient.strict (client : UXSPClient P) (call : FetchCall P) : Bool :=
  client.forces call || !client.allows call

/-- The response was decrypted, and authenticated as coming from the resolved peer. -/
def Authentic (m : Machine P) (client : UXSPClient P) (call : FetchCall P) (S : SeenStore)
    (card : Card) (response : UXSPResponse) : Prop :=
  response.isUxsp = true ∧ ∃ package receipt seen seen' tree,
    receiveReply (S := S) m client call card package seen tree = (.ok receipt, seen') ∧
    response.package = some package ∧ response.data = some receipt.item

/-- Nothing that was sent shows the body, and what is returned comes from the peer. -/
structure Protected (m : Machine P) (client : UXSPClient P) (call : FetchCall P) (w : World C S)
    (result : Except PyErr UXSPResponse) (w' : World C S) : Prop where
  hidden : ∀ x ∈ w'.sent.drop w.sent.length, x.carries ≠ .plaintext
  authentic : ∀ response, result = .ok response →
    ∃ hostKey card, (plan m client call w).1 = .ok (hostKey, .uxsp card) ∧
      Authentic m client call S card response

/-- The reply is marked as a package; it is opened, or the client refuses it. -/
def Welcome (m : Machine P) (client : UXSPClient P) (call : FetchCall P) (card : Card)
    (reply : Reply) (w : World C S) : Prop :=
  isUxspResponse m reply = true ∧
    (succeeded (openReply m client call card reply w.seen w.tree).1 = true ∨
      client.allowFallback = false)

/-- The sealed request goes out, and the reply to it is taken note of. -/
def Answered (m : Machine P) (client : UXSPClient P) (call : FetchCall P) (hostKey : Str)
    (card : Card) (reply : Reply) (w : World C S) : Prop :=
  succeeded (sealRequest m client call card) = true ∧ canSend client call.url = true ∧
    call.reply = .ok reply ∧
    succeeded (C.set w.cache hostKey (answeredCapability m call card reply)).1 = true

/-- A plain request does not go out, or has no content. -/
def Bodiless (m : Machine P) (client : UXSPClient P) (call : FetchCall P) : Prop :=
  canSend client call.url = true → ∀ content, plainContent m call = .ok content → content = none

/-- A plain request does not go out, or no reply to it comes in. -/
def Unanswered (m : Machine P) (client : UXSPClient P) (call : FetchCall P)
    (noted : Reply → Bool) : Prop :=
  canSend client call.url = true → succeeded (plainContent m call) = true →
    ∀ reply, call.reply = .ok reply → noted reply = false

/-- The condition under which a strict call is protected: a sealed request has no reply but a
welcome one, and a plain request neither shows a body nor has a reply. -/
def Guarded (m : Machine P) (client : UXSPClient P) (call : FetchCall P) (w : World C S) : Prop :=
  match plan m client call w with
  | (.error _, _) => True
  | (.ok (hostKey, .uxsp card), cache) => ∀ reply,
      Answered m client call hostKey card reply { w with cache := cache } →
        Welcome m client call card reply w
  | (.ok (_, .plain), _) => Bodiless m client call ∧ Unanswered m client call fun _ => true
  | (.ok (hostKey, .probe), cache) => Bodiless m client call ∧ Unanswered m client call fun reply =>
      succeeded (C.set cache hostKey (probedCapability m call (plainResponse call reply))).1

/-! ## Sealed requests -/

theorem not_authentic_plainResponse :
    ¬ Authentic m client call S card (plainResponse call reply) := fun h => Bool.false_ne_true h.1

theorem readReply_authentic_iff :
    (∀ response, (readReply m client call card reply w).1 = .ok response →
      Authentic m client call S card response) ↔ Welcome m client call card reply w := by
  unfold readReply Welcome
  by_cases marked : isUxspResponse m reply = true
  · rw [if_pos marked]
    cases opened : openReply m client call card reply w.seen w.tree with
    | mk result seen =>
        cases result with
        | error e =>
            by_cases lenient : client.allowFallback = true
            · simp only [lenient, if_true, succeeded, Bool.false_eq_true, Bool.true_eq_false,
                or_false, and_false, iff_false]
              exact fun always => not_authentic_plainResponse (always _ rfl)
            · simp only [lenient, marked, true_and, or_true, iff_true]
              exact nofun
        | ok read =>
            obtain ⟨package, receipt⟩ := read
            simp only [marked, succeeded, true_or, and_true, iff_true]
            intro response returned
            cases returned
            unfold openReply at opened
            split at opened
            · cases opened
            · split at opened
              · cases opened
              · rename_i received
                cases opened
                exact ⟨rfl, _, _, _, _, _, received, rfl, rfl⟩
  · rw [if_neg marked]
    simp only [marked, Bool.false_eq_true, false_and, iff_false]
    exact fun always => not_authentic_plainResponse (always _ rfl)

/-- What `_send_uxsp` hands to the HTTP library is a package. -/
theorem sendUxsp_sent : ∀ x ∈ (sendUxsp m client call hostKey card w).2.sent.drop w.sent.length,
    x.carries ≠ .plaintext := by
  have readReply_sent : ∀ reply (w : World C S),
      (readReply m client call card reply w).2.sent = w.sent := by
    intro reply w
    unfold readReply
    split
    · split
      · rfl
      · split <;> rfl
    · rfl
  unfold sendUxsp
  split
  · simp
  · rename_i package content _
    have raw : ∀ reply sent, rawSend client
        ⟨uxspRequest m client call card content, .package package⟩ call.reply w.sent =
          (reply, sent) → ∀ x ∈ sent.drop w.sent.length, x.carries ≠ .plaintext := by
      intro reply sent same x mem
      unfold rawSend at same
      split at same
      · cases same
        rw [List.drop_left] at mem
        rw [List.mem_singleton.mp mem]
        exact nofun
      · cases same
        simp at mem
    split
    · rename_i failed
      exact raw _ _ failed
    · rename_i answered
      split
      · exact raw _ _ answered
      · rw [readReply_sent]
        exact raw _ _ answered

theorem sendUxsp_authentic_iff :
    (∀ response, (sendUxsp m client call hostKey card w).1 = .ok response →
      Authentic m client call S card response) ↔
    ∀ reply, Answered m client call hostKey card reply w → Welcome m client call card reply w := by
  unfold sendUxsp Answered
  cases sealRequest m client call card with
  | error e => exact ⟨fun _ _ answered => (nomatch answered.1), fun _ => nofun⟩
  | ok made =>
      obtain ⟨package, content⟩ := made
      by_cases sendable : canSend client call.url = true
      · simp only [rawSend, uxspRequest, sendable, if_true, succeeded, true_and]
        cases call.reply with
        | error e => exact ⟨fun _ _ answered => (nomatch answered.1), fun _ => nofun⟩
        | ok reply =>
            simp only [Except.ok.injEq, and_imp, forall_eq']
            cases C.set w.cache hostKey (answeredCapability m call card reply) with
            | mk result cache =>
                cases result with
                | error e => exact ⟨fun _ => nofun, fun _ => nofun⟩
                | ok _ =>
                    simp only [true_implies]
                    exact readReply_authentic_iff
      · simp only [rawSend, uxspRequest, sendable, succeeded, true_and]
        exact ⟨fun _ _ => nofun, fun _ => nofun⟩

/-! ## Plain requests -/

theorem sendPlain_hidden_iff {sent : List Transmission} : (∀ x ∈ (sendPlain m client call headers
      call.reply sent).2.drop sent.length, x.carries ≠ .plaintext) ↔ Bodiless m client call := by
  unfold sendPlain Bodiless
  cases plainContent m call with
  | error e => simp
  | ok content =>
      by_cases sendable : canSend client call.url = true
      · have new : ∀ x : Transmission, (∀ y ∈ (sent ++ [x]).drop sent.length,
            y.carries ≠ .plaintext) ↔ x.carries ≠ .plaintext := by
          intro x
          rw [List.drop_left]
          exact ⟨fun all => all x (List.mem_singleton_self x), fun here y mem =>
            List.mem_singleton.mp mem ▸ here⟩
        have carried : (if content.isSome then Carries.plaintext else .nothing) ≠ .plaintext ↔
            content = none := by
          cases content <;> simp
        simp only [rawSend, sendable, if_true, true_implies, Except.ok.injEq, forall_eq']
        cases call.reply with
        | error e => exact (new _).trans carried
        | ok reply => exact (new _).trans carried
      · simp [rawSend, sendable]

theorem sendPlain_eq_ok {sent : List Transmission} :
    (sendPlain m client call headers call.reply sent).1 = .ok response ↔
      succeeded (plainContent m call) = true ∧ canSend client call.url = true ∧
        ∃ reply, call.reply = .ok reply ∧ plainResponse call reply = response := by
  unfold sendPlain
  cases plainContent m call with
  | error e => simp [succeeded]
  | ok content =>
      by_cases sendable : canSend client call.url = true
      · simp only [rawSend, sendable, if_true, succeeded, true_and]
        cases call.reply <;> simp
      · simp [rawSend, sendable]

theorem probe_sent : (probe m client call hostKey w).2.sent =
    (sendPlain m client call (Assoc.set call.headers "Sec-UXSP-Support" "v1.2, ml-kem-768")
      call.reply w.sent).2 := by
  unfold probe
  simp only
  split
  · rename_i failed
    rw [failed]
  · rename_i answered
    rw [answered]
    split <;> rfl

theorem probe_eq_ok : (probe m client call hostKey w).1 = .ok response ↔
    succeeded (plainContent m call) = true ∧ canSend client call.url = true ∧
      ∃ reply, call.reply = .ok reply ∧ plainResponse call reply = response ∧
        succeeded (C.set w.cache hostKey
          (probedCapability m call (plainResponse call reply))).1 = true := by
  unfold probe sendPlain
  cases plainContent m call with
  | error e => simp [succeeded]
  | ok content =>
      by_cases sendable : canSend client call.url = true
      · simp only [rawSend, sendable, if_true, succeeded, true_and]
        cases call.reply with
        | error e => simp
        | ok reply =>
            simp only [Except.ok.injEq, exists_eq_left']
            cases C.set w.cache hostKey (probedCapability m call (plainResponse call reply)) with
            | mk result cache => cases result <;> simp
      · simp [rawSend, sendable]

/-! ## `fetch` -/

/-- A strict call does not fall back. -/
theorem uxspFetch_strict (strict : client.strict call = true) :
    (uxspFetch m client call hostKey card w).2 = (sendUxsp m client call hostKey card w).2 ∧
      ∀ response, (uxspFetch m client call hostKey card w).1 = .ok response ↔
        (sendUxsp m client call hostKey card w).1 = .ok response := by
  unfold uxspFetch
  cases sendUxsp m client call hostKey card w with
  | mk result after =>
      cases result with
      | ok response => exact ⟨rfl, fun _ => Iff.rfl⟩
      | error e =>
          unfold UXSPClient.strict at strict
          by_cases allowed : client.allows call = true
          · rw [allowed, Bool.not_true, Bool.or_false] at strict
            simp [allowed, strict]
          · simp [allowed]

theorem protected_iff {result : Except PyErr UXSPResponse} {cache : C.State}
    (planned : plan m client call w = (.ok (hostKey, .uxsp card), cache)) :
    Protected m client call w result w' ↔
      (∀ x ∈ w'.sent.drop w.sent.length, x.carries ≠ .plaintext) ∧
        ∀ response, result = .ok response → Authentic m client call S card response := by
  constructor
  · intro kept
    refine ⟨kept.hidden, fun response returned => ?_⟩
    obtain ⟨hostKey', card', same, authentic⟩ := kept.authentic response returned
    rw [planned] at same
    cases same
    exact authentic
  · rintro ⟨hidden, authentic⟩
    exact ⟨hidden, fun response returned =>
      ⟨hostKey, card, congrArg Prod.fst planned, authentic response returned⟩⟩

/-- A call that takes no sealed way is protected if it shows no body and returns nothing. -/
theorem protected_iff_of_plain {result : Except PyErr UXSPResponse}
    (planned : ∀ hostKey card, (plan m client call w).1 ≠ .ok (hostKey, .uxsp card)) :
    Protected m client call w result w' ↔
      (∀ x ∈ w'.sent.drop w.sent.length, x.carries ≠ .plaintext) ∧
        ∀ response, result ≠ .ok response := by
  constructor
  · intro kept
    refine ⟨kept.hidden, fun response returned => ?_⟩
    obtain ⟨hostKey, card, same, _⟩ := kept.authentic response returned
    exact planned hostKey card same
  · rintro ⟨hidden, none⟩
    exact ⟨hidden, fun response returned => absurd returned (none response)⟩

/-- A strict call is protected under the condition and only then. -/
theorem fetch_protected_iff (strict : client.strict call = true) :
    Protected m client call w (fetch m client call w).1 (fetch m client call w).2 ↔
      Guarded m client call w := by
  unfold fetch Guarded
  cases planned : plan m client call w with
  | mk result cache =>
      cases result with
      | error e =>
          rw [protected_iff_of_plain (by rw [planned]; exact nofun)]
          simp
      | ok chosen =>
          obtain ⟨hostKey, _ | card | _⟩ := chosen
          · rw [protected_iff_of_plain (by rw [planned]; exact nofun)]
            refine and_congr sendPlain_hidden_iff ?_
            simp only [plainFetch, Unanswered, ne_eq, sendPlain_eq_ok]
            constructor
            · intro none sendable content reply replied
              exact (none _ ⟨content, sendable, reply, replied, rfl⟩).elim
            · rintro unanswered response ⟨content, sendable, reply, replied, _⟩
              cases unanswered sendable content reply replied
          · rw [protected_iff planned]
            obtain ⟨same, returns⟩ : (uxspFetch m client call hostKey card
                { w with cache := cache }).2 = _ ∧ _ := uxspFetch_strict strict
            simp only [same, returns, sendUxsp_authentic_iff]
            exact and_iff_right (sendUxsp_sent (w := { w with cache := cache }))
          · rw [protected_iff_of_plain (by rw [planned]; exact nofun), probe_sent]
            refine and_congr sendPlain_hidden_iff ?_
            simp only [Unanswered, ne_eq, probe_eq_ok]
            constructor
            · intro none sendable content reply replied
              by_contra noted
              have kept := Bool.eq_true_of_not_eq_false noted
              exact none _ ⟨content, sendable, reply, replied, rfl, kept⟩
            · rintro unanswered response ⟨content, sendable, reply, replied, _, noted⟩
              have lost := unanswered sendable content reply replied
              exact Bool.false_ne_true (lost.symm.trans noted)

/-! ## Sequences of calls -/

/-- A call of the client, with the state that it found and what it did. -/
inductive Event (P : Platform) (C : CapabilityCache) (S : SeenStore)
  | registerPeer (hostOrId : Str) (card : Card)
  | fetch (call : FetchCall P) (before : World C S) (result : Except PyErr UXSPResponse)
      (after : World C S)

inductive Step (m : Machine P) (client : UXSPClient P) (w : World C S) :
    Event P C S → World C S → Prop
  | registerPeer (hostOrId : Str) (card : Card) :
      Step m client w (.registerPeer hostOrId card) (registerPeer m hostOrId card w)
  | fetch (call : FetchCall P) :
      Step m client w (.fetch call w (fetch m client call w).1 (fetch m client call w).2)
        (fetch m client call w).2

/-- A strict call of a sequence is protected under the condition and only then. -/
theorem strict_fetches {es : List (Event P C S)} (run : Run (Step m client) w es w')
    {before after : World C S} {result : Except PyErr UXSPResponse}
    (mem : .fetch call before result after ∈ es) (strict : client.strict call = true) :
    Protected m client call before result after ↔ Guarded m client call before := by
  obtain ⟨left, right, rfl⟩ := List.append_of_mem mem
  obtain ⟨_, _, _, step, _⟩ := run.split_at
  cases step with
  | fetch => exact fetch_protected_iff strict

/-! A strict call that is not answered, and one that is answered in plain text. -/

def sampleMachine : Machine .textual where
  site := sampleSite
  files := fun _ => none
  urlsplit := fun _ => .ok ⟨"https", some "h", .ok none⟩
  urlencode := fun _ => .ok []

def sampleClient : UXSPClient .textual where
  identity := some sampleSender
  allowFallback := false
  forceUxsp := true
  httpClient := true

/-- A call of `fetch` without a body, and what the server answers. -/
def sampleFetch (reply : Except PyErr Reply) : FetchCall .textual where
  url := "https://h"
  data := .value .none
  json := .none
  jsonData := .none
  method := "GET"
  headers := []
  peerId := none
  peerCard := some sampleRecipient.card
  allowFallback := none
  forceUxsp := none
  keystore := fun _ => .ok none
  now := 1000
  cachedAt := 1000
  sending := ⟨1000, 1000, sampleCoins⟩
  receiving := sampleReadings
  freshKey := .filled 32 0
  freshId := .filled 16 0
  reply := reply
  fallbackReply := .error ⟨.osError, ["Connection refused"]⟩

def sampleWorld : World inMemoryHostCapabilityCache MemoryNonceStore.seenStore where
  cache := []
  seen := .empty
  tree := sampleTree
  peerRegistry := []
  sent := []

/-- A run of one call. -/
theorem sampleFetch_run (reply : Except PyErr Reply) :
    Run (Step sampleMachine sampleClient) sampleWorld
      [.fetch (sampleFetch reply) sampleWorld
        (fetch sampleMachine sampleClient (sampleFetch reply) sampleWorld).1
        (fetch sampleMachine sampleClient (sampleFetch reply) sampleWorld).2]
      (fetch sampleMachine sampleClient (sampleFetch reply) sampleWorld).2 :=
  .single (.fetch _)

/-- No reply comes in. -/
theorem sampleFetch_protected :
    let call := sampleFetch (.error ⟨.osError, ["Connection refused"]⟩)
    Protected sampleMachine sampleClient call sampleWorld
      (fetch sampleMachine sampleClient call sampleWorld).1
      (fetch sampleMachine sampleClient call sampleWorld).2 := by
  refine (strict_fetches (sampleFetch_run _) (List.mem_singleton_self _) rfl).mpr ?_
  unfold Guarded
  split
  · trivial
  · exact fun reply answered => nomatch answered.2.2.1
  · exact ⟨fun _ content plain => (Except.ok.inj plain).symm, fun _ _ reply => nofun⟩
  · exact ⟨fun _ content plain => (Except.ok.inj plain).symm, fun _ _ reply => nofun⟩

/-- A reply in plain text is returned, although the client forces the protocol and allows no
fallback. -/
theorem plain_reply_returned : ¬ ∀ (P : Platform) (C : CapabilityCache) (S : SeenStore)
    (m : Machine P) (client : UXSPClient P) (w w' : World C S) (es : List (Event P C S))
    (call : FetchCall P) (before after : World C S) (result : Except PyErr UXSPResponse),
    Run (Step m client) w es w' → .fetch call before result after ∈ es →
      client.strict call = true → Protected m client call before result after := by
  intro always
  have plain : ((fetch sampleMachine sampleClient (sampleFetch (.ok ⟨200, [], []⟩))
      sampleWorld).1.toOption.map UXSPResponse.isUxsp) = some false := by decide +kernel
  obtain ⟨response, returned, unsealed⟩ := Option.map_eq_some_iff.mp plain
  have kept := always _ _ _ _ _ _ _ _ _ _ _ _ (sampleFetch_run (.ok ⟨200, [], []⟩))
    (List.mem_singleton_self _) rfl
  obtain ⟨_, _, _, isUxsp, _⟩ := kept.authentic response (Except.of_toOption returned)
  exact Bool.false_ne_true (unsealed.symm.trans isUxsp)

end Uxsp.Client
