import Uxsp.Lib.Run
import Uxsp.Storage.FailedWrites

/-!
# Many file stores on one file

Every `FileKeyStore` on a path has a cache of its own, and takes it for the file when the time and
the size of the file, or its hash and version, are the ones it remembers.  `one_map` says when the
stores behave as one dict.
-/

namespace Uxsp

/-! ## The file is read back -/

/-- Cards under distinct ids that JSON reads back as they were. -/
structure Storable (upper : Str → Str) (store : Cards) : Prop where
  distinct : (store.map Prod.fst).Nodup
  stable : ∀ item ∈ store, item.1.Stable ∧ item.2.Stable upper

theorem SignedCard.wellKeyed_typed (sc : SignedCard) (v : Val) :
    Dict.wellKeyed (("type", v) :: sc.toDict) = true := by
  have keys : List.map Prod.fst ((Str.ofString "type", v) :: sc.toDict) =
      List.map Str.ofString ["type", "cert_id", "issuer_id", "issuer_name", "not_before",
        "not_after", "classical_sig", "pqc_sig", "card"] := rfl
  exact Dict.wellKeyed_of_keys keys (by decide)

/-- The members of a typed dict, as they are read back. -/
theorem Dict.rereads_typed {items : Dict} {v : Val}
    (keyed : Dict.wellKeyed (("type", v) :: items) = true) :
    Dict.Rereads (Assoc.update [] (Dict.rereadItems (("type", v) :: items))) items := by
  intro key other
  rw [Dict.reread_get? keyed, Dict.get?_cons, if_neg other]

theorem Dict.type_reread {items : Dict} {name : String}
    (keyed : Dict.wellKeyed (("type", .str name) :: items) = true) :
    Dict.get? (Assoc.update [] (Dict.rereadItems (("type", .str name) :: items))) "type" =
      some (.str name) := by
  rw [Dict.reread_get? keyed, Dict.get?_cons, if_pos rfl, Option.map_some, Val.reread,
    Str.reread_ofString]

namespace CardType

variable {F : CardFiles} {card : CardType}

/-- A card is read back as it was. -/
theorem deserialise_serialise (stable : card.Stable F.upper) :
    deserialise F (Val.dict card.serialise).reread = .ok card := by
  rw [Val.reread]
  cases card with
  | publicCard card =>
      have keyed := card.wellKeyed_typed (.str "public")
      have read := CardRecord.fromDict_of_rereads (R := F.runtime) stable
        (Dict.rereads_typed keyed)
      simp only [serialise, deserialise, Dict.type_reread keyed, Option.getD_some]
      rw [if_neg (by decide), if_pos (by decide), read]
      rfl
  | signedCard sc =>
      have keyed := sc.wellKeyed_typed (.str "signed")
      have read := SignedCard.fromDict_of_rereads (R := F.runtime) stable
        (Dict.rereads_typed keyed)
      simp only [serialise, deserialise, Dict.type_reread keyed, Option.getD_some]
      rw [if_pos (by decide), read]
      rfl

end CardType

namespace CardFiles

variable {F : CardFiles} {store : Cards} {version : ℤ} {cards text : Bytes} {faults : Faults}

theorem reread_rawCards {upper : Str → Str} (storable : Storable upper store) :
    (Val.dict (rawCards store)).reread =
      .dict (store.map fun item => (item.1, (Val.dict item.2.serialise).reread)) := by
  have read : Dict.rereadItems (rawCards store) =
      store.map fun item => (item.1, (Val.dict item.2.serialise).reread) := by
    rw [Dict.rereadItems_eq_map, rawCards, List.map_map]
    refine List.map_congr_left fun item mem => ?_
    have same : item.1.reread = item.1 := (storable.stable item mem).1
    rw [Function.comp_apply, same]
  rw [Val.reread, read, Assoc.update_nil]
  rw [List.map_map]
  exact storable.distinct

theorem storeOf_rawCards (storable : Storable F.upper store) :
    F.storeOf (Val.dict (rawCards store)).reread = .ok store := by
  rw [reread_rawCards storable]
  simp only [storeOf, itemsOf, bind_eq_ok, Except.ok.injEq, exists_eq_left', mapM_eq_ok]
  rw [List.forall₂_map_left_iff, List.forall₂_same]
  intro item mem
  exact ⟨item.2, CardType.deserialise_serialise (storable.stable item mem).2, rfl⟩

/-- A file is read back as it was written. -/
theorem read_of_dumps (storable : Storable F.upper store)
    (written : F.dumps (.dict (F.fileContent version cards store)) = .ok text) :
    F.read text = .ok (store, version) := by
  generalize items : F.fileContent version cards store = d at written
  have keys : d.map Prod.fst = ["_version", "_hash", "_cards"].map Str.ofString := by
    rw [← items]
    rfl
  have keyed : d.wellKeyed = true := Dict.wellKeyed_of_keys keys (by decide)
  have raw : F.load text = .ok (.dict (Assoc.update [] (Dict.rereadItems d))) := by
    rw [F.load_dumps written, Val.reread]
  have version' : Dict.get? (Assoc.update [] (Dict.rereadItems d)) "_version" =
      some (.int version) := by
    rw [Dict.reread_get? keyed, ← items]
    simp [fileContent, Val.reread]
  have cards' : Dict.get? (Assoc.update [] (Dict.rereadItems d)) "_cards" =
      some (Val.dict (rawCards store)).reread := by
    rw [Dict.reread_get? keyed, ← items]
    simp [fileContent]
  have parsed : F.parse text = .ok ((Val.dict (rawCards store)).reread, version) := by
    simp only [parse, bind_eq_ok]
    refine ⟨_, raw, _, rfl, ?_⟩
    simp only [cards', version']
    rfl
  simp only [read, bind_eq_ok]
  exact ⟨_, parsed, _, storeOf_rawCards storable, rfl⟩

end CardFiles

/-! ## Runs -/

inductive CardOp
  | query (q : Query)
  | write (w : Write)

/-- A call of an operation: the store it is made on, when, what it returns, and the content of the
file afterwards. -/
structure CardCall where
  store : ℕ
  op : CardOp
  now : ℕ
  reply : Except PyErr Reply
  content : Option Bytes

/-- The file, and the stores on it. -/
structure SharedFile where
  file : Option CardFile
  stores : ℕ → FileKeyStore

namespace SharedFile

/-- No store has read the file. -/
def start (file : Option CardFile) : SharedFile := ⟨file, fun _ => .new⟩

/-- No step of a write fails. -/
def noFaults : Faults := fun _ => none

/-- An operation on one of the stores. -/
def perform (F : CardFiles) (s : SharedFile) (i now : ℕ) :
    CardOp → Except PyErr Reply × SharedFile
  | .query q =>
      ((q.run F (s.stores i) s.file).1,
        { s with stores := Function.update s.stores i (q.run F (s.stores i) s.file).2 })
  | .write w =>
      ((w.run F (s.stores i) s.file noFaults now).1,
        ⟨(w.run F (s.stores i) s.file noFaults now).2.2,
          Function.update s.stores i (w.run F (s.stores i) s.file noFaults now).2.1⟩)

/-- A call, at a time that is not before the last change of the file. -/
structure Step (F : CardFiles) (s : SharedFile) (call : CardCall) (t : SharedFile) : Prop where
  later : ∀ f ∈ s.file, f.mtimeNs ≤ call.now
  performed : s.perform F call.store call.now call.op = (call.reply, t)
  content : call.content = t.file.map CardFile.content

end SharedFile

/-- The operation on one dict. -/
def CardOp.onMap (m : Cards) : CardOp → Except PyErr Reply × Cards
  | .query q => (.ok (q.answer m), m)
  | .write (.put card overwrite) =>
      ((MemoryKeyStore.put m card overwrite).1.map fun _ => .done,
        (MemoryKeyStore.put m card overwrite).2)
  | .write (.delete id) =>
      (.ok (.deleted (MemoryKeyStore.delete m id).1), (MemoryKeyStore.delete m id).2)

/-- The same call on one dict. -/
def MapStep (m : Cards) (call : CardCall) (m' : Cards) : Prop := call.op.onMap m = (call.reply, m')

/-- The cards and the version of the file, if there is one. -/
def Contains (F : CardFiles) : Option CardFile → Cards → ℤ → Prop
  | none, m, version => m = [] ∧ version = 0
  | some f, m, version => F.read f.content = .ok (m, version)

/-! ## The condition -/

/-- The write changes the dict. -/
def Write.Changes (m : Cards) : Write → Prop
  | .put card overwrite => ¬ (Write.put card overwrite).Refused m
  | .delete id => (m.lookup id).isSome = true

/-- A store that finds the time and the size it remembers also finds the hash it remembers; a card
that is put is one that JSON reads back, and what is written can be written as JSON. -/
structure Undisturbed (F : CardFiles) (s : SharedFile) (call : CardCall) : Prop where
  noticed : ∀ f ∈ s.file, (s.stores call.store).sameStat f ≠ none →
    (s.stores call.store).hash = some (F.hash f.content)
  stable : ∀ card overwrite, call.op = .write (.put card overwrite) →
    card.entityId.Stable ∧ card.Stable F.upper
  writable : ∀ w m version, call.op = .write w → Contains F s.file m version → w.Changes m →
    ∃ text, F.written SharedFile.noFaults (version + 1) (w.apply m) = .ok text

/-- No two contents have one hash. -/
def Apart (F : CardFiles) (contents : List Bytes) : Prop :=
  ∀ a ∈ contents, ∀ b ∈ contents, F.hash a = F.hash b → a = b

/-- The contents that the file has had. -/
def contents (file : Option CardFile) (calls : List CardCall) : List Bytes :=
  (file.map CardFile.content).toList ++ calls.filterMap CardCall.content

/-- A call that is undisturbed. -/
def UndisturbedStep (F : CardFiles) (s : SharedFile) (call : CardCall) (t : SharedFile) : Prop :=
  s.Step F call t ∧ Undisturbed F s call

/-! ## The invariant -/

variable {F : CardFiles} {file : Option CardFile} {f : CardFile} {self self' : FileKeyStore}
  {m m' : Cards} {version : ℤ} {cs cs' : List Bytes} {w : Write} {now : ℕ} {s t : SharedFile}
  {call : CardCall} {calls : List CardCall}

/-- What a store remembers of a file is what some content of it says. -/
def Knows (F : CardFiles) (cs : List Bytes) (self : FileKeyStore) : Prop :=
  ∀ c h, self.cache = some c → self.hash = some h →
    ∃ b ∈ cs, F.hash b = h ∧ F.read b = .ok (c, self.version)

theorem Knows.mono (knows : Knows F cs self) (sub : cs ⊆ cs') : Knows F cs' self := by
  intro c h cache hash
  obtain ⟨b, mem, rest⟩ := knows c h cache hash
  exact ⟨b, sub mem, rest⟩

/-- What a store remembers under the hash of the file is what the file says. -/
theorem Knows.current (knows : Knows F cs self) (apart : Apart F cs) (mem : f.content ∈ cs)
    {c : Cards} (cache : self.cache = some c) (hash : self.hash = some (F.hash f.content)) :
    F.read f.content = .ok (c, self.version) := by
  obtain ⟨b, inside, same, read⟩ := knows c _ cache hash
  obtain rfl := apart b inside _ mem same
  exact read

theorem cache_of_sameStat {c : Cards} (known : self.sameStat f = some c) :
    self.cache = some c ∧ self.mtimeNs = f.mtimeNs ∧ self.size = f.size := by
  unfold FileKeyStore.sameStat at known
  split at known
  · rename_i stat
    exact ⟨known, stat⟩
  · cases known

theorem cache_of_sameHash {c : Cards} (known : self.sameHash F f version = some c) :
    self.cache = some c ∧ self.hash = some (F.hash f.content) ∧ self.version = version := by
  unfold FileKeyStore.sameHash at known
  split at known
  · rename_i same
    exact ⟨known, same⟩
  · cases known

/-- A store that notices every change loads what the file says. -/
theorem Knows.load (knows : Knows F cs self) (apart : Apart F cs)
    (mem : ∀ f ∈ file, f.content ∈ cs) (contains : Contains F file m version)
    (noticed : ∀ f ∈ file, self.sameStat f ≠ none → self.hash = some (F.hash f.content)) :
    ∃ self', self.load F file = (.ok m, self') ∧ self'.version = version ∧ Knows F cs self' := by
  cases file with
  | none =>
      obtain ⟨rfl, rfl⟩ := contains
      exact ⟨_, rfl, rfl, nofun⟩
  | some f =>
      have inside := mem f rfl
      have read : F.read f.content = .ok (m, version) := contains
      cases stat : self.sameStat f with
      | some c =>
          obtain ⟨cache, mtime, size⟩ := cache_of_sameStat stat
          have hash := noticed f rfl (by rw [stat]; nofun)
          have same := (knows.current apart inside cache hash).symm.trans read
          cases same
          exact ⟨self, FileKeyStore.load_of_stat cache mtime size, rfl, knows⟩
      | none =>
          have whole := read
          simp only [CardFiles.read, bind_eq_ok, pure_eq_ok] at whole
          obtain ⟨⟨raw, v⟩, parsed, store, stored, same⟩ := whole
          cases same
          simp only [FileKeyStore.load, stat, parsed]
          cases known : self.sameHash F f v with
          | some c =>
              obtain ⟨cache, hash, same⟩ := cache_of_sameHash known
              have current := (knows.current apart inside cache hash).symm.trans read
              cases current
              exact ⟨_, rfl, rfl, knows⟩
          | none =>
              refine ⟨⟨some m, f.mtimeNs, f.size, v, some (F.hash f.content)⟩, ?_, rfl, ?_⟩
              · simp only [stored]
              · intro c h cache hash
                cases cache
                cases hash
                exact ⟨f.content, inside, rfl, read⟩

/-- A write that changes nothing is not written. -/
theorem Write.run_of_unchanged (loaded : self.load F file = (.ok m, self'))
    (unchanged : ¬ w.Changes m) :
    w.run F self file SharedFile.noFaults now = (((CardOp.write w).onMap m).1, self', file) ∧
      ((CardOp.write w).onMap m).2 = m := by
  cases w with
  | put card overwrite =>
      have refused : (!overwrite && (m.lookup card.entityId).isSome) = true := by
        simpa [Write.Changes, Write.Refused] using unchanged
      rw [Write.run, FileKeyStore.put_of_loaded loaded, FileKeyStore.putLoaded, if_pos refused,
        CardOp.onMap, MemoryKeyStore.put, if_pos refused]
      exact ⟨rfl, rfl⟩
  | delete id =>
      have absent : ¬ (m.lookup id).isSome = true := unchanged
      rw [Write.run, FileKeyStore.delete_of_loaded loaded, FileKeyStore.deleteLoaded,
        if_neg absent, CardOp.onMap, MemoryKeyStore.delete, if_neg absent]
      exact ⟨rfl, rfl⟩

/-- A write that changes something is written. -/
theorem Write.run_of_changed {text : Bytes} (loaded : self.load F file = (.ok m, self'))
    (changed : w.Changes m)
    (written : F.written SharedFile.noFaults (self'.version + 1) (w.apply m) = .ok text) :
    w.run F self file SharedFile.noFaults now = (((CardOp.write w).onMap m).1,
      ⟨some (w.apply m), now, text.length, self'.version + 1, some (F.hash text)⟩,
      some ⟨text, now⟩) ∧ ((CardOp.write w).onMap m).2 = w.apply m := by
  cases w with
  | put card overwrite =>
      have free : ¬ (!overwrite && (m.lookup card.entityId).isSome) = true := by
        simpa [Write.Changes, Write.Refused] using changed
      have flushed : F.written SharedFile.noFaults (self'.version + 1)
        (Assoc.set m card.entityId card) = .ok text := written
      rw [Write.run, FileKeyStore.put_of_loaded loaded, FileKeyStore.putLoaded, if_neg free,
        CardOp.onMap, MemoryKeyStore.put, if_neg free]
      simp only [FileKeyStore.flush, SharedFile.noFaults, Faults.run, flushed]
      exact ⟨rfl, rfl⟩
  | delete id =>
      have present : (m.lookup id).isSome = true := changed
      have flushed : F.written SharedFile.noFaults (self'.version + 1) (Assoc.erase m id) =
        .ok text := written
      rw [Write.run, FileKeyStore.delete_of_loaded loaded, FileKeyStore.deleteLoaded,
        if_pos present, CardOp.onMap, MemoryKeyStore.delete, if_pos present]
      simp only [FileKeyStore.flush, SharedFile.noFaults, Faults.run, flushed]
      exact ⟨rfl, rfl⟩

theorem CardFiles.dumps_of_written {faults : Faults} {store : Cards} {text : Bytes}
    (written : F.written faults version store = .ok text) :
    ∃ cards, F.dumps (.dict (F.fileContent version cards store)) = .ok text := by
  simp only [CardFiles.written, bind_eq_ok, pure_eq_ok] at written
  obtain ⟨cards, _, _, _, text', dumped, _, _, _, _, _, _, rfl⟩ := written
  exact ⟨cards, dumped⟩

/-- A write of a card that JSON reads back leaves such cards. -/
theorem Storable.apply {upper : Str → Str} (storable : Storable upper m)
    (stable : ∀ card overwrite, w = .put card overwrite →
      card.entityId.Stable ∧ card.Stable upper) : Storable upper (w.apply m) := by
  cases w with
  | put card overwrite =>
      exact ⟨Assoc.nodup_set m _ card storable.distinct,
        Assoc.forall_set m card.entityId card storable.stable (stable card overwrite rfl)⟩
  | delete id =>
      exact ⟨Assoc.nodup_erase m id storable.distinct,
        fun item mem => storable.stable item (List.mem_of_mem_filter mem)⟩

/-- The file holds the dict, and every store knows a content that the file has had. -/
structure SharedFile.Holds (F : CardFiles) (cs : List Bytes) (s : SharedFile) (m : Cards) :
    Prop where
  storable : Storable F.upper m
  contains : ∃ version, Contains F s.file m version
  mem : ∀ f ∈ s.file, f.content ∈ cs
  knows : ∀ i, Knows F cs (s.stores i)

theorem SharedFile.Holds.knows_update {i : ℕ} (holds : s.Holds F cs m) (sub : cs ⊆ cs')
    (here : Knows F cs' self) (j : ℕ) : Knows F cs' (Function.update s.stores i self j) := by
  by_cases same : j = i
  · subst same
    rwa [Function.update_self]
  · rw [Function.update_of_ne same]
    exact (holds.knows j).mono sub

/-- An undisturbed call does what it does on the dict. -/
theorem SharedFile.Holds.step (holds : s.Holds F cs m) (apart : Apart F cs)
    (step : UndisturbedStep F s call t) :
    ∃ m', MapStep m call m' ∧ t.Holds F (cs ++ call.content.toList) m' := by
  obtain ⟨⟨_, performed, content⟩, undisturbed⟩ := step
  obtain ⟨storable, ⟨version, contains⟩, mem, knows⟩ := holds
  have sub : cs ⊆ cs ++ call.content.toList := List.subset_append_left _ _
  obtain ⟨self', loaded, same, known⟩ :=
    (knows call.store).load apart mem contains undisturbed.noticed
  have holds : s.Holds F cs m := ⟨storable, ⟨version, contains⟩, mem, knows⟩
  cases made : call.op with
  | query q =>
      rw [made, SharedFile.perform, FileKeyStore.run_query, loaded] at performed
      obtain ⟨reply, rfl⟩ := Prod.mk.inj performed
      refine ⟨m, ?_, storable, ⟨version, contains⟩, fun f there => sub (mem f there),
        holds.knows_update sub (known.mono sub)⟩
      rw [MapStep, made, ← reply]
      rfl
  | write w =>
      rw [made, SharedFile.perform] at performed
      by_cases changed : w.Changes m
      · obtain ⟨text, written⟩ := undisturbed.writable w m version made contains changed
        rw [← same] at written
        obtain ⟨run, map⟩ := Write.run_of_changed loaded changed written
        rw [run] at performed
        obtain ⟨reply, rfl⟩ := Prod.mk.inj performed
        have storable' := storable.apply fun card overwrite put =>
          undisturbed.stable card overwrite (put ▸ made)
        obtain ⟨cards, dumped⟩ := CardFiles.dumps_of_written written
        have read := CardFiles.read_of_dumps storable' dumped
        have inside : text ∈ cs ++ call.content.toList := by
          rw [content]
          exact List.mem_append_right _ (List.mem_singleton.mpr rfl)
        refine ⟨w.apply m, ?_, storable', ⟨_, read⟩, ?_, holds.knows_update sub ?_⟩
        · rw [MapStep, made, ← reply, ← map]
        · intro f there
          cases there
          exact inside
        · intro c h cache hash
          cases cache
          cases hash
          exact ⟨text, inside, rfl, read⟩
      · obtain ⟨run, map⟩ := Write.run_of_unchanged loaded changed
        rw [run] at performed
        obtain ⟨reply, rfl⟩ := Prod.mk.inj performed
        refine ⟨m, ?_, storable, ⟨version, contains⟩, fun f there => sub (mem f there),
          holds.knows_update sub (known.mono sub)⟩
        rw [MapStep, made, ← reply]
        exact Prod.ext rfl map

theorem contents_append : contents file (calls ++ [call]) =
    contents file calls ++ call.content.toList := by
  cases content : call.content with
  | none => simp [contents, content]
  | some b => simp [contents, content]

/-- In a run of undisturbed calls, the stores on a file return what one dict returns, and the file
holds the dict. -/
theorem one_map {m₀ : Cards} (run : Run (UndisturbedStep F) (.start file) calls s)
    (storable : Storable F.upper m₀) (contains : Contains F file m₀ version)
    (apart : Apart F (contents file calls)) :
    ∃ m, Run MapStep m₀ calls m ∧ ∃ version, Contains F s.file m version := by
  have whole : Apart F (contents file calls) →
      ∃ m, Run MapStep m₀ calls m ∧ s.Holds F (contents file calls) m := by
    refine run.history (I := fun calls s => Apart F (contents file calls) →
      ∃ m, Run MapStep m₀ calls m ∧ s.Holds F (contents file calls) m) ?_ ?_
    · intro calls s call t before step apart
      rw [contents_append] at apart ⊢
      have earlier : Apart F (contents file calls) := fun a ha b hb =>
        apart a (List.mem_append_left _ ha) b (List.mem_append_left _ hb)
      obtain ⟨m, run, holds⟩ := before earlier
      obtain ⟨m', next, holds'⟩ := holds.step earlier step
      exact ⟨m', run.snoc next, holds'⟩
    · intro _
      refine ⟨m₀, .nil, storable, ⟨version, contains⟩, fun f there => ?_, fun i => nofun⟩
      have present : file = some f := there
      rw [contents, present]
      exact List.mem_append_left _ (List.mem_singleton.mpr rfl)
  obtain ⟨m, run, holds⟩ := whole apart
  exact ⟨m, run, holds.contains⟩

/-! A card that is put by one store and read by another, and one that is put anew within one tick of
the clock. -/

namespace SharedFile

/-- The call that is made on a store. -/
def callOn (F : CardFiles) (s : SharedFile) (i now : ℕ) (op : CardOp) : CardCall where
  store := i
  op := op
  now := now
  reply := (s.perform F i now op).1
  content := (s.perform F i now op).2.file.map CardFile.content

theorem step_callOn {i : ℕ} {op : CardOp} (later : ∀ f ∈ s.file, f.mtimeNs ≤ now) :
    s.Step F (s.callOn F i now op) (s.perform F i now op).2 := ⟨later, rfl, rfl⟩

theorem callOn_op {i : ℕ} {op : CardOp} : (s.callOn F i now op).op = op := rfl

theorem callOn_content {i : ℕ} {op : CardOp} :
    (s.callOn F i now op).content = (s.perform F i now op).2.file.map CardFile.content := rfl

theorem perform_query {i : ℕ} {q : Query} : (s.perform F i now (.query q)).2.file = s.file := rfl

def putCard (name : String) : CardOp := .write (.put (namedCard name) true)

def getCard : CardOp := .query (.get sampleCard.entityId)

/-- A card has been put. -/
def afterPut : SharedFile := ((start none).perform .sample 0 5 (putCard "Bob")).2

/-- It has been read on another store. -/
def afterGet : SharedFile := (afterPut.perform .sample 1 5 getCard).2

/-- It has been put under another name. -/
def afterRename : SharedFile := (afterGet.perform .sample 0 5 (putCard "Rob")).2

/-- A card with this name is returned. -/
def returnsName (name : String) : Except PyErr Reply → Bool
  | .ok (.card (some (.publicCard card))) => card.name == Str.ofString name
  | _ => false

/-- The second store has not read the file. -/
theorem afterPut_unread (f : CardFile) : (afterPut.stores 1).sameStat f = none := by
  have new : afterPut.stores 1 = .new := by
    rw [afterPut, putCard, SharedFile.perform]
    dsimp only
    rw [Function.update_of_ne Nat.one_ne_zero]
    rfl
  rw [new]
  exact ite_self none

theorem le_of_all {now : ℕ} (times : s.file.all (fun f => decide (f.mtimeNs ≤ now)) = true) :
    ∀ f ∈ s.file, f.mtimeNs ≤ now := by
  intro f there
  have present : s.file = some f := there
  rw [present] at times
  exact of_decide_eq_true times

theorem afterPut_le : ∀ f ∈ afterPut.file, f.mtimeNs ≤ 5 :=
  le_of_all (by decide +kernel)

theorem namedCard_stable (name : String) :
    (namedCard name).entityId.Stable ∧ (namedCard name).Stable CardFiles.sample.upper := by
  refine ⟨Str.reread_ofString _, ?_⟩
  exact {
    entityId := Str.reread_ofString _
    name := Str.reread_ofString _
    role := Str.reread_ofString _
    createdAt := Str.reread_ofString _
    validUntil := nofun
    revocationReason := nofun
    revokedAt := nofun
    valid := rfl }

def putBob : CardCall := (start none).callOn .sample 0 5 (putCard "Bob")

def getBob : CardCall := afterPut.callOn .sample 1 5 getCard

theorem getBob_content : getBob.content = putBob.content := by
  rw [getBob, callOn_content, getCard, perform_query, putBob, callOn_content, afterPut]

theorem step_putBob : SharedFile.Step .sample (start none) putBob afterPut := by
  unfold putBob afterPut
  exact step_callOn nofun

theorem step_getBob : SharedFile.Step .sample afterPut getBob afterGet := by
  unfold getBob afterGet
  exact step_callOn afterPut_le

attribute [irreducible] afterPut afterGet

/-- The card that one store puts is the one that another returns. -/
theorem sample_one_map : ∃ s m version,
    Run (UndisturbedStep .sample) (start none) [putBob, getBob] s ∧
      Run MapStep [] [putBob, getBob] m ∧ Contains .sample s.file m version := by
  have first : UndisturbedStep .sample (start none) putBob afterPut := by
    refine ⟨step_putBob, ⟨nofun, ?_, ?_⟩⟩
    · intro card overwrite made
      rw [putBob, callOn_op] at made
      cases made
      exact namedCard_stable "Bob"
    · intro w m version made contains _
      obtain ⟨rfl, rfl⟩ := contains
      rw [putBob, callOn_op] at made
      cases made
      have written : succeeded (CardFiles.sample.written noFaults (0 + 1)
          (Write.apply [] (.put (namedCard "Bob") true))) = true := by decide +kernel
      exact succeeded_eq_true.mp written
  have second : UndisturbedStep .sample afterPut getBob afterGet := by
    have made : getBob.op = getCard := by rw [getBob, callOn_op]
    refine ⟨step_getBob, ⟨?_, ?_, ?_⟩⟩
    · intro f _ known
      exact absurd (afterPut_unread f) known
    · intro card overwrite made'
      cases made.symm.trans made'
    · intro w m version made'
      cases made.symm.trans made'
  have run := Run.cons first (Run.single second)
  have one : ∀ a ∈ contents none [putBob, getBob], putBob.content = some a := by
    intro a mem
    rw [contents, Option.map_none, Option.toList_none, List.nil_append] at mem
    obtain ⟨c, made, content⟩ := List.mem_filterMap.mp mem
    obtain rfl | rfl := List.mem_pair.mp made
    · exact content
    · exact getBob_content ▸ content
  have apart : Apart .sample (contents none [putBob, getBob]) := fun a ha b hb _ =>
    Option.some.inj ((one a ha).symm.trans (one b hb))
  have storable : Storable CardFiles.sample.upper [] := ⟨List.nodup_nil, fun _ => nofun⟩
  have contains : Contains CardFiles.sample none [] 0 := ⟨rfl, rfl⟩
  obtain ⟨m, map, version, contains⟩ := one_map run storable contains apart
  exact ⟨afterGet, m, version, run, map, contains⟩

def putRob : CardCall := afterGet.callOn .sample 0 5 (putCard "Rob")

def getAgain : CardCall := afterRename.callOn .sample 1 5 getCard

theorem step_putRob : SharedFile.Step .sample afterGet putRob afterRename := by
  unfold putRob afterRename
  exact step_callOn (le_of_all (by decide +kernel))

/-- A card is put twice within one tick of the clock, with a name of the same length.  A store that
has read the first goes on returning it. -/
theorem renamed_card_missed : ¬ ∀ (F : CardFiles) (calls : List CardCall) (s : SharedFile),
    Run (SharedFile.Step F) (start none) calls s → ∃ m, Run MapStep [] calls m := by
  intro always
  have stale : afterRename.file.all (fun f => decide (f.mtimeNs ≤ 5)) = true ∧
      returnsName "Bob" getAgain.reply = true := by
    decide +kernel
  obtain ⟨times, returned⟩ := stale
  have last : ∃ s, SharedFile.Step .sample afterRename getAgain s := by
    unfold getAgain
    exact ⟨_, step_callOn (le_of_all times)⟩
  obtain ⟨s, last⟩ := last
  have run := ((Run.cons step_putBob (Run.single step_getBob)).snoc step_putRob).snoc last
  obtain ⟨m, map⟩ := always _ _ _ run
  obtain ⟨m₃, before, get⟩ := map.of_snoc
  obtain ⟨m₂, _, put⟩ := before.of_snoc
  rw [MapStep, putRob, callOn_op] at put
  have stored : m₃ = Assoc.set m₂ sampleCard.entityId (namedCard "Rob") :=
    (congrArg Prod.snd put).symm
  have asked : getAgain.op = getCard := by rw [getAgain, callOn_op]
  rw [MapStep, asked] at get
  obtain ⟨reply, _⟩ : .ok (.card (m₃.lookup sampleCard.entityId)) = getAgain.reply ∧ m₃ = m :=
    Prod.mk.inj get
  rw [← reply, stored, Assoc.lookup_set, if_pos (beq_self_eq_true _)] at returned
  exact Bool.false_ne_true returned

end SharedFile

end Uxsp
