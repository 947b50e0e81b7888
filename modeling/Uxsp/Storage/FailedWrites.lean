import Uxsp.Storage.FileKeyStore

/-!
# Writes of the file store that fail

`put` and `delete` change the dict that serves as the cache before they write it to the file.
`kept_iff` says when a write that raises leaves everything that is read later as it was.
-/

namespace Uxsp

namespace Write

/-- The write may not overwrite a card. -/
def Refused (store : Cards) : Write → Prop
  | put card overwrite => overwrite = false ∧ (store.lookup card.entityId).isSome = true
  | delete _ => False

/-- The write finds what it would leave. -/
def Idle (store : Cards) : Write → Prop
  | put card _ => store.lookup card.entityId = some card
  | delete id => store.lookup id = none

/-- Nothing is loaded, there is no file yet, or the write changes nothing in what is loaded. -/
def Harmless (F : CardFiles) (self : FileKeyStore) (file : Option CardFile) (w : Write) : Prop :=
  ∀ store, (self.load F file).1 = .ok store → file = none ∨ w.Refused store ∨ w.Idle store

/-- The dict with the write. -/
def apply (store : Cards) : Write → Cards
  | put card _ => Assoc.set store card.entityId card
  | delete id => Assoc.erase store id

end Write

namespace FileKeyStore

variable {F : CardFiles} {self self' : FileKeyStore} {file file' : Option CardFile}
  {f : CardFile} {store : Cards} {faults : Faults} {now : ℕ} {e : PyErr} {w : Write}

/-- What a list of reads returns, one after the other. -/
def replies (F : CardFiles) (self : FileKeyStore) (file : Option CardFile) :
    List Query → List (Except PyErr Reply)
  | [] => []
  | q :: qs => (q.run F self file).1 :: replies F (q.run F self file).2 file qs

/-- The file and what later reads return are as before. -/
def Kept (F : CardFiles) (self : FileKeyStore) (file : Option CardFile) (self' : FileKeyStore)
    (file' : Option CardFile) : Prop :=
  file' = file ∧ ∀ qs, replies F self' file' qs = replies F self file qs

theorem replies_eq (qs : List Query) : replies F self file qs =
    qs.map fun q => (load F self file).1.map (q.answer ·) := by
  induction qs generalizing self with
  | nil => rfl
  | cons q qs ih => rw [replies, run_query, List.map_cons, ih, load_load]

/-- Reads return the same if they do so on what is loaded. -/
theorem forall_replies_iff : (∀ qs, replies F self' file qs = replies F self file qs) ↔
    ∀ q : Query, (load F self' file).1.map (q.answer ·) =
      (load F self file).1.map (q.answer ·) := by
  constructor
  · intro same q
    have one := same [q]
    rw [replies_eq, replies_eq] at one
    exact List.singleton_inj.mp one
  · intro same qs
    rw [replies_eq, replies_eq]
    exact List.map_congr_left fun q _ => same q

theorem of_map_eq_error {α β γ : Type} {g : α → β} {x : Except PyErr α × γ} {y : γ}
    (raised : (x.1.map g, x.2) = (.error e, y)) : x = (.error e, y) := by
  obtain ⟨r, z⟩ := x
  cases r with
  | ok a => cases raised
  | error e' =>
      cases raised
      rfl

/-- A `put` that raises was refused, or has left its card in the cache. -/
theorem putLoaded_eq_error {card : CardType} {overwrite : Bool}
    (raised : putLoaded F self store card overwrite file faults now = (.error e, self', file')) :
    file' = file ∧ (((Write.put card overwrite).Refused store ∧ self' = self) ∨
      ¬ (Write.put card overwrite).Refused store ∧
        self'.cache = some (Assoc.set store card.entityId card) ∧ self'.mtimeNs = self.mtimeNs ∧
          self'.size = self.size) := by
  have refused : (!overwrite && (store.lookup card.entityId).isSome) = true ↔
      (Write.put card overwrite).Refused store := by
    rw [Bool.and_eq_true, Bool.not_eq_true']
    rfl
  unfold putLoaded at raised
  split at raised
  · rename_i known
    cases raised
    exact ⟨rfl, .inl ⟨refused.mp known, rfl⟩⟩
  · rename_i free
    obtain ⟨same, cache, mtime, size⟩ := flush_eq_error raised
    exact ⟨same, .inr ⟨mt refused.mpr free, cache, mtime, size⟩⟩

/-- A `delete` that raises has left its change in the cache. -/
theorem deleteLoaded_eq_error {id : Str}
    (raised : deleteLoaded F self store id file faults now = (.error e, self', file')) :
    file' = file ∧ (store.lookup id).isSome = true ∧ self'.cache = some (Assoc.erase store id) ∧
      self'.mtimeNs = self.mtimeNs ∧ self'.size = self.size := by
  unfold deleteLoaded at raised
  split at raised
  · rename_i present
    split at raised
    · cases raised
    · rename_i flushed
      cases raised
      obtain ⟨same, cache, mtime, size⟩ := flush_eq_error flushed
      exact ⟨same, present, cache, mtime, size⟩
  · cases raised

/-- A write that raises has not loaded the file, was refused, or has left its change in the
cache. -/
theorem run_eq_error (raised : w.run F self file faults now = (.error e, self', file')) :
    file' = file ∧ (((load F self file).1 = .error e ∧ self' = self) ∨
      ∃ store, (load F self file).1 = .ok store ∧
        ((w.Refused store ∧ self' = (load F self file).2) ∨ ¬ w.Refused store ∧
          self'.cache = some (w.apply store) ∧ self'.mtimeNs = (load F self file).2.mtimeNs ∧
            self'.size = (load F self file).2.size)) := by
  generalize loaded : load F self file = x
  obtain ⟨r, loaded'⟩ := x
  cases r with
  | error e' =>
      rw [run_of_raised loaded] at raised
      cases raised
      exact ⟨rfl, .inl ⟨rfl, rfl⟩⟩
  | ok store =>
      cases w with
      | put card overwrite =>
          rw [Write.run, put_of_loaded loaded] at raised
          obtain ⟨same, ⟨refused, rfl⟩ | changed⟩ := putLoaded_eq_error (of_map_eq_error raised)
          · exact ⟨same, .inr ⟨store, rfl, .inl ⟨refused, rfl⟩⟩⟩
          · exact ⟨same, .inr ⟨store, rfl, .inr changed⟩⟩
      | delete id =>
          rw [Write.run, delete_of_loaded loaded] at raised
          obtain ⟨same, _, changed⟩ := deleteLoaded_eq_error (of_map_eq_error raised)
          exact ⟨same, .inr ⟨store, rfl, .inr ⟨not_false, changed⟩⟩⟩

/-- Reads see every change. -/
theorem forall_answer_iff :
    (∀ q : Query, q.answer (w.apply store) = q.answer store) ↔ w.Idle store := by
  cases w with
  | put card overwrite =>
      constructor
      · intro same
        have here := Reply.card.inj (same (.get card.entityId))
        rw [MemoryKeyStore.get, Write.apply, Assoc.lookup_set, if_pos (beq_self_eq_true _)] at here
        exact here.symm
      · intro found q
        change store.lookup card.entityId = some card at found
        cases q with
        | get id =>
            by_cases same : id = card.entityId
            · subst same
              simp [Query.answer, MemoryKeyStore.get, Write.apply, found]
            · simp [Query.answer, MemoryKeyStore.get, Write.apply, same]
        | listIds =>
            have present : (store.lookup card.entityId).isSome = true := by rw [found]; rfl
            exact congrArg Reply.ids (Assoc.map_fst_set store card.entityId card present)
  | delete id =>
      constructor
      · intro same
        have here := Reply.card.inj (same (.get id))
        rw [MemoryKeyStore.get, Write.apply, Assoc.lookup_erase, if_pos (beq_self_eq_true _)] at here
        exact here.symm
      · intro absent q
        rw [Write.apply, Assoc.erase_of_none store id absent]

/-- A write that raises leaves everything as it was if and only if it is harmless. -/
theorem kept_iff (raised : w.run F self file faults now = (.error e, self', file')) :
    Kept F self file self' file' ↔ w.Harmless F self file := by
  obtain ⟨rfl, ⟨failed, rfl⟩ | ⟨store, loaded, change⟩⟩ := run_eq_error raised
  · constructor
    · intro _ store loaded
      cases failed.symm.trans loaded
    · exact fun _ => ⟨rfl, fun _ => rfl⟩
  · have asked : w.Harmless F self file' ↔ file' = none ∨ w.Refused store ∨ w.Idle store := by
      constructor
      · exact fun harmless => harmless store loaded
      · intro idle other same
        cases loaded.symm.trans same
        exact idle
    rw [asked]
    obtain ⟨refused, rfl⟩ | ⟨free, cache, mtime, size⟩ := change
    · -- nothing but what loading leaves
      refine ⟨fun _ => .inr (.inl refused), fun _ => ⟨rfl, ?_⟩⟩
      exact forall_replies_iff.mpr fun q => by rw [load_load]
    · cases file' with
      | none => exact ⟨fun _ => .inl rfl, fun _ => ⟨rfl, forall_replies_iff.mpr fun q => rfl⟩⟩
      | some f =>
          have stat := load_eq_ok (Prod.ext loaded rfl : load F self (some f) = (.ok store, _))
          have trusted : load F self' (some f) = (.ok (w.apply store), self') :=
            load_of_stat cache (mtime.trans stat.2.1) (size.trans stat.2.2)
          have replied : Kept F self (some f) self' (some f) ↔ w.Idle store := by
            rw [← forall_answer_iff]
            constructor
            · intro kept q
              have same := forall_replies_iff.mp kept.2 q
              rw [trusted, loaded] at same
              exact Except.ok.inj same
            · intro same
              refine ⟨rfl, forall_replies_iff.mpr fun q => ?_⟩
              rw [trusted, loaded]
              exact congrArg Except.ok (same q)
          rw [replied]
          constructor
          · exact fun idle => .inr (.inr idle)
          · intro harmless
            obtain none | refused | idle := harmless
            · cases none
            · exact absurd refused free
            · exact idle

/-! A write that finds no room for its temporary file. -/

def noSpace : PyErr := ⟨.osError, ["[Errno 28] No space left on device"]⟩

def noTemporary : Faults
  | .mkstemp => some noSpace
  | _ => none

/-- A file without cards. -/
def emptyFile : CardFile := ⟨.lit "\x7b\x7d", 5⟩

/-- A store that has read `emptyFile`. -/
def emptyStore : FileKeyStore := ⟨some [], 5, 2, 0, some (CardFiles.sample.hash emptyFile.content)⟩

example : load .sample new (some emptyFile) = (.ok [], emptyStore) := rfl

/-- The first card of a store is lost with the file that it could not be written to. -/
theorem sample_kept : ∃ self', (Write.put sampleCard true).run .sample new none noTemporary 6 =
    (.error noSpace, self', none) ∧ Kept .sample new none self' none := by
  have raised : ∃ self', (Write.put sampleCard true).run .sample new none noTemporary 6 =
      (.error noSpace, self', none) := ⟨_, rfl⟩
  obtain ⟨self', raised⟩ := raised
  exact ⟨self', raised, (kept_iff raised).mpr fun _ _ => .inl rfl⟩

/-- The card that could not be written to a file without cards is returned afterwards. -/
theorem unwritten_card_returned : ¬ ∀ (F : CardFiles) (self : FileKeyStore)
    (file : Option CardFile) (faults : Faults) (now : ℕ) (w : Write) (e : PyErr)
    (self' : FileKeyStore) (file' : Option CardFile),
    w.run F self file faults now = (.error e, self', file') → Kept F self file self' file' := by
  intro always
  have raised : (Write.put sampleCard true).run .sample emptyStore (some emptyFile) noTemporary 6 =
      (.error noSpace, ⟨some [(sampleCard.entityId, sampleCard)], 5, 2, 1, emptyStore.hash⟩,
        some emptyFile) := rfl
  obtain ⟨_, same⟩ := always _ _ _ _ _ _ _ _ _ raised
  have replied := same [.get sampleCard.entityId]
  have before : replies .sample emptyStore (some emptyFile) [.get sampleCard.entityId] =
      [.ok (.card none)] := rfl
  have after : replies .sample ⟨some [(sampleCard.entityId, sampleCard)], 5, 2, 1, emptyStore.hash⟩
      (some emptyFile) [.get sampleCard.entityId] = [.ok (.card (some sampleCard))] := rfl
  rw [before, after] at replied
  cases replied

end FileKeyStore

end Uxsp
