import Uxsp.Core.CardDict
import Uxsp.Crypto.Transparent
import Uxsp.Python.JsonCanonical
import Uxsp.Storage.KeyStore

/-!
# `uxsp.storage.keystore`: the file

A `FileKeyStore` keeps its cards in one JSON file.  It remembers the cards that it last read or
wrote, with the time, the size, the version and the hash of the file, and reads the file anew only
if these have changed.  An operation holds the lock of the file from its first to its last step.
-/

namespace Uxsp

/-- What the file store uses of the standard library: JSON with `indent=2`, JSON with
`sort_keys=True`, SHA-256 and capital letters. -/
structure CardFiles extends JsonFile where
  runtime : Runtime
  sorted : Val → Except PyErr Bytes
  sha256 : Bytes → Bytes
  upper : Str → Str

/-! ## Cards in the file -/

namespace CardType

/-- `_serialise_card`. -/
def serialise : CardType → Dict
  | .publicCard card => ("type", .str "public") :: card.toDict
  | .signedCard sc => ("type", .str "signed") :: sc.toDict

/-- `_deserialise_card`. -/
def deserialise (F : CardFiles) : Val → Except PyErr CardType
  | .dict d => do
      let ctype := (Dict.get? d "type").getD (.str "public")
      if Val.eqStr (some ctype) "signed" then
        return .signedCard (← SignedCard.fromDict F.runtime F.upper (.dict d))
      else if Val.eqStr (some ctype) "public" then
        return .publicCard (← CardRecord.fromDict F.runtime F.upper (.dict d))
      else .error (F.runtime.err .keyStoreError
        ["Unknown card type '", .val ctype, "' in serialised data."])
  | v => .error ⟨.attributeError, ["'", v.typeName, "' object has no attribute 'get'"]⟩

/-- The strings of a card are read back, and its role is a valid one. -/
def Stable (upper : Str → Str) : CardType → Prop
  | .publicCard card => card.Stable upper
  | .signedCard sc => sc.Stable upper

end CardType

/-- What a field holds that is annotated as an integer. -/
def intOf : Val → Except PyErr ℤ
  | .int n => .ok n
  | v => .error ⟨.typeError, ["expected int, got ", v.typeName]⟩

namespace CardFiles

variable (F : CardFiles)

/-- `{eid: _serialise_card(card) for eid, card in store.items()}`. -/
def rawCards (store : Cards) : Dict := store.map fun item => (item.1, .dict item.2.serialise)

/-- `{eid: _deserialise_card(entry) for eid, entry in raw_cards.items()}`. -/
def storeOf (raw : Val) : Except PyErr Cards := do
  (← itemsOf raw).mapM fun item => do return (item.1, ← CardType.deserialise F item.2)

/-- The cards and the version in a file.  A file without `_cards` is one dict of cards, with other
members whose names begin with a low line. -/
def parse (content : Bytes) : Except PyErr (Val × ℤ) := do
  let raw ← itemsOf (← F.load content)
  match Dict.get? raw "_cards" with
  | some cards => return (cards, ← intOf ((Dict.get? raw "_version").getD (.int 0)))
  | none => return (.dict (raw.filter fun item => !(Str.ofString "_").isPrefixOf item.1), 0)

/-- What is in a file. -/
def read (content : Bytes) : Except PyErr (Cards × ℤ) := do
  let (raw, version) ← F.parse content
  return (← F.storeOf raw, version)

/-- `hashlib.sha256(b).hexdigest()`. -/
def hash (b : Bytes) : Str := (F.sha256 b).hex

/-- The content of a file with these cards; `cards` is their sorted JSON. -/
def fileContent (version : ℤ) (cards : Bytes) (store : Cards) : Dict :=
  [("_version", .int version), ("_hash", .str (F.hash cards)), ("_cards", .dict (rawCards store))]

end CardFiles

/-! ## The store -/

/-- The file, with the time of its last change. -/
structure CardFile where
  content : Bytes
  mtimeNs : ℕ

def CardFile.size (file : CardFile) : ℕ := file.content.length

/-- Where a write may fail. -/
inductive WriteStep
  | mkdir
  | mkstemp
  | write
  | chmod
  | replace

/-- What each step of a write raises, if anything. -/
abbrev Faults := WriteStep → Option PyErr

/-- A step of a write. -/
def Faults.run (faults : Faults) (step : WriteStep) : Except PyErr Unit :=
  match faults step with
  | some e => .error e
  | none => .ok ()

/-- The temporary file, up to where it replaces the file. -/
def CardFiles.written (F : CardFiles) (faults : Faults) (version : ℤ) (store : Cards) :
    Except PyErr Bytes := do
  let cards ← F.sorted (.dict (CardFiles.rawCards store))
  faults.run .mkstemp
  let text ← F.dumps (.dict (F.fileContent version cards store))
  faults.run .write
  faults.run .chmod
  faults.run .replace
  return text

structure FileKeyStore where
  cache : Option Cards
  mtimeNs : ℕ
  size : ℕ
  version : ℤ
  hash : Option Str

namespace FileKeyStore

variable (F : CardFiles)

def new : FileKeyStore := ⟨none, 0, 0, 0, none⟩

/-- The cache, if the time and the size of the file are the ones it was read with. -/
def sameStat (self : FileKeyStore) (file : CardFile) : Option Cards :=
  if self.mtimeNs = file.mtimeNs ∧ self.size = file.size then self.cache else none

/-- The cache, if the hash and the version of the file are the ones it was read with. -/
def sameHash (self : FileKeyStore) (file : CardFile) (version : ℤ) : Option Cards :=
  if self.hash = some (F.hash file.content) ∧ self.version = version then self.cache else none

/-- `_load`. -/
def load (self : FileKeyStore) : Option CardFile → Except PyErr Cards × FileKeyStore
  | none => (.ok [], ⟨some [], 0, 0, 0, none⟩)
  | some file =>
    match self.sameStat file with
    | some store => (.ok store, self)
    | none =>
      match F.parse file.content with
      | .error e => (.error e, self)
      | .ok (raw, version) =>
        match self.sameHash F file version with
        | some store => (.ok store, { self with mtimeNs := file.mtimeNs, size := file.size })
        | none =>
          match F.storeOf raw with
          | .error e => (.error e, self)
          | .ok store => (.ok store,
              ⟨some store, file.mtimeNs, file.size, version, some (F.hash file.content)⟩)

/-- `_flush`, at a time.  The version is counted up before the file is written. -/
def flush (self : FileKeyStore) (store : Cards) (file : Option CardFile) (faults : Faults)
    (now : ℕ) : Except PyErr Unit × FileKeyStore × Option CardFile :=
  match faults.run .mkdir with
  | .error e => (.error e, self, file)
  | .ok () =>
    match F.written faults (self.version + 1) store with
    | .error e => (.error e, { self with version := self.version + 1 }, file)
    | .ok text =>
      (.ok (), ⟨some store, now, text.length, self.version + 1, some (F.hash text)⟩,
        some ⟨text, now⟩)

/-- The dict that `load` returned is the cache: a change of it is one of the cache, whether it is
written or not. -/
def putLoaded (self : FileKeyStore) (store : Cards) (card : CardType) (overwrite : Bool)
    (file : Option CardFile) (faults : Faults) (now : ℕ) :
    Except PyErr Unit × FileKeyStore × Option CardFile :=
  if !overwrite && (store.lookup card.entityId).isSome then
    (.error (duplicateCard card.entityId), self, file)
  else
    flush F { self with cache := some (Assoc.set store card.entityId card) }
      (Assoc.set store card.entityId card) file faults now

def put (self : FileKeyStore) (card : CardType) (overwrite : Bool) (file : Option CardFile)
    (faults : Faults) (now : ℕ) : Except PyErr Unit × FileKeyStore × Option CardFile :=
  match load F self file with
  | (.error e, self) => (.error e, self, file)
  | (.ok store, self) => putLoaded F self store card overwrite file faults now

def deleteLoaded (self : FileKeyStore) (store : Cards) (entityId : Str) (file : Option CardFile)
    (faults : Faults) (now : ℕ) : Except PyErr Bool × FileKeyStore × Option CardFile :=
  if (store.lookup entityId).isSome then
    match flush F { self with cache := some (Assoc.erase store entityId) }
        (Assoc.erase store entityId) file faults now with
    | (.ok (), self, file) => (.ok true, self, file)
    | (.error e, self, file) => (.error e, self, file)
  else (.ok false, self, file)

def delete (self : FileKeyStore) (entityId : Str) (file : Option CardFile) (faults : Faults)
    (now : ℕ) : Except PyErr Bool × FileKeyStore × Option CardFile :=
  match load F self file with
  | (.error e, self) => (.error e, self, file)
  | (.ok store, self) => deleteLoaded F self store entityId file faults now

def get (self : FileKeyStore) (entityId : Str) (file : Option CardFile) :
    Except PyErr (Option CardType) × FileKeyStore :=
  ((load F self file).1.map fun store => MemoryKeyStore.get store entityId, (load F self file).2)

def listIds (self : FileKeyStore) (file : Option CardFile) :
    Except PyErr (List Str) × FileKeyStore :=
  ((load F self file).1.map MemoryKeyStore.listIds, (load F self file).2)

end FileKeyStore

/-! ## Operations -/

/-- An operation that reads. -/
inductive Query
  | get (entityId : Str)
  | listIds

/-- An operation that may write. -/
inductive Write
  | put (card : CardType) (overwrite : Bool)
  | delete (entityId : Str)

/-- What an operation returns. -/
inductive Reply
  | done
  | card (card : Option CardType)
  | deleted (deleted : Bool)
  | ids (ids : List Str)

/-- What a dict answers. -/
def Query.answer (store : Cards) : Query → Reply
  | .get entityId => .card (MemoryKeyStore.get store entityId)
  | .listIds => .ids (MemoryKeyStore.listIds store)

def Query.run (F : CardFiles) (self : FileKeyStore) (file : Option CardFile) :
    Query → Except PyErr Reply × FileKeyStore
  | .get entityId => ((self.get F entityId file).1.map .card, (self.get F entityId file).2)
  | .listIds => ((self.listIds F file).1.map .ids, (self.listIds F file).2)

def Write.run (F : CardFiles) (self : FileKeyStore) (file : Option CardFile) (faults : Faults)
    (now : ℕ) : Write → Except PyErr Reply × FileKeyStore × Option CardFile
  | .put card overwrite =>
      ((self.put F card overwrite file faults now).1.map fun _ => .done,
        (self.put F card overwrite file faults now).2)
  | .delete entityId =>
      ((self.delete F entityId file faults now).1.map .deleted,
        (self.delete F entityId file faults now).2)

/-! ## What loading leaves -/

namespace FileKeyStore

variable {F : CardFiles} {self self' : FileKeyStore} {file file' : Option CardFile}
  {f : CardFile} {store : Cards} {faults : Faults} {now : ℕ} {e : PyErr} {text : Bytes}

theorem run_query (q : Query) : q.run F self file =
    ((load F self file).1.map (q.answer ·), (load F self file).2) := by
  cases q <;> simp [Query.run, get, listIds, Except.map, Query.answer] <;>
    cases (load F self file).1 <;> rfl

/-- A store that has read a file has the time and the size of the file. -/
theorem load_eq_ok (loaded : load F self (some f) = (.ok store, self')) :
    self'.cache = some store ∧ self'.mtimeNs = f.mtimeNs ∧ self'.size = f.size := by
  simp only [load] at loaded
  split at loaded
  · rename_i known
    cases loaded
    unfold sameStat at known
    split at known
    · rename_i stat
      exact ⟨known, stat⟩
    · cases known
  · split at loaded
    · cases loaded
    · split at loaded
      · rename_i known
        cases loaded
        unfold sameHash at known
        split at known
        · exact ⟨known, rfl, rfl⟩
        · cases known
      · split at loaded <;> cases loaded
        exact ⟨rfl, rfl, rfl⟩

/-- A store that cannot read a file is left as it was. -/
theorem load_eq_error (raised : load F self file = (.error e, self')) : self' = self := by
  unfold load at raised
  split at raised
  · cases raised
  · split at raised
    · cases raised
    · split at raised
      · cases raised
        rfl
      · split at raised
        · cases raised
        · split at raised <;> cases raised
          rfl

/-- What the cache of a store with the time and the size of the file holds is taken for the
file. -/
theorem load_of_stat (cache : self.cache = some store) (mtime : self.mtimeNs = f.mtimeNs)
    (size : self.size = f.size) : load F self (some f) = (.ok store, self) := by
  have known : self.sameStat f = some store := by rw [sameStat, if_pos ⟨mtime, size⟩, cache]
  simp only [load, known]

/-- Loading again makes no difference. -/
theorem load_load : load F (load F self file).2 file = load F self file := by
  generalize loaded : load F self file = x
  obtain ⟨r, self'⟩ := x
  cases r with
  | error e =>
      obtain rfl := load_eq_error loaded
      exact loaded
  | ok store =>
      cases file with
      | none =>
          cases loaded
          rfl
      | some f =>
          obtain ⟨cache, mtime, size⟩ := load_eq_ok loaded
          exact load_of_stat cache mtime size

theorem put_of_loaded {card : CardType} {overwrite : Bool}
    (loaded : load F self file = (.ok store, self')) : put F self card overwrite file faults now =
      putLoaded F self' store card overwrite file faults now := by
  simp only [put, loaded]

theorem delete_of_loaded {id : Str} (loaded : load F self file = (.ok store, self')) :
    delete F self id file faults now = deleteLoaded F self' store id file faults now := by
  simp only [delete, loaded]

/-- A file that cannot be read is not written. -/
theorem run_of_raised {w : Write} (raised : load F self file = (.error e, self')) :
    w.run F self file faults now = (.error e, self, file) := by
  obtain rfl := load_eq_error raised
  cases w <;> simp only [Write.run, put, delete, raised] <;> rfl

/-- A write that fails leaves the file as it was. -/
theorem flush_eq_error (raised : flush F self store file faults now = (.error e, self', file')) :
    file' = file ∧ self'.cache = self.cache ∧ self'.mtimeNs = self.mtimeNs ∧
      self'.size = self.size := by
  unfold flush at raised
  split at raised
  · cases raised
    exact ⟨rfl, rfl, rfl, rfl⟩
  · split at raised
    · cases raised
      exact ⟨rfl, rfl, rfl, rfl⟩
    · cases raised

end FileKeyStore

/-! Files to run the store with. -/

/-- An ASCII letter in capitals. -/
def CodePoint.asciiUpper (c : CodePoint) : CodePoint :=
  if 97 ≤ c.val ∧ c.val ≤ 122 then ⟨c.val - 32, by omega⟩ else c

def CardFiles.sample : CardFiles where
  toJsonFile := .text
  runtime := Platform.transparent.toRuntime
  sorted v := JsonText.dumps .default v.sortKeys
  sha256 := Platform.transparent.sha256
  upper s := s.map CodePoint.asciiUpper

end Uxsp
