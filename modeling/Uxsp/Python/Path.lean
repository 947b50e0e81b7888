import Uxsp.Python.Value

/-!
# Paths and files

POSIX paths as `pathlib` reads them, and a tree of directories and files without links.  A path that
leads anywhere in the tree leads where its text says: `FileTree.directory_eq`.
-/

namespace Uxsp

/-- What may stand between two slashes of a path and is kept. -/
def Str.IsPart (part : Str) : Prop := part ≠ [] ∧ part ≠ "." ∧ .ofChar '/' ∉ part

structure PosixPath where
  absolute : Bool
  parts : List Str
  isPart : ∀ part ∈ parts, part.IsPart

namespace PosixPath

theorem slash_notMem_of_mem_splitOn {sep : CodePoint} {s part : Str} (mem : part ∈ s.splitOn sep) :
    sep ∉ part := by
  induction s generalizing part with
  | nil =>
      rw [List.splitOn_nil, List.mem_singleton] at mem
      rw [mem]
      exact List.not_mem_nil
  | cons c s ih =>
      rw [List.splitOn_cons_eq_if_modifyHead] at mem
      split at mem
      · obtain rfl | later := List.mem_cons.mp mem
        · exact List.not_mem_nil
        · exact ih later
      · rename_i other
        cases parts : s.splitOn sep with
        | nil => exact absurd parts (List.splitOn_ne_nil sep s)
        | cons first rest =>
            rw [parts, List.modifyHead_cons, List.mem_cons] at mem
            rw [parts] at ih
            obtain rfl | later := mem
            · intro inside
              obtain rfl | inside := List.mem_cons.mp inside
              · exact other (beq_self_eq_true _)
              · exact ih List.mem_cons_self inside
            · exact ih (List.mem_cons_of_mem _ later)

/-- `Path(s)`. -/
def ofStr (s : Str) : PosixPath where
  absolute := s.head? = some (.ofChar '/')
  parts := (s.splitOn (.ofChar '/')).filter fun part => part ≠ [] ∧ part ≠ "."
  isPart := by
    intro part mem
    obtain ⟨mem, kept⟩ := List.mem_filter.mp mem
    obtain ⟨some, dot⟩ := of_decide_eq_true kept
    exact ⟨some, dot, slash_notMem_of_mem_splitOn mem⟩

/-- `p / name`. -/
def join (p : PosixPath) (name : Str) : PosixPath :=
  let q := ofStr name
  if q.absolute then q
  else {
    absolute := p.absolute
    parts := p.parts ++ q.parts
    isPart := fun part mem => (List.mem_append.mp mem).elim (p.isPart part) (q.isPart part) }

def parent (p : PosixPath) : PosixPath where
  absolute := p.absolute
  parts := p.parts.dropLast
  isPart := fun part mem => p.isPart part (List.mem_of_mem_dropLast mem)

def name (p : PosixPath) : Str := p.parts.getLast?.getD []

/-- `bool(p.suffix)`: a dot that is neither the first nor the last character of the name. -/
def hasSuffix (p : PosixPath) : Bool :=
  let tail := p.name.reverse.takeWhile (· ≠ .ofChar '.')
  tail ≠ [] && decide (tail.length + 1 < p.name.length)

/-- A name without a slash is one part. -/
theorem ofStr_of_isPart {part : Str} (isPart : part.IsPart) :
    (ofStr part).absolute = false ∧ (ofStr part).parts = [part] := by
  obtain ⟨some, dot, slash⟩ := isPart
  constructor
  · refine decide_eq_false fun first => slash ?_
    exact List.mem_of_mem_head? first
  · change (part.splitOn (.ofChar '/')).filter _ = [part]
    rw [List.splitOn_eq_singleton slash]
    exact List.filter_cons_of_pos (decide_eq_true ⟨some, dot⟩)

end PosixPath

/-- A place in a tree: the names on the way there from the root. -/
abbrev Location : Type := List Str

/-- Where a part of a path leads from a directory. -/
def Location.follow (l : Location) (part : Str) : Location :=
  if part = ".." then l.dropLast else l ++ [part]

/-- Where a path leads from a directory, by its text. -/
def PosixPath.resolve (p : PosixPath) (base : Location) : Location :=
  p.parts.foldl Location.follow (if p.absolute then [] else base)

inductive Node
  | dir
  | file (content : Bytes)
  deriving DecidableEq

/-- A tree of directories and files, the working directory, and where the process may make
something. -/
structure FileTree where
  node : Location → Option Node
  cwd : Location
  creatable : Location → Bool
  root_dir : node [] = some .dir
  cwd_dir : node cwd = some .dir
  parent_dir : ∀ {l}, l ≠ [] → node l ≠ none → node l.dropLast = some .dir

namespace FileTree

variable {t t' : FileTree} {l m : Location} {p : PosixPath} {parts : List Str}

/-- Make a directory or a file, or replace a file. -/
def add (t : FileTree) (l : Location) (n : Node) : Except PyErr FileTree :=
  if fits : l ≠ [] ∧ t.node l.dropLast = some .dir ∧ t.node l ≠ some .dir ∧
      t.creatable l = true then
    .ok {
      node := fun m => if m = l then some n else t.node m
      cwd := t.cwd
      creatable := t.creatable
      root_dir := by rw [if_neg fits.1.symm, t.root_dir]
      cwd_dir := by
        rw [if_neg, t.cwd_dir]
        intro same
        exact fits.2.2.1 (same ▸ t.cwd_dir)
      parent_dir := by
        intro m some there
        have parent : t.node m.dropLast = .some .dir := by
          by_cases same : m = l
          · rw [same]
            exact fits.2.1
          · rw [if_neg same] at there
            exact t.parent_dir some there
        rw [if_neg, parent]
        intro same
        exact fits.2.2.1 (same ▸ parent) }
  else .error ⟨.osError, ["cannot create"]⟩

/-- The directory that some parts lead to. -/
def walk (t : FileTree) (l : Location) : List Str → Option Location
  | [] => some l
  | part :: parts =>
      if t.node (l.follow part) = some .dir then t.walk (l.follow part) parts else none

/-- The directory that a path leads to. -/
def directory (t : FileTree) (p : PosixPath) : Option Location :=
  t.walk (if p.absolute then [] else t.cwd) p.parts

/-- `p.is_dir()`. -/
def isDir (t : FileTree) (p : PosixPath) : Bool := (t.directory p).isSome

def makeDirs : List Str → Location → FileTree → Except PyErr FileTree
  | [], _, t => .ok t
  | part :: parts, l, t =>
      match t.node (l.follow part) with
      | some .dir => makeDirs parts (l.follow part) t
      | some (.file _) => .error ⟨.osError, ["File exists"]⟩
      | none => do makeDirs parts (l.follow part) (← t.add (l.follow part) .dir)

/-- `p.mkdir(parents=True, exist_ok=True)`. -/
def mkdir (t : FileTree) (p : PosixPath) : Except PyErr FileTree :=
  makeDirs p.parts (if p.absolute then [] else t.cwd) t

/-- `p.write_bytes(body)`: the place of the file, and the tree with it. -/
def writeBytes (t : FileTree) (p : PosixPath) (body : Bytes) :
    Except PyErr (Location × FileTree) :=
  match t.directory p.parent with
  | none => .error ⟨.osError, ["No such file or directory"]⟩
  | some l => do
      ensure (p.parts ≠ [] ∧ p.name ≠ "..") ⟨.osError, ["Is a directory"]⟩
      let t ← t.add (l.follow p.name) (.file body)
      return (l.follow p.name, t)

theorem walk_eq (walked : t.walk l parts = some m) : m = parts.foldl Location.follow l := by
  induction parts generalizing l with
  | nil => exact (Option.some.inj walked).symm
  | cons part parts ih =>
      rw [walk] at walked
      split at walked
      · exact ih walked
      · cases walked

/-- A directory lies where the text of its path says. -/
theorem directory_eq (there : t.directory p = some l) : l = p.resolve t.cwd := walk_eq there

theorem cwd_add {n : Node} (added : t.add l n = .ok t') : t'.cwd = t.cwd := by
  unfold add at added
  split at added
  · cases added
    rfl
  · cases added

theorem node_add {n : Node} (added : t.add l n = .ok t') :
    t'.node l = some n ∧ ∀ m, m ≠ l → t'.node m = t.node m := by
  unfold add at added
  split at added
  · cases added
    exact ⟨if_pos rfl, fun m other => if_neg other⟩
  · cases added

theorem cwd_makeDirs (made : makeDirs parts l t = .ok t') : t'.cwd = t.cwd := by
  induction parts generalizing l t with
  | nil =>
      cases made
      rfl
  | cons part parts ih =>
      unfold makeDirs at made
      split at made
      · exact ih made
      · cases made
      · obtain ⟨between, added, made⟩ := bind_eq_ok.mp made
        exact (ih made).trans (cwd_add added)

/-- A file lies where the text of its path says, and nothing else changes. -/
theorem writeBytes_eq {body : Bytes} (wrote : t.writeBytes p body = .ok (l, t')) :
    l = p.resolve t.cwd ∧ t'.node l = some (.file body) ∧ ∀ m, m ≠ l → t'.node m = t.node m := by
  unfold writeBytes at wrote
  split at wrote
  · cases wrote
  · rename_i d there
    simp only [bind_eq_ok, ensure_eq_ok, pure_eq_ok, Prod.mk.injEq, decide_eq_true_eq] at wrote
    obtain ⟨_, ⟨some, _⟩, after, added, rfl, rfl⟩ := wrote
    refine ⟨?_, node_add added⟩
    rw [directory_eq there, PosixPath.resolve, PosixPath.resolve, PosixPath.name,
      List.getLast?_eq_some_getLast some, Option.getD_some]
    conv_rhs => rw [← List.dropLast_append_getLast some]
    rw [List.foldl_append]
    rfl

end FileTree

/-- A joined path is followed from where the first one leads. -/
theorem PosixPath.resolve_join (p : PosixPath) (name : Str) (base : Location) :
    (p.join name).resolve base = (ofStr name).resolve (p.resolve base) := by
  unfold join resolve
  by_cases absolute : (ofStr name).absolute = true
  · simp only [absolute, if_true]
  · simp only [absolute, if_false, List.foldl_append, Bool.false_eq_true]

end Uxsp
