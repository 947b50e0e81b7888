import Uxsp.Secure.Authenticity
import Uxsp.Secure.Receivers

/-!
# Where received files go

The sender of a file chooses its name, and a receiver joins the name to the directory that its
caller asked for.  `saved_inside_iff` says which names leave the file in that directory.
`unpackToFile` drops all but the last part of a name: `unpackToFile_inside`.
-/

namespace Uxsp

/-- A place directly inside a directory. -/
def Location.Holds (d l : Location) : Prop := ∃ name, l = d ++ [name]

/-- A name that, read as a path from a directory, leads to one name below it. -/
def LeadsInside (name : Str) (d : Location) : Prop := d.Holds ((PosixPath.ofStr name).resolve d)

theorem leadsInside_of_isPart {name : Str} {d : Location} (isPart : name.IsPart)
    (up : name ≠ "..") : LeadsInside name d := by
  obtain ⟨relative, single⟩ := PosixPath.ofStr_of_isPart isPart
  refine ⟨name, ?_⟩
  rw [PosixPath.resolve, relative, single, List.foldl_cons, List.foldl_nil, Location.follow,
    if_neg up]
  rfl

/-- The name under which `unpack_to_file` saves a payload. -/
def safeName (filename : Str) : Str :=
  let name := (PosixPath.ofStr filename).name
  if name = [] ∨ name = "." ∨ name = ".." then "uxsp_payload.bin" else name

/-- `unpack_to_file`. -/
def unpackToFile (R : Runtime) (t : FileTree) (raw : Bytes) (outputDir : PosixPath) :
    Except PyErr (Location × FileTree) := do
  let payload ← UXSPPayload.fromBytes R raw
  ensure (payload.kind ≠ .text)
    (UXSPPayload.invalid ["Expected file/binary payload, got ", .str payload.kind.str, "."])
  let t ← t.mkdir outputDir
  t.writeBytes (outputDir.join (safeName (payload.nameOr "uxsp_payload.bin"))) payload.body

theorem leadsInside_safeName (filename : Str) (d : Location) :
    LeadsInside (safeName filename) d := by
  by_cases special : (PosixPath.ofStr filename).name = [] ∨ (PosixPath.ofStr filename).name = "." ∨
      (PosixPath.ofStr filename).name = ".."
  · rw [safeName, if_pos special]
    exact leadsInside_of_isPart ⟨by decide, by decide, by decide⟩ (by decide)
  · rw [safeName, if_neg special]
    have up : (PosixPath.ofStr filename).name ≠ ".." := fun same => special (.inr (.inr same))
    refine leadsInside_of_isPart ?_ up
    unfold PosixPath.name at special ⊢
    cases last : (PosixPath.ofStr filename).parts.getLast? with
    | none =>
        rw [last] at special
        exact absurd (.inl rfl) special
    | some part => exact PosixPath.isPart _ part (List.mem_of_getLast? last)

/-- What `unpack_to_file` writes lies in the directory it was given. -/
theorem unpackToFile_inside {R : Runtime} {t t' : FileTree} {raw : Bytes} {outputDir : PosixPath}
    {l : Location} (unpacked : unpackToFile R t raw outputDir = .ok (l, t')) :
    (outputDir.resolve t.cwd).Holds l := by
  simp only [unpackToFile, bind_eq_ok] at unpacked
  obtain ⟨payload, _, _, _, between, made, wrote⟩ := unpacked
  have cwd : between.cwd = t.cwd := FileTree.cwd_makeDirs made
  obtain ⟨place, _⟩ := FileTree.writeBytes_eq wrote
  rw [cwd, PosixPath.resolve_join] at place
  rw [place]
  exact leadsInside_safeName _ _

namespace Secure

variable {P : Platform} {site : Site P} {S : SeenStore} {s s' : S.State} {t t' : FileTree}
  {a : Arrival P} {receipt : Receipt} {l : Location} {dir : PosixPath}

/-- The directory that a download path denotes. -/
def downloadDir (site : Site P) (t : FileTree) : Option Str → Option PosixPath
  | none => some site.defaultOutputDir
  | some path => if denotesDir t path then some (.ofStr path) else none

/-- A download into a directory is joined to it. -/
theorem resolveDownloadTarget_eq {downloadPath : Option Str} (name : Str)
    (denotes : downloadDir site t downloadPath = some dir) :
    resolveDownloadTarget site.defaultOutputDir t downloadPath name = do
      let t ← t.mkdir dir
      return (dir.join name, t) := by
  unfold downloadDir at denotes
  split at denotes
  · cases denotes
    rfl
  · split at denotes
    · rename_i spelled
      cases denotes
      exact if_pos spelled
    · cases denotes

/-- A download into a directory goes where the name leads from there. -/
theorem download_eq {downloadPath : Option Str} {name : Str} {body : Bytes} {target : PosixPath}
    (denotes : downloadDir site t downloadPath = some dir)
    (downloaded : download site t downloadPath name body = .ok (target, l, t')) :
    l = (PosixPath.ofStr name).resolve (dir.resolve t.cwd) := by
  simp only [download, resolveDownloadTarget_eq name denotes, bind_eq_ok, pure_eq_ok] at downloaded
  obtain ⟨_, ⟨between, made, rfl⟩, ⟨place, after⟩, wrote, same⟩ := downloaded
  cases same
  rw [(FileTree.writeBytes_eq wrote).1, PosixPath.resolve_join, FileTree.cwd_makeDirs made]

/-! ## The receivers -/

/-- The name that a receiver gives a payload without one. -/
def Receiver.defaultName : Receiver → String
  | .video => "received_video.mp4"
  | .audio => "received_audio.mp3"
  | .photo => "received_photo.jpg"
  | .document => "received_document.bin"
  | .pdf => "received_document.pdf"
  | .archive => "received_archive.zip"
  | .file => "received_file.bin"
  | .voice => "received_voice.ogg"
  | .binary => "received.bin"
  | .text => "received_text.txt"
  | .json => "received.json"
  | .html => "received.html"
  | .fallback => "received_payload.bin"
  | .location | .contact | .liveSession | .liveVoiceCall => ""

/-- The name under which a receiver saves a payload. -/
def Receiver.nameIn (P : Platform) (r : Receiver) (raw : Bytes) : Str :=
  match r, UXSPPayload.fromBytes P.toRuntime raw with
  | .text, _ | .json, _ | .html, _ | _, .error _ => r.defaultName
  | _, .ok payload => payload.nameOr r.defaultName

/-- A file that is written goes where this name leads from the directory of the download. -/
def SavedUnder (site : Site P) (t : FileTree) (a : Arrival P) (name : Str) (receipt : Receipt) :
    Prop :=
  ∀ l dir, receipt.saved = some l → downloadDir site t a.downloadPath = some dir →
    l = (PosixPath.ofStr name).resolve (dir.resolve t.cwd)

variable {raw : Bytes} {r : Receiver}

theorem saveBody_facts {default : Str} (unpacked : saveBody site t a default raw = .ok receipt) :
    ∃ payload, UXSPPayload.fromBytes P.toRuntime raw = .ok payload ∧
      SavedUnder site t a (payload.nameOr default) receipt := by
  simp only [saveBody, bind_eq_ok, pure_eq_ok] at unpacked
  obtain ⟨payload, opened, ⟨target, place, after⟩, downloaded, rfl⟩ := unpacked
  refine ⟨payload, opened, fun l dir saved denotes => ?_⟩
  cases saved
  exact download_eq denotes downloaded

theorem saveIfAsked_facts {item : Item} {name : Str} {body : Except PyErr Bytes}
    (returned : saveIfAsked site t a item name body = .ok receipt) :
    SavedUnder site t a name receipt := by
  intro l dir saved denotes
  unfold saveIfAsked at returned
  split at returned
  · cases returned
    cases saved
  · rename_i path asked
    simp only [bind_eq_ok, pure_eq_ok] at returned
    obtain ⟨_, _, ⟨target, place, after⟩, downloaded, rfl⟩ := returned
    cases saved
    rw [asked] at denotes
    exact download_eq denotes downloaded

theorem unpackFallback_facts (unpacked : unpackFallback site t a raw = .ok receipt) :
    SavedUnder site t a (Receiver.nameIn P .fallback raw) receipt := by
  intro l dir saved denotes
  have name : (fallbackContents (P := P) raw).1 = Receiver.nameIn P .fallback raw := by
    unfold fallbackContents Receiver.nameIn
    cases UXSPPayload.fromBytes P.toRuntime raw <;> rfl
  unfold unpackFallback at unpacked
  split at unpacked
  · cases unpacked
    cases saved
  · rename_i path asked
    simp only [bind_eq_ok, pure_eq_ok] at unpacked
    obtain ⟨⟨target, place, after⟩, downloaded, rfl⟩ := unpacked
    cases saved
    rw [asked] at denotes
    rw [← name]
    exact download_eq denotes downloaded

/-- A receiver saves the payload that it received under the name it has for it. -/
theorem Receiver.run_facts (received : r.run site S s t a = (.ok receipt, s'))
    (saved : receipt.saved = some l) :
    ∃ raw, secureReceivePayload site S s a r.expectedType = (.ok raw, s') ∧
      SavedUnder site t a (r.nameIn P raw) receipt := by
  cases r with
  | video | audio | photo | document | pdf | archive | file | voice =>
      obtain ⟨raw, opened, unpacked⟩ := receiveWith_eq_ok.mp received
      obtain ⟨payload, parsed, under⟩ := saveBody_facts unpacked
      refine ⟨raw, opened, ?_⟩
      simp only [Receiver.nameIn, parsed]
      exact under
  | binary =>
      obtain ⟨raw, opened, unpacked⟩ := receiveWith_eq_ok.mp received
      obtain ⟨payload, parsed, returned⟩ := bind_eq_ok.mp unpacked
      refine ⟨raw, opened, ?_⟩
      simp only [Receiver.nameIn, parsed]
      exact saveIfAsked_facts returned
  | text =>
      obtain ⟨raw, opened, unpacked⟩ := receiveWith_eq_ok.mp received
      obtain ⟨text, _, returned⟩ := bind_eq_ok.mp unpacked
      exact ⟨raw, opened, saveIfAsked_facts returned⟩
  | html =>
      obtain ⟨raw, opened, unpacked⟩ := receiveWith_eq_ok.mp received
      simp only [unpackHtml, bind_eq_ok] at unpacked
      obtain ⟨payload, _, text, _, returned⟩ := unpacked
      exact ⟨raw, opened, saveIfAsked_facts returned⟩
  | json =>
      obtain ⟨raw, opened, unpacked⟩ := receiveWith_eq_ok.mp received
      simp only [unpackJson, bind_eq_ok, pure_eq_ok] at unpacked
      obtain ⟨payload, _, text, _, first, returned, v, _, rfl⟩ := unpacked
      exact ⟨raw, opened, fun l dir => saveIfAsked_facts returned l dir⟩
  | fallback =>
      obtain ⟨raw, opened, unpacked⟩ := receiveWith_eq_ok.mp received
      exact ⟨raw, opened, unpackFallback_facts unpacked⟩
  | location =>
      obtain ⟨raw, opened, unpacked⟩ := receiveWith_eq_ok.mp received
      simp only [unpackLocation, bind_eq_ok, pure_eq_ok] at unpacked
      obtain ⟨payload, _, text, _, v, _, rfl⟩ := unpacked
      cases saved
  | contact =>
      obtain ⟨raw, opened, unpacked⟩ := receiveWith_eq_ok.mp received
      simp only [unpackContact, bind_eq_ok] at unpacked
      obtain ⟨payload, _, text, _, unpacked⟩ := unpacked
      split at unpacked
      · cases unpacked
        cases saved
      · split at unpacked
        · cases unpacked
          cases saved
        · cases unpacked
  | liveSession =>
      simp only [run, receiveLiveSession] at received
      split at received
      · cases received
      · obtain ⟨raw, opened, unpacked⟩ := receiveWith_eq_ok.mp received
        simp only [unpackLiveSession, bind_eq_ok, pure_eq_ok] at unpacked
        obtain ⟨d, _, session, _, rfl⟩ := unpacked
        cases saved
  | liveVoiceCall =>
      simp only [run, receiveLiveVoiceCall] at received
      split at received
      · cases received
      · obtain ⟨raw, opened, unpacked⟩ := receiveWith_eq_ok.mp received
        simp only [unpackLiveVoiceCall, bind_eq_ok, pure_eq_ok] at unpacked
        obtain ⟨d, _, session, _, rfl⟩ := unpacked
        cases saved

/-! ## Where they save it -/

/-- The functions that a package is handed to: `Receive`, or one of the receivers themselves. -/
inductive Entry
  | receive
  | receiver (r : Receiver)

def Entry.run (site : Site P) (S : SeenStore) (s : S.State) (t : FileTree) (a : Arrival P) :
    Entry → Except PyErr Receipt × S.State
  | .receive => Secure.receive site S s t a
  | .receiver r => r.run site S s t a

/-- The receiver that the package comes to. -/
def Entry.receiverFor (site : Site P) (package : PackageInput) : Entry → Receiver
  | .receive => match resolvePackageInput P.toRuntime package with
      | .ok package => receiverOf site.codecs package.dataType
      | .error _ => .fallback
  | .receiver r => r

/-- A file that was received into a directory lies directly inside it if and only if the name it was
given leads inside. -/
theorem saved_inside_iff {entry : Entry} (received : entry.run site S s t a = (.ok receipt, s'))
    (saved : receipt.saved = some l) (denotes : downloadDir site t a.downloadPath = some dir) :
    ∃ raw, secureReceivePayload site S s a
        (entry.receiverFor site a.package).expectedType = (.ok raw, s') ∧
      ((dir.resolve t.cwd).Holds l ↔
        LeadsInside ((entry.receiverFor site a.package).nameIn P raw)
          (dir.resolve t.cwd)) := by
  have place : ∃ raw, secureReceivePayload site S s a
        (entry.receiverFor site a.package).expectedType = (.ok raw, s') ∧
      SavedUnder site t a ((entry.receiverFor site a.package).nameIn P raw) receipt := by
    cases entry with
    | receiver r => exact Receiver.run_facts received saved
    | receive =>
        simp only [Entry.run, receive] at received
        split at received
        · cases received
        · rename_i package resolved
          obtain ⟨raw, opened, under⟩ := Receiver.run_facts received saved
          rw [secureReceivePayload_resolved resolved] at opened
          simp only [Entry.receiverFor, resolved]
          exact ⟨raw, opened, under⟩
  obtain ⟨raw, opened, under⟩ := place
  exact ⟨raw, opened, by rw [under l dir saved denotes, LeadsInside]⟩

/-! A file with a plain name, and one whose name leads out. -/

def sampleTree : FileTree where
  node := fun l => if l = [] ∨ l = ["home"] ∨ l = ["home", "in"] then some .dir else none
  cwd := []
  creatable := fun _ => true
  root_dir := rfl
  cwd_dir := rfl
  parent_dir := by
    intro l some there
    by_cases dir : l = [] ∨ l = ["home"] ∨ l = ["home", "in"]
    · obtain rfl | rfl | rfl := dir
      · exact absurd rfl some
      · rfl
      · rfl
    · exact absurd (if_neg dir) there

def sampleSite : Site .textual where
  identity := sampleRecipient
  guard := .default
  peers := fun _ => none
  defaultOutputDir := .ofStr "/home/in"
  codecs := ⟨fun _ _ => .ok [], fun _ => .ok .none, fun _ => .ok [], Chunking.lowerAscii, id⟩

/-- The recipient saves a package in its default directory. -/
def sampleArrival (package : SecurePackage) : Arrival .textual where
  sender := .card sampleSender.card
  package := .package package
  downloadPath := none
  readings := sampleReadings
  freshKey := .filled 32 0
  freshId := .filled 16 0

/-- A file is sent under a name and received. -/
def sampleReceipt (name : Str) : Except PyErr (SecurePackage × Receipt) := do
  let payload ← packBinary Platform.textual.toRuntime [1, 2] (some name) "image/png"
  let package ← sampleSend payload
  let receipt ← ((Entry.receiver .file).run sampleSite MemoryNonceStore.seenStore .empty sampleTree
    (sampleArrival package)).1
  return (package, receipt)

theorem exists_sampleReceipt (name : Str) (l : Location)
    (computed : ((sampleReceipt name).toOption.bind fun sent => sent.2.saved) = some l) :
    ∃ package receipt s', (Entry.receiver .file).run sampleSite MemoryNonceStore.seenStore .empty
      sampleTree (sampleArrival package) = (.ok receipt, s') ∧ receipt.saved = some l := by
  obtain ⟨⟨package, receipt⟩, returned, saved⟩ := Option.bind_eq_some_iff.mp computed
  have sent := Except.of_toOption returned
  simp only [sampleReceipt, bind_eq_ok, pure_eq_ok, Prod.mk.injEq] at sent
  obtain ⟨_, _, _, _, _, received, rfl, rfl⟩ := sent
  exact ⟨_, _, _, Prod.ext received rfl, saved⟩

/-- A file with a plain name. -/
theorem sample_saved_inside : ∃ package receipt s' raw,
    (Entry.receiver .file).run sampleSite MemoryNonceStore.seenStore .empty sampleTree
      (sampleArrival package) = (.ok receipt, s') ∧
    (Location.Holds ["home", "in"] ["home", "in", "x.png"] ↔
      LeadsInside (Receiver.nameIn .textual .file raw) ["home", "in"]) := by
  obtain ⟨package, receipt, s', received, saved⟩ :=
    exists_sampleReceipt "x.png" ["home", "in", "x.png"] (by decide +kernel)
  obtain ⟨raw, _, iff⟩ := saved_inside_iff received saved rfl
  exact ⟨package, receipt, s', raw, received, iff⟩

/-- A name that starts with `..` leads out of the directory. -/
theorem saved_outside : ¬ ∀ (P : Platform) (site : Site P) (S : SeenStore) (s s' : S.State)
    (t : FileTree) (a : Arrival P) (entry : Entry) (receipt : Receipt) (l : Location)
    (dir : PosixPath), entry.run site S s t a = (.ok receipt, s') → receipt.saved = some l →
      downloadDir site t a.downloadPath = some dir → (dir.resolve t.cwd).Holds l := by
  intro always
  obtain ⟨package, receipt, s', received, saved⟩ :=
    exists_sampleReceipt "../x.png" ["home", "x.png"] (by decide +kernel)
  have place : sampleSite.defaultOutputDir.resolve sampleTree.cwd = ["home", "in"] := by decide
  obtain ⟨name, same⟩ := always _ _ _ _ _ _ _ _ _ _ _ received saved rfl
  rw [place] at same
  cases congrArg List.length same

end Secure

end Uxsp
