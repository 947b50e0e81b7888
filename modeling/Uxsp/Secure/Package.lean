import Uxsp.Python.Json

/-!
# `uxsp.secure._package`

The container a payload travels in.  Nothing in it is signed but what is inside the envelope.
-/

namespace Uxsp

structure SecurePackage where
  senderId : Str
  receiverId : Str
  dataType : Str
  isChunked : Bool
  envelope : Val
  chunks : Val
  metadata : Val

namespace SecurePackage

/-- Convert a package to a dictionary. -/
def toDict (p : SecurePackage) : Dict :=
  [("uxsp_package_version", .str "1.0"), ("sender_id", .str p.senderId),
    ("receiver_id", .str p.receiverId), ("data_type", .str p.dataType),
    ("is_chunked", .bool p.isChunked), ("envelope", p.envelope), ("chunks", p.chunks),
    ("metadata", p.metadata)]

/-- Serialize a package to JSON; the text is given by its bytes. -/
def toJson (R : Runtime) (p : SecurePackage) : Except PyErr Bytes := R.jsonDumps (.dict p.toDict)

/-- Construct a package from a dictionary. -/
def fromDict (R : Runtime) : Val → Except PyErr SecurePackage
  | .dict data => do
      let field (key : String) (default : Val) : Val := (Dict.get? data key).getD default
      let senderId ← R.str (field "sender_id" (.str []))
      let receiverId ← R.str (field "receiver_id" (.str []))
      let dataType ← R.str (field "data_type" (.str "file"))
      return {
        senderId := senderId
        receiverId := receiverId
        dataType := dataType
        isChunked := (field "is_chunked" (.bool false)).truthy
        envelope := field "envelope" .none
        chunks := field "chunks" (.list [])
        metadata := field "metadata" (.dict []) }
  | _ => .error ⟨.secureReceiveError, ["Package data must be a dictionary."]⟩

/-- Deserialize a package from JSON; every failure is a `SecureReceiveError`. -/
def fromJson (R : Runtime) (text : Bytes) : Except PyErr SecurePackage :=
  match (do fromDict R (← R.jsonLoads text)) with
  | .ok p => .ok p
  | .error e => .error ⟨.secureReceiveError, [.lit "Failed to parse JSON package: "] ++ e.msg⟩

variable {R : Runtime} {p : SecurePackage}

theorem toDict_wellKeyed (p : SecurePackage) : Dict.wellKeyed p.toDict = true :=
  @Dict.wellKeyed_of_keys _ ["uxsp_package_version", "sender_id", "receiver_id", "data_type",
    "is_chunked", "envelope", "chunks", "metadata"] rfl (by decide)

/-- A dict that kept the fields of a package is that package, but for the metadata. -/
theorem fromDict_of_keeps {data : Dict} (keeps : p.toDict.Keeps data)
    (senderId : p.senderId.encode.isSome = true) (receiverId : p.receiverId.encode.isSome = true)
    (dataType : p.dataType.encode.isSome = true) (envelope : p.envelope.plain = true)
    (chunks : p.chunks.plain = true) :
    ∃ metadata, fromDict R (.dict data) = .ok { p with metadata := metadata } := by
  have sender := keeps "sender_id" (.str p.senderId) (by simp [toDict]) senderId
  have receiver := keeps "receiver_id" (.str p.receiverId) (by simp [toDict]) receiverId
  have type := keeps "data_type" (.str p.dataType) (by simp [toDict]) dataType
  have chunked := keeps "is_chunked" (.bool p.isChunked) (by simp [toDict]) rfl
  have sealed := keeps "envelope" p.envelope (by simp [toDict]) envelope
  have list := keeps "chunks" p.chunks (by simp [toDict]) chunks
  refine ⟨(data.get? "metadata").getD (.dict []), ?_⟩
  simp only [fromDict, sender, receiver, type, chunked, sealed, list, Option.getD_some,
    Runtime.str_str, Val.truthy]
  rfl

/-- A package survives JSON, but for its metadata. -/
theorem fromJson_toJson (json : R.JsonCorrect) {text : Bytes} (written : p.toJson R = .ok text)
    (senderId : p.senderId.encode.isSome = true) (receiverId : p.receiverId.encode.isSome = true)
    (dataType : p.dataType.encode.isSome = true) (envelope : p.envelope.plain = true)
    (chunks : p.chunks.plain = true) :
    ∃ metadata, fromJson R text = .ok { p with metadata := metadata } := by
  rcases json.dumps p.toDict_wellKeyed written with ⟨data, read, keeps⟩
  rcases fromDict_of_keeps (R := R) keeps senderId receiverId dataType envelope chunks with
    ⟨metadata, built⟩
  refine ⟨metadata, ?_⟩
  rw [fromJson, read]
  simp only [bind, Except.bind, built]

/-- What JSON makes of the strings in a package. -/
def reread (p : SecurePackage) : SecurePackage where
  senderId := p.senderId.reread
  receiverId := p.receiverId.reread
  dataType := p.dataType.reread
  isChunked := p.isChunked
  envelope := p.envelope.reread
  chunks := p.chunks.reread
  metadata := p.metadata.reread

/-- A package as it is read back. -/
theorem fromJson_reread (json : R.JsonRereads) {text : Bytes} (written : p.toJson R = .ok text) :
    fromJson R text = .ok p.reread := by
  have read := json.dumps written
  rw [fromJson, read]
  simp only [bind, Except.bind, Val.reread, fromDict, Dict.reread_get? p.toDict_wellKeyed]
  simp [toDict, Val.reread, Val.truthy, reread, pure, Except.pure]

end SecurePackage

end Uxsp
