import Uxsp.Secure.Receivers

/-!
# `Send`

`Send` packs what it is given by its type and seals it.  A string that names a file stands for the
file, which is given packed.
-/

namespace Uxsp.Secure

variable {P : Platform}

/-- What `Send` is given: bytes, a value, a path or an object of another type. -/
inductive SendItem
  | bytes (b : Bytes)
  | value (v : Val)
  | path (name : Str)
  | other (typeName : String)

/-- The file that a string or path names, packed with its data type. -/
abbrev Files : Type := Str → Option (Except PyErr (Bytes × Str))

/-- `pack_text` in UTF-8. -/
def packText (R : Runtime) (text : Str) : Except PyErr Bytes := do
  let body ← text.utf8
  UXSPPayload.toBytes R ⟨.text, body, none, "text/plain", some "utf-8"⟩

/-- The payload of `SendJSON`. -/
def packJSON (R : Runtime) (codecs : Codecs) (data : Val) : Except PyErr Bytes :=
  match codecs.dumps data with
  | .error e => .error ⟨.secureSendError, [.lit "Data is not JSON-serializable: "] ++ e.msg⟩
  | .ok text => do
      let body ← text.utf8
      UXSPPayload.toBytes R ⟨.text, body, none, "application/json", some "utf-8"⟩

def cannotInfer (typeName : String) : PyErr :=
  ⟨.secureSendError, ["Cannot automatically infer data type for item of type ", typeName]⟩

/-- The payload of an item and its data type. -/
def packItem (R : Runtime) (codecs : Codecs) (files : Files) :
    SendItem → Except PyErr (Bytes × Str)
  | .bytes b => do
      let payload ← packBinary R b none "application/octet-stream"
      return (payload, "binary")
  | .value (.str s) =>
      match files s with
      | some packed => packed
      | none => do
          let payload ← packText R s
          return (payload, "text")
  | .value (.list xs) => do
      let payload ← packJSON R codecs (.list xs)
      return (payload, "json")
  | .value (.dict d) => do
      let payload ← packJSON R codecs (.dict d)
      return (payload, "json")
  | .value v => .error (cannotInfer v.typeName)
  | .path name => (files name).getD (.error (cannotInfer "PosixPath"))
  | .other typeName => .error (cannotInfer typeName)

/-- When something is sent, and the random bytes of it. -/
structure SendReadings where
  checked : ℚ
  now : ℚ
  coins : SendCoins

/-- `Send(receiver=card, item=item, sender=sender)`. -/
def send (codecs : Codecs) (files : Files) (sender : Identity P) (receiver : Card)
    (item : SendItem) (t : SendReadings) : Except PyErr SecurePackage := do
  let (payload, dataType) ← packItem P.toRuntime codecs files item
  sendPayload sender ⟨receiver.entityId, receiver⟩ payload dataType [] t.checked t.now t.coins

/-- `SendBinary`. -/
def sendBinary (sender : Identity P) (receiver : Card) (data : Bytes) (t : SendReadings) :
    Except PyErr SecurePackage := do
  let payload ← packBinary P.toRuntime data none "application/octet-stream"
  sendPayload sender ⟨receiver.entityId, receiver⟩ payload "binary" [] t.checked t.now t.coins

end Uxsp.Secure
