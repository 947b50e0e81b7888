import Uxsp.Core.Payload
import Uxsp.Lib.Assoc
import Uxsp.Secure.Engine

/-!
# `uxsp.secure._stream`

`sendStream` seals a long source piece by piece, each piece in a package of its own; `receiveStream`
opens package after package and writes what it finds.  Nothing tells the receiver which stream a
package belongs to, at which place, or how many there are.
-/

namespace Uxsp.Secure

variable {P : Platform}

/-! ## `uxsp.secure.types.binary` -/

/-- `SendBinary`, as a stream calls it. -/
def sendBinaryPiece (sender : Identity P) (peer : Peer) (data : Bytes) (filename : Option Str)
    (metadata : Dict) (checked now : ℚ) (coins : SendCoins) : Except PyErr SecurePackage := do
  let packed ← packBinary P.toRuntime data filename "application/octet-stream"
  sendPayload sender peer packed "binary" metadata checked now coins

/-- `ReceiveBinary`, as a stream calls it: the body is returned. -/
def receiveBinaryPiece (receiver : Identity P) (guard : ReplayGuard) (S : SeenStore) (s : S.State)
    (sender : Peer) (package : SecurePackage) (t : Identity.OpenReadings) :
    Except PyErr Bytes × S.State :=
  match receivePayload receiver guard S s ⟨sender, .package package, some "binary", t⟩ with
  | (.error e, s) => (.error e, s)
  | (.ok raw, s) => ((UXSPPayload.fromBytes P.toRuntime raw).map UXSPPayload.body, s)

/-! ## Sending -/

/-- What a stream is made of: a file or a handle that is read in pieces, with the last component of
the path where there is one, or an iterable of pieces. -/
inductive StreamSource
  | reads (name : Option Str) (data : Bytes)
  | items (xs : List Bytes)

namespace StreamSource

/-- The bytes of a source. -/
def bytes : StreamSource → Bytes
  | .reads _ data => data
  | .items xs => xs.flatten

/-- `_iter_chunks_from_source`.  `read(0)` returns nothing, `read` of a negative size everything. -/
def chunks (chunkSize : ℤ) : StreamSource → List Bytes
  | .reads _ data =>
      if 0 < chunkSize then Slices.slices chunkSize.toNat data
      else if chunkSize = 0 ∨ data = [] then [] else [data]
  | .items xs => xs.filter fun item => item ≠ []

end StreamSource

/-- `s or default`. -/
def orElse (s : Option Str) (default : Str) : Str :=
  match s with
  | some (c :: s) => c :: s
  | _ => default

/-- The arguments of `SendStream` that are the same for all packages. -/
structure StreamOptions where
  chunkSize : ℤ
  filename : Option Str
  metadata : Dict
  dataType : Str

namespace StreamOptions

variable (options : StreamOptions) (source : StreamSource)

/-- The file name that is packed with the pieces. -/
def fname : Option Str :=
  match source with
  | .reads (some name) _ => some (orElse options.filename name)
  | _ => options.filename

/-- The metadata of a package: those of the caller have precedence. -/
def chunkMeta (index : ℕ) : Dict :=
  Assoc.update [("stream_chunk_index", .int index),
    ("stream_filename", .str (orElse (options.fname source) "stream.bin"))] options.metadata

/-- The package of one piece. -/
def sendPiece (sender : Identity P) (peer : Peer) (piece : Bytes) (index : ℕ) (checked now : ℚ)
    (coins : SendCoins) : Except PyErr SecurePackage :=
  sendBinaryPiece sender peer piece (options.fname source) (options.chunkMeta source index) checked now
    coins

end StreamOptions

/-- `pkg.data_type = data_type`. -/
def retyped (dataType : Str) (package : SecurePackage) : SecurePackage :=
  { package with dataType := dataType }

/-- The packages `SendStream` yields.  A source without pieces makes one package, of type
`binary`. -/
def sendStream (sender : Identity P) (peer : Peer) (options : StreamOptions) (source : StreamSource)
    (checked now : ℕ → ℚ) (coins : ℕ → SendCoins) : Except PyErr (List SecurePackage) :=
  match source.chunks options.chunkSize with
  | [] => do
      return [← options.sendPiece source sender peer [] 0 (checked 0) (now 0) (coins 0)]
  | chunks => chunks.zipIdx.mapM fun (chunk, index) => do
      let package ← options.sendPiece source sender peer chunk index (checked index) (now index)
        (coins index)
      return retyped options.dataType package

/-- What `SendStream` writes to `output_destination`: the packages as JSON, one on a line. -/
def writeNdjson (R : Runtime) (packages : List SecurePackage) : Except PyErr Bytes := do
  let texts ← packages.mapM (SecurePackage.toJson R)
  return texts.flatMap fun text => text ++ [10]

/-! ## Receiving -/

/-- The white space of `str.strip`, in UTF-8. -/
def SPACES : List Bytes :=
  ["\x09", "\x0a", "\x0b", "\x0c", "\x0d", "\x1c", "\x1d", "\x1e", "\x1f", " ", "\u0085", "\u00a0",
    "\u1680", "\u2000", "\u2001", "\u2002", "\u2003", "\u2004", "\u2005", "\u2006", "\u2007",
    "\u2008", "\u2009", "\u200a", "\u2028", "\u2029", "\u202f", "\u205f", "\u3000"].map Bytes.lit

/-- Leave out spaces in front, at most so many. -/
def dropSpaces (spaces : List Bytes) : ℕ → Bytes → Bytes
  | 0, text => text
  | n + 1, text =>
      match spaces.find? fun space => space.isPrefixOf text with
      | some space => dropSpaces spaces n (text.drop space.length)
      | none => text

/-- `s.strip()` of a text in UTF-8. -/
def strip (text : Bytes) : Bytes :=
  let text := dropSpaces SPACES text.length text
  (dropSpaces (SPACES.map List.reverse) text.length text.reverse).reverse

/-- One element of what is iterated over.  A `text` is a string or bytes. -/
inductive StreamItem
  | package (p : SecurePackage)
  | text (b : Bytes)
  | other

/-- What `ReceiveStream` reads packages from: an iterable, a file that is opened as text, or a handle
that is iterated line by line. -/
inductive StreamInput
  | items (xs : List StreamItem)
  | file (text : Bytes)
  | handle (text : Bytes)

/-- The package on a line; a blank line is left out. -/
def parseLine (R : Runtime) (line : Bytes) : Option (Except PyErr SecurePackage) :=
  if strip line = [] then none else some (SecurePackage.fromJson R (strip line))

def StreamItem.package? (R : Runtime) : StreamItem → Option (Except PyErr SecurePackage)
  | .package p => some (.ok p)
  | .text b => parseLine R b
  | .other => none

/-- `_iter_packages`: the packages in order, or what stands in the place of one that cannot be
read.  A file has universal newlines. -/
def iterPackages (R : Runtime) : StreamInput → List (Except PyErr SecurePackage)
  | .items xs => xs.filterMap (StreamItem.package? R)
  | .file text => (text.splitOnP fun b => b == 10 || b == 13).filterMap (parseLine R)
  | .handle text => (text.splitOnP fun b => b == 10).filterMap (parseLine R)

/-- The number of bytes that is returned, what was written, and the replay state. -/
structure Received (S : SeenStore) where
  result : Except PyErr ℕ
  written : Bytes
  state : S.State

/-- The loop over the packages, from the package at a place on. -/
def receivePackages (receiver : Identity P) (guard : ReplayGuard) (S : SeenStore) (sender : Peer)
    (t : ℕ → Identity.OpenReadings) :
    ℕ → Bytes → ℕ → S.State → List (Except PyErr SecurePackage) → Received S
  | _, out, total, s, [] => ⟨.ok total, out, s⟩
  | _, out, _, s, .error e :: _ => ⟨.error e, out, s⟩
  | index, out, total, s, .ok package :: rest =>
      match receiveBinaryPiece receiver guard S s sender package (t index) with
      | (.error e, s) => ⟨.error e, out, s⟩
      | (.ok chunk, s) => receivePackages receiver guard S sender t (index + 1) (out ++ chunk)
          (total + chunk.length) s rest

/-- `ReceiveStream`. -/
def receiveStream (receiver : Identity P) (guard : ReplayGuard) (S : SeenStore) (s : S.State)
    (sender : Peer) (t : ℕ → Identity.OpenReadings) (input : StreamInput) : Received S :=
  receivePackages receiver guard S sender t 0 [] 0 s (iterPackages P.toRuntime input)

end Uxsp.Secure
