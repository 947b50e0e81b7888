import Uxsp.Crypto.Transparent
import Uxsp.Js.Handshake

/-!
# A platform without secrecy for the JavaScript SDK

`Platform.js` is the JavaScript SDK on the primitives of a Python platform: keys of X25519 and
Ed25519 are the raw ones behind the header of `pkcs8`.  `JsPlatform.transparent` computes, with an
ML-KEM and an ML-DSA that have the sizes of the real ones and show their keys.
-/

namespace Uxsp

/-- What Web Crypto throws. -/
def operationError : JsErr := ⟨.domException, [.lit "The operation failed"]⟩

/-- The same result, with the exception of Web Crypto. -/
def webResult {α : Type} : Except PyErr α → Except JsErr α
  | .ok a => .ok a
  | .error _ => .error operationError

theorem webResult_eq_ok {α : Type} {x : Except PyErr α} {a : α} :
    webResult x = .ok a ↔ x = .ok a := by
  cases x with
  | error e => exact ⟨nofun, nofun⟩
  | ok b => simp [webResult]

/-- The header of an X25519 key; of an Ed25519 key with `0x70`. -/
def pkcs8Header (curve : UInt8) : Bytes :=
  [0x30, 0x2e, 0x02, 0x01, 0x00, 0x30, 0x05, 0x06, 0x03, 0x2b, 0x65, curve, 0x04, 0x22, 0x04, 0x20]

def pkcs8 (curve : UInt8) (privateKey : Bytes) : Bytes := pkcs8Header curve ++ privateKey

def importPkcs8 (curve : UInt8) (key : Bytes) : Except JsErr Bytes :=
  match Bytes.dropPrefix (pkcs8Header curve) key with
  | some privateKey => .ok privateKey
  | none => .error operationError

def Platform.js (P : Platform) (R : JsRuntime) (oqs : Option Oqs) : JsPlatform where
  toJsRuntime := R
  x25519Keypair := fun coins => ⟨pkcs8 0x6e coins, P.x25519Public coins⟩
  x25519 := fun privateKey publicKey => do
    webResult (P.x25519 (← importPkcs8 0x6e privateKey) publicKey)
  ed25519Sign := fun privateKey data => do
    webResult (P.ed25519Sign (← importPkcs8 0x70 privateKey) data)
  ed25519Verify := fun publicKey signature data => .ok (P.ed25519Verify publicKey signature data)
  hkdf := fun ikm salt info length => .ok (P.hkdf length (some salt) info ikm)
  hmacSha256 := fun key data => .ok (P.hmacSha256 key data)
  sha256 := P.sha256
  aesGcmEncrypt := fun key nonce plaintext ad => webResult (P.aesgcmEncrypt key nonce plaintext ad)
  aesGcmDecrypt := fun key nonce ciphertext ad => webResult (P.aesgcmDecrypt key nonce ciphertext ad)
  oqs := oqs

/-- `n` bytes of `b`, filled up with zeros. -/
def Bytes.sized (n : ℕ) (b : Bytes) : Bytes := (b ++ List.replicate n 0).take n

theorem Bytes.length_sized (n : ℕ) (b : Bytes) : (Bytes.sized n b).length = n := by
  rw [Bytes.sized, List.length_take, List.length_append, List.length_replicate]
  omega

/-- A ciphertext shows the key and the secret, a signature the key and what is signed. -/
def Oqs.transparent : Oqs where
  encapsulate := fun publicKey coins => .ok (Bytes.sized 1088 (publicKey ++ coins), coins)
  encapsulate_length := by
    intro publicKey coins ciphertext s encapsulated
    cases encapsulated
    exact ⟨Bytes.length_sized _ _, coins.2⟩
  decapsulate := fun ciphertext privateKey =>
    .ok (Bytes.sized 32 (ciphertext.drop privateKey.length))
  decapsulate_length := by
    intro ciphertext privateKey s opened
    cases opened
    exact Bytes.length_sized _ _
  sign := fun data privateKey _ => .ok (Bytes.sized 3309 (privateKey ++ data))
  verify := fun data signature publicKey =>
    .ok (signature == Bytes.sized 3309 (publicKey ++ data))
  verify_length := by
    intro data signature publicKey valid
    have same : signature = Bytes.sized 3309 (publicKey ++ data) := by
      simpa using Except.ok.inj valid
    rw [same]
    exact Bytes.length_sized _ _

/-- Whole numbers are printed with their digits; no text is JSON. -/
def JsRuntime.plain : JsRuntime where
  numberToString := fun
    | .finite q => JsStr.ofStr (Str.ofInt ⌊q⌋)
    | .inf negative => if negative then "-Infinity" else "Infinity"
    | .nan => "NaN"
  stringToNumber := fun _ => .nan
  integer := fun n => .finite n
  jsonStringify := fun _ => []
  jsonParse := fun _ => .error ⟨.error, [.lit "Unexpected end of JSON input"]⟩
  decodeUtf8 := fun b => b.map fun x => UInt16.ofNat x.toNat
  localeCompare := fun s t => compare (s.map UInt16.toNat) (t.map UInt16.toNat)
  toLowerCase := fun s => s.map fun u => if 65 ≤ u && u ≤ 90 then u + 32 else u

def JsPlatform.transparent : JsPlatform :=
  Platform.transparent.js .plain (some .transparent)

/-! ## Parties -/

/-- A key pair of a transparent primitive; a private key of Web Crypto is in `pkcs8`. -/
def transparentKeypair (header key : Bytes) : JsKeypair where
  publicKey := JsStr.encodeBase64 key
  privateKey := JsStr.encodeBase64 (header ++ key)

/-- An identity with the four keys of the sizes 32, 64, 32 and 1952. -/
def JsIdentity.transparent (name : String) (x : UInt8) : JsIdentity where
  entityId := name
  exchange := transparentKeypair (pkcs8Header 0x6e) (List.replicate 32 x)
  kem := transparentKeypair [] (List.replicate 64 x)
  signing := transparentKeypair (pkcs8Header 0x70) (List.replicate 32 x)
  pqcSig := transparentKeypair [] (List.replicate 1952 x)

def JsCoins.transparent (x : UInt8) : JsCoins where
  exchange := ⟨List.replicate 32 x, List.length_replicate⟩
  kem := ⟨List.replicate 32 x, List.length_replicate⟩
  stubSecret := ⟨List.replicate 32 x, List.length_replicate⟩
  stubCiphertext := ⟨List.replicate 32 x, List.length_replicate⟩
  signing := ⟨List.replicate 32 x, List.length_replicate⟩

/-- A store that takes a nonce once and forgets none. -/
def JsNonceStore.unbounded : JsNonceStore where
  State := List JsStr
  markUsed := fun seen nonce _ _ => (.ok !seen.contains nonce, nonce :: seen)

end Uxsp
