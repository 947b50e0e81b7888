import Uxsp.Core.CardDict
import Uxsp.Crypto.Seal
import Uxsp.Python.JsonCanonical

/-!
# `uxsp.core.identity`: encrypted files

An identity is stored as its public metadata and its private keys, which are encrypted under a key
derived from a password.  The associated data are the sorted text of the metadata, or the entity id
in a file that does not say `public-metadata-v1`.  A file may put any value into most attributes.
-/

namespace Uxsp

/-- The keypair of an identity: the generators of the post-quantum pairs add their algorithm. -/
structure Keypair extends HybridKeypair where
  kemAlgorithm : Option Str
  pqcSigAlgorithm : Option Str
  deriving DecidableEq

/-- `generate_hybrid_keypair()`. -/
def Keypair.generate (P : Platform) (kemAlgorithm pqcSigAlgorithm : Str) (exchange : Urandom 32)
    (kem : Urandom 64) (signing pqcSig : Urandom 32) : Keypair where
  toHybridKeypair := generateHybridKeypair P exchange kem signing pqcSig
  kemAlgorithm := some kemAlgorithm
  pqcSigAlgorithm := some pqcSigAlgorithm

/-- No pair has an `algorithm`. -/
def Keypair.Unlabelled (k : Keypair) : Prop := k.kemAlgorithm = none ∧ k.pqcSigAlgorithm = none

/-- What identity files use of other libraries: JSON with `indent=2`, capital letters and Argon2id
with the parameters of `derive_key_from_password`. -/
structure IdentityFiles extends JsonFile where
  upper : Str → Str
  hashSecretRaw : (secret salt : Bytes) → Except PyErr Bytes

/-- The attributes of an identity that was read from a file. -/
structure IdentityAttributes where
  entityId : Val
  name : Val
  role : Str
  keypair : Keypair
  createdAt : Val
  keyVersion : Val
  keysRotatedAt : Val

/-- An identity whose attributes are of their types.  Its role was validated and `created_at` filled
in when it was made; key versions are counted or read from JSON, and so they print. -/
structure StoredIdentity (F : IdentityFiles) where
  entityId : Str
  name : Str
  role : Str
  keypair : Keypair
  createdAt : Str
  keyVersion : ℤ
  keysRotatedAt : Option Str
  valid : validateRole F.upper (.str role) = .ok role
  created : createdAt ≠ []
  counted : Str.printable keyVersion

namespace IdentityFiles

variable (P : Platform) (F : IdentityFiles)

def VERSION : String := "UXSP-IDENTITY-1"

def BOUND : String := "public-metadata-v1"

/-- A member of a dict under its name, if it is there. -/
def memberOf (payload : Dict) (key : String) : Dict :=
  match payload.get? key with
  | some v => [(key, v)]
  | none => []

/-- A member that is true, under its name. -/
def truthyOf (payload : Dict) (key : String) : Dict :=
  match payload.get? key with
  | some v => if v.truthy then [(key, v)] else []
  | none => []

def metadataDict (version entityId name role createdAt publicKeys : Val) (optional : Dict) : Dict :=
  ("version", version) :: ("entity_id", entityId) :: ("name", name) :: ("role", role) ::
    ("created_at", createdAt) :: ("public_keys", publicKeys) :: optional

/-- `_identity_public_metadata`. -/
def identityPublicMetadata (payload : Dict) : Except PyErr Dict := do
  let version ← payload.item "version"
  let entityId ← payload.item "entity_id"
  let name ← payload.item "name"
  let role ← payload.item "role"
  let createdAt ← payload.item "created_at"
  let publicKeys ← payload.item "public_keys"
  return metadataDict version entityId name role createdAt publicKeys
    (memberOf payload "key_version" ++ truthyOf payload "keys_rotated_at")

/-- `_identity_associated_data`. -/
def identityAssociatedData (R : Runtime) (payload : Dict) : Except PyErr Bytes := do
  let metadata ← identityPublicMetadata payload
  R.jsonCompact (Val.dict metadata).sortKeys

/-- `derive_key_from_password`; a salt that is drawn has 16 bytes. -/
def deriveKeyFromPassword (password : Str) (salt : Bytes) : Except PyErr Bytes := do
  ensure (8 ≤ salt.length) ⟨.valueError, ["Salt must be at least 8 bytes long."]⟩
  let secret ← password.utf8
  F.hashSecretRaw secret salt

/-- The private keys as they are encrypted. -/
def privateKeys (k : HybridKeypair) : Dict :=
  [("exchange_priv", .str k.exchange.privateKey.hex), ("kem_priv", .str k.kem.privateKey.hex),
    ("signing_priv", .str k.signing.privateKey.hex), ("pqc_sig_priv", .str k.pqcSig.privateKey.hex)]

/-- `encrypted_private`. -/
def encryptedPrivate (enc : Symmetric.Encrypted) (salt : Bytes) : Dict :=
  [("ciphertext", .str enc.ciphertext.hex), ("nonce", .str enc.nonce.hex),
    ("kdf_salt", .str salt.hex), ("associated_data", .str BOUND)]

/-! ## Reading -/

/-- `v.encode()`. -/
def encodeVal : Val → Except PyErr Bytes
  | .str s => s.utf8
  | v => .error ⟨.attributeError, ["'", v.typeName, "' object has no attribute 'encode'"]⟩

/-- The associated data that the block asks for. -/
def associatedDataOf (R : Runtime) (payload block : Dict) : Except PyErr Bytes :=
  catching [.keyError] (fun e => ⟨.valueError, [.lit "missing required metadata field: "] ++ e.msg⟩)
    (if Val.eqStr (block.get? "associated_data") BOUND then identityAssociatedData R payload
    else do encodeVal (← payload.item "entity_id"))

/-- A field of the block in hex. -/
def blockField (block : Dict) (key : String) (msg : Msg) : Except PyErr Bytes :=
  catching [.keyError, .typeError, .valueError] (fun _ => ⟨.valueError, msg⟩) (hexField block key)

/-- The private keys in a block. -/
def decryptPrivate (payload block : Dict) (password : Str) : Except PyErr Val := do
  let salt ← blockField block "kdf_salt" ["invalid encrypted_private metadata"]
  let key ← F.deriveKeyFromPassword password salt
  let associatedData ← associatedDataOf P.toRuntime payload block
  let ct ← blockField block "ciphertext" ["encrypted_private block is malformed."]
  let nonce ← blockField block "nonce" ["encrypted_private block is malformed."]
  match Symmetric.decrypt P ct nonce key associatedData with
  | .ok rawPriv =>
      catching [.unicodeDecodeError, .jsonDecodeError]
        (fun _ => ⟨.valueError, ["private key payload is malformed."]⟩) (P.jsonLoads rawPriv)
  | .error _ => .error ⟨.valueError, ["Wrong password or corrupted file."]⟩

/-- The keys of a pair, which stand in two objects. -/
def readPair (priv pub : Val) (privateName publicName : String) : Except PyErr RawKeypair := do
  let privateKey ← fromHexVal (← valItem priv privateName)
  let publicKey ← fromHexVal (← valItem pub publicName)
  return ⟨privateKey, publicKey⟩

def readKeypair (priv pub : Val) : Except PyErr HybridKeypair := do
  let exchange ← readPair priv pub "exchange_priv" "exchange_pub"
  let kem ← readPair priv pub "kem_priv" "kem_pub"
  let signing ← readPair priv pub "signing_priv" "signing_pub"
  let pqcSig ← readPair priv pub "pqc_sig_priv" "pqc_sig_pub"
  return ⟨exchange, kem, signing, pqcSig⟩

/-- The arguments of `Identity(...)` in a payload; `now` stands in for a `created_at` that is
empty. -/
def construct (payload : Dict) (keypair : HybridKeypair) (now : Str) :
    Except PyErr IdentityAttributes := do
  let entityId ← payload.item "entity_id"
  let name ← payload.item "name"
  let role ← payload.item "role"
  let createdAt ← payload.item "created_at"
  let role ← validateRole F.upper role
  return {
    entityId := entityId
    name := name
    role := role
    keypair := ⟨keypair, none, none⟩
    createdAt := if createdAt.truthy then createdAt else .str now
    keyVersion := (payload.get? "key_version").getD (.int 1)
    keysRotatedAt := (payload.get? "keys_rotated_at").getD .none }

def fromEncryptedDict (password now : Str) : Val → Except PyErr IdentityAttributes
  | .dict payload => do
      ensure (Val.eqStr (Dict.get? payload "version") VERSION) (P.err .valueError
        ["Unknown identity file version: ", .val ((Dict.get? payload "version").getD .none)])
      match Dict.get? payload "encrypted_private" with
      | some (.dict block) => do
          let priv ← F.decryptPrivate P payload block password
          let pub ← catching [.keyError]
            (fun _ => ⟨.valueError, ["private key payload is malformed."]⟩)
            (Dict.item payload "public_keys")
          let keypair ← catching [.keyError, .typeError, .valueError]
            (fun _ => ⟨.valueError, ["malformed key material"]⟩) (readKeypair priv pub)
          F.construct payload keypair now
      | _ => .error ⟨.valueError, ["Identity payload missing encrypted_private section."]⟩
  | _ => .error ⟨.valueError, ["Payload must be a dictionary."]⟩

end IdentityFiles

/-! ## Writing -/

namespace StoredIdentity

variable {F : IdentityFiles} (P : Platform) (i : StoredIdentity F)

/-- `keys_rotated_at`. -/
def rotatedAt : Val :=
  match i.keysRotatedAt with
  | some s => .str s
  | none => .none

/-- The payload without its encrypted part. -/
def metadata : Dict :=
  [("version", .str IdentityFiles.VERSION), ("entity_id", .str i.entityId), ("name", .str i.name),
    ("role", .str i.role), ("created_at", .str i.createdAt), ("key_version", .int i.keyVersion),
    ("keys_rotated_at", i.rotatedAt),
    ("public_keys", .dict (extractPublicKeys i.keypair.toHybridKeypair).toDict)]

/-- `to_encrypted_dict`; the salt and the nonce are drawn. -/
def toEncryptedDict (password : Str) (salt : Urandom 16) (nonce : Urandom NONCE_SIZE) :
    Except PyErr Dict := do
  let key ← F.deriveKeyFromPassword password salt
  let privateData ← P.jsonDumps (.dict (IdentityFiles.privateKeys i.keypair.toHybridKeypair))
  let associatedData ← IdentityFiles.identityAssociatedData P.toRuntime i.metadata
  let enc ← Symmetric.encrypt P privateData key associatedData nonce
  return i.metadata ++
    ([("encrypted_private", .dict (IdentityFiles.encryptedPrivate enc salt))] : Dict)

/-- `i == j`. -/
def eq (j : IdentityAttributes) : Bool :=
  Val.eqStr (some j.entityId) i.entityId && j.keyVersion.eqInt i.keyVersion &&
    decide (i.keypair = j.keypair)

/-- `save`: the text of the payload under a path. -/
def save (files : Str → Option Bytes) (path password : Str) (salt : Urandom 16)
    (nonce : Urandom NONCE_SIZE) : Except PyErr (Str → Option Bytes) := do
  let payload ← i.toEncryptedDict P password salt nonce
  let text ← F.dumps (.dict payload)
  return Function.update files path (some text)

/-- `load`. -/
def load (P : Platform) (F : IdentityFiles) (files : Str → Option Bytes)
    (path password now : Str) : Except PyErr IdentityAttributes :=
  match files path with
  | some text => do
      let payload ← F.toJsonFile.load text
      F.fromEncryptedDict P password now payload
  | none => .error ⟨.osError, ["No such file or directory: ", .str path]⟩

end StoredIdentity

/-! ## What was written and what is read -/

namespace IdentityFiles

variable {P : Platform} {F : IdentityFiles} {R : Runtime} {payload block : Dict} {password now : Str}
  {j : IdentityAttributes}

theorem identityPublicMetadata_eq_ok {m : Dict} : identityPublicMetadata payload = .ok m ↔
    ∃ version entityId name role createdAt publicKeys, payload.get? "version" = some version ∧
      payload.get? "entity_id" = some entityId ∧ payload.get? "name" = some name ∧
      payload.get? "role" = some role ∧ payload.get? "created_at" = some createdAt ∧
      payload.get? "public_keys" = some publicKeys ∧
      m = metadataDict version entityId name role createdAt publicKeys
        (memberOf payload "key_version" ++ truthyOf payload "keys_rotated_at") := by
  simp only [identityPublicMetadata, bind_eq_ok, Dict.item_eq_ok, pure_eq_ok]
  constructor
  · rintro ⟨version, v, entityId, e, name, n, role, r, createdAt, c, publicKeys, p, rfl⟩
    exact ⟨version, entityId, name, role, createdAt, publicKeys, v, e, n, r, c, p, rfl⟩
  · rintro ⟨version, entityId, name, role, createdAt, publicKeys, v, e, n, r, c, p, rfl⟩
    exact ⟨version, v, entityId, e, name, n, role, r, createdAt, c, publicKeys, p, rfl⟩

theorem blockField_eq_ok {key : String} {msg : Msg} {b : Bytes} :
    blockField block key msg = .ok b ↔ hexField block key = .ok b := catching_eq_ok

theorem decryptPrivate_eq_ok {priv : Val} : F.decryptPrivate P payload block password = .ok priv ↔
    ∃ salt key ad ct nonce text, hexField block "kdf_salt" = .ok salt ∧
      F.deriveKeyFromPassword password salt = .ok key ∧
      associatedDataOf P.toRuntime payload block = .ok ad ∧ hexField block "ciphertext" = .ok ct ∧
      hexField block "nonce" = .ok nonce ∧ Symmetric.decrypt P ct nonce key ad = .ok text ∧
      P.jsonLoads text = .ok priv := by
  simp only [decryptPrivate, bind_eq_ok, blockField_eq_ok]
  constructor
  · rintro ⟨salt, s, key, k, ad, a, ct, c, nonce, n, read⟩
    split at read
    · rename_i text opened
      exact ⟨salt, key, ad, ct, nonce, text, s, k, a, c, n, opened, catching_eq_ok.mp read⟩
    · cases read
  · rintro ⟨salt, key, ad, ct, nonce, text, s, k, a, c, n, opened, read⟩
    refine ⟨salt, s, key, k, ad, a, ct, c, nonce, n, ?_⟩
    rw [opened]
    exact catching_eq_ok.mpr read

theorem construct_eq_ok {keypair : HybridKeypair} : F.construct payload keypair now = .ok j ↔
    ∃ entityId name role createdAt role', payload.get? "entity_id" = some entityId ∧
      payload.get? "name" = some name ∧ payload.get? "role" = some role ∧
      payload.get? "created_at" = some createdAt ∧ validateRole F.upper role = .ok role' ∧
      j = ⟨entityId, name, role', ⟨keypair, none, none⟩,
        if createdAt.truthy then createdAt else .str now,
        (payload.get? "key_version").getD (.int 1),
        (payload.get? "keys_rotated_at").getD .none⟩ := by
  simp only [construct, bind_eq_ok, Dict.item_eq_ok, pure_eq_ok]
  constructor
  · rintro ⟨entityId, e, name, n, role, r, createdAt, c, role', valid, rfl⟩
    exact ⟨entityId, name, role, createdAt, role', e, n, r, c, valid, rfl⟩
  · rintro ⟨entityId, name, role, createdAt, role', e, n, r, c, valid, rfl⟩
    exact ⟨entityId, e, name, n, role, r, createdAt, c, role', valid, rfl⟩

theorem fromEncryptedDict_eq_ok : F.fromEncryptedDict P password now (.dict payload) = .ok j ↔
    payload.get? "version" = some (.str VERSION) ∧
      ∃ block priv pub keypair, payload.get? "encrypted_private" = some (.dict block) ∧
        F.decryptPrivate P payload block password = .ok priv ∧
        payload.get? "public_keys" = some pub ∧ readKeypair priv pub = .ok keypair ∧
        F.construct payload keypair now = .ok j := by
  simp only [fromEncryptedDict, bind_eq_ok, ensure_eq_ok, Val.eqStr_eq_true]
  constructor
  · rintro ⟨_, version, read⟩
    split at read
    · rename_i block found
      simp only [bind_eq_ok, catching_eq_ok, Dict.item_eq_ok] at read
      obtain ⟨priv, opened, pub, keys, keypair, pairs, made⟩ := read
      exact ⟨version, block, priv, pub, keypair, found, opened, keys, pairs, made⟩
    · cases read
  · rintro ⟨version, block, priv, pub, keypair, found, opened, keys, pairs, made⟩
    refine ⟨(), version, ?_⟩
    rw [found]
    simp only [bind_eq_ok, catching_eq_ok, Dict.item_eq_ok]
    exact ⟨priv, opened, pub, keys, keypair, pairs, made⟩

end IdentityFiles

namespace StoredIdentity

variable {P : Platform} {F : IdentityFiles} {i : StoredIdentity F} {password : Str}
  {salt : Urandom 16} {nonce : Urandom NONCE_SIZE} {payload : Dict}

theorem toEncryptedDict_eq_ok : i.toEncryptedDict P password salt nonce = .ok payload ↔
    ∃ key text ad enc, F.deriveKeyFromPassword password salt = .ok key ∧
      P.jsonDumps (.dict (IdentityFiles.privateKeys i.keypair.toHybridKeypair)) = .ok text ∧
      IdentityFiles.identityAssociatedData P.toRuntime i.metadata = .ok ad ∧
      Symmetric.encrypt P text key ad nonce = .ok enc ∧
      payload = i.metadata ++
        ([("encrypted_private", .dict (IdentityFiles.encryptedPrivate enc salt))] : Dict) := by
  simp only [toEncryptedDict, bind_eq_ok, pure_eq_ok]
  constructor
  · rintro ⟨key, k, text, t, ad, a, enc, e, rfl⟩
    exact ⟨key, text, ad, enc, k, t, a, e, rfl⟩
  · rintro ⟨key, text, ad, enc, k, t, a, e, rfl⟩
    exact ⟨key, k, text, t, ad, a, enc, e, rfl⟩

end StoredIdentity

end Uxsp
