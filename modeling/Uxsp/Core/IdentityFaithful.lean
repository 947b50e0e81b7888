import Uxsp.Core.IdentityFile
import Uxsp.Lib.Table

/-!
# Identity files: what is read back

A file gives back the identity that was written to it, but for the algorithms in the dict of a
generated keypair, which `==` compares, and for surrogate pairs.
-/

namespace Uxsp

/-- With an indent JSON holds the values that it holds without. -/
def IdentityFiles.Indents (F : IdentityFiles) : Prop :=
  ∀ {v text}, JsonText.val .default v = some text → ∃ t, F.dumps v = .ok t

namespace StoredIdentity

open IdentityFiles

variable {P : Platform} {F : IdentityFiles} {i : StoredIdentity F} {R : Runtime} {role : Str}
  {payload : Dict}

/-! ## The metadata of an identity -/

/-- The payload has the members of the identity, with this text for its role. -/
structure Carries (i : StoredIdentity F) (role : Str) (payload : Dict) : Prop where
  version : payload.get? "version" = some (.str VERSION)
  entityId : payload.get? "entity_id" = some (.str i.entityId)
  name : payload.get? "name" = some (.str i.name)
  role : payload.get? "role" = some (.str role)
  createdAt : payload.get? "created_at" = some (.str i.createdAt)
  keyVersion : payload.get? "key_version" = some (.int i.keyVersion)
  keysRotatedAt : payload.get? "keys_rotated_at" = some i.rotatedAt
  publicKeys : payload.get? "public_keys" =
    some (.dict (extractPublicKeys i.keypair.toHybridKeypair).toDict)

theorem carries_metadata : i.Carries i.role i.metadata := by
  constructor <;> simp [metadata]

/-- What is bound of `keys_rotated_at`. -/
def rotatedItem (i : StoredIdentity F) : Dict :=
  if i.rotatedAt.truthy then [("keys_rotated_at", i.rotatedAt)] else []

/-- The public metadata, with this text for the role. -/
def publicMetadata (i : StoredIdentity F) (role : Str) : Dict :=
  metadataDict (.str VERSION) (.str i.entityId) (.str i.name) (.str role) (.str i.createdAt)
    (.dict (extractPublicKeys i.keypair.toHybridKeypair).toDict)
    (("key_version", .int i.keyVersion) :: i.rotatedItem)

theorem Carries.publicMetadata (carries : i.Carries role payload) :
    identityPublicMetadata payload = .ok (i.publicMetadata role) := by
  refine identityPublicMetadata_eq_ok.mpr ⟨_, _, _, _, _, _, carries.version, carries.entityId,
    carries.name, carries.role, carries.createdAt, carries.publicKeys, ?_⟩
  rw [memberOf, carries.keyVersion, truthyOf, carries.keysRotatedAt]
  rfl

/-! ## Their text -/

/-- The metadata in the order of their names. -/
def sortedMetadata (v e n r c p k : Val) (rotated : Dict) : Dict :=
  ("created_at", c) :: ("entity_id", e) :: ("key_version", k) :: (rotated ++
    ([("name", n), ("public_keys", p), ("role", r), ("version", v)] : Dict))

theorem sortKeys_publicMetadata (i : StoredIdentity F) (role : Str) :
    (Val.dict (i.publicMetadata role)).sortKeys = .dict (sortedMetadata (.str VERSION)
      (.str i.entityId) (.str i.name) (.str role) (.str i.createdAt)
      (Val.dict (extractPublicKeys i.keypair.toHybridKeypair).toDict).sortKeys (.int i.keyVersion)
      i.rotatedItem) := by
  unfold publicMetadata rotatedItem rotatedAt
  cases i.keysRotatedAt with
  | none => rfl
  | some s => cases s <;> rfl

theorem rotatedItem_cases (i : StoredIdentity F) :
    i.rotatedItem = [] ∨ ∃ s, i.rotatedItem = ([("keys_rotated_at", .str s)] : Dict) := by
  unfold rotatedItem rotatedAt
  cases i.keysRotatedAt with
  | none => exact Or.inl rfl
  | some s =>
      cases s with
      | nil => exact Or.inl rfl
      | cons c s => exact Or.inr ⟨c :: s, rfl⟩

theorem writes_publicKeys (keys : PublicKeys) :
    JsonText.Writes .compact (Val.dict keys.toDict).sortKeys := by
  have sorted : (Val.dict keys.toDict).sortKeys = .dict (("exchange_pub", .str keys.exchangePub.hex) ::
      ("kem_pub", .str keys.kemPub.hex) :: ("pqc_sig_pub", .str keys.pqcSigPub.hex) ::
        ([("signing_pub", .str keys.signingPub.hex)] : Dict)) := rfl
  rw [sorted]
  exact ⟨_, rfl⟩

/-- The metadata have a text; in it the role is written as it is read back, the entity id is shorter,
and it is in ASCII. -/
theorem exists_text (exact : R.JsonExact) (i : StoredIdentity F) (role : Str) : ∃ ad,
    R.jsonCompact (Val.dict (i.publicMetadata role)).sortKeys = .ok ad ∧
      R.jsonCompact (Val.dict (i.publicMetadata role.reread)).sortKeys = .ok ad ∧
      (JsonText.body i.entityId).length ≤ ad.length ∧ JsonText.Printable ad := by
  obtain ⟨keys, written⟩ := writes_publicKeys (extractPublicKeys i.keypair.toHybridKeypair)
  obtain ⟨digits, number⟩ : ∃ digits, JsonText.number i.keyVersion = some digits :=
    ⟨_, if_pos i.counted⟩
  have again : JsonText.val .compact (Val.dict (i.publicMetadata role.reread)).sortKeys =
      JsonText.val .compact (Val.dict (i.publicMetadata role)).sortKeys := by
    rw [sortKeys_publicMetadata, sortKeys_publicMetadata, sortedMetadata, sortedMetadata]
    obtain none | ⟨s, some⟩ := i.rotatedItem_cases
    · simp only [none, List.nil_append, JsonText.val, JsonText.members, JsonText.body_reread]
    · simp only [some, List.cons_append, List.nil_append, JsonText.val, JsonText.members,
        JsonText.body_reread]
  have text : ∃ ad, JsonText.val .compact (Val.dict (i.publicMetadata role)).sortKeys = some ad ∧
      (JsonText.body i.entityId).length ≤ ad.length := by
    rw [sortKeys_publicMetadata, sortedMetadata]
    obtain none | ⟨s, some⟩ := i.rotatedItem_cases
    · simp only [none, List.nil_append, JsonText.val, JsonText.members, number, written,
        Option.bind_eq_bind, Option.bind_some, Option.pure_def, Option.some.injEq, exists_eq_left']
      simp only [List.length_cons, List.length_append]
      omega
    · simp only [some, List.cons_append, List.nil_append, JsonText.val, JsonText.members, number,
        written, Option.bind_eq_bind, Option.bind_some, Option.pure_def, Option.some.injEq,
        exists_eq_left']
      simp only [List.length_cons, List.length_append]
      omega
  obtain ⟨ad, written, length⟩ := text
  have printable : JsonText.Printable JsonText.Separators.compact.comma ∧
      JsonText.Printable JsonText.Separators.compact.colon := ⟨rfl, rfl⟩
  exact ⟨ad, exact.compact written, exact.compact (again.trans written), length,
    JsonText.printable_val printable.1 printable.2 written⟩

/-! ## Keys -/

/-- The members hold the four public keys. -/
structure HoldsPublic (k : HybridKeypair) (pub : Dict) : Prop where
  exchange : pub.get? "exchange_pub" = some (.str k.exchange.publicKey.hex)
  kem : pub.get? "kem_pub" = some (.str k.kem.publicKey.hex)
  signing : pub.get? "signing_pub" = some (.str k.signing.publicKey.hex)
  pqcSig : pub.get? "pqc_sig_pub" = some (.str k.pqcSig.publicKey.hex)

theorem holdsPublic_toDict (k : HybridKeypair) : HoldsPublic k (extractPublicKeys k).toDict := by
  constructor <;> simp [PublicKeys.toDict, extractPublicKeys]

theorem fromHexVal_hex (b : Bytes) : fromHexVal (.str b.hex) = .ok b := by
  rw [fromHexVal, Str.fromHex_hex]

/-- A member that holds the hex text of some bytes. -/
theorem hexField_of_get? {d : Dict} {name : String} {b : Bytes}
    (found : d.get? name = some (.str b.hex)) : hexField d name = .ok b :=
  hexField_eq_ok.mpr ⟨_, found, fromHexVal_hex b⟩

/-- Private keys that were read back make a keypair with their public keys. -/
theorem readKeypair_of_holds {k : HybridKeypair} {pub : Dict} (holds : HoldsPublic k pub) :
    readKeypair (Val.dict (privateKeys k)).reread (.dict pub) = .ok k := by
  have keyed : Dict.wellKeyed (privateKeys k) = true := @Dict.wellKeyed_of_keys _
    ["exchange_priv", "kem_priv", "signing_priv", "pqc_sig_priv"] rfl (by decide)
  have secret : ∀ {name : String} {b : Bytes}, (privateKeys k).get? name = some (.str b.hex) →
      valItem (Val.dict (privateKeys k)).reread name = .ok (.str b.hex) := by
    intro name b found
    rw [Val.reread]
    refine Dict.item_eq_ok.mpr ?_
    rw [Dict.reread_get? keyed, found, Option.map_some, Val.reread, Str.reread_hex]
  have pair : ∀ {a b : String} {x : RawKeypair},
      (privateKeys k).get? a = some (.str x.privateKey.hex) →
        pub.get? b = some (.str x.publicKey.hex) →
          readPair (Val.dict (privateKeys k)).reread (.dict pub) a b = .ok x := by
    intro a b x here there
    have shown : valItem (.dict pub) b = .ok (.str x.publicKey.hex) := Dict.item_eq_ok.mpr there
    simp only [readPair, secret here, shown, bind_eq_ok, Except.ok.injEq, exists_eq_left',
      fromHexVal_hex, pure_eq_ok]
  simp only [readKeypair, bind_eq_ok, pure_eq_ok]
  exact ⟨_, pair (by simp [privateKeys]) holds.exchange, _, pair (by simp [privateKeys]) holds.kem,
    _, pair (by simp [privateKeys]) holds.signing, _, pair (by simp [privateKeys]) holds.pqcSig,
    rfl⟩

/-! ## Reading a file of one's own -/

variable {password now : Str} {salt : Urandom 16} {nonce : Urandom NONCE_SIZE}
  {key text ad : Bytes} {enc : Symmetric.Encrypted} {r : Str} {j : IdentityAttributes}

/-- What is read back of an identity whose role is read as `r`. -/
def loaded (i : StoredIdentity F) (r : Str) : IdentityAttributes where
  entityId := .str i.entityId
  name := .str i.name
  role := r
  keypair := ⟨i.keypair.toHybridKeypair, none, none⟩
  createdAt := .str i.createdAt
  keyVersion := .int i.keyVersion
  keysRotatedAt := i.rotatedAt

theorem truthy_str {s : Str} (nonempty : s ≠ []) : (Val.str s).truthy = true := by
  cases s with
  | nil => exact absurd rfl nonempty
  | cons c s => rfl

theorem Carries.construct (carries : i.Carries role payload) {k : HybridKeypair} :
    F.construct payload k now = .ok j ↔ ∃ r, validateRole F.upper (.str role) = .ok r ∧
      j = { i.loaded r with keypair := ⟨k, none, none⟩ } := by
  have made : ∀ r, (⟨.str i.entityId, .str i.name, r, ⟨k, none, none⟩,
      if (Val.str i.createdAt).truthy then .str i.createdAt else .str now,
      (payload.get? "key_version").getD (.int 1),
      (payload.get? "keys_rotated_at").getD .none⟩ : IdentityAttributes) =
        { i.loaded r with keypair := ⟨k, none, none⟩ } := by
    intro r
    rw [carries.keyVersion, carries.keysRotatedAt, if_pos (truthy_str i.created)]
    rfl
  rw [construct_eq_ok]
  constructor
  · rintro ⟨e, n, v, c, r, entityId, name, role, createdAt, valid, rfl⟩
    cases carries.entityId.symm.trans entityId
    cases carries.name.symm.trans name
    cases carries.role.symm.trans role
    cases carries.createdAt.symm.trans createdAt
    exact ⟨r, valid, made r⟩
  · rintro ⟨r, valid, rfl⟩
    exact ⟨_, _, _, _, r, carries.entityId, carries.name, carries.role, carries.createdAt, valid,
      (made r).symm⟩

/-- A payload with the members of an identity and its sealed keys, under the text that was bound. -/
theorem Carries.fromEncryptedDict (json : P.JsonRereads) (correct : P.AeadCorrect)
    (derived : F.deriveKeyFromPassword password salt = .ok key)
    (dumped : P.jsonDumps (.dict (privateKeys i.keypair.toHybridKeypair)) = .ok text)
    (encrypted : Symmetric.encrypt P text key ad nonce = .ok enc)
    (carries : i.Carries role payload)
    (block : payload.get? "encrypted_private" = some (.dict (encryptedPrivate enc salt)))
    (bound : P.jsonCompact (Val.dict (i.publicMetadata role)).sortKeys = .ok ad) :
    F.fromEncryptedDict P password now (.dict payload) = .ok j ↔
      ∃ r, validateRole F.upper (.str role) = .ok r ∧ j = i.loaded r := by
  have marked : Val.eqStr ((encryptedPrivate enc salt).get? "associated_data") BOUND = true := by
    simp [encryptedPrivate]
  have binding : associatedDataOf P.toRuntime payload (encryptedPrivate enc salt) = .ok ad := by
    rw [associatedDataOf, if_pos marked]
    exact catching_eq_ok.mpr (bind_eq_ok.mpr ⟨_, carries.publicMetadata, bound⟩)
  have opened : F.decryptPrivate P payload (encryptedPrivate enc salt) password =
      .ok (Val.dict (privateKeys i.keypair.toHybridKeypair)).reread :=
    decryptPrivate_eq_ok.mpr ⟨salt, key, ad, enc.ciphertext, enc.nonce, text,
      hexField_of_get? (by simp [encryptedPrivate]), derived, binding, hexField_of_get? (by simp [encryptedPrivate]),
      hexField_of_get? (by simp [encryptedPrivate]), Symmetric.decrypt_encrypt correct encrypted,
      json.dumps dumped⟩
  have keys := readKeypair_of_holds (holdsPublic_toDict i.keypair.toHybridKeypair)
  rw [fromEncryptedDict_eq_ok]
  constructor
  · rintro ⟨_, b, priv, pub, k, found, read, shown, pairs, made⟩
    cases block.symm.trans found
    cases opened.symm.trans read
    cases carries.publicKeys.symm.trans shown
    cases keys.symm.trans pairs
    exact carries.construct.mp made
  · intro made
    exact ⟨carries.version, _, _, _, _, block, opened, carries.publicKeys, keys,
      carries.construct.mpr made⟩

/-! ## What comes back -/

/-- The identity that was read is the one that was written, with the same attributes. -/
structure Restored (i : StoredIdentity F) (j : IdentityAttributes) : Prop where
  eq : i.eq j = true
  name : j.name = .str i.name
  role : j.role = i.role
  createdAt : j.createdAt = .str i.createdAt
  keysRotatedAt : j.keysRotatedAt = i.rotatedAt

theorem keypair_of_unlabelled {k : Keypair} : k = ⟨k.toHybridKeypair, none, none⟩ ↔ k.Unlabelled := by
  obtain ⟨h, kem, sig⟩ := k
  simp only [Keypair.mk.injEq, true_and, Keypair.Unlabelled]

theorem eq_loaded : i.eq (i.loaded r) = true ↔ i.keypair.Unlabelled := by
  have version : (Val.int i.keyVersion).eqInt i.keyVersion = true := beq_self_eq_true _
  rw [eq, loaded, version, Val.eqStr_str, beq_self_eq_true, Bool.true_and, Bool.true_and,
    decide_eq_true_eq, keypair_of_unlabelled]

/-- Argon2id takes the password, and AES-GCM takes the private keys and the metadata. -/
structure Sealable (P : Platform) (i : StoredIdentity F) (password : Str) (salt : Urandom 16)
    (nonce : Urandom NONCE_SIZE) : Prop where
  derives : ∃ key, F.deriveKeyFromPassword password salt = .ok key
  encrypts : ∀ key text ad, F.deriveKeyFromPassword password salt = .ok key →
    P.jsonDumps (.dict (privateKeys i.keypair.toHybridKeypair)) = .ok text →
      identityAssociatedData P.toRuntime i.metadata = .ok ad →
        ∃ enc, Symmetric.encrypt P text key ad nonce = .ok enc

theorem exists_encrypted (exact : P.JsonExact) :
    (∃ payload, i.toEncryptedDict P password salt nonce = .ok payload) ↔
      i.Sealable P password salt nonce := by
  constructor
  · rintro ⟨payload, written⟩
    obtain ⟨key, text, ad, enc, derived, dumped, bound, encrypted, -⟩ :=
      toEncryptedDict_eq_ok.mp written
    refine ⟨⟨key, derived⟩, fun key' text' ad' derived' dumped' bound' => ⟨enc, ?_⟩⟩
    cases derived.symm.trans derived'
    cases dumped.symm.trans dumped'
    cases bound.symm.trans bound'
    exact encrypted
  · rintro ⟨⟨key, derived⟩, encrypts⟩
    obtain ⟨ad, written, -⟩ := exists_text exact i i.role
    have bound : identityAssociatedData P.toRuntime i.metadata = .ok ad :=
      bind_eq_ok.mpr ⟨_, carries_metadata.publicMetadata, written⟩
    obtain ⟨text, dumped⟩ : JsonText.Writes .default
        (.dict (privateKeys i.keypair.toHybridKeypair)) := ⟨_, rfl⟩
    obtain ⟨enc, encrypted⟩ := encrypts key text ad derived (exact.dumps dumped) bound
    exact ⟨_, toEncryptedDict_eq_ok.mpr ⟨key, text, ad, enc, derived, exact.dumps dumped, bound,
      encrypted, rfl⟩⟩

theorem carries_written (block : Dict) :
    i.Carries i.role (i.metadata ++ ([("encrypted_private", .dict block)] : Dict)) := by
  constructor <;> simp [metadata]

theorem block_written (block : Dict) :
    Dict.get? (i.metadata ++ ([("encrypted_private", .dict block)] : Dict)) "encrypted_private" =
      some (.dict block) := by
  simp [metadata]

/-- What `to_encrypted_dict` returns is read as the identity without the algorithms. -/
theorem fromEncryptedDict_written (json : P.JsonRereads) (correct : P.AeadCorrect)
    (written : i.toEncryptedDict P password salt nonce = .ok payload) :
    F.fromEncryptedDict P password now (.dict payload) = .ok j ↔ j = i.loaded i.role := by
  obtain ⟨key, text, ad, enc, derived, dumped, bound, encrypted, rfl⟩ :=
    toEncryptedDict_eq_ok.mp written
  obtain ⟨m, made, text'⟩ := bind_eq_ok.mp bound
  cases carries_metadata.publicMetadata.symm.trans made
  rw [(carries_written _).fromEncryptedDict json correct derived dumped encrypted
    (block_written _) text']
  constructor
  · rintro ⟨r, valid, rfl⟩
    cases i.valid.symm.trans valid
    rfl
  · rintro rfl
    exact ⟨i.role, i.valid, rfl⟩

/-- `from_encrypted_dict(to_encrypted_dict(i))` restores an identity whose keypair has no
algorithms. -/
theorem restored_iff (json : P.JsonRereads) (exact : P.JsonExact) (correct : P.AeadCorrect) :
    (∃ payload, i.toEncryptedDict P password salt nonce = .ok payload ∧
      ∃ j, F.fromEncryptedDict P password now (.dict payload) = .ok j ∧ i.Restored j) ↔
        i.Sealable P password salt nonce ∧ i.keypair.Unlabelled := by
  rw [← exists_encrypted exact]
  constructor
  · rintro ⟨payload, written, j, read, restored⟩
    cases (fromEncryptedDict_written json correct written).mp read
    exact ⟨⟨payload, written⟩, eq_loaded.mp restored.eq⟩
  · rintro ⟨⟨payload, written⟩, plain⟩
    exact ⟨payload, written, _, (fromEncryptedDict_written json correct written).mpr rfl,
      eq_loaded.mpr plain, rfl, rfl, rfl, rfl⟩

/-! ## Saved files -/

theorem reread_encryptedPrivate (enc : Symmetric.Encrypted) (salt : Bytes) :
    (Val.dict (encryptedPrivate enc salt)).reread = .dict (encryptedPrivate enc salt) := by
  rw [Val.reread_dict ["ciphertext", "nonce", "kdf_salt", "associated_data"] rfl (by decide)]
  simp [encryptedPrivate, Val.reread]

/-- The texts that an identity must give back as they are have no surrogate pair. -/
def Unpaired (i : StoredIdentity F) : Prop :=
  ∀ s ∈ i.entityId :: i.name :: i.createdAt :: i.keysRotatedAt.toList, s.Unpaired

theorem reread_rotatedAt (i : StoredIdentity F) :
    i.rotatedAt.reread = i.rotatedAt ↔ ∀ s ∈ i.keysRotatedAt.toList, s.Unpaired := by
  unfold rotatedAt
  cases i.keysRotatedAt with
  | none => exact ⟨fun _ => nofun, fun _ => rfl⟩
  | some s =>
      simp only [Val.reread, Val.str.injEq, Option.toList_some, List.mem_singleton, forall_eq]
      exact ⟨Str.unpaired_of_reread, Str.Unpaired.reread⟩

/-- The payload as it is read from its file. -/
def savedDict (i : StoredIdentity F) (block : Dict) : Dict :=
  Assoc.update [] (Dict.rereadItems (i.metadata ++ ([("encrypted_private", .dict block)] : Dict)))

theorem savedDict_get? (i : StoredIdentity F) (block : Dict) (key : Str) :
    (i.savedDict block).get? key =
      (Dict.get? (i.metadata ++ ([("encrypted_private", .dict block)] : Dict)) key).map
        Val.reread :=
  Dict.reread_get? (@Dict.wellKeyed_of_keys _ ["version", "entity_id", "name", "role",
    "created_at", "key_version", "keys_rotated_at", "public_keys", "encrypted_private"] rfl
    (by decide)) key

theorem Unpaired.carries (unpaired : i.Unpaired) (block : Dict) :
    i.Carries i.role.reread (i.savedDict block) := by
  obtain ⟨entityId, unpaired⟩ := List.forall_mem_cons.mp unpaired
  obtain ⟨name, unpaired⟩ := List.forall_mem_cons.mp unpaired
  obtain ⟨createdAt, rotated⟩ := List.forall_mem_cons.mp unpaired
  have written := carries_written (i := i) block
  constructor
  · rw [savedDict_get?, written.version, Option.map_some, Val.reread, Str.reread_ofString]
  · rw [savedDict_get?, written.entityId, Option.map_some, Val.reread, entityId.reread]
  · rw [savedDict_get?, written.name, Option.map_some, Val.reread, name.reread]
  · rw [savedDict_get?, written.role, Option.map_some, Val.reread]
  · rw [savedDict_get?, written.createdAt, Option.map_some, Val.reread, createdAt.reread]
  · rw [savedDict_get?, written.keyVersion]
    rfl
  · rw [savedDict_get?, written.keysRotatedAt, Option.map_some, i.reread_rotatedAt.mpr rotated]
  · rw [savedDict_get?, written.publicKeys, Option.map_some, PublicKeys.reread_toDict]

/-- What was read from the file of an identity has the texts as they were read. -/
theorem attributes_of_saved {block : Dict}
    (read : F.fromEncryptedDict P password now (.dict (i.savedDict block)) = .ok j) :
    j.entityId = .str i.entityId.reread ∧ j.name = .str i.name.reread ∧
      j.createdAt = .str i.createdAt.reread ∧ j.keysRotatedAt = i.rotatedAt.reread ∧
        validateRole F.upper (.str i.role.reread) = .ok j.role := by
  have written := carries_written (i := i) block
  have member : ∀ {key : Str} {v w : Val},
      Dict.get? (i.metadata ++ ([("encrypted_private", .dict block)] : Dict)) key = some v →
        (i.savedDict block).get? key = some w → w = v.reread := by
    intro key v w there found
    rw [savedDict_get?, there] at found
    exact (Option.some.inj found).symm
  obtain ⟨-, b, priv, pub, k, -, -, -, -, made⟩ := fromEncryptedDict_eq_ok.mp read
  obtain ⟨e, n, v, c, r, entityId, name, role, createdAt, valid, rfl⟩ := construct_eq_ok.mp made
  obtain rfl := member written.entityId entityId
  obtain rfl := member written.name name
  obtain rfl := member written.role role
  obtain rfl := member written.createdAt createdAt
  refine ⟨rfl, rfl, ?_, ?_, valid⟩
  · have nonempty : i.createdAt.reread ≠ [] := mt Str.reread_eq_nil.mp i.created
    exact if_pos (truthy_str nonempty)
  · dsimp only
    rw [savedDict_get?, written.keysRotatedAt]
    rfl

theorem unlabelled_of_read
    (read : F.fromEncryptedDict P password now (.dict payload) = .ok j) : j.keypair.Unlabelled := by
  obtain ⟨-, b, priv, pub, k, -, -, -, -, made⟩ := fromEncryptedDict_eq_ok.mp read
  obtain ⟨e, n, v, c, r, -, -, -, -, -, rfl⟩ := construct_eq_ok.mp made
  exact ⟨rfl, rfl⟩

theorem eq_iff : i.eq j = true ↔ j.entityId = .str i.entityId ∧
    j.keyVersion.eqInt i.keyVersion = true ∧ i.keypair = j.keypair := by
  rw [eq, Bool.and_eq_true, Bool.and_eq_true, Val.eqStr_eq_true, decide_eq_true_eq, and_assoc,
    Option.some_inj]

/-- The payload can be written. -/
theorem exists_payload_text (indents : F.Indents) (enc : Symmetric.Encrypted) (salt : Bytes) :
    ∃ text, F.dumps (.dict (i.metadata ++
      ([("encrypted_private", .dict (encryptedPrivate enc salt))] : Dict))) = .ok text := by
  have keys : JsonText.Writes .default
      (.dict (extractPublicKeys i.keypair.toHybridKeypair).toDict) := ⟨_, rfl⟩
  have block : JsonText.Writes .default (.dict (encryptedPrivate enc salt)) := ⟨_, rfl⟩
  have version : JsonText.Writes .default (.int i.keyVersion) := ⟨_, if_pos i.counted⟩
  have rotated : JsonText.Writes .default i.rotatedAt := by
    unfold rotatedAt
    cases i.keysRotatedAt with
    | none => exact ⟨_, rfl⟩
    | some s => exact JsonText.writes_str s
  obtain ⟨text, written⟩ : JsonText.Writes .default (.dict (i.metadata ++
      ([("encrypted_private", .dict (encryptedPrivate enc salt))] : Dict))) := by
    refine JsonText.writes_dict fun item mem => ?_
    simp only [metadata, List.cons_append, List.nil_append, List.mem_cons, List.not_mem_nil,
      or_false] at mem
    rcases mem with rfl | rfl | rfl | rfl | rfl | rfl | rfl | rfl | rfl
    · exact JsonText.writes_str _
    · exact JsonText.writes_str _
    · exact JsonText.writes_str _
    · exact JsonText.writes_str _
    · exact JsonText.writes_str _
    · exact version
    · exact rotated
    · exact keys
    · exact block
  exact indents written

variable {files : Str → Option Bytes} {path : Str}

/-- `load` after `save` reads the payload as JSON gives it back. -/
theorem load_saved {block : Dict} {t : Bytes}
    (dumped : F.dumps (.dict (i.metadata ++ ([("encrypted_private", .dict block)] : Dict))) =
      .ok t) :
    load P F (Function.update files path (some t)) path password now =
      F.fromEncryptedDict P password now (.dict (i.savedDict block)) := by
  have read := F.load_dumps dumped
  rw [Val.reread] at read
  rw [load, Function.update_self]
  simp only [read, bind, Except.bind, savedDict]

/-- `load` after `save` restores an identity whose keypair has no algorithms and whose texts have no
surrogate pair. -/
theorem restored_saved_iff (json : P.JsonRereads) (exact : P.JsonExact) (correct : P.AeadCorrect)
    (indents : F.Indents) :
    (∃ files', i.save P files path password salt nonce = .ok files' ∧
      ∃ j, load P F files' path password now = .ok j ∧ i.Restored j) ↔
        i.Sealable P password salt nonce ∧ i.keypair.Unlabelled ∧ i.Unpaired ∧
          validateRole F.upper (.str i.role.reread) = .ok i.role := by
  rw [← exists_encrypted exact]
  constructor
  · rintro ⟨files', saved, j, read, restored⟩
    obtain ⟨payload, written, t, dumped, same⟩ : ∃ payload,
        i.toEncryptedDict P password salt nonce = .ok payload ∧ ∃ t,
          F.dumps (.dict payload) = .ok t ∧ files' = Function.update files path (some t) := by
      simp only [save, bind_eq_ok, pure_eq_ok] at saved
      obtain ⟨payload, written, t, dumped, rfl⟩ := saved
      exact ⟨payload, written, t, dumped, rfl⟩
    obtain ⟨key, text, ad, enc, -, -, -, -, rfl⟩ := toEncryptedDict_eq_ok.mp written
    rw [same, load_saved dumped] at read
    obtain ⟨entityId, name, createdAt, rotated, role⟩ := attributes_of_saved read
    obtain ⟨id, -, keypair⟩ := eq_iff.mp restored.eq
    have plain := unlabelled_of_read read
    rw [← keypair] at plain
    rw [restored.role] at role
    refine ⟨⟨_, written⟩, plain, ?_, role⟩
    have id := Val.str.inj (entityId.symm.trans id)
    have name := Val.str.inj (name.symm.trans restored.name)
    have createdAt := Val.str.inj (createdAt.symm.trans restored.createdAt)
    refine List.forall_mem_cons.mpr ⟨Str.unpaired_of_reread id, ?_⟩
    refine List.forall_mem_cons.mpr ⟨Str.unpaired_of_reread name, ?_⟩
    refine List.forall_mem_cons.mpr ⟨Str.unpaired_of_reread createdAt, ?_⟩
    exact i.reread_rotatedAt.mp (rotated.symm.trans restored.keysRotatedAt)
  · rintro ⟨⟨payload, written⟩, plain, unpaired, role⟩
    obtain ⟨key, text, ad, enc, derived, dumped, bound, encrypted, rfl⟩ :=
      toEncryptedDict_eq_ok.mp written
    obtain ⟨t, saved⟩ := exists_payload_text (i := i) indents enc salt
    obtain ⟨m, made, text'⟩ := bind_eq_ok.mp bound
    cases carries_metadata.publicMetadata.symm.trans made
    obtain ⟨ad', here, again, -⟩ := exists_text exact i i.role
    cases text'.symm.trans here
    have block : (i.savedDict (encryptedPrivate enc salt)).get? "encrypted_private" =
        some (.dict (encryptedPrivate enc salt)) := by
      rw [savedDict_get?, block_written, Option.map_some, reread_encryptedPrivate]
    refine ⟨Function.update files path (some t), ?_, i.loaded i.role, ?_, ?_⟩
    · simp only [save, bind_eq_ok, pure_eq_ok]
      exact ⟨_, written, t, saved, rfl⟩
    · rw [load_saved saved]
      exact ((unpaired.carries _).fromEncryptedDict json correct derived dumped encrypted block
        again).mpr ⟨i.role, role, rfl⟩
    · exact ⟨eq_loaded.mpr plain, rfl, rfl, rfl, rfl⟩

end StoredIdentity

end Uxsp
