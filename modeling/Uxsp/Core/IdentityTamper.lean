import Uxsp.Core.IdentityFaithful

/-!
# Identity files: what an attacker can change

The ciphertext of a file opens under the text that was bound to it.  A file that says
`public-metadata-v1` binds the sorted text of its metadata, which holds all attributes but a
`keys_rotated_at` that is false.  Any other file binds its entity id, so that the text of the
metadata may stand there, with other attributes around it.
-/

namespace Uxsp

namespace IdentityFiles

variable {payload m : Dict} {R : Runtime}

/-- The public metadata hold the members of the payload, and `keys_rotated_at` where it is true. -/
structure Describes (payload m : Dict) : Prop where
  keyed : m.wellKeyed = true
  entityId : m.get? "entity_id" = payload.get? "entity_id"
  name : m.get? "name" = payload.get? "name"
  role : m.get? "role" = payload.get? "role"
  createdAt : m.get? "created_at" = payload.get? "created_at"
  publicKeys : m.get? "public_keys" = payload.get? "public_keys"
  keyVersion : m.get? "key_version" = payload.get? "key_version"
  keysRotatedAt : m.get? "keys_rotated_at" = (payload.get? "keys_rotated_at").filter Val.truthy

theorem memberOf_cases (payload : Dict) (key : String) :
    payload.get? key = none ∧ memberOf payload key = [] ∨
      ∃ v, payload.get? key = some v ∧ memberOf payload key = ([(Str.ofString key, v)] : Dict) := by
  unfold memberOf
  cases payload.get? key with
  | none => exact Or.inl ⟨rfl, rfl⟩
  | some v => exact Or.inr ⟨v, rfl, rfl⟩

theorem truthyOf_cases (payload : Dict) (key : String) :
    (payload.get? key).filter Val.truthy = none ∧ truthyOf payload key = [] ∨
      ∃ v, (payload.get? key).filter Val.truthy = some v ∧
        truthyOf payload key = ([(Str.ofString key, v)] : Dict) := by
  unfold truthyOf
  cases payload.get? key with
  | none => exact Or.inl ⟨rfl, rfl⟩
  | some v =>
      by_cases holds : v.truthy = true
      · rw [Option.filter_some, if_pos holds]
        exact Or.inr ⟨v, rfl, if_pos holds⟩
      · rw [Option.filter_some, if_neg holds]
        exact Or.inl ⟨rfl, if_neg holds⟩

theorem describes (made : identityPublicMetadata payload = .ok m) : Describes payload m := by
  obtain ⟨v, e, n, r, c, p, version, entityId, name, role, createdAt, publicKeys, rfl⟩ :=
    identityPublicMetadata_eq_ok.mp made
  obtain ⟨absent, counted⟩ | ⟨k, present, counted⟩ := memberOf_cases payload "key_version"
  · obtain ⟨none, rotated⟩ | ⟨t, some, rotated⟩ := truthyOf_cases payload "keys_rotated_at"
    · rw [counted, rotated]
      constructor
      · exact @Dict.wellKeyed_of_keys _ ["version", "entity_id", "name", "role", "created_at",
          "public_keys"] rfl (by decide)
      all_goals simp [metadataDict, *]
    · rw [counted, rotated]
      constructor
      · exact @Dict.wellKeyed_of_keys _ ["version", "entity_id", "name", "role", "created_at",
          "public_keys", "keys_rotated_at"] rfl (by decide)
      all_goals simp [metadataDict, *]
  · obtain ⟨none, rotated⟩ | ⟨t, some, rotated⟩ := truthyOf_cases payload "keys_rotated_at"
    · rw [counted, rotated]
      constructor
      · exact @Dict.wellKeyed_of_keys _ ["version", "entity_id", "name", "role", "created_at",
          "public_keys", "key_version"] rfl (by decide)
      all_goals simp [metadataDict, *]
    · rw [counted, rotated]
      constructor
      · exact @Dict.wellKeyed_of_keys _ ["version", "entity_id", "name", "role", "created_at",
          "public_keys", "key_version", "keys_rotated_at"] rfl (by decide)
      all_goals simp [metadataDict, *]

end IdentityFiles

namespace StoredIdentity

open IdentityFiles

variable {P : Platform} {F : IdentityFiles} {i : StoredIdentity F} {password now : Str}
  {salt : Urandom 16} {nonce : Urandom NONCE_SIZE} {sealed payload own block : Dict}
  {j : IdentityAttributes}

/-! ## A file that opens -/

/-- The key that a block names. -/
def blockKey (F : IdentityFiles) (password : Str) (block : Dict) : Except PyErr Bytes := do
  F.deriveKeyFromPassword password (← hexField block "kdf_salt")

/-- No object of the payload has two members of one name, and a ciphertext that opens under a key of
the password is the one that was sealed. -/
structure Derived (P : Platform) (F : IdentityFiles) (password : Str) (sealed payload : Dict) :
    Prop where
  distinct : ∀ pub, payload.get? "public_keys" = some (.dict pub) → (pub.map Prod.fst).Nodup
  unforged : ∀ own block key nonce ct ad m,
    sealed.get? "encrypted_private" = some (.dict own) →
      payload.get? "encrypted_private" = some (.dict block) →
        blockKey F password block = .ok key → hexField block "nonce" = .ok nonce →
          hexField block "ciphertext" = .ok ct → Symmetric.decrypt P ct nonce key ad = .ok m →
            hexField own "ciphertext" = .ok ct

/-- The payload has the sealed keys of another under the same text, and what `from_encrypted_dict`
asks for beside them. -/
structure Opens (P : Platform) (i : StoredIdentity F) (password : Str)
    (sealed payload own block : Dict) : Prop where
  ownBlock : sealed.get? "encrypted_private" = some (.dict own)
  foundBlock : payload.get? "encrypted_private" = some (.dict block)
  version : payload.get? "version" = some (.str VERSION)
  key : blockKey F password block = blockKey F password own
  nonce : hexField block "nonce" = hexField own "nonce"
  ciphertext : hexField block "ciphertext" = hexField own "ciphertext"
  bound : associatedDataOf P.toRuntime payload block =
    identityAssociatedData P.toRuntime sealed
  publicKeys : ∃ pub k, payload.get? "public_keys" = some pub ∧
    readKeypair (Val.dict (privateKeys i.keypair.toHybridKeypair)).reread pub = .ok k
  role : ∃ v r, payload.get? "role" = some v ∧ validateRole F.upper v = .ok r
  members : ∀ key ∈ ["entity_id", "name", "created_at"], ∃ v, payload.get? (.ofString key) = some v

/-- Another value with the same text. -/
def Respelled (v w : Val) : Prop := v ≠ w ∧ v.canonical = w.canonical

/-- The payload says what it binds, and holds no value in another spelling. -/
structure Kept (i : StoredIdentity F) (payload block : Dict) : Prop where
  marked : block.get? "associated_data" = some (.str BOUND)
  spelled : ∀ item ∈ [("entity_id", i.entityId), ("name", i.name), ("created_at", i.createdAt)],
    ∀ v, payload.get? (.ofString item.1) = some v → ¬ Respelled v (.str item.2)
  role : ∀ v, payload.get? "role" = some v → validateRole F.upper v = .ok i.role
  rotated : ¬ Respelled ((payload.get? "keys_rotated_at").getD .none) i.rotatedAt
  unrotated : i.rotatedAt.truthy = false →
    ((payload.get? "keys_rotated_at").getD .none).truthy = false →
      (payload.get? "keys_rotated_at").getD .none = i.rotatedAt

/-- The attributes of the identity, and its keys. -/
structure Same (i : StoredIdentity F) (j : IdentityAttributes) : Prop where
  entityId : j.entityId = .str i.entityId
  name : j.name = .str i.name
  role : j.role = i.role
  keypair : j.keypair.toHybridKeypair = i.keypair.toHybridKeypair
  createdAt : j.createdAt = .str i.createdAt
  keyVersion : j.keyVersion = .int i.keyVersion
  keysRotatedAt : j.keysRotatedAt = i.rotatedAt

/-- What was sealed for an identity. -/
structure Sealed (P : Platform) (i : StoredIdentity F) (password : Str) (sealed own : Dict)
    (key n ct text ad : Bytes) : Prop where
  ownBlock : sealed.get? "encrypted_private" = some (.dict own)
  keyed : blockKey F password own = .ok key
  nonced : hexField own "nonce" = .ok n
  ciphered : hexField own "ciphertext" = .ok ct
  bound : identityAssociatedData P.toRuntime sealed = .ok ad
  metadata : P.jsonCompact (Val.dict (i.publicMetadata i.role)).sortKeys = .ok ad
  opens : Symmetric.decrypt P ct n key ad = .ok text
  read : P.jsonLoads text = .ok (Val.dict (privateKeys i.keypair.toHybridKeypair)).reread
  alone : ∀ key' nonce' ad' m, Symmetric.decrypt P ct nonce' key' ad' = .ok m →
    key' = key ∧ nonce' = n ∧ ad' = ad

theorem exists_sealed (json : P.JsonRereads) (correct : P.AeadCorrect) (binds : P.AeadBinds)
    (written : i.toEncryptedDict P password salt nonce = .ok sealed) :
    ∃ own key nonce ct text ad, i.Sealed P password sealed own key nonce ct text ad := by
  obtain ⟨key, text, ad, enc, derived, dumped, bound, encrypted, rfl⟩ :=
    toEncryptedDict_eq_ok.mp written
  obtain ⟨m, made, text'⟩ := bind_eq_ok.mp bound
  cases carries_metadata.publicMetadata.symm.trans made
  obtain ⟨size, drawn, ciphertext⟩ := Symmetric.encrypt_eq_ok.mp encrypted
  refine ⟨encryptedPrivate enc salt, key, enc.nonce, enc.ciphertext, text, ad, {
    ownBlock := block_written _
    keyed := bind_eq_ok.mpr ⟨salt, hexField_of_get? (by simp [encryptedPrivate]), derived⟩
    nonced := hexField_of_get? (by simp [encryptedPrivate])
    ciphered := hexField_of_get? (by simp [encryptedPrivate])
    bound := bind_eq_ok.mpr ⟨_, (carries_written _).publicMetadata, text'⟩
    metadata := text'
    opens := Symmetric.decrypt_encrypt correct encrypted
    read := json.dumps dumped
    alone := ?_ }⟩
  intro key' nonce' ad' m opened
  obtain ⟨size', sizeN, decrypted⟩ := Symmetric.decrypt_eq_ok.mp opened
  rw [drawn]
  exact binds.bound size size' nonce.2 sizeN ciphertext decrypted

variable {key n ct text ad : Bytes}

/-- A payload that opens gives back the private keys. -/
theorem Opens.decryptPrivate (mine : i.Sealed P password sealed own key n ct text ad)
    (opens : i.Opens P password sealed payload own block) :
    F.decryptPrivate P payload block password =
      .ok (Val.dict (privateKeys i.keypair.toHybridKeypair)).reread := by
  obtain ⟨salt, drawn, derived⟩ := bind_eq_ok.mp (opens.key.trans mine.keyed)
  exact decryptPrivate_eq_ok.mpr ⟨salt, key, ad, ct, n, text, drawn, derived,
    opens.bound.trans mine.bound, opens.ciphertext.trans mine.ciphered,
    opens.nonce.trans mine.nonced, mine.opens, mine.read⟩

/-- It is read as its own attributes. -/
theorem Opens.fromEncryptedDict (mine : i.Sealed P password sealed own key n ct text ad)
    (opens : i.Opens P password sealed payload own block) :
    ∃ j, F.fromEncryptedDict P password now (.dict payload) = .ok j := by
  obtain ⟨pub, k, shown, pairs⟩ := opens.publicKeys
  obtain ⟨v, r, role, valid⟩ := opens.role
  obtain ⟨e, entityId⟩ := opens.members "entity_id" (by simp)
  obtain ⟨name', name⟩ := opens.members "name" (by simp)
  obtain ⟨c, createdAt⟩ := opens.members "created_at" (by simp)
  exact ⟨_, fromEncryptedDict_eq_ok.mpr ⟨opens.version, block, _, pub, k, opens.foundBlock,
    opens.decryptPrivate mine, shown, pairs,
    construct_eq_ok.mpr ⟨e, name', v, c, r, entityId, name, role, createdAt, valid, rfl⟩⟩⟩

/-- What is read without forgery is a payload that opens. -/
theorem Derived.opens (mine : i.Sealed P password sealed own key n ct text ad)
    (derived : Derived P F password sealed payload)
    (read : F.fromEncryptedDict P password now (.dict payload) = .ok j) :
    ∃ block, i.Opens P password sealed payload own block := by
  obtain ⟨version, block, priv, pub, k, found, opened, shown, pairs, made⟩ :=
    fromEncryptedDict_eq_ok.mp read
  obtain ⟨salt, key', ad', ct', nonce', text', drawn, keyed, bound, ciphertext, nonced, decrypted,
    loaded⟩ := decryptPrivate_eq_ok.mp opened
  have blockKeyed : blockKey F password block = .ok key' := bind_eq_ok.mpr ⟨salt, drawn, keyed⟩
  have ownCiphertext := derived.unforged own block key' nonce' ct' ad' text' mine.ownBlock found blockKeyed
    nonced ciphertext decrypted
  cases mine.ciphered.symm.trans ownCiphertext
  obtain ⟨rfl, rfl, rfl⟩ := mine.alone key' nonce' ad' text' decrypted
  cases mine.opens.symm.trans decrypted
  cases mine.read.symm.trans loaded
  obtain ⟨e, name', v, c, r, entityId, name, role, createdAt, valid, -⟩ := construct_eq_ok.mp made
  refine ⟨block, {
    ownBlock := mine.ownBlock
    foundBlock := found
    version := version
    key := blockKeyed.trans mine.keyed.symm
    nonce := nonced.trans mine.nonced.symm
    ciphertext := ciphertext.trans mine.ciphered.symm
    bound := bound.trans mine.bound.symm
    publicKeys := ⟨pub, k, shown, pairs⟩
    role := ⟨v, r, role, valid⟩
    members := ?_ }⟩
  simp only [List.mem_cons, List.not_mem_nil, or_false, forall_eq_or_imp, forall_eq]
  exact ⟨⟨e, entityId⟩, ⟨name', name⟩, ⟨c, createdAt⟩⟩

/-! ## What is bound -/

/-- Metadata with the text of an identity have its members. -/
structure Binds (i : StoredIdentity F) (payload : Dict) : Prop where
  entityId : ∀ v, payload.get? "entity_id" = some v → v.canonical = (Val.str i.entityId).canonical
  name : ∀ v, payload.get? "name" = some v → v.canonical = (Val.str i.name).canonical
  createdAt : ∀ v, payload.get? "created_at" = some v → v.canonical = (Val.str i.createdAt).canonical
  publicKeys : ∀ v, payload.get? "public_keys" = some v →
    v.canonical = (Val.dict (extractPublicKeys i.keypair.toHybridKeypair).toDict).canonical
  keyVersion : payload.get? "key_version" = some (.int i.keyVersion)
  keysRotatedAt : ((payload.get? "keys_rotated_at").filter Val.truthy).map Val.canonical =
    ((some i.rotatedAt).filter Val.truthy).map Val.canonical

theorem binds_of_text (json : P.JsonRereads)
    (bound : identityAssociatedData P.toRuntime payload = .ok ad)
    (text : P.jsonCompact (Val.dict (i.publicMetadata i.role)).sortKeys = .ok ad) :
    i.Binds payload := by
  obtain ⟨m, made, text'⟩ := bind_eq_ok.mp bound
  have mine := describes (carries_metadata (i := i)).publicMetadata
  have foreign := describes made
  have same : (Val.dict m).canonical = (Val.dict (i.publicMetadata i.role)).canonical :=
    Except.ok.inj ((json.compact text').symm.trans (json.compact text))
  have members := Dict.members_of_canonical mine.keyed foreign.keyed same
  have member : ∀ {key : Str} {v w : Val}, m.get? key = some v →
      (i.publicMetadata i.role).get? key = some w → v.canonical = w.canonical := by
    intro key v w there here
    have maps := members key
    rw [there, here] at maps
    exact Option.some.inj maps
  have own := carries_metadata (i := i)
  constructor
  · exact fun v found => member (foreign.entityId.trans found) (mine.entityId.trans own.entityId)
  · exact fun v found => member (foreign.name.trans found) (mine.name.trans own.name)
  · exact fun v found => member (foreign.createdAt.trans found) (mine.createdAt.trans own.createdAt)
  · exact fun v found =>
      member (foreign.publicKeys.trans found) (mine.publicKeys.trans own.publicKeys)
  · have maps := members "key_version"
    rw [foreign.keyVersion, mine.keyVersion, own.keyVersion, Option.map_some,
      Option.map_eq_some_iff] at maps
    obtain ⟨v, found, counted⟩ := maps
    rw [found, Val.canonical_eq_int.mp counted]
  · have maps := members "keys_rotated_at"
    rwa [foreign.keysRotatedAt, mine.keysRotatedAt, own.keysRotatedAt] at maps

/-- Public keys with the text of an identity's are read as these. -/
theorem Binds.holdsPublic (binds : i.Binds payload) {v : Val}
    (found : payload.get? "public_keys" = some v)
    (distinct : ∀ pub, payload.get? "public_keys" = some (.dict pub) → (pub.map Prod.fst).Nodup) :
    ∃ pub, v = .dict pub ∧ HoldsPublic i.keypair.toHybridKeypair pub := by
  have keyed : Dict.wellKeyed (extractPublicKeys i.keypair.toHybridKeypair).toDict = true :=
    @Dict.wellKeyed_of_keys _ ["exchange_pub", "kem_pub", "signing_pub", "pqc_sig_pub"] rfl
      (by decide)
  obtain ⟨items, sorted⟩ : ∃ items,
      (Val.dict (extractPublicKeys i.keypair.toHybridKeypair).toDict).canonical = .dict items :=
    ⟨_, rfl⟩
  have same := binds.publicKeys v found
  rw [sorted] at same
  obtain ⟨pub, rfl⟩ := Val.exists_of_canonical_dict same
  have hex : ∀ b : Bytes, ∀ c ∈ b.hex, c.val < 0x10000 := by
    intro b c mem
    obtain ⟨x, -, digit⟩ := List.mem_flatMap.mp mem
    have small : ∀ d : Fin 16, (Str.hexDigit d).val < 0x10000 := by decide
    obtain rfl | rfl := List.mem_pair.mp digit
    · exact small _
    · exact small _
  have basic : ∀ name : String, (name.toList.all fun c => decide (c.toNat < 0x10000)) = true →
      ∀ c ∈ Str.ofString name, c.val < 0x10000 := by
    intro name all c mem
    obtain ⟨x, inside, rfl⟩ := List.mem_map.mp mem
    exact of_decide_eq_true (List.all_eq_true.mp all x inside)
  have member : ∀ {name : String} {b : Bytes},
      (name.toList.all fun c => decide (c.toNat < 0x10000)) = true →
      Dict.get? (extractPublicKeys i.keypair.toHybridKeypair).toDict name = some (.str b.hex) →
        Dict.get? pub name = some (.str b.hex) := by
    intro name b all here
    refine Table.lookup_of_mem (distinct pub found) ?_
    refine Dict.mem_of_canonical ?_ (basic name all) (hex b) same
    rw [Dict.get?_of_canonical_eq keyed sorted, here, Option.map_some]
    exact congrArg (fun s => some (Val.str s)) (Str.reread_hex b)
  have own := holdsPublic_toDict i.keypair.toHybridKeypair
  refine ⟨pub, rfl, ?_⟩
  constructor
  · exact member rfl own.exchange
  · exact member rfl own.kem
  · exact member rfl own.signing
  · exact member rfl own.pqcSig

theorem eq_of_not_respelled {v w : Val} (same : v.canonical = w.canonical) (kept : ¬ Respelled v w) :
    v = w := by
  by_contra other
  exact kept ⟨other, same⟩

theorem not_respelled {v w : Val} (same : v = w) : ¬ Respelled v w :=
  fun respelled => respelled.1 same

/-- Where `keys_rotated_at` is true it is bound, and `Kept` says what it is otherwise. -/
theorem Binds.rotatedAt (binds : i.Binds payload) (kept : i.Kept payload block) :
    (payload.get? "keys_rotated_at").getD .none = i.rotatedAt := by
  have bound := binds.keysRotatedAt
  cases rotated : i.rotatedAt.truthy with
  | true =>
      rw [Option.filter_some, if_pos rotated, Option.map_some, Option.map_eq_some_iff] at bound
      obtain ⟨v, found, same⟩ := bound
      have there := (Option.filter_eq_some_iff.mp found).1
      have respelled := kept.rotated
      rw [there, Option.getD_some] at respelled ⊢
      exact eq_of_not_respelled same respelled
  | false =>
      refine kept.unrotated rotated ?_
      rw [Option.filter_some, if_neg (ne_true_of_eq_false rotated), Option.map_none,
        Option.map_eq_none_iff] at bound
      cases there : payload.get? "keys_rotated_at" with
      | none => rfl
      | some v =>
          rw [there, Option.filter_eq_none_iff] at bound
          exact eq_false_of_ne_true (bound v rfl)

/-- A payload that says what it binds is read as the identity that was sealed. -/
theorem Kept.same (json : P.JsonRereads) (mine : i.Sealed P password sealed own key n ct text ad)
    (derived : Derived P F password sealed payload)
    (opens : i.Opens P password sealed payload own block) (kept : i.Kept payload block)
    (read : F.fromEncryptedDict P password now (.dict payload) = .ok j) : i.Same j := by
  obtain ⟨-, block', priv, pub, k, found, opened, shown, pairs, made⟩ :=
    fromEncryptedDict_eq_ok.mp read
  cases opens.foundBlock.symm.trans found
  have bound := opens.bound.trans mine.bound
  rw [associatedDataOf, if_pos (Val.eqStr_eq_true.mpr kept.marked), catching_eq_ok] at bound
  have binds := binds_of_text json bound mine.metadata
  obtain ⟨e, name', v, c, r, entityId, name, role, createdAt, valid, rfl⟩ := construct_eq_ok.mp made
  obtain rfl := eq_of_not_respelled (binds.entityId e entityId)
    (kept.spelled ("entity_id", i.entityId) (by simp) e entityId)
  obtain rfl := eq_of_not_respelled (binds.name name' name)
    (kept.spelled ("name", i.name) (by simp) name' name)
  obtain rfl := eq_of_not_respelled (binds.createdAt c createdAt)
    (kept.spelled ("created_at", i.createdAt) (by simp) c createdAt)
  have keys : k = i.keypair.toHybridKeypair := by
    obtain ⟨salt', key', ad', ct', nonce', text', drawn, keyed, -, ciphertext, nonced, decrypted,
      loaded⟩ := decryptPrivate_eq_ok.mp opened
    cases (bind_eq_ok.mpr ⟨salt', drawn, keyed⟩ : blockKey F password block = _).symm.trans
      (opens.key.trans mine.keyed)
    cases ciphertext.symm.trans (opens.ciphertext.trans mine.ciphered)
    cases nonced.symm.trans (opens.nonce.trans mine.nonced)
    obtain ⟨-, -, rfl⟩ := mine.alone key n ad' text' decrypted
    cases mine.opens.symm.trans decrypted
    cases mine.read.symm.trans loaded
    obtain ⟨pub', rfl, holds⟩ := binds.holdsPublic shown derived.distinct
    exact Except.ok.inj (pairs.symm.trans (readKeypair_of_holds holds))
  constructor
  · rfl
  · rfl
  · exact Except.ok.inj (valid.symm.trans (kept.role v role))
  · exact keys
  · exact if_pos (truthy_str i.created)
  · dsimp only
    rw [binds.keyVersion, Option.getD_some]
  · exact binds.rotatedAt kept

/-- A payload that is read as the identity that was sealed says what it binds: the entity id is
shorter than the text. -/
theorem Same.kept (exact : P.JsonExact) (mine : i.Sealed P password sealed own key n ct text ad)
    (opens : i.Opens P password sealed payload own block)
    (read : F.fromEncryptedDict P password now (.dict payload) = .ok j) (same : i.Same j) :
    i.Kept payload block := by
  obtain ⟨-, block', priv, pub, k, found, opened, shown, pairs, made⟩ :=
    fromEncryptedDict_eq_ok.mp read
  cases opens.foundBlock.symm.trans found
  obtain ⟨e, name', v, c, r, entityId, name, role, createdAt, valid, rfl⟩ := construct_eq_ok.mp made
  obtain rfl : e = .str i.entityId := same.entityId
  obtain rfl : name' = .str i.name := same.name
  obtain rfl : r = i.role := same.role
  have rotated : (payload.get? "keys_rotated_at").getD .none = i.rotatedAt := same.keysRotatedAt
  constructor
  · by_contra unmarked
    have bound := opens.bound.trans mine.bound
    rw [associatedDataOf, if_neg (mt Val.eqStr_eq_true.mp unmarked), catching_eq_ok] at bound
    obtain ⟨v, found, encoded⟩ := bind_eq_ok.mp bound
    cases entityId.symm.trans (Dict.item_eq_ok.mp found)
    have shorter := JsonText.length_encode_lt (Str.utf8_eq_ok.mp encoded)
    obtain ⟨ad', here, -, longer, -⟩ := exists_text exact i i.role
    cases mine.metadata.symm.trans here
    omega
  · simp only [List.mem_cons, List.not_mem_nil, or_false, forall_eq_or_imp, forall_eq]
    refine ⟨fun v found => ?_, fun v found => ?_, fun v found => ?_⟩
    · exact not_respelled (Option.some.inj (found.symm.trans entityId))
    · exact not_respelled (Option.some.inj (found.symm.trans name))
    · obtain rfl := Option.some.inj (createdAt.symm.trans found)
      have shown : (if c.truthy then c else .str now) = .str i.createdAt := same.createdAt
      by_cases truthy : c.truthy = true
      · rw [if_pos truthy] at shown
        exact not_respelled shown
      · -- An empty text is no spelling of a `created_at`.
        rintro ⟨-, spelled⟩
        obtain ⟨t, rfl, back⟩ := Val.canonical_eq_str.mp spelled
        refine truthy (truthy_str ?_)
        rintro rfl
        exact i.created (Str.reread_eq_nil.mp back.symm)
  · intro w found
    cases found.symm.trans role
    exact valid
  · exact not_respelled rotated
  · exact fun _ _ => rotated

/-- What is read of a payload is the identity that was sealed, where the payload says what it
binds. -/
theorem same_iff_kept (json : P.JsonRereads) (exact : P.JsonExact) (correct : P.AeadCorrect)
    (binds : P.AeadBinds) (written : i.toEncryptedDict P password salt nonce = .ok sealed)
    (derived : Derived P F password sealed payload) :
    (∀ j, F.fromEncryptedDict P password now (.dict payload) = .ok j → i.Same j) ↔
      ∀ own block, i.Opens P password sealed payload own block → i.Kept payload block := by
  obtain ⟨own, key, n, ct, text, ad, mine⟩ := exists_sealed json correct binds written
  constructor
  · intro same own' block opens
    cases mine.ownBlock.symm.trans opens.ownBlock
    obtain ⟨j, read⟩ : ∃ j, F.fromEncryptedDict P password now (.dict payload) = .ok j :=
      opens.fromEncryptedDict mine
    exact (same j read).kept exact mine opens read
  · intro kept j read
    obtain ⟨block, opens⟩ := derived.opens mine read
    exact (kept own block opens).same json mine derived opens read

/-! ## The associated data of old files -/

/-- The sealed keys without the mark of `public-metadata-v1`. -/
def unmarked (ct n salt : Bytes) : Dict :=
  [("ciphertext", .str ct.hex), ("nonce", .str n.hex), ("kdf_salt", .str salt.hex)]

/-- The file of an identity under another name.  The text of its metadata is the entity id. -/
def renamed (i : StoredIdentity F) (ad ct n salt : Bytes) (name : Str) : Dict :=
  [("version", .str VERSION), ("entity_id", .str ad.ascii), ("name", .str name),
    ("role", .str i.role), ("created_at", .str i.createdAt),
    ("public_keys", .dict (extractPublicKeys i.keypair.toHybridKeypair).toDict),
    ("encrypted_private", .dict (unmarked ct n salt))]

theorem nodup_publicKeys (keys : PublicKeys) : (keys.toDict.map Prod.fst).Nodup := by
  have names : keys.toDict.map Prod.fst =
      ["exchange_pub", "kem_pub", "signing_pub", "pqc_sig_pub"] := rfl
  rw [names]
  decide

/-- Every file is turned into one that is read under another name, with the same keys. -/
theorem exists_renamed (json : P.JsonRereads) (exact : P.JsonExact) (correct : P.AeadCorrect)
    (binds : P.AeadBinds) (written : i.toEncryptedDict P password salt nonce = .ok sealed)
    (name : Str) : ∃ payload, Derived P F password sealed payload ∧
      ∃ j, F.fromEncryptedDict P password now (.dict payload) = .ok j ∧ j.name = .str name ∧
        j.keypair.toHybridKeypair = i.keypair.toHybridKeypair := by
  obtain ⟨own, key, n, ct, text, ad, mine⟩ := exists_sealed json correct binds written
  obtain ⟨salt', drawn, derived⟩ := bind_eq_ok.mp mine.keyed
  obtain ⟨ad', here, -, -, printable⟩ := exists_text exact i i.role
  cases mine.metadata.symm.trans here
  have ascii : ad.ascii.encode = some ad := by
    refine Bytes.encode_ascii fun x mem => ?_
    have high : x.toNat ≤ 126 := (JsonText.printable_iff.mp printable x mem).2
    exact UInt8.lt_iff_toNat_lt.mpr (lt_of_le_of_lt high (by decide))
  have found : (i.renamed ad ct n salt' name).get? "encrypted_private" =
      some (.dict (unmarked ct n salt')) := by
    simp [renamed]
  have shown : (i.renamed ad ct n salt' name).get? "public_keys" =
      some (.dict (extractPublicKeys i.keypair.toHybridKeypair).toDict) := by
    simp [renamed]
  have ciphered : hexField (unmarked ct n salt') "ciphertext" = .ok ct :=
    hexField_of_get? (by simp [unmarked])
  have nonced : hexField (unmarked ct n salt') "nonce" = .ok n :=
    hexField_of_get? (by simp [unmarked])
  have salted : hexField (unmarked ct n salt') "kdf_salt" = .ok salt' :=
    hexField_of_get? (by simp [unmarked])
  have entityId : (i.renamed ad ct n salt' name).item "entity_id" = .ok (.str ad.ascii) :=
    Dict.item_eq_ok.mpr (by simp [renamed])
  have unmarked' : ¬ Val.eqStr (Dict.get? (unmarked ct n salt') "associated_data") BOUND = true := by
    simp [unmarked, Val.eqStr]
  have bound : associatedDataOf P.toRuntime (i.renamed ad ct n salt' name)
      (unmarked ct n salt') = .ok ad := by
    rw [associatedDataOf, if_neg unmarked']
    exact catching_eq_ok.mpr (bind_eq_ok.mpr ⟨_, entityId, Str.utf8_eq_ok.mpr ascii⟩)
  have keys := readKeypair_of_holds (holdsPublic_toDict i.keypair.toHybridKeypair)
  refine ⟨i.renamed ad ct n salt' name, ?_, _, fromEncryptedDict_eq_ok.mpr
    ⟨by simp [renamed], _, _, _, _, found, decryptPrivate_eq_ok.mpr
      ⟨salt', key, ad, ct, n, text, salted, derived, bound, ciphered, nonced, mine.opens, mine.read⟩,
      shown, keys, construct_eq_ok.mpr ⟨.str ad.ascii, .str name, .str i.role, .str i.createdAt,
        i.role, by simp [renamed], by simp [renamed],
        by simp [renamed], by simp [renamed], i.valid, rfl⟩⟩,
    rfl, rfl⟩
  constructor
  · intro pub there
    cases shown.symm.trans there
    exact nodup_publicKeys _
  · intro own' block key' nonce' ct' ad' m inside there _ _ foreign _
    cases mine.ownBlock.symm.trans inside
    cases found.symm.trans there
    cases ciphered.symm.trans foreign
    exact mine.ciphered

/-! ## The two properties of identity files -/

theorem derived_written (written : i.toEncryptedDict P password salt nonce = .ok sealed) :
    Derived P F password sealed sealed := by
  obtain ⟨key, text, ad, enc, -, -, -, -, rfl⟩ := toEncryptedDict_eq_ok.mp written
  constructor
  · intro pub found
    cases (carries_written (i := i) _).publicKeys.symm.trans found
    exact nodup_publicKeys _
  · intro own block key' nonce' ct ad' m inside found _ _ ciphered _
    cases inside.symm.trans found
    exact ciphered

/-- A file is read as its identity if the keypair has no algorithms and, behind a path, no text has a
surrogate pair; another payload is read as that identity or not at all if it says what it binds. -/
theorem identity_files_iff (json : P.JsonRereads) (exact : P.JsonExact) (correct : P.AeadCorrect)
    (binds : P.AeadBinds) (indents : F.Indents) (i : StoredIdentity F) (password now path : Str)
    (salt : Urandom 16) (nonce : Urandom NONCE_SIZE) (files : Str → Option Bytes) :
    ((∃ payload, i.toEncryptedDict P password salt nonce = .ok payload ∧
      ∃ j, F.fromEncryptedDict P password now (.dict payload) = .ok j ∧ i.Restored j) ↔
        i.Sealable P password salt nonce ∧ i.keypair.Unlabelled) ∧
    ((∃ files', i.save P files path password salt nonce = .ok files' ∧
      ∃ j, load P F files' path password now = .ok j ∧ i.Restored j) ↔
        i.Sealable P password salt nonce ∧ i.keypair.Unlabelled ∧ i.Unpaired ∧
          validateRole F.upper (.str i.role.reread) = .ok i.role) ∧
    ∀ sealed, i.toEncryptedDict P password salt nonce = .ok sealed → ∀ v : Val,
      (∀ payload, v = .dict payload → Derived P F password sealed payload) →
        ((∀ j, F.fromEncryptedDict P password now v = .ok j → i.Same j) ↔
          ∀ payload own block, v = .dict payload →
            i.Opens P password sealed payload own block → i.Kept payload block) := by
  refine ⟨restored_iff json exact correct, restored_saved_iff json exact correct indents, ?_⟩
  intro sealed written v derived
  by_cases dict : ∃ payload, v = .dict payload
  · obtain ⟨payload, rfl⟩ := dict
    rw [same_iff_kept json exact correct binds written (derived payload rfl)]
    constructor
    · intro kept payload' own block same
      cases same
      exact kept own block
    · intro kept own block
      exact kept payload own block rfl
  · constructor
    · intro _ payload _ _ same
      exact absurd ⟨payload, same⟩ dict
    · intro _ j read
      cases v with
      | dict payload => exact absurd ⟨payload, rfl⟩ dict
      | _ => cases read

/-! An identity that was generated and one that was read. -/

/-- A platform with bound ciphertexts that reads surrogate pairs as JSON does. -/
def samplePlatform : Platform := { Platform.framed with toRuntime := Platform.reading.toRuntime }

def sampleFiles : IdentityFiles where
  toJsonFile := .text
  upper := id
  hashSecretRaw secret salt := .ok ((secret ++ salt ++ List.replicate 32 0).take 32)

def sampleGenerated : Keypair :=
  .generate samplePlatform "ML-KEM-768" "ML-DSA-65" (.filled 32 1) (.filled 64 2) (.filled 32 3)
    (.filled 32 4)

/-- The same keypair without the algorithms. -/
def sampleRead : Keypair := ⟨sampleGenerated.toHybridKeypair, none, none⟩

theorem sampleRole_valid : validateRole sampleFiles.upper (.str "USER") = .ok "USER" := rfl

theorem sampleCreated_nonempty : Str.ofString "2024-01-01" ≠ [] := by decide

theorem sampleVersion_printable : Str.printable 1 := by decide

def sampleStored (keypair : Keypair) : StoredIdentity sampleFiles where
  entityId := "A"
  name := "alice"
  role := "USER"
  keypair := keypair
  createdAt := "2024-01-01"
  keyVersion := 1
  keysRotatedAt := none
  valid := sampleRole_valid
  created := sampleCreated_nonempty
  counted := sampleVersion_printable

theorem samplePlatform_json : samplePlatform.JsonRereads :=
  ⟨Platform.reading_json.compact, Platform.reading_json.dumps⟩

theorem samplePlatform_exact : samplePlatform.JsonExact :=
  ⟨Platform.reading_exact.compact, Platform.reading_exact.dumps⟩

theorem samplePlatform_aead : samplePlatform.AeadCorrect :=
  ⟨Platform.framed_aead.total, Platform.framed_aead.open_seal⟩

theorem samplePlatform_binds : samplePlatform.AeadBinds := ⟨Platform.framed_binds.bound⟩

theorem sampleFiles_indents : sampleFiles.Indents := by
  intro v text written
  refine ⟨text, ?_⟩
  show JsonText.dumps .default v = _
  rw [JsonText.dumps, written]

theorem sampleStored_sealable (keypair : Keypair) :
    (sampleStored keypair).Sealable samplePlatform "password" (.filled 16 5) (.filled 12 6) := by
  refine ⟨⟨_, rfl⟩, fun key text ad derived _ _ => ?_⟩
  have size : key.length = KEY_SIZE := by
    cases derived
    rfl
  exact ⟨⟨_, _⟩, Symmetric.encrypt_eq_ok.mpr ⟨size, rfl, rfl⟩⟩

theorem sampleStored_unpaired (keypair : Keypair) : (sampleStored keypair).Unpaired := by
  intro s mem
  simp only [sampleStored, Option.toList_none, List.mem_cons, List.not_mem_nil, or_false] at mem
  rcases mem with rfl | rfl | rfl
  · exact Str.unpaired_of_reread (Str.reread_ofString _)
  · exact Str.unpaired_of_reread (Str.reread_ofString _)
  · exact Str.unpaired_of_reread (Str.reread_ofString _)

theorem sampleRead_unlabelled : sampleRead.Unlabelled := ⟨rfl, rfl⟩

/-- The identity without the algorithms is restored from its file, which says what it binds. -/
theorem sampleRead_restored :
    (∃ files, (sampleStored sampleRead).save samplePlatform (fun _ => none) "alice.json" "password"
        (.filled 16 5) (.filled 12 6) = .ok files ∧
      ∃ j, load samplePlatform sampleFiles files "alice.json" "password" "" = .ok j ∧
        (sampleStored sampleRead).Restored j) ∧
    ∃ sealed, (sampleStored sampleRead).toEncryptedDict samplePlatform "password" (.filled 16 5)
        (.filled 12 6) = .ok sealed ∧
      ∀ own block, (sampleStored sampleRead).Opens samplePlatform "password" sealed sealed own
        block → (sampleStored sampleRead).Kept sealed block := by
  obtain ⟨restored, saved, tampered⟩ := identity_files_iff samplePlatform_json samplePlatform_exact
    samplePlatform_aead samplePlatform_binds sampleFiles_indents (sampleStored sampleRead)
    "password" "" "alice.json" (.filled 16 5) (.filled 12 6) fun _ => none
  have sealable := sampleStored_sealable sampleRead
  refine ⟨saved.mpr ⟨sealable, sampleRead_unlabelled, sampleStored_unpaired _, rfl⟩, ?_⟩
  obtain ⟨sealed, written, j, read, same⟩ := restored.mpr ⟨sealable, sampleRead_unlabelled⟩
  refine ⟨sealed, written, ?_⟩
  have kept := (tampered sealed written (.dict sealed) ?_).mp ?_
  · exact fun own block => kept sealed own block rfl
  · rintro payload ⟨⟩
    exact derived_written written
  · intro j read
    cases (fromEncryptedDict_written samplePlatform_json samplePlatform_aead written).mp read
    exact ⟨rfl, rfl, rfl, rfl, rfl, rfl, rfl⟩

/-- The generated identity is not the one that is read, and an attacker renames the other. -/
theorem sampleGenerated_differs :
    (¬ ∃ payload, (sampleStored sampleGenerated).toEncryptedDict samplePlatform "password"
        (.filled 16 5) (.filled 12 6) = .ok payload ∧
      ∃ j, sampleFiles.fromEncryptedDict samplePlatform "password" "" (.dict payload) = .ok j ∧
        (sampleStored sampleGenerated).Restored j) ∧
    ∃ sealed, (sampleStored sampleRead).toEncryptedDict samplePlatform "password" (.filled 16 5)
        (.filled 12 6) = .ok sealed ∧
      ∃ payload, Derived samplePlatform sampleFiles "password" sealed payload ∧
        ∃ j, sampleFiles.fromEncryptedDict samplePlatform "password" "" (.dict payload) = .ok j ∧
          j.name = .str "mallory" := by
  constructor
  · intro restored
    have plain := ((restored_iff samplePlatform_json samplePlatform_exact samplePlatform_aead).mp
      restored).2.1
    cases plain
  · obtain ⟨sealed, written⟩ := (exists_encrypted samplePlatform_exact).mpr
      (sampleStored_sealable sampleRead)
    obtain ⟨payload, derived, j, read, name, -⟩ := exists_renamed samplePlatform_json
      samplePlatform_exact samplePlatform_aead samplePlatform_binds written "mallory"
    exact ⟨sealed, written, payload, derived, j, read, name⟩

end StoredIdentity

end Uxsp
