import Uxsp.Crypto.Symmetric
import Uxsp.Python.JsonText

/-!
# A platform without secrecy

`Platform.transparent` satisfies the correctness laws with operations that hide nothing: a
ciphertext shows its key, a signature its private key, a shared secret is the exclusive or of the
two keys.  The model computes on it, so it is where theorems about every platform are applied to
concrete inputs.
-/

namespace Uxsp

/-- The rest of `b` behind the prefix `p`. -/
def Bytes.dropPrefix (p b : Bytes) : Option Bytes :=
  if b.take p.length = p then some (b.drop p.length) else none

@[simp] theorem Bytes.dropPrefix_append (p b : Bytes) : Bytes.dropPrefix p (p ++ b) = some b := by
  simp [Bytes.dropPrefix]

namespace Platform

/-- `json.dumps` of a dict with one number, one plain string or `None` in it. -/
def transparentDumps : Val → Except PyErr Bytes
  | .dict [(key, .int n)] =>
      (("\x7b\"" : Str) ++ key ++ ("\": " : Str) ++ Str.ofInt n ++ ("\x7d" : Str)).utf8
  | .dict [(key, .str s)] =>
      (("\x7b\"" : Str) ++ key ++ ("\": \"" : Str) ++ s ++ ("\"\x7d" : Str)).utf8
  | .dict [(key, .none)] => (("\x7b\"" : Str) ++ key ++ ("\": null\x7d" : Str)).utf8
  | _ => .error ⟨.typeError, ["Object is not JSON serializable"]⟩

/-- `json.loads` of the texts the examples send. -/
def transparentLoads (b : Bytes) : Except PyErr Val :=
  if b = .lit "\x7b\"ts\": 0\x7d" then .ok (.dict [("ts", .int 0)])
  else if b = .lit "\x7b\"reason\": \"normal\"\x7d" then .ok (.dict [("reason", .str "normal")])
  else .error ⟨.jsonDecodeError, ["Expecting value"]⟩

def transparentRuntime : Runtime where
  decimal := fun _ => none
  strFloat := fun _ => "nan"
  strFloat_ne_ofInt := fun _ _ => Str.ofString_ne_ofInt rfl rfl (by decide)
  strContainer := fun _ => .error ⟨.runtimeError, ["containers are not printed"]⟩
  jsonDumps := transparentDumps
  jsonCompact := fun _ => .ok []
  jsonLoads := transparentLoads
  fromIsoFormat := fun s => .error ⟨.valueError, ["Invalid isoformat string: ", .repr (.str s)]⟩

/-- Undo `p ++ ·`, with the given exception on anything else. -/
def stripped (e : PyErr) (p b : Bytes) : Except PyErr Bytes :=
  match Bytes.dropPrefix p b with
  | some rest => .ok rest
  | none => .error e

theorem stripped_append (e : PyErr) (p b : Bytes) : stripped e p (p ++ b) = .ok b := by
  simp [stripped]

theorem stripped_of_ne {e : PyErr} {p b : Bytes} (foreign : ∀ rest, b ≠ p ++ rest) :
    stripped e p b = .error e := by
  have differs : b.take p.length ≠ p := by
    intro same
    have split := List.take_append_drop p.length b
    rw [same] at split
    exact foreign _ split.symm
  simp only [stripped, Bytes.dropPrefix, if_neg differs]

def transparent : Platform where
  toRuntime := transparentRuntime
  aesgcmEncrypt := fun key nonce data ad => .ok (key ++ nonce ++ ad ++ data)
  aesgcmDecrypt := fun key nonce ciphertext ad =>
    stripped ⟨.invalidTag, []⟩ (key ++ nonce ++ ad) ciphertext
  hkdf := fun length salt info ikm =>
    (info.reverse ++ ikm ++ salt.getD [] ++ List.replicate length 0).take length
  hkdf_length := by
    intro length salt info ikm
    simp only [List.length_take, List.length_append, List.length_replicate]
    omega
  hmacSha256 := fun key message => (message.reverse ++ key ++ List.replicate 32 0).take 32
  hmac_length := by
    intro key message
    simp only [List.length_take, List.length_append, List.length_replicate]
    omega
  sha256 := fun data => (data.reverse ++ List.replicate 32 0).take 32
  sha256_length := by
    intro data
    simp only [List.length_take, List.length_append, List.length_replicate]
    omega
  x25519Public := id
  x25519 := fun mine theirs => .ok (List.zipWith (fun a b => a ^^^ b) mine theirs)
  ed25519Public := id
  ed25519Sign := fun privateKey message => .ok (privateKey ++ message)
  ed25519Verify := fun publicKey signature message => signature == publicKey ++ message
  kemKeypair := fun coins => ⟨coins, coins⟩
  kemEncapsulate := fun publicKey coins => .ok (publicKey ++ coins, coins)
  kemDecapsulate := fun privateKey ciphertext =>
    stripped ⟨.runtimeError, ["decapsulation failed"]⟩ privateKey ciphertext
  pqcSigKeypair := fun coins => ⟨coins, coins⟩
  pqcSign := fun privateKey message _ => .ok (privateKey ++ message)
  pqcVerify := fun publicKey signature message => .ok (signature == publicKey ++ message)

theorem transparent_aead : transparent.AeadCorrect where
  total := fun _ _ _ _ => ⟨_, rfl⟩
  open_seal := by
    intro key nonce data ad c sealed
    cases sealed
    exact stripped_append _ _ _

/-- A ciphertext that does not start with the key is refused. -/
theorem transparent_refuses {ciphertext key : Bytes} (nonce ad : Bytes)
    (foreign : ∀ rest, ciphertext ≠ key ++ rest) :
    ∃ e, Symmetric.decrypt transparent ciphertext nonce key ad = .error e := by
  have refused : transparent.aesgcmDecrypt key nonce ciphertext ad = .error ⟨.invalidTag, []⟩ := by
    refine stripped_of_ne fun rest same => foreign (nonce ++ (ad ++ rest)) ?_
    rw [same, List.append_assoc, List.append_assoc]
  unfold Symmetric.decrypt
  split
  · exact ⟨_, rfl⟩
  · split
    · exact ⟨_, rfl⟩
    · rw [refused]
      exact ⟨_, rfl⟩

theorem transparent_authentic : transparent.AeadAuthentic where
  foreign := by
    intro key key' nonce data ad c nonce' ad' size size' differ sealed
    cases sealed
    refine ⟨_, stripped_of_ne fun rest same => differ ?_⟩
    simp only [List.append_assoc] at same
    exact List.append_inj_left same (size.trans size'.symm)

theorem transparent_tidy : transparent.AeadTidy where
  seals := by
    intro key nonce data ad c opened
    change stripped _ _ _ = _ at opened
    unfold stripped Bytes.dropPrefix at opened
    split at opened
    · rename_i rest split
      split at split
      · rename_i same
        cases split
        cases opened
        have parts := List.take_append_drop (key ++ nonce ++ ad).length c
        rw [same] at parts
        exact congrArg Except.ok parts
      · cases split
    · cases opened

theorem transparent_separates : transparent.HkdfSeparates where
  directions := by
    intro info ikm same
    have toResp : (Bytes.lit ":init_to_resp").reverse.head? = some 112 := by decide
    have toInit : (Bytes.lit ":resp_to_init").reverse.head? = some 116 := by decide
    have head := congrArg List.head? same
    simp [transparent, List.head?_take, List.head?_append, toResp, toInit] at head

theorem transparent_exchange : transparent.ExchangeCorrect where
  agree := by
    intro a b s exchanged
    cases exchanged
    refine congrArg Except.ok (List.zipWith_comm_of_comm ?_)
    exact fun x y => UInt8.xor_comm x y
  exchange_total := fun _ _ => ⟨_, rfl⟩
  public_size := by
    intro a
    show a.1.length < 2 ^ 32
    rw [a.2]
    norm_num
  decapsulate := by
    intro seed coins ciphertext s encapsulated
    cases encapsulated
    exact stripped_append _ _ _
  encapsulate_total := by
    intro seed coins
    refine ⟨seed.1 ++ coins.1, coins.1, rfl, ?_⟩
    rw [List.length_append, seed.2, coins.2]
    norm_num

theorem transparent_signature : transparent.SignatureCorrect where
  classical := by
    intro key message signature signed
    cases signed
    exact beq_self_eq_true _
  classical_total := fun _ _ => ⟨_, rfl⟩
  pqc := by
    intro seed coins message signature signed
    cases signed
    exact congrArg Except.ok (beq_self_eq_true _)
  pqc_total := fun _ _ _ => ⟨_, rfl⟩

/-! ## The same platform with a JSON codec -/

def textualRuntime : Runtime :=
  { transparentRuntime with
    jsonDumps := JsonText.dumps .default
    jsonCompact := JsonText.dumps .compact
    jsonLoads := JsonText.loads }

def textual : Platform := { transparent with toRuntime := textualRuntime }

theorem textual_aead : textual.AeadCorrect :=
  ⟨transparent_aead.total, transparent_aead.open_seal⟩

theorem textual_exchange : textual.ExchangeCorrect :=
  ⟨transparent_exchange.agree, transparent_exchange.exchange_total, transparent_exchange.public_size,
    transparent_exchange.decapsulate, transparent_exchange.encapsulate_total⟩

theorem textual_signature : textual.SignatureCorrect where
  classical := transparent_signature.classical
  classical_total := transparent_signature.classical_total
  pqc := @fun _ coins _ _ signed => @transparent_signature.pqc _ coins _ _ signed
  pqc_total := transparent_signature.pqc_total

theorem textual_json : textual.JsonCorrect where
  compact := fun keyed written =>
    ⟨_, JsonText.loads_dumps JsonText.Separators.compact_lawful written,
      JsonText.keeps_joinedItems keyed⟩
  dumps := fun keyed written =>
    ⟨_, JsonText.loads_dumps JsonText.Separators.default_lawful written,
      JsonText.keeps_joinedItems keyed⟩

/-! ## The same platform, reading surrogate pairs as JSON does -/

def reading : Platform :=
  { textual with jsonLoads := fun text => (JsonText.loads text).map Val.reread }

theorem reading_aead : reading.AeadCorrect :=
  ⟨transparent_aead.total, transparent_aead.open_seal⟩

theorem reading_exchange : reading.ExchangeCorrect :=
  ⟨transparent_exchange.agree, transparent_exchange.exchange_total, transparent_exchange.public_size,
    transparent_exchange.decapsulate, transparent_exchange.encapsulate_total⟩

theorem reading_signature : reading.SignatureCorrect where
  classical := transparent_signature.classical
  classical_total := transparent_signature.classical_total
  pqc := @fun _ coins _ _ signed => @transparent_signature.pqc _ coins _ _ signed
  pqc_total := transparent_signature.pqc_total

theorem reading_json : reading.JsonRereads where
  compact := by
    intro v text written
    have read := JsonText.loads_dumps JsonText.Separators.compact_lawful written
    exact (congrArg (Except.map Val.reread) read).trans
      (congrArg Except.ok (JsonText.reread_joined v))
  dumps := by
    intro v text written
    have read := JsonText.loads_dumps JsonText.Separators.default_lawful written
    exact (congrArg (Except.map Val.reread) read).trans
      (congrArg Except.ok (JsonText.reread_joined v))

theorem reading_exact : reading.JsonExact where
  compact := by
    intro v text written
    show JsonText.dumps .compact v = _
    rw [JsonText.dumps, written]
  dumps := by
    intro v text written
    show JsonText.dumps .default v = _
    rw [JsonText.dumps, written]

theorem reading_line : reading.JsonLine := fun written =>
  JsonText.dumps_line JsonText.Separators.default_printable.1 JsonText.Separators.default_printable.2
    written

/-! ## The same platform with bound ciphertexts -/

/-- The associated data behind its length, which is written in ones. -/
def frame (ad : Bytes) : Bytes := List.replicate ad.length 1 ++ 0 :: ad

theorem frame_append_inj {ad ad' x y : Bytes} (same : frame ad ++ x = frame ad' ++ y) :
    ad = ad' ∧ x = y := by
  have lengths : ∀ (n m : ℕ) (s t : Bytes), List.replicate n (1 : UInt8) ++ 0 :: s =
      List.replicate m 1 ++ 0 :: t → n = m ∧ s = t := by
    intro n
    induction n with
    | zero =>
        intro m s t same
        cases m with
        | zero => exact ⟨rfl, (List.cons.inj same).2⟩
        | succ m => cases (List.cons.inj same).1
    | succ n ih =>
        intro m s t same
        cases m with
        | zero => cases (List.cons.inj same).1
        | succ m =>
            obtain ⟨rfl, rest⟩ := ih m s t (List.cons.inj same).2
            exact ⟨rfl, rest⟩
  simp only [frame, List.append_assoc, List.cons_append] at same
  obtain ⟨size, rest⟩ := lengths _ _ _ _ same
  exact List.append_inj rest size

theorem of_stripped {e : PyErr} {p b m : Bytes} (done : stripped e p b = .ok m) : b = p ++ m := by
  unfold stripped Bytes.dropPrefix at done
  split at done
  · rename_i rest found
    split at found
    · rename_i start
      cases found
      cases done
      nth_rewrite 1 [← List.take_append_drop p.length b, start]
      rfl
    · cases found
  · cases done

/-- A ciphertext shows its key, its nonce and its associated data. -/
def framed : Platform :=
  { textual with
    aesgcmEncrypt := fun key nonce data ad => .ok (key ++ nonce ++ frame ad ++ data)
    aesgcmDecrypt := fun key nonce ciphertext ad =>
      stripped ⟨.invalidTag, []⟩ (key ++ nonce ++ frame ad) ciphertext }

theorem framed_aead : framed.AeadCorrect where
  total := fun _ _ _ _ => ⟨_, rfl⟩
  open_seal := by
    intro key nonce data ad c sealed
    cases sealed
    exact stripped_append _ _ _

theorem framed_binds : framed.AeadBinds where
  bound := by
    intro key key' nonce nonce' data ad ad' c m size size' sizeN sizeN' sealed opened
    cases sealed
    have same := of_stripped opened
    simp only [List.append_assoc] at same
    obtain ⟨keys, same⟩ := List.append_inj same (size.trans size'.symm)
    obtain ⟨nonces, same⟩ := List.append_inj same (sizeN.trans sizeN'.symm)
    exact ⟨keys.symm, nonces.symm, (frame_append_inj same).1.symm⟩

theorem framed_exchange : framed.ExchangeCorrect :=
  ⟨transparent_exchange.agree, transparent_exchange.exchange_total, transparent_exchange.public_size,
    transparent_exchange.decapsulate, transparent_exchange.encapsulate_total⟩

theorem framed_signature : framed.SignatureCorrect where
  classical := transparent_signature.classical
  classical_total := transparent_signature.classical_total
  pqc := @fun _ coins _ _ signed => @transparent_signature.pqc _ coins _ _ signed
  pqc_total := transparent_signature.pqc_total

end Platform

end Uxsp
