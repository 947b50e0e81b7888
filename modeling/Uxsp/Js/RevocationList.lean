import Uxsp.Js.TrustAnchor
import Uxsp.Js.Transparent
import Uxsp.Js.Wire
import Uxsp.Lib.StableSort

/-!
# Revocation lists in JavaScript

`issueCRL` signs the list that it is given and returns an object that it has filled from the list;
`verify` signs what `Object.entries` lists of the object.  An object has a key once, lists the
indices of an array before every other key, and takes no property under `__proto__`.

`issued_verifies_iff`: for which lists the two are the same, also behind `toJson` and `fromJson`.
-/

namespace Uxsp

/-! ## Objects -/

/-- The array index that a key is. -/
def JsStr.arrayIndex? (s : JsStr) : Option ℕ :=
  let n : ℕ := s.foldl (fun n u => 10 * n + (u.toNat - 48)) 0
  if JsStr.ofStr (Str.ofInt n) = s ∧ n < 2 ^ 32 - 1 then some n else none

/-- What is under keys, in the order in which an object with these keys lists it. -/
def propertyOrder {α : Type} (key : α → JsStr) (l : List α) : List α :=
  ((l.filter fun x => (key x).arrayIndex?.isSome).mergeSort fun x y =>
      decide ((key x).arrayIndex?.getD 0 ≤ (key y).arrayIndex?.getD 0)) ++
    l.filter fun x => (key x).arrayIndex?.isNone

/-- `Object.entries(o)`. -/
def JsObject.entries (o : JsObject) : JsObject := propertyOrder Prod.fst o

/-- `o[key] = v`; under `__proto__` the prototype is set. -/
def JsObject.assign (o : JsObject) (key : JsStr) (v : JsVal) : JsObject :=
  if key = JsStr.ofString "__proto__" then o else Assoc.set o key v

/-- `v.key`; `none` is `undefined`. -/
def JsVal.property (v : JsVal) (key : JsStr) : Except JsErr (Option JsVal) :=
  match v with
  | .object o => .ok (JsObject.get? o key)
  | .null => .error ⟨.typeError,
      [.lit "Cannot read properties of null (reading '", .str key, .lit "')"]⟩
  | _ => .ok none

mutual

/-- What `JSON.parse` reads of a value that `JSON.stringify` has written: no number but a finite
one. -/
def JsVal.reread : JsVal → JsVal
  | .number (.finite q) => .number (.finite q)
  | .number _ => .null
  | .array xs => .array (rereadList xs)
  | .object o => .object (rereadMembers o)
  | v => v

def JsVal.rereadList : List JsVal → List JsVal
  | [] => []
  | x :: xs => reread x :: rereadList xs

def JsVal.rereadMembers : List (JsStr × JsVal) → List (JsStr × JsVal)
  | [] => []
  | (k, v) :: o => (k, reread v) :: rereadMembers o

end

/-! ## `trustAnchor.ts` -/

/-- An element of the list that `issueCRL` takes. -/
structure JsRevocation where
  certId : JsStr
  reason : Option JsStr
  revocationDate : Option PyFloat

/-- What is signed of one certificate. -/
structure JsCrlEntry where
  certId : JsStr
  revocationDate : Option JsVal
  reason : Option JsVal

/-- The whole of a revocation list; after `fromJson` the texts may be anything. -/
structure JsSignedCrl extends JsCertificateRevocationList where
  issuerId : Option JsVal
  issuerName : Option JsVal
  crlNumber : PyFloat
  issuedAt : PyFloat
  classicalSig : Option JsVal
  pqcSig : Option JsVal

structure JsTrustAnchor where
  identity : JsIdentity
  name : JsStr

/-- `${v}`. -/
def JsRuntime.template (R : JsRuntime) : Option JsVal → Except JsErr JsStr
  | none => .ok "undefined"
  | some v => R.str v

/-- `encodeUTF8(v)`. -/
def JsRuntime.encodeUtf8 (R : JsRuntime) : Option JsVal → Except JsErr Bytes
  | none => .ok []
  | some v => do return JsStr.utf8 (← R.str v)

/-- `${cid}:${rDate}:${reason}` -/
def JsCrlEntry.line (R : JsRuntime) (e : JsCrlEntry) : Except JsErr Bytes := do
  let date ← R.template e.revocationDate
  let reason ← R.template e.reason
  return JsStr.utf8 (e.certId ++ ((":" : JsStr) ++ (date ++ ((":" : JsStr) ++ reason))))

/-- The comparison that `sort` is given: by id, as the locale has it. -/
def JsRuntime.byCertId {α : Type} (R : JsRuntime) (certId : α → JsStr) (a b : α) : Bool :=
  (R.localeCompare (certId a) (certId b)).isLE

def jsCrlSignable (R : JsRuntime) (issuerId : Option JsVal) (crlNumber issuedAt : PyFloat)
    (revokedCerts : List JsCrlEntry) : Except JsErr Bytes := do
  let entryBytes ← (revokedCerts.mergeSort (R.byCertId JsCrlEntry.certId)).mapM (·.line R)
  let issuerId ← R.encodeUtf8 issuerId
  return jsBindFields (.lit "UXSP-CRL-1" :: issuerId :: JsStr.utf8 (R.numberToString crlNumber) ::
    JsStr.utf8 (R.numberToString issuedAt) :: entryBytes)

namespace JsSignedCrl

variable (J : JsPlatform) (c : JsSignedCrl)

/-- What `verify` rebuilds of the list that was signed. -/
def signable : Except JsErr Bytes := do
  let entries ← (JsObject.entries c.revokedCerts).mapM fun (certId, info) => do
    let revocationDate ← info.property "revocation_date"
    let reason ← info.property "reason"
    return ⟨certId, revocationDate, reason⟩
  jsCrlSignable J.toJsRuntime c.issuerId c.crlNumber c.issuedAt entries

/-- `decodeHex(hex)`, also of `undefined`. -/
def decodeSig : Option JsVal → Except JsErr Bytes
  | some hex => decodeHex J.toJsRuntime hex
  | none => .error ⟨.typeError, [.lit "Cannot read properties of undefined (reading 'length')"]⟩

/-- Verify a second signature that is there and not empty. -/
def checkPqcSig (anchorPublicKeys : JsPublicKeys) (signable : Bytes) : Except JsErr Unit :=
  if (c.pqcSig.map JsVal.truthy).getD false then do
    let signature ← decodeSig J c.pqcSig
    if 0 < signature.length then
      let pqcValid ← J.verifyMLDSA anchorPublicKeys.pqcSigPub signature signable
      jsEnsure pqcValid ⟨.invalidCardSignatureError,
        [.lit "CRL PQC signature verification failed."]⟩
    else return ()
  else .ok ()

def verify (anchorPublicKeys : JsPublicKeys) : Except JsErr Bool := do
  let signable ← c.signable J
  let classicalSig ← decodeSig J c.classicalSig
  let classicalValid ← J.verifyEd25519 anchorPublicKeys.signingPub classicalSig signable
  jsEnsure classicalValid ⟨.invalidCardSignatureError,
    [.lit "CRL classical signature verification failed."]⟩
  c.checkPqcSig J anchorPublicKeys signable
  return true

/-- `toDict()`, as `JSON.stringify` lists it: without what is `undefined`. -/
def toDict : JsVal :=
  .object ([(JsStr.ofString "issuer_id", c.issuerId), (JsStr.ofString "issuer_name", c.issuerName),
    (JsStr.ofString "crl_number", some (.number c.crlNumber)),
    (JsStr.ofString "issued_at", some (.number c.issuedAt)),
    (JsStr.ofString "revoked_certs", some (.object (JsObject.entries c.revokedCerts))),
    (JsStr.ofString "classical_sig", c.classicalSig),
    (JsStr.ofString "pqc_sig", c.pqcSig)].filterMap fun (key, v) => v.map fun v => (key, v))

/-- The members of `v || {}`. -/
def members : Option JsVal → JsObject
  | some (.object o) => o
  | some (.array xs) => xs.zipIdx.map fun (x, i) => (JsStr.ofStr (Str.ofInt i), x)
  | some (.string s) => s.zipIdx.map fun (u, i) => (JsStr.ofStr (Str.ofInt i), .string [u])
  | _ => []

/-- `Number(v)`, also of `undefined`. -/
def number (R : JsRuntime) : Option JsVal → Except JsErr PyFloat
  | none => .ok .nan
  | some v => R.num v

def fromDict (R : JsRuntime) (data : JsVal) : Except JsErr JsSignedCrl := do
  let issuerId ← data.property "issuer_id"
  let issuerName ← data.property "issuer_name"
  let crlNumber ← number R (← data.property "crl_number")
  let issuedAt ← number R (← data.property "issued_at")
  let revokedCerts ← data.property "revoked_certs"
  let classicalSig ← data.property "classical_sig"
  let pqcSig ← data.property "pqc_sig"
  return { revokedCerts := members revokedCerts, issuerId, issuerName, crlNumber, issuedAt,
           classicalSig, pqcSig }

/-- `JSON.stringify(this.toDict(), null, 2)`, with `indented` for the call. -/
def toJson (indented : JsVal → JsStr) : JsStr := indented c.toDict

def fromJson (R : JsRuntime) (text : JsStr) : Except JsErr JsSignedCrl := do
  fromDict R (← R.jsonParse text)

end JsSignedCrl

/-! ### `issueCRL` -/

namespace JsRevocation

/-- The date of a revocation in a list that is issued at `ts`. -/
def date (ts : PyFloat) (r : JsRevocation) : PyFloat := r.revocationDate.getD ts

/-- `item.reason || "unspecified"`. -/
def reasonText (r : JsRevocation) : JsStr :=
  match r.reason with
  | none | some [] => "unspecified"
  | some reason => reason

/-- The element of `entryList`. -/
def entry (ts : PyFloat) (r : JsRevocation) : JsCrlEntry :=
  ⟨r.certId, some (.number (r.date ts)), some (.string r.reasonText)⟩

/-- What is put into the registry. -/
def info (ts : PyFloat) (r : JsRevocation) : JsVal :=
  .object [("revocation_date", .number (r.date ts)), ("reason", .string r.reasonText)]

/-- `registry` after the loop. -/
def registry (ts : PyFloat) (revokedCerts : List JsRevocation) : JsObject :=
  revokedCerts.foldl (fun o r => JsObject.assign o r.certId (r.info ts)) []

end JsRevocation

/-- The second signature, empty with a stub key. -/
def JsTrustAnchor.signPqc (J : JsPlatform) (a : JsTrustAnchor) (signable : Bytes)
    (coins : Urandom 32) : Except JsErr Bytes :=
  if a.identity.pqcSig.privateKey = JsStr.ofString "STUB_MLDSA_PRIV" then .ok []
  else J.signMLDSA a.identity.pqcSig.privateKey signable coins

/-- `issueCRL`; `now` is `Date.now() / 1000`. -/
def JsTrustAnchor.issueCRL (J : JsPlatform) (a : JsTrustAnchor) (revokedCerts : List JsRevocation)
    (crlNumber : PyFloat) (issuedAt : Option PyFloat) (now : ℚ) (coins : Urandom 32) :
    Except JsErr JsSignedCrl := do
  let ts := issuedAt.getD (.finite ⌊now⌋)
  let issuerId := some (.string a.identity.entityId)
  let signable ← jsCrlSignable J.toJsRuntime issuerId crlNumber ts
    (revokedCerts.map (JsRevocation.entry ts))
  let classicalSig ← J.signEd25519 a.identity.signing.privateKey signable
  let pqcSig ← a.signPqc J signable coins
  return { revokedCerts := JsRevocation.registry ts revokedCerts
           issuerId := issuerId
           issuerName := some (.string a.name)
           crlNumber := crlNumber
           issuedAt := ts
           classicalSig := some (.string (JsStr.ofBytes classicalSig))
           pqcSig := some (.string (JsStr.ofBytes pqcSig)) }

/-! ## Property order -/

section

variable {α β : Type} (key : α → JsStr) (l : List α)

theorem propertyOrder_perm : (propertyOrder key l).Perm l := by
  have split := List.filter_append_perm (fun x => (key x).arrayIndex?.isSome) l
  refine ((List.mergeSort_perm _ _).append_right _).trans ?_
  simpa only [Bool.not_eq_eq_eq_not, Option.not_isSome] using split

/-- What is listed in property order is so. -/
theorem propertyOrder_propertyOrder :
    propertyOrder key (propertyOrder key l) = propertyOrder key l := by
  set first := (l.filter fun x => (key x).arrayIndex?.isSome).mergeSort fun x y =>
    decide ((key x).arrayIndex?.getD 0 ≤ (key y).arrayIndex?.getD 0) with sorted
  have indices : ∀ x ∈ first, (key x).arrayIndex?.isSome = true := fun x mem =>
    (List.mem_filter.mp ((List.mergeSort_perm _ _).subset mem)).2
  have others : ∀ x ∈ l.filter fun x => (key x).arrayIndex?.isNone,
      (key x).arrayIndex?.isNone = true := fun x mem => (List.mem_filter.mp mem).2
  have ascending : first.Pairwise fun x y =>
      decide ((key x).arrayIndex?.getD 0 ≤ (key y).arrayIndex?.getD 0) = true := by
    refine List.pairwise_mergeSort ?_ ?_ _
    · intro a b c ab bc
      exact decide_eq_true ((of_decide_eq_true ab).trans (of_decide_eq_true bc))
    · intro a b
      simpa using le_total ((key a).arrayIndex?.getD 0) ((key b).arrayIndex?.getD 0)
  have left : (propertyOrder key l).filter (fun x => (key x).arrayIndex?.isSome) = first := by
    rw [propertyOrder, List.filter_append, ← sorted, List.filter_eq_self.mpr indices,
      List.filter_eq_nil_iff.mpr, List.append_nil]
    intro x mem
    simpa using others x mem
  have right : (propertyOrder key l).filter (fun x => (key x).arrayIndex?.isNone) =
      l.filter fun x => (key x).arrayIndex?.isNone := by
    rw [propertyOrder, List.filter_append, ← sorted, List.filter_eq_nil_iff.mpr, List.nil_append,
      List.filter_eq_self.mpr others]
    intro x mem
    simpa [← Option.isSome_iff_ne_none] using indices x mem
  conv_lhs => rw [propertyOrder, left, right, List.mergeSort_of_pairwise ascending]
  rw [propertyOrder]

variable {key l}

/-- Keys that are no array index stay in the order they came in. -/
theorem propertyOrder_of_none (plain : ∀ x ∈ l, (key x).arrayIndex? = none) :
    propertyOrder key l = l := by
  have empty : l.filter (fun x => (key x).arrayIndex?.isSome) = [] :=
    List.filter_eq_nil_iff.mpr fun x mem => by simp [plain x mem]
  have all : l.filter (fun x => (key x).arrayIndex?.isNone) = l :=
    List.filter_eq_self.mpr fun x mem => by simp [plain x mem]
  rw [propertyOrder, empty, all, List.mergeSort_nil, List.nil_append]

/-- The order depends on the keys only. -/
theorem propertyOrder_map {f : α → β} {key' : β → JsStr} (keys : ∀ x, key' (f x) = key x) :
    propertyOrder key' (l.map f) = (propertyOrder key l).map f := by
  simp only [propertyOrder, List.map_append, List.filter_map, Function.comp_def, keys]
  congr 1
  refine (List.map_mergeSort fun a _ b _ => ?_).symm
  simp only [keys]

end

namespace JsRevocation

variable {ts : PyFloat} {L : List JsRevocation}

/-! ## The registry -/

/-- Every id is there once, and none is a setter of the prototype. -/
structure Kept (L : List JsRevocation) : Prop where
  distinct : (L.map certId).Nodup
  named : ∀ r ∈ L, r.certId ≠ JsStr.ofString "__proto__"

theorem registry_snoc (ts : PyFloat) (L : List JsRevocation) (r : JsRevocation) :
    registry ts (L ++ [r]) = JsObject.assign (registry ts L) r.certId (r.info ts) := by
  rw [registry, List.foldl_append]
  rfl

theorem length_assign (o : JsObject) (key : JsStr) (v : JsVal) :
    (o.assign key v).length =
      if key = JsStr.ofString "__proto__" ∨ (o.lookup key).isSome then o.length
      else o.length + 1 := by
  unfold JsObject.assign Assoc.set
  split
  · rename_i setter
    rw [if_pos (.inl setter)]
  · rename_i plain
    split
    · rename_i present
      rw [if_pos (.inr present), List.length_map]
    · rename_i absent
      rw [if_neg (not_or.mpr ⟨plain, absent⟩), List.length_append]
      rfl

theorem length_registry_le (ts : PyFloat) (L : List JsRevocation) :
    (registry ts L).length ≤ L.length := by
  induction L using List.reverseRecOn with
  | nil => exact le_rfl
  | append_singleton L r ih =>
      rw [registry_snoc, length_assign, List.length_append, List.length_singleton]
      split <;> omega

/-- The registry has an entry for each revocation if they are kept, and only then that many. -/
theorem registry_of_kept (kept : Kept L) :
    registry ts L = L.map fun r => (r.certId, r.info ts) := by
  induction L using List.reverseRecOn with
  | nil => rfl
  | append_singleton L r ih =>
      have distinct := kept.distinct
      rw [List.map_append] at distinct
      obtain ⟨before, -, apart⟩ := List.nodup_append.mp distinct
      have plain := kept.named r (List.mem_append_right _ (List.mem_singleton.mpr rfl))
      have listed := ih ⟨before, fun q mem => kept.named q (List.mem_append_left _ mem)⟩
      have absent : ¬ ((registry ts L).lookup r.certId).isSome = true := by
        rw [Assoc.isSome_lookup, listed, List.map_map]
        exact fun mem => apart _ mem _ (List.mem_singleton.mpr rfl) rfl
      rw [registry_snoc, JsObject.assign, if_neg plain, Assoc.set, if_neg absent, listed,
        List.map_append]
      rfl

theorem kept_of_length (full : (registry ts L).length = L.length) : Kept L := by
  induction L using List.reverseRecOn with
  | nil => exact ⟨List.nodup_nil, fun r mem => absurd mem List.not_mem_nil⟩
  | append_singleton L r ih =>
      have most := length_registry_le ts L
      rw [registry_snoc, length_assign, List.length_append, List.length_singleton] at full
      split at full
      · omega
      · rename_i new
        obtain ⟨plain, absent⟩ := not_or.mp new
        have kept := ih (by omega)
        rw [registry_of_kept kept, Assoc.isSome_lookup, List.map_map] at absent
        refine ⟨?_, ?_⟩
        · rw [List.map_append]
          refine List.nodup_append.mpr ⟨kept.distinct, List.nodup_singleton _, ?_⟩
          intro x mem y last same
          rw [List.mem_singleton.mp last] at same
          exact absent (same ▸ mem)
        · intro q mem
          rcases List.mem_append.mp mem with old | last
          · exact kept.named q old
          · rw [List.mem_singleton.mp last]
            exact plain

/-! ## What is signed -/

variable {R : JsRuntime}

/-- The text of a date, which JSON has as `null` if it is not finite. -/
def shown (R : JsRuntime) (json : Bool) (x : PyFloat) : JsStr :=
  match json, x with
  | true, .inf _ | true, .nan => "null"
  | _, x => R.numberToString x

/-- The text of a revocation, in the list that was issued and in what JSON keeps of it. -/
def line (R : JsRuntime) (ts : PyFloat) (json : Bool) (r : JsRevocation) : Bytes :=
  JsStr.utf8 (r.certId ++ ((":" : JsStr) ++ (shown R json (r.date ts) ++
    ((":" : JsStr) ++ r.reasonText))))

/-- The entry with the date as JSON has it. -/
def entryJson (ts : PyFloat) (json : Bool) (r : JsRevocation) : JsCrlEntry :=
  if json then ⟨r.certId, some (JsVal.number (r.date ts)).reread, some (.string r.reasonText)⟩
  else r.entry ts

theorem certId_entryJson (ts : PyFloat) (json : Bool) (r : JsRevocation) :
    (r.entryJson ts json).certId = r.certId := by
  unfold entryJson
  split <;> rfl

theorem line_entryJson (R : JsRuntime) (ts : PyFloat) (json : Bool) (r : JsRevocation) :
    (r.entryJson ts json).line R = .ok (r.line R ts json) := by
  unfold entryJson line shown
  cases json with
  | false => rfl
  | true => cases r.date ts <;> rfl

/-- The order of `sort`. -/
abbrev sort (R : JsRuntime) (L : List JsRevocation) : List JsRevocation :=
  L.mergeSort (R.byCertId certId)

/-- What is bound of a list with these lines. -/
def fields (R : JsRuntime) (issuerId : JsStr) (crlNumber issuedAt : PyFloat) (lines : List Bytes) :
    List Bytes :=
  .lit "UXSP-CRL-1" :: issuerId.utf8 :: JsStr.utf8 (R.numberToString crlNumber) ::
    JsStr.utf8 (R.numberToString issuedAt) :: lines

theorem mapM_map_ok {α β γ : Type} {f : α → β} {g : β → Except JsErr γ} {h : α → γ}
    (each : ∀ x, g (f x) = .ok (h x)) (xs : List α) : (xs.map f).mapM g = .ok (xs.map h) := by
  induction xs with
  | nil => rfl
  | cons x xs ih =>
      rw [List.map_cons, List.mapM_cons, each, ih]
      rfl

theorem jsCrlSignable_entries (R : JsRuntime) (issuerId : JsStr) (crlNumber issuedAt : PyFloat)
    (ts : PyFloat) (json : Bool) (L : List JsRevocation) :
    jsCrlSignable R (some (.string issuerId)) crlNumber issuedAt (L.map (entryJson ts json)) =
      .ok (jsBindFields (fields R issuerId crlNumber issuedAt
        ((sort R L).map (line R ts json)))) := by
  have sorted : (L.map (entryJson ts json)).mergeSort (R.byCertId JsCrlEntry.certId) =
      (sort R L).map (entryJson ts json) := by
    refine (List.map_mergeSort fun a _ b _ => ?_).symm
    simp only [JsRuntime.byCertId, certId_entryJson]
  rw [jsCrlSignable, sorted, mapM_map_ok (line_entryJson R ts json)]
  rfl

/-- What `verify` rebuilds of an object with these members. -/
theorem signable_entries (J : JsPlatform) {c : JsSignedCrl} {issuerId : JsStr} {ts : PyFloat}
    {json : Bool} (issuer : c.issuerId = some (.string issuerId))
    (members : JsObject.entries c.revokedCerts =
      L.map fun r => (r.certId, if json then (r.info ts).reread else r.info ts)) :
    c.signable J = .ok (jsBindFields (fields J.toJsRuntime issuerId c.crlNumber c.issuedAt
      ((sort J.toJsRuntime L).map (line J.toJsRuntime ts json)))) := by
  unfold JsSignedCrl.signable
  rw [members, mapM_map_ok (h := entryJson ts json), issuer]
  · exact jsCrlSignable_entries J.toJsRuntime issuerId c.crlNumber c.issuedAt ts json L
  · intro r
    cases json <;> rfl

/-! ## When two lists have one signature -/

/-- `Number` of what JSON keeps of a number. -/
def jsonNumber : PyFloat → PyFloat
  | .finite q => .finite q
  | _ => .finite 0

theorem jsonNumber_cases (x : PyFloat) : jsonNumber x = x ∨ jsonNumber x = .finite 0 := by
  cases x with
  | finite q => exact .inl rfl
  | inf negative => exact .inr rfl
  | nan => exact .inr rfl

/-- The fields fit behind their lengths, as those of all strings do that an engine can hold. -/
structure Fits (R : JsRuntime) (issuerId : JsStr) (crlNumber ts : PyFloat)
    (L : List JsRevocation) : Prop where
  issuer : issuerId.utf8.length < 2 ^ 32
  numbers : ∀ x ∈ .finite 0 :: crlNumber :: ts :: L.map (date ts),
    (JsStr.utf8 (R.numberToString x)).length < 2 ^ 30
  texts : ∀ r ∈ L, r.certId.utf8.length + r.reasonText.utf8.length < 2 ^ 31

theorem line_eq (R : JsRuntime) (ts : PyFloat) (json : Bool) (r : JsRevocation) :
    r.line R ts json = r.certId.utf8 ++ (JsStr.utf8 (":" : JsStr) ++
      (JsStr.utf8 (shown R json (r.date ts)) ++ (JsStr.utf8 (":" : JsStr) ++ r.reasonText.utf8))) := by
  rw [line, JsStr.utf8_colon, JsStr.utf8_colon]

theorem Fits.fields {issuerId : JsStr} {crlNumber ts n t : PyFloat}
    (fits : Fits R issuerId crlNumber ts L) (number : n = crlNumber ∨ n = .finite 0)
    (stamp : t = ts ∨ t = .finite 0) (json : Bool) {M : List JsRevocation}
    (inside : ∀ r ∈ M, r ∈ L) :
    ∀ f ∈ fields R issuerId n t ((sort R M).map (line R ts json)), f.length < 2 ^ 32 := by
  have zero := fits.numbers (.finite 0) List.mem_cons_self
  have own := fits.numbers crlNumber (by simp)
  have time := fits.numbers ts (by simp)
  intro f mem
  simp only [JsRevocation.fields, List.mem_cons, List.mem_map] at mem
  rcases mem with rfl | rfl | rfl | rfl | ⟨r, here, rfl⟩
  · decide
  · exact fits.issuer
  · rcases number with rfl | rfl <;> omega
  · rcases stamp with rfl | rfl <;> omega
  · have member := inside r ((List.mergeSort_perm M _).subset here)
    have texts := fits.texts r member
    have listed : r.date ts ∈ .finite 0 :: crlNumber :: ts :: L.map (date ts) := by
      simp only [List.mem_cons, List.mem_map]
      exact .inr (.inr (.inr ⟨r, member, rfl⟩))
    have colon : (JsStr.utf8 (":" : JsStr)).length = 1 := by decide
    have date : (JsStr.utf8 (shown R json (r.date ts))).length < 2 ^ 30 := by
      have null : (JsStr.utf8 (JsStr.ofString "null")).length < 2 ^ 30 := by decide
      unfold shown
      split
      · exact null
      · exact null
      · exact fits.numbers _ listed
    simp only [line_eq, List.length_append, colon]
    omega

/-- One signature binds equal numbers and equal lines. -/
theorem fields_inj {issuerId : JsStr} {n n' t t' : PyFloat} {lines lines' : List Bytes}
    (short : ∀ f ∈ fields R issuerId n t lines, f.length < 2 ^ 32)
    (short' : ∀ f ∈ fields R issuerId n' t' lines', f.length < 2 ^ 32)
    (same : jsBindFields (fields R issuerId n t lines) =
      jsBindFields (fields R issuerId n' t' lines')) :
    JsStr.utf8 (R.numberToString n) = JsStr.utf8 (R.numberToString n') ∧
      JsStr.utf8 (R.numberToString t) = JsStr.utf8 (R.numberToString t') ∧ lines = lines' := by
  have equal := packLength_lawful.join_injective short short' same
  simp only [fields, List.cons.injEq, true_and] at equal
  exact equal

/-- What `String` makes of the numbers that JSON has no text for, and of zero. -/
structure Spells (R : JsRuntime) : Prop where
  nan : R.numberToString .nan = JsStr.ofString "NaN"
  inf : ∀ negative, R.numberToString (.inf negative) =
    if negative then JsStr.ofString "-Infinity" else JsStr.ofString "Infinity"
  zero : R.numberToString (.finite 0) = JsStr.ofString "0"

theorem finite_of_jsonNumber (spells : Spells R) {x : PyFloat}
    (same : JsStr.utf8 (R.numberToString (jsonNumber x)) = JsStr.utf8 (R.numberToString x)) :
    ∃ q, x = .finite q := by
  cases x with
  | finite q => exact ⟨q, rfl⟩
  | inf negative =>
      change JsStr.utf8 (R.numberToString (.finite 0)) = _ at same
      rw [spells.zero, spells.inf] at same
      cases negative <;> exact absurd same (by decide)
  | nan =>
      change JsStr.utf8 (R.numberToString (.finite 0)) = _ at same
      rw [spells.zero, spells.nan] at same
      exact absurd same (by decide)

theorem finite_of_line (spells : Spells R) {ts : PyFloat} {r : JsRevocation}
    (same : r.line R ts true = r.line R ts false) : ∃ q, r.date ts = .finite q := by
  rw [line_eq, line_eq] at same
  have dates := List.append_cancel_right (List.append_cancel_left (List.append_cancel_left same))
  cases kept : r.date ts with
  | finite q => exact ⟨q, rfl⟩
  | inf negative =>
      rw [kept, shown, shown, spells.inf] at dates
      · cases negative <;> exact absurd dates (by decide)
      · nofun
      · nofun
  | nan =>
      rw [kept, shown, shown, spells.nan] at dates
      · exact absurd dates (by decide)
      · nofun
      · nofun

theorem line_finite {ts : PyFloat} {r : JsRevocation} (finite : ∃ q, r.date ts = .finite q) :
    r.line R ts true = r.line R ts false := by
  obtain ⟨q, kept⟩ := finite
  rw [line, line, kept]
  rfl

end JsRevocation

/-! ## Verification -/

/-- A signature of Ed25519 verifies for what was signed and for nothing else, one of ML-DSA for what
was signed. -/
structure JsIdentity.Signs (J : JsPlatform) (i : JsIdentity) : Prop where
  classical : ∀ {m m' sig : Bytes}, J.signEd25519 i.signing.privateKey m = .ok sig →
    (J.verifyEd25519 i.signing.publicKey sig m' = .ok true ↔ m' = m)
  pqc : ∀ {m sig : Bytes} {coins : Urandom 32}, J.signMLDSA i.pqcSig.privateKey m coins = .ok sig →
    J.verifyMLDSA i.pqcSig.publicKey sig m = .ok true

namespace JsTrustAnchor

variable {J : JsPlatform} {a : JsTrustAnchor} {L : List JsRevocation} {crlNumber : PyFloat}
  {issuedAt : Option PyFloat} {now : ℚ} {coins : Urandom 32} {crl c : JsSignedCrl}

/-- The two signatures of a message. -/
structure Signed (J : JsPlatform) (a : JsTrustAnchor) (m : Bytes) (c : JsSignedCrl) : Prop where
  classical : ∃ sig, J.signEd25519 a.identity.signing.privateKey m = .ok sig ∧
    c.classicalSig = some (.string (JsStr.ofBytes sig))
  pqc : ∃ sig, c.pqcSig = some (.string (JsStr.ofBytes sig)) ∧
    (sig = [] ∨ ∃ coins, J.signMLDSA a.identity.pqcSig.privateKey m coins = .ok sig)

theorem Signed.checkPqcSig {m : Bytes} (signed : Signed J a m c) (signs : a.identity.Signs J) :
    c.checkPqcSig J a.identity.publicCard.publicKeys m = .ok () := by
  obtain ⟨sig, given, made⟩ := signed.pqc
  rw [JsSignedCrl.checkPqcSig, given]
  split
  · simp only [JsSignedCrl.decodeSig, decodeHex_ofBytes, bind, Except.bind]
    split
    · rename_i some
      rcases made with rfl | ⟨coins, made⟩
      · cases some
      · have valid : J.verifyMLDSA a.identity.publicCard.publicKeys.pqcSigPub sig m = .ok true :=
          signs.pqc made
        rw [valid]
        rfl
    · rfl
  · rfl

/-- A list with the signatures of a message verifies exactly if that is what `verify` rebuilds. -/
theorem Signed.verify_iff {m : Bytes} (signed : Signed J a m c) (signs : a.identity.Signs J) :
    c.verify J a.identity.publicCard.publicKeys = .ok true ↔ c.signable J = .ok m := by
  obtain ⟨sig, made, given⟩ := signed.classical
  have decoded : JsSignedCrl.decodeSig J c.classicalSig = .ok sig := by
    rw [given, JsSignedCrl.decodeSig, decodeHex_ofBytes]
  simp only [JsSignedCrl.verify, js_bind_eq_ok, decoded, jsEnsure_eq_ok, js_pure_eq_ok]
  constructor
  · rintro ⟨m', built, sig', same, _, valid, _, rfl, -⟩
    obtain rfl := Except.ok.inj same
    rw [built, (signs.classical made).mp valid]
  · intro built
    exact ⟨m, built, sig, rfl, true, (signs.classical made).mpr rfl, (), rfl, (),
      signed.checkPqcSig signs, trivial⟩

/-- What `issueCRL` returns. -/
theorem issueCRL_facts (issued : a.issueCRL J L crlNumber issuedAt now coins = .ok crl) :
    ∃ ts, ts = issuedAt.getD (.finite ⌊now⌋) ∧ crl.revokedCerts = JsRevocation.registry ts L ∧
      crl.issuerId = some (.string a.identity.entityId) ∧ crl.crlNumber = crlNumber ∧
      crl.issuedAt = ts ∧
      Signed J a (jsBindFields (JsRevocation.fields J.toJsRuntime a.identity.entityId crlNumber ts
        ((JsRevocation.sort J.toJsRuntime L).map (JsRevocation.line J.toJsRuntime ts false)))) crl ∧
      ∃ name classical pqc, crl.issuerName = some (.string name) ∧
        crl.classicalSig = some (.string classical) ∧ crl.pqcSig = some (.string pqc) := by
  simp only [issueCRL, js_bind_eq_ok, js_pure_eq_ok] at issued
  obtain ⟨m, built, sig, classical, pqcSig, pqc, rfl⟩ := issued
  have same := JsRevocation.jsCrlSignable_entries J.toJsRuntime a.identity.entityId crlNumber
    (issuedAt.getD (.finite ⌊now⌋)) (issuedAt.getD (.finite ⌊now⌋)) false L
  obtain rfl := Except.ok.inj (same.symm.trans built)
  refine ⟨_, rfl, rfl, rfl, rfl, rfl, ⟨⟨sig, classical, rfl⟩, pqcSig, rfl, ?_⟩, _, _, _, rfl, rfl,
    rfl⟩
  unfold signPqc at pqc
  split at pqc
  · exact .inl (Except.ok.inj pqc).symm
  · exact .inr ⟨coins, pqc⟩

/-! ## Behind JSON -/

theorem rereadMembers_map {α : Type} (f : α → JsStr × JsVal) (xs : List α) :
    JsVal.rereadMembers (xs.map f) = xs.map fun x => ((f x).1, (f x).2.reread) := by
  induction xs with
  | nil => rfl
  | cons x xs ih =>
      rw [List.map_cons, JsVal.rereadMembers, ih]
      rfl

/-- What JSON keeps of a list. -/
def reread (crl : JsSignedCrl) : JsSignedCrl :=
  { crl with
    revokedCerts := JsVal.rereadMembers (JsObject.entries crl.revokedCerts)
    crlNumber := JsRevocation.jsonNumber crl.crlNumber
    issuedAt := JsRevocation.jsonNumber crl.issuedAt }

/-- What `fromJson` makes of the text of an issued list. -/
theorem fromDict_reread (R : JsRuntime) {issuer name classical pqc : JsStr}
    (issuerId : crl.issuerId = some (.string issuer))
    (issuerName : crl.issuerName = some (.string name))
    (classicalSig : crl.classicalSig = some (.string classical))
    (pqcSig : crl.pqcSig = some (.string pqc)) :
    JsSignedCrl.fromDict R crl.toDict.reread = .ok (reread crl) := by
  obtain ⟨⟨registry⟩, _, _, crlNumber, issuedAt, _, _⟩ := crl
  obtain rfl := issuerId
  obtain rfl := issuerName
  obtain rfl := classicalSig
  obtain rfl := pqcSig
  cases crlNumber <;> cases issuedAt <;> rfl

/-! ## Which lists verify -/

/-- Revocations whose ids compare equal come in the order in which an object lists the ids, or at
least their texts do. -/
def Aligned (R : JsRuntime) (ts : PyFloat) (L : List JsRevocation) : Prop :=
  ∀ c : JsRevocation,
    (L.filter (StableSort.tied (R.byCertId JsRevocation.certId) c)).map
        (JsRevocation.line R ts false) =
      ((propertyOrder JsRevocation.certId L).filter
        (StableSort.tied (R.byCertId JsRevocation.certId) c)).map (JsRevocation.line R ts false)

/-- The numbers of a list are those that JSON can write. -/
structure Finite (crlNumber ts : PyFloat) (L : List JsRevocation) : Prop where
  number : ∃ q, crlNumber = .finite q
  issued : ∃ q, ts = .finite q
  dates : ∀ r ∈ L, ∃ q, r.date ts = .finite q

theorem byCertId_trans {R : JsRuntime} (locale : Std.TransCmp R.localeCompare)
    (a b c : JsRevocation) (ab : R.byCertId JsRevocation.certId a b = true)
    (bc : R.byCertId JsRevocation.certId b c = true) :
    R.byCertId JsRevocation.certId a c = true :=
  locale.isLE_trans ab bc

theorem byCertId_total {R : JsRuntime} (locale : Std.TransCmp R.localeCompare)
    (a b : JsRevocation) :
    (R.byCertId JsRevocation.certId a b || R.byCertId JsRevocation.certId b a) = true := by
  have swap := locale.eq_swap (a := a.certId) (b := b.certId)
  unfold JsRuntime.byCertId
  rw [swap]
  cases R.localeCompare b.certId a.certId <;> rfl

/-- The lines of a list and of what `Object.entries` lists of it are the same after `sort`. -/
theorem aligned_iff {R : JsRuntime} (locale : Std.TransCmp R.localeCompare) (ts : PyFloat)
    (L : List JsRevocation) :
    (JsRevocation.sort R (propertyOrder JsRevocation.certId L)).map (JsRevocation.line R ts false) =
      (JsRevocation.sort R L).map (JsRevocation.line R ts false) ↔ Aligned R ts L := by
  rw [eq_comm]
  exact StableSort.map_sort_eq_iff (byCertId_trans locale) (byCertId_total locale)
    (propertyOrder_perm JsRevocation.certId L).symm

/-- Every member of the registry comes from a revocation. -/
theorem exists_registry (ts : PyFloat) (L : List JsRevocation) : ∃ M : List JsRevocation,
    (∀ r ∈ M, r ∈ L) ∧
      JsRevocation.registry ts L = M.map fun r => (r.certId, r.info ts) := by
  have from_list : ∀ item ∈ JsRevocation.registry ts L, ∃ r ∈ L, (r.certId, r.info ts) = item := by
    induction L using List.reverseRecOn with
    | nil => exact fun item mem => absurd mem List.not_mem_nil
    | append_singleton L r ih =>
        have old : ∀ item ∈ JsRevocation.registry ts L, ∃ q ∈ L ++ [r],
            (q.certId, q.info ts) = item := by
          intro item mem
          obtain ⟨q, inside, same⟩ := ih item mem
          exact ⟨q, List.mem_append_left _ inside, same⟩
        rw [JsRevocation.registry_snoc]
        unfold JsObject.assign
        split
        · exact old
        · exact Assoc.forall_set _ _ _ old
            ⟨r, List.mem_append_right _ (List.mem_singleton.mpr rfl), rfl⟩
  choose pick inside same using from_list
  refine ⟨(JsRevocation.registry ts L).attach.map fun x => pick x.1 x.2, ?_, ?_⟩
  · intro r mem
    obtain ⟨x, -, rfl⟩ := List.mem_map.mp mem
    exact inside x.1 x.2
  · rw [List.map_map]
    refine (List.attach_map_subtype_val _).symm.trans (List.map_congr_left fun x _ => ?_)
    exact (same x.1 x.2).symm

/-- A list verifies before it is written exactly if the registry keeps it and lists it in order. -/
theorem verify_iff (locale : Std.TransCmp J.localeCompare) (signs : a.identity.Signs J)
    (issued : a.issueCRL J L crlNumber issuedAt now coins = .ok crl)
    (fits : JsRevocation.Fits J.toJsRuntime a.identity.entityId crlNumber
      (issuedAt.getD (.finite ⌊now⌋)) L) :
    crl.verify J a.identity.publicCard.publicKeys = .ok true ↔
      JsRevocation.Kept L ∧ Aligned J.toJsRuntime (issuedAt.getD (.finite ⌊now⌋)) L := by
  obtain ⟨ts, stamp, certs, issuer, number, time, signed, -⟩ := issueCRL_facts issued
  rw [← stamp] at fits ⊢
  rw [signed.verify_iff signs]
  have rebuilt : ∀ {M : List JsRevocation},
      JsRevocation.registry ts L = M.map (fun r => (r.certId, r.info ts)) →
        crl.signable J = .ok (jsBindFields (JsRevocation.fields J.toJsRuntime a.identity.entityId
          crlNumber ts ((JsRevocation.sort J.toJsRuntime
            (propertyOrder JsRevocation.certId M)).map
              (JsRevocation.line J.toJsRuntime ts false)))) := by
    intro M members
    have entries : JsObject.entries crl.revokedCerts = (propertyOrder JsRevocation.certId M).map
        fun r => (r.certId, if false then (r.info ts).reread else r.info ts) := by
      rw [certs, members]
      exact propertyOrder_map fun _ => rfl
    have whole := JsRevocation.signable_entries J issuer entries
    rwa [number, time] at whole
  have own := fits.fields (.inl rfl) (.inl rfl) false fun r mem => mem
  constructor
  · intro built
    obtain ⟨M, inside, members⟩ := exists_registry ts L
    have bound := Except.ok.inj ((rebuilt members).symm.trans built)
    have theirs := fits.fields (.inl rfl) (.inl rfl) false fun r mem =>
      inside r ((propertyOrder_perm JsRevocation.certId M).subset mem)
    have lines := (JsRevocation.fields_inj theirs own bound).2.2
    have kept : JsRevocation.Kept L := by
      have count := congrArg List.length lines
      simp only [List.length_map, (List.mergeSort_perm _ _).length_eq,
        (propertyOrder_perm _ M).length_eq] at count
      exact JsRevocation.kept_of_length (members ▸ (List.length_map _).trans count)
    refine ⟨kept, (aligned_iff locale ts L).mp ?_⟩
    have bound' := Except.ok.inj
      ((rebuilt (JsRevocation.registry_of_kept kept)).symm.trans built)
    have theirs' := fits.fields (.inl rfl) (.inl rfl) false fun r mem =>
      (propertyOrder_perm JsRevocation.certId L).subset mem
    exact (JsRevocation.fields_inj theirs' own bound').2.2
  · rintro ⟨kept, aligned⟩
    rw [rebuilt (JsRevocation.registry_of_kept kept), (aligned_iff locale ts L).mpr aligned]

/-- What `fromJson` returns of an issued list that the registry keeps, and what its `verify`
rebuilds. -/
theorem fromJson_facts (issued : a.issueCRL J L crlNumber issuedAt now coins = .ok crl)
    (kept : JsRevocation.Kept L) {indented : JsVal → JsStr}
    (json : J.jsonParse (crl.toJson indented) = .ok crl.toDict.reread) :
    ∃ c, JsSignedCrl.fromJson J.toJsRuntime (crl.toJson indented) = .ok c ∧
      c.classicalSig = crl.classicalSig ∧ c.pqcSig = crl.pqcSig ∧
      c.signable J = .ok (jsBindFields (JsRevocation.fields J.toJsRuntime a.identity.entityId
        (JsRevocation.jsonNumber crlNumber)
        (JsRevocation.jsonNumber (issuedAt.getD (.finite ⌊now⌋)))
        ((JsRevocation.sort J.toJsRuntime (propertyOrder JsRevocation.certId L)).map
          (JsRevocation.line J.toJsRuntime (issuedAt.getD (.finite ⌊now⌋)) true)))) := by
  obtain ⟨ts, stamp, certs, issuer, number, time, -, name, classical, pqc, named, first, second⟩ :=
    issueCRL_facts issued
  rw [← stamp]
  have read := fromDict_reread J.toJsRuntime issuer named first second
  refine ⟨reread crl, ?_, rfl, rfl, ?_⟩
  · rw [JsSignedCrl.fromJson, json]
    exact read
  · have members : JsObject.entries crl.revokedCerts =
        (propertyOrder JsRevocation.certId L).map fun r => (r.certId, r.info ts) := by
      rw [certs, JsRevocation.registry_of_kept kept]
      exact propertyOrder_map fun _ => rfl
    have entries : JsObject.entries (reread crl).revokedCerts =
        (propertyOrder JsRevocation.certId L).map
          fun r => (r.certId, if true then (r.info ts).reread else r.info ts) := by
      rw [reread, members, rereadMembers_map]
      refine (propertyOrder_map fun _ => rfl).trans ?_
      rw [propertyOrder_propertyOrder]
      rfl
    have whole := JsRevocation.signable_entries (c := reread crl) J issuer entries
    have numbers : (reread crl).crlNumber = JsRevocation.jsonNumber crlNumber :=
      congrArg JsRevocation.jsonNumber number
    have times : (reread crl).issuedAt = JsRevocation.jsonNumber ts :=
      congrArg JsRevocation.jsonNumber time
    rwa [numbers, times] at whole

/-! ## A sample anchor -/

/-- An anchor with a stub key of ML-DSA. -/
def sampleAnchor : JsTrustAnchor where
  identity := { JsIdentity.transparent "ca" 1 with
    pqcSig := ⟨"STUB_MLDSA_PUB", "STUB_MLDSA_PRIV"⟩ }
  name := "CA"

/-- The list that the anchor issues as number 1 at the time 7. -/
def sampleIssue (J : JsPlatform) (L : List JsRevocation) : Except JsErr JsSignedCrl :=
  sampleAnchor.issueCRL J L (.finite 1) (some (.finite 7)) 0 (.filled 32 0)

/-- A platform with `parse` for `JSON.parse`. -/
def sampleWith (parse : JsStr → Except JsErr JsVal) : JsPlatform :=
  { JsPlatform.transparent with jsonParse := parse }

variable (parse : JsStr → Except JsErr JsVal)

theorem sample_locale : Std.TransCmp (sampleWith parse).localeCompare := by
  have order : Std.TransCmp (compare : List ℕ → List ℕ → Ordering) := inferInstance
  exact { eq_swap := order.eq_swap, isLE_trans := order.isLE_trans }

theorem sample_spells : JsRevocation.Spells (sampleWith parse).toJsRuntime where
  nan := rfl
  inf := fun _ => rfl
  zero := by
    show JsRuntime.plain.numberToString (.finite 0) = JsStr.ofString "0"
    decide +kernel

theorem sample_sign (m : Bytes) :
    (sampleWith parse).signEd25519 sampleAnchor.identity.signing.privateKey m =
      .ok (List.replicate 32 1 ++ m) := by
  have key : decodeBase64 sampleAnchor.identity.signing.privateKey =
      .ok (pkcs8Header 0x70 ++ List.replicate 32 1) := decodeBase64_encodeBase64 _
  rw [JsPlatform.signEd25519, key]
  rfl

theorem sample_signs : sampleAnchor.identity.Signs (sampleWith parse) where
  classical := by
    intro m m' sig signed
    rw [sample_sign] at signed
    obtain rfl := Except.ok.inj signed
    have key : decodeBase64 sampleAnchor.identity.signing.publicKey = .ok (List.replicate 32 1) :=
      decodeBase64_encodeBase64 _
    rw [JsPlatform.verifyEd25519, key]
    show Except.ok (List.replicate 32 1 ++ m == List.replicate 32 1 ++ m') = _ ↔ _
    rw [Except.ok.injEq, beq_iff_eq, List.append_cancel_left_eq, eq_comm]
  pqc := by
    intro m sig coins signed
    cases signed

/-- What the anchor signs of a list. -/
def sampleMessage (L : List JsRevocation) : Bytes :=
  jsBindFields (JsRevocation.fields .plain "ca" (.finite 1) (.finite 7)
    ((JsRevocation.sort .plain L).map (JsRevocation.line .plain (.finite 7) false)))

def sampleList (L : List JsRevocation) : JsSignedCrl where
  revokedCerts := JsRevocation.registry (.finite 7) L
  issuerId := some (.string "ca")
  issuerName := some (.string "CA")
  crlNumber := .finite 1
  issuedAt := .finite 7
  classicalSig := some (.string (JsStr.ofBytes (List.replicate 32 1 ++ sampleMessage L)))
  pqcSig := some (.string [])

theorem sampleIssue_eq (L : List JsRevocation) :
    sampleIssue (sampleWith parse) L = .ok (sampleList L) := by
  have built : jsCrlSignable (sampleWith parse).toJsRuntime
      (some (.string sampleAnchor.identity.entityId)) (.finite 1) (.finite 7)
      (L.map (JsRevocation.entry (.finite 7))) = .ok (sampleMessage L) :=
    JsRevocation.jsCrlSignable_entries _ _ _ _ _ false L
  have pqc : sampleAnchor.signPqc (sampleWith parse) (sampleMessage L) (.filled 32 0) =
      .ok [] := if_pos rfl
  simp only [sampleIssue, issueCRL, Option.getD_some, built, sample_sign, pqc, bind, Except.bind]
  rfl

def sampleRevocations : List JsRevocation :=
  [⟨"b", some (JsStr.ofString "lost"), none⟩, ⟨"a", none, some (.finite 5)⟩]

/-- One certificate, revoked twice. -/
def sampleTwice : List JsRevocation :=
  [⟨"a", none, some (.finite 5)⟩, ⟨"a", none, some (.finite 6)⟩]

theorem sample_fits {L : List JsRevocation}
    (few : (L.all fun r => decide (r.certId.utf8.length + r.reasonText.utf8.length < 2 ^ 31) &&
      decide ((JsStr.utf8 (JsRuntime.plain.numberToString (r.date (.finite 7)))).length < 2 ^ 30)) =
        true) :
    JsRevocation.Fits (sampleWith parse).toJsRuntime sampleAnchor.identity.entityId (.finite 1)
      (.finite 7) L where
  issuer := by decide
  numbers := by
    have own : ∀ x ∈ ([.finite 0, .finite 1, .finite 7] : List PyFloat),
        (JsStr.utf8 (JsRuntime.plain.numberToString x)).length < 2 ^ 30 := by decide +kernel
    intro x mem
    simp only [List.mem_cons, List.mem_map] at mem
    rcases mem with rfl | rfl | rfl | ⟨r, here, rfl⟩
    · exact own (.finite 0) (by simp)
    · exact own (.finite 1) (by simp)
    · exact own (.finite 7) (by simp)
    · have checked := List.all_eq_true.mp few r here
      simp only [Bool.and_eq_true, decide_eq_true_eq] at checked
      exact checked.2
  texts := by
    intro r mem
    have checked := List.all_eq_true.mp few r mem
    simp only [Bool.and_eq_true, decide_eq_true_eq] at checked
    exact checked.1

/-- `JSON.stringify(crl.toDict(), null, 2)` of the sample list. -/
@[irreducible] def sampleText : JsStr :=
  JsStr.ofString "\x7b\n  \"issuer_id\": \"ca\",\n  \"issuer_name\": \"CA\",\n" ++
  JsStr.ofString "  \"crl_number\": 1,\n" ++
  JsStr.ofString "  \"issued_at\": 7,\n  \"revoked_certs\": \x7b\n    \"b\": \x7b\n" ++
  JsStr.ofString "      \"revocation_date\": 7,\n      \"reason\": \"lost\"\n    \x7d,\n" ++
  JsStr.ofString "    \"a\": \x7b\n      \"revocation_date\": 5,\n" ++
  JsStr.ofString "      \"reason\": \"unspecified\"\n    \x7d\n  \x7d,\n  \"classical_sig\": \"" ++
  JsStr.ofBytes (List.replicate 32 1 ++ sampleMessage sampleRevocations) ++
  JsStr.ofString "\",\n  \"pqc_sig\": \"\"\n\x7d"

/-- `JSON.parse` of that text. -/
def sampleParse (text : JsStr) : Except JsErr JsVal :=
  if text = sampleText then .ok (sampleList sampleRevocations).toDict.reread
  else .error ⟨.error, [.lit "Unexpected token"]⟩

/-- An issued list verifies, as it is and behind `toJson` and `fromJson`, exactly if its ids are
distinct and none is `__proto__`, revocations whose ids compare equal come in the order in which an
object lists the ids, and every number is finite. -/
theorem issued_verifies_iff (locale : Std.TransCmp J.localeCompare)
    (spells : JsRevocation.Spells J.toJsRuntime) (signs : a.identity.Signs J)
    (issued : a.issueCRL J L crlNumber issuedAt now coins = .ok crl)
    (fits : JsRevocation.Fits J.toJsRuntime a.identity.entityId crlNumber
      (issuedAt.getD (.finite ⌊now⌋)) L) {indented : JsVal → JsStr}
    (json : J.jsonParse (crl.toJson indented) = .ok crl.toDict.reread) :
    (crl.verify J a.identity.publicCard.publicKeys = .ok true ∧
        ∃ c, JsSignedCrl.fromJson J.toJsRuntime (crl.toJson indented) = .ok c ∧
          c.verify J a.identity.publicCard.publicKeys = .ok true) ↔
      JsRevocation.Kept L ∧ Aligned J.toJsRuntime (issuedAt.getD (.finite ⌊now⌋)) L ∧
        Finite crlNumber (issuedAt.getD (.finite ⌊now⌋)) L := by
  obtain ⟨ts, stamp, -, -, -, -, signed, -⟩ := issueCRL_facts issued
  have signedTwice : ∀ c : JsSignedCrl, c.classicalSig = crl.classicalSig → c.pqcSig = crl.pqcSig →
      Signed J a _ c := fun c classical pqc =>
    ⟨classical ▸ signed.classical, pqc ▸ signed.pqc⟩
  rw [verify_iff locale signs issued fits, and_assoc]
  refine and_congr_right fun kept => and_congr_right fun aligned => ?_
  obtain ⟨c, read, classical, pqc, rebuilt⟩ := fromJson_facts issued kept json
  rw [← stamp] at rebuilt aligned fits ⊢
  have sorted := (aligned_iff locale ts L).mpr aligned
  have verified := (signedTwice c classical pqc).verify_iff signs
  have only : (∃ c, JsSignedCrl.fromJson J.toJsRuntime (crl.toJson indented) = .ok c ∧
      c.verify J a.identity.publicCard.publicKeys = .ok true) ↔
        c.verify J a.identity.publicCard.publicKeys = .ok true := by
    constructor
    · rintro ⟨c', read', valid⟩
      obtain rfl := Except.ok.inj (read.symm.trans read')
      exact valid
    · exact fun valid => ⟨c, read, valid⟩
  rw [only, verified, rebuilt, Except.ok.injEq, ← sorted]
  have inside : ∀ r ∈ propertyOrder JsRevocation.certId L, r ∈ L := fun r mem =>
    (propertyOrder_perm JsRevocation.certId L).subset mem
  constructor
  · intro bound
    obtain ⟨numbers, stamps, lines⟩ := JsRevocation.fields_inj 
      (fits.fields (JsRevocation.jsonNumber_cases crlNumber) (JsRevocation.jsonNumber_cases ts) true
        inside) (fits.fields (.inl rfl) (.inl rfl) false inside) bound
    refine ⟨JsRevocation.finite_of_jsonNumber spells numbers,
      JsRevocation.finite_of_jsonNumber spells stamps, fun r mem => ?_⟩
    have listed : r ∈ JsRevocation.sort J.toJsRuntime (propertyOrder JsRevocation.certId L) :=
      (List.mergeSort_perm _ _).symm.subset
        ((propertyOrder_perm JsRevocation.certId L).symm.subset mem)
    exact JsRevocation.finite_of_line spells (List.map_inj_left.mp lines r listed)
  · rintro ⟨⟨n, rfl⟩, ⟨t, rfl⟩, dates⟩
    have lines := List.map_congr_left (l := JsRevocation.sort J.toJsRuntime
      (propertyOrder JsRevocation.certId L)) fun r mem =>
        JsRevocation.line_finite (R := J.toJsRuntime)
          (dates r (inside r ((List.mergeSort_perm _ _).subset mem)))
    rw [lines]
    rfl

theorem issued_verifies_iff_sample :
    (sampleList sampleRevocations).verify (sampleWith sampleParse)
        sampleAnchor.identity.publicCard.publicKeys = .ok true ∧
      ∃ c, JsSignedCrl.fromJson (sampleWith sampleParse).toJsRuntime sampleText = .ok c ∧
        c.verify (sampleWith sampleParse) sampleAnchor.identity.publicCard.publicKeys = .ok true := by
  have read : sampleParse sampleText = .ok (sampleList sampleRevocations).toDict.reread := by
    rw [sampleParse, if_pos rfl]
  have parsed : (sampleWith sampleParse).jsonParse
      ((sampleList sampleRevocations).toJson fun _ => sampleText) =
        .ok (sampleList sampleRevocations).toDict.reread := read
  refine (issued_verifies_iff (sample_locale _) (sample_spells _) (sample_signs _)
    (sampleIssue_eq _ sampleRevocations) (sample_fits _ (by decide +kernel)) parsed).mpr
      ⟨⟨by decide, by decide⟩, ?_, ⟨1, rfl⟩, ⟨7, rfl⟩, ?_⟩
  · intro c
    rw [propertyOrder_of_none (by decide +kernel)]
  · intro r mem
    rcases List.mem_cons.mp mem with rfl | rest
    · exact ⟨7, rfl⟩
    · rw [List.mem_singleton.mp rest]
      exact ⟨5, rfl⟩

/-- A certificate that is listed twice: what is returned does not verify. -/
theorem twice_unverified : ∃ crl, sampleIssue (sampleWith sampleParse) sampleTwice = .ok crl ∧
    crl.verify (sampleWith sampleParse) sampleAnchor.identity.publicCard.publicKeys ≠ .ok true := by
  refine ⟨_, sampleIssue_eq _ sampleTwice, fun verified => ?_⟩
  have kept := ((verify_iff (sample_locale _) (sample_signs _) (sampleIssue_eq _ sampleTwice)
    (sample_fits _ (by decide +kernel))).mp verified).1
  exact absurd kept.distinct (by decide)

end JsTrustAnchor

end Uxsp
