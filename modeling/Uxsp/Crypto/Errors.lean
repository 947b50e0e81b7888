import Uxsp.Crypto.Seal
import Uxsp.Crypto.Transparent
import Uxsp.Python.Raises

/-!
# What the calls of the crypto layer raise

`bytes.fromhex`, the binding of fields and the double signature.  The verification of ML-DSA answers
with a boolean on every input, by its own handlers, once the library has a signature algorithm.
-/

namespace Uxsp

/-- A signature algorithm is available. -/
def Platform.Installed (P : Platform) : Prop :=
  ∀ publicKey signature message, ∃ b, P.pqcVerify publicKey signature message = .ok b

theorem Platform.transparent_installed : transparent.Installed := fun _ _ _ => ⟨_, rfl⟩

variable {P : Platform} {classes : List ErrClass} {message : Dict}

theorem raises_fromHexVal (v : Val) : Raises [.valueError, .typeError] (fromHexVal v) := by
  unfold fromHexVal
  split
  · split
    · exact raises_ok _
    · exact raises_error.mpr rfl
  · exact raises_error.mpr rfl

theorem raises_hexField {field : Str} (present : message.has field = true) :
    Raises [.valueError, .typeError] (hexField message field) :=
  raises_bind.mpr ⟨Dict.raises_item_of_has present, fun v _ => raises_fromHexVal v⟩

/-- A field of 4 GiB is refused with a `ValueError`. -/
theorem raises_bindFields {fields : List Bytes} : Raises classes (bindFields fields) ↔
    (∀ f ∈ fields, f.length < 2 ^ 32) ∨ ErrClass.valueError.among classes = true := by
  cases bound : bindFields fields with
  | ok b => exact ⟨fun _ => Or.inl (bindFields_eq_ok.mp bound).1, fun _ => raises_ok b⟩
  | error e =>
      have refused : e.cls = .valueError := by
        unfold bindFields at bound
        split at bound
        · cases bound
          rfl
        · cases bound
      rw [raises_error, refused]
      refine ⟨Or.inr, fun either => either.resolve_left fun short => ?_⟩
      rw [bindFields_eq_ok.mpr ⟨short, rfl⟩] at bound
      cases bound

/-- Both signatures are verified, or a field is not hex. -/
theorem raises_hybridVerify (installed : P.Installed) {message : Bytes} {classicalSig pqcSig : Val}
    {sender : PublicKeys} :
    Raises [.envelopeValidationError] (hybridVerify P message classicalSig pqcSig sender) := by
  unfold hybridVerify
  split
  · split
    · obtain ⟨b, verified⟩ := installed _ _ _
      exact Raises.of_ok verified
    · exact raises_ok _
  · exact raises_error.mpr rfl
  · exact raises_error.mpr rfl

end Uxsp
