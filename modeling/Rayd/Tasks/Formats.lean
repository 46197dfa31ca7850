import Rayd.Tasks.Process

/-! The result formats of the Python worker beside those of the driver's encoders. The
worker packs its headers with `struct`, each value in the width of its format character. -/
namespace Rayd.Tasks.Process
open Memory Core

def structPack : List (Nat × Nat) → Except Escaped Bytes
  | [] => .ok []
  | (width, value) :: fields =>
    if value < 256 ^ width then (structPack fields).map fun packed => LittleEndian.encode width value ++ packed
    else .error .structError

/-- `_encode_pickle5_metadata`. -/
def encodePickle5Metadata (hasNestedRefs : Bool) : Except Escaped Bytes :=
  structPack [(1, 1), (1, if hasNestedRefs then 1 else 0)]

/-- `_encode_error_metadata`. -/
def encodeErrorMetadata (category rawCode : Nat) : Except Escaped Bytes :=
  structPack [(1, 16), (1, category), (2, rawCode)]

theorem structPack_fits {fields : List (Nat × Nat)} (fits : ∀ field ∈ fields, field.2 < 256 ^ field.1) :
    structPack fields = .ok (fields.flatMap fun field => LittleEndian.encode field.1 field.2) := by
  induction fields with
  | nil => rfl
  | cons field fields ih =>
    obtain ⟨here, there⟩ := List.forall_mem_cons.mp fits
    rw [structPack, if_pos here, ih there]
    rfl

theorem encodePickle5Metadata_eq (hasNestedRefs : Bool) :
    encodePickle5Metadata hasNestedRefs = .ok (Metadata.encode (.pickle5 hasNestedRefs)) := by
  cases hasNestedRefs <;> rfl

theorem encodeErrorMetadata_eq (category : ErrorCategory) (rawCode : UInt16) :
    encodeErrorMetadata category.asByte.toNat rawCode.toNat =
      .ok (Metadata.encode (.error category rawCode)) := by
  have fits : ∀ field ∈ [(1, 16), (1, category.asByte.toNat), (2, rawCode.toNat)], field.2 < 256 ^ field.1 := by
    intro field member
    simp only [List.mem_cons, List.not_mem_nil, or_false] at member
    rcases member with rfl | rfl | rfl
    · decide
    · exact category.asByte.toNat_lt
    · exact rawCode.toNat_lt
  rw [encodeErrorMetadata, structPack_fits fits]
  simp [Metadata.encode, LittleEndian.encode]

/-- For texts below 4 GiB the worker builds a payload exactly if the driver's encoder
writes one, and it is the same. Headers are the same for every flag, category and code.
The driver reads all of them back. The worker seals its results under two of them. -/
theorem result_formats_agree :
    (∀ (message traceback : String) (dumped : Dumped) (pickled : Option Bytes),
      (ErrorPayload.utf8 message).length < 2 ^ 32 → (ErrorPayload.utf8 traceback).length < 2 ^ 32 →
      dumped.caught = .ok pickled →
      (∀ bytes, buildErrorPayload ⟨some (ErrorPayload.utf8 message), some (ErrorPayload.utf8 traceback), dumped⟩ =
          .ok bytes ↔ ErrorPayload.write ⟨message, some traceback, 0, pickled⟩ = some bytes) ∧
      ((∀ data ∈ pickled, data.length < 2 ^ 32) →
        buildErrorPayload ⟨some (ErrorPayload.utf8 message), some (ErrorPayload.utf8 traceback), dumped⟩ =
          .ok (ErrorPayload.encode ⟨message, some traceback, 0, pickled⟩) ∧
        ErrorPayload.decode (ErrorPayload.encode ⟨message, some traceback, 0, pickled⟩) =
          .ok ⟨message, some traceback, 0, pickled⟩)) ∧
    (∀ hasNestedRefs, encodePickle5Metadata hasNestedRefs = .ok (Metadata.encode (.pickle5 hasNestedRefs)) ∧
      Metadata.decode (Metadata.encode (.pickle5 hasNestedRefs)) = .ok (.pickle5 hasNestedRefs)) ∧
    (∀ (category : ErrorCategory) (rawCode : UInt16),
      encodeErrorMetadata category.asByte.toNat rawCode.toNat = .ok (Metadata.encode (.error category rawCode)) ∧
      Metadata.decode (Metadata.encode (.error category rawCode)) = .ok (.error category rawCode)) ∧
    encodePickle5Metadata false = .ok pickle5Header ∧ encodeErrorMetadata 1 0 = .ok errorHeader := by
  refine ⟨fun message traceback dumped pickled short low caught => ⟨fun bytes => ?_, fun small => ?_⟩,
    fun hasNestedRefs => ⟨encodePickle5Metadata_eq hasNestedRefs, Metadata.decode_encode _⟩,
    fun category rawCode => ⟨encodeErrorMetadata_eq category rawCode, Metadata.decode_encode _⟩, rfl, rfl⟩
  · rw [buildErrorPayload_encode_iff caught, ErrorPayload.write_iff]
  · have fits : (⟨message, some traceback, 0, pickled⟩ : ErrorPayload).Fits :=
      ⟨short, fun text found => Option.some.inj found ▸ low, small⟩
    exact ⟨(buildErrorPayload_encode_iff caught).mpr ⟨fits, rfl⟩, ErrorPayload.decode_encode fits⟩

end Rayd.Tasks.Process
