import Rayd.Lib.LittleEndian

/-! Metadata headers of stored values and the states read off them. -/
namespace Rayd.Core
open Memory

inductive RefState where
  | pending | readyLocal | readyRemote | failed
  deriving DecidableEq, Repr

inductive ErrorCategory where
  | taskException | workerDied | actorDied | ownerDied | taskCancelled | objectLost
  | objectUnreconstructable | fetchTimeout | runtimeEnvFailed | unschedulable | outOfMemory
  deriving DecidableEq, Repr

inductive MetadataDecodeError where
  | empty
  | unknownDiscriminator (byte : UInt8)
  | truncated (expected got : Nat)
  | unknownErrorCategory (byte : UInt8)
  deriving DecidableEq, Repr

namespace ErrorCategory

def asByte : ErrorCategory → UInt8
  | .taskException => 1
  | .workerDied => 2
  | .actorDied => 3
  | .ownerDied => 4
  | .taskCancelled => 5
  | .objectLost => 6
  | .objectUnreconstructable => 7
  | .fetchTimeout => 8
  | .runtimeEnvFailed => 9
  | .unschedulable => 10
  | .outOfMemory => 11

def fromByte (byte : UInt8) : Except MetadataDecodeError ErrorCategory :=
  match byte with
  | 1 => .ok .taskException
  | 2 => .ok .workerDied
  | 3 => .ok .actorDied
  | 4 => .ok .ownerDied
  | 5 => .ok .taskCancelled
  | 6 => .ok .objectLost
  | 7 => .ok .objectUnreconstructable
  | 8 => .ok .fetchTimeout
  | 9 => .ok .runtimeEnvFailed
  | 10 => .ok .unschedulable
  | 11 => .ok .outOfMemory
  | other => .error (.unknownErrorCategory other)

theorem fromByte_asByte (category : ErrorCategory) : fromByte category.asByte = .ok category := by
  cases category <;> rfl

end ErrorCategory

inductive Metadata where
  | pickle5 (hasNestedRefs : Bool)
  | raw
  | actorHandle
  | error (category : ErrorCategory) (rawCode : UInt16)
  deriving DecidableEq, Repr

namespace Metadata

def encode : Metadata → Bytes
  | .pickle5 hasNestedRefs => [1, if hasNestedRefs then 1 else 0]
  | .raw => [2]
  | .actorHandle => [3]
  | .error category rawCode =>
    16 :: category.asByte :: LittleEndian.encode 2 rawCode.toNat

/-- Bytes after the variant's own payload are ignored. -/
def decode (bytes : Bytes) : Except MetadataDecodeError Metadata :=
  match bytes with
  | [] => .error .empty
  | 1 :: rest =>
    match rest with
    | [] => .error (.truncated 2 bytes.length)
    | flag :: _ => .ok (.pickle5 (flag != 0))
  | 2 :: _ => .ok .raw
  | 3 :: _ => .ok .actorHandle
  | 16 :: rest =>
    match rest with
    | category :: low :: high :: _ => do
      let category ← ErrorCategory.fromByte category
      return .error category (UInt16.ofNat (LittleEndian.decode [low, high]))
    | _ => .error (.truncated 4 bytes.length)
  | other :: _ => .error (.unknownDiscriminator other)

def isError : Metadata → Bool
  | .error .. => true
  | _ => false

theorem decode_encode (metadata : Metadata) : decode metadata.encode = .ok metadata := by
  cases metadata with
  | pickle5 hasNestedRefs => cases hasNestedRefs <;> rfl
  | raw => rfl
  | actorHandle => rfl
  | error category rawCode =>
    have fits : rawCode.toNat < 256 ^ 2 := rawCode.toNat_lt
    have code := LittleEndian.decode_encode fits
    simp only [LittleEndian.encode] at code
    simp only [encode, decode, LittleEndian.encode, ErrorCategory.fromByte_asByte, code]
    simp [bind, Except.bind, pure, Except.pure]

theorem encode_length_le (metadata : Metadata) : metadata.encode.length ≤ 4 := by
  cases metadata <;> simp [encode]

end Metadata
end Rayd.Core
