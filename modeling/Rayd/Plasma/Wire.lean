import Rayd.Lib.Codec
import Rayd.Plasma.Client

/-! The messages between plasma clients and the server, in their binary form:
fields in declaration order, integers little-endian at full width, a variant as a
four-byte number, lists and texts behind an eight-byte length. Decoding stops at a
limit on the bytes it reads. -/
namespace Rayd.Plasma
open Memory

structure AddressBlob where
  host : String
  port : UInt16
  workerId : WorkerId
  deriving DecidableEq

def AddressBlob.nil : AddressBlob := ⟨"", 0, Id.nil 16⟩

structure CreateRequest where
  objectId : ObjectId
  metadataSize : UInt64
  dataSize : UInt64
  owner : AddressBlob
  deriving DecidableEq

inductive Request where
  | create (request : CreateRequest)
  | sealObject (id : ObjectId)
  | get (id : ObjectId)
  | contains (id : ObjectId)
  | release (id : ObjectId)
  | delete (id : ObjectId)
  | list
  | disconnect
  deriving DecidableEq

namespace Wire
open Codec

def maxFrameBytes : Nat := 8 * 1024 * 1024

def id (size : Nat) : Codec (Id size) :=
  (fixed size).convert (Id.fromBytes? size) Id.bytes (fun id _ => Id.fromBytes?_bytes id)

theorem id_fits (value : Id size) : (id size).Fits value := value.size_eq

def u16 : Codec UInt16 :=
  (word 2).convert (fun value => some (UInt16.ofNat value)) UInt16.toNat
    (fun value _ => by rw [UInt16.ofNat_toNat])

def u64 : Codec UInt64 :=
  (word 8).convert (fun value => some (UInt64.ofNat value)) UInt64.toNat
    (fun value _ => by rw [UInt64.ofNat_toNat])

def addressBlob : Codec AddressBlob :=
  (string.pair (u16.pair (id 16))).convert (fun (host, port, workerId) => some ⟨host, port, workerId⟩)
    (fun blob => (blob.host, blob.port, blob.workerId)) (fun _ _ => rfl)

def createRequest : Codec CreateRequest :=
  ((id 28).pair (u64.pair (u64.pair addressBlob))).convert
    (fun (objectId, metadataSize, dataSize, owner) => some ⟨objectId, metadataSize, dataSize, owner⟩)
    (fun request => (request.objectId, request.metadataSize, request.dataSize, request.owner))
    (fun _ _ => rfl)

def slotInfo : Codec SlotInfo :=
  ((word 8).pair ((word 8).pair ((word 8).pair ((word 8).pair ((word 8).pair
    ((word 8).pair bool)))))).convert
    (fun (arenaId, arenaCapacity, metadataOffset, metadataSize, dataOffset, dataSize, isSealed) =>
      some ⟨arenaId, arenaCapacity, metadataOffset, metadataSize, dataOffset, dataSize, isSealed⟩)
    (fun info => (info.arenaId, info.arenaCapacity, info.metadataOffset, info.metadataSize,
      info.dataOffset, info.dataSize, info.isSealed)) (fun _ _ => rfl)

def kindNumber : ServerErrorKind → Nat
  | .notFound => 0
  | .alreadyExists => 1
  | .outOfMemory => 2
  | .notSealed => 3
  | .alreadySealed => 4
  | .internal => 5

def errorKind : Codec ServerErrorKind :=
  (word 4).convert
    (fun
      | 0 => some .notFound
      | 1 => some .alreadyExists
      | 2 => some .outOfMemory
      | 3 => some .notSealed
      | 4 => some .alreadySealed
      | 5 => some .internal
      | _ => none)
    kindNumber (fun kind _ => by cases kind <;> rfl)

def contains : Codec (Bool × Option Bytes × Bool) := bool.pair ((option (vec byte)).pair bool)

def serverError : Codec (ServerErrorKind × String) := errorKind.pair string

def requestFields : Nat → Bytes → Option (Request × Bytes)
  | 0 => createRequest.via .create
  | 1 => (id 28).via .sealObject
  | 2 => (id 28).via .get
  | 3 => (id 28).via .contains
  | 4 => (id 28).via .release
  | 5 => (id 28).via .delete
  | 6 => fun rest => some (.list, rest)
  | 7 => fun rest => some (.disconnect, rest)
  | _ => fun _ => none

def request : Codec Request where
  Fits
    | .create request => createRequest.Fits request
    | _ => True
  encode
    | .create request => variant 0 (createRequest.encode request)
    | .sealObject object => variant 1 ((id 28).encode object)
    | .get object => variant 2 ((id 28).encode object)
    | .contains object => variant 3 ((id 28).encode object)
    | .release object => variant 4 ((id 28).encode object)
    | .delete object => variant 5 ((id 28).encode object)
    | .list => variant 6 []
    | .disconnect => variant 7 []
  decode := tagged requestFields
  decode_encode := by
    intro value rest fits
    cases value with
    | create request => exact (tagged_variant (by decide)).trans (createRequest.via_encode _ fits rest)
    | sealObject object | get object | contains object | release object | delete object =>
      exact (tagged_variant (by decide)).trans ((id 28).via_encode _ (id_fits object) rest)
    | list | disconnect => exact tagged_variant (by decide)

def responseFields : Nat → Bytes → Option (Response × Bytes)
  | 0 => fun rest => some (.ok, rest)
  | 1 => slotInfo.via .created
  | 2 => slotInfo.via .got
  | 3 => contains.via fun found => .contains found.1 found.2.1 found.2.2
  | 4 => (vec (id 28)).via .listed
  | 5 => serverError.via fun failure => .error failure.1 failure.2
  | _ => fun _ => none

def response : Codec Response where
  Fits
    | .ok => True
    | .created info | .got info => slotInfo.Fits info
    | .contains present metadata isSealed => contains.Fits (present, metadata, isSealed)
    | .listed objectIds => (vec (id 28)).Fits objectIds
    | .error kind message => serverError.Fits (kind, message)
  encode
    | .ok => variant 0 []
    | .created info => variant 1 (slotInfo.encode info)
    | .got info => variant 2 (slotInfo.encode info)
    | .contains present metadata isSealed => variant 3 (contains.encode (present, metadata, isSealed))
    | .listed objectIds => variant 4 ((vec (id 28)).encode objectIds)
    | .error kind message => variant 5 (serverError.encode (kind, message))
  decode := tagged responseFields
  decode_encode := by
    intro value rest fits
    cases value with
    | ok => exact tagged_variant (by decide)
    | created info | got info =>
      exact (tagged_variant (by decide)).trans (slotInfo.via_encode _ fits rest)
    | contains present metadata isSealed =>
      exact (tagged_variant (by decide)).trans
        (contains.via_encode (fun found => Response.contains found.1 found.2.1 found.2.2) fits rest)
    | listed objectIds => exact (tagged_variant (by decide)).trans ((vec (id 28)).via_encode _ fits rest)
    | error kind message =>
      exact (tagged_variant (by decide)).trans
        (serverError.via_encode (fun failure => Response.error failure.1 failure.2) fits rest)

/-! Every value of the fixed-width types has room, and the length of a message
depends on its texts and lists only. -/

theorem u16_fits (value : UInt16) : u16.Fits value := value.toNat_lt

theorem u64_fits (value : UInt64) : u64.Fits value := value.toNat_lt

theorem utf8_length (text : String) : text.toUTF8.data.toList.length = text.utf8ByteSize := by
  rw [Array.length_toList]
  rfl

theorem string_fits (small : text.utf8ByteSize < 2 ^ 64) : string.Fits text :=
  ⟨by rw [utf8_length]; exact small, fun _ _ => byte_fits _⟩

theorem createRequest_fits {request : CreateRequest} (small : request.owner.host.utf8ByteSize < 2 ^ 64) :
    createRequest.Fits request :=
  ⟨id_fits _, u64_fits _, u64_fits _, string_fits small, u16_fits _, id_fits _⟩

theorem slotInfo_fits (arenaId : info.arenaId < 2 ^ 64) (arenaCapacity : info.arenaCapacity < 2 ^ 64)
    (metadataOffset : info.metadataOffset < 2 ^ 64) (metadataSize : info.metadataSize < 2 ^ 64)
    (dataOffset : info.dataOffset < 2 ^ 64) (dataSize : info.dataSize < 2 ^ 64) :
    slotInfo.Fits info :=
  ⟨arenaId, arenaCapacity, metadataOffset, metadataSize, dataOffset, dataSize, bool_fits _⟩

theorem errorKind_fits (kind : ServerErrorKind) : errorKind.Fits kind := by
  show kindNumber kind < 256 ^ 4
  cases kind <;> decide

section Lengths

theorem word_length (width value : Nat) : ((word width).encode value).length = width :=
  LittleEndian.encode_length ..

theorem string_length (text : String) : (string.encode text).length = 8 + text.utf8ByteSize := by
  have bytes := vec_length byte text.toUTF8.data.toList byte_length
  rw [utf8_length, Nat.one_mul] at bytes
  exact bytes

theorem createRequest_length (request : CreateRequest) :
    (createRequest.encode request).length = 70 + request.owner.host.utf8ByteSize := by
  simp only [createRequest, addressBlob, convert, pair, u64, u16, id, fixed, List.length_append,
    string_length, word_length, Id.size_eq]
  omega

theorem slotInfo_length (info : SlotInfo) : (slotInfo.encode info).length = 49 := by
  simp only [slotInfo, convert, pair, Codec.bool, List.length_append, word_length]

theorem metadata_length (metadata : Option Bytes) :
    ((option (vec byte)).encode metadata).length = metadata.elim 1 fun bytes => 9 + bytes.length := by
  have flag : ∀ value, (Codec.bool.encode value).length = 1 := fun _ => word_length ..
  cases metadata with
  | none => exact flag false
  | some bytes =>
    simp only [option, List.length_append, flag, vec_length byte bytes byte_length, Option.elim_some]
    omega

def requestSize : Request → Nat
  | .create request => 74 + request.owner.host.utf8ByteSize
  | .list | .disconnect => 4
  | _ => 32

theorem request_length (asked : Request) : (request.encode asked).length = requestSize asked := by
  cases asked with
  | create request =>
    refine (variant_length ..).trans ?_
    rw [createRequest_length, requestSize]
    omega
  | sealObject object | get object | contains object | release object | delete object =>
    exact (variant_length ..).trans (congrArg (4 + ·) object.size_eq)
  | list | disconnect => exact variant_length ..

def responseSize : Response → Nat
  | .ok => 4
  | .created _ | .got _ => 53
  | .contains _ metadata _ => metadata.elim 7 fun bytes => 15 + bytes.length
  | .listed objectIds => 12 + 28 * objectIds.length
  | .error _ message => 16 + message.utf8ByteSize

theorem response_length (answer : Response) : (response.encode answer).length = responseSize answer := by
  cases answer with
  | ok => exact variant_length ..
  | created info | got info => exact (variant_length ..).trans (congrArg (4 + ·) (slotInfo_length info))
  | contains present metadata isSealed =>
    refine (variant_length ..).trans ?_
    simp only [contains, pair, Codec.bool, convert, List.length_append, word_length, metadata_length,
      responseSize]
    cases metadata with
    | none => rfl
    | some bytes => simp only [Option.elim_some]; omega
  | listed objectIds =>
    refine (variant_length ..).trans ?_
    rw [vec_length _ _ fun object => object.size_eq, responseSize]
    omega
  | error kind message =>
    refine (variant_length ..).trans ?_
    simp only [serverError, pair, errorKind, convert, List.length_append, word_length, string_length,
      responseSize]
    omega

end Lengths

/-- `decode`: the bytes read count against the limit, what follows them is ignored. -/
def decode (codec : Codec A) (bytes : Bytes) : Option A :=
  match codec.decode bytes with
  | some (value, rest) => if bytes.length - rest.length ≤ maxFrameBytes then some value else none
  | none => none

theorem decode_encode (codec : Codec A) {value : A} (fits : codec.Fits value)
    (small : (codec.encode value).length ≤ maxFrameBytes) :
    decode codec (codec.encode value) = some value := by
  have read := codec.decode_encode [] fits
  rw [List.append_nil] at read
  simp only [decode, read, List.length_nil, Nat.sub_zero, if_pos small]

end Wire
end Rayd.Plasma
