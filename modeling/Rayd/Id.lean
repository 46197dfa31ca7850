import Rayd.Lib.LittleEndian

/-! Fixed-width identifiers. An object id is its task id followed by the
four-byte little-endian return index, so a submitter can name results before
the task runs. Hex text and random generation are not modeled here. -/
namespace Rayd
open Memory

structure Id (size : Nat) where
  bytes : Bytes
  size_eq : bytes.length = size
  deriving DecidableEq, Repr

abbrev JobId := Id 16
abbrev TaskId := Id 24
abbrev WorkerId := Id 16
abbrev ActorId := Id 16
abbrev ObjectId := Id 28

namespace Id

@[ext] theorem ext {a b : Id size} (same : a.bytes = b.bytes) : a = b := by
  cases a
  cases b
  cases same
  rfl

def nil (size : Nat) : Id size := ⟨List.replicate size 0, List.length_replicate⟩

def fromBytes? (size : Nat) (bytes : Bytes) : Option (Id size) :=
  if sized : bytes.length = size then some ⟨bytes, sized⟩ else none

theorem fromBytes?_bytes (id : Id size) : fromBytes? size id.bytes = some id := by
  simp only [fromBytes?, dif_pos id.size_eq]

theorem eq_bytes_of_fromBytes? {text : Bytes} {id : Id size} (found : fromBytes? size text = some id) :
    text = id.bytes := by
  simp only [fromBytes?] at found
  split at found
  · cases found
    rfl
  · cases found

end Id

namespace ObjectId

def forReturn (task : TaskId) (returnIndex : Nat) : ObjectId where
  bytes := task.bytes ++ LittleEndian.encode 4 returnIndex
  size_eq := by simp only [List.length_append, task.size_eq, LittleEndian.encode_length]

def taskId (id : ObjectId) : TaskId :=
  ⟨id.bytes.take 24, by simp only [List.length_take, id.size_eq]; rfl⟩

def returnIndex (id : ObjectId) : Nat := LittleEndian.decode (id.bytes.drop 24)

theorem forReturn_taskId (task : TaskId) (index : Nat) : (forReturn task index).taskId = task := by
  ext1
  exact List.take_left' task.size_eq

theorem forReturn_returnIndex (task : TaskId) (fits : index < 2 ^ 32) :
    (forReturn task index).returnIndex = index := by
  simp only [returnIndex, forReturn, List.drop_left' task.size_eq]
  exact LittleEndian.decode_encode (by simpa using fits)

theorem forReturn_injective {task task' : TaskId} (left : i < 2 ^ 32) (right : j < 2 ^ 32)
    (same : forReturn task i = forReturn task' j) : task = task' ∧ i = j := by
  constructor
  · rw [← forReturn_taskId task i, same, forReturn_taskId]
  · rw [← forReturn_returnIndex task left, same, forReturn_returnIndex _ right]

end ObjectId
end Rayd
