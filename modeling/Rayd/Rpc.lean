import Rayd.Id

/-! The status an RPC handler answers with, and the length checks that turn wire
bytes into ids. -/
namespace Rayd
open Memory

inductive Code where
  | invalidArgument | notFound | alreadyExists | failedPrecondition | outOfRange | unavailable | internal
  deriving DecidableEq, Repr

structure Status where
  code : Code
  message : String
  deriving DecidableEq, Repr

abbrev NodeId := Id 16

def parseId (field : String) (size : Nat) (bytes : Bytes) : Except Status (Id size) :=
  match Id.fromBytes? size bytes with
  | some id => .ok id
  | none => .error ⟨.invalidArgument, field ++ " must be " ++ toString size ++ " bytes, got " ++
      toString bytes.length⟩

def parseObjectId (bytes : Bytes) : Except Status ObjectId := parseId "object_id" 28 bytes

def parseNodeId (bytes : Bytes) : Except Status NodeId := parseId "node_id" 16 bytes

theorem parseId_bytes (field : String) (id : Id size) : parseId field size id.bytes = .ok id := by
  simp only [parseId, Id.fromBytes?_bytes]

theorem parseId_ok {id : Id size} (parsed : parseId field size bytes = .ok id) :
    Id.fromBytes? size bytes = some id := by
  simp only [parseId] at parsed
  split at parsed
  · rename_i found
    cases parsed
    exact found
  · cases parsed

end Rayd
