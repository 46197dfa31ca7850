import Rayd.Id
import Rayd.Lib.FiniteMap
import Rayd.Plasma.Arena

/-! The plasma server's object table and its request handlers. A handler that
takes the table lock twice is given as its two locked parts; the bytes of the
arena are shared memory that clients write directly. Metrics, file descriptors
and the socket framing are left out. -/
namespace Rayd.Plasma
open Memory

inductive ServerErrorKind where
  | notFound | alreadyExists | outOfMemory | notSealed | alreadySealed | internal
  deriving DecidableEq, Repr

structure SlotInfo where
  arenaId : Nat
  arenaCapacity : Nat
  metadataOffset : Nat
  metadataSize : Nat
  dataOffset : Nat
  dataSize : Nat
  isSealed : Bool
  deriving DecidableEq, Repr

inductive Response where
  | ok
  | created (info : SlotInfo)
  | got (info : SlotInfo)
  | contains (present : Bool) (metadata : Option Bytes) (isSealed : Bool)
  | listed (objectIds : List ObjectId)
  | error (kind : ServerErrorKind) (message : String)
  deriving DecidableEq

structure ObjectEntry where
  metadataOffset : Nat
  metadataSize : Nat
  dataOffset : Nat
  dataSize : Nat
  isSealed : Bool
  deriving DecidableEq, Repr

namespace ObjectEntry

def metadata (entry : ObjectEntry) : Region := ⟨entry.metadataOffset, entry.metadataSize⟩
def data (entry : ObjectEntry) : Region := ⟨entry.dataOffset, entry.dataSize⟩

end ObjectEntry

structure Server where
  arena : Arena
  memory : Nat → UInt8
  objects : FiniteMap ObjectId ObjectEntry

namespace Server

def start (capacity : Nat) : Except ArenaError Server := do
  let arena ← Arena.create 0 capacity
  return ⟨arena, fun _ => 0, ∅⟩

def slotInfo (server : Server) (entry : ObjectEntry) : SlotInfo :=
  ⟨server.arena.id, server.arena.capacity, entry.metadataOffset, entry.metadataSize,
    entry.dataOffset, entry.dataSize, entry.isSealed⟩

/-- The first table lock of `handle_create`. -/
def createCheck (server : Server) (id : ObjectId) : Option Response :=
  if (server.objects.lookup id).isSome then
    some (.error .alreadyExists "object already created")
  else none

/-- One `arena.alloc` of `handle_create`; a failure is answered at once, and an
earlier allocation of the same request is not undone. -/
def createAlloc (server : Server) (size : Nat) : Except Response (Nat × Server) :=
  match server.arena.alloc size with
  | .ok (offset, arena) => .ok (offset, { server with arena })
  | .error failure => .error (.error .outOfMemory failure.toString)

/-- The second table lock of `handle_create`: the insert is unconditional. -/
def createInsert (server : Server) (id : ObjectId) (entry : ObjectEntry) : Response × Server :=
  (.created (server.slotInfo entry), { server with objects := server.objects.insert id entry })

/-- The handler with no other request between its parts. -/
def handleCreate (server : Server) (id : ObjectId) (metadataSize dataSize : Nat) :
    Response × Server :=
  match server.createCheck id with
  | some refused => (refused, server)
  | none =>
    match server.createAlloc metadataSize with
    | .error refused => (refused, server)
    | .ok (metadataOffset, server) =>
      match server.createAlloc dataSize with
      | .error refused => (refused, server)
      | .ok (dataOffset, server) =>
        server.createInsert id ⟨metadataOffset, metadataSize, dataOffset, dataSize, false⟩

def handleSeal (server : Server) (id : ObjectId) : Response × Server :=
  match server.objects.lookup id with
  | none => (.error .notFound "object not present", server)
  | some entry =>
    if entry.isSealed then (.error .alreadySealed "object already sealed", server)
    else (.ok, { server with objects := server.objects.insert id { entry with isSealed := true } })

def handleGet (server : Server) (id : ObjectId) : Response :=
  match server.objects.lookup id with
  | none => .error .notFound "not found"
  | some entry =>
    if entry.isSealed then .got (server.slotInfo entry)
    else .error .notSealed "object not yet sealed"

def handleContains (server : Server) (id : ObjectId) : Response :=
  match server.objects.lookup id with
  | none => .contains false none false
  | some entry =>
    .contains true (if entry.isSealed then some (read server.memory entry.metadata) else none)
      entry.isSealed

/-- Both `Release` and `Delete`: the entry goes, whoever asked. -/
def handleDelete (server : Server) (id : ObjectId) : Response × Server :=
  (.ok, { server with objects := server.objects.erase id })

def handleList (server : Server) : Response := .listed server.objects.keys

theorem createAlloc_moves {server after : Server}
    (allocated : server.createAlloc size = .ok (offset, after)) :
    ∃ arena, server.arena.alloc size = .ok (offset, arena) ∧ after = { server with arena } := by
  simp only [createAlloc] at allocated
  split at allocated
  · rename_i start arena found
    cases allocated
    exact ⟨arena, found, rfl⟩
  · cases allocated

theorem createAlloc_ok {server after : Server}
    (allocated : server.createAlloc size = .ok (offset, after)) :
    server.arena.bump ≤ offset ∧ after.arena.bump = offset + size ∧
      after.memory = server.memory ∧ after.objects = server.objects := by
  obtain ⟨arena, found, rfl⟩ := createAlloc_moves allocated
  obtain ⟨_, above, moved, _⟩ := Arena.alloc_ok found
  exact ⟨above, moved, rfl, rfl⟩

theorem createAlloc_arena {server after : Server}
    (allocated : server.createAlloc size = .ok (offset, after)) :
    objectAlign ∣ offset ∧ after.arena.id = server.arena.id ∧
      after.arena.capacity = server.arena.capacity := by
  obtain ⟨arena, found, rfl⟩ := createAlloc_moves allocated
  obtain ⟨rfl, _, _, sameId, sameCapacity⟩ := Arena.alloc_ok found
  exact ⟨Arena.aligned_dvd _, sameId, sameCapacity⟩

theorem handleSeal_frame {server after : Server}
    (answered : server.handleSeal object = (reply, after)) :
    after.arena = server.arena ∧ after.memory = server.memory := by
  simp only [handleSeal] at answered
  split at answered
  · cases answered; exact ⟨rfl, rfl⟩
  · split at answered <;> cases answered <;> exact ⟨rfl, rfl⟩

theorem handleGet_got {server : Server} (answered : server.handleGet object = .got info) :
    ∃ entry, server.objects.lookup object = some entry ∧ entry.isSealed = true ∧
      info = server.slotInfo entry := by
  simp only [handleGet] at answered
  split at answered
  · cases answered
  · rename_i entry present
    split at answered
    · rename_i isSealed
      cases answered
      exact ⟨entry, present, isSealed, rfl⟩
    · cases answered

end Server
end Rayd.Plasma
