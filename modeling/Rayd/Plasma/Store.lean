import Rayd.Lib.Serving
import Rayd.Plasma.Client

/-! The object store as its users see it: an id is absent, created, or sealed
with its bytes, and space only runs out. A client call that meets no other
request on its way is one operation here; `Server.abstract` is the connection.
The layers above the plasma server are stated over this store. -/
namespace Rayd.Plasma
open Memory

structure Object where
  metadata : Bytes
  data : Bytes
  isSealed : Bool
  deriving DecidableEq, Repr

structure Store where
  arena : Arena
  objects : FiniteMap ObjectId Object

namespace Store

/-- Space for one object: both parts are allocated, metadata first. -/
def reserve (arena : Arena) (call : Call) : Except ArenaError Arena × Arena :=
  match arena.alloc call.metadata.length with
  | .error failure => (.error failure, arena)
  | .ok (_, arena) =>
    match arena.alloc call.data.length with
    | .error failure => (.error failure, arena)
    | .ok (_, arena) => (.ok arena, arena)

def createAndSeal (store : Store) (call : Call) : Except PlasmaError Unit × Store :=
  if (store.objects.lookup call.id).isSome then
    (.error (.server .alreadyExists "object already created"), store)
  else
    match reserve store.arena call with
    | (.error failure, arena) =>
      (.error (.server .outOfMemory failure.toString), { store with arena })
    | (.ok _, arena) =>
      (.ok (), ⟨arena, store.objects.insert call.id ⟨call.metadata, call.data, true⟩⟩)

def get (store : Store) (id : ObjectId) : Except PlasmaError (Bytes × Bytes) :=
  match store.objects.lookup id with
  | none => .error (.server .notFound "not found")
  | some object =>
    if object.isSealed then .ok (object.metadata, object.data)
    else .error (.server .notSealed "object not yet sealed")

def delete (store : Store) (id : ObjectId) : Store :=
  { store with objects := store.objects.erase id }

/-- The arena still has room for the object. -/
def Room (store : Store) (call : Call) : Prop :=
  (reserve store.arena call).1.isOk = true

instance (store : Store) (call : Call) : Decidable (store.Room call) :=
  inferInstanceAs (Decidable (_ = true))

/-- A `create_and_seal` succeeds on an absent id with room for it, and a failure
leaves the objects alone. -/
theorem createAndSeal_spec (store : Store) (call : Call) :
    (store.createAndSeal call).1 = .ok () ∧ store.objects.lookup call.id = none ∧ store.Room call ∧
        (store.createAndSeal call).2.objects =
          store.objects.insert call.id ⟨call.metadata, call.data, true⟩ ∨
      (∃ failure, (store.createAndSeal call).1 = .error failure) ∧
        ¬ (store.objects.lookup call.id = none ∧ store.Room call) ∧
        (store.createAndSeal call).2.objects = store.objects := by
  cases known : store.objects.lookup call.id with
  | some object => simp [createAndSeal, known]
  | none =>
    simp only [createAndSeal, known, Option.isSome_none, Bool.false_eq_true, if_false, Room]
    rcases reserve store.arena call with ⟨reply, arena⟩
    cases reply with
    | ok _ => exact .inl ⟨rfl, trivial, rfl, rfl⟩
    | error failure => exact .inr ⟨⟨_, rfl⟩, by simp [Except.isOk, Except.toBool], rfl⟩

theorem createAndSeal_ok_iff (store : Store) (call : Call) :
    (store.createAndSeal call).1 = .ok () ↔ store.objects.lookup call.id = none ∧ store.Room call := by
  rcases store.createAndSeal_spec call with ⟨done, absent, room, _⟩ | ⟨⟨failure, failed⟩, missing, _⟩
  · simp [done, absent, room]
  · simp only [failed, reduceCtorEq, false_iff]
    exact missing

theorem createAndSeal_cases (store : Store) (call : Call) :
    ((∃ object, store.objects.lookup call.id = some object) ∧
        store.createAndSeal call = (.error (.server .alreadyExists "object already created"), store)) ∨
      store.objects.lookup call.id = none ∧
        ((∃ message arena, store.createAndSeal call =
            (.error (.server .outOfMemory message), { store with arena })) ∨
          store.Room call ∧ ∃ arena, store.createAndSeal call =
            (.ok (), ⟨arena, store.objects.insert call.id ⟨call.metadata, call.data, true⟩⟩)) := by
  cases known : store.objects.lookup call.id with
  | some object =>
    refine .inl ⟨⟨object, rfl⟩, ?_⟩
    simp only [createAndSeal, known, Option.isSome_some, if_true]
  | none =>
    refine .inr ⟨rfl, ?_⟩
    simp only [createAndSeal, known, Option.isSome_none, Bool.false_eq_true, if_false, Room]
    rcases reserve store.arena call with ⟨reply, arena⟩
    cases reply with
    | error failure => exact .inl ⟨_, arena, rfl⟩
    | ok _ => exact .inr ⟨rfl, arena, rfl⟩

theorem not_room_of_refused {store after : Store} (absent : store.objects.lookup call.id = none)
    (refused : store.createAndSeal call = (.error reason, after)) : ¬ store.Room call := by
  intro room
  have done := (store.createAndSeal_ok_iff call).mpr ⟨absent, room⟩
  rw [refused] at done
  cases done

theorem get_cases (store : Store) (id : ObjectId) :
    (store.objects.lookup id = none ∧ store.get id = .error (.server .notFound "not found")) ∨
      (∃ object, store.objects.lookup id = some object ∧ object.isSealed = false ∧
        store.get id = .error (.server .notSealed "object not yet sealed")) ∨
      ∃ object, store.objects.lookup id = some object ∧ object.isSealed = true ∧
        store.get id = .ok (object.metadata, object.data) := by
  simp only [get]
  cases store.objects.lookup id with
  | none => exact .inl ⟨rfl, rfl⟩
  | some object =>
    cases final : object.isSealed with
    | false => exact .inr (.inl ⟨object, rfl, final, by simp [final]⟩)
    | true => exact .inr (.inr ⟨object, rfl, final, by simp [final]⟩)

/-- Room for several objects, one after the other. -/
def RoomAll (arena : Arena) : List Call → Prop
  | [] => True
  | call :: rest => (reserve arena call).1.isOk = true ∧ RoomAll (reserve arena call).2 rest

instance decidableRoomAll : (arena : Arena) → (calls : List Call) → Decidable (RoomAll arena calls)
  | _, [] => .isTrue trivial
  | arena, call :: rest =>
    have := decidableRoomAll (reserve arena call).2 rest
    inferInstanceAs (Decidable (_ ∧ _))

theorem createAndSeal_arena {store : Store} (done : (store.createAndSeal call).1 = .ok ()) :
    (store.createAndSeal call).2.arena = (reserve store.arena call).2 := by
  simp only [createAndSeal] at done ⊢
  split at done
  · cases done
  · rename_i absent
    rw [if_neg absent]
    split <;> rename_i reserved <;> rw [reserved]

theorem room_data_lt {store : Store} (room : store.Room call) : call.data.length < 2 ^ 64 := by
  simp only [Room, reserve] at room
  split at room
  · cases room
  · rename_i start arena _
    split at room
    · cases room
    · rename_i begin after allocated
      obtain ⟨_, _, moved, _, capacity⟩ := Arena.alloc_ok allocated
      have := after.bump_le
      have := after.capacity_lt
      omega

theorem roomAll_data_lt {calls : List Call} {space : Arena} (room : RoomAll space calls) :
    ∀ call ∈ calls, call.data.length < 2 ^ 64 := by
  induction calls generalizing space with
  | nil => exact nofun
  | cons call rest ih =>
    have head : Room ⟨space, ∅⟩ call := room.1
    exact List.forall_mem_cons.mpr ⟨room_data_lt head, ih room.2⟩

@[simp] theorem lookup_delete (store : Store) (id other : ObjectId) :
    (store.delete id).objects.lookup other = if other = id then none else store.objects.lookup other :=
  FiniteMap.lookup_erase _ _ _

end Store

namespace Server

def object (server : Server) (entry : ObjectEntry) : Object :=
  ⟨read server.memory entry.metadata, read server.memory entry.data, entry.isSealed⟩

/-- The abstract store agrees with the table and the bytes under it, and every
entry lies in space already handed out. -/
structure Represents (server : Server) (store : Store) : Prop where
  arena : store.arena = server.arena
  objects : ∀ id, store.objects.lookup id = (server.objects.lookup id).map server.object
  inside : ∀ id entry, server.objects.lookup id = some entry →
    entry.metadata.stop ≤ server.arena.bump ∧ entry.data.stop ≤ server.arena.bump

theorem start_represents (started : Server.start capacity = .ok server) :
    server.Represents ⟨server.arena, ∅⟩ := by
  simp only [Server.start, Arena.create] at started
  split at started
  · cases started
    refine ⟨rfl, fun _ => rfl, fun id entry found => ?_⟩
    cases found
  · cases started

theorem get_refines (represents : Represents server store) (id : ObjectId) :
    store.get id = server.get id := by
  simp only [Store.get, Server.get, handleGet, represents.objects]
  cases server.objects.lookup id with
  | none => rfl
  | some entry =>
    simp only [Option.map_some, Server.object]
    split <;> rfl

theorem delete_refines (represents : Represents server store) (id : ObjectId) :
    (server.delete id).Represents (store.delete id) := by
  refine ⟨represents.arena, fun other => ?_, fun other entry found => ?_⟩
  · simp only [Store.delete, delete, handleDelete, FiniteMap.lookup_erase, represents.objects]
    split <;> rfl
  · simp only [delete, handleDelete, FiniteMap.lookup_erase] at found
    split at found
    · cases found
    · exact represents.inside other entry found

section Stored
variable {server : Server} {store : Store} {call : Call} {middle last : Arena}
  {metadataOffset dataOffset : Nat}

theorem sealObject_unsealed {id : ObjectId} {entry : ObjectEntry}
    (present : server.objects.lookup id = some entry) (unsealed : entry.isSealed = false) :
    server.sealObject id =
      (.ok (), { server with objects := server.objects.insert id { entry with isSealed := true } }) := by
  simp only [sealObject, handleSeal, present, unsealed, Bool.false_eq_true, if_false]

/-- The server after both allocations, the insert, the writes and the seal. -/
def stored (server : Server) (arena : Arena) (call : Call) (metadataOffset dataOffset : Nat) : Server where
  arena := arena
  memory := write (write server.memory metadataOffset call.metadata) dataOffset call.data
  objects := (server.objects.insert call.id
    ⟨metadataOffset, call.metadata.length, dataOffset, call.data.length, false⟩).insert call.id
    ⟨metadataOffset, call.metadata.length, dataOffset, call.data.length, true⟩

theorem createAndSeal_stored (absent : server.objects.lookup call.id = none)
    (first : server.arena.alloc call.metadata.length = .ok (metadataOffset, middle))
    (second : middle.alloc call.data.length = .ok (dataOffset, last)) :
    server.createAndSeal call = (.ok (), server.stored last call metadataOffset dataOffset) := by
  simp only [createAndSeal, handleCreate, createCheck, absent, Option.isSome_none,
    Bool.false_eq_true, if_false, createAlloc, first, second, createInsert]
  rw [sealObject_unsealed (FiniteMap.lookup_insert_self _ _ _) rfl]
  simp only [stored, writeMetadata, writeData, slotInfo, List.take_length]

theorem stored_kept {region : Region}
    (first : server.arena.alloc call.metadata.length = .ok (metadataOffset, middle))
    (second : middle.alloc call.data.length = .ok (dataOffset, last))
    (below : region.stop ≤ server.arena.bump) :
    read (server.stored last call metadataOffset dataOffset).memory region =
      read server.memory region := by
  obtain ⟨_, above, moved, _⟩ := Arena.alloc_ok first
  obtain ⟨_, above', _⟩ := Arena.alloc_ok second
  simp only [stored]
  rw [read_write_apart _ _ _ _ (.inl (by dsimp only; omega)),
    read_write_apart _ _ _ _ (.inl (by dsimp only; omega))]

theorem stored_represents (represents : Represents server store)
    (first : server.arena.alloc call.metadata.length = .ok (metadataOffset, middle))
    (second : middle.alloc call.data.length = .ok (dataOffset, last)) :
    (server.stored last call metadataOffset dataOffset).Represents
      ⟨last, store.objects.insert call.id ⟨call.metadata, call.data, true⟩⟩ := by
  obtain ⟨_, above, moved, _⟩ := Arena.alloc_ok first
  obtain ⟨_, above', moved', _⟩ := Arena.alloc_ok second
  refine ⟨rfl, fun other => ?_, fun other entry found => ?_⟩
  · rw [FiniteMap.lookup_insert, stored, FiniteMap.lookup_insert, FiniteMap.lookup_insert]
    by_cases same : other = call.id
    · simp only [if_pos same, Option.map_some, object, ObjectEntry.metadata, ObjectEntry.data,
        Option.some.injEq, Object.mk.injEq, and_true]
      constructor
      · rw [read_write_apart _ _ _ _ (.inl (by simp only [Region.stop]; omega)), read_write_same]
      · exact (read_write_same _ _ _).symm
    · simp only [if_neg same, represents.objects]
      cases found : server.objects.lookup other with
      | none => rfl
      | some entry =>
        obtain ⟨metadata, data⟩ := represents.inside other entry found
        have keptMetadata := stored_kept first second metadata
        have keptData := stored_kept first second data
        simp only [stored] at keptMetadata keptData
        simp only [Option.map_some, object, keptMetadata, keptData]
  · simp only [stored, FiniteMap.lookup_insert] at found
    by_cases same : other = call.id
    · rw [if_pos same] at found
      cases found
      simp only [ObjectEntry.metadata, ObjectEntry.data, Region.stop, stored]
      omega
    · rw [if_neg same, if_neg same] at found
      have old := represents.inside other entry found
      simp only [stored]
      omega

end Stored

/-- A `create_and_seal` that meets no other request is one operation of the
abstract store, with the same answer, also where it fails. -/
theorem createAndSeal_refines (represents : Represents server store) (call : Call) :
    (store.createAndSeal call).1 = (server.createAndSeal call).1 ∧
      (server.createAndSeal call).2.Represents (store.createAndSeal call).2 := by
  cases known : server.objects.lookup call.id with
  | some entry =>
    simp only [createAndSeal, handleCreate, createCheck, known, Option.isSome_some, if_true,
      Store.createAndSeal, represents.objects, Option.map_some, true_and]
    exact represents
  | none =>
    have absent : (store.objects.lookup call.id).isSome = false := by
      simp only [represents.objects, known, Option.map_none, Option.isSome_none]
    cases first : server.arena.alloc call.metadata.length with
    | error failure =>
      simp only [createAndSeal, handleCreate, createCheck, known, Option.isSome_none,
        Bool.false_eq_true, if_false, createAlloc, first, Store.createAndSeal, absent,
        Store.reserve, represents.arena, true_and]
      exact ⟨rfl, represents.objects, represents.inside⟩
    | ok allocated =>
      obtain ⟨metadataOffset, middle⟩ := allocated
      have grown := Arena.alloc_bump_le first
      cases second : middle.alloc call.data.length with
      | error failure =>
        simp only [createAndSeal, handleCreate, createCheck, known, Option.isSome_none,
          Bool.false_eq_true, if_false, createAlloc, first, second, Store.createAndSeal, absent,
          Store.reserve, represents.arena, true_and]
        refine ⟨rfl, represents.objects, fun other entry found => ?_⟩
        have old := represents.inside other entry found
        exact ⟨old.1.trans grown, old.2.trans grown⟩
      | ok allocated =>
        obtain ⟨dataOffset, last⟩ := allocated
        rw [createAndSeal_stored known first second]
        simp only [Store.createAndSeal, absent, Bool.false_eq_true, if_false, Store.reserve,
          represents.arena, first, second, true_and]
        exact stored_represents represents first second

end Server

inductive ClientCall where
  | createAndSeal (call : Call)
  | get (id : ObjectId)
  | delete (id : ObjectId)

inductive ClientReply where
  | created (result : Except PlasmaError Unit)
  | got (result : Except PlasmaError (Bytes × Bytes))
  | deleted

def Server.answerCall (server : Server) : ClientCall → ClientReply × Server
  | .createAndSeal call => (.created (server.createAndSeal call).1, (server.createAndSeal call).2)
  | .get id => (.got (server.get id), server)
  | .delete id => (.deleted, server.delete id)

def Store.answerCall (store : Store) : ClientCall → ClientReply × Store
  | .createAndSeal call => (.created (store.createAndSeal call).1, (store.createAndSeal call).2)
  | .get id => (.got (store.get id), store)
  | .delete id => (.deleted, store.delete id)

theorem Server.answerCall_refines (represents : Represents server store) (call : ClientCall) :
    (server.answerCall call).1 = (store.answerCall call).1 ∧
      (server.answerCall call).2.Represents (store.answerCall call).2 := by
  cases call with
  | createAndSeal call =>
    obtain ⟨same, after⟩ := createAndSeal_refines represents call
    exact ⟨congrArg ClientReply.created same.symm, after⟩
  | get id => exact ⟨congrArg ClientReply.got (get_refines represents id).symm, represents⟩
  | delete id => exact ⟨rfl, delete_refines represents id⟩

/-- A server's whole history is that of the store: calls that come one after the other read
what was sealed under the id, whatever was written, read or deleted in the arena since, and
are refused for the same reasons. -/
theorem server_as_store (started : Server.start capacity = .ok server) (calls : List ClientCall) :
    Serving.replies Server.answerCall server calls =
      Serving.replies Store.answerCall ⟨server.arena, ∅⟩ calls := by
  refine Serving.replies_eq Server.Represents (fun _ => True) ?_ (Server.start_represents started) calls
    fun _ _ => trivial
  exact fun represents _ => Server.answerCall_refines represents _

theorem deleted_object_replaced : ∃ server, Server.start 4096 = .ok server ∧
    Serving.replies Server.answerCall server [.createAndSeal ⟨.nil 28, [1], [2]⟩,
        .createAndSeal ⟨.nil 28, [1], [3]⟩, .delete (.nil 28), .createAndSeal ⟨.nil 28, [], [3]⟩,
        .get (.nil 28)] =
      [.created (.ok ()), .created (.error (.server .alreadyExists "object already created")), .deleted,
        .created (.ok ()), .got (.ok ([], [3]))] :=
  ⟨_, rfl, (server_as_store (show Server.start 4096 = .ok _ from rfl) _).trans rfl⟩

end Rayd.Plasma
