import Rayd.Plasma.Connections

/-! What a refused `Create` leaves behind. The handler allocates twice from a bump
pointer that is never moved back, so a request whose metadata fit and whose data do
not has spent the space for the metadata. -/
namespace Rayd.Plasma

namespace Arena

theorem alloc_fits {arena : Arena} (fits : aligned arena.bump + size ≤ arena.capacity) :
    arena.alloc size = .ok (aligned arena.bump,
      { arena with bump := aligned arena.bump + size, bump_le := fits }) := by
  have small := arena.capacity_lt
  have word : aligned arena.bump + size < 2 ^ 64 := by omega
  simp only [alloc, if_pos word, dif_pos fits]

theorem alloc_ok_fits {arena after : Arena} (allocated : arena.alloc size = .ok (start, after)) :
    aligned arena.bump + size ≤ arena.capacity := by
  obtain ⟨rfl, _, moved, _, capacity⟩ := alloc_ok allocated
  rw [← moved, ← capacity]
  exact after.bump_le

theorem alloc_empty {arena after : Arena} (whole : aligned arena.bump = arena.bump)
    (allocated : arena.alloc 0 = .ok (start, after)) : after = arena := by
  obtain ⟨rfl, _, moved, sameId, sameCapacity⟩ := alloc_ok allocated
  rw [whole, Nat.add_zero] at moved
  cases arena
  cases after
  cases moved
  cases sameId
  cases sameCapacity
  rfl

end Arena

namespace Server

/-- One turn of `handle_connection`, with no other connection in between. -/
def handleRequest (server : Server) : Request → Option Response × Server
  | .create request =>
    let (response, server) :=
      server.handleCreate request.objectId request.metadataSize.toNat request.dataSize.toNat
    (some response, server)
  | .sealObject id =>
    let (response, server) := server.handleSeal id
    (some response, server)
  | .get id => (some (server.handleGet id), server)
  | .contains id => (some (server.handleContains id), server)
  | .release id | .delete id =>
    let (response, server) := server.handleDelete id
    (some response, server)
  | .list => (some server.handleList, server)
  | .disconnect => (none, server)

/-- The answers to requests that come one after the other. -/
def answers (server : Server) : List Request → List (Option Response)
  | [] => []
  | request :: rest =>
    let (response, server) := server.handleRequest request
    response :: server.answers rest

def Fits (server : Server) (metadataSize : Nat) : Prop :=
  Arena.aligned server.arena.bump + metadataSize ≤ server.arena.capacity

def DataFits (server : Server) (metadataSize dataSize : Nat) : Prop :=
  Arena.aligned (Arena.aligned server.arena.bump + metadataSize) + dataSize ≤ server.arena.capacity

theorem createAlloc_fits {server after : Server} (allocated : server.createAlloc size = .ok (offset, after)) :
    server.Fits size ∧ after.arena.bump = Arena.aligned server.arena.bump + size ∧
      after.arena.capacity = server.arena.capacity := by
  obtain ⟨arena, found, rfl⟩ := createAlloc_moves allocated
  obtain ⟨rfl, _, moved, _, capacity⟩ := Arena.alloc_ok found
  exact ⟨Arena.alloc_ok_fits found, moved, capacity⟩

theorem createAlloc_of_fits {server : Server} (fits : server.Fits size) :
    ∃ after, server.createAlloc size = .ok (Arena.aligned server.arena.bump, after) := by
  simp only [createAlloc, Arena.alloc_fits fits]
  exact ⟨_, rfl⟩

theorem createAlloc_error {server : Server} (refused : server.createAlloc size = .error response) :
    ∃ message, response = .error .outOfMemory message := by
  simp only [createAlloc] at refused
  split at refused
  · cases refused
  · cases refused
    exact ⟨_, rfl⟩

/-- A create of an absent id with room for both parts is answered `Created`. -/
theorem handleCreate_created {server : Server} {id : ObjectId} (absent : server.objects.lookup id = none)
    (metadata : server.Fits metadataSize) (data : server.DataFits metadataSize dataSize) :
    ∃ info after, server.handleCreate id metadataSize dataSize = (.created info, after) := by
  obtain ⟨first, allocated⟩ := createAlloc_of_fits metadata
  obtain ⟨_, moved, capacity⟩ := createAlloc_fits allocated
  have room : first.Fits dataSize := by
    rw [Fits, moved, capacity]
    exact data
  obtain ⟨second, completed⟩ := createAlloc_of_fits room
  simp only [handleCreate, createCheck, absent, Option.isSome_none, Bool.false_eq_true, if_false, allocated,
    completed]
  exact ⟨_, _, rfl⟩

/-- The id is there already, or both parts fit, or already the metadata do not, or
the metadata take nothing. -/
def AllOrNothing (server : Server) (request : CreateRequest) : Prop :=
  server.objects.lookup request.objectId = none → server.Fits request.metadataSize.toNat →
    server.DataFits request.metadataSize.toNat request.dataSize.toNat ∨
      request.metadataSize = 0 ∧ Arena.aligned server.arena.bump = server.arena.bump

theorem createAlloc_empty {server after : Server}
    (whole : Arena.aligned server.arena.bump = server.arena.bump)
    (allocated : server.createAlloc 0 = .ok (offset, after)) : after = server := by
  simp only [createAlloc] at allocated
  split at allocated
  · rename_i start arena found
    cases allocated
    rw [Arena.alloc_empty whole found]
  · cases allocated

theorem handleCreate_refused {server after : Server} {request : CreateRequest}
    (whole : server.AllOrNothing request)
    (refused : server.handleCreate request.objectId request.metadataSize.toNat request.dataSize.toNat =
      (.error kind message, after)) : after = server := by
  simp only [handleCreate] at refused
  split at refused
  · cases refused
    rfl
  · rename_i unchecked
    have absent : server.objects.lookup request.objectId = none := by
      simpa [createCheck] using unchecked
    split at refused
    · cases refused
      rfl
    · rename_i offset first allocated
      obtain ⟨fits, moved, capacity⟩ := createAlloc_fits allocated
      split at refused
      · -- the metadata have been allocated: the data fit, or there was nothing to allocate
        rename_i response failed
        obtain ⟨-, rfl⟩ := Prod.mk.inj refused
        rcases whole absent fits with data | ⟨empty, pointer⟩
        · have room : first.Fits request.dataSize.toNat := by
            rw [Fits, moved, capacity]
            exact data
          obtain ⟨second, completed⟩ := createAlloc_of_fits room
          rw [completed] at failed
          cases failed
        · rw [empty] at allocated
          exact createAlloc_empty pointer allocated
      · cases refused

/-- A refused create leaves the table and the used byte count as they were, and every
later request is answered as if it had not come. -/
def RefusedFree (server : Server) (request : CreateRequest) : Prop :=
  ∀ kind message after, server.handleRequest (.create request) = (some (.error kind message), after) →
    after.objects = server.objects ∧ after.arena.used = server.arena.used ∧
      ∀ later, after.answers later = server.answers later

/-- The metadata fit and the data do not: what the metadata took is gone. -/
theorem handleCreate_halfway {server : Server} {id : ObjectId} (absent : server.objects.lookup id = none)
    (metadata : server.Fits metadataSize) (data : ¬ server.DataFits metadataSize dataSize) :
    ∃ message after, server.handleCreate id metadataSize dataSize = (.error .outOfMemory message, after) ∧
      after.arena.used = Arena.aligned server.arena.bump + metadataSize := by
  obtain ⟨first, allocated⟩ := createAlloc_of_fits metadata
  obtain ⟨_, moved, capacity⟩ := createAlloc_fits allocated
  cases completed : first.createAlloc dataSize with
  | ok second =>
    have room := (createAlloc_fits completed).1
    rw [Fits, moved, capacity] at room
    exact absurd room data
  | error response =>
    obtain ⟨message, rfl⟩ := createAlloc_error completed
    refine ⟨message, first, ?_, moved⟩
    simp only [handleCreate, createCheck, absent, Option.isSome_none, Bool.false_eq_true, if_false,
      allocated, completed]

/-- A refused create costs nothing exactly when the request cannot fail halfway. -/
theorem refused_create_free_iff (server : Server) (request : CreateRequest) :
    server.RefusedFree request ↔ server.AllOrNothing request := by
  constructor
  · intro free absent metadata
    by_cases data : server.DataFits request.metadataSize.toNat request.dataSize.toNat
    · exact .inl data
    · right
      obtain ⟨message, after, refused, used⟩ := handleCreate_halfway absent metadata data
      have same := (free .outOfMemory message after (by simp only [handleRequest, refused])).2.1
      have above := server.arena.bump_le_aligned
      have pointer : server.arena.used = server.arena.bump := rfl
      refine ⟨UInt64.toNat_inj.mp ?_, ?_⟩
      · rw [show (0 : UInt64).toNat = 0 from rfl]
        omega
      · omega
  · intro whole kind message after refused
    simp only [handleRequest, Prod.mk.injEq, Option.some.injEq] at refused
    obtain ⟨answer, rfl⟩ := refused
    have same := handleCreate_refused whole (Prod.ext answer rfl)
    exact ⟨congrArg objects same, congrArg (·.arena.used) same,
      fun later => congrArg (·.answers later) same⟩

section Samples

def page : Server := ⟨.onePage, fun _ => 0, ∅⟩

/-- The metadata fit, the data do not: the metadata's bytes are gone, and with
them the room for an object of a whole page. -/
theorem refused_create_spends_metadata :
    ∃ message after info refusal,
      page.handleRequest (.create ⟨.nil 28, 100, 5000, .nil⟩) =
        (some (.error .outOfMemory message), after) ∧
      page.arena.used = 0 ∧ after.arena.used = 100 ∧
      page.answers [.create ⟨.nil 28, 0, 4096, .nil⟩] = [some (.created info)] ∧
      after.answers [.create ⟨.nil 28, 0, 4096, .nil⟩] = [some (.error .outOfMemory refusal)] :=
  ⟨_, _, _, _, rfl, rfl, rfl, rfl, rfl⟩

end Samples
end Server
end Rayd.Plasma
