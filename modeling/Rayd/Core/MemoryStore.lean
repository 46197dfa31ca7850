import Rayd.Id
import Rayd.Lib.FiniteMap
import Rayd.Core.Metadata
import Mathlib.Algebra.BigOperators.Group.List.Basic
import Mathlib.Algebra.GroupWithZero.Nat

/-! The per-process index of objects. An inline entry holds the value; a plasma
entry holds only the header and the size, and says nothing about whether the
bytes are still in plasma. Waiting for entries has a module of its own. -/
namespace Rayd.Core
open Memory

structure RayObject where
  metadata : Metadata
  data : Bytes
  deriving DecidableEq, Repr

structure PlasmaIndex where
  metadata : Metadata
  dataSize : Nat
  deriving DecidableEq, Repr

inductive StoredEntry where
  | inline (object : RayObject)
  | plasma (index : PlasmaIndex)
  deriving DecidableEq, Repr

namespace RayObject

def sizeBytes (object : RayObject) : Nat :=
  (match object.metadata with
    | .pickle5 _ => 2
    | .raw | .actorHandle => 1
    | .error .. => 4) + object.data.length

end RayObject

/-- `size_of::<PlasmaIndex>()`: a four-byte header padded before the u64 size. -/
def plasmaIndexSize : Nat := 16

namespace StoredEntry

def metadata : StoredEntry → Metadata
  | .inline object => object.metadata
  | .plasma index => index.metadata

def isError (entry : StoredEntry) : Bool := entry.metadata.isError

def refState (entry : StoredEntry) : RefState :=
  if entry.isError then .failed else .readyLocal

def localBytes : StoredEntry → Nat
  | .inline object => object.sizeBytes
  | .plasma _ => plasmaIndexSize

end StoredEntry

structure MemoryStore where
  entries : FiniteMap ObjectId StoredEntry
  bytes : Nat

namespace MemoryStore

def empty : MemoryStore := ⟨∅, 0⟩

/-- The u64 byte counter saturates at both ends. -/
def insert (store : MemoryStore) (id : ObjectId) (entry : StoredEntry) : MemoryStore :=
  let kept := match store.entries.lookup id with
    | some previous => store.bytes - previous.localBytes
    | none => store.bytes
  ⟨store.entries.insert id entry, min (kept + entry.localBytes) (2 ^ 64 - 1)⟩

def putInline (store : MemoryStore) (id : ObjectId) (object : RayObject) : MemoryStore :=
  store.insert id (.inline object)

def putPlasma (store : MemoryStore) (id : ObjectId) (index : PlasmaIndex) : MemoryStore :=
  store.insert id (.plasma index)

def getEntry (store : MemoryStore) (id : ObjectId) : Option StoredEntry := store.entries.lookup id

def contains (store : MemoryStore) (id : ObjectId) : Bool := (store.entries.lookup id).isSome

def stateOf (store : MemoryStore) (id : ObjectId) : RefState :=
  (store.entries.lookup id).elim .pending StoredEntry.refState

/-- Collected into a map, so an id is in it once. -/
def stateSnapshot (store : MemoryStore) (ids : List ObjectId) : FiniteMap ObjectId RefState :=
  ids.foldl (fun states id => states.insert id (store.stateOf id)) ∅

def deleteOne (store : MemoryStore) (id : ObjectId) : MemoryStore :=
  match store.entries.lookup id with
  | some previous => ⟨store.entries.erase id, store.bytes - previous.localBytes⟩
  | none => store

def delete (store : MemoryStore) (ids : List ObjectId) : MemoryStore := ids.foldl deleteOne store

def plasmaEntries (store : MemoryStore) : List (ObjectId × PlasmaIndex) :=
  store.entries.entries.filterMap fun entry =>
    match entry.2 with
    | .plasma index => some (entry.1, index)
    | .inline _ => none

theorem plasmaEntries_distinct (store : MemoryStore) : (store.plasmaEntries.map Prod.fst).Nodup := by
  rw [List.Nodup, List.pairwise_map, plasmaEntries, List.pairwise_filterMap]
  refine (List.nodupKeys_iff_pairwise.mp store.entries.nodupKeys).imp ?_
  rintro ⟨key, entry⟩ ⟨other, found⟩ different listed same again both
  cases entry <;> cases same
  cases found <;> cases both
  exact different

@[simp] theorem getEntry_insert (store : MemoryStore) (id other : ObjectId) (entry : StoredEntry) :
    (store.insert id entry).getEntry other = if other = id then some entry else store.getEntry other :=
  FiniteMap.lookup_insert _ _ _ _

@[simp] theorem getEntry_putPlasma (store : MemoryStore) (id other : ObjectId) (index : PlasmaIndex) :
    (store.putPlasma id index).getEntry other =
      if other = id then some (.plasma index) else store.getEntry other :=
  getEntry_insert _ _ _ _

@[simp] theorem getEntry_putInline (store : MemoryStore) (id other : ObjectId) (object : RayObject) :
    (store.putInline id object).getEntry other =
      if other = id then some (.inline object) else store.getEntry other :=
  getEntry_insert _ _ _ _

theorem getEntry_deleteOne (store : MemoryStore) (id other : ObjectId) :
    (store.deleteOne id).getEntry other = if other = id then none else store.getEntry other := by
  simp only [deleteOne]
  split
  · exact FiniteMap.lookup_erase _ _ _
  · rename_i absent
    split
    · rename_i same
      exact same ▸ absent
    · rfl

@[simp] theorem getEntry_delete (store : MemoryStore) (ids : List ObjectId) (other : ObjectId) :
    (store.delete ids).getEntry other = if other ∈ ids then none else store.getEntry other := by
  induction ids generalizing store with
  | nil => simp [delete]
  | cons id ids ih =>
    have first := ih (store.deleteOne id)
    simp only [delete, List.foldl_cons] at first ⊢
    rw [first, getEntry_deleteOne]
    by_cases same : other = id <;> simp [same]

@[simp] theorem getEntry_empty (id : ObjectId) : empty.getEntry id = none := rfl

theorem lookup_stateSnapshot (store : MemoryStore) (ids : List ObjectId) (id : ObjectId) :
    (store.stateSnapshot ids).lookup id = if id ∈ ids then some (store.stateOf id) else none :=
  FiniteMap.lookup_foldl_insert store.stateOf ids ∅ id

theorem stateOf_pending_iff (store : MemoryStore) (id : ObjectId) :
    store.stateOf id = .pending ↔ store.getEntry id = none := by
  simp only [stateOf, getEntry]
  cases store.entries.lookup id with
  | none => simp
  | some entry =>
    simp only [Option.elim_some, StoredEntry.refState, reduceCtorEq, iff_false]
    split <;> simp

section Accounting

/-- What the entries take together. -/
def totalBytes (entries : FiniteMap ObjectId StoredEntry) : Nat :=
  ((FiniteMap.values entries).map StoredEntry.localBytes).sum

def usedMemory (store : MemoryStore) : Nat := store.bytes

inductive Operation where
  | putInline (id : ObjectId) (object : RayObject)
  | putPlasma (id : ObjectId) (index : PlasmaIndex)
  | delete (ids : List ObjectId)

/-- The ids an operation is about. -/
def Operation.ids : Operation → List ObjectId
  | .putInline id _ | .putPlasma id _ => [id]
  | .delete ids => ids

def apply (store : MemoryStore) : Operation → MemoryStore
  | .putInline id object => store.putInline id object
  | .putPlasma id index => store.putPlasma id index
  | .delete ids => store.delete ids

def run (store : MemoryStore) (operations : List Operation) : MemoryStore := operations.foldl apply store

def Exact (store : MemoryStore) : Prop := store.usedMemory = totalBytes store.entries

section Entries
variable {entries : FiniteMap ObjectId StoredEntry} {id : ObjectId}

theorem totalBytes_insert (entries : FiniteMap ObjectId StoredEntry) (id : ObjectId) (entry : StoredEntry) :
    totalBytes (entries.insert id entry) = entry.localBytes + totalBytes (entries.erase id) := by
  rw [totalBytes, FiniteMap.values_insert, List.map_cons, List.sum_cons, totalBytes]

theorem totalBytes_erase_absent (absent : entries.lookup id = none) :
    totalBytes (entries.erase id) = totalBytes entries := by
  rw [totalBytes, FiniteMap.values_erase_absent absent, totalBytes]

theorem totalBytes_erase (found : entries.lookup id = some previous) :
    previous.localBytes + totalBytes (entries.erase id) = totalBytes entries := by
  have same := ((FiniteMap.values_erase_perm found).map StoredEntry.localBytes).sum_eq
  rwa [List.map_cons, List.sum_cons] at same

end Entries

variable {store : MemoryStore} {id : ObjectId}

theorem Exact.insert (exact : store.Exact) (entry : StoredEntry)
    (below : totalBytes (store.insert id entry).entries < 2 ^ 64) : (store.insert id entry).Exact := by
  have total : totalBytes (store.insert id entry).entries = _ := totalBytes_insert store.entries id entry
  rw [Exact, usedMemory] at exact ⊢
  rw [total] at below ⊢
  cases found : store.entries.lookup id with
  | none =>
    have erased := totalBytes_erase_absent found
    simp only [MemoryStore.insert, found]
    omega
  | some previous =>
    have erased := totalBytes_erase found
    have kept : store.bytes - previous.localBytes = totalBytes (store.entries.erase id) := by omega
    simp only [MemoryStore.insert, found, kept]
    omega

theorem Exact.deleteOne (exact : store.Exact) (id : ObjectId) : (store.deleteOne id).Exact := by
  cases found : store.entries.lookup id with
  | none =>
    rw [MemoryStore.deleteOne, found]
    exact exact
  | some previous =>
    have erased := totalBytes_erase found
    rw [Exact, usedMemory] at exact ⊢
    simp only [MemoryStore.deleteOne, found]
    omega

theorem Exact.delete (exact : store.Exact) (ids : List ObjectId) : (store.delete ids).Exact := by
  induction ids generalizing store with
  | nil => exact exact
  | cons id ids ih => exact ih (exact.deleteOne id)

theorem Exact.apply (exact : store.Exact) (operation : Operation)
    (below : totalBytes (store.apply operation).entries < 2 ^ 64) : (store.apply operation).Exact := by
  cases operation with
  | putInline id object => exact exact.insert (.inline object) below
  | putPlasma id index => exact exact.insert (.plasma index) below
  | delete ids => exact exact.delete ids

theorem getEntry_apply (store : MemoryStore) (operation : Operation) (other : id ∉ operation.ids) :
    (store.apply operation).getEntry id = store.getEntry id := by
  cases operation with
  | putInline put object =>
    exact (getEntry_putInline ..).trans (if_neg fun same => other (List.mem_singleton.mpr same))
  | putPlasma put index =>
    exact (getEntry_putPlasma ..).trans (if_neg fun same => other (List.mem_singleton.mpr same))
  | delete ids => exact (getEntry_delete ..).trans (if_neg other)

theorem exact_empty : empty.Exact := rfl

theorem Exact.run (exact : store.Exact) (operations : List Operation)
    (below : ∀ earlier, earlier <+: operations → totalBytes (store.run earlier).entries < 2 ^ 64) :
    (store.run operations).Exact := by
  induction operations generalizing store with
  | nil => exact exact
  | cons operation rest ih =>
    have first := exact.apply operation (below [operation] ⟨rest, rfl⟩)
    refine ih first fun earlier front => below (operation :: earlier) ?_
    exact List.cons_prefix_cons.mpr ⟨rfl, front⟩

/-- As long as the entries together stay below 2⁶⁴ bytes the counter is exact, and an
operation leaves the entries of all ids it does not name. -/
theorem used_memory_exact (operations : List Operation)
    (below : ∀ earlier, earlier <+: operations → totalBytes (empty.run earlier).entries < 2 ^ 64) :
    (empty.run operations).usedMemory = totalBytes (empty.run operations).entries ∧
    ∀ operation id, id ∉ operation.ids →
      ((empty.run operations).apply operation).getEntry id = (empty.run operations).getEntry id :=
  ⟨Exact.run exact_empty operations below, fun operation _ other => getEntry_apply _ operation other⟩

/-- An inline object is replaced by a plasma entry, and a delete takes that away beside an
id that is not there; what another inline object takes is left. -/
theorem replaced_entry_used_memory :
    (empty.run [.putInline (.nil 28) ⟨.raw, [7]⟩, .putPlasma (.nil 28) ⟨.raw, 1⟩,
      .putInline (.forReturn (.nil 24) 1) ⟨.raw, [7, 8, 9]⟩,
      .delete [.nil 28, .forReturn (.nil 24) 2]]).usedMemory = 4 := by
  refine (used_memory_exact _ fun earlier front => ?_).1.trans (by decide)
  simp only [List.prefix_cons_iff, List.prefix_nil] at front
  rcases front with rfl | ⟨_, rfl, rfl | ⟨_, rfl, rfl | ⟨_, rfl, rfl | ⟨_, rfl, rfl⟩⟩⟩⟩ <;> decide

end Accounting

end MemoryStore
end Rayd.Core
