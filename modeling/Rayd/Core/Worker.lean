import Rayd.Core.MemoryStore
import Rayd.Core.RefCounter
import Rayd.Plasma.Store
import Rayd.Spill.ObjectManager

/-! The per-process core worker, with the plasma store it is connected to. Each
operation here runs alone; the concurrent uses split them at their locks. The
spill threshold is the byte count the policy's budget and fraction come to. The
free callback and the owner address sent along with a create are left out. -/
namespace Rayd.Core
open Memory Plasma Spill

def inlineThresholdBytes : Nat := 100 * 1024

inductive CoreError where
  | plasma (failure : PlasmaError)
  | recovery (objectId reason : Text)
  deriving DecidableEq

/-- The order in which a walk over the plasma entries comes to them, that of a `HashMap`. -/
structure Walk where
  order : List (ObjectId × PlasmaIndex) → List (ObjectId × PlasmaIndex)
  perm : ∀ entries, (order entries).Perm entries

def Walk.newest : Walk := ⟨fun entries => entries, fun _ => .refl _⟩

structure CoreWorker where
  jobId : JobId
  nextTaskCounter : Nat
  store : MemoryStore
  refs : RefCounter
  recoverer : Option LocalObjectManager
  spillThreshold : Nat
  walk : Walk

namespace CoreWorker

def start (walk : Walk) (jobId : JobId) (recoverer : Option LocalObjectManager) (spillThreshold : Nat) :
    CoreWorker :=
  ⟨jobId, 0, .empty, .empty, recoverer, spillThreshold, walk⟩

/-- The counter is a wrapping u64; ids start at one. -/
def nextTaskId (worker : CoreWorker) : TaskId × CoreWorker :=
  (⟨worker.jobId.bytes ++ LittleEndian.encode 8 ((worker.nextTaskCounter + 1) % 2 ^ 64),
    by simp only [List.length_append, worker.jobId.size_eq, LittleEndian.encode_length]⟩,
    { worker with nextTaskCounter := (worker.nextTaskCounter + 1) % 2 ^ 64 })

end CoreWorker

/-- One process's worker and the shared store behind its plasma client. -/
structure Session where
  worker : CoreWorker
  plasma : Store

def spillErrorText : SpillError → Text
  | .notFound url => "spill url not found: ".toList ++ url
  | .corrupt url reason => "spill corruption at ".toList ++ url ++ ": ".toList ++ reason

namespace Session

def putPlasma (s : Session) (id : ObjectId) (index : PlasmaIndex) : Session :=
  { s with worker := { s.worker with store := s.worker.store.putPlasma id index } }

def putInline (s : Session) (id : ObjectId) (object : RayObject) : Session :=
  { s with worker := { s.worker with store := s.worker.store.putInline id object } }

def addOwned (s : Session) (id : ObjectId) : Session :=
  { s with worker := { s.worker with refs := s.worker.refs.addOwned id } }

def createAndSeal (s : Session) (id : ObjectId) (metadata data : Bytes) :
    Except PlasmaError Unit × Session :=
  let (reply, plasma) := s.plasma.createAndSeal ⟨id, metadata, data⟩
  (reply, { s with plasma })

/-- `true` when the object was in plasma and is on disk now, `false` when it was
not in plasma to begin with. The index entry stays either way. -/
def spillToRecoverer (s : Session) (id : ObjectId) : Except CoreError Bool × Session :=
  match s.worker.recoverer with
  | none => (.error (.recovery (hex id.bytes) "no recoverer registered".toList), s)
  | some manager =>
    match s.plasma.get id with
    | .error (.server .notFound _) => (.ok false, s)
    | .error failure => (.error (.plasma failure), s)
    | .ok (metadata, data) =>
      match manager.spill id metadata data with
      | (.error failure, manager) =>
        (.error (.recovery (hex id.bytes)
          ("recoverer: spill store: ".toList ++ spillErrorText failure)),
          { s with worker := { s.worker with recoverer := some manager } })
      | (.ok _, manager) =>
        (.ok true, ⟨{ s.worker with recoverer := some manager }, s.plasma.delete id⟩)

def plasmaEntries (s : Session) : List (ObjectId × PlasmaIndex) :=
  s.worker.walk.order s.worker.store.plasmaEntries

/-- The loop of `maybe_spill_for_pressure`: failed spills are skipped, and bytes
already gone count as freed. -/
def spillLoop (s : Session) (current spilled : Nat) : List (ObjectId × PlasmaIndex) → Nat × Session
  | [] => (spilled, s)
  | (id, index) :: rest =>
    if current ≤ s.worker.spillThreshold then (spilled, s)
    else
      match s.spillToRecoverer id with
      | (.ok true, s) => s.spillLoop (current - index.dataSize) (spilled + 1) rest
      | (.ok false, s) => s.spillLoop (current - index.dataSize) spilled rest
      | (.error _, s) => s.spillLoop current spilled rest

def maybeSpillForPressure (s : Session) : Nat × Session :=
  if s.worker.spillThreshold = 2 ^ 64 - 1 then (0, s)
  else
    let entries := s.plasmaEntries
    let current := (entries.map fun entry => entry.2.dataSize).sum
    if current ≤ s.worker.spillThreshold then (0, s) else s.spillLoop current 0 entries

def sealValueToPlasma (s : Session) (id : ObjectId) (metadata : Metadata) (data : Bytes) :
    Except CoreError Nat × Session :=
  match s.createAndSeal id metadata.encode data with
  | (.error failure, s) => (.error (.plasma failure), s)
  | (.ok _, s) =>
    let s := (s.putPlasma id ⟨metadata, data.length⟩).addOwned id
    (.ok data.length, s.maybeSpillForPressure.2)

/-- Values over the threshold go to plasma without the pressure check. -/
def sealValue (s : Session) (id : ObjectId) (metadata : Metadata) (data : Bytes) :
    Except CoreError Unit × Session :=
  if inlineThresholdBytes < data.length then
    match s.createAndSeal id metadata.encode data with
    | (.error failure, s) => (.error (.plasma failure), s)
    | (.ok _, s) => (.ok (), (s.putPlasma id ⟨metadata, data.length⟩).addOwned id)
  else (.ok (), (s.putInline id ⟨metadata, data⟩).addOwned id)

/-- Drop the index entry and the plasma copy; the counter is not consulted. -/
def evictLocal (s : Session) (id : ObjectId) : Session :=
  ⟨{ s.worker with store := s.worker.store.delete [id] }, s.plasma.delete id⟩

/-- The same effect as `evict_local`, on the unpin path. -/
def freeUnpinned (s : Session) (id : ObjectId) : Session := s.evictLocal id

/-- Run a counter operation and free the object when it cleared the last pin. -/
def release (s : Session) (id : ObjectId) (result : Bool × RefCounter) : Session :=
  let s := { s with worker := { s.worker with refs := result.2 } }
  if result.1 then s.freeUnpinned id else s

def decLocalRef (s : Session) (id : ObjectId) : Session :=
  s.release id (s.worker.refs.decLocal id)

def addBorrowerPin (s : Session) (id : ObjectId) (borrower : WorkerId) : Session :=
  { s with worker := { s.worker with refs := s.worker.refs.addBorrower id borrower } }

def removeBorrowerPin (s : Session) (id : ObjectId) (borrower : WorkerId) : Session :=
  s.release id (s.worker.refs.removeBorrower id borrower)

def freeAllLocal (s : Session) : Session :=
  let (ids, refs) := s.worker.refs.drainIds
  ids.foldl evictLocal { s with worker := { s.worker with refs } }

def recoverAndReseal (s : Session) (id : ObjectId) (index : PlasmaIndex) :
    Except CoreError RayObject × Session :=
  match s.worker.recoverer with
  | none => (.error (.plasma (.server .notFound
      ("object " ++ String.ofList (hex id.bytes) ++ " not in plasma and no recoverer registered"))), s)
  | some manager =>
    match manager.restore id with
    | (.ok none, manager) => (.error (.plasma (.server .notFound
        ("object " ++ String.ofList (hex id.bytes) ++
          " not in plasma and not held by any recoverer"))),
        { s with worker := { s.worker with recoverer := some manager } })
    | (.error failure, manager) => (.error (.recovery (hex id.bytes)
        ("spill restore: ".toList ++ spillErrorText failure)),
        { s with worker := { s.worker with recoverer := some manager } })
    | (.ok (some object), manager) =>
      let s := { s with worker := { s.worker with recoverer := some manager } }
      match s.createAndSeal id object.metadata object.data with
      | (.ok _, s) | (.error (.server .alreadyExists _), s) => (.ok ⟨index.metadata, object.data⟩, s)
      | (.error failure, s) => (.error (.plasma failure), s)

def resolveEntry (s : Session) (id : ObjectId) (entry : StoredEntry) :
    Except CoreError RayObject × Session :=
  match entry with
  | .inline object => (.ok object, s)
  | .plasma index =>
    match s.plasma.get id with
    | .ok (_, data) => (.ok ⟨index.metadata, data⟩, s)
    | .error (.server .notFound _) => s.recoverAndReseal id index
    | .error failure => (.error (.plasma failure), s)

def resolveNow (s : Session) (id : ObjectId) : Except CoreError (Option RayObject) × Session :=
  match s.worker.store.getEntry id with
  | none => (.ok none, s)
  | some entry =>
    let (result, s) := s.resolveEntry id entry
    (result.map some, s)

/-- Spilling moves objects out of plasma. Nothing else of the worker that the
other operations read is changed, and plasma gains nothing. -/
structure Shrinks (s t : Session) : Prop where
  jobId : t.worker.jobId = s.worker.jobId
  counter : t.worker.nextTaskCounter = s.worker.nextTaskCounter
  store : t.worker.store = s.worker.store
  refs : t.worker.refs = s.worker.refs
  arena : t.plasma.arena = s.plasma.arena
  plasma : ∀ id object, t.plasma.objects.lookup id = some object →
    s.plasma.objects.lookup id = some object

theorem Shrinks.refl (s : Session) : Shrinks s s := ⟨rfl, rfl, rfl, rfl, rfl, fun _ _ found => found⟩

theorem Shrinks.trans (first : Shrinks s t) (second : Shrinks t u) : Shrinks s u :=
  ⟨second.jobId.trans first.jobId, second.counter.trans first.counter,
    second.store.trans first.store, second.refs.trans first.refs, second.arena.trans first.arena,
    fun id object found => first.plasma id object (second.plasma id object found)⟩

theorem spillToRecoverer_shrinks (s : Session) (id : ObjectId) :
    Shrinks s (s.spillToRecoverer id).2 := by
  simp only [spillToRecoverer]
  split
  · exact .refl s
  · split
    · exact .refl s
    · exact .refl s
    · split
      · exact ⟨rfl, rfl, rfl, rfl, rfl, fun _ _ found => found⟩
      · refine ⟨rfl, rfl, rfl, rfl, rfl, fun other object found => ?_⟩
        simp only [Store.lookup_delete] at found
        split at found
        · cases found
        · exact found

theorem spillLoop_keeps {P : Session → Prop} {entries : List (ObjectId × PlasmaIndex)}
    (attempt : ∀ entry ∈ entries, ∀ s : Session, P s → P (s.spillToRecoverer entry.1).2) (s : Session)
    (current spilled : Nat) (holds : P s) : P (s.spillLoop current spilled entries).2 := by
  induction entries generalizing s current spilled with
  | nil => exact holds
  | cons entry rest ih =>
    obtain ⟨first, later⟩ := List.forall_mem_cons.mp attempt
    have head := first s holds
    simp only [spillLoop]
    split
    · exact holds
    · split <;> rename_i result <;> rw [result] at head <;> exact ih later _ _ _ head

theorem maybeSpillForPressure_keeps {P : Session → Prop} {s : Session}
    (attempt : ∀ entry ∈ s.plasmaEntries, ∀ s : Session, P s → P (s.spillToRecoverer entry.1).2) (holds : P s) :
    P s.maybeSpillForPressure.2 := by
  simp only [maybeSpillForPressure]
  split
  · exact holds
  · split
    · exact holds
    · exact spillLoop_keeps attempt _ _ _ holds

theorem maybeSpillForPressure_shrinks (s : Session) : Shrinks s s.maybeSpillForPressure.2 :=
  maybeSpillForPressure_keeps (fun entry _ t before => before.trans (t.spillToRecoverer_shrinks entry.1)) (.refl s)

theorem maybeSpillForPressure_unrecovered {s : Session} (none : s.worker.recoverer = none) :
    s.maybeSpillForPressure.2 = s := by
  refine maybeSpillForPressure_keeps (P := (· = s)) ?_ rfl
  rintro entry _ t rfl
  simp only [spillToRecoverer, none]

/-- Plasma can take the value: the id is absent and there is room. -/
def CanSeal (plasma : Store) (id : ObjectId) (metadata : Metadata) (data : Bytes) : Prop :=
  plasma.objects.lookup id = none ∧ plasma.Room ⟨id, metadata.encode, data⟩

/-- The session after a value went to plasma, before any pressure spill. -/
def sealedSession (s : Session) (id : ObjectId) (metadata : Metadata) (data : Bytes) : Session :=
  ((s.createAndSeal id metadata.encode data).2.putPlasma id ⟨metadata, data.length⟩).addOwned id

/-- A failed seal changes no object, no index entry and no count. -/
structure Untouched (s t : Session) : Prop where
  worker : t.worker = s.worker
  objects : t.plasma.objects = s.plasma.objects

theorem sealValueToPlasma_spec (s : Session) (id : ObjectId) (metadata : Metadata) (data : Bytes) :
    CanSeal s.plasma id metadata data ∧
        (s.sealValueToPlasma id metadata data).1 = .ok data.length ∧
        Shrinks (s.sealedSession id metadata data) (s.sealValueToPlasma id metadata data).2 ∨
      ¬ CanSeal s.plasma id metadata data ∧
        (∃ failure, (s.sealValueToPlasma id metadata data).1 = .error failure) ∧
        Untouched s (s.sealValueToPlasma id metadata data).2 := by
  simp only [sealValueToPlasma, sealedSession, createAndSeal, CanSeal]
  rcases s.plasma.createAndSeal_spec ⟨id, metadata.encode, data⟩ with
    ⟨done, absent, room, _⟩ | ⟨⟨failure, failed⟩, missing, objects⟩
  · rw [done]
    exact .inl ⟨⟨absent, room⟩, rfl, maybeSpillForPressure_shrinks _⟩
  · rw [failed]
    exact .inr ⟨missing, ⟨_, rfl⟩, rfl, objects⟩

theorem sealValueToPlasma_unrecovered {s : Session} {id : ObjectId} {metadata : Metadata} {data : Bytes}
    (none : s.worker.recoverer = none)
    (done : s.sealValueToPlasma id metadata data = (.ok size, t)) :
    CanSeal s.plasma id metadata data ∧ size = data.length ∧ t = s.sealedSession id metadata data := by
  rcases s.sealValueToPlasma_spec id metadata data with ⟨canSeal, _, _⟩ | ⟨_, ⟨failure, failed⟩, _⟩
  · refine ⟨canSeal, ?_⟩
    have accepted := (s.plasma.createAndSeal_ok_iff ⟨id, metadata.encode, data⟩).mpr canSeal
    simp only [sealValueToPlasma, createAndSeal, accepted] at done
    rw [maybeSpillForPressure_unrecovered (by exact none)] at done
    simp only [Prod.mk.injEq, Except.ok.injEq] at done
    exact ⟨done.1.symm, done.2.symm⟩
  · rw [done] at failed
    cases failed

theorem sealedSession_plasma {s : Session} {id : ObjectId} {metadata : Metadata} {data : Bytes}
    (canSeal : CanSeal s.plasma id metadata data) :
    (s.sealedSession id metadata data).plasma.objects =
      s.plasma.objects.insert id ⟨metadata.encode, data, true⟩ := by
  rcases s.plasma.createAndSeal_spec ⟨id, metadata.encode, data⟩ with
    ⟨_, _, _, objects⟩ | ⟨_, missing, _⟩
  · exact objects
  · exact absurd canSeal missing

@[simp] theorem sealedSession_store (s : Session) (id : ObjectId) (metadata : Metadata) (data : Bytes) :
    (s.sealedSession id metadata data).worker.store =
      s.worker.store.putPlasma id ⟨metadata, data.length⟩ := rfl

/-- What a successful seal leaves, by either route: the index entry, one more
local count, and nothing new in plasma but the object itself. -/
structure Stored (s : Session) (id : ObjectId) (t : Session) : Prop where
  entry : ∃ entry, ∀ other, t.worker.store.getEntry other =
    if other = id then some entry else s.worker.store.getEntry other
  refs : t.worker.refs = s.worker.refs.addOwned id
  plasma : ∀ other object, t.plasma.objects.lookup other = some object →
    other = id ∨ s.plasma.objects.lookup other = some object

theorem sealedSession_stored {s : Session} {id : ObjectId} {metadata : Metadata} {data : Bytes}
    (canSeal : CanSeal s.plasma id metadata data) : Stored s id (s.sealedSession id metadata data) := by
  refine ⟨⟨.plasma ⟨metadata, data.length⟩, fun other => by simp⟩, rfl, fun other object found => ?_⟩
  rw [sealedSession_plasma canSeal, FiniteMap.lookup_insert] at found
  split at found
  · rename_i same
    exact .inl same
  · exact .inr found

theorem Stored.shrink {id : ObjectId} (stored : Stored s id t) (shrinks : Shrinks t u) : Stored s id u := by
  obtain ⟨⟨entry, entries⟩, refs, plasma⟩ := stored
  refine ⟨⟨entry, ?_⟩, ?_, fun other object found =>
    plasma other object (shrinks.plasma other object found)⟩
  · rw [shrinks.store]
    exact entries
  · rw [shrinks.refs]
    exact refs

theorem sealValueToPlasma_stored (s : Session) (id : ObjectId) (metadata : Metadata) (data : Bytes) :
    (∃ size, (s.sealValueToPlasma id metadata data).1 = .ok size) ∧
        Stored s id (s.sealValueToPlasma id metadata data).2 ∨
      (∃ failure, (s.sealValueToPlasma id metadata data).1 = .error failure) ∧
        Untouched s (s.sealValueToPlasma id metadata data).2 := by
  rcases s.sealValueToPlasma_spec id metadata data with ⟨canSeal, done, shrinks⟩ | ⟨_, failed, same⟩
  · exact .inl ⟨⟨_, done⟩, (sealedSession_stored canSeal).shrink shrinks⟩
  · exact .inr ⟨failed, same⟩

theorem sealValue_stored (s : Session) (id : ObjectId) (metadata : Metadata) (data : Bytes) :
    (s.sealValue id metadata data).1 = .ok () ∧ Stored s id (s.sealValue id metadata data).2 ∨
      (∃ failure, (s.sealValue id metadata data).1 = .error failure) ∧
        Untouched s (s.sealValue id metadata data).2 := by
  by_cases large : inlineThresholdBytes < data.length
  · simp only [sealValue, if_pos large, createAndSeal]
    rcases s.plasma.createAndSeal_spec ⟨id, metadata.encode, data⟩ with
      ⟨done, absent, room, _⟩ | ⟨⟨failure, failed⟩, _, objects⟩
    · rw [done]
      exact .inl ⟨rfl, sealedSession_stored ⟨absent, room⟩⟩
    · rw [failed]
      exact .inr ⟨⟨_, rfl⟩, rfl, objects⟩
  · simp only [sealValue, if_neg large]
    exact .inl ⟨trivial, ⟨.inline ⟨metadata, data⟩, fun other => by simp [putInline, addOwned]⟩, rfl,
      fun _ _ found => .inr found⟩

theorem sealed_other {s t : Session} {id other : ObjectId} (written : Stored s id t ∨ Untouched s t)
    (different : other ≠ id) : t.worker.store.getEntry other = s.worker.store.getEntry other := by
  rcases written with stored | untouched
  · obtain ⟨entry, entries⟩ := stored.entry
    rw [entries, if_neg different]
  · rw [untouched.worker]

section Release
variable (s : Session) (id other : ObjectId) (result : Bool × RefCounter)

/-- Freeing happens exactly when the counter reports the last pin gone. -/
theorem release_entry :
    (s.release id result).worker.store.getEntry other =
      if result.1 = true ∧ other = id then none else s.worker.store.getEntry other := by
  simp only [release]
  split <;> rename_i freed
  · simp [freeUnpinned, evictLocal, freed]
  · simp [freed]

theorem release_refs : (s.release id result).worker.refs = result.2 := by
  simp only [release]
  split <;> rfl

theorem release_object :
    (s.release id result).plasma.objects.lookup other =
      if result.1 = true ∧ other = id then none else s.plasma.objects.lookup other := by
  simp only [release]
  split <;> rename_i freed
  · simp [freeUnpinned, evictLocal, freed]
  · simp [freed]

theorem release_recoverer : (s.release id result).worker.recoverer = s.worker.recoverer := by
  simp only [release]
  split <;> rfl

end Release

theorem evictAll_spec (ids : List ObjectId) (s : Session) (other : ObjectId) :
    (ids.foldl evictLocal s).worker.store.getEntry other =
        (if other ∈ ids then none else s.worker.store.getEntry other) ∧
      (ids.foldl evictLocal s).plasma.objects.lookup other =
        (if other ∈ ids then none else s.plasma.objects.lookup other) := by
  induction ids generalizing s with
  | nil => simp
  | cons id ids ih =>
    obtain ⟨entry, object⟩ := ih (s.evictLocal id)
    rw [List.foldl_cons, entry, object]
    simp only [evictLocal, MemoryStore.getEntry_delete, Store.lookup_delete, List.mem_cons,
      List.not_mem_nil, or_false]
    by_cases same : other = id <;> simp [same]

theorem freeAllLocal_object (s : Session) (other : ObjectId) :
    s.freeAllLocal.plasma.objects.lookup other =
      if s.worker.refs.snapshot other ≠ none then none else s.plasma.objects.lookup other := by
  have spec := (evictAll_spec s.worker.refs.drainIds.1
    { s with worker := { s.worker with refs := s.worker.refs.drainIds.2 } } other).2
  simp only [RefCounter.mem_drainIds] at spec
  exact spec

theorem resolveNow_held {s : Session} {id : ObjectId}
    (listed : s.worker.store.getEntry id = some (.plasma index))
    (held : s.plasma.objects.lookup id = some ⟨metadata, data, true⟩) :
    (s.resolveNow id).1 = .ok (some ⟨index.metadata, data⟩) := by
  simp only [resolveNow, listed, resolveEntry, Store.get, held, if_true]
  rfl

theorem resolveNow_store (s : Session) (id : ObjectId) :
    (s.resolveNow id).2.worker.store = s.worker.store := by
  have restored : ∀ index, (s.recoverAndReseal id index).2.worker.store = s.worker.store := by
    intro index
    simp only [recoverAndReseal]
    split
    · rfl
    · split
      · rfl
      · rfl
      · split <;> rename_i sealed <;> exact congrArg (fun t => t.2.worker.store) sealed.symm
  simp only [resolveNow]
  split
  · rfl
  · rename_i entry _
    cases entry with
    | inline object => rfl
    | plasma index =>
      simp only [resolveEntry]
      split
      · rfl
      · exact restored index
      · rfl

/-- A plasma miss is only ever reported for an id plasma does not know. -/
theorem resolveNow_notFound {s : Session} {id : ObjectId}
    (missed : (s.resolveNow id).1 = .error (.plasma (.server .notFound message))) :
    s.plasma.objects.lookup id = none := by
  simp only [resolveNow] at missed
  split at missed
  · cases missed
  · rename_i entry _
    cases entry with
    | inline object => cases missed
    | plasma index =>
      simp only [resolveEntry, Store.get] at missed
      cases found : s.plasma.objects.lookup id with
      | none => rfl
      | some object =>
        cases sealed : object.isSealed <;> simp [found, sealed, Except.map] at missed

end Session
end Rayd.Core
