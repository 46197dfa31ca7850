import Rayd.Raylet.Directory

/-! What an unpin leaves undone. `free_unpinned` takes the index entry out, asks
plasma to delete the object and only then runs the free callback, the one place where
the raylet's directory and the spill record of the object are cleared. What comes back
from plasma is left open here: any reply, with any state of the store behind it. -/
namespace Rayd.Refs
open Memory Plasma Spill Core Raylet

/-- How `client.delete` may fail. -/
inductive DeleteError where
  | server (kind : ServerErrorKind) (message : String)
  /-- An I/O, codec or protocol error. -/
  | transport (message : String)

/-- A driver's worker with the GCS binding its free callback goes through. -/
structure Node where
  nodeId : NodeId
  session : Session
  /-- A plasma client is connected. -/
  connected : Bool
  /-- `free_callback` is set. -/
  callback : Bool
  /-- `with_gcs` finds a session with a binding. -/
  bound : Bool
  /-- The directory of the binding's raylet. -/
  raylet : Option ObjectDirectory
  /-- The ids the callback has been run for, oldest first. -/
  ran : List ObjectId

namespace Node

def withWorker (node : Node) (worker : CoreWorker) : Node :=
  { node with session := { node.session with worker } }

/-- `deregister_self`, if there is a raylet. -/
def deregisterSelf (node : Node) (id : ObjectId) : Node :=
  { node with raylet := node.raylet.map fun directory => directory.remove id node.nodeId }

/-- `forget` on the binding's object manager, the worker's recoverer; a file that
cannot be removed is logged. -/
def forget (node : Node) (id : ObjectId) : Node :=
  node.withWorker { node.session.worker with
    recoverer := node.session.worker.recoverer.map fun manager => (manager.forget id).2 }

/-- The callback that `install` sets. -/
def freeCallback (node : Node) (id : ObjectId) : Node :=
  let node := { node with ran := node.ran ++ [id] }
  if node.bound then (node.deregisterSelf id).forget id else node

def runCallback (node : Node) (id : ObjectId) : Node :=
  if node.callback then node.freeCallback id else node

/-- `deleted` is the reply to the delete request and the store after it. -/
def freeUnpinned (node : Node) (id : ObjectId) (deleted : Except DeleteError Unit × Store) :
    Except DeleteError Unit × Node :=
  let node := node.withWorker { node.session.worker with store := node.session.worker.store.delete [id] }
  if node.connected then
    let node := { node with session := { node.session with plasma := deleted.2 } }
    match deleted.1 with
    | .ok _ | .error (.server .notFound _) => (.ok (), node.runCallback id)
    | .error failure => (.error failure, node)
  else (.ok (), node.runCallback id)

/-- Run a counter operation and free the object when it cleared the last pin. -/
def release (node : Node) (id : ObjectId) (result : Bool × RefCounter)
    (deleted : Except DeleteError Unit × Store) : Except DeleteError Unit × Node :=
  let node := node.withWorker { node.session.worker with refs := result.2 }
  if result.1 then node.freeUnpinned id deleted else (.ok (), node)

def decLocalRef (node : Node) (id : ObjectId) (deleted : Except DeleteError Unit × Store) :
    Except DeleteError Unit × Node :=
  node.release id (node.session.worker.refs.decLocal id) deleted

def removeBorrowerPin (node : Node) (id : ObjectId) (borrower : WorkerId)
    (deleted : Except DeleteError Unit × Store) : Except DeleteError Unit × Node :=
  node.release id (node.session.worker.refs.removeBorrower id borrower) deleted

theorem forget_spillUrl (manager : LocalObjectManager) (id : ObjectId) :
    (manager.forget id).2.spillUrl id = none := by
  simp only [LocalObjectManager.forget]
  split
  · rename_i absent
    exact absent
  · simp only [LocalObjectManager.spillUrl, FiniteMap.lookup_erase, if_true]

/-- Neither the raylet nor the spill directory knows the object. -/
structure Unrecorded (node : Node) (id : ObjectId) : Prop where
  unlisted : ∀ directory, node.raylet = some directory → node.nodeId ∉ directory.locations id
  forgotten : ∀ manager, node.session.worker.recoverer = some manager → manager.spillUrl id = none

theorem freeCallback_unrecorded (node : Node) (id : ObjectId) :
    (node.freeCallback id).Unrecorded id ↔ node.bound = true ∨ node.Unrecorded id := by
  simp only [freeCallback]
  cases bound : node.bound with
  | true =>
    simp only [if_true, true_or, iff_true]
    constructor
    · intro directory found
      obtain ⟨before, _, rfl⟩ := Option.map_eq_some_iff.mp found
      rw [ObjectDirectory.locations_remove, if_pos rfl]
      exact Finset.notMem_erase _ _
    · intro manager found
      obtain ⟨before, _, rfl⟩ := Option.map_eq_some_iff.mp found
      exact forget_spillUrl before id
  | false =>
    simp only [Bool.false_eq_true, if_false, false_or]
    exact ⟨fun clean => ⟨clean.unlisted, clean.forgotten⟩, fun clean => ⟨clean.unlisted, clean.forgotten⟩⟩

theorem freeCallback_ran (node : Node) (id : ObjectId) : (node.freeCallback id).ran = node.ran ++ [id] := by
  simp only [freeCallback]
  split <;> rfl

theorem freeCallback_entry (node : Node) (id other : ObjectId) :
    (node.freeCallback id).session.worker.store.getEntry other = node.session.worker.store.getEntry other := by
  simp only [freeCallback]
  split <;> rfl

/-- The delete request was answered with success or `NotFound`. -/
def Accepted : Except DeleteError Unit → Prop
  | .ok _ | .error (.server .notFound _) => True
  | .error _ => False

/-- `free_unpinned` comes to its callback exactly when the delete was accepted. -/
theorem freeUnpinned_cases (node : Node) (id : ObjectId) (deleted : Except DeleteError Unit × Store) :
    (node.connected = true → Accepted deleted.1) ∧ (∃ plasma, (node.freeUnpinned id deleted).2 =
      runCallback { node with session :=
        ⟨{ node.session.worker with store := node.session.worker.store.delete [id] }, plasma⟩ } id) ∨
    ¬ (node.connected = true → Accepted deleted.1) ∧ (node.freeUnpinned id deleted).2.ran = node.ran := by
  obtain ⟨nodeId, session, connected, callback, bound, raylet, ran⟩ := node
  cases connected with
  | false => exact .inl ⟨nofun, session.plasma, rfl⟩
  | true =>
    rcases deleted with ⟨reply, plasma⟩
    rcases reply with failure | done
    · cases failure with
      | transport message => exact .inr ⟨fun accepted => accepted rfl, rfl⟩
      | server kind message =>
        cases kind with
        | notFound => exact .inl ⟨fun _ => trivial, plasma, rfl⟩
        | _ => exact .inr ⟨fun accepted => accepted rfl, rfl⟩
    · exact .inl ⟨fun _ => trivial, plasma, rfl⟩

/-- The bookkeeping for an object the node has just given up. -/
structure Finished (node after : Node) (id : ObjectId) : Prop where
  entry : after.session.worker.store.getEntry id = none
  ran : after.ran = node.ran ++ [id]
  unrecorded : after.Unrecorded id

/-- The callback is set, the delete is accepted, and the callback finds the binding
or nothing to clear. -/
structure Finishing (node : Node) (id : ObjectId) (deleted : Except DeleteError Unit × Store) : Prop where
  callback : node.callback = true
  accepted : node.connected = true → Accepted deleted.1
  bound : node.bound = true ∨ node.Unrecorded id

theorem freeUnpinned_finished_iff (node : Node) (id : ObjectId) (deleted : Except DeleteError Unit × Store) :
    Finished node (node.freeUnpinned id deleted).2 id ↔ node.Finishing id deleted := by
  have longer : node.ran ≠ node.ran ++ [id] := by simp
  rcases node.freeUnpinned_cases id deleted with ⟨accepted, plasma, after⟩ | ⟨refused, ran⟩
  · rw [after, runCallback]
    split
    · rename_i callback
      constructor
      · intro finished
        have clean := (freeCallback_unrecorded _ id).mp finished.unrecorded
        exact ⟨callback, accepted, clean.imp_right fun clean => ⟨clean.unlisted, clean.forgotten⟩⟩
      · intro finishing
        refine ⟨?_, freeCallback_ran _ id, (freeCallback_unrecorded _ id).mpr ?_⟩
        · rw [freeCallback_entry]
          simp [MemoryStore.getEntry_delete]
        · exact finishing.bound.imp_right fun clean => ⟨clean.unlisted, clean.forgotten⟩
    · rename_i unset
      exact ⟨fun finished => absurd finished.ran longer, fun finishing => absurd finishing.callback unset⟩
  · exact ⟨fun finished => absurd (ran.symm.trans finished.ran) longer,
      fun finishing => absurd finishing.accepted refused⟩

theorem release_finished_iff (node : Node) (id : ObjectId) (result : Bool × RefCounter)
    (deleted : Except DeleteError Unit × Store) (cleared : result.1 = true) :
    Finished node (node.release id result deleted).2 id ↔ node.Finishing id deleted := by
  simp only [release, cleared, if_true]
  have free := freeUnpinned_finished_iff
    (node.withWorker { node.session.worker with refs := result.2 }) id deleted
  constructor
  · intro finished
    obtain ⟨callback, accepted, bound⟩ := free.mp ⟨finished.entry, finished.ran, finished.unrecorded⟩
    exact ⟨callback, accepted, bound.imp_right fun clean => ⟨clean.unlisted, clean.forgotten⟩⟩
  · intro finishing
    obtain ⟨entry, ran, unrecorded⟩ := free.mpr ⟨finishing.callback, finishing.accepted,
      finishing.bound.imp_right fun clean => ⟨clean.unlisted, clean.forgotten⟩⟩
    exact ⟨entry, ran, unrecorded⟩

/-- A `dec_local_ref` or `remove_borrower_pin` that clears the last pin finishes the
bookkeeping exactly when plasma accepts the delete and the callback finds its binding:
no index entry, one run of the callback, no listing at the raylet, no spill record. -/
theorem free_finished_iff (node : Node) (id : ObjectId) (deleted : Except DeleteError Unit × Store) :
    ((node.session.worker.refs.decLocal id).1 = true →
      (Finished node (node.decLocalRef id deleted).2 id ↔ node.Finishing id deleted)) ∧
    ∀ borrower, (node.session.worker.refs.removeBorrower id borrower).1 = true →
      (Finished node (node.removeBorrowerPin id borrower deleted).2 id ↔ node.Finishing id deleted) :=
  ⟨node.release_finished_iff id _ deleted, fun _ => node.release_finished_iff id _ deleted⟩

section Samples

def givenId : ObjectId := .nil 28

/-- The id is pinned once, listed at the raylet and spilled to a file. -/
def spilledNode : Node where
  nodeId := .nil 16
  session :=
    { worker :=
        { CoreWorker.start .newest (.nil 16) (some ⟨.empty 0, AList.insert givenId [] ∅⟩) (2 ^ 64 - 1) with
          store := MemoryStore.empty.putPlasma givenId ⟨.pickle5 false, 3⟩
          refs := RefCounter.empty.addOwned givenId }
      plasma := ⟨.onePage, ∅⟩ }
  connected := true
  callback := true
  bound := true
  raylet := some (ObjectDirectory.empty.register givenId (.nil 16))
  ran := []

/-- A delete that goes through finishes it. -/
theorem free_finished_iff_spilled :
    Finished spilledNode (spilledNode.decLocalRef givenId (.ok (), spilledNode.session.plasma)).2 givenId :=
  ((free_finished_iff spilledNode givenId (.ok (), spilledNode.session.plasma)).1 rfl).mpr
    ⟨rfl, fun _ => trivial, .inl rfl⟩

/-- The connection to plasma breaks: the index entry and the count are gone, the
callback has not run, and the raylet and the spill directory still have the object. -/
theorem failed_delete_skips_callback :
    ∃ after, spilledNode.decLocalRef givenId (.error (.transport "broken pipe"), spilledNode.session.plasma) =
        (.error (.transport "broken pipe"), after) ∧
      (spilledNode.session.worker.refs.decLocal givenId).1 = true ∧
      after.session.worker.store.getEntry givenId = none ∧
      after.session.worker.refs.snapshot givenId = none ∧ after.ran = [] ∧
      (∃ directory, after.raylet = some directory ∧ spilledNode.nodeId ∈ directory.locations givenId) ∧
      ∃ manager url, after.session.worker.recoverer = some manager ∧ manager.spillUrl givenId = some url :=
  ⟨_, rfl, rfl, rfl, rfl, rfl, ⟨_, rfl, by decide⟩, _, _, rfl, rfl⟩

end Samples
end Node
end Rayd.Refs
