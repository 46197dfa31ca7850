import Rayd.Refs.RemoteRefs

/-! The three ways to ask for the states of refs. `ObjectRef.state` looks at the owner of
a ref that is pending on this node; `state` and `wait_with_states` read the index and
nothing else. What happens to the store during a wait is left open: the states are those
of the store the wait ends with. The timeout is one that parses. -/
namespace Rayd.Refs
open Core Raylet.Fetch

structure Runtime where
  store : MemoryStore
  /-- This node's id, when there is a GCS. -/
  nodeId : Option NodeId

def Runtime.require : Option Runtime → Except PyError Runtime
  | some runtime => .ok runtime
  | none => .error (.runtime "rayd is not initialized; call rayd.init() first")

/-- `ref.state()`. -/
def ObjectRef.state (ref : ObjectRef) : Option Runtime → RefState
  | none => .pending
  | some runtime =>
    if runtime.store.stateOf ref.objectId ≠ .pending then runtime.store.stateOf ref.objectId
    else
      match ref.ownerNodeId with
      | none => .pending
      | some owner => if runtime.nodeId.any (· ≠ owner) then .readyRemote else .pending

/-- The refs with what a snapshot has for their ids. -/
def statesIn (states : FiniteMap ObjectId RefState) (refs : List ObjectRef) : List (ObjectRef × RefState) :=
  refs.map fun ref => (ref, (states.lookup ref.objectId).getD .pending)

/-- `_native.state`. -/
def nativeState (runtime : Option Runtime) (refs : List ObjectRef) :
    Except PyError (List (ObjectRef × RefState)) := do
  let runtime ← Runtime.require runtime
  return statesIn (runtime.store.stateSnapshot (refs.map ObjectRef.objectId)) refs

/-- `_native.wait_with_states`, the wait ending with this store. -/
def nativeWaitWithStates (runtime : Option Runtime) (settled : MemoryStore) (refs : List ObjectRef) :
    Except PyError (List (ObjectRef × RefState)) := do
  let _ ← Runtime.require runtime
  return statesIn (settled.stateSnapshot (refs.map ObjectRef.objectId)) refs

/-- `dict` of a list of pairs. -/
def dict (pairs : List (ObjectRef × RefState)) : FiniteMap ObjectRef RefState :=
  pairs.foldl (fun entries pair => entries.insert pair.1 pair.2) ∅

def state (runtime : Option Runtime) (refs : List ObjectRef) : Except PyError (FiniteMap ObjectRef RefState) :=
  (nativeState runtime refs).map dict

def waitWithStates (runtime : Option Runtime) (settled : MemoryStore) (refs : List ObjectRef) :
    Except PyError (FiniteMap ObjectRef RefState) :=
  (nativeWaitWithStates runtime settled refs).map dict

section Queries
variable {ref : ObjectRef} {refs : List ObjectRef}

/-- Pending on this node, and owned by another. -/
def ObjectRef.Elsewhere (ref : ObjectRef) (runtime : Runtime) : Prop :=
  runtime.store.stateOf ref.objectId = .pending ∧
    ∃ owner here, ref.ownerNodeId = some owner ∧ runtime.nodeId = some here ∧ here ≠ owner

/-- The ref's own answer is that of the index, but for a remote one. -/
theorem ObjectRef.state_eq_iff (runtime : Runtime) :
    ref.state (some runtime) = runtime.store.stateOf ref.objectId ↔ ¬ ref.Elsewhere runtime := by
  simp only [state, Elsewhere]
  by_cases pending : runtime.store.stateOf ref.objectId = .pending
  · rw [if_neg (not_not_intro pending), pending]
    cases ref.ownerNodeId with
    | none => simp
    | some owner =>
      cases runtime.nodeId with
      | none => simp
      | some here => by_cases same : here = owner <;> simp [same]
  · rw [if_pos pending]
    simp [pending]

theorem lookup_dict_statesIn (store : MemoryStore) (asked : ref ∈ refs) :
    (dict (statesIn (store.stateSnapshot (refs.map ObjectRef.objectId)) refs)).lookup ref =
      some (store.stateOf ref.objectId) := by
  have member : ref.objectId ∈ refs.map ObjectRef.objectId := List.mem_map_of_mem asked
  rw [dict, statesIn, List.foldl_map]
  refine (FiniteMap.lookup_foldl_insert _ refs ∅ ref).trans ?_
  rw [if_pos asked, MemoryStore.lookup_stateSnapshot, if_pos member, Option.getD_some]

theorem agree_iff (runtime : Runtime) :
    (∀ ref ∈ refs, (dict (statesIn (runtime.store.stateSnapshot (refs.map ObjectRef.objectId)) refs)).lookup ref =
        some (ref.state (some runtime))) ↔
      ∀ ref ∈ refs, ¬ ref.Elsewhere runtime := by
  refine forall_congr' fun ref => forall_congr' fun asked => ?_
  rw [lookup_dict_statesIn runtime.store asked, Option.some.injEq, eq_comm, ObjectRef.state_eq_iff]

/-- The batched answers are those of the single refs, in the store they were read from,
exactly when no ref is pending here and owned by another node. -/
theorem state_queries_agree_iff (runtime : Runtime) (settled : MemoryStore) (refs : List ObjectRef) :
    ((∃ states, state (some runtime) refs = .ok states ∧
        ∀ ref ∈ refs, states.lookup ref = some (ref.state (some runtime))) ↔
      ∀ ref ∈ refs, ¬ ref.Elsewhere runtime) ∧
    ((∃ states, waitWithStates (some runtime) settled refs = .ok states ∧
        ∀ ref ∈ refs, states.lookup ref = some (ref.state (some { runtime with store := settled }))) ↔
      ∀ ref ∈ refs, ¬ ref.Elsewhere { runtime with store := settled }) := by
  constructor
  · rw [← agree_iff]
    constructor
    · rintro ⟨states, answered, same⟩
      cases answered
      exact same
    · exact fun same => ⟨_, rfl, same⟩
  · rw [← agree_iff]
    constructor
    · rintro ⟨states, answered, same⟩
      cases answered
      exact same
    · exact fun same => ⟨_, rfl, same⟩

/-- A ref of another node that was not fetched yet: ready elsewhere when asked itself,
pending in a batch. -/
theorem remote_ref_pending_in_batch :
    ObjectRef.state ⟨sampleObject, some sampleOwner⟩ (some ⟨.empty, some (.nil 16)⟩) = .readyRemote ∧
    (∃ states, state (some ⟨.empty, some (.nil 16)⟩) [⟨sampleObject, some sampleOwner⟩] = .ok states ∧
      states.lookup ⟨sampleObject, some sampleOwner⟩ = some .pending) ∧
    ∃ states, waitWithStates (some ⟨.empty, some (.nil 16)⟩) .empty [⟨sampleObject, some sampleOwner⟩] =
        .ok states ∧ states.lookup ⟨sampleObject, some sampleOwner⟩ = some .pending :=
  ⟨rfl, ⟨_, rfl, rfl⟩, _, rfl, rfl⟩

end Queries

end Rayd.Refs
