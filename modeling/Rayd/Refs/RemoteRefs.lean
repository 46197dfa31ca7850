import Rayd.Lib.Fallible
import Rayd.Raylet.Fetch
import Rayd.Tasks.TaskManager

/-! `_ensure_local_for_remote_refs`, the pass over the refs that `get` and `get_settled`
make first. Each native call is answered out of the state it finds: other threads run in
between, and so do the calls for the refs before. Waiting is not modeled; of the fetch
attempts those are given that the deadline leaves time for. The runtime is initialised,
and what a resubmission does is in the state that later calls find. -/
namespace Rayd.Refs
open Memory Core Plasma Gcs Raylet Raylet.Fetch Tasks Fallible

structure ObjectRef where
  objectId : ObjectId
  ownerNodeId : Option NodeId
  deriving DecidableEq

def ObjectRef.hex (ref : ObjectRef) : String := String.ofList (Spill.hex ref.objectId.bytes)

/-- What comes out of the call as an exception. -/
inductive Raised where
  | native (failure : PyError)
  | ownerDied (message : String)
  | objectUnreconstructable (message : String)
  | notImplemented (message : String)
  | unpickling (message : String)
  deriving DecidableEq

/-- A ref with what the calls made for it find. -/
structure Turn where
  ref : ObjectRef
  /-- `node_status_local`. -/
  index : NodeIndex
  /-- The first `fetch_object`, and those after it. -/
  attempt : GcsBinding × Session
  attempts : List (GcsBinding × Session)
  /-- `state` and `_lineage_status_str`. -/
  store : MemoryStore
  tasks : TaskManager

def nodeStatusStr : NodeStatus → String
  | .alive => "alive"
  | .draining => "draining"
  | .dead => "dead"
  | .unspecified => "unspecified"

/-- `next((n.status for n in nodes if n.node_id == owner_nid), None)`. -/
def ownerStatus (nodes : List NodeInfo) (owner : NodeId) : Option NodeStatus :=
  (nodes.find? fun info => (info.address.elim [] NodeAddress.nodeId) == owner.bytes).map NodeInfo.status

def noHolder (message : String) : Bool := decide ("no holder registered".toList <:+: message.toList)

/-- What a `fetch_object` comes to in the state it finds. -/
def tryFetch (id : ObjectId) (owner : NodeId) (attempt : GcsBinding × Session) : Except PyError Unit :=
  (fetchObject (some attempt.1) attempt.2 id.bytes owner.bytes).1

/-- One attempt after the other, as long as no holder is registered. -/
def fetchWithRetries (id : ObjectId) (owner : NodeId) (attempt : GcsBinding × Session) :
    List (GcsBinding × Session) → Except Raised Unit
  | [] => (tryFetch id owner attempt).mapError .native
  | next :: rest =>
    match tryFetch id owner attempt with
    | .ok () => .ok ()
    | .error (.runtime message) =>
      if noHolder message then fetchWithRetries id owner next rest else .error (.native (.runtime message))
    | .error failure => .error (.native failure)

namespace Turn

def fetch (turn : Turn) (owner : NodeId) : Except Raised Unit :=
  fetchWithRetries turn.ref.objectId owner turn.attempt turn.attempts

/-- The GCS is asked once in a pass. -/
def cachedNodes (binding : GcsBinding) : Option (List NodeInfo) → Except Raised (List NodeInfo)
  | some nodes => .ok nodes
  | none => binding.listNodes.mapError fun failure => .native (.runtime ("gcs list_nodes: " ++ failure))

/-- The nodes found so far are handed on; a ref whose owner the index knows hands on
an empty list where there was none. -/
def resolveRemoteRef (turn : Turn) (binding : GcsBinding) (owner : NodeId)
    (nodesCache : Option (List NodeInfo)) : Except Raised (List NodeInfo) :=
  match turn.index.statusOf owner with
  | some status =>
    if status ≠ .alive then
      .error (.ownerDied
        ("owner of ObjectRef(" ++ turn.ref.hex ++ ") is " ++ nodeStatusStr status ++ "; cannot fetch"))
    else do
      turn.fetch owner
      return nodesCache.getD []
  | none => do
    let nodes ← cachedNodes binding nodesCache
    if ownerStatus nodes owner ≠ some .alive then
      .error (.ownerDied ("owner of ObjectRef(" ++ turn.ref.hex ++ ") is " ++
        (ownerStatus nodes owner).elim "absent from GCS" nodeStatusStr ++ "; cannot fetch"))
    else do
      turn.fetch owner
      return nodes

/-- A resubmission raises nothing. -/
def maybeResubmitLocalLineage (turn : Turn) : Except Raised Unit :=
  if turn.store.stateOf turn.ref.objectId ≠ .pending then .ok ()
  else if turn.tasks.lineageStatus turn.ref.objectId = .budgetExhausted then
    .error (.objectUnreconstructable ("object " ++ turn.ref.hex ++
      " cannot be reconstructed: task lineage exhausted retry budget"))
  else .ok ()

/-- The owner, when it is another node than this one. -/
def remoteOwner (gcs : Option GcsBinding) (turn : Turn) : Option (GcsBinding × NodeId) :=
  match gcs, turn.ref.ownerNodeId with
  | some binding, some owner => if owner ≠ binding.nodeId then some (binding, owner) else none
  | _, _ => none

end Turn

def ensureLocalForRemoteRefs (gcs : Option GcsBinding) :
    Option (List NodeInfo) → List Turn → Except Raised Unit
  | _, [] => .ok ()
  | nodesCache, turn :: rest =>
    match turn.remoteOwner gcs with
    | some (binding, owner) => do
      let nodes ← turn.resolveRemoteRef binding owner nodesCache
      ensureLocalForRemoteRefs gcs (some nodes) rest
    | none => do
      turn.maybeResubmitLocalLineage
      ensureLocalForRemoteRefs gcs nodesCache rest

section Fetching
variable {id : ObjectId} {owner : NodeId}

/-- The id is taken in plasma, or there is room for the object. -/
def Placeable (plasma : Store) (call : Call) : Prop :=
  (∃ held, plasma.objects.lookup call.id = some held) ∨ plasma.Room call

/-- What a fetch that returns has to find: the owner and a holder, the object, a place
for it in plasma, and an owner that takes note of the new replica. -/
def Served (binding : GcsBinding) (s : Session) (id : ObjectId) (owner : NodeId) : Prop :=
  ∃ ownerAddr holderAddr pulled middle metadata,
    binding.locate id owner = .ok (ownerAddr, holderAddr) ∧
    binding.pullFrom holderAddr id s = (.ok pulled, middle) ∧
    Metadata.decode pulled.metadata = .ok metadata ∧
    Placeable middle.plasma ⟨id, metadata.encode, pulled.data⟩ ∧
    binding.registerObjectAt ownerAddr id binding.nodeId = .ok ()

theorem sealPulled_ok_iff {binding : GcsBinding} {s : Session} {pulled : Transport.PulledObject} :
    (binding.sealPulled s id ownerAddr pulled).1 = .ok () ↔
      ∃ metadata, Metadata.decode pulled.metadata = .ok metadata ∧
        Placeable s.plasma ⟨id, metadata.encode, pulled.data⟩ ∧
        binding.registerObjectAt ownerAddr id binding.nodeId = .ok () := by
  simp only [GcsBinding.sealPulled]
  cases decoded : Metadata.decode pulled.metadata with
  | error failure => simp
  | ok metadata =>
    simp only [Except.ok.injEq, exists_eq_left', Session.sealValueToPlasma, Session.createAndSeal, Placeable]
    rcases s.plasma.createAndSeal_cases ⟨id, metadata.encode, pulled.data⟩ with
      ⟨held, reply⟩ | ⟨absent, ⟨message, arena, reply⟩ | ⟨room, arena, reply⟩⟩
    · simp only [reply, held, true_or, true_and]
      cases binding.registerObjectAt ownerAddr id binding.nodeId <;> simp
    · have full := Store.not_room_of_refused absent reply
      have free : s.plasma.objects.lookup id = none := absent
      simp [reply, free, full]
    · simp only [reply, room, or_true, true_and]
      cases binding.registerObjectAt ownerAddr id binding.nodeId <;> simp

theorem tryFetch_ok_iff {attempt : GcsBinding × Session} :
    tryFetch id owner attempt = .ok () ↔ Served attempt.1 attempt.2 id owner := by
  obtain ⟨binding, s⟩ := attempt
  simp only [tryFetch, fetchObject, parseObjectId28, parseNodeId16, Id.fromBytes?_bytes, GcsBinding.fetch, Served]
  cases located : binding.locate id owner with
  | error failure => simp
  | ok addrs =>
    obtain ⟨ownerAddr, holderAddr⟩ := addrs
    rcases pulls : binding.pullFrom holderAddr id s with ⟨failure | pulled, middle⟩
    · simp [pulls]
    · simp only [pulls, sealPulled_ok_iff]
      simp [pulls]

/-- An attempt is served, and those before it have found no holder registered. -/
inductive Fetchable (id : ObjectId) (owner : NodeId) :
    GcsBinding × Session → List (GcsBinding × Session) → Prop where
  | served : Served attempt.1 attempt.2 id owner → Fetchable id owner attempt later
  | retried : tryFetch id owner attempt = .error (.runtime message) → noHolder message = true →
      Fetchable id owner next rest → Fetchable id owner attempt (next :: rest)

theorem fetchWithRetries_ok_iff {attempt : GcsBinding × Session} {later : List (GcsBinding × Session)} :
    fetchWithRetries id owner attempt later = .ok () ↔ Fetchable id owner attempt later := by
  induction later generalizing attempt with
  | nil =>
    rw [fetchWithRetries]
    constructor
    · intro done
      refine .served (tryFetch_ok_iff.mp ?_)
      cases answered : tryFetch id owner attempt with
      | ok => rfl
      | error failure =>
        rw [answered] at done
        cases done
    · intro fetchable
      cases fetchable with
      | served served =>
        rw [tryFetch_ok_iff.mpr served]
        rfl
  | cons next rest ih =>
    rw [fetchWithRetries]
    constructor
    · intro done
      split at done
      · rename_i answered
        exact .served (tryFetch_ok_iff.mp answered)
      · rename_i message answered
        split at done
        · rename_i unlisted
          exact .retried answered unlisted (ih.mp done)
        · cases done
      · cases done
    · intro fetchable
      cases fetchable with
      | served served => rw [tryFetch_ok_iff.mpr served]
      | retried failed unlisted later =>
        rw [failed]
        exact (if_pos unlisted).trans (ih.mpr later)

end Fetching

namespace Turn

/-- The index has the owner alive, or it does not know it and it is listed alive. -/
def OwnerAlive (turn : Turn) (listed : Except String (List NodeInfo)) (owner : NodeId) : Prop :=
  match turn.index.statusOf owner with
  | some status => status = .alive
  | none => ∃ nodes, listed = .ok nodes ∧ ownerStatus nodes owner = some .alive

/-- A ref that its own part of the pass lets through, the nodes being listed so. -/
def Passes (gcs : Option GcsBinding) (listed : Except String (List NodeInfo)) (turn : Turn) : Prop :=
  match turn.remoteOwner gcs with
  | some (_, owner) =>
    turn.OwnerAlive listed owner ∧ Fetchable turn.ref.objectId owner turn.attempt turn.attempts
  | none => ¬ (turn.store.stateOf turn.ref.objectId = .pending ∧
      turn.tasks.lineageStatus turn.ref.objectId = .budgetExhausted)

/-- Its owner is another node, one that the index does not know. -/
def unindexed (gcs : Option GcsBinding) (turn : Turn) : Bool :=
  match turn.remoteOwner gcs with
  | some (_, owner) => (turn.index.statusOf owner).isNone
  | none => false

theorem maybeResubmitLocalLineage_ok_iff (turn : Turn) :
    turn.maybeResubmitLocalLineage = .ok () ↔ ¬ (turn.store.stateOf turn.ref.objectId = .pending ∧
      turn.tasks.lineageStatus turn.ref.objectId = .budgetExhausted) := by
  simp only [maybeResubmitLocalLineage]
  by_cases pending : turn.store.stateOf turn.ref.objectId = .pending
  · by_cases exhausted : turn.tasks.lineageStatus turn.ref.objectId = .budgetExhausted <;>
      simp [pending, exhausted]
  · simp [pending]

section Remote
variable {turn : Turn} {binding : GcsBinding} {owner : NodeId} {cache : Option (List NodeInfo)}

theorem resolveRemoteRef_indexed (known : turn.index.statusOf owner = some status) :
    turn.resolveRemoteRef binding owner cache = .ok nodes ↔
      (status = .alive ∧ Fetchable turn.ref.objectId owner turn.attempt turn.attempts) ∧
        nodes = cache.getD [] := by
  simp only [resolveRemoteRef, known]
  by_cases alive : status = .alive
  · rw [if_neg (not_not_intro alive), bind_ok_iff]
    constructor
    · rintro ⟨_, fetched, done⟩
      cases done
      exact ⟨⟨alive, fetchWithRetries_ok_iff.mp fetched⟩, rfl⟩
    · rintro ⟨⟨_, fetchable⟩, rfl⟩
      exact ⟨(), fetchWithRetries_ok_iff.mpr fetchable, rfl⟩
  · rw [if_pos alive]
    exact ⟨nofun, fun passed => absurd passed.1.1 alive⟩

theorem resolveRemoteRef_unindexed (unknown : turn.index.statusOf owner = none) :
    turn.resolveRemoteRef binding owner cache = .ok nodes ↔
      (ownerStatus nodes owner = some .alive ∧
        Fetchable turn.ref.objectId owner turn.attempt turn.attempts) ∧
        cache.elim binding.listNodes .ok = .ok nodes := by
  have asked : cachedNodes binding cache = .ok nodes ↔ cache.elim binding.listNodes .ok = .ok nodes := by
    cases cache with
    | some nodes => simp [cachedNodes]
    | none => cases answered : binding.listNodes <;> simp [cachedNodes, answered, Except.mapError]
  simp only [resolveRemoteRef, unknown, bind_ok_iff, ← asked]
  constructor
  · rintro ⟨found, answered, done⟩
    split at done
    · cases done
    · rename_i alive
      obtain ⟨_, fetched, done⟩ := bind_ok_iff.mp done
      cases done
      exact ⟨⟨not_not.mp alive, fetchWithRetries_ok_iff.mp fetched⟩, answered⟩
  · rintro ⟨⟨alive, fetchable⟩, answered⟩
    refine ⟨nodes, answered, ?_⟩
    rw [if_neg (not_not_intro alive)]
    exact bind_ok_iff.mpr ⟨(), fetchWithRetries_ok_iff.mpr fetchable, rfl⟩

end Remote

end Turn

def listed (gcs : Option GcsBinding) : Except String (List NodeInfo) :=
  gcs.elim (.ok []) GcsBinding.listNodes

/-- The first ref with a remote owner decides what list the later ones are looked up in:
an indexed owner leaves an empty one. -/
def FirstUnindexed (gcs : Option GcsBinding) (turns : List Turn) : Prop :=
  ∀ turn ∈ turns, turn.unindexed gcs = true →
    ∀ first ∈ turns.find? fun turn => (turn.remoteOwner gcs).isSome, first.unindexed gcs = true

section Pass
variable {gcs : Option GcsBinding} {turn : Turn}

/-- Where an empty list is handed on, only indexed owners get through. -/
theorem passes_nil_iff (other : Except String (List NodeInfo)) :
    turn.Passes gcs (.ok []) ↔ turn.Passes gcs other ∧ turn.unindexed gcs = false := by
  simp only [Turn.Passes, Turn.unindexed]
  split
  · rename_i owner _
    simp only [Turn.OwnerAlive]
    cases turn.index.statusOf owner with
    | some status => simp
    | none => simp [ownerStatus]
  · simp

theorem ensure_cached (nodes : List NodeInfo) (turns : List Turn) :
    ensureLocalForRemoteRefs gcs (some nodes) turns = .ok () ↔ ∀ turn ∈ turns, turn.Passes gcs (.ok nodes) := by
  induction turns with
  | nil => simp [ensureLocalForRemoteRefs]
  | cons turn rest ih =>
    rw [ensureLocalForRemoteRefs, List.forall_mem_cons, ← ih, Turn.Passes]
    cases turn.remoteOwner gcs with
    | none => simp only [bind_ok_iff, turn.maybeResubmitLocalLineage_ok_iff]; simp
    | some pair =>
      obtain ⟨binding, owner⟩ := pair
      simp only [bind_ok_iff, Turn.OwnerAlive]
      cases known : turn.index.statusOf owner with
      | some status => simp [Turn.resolveRemoteRef_indexed known]
      | none => simp [Turn.resolveRemoteRef_unindexed known]

theorem remoteOwner_gcs (remote : turn.remoteOwner gcs = some (binding, owner)) : gcs = some binding := by
  simp only [Turn.remoteOwner] at remote
  split at remote
  · split at remote <;> cases remote
    rfl
  · cases remote

theorem firstUnindexed_local (here : turn.remoteOwner gcs = none) (rest : List Turn) :
    FirstUnindexed gcs (turn :: rest) ↔ FirstUnindexed gcs rest := by
  have indexed : turn.unindexed gcs = false := by rw [Turn.unindexed, here]
  simp [FirstUnindexed, here, indexed]

theorem firstUnindexed_indexed (remote : (turn.remoteOwner gcs).isSome) (indexed : turn.unindexed gcs = false)
    (rest : List Turn) : FirstUnindexed gcs (turn :: rest) ↔ ∀ later ∈ rest, later.unindexed gcs = false := by
  simp [FirstUnindexed, remote, indexed]

theorem firstUnindexed_unindexed (remote : (turn.remoteOwner gcs).isSome) (unindexed : turn.unindexed gcs = true)
    (rest : List Turn) : FirstUnindexed gcs (turn :: rest) := by
  intro later _ _ first found
  rw [List.find?_cons, remote] at found
  cases found
  exact unindexed

/-- The whole pass: every ref is let through on its own, and no indexed owner has
emptied the list before one that is not indexed. -/
theorem ensure_ok_iff (turns : List Turn) :
    ensureLocalForRemoteRefs gcs none turns = .ok () ↔
      (∀ turn ∈ turns, turn.Passes gcs (listed gcs)) ∧ FirstUnindexed gcs turns := by
  induction turns with
  | nil => simp [ensureLocalForRemoteRefs, FirstUnindexed]
  | cons turn rest ih =>
    rw [ensureLocalForRemoteRefs, List.forall_mem_cons]
    cases remote : turn.remoteOwner gcs with
    | none =>
      have passes : turn.Passes gcs (listed gcs) ↔ turn.maybeResubmitLocalLineage = .ok () := by
        rw [turn.maybeResubmitLocalLineage_ok_iff, Turn.Passes, remote]
      rw [firstUnindexed_local remote, passes, and_assoc, ← ih, bind_ok_iff]
      exact ⟨fun ⟨_, done, later⟩ => ⟨done, later⟩, fun ⟨done, later⟩ => ⟨(), done, later⟩⟩
    | some pair =>
      obtain ⟨binding, owner⟩ := pair
      have answer : listed gcs = binding.listNodes := by rw [remoteOwner_gcs remote, listed, Option.elim_some]
      have isRemote : (turn.remoteOwner gcs).isSome := by rw [remote]; rfl
      rw [bind_ok_iff]
      cases known : turn.index.statusOf owner with
      | some status =>
        -- the ref hands on an empty list
        have indexed : turn.unindexed gcs = false := by simp only [Turn.unindexed, remote, known]; rfl
        have passes : turn.Passes gcs (listed gcs) ↔
            status = .alive ∧ Fetchable turn.ref.objectId owner turn.attempt turn.attempts := by
          simp only [Turn.Passes, remote, Turn.OwnerAlive, known]
        simp only [Turn.resolveRemoteRef_indexed known, ensure_cached, passes,
          firstUnindexed_indexed isRemote indexed, Option.getD_none]
        constructor
        · rintro ⟨_, ⟨passed, rfl⟩, later⟩
          have later := fun turn member => (passes_nil_iff (listed gcs)).mp (later turn member)
          exact ⟨⟨passed, fun turn member => (later turn member).1⟩, fun turn member => (later turn member).2⟩
        · rintro ⟨⟨passed, later⟩, indexed⟩
          refine ⟨[], ⟨passed, rfl⟩, fun turn member => ?_⟩
          exact (passes_nil_iff (listed gcs)).mpr ⟨later turn member, indexed turn member⟩
      | none =>
        have unindexed : turn.unindexed gcs = true := by simp only [Turn.unindexed, remote, known]; rfl
        have passes : turn.Passes gcs (listed gcs) ↔
            (∃ nodes, binding.listNodes = .ok nodes ∧ ownerStatus nodes owner = some .alive) ∧
              Fetchable turn.ref.objectId owner turn.attempt turn.attempts := by
          simp only [Turn.Passes, remote, Turn.OwnerAlive, known, answer]
        simp only [Turn.resolveRemoteRef_unindexed known, ensure_cached, passes, Option.elim_none,
          firstUnindexed_unindexed isRemote unindexed, and_true]
        constructor
        · rintro ⟨nodes, ⟨⟨alive, fetchable⟩, asked⟩, later⟩
          rw [answer, asked]
          exact ⟨⟨⟨nodes, rfl, alive⟩, fetchable⟩, later⟩
        · rintro ⟨⟨⟨nodes, asked, alive⟩, fetchable⟩, later⟩
          rw [answer, asked] at later
          exact ⟨nodes, ⟨⟨alive, fetchable⟩, asked⟩, later⟩

end Pass

end Rayd.Refs
