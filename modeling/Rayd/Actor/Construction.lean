import Mathlib.Data.Finset.Insert
import Rayd.Actor.Subprocess
import Rayd.Gcs.Actors

/-! The constructor of an actor's driver side. It enters the new id into the driver's
registry, has the GCS bind the name if there is one, makes ready and starts the
subprocess. Only the last part is inside the `try`, and its rollback gives the name and
the entry back but does not look at the process. Requests of other drivers to the GCS in
between are left out, and so are interrupts between two statements. -/
namespace Rayd.Actor.Construction
open Memory Gcs.Actors

/-- How a call to the GCS goes: it does not get there, it is answered, or its answer is
lost on the way back. -/
inductive Rpc where
  | unsent | answered | replyLost
  deriving DecidableEq

/-- Whether the call returns, and the service after it. -/
def Rpc.call (rpc : Rpc) (gcs : ActorRegistryService)
    (handle : ActorRegistryService → Except Status Answer × ActorRegistryService) :
    Bool × ActorRegistryService :=
  match rpc with
  | .unsent => (false, gcs)
  | .answered => ((handle gcs).1.isOk, (handle gcs).2)
  | .replyLost => (false, (handle gcs).2)

/-- Where `_spawn_subprocess` raises. Waiting for the connection can time out or fail;
the greeting can be missing or wrong; `actor_spawn` is pickled and sent. -/
inductive Stage where
  | listener
  | plasmaSocketPath
  | popen
  | accept (timeout : Bool)
  | greeting
  | actorSpawn
  | readerThread
  deriving DecidableEq

inductive Child where
  | unstarted | running | ended
  deriving DecidableEq

namespace Stage

def started : Stage → Bool
  | .listener | .plasmaSocketPath | .popen => false
  | .accept _ | .greeting | .actorSpawn | .readerThread => true

/-- The process when the exception reaches the caller: after a timeout it has been killed
and waited for, otherwise it is left to itself. -/
def child (exits : Bool) : Stage → Child
  | .listener | .plasmaSocketPath | .popen => .unstarted
  | .accept true => .ended
  | .accept false | .greeting | .actorSpawn | .readerThread => if exits then .ended else .running

end Stage

/-- What the constructor finds. `prepared` stands for all between the name and the
`try`: the temporary directory, the imports and registering the class's module. `exits`
says that the process has ended by itself when nobody has stopped it. -/
structure Circumstances where
  address : Option (String × Nat)
  ownerNodeId : Bytes
  ownerPid : Nat
  nowMs : Nat
  register : Rpc
  prepared : Bool
  spawn : Option Stage
  exits : Bool
  unregister : Rpc

/-- The driver's registry, the GCS and the process of this constructor. -/
structure Site where
  registry : Finset ActorId
  gcs : ActorRegistryService
  child : Child

inductive Failure where
  | name
  | preparation
  | spawn (stage : Stage)
  deriving DecidableEq

section Init
variable (printable : Char → Bool) (maxRestarts : Int) (name : Option String) (id : ActorId)
  (found : Circumstances) (site : Site)

/-- A driver without a listener advertises no address. -/
def request (given : String) : RegisterActorRequest :=
  let (host, port) := found.address.getD ("", 0)
  ⟨given, id.bytes, found.ownerNodeId, found.ownerPid, host, port⟩

def reserve (gcs : ActorRegistryService) : Bool × ActorRegistryService :=
  match name with
  | none => (true, gcs)
  | some given => found.register.call gcs fun gcs =>
      gcs.registerActor printable (request id found given) found.nowMs

/-- Exceptions of the rollback's own call are suppressed. -/
def release (gcs : ActorRegistryService) : ActorRegistryService :=
  match name with
  | none => gcs
  | some given => (found.unregister.call gcs fun gcs => gcs.unregisterActor given id.bytes).2

/-- The object before its first subprocess. -/
def unspawned : ActorSubprocess := ⟨maxRestarts, 0, false, false, [], List.nodup_nil, 0, 0, true, name⟩

/-- `__init__`. -/
def init : Except Failure ActorSubprocess × Site :=
  let registry := insert id site.registry
  match reserve printable name id found site.gcs with
  | (false, gcs) => (.error .name, { site with registry, gcs })
  | (true, gcs) =>
    if found.prepared then
      match found.spawn with
      | none =>
        (.ok ((unspawned maxRestarts name).spawnSubprocess .ready).2, { registry, gcs, child := .running })
      | some stage =>
        (.error (.spawn stage),
          { registry := registry.erase id
            gcs := release name id found gcs
            child := stage.child found.exits })
    else (.error .preparation, { site with registry, gcs })

end Init

/-- Nothing is left of the actor: no entry, no name, no process. -/
structure Traceless (name : Option String) (id : ActorId) (site : Site) : Prop where
  unlisted : id ∉ site.registry
  unbound : ∀ given ∈ name, site.gcs.bound given ≠ some id
  stopped : site.child ≠ .running

section Names
variable {printable : Char → Bool} {name : Option String} {id : ActorId} {found : Circumstances}
  {gcs after : ActorRegistryService}

/-- A registration that is answered well has bound the name to the actor. -/
theorem registerActor_binds (given : String)
    (handled : gcs.registerActor printable (request id found given) nowMs = (.ok answer, after)) :
    after.bound given = some id := by
  have effect := registerActor_effect gcs _ handled
  have written : writes given (.registerActor (request id found given), .ok answer) = some (some id) := by
    simp [writes, request, Id.fromBytes?_bytes]
  cases effect with
  | kept same =>
    have same := same given
    rw [written, Option.getD_some] at same
    exact same.symm
  | @bound other info nonempty absent named writing =>
    have wrote := writing given
    rw [written] at wrote
    split at wrote
    · rename_i here
      subst here
      rw [ActorRegistryService.bound, FiniteMap.lookup_insert, if_pos rfl, Option.map_some]
      exact (Option.some.inj wrote).symm
    · cases wrote
  | unbound present writing =>
    have wrote := writing given
    rw [written] at wrote
    split at wrote <;> cases wrote

theorem reserve_binds (reserved : reserve printable name id found gcs = (true, after)) :
    ∀ given ∈ name, after.bound given = some id := by
  intro given member
  cases member
  simp only [reserve] at reserved
  cases sent : found.register with
  | unsent =>
    rw [sent] at reserved
    cases reserved
  | replyLost =>
    rw [sent] at reserved
    cases reserved
  | answered =>
    rw [sent] at reserved
    rcases handled : gcs.registerActor printable (request id found given) found.nowMs with ⟨result, later⟩
    simp only [Rpc.call, handled] at reserved
    cases result with
    | error status => cases reserved
    | ok answer =>
      cases reserved
      exact registerActor_binds given handled

theorem unregisterActor_frees {given : String} (held : gcs.bound given = some id) :
    (gcs.unregisterActor given id.bytes).2.bound given = none := by
  obtain ⟨info, listed, same⟩ := Option.map_eq_some_iff.mp held
  simp only [ActorRegistryService.unregisterActor, parseId_bytes, listed, same, if_true]
  rw [ActorRegistryService.bound, FiniteMap.lookup_erase, if_pos rfl, Option.map_none]

/-- The rollback gives a name back exactly when its call gets to the GCS. -/
theorem release_unbound_iff (held : ∀ given ∈ name, gcs.bound given = some id) :
    (∀ given ∈ name, (release name id found gcs).bound given ≠ some id) ↔
      (name ≠ none → found.unregister ≠ .unsent) := by
  cases name with
  | none => simp
  | some given =>
    have bound := held given rfl
    have freed := unregisterActor_frees bound
    simp only [Option.mem_some_iff, forall_eq', release]
    cases found.unregister with
    | unsent => simp [Rpc.call, bound]
    | answered => simp [Rpc.call, freed]
    | replyLost => simp [Rpc.call, freed]

end Names

theorem Stage.child_running_iff (stage : Stage) (exits : Bool) :
    stage.child exits ≠ .running ↔ (stage.started = true → stage = .accept true ∨ exits = true) := by
  cases exits with
  | true =>
    cases stage with
    | accept timeout => cases timeout <;> simp [child]
    | _ => simp [child]
  | false =>
    cases stage with
    | accept timeout => cases timeout <;> simp [child, started]
    | _ => simp [child, started]

section Results
variable {printable : Char → Bool} {maxRestarts : Int} {name : Option String} {id : ActorId}
  {found : Circumstances} {site : Site}

/-- A construction that fails leaves nothing behind exactly when it is the start of the
subprocess that fails, with no process running by then, and the rollback's call gets
to the GCS if there is a name. -/
theorem failed_construction_traceless_iff
    (failed : (init printable maxRestarts name id found site).1 = .error problem) :
    Traceless name id (init printable maxRestarts name id found site).2 ↔
      ∃ stage, problem = .spawn stage ∧
        (stage.started = true → stage = .accept true ∨ found.exits = true) ∧
        (name ≠ none → found.unregister ≠ .unsent) := by
  have listed {gcs : ActorRegistryService} {child : Child} :
      ¬ Traceless name id ⟨insert id site.registry, gcs, child⟩ :=
    fun traceless => traceless.unlisted (Finset.mem_insert_self id _)
  simp only [init] at failed ⊢
  rcases reserved : reserve printable name id found site.gcs with ⟨registered, gcs⟩
  rw [reserved] at failed
  cases registered with
  | false =>
    cases failed
    apply iff_of_false listed
    rintro ⟨stage, other, _⟩
    cases other
  | true =>
    by_cases prepared : found.prepared = true
    · simp only [if_pos prepared] at failed ⊢
      cases spawned : found.spawn with
      | none =>
        rw [spawned] at failed
        cases failed
      | some stage =>
        rw [spawned] at failed
        cases failed
        rw [← release_unbound_iff (reserve_binds reserved)]
        constructor
        · intro traceless
          exact ⟨stage, rfl, (stage.child_running_iff _).mp traceless.stopped, traceless.unbound⟩
        · rintro ⟨other, same, stopped, unbound⟩
          cases same
          exact ⟨Finset.notMem_erase id _, unbound, (stage.child_running_iff _).mpr stopped⟩
    · simp only [if_neg prepared] at failed ⊢
      cases failed
      apply iff_of_false listed
      rintro ⟨stage, other, _⟩
      cases other

end Results

section Samples

def newId : ActorId := .nil 16

def emptySite : Site := ⟨∅, .new false, .unstarted⟩

/-- The GCS answers every call, and the start of the subprocess fails at a stage if one is given. -/
def answering (prepared : Bool) (spawn : Option Stage) : Circumstances :=
  ⟨none, [], 0, 0, .answered, prepared, spawn, false, .answered⟩

/-- Somebody else has the name. -/
def takenSite : Site :=
  ⟨∅, ((ActorRegistryService.new false).registerActor (fun _ => true) counterRequest 0).2, .unstarted⟩

end Samples

/-- A timeout of the handshake is rolled back. -/
theorem timeout_traceless :
    Traceless (some "counter") newId
      (init (fun _ => true) 0 (some "counter") newId (answering true (some (.accept true))) emptySite).2 :=
  (failed_construction_traceless_iff rfl).mpr ⟨.accept true, rfl, fun _ => .inl rfl, fun _ sent => by cases sent⟩

/-- A name that is refused leaves the registry entry, a temporary directory that cannot be
made leaves the entry and the name, and a wrong greeting leaves the process. -/
theorem failed_constructor_leaves_traces :
    (∃ site, init (fun _ => true) 0 (some "counter") newId (answering true none) takenSite =
      (.error .name, site) ∧ newId ∈ site.registry) ∧
    (∃ site, init (fun _ => true) 0 (some "counter") newId (answering false none) emptySite =
      (.error .preparation, site) ∧ newId ∈ site.registry ∧ site.gcs.bound "counter" = some newId) ∧
    (∃ site, init (fun _ => true) 0 none newId (answering true (some .greeting)) emptySite =
      (.error (.spawn .greeting), site) ∧ site.child = .running) := by
  refine ⟨⟨_, rfl, ?_⟩, ⟨_, rfl, ?_, rfl⟩, ⟨_, rfl, rfl⟩⟩
  · exact Finset.mem_insert_self newId _
  · exact Finset.mem_insert_self newId _

end Rayd.Actor.Construction
