import Rayd.Lib.Transition
import Rayd.Core.Worker
import Mathlib.Logic.Function.Basic

/-! One driver, its task-worker and actor subprocesses, and the plasma server
they share, as far as object lifetimes go. Every process counts on its own:
`processes` holds each running subprocess's core worker and live references, the
driver's references are kept by whether they own a count. Other drivers appear
only through their live references and as borrowers.

Minting is modeled by the guard `Unused`: task ids do not repeat. A result is
announced the moment it is sealed, so completion frames of several results may
be recorded one by one. -/
namespace Rayd.Refs
open Memory Plasma Core Transition Function

/-- Who produces a result: any task worker, or one actor subprocess. -/
inductive Producer where
  | task
  | actor (pid : Nat)
  deriving DecidableEq

/-- A completion entry on its way to the driver. -/
structure Completion where
  producer : Producer
  id : ObjectId
  metadata : Metadata
  dataSize : Nat
  deriving DecidableEq

structure Process where
  worker : CoreWorker
  live : ObjectId → Nat

structure System where
  plasma : Store
  driver : CoreWorker
  /-- Live driver references made by `put`, a submit, a mint or `ObjectRef.__new__`. -/
  owning : ObjectId → Nat
  /-- Live driver references handed back by `state` or `wait`, without a count. -/
  handed : ObjectId → Nat
  /-- Live references in other drivers. -/
  elsewhere : ObjectId → Nat
  processes : Nat → Option Process
  calls : ObjectId → Option Producer
  completions : List Completion
  /-- The value has been recorded in the driver at some time. -/
  recorded : ObjectId → Bool
  /-- The driver itself has taken the object out of plasma. -/
  taken : ObjectId → Bool

inductive Action where
  | put (id : ObjectId) (metadata : Metadata) (data : Bytes) (cluster : Bool)
  | submitTask (id : ObjectId)
  | actorCall (pid : Nat) (id : ObjectId)
  | remoteActorCall (pid : Nat) (id : ObjectId)
  | sealResult (pid : Nat) (id : ObjectId) (metadata : Metadata) (data : Bytes)
  | recordTask (completion : Completion)
  | recordActor (completion : Completion)
  | unpickle (id : ObjectId)
  | handBack (id : ObjectId)
  | dropOwning (id : ObjectId)
  | dropHanded (id : ObjectId)
  | remoteDrop (id : ObjectId)
  | addBorrower (id : ObjectId) (worker : WorkerId)
  | removeBorrower (id : ObjectId) (worker : WorkerId)
  | spawn (pid : Nat) (jobId : JobId)
  | processUnpickle (pid : Nat) (id : ObjectId)
  | processDrop (pid : Nat) (id : ObjectId)
  | shutdown (pid : Nat)
  | crash (pid : Nat)

/-- Steps a subprocess takes, its start and its end included. -/
def Action.bySubprocess : Action → Bool
  | .sealResult .. | .spawn .. | .processUnpickle .. | .processDrop .. | .shutdown .. | .crash .. => true
  | _ => false

namespace System

def start (plasma : Store) (driver : CoreWorker) : System where
  plasma := plasma
  driver := driver
  owning := fun _ => 0
  handed := fun _ => 0
  elsewhere := fun _ => 0
  processes := fun _ => none
  calls := fun _ => none
  completions := []
  recorded := fun _ => false
  taken := fun _ => false

def session (s : System) : Session := ⟨s.driver, s.plasma⟩

def holds (s : System) (id : ObjectId) : Bool := (s.plasma.objects.lookup id).isSome

/-- The driver's index says the value is in plasma. -/
def Indexed (s : System) (id : ObjectId) : Prop :=
  ∃ index, s.driver.store.getEntry id = some (.plasma index)

/-- A reference naming the id is alive in the driver. -/
def Alive (s : System) (id : ObjectId) : Prop := 0 < s.owning id ∨ 0 < s.handed id

def Announced (s : System) (id : ObjectId) : Prop := ∃ completion ∈ s.completions, completion.id = id

/-- The id has not been used for anything yet. -/
structure Unused (s : System) (id : ObjectId) : Prop where
  owning : s.owning id = 0
  handed : s.handed id = 0
  entry : s.driver.store.getEntry id = none
  refs : s.driver.refs.snapshot id = none
  object : s.plasma.objects.lookup id = none
  calls : s.calls id = none
  announced : ¬ s.Announced id
  recorded : s.recorded id = false

/-- The driver's worker acted; what left plasma by it is the driver's doing. -/
def driverActs (s : System) (t : Session) : System :=
  { s with
    plasma := t.plasma
    driver := t.worker
    taken := fun id => s.taken id || (s.holds id && !(t.plasma.objects.lookup id).isSome) }

/-- A store by the driver; the pressure check may spill the new object at once. -/
def driverStores (s : System) (id : ObjectId) (t : Session) : System :=
  { s.driverActs t with
    taken := fun other => (s.driverActs t).taken other ||
      (decide (other = id) && !(t.plasma.objects.lookup other).isSome) }

def setProcess (s : System) (pid : Nat) (process : Option Process) : System :=
  { s with processes := update s.processes pid process }

/-- A subprocess's worker acted on the shared store. -/
def processActs (s : System) (pid : Nat) (live : ObjectId → Nat) (t : Session) : System :=
  { s.setProcess pid (some ⟨t.worker, live⟩) with plasma := t.plasma }

/-- A fresh counting reference in the driver. -/
def mint (s : System) (id : ObjectId) : System :=
  { s with owning := update s.owning id (s.owning id + 1) }

def expect (s : System) (id : ObjectId) (producer : Producer) : System :=
  { s with calls := update s.calls id (some producer) }

/-- `put`: with a cluster attached the value always goes to plasma. -/
def putResult (s : System) (id : ObjectId) (metadata : Metadata) (data : Bytes) (cluster : Bool) :
    Bool × Session :=
  if cluster then
    let (reply, t) := s.session.sealValueToPlasma id metadata data
    (reply.isOk, t)
  else
    let (reply, t) := s.session.sealValue id metadata data
    (reply.isOk, t)

theorem putResult_stored (s : System) {id : ObjectId}
    (done : s.putResult id metadata data cluster = (true, t)) : Session.Stored s.session id t := by
  cases cluster with
  | true =>
    simp only [putResult, if_true, Prod.mk.injEq] at done
    obtain ⟨accepted, rfl⟩ := done
    rcases s.session.sealValueToPlasma_stored id metadata data with ⟨_, stored⟩ | ⟨⟨failure, failed⟩, _⟩
    · exact stored
    · rw [failed] at accepted
      cases accepted
  | false =>
    simp only [putResult, Bool.false_eq_true, if_false, Prod.mk.injEq] at done
    obtain ⟨accepted, rfl⟩ := done
    rcases s.session.sealValue_stored id metadata data with ⟨_, stored⟩ | ⟨⟨failure, failed⟩, _⟩
    · exact stored
    · rw [failed] at accepted
      cases accepted

theorem putResult_untouched (s : System) {id : ObjectId}
    (failed : s.putResult id metadata data cluster = (false, t)) : Session.Untouched s.session t := by
  cases cluster with
  | true =>
    simp only [putResult, if_true, Prod.mk.injEq] at failed
    obtain ⟨refused, rfl⟩ := failed
    rcases s.session.sealValueToPlasma_stored id metadata data with ⟨⟨size, done⟩, _⟩ | ⟨_, same⟩
    · rw [done] at refused
      cases refused
    · exact same
  | false =>
    simp only [putResult, Bool.false_eq_true, if_false, Prod.mk.injEq] at failed
    obtain ⟨refused, rfl⟩ := failed
    rcases s.session.sealValue_stored id metadata data with ⟨done, _⟩ | ⟨_, same⟩
    · rw [done] at refused
      cases refused
    · exact same

/-- The value is in the driver: its index entry was written. -/
def record (s : System) (id : ObjectId) : System :=
  { s with recorded := update s.recorded id true }

def consume (s : System) (completion : Completion) : System :=
  { s with completions := s.completions.erase completion }

end System

/-- A task runs on any worker, an actor call in its own process. -/
def Producer.Allows (pid : Nat) : Producer → Prop
  | .task => True
  | .actor owner => owner = pid

inductive Step (s : System) : Action → System → Prop where
  | put : s.Unused object → s.putResult object metadata data cluster = (true, t) →
      Step s (.put object metadata data cluster) (((s.driverStores object t).mint object).record object)
  | putFailed : s.Unused object → s.putResult object metadata data cluster = (false, t) →
      Step s (.put object metadata data cluster) (s.driverActs t)
  | submitTask : s.Unused object → Step s (.submitTask object) ((s.mint object).expect object .task)
  | actorCall : s.Unused object → Step s (.actorCall pid object) ((s.mint object).expect object (.actor pid))
  /-- The call comes from another driver, which minted the object and holds the reference. -/
  | remoteActorCall : s.Unused object →
      Step s (.remoteActorCall pid object)
        ({ s with elsewhere := update s.elsewhere object (s.elsewhere object + 1) }.expect object
          (.actor pid))
  | sealResult : s.processes pid = some process → s.calls object = some producer → producer.Allows pid →
      Session.sealValueToPlasma ⟨process.worker, s.plasma⟩ object metadata data = (.ok size, t) →
      Step s (.sealResult pid object metadata data)
        { s.processActs pid process.live t with
          calls := update s.calls object none
          completions := s.completions ++ [⟨producer, object, metadata, size⟩] }
  /-- `handle_completion`: index entry only. -/
  | recordTask : completion ∈ s.completions → completion.producer = .task →
      Step s (.recordTask completion)
        (((s.driverActs (s.session.putPlasma completion.id
          ⟨completion.metadata, completion.dataSize⟩)).consume completion).record completion.id)
  /-- `_record_plasma_seal`: index entry and one count, also for a remote caller. -/
  | recordActor : completion ∈ s.completions → completion.producer ≠ .task →
      Step s (.recordActor completion)
        (((s.driverActs ((s.session.putPlasma completion.id
          ⟨completion.metadata, completion.dataSize⟩).addOwned completion.id)).consume
          completion).record completion.id)
  | unpickle : Step s (.unpickle object) (s.mint object)
  | handBack : s.Alive object →
      Step s (.handBack object) { s with handed := update s.handed object (s.handed object + 1) }
  | dropOwning : 0 < s.owning object →
      Step s (.dropOwning object)
        { s.driverActs (s.session.decLocalRef object) with
          owning := update s.owning object (s.owning object - 1) }
  | dropHanded : 0 < s.handed object →
      Step s (.dropHanded object) { s with handed := update s.handed object (s.handed object - 1) }
  | remoteDrop : 0 < s.elsewhere object →
      Step s (.remoteDrop object)
        { s with elsewhere := update s.elsewhere object (s.elsewhere object - 1) }
  | addBorrower :
      Step s (.addBorrower object worker) (s.driverActs (s.session.addBorrowerPin object worker))
  | removeBorrower :
      Step s (.removeBorrower object worker) (s.driverActs (s.session.removeBorrowerPin object worker))
  /-- A subprocess has no recoverer, and no walk of it spills anything. -/
  | spawn : s.processes pid = none →
      Step s (.spawn pid jobId)
        (s.setProcess pid (some ⟨.start .newest jobId none (2 ^ 64 - 1), fun _ => 0⟩))
  | processUnpickle : s.processes pid = some process →
      Step s (.processUnpickle pid object)
        (s.setProcess pid
          (some { process with live := update process.live object (process.live object + 1) }))
  | processDrop : s.processes pid = some process → 0 < process.live object →
      Step s (.processDrop pid object)
        (s.processActs pid (update process.live object (process.live object - 1))
          (Session.decLocalRef ⟨process.worker, s.plasma⟩ object))
  /-- A normal exit: `rayd.shutdown()` in the subprocess. -/
  | shutdown : s.processes pid = some process →
      Step s (.shutdown pid)
        ({ s with plasma := (Session.freeAllLocal ⟨process.worker, s.plasma⟩).plasma }.setProcess
          pid none)
  | crash : s.processes pid = some process →
      Step s (.crash pid) (s.setProcess pid none)

section Owed
variable {id other : ObjectId}

/-- Every result is owed at most once: as a call or as one frame in flight. -/
structure OwedOnce (s : System) : Prop where
  distinct : (s.completions.map Completion.id).Nodup
  apart : ∀ id, s.calls id ≠ none → ¬ s.Announced id

def Owed (s : System) (id : ObjectId) : Prop := s.calls id ≠ none ∨ s.Announced id

theorem not_owed (unused : s.Unused id) : ¬ Owed s id := by
  rintro (called | announced)
  · exact called unused.calls
  · exact unused.announced announced

theorem OwedOnce.expect (before : OwedOnce s) (unused : s.Unused id) (producer : Producer)
    (calls : t.calls = update s.calls id (some producer))
    (completions : t.completions = s.completions) : OwedOnce t := by
  constructor
  · rw [completions]
    exact before.distinct
  · intro other called
    simp only [System.Announced, completions]
    by_cases same : other = id
    · subst other
      exact unused.announced
    · rw [calls, update_of_ne same] at called
      exact before.apart other called

theorem OwedOnce.announce (before : OwedOnce s) (completion : Completion)
    (called : s.calls completion.id ≠ none)
    (calls : t.calls = update s.calls completion.id none)
    (completions : t.completions = s.completions ++ [completion]) : OwedOnce t := by
  constructor
  · rw [completions, List.map_append, List.map_singleton]
    refine List.nodup_append.mpr ⟨before.distinct, List.nodup_singleton _, ?_⟩
    rintro a member b new rfl
    rw [List.mem_singleton.mp new] at member
    obtain ⟨old, found, same⟩ := List.mem_map.mp member
    exact before.apart completion.id called ⟨old, found, same⟩
  · rintro other still ⟨found, member, same⟩
    rw [calls] at still
    by_cases here : other = completion.id
    · simp [here] at still
    · rw [update_of_ne here] at still
      rw [completions] at member
      rcases List.mem_append.mp member with old | new
      · exact before.apart other still ⟨found, old, same⟩
      · rw [List.mem_singleton.mp new] at same
        exact here same.symm

theorem consumed_announced (once : OwedOnce s) (member : completion ∈ s.completions)
    (announced : (s.consume completion).Announced id) : s.Announced id ∧ id ≠ completion.id := by
  obtain ⟨other, found, same⟩ := announced
  refine ⟨⟨other, List.mem_of_mem_erase found, same⟩, ?_⟩
  rintro rfl
  have nodup := once.distinct
  rw [(List.perm_cons_erase member).map Completion.id |>.nodup_iff, List.map_cons,
    List.nodup_cons] at nodup
  exact nodup.1 (List.mem_map.mpr ⟨other, found, same⟩)

theorem OwedOnce.consume (before : OwedOnce s) (calls : t.calls = s.calls)
    (completions : t.completions = s.completions.erase completion) : OwedOnce t := by
  constructor
  · rw [completions]
    exact before.distinct.sublist ((List.erase_sublist).map _)
  · rintro other called ⟨found, kept, same⟩
    rw [calls] at called
    rw [completions] at kept
    exact before.apart other called ⟨found, List.mem_of_mem_erase kept, same⟩

theorem owed_expect (producer : Producer) (due : Owed t other)
    (calls : t.calls = update s.calls id (some producer))
    (completions : t.completions = s.completions) : other = id ∨ Owed s other := by
  by_cases same : other = id
  · exact .inl same
  · right
    simpa only [Owed, System.Announced, calls, completions, update_of_ne same] using due

theorem owed_announce (completion : Completion) (called : s.calls completion.id ≠ none)
    (due : Owed t other) (calls : t.calls = update s.calls completion.id none)
    (completions : t.completions = s.completions ++ [completion]) : Owed s other := by
  rcases due with still | ⟨found, member, same⟩
  · refine .inl fun gone => still ?_
    rw [calls, update_apply]
    split
    · rfl
    · exact gone
  · rw [completions] at member
    rcases List.mem_append.mp member with old | new
    · exact .inr ⟨found, old, same⟩
    · rw [List.mem_singleton.mp new] at same
      exact .inl (same ▸ called)

theorem consumed_owed (once : OwedOnce s) (member : completion ∈ s.completions) (due : Owed t id)
    (calls : t.calls = s.calls) (completions : t.completions = s.completions.erase completion) :
    Owed s id ∧ id ≠ completion.id := by
  rcases due with called | announced
  · rw [calls] at called
    refine ⟨.inl called, ?_⟩
    rintro rfl
    exact once.apart _ called ⟨completion, member, rfl⟩
  · simp only [System.Announced, completions] at announced
    have kept := consumed_announced (s := s) once member announced
    exact ⟨.inr kept.1, kept.2⟩

end Owed

section Samples

def sampleStore : Store := ⟨.onePage, ∅⟩
def sampleDriver : CoreWorker := .start .newest (.nil 16) none (2 ^ 64 - 1)
def sampleId : ObjectId := .nil 28

end Samples
end Rayd.Refs
