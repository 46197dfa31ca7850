import Rayd.Refs.Lifecycle

/-! The end of a session whose plasma server lives on. `uninstall` takes the session
away from the driver's calls, frees what the driver's counter has, and only then has the
dispatcher drain its queue and wait for its workers. Each process deletes what its own
counter has, at its own shutdown: an object stays if nobody is left that counts it.
Each call of the driver runs alone, and so does the user's code in a subprocess. -/
namespace Rayd.Refs.Shutdown
open Memory Plasma Core Transition Function

inductive Stage where
  | running
  /-- The session is taken: calls of the driver find none. -/
  | taken
  | freed
  | returned
  deriving DecidableEq, Repr

structure State where
  system : System
  stage : Stage

inductive Event where
  | act (action : Action)
  /-- A `put` in a task or an actor method, in the subprocess's own session. -/
  | processPut (pid : Nat) (id : ObjectId) (metadata : Metadata) (data : Bytes)
  | sealActorDied (id : ObjectId) (metadata : Metadata) (data : Bytes)
  | spill (id : ObjectId)
  | resolve (id : ObjectId)
  | take
  | freeAllLocal
  | returned

/-- What goes on when the driver has no session any more: the subprocesses, the threads
of the dispatcher and of the raylet, and other drivers. -/
def background : Action → Bool
  | .sealResult .. | .processUnpickle .. | .processDrop .. | .shutdown .. | .crash .. | .recordTask ..
  | .addBorrower .. | .removeBorrower .. | .remoteDrop .. => true
  | _ => false

/-- The dispatcher waits for its own children, not for the actors' processes. -/
inductive Step (children : Nat → Bool) (s : State) : Event → State → Prop where
  | act : Refs.Step s.system action t → s.stage = .running ∨ background action = true →
      Step children s (.act action) ⟨t, s.stage⟩
  | processPut : s.system.processes pid = some process →
      Session.sealValue ⟨process.worker, s.system.plasma⟩ object metadata data = (.ok (), t) →
      Step children s (.processPut pid object metadata data)
        ⟨s.system.processActs pid (update process.live object (process.live object + 1)) t, s.stage⟩
  | sealActorDied : s.stage = .running →
      s.system.session.sealValueToPlasma object metadata data = (.ok size, t) →
      Step children s (.sealActorDied object metadata data) ⟨s.system.driverStores object t, s.stage⟩
  | spill : s.stage = .running →
      Step children s (.spill object) ⟨s.system.driverActs (s.system.session.spillToRecoverer object).2, s.stage⟩
  | resolve : s.stage = .running →
      Step children s (.resolve object) ⟨s.system.driverActs (s.system.session.resolveNow object).2, s.stage⟩
  | take : s.stage = .running → Step children s .take ⟨s.system, .taken⟩
  | freeAllLocal : s.stage = .taken →
      Step children s .freeAllLocal ⟨s.system.driverActs s.system.session.freeAllLocal, .freed⟩
  | returned : s.stage = .freed → (∀ pid, children pid = true → s.system.processes pid = none) →
      Step children s .returned ⟨s.system, .returned⟩

/-- The object an event seals in plasma, or tries to. -/
def Event.seals : Event → Option ObjectId
  | .act (.put id ..) | .act (.sealResult _ id ..) | .processPut _ id .. | .sealActorDied id .. => some id
  | _ => none

/-- The driver has the id in its counter and has yet to free what is in there. -/
def Counted (s : State) (id : ObjectId) : Prop :=
  (s.stage = .running ∨ s.stage = .taken) ∧ s.system.driver.refs.snapshot id ≠ none

/-- Somebody will delete the object in the end. -/
def Tracked (s : State) (id : ObjectId) : Prop :=
  Counted s id ∨ ∃ pid process, s.system.processes pid = some process ∧ process.worker.refs.snapshot id ≠ none

/-- The resolve brings a spilled object back into plasma. -/
def Restores (s : State) (id : ObjectId) : Prop :=
  s.system.plasma.objects.lookup id = none ∧
    (s.system.session.resolveNow id).2.plasma.objects.lookup id ≠ none

/-- A subprocess dies abruptly only when the driver counts all its objects still in
plasma; nothing is restored that nobody counts; and when the shutdown returns the
actors' processes have ended, too. -/
def Orderly (s : State) : Event → Prop
  | .act (.crash pid) => ∀ process id, s.system.processes pid = some process →
      process.worker.refs.snapshot id ≠ none → s.system.plasma.objects.lookup id ≠ none → Counted s id
  | .resolve id => Restores s id → Tracked s id
  | .returned => ∀ pid, s.system.processes pid = none
  | _ => True

section Keeping
variable {id : ObjectId}

/-- A session's step brings no such object into plasma, and takes it out with the
entry if it takes the entry away. -/
structure Keeps (id : ObjectId) (s t : Session) : Prop where
  gains : t.plasma.objects.lookup id ≠ none → s.plasma.objects.lookup id ≠ none
  counted : s.worker.refs.snapshot id ≠ none →
    t.worker.refs.snapshot id ≠ none ∨ t.plasma.objects.lookup id = none

end Keeping

section Covering
variable {id : ObjectId} {s t : State}

theorem ended_step (orderly : Orderly s event) (step : Step children s event t)
    (before : s.stage = .returned → ∀ pid, s.system.processes pid = none) (returned : t.stage = .returned) :
    ∀ pid, t.system.processes pid = none := by
  cases step with
  | act step stage =>
    have ended := before returned
    have background := stage.resolve_left fun running => nomatch running.symm.trans returned
    cases step with
    | sealResult found | processUnpickle found | processDrop found | shutdown found | crash found =>
      cases (ended _).symm.trans found
    | recordTask | addBorrower | removeBorrower | remoteDrop => exact ended
    | _ => cases background
  | processPut found => cases (before returned _).symm.trans found
  | sealActorDied running | spill running | resolve running => cases running.symm.trans returned
  | take | freeAllLocal => cases returned
  | returned => exact orderly

def start (walk : Walk) (plasma : Store) (jobId : JobId) (recoverer : Option Spill.LocalObjectManager)
    (threshold : Nat) : State :=
  ⟨.start plasma (.start walk jobId recoverer threshold), .running⟩

end Covering

section Samples

def sampleStart : State := start .newest sampleStore (.nil 16) none (2 ^ 64 - 1)

def sampleTask : Completion := ⟨.task, sampleId, .pickle5 false, 3⟩

end Samples

end Rayd.Refs.Shutdown
