import Rayd.Lib.Transition
import Rayd.Actor.Subprocess
import Mathlib.Logic.Function.Basic

/-! One actor with its callers, its reader, one `terminate` and the subprocess on
the other end of the socket. Acceptance and sending take different locks, so they
are different steps. A restart replaces the link; what belonged to the old socket
can only fail after that. A write succeeds while the other end is open, and the
bytes a closed end has written are read before its end of file. -/
namespace Rayd.Actor
open Memory Core Plasma Tasks Transition

inductive Frame where
  | call (id : ObjectId)
  | shutdown
  deriving DecidableEq

/-- An `actor_call_complete` frame. -/
structure Completion where
  id : ObjectId
  metadata : Metadata
  dataSize : Nat

/-- The main loop of the subprocess. -/
inductive ProcessPhase where
  | ready
  | executing (id : ObjectId)
  /-- The result is in plasma, the frame not yet sent. -/
  | answering (completion : Completion)
  | exited

inductive ReaderPhase where
  | reading
  /-- Taken out of the in-flight set, not yet recorded. -/
  | recording (completion : Completion)
  /-- About to enter `_on_socket_closed`. -/
  | closing
  | exited

/-- The current socket with the threads at both ends. -/
structure Link where
  inbox : List Frame
  outbox : List Completion
  process : ProcessPhase
  worker : CoreWorker
  reader : ReaderPhase
  /-- The shutdown frame has been sent. -/
  told : Bool
  shutWrite : Bool
  closed : Bool

def Link.fresh (jobId : JobId) : Link :=
  ⟨[], [], .ready, .start .newest jobId none (2 ^ 64 - 1), .reading, false, false, false⟩

/-- A call of `dispatch_call_with_oid`. -/
inductive CallPhase where
  | accepted (sock : Nat)
  | returned
  | raised

inductive TerminatePhase where
  | idle | marked | told | shut | joined | waited | returned
  deriving DecidableEq

structure System where
  actor : ActorSubprocess
  link : Link
  driver : CoreWorker
  plasma : Store
  calls : ObjectId → Option CallPhase
  terminate : TerminatePhase

namespace System

def start (maxRestarts : Int) (name : Option String) (jobId : JobId) (driver : CoreWorker)
    (plasma : Store) : System :=
  ⟨.start maxRestarts name, .fresh jobId, driver, plasma, fun _ => none, .idle⟩

def session (s : System) : Session := ⟨s.driver, s.plasma⟩

def setCall (s : System) (id : ObjectId) (phase : CallPhase) : System :=
  { s with calls := Function.update s.calls id (some phase) }

def addInFlight (s : System) (id : ObjectId) (new : id ∉ s.actor.inFlight) : System :=
  { s with actor := { s.actor with
      inFlight := id :: s.actor.inFlight
      inFlight_nodup := List.nodup_cons.mpr ⟨new, s.actor.inFlight_nodup⟩ } }

def discardInFlight (s : System) (id : ObjectId) : System :=
  { s with actor := { s.actor with
      inFlight := s.actor.inFlight.erase id
      inFlight_nodup := s.actor.inFlight_nodup.erase id } }

/-- `_record_plasma_seal`. -/
def record (s : System) (completion : Completion) : System :=
  { s with driver := ((s.session.putPlasma completion.id
      ⟨completion.metadata, completion.dataSize⟩).addOwned completion.id).worker }

/-- The subprocess ends; unless it is killed it frees what it has sealed. -/
def exitProcess (s : System) (cleanup : Bool) : System :=
  { s with
    link := { s.link with process := .exited }
    plasma := if cleanup then (Session.freeAllLocal ⟨s.link.worker, s.plasma⟩).plasma else s.plasma }

/-- After `_on_socket_closed`: a new link if there is a new subprocess, else the
reader is gone and the socket closed. -/
def afterClose (s : System) (actor : ActorSubprocess) (t : Session) (jobId : JobId) : System :=
  { s with
    actor := actor
    driver := t.worker
    plasma := t.plasma
    link := if actor.sock ≠ s.actor.sock ∧ actor.dead = false then .fresh jobId
      else { s.link with reader := .exited, closed := true } }

end System

inductive Action where
  | dispatch (id : ObjectId)
  | send (id : ObjectId)
  | sendFailed (id : ObjectId)
  | take
  | sealResult (metadata : Metadata) (data : Bytes)
  | answer
  | stop
  | crash (cleanup : Bool)
  | read
  | record
  | endOfFile
  | readError
  | socketClosed (payload : Bytes) (handshake : Handshake) (jobId : JobId)
  | mark
  | tell
  | tellFailed
  | shutWrite
  | join
  | joinTimeout
  | wait
  | kill
  | close

inductive Step (s : System) : Action → System → Prop where
  /-- Under the state lock. Result ids are minted, so they have no entry yet. -/
  | accept : s.calls object = none → s.driver.store.getEntry object = none →
      s.actor.terminated = false → s.actor.dead = false → (new : object ∉ s.actor.inFlight) →
      Step s (.dispatch object) ((s.addInFlight object new).setCall object (.accepted s.actor.sock))
  | refuse : s.calls object = none → s.actor.terminated = true ∨ s.actor.dead = true →
      Step s (.dispatch object) (s.setCall object .raised)
  /-- Under the send lock, on the socket read at acceptance. -/
  | send : s.calls object = some (.accepted s.actor.sock) → s.link.process ≠ .exited →
      s.link.shutWrite = false → s.link.closed = false →
      Step s (.send object)
        ({ s with link := { s.link with inbox := s.link.inbox ++ [Frame.call object] } }.setCall
          object .returned)
  | sendFailed : s.calls object = some (.accepted sock) →
      Step s (.sendFailed object) (s.setCall object .raised)
  | take : s.link.process = .ready → s.link.inbox = Frame.call object :: rest →
      Step s .take { s with link := { s.link with process := .executing object, inbox := rest } }
  | sealResult : s.link.process = .executing object →
      Session.sealValueToPlasma ⟨s.link.worker, s.plasma⟩ object metadata data = (.ok size, t) →
      Step s (.sealResult metadata data)
        { s with
          plasma := t.plasma
          link := { s.link with process := .answering ⟨object, metadata, size⟩, worker := t.worker } }
  | answer : s.link.process = .answering completion → s.link.closed = false →
      Step s .answer
        { s with link := { s.link with process := .ready, outbox := s.link.outbox ++ [completion] } }
  /-- `actor_shutdown`, or the end of the inbox. -/
  | stop : s.link.process = .ready → s.link.inbox = .shutdown :: rest →
      Step s .stop (s.exitProcess true)
  | stopAtEnd : s.link.process = .ready → s.link.inbox = [] →
      s.link.shutWrite = true ∨ s.link.closed = true → Step s .stop (s.exitProcess true)
  /-- Killed, or an exception that leaves the main loop. -/
  | crash : s.link.process ≠ .exited → Step s (.crash cleanup) (s.exitProcess cleanup)
  | read : s.link.reader = .reading → s.link.closed = false → s.link.outbox = completion :: rest →
      Step s .read
        { s.discardInFlight completion.id with
          link := { s.link with outbox := rest, reader := .recording completion } }
  | record : s.link.reader = .recording completion →
      Step s .record { s.record completion with link := { s.link with reader := .reading } }
  | endOfFile : s.link.reader = .reading → s.link.outbox = [] → s.link.process = .exited →
      Step s .endOfFile { s with link := { s.link with reader := .closing } }
  | readError : s.link.reader = .reading → s.link.closed = true →
      Step s .readError { s with link := { s.link with reader := .closing } }
  /-- A seal that raises takes the reader thread with it. -/
  | socketClosed : s.link.reader = .closing →
      onSocketClosed s.actor s.session s.actor.sock payload handshake = (result, actor, t) →
      Step s (.socketClosed payload handshake jobId) (s.afterClose actor t jobId)
  | mark : s.terminate = .idle →
      Step s .mark { s with actor := { s.actor with terminated := true }, terminate := .marked }
  | tell : s.terminate = .marked → s.link.process ≠ .exited → s.link.closed = false →
      Step s .tell
        { s with
          terminate := .told
          link := { s.link with inbox := s.link.inbox ++ [Frame.shutdown], told := true } }
  | tellFailed : s.terminate = .marked → Step s .tellFailed { s with terminate := .told }
  | shutWrite : s.terminate = .told →
      Step s .shutWrite { s with terminate := .shut, link := { s.link with shutWrite := true } }
  | join : s.terminate = .shut → s.link.reader = .exited → Step s .join { s with terminate := .joined }
  | joinTimeout : s.terminate = .shut → Step s .joinTimeout { s with terminate := .joined }
  | wait : s.terminate = .joined → s.link.process = .exited →
      Step s .wait { s with terminate := .waited }
  | kill : s.terminate = .joined → Step s .kill { s.exitProcess false with terminate := .waited }
  | close : s.terminate = .waited →
      Step s .close
        { s with
          terminate := .returned
          link := { s.link with closed := true }
          actor := { s.actor with registered := false, registeredName := none } }

end Rayd.Actor
