import Rayd.Lib.Slots
import Rayd.Lib.Transition
import Rayd.Tasks.TaskManager
import Rayd.Tasks.Completion

/-! The dispatcher: one queue, one handler thread per worker connection, and the
lineage table. A step is one acquisition of the queue or table lock, or one call
that can fail; which of those fail, and what a worker answers, is left open.
`Ticket` tells two submits of the same job apart. Child processes, the accept
loop's own errors and the join at shutdown are left out. -/
namespace Rayd.Tasks
open Memory Core Transition

/-- One call of `submit`. -/
structure Ticket where
  number : Nat
  job : DispatchJob
  deriving DecidableEq

/-- Where a handler thread is in `handle_connection`. -/
inductive Phase where
  /-- Waiting for `worker_ready`. -/
  | greeting
  /-- In `next_job`. -/
  | idle
  | building (ticket : Ticket)
  | sending (ticket : Ticket)
  /-- The job is with the worker. -/
  | waiting (ticket : Ticket)
  | ingesting (ticket : Ticket) (frame : Option Value)
  /-- Taken in, before `mark_completed`. -/
  | marking (ticket : Ticket)
  | exited

/-- The job a running handler has in its hands. -/
def Phase.held : Phase → Multiset Ticket
  | .building ticket | .sending ticket | .waiting ticket | .ingesting ticket _ | .marking ticket => {ticket}
  | .greeting | .idle | .exited => 0

structure Dispatcher where
  queue : List Ticket
  shutdown : Bool
  registered : Nat
  connections : List Phase
  tasks : TaskManager
  store : MemoryStore
  /-- Jobs between `record` or `try_resubmit` and their `submit`. -/
  prepared : List DispatchJob
  /-- Every submit before shutdown, in order. -/
  submitted : List Ticket
  /-- Completed, and not handed out again by `try_resubmit`. -/
  done : List Ticket
  /-- Completed, then handed out again under a new ticket. -/
  superseded : List Ticket

namespace Dispatcher

def start : Dispatcher := ⟨[], false, 0, [], .new, .empty, [], [], [], []⟩

def inFlight (s : Dispatcher) : Multiset Ticket := Slots.total Phase.held s.connections

def setPhase (s : Dispatcher) (connection : Nat) (phase : Phase) : Dispatcher :=
  { s with connections := s.connections.set connection phase }

/-- `record`: the first half of `submit_task`. -/
def recordJob (s : Dispatcher) (job : DispatchJob) : Dispatcher :=
  { s with tasks := s.tasks.record job.objectIds job, prepared := job :: s.prepared }

/-- Silently dropped after shutdown. -/
def submit (s : Dispatcher) (job : DispatchJob) : Dispatcher :=
  if s.shutdown then { s with prepared := s.prepared.erase job }
  else
    { s with
      prepared := s.prepared.erase job
      queue := s.queue ++ [⟨s.submitted.length, job⟩]
      submitted := s.submitted ++ [⟨s.submitted.length, job⟩] }

/-- A job handed out again takes the place of the completed ones of its task. -/
def resubmit (s : Dispatcher) (job : DispatchJob) (tasks : TaskManager) : Dispatcher :=
  { s with
    tasks := tasks
    prepared := job :: s.prepared
    done := s.done.filter fun ticket => ticket.job.taskId ≠ job.taskId
    superseded := s.superseded ++ s.done.filter fun ticket => ticket.job.taskId = job.taskId }

def markCompleted (s : Dispatcher) (ticket : Ticket) : Dispatcher :=
  { s with tasks := s.tasks.markCompleted ticket.job.taskId, done := s.done ++ [ticket] }

end Dispatcher

inductive Action where
  | record (job : DispatchJob)
  | submit (job : DispatchJob)
  | tryResubmit (id : ObjectId)
  | connect
  | greet (connection : Nat)
  | nextJob (connection : Nat)
  | build (connection : Nat)
  | buildFailed (connection : Nat)
  | send (connection : Nat)
  | sendFailed (connection : Nat)
  | receive (connection : Nat) (frame : Option Value)
  | receiveFailed (connection : Nat)
  | disconnect (connection : Nat)
  | ingest (connection : Nat)
  | mark (connection : Nat)
  | shutdown

inductive Step (s : Dispatcher) : Action → Dispatcher → Prop where
  /-- Task ids are minted once, so neither the id nor its outputs are on file. -/
  | record : 0 < job.numReturns.toNat → (∀ id ∈ job.objectIds, s.tasks.lookup id = none) →
      (∀ ticket ∈ s.submitted, ticket.job.taskId ≠ job.taskId) →
      Step s (.record job) (s.recordJob job)
  | submit : job ∈ s.prepared → Step s (.submit job) (s.submit job)
  | tryResubmit : s.tasks.tryResubmit object = (some job, tasks) →
      Step s (.tryResubmit object) (s.resubmit job tasks)
  | notResubmitted : s.tasks.tryResubmit object = (none, tasks) →
      Step s (.tryResubmit object) { s with tasks := tasks }
  | connect : s.shutdown = false →
      Step s .connect { s with connections := s.connections ++ [.greeting] }
  | greet : s.connections[connection]? = some .greeting →
      Step s (.greet connection) { s.setPhase connection .idle with registered := s.registered + 1 }
  | nextJob : s.connections[connection]? = some .idle → s.queue = ticket :: rest →
      Step s (.nextJob connection) { s.setPhase connection (.building ticket) with queue := rest }
  /-- The queue is empty and shutdown has begun; the polite shutdown frame is best effort. -/
  | noMoreJobs : s.connections[connection]? = some .idle → s.queue = [] → s.shutdown = true →
      Step s (.nextJob connection) (s.setPhase connection .exited)
  | build : s.connections[connection]? = some (.building ticket) →
      Step s (.build connection) (s.setPhase connection (.sending ticket))
  /-- Logged, and on to the next job. -/
  | buildFailed : s.connections[connection]? = some (.building ticket) →
      Step s (.buildFailed connection) (s.setPhase connection .idle)
  | send : s.connections[connection]? = some (.sending ticket) →
      Step s (.send connection) (s.setPhase connection (.waiting ticket))
  /-- Back to the front of the queue, also after shutdown. -/
  | sendFailed : s.connections[connection]? = some (.sending ticket) →
      Step s (.sendFailed connection)
        { s.setPhase connection .exited with queue := ticket :: s.queue }
  | receive : s.connections[connection]? = some (.waiting ticket) →
      Step s (.receive connection frame) (s.setPhase connection (.ingesting ticket frame))
  | greetingFailed : s.connections[connection]? = some .greeting →
      Step s (.receiveFailed connection) (s.setPhase connection .exited)
  | receiveFailed : s.connections[connection]? = some (.waiting ticket) →
      Step s (.receiveFailed connection) (s.setPhase connection .exited)
  | disconnectEarly : s.connections[connection]? = some .greeting →
      Step s (.disconnect connection) (s.setPhase connection .exited)
  | disconnect : s.connections[connection]? = some (.waiting ticket) →
      Step s (.disconnect connection) (s.setPhase connection .exited)
  | ingest : s.connections[connection]? = some (.ingesting ticket frame) →
      handleCompletion s.store frame = (.done, store) →
      Step s (.ingest connection) { s.setPhase connection (.marking ticket) with store := store }
  /-- Logged, and on to the next job; the entries before the bad one stay indexed. -/
  | ingestFailed : s.connections[connection]? = some (.ingesting ticket frame) →
      handleCompletion s.store frame = (.failed error, store) →
      Step s (.ingest connection) { s.setPhase connection .idle with store := store }
  | ingestPanicked : s.connections[connection]? = some (.ingesting ticket frame) →
      handleCompletion s.store frame = (.panicked, store) →
      Step s (.ingest connection) { s.setPhase connection .exited with store := store }
  | mark : s.connections[connection]? = some (.marking ticket) →
      Step s (.mark connection) ((s.setPhase connection .idle).markCompleted ticket)
  | shutdown : Step s .shutdown { s with shutdown := true }

end Rayd.Tasks
