import Rayd.Lib.Balance
import Rayd.Lib.Fallible
import Rayd.Lib.FiniteMap
import Rayd.Rpc

/-! The job registry of the control service, with its gauge. A handler changes the table
under its lock and moves the gauge after it has released it. Job ids are drawn at random
and taken to be new, and the clock is past the epoch. A finished job may be finished
again, with another message or without one. -/
namespace Rayd.Gcs.Jobs
open Memory Threads Transition

inductive JobStatus where
  | running | finished | failed
  deriving DecidableEq, Repr

structure JobInfo where
  jobId : Bytes
  driverHost : String
  driverPid : UInt32
  nodeId : Bytes
  status : JobStatus
  registeredAtUnixMs : Nat
  finishedAtUnixMs : Nat
  deriving DecidableEq, Repr

structure JobInfoEntry where
  info : JobInfo
  failureMessage : Option String
  deriving DecidableEq, Repr

structure AddJobRequest where
  driverHost : String
  driverPid : UInt32
  nodeId : Bytes
  deriving DecidableEq, Repr

abbrev JobsRegistry := FiniteMap JobId JobInfoEntry

def addJob (jobs : JobsRegistry) (request : AddJobRequest) (jobId : JobId) (nowMs : Nat) :
    Except Status JobsRegistry :=
  if request.driverHost = "" then .error ⟨.invalidArgument, "driver_host must not be empty"⟩
  else if request.nodeId ≠ [] ∧ request.nodeId.length ≠ 16 then
    .error ⟨.invalidArgument, s!"node_id must be 16 bytes (or empty), got {request.nodeId.length}"⟩
  else .ok (jobs.insert jobId
    ⟨⟨jobId.bytes, request.driverHost, request.driverPid, request.nodeId, .running, nowMs, 0⟩, none⟩)

/-- An empty message leaves the one that is there. -/
def JobInfoEntry.finish (entry : JobInfoEntry) (failureMessage : String) (nowMs : Nat) : JobInfoEntry where
  info := { entry.info with
    finishedAtUnixMs := nowMs
    status := if failureMessage = "" then .finished else .failed }
  failureMessage := if failureMessage = "" then entry.failureMessage else some failureMessage

def parseJobId (bytes : Bytes) : Except Status JobId := parseId "job_id" 16 bytes

/-- The table after it, and whether the job was running. -/
def markJobFinished (jobs : JobsRegistry) (jobId : Bytes) (failureMessage : String) (nowMs : Nat) :
    Except Status (Bool × JobsRegistry) := do
  let id ← parseJobId jobId
  match jobs.lookup id with
  | none => .error ⟨.notFound, "unknown job_id"⟩
  | some entry => .ok (entry.info.status == .running, jobs.insert id (entry.finish failureMessage nowMs))

structure Server where
  jobs : JobsRegistry
  jobsRunning : Int

/-- A handler between its table step and its gauge step has a change to make. -/
inductive Handler where
  | idle
  | gauge (change : Int)
  deriving DecidableEq

inductive Act where
  | addJob (request : AddJobRequest) (jobId : JobId) (nowMs : Nat)
  | markJobFinished (jobId : Bytes) (failureMessage : String) (nowMs : Nat)
  | refuse (status : Status)
  | gauge
  deriving DecidableEq

inductive Own (s : Server) : Handler → Act → Server → Handler → Prop where
  | addJob : addJob s.jobs request jobId nowMs = .ok jobs → s.jobs.lookup jobId = none → 0 < nowMs →
      Own s .idle (.addJob request jobId nowMs) { s with jobs } (.gauge 1)
  | addJobRefused : addJob s.jobs request jobId nowMs = .error status → Own s .idle (.refuse status) s .idle
  | markJobFinished : markJobFinished s.jobs jobId failureMessage nowMs = .ok (wasRunning, jobs) → 0 < nowMs →
      Own s .idle (.markJobFinished jobId failureMessage nowMs) { s with jobs }
        (if wasRunning then .gauge (-1) else .idle)
  | markJobFinishedRefused : markJobFinished s.jobs jobId failureMessage nowMs = .error status →
      Own s .idle (.refuse status) s .idle
  | gauge : Own s (.gauge change) .gauge { s with jobsRunning := s.jobsRunning + change } .idle

def start : Pool Server Handler := ⟨⟨∅, 0⟩, fun _ => .idle⟩

def runningJobs (jobs : JobsRegistry) : Nat := (FiniteMap.values jobs).countP (·.info.status == .running)

/-- The message of an act that finishes this job. -/
def Act.finishes? (id : JobId) : Act → Option String
  | .markJobFinished jobId failureMessage _ => if jobId = id.bytes then some failureMessage else none
  | _ => none

/-- The messages this job was finished with, oldest first. -/
def finishes (id : JobId) (path : List (Nat × Act)) : List String :=
  path.filterMap fun label => label.2.finishes? id

section Handlers
variable {jobs after : JobsRegistry} {request : AddJobRequest} {jobId : JobId} {nowMs : Nat}

theorem addJob_ok (added : addJob jobs request jobId nowMs = .ok after) :
    after = jobs.insert jobId
      ⟨⟨jobId.bytes, request.driverHost, request.driverPid, request.nodeId, .running, nowMs, 0⟩, none⟩ := by
  rw [addJob] at added
  split_ifs at added
  cases added
  rfl

theorem markJobFinished_ok {bytes : Bytes}
    (marked : markJobFinished jobs bytes failureMessage nowMs = .ok (wasRunning, after)) :
    ∃ id entry, bytes = id.bytes ∧ jobs.lookup id = some entry ∧
      wasRunning = (entry.info.status == .running) ∧
      after = jobs.insert id (entry.finish failureMessage nowMs) := by
  obtain ⟨id, parsed, marked⟩ := Fallible.bind_ok_iff.mp marked
  cases found : jobs.lookup id with
  | none =>
    simp only [found] at marked
    cases marked
  | some entry =>
    simp only [found] at marked
    cases marked
    exact ⟨id, entry, Id.eq_bytes_of_fromBytes? (parseId_ok parsed), found, rfl, rfl⟩

theorem JobInfoEntry.finish_not_running (entry : JobInfoEntry) (failureMessage : String) (nowMs : Nat) :
    (entry.finish failureMessage nowMs).info.status ≠ .running := by
  rw [JobInfoEntry.finish]
  split_ifs <;> exact fun same => by cases same

end Handlers

/-- The status that the last finish of a job leaves. -/
def statusAfter : Option String → JobStatus
  | none => .running
  | some failureMessage => if failureMessage = "" then .finished else .failed

/-- A record is what the finishes of its job make of it: the status is that of the last
one, the message is the last that is not empty. -/
structure Tells (entry : JobInfoEntry) (messages : List String) : Prop where
  status : entry.info.status = statusAfter messages.getLast?
  message : entry.failureMessage = (messages.filter (· ≠ "")).getLast?
  finished : entry.info.finishedAtUnixMs ≠ 0 ↔ messages ≠ []

namespace Tells
variable {entry : JobInfoEntry} {messages : List String}

theorem finish (tells : Tells entry messages) (positive : 0 < nowMs) (failureMessage : String) :
    Tells (entry.finish failureMessage nowMs) (messages ++ [failureMessage]) := by
  constructor
  · rw [List.getLast?_concat]
    rfl
  · rw [List.filter_append, JobInfoEntry.finish]
    by_cases empty : failureMessage = ""
    · simp only [empty, if_true, tells.message]
      simp
    · simp [empty]
  · exact iff_of_true (Nat.ne_of_gt positive) (List.append_ne_nil_of_right_ne_nil _ (List.cons_ne_nil _ _))

theorem running_iff (tells : Tells entry messages) : entry.info.status = .running ↔ messages = [] := by
  rw [tells.status, ← List.getLast?_eq_none_iff]
  cases messages.getLast? with
  | none => exact iff_of_true rfl rfl
  | some last =>
    rw [statusAfter]
    split_ifs <;> simp

theorem coherent_iff (tells : Tells entry messages) :
    (entry.failureMessage ≠ none ↔ entry.info.status = .failed) ↔
      ¬ (messages.getLast? = some "" ∧ ∃ message ∈ messages, message ≠ "") := by
  rw [tells.message, tells.status]
  rcases List.eq_nil_or_concat messages with rfl | ⟨earlier, last, rfl⟩
  · simp [statusAfter]
  · rw [List.concat_eq_append, List.getLast?_concat]
    by_cases empty : last = ""
    · simp [empty, statusAfter]
    · simp [empty, statusAfter]

end Tells

structure History (path : List (Nat × Act)) (jobs : JobsRegistry) : Prop where
  unknown : ∀ id, jobs.lookup id = none → finishes id path = []
  known : ∀ id entry, jobs.lookup id = some entry → Tells entry (finishes id path)

/-- In the table and not running. -/
def Ended (jobs : JobsRegistry) (id : JobId) : Prop :=
  ∃ entry, jobs.lookup id = some entry ∧ entry.info.status ≠ .running

section Steps
variable {path : List (Nat × Act)} {s t : Server} {p q : Handler} {act : Act}

theorem finishes_append (id : JobId) (path : List (Nat × Act)) (label : Nat × Act) :
    finishes id (path ++ [label]) = finishes id path ++ (label.2.finishes? id).toList := by
  rw [finishes, List.filterMap_append, finishes]
  cases found : label.2.finishes? id <;> simp [found]

theorem History.quiet (history : History path jobs) (silent : ∀ id, act.finishes? id = none) (thread : Nat) :
    History (path ++ [(thread, act)]) jobs := by
  constructor
  · intro id absent
    rw [finishes_append, silent, history.unknown id absent]
    rfl
  · intro id entry found
    rw [finishes_append, silent, Option.toList_none, List.append_nil]
    exact history.known id entry found

theorem History.own (history : History path s.jobs) (own : Own s p act t q) (thread : Nat) :
    History (path ++ [(thread, act)]) t.jobs := by
  cases own with
  | @addJob request jobId nowMs jobs added fresh positive =>
    obtain rfl := addJob_ok added
    have silent : History (path ++ [(thread, .addJob request jobId nowMs)]) s.jobs :=
      history.quiet (fun _ => rfl) thread
    constructor
    · intro id absent
      refine silent.unknown id ?_
      rw [FiniteMap.lookup_insert] at absent
      split_ifs at absent with same
      exact absent
    · intro id entry found
      rw [FiniteMap.lookup_insert] at found
      split_ifs at found with same
      · cases found
        rw [same, silent.unknown jobId fresh]
        exact ⟨rfl, rfl, iff_of_false (fun past => past rfl) fun some => some rfl⟩
      · exact silent.known id entry found
  | @markJobFinished jobId failureMessage nowMs wasRunning jobs marked positive =>
    obtain ⟨id, entry, rfl, held, _, rfl⟩ := markJobFinished_ok marked
    constructor
    · intro other absent
      rw [FiniteMap.lookup_insert] at absent
      split_ifs at absent with same
      have apart : id.bytes ≠ other.bytes := fun bytes => same (Id.ext bytes.symm)
      rw [finishes_append, Act.finishes?, if_neg apart, history.unknown other absent]
      rfl
    · intro other found held'
      rw [FiniteMap.lookup_insert] at held'
      rw [finishes_append, Act.finishes?]
      split_ifs at held' with same
      · cases held'
        rw [same, if_pos rfl]
        exact (history.known id entry held).finish positive failureMessage
      · have apart : id.bytes ≠ other.bytes := fun bytes => same (Id.ext bytes.symm)
        rw [if_neg apart, Option.toList_none, List.append_nil]
        exact history.known other found held'
  | addJobRefused | markJobFinishedRefused | gauge => exact history.quiet (fun _ => rfl) thread

theorem Ended.own {id : JobId} (ended : Ended s.jobs id) (own : Own s p act t q) : Ended t.jobs id := by
  obtain ⟨held, found, status⟩ := ended
  cases own with
  | addJob added fresh =>
    obtain rfl := addJob_ok added
    refine ⟨held, ?_, status⟩
    rw [FiniteMap.lookup_insert, if_neg, found]
    rintro rfl
    cases found.symm.trans fresh
  | @markJobFinished jobId failureMessage nowMs wasRunning jobs marked =>
    obtain ⟨other, entry, rfl, known, _, rfl⟩ := markJobFinished_ok marked
    by_cases same : id = other
    · exact ⟨_, (FiniteMap.lookup_insert ..).trans (if_pos same), entry.finish_not_running failureMessage nowMs⟩
    · exact ⟨held, (FiniteMap.lookup_insert ..).trans ((if_neg same).trans found), status⟩
  | addJobRefused | markJobFinishedRefused | gauge => exact ⟨held, found, status⟩

/-- How far the gauge is from the table, and what a handler will do about it. -/
def Server.quantity (s : Server) : Int := s.jobsRunning - runningJobs s.jobs

def Handler.weight : Handler → Int
  | .idle => 0
  | .gauge change => change

theorem jobs_conserved : Conserves Own Server.quantity Handler.weight := by
  intro s p act t q own
  cases own with
  | @addJob request jobId nowMs jobs added fresh =>
    obtain rfl := addJob_ok added
    have counted := FiniteMap.countP_values_insert_new (fun entry : JobInfoEntry => entry.info.status == .running)
      ⟨⟨jobId.bytes, request.driverHost, request.driverPid, request.nodeId, .running, nowMs, 0⟩, none⟩ fresh
    simp only [Server.quantity, runningJobs, Handler.weight, counted]
    simp
    omega
  | @markJobFinished jobId failureMessage nowMs wasRunning jobs marked =>
    obtain ⟨id, entry, rfl, known, rfl, rfl⟩ := markJobFinished_ok marked
    have counted := FiniteMap.countP_values_insert (fun entry : JobInfoEntry => entry.info.status == .running)
      (entry.finish failureMessage nowMs) known
    rw [beq_false_of_ne (entry.finish_not_running failureMessage nowMs)] at counted
    simp only [Server.quantity, runningJobs]
    cases running : entry.info.status == .running <;>
    · simp only [running, Bool.toNat_true, Bool.toNat_false] at counted
      simp only [Handler.weight]
      simp
      omega
  | addJobRefused | markJobFinishedRefused => rfl
  | gauge =>
    simp only [Server.quantity, Handler.weight]
    omega

end Steps

theorem run_history (run : Run (Step Own) start path pool) : History path pool.shared.jobs := by
  refine run.traced (P := fun path pool => History path pool.shared.jobs) ?_ ?_
  · intro path pool label next history step
    cases step with
    | act own => exact history.own own _
  · exact ⟨fun _ _ => rfl, fun _ _ found => by cases found⟩

theorem run_ended {id : JobId} (run : Run (Step Own) pool path next) (ended : Ended pool.shared.jobs id) :
    Ended next.shared.jobs id := by
  refine run.invariant (P := fun pool => Ended pool.shared.jobs id) ?_ ended
  intro pool label next ended step
  cases step with
  | act own => exact ended.own own

/-- Along every run: a record has its message exactly when it is failed, unless its job was
last finished without a message after it had been finished with one. It has a finish
time exactly when it is not running, it never runs again, and with no handler under
way the gauge is the number of running jobs. -/
theorem job_records_coherent_iff (run : Run (Step Own) start path pool) :
    (∀ id entry, pool.shared.jobs.lookup id = some entry →
      ((entry.failureMessage ≠ none ↔ entry.info.status = .failed) ↔
        ¬ ((finishes id path).getLast? = some "" ∧ ∃ message ∈ finishes id path, message ≠ "")) ∧
      (entry.info.finishedAtUnixMs ≠ 0 ↔ entry.info.status ≠ .running)) ∧
    (∀ more next id entry, Run (Step Own) pool more next → pool.shared.jobs.lookup id = some entry →
      entry.info.status ≠ .running →
      ∃ later, next.shared.jobs.lookup id = some later ∧ later.info.status ≠ .running) ∧
    ((∀ thread, pool.threads thread = .idle) → pool.shared.jobsRunning = runningJobs pool.shared.jobs) := by
  refine ⟨fun id entry found => ?_, fun more next id entry later found status => ?_, fun quiet => ?_⟩
  · have tells := (run_history run).known id entry found
    exact ⟨tells.coherent_iff, tells.finished.trans (not_congr tells.running_iff).symm⟩
  · exact run_ended later ⟨entry, found, status⟩
  · have balanced := settled_run jobs_conserved run (fun _ => rfl) fun thread => by rw [quiet thread]; rfl
    have settled : pool.shared.jobsRunning - runningJobs pool.shared.jobs = 0 := balanced
    omega

def otherJob : JobId := ⟨List.replicate 16 1, rfl⟩

/-- Of two jobs one is finished without a message and then with one; the other still runs. -/
theorem run_failed_late :
    ∃ path pool entry, Run (Step Own) start path pool ∧ (∀ thread, pool.threads thread = .idle) ∧
      finishes (.nil 16) path = ["", "killed"] ∧ runningJobs pool.shared.jobs = 1 ∧
      pool.shared.jobs.lookup (.nil 16) = some entry ∧ entry.info.status = .failed := by
  have run : Run (Step Own) start [] _ := .refl
  have run := run.next (a := (0, .addJob ⟨"localhost", 1, []⟩ (.nil 16) 1)) (.act (.addJob rfl rfl (by decide)))
  have run := run.next (a := (0, .gauge)) (.act .gauge)
  have run := run.next (a := (0, .addJob ⟨"localhost", 2, []⟩ otherJob 1)) (.act (.addJob rfl rfl (by decide)))
  have run := run.next (a := (0, .gauge)) (.act .gauge)
  have run := run.next (a := (0, .markJobFinished (Id.nil 16).bytes "" 2))
    (.act (.markJobFinished rfl (by decide)))
  have run := run.next (a := (0, .gauge)) (.act .gauge)
  have run := run.next (a := (0, .markJobFinished (Id.nil 16).bytes "killed" 3))
    (.act (.markJobFinished rfl (by decide)))
  refine ⟨_, _, _, run, fun thread => ?_, rfl, rfl, rfl, rfl⟩
  by_cases first : thread = 0
  · subst first
    rfl
  · simp only [Pool.set_ne _ first]
    rfl

/-- The last message counts: the job is failed and has it. -/
theorem failed_late_coherent :
    ∃ path pool entry, Run (Step Own) start path pool ∧ pool.shared.jobs.lookup (.nil 16) = some entry ∧
      entry.info.status = .failed ∧ entry.failureMessage ≠ none ∧ entry.info.finishedAtUnixMs ≠ 0 ∧
      pool.shared.jobsRunning = 1 := by
  obtain ⟨path, pool, entry, run, quiet, messages, running, found, failed⟩ := run_failed_late
  obtain ⟨records, _, gauge⟩ := job_records_coherent_iff run
  have coherent := (records _ entry found).1.mpr (by simp [messages])
  have finished := (records _ entry found).2.mpr (by simp [failed])
  exact ⟨path, pool, entry, run, found, failed, coherent.mpr failed, finished,
    (gauge quiet).trans (congrArg Nat.cast running)⟩

/-- A job that is finished with a message and then without one. -/
theorem finished_job_keeps_message :
    ∃ path pool entry, Run (Step Own) start path pool ∧ pool.shared.jobs.lookup (.nil 16) = some entry ∧
      finishes (.nil 16) path = ["killed", ""] ∧ entry.info.status = .finished ∧
      entry.failureMessage = some "killed" := by
  have run : Run (Step Own) start [] _ := .refl
  have run := run.next (a := (0, .addJob ⟨"localhost", 1, []⟩ (.nil 16) 1)) (.act (.addJob rfl rfl (by decide)))
  have run := run.next (a := (0, .gauge)) (.act .gauge)
  have run := run.next (a := (0, .markJobFinished (Id.nil 16).bytes "killed" 2))
    (.act (.markJobFinished rfl (by decide)))
  have run := run.next (a := (0, .gauge)) (.act .gauge)
  have run := run.next (a := (0, .markJobFinished (Id.nil 16).bytes "" 3))
    (.act (.markJobFinished rfl (by decide)))
  exact ⟨_, _, _, run, rfl, rfl, rfl, rfl⟩

end Rayd.Gcs.Jobs
