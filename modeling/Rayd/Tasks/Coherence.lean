import Rayd.Lib.Transition
import Rayd.Tasks.TaskManager

/-! Task records over whole histories of `record`, `mark_completed` and `try_resubmit`
for any number of tasks. Every record of a task can be read off the history: its
budget from the jobs handed back so far, its flag from the completions. -/
namespace Rayd.Tasks
open Transition

/-- A call with what it returned. -/
inductive TaskCall where
  | record (outputs : List ObjectId) (job : DispatchJob)
  | markCompleted (taskId : TaskId)
  | tryResubmit (id : ObjectId) (returned : Option DispatchJob)

namespace TaskCall

/-- The task a call touches; a resubmission that is refused touches none. -/
def taskId? : TaskCall → Option TaskId
  | .record _ job => some job.taskId
  | .markCompleted taskId => some taskId
  | .tryResubmit _ returned => returned.map DispatchJob.taskId

def records (taskId : TaskId) : TaskCall → Bool
  | .record _ job => decide (job.taskId = taskId)
  | _ => false

def completes (taskId : TaskId) : TaskCall → Bool
  | .markCompleted completed => decide (completed = taskId)
  | _ => false

def resubmits (taskId : TaskId) : TaskCall → Bool
  | .tryResubmit _ (some job) => decide (job.taskId = taskId)
  | _ => false

def jobFor (id : ObjectId) : TaskCall → Option DispatchJob
  | .record outputs job => if outputs.contains id then some job else none
  | _ => none

end TaskCall

section Counts
variable (log : List TaskCall) (taskId : TaskId)

def submissions : Nat := log.countP (TaskCall.records taskId)

def completions : Nat := log.countP (TaskCall.completes taskId)

def resubmissions : Nat := log.countP (TaskCall.resubmits taskId)

/-- A task is dispatched when it is submitted and with every job handed back for it. -/
def attempts : Nat := submissions log taskId + resubmissions log taskId

theorem countP_snoc (counts : TaskCall → Bool) (call : TaskCall) :
    (log ++ [call]).countP counts = log.countP counts + if counts call then 1 else 0 := by
  rw [List.countP_append, List.countP_singleton]

@[simp] theorem submissions_append (call : TaskCall) : submissions (log ++ [call]) taskId =
    submissions log taskId + if call.records taskId then 1 else 0 :=
  countP_snoc log _ call

@[simp] theorem completions_append (call : TaskCall) : completions (log ++ [call]) taskId =
    completions log taskId + if call.completes taskId then 1 else 0 :=
  countP_snoc log _ call

@[simp] theorem resubmissions_append (call : TaskCall) : resubmissions (log ++ [call]) taskId =
    resubmissions log taskId + if call.resubmits taskId then 1 else 0 :=
  countP_snoc log _ call

/-- The job last recorded under an output id. -/
def recordedJob (id : ObjectId) : Option DispatchJob := log.reverse.findSome? (TaskCall.jobFor id)

@[simp] theorem recordedJob_append (id : ObjectId) (call : TaskCall) :
    recordedJob (log ++ [call]) id = (call.jobFor id).or (recordedJob log id) := by
  rw [recordedJob, List.reverse_append, List.reverse_singleton, List.singleton_append,
    List.findSome?_cons, recordedJob]
  cases call.jobFor id <;> rfl

theorem submissions_of_recordedJob {id : ObjectId} {job : DispatchJob}
    (found : recordedJob log id = some job) : submissions log job.taskId ≠ 0 := by
  obtain ⟨call, member, names⟩ := List.exists_of_findSome?_eq_some found
  refine (List.countP_pos_iff.mpr ⟨call, List.mem_reverse.mp member, ?_⟩).ne'
  cases call with
  | record outputs recorded =>
    simp only [TaskCall.jobFor, Option.ite_none_right_eq_some, Option.some.injEq] at names
    exact decide_eq_true (congrArg DispatchJob.taskId names.2)
  | markCompleted => cases names
  | tryResubmit => cases names

theorem counts_other {taskId : TaskId} {call : TaskCall} (other : call.taskId? ≠ some taskId) :
    submissions (log ++ [call]) taskId = submissions log taskId ∧
      completions (log ++ [call]) taskId = completions log taskId ∧
      resubmissions (log ++ [call]) taskId = resubmissions log taskId := by
  cases call with
  | record outputs job =>
    have different : job.taskId ≠ taskId := fun same => other (congrArg some same)
    simp [TaskCall.records, TaskCall.completes, TaskCall.resubmits, different]
  | markCompleted completed =>
    have different : completed ≠ taskId := fun same => other (congrArg some same)
    simp [TaskCall.records, TaskCall.completes, TaskCall.resubmits, different]
  | tryResubmit id returned =>
    cases returned with
    | none => simp [TaskCall.records, TaskCall.completes, TaskCall.resubmits]
    | some job =>
      have different : job.taskId ≠ taskId := fun same => other (congrArg some same)
      simp [TaskCall.records, TaskCall.completes, TaskCall.resubmits, different]

end Counts

namespace TaskManager

inductive Step : TaskManager → TaskCall → TaskManager → Prop where
  | record : Step tasks (.record outputs job) (tasks.record outputs job)
  | markCompleted : Step tasks (.markCompleted taskId) (tasks.markCompleted taskId)
  | tryResubmit {id : ObjectId} : tasks.tryResubmit id = (returned, after) →
      Step tasks (.tryResubmit id returned) after

/-- A task is submitted once, and completes at most once for every attempt dispatched. -/
def Allowed (state : List TaskCall × TaskManager) : TaskCall → Prop
  | .record _ job => submissions state.1 job.taskId = 0
  | .markCompleted taskId => completions state.1 taskId < attempts state.1 taskId
  | .tryResubmit _ _ => True

/-- A submitted task is under way or has just completed, once more often than it was resubmitted. -/
def Balanced (log : List TaskCall) (taskId : TaskId) : Prop :=
  submissions log taskId = 0 ∧ completions log taskId = 0 ∧ resubmissions log taskId = 0 ∨
    submissions log taskId = 1 ∧ resubmissions log taskId ≤ defaultMaxRetries ∧
      (completions log taskId = resubmissions log taskId ∨
        completions log taskId = resubmissions log taskId + 1)

/-- What the record under an id says, against the history. -/
structure Reflects (log : List TaskCall) (id : ObjectId) (record : TaskRecord) : Prop where
  source : recordedJob log id = some record.job
  budget : record.retriesRemaining + resubmissions log record.taskId = defaultMaxRetries
  flag : record.wasCompleted = true ↔
    completions log record.taskId = resubmissions log record.taskId + 1

structure Tracked (log : List TaskCall) (tasks : TaskManager) : Prop where
  balanced : ∀ taskId, Balanced log taskId
  reflects : ∀ {id record}, tasks.lookup id = some record → Reflects log id record

theorem Reflects.submitted {id : ObjectId} {record : TaskRecord} (reflects : Reflects log id record) :
    submissions log record.taskId ≠ 0 :=
  submissions_of_recordedJob log reflects.source

theorem Balanced.other (balanced : Balanced log taskId) (other : call.taskId? ≠ some taskId) :
    Balanced (log ++ [call]) taskId := by
  obtain ⟨submitted, completed, resubmitted⟩ := counts_other log other
  rw [Balanced, submitted, completed, resubmitted]
  exact balanced

theorem Reflects.other {id : ObjectId} {record : TaskRecord} (reflects : Reflects log id record)
    (other : call.taskId? ≠ some record.taskId) (unnamed : call.jobFor id = none) :
    Reflects (log ++ [call]) id record := by
  obtain ⟨_, completed, resubmitted⟩ := counts_other log other
  refine ⟨?_, ?_, ?_⟩
  · rw [recordedJob_append, unnamed, Option.none_or, reflects.source]
  · rw [resubmitted, reflects.budget]
  · rw [completed, resubmitted, reflects.flag]

theorem balanced_turn (tracked : Tracked log tasks) (touched : call.taskId? = some taskId)
    (turned : Balanced (log ++ [call]) taskId) (other : TaskId) : Balanced (log ++ [call]) other := by
  by_cases same : taskId = other
  · exact same ▸ turned
  · exact (tracked.balanced other).other fun concerns =>
      same (Option.some.inj (touched.symm.trans concerns))

/-- Rewriting a task's records keeps them in step when it does so for each of them. -/
theorem reflects_updateTask (tracked : Tracked log tasks) (touched : call.taskId? = some taskId)
    (unnamed : ∀ id, call.jobFor id = none)
    (turned : ∀ {id record}, Reflects log id record → record.taskId = taskId →
      Reflects (log ++ [call]) id (update record))
    {id : ObjectId} {record : TaskRecord} (found : (tasks.updateTask taskId update).lookup id = some record) :
    Reflects (log ++ [call]) id record := by
  rw [lookup_updateTask] at found
  obtain ⟨old, earlier, rfl⟩ := Option.map_eq_some_iff.mp found
  have reflects := tracked.reflects earlier
  by_cases same : old.taskId = taskId
  · rw [if_pos same]
    exact turned reflects same
  · rw [if_neg same]
    exact reflects.other (fun concerns => same (Option.some.inj (concerns.symm.trans touched))) (unnamed id)

theorem Tracked.record (tracked : Tracked log tasks) (fresh : submissions log job.taskId = 0) :
    Tracked (log ++ [.record outputs job]) (tasks.record outputs job) := by
  have counts : completions log job.taskId = 0 ∧ resubmissions log job.taskId = 0 := by
    rcases tracked.balanced job.taskId with ⟨_, unused⟩ | ⟨once, _⟩
    · exact unused
    · rw [fresh] at once
      cases once
  refine ⟨fun other => balanced_turn tracked rfl (.inr ?_) other, fun {id record} found => ?_⟩
  · simp [TaskCall.records, TaskCall.completes, TaskCall.resubmits, fresh, counts]
  · rw [lookup_record] at found
    by_cases listed : id ∈ outputs
    · rw [if_pos listed] at found
      cases found
      refine ⟨?_, ?_, ?_⟩
      · simp [TaskCall.jobFor, listed, freshRecord, TaskRecord.job]
      · simp [freshRecord, TaskCall.resubmits, counts]
      · simp [freshRecord, TaskCall.completes, TaskCall.resubmits, counts]
    · rw [if_neg listed] at found
      have reflects := tracked.reflects found
      refine reflects.other (fun concerns => reflects.submitted ?_) ?_
      · rw [← Option.some.inj concerns, fresh]
      · simp [TaskCall.jobFor, listed]

theorem Tracked.markCompleted (tracked : Tracked log tasks)
    (allowed : completions log taskId < attempts log taskId) :
    Tracked (log ++ [.markCompleted taskId]) (tasks.markCompleted taskId) := by
  have due : submissions log taskId = 1 ∧ resubmissions log taskId ≤ defaultMaxRetries ∧
      completions log taskId = resubmissions log taskId := by
    have balanced := tracked.balanced taskId
    simp only [attempts, Balanced] at allowed balanced
    omega
  refine ⟨fun other => balanced_turn tracked rfl (.inr ?_) other,
    fun found => reflects_updateTask tracked rfl (fun _ => rfl) (fun reflects same => ?_) found⟩
  · simp [TaskCall.records, TaskCall.completes, TaskCall.resubmits, due]
  · refine ⟨?_, ?_, ?_⟩
    · exact (recordedJob_append _ _ _).trans reflects.source
    · simpa [TaskCall.resubmits] using reflects.budget
    · simp [TaskCall.completes, TaskCall.resubmits, same, due]

/-- A job comes back only for a task with no attempt outstanding and a retry left. -/
theorem Tracked.tryResubmit {id : ObjectId} (tracked : Tracked log tasks)
    (result : tasks.tryResubmit id = (returned, after)) :
    Tracked (log ++ [.tryResubmit id returned]) after := by
  rcases tasks.tryResubmit_spec id with ⟨record, found, completed, left, _, spec⟩ | ⟨_, spec⟩
  · rw [result] at spec
    cases spec
    have reflects := tracked.reflects found
    have budget := reflects.budget
    have due := reflects.flag.mp completed
    have once : submissions log record.taskId = 1 := by
      rcases tracked.balanced record.taskId with ⟨none, _⟩ | ⟨once, _⟩
      · exact absurd none reflects.submitted
      · exact once
    refine ⟨fun other => balanced_turn tracked rfl (.inr ?_) other,
      fun found => reflects_updateTask tracked rfl (fun _ => rfl) (fun earlier same => ?_) found⟩
    · simp [TaskCall.records, TaskCall.completes, TaskCall.resubmits, TaskRecord.job, once, due]
      omega
    · have earlierBudget := earlier.budget
      refine ⟨?_, ?_, ?_⟩
      · exact (recordedJob_append _ _ _).trans earlier.source
      · simp [TaskCall.resubmits, TaskRecord.job, same]
        rw [same] at earlierBudget
        omega
      · simp [TaskCall.completes, TaskCall.resubmits, TaskRecord.job, same, due]
  · rw [result] at spec
    cases spec
    exact ⟨fun taskId => (tracked.balanced taskId).other (fun concerns => by cases concerns),
      fun found => (tracked.reflects found).other (fun concerns => by cases concerns) rfl⟩

theorem Tracked.step {state later : List TaskCall × TaskManager} (tracked : Tracked state.1 state.2)
    (step : Guarded Allowed (Transition.Recorded Step) state call later) : Tracked later.1 later.2 := by
  obtain ⟨log, tasks⟩ := state
  obtain ⟨_, after⟩ := later
  obtain ⟨allowed, written, step⟩ := step
  cases written
  cases step with
  | record => exact tracked.record allowed
  | markCompleted => exact tracked.markCompleted allowed
  | tryResubmit result => exact tracked.tryResubmit result

theorem tracked_new : Tracked [] new :=
  ⟨fun _ => .inl ⟨rfl, rfl, rfl⟩, fun found => by cases found⟩

/-- The copies of a record agree, a task has at most one attempt outstanding, jobs come back
within the budget and after completions, as they were recorded and when the status says so. -/
structure Coherent (log : List TaskCall) (tasks : TaskManager) : Prop where
  agree : ∀ {id other record second}, tasks.lookup id = some record → tasks.lookup other = some second →
    record.taskId = second.taskId →
    record.retriesRemaining = second.retriesRemaining ∧ record.wasCompleted = second.wasCompleted
  oneOutstanding : ∀ taskId, attempts log taskId ≤ completions log taskId + 1
  bounded : ∀ taskId, resubmissions log taskId ≤ 3 ∧ resubmissions log taskId ≤ completions log taskId
  asRecorded : ∀ {id job}, (tasks.tryResubmit id).1 = some job → recordedJob log id = some job
  ready : ∀ id, tasks.lineageStatus id = .readyToResubmit ↔ ∃ job, (tasks.tryResubmit id).1 = some job

theorem Tracked.agree (tracked : Tracked log tasks) {id other : ObjectId} {record second : TaskRecord}
    (found : tasks.lookup id = some record) (foundSecond : tasks.lookup other = some second)
    (same : record.taskId = second.taskId) :
    record.retriesRemaining = second.retriesRemaining ∧ record.wasCompleted = second.wasCompleted := by
  have first := tracked.reflects found
  have last := tracked.reflects foundSecond
  constructor
  · have budget := first.budget
    have budgetSecond := last.budget
    rw [same] at budget
    omega
  · rw [Bool.eq_iff_iff, first.flag, last.flag, same]

theorem lineageStatus_ready_iff (tasks : TaskManager) (id : ObjectId) :
    tasks.lineageStatus id = .readyToResubmit ↔ ∃ job, (tasks.tryResubmit id).1 = some job := by
  rcases tasks.tryResubmit_spec id with ⟨record, _, _, _, ready, result⟩ | ⟨refused, result⟩
  · simp [ready, result]
  · simp [refused, result]

end TaskManager

/-- In every history in which a task is submitted once and completes at most once for
every attempt, the records are coherent. Tasks may share output ids: a later `record`
takes them over. -/
theorem task_records_coherent
    (run : Run (Guarded TaskManager.Allowed (Recorded TaskManager.Step)) ([], .new) path (log, tasks)) :
    TaskManager.Coherent log tasks := by
  have tracked : TaskManager.Tracked log tasks :=
    run.invariant (P := fun state => TaskManager.Tracked state.1 state.2) TaskManager.Tracked.step
      TaskManager.tracked_new
  have counts (taskId : TaskId) := tracked.balanced taskId
  simp only [TaskManager.Balanced, defaultMaxRetries] at counts
  refine ⟨tracked.agree, fun taskId => ?_, fun taskId => ?_, fun {id job} result => ?_,
    tasks.lineageStatus_ready_iff⟩
  · have counts := counts taskId
    rw [attempts]
    omega
  · have counts := counts taskId
    omega
  · rcases tasks.tryResubmit_spec id with ⟨record, found, _, _, _, spec⟩ | ⟨_, spec⟩
    · rw [spec] at result
      cases result
      exact (tracked.reflects found).source
    · rw [spec] at result
      cases result

def otherJob : DispatchJob := ⟨⟨List.replicate 24 1, rfl⟩, 1, [], [], none⟩

/-- A task with two outputs completes and is handed out again by the second of them, while
another task is still in its first attempt and is refused. -/
theorem resubmitted_job_coherent :
    TaskManager.Coherent
      [.record [.nil 28, .forReturn (.nil 24) 1] sampleJob, .record [.forReturn otherJob.taskId 0] otherJob,
        .markCompleted (.nil 24), .tryResubmit (.forReturn otherJob.taskId 0) none,
        .tryResubmit (.forReturn (.nil 24) 1) (some sampleJob)]
      ((((TaskManager.new.record [.nil 28, .forReturn (.nil 24) 1] sampleJob).record
        [.forReturn otherJob.taskId 0] otherJob).markCompleted (.nil 24)).tryResubmit (.forReturn (.nil 24) 1)).2 := by
  have run : Run (Guarded TaskManager.Allowed (Recorded TaskManager.Step)) ([], .new) [] ([], .new) := .refl
  have run := run.record (a := TaskCall.record [.nil 28, .forReturn (.nil 24) 1] sampleJob) rfl .record
  have run := run.record (a := TaskCall.record [.forReturn otherJob.taskId 0] otherJob) rfl .record
  have run := run.record (a := TaskCall.markCompleted (.nil 24)) Nat.one_pos .markCompleted
  have run := run.record (a := TaskCall.tryResubmit (.forReturn otherJob.taskId 0) none) trivial (.tryResubmit rfl)
  exact task_records_coherent (run.record trivial (.tryResubmit rfl))

end Rayd.Tasks
