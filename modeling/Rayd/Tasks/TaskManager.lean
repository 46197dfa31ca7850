import Rayd.Id
import Rayd.Lib.FiniteMap

/-! Submitted tasks, kept by output id so that a lost result can be made again.
All outputs of a task carry their own copy of the record; marking and
resubmitting go over every copy with the same task id. -/
namespace Rayd.Tasks
open Memory

structure DispatchJob where
  taskId : TaskId
  numReturns : UInt32
  callableBlob : Bytes
  argsBlob : Bytes
  kwargsBlob : Option Bytes
  deriving DecidableEq

/-- The ids `submit_task` hands out, which the worker computes again. -/
def DispatchJob.objectIds (job : DispatchJob) : List ObjectId :=
  (List.range job.numReturns.toNat).map (.forReturn job.taskId)

theorem DispatchJob.objectIds_nodup (job : DispatchJob) : job.objectIds.Nodup := by
  refine List.Nodup.map_on (fun i left j right same => ?_) List.nodup_range
  have bound := job.numReturns.toNat_lt
  rw [List.mem_range] at left right
  exact (ObjectId.forReturn_injective (by omega) (by omega) same).2

@[simp] theorem DispatchJob.objectIds_length (job : DispatchJob) :
    job.objectIds.length = job.numReturns.toNat := by
  rw [objectIds, List.length_map, List.length_range]

def defaultMaxRetries : Nat := 3

structure TaskRecord where
  taskId : TaskId
  numReturns : UInt32
  callableBlob : Bytes
  argsBlob : Bytes
  kwargsBlob : Option Bytes
  retriesRemaining : Nat
  wasCompleted : Bool
  deriving DecidableEq

def TaskRecord.job (record : TaskRecord) : DispatchJob :=
  ⟨record.taskId, record.numReturns, record.callableBlob, record.argsBlob, record.kwargsBlob⟩

inductive LineageStatus where
  | notRecorded | notYetCompleted | readyToResubmit | budgetExhausted
  deriving DecidableEq, Repr

structure TaskManager where
  byObject : FiniteMap ObjectId TaskRecord

namespace TaskManager

def new : TaskManager := ⟨∅⟩

def lookup (tasks : TaskManager) (id : ObjectId) : Option TaskRecord := tasks.byObject.lookup id

def freshRecord (job : DispatchJob) : TaskRecord :=
  ⟨job.taskId, job.numReturns, job.callableBlob, job.argsBlob, job.kwargsBlob, defaultMaxRetries, false⟩

def record (tasks : TaskManager) (outputs : List ObjectId) (job : DispatchJob) : TaskManager :=
  ⟨outputs.foldl (fun byObject id => byObject.insert id (freshRecord job)) tasks.byObject⟩

/-- Rewrite every record of one task. -/
def updateTask (tasks : TaskManager) (taskId : TaskId) (update : TaskRecord → TaskRecord) : TaskManager :=
  ⟨tasks.byObject.mapValues fun record => if record.taskId = taskId then update record else record⟩

def markCompleted (tasks : TaskManager) (taskId : TaskId) : TaskManager :=
  tasks.updateTask taskId fun record => { record with wasCompleted := true }

def lineageStatus (tasks : TaskManager) (id : ObjectId) : LineageStatus :=
  match tasks.lookup id with
  | none => .notRecorded
  | some record =>
    if !record.wasCompleted then .notYetCompleted
    else if record.retriesRemaining = 0 then .budgetExhausted
    else .readyToResubmit

def tryResubmit (tasks : TaskManager) (id : ObjectId) : Option DispatchJob × TaskManager :=
  match tasks.lookup id with
  | none => (none, tasks)
  | some record =>
    if !record.wasCompleted then (none, tasks)
    else if record.retriesRemaining = 0 then (none, tasks)
    else
      (some record.job, tasks.updateTask record.taskId fun record =>
        { record with retriesRemaining := record.retriesRemaining - 1, wasCompleted := false })

@[simp] theorem lookup_record (tasks : TaskManager) (outputs : List ObjectId) (job : DispatchJob)
    (id : ObjectId) :
    (tasks.record outputs job).lookup id =
      if id ∈ outputs then some (freshRecord job) else tasks.lookup id :=
  FiniteMap.lookup_foldl_insert (fun _ => freshRecord job) outputs tasks.byObject id

@[simp] theorem lookup_updateTask (tasks : TaskManager) (taskId : TaskId)
    (update : TaskRecord → TaskRecord) (id : ObjectId) :
    (tasks.updateTask taskId update).lookup id =
      (tasks.lookup id).map fun record => if record.taskId = taskId then update record else record :=
  FiniteMap.lookup_mapValues _ _ _

/-- A job comes back exactly when the status says so, and it is the recorded one. -/
theorem tryResubmit_spec (tasks : TaskManager) (id : ObjectId) :
    (∃ record, tasks.lookup id = some record ∧ record.wasCompleted = true ∧
        record.retriesRemaining ≠ 0 ∧ tasks.lineageStatus id = .readyToResubmit ∧
        tasks.tryResubmit id = (some record.job, tasks.updateTask record.taskId fun record =>
          { record with retriesRemaining := record.retriesRemaining - 1, wasCompleted := false })) ∨
      tasks.lineageStatus id ≠ .readyToResubmit ∧ tasks.tryResubmit id = (none, tasks) := by
  simp only [tryResubmit, lineageStatus]
  cases found : tasks.lookup id with
  | none => simp
  | some record =>
    by_cases completed : record.wasCompleted = true
    · by_cases spent : record.retriesRemaining = 0
      · simp [completed, spent]
      · left
        refine ⟨record, rfl, completed, spent, ?_, ?_⟩ <;> simp [completed, spent]
    · simp [completed]

theorem tryResubmit_none {tasks after : TaskManager} {id : ObjectId}
    (refused : tasks.tryResubmit id = (none, after)) : after = tasks := by
  rcases tasks.tryResubmit_spec id with ⟨record, _, _, _, _, result⟩ | ⟨_, result⟩
  · rw [refused] at result
    cases result
  · rw [refused, Prod.mk.injEq] at result
    exact result.2

/-- The task is on file and every one of its records says it has completed. -/
structure Marked (tasks : TaskManager) (taskId : TaskId) : Prop where
  recorded : ∃ id record, tasks.lookup id = some record ∧ record.taskId = taskId
  completed : ∀ id record, tasks.lookup id = some record → record.taskId = taskId →
    record.wasCompleted = true

def Recorded (tasks : TaskManager) (taskId : TaskId) : Prop :=
  ∃ id record, tasks.lookup id = some record ∧ record.taskId = taskId

theorem Recorded.updateTask (recorded : Recorded tasks taskId) (other : TaskId)
    {update : TaskRecord → TaskRecord} (keeps : ∀ record, (update record).taskId = record.taskId) :
    Recorded (tasks.updateTask other update) taskId := by
  obtain ⟨id, record, found, same⟩ := recorded
  refine ⟨id, _, by rw [lookup_updateTask, found, Option.map_some], ?_⟩
  split
  · rw [keeps, same]
  · exact same

theorem markCompleted_marked (recorded : Recorded tasks taskId) :
    Marked (tasks.markCompleted taskId) taskId := by
  refine ⟨recorded.updateTask taskId fun _ => rfl, fun id record found same => ?_⟩
  rw [markCompleted, lookup_updateTask] at found
  obtain ⟨old, _, rfl⟩ := Option.map_eq_some_iff.mp found
  by_cases here : old.taskId = taskId
  · rw [if_pos here]
  · rw [if_neg here] at same
    exact absurd same here

theorem Marked.updateTask (marked : Marked tasks taskId) (different : other ≠ taskId)
    {update : TaskRecord → TaskRecord} (keeps : ∀ record, (update record).taskId = record.taskId) :
    Marked (tasks.updateTask other update) taskId := by
  refine ⟨Recorded.updateTask marked.recorded other keeps, fun id record found same => ?_⟩
  rw [lookup_updateTask] at found
  obtain ⟨old, earlier, rfl⟩ := Option.map_eq_some_iff.mp found
  by_cases here : old.taskId = other
  · rw [if_pos here, keeps, here] at same
    exact absurd same different
  · rw [if_neg here] at same ⊢
    exact marked.completed id old earlier same

theorem Marked.markCompleted (marked : Marked tasks taskId) (other : TaskId) :
    Marked (tasks.markCompleted other) taskId := by
  by_cases same : other = taskId
  · subst same
    exact markCompleted_marked marked.recorded
  · exact marked.updateTask same fun _ => rfl

theorem Recorded.record (recorded : Recorded tasks taskId)
    (free : ∀ id ∈ outputs, tasks.lookup id = none) (job : DispatchJob) :
    Recorded (tasks.record outputs job) taskId := by
  obtain ⟨id, record, found, same⟩ := recorded
  refine ⟨id, record, ?_, same⟩
  rw [lookup_record, if_neg, found]
  intro member
  rw [free id member] at found
  cases found

theorem Marked.record (marked : Marked tasks taskId) (free : ∀ id ∈ outputs, tasks.lookup id = none)
    (different : job.taskId ≠ taskId) : Marked (tasks.record outputs job) taskId := by
  refine ⟨Recorded.record marked.recorded free job, fun id record found same => ?_⟩
  rw [lookup_record] at found
  split at found
  · rw [← Option.some.inj found] at same
    exact absurd same different
  · exact marked.completed id record found same

end TaskManager

section Samples

def sampleJob : DispatchJob := ⟨.nil 24, 1, [], [], none⟩

end Samples
end Rayd.Tasks
