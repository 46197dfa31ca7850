import Rayd.Tasks.Execution

/-! Making lost results again. The driver decides by its own index alone: an id
without an entry is pending, and the producing task is resubmitted if its record
allows. The worker then creates every output anew, so an output that is still in
plasma stands in its way, and a lost object that is still indexed is never
noticed. -/
namespace Rayd.Tasks
open Memory Core Plasma Spill

/-- What a run of the job has to seal, output by output. -/
def outputSealings (job : DispatchJob) (payloads : List Bytes) : List Sealing :=
  sealings (.pickle5 false) (job.objectIds.zip payloads)

theorem outputSealings_distinct {job : DispatchJob} (sized : payloads.length = job.numReturns.toNat) :
    ((outputSealings job payloads).map Sealing.id).Nodup := by
  apply sealings_distinct
  exact List.map_fst_zip (by rw [sized, DispatchJob.objectIds_length])

/-- The job runs to its reply, the driver takes the reply in, and every output
resolves in the driver to the value the function returned. -/
def Rebuilt (driver worker : CoreWorker) (plasma : Store) (job : DispatchJob) (value : Returned)
    (typeError : Bytes) (payloads : List Bytes) : Prop :=
  ∃ reply after store, executeTask ⟨worker, plasma⟩ job (.returned value) typeError = (.ok reply, after) ∧
    handleCompletion driver.store (some reply) = (.done, store) ∧
    ∀ output ∈ outputSealings job payloads,
      (Session.resolveNow ⟨{ driver with store := store }, after.plasma⟩ output.id).1 =
        .ok (some ⟨output.metadata, output.data⟩)

section Rebuilding
variable {driver worker : CoreWorker} {plasma : Store} {job : DispatchJob} {value : Returned}
  {typeError : Bytes} {payloads : List Bytes}

theorem executeTask_returned (some : value.payloads job.numReturns = some payloads) (typeError : Bytes)
    (s : Session) :
    (s.sealEach (outputSealings job payloads)).1 = .ok () ∧
        executeTask s job (.returned value) typeError =
          (.ok (taskComplete job ((job.objectIds.zip payloads).map fun pair =>
            returnEntry pair.1 pickle5Header pair.2)), (s.sealEach (outputSealings job payloads)).2) ∨
      (s.sealEach (outputSealings job payloads)).1 ≠ .ok () ∧
        ∃ failure t, executeTask s job (.returned value) typeError = (.error failure, t) := by
  simp only [executeTask, taskEntries_returned some]
  have decoded : Metadata.decode pickle5Header = .ok (.pickle5 false) := rfl
  rcases sealReturns_spec decoded (job.objectIds.zip payloads) s with
    ⟨done, entries⟩ | ⟨stopped, failure, t, failed⟩
  · rw [entries]
    exact .inl ⟨done, rfl⟩
  · rw [failed]
    exact .inr ⟨stopped, failure, t, rfl⟩

theorem rebuilt_iff (some : value.payloads job.numReturns = some payloads)
    (unspilled : worker.recoverer = none) :
    Rebuilt driver worker plasma job value typeError payloads ↔
      Session.Sealable plasma (outputSealings job payloads) := by
  have distinct := outputSealings_distinct (payloads_length some)
  rw [← Session.sealEach_ok_iff _ ⟨worker, plasma⟩ distinct fun _ _ => .inl unspilled]
  constructor
  · rintro ⟨reply, after, store, ran, _⟩
    rcases executeTask_returned some typeError ⟨worker, plasma⟩ with
      ⟨done, _⟩ | ⟨_, failure, t, failed⟩
    · exact done
    · rw [failed] at ran
      cases ran
  · intro sealable
    rcases executeTask_returned some typeError ⟨worker, plasma⟩ with
      ⟨done, ran⟩ | ⟨stopped, _⟩
    · have fits : ∀ pair ∈ job.objectIds.zip payloads, pair.2.length < 2 ^ 64 := by
        have room := ((Session.sealEach_ok_iff _ ⟨worker, plasma⟩ distinct
          fun _ _ => .inl unspilled).mp done).room
        intro pair member
        exact Store.roomAll_data_lt room _ (List.mem_map_of_mem (List.mem_map_of_mem member))
      refine ⟨_, _, _, ran, handleCompletion_taskComplete driver.store job rfl _ fits, ?_⟩
      intro output member
      have listed := (MemoryStore.getEntry_putAll _ driver.store distinct).1 output member
      have held := (Session.sealEach_objects _ ⟨worker, plasma⟩ distinct unspilled done).1 output member
      exact Session.resolveNow_held (s := ⟨{ driver with store := _ }, _⟩) listed held
    · exact absurd sealable stopped

/-- A recorded task that has completed and has budget left is handed out again,
and its run makes all outputs readable exactly when none of them is left in
plasma and there is room for all. -/
theorem resubmitted_task_seals_iff {tasks : TaskManager} {record : TaskRecord}
    (found : tasks.lookup object = some record)
    (completed : record.wasCompleted = true) (budget : record.retriesRemaining ≠ 0)
    (returned : value.payloads record.numReturns = some payloads)
    (unspilled : worker.recoverer = none) :
    (tasks.tryResubmit object).1 = some record.job ∧
      (Rebuilt driver worker plasma record.job value typeError payloads ↔
        Session.Sealable plasma (outputSealings record.job payloads)) := by
  refine ⟨?_, rebuilt_iff returned unspilled⟩
  simp [TaskManager.tryResubmit, found, completed, budget]

end Rebuilding

/-- What `rayd.get` comes to for a ref of this driver. -/
inductive GetOutcome where
  /-- Blocked until the value is there, after resubmitting the job if any. -/
  | waiting (resubmitted : Option DispatchJob)
  | unreconstructable
  | resolved (object : RayObject)
  | failed (failure : CoreError)

/-- `_maybe_resubmit_local_lineage`: none when the budget is exhausted, else the
job handed to the dispatcher. -/
def maybeResubmitLocalLineage (store : MemoryStore) (tasks : TaskManager) (id : ObjectId) :
    Option (Option DispatchJob) × TaskManager :=
  if store.stateOf id ≠ .pending then (some none, tasks)
  else
    match tasks.lineageStatus id with
    | .readyToResubmit =>
      let (job, tasks) := tasks.tryResubmit id
      (some job, tasks)
    | .budgetExhausted => (none, tasks)
    | .notRecorded | .notYetCompleted => (some none, tasks)

/-- `rayd.get` of one local ref, with nobody else at work. -/
def getLocal (s : Session) (tasks : TaskManager) (id : ObjectId) : GetOutcome × Session × TaskManager :=
  match maybeResubmitLocalLineage s.worker.store tasks id with
  | (none, tasks) => (.unreconstructable, s, tasks)
  | (some job, tasks) =>
    match s.resolveNow id with
    | (.ok none, s) => (.waiting job, s, tasks)
    | (.ok (some object), s) => (.resolved object, s, tasks)
    | (.error failure, s) => (.failed failure, s, tasks)

/-- The raylet's `Evict` for one object: plasma and the spill directory, without
a word to the driver's index. -/
def evictRpc (s : Session) (id : ObjectId) : Session :=
  ⟨{ s.worker with recoverer := s.worker.recoverer.map fun manager => (manager.forget id).2 },
    s.plasma.delete id⟩

section Getting
variable {s : Session} {tasks : TaskManager} {record : TaskRecord} {id : ObjectId}

/-- The bytes are neither in plasma nor in the spill directory. -/
structure Lost (s : Session) (id : ObjectId) : Prop where
  plasma : s.plasma.objects.lookup id = none
  unspilled : ∀ manager, s.worker.recoverer = some manager → manager.spillUrl id = none

theorem resolveNow_lost (lost : Lost s id) (listed : s.worker.store.getEntry id = some (.plasma index)) :
    ∃ message, (s.resolveNow id).1 = .error (.plasma (.server .notFound message)) := by
  simp only [Session.resolveNow, listed, Session.resolveEntry, Store.get, lost.plasma,
    Session.recoverAndReseal]
  cases registered : s.worker.recoverer with
  | none => exact ⟨_, rfl⟩
  | some manager =>
    simp only [LocalObjectManager.restore, lost.unspilled manager registered]
    exact ⟨_, rfl⟩

theorem maybeResubmit_unlisted (found : tasks.lookup id = some record)
    (completed : record.wasCompleted = true) (budget : record.retriesRemaining ≠ 0)
    (unlisted : s.worker.store.getEntry id = none) :
    (maybeResubmitLocalLineage s.worker.store tasks id).1 = some (some record.job) := by
  have pending := (MemoryStore.stateOf_pending_iff s.worker.store id).mpr unlisted
  simp [maybeResubmitLocalLineage, pending, TaskManager.lineageStatus, found, completed, budget,
    TaskManager.tryResubmit]

theorem maybeResubmit_listed (listed : s.worker.store.getEntry id = some entry) :
    maybeResubmitLocalLineage s.worker.store tasks id = (some none, tasks) := by
  have ready : s.worker.store.stateOf id ≠ .pending := by
    rw [ne_eq, MemoryStore.stateOf_pending_iff, listed]
    exact Option.some_ne_none _
  simp only [maybeResubmitLocalLineage, if_pos ready]

theorem getLocal_unlisted (found : tasks.lookup id = some record)
    (completed : record.wasCompleted = true) (budget : record.retriesRemaining ≠ 0)
    (unlisted : s.worker.store.getEntry id = none) :
    (getLocal s tasks id).1 = .waiting (some record.job) := by
  have hook := maybeResubmit_unlisted found completed budget unlisted
  simp only [getLocal]
  split
  · rename_i result
    rw [result] at hook
    cases hook
  · rename_i result
    rw [result, Option.some.injEq] at hook
    simp only [Session.resolveNow, unlisted, hook]

theorem getLocal_listed (listed : s.worker.store.getEntry id = some entry) (job : DispatchJob) :
    (getLocal s tasks id).1 ≠ .waiting (some job) := by
  simp only [getLocal, maybeResubmit_listed listed]
  split <;> simp

/-- For a lost result of a completed task with budget left, `get` resubmits
exactly when the index has no entry for it; a plasma entry makes it fail. -/
theorem lost_result_resubmitted_iff (found : tasks.lookup id = some record)
    (completed : record.wasCompleted = true) (budget : record.retriesRemaining ≠ 0)
    (lost : Lost s id) :
    ((getLocal s tasks id).1 = .waiting (some record.job) ↔ s.worker.store.getEntry id = none) ∧
      ∀ index, s.worker.store.getEntry id = some (.plasma index) →
        ∃ message, (getLocal s tasks id).1 = .failed (.plasma (.server .notFound message)) := by
  refine ⟨⟨fun resubmits => ?_, getLocal_unlisted found completed budget⟩, fun index listed => ?_⟩
  · cases listed : s.worker.store.getEntry id with
    | none => rfl
    | some entry => exact absurd resubmits (getLocal_listed listed record.job)
  · obtain ⟨message, failed⟩ := resolveNow_lost lost listed
    refine ⟨message, ?_⟩
    simp only [getLocal, maybeResubmit_listed listed]
    split <;> rename_i result <;> rw [result] at failed <;> cases failed
    rfl

end Getting

section Samples

def sampleOutput : ObjectId := .forReturn sampleJob.taskId 0
def sampleResult : Returned := .single (some [1, 2, 3])
def sampleProcess : CoreWorker := .start .newest (.nil 16) none (2 ^ 64 - 1)
def sampleArena : Store := ⟨.onePage, ∅⟩

/-- The sample task has been submitted, and has completed once. -/
def sampleTasks : TaskManager :=
  (TaskManager.new.record sampleJob.objectIds sampleJob).markCompleted sampleJob.taskId

def sampleRecord : TaskRecord := { TaskManager.freshRecord sampleJob with wasCompleted := true }

/-- The session of the worker after the first run. -/
def sampleRun : Session :=
  (executeTask ⟨sampleProcess, sampleArena⟩ sampleJob (.returned sampleResult) []).2

/-- The driver's worker after it has taken in the reply of the first run. -/
def sampleIndexed : CoreWorker :=
  { sampleProcess with store := MemoryStore.empty.putPlasma sampleOutput ⟨.pickle5 false, 3⟩ }

/-- A task with two outputs that has completed once. -/
def twinJob : DispatchJob := ⟨.nil 24, 2, [], [], none⟩

def twinTasks : TaskManager := (TaskManager.new.record twinJob.objectIds twinJob).markCompleted twinJob.taskId

def twinResult : Returned := .tuple (some [9]) [some [1, 2, 3], some [4]]

/-- Both outputs are gone from plasma, so the second run can make them again; it is asked
for by the second of them. -/
theorem evicted_task_rebuilt :
    (twinTasks.tryResubmit (.forReturn twinJob.taskId 1)).1 = some twinJob ∧
      Rebuilt sampleProcess sampleProcess sampleArena twinJob twinResult [] [[1, 2, 3], [4]] := by
  have found : twinTasks.lookup (.forReturn twinJob.taskId 1) =
    some { TaskManager.freshRecord twinJob with wasCompleted := true } := rfl
  have returned : twinResult.payloads (TaskManager.freshRecord twinJob).numReturns = some [[1, 2, 3], [4]] := rfl
  have unspilled : sampleProcess.recoverer = none := rfl
  have sealable : Session.Sealable sampleArena (outputSealings twinJob [[1, 2, 3], [4]]) :=
    ⟨fun _ _ => rfl, by decide⟩
  have both : _ ∧ (Rebuilt sampleProcess sampleProcess sampleArena _ _ [] _ ↔ _) :=
    resubmitted_task_seals_iff found rfl (by decide) returned unspilled
  exact ⟨both.1, both.2.mpr sealable⟩

/-- `rayd.free` drops the index entry and leaves the plasma copy, on which the
second run fails. -/
theorem freed_result_blocks_rerun :
    ∃ reply store message,
      executeTask ⟨sampleProcess, sampleArena⟩ sampleJob (.returned sampleResult) [] =
        (.ok reply, sampleRun) ∧
      handleCompletion .empty (some reply) = (.done, store) ∧
      (store.delete sampleJob.objectIds).getEntry sampleOutput = none ∧
      (sampleTasks.tryResubmit sampleOutput).1 = some sampleJob ∧
      (executeTask sampleRun sampleJob (.returned sampleResult) []).1 =
        .error (.sealFailed (.plasma (.server .alreadyExists message))) :=
  ⟨_, _, _, rfl, rfl, rfl, rfl, rfl⟩

/-- `evict_local` takes the index entry with it, so the loss is noticed. -/
theorem evicted_result_resubmitted :
    (getLocal (Session.evictLocal ⟨sampleIndexed, sampleRun.plasma⟩ sampleOutput) sampleTasks
      sampleOutput).1 = .waiting (some sampleJob) := by
  have found : sampleTasks.lookup sampleOutput = some sampleRecord := rfl
  have lost : Lost (Session.evictLocal ⟨sampleIndexed, sampleRun.plasma⟩ sampleOutput) sampleOutput :=
    ⟨rfl, nofun⟩
  exact (lost_result_resubmitted_iff found rfl (by decide) lost).1.mpr rfl

/-- The same loss by the raylet's `Evict` leaves the entry, and `get` fails. -/
theorem evict_rpc_not_noticed :
    ∃ message, sampleTasks.lineageStatus sampleOutput = .readyToResubmit ∧
      (Session.resolveNow ⟨sampleIndexed, sampleRun.plasma⟩ sampleOutput).1 =
        .ok (some ⟨.pickle5 false, [1, 2, 3]⟩) ∧
      Lost (evictRpc ⟨sampleIndexed, sampleRun.plasma⟩ sampleOutput) sampleOutput ∧
      (getLocal (evictRpc ⟨sampleIndexed, sampleRun.plasma⟩ sampleOutput) sampleTasks sampleOutput).1 =
        .failed (.plasma (.server .notFound message)) :=
  ⟨_, rfl, rfl, ⟨rfl, nofun⟩, rfl⟩

end Samples
end Rayd.Tasks
