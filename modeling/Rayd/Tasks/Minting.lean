import Rayd.Core.Worker
import Rayd.Lib.Ownership
import Rayd.Tasks.Formats

/-! Where object ids come from. Every put, submission and actor call takes the next task id
from one atomic counter and builds its object ids from it. What comes after that may fail,
and calls overtake each other; a submitted task is with the dispatcher before its ids are
returned. The Python worker builds the ids of a task again from the task id. -/
namespace Rayd.Tasks.Minting
open Memory Core Threads Transition

inductive Call where
  | put
  | submitTask (numReturns : UInt32) (callableBlob argsBlob : Bytes) (kwargsBlob : Option Bytes)
  | mintActorResultRef
  deriving DecidableEq

/-- A submission without returns is refused before it takes a task id. -/
def Call.accepted : Call → Bool
  | .submitTask numReturns .. => numReturns != 0
  | .put | .mintActorResultRef => true

inductive Phase where
  | idle
  | minted (call : Call) (task : TaskId)
  | dispatched (job : DispatchJob)
  deriving DecidableEq

/-- The ids that one call returned. -/
structure Handout where
  task : TaskId
  ids : List ObjectId

structure Shared where
  worker : CoreWorker
  handedOut : List Handout
  dispatched : List DispatchJob

inductive Act where
  | refuse (call : Call)
  | mint (call : Call)
  | dispatch
  | fail
  | handOut
  deriving DecidableEq

inductive Own (s : Shared) : Phase → Act → Shared → Phase → Prop where
  | refuse : call.accepted = false → Own s .idle (.refuse call) s .idle
  | mint : call.accepted = true →
      Own s .idle (.mint call) { s with worker := s.worker.nextTaskId.2 } (.minted call s.worker.nextTaskId.1)
  /-- Pickling or sealing fails, or the owner of an actor's result is no node id. -/
  | fail : Own s (.minted call task) .fail s .idle
  | dispatch : Own s (.minted (.submitTask numReturns callableBlob argsBlob kwargsBlob) task) .dispatch
      { s with dispatched := s.dispatched ++ [⟨task, numReturns, callableBlob, argsBlob, kwargsBlob⟩] }
      (.dispatched ⟨task, numReturns, callableBlob, argsBlob, kwargsBlob⟩)
  | submitted : Own s (.dispatched job) .handOut
      { s with handedOut := s.handedOut ++ [⟨job.taskId, job.objectIds⟩] } .idle
  | stored : Own s (.minted .put task) .handOut
      { s with handedOut := s.handedOut ++ [⟨task, [.forReturn task 0]⟩] } .idle
  | minted : Own s (.minted .mintActorResultRef task) .handOut
      { s with handedOut := s.handedOut ++ [⟨task, [.forReturn task 0]⟩] } .idle

def start (worker : CoreWorker) : Pool Shared Phase := ⟨⟨worker, [], []⟩, fun _ => .idle⟩

def Act.mints : Act → Nat
  | .mint _ => 1
  | _ => 0

/-- The task ids that were taken. -/
def mints (path : List (Nat × Act)) : Nat := (path.map fun label => label.2.mints).sum

/-- The loop over `range(num_returns)` in `_execute_task`. -/
def workerIds (taskId : Bytes) (numReturns : Nat) : Except Process.Escaped (List Bytes) :=
  (List.range numReturns).mapM fun i => (Process.structPack [(4, i)]).map fun index => taskId ++ index

/-- The task id taken as number `k`, from zero. -/
def taskAt (jobId : JobId) (k : Nat) : TaskId :=
  ⟨jobId.bytes ++ LittleEndian.encode 8 ((k + 1) % 2 ^ 64),
    by simp only [List.length_append, jobId.size_eq, LittleEndian.encode_length]⟩

def Phase.task? : Phase → Option TaskId
  | .idle => none
  | .minted _ task => some task
  | .dispatched job => some job.taskId

def Shared.tasks (s : Shared) : List TaskId := s.handedOut.map (·.task)

theorem taskAt_injective {jobId : JobId} (left : i + 1 < 2 ^ 64) (right : j + 1 < 2 ^ 64)
    (same : taskAt jobId i = taskAt jobId j) : i = j := by
  have tails := List.append_cancel_left (congrArg Id.bytes same)
  rw [Nat.mod_eq_of_lt left, Nat.mod_eq_of_lt right] at tails
  have counters := congrArg LittleEndian.decode tails
  rw [LittleEndian.decode_encode (by simpa using left),
    LittleEndian.decode_encode (by simpa using right)] at counters
  omega

theorem workerIds_objectIds (job : DispatchJob) :
    workerIds job.taskId.bytes job.numReturns.toNat = .ok (job.objectIds.map (·.bytes)) := by
  rw [workerIds, Fallible.mapM_ok_iff, DispatchJob.objectIds, List.map_map, List.forall₂_map_right_iff,
    List.forall₂_same]
  intro i member
  have bound := job.numReturns.toNat_lt
  have fits : ∀ field ∈ [(4, i)], field.2 < 256 ^ field.1 := by
    intro field here
    rw [List.mem_singleton.mp here]
    have inside := List.mem_range.mp member
    show i < 256 ^ 4
    omega
  rw [Process.structPack_fits fits]
  simp [Except.map, ObjectId.forReturn]

/-- The ids of a dispatched task are on their way back or have been returned. -/
def Accounted (pool : Pool Shared Phase) (job : DispatchJob) : Prop :=
  (∃ thread, pool.threads thread = .dispatched job) ∨ ⟨job.taskId, job.objectIds⟩ ∈ pool.shared.handedOut

/-- After so many task ids: each belongs to one call, and what was returned was built from it. -/
structure Minted (jobId : JobId) (count : Nat) (pool : Pool Shared Phase) : Prop where
  job : pool.shared.worker.jobId = jobId
  counter : pool.shared.worker.nextTaskCounter = count % 2 ^ 64
  exclusive : Exclusive Phase.task? Shared.tasks pool
  older : ∀ task, pool.Has Phase.task? Shared.tasks task → ∃ k < count, task = taskAt jobId k
  built : ∀ handout ∈ pool.shared.handedOut, ∃ numReturns : UInt32,
    handout.ids = (List.range numReturns.toNat).map (.forReturn handout.task)
  jobs : ∀ job ∈ pool.shared.dispatched, Accounted pool job

section Steps
variable {jobId : JobId} {pool : Pool Shared Phase} {thread : Nat} {shared : Shared} {phase : Phase}

theorem Accounted.set (accounted : Accounted pool job) (grows : pool.shared.handedOut ⊆ shared.handedOut)
    (moved : pool.threads thread = .dispatched job →
      phase = .dispatched job ∨ ⟨job.taskId, job.objectIds⟩ ∈ shared.handedOut) :
    Accounted (pool.set thread shared phase) job := by
  rcases accounted with ⟨other, there⟩ | member
  · by_cases same : other = thread
    · subst same
      exact (moved there).imp_left fun still => ⟨other, (Pool.set_self ..).trans still⟩
    · exact .inl ⟨other, (Pool.set_ne _ same ..).trans there⟩
  · exact .inr (grows member)

theorem Accounted.apart (accounted : Accounted pool job) (before : pool.threads thread ≠ .dispatched job)
    (same : shared.handedOut = pool.shared.handedOut) : Accounted (pool.set thread shared phase) job :=
  accounted.set (same ▸ List.Subset.refl _) fun there => absurd there before

theorem Minted.fresh (minted : Minted jobId count pool) (few : count + 1 < 2 ^ 64) :
    ¬ pool.Has Phase.task? Shared.tasks (taskAt jobId count) := by
  intro has
  obtain ⟨k, before, same⟩ := minted.older _ has
  have := taskAt_injective few (by omega) same
  omega

theorem Minted.nextTaskId (minted : Minted jobId count pool) :
    pool.shared.worker.nextTaskId.1 = taskAt jobId count := by
  apply Id.ext
  show pool.shared.worker.jobId.bytes ++
    LittleEndian.encode 8 ((pool.shared.worker.nextTaskCounter + 1) % 2 ^ 64) = _
  rw [minted.job, minted.counter, Nat.mod_add_mod]
  rfl

theorem Minted.mint (minted : Minted jobId count pool) (few : count + 1 < 2 ^ 64)
    (idle : pool.threads thread = .idle) (call : Call) :
    Minted jobId (count + 1) (pool.set thread { pool.shared with worker := pool.shared.worker.nextTaskId.2 }
      (.minted call pool.shared.worker.nextTaskId.1)) := by
  have taken : Phase.task? (.minted call pool.shared.worker.nextTaskId.1) = some (taskAt jobId count) :=
    congrArg some minted.nextTaskId
  refine ⟨minted.job, ?_, minted.exclusive.take rfl taken (minted.fresh few), fun task has => ?_, minted.built,
    fun job member => ?_⟩
  · show (pool.shared.worker.nextTaskCounter + 1) % 2 ^ 64 = _
    rw [minted.counter, Nat.mod_add_mod]
  · rcases has.of_set with here | member | there
    · rw [taken] at here
      exact ⟨count, Nat.lt_succ_self count, (Option.some.inj here).symm⟩
    · obtain ⟨k, before, same⟩ := minted.older task (.inr member)
      exact ⟨k, Nat.lt_succ_of_lt before, same⟩
    · obtain ⟨k, before, same⟩ := minted.older task (.inl there)
      exact ⟨k, Nat.lt_succ_of_lt before, same⟩
  · refine (minted.jobs job member).apart (fun there => ?_) rfl
    cases idle.symm.trans there

theorem Minted.keep (minted : Minted jobId count pool) (worker : shared.worker = pool.shared.worker)
    (handedOut : shared.handedOut = pool.shared.handedOut)
    (owner : ∀ task, phase.task? = some task → (pool.threads thread).task? = some task)
    (jobs : ∀ job ∈ shared.dispatched, Accounted (pool.set thread shared phase) job) :
    Minted jobId count (pool.set thread shared phase) := by
  have tasks : shared.tasks = pool.shared.tasks := congrArg (List.map _) handedOut
  refine ⟨worker ▸ minted.job, worker ▸ minted.counter, minted.exclusive.keep tasks owner, fun task has => ?_,
    handedOut ▸ minted.built, jobs⟩
  rcases has.of_set with here | member | there
  · exact minted.older task (.inl ⟨thread, owner task here⟩)
  · exact minted.older task (.inr (tasks ▸ member))
  · exact minted.older task (.inl there)

theorem Minted.handOut (minted : Minted jobId count pool)
    (holds : (pool.threads thread).task? = some handout.task)
    (built : ∃ numReturns : UInt32, handout.ids = (List.range numReturns.toNat).map (.forReturn handout.task))
    (own : ∀ job, pool.threads thread = .dispatched job → handout = ⟨job.taskId, job.objectIds⟩) :
    Minted jobId count
      (pool.set thread { pool.shared with handedOut := pool.shared.handedOut ++ [handout] } .idle) := by
  have put : ({ pool.shared with handedOut := pool.shared.handedOut ++ [handout] } : Shared).tasks =
      pool.shared.tasks ++ [handout.task] := List.map_append
  refine ⟨minted.job, minted.counter, minted.exclusive.place holds put rfl, fun task has => ?_,
    fun other member => ?_, fun job member => ?_⟩
  · rcases has.of_set with here | member | there
    · cases here
    · rw [put, List.mem_append, List.mem_singleton] at member
      rcases member with member | rfl
      · exact minted.older task (.inr member)
      · exact minted.older handout.task (.inl ⟨thread, holds⟩)
    · exact minted.older task (.inl there)
  · rcases List.mem_append.mp member with before | here
    · exact minted.built other before
    · exact List.mem_singleton.mp here ▸ built
  · refine (minted.jobs job member).set (List.subset_append_left ..) fun there => .inr ?_
    exact List.mem_append_right _ (List.mem_singleton.mpr (own job there).symm)

theorem Minted.step {next : Pool Shared Phase} (minted : Minted jobId count pool)
    (step : Threads.Step Own pool (thread, act) next) (few : count + act.mints < 2 ^ 64) :
    Minted jobId (count + act.mints) next := by
  cases step with
  | act own =>
    generalize before : pool.threads thread = phase at own
    cases own with
    | mint accepted => exact minted.mint few before _
    | refuse | fail =>
      refine minted.keep rfl rfl (fun _ found => by cases found) fun job member => ?_
      refine (minted.jobs job member).apart (fun there => ?_) rfl
      cases before.symm.trans there
    | dispatch =>
      refine minted.keep rfl rfl (fun _ found => by rw [before]; exact found) fun job member => ?_
      rcases List.mem_append.mp member with earlier | here
      · refine (minted.jobs job earlier).apart (fun there => ?_) rfl
        cases before.symm.trans there
      · exact .inl ⟨thread, List.mem_singleton.mp here ▸ Pool.set_self ..⟩
    | @submitted job =>
      refine minted.handOut (congrArg Phase.task? before) ⟨job.numReturns, rfl⟩ fun other there => ?_
      cases before.symm.trans there
      rfl
    | stored | minted =>
      refine minted.handOut (congrArg Phase.task? before) ⟨1, rfl⟩ fun other there => ?_
      cases before.symm.trans there

end Steps

theorem mints_append (path : List (Nat × Act)) (label : Nat × Act) :
    mints (path ++ [label]) = mints path + label.2.mints := by
  rw [mints, List.map_append, List.sum_append, List.map_singleton, List.sum_singleton, mints]

theorem run_minted {jobId : JobId} {pool : Pool Shared Phase}
    (run : Run (Threads.Step Own) (start (.start walk jobId recoverer spillThreshold)) path pool)
    (few : mints path < 2 ^ 64) :
    Minted jobId (mints path) pool := by
  refine run.traced (P := fun path pool => mints path < 2 ^ 64 → Minted jobId (mints path) pool) ?_ ?_ few
  · intro path pool label next minted step few
    rw [mints_append] at few ⊢
    exact (minted (by omega)).step step few
  · intro _
    refine ⟨rfl, rfl, ⟨List.nodup_nil, ?_, ?_⟩, ?_, ?_, ?_⟩
    · intro thread task found
      cases found
    · intro thread other task found
      cases found
    · rintro task (⟨thread, found⟩ | member)
      · cases found
      · cases member
    · intro handout member
      cases member
    · intro job member
      cases member

section Results
variable {jobId : JobId} {pool : Pool Shared Phase} {handout : Handout} {job : DispatchJob} {id : ObjectId}
  {i : Nat}

theorem Minted.recovers (minted : Minted jobId count pool) (member : handout ∈ pool.shared.handedOut)
    (found : handout.ids[i]? = some id) : id.taskId = handout.task ∧ id.returnIndex = i := by
  obtain ⟨numReturns, same⟩ := minted.built handout member
  rw [same, List.getElem?_map, Option.map_eq_some_iff] at found
  obtain ⟨j, here, rfl⟩ := found
  obtain ⟨inside, rfl⟩ := List.getElem?_eq_some_iff.mp here
  have bound := numReturns.toNat_lt
  rw [List.length_range] at inside
  rw [List.getElem_range]
  exact ⟨ObjectId.forReturn_taskId _ _, ObjectId.forReturn_returnIndex _ (inside.trans bound)⟩

theorem Minted.ids_nodup (minted : Minted jobId count pool) : (pool.shared.handedOut.flatMap (·.ids)).Nodup := by
  rw [List.nodup_flatMap]
  constructor
  · intro handout member
    obtain ⟨numReturns, same⟩ := minted.built handout member
    rw [same]
    exact DispatchJob.objectIds_nodup ⟨handout.task, numReturns, [], [], none⟩
  · have tasks : pool.shared.handedOut.Pairwise fun one other => one.task ≠ other.task :=
      List.pairwise_map.mp minted.exclusive.once
    refine tasks.imp_of_mem fun {one other} first second different id left right => ?_
    obtain ⟨i, foundLeft⟩ := List.mem_iff_getElem?.mp left
    obtain ⟨j, foundRight⟩ := List.mem_iff_getElem?.mp right
    exact different ((minted.recovers first foundLeft).1.symm.trans (minted.recovers second foundRight).1)

theorem Minted.ids_of_job (minted : Minted jobId count pool) (sent : job ∈ pool.shared.dispatched)
    (member : handout ∈ pool.shared.handedOut) (same : handout.task = job.taskId) :
    handout.ids = job.objectIds := by
  rcases minted.jobs job sent with ⟨thread, there⟩ | returned
  · have placed : job.taskId ∈ pool.shared.tasks := same ▸ List.mem_map_of_mem member
    exact absurd placed (minted.exclusive.apart thread _ (congrArg Phase.task? there))
  · have one := List.inj_on_of_nodup_map minted.exclusive.once member returned same
    rw [one]

end Results

/-- However calls overlap, with fewer than 2⁶⁴ task ids taken: all ids returned are
distinct, each gives back its task id and return index, and the worker's ids of a
dispatched task are those that were or will be returned for it, in the same order. -/
theorem handed_out_ids_distinct {jobId : JobId} {pool : Pool Shared Phase}
    (run : Run (Threads.Step Own) (start (.start walk jobId recoverer spillThreshold)) path pool)
    (few : mints path < 2 ^ 64) :
    (pool.shared.handedOut.flatMap (·.ids)).Nodup ∧
    (∀ handout ∈ pool.shared.handedOut, ∀ (i : Nat) (id : ObjectId), handout.ids[i]? = some id →
      id.taskId = handout.task ∧ id.returnIndex = i) ∧
    ∀ job ∈ pool.shared.dispatched,
      ((∃ thread, pool.threads thread = .dispatched job) ∨
        ∃ handout ∈ pool.shared.handedOut, handout.task = job.taskId) ∧
      ∀ handout ∈ pool.shared.handedOut, handout.task = job.taskId →
        workerIds job.taskId.bytes job.numReturns.toNat = .ok (handout.ids.map (·.bytes)) := by
  have minted := run_minted run few
  refine ⟨minted.ids_nodup, fun handout member i id => minted.recovers member, fun job sent => ⟨?_, ?_⟩⟩
  · exact (minted.jobs job sent).imp_right fun returned => ⟨_, returned, rfl⟩
  · intro handout member same
    rw [minted.ids_of_job sent member same]
    exact workerIds_objectIds job

/-- A submission of two returns is overtaken by a put. -/
theorem overtaken_submission_ids :
    ∃ path pool, Run (Threads.Step Own) (start (.start .newest (.nil 16) none 0)) path pool ∧ mints path = 2 ∧
      pool.shared.handedOut.map (·.ids.length) = [1, 2] ∧ (pool.shared.handedOut.flatMap (·.ids)).Nodup := by
  have run : Run (Threads.Step Own) (start (.start .newest (.nil 16) none 0)) [] _ := .refl
  have run := run.next (a := (0, .mint (.submitTask 2 [] [] none))) (.act (.mint rfl))
  have run := run.next (a := (1, .mint .put)) (.act (.mint rfl))
  have run := run.next (a := (0, .dispatch)) (.act .dispatch)
  have run := run.next (a := (1, .handOut)) (.act .stored)
  have run := run.next (a := (0, .handOut)) (.act .submitted)
  exact ⟨_, _, run, rfl, rfl, (handed_out_ids_distinct run (by decide)).1⟩

end Rayd.Tasks.Minting
