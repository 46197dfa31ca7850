import Rayd.Core.Sealing
import Rayd.Tasks.Completion
import Rayd.Tasks.TaskManager

/-! A task in its worker process. What the user's function does is a parameter:
loading the blobs, the call and each pickle may fail. Only the call itself is
guarded, so every other exception leaves `_execute_task`, and with it the worker's
main loop. The type checks on the message are left out, since the dispatcher
builds it. -/
namespace Rayd.Tasks
open Memory Core Plasma

/-- A value the function returned, with what pickling it gives. A tuple can be
stored whole or item by item. -/
inductive Returned where
  | tuple (whole : Option Bytes) (items : List (Option Bytes))
  | single (whole : Option Bytes)

def Returned.whole : Returned → Option Bytes
  | .tuple whole _ | .single whole => whole

/-- `raised` carries the error payload built from the exception. -/
inductive CallOutcome where
  | unloadable
  | raised (payload : Bytes)
  | returned (value : Returned)

/-- The exceptions that leave `_execute_task`. -/
inductive TaskFailure where
  | unloadable
  | unpicklable
  | invalidMetadata (failure : MetadataDecodeError)
  | sealFailed (failure : CoreError)
  deriving DecidableEq

def pickle5Header : Bytes := [1, 0]

/-- Category `TaskException`, raw code 0. -/
def errorHeader : Bytes := [16, 1, 0, 0]

/-- `_worker_seal`. -/
def workerSeal (s : Session) (id : ObjectId) (header data : Bytes) :
    Except TaskFailure Nat × Session :=
  match Metadata.decode header with
  | .error failure => (.error (.invalidMetadata failure), s)
  | .ok metadata =>
    match s.sealValueToPlasma id metadata data with
    | (.error failure, s) => (.error (.sealFailed failure), s)
    | (.ok size, s) => (.ok size, s)

def returnEntry (id : ObjectId) (header data : Bytes) : Value :=
  .dict [(.objectId, .bytes id.bytes), (.metadata, .bytes header), (.dataSize, .int data.length)]

/-- Pickle and seal one after the other, with the entries for the reply. -/
def sealReturns (s : Session) (header : Bytes) :
    List (ObjectId × Option Bytes) → Except TaskFailure (List Value) × Session
  | [] => (.ok [], s)
  | (_, none) :: _ => (.error .unpicklable, s)
  | (id, some data) :: rest =>
    match workerSeal s id header data with
    | (.error failure, s) => (.error failure, s)
    | (.ok _, s) =>
      match sealReturns s header rest with
      | (.error failure, s) => (.error failure, s)
      | (.ok entries, s) => (.ok (returnEntry id header data :: entries), s)

/-- `_spread_error`: the same payload under every id. -/
def spreadError (s : Session) (ids : List ObjectId) (payload : Bytes) :
    Except TaskFailure (List Value) × Session :=
  sealReturns s errorHeader (ids.map fun id => (id, some payload))

def taskComplete (job : DispatchJob) (entries : List Value) : Value :=
  .dict [(.kind, .str "task_complete"), (.taskId, .bytes job.taskId.bytes), (.returns, .list entries)]

/-- The entries of the reply. `typeError` is the payload of the error for a
result that is no tuple of the right length. -/
def taskEntries (s : Session) (job : DispatchJob) (call : CallOutcome) (typeError : Bytes) :
    Except TaskFailure (List Value) × Session :=
  match call with
  | .unloadable => (.error .unloadable, s)
  | .raised payload => spreadError s job.objectIds payload
  | .returned value =>
    if job.numReturns = 1 then
      sealReturns s pickle5Header (job.objectIds.map fun id => (id, value.whole))
    else
      match value with
      | .tuple _ items =>
        if items.length = job.numReturns.toNat then sealReturns s pickle5Header (job.objectIds.zip items)
        else spreadError s job.objectIds typeError
      | .single _ => spreadError s job.objectIds typeError

/-- The reply, or the exception that ends the worker. -/
def executeTask (s : Session) (job : DispatchJob) (call : CallOutcome) (typeError : Bytes) :
    Except TaskFailure Value × Session :=
  let (entries, s) := taskEntries s job call typeError
  (entries.map (taskComplete job), s)

/-- The pickles of a result that has as many values as the task has returns. -/
def Returned.payloads (value : Returned) (numReturns : UInt32) : Option (List Bytes) :=
  if numReturns = 1 then value.whole.map ([·])
  else
    match value with
    | .tuple _ items => if items.length = numReturns.toNat then items.mapM (·) else none
    | .single _ => none

/-- What a re-execution or a first execution has to seal. -/
def sealings (header : Metadata) (pairs : List (ObjectId × Bytes)) : List Sealing :=
  pairs.map fun pair => ⟨pair.1, header, pair.2⟩

theorem sealings_distinct {job : DispatchJob} {pairs : List (ObjectId × Bytes)}
    (ids : pairs.map Prod.fst = job.objectIds) (metadata : Metadata) :
    ((sealings metadata pairs).map Sealing.id).Nodup := by
  have same : (sealings metadata pairs).map Sealing.id = pairs.map Prod.fst := by
    rw [sealings, List.map_map]
    rfl
  rw [same, ids]
  exact job.objectIds_nodup

section Specs
variable {s : Session} {header : Bytes} {metadata : Metadata}

/-- With every pickle there, the loop is a sequence of seals. -/
theorem sealReturns_spec (decoded : Metadata.decode header = .ok metadata)
    (pairs : List (ObjectId × Bytes)) (s : Session) :
    (s.sealEach (sealings metadata pairs)).1 = .ok () ∧
        sealReturns s header (pairs.map fun pair => (pair.1, some pair.2)) =
          (.ok (pairs.map fun pair => returnEntry pair.1 header pair.2),
            (s.sealEach (sealings metadata pairs)).2) ∨
      (s.sealEach (sealings metadata pairs)).1 ≠ .ok () ∧
        ∃ failure t, sealReturns s header (pairs.map fun pair => (pair.1, some pair.2)) =
          (.error failure, t) := by
  induction pairs generalizing s with
  | nil => exact .inl ⟨rfl, rfl⟩
  | cons pair rest ih =>
    simp only [sealings, List.map_cons, Session.sealEach, sealReturns, workerSeal, decoded]
    rcases result : s.sealValueToPlasma pair.1 metadata pair.2 with ⟨reply, t⟩
    cases reply with
    | error failure => exact .inr ⟨by simp, _, _, rfl⟩
    | ok size =>
      rcases ih t with ⟨done, entries⟩ | ⟨stopped, failure, u, failed⟩
      · left
        simp only [entries]
        exact ⟨done, rfl⟩
      · right
        simp only [failed]
        exact ⟨stopped, _, _, rfl⟩

theorem asUnsigned_natCast (limit n : Nat) :
    (Value.int n).asUnsigned limit = if n < limit then some n else none := by
  simp [Value.asUnsigned, Value.asIndex]

theorem parseEntry_returnEntry (decoded : Metadata.decode header = .ok metadata) (id : ObjectId)
    (fits : data.length < 2 ^ 64) :
    parseEntry (returnEntry id header data) = .ok (id, ⟨metadata, data.length⟩) :=
  parseEntry_fields _ id rfl rfl rfl ((asUnsigned_natCast _ _).trans (if_pos fits)) decoded

theorem handleCompletion_taskComplete (store : MemoryStore) (job : DispatchJob)
    (decoded : Metadata.decode header = .ok metadata) (pairs : List (ObjectId × Bytes))
    (fits : ∀ pair ∈ pairs, pair.2.length < 2 ^ 64) :
    handleCompletion store (some (taskComplete job
        (pairs.map fun pair => returnEntry pair.1 header pair.2))) =
      (.done, (sealings metadata pairs).foldl (fun store value => store.putPlasma value.id value.index)
        store) := by
  have parsed : (pairs.map fun pair => returnEntry pair.1 header pair.2).map parseEntry =
      ((sealings metadata pairs).map fun value => (value.id, value.index)).map .ok := by
    simp only [sealings, List.map_map, Function.comp_def, Sealing.index]
    refine List.map_congr_left fun pair member => ?_
    rw [parseEntry_returnEntry decoded pair.1 (fits pair member)]
  have taken := ingestReturns_store store _ _ parsed
  rw [List.foldl_map] at taken
  rw [taskComplete, handleCompletion_fields store _ _ rfl rfl, taken]
  rfl

theorem mapM_eq_some {items : List (Option Bytes)} (all : items.mapM (·) = some payloads) :
    items = payloads.map some := by
  induction items generalizing payloads with
  | nil => cases all; rfl
  | cons item rest ih =>
    simp only [List.mapM_cons, Option.bind_eq_bind, Option.bind_eq_some_iff, Option.pure_def,
      Option.some.injEq] at all
    obtain ⟨head, rfl, tail, found, rfl⟩ := all
    rw [ih found]
    rfl

theorem payloads_length {value : Returned} (some : value.payloads numReturns = some payloads) :
    payloads.length = numReturns.toNat := by
  simp only [Returned.payloads] at some
  split at some
  · rename_i one
    obtain ⟨whole, _, rfl⟩ := Option.map_eq_some_iff.mp some
    rw [one]
    rfl
  · split at some
    · split at some
      · rename_i items _ sized
        rw [← sized, mapM_eq_some some, List.length_map]
      · cases some
    · cases some

/-- A result with the right number of values takes the loop over all outputs. -/
theorem taskEntries_returned {value : Returned} {job : DispatchJob}
    (some : value.payloads job.numReturns = some payloads) (typeError : Bytes) :
    taskEntries s job (.returned value) typeError =
      sealReturns s pickle5Header
        ((job.objectIds.zip payloads).map fun pair => (pair.1, Option.some pair.2)) := by
  simp only [Returned.payloads] at some
  simp only [taskEntries]
  split at some
  · rename_i one
    obtain ⟨whole, found, rfl⟩ := Option.map_eq_some_iff.mp some
    rw [if_pos one]
    simp [DispatchJob.objectIds, one, found]
  · rename_i several
    rw [if_neg several]
    cases value with
    | single whole => cases some
    | tuple whole items =>
      simp only at some ⊢
      split at some
      · rename_i sized
        rw [if_pos sized]
        rw [mapM_eq_some some, List.zip_map_right]
        rfl
      · cases some

end Specs

end Rayd.Tasks
