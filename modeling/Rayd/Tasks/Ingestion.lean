import Rayd.Tasks.Completion
import Rayd.Tasks.TaskManager

/-! What a completion leaves in the driver's index. The reply is taken in entry by entry,
and neither the ids nor their number are held against the job: a reply that breaks off
leaves a part of itself behind, and one that does not is believed as it is. -/
namespace Rayd.Tasks
open Memory Core

/-- The entries before the first that does not parse. -/
def ingested : List Value → List (ObjectId × PlasmaIndex)
  | [] => []
  | entry :: rest =>
    match parseEntry entry with
    | .error _ => []
    | .ok parsed => parsed :: ingested rest

section Frames
variable {frame : Option Value} {entries : List Value} {store : MemoryStore} {job : DispatchJob}

theorem getEntry_foldl_putPlasma (parsed : List (ObjectId × PlasmaIndex)) (store : MemoryStore) (id : ObjectId) :
    (parsed.foldl (fun store entry => store.putPlasma entry.1 entry.2) store).getEntry id =
      ((parsed.reverse.lookup id).map StoredEntry.plasma).or (store.getEntry id) := by
  induction parsed generalizing store with
  | nil => rfl
  | cons entry rest ih =>
    obtain ⟨object, index⟩ := entry
    rw [List.foldl_cons, ih, List.reverse_cons, List.lookup_append, MemoryStore.getEntry_putPlasma]
    cases rest.reverse.lookup id with
    | some later => rfl
    | none =>
      by_cases same : id = object
      · simp [same]
      · simp [List.lookup_cons, same, beq_eq_false_iff_ne.mpr same]

/-- Whatever the outcome, the entries before the first bad one are in the index. -/
theorem getEntry_ingestReturns (entries : List Value) (store : MemoryStore) (id : ObjectId) :
    (ingestReturns store entries).2.getEntry id =
      (((ingested entries).reverse.lookup id).map StoredEntry.plasma).or (store.getEntry id) := by
  rw [← getEntry_foldl_putPlasma]
  induction entries generalizing store with
  | nil => rfl
  | cons entry rest ih =>
    simp only [ingestReturns, ingested]
    cases parseEntry entry with
    | error failure => rfl
    | ok parsed => exact ih _

theorem lookup_reverse_eq_none_iff {parsed : List (ObjectId × PlasmaIndex)} {id : ObjectId} :
    parsed.reverse.lookup id = none ↔ id ∉ parsed.map Prod.fst := by
  simp only [List.lookup_eq_none_iff, List.mem_reverse, List.mem_map, not_exists, not_and, bne_iff_ne]
  exact forall_congr' fun pair => forall_congr' fun _ => ne_comm

theorem ingestReturns_absent_iff {id : ObjectId} :
    (ingestReturns store entries).2.getEntry id = none ↔
      id ∉ (ingested entries).map Prod.fst ∧ store.getEntry id = none := by
  rw [getEntry_ingestReturns, Option.or_eq_none_iff, Option.map_eq_none_iff, lookup_reverse_eq_none_iff]

theorem ingestReturns_same_iff {id : ObjectId} :
    (ingestReturns store entries).2.getEntry id = store.getEntry id ↔
      ∀ index, (ingested entries).reverse.lookup id = some index →
        store.getEntry id = some (.plasma index) := by
  rw [getEntry_ingestReturns]
  cases (ingested entries).reverse.lookup id with
  | none => simp
  | some index => simp [eq_comm]

/-- As a whole or not at all: with `Ok` an entry for each output of the job and none that
is new for another task, with `Err` the index as it was. -/
structure AllOrNothing (store : MemoryStore) (job : DispatchJob) (outcome : Ingested × MemoryStore) : Prop where
  complete : outcome.1 = .done → ∀ id ∈ job.objectIds, outcome.2.getEntry id ≠ none
  own : outcome.1 = .done → ∀ id, id.taskId ≠ job.taskId → store.getEntry id = none → outcome.2.getEntry id = none
  unchanged : ∀ failure, outcome.1 = .failed failure → ∀ id, outcome.2.getEntry id = store.getEntry id

/-- The entries of a reply that parses are for the job's outputs and no others, but for
what the index had before; those of one that breaks off were there already. -/
structure Answers (store : MemoryStore) (job : DispatchJob) (entries : List Value) : Prop where
  complete : Parses entries → ∀ id ∈ job.objectIds, id ∈ (ingested entries).map Prod.fst ∨ store.getEntry id ≠ none
  own : Parses entries → ∀ id ∈ (ingested entries).map Prod.fst, id.taskId = job.taskId ∨ store.getEntry id ≠ none
  known : ¬ Parses entries → ∀ id index, (ingested entries).reverse.lookup id = some index →
    store.getEntry id = some (.plasma index)

theorem Reaches.whole_iff (reaches : Reaches frame entries) (store : MemoryStore) (job : DispatchJob) :
    AllOrNothing store job (handleCompletion store frame) ↔ Answers store job entries := by
  have done := reaches.done_iff store
  have failed := reaches.failed_iff store
  have after : (handleCompletion store frame).2 = (ingestReturns store entries).2 := by
    rw [reaches.handle]
  constructor
  · rintro ⟨complete, own, unchanged⟩
    rw [after] at complete own unchanged
    refine ⟨fun parses id output => ?_, fun parses id named => ?_, fun broken id => ?_⟩
    · have entry := complete (done.mpr parses) id output
      rwa [ne_eq, ingestReturns_absent_iff, not_and_or, not_not] at entry
    · by_contra other
      obtain ⟨foreign, absent⟩ := not_or.mp other
      have nothing := own (done.mpr parses) id foreign (not_not.mp absent)
      exact (ingestReturns_absent_iff.mp nothing).1 named
    · obtain ⟨failure, stopped⟩ := failed.mpr broken
      exact ingestReturns_same_iff.mp (unchanged failure stopped id)
  · rintro ⟨complete, own, known⟩
    refine ⟨fun finished id output => ?_, fun finished id foreign absent => ?_, fun failure stopped id => ?_⟩
    · rw [after, ne_eq, ingestReturns_absent_iff, not_and_or, not_not]
      exact complete (done.mp finished) id output
    · rw [after, ingestReturns_absent_iff]
      refine ⟨fun named => ?_, absent⟩
      rcases own (done.mp finished) id named with here | present
      · exact foreign here
      · exact present absent
    · rw [after, ingestReturns_same_iff]
      exact known (failed.mp ⟨failure, stopped⟩) id

/-- A completion is taken in as a whole or not at all exactly when its entries answer the
job. -/
theorem completion_all_or_nothing_iff (store : MemoryStore) (job : DispatchJob) (frame : Option Value) :
    AllOrNothing store job (handleCompletion store frame) ↔
      ∀ entries, Reaches frame entries → Answers store job entries := by
  by_cases reached : ∃ entries, Reaches frame entries
  · obtain ⟨entries, reaches⟩ := reached
    rw [reaches.whole_iff]
    constructor
    · intro answers others again
      exact reaches.unique again ▸ answers
    · exact fun all => all entries reaches
  · have unreached := not_exists.mp reached
    obtain ⟨outcome, stopped, kept⟩ := handleCompletion_unreached unreached
    rw [kept]
    refine iff_of_true ⟨fun done => absurd done stopped, fun done => absurd done stopped, fun _ _ _ => rfl⟩ ?_
    exact fun entries reaches => absurd reaches (unreached entries)

end Frames

section Samples

/-- A reply with these return entries. -/
def replyWith (entries : List Value) : Option Value :=
  some (.dict [(.kind, .str "task_complete"), (.returns, .list entries)])

def entryFor (id : ObjectId) : Value :=
  .dict [(.objectId, .bytes id.bytes), (.metadata, .bytes [1, 0]), (.dataSize, .int 3)]

/-- For a job with one output: an empty reply is taken for a complete one, an output of
another task is indexed, and a reply that breaks off leaves its first entry. -/
theorem completion_taken_in_part :
    sampleJob.objectIds = [.forReturn sampleJob.taskId 0] ∧
    handleCompletion .empty (replyWith []) = (.done, .empty) ∧
    (∃ store, handleCompletion .empty (replyWith [entryFor (.forReturn ⟨List.replicate 24 1, rfl⟩ 0)]) =
        (.done, store) ∧ store.getEntry (.forReturn ⟨List.replicate 24 1, rfl⟩ 0) ≠ none) ∧
    ∃ store, handleCompletion .empty (replyWith [entryFor (.forReturn sampleJob.taskId 0), .object none none]) =
        (.failed .notDict, store) ∧ store.getEntry (.forReturn sampleJob.taskId 0) ≠ none :=
  ⟨rfl, rfl, ⟨_, rfl, by decide⟩, _, rfl, by decide⟩

end Samples

end Rayd.Tasks
