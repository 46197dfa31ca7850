import Rayd.Tasks.Conservation
import Rayd.Tasks.Execution

/-! The jobs under way, each task at most once, and the outputs they have yet to
write. A first submit has fresh outputs. A task is handed out again only after its
last run was marked completed, but nothing in the lineage table says which of its
outputs the driver still indexes; `Yielding` asks for that. -/
namespace Rayd.Tasks
open Memory Core Plasma Transition

/-- A job whose reply has not been taken in. -/
def Phase.unwritten : Phase → Multiset Ticket
  | .building ticket | .sending ticket | .waiting ticket | .ingesting ticket _ => {ticket}
  | .greeting | .idle | .marking _ | .exited => 0

/-- The reply indexes nothing but outputs of the job, also when it is cut short. -/
def Names (job : DispatchJob) (frame : Option Value) : Prop :=
  ∀ (store : MemoryStore) (id : ObjectId), id ∉ job.objectIds →
    (handleCompletion store frame).2.getEntry id = store.getEntry id

section Replies

theorem ingestReturns_other {entries : List Value} {id : ObjectId}
    (apart : ∀ entry ∈ entries, ∀ other index, parseEntry entry = .ok (other, index) → other ≠ id)
    (store : MemoryStore) : (ingestReturns store entries).2.getEntry id = store.getEntry id := by
  induction entries generalizing store with
  | nil => rfl
  | cons entry rest ih =>
    obtain ⟨head, tail⟩ := List.forall_mem_cons.mp apart
    simp only [ingestReturns]
    cases parsed : parseEntry entry with
    | error failure => rfl
    | ok pair =>
      have different := head pair.1 pair.2 parsed
      simp only
      rw [ih tail, MemoryStore.getEntry_putPlasma, if_neg different.symm]

theorem parseEntry_id {fields : List (Key × Value)} {id other : ObjectId}
    (objectId : Value.field fields .objectId = some (.bytes id.bytes))
    (parsed : parseEntry (.dict fields) = .ok (other, index)) : other = id := by
  simp only [parseEntry, Value.asDict, require, objectId, Value.asBytes, extract, bind, Except.bind,
    Id.fromBytes?_bytes] at parsed
  cases described : Value.field fields .metadata with
  | none => simp only [described, reduceCtorEq] at parsed
  | some header =>
    cases sized : Value.field fields .dataSize with
    | none =>
      simp only [described, sized] at parsed
      split at parsed <;> cases parsed
    | some size =>
      simp only [described, sized] at parsed
      split at parsed
      · cases parsed
      · split at parsed
        · cases parsed
        · split at parsed
          · cases parsed
          · cases parsed
            rfl

theorem sealReturns_entries {pairs : List (ObjectId × Option Bytes)} {header : Bytes}
    (done : sealReturns s header pairs = (.ok entries, t)) :
    ∀ entry ∈ entries, ∃ pair ∈ pairs, ∃ data, entry = returnEntry pair.1 header data := by
  induction pairs generalizing s entries with
  | nil =>
    cases done
    intro entry member
    cases member
  | cons pair rest ih =>
    obtain ⟨id, pickle⟩ := pair
    cases pickle with
    | none => cases done
    | some data =>
      simp only [sealReturns] at done
      split at done
      · cases done
      · split at done
        · cases done
        · rename_i result
          cases done
          intro entry member
          rcases List.mem_cons.mp member with rfl | later
          · exact ⟨_, List.mem_cons_self, data, rfl⟩
          · obtain ⟨pair, listed, rest⟩ := ih result entry later
            exact ⟨pair, List.mem_cons_of_mem _ listed, rest⟩

theorem spreadError_entries {ids : List ObjectId} (done : spreadError s ids payload = (.ok entries, t)) :
    ∀ entry ∈ entries, ∃ id ∈ ids, ∃ header data, entry = returnEntry id header data := by
  intro entry member
  obtain ⟨pair, listed, data, rfl⟩ := sealReturns_entries done entry member
  obtain ⟨id, inside, rfl⟩ := List.mem_map.mp listed
  exact ⟨id, inside, _, data, rfl⟩

theorem taskEntries_ids {call : CallOutcome} (done : taskEntries s job call typeError = (.ok entries, t)) :
    ∀ entry ∈ entries, ∃ id ∈ job.objectIds, ∃ header data, entry = returnEntry id header data := by
  cases call with
  | unloadable => cases done
  | raised payload => exact spreadError_entries done
  | returned value =>
    simp only [taskEntries] at done
    split at done
    · intro entry member
      obtain ⟨pair, listed, data, rfl⟩ := sealReturns_entries done entry member
      obtain ⟨id, inside, rfl⟩ := List.mem_map.mp listed
      exact ⟨id, inside, _, data, rfl⟩
    · split at done
      · split at done
        · intro entry member
          obtain ⟨pair, listed, data, rfl⟩ := sealReturns_entries done entry member
          exact ⟨pair.1, (List.of_mem_zip listed).1, _, data, rfl⟩
        · exact spreadError_entries done
      · exact spreadError_entries done

theorem executeTask_names {call : CallOutcome}
    (done : executeTask s job call typeError = (.ok reply, t)) : Names job (some reply) := by
  simp only [executeTask] at done
  rcases ran : taskEntries s job call typeError with ⟨result, after⟩
  rw [ran] at done
  cases result with
  | error failure => cases done
  | ok entries =>
    cases done
    intro store id outside
    rw [taskComplete, handleCompletion_fields store _ entries rfl rfl]
    refine ingestReturns_other (fun entry member other index parsed same => ?_) store
    obtain ⟨own, inside, header, data, rfl⟩ := taskEntries_ids ran entry member
    rw [same] at parsed
    exact outside (parseEntry_id rfl parsed ▸ inside)

end Replies

namespace Dispatcher

/-- The jobs that are prepared, queued, or in a handler's hands as `count` counts. -/
def underWay (s : Dispatcher) (count : Phase → Multiset Ticket) : Multiset DispatchJob :=
  s.prepared + ((s.queue : Multiset Ticket) + Slots.total count s.connections).map Ticket.job

/-- All jobs under way. -/
def jobs (s : Dispatcher) : Multiset DispatchJob := s.underWay Phase.held

/-- The jobs that may still write to the index. -/
def unwritten (s : Dispatcher) : Multiset DispatchJob := s.underWay Phase.unwritten

theorem underWay_setPhase {s : Dispatcher} (count : Phase → Multiset Ticket)
    (found : s.connections[connection]? = some old) (new : Phase) :
    (s.setPhase connection new).underWay count + (count old).map Ticket.job =
      s.underWay count + (count new).map Ticket.job := by
  have moved := Slots.total_set count found new
  simp only [underWay, setPhase, add_assoc, ← Multiset.map_add, moved]

theorem unwritten_le (s : Dispatcher) : s.unwritten ≤ s.jobs := by
  have counted : ∀ phase : Phase, phase.unwritten ≤ phase.held := by
    intro phase
    cases phase with
    | marking ticket => exact Multiset.zero_le _
    | _ => exact le_rfl
  exact add_le_add le_rfl (Multiset.map_le_map (add_le_add le_rfl (Slots.total_le counted _)))

theorem underWay_le {s : Dispatcher} {count : Phase → Multiset Ticket}
    (found : s.connections[connection]? = some old) (le : count new ≤ count old) :
    (s.setPhase connection new).underWay count ≤ s.underWay count := by
  have moved := underWay_setPhase count found new
  have grown := add_le_add (le_refl (s.underWay count)) (Multiset.map_le_map (f := Ticket.job) le)
  rw [← moved] at grown
  exact le_of_add_le_add_right grown

theorem underWay_released {s : Dispatcher} (count : Phase → Multiset Ticket)
    (found : s.connections[connection]? = some old) (held : count old = {ticket}) (new : Phase)
    (empty : count new = 0) :
    ticket.job ::ₘ (s.setPhase connection new).underWay count = s.underWay count := by
  have moved := underWay_setPhase count found new
  rw [held, empty, Multiset.map_singleton, Multiset.map_zero, add_zero] at moved
  rw [← moved, ← Multiset.singleton_add, add_comm]

theorem underWay_nextJob {s : Dispatcher} {count : Phase → Multiset Ticket}
    (found : s.connections[connection]? = some old) (free : count old = 0)
    (taken : count new = {ticket}) (waiting : s.queue = ticket :: rest) :
    ({ s.setPhase connection new with queue := rest } : Dispatcher).underWay count =
      s.underWay count := by
  have moved := Slots.total_set count found new
  rw [free, taken, add_zero] at moved
  simp only [underWay, setPhase, waiting, moved, ← Multiset.cons_coe, ← Multiset.singleton_add]
  rw [add_comm {ticket} (rest : Multiset Ticket), add_assoc (rest : Multiset Ticket) {ticket},
    add_comm {ticket} (Slots.total count s.connections)]

theorem underWay_requeue {s : Dispatcher} {count : Phase → Multiset Ticket}
    (found : s.connections[connection]? = some old) (held : count old = {ticket})
    (empty : count new = 0) :
    ({ s.setPhase connection new with queue := ticket :: s.queue } : Dispatcher).underWay count =
      s.underWay count := by
  have moved := Slots.total_set count found new
  rw [held, empty, add_zero] at moved
  simp only [underWay, setPhase, ← moved, ← Multiset.cons_coe, ← Multiset.singleton_add]
  rw [add_comm {ticket} (s.queue : Multiset Ticket), add_assoc (s.queue : Multiset Ticket) {ticket},
    add_comm {ticket} (Slots.total count _)]

theorem underWay_submit {s : Dispatcher} (count : Phase → Multiset Ticket) (ready : job ∈ s.prepared) :
    (s.submit job).underWay count ≤ s.underWay count := by
  have taken : (s.prepared : Multiset DispatchJob) = job ::ₘ (s.prepared.erase job : List DispatchJob) := by
    rw [← Multiset.coe_erase, Multiset.cons_erase (Multiset.mem_coe.mpr ready)]
  simp only [submit]
  split
  · exact add_le_add (Multiset.coe_le.mpr (List.erase_sublist.subperm)) le_rfl
  · simp only [underWay, taken, ← Multiset.coe_add, Multiset.map_add, Multiset.coe_singleton,
      Multiset.map_singleton, ← Multiset.singleton_add]
    apply le_of_eq
    abel

end Dispatcher

/-- Every output of the job has a record, and there is at least one. -/
structure Filed (tasks : TaskManager) (job : DispatchJob) : Prop where
  returns : 0 < job.numReturns.toNat
  outputs : ∀ id ∈ job.objectIds, tasks.lookup id ≠ none

theorem Filed.mono (filed : Filed tasks job)
    (kept : ∀ id, tasks.lookup id ≠ none → later.lookup id ≠ none) : Filed later job :=
  ⟨filed.returns, fun id output => kept id (filed.outputs id output)⟩

/-- What the jobs under way have in common. -/
structure Live (s : Dispatcher) : Prop where
  once : (s.jobs.map DispatchJob.taskId).Nodup
  filed : ∀ job ∈ s.jobs, Filed s.tasks job
  records : ∀ id record, s.tasks.lookup id = some record → Filed s.tasks record.job
  completed : ∀ id record, s.tasks.lookup id = some record → record.wasCompleted = true →
    ∀ job ∈ s.jobs, job.taskId ≠ record.taskId
  absent : ∀ job ∈ s.unwritten, ∀ id ∈ job.objectIds, s.store.getEntry id = none
  named : ∀ ticket frame, .ingesting ticket frame ∈ s.connections → Names ticket.job frame

/-- Outputs of a new task are not indexed; a task is handed out again only when
none of its outputs is indexed; and a reply speaks of its own job. -/
def Yielding (s : Dispatcher) : Action → Prop
  | .record job => ∀ id ∈ job.objectIds, s.store.getEntry id = none
  | .tryResubmit id => ∀ job tasks, s.tasks.tryResubmit id = (some job, tasks) →
      ∀ output ∈ job.objectIds, s.store.getEntry output = none
  | .receive connection frame => ∀ ticket,
      s.connections[connection]? = some (.waiting ticket) → Names ticket.job frame
  | _ => True

theorem DispatchJob.objectIds_taskId {job : DispatchJob} {id : ObjectId} (member : id ∈ job.objectIds) :
    id.taskId = job.taskId := by
  obtain ⟨index, _, rfl⟩ := List.mem_map.mp member
  exact ObjectId.forReturn_taskId _ _

theorem DispatchJob.first_mem {job : DispatchJob} (returns : 0 < job.numReturns.toNat) :
    ObjectId.forReturn job.taskId 0 ∈ job.objectIds :=
  List.mem_map_of_mem (List.mem_range.mpr returns)

namespace Live
variable {s t : Dispatcher} {connection : Nat}

theorem start : Live .start where
  once := Multiset.nodup_zero
  filed _ member := absurd member (Multiset.notMem_zero _)
  records _ _ found := nomatch found
  completed _ _ found := nomatch found
  absent _ member := absurd member (Multiset.notMem_zero _)
  named _ _ member := nomatch member

theorem narrow (live : Live s) (jobs : t.jobs ≤ s.jobs) (unwritten : t.unwritten ≤ s.unwritten)
    (tasks : t.tasks = s.tasks)
    (store : ∀ job ∈ t.unwritten, ∀ id ∈ job.objectIds, s.store.getEntry id = none →
      t.store.getEntry id = none)
    (named : ∀ ticket frame, .ingesting ticket frame ∈ t.connections → Names ticket.job frame) :
    Live t where
  once := Multiset.nodup_of_le (Multiset.map_le_map jobs) live.once
  filed job member := tasks ▸ live.filed job (Multiset.mem_of_le jobs member)
  records := tasks ▸ live.records
  completed id record found completed job member :=
    live.completed id record (tasks ▸ found) completed job (Multiset.mem_of_le jobs member)
  absent job member id output :=
    store job member id output (live.absent job (Multiset.mem_of_le unwritten member) id output)
  named := named

theorem restore (live : Live s) (store : MemoryStore)
    (kept : ∀ id, s.tasks.lookup id ≠ none → s.store.getEntry id = none → store.getEntry id = none) :
    Live { s with store := store } := by
  refine live.narrow le_rfl le_rfl rfl (fun job member id output => kept id ?_) live.named
  exact (live.filed job (Multiset.mem_of_le s.unwritten_le member)).outputs id output

theorem named_setPhase (live : Live s) (connection : Nat)
    (named : ∀ ticket frame, new = .ingesting ticket frame → Names ticket.job frame) :
    ∀ ticket frame, .ingesting ticket frame ∈ (s.setPhase connection new).connections →
      Names ticket.job frame := by
  intro ticket frame member
  rcases List.mem_or_eq_of_mem_set member with before | now
  · exact live.named ticket frame before
  · exact named ticket frame now.symm

theorem phase (live : Live s) (found : s.connections[connection]? = some old) (new : Phase)
    (held : new.held ≤ old.held) (unwritten : new.unwritten ≤ old.unwritten)
    (named : ∀ ticket frame, new = .ingesting ticket frame → Names ticket.job frame) :
    Live (s.setPhase connection new) :=
  live.narrow (Dispatcher.underWay_le found held) (Dispatcher.underWay_le found unwritten) rfl
    (fun _ _ _ _ absent => absent) (live.named_setPhase connection named)

theorem other_task (live : Live s) (split : job ::ₘ rest ≤ s.jobs) :
    ∀ other ∈ rest, other.taskId ≠ job.taskId := by
  have once := Multiset.nodup_of_le (Multiset.map_le_map (f := DispatchJob.taskId) split) live.once
  rw [Multiset.map_cons, Multiset.nodup_cons] at once
  intro other member same
  exact once.1 (same ▸ Multiset.mem_map_of_mem _ member)

theorem written (live : Live s)
    (found : s.connections[connection]? = some (Phase.ingesting ticket frame)) (id : ObjectId) :
    (handleCompletion s.store frame).2.getEntry id = s.store.getEntry id ∨
      s.store.getEntry id = none ∧ s.tasks.lookup id ≠ none := by
  by_cases output : id ∈ ticket.job.objectIds
  · have released := Dispatcher.underWay_released Phase.unwritten found rfl .idle rfl
    have member : ticket.job ∈ s.underWay Phase.unwritten := released ▸ Multiset.mem_cons_self _ _
    have filed := live.filed _ (Multiset.mem_of_le s.unwritten_le member)
    exact .inr ⟨live.absent _ member id output, filed.outputs id output⟩
  · exact .inl (live.named ticket frame (List.mem_of_getElem? found) s.store id output)

/-- The reply is taken in, whole or in part; the other jobs' outputs stay absent. -/
theorem ingest (live : Live s)
    (found : s.connections[connection]? = some (Phase.ingesting ticket frame))
    (taken : handleCompletion s.store frame = (result, store)) (new : Phase) (held : new.held ≤ {ticket})
    (done : new.unwritten = 0) :
    Live { s.setPhase connection new with store := store } := by
  have moved := live.phase found new held (done ▸ Multiset.zero_le _) fun ticket frame same => by
    rw [same] at done
    cases Multiset.singleton_ne_zero _ done
  refine moved.narrow le_rfl le_rfl rfl (fun job member id output absent => ?_) moved.named
  have released := Dispatcher.underWay_released Phase.unwritten found rfl new done
  have different := live.other_task (released.le.trans s.unwritten_le) job member
  have outside : id ∉ ticket.job.objectIds := by
    intro inside
    rw [← DispatchJob.objectIds_taskId output, DispatchJob.objectIds_taskId inside] at different
    exact different rfl
  have same := live.named ticket frame (List.mem_of_getElem? found) s.store id outside
  rw [taken] at same
  exact same.trans absent

theorem nextJob (live : Live s) (found : s.connections[connection]? = some .idle)
    (waiting : s.queue = ticket :: rest) :
    Live { s.setPhase connection (.building ticket) with queue := rest } :=
  live.narrow (Dispatcher.underWay_nextJob found rfl rfl waiting).le
    (Dispatcher.underWay_nextJob found rfl rfl waiting).le rfl (fun _ _ _ _ absent => absent)
    (live.named_setPhase connection fun _ _ same => nomatch same)

theorem sendFailed (live : Live s) (found : s.connections[connection]? = some (.sending ticket)) :
    Live { s.setPhase connection .exited with queue := ticket :: s.queue } :=
  live.narrow (Dispatcher.underWay_requeue found rfl rfl).le
    (Dispatcher.underWay_requeue found rfl rfl).le rfl (fun _ _ _ _ absent => absent)
    (live.named_setPhase connection fun _ _ same => nomatch same)

/-- A job comes to the ones under way, of a task that has none there. -/
theorem add (live : Live s) (filed : Filed s.tasks job)
    (new : ∀ other ∈ s.jobs, other.taskId ≠ job.taskId)
    (uncompleted : ∀ id record, s.tasks.lookup id = some record → record.taskId = job.taskId →
      record.wasCompleted = false)
    (absent : ∀ id ∈ job.objectIds, s.store.getEntry id = none) :
    Live { s with prepared := job :: s.prepared } := by
  have grown : ∀ count, ({ s with prepared := job :: s.prepared } : Dispatcher).underWay count =
      job ::ₘ s.underWay count := by
    intro count
    simp only [Dispatcher.underWay, ← Multiset.cons_coe, Multiset.cons_add]
  constructor
  · rw [Dispatcher.jobs, grown, Multiset.map_cons, Multiset.nodup_cons]
    refine ⟨fun member => ?_, live.once⟩
    obtain ⟨other, inside, same⟩ := Multiset.mem_map.mp member
    exact new other inside same
  · intro other member
    rw [Dispatcher.jobs, grown, Multiset.mem_cons] at member
    rcases member with rfl | old
    · exact filed
    · exact live.filed other old
  · exact live.records
  · intro id record found completed other member
    rw [Dispatcher.jobs, grown, Multiset.mem_cons] at member
    rcases member with rfl | old
    · intro same
      rw [uncompleted id record found same.symm] at completed
      cases completed
    · exact live.completed id record found completed other old
  · intro other member
    rw [Dispatcher.unwritten, grown, Multiset.mem_cons] at member
    rcases member with rfl | old
    · exact absent
    · exact live.absent other old
  · exact live.named

/-- The table changes, keeping its ids and jobs; completed tasks have none under way. -/
theorem retable (live : Live s) (tasks : TaskManager)
    (kept : ∀ id, s.tasks.lookup id ≠ none → tasks.lookup id ≠ none)
    (records : ∀ id record, tasks.lookup id = some record → Filed tasks record.job)
    (completed : ∀ id record, tasks.lookup id = some record → record.wasCompleted = true →
      ∀ job ∈ s.jobs, job.taskId ≠ record.taskId) : Live { s with tasks := tasks } where
  once := live.once
  filed job member := (live.filed job member).mono kept
  records := records
  completed := completed
  absent := live.absent
  named := live.named

theorem update (live : Live s) (taskId : TaskId) (update : TaskRecord → TaskRecord)
    (same : ∀ record, (update record).job = record.job)
    (free : ∀ record, (update record).wasCompleted = true → ∀ job ∈ s.jobs, job.taskId ≠ taskId) :
    Live { s with tasks := s.tasks.updateTask taskId update } := by
  have kept : ∀ id, s.tasks.lookup id ≠ none → (s.tasks.updateTask taskId update).lookup id ≠ none := by
    intro id known
    rw [TaskManager.lookup_updateTask, ne_eq, Option.map_eq_none_iff]
    exact known
  refine live.retable _ kept (fun id record found => ?_) fun id record found completed job member => ?_
  · rw [TaskManager.lookup_updateTask] at found
    obtain ⟨old, earlier, rfl⟩ := Option.map_eq_some_iff.mp found
    refine Filed.mono ?_ kept
    split
    · exact (same old).symm ▸ live.records id old earlier
    · exact live.records id old earlier
  · rw [TaskManager.lookup_updateTask] at found
    obtain ⟨old, earlier, rfl⟩ := Option.map_eq_some_iff.mp found
    split at completed
    · rename_i here
      rw [if_pos here, show (update old).taskId = old.taskId from
        congrArg DispatchJob.taskId (same old), here]
      exact free old completed job member
    · rename_i elsewhere
      rw [if_neg elsewhere]
      exact live.completed id old earlier completed job member

theorem record (live : Live s) (returns : 0 < job.numReturns.toNat)
    (free : ∀ id ∈ job.objectIds, s.tasks.lookup id = none)
    (absent : ∀ id ∈ job.objectIds, s.store.getEntry id = none) : Live (s.recordJob job) := by
  have unknown : ∀ {other}, Filed s.tasks other → other.taskId ≠ job.taskId := by
    intro other filed same
    have first := filed.outputs _ (DispatchJob.first_mem filed.returns)
    rw [same] at first
    exact first (free _ (DispatchJob.first_mem returns))
  have filed : Filed (s.tasks.record job.objectIds job) job := by
    refine ⟨returns, fun id output => ?_⟩
    rw [TaskManager.lookup_record, if_pos output]
    exact Option.some_ne_none _
  have kept : ∀ id, s.tasks.lookup id ≠ none →
      (s.tasks.record job.objectIds job).lookup id ≠ none := by
    intro id known
    rw [TaskManager.lookup_record]
    split
    · exact Option.some_ne_none _
    · exact known
  have tabled : Live { s with tasks := s.tasks.record job.objectIds job } := by
    refine live.retable _ kept (fun id record found => ?_) fun id record found completed => ?_
    · rw [TaskManager.lookup_record] at found
      split at found
      · cases found
        exact filed
      · exact (live.records id record found).mono kept
    · rw [TaskManager.lookup_record] at found
      split at found
      · cases found
        cases completed
      · exact live.completed id record found completed
  refine tabled.add filed (fun other member => unknown (live.filed other member)) ?_ absent
  intro id record found same
  have found : (s.tasks.record job.objectIds job).lookup id = some record := found
  rw [TaskManager.lookup_record] at found
  split at found
  · cases found
    rfl
  · exact absurd same (unknown (live.records id record found))

/-- The task that is handed out again has completed, so none of its jobs is under way. -/
theorem resubmit (live : Live s) (taken : s.tasks.tryResubmit object = (some job, tasks))
    (absent : ∀ id ∈ job.objectIds, s.store.getEntry id = none) : Live (s.resubmit job tasks) := by
  rcases s.tasks.tryResubmit_spec object with ⟨record, found, completed, _, _, result⟩ | ⟨_, result⟩
  · rw [result, Prod.mk.injEq, Option.some.injEq] at taken
    obtain ⟨rfl, rfl⟩ := taken
    have tabled := live.update record.taskId (fun record =>
      { record with retriesRemaining := record.retriesRemaining - 1, wasCompleted := false })
      (fun _ => rfl) fun _ completed => nomatch completed
    have filed := (tabled.records object _ (by
      simp only [TaskManager.lookup_updateTask, found, Option.map_some, if_true]; rfl))
    have added := tabled.add filed (live.completed object record found completed)
      (fun id other found same => ?_) absent
    · exact added.narrow le_rfl le_rfl rfl (fun _ _ _ _ absent => absent) added.named
    · simp only [TaskManager.lookup_updateTask] at found
      obtain ⟨old, earlier, rfl⟩ := Option.map_eq_some_iff.mp found
      split
      · rfl
      · rename_i elsewhere
        rw [if_neg elsewhere] at same
        exact absurd same elsewhere
  · rw [result, Prod.mk.injEq] at taken
    cases taken.1

theorem mark (live : Live s) (found : s.connections[connection]? = some (.marking ticket)) :
    Live ((s.setPhase connection .idle).markCompleted ticket) := by
  have released := Dispatcher.underWay_released Phase.held found rfl .idle rfl
  have moved := live.phase found .idle (Multiset.zero_le _) le_rfl fun _ _ same => nomatch same
  have tabled := moved.update ticket.job.taskId (fun record => { record with wasCompleted := true })
    (fun _ => rfl) fun _ _ => live.other_task released.le
  exact tabled.narrow le_rfl le_rfl rfl (fun _ _ _ _ absent => absent) tabled.named

end Live

theorem live_step (live : Live s) (step : Guarded Yielding Step s action t) : Live t := by
  obtain ⟨yielding, step⟩ := step
  -- the rest of the state does not matter
  have same : ∀ {u : Dispatcher}, Live u → u.jobs = t.jobs → u.unwritten = t.unwritten →
      t.tasks = u.tasks → t.store = u.store → t.connections = u.connections → Live t := by
    intro u live jobs unwritten tasks store connections
    exact live.narrow jobs.ge unwritten.ge tasks (fun _ _ _ _ absent => store ▸ absent)
      (connections ▸ live.named)
  cases step with
  | record returns free => exact live.record returns free yielding
  | submit ready =>
    refine live.narrow (Dispatcher.underWay_submit _ ready) (Dispatcher.underWay_submit _ ready) ?_ ?_ ?_
    all_goals
      simp only [Dispatcher.submit]
      split
    · rfl
    · rfl
    · exact fun _ _ _ _ absent => absent
    · exact fun _ _ _ _ absent => absent
    · exact live.named
    · exact live.named
  | tryResubmit taken => exact live.resubmit taken (yielding _ _ taken)
  | notResubmitted refused =>
    exact live.narrow le_rfl le_rfl (TaskManager.tryResubmit_none refused) (fun _ _ _ _ absent => absent)
      live.named
  | connect =>
    have counted : ∀ count : Phase → Multiset Ticket, count .greeting = 0 →
        ({ s with connections := s.connections ++ [.greeting] } : Dispatcher).underWay count =
          s.underWay count := by
      intro count empty
      simp only [Dispatcher.underWay, Slots.total_append, Slots.total_singleton, empty, add_zero]
    refine live.narrow (counted _ rfl).le (counted _ rfl).le rfl (fun _ _ _ _ absent => absent) ?_
    intro ticket frame member
    rcases List.mem_append.mp member with old | new
    · exact live.named ticket frame old
    · cases List.mem_singleton.mp new
  | greet found =>
    have moved := live.phase found .idle le_rfl le_rfl fun _ _ same => by cases same
    exact same moved rfl rfl rfl rfl rfl
  | nextJob found waiting => exact live.nextJob found waiting
  | noMoreJobs found => exact live.phase found _ le_rfl le_rfl fun _ _ same => by cases same
  | build found => exact live.phase found _ le_rfl le_rfl fun _ _ same => by cases same
  | buildFailed found =>
    exact live.phase found _ (Multiset.zero_le _) (Multiset.zero_le _) fun _ _ same => by cases same
  | send found => exact live.phase found _ le_rfl le_rfl fun _ _ same => by cases same
  | sendFailed found => exact live.sendFailed found
  | receive found =>
    refine live.phase found _ le_rfl le_rfl fun ticket frame same => ?_
    cases same
    exact yielding _ found
  | greetingFailed found | disconnectEarly found =>
    exact live.phase found _ le_rfl le_rfl fun _ _ same => by cases same
  | receiveFailed found | disconnect found =>
    exact live.phase found _ (Multiset.zero_le _) (Multiset.zero_le _) fun _ _ same => by cases same
  | ingest found taken => exact live.ingest found taken _ le_rfl rfl
  | ingestFailed found taken | ingestPanicked found taken =>
    exact live.ingest found taken _ (Multiset.zero_le _) rfl
  | mark found => exact live.mark found
  | shutdown => exact same live rfl rfl rfl rfl rfl

theorem step_index (live : Live s) (step : Step s action t) (id : ObjectId) :
    t.store.getEntry id = s.store.getEntry id ∨
      s.store.getEntry id = none ∧ s.tasks.lookup id ≠ none := by
  cases step with
  | ingest found taken | ingestFailed found taken | ingestPanicked found taken =>
    have written := live.written found id
    rw [taken] at written
    exact written
  | submit =>
    left
    simp only [Dispatcher.submit]
    split <;> rfl
  | _ => exact .inl rfl

theorem step_files (step : Step s action t) (id : ObjectId) :
    (t.tasks.lookup id ≠ none ↔ s.tasks.lookup id ≠ none) ∨
      ∃ job, action = .record job ∧ id ∈ job.objectIds := by
  have updated : ∀ (tasks : TaskManager) taskId update,
      (tasks.updateTask taskId update).lookup id ≠ none ↔ tasks.lookup id ≠ none := by
    intro tasks taskId update
    rw [TaskManager.lookup_updateTask, ne_eq, Option.map_eq_none_iff]
  cases step with
  | @record job =>
    by_cases output : id ∈ job.objectIds
    · exact .inr ⟨job, rfl, output⟩
    · left
      simp only [Dispatcher.recordJob, TaskManager.lookup_record, if_neg output]
  | submit =>
    left
    simp only [Dispatcher.submit]
    split <;> rfl
  | @tryResubmit object job tasks taken =>
    left
    rcases s.tasks.tryResubmit_spec object with ⟨record, _, _, _, _, result⟩ | ⟨_, result⟩
    · rw [taken, Prod.mk.injEq] at result
      rw [Dispatcher.resubmit, result.2]
      exact updated _ _ _
    · rw [taken, Prod.mk.injEq] at result
      cases result.1
  | @notResubmitted object tasks refused =>
    left
    rcases s.tasks.tryResubmit_spec object with ⟨record, _, _, _, _, result⟩ | ⟨_, result⟩
    · rw [refused] at result
      cases result
    · rw [refused, Prod.mk.injEq] at result
      rw [result.2]
  | mark => exact .inl (updated _ _ _)
  | _ => exact .inl .rfl

end Rayd.Tasks
