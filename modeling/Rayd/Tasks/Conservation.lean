import Rayd.Tasks.Dispatcher
import Mathlib.Tactic.Abel

/-! Where a submitted job is. Taking, sending and completing move it between the
queue, one handler and the completed ones, and a failed send puts it back. The
other exits of the handler loop forget it: a frame that cannot be built, a
worker that goes away or fails in the middle of a task, and a reply the driver
cannot take in. -/
namespace Rayd.Tasks
open Memory Core Transition

/-- None of the exits that forget a job: frames are built, a connection with a
job on it neither closes nor fails, and replies are well formed. -/
def Delivered (s : Dispatcher) : Action → Prop
  | .buildFailed _ => False
  | .receiveFailed connection | .disconnect connection =>
      ∀ ticket, s.connections[connection]? ≠ some (.waiting ticket)
  | .ingest connection => ∀ ticket frame,
      s.connections[connection]? = some (.ingesting ticket frame) → WellFormed frame
  | _ => True

namespace Dispatcher

/-- All places together. -/
def places (s : Dispatcher) : Multiset Ticket :=
  (s.queue : Multiset Ticket) + s.inFlight + (s.done : Multiset Ticket) + (s.superseded : Multiset Ticket)

theorem setPhase_inFlight {s : Dispatcher} (found : s.connections[connection]? = some old) (new : Phase) :
    (s.setPhase connection new).inFlight + old.held = s.inFlight + new.held :=
  Slots.total_set Phase.held found new

theorem setPhase_same {s : Dispatcher} (found : s.connections[connection]? = some old)
    (same : new.held = old.held) : (s.setPhase connection new).inFlight = s.inFlight :=
  Slots.total_set_same Phase.held found same

end Dispatcher

structure Conserved (s : Dispatcher) : Prop where
  balance : s.places = (s.submitted : Multiset Ticket)
  numbered : s.submitted.map Ticket.number = List.range s.submitted.length
  prepared : ∀ job ∈ s.prepared, s.tasks.Recorded job.taskId
  recorded : ∀ ticket ∈ s.submitted, s.tasks.Recorded ticket.job.taskId
  marked : ∀ ticket ∈ s.done, s.tasks.Marked ticket.job.taskId

theorem Conserved.move (before : Conserved s) (places : t.places = s.places)
    (submitted : t.submitted = s.submitted) (prepared : t.prepared = s.prepared)
    (tasks : t.tasks = s.tasks) (done : t.done = s.done) : Conserved t := by
  obtain ⟨balance, numbered, ready, recorded, marked⟩ := before
  constructor
  · rw [places, submitted, balance]
  · rwa [submitted]
  · rwa [prepared, tasks]
  · rwa [submitted, tasks]
  · rwa [done, tasks]

theorem Conserved.done_submitted (before : Conserved s) (member : ticket ∈ s.done) :
    ticket ∈ s.submitted := by
  rw [← Multiset.mem_coe, ← before.balance]
  simp [Dispatcher.places, member]

theorem conserved_start : Conserved .start := by
  constructor
  · rfl
  · rfl
  · intro job member
    cases member
  · intro ticket member
    cases member
  · intro ticket member
    cases member

theorem conserved_record (before : Conserved s) (some : 0 < job.numReturns.toNat)
    (free : ∀ id ∈ job.objectIds, s.tasks.lookup id = none)
    (fresh : ∀ ticket ∈ s.submitted, ticket.job.taskId ≠ job.taskId) : Conserved (s.recordJob job) := by
  refine ⟨before.balance, before.numbered, ?_, ?_, ?_⟩
  · intro other member
    rcases List.mem_cons.mp member with rfl | old
    · refine ⟨.forReturn other.taskId 0, TaskManager.freshRecord other, ?_, rfl⟩
      have first : ObjectId.forReturn other.taskId 0 ∈ other.objectIds :=
        List.mem_map_of_mem (List.mem_range.mpr some)
      simp only [Dispatcher.recordJob, TaskManager.lookup_record, if_pos first]
    · exact (before.prepared other old).record free job
  · intro ticket member
    exact (before.recorded ticket member).record free job
  · intro ticket member
    exact (before.marked ticket member).record free (fresh ticket (before.done_submitted member)).symm

theorem conserved_submit (before : Conserved s) (ready : job ∈ s.prepared) :
    Conserved (s.submit job) := by
  simp only [Dispatcher.submit]
  split
  · exact ⟨before.balance, before.numbered,
      fun other member => before.prepared other (List.mem_of_mem_erase member), before.recorded,
      before.marked⟩
  · refine ⟨?_, ?_, fun other member => before.prepared other (List.mem_of_mem_erase member), ?_,
      before.marked⟩
    · have balance := before.balance
      simp only [Dispatcher.places, Dispatcher.inFlight, ← Multiset.coe_add] at balance ⊢
      rw [← balance]
      abel
    · simp only [List.map_append, List.map_singleton, before.numbered, List.length_append,
        List.length_singleton, List.range_succ]
    · intro ticket member
      rcases List.mem_append.mp member with old | new
      · exact before.recorded ticket old
      · rw [List.mem_singleton.mp new]
        exact before.prepared job ready

/-- The task leaves the completed ones together with its mark. -/
theorem conserved_resubmit (before : Conserved s)
    (taken : s.tasks.tryResubmit object = (some job, tasks)) : Conserved (s.resubmit job tasks) := by
  rcases s.tasks.tryResubmit_spec object with ⟨record, found, _, _, _, result⟩ | ⟨_, result⟩
  · rw [result, Prod.mk.injEq, Option.some.injEq] at taken
    obtain ⟨rfl, rfl⟩ := taken
    refine ⟨?_, before.numbered, ?_, ?_, ?_⟩
    · have split := Multiset.filter_add_not (fun ticket : Ticket => ticket.job.taskId = record.job.taskId)
        (s.done : Multiset Ticket)
      refine Eq.trans ?_ before.balance
      simp only [Dispatcher.places, Dispatcher.resubmit, Dispatcher.inFlight, ← Multiset.coe_add]
      simp only [Multiset.filter_coe] at split
      rw [← split]
      simp only [ne_eq]
      abel
    · intro other member
      rcases List.mem_cons.mp member with rfl | old
      · exact TaskManager.Recorded.updateTask ⟨object, record, found, rfl⟩ _ fun _ => rfl
      · exact (before.prepared other old).updateTask _ fun _ => rfl
    · intro ticket member
      exact (before.recorded ticket member).updateTask _ fun _ => rfl
    · intro ticket member
      obtain ⟨member, different⟩ := List.mem_filter.mp member
      have different : ticket.job.taskId ≠ record.taskId := of_decide_eq_true different
      exact (before.marked ticket member).updateTask different.symm fun _ => rfl
  · rw [result, Prod.mk.injEq] at taken
    cases taken.1

/-- A handler picks a job up, or lets go of the one it has. -/
theorem Dispatcher.setPhase_take {s : Dispatcher} (found : s.connections[connection]? = some .idle)
    (new : Phase) (holds : new.held = {ticket}) :
    (s.setPhase connection new).inFlight = s.inFlight + {ticket} := by
  have moved := s.setPhase_inFlight found new
  rw [holds] at moved
  simpa only [Phase.held, add_zero] using moved

theorem Dispatcher.setPhase_release {s : Dispatcher} (found : s.connections[connection]? = some old)
    (held : old.held = {ticket}) (new : Phase) (empty : new.held = 0) :
    (s.setPhase connection new).inFlight + {ticket} = s.inFlight := by
  have moved := s.setPhase_inFlight found new
  rwa [held, empty, add_zero] at moved

theorem conserved_mark (before : Conserved s)
    (found : s.connections[connection]? = some (.marking ticket)) :
    Conserved ((s.setPhase connection .idle).markCompleted ticket) := by
  have moved := Dispatcher.setPhase_release found rfl .idle rfl
  have known : ticket ∈ s.submitted := by
    rw [← Multiset.mem_coe, ← before.balance]
    simp [Dispatcher.places, ← moved]
  refine ⟨?_, before.numbered, ?_, ?_, ?_⟩
  · refine Eq.trans ?_ before.balance
    simp only [Dispatcher.places, Dispatcher.markCompleted, ← Multiset.coe_add, ← moved]
    simp only [Dispatcher.inFlight, Dispatcher.setPhase, Multiset.coe_singleton]
    abel
  · exact fun job member => (before.prepared job member).updateTask _ fun _ => rfl
  · exact fun other member => (before.recorded other member).updateTask _ fun _ => rfl
  · intro other member
    rcases List.mem_append.mp member with old | new
    · exact (before.marked other old).markCompleted _
    · rw [List.mem_singleton.mp new]
      exact TaskManager.markCompleted_marked (before.recorded ticket known)

theorem conserved_step (before : Conserved s) (step : Guarded Delivered Step s action t) :
    Conserved t := by
  obtain ⟨delivered, step⟩ := step
  -- a handler moves on with what it has, or with nothing as before
  have still : ∀ {connection old}, s.connections[connection]? = some old → ∀ new, new.held = old.held →
      Conserved (s.setPhase connection new) := by
    intro connection old found new same
    refine before.move ?_ rfl rfl rfl rfl
    simp only [Dispatcher.places, Dispatcher.setPhase_same found same]
    rfl
  cases step with
  | record some free fresh => exact conserved_record before some free fresh
  | submit ready => exact conserved_submit before ready
  | tryResubmit taken => exact conserved_resubmit before taken
  | notResubmitted refused => exact before.move rfl rfl rfl (TaskManager.tryResubmit_none refused) rfl
  | connect =>
    refine before.move ?_ rfl rfl rfl rfl
    simp [Dispatcher.places, Dispatcher.inFlight, Slots.total_append, Phase.held]
  | greet found => exact (still found .idle rfl).move rfl rfl rfl rfl rfl
  | @nextJob connection ticket rest found waiting =>
    refine before.move ?_ rfl rfl rfl rfl
    have moved := Dispatcher.setPhase_take found (.building ticket) rfl
    simp only [Dispatcher.inFlight, Dispatcher.setPhase] at moved
    simp only [Dispatcher.places, Dispatcher.inFlight, Dispatcher.setPhase, moved, waiting,
      ← Multiset.cons_coe, ← Multiset.singleton_add]
    abel
  | noMoreJobs found => exact still found _ rfl
  | build found => exact still found _ rfl
  | buildFailed => exact absurd delivered id
  | send found => exact still found _ rfl
  | @sendFailed connection ticket found =>
    refine before.move ?_ rfl rfl rfl rfl
    have moved := Dispatcher.setPhase_release found rfl .exited rfl
    simp only [Dispatcher.places, ← moved, ← Multiset.cons_coe, ← Multiset.singleton_add]
    simp only [Dispatcher.inFlight, Dispatcher.setPhase]
    abel
  | receive found => exact still found _ rfl
  | greetingFailed found => exact still found _ rfl
  | receiveFailed found => exact absurd found (delivered _)
  | disconnectEarly found => exact still found _ rfl
  | disconnect found => exact absurd found (delivered _)
  | ingest found taken => exact (still found (.marking _) rfl).move rfl rfl rfl rfl rfl
  | ingestFailed found failed =>
    have done := (handleCompletion_done_iff s.store _).mpr (delivered _ _ found)
    rw [failed] at done
    cases done
  | ingestPanicked found panicked =>
    have done := (handleCompletion_done_iff s.store _).mpr (delivered _ _ found)
    rw [panicked] at done
    cases done
  | mark found => exact conserved_mark before found
  | shutdown => exact before.move rfl rfl rfl rfl rfl

theorem conserved_run (run : Run (Guarded Delivered Step) .start path s) : Conserved s :=
  run.invariant conserved_step conserved_start

/-- While no exit forgets a job, every submitted one is in the queue, with one
running handler, or completed and marked so, unless it has been handed out again. -/
theorem delivered_jobs_conserved (run : Run (Guarded Delivered Step) .start path s) :
    ∀ ticket ∈ s.submitted, ticket ∉ s.superseded →
      s.queue.count ticket + s.inFlight.count ticket + s.done.count ticket = 1 ∧
      (ticket ∈ s.done → s.tasks.Marked ticket.job.taskId) := by
  have conserved := conserved_run run
  intro ticket member current
  refine ⟨?_, conserved.marked ticket⟩
  have nodup : s.submitted.Nodup := by
    apply List.Nodup.of_map Ticket.number
    rw [conserved.numbered]
    exact List.nodup_range
  have once := List.count_eq_one_of_mem nodup member
  rw [← Multiset.coe_count, ← conserved.balance] at once
  simpa [Dispatcher.places, List.count_eq_zero_of_not_mem current] using once

section Samples

def sampleTicket : Ticket := ⟨0, sampleJob⟩

/-- A reply with one return of three bytes. -/
def sampleReply : Value :=
  .dict [(.kind, .str "task_complete"),
    (.returns, .list [.dict [(.objectId, .bytes (ObjectId.forReturn sampleJob.taskId 0).bytes),
      (.metadata, .bytes [1, 0]), (.dataSize, .int 3)]])]

theorem sampleReply_wellFormed : WellFormed (some sampleReply) := by
  refine ⟨_, _, rfl, rfl, rfl, fun entry member => ?_⟩
  rw [List.mem_singleton.mp member]
  exact ⟨_, rfl⟩

/-- A task from submit to mark, on one connection. -/
theorem completed_job_conserved :
    ∃ path s, Run (Guarded Delivered Step) .start path s ∧ sampleTicket ∈ s.submitted ∧
      sampleTicket ∉ s.superseded ∧ sampleTicket ∈ s.done ∧
      s.queue.count sampleTicket + s.inFlight.count sampleTicket + s.done.count sampleTicket = 1 ∧
      s.tasks.Marked sampleTicket.job.taskId := by
  have run : Run (Guarded Delivered Step) .start [] _ := .refl
  have run := run.next (a := Action.record sampleJob)
    ⟨trivial, .record (by decide) (fun _ _ => rfl) nofun⟩
  have run := run.next (a := Action.submit sampleJob) ⟨trivial, .submit (List.mem_singleton.mpr rfl)⟩
  have run := run.next (a := Action.connect) ⟨trivial, .connect rfl⟩
  have run := run.next (a := Action.greet 0) ⟨trivial, .greet rfl⟩
  have run := run.next (a := Action.nextJob 0) ⟨trivial, .nextJob rfl rfl⟩
  have run := run.next (a := Action.build 0) ⟨trivial, .build rfl⟩
  have run := run.next (a := Action.send 0) ⟨trivial, .send rfl⟩
  have run := run.next (a := Action.receive 0 (some sampleReply)) ⟨trivial, .receive rfl⟩
  have run := run.next (a := Action.ingest 0)
    ⟨by rintro ticket frame ⟨⟩; exact sampleReply_wellFormed, .ingest rfl rfl⟩
  have run := run.next (a := Action.mark 0) ⟨trivial, .mark rfl⟩
  have member : sampleTicket ∈ [sampleTicket] := List.mem_singleton.mpr rfl
  obtain ⟨once, marked⟩ := delivered_jobs_conserved run sampleTicket member List.not_mem_nil
  exact ⟨_, _, run, member, List.not_mem_nil, member, once, marked member⟩

/-- The worker goes away in the middle of a task: the job is nowhere. -/
theorem disconnect_loses_job :
    ∃ path s, Run Step .start (path ++ [.disconnect 0]) s ∧ s.shutdown = false ∧
      s.submitted = [sampleTicket] ∧ s.superseded = [] ∧
      s.queue.count sampleTicket + s.inFlight.count sampleTicket + s.done.count sampleTicket = 0 := by
  have run : Run Step .start [] _ := .refl
  have run := run.next (a := Action.record sampleJob) (.record (by decide) (fun _ _ => rfl) nofun)
  have run := run.next (a := Action.submit sampleJob) (.submit (List.mem_singleton.mpr rfl))
  have run := run.next (a := Action.connect) (.connect rfl)
  have run := run.next (a := Action.greet 0) (.greet rfl)
  have run := run.next (a := Action.nextJob 0) (.nextJob rfl rfl)
  have run := run.next (a := Action.build 0) (.build rfl)
  have run := run.next (a := Action.send 0) (.send rfl)
  have run := run.next (a := Action.disconnect 0) (.disconnect rfl)
  exact ⟨_, _, run, rfl, rfl, rfl, rfl⟩

end Samples
end Rayd.Tasks
