import Rayd.Lib.WakeOne
import Rayd.Tasks.TaskManager

/-! The dispatcher's queue at the grain of its mutex and condition variable. A handler looks
at the queue and then at the shutdown flag with the mutex in hand, and gives it back only
to sleep. `submit` reads the flag without the mutex. `submit` and a handler whose send
failed put their job in and, with the mutex given back, call one sleeper; `shutdown` sets
the flag with the mutex in hand and then calls all. What a handler does with a job is left
open, as are the joins of threads and children. A sleeper may also wake up by itself. -/
namespace Rayd.Tasks.Wakeups
open Threads Transition

structure Shared where
  queue : List DispatchJob
  shutdown : Bool
  locked : Bool
  /-- Sleepers on `queue_cv` that have not been called, and those that have. -/
  waiting : Nat
  woken : Nat

inductive Phase where
  | idle
  /-- In `submit`, before the flag. -/
  | submit (job : DispatchJob)
  /-- The flag was unset; before the mutex. -/
  | accepted (job : DispatchJob)
  | pushing (job : DispatchJob)
  /-- The job is in and the mutex given back. -/
  | notify
  /-- In `next_job`, before the mutex. -/
  | nextJob
  /-- At the head of the loop. -/
  | look
  /-- The queue was empty. -/
  | empty
  /-- The flag was unset. -/
  | settle
  | asleep
  /-- Building, sending, waiting for the completion and taking it in. -/
  | working (job : DispatchJob)
  /-- The send failed; before the mutex. -/
  | requeue (job : DispatchJob)
  | requeuing (job : DispatchJob)
  | notifyLast
  | exited
  /-- In `shutdown`, before the mutex. -/
  | shutdown
  | storing
  | notifyAll

/-- The thread has the mutex. -/
def Phase.inside : Phase → Bool
  | .pushing _ | .look | .empty | .settle | .requeuing _ | .storing => true
  | _ => false

def Shared.notifyOne (s : Shared) : Shared :=
  if 0 < s.waiting then { s with waiting := s.waiting - 1, woken := s.woken + 1 } else s

def Shared.notifyAll (s : Shared) : Shared := { s with waiting := 0, woken := s.woken + s.waiting }

inductive Act where
  | step
  | call (job : DispatchJob)
  /-- `submit` reads the flag. -/
  | dropped (job : DispatchJob)
  | accepted (job : DispatchJob)
  | pushed (job : DispatchJob)
  /-- A worker has registered. -/
  | connect
  | took (job : DispatchJob)
  /-- `next_job` returns none. -/
  | left
  /-- Taken in, or given up with a warning. -/
  | finished (job : DispatchJob)
  /-- The connection is gone, or the thread panicked. -/
  | lost (job : DispatchJob)
  | sendFailed (job : DispatchJob)
  | requeued (job : DispatchJob)
  /-- The flag is set. -/
  | closed
  | calledAll

inductive Own (s : Shared) : Phase → Act → Shared → Phase → Prop where
  | call : Own s .idle (.call job) s (.submit job)
  | dropped : s.shutdown = true → Own s (.submit job) (.dropped job) s .idle
  | accepted : s.shutdown = false → Own s (.submit job) (.accepted job) s (.accepted job)
  | lockPush : s.locked = false → Own s (.accepted job) .step { s with locked := true } (.pushing job)
  | push : Own s (.pushing job) (.pushed job)
      { s with queue := s.queue ++ [job], locked := false } .notify
  | notify : Own s .notify .step s.notifyOne .idle
  | connect : Own s .idle .connect s .nextJob
  | lockNext : s.locked = false → Own s .nextJob .step { s with locked := true } .look
  | take : s.queue = job :: rest →
      Own s .look (.took job) { s with queue := rest, locked := false } (.working job)
  | none : s.queue = [] → Own s .look .step s .empty
  | leave : s.shutdown = true → Own s .empty .left { s with locked := false } .exited
  | stay : s.shutdown = false → Own s .empty .step s .settle
  | sleep : Own s .settle .step { s with waiting := s.waiting + 1, locked := false } .asleep
  | wake : 0 < s.woken → Own s .asleep .step { s with woken := s.woken - 1 } .nextJob
  | spurious : 0 < s.waiting → Own s .asleep .step { s with waiting := s.waiting - 1 } .nextJob
  | finished : Own s (.working job) (.finished job) s .nextJob
  | lost : Own s (.working job) (.lost job) s .exited
  | sendFailed : Own s (.working job) (.sendFailed job) s (.requeue job)
  | lockRequeue : s.locked = false → Own s (.requeue job) .step { s with locked := true } (.requeuing job)
  | requeue : Own s (.requeuing job) (.requeued job)
      { s with queue := job :: s.queue, locked := false } .notifyLast
  | notifyLast : Own s .notifyLast .step s.notifyOne .exited
  | shutdown : Own s .idle .step s .shutdown
  | lockShutdown : s.locked = false → Own s .shutdown .step { s with locked := true } .storing
  | store : Own s .storing .closed { s with shutdown := true, locked := false } .notifyAll
  | notifyAll : Own s .notifyAll .calledAll s.notifyAll .idle

def start : Pool Shared Phase := ⟨⟨[], false, false, 0, 0⟩, fun _ => .idle⟩

section Steps
variable {s t : Shared} {p q : Phase} {act : Act}

@[simp] theorem notifyOne_queue (s : Shared) : s.notifyOne.queue = s.queue := by
  unfold Shared.notifyOne
  split <;> rfl

@[simp] theorem notifyOne_locked (s : Shared) : s.notifyOne.locked = s.locked := by
  unfold Shared.notifyOne
  split <;> rfl

theorem notifyOne_cases (s : Shared) :
    s.waiting = 0 ∧ s.notifyOne = s ∨
      0 < s.waiting ∧ s.notifyOne = { s with waiting := s.waiting - 1, woken := s.woken + 1 } := by
  rcases Nat.eq_zero_or_pos s.waiting with none | some
  · exact .inl ⟨none, if_neg (by omega)⟩
  · exact .inr ⟨some, if_pos some⟩

theorem outside_keeps (own : Own s p act t q) (outside : p.inside = false) : t.queue = s.queue := by
  cases own with
  | push | take | requeue => cases outside
  | notify | notifyLast => exact notifyOne_queue s
  | _ => rfl

def mutex : Locks Own Unit where
  taken s _ := s.locked
  inside phase _ := phase.inside
  moved own _ := by
    cases own with
    | lockPush free | lockNext free | lockRequeue free | lockShutdown free => exact .takes rfl free rfl rfl
    | push | take | leave | sleep | requeue | store => exact .gives rfl rfl rfl
    | notify | notifyLast => exact .keeps rfl (notifyOne_locked _)
    | _ => exact .keeps rfl rfl

/-- What a thread that has the mutex knows of the queue. -/
def Sound (s : Shared) : Phase → Prop
  | .empty | .settle => s.queue = []
  | _ => True

theorem own_sound (own : Own s p act t q) (sound : Sound s p) : Sound t q := by
  cases own with
  | none empty => exact empty
  | stay => exact sound
  | _ => trivial

end Steps

def assertions : Assertions Own fun s r p _ => mutex.Apart s p r where
  shared _ := True
  phase := Sound
  preserved own _ sound := ⟨trivial, own_sound own sound⟩
  undisturbed {s p a t q r} own _ _ sound apart := by
    cases r with
    | empty | settle => exact (outside_keeps own (apart () rfl).1).trans sound
    | _ => trivial

theorem run_sound (run : Run (Threads.Step Own) start path pool) (thread : Nat) :
    Sound pool.shared (pool.threads thread) :=
  (assertions.run (mutex.run_apart run fun _ => .free rfl fun _ => rfl) ⟨trivial, fun _ => trivial⟩).2 thread

section Takers
variable {pool : Pool Shared Phase}

def Phase.sleeps : Phase → Bool
  | .asleep => true
  | _ => false

/-- The thread will look at the queue, or call a sleeper. -/
def Phase.coming : Phase → Bool
  | .nextJob | .look | .notify | .notifyLast => true
  | _ => false

theorem covered_steady {s t : Shared} {hand hand' : Nat} (same : t.waiting = s.waiting)
    (balance : t.queue.length + (s.woken + hand) ≤ s.queue.length + (t.woken + hand')) :
    t.waiting = 0 ∨ t.queue.length = 0 ∨
      0 < s.waiting ∧ t.queue.length + (s.woken + hand) ≤ s.queue.length + (t.woken + hand') := by
  rcases Nat.eq_zero_or_pos s.waiting with none | some
  · exact .inl (same.trans none)
  · exact .inr (.inr ⟨some, balance⟩)

def queueCv : WakeOne Own where
  sound := Sound
  items s := s.queue.length
  waiting := Shared.waiting
  woken := Shared.woken
  asleep := Phase.sleeps
  coming := Phase.coming
  slept {s p a t q} own := by
    cases own with
    | notify | notifyLast =>
      rcases notifyOne_cases s with ⟨_, same⟩ | ⟨some, same⟩
      · rw [same]
        rfl
      · rw [same]
        show s.waiting - 1 + (s.woken + 1) + 0 = s.waiting + s.woken + 0
        omega
    | notifyAll => show 0 + (s.woken + s.waiting) + 0 = s.waiting + s.woken + 0; omega
    | sleep => show s.waiting + 1 + s.woken + 0 = s.waiting + s.woken + 1; omega
    | wake some => show s.waiting + (s.woken - 1) + 1 = s.waiting + s.woken + 0; omega
    | spurious some => show s.waiting - 1 + s.woken + 1 = s.waiting + s.woken + 0; omega
    | _ => rfl
  covered {s p a t q} own sound := by
    cases own with
    | none empty => exact .inr (.inl (List.length_eq_zero_iff.mpr empty))
    | leave | stay | sleep => exact .inr (.inl (List.length_eq_zero_iff.mpr sound))
    | notifyAll => exact .inl rfl
    | notify | notifyLast =>
      rcases notifyOne_cases s with ⟨none, same⟩ | ⟨some, same⟩
      · rw [same]
        exact .inl none
      · rw [same]
        refine .inr (.inr ⟨some, ?_⟩)
        show s.queue.length + (s.woken + 1) ≤ s.queue.length + (s.woken + 1 + 0)
        omega
    | wake some =>
      refine covered_steady rfl ?_
      show s.queue.length + (s.woken + 0) ≤ s.queue.length + (s.woken - 1 + 1)
      omega
    | spurious some =>
      refine .inr (.inr ⟨some, ?_⟩)
      show s.queue.length + (s.woken + 0) ≤ s.queue.length + (s.woken + 1)
      omega
    | push =>
      refine covered_steady rfl ?_
      simp only [List.length_append, List.length_singleton, Phase.coming, Bool.toNat_true, Bool.toNat_false]
      omega
    | take first =>
      refine covered_steady rfl ?_
      rw [first]
      simp only [List.length_cons, Phase.coming, Bool.toNat_true, Bool.toNat_false]
      omega
    | requeue =>
      refine covered_steady rfl ?_
      simp only [List.length_cons, Phase.coming, Bool.toNat_true, Bool.toNat_false]
      omega
    | _ =>
      refine covered_steady rfl ?_
      simp only [Phase.coming, Bool.toNat_true, Bool.toNat_false]
      omega

/-- No job is forgotten in the queue while a handler sleeps that nobody has called: for every
job there is a thread that is to look at the queue or to call a sleeper, or a sleeper that
has been called. -/
theorem queue_attended (run : Run (Threads.Step Own) start path pool) :
    pool.shared.waiting + pool.shared.woken = {thread | (pool.threads thread).sleeps = true}.ncard ∧
      (0 < pool.shared.waiting → pool.shared.queue.length ≤
        pool.shared.woken + {thread | (pool.threads thread).coming = true}.ncard) :=
  queueCv.attended run run_sound ⟨rfl, rfl⟩ fun _ => ⟨rfl, rfl⟩

/-- A job has been put in and its submit is about to call the sleeper. -/
theorem queue_attended_for_sleeper : ∃ path pool, Run (Threads.Step Own) start path pool ∧
    0 < pool.shared.waiting ∧ pool.shared.queue.length = 1 ∧
    pool.shared.queue.length ≤ pool.shared.woken + {thread | (pool.threads thread).coming = true}.ncard := by
  have run : Run (Threads.Step Own) start [] _ := .refl
  have run := run.next (a := (0, .connect)) (.act .connect)
  have run := run.next (a := (0, .step)) (.act (.lockNext rfl))
  have run := run.next (a := (0, .step)) (.act (.none rfl))
  have run := run.next (a := (0, .step)) (.act (.stay rfl))
  have run := run.next (a := (0, .step)) (.act .sleep)
  have run := run.next (a := (1, .call ⟨.nil 24, 1, [], [], none⟩)) (.act .call)
  have run := run.next (a := (1, .accepted _)) (.act (.accepted rfl))
  have run := run.next (a := (1, .step)) (.act (.lockPush rfl))
  have run := run.next (a := (1, .pushed _)) (.act .push)
  exact ⟨_, _, run, Nat.one_pos, rfl, (queue_attended run).2 Nat.one_pos⟩

end Takers

section Order
variable {pool next : Pool Shared Phase}

def Act.pushed? : Act → Option DispatchJob
  | .pushed job => some job
  | _ => none

def Act.took? : Act → Option DispatchJob
  | .took job => some job
  | _ => none

def Act.requeued? : Act → Option DispatchJob
  | .requeued job => some job
  | _ => none

/-- The jobs that the steps of a run put in, took out or put back, oldest first. -/
def jobs (of : Act → Option DispatchJob) (path : List (Nat × Act)) : List DispatchJob :=
  path.filterMap fun label => of label.2

theorem jobs_append (of : Act → Option DispatchJob) (path : List (Nat × Act)) (thread : Nat) (act : Act) :
    jobs of (path ++ [(thread, act)]) = jobs of path ++ (of act).toList := by
  rw [jobs, List.filterMap_append]
  congr 1

/-- Of the jobs that were put in, the first ones have been taken, and in this order. The queue
has the jobs that came back, then those that were never taken. -/
structure Ordered (path : List (Nat × Act)) (queue firsts fresh back : List DispatchJob) : Prop where
  pushed : jobs Act.pushed? path = firsts ++ fresh
  queued : queue = back ++ fresh
  taken : firsts.Sublist (jobs Act.took? path)
  again : (jobs Act.took? path ++ back).Perm (firsts ++ jobs Act.requeued? path)

theorem Ordered.step {s t : Shared} {p q : Phase} {act : Act} (ordered : Ordered path s.queue firsts fresh back)
    (own : Own s p act t q) :
    ∃ firsts fresh back, Ordered (path ++ [(thread, act)]) t.queue firsts fresh back := by
  obtain ⟨pushed, queued, taken, again⟩ := ordered
  have unmoved : t.queue = s.queue → act.pushed? = none → act.took? = none → act.requeued? = none →
      ∃ firsts fresh back, Ordered (path ++ [(thread, act)]) t.queue firsts fresh back := by
    intro same push take requeue
    refine ⟨firsts, fresh, back, ?_, same.trans queued, ?_, ?_⟩
    all_goals simp only [jobs_append, push, take, requeue, Option.toList_none, List.append_nil]
    · exact pushed
    · exact taken
    · exact again
  cases own with
  | @push job =>
    refine ⟨firsts, fresh ++ [job], back, ?_, ?_, ?_, ?_⟩
    · rw [jobs_append, pushed, List.append_assoc]
      rfl
    · rw [queued, List.append_assoc]
    · simpa [jobs_append, Act.took?] using taken
    · simpa [jobs_append, Act.took?, Act.requeued?] using again
  | @requeue job =>
    refine ⟨firsts, fresh, job :: back, ?_, by rw [queued]; rfl, ?_, ?_⟩
    · simpa [jobs_append, Act.pushed?] using pushed
    · simpa [jobs_append, Act.took?] using taken
    · simp only [jobs_append, Act.took?, Act.requeued?, Option.toList_none, Option.toList_some, List.append_nil]
      rw [← List.append_assoc]
      have ahead := List.perm_middle.trans (again.cons job)
      exact ahead.trans (List.perm_append_singleton ..).symm
  | @take job rest first =>
    cases back with
    | nil =>
      obtain rfl : fresh = job :: rest := queued.symm.trans first
      refine ⟨firsts ++ [job], rest, [], ?_, rfl, ?_, ?_⟩
      · simpa [jobs_append, Act.pushed?] using pushed
      · rw [jobs_append]
        exact taken.append (List.Sublist.refl _)
      · simp only [jobs_append, Act.took?, Act.requeued?, Option.toList_none, Option.toList_some,
          List.append_nil, List.append_assoc] at again ⊢
        exact (List.perm_append_singleton ..).trans ((again.cons job).trans List.perm_middle.symm)
    | cons newest back =>
      obtain ⟨rfl, rfl⟩ : newest = job ∧ back ++ fresh = rest := by simpa using queued.symm.trans first
      refine ⟨firsts, fresh, back, ?_, rfl, ?_, ?_⟩
      · simpa [jobs_append, Act.pushed?] using pushed
      · rw [jobs_append]
        exact taken.trans (List.sublist_append_left ..)
      · simpa [jobs_append, Act.took?, Act.requeued?] using again
  | notify | notifyLast => exact unmoved (notifyOne_queue s) rfl rfl rfl
  | _ => exact unmoved rfl rfl rfl rfl

/-- Jobs are first taken in the order they were put in. One that came back is ahead of all
that were never taken, and nothing but what came back is taken again. -/
theorem taken_in_order (run : Run (Threads.Step Own) start path pool) :
    ∃ firsts fresh back, Ordered path pool.shared.queue firsts fresh back := by
  refine run.traced (P := fun path pool => ∃ firsts fresh back,
    Ordered path pool.shared.queue firsts fresh back) ?_ ⟨[], [], [], rfl, rfl, .slnil, .nil⟩
  rintro path pool label next ⟨firsts, fresh, back, ordered⟩ step
  cases step with
  | act own => exact ordered.step own

/-- A job comes back from a failed send and is taken again. -/
theorem returned_job_taken_first : ∃ path pool, Run (Threads.Step Own) start path pool ∧
    jobs Act.took? path = [⟨.nil 24, 1, [], [], none⟩, ⟨.nil 24, 1, [], [], none⟩] ∧
    ∃ firsts fresh back, Ordered path pool.shared.queue firsts fresh back := by
  have run : Run (Threads.Step Own) start [] _ := .refl
  have run := run.next (a := (0, .connect)) (.act .connect)
  have run := run.next (a := (1, .connect)) (.act .connect)
  have run := run.next (a := (2, .call ⟨.nil 24, 1, [], [], none⟩)) (.act .call)
  have run := run.next (a := (2, .accepted _)) (.act (.accepted rfl))
  have run := run.next (a := (2, .step)) (.act (.lockPush rfl))
  have run := run.next (a := (2, .pushed _)) (.act .push)
  have run := run.next (a := (0, .step)) (.act (.lockNext rfl))
  have run := run.next (a := (0, .took _)) (.act (.take rfl))
  have run := run.next (a := (0, .sendFailed _)) (.act .sendFailed)
  have run := run.next (a := (0, .step)) (.act (.lockRequeue rfl))
  have run := run.next (a := (0, .requeued _)) (.act .requeue)
  have run := run.next (a := (1, .step)) (.act (.lockNext rfl))
  have run := run.next (a := (1, .took _)) (.act (.take rfl))
  exact ⟨_, _, run, rfl, taken_in_order run⟩

end Order

end Rayd.Tasks.Wakeups
