import Rayd.Core.MemoryStore
import Rayd.Lib.Condvar
import Mathlib.Algebra.Group.Nat.Defs

/-! Waiting for entries of the index. The index is behind one mutex. A put notifies all
sleepers once it has given the mutex back, a delete notifies nobody. `wait` and
`get_entry_blocking` look at the index inside the mutex, give it back only to sleep, and
look again when they are woken; `wait` also makes its two lists inside it, an id at a
time. A sleeper may be woken by a notification, by its timeout or by nothing. -/
namespace Rayd.Core.Waiting
open Memory Threads Transition MemoryStore

structure WaitOutcome where
  ready : List ObjectId
  notReady : List ObjectId
  deriving DecidableEq

/-- What a caller blocks for. -/
inductive Query where
  | wait (ids : List ObjectId) (numReturns : Nat)
  | getEntry (id : ObjectId)
  deriving DecidableEq

/-- The test at the head of the loop. -/
def Query.met (store : MemoryStore) : Query → Bool
  | .wait ids numReturns => decide (min numReturns ids.length ≤ (ids.filter store.contains).length)
  | .getEntry id => store.contains id

inductive Call where
  | write (operation : Operation)
  | wait (ids : List ObjectId) (numReturns : Nat) (timeout : Option Nat)
  | getEntryBlocking (id : ObjectId) (timeout : Option Nat)

/-- Where a call is; times are in nanoseconds. -/
inductive Phase where
  | idle
  /-- Before the mutex. -/
  | write (operation : Operation)
  | inserting (id : ObjectId) (entry : StoredEntry)
  | deleting (rest : List ObjectId)
  /-- The entry is in and the mutex given back. -/
  | notify
  /-- Before the mutex. -/
  | enter (query : Query) (timeout : Option Nat)
  | started (query : Query) (timeout : Option Nat)
  /-- At the head of the loop. -/
  | look (query : Query) (deadline : Option Nat)
  /-- It is not there yet. -/
  | clock (query : Query) (deadline : Option Nat)
  /-- Outside the mutex, with the notifications there had been. -/
  | asleep (query : Query) (deadline : Option Nat) (since : Nat)
  /-- Before the mutex, again. -/
  | woken (query : Query) (deadline : Option Nat)
  | split (ids : List ObjectId) (numReturns : Nat) (deadline : Option Nat)
      (rest ready notReady : List ObjectId)
  | panicked

/-- The thread has the mutex. -/
def Phase.inside : Phase → Bool
  | .inserting .. | .deleting _ | .started .. | .look .. | .clock .. | .split .. => true
  | _ => false

structure Shared where
  store : MemoryStore
  locked : Bool
  now : Nat
  /-- Calls of `notify_all` so far. -/
  notified : Nat

def Call.phase : Call → Phase
  | .write operation => .write operation
  | .wait ids numReturns timeout => .enter (.wait ids numReturns) timeout
  | .getEntryBlocking id timeout => .enter (.getEntry id) timeout

/-- A write with the mutex. -/
def writing : Operation → Phase
  | .putInline id object => .inserting id (.inline object)
  | .putPlasma id index => .inserting id (.plasma index)
  | .delete ids => .deleting ids

/-- An instant has its seconds in an i64. -/
def instantLimit : Nat := 2 ^ 63 * 1000000000

/-- `Instant::now() + timeout`, which panics above the last instant. -/
def deadlineAt (now : Nat) : Option Nat → Option (Option Nat)
  | none => some none
  | some timeout => if now + timeout < instantLimit then some (some (now + timeout)) else none

def Late (s : Shared) (deadline : Option Nat) : Prop := ∃ d, deadline = some d ∧ d ≤ s.now

inductive Act where
  | call (call : Call)
  | step
  | tick (later : Nat)
  /-- `wait` returns. -/
  | waited (ids : List ObjectId) (numReturns : Nat) (deadline : Option Nat) (outcome : WaitOutcome)
  /-- `get_entry_blocking` returns. -/
  | gotEntry (id : ObjectId) (deadline : Option Nat) (entry : Option StoredEntry)
  | panic

inductive Own (s : Shared) : Phase → Act → Shared → Phase → Prop where
  | tick : s.now ≤ later → Own s phase (.tick later) { s with now := later } phase
  | call : Own s .idle (.call call) s call.phase
  | lockWrite : s.locked = false → Own s (.write operation) .step { s with locked := true } (writing operation)
  | insert {id : ObjectId} : Own s (.inserting id entry) .step
      { s with store := s.store.insert id entry, locked := false } .notify
  | notify : Own s .notify .step { s with notified := s.notified + 1 } .idle
  | remove {id : ObjectId} : Own s (.deleting (id :: rest)) .step
      { s with store := s.store.deleteOne id } (.deleting rest)
  | deleted : Own s (.deleting []) .step { s with locked := false } .idle
  | lock : s.locked = false →
      Own s (.enter query timeout) .step { s with locked := true } (.started query timeout)
  | deadline : deadlineAt s.now timeout = some deadline →
      Own s (.started query timeout) .step s (.look query deadline)
  | overflow : deadlineAt s.now timeout = none →
      Own s (.started query timeout) .panic { s with locked := false } .panicked
  | missing : query.met s.store = false → Own s (.look query deadline) .step s (.clock query deadline)
  | enough : (Query.wait ids numReturns).met s.store = true →
      Own s (.look (.wait ids numReturns) deadline) .step s (.split ids numReturns deadline ids [] [])
  | found {id : ObjectId} : s.store.getEntry id = some entry →
      Own s (.look (.getEntry id) deadline) (.gotEntry id deadline (some entry))
        { s with locked := false } .idle
  | late : Late s deadline →
      Own s (.clock (.wait ids numReturns) deadline) .step s (.split ids numReturns deadline ids [] [])
  | lateEntry {id : ObjectId} : Late s deadline →
      Own s (.clock (.getEntry id) deadline) (.gotEntry id deadline none) { s with locked := false } .idle
  | sleep : ¬ Late s deadline →
      Own s (.clock query deadline) .step { s with locked := false } (.asleep query deadline s.notified)
  | wake : Own s (.asleep query deadline since) .step s (.woken query deadline)
  | relock : s.locked = false →
      Own s (.woken query deadline) .step { s with locked := true } (.look query deadline)
  | ready {id : ObjectId} : s.store.contains id = true →
      Own s (.split ids numReturns deadline (id :: rest) ready notReady) .step s
        (.split ids numReturns deadline rest (ready ++ [id]) notReady)
  | notReady {id : ObjectId} : s.store.contains id = false →
      Own s (.split ids numReturns deadline (id :: rest) ready notReady) .step s
        (.split ids numReturns deadline rest ready (notReady ++ [id]))
  | waited : Own s (.split ids numReturns deadline [] ready notReady)
      (.waited ids numReturns deadline ⟨ready, notReady⟩) { s with locked := false } .idle

def start (store : MemoryStore) (now : Nat) : Pool Shared Phase := ⟨⟨store, false, now, 0⟩, fun _ => .idle⟩

/-- Both lists in the order of the ids, as often as they are there. -/
def split (store : MemoryStore) (ids : List ObjectId) : WaitOutcome :=
  ⟨ids.filter fun id => store.contains id, ids.filter fun id => !store.contains id⟩

section Steps
variable {s t : Shared} {p q : Phase} {act : Act}

theorem writing_inside (operation : Operation) : (writing operation).inside = true := by
  cases operation <;> rfl

theorem phase_outside (call : Call) : call.phase.inside = false := by
  cases call <;> rfl

/-- Only the thread that has the mutex changes the index, and the clock does not go back. -/
theorem outside_keeps (own : Own s p act t q) (outside : p.inside = false) :
    t.store = s.store ∧ s.now ≤ t.now := by
  cases own with
  | tick later => exact ⟨rfl, later⟩
  | insert | remove => cases outside
  | _ => exact ⟨rfl, le_rfl⟩

/-- The one mutex. -/
def mutex : Locks Own Unit where
  taken s _ := s.locked
  inside phase _ := phase.inside
  moved own _ := by
    cases own with
    | lockWrite free => exact .takes rfl free (writing_inside _) rfl
    | lock free | relock free => exact .takes rfl free rfl rfl
    | call => exact .keeps (phase_outside _) rfl
    | insert | deleted | overflow | found | lateEntry | sleep | waited => exact .gives rfl rfl rfl
    | tick | notify | remove | deadline | missing | enough | late | wake | ready | notReady =>
      exact .keeps rfl rfl

/-- What a thread that has the mutex knows of the index. -/
def Sound (s : Shared) : Phase → Prop
  | .clock query _ => query.met s.store = false
  | .split ids numReturns deadline rest ready notReady =>
    ready ++ (split s.store rest).ready = (split s.store ids).ready ∧
      notReady ++ (split s.store rest).notReady = (split s.store ids).notReady ∧
      ((Query.wait ids numReturns).met s.store = true ∨ Late s deadline)
  | _ => True

theorem Sound.keep (sound : Sound s p) (same : t.store = s.store) (later : s.now ≤ t.now) : Sound t p := by
  cases p with
  | clock query deadline =>
    rw [Sound, same]
    exact sound
  | split ids numReturns deadline rest ready notReady =>
    rw [Sound, same]
    obtain ⟨first, second, ended⟩ := sound
    refine ⟨first, second, ended.imp_right ?_⟩
    rintro ⟨d, due, past⟩
    exact ⟨d, due, past.trans later⟩
  | _ => trivial

theorem own_sound (own : Own s p act t q) (sound : Sound s p) : Sound t q := by
  cases own with
  | tick later => exact sound.keep rfl later
  | @call call => cases call <;> trivial
  | @lockWrite operation => cases operation <;> trivial
  | missing unmet => exact unmet
  | enough met => exact ⟨rfl, rfl, .inl met⟩
  | late late => exact ⟨rfl, rfl, .inr late⟩
  | ready present =>
    obtain ⟨first, second, ended⟩ := sound
    refine ⟨?_, ?_, ended⟩
    · rw [← first]
      simp [split, present]
    · rw [← second]
      simp [split, present]
  | notReady absent =>
    obtain ⟨first, second, ended⟩ := sound
    refine ⟨?_, ?_, ended⟩
    · rw [← first]
      simp [split, absent]
    · rw [← second]
      simp [split, absent]
  | _ => trivial

end Steps

/-- Steps of others leave a thread that has the mutex what it knows. -/
def assertions : Assertions Own fun s r p _ => mutex.Apart s p r where
  shared _ := True
  phase := Sound
  preserved own _ sound := ⟨trivial, own_sound own sound⟩
  undisturbed {s p a t q r} own _ _ sound apart := by
    cases inside : r.inside with
    | true =>
      obtain ⟨same, later⟩ := outside_keeps own (apart () inside).1
      exact sound.keep same later
    | false =>
      cases r with
      | clock | split => cases inside
      | _ => trivial

theorem run_sound (run : Run (Step Own) (start store now) path pool) (thread : Nat) :
    Sound pool.shared (pool.threads thread) :=
  (assertions.run (mutex.run_apart run fun _ => .free rfl fun _ => rfl) ⟨trivial, fun _ => trivial⟩).2 thread

section Sleepers
variable {store : MemoryStore} {query : Query}

theorem contains_deleteOne {id other : ObjectId} (present : (store.deleteOne id).contains other = true) :
    store.contains other = true := by
  have kept : ((store.deleteOne id).getEntry other).isSome = true := present
  rw [getEntry_deleteOne] at kept
  split_ifs at kept
  · cases kept
  · exact kept

theorem met_deleteOne {id : ObjectId} (met : query.met (store.deleteOne id) = true) :
    query.met store = true := by
  cases query with
  | wait ids numReturns =>
    simp only [Query.met, decide_eq_true_eq, ← List.countP_eq_length_filter] at met ⊢
    exact met.trans (List.countP_mono_left fun other _ => contains_deleteOne)
  | getEntry id => exact contains_deleteOne met

def Phase.sleeps? : Phase → Option (Query × Nat)
  | .asleep query _ since => some (query, since)
  | _ => none

theorem sleeps_writing (operation : Operation) : (writing operation).sleeps? = none := by
  cases operation <;> rfl

theorem sleeps_phase (call : Call) : call.phase.sleeps? = none := by
  cases call <;> rfl

/-- A sleeper has looked before, inside the mutex; a put notifies after it. -/
def notification : Condvar Own Query where
  sound := Sound
  notified := Shared.notified
  sleeps? := Phase.sleeps?
  found s query := query.met s.store = true
  calls phase := phase = .notify
  counted own := by
    cases own with
    | notify => exact Nat.le_succ _
    | _ => exact le_rfl
  called own calls := by
    cases own with
    | notify => exact .inr (Nat.lt_succ_self _)
    | tick => exact .inl calls
    | _ => cases calls
  slept {s p a t q query since} own sound sleeps := by
    cases own with
    | tick => exact .inl sleeps
    | @sleep deadline query on_time =>
      cases sleeps
      exact .inr ⟨rfl, Bool.eq_false_iff.mp sound⟩
    | lockWrite => cases (sleeps_writing _).symm.trans sleeps
    | call => cases (sleeps_phase _).symm.trans sleeps
    | _ => cases sleeps
  brought own found := by
    cases own with
    | insert => exact .inr rfl
    | remove => exact .inl (met_deleteOne found)
    | _ => exact .inl found

/-- A sleeper for whom enough is there has been notified or is about to be. -/
theorem sleeper_called {now : Nat} (run : Run (Step Own) (start store now) path pool)
    (here : pool.threads thread = .asleep query deadline since) (met : query.met pool.shared.store = true) :
    since < pool.shared.notified ∨ ∃ other, pool.threads other = .notify := by
  have awake : notification.Awake pool :=
    notification.awake_run run run_sound fun _ _ _ sleeps => by cases sleeps
  exact (awake thread query since (congrArg Phase.sleeps? here)).2 met

end Sleepers

section Progress
variable {pool : Pool Shared Phase} {ids : List ObjectId} {thread numReturns : Nat} {deadline : Option Nat}

/-- The thread is at the return of this `wait`. -/
def Answering (thread : Nat) (ids : List ObjectId) (numReturns : Nat) (deadline : Option Nat)
    (pool : Pool Shared Phase) : Prop :=
  ∃ ready notReady, pool.threads thread = .split ids numReturns deadline [] ready notReady

/-- Out of its loop, `wait` goes through the ids to their end. -/
theorem split_answers (rest ready notReady : List ObjectId)
    (here : pool.threads thread = .split ids numReturns deadline rest ready notReady) :
    Comes Own thread (Answering thread ids numReturns deadline) pool := by
  induction rest generalizing pool ready notReady with
  | nil => exact .here ⟨ready, notReady, here⟩
  | cons id rest ih =>
    cases present : pool.shared.store.contains id with
    | true => exact .step here (.ready present) (ih _ _ (Pool.set_self ..))
    | false => exact .step here (.notReady present) (ih _ _ (Pool.set_self ..))

/-- A look that finds enough ids, or that comes when the deadline has passed, is the last. -/
theorem look_answers (here : pool.threads thread = .look (.wait ids numReturns) deadline)
    (ends : (Query.wait ids numReturns).met pool.shared.store = true ∨ Late pool.shared deadline) :
    Comes Own thread (Answering thread ids numReturns deadline) pool := by
  cases met : (Query.wait ids numReturns).met pool.shared.store with
  | true => exact .step here (.enough met) (split_answers _ _ _ (Pool.set_self ..))
  | false =>
    have late := ends.resolve_left (Bool.eq_false_iff.mp met)
    refine .step here (.missing met) (.step (Pool.set_self ..) (.late late) ?_)
    exact split_answers _ _ _ (Pool.set_self ..)

def Unlocked (pool : Pool Shared Phase) : Prop := pool.shared.locked = false

theorem split_leaves (rest ready notReady : List ObjectId)
    (here : pool.threads thread = .split ids numReturns deadline rest ready notReady) :
    Comes Own thread Unlocked pool := by
  refine (split_answers rest ready notReady here).trans ?_
  rintro last ⟨ready, notReady, there⟩
  exact .step there .waited (.here rfl)

theorem clock_leaves {query : Query} (here : pool.threads thread = .clock query deadline) :
    Comes Own thread Unlocked pool := by
  by_cases late : Late pool.shared deadline
  · cases query with
    | wait ids numReturns => exact .step here (.late late) (split_leaves _ _ _ (Pool.set_self ..))
    | getEntry id => exact .step here (.lateEntry late) (.here rfl)
  · exact .step here (.sleep late) (.here rfl)

theorem look_leaves {query : Query} (here : pool.threads thread = .look query deadline) :
    Comes Own thread Unlocked pool := by
  cases met : query.met pool.shared.store with
  | false => exact .step here (.missing met) (clock_leaves (Pool.set_self ..))
  | true =>
    cases query with
    | wait ids numReturns => exact .step here (.enough met) (split_leaves _ _ _ (Pool.set_self ..))
    | getEntry id =>
      obtain ⟨entry, found⟩ := Option.isSome_iff_exists.mp met
      exact .step here (.found found) (.here rfl)

theorem deleting_leaves (rest : List ObjectId) (here : pool.threads thread = .deleting rest) :
    Comes Own thread Unlocked pool := by
  induction rest generalizing pool with
  | nil => exact .step here .deleted (.here rfl)
  | cons id rest ih => exact .step here .remove (ih (Pool.set_self ..))

/-- Whoever has the mutex can give it back, whatever the others do. -/
theorem inside_leaves (inside : (pool.threads thread).inside = true) : Comes Own thread Unlocked pool := by
  cases here : pool.threads thread with
  | inserting id entry => exact .step here .insert (.here rfl)
  | deleting rest => exact deleting_leaves rest here
  | started query timeout =>
    cases computed : deadlineAt pool.shared.now timeout with
    | none => exact .step here (.overflow computed) (.here rfl)
    | some deadline => exact .step here (.deadline computed) (look_leaves (Pool.set_self ..))
  | look query deadline => exact look_leaves here
  | clock query deadline => exact clock_leaves here
  | split ids numReturns deadline rest ready notReady => exact split_leaves rest ready notReady here
  | _ =>
    rw [here] at inside
    cases inside

end Progress

section Results
variable {pool next : Pool Shared Phase}

/-- What `wait` returns is the split of its ids in the index at its return, and there are
enough of them unless the deadline has passed. -/
theorem waited_split (run : Run (Step Own) (start store now) path pool)
    (step : Step Own pool (thread, .waited ids numReturns deadline outcome) next) :
    outcome = split pool.shared.store ids ∧
      (¬ Late pool.shared deadline → min numReturns ids.length ≤ outcome.ready.length) := by
  have sound := run_sound run thread
  cases step with
  | act own =>
    generalize pool.threads thread = phase at own sound
    cases own with
    | waited =>
      obtain ⟨first, second, ended⟩ := sound
      simp only [split, List.filter_nil, List.append_nil] at first second
      subst first second
      refine ⟨rfl, fun early => ?_⟩
      exact of_decide_eq_true (ended.resolve_right early)

/-- What `get_entry_blocking` returns is the entry there is, and none only at its deadline. -/
theorem gotEntry_exact {id : ObjectId} (run : Run (Step Own) (start store now) path pool)
    (step : Step Own pool (thread, .gotEntry id deadline entry) next) :
    entry = pool.shared.store.getEntry id ∧ (entry = none → Late pool.shared deadline) := by
  have sound := run_sound run thread
  cases step with
  | act own =>
    generalize pool.threads thread = phase at own sound
    cases own with
    | found found => exact ⟨found.symm, fun none => by cases none⟩
    | lateEntry late =>
      have absent : pool.shared.store.getEntry id = none :=
        Option.not_isSome_iff_eq_none.mp (Bool.eq_false_iff.mp sound)
      exact ⟨absent.symm, fun _ => late⟩

/-- In every run of any number of callers, puts and deletes: `get_entry_blocking` returns the
entry that is in the index then, and none only when its deadline has passed. A caller that
looks when the entry is there, or when it is late, does return; one that sleeps while the
entry is there has been notified or is about to be; and whoever has the mutex can give it
back. -/
theorem get_entry_blocking_exact (run : Run (Step Own) (start store now) path pool) :
    (∀ thread id deadline entry next, Step Own pool (thread, .gotEntry id deadline entry) next →
      entry = pool.shared.store.getEntry id ∧ (entry = none → Late pool.shared deadline)) ∧
    (∀ thread id deadline, pool.threads thread = .look (.getEntry id) deadline →
      pool.shared.store.contains id = true ∨ Late pool.shared deadline →
      ∃ more last next, Run (Step Own) pool more last ∧ (∀ label ∈ more, label.1 = thread) ∧
        Step Own last (thread, .gotEntry id deadline (pool.shared.store.getEntry id)) next) ∧
    (∀ thread id deadline since, pool.threads thread = .asleep (.getEntry id) deadline since →
      pool.shared.store.contains id = true →
      since < pool.shared.notified ∨ ∃ other, pool.threads other = .notify) ∧
    ∀ thread, (pool.threads thread).inside = true → ∃ more last, Run (Step Own) pool more last ∧
      (∀ label ∈ more, label.1 = thread) ∧ last.shared.locked = false := by
  refine ⟨fun thread id deadline entry next step => gotEntry_exact run step, ?_,
    fun thread id deadline since here met => sleeper_called run here met,
    fun thread inside => (inside_leaves inside).run⟩
  intro thread id deadline here ends
  cases found : pool.shared.store.getEntry id with
  | some entry =>
    have returns : Own pool.shared (pool.threads thread) (.gotEntry id deadline (some entry))
        { pool.shared with locked := false } .idle := by
      rw [here]
      exact .found found
    exact ⟨[], pool, _, .refl, (fun _ member => by cases member), .act returns⟩
  | none =>
    have absent : (Query.getEntry id).met pool.shared.store = false := congrArg Option.isSome found
    have late := ends.resolve_left (Bool.eq_false_iff.mp absent)
    have looks : Own pool.shared (pool.threads thread) .step pool.shared (.clock (.getEntry id) deadline) := by
      rw [here]
      exact .missing absent
    have returns : Own pool.shared ((pool.set thread pool.shared (.clock (.getEntry id) deadline)).threads thread)
        (.gotEntry id deadline none) { pool.shared with locked := false } .idle := by
      rw [Pool.set_self]
      exact .lateEntry late
    exact ⟨_, _, _, Run.refl.next (.act looks),
      fun label member => congrArg Prod.fst (List.mem_singleton.mp member), .act returns⟩

/-- The entry is put while the caller sleeps. -/
theorem sleeper_gets_entry : ∃ path pool next entry, Run (Step Own) (start .empty 0) path pool ∧
    Step Own pool (0, .gotEntry (.nil 28) none (some entry)) next ∧
    some entry = pool.shared.store.getEntry (.nil 28) := by
  have run : Run (Step Own) (start .empty 0) [] _ := .refl
  have run := run.next (a := (0, .call (.getEntryBlocking (.nil 28) none))) (.act .call)
  have run := run.next (a := (0, .step)) (.act (.lock rfl))
  have run := run.next (a := (0, .step)) (.act (.deadline rfl))
  have run := run.next (a := (0, .step)) (.act (.missing rfl))
  have run := run.next (a := (0, .step)) (.act (.sleep (fun ⟨_, due, _⟩ => by cases due)))
  have run := run.next (a := (1, .call (.write (.putPlasma (.nil 28) ⟨.raw, 1⟩)))) (.act .call)
  have run := run.next (a := (1, .step)) (.act (.lockWrite rfl))
  have run := run.next (a := (1, .step)) (.act .insert)
  have run := run.next (a := (1, .step)) (.act .notify)
  have run := run.next (a := (0, .step)) (.act .wake)
  have run := run.next (a := (0, .step)) (.act (.relock rfl))
  exact ⟨_, _, _, _, run, .act (.found rfl), ((get_entry_blocking_exact run).1 0 _ none _ _ (.act (.found rfl))).1⟩

end Results

end Rayd.Core.Waiting
