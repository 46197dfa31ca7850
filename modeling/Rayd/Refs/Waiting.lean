import Rayd.Core.Waiting
import Rayd.Refs.StateQueries

/-! `rayd.wait`. The refs are asked for by their ids and then dealt out by whether their
id is among the ready ones, so a ref that is in the list twice goes to one side twice. -/
namespace Rayd.Refs
open Core Raylet.Fetch Threads Transition
open Core.Waiting (WaitOutcome Query Late)

/-- A timeout that was given: nanoseconds, or what is negative or not finite. One that no
`Duration` holds panics, as does the deadline of any so long. -/
inductive Seconds where
  | nanos (count : Nat)
  | invalid (text : String)

def parseTimeout : Option Seconds → Except PyError (Option Nat)
  | none => .ok none
  | some (.nanos count) => .ok (some count)
  | some (.invalid text) => .error (.value s!"invalid timeout: {text}")

/-- The loop over the refs. -/
def splitRefs (ready : List ObjectId) (refs : List ObjectRef) : List ObjectRef × List ObjectRef :=
  refs.foldl (fun lists ref =>
    if ready.contains ref.objectId then (lists.1 ++ [ref], lists.2) else (lists.1, lists.2 ++ [ref])) ([], [])

/-- `_native.wait`, and `wait` over it, with what the store returns for its call. -/
def wait (runtime : Option Runtime) (refs : List ObjectRef) (numReturns : Nat) (timeout : Option Seconds)
    (returned : Waiting.Call → WaitOutcome) : Except PyError (List ObjectRef × List ObjectRef) := do
  let _ ← Runtime.require runtime
  let timeout ← parseTimeout timeout
  let outcome := returned (.wait (refs.map ObjectRef.objectId) numReturns timeout)
  return splitRefs outcome.ready refs

theorem foldl_partition {A : Type} (p : A → Bool) (xs first second : List A) :
    xs.foldl (fun lists x => if p x then (lists.1 ++ [x], lists.2) else (lists.1, lists.2 ++ [x]))
        (first, second) =
      (first ++ xs.filter p, second ++ xs.filter fun x => !p x) := by
  induction xs generalizing first second with
  | nil => simp
  | cons x xs ih =>
    cases passes : p x with
    | true => simp [passes, ih]
    | false => simp [passes, ih]

theorem splitRefs_eq (ready : List ObjectId) (refs : List ObjectRef) :
    splitRefs ready refs =
      (refs.filter fun ref => ready.contains ref.objectId,
        refs.filter fun ref => !ready.contains ref.objectId) :=
  foldl_partition (fun ref : ObjectRef => ready.contains ref.objectId) refs [] []

/-- An id of the list is among the ready ones exactly if it is in the index. -/
theorem splitRefs_split (store : MemoryStore) (refs : List ObjectRef) :
    splitRefs (Waiting.split store (refs.map ObjectRef.objectId)).ready refs =
      (refs.filter fun ref => store.contains ref.objectId,
        refs.filter fun ref => !store.contains ref.objectId) := by
  have same : ∀ ref ∈ refs, (Waiting.split store (refs.map ObjectRef.objectId)).ready.contains ref.objectId =
      store.contains ref.objectId := by
    intro ref member
    have asked : ref.objectId ∈ refs.map ObjectRef.objectId := List.mem_map_of_mem member
    rw [Bool.eq_iff_iff, List.contains_iff_mem, Waiting.split, List.mem_filter]
    exact and_iff_right asked
  rw [splitRefs_eq, List.filter_congr same, List.filter_congr fun ref member => congrArg (!·) (same ref member)]

/-- In every run of any number of callers, puts and deletes: a `wait` that returns has
dealt out its ids by what is in the index then, with enough of them there unless its
deadline has passed, and `rayd.wait` deals out its refs likewise. A caller that finds
enough, or finds itself late, does return; and one that sleeps while enough is there has
been notified or is about to be. -/
theorem wait_partitions {pool : Pool Waiting.Shared Waiting.Phase}
    (run : Run (Threads.Step Waiting.Own) (Waiting.start store now) path pool) :
    (∀ thread ids numReturns deadline outcome next,
      Threads.Step Waiting.Own pool (thread, .waited ids numReturns deadline outcome) next →
      outcome.ready = ids.filter (fun id => pool.shared.store.contains id) ∧
      outcome.notReady = ids.filter (fun id => !pool.shared.store.contains id) ∧
      (¬ Late pool.shared deadline → min numReturns ids.length ≤ outcome.ready.length) ∧
      ∀ runtime refs timeout nanos returned, refs.map ObjectRef.objectId = ids →
        parseTimeout timeout = .ok nanos → returned (.wait ids numReturns nanos) = outcome →
        wait (some runtime) refs numReturns timeout returned =
          .ok (refs.filter fun ref => pool.shared.store.contains ref.objectId,
            refs.filter fun ref => !pool.shared.store.contains ref.objectId)) ∧
    (∀ thread ids numReturns deadline, pool.threads thread = .look (.wait ids numReturns) deadline →
      (Query.wait ids numReturns).met pool.shared.store = true ∨ Late pool.shared deadline →
      ∃ more last outcome next, Run (Threads.Step Waiting.Own) pool more last ∧
        (∀ label ∈ more, label.1 = thread) ∧
        Threads.Step Waiting.Own last (thread, .waited ids numReturns deadline outcome) next) ∧
    ∀ thread ids numReturns deadline since,
      pool.threads thread = .asleep (.wait ids numReturns) deadline since →
      (Query.wait ids numReturns).met pool.shared.store = true →
      since < pool.shared.notified ∨ ∃ other, pool.threads other = .notify := by
  refine ⟨?_, ?_, ?_⟩
  · intro thread ids numReturns deadline outcome next step
    obtain ⟨rfl, enough⟩ := Waiting.waited_split run step
    refine ⟨rfl, rfl, enough, ?_⟩
    rintro runtime refs timeout nanos returned rfl parsed same
    rw [← splitRefs_split, ← same, wait, parsed]
    rfl
  · intro thread ids numReturns deadline here ends
    obtain ⟨more, last, alone, own, ready, notReady, there⟩ := (Waiting.look_answers here ends).run
    have returns : Waiting.Own last.shared (last.threads thread)
        (.waited ids numReturns deadline ⟨ready, notReady⟩) { last.shared with locked := false } .idle := by
      rw [there]
      exact .waited
    exact ⟨more, last, _, _, alone, own, .act returns⟩
  · intro thread ids numReturns deadline since here met
    exact Waiting.sleeper_called run here met

/-- Two of three are asked for, with one id given twice. The caller sleeps until that one is
put. -/
theorem repeated_id_ready_twice :
    ∃ path pool next outcome, Run (Threads.Step Waiting.Own) (Waiting.start .empty 0) path pool ∧
      Threads.Step Waiting.Own pool (0, .waited [.nil 28, .forReturn (.nil 24) 1, .nil 28] 2 none outcome) next ∧
      outcome.ready = [.nil 28, .nil 28] ∧ outcome.notReady = [.forReturn (.nil 24) 1] := by
  have run : Run (Threads.Step Waiting.Own) (Waiting.start .empty 0) [] _ := .refl
  have run := run.next (a := (0, .call (.wait [.nil 28, .forReturn (.nil 24) 1, .nil 28] 2 none))) (.act .call)
  have run := run.next (a := (0, .step)) (.act (.lock rfl))
  have run := run.next (a := (0, .step)) (.act (.deadline rfl))
  have run := run.next (a := (0, .step)) (.act (.missing rfl))
  have run := run.next (a := (0, .step)) (.act (.sleep (fun ⟨_, due, _⟩ => by cases due)))
  have run := run.next (a := (1, .call (.write (.putPlasma (.nil 28) ⟨.raw, 1⟩)))) (.act .call)
  have run := run.next (a := (1, .step)) (.act (.lockWrite rfl))
  have run := run.next (a := (1, .step)) (.act .insert)
  have run := run.next (a := (1, .step)) (.act .notify)
  have run := run.next (a := (0, .step)) (.act .wake)
  have run := run.next (a := (0, .step)) (.act (.relock rfl))
  have run := run.next (a := (0, .step)) (.act (.enough rfl))
  have run := run.next (a := (0, .step)) (.act (.ready rfl))
  have run := run.next (a := (0, .step)) (.act (.notReady rfl))
  have run := run.next (a := (0, .step)) (.act (.ready rfl))
  obtain ⟨first, second, _⟩ := (wait_partitions run).1 0 _ _ _ _ _ (.act .waited)
  exact ⟨_, _, _, _, run, .act .waited, first, second⟩

end Rayd.Refs
