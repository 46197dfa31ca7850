import Rayd.Lib.Threads
import Mathlib.Algebra.BigOperators.Group.Finset.Piecewise
import Mathlib.Algebra.Order.BigOperators.Group.Finset
import Mathlib.Algebra.Order.BigOperators.Group.List
import Mathlib.Algebra.Order.Group.Nat
import Mathlib.Data.Set.Card

/-! A queue whose takers sleep on a condition variable that calls one sleeper for every
item put in. A sleeper that was called and a thread that is to call someone each stand for
one item; so no item is forgotten as long as there is somebody left to call. -/
namespace Threads
open Transition
variable {S P A : Type} {own : S → P → A → S → P → Prop} {pool next : Pool S P} {f : P → Bool}

/-- How many of the first threads are so. -/
def Pool.tally (f : P → Bool) (count : Nat) (pool : Pool S P) : Nat :=
  ∑ thread ∈ Finset.range count, (f (pool.threads thread)).toNat

theorem Pool.tally_set (f : P → Bool) (pool : Pool S P) (shared : S) (phase : P) (inside : thread < count) :
    (pool.set thread shared phase).tally f count + (f (pool.threads thread)).toNat =
      pool.tally f count + (f phase).toNat := by
  have member : thread ∈ Finset.range count := Finset.mem_range.mpr inside
  have updated : ∀ other, (f ((pool.set thread shared phase).threads other)).toNat =
      Function.update (fun other => (f (pool.threads other)).toNat) thread (f phase).toNat other := by
    intro other
    rcases pool.set_cases thread other shared phase with ⟨rfl, same⟩ | ⟨different, same⟩
    · rw [same, Function.update_self]
    · rw [same, Function.update_of_ne different]
  have before := Finset.sum_eq_add_sum_sdiff_singleton_of_mem member
    fun other => (f (pool.threads other)).toNat
  rw [tally, Finset.sum_congr rfl fun other _ => updated other, Finset.sum_update_of_mem member, tally,
    before]
  omega

/-- Beyond the first threads nobody is so. -/
def Pool.Within (f : P → Bool) (count : Nat) (pool : Pool S P) : Prop :=
  ∀ thread, count ≤ thread → f (pool.threads thread) = false

theorem Pool.Within.tally (within : pool.Within f count) :
    pool.tally f count = {thread | f (pool.threads thread) = true}.ncard := by
  have listed : {thread | f (pool.threads thread) = true} =
      ((Finset.range count).filter fun thread => f (pool.threads thread) = true : Finset Nat) := by
    ext thread
    rw [Finset.mem_coe, Finset.mem_filter, Finset.mem_range]
    constructor
    · intro so
      refine ⟨Nat.lt_of_not_le fun beyond => ?_, so⟩
      cases (within thread beyond).symm.trans so
    · exact And.right
  rw [listed, Set.ncard_coe_finset, Finset.card_filter, Pool.tally]
  refine Finset.sum_congr rfl fun thread _ => ?_
  cases f (pool.threads thread) <;> rfl

theorem Pool.Within.run (within : pool.Within f count) (run : Run (Step own) pool path next)
    (inside : ∀ label ∈ path, label.1 < count) : next.Within f count := by
  refine run.along (P := fun pool => pool.Within f count) (fun member within step => ?_) within
  cases step with
  | act moved =>
    intro other beyond
    have different := Nat.ne_of_gt (Nat.lt_of_lt_of_le (inside _ member) beyond)
    rw [Pool.set_ne _ different]
    exact within other beyond

structure WakeOne (own : S → P → A → S → P → Prop) where
  /-- What holds of a thread before its steps. -/
  sound : S → P → Prop
  items : S → Nat
  /-- Sleepers that have not been called. -/
  waiting : S → Nat
  /-- Sleepers that have been called and not gone on. -/
  woken : S → Nat
  asleep : P → Bool
  /-- The thread will look for an item, or call a sleeper. -/
  coming : P → Bool
  slept : ∀ {s p a t q}, own s p a t q →
    waiting t + woken t + (asleep p).toNat = waiting s + woken s + (asleep q).toNat
  covered : ∀ {s p a t q}, own s p a t q → sound s p → waiting t = 0 ∨ items t = 0 ∨
    0 < waiting s ∧ items t + (woken s + (coming p).toNat) ≤ items s + (woken t + (coming q).toNat)

namespace WakeOne

/-- All sleepers are accounted for, and unless all have been called every item has a thread
that stands for it. -/
def Attended (wake : WakeOne own) (count : Nat) (pool : Pool S P) : Prop :=
  wake.waiting pool.shared + wake.woken pool.shared = pool.tally wake.asleep count ∧
    (0 < wake.waiting pool.shared →
      wake.items pool.shared ≤ wake.woken pool.shared + pool.tally wake.coming count)

theorem Attended.step {wake : WakeOne own} (attended : wake.Attended count pool) (inside : label.1 < count)
    (sound : wake.sound pool.shared (pool.threads label.1)) (step : Step own pool label next) :
    wake.Attended count next := by
  cases step with
  | @act thread a shared phase moved =>
    have here : thread < count := inside
    have sleepers := pool.tally_set wake.asleep shared phase here
    have hands := pool.tally_set wake.coming shared phase here
    have slept := wake.slept moved
    have covered := wake.covered moved sound
    obtain ⟨accounted, enough⟩ := attended
    change wake.waiting shared + wake.woken shared = _ ∧ (0 < wake.waiting shared → wake.items shared ≤
      wake.woken shared + _)
    refine ⟨by omega, fun waits => ?_⟩
    rcases covered with none | empty | ⟨before, balance⟩
    · omega
    · omega
    · have := enough before
      omega

theorem attended_run (wake : WakeOne own) (run : Run (Step own) pool path next)
    (sound : ∀ {path next}, Run (Step own) pool path next →
      ∀ thread, wake.sound next.shared (next.threads thread))
    (inside : ∀ label ∈ path, label.1 < count) (attended : wake.Attended count pool) :
    wake.Attended count next := by
  have guarded : Run (Guarded (fun pool label => wake.sound pool.shared (pool.threads label.1)) (Step own))
      pool path next := run.guarded fun before label => sound before label.1
  exact guarded.along (fun member attended step => attended.step (inside _ member) step.1 step.2) attended

theorem attended {path : List (Nat × A)} (wake : WakeOne own) (run : Run (Step own) pool path next)
    (sound : ∀ {path next}, Run (Step own) pool path next →
      ∀ thread, wake.sound next.shared (next.threads thread))
    (nobody : wake.waiting pool.shared = 0 ∧ wake.woken pool.shared = 0)
    (resting : ∀ thread, wake.asleep (pool.threads thread) = false ∧ wake.coming (pool.threads thread) = false) :
    wake.waiting next.shared + wake.woken next.shared =
        {thread | wake.asleep (next.threads thread) = true}.ncard ∧
      (0 < wake.waiting next.shared → wake.items next.shared ≤
        wake.woken next.shared + {thread | wake.coming (next.threads thread) = true}.ncard) := by
  obtain ⟨count, inside⟩ : ∃ count, ∀ label ∈ path, label.1 < count := by
    refine ⟨(path.map Prod.fst).sum + 1, fun label member => Nat.lt_succ_of_le ?_⟩
    exact List.le_sum_of_mem (List.mem_map_of_mem member)
  have initial : wake.Attended count pool := by
    refine ⟨?_, fun waits => absurd nobody.1 (Nat.ne_of_gt waits)⟩
    simp [Pool.tally, nobody.1, nobody.2, resting]
  have sleepers : next.Within wake.asleep count := Pool.Within.run (fun thread _ => (resting thread).1) run inside
  have comers : next.Within wake.coming count := Pool.Within.run (fun thread _ => (resting thread).2) run inside
  rw [← sleepers.tally, ← comers.tally]
  exact wake.attended_run run sound inside initial

end WakeOne
end Threads
