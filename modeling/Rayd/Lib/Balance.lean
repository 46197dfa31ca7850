import Rayd.Lib.Threads
import Mathlib.Algebra.BigOperators.Group.Finset.Piecewise
import Mathlib.Algebra.Order.BigOperators.Group.List
import Mathlib.Algebra.Order.Group.Nat

/-! Quantities that threads change in several steps. What a thread has begun and not
finished is its weight; when every step moves the shared quantity against the weight of
the thread that takes it, the quantity is back where it was whenever all threads rest. -/
namespace Threads
open Transition
variable {S P A G : Type} [AddCommGroup G] {own : S → P → A → S → P → Prop} {pool next : Pool S P}

/-- Each step changes the shared quantity by what its thread has less to do. -/
def Conserves (own : S → P → A → S → P → Prop) (quantity : S → G) (weight : P → G) : Prop :=
  ∀ s p a t q, own s p a t q → quantity t + weight q = quantity s + weight p

def Pool.balance (quantity : S → G) (weight : P → G) (count : Nat) (pool : Pool S P) : G :=
  quantity pool.shared + ∑ thread ∈ Finset.range count, weight (pool.threads thread)

theorem Pool.balance_set (quantity : S → G) (weight : P → G) (pool : Pool S P) (shared : S) (phase : P)
    (inside : thread < count) (moved : quantity shared + weight phase =
      quantity pool.shared + weight (pool.threads thread)) :
    (pool.set thread shared phase).balance quantity weight count = pool.balance quantity weight count := by
  have member : thread ∈ Finset.range count := Finset.mem_range.mpr inside
  have updated : ∀ other, weight ((pool.set thread shared phase).threads other) =
      Function.update (fun other => weight (pool.threads other)) thread (weight phase) other := by
    intro other
    rcases pool.set_cases thread other shared phase with ⟨rfl, same⟩ | ⟨different, same⟩
    · rw [same, Function.update_self]
    · rw [same, Function.update_of_ne different]
  calc (pool.set thread shared phase).balance quantity weight count
      = quantity shared + (weight phase +
          ∑ other ∈ Finset.range count \ {thread}, weight (pool.threads other)) := by
        rw [balance, Finset.sum_congr rfl fun other _ => updated other, Finset.sum_update_of_mem member]
        rfl
    _ = quantity pool.shared + (weight (pool.threads thread) +
          ∑ other ∈ Finset.range count \ {thread}, weight (pool.threads other)) := by
        rw [← add_assoc, moved, add_assoc]
    _ = pool.balance quantity weight count := by
        rw [balance, Finset.sum_eq_add_sum_sdiff_singleton_of_mem member fun other => weight (pool.threads other)]

theorem balance_run {quantity : S → G} {weight : P → G} (conserves : Conserves own quantity weight)
    (run : Run (Step own) pool path next) (inside : ∀ label ∈ path, label.1 < count) :
    next.balance quantity weight count = pool.balance quantity weight count := by
  induction run with
  | refl => rfl
  | next run last ih =>
    have earlier := ih fun label member => inside label (List.mem_append_left _ member)
    cases last with
    | act moved =>
      have here := inside _ (List.mem_append_right _ (List.mem_singleton.mpr rfl))
      rw [Pool.balance_set quantity weight _ _ _ here (conserves _ _ _ _ _ moved), earlier]

theorem settled_run {quantity : S → G} {weight : P → G} (conserves : Conserves own quantity weight)
    (run : Run (Step own) pool path next) (before : ∀ thread, weight (pool.threads thread) = 0)
    (after : ∀ thread, weight (next.threads thread) = 0) :
    quantity next.shared = quantity pool.shared := by
  obtain ⟨count, inside⟩ : ∃ count, ∀ label ∈ path, label.1 < count := by
    refine ⟨(path.map Prod.fst).sum + 1, fun label member => Nat.lt_succ_of_le ?_⟩
    exact List.le_sum_of_mem (List.mem_map_of_mem member)
  have balanced := balance_run conserves run inside
  simpa only [Pool.balance, before, after, Finset.sum_const_zero, add_zero] using balanced

end Threads
