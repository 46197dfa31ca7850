import Rayd.Lib.Threads

/-! A condition variable. A thread goes to sleep on it for something it has not found;
whoever may have brought that about notifies all sleepers afterwards. Notifications are
counted, and a sleeper that remembers a smaller count has been called. -/
namespace Threads
open Transition
variable {S P A Q : Type}

structure Condvar (own : S → P → A → S → P → Prop) (Q : Type) where
  /-- What holds of a thread before its steps. -/
  sound : S → P → Prop
  notified : S → Nat
  /-- What a thread sleeps for, and the count when it went to sleep. -/
  sleeps? : P → Option (Q × Nat)
  found : S → Q → Prop
  /-- The thread will notify. -/
  calls : P → Prop
  counted : ∀ {s p a t q}, own s p a t q → notified s ≤ notified t
  called : ∀ {s p a t q}, own s p a t q → calls p → calls q ∨ notified s < notified t
  slept : ∀ {s p a t q query since}, own s p a t q → sound s p → sleeps? q = some (query, since) →
    sleeps? p = some (query, since) ∨ since = notified t ∧ ¬ found t query
  brought : ∀ {s p a t q query}, own s p a t q → found t query → found s query ∨ calls q

namespace Condvar
variable {own : S → P → A → S → P → Prop} {pool next : Pool S P} {query : Q} {since : Nat}

/-- The sleeper has been called, or somebody is about to call. -/
def Called (condvar : Condvar own Q) (pool : Pool S P) (since : Nat) : Prop :=
  since < condvar.notified pool.shared ∨ ∃ other, condvar.calls (pool.threads other)

/-- Nobody sleeps through what they sleep for. -/
def Awake (condvar : Condvar own Q) (pool : Pool S P) : Prop :=
  ∀ thread query since, condvar.sleeps? (pool.threads thread) = some (query, since) →
    since ≤ condvar.notified pool.shared ∧
      (condvar.found pool.shared query → condvar.Called pool since)

theorem Called.step {condvar : Condvar own Q} (called : condvar.Called pool since)
    (bound : since ≤ condvar.notified pool.shared) (step : Step own pool label next) :
    condvar.Called next since := by
  cases step with
  | @act thread a shared phase moved =>
    rcases called with before | ⟨other, calls⟩
    · exact .inl (Nat.lt_of_lt_of_le before (condvar.counted moved))
    · by_cases same : other = thread
      · subst same
        rcases condvar.called moved calls with still | more
        · exact .inr ⟨other, (Pool.set_self ..).symm ▸ still⟩
        · exact .inl (Nat.lt_of_le_of_lt bound more)
      · exact .inr ⟨other, (Pool.set_ne _ same ..).symm ▸ calls⟩

theorem Awake.step {condvar : Condvar own Q} (awake : condvar.Awake pool)
    (sound : condvar.sound pool.shared (pool.threads label.1)) (step : Step own pool label next) :
    condvar.Awake next := by
  have kept := step
  cases step with
  | @act thread a shared phase moved =>
    intro sleeper query since sleeps
    -- a sleeper slept before, or went to sleep now and has not found it
    have origin : condvar.sleeps? (pool.threads sleeper) = some (query, since) ∨
        since = condvar.notified shared ∧ ¬ condvar.found shared query := by
      rcases pool.set_cases thread sleeper shared phase with ⟨rfl, now⟩ | ⟨_, now⟩
      · exact condvar.slept moved sound (now ▸ sleeps)
      · exact .inl (now ▸ sleeps)
    rcases origin with before | ⟨now, missing⟩
    · obtain ⟨bound, called⟩ := awake sleeper query since before
      refine ⟨Nat.le_trans bound (condvar.counted moved), fun found => ?_⟩
      rcases condvar.brought moved found with already | calls
      · exact (called already).step bound kept
      · exact .inr ⟨thread, (Pool.set_self ..).symm ▸ calls⟩
    · exact ⟨Nat.le_of_eq now, fun found => absurd found missing⟩

theorem awake_run (condvar : Condvar own Q) (run : Run (Step own) pool path next)
    (sound : ∀ {path next}, Run (Step own) pool path next →
      ∀ thread, condvar.sound next.shared (next.threads thread))
    (awake : condvar.Awake pool) : condvar.Awake next := by
  have guarded : Run (Guarded (fun pool label => condvar.sound pool.shared (pool.threads label.1)) (Step own))
      pool path next := run.guarded fun before label => sound before label.1
  exact guarded.invariant (fun awake step => awake.step step.1 step.2) awake

end Condvar
end Threads
