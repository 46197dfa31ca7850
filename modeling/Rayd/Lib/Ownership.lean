import Rayd.Lib.Threads
import Mathlib.Data.List.Nodup

/-! Values that are in one place at a time: held by one thread, or put down once in the
shared state. A thread may take up a value that is nowhere, let go of the one it holds, or
put it down. -/
namespace Threads
variable {S P T : Type}

structure Exclusive (held : P → Option T) (placed : S → List T) (pool : Pool S P) : Prop where
  once : (placed pool.shared).Nodup
  apart : ∀ thread value, held (pool.threads thread) = some value → value ∉ placed pool.shared
  single : ∀ thread other value, held (pool.threads thread) = some value →
    held (pool.threads other) = some value → thread = other

/-- Somewhere, with a thread or put down. -/
def Pool.Has (held : P → Option T) (placed : S → List T) (pool : Pool S P) (value : T) : Prop :=
  (∃ thread, held (pool.threads thread) = some value) ∨ value ∈ placed pool.shared

namespace Exclusive
variable {held : P → Option T} {placed : S → List T} {pool : Pool S P} {thread : Nat} {shared : S} {phase : P}

theorem keep (exclusive : Exclusive held placed pool) (same : placed shared = placed pool.shared)
    (owner : ∀ value, held phase = some value → held (pool.threads thread) = some value) :
    Exclusive held placed (pool.set thread shared phase) := by
  have older : ∀ other value, held ((pool.set thread shared phase).threads other) = some value →
      held (pool.threads other) = some value := by
    intro other value found
    rcases pool.set_cases thread other shared phase with ⟨rfl, now⟩ | ⟨_, now⟩
    · exact owner value (now ▸ found)
    · exact now ▸ found
  constructor
  · exact same.symm ▸ exclusive.once
  · intro other value found
    exact same.symm ▸ exclusive.apart other value (older other value found)
  · intro first second value left right
    exact exclusive.single first second value (older first value left) (older second value right)

theorem take (exclusive : Exclusive held placed pool) (same : placed shared = placed pool.shared)
    (taken : held phase = some value) (fresh : ¬ pool.Has held placed value) :
    Exclusive held placed (pool.set thread shared phase) := by
  have elsewhere : ∀ other, other ≠ thread →
      held ((pool.set thread shared phase).threads other) ≠ some value := by
    intro other different found
    rw [Pool.set_ne _ different] at found
    exact fresh (.inl ⟨other, found⟩)
  constructor
  · exact same.symm ▸ exclusive.once
  · intro other found holds
    show found ∉ placed shared
    rw [same]
    rcases pool.set_cases thread other shared phase with ⟨rfl, now⟩ | ⟨_, now⟩
    · rw [now, taken] at holds
      cases holds
      exact fun member => fresh (.inr member)
    · exact exclusive.apart other found (now ▸ holds)
  · intro first second found left right
    by_cases here : found = value
    · subst here
      have one : first = thread := Decidable.byContradiction fun different => elsewhere first different left
      have two : second = thread := Decidable.byContradiction fun different => elsewhere second different right
      rw [one, two]
    · have older : ∀ other, held ((pool.set thread shared phase).threads other) = some found →
          held (pool.threads other) = some found := by
        intro other holds
        rcases pool.set_cases thread other shared phase with ⟨rfl, now⟩ | ⟨_, now⟩
        · rw [now, taken] at holds
          exact absurd (Option.some.inj holds).symm here
        · exact now ▸ holds
      exact exclusive.single first second found (older first left) (older second right)

theorem place (exclusive : Exclusive held placed pool) (holds : held (pool.threads thread) = some value)
    (put : placed shared = placed pool.shared ++ [value]) (empty : held phase = none) :
    Exclusive held placed (pool.set thread shared phase) := by
  have older : ∀ other found, held ((pool.set thread shared phase).threads other) = some found →
      other ≠ thread ∧ held (pool.threads other) = some found := by
    intro other found holds
    rcases pool.set_cases thread other shared phase with ⟨rfl, now⟩ | ⟨different, now⟩
    · rw [now, empty] at holds
      cases holds
    · exact ⟨different, now ▸ holds⟩
  constructor
  · show (placed shared).Nodup
    rw [put, List.nodup_append_comm, List.singleton_append, List.nodup_cons]
    exact ⟨exclusive.apart thread value holds, exclusive.once⟩
  · intro other found holding
    obtain ⟨different, before⟩ := older other found holding
    show found ∉ placed shared
    rw [put, List.mem_append, List.mem_singleton]
    rintro (member | rfl)
    · exact exclusive.apart other found before member
    · exact different (exclusive.single other thread found before holds)
  · intro first second found left right
    exact exclusive.single first second found (older first found left).2 (older second found right).2

end Exclusive

/-- After a step a value is with the thread that took it, put down, or where it was. -/
theorem Pool.Has.of_set {held : P → Option T} {placed : S → List T} {pool : Pool S P} {thread : Nat} {shared : S}
    {phase : P} (has : (pool.set thread shared phase).Has held placed value) :
    held phase = some value ∨ value ∈ placed shared ∨ ∃ other, held (pool.threads other) = some value := by
  rcases has with ⟨other, found⟩ | member
  · rcases pool.set_cases thread other shared phase with ⟨rfl, now⟩ | ⟨_, now⟩
    · exact .inl (now ▸ found)
    · exact .inr (.inr ⟨other, now ▸ found⟩)
  · exact .inr (.inl member)

end Threads
