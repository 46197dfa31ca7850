import Rayd.Refs.Lifecycle

/-! Which results the driver keeps for ever. An object is freed by the drop that
clears its last pin, so it stays if it is indexed without a pin, as a task result
is, or if its pin is put on after the last reference has gone, as for an actor
result that completes late or was called for by another driver. -/
namespace Rayd.Refs
open Memory Plasma Core Transition Function

variable {id : ObjectId}

def Gone (s : System) (id : ObjectId) : Prop :=
  s.driver.store.getEntry id = none ∧ s.plasma.objects.lookup id = none

/-- An entry somebody will give up: its one count belongs to a live reference,
or there are borrowers. -/
structure PinnedBy (references : Nat) (entry : OwnerEntry) : Prop where
  count : entry.localCount ≤ 1
  referenced : entry.localCount = 1 → 0 < references
  submitted : entry.submitDepCount = 0
  needed : entry.localCount = 1 ∨ entry.borrowers ≠ ∅

structure Tidy (s : System) : Prop where
  pinned : ∀ id entry, s.driver.refs.snapshot id = some entry → PinnedBy (s.owning id) entry
  cleared : ∀ id, s.recorded id = true →
    s.driver.refs.snapshot id ≠ none ∨ Gone s id ∨ 0 < s.owning id
  owed : ∀ id, Owed s id → s.recorded id = false ∧
    ∀ entry, s.driver.refs.snapshot id = some entry → entry.localCount = 0
  once : OwedOnce s

theorem PinnedBy.mono (pinned : PinnedBy references entry) (more : references ≤ references') :
    PinnedBy references' entry :=
  ⟨pinned.count, fun one => (pinned.referenced one).trans_le more, pinned.submitted, pinned.needed⟩

theorem Tidy.frame (before : Tidy s) (driver : t.driver = s.driver)
    (owning : ∀ id, s.owning id ≤ t.owning id)
    (plasma : ∀ id, s.plasma.objects.lookup id = none → t.plasma.objects.lookup id = none)
    (recorded : t.recorded = s.recorded) (calls : t.calls = s.calls)
    (completions : t.completions = s.completions) : Tidy t := by
  obtain ⟨pinned, cleared, owed, distinct, apart⟩ := before
  refine ⟨fun id entry found => ?_, fun id known => ?_, ?_, ?_, ?_⟩
  · rw [driver] at found
    exact (pinned id entry found).mono (owning id)
  · rw [recorded] at known
    simp only [Gone, driver]
    exact (cleared id known).imp_right <| .imp (fun gone => ⟨gone.1, plasma id gone.2⟩)
      fun alive => alive.trans_le (owning id)
  · simpa only [Owed, System.Announced, driver, recorded, calls, completions] using owed
  · rwa [completions]
  · simpa only [System.Announced, calls, completions] using apart

theorem Tidy.record (before : Tidy s) (id : ObjectId)
    (refs : ∀ other, other ≠ id → t.driver.refs.snapshot other = s.driver.refs.snapshot other)
    (pinned : ∀ entry, t.driver.refs.snapshot id = some entry → PinnedBy (t.owning id) entry)
    (needed : t.driver.refs.snapshot id ≠ none ∨ 0 < t.owning id)
    (owning : ∀ other, other ≠ id → t.owning other = s.owning other)
    (gone : ∀ other, other ≠ id → Gone s other → Gone t other)
    (recorded : t.recorded = update s.recorded id true)
    (owed : ∀ other, Owed t other → Owed s other ∧ other ≠ id) (once : OwedOnce t) : Tidy t := by
  refine ⟨fun other entry now => ?_, fun other known => ?_, fun other due => ?_, once⟩
  · by_cases same : other = id
    · subst same
      exact pinned entry now
    · rw [refs other same] at now
      rw [owning other same]
      exact before.pinned other entry now
  · by_cases same : other = id
    · exact same ▸ needed.imp_right .inr
    · rw [recorded, update_of_ne same] at known
      rw [refs other same, owning other same]
      exact (before.cleared other known).imp_right (.imp_left (gone other same))
  · obtain ⟨due, same⟩ := owed other due
    rw [recorded, update_of_ne same, refs other same]
    exact before.owed other due

section Samples

def sampleCall : Completion := ⟨.actor 0, sampleId, .pickle5 false, 3⟩

end Samples
end Rayd.Refs
