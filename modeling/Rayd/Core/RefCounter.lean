import Rayd.Id
import Rayd.Lib.FiniteMap
import Mathlib.Data.Finset.Basic

/-! The owner-side reference table. An entry is pinned by local references, by
borrowing workers and by submitted tasks; the operation that clears the last pin
removes the entry and reports it. Operations on unknown ids do nothing. -/
namespace Rayd.Core

structure OwnerEntry where
  localCount : Nat
  borrowers : Finset WorkerId
  submitDepCount : Nat
  deriving DecidableEq

namespace OwnerEntry

def default : OwnerEntry := ⟨0, ∅, 0⟩

def isUnpinned (entry : OwnerEntry) : Bool :=
  entry.localCount == 0 && decide (entry.borrowers = ∅) && entry.submitDepCount == 0

theorem isUnpinned_iff (entry : OwnerEntry) : entry.isUnpinned = true ↔ entry = default := by
  cases entry
  simp [isUnpinned, default, and_assoc]

end OwnerEntry

structure RefCounter where
  entries : FiniteMap ObjectId OwnerEntry

namespace RefCounter

def empty : RefCounter := ⟨∅⟩

def snapshot (refs : RefCounter) (id : ObjectId) : Option OwnerEntry := refs.entries.lookup id

/-- `entry(id).or_default()` followed by an update. -/
def pin (refs : RefCounter) (id : ObjectId) (update : OwnerEntry → OwnerEntry) : RefCounter :=
  ⟨refs.entries.insert id (update ((refs.entries.lookup id).getD .default))⟩

/-- Give up one pin; the flag says that the entry was removed. -/
def unpin (refs : RefCounter) (id : ObjectId) (update : OwnerEntry → OwnerEntry) :
    Bool × RefCounter :=
  match refs.entries.lookup id with
  | none => (false, refs)
  | some entry =>
    if (update entry).isUnpinned then (true, ⟨refs.entries.erase id⟩)
    else (false, ⟨refs.entries.insert id (update entry)⟩)

def addOwned (refs : RefCounter) (id : ObjectId) : RefCounter :=
  refs.pin id fun entry => { entry with localCount := entry.localCount + 1 }

def incLocal (refs : RefCounter) (id : ObjectId) : Nat × RefCounter :=
  match refs.entries.lookup id with
  | none => (0, refs)
  | some entry =>
    (entry.localCount + 1, ⟨refs.entries.insert id { entry with localCount := entry.localCount + 1 }⟩)

def decLocal (refs : RefCounter) (id : ObjectId) : Bool × RefCounter :=
  refs.unpin id fun entry => { entry with localCount := entry.localCount - 1 }

def addBorrower (refs : RefCounter) (id : ObjectId) (worker : WorkerId) : RefCounter :=
  refs.pin id fun entry => { entry with borrowers := insert worker entry.borrowers }

def removeBorrower (refs : RefCounter) (id : ObjectId) (worker : WorkerId) : Bool × RefCounter :=
  refs.unpin id fun entry => { entry with borrowers := entry.borrowers.erase worker }

def addSubmitDep (refs : RefCounter) (id : ObjectId) : RefCounter :=
  refs.pin id fun entry => { entry with submitDepCount := entry.submitDepCount + 1 }

def completeSubmitDep (refs : RefCounter) (id : ObjectId) : Bool × RefCounter :=
  refs.unpin id fun entry => { entry with submitDepCount := entry.submitDepCount - 1 }

/-- Every tracked id, and the counter without them. -/
def drainIds (refs : RefCounter) : List ObjectId × RefCounter := (refs.entries.keys, empty)

theorem snapshot_pin (refs : RefCounter) (id other : ObjectId) (update : OwnerEntry → OwnerEntry) :
    (refs.pin id update).snapshot other =
      if other = id then some (update ((refs.snapshot id).getD .default)) else refs.snapshot other :=
  FiniteMap.lookup_insert _ _ _ _

theorem unpin_unknown {refs : RefCounter} {id : ObjectId} (unknown : refs.snapshot id = none)
    (update : OwnerEntry → OwnerEntry) : refs.unpin id update = (false, refs) := by
  simp only [snapshot] at unknown
  simp only [unpin, unknown]

theorem unpin_known {refs : RefCounter} {id : ObjectId} (known : refs.snapshot id = some entry)
    (update : OwnerEntry → OwnerEntry) :
    refs.unpin id update = if (update entry).isUnpinned then (true, ⟨refs.entries.erase id⟩)
      else (false, ⟨refs.entries.insert id (update entry)⟩) := by
  simp only [snapshot] at known
  simp only [unpin, known]

/-- What a released pin leaves: other ids as they were, and the id either gone
with the flag raised, or updated and still pinned, or unknown all along. -/
theorem snapshot_unpin (refs : RefCounter) (id other : ObjectId) (update : OwnerEntry → OwnerEntry) :
    (refs.unpin id update).2.snapshot other =
      if other = id then
        if (refs.unpin id update).1 then none else (refs.snapshot id).map update
      else refs.snapshot other := by
  cases found : refs.snapshot id with
  | none =>
    rw [unpin_unknown found]
    by_cases same : other = id
    · simp [same, found]
    · simp only [if_neg same]
  | some entry =>
    rw [unpin_known found]
    split
    · simp only [snapshot, FiniteMap.lookup_erase, if_true]
    · simp only [snapshot, FiniteMap.lookup_insert, Bool.false_eq_true, if_false, Option.map_some]

theorem unpin_freed_iff (refs : RefCounter) (id : ObjectId) (update : OwnerEntry → OwnerEntry) :
    (refs.unpin id update).1 = true ↔ (refs.snapshot id).map update = some .default := by
  cases found : refs.snapshot id with
  | none => simp [unpin_unknown found]
  | some entry =>
    rw [unpin_known found, Option.map_some, Option.some.injEq, ← OwnerEntry.isUnpinned_iff]
    split <;> simp_all

theorem borrowers_unpin (refs : RefCounter) (id other : ObjectId) (update : OwnerEntry → OwnerEntry) :
    ((refs.unpin id update).2.snapshot other).elim ∅ OwnerEntry.borrowers =
      if other = id then (refs.snapshot id).elim ∅ fun entry => (update entry).borrowers
      else (refs.snapshot other).elim ∅ OwnerEntry.borrowers := by
  rw [snapshot_unpin]
  split
  · split
    · rename_i cleared
      have last := (unpin_freed_iff _ _ _).mp cleared
      obtain ⟨entry, found, unpinned⟩ := Option.map_eq_some_iff.mp last
      simp only [found, Option.elim_some, Option.elim_none]
      exact (congrArg OwnerEntry.borrowers unpinned).symm
    · cases refs.snapshot id <;> rfl
  · rfl

theorem unpin_absent {refs : RefCounter} {other : ObjectId} (absent : refs.snapshot other = none)
    (id : ObjectId) (update : OwnerEntry → OwnerEntry) :
    (refs.unpin id update).2.snapshot other = none := by
  rw [snapshot_unpin]
  split
  · rename_i same
    split
    · rfl
    · rw [← same, absent]
      rfl
  · exact absent

theorem unpin_cleared {refs : RefCounter} {id : ObjectId} {update : OwnerEntry → OwnerEntry}
    (cleared : (refs.unpin id update).1 = true) : (refs.unpin id update).2.snapshot id = none := by
  rw [snapshot_unpin, if_pos rfl, if_pos cleared]

theorem mem_drainIds (refs : RefCounter) (id : ObjectId) :
    id ∈ refs.drainIds.1 ↔ refs.snapshot id ≠ none := by
  simp only [drainIds, snapshot, ne_eq, AList.lookup_eq_none, not_not, AList.mem_keys]

end RefCounter
end Rayd.Core
