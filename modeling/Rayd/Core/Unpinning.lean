import Rayd.Core.Concurrent

/-! Threads that take and give up pins on objects of one core worker. The counter
decides that an object is free in one critical section; `free_unpinned` deletes it
from the memory store and from plasma in two later ones. The seals run through the
phases of `Concurrent`. -/
namespace Rayd.Core.Unpinning
open Memory Plasma Spill Threads Transition

inductive Phase where
  | idle
  | sealing (phase : Core.Phase)
  | decLocal (id : ObjectId)
  | addBorrower (id : ObjectId) (borrower : WorkerId)
  | removeBorrower (id : ObjectId) (borrower : WorkerId)
  /-- The two deletes of `free_unpinned`. -/
  | deleteEntry (id : ObjectId)
  | deleteCopy (id : ObjectId)

namespace Phase

def isIdle : Phase → Bool
  | .idle => true
  | _ => false

def ofSeal (phase : Core.Phase) : Phase := if phase.finished then .idle else .sealing phase

/-- After a counter operation that may have cleared the last pin. -/
def afterUnpin (id : ObjectId) (cleared : Bool) : Phase := if cleared then .deleteEntry id else .idle

/-- The id whose delete is still to come. -/
def freeing? : Phase → Option ObjectId
  | .deleteEntry id | .deleteCopy id => some id
  | _ => none

/-- The id the next step pins. -/
def pinning? : Phase → Option ObjectId
  | .sealing (.pin value) => some value.id
  | .addBorrower id _ => some id
  | _ => none

end Phase

def withRefs (s : Session) (refs : RefCounter) : Session := { s with worker := { s.worker with refs } }

def advance : Session × Phase → Session × Phase
  | (s, .sealing phase) => ((Session.advance (s, phase)).1, .ofSeal (Session.advance (s, phase)).2)
  | (s, .decLocal id) =>
    (withRefs s (s.worker.refs.decLocal id).2, .afterUnpin id (s.worker.refs.decLocal id).1)
  | (s, .addBorrower id borrower) => (s.addBorrowerPin id borrower, .idle)
  | (s, .removeBorrower id borrower) =>
    (withRefs s (s.worker.refs.removeBorrower id borrower).2,
      .afterUnpin id (s.worker.refs.removeBorrower id borrower).1)
  | (s, .deleteEntry id) =>
    ({ s with worker := { s.worker with store := s.worker.store.delete [id] } }, .deleteCopy id)
  | (s, .deleteCopy id) => ({ s with plasma := s.plasma.delete id }, .idle)
  | (s, .idle) => (s, .idle)

/-- A thread's steps with no other thread between them, until it is idle again. -/
def settle : Nat → Session × Phase → Session × Phase
  | 0, state => state
  | count + 1, state => settle count (advance state)

theorem decLocal_settles (s : Session) (id : ObjectId) :
    settle 3 (s, .decLocal id) = (s.decLocalRef id, .idle) := by
  simp only [settle, advance, Session.decLocalRef, Session.release]
  cases (s.worker.refs.decLocal id).1 <;> rfl

theorem removeBorrower_settles (s : Session) (id : ObjectId) (borrower : WorkerId) :
    settle 3 (s, .removeBorrower id borrower) = (s.removeBorrowerPin id borrower, .idle) := by
  simp only [settle, advance, Session.removeBorrowerPin, Session.release]
  cases (s.worker.refs.removeBorrower id borrower).1 <;> rfl

inductive Act where
  | sealValueToPlasma (value : Sealing)
  | decLocalRef (id : ObjectId)
  | addBorrowerPin (id : ObjectId) (borrower : WorkerId)
  | removeBorrowerPin (id : ObjectId) (borrower : WorkerId)
  | step

inductive Own (s : Session) (phase : Phase) : Act → Session → Phase → Prop where
  | sealValueToPlasma : phase = .idle → Own s phase (.sealValueToPlasma value) s (.sealing (.create value))
  | decLocalRef : phase = .idle → Own s phase (.decLocalRef object) s (.decLocal object)
  | addBorrowerPin : phase = .idle →
      Own s phase (.addBorrowerPin object borrower) s (.addBorrower object borrower)
  | removeBorrowerPin : phase = .idle →
      Own s phase (.removeBorrowerPin object borrower) s (.removeBorrower object borrower)
  | step : phase.isIdle = false → advance (s, phase) = (session, next) → Own s phase .step session next
  /-- The pressure loop may come by the entries in any order. -/
  | reorder : phase = .sealing (.listEntries value) → s.worker.spillThreshold ≠ 2 ^ 64 - 1 →
      entries.Perm s.worker.store.plasmaEntries →
      Own s phase .step s (.sealing (.spillNext value (entries.map fun entry => entry.2.dataSize).sum entries))

/-- A thread inside `free_unpinned` holds back the steps that pin its id. -/
def Lets (_ : Session) (other phase : Phase) : Act → Prop
  | .step => ∀ id, phase.pinning? = some id → other.freeing? ≠ some id
  | _ => True

theorem createAndSeal_worker (s : Session) (id : ObjectId) (metadata data : Bytes) :
    (s.createAndSeal id metadata data).2.worker = s.worker := rfl

theorem sealing_refs (s : Session) {phase : Core.Phase} (quiet : ∀ value, phase ≠ .pin value) :
    (Session.advance (s, phase)).1.worker.refs = s.worker.refs := by
  cases phase with
  | pin value => exact absurd rfl (quiet value)
  | create value =>
    have worker := createAndSeal_worker s value.id value.metadata.encode value.data
    simp only [Session.advance]
    split <;> rename_i answered <;> rw [answered] at worker <;> exact congrArg CoreWorker.refs worker
  | reseal id index object =>
    have worker := createAndSeal_worker s id object.metadata object.data
    simp only [Session.advance]
    split <;> rename_i answered <;> rw [answered] at worker <;> exact congrArg CoreWorker.refs worker
  | spillNext value current entries =>
    cases entries with
    | nil => rfl
    | cons entry rest =>
      simp only [Session.advance]
      split <;> rfl
  | _ =>
    simp only [Session.advance]
    repeat' split
    all_goals rfl

theorem advance_absent (s : Session) (phase : Phase) (absent : s.worker.refs.snapshot object = none)
    (unpinned : phase.pinning? ≠ some object) :
    (advance (s, phase)).1.worker.refs.snapshot object = none := by
  cases phase with
  | sealing phase =>
    cases phase with
    | pin value =>
      refine (RefCounter.snapshot_pin _ value.id object _).trans ?_
      rw [if_neg fun same => unpinned (congrArg some same.symm), absent]
    | _ =>
      refine (congrArg (fun refs => RefCounter.snapshot refs object) (sealing_refs s ?_)).trans absent
      intro value same
      cases same
  | addBorrower id borrower =>
    refine (RefCounter.snapshot_pin _ id object _).trans ?_
    rw [if_neg fun same => unpinned (congrArg some same.symm), absent]
  | decLocal id => exact RefCounter.unpin_absent absent id _
  | removeBorrower id borrower => exact RefCounter.unpin_absent absent id _
  | _ => exact absent

/-- Whose delete is still to come has no pins. -/
def Freed (s : Session) (phase : Phase) : Prop :=
  ∀ id, phase.freeing? = some id → s.worker.refs.snapshot id = none

theorem afterUnpin_freed {s : Session} {id : ObjectId} {flag : Bool}
    (cleared : flag = true → s.worker.refs.snapshot id = none) : Freed s (.afterUnpin id flag) := by
  intro object freeing
  cases flag with
  | false => cases freeing
  | true =>
    cases freeing
    exact cleared rfl

theorem ofSeal_freed (s : Session) (phase : Core.Phase) : Freed s (.ofSeal phase) := by
  intro object freeing
  simp only [Phase.ofSeal] at freeing
  split at freeing <;> cases freeing

theorem advance_freed {s : Session} {phase : Phase} (freed : Freed s phase) :
    Freed (advance (s, phase)).1 (advance (s, phase)).2 := by
  cases phase with
  | sealing phase => exact ofSeal_freed _ _
  | decLocal id => exact afterUnpin_freed fun cleared => RefCounter.unpin_cleared cleared
  | removeBorrower id borrower => exact afterUnpin_freed fun cleared => RefCounter.unpin_cleared cleared
  | deleteEntry id => exact freed
  | _ =>
    intro object freeing
    cases freeing

def assertions : Assertions Own Lets where
  shared _ := True
  phase := Freed
  preserved own _ freed := by
    refine ⟨trivial, ?_⟩
    cases own with
    | step _ moved =>
      have next := advance_freed freed
      rw [moved] at next
      exact next
    | _ =>
      intro object freeing
      cases freeing
  undisturbed own _ _ freed lets := by
    intro object freeing
    cases own with
    | step _ moved =>
      have absent := advance_absent _ _ (freed object freeing) fun pinning => lets object pinning freeing
      rwa [moved] at absent
    | _ => exact freed object freeing

/-- While no id is pinned that a thread is about to free, every delete of
`free_unpinned` finds its id without an entry in the counter. -/
theorem unopposed_free_unpinned {start : Session} {id : ObjectId}
    (run : Run (Guarded (Unopposed Lets) (Step Own)) ⟨start, fun _ => .idle⟩ path pool)
    (freeing : (pool.threads thread).freeing? = some id) :
    pool.shared.worker.refs.snapshot id = none := by
  refine (assertions.run run ⟨trivial, fun _ => ?_⟩).2 thread id freeing
  intro object freeing
  cases freeing

def sampleSession : Session := ⟨.start .newest (.nil 16) none (2 ^ 64 - 1), ⟨.onePage, ∅⟩⟩
def sampleSealing : Sealing := ⟨.nil 28, .pickle5 false, [1, 2, 3]⟩

section Samples

theorem idle_lets (s : Session) (own : Phase) (act : Act) : Lets s .idle own act := by
  cases act with
  | step =>
    intro id _ freeing
    cases freeing
  | _ => trivial

theorem dropped_value_run :
    ∃ path pool, Run (Guarded (Unopposed Lets) (Step Own)) ⟨sampleSession, fun _ => .idle⟩ path pool ∧
      (pool.threads 0).freeing? = some sampleSealing.id ∧
      pool.shared.plasma.objects.lookup sampleSealing.id ≠ none := by
  have run : Run (Guarded (Unopposed Lets) (Step Own)) ⟨sampleSession, fun _ => .idle⟩ [] _ := .refl
  have only : Pool.Only (⟨sampleSession, fun _ => .idle⟩ : Pool Session Phase) .idle := fun _ _ => rfl
  obtain ⟨run, only⟩ := only.alone idle_lets run (a := .sealValueToPlasma sampleSealing)
    (.sealValueToPlasma rfl)
  obtain ⟨run, only⟩ := only.alone idle_lets run (a := .step) (.step rfl rfl)
  obtain ⟨run, only⟩ := only.alone idle_lets run (a := .step) (.step rfl rfl)
  obtain ⟨run, only⟩ := only.alone idle_lets run (a := .step) (.step rfl rfl)
  obtain ⟨run, only⟩ := only.alone idle_lets run (a := .step) (.step rfl rfl)
  obtain ⟨run, only⟩ := only.alone idle_lets run (a := .decLocalRef sampleSealing.id) (.decLocalRef rfl)
  obtain ⟨run, only⟩ := only.alone idle_lets run (a := .step) (.step rfl rfl)
  exact ⟨_, _, run, rfl, by decide⟩

theorem dropped_value_unpinned :
    ∃ path pool, Run (Guarded (Unopposed Lets) (Step Own)) ⟨sampleSession, fun _ => .idle⟩ path pool ∧
      (pool.threads 0).freeing? = some sampleSealing.id ∧
      pool.shared.worker.refs.snapshot sampleSealing.id = none := by
  obtain ⟨path, pool, run, freeing, _⟩ := dropped_value_run
  exact ⟨path, pool, run, freeing, unopposed_free_unpinned run freeing⟩

/-- A borrower registers after the last local reference has been dropped and before
its object is deleted: both copies go although the counter has the borrower. -/
theorem registration_during_free :
    ∃ path pool, Run (Step Own) ⟨sampleSession, fun _ => .idle⟩ path pool ∧
      (pool.threads 0).freeing? = some sampleSealing.id ∧
      pool.shared.worker.refs.snapshot sampleSealing.id = some ⟨0, {.nil 16}, 0⟩ ∧
      ∃ more next, Run (Step Own) pool more next ∧
        next.shared.worker.refs.snapshot sampleSealing.id = some ⟨0, {.nil 16}, 0⟩ ∧
        next.shared.worker.store.getEntry sampleSealing.id = none ∧
        next.shared.plasma.objects.lookup sampleSealing.id = none := by
  have run : Run (Step Own) ⟨sampleSession, fun _ => .idle⟩ [] _ := .refl
  have run := run.next (a := (0, .sealValueToPlasma sampleSealing)) (.act (.sealValueToPlasma rfl))
  have run := run.next (a := (0, .step)) (.act (.step rfl rfl))
  have run := run.next (a := (0, .step)) (.act (.step rfl rfl))
  have run := run.next (a := (0, .step)) (.act (.step rfl rfl))
  have run := run.next (a := (0, .step)) (.act (.step rfl rfl))
  have run := run.next (a := (0, .decLocalRef sampleSealing.id)) (.act (.decLocalRef rfl))
  have run := run.next (a := (1, .addBorrowerPin sampleSealing.id (.nil 16))) (.act (.addBorrowerPin rfl))
  have run := run.next (a := (0, .step)) (.act (.step rfl rfl))
  have run := run.next (a := (1, .step)) (.act (.step rfl rfl))
  refine ⟨_, _, run, rfl, rfl, ?_⟩
  exact ⟨_, _, .head (a := (0, .step)) (.act (.step rfl rfl)) <|
    .head (a := (0, .step)) (.act (.step rfl rfl)) .refl, rfl, rfl, rfl⟩

end Samples

end Rayd.Core.Unpinning
