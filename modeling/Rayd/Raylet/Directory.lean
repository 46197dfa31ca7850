import Rayd.Core.Worker
import Rayd.Lib.Deferred
import Rayd.Rpc

/-! The owner raylet's object directory and the two handlers that keep it and the
owner's borrower sets: each writes the directory first and calls the owner sink
after it, under separate locks. The sink is the owner's core worker, which knows a
borrower by its node id. The owner lists itself in the directory only. -/
namespace Rayd.Raylet
open Memory

structure ObjectDirectory where
  inner : FiniteMap ObjectId (Finset NodeId)

namespace ObjectDirectory

def empty : ObjectDirectory := ⟨∅⟩

def register (directory : ObjectDirectory) (object : ObjectId) (node : NodeId) : ObjectDirectory :=
  ⟨directory.inner.insert object (insert node ((directory.inner.lookup object).getD ∅))⟩

/-- The entry goes with its last holder. -/
def remove (directory : ObjectDirectory) (object : ObjectId) (node : NodeId) : ObjectDirectory :=
  match directory.inner.lookup object with
  | none => directory
  | some holders =>
    if holders.erase node = ∅ then ⟨directory.inner.erase object⟩
    else ⟨directory.inner.insert object (holders.erase node)⟩

def locations (directory : ObjectDirectory) (object : ObjectId) : Finset NodeId :=
  (directory.inner.lookup object).getD ∅

def len (directory : ObjectDirectory) : Nat := directory.inner.keys.length

theorem locations_register (directory : ObjectDirectory) (object other : ObjectId) (node : NodeId) :
    (directory.register object node).locations other =
      if other = object then insert node (directory.locations object) else directory.locations other := by
  simp only [locations, register, FiniteMap.lookup_insert]
  split <;> rfl

theorem locations_remove (directory : ObjectDirectory) (object other : ObjectId) (node : NodeId) :
    (directory.remove object node).locations other =
      if other = object then (directory.locations object).erase node else directory.locations other := by
  cases found : directory.inner.lookup object with
  | none =>
    simp only [locations, remove, found]
    split
    · rename_i same
      rw [same, found]
      rfl
    · rfl
  | some holders =>
    simp only [locations, remove, found]
    by_cases last : holders.erase node = ∅
    · simp only [last, if_true, FiniteMap.lookup_erase, Option.getD_some]
      split <;> rfl
    · simp only [last, if_false, FiniteMap.lookup_insert, Option.getD_some]
      split <;> rfl

end ObjectDirectory
end Rayd.Raylet

namespace Rayd.Core.Session

/-- The workers whose replicas pin the object. -/
def borrowers (s : Session) (object : ObjectId) : Finset WorkerId :=
  (s.worker.refs.snapshot object).elim ∅ OwnerEntry.borrowers

theorem borrowers_addBorrowerPin (s : Session) (object other : ObjectId) (borrower : WorkerId) :
    (s.addBorrowerPin object borrower).borrowers other =
      if other = object then insert borrower (s.borrowers object) else s.borrowers other := by
  simp only [borrowers, addBorrowerPin, RefCounter.addBorrower, RefCounter.snapshot_pin]
  split
  · cases s.worker.refs.snapshot object <;> rfl
  · rfl

theorem borrowers_removeBorrowerPin (s : Session) (object other : ObjectId) (borrower : WorkerId) :
    (s.removeBorrowerPin object borrower).borrowers other =
      if other = object then (s.borrowers object).erase borrower else s.borrowers other := by
  simp only [borrowers, removeBorrowerPin, release_refs, RefCounter.removeBorrower,
    RefCounter.borrowers_unpin]
  split
  · cases s.worker.refs.snapshot object <;> rfl
  · rfl

end Rayd.Core.Session

namespace Rayd.Raylet.Registration
open Memory Core Threads Transition

structure Owner where
  directory : ObjectDirectory
  session : Session

inductive Phase where
  | idle
  /-- The handler's call of the sink is still to come. -/
  | addBorrower (object : ObjectId) (node : NodeId)
  | removeBorrower (object : ObjectId) (node : NodeId)
  | answered (result : Except Status Unit)

def Phase.finished : Phase → Bool
  | .idle | .answered _ => true
  | _ => false

def Phase.pending? : Phase → Option (ObjectId × NodeId)
  | .addBorrower object node | .removeBorrower object node => some (object, node)
  | _ => none

theorem Phase.finished_pending {phase : Phase} (finished : phase.finished = true) :
    phase.pending? = none := by
  cases phase <;> first | rfl | cases finished

inductive Act where
  | registerObject (objectId nodeId : Bytes)
  | waitForRefRemoved (objectId nodeId : Bytes)
  | sink
  | registerSelf (object : ObjectId)
  | deregisterSelf (object : ObjectId)

/-- The ids of a request, or the first complaint about them. -/
def parseIds (objectId nodeId : Bytes) : Except Status (ObjectId × NodeId) := do
  let object ← parseObjectId objectId
  let node ← parseNodeId nodeId
  return (object, node)

inductive Own (self : NodeId) (s : Owner) (phase : Phase) : Act → Owner → Phase → Prop where
  | registerObject : phase.finished = true → parseIds objectId nodeId = .ok (object, node) →
      Own self s phase (.registerObject objectId nodeId)
        { s with directory := s.directory.register object node } (.addBorrower object node)
  | registerRefused : phase.finished = true → parseIds objectId nodeId = .error status →
      Own self s phase (.registerObject objectId nodeId) s (.answered (.error status))
  | waitForRefRemoved : phase.finished = true → parseIds objectId nodeId = .ok (object, node) →
      Own self s phase (.waitForRefRemoved objectId nodeId)
        { s with directory := s.directory.remove object node } (.removeBorrower object node)
  | waitRefused : phase.finished = true → parseIds objectId nodeId = .error status →
      Own self s phase (.waitForRefRemoved objectId nodeId) s (.answered (.error status))
  | addBorrower : phase = .addBorrower object node →
      Own self s phase .sink { s with session := s.session.addBorrowerPin object node } (.answered (.ok ()))
  | removeBorrower : phase = .removeBorrower object node →
      Own self s phase .sink { s with session := s.session.removeBorrowerPin object node } (.answered (.ok ()))
  | registerSelf : phase.finished = true →
      Own self s phase (.registerSelf object) { s with directory := s.directory.register object self } .idle
  | deregisterSelf : phase.finished = true →
      Own self s phase (.deregisterSelf object) { s with directory := s.directory.remove object self } .idle

/-- A handler between its two steps holds back the opposite request about the same
object and node. -/
def Lets (_ : Owner) (other _ : Phase) : Act → Prop
  | .registerObject objectId nodeId =>
    ∀ object node, parseIds objectId nodeId = .ok (object, node) → other ≠ .removeBorrower object node
  | .waitForRefRemoved objectId nodeId =>
    ∀ object node, parseIds objectId nodeId = .ok (object, node) → other ≠ .addBorrower object node
  | _ => True

section Agreement
variable (self : NodeId)

/-- A table of node sets as one flag for every object and node, the owner's own
node left out. -/
def mark (nodes : ObjectId → Finset NodeId) (key : ObjectId × NodeId) : Bool :=
  decide (key.2 ∈ nodes key.1) && decide (key.2 ≠ self)

/-- One flag is set; the owner's own cannot be seen. -/
def markAt (flags : ObjectId × NodeId → Bool) (object : ObjectId) (node : NodeId) (flag : Bool) :
    ObjectId × NodeId → Bool :=
  if node = self then flags else Function.update flags (object, node) flag

theorem mark_eq_markAt {before after : ObjectId → Finset NodeId} (object : ObjectId) (node : NodeId) (flag : Bool)
    (others : ∀ other, other ≠ object → after other = before other)
    (here : ∀ holder, holder ∈ after object ↔ if holder = node then flag = true else holder ∈ before object) :
    mark self after = markAt self (mark self before) object node flag := by
  funext ⟨other, holder⟩
  by_cases own : node = self
  · simp only [markAt, if_pos own, mark]
    by_cases same : other = object
    · by_cases owner : holder = self
      · simp [owner]
      · have different : holder ≠ node := fun same => owner (same.trans own)
        simp only [same, here holder, if_neg different]
    · rw [others other same]
  · simp only [markAt, if_neg own, mark, Function.update_apply, Prod.mk.injEq]
    by_cases same : other = object
    · by_cases target : holder = node
      · subst target
        simp [same, here holder, own]
      · simp only [same, here holder, target, if_false, and_false]
    · simp only [others other same, same, false_and, if_false]

theorem mark_insert {before after : ObjectId → Finset NodeId} (object : ObjectId) (node : NodeId)
    (inserted : ∀ other, after other = if other = object then insert node (before object) else before other) :
    mark self after = markAt self (mark self before) object node true := by
  refine mark_eq_markAt self object node true (fun other different => ?_) fun holder => ?_
  · rw [inserted, if_neg different]
  · rw [inserted, if_pos rfl, Finset.mem_insert]
    by_cases same : holder = node <;> simp [same]

theorem mark_erase {before after : ObjectId → Finset NodeId} (object : ObjectId) (node : NodeId)
    (erased : ∀ other, after other = if other = object then (before object).erase node else before other) :
    mark self after = markAt self (mark self before) object node false := by
  refine mark_eq_markAt self object node false (fun other different => ?_) fun holder => ?_
  · rw [erased, if_neg different]
  · rw [erased, if_pos rfl, Finset.mem_erase]
    by_cases same : holder = node <;> simp [same]

def owed : Phase → List ((ObjectId × NodeId) × Bool)
  | .addBorrower object node => if node = self then [] else [((object, node), true)]
  | .removeBorrower object node => if node = self then [] else [((object, node), false)]
  | _ => []

theorem owed_finished {phase : Phase} (finished : phase.finished = true) : owed self phase = [] := by
  cases phase <;> first | rfl | cases finished

/-- The directory and the borrower sets as the two tables. -/
abbrev Seen (s : Owner) (phase : Phase) (t : Owner) (next : Phase) : Prop :=
  Deferred.Effect (fun s : Owner => mark self s.directory.locations)
    (fun s : Owner => mark self s.session.borrowers) (owed self) s phase t next

theorem directory_step {s : Owner} {directory : ObjectDirectory} {phase next : Phase}
    (finished : phase.finished = true)
    (pending : owed self next = if node = self then [] else [((object, node), flag)])
    (written : mark self directory.locations = markAt self (mark self s.directory.locations) object node flag) :
    Seen self s phase { s with directory } next := by
  refine .record (owed_finished self finished) rfl ?_ ?_
  · intro key unwritten
    simp only [written, markAt]
    split
    · rfl
    · rename_i other
      rw [pending, if_neg other, List.map_singleton, List.mem_singleton] at unwritten
      exact Function.update_of_ne unwritten _ _
  · intro w member
    rw [pending] at member
    split at member
    · cases member
    · rename_i other
      cases List.mem_singleton.mp member
      simp only [written, markAt, if_neg other, Function.update_self]

theorem sink_step {s : Owner} {session : Session} {phase next : Phase} (finished : next.finished = true)
    (pending : owed self phase = if node = self then [] else [((object, node), flag)])
    (written : mark self session.borrowers = markAt self (mark self s.session.borrowers) object node flag) :
    Seen self s phase { s with session } next := by
  by_cases own : node = self
  · rw [if_pos own] at pending
    rw [markAt, if_pos own] at written
    exact .quiet rfl written ((owed_finished self finished).trans pending.symm)
  · rw [if_neg own] at pending
    rw [markAt, if_neg own] at written
    exact .deliver rfl (pending.trans (by rw [owed_finished self finished])) written

theorem self_step {s : Owner} {directory : ObjectDirectory} {phase : Phase} (finished : phase.finished = true)
    (written : mark self directory.locations = markAt self (mark self s.directory.locations) object self flag) :
    Seen self s phase { s with directory } .idle :=
  .quiet (written.trans (if_pos rfl)) rfl (owed_finished self finished).symm

def directoryView : Deferred.View (Own self) (ObjectId × NodeId) Bool where
  sound _ := True
  preserved _ _ := trivial
  first s := mark self s.directory.locations
  second s := mark self s.session.borrowers
  owed := owed self
  writes _ _ act w := match act with
    | .registerObject objectId nodeId => parseIds objectId nodeId = .ok w.1 ∧ w.2 = true
    | .waitForRefRemoved objectId nodeId => parseIds objectId nodeId = .ok w.1 ∧ w.2 = false
    | _ => False
  effect {s phase act t next} own _ := by
    cases own with
    | registerObject finished _ =>
      exact directory_step self finished rfl (mark_insert self _ _ (s.directory.locations_register _ · _))
    | waitForRefRemoved finished _ =>
      exact directory_step self finished rfl (mark_erase self _ _ (s.directory.locations_remove _ · _))
    | addBorrower same =>
      exact sink_step self rfl (same ▸ rfl) (mark_insert self _ _ (s.session.borrowers_addBorrowerPin _ · _))
    | removeBorrower same =>
      exact sink_step self rfl (same ▸ rfl) (mark_erase self _ _ (s.session.borrowers_removeBorrowerPin _ · _))
    | registerSelf finished =>
      exact self_step self finished (mark_insert self _ _ (s.directory.locations_register _ · _))
    | deregisterSelf finished =>
      exact self_step self finished (mark_erase self _ _ (s.directory.locations_remove _ · _))
    | registerRefused finished _ => exact .quiet rfl rfl (owed_finished self finished).symm
    | waitRefused finished _ => exact .quiet rfl rfl (owed_finished self finished).symm
  announced {s phase act t next} own _ := by
    intro w member
    cases own with
    | registerObject _ parsed =>
      simp only [owed] at member
      split at member
      · cases member
      · cases List.mem_singleton.mp member
        exact .inr ⟨parsed, rfl⟩
    | waitForRefRemoved _ parsed =>
      simp only [owed] at member
      split at member
      · cases member
      · cases List.mem_singleton.mp member
        exact .inr ⟨parsed, rfl⟩
    | _ => cases member

theorem phase_of_owed {phase : Phase} {w : (ObjectId × NodeId) × Bool} (member : w ∈ owed self phase) :
    phase = if w.2 then .addBorrower w.1.1 w.1.2 else .removeBorrower w.1.1 w.1.2 := by
  cases phase with
  | addBorrower object node | removeBorrower object node =>
    simp only [owed] at member
    split at member
    · cases member
    · cases List.mem_singleton.mp member
      rfl
  | _ => cases member

theorem pending_of_owes {phase : Phase} {key : ObjectId × NodeId}
    (owes : (directoryView self).Owes phase key) : phase.pending? = some key := by
  obtain ⟨w, member, rfl⟩ := List.mem_map.mp owes
  rw [phase_of_owed self member]
  split <;> rfl

theorem lets_view {s : Owner} {other phase : Phase} {act : Act} (lets : Lets s other phase act) :
    (directoryView self).Lets s other phase act := by
  rintro ⟨⟨object, node⟩, flag⟩ writes ⟨key, owes⟩ member rfl
  have busy := phase_of_owed self member
  cases act with
  | registerObject =>
    obtain ⟨parsed, rfl⟩ := writes
    cases owes with
    | true => rfl
    | false => exact absurd busy (lets object node parsed)
  | waitForRefRemoved =>
    obtain ⟨parsed, rfl⟩ := writes
    cases owes with
    | true => exact absurd busy (lets object node parsed)
    | false => rfl
  | _ => exact writes.elim

end Agreement

/-- Where a registration and a removal for one object and node do not overlap, the
directory and the borrower sets agree as soon as every handler has returned. -/
theorem unopposed_directory_agrees {self : NodeId} {start : Owner} {object : ObjectId} {node : NodeId}
    (agree : ∀ object node, node ≠ self →
      (node ∈ start.directory.locations object ↔ node ∈ start.session.borrowers object))
    (run : Run (Guarded (Unopposed Lets) (Step (Own self))) ⟨start, fun _ => .idle⟩ path pool)
    (returned : ∀ thread, (pool.threads thread).finished = true) (other : node ≠ self) :
    node ∈ pool.shared.directory.locations object ↔ node ∈ pool.shared.session.borrowers object := by
  have run : Run (Guarded (Unopposed (directoryView self).Lets) (Step (Own self))) _ path pool :=
    run.mono fun step => ⟨fun thread different => lets_view self (step.1 thread different), step.2⟩
  have initial : ∀ key : ObjectId × NodeId,
      mark self start.directory.locations key = mark self start.session.borrowers key := by
    rintro ⟨object, node⟩
    by_cases own : node = self
    · simp [mark, own]
    · simp only [mark, agree object node own]
  rcases (directoryView self).settled_run run trivial initial (fun _ => rfl) (object, node) with
    same | ⟨thread, owes⟩
  · simpa [directoryView, mark, other] using same
  · cases (Phase.finished_pending (returned thread)).symm.trans (pending_of_owes self owes)

section Samples

def sampleSelf : NodeId := ⟨List.replicate 16 1, List.length_replicate⟩
def sampleOwner : Owner := ⟨.empty, ⟨.start .newest (.nil 16) none (2 ^ 64 - 1), ⟨.onePage, ∅⟩⟩⟩
def registration : Act := .registerObject (Id.nil 28).bytes (Id.nil 16).bytes
def removal : Act := .waitForRefRemoved (Id.nil 28).bytes (Id.nil 16).bytes

/-- One replica is registered. -/
theorem registered_node_agrees :
    ∃ path pool, Run (Guarded (Unopposed Lets) (Step (Own sampleSelf))) ⟨sampleOwner, fun _ => .idle⟩
        path pool ∧
      Id.nil 16 ∈ pool.shared.directory.locations (.nil 28) ∧
      Id.nil 16 ∈ pool.shared.session.borrowers (.nil 28) := by
  have run : Run (Guarded (Unopposed Lets) (Step (Own sampleSelf))) ⟨sampleOwner, fun _ => .idle⟩ [] _ := .refl
  have only : Pool.Only (⟨sampleOwner, fun _ => .idle⟩ : Pool Owner Phase) .idle := fun _ _ => rfl
  obtain ⟨run, only⟩ := only.next run (a := registration) (fun _ _ _ _ _ busy => (by cases busy))
    (.registerObject rfl rfl)
  obtain ⟨run, only⟩ := only.next run (a := Act.sink) (fun _ _ => trivial) (.addBorrower rfl)
  have listed : Id.nil 16 ∈ (sampleOwner.directory.register (.nil 28) (.nil 16)).locations (.nil 28) := by
    decide
  refine ⟨_, _, run, listed, (unopposed_directory_agrees ?_ run ?_ ?_).mp listed⟩
  · intro object node _
    exact iff_of_false (Finset.notMem_empty _) (Finset.notMem_empty _)
  · exact only.all (f := (·.finished = true)) rfl rfl
  · decide

/-- A removal runs between the two steps of a registration of the same node: the
node stays pinned as a borrower and is not in the directory. -/
theorem removal_inside_registration :
    ∃ path pool, Run (Step (Own sampleSelf)) ⟨sampleOwner, fun _ => .idle⟩ path pool ∧
      (∀ thread, (pool.threads thread).finished = true) ∧ Id.nil 16 ≠ sampleSelf ∧
      Id.nil 16 ∉ pool.shared.directory.locations (.nil 28) ∧
      Id.nil 16 ∈ pool.shared.session.borrowers (.nil 28) := by
  have run : Run (Step (Own sampleSelf)) ⟨sampleOwner, fun _ => .idle⟩ [] _ := .refl
  have run := run.next (a := (0, registration)) (.act (.registerObject rfl rfl))
  have run := run.next (a := (1, removal)) (.act (.waitForRefRemoved rfl rfl))
  have run := run.next (a := (1, Act.sink)) (.act (.removeBorrower rfl))
  have run := run.next (a := (0, Act.sink)) (.act (.addBorrower rfl))
  refine ⟨_, _, run, fun thread => ?_, by decide, by decide, by decide⟩
  by_cases first : thread = 0
  · subst first
    rfl
  · by_cases second : thread = 1
    · subst second
      rfl
    · rw [Pool.set_ne _ first, Pool.set_ne _ second, Pool.set_ne _ second, Pool.set_ne _ first]
      rfl

end Samples

end Rayd.Raylet.Registration
