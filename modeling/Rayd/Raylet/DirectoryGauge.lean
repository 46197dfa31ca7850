import Rayd.Raylet.Directory
import Mathlib.Data.Set.Card

/-! The gauge of the object directory, with the operations on the directory run one at a
time. Four entry points change it: two requests, and two calls for the raylet's own node.
Only `RegisterObject` sets the gauge. The owner sink touches neither, save that a removed
borrower may have been the last pin: freeing the object then takes the raylet's own node
out of the directory as well, before the request is answered. -/
namespace Rayd.Raylet
open Memory

section Counting
variable {A : Type} {s t : Set A} {x : A}

theorem ncard_of_added (finite : s.Finite) (absent : x ∉ s) (present : x ∈ t)
    (same : ∀ y, y ≠ x → (y ∈ t ↔ y ∈ s)) : t.ncard = s.ncard + 1 := by
  have whole : t = insert x s := by
    ext y
    rw [Set.mem_insert_iff]
    by_cases here : y = x
    · exact iff_of_true (here ▸ present) (.inl here)
    · exact (same y here).trans (or_iff_right here).symm
  rw [whole, Set.ncard_insert_of_notMem absent finite]

/-- Sets that differ at most at one point. -/
theorem ncard_eq_iff_of_elsewhere (finite : s.Finite) (finite' : t.Finite)
    (same : ∀ y, y ≠ x → (y ∈ t ↔ y ∈ s)) : t.ncard = s.ncard ↔ (x ∈ t ↔ x ∈ s) := by
  by_cases agree : x ∈ t ↔ x ∈ s
  · have whole : t = s := by
      ext y
      by_cases here : y = x
      · exact here ▸ agree
      · exact same y here
    exact iff_of_true (congrArg Set.ncard whole) agree
  · refine iff_of_false (fun equal => ?_) agree
    by_cases present : x ∈ t
    · have absent : x ∉ s := fun before => agree (iff_of_true present before)
      have more := ncard_of_added finite absent present same
      omega
    · have before : x ∈ s := by_contra fun absent => agree (iff_of_false present absent)
      have more := ncard_of_added finite' present before fun y different => (same y different).symm
      omega

end Counting

namespace ObjectDirectory
variable {directory after : ObjectDirectory} {object : ObjectId}

/-- The objects that somebody holds. -/
def listed (directory : ObjectDirectory) : Set ObjectId := {object | (directory.locations object).Nonempty}

theorem mem_listed : object ∈ directory.listed ↔ (directory.locations object).Nonempty := Iff.rfl

def NoEmpty (directory : ObjectDirectory) : Prop :=
  ∀ object holders, directory.inner.lookup object = some holders → holders.Nonempty

theorem noEmpty_empty : empty.NoEmpty := by
  intro object holders found
  cases found

theorem NoEmpty.register (noEmpty : directory.NoEmpty) (object : ObjectId) (node : NodeId) :
    (directory.register object node).NoEmpty := by
  intro other holders found
  rw [ObjectDirectory.register, FiniteMap.lookup_insert] at found
  split_ifs at found
  · cases found
    exact Finset.insert_nonempty _ _
  · exact noEmpty other holders found

theorem NoEmpty.remove (noEmpty : directory.NoEmpty) (object : ObjectId) (node : NodeId) :
    (directory.remove object node).NoEmpty := by
  intro other holders found
  cases before : directory.inner.lookup object with
  | none =>
    simp only [ObjectDirectory.remove, before] at found
    exact noEmpty other holders found
  | some old =>
    simp only [ObjectDirectory.remove, before] at found
    split_ifs at found with last
    · rw [FiniteMap.lookup_erase] at found
      split_ifs at found
      exact noEmpty other holders found
    · rw [FiniteMap.lookup_insert] at found
      split_ifs at found
      · cases found
        exact Finset.nonempty_iff_ne_empty.mpr last
      · exact noEmpty other holders found

theorem listed_subset (directory : ObjectDirectory) : directory.listed ⊆ directory.inner.keys.toFinset := by
  intro object holds
  rw [Finset.mem_coe, List.mem_toFinset, FiniteMap.mem_keys_iff]
  cases found : directory.inner.lookup object with
  | some holders => exact ⟨holders, rfl⟩
  | none =>
    have none : directory.locations object = ∅ := by rw [locations, found, Option.getD_none]
    rw [mem_listed, none] at holds
    exact absurd holds Finset.not_nonempty_empty

theorem listed_finite (directory : ObjectDirectory) : directory.listed.Finite :=
  (Finset.finite_toSet _).subset directory.listed_subset

/-- With no empty entries, `len` is the number of objects that somebody holds. -/
theorem NoEmpty.ncard_listed (noEmpty : directory.NoEmpty) : directory.listed.ncard = directory.len := by
  have same : directory.listed = directory.inner.keys.toFinset := by
    refine directory.listed_subset.antisymm fun object member => ?_
    rw [Finset.mem_coe, List.mem_toFinset, FiniteMap.mem_keys_iff] at member
    obtain ⟨holders, found⟩ := member
    rw [mem_listed, locations, found]
    exact noEmpty object holders found
  rw [same, Set.ncard_coe_finset, List.toFinset_card_of_nodup (AList.keys_nodup _), len]

/-- A change at one object leaves the number exactly if the object stays listed or unlisted. -/
theorem ncard_listed_eq_iff
    (others : ∀ other, other ≠ object → after.locations other = directory.locations other) :
    after.listed.ncard = directory.listed.ncard ↔ (object ∈ after.listed ↔ object ∈ directory.listed) := by
  refine ncard_eq_iff_of_elsewhere directory.listed_finite after.listed_finite fun other different => ?_
  rw [mem_listed, others other different, mem_listed]

end ObjectDirectory

namespace Metered
open Registration Threads Transition

structure Metrics where
  registerObjectTotal : Nat
  directoryEntries : Int
  deriving DecidableEq

/-- `i64::try_from` with the largest value in place of an error. -/
def Metrics.registered (metrics : Metrics) (entries : Nat) : Metrics where
  registerObjectTotal := metrics.registerObjectTotal + 1
  directoryEntries := if entries < 2 ^ 63 then entries else 2 ^ 63 - 1

structure Service where
  nodeId : NodeId
  directory : ObjectDirectory
  metrics : Option Metrics

namespace Service

def start (nodeId : NodeId) : Service := ⟨nodeId, .empty, some ⟨0, 0⟩⟩

def registerObject (s : Service) (objectId nodeId : Bytes) : Except Status Unit × Service :=
  match parseIds objectId nodeId with
  | .error status => (.error status, s)
  | .ok (object, node) =>
    let directory := s.directory.register object node
    (.ok (), { s with directory, metrics := s.metrics.map (·.registered directory.len) })

/-- The object may be freed with this borrower. -/
def waitForRefRemoved (s : Service) (objectId nodeId : Bytes) (freed : Bool) : Except Status Unit × Service :=
  match parseIds objectId nodeId with
  | .error status => (.error status, s)
  | .ok (object, node) =>
    let directory := s.directory.remove object node
    (.ok (), { s with directory := if freed then directory.remove object s.nodeId else directory })

def registerSelf (s : Service) (object : ObjectId) : Service :=
  { s with directory := s.directory.register object s.nodeId }

def deregisterSelf (s : Service) (object : ObjectId) : Service :=
  { s with directory := s.directory.remove object s.nodeId }

end Service

inductive Operation where
  | registerObject (objectId nodeId : Bytes)
  | waitForRefRemoved (objectId nodeId : Bytes) (freed : Bool)
  | registerSelf (object : ObjectId)
  | deregisterSelf (object : ObjectId)

namespace Service
variable {s t : Service} {object : ObjectId}

def apply (s : Service) : Operation → Service
  | .registerObject objectId nodeId => (s.registerObject objectId nodeId).2
  | .waitForRefRemoved objectId nodeId freed => (s.waitForRefRemoved objectId nodeId freed).2
  | .registerSelf object => s.registerSelf object
  | .deregisterSelf object => s.deregisterSelf object

def run (s : Service) (operations : List Operation) : Service := operations.foldl apply s

/-- The gauge shows the number of objects that somebody holds. -/
def Accurate (s : Service) : Prop :=
  s.metrics.map Metrics.directoryEntries = some (s.directory.listed.ncard : Int)

/-- Nobody holds the object, or one that keeps it does. -/
def Stays (s : Service) (object : ObjectId) (keeps : NodeId → Prop) : Prop :=
  s.directory.locations object = ∅ ∨ ∃ holder ∈ s.directory.locations object, keeps holder

/-- The operation sets the gauge or leaves the number of objects. -/
def Counts (s : Service) : Operation → Prop
  | .registerObject objectId nodeId => ∀ object node, parseIds objectId nodeId = .ok (object, node) →
      (s.directory.register object node).len < 2 ^ 63
  | .waitForRefRemoved objectId nodeId freed => ∀ object node, parseIds objectId nodeId = .ok (object, node) →
      s.Stays object fun holder => holder ≠ node ∧ (freed = true → holder ≠ s.nodeId)
  | .registerSelf object => s.directory.locations object ≠ ∅
  | .deregisterSelf object => s.Stays object (· ≠ s.nodeId)

theorem noEmpty_apply (s : Service) (operation : Operation) (noEmpty : s.directory.NoEmpty) :
    (s.apply operation).directory.NoEmpty := by
  cases operation with
  | registerObject objectId nodeId =>
    simp only [apply, registerObject]
    split
    · exact noEmpty
    · exact noEmpty.register _ _
  | waitForRefRemoved objectId nodeId freed =>
    simp only [apply, waitForRefRemoved]
    split
    · exact noEmpty
    · cases freed with
      | false => exact noEmpty.remove _ _
      | true => exact (noEmpty.remove _ _).remove _ _
  | registerSelf object => exact noEmpty.register _ _
  | deregisterSelf object => exact noEmpty.remove _ _

theorem Accurate.iff_ncard (accurate : s.Accurate) (metrics : t.metrics = s.metrics) :
    t.Accurate ↔ t.directory.listed.ncard = s.directory.listed.ncard := by
  rw [Accurate, metrics, accurate, Option.some.injEq, Nat.cast_inj, eq_comm]

theorem Accurate.removed_iff {keeps : NodeId → Prop} (accurate : s.Accurate) (metrics : t.metrics = s.metrics)
    (others : ∀ other, other ≠ object → t.directory.locations other = s.directory.locations other)
    (here : ∀ holder, holder ∈ t.directory.locations object ↔
      holder ∈ s.directory.locations object ∧ keeps holder) :
    t.Accurate ↔ s.Stays object keeps := by
  rw [accurate.iff_ncard metrics, ObjectDirectory.ncard_listed_eq_iff others, ObjectDirectory.mem_listed,
    ObjectDirectory.mem_listed, Stays]
  constructor
  · intro same
    rcases Finset.eq_empty_or_nonempty (s.directory.locations object) with none | held
    · exact .inl none
    · obtain ⟨holder, member⟩ := same.mpr held
      exact .inr ⟨holder, (here holder).mp member⟩
  · rintro (none | ⟨holder, member, kept⟩)
    · refine iff_of_false ?_ (none ▸ Finset.not_nonempty_empty)
      rintro ⟨holder, member⟩
      rw [here, none] at member
      exact Finset.notMem_empty holder member.1
    · exact iff_of_true ⟨holder, (here holder).mpr ⟨member, kept⟩⟩ ⟨holder, member⟩

theorem Accurate.registered_iff (accurate : s.Accurate) (noEmpty : t.directory.NoEmpty)
    (metrics : t.metrics = s.metrics.map (·.registered t.directory.len)) :
    t.Accurate ↔ t.directory.len < 2 ^ 63 := by
  obtain ⟨before, found, _⟩ := Option.map_eq_some_iff.mp accurate
  rw [Accurate, metrics, found, noEmpty.ncard_listed]
  simp only [Option.map_some, Metrics.registered, Option.some.injEq]
  split
  · exact iff_of_true rfl (by assumption)
  · omega

theorem forall_parsed_iff {node : NodeId} {holds : ObjectId → NodeId → Prop} :
    (∀ other holder, (.ok (object, node) : Except Status _) = .ok (other, holder) → holds other holder) ↔
      holds object node := by
  refine ⟨fun all => all object node rfl, ?_⟩
  rintro here other holder ⟨⟩
  exact here

theorem Accurate.registerObject_iff (accurate : s.Accurate) (noEmpty : s.directory.NoEmpty)
    (objectId nodeId : Bytes) :
    (s.registerObject objectId nodeId).2.Accurate ↔ s.Counts (.registerObject objectId nodeId) := by
  simp only [registerObject, Counts]
  cases parseIds objectId nodeId with
  | error status => exact iff_of_true accurate fun _ _ refused => by cases refused
  | ok key =>
    rw [forall_parsed_iff]
    exact accurate.registered_iff (noEmpty.register key.1 key.2) rfl

theorem Accurate.waitForRefRemoved_iff (accurate : s.Accurate) (objectId nodeId : Bytes) (freed : Bool) :
    (s.waitForRefRemoved objectId nodeId freed).2.Accurate ↔
      s.Counts (.waitForRefRemoved objectId nodeId freed) := by
  simp only [waitForRefRemoved, Counts]
  cases parseIds objectId nodeId with
  | error status => exact iff_of_true accurate fun _ _ refused => by cases refused
  | ok key =>
    rw [forall_parsed_iff]
    refine accurate.removed_iff rfl (fun other different => ?_) fun holder => ?_
    · cases freed <;> simp [ObjectDirectory.locations_remove, different]
    · cases freed with
      | false => simp [ObjectDirectory.locations_remove, and_comm]
      | true => simp [ObjectDirectory.locations_remove, and_comm, and_assoc]

theorem Accurate.registerSelf_iff (accurate : s.Accurate) (object : ObjectId) :
    (s.registerSelf object).Accurate ↔ s.directory.locations object ≠ ∅ := by
  have others (other : ObjectId) (different : other ≠ object) :
      (s.registerSelf object).directory.locations other = s.directory.locations other := by
    rw [registerSelf, ObjectDirectory.locations_register, if_neg different]
  have present : object ∈ (s.registerSelf object).directory.listed := by
    rw [ObjectDirectory.mem_listed, registerSelf, ObjectDirectory.locations_register, if_pos rfl]
    exact Finset.insert_nonempty _ _
  have unset : (s.registerSelf object).metrics = s.metrics := rfl
  rw [accurate.iff_ncard unset, ObjectDirectory.ncard_listed_eq_iff others, iff_true_left present,
    ObjectDirectory.mem_listed, Finset.nonempty_iff_ne_empty]

theorem Accurate.deregisterSelf_iff (accurate : s.Accurate) (object : ObjectId) :
    (s.deregisterSelf object).Accurate ↔ s.Stays object (· ≠ s.nodeId) := by
  refine accurate.removed_iff rfl (fun other different => ?_) fun holder => ?_
  · rw [deregisterSelf, ObjectDirectory.locations_remove, if_neg different]
  · rw [deregisterSelf, ObjectDirectory.locations_remove, if_pos rfl, Finset.mem_erase, and_comm]

theorem Accurate.apply_iff (accurate : s.Accurate) (noEmpty : s.directory.NoEmpty) (operation : Operation) :
    (s.apply operation).Accurate ↔ s.Counts operation := by
  cases operation with
  | registerObject objectId nodeId => exact accurate.registerObject_iff noEmpty objectId nodeId
  | waitForRefRemoved objectId nodeId freed => exact accurate.waitForRefRemoved_iff objectId nodeId freed
  | registerSelf object => exact accurate.registerSelf_iff object
  | deregisterSelf object => exact accurate.deregisterSelf_iff object

theorem noEmpty_run (noEmpty : s.directory.NoEmpty) (operations : List Operation) :
    (s.run operations).directory.NoEmpty :=
  List.foldlRecOn operations apply noEmpty fun s noEmpty operation _ => s.noEmpty_apply operation noEmpty

theorem accurate_start (nodeId : NodeId) : (start nodeId).Accurate := by
  have none : (start nodeId).directory.listed.ncard = 0 := ObjectDirectory.noEmpty_empty.ncard_listed
  rw [Accurate, none]
  rfl

end Service

/-- `len` always counts the objects that somebody holds. The gauge shows that number after
every operation exactly if no operation but `RegisterObject` changes it, and it fits 63 bits. -/
theorem gauge_accurate_iff (nodeId : NodeId) (operations : List Operation) :
    (∀ earlier, earlier <+: operations →
      ((Service.start nodeId).run earlier).directory.listed.ncard =
        ((Service.start nodeId).run earlier).directory.len) ∧
    ((∀ earlier, earlier <+: operations → ((Service.start nodeId).run earlier).Accurate) ↔
      ∀ before operation after, operations = before ++ operation :: after →
        ((Service.start nodeId).run before).Counts operation) := by
  have empty : (Service.start nodeId).directory.NoEmpty := ObjectDirectory.noEmpty_empty
  refine ⟨fun earlier _ => (Service.noEmpty_run empty earlier).ncard_listed, ?_⟩
  exact foldl_along_iff (I := fun s => s.directory.NoEmpty) Service.noEmpty_apply
    (fun s operation noEmpty accurate => accurate.apply_iff noEmpty operation) operations empty
    (Service.accurate_start nodeId)

section Samples

def ownReplica : List Operation := [.registerSelf (.nil 28)]

def lastHolderGone : List Operation :=
  [.registerObject (Id.nil 28).bytes (Id.nil 16).bytes,
    .waitForRefRemoved (Id.nil 28).bytes (Id.nil 16).bytes false]

/-- The raylet's own replica does not show, and a holder that has gone still does. -/
theorem stale_gauge :
    ((Service.start sampleSelf).run ownReplica).metrics = some ⟨0, 0⟩ ∧
    ((Service.start sampleSelf).run ownReplica).directory.listed.ncard = 1 ∧
    ((Service.start sampleSelf).run lastHolderGone).metrics = some ⟨1, 1⟩ ∧
    ((Service.start sampleSelf).run lastHolderGone).directory.listed.ncard = 0 := by
  have counted (operations : List Operation) :
      ((Service.start sampleSelf).run operations).directory.listed.ncard =
        ((Service.start sampleSelf).run operations).directory.len :=
    (Service.noEmpty_run ObjectDirectory.noEmpty_empty operations).ncard_listed
  rw [counted, counted]
  decide

end Samples

end Metered
end Rayd.Raylet
