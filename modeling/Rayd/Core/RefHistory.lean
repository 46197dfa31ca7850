import Rayd.Core.RefCounter

/-! Histories of one reference counter: any calls in any order over any ids. An id
may come and go; every call that finds it absent and adds it starts an incarnation.
Counts are unbounded here, so none wraps. The entry an id is left with is what its
own calls make of its pins, one after another. -/
namespace Rayd.Core

/-- What is stored of an id's pins: nothing once the last has gone. -/
def OwnerEntry.stored (pins : OwnerEntry) : Option OwnerEntry :=
  if pins.isUnpinned then none else some pins

@[simp] theorem OwnerEntry.getD_stored (pins : OwnerEntry) : pins.stored.getD .default = pins := by
  simp only [stored]
  split
  · rename_i unpinned
    exact ((isUnpinned_iff pins).mp unpinned).symm
  · rfl

theorem OwnerEntry.stored_of_ne {pins : OwnerEntry} (pinned : pins ≠ .default) : pins.stored = some pins :=
  if_neg fun unpinned => pinned ((isUnpinned_iff pins).mp unpinned)

inductive RefCall where
  | addOwned (id : ObjectId)
  | incLocal (id : ObjectId)
  | decLocal (id : ObjectId)
  | addBorrower (id : ObjectId) (worker : WorkerId)
  | removeBorrower (id : ObjectId) (worker : WorkerId)
  | addSubmitDep (id : ObjectId)
  | completeSubmitDep (id : ObjectId)
  | drainIds

inductive RefReply where
  | done
  | count (localCount : Nat)
  | borrowed (isNew : Bool)
  | unpinned (free : Bool)
  | drained (ids : List ObjectId)

namespace RefCall

/-- The id a call is about; a drain is about all of them. -/
def object? : RefCall → Option ObjectId
  | .addOwned id | .incLocal id | .decLocal id | .addBorrower id _ | .removeBorrower id _
  | .addSubmitDep id | .completeSubmitDep id => some id
  | .drainIds => none

def adds (id : ObjectId) : RefCall → Bool
  | .addOwned object | .addBorrower object _ | .addSubmitDep object => decide (object = id)
  | _ => false

/-- The one pin a releasing call takes away. -/
def pin? : RefCall → Option OwnerEntry
  | .decLocal _ => some ⟨1, ∅, 0⟩
  | .removeBorrower _ worker => some ⟨0, {worker}, 0⟩
  | .completeSubmitDep _ => some ⟨0, ∅, 1⟩
  | _ => none

/-- What a call makes of the pins of an id it is about; `inc_local` passes over one that
has none. -/
def update : RefCall → OwnerEntry → OwnerEntry
  | .addOwned _, pins => { pins with localCount := pins.localCount + 1 }
  | .incLocal _, pins => if pins.isUnpinned then pins else { pins with localCount := pins.localCount + 1 }
  | .decLocal _, pins => { pins with localCount := pins.localCount - 1 }
  | .addBorrower _ worker, pins => { pins with borrowers := insert worker pins.borrowers }
  | .removeBorrower _ worker, pins => { pins with borrowers := pins.borrowers.erase worker }
  | .addSubmitDep _, pins => { pins with submitDepCount := pins.submitDepCount + 1 }
  | .completeSubmitDep _, pins => { pins with submitDepCount := pins.submitDepCount - 1 }
  | .drainIds, _ => .default

/-- The pins of one id along a history: a call about another id leaves them alone. -/
def pins (id : ObjectId) (calls : List RefCall) (before : OwnerEntry) : OwnerEntry :=
  (calls.filter fun call => call.object?.all (· = id)).foldl (fun pins call => call.update pins) before

end RefCall

namespace RefCounter

def call (refs : RefCounter) : RefCall → RefReply × RefCounter
  | .addOwned id => (.done, refs.addOwned id)
  | .incLocal id => (.count (refs.incLocal id).1, (refs.incLocal id).2)
  | .decLocal id => (.unpinned (refs.decLocal id).1, (refs.decLocal id).2)
  | .addBorrower id worker =>
    (.borrowed (decide (worker ∉ ((refs.snapshot id).getD .default).borrowers)), refs.addBorrower id worker)
  | .removeBorrower id worker =>
    (.unpinned (refs.removeBorrower id worker).1, (refs.removeBorrower id worker).2)
  | .addSubmitDep id => (.done, refs.addSubmitDep id)
  | .completeSubmitDep id => (.unpinned (refs.completeSubmitDep id).1, (refs.completeSubmitDep id).2)
  | .drainIds => (.drained refs.drainIds.1, refs.drainIds.2)

def after (refs : RefCounter) (calls : List RefCall) : RefCounter :=
  calls.foldl (fun refs call => (refs.call call).2) refs

/-- Sums over the calls of a history, each counted in the state it finds. -/
def tally (weight : RefCounter → RefCall → Nat) (refs : RefCounter) : List RefCall → Nat
  | [] => 0
  | call :: rest => weight refs call + tally weight (refs.call call).2 rest

def present (id : ObjectId) (refs : RefCounter) : Nat := (refs.snapshot id).isSome.toNat

/-- The call adds an id it finds absent. -/
def opens (id : ObjectId) (refs : RefCounter) (call : RefCall) : Nat :=
  (call.adds id && (refs.snapshot id).isNone).toNat

/-- The call tells its caller to free the id. -/
def frees (id : ObjectId) (refs : RefCounter) (call : RefCall) : Nat :=
  match (refs.call call).1 with
  | .unpinned true => (decide (call.object? = some id)).toNat
  | _ => 0

/-- The call is a drain that hands out the id. -/
def drains (id : ObjectId) (refs : RefCounter) (call : RefCall) : Nat :=
  match (refs.call call).1 with
  | .drained ids => (decide (id ∈ ids)).toNat
  | _ => 0

def Pinned (refs : RefCounter) : Prop :=
  ∀ id entry, refs.snapshot id = some entry → entry.isUnpinned = false

theorem isUnpinned_eq_false_iff (entry : OwnerEntry) : entry.isUnpinned = false ↔ entry ≠ .default := by
  rw [← Bool.not_eq_true, OwnerEntry.isUnpinned_iff]

theorem snapshot_incLocal (refs : RefCounter) (id other : ObjectId) :
    (refs.incLocal id).2.snapshot other =
      if other = id then (refs.snapshot id).map fun entry => { entry with localCount := entry.localCount + 1 }
      else refs.snapshot other := by
  cases found : refs.snapshot id with
  | none =>
    simp only [snapshot] at found
    simp only [incLocal, found]
    split
    · rename_i same
      rw [same, snapshot, found]
      rfl
    · rfl
  | some entry =>
    simp only [snapshot] at found
    simp only [incLocal, found, snapshot, FiniteMap.lookup_insert, Option.map_some]

theorem call_frame (refs : RefCounter) {call : RefCall} {id other : ObjectId}
    (about : call.object? = some id) (different : other ≠ id) :
    (refs.call call).2.snapshot other = refs.snapshot other := by
  cases call <;> cases about
  case addOwned => exact (refs.snapshot_pin id other _).trans (if_neg different)
  case incLocal => exact (refs.snapshot_incLocal id other).trans (if_neg different)
  case decLocal => exact (refs.snapshot_unpin id other _).trans (if_neg different)
  case addBorrower => exact (refs.snapshot_pin id other _).trans (if_neg different)
  case removeBorrower => exact (refs.snapshot_unpin id other _).trans (if_neg different)
  case addSubmitDep => exact (refs.snapshot_pin id other _).trans (if_neg different)
  case completeSubmitDep => exact (refs.snapshot_unpin id other _).trans (if_neg different)

section Stored
variable {refs : RefCounter} {id : ObjectId} {pins : OwnerEntry} {update : OwnerEntry → OwnerEntry}

theorem pin_stored (known : refs.snapshot id = pins.stored) (pinned : update pins ≠ .default) :
    (refs.pin id update).snapshot id = (update pins).stored := by
  rw [snapshot_pin, if_pos rfl, known, OwnerEntry.getD_stored, OwnerEntry.stored_of_ne pinned]

theorem unpin_stored (known : refs.snapshot id = pins.stored) (nothing : update .default = .default) :
    (refs.unpin id update).2.snapshot id = (update pins).stored := by
  rw [snapshot_unpin, if_pos rfl]
  by_cases unpinned : pins = .default
  · subst unpinned
    rw [nothing, known]
    exact ite_self none
  · rw [OwnerEntry.stored_of_ne unpinned] at known
    simp only [unpin_freed_iff, known, Option.map_some, Option.some.injEq]
    split
    · rename_i last
      rw [last]
      rfl
    · rename_i kept
      rw [OwnerEntry.stored_of_ne kept]

theorem incLocal_stored (known : refs.snapshot id = pins.stored) :
    (refs.incLocal id).2.snapshot id = (RefCall.update (.incLocal id) pins).stored := by
  rw [snapshot_incLocal, if_pos rfl, known, RefCall.update]
  by_cases unpinned : pins.isUnpinned = true
  · rw [if_pos unpinned, OwnerEntry.stored, if_pos unpinned, Option.map_none]
  · rw [if_neg unpinned, OwnerEntry.stored, if_neg unpinned, Option.map_some, OwnerEntry.stored_of_ne]
    exact fun default => by cases congrArg OwnerEntry.localCount default

theorem call_stored (known : refs.snapshot id = pins.stored) {call : RefCall} (about : call.object? = some id) :
    (refs.call call).2.snapshot id = (call.update pins).stored := by
  cases call <;> cases about
  case addOwned => exact pin_stored known fun default => by cases congrArg OwnerEntry.localCount default
  case incLocal => exact incLocal_stored known
  case decLocal => exact unpin_stored known rfl
  case addBorrower =>
    exact pin_stored known fun default => Finset.insert_ne_empty _ _ (congrArg OwnerEntry.borrowers default)
  case removeBorrower => exact unpin_stored known rfl
  case addSubmitDep => exact pin_stored known fun default => by cases congrArg OwnerEntry.submitDepCount default
  case completeSubmitDep => exact unpin_stored known rfl

theorem after_stored (known : refs.snapshot id = pins.stored) (calls : List RefCall) :
    (refs.after calls).snapshot id = (RefCall.pins id calls pins).stored := by
  induction calls generalizing refs pins with
  | nil => exact known
  | cons call rest ih =>
    simp only [after, RefCall.pins, List.foldl_cons, List.filter_cons] at ih ⊢
    cases about : call.object? with
    | none =>
      cases call <;> cases about
      exact ih rfl
    | some object =>
      by_cases same : object = id
      · subst same
        simpa using ih (call_stored known about)
      · simpa [same] using ih ((call_frame refs about (Ne.symm same)).trans known)

theorem Pinned.stored (pinned : refs.Pinned) (id : ObjectId) :
    refs.snapshot id = ((refs.snapshot id).getD .default).stored := by
  cases found : refs.snapshot id with
  | none => rfl
  | some entry => exact (OwnerEntry.stored_of_ne ((isUnpinned_eq_false_iff entry).mp (pinned id entry found))).symm

theorem pinned_of_stored (stored : ∀ id, ∃ pins : OwnerEntry, refs.snapshot id = pins.stored) :
    refs.Pinned := by
  intro id entry found
  obtain ⟨pins, known⟩ := stored id
  rw [known, OwnerEntry.stored] at found
  split at found
  · cases found
  · rename_i pinned
    rw [← Option.some.inj found]
    exact Bool.eq_false_iff.mpr pinned

theorem Pinned.call (pinned : refs.Pinned) (call : RefCall) : (refs.call call).2.Pinned :=
  pinned_of_stored fun id => ⟨_, after_stored (pinned.stored id) [call]⟩

end Stored

/-- What a call frees, drains and leaves there against what it opens and finds there. -/
def Balanced (id : ObjectId) (refs : RefCounter) (call : RefCall) : Prop :=
  frees id refs call + drains id refs call + present id (refs.call call).2 =
    opens id refs call + present id refs

theorem present_pin (refs : RefCounter) (id object : ObjectId) (update : OwnerEntry → OwnerEntry) :
    present id (refs.pin object update) =
      (decide (object = id) && (refs.snapshot id).isNone).toNat + present id refs := by
  simp only [present, snapshot_pin, eq_comm (a := id)]
  by_cases same : object = id
  · cases refs.snapshot id <;> simp [same]
  · simp [same]

theorem present_unpin (refs : RefCounter) (id object : ObjectId) (update : OwnerEntry → OwnerEntry) :
    ((refs.unpin object update).1 && decide (object = id)).toNat + present id (refs.unpin object update).2 =
      present id refs := by
  by_cases same : object = id
  · subst same
    simp only [present, snapshot_unpin, if_true]
    cases raised : (refs.unpin object update).1 with
    | false => simp
    | true =>
      have known := (refs.unpin_freed_iff object update).mp raised
      obtain ⟨entry, found, _⟩ := Option.map_eq_some_iff.mp known
      simp [found]
  · simp [present, snapshot_unpin, Ne.symm same, same]

theorem balanced_unpin {refs : RefCounter} {call : RefCall} {id object : ObjectId}
    {update : OwnerEntry → OwnerEntry}
    (answered : refs.call call = (.unpinned (refs.unpin object update).1, (refs.unpin object update).2))
    (about : call.object? = some object) (adds : call.adds id = false) : Balanced id refs call := by
  have closed := refs.present_unpin id object update
  have freed : frees id refs call = ((refs.unpin object update).1 && decide (object = id)).toNat := by
    simp only [frees, answered, about, Option.some.injEq]
    cases (refs.unpin object update).1 <;> simp
  simp only [Balanced, freed, drains, opens, answered, adds, Bool.false_and, Bool.toNat_false]
  omega

theorem balanced_call (refs : RefCounter) (id : ObjectId) (call : RefCall) : Balanced id refs call := by
  cases call with
  | addOwned object => exact (Nat.zero_add _).trans (refs.present_pin id object _)
  | addBorrower object worker => exact (Nat.zero_add _).trans (refs.present_pin id object _)
  | addSubmitDep object => exact (Nat.zero_add _).trans (refs.present_pin id object _)
  | incLocal object =>
    have same : present id (refs.incLocal object).2 = present id refs := by
      simp only [present, snapshot_incLocal]
      split <;> simp [*]
    exact congrArg (0 + ·) same
  | decLocal object => exact balanced_unpin rfl rfl rfl
  | removeBorrower object worker => exact balanced_unpin rfl rfl rfl
  | completeSubmitDep object => exact balanced_unpin rfl rfl rfl
  | drainIds =>
    simp only [Balanced, frees, drains, opens, call, RefCall.adds, mem_drainIds, present]
    cases refs.snapshot id <;> simp [drainIds, snapshot, empty]

theorem balanced_history (refs : RefCounter) (id : ObjectId) (calls : List RefCall) :
    tally (frees id) refs calls + tally (drains id) refs calls + present id (refs.after calls) =
      tally (opens id) refs calls + present id refs := by
  induction calls generalizing refs with
  | nil => rfl
  | cons call rest ih =>
    have first := refs.balanced_call id call
    have later := ih (refs.call call).2
    simp only [Balanced] at first
    simp only [tally, after, List.foldl_cons]
    simp only [after] at later
    omega

theorem Pinned.unpin_freed_iff {refs : RefCounter} (pinned : refs.Pinned) (id : ObjectId)
    {update : OwnerEntry → OwnerEntry}
    (single : ∀ entry, entry ≠ .default → (update entry = .default ↔ entry = last)) :
    (refs.unpin id update).1 = true ↔ refs.snapshot id = some last := by
  rw [RefCounter.unpin_freed_iff]
  cases found : refs.snapshot id with
  | none => simp
  | some entry =>
    have held := (isUnpinned_eq_false_iff entry).mp (pinned id entry found)
    simpa using single entry held

/-- In a pinned table a releasing call raises its flag exactly when the pin it
takes away is the only one. -/
theorem Pinned.freed_iff {refs : RefCounter} (pinned : refs.Pinned) {call : RefCall} {id : ObjectId}
    (about : call.object? = some id) (taken : call.pin? = some last) :
    (refs.call call).1 = .unpinned true ↔ refs.snapshot id = some last := by
  cases call <;> cases taken <;> cases about <;> simp only [RefCounter.call, RefReply.unpinned.injEq] <;>
    refine pinned.unpin_freed_iff id ?_ <;> rintro ⟨owned, borrowers, deps⟩ held <;>
    simp only [OwnerEntry.default, OwnerEntry.mk.injEq, ne_eq, Finset.erase_eq_empty_iff] at held ⊢
  case decLocal => grind
  case removeBorrower => grind
  case completeSubmitDep => grind

/-- After every history an id is stored with the pins its own calls have left, all stored
entries are pinned, every id's incarnations are released once each and only with their
last pin, and calls keep to their own id. -/
theorem history_sound (calls : List RefCall) :
    (∀ id, (empty.after calls).snapshot id = (RefCall.pins id calls .default).stored) ∧
    (empty.after calls).Pinned ∧
    (∀ id, tally (frees id) empty calls + tally (drains id) empty calls + present id (empty.after calls) =
      tally (opens id) empty calls) ∧
    (∀ call id last, call.object? = some id → call.pin? = some last →
      (((empty.after calls).call call).1 = .unpinned true ↔
        (empty.after calls).snapshot id = some last)) ∧
    (∀ call id other, call.object? = some id → other ≠ id →
      ((empty.after calls).call call).2.snapshot other = (empty.after calls).snapshot other) := by
  have stored : ∀ id, (empty.after calls).snapshot id = (RefCall.pins id calls .default).stored :=
    fun id => after_stored rfl calls
  have pinned := pinned_of_stored fun id => ⟨_, stored id⟩
  refine ⟨stored, pinned, fun id => ?_, fun call id last about taken => pinned.freed_iff about taken,
    fun call id other about different => call_frame _ about different⟩
  exact empty.balanced_history id calls

def sampleHistory : List RefCall :=
  [.addOwned (Id.nil 28), .incLocal (Id.nil 28), .addBorrower (Id.nil 28) (Id.nil 16), .decLocal (Id.nil 28),
    .decLocal (Id.nil 28), .decLocal (Id.nil 28), .removeBorrower (Id.nil 28) (Id.nil 16),
    .incLocal (Id.nil 28), .addSubmitDep (Id.nil 28), .drainIds, .addSubmitDep (Id.nil 28), .incLocal (Id.nil 28),
    .decLocal (Id.nil 28)]

/-- A stray drop frees nothing while the borrower is there; the borrower's removal does.
The second incarnation goes with a drain, and the third is held by its task alone. -/
theorem revived_object_balance :
    (empty.after sampleHistory).Pinned ∧ tally (frees (Id.nil 28)) empty sampleHistory = 1 ∧
      tally (drains (Id.nil 28)) empty sampleHistory = 1 ∧
      tally (opens (Id.nil 28)) empty sampleHistory = 3 ∧
      ((empty.after sampleHistory).call (.completeSubmitDep (Id.nil 28))).1 = .unpinned true := by
  obtain ⟨stored, pinned, balance, released, _⟩ := history_sound sampleHistory
  have left : (empty.after sampleHistory).snapshot (Id.nil 28) = some ⟨0, ∅, 1⟩ := stored (Id.nil 28)
  have there : present (Id.nil 28) (empty.after sampleHistory) = 1 := by rw [present, left]; rfl
  have freed : tally (frees (Id.nil 28)) empty sampleHistory = 1 := by decide
  have drained : tally (drains (Id.nil 28)) empty sampleHistory = 1 := by decide
  have opened := balance (Id.nil 28)
  exact ⟨pinned, freed, drained, by omega,
    (released (.completeSubmitDep (Id.nil 28)) (Id.nil 28) _ rfl rfl).mpr left⟩

end RefCounter
end Rayd.Core
