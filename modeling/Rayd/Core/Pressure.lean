import Rayd.Core.Worker
import Rayd.Lib.Sweep
import Rayd.Spill.Overlap

/-! The pressure check with no other thread at work. It goes by the sizes in the index,
where the entries of spilled objects stay, and not by what is in plasma: what it leaves in
plasma is never above the threshold, but it also moves objects when plasma alone would be
below it. -/
namespace Rayd.Core
open Memory Plasma Spill

namespace Session

def indexedBytes (s : Session) : Nat := (s.worker.store.plasmaEntries.map fun entry => entry.2.dataSize).sum

/-- The entries whose objects are in plasma. -/
def resident (s : Session) : List (ObjectId × PlasmaIndex) :=
  s.worker.store.plasmaEntries.filter fun entry => (s.plasma.objects.lookup entry.1).isSome

def residentBytes (s : Session) : Nat := (s.resident.map fun entry => entry.2.dataSize).sum

theorem maybeSpillForPressure_eq (s : Session) : s.maybeSpillForPressure =
    if s.worker.spillThreshold = 2 ^ 64 - 1 then (0, s)
    else if s.indexedBytes ≤ s.worker.spillThreshold then (0, s)
    else s.spillLoop s.indexedBytes 0 s.plasmaEntries := by
  have sum : (s.plasmaEntries.map fun entry => entry.2.dataSize).sum = s.indexedBytes :=
    ((s.worker.walk.perm _).map _).sum_eq
  rw [← sum]
  rfl

/-- What `spill_to_recoverer` can come to. -/
inductive Attempt (s : Session) (id : ObjectId) : Except CoreError Bool × Session → Prop where
  | unregistered : s.worker.recoverer = none → Attempt s id (.error problem, s)
  | absent : s.worker.recoverer = some manager → s.plasma.objects.lookup id = none →
      Attempt s id (.ok false, s)
  | unsealed : s.worker.recoverer = some manager → s.plasma.objects.lookup id = some object →
      object.isSealed = false → Attempt s id (.error problem, s)
  | moved : s.worker.recoverer = some manager → s.plasma.objects.lookup id = some object →
      object.isSealed = true → manager.spill id object.metadata object.data = (.ok url, next) →
      Attempt s id (.ok true, ⟨{ s.worker with recoverer := some next }, s.plasma.delete id⟩)
  | refused : s.worker.recoverer = some manager → s.plasma.objects.lookup id = some object →
      object.isSealed = true → manager.spill id object.metadata object.data = (.error reason, next) →
      Attempt s id (.error problem, { s with worker := { s.worker with recoverer := some next } })

theorem attempt (s : Session) (id : ObjectId) : Attempt s id (s.spillToRecoverer id) := by
  rw [spillToRecoverer]
  split
  · rename_i unregistered
    exact .unregistered unregistered
  · rename_i manager registered
    rcases s.plasma.get_cases id with ⟨absent, got⟩ | ⟨object, found, unsealed, got⟩ | ⟨object, found, done, got⟩
    · simp only [got]
      exact .absent registered absent
    · simp only [got]
      exact .unsealed registered found unsealed
    · simp only [got]
      split
      · rename_i spilled
        exact .refused registered found done spilled
      · rename_i spilled
        exact .moved registered found done spilled

theorem Attempt.threshold {s t : Session} {id : ObjectId} (attempt : Attempt s id (result, t)) :
    t.worker.spillThreshold = s.worker.spillThreshold := by
  cases attempt <;> rfl

section Disk
variable {s t : Session} {id : ObjectId} {object : Object}

/-- The object's bytes are in its file, and the spill directory leads there. -/
def OnDisk (s : Session) (id : ObjectId) (object : Object) : Prop :=
  ∃ manager, s.worker.recoverer = some manager ∧ manager.spillUrl id = some (Overlap.home id manager) ∧
    Overlap.file id manager = some (encodeBody ⟨object.metadata, object.data⟩)

/-- The object is in plasma, or has gone from there to the disk. -/
def Kept (s : Session) (id : ObjectId) (object : Object) : Prop :=
  s.plasma.objects.lookup id = some object ∨ s.plasma.objects.lookup id = none ∧ s.OnDisk id object

theorem onDisk_spill {other : ObjectId} (registered : s.worker.recoverer = some manager)
    (onDisk : s.OnDisk id object) (different : id ≠ other)
    (spilled : manager.spill other metadata data = (result, next))
    (now : t.worker.recoverer = some next) : t.OnDisk id object := by
  obtain ⟨old, before, url, content⟩ := onDisk
  cases registered.symm.trans before
  refine ⟨next, now, ?_⟩
  simp only [LocalObjectManager.spill] at spilled
  split at spilled <;> rename_i backend answered <;> cases spilled
  · obtain ⟨place, same⟩ := Overlap.spill_other different answered
    refine ⟨?_, same.trans content⟩
    refine ((FiniteMap.lookup_insert ..).trans (if_neg different)).trans ?_
    exact url.trans (congrArg some place.symm)
  · obtain ⟨place, same⟩ := Overlap.spill_other different answered
    exact ⟨url.trans (congrArg some place.symm), same.trans content⟩

theorem onDisk_spilled {manager next : LocalObjectManager}
    (spilled : manager.spill id object.metadata object.data = (.ok url, next))
    (now : t.worker.recoverer = some next) : t.OnDisk id object := by
  refine ⟨next, now, ?_⟩
  simp only [LocalObjectManager.spill] at spilled
  split at spilled <;> rename_i backend answered <;> cases spilled
  obtain ⟨place, ⟨_, same, content⟩ | ⟨⟨failure, failed⟩, _⟩⟩ := Overlap.spill_effect answered
  · cases same
    exact ⟨(FiniteMap.lookup_insert_self ..).trans (congrArg some place.symm), content⟩
  · cases failed

theorem Attempt.kept {other : ObjectId} (attempt : Attempt s other (result, t)) (kept : s.Kept id object) :
    t.Kept id object := by
  cases attempt with
  | unregistered | absent | unsealed => exact kept
  | @moved manager held url next registered found _ spilled =>
    have gone := s.plasma.lookup_delete other id
    by_cases same : id = other
    · subst same
      rw [if_pos rfl] at gone
      rcases kept with here | ⟨absent, _⟩
      · cases here.symm.trans found
        exact .inr ⟨gone, onDisk_spilled spilled rfl⟩
      · cases absent.symm.trans found
    · rw [if_neg same] at gone
      rcases kept with here | ⟨absent, onDisk⟩
      · exact .inl (gone.trans here)
      · exact .inr ⟨gone.trans absent, onDisk_spill registered onDisk same spilled rfl⟩
  | refused registered found _ spilled =>
    rcases kept with here | ⟨absent, onDisk⟩
    · exact .inl here
    · have different : id ≠ other := by
        intro same
        subst same
        cases absent.symm.trans found
      exact .inr ⟨absent, onDisk_spill registered onDisk different spilled rfl⟩

theorem maybeSpillForPressure_kept (kept : s.Kept id object) : s.maybeSpillForPressure.2.Kept id object :=
  maybeSpillForPressure_keeps (P := fun s => s.Kept id object) (fun entry _ t => (t.attempt entry.1).kept) kept

end Disk

section Taken
variable {s t : Session} {id : ObjectId}

/-- The object can be read, and its header's length fits the file. -/
def Spillable (object : Object) : Bool := object.isSealed && decide (object.metadata.length < 2 ^ 32)

/-- What an attempt on the entry takes off the estimate: its size, unless the attempt
fails. -/
def yields (s : Session) (entry : ObjectId × PlasmaIndex) : Nat :=
  if (s.plasma.objects.lookup entry.1).all Spillable then entry.2.dataSize else 0

theorem spill_spec {manager next : LocalObjectManager}
    (spilled : manager.spill id metadata data = (result, next)) :
    ((∃ url, result = .ok url) ↔ metadata.length < 2 ^ 32) ∧
      next.backend.tmpCounter = manager.backend.tmpCounter + 1 := by
  simp only [LocalObjectManager.spill, LocalFsBackend.spill] at spilled
  by_cases small : metadata.length < 2 ^ 32
  · rw [if_pos small] at spilled
    cases spilled
    exact ⟨iff_of_true ⟨_, rfl⟩ small, rfl⟩
  · rw [if_neg small] at spilled
    cases spilled
    refine ⟨iff_of_false ?_ small, rfl⟩
    rintro ⟨_, same⟩
    cases same

/-- With a recoverer, an attempt comes through exactly when the object is gone or can be
spilled; then it is gone, and the others are as they were. -/
theorem Attempt.effect (attempt : Attempt s id (result, t)) (registered : s.worker.recoverer ≠ none) :
    t.worker.recoverer ≠ none ∧
      ((∃ moved, result = .ok moved) ∧ (s.plasma.objects.lookup id).all Spillable = true ∧
          (∀ other, t.plasma.objects.lookup other = if other = id then none else s.plasma.objects.lookup other) ∨
        (∃ problem, result = .error problem) ∧ (s.plasma.objects.lookup id).all Spillable = false ∧
          t.plasma = s.plasma) := by
  cases attempt with
  | unregistered unregistered => exact absurd unregistered registered
  | absent _ absent =>
    refine ⟨registered, .inl ⟨⟨_, rfl⟩, by rw [absent]; rfl, fun other => ?_⟩⟩
    split
    · rename_i same
      rw [same, absent]
    · rfl
  | unsealed _ found unsealed =>
    exact ⟨registered, .inr ⟨⟨_, rfl⟩, by simp [found, Spillable, unsealed], rfl⟩⟩
  | moved _ found done spilled =>
    have small := (spill_spec spilled).1.mp ⟨_, rfl⟩
    refine ⟨Option.some_ne_none _, .inl ⟨⟨_, rfl⟩, ?_, s.plasma.lookup_delete id⟩⟩
    simpa [found, Spillable, done] using small
  | refused _ found done spilled =>
    refine ⟨Option.some_ne_none _, .inr ⟨⟨_, rfl⟩, ?_, rfl⟩⟩
    rw [found, Option.all_some, Spillable, done, Bool.true_and, decide_eq_false_iff_not, ← (spill_spec spilled).1]
    exact fun ⟨_, same⟩ => by cases same

theorem spillLoop_cons (registered : s.worker.recoverer ≠ none) (high : ¬ current ≤ s.worker.spillThreshold)
    (spilled : Nat) (entry : ObjectId × PlasmaIndex) (rest : List (ObjectId × PlasmaIndex)) :
    ∃ (t : Session) (count : Nat),
      s.spillLoop current spilled (entry :: rest) = t.spillLoop (current - s.yields entry) count rest ∧
      t.worker.recoverer ≠ none ∧ t.worker.spillThreshold = s.worker.spillThreshold ∧
      ∀ other, t.plasma.objects.lookup other =
        if other = entry.1 ∧ (s.plasma.objects.lookup entry.1).all Spillable = true then none
        else s.plasma.objects.lookup other := by
  obtain ⟨object, index⟩ := entry
  have head := s.attempt object
  rw [spillLoop, if_neg high]
  rcases answered : s.spillToRecoverer object with ⟨result, t⟩
  rw [answered] at head
  obtain ⟨still, ⟨⟨moved, rfl⟩, spillable, objects⟩ | ⟨⟨problem, rfl⟩, stuck, objects⟩⟩ := head.effect registered
  · have size : s.yields (object, index) = index.dataSize := if_pos spillable
    simp only [size, spillable, and_true]
    cases moved <;> exact ⟨t, _, rfl, still, head.threshold, objects⟩
  · have size : s.yields (object, index) = 0 := if_neg (by rw [stuck]; exact Bool.false_ne_true)
    simp only [size, stuck, Bool.false_eq_true, and_false, if_false]
    exact ⟨t, _, rfl, still, head.threshold, fun _ => by rw [objects]⟩

/-- The loop clears what a sweep by these yields takes, where it can be spilled. -/
theorem spillLoop_taken (entries : List (ObjectId × PlasmaIndex)) (s : Session) (current spilled : Nat)
    (registered : s.worker.recoverer ≠ none) (distinct : (entries.map Prod.fst).Nodup) (id : ObjectId) :
    (s.spillLoop current spilled entries).2.plasma.objects.lookup id =
      if id ∈ (Sweep.taken s.yields s.worker.spillThreshold current entries).map Prod.fst ∧
        (s.plasma.objects.lookup id).all Spillable = true then none else s.plasma.objects.lookup id := by
  induction entries generalizing s current spilled with
  | nil => simp [spillLoop, Sweep.taken]
  | cons entry rest ih =>
    by_cases low : current ≤ s.worker.spillThreshold
    · simp [spillLoop, Sweep.taken, low]
    · obtain ⟨first, distinct⟩ := List.nodup_cons.mp distinct
      obtain ⟨t, count, loop, still, threshold, objects⟩ := spillLoop_cons registered low spilled entry rest
      -- the attempt changes nothing for the entries to come
      have same : Sweep.taken t.yields s.worker.spillThreshold (current - s.yields entry) rest =
          Sweep.taken s.yields s.worker.spillThreshold (current - s.yields entry) rest := by
        refine Sweep.taken_congr fun other member => ?_
        have different : other.1 ≠ entry.1 := fun same =>
          first (same ▸ List.mem_map_of_mem (Sweep.mem_of_mem_taken member))
        simp only [yields, objects, different, false_and, if_false]
      simp only [loop, ih t _ _ still distinct, threshold, same, Sweep.taken, if_neg low, List.map_cons,
        List.mem_cons, objects]
      by_cases here : id = entry.1
      · subst here
        cases spillable : (s.plasma.objects.lookup entry.1).all Spillable <;> simp [spillable]
      · simp only [here, false_and, if_false, false_or]

theorem plasmaEntries_distinct (s : Session) : (s.plasmaEntries.map Prod.fst).Nodup :=
  ((s.worker.walk.perm _).map _).nodup_iff.mpr s.worker.store.plasmaEntries_distinct

/-- The check leaves the object: it is off or without a recoverer, or its walk has brought
the estimate to the threshold before it comes to the entry. -/
def Stays (s : Session) (id : ObjectId) : Prop :=
  s.worker.recoverer = none ∨ s.worker.spillThreshold = 2 ^ 64 - 1 ∨
    id ∉ (Sweep.taken s.yields s.worker.spillThreshold s.indexedBytes s.plasmaEntries).map Prod.fst

end Taken

section Target
variable {s : Session}

/-- No attempt fails: what the check comes to is gone from plasma or can be spilled. -/
def NoneFails (s : Session) : Prop :=
  ∀ entry ∈ Sweep.taken (fun entry => entry.2.dataSize) s.worker.spillThreshold s.indexedBytes s.plasmaEntries,
    s.worker.recoverer ≠ none ∧ (s.plasma.objects.lookup entry.1).all Spillable = true

/-- Whatever the sizes, the order of the entries and the threshold, and whichever of the
objects are in plasma: what is left there is within the threshold, and what has gone is
on disk. -/
theorem pressure_reaches_target (counted : s.indexedBytes < 2 ^ 64) (fine : s.NoneFails) :
    s.maybeSpillForPressure.2.residentBytes ≤ s.worker.spillThreshold ∧
      ∀ id object, s.plasma.objects.lookup id = some object →
        s.maybeSpillForPressure.2.plasma.objects.lookup id = none →
        s.maybeSpillForPressure.2.OnDisk id object := by
  constructor
  · have store : s.maybeSpillForPressure.2.worker.store = s.worker.store :=
      (maybeSpillForPressure_shrinks s).store
    have walked := s.worker.walk.perm s.worker.store.plasmaEntries
    rw [residentBytes, resident, store, ← ((walked.filter _).map _).sum_eq]
    refine Sweep.kept_le _ _ s.indexedBytes (walked.map _).sum_eq.le fun entry member => ?_
    obtain ⟨registered, spillable⟩ := fine entry member
    have cleared : s.maybeSpillForPressure.2.plasma.objects.lookup entry.1 = none := by
      have high : ¬ s.indexedBytes ≤ s.worker.spillThreshold := by
        intro low
        rw [Sweep.taken_low _ _ low] at member
        cases member
      have enabled : ¬ s.worker.spillThreshold = 2 ^ 64 - 1 := by omega
      have same : Sweep.taken s.yields s.worker.spillThreshold s.indexedBytes s.plasmaEntries = _ :=
        Sweep.taken_congr fun entry member => if_pos (fine entry member).2
      rw [maybeSpillForPressure_eq, if_neg enabled, if_neg high,
        spillLoop_taken _ _ _ _ registered s.plasmaEntries_distinct, same]
      exact if_pos ⟨List.mem_map_of_mem member, spillable⟩
    rw [cleared]
    rfl
  · intro id object held gone
    rcases maybeSpillForPressure_kept (s := s) (.inl held) with here | ⟨_, onDisk⟩
    · cases gone.symm.trans here
    · exact onDisk

end Target

section Idle
variable {s t : Session} {id : ObjectId}

/-- Every spill begins with a temporary file of its own. -/
def spillsBegun (s : Session) : Nat := s.worker.recoverer.elim 0 fun manager => manager.backend.tmpCounter

/-- The object is there to be spilled. -/
def Movable (s : Session) (id : ObjectId) : Prop :=
  s.worker.recoverer ≠ none ∧ ∃ object, s.plasma.objects.lookup id = some object ∧ object.isSealed = true

/-- What the loop takes off its estimate for an entry it does not move: its size if it
finds it gone, nothing if the attempt fails. -/
def discount (s : Session) (entry : ObjectId × PlasmaIndex) : Nat :=
  if s.worker.recoverer ≠ none ∧ s.plasma.objects.lookup entry.1 = none then entry.2.dataSize else 0

/-- An attempt on what is there begins a file; any other leaves everything as it is. -/
theorem Attempt.idle_or_begun (attempt : Attempt s id (result, t)) :
    (¬ s.Movable id ∧ t = s ∧
        (result = .ok false ∧ (∀ index, s.discount (id, index) = index.dataSize) ∨
          ∃ problem, result = .error problem ∧ ∀ index, s.discount (id, index) = 0)) ∨
      s.Movable id ∧ s.spillsBegun < t.spillsBegun := by
  have begun : ∀ {manager next : LocalObjectManager} {object : Object} {reply} {u : Session},
      s.worker.recoverer = some manager → manager.spill id object.metadata object.data = (reply, next) →
      u.worker.recoverer = some next → s.spillsBegun < u.spillsBegun := by
    intro manager next object reply u registered spilled now
    rw [spillsBegun, spillsBegun, registered, now, Option.elim_some, Option.elim_some, (spill_spec spilled).2]
    exact Nat.lt_succ_self _
  cases attempt with
  | unregistered unregistered =>
    refine .inl ⟨fun movable => movable.1 unregistered, rfl, .inr ⟨_, rfl, fun index => ?_⟩⟩
    exact if_neg fun here => here.1 unregistered
  | absent registered absent =>
    refine .inl ⟨?_, rfl, .inl ⟨rfl, fun index => if_pos ⟨?_, absent⟩⟩⟩
    · rintro ⟨_, object, found, _⟩
      cases absent.symm.trans found
    · rw [registered]
      exact Option.some_ne_none _
  | unsealed registered found unsealed =>
    refine .inl ⟨?_, rfl, .inr ⟨_, rfl, fun index => if_neg ?_⟩⟩
    · rintro ⟨_, object, present, done⟩
      cases found.symm.trans present
      cases unsealed.symm.trans done
    · rintro ⟨_, absent⟩
      cases absent.symm.trans found
  | moved registered found done spilled =>
    refine .inr ⟨⟨?_, _, found, done⟩, begun registered spilled rfl⟩
    rw [registered]
    exact Option.some_ne_none _
  | refused registered found done spilled =>
    refine .inr ⟨⟨?_, _, found, done⟩, begun registered spilled rfl⟩
    rw [registered]
    exact Option.some_ne_none _

theorem Attempt.spillsBegun_le (attempt : Attempt s id (result, t)) : s.spillsBegun ≤ t.spillsBegun := by
  rcases attempt.idle_or_begun with ⟨_, same, _⟩ | ⟨_, begun⟩
  · rw [same]
  · exact begun.le

theorem spillLoop_idle_iff (entries : List (ObjectId × PlasmaIndex)) (s : Session) (current spilled : Nat) :
    s.spillLoop current spilled entries = (spilled, s) ↔
      ∀ entry ∈ Sweep.taken s.discount s.worker.spillThreshold current entries, ¬ s.Movable entry.1 := by
  induction entries generalizing current with
  | nil => exact iff_of_true rfl fun _ member => by cases member
  | cons entry rest ih =>
    obtain ⟨object, index⟩ := entry
    simp only [spillLoop, Sweep.taken]
    by_cases low : current ≤ s.worker.spillThreshold
    · rw [if_pos low, if_pos low]
      exact iff_of_true rfl fun _ member => by cases member
    · rw [if_neg low, if_neg low, List.forall_mem_cons]
      have head := s.attempt object
      rcases answered : s.spillToRecoverer object with ⟨result, t⟩
      rw [answered] at head
      rcases head.idle_or_begun with ⟨still, rfl, ⟨rfl, counts⟩ | ⟨problem, rfl, counts⟩⟩ | ⟨movable, begun⟩
      · rw [counts, iff_true_intro still, true_and, ← ih]
      · rw [counts, iff_true_intro still, true_and, Nat.sub_zero, ← ih]
      · -- a file has been begun, and the loop does not take that back
        refine iff_of_false (fun same => ?_) fun all => all.1 movable
        have later : ∀ current count, t.spillsBegun ≤ (t.spillLoop current count rest).2.spillsBegun :=
          fun current count => spillLoop_keeps (P := fun u => t.spillsBegun ≤ u.spillsBegun)
            (fun entry _ u before => before.trans (u.attempt entry.1).spillsBegun_le) t current count le_rfl
        split at same <;> rename_i reply <;> cases reply <;>
          exact absurd ((later _ _).trans_eq (congrArg (fun result => result.2.spillsBegun) same)) begun.not_ge

/-- The check is switched off, or its estimate is at the threshold before it comes to an
entry whose object it could move. -/
def Spared (s : Session) : Prop :=
  s.worker.spillThreshold = 2 ^ 64 - 1 ∨
    ∀ entry ∈ Sweep.taken s.discount s.worker.spillThreshold s.indexedBytes s.plasmaEntries,
      ¬ s.Movable entry.1

/-- Nothing is spilled and nothing changed exactly when the estimate spares the objects.
How much of them is in plasma does not come into it. -/
theorem pressure_idle_iff (s : Session) : s.maybeSpillForPressure = (0, s) ↔ s.Spared := by
  rw [maybeSpillForPressure_eq, Spared]
  by_cases disabled : s.worker.spillThreshold = 2 ^ 64 - 1
  · rw [if_pos disabled]
    exact iff_of_true rfl (.inl disabled)
  · rw [if_neg disabled, or_iff_right disabled, ← spillLoop_idle_iff _ s _ 0]
    by_cases low : s.indexedBytes ≤ s.worker.spillThreshold
    · rw [if_pos low]
      refine iff_of_true rfl ?_
      cases s.plasmaEntries with
      | nil => rfl
      | cons entry rest => rw [spillLoop, if_pos low]
    · rw [if_neg low]

end Idle

section Samples

def pressedStart : Session := ⟨.start .newest (.nil 16) (some ⟨.empty 0, ∅⟩) 6, ⟨.onePage, ∅⟩⟩

def pressedId (n : Nat) : ObjectId := .forReturn (.nil 24) n

/-- Two objects of four bytes are put, and the first is spilled before the second comes. -/
def pressedPair : Session :=
  ((pressedStart.sealValueToPlasma (pressedId 0) .raw [1, 2, 3, 4]).2.spillToRecoverer
    (pressedId 0)).2.sealedSession (pressedId 1) .raw [5, 6, 7, 8]

/-- The second object goes as well, with the estimate at eight. -/
theorem pressure_reaches_target_pair :
    pressedPair.maybeSpillForPressure.2.residentBytes ≤ 6 ∧
      pressedPair.maybeSpillForPressure.2.OnDisk (pressedId 1) ⟨Metadata.raw.encode, [5, 6, 7, 8], true⟩ := by
  have reached := pressure_reaches_target (s := pressedPair) (by decide) (by unfold NoneFails; decide)
  exact ⟨reached.1, reached.2 _ _ rfl rfl⟩

/-- The same history with the second object sealed and read, which brings it back. Plasma
holds four bytes under a threshold of six, and they are spilled again. -/
theorem spilled_entry_presses_resident :
    let history := (((pressedStart.sealValueToPlasma (pressedId 0) .raw [1, 2, 3, 4]).2.spillToRecoverer
      (pressedId 0)).2.sealValueToPlasma (pressedId 1) .raw [5, 6, 7, 8]).2.resolveNow (pressedId 1)
    history.1 = .ok (some ⟨.raw, [5, 6, 7, 8]⟩) ∧ history.2.residentBytes = 4 ∧
      history.2.worker.spillThreshold = 6 ∧ history.2.maybeSpillForPressure.1 = 1 ∧
      history.2.maybeSpillForPressure.2.plasma.objects.lookup (pressedId 1) = none :=
  ⟨rfl, rfl, rfl, rfl, rfl⟩

end Samples

end Session
end Rayd.Core
