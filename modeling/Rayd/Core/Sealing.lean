import Rayd.Core.Worker

/-! Sealing several values in a row, as the workers and the crash path do. The
first failure ends it and the values before it stay. Spilling in between takes
nothing away that a later seal could trip over. -/
namespace Rayd.Core
open Memory Plasma Spill

/-- One value on its way to plasma. -/
structure Sealing where
  id : ObjectId
  metadata : Metadata
  data : Bytes

def Sealing.call (value : Sealing) : Call := ⟨value.id, value.metadata.encode, value.data⟩

def Sealing.index (value : Sealing) : PlasmaIndex := ⟨value.metadata, value.data.length⟩

theorem MemoryStore.mem_plasmaEntries {store : MemoryStore} {listed : ObjectId × PlasmaIndex}
    (member : listed ∈ store.plasmaEntries) : store.getEntry listed.1 = some (.plasma listed.2) := by
  obtain ⟨⟨key, entry⟩, stored, same⟩ := List.mem_filterMap.mp member
  cases entry with
  | inline object => cases same
  | plasma found =>
    cases same
    exact AList.mem_lookup_iff.mpr stored

theorem MemoryStore.getEntry_putAll (values : List Sealing) (store : MemoryStore)
    (distinct : (values.map Sealing.id).Nodup) :
    (∀ value ∈ values, (values.foldl (fun store value => store.putPlasma value.id value.index)
        store).getEntry value.id = some (.plasma value.index)) ∧
      ∀ other, (∀ value ∈ values, other ≠ value.id) →
        (values.foldl (fun store value => store.putPlasma value.id value.index) store).getEntry other =
          store.getEntry other := by
  induction values generalizing store with
  | nil => exact ⟨nofun, fun _ _ => rfl⟩
  | cons value rest ih =>
    rw [List.map_cons, List.nodup_cons] at distinct
    obtain ⟨first, distinct⟩ := distinct
    obtain ⟨listed, others⟩ := ih (store.putPlasma value.id value.index) distinct
    rw [List.foldl_cons]
    constructor
    · refine List.forall_mem_cons.mpr ⟨?_, listed⟩
      rw [others value.id fun later member same => first (same ▸ List.mem_map_of_mem member),
        getEntry_putPlasma, if_pos rfl]
    · intro other apart
      obtain ⟨here, later⟩ := List.forall_mem_cons.mp apart
      rw [others other later, getEntry_putPlasma, if_neg here]

namespace Session

def sealEach (s : Session) : List Sealing → Except CoreError Unit × Session
  | [] => (.ok (), s)
  | value :: rest =>
    match s.sealValueToPlasma value.id value.metadata value.data with
    | (.error failure, s) => (.error failure, s)
    | (.ok _, s) => s.sealEach rest

section Spilling
variable {id other : ObjectId}

theorem spillToRecoverer_other (s : Session) (different : other ≠ id) :
    (s.spillToRecoverer id).2.plasma.objects.lookup other = s.plasma.objects.lookup other := by
  simp only [spillToRecoverer]
  split
  · rfl
  · split
    · rfl
    · rfl
    · split
      · rfl
      · simp only [Store.lookup_delete, if_neg different]

/-- Spilling cannot move the object: there is nowhere to spill to, or the
worker's index does not list it. -/
def Unspillable (s : Session) (id : ObjectId) : Prop :=
  s.worker.recoverer = none ∨ s.worker.store.getEntry id = none

theorem maybeSpillForPressure_other {s : Session} (safe : s.Unspillable other) :
    s.maybeSpillForPressure.2.plasma.objects.lookup other = s.plasma.objects.lookup other := by
  rcases safe with none | unlisted
  · rw [maybeSpillForPressure_unrecovered none]
  · refine maybeSpillForPressure_keeps (P := fun t => t.plasma.objects.lookup other = s.plasma.objects.lookup other)
      (fun entry member t before => (t.spillToRecoverer_other ?_).trans before) rfl
    rintro rfl
    have listed := MemoryStore.mem_plasmaEntries ((s.worker.walk.perm _).mem_iff.mp member)
    rw [unlisted] at listed
    cases listed

end Spilling

/-- The values can all be sealed: none of their ids is taken and there is room. -/
structure Sealable (plasma : Store) (values : List Sealing) : Prop where
  absent : ∀ value ∈ values, plasma.objects.lookup value.id = none
  room : Store.RoomAll plasma.arena (values.map Sealing.call)

section Sealing
variable {s : Session} {value : Sealing} {other : ObjectId}

theorem sealValueToPlasma_other (value : Sealing) (safe : s.Unspillable other)
    (different : other ≠ value.id) :
    (s.sealValueToPlasma value.id value.metadata value.data).2.plasma.objects.lookup other =
        s.plasma.objects.lookup other ∧
      (s.sealValueToPlasma value.id value.metadata value.data).2.Unspillable other := by
  simp only [sealValueToPlasma, createAndSeal]
  rcases s.plasma.createAndSeal_spec value.call with
    ⟨done, _, _, objects⟩ | ⟨⟨failure, failed⟩, _, objects⟩
  · simp only [Sealing.call] at done objects
    rw [done]
    have kept : (addOwned (putPlasma ⟨s.worker, (s.plasma.createAndSeal value.call).2⟩ value.id
        value.index) value.id).Unspillable other := by
      refine safe.imp (fun none => none) fun unlisted => ?_
      simpa [putPlasma, addOwned, different] using unlisted
    constructor
    · refine (maybeSpillForPressure_other kept).trans ?_
      simp only [putPlasma, addOwned, Sealing.call, objects, FiniteMap.lookup_insert, if_neg different]
    · rcases kept with none | unlisted
      · refine .inl ?_
        rw [maybeSpillForPressure_unrecovered (by exact none)]
        exact none
      · refine .inr ?_
        rw [(maybeSpillForPressure_shrinks _).store]
        exact unlisted
  · simp only [Sealing.call] at failed objects
    rw [failed]
    exact ⟨by rw [objects], safe⟩

theorem sealValueToPlasma_arena (value : Sealing)
    (done : (s.sealValueToPlasma value.id value.metadata value.data).1 = .ok size) :
    (s.sealValueToPlasma value.id value.metadata value.data).2.plasma.arena =
      (Store.reserve s.plasma.arena value.call).2 := by
  rcases s.sealValueToPlasma_spec value.id value.metadata value.data with
    ⟨canSeal, _, shrinks⟩ | ⟨_, ⟨failure, failed⟩, _⟩
  · rw [shrinks.arena]
    exact Store.createAndSeal_arena ((s.plasma.createAndSeal_ok_iff value.call).mpr canSeal)
  · rw [done] at failed
    cases failed

/-- All values go in exactly when all of them can: a taken id or a full arena
stops the sequence there. -/
theorem sealEach_ok_iff (values : List Sealing) (s : Session) (distinct : (values.map Sealing.id).Nodup)
    (safe : ∀ value ∈ values, s.Unspillable value.id) :
    (s.sealEach values).1 = .ok () ↔ Sealable s.plasma values := by
  induction values generalizing s with
  | nil => exact iff_of_true rfl ⟨by simp, trivial⟩
  | cons value rest ih =>
    rw [List.map_cons, List.nodup_cons] at distinct
    obtain ⟨first, distinct⟩ := distinct
    have different : ∀ later ∈ rest, later.id ≠ value.id := fun later member same =>
      first (same ▸ List.mem_map_of_mem member)
    have after := fun later (member : later ∈ rest) =>
      sealValueToPlasma_other value (safe later (List.mem_cons_of_mem _ member))
        (different later member)
    simp only [sealEach]
    rcases s.sealValueToPlasma_spec value.id value.metadata value.data with
      ⟨canSeal, done, _⟩ | ⟨blocked, ⟨failure, failed⟩, _⟩
    · have arena := sealValueToPlasma_arena value done
      split <;> rename_i result <;> rw [result] at done after arena
      · cases done
      · rw [ih _ distinct fun later member => (after later member).2]
        constructor
        · rintro ⟨absent, room⟩
          refine ⟨List.forall_mem_cons.mpr ⟨canSeal.1, fun later member => ?_⟩, canSeal.2, ?_⟩
          · rw [← (after later member).1]
            exact absent later member
          · rwa [← arena]
        · rintro ⟨absent, room⟩
          refine ⟨fun later member => ?_, ?_⟩
          · rw [(after later member).1]
            exact absent later (List.mem_cons_of_mem _ member)
          · rw [arena]
            exact room.2
    · split <;> rename_i result <;> rw [result] at failed
      · refine iff_of_false (by simp) fun sealable => blocked ⟨?_, sealable.room.1⟩
        exact sealable.absent value List.mem_cons_self
      · cases failed

/-- Values that can all be sealed are, whatever is spilled on the way: spilling
frees ids and takes no room. -/
theorem sealEach_of_sealable (values : List Sealing) (s : Session)
    (distinct : (values.map Sealing.id).Nodup) (sealable : Sealable s.plasma values) :
    (s.sealEach values).1 = .ok () := by
  induction values generalizing s with
  | nil => rfl
  | cons value rest ih =>
    rw [List.map_cons, List.nodup_cons] at distinct
    obtain ⟨first, distinct⟩ := distinct
    obtain ⟨absent, room⟩ := sealable
    obtain ⟨here, later⟩ := List.forall_mem_cons.mp absent
    rcases s.sealValueToPlasma_spec value.id value.metadata value.data with
      ⟨canSeal, done, shrinks⟩ | ⟨blocked, _⟩
    · have arena := sealValueToPlasma_arena value done
      have stored := (sealedSession_stored canSeal).shrink shrinks
      simp only [sealEach]
      split <;> rename_i result <;> rw [result] at done arena stored
      · cases done
      · refine ih _ distinct ⟨fun other member => ?_, ?_⟩
        · rename_i t
          cases found : t.plasma.objects.lookup other.id with
          | none => rfl
          | some object =>
            rcases stored.plasma other.id object found with same | old
            · exact absurd (same ▸ List.mem_map_of_mem member) first
            · rw [later other member] at old
              cases old
        · rw [arena]
          exact room.2
    · exact absurd ⟨here, room.1⟩ blocked

theorem sealValueToPlasma_entry (value : Sealing)
    (done : (s.sealValueToPlasma value.id value.metadata value.data).1 = .ok size) (other : ObjectId) :
    (s.sealValueToPlasma value.id value.metadata value.data).2.worker.store.getEntry other =
      if other = value.id then some (.plasma value.index) else s.worker.store.getEntry other := by
  rcases s.sealValueToPlasma_spec value.id value.metadata value.data with
    ⟨_, _, shrinks⟩ | ⟨_, ⟨failure, failed⟩, _⟩
  · rw [shrinks.store, sealedSession_store, MemoryStore.getEntry_putPlasma]
    rfl
  · rw [done] at failed
    cases failed

/-- What each seal writes for its own id, the sequence has written in the end. -/
theorem sealEach_pointwise {A : Type} (keeps : Session → Prop) (look : Session → ObjectId → A)
    (mine : Sealing → A)
    (one : ∀ {s t : Session} {value : Sealing} {size : Nat}, keeps s →
      s.sealValueToPlasma value.id value.metadata value.data = (.ok size, t) →
      keeps t ∧ ∀ other, look t other = if other = value.id then mine value else look s other)
    (values : List Sealing) (s : Session) (kept : keeps s) (distinct : (values.map Sealing.id).Nodup)
    (done : (s.sealEach values).1 = .ok ()) :
    (∀ value ∈ values, look (s.sealEach values).2 value.id = mine value) ∧
      ∀ other, (∀ value ∈ values, other ≠ value.id) → look (s.sealEach values).2 other = look s other := by
  induction values generalizing s with
  | nil => exact ⟨nofun, fun _ _ => rfl⟩
  | cons value rest ih =>
    rw [List.map_cons, List.nodup_cons] at distinct
    obtain ⟨first, distinct⟩ := distinct
    simp only [sealEach] at done ⊢
    split at done <;> rename_i result
    · cases done
    · obtain ⟨kept, written⟩ := one kept result
      obtain ⟨listed, others⟩ := ih _ kept distinct done
      constructor
      · refine List.forall_mem_cons.mpr ⟨?_, listed⟩
        rw [others value.id fun later member same => first (same ▸ List.mem_map_of_mem member), written,
          if_pos rfl]
      · intro other apart
        obtain ⟨here, later⟩ := List.forall_mem_cons.mp apart
        rw [others other later, written, if_neg here]

theorem sealEach_entries (values : List Sealing) (s : Session) (distinct : (values.map Sealing.id).Nodup)
    (done : (s.sealEach values).1 = .ok ()) :
    (∀ value ∈ values, (s.sealEach values).2.worker.store.getEntry value.id =
        some (.plasma value.index)) ∧
      ∀ other, (∀ value ∈ values, other ≠ value.id) →
        (s.sealEach values).2.worker.store.getEntry other = s.worker.store.getEntry other := by
  refine sealEach_pointwise (fun _ => True) (fun s id => s.worker.store.getEntry id) _
    (fun _ result => ⟨trivial, fun other => ?_⟩) values s trivial distinct done
  rename_i value _ _
  have entry := sealValueToPlasma_entry value (congrArg Prod.fst result) other
  rwa [result] at entry

theorem sealEach_objects (values : List Sealing) (s : Session) (distinct : (values.map Sealing.id).Nodup)
    (none : s.worker.recoverer = none) (done : (s.sealEach values).1 = .ok ()) :
    (∀ value ∈ values, (s.sealEach values).2.plasma.objects.lookup value.id =
        some ⟨value.metadata.encode, value.data, true⟩) ∧
      ∀ other, (∀ value ∈ values, other ≠ value.id) →
        (s.sealEach values).2.plasma.objects.lookup other = s.plasma.objects.lookup other := by
  refine sealEach_pointwise (fun s => s.worker.recoverer = .none) (fun s id => s.plasma.objects.lookup id) _
    (fun none result => ?_) values s none distinct done
  obtain ⟨canSeal, rfl, rfl⟩ := sealValueToPlasma_unrecovered none result
  refine ⟨none, fun other => ?_⟩
  rw [sealedSession_plasma canSeal, FiniteMap.lookup_insert]

end Sealing
end Session
end Rayd.Core
