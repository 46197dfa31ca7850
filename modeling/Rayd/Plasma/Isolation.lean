import Rayd.Lib.Holdings
import Rayd.Plasma.Connections
import Mathlib.Logic.Equiv.Basic

/-! Slots never share a byte. The threads inside `handle_create` and the slots
handed out are the owners of what the arena has given away; a create that finishes
passes its two regions on, one that fails lets its first region go. What the table
knows is always a slot that was handed out. -/
namespace Rayd.Plasma
open Memory Transition Holdings Function

namespace Server

/-- An answer in one locked part writes no bytes, allocates nothing, and at most
flips the sealed flag of an entry. -/
theorem answer_frame {server after : Server} {request : Request}
    (answered : server.answer request = some (response, after)) :
    after.arena = server.arena ∧ after.memory = server.memory ∧
      ∀ object entry, after.objects.lookup object = some entry →
        ∃ old, server.objects.lookup object = some old ∧
          old.metadata = entry.metadata ∧ old.data = entry.data := by
  have same : ∀ object entry, server.objects.lookup object = some entry →
      ∃ old, server.objects.lookup object = some old ∧
        old.metadata = entry.metadata ∧ old.data = entry.data :=
    fun _ entry found => ⟨entry, found, rfl, rfl⟩
  cases request with
  | sealObject target =>
    simp only [answer, handleSeal, Option.some.injEq] at answered
    split at answered
    · cases answered
      exact ⟨rfl, rfl, same⟩
    · rename_i old present
      split at answered
      · cases answered
        exact ⟨rfl, rfl, same⟩
      · cases answered
        refine ⟨rfl, rfl, ?_⟩
        intro object entry found
        rw [FiniteMap.lookup_insert] at found
        split at found
        · rename_i here
          cases found
          exact ⟨old, here ▸ present, rfl, rfl⟩
        · exact same object entry found
  | get target | list =>
    cases answered
    exact ⟨rfl, rfl, same⟩
  | contains target =>
    simp only [answer] at answered
    split at answered
    · split at answered
      · cases answered
      · cases answered
        exact ⟨rfl, rfl, same⟩
    · cases answered
      exact ⟨rfl, rfl, same⟩
  | release target | delete target =>
    cases answered
    refine ⟨rfl, rfl, ?_⟩
    intro object entry found
    simp only [FiniteMap.lookup_erase] at found
    split at found
    · cases found
    · exact same object entry found
  | create request | disconnect => cases answered

end Server

namespace Connections

/-- The regions a thread has been promised for the object it is creating. -/
def Phase.held : Phase → List Region
  | .allocData request offset => [⟨offset, request.metadataSize.toNat⟩]
  | .insert request metadataOffset dataOffset =>
    [⟨metadataOffset, request.metadataSize.toNat⟩, ⟨dataOffset, request.dataSize.toNat⟩]
  | _ => []

namespace System

/-- Threads on the left, slots on the right. -/
def held (s : System) : Nat ⊕ Nat → List Region
  | .inl client => (s.threads client).held
  | .inr slot => (s.slots[slot]?).elim [] SlotInfo.regions

/-- An entry of the table, or one that a `Contains` is about to read. -/
def Knows (s : System) (entry : ObjectEntry) : Prop :=
  (∃ object, s.server.objects.lookup object = some entry) ∨
    ∃ client object, s.threads client = .readCopy object entry

theorem held_start (server : Server) (owner : Nat ⊕ Nat) : (start server).held owner = [] := by
  cases owner <;> simp [start, held, Phase.held]

@[simp] theorem move_self (s : System) (server : Server) :
    (s.move server client phase).threads client = phase :=
  update_self ..

theorem move_other (s : System) (server : Server) (other : c ≠ client) :
    (s.move server client phase).threads c = s.threads c :=
  update_of_ne other ..

theorem held_move (s : System) (server : Server) (client : Nat) (phase : Phase) :
    (s.move server client phase).held = update s.held (.inl client) phase.held := by
  funext owner
  cases owner with
  | inl c =>
    by_cases same : c = client
    · subst c
      rw [update_self, held, move_self]
    · rw [update_of_ne (by simpa using same), held, s.move_other server same]
      rfl
  | inr slot => rw [update_of_ne (by simp)]; rfl

theorem held_move_same {s : System} (server : Server) (same : phase.held = (s.threads client).held) :
    (s.move server client phase).held = s.held := by
  rw [held_move, same]
  exact update_eq_self ..

/-- A thread hands what it holds to a new slot: the two owners change places. -/
theorem held_finish (s : System) (server : Server) (passed : info.regions = (s.threads client).held) :
    System.held { s.move server client .idle with slots := s.slots ++ [info] } =
      s.held ∘ Equiv.swap (.inl client) (.inr s.slots.length) := by
  funext owner
  cases owner with
  | inl c =>
    by_cases same : c = client
    · subst c
      simp [held, move, Phase.held]
    · have thread : Equiv.swap (Sum.inl client) (Sum.inr s.slots.length) (Sum.inl c) = Sum.inl c :=
        Equiv.swap_apply_of_ne_of_ne (by simpa using same) (by simp)
      simp only [comp_apply, thread, held]
      rw [s.move_other server same]
  | inr slot =>
    by_cases new : slot = s.slots.length
    · subst slot
      simp [held, passed]
    · have other : Equiv.swap (Sum.inl client) (Sum.inr s.slots.length) (Sum.inr slot) = Sum.inr slot :=
        Equiv.swap_apply_of_ne_of_ne (by simp) (by simpa using new)
      simp only [comp_apply, other, held]
      by_cases old : slot < s.slots.length
      · rw [List.getElem?_append_left old]
      · rw [List.getElem?_eq_none (by simp; omega), List.getElem?_eq_none (by omega)]

theorem knows_move {s : System} {server : Server} {phase : Phase}
    (knows : (s.move server client phase).Knows entry)
    (reads : ∀ object, phase ≠ .readCopy object entry) :
    (∃ object, server.objects.lookup object = some entry) ∨ s.Knows entry := by
  rcases knows with inTable | ⟨c, object, found⟩
  · exact .inl inTable
  · by_cases same : c = client
    · subst c
      rw [move_self] at found
      exact absurd found (reads object)
    · rw [s.move_other server same] at found
      exact .inr (.inr ⟨c, object, found⟩)

end System

structure Isolated (capacity : Nat) (s : System) : Prop where
  arena : s.server.arena.id = 0 ∧ s.server.arena.capacity = capacity
  separated : Separated s.held s.server.arena.bump
  aligned : ∀ owner, ∀ region ∈ s.held owner, objectAlign ∣ region.offset
  mapped : ∀ info ∈ s.slots, info.arenaId = 0 ∧ info.arenaCapacity = capacity
  known : ∀ entry, s.Knows entry → ∃ info ∈ s.slots,
    info.metadata = entry.metadata ∧ info.data = entry.data

namespace Isolated

/-- The arena, the slots and what the threads hold stay; the table learns nothing. -/
theorem quiet (before : Isolated capacity s) (arena : t.server.arena = s.server.arena)
    (held : t.held = s.held) (slots : t.slots = s.slots)
    (known : ∀ entry, t.Knows entry → ∃ old, s.Knows old ∧
      old.metadata = entry.metadata ∧ old.data = entry.data) : Isolated capacity t where
  arena := by rw [arena]; exact before.arena
  separated := by rw [held, arena]; exact before.separated
  aligned := by rw [held]; exact before.aligned
  mapped := by rw [slots]; exact before.mapped
  known entry knows := by
    obtain ⟨old, knew, metadata, data⟩ := known entry knows
    obtain ⟨info, member, sameMetadata, sameData⟩ := before.known old knew
    exact ⟨info, slots ▸ member, sameMetadata.trans metadata, sameData.trans data⟩

theorem turn (before : Isolated capacity s) (same : phase.held = (s.threads client).held)
    (reads : ∀ object entry, phase = .readCopy object entry → s.Knows entry) :
    Isolated capacity (s.move s.server client phase) := by
  refine before.quiet rfl (System.held_move_same _ same) rfl ?_
  intro entry knows
  refine ⟨entry, ?_, rfl, rfl⟩
  by_cases reading : ∃ object, phase = .readCopy object entry
  · obtain ⟨object, here⟩ := reading
    exact reads object entry here
  · rcases System.knows_move knows fun object here => reading ⟨object, here⟩ with inTable | knew
    · exact .inl inTable
    · exact knew

theorem handed (before : Isolated capacity s)
    (allocated : s.server.createAlloc size = .ok (offset, server))
    (grown : phase.held = (s.threads client).held ++ [⟨offset, size⟩])
    (reads : ∀ object entry, phase ≠ .readCopy object entry) :
    Isolated capacity (s.move server client phase) := by
  obtain ⟨above, moved, _, objects⟩ := Server.createAlloc_ok allocated
  obtain ⟨dvd, sameId, sameCapacity⟩ := Server.createAlloc_arena allocated
  have held : (s.move server client phase).held =
      update s.held (.inl client) (s.held (.inl client) ++ [⟨offset, size⟩]) := by
    rw [System.held_move, grown]
    rfl
  refine ⟨?_, ?_, ?_, before.mapped, ?_⟩
  · exact ⟨sameId.trans before.arena.1, sameCapacity.trans before.arena.2⟩
  · rw [held]
    exact before.separated.grow _ _ above moved.ge
  · rw [held]
    intro owner region member
    by_cases mine : owner = .inl client
    · subst owner
      rw [update_self] at member
      rcases List.mem_append.mp member with old | new
      · exact before.aligned _ region old
      · rw [List.mem_singleton.mp new]
        exact dvd
    · rw [update_of_ne mine] at member
      exact before.aligned owner region member
  · intro entry knows
    rcases System.knows_move knows fun object => reads object entry with ⟨object, found⟩ | knew
    · exact before.known entry (.inl ⟨object, objects ▸ found⟩)
    · exact before.known entry knew

theorem released (before : Isolated capacity s) :
    Isolated capacity (s.move s.server client .idle) := by
  have fewer : ∀ owner, ((s.move s.server client .idle).held owner).Sublist (s.held owner) := by
    intro owner
    rw [System.held_move]
    by_cases mine : owner = .inl client
    · subst owner
      rw [update_self]
      exact List.nil_sublist _
    · rw [update_of_ne mine]
  refine ⟨before.arena, before.separated.shrink fewer, ?_, before.mapped, ?_⟩
  · intro owner region member
    exact before.aligned owner region ((fewer owner).subset member)
  · intro entry knows
    rcases System.knows_move knows (by simp) with inTable | knew
    · exact before.known entry (.inl inTable)
    · exact before.known entry knew

theorem finished (before : Isolated capacity s)
    (found : s.threads client = .insert request metadataOffset dataOffset)
    (inserted : s.server.createInsert request.objectId (freshEntry request metadataOffset dataOffset) =
      (.created info, server)) :
    Isolated capacity { s.move server client .idle with slots := s.slots ++ [info] } := by
  simp only [Server.createInsert, Prod.mk.injEq, Response.created.injEq] at inserted
  obtain ⟨rfl, rfl⟩ := inserted
  have held := s.held_finish
    { s.server with objects := s.server.objects.insert request.objectId (freshEntry request metadataOffset dataOffset) }
    (show (s.server.slotInfo (freshEntry request metadataOffset dataOffset)).regions = _ by rw [found]; rfl)
  refine ⟨before.arena, ?_, ?_, ?_, ?_⟩
  · rw [held]
    exact before.separated.reindex (Equiv.injective _)
  · rw [held]
    exact fun owner => before.aligned _
  · intro info member
    rcases List.mem_append.mp member with old | new
    · exact before.mapped info old
    · rw [List.mem_singleton.mp new]
      exact before.arena
  · intro entry knows
    have older : s.Knows entry → ∃ info ∈ s.slots ++
        [s.server.slotInfo (freshEntry request metadataOffset dataOffset)],
        info.metadata = entry.metadata ∧ info.data = entry.data := by
      intro knew
      obtain ⟨info, member, same⟩ := before.known entry knew
      exact ⟨info, List.mem_append_left _ member, same⟩
    rcases System.knows_move knows (by simp) with ⟨object, present⟩ | knew
    · replace present := (FiniteMap.lookup_insert ..).symm.trans present
      split at present
      · cases present
        exact ⟨_, List.mem_append_right _ (List.mem_singleton.mpr rfl), rfl, rfl⟩
      · exact older (.inl ⟨object, present⟩)
    · exact older knew

end Isolated

theorem isolated_step (before : Isolated capacity s) (step : Step s event t) : Isolated capacity t := by
  cases step with
  | receive found | createChecked found _ | createRefused found _ | allocMetadataRefused found _
  | readCopy found | disconnect found =>
    exact before.turn (by rw [found]; rfl) (by simp)
  | @answer client request response server found answered =>
    obtain ⟨arena, _, table⟩ := Server.answer_frame answered
    refine before.quiet arena (System.held_move_same _ (by rw [found]; rfl)) rfl ?_
    intro entry knows
    rcases System.knows_move knows (by simp) with ⟨object, present⟩ | knew
    · obtain ⟨old, was, same⟩ := table object entry present
      exact ⟨old, .inl ⟨object, was⟩, same⟩
    · exact ⟨entry, knew, rfl, rfl⟩
  | allocMetadata found allocated => exact before.handed allocated (by rw [found]; rfl) (by simp)
  | allocData found allocated => exact before.handed allocated (by rw [found]; rfl) (by simp)
  | allocDataRefused found _ => exact before.released
  | insert found inserted => exact before.finished found inserted
  | @lookUp client object entry found present isSealed =>
    refine before.turn (by rw [found]; rfl) ?_
    intro other shown same
    cases same
    exact .inl ⟨object, present⟩
  | write _ _ _ _ => exact before.quiet rfl rfl rfl fun entry knows => ⟨entry, knows, rfl, rfl⟩

theorem isolated_start (started : Server.start capacity = .ok server) :
    Isolated capacity (System.start server) := by
  simp only [Server.start, Arena.create] at started
  split at started
  · cases started
    refine ⟨⟨rfl, rfl⟩, ⟨?_, ?_, ?_⟩, ?_, ?_, ?_⟩
    · simp [System.held_start]
    · simp [System.held_start]
    · simp [System.held_start]
    · simp [System.held_start]
    · simp [System.start]
    · rintro entry (⟨object, present⟩ | ⟨client, object, found⟩)
      · cases present
      · cases found
  · cases started

theorem isolated_run (started : Server.start capacity = .ok server)
    (run : Run Step (System.start server) path s) : Isolated capacity s :=
  run.invariant isolated_step (isolated_start started)

namespace Isolated

theorem slot_regions {s : System} (found : s.slots[slot]? = some info) :
    s.held (.inr slot) = info.regions := by
  rw [System.held, found, Option.elim_some]

theorem inside (isolated : Isolated capacity s) (member : info ∈ s.slots) (region_mem : region ∈ info.regions) :
    objectAlign ∣ region.offset ∧ region.stop ≤ capacity := by
  obtain ⟨slot, found⟩ := List.mem_iff_getElem?.mp member
  rw [← slot_regions found] at region_mem
  refine ⟨isolated.aligned _ region region_mem, ?_⟩
  calc region.stop ≤ s.server.arena.bump := isolated.separated.below _ region region_mem
    _ ≤ s.server.arena.capacity := s.server.arena.bump_le
    _ = capacity := isolated.arena.2

theorem apart (isolated : Isolated capacity s) :
    (s.slots.flatMap SlotInfo.regions).Pairwise Region.Apart := by
  rw [List.pairwise_flatMap]
  constructor
  · intro info member
    obtain ⟨slot, found⟩ := List.mem_iff_getElem?.mp member
    rw [← slot_regions found]
    exact isolated.separated.within _
  · rw [List.pairwise_iff_getElem]
    intro i j first second order region member other member'
    rw [← slot_regions (List.getElem?_eq_getElem first)] at member
    rw [← slot_regions (List.getElem?_eq_getElem second)] at member'
    exact isolated.separated.across _ _ (by simpa using Nat.ne_of_lt order) region member other member'

theorem entry_inside (isolated : Isolated capacity s) (knows : s.Knows entry) :
    entry.metadata.stop ≤ capacity ∧ entry.data.stop ≤ capacity := by
  obtain ⟨info, member, metadata, data⟩ := isolated.known entry knows
  rw [← metadata, ← data]
  exact ⟨(isolated.inside member (by simp [SlotInfo.regions])).2,
    (isolated.inside member (by simp [SlotInfo.regions])).2⟩

theorem other_bytes (isolated : Isolated capacity s) (step : Step s event t)
    (found : s.slots[slot]? = some info) (spared : ∀ start bytes, event ≠ .wrote slot start bytes) :
    t.server.view info = s.server.view info := by
  cases step with
  | @write target there region start bytes given inside above below =>
    have different : (Sum.inr target : Nat ⊕ Nat) ≠ .inr slot := by
      intro same
      cases same
      exact spared start bytes rfl
    have kept : ∀ other ∈ info.regions,
        read (Memory.write s.server.memory start bytes) other = read s.server.memory other := by
      intro other member
      apply read_write_apart
      rw [← slot_regions given] at inside
      rw [← slot_regions found] at member
      have apart := isolated.separated.across _ _ different region inside other member
      simp only [Region.Apart, Region.stop] at apart below ⊢
      omega
    simp only [Server.view, kept info.metadata (by simp [SlotInfo.regions]),
      kept info.data (by simp [SlotInfo.regions])]
  | answer _ answered =>
    simp only [Server.view, System.move, (Server.answer_frame answered).2.1]
  | allocMetadata _ allocated | allocData _ allocated =>
    simp only [Server.view, System.move, (Server.createAlloc_ok allocated).2.2.1]
  | insert _ inserted =>
    cases inserted
    rfl
  | _ => rfl

end Isolated

/-- Whatever sizes are asked for, by however many clients, with deletes and slot
writes in between: slots are aligned, inside the arena and pairwise apart, no word
computation wraps, the server and the handles read inside the mapping, and a step
leaves the bytes of every slot alone that it does not itself write to. -/
theorem slots_isolated (started : Server.start capacity = .ok server)
    (run : Run Step (System.start server) path s) :
    (s.slots.flatMap SlotInfo.regions).Pairwise Region.Apart ∧
    (∀ info ∈ s.slots, info.arenaCapacity = capacity ∧ ∀ region ∈ info.regions,
      objectAlign ∣ region.offset ∧ region.stop ≤ capacity ∧ region.stop < 2 ^ 64) ∧
    (s.server.arena.bump + objectAlign < 2 ^ 64 ∧
      (Arena.alignedWord (UInt64.ofNat s.server.arena.bump)).toNat =
        (s.server.arena.bump + (objectAlign - 1)) / objectAlign * objectAlign) ∧
    (∀ object info, s.server.handleGet object = .got info →
      info.arenaCapacity = capacity ∧ ∀ region ∈ info.regions, region.stop ≤ capacity) ∧
    (∀ client object entry, s.threads client = .readCopy object entry → entry.metadata.stop ≤ capacity) ∧
    ∀ event t, Step s event t → ∀ slot info, s.slots[slot]? = some info →
      (∀ start bytes, event ≠ .wrote slot start bytes) → t.server.view info = s.server.view info := by
  have isolated := isolated_run started run
  have small : capacity < 2 ^ 63 := isolated.arena.2 ▸ s.server.arena.capacity_lt
  refine ⟨isolated.apart, ?_, ?_, ?_, ?_, ?_⟩
  · intro info member
    refine ⟨(isolated.mapped info member).2, ?_⟩
    intro region inside
    obtain ⟨dvd, below⟩ := isolated.inside member inside
    exact ⟨dvd, below, by omega⟩
  · obtain ⟨fits, rounded⟩ := s.server.arena.aligned_eq
    refine ⟨fits, ?_⟩
    rw [Arena.alignedWord_toNat, UInt64.toNat_ofNat', Nat.mod_eq_of_lt (by omega)]
    exact rounded
  · intro object info answered
    obtain ⟨entry, present, _, rfl⟩ := Server.handleGet_got answered
    refine ⟨isolated.arena.2, ?_⟩
    obtain ⟨metadata, data⟩ := isolated.entry_inside (.inl ⟨object, present⟩)
    intro region member
    simp only [SlotInfo.regions, List.mem_cons, List.not_mem_nil, or_false] at member
    rcases member with rfl | rfl
    · exact metadata
    · exact data
  · intro client object entry found
    exact (isolated.entry_inside (.inr ⟨client, object, found⟩)).1
  · intro event t step slot info found spared
    exact isolated.other_bytes step found spared

section Samples

def roomy : Server := ⟨.unused, fun _ => 0, ∅⟩

def sampleRequest : CreateRequest := ⟨Id.nil 28, 3, 40, .nil⟩

def otherRequest : CreateRequest := ⟨.forReturn (Id.nil 24) 1, 5, 20, .nil⟩

def lowSlot : SlotInfo := ⟨0, 512, 0, 3, 32, 40, false⟩

def highSlot : SlotInfo := ⟨0, 512, 16, 5, 80, 20, false⟩

/-- Two creates whose allocations come in turn, and a write through the first handle. -/
theorem created_run : ∃ path s t, Run Step (System.start roomy) path s ∧
    s.slots = [lowSlot, highSlot] ∧ Step s (.wrote 0 40 [7]) t := by
  have run : Run Step (System.start roomy) [] _ := .refl
  have run := run.next (a := .received 0 (.create sampleRequest)) (.receive rfl)
  have run := run.next (a := .received 1 (.create otherRequest)) (.receive rfl)
  have run := run.next (a := .checked 0) (.createChecked rfl rfl)
  have run := run.next (a := .checked 1) (.createChecked rfl rfl)
  have run := run.next (a := .allocated 0) (.allocMetadata rfl rfl)
  have run := run.next (a := .allocated 1) (.allocMetadata rfl rfl)
  have run := run.next (a := .allocated 0) (.allocData rfl rfl)
  have run := run.next (a := .allocated 1) (.allocData rfl rfl)
  have run := run.next (a := .answered 0 (.create sampleRequest) (.created lowSlot)) (.insert rfl rfl)
  have run := run.next (a := .answered 1 (.create otherRequest) (.created highSlot)) (.insert rfl rfl)
  exact ⟨_, _, _, run, rfl,
    .write rfl (show ⟨32, 40⟩ ∈ lowSlot.regions by decide) (by decide) (by decide)⟩

/-- The data of the first slot lies between the two parts of the second, and a write to it
leaves both alone. -/
theorem slots_isolated_created :
    ∃ path s t, Run Step (System.start roomy) path s ∧ s.slots = [lowSlot, highSlot] ∧
      lowSlot.data.Apart highSlot.metadata ∧ lowSlot.data.Apart highSlot.data ∧
      highSlot.data.stop ≤ 512 ∧ Step s (.wrote 0 40 [7]) t ∧
      t.server.view highSlot = s.server.view highSlot := by
  obtain ⟨path, s, t, run, slots, wrote⟩ := created_run
  have started : Server.start 512 = .ok roomy := rfl
  obtain ⟨apart, inside, _, _, _, others⟩ := slots_isolated started run
  have pairs : lowSlot.data.Apart highSlot.metadata ∧ lowSlot.data.Apart highSlot.data := by
    simp only [slots, List.flatMap_cons, List.flatMap_nil, SlotInfo.regions, List.append_nil, List.cons_append,
      List.nil_append, List.pairwise_cons] at apart
    exact ⟨apart.2.1 _ (by simp), apart.2.1 _ (by simp)⟩
  have second := (inside highSlot (by simp [slots])).2 highSlot.data (by simp [SlotInfo.regions])
  refine ⟨path, s, t, run, slots, pairs.1, pairs.2, second.2.1, wrote, ?_⟩
  exact others _ t wrote 1 highSlot (by rw [slots]; rfl) (fun _ _ same => by cases same)

end Samples
end Connections
end Rayd.Plasma
