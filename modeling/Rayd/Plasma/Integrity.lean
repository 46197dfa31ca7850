import Rayd.Plasma.Interleaving

/-! What the interleaved clients keep. Slots handed out are pairwise apart and a
finished slot is never written again; that much needs no assumption. Table
entries are only as good as the two steps of `create_and_seal` that trust the
id alone, so the object-level result is relative to `Careful`. -/
namespace Rayd.Plasma.Interleaving
open Memory Transition

namespace System

@[simp] theorem move_server (s : System) (after : Server) :
    (s.move after client phase).server = after := rfl

@[simp] theorem move_self (s : System) (after : Server) :
    (s.move after client phase).clients client = phase :=
  Function.update_self ..

theorem move_other (s : System) (after : Server) (other : c ≠ client) :
    (s.move after client phase).clients c = s.clients c :=
  Function.update_of_ne other ..

end System

/-- The regions a client may still write, or has been promised for writing. -/
def Phase.held : Phase → List Region
  | .allocData call offset => [⟨offset, call.metadata.length⟩]
  | .insert call metadataOffset dataOffset =>
    [⟨metadataOffset, call.metadata.length⟩, ⟨dataOffset, call.data.length⟩]
  | .writeMetadata _ info | .writeData _ info => [info.metadata, info.data]
  | _ => []

/-- Regions of calls whose two writes are both done. -/
def Finished (path : List Event) (region : Region) : Prop :=
  ∃ client call info, .wrote client call info ∈ path ∧
    (region = info.metadata ∨ region = info.data)

structure Separate (path : List Event) (s : System) : Prop where
  held_below : ∀ client, ∀ region ∈ (s.clients client).held, region.stop ≤ s.server.arena.bump
  held_apart : ∀ c c', c ≠ c' → ∀ region ∈ (s.clients c).held, ∀ other ∈ (s.clients c').held,
    region.Apart other
  finished_below : ∀ region, Finished path region → region.stop ≤ s.server.arena.bump
  finished_apart : ∀ region, Finished path region → ∀ client, ∀ other ∈ (s.clients client).held,
    other.Apart region

/-- One client moves: it keeps regions, gives them up, or is handed space above
the old bump pointer; a region is finished by giving up all it holds. -/
theorem Separate.advance (before : Separate path s) (client : Nat)
    (grow : s.server.arena.bump ≤ t.server.arena.bump)
    (others : ∀ c, c ≠ client → t.clients c = s.clients c)
    (held : ∀ region ∈ (t.clients client).held, region ∈ (s.clients client).held ∨
      s.server.arena.bump ≤ region.offset ∧ region.stop ≤ t.server.arena.bump)
    (finished : ∀ region, Finished (path ++ [event]) region → Finished path region ∨
      region ∈ (s.clients client).held ∧ (t.clients client).held = []) :
    Separate (path ++ [event]) t := by
  -- a region held after the step was held before it by the same client, or is fresh
  have origin : ∀ c, ∀ region ∈ (t.clients c).held, region ∈ (s.clients c).held ∨
      c = client ∧ s.server.arena.bump ≤ region.offset ∧ region.stop ≤ t.server.arena.bump := by
    intro c region member
    by_cases same : c = client
    · subst c
      exact (held region member).imp_right fun fresh => ⟨rfl, fresh⟩
    · exact .inl (others c same ▸ member)
  constructor
  · intro c region member
    rcases origin c region member with old | ⟨_, _, below⟩
    · exact (before.held_below c region old).trans grow
    · exact below
  · intro c c' different region member other member'
    rcases origin c region member with old | ⟨mine, above, _⟩ <;>
      rcases origin c' other member' with old' | ⟨mine', above', _⟩
    · exact before.held_apart c c' different region old other old'
    · exact .inl ((before.held_below c region old).trans above')
    · exact .inr ((before.held_below c' other old').trans above)
    · exact absurd (mine.trans mine'.symm) different
  · intro region done
    rcases finished region done with old | ⟨mine, _⟩
    · exact (before.finished_below region old).trans grow
    · exact (before.held_below client region mine).trans grow
  · intro region done c other member
    rcases finished region done with old | ⟨mine, released⟩
    · rcases origin c other member with kept | ⟨_, above, _⟩
      · exact before.finished_apart region old c other kept
      · exact .inr ((before.finished_below region old).trans above)
    · have different : c ≠ client := by
        rintro rfl
        simp [released] at member
      rw [others c different] at member
      exact before.held_apart c client different other member region mine

theorem finished_other (other : ∀ client call info, event ≠ .wrote client call info)
    (done : Finished (path ++ [event]) region) : Finished path region := by
  obtain ⟨client, call, info, member, here⟩ := done
  rcases List.mem_append.mp member with old | new
  · exact ⟨client, call, info, old, here⟩
  · exact absurd (List.mem_singleton.mp new).symm (other client call info)

theorem Separate.unfinished (before : Separate path s) (client : Nat)
    (grow : s.server.arena.bump ≤ t.server.arena.bump)
    (others : ∀ c, c ≠ client → t.clients c = s.clients c)
    (held : ∀ region ∈ (t.clients client).held, region ∈ (s.clients client).held ∨
      s.server.arena.bump ≤ region.offset ∧ region.stop ≤ t.server.arena.bump)
    (other : ∀ client call info, event ≠ .wrote client call info) : Separate (path ++ [event]) t :=
  before.advance client grow others held fun _ done => .inl (finished_other other done)

theorem separate_step (before : Separate path s) (step : Step s event t) :
    Separate (path ++ [event]) t := by
  cases step with
  | allocMetadata found allocated =>
    obtain ⟨above, moved, _⟩ := Server.createAlloc_ok allocated
    refine before.unfinished _ (by simp only [System.move_server]; omega)
      (fun c other => s.move_other _ other) ?_ (by simp)
    intro region member
    simp only [System.move_self, Phase.held, List.mem_singleton] at member
    subst member
    exact .inr ⟨above, by simp only [System.move_server, Region.stop, moved, le_refl]⟩
  | allocData found allocated =>
    obtain ⟨above, moved, _⟩ := Server.createAlloc_ok allocated
    refine before.unfinished _ (by simp only [System.move_server]; omega)
      (fun c other => s.move_other _ other) ?_ (by simp)
    intro region member
    simp only [System.move_self, Phase.held, List.mem_cons, List.not_mem_nil, or_false] at member
    rcases member with rfl | rfl
    · exact .inl (by simp only [found, Phase.held, List.mem_singleton])
    · exact .inr ⟨above, by simp only [System.move_server, Region.stop, moved, le_refl]⟩
  | @insert client call metadataOffset dataOffset info server found inserted =>
    simp only [Server.createInsert, Prod.mk.injEq, Response.created.injEq] at inserted
    obtain ⟨rfl, rfl⟩ := inserted
    refine before.unfinished _ (le_refl _) (fun c other => s.move_other _ other) ?_ (by simp)
    intro region member
    rw [System.move_self] at member
    rw [found]
    exact .inl member
  | @writeMetadata client call info found =>
    refine before.unfinished _ (le_refl _) (fun c other => s.move_other _ other) ?_ (by simp)
    intro region member
    rw [System.move_self] at member
    rw [found]
    exact .inl member
  | @writeData client call info found =>
    refine before.advance _ (le_refl _) (fun c other => s.move_other _ other)
      (by simp [Phase.held]) ?_
    intro region done
    obtain ⟨c, call', info', member, here⟩ := done
    rcases List.mem_append.mp member with old | new
    · exact .inl ⟨c, call', info', old, here⟩
    · cases List.mem_singleton.mp new
      exact .inr ⟨by simpa [found, Phase.held] using here, by simp [Phase.held]⟩
  | sealRequest found answered =>
    obtain ⟨arena, _⟩ := Server.handleSeal_frame answered
    exact before.unfinished _ (by simp only [System.move_server, arena, le_refl])
      (fun c other => s.move_other _ other) (by simp [Phase.held]) (by simp)
  | @get client object found =>
    exact before.unfinished client (le_refl _) (fun _ _ => rfl) (fun _ member => .inl member) (by simp)
  | _ =>
    -- every other step leaves the server's memory and arena alone and holds nothing after it
    exact before.unfinished _ (le_refl _) (fun c other => s.move_other _ other) (by simp [Phase.held])
      (by simp)

/-- The slot has exactly the sizes the call asked for, metadata first. -/
structure Fits (call : Call) (info : SlotInfo) : Prop where
  metadata_size : info.metadataSize = call.metadata.length
  data_size : info.dataSize = call.data.length
  ordered : info.metadata.stop ≤ info.dataOffset

/-- What holds of a client's own call in each phase. -/
def Owned (path : List Event) (memory : Nat → UInt8) (client : Nat) : Phase → Prop
  | .insert call metadataOffset dataOffset => metadataOffset + call.metadata.length ≤ dataOffset
  | .writeMetadata call info => Fits call info
  | .writeData call info => Fits call info ∧ read memory info.metadata = call.metadata
  | .sealing call info => .wrote client call info ∈ path
  | _ => True

theorem Owned.frame (before : Owned path memory client phase)
    (kept : ∀ region ∈ phase.held, read memory' region = read memory region) :
    Owned (path ++ [event]) memory' client phase := by
  cases phase with
  | writeData call info =>
    exact ⟨before.1, (kept info.metadata (by simp [Phase.held])).trans before.2⟩
  | sealing call info => exact List.mem_append_left _ before
  | _ => exact before

structure Written (path : List Event) (s : System) : Prop where
  owned : ∀ client, Owned path s.server.memory client (s.clients client)
  finished : ∀ client call info, .wrote client call info ∈ path →
    s.server.view info = (call.metadata, call.data)

/-- The moving client answers for its own phase; nobody else's region and no
finished region may change. -/
theorem Written.advance (before : Written path s) (client : Nat)
    (others : ∀ c, c ≠ client → t.clients c = s.clients c)
    (mine : Owned (path ++ [event]) t.server.memory client (t.clients client))
    (kept : ∀ region, (Finished path region ∨ ∃ c, c ≠ client ∧ region ∈ (s.clients c).held) →
      read t.server.memory region = read s.server.memory region)
    (done : ∀ c call info, event = .wrote c call info →
      t.server.view info = (call.metadata, call.data)) :
    Written (path ++ [event]) t := by
  constructor
  · intro c
    by_cases same : c = client
    · subst c
      exact mine
    · rw [others c same]
      exact (before.owned c).frame fun region member => kept region (.inr ⟨c, same, member⟩)
  · intro c call info member
    rcases List.mem_append.mp member with old | new
    · have metadata := kept info.metadata (.inl ⟨c, call, info, old, .inl rfl⟩)
      have data := kept info.data (.inl ⟨c, call, info, old, .inr rfl⟩)
      rw [← before.finished c call info old]
      simp only [Server.view, metadata, data]
    · exact done c call info (List.mem_singleton.mp new).symm

/-- A write into a region the client holds touches no finished region and no
region of another client. -/
theorem held_write (separate : Separate path s) (region : Region)
    (member : region ∈ (s.clients client).held)
    (sized : region.size = bytes.length)
    (outside : Finished path other ∨ ∃ c, c ≠ client ∧ other ∈ (s.clients c).held) :
    read (write s.server.memory region.offset bytes) other = read s.server.memory other := by
  apply read_write_apart
  rw [← sized]
  rcases outside with done | ⟨c, different, held⟩
  · exact (separate.finished_apart other done client region member).symm
  · exact separate.held_apart c client different other held region member

theorem written_step (separate : Separate path s) (before : Written path s)
    (step : Step s event t) : Written (path ++ [event]) t := by
  cases step with
  | allocMetadata found allocated =>
    obtain ⟨_, _, memory, _⟩ := Server.createAlloc_ok allocated
    exact before.advance _ (fun c other => s.move_other _ other)
      (by simp only [System.move_self, Owned])
      (fun _ _ => by simp only [System.move_server, memory]) (by simp)
  | @allocData client call metadataOffset offset server found allocated =>
    obtain ⟨above, _, memory, _⟩ := Server.createAlloc_ok allocated
    have below := separate.held_below client ⟨metadataOffset, call.metadata.length⟩
      (by simp only [found, Phase.held, List.mem_singleton])
    refine before.advance _ (fun c other => s.move_other _ other) ?_
      (fun _ _ => by simp only [System.move_server, memory]) (by simp)
    simp only [System.move_self, Owned]
    exact below.trans above
  | @insert client call metadataOffset dataOffset info server found inserted =>
    simp only [Server.createInsert, Prod.mk.injEq, Response.created.injEq] at inserted
    obtain ⟨rfl, rfl⟩ := inserted
    have ordered := before.owned client
    rw [found] at ordered
    refine before.advance _ (fun c other => s.move_other _ other) ?_ (fun _ _ => rfl) (by simp)
    rw [System.move_self]
    exact ⟨rfl, rfl, ordered⟩
  | @writeMetadata client call info found =>
    have fits := before.owned client
    rw [found] at fits
    have copied : call.metadata.take info.metadataSize = call.metadata :=
      List.take_of_length_le fits.metadata_size.ge
    refine before.advance _ (fun c other => s.move_other _ other) ?_ ?_ (by simp)
    · rw [System.move_self]
      refine ⟨fits, ?_⟩
      simp only [System.move_server, Server.writeMetadata, copied]
      rw [SlotInfo.metadata, fits.metadata_size]
      exact read_write_same _ _ _
    · intro region outside
      simp only [System.move_server, Server.writeMetadata, copied]
      exact held_write separate info.metadata (by simp [found, Phase.held])
        fits.metadata_size outside
  | @writeData client call info found =>
    have owned := before.owned client
    rw [found] at owned
    obtain ⟨fits, metadata⟩ := owned
    have copied : call.data.take info.dataSize = call.data :=
      List.take_of_length_le fits.data_size.ge
    refine before.advance _ (fun c other => s.move_other _ other) ?_ ?_ ?_
    · rw [System.move_self]
      exact List.mem_append_right _ (List.mem_singleton.mpr rfl)
    · intro region outside
      simp only [System.move_server, Server.writeData, copied]
      exact held_write separate info.data (by simp [found, Phase.held])
        fits.data_size outside
    · -- the data write lands above the metadata written just before it
      rintro c call' info' same
      cases same
      simp only [System.move_server, Server.writeData, Server.view, copied, Prod.mk.injEq]
      constructor
      · rw [read_write_apart _ _ _ _ (.inl fits.ordered)]
        exact metadata
      · simp only [SlotInfo.data, fits.data_size]
        exact read_write_same _ _ _
  | sealRequest found answered =>
    obtain ⟨_, memory⟩ := Server.handleSeal_frame answered
    exact before.advance _ (fun c other => s.move_other _ other)
      (by simp only [System.move_self, Owned])
      (fun _ _ => by simp only [System.move_server, memory]) (by simp)
  | @get client object found =>
    exact before.advance client (fun _ _ => rfl)
      ((before.owned client).frame fun _ _ => rfl) (fun _ _ => rfl) (by simp)
  | _ =>
    exact before.advance _ (fun c other => s.move_other _ other)
      (by simp only [System.move_self, Owned]) (fun _ _ => rfl) (by simp)

/-- The two steps that act on whatever stands under the id. The insert meets no
sealed entry, and the seal meets no unsealed entry but the one its own create
inserted. -/
def Careful (s : System) : Event → Prop
  | .inserted _ call _ => ∀ entry, s.server.objects.lookup call.id = some entry →
      entry.isSealed = false
  | .sealed _ call info _ => ∀ entry, s.server.objects.lookup call.id = some entry →
      entry.isSealed = false → s.server.slotInfo entry = info
  | _ => True

/-- The slot was filled by this call, then sealed by it, and the id has not been
deleted since. -/
def Published (path : List Event) (object : ObjectId) (metadata data : Region) (call : Call) : Prop :=
  ∃ before after client info, path = before ++ .sealed client call info .ok :: after ∧
    .wrote client call info ∈ before ∧ call.id = object ∧
    info.metadata = metadata ∧ info.data = data ∧ ∀ c, .deleted c object ∉ after

theorem Published.extend (published : Published path object metadata data call)
    (kept : ∀ c, event ≠ .deleted c object) :
    Published (path ++ [event]) object metadata data call := by
  obtain ⟨before, after, client, info, split, wrote, same, atMetadata, atData, alive⟩ := published
  refine ⟨before, after ++ [event], client, info, by simp [split], wrote, same, atMetadata, atData, ?_⟩
  intro c member
  rcases List.mem_append.mp member with old | new
  · exact alive c old
  · exact kept c (List.mem_singleton.mp new).symm

def Backed (path : List Event) (s : System) : Prop :=
  ∀ object entry, s.server.objects.lookup object = some entry → entry.isSealed = true →
    ∃ call, Published path object entry.metadata entry.data call

theorem Backed.advance (before : Backed path s) (kept : ∀ c object, event ≠ .deleted c object)
    (table : t.server.objects = s.server.objects) : Backed (path ++ [event]) t := by
  intro object entry found isSealed
  rw [table] at found
  obtain ⟨call, published⟩ := before object entry found isSealed
  exact ⟨call, published.extend fun c => kept c object⟩

theorem backed_step (written : Written path s) (before : Backed path s)
    (step : Guarded Careful Step s event t) : Backed (path ++ [event]) t := by
  obtain ⟨careful, step⟩ := step
  cases step with
  | allocMetadata found allocated =>
    exact before.advance (by simp) (Server.createAlloc_ok allocated).2.2.2
  | allocData found allocated =>
    exact before.advance (by simp) (Server.createAlloc_ok allocated).2.2.2
  | @insert client call metadataOffset dataOffset info server found inserted =>
    simp only [Server.createInsert, Prod.mk.injEq, Response.created.injEq] at inserted
    obtain ⟨rfl, rfl⟩ := inserted
    intro object entry present isSealed
    simp only [System.move_server, FiniteMap.lookup_insert] at present
    split at present
    · cases present
      cases isSealed
    · obtain ⟨origin, published⟩ := before object entry present isSealed
      exact ⟨origin, published.extend (by simp)⟩
  | @sealRequest client call info reply server found answered =>
    have wrote := written.owned client
    rw [found] at wrote
    simp only [Server.handleSeal] at answered
    split at answered
    · cases answered
      exact before.advance (by simp) rfl
    · rename_i old present
      split at answered
      · cases answered
        exact before.advance (by simp) rfl
      · rename_i notSealed
        cases answered
        intro object entry present' isSealed
        simp only [System.move_server, FiniteMap.lookup_insert] at present'
        split at present'
        · rename_i same
          cases present'
          have own := careful old present (by simpa using notSealed)
          exact ⟨call, path, [], client, info, rfl, wrote, same.symm, by rw [← own]; rfl,
            by rw [← own]; rfl, by simp⟩
        · obtain ⟨origin, published⟩ := before object entry present' isSealed
          exact ⟨origin, published.extend (by simp)⟩
  | @delete client object found =>
    intro other entry present isSealed
    simp only [System.move_server, Server.handleDelete, FiniteMap.lookup_erase] at present
    split at present
    · cases present
    · rename_i different
      obtain ⟨origin, published⟩ := before other entry present isSealed
      exact ⟨origin, published.extend fun c same => different (Event.deleted.inj same).2.symm⟩
  | _ => exact before.advance (by simp) rfl

/-- A sealed entry survives every careful step but a delete of its id. -/
theorem sealed_entry_step (step : Guarded Careful Step s event t)
    (present : s.server.objects.lookup object = some entry) (isSealed : entry.isSealed = true)
    (kept : ∀ client, event ≠ .deleted client object) :
    t.server.objects.lookup object = some entry := by
  obtain ⟨careful, step⟩ := step
  cases step with
  | allocMetadata found allocated =>
    rw [System.move_server, (Server.createAlloc_ok allocated).2.2.2, present]
  | allocData found allocated =>
    rw [System.move_server, (Server.createAlloc_ok allocated).2.2.2, present]
  | @insert client call metadataOffset dataOffset info server found inserted =>
    simp only [Server.createInsert, Prod.mk.injEq, Response.created.injEq] at inserted
    obtain ⟨rfl, rfl⟩ := inserted
    have different : object ≠ call.id := by
      rintro rfl
      exact absurd (careful entry present) (by simp [isSealed])
    simp only [System.move_server, FiniteMap.lookup_insert, if_neg different, present]
  | @sealRequest client call info reply server found answered =>
    simp only [Server.handleSeal] at answered
    split at answered
    · cases answered
      exact present
    · rename_i old present'
      split at answered
      · cases answered
        exact present
      · rename_i notSealed
        cases answered
        have different : object ≠ call.id := by
          rintro rfl
          cases present.symm.trans present'
          exact notSealed isSealed
        simp only [System.move_server, FiniteMap.lookup_insert, if_neg different, present]
  | @delete client other found =>
    have different : object ≠ other := by
      rintro rfl
      exact kept client rfl
    simp only [System.move_server, Server.handleDelete, FiniteMap.lookup_erase, if_neg different,
      present]
  | _ => exact present

structure Intact (path : List Event) (s : System) : Prop where
  separate : Separate path s
  written : Written path s
  backed : Backed path s

theorem intact_start (started : Server.start capacity = .ok server) :
    Intact [] (System.start server) := by
  have none_finished : ∀ region, ¬ Finished [] region := by
    rintro region ⟨_, _, _, member, _⟩
    cases member
  refine ⟨⟨by simp [System.start, Phase.held], by simp [System.start, Phase.held],
    fun region done => absurd done (none_finished region), fun region done =>
    absurd done (none_finished region)⟩, ⟨by simp [System.start, Owned], by simp⟩, ?_⟩
  intro object entry present
  simp only [Server.start, Arena.create] at started
  split at started
  · cases started
    cases present
  · cases started

theorem intact_run (started : Server.start capacity = .ok server)
    (run : Run (Guarded Careful Step) (System.start server) path s) : Intact path s :=
  run.traced (fun before step =>
    ⟨separate_step before.separate step.2, written_step before.separate before.written step.2,
      backed_step before.written before.backed step⟩) (intact_start started)

/-- Along careful runs a `Get` answer stands for one call's bytes, however much
later its handle is read, and a sealed entry stays as it is until it is deleted. -/
theorem careful_objects_intact (started : Server.start capacity = .ok server)
    (run : Run (Guarded Careful Step) (System.start server) path s) :
    (∀ object info, s.server.handleGet object = .got info →
      ∃ call, Published path object info.metadata info.data call ∧
        ∀ later t, Run (Guarded Careful Step) s later t →
          t.server.view info = (call.metadata, call.data)) ∧
    (∀ object entry, s.server.objects.lookup object = some entry → entry.isSealed = true →
      ∀ event t, Guarded Careful Step s event t → (∀ client, event ≠ .deleted client object) →
        t.server.objects.lookup object = some entry) := by
  constructor
  · intro object info answered
    obtain ⟨entry, present, isSealed, rfl⟩ := Server.handleGet_got answered
    obtain ⟨call, published⟩ := (intact_run started run).backed object entry present isSealed
    refine ⟨call, published, ?_⟩
    intro later t continued
    obtain ⟨before, after, client, slot, split, wrote, _, slotMetadata, slotData, _⟩ := published
    have whole := (intact_run started (run.trans continued)).written.finished client call slot
      (by simp [split, wrote])
    rw [Server.view, slotMetadata, slotData] at whole
    exact whole
  · intro object entry present isSealed event t step kept
    exact sealed_entry_step step present isSealed kept

section Samples

def sampleServer : Server := ⟨⟨0, 256, 0, by decide, by decide⟩, fun _ => 0, ∅⟩
def sampleObject : ObjectId := Id.nil 28
def firstCall : Call := ⟨sampleObject, [1], [10, 11]⟩
def secondCall : Call := ⟨sampleObject, [1], [20]⟩
def firstSlot : SlotInfo := ⟨0, 256, 0, 1, 16, 2, false⟩
def secondSlot : SlotInfo := ⟨0, 256, 32, 1, 48, 1, false⟩

theorem single_call_run :
    ∃ path s, Run (Guarded Careful Step) (System.start sampleServer) path s ∧
      s.server.handleGet sampleObject = .got { firstSlot with isSealed := true } := by
  have run : Run (Guarded Careful Step) (System.start sampleServer) [] _ := .refl
  have run := run.next (a := Event.started 0 firstCall) ⟨trivial, .start rfl⟩
  have run := run.next (a := Event.checked 0 firstCall) ⟨trivial, .checkPassed rfl rfl⟩
  have run := run.next (a := Event.allocated 0 firstCall) ⟨trivial, .allocMetadata rfl rfl⟩
  have run := run.next (a := Event.allocated 0 firstCall) ⟨trivial, .allocData rfl rfl⟩
  have run := run.next (a := Event.inserted 0 firstCall firstSlot) ⟨nofun, .insert rfl rfl⟩
  have run := run.next (a := Event.wroteMetadata 0 firstCall firstSlot) ⟨trivial, .writeMetadata rfl⟩
  have run := run.next (a := Event.wrote 0 firstCall firstSlot) ⟨trivial, .writeData rfl⟩
  have run := run.next (a := Event.sealed 0 firstCall firstSlot .ok)
    ⟨fun entry found _ => by cases found; rfl, .sealRequest rfl rfl⟩
  exact ⟨_, _, run, rfl⟩

theorem single_call_intact :
    ∃ path s call, Run (Guarded Careful Step) (System.start sampleServer) path s ∧
      Published path sampleObject firstSlot.metadata firstSlot.data call ∧
      s.server.view firstSlot = (call.metadata, call.data) := by
  obtain ⟨path, s, run, answered⟩ := single_call_run
  have started : Server.start 256 = .ok sampleServer := rfl
  obtain ⟨call, published, bytes⟩ :=
    (careful_objects_intact started run).1 sampleObject _ answered
  exact ⟨path, s, call, run, published, bytes [] s .refl⟩

/-- Two clients create one id at once. The second insert replaces the first
entry, and the first client's seal then publishes a slot nobody has written. -/
theorem racing_creates_unwritten :
    ∃ path s info, Run Step (System.start sampleServer) path s ∧
      s.server.handleGet sampleObject = .got info ∧
      ∀ client call, .started client call ∈ path → s.server.view info ≠ (call.metadata, call.data) := by
  have run : Run Step (System.start sampleServer) [] _ := .refl
  have run := run.next (a := Event.started 0 firstCall) (.start rfl)
  have run := run.next (a := Event.started 1 secondCall) (.start rfl)
  have run := run.next (a := Event.checked 0 firstCall) (.checkPassed rfl rfl)
  have run := run.next (a := Event.checked 1 secondCall) (.checkPassed rfl rfl)
  have run := run.next (a := Event.allocated 0 firstCall) (.allocMetadata rfl rfl)
  have run := run.next (a := Event.allocated 0 firstCall) (.allocData rfl rfl)
  have run := run.next (a := Event.inserted 0 firstCall firstSlot) (.insert rfl rfl)
  have run := run.next (a := Event.wroteMetadata 0 firstCall firstSlot) (.writeMetadata rfl)
  have run := run.next (a := Event.wrote 0 firstCall firstSlot) (.writeData rfl)
  have run := run.next (a := Event.allocated 1 secondCall) (.allocMetadata rfl rfl)
  have run := run.next (a := Event.allocated 1 secondCall) (.allocData rfl rfl)
  have run := run.next (a := Event.inserted 1 secondCall secondSlot) (.insert rfl rfl)
  have run := run.next (a := Event.sealed 0 firstCall firstSlot .ok) (.sealRequest rfl rfl)
  refine ⟨_, _, { secondSlot with isSealed := true }, run, rfl, ?_⟩
  have unwritten : ∀ {s : System}, s.server.view { secondSlot with isSealed := true } = ([0], [0]) →
      ∀ client call, Event.started client call ∈ [.started 0 firstCall, .started 1 secondCall] →
        s.server.view { secondSlot with isSealed := true } ≠ (call.metadata, call.data) := by
    intro s zeros client call member same
    simp only [List.mem_cons, Event.started.injEq, List.not_mem_nil, or_false] at member
    rcases member with ⟨_, rfl⟩ | ⟨_, rfl⟩ <;> rw [zeros] at same <;> cases same
  intro client call member
  exact unwritten rfl client call (by simpa using member)

end Samples

end Rayd.Plasma.Interleaving
