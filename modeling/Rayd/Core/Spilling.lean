import Rayd.Core.Concurrent

/-! Why spilling is invisible to readers. At every point of every interleaving a
sealed value has a complete copy in plasma or on disk with its directory entry:
the plasma copy is deleted only after the entry is in place, and neither the entry
nor the file is ever taken away. -/
namespace Rayd.Core
open Memory Plasma Spill Threads Transition

def Sealing.stored (value : Sealing) : RestoredObject := ⟨value.metadata.encode, value.data⟩

def Sealing.object (value : Sealing) : Object := ⟨value.metadata.encode, value.data, true⟩

namespace Shared

def Given (s : Shared) (value : Sealing) : Prop := s.given value.id = some value

def Listed (s : Shared) (value : Sealing) : Prop :=
  s.session.worker.store.getEntry value.id = some (.plasma value.index)

def Held (s : Shared) (value : Sealing) : Prop :=
  s.session.plasma.objects.lookup value.id = some value.object ∧ value.data.length < 2 ^ 64

/-- The file is complete and this is its url. -/
def Written (s : Shared) (value : Sealing) (url : Text) : Prop :=
  ∃ manager, s.session.worker.recoverer = some manager ∧
    manager.backend.Holds value.id value.stored ∧
    url = LocalFsBackend.urlFor (manager.backend.pathFor value.id)

/-- The file is complete and the directory leads to it. -/
def Kept (s : Shared) (value : Sealing) : Prop :=
  ∃ manager, s.session.worker.recoverer = some manager ∧ manager.Keeps value.id value.stored

/-- A reader can get at the value. -/
def Safe (s : Shared) (value : Sealing) : Prop := s.Held value ∨ s.Kept value

/-- What no step takes away from a value that was given to a seal. -/
structure Rely (s t : Shared) : Prop where
  given : ∀ value, s.Given value → t.Given value
  listed : ∀ value, s.Given value → s.Listed value → t.Listed value
  written : ∀ value url, s.Given value → s.Written value url → t.Written value url
  kept : ∀ value, s.Given value → s.Kept value → t.Kept value
  safe : ∀ value, s.Given value → s.Safe value → t.Safe value

/-- Everything in plasma and in the index belongs to a value given to a seal. -/
structure Intact (s : Shared) : Prop where
  objects : ∀ id object, s.session.plasma.objects.lookup id = some object →
    ∃ value, value.id = id ∧ s.Given value ∧ object = value.object ∧ value.data.length < 2 ^ 64
  entries : ∀ id entry, s.session.worker.store.getEntry id = some entry →
    ∃ value, value.id = id ∧ s.Given value ∧ entry = .plasma value.index ∧ s.Safe value
  returned : ∀ id value, s.returned id = some value → value.id = id ∧ s.Given value ∧ s.Listed value

theorem Given.unique {s : Shared} (first : s.Given value) (second : s.Given other)
    (same : value.id = other.id) : value = other := by
  have both := first.symm.trans ((congrArg s.given same).trans second)
  exact Option.some.inj both

theorem Rely.refl (s : Shared) : Rely s s :=
  ⟨fun _ h => h, fun _ _ h => h, fun _ _ _ h => h, fun _ _ h => h, fun _ _ h => h⟩

theorem Rely.trans (first : Rely s t) (second : Rely t u) : Rely s u where
  given value given := second.given value (first.given value given)
  listed value given listed := second.listed value (first.given value given) (first.listed value given listed)
  written value url given written :=
    second.written value url (first.given value given) (first.written value url given written)
  kept value given kept := second.kept value (first.given value given) (first.kept value given kept)
  safe value given safe := second.safe value (first.given value given) (first.safe value given safe)

end Shared

section Assertions
open Shared

def Spiller.Sound (s : Shared) : Spiller → Prop
  | .request => True
  | .pressure value .. => s.Given value ∧ s.Listed value

/-- What a thread knows in each phase. -/
def Phase.Sound (s : Shared) : Phase → Prop
  | .create value => s.Given value
  | .putIndex value => s.Given value ∧ s.Safe value
  | .pin value | .listEntries value | .spillNext value .. => s.Given value ∧ s.Listed value
  | .readCopy _ spiller => spiller.Sound s
  | .writeFile id object spiller => spiller.Sound s ∧
      ∃ value, value.id = id ∧ s.Given value ∧ object = value.stored ∧ value.data.length < 2 ^ 64
  | .recordUrl id url spiller => spiller.Sound s ∧
      ∃ value, value.id = id ∧ s.Given value ∧ s.Written value url
  | .deleteCopy id spiller => spiller.Sound s ∧ ∃ value, value.id = id ∧ s.Given value ∧ s.Kept value
  | .read id index => ∃ value, value.id = id ∧ s.Given value ∧ index = value.index ∧ s.Safe value
  | .findUrl id index => ∃ value, value.id = id ∧ s.Given value ∧ index = value.index ∧ s.Kept value
  | .restore id index url =>
      ∃ value, value.id = id ∧ s.Given value ∧ index = value.index ∧ s.Written value url
  | .purge .. => False
  | .reseal id index object => ∃ value, value.id = id ∧ s.Given value ∧ index = value.index ∧
      object = value.stored ∧ value.data.length < 2 ^ 64
  | .sealReturned value result => (∃ size, result = .ok size) → s.Given value ∧ s.Listed value
  | .idle | .lookUp _ | .spillReturned .. | .resolved .. => True

theorem Spiller.Sound.stable (rely : Rely s t) {spiller : Spiller} (sound : spiller.Sound s) :
    spiller.Sound t := by
  cases spiller with
  | request => trivial
  | pressure value => exact ⟨rely.given value sound.1, rely.listed value sound.1 sound.2⟩

theorem Phase.Sound.stable (rely : Rely s t) {phase : Phase} (sound : phase.Sound s) :
    phase.Sound t := by
  cases phase with
  | idle | lookUp | spillReturned | resolved => trivial
  | create value => exact rely.given value sound
  | putIndex value => exact ⟨rely.given value sound.1, rely.safe value sound.1 sound.2⟩
  | pin value | listEntries value | spillNext value =>
    exact ⟨rely.given value sound.1, rely.listed value sound.1 sound.2⟩
  | readCopy id spiller => exact Spiller.Sound.stable rely sound
  | writeFile id object spiller =>
    obtain ⟨spiller, value, named, given, rest⟩ := sound
    exact ⟨spiller.stable rely, value, named, rely.given value given, rest⟩
  | recordUrl id url spiller =>
    obtain ⟨spiller, value, named, given, written⟩ := sound
    exact ⟨spiller.stable rely, value, named, rely.given value given, rely.written value url given written⟩
  | deleteCopy id spiller =>
    obtain ⟨spiller, value, named, given, kept⟩ := sound
    exact ⟨spiller.stable rely, value, named, rely.given value given, rely.kept value given kept⟩
  | read id index =>
    obtain ⟨value, named, given, same, safe⟩ := sound
    exact ⟨value, named, rely.given value given, same, rely.safe value given safe⟩
  | findUrl id index =>
    obtain ⟨value, named, given, same, kept⟩ := sound
    exact ⟨value, named, rely.given value given, same, rely.kept value given kept⟩
  | restore id index url =>
    obtain ⟨value, named, given, same, written⟩ := sound
    exact ⟨value, named, rely.given value given, same, rely.written value url given written⟩
  | purge => exact sound
  | reseal id index object =>
    obtain ⟨value, named, given, rest⟩ := sound
    exact ⟨value, named, rely.given value given, rest⟩
  | sealReturned value result =>
    intro done
    obtain ⟨given, listed⟩ := sound done
    exact ⟨rely.given value given, rely.listed value given listed⟩

end Assertions

namespace Shared
variable {s t : Shared} {session : Session} {value : Sealing}

theorem Intact.carry (intact : s.Intact) (rely : Rely s t)
    (objects : ∀ id object, t.session.plasma.objects.lookup id = some object →
      s.session.plasma.objects.lookup id = some object)
    (store : t.session.worker.store = s.session.worker.store) (returned : t.returned = s.returned) :
    t.Intact := by
  refine ⟨fun id object found => ?_, fun id entry found => ?_, fun id value back => ?_⟩
  · obtain ⟨value, named, given, rest⟩ := intact.objects id object (objects id object found)
    exact ⟨value, named, rely.given value given, rest⟩
  · rw [store] at found
    obtain ⟨value, named, given, same, safe⟩ := intact.entries id entry found
    exact ⟨value, named, rely.given value given, same, rely.safe value given safe⟩
  · rw [returned] at back
    obtain ⟨named, given, listed⟩ := intact.returned id value back
    exact ⟨named, rely.given value given, rely.listed value given listed⟩

theorem Rely.move (listed : ∀ value, s.Given value → s.Listed value → (s.move session).Listed value)
    (written : ∀ value url, s.Given value → s.Written value url → (s.move session).Written value url)
    (kept : ∀ value, s.Given value → s.Kept value → (s.move session).Kept value)
    (held : ∀ value, s.Given value → s.Held value → (s.move session).Safe value) :
    Rely s (s.move session) := by
  refine ⟨fun _ given => given, listed, written, kept, fun value given safe => ?_⟩
  rcases safe with here | there
  · exact held value given here
  · exact .inr (kept value given there)

theorem same_step (intact : s.Intact) (session : Session)
    (recoverer : session.worker.recoverer = s.session.worker.recoverer)
    (store : session.worker.store = s.session.worker.store)
    (objects : session.plasma.objects = s.session.plasma.objects) :
    (s.move session).Intact ∧ Rely s (s.move session) := by
  have rely : Rely s (s.move session) := by
    refine .move (fun value _ => ?_) (fun value url _ => ?_) (fun value _ => ?_) fun value _ here => .inl ?_
    · simp only [Listed, Shared.move, store, imp_self]
    · simp only [Written, Shared.move, recoverer, imp_self]
    · simp only [Kept, Shared.move, recoverer, imp_self]
    · simpa only [Held, Shared.move, objects] using here
  exact ⟨intact.carry rely (fun id object found => objects ▸ found) store rfl, rely⟩

theorem hold_step (intact : s.Intact) (given : s.Given value) (small : value.data.length < 2 ^ 64)
    (session : Session) (worker : session.worker = s.session.worker)
    (objects : session.plasma.objects = s.session.plasma.objects.insert value.id value.object) :
    (s.move session).Intact ∧ Rely s (s.move session) ∧ (s.move session).Held value := by
  have lookup : ∀ id, session.plasma.objects.lookup id =
      if id = value.id then some value.object else s.session.plasma.objects.lookup id := by
    intro id
    rw [objects, FiniteMap.lookup_insert]
  have rely : Rely s (s.move session) := by
    refine .move (fun other _ => ?_) (fun other url _ => ?_) (fun other _ => ?_)
      fun other owner here => .inl ⟨?_, here.2⟩
    · simp only [Listed, Shared.move, worker, imp_self]
    · simp only [Written, Shared.move, worker, imp_self]
    · simp only [Kept, Shared.move, worker, imp_self]
    · refine (lookup other.id).trans ?_
      split
      · rename_i same
        rw [given.unique owner same.symm]
      · exact here.1
  refine ⟨⟨fun id object found => ?_, fun id entry found => ?_, fun id other back => ?_⟩, rely,
    (lookup value.id).trans (if_pos rfl), small⟩
  · have found : session.plasma.objects.lookup id = some object := found
    rw [lookup] at found
    split at found
    · rename_i same
      exact ⟨value, same.symm, given, (Option.some.inj found).symm, small⟩
    · exact intact.objects id object found
  · have found : session.worker.store.getEntry id = some entry := found
    rw [worker] at found
    obtain ⟨other, named, owner, same, safe⟩ := intact.entries id entry found
    exact ⟨other, named, owner, same, rely.safe other owner safe⟩
  · obtain ⟨named, owner, listed⟩ := intact.returned id other back
    exact ⟨named, owner, rely.listed other owner listed⟩

theorem list_step (intact : s.Intact) (given : s.Given value) (safe : s.Safe value) :
    (s.move (s.session.putPlasma value.id value.index)).Intact ∧
      Rely s (s.move (s.session.putPlasma value.id value.index)) ∧
      (s.move (s.session.putPlasma value.id value.index)).Listed value := by
  have entries : ∀ id, (s.session.putPlasma value.id value.index).worker.store.getEntry id =
      if id = value.id then some (.plasma value.index) else s.session.worker.store.getEntry id :=
    fun id => MemoryStore.getEntry_putPlasma _ _ _ _
  have rely : Rely s (s.move (s.session.putPlasma value.id value.index)) := by
    refine .move (fun other owner listed => ?_) (fun _ _ _ written => written) (fun _ _ kept => kept)
      fun _ _ here => .inl here
    refine (entries other.id).trans ?_
    split
    · rename_i same
      rw [given.unique owner same.symm]
    · exact listed
  refine ⟨⟨intact.objects, fun id entry found => ?_, fun id other back => ?_⟩, rely,
    (entries value.id).trans (if_pos rfl)⟩
  · have found := (entries id).symm.trans found
    split at found
    · rename_i same
      exact ⟨value, same.symm, given, (Option.some.inj found).symm, rely.safe value given safe⟩
    · obtain ⟨other, named, owner, same, safe⟩ := intact.entries id entry found
      exact ⟨other, named, owner, same, rely.safe other owner safe⟩
  · obtain ⟨named, owner, listed⟩ := intact.returned id other back
    exact ⟨named, owner, rely.listed other owner listed⟩

theorem encode_small (metadata : Metadata) : metadata.encode.length < 2 ^ 32 :=
  lt_of_le_of_lt metadata.encode_length_le (by decide)

theorem write_step (intact : s.Intact) (given : s.Given value) (small : value.data.length < 2 ^ 64)
    (registered : s.session.worker.recoverer = some manager)
    (spilled : manager.backend.spill value.id value.stored.metadata value.stored.data = (.ok url, backend)) :
    (s.move (s.session.withManager { manager with backend })).Intact ∧
      Rely s (s.move (s.session.withManager { manager with backend })) ∧
      (s.move (s.session.withManager { manager with backend })).Written value url := by
  have encoded := encode_small value.metadata
  have paths : ∀ id, backend.pathFor id = manager.backend.pathFor id := by
    intro id
    have same := manager.backend.spill_pathFor value.id id value.stored.metadata value.stored.data
    rwa [spilled] at same
  have file : backend.Holds value.id value.stored := by
    have holds := manager.backend.spill_holds value.id value.stored encoded small
    rwa [spilled] at holds
  have files : ∀ other, s.Given other → manager.backend.Holds other.id other.stored →
      backend.Holds other.id other.stored := by
    intro other owner holds
    by_cases same : other.id = value.id
    · rwa [owner.unique given same]
    · have keeps := LocalFsBackend.spill_keeps same holds value.stored.metadata value.stored.data encoded
      rwa [spilled] at keeps
  have rely : Rely s (s.move (s.session.withManager { manager with backend })) := by
    refine .move (fun _ _ listed => listed) (fun other link owner written => ?_)
      (fun other owner kept => ?_) fun _ _ here => .inl here
    · obtain ⟨old, before, holds, same⟩ := written
      cases registered.symm.trans before
      exact ⟨_, rfl, files other owner holds, same.trans (by rw [paths])⟩
    · obtain ⟨old, before, listed, holds⟩ := kept
      cases registered.symm.trans before
      exact ⟨_, rfl, listed.trans (by rw [paths]), files other owner holds⟩
  refine ⟨intact.carry rely (fun _ _ found => found) rfl rfl, rely, _, rfl, file, ?_⟩
  have answer := manager.backend.spill_ok value.id value.stored.metadata value.stored.data encoded
  rw [spilled] at answer
  rw [paths]
  exact Except.ok.inj answer

theorem record_step (intact : s.Intact) (given : s.Given value)
    (registered : s.session.worker.recoverer = some manager) (written : s.Written value url) :
    (s.move (s.session.withManager (manager.record value.id url))).Intact ∧
      Rely s (s.move (s.session.withManager (manager.record value.id url))) ∧
      (s.move (s.session.withManager (manager.record value.id url))).Kept value := by
  obtain ⟨old, before, file, leads⟩ := written
  cases registered.symm.trans before
  have directory : ∀ id, (manager.record value.id url).directory.lookup id =
      if id = value.id then some url else manager.directory.lookup id :=
    fun id => FiniteMap.lookup_insert _ _ _ _
  have kept : (s.move (s.session.withManager (manager.record value.id url))).Kept value :=
    ⟨_, rfl, (directory value.id).trans ((if_pos rfl).trans (congrArg some leads)), file⟩
  have rely : Rely s (s.move (s.session.withManager (manager.record value.id url))) := by
    refine .move (fun _ _ listed => listed) (fun other link owner written => ?_)
      (fun other owner before => ?_) fun _ _ here => .inl here
    · obtain ⟨old, found, holds, same⟩ := written
      cases registered.symm.trans found
      exact ⟨_, rfl, holds, same⟩
    · by_cases same : other.id = value.id
      · rw [owner.unique given same]
        exact kept
      · obtain ⟨old, found, listed, holds⟩ := before
        cases registered.symm.trans found
        exact ⟨_, rfl, (directory other.id).trans ((if_neg same).trans listed), holds⟩
  exact ⟨intact.carry rely (fun _ _ found => found) rfl rfl, rely, kept⟩

theorem delete_step (intact : s.Intact) (given : s.Given value) (kept : s.Kept value) :
    (s.move { s.session with plasma := s.session.plasma.delete value.id }).Intact ∧
      Rely s (s.move { s.session with plasma := s.session.plasma.delete value.id }) := by
  have lookup := s.session.plasma.lookup_delete value.id
  have rely : Rely s (s.move { s.session with plasma := s.session.plasma.delete value.id }) := by
    refine .move (fun _ _ listed => listed) (fun _ _ _ written => written) (fun _ _ kept => kept)
      fun other owner here => ?_
    by_cases same : other.id = value.id
    · rw [owner.unique given same]
      exact .inr kept
    · exact .inl ⟨(lookup other.id).trans ((if_neg same).trans here.1), here.2⟩
  refine ⟨intact.carry rely (fun id object found => ?_) rfl rfl, rely⟩
  have found := (lookup id).symm.trans found
  split at found
  · cases found
  · exact found

theorem give_step (intact : s.Intact) (fresh : s.given value.id = none) :
    (s.give value).Intact ∧ Rely s (s.give value) := by
  have rely : Rely s (s.give value) := by
    refine ⟨fun other owner => ?_, fun _ _ listed => listed, fun _ _ _ written => written,
      fun _ _ kept => kept, fun _ _ safe => safe⟩
    refine (Function.update_of_ne ?_ _ _).trans owner
    intro same
    cases fresh.symm.trans ((congrArg s.given same.symm).trans owner)
  exact ⟨intact.carry rely (fun _ _ found => found) rfl rfl, rely⟩

theorem note_step (intact : s.Intact) {phase : Phase} (sound : phase.Sound s) :
    (s.note phase).Intact ∧ Rely s (s.note phase) := by
  cases phase with
  | sealReturned value result =>
    cases result with
    | error failure => exact ⟨intact, .refl s⟩
    | ok size =>
      obtain ⟨given, listed⟩ := sound ⟨size, rfl⟩
      refine ⟨⟨intact.objects, intact.entries, fun id other back => ?_⟩, fun _ h => h, fun _ _ h => h,
        fun _ _ _ h => h, fun _ _ h => h, fun _ _ h => h⟩
      have back : Function.update s.returned value.id (some value) id = some other := back
      by_cases same : id = value.id
      · rw [same, Function.update_self] at back
        cases back
        exact ⟨same.symm, given, listed⟩
      · rw [Function.update_of_ne same] at back
        exact intact.returned id other back
  | _ => exact ⟨intact, .refl s⟩

end Shared

section Steps
open Shared
variable {s : Shared} {session : Session} {next : Phase} {id : ObjectId}

theorem afterSpill_sound {spiller : Spiller} (sound : spiller.Sound s) (id : ObjectId)
    (result : Except CoreError Bool) : (Phase.afterSpill id result spiller).Sound s := by
  cases spiller with
  | request => trivial
  | pressure value => cases result <;> exact sound

theorem unchanged (intact : s.Intact) (sound : next.Sound s) :
    (s.move s.session).Intact ∧ Rely s (s.move s.session) ∧ next.Sound (s.move s.session) :=
  ⟨intact, .refl s, sound⟩

/-- Plasma is asked to hold the value's bytes; whatever it answers, nothing is lost. -/
theorem createAndSeal_step (intact : s.Intact) (given : s.Given value)
    (call : s.session.createAndSeal value.id value.metadata.encode value.data = (reply, session)) :
    (s.move session).Intact ∧ Rely s (s.move session) ∧ (reply = .ok () → (s.move session).Held value) := by
  simp only [Session.createAndSeal] at call
  rcases s.session.plasma.createAndSeal_cases ⟨value.id, value.metadata.encode, value.data⟩ with
    ⟨_, answer⟩ | ⟨_, ⟨_, _, answer⟩ | ⟨room, _, answer⟩⟩ <;> rw [answer] at call <;>
    obtain ⟨rfl, sessions⟩ := Prod.mk.inj call
  · obtain ⟨intact, rely⟩ := same_step intact session (sessions ▸ rfl) (sessions ▸ rfl) (sessions ▸ rfl)
    refine ⟨intact, rely, fun done => ?_⟩
    cases done
  · obtain ⟨intact, rely⟩ := same_step intact session (sessions ▸ rfl) (sessions ▸ rfl) (sessions ▸ rfl)
    refine ⟨intact, rely, fun done => ?_⟩
    cases done
  · obtain ⟨intact, rely, held⟩ :=
      hold_step intact given (Store.room_data_lt room) session (sessions ▸ rfl) (sessions ▸ rfl)
    exact ⟨intact, rely, fun _ => held⟩

theorem create_sound (intact : s.Intact) (given : s.Given value)
    (moved : Session.advance (s.session, .create value) = (session, next)) :
    (s.move session).Intact ∧ Rely s (s.move session) ∧ next.Sound (s.move session) := by
  rcases call : s.session.createAndSeal value.id value.metadata.encode value.data with ⟨reply, t⟩
  obtain ⟨intact, rely, held⟩ := createAndSeal_step intact given call
  simp only [Session.advance, call] at moved
  cases reply with
  | error failure =>
    cases moved
    refine ⟨intact, rely, ?_⟩
    rintro ⟨_, done⟩
    cases done
  | ok _ =>
    cases moved
    exact ⟨intact, rely, rely.given value given, .inl (held rfl)⟩

theorem spillNext_sound (intact : s.Intact) (sound : (Phase.spillNext value current entries).Sound s)
    (moved : Session.advance (s.session, .spillNext value current entries) = (session, next)) :
    (s.move session).Intact ∧ Rely s (s.move session) ∧ next.Sound (s.move session) := by
  cases entries with
  | nil =>
    cases moved
    exact unchanged intact fun _ => sound
  | cons entry rest =>
    obtain ⟨id, index⟩ := entry
    simp only [Session.advance] at moved
    split at moved <;> cases moved
    · exact unchanged intact fun _ => sound
    · exact unchanged intact sound

theorem readCopy_sound (intact : s.Intact) {spiller : Spiller} (sound : spiller.Sound s)
    (moved : Session.advance (s.session, .readCopy id spiller) = (session, next)) :
    (s.move session).Intact ∧ Rely s (s.move session) ∧ next.Sound (s.move session) := by
  simp only [Session.advance] at moved
  split at moved
  · cases moved
    exact unchanged intact (afterSpill_sound sound _ _)
  · rcases s.session.plasma.get_cases id with ⟨_, found⟩ | ⟨_, _, _, found⟩ | ⟨object, here, _, found⟩ <;>
      simp only [found] at moved <;> cases moved
    · exact unchanged intact (afterSpill_sound sound _ _)
    · exact unchanged intact (afterSpill_sound sound _ _)
    · obtain ⟨value, named, given, rfl, small⟩ := intact.objects id object here
      exact unchanged intact ⟨sound, value, named, given, rfl, small⟩

theorem writeFile_sound (intact : s.Intact) (sound : (Phase.writeFile id object spiller).Sound s)
    (moved : Session.advance (s.session, .writeFile id object spiller) = (session, next)) :
    (s.move session).Intact ∧ Rely s (s.move session) ∧ next.Sound (s.move session) := by
  obtain ⟨spiller, value, rfl, given, rfl, small⟩ := sound
  simp only [Session.advance] at moved
  split at moved
  · cases moved
    exact unchanged intact (afterSpill_sound spiller _ _)
  · rename_i manager registered
    split at moved <;> rename_i spilled <;> cases moved
    · have answer := manager.backend.spill_ok value.id value.stored.metadata value.stored.data
        (encode_small value.metadata)
      rw [spilled] at answer
      cases answer
    · obtain ⟨intact, rely, written⟩ := write_step intact given small registered spilled
      exact ⟨intact, rely, spiller.stable rely, value, rfl, rely.given value given, written⟩

theorem recordUrl_sound (intact : s.Intact) (sound : (Phase.recordUrl id url spiller).Sound s)
    (moved : Session.advance (s.session, .recordUrl id url spiller) = (session, next)) :
    (s.move session).Intact ∧ Rely s (s.move session) ∧ next.Sound (s.move session) := by
  obtain ⟨spiller, value, rfl, given, written⟩ := sound
  simp only [Session.advance] at moved
  split at moved <;> cases moved
  · exact unchanged intact (afterSpill_sound spiller _ _)
  · rename_i manager registered
    obtain ⟨intact, rely, kept⟩ := record_step intact given registered written
    exact ⟨intact, rely, spiller.stable rely, value, rfl, rely.given value given, kept⟩

theorem read_sound (intact : s.Intact) (sound : (Phase.read id index).Sound s)
    (moved : Session.advance (s.session, .read id index) = (session, next)) :
    (s.move session).Intact ∧ Rely s (s.move session) ∧ next.Sound (s.move session) := by
  obtain ⟨value, rfl, given, same, safe⟩ := sound
  simp only [Session.advance] at moved
  rcases s.session.plasma.get_cases value.id with ⟨absent, found⟩ | ⟨_, _, _, found⟩ | ⟨_, _, _, found⟩ <;>
    simp only [found] at moved <;> cases moved
  · refine unchanged intact ⟨value, rfl, given, same, safe.resolve_left fun here => ?_⟩
    cases absent.symm.trans here.1
  · exact unchanged intact trivial
  · exact unchanged intact trivial

theorem findUrl_sound (intact : s.Intact) (sound : (Phase.findUrl id index).Sound s)
    (moved : Session.advance (s.session, .findUrl id index) = (session, next)) :
    (s.move session).Intact ∧ Rely s (s.move session) ∧ next.Sound (s.move session) := by
  obtain ⟨value, rfl, given, same, manager, registered, listed, file⟩ := sound
  simp only [Session.advance, registered, LocalObjectManager.spillUrl, listed] at moved
  cases moved
  exact unchanged intact ⟨value, rfl, given, same, manager, registered, file, rfl⟩

theorem restore_sound (intact : s.Intact) (sound : (Phase.restore id index url).Sound s)
    (moved : Session.advance (s.session, .restore id index url) = (session, next)) :
    (s.move session).Intact ∧ Rely s (s.move session) ∧ next.Sound (s.move session) := by
  obtain ⟨value, rfl, given, same, manager, registered, file, rfl⟩ := sound
  simp only [Session.advance, registered, LocalFsBackend.restore_holds file] at moved
  cases moved
  exact unchanged intact ⟨value, rfl, given, same, rfl, file.2.2⟩

theorem reseal_sound (intact : s.Intact) (sound : (Phase.reseal id index object).Sound s)
    (moved : Session.advance (s.session, .reseal id index object) = (session, next)) :
    (s.move session).Intact ∧ Rely s (s.move session) ∧ next.Sound (s.move session) := by
  obtain ⟨value, rfl, given, _, rfl, _⟩ := sound
  rcases call : s.session.createAndSeal value.id value.stored.metadata value.stored.data with ⟨reply, t⟩
  obtain ⟨intact, rely, _⟩ := createAndSeal_step intact given call
  simp only [Session.advance, call] at moved
  split at moved <;> rename_i answer <;> cases answer <;> cases moved <;> exact ⟨intact, rely, trivial⟩

theorem advance_sound (intact : s.Intact) {phase : Phase} (sound : phase.Sound s)
    (moved : Session.advance (s.session, phase) = (session, next)) :
    (s.move session).Intact ∧ Rely s (s.move session) ∧ next.Sound (s.move session) := by
  cases phase with
  | idle | sealReturned | spillReturned | resolved =>
    cases moved
    exact unchanged intact sound
  | create value => exact create_sound intact sound moved
  | putIndex value =>
    cases moved
    obtain ⟨intact, rely, listed⟩ := list_step intact sound.1 sound.2
    exact ⟨intact, rely, rely.given value sound.1, listed⟩
  | pin value =>
    cases moved
    obtain ⟨intact, rely⟩ := same_step intact (s.session.addOwned value.id) rfl rfl rfl
    exact ⟨intact, rely, Phase.Sound.stable rely sound⟩
  | listEntries value =>
    simp only [Session.advance] at moved
    split at moved <;> cases moved
    · exact unchanged intact fun _ => sound
    · exact unchanged intact sound
  | spillNext value current entries => exact spillNext_sound intact sound moved
  | readCopy id spiller => exact readCopy_sound intact sound moved
  | writeFile id object spiller => exact writeFile_sound intact sound moved
  | recordUrl id url spiller => exact recordUrl_sound intact sound moved
  | deleteCopy id spiller =>
    obtain ⟨spiller, value, rfl, given, kept⟩ := sound
    cases moved
    obtain ⟨intact, rely⟩ := delete_step intact given kept
    exact ⟨intact, rely, afterSpill_sound (spiller.stable rely) _ _⟩
  | lookUp id =>
    simp only [Session.advance] at moved
    split at moved <;> cases moved
    · exact unchanged intact trivial
    · exact unchanged intact trivial
    · rename_i index found
      obtain ⟨value, named, given, same, safe⟩ := intact.entries id _ found
      exact unchanged intact ⟨value, named, given, StoredEntry.plasma.inj same, safe⟩
  | read id index => exact read_sound intact sound moved
  | findUrl id index => exact findUrl_sound intact sound moved
  | restore id index url => exact restore_sound intact sound moved
  | purge => exact sound.elim
  | reseal id index object => exact reseal_sound intact sound moved

theorem own_sound (own : Own s phase a t next) (intact : s.Intact) (sound : phase.Sound s) :
    t.Intact ∧ next.Sound t ∧ Rely s t := by
  cases own with
  | sealValueToPlasma _ fresh =>
    obtain ⟨intact, rely⟩ := give_step intact fresh
    exact ⟨intact, Function.update_self _ _ _, rely⟩
  | spillToRecoverer => exact ⟨intact, trivial, .refl s⟩
  | resolveNow => exact ⟨intact, trivial, .refl s⟩
  | step _ moved =>
    obtain ⟨intact, rely, sound⟩ := advance_sound intact sound moved
    obtain ⟨intact, noted⟩ := note_step intact sound
    exact ⟨intact, sound.stable noted, rely.trans noted⟩
  | reorder same =>
    subst same
    exact ⟨intact, sound, .refl s⟩

end Steps

section Reading
open Shared
variable {s t : Shared} {value : Sealing} {steps : Nat} {session : Session} {next : Phase}

/-- Where a `resolve_now` of the value can be after so many steps of its own. -/
def Due (s : Shared) (value : Sealing) (steps : Nat) : Phase → Prop
  | .lookUp id => id = value.id ∧ steps = 0 ∧ s.Listed value
  | .read id _ => id = value.id ∧ steps = 1
  | .findUrl id _ => id = value.id ∧ steps = 2
  | .restore id _ _ => id = value.id ∧ steps = 3
  | .reseal id _ _ => id = value.id ∧ steps = 4
  | .resolved id result => id = value.id ∧ result = .ok (some ⟨value.metadata, value.data⟩)
  | _ => False

theorem Due.stable (rely : Rely s t) (given : s.Given value) {phase : Phase}
    (due : Due s value steps phase) : Due t value steps phase := by
  cases phase with
  | lookUp id => exact ⟨due.1, due.2.1, rely.listed value given due.2.2⟩
  | _ => exact due

theorem read_due (intact : s.Intact) (given : s.Given value) (sound : (Phase.read value.id index).Sound s)
    (moved : Session.advance (s.session, .read value.id index) = (session, next)) :
    Due t value 2 next := by
  obtain ⟨owner, named, owned, rfl, _⟩ := sound
  cases owned.unique given named
  simp only [Session.advance] at moved
  rcases s.session.plasma.get_cases value.id with
    ⟨_, found⟩ | ⟨object, here, unsealed, found⟩ | ⟨object, here, _, found⟩ <;>
    simp only [found] at moved <;> cases moved
  · exact ⟨rfl, rfl⟩
  · obtain ⟨_, _, _, rfl, _⟩ := intact.objects _ _ here
    cases unsealed
  · obtain ⟨other, same, owned, rfl, _⟩ := intact.objects _ _ here
    cases owned.unique given same
    exact ⟨rfl, rfl⟩

theorem reseal_due (given : s.Given value) (sound : (Phase.reseal value.id index object).Sound s)
    (fits : Fits s.session.plasma (.reseal value.id index object))
    (moved : Session.advance (s.session, .reseal value.id index object) = (session, next)) :
    Due t value steps next := by
  obtain ⟨owner, named, owned, rfl, rfl, _⟩ := sound
  cases owned.unique given named
  simp only [Session.advance, Session.createAndSeal] at moved
  rcases s.session.plasma.createAndSeal_cases ⟨value.id, value.stored.metadata, value.stored.data⟩ with
    ⟨_, reply⟩ | ⟨_, ⟨message, _, reply⟩ | ⟨_, _, reply⟩⟩
  · rw [reply] at moved
    cases moved
    exact ⟨rfl, rfl⟩
  · exact absurd (congrArg Prod.fst reply) (fits message)
  · rw [reply] at moved
    cases moved
    exact ⟨rfl, rfl⟩

/-- Room matters only to a reader that reseals. -/
theorem due_step (intact : s.Intact) (given : s.Given value) {phase : Phase} (sound : phase.Sound s)
    (fits : ∀ id index object, phase = .reseal id index object → Fits s.session.plasma phase)
    (running : phase.finished = false)
    (moved : Session.advance (s.session, phase) = (session, next)) (due : Due s value steps phase) :
    Due t value (steps + 1) next := by
  cases phase with
  | lookUp id =>
    obtain ⟨rfl, rfl, listed⟩ := due
    have listed : s.session.worker.store.getEntry value.id = some (.plasma value.index) := listed
    simp only [Session.advance, listed] at moved
    cases moved
    exact ⟨rfl, rfl⟩
  | read id index =>
    obtain ⟨rfl, rfl⟩ := due
    exact read_due intact given sound moved
  | findUrl id index =>
    obtain ⟨rfl, rfl⟩ := due
    obtain ⟨owner, named, _, _, manager, registered, listed, _⟩ := sound
    rw [named] at listed
    simp only [Session.advance, registered, LocalObjectManager.spillUrl, listed] at moved
    cases moved
    exact ⟨rfl, rfl⟩
  | restore id index url =>
    obtain ⟨rfl, rfl⟩ := due
    obtain ⟨owner, named, _, _, manager, registered, file, rfl⟩ := sound
    simp only [Session.advance, registered, LocalFsBackend.restore_holds file] at moved
    cases moved
    exact ⟨rfl, rfl⟩
  | reseal id index object =>
    obtain ⟨rfl, rfl⟩ := due
    exact reseal_due given sound (fits _ index object rfl) moved
  | resolved => cases running
  | _ => exact due.elim

theorem Due.outcome {phase : Phase} (due : Due s value steps phase) :
    phase = .resolved value.id (.ok (some ⟨value.metadata, value.data⟩)) ∨
      phase.finished = false ∧ steps < 5 := by
  cases phase with
  | lookUp => exact .inr ⟨rfl, by simp [due.2.1]⟩
  | read | findUrl | restore | reseal => exact .inr ⟨rfl, by simp [due.2]⟩
  | resolved =>
    obtain ⟨rfl, rfl⟩ := due
    exact .inl rfl
  | _ => exact due.elim

/-- A thread whose own steps so far all belong to one `resolve_now` of the value. -/
def Reading (value : Sealing) (labels : List Act) (s : Shared) (phase : Phase) : Prop :=
  s.Given value ∧ ((∀ a ∈ labels, a = .step) → Due s value labels.length phase)

theorem reading_own (own : Own s phase a t next)
    (fits : ∀ id index object, phase = .reseal id index object → Fits s.session.plasma phase)
    (intact : s.Intact) (sound : phase.Sound s) (reading : Reading value labels s phase) :
    Reading value (labels ++ [a]) t next := by
  obtain ⟨given, due⟩ := reading
  refine ⟨(own_sound own intact sound).2.2.given value given, fun steps => ?_⟩
  have due := due fun b member => steps b (List.mem_append_left _ member)
  have last := steps a (List.mem_append_right _ List.mem_cons_self)
  cases own with
  | sealValueToPlasma | spillToRecoverer | resolveNow => cases last
  | step running moved =>
    rw [List.length_append]
    exact due_step intact given sound fits running moved due
  | reorder same =>
    subst same
    exact due.elim

theorem reading_stable (rely : Rely s t) (reading : Reading value labels s phase) :
    Reading value labels t phase :=
  ⟨rely.given value reading.1, fun steps => (reading.2 steps).stable rely reading.1⟩

theorem reading_called {own : Shared → Phase → Act → Shared → Phase → Prop} {pool middle : Pool Shared Phase}
    (includes : ∀ {s p a t q}, own s p a t q → Own s p a t q)
    (called : Step own pool (thread, .call (.resolveNow value.id)) middle) (given : pool.shared.Given value)
    (listed : pool.shared.Listed value) :
    Reading value [] middle.shared (middle.threads thread) := by
  cases called with
  | act moved =>
    rw [Pool.set_self]
    cases includes moved with
    | resolveNow => exact ⟨given, fun _ => ⟨rfl, rfl, listed⟩⟩

theorem Reading.outcome {more : List (Nat × Act)} (reading : Reading value (ownLabels thread more) s phase)
    (own : ∀ operation, (thread, .call operation) ∉ more) :
    phase = .resolved value.id (.ok (some ⟨value.metadata, value.data⟩)) ∨
      phase.finished = false ∧ (ownLabels thread more).length < 5 := by
  refine (reading.2 fun a member => ?_).outcome
  cases a with
  | call operation => exact absurd (mem_ownLabels.mp member) (own operation)
  | step => rfl

end Reading

def sampleManager : LocalObjectManager := ⟨.empty 0, ∅⟩
def sampleValue : Sealing := ⟨.nil 28, .pickle5 false, [1, 2, 3]⟩
def samplePool : Pool Shared Phase :=
  startPool .newest (.nil 16) (some sampleManager) (2 ^ 64 - 1) .onePage

end Rayd.Core
