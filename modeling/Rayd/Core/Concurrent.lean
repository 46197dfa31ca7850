import Rayd.Core.Sealing
import Rayd.Lib.Threads

/-! Threads of one core worker, the only client of its plasma server. A phase
ends where the source gives up a lock: the plasma client's around a whole client
call, the memory store's, the counter's and the directory's. A file appears at
its rename and is read in one step. Run alone, the phases of a call amount to the
operation of the worker. The policy and the recoverer are set before the threads
start. -/
namespace Rayd.Core
open Memory Plasma Spill Threads

/-- On whose behalf an object is spilled. -/
inductive Spiller where
  | request
  /-- The pressure loop of this seal, with the size it expects to free. -/
  | pressure (value : Sealing) (dataSize current : Nat) (rest : List (ObjectId × PlasmaIndex))

inductive Phase where
  | idle
  | create (value : Sealing)
  | putIndex (value : Sealing)
  | pin (value : Sealing)
  | listEntries (value : Sealing)
  | spillNext (value : Sealing) (current : Nat) (entries : List (ObjectId × PlasmaIndex))
  | readCopy (id : ObjectId) (spiller : Spiller)
  | writeFile (id : ObjectId) (object : RestoredObject) (spiller : Spiller)
  | recordUrl (id : ObjectId) (url : Text) (spiller : Spiller)
  | deleteCopy (id : ObjectId) (spiller : Spiller)
  | lookUp (id : ObjectId)
  | read (id : ObjectId) (index : PlasmaIndex)
  | findUrl (id : ObjectId) (index : PlasmaIndex)
  | restore (id : ObjectId) (index : PlasmaIndex) (url : Text)
  /-- The file was missing or unreadable. -/
  | purge (id : ObjectId) (failure : SpillError)
  | reseal (id : ObjectId) (index : PlasmaIndex) (object : RestoredObject)
  | sealReturned (value : Sealing) (result : Except CoreError Nat)
  | spillReturned (id : ObjectId) (result : Except CoreError Bool)
  | resolved (id : ObjectId) (result : Except CoreError (Option RayObject))

namespace Phase

def finished : Phase → Bool
  | .idle | .sealReturned .. | .spillReturned .. | .resolved .. => true
  | _ => false

/-- `spill_to_recoverer` returns to its caller. -/
def afterSpill (id : ObjectId) (result : Except CoreError Bool) : Spiller → Phase
  | .request => .spillReturned id result
  | .pressure value dataSize current rest =>
    match result with
    | .ok _ => .spillNext value (current - dataSize) rest
    | .error _ => .spillNext value current rest

end Phase

def unregistered (id : ObjectId) : CoreError :=
  .recovery (hex id.bytes) "no recoverer registered".toList

def missing (id : ObjectId) (why : String) : CoreError :=
  .plasma (.server .notFound ("object " ++ String.ofList (hex id.bytes) ++ why))

namespace Session

def withManager (s : Session) (manager : LocalObjectManager) : Session :=
  { s with worker := { s.worker with recoverer := some manager } }

/-- One step of a thread. -/
def advance : Session × Phase → Session × Phase
  | (s, .create value) =>
    match s.createAndSeal value.id value.metadata.encode value.data with
    | (.error failure, s) => (s, .sealReturned value (.error (.plasma failure)))
    | (.ok _, s) => (s, .putIndex value)
  | (s, .putIndex value) => (s.putPlasma value.id value.index, .pin value)
  | (s, .pin value) => (s.addOwned value.id, .listEntries value)
  | (s, .listEntries value) =>
    if s.worker.spillThreshold = 2 ^ 64 - 1 then (s, .sealReturned value (.ok value.data.length))
    else
      let entries := s.plasmaEntries
      (s, .spillNext value (entries.map fun entry => entry.2.dataSize).sum entries)
  | (s, .spillNext value _ []) => (s, .sealReturned value (.ok value.data.length))
  | (s, .spillNext value current ((id, index) :: rest)) =>
    if current ≤ s.worker.spillThreshold then (s, .sealReturned value (.ok value.data.length))
    else (s, .readCopy id (.pressure value index.dataSize current rest))
  | (s, .readCopy id spiller) =>
    match s.worker.recoverer with
    | none => (s, .afterSpill id (.error (unregistered id)) spiller)
    | some _ =>
      match s.plasma.get id with
      | .error (.server .notFound _) => (s, .afterSpill id (.ok false) spiller)
      | .error failure => (s, .afterSpill id (.error (.plasma failure)) spiller)
      | .ok (metadata, data) => (s, .writeFile id ⟨metadata, data⟩ spiller)
  | (s, .writeFile id object spiller) =>
    match s.worker.recoverer with
    | none => (s, .afterSpill id (.error (unregistered id)) spiller)
    | some manager =>
      match manager.backend.spill id object.metadata object.data with
      | (.error failure, backend) =>
        (s.withManager { manager with backend },
          .afterSpill id (.error (.recovery (hex id.bytes)
            ("recoverer: spill store: ".toList ++ spillErrorText failure))) spiller)
      | (.ok url, backend) => (s.withManager { manager with backend }, .recordUrl id url spiller)
  | (s, .recordUrl id url spiller) =>
    match s.worker.recoverer with
    | none => (s, .afterSpill id (.error (unregistered id)) spiller)
    | some manager => (s.withManager (manager.record id url), .deleteCopy id spiller)
  | (s, .deleteCopy id spiller) =>
    ({ s with plasma := s.plasma.delete id }, .afterSpill id (.ok true) spiller)
  | (s, .lookUp id) =>
    match s.worker.store.getEntry id with
    | none => (s, .resolved id (.ok none))
    | some (.inline object) => (s, .resolved id (.ok (some object)))
    | some (.plasma index) => (s, .read id index)
  | (s, .read id index) =>
    match s.plasma.get id with
    | .ok (_, data) => (s, .resolved id (.ok (some ⟨index.metadata, data⟩)))
    | .error (.server .notFound _) => (s, .findUrl id index)
    | .error failure => (s, .resolved id (.error (.plasma failure)))
  | (s, .findUrl id index) =>
    match s.worker.recoverer with
    | none => (s, .resolved id (.error (missing id " not in plasma and no recoverer registered")))
    | some manager =>
      match manager.spillUrl id with
      | none => (s, .resolved id (.error (missing id " not in plasma and not held by any recoverer")))
      | some url => (s, .restore id index url)
  | (s, .restore id index url) =>
    match s.worker.recoverer with
    | none => (s, .resolved id (.error (missing id " not in plasma and no recoverer registered")))
    | some manager =>
      match manager.backend.restore url with
      | .ok object => (s, .reseal id index object)
      | .error failure => (s, .purge id failure)
  | (s, .purge id failure) =>
    match s.worker.recoverer with
    | none => (s, .resolved id (.error (missing id " not in plasma and no recoverer registered")))
    | some manager =>
      (s.withManager { manager with directory := manager.directory.erase id },
        .resolved id (.error (.recovery (hex id.bytes)
          ("spill restore: ".toList ++ spillErrorText failure))))
  | (s, .reseal id index object) =>
    match s.createAndSeal id object.metadata object.data with
    | (.ok _, s) | (.error (.server .alreadyExists _), s) =>
      (s, .resolved id (.ok (some ⟨index.metadata, object.data⟩)))
    | (.error failure, s) => (s, .resolved id (.error (.plasma failure)))
  | (s, phase) => (s, phase)

end Session

/-- What a thread comes to when no other thread runs in between. -/
def Alone (before after : Session × Phase) : Prop := ∃ count, Session.advance^[count] before = after

namespace Alone
variable {p q r : Session × Phase}

theorem refl (p : Session × Phase) : Alone p p := ⟨0, rfl⟩

theorem step (p : Session × Phase) : Alone p (Session.advance p) := ⟨1, rfl⟩

theorem trans (first : Alone p q) (second : Alone q r) : Alone p r := by
  obtain ⟨count, rfl⟩ := first
  obtain ⟨more, rfl⟩ := second
  exact ⟨more + count, Function.iterate_add_apply _ _ _ _⟩

end Alone

namespace Session
variable (s : Session) (id : ObjectId)

theorem spillToRecoverer_alone (spiller : Spiller) :
    Alone (s, .readCopy id spiller)
      ((s.spillToRecoverer id).2, .afterSpill id (s.spillToRecoverer id).1 spiller) := by
  refine .trans (.step _) ?_
  simp only [advance, spillToRecoverer]
  cases registered : s.worker.recoverer with
  | none => exact .refl _
  | some manager =>
    rcases s.plasma.get_cases id with ⟨_, found⟩ | ⟨_, _, _, found⟩ | ⟨object, _, _, found⟩ <;>
      simp only [found]
    · exact .refl _
    · exact .refl _
    · refine .trans (.step _) ?_
      simp only [advance, registered, LocalObjectManager.spill]
      rcases manager.backend.spill id _ _ with ⟨reply, backend⟩
      cases reply with
      | error failure => exact .refl _
      | ok url => exact .trans (.step _) (.step _)

theorem spillLoop_alone (value : Sealing) (entries : List (ObjectId × PlasmaIndex)) (current spilled : Nat) :
    Alone (s, .spillNext value current entries)
      ((s.spillLoop current spilled entries).2, .sealReturned value (.ok value.data.length)) := by
  induction entries generalizing s current spilled with
  | nil => exact .step _
  | cons entry rest ih =>
    obtain ⟨id, index⟩ := entry
    refine .trans (.step _) ?_
    simp only [advance, spillLoop]
    by_cases low : current ≤ s.worker.spillThreshold
    · rw [if_pos low, if_pos low]
      exact .refl _
    · rw [if_neg low, if_neg low]
      refine .trans (s.spillToRecoverer_alone id _) ?_
      rcases s.spillToRecoverer id with ⟨reply, t⟩
      cases reply with
      | error failure => exact ih t current spilled
      | ok moved =>
        cases moved with
        | true => exact ih t _ _
        | false => exact ih t _ _

/-- The loop compares before its first spill, as its caller does. -/
theorem spillLoop_low {s : Session} (low : current ≤ s.worker.spillThreshold)
    (entries : List (ObjectId × PlasmaIndex)) : s.spillLoop current spilled entries = (spilled, s) := by
  cases entries with
  | nil => rfl
  | cons entry rest => rw [spillLoop, if_pos low]

theorem maybeSpillForPressure_alone (value : Sealing) :
    Alone (s, .listEntries value)
      (s.maybeSpillForPressure.2, .sealReturned value (.ok value.data.length)) := by
  refine .trans (.step _) ?_
  simp only [advance, maybeSpillForPressure]
  by_cases disabled : s.worker.spillThreshold = 2 ^ 64 - 1
  · rw [if_pos disabled, if_pos disabled]
    exact .refl _
  · rw [if_neg disabled, if_neg disabled]
    have loop := s.spillLoop_alone value s.plasmaEntries
      (s.plasmaEntries.map fun entry => entry.2.dataSize).sum 0
    split
    · rename_i low
      rwa [spillLoop_low low] at loop
    · exact loop

theorem sealValueToPlasma_alone (value : Sealing) :
    Alone (s, .create value)
      ((s.sealValueToPlasma value.id value.metadata value.data).2,
        .sealReturned value (s.sealValueToPlasma value.id value.metadata value.data).1) := by
  refine .trans (.step _) ?_
  simp only [advance, sealValueToPlasma]
  rcases s.createAndSeal value.id value.metadata.encode value.data with ⟨reply, t⟩
  cases reply with
  | error failure => exact .refl _
  | ok _ => exact .trans (.step _) (.trans (.step _) (maybeSpillForPressure_alone _ value))

theorem recoverAndReseal_alone (index : PlasmaIndex) :
    Alone (s, .findUrl id index)
      ((s.recoverAndReseal id index).2, .resolved id ((s.recoverAndReseal id index).1.map some)) := by
  obtain ⟨⟨jobId, counter, store, refs, recoverer, threshold, walk⟩, plasma⟩ := s
  refine .trans (.step _) ?_
  cases recoverer with
  | none => exact .refl _
  | some manager =>
    simp only [advance, recoverAndReseal, LocalObjectManager.restore]
    cases manager.spillUrl id with
    | none => exact .refl _
    | some url =>
      refine .trans (.step _) ?_
      simp only [advance]
      cases manager.backend.restore url with
      | error failure => exact .step _
      | ok object =>
        refine .trans (.step _) ?_
        simp only [advance, createAndSeal]
        rcases plasma.createAndSeal_cases ⟨id, object.metadata, object.data⟩ with
          ⟨_, reply⟩ | ⟨_, ⟨_, _, reply⟩ | ⟨_, _, reply⟩⟩ <;> rw [reply] <;> exact .refl _

theorem resolveNow_alone :
    Alone (s, .lookUp id) ((s.resolveNow id).2, .resolved id (s.resolveNow id).1) := by
  refine .trans (.step _) ?_
  simp only [advance, resolveNow]
  cases s.worker.store.getEntry id with
  | none => exact .refl _
  | some entry =>
    cases entry with
    | inline object => exact .refl _
    | plasma index =>
      refine .trans (.step _) ?_
      simp only [advance, resolveEntry]
      rcases s.plasma.get_cases id with ⟨_, found⟩ | ⟨_, _, _, found⟩ | ⟨object, _, _, found⟩ <;>
        simp only [found]
      · exact s.recoverAndReseal_alone id index
      · exact .refl _
      · exact .refl _

end Session

inductive Operation where
  | sealValueToPlasma (value : Sealing)
  | spillToRecoverer (id : ObjectId)
  | resolveNow (id : ObjectId)

inductive Act where
  | call (operation : Operation)
  | step

/-- The session, and by id the values seals were called with and those of the
seals that have returned. -/
structure Shared where
  session : Session
  given : ObjectId → Option Sealing
  returned : ObjectId → Option Sealing

namespace Shared

def move (s : Shared) (session : Session) : Shared := { s with session }

def give (s : Shared) (value : Sealing) : Shared :=
  { s with given := Function.update s.given value.id (some value) }

/-- Notes a seal that has just returned. -/
def note (s : Shared) : Phase → Shared
  | .sealReturned value (.ok _) =>
    { s with returned := Function.update s.returned value.id (some value) }
  | _ => s

end Shared

inductive Own (s : Shared) (phase : Phase) : Act → Shared → Phase → Prop where
  /-- No id is given to two seals. -/
  | sealValueToPlasma : phase.finished = true → s.given value.id = none →
      Own s phase (.call (.sealValueToPlasma value)) (s.give value) (.create value)
  | spillToRecoverer : phase.finished = true →
      Own s phase (.call (.spillToRecoverer object)) s (.readCopy object .request)
  | resolveNow : phase.finished = true → Own s phase (.call (.resolveNow object)) s (.lookUp object)
  | step : phase.finished = false → Session.advance (s.session, phase) = (session, next) →
      Own s phase .step ((s.move session).note next) next
  /-- The pressure loop may come by the entries in any order. -/
  | reorder : phase = .listEntries value → s.session.worker.spillThreshold ≠ 2 ^ 64 - 1 →
      entries.Perm s.session.worker.store.plasmaEntries →
      Own s phase .step s (.spillNext value (entries.map fun entry => entry.2.dataSize).sum entries)

/-- Plasma does not answer `OutOfMemory` in this phase. -/
def Fits (plasma : Store) : Phase → Prop
  | .create value => ∀ message,
      (plasma.createAndSeal value.call).1 ≠ .error (.server .outOfMemory message)
  | .reseal id _ object => ∀ message,
      (plasma.createAndSeal ⟨id, object.metadata, object.data⟩).1 ≠ .error (.server .outOfMemory message)
  | _ => True

/-- The steps taken while plasma has room for what it is asked to hold. -/
def Roomy (s : Shared) (phase : Phase) (a : Act) (t : Shared) (next : Phase) : Prop :=
  Fits s.session.plasma phase ∧ Own s phase a t next

/-- A worker connected to a new plasma server; the spill directory may hold
anything. -/
def startPool (walk : Walk) (jobId : JobId) (recoverer : Option LocalObjectManager) (spillThreshold : Nat)
    (arena : Arena) : Pool Shared Phase :=
  ⟨⟨⟨.start walk jobId recoverer spillThreshold, ⟨arena, ∅⟩⟩, fun _ => none, fun _ => none⟩, fun _ => .idle⟩

end Rayd.Core
