import Rayd.Spill.Disk
import Rayd.Spill.ObjectManager

/-! The local object manager over a disk that may fail. A restore drops the entry on what
looks like the end of the file for good, and to the backend every failed read looks like
that. A forget takes the entry away before it asks for the removal of the file. -/
namespace Rayd.Spill
open Memory Urls Disk

/-- Entries are the urls of spills. -/
structure DiskManager where
  disk : Disk
  directory : FiniteMap ObjectId Text
  own : ∀ id url, directory.lookup id = some url → url = Root.urlFor (disk.root.pathFor id)

namespace DiskManager

/-- The directory insert that follows a successful backend spill. -/
def record (manager : DiskManager) (id : ObjectId) (url : Text) (disk : Disk)
    (root : disk.root = manager.disk.root) (own : url = Root.urlFor (disk.root.pathFor id)) : DiskManager where
  disk := disk
  directory := manager.directory.insert id url
  own other found entry := by
    rw [FiniteMap.lookup_insert] at entry
    split_ifs at entry with same
    · rw [← Option.some.inj entry, own, same]
    · rw [root]
      exact manager.own other found entry

def withDisk (manager : DiskManager) (disk : Disk) (root : disk.root = manager.disk.root) : DiskManager where
  disk := disk
  directory := manager.directory
  own id url entry := by
    rw [root]
    exact manager.own id url entry

def dropEntry (manager : DiskManager) (id : ObjectId) : DiskManager where
  disk := manager.disk
  directory := manager.directory.erase id
  own other url entry := by
    rw [FiniteMap.lookup_erase] at entry
    split_ifs at entry
    exact manager.own other url entry

def spill (manager : DiskManager) (id : ObjectId) (metadata data : Bytes) (outcomes : List Outcome) :
    Except DiskError Text × DiskManager :=
  match spilled : manager.disk.spill id metadata data outcomes with
  | (.ok url, disk) =>
    have done := spill_ok spilled
    (.ok url, manager.record id url disk done.1 (by rw [done.1, done.2.2.1]))
  | (.error problem, disk) => (.error problem, manager.withDisk disk (spill_error spilled).1)

/-- An entry whose file is missing or corrupt is dropped; any other error leaves it. -/
def restore (manager : DiskManager) (id : ObjectId) (opened : Option OtherError) (reads : List Read) :
    Answer (Option RestoredObject) × DiskManager :=
  match manager.directory.lookup id with
  | none => (.returned (.ok none), manager)
  | some url =>
    match manager.disk.restore url opened reads with
    | .returned (.ok object) => (.returned (.ok (some object)), manager)
    | .returned (.error (.io error)) => (.returned (.error (.io error)), manager)
    | .returned (.error problem) => (.returned (.error problem), manager.dropEntry id)
    | .panicked => (.panicked, manager)

def forget (manager : DiskManager) (id : ObjectId) (unlinked : Option OtherError) :
    Except DiskError Unit × DiskManager :=
  match manager.directory.lookup id with
  | none => (.ok (), manager)
  | some url =>
    ((manager.disk.remove url unlinked).1,
      (manager.dropEntry id).withDisk (manager.disk.remove url unlinked).2
        (manager.disk.remove_root url unlinked))

/-- One forget after the other, with what each finds the operating system to do. -/
def forgets (manager : DiskManager) (id : ObjectId) : List (Option OtherError) → DiskManager
  | [] => manager
  | unlinked :: rest => (manager.forget id unlinked).2.forgets id rest

section Restores
variable {manager : DiskManager} {id : ObjectId} {url : Text} {opened : Option OtherError} {reads : List Read}

theorem restore_kept (entry : manager.directory.lookup id = some url)
    (done : manager.disk.restore url opened reads = .returned (.ok object)) :
    manager.restore id opened reads = (.returned (.ok (some object)), manager) := by
  rw [restore, entry]
  simp only [done]

theorem restore_io (entry : manager.directory.lookup id = some url)
    (failed : manager.disk.restore url opened reads = .returned (.error (.io error))) :
    manager.restore id opened reads = (.returned (.error (.io error)), manager) := by
  rw [restore, entry]
  simp only [failed]

theorem restore_dropped {problem : DiskError} (entry : manager.directory.lookup id = some url)
    (failed : manager.disk.restore url opened reads = .returned (.error problem))
    (other : ∀ error, problem ≠ .io error) :
    manager.restore id opened reads = (.returned (.error problem), manager.dropEntry id) := by
  rw [restore, entry]
  simp only [failed]

theorem dropEntry_self (manager : DiskManager) (id : ObjectId) :
    (manager.dropEntry id).directory.lookup id = none :=
  (FiniteMap.lookup_erase ..).trans (if_pos rfl)

/-- The object's file, as far as it is a spill body. -/
def Stores (manager : DiskManager) (id : ObjectId) (object : RestoredObject) : Prop :=
  ∃ file, manager.disk.files.lookup (manager.disk.fileFor id) = some file ∧ Intact file object

/-- A restore takes an entry away only from a file that is missing or no spill body; the
entry of a good file outlives the failures of the operating system, and the object can be
restored after them. -/
structure Spares (manager : DiskManager) (id : ObjectId) (opened : Option OtherError) (reads : List Read) :
    Prop where
  purged : manager.directory.lookup id ≠ none →
    (manager.restore id opened reads).2.directory.lookup id = none → ∀ object, ¬ manager.Stores id object
  kept : ∀ url object, manager.directory.lookup id = some url → manager.Stores id object →
    opened ≠ none ∨ (∃ error, .failed error ∈ reads) →
    (manager.restore id opened reads).2.directory.lookup id = some url ∧
      ∀ later, Steady later →
        ((manager.restore id opened reads).2.restore id none later).1 = .returned (.ok (some object))

/-- A good file taken for a corrupt one: its url is refused, or one of the reads fails for
good. -/
def Misread (manager : DiskManager) (id : ObjectId) (opened : Option OtherError) (reads : List Read) : Prop :=
  manager.directory.lookup id ≠ none ∧
    ∃ file object, manager.disk.files.lookup (manager.disk.fileFor id) = some file ∧ Intact file object ∧
      (¬ manager.disk.root.Shown ∨ opened = none ∧ ∃ error, readBody file reads = .error (.io error))

theorem misread_purges (misread : manager.Misread id opened reads) :
    (manager.restore id opened reads).2.directory.lookup id = none := by
  obtain ⟨some, file, object, found, _, why⟩ := misread
  obtain ⟨url, entry⟩ := Option.ne_none_iff_exists'.mp some
  have corrupt : ∃ reason, manager.disk.restore url opened reads = .returned (.error (.corrupt url reason)) := by
    cases manager.own id url entry
    by_cases shown : manager.disk.root.Shown
    · obtain ⟨rfl, error, failed⟩ := why.resolve_left fun unshown => unshown shown
      rw [restore_found shown found, restoreBody, failed]
      exact ⟨_, rfl⟩
    · exact restore_unshown shown id opened reads
  obtain ⟨reason, failed⟩ := corrupt
  rw [restore_dropped entry failed fun _ same => by cases same]
  exact manager.dropEntry_self id

/-- Without a misread, a restore of a good file leaves everything as it is. -/
theorem restore_unchanged (entry : manager.directory.lookup id = some url) (stores : manager.Stores id object)
    (read : ¬ manager.Misread id opened reads) : (manager.restore id opened reads).2 = manager := by
  obtain ⟨file, found, intact⟩ := stores
  have some : manager.directory.lookup id ≠ none := entry ▸ Option.some_ne_none url
  have good : ¬ (¬ manager.disk.root.Shown ∨ opened = none ∧ ∃ error, readBody file reads = .error (.io error)) :=
    fun why => read ⟨some, file, object, found, intact, why⟩
  have shown : manager.disk.root.Shown := not_not.mp fun unshown => good (.inl unshown)
  cases manager.own id url entry
  cases opened with
  | some error => rw [restore_io entry (restore_unopened shown id error reads)]
  | none =>
    rcases readBody_intact intact reads with done | ⟨error, failed, _⟩
    · have whole := restore_found shown found reads
      rw [restoreBody, done] at whole
      rw [restore_kept entry whole]
    · exact absurd (.inr ⟨rfl, error, failed⟩) good

theorem restore_stores (entry : manager.directory.lookup id = some url) (stores : manager.Stores id object)
    (shown : manager.disk.root.Shown) (steady : Steady reads) :
    (manager.restore id none reads).1 = .returned (.ok (some object)) := by
  obtain ⟨file, found, intact⟩ := stores
  cases manager.own id url entry
  have done := (restore_found shown found reads).trans (restoreBody_steady intact steady _)
  rw [restore_kept entry done]

end Restores

/-- A restore spares what it should exactly if it does not misread a good file. -/
theorem restore_spares_iff (manager : DiskManager) (id : ObjectId) (opened : Option OtherError)
    (reads : List Read) : manager.Spares id opened reads ↔ ¬ manager.Misread id opened reads := by
  constructor
  · intro spares misread
    have gone := misread_purges misread
    obtain ⟨some, file, object, found, intact, _⟩ := misread
    exact spares.purged some gone object ⟨file, found, intact⟩
  · intro read
    constructor
    · intro some gone object stores
      obtain ⟨url, entry⟩ := Option.ne_none_iff_exists'.mp some
      rw [restore_unchanged entry stores read] at gone
      exact some gone
    · intro url object entry stores _
      rw [restore_unchanged entry stores read]
      have shown : manager.disk.root.Shown := by
        refine not_not.mp fun unshown => read ?_
        obtain ⟨file, found, intact⟩ := stores
        exact ⟨entry ▸ Option.some_ne_none url, file, object, found, intact, .inl unshown⟩
      exact ⟨entry, fun later steady => restore_stores entry stores shown steady⟩

/-- A manager under `/spill` that has spilled one object. -/
def holding (id : ObjectId) (object : RestoredObject) : DiskManager :=
  record ⟨⟨spillRoot, ∅, 0⟩, ∅, fun _ _ entry => by cases entry⟩ id (Root.urlFor (spillRoot.pathFor id))
    ⟨spillRoot,
      (∅ : FiniteMap (List Name) Bytes).insert (spillRoot.names ++ [Root.fileName id]) (encodeBody object), 1⟩
    rfl rfl

section Holding
variable (id : ObjectId) (object : RestoredObject)

theorem holding_entry :
    (holding id object).directory.lookup id = some (Root.urlFor (spillRoot.pathFor id)) :=
  FiniteMap.lookup_insert_self ..

theorem holding_file :
    (holding id object).disk.files.lookup ((holding id object).disk.fileFor id) = some (encodeBody object) :=
  FiniteMap.lookup_insert_self ..

end Holding

theorem spillRoot_shown : spillRoot.Shown := by
  intro name member
  rw [List.mem_singleton.mp member]
  exact ⟨_, rfl⟩

def oneByte : DiskManager := holding (.nil 28) ⟨[1, 0], [7]⟩

def brokenDevice : OtherError := ⟨⟨.other, "Input/output error".toList⟩, fun same => by cases same⟩

theorem failed_read_drops_entry :
    oneByte.Stores (.nil 28) ⟨[1, 0], [7]⟩ ∧ oneByte.directory.lookup (.nil 28) ≠ none ∧
    (oneByte.restore (.nil 28) none [.failed brokenDevice]).2.directory.lookup (.nil 28) = none ∧
    ∀ later, ((oneByte.restore (.nil 28) none [.failed brokenDevice]).2.restore (.nil 28) none later).1 =
      .returned (.ok none) := by
  have intact := intact_encodeBody ⟨[1, 0], [7]⟩ (by decide) (by decide)
  have entry : oneByte.directory.lookup (.nil 28) ≠ none := holding_entry .. ▸ Option.some_ne_none _
  have failed : readBody (encodeBody ⟨[1, 0], [7]⟩) [.failed brokenDevice] = .error (.io brokenDevice) := rfl
  have gone := misread_purges ⟨entry, _, _, holding_file .., intact, .inr ⟨rfl, _, failed⟩⟩
  refine ⟨⟨_, holding_file .., intact⟩, entry, gone, fun later => ?_⟩
  rw [restore, gone]

section Forgets
variable {manager next : DiskManager} {id : ObjectId}

/-- Whatever the disk says, the entry is gone, and later forgets have nothing to do. -/
theorem forget_directory (manager : DiskManager) (id : ObjectId) (unlinked : Option OtherError) :
    (manager.forget id unlinked).2.directory.lookup id = none := by
  cases entry : manager.directory.lookup id with
  | none => rw [forget, entry]; exact entry
  | some url =>
    rw [forget, entry]
    exact manager.dropEntry_self id

theorem forget_unknown (gone : manager.directory.lookup id = none) (unlinked : Option OtherError) :
    manager.forget id unlinked = (.ok (), manager) := by
  rw [forget, gone]

theorem forget_failed (entry : manager.directory.lookup id = some url) (shown : manager.disk.root.Shown)
    (error : OtherError) : manager.forget id (some error) = (.error (.io error), manager.dropEntry id) := by
  rw [forget, entry]
  cases manager.own id url entry
  simp only [remove_failed shown]
  rfl

theorem forget_done (entry : manager.directory.lookup id = some url) (shown : manager.disk.root.Shown) :
    manager.forget id none = (.ok (), (manager.dropEntry id).withDisk
      { manager.disk with files := manager.disk.files.erase (manager.disk.fileFor id) } rfl) := by
  rw [forget, entry]
  cases manager.own id url entry
  simp only [remove_done shown]

theorem forgets_unknown (gone : manager.directory.lookup id = none) (outcomes : List (Option OtherError)) :
    manager.forgets id outcomes = manager := by
  induction outcomes with
  | nil => rfl
  | cons unlinked outcomes ih => rw [forgets, forget_unknown gone, ih]

theorem forgets_cons (manager : DiskManager) (id : ObjectId) (unlinked : Option OtherError)
    (outcomes : List (Option OtherError)) :
    manager.forgets id (unlinked :: outcomes) = (manager.forget id unlinked).2 :=
  forgets_unknown (manager.forget_directory id unlinked) outcomes

/-- The file goes if the first forget finds an entry, its url is accepted and the
operating system removes it. -/
theorem forget_file_iff (manager : DiskManager) (id : ObjectId) (unlinked : Option OtherError) :
    (manager.forget id unlinked).2.disk.files.lookup (manager.disk.fileFor id) = none ↔
      manager.disk.files.lookup (manager.disk.fileFor id) = none ∨
        manager.directory.lookup id ≠ none ∧ manager.disk.root.Shown ∧ unlinked = none := by
  cases entry : manager.directory.lookup id with
  | none =>
    rw [forget_unknown entry]
    exact ⟨.inl, fun either => either.resolve_right fun held => held.1 rfl⟩
  | some url =>
    cases manager.own id url entry
    have after : (manager.forget id unlinked).2.disk =
        (manager.disk.remove (Root.urlFor (manager.disk.root.pathFor id)) unlinked).2 := by
      rw [forget, entry]
      rfl
    rw [after]
    by_cases shown : manager.disk.root.Shown
    · cases unlinked with
      | some error =>
        rw [remove_failed shown]
        exact ⟨.inl, fun either => either.resolve_right fun held => by cases held.2.2⟩
      | none =>
        rw [remove_done shown]
        exact iff_of_true ((FiniteMap.lookup_erase ..).trans (if_pos rfl))
          (.inr ⟨Option.some_ne_none _, shown, rfl⟩)
    · obtain ⟨problem, failed⟩ := remove_unshown shown id unlinked
      rw [failed]
      exact ⟨.inl, fun either => either.resolve_right fun held => shown held.2.1⟩

end Forgets

/-- After a forget has failed, no later one gets to the backend. So forgets that fail and
one that could remove the file leave nothing of the object exactly if the file was not
there, or nothing has failed and there was an entry whose url is accepted. -/
theorem forget_retried_iff (manager : DiskManager) (id : ObjectId) :
    (∀ unlinked problem, (manager.forget id unlinked).1 = .error problem → ∀ later,
      (manager.forget id unlinked).2.forget id later = (.ok (), (manager.forget id unlinked).2)) ∧
    ∀ failures : List OtherError,
      ((manager.forgets id (failures.map some ++ [none])).directory.lookup id = none ∧
        (manager.forgets id (failures.map some ++ [none])).disk.files.lookup (manager.disk.fileFor id) = none) ↔
      manager.disk.files.lookup (manager.disk.fileFor id) = none ∨
        manager.directory.lookup id ≠ none ∧ manager.disk.root.Shown ∧ failures = [] := by
  refine ⟨fun unlinked problem _ later => forget_unknown (manager.forget_directory id unlinked) later,
    fun failures => ?_⟩
  cases failures with
  | nil =>
    rw [List.map_nil, List.nil_append, forgets_cons, manager.forget_file_iff id none,
      and_iff_right (manager.forget_directory id none), eq_self, eq_self]
  | cons error failures =>
    rw [List.map_cons, List.cons_append, forgets_cons, manager.forget_file_iff id (some error),
      and_iff_right (manager.forget_directory id (some error))]
    simp

theorem second_forget_leaves_file :
    (oneByte.forget (.nil 28) (some brokenDevice)).1 = .error (.io brokenDevice) ∧
    (oneByte.forgets (.nil 28) [some brokenDevice, none]).disk.files.lookup (oneByte.disk.fileFor (.nil 28)) =
      some (encodeBody ⟨[1, 0], [7]⟩) := by
  have first := forget_failed (holding_entry (.nil 28) ⟨[1, 0], [7]⟩) spillRoot_shown brokenDevice
  rw [forgets_cons, oneByte, first]
  exact ⟨rfl, holding_file ..⟩

section Spills
variable {manager after : DiskManager} {id : ObjectId} {metadata data : Bytes} {outcomes : List Outcome}

theorem spill_recorded (spilled : manager.spill id metadata data outcomes = (.ok url, after)) :
    after.directory = manager.directory.insert id url ∧
      manager.disk.spill id metadata data outcomes = (.ok url, after.disk) := by
  unfold spill at spilled
  split at spilled
  · rename_i found disk done
    cases spilled
    exact ⟨rfl, done⟩
  · cases spilled

theorem spill_refused (failed : manager.spill id metadata data outcomes = (.error problem, after)) :
    after.directory = manager.directory ∧
      manager.disk.spill id metadata data outcomes = (.error problem, after.disk) := by
  unfold spill at failed
  split at failed
  · cases failed
  · rename_i found disk done
    cases failed
    exact ⟨rfl, done⟩

theorem spill_done (manager : DiskManager) (id : ObjectId) (data : Bytes) (small : metadata.length < 2 ^ 32)
    (done : ∀ outcome ∈ outcomes, outcome = .done) :
    ∃ url after, manager.spill id metadata data outcomes = (.ok url, after) := by
  cases answer : manager.spill id metadata data outcomes with
  | mk result after =>
    cases result with
    | ok url => exact ⟨url, after, rfl⟩
    | error problem =>
      have stopped := congrArg Prod.fst (spill_refused answer).2
      rw [Disk.spill_done small done] at stopped
      cases stopped

theorem file_refused (failed : manager.spill id metadata data outcomes = (.error problem, after))
    (other : ObjectId) :
    after.disk.files.lookup (after.disk.fileFor other) =
      manager.disk.files.lookup (manager.disk.fileFor other) := by
  obtain ⟨root, files⟩ := spill_error (spill_refused failed).2
  rw [fileFor, root]
  exact files other

theorem restore_refused (failed : manager.spill id metadata data outcomes = (.error problem, after))
    (other : ObjectId) (opened : Option OtherError) (reads : List Read) :
    (after.restore other opened reads).1 = (manager.restore other opened reads).1 := by
  obtain ⟨directory, failed⟩ := spill_refused failed
  obtain ⟨root, files⟩ := spill_error failed
  cases entry : manager.directory.lookup other with
  | none => rw [restore, restore, directory, entry]
  | some url =>
    have same := restore_congr root (files other) opened reads
    rw [← manager.own other url entry] at same
    rw [restore, restore, directory, entry]
    simp only [same]
    rcases manager.disk.restore url opened reads with (problem | object) | _
    · cases problem <;> rfl
    · rfl
    · rfl

end Spills

/-- What a spill writes is read back exactly, nothing that is cut off is, and a spill that
does not get through changes nothing that could be restored. -/
theorem spill_body_exact (manager : DiskManager) (id : ObjectId) (metadata data : Bytes)
    (small : metadata.length < 2 ^ 32) (fits : data.length < 2 ^ 63) :
    (∀ outcomes : List Outcome, (∀ outcome ∈ outcomes, outcome = .done) →
      ∃ url after, manager.spill id metadata data outcomes = (.ok url, after)) ∧
    (∀ outcomes url after, manager.spill id metadata data outcomes = (.ok url, after) →
      after.disk.files.lookup (after.disk.fileFor id) = some (encodeBody ⟨metadata, data⟩) ∧
      (∀ reads, Steady reads →
        restoreBody url (encodeBody ⟨metadata, data⟩) reads = .returned (.ok ⟨metadata, data⟩)) ∧
      (manager.disk.root.Shown → ∀ reads, Steady reads →
        (after.restore id none reads).1 = .returned (.ok (some ⟨metadata, data⟩))) ∧
      ∀ cut, cut <+: encodeBody ⟨metadata, data⟩ → cut ≠ encodeBody ⟨metadata, data⟩ →
        ∀ reads, ∃ reason, restoreBody url cut reads = .returned (.error (.corrupt url reason))) ∧
    ∀ outcomes problem after, manager.spill id metadata data outcomes = (.error problem, after) →
      ∀ other, after.disk.files.lookup (after.disk.fileFor other) =
          manager.disk.files.lookup (manager.disk.fileFor other) ∧
        ∀ opened reads, (after.restore other opened reads).1 = (manager.restore other opened reads).1 := by
  have intact := intact_encodeBody ⟨metadata, data⟩ small fits
  refine ⟨fun outcomes => manager.spill_done id data small, fun outcomes url after spilled => ?_,
    fun outcomes problem after failed other => ⟨file_refused failed other, restore_refused failed other⟩⟩
  obtain ⟨directory, spilled⟩ := spill_recorded spilled
  obtain ⟨root, _, _, files⟩ := spill_ok spilled
  have entry : after.directory.lookup id = some url := directory ▸ FiniteMap.lookup_insert_self ..
  have file : after.disk.files.lookup (after.disk.fileFor id) = some (encodeBody ⟨metadata, data⟩) := by
    rw [fileFor, root]
    exact (files id).trans (if_pos rfl)
  refine ⟨file, fun reads steady => restoreBody_steady intact steady url, fun shown reads steady => ?_,
    fun cut front strict reads => restoreBody_cut small fits front strict url reads⟩
  exact restore_stores entry ⟨_, file, intact⟩ (root ▸ shown) steady

theorem spill_body_small :
    ∃ url after, oneByte.spill (.nil 28) [1, 0] [8] [] = (.ok url, after) ∧
      (after.restore (.nil 28) none []).1 = .returned (.ok (some ⟨[1, 0], [8]⟩)) := by
  obtain ⟨succeeds, written, _⟩ := spill_body_exact oneByte (.nil 28) [1, 0] [8] (by decide) (by decide)
  obtain ⟨url, after, spilled⟩ := succeeds [] fun _ member => by cases member
  have restored := (written [] url after spilled).2.2.1 spillRoot_shown [] fun _ member => by cases member
  exact ⟨url, after, spilled, restored⟩

end DiskManager
end Rayd.Spill
