import Rayd.Lib.Serving
import Rayd.Spill.Failures

/-! Where the disk does what it is asked and the root is UTF-8, the manager over it answers
as the manager over plain files does. Objects of 2⁶³ bytes and more are apart: there the
disk's restore panics. -/
namespace Rayd.Spill
open Memory Urls Disk

namespace Disk
variable {width : Nat} {file : Bytes}

theorem readExact_reliable (needed : Nat) (file : Bytes) :
    readExact needed file [] =
      (Spill.readExact needed file).elim (.error endOfFile) fun found => .ok (found.1, found.2, []) := by
  rw [readExact, Spill.readExact]
  split_ifs <;> rfl

theorem readField_reliable (small : ∀ length, announced width file = some length → length < 2 ^ 63) :
    readField width file [] =
      (plainField width file).elim (.error (.io endOfFile)) fun found => .ok (found.1, found.2, []) := by
  have read := readExact_reliable width file
  cases first : Spill.readExact width file with
  | none =>
    rw [first] at read
    simp only [readField, fieldBy, read, plainField, first]
    rfl
  | some found =>
    obtain ⟨lengthBytes, rest⟩ := found
    have field : plainField width file = Spill.readExact (LittleEndian.decode lengthBytes) rest := by
      rw [plainField, first]
      rfl
    rw [first] at read
    rw [readField_eq read, reserve, if_pos (small _ (by rw [announced, first]; rfl)), readExact_reliable, field]
    cases Spill.readExact (LittleEndian.decode lengthBytes) rest <;> rfl

theorem readBody_reliable (small : ∀ length, announcedData file = some length → length < 2 ^ 63) :
    readBody file [] = (decodeBody file).elim (.error (.io endOfFile)) .ok := by
  have first : readField 4 file [] = _ :=
    readField_reliable fun length found => (announced_lt found).trans (by decide)
  rw [readBody, bodyBy, first, decodeBody_fields]
  cases plain : plainField 4 file with
  | none => rfl
  | some found =>
    obtain ⟨metadata, rest⟩ := found
    have second : readField 8 rest [] = _ :=
      readField_reliable fun length found => small length (by rw [announcedData, plain]; exact found)
    show (readField 8 rest [] >>= _) = _
    rw [second]
    show _ = Option.elim (plainField 8 rest >>= _) _ _
    cases plainField 8 rest <;> rfl

end Disk

/-- The same directory over the same files, under names in UTF-8. -/
structure Matches (disk : DiskManager) (manager : LocalObjectManager) : Prop where
  names : disk.disk.root.names = manager.backend.root.map Utf8.encode
  directory : disk.directory = manager.directory
  files : ∀ id, disk.disk.files.lookup (disk.disk.fileFor id) =
    manager.backend.files.lookup (manager.backend.pathFor id)

namespace Matches
variable {disk : DiskManager} {manager : LocalObjectManager}

theorem shown (same : Matches disk manager) : disk.disk.root.Shown := by
  intro name member
  rw [same.names] at member
  obtain ⟨text, _, rfl⟩ := List.mem_map.mp member
  exact ⟨text, rfl⟩

theorem urlFor (same : Matches disk manager) (id : ObjectId) :
    Root.urlFor (disk.disk.root.pathFor id) = LocalFsBackend.urlFor (manager.backend.pathFor id) := by
  have path : disk.disk.root.pathFor id = Utf8.encode (display (manager.backend.pathFor id)) := by
    rw [Root.pathFor_absolute, same.names, encode_display, LocalFsBackend.pathFor, List.map_append]
    rfl
  rw [Root.urlFor, path, Utf8.lossy_encode]
  rfl

theorem spill (same : Matches disk manager) (id : ObjectId) (metadata data : Bytes) :
    (metadata.length < 2 ^ 32 →
      (disk.spill id metadata data []).1 = (manager.spill id metadata data).1.mapError ofSpillError) ∧
    Matches (disk.spill id metadata data []).2 (manager.spill id metadata data).2 := by
  by_cases small : metadata.length < 2 ^ 32
  · have done : ∀ outcome ∈ ([] : List Outcome), outcome = .done := fun _ member => by cases member
    obtain ⟨url, after, spilled⟩ := disk.spill_done id data small done
    obtain ⟨directory, stored⟩ := DiskManager.spill_recorded spilled
    obtain ⟨root, _, rfl, files⟩ := spill_ok stored
    have plain : manager.spill id metadata data =
        (.ok (Root.urlFor (disk.disk.root.pathFor id)),
          ⟨(manager.backend.spill id metadata data).2,
            manager.directory.insert id (Root.urlFor (disk.disk.root.pathFor id))⟩) := by
      rw [same.urlFor id]
      simp only [LocalObjectManager.spill, LocalFsBackend.spill, if_pos small]
      rfl
    rw [spilled, plain]
    refine ⟨fun _ => rfl, ?_, by rw [directory, same.directory], fun other => ?_⟩
    · rw [root, same.names, LocalFsBackend.spill_root]
    · rw [fileFor, root, LocalFsBackend.spill_pathFor, LocalFsBackend.spill_files _ _ _ _ _ small, ← same.files]
      exact files other
  · refine ⟨fun fits => absurd fits small, ?_⟩
    have plain : (manager.spill id metadata data).2 =
        ⟨(manager.backend.spill id metadata data).2, manager.directory⟩ := by
      simp only [LocalObjectManager.spill, LocalFsBackend.spill, if_neg small]
    rw [plain]
    cases answer : disk.spill id metadata data [] with
    | mk result after =>
      cases result with
      | ok url => exact absurd (spill_ok (DiskManager.spill_recorded answer).2).2.1 small
      | error problem =>
        obtain ⟨directory, failed⟩ := DiskManager.spill_refused answer
        refine ⟨?_, directory.trans same.directory, fun other => ?_⟩
        · rw [(spill_error failed).1, same.names, LocalFsBackend.spill_root]
        · rw [DiskManager.file_refused answer, same.files, LocalFsBackend.spill_pathFor]
          simp only [LocalFsBackend.spill, if_neg small, FiniteMap.lookup_insert]
          exact (if_neg (manager.backend.tmpPathFor_ne id other)).symm

theorem dropEntry (same : Matches disk manager) (id : ObjectId) :
    Matches (disk.dropEntry id) { manager with directory := disk.directory.erase id } :=
  ⟨same.names, rfl, same.files⟩

/-- The backend's part of a restore, of an object below 2⁶³ bytes. -/
theorem backend_restore (same : Matches disk manager) (id : ObjectId)
    (small : ∀ file length, manager.backend.files.lookup (manager.backend.pathFor id) = some file →
      announcedData file = some length → length < 2 ^ 63) :
    disk.disk.restore (Root.urlFor (disk.disk.root.pathFor id)) none [] =
      .returned ((manager.backend.restore (Root.urlFor (disk.disk.root.pathFor id))).mapError ofSpillError) := by
  have parsed := manager.backend.parseUrl_urlFor id
  rw [← same.urlFor id] at parsed
  cases found : manager.backend.files.lookup (manager.backend.pathFor id) with
  | none =>
    rw [restore_missing same.shown ((same.files id).trans found) []]
    simp only [LocalFsBackend.restore, parsed, found]
    rfl
  | some file =>
    rw [restore_found same.shown ((same.files id).trans found) [], restoreBody,
      readBody_reliable fun length announced => small file length found announced]
    cases decoded : decodeBody file with
    | none =>
      simp only [LocalFsBackend.restore, parsed, found, decoded]
      rfl
    | some object =>
      simp only [LocalFsBackend.restore, parsed, found, decoded]
      rfl

theorem restore (same : Matches disk manager) (id : ObjectId)
    (small : ∀ file length, manager.backend.files.lookup (manager.backend.pathFor id) = some file →
      announcedData file = some length → length < 2 ^ 63) :
    (disk.restore id none []).1 = .returned ((manager.restore id).1.mapError ofSpillError) ∧
      Matches (disk.restore id none []).2 (manager.restore id).2 := by
  rw [LocalObjectManager.restore, LocalObjectManager.spillUrl, ← same.directory]
  cases entry : disk.directory.lookup id with
  | none =>
    rw [DiskManager.restore, entry]
    exact ⟨rfl, same⟩
  | some url =>
    have answer := same.backend_restore id small
    rw [← disk.own id url entry] at answer
    cases result : manager.backend.restore url with
    | ok object =>
      rw [result] at answer
      rw [DiskManager.restore_kept entry answer]
      simp only [result]
      exact ⟨rfl, same⟩
    | error problem =>
      rw [result] at answer
      have other : ∀ error, ofSpillError problem ≠ .io error := by
        intro error
        cases problem <;> exact fun same => by cases same
      rw [DiskManager.restore_dropped entry answer other]
      simp only [result]
      exact ⟨rfl, same.dropEntry id⟩

theorem forget (same : Matches disk manager) (id : ObjectId) :
    (disk.forget id none).1 = (manager.forget id).1.mapError ofSpillError ∧
      Matches (disk.forget id none).2 (manager.forget id).2 := by
  rw [LocalObjectManager.forget, LocalObjectManager.spillUrl, ← same.directory]
  cases entry : disk.directory.lookup id with
  | none =>
    rw [DiskManager.forget_unknown entry]
    exact ⟨rfl, same⟩
  | some url =>
    have parsed := manager.backend.parseUrl_urlFor id
    rw [← same.urlFor id, ← disk.own id url entry] at parsed
    rw [DiskManager.forget_done entry same.shown]
    simp only [LocalFsBackend.remove, parsed]
    refine ⟨rfl, same.names, rfl, fun other => ?_⟩
    show (disk.disk.files.erase (disk.disk.fileFor id)).lookup (disk.disk.fileFor other) =
      (manager.backend.files.erase (manager.backend.pathFor id)).lookup (manager.backend.pathFor other)
    rw [FiniteMap.lookup_erase, FiniteMap.lookup_erase, same.files other]
    by_cases here : other = id
    · rw [here, if_pos rfl, if_pos rfl]
    · rw [if_neg fun paths => here (fileFor_injective paths),
        if_neg fun paths => here (manager.backend.pathFor_injective paths)]

end Matches

inductive Call where
  | spill (id : ObjectId) (metadata data : Bytes)
  | restore (id : ObjectId)
  | forget (id : ObjectId)

inductive Reply where
  | spilled (result : Except DiskError Text)
  | restored (answer : Answer (Option RestoredObject))
  | forgotten (result : Except DiskError Unit)

/-- The metadata have a length prefix, and the data fit in memory. -/
def Call.Fits : Call → Prop
  | .spill _ metadata data => metadata.length < 2 ^ 32 ∧ data.length < 2 ^ 63
  | .restore _ | .forget _ => True

def DiskManager.serve (disk : DiskManager) : Call → Reply × DiskManager
  | .spill id metadata data =>
    (.spilled (disk.spill id metadata data []).1, (disk.spill id metadata data []).2)
  | .restore id => (.restored (disk.restore id none []).1, (disk.restore id none []).2)
  | .forget id => (.forgotten (disk.forget id none).1, (disk.forget id none).2)

def LocalObjectManager.serve (manager : LocalObjectManager) : Call → Reply × LocalObjectManager
  | .spill id metadata data =>
    (.spilled ((manager.spill id metadata data).1.mapError ofSpillError), (manager.spill id metadata data).2)
  | .restore id => (.restored (.returned ((manager.restore id).1.mapError ofSpillError)), (manager.restore id).2)
  | .forget id => (.forgotten ((manager.forget id).1.mapError ofSpillError), (manager.forget id).2)

/-- No file announces more data than a vector can hold. -/
def Modest (disk : DiskManager) : Prop :=
  ∀ id file length, disk.disk.files.lookup (disk.disk.fileFor id) = some file →
    announcedData file = some length → length < 2 ^ 63

section Serving
variable {disk : DiskManager} {manager : LocalObjectManager}

theorem restore_disk (disk : DiskManager) (id : ObjectId) : (disk.restore id none []).2.disk = disk.disk := by
  rw [DiskManager.restore]
  cases disk.directory.lookup id with
  | none => rfl
  | some url =>
    simp only
    rcases disk.disk.restore url none [] with (problem | object) | _
    · cases problem <;> rfl
    · rfl
    · rfl

theorem forget_root (disk : DiskManager) (id : ObjectId) :
    (disk.forget id none).2.disk.root = disk.disk.root := by
  rw [DiskManager.forget]
  cases disk.directory.lookup id with
  | none => rfl
  | some url => exact disk.disk.remove_root url none

theorem forget_files {id : ObjectId} (left : (disk.forget id none).2.disk.files.lookup path = some file) :
    disk.disk.files.lookup path = some file := by
  rw [DiskManager.forget] at left
  cases entry : disk.directory.lookup id with
  | none =>
    rw [entry] at left
    exact left
  | some url =>
    rw [entry] at left
    exact remove_files left

theorem Modest.serve (modest : Modest disk) {call : Call} (fits : call.Fits) : Modest (disk.serve call).2 := by
  intro other file length found announced
  cases call with
  | spill id metadata data =>
    obtain ⟨small, short⟩ := fits
    have done : ∀ outcome ∈ ([] : List Outcome), outcome = .done := fun _ member => by cases member
    obtain ⟨url, after, spilled⟩ := disk.spill_done id data small done
    obtain ⟨root, _, _, files⟩ := spill_ok (DiskManager.spill_recorded spilled).2
    have after' : (disk.serve (.spill id metadata data)).2 = after := congrArg Prod.snd spilled
    rw [after', fileFor, root] at found
    have now := (files other).symm.trans found
    split_ifs at now with here
    · cases now
      cases (intact_encodeBody ⟨metadata, data⟩ small short).announced.symm.trans announced
      exact short
    · exact modest other file length now announced
  | restore id =>
    rw [show (disk.serve (.restore id)).2.disk = disk.disk from restore_disk disk id] at found
    exact modest other file length found announced
  | forget id =>
    rw [show (disk.serve (.forget id)).2.disk.fileFor other = disk.disk.fileFor other from
      congrArg (fun root => root.names ++ [Root.fileName other]) (forget_root disk id)] at found
    exact modest other file length (forget_files found) announced

theorem Matches.serve (same : Matches disk manager) (modest : Modest disk) {call : Call} (fits : call.Fits) :
    (disk.serve call).1 = (manager.serve call).1 ∧ Matches (disk.serve call).2 (manager.serve call).2 := by
  cases call with
  | spill id metadata data =>
    obtain ⟨answer, after⟩ := same.spill id metadata data
    exact ⟨congrArg Reply.spilled (answer fits.1), after⟩
  | restore id =>
    obtain ⟨answer, after⟩ := same.restore id fun file length found =>
      modest id file length ((same.files id).trans found)
    exact ⟨congrArg Reply.restored answer, after⟩
  | forget id =>
    obtain ⟨answer, after⟩ := same.forget id
    exact ⟨congrArg Reply.forgotten answer, after⟩

end Serving

section Map
variable {manager : LocalObjectManager} {spilled : FiniteMap ObjectId RestoredObject}

/-- The calls on a map from ids to objects; a spill tells the url of the object's file. -/
def serveMap (root : Path) (spilled : FiniteMap ObjectId RestoredObject) :
    Call → Reply × FiniteMap ObjectId RestoredObject
  | .spill id metadata data =>
    (.spilled (.ok (LocalFsBackend.urlFor (root ++ [hex id.bytes ++ ".spill".toList]))),
      spilled.insert id ⟨metadata, data⟩)
  | .restore id => (.restored (.returned (.ok (spilled.lookup id))), spilled)
  | .forget id => (.forgotten (.ok ()), spilled.erase id)

/-- The directory has the objects of the map and no others, each with its complete file. -/
structure Represents (manager : LocalObjectManager) (spilled : FiniteMap ObjectId RestoredObject) : Prop where
  kept : ∀ id object, spilled.lookup id = some object → manager.Keeps id object
  absent : ∀ id, spilled.lookup id = none → manager.directory.lookup id = none

theorem Represents.spill (represents : Represents manager spilled) (id : ObjectId) {metadata data : Bytes}
    (small : metadata.length < 2 ^ 32) (fits : data.length < 2 ^ 63) :
    (manager.spill id metadata data).1 = .ok (LocalFsBackend.urlFor (manager.backend.pathFor id)) ∧
      (manager.spill id metadata data).2.backend.root = manager.backend.root ∧
      Represents (manager.spill id metadata data).2 (spilled.insert id ⟨metadata, data⟩) := by
  have done := manager.backend.spill_ok id metadata data small
  have root := manager.backend.spill_root id metadata data
  have paths := fun other => manager.backend.spill_pathFor id other metadata data
  have holds := manager.backend.spill_holds id ⟨metadata, data⟩ small (by simp only; omega)
  have others : ∀ other object, other ≠ id → manager.backend.Holds other object →
      (manager.backend.spill id metadata data).2.Holds other object :=
    fun other object different before => LocalFsBackend.spill_keeps different before metadata data small
  rw [LocalObjectManager.spill]
  generalize manager.backend.spill id metadata data = answer at done root paths holds others
  obtain ⟨reply, backend⟩ := answer
  cases done
  refine ⟨rfl, root, fun other object found => ?_, fun other missing => ?_⟩
  · simp only [LocalObjectManager.record, LocalObjectManager.Keeps, FiniteMap.lookup_insert, paths] at found ⊢
    split_ifs at found with same
    · cases found
      rw [if_pos same, same]
      exact ⟨rfl, holds⟩
    · obtain ⟨entry, before⟩ := represents.kept other object found
      rw [if_neg same]
      exact ⟨entry, others other object same before⟩
  · simp only [LocalObjectManager.record, FiniteMap.lookup_insert] at missing ⊢
    split_ifs at missing with same
    rw [if_neg same]
    exact represents.absent other missing

theorem Represents.restore (represents : Represents manager spilled) (id : ObjectId) :
    manager.restore id = (.ok (spilled.lookup id), manager) := by
  cases found : spilled.lookup id with
  | some object => exact LocalObjectManager.restore_keeps (represents.kept id object found)
  | none => simp only [LocalObjectManager.restore, LocalObjectManager.spillUrl, represents.absent id found]

theorem Represents.forget (represents : Represents manager spilled) (id : ObjectId) :
    (manager.forget id).1 = .ok () ∧ (manager.forget id).2.backend.root = manager.backend.root ∧
      Represents (manager.forget id).2 (spilled.erase id) := by
  simp only [LocalObjectManager.forget, LocalObjectManager.spillUrl]
  cases found : spilled.lookup id with
  | none =>
    have same : ∀ other, (spilled.erase id).lookup other = spilled.lookup other := by
      intro other
      rw [FiniteMap.lookup_erase]
      split_ifs with here
      · rw [here, found]
      · rfl
    simp only [represents.absent id found]
    exact ⟨trivial, trivial, fun other object there => represents.kept other object ((same other).symm.trans there),
      fun other gone => represents.absent other ((same other).symm.trans gone)⟩
  | some object =>
    simp only [(represents.kept id object found).1, LocalFsBackend.remove, manager.backend.parseUrl_urlFor]
    refine ⟨trivial, trivial, fun other object there => ?_, fun other gone => ?_⟩
    · rw [FiniteMap.lookup_erase] at there
      split_ifs at there with same
      obtain ⟨listed, file, sizes⟩ := represents.kept other object there
      refine ⟨(FiniteMap.lookup_erase ..).trans ((if_neg same).trans listed), ?_, sizes⟩
      exact (FiniteMap.lookup_erase ..).trans
        ((if_neg fun paths => same (manager.backend.pathFor_injective paths)).trans file)
    · rw [FiniteMap.lookup_erase] at gone ⊢
      split_ifs at gone ⊢ with same
      · rfl
      · exact represents.absent other gone

theorem Represents.serve (represents : Represents manager spilled) {call : Call} (fits : call.Fits) :
    (manager.serve call).1 = (serveMap manager.backend.root spilled call).1 ∧
      (manager.serve call).2.backend.root = manager.backend.root ∧
      Represents (manager.serve call).2 (serveMap manager.backend.root spilled call).2 := by
  cases call with
  | spill id metadata data =>
    obtain ⟨answer, root, after⟩ := represents.spill id fits.1 fits.2
    refine ⟨?_, root, after⟩
    rw [LocalObjectManager.serve, answer]
    rfl
  | restore id =>
    simp only [LocalObjectManager.serve, represents.restore id, serveMap]
    exact ⟨rfl, trivial, represents⟩
  | forget id =>
    obtain ⟨answer, root, after⟩ := represents.forget id
    refine ⟨?_, root, after⟩
    rw [LocalObjectManager.serve, answer]
    rfl

/-- A manager that has just been started on a root without files. -/
def DiskManager.start (root : Root) (tmpCounter : Nat) : DiskManager :=
  ⟨⟨root, ∅, tmpCounter⟩, ∅, fun _ _ found => by cases found⟩

/-- On a reliable disk with a root in UTF-8, spilling, restoring and forgetting in any order
is reading and writing a map: what is restored are the bytes that were spilled last under
the id, whatever was spilled, restored or forgotten in between, and nothing else is held. -/
theorem spilled_objects_as_map {root : Root} {names : Path} (plain : ∀ name ∈ names, PlainName name)
    (utf8 : root.names = names.map Utf8.encode) (tmpCounter : Nat) (calls : List Call)
    (fits : ∀ call ∈ calls, call.Fits) :
    Serving.replies DiskManager.serve (.start root tmpCounter) calls =
      Serving.replies (serveMap names) ∅ calls := by
  -- the disk and the map are related through the manager over plain files
  refine Serving.replies_eq (fun disk spilled => ∃ manager, Matches disk manager ∧ Modest disk ∧
    manager.backend.root = names ∧ Represents manager spilled) Call.Fits ?_ ?_ calls fits
  · rintro disk spilled call ⟨manager, same, modest, rfl, represents⟩ fits
    obtain ⟨reply, after⟩ := same.serve modest fits
    obtain ⟨answer, root, also⟩ := represents.serve fits
    exact ⟨reply.trans answer, _, after, modest.serve fits, root, also⟩
  · refine ⟨⟨⟨names, plain, ∅, tmpCounter⟩, ∅⟩, ⟨utf8, rfl, fun _ => rfl⟩, fun id file length found => ?_, rfl,
      fun id object found => ?_, fun _ _ => rfl⟩
    · cases found
    · cases found

/-- Spilled twice, restored, forgotten and asked for again. -/
theorem respilled_object_restored :
    (Serving.replies DiskManager.serve (.start ⟨[], by simp⟩ 0)
        [.spill (.nil 28) [1] [2], .spill (.nil 28) [1] [3], .restore (.nil 28), .forget (.nil 28),
          .restore (.nil 28)]).drop 2 =
      [.restored (.returned (.ok (some ⟨[1], [3]⟩))), .forgotten (.ok ()), .restored (.returned (.ok none))] := by
  rw [@spilled_objects_as_map ⟨[], by simp⟩ [] (by simp) rfl 0]
  · rfl
  · simp [Call.Fits]

end Map

end Rayd.Spill
