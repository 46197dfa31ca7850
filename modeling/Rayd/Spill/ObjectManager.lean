import Rayd.Spill.LocalFs

/-! The local object manager: which objects were spilled and where. An entry
whose file turns out missing or unreadable is dropped, so the directory does not
keep advertising it. -/
namespace Rayd.Spill
open Memory

structure LocalObjectManager where
  backend : LocalFsBackend
  directory : FiniteMap ObjectId Text

namespace LocalObjectManager

def spillUrl (manager : LocalObjectManager) (id : ObjectId) : Option Text :=
  manager.directory.lookup id

/-- The directory insert that follows a successful backend spill. -/
def record (manager : LocalObjectManager) (id : ObjectId) (url : Text) : LocalObjectManager :=
  { manager with directory := manager.directory.insert id url }

def spill (manager : LocalObjectManager) (id : ObjectId) (metadata data : Bytes) :
    Except SpillError Text × LocalObjectManager :=
  match manager.backend.spill id metadata data with
  | (.ok url, backend) => (.ok url, { manager with backend }.record id url)
  | (.error failure, backend) => (.error failure, { manager with backend })

/-- Both error kinds of the backend are terminal for the entry. -/
def restore (manager : LocalObjectManager) (id : ObjectId) :
    Except SpillError (Option RestoredObject) × LocalObjectManager :=
  match manager.spillUrl id with
  | none => (.ok none, manager)
  | some url =>
    match manager.backend.restore url with
    | .ok object => (.ok (some object), manager)
    | .error failure =>
      (.error failure, { manager with directory := manager.directory.erase id })

def forget (manager : LocalObjectManager) (id : ObjectId) :
    Except SpillError Unit × LocalObjectManager :=
  match manager.spillUrl id with
  | none => (.ok (), manager)
  | some url =>
    let (result, backend) := manager.backend.remove url
    (result, ⟨backend, manager.directory.erase id⟩)

/-- The directory leads to the object's complete file. -/
def Keeps (manager : LocalObjectManager) (id : ObjectId) (object : RestoredObject) : Prop :=
  manager.directory.lookup id = some (LocalFsBackend.urlFor (manager.backend.pathFor id)) ∧
    manager.backend.Holds id object

theorem restore_keeps {manager : LocalObjectManager} {id : ObjectId}
    (keeps : manager.Keeps id object) : manager.restore id = (.ok (some object), manager) := by
  simp only [restore, spillUrl, keeps.1, LocalFsBackend.restore_holds keeps.2]

end LocalObjectManager
end Rayd.Spill
