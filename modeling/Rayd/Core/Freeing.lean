import Rayd.Core.Reclaim
import Rayd.Core.Unpinning
import Rayd.Spill.Overlap

/-! Spills on threads beside the releases of one core worker, with the free callback
of a driver that has a spill manager. A spill keeps its copy of the bytes between the
plasma client's lock and the directory's; `free_unpinned` gives up every lock between
its deletes and the callback's `forget`. The callback's deregistration at the raylet
touches nothing modelled here. -/
namespace Rayd.Core.Freeing
open Memory Plasma Spill Threads Transition
open Spill.Overlap (file home spill_effect spill_other remove_effect)

/-- On whose behalf `spill_to_recoverer` runs. -/
inductive Caller where
  | request
  | pressure (dataSize current : Nat) (rest : List (ObjectId × PlasmaIndex))

inductive Phase where
  | idle
  | listEntries
  | spillNext (current : Nat) (entries : List (ObjectId × PlasmaIndex))
  | spilling (phase : Core.Phase) (caller : Caller)
  | decLocal (id : ObjectId)
  | removeBorrower (id : ObjectId) (borrower : WorkerId)
  | deleteEntry (id : ObjectId)
  | deleteCopy (id : ObjectId)
  | forget (id : ObjectId)
  | removeFile (id : ObjectId) (url : Text)

namespace Phase

def isIdle : Phase → Bool
  | .idle => true
  | _ => false

/-- The spill's caller goes on when it has returned. -/
def ofSpill (phase : Core.Phase) (caller : Caller) : Phase :=
  match phase, caller with
  | .spillReturned _ _, .request => .idle
  | .spillReturned _ (.ok _), .pressure dataSize current rest => .spillNext (current - dataSize) rest
  | .spillReturned _ (.error _), .pressure _ current rest => .spillNext current rest
  | phase, caller => .spilling phase caller

def afterUnpin (id : ObjectId) (cleared : Bool) : Phase := if cleared then .deleteEntry id else .idle

/-- The id whose bytes the thread has a copy of that is not listed yet. -/
def copy? : Phase → Option ObjectId
  | .spilling (.writeFile id _ _) _ | .spilling (.recordUrl id _ _) _ => some id
  | _ => none

end Phase

def advance : Session × Phase → Session × Phase
  | (s, .listEntries) =>
    if s.worker.spillThreshold = 2 ^ 64 - 1 then (s, .idle)
    else
      let entries := s.plasmaEntries
      (s, .spillNext (entries.map fun entry => entry.2.dataSize).sum entries)
  | (s, .spillNext _ []) => (s, .idle)
  | (s, .spillNext current ((id, index) :: rest)) =>
    if current ≤ s.worker.spillThreshold then (s, .idle)
    else (s, .spilling (.readCopy id .request) (.pressure index.dataSize current rest))
  | (s, .spilling phase caller) =>
    ((Session.advance (s, phase)).1, .ofSpill (Session.advance (s, phase)).2 caller)
  | (s, .decLocal id) =>
    (Unpinning.withRefs s (s.worker.refs.decLocal id).2, .afterUnpin id (s.worker.refs.decLocal id).1)
  | (s, .removeBorrower id borrower) =>
    (Unpinning.withRefs s (s.worker.refs.removeBorrower id borrower).2,
      .afterUnpin id (s.worker.refs.removeBorrower id borrower).1)
  | (s, .deleteEntry id) =>
    ({ s with worker := { s.worker with store := s.worker.store.delete [id] } }, .deleteCopy id)
  | (s, .deleteCopy id) => ({ s with plasma := s.plasma.delete id }, .forget id)
  | (s, .forget id) =>
    match s.worker.recoverer with
    | none => (s, .idle)
    | some manager =>
      match manager.spillUrl id with
      | none => (s, .idle)
      | some url =>
        (s.withManager { manager with directory := manager.directory.erase id }, .removeFile id url)
  -- the callback logs a failed removal and returns
  | (s, .removeFile _ url) =>
    match s.worker.recoverer with
    | none => (s, .idle)
    | some manager => (s.withManager { manager with backend := (manager.backend.remove url).2 }, .idle)
  | (s, .idle) => (s, .idle)

inductive Act where
  | spillToRecoverer (id : ObjectId)
  | maybeSpillForPressure
  | decLocalRef (id : ObjectId)
  | removeBorrowerPin (id : ObjectId) (borrower : WorkerId)
  | step

inductive Own (s : Session) (phase : Phase) : Act → Session → Phase → Prop where
  | spillToRecoverer : phase = .idle →
      Own s phase (.spillToRecoverer object) s (.spilling (.readCopy object .request) .request)
  | maybeSpillForPressure : phase = .idle → Own s phase .maybeSpillForPressure s .listEntries
  | decLocalRef : phase = .idle → Own s phase (.decLocalRef object) s (.decLocal object)
  | removeBorrowerPin : phase = .idle →
      Own s phase (.removeBorrowerPin object borrower) s (.removeBorrower object borrower)
  | step : phase.isIdle = false → advance (s, phase) = (session, next) → Own s phase .step session next
  /-- The pressure loop may come by the entries in any order. -/
  | reorder : phase = .listEntries → s.worker.spillThreshold ≠ 2 ^ 64 - 1 →
      entries.Perm s.worker.store.plasmaEntries →
      Own s phase .step s (.spillNext (entries.map fun entry => entry.2.dataSize).sum entries)

/-- A `forget` on the free path takes the directory lock while no other thread has an
unlisted copy of its id. -/
def Lets (_ : Session) (other phase : Phase) : Act → Prop
  | .step => ∀ id, phase = .forget id → other.copy? ≠ some id
  | _ => True

/-- What the callback does about the spill record. -/
def freeCallback (s : Session) (id : ObjectId) : Session :=
  match s.worker.recoverer with
  | none => s
  | some manager => s.withManager (manager.forget id).2

theorem forget_settles (s : Session) (id : ObjectId) :
    advance (advance (s, .forget id)) = (freeCallback s id, .idle) := by
  obtain ⟨⟨jobId, counter, store, refs, recoverer, threshold⟩, plasma⟩ := s
  cases recoverer with
  | none => rfl
  | some manager =>
    simp only [advance, freeCallback, LocalObjectManager.forget]
    cases manager.spillUrl id <;> rfl

/-- Undisturbed, the phases of a release are the operation of the worker and, when
that has cleared the last pin, the callback. -/
theorem release_settles (s : Session) (id : ObjectId) (result : Bool × RefCounter) :
    advance^[4] (Unpinning.withRefs s result.2, .afterUnpin id result.1) =
      (if result.1 then freeCallback (s.release id result) id else s.release id result, .idle) := by
  obtain ⟨cleared, refs⟩ := result
  cases cleared with
  | false => rfl
  | true => exact forget_settles _ id

section Traces
variable (object : ObjectId) (s : Session)

/-- The object's entry in the spill directory. -/
def entry : Option Text := s.worker.recoverer.bind fun manager => manager.spillUrl object

/-- The object's file, where there is a spill manager. -/
def copy : Option Bytes := s.worker.recoverer.bind fun manager => file object manager

def place : Option Text := s.worker.recoverer.map fun manager => home object manager

/-- What there is of the object. -/
def view : Reclaim.View where
  pinned := (s.worker.refs.snapshot object).isSome
  held := (s.plasma.objects.lookup object).isSome
  listed := (entry object s).isSome
  filed := (copy object s).isSome

def role : Phase → Reclaim.Role
  | .spilling (.writeFile id _ _) _ => if id = object then .copying else .outside
  | .spilling (.recordUrl id _ _) _ => if id = object then .recording else .outside
  | .deleteEntry id | .deleteCopy id => if id = object then .freeing else .outside
  | .forget id => if id = object then .withdrawing else .outside
  | .removeFile id _ => if id = object then .removing else .outside
  | _ => .outside

/-- The url a thread has for the object is the one its file is under. -/
def Placed : Phase → Prop
  | .spilling (.recordUrl id url .request) _ | .removeFile id url => id = object → place object s = some url
  | .spilling (.readCopy _ .request) _ | .spilling (.writeFile _ _ .request) _
  | .spilling (.deleteCopy _ .request) _ => True
  | .spilling _ _ => False
  | _ => True

end Traces

section Steps
variable {object id : ObjectId} {s t : Session} {p q : Phase}

/-- One step of a thread as seen from the object. -/
structure Effect (object : ObjectId) (s : Session) (p : Phase) (t : Session) (q : Phase) : Prop where
  sound : ∀ url, entry object t = some url → place object t = some url
  placed : Placed object t q
  rooted : place object t = place object s
  moves : ∃ move, Reclaim.Own (view object s) (role object p) move (view object t) (role object q) ∧
    (move = .forget → p = .forget object)

theorem remove_other (object : ObjectId) (manager : LocalObjectManager) (url : Text) :
    home object { manager with backend := (manager.backend.remove url).2 } = home object manager ∧
      (file object { manager with backend := (manager.backend.remove url).2 } = file object manager ∨
        file object { manager with backend := (manager.backend.remove url).2 } = none) := by
  simp only [LocalFsBackend.remove]
  split
  · exact ⟨rfl, .inl rfl⟩
  · refine ⟨rfl, ?_⟩
    rename_i path _
    have erased := FiniteMap.lookup_erase manager.backend.files path (manager.backend.pathFor object)
    split at erased
    · exact .inr erased
    · exact .inl erased

/-- Nothing of the object is touched. -/
structure Alike (object : ObjectId) (s t : Session) : Prop where
  seen : view object t = view object s
  listing : entry object t = entry object s
  root : place object t = place object s

theorem Alike.refl (s : Session) : Alike object s s := ⟨rfl, rfl, rfl⟩

theorem registered_traces (object : ObjectId) {manager : LocalObjectManager}
    (registered : s.worker.recoverer = some manager) :
    entry object s = manager.spillUrl object ∧ copy object s = file object manager ∧
      place object s = some (home object manager) := by
  simp only [entry, copy, place, registered, Option.bind_some, Option.map_some, and_self]

theorem place_unregistered (unregistered : s.worker.recoverer = none) : place object s ≠ some url := by
  rw [place, unregistered]
  exact Option.some_ne_none url |>.symm

theorem view_withManager (s : Session) (manager : LocalObjectManager) :
    view object (s.withManager manager) = { view object s with
      listed := (manager.spillUrl object).isSome, filed := (file object manager).isSome } := rfl

theorem Alike.withManager {manager next : LocalObjectManager}
    (registered : s.worker.recoverer = some manager)
    (directory : next.spillUrl object = manager.spillUrl object)
    (root : home object next = home object manager)
    (content : file object next = file object manager) : Alike object s (s.withManager next) := by
  obtain ⟨listing, copy, place⟩ := registered_traces object registered
  refine ⟨?_, directory.trans listing.symm, (congrArg some root).trans place.symm⟩
  simp only [view, listing, copy, ← directory, ← content]
  rfl

theorem Alike.deleteOther (different : id ≠ object) :
    Alike object s { s with plasma := s.plasma.delete id } := by
  refine ⟨?_, rfl, rfl⟩
  simp only [view, Store.lookup_delete, if_neg (Ne.symm different)]
  rfl

theorem view_delete (s : Session) :
    view object { s with plasma := s.plasma.delete object } = { view object s with held := false } := by
  simp only [view, Store.lookup_delete, if_true, Option.isSome_none]
  rfl

theorem returned_outside (object id : ObjectId) (result : Except CoreError Bool) (caller : Caller) (s : Session) :
    role object (.ofSpill (.spillReturned id result) caller) = .outside ∧
      Placed object s (.ofSpill (.spillReturned id result) caller) := by
  cases caller with
  | request => exact ⟨rfl, trivial⟩
  | pressure =>
    cases result with
    | ok _ => exact ⟨rfl, trivial⟩
    | error _ => exact ⟨rfl, trivial⟩

variable (sound : ∀ url, entry object s = some url → place object s = some url)
include sound

theorem sound_kept (listing : entry object t = entry object s) (root : place object t = place object s) :
    ∀ url, entry object t = some url → place object t = some url :=
  fun url found => root.trans (sound url (listing.symm.trans found))

theorem Effect.unseen (alike : Alike object s t) (placed : Placed object t q)
    (still : role object q = role object p) : Effect object s p t q where
  sound := sound_kept sound alike.listing alike.root
  placed := placed
  rooted := alike.root
  moves := ⟨.pass, by rw [alike.seen, still]; exact .pass, fun forgets => by cases forgets⟩

theorem Effect.giveUp {caller : Caller} {result : Except CoreError Bool} (alike : Alike object s t)
    (own : role object p = .outside ∨ role object p = .copying) :
    Effect object s p t (.ofSpill (.spillReturned id result) caller) := by
  have returned := returned_outside object id result caller t
  rcases own with outside | copying
  · exact .unseen sound alike returned.2 (returned.1.trans outside.symm)
  · refine ⟨sound_kept sound alike.listing alike.root, returned.2, alike.root, .giveUp, ?_,
    fun forgets => by cases forgets⟩
    rw [returned.1, alike.seen]
    exact .giveUp copying

theorem readCopy_effect {caller : Caller} :
    Effect object s (.spilling (.readCopy id .request) caller) (Session.advance (s, .readCopy id .request)).1
      (.ofSpill (Session.advance (s, .readCopy id .request)).2 caller) := by
  simp only [Session.advance]
  split
  · exact .giveUp sound (.refl s) (.inl rfl)
  · rcases s.plasma.get_cases id with ⟨_, found⟩ | ⟨_, _, _, found⟩ | ⟨held, present, _, found⟩ <;>
      simp only [found]
    · exact .giveUp sound (.refl s) (.inl rfl)
    · exact .giveUp sound (.refl s) (.inl rfl)
    · by_cases same : id = object
      · refine ⟨sound, trivial, rfl, .copy, ?_, fun forgets => by cases forgets⟩
        rw [show role object (.ofSpill (.writeFile id _ _) caller) = .copying from if_pos same]
        refine .copy rfl ?_
        rw [same] at present
        simp only [view, present, Option.isSome_some]
      · exact .unseen sound (.refl s) trivial (if_neg same)

theorem writeFile_effect {caller : Caller} {content : RestoredObject} :
    Effect object s (.spilling (.writeFile id content .request) caller)
      (Session.advance (s, .writeFile id content .request)).1
      (.ofSpill (Session.advance (s, .writeFile id content .request)).2 caller) := by
  have roles : role object (.spilling (.writeFile id content .request) caller) = .outside ∨
      role object (.spilling (.writeFile id content .request) caller) = .copying := by
    by_cases same : id = object
    · exact .inr (if_pos same)
    · exact .inl (if_neg same)
  simp only [Session.advance]
  split
  · exact .giveUp sound (.refl s) roles
  · rename_i manager registered
    obtain ⟨listing, copied, rooted⟩ := registered_traces object registered
    by_cases same : id = object
    · subst same
      split <;> rename_i backend answered
      · obtain ⟨root, ⟨_, done, _⟩ | ⟨_, content⟩⟩ := spill_effect answered
        · cases done
        · exact .giveUp sound (.withManager registered rfl root content) roles
      · obtain ⟨root, ⟨_, done, content⟩ | ⟨⟨failure, failed⟩, _⟩⟩ := spill_effect answered
        · cases done
          have rooted' := (congrArg some root).trans rooted.symm
          refine ⟨sound_kept sound listing.symm rooted', fun _ => congrArg some root, rooted', .write, ?_,
            fun forgets => by cases forgets⟩
          have after : view id (s.withManager { manager with backend }) =
              { view id s with filed := true } := by
            rw [view_withManager, content]
            simp only [view, listing]
            rfl
          rw [after, show role id (.ofSpill (.recordUrl id _ _) caller) = .recording from if_pos rfl]
          exact .write (if_pos rfl)
        · cases failed
    · split <;> rename_i backend answered
      · obtain ⟨root, content⟩ := spill_other (Ne.symm same) answered
        exact .giveUp sound (.withManager registered rfl root content) roles
      · obtain ⟨root, content⟩ := spill_other (Ne.symm same) answered
        refine .unseen sound (.withManager registered rfl root content) (fun here => absurd here same) ?_
        exact (if_neg same).trans (if_neg same).symm

theorem recordUrl_effect {caller : Caller}
    (placed : Placed object s (.spilling (.recordUrl id url .request) caller)) :
    Effect object s (.spilling (.recordUrl id url .request) caller)
      (Session.advance (s, .recordUrl id url .request)).1
      (.ofSpill (Session.advance (s, .recordUrl id url .request)).2 caller) := by
  have lookup := fun manager : LocalObjectManager => FiniteMap.lookup_insert manager.directory id url object
  simp only [Session.advance]
  split
  · rename_i unregistered
    refine .giveUp sound (.refl s) (.inl (if_neg fun same => ?_))
    exact place_unregistered unregistered (placed same)
  · rename_i manager registered
    obtain ⟨listing, copied, rooted⟩ := registered_traces object registered
    by_cases same : id = object
    · subst same
      refine ⟨fun other found => ?_, trivial, rooted.symm, .record, ?_, fun forgets => by cases forgets⟩
      · cases ((lookup manager).trans (if_pos rfl)).symm.trans found
        exact rooted.symm.trans (placed rfl)
      · have after : view id (s.withManager (manager.record id url)) = { view id s with listed := true } := by
          rw [view_withManager, show (manager.record id url).spillUrl id = _ from lookup manager]
          simp only [view, copied, if_true]
          rfl
        rw [after]
        exact .record (if_pos rfl)
    · refine .unseen sound (.withManager registered ?_ rfl rfl) trivial (if_neg same).symm
      exact (lookup manager).trans (if_neg (Ne.symm same))

theorem deleteCopy_effect {caller : Caller} :
    Effect object s (.spilling (.deleteCopy id .request) caller)
      (Session.advance (s, .deleteCopy id .request)).1
      (.ofSpill (Session.advance (s, .deleteCopy id .request)).2 caller) := by
  simp only [Session.advance]
  by_cases same : id = object
  · subst same
    have returned := returned_outside id id (.ok true) caller
      { s with plasma := s.plasma.delete id }
    refine ⟨sound, returned.2, rfl, .drop, ?_, fun forgets => by cases forgets⟩
    rw [view_delete, show role id (.ofSpill (.afterSpill id (.ok true) .request) caller) = _ from returned.1]
    exact .drop rfl
  · exact .giveUp sound (.deleteOther same) (.inl rfl)

theorem unpin_effect {update : OwnerEntry → OwnerEntry} (outside : role object p = .outside) :
    Effect object s p (Unpinning.withRefs s (s.worker.refs.unpin id update).2)
      (.afterUnpin id (s.worker.refs.unpin id update).1) := by
  have lookup := s.worker.refs.snapshot_unpin id object update
  have placed : ∀ cleared, Placed object (Unpinning.withRefs s (s.worker.refs.unpin id update).2)
      (.afterUnpin id cleared) := fun cleared => by cases cleared <;> trivial
  cases cleared : (s.worker.refs.unpin id update).1 with
  | true =>
    by_cases same : id = object
    · subst same
      refine ⟨sound, placed true, rfl, .unpin, ?_, fun forgets => by cases forgets⟩
      have after : view id (Unpinning.withRefs s (s.worker.refs.unpin id update).2) =
          { view id s with pinned := false } := by
        rw [if_pos rfl, if_pos cleared] at lookup
        simp only [view, Unpinning.withRefs, lookup]
        rfl
      rw [after, show role id (.afterUnpin id true) = .freeing from if_pos rfl]
      exact .unpin outside
    · refine .unseen sound ⟨?_, rfl, rfl⟩ (placed true) ((if_neg same).trans outside.symm)
      rw [if_neg (Ne.symm same)] at lookup
      simp only [view, Unpinning.withRefs, lookup]
      rfl
  | false =>
    refine .unseen sound ⟨?_, rfl, rfl⟩ (placed false) outside.symm
    rw [cleared, if_neg Bool.false_ne_true] at lookup
    have counted : ((s.worker.refs.unpin id update).2.snapshot object).isSome =
        (s.worker.refs.snapshot object).isSome := by
      rw [lookup]
      split
      · rename_i same
        rw [same, Option.isSome_map]
      · rfl
    simp only [view, Unpinning.withRefs, counted]
    rfl

theorem deleteEntry_effect :
    Effect object s (.deleteEntry id)
      { s with worker := { s.worker with store := s.worker.store.delete [id] } } (.deleteCopy id) :=
  .unseen sound ⟨rfl, rfl, rfl⟩ trivial rfl

theorem freeCopy_effect :
    Effect object s (.deleteCopy id) { s with plasma := s.plasma.delete id } (.forget id) := by
  by_cases same : id = object
  · subst same
    refine ⟨sound, trivial, rfl, .delete, ?_, fun forgets => by cases forgets⟩
    rw [view_delete, show role id (.forget id) = .withdrawing from if_pos rfl]
    exact .delete (if_pos rfl)
  · exact .unseen sound (.deleteOther same) trivial ((if_neg same).trans (if_neg same).symm)

theorem forget_effect :
    Effect object s (.forget id) (advance (s, .forget id)).1 (advance (s, .forget id)).2 := by
  have unlisted : entry object s = none → Effect object s (.forget object) s .idle := by
    intro gone
    refine ⟨sound, trivial, rfl, .forget, .unlisted (if_pos rfl) ?_, fun _ => rfl⟩
    simp only [view, gone, Option.isSome_none]
  simp only [advance]
  by_cases same : id = object
  · subst same
    split
    · rename_i unregistered
      exact unlisted (by rw [entry, unregistered]; rfl)
    · rename_i manager registered
      obtain ⟨listing, copied, rooted⟩ := registered_traces id registered
      have lookup := (FiniteMap.lookup_erase manager.directory id id).trans (if_pos rfl)
      split
      · rename_i gone
        exact unlisted (listing.trans gone)
      · rename_i url found
        refine ⟨fun other entered => ?_, fun _ => ?_, rooted.symm, .forget, ?_, fun _ => rfl⟩
        · cases lookup.symm.trans entered
        · exact rooted.symm.trans (sound url (listing.trans found))
        · have after : view id (s.withManager { manager with directory := manager.directory.erase id }) =
              { view id s with listed := false } := by
            rw [view_withManager, LocalObjectManager.spillUrl, lookup]
            simp only [view, copied]
            rfl
          rw [after, show role id (.removeFile id url) = .removing from if_pos rfl]
          refine .forget (if_pos rfl) ?_
          simp only [view, listing, found, Option.isSome_some]
  · split
    · exact .unseen sound (.refl s) trivial (if_neg same).symm
    · rename_i manager registered
      split
      · exact .unseen sound (.refl s) trivial (if_neg same).symm
      · refine .unseen sound (.withManager registered ?_ rfl rfl) (fun here => absurd here same)
          ((if_neg same).trans (if_neg same).symm)
        exact (FiniteMap.lookup_erase manager.directory id object).trans (if_neg (Ne.symm same))

theorem removeFile_effect (placed : Placed object s (.removeFile id url)) :
    Effect object s (.removeFile id url) (advance (s, .removeFile id url)).1
      (advance (s, .removeFile id url)).2 := by
  simp only [advance]
  split
  · rename_i unregistered
    refine .unseen sound (.refl s) trivial (if_neg fun same => ?_).symm
    exact place_unregistered unregistered (placed same)
  · rename_i manager registered
    obtain ⟨listing, copied, rooted⟩ := registered_traces object registered
    have cleared : ∀ backend, file object { manager with backend } = none →
        view object (s.withManager { manager with backend }) = { view object s with filed := false } := by
      intro backend content
      rw [view_withManager, content]
      simp only [view, listing]
      rfl
    by_cases same : id = object
    · subst same
      cases rooted.symm.trans (placed rfl)
      obtain ⟨root, content⟩ := remove_effect
        (show manager.backend.remove (home id manager) = _ from Prod.mk.eta.symm)
      have rooted' := (congrArg some root).trans rooted.symm
      refine ⟨sound_kept sound listing.symm rooted', trivial, rooted', .remove, ?_,
        fun forgets => by cases forgets⟩
      rw [cleared _ content]
      exact .remove (if_pos rfl)
    · -- another object's url takes at most the file away
      obtain ⟨root, content | content⟩ := remove_other object manager url
      · exact .unseen sound (.withManager registered rfl root content) trivial (if_neg same).symm
      · have rooted' := (congrArg some root).trans rooted.symm
        refine ⟨sound_kept sound listing.symm rooted', trivial, rooted', .lose, ?_,
          fun forgets => by cases forgets⟩
        rw [cleared _ content]
        exact .lose (if_neg same)

theorem advance_effect (placed : Placed object s p) :
    Effect object s p (advance (s, p)).1 (advance (s, p)).2 := by
  cases p with
  | idle => exact .unseen sound (.refl s) trivial rfl
  | listEntries =>
    simp only [advance]
    split <;> exact .unseen sound (.refl s) trivial rfl
  | spillNext current entries =>
    cases entries with
    | nil => exact .unseen sound (.refl s) trivial rfl
    | cons next rest =>
      simp only [advance]
      split <;> exact .unseen sound (.refl s) trivial rfl
  | spilling phase caller =>
    cases phase with
    | readCopy id spiller =>
      cases spiller with
      | request => exact readCopy_effect sound
      | pressure => exact placed.elim
    | writeFile id content spiller =>
      cases spiller with
      | request => exact writeFile_effect sound
      | pressure => exact placed.elim
    | recordUrl id url spiller =>
      cases spiller with
      | request => exact recordUrl_effect sound placed
      | pressure => exact placed.elim
    | deleteCopy id spiller =>
      cases spiller with
      | request => exact deleteCopy_effect sound
      | pressure => exact placed.elim
    | _ => exact placed.elim
  | decLocal id => exact unpin_effect sound rfl
  | removeBorrower id borrower => exact unpin_effect sound rfl
  | deleteEntry id => exact deleteEntry_effect sound
  | deleteCopy id => exact freeCopy_effect sound
  | forget id => exact forget_effect sound
  | removeFile id url => exact removeFile_effect sound placed

theorem own_effect (own : Own s p act t q) (placed : Placed object s p) : Effect object s p t q := by
  cases own with
  | step _ moved =>
    have effect := advance_effect sound placed
    rwa [moved] at effect
  | reorder here => exact .unseen sound (.refl s) trivial (here ▸ rfl)
  | spillToRecoverer here | maybeSpillForPressure here | decLocalRef here | removeBorrowerPin here =>
    exact .unseen sound (.refl s) trivial (here ▸ rfl)

end Steps

section Runs
variable {object : ObjectId}

theorem Placed.stable {s t : Session} (same : place object t = place object s) {phase : Phase}
    (placed : Placed object s phase) : Placed object t phase := by
  cases phase with
  | spilling phase caller =>
    cases phase with
    | recordUrl id url spiller =>
      cases spiller with
      | request => exact fun here => same.trans (placed here)
      | pressure => exact placed.elim
    | readCopy _ spiller | writeFile _ _ spiller | deleteCopy _ spiller =>
      cases spiller with
      | request => trivial
      | pressure => exact placed.elim
    | _ => exact placed.elim
  | removeFile id url => exact fun here => same.trans (placed here)
  | _ => exact placed

end Runs

/-- The object is pinned; a file of it is listed, and a listing of it leads to its own
file. -/
structure Tidy (object : ObjectId) (s : Session) : Prop where
  pinned : s.worker.refs.snapshot object ≠ none
  listed : copy object s ≠ none → entry object s ≠ none
  placed : ∀ url, entry object s = some url → place object s = some url

section Samples

def sampleObject : ObjectId := .nil 28

def sampleManager : LocalObjectManager := ⟨.empty 7, ∅⟩

/-- One object in plasma with one local reference, over the threshold. -/
def sampleSession : Session :=
  Session.sealedSession ⟨.start .newest (.nil 16) (some sampleManager) 0, ⟨.onePage, ∅⟩⟩ sampleObject
    (.pickle5 false) [4, 5]

theorem idle_lets (s : Session) (own : Phase) (act : Act) : Lets s .idle own act := by
  cases act with
  | step => exact nofun
  | _ => trivial

end Samples

end Rayd.Core.Freeing
