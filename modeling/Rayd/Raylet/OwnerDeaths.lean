import Rayd.Core.RefHistory
import Rayd.Raylet.Directory
import Rayd.Raylet.WatchNodes

/-! An owner driver whose raylet watches the cluster's nodes. A node reported dead
reaches the owner sink if the index took it in, and the sink does nothing about it:
its borrows and listings go only with the removals it sent itself. The driver's own
operations are calls of its reference counter with anything done to the rest of the
worker. -/
namespace Rayd.Raylet.Deaths
open Memory Core Gcs Threads Transition

/-- `WorkerOwnerSink` has the trait's empty default. -/
def onOwnerDied (owner : Registration.Owner) (_deadNodeId : NodeId) : Registration.Owner := owner

structure System where
  cluster : Watch.Cluster
  owner : Pool Registration.Owner Registration.Phase

namespace System

def directory (s : System) : ObjectDirectory := s.owner.shared.directory

def session (s : System) : Session := s.owner.shared.session

end System

inductive Event where
  | watch (event : Watch.Event)
  | handler (thread : Nat) (act : Registration.Act)
  | driver (call : RefCall)

/-- The driver leaves borrowers to the sink. -/
def Unborrowing : RefCall → Prop
  | .addBorrower .. | .removeBorrower .. => False
  | _ => True

inductive Step (self : NodeId) (s : System) : Event → System → Prop where
  | watch : Watch.Step s.cluster event cluster →
      Step self s (.watch event) ⟨cluster, { s.owner with
        shared := (cluster.deaths.drop s.cluster.deaths.length).foldl onOwnerDied s.owner.shared }⟩
  | handler : Threads.Step (Registration.Own self) s.owner (thread, act) owner →
      Step self s (.handler thread act) { s with owner }
  | driver : Unborrowing call → session.worker.refs = (s.session.worker.refs.call call).2 →
      Step self s (.driver call)
        { s with owner := { s.owner with shared := { s.owner.shared with session } } }

def reportsDead (event : NodeEvent) (node : NodeId) : Prop :=
  ∃ info, event.node = some info ∧ info.status = .dead ∧ info.about? = some node

/-- The raylet has been told that the node is dead. -/
def Died (node : NodeId) (history : List Event) : Prop :=
  ∃ event, .watch (.received event) ∈ history ∧ reportsDead event node

/-- What an act says about a node as a borrower of an object. -/
def borrowing (object : ObjectId) (node : NodeId) : Registration.Act → Option Bool
  | .registerObject objectId nodeId =>
    if (Registration.parseIds objectId nodeId).toOption = some (object, node) then some true else none
  | .waitForRefRemoved objectId nodeId =>
    if (Registration.parseIds objectId nodeId).toOption = some (object, node) then some false else none
  | _ => none

/-- The same for the directory, where the owner enters itself. -/
def listing (self : NodeId) (object : ObjectId) (node : NodeId) : Registration.Act → Option Bool
  | .registerSelf listed => if listed = object ∧ node = self then some true else none
  | .deregisterSelf listed => if listed = object ∧ node = self then some false else none
  | act => borrowing object node act

def latest (note : Registration.Act → Option Bool) (history : List Event) : Option Bool :=
  (history.filterMap fun
    | .handler _ act => note act
    | _ => none).getLast?

/-- Everything the node ever registered it has removed again, and no handler is busy
with it. -/
def Withdrawn (self node : NodeId) (history : List Event) (s : System) : Prop :=
  (∀ object, latest (listing self object node) history ≠ some true ∧
    latest (borrowing object node) history ≠ some true) ∧
  ∀ thread object, (s.owner.threads thread).pending? ≠ some (object, node)

/-- A node dies after it has withdrawn from everything and registers nothing more, and
a registration and a removal for one object and node do not overlap. -/
def Orderly (self : NodeId) (s : List Event × System) : Event → Prop
  | .watch (.received event) => ∀ node, reportsDead event node → Withdrawn self node s.1 s.2
  | .handler thread act => Unopposed Registration.Lets s.2.owner (thread, act) ∧
      ∀ object node, listing self object node act = some true → ¬ Died node s.1
  | _ => True

section Steps
variable {self : NodeId} {history : List Event} {s : System}

theorem latest_handler (note : Registration.Act → Option Bool) (history : List Event) (thread : Nat)
    (act : Registration.Act) :
    latest note (history ++ [.handler thread act]) = (note act).or (latest note history) := by
  simp only [latest, List.filterMap_append, List.getLast?_append]
  congr 1
  cases noted : note act <;> simp [noted]

theorem latest_other (note : Registration.Act → Option Bool) (history : List Event) {event : Event}
    (other : ∀ thread act, event ≠ .handler thread act) :
    latest note (history ++ [event]) = latest note history := by
  cases event with
  | handler thread act => exact absurd rfl (other thread act)
  | watch | driver => simp [latest]

theorem died_append {event : Event} :
    Died node (history ++ [event]) ↔ Died node history ∨
      ∃ received, event = .watch (.received received) ∧ reportsDead received node := by
  constructor
  · rintro ⟨received, member, dead⟩
    rcases List.mem_append.mp member with old | new
    · exact .inl ⟨received, old, dead⟩
    · exact .inr ⟨received, (List.mem_singleton.mp new).symm, dead⟩
  · rintro (⟨received, member, dead⟩ | ⟨received, rfl, dead⟩)
    · exact ⟨received, List.mem_append_left _ member, dead⟩
    · exact ⟨received, List.mem_append_right _ (List.mem_singleton.mpr rfl), dead⟩

theorem listing_of_borrowing {object : ObjectId} {node : NodeId} {act : Registration.Act}
    (noted : borrowing object node act = some flag) : listing self object node act = some flag := by
  cases act with
  | registerSelf | deregisterSelf => cases noted
  | _ => exact noted

theorem borrowing_request {objectId nodeId : Bytes} {key : ObjectId × NodeId}
    (parsed : Registration.parseIds objectId nodeId = .ok key) (object : ObjectId) (node : NodeId) :
    borrowing object node (.registerObject objectId nodeId) =
        (if key = (object, node) then some true else none) ∧
      borrowing object node (.waitForRefRemoved objectId nodeId) =
        (if key = (object, node) then some false else none) := by
  simp only [borrowing, parsed, Except.toOption, Option.some.injEq, and_self]

theorem borrowing_refused {objectId nodeId : Bytes}
    (refused : Registration.parseIds objectId nodeId = .error status) (object : ObjectId) (node : NodeId) :
    borrowing object node (.registerObject objectId nodeId) = none ∧
      borrowing object node (.waitForRefRemoved objectId nodeId) = none := by
  simp only [borrowing, refused, Except.toOption, reduceCtorEq, if_false, and_self]

/-- The directory does as the act says, for the object and node it is about. -/
theorem locations_own {owner after : Registration.Owner} {phase next : Registration.Phase}
    (own : Registration.Own self owner phase act after next) (object : ObjectId) (node : NodeId) :
    node ∈ after.directory.locations object ↔ listing self object node act = some true ∨
      listing self object node act = none ∧ node ∈ owner.directory.locations object := by
  cases own with
  | registerObject _ parsed =>
    simp only [listing, (borrowing_request parsed object node).1, ObjectDirectory.locations_register,
      Prod.mk.injEq]
    grind
  | waitForRefRemoved _ parsed =>
    simp only [listing, (borrowing_request parsed object node).2, ObjectDirectory.locations_remove,
      Prod.mk.injEq]
    grind
  | registerSelf =>
    simp only [listing, ObjectDirectory.locations_register]
    grind
  | deregisterSelf =>
    simp only [listing, ObjectDirectory.locations_remove]
    grind
  | registerRefused _ refused => simp [listing, (borrowing_refused refused object node).1]
  | waitRefused _ refused => simp [listing, (borrowing_refused refused object node).2]
  | addBorrower | removeBorrower => simp [listing, borrowing]

theorem borrowers_own {owner after : Registration.Owner} {phase next : Registration.Phase}
    (own : Registration.Own self owner phase act after next) {object : ObjectId} {node : NodeId}
    (member : node ∈ after.session.borrowers object) :
    phase = .addBorrower object node ∨
      node ∈ owner.session.borrowers object ∧ phase ≠ .removeBorrower object node := by
  cases own with
  | addBorrower same =>
    subst same
    simp only [Session.borrowers_addBorrowerPin] at member
    split at member
    · rename_i here
      subst here
      rcases Finset.mem_insert.mp member with rfl | old
      · exact .inl rfl
      · exact .inr ⟨old, fun other => by cases other⟩
    · exact .inr ⟨member, fun other => by cases other⟩
  | removeBorrower same =>
    subst same
    simp only [Session.borrowers_removeBorrowerPin] at member
    split at member
    · rename_i here
      subst here
      obtain ⟨different, old⟩ := Finset.mem_erase.mp member
      refine .inr ⟨old, fun other => ?_⟩
      cases other
      exact different rfl
    · rename_i elsewhere
      refine .inr ⟨member, fun other => ?_⟩
      cases other
      exact elsewhere rfl
  | registerObject finished | registerRefused finished | waitForRefRemoved finished | waitRefused finished
  | registerSelf finished | deregisterSelf finished =>
    refine .inr ⟨member, ?_⟩
    rintro rfl
    cases finished

theorem adds_own {owner after : Registration.Owner} {phase next : Registration.Phase}
    (own : Registration.Own self owner phase act after next) {object : ObjectId} {node : NodeId}
    (adds : next = .addBorrower object node) : borrowing object node act = some true := by
  cases own with
  | registerObject _ parsed =>
    cases adds
    exact (borrowing_request parsed object node).1.trans (if_pos rfl)
  | _ => cases adds

theorem pending_cases {phase : Registration.Phase} {object : ObjectId} {node : NodeId}
    (busy : phase.pending? = some (object, node)) :
    phase = .addBorrower object node ∨ phase = .removeBorrower object node := by
  cases phase with
  | addBorrower | removeBorrower =>
    cases busy
    simp
  | _ => cases busy

/-- A request about the object and node is served only by a handler that was free, and
makes it busy with them. -/
theorem pending_own {owner after : Registration.Owner} {phase next : Registration.Phase}
    (own : Registration.Own self owner phase act after next) {object : ObjectId} {node : NodeId}
    (noted : borrowing object node act = some flag) : next.pending? = some (object, node) := by
  cases own with
  | registerObject _ parsed =>
    rw [(borrowing_request parsed object node).1] at noted
    split at noted
    · rename_i same
      cases same
      rfl
    · cases noted
  | waitForRefRemoved _ parsed =>
    rw [(borrowing_request parsed object node).2] at noted
    split at noted
    · rename_i same
      cases same
      rfl
    · cases noted
  | registerRefused _ refused => cases (borrowing_refused refused object node).1.symm.trans noted
  | waitRefused _ refused => cases (borrowing_refused refused object node).2.symm.trans noted
  | _ => cases noted

/-- While a handler is to add a borrower, nobody asks for its removal. -/
theorem unasked {own : Registration.Phase} {act : Registration.Act} {object : ObjectId} {node : NodeId}
    {owner : Registration.Owner} (lets : Registration.Lets owner (.addBorrower object node) own act) :
    borrowing object node act ≠ some false := by
  cases act with
  | waitForRefRemoved objectId nodeId =>
    cases parsed : Registration.parseIds objectId nodeId with
    | error status => simp only [borrowing, parsed, Except.toOption, reduceCtorEq, if_false, ne_eq, not_false_eq_true]
    | ok key =>
      rw [(borrowing_request parsed object node).2]
      split
      · rename_i same
        exact absurd rfl (lets object node (same ▸ parsed))
      · exact nofun
  | registerObject =>
    simp only [borrowing]
    split <;> exact nofun
  | _ => exact nofun

end Steps

/-- What the tables owe to the requests so far. -/
structure Noted (home : NodeId) (history : List Event) (s : System) : Prop where
  listed : ∀ object node, node ∈ s.directory.locations object →
    latest (listing home object node) history = some true
  borrowed : ∀ object node, node ∈ s.session.borrowers object →
    latest (borrowing object node) history = some true ∨
      ∃ thread, (s.owner.threads thread).pending? = some (object, node)
  adding : ∀ thread object node, s.owner.threads thread = .addBorrower object node →
    latest (borrowing object node) history = some true
  pinned : s.session.worker.refs.Pinned
  gone : ∀ node, Died node history → ∀ object, node ∉ s.directory.locations object ∧
    node ∉ s.session.borrowers object ∧ ∀ thread, s.owner.threads thread ≠ .addBorrower object node

namespace Noted
variable {self : NodeId} {history : List Event} {s : System}

theorem handler {owner : Pool Registration.Owner Registration.Phase} (noted : Noted self history s)
    (unopposed : Unopposed Registration.Lets s.owner (thread, act))
    (alive : ∀ object node, listing self object node act = some true → ¬ Died node history)
    (step : Threads.Step (Registration.Own self) s.owner (thread, act) owner) :
    Noted self (history ++ [.handler thread act]) { s with owner } := by
  cases step with
  | @act _ _ shared phase own =>
    have still : ∀ node, Died node (history ++ [.handler thread act]) → Died node history := by
      intro node died
      rcases died_append.mp died with old | ⟨received, other, _⟩
      · exact old
      · cases other
    refine ⟨?listed, ?borrowed, ?adding, ?pinned, ?gone⟩
    case listed =>
      intro object node member
      rw [latest_handler]
      rcases (locations_own own object node).mp member with now | ⟨silent, before⟩
      · rw [now]
        rfl
      · rw [silent]
        exact noted.listed object node before
    case borrowed =>
      intro object node member
      rw [latest_handler]
      cases asks : borrowing object node act with
      | some flag =>
        refine .inr ⟨thread, ?_⟩
        rw [Pool.set_self]
        exact pending_own own asks
      | none =>
        rw [Option.none_or]
        rcases borrowers_own own member with adds | ⟨before, keeps⟩
        · exact .inl (noted.adding thread object node adds)
        · rcases noted.borrowed object node before with asked | ⟨other, busy⟩
          · exact .inl asked
          · by_cases same : other = thread
            · subst same
              have adds := (pending_cases busy).resolve_right keeps
              exact .inl (noted.adding other object node adds)
            · refine .inr ⟨other, ?_⟩
              rwa [Pool.set_ne _ same]
    case adding =>
      intro other object node adds
      rw [latest_handler]
      by_cases same : other = thread
      · subst same
        rw [Pool.set_self] at adds
        rw [adds_own own adds]
        rfl
      · rw [Pool.set_ne _ same] at adds
        have kept : borrowing object node act ≠ some false := unasked (adds ▸ unopposed other same)
        cases asked : borrowing object node act with
        | none => exact noted.adding other object node adds
        | some flag =>
          cases flag with
          | false => exact absurd asked kept
          | true => rfl
    case pinned =>
      cases own with
      | addBorrower => exact noted.pinned.call (.addBorrower _ _)
      | removeBorrower =>
        simp only [System.session, Pool.set, Session.removeBorrowerPin, Session.release_refs]
        exact noted.pinned.call (.removeBorrower _ _)
      | _ => exact noted.pinned
    case gone =>
      intro node died object
      obtain ⟨unlisted, unborrowed, unasked⟩ := noted.gone node (still node died) object
      refine ⟨fun member => ?_, fun member => ?_, fun other adds => ?_⟩
      · rcases (locations_own own object node).mp member with now | ⟨_, before⟩
        · exact alive object node now (still node died)
        · exact unlisted before
      · rcases borrowers_own own member with adds | ⟨before, _⟩
        · exact unasked thread adds
        · exact unborrowed before
      · by_cases same : other = thread
        · subst same
          rw [Pool.set_self] at adds
          exact alive object node (listing_of_borrowing (adds_own own adds)) (still node died)
        · rw [Pool.set_ne _ same] at adds
          exact unasked other adds

/-- What happens besides the handlers adds no borrower and no listing. -/
theorem elsewhere {t : System} {event : Event} (noted : Noted self history s)
    (other : ∀ thread act, event ≠ .handler thread act) (directory : t.directory = s.directory)
    (threads : t.owner.threads = s.owner.threads)
    (borrowers : ∀ object, t.session.borrowers object ⊆ s.session.borrowers object)
    (pinned : t.session.worker.refs.Pinned)
    (orderly : ∀ received node, event = .watch (.received received) → reportsDead received node →
      Withdrawn self node history s) : Noted self (history ++ [event]) t := by
  refine ⟨fun object node member => ?_, fun object node member => ?_, fun thread object node adds => ?_,
    pinned, fun node died object => ?_⟩
  · rw [latest_other _ _ other]
    exact noted.listed object node (directory ▸ member)
  · rw [latest_other _ _ other, threads]
    exact noted.borrowed object node (borrowers object member)
  · rw [latest_other _ _ other]
    exact noted.adding thread object node (threads ▸ adds)
  · rw [directory, threads]
    have gone : node ∉ s.directory.locations object ∧ node ∉ s.session.borrowers object ∧
        ∀ thread, s.owner.threads thread ≠ .addBorrower object node := by
      rcases died_append.mp died with old | ⟨received, same, dead⟩
      · exact noted.gone node old object
      · obtain ⟨withdrawn, free⟩ := orderly received node same dead
        refine ⟨fun member => ?_, fun member => ?_, fun thread adds => ?_⟩
        · exact (withdrawn object).1 (noted.listed object node member)
        · rcases noted.borrowed object node member with asked | ⟨thread, busy⟩
          · exact (withdrawn object).2 asked
          · exact free thread object busy
        · exact free thread object (adds ▸ rfl)
    exact ⟨gone.1, fun member => gone.2.1 (borrowers object member), gone.2.2⟩

end Noted

section Runs
variable {self : NodeId}

/-- A pin or a release that does not look at the borrowers keeps them, or takes the
entry away. -/
theorem borrowers_call (refs : RefCounter) {call : RefCall} (unborrowing : Unborrowing call)
    (object : ObjectId) : ((refs.call call).2.snapshot object).elim ∅ OwnerEntry.borrowers ⊆
      (refs.snapshot object).elim ∅ OwnerEntry.borrowers := by
  have pin : ∀ id update, (∀ entry, OwnerEntry.borrowers (update entry) = entry.borrowers) →
      ((refs.pin id update).snapshot object).elim ∅ OwnerEntry.borrowers ⊆
        (refs.snapshot object).elim ∅ OwnerEntry.borrowers := by
    intro id update same
    rw [RefCounter.snapshot_pin]
    split
    · rename_i here
      subst here
      rw [Option.elim_some, same]
      cases refs.snapshot object <;> exact Finset.Subset.refl _
    · exact Finset.Subset.refl _
  have unpin : ∀ id update, (∀ entry, OwnerEntry.borrowers (update entry) = entry.borrowers) →
      ((refs.unpin id update).2.snapshot object).elim ∅ OwnerEntry.borrowers ⊆
        (refs.snapshot object).elim ∅ OwnerEntry.borrowers := by
    intro id update same
    rw [RefCounter.snapshot_unpin]
    split
    · rename_i here
      subst here
      split
      · exact Finset.empty_subset _
      · cases refs.snapshot object with
        | none => exact Finset.Subset.refl _
        | some entry => exact (same entry).subset
    · exact Finset.Subset.refl _
  cases call with
  | addBorrower | removeBorrower => exact unborrowing.elim
  | addOwned id => exact pin id _ fun _ => rfl
  | addSubmitDep id => exact pin id _ fun _ => rfl
  | decLocal id => exact unpin id _ fun _ => rfl
  | completeSubmitDep id => exact unpin id _ fun _ => rfl
  | incLocal id =>
    simp only [RefCounter.call, RefCounter.snapshot_incLocal]
    split
    · rename_i here
      subst here
      cases refs.snapshot object <;> exact Finset.Subset.refl _
    · exact Finset.Subset.refl _
  | drainIds => exact Finset.empty_subset _

theorem foldl_onOwnerDied (dead : List NodeId) (owner : Registration.Owner) :
    dead.foldl onOwnerDied owner = owner := by
  induction dead with
  | nil => rfl
  | cons _ _ ih => exact ih

theorem noted_step {s t : List Event × System} (noted : Noted self s.1 s.2)
    (step : Guarded (Orderly self) (Recorded (Step self)) s event t) : Noted self t.1 t.2 := by
  obtain ⟨history, s⟩ := s
  obtain ⟨after, t⟩ := t
  obtain ⟨orderly, rfl, step⟩ := step
  cases step with
  | handler step => exact noted.handler orderly.1 orderly.2 step
  | driver unborrowing refs =>
    refine noted.elsewhere (fun _ _ other => by cases other) rfl rfl (fun object => ?_) ?_
      (fun _ _ other => by cases other)
    · simp only [System.session, Session.borrowers, refs]
      exact borrowers_call _ unborrowing object
    · simp only [System.session, refs]
      exact noted.pinned.call _
  | watch =>
    rw [foldl_onOwnerDied]
    refine noted.elsewhere (fun _ _ other => by cases other) rfl rfl (fun _ => Finset.Subset.refl _)
      noted.pinned (fun received node same dead => ?_)
    cases same
    exact orderly node dead

/-- A driver at its start. -/
structure Fresh (s : System) : Prop where
  directory : s.directory = .empty
  refs : s.session.worker.refs = .empty
  threads : ∀ thread, s.owner.threads thread = .idle

theorem Fresh.noted {s : System} (fresh : Fresh s) : Noted self [] s := by
  have unborrowed : ∀ object, s.session.borrowers object = ∅ := by
    intro object
    rw [Session.borrowers, fresh.refs]
    rfl
  refine ⟨fun object node member => ?_, fun object node member => ?_, fun thread object node adds => ?_,
    ?_, fun node died => ?_⟩
  · rw [fresh.directory] at member
    cases member
  · rw [unborrowed] at member
    cases member
  · cases (fresh.threads thread).symm.trans adds
  · rw [fresh.refs]
    intro id entry found
    cases found
  · obtain ⟨_, member, _⟩ := died
    cases member

/-- Where a node has withdrawn from all objects before it is reported dead and does
not come back, no borrower set and no listing has it from then on, and whatever the
counter still tracks is pinned by something else. -/
theorem withdrawn_nodes_hold_nothing {s t : System} {node : NodeId} (fresh : Fresh s)
    (run : Run (Guarded (Orderly self) (Recorded (Step self))) ([], s) path (history, t))
    (received : .watch (.received event) ∈ history) (dead : reportsDead event node) :
    (∀ object, node ∉ t.session.borrowers object ∧ node ∉ t.directory.locations object) ∧
      ∀ object entry, t.session.worker.refs.snapshot object = some entry →
        ({ entry with borrowers := entry.borrowers.erase node } : OwnerEntry).isUnpinned = false := by
  have noted := run.invariant (P := fun s => Noted self s.1 s.2) noted_step fresh.noted
  have gone := noted.gone node ⟨event, received, dead⟩
  refine ⟨fun object => ⟨(gone object).2.1, (gone object).1⟩, fun object entry found => ?_⟩
  have stranger : node ∉ entry.borrowers := by
    have unborrowed := (gone object).2.1
    rwa [Session.borrowers, found] at unborrowed
  rw [Finset.erase_eq_of_notMem stranger]
  exact noted.pinned object entry found

end Runs

section Samples
open Registration (sampleSelf sampleOwner registration removal)

def sampleSystem : System := ⟨.start (.nil 16), ⟨sampleOwner, fun _ => .idle⟩⟩

def sampleInfo (host : Host) : NodeInfo := ⟨some ⟨host, 60001, (Id.nil 16).bytes⟩, .alive, 0⟩

def deadEvent (host : Host) : NodeEvent := ⟨0, some { sampleInfo host with status := .dead }⟩

theorem deadEvent_reports (host : Host) : reportsDead (deadEvent host) (.nil 16) :=
  ⟨_, rfl, rfl, Id.fromBytes?_bytes (Id.nil 16)⟩

/-- A node registers with the control service and misses its deadline; the raylet
subscribes and is shown a dead node. -/
def deathPath (host : Host) : List Watch.Event :=
  [.gcs 0 (.register ⟨host, 60001⟩ (.nil 16) 0), .gcs 1 (.expireStale 10), .subscribed 0, .checked 0,
    .opened 0 0, .received (deadEvent host)]

theorem death_run (host : Host) (accepted : host ≠ .name "") :
    ∃ t, Run Watch.Step (.start (.nil 16)) (deathPath host) t ∧
      t.deaths = (Watch.Cluster.died? { sampleInfo host with status := .dead }
        (NodeIndex.empty.applyEvent { sampleInfo host with status := .dead }).1).toList := by
  have answered : (Registry.new (.nil 16)).register ⟨host, 60001⟩ (.nil 16) 0 =
      .ok (sampleInfo host, _) := if_neg accepted
  have run : Run Watch.Step (.start (.nil 16)) [] _ := .refl
  have run := run.next (a := .gcs 0 (.register ⟨host, 60001⟩ (.nil 16) 0))
    (.gcs (.act (.register rfl answered)))
  have run := run.next (a := .gcs 1 (.expireStale 10)) (.gcs (.act (.expireStale rfl (.refl _))))
  have run := run.next (a := .subscribed 0) (.subscribe rfl)
  have run := run.next (a := .checked 0) (.check rfl rfl)
  have run := run.next (a := .opened 0 0) (.openStream rfl)
  have run := run.next (a := .received (deadEvent host)) (.receive rfl rfl)
  exact ⟨_, run, rfl⟩

theorem latest_watched (note : Registration.Act → Option Bool) (history : List Event)
    (more : List Watch.Event) : latest note (history ++ more.map .watch) = latest note history := by
  have silent : (more.map Event.watch).filterMap (fun
      | .handler _ act => note act
      | _ => none) = [] := by
    induction more with
    | nil => rfl
    | cons _ _ ih => exact ih
  rw [latest, List.filterMap_append, silent, List.append_nil]
  rfl

theorem watched {ok : List Event × System → Event → Prop} {self : NodeId} {s : System}
    {history : List Event} (run : Run (Guarded ok (Recorded (Step self))) start path (history, s))
    (loop : Run Watch.Step s.cluster events cluster)
    (allowed : ∀ (more : List Watch.Event) cluster, ∀ event ∈ events,
      ok (history ++ more.map .watch, ⟨cluster, s.owner⟩) (.watch event)) :
    Run (Guarded ok (Recorded (Step self))) start (path ++ events.map .watch)
      (history ++ events.map .watch, ⟨cluster, s.owner⟩) := by
  induction loop with
  | refl => simpa using run
  | @next more before event after _ last ih =>
    have step : Step self ⟨before, s.owner⟩ (.watch event) ⟨after, s.owner⟩ := by
      have step : Step self ⟨before, s.owner⟩ (.watch event) _ := .watch last
      rwa [foldl_onOwnerDied] at step
    have run := (ih fun more cluster event member => allowed more cluster event
      (List.mem_append_left _ member)).record (allowed more before event (by simp)) step
    simpa only [List.map_append, List.map_singleton, List.append_assoc] using run

theorem handled {s : System} {history : List Event} (act : Registration.Act)
    (run : Run (Guarded (Orderly sampleSelf) (Recorded (Step sampleSelf))) start path (history, s))
    (only : s.owner.Only .idle) (alive : ∀ node, ¬ Died node history)
    (own : Registration.Own sampleSelf s.owner.shared (s.owner.threads 0) act shared phase) :
    Run (Guarded (Orderly sampleSelf) (Recorded (Step sampleSelf))) start (path ++ [.handler 0 act])
        (history ++ [.handler 0 act], ⟨s.cluster, s.owner.set 0 shared phase⟩) ∧
      (s.owner.set 0 shared phase).Only .idle ∧ ∀ node, ¬ Died node (history ++ [.handler 0 act]) := by
  have lets : ∀ owner own act, Registration.Lets owner .idle own act := by
    intro owner own act
    cases act with
    | registerObject | waitForRefRemoved =>
      intro object node _ busy
      cases busy
    | _ => trivial
  refine ⟨run.record ?_ (.handler (.act own)), only.set _ _, fun node died => ?_⟩
  · exact ⟨only.unopposed lets act, fun _ node _ => alive node⟩
  · rcases died_append.mp died with old | ⟨_, other, _⟩
    · exact alive node old
    · cases other

theorem withdrawn_run : ∃ path history s,
    Run (Guarded (Orderly sampleSelf) (Recorded (Step sampleSelf))) ([], sampleSystem) path (history, s) ∧
      s.cluster = .start (.nil 16) ∧ Withdrawn sampleSelf (.nil 16) history s := by
  have alive : ∀ node, ¬ Died node [] := by
    rintro node ⟨_, member, _⟩
    cases member
  have run : Run (Guarded (Orderly sampleSelf) (Recorded (Step sampleSelf))) ([], sampleSystem) []
    ([], sampleSystem) := .refl
  have only : sampleSystem.owner.Only .idle := fun _ _ => rfl
  obtain ⟨run, only, alive⟩ := handled registration run only alive (.registerObject rfl rfl)
  obtain ⟨run, only, alive⟩ := handled .sink run only alive (.addBorrower rfl)
  obtain ⟨run, only, alive⟩ := handled removal run only alive (.waitForRefRemoved rfl rfl)
  obtain ⟨run, only, _⟩ := handled .sink run only alive (.removeBorrower rfl)
  refine ⟨_, _, _, run, rfl, fun object => ?_, fun thread object busy => ?_⟩
  · have parsed : Registration.parseIds (Id.nil 28).bytes (Id.nil 16).bytes = .ok (.nil 28, .nil 16) := rfl
    have asked := borrowing_request parsed object (.nil 16)
    simp only [latest_handler, registration, removal, listing, asked.1, asked.2]
    by_cases same : ((.nil 28, .nil 16) : ObjectId × NodeId) = (object, .nil 16)
    · simp [same, borrowing]
    · simp [same, borrowing, latest]
  · have free := only.all (f := (·.pending? = none)) rfl rfl thread
    cases free.symm.trans busy

/-- After that it dies. -/
theorem withdrawn_borrower_gone :
    ∃ path history t event, Run (Guarded (Orderly sampleSelf) (Recorded (Step sampleSelf))) ([], sampleSystem)
        path (history, t) ∧ .watch (.received event) ∈ history ∧ reportsDead event (.nil 16) ∧
      Id.nil 16 ∉ t.session.borrowers (.nil 28) := by
  have fresh : Fresh sampleSystem := ⟨rfl, rfl, fun _ => rfl⟩
  obtain ⟨path, history, s, run, same, withdrawn, free⟩ := withdrawn_run
  obtain ⟨t, loop, _⟩ := death_run (.literal (.v4 10 0 0 2)) (by decide)
  rw [← same] at loop
  have run := watched run loop ?allowed
  case allowed =>
    intro more cluster event member
    simp only [deathPath, List.mem_cons, List.not_mem_nil, or_false] at member
    rcases member with rfl | rfl | rfl | rfl | rfl | rfl
    case inr.inr.inr.inr.inr =>
      rintro node ⟨info, carried, _, about⟩
      cases carried
      cases (Id.fromBytes?_bytes (Id.nil 16)).symm.trans about
      simp only [Withdrawn, latest_watched]
      exact ⟨withdrawn, free⟩
    all_goals trivial
  have received : Event.watch (.received (deadEvent (.literal (.v4 10 0 0 2)))) ∈
      history ++ (deathPath (.literal (.v4 10 0 0 2))).map .watch := by simp [deathPath]
  have gone := withdrawn_nodes_hold_nothing fresh run received (deadEvent_reports _)
  exact ⟨_, _, _, _, run, received, deadEvent_reports _, (gone.1 (.nil 28)).1⟩

/-- A node under this host borrows an object and is reported dead to the raylet, with
these calls of the sink; it is still listed as a borrower and as a holder. -/
def Kept (host : Host) (deaths : List NodeId) : Prop :=
  ∃ path t, Run (Step sampleSelf) sampleSystem path t ∧
    .watch (.received (deadEvent host)) ∈ path ∧ reportsDead (deadEvent host) (.nil 16) ∧
    t.cluster.deaths = deaths ∧
    Id.nil 16 ∈ t.session.borrowers (.nil 28) ∧ Id.nil 16 ∈ t.directory.locations (.nil 28)

theorem kept_of_accepted {host : Host} (accepted : host ≠ .name "") :
    Kept host (Watch.Cluster.died? { sampleInfo host with status := .dead }
      (NodeIndex.empty.applyEvent { sampleInfo host with status := .dead }).1).toList := by
  obtain ⟨t, loop, deaths⟩ := death_run host accepted
  have listed : Id.nil 16 ∈ (sampleOwner.session.addBorrowerPin (.nil 28) (.nil 16)).borrowers (.nil 28) ∧
      Id.nil 16 ∈ (sampleOwner.directory.register (.nil 28) (.nil 16)).locations (.nil 28) := by decide
  have run : Run (Guarded (fun _ _ => True) (Recorded (Step sampleSelf))) ([], sampleSystem) [] _ := .refl
  have run := run.record (a := .handler 0 registration) trivial (.handler (.act (.registerObject rfl rfl)))
  have run := run.record (a := .handler 0 .sink) trivial (.handler (.act (.addBorrower rfl)))
  have run := (watched run loop fun _ _ _ _ => trivial).unrecord
  refine ⟨_, _, run, ?_, deadEvent_reports host, deaths, listed.1, listed.2⟩
  simp [deathPath]

/-- The sink is called for a node under an address and does nothing; for a node under
a name it is not called. -/
theorem dead_borrower_kept : Kept (.literal (.v4 10 0 0 2)) [.nil 16] ∧ Kept (.name "driver") [] :=
  ⟨kept_of_accepted (by decide), kept_of_accepted (by decide)⟩

end Samples

end Rayd.Raylet.Deaths
