import Rayd.Core.Spilling
import Rayd.Plasma.Integrity
import Rayd.Rpc

/-! A driver and a raylet on one node: two plasma clients, each behind its own mutex,
one plasma server and one object manager. `spill_to_recoverer` and `resolve_now` use
the driver's client, `Pull` with its restore the raylet's. All calls are about one
object. A mutex is taken with the first request of a client call and given back after
its last. Metrics and a caller that closes its stream are left out. -/
namespace Rayd.Plasma.Interleaving.Phase

/-- The `create_and_seal` the client is in. -/
def call? : Phase → Option Call
  | .idle => none
  | .check call | .allocMetadata call | .allocData call _ | .insert call _ _
  | .writeMetadata call _ | .writeData call _ | .sealing call _ => some call

/-- The slot of an entry that the client has inserted and not sealed yet. -/
def slot? : Phase → Option SlotInfo
  | .writeMetadata _ info | .writeData _ info | .sealing _ info => some info
  | _ => none

/-- Steps to the end of the call. -/
def stepsLeft : Phase → Nat
  | .idle => 0
  | .sealing .. => 1
  | .writeData .. => 2
  | .writeMetadata .. => 3
  | .insert .. => 4
  | .allocData .. => 5
  | .allocMetadata .. => 6
  | .check .. => 7

end Rayd.Plasma.Interleaving.Phase

namespace Rayd.Raylet.Pull
open Memory Plasma Core Spill Threads Transition Function

def pullChunkSize : Nat := 64 * 1024

def kindText : ServerErrorKind → String
  | .notFound => "NotFound"
  | .alreadyExists => "AlreadyExists"
  | .outOfMemory => "OutOfMemory"
  | .notSealed => "NotSealed"
  | .alreadySealed => "AlreadySealed"
  | .internal => "Internal"

def plasmaErrorText : PlasmaError → String
  | .server kind message => "plasma server error: " ++ kindText kind ++ ": " ++ message
  | .protocol message => "plasma protocol mismatch: " ++ message

def plasmaToStatus : PlasmaError → Status
  | .server .notFound _ => ⟨.notFound, "object not present in plasma"⟩
  | .server .notSealed _ => ⟨.failedPrecondition, "object exists but is unsealed"⟩
  | failure => ⟨.internal, "plasma: " ++ plasmaErrorText failure⟩

/-- What the client makes of the answer to a create or a seal. -/
def outcome (request : String) : Response → Except PlasmaError Unit
  | .ok => .ok ()
  | .error kind message => .error (.server kind message)
  | _ => .error (.protocol ("unexpected reply to " ++ request))

inductive Side where
  | driver | raylet
  deriving DecidableEq

def Side.client : Side → Nat
  | .driver => 0
  | .raylet => 1

/-- The frames of a `Pull` that was served to its end. -/
structure Pulled where
  metadata : Bytes
  dataSize : Nat
  frames : List Bytes

/-- On whose behalf a read handle is asked for. -/
inductive Reader where
  | spill
  | resolve (index : PlasmaIndex)
  | pull
  /-- `Pull` once more, after it has restored the object. -/
  | reopen
  deriving DecidableEq

def Reader.side : Reader → Side
  | .spill | .resolve _ => .driver
  | .pull | .reopen => .raylet

/-- On whose behalf a spilled object is restored. -/
inductive Restorer where
  | resolve (index : PlasmaIndex)
  | pull

def Restorer.side : Restorer → Side
  | .resolve _ => .driver
  | .pull => .raylet

inductive Phase where
  | idle
  | lookUp
  | get (reader : Reader)
  /-- With an open handle, and the client locked. -/
  | copy (reader : Reader) (info : SlotInfo)
  | writeFile (object : RestoredObject)
  | recordUrl (url : Text)
  | deleteCopy
  | findUrl (restorer : Restorer)
  | restore (restorer : Restorer) (url : Text)
  | purge (restorer : Restorer) (failure : SpillError)
  | create (restorer : Restorer) (object : RestoredObject)
  /-- Inside `create_and_seal`, and the client locked. -/
  | resealing (restorer : Restorer) (object : RestoredObject)
  /-- Slicing the handle's data, up to `start` so far. -/
  | streaming (info : SlotInfo) (metadata : Bytes) (start : Nat) (frames : List Bytes)
  | spilled (result : Except CoreError Bool)
  | resolved (result : Except CoreError (Option RayObject))
  | pulled (result : Except Status Pulled)

namespace Phase

def finished : Phase → Bool
  | .idle | .spilled _ | .resolved _ | .pulled _ => true
  | _ => false

/-- The mutex the thread is in. -/
def inside : Phase → Side → Bool
  | .copy reader _, side => decide (reader.side = side)
  | .resealing restorer _, side => decide (restorer.side = side)
  | _, _ => false

end Phase

/-- The handle is open: spill and resolve copy its bytes before they unlock, `Pull`
only its metadata. -/
def Reader.opened (info : SlotInfo) (view : Bytes × Bytes) : Reader → Phase
  | .spill => .writeFile ⟨view.1, view.2⟩
  | .resolve index => .resolved (.ok (some ⟨index.metadata, view.2⟩))
  | .pull | .reopen => .streaming info view.1 0 []

def Reader.failed (failure : PlasmaError) : Reader → Phase
  | .spill => match failure with
    | .server .notFound _ => .spilled (.ok false)
    | _ => .spilled (.error (.plasma failure))
  | .resolve index => match failure with
    | .server .notFound _ => .findUrl (.resolve index)
    | _ => .resolved (.error (.plasma failure))
  | .pull => match failure with
    | .server .notFound _ => .findUrl .pull
    | _ => .pulled (.error (plasmaToStatus failure))
  | .reopen => .pulled (.error (plasmaToStatus failure))

/-- `resolve_now` has the bytes in hand; `Pull` opens a handle on them. -/
def Restorer.resealed (object : RestoredObject) (result : Except PlasmaError Unit) : Restorer → Phase
  | .resolve index => match result with
    | .ok _ | .error (.server .alreadyExists _) => .resolved (.ok (some ⟨index.metadata, object.data⟩))
    | .error failure => .resolved (.error (.plasma failure))
  | .pull => match result with
    | .ok _ | .error (.server .alreadyExists _) => .get .reopen
    | .error failure => .pulled (.error (plasmaToStatus failure))

def Restorer.unmanaged (object : ObjectId) : Restorer → Phase
  | .resolve _ => .resolved (.error (missing object " not in plasma and no recoverer registered"))
  | .pull => .pulled (.error ⟨.notFound, "object not present in plasma"⟩)

def Restorer.unspilled (object : ObjectId) : Restorer → Phase
  | .resolve _ => .resolved (.error (missing object " not in plasma and not held by any recoverer"))
  | .pull => .pulled (.error ⟨.notFound, "object not present in plasma or spill"⟩)

def Restorer.unreadable (object : ObjectId) (failure : SpillError) : Restorer → Phase
  | .resolve _ => .resolved (.error (.recovery (hex object.bytes)
      ("spill restore: ".toList ++ spillErrorText failure)))
  | .pull => .pulled (.error ⟨.internal, "spill restore: " ++ String.ofList (spillErrorText failure)⟩)

/-- The steps that need no plasma client. -/
def advance (object : ObjectId) (worker : CoreWorker) : Phase → Option (CoreWorker × Phase)
  | .lookUp => some (worker, match worker.store.getEntry object with
    | none => .resolved (.ok none)
    | some (.inline value) => .resolved (.ok (some value))
    | some (.plasma index) => .get (.resolve index))
  | .writeFile value => some <| match worker.recoverer with
    | none => (worker, .spilled (.error (unregistered object)))
    | some manager => match manager.backend.spill object value.metadata value.data with
      | (.error failure, backend) => ({ worker with recoverer := some { manager with backend } },
          .spilled (.error (.recovery (hex object.bytes)
            ("recoverer: spill store: ".toList ++ spillErrorText failure))))
      | (.ok url, backend) => ({ worker with recoverer := some { manager with backend } }, .recordUrl url)
  | .recordUrl url => some <| match worker.recoverer with
    | none => (worker, .spilled (.error (unregistered object)))
    | some manager => ({ worker with recoverer := some (manager.record object url) }, .deleteCopy)
  | .findUrl restorer => some (worker, match worker.recoverer with
    | none => restorer.unmanaged object
    | some manager => match manager.spillUrl object with
      | none => restorer.unspilled object
      | some url => .restore restorer url)
  | .restore restorer url => some (worker, match worker.recoverer with
    | none => restorer.unmanaged object
    | some manager => match manager.backend.restore url with
      | .ok value => .create restorer value
      | .error failure => .purge restorer failure)
  | .purge restorer failure => some <| match worker.recoverer with
    | none => (worker, restorer.unmanaged object)
    | some manager => ({ worker with recoverer := some { manager with
        directory := manager.directory.erase object } }, restorer.unreadable object failure)
  | _ => none

structure Node where
  plasma : Interleaving.System
  /-- What has happened at the plasma server, newest last. -/
  history : List Interleaving.Event
  locked : Side → Bool
  /-- The driver's; its recoverer is the raylet's object manager. -/
  worker : CoreWorker

namespace Node

def record (s : Node) (event : Interleaving.Event) (plasma : Interleaving.System) : Node :=
  { s with plasma, history := s.history ++ [event] }

def setLock (s : Node) (side : Side) (taken : Bool) : Node :=
  { s with locked := update s.locked side taken }

end Node

inductive Operation where
  | spillToRecoverer | resolveNow | pull

inductive Act where
  | call (operation : Operation)
  | work
  | get (reader : Reader)
  | copy
  | create
  | serve (event : Interleaving.Event)
  | delete
  | frame

/-- A step of this client's `create_and_seal` that is not its last. -/
def Serves (client : Nat) : Interleaving.Event → Prop
  | .checked c _ | .allocated c _ | .inserted c _ _ | .wroteMetadata c _ _ | .wrote c _ _ => c = client
  | _ => False

/-- The last step of this client's `create_and_seal`. -/
def Ends (client : Nat) : Interleaving.Event → Prop
  | .refused c _ _ | .sealed c _ _ _ => c = client
  | _ => False

inductive Own (object : ObjectId) (s : Node) (phase : Phase) : Act → Node → Phase → Prop where
  | spillUnregistered : phase.finished = true → s.worker.recoverer = none →
      Own object s phase (.call .spillToRecoverer) s (.spilled (.error (unregistered object)))
  | spillToRecoverer : phase.finished = true → s.worker.recoverer = some manager →
      Own object s phase (.call .spillToRecoverer) s (.get .spill)
  | resolveNow : phase.finished = true → Own object s phase (.call .resolveNow) s .lookUp
  | pull : phase.finished = true → Own object s phase (.call .pull) s (.get .pull)
  | work : advance object s.worker phase = some (worker, next) →
      Own object s phase .work { s with worker } next
  | get : phase = .get reader → s.locked reader.side = false →
      s.plasma.clients reader.side.client = .idle → s.plasma.server.handleGet object = .got info →
      Own object s phase (.get reader)
        ((s.record (.got reader.side.client object (.got info)) s.plasma).setLock reader.side true)
        (.copy reader info)
  | getFailed : phase = .get reader → s.locked reader.side = false →
      s.plasma.clients reader.side.client = .idle →
      s.plasma.server.handleGet object = .error kind message →
      Own object s phase (.get reader)
        (s.record (.got reader.side.client object (.error kind message)) s.plasma)
        (reader.failed (.server kind message))
  | copy : phase = .copy reader info →
      Own object s phase .copy (s.setLock reader.side false) (reader.opened info (s.plasma.server.view info))
  | create : phase = .create restorer value → s.locked restorer.side = false →
      s.plasma.clients restorer.side.client = .idle →
      Own object s phase .create
        ((s.record (.started restorer.side.client ⟨object, value.metadata, value.data⟩)
          (s.plasma.move s.plasma.server restorer.side.client
            (.check ⟨object, value.metadata, value.data⟩))).setLock restorer.side true)
        (.resealing restorer value)
  | serve : phase = .resealing restorer value → Serves restorer.side.client event →
      Interleaving.Step s.plasma event plasma →
      Own object s phase (.serve event) (s.record event plasma) (.resealing restorer value)
  | refused : phase = .resealing restorer value →
      Interleaving.Step s.plasma (.refused restorer.side.client call reply) plasma →
      Own object s phase (.serve (.refused restorer.side.client call reply))
        ((s.record (.refused restorer.side.client call reply) plasma).setLock restorer.side false)
        (restorer.resealed value (outcome "Create" reply))
  | sealed : phase = .resealing restorer value →
      Interleaving.Step s.plasma (.sealed restorer.side.client call info reply) plasma →
      Own object s phase (.serve (.sealed restorer.side.client call info reply))
        ((s.record (.sealed restorer.side.client call info reply) plasma).setLock restorer.side false)
        (restorer.resealed value (outcome "Seal" reply))
  | delete : phase = .deleteCopy → s.locked .driver = false → s.plasma.clients Side.driver.client = .idle →
      Own object s phase .delete
        (s.record (.deleted Side.driver.client object)
          (s.plasma.move (s.plasma.server.handleDelete object).2 Side.driver.client .idle))
        (.spilled (.ok true))
  | frame : phase = .streaming info metadata start frames → start < info.dataSize →
      Own object s phase .frame s
        (.streaming info metadata (min (start + pullChunkSize) info.dataSize)
          (frames ++
            [((s.plasma.server.view info).2.take (min (start + pullChunkSize) info.dataSize)).drop start]))
  | streamed : phase = .streaming info metadata start frames → info.dataSize ≤ start →
      Own object s phase .frame s (.pulled (.ok ⟨metadata, info.dataSize, frames⟩))

section Mutexes
variable {object : ObjectId} {s t : Node} {p q : Phase} {act : Act} {side : Side}

theorem Side.client_injective {side other : Side} (same : side.client = other.client) : side = other := by
  cases side <;> cases other <;> first | rfl | cases same

/-- Stages left to the return of a call, and bytes left of its stream. -/
def Phase.remaining (s : Node) : Phase → Nat × Nat
  | .idle | .spilled _ | .resolved _ | .pulled _ => (0, 0)
  | .streaming info _ start _ => (1, info.dataSize - start)
  | .purge .. => (1, 0)
  | .deleteCopy => (2, 0)
  | .recordUrl _ => (3, 0)
  | .writeFile _ => (4, 0)
  | .copy .. => (5, 0)
  | .get .reopen => (6, 0)
  | .resealing restorer _ => (7 + (s.plasma.clients restorer.side.client).stepsLeft, 0)
  | .create .. => (15, 0)
  | .restore .. => (16, 0)
  | .findUrl _ => (17, 0)
  | .get _ => (18, 0)
  | .lookUp => (19, 0)

theorem finished_remaining (finished : p.finished = true) : p.remaining s = (0, 0) := by
  cases p <;> first | rfl | cases finished

theorem finished_outside (finished : p.finished = true) : p.inside side = false := by
  cases p <;> first | rfl | cases finished

theorem unmanaged_finished (restorer : Restorer) : (restorer.unmanaged object).finished = true := by
  cases restorer <;> rfl

theorem unspilled_finished (restorer : Restorer) : (restorer.unspilled object).finished = true := by
  cases restorer <;> rfl

theorem unreadable_finished (restorer : Restorer) (failure : SpillError) :
    (restorer.unreadable object failure).finished = true := by
  cases restorer <;> rfl

theorem advance_moves (moved : advance object worker p = some (after, q)) :
    (∀ side, p.inside side = false) ∧ (∀ side, q.inside side = false) ∧
      (q.remaining t).1 < (p.remaining s).1 := by
  have ends : ∀ {q : Phase}, 0 < (p.remaining s).1 → q.finished = true →
      (∀ side, q.inside side = false) ∧ (q.remaining t).1 < (p.remaining s).1 := by
    intro q more finished
    rw [finished_remaining finished]
    exact ⟨fun _ => finished_outside finished, more⟩
  cases p with
  | lookUp =>
    refine ⟨fun _ => rfl, ?_⟩
    simp only [advance, Option.some.injEq, Prod.mk.injEq] at moved
    rw [← moved.2]
    split
    · exact ⟨fun _ => rfl, Nat.succ_pos _⟩
    · exact ⟨fun _ => rfl, Nat.succ_pos _⟩
    · exact ⟨fun _ => rfl, Nat.lt_succ_self _⟩
  | writeFile value =>
    refine ⟨fun _ => rfl, ?_⟩
    simp only [advance, Option.some.injEq] at moved
    split at moved
    · cases moved
      exact ends (Nat.succ_pos _) rfl
    · split at moved <;> cases moved
      · exact ends (Nat.succ_pos _) rfl
      · exact ⟨fun _ => rfl, Nat.lt_succ_self _⟩
  | recordUrl url =>
    refine ⟨fun _ => rfl, ?_⟩
    simp only [advance, Option.some.injEq] at moved
    split at moved <;> cases moved
    · exact ends (Nat.succ_pos _) rfl
    · exact ⟨fun _ => rfl, Nat.lt_succ_self _⟩
  | findUrl restorer =>
    refine ⟨fun _ => rfl, ?_⟩
    simp only [advance, Option.some.injEq, Prod.mk.injEq] at moved
    rw [← moved.2]
    split
    · exact ends (Nat.succ_pos _) (unmanaged_finished restorer)
    · split
      · exact ends (Nat.succ_pos _) (unspilled_finished restorer)
      · exact ⟨fun _ => rfl, Nat.lt_succ_self _⟩
  | restore restorer url =>
    refine ⟨fun _ => rfl, ?_⟩
    simp only [advance, Option.some.injEq, Prod.mk.injEq] at moved
    rw [← moved.2]
    split
    · exact ends (Nat.succ_pos _) (unmanaged_finished restorer)
    · split
      · exact ⟨fun _ => rfl, Nat.lt_succ_self _⟩
      · exact ⟨fun _ => rfl, Nat.succ_lt_succ (Nat.succ_pos _)⟩
  | purge restorer failure =>
    refine ⟨fun _ => rfl, ?_⟩
    simp only [advance, Option.some.injEq] at moved
    split at moved <;> cases moved
    · exact ends (Nat.succ_pos _) (unmanaged_finished restorer)
    · exact ends (Nat.succ_pos _) (unreadable_finished restorer _)
  | _ => cases moved

theorem opened_outside (reader : Reader) : (reader.opened info view).inside side = false := by
  cases reader <;> rfl

theorem failed_outside (reader : Reader) (failure : PlasmaError) :
    (reader.failed failure).inside side = false := by
  cases reader <;> simp only [Reader.failed] <;> first | rfl | (split <;> rfl)

theorem resealed_outside (restorer : Restorer) (value : RestoredObject) (result : Except PlasmaError Unit) :
    (restorer.resealed value result).inside side = false := by
  cases restorer <;> simp only [Restorer.resealed] <;> split <;> rfl

theorem lock_taken {taken : Side → Bool} (owner : Side) (free : taken owner = false)
    (before : p.inside side = false) (after : q.inside side = decide (owner = side)) :
    LockMove (p.inside side) (taken side) (q.inside side) (update taken owner true side) := by
  by_cases same : owner = side
  · subst same
    exact .takes before free (after.trans (decide_eq_true rfl)) (update_self _ _ _)
  · exact .keeps (after.trans ((decide_eq_false same).trans before.symm))
      (update_of_ne (Ne.symm same) _ _)

theorem lock_given {taken : Side → Bool} (owner : Side) (before : p.inside side = decide (owner = side))
    (after : q.inside side = false) :
    LockMove (p.inside side) (taken side) (q.inside side) (update taken owner false side) := by
  by_cases same : owner = side
  · subst same
    exact .gives (before.trans (decide_eq_true rfl)) after (update_self _ _ _)
  · exact .keeps (after.trans ((decide_eq_false same).symm.trans before.symm))
      (update_of_ne (Ne.symm same) _ _)

variable (object) in
def locks : Locks (Own object) Side where
  taken s := s.locked
  inside := Phase.inside
  moved {s p act t q} own side := by
    cases own with
    | spillUnregistered finished | spillToRecoverer finished | resolveNow finished | pull finished =>
      exact .keeps (finished_outside finished).symm rfl
    | work moved =>
      obtain ⟨before, after, _⟩ := advance_moves (s := s) (t := s) moved
      exact .keeps ((after side).trans (before side).symm) rfl
    | get here free | create here free =>
      subst here
      exact lock_taken _ free rfl rfl
    | getFailed here =>
      subst here
      exact .keeps (failed_outside _ _) rfl
    | copy here =>
      subst here
      exact lock_given _ rfl (opened_outside _)
    | refused here | sealed here =>
      subst here
      exact lock_given _ rfl (resealed_outside _ _ _)
    | serve here | delete here | streamed here =>
      subst here
      exact .keeps rfl rfl
    | frame here =>
      subst here
      -- both sides are false; compared with each other, the two chunk positions would be unfolded
      exact .keeps (.trans (b := false) rfl rfl) rfl

/-- A `create_and_seal` goes on: only its own client moves, and it comes closer to
its end. -/
theorem serves_step {system after : Interleaving.System} (serves : Serves client event)
    (step : Interleaving.Step system event after) :
    (∀ other, other ≠ client → after.clients other = system.clients other) ∧ after.clients client ≠ .idle ∧
      (after.clients client).stepsLeft < (system.clients client).stepsLeft := by
  cases step with
  | checkPassed found | allocMetadata found | allocData found | insert found | writeMetadata found
  | writeData found =>
    cases serves
    refine ⟨fun other different => system.move_other _ different, ?_, ?_⟩
    · simp only [Interleaving.System.move_self, ne_eq, reduceCtorEq, not_false_eq_true]
    · simp only [Interleaving.System.move_self, found, Interleaving.Phase.stepsLeft]
      decide
  | _ => cases serves

theorem ends_step {system after : Interleaving.System} (step : Interleaving.Step system event after)
    (ends : Ends client event) :
    (∀ other, other ≠ client → after.clients other = system.clients other) ∧
      after.clients client = .idle := by
  cases step with
  | checkRefused | allocMetadataRefused | allocDataRefused | sealRequest =>
    cases ends
    exact ⟨fun other different => system.move_other _ different, system.move_self _⟩
  | _ => cases ends

/-- A client moves for a thread that has its mutex, or that finds it free. -/
theorem own_clients (own : Own object s p act t q) (side : Side) :
    t.plasma.clients side.client = s.plasma.clients side.client ∨ p.inside side = true ∨
      s.locked side = false := by
  have other : ∀ (owner : Side) {after : Interleaving.System},
      (∀ client, client ≠ owner.client → after.clients client = s.plasma.clients client) →
      after.clients side.client = s.plasma.clients side.client ∨ owner = side := by
    intro owner after others
    by_cases same : side.client = owner.client
    · exact .inr (Side.client_injective same).symm
    · exact .inl (others _ same)
  cases own with
  | @create restorer value here free =>
    rcases other restorer.side (fun client different => s.plasma.move_other _ different) with same | rfl
    · exact .inl same
    · exact .inr (.inr free)
  | delete here free =>
    rcases other .driver (fun client different => s.plasma.move_other _ different) with same | rfl
    · exact .inl same
    · exact .inr (.inr free)
  | serve here serves step =>
    subst here
    rcases other _ (serves_step serves step).1 with same | rfl
    · exact .inl same
    · exact .inr (.inl (decide_eq_true rfl))
  | refused here step | sealed here step =>
    subst here
    rcases other _ (ends_step step rfl).1 with same | rfl
    · exact .inl same
    · exact .inr (.inl (decide_eq_true rfl))
  | _ => exact .inl rfl

/-- The client of a thread that has its mutex. -/
def Connected (s : Node) : Phase → Prop
  | .copy reader _ => s.plasma.clients reader.side.client = .idle
  | .resealing restorer _ => s.plasma.clients restorer.side.client ≠ .idle
  | _ => True

theorem connected_outside (outside : ∀ side, p.inside side = false) : Connected s p := by
  cases p with
  | copy | resealing => cases (decide_eq_true rfl).symm.trans (outside _)
  | _ => trivial

theorem connected_step (own : Own object s p act t q) : Connected t q := by
  cases own with
  | work moved => exact connected_outside (advance_moves (s := s) (t := s) moved).2.1
  | get _ _ idle => exact idle
  | getFailed => exact connected_outside fun _ => failed_outside _ _
  | copy => exact connected_outside fun _ => opened_outside _
  | create =>
    simp only [Connected, Node.setLock, Node.record, Interleaving.System.move_self, ne_eq, reduceCtorEq,
      not_false_eq_true]
  | serve _ serves step => exact (serves_step serves step).2.1
  | refused | sealed => exact connected_outside fun _ => resealed_outside _ _ _
  | _ => trivial

/-- A client whose mutex is free is idle. -/
def Released (s : Node) : Prop := ∀ side, s.locked side = false → s.plasma.clients side.client = .idle

theorem Released.move (released : Released s) (owner : Side) {after : Interleaving.System} {taken : Bool}
    (others : ∀ client, client ≠ owner.client → after.clients client = s.plasma.clients client)
    (mine : taken = false → after.clients owner.client = .idle) :
    Released ((s.record event after).setLock owner taken) := by
  intro side free
  by_cases same : side = owner
  · subst same
    exact mine ((update_self _ _ _).symm.trans free)
  · have free : s.locked side = false := (update_of_ne same _ _).symm.trans free
    exact (others _ fun clash => same (Side.client_injective clash)).trans (released side free)

theorem released_step (own : Own object s p act t q) (released : Released s) (connected : Connected s p) :
    Released t := by
  cases own with
  | @get reader info here =>
    exact released.move _ (fun _ _ => rfl) fun unset => by cases unset
  | @copy reader info here =>
    subst here
    intro side free
    by_cases same : side = reader.side
    · subst same
      exact connected
    · exact released side ((update_of_ne same _ _).symm.trans free)
  | create =>
    exact released.move _ (fun _ different => s.plasma.move_other _ different) fun unset => by cases unset
  | @serve restorer value event plasma here serves step =>
    subst here
    intro side free
    have others := (serves_step serves step).1
    have idle := released side free
    by_cases same : side = restorer.side
    · subst same
      exact absurd idle connected
    · exact (others _ fun clash => same (Side.client_injective clash)).trans idle
  | refused here step | sealed here step =>
    exact released.move _ (ends_step step rfl).1 fun _ => (ends_step step rfl).2
  | delete here free =>
    intro side unset
    by_cases same : side.client = Side.driver.client
    · rw [same]
      exact s.plasma.move_self _
    · exact (s.plasma.move_other _ same).trans (released side unset)
  | _ => exact released

theorem clients_apart (own : Own object s p act t q) (apart : (locks object).Apart s p r)
    (inside : r.inside side = true) : t.plasma.clients side.client = s.plasma.clients side.client := by
  obtain ⟨outside, taken⟩ := apart side inside
  rcases own_clients own side with same | mine | free
  · exact same
  · cases outside.symm.trans mine
  · cases taken.symm.trans free

variable (object) in
def connections : Assertions (Own object) (fun s r p _ => (locks object).Apart s p r) where
  shared := Released
  phase := Connected
  preserved own released connected := ⟨released_step own released connected, connected_step own⟩
  undisturbed {s p act t q r} own _ _ connected apart := by
    cases r with
    | copy reader info => exact (clients_apart own apart (decide_eq_true rfl)).trans connected
    | resealing restorer value =>
      exact fun idle => connected ((clients_apart own apart (decide_eq_true rfl)).symm.trans idle)
    | _ => trivial

def Nearer (next now : Nat × Nat) : Prop := Prod.Lex (· < ·) (· < ·) next now

theorem Nearer.stage {next now : Nat × Nat} (less : next.1 < now.1) : Nearer next now :=
  Prod.lex_def.mpr (.inl less)

variable {start : Node} {pool : Pool Node Phase}

theorem sole_start (free : ∀ side, start.locked side = false) (side : Side) :
    (locks object).Sole ⟨start, fun _ => .idle⟩ side := .free (free side) fun _ => rfl

end Mutexes

end Rayd.Raylet.Pull
