import Rayd.Tasks.Execution

/-! The driver's side of one actor, and what its reader does when the socket of
the subprocess closes. Sockets are numbered as they are made; `registered` is the
entry in the actor registry. What starting a subprocess comes to is a parameter,
and reaping the dead one always succeeds in the end. -/
namespace Rayd.Actor
open Memory Core Plasma Tasks

/-- How starting a subprocess goes: no process or connection, a connection with a
wrong or missing greeting, or a subprocess that is ready. -/
inductive Handshake where
  | noConnection | badGreeting | ready
  deriving DecidableEq

structure ActorSubprocess where
  maxRestarts : Int
  restartsUsed : Nat
  terminated : Bool
  dead : Bool
  inFlight : List ObjectId
  /-- In flight is a set. -/
  inFlight_nodup : inFlight.Nodup
  sock : Nat
  socketSeq : Nat
  registered : Bool
  registeredName : Option String

namespace ActorSubprocess

def start (maxRestarts : Int) (name : Option String) : ActorSubprocess :=
  ⟨maxRestarts, 0, false, false, [], List.nodup_nil, 1, 1, true, name⟩

def clearInFlight (actor : ActorSubprocess) : ActorSubprocess :=
  { actor with inFlight := [], inFlight_nodup := List.nodup_nil }

/-- Marked dead and gone from the GCS and the registry. -/
def bury (actor : ActorSubprocess) : ActorSubprocess :=
  { actor with dead := true, registered := false, registeredName := none }

/-- `_spawn_subprocess`. The connection becomes the socket before the greeting
is read. -/
def spawnSubprocess (actor : ActorSubprocess) (handshake : Handshake) : Bool × ActorSubprocess :=
  let seq := actor.socketSeq + 1
  match handshake with
  | .noConnection => (false, { actor with socketSeq := seq })
  | .badGreeting => (false, { actor with socketSeq := seq, sock := seq })
  | .ready => (true, { actor with socketSeq := seq, sock := seq })

/-- The decision after the in-flight calls have been sealed. -/
def restartOrBury (actor : ActorSubprocess) (handshake : Handshake) : ActorSubprocess :=
  if actor.maxRestarts ≤ actor.restartsUsed then actor.bury
  else
    match { actor with restartsUsed := actor.restartsUsed + 1 }.spawnSubprocess handshake with
    | (true, actor) => actor
    | (false, actor) => actor.bury

end ActorSubprocess

/-- `_seal_actor_died`; the payload is that of the `ActorDiedError`. -/
def sealActorDied (s : Session) (id : ObjectId) (payload : Bytes) : Except TaskFailure Nat × Session :=
  workerSeal s id errorHeader payload

def sealAllDied (s : Session) (payload : Bytes) : List ObjectId → Except TaskFailure Unit × Session
  | [] => (.ok (), s)
  | id :: rest =>
    match sealActorDied s id payload with
    | (.error failure, s) => (.error failure, s)
    | (.ok _, s) => sealAllDied s payload rest

/-- `_on_socket_closed`. An exception from a seal leaves the handler at once,
with the in-flight set already cleared. -/
def onSocketClosed (actor : ActorSubprocess) (s : Session) (sock : Nat) (payload : Bytes)
    (handshake : Handshake) : Except TaskFailure Unit × ActorSubprocess × Session :=
  if actor.terminated then (.ok (), actor, s)
  else if sock ≠ actor.sock then (.ok (), actor, s)
  else
    match sealAllDied s payload actor.inFlight with
    | (.error failure, s) => (.error failure, actor.clearInFlight, s)
    | (.ok _, s) => (.ok (), actor.clearInFlight.restartOrBury handshake, s)

/-- The error values the crash path writes. -/
def diedSealings (payload : Bytes) (ids : List ObjectId) : List Sealing :=
  ids.map fun id => ⟨id, .error .taskException 0, payload⟩

theorem diedSealings_ids (payload : Bytes) (ids : List ObjectId) :
    (diedSealings payload ids).map Sealing.id = ids := by
  simp [diedSealings, List.map_map, Function.comp_def]

theorem diedSealings_distinct (actor : ActorSubprocess) (payload : Bytes) :
    ((diedSealings payload actor.inFlight).map Sealing.id).Nodup := by
  rw [diedSealings_ids]
  exact actor.inFlight_nodup

theorem errorHeader_decode : Metadata.decode errorHeader = .ok (.error .taskException 0) := by
  decide

theorem sealAllDied_spec (payload : Bytes) (ids : List ObjectId) (s : Session) :
    (s.sealEach (diedSealings payload ids)).1 = .ok () ∧
        sealAllDied s payload ids = (.ok (), (s.sealEach (diedSealings payload ids)).2) ∨
      (s.sealEach (diedSealings payload ids)).1 ≠ .ok () ∧
        ∃ failure t, sealAllDied s payload ids = (.error failure, t) := by
  induction ids generalizing s with
  | nil => exact .inl ⟨rfl, rfl⟩
  | cons id rest ih =>
    simp only [sealAllDied, sealActorDied, workerSeal, errorHeader_decode, diedSealings, List.map_cons,
      Session.sealEach]
    rcases result : s.sealValueToPlasma id (.error .taskException 0) payload with ⟨reply, t⟩
    cases reply with
    | error failure => exact .inr ⟨by simp, _, _, rfl⟩
    | ok size => exact ih t

/-- The crash has been dealt with: every call in flight has its entry, and the
actor has a fresh subprocess within its budget or is dead and unlisted. -/
structure CrashHandled (before after : ActorSubprocess) (store : MemoryStore) : Prop where
  recorded : ∀ id ∈ before.inFlight, store.getEntry id ≠ none
  settled : (before.sock < after.sock ∧ after.restartsUsed = before.restartsUsed + 1 ∧
      (after.restartsUsed : Int) ≤ after.maxRestarts ∧ after.dead = false) ∨
    (after.dead = true ∧ after.registered = false)

section Crash
variable {actor : ActorSubprocess} {s : Session}

theorem restartOrBury_settled (alive : actor.dead = false) (numbered : actor.sock ≤ actor.socketSeq)
    (handshake : Handshake) :
    (actor.sock < (actor.restartOrBury handshake).sock ∧
        (actor.restartOrBury handshake).restartsUsed = actor.restartsUsed + 1 ∧
        ((actor.restartOrBury handshake).restartsUsed : Int) ≤
          (actor.restartOrBury handshake).maxRestarts ∧
        (actor.restartOrBury handshake).dead = false) ∨
      ((actor.restartOrBury handshake).dead = true ∧
        (actor.restartOrBury handshake).registered = false) := by
  by_cases spent : actor.maxRestarts ≤ actor.restartsUsed
  · right
    simp [ActorSubprocess.restartOrBury, spent, ActorSubprocess.bury]
  · cases handshake with
    | noConnection | badGreeting =>
      right
      simp [ActorSubprocess.restartOrBury, spent, ActorSubprocess.spawnSubprocess, ActorSubprocess.bury]
    | ready =>
      left
      simp only [ActorSubprocess.restartOrBury, spent, ActorSubprocess.spawnSubprocess, if_false]
      exact ⟨by omega, trivial, by push_cast; omega, alive⟩

/-- A crash path that seals all of its errors leaves an entry for every call. -/
theorem sealEach_died (done : (s.sealEach (diedSealings payload actor.inFlight)).1 = .ok ())
    {id : ObjectId} (inFlight : id ∈ actor.inFlight) :
    (s.sealEach (diedSealings payload actor.inFlight)).2.worker.store.getEntry id ≠ none := by
  have entry := (Session.sealEach_entries _ s (diedSealings_distinct actor payload) done).1 _
    (List.mem_map_of_mem inFlight)
  exact Option.ne_none_iff_exists'.mpr ⟨_, entry⟩

/-- For the current socket of a live, unterminated actor the crash path is
complete exactly when all the error values can be sealed. -/
theorem crash_handled_iff (running : actor.terminated = false) (alive : actor.dead = false)
    (numbered : actor.sock ≤ actor.socketSeq)
    (pending : ∀ id ∈ actor.inFlight, s.worker.store.getEntry id = none)
    (payload : Bytes) (handshake : Handshake) :
    CrashHandled actor (onSocketClosed actor s actor.sock payload handshake).2.1
        (onSocketClosed actor s actor.sock payload handshake).2.2.worker.store ↔
      Session.Sealable s.plasma (diedSealings payload actor.inFlight) := by
  have safe : ∀ value ∈ diedSealings payload actor.inFlight, s.Unspillable value.id := by
    intro value member
    obtain ⟨id, inFlight, rfl⟩ := List.mem_map.mp member
    exact .inr (pending id inFlight)
  rw [← Session.sealEach_ok_iff _ s (diedSealings_distinct actor payload) safe]
  simp only [onSocketClosed, running, Bool.false_eq_true, if_false, ne_eq, not_true_eq_false]
  rcases sealAllDied_spec payload actor.inFlight s with ⟨done, result⟩ | ⟨stopped, failure, t, failed⟩
  · rw [result]
    have settled : actor.clearInFlight.dead = false := alive
    exact iff_of_true ⟨fun id inFlight => sealEach_died done inFlight,
      restartOrBury_settled settled numbered handshake⟩ done
  · rw [failed]
    refine iff_of_false (fun handled => ?_) stopped
    -- an exception left the handler before the restart decision
    rcases handled.settled with ⟨fresh, _⟩ | ⟨buried, _⟩
    · exact Nat.lt_irrefl _ fresh
    · rw [show actor.clearInFlight.dead = actor.dead from rfl, alive] at buried
      cases buried

end Crash

section Samples

def sampleCall : ObjectId := .nil 28
def sampleActor : ActorSubprocess :=
  { ActorSubprocess.start 1 none with inFlight := [sampleCall], inFlight_nodup := List.nodup_singleton _ }
def sampleDriver : CoreWorker := .start .newest (.nil 16) none (2 ^ 64 - 1)
def samplePlasma : Store := ⟨.onePage, ∅⟩

/-- The subprocess has sealed the result of the call and dies before it says so. -/
def sampleSealed : Store :=
  (Session.sealValueToPlasma ⟨sampleDriver, samplePlasma⟩ sampleCall (.pickle5 false) [1, 2, 3]).2.plasma

/-- The call had not been started. -/
theorem unstarted_call_handled :
    CrashHandled sampleActor
      (onSocketClosed sampleActor ⟨sampleDriver, samplePlasma⟩ 1 [7] .ready).2.1
      (onSocketClosed sampleActor ⟨sampleDriver, samplePlasma⟩ 1 [7] .ready).2.2.worker.store := by
  have pending : ∀ id ∈ sampleActor.inFlight,
      (⟨sampleDriver, samplePlasma⟩ : Session).worker.store.getEntry id = none := fun _ _ => rfl
  have sealable : Session.Sealable samplePlasma (diedSealings [7] sampleActor.inFlight) :=
    ⟨fun _ _ => rfl, by decide⟩
  exact (crash_handled_iff rfl rfl (by decide) pending [7] .ready).mpr sealable

/-- The result is in plasma already: sealing the error raises, the call gets no
entry, and the actor is neither restarted nor marked dead. -/
theorem sealed_call_stops_handler :
    ∃ failure actor s,
      onSocketClosed sampleActor ⟨sampleDriver, sampleSealed⟩ 1 [7] .ready =
        (.error (.sealFailed (.plasma (.server .alreadyExists failure))), actor, s) ∧
      s.worker.store.getEntry sampleCall = none ∧ actor.inFlight = [] ∧
      actor.sock = sampleActor.sock ∧ actor.restartsUsed = 0 ∧ actor.dead = false ∧
      actor.registered = true :=
  ⟨_, _, _, rfl, rfl, rfl, rfl, rfl, rfl, rfl⟩

end Samples
end Rayd.Actor
