import Rayd.Actor.Ordering
import Rayd.Refs.RemoteRefs

/-! Calls from other drivers. `_RemoteActorHandle._submit` mints a result id, opens a
connection of its own to the owner driver, writes one `actor_invoke` frame and waits for
one reply; a server thread of the owner looks the actor up and makes the call on the
caller's behalf, beside the owner's own callers. Both ends go on by themselves: the caller
may give up at any time, a frame or a reply may be lost. Server threads have the even
numbers, the owner's callers the odd ones. Result ids are minted once. -/
namespace Rayd.Actor.Remote
open Memory Gcs Transition Function
open Incarnations (Event History)

structure RemoteActorHandle where
  actorId : Bytes
  ownerNodeId : NodeId

/-- A field of a decoded frame, as far as `_handle_invoke` looks at it. -/
inductive Field (α : Type) where
  | none
  | other
  | is (value : α)

def Field.isInstance {α : Type} : Field α → Bool
  | .is _ => true
  | _ => false

def Field.isNone {α : Type} : Field α → Bool
  | .none => true
  | _ => false

/-- An `actor_invoke` frame. -/
structure Invoke where
  actorId : Field Bytes
  method : Field String
  args : Field Bytes
  kwargs : Field Bytes
  resultOid : Field ObjectId

def Invoke.malformed (message : Invoke) : Bool :=
  !message.actorId.isInstance || !message.method.isInstance || !message.args.isInstance ||
    !message.resultOid.isInstance || (!message.kwargs.isNone && !message.kwargs.isInstance)

structure Invocation where
  id : ObjectId
  method : String
  args : Bytes
  kwargs : Option Bytes

def Invocation.frame (call : Invocation) (handle : RemoteActorHandle) : Invoke :=
  ⟨.is handle.actorId, .is call.method, .is call.args, call.kwargs.elim .none .is, .is call.id⟩

inductive Reply where
  | ack
  | reject (reason : String)

def unknownActorId : String := "unknown_actor_id"

/-- What `dispatch_call_with_oid` raises before it accepts. -/
def refusal (actor : ActorSubprocess) : String :=
  if actor.terminated then "actor has been terminated"
  else "actor has died and exhausted its restart budget"

/-- How `_submit` ends. -/
inductive Outcome where
  /-- The ref. -/
  | returned
  /-- `ActorDiedError`. -/
  | actorDied
  /-- `RuntimeError` with the owner's reason. -/
  | rejected (reason : String)
  /-- `RuntimeError`: closed without a reply. -/
  | closed
  /-- `OwnerDiedError`. -/
  | ownerDied (status : Option NodeStatus)
  | osError

def answered : Reply → Outcome
  | .ack => .returned
  | .reject reason => if reason = unknownActorId then .actorDied else .rejected reason

/-- After an `OSError`; without a GCS there are no nodes to look at. -/
def raiseOwnerDiedOrPropagate (handle : RemoteActorHandle) : Option (List NodeInfo) → Outcome
  | none => .osError
  | some nodes =>
    match Refs.ownerStatus nodes handle.ownerNodeId with
    | some .alive => .osError
    | status => .ownerDied status

inductive ClientPhase where
  | idle
  | calling
  /-- The frame is written. -/
  | sent
  | ended (outcome : Outcome)

/-- Where `_serve_connection` is. -/
inductive ServerPhase where
  | waiting
  | received (message : Invoke)
  /-- The actor is found. -/
  | dispatching (id : ObjectId)
  /-- Between the state lock and the send lock. -/
  | accepted (id : ObjectId)
  | replying (reply : Reply)
  | served (reply : Reply)

/-- Between the frame and the reply. -/
def ServerPhase.busy : ServerPhase → Bool
  | .received _ | .dispatching _ | .accepted _ | .replying _ => true
  | .waiting | .served _ => false

structure Connection where
  call : Option Invocation
  client : ClientPhase
  /-- Frames on the wire. -/
  request : Option Invoke
  response : Option Reply
  server : ServerPhase

def Connection.unused : Connection := ⟨none, .idle, none, none, .waiting⟩

structure Drivers where
  handle : RemoteActorHandle
  owner : Callers
  connections : Nat → Connection
  /-- The result ids minted so far. -/
  issued : List ObjectId

def Drivers.set (s : Drivers) (connection : Nat) (now : Connection) : Drivers :=
  { s with connections := update s.connections connection now }

def Drivers.start (handle : RemoteActorHandle) (owner : Callers) : Drivers :=
  ⟨handle, owner, fun _ => .unused, []⟩

def serverThread (connection : Nat) : Nat := 2 * connection

/-- The id an action of the owner's own callers mints. -/
def minted : Action → List ObjectId
  | .dispatch id => [id]
  | _ => []

inductive Act where
  | submit (connection : Nat) (call : Invocation)
  | step (connection : Nat)
  | ended (connection : Nat) (outcome : Outcome)
  | owner (label : Option Nat × Action)

inductive Step (s : Drivers) : Act → Drivers → Prop where
  | submit : (s.connections k).client = .idle → call.id ∉ s.issued →
      Step s (.submit k call)
        { s.set k ⟨some call, .calling, none, none, .waiting⟩ with issued := call.id :: s.issued }
  | write : s.connections k = c → c.call = some call → c.client = .calling →
      Step s (.step k) (s.set k { c with client := .sent, request := some (call.frame s.handle) })
  /-- An `OSError` or a timeout. -/
  | fail : s.connections k = c → c.client = .calling ∨ c.client = .sent →
      Step s (.ended k (raiseOwnerDiedOrPropagate s.handle nodes))
        (s.set k { c with client := .ended (raiseOwnerDiedOrPropagate s.handle nodes) })
  | lose : s.connections k = c → Step s (.step k) (s.set k { c with request := none })
  | receive : s.connections k = c → c.server = .waiting → c.request = some message →
      Step s (.step k) (s.set k { c with request := none, server := .received message })
  | malformed : s.connections k = c → c.server = .received message → message.malformed = true →
      Step s (.step k) (s.set k { c with server := .replying (.reject "malformed") })
  | unknown : s.connections k = c → c.server = .received message → message.malformed = false →
      s.owner.system.actor.registered = false →
      Step s (.step k) (s.set k { c with server := .replying (.reject unknownActorId) })
  | lookup {id : ObjectId} : s.connections k = c → c.server = .received message →
      message.malformed = false → message.resultOid = .is id → s.owner.system.actor.registered = true →
      Step s (.step k) (s.set k { c with server := .dispatching id })
  | accept {id : ObjectId} : s.connections k = c → c.server = .dispatching id →
      Turn s.owner (some (serverThread k), .dispatch id) owner →
      owner.system.calls id = some (.accepted sock) →
      Step s (.step k) { s.set k { c with server := .accepted id } with owner := owner }
  | refuse {id : ObjectId} : s.connections k = c → c.server = .dispatching id →
      Turn s.owner (some (serverThread k), .dispatch id) owner →
      owner.system.calls id = some .raised →
      Step s (.step k)
        { s.set k { c with server := .replying (.reject (refusal s.owner.system.actor)) } with owner := owner }
  | send {id : ObjectId} : s.connections k = c → c.server = .accepted id →
      Turn s.owner (some (serverThread k), .send id) owner →
      Step s (.step k) { s.set k { c with server := .replying .ack } with owner := owner }
  /-- The text of the `OSError` is no reason of the server's own. -/
  | sendFailed {id : ObjectId} : s.connections k = c → c.server = .accepted id →
      Turn s.owner (some (serverThread k), .sendFailed id) owner → text ≠ unknownActorId →
      Step s (.step k) { s.set k { c with server := .replying (.reject text) } with owner := owner }
  | reply : s.connections k = c → c.server = .replying reply →
      Step s (.step k) (s.set k { c with server := .served reply, response := some reply })
  | replyLost : s.connections k = c → c.server = .replying reply →
      Step s (.step k) (s.set k { c with server := .served reply })
  | respond : s.connections k = c → c.client = .sent → c.response = some reply →
      Step s (.ended k (answered reply)) (s.set k { c with client := .ended (answered reply) })
  | hangUp : s.connections k = c → c.client = .sent →
      Step s (.ended k .closed) (s.set k { c with client := .ended .closed })
  /-- A caller of the owner's own. -/
  | here : Turn s.owner (some (2 * j + 1), action) owner → (∀ id ∈ minted action, id ∉ s.issued) →
      Step s (.owner (some (2 * j + 1), action)) { s with owner := owner, issued := minted action ++ s.issued }
  /-- The reader, the subprocess or `terminate`. -/
  | other : Turn s.owner (none, action) owner → Step s (.owner (none, action)) { s with owner := owner }

theorem frame_wellFormed (call : Invocation) (handle : RemoteActorHandle) :
    (call.frame handle).malformed = false := by
  obtain ⟨id, method, args, kwargs⟩ := call
  cases kwargs <;> rfl

section Owner
variable {o o' : Callers} {label : Option Nat × Action}

theorem happened_sent (s : System) (action : Action) (t : System) : History.sent (happened s action t) = [] := by
  cases action with
  | take =>
    simp only [happened]
    split <;> rfl
  | socketClosed payload handshake jobId =>
    simp only [happened]
    have dead : ∀ ids : List ObjectId,
        List.filterMap Event.sentCall (ids.map .died : History Nat ObjectId) = [] := by
      intro ids
      simp [List.filterMap_map, comp_def, Event.sentCall]
    rw [History.sent, List.filterMap_append]
    split <;> split <;> simp [dead, Event.sentCall]
  | _ => rfl

/-- What a turn of the owner's side can do. -/
structure Moves (o : Callers) (label : Option Nat × Action) (o' : Callers) : Prop where
  accepted : ∀ id ∈ History.accepted o'.log,
    id ∈ History.accepted o.log ∨ ∃ thread, label = (some thread, .dispatch id)
  sent : ∀ thread id, Event.sent thread id ∈ o'.log →
    Event.sent thread id ∈ o.log ∨ o'.log = o.log ++ [.sent thread id] ∧ ∃ sock, o.threads thread = some (id, sock)
  held : ∀ thread id sock, o'.threads thread = some (id, sock) →
    o.threads thread = some (id, sock) ∨ label = (some thread, .dispatch id)
  others : ∀ thread, label.1 ≠ some thread → o'.threads thread = o.threads thread
  grows : o.log <+: o'.log
  registered : o.system.actor.registered = false → o'.system.actor.registered = false

theorem restartOrBury_registered {actor : ActorSubprocess} (handshake : Handshake)
    (gone : actor.registered = false) : (actor.restartOrBury handshake).registered = false := by
  rw [ActorSubprocess.restartOrBury]
  split
  · rfl
  · cases handshake with
    | noConnection | badGreeting => rfl
    | ready => exact gone

theorem step_registered {s t : System} {action : Action} (step : Actor.Step s action t)
    (gone : s.actor.registered = false) : t.actor.registered = false := by
  cases step with
  | socketClosed _ closed =>
    cases onSocketClosed_outcome closed with
    | terminated | unsealed => exact gone
    | decided => exact restartOrBury_registered _ gone
  | close => rfl
  | _ => exact gone

theorem turn_moves (turn : Turn o label o') : Moves o label o' := by
  cases turn with
  | @accept thread object t sock idle step called =>
    refine ⟨fun id member => ?_, fun caller id member => ?_, fun caller id held found => ?_, ?_,
      List.prefix_append _ _, step_registered step⟩
    · rw [History.accepted_snoc] at member
      refine (List.mem_append.mp member).imp_right fun last => ⟨thread, ?_⟩
      cases List.mem_singleton.mp last
      rfl
    · exact .inl ((History.mem_snoc.mp member).resolve_right fun same => by cases same)
    · rcases Incarnations.held_cases found with ⟨rfl, now⟩ | ⟨_, before⟩
      · cases now
        exact .inr rfl
      · exact .inl before
    · exact fun caller different => update_of_ne (fun same => different (congrArg some same.symm)) _ _
  | refuse idle step called =>
    exact ⟨fun _ member => .inl member, fun _ _ member => .inl member, fun _ _ _ found => .inl found,
      fun _ _ => rfl, List.prefix_refl _, step_registered step⟩
  | @send thread object sock t holds step =>
    refine ⟨fun id member => ?_, fun caller id member => ?_, fun caller id held found => ?_, ?_,
      List.prefix_append _ _, step_registered step⟩
    · rw [History.accepted_of_none _ rfl] at member
      exact .inl member
    · rcases History.mem_snoc.mp member with before | now
      · exact .inl before
      · cases now
        exact .inr ⟨rfl, sock, holds⟩
    · exact .inl ((Incarnations.held_cases found).resolve_left fun now => by cases now.2).2
    · exact fun caller different => update_of_ne (fun same => different (congrArg some same.symm)) _ _
  | @sendFailed thread object sock t holds step =>
    refine ⟨fun _ member => .inl member, fun _ _ member => .inl member, fun caller id held found => ?_, ?_,
      List.prefix_refl _, step_registered step⟩
    · exact .inl ((Incarnations.held_cases found).resolve_left fun now => by cases now.2).2
    · exact fun caller different => update_of_ne (fun same => different (congrArg some same.symm)) _ _
  | @other action t other step =>
    refine ⟨fun id member => ?_, fun caller id member => ?_, fun _ _ _ found => .inl found, fun _ _ => rfl,
      List.prefix_append _ _, step_registered step⟩
    · rw [History.accepted, List.filterMap_append] at member
      refine .inl ((List.mem_append.mp member).resolve_right fun now => ?_)
      have none := happened_accepted o.system action t
      rw [History.accepted] at none
      rw [none] at now
      cases now
    · refine .inl ((List.mem_append.mp member).resolve_right fun now => ?_)
      have sent := History.mem_sent.mpr ⟨caller, now⟩
      rw [happened_sent] at sent
      cases sent

end Owner

section Connections
variable {s t : Drivers} {o o' : Callers} {label : Option Nat × Action} {id : ObjectId}

/-- The call has not been sent and is in nobody's hands. -/
def Barred (o : Callers) (id : ObjectId) : Prop :=
  id ∉ History.sent o.log ∧ ∀ thread sock, o.threads thread ≠ some (id, sock)

/-- What the server's place in a connection says about its call. -/
def Placed (o : Callers) (k : Nat) (id : ObjectId) : ServerPhase → Prop
  | .waiting | .received _ | .dispatching _ => id ∉ History.accepted o.log
  | .accepted _ => ∃ sock, o.threads (serverThread k) = some (id, sock)
  | .replying .ack | .served .ack => id ∈ History.sent o.log
  | .replying (.reject reason) | .served (.reject reason) =>
    Barred o id ∧ (reason = unknownActorId → o.system.actor.registered = false)

theorem Barred.turn (barred : Barred o id) (moves : Moves o label o')
    (elsewhere : ∀ thread, label ≠ (some thread, .dispatch id)) : Barred o' id := by
  refine ⟨fun member => ?_, fun thread sock found => ?_⟩
  · obtain ⟨thread, sent⟩ := History.mem_sent.mp member
    rcases moves.sent thread id sent with before | ⟨_, sock, holds⟩
    · exact barred.1 (History.mem_sent.mpr ⟨thread, before⟩)
    · exact barred.2 thread sock holds
  · rcases moves.held thread id sock found with before | now
    · exact barred.2 thread sock before
    · exact elsewhere thread now

theorem sent_grows (grows : o.log <+: o'.log) (sent : id ∈ History.sent o.log) : id ∈ History.sent o'.log :=
  (grows.sublist.filterMap Event.sentCall).subset sent

theorem Placed.turn {k : Nat} {phase : ServerPhase} (placed : Placed o k id phase) (moves : Moves o label o')
    (apart : label.1 ≠ some (serverThread k)) (elsewhere : ∀ thread, label ≠ (some thread, .dispatch id)) :
    Placed o' k id phase := by
  have unaccepted : id ∉ History.accepted o.log → id ∉ History.accepted o'.log := by
    intro before member
    rcases moves.accepted id member with old | ⟨thread, now⟩
    · exact before old
    · exact elsewhere thread now
  have rejected : ∀ {reason}, (Barred o id ∧ (reason = unknownActorId → o.system.actor.registered = false)) →
      Barred o' id ∧ (reason = unknownActorId → o'.system.actor.registered = false) := by
    rintro reason ⟨barred, gone⟩
    exact ⟨barred.turn moves elsewhere, fun unknown => moves.registered (gone unknown)⟩
  cases phase with
  | waiting | received | dispatching => exact unaccepted placed
  | accepted =>
    obtain ⟨sock, holds⟩ := placed
    exact ⟨sock, (moves.others _ apart).trans holds⟩
  | replying reply | served reply =>
    cases reply with
    | ack => exact sent_grows moves.grows placed
    | reject reason => exact rejected placed

/-- The server works on the call of its connection. -/
def Agrees (handle : RemoteActorHandle) (call : Invocation) : ServerPhase → Prop
  | .received message => message = call.frame handle
  | .dispatching id | .accepted id => id = call.id
  | _ => True

/-- The reply that an outcome comes from. -/
def Outcome.Of : Outcome → ServerPhase → Prop
  | .returned, phase => phase = .served .ack
  | .actorDied, phase => phase = .served (.reject unknownActorId)
  | .rejected reason, phase => phase = .served (.reject reason)
  | _, _ => True

theorem answered_of (reply : Reply) : (answered reply).Of (.served reply) := by
  cases reply with
  | ack => rfl
  | reject reason =>
    simp only [answered]
    split
    · rename_i unknown
      rw [unknown]
      rfl
    · rfl

theorem raiseOwnerDiedOrPropagate_of (handle : RemoteActorHandle) (nodes : Option (List NodeInfo))
    (phase : ServerPhase) : (raiseOwnerDiedOrPropagate handle nodes).Of phase := by
  unfold raiseOwnerDiedOrPropagate
  split
  · trivial
  · split <;> trivial

structure Tracked (handle : RemoteActorHandle) (owner : Callers) (k : Nat) (call : Invocation)
    (c : Connection) : Prop where
  placed : Placed owner k call.id c.server
  agrees : Agrees handle call c.server
  request : ∀ message, c.request = some message → message = call.frame handle
  response : ∀ reply, c.response = some reply → c.server = .served reply
  ended : ∀ outcome, c.client = .ended outcome → outcome.Of c.server

variable {k : Nat} {call : Invocation} {c : Connection}

theorem Tracked.turn (tracked : Tracked handle o k call c) (moves : Moves o label o')
    (apart : label.1 ≠ some (serverThread k)) (elsewhere : ∀ thread, label ≠ (some thread, .dispatch call.id)) :
    Tracked handle o' k call c :=
  ⟨tracked.placed.turn moves apart elsewhere, tracked.agrees, tracked.request, tracked.response, tracked.ended⟩

/-- The server goes on before it has served; nothing of it has reached the client. -/
theorem Tracked.serve {phase : ServerPhase} {request : Option Invoke} (tracked : Tracked handle o k call c)
    (serving : ∀ reply, c.server ≠ .served reply) (placed : Placed o' k call.id phase)
    (agrees : Agrees handle call phase) (kept : request = c.request ∨ request = none) :
    Tracked handle o' k call { c with server := phase, request := request } := by
  refine ⟨placed, agrees, fun message wire => ?_, fun reply wire => ?_, fun outcome ended => ?_⟩
  · rcases kept with same | none
    · exact tracked.request message (same.symm.trans wire)
    · cases none.symm.trans wire
  · exact absurd (tracked.response reply wire) (serving reply)
  · have meant := tracked.ended outcome ended
    cases outcome with
    | returned | actorDied | rejected => exact absurd meant (serving _)
    | _ => trivial

theorem Tracked.reply {reply : Reply} {response : Option Reply} (tracked : Tracked handle o k call c)
    (replying : c.server = .replying reply) (sent : response = c.response ∨ response = some reply) :
    Tracked handle o k call { c with server := .served reply, response := response } := by
  have serving : ∀ other, c.server ≠ .served other := by
    intro other served
    cases replying.symm.trans served
  have placed := tracked.placed
  rw [replying] at placed
  have served : Placed o k call.id (.served reply) := by
    cases reply <;> exact placed
  have moved : Tracked handle o k call { c with server := .served reply } :=
    tracked.serve serving served trivial (.inl rfl)
  refine ⟨served, trivial, tracked.request, fun other wire => ?_, moved.ended⟩
  rcases sent with same | now
  · exact absurd (tracked.response other (same.symm.trans wire)) (serving other)
  · cases now.symm.trans wire
    rfl

theorem Tracked.finish {outcome : Outcome} (tracked : Tracked handle o k call c) (meant : outcome.Of c.server) :
    Tracked handle o k call { c with client := .ended outcome } := by
  refine ⟨tracked.placed, tracked.agrees, tracked.request, tracked.response, fun other ended => ?_⟩
  cases ended
  exact meant

structure Kept (s : Drivers) : Prop where
  sound : s.owner.Sound
  accepted : ∀ id ∈ History.accepted s.owner.log, id ∈ s.issued
  unused : ∀ k, (s.connections k).call = none → s.connections k = .unused
  issued : ∀ k call, (s.connections k).call = some call → call.id ∈ s.issued
  distinct : ∀ k other call again, (s.connections k).call = some call →
    (s.connections other).call = some again → call.id = again.id → k = other
  tracked : ∀ k call, (s.connections k).call = some call →
    Tracked s.handle s.owner k call (s.connections k)

theorem set_cases (s : Drivers) (k other : Nat) (c : Connection) :
    other = k ∧ (s.set k c).connections other = c ∨
      other ≠ k ∧ (s.set k c).connections other = s.connections other := by
  by_cases same : other = k
  · subst same
    exact .inl ⟨rfl, update_self ..⟩
  · exact .inr ⟨same, update_of_ne same _ _⟩

theorem set_call (same : c.call = (s.connections k).call) (other : Nat) :
    ((s.set k c).connections other).call = (s.connections other).call := by
  rcases set_cases s k other c with ⟨rfl, now⟩ | ⟨_, now⟩
  · rw [now, same]
  · rw [now]

theorem Kept.submit (kept : Kept s) (new : call.id ∉ s.issued) :
    Kept { s.set k ⟨some call, .calling, none, none, .waiting⟩ with issued := call.id :: s.issued } := by
  have fresh : Tracked s.handle s.owner k call ⟨some call, .calling, none, none, .waiting⟩ := by
    refine ⟨fun member => new (kept.accepted _ member), trivial, ?_, ?_, ?_⟩ <;> intro _ none <;> cases none
  have cases := fun other => set_cases s k other ⟨some call, .calling, none, none, .waiting⟩
  have unlike : ∀ other again, (s.connections other).call = some again → again.id ≠ call.id := by
    intro other again made same
    exact new (same ▸ kept.issued other again made)
  refine ⟨kept.sound, fun id member => List.mem_cons_of_mem _ (kept.accepted id member), fun other none => ?_,
    fun other again made => ?_, fun one other first second => ?_, fun other again made => ?_⟩
  · rcases cases other with ⟨_, now⟩ | ⟨_, now⟩
    · cases (congrArg Connection.call now).symm.trans none
    · exact now.trans (kept.unused other ((congrArg Connection.call now).symm.trans none))
  · rcases cases other with ⟨_, now⟩ | ⟨_, now⟩
    · cases (congrArg Connection.call now).symm.trans made
      exact List.mem_cons_self
    · exact List.mem_cons_of_mem _ (kept.issued other again ((congrArg Connection.call now).symm.trans made))
  · intro made also equal
    rcases cases one with ⟨here, now⟩ | ⟨_, now⟩ <;> rcases cases other with ⟨there, later⟩ | ⟨_, later⟩ <;>
      have made := (congrArg Connection.call now).symm.trans made <;>
      have also := (congrArg Connection.call later).symm.trans also
    · rw [here, there]
    · cases made
      exact absurd equal.symm (unlike _ _ also)
    · cases also
      exact absurd equal (unlike _ _ made)
    · exact kept.distinct one other first second made also equal
  · rcases cases other with ⟨here, now⟩ | ⟨_, now⟩
    · cases (congrArg Connection.call now).symm.trans made
      rw [here] at now ⊢
      exact now.symm ▸ fresh
    · exact now.symm ▸ kept.tracked other again ((congrArg Connection.call now).symm.trans made)

theorem Kept.move (kept : Kept s) (same : c.call = (s.connections k).call) (unused : c.call = none → c = .unused)
    (sound : o.Sound) (accepted : ∀ id ∈ History.accepted o.log, id ∈ s.issued)
    (tracked : ∀ call, (s.connections k).call = some call → Tracked s.handle o k call c)
    (others : ∀ other call, other ≠ k → (s.connections other).call = some call →
      Tracked s.handle o other call (s.connections other)) : Kept { s.set k c with owner := o } := by
  have calls := set_call same
  refine ⟨sound, accepted, fun other none => ?_, fun other call made => ?_,
    fun one other call again first second => ?_, fun other call made => ?_⟩
  · rcases set_cases s k other c with ⟨_, now⟩ | ⟨_, now⟩
    · exact now.trans (unused ((congrArg Connection.call now).symm.trans none))
    · exact now.trans (kept.unused other ((congrArg Connection.call now).symm.trans none))
  · exact kept.issued other call ((calls other).symm.trans made)
  · exact kept.distinct one other call again ((calls one).symm.trans first) ((calls other).symm.trans second)
  · have before : (s.connections other).call = some call := (calls other).symm.trans made
    rcases set_cases s k other c with ⟨rfl, now⟩ | ⟨different, now⟩
    · exact now.symm ▸ tracked call before
    · exact now.symm ▸ others other call different before

theorem Kept.connection (kept : Kept s) (same : c.call = (s.connections k).call)
    (unused : c.call = none → c = .unused)
    (tracked : ∀ call, (s.connections k).call = some call → Tracked s.handle s.owner k call c) :
    Kept (s.set k c) :=
  kept.move same unused kept.sound kept.accepted tracked fun other call _ made => kept.tracked other call made

theorem Kept.serve (kept : Kept s) (made : (s.connections k).call = some call)
    (turn : Turn s.owner (some (serverThread k), action) o) (about : action.call? = some call.id)
    (same : c.call = some call) (tracked : Tracked s.handle o k call c) :
    Kept { s.set k c with owner := o } := by
  have moves := turn_moves turn
  refine kept.move (same.trans made.symm) (fun none => ?_) (sound_turn kept.sound turn) (fun id member => ?_)
    (fun again found => ?_) fun other again different before => ?_
  · cases same.symm.trans none
  · rcases moves.accepted id member with before | ⟨thread, now⟩
    · exact kept.accepted id before
    · cases now
      cases about
      exact kept.issued k call made
  · cases made.symm.trans found
    exact tracked
  · refine (kept.tracked other again before).turn moves (fun thread => ?_) fun thread now => ?_
    · have := Option.some.inj thread
      simp only [serverThread] at this
      omega
    · cases now
      exact different (kept.distinct other k again call before made (Option.some.inj about))

theorem Kept.turn (kept : Kept s) (turn : Turn s.owner label o)
    (elsewhere : ∀ k call, (s.connections k).call = some call →
      label.1 ≠ some (serverThread k) ∧ ∀ thread, label ≠ (some thread, .dispatch call.id))
    (more : List ObjectId) (minted : ∀ thread id, label = (some thread, .dispatch id) → id ∈ more ++ s.issued) :
    Kept { s with owner := o, issued := more ++ s.issued } := by
  have moves := turn_moves turn
  refine ⟨sound_turn kept.sound turn, fun id member => ?_, kept.unused, fun k call made => ?_, kept.distinct,
    fun k call made => ?_⟩
  · rcases moves.accepted id member with before | ⟨thread, now⟩
    · exact List.mem_append_right _ (kept.accepted id before)
    · exact minted thread id now
  · exact List.mem_append_right _ (kept.issued k call made)
  · exact (kept.tracked k call made).turn moves (elsewhere k call made).1 (elsewhere k call made).2

theorem Kept.made (kept : Kept s) (used : s.connections k ≠ .unused) :
    ∃ call, (s.connections k).call = some call := by
  cases called : (s.connections k).call with
  | none => exact absurd (kept.unused k called) used
  | some call => exact ⟨call, rfl⟩

/-- A call that was never accepted can only be sent after that. -/
theorem barred_of_unaccepted (sound : o.Sound) (unaccepted : id ∉ History.accepted o.log) : Barred o id := by
  refine ⟨fun member => ?_, fun thread sock holds => ?_⟩
  · obtain ⟨thread, sent⟩ := History.mem_sent.mp member
    obtain ⟨sock, accepted⟩ := sound.2.booked.known sent
    exact unaccepted (History.mem_accepted.mpr ⟨thread, sock, accepted⟩)
  · exact unaccepted (History.mem_accepted.mpr ⟨thread, sock, (sound.2.booked.holding holds).1⟩)

theorem refusal_ne_unknown (actor : ActorSubprocess) : refusal actor ≠ unknownActorId := by
  unfold refusal
  split <;> decide

theorem accept_holds (turn : Turn o (some thread, .dispatch id) o')
    (accepted : o'.system.calls id = some (.accepted sock)) : ∃ sock, o'.threads thread = some (id, sock) := by
  cases turn with
  | @accept _ _ _ sock => exact ⟨sock, update_self ..⟩
  | refuse _ _ raised => cases raised.symm.trans accepted

theorem refuse_bars (sound : o.Sound) (unaccepted : id ∉ History.accepted o.log)
    (turn : Turn o (some thread, .dispatch id) o') (raised : o'.system.calls id = some .raised) :
    Barred o' id := by
  cases turn with
  | accept _ _ accepted => cases accepted.symm.trans raised
  | refuse =>
    have barred := barred_of_unaccepted sound unaccepted
    exact barred

theorem send_sends (turn : Turn o (some thread, .send id) o') : id ∈ History.sent o'.log := by
  cases turn with
  | send => exact History.mem_sent.mpr ⟨thread, List.mem_append_right _ (List.mem_singleton.mpr rfl)⟩

theorem sendFailed_bars (sound : o.Sound) (turn : Turn o (some thread, .sendFailed id) o') : Barred o' id := by
  cases turn with
  | @sendFailed _ _ sock t holds _ =>
    refine ⟨(sound.2.booked.holding holds).2, fun other later found => ?_⟩
    obtain ⟨different, before⟩ := (Incarnations.held_cases found).resolve_left fun now => by cases now.2
    exact different (held_by_one sound.2 before holds)

theorem Kept.received (kept : Kept s) {phase next : ServerPhase} {request : Option Invoke}
    (here : (s.connections k).server = phase)
    (started : phase.busy = true ∨ phase = .waiting ∧ (s.connections k).request ≠ none)
    (goes : ∀ call, Tracked s.handle s.owner k call (s.connections k) → Placed s.owner k call.id phase →
      Agrees s.handle call phase → Placed s.owner k call.id next ∧ Agrees s.handle call next)
    (wire : request = (s.connections k).request ∨ request = none) :
    Kept (s.set k { s.connections k with server := next, request := request }) := by
  refine kept.connection rfl (fun none => ?_) fun call made => ?_
  · rw [kept.unused k none] at here started
    subst here
    rcases started with later | asked
    · cases later
    · exact absurd rfl asked.2
  · have tracked := kept.tracked k call made
    obtain ⟨placed, agrees⟩ := goes call tracked (here ▸ tracked.placed) (here ▸ tracked.agrees)
    refine tracked.serve (fun reply served => ?_) placed agrees wire
    cases here.symm.trans served
    rcases started with later | waits
    · cases later
    · cases waits.1

theorem Kept.served (kept : Kept s) {phase next : ServerPhase} (here : (s.connections k).server = phase)
    (busy : phase.busy = true) (turn : Turn s.owner (some (serverThread k), action) o)
    (goes : ∀ call, Placed s.owner k call.id phase → Agrees s.handle call phase →
      action.call? = some call.id ∧ Placed o k call.id next ∧ Agrees s.handle call next) :
    Kept { s.set k { s.connections k with server := next } with owner := o } := by
  have used : s.connections k ≠ .unused := by
    intro unused
    rw [unused] at here
    cases here
    cases busy
  obtain ⟨call, made⟩ := kept.made used
  have tracked := kept.tracked k call made
  obtain ⟨about, placed, agrees⟩ := goes call (here ▸ tracked.placed) (here ▸ tracked.agrees)
  refine kept.serve made turn about made (tracked.serve (fun reply served => ?_) placed agrees (.inl rfl))
  cases here.symm.trans served
  cases busy

theorem kept_step (kept : Kept s) (step : Step s act t) : Kept t := by
  cases step with
  | submit idle new => exact kept.submit new
  | @write k c call same made calling =>
    subst same
    refine kept.connection rfl (fun none => ?_) fun again found => ?_
    · cases made.symm.trans none
    · cases made.symm.trans found
      have tracked := kept.tracked k call made
      refine ⟨tracked.placed, tracked.agrees, ?_, tracked.response, fun outcome ended => by cases ended⟩
      rintro _ ⟨⟩
      rfl
  | @fail k c nodes same running =>
    subst same
    refine kept.connection rfl (fun none => ?_) fun call made => ?_
    · rw [kept.unused k none] at running
      rcases running with running | running <;> cases running
    · exact (kept.tracked k call made).finish (raiseOwnerDiedOrPropagate_of ..)
  | @lose k c same =>
    subst same
    refine kept.connection rfl (fun none => ?_) fun call made => ?_
    · rw [kept.unused k none]
      rfl
    · have tracked := kept.tracked k call made
      exact ⟨tracked.placed, tracked.agrees, (fun _ none => by cases none), tracked.response, tracked.ended⟩
  | @receive k c message same waiting wire =>
    subst same
    refine kept.received waiting (.inr ⟨rfl, fun none => ?_⟩)
      (fun call tracked placed _ => ⟨placed, tracked.request message wire⟩) (.inr rfl)
    cases none.symm.trans wire
  | @malformed k c message same received malformed =>
    subst same
    refine kept.received received (.inl rfl) (fun call _ _ agrees => ?_) (.inl rfl)
    have message : message = call.frame s.handle := agrees
    cases (message ▸ frame_wellFormed call s.handle).symm.trans malformed
  | @unknown k c message same received _ gone =>
    subst same
    refine kept.received received (.inl rfl) (fun call _ placed _ => ?_) (.inl rfl)
    exact ⟨⟨barred_of_unaccepted kept.sound placed, fun _ => gone⟩, trivial⟩
  | @lookup k c message id same received _ asked _ =>
    subst same
    refine kept.received received (.inl rfl) (fun call _ placed agrees => ⟨placed, ?_⟩) (.inl rfl)
    have message : message = call.frame s.handle := agrees
    cases (congrArg Invoke.resultOid message).symm.trans asked
    rfl
  | @accept k c owner sock id same dispatching turn accepted =>
    subst same
    refine kept.served dispatching rfl turn ?_
    rintro call _ rfl
    exact ⟨rfl, accept_holds turn accepted, rfl⟩
  | @refuse k c owner id same dispatching turn raised =>
    subst same
    refine kept.served dispatching rfl turn ?_
    rintro call placed rfl
    exact ⟨rfl, ⟨refuse_bars kept.sound placed turn raised, fun unknown =>
      absurd unknown (refusal_ne_unknown _)⟩, trivial⟩
  | @send k c owner id same accepted turn =>
    subst same
    refine kept.served accepted rfl turn ?_
    rintro call _ rfl
    exact ⟨rfl, send_sends turn, trivial⟩
  | @sendFailed k c owner text id same accepted turn other =>
    subst same
    refine kept.served accepted rfl turn ?_
    rintro call _ rfl
    exact ⟨rfl, ⟨sendFailed_bars kept.sound turn, fun unknown => absurd unknown other⟩, trivial⟩
  | @reply k c reply same replying =>
    subst same
    refine kept.connection rfl (fun none => ?_) fun call made => ?_
    · rw [kept.unused k none] at replying
      cases replying
    · exact (kept.tracked k call made).reply replying (.inr rfl)
  | @replyLost k c reply same replying =>
    subst same
    refine kept.connection rfl (fun none => ?_) fun call made => ?_
    · rw [kept.unused k none] at replying
      cases replying
    · exact (kept.tracked k call made).reply replying (.inl rfl)
  | @respond k c reply same waiting wire =>
    subst same
    refine kept.connection rfl (fun none => ?_) fun call made => ?_
    · rw [kept.unused k none] at waiting
      cases waiting
    · have tracked := kept.tracked k call made
      exact tracked.finish ((tracked.response reply wire).symm ▸ answered_of reply)
  | @hangUp k c same waiting =>
    subst same
    refine kept.connection rfl (fun none => ?_) fun call made => ?_
    · rw [kept.unused k none] at waiting
      cases waiting
    · exact (kept.tracked k call made).finish trivial
  | @here j action owner turn new =>
    refine kept.turn turn (fun k call made => ⟨fun thread => ?_, fun thread now => ?_⟩) _ fun thread id now => ?_
    · have := Option.some.inj thread
      simp only [serverThread] at this
      omega
    · cases now
      exact new _ (List.mem_singleton.mpr rfl) (kept.issued k call made)
    · cases now
      exact List.mem_append_left _ (List.mem_singleton.mpr rfl)
  | @other action owner turn =>
    refine kept.turn turn (fun k call made => ⟨fun thread => ?_, fun thread now => ?_⟩) [] fun thread id now => ?_
    · cases thread
    · cases now
    · cases now

theorem kept_start (handle : RemoteActorHandle) (sound : o.Sound) (quiet : History.accepted o.log = []) :
    Kept (.start handle o) := by
  refine ⟨sound, fun id member => ?_, fun _ _ => rfl, ?_, ?_, ?_⟩
  · rw [show (Drivers.start handle o).owner = o from rfl, quiet] at member
    cases member
  all_goals
    intros
    contradiction

end Connections

section Results
variable {s : Drivers} {handle : RemoteActorHandle} {maxRestarts : Int} {name : Option String} {jobId : JobId}
  {driver : Core.CoreWorker} {plasma : Plasma.Store} {call : Invocation} {path : List Act}

theorem run_kept (run : Run Step (.start handle (.start maxRestarts name jobId driver plasma)) path s) :
    Kept s :=
  run.invariant (P := Kept) kept_step (kept_start handle (sound_start _ _ _ _ _) rfl)

/-- What the end of a remote call tells its caller, at that time and ever after. A ref: the
call has been written to the subprocess, and while the actor has a reader it is executed,
sealed as `ActorDiedError` or still in flight. `ActorDiedError`: the actor is out of the
owner's registry for good, and the call is not executed. Any other rejection: it is not
executed either. No call is executed twice, whatever the callers have seen. -/
theorem remote_outcomes (run : Run Step (.start handle (.start maxRestarts name jobId driver plasma)) path s)
    (made : (s.connections k).call = some call) (ended : (s.connections k).client = .ended outcome) :
    (outcome = .returned → call.id ∈ History.sent s.owner.log ∧
      (s.owner.system.link.reader ≠ .exited → call.id ∈ History.executed s.owner.log ∨
        .died call.id ∈ s.owner.log ∨ call.id ∈ s.owner.system.actor.inFlight)) ∧
    (outcome = .actorDied → s.owner.system.actor.registered = false ∧
      call.id ∉ History.executed s.owner.log) ∧
    (∀ reason, outcome = .rejected reason → call.id ∉ History.executed s.owner.log) ∧
    (History.executed s.owner.log).Nodup := by
  have kept := run_kept run
  have orderly := kept.sound.2
  have tracked := kept.tracked k call made
  have meant := tracked.ended outcome ended
  have placed := tracked.placed
  have unsent : Barred s.owner call.id → call.id ∉ History.executed s.owner.log := by
    intro barred ran
    exact barred.1 (orderly.queued.order.subset (List.mem_append_left _ ran))
  refine ⟨?_, ?_, ?_, orderly.executed_once⟩
  · rintro rfl
    rw [show (s.connections k).server = .served .ack from meant] at placed
    refine ⟨placed, fun reading => orderly.answerable.sent ?_ _ placed⟩
    intro abandoned
    have phase : s.owner.system.link.phase = .abandoned := abandoned
    rw [Link.phase] at phase
    split at phase
    · exact reading ‹_›
    · cases phase
    · cases phase
  · rintro rfl
    rw [show (s.connections k).server = .served (.reject unknownActorId) from meant] at placed
    exact ⟨placed.2 rfl, unsent placed.1⟩
  · rintro reason rfl
    rw [show (s.connections k).server = .served (.reject reason) from meant] at placed
    exact unsent placed.1

theorem step_owner {t : Drivers} (step : Step s act t) :
    t.owner = s.owner ∨ ∃ label, Turn s.owner label t.owner := by
  cases step with
  | accept _ _ turn | refuse _ _ turn | send _ _ turn | sendFailed _ _ turn | here turn | other turn =>
    exact .inr ⟨_, turn⟩
  | _ => exact .inl rfl

/-- The second call has not been sent, or it was sent after the first. -/
def After (log : History Nat ObjectId) (thread : Nat) (first second : ObjectId) : Prop :=
  .sent thread first ∈ log ∧
    ∀ other, .sent other second ∈ log → History.Before log (.sent thread first) (.sent other second)

theorem After.step {t : Drivers} {first second : ObjectId} (after : After s.owner.log thread first second)
    (step : Step s act t) : After t.owner.log thread first second := by
  rcases step_owner step with same | ⟨label, turn⟩
  · rw [same]
    exact after
  · have moves := turn_moves turn
    refine ⟨moves.grows.subset after.1, fun other sent => ?_⟩
    rcases moves.sent other second sent with before | ⟨log, _⟩
    · exact (after.2 other before).trans moves.grows.sublist
    · rw [log]
      exact History.before_snoc.mpr (.inr ⟨after.1, rfl⟩)

/-- Of two remote calls, from whatever drivers, of which the second was made when the first
had returned its ref: the second is executed only after the first, or after a crash has
sealed the first as `ActorDiedError`. -/
theorem remote_calls_in_order {u v : Drivers} {later : Invocation}
    (run : Run Step (.start handle (.start maxRestarts name jobId driver plasma)) path u)
    (made : (u.connections k).call = some call) (returned : (u.connections k).client = .ended .returned)
    (submitted : Step u (.submit j later) v) (onward : Run Step v more s)
    (ran : .executed sock later.id ∈ s.owner.log) :
    (∃ earlier, History.Before s.owner.log (.executed earlier call.id) (.executed sock later.id)) ∨
      History.Before s.owner.log (.died call.id) (.executed sock later.id) := by
  have kept := run_kept run
  have tracked := kept.tracked k call made
  have placed := tracked.placed
  rw [show (u.connections k).server = .served .ack from tracked.ended _ returned] at placed
  obtain ⟨thread, sent⟩ := History.mem_sent.mp placed
  have first : After v.owner.log thread call.id later.id := by
    cases submitted with
    | submit _ new =>
      refine ⟨sent, fun other early => ?_⟩
      have barred := barred_of_unaccepted kept.sound fun member => new (kept.accepted _ member)
      exact absurd (History.mem_sent.mpr ⟨other, early⟩) barred.1
  have after := onward.invariant (P := fun s : Drivers => After s.owner.log thread call.id later.id)
    (fun after step => after.step step) first
  have orderly := (run_kept ((run.next submitted).trans onward)).sound.2
  obtain ⟨other, wrote⟩ := History.mem_sent.mp
    (orderly.queued.order.subset (List.mem_append_left _ (History.mem_executed.mpr ⟨sock, ran⟩)))
  exact orderly.queued.fifo (after.2 other wrote) ran

end Results

section Samples

def sampleHandle : RemoteActorHandle := ⟨[], .nil 16⟩

def sampleInvocation (n : Nat) : Invocation := ⟨callNumber n, "m", [], none⟩

/-- The subprocess dies in a call that had returned its ref; a call made after that goes to
its successor. -/
theorem sample_calls : ∃ path u v more s, Run Step (.start sampleHandle sampleCallers) path u ∧
    (u.connections 0).call = some (sampleInvocation 0) ∧ (u.connections 0).client = .ended .returned ∧
    Step u (.submit 1 (sampleInvocation 1)) v ∧ Run Step v more s ∧ .executed 2 (callNumber 1) ∈ s.owner.log := by
  have run : Run Step (.start sampleHandle sampleCallers) [] _ := .refl
  have run := run.next (a := .submit 0 (sampleInvocation 0)) (.submit rfl List.not_mem_nil)
  have run := run.next (a := .step 0) (.write rfl rfl rfl)
  have run := run.next (a := .step 0) (.receive rfl rfl rfl)
  have run := run.next (a := .step 0) (.lookup rfl rfl rfl rfl rfl)
  have run := run.next (a := .step 0)
    (.accept rfl rfl (.accept rfl (.accept rfl rfl rfl rfl List.not_mem_nil) rfl) rfl)
  have run := run.next (a := .step 0) (.send rfl rfl (.send rfl (.send rfl (fun h => by cases h) rfl rfl)))
  have run := run.next (a := .step 0) (.reply rfl rfl)
  have run := run.next (a := .ended 0 (answered .ack)) (.respond rfl rfl rfl)
  exact ⟨_, _, _, _, _, run, rfl, rfl, .submit rfl (by decide),
    .head (a := .owner (none, .crash false)) (.other (.other rfl (.crash fun h => by cases h))) <|
    .head (a := .owner (none, .endOfFile)) (.other (.other rfl (.endOfFile rfl rfl rfl))) <|
    .head (a := .owner (none, .socketClosed [7] .ready (.nil 16))) (.other (.other rfl (.socketClosed rfl rfl))) <|
    .head (a := .step 1) (.write rfl rfl rfl) <|
    .head (a := .step 1) (.receive rfl rfl rfl) <|
    .head (a := .step 1) (.lookup rfl rfl rfl rfl rfl) <|
    .head (a := .step 1) (.accept rfl rfl (.accept rfl (.accept rfl rfl rfl rfl List.not_mem_nil) rfl) rfl) <|
    .head (a := .step 1) (.send rfl rfl (.send rfl (.send rfl (fun h => by cases h) rfl rfl))) <|
    .head (a := .owner (none, .take)) (.other (.other rfl (.take rfl rfl))) .refl,
    List.mem_append_right _ (List.mem_singleton.mpr rfl)⟩

theorem returned_call_sent : ∃ path s, Run Step (.start sampleHandle sampleCallers) path s ∧
    (s.connections 0).client = .ended .returned ∧ callNumber 0 ∈ History.sent s.owner.log ∧
    (History.executed s.owner.log).Nodup := by
  obtain ⟨path, u, _, _, _, run, made, returned, _⟩ := sample_calls
  obtain ⟨sent, _, _, once⟩ := remote_outcomes run made returned
  exact ⟨path, u, run, returned, (sent rfl).1, once⟩

theorem second_call_after_crash : ∃ path s, Run Step (.start sampleHandle sampleCallers) path s ∧
    .executed 2 (callNumber 1) ∈ s.owner.log ∧
    ((∃ earlier, History.Before s.owner.log (.executed earlier (callNumber 0)) (.executed 2 (callNumber 1))) ∨
      History.Before s.owner.log (.died (callNumber 0)) (.executed 2 (callNumber 1))) := by
  obtain ⟨path, u, v, more, s, run, made, returned, submitted, onward, ran⟩ := sample_calls
  exact ⟨_, s, (run.next submitted).trans onward, ran,
    remote_calls_in_order run made returned submitted onward ran⟩

end Samples

end Rayd.Actor.Remote
