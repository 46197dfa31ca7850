import Rayd.Lib.Incarnations
import Rayd.Actor.Unanswered

/-! Threads that call `submit` on one actor. A thread is in one call at a time; between
the state lock and the send lock it keeps the id and the socket it has read. The steps
are those of the whole actor, with its reader, its crash path and its subprocesses, and
they write down which calls were accepted, sent, executed or sealed as `ActorDiedError`
and which subprocesses were started. Each subprocess has a socket of its own, so the
number of the socket is the number of the incarnation. -/
namespace Rayd.Actor
open Memory Core Plasma Tasks Transition
open Incarnations (Event History Service)

/-- The calls the crash path has sealed by the time it is done or raises. -/
def diedIds (s : Session) (payload : Bytes) : List ObjectId → List ObjectId
  | [] => []
  | id :: rest =>
    match sealActorDied s id payload with
    | (.error _, _) => []
    | (.ok _, s) => id :: diedIds s payload rest

/-- The call that a step of a caller is about. -/
def Action.call? : Action → Option ObjectId
  | .dispatch id | .send id | .sendFailed id => some id
  | _ => none

/-- What a step of the reader or the subprocess adds to the history. -/
def happened (s : System) (action : Action) (t : System) : History Nat ObjectId :=
  match action with
  | .take =>
    match s.link.inbox with
    | .call id :: _ => [.executed s.actor.sock id]
    | _ => []
  | .socketClosed payload _ _ =>
    (if s.actor.terminated then [] else (diedIds s.session payload s.actor.inFlight).map .died) ++
      if s.actor.socketSeq < t.actor.socketSeq then [.started t.actor.socketSeq] else []
  | _ => []

structure Callers where
  system : System
  /-- The call each thread is in, with the socket it has read. -/
  threads : Nat → Option (ObjectId × Nat)
  log : History Nat ObjectId

def Callers.start (maxRestarts : Int) (name : Option String) (jobId : JobId) (driver : CoreWorker)
    (plasma : Store) : Callers :=
  ⟨.start maxRestarts name jobId driver plasma, fun _ => none, [.started 1]⟩

inductive Turn (s : Callers) : Option Nat × Action → Callers → Prop where
  | accept : s.threads thread = none → Step s.system (.dispatch object) t →
      t.calls object = some (.accepted sock) →
      Turn s (some thread, .dispatch object)
        ⟨t, Function.update s.threads thread (some (object, sock)), s.log ++ [.accepted thread object sock]⟩
  | refuse : s.threads thread = none → Step s.system (.dispatch object) t → t.calls object = some .raised →
      Turn s (some thread, .dispatch object) ⟨t, s.threads, s.log⟩
  | send : s.threads thread = some (object, sock) → Step s.system (.send object) t →
      Turn s (some thread, .send object)
        ⟨t, Function.update s.threads thread none, s.log ++ [.sent thread object]⟩
  | sendFailed : s.threads thread = some (object, sock) → Step s.system (.sendFailed object) t →
      Turn s (some thread, .sendFailed object) ⟨t, Function.update s.threads thread none, s.log⟩
  | other : action.call? = none → Step s.system action t →
      Turn s (none, action) ⟨t, s.threads, s.log ++ happened s.system action t⟩

def Frame.call? : Frame → Option ObjectId
  | .call id => some id
  | .shutdown => none

/-- Calls sent and not yet taken up. -/
def Link.unread (link : Link) : List ObjectId := link.inbox.filterMap Frame.call?

def Link.phase (link : Link) : Incarnations.Phase :=
  match link.process, link.reader with
  | .exited, .exited => .abandoned
  | .exited, _ => .crashed
  | _, _ => .serving

/-- The actor as a service with incarnations. -/
def Callers.view (s : Callers) : Service Nat ObjectId where
  newest := s.system.actor.socketSeq
  current := s.system.actor.sock
  phase := s.system.link.phase
  unread := s.system.link.unread
  pending := s.system.actor.inFlight
  held := s.threads
  log := s.log

section Sealing

theorem diedIds_prefix (payload : Bytes) (ids : List ObjectId) (s : Session) :
    ∃ rest, ids = diedIds s payload ids ++ rest := by
  induction ids generalizing s with
  | nil => exact ⟨[], rfl⟩
  | cons id ids ih =>
    simp only [diedIds]
    split
    · exact ⟨id :: ids, rfl⟩
    · rename_i after _
      obtain ⟨rest, same⟩ := ih after
      exact ⟨rest, congrArg (id :: ·) same⟩

theorem diedIds_all {payload : Bytes} {ids : List ObjectId} {s : Session}
    (done : sealAllDied s payload ids = (.ok (), t)) : diedIds s payload ids = ids := by
  induction ids generalizing s with
  | nil => rfl
  | cons id ids ih =>
    simp only [sealAllDied] at done
    simp only [diedIds]
    rcases result : sealActorDied s id payload with ⟨reply, after⟩
    rw [result] at done
    cases reply with
    | error failure => cases done
    | ok size => exact congrArg (id :: ·) (ih done)

end Sealing

/-- A reader at its end has no subprocess left, and neither has a `terminate` that has
waited for it. -/
structure Ended (s : System) : Prop where
  closed : s.link.closed = true → s.link.process = .exited
  reader : s.link.reader = .closing ∨ s.link.reader = .exited → s.link.process = .exited
  waited : s.terminate = .waited ∨ s.terminate = .returned → s.link.process = .exited
  marked : s.terminate ≠ .idle → s.actor.terminated = true

theorem Ended.advance (kept : Ended s) (closed : t.link.closed = s.link.closed)
    (reader : t.link.reader = s.link.reader)
    (exited : s.link.process = .exited → t.link.process = .exited)
    (terminate : t.terminate = s.terminate) (terminated : t.actor.terminated = s.actor.terminated) :
    Ended t := by
  refine ⟨fun shut => exited (kept.closed (closed ▸ shut)), fun late => exited (kept.reader (reader ▸ late)),
    fun late => exited (kept.waited (terminate ▸ late)), ?_⟩
  rw [terminate, terminated]
  exact kept.marked

theorem Ended.later (kept : Ended s) (begun : s.terminate ≠ .idle) (link : t.link.process = s.link.process ∧
      t.link.closed = s.link.closed ∧ t.link.reader = s.link.reader)
    (actor : t.actor.terminated = s.actor.terminated)
    (waited : t.terminate = .waited ∨ t.terminate = .returned → s.link.process = .exited) : Ended t := by
  obtain ⟨process, closed, reader⟩ := link
  constructor
  · rw [closed, process]
    exact kept.closed
  · rw [reader, process]
    exact kept.reader
  · rw [process]
    exact waited
  · rw [actor]
    exact fun _ => kept.marked begun

/-- What `_on_socket_closed` comes to on the current socket. -/
inductive Outcome (actor : ActorSubprocess) (s : Session) (payload : Bytes) (handshake : Handshake) :
    ActorSubprocess → Prop where
  | terminated : actor.terminated = true → Outcome actor s payload handshake actor
  | unsealed : actor.terminated = false → Outcome actor s payload handshake actor.clearInFlight
  | decided : actor.terminated = false → diedIds s payload actor.inFlight = actor.inFlight →
      Outcome actor s payload handshake (actor.clearInFlight.restartOrBury handshake)

theorem onSocketClosed_outcome {actor : ActorSubprocess}
    (closed : onSocketClosed actor s actor.sock payload handshake = (result, after, t)) :
    Outcome actor s payload handshake after := by
  simp only [onSocketClosed, ne_eq, not_true_eq_false, if_false] at closed
  split at closed
  · rename_i terminated
    cases closed
    exact .terminated terminated
  · rename_i running
    have running : actor.terminated = false := Bool.eq_false_iff.mpr running
    split at closed <;> rename_i swept <;> cases closed
    · exact .unsealed running
    · exact .decided running (diedIds_all swept)

theorem restartOrBury_terminated (actor : ActorSubprocess) (handshake : Handshake) :
    (actor.restartOrBury handshake).terminated = actor.terminated := by
  rw [ActorSubprocess.restartOrBury]
  split
  · rfl
  · cases handshake <;> rfl

theorem Outcome.kept_terminated {actor : ActorSubprocess}
    (outcome : Outcome actor s payload handshake after) :
    after.terminated = actor.terminated := by
  cases outcome with
  | terminated | unsealed => rfl
  | decided => exact restartOrBury_terminated _ handshake

theorem Outcome.restarted {actor : ActorSubprocess} (outcome : Outcome actor s payload handshake after)
    (fresh : after.sock ≠ actor.sock) : actor.terminated = false ∧
      diedIds s payload actor.inFlight = actor.inFlight ∧
      after = actor.clearInFlight.restartOrBury handshake := by
  cases outcome with
  | terminated | unsealed => exact absurd rfl fresh
  | decided running all => exact ⟨running, all, rfl⟩

theorem ended_step (kept : Ended s) (step : Step s action t) : Ended t := by
  have begun : ∀ {phase}, s.terminate = phase → phase ≠ .idle → s.terminate ≠ .idle := by
    intro phase now late
    rwa [now]
  cases step with
  | accept | refuse | send | sendFailed => exact kept.advance rfl rfl (fun exited => exited) rfl rfl
  | take running | sealResult running | answer running =>
    refine kept.advance rfl rfl (fun exited => ?_) rfl rfl
    cases running.symm.trans exited
  | stop | stopAtEnd | crash => exact kept.advance rfl rfl (fun _ => rfl) rfl rfl
  | read | record => exact ⟨kept.closed, by simp, kept.waited, kept.marked⟩
  | endOfFile _ _ exited => exact ⟨fun _ => exited, fun _ => exited, fun _ => exited, kept.marked⟩
  | readError _ closed =>
    have exited := kept.closed closed
    exact ⟨fun _ => exited, fun _ => exited, fun _ => exited, kept.marked⟩
  | @socketClosed result payload handshake actor after jobId closing closed =>
    have exited := kept.reader (.inl closing)
    have outcome := onSocketClosed_outcome closed
    by_cases fresh : actor.sock ≠ s.actor.sock ∧ actor.dead = false
    · simp only [System.afterClose, if_pos fresh]
      have idle : s.terminate = .idle := by
        by_contra begun
        cases (outcome.restarted fresh.1).1.symm.trans (kept.marked begun)
      exact ⟨by simp [Link.fresh], by simp [Link.fresh], by simp [idle], fun begun => absurd idle begun⟩
    · simp only [System.afterClose, if_neg fresh]
      refine ⟨fun _ => exited, fun _ => exited, fun _ => exited, fun begun => ?_⟩
      exact outcome.kept_terminated.trans (kept.marked begun)
  | mark => exact ⟨kept.closed, kept.reader, by simp, fun _ => rfl⟩
  | tell now | tellFailed now | shutWrite now | join now | joinTimeout now =>
    exact kept.later (begun now (by decide)) ⟨rfl, rfl, rfl⟩ rfl (by simp)
  | wait now exited => exact kept.later (begun now (by decide)) ⟨rfl, rfl, rfl⟩ rfl fun _ => exited
  | kill now =>
    exact ⟨fun _ => rfl, fun _ => rfl, fun _ => rfl, fun _ => kept.marked (begun now (by decide))⟩
  | close now =>
    have exited := kept.waited (.inl now)
    exact ⟨fun _ => exited, fun _ => exited, fun _ => exited, fun _ => kept.marked (begun now (by decide))⟩

/-- The subprocess has taken the call up, and the reader has not seen its answer. -/
def Begun (link : Link) (id : ObjectId) : Prop :=
  link.process = .executing id ∨ (∃ completion, link.process = .answering completion ∧ completion.id = id) ∨
    Answering link id

theorem begun_step {id : ObjectId} (step : Step s action t) (begun : Begun t.link id) :
    Begun s.link id ∨ .executed s.actor.sock id ∈ happened s action t := by
  have exit : Begun { s.link with process := .exited } id → Begun s.link id := by
    rintro (running | ⟨_, answering, _⟩ | answered)
    · cases running
    · cases answering
    · exact .inr (.inr answered)
  cases step with
  | take _ inbox =>
    rcases begun with running | ⟨_, answering, _⟩ | answered
    · cases running
      right
      simp [happened, inbox]
    · cases answering
    · exact .inl (.inr (.inr answered))
  | sealResult executing =>
    rcases begun with running | ⟨_, answering, same⟩ | answered
    · cases running
    · cases answering
      exact .inl (.inl (same ▸ executing))
    · exact .inl (.inr (.inr answered))
  | answer answering =>
    rcases begun with running | ⟨_, another, _⟩ | ⟨completion, member, same⟩
    · cases running
    · cases another
    · rcases List.mem_append.mp member with inside | last
      · exact .inl (.inr (.inr ⟨completion, inside, same⟩))
      · cases List.mem_singleton.mp last
        exact .inl (.inr (.inl ⟨_, answering, same⟩))
  | stop | stopAtEnd | crash | kill => exact .inl (exit begun)
  | read _ _ outbox =>
    rcases begun with running | answering | ⟨completion, member, same⟩
    · exact .inl (.inl running)
    · exact .inl (.inr (.inl answering))
    · refine .inl (.inr (.inr ⟨completion, ?_, same⟩))
      rw [outbox]
      exact List.mem_cons_of_mem _ member
  | @socketClosed _ _ _ actor after jobId =>
    left
    by_cases fresh : actor.sock ≠ s.actor.sock ∧ actor.dead = false
    · simp only [System.afterClose, if_pos fresh] at begun
      simp [Begun, Answering, Link.fresh] at begun
    · simp only [System.afterClose, if_neg fresh] at begun
      exact begun
  | _ => exact .inl begun

/-- What ties the threads and the history to the actor. -/
structure Linked (s : Callers) : Prop where
  unanswered : Unanswered s.system
  ended : Ended s.system
  called : ∀ object ∈ History.accepted s.log, s.system.calls object ≠ none
  holding : ∀ thread object sock, s.threads thread = some (object, sock) →
    s.system.calls object = some (.accepted sock)
  begun : ∀ object, Begun s.system.link object → object ∈ History.executed s.log

section Simulation
variable {s t : Callers}

theorem phase_serving {link : Link} (running : link.process ≠ .exited) : link.phase = .serving := by
  rw [Link.phase]
  split
  · exact absurd ‹_› running
  · exact absurd ‹_› running
  · rfl

theorem phase_crashed {link : Link} (exited : link.process = .exited) (going : link.reader ≠ .exited) :
    link.phase = .crashed := by
  rw [Link.phase, exited]
  split
  · exact absurd ‹_› going
  · rfl
  · contradiction

theorem unread_call (link : Link) (id : ObjectId) :
    ({ link with inbox := link.inbox ++ [Frame.call id] } : Link).unread = link.unread ++ [id] :=
  List.filterMap_append

theorem unread_shutdown (link : Link) (told : Bool) :
    ({ link with inbox := link.inbox ++ [Frame.shutdown], told := told } : Link).unread = link.unread :=
  List.filterMap_append.trans (List.append_nil _)

theorem view_same {after : System} (phase : after.link.phase = s.system.link.phase)
    (unread : after.link.unread = s.system.link.unread)
    (actor : after.actor.socketSeq = s.system.actor.socketSeq ∧ after.actor.sock = s.system.actor.sock ∧
      after.actor.inFlight = s.system.actor.inFlight) :
    (⟨after, s.threads, s.log ++ []⟩ : Callers).view = s.view := by
  obtain ⟨seq, sock, inFlight⟩ := actor
  simp only [Callers.view, phase, unread, seq, sock, inFlight, List.append_nil]

variable {action : Action} {after : System}

theorem phase_running {link other : Link} (before : link.process ≠ .exited)
    (after : other.process ≠ .exited) :
    other.phase = link.phase := by
  rw [phase_serving before, phase_serving after]

theorem phase_reader {link other : Link} (process : other.process = link.process)
    (before : link.reader ≠ .exited) (after : other.reader ≠ .exited) : other.phase = link.phase := by
  by_cases exited : link.process = .exited
  · rw [phase_crashed (process.trans exited) after, phase_crashed exited before]
  · rw [phase_serving exited, phase_serving (process ▸ exited)]

theorem exit_simulated (linked : Linked s) (running : s.system.link.process ≠ .exited)
    (process : after.link.process = .exited) (reader : after.link.reader = s.system.link.reader)
    (unread : after.link.unread = s.system.link.unread) (actor : after.actor = s.system.actor) :
    Incarnations.Step s.view (⟨after, s.threads, s.log ++ []⟩ : Callers).view := by
  have going : after.link.reader ≠ .exited := fun exited =>
    running (linked.ended.reader (.inr (reader.symm.trans exited)))
  have same : (⟨after, s.threads, s.log ++ []⟩ : Callers).view = { s.view with phase := .crashed } := by
    simp only [Callers.view, phase_crashed process going, unread, actor, List.append_nil]
  rw [same]
  exact .crash (phase_serving running)

theorem restartOrBury_socket (actor : ActorSubprocess) (handshake : Handshake) :
    (actor.restartOrBury handshake).socketSeq = actor.socketSeq ∧
        (actor.restartOrBury handshake).sock = actor.sock ∨
      (actor.restartOrBury handshake).socketSeq = actor.socketSeq + 1 ∧
        ((actor.restartOrBury handshake).sock = actor.sock ∨
          (actor.restartOrBury handshake).sock = actor.socketSeq + 1) := by
  rw [ActorSubprocess.restartOrBury]
  split
  · exact .inl ⟨rfl, rfl⟩
  · right
    cases handshake with
    | noConnection => exact ⟨rfl, .inl rfl⟩
    | badGreeting | ready => exact ⟨rfl, .inr rfl⟩

theorem view_abandoned {actor : ActorSubprocess} (exited : s.system.link.process = .exited)
    (stale : ¬ (actor.sock ≠ s.system.actor.sock ∧ actor.dead = false)) (session : Session) (jobId : JobId)
    (log : History Nat ObjectId) :
    (⟨s.system.afterClose actor session jobId, s.threads, log⟩ : Callers).view =
      ⟨actor.socketSeq, actor.sock, .abandoned, s.system.link.unread, actor.inFlight, s.threads, log⟩ := by
  have phase : ({ s.system.link with reader := .exited, closed := true } : Link).phase = .abandoned := by
    simp only [Link.phase, exited]
  simp only [Callers.view, System.afterClose, if_neg stale, phase]
  rfl

theorem view_fresh {actor : ActorSubprocess}
    (fresh : actor.sock ≠ s.system.actor.sock ∧ actor.dead = false) (session : Session) (jobId : JobId)
    (log : History Nat ObjectId) :
    (⟨s.system.afterClose actor session jobId, s.threads, log⟩ : Callers).view =
      ⟨actor.socketSeq, actor.sock, .serving, [], actor.inFlight, s.threads, log⟩ := by
  simp only [Callers.view, System.afterClose, if_pos fresh]
  rfl

/-- The crash path declares the calls in flight dead before it starts anything; when it
cannot, it starts nothing. -/
theorem closed_simulated {payload : Bytes} {handshake : Handshake} {actor : ActorSubprocess}
    {session : Session} (linked : Linked s) (closing : s.system.link.reader = .closing)
    (closed : onSocketClosed s.system.actor s.system.session s.system.actor.sock payload handshake =
      (result, actor, session)) (jobId : JobId) :
    Relation.ReflTransGen Incarnations.Step s.view
      (⟨s.system.afterClose actor session jobId, s.threads, s.log ++ happened s.system
        (.socketClosed payload handshake jobId) (s.system.afterClose actor session jobId)⟩ : Callers).view := by
  have exited := linked.ended.reader (.inl closing)
  have crashed : s.view.phase = .crashed := phase_crashed exited (by rw [closing]; exact nofun)
  have numbered := linked.unanswered.numbered
  have outcome := onSocketClosed_outcome closed
  have kept : (s.system.afterClose actor session jobId).actor = actor := rfl
  simp only [happened, kept]
  cases outcome with
  | terminated terminated =>
    rw [if_pos terminated, if_neg (Nat.lt_irrefl _), view_abandoned exited fun fresh => fresh.1 rfl,
      List.append_nil, List.append_nil]
    exact .single (.abandon crashed (Nat.le_refl _) numbered)
  | unsealed running =>
    obtain ⟨rest, split⟩ := diedIds_prefix payload s.system.actor.inFlight s.system.session
    have stale : ¬ (s.system.actor.clearInFlight.sock ≠ s.system.actor.sock ∧
        s.system.actor.clearInFlight.dead = false) := fun fresh => fresh.1 rfl
    have seq : s.system.actor.clearInFlight.socketSeq = s.system.actor.socketSeq := rfl
    rw [if_neg (by simp [running]), seq, if_neg (Nat.lt_irrefl _), List.append_nil,
      view_abandoned exited stale]
    refine .tail (Incarnations.declare_all _ rest s.view crashed split) ?_
    exact .abandon crashed (Nat.le_refl _) numbered
  | decided running all =>
    have cleared := (restartOrBury_sock s.system.actor.clearInFlight numbered handshake).1
    have socket := restartOrBury_socket s.system.actor.clearInFlight handshake
    have declared := Incarnations.declare_all s.system.actor.inFlight [] s.view crashed (List.append_nil _).symm
    rw [if_neg (by simp [running]), all]
    generalize s.system.actor.clearInFlight.restartOrBury handshake = actor at cleared socket ⊢
    simp only [ActorSubprocess.clearInFlight] at cleared socket
    rcases socket with ⟨seq, sock⟩ | ⟨seq, sock⟩
    · rw [seq, if_neg (Nat.lt_irrefl _), List.append_nil, view_abandoned exited fun fresh => fresh.1 sock,
        seq, sock, cleared]
      exact .tail declared (.abandon crashed (Nat.le_refl _) numbered)
    · have started := declared.tail (.start crashed (Nat.lt_succ_self s.system.actor.socketSeq))
      rw [seq, if_pos (Nat.lt_succ_self _), ← List.append_assoc]
      by_cases fresh : actor.sock ≠ s.system.actor.sock ∧ actor.dead = false
      · rw [view_fresh fresh, seq, sock.resolve_left fresh.1, cleared]
        exact started.tail (.replace crashed rfl (Nat.lt_succ_of_le numbered))
      · rw [view_abandoned exited fresh, seq, cleared]
        refine started.tail (.abandon crashed ?_ ?_)
        · rcases sock with same | new
          · exact same.ge
          · exact (Nat.le_succ_of_le numbered).trans new.ge
        · rcases sock with same | new
          · exact same.le.trans (Nat.le_succ_of_le numbered)
          · exact new.le

theorem other_simulated (linked : Linked s) (step : Step s.system action after)
    (other : action.call? = none) :
    Relation.ReflTransGen Incarnations.Step s.view
      (⟨after, s.threads, s.log ++ happened s.system action after⟩ : Callers).view := by
  have stay : ∀ {u : System}, u.link.phase = s.system.link.phase → u.link.unread = s.system.link.unread →
      u.actor.socketSeq = s.system.actor.socketSeq ∧ u.actor.sock = s.system.actor.sock ∧
        u.actor.inFlight = s.system.actor.inFlight →
      Relation.ReflTransGen Incarnations.Step s.view (⟨u, s.threads, s.log ++ []⟩ : Callers).view := by
    intro u phase unread actor
    rw [view_same phase unread actor]
  cases step with
  | accept | refuse | send | sendFailed => cases other
  | @take object rest ready inbox =>
    have running : s.system.link.process ≠ .exited := by
      rw [ready]
      exact nofun
    have front : s.view.unread = object :: rest.filterMap Frame.call? := by
      simp only [Callers.view, Link.unread, inbox]
      rfl
    have phase : ({ s.system.link with process := .executing object, inbox := rest } : Link).phase =
        s.system.link.phase := phase_running running (by intro exited; cases exited)
    have step := Incarnations.Step.execute (phase_serving running) front
    simp only [happened, inbox, Callers.view, phase]
    exact .single step
  | sealResult running | answer running =>
    refine stay (phase_running ?_ ?_) rfl ⟨rfl, rfl, rfl⟩
    · rw [running]
      exact nofun
    · intro exited
      cases exited
  | stop ready | stopAtEnd ready =>
    exact .single (exit_simulated linked (by rw [ready]; exact nofun) rfl rfl rfl rfl)
  | crash running => exact .single (exit_simulated linked running rfl rfl rfl rfl)
  | @read completion rest reading _ outbox =>
    have executed : completion.id ∈ History.executed s.log := by
      refine linked.begun _ (.inr (.inr ⟨completion, ?_, rfl⟩))
      rw [outbox]
      exact List.mem_cons_self
    have phase : ({ s.system.link with outbox := rest, reader := .recording completion } : Link).phase =
        s.system.link.phase := phase_reader rfl (by rw [reading]; exact nofun) nofun
    simp only [happened, Callers.view, phase, List.append_nil]
    refine .single (.settle (fun id member => List.mem_of_mem_erase member) fun id member => ?_)
    by_cases same : id = completion.id
    · exact .inr (same ▸ executed)
    · exact .inl ((List.mem_erase_of_ne same).mpr member)
  | record recording =>
    refine stay (phase_reader rfl ?_ nofun) rfl ⟨rfl, rfl, rfl⟩
    rw [recording]
    exact nofun
  | endOfFile reading | readError reading =>
    refine stay (phase_reader rfl ?_ nofun) rfl ⟨rfl, rfl, rfl⟩
    rw [reading]
    exact nofun
  | socketClosed closing closed => exact closed_simulated linked closing closed _
  | tell => exact stay rfl (unread_shutdown _ _) ⟨rfl, rfl, rfl⟩
  | mark | tellFailed | shutWrite | join | joinTimeout | wait | close => exact stay rfl rfl ⟨rfl, rfl, rfl⟩
  | kill =>
    by_cases exited : s.system.link.process = .exited
    · refine stay ?_ rfl ⟨rfl, rfl, rfl⟩
      simp only [Link.phase, System.exitProcess, exited]
    · exact .single (exit_simulated linked exited rfl rfl rfl rfl)

theorem turn_simulated (linked : Linked s) (turn : Turn s label t) :
    Relation.ReflTransGen Incarnations.Step s.view t.view := by
  cases turn with
  | accept idle step called =>
    cases step with
    | accept uncalled _ _ _ new =>
      cases (calls_update_self _ _ _).symm.trans called
      exact .single (.accept idle fun old => linked.called _ old uncalled)
    | refuse => cases (calls_update_self _ _ _).symm.trans called
  | refuse _ step called =>
    cases step with
    | accept => cases (calls_update_self _ _ _).symm.trans called
    | refuse => exact .refl
  | @send thread object sock after holds step =>
    cases step with
    | send called running =>
      cases called.symm.trans (linked.holding _ _ _ holds)
      have sent : Incarnations.Step s.view _ := .send (phase_serving running) holds
      simp only [Callers.view, System.setCall, unread_call]
      exact .single sent
  | sendFailed _ step =>
    cases step with
    | sendFailed => exact .single (.giveUp _)
  | other other step => exact other_simulated linked step other

end Simulation

theorem step_calls_other {id : ObjectId} (step : Step s action t) (different : action.call? ≠ some id) :
    t.calls id = s.calls id := by
  cases step with
  | accept | refuse | send | sendFailed =>
    exact Function.update_of_ne (fun same => different (congrArg some same.symm)) _ _
  | _ => rfl

theorem happened_accepted (s : System) (action : Action) (t : System) :
    History.accepted (happened s action t) = [] := by
  cases action with
  | take =>
    simp only [happened]
    split <;> rfl
  | socketClosed payload handshake jobId =>
    simp only [happened]
    rw [History.accepted, List.filterMap_append]
    have dead : ∀ ids : List ObjectId,
        List.filterMap Event.acceptedCall (ids.map .died : History Nat ObjectId) = [] :=
      History.accepted_died
    split <;> split <;> simp [dead, Event.acceptedCall]
  | _ => rfl

theorem Linked.advance (linked : Linked s) (step : Step s.system action after)
    (threads : Nat → Option (ObjectId × Nat)) (more : History Nat ObjectId)
    (noted : ∀ id, .executed s.system.actor.sock id ∈ happened s.system action after →
      id ∈ History.executed more)
    (called : ∀ object ∈ History.accepted more, after.calls object ≠ none)
    (holding : ∀ thread object sock, threads thread = some (object, sock) →
      after.calls object = some (.accepted sock)) : Linked ⟨after, threads, s.log ++ more⟩ := by
  refine ⟨unanswered_step linked.unanswered step, ended_step linked.ended step, fun object member => ?_,
    holding, fun object begun => ?_⟩
  · rw [History.accepted, List.filterMap_append] at member
    rcases List.mem_append.mp member with old | new
    · rcases step_calls step object with same | rfl
      · exact same.mpr (linked.called object old)
      · cases step with
        | accept uncalled | refuse uncalled => exact absurd uncalled (linked.called object old)
    · exact called object new
  · rw [History.executed, List.filterMap_append]
    rcases begun_step step begun with before | now
    · exact List.mem_append_left _ (linked.begun object before)
    · exact List.mem_append_right _ (noted object now)

theorem held_by_one {s : Callers} (orderly : Incarnations.Orderly s.view)
    (first : s.threads thread = some (object, sock))
    (second : s.threads other = some (object, later)) : thread = other :=
  (History.accepted_unique orderly.booked.once (orderly.booked.holding first).1
    (orderly.booked.holding second).1).1

theorem Linked.released (linked : Linked s) (orderly : Incarnations.Orderly s.view) {object : ObjectId}
    (holds : s.threads thread = some (object, sock)) (step : Step s.system action after)
    (about : action.call? = some object) (caller : Nat) (id : ObjectId) (held : Nat)
    (found : Function.update s.threads thread none caller = some (id, held)) :
    after.calls id = some (.accepted held) := by
  obtain ⟨different, found⟩ := (Incarnations.held_cases found).resolve_left nofun
  rw [step_calls_other step]
  · exact linked.holding caller id held found
  · rw [about]
    intro same
    cases same
    exact different (held_by_one orderly found holds)

theorem Linked.untouched (linked : Linked s) {object : ObjectId} (step : Step s.system (.dispatch object) after)
    (caller : Nat) (id : ObjectId) (held : Nat) (found : s.threads caller = some (id, held)) :
    after.calls id = some (.accepted held) := by
  have before := linked.holding caller id held found
  rw [step_calls_other step]
  · exact before
  · intro about
    cases about
    cases step with
    | accept uncalled | refuse uncalled => cases uncalled.symm.trans before

theorem linked_turn (linked : Linked s) (orderly : Incarnations.Orderly s.view) (turn : Turn s label t) :
    Linked t := by
  cases turn with
  | @accept thread object after sock idle step called =>
    refine linked.advance step _ [.accepted thread object sock] nofun (fun id member => ?_)
      fun caller id held found => ?_
    · cases List.mem_singleton.mp member
      rw [called]
      exact Option.some_ne_none _
    · rcases Incarnations.held_cases found with ⟨rfl, now⟩ | ⟨_, found⟩
      · cases now
        exact called
      · exact linked.untouched step caller id held found
  | refuse _ step =>
    rw [← List.append_nil s.log]
    exact linked.advance step _ [] nofun nofun (linked.untouched step)
  | send holds step => exact linked.advance step _ _ nofun nofun (linked.released orderly holds step rfl)
  | sendFailed holds step =>
    rw [← List.append_nil s.log]
    exact linked.advance step _ [] nofun nofun (linked.released orderly holds step rfl)
  | @other action after other step =>
    refine linked.advance step _ _ (fun id member => History.mem_executed.mpr ⟨_, member⟩) (fun id member => ?_)
      fun caller id held found => ?_
    · rw [happened_accepted] at member
      cases member
    · rw [step_calls_other step (by rw [other]; exact nofun)]
      exact linked.holding caller id held found

/-- Callers and actor at any time. -/
def Callers.Sound (s : Callers) : Prop := Linked s ∧ Incarnations.Orderly s.view

theorem sound_turn (sound : s.Sound) (turn : Turn s label t) : t.Sound :=
  ⟨linked_turn sound.1 sound.2 turn, Incarnations.orderly_steps sound.2 (turn_simulated sound.1 turn)⟩

theorem sound_start (maxRestarts : Int) (name : Option String) (jobId : JobId) (driver : CoreWorker)
    (plasma : Store) : (Callers.start maxRestarts name jobId driver plasma).Sound := by
  refine ⟨⟨.start maxRestarts name jobId driver plasma, ⟨nofun, nofun, nofun, fun begun => absurd rfl begun⟩,
    nofun, nofun, ?_⟩, Incarnations.orderly_start 1⟩
  rintro object (running | ⟨_, answering, _⟩ | ⟨_, member, _⟩)
  · cases running
  · cases answering
  · cases member

/-- However the calls of any number of threads and the ends and restarts of the subprocess
fall together: a call is executed at most once, by one subprocess; not by one started after
the call was sealed as `ActorDiedError`; the calls of a thread are executed in the order it
made them; and a call it has sent is passed over by a later one only when a crash has
sealed it. -/
theorem calls_once_and_in_order {maxRestarts : Int} {name : Option String} {jobId : JobId}
    {driver : CoreWorker} {plasma : Store}
    (run : Run Turn (.start maxRestarts name jobId driver plasma) path s) :
    (History.executed s.log).Nodup ∧
    (∀ id sock later, .executed sock id ∈ s.log → .executed later id ∈ s.log → sock = later) ∧
    (∀ id sock, History.Before s.log (.died id) (.started sock) → .executed sock id ∉ s.log) ∧
    ∀ thread,
      ((History.executed s.log).filter (· ∈ History.acceptedBy s.log thread)).Sublist
        (History.acceptedBy s.log thread) ∧
      ∀ first second sock, [first, second].Sublist (History.acceptedBy s.log thread) →
        .sent thread first ∈ s.log → .executed sock second ∈ s.log →
        (∃ earlier, History.Before s.log (.executed earlier first) (.executed sock second)) ∨
          History.Before s.log (.died first) (.executed sock second) := by
  have sound : s.Sound := run.invariant (P := Callers.Sound) sound_turn (sound_start _ _ _ _ _)
  have orderly := sound.2
  refine ⟨orderly.executed_once, fun id sock later first second => orderly.executed_by_one first second,
    fun id sock late => orderly.not_executed_after_death late, fun thread => ⟨orderly.executed_in_order thread,
      fun first second sock made sent ran => orderly.skipped_only_dead made sent ran⟩⟩

section Samples

def callNumber (n : Nat) : ObjectId := .forReturn (.nil 24) n

def sampleCallers : Callers := .start 1 none (.nil 16) sampleDriver samplePlasma

/-- One thread makes three calls. The subprocess dies in the first, with the second unread;
the third goes to its successor. -/
theorem run_crash_in_first_call :
    ∃ path s, Run Turn sampleCallers path s ∧ s.log =
      [.started 1, .accepted 0 (callNumber 0) 1, .sent 0 (callNumber 0), .executed 1 (callNumber 0),
        .accepted 0 (callNumber 1) 1, .sent 0 (callNumber 1), .died (callNumber 1), .died (callNumber 0),
        .started 2, .accepted 0 (callNumber 2) 2, .sent 0 (callNumber 2), .executed 2 (callNumber 2)] := by
  have run : Run Turn sampleCallers [] _ := .refl
  have run := run.next (a := (some 0, Action.dispatch (callNumber 0)))
    (.accept rfl (.accept rfl rfl rfl rfl (List.not_mem_nil)) rfl)
  have run := run.next (a := (some 0, Action.send (callNumber 0))) (.send rfl (.send rfl nofun rfl rfl))
  have run := run.next (a := (none, Action.take)) (.other rfl (.take rfl rfl))
  have run := run.next (a := (some 0, Action.dispatch (callNumber 1)))
    (.accept rfl (.accept rfl rfl rfl rfl (by decide)) rfl)
  have run := run.next (a := (some 0, Action.send (callNumber 1))) (.send rfl (.send rfl nofun rfl rfl))
  have run := run.next (a := (none, Action.crash false)) (.other rfl (.crash nofun))
  have run := run.next (a := (none, Action.endOfFile)) (.other rfl (.endOfFile rfl rfl rfl))
  have run := run.next (a := (none, Action.socketClosed [7] .ready (.nil 16)))
    (.other rfl (.socketClosed rfl rfl))
  have run := run.next (a := (some 0, Action.dispatch (callNumber 2)))
    (.accept rfl (.accept rfl rfl rfl rfl (List.not_mem_nil)) rfl)
  have run := run.next (a := (some 0, Action.send (callNumber 2))) (.send rfl (.send rfl nofun rfl rfl))
  have run := run.next (a := (none, Action.take)) (.other rfl (.take rfl rfl))
  exact ⟨_, _, run, rfl⟩

theorem crash_seals_skipped_call :
    ∃ path s, Run Turn sampleCallers path s ∧ History.executed s.log = [callNumber 0, callNumber 2] ∧
      History.acceptedBy s.log 0 = [callNumber 0, callNumber 1, callNumber 2] ∧
      (History.executed s.log).Nodup ∧ .executed 2 (callNumber 0) ∉ s.log ∧
      ((∃ earlier, History.Before s.log (.executed earlier (callNumber 1)) (.executed 2 (callNumber 2))) ∨
        History.Before s.log (.died (callNumber 1)) (.executed 2 (callNumber 2))) := by
  obtain ⟨path, s, run, log⟩ := run_crash_in_first_call
  obtain ⟨once, _, late, turns⟩ := calls_once_and_in_order run
  have made : History.acceptedBy s.log 0 = [callNumber 0, callNumber 1, callNumber 2] := by
    rw [log]
    rfl
  refine ⟨path, s, run, by rw [log]; rfl, made, once, late _ _ ?_, (turns 0).2 _ _ _ ?_ ?_ ?_⟩
  · rw [log, History.Before]
    decide
  · rw [made]
    exact .cons _ (.refl _)
  · rw [log]
    decide
  · rw [log]
    decide

end Samples
end Rayd.Actor
