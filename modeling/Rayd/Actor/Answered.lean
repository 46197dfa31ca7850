import Rayd.Actor.Termination

/-! Which accepted calls get an answer when an actor is terminated. A call is
answered by the subprocess, or by the crash path while the actor is not yet
marked terminated. It is lost when its frame lands behind the shutdown frame,
when the subprocess dies with work left after the mark, when `terminate` gives up
on the reader, and when the crash path itself fails. -/
namespace Rayd.Actor
open Memory Core Plasma Tasks Transition

/-- No call frame follows the shutdown frame; the subprocess does not die after
the actor is marked terminated, nor unnoticed before it; the join does not time
out; and the crash path can seal what it has to. -/
def Graceful (s : System) : Action → Prop
  | .send _ => s.link.told = false
  | .crash _ => s.actor.terminated = false
  | .mark => s.link.process ≠ .exited ∨ s.actor.dead = true
  | .joinTimeout => False
  | .socketClosed payload _ _ => s.actor.terminated = false →
      Session.Sealable s.plasma (diedSealings payload s.actor.inFlight)
  | _ => True

/-- How far the threads are, without regard to calls. -/
structure Shape (link : Link) (terminated dead : Bool) (terminate : TerminatePhase) : Prop where
  silent : link.told = false → Frame.shutdown ∉ link.inbox
  last : ∀ first rest, link.inbox = first ++ Frame.shutdown :: rest → rest = []
  drained : link.reader = .closing ∨ link.reader = .exited → link.outbox = [] ∧ link.process = .exited
  opened : link.closed = true → link.reader = .exited
  ended : link.reader = .exited → terminated = true ∨ dead = true
  begun : terminate ≠ .idle → terminated = true
  unmarked : terminate = .idle → terminated = false
  untold : terminate = .idle ∨ terminate = .marked → link.told = false
  unshut : terminate = .idle → link.shutWrite = false
  joined : terminate = .joined ∨ terminate = .waited ∨ terminate = .returned → link.reader = .exited

theorem last_append {inbox : List Frame} (silent : Frame.shutdown ∉ inbox) (frame : Frame) :
    ∀ first rest, inbox ++ [frame] = first ++ Frame.shutdown :: rest → rest = [] := by
  intro first rest same
  rcases List.eq_nil_or_concat rest with rfl | ⟨front, back, rfl⟩
  · rfl
  · rw [List.concat_eq_append, ← List.cons_append, ← List.append_assoc] at same
    have inside := (List.append_inj_left' same rfl)
    exact absurd (inside ▸ List.mem_append_right _ List.mem_cons_self) silent

theorem shape_fresh (jobId : JobId) : Shape (.fresh jobId) false dead .idle := by
  constructor <;> simp [Link.fresh]

section Shape
variable {link : Link} {terminated dead : Bool} {terminate : TerminatePhase}

theorem Shape.take (shape : Shape link terminated dead terminate)
    (inbox : link.inbox = frame :: rest) (running : link.process = .ready) (process : ProcessPhase) :
    Shape { link with process := process, inbox := rest } terminated dead terminate := by
  obtain ⟨silent, last, drained, opened, ended, begun, unmarked, untold, unshut, joined⟩ := shape
  refine ⟨fun quiet member => silent quiet ?_, fun first after same => ?_, fun past => ?_, opened, ended,
    begun, unmarked, untold, unshut, joined⟩
  · rw [inbox]
    exact List.mem_cons_of_mem _ member
  · have same : rest = first ++ Frame.shutdown :: after := same
    exact last (frame :: first) after (by rw [inbox, same, List.cons_append])
  · have exited := (drained past).2
    rw [running] at exited
    cases exited

/-- The subprocess goes on while the reader has not seen the end. -/
theorem Shape.process (shape : Shape link terminated dead terminate) (alive : link.process ≠ .exited)
    (phase : ProcessPhase) (worker : CoreWorker) (outbox : List Completion) :
    Shape { link with process := phase, worker := worker, outbox := outbox } terminated dead
      terminate := by
  obtain ⟨silent, last, drained, opened, ended, begun, unmarked, untold, unshut, joined⟩ := shape
  exact ⟨silent, last, fun past => absurd (drained past).2 alive, opened, ended, begun, unmarked, untold,
    unshut, joined⟩

theorem Shape.exit (shape : Shape link terminated dead terminate) :
    Shape { link with process := .exited } terminated dead terminate := by
  obtain ⟨silent, last, drained, opened, ended, begun, unmarked, untold, unshut, joined⟩ := shape
  exact ⟨silent, last, fun past => ⟨(drained past).1, rfl⟩, opened, ended, begun, unmarked, untold,
    unshut, joined⟩

/-- The reader moves on between two of its phases before the end. -/
theorem Shape.reader (shape : Shape link terminated dead terminate) (going : link.reader ≠ .exited)
    (phase : ReaderPhase) (early : phase ≠ .exited)
    (drained : phase = .closing → outbox = [] ∧ link.process = .exited) :
    Shape { link with reader := phase, outbox := outbox } terminated dead terminate := by
  obtain ⟨silent, last, _, opened, ended, begun, unmarked, untold, unshut, joined⟩ := shape
  refine ⟨silent, last, fun past => ?_, fun closed => absurd (opened closed) going, fun past => ?_, begun,
    unmarked, untold, unshut, fun late => absurd (joined late) going⟩
  · rcases past with closing | exited
    · exact drained closing
    · exact absurd exited early
  · exact absurd past early

theorem Shape.finish (shape : Shape link terminated dead terminate) (closing : link.reader = .closing)
    (idle : terminated = true ∨ dead' = true) :
    Shape { link with reader := .exited, closed := true } terminated dead' terminate := by
  obtain ⟨silent, last, drained, _, _, begun, unmarked, untold, unshut, _⟩ := shape
  exact ⟨silent, last, fun _ => drained (.inl closing), fun _ => rfl, fun _ => idle, begun, unmarked,
    untold, unshut, fun _ => rfl⟩

theorem Shape.push (shape : Shape link terminated dead terminate) (quiet : link.told = false)
    (id : ObjectId) :
    Shape { link with inbox := link.inbox ++ [Frame.call id] } terminated dead terminate := by
  obtain ⟨silent, _, drained, opened, ended, begun, unmarked, untold, unshut, joined⟩ := shape
  refine ⟨fun quiet member => ?_, last_append (silent quiet) _, drained, opened, ended, begun, unmarked,
    untold, unshut, joined⟩
  rcases List.mem_append.mp member with old | new
  · exact silent quiet old
  · cases List.mem_singleton.mp new

theorem Shape.later (shape : Shape link terminated dead terminate) (begun : terminate ≠ .idle)
    (phase : TerminatePhase) (after : phase ≠ .idle) (told : phase ≠ .marked)
    (joined : phase = .joined ∨ phase = .waited ∨ phase = .returned → link.reader = .exited) :
    Shape { link with shutWrite := shutWrite } terminated dead phase :=
  { shape with
    begun := fun _ => shape.begun begun
    unmarked := fun idle => absurd idle after
    untold := fun early => (early.elim after told).elim
    unshut := fun idle => absurd idle after
    joined := joined }

end Shape

def Recorded (s : System) (id : ObjectId) : Prop := s.driver.store.getEntry id ≠ none

/-- The frame is at the subprocess, its answer not yet sent. -/
def InProcess (link : Link) (id : ObjectId) : Prop :=
  Frame.call id ∈ link.inbox ∨ link.process = .executing id ∨
    ∃ completion, link.process = .answering completion ∧ completion.id = id

def Answering (link : Link) (id : ObjectId) : Prop := ∃ completion ∈ link.outbox, completion.id = id

def Recording (link : Link) (id : ObjectId) : Prop :=
  ∃ completion, link.reader = .recording completion ∧ completion.id = id

/-- Where the calls are. -/
structure Kept (s : System) : Prop where
  numbered : s.actor.sock ≤ s.actor.socketSeq
  buried : s.actor.dead = true → s.link.reader = .exited
  sent : ∀ id, InProcess s.link id ∨ Answering s.link id → s.calls id = some .returned
  accepted : ∀ id sock, s.calls id = some (.accepted sock) →
    Recorded s id ∨ sock = s.actor.sock ∧ id ∈ s.actor.inFlight
  returned : ∀ id, s.calls id = some .returned →
    Recorded s id ∨ Recording s.link id ∨ id ∈ s.actor.inFlight ∧
      ((InProcess s.link id ∨ Answering s.link id) ∨
        s.link.process = .exited ∧ s.actor.terminated = false)
  stopped : s.actor.terminated = true → s.actor.dead = true ∨
    (s.link.process = .exited → ∀ id, Frame.call id ∉ s.link.inbox)
  spent : s.actor.dead = true → ∀ id,
    s.calls id = some .returned ∨ (∃ sock, s.calls id = some (.accepted sock)) → Recorded s id

theorem Kept.frame (kept : Kept s) (actor : t.actor.sock = s.actor.sock ∧
      t.actor.socketSeq = s.actor.socketSeq ∧ t.actor.dead = s.actor.dead ∧
      t.actor.terminated = s.actor.terminated ∧ t.actor.inFlight = s.actor.inFlight)
    (calls : t.calls = s.calls) (store : t.driver.store = s.driver.store)
    (link : t.link.inbox = s.link.inbox ∧ t.link.outbox = s.link.outbox ∧
      t.link.process = s.link.process ∧ t.link.reader = s.link.reader) : Kept t := by
  obtain ⟨numbered, buried, sent, accepted, returned, stopped, spent⟩ := kept
  obtain ⟨sock, seq, dead, terminated, inFlight⟩ := actor
  obtain ⟨inbox, outbox, process, reader⟩ := link
  constructor
  · rwa [sock, seq]
  · rwa [dead, reader]
  · simpa only [InProcess, Answering, inbox, outbox, process, calls] using sent
  · simpa only [Recorded, calls, store, sock, inFlight] using accepted
  · simpa only [Recorded, Recording, InProcess, Answering, calls, store, inbox, outbox, process, reader,
      inFlight, terminated] using returned
  · simpa only [terminated, dead, process, inbox] using stopped
  · simpa only [Recorded, dead, calls, store] using spent

theorem Kept.advance (kept : Kept s) (inbox : List Frame) (outbox : List Completion)
    (process : ProcessPhase) (worker : CoreWorker) (plasma : Store) (alive : s.link.process ≠ .exited)
    (moved : ∀ id,
      InProcess { s.link with inbox := inbox, outbox := outbox, process := process, worker := worker } id ∨
        Answering { s.link with inbox := inbox, outbox := outbox, process := process, worker := worker } id ↔
      InProcess s.link id ∨ Answering s.link id)
    (stopped : process = .exited → s.actor.terminated = true → ∀ id, Frame.call id ∉ inbox) :
    Kept { s with
      plasma := plasma
      link := { s.link with inbox := inbox, outbox := outbox, process := process, worker := worker } } := by
  refine ⟨kept.numbered, kept.buried, fun id placed => kept.sent id ((moved id).mp placed), kept.accepted,
    fun id back => ?_, fun marked => .inr fun exited => stopped exited marked, kept.spent⟩
  refine (kept.returned id back).imp_right fun rest => rest.imp_right fun held => ⟨held.1, ?_⟩
  rcases held.2 with placed | ⟨exited, _⟩
  · exact .inl ((moved id).mpr placed)
  · exact absurd exited alive

theorem Kept.stop (kept : Kept s) (ready : s.link.process = .ready)
    (empty : ∀ id, Frame.call id ∉ s.link.inbox) : Kept (s.exitProcess true) := by
  refine kept.advance s.link.inbox s.link.outbox .exited s.link.worker _ (by simp [ready]) (fun id => ?_)
    fun _ _ => empty
  simp [InProcess, Answering, ready]

section Calls
variable {s : System} {id other : ObjectId}

theorem calls_update_ne (different : other ≠ id) (phase : CallPhase) :
    (s.setCall id phase).calls other = s.calls other :=
  Function.update_of_ne different _ _

theorem calls_update_self (s : System) (id : ObjectId) (phase : CallPhase) :
    (s.setCall id phase).calls id = some phase :=
  Function.update_self _ _ _

theorem setCall_cases {phase now : CallPhase} (called : (s.setCall id phase).calls other = some now) :
    other = id ∧ now = phase ∨ other ≠ id ∧ s.calls other = some now := by
  by_cases same : other = id
  · rw [same, calls_update_self] at called
    exact .inl ⟨same, (Option.some.inj called).symm⟩
  · rw [calls_update_ne same] at called
    exact .inr ⟨same, called⟩

theorem Kept.raise (kept : Kept s) (unsent : s.calls id ≠ some .returned) :
    Kept (s.setCall id .raised) := by
  have same : ∀ {other now}, now ≠ .raised → (s.setCall id .raised).calls other = some now →
      s.calls other = some now := by
    intro other now different called
    rcases setCall_cases called with ⟨_, raised⟩ | ⟨_, called⟩
    · exact absurd raised different
    · exact called
  refine ⟨kept.numbered, kept.buried, fun other placed => ?_,
    fun other sock now => kept.accepted other sock (same nofun now),
    fun other now => kept.returned other (same nofun now), kept.stopped,
    fun dead other now => kept.spent dead other
      (now.imp (same nofun) fun ⟨sock, now⟩ => ⟨sock, same nofun now⟩)⟩
  have back := kept.sent other placed
  rwa [calls_update_ne]
  rintro rfl
  exact unsent back

theorem Kept.accept (kept : Kept s) (fresh : s.calls id = none) (alive : s.actor.dead = false)
    (new : id ∉ s.actor.inFlight) :
    Kept ((s.addInFlight id new).setCall id (.accepted s.actor.sock)) := by
  refine ⟨kept.numbered, kept.buried, fun other placed => ?_, fun other sock now => ?_,
    fun other now => ?_, kept.stopped, fun dead => ?_⟩
  · have back := kept.sent other placed
    rw [calls_update_ne]
    · exact back
    · rintro rfl
      rw [fresh] at back
      cases back
  · rcases setCall_cases now with ⟨rfl, here⟩ | ⟨_, now⟩
    · cases here
      exact .inr ⟨rfl, List.mem_cons_self⟩
    · exact (kept.accepted other sock now).imp_right fun held => ⟨held.1, List.mem_cons_of_mem _ held.2⟩
  · rcases setCall_cases now with ⟨_, here⟩ | ⟨_, now⟩
    · cases here
    · exact (kept.returned other now).imp_right fun rest =>
        rest.imp_right fun held => ⟨List.mem_cons_of_mem _ held.1, held.2⟩
  · cases alive.symm.trans dead

theorem Kept.send (kept : Kept s) (called : s.calls id = some (.accepted s.actor.sock))
    (running : s.link.process ≠ .exited) :
    Kept ({ s with link := { s.link with inbox := s.link.inbox ++ [Frame.call id] } }.setCall id
      .returned) := by
  have grows : ∀ other, InProcess s.link other →
      InProcess { s.link with inbox := s.link.inbox ++ [Frame.call id] } other :=
    fun other => Or.imp_left (List.mem_append_left _)
  refine ⟨kept.numbered, kept.buried, fun other placed => ?_, fun other sock now => ?_,
    fun other now => ?_, fun _ => .inr fun exited => absurd exited running, fun dead other now => ?_⟩
  · by_cases same : other = id
    · rw [same, calls_update_self]
    · rw [calls_update_ne same]
      apply kept.sent other
      rcases placed with (member | held) | answered
      · rcases List.mem_append.mp member with old | new
        · exact .inl (.inl old)
        · cases List.mem_singleton.mp new
          exact absurd rfl same
      · exact .inl (.inr held)
      · exact .inr answered
  · rcases setCall_cases now with ⟨_, here⟩ | ⟨_, now⟩
    · cases here
    · exact kept.accepted other sock now
  · rcases setCall_cases now with ⟨rfl, _⟩ | ⟨_, now⟩
    · refine (kept.accepted other _ called).imp_right fun held => .inr ⟨held.2, .inl (.inl (.inl ?_))⟩
      exact List.mem_append_right _ List.mem_cons_self
    · exact (kept.returned other now).imp_right fun rest =>
        rest.imp_right fun held => ⟨held.1, held.2.imp_left fun placed => placed.imp_left (grows other)⟩
  · rcases now with now | ⟨sock, now⟩
    · rcases setCall_cases now with ⟨rfl, _⟩ | ⟨_, now⟩
      · exact kept.spent dead other (.inr ⟨_, called⟩)
      · exact kept.spent dead other (.inl now)
    · rcases setCall_cases now with ⟨_, here⟩ | ⟨_, now⟩
      · cases here
      · exact kept.spent dead other (.inr ⟨sock, now⟩)

/-- While the actor is not marked, a crash leaves the calls to the crash path. -/
theorem Kept.crash (kept : Kept s) (unmarked : s.actor.terminated = false) (cleanup : Bool) :
    Kept (s.exitProcess cleanup) := by
  refine ⟨kept.numbered, kept.buried, fun other placed => kept.sent other ?_, kept.accepted,
    fun other now => ?_, fun marked => ?_, kept.spent⟩
  · rcases placed with (member | running | ⟨_, running, _⟩) | answered
    · exact .inl (.inl member)
    · cases running
    · cases running
    · exact .inr answered
  · exact (kept.returned other now).imp_right fun rest =>
      rest.imp_right fun held => ⟨held.1, .inr ⟨rfl, unmarked⟩⟩
  · rw [show (s.exitProcess cleanup).actor.terminated = s.actor.terminated from rfl, unmarked] at marked
    cases marked

theorem Kept.read (kept : Kept s) (reading : s.link.reader = .reading)
    (outbox : s.link.outbox = completion :: rest) :
    Kept { s.discardInFlight completion.id with
      link := { s.link with outbox := rest, reader := .recording completion } } := by
  have first : s.calls completion.id = some .returned :=
    kept.sent _ (.inr ⟨completion, outbox ▸ List.mem_cons_self, rfl⟩)
  refine ⟨kept.numbered, fun dead => ?_, fun other placed => kept.sent other ?_,
    fun other sock now => ?_, fun other now => ?_, kept.stopped, kept.spent⟩
  · exact absurd (kept.buried dead) (by simp [reading])
  · refine placed.imp_right ?_
    rintro ⟨found, member, same⟩
    exact ⟨found, outbox ▸ List.mem_cons_of_mem _ member, same⟩
  · refine (kept.accepted other sock now).imp_right fun held => ⟨held.1, ?_⟩
    refine (List.mem_erase_of_ne ?_).mpr held.2
    rintro rfl
    cases first.symm.trans now
  · by_cases same : other = completion.id
    · exact .inr (.inl ⟨completion, rfl, same.symm⟩)
    · refine (kept.returned other now).imp_right fun held => .inr ?_
      rcases held with ⟨_, busy, _⟩ | ⟨inFlight, held⟩
      · rw [reading] at busy
        cases busy
      · refine ⟨(List.mem_erase_of_ne same).mpr inFlight, held.imp_left fun placed => ?_⟩
        refine placed.imp_right ?_
        rintro ⟨found, member, here⟩
        rw [outbox] at member
        rcases List.mem_cons.mp member with rfl | later
        · exact absurd here.symm same
        · exact ⟨found, later, here⟩

theorem recorded_record (completion : Completion) (other : ObjectId) :
    Recorded (s.record completion) other ↔ other = completion.id ∨ Recorded s other := by
  simp only [Recorded, System.record, Session.putPlasma, Session.addOwned, System.session,
    MemoryStore.getEntry_putPlasma]
  by_cases same : other = completion.id <;> simp [same]

theorem Kept.record (kept : Kept s) (recording : s.link.reader = .recording completion) :
    Kept { s.record completion with link := { s.link with reader := .reading } } := by
  have grows : ∀ other, Recorded s other → Recorded (s.record completion) other :=
    fun other known => (recorded_record completion other).mpr (.inr known)
  refine ⟨kept.numbered, fun dead => ?_, kept.sent, fun other sock now => ?_, fun other now => ?_,
    kept.stopped, fun dead other now => grows other (kept.spent dead other now)⟩
  · exact absurd (kept.buried dead) (by simp [recording])
  · exact (kept.accepted other sock now).imp_left (grows other)
  · rcases kept.returned other now with known | ⟨found, busy, same⟩ | held
    · exact .inl (grows other known)
    · rw [recording] at busy
      cases busy
      exact .inl ((recorded_record completion other).mpr (.inl same.symm))
    · exact .inr (.inr held)

theorem Kept.leave (kept : Kept s) (free : ∀ completion, s.link.reader ≠ .recording completion)
    (buried : s.actor.dead = true → phase = .exited) (closed : Bool) :
    Kept { s with link := { s.link with reader := phase, closed := closed } } := by
  refine ⟨kept.numbered, buried, kept.sent, kept.accepted, fun id back => ?_, kept.stopped, kept.spent⟩
  rcases kept.returned id back with known | ⟨completion, busy, _⟩ | held
  · exact .inl known
  · exact absurd busy (free completion)
  · exact .inr (.inr held)

/-- The mark takes the crash path away; there is nothing left to it. -/
theorem Kept.mark (kept : Kept s) (served : s.link.process ≠ .exited ∨ s.actor.dead = true)
    (phase : TerminatePhase) :
    Kept { s with actor := { s.actor with terminated := true }, terminate := phase } := by
  refine ⟨kept.numbered, kept.buried, kept.sent, kept.accepted, fun id back => ?_, fun _ => ?_, kept.spent⟩
  · rcases kept.returned id back with known | busy | ⟨inFlight, placed | ⟨exited, _⟩⟩
    · exact .inl known
    · exact .inr (.inl busy)
    · exact .inr (.inr ⟨inFlight, .inl placed⟩)
    · rcases served with running | dead
      · exact absurd exited running
      · exact .inl (kept.spent dead id (.inl back))
  · exact served.symm.imp_right fun running exited => absurd exited running

end Calls

section Closing
variable {s : System} {payload : Bytes} {id : ObjectId}

theorem restartOrBury_cases (actor : ActorSubprocess) (numbered : actor.sock ≤ actor.socketSeq)
    (handshake : Handshake) :
    (actor.restartOrBury handshake).terminated = actor.terminated ∧
      (actor.restartOrBury handshake).sock ≤ (actor.restartOrBury handshake).socketSeq ∧
      ((actor.restartOrBury handshake).dead = true ∨
        (actor.restartOrBury handshake).dead = actor.dead ∧
          (actor.restartOrBury handshake).sock ≠ actor.sock) := by
  by_cases spent : actor.maxRestarts ≤ actor.restartsUsed
  · simp [ActorSubprocess.restartOrBury, spent, ActorSubprocess.bury, numbered]
  · cases handshake with
    | noConnection =>
      simp only [ActorSubprocess.restartOrBury, spent, ActorSubprocess.spawnSubprocess,
        ActorSubprocess.bury, if_false]
      exact ⟨trivial, by omega, .inl trivial⟩
    | badGreeting =>
      simp only [ActorSubprocess.restartOrBury, spent, ActorSubprocess.spawnSubprocess,
        ActorSubprocess.bury, if_false]
      exact ⟨trivial, le_rfl, .inl trivial⟩
    | ready =>
      simp only [ActorSubprocess.restartOrBury, spent, ActorSubprocess.spawnSubprocess, if_false]
      exact ⟨trivial, le_rfl, .inr ⟨trivial, by omega⟩⟩

theorem onSocketClosed_sealable {actor : ActorSubprocess} {t : Session} (unmarked : actor.terminated = false)
    (sealable : Session.Sealable t.plasma (diedSealings payload actor.inFlight)) (handshake : Handshake) :
    (t.sealEach (diedSealings payload actor.inFlight)).1 = .ok () ∧
      onSocketClosed actor t actor.sock payload handshake =
        (.ok (), actor.clearInFlight.restartOrBury handshake,
          (t.sealEach (diedSealings payload actor.inFlight)).2) := by
  have done := Session.sealEach_of_sealable _ t (diedSealings_distinct actor payload) sealable
  refine ⟨done, ?_⟩
  rcases sealAllDied_spec payload actor.inFlight t with ⟨_, result⟩ | ⟨stopped, _⟩
  · simp only [onSocketClosed, unmarked, result, Bool.false_eq_true, if_false, ne_eq, not_true_eq_false]
  · exact absurd done stopped

/-- After the crash path every call in flight is recorded, and what was stays so. -/
theorem sealEach_recorded (actor : ActorSubprocess) (t : Session)
    (done : (t.sealEach (diedSealings payload actor.inFlight)).1 = .ok ())
    (known : id ∈ actor.inFlight ∨ t.worker.store.getEntry id ≠ none) :
    (t.sealEach (diedSealings payload actor.inFlight)).2.worker.store.getEntry id ≠ none := by
  by_cases inFlight : id ∈ actor.inFlight
  · exact sealEach_died done inFlight
  · rw [(Session.sealEach_entries _ t (diedSealings_distinct actor payload) done).2 id ?_]
    · exact known.resolve_left inFlight
    · rintro value member rfl
      obtain ⟨other, found, rfl⟩ := List.mem_map.mp member
      exact inFlight found

/-- When the reader has seen the end and the actor is not marked, every call is
recorded already or still in flight. -/
theorem Kept.waiting (kept : Kept s) (closing : s.link.reader = .closing)
    (called : s.calls id = some .returned ∨ ∃ sock, s.calls id = some (.accepted sock)) :
    id ∈ s.actor.inFlight ∨ Recorded s id := by
  rcases called with back | ⟨sock, accepted⟩
  · rcases kept.returned id back with known | ⟨_, busy, _⟩ | held
    · exact .inr known
    · rw [closing] at busy
      cases busy
    · exact .inl held.1
  · rcases kept.accepted id sock accepted with known | held
    · exact .inr known
    · exact .inl held.2

theorem Kept.settled {t : System} (numbered : t.actor.sock ≤ t.actor.socketSeq)
    (buried : t.actor.dead = true → t.link.reader = .exited)
    (idle : ∀ id, InProcess t.link id ∨ Answering t.link id → t.calls id = some .returned)
    (recorded : ∀ id, t.calls id = some .returned ∨ (∃ sock, t.calls id = some (.accepted sock)) →
      Recorded t id)
    (unmarked : t.actor.terminated = false) : Kept t := by
  refine ⟨numbered, buried, idle, fun id sock now => .inl (recorded id (.inr ⟨sock, now⟩)),
    fun id now => .inl (recorded id (.inl now)), fun marked => ?_, fun _ => recorded⟩
  rw [unmarked] at marked
  cases marked

end Closing

abbrev System.Shaped (s : System) : Prop := Shape s.link s.actor.terminated s.actor.dead s.terminate

section Steps
variable {s t : System} {id : ObjectId}

theorem buried_step (kept : Kept s) (shape : s.Shaped) (closing : s.link.reader = .closing)
    (unmarked : actor.terminated = s.actor.terminated) (running : s.actor.terminated = false)
    (numbered : actor.sock ≤ actor.socketSeq) (dead : actor.dead = true)
    (recorded : ∀ id, s.calls id = some .returned ∨ (∃ sock, s.calls id = some (.accepted sock)) →
      u.worker.store.getEntry id ≠ none) (jobId : JobId) :
    (s.afterClose actor u jobId).Shaped ∧ Kept (s.afterClose actor u jobId) := by
  have link : (s.afterClose actor u jobId).link = { s.link with reader := .exited, closed := true } :=
    if_neg (by simp [dead])
  constructor
  · rw [System.Shaped, link]
    have finished : Shape _ _ actor.dead _ := shape.finish closing (.inr dead)
    rwa [← unmarked] at finished
  · refine .settled numbered (fun _ => by rw [link]) ?_ recorded (unmarked.trans running)
    rw [link]
    exact kept.sent

theorem restarted_step (shape : s.Shaped) (unmarked : actor.terminated = s.actor.terminated)
    (running : s.actor.terminated = false) (numbered : actor.sock ≤ actor.socketSeq)
    (alive : actor.dead = false) (moved : actor.sock ≠ s.actor.sock)
    (recorded : ∀ id, s.calls id = some .returned ∨ (∃ sock, s.calls id = some (.accepted sock)) →
      u.worker.store.getEntry id ≠ none) (jobId : JobId) :
    (s.afterClose actor u jobId).Shaped ∧ Kept (s.afterClose actor u jobId) := by
  have link : (s.afterClose actor u jobId).link = .fresh jobId := if_pos ⟨moved, alive⟩
  have idle : s.terminate = .idle := by
    by_contra begun
    rw [shape.begun begun] at running
    cases running
  constructor
  · rw [System.Shaped, link, show (s.afterClose actor u jobId).actor.terminated = false from
      unmarked.trans running, show (s.afterClose actor u jobId).terminate = .idle from idle]
    exact shape_fresh jobId
  · refine .settled numbered (fun dead => ?_) ?_ recorded (unmarked.trans running)
    · cases alive.symm.trans dead
    · rw [link]
      intro id placed
      simp [InProcess, Answering, Link.fresh] at placed

/-- The crash path either starts a subprocess on a new socket or buries the actor. -/
theorem closed_step (kept : Kept s) (shape : s.Shaped) (closing : s.link.reader = .closing)
    (sealable : s.actor.terminated = false →
      Session.Sealable s.plasma (diedSealings payload s.actor.inFlight))
    (closed : onSocketClosed s.actor s.session s.actor.sock payload handshake = (result, actor, u))
    (jobId : JobId) : (s.afterClose actor u jobId).Shaped ∧ Kept (s.afterClose actor u jobId) := by
  cases marked : s.actor.terminated with
  | true =>
    simp only [onSocketClosed, marked, if_true, Prod.mk.injEq] at closed
    obtain ⟨_, rfl, rfl⟩ := closed
    rw [show s.afterClose s.actor s.session jobId =
      { s with link := { s.link with reader := .exited, closed := true } } by
        simp [System.afterClose, System.session]]
    exact ⟨shape.finish closing (.inl marked), kept.leave (by simp [closing]) (fun _ => rfl) true⟩
  | false =>
    obtain ⟨done, result⟩ := onSocketClosed_sealable (t := s.session) marked (sealable marked) handshake
    rw [result, Prod.mk.injEq, Prod.mk.injEq] at closed
    obtain ⟨_, rfl, rfl⟩ := closed
    have recorded : ∀ id, s.calls id = some .returned ∨ (∃ sock, s.calls id = some (.accepted sock)) →
        (s.session.sealEach (diedSealings payload s.actor.inFlight)).2.worker.store.getEntry id ≠ none :=
      fun id called => sealEach_recorded s.actor s.session done (kept.waiting closing called)
    obtain ⟨unmarked, numbered, outcome⟩ :=
      restartOrBury_cases s.actor.clearInFlight kept.numbered handshake
    rcases outcome with dead | ⟨same, moved⟩
    · exact buried_step kept shape closing unmarked marked numbered dead recorded jobId
    · have alive : s.actor.dead = false := by
        by_contra dead
        exact absurd (kept.buried (eq_true_of_ne_false dead)) (by simp [closing])
      exact restarted_step shape unmarked marked numbered (same.trans alive) moved recorded jobId

theorem shape_step (shape : s.Shaped) (graceful : Graceful s a) (step : Step s a t)
    (ordinary : ∀ payload handshake jobId, a ≠ .socketClosed payload handshake jobId) : t.Shaped := by
  cases step with
  | accept | refuse | sendFailed => exact shape
  | send => exact shape.push graceful _
  | take ready inbox => exact shape.take inbox ready _
  | sealResult executing =>
    exact shape.process (by simp [executing]) _ _ _
  | answer answering =>
    exact shape.process (by simp [answering]) _ _ _
  | stop | stopAtEnd | crash => exact shape.exit
  | read reading => exact shape.reader (by simp [reading]) _ nofun nofun
  | record recording => exact shape.reader (by simp [recording]) _ nofun nofun
  | endOfFile reading outbox exited =>
    exact shape.reader (by simp [reading]) _ nofun fun _ => ⟨outbox, exited⟩
  | readError reading closed =>
    exact absurd (shape.opened closed) (by simp [reading])
  | socketClosed => exact absurd rfl (ordinary _ _ _)
  | mark idle =>
    exact { shape with
      ended := fun _ => .inl rfl
      begun := fun _ => rfl
      unmarked := nofun
      untold := fun _ => shape.untold (.inl idle)
      unshut := nofun
      joined := nofun }
  | tell marked =>
    exact { shape.later (by simp [marked]) .told nofun nofun nofun with
      silent := nofun
      last := last_append (shape.silent (shape.untold (.inr marked))) _
      untold := nofun }
  | tellFailed marked => exact shape.later (by simp [marked]) _ nofun nofun nofun
  | shutWrite told => exact shape.later (by simp [told]) _ nofun nofun nofun
  | join shut exited => exact shape.later (by simp [shut]) _ nofun nofun fun _ => exited
  | joinTimeout => exact graceful.elim
  | wait joined =>
    exact shape.later (by simp [joined]) _ nofun nofun fun _ => shape.joined (.inl joined)
  | kill joined =>
    exact shape.exit.later (by simp [joined]) _ nofun nofun fun _ => shape.joined (.inl joined)
  | close waited =>
    have exited := shape.joined (.inr (.inl waited))
    exact { shape.later (by simp [waited]) .returned nofun nofun fun _ => exited with
      opened := fun _ => exited }

theorem kept_step (kept : Kept s) (shape : s.Shaped) (graceful : Graceful s a) (step : Step s a t)
    (ordinary : ∀ payload handshake jobId, a ≠ .socketClosed payload handshake jobId) : Kept t := by
  cases step with
  | accept fresh _ _ alive new => exact kept.accept fresh alive new
  | refuse fresh => exact kept.raise (by simp [fresh])
  | send called running => exact kept.send called running
  | sendFailed called => exact kept.raise (by simp [called])
  | take ready inbox =>
    refine kept.advance _ _ _ _ _ (by simp [ready]) (fun id => ?_) nofun
    simp only [InProcess, Answering, ready, inbox, List.mem_cons, Frame.call.injEq]
    grind
  | sealResult executing =>
    refine kept.advance _ _ _ _ _ (by simp [executing]) (fun id => ?_) nofun
    simp [InProcess, executing, Answering]
  | answer answering =>
    refine kept.advance _ _ _ _ _ (by simp [answering]) (fun id => ?_) nofun
    simp only [InProcess, Answering, answering, List.mem_append, List.mem_singleton]
    grind
  | stop ready inbox => exact kept.stop ready (by simp [inbox, shape.last [] _ inbox])
  | stopAtEnd ready inbox => exact kept.stop ready (by simp [inbox])
  | crash => exact kept.crash graceful _
  | read reading _ outbox => exact kept.read reading outbox
  | record recording => exact kept.record recording
  | endOfFile reading =>
    refine kept.leave (by simp [reading]) (fun dead => ?_) s.link.closed
    exact absurd (kept.buried dead) (by simp [reading])
  | readError reading closed =>
    exact absurd (shape.opened closed) (by simp [reading])
  | socketClosed => exact absurd rfl (ordinary _ _ _)
  | mark => exact kept.mark graceful _
  | tell _ running =>
    have queued := kept.advance (s.link.inbox ++ [Frame.shutdown]) s.link.outbox s.link.process
      s.link.worker s.plasma running (fun id => by simp [InProcess, Answering]) fun exited =>
        absurd exited running
    exact queued.frame ⟨rfl, rfl, rfl, rfl, rfl⟩ rfl rfl ⟨rfl, rfl, rfl, rfl⟩
  | tellFailed | shutWrite | join | wait | close =>
    exact kept.frame ⟨rfl, rfl, rfl, rfl, rfl⟩ rfl rfl ⟨rfl, rfl, rfl, rfl⟩
  | joinTimeout => exact graceful.elim
  | kill joined =>
    have exited := (shape.drained (.inr (shape.joined (.inl joined)))).2
    exact kept.frame ⟨rfl, rfl, rfl, rfl, rfl⟩ rfl rfl ⟨rfl, rfl, exited.symm, rfl⟩

theorem answered_step (inv : s.Shaped ∧ Kept s) (step : Guarded Graceful Step s a t) :
    t.Shaped ∧ Kept t := by
  obtain ⟨shape, kept⟩ := inv
  obtain ⟨graceful, step⟩ := step
  by_cases ordinary : ∀ payload handshake jobId, a ≠ .socketClosed payload handshake jobId
  · exact ⟨shape_step shape graceful step ordinary, kept_step kept shape graceful step ordinary⟩
  · push Not at ordinary
    obtain ⟨payload, handshake, jobId, rfl⟩ := ordinary
    cases step with
    | socketClosed closing closed => exact closed_step kept shape closing graceful closed jobId

theorem kept_start (maxRestarts : Int) (name : Option String) (jobId : JobId) (driver : CoreWorker)
    (plasma : Store) : Kept (.start maxRestarts name jobId driver plasma) := by
  constructor <;> simp [System.start, ActorSubprocess.start, Link.fresh, InProcess, Answering]

theorem answered_run {maxRestarts : Int} {name : Option String} {jobId : JobId} {driver : CoreWorker}
    {plasma : Store}
    (run : Run (Guarded Graceful Step) (.start maxRestarts name jobId driver plasma) path s) :
    s.Shaped ∧ Kept s :=
  run.invariant (P := fun s => s.Shaped ∧ Kept s) answered_step
    ⟨shape_fresh jobId, kept_start maxRestarts name jobId driver plasma⟩

/-- The reader is gone and the actor marked: nothing of an answer is under way. -/
theorem Kept.answered (kept : Kept s) (shape : s.Shaped) (marked : s.actor.terminated = true)
    (exited : s.link.reader = .exited) (back : s.calls id = some .returned) : Recorded s id := by
  obtain ⟨outbox, stopped⟩ := shape.drained (.inr exited)
  rcases kept.returned id back with known | ⟨_, busy, _⟩ | ⟨_, placed | ⟨_, unmarked⟩⟩
  · exact known
  · rw [exited] at busy
    cases busy
  · rcases kept.stopped marked with dead | empty
    · exact kept.spent dead id (.inl back)
    · simp [InProcess, Answering, outbox, stopped, empty stopped id] at placed
  · rw [marked] at unmarked
    cases unmarked

end Steps

/-- In a graceful run every call that returned has been recorded once `terminate`
has returned and the reader has exited. -/
theorem terminated_calls_recorded {maxRestarts : Int} {name : Option String} {jobId : JobId}
    {driver : CoreWorker} {plasma : Store}
    (run : Run (Guarded Graceful Step) (.start maxRestarts name jobId driver plasma) path s)
    (done : s.terminate = .returned) (exited : s.link.reader = .exited) (id : ObjectId)
    (back : s.calls id = some .returned) : s.driver.store.getEntry id ≠ none := by
  obtain ⟨shape, kept⟩ := answered_run run
  exact kept.answered shape (shape.begun (by simp [done])) exited back

def sampleSystem : System := .start 0 none (.nil 16) sampleDriver samplePlasma

/-- One call is dispatched, run and recorded before the actor is terminated. -/
theorem answered_call_recorded :
    ∃ path s, Run (Guarded Graceful Step) sampleSystem path s ∧ s.terminate = .returned ∧
      s.link.reader = .exited ∧ s.calls sampleCall = some .returned ∧
      s.driver.store.getEntry sampleCall ≠ none := by
  have run : Run (Guarded Graceful Step) sampleSystem [] _ := .refl
  have run := run.next (a := Action.dispatch sampleCall) ⟨trivial, .accept rfl rfl rfl rfl (List.not_mem_nil)⟩
  have run := run.next (a := Action.send sampleCall) ⟨rfl, .send rfl nofun rfl rfl⟩
  have run := run.next (a := Action.take) ⟨trivial, .take rfl rfl⟩
  have run := run.next (a := Action.sealResult (.pickle5 false) [1, 2, 3]) ⟨trivial, .sealResult rfl rfl⟩
  have run := run.next (a := Action.answer) ⟨trivial, .answer rfl rfl⟩
  have run := run.next (a := Action.read) ⟨trivial, .read rfl rfl rfl⟩
  have run := run.next (a := Action.record) ⟨trivial, .record rfl⟩
  have run := run.next (a := Action.mark) ⟨.inl nofun, .mark rfl⟩
  have run := run.next (a := Action.tell) ⟨trivial, .tell rfl nofun rfl⟩
  have run := run.next (a := Action.shutWrite) ⟨trivial, .shutWrite rfl⟩
  have run := run.next (a := Action.stop) ⟨trivial, .stop rfl rfl⟩
  have run := run.next (a := Action.endOfFile) ⟨trivial, .endOfFile rfl rfl rfl⟩
  have run := run.next (a := Action.socketClosed [7] .ready (.nil 16)) ⟨nofun, .socketClosed rfl rfl⟩
  have run := run.next (a := Action.join) ⟨trivial, .join rfl rfl⟩
  have run := run.next (a := Action.wait) ⟨trivial, .wait rfl rfl⟩
  have run := run.next (a := Action.close) ⟨trivial, .close rfl⟩
  exact ⟨_, _, run, rfl, rfl, rfl, terminated_calls_recorded run rfl rfl sampleCall rfl⟩

/-- The call is accepted before the mark, and its frame is sent behind the
shutdown frame: the subprocess leaves without reading it. -/
theorem late_call_lost :
    ∃ path s, Run Step sampleSystem path s ∧ s.terminate = .returned ∧ s.link.reader = .exited ∧
      s.calls sampleCall = some .returned ∧ s.driver.store.getEntry sampleCall = none := by
  have run : Run Step sampleSystem [] _ := .refl
  have run := run.next (a := Action.dispatch sampleCall) (.accept rfl rfl rfl rfl (List.not_mem_nil))
  have run := run.next (a := Action.mark) (.mark rfl)
  have run := run.next (a := Action.tell) (.tell rfl nofun rfl)
  have run := run.next (a := Action.send sampleCall) (.send rfl nofun rfl rfl)
  have run := run.next (a := Action.shutWrite) (.shutWrite rfl)
  have run := run.next (a := Action.stop) (.stop rfl rfl)
  have run := run.next (a := Action.endOfFile) (.endOfFile rfl rfl rfl)
  have run := run.next (a := Action.socketClosed [7] .ready (.nil 16)) (.socketClosed rfl rfl)
  have run := run.next (a := Action.join) (.join rfl rfl)
  have run := run.next (a := Action.wait) (.wait rfl rfl)
  have run := run.next (a := Action.close) (.close rfl)
  exact ⟨_, _, run, rfl, rfl, rfl, rfl⟩

end Rayd.Actor
