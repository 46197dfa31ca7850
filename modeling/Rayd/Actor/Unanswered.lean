import Rayd.Lib.Slots
import Rayd.Actor.Answered
import Mathlib.Tactic.Abel

/-! Calls without an answer. A call frame goes through the inbox, the subprocess,
the outbox and the reader, in one place at a time; until the reader records it,
and while it is in flight, the driver has no entry for it. So neither the reader
nor the crash path ever writes over an entry. -/
namespace Rayd.Actor
open Memory Core Plasma Tasks Transition

def Frame.ids : Frame → Multiset ObjectId
  | .call id => {id}
  | .shutdown => 0

def ProcessPhase.ids : ProcessPhase → Multiset ObjectId
  | .executing id => {id}
  | .answering completion => {completion.id}
  | .ready | .exited => 0

def ReaderPhase.ids : ReaderPhase → Multiset ObjectId
  | .recording completion => {completion.id}
  | .reading | .closing | .exited => 0

/-- The calls on their way through the subprocess and back. -/
def Link.pipe (link : Link) : Multiset ObjectId :=
  Slots.total Frame.ids link.inbox + link.process.ids + (link.outbox.map Completion.id : List ObjectId) +
    link.reader.ids

/-- What holds of the calls at any time, however the actor fares. -/
structure Unanswered (s : System) : Prop where
  once : s.link.pipe.Nodup
  sent : ∀ id ∈ s.link.pipe, s.calls id = some .returned
  pending : s.link.reader ≠ .exited → ∀ id ∈ s.link.pipe, s.driver.store.getEntry id = none
  inFlight : ∀ id ∈ s.actor.inFlight, s.driver.store.getEntry id = none ∧ s.calls id ≠ none
  recording : ∀ completion, s.link.reader = .recording completion → completion.id ∉ s.actor.inFlight
  accepted : ∀ id sock, s.calls id = some (.accepted sock) → sock ≤ s.actor.sock ∧
    (s.link.reader ≠ .exited → sock = s.actor.sock → id ∈ s.actor.inFlight)
  closed : s.link.reader = .exited → s.link.closed = true
  numbered : s.actor.sock ≤ s.actor.socketSeq

theorem workerSeal_other (s : Session) {id other : ObjectId} (different : other ≠ id)
    (header data : Bytes) :
    (workerSeal s id header data).2.worker.store.getEntry other = s.worker.store.getEntry other := by
  simp only [workerSeal]
  split
  · rfl
  · rename_i metadata _
    have written := (s.sealValueToPlasma_stored id metadata data).imp And.right And.right
    have same := Session.sealed_other written different
    split <;> rename_i result <;> rw [result] at same <;> exact same

theorem sealAllDied_other (payload : Bytes) (ids : List ObjectId) (s : Session) {id : ObjectId}
    (outside : id ∉ ids) :
    (sealAllDied s payload ids).2.worker.store.getEntry id = s.worker.store.getEntry id := by
  induction ids generalizing s with
  | nil => rfl
  | cons first rest ih =>
    obtain ⟨different, later⟩ := List.ne_and_not_mem_of_not_mem_cons outside
    have head := workerSeal_other s different errorHeader payload
    simp only [sealAllDied, sealActorDied]
    split <;> rename_i result <;> rw [result] at head
    · exact head
    · exact (ih _ later).trans head

/-- The crash path has taken the in-flight calls and settled on a socket. -/
structure Swept (actor : ActorSubprocess) (s : Session) (after : ActorSubprocess) (t : Session) : Prop where
  cleared : after.inFlight = []
  socket : after.sock = actor.sock ∨ actor.sock < after.sock
  numbered : after.sock ≤ after.socketSeq
  others : ∀ id, id ∉ actor.inFlight → t.worker.store.getEntry id = s.worker.store.getEntry id

theorem restartOrBury_sock (actor : ActorSubprocess) (numbered : actor.sock ≤ actor.socketSeq)
    (handshake : Handshake) :
    (actor.restartOrBury handshake).inFlight = actor.inFlight ∧
      ((actor.restartOrBury handshake).sock = actor.sock ∨
        actor.sock < (actor.restartOrBury handshake).sock) ∧
      (actor.restartOrBury handshake).sock ≤ (actor.restartOrBury handshake).socketSeq := by
  by_cases spent : actor.maxRestarts ≤ actor.restartsUsed
  · simp only [ActorSubprocess.restartOrBury, if_pos spent, ActorSubprocess.bury]
    exact ⟨trivial, .inl trivial, numbered⟩
  · simp only [ActorSubprocess.restartOrBury, if_neg spent]
    cases handshake with
    | noConnection => exact ⟨rfl, .inl rfl, Nat.le_succ_of_le numbered⟩
    | badGreeting | ready => exact ⟨rfl, .inr (Nat.lt_succ_of_le numbered), le_rfl⟩

theorem onSocketClosed_swept {actor : ActorSubprocess} (numbered : actor.sock ≤ actor.socketSeq)
    (closed : onSocketClosed actor s actor.sock payload handshake = (result, after, t)) :
    after = actor ∧ t = s ∨ Swept actor s after t := by
  simp only [onSocketClosed, ne_eq, not_true_eq_false, if_false] at closed
  split at closed
  · cases closed
    exact .inl ⟨rfl, rfl⟩
  · right
    have others : ∀ id, id ∉ actor.inFlight →
        (sealAllDied s payload actor.inFlight).2.worker.store.getEntry id = s.worker.store.getEntry id :=
      fun id outside => sealAllDied_other payload actor.inFlight s outside
    split at closed <;> rename_i swept <;> rw [swept] at others <;> cases closed
    · exact ⟨rfl, .inl rfl, numbered, others⟩
    · obtain ⟨cleared, socket, numbered⟩ := restartOrBury_sock actor.clearInFlight numbered handshake
      exact ⟨cleared, socket, numbered, others⟩

namespace Link
variable {id : ObjectId}

theorem pipe_push (link : Link) (frame : Frame) :
    ({ link with inbox := link.inbox ++ [frame] } : Link).pipe = frame.ids + link.pipe := by
  simp only [pipe, Slots.total_append, Slots.total_singleton]
  abel

theorem pipe_take {link : Link} (ready : link.process = .ready) (inbox : link.inbox = .call id :: rest) :
    ({ link with process := .executing id, inbox := rest } : Link).pipe = link.pipe := by
  have front := Slots.total_append Frame.ids [.call id] rest
  rw [List.singleton_append, Slots.total_singleton] at front
  simp only [pipe, ready, inbox, front, Frame.ids, ProcessPhase.ids]
  abel

theorem pipe_seal {link : Link} (executing : link.process = .executing id) (metadata : Metadata)
    (size : Nat) (worker : CoreWorker) :
    ({ link with process := .answering ⟨id, metadata, size⟩, worker := worker } : Link).pipe =
      link.pipe := by
  simp only [pipe, executing, ProcessPhase.ids]

theorem pipe_answer {link : Link} (answering : link.process = .answering completion) :
    ({ link with process := .ready, outbox := link.outbox ++ [completion] } : Link).pipe = link.pipe := by
  simp only [pipe, answering, ProcessPhase.ids, List.map_append, List.map_singleton, ← Multiset.coe_add,
    Multiset.coe_singleton]
  abel

theorem pipe_exit (link : Link) : ({ link with process := .exited } : Link).pipe ≤ link.pipe := by
  simp only [pipe, ProcessPhase.ids]
  exact add_le_add (add_le_add (add_le_add le_rfl (Multiset.zero_le _)) le_rfl) le_rfl

theorem pipe_read {link : Link} (reading : link.reader = .reading)
    (answered : link.outbox = completion :: rest) :
    ({ link with outbox := rest, reader := .recording completion } : Link).pipe = link.pipe := by
  simp only [pipe, answered, reading, ReaderPhase.ids, List.map_cons, ← Multiset.cons_coe,
    ← Multiset.singleton_add]
  abel

theorem pipe_record {link : Link} (recording : link.reader = .recording completion) :
    link.pipe = completion.id ::ₘ ({ link with reader := .reading } : Link).pipe := by
  simp only [pipe, recording, ReaderPhase.ids, ← Multiset.singleton_add]
  abel

end Link

namespace Unanswered
variable {s t : System} {id : ObjectId}

theorem start (maxRestarts : Int) (name : Option String) (jobId : JobId) (driver : CoreWorker)
    (plasma : Store) : Unanswered (.start maxRestarts name jobId driver plasma) where
  once := Multiset.nodup_zero
  sent _ member := absurd member (Multiset.notMem_zero _)
  pending _ _ member := absurd member (Multiset.notMem_zero _)
  inFlight _ member := nomatch member
  recording _ same := nomatch same
  accepted _ _ called := nomatch called
  closed same := nomatch same
  numbered := le_rfl

theorem narrow (kept : Unanswered s) (pipe : t.link.pipe ≤ s.link.pipe) (calls : t.calls = s.calls)
    (store : ∀ id, s.calls id ≠ none → s.driver.store.getEntry id = none →
      t.driver.store.getEntry id = none)
    (actor : t.actor.inFlight = s.actor.inFlight ∧ t.actor.sock = s.actor.sock ∧
      t.actor.socketSeq = s.actor.socketSeq)
    (reader : t.link.reader = s.link.reader) (closed : s.link.closed = true → t.link.closed = true) :
    Unanswered t := by
  obtain ⟨inFlight, sock, seq⟩ := actor
  constructor
  · exact Multiset.nodup_of_le pipe kept.once
  · intro id member
    rw [calls]
    exact kept.sent id (Multiset.mem_of_le pipe member)
  · intro going id member
    rw [reader] at going
    have member := Multiset.mem_of_le pipe member
    exact store id (by rw [kept.sent id member]; exact Option.some_ne_none _) (kept.pending going id member)
  · rw [inFlight, calls]
    intro id member
    exact ⟨store id (kept.inFlight id member).2 (kept.inFlight id member).1, (kept.inFlight id member).2⟩
  · rw [reader, inFlight]
    exact kept.recording
  · rw [calls, sock, reader, inFlight]
    exact kept.accepted
  · rw [reader]
    exact fun exited => closed (kept.closed exited)
  · rw [sock, seq]
    exact kept.numbered

theorem restore (kept : Unanswered s) (driver : CoreWorker) (plasma : Store)
    (absent : ∀ id, s.calls id ≠ none → s.driver.store.getEntry id = none →
      driver.store.getEntry id = none) : Unanswered { s with driver := driver, plasma := plasma } :=
  kept.narrow le_rfl rfl absent ⟨rfl, rfl, rfl⟩ rfl fun closed => closed

/-- A call that is not in the pipe changes its phase, and stays out of it. -/
theorem setCall (kept : Unanswered s) (outside : s.calls id ≠ some .returned) (phase : CallPhase)
    (accepted : ∀ sock, phase = .accepted sock → sock ≤ s.actor.sock ∧
      (s.link.reader ≠ .exited → sock = s.actor.sock → id ∈ s.actor.inFlight)) :
    Unanswered (s.setCall id phase) where
  once := kept.once
  sent other member := by
    have before : s.calls other = some .returned := kept.sent other member
    have different : other ≠ id := fun same => outside (same ▸ before)
    rw [calls_update_ne different]
    exact before
  pending := kept.pending
  inFlight other member := by
    refine ⟨(kept.inFlight other member).1, ?_⟩
    by_cases same : other = id
    · rw [same, calls_update_self]
      exact Option.some_ne_none _
    · rw [calls_update_ne same]
      exact (kept.inFlight other member).2
  recording := kept.recording
  accepted other sock called := by
    rcases setCall_cases called with ⟨rfl, same⟩ | ⟨_, before⟩
    · exact accepted sock same.symm
    · exact kept.accepted other sock before
  closed := kept.closed
  numbered := kept.numbered

theorem accept (kept : Unanswered s) (uncalled : s.calls id = none)
    (absent : s.driver.store.getEntry id = none) (new : id ∉ s.actor.inFlight) :
    Unanswered ((s.addInFlight id new).setCall id (.accepted s.actor.sock)) where
  once := kept.once
  sent other member := by
    have before : s.calls other = some .returned := kept.sent other member
    have different : other ≠ id := by
      rintro rfl
      rw [uncalled] at before
      cases before
    exact (calls_update_ne different _).trans before
  pending := kept.pending
  inFlight := by
    refine List.forall_mem_cons.mpr ⟨⟨absent, ?_⟩, fun other member => ?_⟩
    · rw [calls_update_self]
      exact Option.some_ne_none _
    · refine ⟨(kept.inFlight other member).1, ?_⟩
      have different : other ≠ id := fun same => new (same ▸ member)
      exact (calls_update_ne different _).trans_ne (kept.inFlight other member).2
  recording completion reading := by
    have before := kept.sent completion.id (Link.pipe_record reading ▸ Multiset.mem_cons_self _ _)
    intro member
    rcases List.mem_cons.mp member with same | old
    · rw [same, uncalled] at before
      cases before
    · exact kept.recording completion reading old
  accepted other sock called := by
    rcases setCall_cases called with ⟨rfl, same⟩ | ⟨_, before⟩
    · cases same
      exact ⟨le_rfl, fun _ _ => List.mem_cons_self⟩
    · have older := kept.accepted other sock before
      exact ⟨older.1, fun going same => List.mem_cons_of_mem _ (older.2 going same)⟩
  closed := kept.closed
  numbered := kept.numbered

theorem send (kept : Unanswered s) (called : s.calls id = some (.accepted s.actor.sock))
    (opened : s.link.closed = false) (pipe : link.pipe = id ::ₘ s.link.pipe)
    (reader : link.reader = s.link.reader) :
    Unanswered ({ s with link := link }.setCall id .returned) := by
  have going : s.link.reader ≠ .exited := by
    intro exited
    rw [kept.closed exited] at opened
    cases opened
  have outside : id ∉ s.link.pipe := by
    intro inside
    rw [kept.sent id inside] at called
    cases called
  have updated : ∀ other, ({ s with link := link }.setCall id .returned).calls other =
      if other = id then some .returned else s.calls other := fun other => Function.update_apply _ _ _ _
  constructor
  · show link.pipe.Nodup
    rw [pipe, Multiset.nodup_cons]
    exact ⟨outside, kept.once⟩
  · show ∀ other ∈ link.pipe, _
    intro other member
    rw [pipe, Multiset.mem_cons] at member
    rw [updated]
    split
    · rfl
    · rename_i different
      exact kept.sent other (member.resolve_left different)
  · show _ → ∀ other ∈ link.pipe, _
    intro _ other member
    rw [pipe, Multiset.mem_cons] at member
    rcases member with rfl | before
    · exact (kept.inFlight other ((kept.accepted other _ called).2 going rfl)).1
    · exact kept.pending going other before
  · intro other member
    refine ⟨(kept.inFlight other member).1, ?_⟩
    rw [updated]
    split
    · exact Option.some_ne_none _
    · exact (kept.inFlight other member).2
  · intro completion same
    exact kept.recording completion (reader.symm.trans same)
  · intro other sock later
    rw [updated] at later
    split at later
    · cases later
    · exact ⟨(kept.accepted other sock later).1, fun _ => (kept.accepted other sock later).2 going⟩
  · intro exited
    exact absurd (reader.symm.trans exited) going
  · exact kept.numbered

/-- The reader takes the completion out of the in-flight set before it records it. -/
theorem read (kept : Unanswered s) (going : s.link.reader ≠ .exited)
    (inside : completion.id ∈ s.link.pipe) (pipe : link.pipe = s.link.pipe)
    (reader : link.reader = .recording completion) :
    Unanswered { s.discardInFlight completion.id with link := link } := by
  constructor
  · show link.pipe.Nodup
    rw [pipe]
    exact kept.once
  · show ∀ other ∈ link.pipe, _
    rw [pipe]
    exact kept.sent
  · show _ → ∀ other ∈ link.pipe, _
    rw [pipe]
    exact fun _ => kept.pending going
  · intro other member
    exact kept.inFlight other (List.mem_of_mem_erase member)
  · intro other same
    cases reader.symm.trans same
    exact s.actor.inFlight_nodup.not_mem_erase
  · intro other sock called
    have called : s.calls other = some (.accepted sock) := called
    refine ⟨(kept.accepted other sock called).1, fun _ current => ?_⟩
    have different : other ≠ completion.id := by
      rintro rfl
      rw [kept.sent _ inside] at called
      cases called
    exact (List.mem_erase_of_ne different).mpr ((kept.accepted other sock called).2 going current)
  · intro exited
    cases reader.symm.trans exited
  · exact kept.numbered

theorem record (kept : Unanswered s) (reading : s.link.reader = .recording completion)
    (pipe : s.link.pipe = completion.id ::ₘ link.pipe) (reader : link.reader = .reading) :
    Unanswered { s.record completion with link := link } := by
  have going : s.link.reader ≠ .exited := by
    rw [reading]
    exact nofun
  have once := kept.once
  rw [pipe, Multiset.nodup_cons] at once
  have inside : ∀ id ∈ link.pipe, id ∈ s.link.pipe := by
    intro id member
    rw [pipe]
    exact Multiset.mem_cons_of_mem member
  have others : ∀ id, id ≠ completion.id →
      (s.record completion).driver.store.getEntry id = s.driver.store.getEntry id := by
    intro id different
    exact (MemoryStore.getEntry_putPlasma _ _ _ _).trans (if_neg different)
  constructor
  · exact once.2
  · exact fun id member => kept.sent id (inside id member)
  · intro _ id member
    have different : id ≠ completion.id := fun same => once.1 (same ▸ member)
    exact (others id different).trans (kept.pending going id (inside id member))
  · intro id member
    have different : id ≠ completion.id :=
      fun same => kept.recording completion reading (same ▸ member)
    exact ⟨(others id different).trans (kept.inFlight id member).1, (kept.inFlight id member).2⟩
  · intro other same
    cases reader.symm.trans same
  · exact fun id sock called => ⟨(kept.accepted id sock called).1,
      fun _ => (kept.accepted id sock called).2 going⟩
  · intro exited
    cases reader.symm.trans exited
  · exact kept.numbered

theorem closing (kept : Unanswered s) (reading : s.link.reader = .reading) :
    Unanswered { s with link := { s.link with reader := .closing } } := by
  have going : s.link.reader ≠ .exited := by
    rw [reading]
    exact nofun
  have pipe : ({ s.link with reader := .closing } : Link).pipe = s.link.pipe := by
    simp only [Link.pipe, reading, ReaderPhase.ids]
  exact {
    once := pipe ▸ kept.once
    sent := fun id member => kept.sent id (pipe ▸ member)
    pending := fun _ id member => kept.pending going id (pipe ▸ member)
    inFlight := kept.inFlight
    recording := nofun
    accepted := fun id sock called => ⟨(kept.accepted id sock called).1,
      fun _ => (kept.accepted id sock called).2 going⟩
    closed := nofun
    numbered := kept.numbered }

/-- Without a new subprocess the reader is gone, and with it the duty to keep
the calls in the pipe unrecorded. -/
theorem exit (kept : Unanswered s) (closing : s.link.reader = .closing) :
    Unanswered { s with link := { s.link with reader := .exited, closed := true } } := by
  have pipe : ({ s.link with reader := .exited, closed := true } : Link).pipe = s.link.pipe := by
    simp only [Link.pipe, closing, ReaderPhase.ids]
  exact {
    once := pipe ▸ kept.once
    sent := fun id member => kept.sent id (pipe ▸ member)
    pending := fun going => absurd rfl going
    inFlight := kept.inFlight
    recording := nofun
    accepted := fun id sock called => ⟨(kept.accepted id sock called).1, fun going => absurd rfl going⟩
    closed := fun _ => rfl
    numbered := kept.numbered }

theorem swept (kept : Unanswered s) (closing : s.link.reader = .closing)
    (swept : Swept s.actor s.session actor after) (jobId : JobId) :
    Unanswered (s.afterClose actor after jobId) := by
  have cleared : ∀ id, id ∉ actor.inFlight := by
    rw [swept.cleared]
    exact fun _ => List.not_mem_nil
  have socket : s.actor.sock ≤ actor.sock := swept.socket.elim (fun same => same.ge) Nat.le_of_lt
  by_cases fresh : actor.sock ≠ s.actor.sock ∧ actor.dead = false
  · simp only [System.afterClose, if_pos fresh]
    have newer : s.actor.sock < actor.sock := swept.socket.resolve_left fresh.1
    exact {
      once := Multiset.nodup_zero
      sent := fun _ member => absurd member (Multiset.notMem_zero _)
      pending := fun _ _ member => absurd member (Multiset.notMem_zero _)
      inFlight := fun id member => absurd member (cleared id)
      recording := fun _ reading => by cases reading
      accepted := fun id sock called => ⟨(kept.accepted id sock called).1.trans socket,
        fun _ same => absurd (kept.accepted id sock called).1 (same ▸ Nat.not_le_of_lt newer)⟩
      closed := fun exited => by cases exited
      numbered := swept.numbered }
  · simp only [System.afterClose, if_neg fresh]
    have left := kept.exit closing
    exact {
      once := left.once
      sent := left.sent
      pending := fun going => absurd rfl going
      inFlight := fun id member => absurd member (cleared id)
      recording := fun _ reading => by cases reading
      accepted := fun id sock called => ⟨(kept.accepted id sock called).1.trans socket,
        fun going => absurd rfl going⟩
      closed := fun _ => rfl
      numbered := swept.numbered }

theorem exitProcess (kept : Unanswered s) (cleanup : Bool) : Unanswered (s.exitProcess cleanup) :=
  kept.narrow s.link.pipe_exit rfl (fun _ _ absent => absent) ⟨rfl, rfl, rfl⟩ rfl fun closed => closed

end Unanswered

theorem unanswered_step (kept : Unanswered s) (step : Step s action t) : Unanswered t := by
  -- the subprocess moves a call on, and nothing else changes
  have moved : ∀ {u : System}, u.link.pipe = s.link.pipe → u.calls = s.calls →
      u.driver = s.driver → u.actor = s.actor → u.link.reader = s.link.reader →
      u.link.closed = s.link.closed → Unanswered u := by
    intro u pipe calls driver actor reader closed
    exact kept.narrow pipe.le calls (fun _ _ absent => driver ▸ absent)
      ⟨by rw [actor], by rw [actor], by rw [actor]⟩ reader fun shut => closed.trans shut
  cases step with
  | accept uncalled absent _ _ new => exact kept.accept uncalled absent new
  | refuse uncalled =>
    refine kept.setCall (by rw [uncalled]; exact nofun) _ fun sock same => ?_
    cases same
  | send called _ _ opened => exact kept.send called opened (s.link.pipe_push (.call _)) rfl
  | sendFailed called =>
    refine kept.setCall (by rw [called]; exact nofun) _ fun sock same => ?_
    cases same
  | take ready inbox => exact moved (Link.pipe_take ready inbox) rfl rfl rfl rfl rfl
  | sealResult executing => exact moved (Link.pipe_seal executing _ _ _) rfl rfl rfl rfl rfl
  | answer answering => exact moved (Link.pipe_answer answering) rfl rfl rfl rfl rfl
  | stop | stopAtEnd | crash => exact kept.exitProcess _
  | read reading _ answered =>
    refine kept.read (by rw [reading]; exact nofun) ?_ (Link.pipe_read reading answered) rfl
    simp [Link.pipe, answered]
  | record recording => exact kept.record recording (Link.pipe_record recording) rfl
  | endOfFile reading | readError reading => exact kept.closing reading
  | @socketClosed result payload handshake actor t jobId closing closed =>
    rcases onSocketClosed_swept kept.numbered closed with ⟨rfl, rfl⟩ | swept
    · have same : ¬ (s.actor.sock ≠ s.actor.sock ∧ s.actor.dead = false) := fun fresh => fresh.1 rfl
      simp only [System.afterClose, if_neg same]
      exact kept.exit closing
    · exact kept.swept closing swept jobId
  | mark =>
    exact kept.narrow le_rfl rfl (fun _ _ absent => absent) ⟨rfl, rfl, rfl⟩ rfl fun closed => closed
  | tell => exact moved ((s.link.pipe_push .shutdown).trans (zero_add _)) rfl rfl rfl rfl rfl
  | tellFailed | shutWrite | join | joinTimeout | wait => exact moved rfl rfl rfl rfl rfl rfl
  | kill =>
    have ended := kept.exitProcess false
    exact ended.narrow le_rfl rfl (fun _ _ absent => absent) ⟨rfl, rfl, rfl⟩ rfl fun closed => closed
  | close =>
    exact kept.narrow le_rfl rfl (fun _ _ absent => absent) ⟨rfl, rfl, rfl⟩ rfl fun _ => rfl

/-- A step puts nothing over an entry of the driver, and writes only for calls. -/
theorem step_entries (kept : Unanswered s) (step : Step s action t) (id : ObjectId) :
    t.driver.store.getEntry id = s.driver.store.getEntry id ∨
      s.driver.store.getEntry id = none ∧ s.calls id ≠ none := by
  cases step with
  | @record completion recording =>
    by_cases same : id = completion.id
    · right
      have inside : id ∈ s.link.pipe := by
        rw [Link.pipe_record recording, same]
        exact Multiset.mem_cons_self _ _
      refine ⟨kept.pending (by rw [recording]; exact nofun) id inside, ?_⟩
      rw [kept.sent id inside]
      exact Option.some_ne_none _
    · exact .inl ((MemoryStore.getEntry_putPlasma _ _ _ _).trans (if_neg same))
  | socketClosed _ closed =>
    rcases onSocketClosed_swept kept.numbered closed with ⟨_, rfl⟩ | swept
    · exact .inl rfl
    · by_cases inFlight : id ∈ s.actor.inFlight
      · exact .inr (kept.inFlight id inFlight)
      · exact .inl (swept.others id inFlight)
  | _ => exact .inl rfl

theorem step_calls (step : Step s action t) (id : ObjectId) :
    (t.calls id ≠ none ↔ s.calls id ≠ none) ∨ action = .dispatch id := by
  have updated : ∀ {other : ObjectId} (phase : CallPhase), s.calls other ≠ none →
      (Function.update s.calls other (some phase) id ≠ none ↔ s.calls id ≠ none) := by
    intro other phase called
    rw [Function.update_apply]
    split
    · rename_i same
      rw [same]
      exact iff_of_true (Option.some_ne_none _) called
    · exact Iff.rfl
  cases step with
  | @accept object | @refuse object =>
    by_cases same : id = object
    · exact .inr (congrArg _ same.symm)
    · exact .inl (iff_of_eq (congrArg (· ≠ none) (calls_update_ne same _)))
  | send called => exact .inl (updated _ (by rw [called]; exact Option.some_ne_none _))
  | sendFailed called => exact .inl (updated _ (by rw [called]; exact Option.some_ne_none _))
  | _ => exact .inl Iff.rfl

end Rayd.Actor
