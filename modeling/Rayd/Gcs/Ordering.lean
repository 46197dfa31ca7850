import Rayd.Gcs.Publishing
import Rayd.Gcs.WatchNodes

/-! Publishes that overlap but keep their order. Numbers may be taken at any time;
an event enters the replay buffer, and later the channel, once no smaller number is
still on its way there. Then the buffer is the window of a numbered log and the
channel has a first part of that log. -/
namespace Rayd.Gcs
open Threads Transition

namespace Handler

/-- The event that has its number and is not in the buffer yet. -/
def unpushed : Handler → Option NodeEvent
  | .numbered event _ _ => some event
  | _ => none

/-- The event that has its number and is not in the channel yet. -/
def unsent : Handler → Option NodeEvent
  | .numbered event _ _ | .buffered event _ _ => some event
  | _ => none

theorem unsent_of_finished {handler : Handler} (finished : handler.finished = true) :
    handler.unsent = none := by
  cases handler with
  | numbered | buffered => cases finished
  | idle | publishing | refused => rfl

theorem unpushed_of_unsent {handler : Handler} (none : handler.unsent = none) : handler.unpushed = .none := by
  cases handler with
  | numbered | buffered => cases none
  | idle | publishing | refused => rfl

end Handler

/-- A handler holds back the later numbers from the buffer and from the channel. -/
def InOrder (_ : Registry) (other own : Handler) : Act → Prop
  | .pushReplay => ∀ mine ∈ own.unpushed, ∀ event ∈ other.unpushed, mine.sequence ≤ event.sequence
  | .broadcast => ∀ mine ∈ own.unsent, ∀ event ∈ other.unsent, mine.sequence ≤ event.sequence
  | _ => True

structure Ordered (pool : Pool Registry Handler) (log : List NodeEvent) : Prop
    extends Buffered pool.shared log where
  sent : ∃ rest, log = pool.shared.sent ++ rest
  below : log.length < pool.shared.nextSequence
  unpushed : ∀ thread event, (pool.threads thread).unpushed = some event → log.length < event.sequence
  pushed : ∀ thread event, (pool.threads thread).unsent = some event →
    (pool.threads thread).unpushed = none → event ∈ log
  unsent : ∀ thread event, (pool.threads thread).unsent = some event →
    pool.shared.sent.length < event.sequence ∧ event.sequence < pool.shared.nextSequence
  held : ∀ number, pool.shared.sent.length < number → number < pool.shared.nextSequence →
    ∃ thread event, (pool.threads thread).unsent = some event ∧ event.sequence = number
  single : ∀ thread other event second, (pool.threads thread).unsent = some event →
    (pool.threads other).unsent = some second → event.sequence = second.sequence → thread = other

/-- What a step adds to the log. -/
def pushes (handler : Handler) : Act → List NodeEvent
  | .pushReplay => handler.unpushed.toList
  | _ => []

namespace Ordered
variable {pool next : Pool Registry Handler} {log : List NodeEvent} {shared : Registry} {phase : Handler}

theorem new (session : Id 16) : Ordered ⟨.new session, fun _ => .idle⟩ [] where
  numbered := .nil
  buffer := rfl
  sent := ⟨[], rfl⟩
  below := Nat.zero_lt_one
  unpushed _ _ found := by cases found
  pushed _ _ found := by cases found
  unsent _ _ found := by cases found
  held number positive small := by
    have : number < 1 := small
    have : 0 < number := positive
    omega
  single _ _ _ _ found := by cases found

theorem sent_le (ordered : Ordered pool log) : pool.shared.sent.length ≤ log.length := by
  obtain ⟨rest, split⟩ := ordered.sent
  rw [split, List.length_append]
  omega

theorem frame (ordered : Ordered pool log) (before : (pool.threads thread).unsent = none)
    (after : phase.unsent = none) (buffer : shared.replayBuffer = pool.shared.replayBuffer)
    (sequence : shared.nextSequence = pool.shared.nextSequence) (sent : shared.sent = pool.shared.sent) :
    Ordered (pool.set thread shared phase) log := by
  have same : ∀ other, ((pool.set thread shared phase).threads other).unsent = (pool.threads other).unsent ∧
      ((pool.set thread shared phase).threads other).unpushed = (pool.threads other).unpushed := by
    intro other
    rcases eq_or_ne other thread with rfl | different
    · rw [Pool.set_self, before, after, Handler.unpushed_of_unsent before, Handler.unpushed_of_unsent after]
      exact ⟨rfl, rfl⟩
    · rw [Pool.set_ne _ different]
      exact ⟨rfl, rfl⟩
  constructor
  · exact ⟨ordered.numbered, buffer.trans ordered.buffer⟩
  · simpa only [Pool.set, sent] using ordered.sent
  · simpa only [Pool.set, sequence] using ordered.below
  · simpa only [same] using ordered.unpushed
  · simpa only [same] using ordered.pushed
  · simp only [same]
    simpa only [Pool.set, sent, sequence] using ordered.unsent
  · simp only [same]
    simpa only [Pool.set, sent, sequence] using ordered.held
  · simpa only [same] using ordered.single

theorem takeSequence (ordered : Ordered pool log)
    (here : pool.threads thread = .publishing (node :: rest) reply) :
    Ordered (pool.set thread pool.shared.takeSequence.2
      (.numbered ⟨pool.shared.takeSequence.1, some node⟩ rest reply)) log := by
  have before : (pool.threads thread).unsent = none := by rw [here]; rfl
  constructor
  · exact ⟨ordered.numbered, ordered.buffer⟩
  · exact ordered.sent
  · exact Nat.lt_succ_of_lt ordered.below
  · intro other event found
    rcases eq_or_ne other thread with rfl | different
    · rw [Pool.set_self] at found
      cases found
      exact ordered.below
    · rw [Pool.set_ne _ different] at found
      exact ordered.unpushed other event found
  · intro other event found pushed
    rcases eq_or_ne other thread with rfl | different
    · rw [Pool.set_self] at pushed
      cases pushed
    · rw [Pool.set_ne _ different] at found pushed
      exact ordered.pushed other event found pushed
  · intro other event found
    rcases eq_or_ne other thread with rfl | different
    · rw [Pool.set_self] at found
      cases found
      exact ⟨Nat.lt_of_le_of_lt ordered.sent_le ordered.below, Nat.lt_succ_self _⟩
    · rw [Pool.set_ne _ different] at found
      have old := ordered.unsent other event found
      exact ⟨old.1, Nat.lt_succ_of_lt old.2⟩
  · intro number above small
    by_cases last : number = pool.shared.nextSequence
    · exact ⟨thread, _, by rw [Pool.set_self]; rfl, last.symm⟩
    · have small : number < pool.shared.nextSequence + 1 := small
      obtain ⟨other, event, found, same⟩ := ordered.held number above (by omega)
      have different : other ≠ thread := by
        rintro rfl
        rw [before] at found
        cases found
      exact ⟨other, event, by rwa [Pool.set_ne _ different], same⟩
  · -- a number in use is below the one just taken
    intro one two event second first other same
    by_cases mine : one = thread <;> by_cases yours : two = thread
    · exact mine.trans yours.symm
    · rw [mine, Pool.set_self] at first
      rw [Pool.set_ne _ yours] at other
      cases first
      exact absurd same.symm (Nat.ne_of_lt (ordered.unsent two second other).2)
    · rw [yours, Pool.set_self] at other
      rw [Pool.set_ne _ mine] at first
      cases other
      exact absurd same (Nat.ne_of_lt (ordered.unsent one event first).2)
    · rw [Pool.set_ne _ mine] at first
      rw [Pool.set_ne _ yours] at other
      exact ordered.single one two event second first other same

theorem pushReplay (ordered : Ordered pool log) (here : pool.threads thread = .numbered event rest reply)
    (turn : Unopposed InOrder pool (thread, .pushReplay)) :
    Ordered (pool.set thread (pool.shared.pushReplay event) (.buffered event rest reply))
      (log ++ [event]) := by
  have mine : (pool.threads thread).unsent = some event := by rw [here]; rfl
  have unpushed : (pool.threads thread).unpushed = some event := by rw [here]; rfl
  have above := ordered.unpushed thread event unpushed
  have place : event.sequence = log.length + 1 := by
    obtain ⟨other, first, found, number⟩ := ordered.held (log.length + 1)
      (Nat.lt_succ_of_le ordered.sent_le) (Nat.lt_of_le_of_lt above (ordered.unsent thread event mine).2)
    by_cases same : other = thread
    · rw [same, mine] at found
      cases found
      exact number
    · -- whoever has the smallest number has not pushed it
      cases pushed : (pool.threads other).unpushed with
      | none =>
        have old := ordered.numbered.le_length (ordered.pushed other first found pushed)
        omega
      | some held =>
        have equal : held = first := by
          cases phase : pool.threads other with
          | numbered => rw [phase] at found pushed; cases found; cases pushed; rfl
          | _ => rw [phase] at pushed; cases pushed
        have least := turn other same event (by rw [unpushed]; rfl) held (by rw [pushed]; rfl)
        rw [equal] at least
        omega
  have others : ∀ other, ((pool.set thread (pool.shared.pushReplay event) (.buffered event rest reply)).threads
      other).unsent = (pool.threads other).unsent := by
    intro other
    by_cases same : other = thread
    · rw [same, Pool.set_self, mine]
      rfl
    · rw [Pool.set_ne _ same]
  constructor
  · refine ⟨ordered.numbered.append place, ?_⟩
    simp only [Pool.set, Registry.pushReplay, ordered.buffer]
    exact Log.push_window (by decide) log event
  · obtain ⟨later, split⟩ := ordered.sent
    exact ⟨later ++ [event], by rw [split, List.append_assoc]; rfl⟩
  · rw [List.length_append, List.length_singleton, ← place]
    exact (ordered.unsent thread event mine).2
  · intro other second found
    by_cases same : other = thread
    · rw [same, Pool.set_self] at found
      cases found
    · rw [Pool.set_ne _ same] at found
      have high := ordered.unpushed other second found
      have apart : second.sequence ≠ event.sequence := by
        intro equal
        refine same (ordered.single other thread second event ?_ mine equal)
        cases phase : pool.threads other with
        | numbered => rw [phase] at found; cases found; rfl
        | _ => rw [phase] at found; cases found
      rw [List.length_append, List.length_singleton]
      omega
  · intro other second found pushed
    by_cases same : other = thread
    · rw [same, Pool.set_self] at found
      cases found
      exact List.mem_append_right _ (List.mem_singleton.mpr rfl)
    · rw [Pool.set_ne _ same] at found pushed
      exact List.mem_append_left _ (ordered.pushed other second found pushed)
  · simp only [others]
    exact ordered.unsent
  · simp only [others]
    exact ordered.held
  · simp only [others]
    exact ordered.single

theorem broadcast (ordered : Ordered pool log) (here : pool.threads thread = .buffered event rest reply)
    (turn : Unopposed InOrder pool (thread, .broadcast)) :
    Ordered (pool.set thread (pool.shared.broadcast event) (.publishing rest reply)) log := by
  have mine : (pool.threads thread).unsent = some event := by rw [here]; rfl
  have member : event ∈ log := ordered.pushed thread event mine (by rw [here]; rfl)
  have range := ordered.unsent thread event mine
  have place : event.sequence = pool.shared.sent.length + 1 := by
    obtain ⟨other, first, found, number⟩ := ordered.held (pool.shared.sent.length + 1) (Nat.lt_succ_self _)
      (by omega)
    by_cases same : other = thread
    · rw [same, mine] at found
      cases found
      exact number
    · have least := turn other same event (by rw [mine]; rfl) first (by rw [found]; rfl)
      omega
  have others : ∀ other second, ((pool.set thread (pool.shared.broadcast event)
      (.publishing rest reply)).threads other).unsent = some second →
      (pool.threads other).unsent = some second ∧ other ≠ thread := by
    intro other second found
    by_cases same : other = thread
    · rw [same, Pool.set_self] at found
      cases found
    · rw [Pool.set_ne _ same] at found
      exact ⟨found, same⟩
  have size : (pool.shared.broadcast event).sent.length = pool.shared.sent.length + 1 := by
    simp only [Registry.broadcast, List.length_append, List.length_singleton]
  constructor
  · exact ⟨ordered.numbered, ordered.buffer⟩
  · obtain ⟨later, split⟩ := ordered.sent
    obtain ⟨_, found⟩ := ordered.numbered.getElem?_of_mem member
    rw [split, place, Nat.add_sub_cancel, List.getElem?_append_right (Nat.le_refl _), Nat.sub_self] at found
    cases later with
    | nil => cases found
    | cons first later =>
      cases found
      exact ⟨later, by rw [split]; exact List.append_cons _ _ _⟩
  · exact ordered.below
  · intro other second found
    by_cases same : other = thread
    · rw [same, Pool.set_self] at found
      cases found
    · rw [Pool.set_ne _ same] at found
      exact ordered.unpushed other second found
  · intro other second found pushed
    obtain ⟨old, different⟩ := others other second found
    rw [Pool.set_ne _ different] at pushed
    exact ordered.pushed other second old pushed
  · intro other second found
    obtain ⟨old, different⟩ := others other second found
    have range := ordered.unsent other second old
    have apart : second.sequence ≠ event.sequence := fun equal =>
      different (ordered.single other thread second event old mine equal)
    refine ⟨?_, range.2⟩
    simp only [Pool.set, size]
    omega
  · intro number above small
    simp only [Pool.set, size] at above
    obtain ⟨other, second, found, same⟩ := ordered.held number (by omega) small
    have different : other ≠ thread := by
      rintro rfl
      rw [mine] at found
      cases found
      omega
    exact ⟨other, second, by rwa [Pool.set_ne _ different], same⟩
  · intro one two first second found other same
    exact ordered.single one two first second (others one first found).1 (others two second other).1 same

theorem step (ordered : Ordered pool log)
    (step : Guarded (Unopposed InOrder) (Step Own) pool (thread, act) next) :
    Ordered next (log ++ pushes (pool.threads thread) act) := by
  obtain ⟨turn, ⟨own⟩⟩ := step
  have quiet : ∀ {shared phase}, (pool.threads thread).finished = true → phase.unsent = none →
      shared.replayBuffer = pool.shared.replayBuffer → shared.nextSequence = pool.shared.nextSequence →
      shared.sent = pool.shared.sent → Ordered (pool.set thread shared phase) (log ++ []) :=
    fun finished after buffer sequence sent => by
      rw [List.append_nil]
      exact ordered.frame (Handler.unsent_of_finished finished) after buffer sequence sent
  cases own with
  | register finished answered =>
    obtain ⟨_, rfl⟩ := Registry.register_ok answered
    exact quiet finished rfl rfl rfl rfl
  | drain finished answered =>
    obtain ⟨_, _, _, _, rfl, rfl⟩ := Registry.drain_ok answered
    exact quiet finished rfl rfl rfl rfl
  | heartbeat finished answered =>
    obtain ⟨_, _, _, rfl⟩ := Registry.heartbeat_ok answered
    exact quiet finished rfl rfl rfl rfl
  | expireStale finished | registerRefused finished | drainRefused finished | heartbeatRefused finished =>
    exact quiet finished rfl rfl rfl rfl
  | takeSequence here =>
    simp only [pushes, List.append_nil]
    exact ordered.takeSequence here
  | pushReplay here =>
    simp only [pushes, here]
    exact ordered.pushReplay here turn
  | broadcast here =>
    simp only [pushes, List.append_nil]
    exact ordered.broadcast here turn

/-- What is in the log and not between buffer and channel has been sent. -/
theorem le_sent (ordered : Ordered pool log) (inside : number ≤ log.length)
    (clear : ∀ thread event rest reply, pool.threads thread = .buffered event rest reply →
      number < event.sequence) : number ≤ pool.shared.sent.length := by
  by_contra unsent
  have below := ordered.below
  obtain ⟨thread, event, found, same⟩ := ordered.held number (by omega) (by omega)
  cases phase : pool.threads thread with
  | numbered other rest reply =>
    have above := ordered.unpushed thread event (by rw [phase] at found ⊢; exact found)
    omega
  | buffered other rest reply =>
    rw [phase] at found
    cases found
    have above := clear thread event rest reply phase
    omega
  | _ => rw [phase] at found; cases found

theorem sent_of_returned (ordered : Ordered pool log)
    (returned : ∀ thread, (pool.threads thread).unsent = none) :
    pool.shared.sent = log := by
  have all : log.length ≤ pool.shared.sent.length := ordered.le_sent (Nat.le_refl _) (by
    intro thread event rest reply here
    have nothing := returned thread
    rw [here] at nothing
    cases nothing)
  obtain ⟨rest, split⟩ := ordered.sent
  rw [split, List.length_append] at all
  rw [split, List.eq_nil_of_length_eq_zero (by omega : rest.length = 0), List.append_nil]

theorem own_sent_le {registry after : Registry} {handler next : Handler}
    (own : Own registry handler act after next) : registry.sent.length ≤ after.sent.length := by
  cases own with
  | register _ answered => rw [(Registry.register_ok answered).2]
  | drain _ answered =>
    obtain ⟨_, _, _, _, rfl, rfl⟩ := Registry.drain_ok answered
    exact Nat.le_refl _
  | heartbeat _ answered =>
    obtain ⟨_, _, _, rfl⟩ := Registry.heartbeat_ok answered
    exact Nat.le_refl _
  | broadcast =>
    rw [Registry.broadcast, List.length_append]
    exact Nat.le_add_right _ _
  | _ => exact Nat.le_refl _

end Ordered

/-- What a handler has not put in the buffer yet. -/
def Handler.unpublished : Handler → List NodeInfo
  | .publishing nodes _ => nodes
  | .numbered event rest _ => event.node.toList ++ rest
  | .buffered _ rest _ => rest
  | _ => []

def Unpublished (pool : Pool Registry Handler) (node : NodeId) : Prop :=
  ∃ thread, ∃ info ∈ (pool.threads thread).unpublished, info.about? = some node

theorem unpublished_of_finished {handler : Handler} (finished : handler.finished = true) :
    handler.unpublished = [] := by
  rcases Handler.finished_cases finished with rfl | ⟨status, rfl⟩ | ⟨reply, rfl⟩
  · rfl
  · rfl
  · rfl

/-- A step puts one event in the buffer, or leaves what its handler has to publish. -/
theorem own_unpublished {registry after : Registry} {handler next : Handler}
    (own : Own registry handler act after next) :
    (∃ event rest reply, handler = .numbered event rest reply ∧ next = .buffered event rest reply ∧
      pushes handler act = [event]) ∨
    (pushes handler act = [] ∧ ∀ info ∈ handler.unpublished, info ∈ next.unpublished) := by
  cases own with
  | pushReplay here => exact .inl ⟨_, _, _, here, rfl, by rw [here]; rfl⟩
  | takeSequence here => exact .inr ⟨rfl, fun info member => by rwa [here] at member⟩
  | broadcast here => exact .inr ⟨rfl, fun info member => by rwa [here] at member⟩
  | register finished | registerRefused finished | drain finished | drainRefused finished
  | heartbeat finished | heartbeatRefused finished | expireStale finished =>
    refine .inr ⟨rfl, fun info member => ?_⟩
    rw [unpublished_of_finished finished] at member
    cases member

/-- The last event of the log about a node has come to the table, unless a newer
change of the node is not in the log yet. -/
theorem entered_of_last {pool : Pool Registry Handler} (ordered : Ordered pool log)
    (recorded : publishingView.assertions.Holds pool) (settled : publishingView.Settled pool node)
    (published : ¬ Unpublished pool node) (last : lastAbout node log = some event)
    (carried : event.node = some info) : entered pool.shared node = some info.face := by
  obtain ⟨rest, split⟩ := ordered.sent
  have numbered := ordered.numbered
  rw [split, lastAbout_join] at last
  cases unsent : lastAbout node rest with
  | some newest =>
    -- the handler that still has to broadcast it answers for the table
    rw [unsent] at last
    cases last
    obtain ⟨member, about⟩ := mem_of_lastAbout unsent
    have inside : event ∈ log := split ▸ List.mem_append_right _ member
    have above : pool.shared.sent.length < event.sequence :=
      Log.Numbered.lt_of_append (split ▸ numbered) member
    have below := numbered.le_length inside
    obtain ⟨thread, held, found, same⟩ :=
      ordered.held event.sequence above (Nat.lt_of_le_of_lt below ordered.below)
    cases phase : pool.threads thread with
    | numbered other others reply =>
      have high := ordered.unpushed thread held (by rw [phase] at found ⊢; exact found)
      omega
    | buffered other others reply =>
      have pushed := ordered.pushed thread held found (by rw [phase]; rfl)
      obtain rfl := numbered.eq_of_number pushed inside same
      rw [phase] at found
      cases found
      refine recorded.2 thread (node, some info.face) ?_
      have named : info.about? = some node := by simpa [NodeEvent.about?, carried] using about
      rw [phase]
      simp [publishingView, owed, Handler.pending, NodeInfo.write?, carried, named]
    | _ => rw [phase] at found; cases found
  | none =>
    rw [unsent, Option.none_or] at last
    rcases settled with same | ⟨thread, owes⟩
    · refine same.trans ?_
      simp only [publishingView, announced, last, Option.bind_some, carried, Option.map_some]
    · -- whoever owes the node has not pushed it, or it would be in the rest of the log
      obtain ⟨shown, pending, about⟩ := announces_of_owed owes
      refine absurd ⟨thread, shown, ?_, about⟩ published
      cases phase : pool.threads thread with
      | publishing | numbered => rwa [phase] at pending
      | buffered held others reply =>
        rw [phase] at pending
        rcases List.mem_append.mp pending with here | later
        · have found : (pool.threads thread).unsent = some held := by rw [phase]; rfl
          have pushed := ordered.pushed thread held found (by rw [phase]; rfl)
          have above := (ordered.unsent thread held found).1
          rw [split, List.mem_append] at pushed
          rcases pushed with early | member
          · have low := (Log.Numbered.of_append (split ▸ numbered)).le_length early
            omega
          · refine absurd ?_ (lastAbout_eq_none unsent member)
            rw [NodeEvent.about?, Option.mem_toList.mp here]
            exact about
        · exact later
      | idle | refused => rw [phase] at pending; cases pending

namespace Stream
variable {registry : Registry} {stream after : Stream} {log : List NodeEvent}

/-- What the stream yields once a log is sent to its end. -/
def due (stream : Stream) (log : List NodeEvent) : List NodeEvent :=
  stream.catchup ++ (log.drop stream.position).filter fun event => stream.highest < event.sequence

theorem due_append (inside : stream.position ≤ log.length)
    (above : ∀ event ∈ more, stream.highest < event.sequence) :
    stream.due (log ++ more) = stream.due log ++ more := by
  have kept : more.filter (fun event => stream.highest < event.sequence) = more := by
    simpa only [List.filter_eq_self, decide_eq_true_eq] using above
  rw [due, due, List.drop_append_of_le_length inside, List.filter_append, kept, List.append_assoc]

/-- A turn without lag takes the first event that is due, or leaves them as they are. -/
theorem due_next (turn : stream.next registry = some (item, after)) (sent : log = registry.sent ++ rest) :
    item = some (.failed lagged) ∨
      (∃ event, item = some (.event event) ∧ stream.due log = event :: after.due log) ∨
      item = none ∧ stream.due log = after.due log := by
  obtain ⟨catchup, highest, position⟩ := stream
  cases catchup with
  | cons event left =>
    cases turn
    exact .inr (.inl ⟨event, rfl, rfl⟩)
  | nil =>
    simp only [next] at turn
    split at turn
    · cases turn
      exact .inl rfl
    · split at turn
      · cases turn
      · rename_i event found
        cases turn
        have found : log[position]? = some event := by
          rw [sent, List.getElem?_append_left (List.getElem?_eq_some_iff.mp found).1, found]
        obtain ⟨inside, here⟩ := List.getElem?_eq_some_iff.mp found
        simp only [due, List.nil_append, List.drop_eq_getElem_cons inside, here, List.filter_cons]
        by_cases above : highest < event.sequence
        · exact .inr (.inl ⟨event, by simp [above]⟩)
        · exact .inr (.inr (by simp [above]))

theorem next_frame (turn : stream.next registry = some (item, after))
    (inside : stream.position ≤ registry.sent.length) :
    after.highest = stream.highest ∧ after.position ≤ registry.sent.length := by
  obtain ⟨catchup, highest, position⟩ := stream
  cases catchup with
  | cons event left =>
    cases turn
    exact ⟨rfl, inside⟩
  | nil =>
    simp only [next] at turn
    split at turn
    · cases turn
      exact ⟨rfl, Nat.sub_le _ _⟩
    · split at turn
      · cases turn
      · rename_i event found
        cases turn
        exact ⟨rfl, (List.getElem?_eq_some_iff.mp found).1⟩

theorem due_live (numbered : Log.Numbered NodeEvent.sequence log) (exhausted : stream.catchup = []) :
    stream.due log = log.drop (max stream.position stream.highest) := by
  rw [due, exhausted, List.nil_append, numbered.filter_drop]

theorem mem_pending (numbered : Log.Numbered NodeEvent.sequence log) (split : log = registry.sent ++ rest)
    (sent : event ∈ registry.sent) (owes : event ∈ stream.due log) : event ∈ stream.pending registry := by
  have member : event ∈ log := split ▸ List.mem_append_left _ sent
  rw [due, List.mem_append, List.mem_filter, numbered.mem_drop member] at owes
  rwa [pending, List.mem_append, List.mem_filter, (Log.Numbered.of_append (split ▸ numbered)).mem_drop sent]

end Stream

theorem openStream_fresh (registry : Registry) (position : Nat) :
    (registry.openStream 0 position).highest = 0 ∧
      ∀ event ∈ (registry.openStream 0 position).catchup, event.sequence = 0 := by
  have zero : ∀ event ∈ registry.catchup 0, event.sequence = 0 := by
    intro event member
    simp only [Registry.catchup, if_pos, Registry.snapshotAsEvents, List.mem_map] at member
    obtain ⟨_, _, rfl⟩ := member
    rfl
  refine ⟨?_, zero⟩
  simp only [Registry.openStream]
  cases last : (registry.catchup 0).getLast? with
  | none => rfl
  | some event => exact zero event (List.mem_of_getLast? last)

namespace Buffered
variable {registry : Registry} {log : List NodeEvent}

/-- A resumed stream owes the log from its token on. Where the token is not below
the whole log there is no batch, and the channel decides. -/
theorem due_openStream (buffered : Buffered registry log) (known : 1 ≤ lastSeen)
    (kept : log.length - replayBufferCapacity ≤ lastSeen) (inside : position ≤ log.length) :
    (registry.openStream lastSeen position).highest ≤ log.length ∧
    (registry.openStream lastSeen position).due log =
      log.drop (if lastSeen < log.length then lastSeen else position) := by
  have batch := buffered.catchup_eq known kept
  simp only [Stream.due, Registry.openStream, batch, buffered.numbered.filter_drop]
  split
  · rename_i low
    rw [buffered.numbered.getLast?_drop low, Option.getD_some, Nat.max_eq_right inside, List.drop_length,
      List.append_nil]
    exact ⟨Nat.le_refl _, rfl⟩
  · rename_i high
    rw [List.drop_of_length_le (Nat.not_lt.mp high), List.getLast?_nil, Option.map_none, Option.getD_none,
      Nat.max_eq_left (Nat.zero_le _), List.nil_append]
    exact ⟨Nat.zero_le _, rfl⟩

end Buffered

/-- How a stream stands to the log: either it goes on in the log from a marked place,
or it is still in the snapshot of a fresh subscription and goes on from where it
subscribed. -/
inductive Flow (mark : Nat → Prop) (token : Nat) (log : List NodeEvent) (stream : Stream) : Prop where
  | contiguous (place : Nat) : stream.due log = log.drop place → place ≤ log.length → mark place →
      Flow mark token log stream
  | snapshot : token = 0 → stream.highest = 0 → (∀ event ∈ stream.catchup, event.sequence = 0) →
      mark stream.position → Flow mark token log stream

namespace Flow
variable {mark new : Nat → Prop} {registry : Registry} {log more : List NodeEvent} {stream after : Stream}

theorem split (flow : Flow mark token log stream) (numbered : Log.Numbered NodeEvent.sequence log)
    (inside : stream.position ≤ log.length) :
    (∃ place, stream.due log = log.drop place ∧ place ≤ log.length ∧ mark place) ∨
      (token = 0 ∧ stream.highest = 0 ∧ (∀ event ∈ stream.catchup, event.sequence = 0) ∧
        mark stream.position ∧ stream.catchup ≠ []) := by
  cases flow with
  | contiguous place due within marked => exact .inl ⟨place, due, within, marked⟩
  | snapshot fresh start zero marked =>
    by_cases batch : stream.catchup = []
    · refine .inl ⟨stream.position, ?_, inside, marked⟩
      rw [Stream.due_live numbered batch, start, Nat.max_eq_left (Nat.zero_le _)]
    · exact .inr ⟨fresh, start, zero, marked, batch⟩

theorem grow (flow : Flow mark token log stream) (inside : stream.position ≤ log.length)
    (high : stream.highest ≤ log.length) (numbered : Log.Numbered NodeEvent.sequence (log ++ more))
    (stays : ∀ place, place ≤ log.length → mark place → new place) :
    Flow new token (log ++ more) stream := by
  cases flow with
  | contiguous place due within marked =>
    refine .contiguous place ?_ ?_ (stays place within marked)
    · rw [Stream.due_append inside, due, List.drop_append_of_le_length within]
      exact fun event member => Nat.lt_of_le_of_lt high (numbered.lt_of_append member)
    · rw [List.length_append]
      omega
  | snapshot fresh start zero marked => exact .snapshot fresh start zero (stays _ inside marked)

theorem receive (new : Nat → Prop) (flow : Flow mark token log stream)
    (turn : stream.next registry = some (some (.event event), after))
    (numbered : Log.Numbered NodeEvent.sequence log) (sent : log = registry.sent ++ rest)
    (inside : stream.position ≤ log.length)
    (moves : ∀ place, event ∈ log → event.sequence = place + 1 → mark place → new (place + 1))
    (stays : ∀ place, event.sequence = 0 → mark place → new place) :
    Flow new (max token event.sequence) log after ∧ event.sequence ≤ log.length := by
  rcases flow.split numbered inside with ⟨place, due, _, marked⟩ | ⟨fresh, start, zero, marked, batch⟩
  · rcases Stream.due_next turn sent with failed | ⟨_, same, first⟩ | ⟨none, _⟩
    · cases failed
    · cases same
      obtain ⟨number, within, rest⟩ := numbered.of_drop_cons (due.symm.trans first)
      have member : event ∈ log := by
        refine List.mem_of_mem_drop (i := place) ?_
        rw [← due, first]
        exact List.mem_cons_self
      exact ⟨.contiguous (place + 1) rest within (moves place member number marked), by omega⟩
    · cases none
  · obtain ⟨⟨first, left⟩, highest, position⟩ := stream
    · exact absurd rfl batch
    · cases turn
      have number := zero event List.mem_cons_self
      refine ⟨.snapshot (by omega) start (fun other member => zero other (List.mem_cons_of_mem _ member))
        (stays _ number marked), by omega⟩

theorem skip (flow : Flow mark token log stream) (turn : stream.next registry = some (none, after))
    (numbered : Log.Numbered NodeEvent.sequence log) (sent : log = registry.sent ++ rest)
    (inside : stream.position ≤ log.length) (stays : ∀ place, mark place → new place) :
    Flow new token log after := by
  rcases flow.split numbered inside with ⟨place, due, within, marked⟩ | ⟨_, _, _, _, batch⟩
  · rcases Stream.due_next turn sent with failed | ⟨_, same, _⟩ | ⟨_, kept⟩
    · cases failed
    · cases same
    · exact .contiguous place (kept.symm.trans due) within (stays place marked)
  · obtain ⟨⟨first, left⟩, highest, position⟩ := stream
    · exact absurd rfl batch
    · cases turn

end Flow
end Rayd.Gcs
