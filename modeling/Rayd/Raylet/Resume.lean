import Rayd.Gcs.Ordering
import Rayd.Raylet.WatchNodes

/-! What a raylet's streams contain together, across disconnects. Every event above
the place where its first stream began has been received or is due on the stream
that is open, where events are published in order and the loop comes back in time
with a token of its own. -/
namespace Rayd.Raylet.Watch
open Gcs Threads Transition

def Event.position? : Event → Option Nat
  | .opened _ position => some position
  | _ => none

/-- Where the first of the streams began in the channel. -/
def firstLive (path : List Event) : Option Nat := path.findSome? Event.position?

/-- The replay buffer is long enough for all that came after the token. -/
def Recent (s : Cluster) : Prop :=
  s.token = 0 ∨ s.registry.nextSequence ≤ s.token + replayBufferCapacity + 1

/-- Events are buffered and broadcast in order; a subscription waits until nothing
up to its token is between the two; the buffer is read while it reaches back to the
token. -/
def Orderly (s : Cluster) : Event → Prop
  | .gcs thread act => Unopposed InOrder s.server (thread, act)
  | .subscribed token => ∀ thread event rest reply,
      s.server.threads thread = .buffered event rest reply → token < event.sequence
  | .opened _ _ => Recent s
  | _ => True

/-- Besides, the loop never lags, leaves a stream only with a token, and is back
before the buffer has moved past it; the service does not restart. -/
def Attentive (s : Cluster) (event : Event) : Prop :=
  Orderly s event ∧
    match event with
    | .rejected _ _ => Recent s
    | .ended | .broken => s.token ≠ 0
    | .lagged _ | .restarted _ => False
    | _ => True

def Missing (path : List Event) (event : NodeEvent) : Prop :=
  (∃ first, firstLive path = some first ∧ first < event.sequence) ∧ .received event ∉ path

/-- Nothing up to this place of the log is missing. -/
def Heard (path : List Event) (log : List NodeEvent) (place : Nat) : Prop :=
  ∀ event ∈ log, Missing path event → place < event.sequence

theorem firstLive_append (path : List Event) (event : Event) :
    firstLive (path ++ [event]) = (firstLive path).or event.position? := by
  cases event <;> simp [firstLive, Event.position?]

theorem Missing.before {event : NodeEvent} (missing : Missing (path ++ [label]) event)
    (quiet : label.position? = none) : Missing path event := by
  obtain ⟨first, unheard⟩ := missing
  refine ⟨?_, fun heard => unheard (List.mem_append_left _ heard)⟩
  simpa only [firstLive_append, quiet, Option.or_none] using first

namespace Heard
variable {log more : List NodeEvent}

theorem append (heard : Heard path log place) (quiet : label.position? = none) :
    Heard (path ++ [label]) log place :=
  fun event member missing => heard event member (missing.before quiet)

theorem mono (heard : Heard path log place) (lower : other ≤ place) : Heard path log other :=
  fun event member missing => Nat.lt_of_le_of_lt lower (heard event member missing)

theorem grow (heard : Heard path log place) (inside : place ≤ log.length)
    (numbered : Log.Numbered NodeEvent.sequence (log ++ more)) : Heard path (log ++ more) place := by
  intro event member missing
  rcases List.mem_append.mp member with old | new
  · exact heard event old missing
  · exact Nat.lt_of_le_of_lt inside (numbered.lt_of_append new)

theorem receive (heard : Heard path log place) (numbered : Log.Numbered NodeEvent.sequence log)
    (member : event ∈ log) (next : event.sequence = place + 1) :
    Heard (path ++ [.received event]) log (place + 1) := by
  intro other inside missing
  have above := heard other inside (missing.before rfl)
  have apart : other.sequence ≠ place + 1 := by
    intro same
    obtain rfl := numbered.eq_of_number inside member (same.trans next.symm)
    exact missing.2 (List.mem_append_right _ (List.mem_singleton.mpr rfl))
  omega

end Heard

/-- Between streams. -/
def Away (path : List Event) (token : Nat) (log : List NodeEvent) : Prop :=
  (firstLive path ≠ none → token ≠ 0) ∧ Heard path log token

/-- A place in the log that the loop has come to. -/
def Reached (path : List Event) (token : Nat) (log : List NodeEvent) (place : Nat) : Prop :=
  token ≤ place ∧ Heard path log place

def Placed (path : List Event) (token : Nat) (registry : Registry) (log : List NodeEvent) : WatchPhase → Prop
  | .connecting | .sleeping => Away path token log
  | .subscribed position | .checked position =>
    Away path token log ∧ token ≤ position ∧ position ≤ registry.sent.length
  | .streaming stream =>
    stream.position ≤ registry.sent.length ∧ stream.highest ≤ log.length ∧
      Flow (Reached path token log) token log stream
  | .lost _ => False
  | .stopped => True

section Placed
variable {path : List Event} {label : Event} {token : Nat} {registry after : Registry}
  {log more : List NodeEvent} {stream : Stream} {phase : WatchPhase}

theorem Away.append (away : Away path token log) (quiet : label.position? = none) :
    Away (path ++ [label]) token log := by
  refine ⟨?_, away.2.append quiet⟩
  simpa only [firstLive_append, quiet, Option.or_none] using away.1

theorem mem_due_of_missing (flow : Flow (Reached path token log) token log stream)
    (numbered : Log.Numbered NodeEvent.sequence log) (member : event ∈ log) (missing : Missing path event) :
    event ∈ stream.due log := by
  cases flow with
  | contiguous place due _ reached =>
    rw [due, numbered.mem_drop member]
    exact reached.2 event member missing
  | snapshot _ start _ reached =>
    have above := reached.2 event member missing
    refine List.mem_append_right _ (List.mem_filter.mpr ⟨(numbered.mem_drop member).mpr above, ?_⟩)
    rw [start, decide_eq_true_eq]
    omega

theorem token_lt_received {next : Stream} (flow : Flow (Reached path token log) token log stream)
    (known : token ≠ 0) (turn : stream.next registry = some (some (.event event), next))
    (numbered : Log.Numbered NodeEvent.sequence log) (sent : log = registry.sent ++ rest) :
    token < event.sequence := by
  cases flow with
  | contiguous place due _ reached =>
    rcases Stream.due_next turn sent with failed | ⟨_, same, first⟩ | ⟨none, _⟩
    · cases failed
    · cases same
      have number := (numbered.of_drop_cons (due.symm.trans first)).1
      have low := reached.1
      omega
    · cases none
  | snapshot fresh => exact absurd fresh known

theorem Placed.append (placed : Placed path token registry log phase) (quiet : label.position? = none) :
    Placed (path ++ [label]) token registry log phase := by
  cases phase with
  | connecting | sleeping => exact Away.append placed quiet
  | subscribed | checked => exact ⟨placed.1.append quiet, placed.2⟩
  | streaming =>
    refine ⟨placed.1, placed.2.1, ?_⟩
    cases placed.2.2 with
    | contiguous place due within reached =>
      exact .contiguous place due within ⟨reached.1, reached.2.append quiet⟩
    | snapshot fresh start zero reached =>
      exact .snapshot fresh start zero ⟨reached.1, reached.2.append quiet⟩
  | lost | stopped => exact placed

theorem Placed.grow (placed : Placed path token registry log phase) (issued : token ≤ log.length)
    (sent : registry.sent.length ≤ log.length) (longer : registry.sent.length ≤ after.sent.length)
    (numbered : Log.Numbered NodeEvent.sequence (log ++ more)) :
    Placed path token after (log ++ more) phase := by
  cases phase with
  | connecting | sleeping => exact ⟨placed.1, placed.2.grow issued numbered⟩
  | subscribed | checked =>
    exact ⟨⟨placed.1.1, placed.1.2.grow issued numbered⟩, placed.2.1, placed.2.2.trans longer⟩
  | streaming =>
    refine ⟨placed.1.trans longer, ?_, placed.2.2.grow (placed.1.trans sent) placed.2.1 numbered ?_⟩
    · rw [List.length_append]
      exact Nat.le_add_right_of_le placed.2.1
    · exact fun place inside reached => ⟨reached.1, reached.2.grow inside numbered⟩
  | lost | stopped => exact placed

end Placed

structure Tracked (path : List Event) (s : Cluster) (log : List NodeEvent) : Prop where
  ordered : Ordered s.server log
  issued : s.token ≤ log.length
  resumed : ∀ token position, .opened token position ∈ path → token ≤ s.token
  placed : Placed path s.token s.registry log s.watcher.phase

namespace Tracked
variable {path : List Event} {s t : Cluster} {log : List NodeEvent}

theorem start (session : Id 16) : Tracked [] (.start session) [] where
  ordered := .new session
  issued := Nat.le_refl _
  resumed _ _ member := by cases member
  placed := by
    refine ⟨fun live => absurd rfl live, fun event member => ?_⟩
    cases member

theorem moved (tracked : Tracked path s log) (server : t.server = s.server) (token : t.token = s.token)
    (quiet : label.position? = none) (placed : Placed (path ++ [label]) s.token s.registry log t.watcher.phase) :
    Tracked (path ++ [label]) t log where
  ordered := by rw [server]; exact tracked.ordered
  issued := by rw [token]; exact tracked.issued
  resumed old position member := by
    rw [token]
    rcases List.mem_append.mp member with before | here
    · exact tracked.resumed old position before
    · cases List.mem_singleton.mp here
      cases quiet
  placed := by
    rw [token, Cluster.registry, server]
    exact placed

/-- A stream is left with a token, and all up to the token is heard. -/
theorem leaves (tracked : Tracked path s log) (known : s.token ≠ 0)
    (open_ : s.watcher.phase = .streaming stream ∨ s.watcher.phase = .lost true)
    (quiet : label.position? = none) : Away (path ++ [label]) s.token log := by
  have placed := tracked.placed
  rcases open_ with here | here
  · rw [here] at placed
    refine ⟨fun _ => known, ?_⟩
    cases placed.2.2 with
    | contiguous place _ _ reached => exact (reached.2.mono reached.1).append quiet
    | snapshot fresh => exact absurd fresh known
  · rw [here] at placed
    cases placed

/-- A fresh stream begins with a snapshot, a resumed one goes on from its token. -/
theorem opens (tracked : Tracked path s log) (here : s.watcher.phase = .checked position)
    (recent : Recent s) :
    Tracked (path ++ [.opened s.token position])
      (s.move (.streaming (s.registry.openStream s.token position))) log := by
  have placed := tracked.placed
  rw [here] at placed
  obtain ⟨⟨known, heard⟩, low, inside⟩ := placed
  have within := inside.trans tracked.ordered.sent_le
  refine ⟨tracked.ordered, tracked.issued, fun old place member => ?_, inside, ?_⟩
  · rcases List.mem_append.mp member with before | now
    · exact tracked.resumed old place before
    · cases List.mem_singleton.mp now
      exact Nat.le_refl _
  · by_cases fresh : s.token = 0
    · have first : firstLive path = none := by
        by_contra live
        exact known live fresh
      obtain ⟨start, zero⟩ := openStream_fresh s.registry position
      rw [fresh]
      refine ⟨by rw [start]; exact Nat.zero_le _, .snapshot fresh start zero ⟨low, ?_⟩⟩
      rintro event _ ⟨⟨place, found, above⟩, _⟩
      rw [firstLive_append, first] at found
      cases found
      exact above
    · have below := tracked.ordered.below
      have kept : s.server.shared.nextSequence ≤ _ := recent.resolve_left fresh
      obtain ⟨high, due⟩ := tracked.ordered.due_openStream (Nat.one_le_iff_ne_zero.mpr fresh)
        (by omega) within
      refine ⟨high, .contiguous s.token (due.trans ?_) tracked.issued ⟨Nat.le_refl _, ?_⟩⟩
      · split
        · rfl
        · congr 1
          have issued := tracked.issued
          omega
      · rintro event member ⟨⟨place, found, above⟩, unheard⟩
        rw [firstLive_append] at found
        cases first : firstLive path with
        | none =>
          rw [first] at found
          cases found
          exact Nat.lt_of_le_of_lt low above
        | some old =>
          rw [first] at found
          cases found
          exact heard event member ⟨⟨_, first, above⟩, fun before => unheard (List.mem_append_left _ before)⟩

theorem step (tracked : Tracked path s log) (step : Guarded Attentive Step s label t) :
    ∃ log, Tracked (path ++ [label]) t log := by
  obtain ⟨⟨orderly, attentive⟩, step⟩ := step
  obtain ⟨rest, sent⟩ := tracked.ordered.sent
  have placed := tracked.placed
  cases step with
  | @gcs thread act server moved =>
    have ordered := tracked.ordered.step ⟨orderly, moved⟩
    have longer : s.server.shared.sent.length ≤ server.shared.sent.length := by
      cases moved with
      | act own => exact Ordered.own_sent_le own
    refine ⟨_, ordered, ?_, fun old position member => ?_, ?_⟩
    · rw [List.length_append]
      exact Nat.le_add_right_of_le tracked.issued
    · rcases List.mem_append.mp member with before | here
      · exact tracked.resumed old position before
      · cases List.mem_singleton.mp here
    · exact (placed.grow tracked.issued tracked.ordered.sent_le longer ordered.numbered).append rfl
  | restart | lag => exact attentive.elim
  | subscribe here =>
    rw [here] at placed
    refine ⟨log, tracked.moved rfl rfl rfl ⟨Away.append placed rfl, ?_, Nat.le_refl _⟩⟩
    exact tracked.ordered.le_sent tracked.issued orderly
  | check here =>
    rw [here] at placed
    exact ⟨log, tracked.moved rfl rfl rfl ⟨placed.1.append rfl, placed.2⟩⟩
  | reject here =>
    rw [here] at placed
    exact ⟨log, tracked.moved rfl rfl rfl (placed.1.append rfl)⟩
  | openStream here => exact ⟨log, tracked.opens here orderly⟩
  | @receive stream next event here turn =>
    rw [here] at placed
    obtain ⟨inside, high, flow⟩ := placed
    obtain ⟨same, within⟩ := Stream.next_frame turn inside
    have numbered := tracked.ordered.numbered
    obtain ⟨flow, issued⟩ := flow.receive (Reached (path ++ [.received event]) (max s.token event.sequence) log)
      turn numbered sent (inside.trans tracked.ordered.sent_le)
      (fun place member number reached => ⟨by have := reached.1; omega, reached.2.receive numbered member number⟩)
      (fun place number reached => ⟨by have := reached.1; omega, reached.2.append rfl⟩)
    obtain ⟨deaths, after⟩ := s.consume_eq event next
    rw [after]
    refine ⟨log, tracked.ordered, max_le tracked.issued issued, fun old position member => ?_,
      within, same ▸ high, flow⟩
    rcases List.mem_append.mp member with before | now
    · exact (tracked.resumed old position before).trans (Nat.le_max_left _ _)
    · cases List.mem_singleton.mp now
  | skip here turn =>
    rw [here] at placed
    obtain ⟨inside, high, flow⟩ := placed
    obtain ⟨same, within⟩ := Stream.next_frame turn inside
    refine ⟨log, tracked.moved rfl rfl rfl ⟨within, same ▸ high, ?_⟩⟩
    exact flow.skip turn tracked.ordered.numbered sent (inside.trans tracked.ordered.sent_le)
      fun place reached => ⟨reached.1, reached.2.append rfl⟩
  | finish here => exact ⟨log, tracked.moved rfl rfl rfl (tracked.leaves attentive here rfl)⟩
  | fail here => exact ⟨log, tracked.moved rfl rfl rfl (tracked.leaves attentive here rfl)⟩
  | unreachable here =>
    refine ⟨log, tracked.moved rfl rfl rfl ?_⟩
    rcases here with here | here | here | here
    · rw [here] at placed
      exact Away.append placed rfl
    · rw [here] at placed
      exact placed.1.append rfl
    · rw [here] at placed
      exact placed.1.append rfl
    · rw [here] at placed
      cases placed
  | wake here =>
    rw [here] at placed
    exact ⟨log, tracked.moved rfl rfl rfl (Away.append placed rfl)⟩
  | shutdown => exact ⟨log, tracked.moved rfl rfl rfl trivial⟩

theorem run (run : Run (Guarded Attentive Step) (.start session) path s) : ∃ log, Tracked path s log :=
  run.traced (P := fun path s => ∃ log, Tracked path s log)
    (fun ⟨_, tracked⟩ step => tracked.step step) ⟨[], .start session⟩

end Tracked

/-- In runs that publish in order, with a loop that comes back in time: the streams
together have every event above the place where the first one began, or the open
stream still has it to yield; after a resume nothing up to its token comes again;
and no resume is refused. -/
theorem streams_complete {session : Id 16} (run : Run (Guarded Attentive Step) (.start session) path s) :
    (∀ stream first event, s.watcher.phase = .streaming stream → firstLive path = some first →
      event ∈ s.registry.sent → first < event.sequence →
      .received event ∈ path ∨ event ∈ stream.pending s.registry) ∧
    (∀ before token position between event after,
      path = before ++ .opened token position :: (between ++ .received event :: after) →
      token ≠ 0 → token < event.sequence) ∧
    (∀ token status, .rejected token status ∉ path) := by
  refine ⟨fun stream first event here live member above => ?_, ?_, fun token status member => ?_⟩
  · obtain ⟨log, tracked⟩ := Tracked.run run
    obtain ⟨rest, sent⟩ := tracked.ordered.sent
    have placed := tracked.placed
    rw [here] at placed
    by_cases heard : .received event ∈ path
    · exact .inl heard
    · have member' : event ∈ log := sent ▸ List.mem_append_left _ member
      have owes := mem_due_of_missing placed.2.2 tracked.ordered.numbered member' ⟨⟨first, live, above⟩, heard⟩
      exact .inr (Stream.mem_pending tracked.ordered.numbered sent member owes)
  · rintro before token position between event after rfl known
    have whole : before ++ .opened token position :: (between ++ .received event :: after) =
        (before ++ .opened token position :: between) ++ .received event :: after := by simp
    rw [whole] at run
    obtain ⟨t, u, first, ⟨_, last⟩, _⟩ := run.split
    obtain ⟨log, tracked⟩ := Tracked.run first
    obtain ⟨rest, sent⟩ := tracked.ordered.sent
    have resumed := tracked.resumed token position (by simp)
    have placed := tracked.placed
    cases last with
    | receive here turn =>
      rw [here] at placed
      exact Nat.lt_of_le_of_lt resumed
        (token_lt_received placed.2.2 (by omega) turn tracked.ordered.numbered sent)
  · obtain ⟨before, after, rfl⟩ := List.append_of_mem member
    obtain ⟨t, u, first, ⟨⟨_, recent⟩, last⟩, _⟩ := run.split
    obtain ⟨log, tracked⟩ := Tracked.run first
    have below := tracked.ordered.below
    cases last with
    | reject here refused =>
      by_cases fresh : t.token = 0
      · rw [fresh] at refused
        cases refused
      · have kept : t.server.shared.nextSequence ≤ _ := recent.resolve_left fresh
        have floor := tracked.ordered.checkFloor_eq ⟨Nat.one_le_iff_ne_zero.mpr fresh, tracked.issued⟩
        rw [if_neg (by omega)] at floor
        cases floor.symm.trans refused

section Samples

theorem idle_inOrder (registry : Registry) (own : Handler) (act : Act) : InOrder registry .idle own act := by
  cases act <;> simp [InOrder, Handler.unpushed, Handler.unsent]

theorem attentive_next {s : Cluster} {a : Act} (run : Run (Guarded Attentive Step) (.start session) path s)
    (only : s.server.Only .idle) (own : Own s.registry (s.server.threads 0) a shared phase) :
    Run (Guarded Attentive Step) (.start session) (path ++ [.gcs 0 a])
      { s with server := s.server.set 0 shared phase } ∧ (s.server.set 0 shared phase).Only .idle :=
  ⟨run.next ⟨⟨only.unopposed idle_inOrder a, trivial⟩, .gcs (.act own)⟩, only.set shared phase⟩

theorem all_sent {pool : Pool Registry Handler} (only : pool.Only .idle)
    (sent : (pool.threads 0).unsent = none) :
    ∀ thread event rest reply, pool.threads thread = .buffered event rest reply → number < event.sequence := by
  intro thread event rest reply here
  have none : (pool.threads thread).unsent = none := only.all (f := (·.unsent = none)) sent rfl thread
  rw [here] at none
  cases none

/-- One event is received, the stream ends, the next event is published while the
loop is away: the resumed stream has it. -/
theorem resumed_stream_complete :
    ∃ path s stream event, Run (Guarded Attentive Step) (.start (.nil 16)) path s ∧
      s.watcher.phase = .streaming stream ∧ s.registry.sent.getLast? = some event ∧
      event.sequence = 2 ∧ event ∈ stream.pending s.registry := by
  have run : Run (Guarded Attentive Step) (.start (.nil 16)) [] _ := .refl
  have run := run.next (a := Event.subscribed 0)
    ⟨⟨fun _ _ _ _ here => (by cases here), trivial⟩, .subscribe rfl⟩
  have run := run.next (a := Event.checked 0) ⟨⟨trivial, trivial⟩, .check rfl rfl⟩
  have run := run.next (a := Event.opened 0 0) ⟨⟨.inl rfl, trivial⟩, .openStream rfl⟩
  have only : (Cluster.start (.nil 16)).server.Only .idle := fun _ _ => rfl
  obtain ⟨run, only⟩ := attentive_next run only (a := .register sampleRequest (.nil 16) 0) (.register rfl rfl)
  obtain ⟨run, only⟩ := attentive_next run only (.takeSequence rfl)
  obtain ⟨run, only⟩ := attentive_next run only (.pushReplay rfl)
  obtain ⟨run, only⟩ := attentive_next run only (.broadcast rfl)
  have run := run.next (a := Event.received _)
    ⟨⟨trivial, trivial⟩, .receive rfl (Stream.next_live rfl (by decide) rfl (by decide))⟩
  have run := run.next (a := Event.ended) ⟨⟨trivial, by decide⟩, .finish (.inl rfl)⟩
  obtain ⟨run, only⟩ := attentive_next run only (a := .drain (Id.nil 16).bytes) (.drain rfl rfl)
  obtain ⟨run, only⟩ := attentive_next run only (.takeSequence rfl)
  obtain ⟨run, only⟩ := attentive_next run only (.pushReplay rfl)
  obtain ⟨run, only⟩ := attentive_next run only (.broadcast rfl)
  have run := run.next (a := Event.subscribed 1) ⟨⟨all_sent only rfl, trivial⟩, .subscribe rfl⟩
  have run := run.next (a := Event.checked 1) ⟨⟨trivial, trivial⟩, .check rfl rfl⟩
  have run := run.next (a := Event.opened 1 2) ⟨⟨.inr (by decide), trivial⟩, .openStream rfl⟩
  have complete := (streams_complete run).1 _ 0 _ rfl rfl (.tail _ (.head _)) (by decide)
  refine ⟨_, _, _, _, run, rfl, rfl, rfl, complete.resolve_left ?_⟩
  simp

/-- Two handlers take the numbers 1 and 2, and the second one is first at the buffer
and at the channel. The loop receives 2 and leaves; when it resumes, 1 is behind its
token. -/
theorem overtaken_event_lost :
    ∃ path s stream event, Run Step (.start (.nil 16)) path s ∧ s.watcher.phase = .streaming stream ∧
      firstLive path = some 0 ∧ event ∈ s.registry.sent ∧ 0 < event.sequence ∧
      .received event ∉ path ∧ event ∉ stream.pending s.registry ∧
      (∀ status, .lagged status ∉ path) ∧ s.registry.sent.length = 2 := by
  have run : Run Step (.start (.nil 16)) [] _ := .refl
  have run := run.next (a := Event.subscribed 0) (.subscribe rfl)
  have run := run.next (a := Event.checked 0) (.check rfl rfl)
  have run := run.next (a := Event.opened 0 0) (.openStream rfl)
  have run := run.next (a := Event.gcs 0 (.register sampleRequest (.nil 16) 0))
    (.gcs (.act (.register rfl rfl)))
  have run := run.next (a := Event.gcs 1 (.drain (Id.nil 16).bytes)) (.gcs (.act (.drain rfl rfl)))
  have run := run.next (a := Event.gcs 0 .takeSequence) (.gcs (.act (.takeSequence rfl)))
  have run := run.next (a := Event.gcs 1 .takeSequence) (.gcs (.act (.takeSequence rfl)))
  have run := run.next (a := Event.gcs 1 .pushReplay) (.gcs (.act (.pushReplay rfl)))
  have run := run.next (a := Event.gcs 1 .broadcast) (.gcs (.act (.broadcast rfl)))
  have run := run.next (a := Event.received _)
    (.receive rfl (Stream.next_live rfl (by decide) rfl (by decide)))
  have run := run.next (a := Event.ended) (.finish (.inl rfl))
  have run := run.next (a := Event.gcs 0 .pushReplay) (.gcs (.act (.pushReplay rfl)))
  have run := run.next (a := Event.gcs 0 .broadcast) (.gcs (.act (.broadcast rfl)))
  have run := run.next (a := Event.subscribed 2) (.subscribe rfl)
  have run := run.next (a := Event.checked 2) (.check rfl rfl)
  have run := run.next (a := Event.opened 2 2) (.openStream rfl)
  refine ⟨_, _, _, ⟨1, some ⟨some ⟨.literal (.v4 10 0 0 1), 60001, (Id.nil 16).bytes⟩, .alive, 0⟩⟩,
    run, rfl, rfl, .tail _ (.head _), Nat.zero_lt_one, ?_, ?_, ?_, rfl⟩
  · simp [Cluster.start, Registry.new]
  · decide
  · simp

end Samples

end Rayd.Raylet.Watch
