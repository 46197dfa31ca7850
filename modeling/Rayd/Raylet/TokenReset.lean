import Rayd.Raylet.WatchNodes

/-! When the watch loop drops its resume token. An `OUT_OF_RANGE` inside a stream
does it; one that answers the subscription itself does not, and the same token is
tried and refused again. -/
namespace Rayd.Raylet.Watch
open Memory Gcs Threads Transition

/-- The service says that the token is of no use, in either of its two ways. -/
def Event.outOfRange : Event → Bool
  | .rejected _ status | .lagged status => status.code == .outOfRange
  | _ => false

/-- A subscription is checked while the replay buffer has everything above its token. -/
def Kept (s : Cluster) : Event → Prop
  | .checked _ | .rejected _ _ =>
    s.token = 0 ∨ ∀ oldest, s.registry.oldestBufferedSequence = some oldest → oldest ≤ s.token + 1
  | _ => True

theorem kept_not_rejected {s t : Cluster} (step : Guarded Kept Step s (.rejected token status) t) :
    False := by
  obtain ⟨kept, step⟩ := step
  cases step with
  | reject _ refused =>
    simp only [Registry.checkFloor] at refused
    split at refused
    · cases refused
    · rename_i nonzero
      split at refused
      · rename_i oldest found
        split at refused
        · rename_i low
          have high := kept.resolve_left nonzero oldest found
          omega
        · cases refused
      · cases refused

/-- Between an `OUT_OF_RANGE` and the next subscription the loop has no token and no
stream. -/
def Dropped (s : Cluster) : Prop :=
  s.token = 0 ∧ (s.watcher.phase = .connecting ∨ s.watcher.phase = .sleeping ∨ s.watcher.phase = .stopped)

theorem dropped_lagged {s t : Cluster} (step : Step s (.lagged status) t) : Dropped t := by
  cases step with
  | lag => exact ⟨rfl, .inl rfl⟩

theorem dropped_step {s t : Cluster} (dropped : Dropped s) (step : Step s event t)
    (waits : ∀ token, event ≠ .subscribed token) : Dropped t := by
  obtain ⟨zero, phase⟩ := dropped
  cases step with
  | gcs => exact ⟨zero, phase⟩
  | restart =>
    refine ⟨?_, ?_⟩ <;>
      rcases phase with phase | phase | phase <;>
      simp only [Cluster.token, Watcher.disconnect, phase] <;> first | exact zero | simp
  | subscribe => exact absurd rfl (waits _)
  | unreachable => exact ⟨zero, .inr (.inl rfl)⟩
  | wake => exact ⟨zero, .inl rfl⟩
  | shutdown => exact ⟨zero, .inr (.inr rfl)⟩
  | fail => exact ⟨zero, .inr (.inl rfl)⟩
  | finish => exact ⟨zero, .inl rfl⟩
  | reject => exact ⟨zero, .inr (.inl rfl)⟩
  | lag => exact ⟨rfl, .inl rfl⟩
  | check here | openStream here | receive here | skip here =>
    rcases phase with phase | phase | phase <;> cases phase.symm.trans here

/-- In runs that check every subscription in time, the first subscription after an
`OUT_OF_RANGE` carries no token, and no token is refused by two subscriptions in a
row. -/
theorem kept_token_reset {session : Id 16}
    (run : Run (Guarded Kept Step) (.start session) path s) :
    (∀ before event between token, path = before ++ event :: (between ++ [.subscribed token]) →
      event.outOfRange = true → (∀ other, .subscribed other ∉ between) → token = 0) ∧
    (∀ before token first between second after, first.code = .outOfRange → second.code = .outOfRange →
      path ≠ before ++ .rejected token first :: (between ++ .rejected token second :: after)) := by
  constructor
  · rintro before event between token rfl answered waiting
    obtain ⟨t, u, _, here, rest⟩ := run.split
    obtain ⟨v, w, middle, last, _⟩ := rest.split
    have dropped : Dropped u := by
      cases event with
      | rejected => exact (kept_not_rejected here).elim
      | lagged => exact dropped_lagged here.2
      | _ => cases answered
    have still : Dropped v := middle.along (fun member dropped step =>
      dropped_step dropped step.2 fun other same => waiting other (same ▸ member)) dropped
    cases last.2 with
    | subscribe => exact still.1
  · rintro before token first between second after _ _ rfl
    obtain ⟨t, u, _, here, _⟩ := run.split
    exact kept_not_rejected here

section Samples

def sampleNode : NodeId := .nil 16

/-- The service publishes; the loop does not move. -/
structure Published (log : List NodeEvent) (watcher : Watcher) (s : Cluster) : Prop where
  serial : Serial s.registry log
  known : (s.registry.nodes.lookup sampleNode).isSome = true
  free : (s.server.threads 0).finished = true
  same : s.watcher = watcher

theorem drain_once (published : Published log watcher s) :
    ∃ path t event, Run (Guarded Kept Step) s path t ∧ Published (log ++ [event]) watcher t := by
  obtain ⟨info, found⟩ := Option.isSome_iff_exists.mp published.known
  have drained : s.registry.drain sampleNode.bytes = .ok ({ info with status := .draining },
      { s.registry with nodes := s.registry.nodes.insert sampleNode { info with status := .draining } }) := by
    simp only [Registry.drain, parseNodeId, parseId_bytes, bind, Except.bind, found]
  have run : Run (Guarded Kept Step) s [] _ := .refl
  have run := run.next (a := Event.gcs 0 (.drain sampleNode.bytes))
    ⟨trivial, .gcs (.act (.drain published.free drained))⟩
  have run := run.trans (publish_run (fun step => ⟨trivial, step⟩) (Pool.set_self ..))
  refine ⟨_, _, _, run, (published.serial.withNodes _).publish _, ?_, rfl, published.same⟩
  exact congrArg Option.isSome (FiniteMap.lookup_insert_self _ _ _)

theorem drain_many (count : Nat) (published : Published log watcher s) :
    ∃ path t events, Run (Guarded Kept Step) s path t ∧ Published (log ++ events) watcher t ∧
      events.length = count := by
  induction count with
  | zero => exact ⟨[], s, [], .refl, by rwa [List.append_nil], rfl⟩
  | succ count ih =>
    obtain ⟨path, t, events, run, between, size⟩ := ih
    obtain ⟨more, u, event, last, after⟩ := drain_once between
    refine ⟨path ++ more, u, events ++ [event], run.trans last, ?_, ?_⟩
    · rwa [← List.append_assoc]
    · rw [List.length_append, size, List.length_singleton]

/-- The loop subscribes afresh and sees the first event of the session. -/
theorem first_event_seen :
    ∃ path s event, Run (Guarded Kept Step) (.start (.nil 16)) path s ∧
      Published [event] ⟨1, initialBackoffMs, .streaming ⟨[], 0, 1⟩⟩ s := by
  have run : Run (Guarded Kept Step) (.start (.nil 16)) [] _ := .refl
  have run := run.next (a := Event.subscribed 0) ⟨trivial, .subscribe rfl⟩
  have run := run.next (a := Event.checked 0) ⟨.inl rfl, .check rfl rfl⟩
  have run := run.next (a := Event.opened 0 0) ⟨trivial, .openStream rfl⟩
  have run := run.next (a := Event.gcs 0 (.register sampleRequest sampleNode 0))
    ⟨trivial, .gcs (.act (.register rfl rfl))⟩
  have run := run.trans (publish_run (fun step => ⟨trivial, step⟩) (Pool.set_self ..))
  have run := run.next (a := Event.received _)
    ⟨trivial, .receive rfl (Stream.next_live rfl (by decide) rfl (by decide))⟩
  exact ⟨_, _, _, run, ((Serial.new (.nil 16)).withNodes _).publish _, rfl, rfl, rfl⟩

/-- A subscriber that falls 257 events behind is reset and starts over. -/
theorem lagging_loop_reset :
    ∃ path s before status, Run (Guarded Kept Step) (.start (.nil 16)) path s ∧
      path = before ++ .lagged status :: ([] ++ [.subscribed s.token]) ∧ s.token = 0 := by
  obtain ⟨path, s, event, run, seen⟩ := first_event_seen
  obtain ⟨more, t, events, later, published, size⟩ := drain_many 257 seen
  have phase : t.watcher.phase = .streaming ⟨[], 0, 1⟩ := by rw [published.same]
  have behind : broadcastChannelCapacity < t.registry.sent.length - 1 := by
    simp [published.serial.sent, broadcastChannelCapacity, size]
  have run := (run.trans later).next (a := Event.lagged Stream.lagged)
    ⟨trivial, .lag phase (Stream.next_lagged rfl behind)⟩
  have run := run.next (a := Event.subscribed 0) ⟨trivial, .subscribe rfl⟩
  have split : path ++ more ++ [Event.lagged Stream.lagged] ++ [.subscribed 0] =
      (path ++ more) ++ .lagged Stream.lagged :: ([] ++ [.subscribed 0]) := by simp
  have reset := (kept_token_reset run).1 _ _ _ _ split rfl (by simp)
  exact ⟨_, _, _, _, run, split, reset⟩

/-- The stream ends and 1025 events are published before the loop is back: its token
is refused, and after the backoff it comes back with the same token. -/
theorem rejected_token_kept :
    ∃ path s before status, Run Step (.start (.nil 16)) path s ∧ status.code = .outOfRange ∧
      path = before ++ [.subscribed 1, .rejected 1 status, .woken, .subscribed 1, .rejected 1 status] := by
  obtain ⟨path, s, event, run, seen⟩ := first_event_seen
  have ended := run.next (a := Event.ended) ⟨trivial, .finish (.inl (congrArg Watcher.phase seen.same))⟩
  have away : Published [event] ⟨1, initialBackoffMs, .connecting⟩
      { s with watcher := s.watcher.cleanReset } :=
    ⟨seen.serial, seen.known, seen.free, by rw [seen.same]; rfl⟩
  obtain ⟨more, ⟨server, watcher, index, deaths⟩, events, later, published, size⟩ := drain_many 1025 away
  have refused : server.shared.checkFloor 1 = .error (Registry.belowFloor 1 3) := by
    have short : 1 ≤ 1 ∧ 1 ≤ ([event] ++ events).length := by simp
    have floor := published.serial.checkFloor_eq short
    simp only [List.length_append, List.length_singleton, size, replayBufferCapacity] at floor
    exact floor
  obtain rfl : watcher = ⟨1, initialBackoffMs, .connecting⟩ := published.same
  have run := (ended.trans later).mono fun step => step.2
  have run := run.next (a := Event.subscribed 1) (.subscribe rfl)
  have run := run.next (a := Event.rejected 1 (Registry.belowFloor 1 3)) (.reject rfl refused)
  have run := run.next (a := Event.woken) (.wake rfl)
  have run := run.next (a := Event.subscribed 1) (.subscribe rfl)
  have run := run.next (a := Event.rejected 1 (Registry.belowFloor 1 3)) (.reject rfl refused)
  exact ⟨_, _, path ++ [.ended] ++ more, Registry.belowFloor 1 3, run, rfl, by simp⟩

end Samples

end Rayd.Raylet.Watch
