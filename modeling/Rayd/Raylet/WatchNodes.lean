import Rayd.Gcs.Publishing
import Rayd.Gcs.WatchNodes

/-! The raylet's `WatchNodes` loop against the control service. The loop keeps one
resume token; a subscription that fails is tried again with the token it had, and
only an `OUT_OF_RANGE` inside an open stream drops it. The service's handlers run as
threads, a `watch_nodes` call takes three steps there, and the service may restart
with a new session at any time. -/
namespace Rayd.Raylet.Watch
open Memory Gcs Threads Transition

def initialBackoffMs : Nat := 200

def maxBackoffMs : Nat := 10000

inductive WatchPhase where
  | connecting
  /-- In the handler: subscribed to the channel, then past the floor of the buffer. -/
  | subscribed (position : Nat)
  | checked (position : Nat)
  | streaming (stream : Stream)
  /-- The service went away, with the stream open or before that. -/
  | lost (streaming : Bool)
  | sleeping
  | stopped

structure Watcher where
  lastSeenSequence : Nat
  backoffMs : Nat
  phase : WatchPhase

namespace Watcher

def start : Watcher := ⟨0, initialBackoffMs, .connecting⟩

/-- Wait, then try again with the same token. -/
def retry (watcher : Watcher) : Watcher := { watcher with phase := .sleeping }

def wake (watcher : Watcher) : Watcher :=
  { watcher with backoffMs := min (watcher.backoffMs * 2) maxBackoffMs, phase := .connecting }

/-- `StreamOutcome::CleanReset`. -/
def cleanReset (watcher : Watcher) : Watcher :=
  { watcher with backoffMs := initialBackoffMs, phase := .connecting }

/-- `StreamOutcome::ResetResume`. -/
def resetResume (watcher : Watcher) : Watcher := ⟨0, initialBackoffMs, .connecting⟩

def disconnect (watcher : Watcher) : Watcher :=
  match watcher.phase with
  | .subscribed _ | .checked _ => { watcher with phase := .lost false }
  | .streaming _ => { watcher with phase := .lost true }
  | _ => watcher

end Watcher

structure Cluster where
  server : Pool Registry Handler
  watcher : Watcher
  index : NodeIndex
  /-- The calls of `on_owner_died`, oldest first. -/
  deaths : List NodeId

namespace Cluster

def start (session : Id 16) : Cluster := ⟨⟨.new session, fun _ => .idle⟩, .start, .empty, []⟩

def registry (s : Cluster) : Registry := s.server.shared

def token (s : Cluster) : Nat := s.watcher.lastSeenSequence

def move (s : Cluster) (phase : WatchPhase) : Cluster := { s with watcher := { s.watcher with phase } }

/-- The node an event reports as gone for the first time. -/
def died? (info : NodeInfo) : StatusTransition → Option NodeId
  | .inserted .dead | .changed _ .dead => info.about?
  | _ => none

/-- What `consume_stream` does with one event. -/
def consume (s : Cluster) (event : NodeEvent) (stream : Stream) : Cluster :=
  let watcher := { s.watcher with
    lastSeenSequence := max s.watcher.lastSeenSequence event.sequence, phase := .streaming stream }
  match event.node with
  | none => { s with watcher }
  | some info =>
    let (transition, index) := s.index.applyEvent info
    { s with watcher, index, deaths := s.deaths ++ (died? info transition).toList }

theorem consume_eq (s : Cluster) (event : NodeEvent) (stream : Stream) :
    ∃ deaths, s.consume event stream = ⟨s.server,
      ⟨max s.token event.sequence, s.watcher.backoffMs, .streaming stream⟩, s.index.applyAll [event], deaths⟩ := by
  obtain ⟨sequence, node⟩ := event
  cases node <;> exact ⟨_, rfl⟩

end Cluster

inductive Event where
  | gcs (thread : Nat) (act : Act)
  | restarted (session : Id 16)
  | subscribed (token : Nat)
  | checked (token : Nat)
  | rejected (token : Nat) (status : Status)
  | opened (token position : Nat)
  | received (event : NodeEvent)
  | skipped
  | lagged (status : Status)
  | ended
  | broken
  | unreachable
  | woken
  | shutdown

inductive Step (s : Cluster) : Event → Cluster → Prop where
  | gcs : Threads.Step Own s.server (thread, act) server → Step s (.gcs thread act) { s with server }
  | restart : Step s (.restarted session)
      { s with server := ⟨.new session, fun _ => .idle⟩, watcher := s.watcher.disconnect }
  | subscribe : s.watcher.phase = .connecting →
      Step s (.subscribed s.token) (s.move (.subscribed s.registry.subscribe))
  | check : s.watcher.phase = .subscribed position → s.registry.checkFloor s.token = .ok () →
      Step s (.checked s.token) (s.move (.checked position))
  /-- The refusal reaches the loop as a failed subscription. -/
  | reject : s.watcher.phase = .subscribed position → s.registry.checkFloor s.token = .error status →
      Step s (.rejected s.token status) { s with watcher := s.watcher.retry }
  | openStream : s.watcher.phase = .checked position →
      Step s (.opened s.token position) (s.move (.streaming (s.registry.openStream s.token position)))
  | receive : s.watcher.phase = .streaming stream →
      stream.next s.registry = some (some (.event event), after) →
      Step s (.received event) (s.consume event after)
  | skip : s.watcher.phase = .streaming stream → stream.next s.registry = some (none, after) →
      Step s .skipped (s.move (.streaming after))
  | lag : s.watcher.phase = .streaming stream →
      stream.next s.registry = some (some (.failed status), after) →
      Step s (.lagged status) { s with watcher := s.watcher.resetResume }
  | finish : s.watcher.phase = .streaming stream ∨ s.watcher.phase = .lost true →
      Step s .ended { s with watcher := s.watcher.cleanReset }
  | fail : s.watcher.phase = .streaming stream ∨ s.watcher.phase = .lost true →
      Step s .broken { s with watcher := s.watcher.retry }
  | unreachable : (s.watcher.phase = .connecting ∨ s.watcher.phase = .subscribed position ∨
        s.watcher.phase = .checked position ∨ s.watcher.phase = .lost false) →
      Step s .unreachable { s with watcher := s.watcher.retry }
  | wake : s.watcher.phase = .sleeping → Step s .woken { s with watcher := s.watcher.wake }
  | shutdown : s.watcher.phase = .sleeping ∨ s.watcher.phase = .streaming stream →
      Step s .shutdown (s.move .stopped)

/-- A handler comes from its last node to its end without a pause: the three steps make
one publish. -/
theorem publish_run {R : Cluster → Event → Cluster → Prop} {s : Cluster} {node : NodeInfo}
    (goes : ∀ {s act t}, Step s (.gcs thread act) t → R s (.gcs thread act) t)
    (here : s.server.threads thread = .publishing [node] reply) :
    Run R s ([] ++ [.gcs thread .takeSequence] ++ [.gcs thread .pushReplay] ++ [.gcs thread .broadcast])
      { s with server := s.server.set thread (s.registry.publish node) (.publishing [] reply) } := by
  have run : Run R s [] _ := .refl
  have run := run.next (goes (.gcs (.act (.takeSequence here))))
  have run := run.next (goes (.gcs (.act (.pushReplay (Pool.set_self ..)))))
  have run := run.next (goes (.gcs (.act (.broadcast (Pool.set_self ..)))))
  rw [Pool.set_set, Pool.set_set] at run
  exact run

end Rayd.Raylet.Watch
