import Rayd.Raylet.Resume

/-! The raylet's node index after a restart of the control service. The token of the
old session is worth nothing in the new one, but the service takes it for one of its
own. Where the loop comes with a token of the new session, with none, or before
anything was published, the index agrees with the table once the stream is read to
its end. -/
namespace Rayd.Raylet.Watch
open Gcs Threads Transition

/-- With these events to come, the index will show the last published state of every
node that is not about to be published again. -/
def Shows (pool : Pool Registry Handler) (index : NodeIndex) (log future : List NodeEvent) : Prop :=
  ∀ node event info, lastAbout node log = some event → event.node = some info →
    (parseNodeAddress info).isSome = true →
    Unpublished pool node ∨ (index.applyAll future).statusOf node = some info.status

namespace Shows
variable {pool next : Pool Registry Handler} {index : NodeIndex} {log future : List NodeEvent}

theorem step (shows : Shows pool index log future) (step : Threads.Step Own pool (thread, act) next) :
    Shows next index (log ++ pushes (pool.threads thread) act)
      (future ++ pushes (pool.threads thread) act) := by
  cases step with
  | @act _ _ shared phase own =>
    rcases own_unpublished own with ⟨pushed, rest, reply, here, rfl, newest⟩ | ⟨nothing, kept⟩
    · rw [newest]
      intro node event info last carried parsed
      rw [lastAbout_append] at last
      by_cases about : pushed.about? = some node
      · rw [if_pos about] at last
        cases last
        refine .inr (index.statusOf_applyAll ?_ carried parsed)
        rw [lastAbout_append, if_pos about]
      · rw [if_neg about] at last
        rw [index.statusOf_applyAll_other future about]
        refine (shows node event info last carried parsed).imp_left ?_
        rintro ⟨other, shown, member, named⟩
        by_cases same : other = thread
        · rw [same, here] at member
          rcases List.mem_append.mp member with now | later
          · refine absurd ?_ about
            rw [NodeEvent.about?, Option.mem_toList.mp now]
            exact named
          · exact ⟨thread, shown, by rw [Pool.set_self]; exact later, named⟩
        · exact ⟨other, shown, by rwa [Pool.set_ne _ same], named⟩
    · rw [nothing, List.append_nil, List.append_nil]
      intro node event info last carried parsed
      refine (shows node event info last carried parsed).imp_left ?_
      rintro ⟨other, shown, member, named⟩
      by_cases same : other = thread
      · exact ⟨thread, shown, by rw [Pool.set_self]; exact kept shown (same ▸ member), named⟩
      · exact ⟨other, shown, by rwa [Pool.set_ne _ same], named⟩

/-- A fresh stream: the live events decide, and where there is none the snapshot has
the table's state. -/
theorem fresh (ordered : Ordered pool log) (recorded : publishingView.assertions.Holds pool)
    (settled : ∀ node, publishingView.Settled pool node) (index : NodeIndex) (position : Nat) :
    Shows pool index log ((pool.shared.openStream 0 position).due log) := by
  intro node event info last carried parsed
  by_cases published : Unpublished pool node
  · exact .inl published
  · right
    have table := entered_of_last ordered recorded (settled node) published last carried
    obtain ⟨found, lookup, face⟩ := Option.map_eq_some_iff.mp table
    have due : (pool.shared.openStream 0 position).due log =
        pool.shared.snapshotAsEvents ++ log.drop position := by
      rw [Stream.due, (openStream_fresh pool.shared position).1, ordered.numbered.filter_drop,
        Nat.max_eq_left (Nat.zero_le _)]
      rfl
    rw [due]
    cases live : lastAbout node (log.drop position) with
    | some newest =>
      have same : lastAbout node log = some newest := by
        rw [← List.take_append_drop position log, lastAbout_join, live]
        rfl
      cases same.symm.trans last
      exact index.statusOf_applyAll (by rw [lastAbout_join, live]; rfl) carried parsed
    | none =>
      have shown : ∀ other ∈ pool.shared.snapshotAsEvents, other.about? = some node →
          other = ⟨0, some found⟩ := by
        intro other member about
        obtain ⟨entry, inside, rfl⟩ := List.mem_map.mp member
        obtain ⟨id, there⟩ := Registry.mem_snapshot.mp inside
        cases (recorded.1 id entry there).symm.trans about
        cases there.symm.trans lookup
        rfl
      have newest : lastAbout node pool.shared.snapshotAsEvents = some ⟨0, some found⟩ := by
        cases latest : lastAbout node pool.shared.snapshotAsEvents with
        | none =>
          have member : (⟨0, some found⟩ : NodeEvent) ∈ pool.shared.snapshotAsEvents :=
            List.mem_map.mpr ⟨found, Registry.mem_snapshot.mpr ⟨node, lookup⟩, rfl⟩
          exact absurd (recorded.1 node found lookup) (lastAbout_eq_none latest member)
        | some other =>
          obtain ⟨member, about⟩ := mem_of_lastAbout latest
          rw [shown other member about]
      have status : found.status = info.status := congrArg Prod.snd face
      have address : found.address = info.address := congrArg Prod.fst face
      rw [← status]
      refine index.statusOf_applyAll (by rw [lastAbout_join, live, newest]; rfl) rfl ?_
      rwa [parseNodeAddress, address]

end Shows

/-- The token is the number of an event that came from this session. -/
def Issued (history : List Event) (token : Nat) : Prop :=
  token ≠ 0 ∧ ∃ event, .received event ∈ history ∧ event.sequence = token

/-- What is asked of a session besides the order of its publishes: no handler writes
a node that another still has to publish, and a stream is opened with no token, with
one of this session, or before anything was published in it. -/
def InSession (s : List Event × Cluster) : Event → Prop
  | .gcs thread act => Unopposed Lets s.2.server (thread, act)
  | .opened token _ => token = 0 ∨ Issued s.1 token ∨ s.2.registry.nextSequence = 1
  | .restarted _ => False
  | _ => True

def Coherent (s : List Event × Cluster) (event : Event) : Prop := Orderly s.2 event ∧ InSession s event

/-- A place a stream has come to in the log; with a token of this session it is the
token's. -/
def Aligned (history : List Event) (token place : Nat) : Prop := Issued history token → place = token

def Resumable (history : List Event) (token : Nat) (pool : Pool Registry Handler) (index : NodeIndex)
    (log : List NodeEvent) : Prop :=
  Issued history token → Shows pool index log (log.drop token)

def Follows (history : List Event) (token : Nat) (pool : Pool Registry Handler) (index : NodeIndex)
    (log : List NodeEvent) : WatchPhase → Prop
  | .connecting | .sleeping | .lost _ => Resumable history token pool index log
  | .subscribed position | .checked position => Resumable history token pool index log ∧
      position ≤ pool.shared.sent.length ∧ (Issued history token → token ≤ position)
  | .streaming stream => stream.position ≤ pool.shared.sent.length ∧ stream.highest ≤ log.length ∧
      Flow (Aligned history token) token log stream ∧ Shows pool index log (stream.due log)
  | .stopped => True

theorem Issued.append (issued : Issued (history ++ [label]) token)
    (quiet : ∀ event, label ≠ .received event) :
    Issued history token := by
  obtain ⟨known, event, member, same⟩ := issued
  rcases List.mem_append.mp member with before | here
  · exact ⟨known, event, before, same⟩
  · exact absurd (List.mem_singleton.mp here).symm (quiet event)

theorem Issued.receive {event : NodeEvent} (issued : Issued (history ++ [.received event]) token)
    (other : event.sequence ≠ token) : Issued history token := by
  obtain ⟨known, held, member, same⟩ := issued
  rcases List.mem_append.mp member with before | here
  · exact ⟨known, held, before, same⟩
  · cases List.mem_singleton.mp here
    exact absurd same other

structure Synced (history : List Event) (s : Cluster) (log : List NodeEvent) : Prop where
  ordered : Ordered s.server log
  recorded : publishingView.assertions.Holds s.server
  settled : ∀ node, publishingView.Settled s.server node
  received : ∀ event, .received event ∈ history → event.sequence ≤ log.length
  follows : Follows history s.token s.server s.index log s.watcher.phase

namespace Synced
variable {history : List Event} {s t : Cluster} {log : List NodeEvent}

theorem issued_le (synced : Synced history s log) (issued : Issued history token) : token ≤ log.length := by
  obtain ⟨_, event, member, rfl⟩ := issued
  exact synced.received event member

theorem restart (step : Step s (.restarted session) t) : Synced [] t [] := by
  cases step with
  | restart =>
    refine ⟨.new session, ⟨?_, ?_⟩, fun node => .inl rfl, fun _ member => (by cases member), ?_⟩
    · intro id info found
      cases found
    · intro thread w member
      cases member
    · have nothing : ∀ token index pool, Resumable [] token pool index [] := by
        rintro token index pool ⟨_, event, member, _⟩
        cases member
      cases phase : s.watcher.phase <;> simp only [Watcher.disconnect, phase, Follows] <;> exact nothing _ _ _

theorem moved (synced : Synced history s log) (server : t.server = s.server) (index : t.index = s.index)
    (quiet : ∀ event, label ≠ .received event)
    (follows : Follows (history ++ [label]) t.token s.server s.index log t.watcher.phase) :
    Synced (history ++ [label]) t log := by
  refine ⟨?_, ?_, ?_, fun event member => ?_, ?_⟩
  · rw [server]; exact synced.ordered
  · rw [server]; exact synced.recorded
  · rw [server]; exact synced.settled
  · rcases List.mem_append.mp member with before | here
    · exact synced.received event before
    · exact absurd (List.mem_singleton.mp here).symm (quiet event)
  · rw [server, index]
    exact follows

theorem gcs (synced : Synced history s log) (orderly : Unopposed InOrder s.server (thread, act))
    (unopposed : Unopposed Lets s.server (thread, act)) (step : Threads.Step Own s.server (thread, act) server) :
    Synced (history ++ [.gcs thread act]) { s with server } (log ++ pushes (s.server.threads thread) act) := by
  have ordered := synced.ordered.step ⟨orderly, step⟩
  have longer : s.server.shared.sent.length ≤ server.shared.sent.length := by
    cases step with
    | act own => exact Ordered.own_sent_le own
  have quiet : ∀ event, Event.gcs thread act ≠ .received event := fun _ same => by cases same
  refine ⟨ordered, publishingView.assertions.step synced.recorded ⟨Lets.view unopposed, step⟩,
    publishingView.settled_step synced.recorded synced.settled step, fun event member => ?_, ?_⟩
  · rw [List.length_append]
    rcases List.mem_append.mp member with before | here
    · exact Nat.le_add_right_of_le (synced.received event before)
    · exact absurd (List.mem_singleton.mp here).symm (quiet event)
  · have resumes : Resumable history s.token s.server s.index log →
        Resumable (history ++ [.gcs thread act]) s.token server s.index
          (log ++ pushes (s.server.threads thread) act) := by
      intro resumable issued
      have issued := issued.append quiet
      rw [List.drop_append_of_le_length (synced.issued_le issued)]
      exact (resumable issued).step step
    have follows := synced.follows
    cases phase : s.watcher.phase with
    | connecting | sleeping | lost => rw [phase] at follows; exact resumes follows
    | subscribed | checked =>
      rw [phase] at follows
      exact ⟨resumes follows.1, follows.2.1.trans longer, fun issued => follows.2.2 (issued.append quiet)⟩
    | streaming stream =>
      rw [phase] at follows
      obtain ⟨inside, high, flow, shows⟩ := follows
      have within := inside.trans synced.ordered.sent_le
      refine ⟨inside.trans longer, ?_, ?_, ?_⟩
      · rw [List.length_append]
        exact Nat.le_add_right_of_le high
      · exact flow.grow within high ordered.numbered fun place _ aligned issued =>
          aligned (issued.append quiet)
      · rw [Stream.due_append within]
        · exact shows.step step
        · exact fun event member => Nat.lt_of_le_of_lt high (ordered.numbered.lt_of_append member)
    | stopped => trivial

/-- A stream that is left with a token of this session has shown all up to it. -/
theorem leaves (synced : Synced history s log)
    (open_ : s.watcher.phase = .streaming stream ∨ s.watcher.phase = .lost true) :
    Resumable history s.token s.server s.index log := by
  intro issued
  have follows := synced.follows
  rcases open_ with here | here
  · rw [here] at follows
    obtain ⟨_, _, flow, shows⟩ := follows
    cases flow with
    | contiguous place due _ aligned =>
      rw [due, aligned issued] at shows
      exact shows
    | snapshot fresh => exact absurd fresh issued.1
  · rw [here] at follows
    exact follows issued

theorem opens (synced : Synced history s log) (here : s.watcher.phase = .checked position) (recent : Recent s)
    (token : s.token = 0 ∨ Issued history s.token ∨ s.registry.nextSequence = 1) :
    Synced (history ++ [.opened s.token position])
      (s.move (.streaming (s.registry.openStream s.token position))) log := by
  have follows := synced.follows
  rw [here] at follows
  obtain ⟨resumable, inside, low⟩ := follows
  have within := inside.trans synced.ordered.sent_le
  have quiet : ∀ event, Event.opened s.token position ≠ .received event := fun _ same => by cases same
  refine synced.moved rfl rfl quiet ⟨inside, ?_⟩
  by_cases fresh : s.token = 0
  · obtain ⟨start, zero⟩ := openStream_fresh s.registry position
    rw [fresh]
    refine ⟨by rw [start]; exact Nat.zero_le _, .snapshot fresh start zero ?_, ?_⟩
    · exact fun issued => absurd fresh issued.1
    · exact .fresh synced.ordered synced.recorded synced.settled s.index position
  · have below := synced.ordered.below
    have kept : s.server.shared.nextSequence ≤ _ := recent.resolve_left fresh
    obtain ⟨high, due⟩ := synced.ordered.due_openStream (Nat.one_le_iff_ne_zero.mpr fresh)
      (by omega) within
    refine ⟨high, ?_⟩
    by_cases issued : Issued history s.token
    · have same : (if s.token < log.length then s.token else position) = s.token := by
        split
        · rfl
        · have := synced.issued_le issued
          have := low issued
          omega
      rw [same] at due
      exact ⟨.contiguous s.token due (synced.issued_le issued) fun _ => rfl, due ▸ resumable issued⟩
    · -- nothing has been published, so there is nothing to show
      have empty : log = [] := by
        have first : s.server.shared.nextSequence = 1 := (token.resolve_left fresh).resolve_left issued
        exact List.eq_nil_of_length_eq_zero (by omega)
      subst empty
      refine ⟨.contiguous 0 (due.trans (by simp)) (Nat.le_refl _) fun later => ?_, fun node event info last => ?_⟩
      · exact absurd (later.append quiet) issued
      · cases last

theorem receives (synced : Synced history s log) (here : s.watcher.phase = .streaming stream)
    (turn : stream.next s.registry = some (some (.event event), after)) :
    Synced (history ++ [.received event]) (s.consume event after) log := by
  obtain ⟨rest, sent⟩ := synced.ordered.sent
  have follows := synced.follows
  rw [here] at follows
  obtain ⟨inside, high, flow, shows⟩ := follows
  obtain ⟨same, within⟩ := Stream.next_frame turn inside
  obtain ⟨flow, low⟩ := flow.receive (Aligned (history ++ [.received event]) (max s.token event.sequence))
    turn synced.ordered.numbered sent (inside.trans synced.ordered.sent_le)
    (fun place _ number aligned issued => by
      by_cases newest : s.token ≤ event.sequence
      · omega
      · have place' := aligned (by
          rw [Nat.max_eq_left (by omega)] at issued
          exact issued.receive (by omega))
        omega)
    (fun place number aligned issued => by
      rw [number, Nat.max_eq_left (Nat.zero_le _)] at issued ⊢
      exact aligned (issued.receive fun zero => issued.1 (zero.symm.trans number)))
  obtain ⟨deaths, consumed⟩ := s.consume_eq event after
  rw [consumed]
  refine ⟨synced.ordered, synced.recorded, synced.settled, fun other member => ?_, within, same ▸ high, flow, ?_⟩
  · rcases List.mem_append.mp member with before | now
    · exact synced.received other before
    · cases List.mem_singleton.mp now
      exact low
  · rcases Stream.due_next turn sent with failed | ⟨_, equal, first⟩ | ⟨none, _⟩
    · cases failed
    · cases equal
      rw [first] at shows
      exact shows
    · cases none

theorem step (synced : Synced history s log) (allowed : Coherent (history, s) label) (step : Step s label t) :
    ∃ log, Synced (history ++ [label]) t log := by
  obtain ⟨orderly, session⟩ := allowed
  have follows := synced.follows
  have later : (∀ event, label ≠ .received event) → Resumable history s.token s.server s.index log →
      Resumable (history ++ [label]) s.token s.server s.index log :=
    fun quiet resumable issued => resumable (issued.append quiet)
  cases step with
  | gcs step => exact ⟨_, synced.gcs orderly session step⟩
  | restart => exact session.elim
  | subscribe here =>
    rw [here] at follows
    refine ⟨log, synced.moved rfl rfl (by simp) ⟨later (by simp) follows, Nat.le_refl _, fun issued => ?_⟩⟩
    exact synced.ordered.le_sent (synced.issued_le (issued.append (by simp))) orderly
  | check here =>
    rw [here] at follows
    exact ⟨log, synced.moved rfl rfl (by simp)
      ⟨later (by simp) follows.1, follows.2.1, fun issued => follows.2.2 (issued.append (by simp))⟩⟩
  | reject here =>
    rw [here] at follows
    exact ⟨log, synced.moved rfl rfl (by simp) (later (by simp) follows.1)⟩
  | openStream here => exact ⟨log, synced.opens here orderly session⟩
  | receive here turn => exact ⟨log, synced.receives here turn⟩
  | skip here turn =>
    obtain ⟨rest, sent⟩ := synced.ordered.sent
    rw [here] at follows
    obtain ⟨inside, high, flow, shows⟩ := follows
    obtain ⟨same, within⟩ := Stream.next_frame turn inside
    refine ⟨log, synced.moved rfl rfl (by simp) ⟨within, same ▸ high, ?_, ?_⟩⟩
    · exact flow.skip turn synced.ordered.numbered sent (inside.trans synced.ordered.sent_le)
        fun place aligned issued => aligned (issued.append (by simp))
    · rcases Stream.due_next turn sent with failed | ⟨_, equal, _⟩ | ⟨_, kept⟩
      · cases failed
      · cases equal
      · exact kept ▸ shows
  | lag => exact ⟨log, synced.moved rfl rfl (by simp) fun issued => absurd rfl issued.1⟩
  | finish here => exact ⟨log, synced.moved rfl rfl (by simp) (later (by simp) (synced.leaves here))⟩
  | fail here => exact ⟨log, synced.moved rfl rfl (by simp) (later (by simp) (synced.leaves here))⟩
  | unreachable here =>
    refine ⟨log, synced.moved rfl rfl (by simp) (later (by simp) ?_)⟩
    rcases here with here | here | here | here
    · rw [here] at follows
      exact follows
    · rw [here] at follows
      exact follows.1
    · rw [here] at follows
      exact follows.1
    · rw [here] at follows
      exact follows
  | wake here =>
    rw [here] at follows
    exact ⟨log, synced.moved rfl rfl (by simp) (later (by simp) follows)⟩
  | shutdown => exact ⟨log, synced.moved rfl rfl (by simp) trivial⟩

theorem run (again : Step s (.restarted session) u)
    (run : Run (Guarded Coherent (Recorded Step)) ([], u) path (history, t)) :
    ∃ log, Synced history t log := by
  refine run.invariant (P := fun t => ∃ log, Synced t.1 t.2 log) ?_ ⟨[], .restart again⟩
  rintro ⟨history, t⟩ label ⟨_, v⟩ ⟨log, synced⟩ ⟨allowed, rfl, step⟩
  exact synced.step allowed step

end Synced

/-- From any state of the loop, in a session that is coherent since the restart: once
the open stream is read to its end and the handlers have returned, the index has
every registered node with its status, if its address can be parsed. -/
theorem reconnected_index_agrees {s u : Cluster} (node : NodeId) (again : Step s (.restarted session) u)
    (run : Run (Guarded Coherent (Recorded Step)) ([], u) path (history, t))
    (here : t.watcher.phase = .streaming stream) (consumed : stream.pending t.registry = [])
    (returned : ∀ thread, (t.server.threads thread).finished = true)
    (found : t.registry.nodes.lookup node = some info)
    (parsed : (parseNodeAddress info).isSome = true) : t.index.statusOf node = some info.status := by
  obtain ⟨log, synced⟩ := Synced.run again run
  have follows := synced.follows
  rw [here] at follows
  have sent : t.server.shared.sent = log := synced.ordered.sent_of_returned fun thread =>
    Handler.unsent_of_finished (returned thread)
  obtain ⟨event, visible, last, carried, face⟩ := shown_of_settled (synced.settled node) returned found
  have status : visible.status = info.status := congrArg Prod.snd face
  have address : visible.address = info.address := congrArg Prod.fst face
  rw [← status]
  have shows := follows.2.2.2 node event visible (sent ▸ last) carried (by rwa [parseNodeAddress, address])
  have drained : stream.due log = [] := sent ▸ consumed
  rw [drained] at shows
  refine shows.resolve_left ?_
  rintro ⟨thread, pending, member, _⟩
  rw [unpublished_of_finished (returned thread)] at member
  cases member

section Samples

theorem coherent_next {s : List Event × Cluster} {a : Act}
    (run : Run (Guarded Coherent (Recorded Step)) start path s) (only : s.2.server.Only .idle)
    (own : Own s.2.registry (s.2.server.threads 0) a shared phase) :
    Run (Guarded Coherent (Recorded Step)) start (path ++ [.gcs 0 a])
      (s.1 ++ [.gcs 0 a], { s.2 with server := s.2.server.set 0 shared phase }) ∧
      (s.2.server.set 0 shared phase).Only .idle := by
  refine ⟨run.record ⟨only.unopposed idle_inOrder a, fun other different node _ owes => ?_⟩ (.gcs (.act own)),
    only.set shared phase⟩
  obtain ⟨info, pending, _⟩ := owes
  rw [only other different] at pending
  cases pending

/-- A loop with a token from somewhere. -/
def sampleCluster : Cluster :=
  ⟨(Cluster.start (.nil 16)).server, ⟨1, initialBackoffMs, .connecting⟩, .empty, []⟩

/-- The loop comes back with an old token before the first node registers. -/
theorem early_loop_agrees :
    ∃ path history t, Step sampleCluster (.restarted (.nil 16)) sampleCluster ∧
      Run (Guarded Coherent (Recorded Step)) ([], sampleCluster) path (history, t) ∧
      t.index.statusOf (.nil 16) = some .alive := by
  have again : Step sampleCluster (.restarted (.nil 16)) sampleCluster := .restart
  have run : Run (Guarded Coherent (Recorded Step)) ([], sampleCluster) [] _ := .refl
  have run := run.record (a := Event.subscribed 1) ⟨fun _ _ _ _ here => (by cases here), trivial⟩
    (.subscribe rfl)
  have run := run.record (a := Event.checked 1) ⟨trivial, trivial⟩ (.check rfl rfl)
  have run := run.record (a := Event.opened 1 0) ⟨.inr (by decide), .inr (.inr rfl)⟩ (.openStream rfl)
  have only : sampleCluster.server.Only .idle := fun _ _ => rfl
  obtain ⟨run, only⟩ := coherent_next run only (a := .register sampleRequest (.nil 16) 0) (.register rfl rfl)
  obtain ⟨run, only⟩ := coherent_next run only (.takeSequence rfl)
  obtain ⟨run, only⟩ := coherent_next run only (.pushReplay rfl)
  obtain ⟨run, only⟩ := coherent_next run only (.broadcast rfl)
  have run := run.record (a := Event.received _) ⟨trivial, trivial⟩
    (.receive rfl (Stream.next_live rfl (by decide) rfl (by decide)))
  have returned := only.all (f := (·.finished = true)) rfl rfl
  have agrees := reconnected_index_agrees (.nil 16) again run rfl rfl returned rfl rfl
  exact ⟨_, _, _, again, run, agrees⟩

def oldNode : NodeId := ⟨List.replicate 16 2, List.length_replicate⟩

/-- The loop has seen the first event of the old session. The first node of the new
one has the same number, and the loop never hears of it. -/
theorem old_token_hides_node :
    ∃ path s stream info, Run Step (.start (.nil 16)) path s ∧ .restarted (.nil 16) ∈ path ∧
      s.watcher.phase = .streaming stream ∧ stream.pending s.registry = [] ∧
      (∀ thread, (s.server.threads thread).finished = true) ∧
      s.registry.nodes.lookup (.nil 16) = some info ∧ (parseNodeAddress info).isSome = true ∧
      s.index.statusOf (.nil 16) = none := by
  have run : Run Step (.start (.nil 16)) [] _ := .refl
  have run := run.next (a := Event.subscribed 0) (.subscribe rfl)
  have run := run.next (a := Event.checked 0) (.check rfl rfl)
  have run := run.next (a := Event.opened 0 0) (.openStream rfl)
  have run := run.next (a := Event.gcs 0 (.register sampleRequest oldNode 0))
    (.gcs (.act (.register rfl rfl)))
  have run := run.trans (publish_run (fun step => step) (Pool.set_self ..))
  have run := run.next (a := Event.received _)
    (.receive rfl (Stream.next_live rfl (by decide) rfl (by decide)))
  have run := run.next (a := Event.ended) (.finish (.inl rfl))
  have run := run.next (a := Event.restarted (.nil 16)) .restart
  have run := run.next (a := Event.gcs 0 (.register sampleRequest (.nil 16) 0))
    (.gcs (.act (.register rfl rfl)))
  have run := run.trans (publish_run (fun step => step) (Pool.set_self ..))
  have run := run.next (a := Event.subscribed 1) (.subscribe rfl)
  have run := run.next (a := Event.checked 1) (.check rfl rfl)
  have run := run.next (a := Event.opened 1 1) (.openStream rfl)
  refine ⟨_, _, _, _, run, by simp, rfl, rfl, fun thread => ?_, rfl, rfl, rfl⟩
  by_cases same : thread = 0
  · subst same
    rfl
  · simp only [Cluster.move, Pool.set_ne _ same]
    rfl

end Samples

end Rayd.Raylet.Watch
