import Rayd.Lib.Deferred
import Rayd.Raylet.NodeIndex

/-! The registry's handlers as threads. A handler takes the table lock once; what it
changed there it publishes afterwards, one event at a time and every event in three
steps, so other handlers may come in between. Where no two handlers are busy with
one node at once, the last event about a node shows what the table has. -/
namespace Rayd.Gcs
open Memory Raylet Threads Transition

inductive Reply where
  | register (reply : RegisterReply)
  | drain
  | heartbeat
  | swept (flipped : Nat)

inductive Handler where
  | idle
  /-- The table lock is released; these are still to be published. -/
  | publishing (nodes : List NodeInfo) (reply : Reply)
  | numbered (event : NodeEvent) (rest : List NodeInfo) (reply : Reply)
  | buffered (event : NodeEvent) (rest : List NodeInfo) (reply : Reply)
  | refused (status : Status)

namespace Handler

def finished : Handler → Bool
  | .idle | .publishing [] _ | .refused _ => true
  | _ => false

/-- The events to come, as the nodes they are about. -/
def pending : Handler → List NodeInfo
  | .publishing nodes _ => nodes
  | .numbered event rest _ | .buffered event rest _ => event.node.toList ++ rest
  | _ => []

def announces (handler : Handler) (node : NodeId) : Prop :=
  ∃ info ∈ handler.pending, info.about? = some node

theorem finished_cases {handler : Handler} (finished : handler.finished = true) :
    handler = .idle ∨ (∃ status, handler = .refused status) ∨ ∃ reply, handler = .publishing [] reply := by
  cases handler with
  | idle => exact .inl rfl
  | refused status => exact .inr (.inl ⟨status, rfl⟩)
  | publishing nodes reply =>
    cases nodes with
    | nil => exact .inr (.inr ⟨reply, rfl⟩)
    | cons => cases finished
  | numbered | buffered => cases finished

end Handler

inductive Act where
  | register (request : RegisterRequest) (nodeId : NodeId) (nowMs : Nat)
  | drain (nodeId : Bytes)
  | heartbeat (nodeId : Bytes) (nowMs : Nat)
  | expireStale (deadlineMs : Nat)
  | takeSequence
  | pushReplay
  | broadcast

inductive Own (registry : Registry) (handler : Handler) : Act → Registry → Handler → Prop where
  | register : handler.finished = true → registry.register request nodeId nowMs = .ok (info, after) →
      Own registry handler (.register request nodeId nowMs) after
        (.publishing [info] (.register ⟨nodeId.bytes, registry.clusterSessionId.bytes⟩))
  | registerRefused : handler.finished = true → registry.register request nodeId nowMs = .error status →
      Own registry handler (.register request nodeId nowMs) registry (.refused status)
  | drain : handler.finished = true → registry.drain target = .ok (info, after) →
      Own registry handler (.drain target) after (.publishing [info] .drain)
  | drainRefused : handler.finished = true → registry.drain target = .error status →
      Own registry handler (.drain target) registry (.refused status)
  | heartbeat : handler.finished = true → registry.heartbeat target nowMs = .ok after →
      Own registry handler (.heartbeat target nowMs) after (.publishing [] .heartbeat)
  | heartbeatRefused : handler.finished = true → registry.heartbeat target nowMs = .error status →
      Own registry handler (.heartbeat target nowMs) registry (.refused status)
  /-- The sweep comes by the nodes in any order. -/
  | expireStale : handler.finished = true → flipped.Perm (registry.expireStale deadlineMs).1 →
      Own registry handler (.expireStale deadlineMs) (registry.expireStale deadlineMs).2
        (.publishing flipped (.swept flipped.length))
  | takeSequence : handler = .publishing (node :: rest) reply →
      Own registry handler .takeSequence registry.takeSequence.2
        (.numbered ⟨registry.takeSequence.1, some node⟩ rest reply)
  | pushReplay : handler = .numbered event rest reply →
      Own registry handler .pushReplay (registry.pushReplay event) (.buffered event rest reply)
  | broadcast : handler = .buffered event rest reply →
      Own registry handler .broadcast (registry.broadcast event) (.publishing rest reply)

/-- The node whose entry a table step writes. -/
def Touches (registry : Registry) (node : NodeId) : Act → Prop
  | .register _ nodeId _ => nodeId = node
  | .drain target => parseNodeId target = .ok node
  | .expireStale deadlineMs =>
    ∃ info, registry.nodes.lookup node = some info ∧ info.isStale deadlineMs = true
  | _ => False

/-- A handler that still has to publish a node holds back the table steps that
write it. -/
def Lets (registry : Registry) (other _ : Handler) (act : Act) : Prop :=
  ∀ node, Touches registry node act → ¬ other.announces node

/-- What the table, and what the events say of a node. -/
def entered (registry : Registry) (node : NodeId) : Option (Option NodeAddress × NodeStatus) :=
  (registry.nodes.lookup node).map NodeInfo.face

def announced (registry : Registry) (node : NodeId) : Option (Option NodeAddress × NodeStatus) :=
  (lastAbout node registry.sent).bind fun event => event.node.map NodeInfo.face

def NodeInfo.write? (info : NodeInfo) : Option (NodeId × Option (Option NodeAddress × NodeStatus)) :=
  info.about?.map (·, some info.face)

def owed (handler : Handler) : List (NodeId × Option (Option NodeAddress × NodeStatus)) :=
  handler.pending.filterMap NodeInfo.write?

theorem owed_finished {handler : Handler} (finished : handler.finished = true) : owed handler = [] := by
  rcases Handler.finished_cases finished with rfl | ⟨status, rfl⟩ | ⟨reply, rfl⟩
  · rfl
  · rfl
  · rfl

theorem announces_of_owed {handler : Handler} (member : node ∈ (owed handler).map Prod.fst) :
    handler.announces node := by
  obtain ⟨w, owes, rfl⟩ := List.mem_map.mp member
  obtain ⟨info, pending, write⟩ := List.mem_filterMap.mp owes
  obtain ⟨id, about, rfl⟩ := Option.map_eq_some_iff.mp write
  exact ⟨info, pending, about⟩

/-- The table and the events as the two tables of the library. -/
abbrev Seen (registry : Registry) (handler : Handler) (after : Registry) (next : Handler) : Prop :=
  Deferred.Effect entered announced owed registry handler after next

theorem insert_effect {registry : Registry} {handler : Handler} {id : NodeId}
    (finished : handler.finished = true) (about : info.about? = some id) (reply : Reply) :
    Seen registry handler { registry with nodes := registry.nodes.insert id info }
      (.publishing [info] reply) := by
  have pending : owed (.publishing [info] reply) = [(id, some info.face)] := by
    simp [owed, Handler.pending, NodeInfo.write?, about]
  refine .record (owed_finished finished) rfl ?_ ?_
  · intro node other
    rw [pending, List.map_singleton, List.mem_singleton] at other
    simp only [entered, FiniteMap.lookup_insert, if_neg other]
  · intro w member
    rw [pending] at member
    cases List.mem_singleton.mp member
    simp only [entered, FiniteMap.lookup_insert_self, Option.map_some]

theorem heartbeat_effect {registry : Registry} {handler : Handler} {id : NodeId}
    (finished : handler.finished = true) (found : registry.nodes.lookup id = some old) (reply : Reply) :
    Seen registry handler
      { registry with nodes := registry.nodes.insert id { old with lastHeartbeatUnixMs := nowMs } }
      (.publishing [] reply) := by
  refine .quiet ?_ rfl (owed_finished finished).symm
  funext node
  simp only [entered, FiniteMap.lookup_insert]
  split
  · rename_i same
    rw [same, found]
    rfl
  · rfl

theorem expire_effect {registry : Registry} {handler : Handler} (keyed : registry.Keyed)
    (finished : handler.finished = true) (flips : flipped.Perm (registry.expireStale deadlineMs).1)
    (reply : Reply) :
    Seen registry handler (registry.expireStale deadlineMs).2 (.publishing flipped reply) := by
  have table : ∀ node, entered (registry.expireStale deadlineMs).2 node =
      (registry.nodes.lookup node).map fun info => (Registry.expire deadlineMs info).face := by
    intro node
    simp only [entered, Registry.expireStale, FiniteMap.lookup_mapValues, Option.map_map]
    rfl
  refine .record (owed_finished finished) rfl ?_ ?_
  · intro node other
    rw [table, entered]
    cases found : registry.nodes.lookup node with
    | none => rfl
    | some old =>
      have fresh : old.isStale deadlineMs ≠ true := by
        intro stale
        refine other (List.mem_map.mpr ⟨(node, some (Registry.expire deadlineMs old).face), ?_, rfl⟩)
        refine List.mem_filterMap.mpr ⟨Registry.expire deadlineMs old, ?_, ?_⟩
        · exact flips.mem_iff.mpr (Registry.mem_expireStale.mpr ⟨node, old, found, stale, rfl⟩)
        · simp only [NodeInfo.write?, Registry.expire_about, keyed node old found, Option.map_some]
      simp only [Option.map_some, Registry.expire, if_neg fresh]
  · intro w member
    obtain ⟨info, pending, write⟩ := List.mem_filterMap.mp member
    obtain ⟨id, old, found, stale, rfl⟩ := Registry.mem_expireStale.mp (flips.mem_iff.mp pending)
    simp only [NodeInfo.write?, Registry.expire_about, keyed id old found, Option.map_some,
      Option.some.injEq] at write
    cases write
    rw [table, found]
    rfl

theorem broadcast_effect (registry : Registry) (event : NodeEvent) (rest : List NodeInfo) (reply : Reply) :
    Seen registry (.buffered event rest reply) (registry.broadcast event) (.publishing rest reply) := by
  obtain ⟨sequence, node⟩ := event
  -- an event that names no node is not seen by either side
  have unseen : ∀ event : NodeEvent, event.about? = none →
      announced (registry.broadcast event) = announced registry := by
    intro event nobody
    funext node
    simp [announced, Registry.broadcast, lastAbout_append, nobody]
  cases node with
  | none => exact .quiet rfl (unseen _ rfl) rfl
  | some info =>
    cases about : info.about? with
    | none =>
      refine .quiet rfl (unseen _ about) ?_
      simp [owed, Handler.pending, NodeInfo.write?, about]
    | some id =>
      refine .deliver (w := (id, some info.face)) rfl ?_ ?_
      · simp [owed, Handler.pending, NodeInfo.write?, about]
      · funext node
        simp only [announced, Registry.broadcast, lastAbout_append, NodeEvent.about?, Option.bind_some, about,
          Option.some.injEq, Function.update_apply, eq_comm (a := id)]
        split <;> rfl

theorem own_keyed {registry after : Registry} {handler next : Handler}
    (own : Own registry handler act after next) (keyed : registry.Keyed) : after.Keyed := by
  cases own with
  | register _ answered =>
    obtain ⟨about, rfl⟩ := Registry.register_ok answered
    exact keyed.insert about
  | drain _ answered =>
    obtain ⟨id, old, _, found, rfl, rfl⟩ := Registry.drain_ok answered
    exact keyed.insert (keyed id old found)
  | heartbeat _ answered =>
    obtain ⟨id, old, found, rfl⟩ := Registry.heartbeat_ok answered
    exact keyed.insert (keyed id old found)
  | expireStale _ _ => exact keyed.expireStale _
  | _ => exact keyed

theorem touches_of_owed {registry after : Registry} {handler : Handler}
    (own : Own registry handler act after (.publishing nodes reply)) (keyed : registry.Keyed)
    (finished : handler.finished = true) (member : w ∈ owed (.publishing nodes reply)) :
    Touches registry w.1 act := by
  obtain ⟨info, pending, write⟩ := List.mem_filterMap.mp member
  obtain ⟨id, about, rfl⟩ := Option.map_eq_some_iff.mp write
  cases own with
  | register _ answered =>
    obtain ⟨named, rfl⟩ := Registry.register_ok answered
    cases List.mem_singleton.mp pending
    exact Option.some.inj (named.symm.trans about)
  | drain _ answered =>
    obtain ⟨node, old, parsed, found, rfl, rfl⟩ := Registry.drain_ok answered
    cases List.mem_singleton.mp pending
    cases (keyed node old found).symm.trans about
    exact parsed
  | expireStale _ flips =>
    obtain ⟨node, old, found, stale, rfl⟩ := Registry.mem_expireStale.mp (flips.mem_iff.mp pending)
    rw [Registry.expire_about, keyed node old found] at about
    cases about
    exact ⟨old, found, stale⟩
  | heartbeat => cases pending
  | broadcast same =>
    subst same
    cases finished

def publishingView : Deferred.View Own NodeId (Option (Option NodeAddress × NodeStatus)) where
  sound := Registry.Keyed
  first := entered
  second := announced
  owed := owed
  writes registry _ act w := Touches registry w.1 act
  preserved := own_keyed
  effect {registry handler act after next} own keyed := by
    cases own with
    | register finished answered =>
      obtain ⟨about, rfl⟩ := Registry.register_ok answered
      exact insert_effect finished about _
    | drain finished answered =>
      obtain ⟨id, old, _, found, rfl, rfl⟩ := Registry.drain_ok answered
      have about : ({ old with status := .draining } : NodeInfo).about? = some id := keyed id old found
      exact insert_effect finished about _
    | heartbeat finished answered =>
      obtain ⟨id, old, found, rfl⟩ := Registry.heartbeat_ok answered
      exact heartbeat_effect finished found _
    | expireStale finished flips => exact expire_effect keyed finished flips _
    | takeSequence same =>
      subst same
      exact .quiet rfl rfl rfl
    | pushReplay same =>
      subst same
      exact .quiet rfl rfl rfl
    | broadcast same =>
      subst same
      exact broadcast_effect _ _ _ _
    | registerRefused finished | drainRefused finished | heartbeatRefused finished =>
      exact .quiet rfl rfl (owed_finished finished).symm
  announced {registry handler act after next} own keyed := by
    intro w member
    cases own with
    | takeSequence same | pushReplay same =>
      subst same
      exact .inl member
    | broadcast same =>
      subst same
      exact .inl (List.mem_filterMap.mpr ((List.mem_filterMap.mp member).imp fun info pending =>
        ⟨List.mem_append_right _ pending.1, pending.2⟩))
    | register finished answered =>
      exact .inr (touches_of_owed (.register finished answered) keyed finished member)
    | drain finished answered => exact .inr (touches_of_owed (.drain finished answered) keyed finished member)
    | expireStale finished flips =>
      exact .inr (touches_of_owed (.expireStale finished flips) keyed finished member)
    | _ => cases member

theorem Lets.view {pool : Pool Registry Handler} (unopposed : Unopposed Lets pool label) :
    Unopposed publishingView.Lets pool label :=
  fun thread different v touches w member same => absurd
    (announces_of_owed (List.mem_map.mpr ⟨w, member, same⟩)) (unopposed thread different v.1 touches)

/-- With all handlers back, the last event about a node is the table's. -/
theorem shown_of_settled {pool : Pool Registry Handler} {node : NodeId} {info : NodeInfo}
    (settled : publishingView.Settled pool node) (returned : ∀ thread, (pool.threads thread).finished = true)
    (found : pool.shared.nodes.lookup node = some info) :
    ∃ event shown, lastAbout node pool.shared.sent = some event ∧ event.node = some shown ∧
      shown.face = info.face := by
  rcases settled with same | ⟨thread, owes⟩
  · have same : (pool.shared.nodes.lookup node).map NodeInfo.face = announced pool.shared node := same
    rw [found] at same
    obtain ⟨event, last, carried⟩ := Option.bind_eq_some_iff.mp same.symm
    obtain ⟨shown, carried, face⟩ := Option.map_eq_some_iff.mp carried
    exact ⟨event, shown, last, carried, face⟩
  · rw [Deferred.View.Owes, show publishingView.owed (pool.threads thread) = [] from
      owed_finished (returned thread)] at owes
    cases owes

/-- Where no handler writes a node that another still has to publish, the last event
about a node shows the table's status as soon as every handler has returned, and so
does an index that applied all events in their order. -/
theorem unopposed_events_agree {session : Id 16} (node : NodeId) {info : NodeInfo}
    (run : Run (Guarded (Unopposed Lets) (Step Own)) ⟨.new session, fun _ => .idle⟩ path pool)
    (returned : ∀ thread, (pool.threads thread).finished = true)
    (found : pool.shared.nodes.lookup node = some info) :
    ∃ event shown, lastAbout node pool.shared.sent = some event ∧ event.node = some shown ∧
      shown.status = info.status ∧ ((parseNodeAddress info).isSome = true →
        (NodeIndex.empty.applyAll pool.shared.sent).statusOf node = some info.status) := by
  have run : Run (Guarded (Unopposed publishingView.Lets) (Step Own)) _ path pool :=
    run.mono fun step => ⟨Lets.view step.1, step.2⟩
  have keyed : (Registry.new session).Keyed := by
    intro id info found
    cases found
  obtain ⟨event, shown, last, carried, face⟩ := shown_of_settled
    (publishingView.settled_run run keyed (fun _ => rfl) (fun _ => rfl) node) returned found
  have status : shown.status = info.status := congrArg Prod.snd face
  have address : shown.address = info.address := congrArg Prod.fst face
  refine ⟨event, shown, last, carried, status, fun parsed => ?_⟩
  rw [← status]
  refine NodeIndex.empty.statusOf_applyAll last carried ?_
  rwa [parseNodeAddress, address]

section Samples

def samplePool : Pool Registry Handler := ⟨.new (.nil 16), fun _ => .idle⟩
def sampleRequest : RegisterRequest := ⟨.literal (.v4 10 0 0 1), 60001⟩

theorem registered_node_shown :
    ∃ path pool event shown, Run (Guarded (Unopposed Lets) (Step Own)) samplePool path pool ∧
      lastAbout (.nil 16) pool.shared.sent = some event ∧ event.node = some shown ∧ shown.status = .alive ∧
      (NodeIndex.empty.applyAll pool.shared.sent).statusOf (.nil 16) = some .alive := by
  have idle : ∀ registry own act, Lets registry .idle own act := by
    rintro registry own act node _ ⟨info, pending, _⟩
    cases pending
  have run : Run (Guarded (Unopposed Lets) (Step Own)) samplePool [] _ := .refl
  have only : samplePool.Only .idle := fun _ _ => rfl
  obtain ⟨run, only⟩ := only.alone idle run (a := .register sampleRequest (.nil 16) 0) (.register rfl rfl)
  obtain ⟨run, only⟩ := only.alone idle run (a := .takeSequence) (.takeSequence rfl)
  obtain ⟨run, only⟩ := only.alone idle run (a := .pushReplay) (.pushReplay rfl)
  obtain ⟨run, only⟩ := only.alone idle run (a := .broadcast) (.broadcast rfl)
  obtain ⟨event, shown, last, carried, status, applied⟩ :=
    unopposed_events_agree (.nil 16) run (only.all (f := (·.finished = true)) rfl rfl) rfl
  exact ⟨_, _, event, shown, run, last, carried, status, applied rfl⟩

/-- The sweep flips a node and is overtaken by a drain before it publishes: the
table has the node draining, the last event has it dead. -/
theorem drain_overtakes_sweep :
    ∃ path pool info event shown, Run (Step Own) samplePool path pool ∧
      (∀ thread, (pool.threads thread).finished = true) ∧
      pool.shared.nodes.lookup (.nil 16) = some info ∧ info.status = .draining ∧
      lastAbout (.nil 16) pool.shared.sent = some event ∧ event.node = some shown ∧ shown.status = .dead := by
  have run : Run (Step Own) samplePool [] _ := .refl
  have run := run.next (a := (0, .register sampleRequest (.nil 16) 0)) (.act (.register rfl rfl))
  have run := run.next (a := (0, .takeSequence)) (.act (.takeSequence rfl))
  have run := run.next (a := (0, .pushReplay)) (.act (.pushReplay rfl))
  have run := run.next (a := (0, .broadcast)) (.act (.broadcast rfl))
  have run := run.next (a := (0, .expireStale 10)) (.act (.expireStale rfl (.refl _)))
  have run := run.next (a := (1, .drain (Id.nil 16).bytes)) (.act (.drain rfl rfl))
  have run := run.next (a := (1, .takeSequence)) (.act (.takeSequence rfl))
  have run := run.next (a := (1, .pushReplay)) (.act (.pushReplay rfl))
  have run := run.next (a := (1, .broadcast)) (.act (.broadcast rfl))
  have run := run.next (a := (0, .takeSequence)) (.act (.takeSequence rfl))
  have run := run.next (a := (0, .pushReplay)) (.act (.pushReplay rfl))
  have run := run.next (a := (0, .broadcast)) (.act (.broadcast rfl))
  refine ⟨_, _, _, _, _, run, fun thread => ?_, rfl, rfl, rfl, rfl, rfl⟩
  by_cases first : thread = 0
  · subst first
    rfl
  · by_cases second : thread = 1
    · subst second
      rfl
    · simp only [Pool.set_ne _ first, Pool.set_ne _ second]
      rfl

end Samples

end Rayd.Gcs
