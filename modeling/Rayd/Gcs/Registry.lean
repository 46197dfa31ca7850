import Rayd.Lib.Fallible
import Rayd.Lib.FiniteMap
import Rayd.Lib.Log
import Rayd.Rpc

/-! The node registry of the cluster's control service: the node table, the replay
buffer and the broadcast channel, each under a lock of its own. A handler changes
the table under its lock and publishes afterwards; a publish takes a sequence
number, enters the replay buffer and is broadcast, in three steps. Sequence numbers
do not reach `2 ^ 64`. Resources, registration times, the plasma socket and metrics
are left out. -/
namespace Rayd.Gcs
open Memory

inductive NodeStatus where
  | unspecified | alive | draining | dead
  deriving DecidableEq, Repr

inductive IpAddr where
  | v4 (a b c d : UInt8)
  | v6 (segments : List UInt16)
  deriving DecidableEq, Repr

/-- Host text as the socket address parser takes it: an address literal (in
brackets for the longer kind), or anything else. -/
inductive Host where
  | literal (ip : IpAddr)
  | name (text : String)
  deriving DecidableEq, Repr

structure NodeAddress where
  host : Host
  port : Nat
  nodeId : Bytes
  deriving DecidableEq, Repr

structure NodeInfo where
  address : Option NodeAddress
  status : NodeStatus
  lastHeartbeatUnixMs : Nat
  deriving DecidableEq, Repr

structure NodeEvent where
  sequence : Nat
  node : Option NodeInfo
  deriving DecidableEq, Repr

def replayBufferCapacity : Nat := 1024

def broadcastChannelCapacity : Nat := 256

structure Registry where
  nodes : FiniteMap NodeId NodeInfo
  clusterSessionId : Id 16
  replayBuffer : List NodeEvent
  nextSequence : Nat
  /-- Everything the broadcast channel was given, oldest first; a receiver is a
  position in it. -/
  sent : List NodeEvent

structure RegisterRequest where
  host : Host
  port : Nat

structure RegisterReply where
  nodeId : Bytes
  clusterSessionId : Bytes

namespace NodeInfo

/-- The node an info is about, when its address names one. -/
def about? (info : NodeInfo) : Option NodeId :=
  info.address.bind fun address => Id.fromBytes? 16 address.nodeId

def isStale (deadlineMs : Nat) (info : NodeInfo) : Bool :=
  info.status == .alive && decide (info.lastHeartbeatUnixMs < deadlineMs)

/-- The part of an info that only registering, draining and expiring change. -/
def face (info : NodeInfo) : Option NodeAddress × NodeStatus := (info.address, info.status)

end NodeInfo

def NodeEvent.about? (event : NodeEvent) : Option NodeId := event.node.bind NodeInfo.about?

/-- The last event that mentions the node. -/
def lastAbout (node : NodeId) (events : List NodeEvent) : Option NodeEvent :=
  (events.filter fun event => event.about? = some node).getLast?

theorem lastAbout_append (node : NodeId) (events : List NodeEvent) (event : NodeEvent) :
    lastAbout node (events ++ [event]) =
      if event.about? = some node then some event else lastAbout node events := by
  simp only [lastAbout, List.filter_append]
  by_cases about : event.about? = some node <;> simp [about]

theorem lastAbout_join (node : NodeId) (events more : List NodeEvent) :
    lastAbout node (events ++ more) = (lastAbout node more).or (lastAbout node events) := by
  simp only [lastAbout, List.filter_append, List.getLast?_append]

theorem mem_of_lastAbout {node : NodeId} {events : List NodeEvent}
    (last : lastAbout node events = some event) :
    event ∈ events ∧ event.about? = some node := by
  have member := List.mem_filter.mp (List.mem_of_getLast? last)
  exact ⟨member.1, of_decide_eq_true member.2⟩

theorem lastAbout_eq_none {node : NodeId} {events : List NodeEvent} (none : lastAbout node events = none)
    (member : event ∈ events) : event.about? ≠ some node := by
  intro about
  rw [lastAbout, List.getLast?_eq_none_iff, List.filter_eq_nil_iff] at none
  exact none event member (decide_eq_true about)

namespace Registry

def new (clusterSessionId : Id 16) : Registry := ⟨∅, clusterSessionId, [], 1, []⟩

def snapshot (registry : Registry) : List NodeInfo := registry.nodes.entries.map fun entry => entry.2

def takeSequence (registry : Registry) : Nat × Registry :=
  (registry.nextSequence, { registry with nextSequence := registry.nextSequence + 1 })

def pushReplay (registry : Registry) (event : NodeEvent) : Registry :=
  { registry with replayBuffer := Log.push replayBufferCapacity registry.replayBuffer event }

def broadcast (registry : Registry) (event : NodeEvent) : Registry :=
  { registry with sent := registry.sent ++ [event] }

/-- The three steps of a publish with nothing in between. -/
def publish (registry : Registry) (node : NodeInfo) : Registry :=
  let (sequence, registry) := registry.takeSequence
  (registry.pushReplay ⟨sequence, some node⟩).broadcast ⟨sequence, some node⟩

def oldestBufferedSequence (registry : Registry) : Option Nat :=
  registry.replayBuffer.head?.map NodeEvent.sequence

def bufferedAfter (registry : Registry) (afterSequence : Nat) : List NodeEvent :=
  registry.replayBuffer.filter fun event => afterSequence < event.sequence

/-- The table part of `register`; the id is drawn at random and the time read. -/
def register (registry : Registry) (request : RegisterRequest) (nodeId : NodeId) (nowMs : Nat) :
    Except Status (NodeInfo × Registry) :=
  if request.host = .name "" then .error ⟨.invalidArgument, "host must not be empty"⟩
  else
    let info : NodeInfo := ⟨some ⟨request.host, request.port, nodeId.bytes⟩, .alive, nowMs⟩
    .ok (info, { registry with nodes := registry.nodes.insert nodeId info })

def unknownNode : Status := ⟨.notFound, "unknown node_id"⟩

def drain (registry : Registry) (nodeId : Bytes) : Except Status (NodeInfo × Registry) := do
  let id ← parseNodeId nodeId
  match registry.nodes.lookup id with
  | none => .error unknownNode
  | some info =>
    let info := { info with status := .draining }
    .ok (info, { registry with nodes := registry.nodes.insert id info })

def heartbeat (registry : Registry) (nodeId : Bytes) (nowMs : Nat) : Except Status Registry := do
  let id ← parseNodeId nodeId
  match registry.nodes.lookup id with
  | none => .error unknownNode
  | some info =>
    .ok { registry with nodes := registry.nodes.insert id { info with lastHeartbeatUnixMs := nowMs } }

def expire (deadlineMs : Nat) (info : NodeInfo) : NodeInfo :=
  if info.isStale deadlineMs then { info with status := .dead } else info

/-- Flips the alive nodes that missed the deadline and returns them. -/
def expireStale (registry : Registry) (deadlineMs : Nat) : List NodeInfo × Registry :=
  ((registry.snapshot.filter (·.isStale deadlineMs)).map (expire deadlineMs),
    { registry with nodes := registry.nodes.mapValues (expire deadlineMs) })

/-- Every info sits under the id its address names. -/
def Keyed (registry : Registry) : Prop :=
  ∀ id info, registry.nodes.lookup id = some info → info.about? = some id

/-- What a table step can do: one node is written, or stale nodes are flipped. -/
theorem register_ok {registry after : Registry} {request : RegisterRequest} {nodeId : NodeId}
    (answered : registry.register request nodeId nowMs = .ok (info, after)) :
    info.about? = some nodeId ∧ after = { registry with nodes := registry.nodes.insert nodeId info } := by
  simp only [register] at answered
  split at answered
  · cases answered
  · cases answered
    exact ⟨Id.fromBytes?_bytes nodeId, rfl⟩

theorem drain_ok {registry after : Registry} {nodeId : Bytes}
    (answered : registry.drain nodeId = .ok (info, after)) :
    ∃ id old, parseNodeId nodeId = .ok id ∧ registry.nodes.lookup id = some old ∧
      info = { old with status := .draining } ∧
      after = { registry with nodes := registry.nodes.insert id info } := by
  obtain ⟨id, parsed, answered⟩ := Fallible.bind_ok_iff.mp answered
  split at answered
  · cases answered
  · rename_i old found
    cases answered
    exact ⟨id, old, parsed, found, rfl, rfl⟩

theorem heartbeat_ok {registry after : Registry} {nodeId : Bytes}
    (answered : registry.heartbeat nodeId nowMs = .ok after) :
    ∃ id old, registry.nodes.lookup id = some old ∧ after =
      { registry with nodes := registry.nodes.insert id { old with lastHeartbeatUnixMs := nowMs } } := by
  obtain ⟨id, _, answered⟩ := Fallible.bind_ok_iff.mp answered
  split at answered
  · cases answered
  · rename_i old found
    cases answered
    exact ⟨id, old, found, rfl⟩

theorem mem_snapshot {registry : Registry} :
    info ∈ registry.snapshot ↔ ∃ id, registry.nodes.lookup id = some info := by
  simp only [snapshot, List.mem_map]
  constructor
  · rintro ⟨⟨id, found⟩, member, rfl⟩
    exact ⟨id, AList.mem_lookup_iff.mpr member⟩
  · rintro ⟨id, found⟩
    exact ⟨⟨id, info⟩, AList.mem_lookup_iff.mp found, rfl⟩

theorem expire_about (deadlineMs : Nat) (info : NodeInfo) :
    (expire deadlineMs info).about? = info.about? := by
  simp only [expire]
  split <;> rfl

theorem mem_expireStale {registry : Registry} {deadlineMs : Nat} :
    info ∈ (registry.expireStale deadlineMs).1 ↔ ∃ id old, registry.nodes.lookup id = some old ∧
      old.isStale deadlineMs = true ∧ info = expire deadlineMs old := by
  simp only [expireStale, List.mem_map, List.mem_filter, mem_snapshot]
  constructor
  · rintro ⟨old, ⟨⟨id, found⟩, stale⟩, rfl⟩
    exact ⟨id, old, found, stale, rfl⟩
  · rintro ⟨id, old, found, stale, rfl⟩
    exact ⟨old, ⟨⟨id, found⟩, stale⟩, rfl⟩

namespace Keyed

theorem insert {registry : Registry} {id : NodeId} (keyed : registry.Keyed) (about : info.about? = some id) :
    Keyed { registry with nodes := registry.nodes.insert id info } := by
  intro other found lookup
  rw [FiniteMap.lookup_insert] at lookup
  split at lookup
  · rename_i same
    cases lookup
    rw [about, same]
  · exact keyed other found lookup

theorem expireStale {registry : Registry} (keyed : registry.Keyed) (deadlineMs : Nat) :
    (registry.expireStale deadlineMs).2.Keyed := by
  intro id info found
  replace found := (FiniteMap.lookup_mapValues _ _ _).symm.trans found
  obtain ⟨old, lookup, rfl⟩ := Option.map_eq_some_iff.mp found
  rw [expire_about]
  exact keyed id old lookup

end Keyed
end Registry
end Rayd.Gcs
