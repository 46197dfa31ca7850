import Mathlib.Data.List.Induction
import Rayd.Gcs.Registry

/-! The raylet's cache of node states. An event that has no parseable socket
address or no well-formed node id is skipped; any other overwrites the entry, in the
order the events come in. -/
namespace Rayd.Raylet
open Memory Gcs

structure SocketAddr where
  ip : IpAddr
  port : Nat
  deriving DecidableEq, Repr

structure NodeEntry where
  status : NodeStatus
  addr : SocketAddr
  deriving DecidableEq, Repr

structure NodeIndex where
  inner : FiniteMap NodeId NodeEntry

inductive StatusTransition where
  | inserted (status : NodeStatus)
  | changed (before after : NodeStatus)
  | unchanged
  | skipped
  deriving DecidableEq, Repr

/-- Names are not resolved, and a port has sixteen bits. -/
def parseNodeAddress (info : NodeInfo) : Option SocketAddr :=
  match info.address with
  | some ⟨.literal ip, port, _⟩ => if port < 65536 then some ⟨ip, port⟩ else none
  | _ => none

namespace NodeIndex

def empty : NodeIndex := ⟨∅⟩

def statusOf (index : NodeIndex) (node : NodeId) : Option NodeStatus :=
  (index.inner.lookup node).map NodeEntry.status

def applyEvent (index : NodeIndex) (info : NodeInfo) : StatusTransition × NodeIndex :=
  match parseNodeAddress info with
  | none => (.skipped, index)
  | some addr =>
    match info.about? with
    | none => (.skipped, index)
    | some id =>
      (match index.inner.lookup id with
        | none => .inserted info.status
        | some previous =>
          if previous.status = info.status then .unchanged else .changed previous.status info.status,
        ⟨index.inner.insert id ⟨info.status, addr⟩⟩)

theorem statusOf_applyEvent (index : NodeIndex) (info : NodeInfo) (node : NodeId) :
    (index.applyEvent info).2.statusOf node =
      if info.about? = some node ∧ (parseNodeAddress info).isSome then some info.status
      else index.statusOf node := by
  simp only [applyEvent]
  cases parseNodeAddress info with
  | none => simp
  | some addr =>
    cases about : info.about? with
    | none => simp
    | some id =>
      simp only [statusOf, FiniteMap.lookup_insert, Option.some.injEq, Option.isSome_some, and_true]
      by_cases same : node = id
      · simp [same]
      · simp [same, Ne.symm same]

/-- Events in the order they come in. -/
def applyAll (index : NodeIndex) (events : List NodeEvent) : NodeIndex :=
  events.foldl (fun index event => event.node.elim index fun info => (index.applyEvent info).2) index

theorem applyAll_append (index : NodeIndex) (events : List NodeEvent) (event : NodeEvent) :
    index.applyAll (events ++ [event]) =
      event.node.elim (index.applyAll events) fun info => ((index.applyAll events).applyEvent info).2 := by
  simp only [applyAll, List.foldl_append, List.foldl_cons, List.foldl_nil]

theorem statusOf_applyAll_other (index : NodeIndex) (events : List NodeEvent) {node : NodeId}
    (other : event.about? ≠ some node) :
    (index.applyAll (events ++ [event])).statusOf node = (index.applyAll events).statusOf node := by
  rw [applyAll_append]
  cases here : event.node with
  | none => rfl
  | some shown =>
    rw [Option.elim_some, statusOf_applyEvent, if_neg]
    rintro ⟨about, _⟩
    exact other (by rw [NodeEvent.about?, here, Option.bind_some, about])

theorem statusOf_applyAll (index : NodeIndex) {events : List NodeEvent} {node : NodeId}
    (last : lastAbout node events = some event) (carried : event.node = some info)
    (parsed : (parseNodeAddress info).isSome = true) :
    (index.applyAll events).statusOf node = some info.status := by
  induction events using List.reverseRecOn with
  | nil => cases last
  | append_singleton events newest ih =>
    rw [lastAbout_append] at last
    split at last
    · rename_i about
      cases last
      rw [applyAll_append, carried, Option.elim_some, statusOf_applyEvent, if_pos]
      simpa [NodeEvent.about?, carried, parsed] using about
    · rename_i other
      rw [index.statusOf_applyAll_other events other, ih last]

end NodeIndex
end Rayd.Raylet
