import Rayd.Gcs.Publishing
import Rayd.Gcs.WatchNodes
import Rayd.Raylet.HostText

/-! The index against the registry's events. A handler changes the status and the
heartbeat of an entry and never its address, so whatever is said of the addresses
that come in with `register` holds of every event. Nodes under an address are
indexed with the status of their last event; nodes under a name are skipped. -/
namespace Rayd.Gcs
open Memory Scan Raylet Threads Transition

section Addresses
variable {ok : Option NodeAddress → Prop}

def NodeEvent.Addressed (ok : Option NodeAddress → Prop) (event : NodeEvent) : Prop :=
  ∀ info, event.node = some info → ok info.address

def Handler.Addressed (ok : Option NodeAddress → Prop) (handler : Handler) : Prop :=
  ∀ info ∈ handler.pending, ok info.address

structure Registry.Addressed (ok : Option NodeAddress → Prop) (registry : Registry) : Prop where
  nodes : ∀ id info, registry.nodes.lookup id = some info → ok info.address
  replayBuffer : ∀ event ∈ registry.replayBuffer, event.Addressed ok
  sent : ∀ event ∈ registry.sent, event.Addressed ok

/-- What a registration brings in. -/
def Act.Addressed (ok : Option NodeAddress → Prop) : Act → Prop
  | .register request nodeId _ => ok (some ⟨request.host, request.port, nodeId.bytes⟩)
  | _ => True

namespace Registry.Addressed
variable {registry : Registry}

theorem insert (known : registry.Addressed ok) (id : NodeId) (info : NodeInfo) (fits : ok info.address) :
    Addressed ok { registry with nodes := registry.nodes.insert id info } := by
  refine ⟨fun other found lookup => ?_, known.replayBuffer, known.sent⟩
  rw [FiniteMap.lookup_insert] at lookup
  split at lookup
  · cases lookup
    exact fits
  · exact known.nodes other found lookup

theorem expire_address (deadlineMs : Nat) (info : NodeInfo) :
    (expire deadlineMs info).address = info.address := by
  rw [expire]
  split <;> rfl

theorem expireStale (known : registry.Addressed ok) (deadlineMs : Nat) :
    (registry.expireStale deadlineMs).2.Addressed ok := by
  refine ⟨fun id info found => ?_, known.replayBuffer, known.sent⟩
  replace found := (FiniteMap.lookup_mapValues _ _ _).symm.trans found
  obtain ⟨old, lookup, rfl⟩ := Option.map_eq_some_iff.mp found
  rw [expire_address]
  exact known.nodes id old lookup

theorem pushReplay (known : registry.Addressed ok) (fits : event.Addressed ok) :
    (registry.pushReplay event).Addressed ok := by
  refine ⟨known.nodes, fun other member => ?_, known.sent⟩
  rcases List.mem_append.mp member with kept | new
  · split at kept
    · exact known.replayBuffer other (List.mem_of_mem_tail kept)
    · exact known.replayBuffer other kept
  · rw [List.mem_singleton.mp new]
    exact fits

theorem broadcast (known : registry.Addressed ok) (fits : event.Addressed ok) :
    (registry.broadcast event).Addressed ok := by
  refine ⟨known.nodes, known.replayBuffer, fun other member => ?_⟩
  rcases List.mem_append.mp member with kept | new
  · exact known.sent other kept
  · rw [List.mem_singleton.mp new]
    exact fits

end Registry.Addressed

theorem Handler.Addressed.head {event : NodeEvent} {rest : List NodeInfo}
    (mine : ∀ info ∈ event.node.toList ++ rest, ok info.address) : event.Addressed ok :=
  fun info carried => mine info (List.mem_append_left _ (Option.mem_toList.mpr carried))

theorem own_addressed {registry after : Registry} {handler next : Handler}
    (own : Own registry handler act after next) (fits : act.Addressed ok)
    (known : registry.Addressed ok) (mine : handler.Addressed ok) :
    after.Addressed ok ∧ next.Addressed ok := by
  cases own with
  | register _ answered =>
    simp only [Registry.register] at answered
    split at answered
    · cases answered
    · cases answered
      refine ⟨known.insert _ _ ?_, fun info member => ?_⟩
      · exact fits
      · rw [List.mem_singleton.mp member]
        exact fits
  | drain _ answered =>
    obtain ⟨id, old, _, found, rfl, rfl⟩ := Registry.drain_ok answered
    refine ⟨known.insert _ _ ?_, fun info member => ?_⟩
    · exact known.nodes id old found
    · rw [List.mem_singleton.mp member]
      exact known.nodes id old found
  | heartbeat _ answered =>
    obtain ⟨id, old, found, rfl⟩ := Registry.heartbeat_ok answered
    refine ⟨known.insert _ _ ?_, fun info member => ?_⟩
    · exact known.nodes id old found
    · cases member
  | expireStale _ flips =>
    refine ⟨known.expireStale _, fun info member => ?_⟩
    obtain ⟨id, old, found, _, rfl⟩ := Registry.mem_expireStale.mp (flips.mem_iff.mp member)
    rw [Registry.Addressed.expire_address]
    exact known.nodes id old found
  | takeSequence same =>
    subst same
    exact ⟨⟨known.nodes, known.replayBuffer, known.sent⟩, mine⟩
  | pushReplay same =>
    subst same
    exact ⟨known.pushReplay (Handler.Addressed.head mine), mine⟩
  | broadcast same =>
    subst same
    exact ⟨known.broadcast (Handler.Addressed.head mine),
      fun info member => mine info (List.mem_append_right _ member)⟩
  | registerRefused | drainRefused | heartbeatRefused =>
    refine ⟨known, fun info member => ?_⟩
    cases member

theorem run_addressed {session : Id 16} {allowed : Pool Registry Handler → Nat × Act → Prop}
    (fits : ∀ {pool label}, allowed pool label → label.2.Addressed ok)
    (run : Run (Guarded allowed (Step Own)) ⟨.new session, fun _ => .idle⟩ path pool) :
    pool.shared.Addressed ok ∧ ∀ thread, (pool.threads thread).Addressed ok := by
  have start : (Registry.new session).Addressed ok := by
    refine ⟨fun id info found => ?_, fun event member => ?_, fun event member => ?_⟩
    · cases found
    · cases member
    · cases member
  have idle : Handler.idle.Addressed ok := by
    intro info member
    cases member
  refine run.invariant (P := fun pool => pool.shared.Addressed ok ∧
    ∀ thread, (pool.threads thread).Addressed ok) ?_ ⟨start, fun _ => idle⟩
  rintro before label after ⟨known, pending⟩ ⟨accepted, step⟩
  cases step with
  | @act thread act shared phase moved =>
    obtain ⟨known, mine⟩ := own_addressed moved (fits accepted) known (pending thread)
    refine ⟨known, fun other => ?_⟩
    by_cases same : other = thread
    · rw [same, Pool.set_self]
      exact mine
    · rw [Pool.set_ne _ same]
      exact pending other

end Addresses

/-- An event that a registry in the course of such a run has sent, keeps for replay,
or shows to a new subscriber. -/
def Publishable (allowed : Pool Registry Handler → Nat × Act → Prop) (event : NodeEvent) : Prop :=
  ∃ session path pool, Run (Guarded allowed (Step Own)) ⟨.new session, fun _ => .idle⟩ path pool ∧
    (event ∈ pool.shared.sent ∨ event ∈ pool.shared.replayBuffer ∨ event ∈ pool.shared.snapshotAsEvents)

/-- A registration as it comes in: with some text for its host, and a port of
sixteen bits. -/
def TextHost (_ : Pool Registry Handler) : Nat × Act → Prop
  | (_, .register request _ _) => (∃ text, request.host = .ofText text) ∧ request.port < 65536
  | _ => True

/-- The host is an address, dotted or in brackets. -/
def AddressHost (_ : Pool Registry Handler) : Nat × Act → Prop
  | (_, .register request _ _) =>
    (∃ text, request.host = .ofText text ∧ (readAll HostText.literal text).isSome = true) ∧
      request.port < 65536
  | _ => True

/-- The index takes in every node under such an address. -/
def Parses (address : Option NodeAddress) : Prop :=
  ∀ status heardMs, (parseNodeAddress ⟨address, status, heardMs⟩).isSome = true

theorem AddressHost.parses {pool : Pool Registry Handler} {label : Nat × Act}
    (named : AddressHost pool label) : label.2.Addressed Parses := by
  obtain ⟨thread, act⟩ := label
  cases act with
  | register request nodeId nowMs =>
    obtain ⟨⟨text, same, address⟩, small⟩ := named
    intro status heardMs
    rw [same, parseNodeAddress_ofText, if_pos small, HostText.socketAddr_hostPort text small,
      Option.isSome_map, address]
  | _ => trivial

theorem Publishable.parses {event : NodeEvent} (published : Publishable AddressHost event)
    (carried : event.node = some info) : (parseNodeAddress info).isSome = true := by
  obtain ⟨session, path, pool, run, shown⟩ := published
  have known := (run_addressed AddressHost.parses run).1
  rcases shown with sent | kept | listed
  · exact known.sent event sent info carried info.status info.lastHeartbeatUnixMs
  · exact known.replayBuffer event kept info carried info.status info.lastHeartbeatUnixMs
  · obtain ⟨node, member, rfl⟩ := List.mem_map.mp listed
    cases carried
    obtain ⟨id, found⟩ := Registry.mem_snapshot.mp member
    exact known.nodes id info found info.status info.lastHeartbeatUnixMs

end Rayd.Gcs

namespace Rayd.Raylet
open Memory Gcs Scan Threads Transition

namespace NodeIndex

theorem statusOf_applyAll_none (index : NodeIndex) {events : List NodeEvent} {node : NodeId}
    (unheard : ∀ event ∈ events, event.about? ≠ some node) :
    (index.applyAll events).statusOf node = index.statusOf node := by
  induction events using List.reverseRecOn with
  | nil => rfl
  | append_singleton events newest ih =>
    rw [index.statusOf_applyAll_other events (unheard newest (by simp))]
    exact ih fun event member => unheard event (List.mem_append_left _ member)

end NodeIndex

/-- Events about nodes under an address, in any order and as often as they come: the
index has for each node the status of the last one, and nothing exactly for the
nodes without any. -/
theorem addressed_nodes_indexed (events : List NodeEvent)
    (published : ∀ event ∈ events, Publishable AddressHost event) (node : NodeId) :
    (NodeIndex.empty.applyAll events).statusOf node =
        ((lastAbout node events).bind NodeEvent.node).map NodeInfo.status ∧
      ((NodeIndex.empty.applyAll events).statusOf node = none ↔
        ∀ event ∈ events, event.about? ≠ some node) := by
  cases last : lastAbout node events with
  | none =>
    have unheard : ∀ event ∈ events, event.about? ≠ some node := fun event member =>
      lastAbout_eq_none last member
    have missing : (NodeIndex.empty.applyAll events).statusOf node = none :=
      NodeIndex.empty.statusOf_applyAll_none unheard
    exact ⟨missing, fun _ => unheard, fun _ => missing⟩
  | some event =>
    obtain ⟨member, about⟩ := mem_of_lastAbout last
    obtain ⟨info, carried, _⟩ := Option.bind_eq_some_iff.mp about
    have shown := NodeIndex.empty.statusOf_applyAll last carried ((published event member).parses carried)
    rw [shown]
    refine ⟨by rw [Option.bind_some, carried]; rfl, fun missing => ?_, fun unheard => ?_⟩
    · cases missing
    · exact absurd about (unheard event member)

section Samples

/-- The event of a registration under a host. -/
def registered (text : List Char) : NodeEvent :=
  ⟨1, some ⟨some ⟨.ofText text, 60001, (Id.nil 16).bytes⟩, .alive, 0⟩⟩

/-- The event of the same node's expiry. -/
def expired (text : List Char) : NodeEvent :=
  ⟨2, some ⟨some ⟨.ofText text, 60001, (Id.nil 16).bytes⟩, .dead, 0⟩⟩

theorem registered_about (text : List Char) : (registered text).about? = some (.nil 16) :=
  Id.fromBytes?_bytes (Id.nil 16)

theorem expired_about (text : List Char) : (expired text).about? = some (.nil 16) :=
  Id.fromBytes?_bytes (Id.nil 16)

theorem registered_published {allowed : Pool Registry Handler → Nat × Act → Prop} {text : List Char}
    (nonempty : text ≠ [])
    (accepts : ∀ pool, allowed pool (0, .register ⟨.ofText text, 60001⟩ (.nil 16) 0))
    (goes : ∀ pool act, act = .takeSequence ∨ act = .pushReplay ∨ act = .broadcast ∨ act = .expireStale 1 →
      allowed pool (0, act)) :
    Publishable allowed (registered text) ∧ Publishable allowed (expired text) := by
  have named : ¬ Host.ofText text = .name "" := mt (Host.ofText_empty text).mp nonempty
  have answered : (Registry.new (.nil 16)).register ⟨.ofText text, 60001⟩ (.nil 16) 0 =
      .ok (⟨some ⟨.ofText text, 60001, (Id.nil 16).bytes⟩, .alive, 0⟩, _) := if_neg named
  have run : Run (Guarded allowed (Step Own)) ⟨.new (.nil 16), fun _ => .idle⟩ [] _ := .refl
  have run := run.next (a := (0, .register ⟨.ofText text, 60001⟩ (.nil 16) 0))
    ⟨accepts _, .act (.register rfl answered)⟩
  have run := run.next (a := (0, .takeSequence)) ⟨goes _ _ (.inl rfl), .act (.takeSequence rfl)⟩
  have run := run.next (a := (0, .pushReplay)) ⟨goes _ _ (.inr (.inl rfl)), .act (.pushReplay rfl)⟩
  have run := run.next (a := (0, .broadcast)) ⟨goes _ _ (.inr (.inr (.inl rfl))), .act (.broadcast rfl)⟩
  refine ⟨⟨_, _, _, run, .inl List.mem_cons_self⟩, ?_⟩
  have run := run.next (a := (0, .expireStale 1))
    ⟨goes _ _ (.inr (.inr (.inr rfl))), .act (.expireStale rfl (.refl _))⟩
  have run := run.next (a := (0, .takeSequence)) ⟨goes _ _ (.inl rfl), .act (.takeSequence rfl)⟩
  have run := run.next (a := (0, .pushReplay)) ⟨goes _ _ (.inr (.inl rfl)), .act (.pushReplay rfl)⟩
  exact ⟨_, _, _, run, .inr (.inl (List.mem_append_right _ (List.mem_singleton.mpr rfl)))⟩

def addressText : List Char := ['1', '0', '.', '0', '.', '0', '.', '7']

/-- A node that registers and expires shows as dead, and one that never came as nothing. -/
theorem addressed_node_found :
    (NodeIndex.empty.applyAll [registered addressText, expired addressText]).statusOf (.nil 16) = some .dead ∧
      (NodeIndex.empty.applyAll [registered addressText, expired addressText]).statusOf
        ⟨List.replicate 16 1, rfl⟩ = none := by
  have both : Publishable AddressHost (registered addressText) ∧ Publishable AddressHost (expired addressText) := by
    refine registered_published (by decide) (fun _ => ⟨⟨addressText, rfl, by decide⟩, by decide⟩) ?_
    rintro pool act (rfl | rfl | rfl | rfl) <;> trivial
  have published : ∀ event ∈ [registered addressText, expired addressText], Publishable AddressHost event := by
    simpa using both
  have last : lastAbout (.nil 16) [registered addressText, expired addressText] = some (expired addressText) :=
    (lastAbout_append (.nil 16) [registered addressText] _).trans (if_pos (expired_about _))
  constructor
  · refine (addressed_nodes_indexed _ published (.nil 16)).1.trans ?_
    rw [last]
    rfl
  · refine (addressed_nodes_indexed _ published _).2.mpr ?_
    simp only [List.mem_cons, List.not_mem_nil, or_false, forall_eq_or_imp, forall_eq, registered_about,
      expired_about]
    decide

/-- The event of a node that registered under this text is not taken in. -/
def Missed (text : List Char) : Prop :=
  Publishable TextHost (registered text) ∧ (registered text).about? = some (.nil 16) ∧
    (NodeIndex.empty.applyAll [registered text]).statusOf (.nil 16) = none

theorem missed_of_unread {text : List Char} (nonempty : text ≠ [])
    (unread : readAll HostText.literal text = none) : Missed text := by
  have small : 60001 < 65536 := by decide
  refine ⟨(registered_published nonempty (fun _ => ⟨⟨text, rfl⟩, small⟩) ?_).1, registered_about text, ?_⟩
  · rintro pool act (rfl | rfl | rfl | rfl) <;> trivial
  · refine (NodeIndex.statusOf_applyEvent .empty _ _).trans (if_neg ?_)
    rintro ⟨_, parsed⟩
    rw [parseNodeAddress_ofText, if_pos small, HostText.socketAddr_hostPort text small, unread] at parsed
    cases parsed

/-- A driver's host name, and an address of the longer kind without brackets. -/
theorem named_nodes_missed : Missed ['d', 'r', 'i', 'v', 'e', 'r'] ∧ Missed [':', ':', '1'] :=
  ⟨missed_of_unread (by decide) (by decide), missed_of_unread (by decide) (by decide)⟩

end Samples

end Rayd.Raylet
