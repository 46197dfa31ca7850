import Rayd.Gcs.Publishing
import Rayd.Lib.Balance
import Mathlib.Algebra.Group.Prod
import Mathlib.Tactic.Abel

/-! The node registry's metrics, on a server that keeps them. A handler adjusts them
after it has released the table lock and before it publishes, one at a time, so they
lag behind the table while handlers are under way. Gauges do not leave the range of
`i64` nor counters that of `u64`. -/
namespace Rayd.Gcs
open Memory Threads Transition

structure Metrics where
  registerNodeTotal : Nat
  heartbeatReceivedTotal : Nat
  nodesAlive : Int
  nodesTotal : Int
  watchEventsPublishedTotal : Nat
  deriving DecidableEq, Repr

inductive Update where
  | registerNode
  | heartbeatReceived
  | nodesAlive (change : Int)
  | nodesTotal
  | watchEventsPublished (count : Nat)
  deriving DecidableEq, Repr

def Metrics.new : Metrics := ⟨0, 0, 0, 0, 0⟩

def Metrics.apply (metrics : Metrics) : Update → Metrics
  | .registerNode => { metrics with registerNodeTotal := metrics.registerNodeTotal + 1 }
  | .heartbeatReceived => { metrics with heartbeatReceivedTotal := metrics.heartbeatReceivedTotal + 1 }
  | .nodesAlive change => { metrics with nodesAlive := metrics.nodesAlive + change }
  | .nodesTotal => { metrics with nodesTotal := metrics.nodesTotal + 1 }
  | .watchEventsPublished count =>
    { metrics with watchEventsPublishedTotal := metrics.watchEventsPublishedTotal + count }

namespace Registry

def len (registry : Registry) : Nat := registry.nodes.entries.length

def aliveNodes (registry : Registry) : Nat := registry.snapshot.countP (·.status == .alive)

/-- What `drain` reads of the node before it changes it. -/
def wasAlive (registry : Registry) (nodeId : Bytes) : Bool :=
  match parseNodeId nodeId with
  | .ok id => (registry.nodes.lookup id).any (·.status == .alive)
  | .error _ => false

end Registry

/-- The metrics a handler adjusts once its table step is done, in their order. -/
def updates (registry : Registry) : Act → Handler → List Update
  | .register .., .publishing .. => [.registerNode, .nodesAlive 1, .nodesTotal, .watchEventsPublished 1]
  | .drain nodeId, .publishing .. =>
    (if registry.wasAlive nodeId then [.nodesAlive (-1)] else []) ++ [.watchEventsPublished 1]
  | .heartbeat .., .publishing .. => [.heartbeatReceived]
  | .expireStale _, .publishing flipped _ =>
    [.nodesAlive (-flipped.length), .watchEventsPublished flipped.length]
  | _, _ => []

structure Metered where
  registry : Registry
  metrics : Metrics

structure MeteredHandler where
  updates : List Update
  handler : Handler

def MeteredHandler.finished (handler : MeteredHandler) : Bool :=
  handler.updates.isEmpty && handler.handler.finished

inductive MeteredAct where
  | handler (act : Act)
  | metric (update : Update)

/-- Registering draws sixteen random bytes; they are taken to be new. -/
def Fresh (registry : Registry) : Act → Prop
  | .register _ nodeId _ => registry.nodes.lookup nodeId = none
  | _ => True

inductive MeteredOwn (s : Metered) (p : MeteredHandler) : MeteredAct → Metered → MeteredHandler → Prop where
  | handler : p.updates = [] → Own s.registry p.handler act registry next → Fresh s.registry act →
      MeteredOwn s p (.handler act) ⟨registry, s.metrics⟩ ⟨updates s.registry act next, next⟩
  | metric : p.updates = update :: rest →
      MeteredOwn s p (.metric update) ⟨s.registry, s.metrics.apply update⟩ ⟨rest, p.handler⟩

def meteredStart (session : Id 16) : Pool Metered MeteredHandler :=
  ⟨⟨.new session, .new⟩, fun _ => ⟨[], .idle⟩⟩

/-- Every call of `publish` takes one sequence number. -/
def publishCalls (path : List (Nat × MeteredAct)) : Nat :=
  path.countP fun label => label.2 matches .handler .takeSequence

/-- Alive nodes, registered nodes and published events, followed together. -/
abbrev Tally := Int × Int × Int

def Update.tally : Update → Tally
  | .nodesAlive change => (change, 0, 0)
  | .nodesTotal => (0, 1, 0)
  | .watchEventsPublished count => (0, 0, count)
  | .registerNode | .heartbeatReceived => 0

def Metrics.tally (metrics : Metrics) : Tally :=
  (metrics.nodesAlive, metrics.nodesTotal, metrics.watchEventsPublishedTotal)

def Registry.tally (registry : Registry) : Tally :=
  (registry.aliveNodes, registry.len, registry.nextSequence)

/-- The events a handler has yet to number. -/
def Handler.unnumbered : Handler → Nat
  | .publishing nodes _ => nodes.length
  | .numbered _ rest _ | .buffered _ rest _ => rest.length
  | .idle | .refused _ => 0

def Handler.tally (handler : Handler) : Tally := (0, 0, handler.unnumbered)

def Metered.quantity (s : Metered) : Tally := s.metrics.tally - s.registry.tally

def MeteredHandler.weight (p : MeteredHandler) : Tally :=
  (p.updates.map Update.tally).sum - p.handler.tally

theorem Metrics.tally_apply (metrics : Metrics) (update : Update) :
    (metrics.apply update).tally = metrics.tally + update.tally := by
  cases update <;> simp [apply, tally, Update.tally]

theorem Handler.tally_finished {handler : Handler} (finished : handler.finished = true) :
    handler.tally = 0 := by
  rcases Handler.finished_cases finished with rfl | ⟨status, rfl⟩ | ⟨reply, rfl⟩
  · rfl
  · rfl
  · rfl

namespace Registry

theorem len_eq (registry : Registry) : registry.len = registry.snapshot.countP fun _ => true := by
  rw [List.countP_true, snapshot, List.length_map, len]

theorem register_alive {registry after : Registry} {request : RegisterRequest} {nodeId : NodeId}
    (answered : registry.register request nodeId nowMs = .ok (info, after)) : info.status = .alive := by
  simp only [register] at answered
  split at answered
  · cases answered
  · cases answered
    rfl

theorem tally_insert_new {registry : Registry} {id : NodeId} (absent : registry.nodes.lookup id = none)
    (alive : info.status = .alive) :
    tally { registry with nodes := registry.nodes.insert id info } =
      registry.tally + (Update.nodesAlive 1).tally + Update.nodesTotal.tally := by
  have counted : aliveNodes { registry with nodes := registry.nodes.insert id info } =
      registry.aliveNodes + (info.status == .alive).toNat :=
    FiniteMap.countP_values_insert_new _ info absent
  have sized : len { registry with nodes := registry.nodes.insert id info } = registry.len + 1 := by
    rw [len_eq, len_eq]
    exact FiniteMap.countP_values_insert_new _ info absent
  rw [alive] at counted
  simp [tally, Update.tally, counted, sized]

theorem tally_insert {registry : Registry} {id : NodeId} (found : registry.nodes.lookup id = some old) :
    tally { registry with nodes := registry.nodes.insert id info } =
      registry.tally + (Update.nodesAlive (info.status == .alive).toNat).tally -
        (Update.nodesAlive (old.status == .alive).toNat).tally := by
  have counted : aliveNodes { registry with nodes := registry.nodes.insert id info } +
      (old.status == .alive).toNat = registry.aliveNodes + (info.status == .alive).toNat :=
    FiniteMap.countP_values_insert _ info found
  have sized : len { registry with nodes := registry.nodes.insert id info } = registry.len := by
    rw [len_eq, len_eq]
    exact Nat.add_right_cancel (FiniteMap.countP_values_insert _ info found)
  refine Prod.ext ?_ (Prod.ext ?_ ?_)
  · simp only [tally, Update.tally, Prod.fst_add, Prod.fst_sub]
    omega
  · simp [tally, Update.tally, sized]
  · simp [tally, Update.tally]

theorem alive_expire (deadlineMs : Nat) (nodes : List NodeInfo) :
    (nodes.map (expire deadlineMs)).countP (·.status == .alive) +
      (nodes.filter (·.isStale deadlineMs)).length = nodes.countP (·.status == .alive) := by
  induction nodes with
  | nil => rfl
  | cons info rest ih =>
    simp only [List.map_cons, List.countP_cons, List.filter_cons, expire]
    by_cases stale : info.isStale deadlineMs = true
    · have alive : (info.status == .alive) = true := (Bool.and_eq_true _ _ ▸ stale).1
      simp only [stale, alive, if_true, List.length_cons]
      simp only [beq_iff_eq, reduceCtorEq, if_false]
      omega
    · simp only [if_neg stale]
      omega

theorem tally_expireStale (registry : Registry) (deadlineMs : Nat) :
    (registry.expireStale deadlineMs).2.tally =
      registry.tally + (Update.nodesAlive (-(registry.expireStale deadlineMs).1.length)).tally := by
  have flipped := alive_expire deadlineMs registry.snapshot
  have mapped : (registry.expireStale deadlineMs).2.snapshot = registry.snapshot.map (expire deadlineMs) :=
    FiniteMap.values_mapValues _ _
  refine Prod.ext ?_ (Prod.ext ?_ ?_)
  · simp only [tally, aliveNodes, mapped]
    simp only [expireStale, List.length_map, Update.tally, Prod.fst_add]
    omega
  · simp [tally, len_eq, mapped, Update.tally]
  · simp [tally, expireStale, Update.tally]

theorem tally_takeSequence (registry : Registry) :
    registry.takeSequence.2.tally = registry.tally + (Update.watchEventsPublished 1).tally := by
  refine Prod.ext (add_zero _).symm (Prod.ext (add_zero _).symm ?_)
  simp [tally, takeSequence, Update.tally]

end Registry

/-- The table and the sequence numbers move by what the handler will report and by
what it has yet to number. -/
theorem own_tally {registry after : Registry} {handler next : Handler}
    (own : Own registry handler act after next) (fresh : Fresh registry act) :
    after.tally + next.tally =
      registry.tally + handler.tally + ((updates registry act next).map Update.tally).sum := by
  cases own with
  | register finished answered =>
    obtain ⟨_, rfl⟩ := Registry.register_ok answered
    rw [Registry.tally_insert_new fresh (Registry.register_alive answered), Handler.tally_finished finished]
    simp [updates, Update.tally, Handler.tally, Handler.unnumbered, add_assoc]
  | drain finished answered =>
    obtain ⟨id, old, parsed, found, rfl, rfl⟩ := Registry.drain_ok answered
    rw [Registry.tally_insert found, Handler.tally_finished finished]
    have drained : (NodeStatus.draining == NodeStatus.alive) = false := rfl
    cases alive : old.status == .alive <;>
      simp [updates, Registry.wasAlive, parsed, found, alive, drained, Update.tally, Handler.tally,
        Handler.unnumbered, add_assoc, sub_eq_add_neg]
  | heartbeat finished answered =>
    obtain ⟨id, old, found, rfl⟩ := Registry.heartbeat_ok answered
    rw [Registry.tally_insert found, Handler.tally_finished finished]
    simp [updates, Update.tally, Handler.tally, Handler.unnumbered]
  | expireStale finished flips =>
    rw [Registry.tally_expireStale, Handler.tally_finished finished, flips.length_eq.symm]
    simp [updates, Update.tally, Handler.tally, Handler.unnumbered, add_assoc]
  | takeSequence same =>
    subst same
    rw [Registry.tally_takeSequence, add_assoc]
    simp [updates, Update.tally, Handler.tally, Handler.unnumbered, add_comm]
  | pushReplay same | broadcast same =>
    subst same
    simp [updates]
    rfl
  | registerRefused finished | drainRefused finished | heartbeatRefused finished =>
    rw [Handler.tally_finished finished]
    simp [updates, Handler.tally, Handler.unnumbered]

theorem metered_conserves : Conserves MeteredOwn Metered.quantity MeteredHandler.weight := by
  intro s p act t q own
  cases own with
  | handler quiet own fresh =>
    have moved := own_tally own fresh
    simp only [Metered.quantity, MeteredHandler.weight, quiet, List.map_nil, List.sum_nil]
    rw [eq_sub_of_add_eq' moved.symm]
    abel
  | metric pending =>
    simp only [Metered.quantity, MeteredHandler.weight, pending, List.map_cons, List.sum_cons,
      Metrics.tally_apply]
    abel

theorem own_nextSequence {registry after : Registry} {handler next : Handler}
    (own : Own registry handler act after next) :
    after.nextSequence = registry.nextSequence + if act matches .takeSequence then 1 else 0 := by
  cases own with
  | register _ answered =>
    obtain ⟨_, rfl⟩ := Registry.register_ok answered
    rfl
  | drain _ answered =>
    obtain ⟨_, _, _, _, rfl, rfl⟩ := Registry.drain_ok answered
    rfl
  | heartbeat _ answered =>
    obtain ⟨_, _, _, rfl⟩ := Registry.heartbeat_ok answered
    rfl
  | _ => rfl

theorem run_nextSequence {session : Id 16} (run : Run (Step MeteredOwn) (meteredStart session) path pool) :
    pool.shared.registry.nextSequence = publishCalls path + 1 := by
  refine run.traced (P := fun path pool => pool.shared.registry.nextSequence = publishCalls path + 1) ?_ rfl
  intro path pool label next counted step
  rw [publishCalls, List.countP_append, List.countP_singleton]
  cases step with
  | act own =>
    cases own with
    | @handler act _ _ _ own =>
      refine (own_nextSequence own).trans ?_
      rw [counted, publishCalls]
      cases act <;> simp
    | metric => exact counted

/-- In the table with another status than alive. -/
def Retired (registry : Registry) (id : NodeId) : Prop :=
  ∃ info, registry.nodes.lookup id = some info ∧ info.status ≠ .alive

theorem Retired.insert {registry : Registry} {other id : NodeId} (retired : Retired registry id)
    (kept : ∀ old, registry.nodes.lookup other = some old → old.status ≠ .alive → info.status ≠ .alive) :
    Retired { registry with nodes := registry.nodes.insert other info } id := by
  obtain ⟨held, found, status⟩ := retired
  by_cases same : id = other
  · subst same
    exact ⟨info, FiniteMap.lookup_insert_self _ _ _, kept held found status⟩
  · refine ⟨held, ?_, status⟩
    rw [FiniteMap.lookup_insert, if_neg same, found]

theorem Retired.expireStale {registry : Registry} {id : NodeId} (retired : Retired registry id)
    (deadlineMs : Nat) : Retired (registry.expireStale deadlineMs).2 id := by
  obtain ⟨held, found, status⟩ := retired
  refine ⟨Registry.expire deadlineMs held, ?_, ?_⟩
  · rw [Registry.expireStale, FiniteMap.lookup_mapValues, found, Option.map_some]
  · simp only [Registry.expire]
    split
    · intro same
      cases same
    · exact status

theorem own_retired {registry after : Registry} {handler next : Handler} {id : NodeId}
    (own : Own registry handler act after next) (fresh : Fresh registry act) (retired : Retired registry id) :
    Retired after id := by
  cases own with
  | register _ answered =>
    obtain ⟨_, rfl⟩ := Registry.register_ok answered
    refine retired.insert fun old found => ?_
    cases found.symm.trans fresh
  | drain _ answered =>
    obtain ⟨_, _, _, _, rfl, rfl⟩ := Registry.drain_ok answered
    exact retired.insert fun _ _ _ => nofun
  | heartbeat _ answered =>
    obtain ⟨_, old, found, rfl⟩ := Registry.heartbeat_ok answered
    refine retired.insert fun old' found' status => ?_
    cases found'.symm.trans found
    exact status
  | expireStale _ _ => exact retired.expireStale _
  | _ => exact retired

theorem run_retired {id : NodeId} (run : Run (Step MeteredOwn) pool path next)
    (retired : Retired pool.shared.registry id) : Retired next.shared.registry id := by
  refine run.invariant (P := fun pool => Retired pool.shared.registry id) ?_ retired
  intro pool label next retired step
  cases step with
  | act own =>
    cases own with
    | handler _ own fresh => exact own_retired own fresh retired
    | metric => exact retired

theorem MeteredHandler.weight_finished {p : MeteredHandler} (finished : p.finished = true) : p.weight = 0 := by
  obtain ⟨updates, handler⟩ := p
  obtain ⟨quiet, finished⟩ := Bool.and_eq_true_iff.mp finished
  cases List.isEmpty_iff.mp quiet
  rw [weight, Handler.tally_finished finished]
  rfl

/-- A node that is no longer alive stays so in every later state, and with no handler
under way the metrics are those of the table and of the events published. -/
theorem registry_accounted {session : Id 16}
    (run : Run (Step MeteredOwn) (meteredStart session) path pool) :
    (∀ more next id info, Run (Step MeteredOwn) pool more next →
      pool.shared.registry.nodes.lookup id = some info → info.status ≠ .alive →
      ∃ later, next.shared.registry.nodes.lookup id = some later ∧ later.status ≠ .alive) ∧
    ((∀ thread, (pool.threads thread).finished = true) →
      pool.shared.metrics.nodesAlive = pool.shared.registry.aliveNodes ∧
      pool.shared.metrics.nodesTotal = pool.shared.registry.len ∧
      pool.shared.metrics.watchEventsPublishedTotal = publishCalls path ∧
      publishCalls path = pool.shared.registry.nextSequence - 1) := by
  refine ⟨fun more next id info later found status => run_retired later ⟨info, found, status⟩, ?_⟩
  intro returned
  have numbered := run_nextSequence run
  have balanced := settled_run metered_conserves run (fun _ => rfl)
    fun thread => MeteredHandler.weight_finished (returned thread)
  have settled : pool.shared.metrics.tally - pool.shared.registry.tally = (0, 0, -1) := balanced
  simp only [Metrics.tally, Registry.tally, Prod.mk_sub_mk, Prod.mk.injEq] at settled
  obtain ⟨alive, total, published⟩ := settled
  exact ⟨by omega, by omega, by omega, by omega⟩

/-- A node is drained before the handler that registered it has touched a gauge. -/
theorem run_drained_early :
    ∃ path pool, Run (Step MeteredOwn) (meteredStart (.nil 16)) path pool ∧ publishCalls path = 2 ∧
      (∀ thread, (pool.threads thread).finished = true) ∧ Retired pool.shared.registry (.nil 16) := by
  have run : Run (Step MeteredOwn) (meteredStart (.nil 16)) [] _ := .refl
  have run := run.next (a := (0, .handler (.register sampleRequest (.nil 16) 0)))
    (.act (.handler rfl (.register rfl rfl) (by exact rfl)))
  have run := run.next (a := (1, .handler (.drain (Id.nil 16).bytes)))
    (.act (.handler rfl (.drain rfl rfl) trivial))
  have run := run.next (a := (1, .metric (.nodesAlive (-1)))) (.act (.metric rfl))
  have run := run.next (a := (0, .metric .registerNode)) (.act (.metric rfl))
  have run := run.next (a := (0, .metric (.nodesAlive 1))) (.act (.metric rfl))
  have run := run.next (a := (0, .metric .nodesTotal)) (.act (.metric rfl))
  have run := run.next (a := (0, .metric (.watchEventsPublished 1))) (.act (.metric rfl))
  have run := run.next (a := (0, .handler .takeSequence)) (.act (.handler rfl (.takeSequence rfl) trivial))
  have run := run.next (a := (0, .handler .pushReplay)) (.act (.handler rfl (.pushReplay rfl) trivial))
  have run := run.next (a := (0, .handler .broadcast)) (.act (.handler rfl (.broadcast rfl) trivial))
  have run := run.next (a := (1, .metric (.watchEventsPublished 1))) (.act (.metric rfl))
  have run := run.next (a := (1, .handler .takeSequence)) (.act (.handler rfl (.takeSequence rfl) trivial))
  have run := run.next (a := (1, .handler .pushReplay)) (.act (.handler rfl (.pushReplay rfl) trivial))
  have run := run.next (a := (1, .handler .broadcast)) (.act (.handler rfl (.broadcast rfl) trivial))
  refine ⟨_, _, run, rfl, fun thread => ?_, _, rfl, nofun⟩
  by_cases first : thread = 0
  · subst first
    rfl
  · by_cases second : thread = 1
    · subst second
      rfl
    · simp only [Pool.set_ne _ first, Pool.set_ne _ second]
      rfl

theorem drained_node_accounted :
    ∃ path pool, Run (Step MeteredOwn) (meteredStart (.nil 16)) path pool ∧
      (∀ thread, (pool.threads thread).finished = true) ∧
      (∀ more next, Run (Step MeteredOwn) pool more next → Retired next.shared.registry (.nil 16)) ∧
      pool.shared.metrics.nodesAlive = pool.shared.registry.aliveNodes ∧
      pool.shared.metrics.nodesTotal = pool.shared.registry.len ∧
      pool.shared.metrics.watchEventsPublishedTotal = 2 := by
  obtain ⟨path, pool, run, calls, returned, info, found, status⟩ := run_drained_early
  obtain ⟨stays, accounted⟩ := registry_accounted run
  obtain ⟨alive, total, published, _⟩ := accounted returned
  exact ⟨path, pool, run, returned, fun more next later => stays more next _ info later found status,
    alive, total, published.trans calls⟩

end Rayd.Gcs
