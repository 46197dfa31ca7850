import Rayd.Lib.Transition
import Rayd.Gcs.Registry
import Mathlib.Logic.Function.Basic

/-! Heartbeats and the sweeper. `register` reads the clock before it takes the lock of the
table, `heartbeat` reads it inside; the sweeper reads it when an interval is over and takes
the lock after that. There is one clock, in milliseconds, and it does not go back. How late
the sweeper and the handlers are is left open here and bounded in the results. Node ids are
random and do not repeat; publishing is left out. -/
namespace Rayd.Gcs.Liveness
open Memory Transition

structure GcsServerConfig where
  heartbeatTimeout : Nat
  sweepInterval : Nat

/-- The sweeper's period. -/
def GcsServerConfig.interval (config : GcsServerConfig) : Nat :=
  min config.sweepInterval config.heartbeatTimeout

/-- A `register` between its reading of the clock and the lock. -/
structure Registering where
  request : RegisterRequest
  nodeId : NodeId
  nowMs : Nat

inductive Sweeper where
  | waiting
  /-- The clock has been read. -/
  | expiring (nowMs : Nat)

structure Cluster where
  registry : Registry
  now : Nat
  handlers : Nat → Option Registering
  sweeper : Sweeper
  /-- When the sweeper's current interval is over. -/
  due : Nat
  /-- The time the last finished sweep has read; at first the start of the server. -/
  swept : Nat

def start (config : GcsServerConfig) (sessionId : Id 16) (now : Nat) : Cluster :=
  ⟨.new sessionId, now, fun _ => none, .waiting, now + config.interval, now⟩

inductive Act where
  | tick (later : Nat)
  | read (handler : Nat)
  | register (handler : Nat)
  | heartbeat (nodeId : Bytes)
  | drain (nodeId : Bytes)
  | sweep
  | expire

inductive Step (config : GcsServerConfig) (s : Cluster) : Act → Cluster → Prop where
  | tick : s.now ≤ later → Step config s (.tick later) { s with now := later }
  | read (request : RegisterRequest) (nodeId : NodeId) : s.handlers handler = none →
      Step config s (.read handler)
        { s with handlers := Function.update s.handlers handler (some ⟨request, nodeId, s.now⟩) }
  | register : s.handlers handler = some registering →
      s.registry.nodes.lookup registering.nodeId = none →
      s.registry.register registering.request registering.nodeId registering.nowMs = .ok (info, registry) →
      Step config s (.register handler)
        { s with registry := registry, handlers := Function.update s.handlers handler none }
  | refuse : s.handlers handler = some registering →
      s.registry.register registering.request registering.nodeId registering.nowMs = .error status →
      Step config s (.register handler) { s with handlers := Function.update s.handlers handler none }
  | heartbeat {nodeId : Bytes} : s.registry.heartbeat nodeId s.now = .ok registry →
      Step config s (.heartbeat nodeId) { s with registry := registry }
  | drain {nodeId : Bytes} : s.registry.drain nodeId = .ok (info, registry) →
      Step config s (.drain nodeId) { s with registry := registry }
  /-- There is no sweeper for a timeout of zero. -/
  | sweep : config.heartbeatTimeout ≠ 0 → s.sweeper = .waiting → s.due ≤ s.now →
      Step config s .sweep { s with sweeper := .expiring s.now }
  | expire : s.sweeper = .expiring nowMs →
      Step config s .expire
        { s with
          registry := (s.registry.expireStale (nowMs - config.heartbeatTimeout)).2
          sweeper := .waiting
          due := s.due + config.interval
          swept := nowMs }

section Entries
variable {config : GcsServerConfig} {s t : Cluster}

/-- What a step does to the entry of a node. -/
inductive Change (config : GcsServerConfig) (s : Cluster) (id : NodeId) : Act → Option NodeInfo → Prop where
  | same : act ≠ .expire → Change config s id act (s.registry.nodes.lookup id)
  | absent : Change config s id act none
  | registered : s.handlers handler = some registering → registering.nodeId = id → info.status = .alive →
      info.lastHeartbeatUnixMs = registering.nowMs → Change config s id (.register handler) (some info)
  | beat : s.registry.nodes.lookup id = some old →
      Change config s id (.heartbeat nodeId) (some { old with lastHeartbeatUnixMs := s.now })
  | drained : s.registry.nodes.lookup id = some old →
      Change config s id (.drain nodeId) (some { old with status := .draining })
  | swept : s.sweeper = .expiring nowMs → s.registry.nodes.lookup id = some old →
      Change config s id .expire (some (Registry.expire (nowMs - config.heartbeatTimeout) old))

theorem Change.insert {node id : NodeId} (here : node = id → Change config s id act (some info))
    (other : act ≠ .expire) : Change config s id act ((s.registry.nodes.insert node info).lookup id) := by
  rw [FiniteMap.lookup_insert]
  split
  · exact here (Eq.symm ‹_›)
  · exact .same other

theorem step_entry (step : Step config s act t) (id : NodeId) :
    Change config s id act (t.registry.nodes.lookup id) := by
  cases step with
  | tick | read | refuse | sweep => exact .same fun now => by cases now
  | @register handler registering info registry waits new answered =>
    obtain ⟨_, rfl⟩ := Registry.register_ok answered
    refine .insert (fun here => ?_) (fun now => by cases now)
    simp only [Registry.register] at answered
    split at answered
    · cases answered
    · cases answered
      exact .registered waits here rfl rfl
  | heartbeat answered =>
    obtain ⟨node, old, found, rfl⟩ := Registry.heartbeat_ok answered
    exact .insert (fun here => .beat (here ▸ found)) (fun now => by cases now)
  | drain answered =>
    obtain ⟨node, old, _, found, rfl, rfl⟩ := Registry.drain_ok answered
    exact .insert (fun here => .drained (here ▸ found)) (fun now => by cases now)
  | @expire nowMs expiring =>
    show Change config s id _ ((s.registry.nodes.mapValues _).lookup id)
    rw [FiniteMap.lookup_mapValues]
    cases found : s.registry.nodes.lookup id with
    | none => exact .absent
    | some old => exact .swept expiring found

/-- The clock and the sweeper: a time that was read is not ahead of the clock. -/
structure Timed (config : GcsServerConfig) (s : Cluster) : Prop where
  swept : s.swept ≤ s.now
  due : s.due ≤ s.swept + config.interval
  expiring : ∀ nowMs, s.sweeper = .expiring nowMs → nowMs ≤ s.now ∧ s.due ≤ nowMs

theorem timed_step (timed : Timed config s) (step : Step config s act t) : Timed config t := by
  cases step with
  | tick later =>
    refine ⟨timed.swept.trans later, timed.due, fun nowMs reading => ?_⟩
    obtain ⟨early, past⟩ := timed.expiring nowMs reading
    exact ⟨early.trans later, past⟩
  | sweep _ _ past =>
    refine ⟨timed.swept, timed.due, fun nowMs reading => ?_⟩
    cases reading
    exact ⟨le_rfl, past⟩
  | @expire nowMs reading =>
    obtain ⟨early, past⟩ := timed.expiring nowMs reading
    exact ⟨early, Nat.add_le_add_right past _, fun _ none => by cases none⟩
  | _ => exact ⟨timed.swept, timed.due, timed.expiring⟩

theorem timed_start (config : GcsServerConfig) (sessionId : Id 16) (now : Nat) :
    Timed config (start config sessionId now) :=
  ⟨le_rfl, le_rfl, fun _ none => by cases none⟩

theorem isStale_false_iff {deadlineMs : Nat} {info : NodeInfo} (alive : info.status = .alive) :
    info.isStale deadlineMs = false ↔ deadlineMs ≤ info.lastHeartbeatUnixMs := by
  simp [NodeInfo.isStale, alive]

end Entries

section Accuracy
variable {config : GcsServerConfig} {s t : Cluster} {node : NodeId} {gap : Nat}

/-- While the node is alive, the clock does not run more than the gap ahead of its last
heartbeat, the one it registers with included. -/
def Beats (node : NodeId) (gap : Nat) (s : Cluster) : Act → Prop
  | .tick later => ∀ info, s.registry.nodes.lookup node = some info → info.status = .alive →
      later ≤ info.lastHeartbeatUnixMs + gap
  | .register handler => ∀ registering, s.handlers handler = some registering → registering.nodeId = node →
      s.now ≤ registering.nowMs + gap
  | _ => True

/-- The node has not been given up, and was heard of lately if it is alive. -/
def Heard (node : NodeId) (gap : Nat) (s : Cluster) : Prop :=
  ∀ info, s.registry.nodes.lookup node = some info →
    info.status = .alive ∧ s.now ≤ info.lastHeartbeatUnixMs + gap ∨ info.status = .draining

theorem Heard.step (heard : Heard node gap s) (enough : gap ≤ config.heartbeatTimeout) (timed : Timed config s)
    (step : Guarded (Beats node gap) (Step config) s act t) : Heard node gap t := by
  obtain ⟨beats, step⟩ := step
  -- the clock moves with ticks only, and then no entry does
  have clock : t.now = s.now ∨ ∃ later, act = .tick later ∧ t = { s with now := later } := by
    cases step with
    | tick => exact .inr ⟨_, rfl, rfl⟩
    | _ => exact .inl rfl
  rcases clock with still | ⟨later, rfl, rfl⟩
  · intro info found
    have change := step_entry step node
    rw [found] at change
    rw [still]
    generalize same : some info = entry at change
    cases change with
    | same => exact heard info same.symm
    | absent => cases same
    | @registered handler registering fresh waits here alive stamp =>
      cases same
      exact .inl ⟨alive, stamp ▸ beats registering waits here⟩
    | @beat old nodeId was =>
      cases same
      exact (heard old was).imp_left fun kept => ⟨kept.1, Nat.le_add_right _ _⟩
    | drained =>
      cases same
      exact .inr rfl
    | @swept nowMs old reading was =>
      cases same
      rcases heard old was with ⟨alive, recent⟩ | draining
      · have early := (timed.expiring nowMs reading).1
        have fresh : old.isStale (nowMs - config.heartbeatTimeout) = false :=
          (isStale_false_iff alive).mpr (by omega)
        rw [Registry.expire, fresh]
        exact .inl ⟨alive, recent⟩
      · rw [Registry.expire, show old.isStale _ = false by simp [NodeInfo.isStale, draining]]
        exact .inr draining
  · intro info found
    rcases heard info found with ⟨alive, _⟩ | draining
    · exact .inl ⟨alive, beats info found alive⟩
    · exact .inr draining

/-- A node whose heartbeats reach the table no further apart than the timeout, counted from
the time its registration has read, is never marked dead, however the sweeper and the other
handlers fall in between. -/
theorem beating_node_not_expired (enough : gap ≤ config.heartbeatTimeout)
    (run : Run (Guarded (Beats node gap) (Step config)) (start config sessionId now) path s) :
    ∀ info, s.registry.nodes.lookup node = some info →
      info.status = .alive ∨ info.status = .draining := by
  have kept : Timed config s ∧ Heard node gap s := by
    refine run.invariant (P := fun s => Timed config s ∧ Heard node gap s) ?_
      ⟨timed_start .., fun _ none => by cases none⟩
    rintro u act v ⟨timed, heard⟩ step
    exact ⟨timed_step timed step.2, heard.step enough timed step⟩
  intro info found
  exact (kept.2 info found).imp_left And.left

def sampleConfig : GcsServerConfig := ⟨10000, 1000⟩

/-- The sweeper has read the clock ten seconds after the registration and takes the lock when
a heartbeat has come. -/
theorem late_sweep_spares_node : ∃ path s info,
    Run (Guarded (Beats (.nil 16) 10000) (Step sampleConfig)) (start sampleConfig (.nil 16) 0) path s ∧
    .expire ∈ path ∧ s.registry.nodes.lookup (.nil 16) = some info ∧
    (info.status = .alive ∨ info.status = .draining) := by
  have run : Run (Guarded (Beats (.nil 16) 10000) (Step sampleConfig)) (start sampleConfig (.nil 16) 0) [] _ :=
    .refl
  have run := run.next (a := Act.read 0) ⟨trivial, .read ⟨.name "h", 1⟩ (.nil 16) rfl⟩
  have run := run.next (a := Act.register 0)
    ⟨fun _ waits _ => by cases waits; decide, .register rfl rfl rfl⟩
  have run := run.next (a := Act.tick 10000) ⟨fun _ found _ => by cases found; decide, .tick (by decide)⟩
  have run := run.next (a := Act.sweep) ⟨trivial, .sweep (by decide) rfl (by decide)⟩
  have run := run.next (a := Act.heartbeat (List.replicate 16 0)) ⟨trivial, .heartbeat rfl⟩
  have run := run.next (a := Act.tick 20000) ⟨fun _ found _ => by cases found; decide, .tick (by decide)⟩
  have run := run.next (a := Act.expire) ⟨trivial, .expire rfl⟩
  exact ⟨_, _, _, run, List.mem_append_right _ (List.mem_singleton.mpr rfl), rfl,
    beating_node_not_expired (by decide) run _ rfl⟩

end Accuracy

section Completeness
variable {config : GcsServerConfig} {s t : Cluster} {delay : Nat}

/-- A sweep is done within the delay after its interval is over, and a registration reaches
the table before the time it has read is too old. -/
def Prompt (config : GcsServerConfig) (delay : Nat) (s : Cluster) : Act → Prop
  | .tick later => later ≤ s.due + delay
  | .register handler => ∀ registering, s.handlers handler = some registering →
      s.now ≤ registering.nowMs + config.heartbeatTimeout
  | _ => True

/-- Alive nodes were not late at the last sweep. -/
structure Swept (config : GcsServerConfig) (delay : Nat) (s : Cluster) : Prop where
  timed : Timed config s
  prompt : s.now ≤ s.due + delay
  alive : ∀ id info, s.registry.nodes.lookup id = some info → info.status = .alive →
    s.swept ≤ info.lastHeartbeatUnixMs + config.heartbeatTimeout

theorem expire_alive {deadlineMs : Nat} {old : NodeInfo} (alive : (Registry.expire deadlineMs old).status = .alive) :
    deadlineMs ≤ (Registry.expire deadlineMs old).lastHeartbeatUnixMs := by
  rw [Registry.expire] at alive ⊢
  split at alive
  · cases alive
  · rename_i fresh
    rw [if_neg fresh]
    exact (isStale_false_iff alive).mp (Bool.eq_false_iff.mpr fresh)

theorem Swept.step (swept : Swept config delay s) (step : Guarded (Prompt config delay) (Step config) s act t) :
    Swept config delay t := by
  obtain ⟨prompt, step⟩ := step
  obtain ⟨timed, late, kept⟩ := swept
  have onTime : t.now ≤ t.due + delay := by
    cases step with
    | tick => exact prompt
    | expire => exact late.trans (Nat.add_le_add_right (Nat.le_add_right _ _) _)
    | _ => exact late
  refine ⟨timed_step timed step, onTime, fun id info found alive => ?_⟩
  have before := timed.swept
  -- a sweep is finished by its own step only
  have clock : act ≠ .expire ∧ t.swept = s.swept ∨ act = .expire ∧ s.sweeper = .expiring t.swept := by
    cases step with
    | expire reading => exact .inr ⟨rfl, reading⟩
    | _ => exact .inl ⟨(fun now => by cases now), rfl⟩
  have change := step_entry step id
  rw [found] at change
  generalize same : some info = entry at change
  rcases clock with ⟨other, still⟩ | ⟨rfl, reading⟩
  · rw [still]
    cases change with
    | same => exact kept id info same.symm alive
    | absent => cases same
    | swept => exact absurd rfl other
    | @registered handler registering fresh waits here _ stamp =>
      cases same
      have early : s.now ≤ registering.nowMs + config.heartbeatTimeout := prompt registering waits
      omega
    | beat =>
      cases same
      exact before.trans (Nat.le_add_right _ _)
    | drained =>
      cases same
      cases alive
  · cases change with
    | same other => exact absurd rfl other
    | absent => cases same
    | @swept nowMs old again was =>
      cases same
      cases reading.symm.trans again
      have recent := expire_alive alive
      omega

/-- With a sweeper that is no more than the delay late, and registrations no older than the
timeout, no node stays alive longer than the timeout, one interval and the delay after its
last heartbeat. -/
theorem silent_node_expired
    (run : Run (Guarded (Prompt config delay) (Step config)) (start config sessionId now) path s) :
    ∀ id info, s.registry.nodes.lookup id = some info → info.status = .alive →
      s.now ≤ info.lastHeartbeatUnixMs + config.heartbeatTimeout + config.interval + delay := by
  have swept : Swept config delay s := by
    refine run.invariant (P := Swept config delay) (fun swept step => swept.step step)
      ⟨timed_start .., ?_, fun _ _ none => by cases none⟩
    show now ≤ now + config.interval + delay
    omega
  intro id info found alive
  have last := swept.alive id info found alive
  have due := swept.timed.due
  have late := swept.prompt
  omega

/-- A node that is not heard of again is still alive just before the sweep that finds it. -/
theorem silent_node_not_yet_expired : ∃ path s info,
    Run (Guarded (Prompt ⟨2000, 1000⟩ 500) (Step ⟨2000, 1000⟩)) (start ⟨2000, 1000⟩ (.nil 16) 0) path s ∧
    s.now = 1500 ∧ s.registry.nodes.lookup (.nil 16) = some info ∧
    s.now ≤ info.lastHeartbeatUnixMs + 2000 + 1000 + 500 := by
  have run : Run (Guarded (Prompt ⟨2000, 1000⟩ 500) (Step ⟨2000, 1000⟩)) (start ⟨2000, 1000⟩ (.nil 16) 0) [] _ :=
    .refl
  have run := run.next (a := Act.read 0) ⟨trivial, .read ⟨.name "h", 1⟩ (.nil 16) rfl⟩
  have run := run.next (a := Act.register 0)
    ⟨fun _ waits => by cases waits; decide, .register rfl rfl rfl⟩
  have run := run.next (a := Act.tick 1500) ⟨show 1500 ≤ 1000 + 500 by decide, .tick (by decide)⟩
  exact ⟨_, _, _, run, rfl, rfl, silent_node_expired run (.nil 16) _ rfl rfl⟩

end Completeness

end Rayd.Gcs.Liveness
