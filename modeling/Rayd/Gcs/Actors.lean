import Rayd.Lib.FiniteMap
import Rayd.Lib.Transition
import Rayd.Rpc

/-! The registry of named actors. A handler holds the table's lock from its look at the
name to its change and the gauge, so a request is one step. Logging is left out. -/
namespace Rayd.Gcs.Actors
open Memory Transition

section Texts

def hexEscape (c : Char) : String :=
  "\\u\x7b" ++ String.ofList (Nat.toDigits 16 c.toNat) ++ "\x7d"

/-- A character inside quotes, as the standard library's `Debug` writes it; `printable`
says which ones the Unicode tables let through. -/
def debugChar (printable : Char → Bool) (c : Char) : String :=
  match c with
  | '\x00' => "\\0"
  | '\t' => "\\t"
  | '\r' => "\\r"
  | '\n' => "\\n"
  | '\\' => "\\\\"
  | '\"' => "\\\""
  | _ => if printable c then String.singleton c else hexEscape c

def debugText (printable : Char → Bool) (text : String) : String :=
  "\"" ++ String.join (text.toList.map (debugChar printable)) ++ "\""

end Texts

structure ActorInfo where
  name : String
  actorId : ActorId
  ownerNodeId : Bytes
  ownerPid : Nat
  registeredAtUnixMs : Nat
  driverActorHost : String
  driverActorPort : Nat

structure RegisterActorRequest where
  name : String
  actorId : Bytes
  ownerNodeId : Bytes
  ownerPid : Nat
  driverActorHost : String
  driverActorPort : Nat

structure ActorRegistryService where
  actors : FiniteMap String ActorInfo
  /-- The gauge, when metrics are kept. -/
  actorsTotal : Option Int

inductive Request where
  | registerActor (request : RegisterActorRequest)
  | getActor (name : String)
  | unregisterActor (name : String) (actorId : Bytes)
  | list

inductive Answer where
  | registered
  | actor (info : ActorInfo)
  | unregistered
  | actors (infos : List ActorInfo)

namespace ActorRegistryService

def new (metrics : Bool) : ActorRegistryService := ⟨∅, if metrics then some 0 else none⟩

def snapshot (service : ActorRegistryService) : List ActorInfo :=
  service.actors.entries.map fun entry => entry.2

def emptyName : Status := ⟨.invalidArgument, "name must not be empty"⟩

def ownerNodeLength (length : Nat) : Status :=
  ⟨.invalidArgument, "owner_node_id must be 16 bytes (or empty), got " ++ toString length⟩

variable (printable : Char → Bool)

def taken (name : String) : Status :=
  ⟨.alreadyExists, "actor name " ++ debugText printable name ++ " is already registered"⟩

def registerActor (service : ActorRegistryService) (request : RegisterActorRequest) (nowMs : Nat) :
    Except Status Answer × ActorRegistryService :=
  if request.name = "" then (.error emptyName, service)
  else
    match parseId "actor_id" 16 request.actorId with
    | .error status => (.error status, service)
    | .ok actorId =>
      if request.ownerNodeId ≠ [] ∧ request.ownerNodeId.length ≠ 16 then
        (.error (ownerNodeLength request.ownerNodeId.length), service)
      else
        match service.actors.lookup request.name with
        | some existing =>
          -- the same id once more changes nothing, not even the time
          if existing.actorId = actorId then (.ok .registered, service)
          else (.error (taken printable request.name), service)
        | none =>
          (.ok .registered,
            { actors := service.actors.insert request.name ⟨request.name, actorId, request.ownerNodeId,
                request.ownerPid, nowMs, request.driverActorHost, request.driverActorPort⟩
              actorsTotal := service.actorsTotal.map (· + 1) })

def getActor (service : ActorRegistryService) (name : String) : Except Status Answer :=
  if name = "" then .error emptyName
  else
    match service.actors.lookup name with
    | none => .error ⟨.notFound, "no actor named " ++ debugText printable name⟩
    | some info => .ok (.actor info)

/-- An empty name is not refused here: no entry has one. -/
def unregisterActor (service : ActorRegistryService) (name : String) (actorId : Bytes) :
    Except Status Answer × ActorRegistryService :=
  match parseId "actor_id" 16 actorId with
  | .error status => (.error status, service)
  | .ok actorId =>
    match service.actors.lookup name with
    | none => (.error ⟨.notFound, "unknown actor name"⟩, service)
    | some existing =>
      if existing.actorId = actorId then
        (.ok .unregistered,
          { actors := service.actors.erase name, actorsTotal := service.actorsTotal.map (· - 1) })
      else (.error ⟨.failedPrecondition, "actor_id does not match registered entry"⟩, service)

def handle (service : ActorRegistryService) (nowMs : Nat) :
    Request → Except Status Answer × ActorRegistryService
  | .registerActor request => service.registerActor printable request nowMs
  | .getActor name => (service.getActor printable name, service)
  | .unregisterActor name actorId => service.unregisterActor name actorId
  | .list => (.ok (.actors service.snapshot), service)

/-- The id of the actor the name is bound to. -/
def bound (service : ActorRegistryService) (name : String) : Option ActorId :=
  (service.actors.lookup name).map ActorInfo.actorId

end ActorRegistryService

/-- A request, its answer, and the service after it. -/
inductive Step (printable : Char → Bool) (s : ActorRegistryService) :
    Request × Except Status Answer → ActorRegistryService → Prop where
  | handle (nowMs : Nat) : s.handle printable nowMs request = (answer, t) →
      Step printable s (request, answer) t

/-- What a successful registration or unregistration makes of the name. -/
def writes (name : String) : Request × Except Status Answer → Option (Option ActorId)
  | (.registerActor request, .ok _) =>
    if request.name = name then some (Id.fromBytes? 16 request.actorId) else none
  | (.unregisterActor other _, .ok _) => if other = name then some none else none
  | _ => none

/-- The owner by the last of them. -/
def owner (name : String) (history : List (Request × Except Status Answer)) : Option ActorId :=
  (history.filterMap (writes name)).getLast?.join

theorem owner_append (name : String) (history : List (Request × Except Status Answer))
    (label : Request × Except Status Answer) :
    owner name (history ++ [label]) = (writes name label).getD (owner name history) := by
  simp only [owner, List.filterMap_append, List.filterMap_cons, List.filterMap_nil]
  cases writes name label with
  | none => simp
  | some written => simp

/-- What a request does to the service. -/
inductive Effect (s : ActorRegistryService) (label : Request × Except Status Answer) :
    ActorRegistryService → Prop where
  | kept : (∀ name, (writes name label).getD (s.bound name) = s.bound name) → Effect s label s
  | bound : given ≠ "" → s.actors.lookup given = none → info.name = given →
      (∀ name, writes name label = if given = name then some (some info.actorId) else none) →
      Effect s label ⟨s.actors.insert given info, s.actorsTotal.map (· + 1)⟩
  | unbound : s.actors.lookup freed = some info →
      (∀ name, writes name label = if freed = name then some none else none) →
      Effect s label ⟨s.actors.erase freed, s.actorsTotal.map (· - 1)⟩

theorem Effect.refused (request : Request) (status : Status) : Effect s (request, .error status) s := by
  refine .kept fun name => ?_
  cases request <;> rfl

theorem registerActor_effect (s : ActorRegistryService) (request : RegisterActorRequest)
    (handled : s.registerActor printable request nowMs = (answer, t)) :
    Effect s (.registerActor request, answer) t := by
  simp only [ActorRegistryService.registerActor] at handled
  split at handled
  · cases handled
    exact .refused _ _
  · rename_i nonempty
    split at handled
    · cases handled
      exact .refused _ _
    · rename_i actorId parsed
      have written := parseId_ok parsed
      split at handled
      · cases handled
        exact .refused _ _
      · split at handled
        · rename_i existing found
          split at handled
          · -- the name's own actor again: the last write repeats the binding
            rename_i same
            cases handled
            refine .kept fun name => ?_
            simp only [writes, written]
            split
            · rename_i here
              subst here
              simp only [ActorRegistryService.bound, found, Option.map_some, Option.getD_some, same]
            · rfl
          · cases handled
            exact .refused _ _
        · rename_i absent
          cases handled
          exact .bound nonempty absent rfl fun name => by simp only [writes, written]

theorem unregisterActor_effect (s : ActorRegistryService) (name : String) (actorId : Bytes)
    (handled : s.unregisterActor name actorId = (answer, t)) :
    Effect s (.unregisterActor name actorId, answer) t := by
  simp only [ActorRegistryService.unregisterActor] at handled
  split at handled
  · cases handled
    exact .refused _ _
  · split at handled
    · cases handled
      exact .refused _ _
    · rename_i existing found
      split at handled
      · cases handled
        exact .unbound found fun other => rfl
      · cases handled
        exact .refused _ _

theorem step_effect (step : Step printable s label t) : Effect s label t := by
  cases step with
  | @handle request answer _ nowMs handled =>
    cases request with
    | registerActor request => exact registerActor_effect s request handled
    | unregisterActor name actorId => exact unregisterActor_effect s name actorId handled
    | getActor name =>
      cases handled
      exact .kept fun _ => rfl
    | list =>
      cases handled
      exact .kept fun _ => rfl

/-- The table says what the history says, entries carry their names, and the gauge
counts them. -/
structure Sound (history : List (Request × Except Status Answer)) (s : ActorRegistryService) : Prop where
  owned : ∀ name, s.bound name = owner name history
  named : ∀ name info, s.actors.lookup name = some info → info.name = name ∧ name ≠ ""
  counted : ∀ total, s.actorsTotal = some total → total = s.actors.keys.length

theorem sound_new (metrics : Bool) : Sound [] (.new metrics) := by
  refine ⟨fun _ => rfl, fun _ _ => nofun, fun total found => ?_⟩
  cases metrics with
  | false => cases found
  | true =>
    cases found
    rfl

theorem sound_step (before : Sound history s) (step : Step printable s label t) :
    Sound (history ++ [label]) t := by
  have effect := step_effect step
  cases effect with
  | kept same =>
    refine ⟨fun name => ?_, before.named, before.counted⟩
    rw [owner_append, ← before.owned, same]
  | @bound given info nonempty absent same written =>
    refine ⟨fun name => ?_, fun name other found => ?_, fun total found => ?_⟩
    · rw [owner_append, ← before.owned, written]
      simp only [ActorRegistryService.bound, FiniteMap.lookup_insert, eq_comm (a := name)]
      split <;> rfl
    · rw [FiniteMap.lookup_insert] at found
      split at found
      · rename_i here
        cases found
        exact ⟨same.trans here.symm, here ▸ nonempty⟩
      · exact before.named name other found
    · obtain ⟨old, earlier, rfl⟩ := Option.map_eq_some_iff.mp found
      rw [FiniteMap.length_keys_insert info absent, before.counted old earlier]
      push_cast
      rfl
  | @unbound freed info present written =>
    refine ⟨fun name => ?_, fun name other found => ?_, fun total found => ?_⟩
    · rw [owner_append, ← before.owned, written]
      simp only [ActorRegistryService.bound, FiniteMap.lookup_erase, eq_comm (a := name)]
      split <;> rfl
    · rw [FiniteMap.lookup_erase] at found
      split at found
      · cases found
      · exact before.named name other found
    · obtain ⟨old, earlier, rfl⟩ := Option.map_eq_some_iff.mp found
      have size := FiniteMap.length_keys_erase present
      have count := before.counted old earlier
      change old - 1 = ((s.actors.erase freed).keys.length : Int)
      omega

theorem sound_run (run : Run (Step printable) (.new metrics) history s) : Sound history s :=
  run.traced sound_step (sound_new metrics)

/-- A name that is bound cannot be registered by anyone else, and not even its own
actor changes the entry. -/
theorem registerActor_bound (s : ActorRegistryService) (request : RegisterActorRequest) (nowMs : Nat)
    (held : s.bound request.name = some actorId) :
    (s.registerActor printable request nowMs).2 = s ∧
      (request.actorId ≠ actorId.bytes →
        ∃ status, (s.registerActor printable request nowMs).1 = .error status) := by
  obtain ⟨info, found, rfl⟩ := Option.map_eq_some_iff.mp held
  simp only [ActorRegistryService.registerActor, found]
  split
  · exact ⟨rfl, fun _ => ⟨_, rfl⟩⟩
  · split
    · exact ⟨rfl, fun _ => ⟨_, rfl⟩⟩
    · rename_i actorId parsed
      split
      · exact ⟨rfl, fun _ => ⟨_, rfl⟩⟩
      · split
        · rename_i same
          refine ⟨rfl, fun other => absurd ?_ other⟩
          rw [same]
          exact Id.eq_bytes_of_fromBytes? (parseId_ok parsed)
        · exact ⟨rfl, fun _ => ⟨_, rfl⟩⟩

theorem unregisterActor_other (s : ActorRegistryService) (name : String) (bytes : Bytes)
    (other : ∀ actorId, s.bound name = some actorId → bytes ≠ actorId.bytes) :
    (s.unregisterActor name bytes).2 = s ∧ ∃ status, (s.unregisterActor name bytes).1 = .error status := by
  simp only [ActorRegistryService.unregisterActor]
  split
  · exact ⟨rfl, _, rfl⟩
  · rename_i actorId parsed
    split
    · exact ⟨rfl, _, rfl⟩
    · rename_i info found
      have bound : s.bound name = some info.actorId := by
        simp only [ActorRegistryService.bound, found, Option.map_some]
      split
      · rename_i same
        exact absurd (Id.eq_bytes_of_fromBytes? (parseId_ok parsed)) (same ▸ other _ bound)
      · exact ⟨rfl, _, rfl⟩

theorem getActor_bound (s : ActorRegistryService) (nonempty : name ≠ "") :
    (∀ actorId, s.bound name = some actorId →
      ∃ info, s.getActor printable name = .ok (.actor info) ∧ info.actorId = actorId) ∧
    (s.bound name = none → ∃ message, s.getActor printable name = .error ⟨.notFound, message⟩) := by
  simp only [ActorRegistryService.getActor, if_neg nonempty, ActorRegistryService.bound]
  cases s.actors.lookup name with
  | none => exact ⟨nofun, fun _ => ⟨_, rfl⟩⟩
  | some info =>
    refine ⟨fun actorId held => ⟨info, rfl, ?_⟩, nofun⟩
    exact Option.some.inj held

theorem Sound.single (sound : Sound history s) (first : info ∈ s.snapshot) (second : other ∈ s.snapshot)
    (same : info.name = other.name) : info = other := by
  obtain ⟨⟨key, _⟩, member, rfl⟩ := List.mem_map.mp first
  obtain ⟨⟨key', _⟩, member', rfl⟩ := List.mem_map.mp second
  have found := AList.mem_lookup_iff.mpr member
  have found' := AList.mem_lookup_iff.mpr member'
  have names : key = key' := by
    rw [← (sound.named _ _ found).1, ← (sound.named _ _ found').1]
    exact same
  subst names
  rw [found] at found'
  exact Option.some.inj found'

/-- Who owns which name, after any requests. -/
structure Owned (printable : Char → Bool) (history : List (Request × Except Status Answer))
    (s : ActorRegistryService) : Prop where
  /-- Bound to the actor of the last successful registration, if no successful
  unregistration has come after it. -/
  lastWriter : ∀ name actorId, s.bound name = some actorId ↔
    (history.filterMap (writes name)).getLast? = some (some actorId)
  registerOther : ∀ request nowMs actorId, s.bound request.name = some actorId →
    request.actorId ≠ actorId.bytes → (s.registerActor printable request nowMs).2 = s
  unregisterOther : ∀ name bytes, (∀ actorId, s.bound name = some actorId → bytes ≠ actorId.bytes) →
    (s.unregisterActor name bytes).2 = s
  single : ∀ info ∈ s.snapshot, ∀ other ∈ s.snapshot, info.name = other.name → info = other
  found : ∀ name actorId, name ≠ "" → s.bound name = some actorId →
    ∃ info, s.getActor printable name = .ok (.actor info) ∧ info.actorId = actorId
  notFound : ∀ name, name ≠ "" → s.bound name = none →
    ∃ message, s.getActor printable name = .error ⟨.notFound, message⟩
  empty : s.bound "" = none ∧ s.getActor printable "" = .error ActorRegistryService.emptyName
  /-- The gauge is the number of names in the table, each of them once. -/
  gauge : s.actors.keys.Nodup ∧ (∀ name, name ∈ s.actors.keys ↔ s.bound name ≠ none) ∧
    ∀ total, s.actorsTotal = some total → total = s.actors.keys.length

theorem actor_names_owned (run : Run (Step printable) (.new metrics) history s) :
    Owned printable history s := by
  have sound := sound_run run
  refine ⟨fun name actorId => ?_, fun request nowMs actorId held _ => ?_, fun name bytes other => ?_,
    fun info first other second same => sound.single first second same, ?_, ?_, ⟨?_, rfl⟩,
    s.actors.nodupKeys, ?_, sound.counted⟩
  · rw [sound.owned, owner, Option.join_eq_some_iff]
  · exact (registerActor_bound s request nowMs held).1
  · exact (unregisterActor_other s name bytes other).1
  · exact fun name actorId nonempty => (getActor_bound s nonempty).1 actorId
  · exact fun name nonempty => (getActor_bound s nonempty).2
  · cases found : s.actors.lookup "" with
    | none => simp only [ActorRegistryService.bound, found, Option.map_none]
    | some info => exact absurd rfl (sound.named "" info found).2
  · intro name
    rw [FiniteMap.mem_keys_iff, ActorRegistryService.bound]
    simp [Option.ne_none_iff_exists']

section Samples

def ascii (c : Char) : Bool := 32 ≤ c.toNat && c.toNat < 127

def counterRequest : RegisterActorRequest := ⟨"counter", List.replicate 16 1, [], 7, "", 0⟩

def rivalRequest : RegisterActorRequest := ⟨"counter", List.replicate 16 2, [], 8, "", 0⟩

/-- One actor takes the name, another one is refused. -/
theorem actor_names_owned_counter :
    ∃ history s, Run (Step ascii) (.new true) history s ∧ history.length = 2 ∧
      s.bound "counter" = some ⟨List.replicate 16 1, rfl⟩ ∧ Owned ascii history s := by
  have run : Run (Step ascii) (.new true) [] _ := .refl
  have run := run.next (a := (.registerActor counterRequest, _)) (.handle 5 rfl)
  have run := run.next (a := (.registerActor rivalRequest, _)) (.handle 6 rfl)
  exact ⟨_, _, run, rfl, rfl, actor_names_owned run⟩

/-- A name nobody has bound, and the answer is not `NotFound`. -/
theorem empty_name_invalid :
    (ActorRegistryService.new true).bound "" = none ∧
      (ActorRegistryService.new true).getActor ascii "" =
        .error ⟨.invalidArgument, "name must not be empty"⟩ :=
  ⟨rfl, rfl⟩

end Samples
end Rayd.Gcs.Actors
