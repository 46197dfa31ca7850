import Rayd.Plasma.Refused

/-! Entries that are created and not yet sealed. A `Create` is refused whether or
not the entry in its way is sealed, and nothing ties an entry to the connection that
created it: what `AlreadyExists` means, and what a connection leaves behind when it
ends, depends on how far the creator has come. -/
namespace Rayd.Plasma.Connections
open Transition Function

/-- What `handle_connection` does next, over any number of connections. -/
inductive Label where
  | served (event : Event)
  /-- The request is done, its reply cannot be written. -/
  | unsent (client : Nat) (request : Request) (response : Response)
  | malformed (client : Nat)
  /-- `recv_frame` fails: end of file, protocol or socket error. -/
  | ended (client : Nat)

inductive Serve (s : System) : Label → System → Prop where
  | step : Step s event t → Serve s (.served event) t
  | unsent : Step s (.answered client request response) t →
      Serve s (.unsent client request response) { t.move t.server client .closed with slots := s.slots }
  | malformed : s.threads client = .idle → Serve s (.malformed client) s
  | ended : s.threads client = .idle → Serve s (.ended client) (s.move s.server client .closed)

namespace Event

/-- The request that has been carried out. -/
def outcome : Event → Option (Nat × Request × Response)
  | .answered client request response => some (client, request, response)
  | _ => none

end Event

namespace Label

def outcome : Label → Option (Nat × Request × Response)
  | .served event => event.outcome
  | .unsent client request response => some (client, request, response)
  | _ => none

/-- The connection whose handler returns. -/
def closes : Label → Option Nat
  | .served (.closed client) | .unsent client _ _ | .ended client => some client
  | _ => none

end Label

/-- The client whose create of the id has been carried out. -/
def creates (id : ObjectId) : Option (Nat × Request × Response) → Option Nat
  | some (client, .create request, .created _) => if request.objectId = id then some client else none
  | _ => none

def seals (id : ObjectId) : Option (Nat × Request × Response) → Bool
  | some (_, .sealObject other, .ok) => other == id
  | _ => false

def deletes (id : ObjectId) : Option (Nat × Request × Response) → Bool
  | some (_, .delete other, _) | some (_, .release other, _) => other == id
  | _ => false

/-- Who is between the create and the seal of the id, after one more request. -/
def creator (id : ObjectId) (before : Option Nat) (label : Label) : Option Nat :=
  match creates id label.outcome with
  | some client => some client
  | none => if seals id label.outcome || deletes id label.outcome then none else before

/-- The client that was last answered `Created` for the id, unless the id has been
sealed or deleted since. -/
def unsealedBy (path : List Label) (id : ObjectId) : Option Nat := path.foldl (creator id) none

theorem unsealedBy_append (path : List Label) (label : Label) (id : ObjectId) :
    unsealedBy (path ++ [label]) id = creator id (unsealedBy path id) label := by
  simp only [unsealedBy, List.foldl_append, List.foldl_cons, List.foldl_nil]

/-- What a request does to the entry of one id. -/
inductive Touch (id : ObjectId) (done : Option (Nat × Request × Response)) :
    Option ObjectEntry → Option ObjectEntry → Prop where
  | created : creates id done = some client → entry.isSealed = false → Touch id done before (some entry)
  | marked : creates id done = none → seals id done = true → entry.isSealed = false →
      Touch id done (some entry) (some { entry with isSealed := true })
  | deleted : creates id done = none → deletes id done = true → Touch id done before none
  | kept : creates id done = none → seals id done = false → deletes id done = false →
      Touch id done before before

section Touching
variable {id : ObjectId}

theorem touch_quiet (entry : Option ObjectEntry) : Touch id none entry entry := .kept rfl rfl rfl

theorem handleSeal_touch (server : Server) (client : Nat) (object : ObjectId) :
    Touch id (some (client, .sealObject object, (server.handleSeal object).1))
      (server.objects.lookup id) ((server.handleSeal object).2.objects.lookup id) := by
  cases found : server.objects.lookup object with
  | none =>
    simp only [Server.handleSeal, found]
    exact .kept rfl rfl rfl
  | some entry =>
    cases final : entry.isSealed with
    | true =>
      simp only [Server.handleSeal, found, final, if_true]
      exact .kept rfl rfl rfl
    | false =>
      simp only [Server.handleSeal, found, final, Bool.false_eq_true, if_false,
        FiniteMap.lookup_insert]
      by_cases same : id = object
      · subst same
        rw [if_pos rfl, found]
        exact .marked rfl (beq_self_eq_true id) final
      · rw [if_neg same]
        exact .kept rfl (beq_false_of_ne (Ne.symm same)) rfl

theorem answer_touch {server after : Server} (client : Nat) (request : Request)
    (answered : server.answer request = some (response, after)) :
    Touch id (some (client, request, response)) (server.objects.lookup id) (after.objects.lookup id) := by
  cases request with
  | sealObject object =>
    obtain ⟨rfl, rfl⟩ := Prod.mk.inj (Option.some.inj answered)
    exact handleSeal_touch server client object
  | release object | delete object =>
    obtain ⟨rfl, rfl⟩ := Prod.mk.inj (Option.some.inj answered)
    rw [FiniteMap.lookup_erase]
    by_cases same : id = object
    · subst same
      rw [if_pos rfl]
      exact .deleted rfl (beq_self_eq_true id)
    · rw [if_neg same]
      exact .kept rfl rfl (beq_false_of_ne (Ne.symm same))
  | contains object =>
    simp only [Server.answer] at answered
    split at answered
    · split at answered
      · cases answered
      · cases answered
        exact .kept rfl rfl rfl
    · cases answered
      exact .kept rfl rfl rfl
  | get object | list =>
    cases answered
    exact .kept rfl rfl rfl
  | create _ | disconnect => cases answered

theorem createCheck_some {server : Server} (refused : server.createCheck id = some response) :
    (∃ entry, server.objects.lookup id = some entry) ∧
      response = .error .alreadyExists "object already created" := by
  simp only [Server.createCheck] at refused
  split at refused
  · rename_i present
    cases refused
    exact ⟨Option.isSome_iff_exists.mp present, rfl⟩
  · cases refused

theorem createCheck_none {server : Server} (passed : server.createCheck id = none) :
    server.objects.lookup id = none := by
  simpa [Server.createCheck] using passed

theorem createInsert_touch (server : Server) (client : Nat) (request : CreateRequest) (info : SlotInfo)
    {entry : ObjectEntry} (fresh : entry.isSealed = false) :
    Touch id (some (client, .create request, .created info)) (server.objects.lookup id)
      ((server.objects.insert request.objectId entry).lookup id) := by
  rw [FiniteMap.lookup_insert]
  by_cases same : id = request.objectId
  · rw [if_pos same]
    exact .created (if_pos same.symm) fresh
  · rw [if_neg same]
    exact .kept (if_neg (Ne.symm same)) rfl rfl

theorem step_touch (step : Step s event t) (id : ObjectId) :
    Touch id event.outcome (s.server.objects.lookup id) (t.server.objects.lookup id) := by
  cases step with
  | answer pending answered => exact answer_touch _ _ answered
  | createRefused pending refused =>
    obtain ⟨_, rfl⟩ := createCheck_some refused
    exact .kept rfl rfl rfl
  | allocMetadataRefused pending refused | allocDataRefused pending refused =>
    obtain ⟨message, rfl⟩ := Server.createAlloc_error refused
    exact .kept rfl rfl rfl
  | allocMetadata pending allocated | allocData pending allocated =>
    rw [show (s.move _ _ _).server.objects = s.server.objects from (Server.createAlloc_ok allocated).2.2.2]
    exact touch_quiet _
  | insert pending inserted =>
    cases inserted
    exact createInsert_touch _ _ _ _ rfl
  | readCopy pending => exact .kept rfl rfl rfl
  | _ => exact touch_quiet _

theorem serve_touch (step : Serve s label t) (id : ObjectId) :
    Touch id label.outcome (s.server.objects.lookup id) (t.server.objects.lookup id) := by
  cases step with
  | step step => exact step_touch step id
  | unsent step => exact step_touch step id
  | malformed _ | ended _ => exact touch_quiet _

end Touching

/-- The id of a `handle_create` that has passed its check and not yet inserted. -/
def Phase.creating : Phase → Option ObjectId
  | .allocMetadata request | .allocData request _ | .insert request _ _ => some request.objectId
  | _ => none

section Turns
variable {id : ObjectId}

theorem move_thread {threads : Nat → Phase} {P : Phase → Prop}
    (found : P (update threads client phase c)) : c = client ∧ P phase ∨ P (threads c) := by
  by_cases same : c = client
  · subst same
    rw [update_self] at found
    exact .inl ⟨rfl, found⟩
  · rw [update_of_ne same] at found
    exact .inr found

theorem step_creating (step : Step s event t) (now : (t.threads c).creating = some id) :
    (s.threads c).creating = some id ∨ s.server.objects.lookup id = none := by
  have moved {client : Nat} {phase : Phase}
      (found : (update s.threads client phase c).creating = some id)
      (new : phase.creating = some id → (s.threads client).creating = some id) :
      (s.threads c).creating = some id := by
    rcases move_thread (P := fun phase => phase.creating = some id) found with ⟨rfl, here⟩ | old
    · exact new here
    · exact old
  cases step with
  | @createChecked client request pending passed =>
    rcases move_thread (P := fun phase => phase.creating = some id) now with ⟨rfl, here⟩ | old
    · cases here
      exact .inr (createCheck_none passed)
    · exact .inl old
  | allocMetadata pending _ | allocData pending _ =>
    exact .inl (moved now fun here => by rw [pending]; exact here)
  | write _ _ _ _ => exact .inl now
  | _ => exact .inl (moved now fun here => nomatch here)

/-- A create is carried out by the handler that was about to insert, which then
waits for the next request. -/
theorem step_creates (step : Step s event t) (created : creates id event.outcome = some client) :
    (s.threads client).creating = some id := by
  cases step with
  | @insert actor request metadataOffset dataOffset info server pending inserted =>
    simp only [Event.outcome, creates] at created
    split at created
    · rename_i same
      cases created
      rw [pending, ← same]
      rfl
    · cases created
  | @answer _ request response server pending answered =>
    cases request with
    | create request => cases answered
    | _ => cases created
  | createRefused pending refused =>
    obtain ⟨_, rfl⟩ := createCheck_some refused
    cases created
  | allocMetadataRefused pending refused | allocDataRefused pending refused =>
    obtain ⟨message, rfl⟩ := Server.createAlloc_error refused
    cases created
  | _ => cases created

theorem step_closed (step : Step s event t) (now : t.threads c = .closed) :
    s.threads c = .closed ∨ event = .closed c := by
  have moved {client : Nat} {phase : Phase}
      (found : update s.threads client phase c = .closed) (new : phase ≠ .closed) :
      s.threads c = .closed := by
    rcases move_thread (P := fun phase => phase = .closed) found with ⟨_, here⟩ | old
    · exact absurd here new
    · exact old
  cases step with
  | @disconnect client pending =>
    rcases move_thread (P := fun phase => phase = .closed) now with ⟨rfl, _⟩ | old
    · exact .inr rfl
    · exact .inl old
  | write _ _ _ _ => exact .inl now
  | _ => exact .inl (moved now fun here => nomatch here)

theorem serve_creating (step : Serve s label t) (now : (t.threads c).creating = some id) :
    (s.threads c).creating = some id ∨ s.server.objects.lookup id = none := by
  cases step with
  | step step => exact step_creating step now
  | unsent step =>
    rcases move_thread (P := fun phase => phase.creating = some id) now with ⟨_, here⟩ | earlier
    · cases here
    · exact step_creating step earlier
  | malformed _ => exact .inl now
  | ended _ =>
    rcases move_thread (P := fun phase => phase.creating = some id) now with ⟨_, here⟩ | old
    · cases here
    · exact .inl old

theorem serve_creates (step : Serve s label t) (created : creates id label.outcome = some client) :
    (s.threads client).creating = some id := by
  cases step with
  | step step | unsent step => exact step_creates step created
  | malformed _ | ended _ => cases created

theorem serve_closed (step : Serve s label t) (now : t.threads c = .closed) :
    s.threads c = .closed ∨ label.closes = some c := by
  cases step with
  | step step =>
    refine (step_closed step now).imp_right fun closed => ?_
    rw [closed]
    rfl
  | unsent step =>
    rcases move_thread (P := fun phase => phase = .closed) now with ⟨rfl, _⟩ | earlier
    · exact .inr rfl
    · refine (step_closed step earlier).imp_right fun closed => ?_
      cases closed
  | malformed _ => exact .inl now
  | ended _ =>
    rcases move_thread (P := fun phase => phase = .closed) now with ⟨rfl, _⟩ | old
    · exact .inr rfl
    · exact .inl old

end Turns

section Creators
variable {id : ObjectId}

/-- An unsealed entry has a creator that neither it nor anyone else has finished. -/
def Attributed (path : List Label) (s : System) : Prop :=
  ∀ id entry, s.server.objects.lookup id = some entry → entry.isSealed = false →
    unsealedBy path id ≠ none

theorem attributed_start (started : Server.start capacity = .ok server) :
    Attributed [] (System.start server) := by
  intro id entry found
  simp only [Server.start] at started
  cases arena : Arena.create 0 capacity with
  | error failure =>
    rw [arena] at started
    cases started
  | ok arena' =>
    rw [arena] at started
    cases started
    cases found

theorem attributed_step (before : Attributed path s) (step : Serve s label t) :
    Attributed (path ++ [label]) t := by
  intro id entry found fresh
  have touch := serve_touch step id
  rw [found] at touch
  rw [unsealedBy_append, creator]
  generalize earlier : s.server.objects.lookup id = old at touch
  cases touch with
  | created created _ =>
    rw [created]
    exact Option.some_ne_none _
  | marked _ _ _ => cases fresh
  | kept created unsealed undeleted =>
    rw [created, unsealed, undeleted]
    exact before id entry earlier fresh

theorem attributed_run (started : Server.start capacity = .ok server)
    (run : Run Serve (System.start server) path s) : Attributed path s :=
  run.traced attributed_step (attributed_start started)

/-- The entry is sealed and no handler is about to replace it. -/
structure Settled (id : ObjectId) (entry : ObjectEntry) (s : System) : Prop where
  found : s.server.objects.lookup id = some entry
  final : entry.isSealed = true
  alone : ∀ client, (s.threads client).creating ≠ some id

theorem settled_step (before : Settled id entry s) (kept : deletes id label.outcome = false)
    (step : Serve s label t) : Settled id entry t := by
  have alone : ∀ client, (t.threads client).creating ≠ some id := by
    intro client now
    rcases serve_creating step now with earlier | absent
    · exact before.alone client earlier
    · rw [before.found] at absent
      cases absent
  have touch := serve_touch step id
  rw [before.found] at touch
  generalize later : t.server.objects.lookup id = new at touch
  cases touch with
  | created created _ => exact absurd (serve_creates step created) (before.alone _)
  | marked _ _ fresh =>
    rw [before.final] at fresh
    cases fresh
  | deleted _ deleted =>
    rw [kept] at deleted
    cases deleted
  | kept _ _ _ => exact ⟨later, before.final, alone⟩

theorem already_exists_step {request : CreateRequest}
    (step : Step s (.answered client (.create request) (.error .alreadyExists message)) t) :
    (∃ entry, s.server.objects.lookup request.objectId = some entry) ∧
      t = s.move s.server client .idle := by
  cases step with
  | answer pending answered => cases answered
  | createRefused pending refused => exact ⟨(createCheck_some refused).1, rfl⟩
  | allocMetadataRefused pending refused | allocDataRefused pending refused =>
    obtain ⟨_, same⟩ := Server.createAlloc_error refused
    cases same

theorem get_step (step : Step s (.answered client (.get id) response) t) :
    response = s.server.handleGet id := by
  cases step with
  | answer pending answered =>
    cases answered
    rfl

/-- Nobody is between a create and its seal: neither a client that has been
answered `Created`, nor a handler that has passed its check. -/
structure Unopened (path : List Label) (s : System) (id : ObjectId) : Prop where
  finished : unsealedBy path id = none
  alone : ∀ client, (s.threads client).creating ≠ some id

/-- An id answered `AlreadyExists` while nobody is creating it can be read until it
is deleted. -/
theorem already_exists_readable (started : Server.start capacity = .ok server)
    (run : Run Serve (System.start server) path s) (request : CreateRequest)
    (unopened : Unopened path s request.objectId)
    (refused : Serve s (.served (.answered client (.create request) (.error .alreadyExists message))) t)
    (later : Run Serve t more u) (kept : ∀ label ∈ more, deletes request.objectId label.outcome = false)
    (read : Serve u (.served (.answered reader (.get request.objectId) response)) v) :
    ∃ entry, s.server.objects.lookup request.objectId = some entry ∧
      response = .got (u.server.slotInfo entry) := by
  cases refused with
  | step refused =>
    obtain ⟨⟨entry, found⟩, rfl⟩ := already_exists_step refused
    have final : entry.isSealed = true := by
      cases flag : entry.isSealed with
      | true => rfl
      | false => exact absurd unopened.finished (attributed_run started run _ entry found flag)
    have alone : ∀ c, ((s.move s.server client .idle).threads c).creating ≠ some request.objectId := by
      intro c now
      rcases move_thread (P := fun phase => phase.creating = some request.objectId) now with ⟨_, here⟩ | old
      · cases here
      · exact unopened.alone c old
    have settled : Settled request.objectId entry u :=
      later.along (fun member before step => settled_step before (kept _ member) step)
        ⟨found, final, alone⟩
    refine ⟨entry, found, ?_⟩
    cases read with
    | step read =>
      rw [get_step read, Server.handleGet, settled.found]
      simp only [settled.final, if_true]

/-- A connection ends only after each object it created has been sealed or deleted. -/
def Finishes (s : List Label × System) (label : Label) : Prop :=
  ∀ client, label.closes = some client → ∀ id, unsealedBy (s.1 ++ [label]) id ≠ some client

structure Attended (s : List Label × System) : Prop where
  attributed : Attributed s.1 s.2
  connected : ∀ id client, unsealedBy s.1 id = some client → s.2.threads client ≠ .closed

theorem attended_step (before : Attended s) (step : Guarded Finishes (Recorded Serve) s label t) :
    Attended t := by
  obtain ⟨finishes, recorded, step⟩ := step
  refine ⟨?_, fun id client current closed => ?_⟩
  · rw [recorded]
    exact attributed_step before.attributed step
  rw [recorded] at current
  rcases serve_closed step closed with earlier | closes
  · rw [unsealedBy_append, creator] at current
    split at current
    · rename_i actor created
      cases current
      have busy := serve_creates step created
      rw [earlier] at busy
      cases busy
    · split at current
      · cases current
      · exact before.connected id client current earlier
  · exact finishes client closes id current

theorem attended_run (started : Server.start capacity = .ok server)
    (run : Run (Guarded Finishes (Recorded Serve)) ([], System.start server) path s) : Attended s :=
  run.invariant attended_step ⟨attributed_start started, nofun⟩

/-- The creator is still at it, or the entry is gone. -/
def Pending (id : ObjectId) (client : Nat) (s : List Label × System) : Prop :=
  unsealedBy s.1 id = some client ∨ s.2.server.objects.lookup id = none

theorem pending_step (before : Pending id client s) (uncreated : creates id label.outcome = none)
    (unsealed : seals id label.outcome = false) (step : Recorded Serve s label t) :
    Pending id client t := by
  obtain ⟨recorded, step⟩ := step
  have touch := serve_touch step id
  rw [Pending, recorded, unsealedBy_append, creator, uncreated, unsealed]
  rw [Pending] at before
  generalize s.2.server.objects.lookup id = old at touch before
  generalize t.2.server.objects.lookup id = new at touch
  cases touch with
  | created created _ =>
    rw [uncreated] at created
    cases created
  | marked _ marked _ =>
    rw [unsealed] at marked
    cases marked
  | deleted _ _ => exact .inr rfl
  | kept _ _ undeleted =>
    rw [undeleted]
    exact before

/-- When connections finish what they created, an unsealed entry has a creator that
is still connected, and an id that was created, never sealed and left behind can be
created again as long as there is room. -/
theorem ended_connections_leave_nothing_unsealed (started : Server.start capacity = .ok server)
    (run : Run (Guarded Finishes (Recorded Serve)) ([], System.start server) path s) :
    (∀ id entry, s.2.server.objects.lookup id = some entry → entry.isSealed = false →
      ∃ client, unsealedBy s.1 id = some client ∧ s.2.threads client ≠ .closed) ∧
    ∀ before label after id client, path = before ++ label :: after →
      creates id label.outcome = some client → s.2.threads client = .closed →
      (∀ later ∈ after, creates id later.outcome = none ∧ seals id later.outcome = false) →
      ∀ metadataSize dataSize, s.2.server.Fits metadataSize → s.2.server.DataFits metadataSize dataSize →
        ∃ info next, s.2.server.handleCreate id metadataSize dataSize = (.created info, next) := by
  have attended := attended_run started run
  constructor
  · intro id entry found fresh
    obtain ⟨client, current⟩ := Option.ne_none_iff_exists'.mp (attended.attributed id entry found fresh)
    exact ⟨client, current, attended.connected id client current⟩
  · intro before label after id client whole created closed untouched metadataSize dataSize fits room
    rw [whole] at run
    obtain ⟨u, v, _, ⟨_, recorded, _⟩, rest⟩ := run.split
    have initial : Pending id client v := by
      left
      rw [recorded, unsealedBy_append, creator, created]
    have pending : Pending id client s :=
      rest.along (fun member earlier step =>
        pending_step earlier (untouched _ member).1 (untouched _ member).2 step.2) initial
    rcases pending with current | absent
    · exact absurd closed (attended.connected id client current)
    · exact Server.handleCreate_created absent fits room

end Creators

section Samples

def shared : Server := ⟨.unused, fun _ => 0, ∅⟩

theorem sharedStart : Server.start 512 = .ok shared := rfl

def sharedId : ObjectId := Id.nil 28

def sharedRequest : CreateRequest := ⟨sharedId, 3, 40, .nil⟩

def sharedSlot : SlotInfo := ⟨0, 512, 0, 3, 16, 40, false⟩

def sharedServer : Server :=
  ⟨.small 56 (by decide), fun _ => 0, AList.insert sharedId ⟨0, 3, 16, 40, false⟩ ∅⟩

/-- The first client has created the object. -/
def opened : System := ⟨sharedServer, update (fun _ => .idle) 0 .idle, [sharedSlot]⟩

def creation : List Label :=
  [.served (.received 0 (.create sharedRequest)), .served (.checked 0), .served (.allocated 0),
    .served (.allocated 0), .served (.answered 0 (.create sharedRequest) (.created sharedSlot))]

theorem create_run (ok : List Label × System → Label → Prop)
    (allowed : ∀ s label, label.closes = none → ok s label) :
    Run (Guarded ok (Recorded Serve)) ([], System.start shared) creation (creation, opened) := by
  have run : Run (Guarded ok (Recorded Serve)) ([], System.start shared) [] _ := .refl
  have run := run.record (a := .served (.received 0 (.create sharedRequest))) (allowed _ _ rfl)
    (.step (.receive rfl))
  have run := run.record (a := .served (.checked 0)) (allowed _ _ rfl) (.step (.createChecked rfl rfl))
  have run := run.record (a := .served (.allocated 0)) (allowed _ _ rfl) (.step (.allocMetadata rfl rfl))
  have run := run.record (a := .served (.allocated 0)) (allowed _ _ rfl) (.step (.allocData rfl rfl))
  have run := run.record (a := .served (.answered 0 (.create sharedRequest) (.created sharedSlot)))
    (allowed _ _ rfl) (.step (.insert rfl rfl))
  simp only [System.move, System.start, update_idem] at run
  exact run

/-- The first client has sealed its object, the second asks for the same id. -/
def asking : System :=
  let server := (sharedServer.handleSeal sharedId).2
  ((opened.move sharedServer 0 (.pending (.sealObject sharedId))).move server 0 .idle).move server 1
    (.pending (.create sharedRequest))

def sealing : List Label :=
  [.served (.received 0 (.sealObject sharedId)), .served (.answered 0 (.sealObject sharedId) .ok),
    .served (.received 1 (.create sharedRequest))]

/-- The second client has been refused and asks for the object instead. -/
def reading : System := (asking.move asking.server 1 .idle).move asking.server 1 (.pending (.get sharedId))

/-- The first client seals; the second is refused and reads the object. -/
theorem already_exists_readable_sealed :
    ∃ t more v response,
      Run Serve (System.start shared) (creation ++ sealing) asking ∧
      Unopened (creation ++ sealing) asking sharedId ∧
      Serve asking (.served (.answered 1 (.create sharedRequest)
        (.error .alreadyExists "object already created"))) t ∧
      Run Serve t more reading ∧ Serve reading (.served (.answered 1 (.get sharedId) response)) v ∧
      ∃ entry, asking.server.objects.lookup sharedId = some entry ∧
        response = .got (reading.server.slotInfo entry) := by
  have created : Run Serve (System.start shared) creation opened :=
    (create_run (fun _ _ => True) fun _ _ _ => trivial).unrecord
  have marked : Run Serve opened sealing asking :=
    ((Run.refl.next (.step (.receive rfl))).next (.step (.answer rfl rfl))).next (.step (.receive rfl))
  have run := created.trans marked
  have unopened : Unopened (creation ++ sealing) asking sharedId :=
    ⟨by decide, fun | 0 => nofun | 1 => nofun | n + 2 => nofun⟩
  have refused : Serve asking (.served (.answered 1 (.create sharedRequest)
      (.error .alreadyExists "object already created"))) (asking.move asking.server 1 .idle) :=
    .step (.createRefused rfl rfl)
  have later : Run Serve (asking.move asking.server 1 .idle) [.served (.received 1 (.get sharedId))]
      reading := Run.refl.next (.step (.receive rfl))
  have read : Serve reading (.served (.answered 1 (.get sharedId) (reading.server.handleGet sharedId)))
      (reading.move reading.server 1 .idle) := .step (.answer rfl rfl)
  refine ⟨_, _, _, _, run, unopened, refused, later, read, ?_⟩
  refine already_exists_readable sharedStart run sharedRequest unopened refused later ?_ read
  simp [deletes, Label.outcome, Event.outcome]

/-- The object is created and not yet sealed: the second client is told that it
exists and cannot read it. -/
theorem already_exists_unreadable :
    ∃ path s t more u v message,
      Run Serve (System.start shared) path s ∧
      Serve s (.served (.answered 1 (.create sharedRequest)
        (.error .alreadyExists "object already created"))) t ∧
      Run Serve t more u ∧ (∀ label ∈ more, deletes sharedId label.outcome = false) ∧
      Serve u (.served (.answered 1 (.get sharedId) (.error .notSealed message))) v := by
  have created : Run Serve (System.start shared) creation opened :=
    (create_run (fun _ _ => True) fun _ _ _ => trivial).unrecord
  have run := created.next (a := .served (.received 1 (.create sharedRequest))) (.step (.receive rfl))
  refine ⟨_, _, _, [.served (.received 1 (.get sharedId))], _, _, _, run,
    .step (.createRefused rfl rfl), Run.refl.next (.step (.receive rfl)), ?_, .step (.answer rfl rfl)⟩
  simp [deletes, Label.outcome, Event.outcome]

/-- The first client gives the object up before it goes. -/
theorem released_object_recreated :
    ∃ path s info next, Run (Guarded Finishes (Recorded Serve)) ([], System.start shared) path (path, s) ∧
      s.threads 0 = .closed ∧ s.server.handleCreate sharedId 3 40 = (.created info, next) := by
  have run := create_run Finishes fun _ _ running client closes => by
    rw [running] at closes
    cases closes
  have run := run.record (a := .served (.received 0 (.release sharedId))) (fun _ => nofun)
    (.step (.receive rfl))
  have run := run.record (a := .served (.answered 0 (.release sharedId) .ok)) (fun _ => nofun)
    (.step (.answer rfl rfl))
  have run := run.record (a := .ended 0) ?_ (.ended rfl)
  · have again := (ended_connections_leave_nothing_unsealed sharedStart run).2
      (creation.take 4) (.served (.answered 0 (.create sharedRequest) (.created sharedSlot)))
      [.served (.received 0 (.release sharedId)), .served (.answered 0 (.release sharedId) .ok), .ended 0]
      sharedId 0 rfl rfl rfl (by simp [creates, seals, Label.outcome, Event.outcome]) 3 40
      (by decide : 64 + 3 ≤ 512) (by decide : 80 + 40 ≤ 512)
    obtain ⟨info, next, created⟩ := again
    exact ⟨_, _, info, next, run, rfl, created⟩
  · intro client _ id current
    by_cases same : sharedId = id <;>
      simp [unsealedBy, creator, creates, seals, deletes, creation, Label.outcome, Event.outcome,
        sharedRequest, same] at current

/-- Nobody can create the id again once its creator has gone without sealing it. -/
theorem abandoned_create_blocks_id :
    ∃ path s message, Run Serve (System.start shared) path s ∧
      path = creation ++ [.ended 0] ∧ s.threads 0 = .closed ∧
      (∃ entry, s.server.objects.lookup sharedId = some entry ∧ entry.isSealed = false) ∧
      s.server.Fits 3 ∧ s.server.DataFits 3 40 ∧
      (s.server.handleCreate sharedId 3 40).1 = .error .alreadyExists message := by
  have created : Run Serve (System.start shared) creation opened :=
    (create_run (fun _ _ => True) fun _ _ _ => trivial).unrecord
  have run := created.next (a := .ended 0) (.ended rfl)
  exact ⟨_, _, _, run, rfl, rfl, ⟨_, rfl, rfl⟩, (by decide : 64 + 3 ≤ 512), (by decide : 80 + 40 ≤ 512), rfl⟩

end Samples
end Rayd.Plasma.Connections
