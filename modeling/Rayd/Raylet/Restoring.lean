import Rayd.Raylet.Pull

/-! What `Pull` and `resolve_now` return while the object goes to disk and comes back.
At the server the object is absent, written by one client, or sealed; a slot that was
filled with its bytes keeps them for every handle. This rests on the order in which the
two clients are served, since neither mutex keeps the other client out. -/
namespace Rayd.Raylet.Pull
open Memory Plasma Core Spill Threads Transition

/-- The arena has room for what the client asks for next. -/
def Room (server : Server) : Interleaving.Phase → Prop
  | .allocMetadata call => ∃ slot, server.createAlloc call.metadata.length = .ok slot
  | .allocData call _ => ∃ slot, server.createAlloc call.data.length = .ok slot
  | _ => True

def Roomy (s : Node) : Act → Prop
  | .serve _ => ∀ side : Side, Room s.plasma.server (s.plasma.clients side.client)
  | _ => True

/-- No client is between the insert and the seal of its entry. -/
def Closed (plasma : Interleaving.System) : Prop := ∀ side : Side, (plasma.clients side.client).slot? = none

/-- While one client has an entry to seal, the other's request for the object waits. -/
def Orderly (s : Node) : Act → Prop
  | .get .spill => True
  | .get _ | .delete | .serve (.inserted ..) => Closed s.plasma
  | _ => True

/-- A spilled copy is not deleted between the reseal of a `Pull` and its second look. -/
def Lets (_ : Node) (other _ : Phase) : Act → Prop
  | .delete => other ≠ .get .reopen
  | _ => True

section Bytes
variable (value : Sealing)

/-- The two regions were written with the value's bytes. -/
def Filled (history : List Interleaving.Event) (metadata data : Region) : Prop :=
  ∃ client info, .wrote client value.call info ∈ history ∧ info.metadata = metadata ∧ info.data = data

/-- The file is complete and this is its url. -/
def OnDisk (worker : CoreWorker) (url : Text) : Prop :=
  ∃ manager, worker.recoverer = some manager ∧ manager.backend.Holds value.id value.stored ∧
    url = LocalFsBackend.urlFor (manager.backend.pathFor value.id)

def Kept (worker : CoreWorker) : Prop :=
  ∃ manager, worker.recoverer = some manager ∧ manager.Keeps value.id value.stored

variable {value} {history : List Interleaving.Event} {system : Interleaving.System} {info : SlotInfo}

theorem Filled.append (filled : Filled value history metadata data) (event : Interleaving.Event) :
    Filled value (history ++ [event]) metadata data := by
  obtain ⟨client, info, wrote, rest⟩ := filled
  exact ⟨client, info, List.mem_append_left _ wrote, rest⟩

theorem Filled.view (filled : Filled value history info.metadata info.data)
    (written : Interleaving.Written history system) :
    system.server.view info = (value.metadata.encode, value.data) := by
  obtain ⟨client, slot, wrote, metadata, data⟩ := filled
  have bytes := written.finished client value.call slot wrote
  rwa [Server.view, metadata, data] at bytes

theorem Filled.size (filled : Filled value history info.metadata info.data)
    (written : Interleaving.Written history system) : info.dataSize = value.data.length := by
  have bytes := congrArg (fun view => view.2.length) (filled.view written)
  simpa only [Server.view, Memory.read, List.length_map, List.length_range, SlotInfo.data] using bytes

end Bytes

/-- The object at the server. -/
inductive Stands (value : Sealing) (plasma : Interleaving.System) (history : List Interleaving.Event)
    (worker : CoreWorker) : Prop where
  | absent : plasma.server.objects.lookup value.id = none → Closed plasma → Kept value worker →
      Stands value plasma history worker
  | unsealed (side : Side) : plasma.server.objects.lookup value.id = some entry → entry.isSealed = false →
      (plasma.clients side.client).slot? = some info → info.metadata = entry.metadata →
      info.data = entry.data → (∀ other, other ≠ side → (plasma.clients other.client).slot? = none) →
      Stands value plasma history worker
  | sealed : plasma.server.objects.lookup value.id = some entry → entry.isSealed = true →
      Filled value history entry.metadata entry.data → Closed plasma → Stands value plasma history worker

structure Sound (value : Sealing) (s : Node) : Prop where
  separate : Interleaving.Separate s.history s.plasma
  written : Interleaving.Written s.history s.plasma
  calls : ∀ (side : Side) call, (s.plasma.clients side.client).call? = some call → call = value.call
  small : value.data.length < 2 ^ 64
  listed : s.worker.store.getEntry value.id = some (.plasma value.index)
  managed : ∃ manager, s.worker.recoverer = some manager
  stands : Stands value s.plasma s.history s.worker

def Present (value : Sealing) (s : Node) : Prop := s.plasma.server.objects.lookup value.id ≠ none

section Serving
variable {value : Sealing} {s : Node} {side : Side} {system plasma : Interleaving.System}

theorem slots_move (same : phase.slot? = (system.clients client).slot?) (other : Nat) :
    ((system.move server client phase).clients other).slot? = (system.clients other).slot? := by
  by_cases here : other = client
  · subst here
    rw [Interleaving.System.move_self]
    exact same
  · rw [Interleaving.System.move_other _ _ here]

theorem Closed.same (closed : Closed system)
    (slots : ∀ client, (plasma.clients client).slot? = (system.clients client).slot?) : Closed plasma :=
  fun side => (slots _).trans (closed side)

theorem Stands.same (stands : Stands value system history worker) (event : Interleaving.Event)
    (table : plasma.server.objects.lookup value.id = system.server.objects.lookup value.id)
    (slots : ∀ client, (plasma.clients client).slot? = (system.clients client).slot?) :
    Stands value plasma (history ++ [event]) worker := by
  cases stands with
  | absent gone closed kept => exact .absent (table.trans gone) (closed.same slots) kept
  | unsealed side here notSealed slot metadata data others =>
    exact .unsealed side (table.trans here) notSealed ((slots _).trans slot) metadata data
      fun other different => (slots _).trans (others other different)
  | sealed here isSealed filled closed =>
    exact .sealed (table.trans here) isSealed (filled.append event) (closed.same slots)

theorem calls_move {phase : Interleaving.Phase} {server : Server} {client : Nat}
    (calls : ∀ (side : Side) call, (system.clients side.client).call? = some call → call = value.call)
    (mine : ∀ call, phase.call? = some call → call = value.call) :
    ∀ (side : Side) call, ((system.move server client phase).clients side.client).call? = some call →
      call = value.call := by
  intro side call found
  by_cases here : side.client = client
  · rw [here, Interleaving.System.move_self] at found
    exact mine call found
  · rw [Interleaving.System.move_other _ _ here] at found
    exact calls side call found

/-- A step at the server keeps what is written; the rest is up to the step. -/
theorem Sound.record (sound : Sound value s) (step : Interleaving.Step s.plasma event plasma)
    (calls : ∀ (side : Side) call, (plasma.clients side.client).call? = some call → call = value.call)
    (stands : Stands value plasma (s.history ++ [event]) s.worker) : Sound value (s.record event plasma) :=
  ⟨Interleaving.separate_step sound.separate step, Interleaving.written_step sound.separate sound.written step,
    calls, sound.small, sound.listed, sound.managed, stands⟩

theorem Sound.goes (sound : Sound value s) {before after : Interleaving.Phase} {server : Server}
    (step : Interleaving.Step s.plasma event (s.plasma.move server side.client after))
    (found : s.plasma.clients side.client = before)
    (call : ∀ call, after.call? = some call → before.call? = some call) (slot : after.slot? = before.slot?)
    (table : server.objects = s.plasma.server.objects) :
    Sound value (s.record event (s.plasma.move server side.client after)) ∧
      (Present value s → Present value (s.record event (s.plasma.move server side.client after))) := by
  subst found
  refine ⟨sound.record step (calls_move sound.calls fun c called => sound.calls side c (call c called))
    (sound.stands.same event ?_ (slots_move slot)), fun present => ?_⟩
  · rw [Interleaving.System.move_server, table]
  · rwa [Present, Node.record, Interleaving.System.move_server, table]

theorem serve_sound (sound : Sound value s) (orderly : Orderly s (.serve event))
    (serves : Serves side.client event) (step : Interleaving.Step s.plasma event plasma) :
    Sound value (s.record event plasma) ∧ (Present value s → Present value (s.record event plasma)) := by
  cases step with
  | checkPassed found absent =>
    cases serves
    exact sound.goes (.checkPassed found absent) found (fun _ called => called) rfl rfl
  | allocMetadata found allocated =>
    cases serves
    exact sound.goes (.allocMetadata found allocated) found (fun _ called => called) rfl
      (Server.createAlloc_ok allocated).2.2.2
  | allocData found allocated =>
    cases serves
    exact sound.goes (.allocData found allocated) found (fun _ called => called) rfl
      (Server.createAlloc_ok allocated).2.2.2
  | @insert client call metadataOffset dataOffset info server found inserted =>
    cases serves
    have target : call = value.call := sound.calls side call (congrArg Interleaving.Phase.call? found)
    subst target
    have step := Interleaving.Step.insert found inserted
    simp only [Server.createInsert, Prod.mk.injEq, Response.created.injEq] at inserted
    obtain ⟨rfl, rfl⟩ := inserted
    have entry : (s.plasma.server.objects.insert value.call.id
        (Interleaving.freshEntry value.call metadataOffset dataOffset)).lookup value.id =
          some (Interleaving.freshEntry value.call metadataOffset dataOffset) :=
      (FiniteMap.lookup_insert _ _ _ _).trans (if_pos rfl)
    refine ⟨sound.record step (calls_move sound.calls ?_) (.unsealed side entry rfl
      (congrArg Interleaving.Phase.slot? (Interleaving.System.move_self _ _)) rfl rfl ?_), fun _ => ?_⟩
    · rintro _ ⟨⟩
      rfl
    · intro other different
      rw [Interleaving.System.move_other _ _ fun clash => different (Side.client_injective clash)]
      exact orderly other
    · exact fun gone => by cases entry.symm.trans gone
  | writeMetadata found =>
    cases serves
    exact sound.goes (.writeMetadata found) found (fun _ called => called) rfl rfl
  | writeData found =>
    cases serves
    exact sound.goes (.writeData found) found (fun _ called => called) rfl rfl
  | _ => cases serves

/-- With room in the arena, a create is refused only because the object is there. -/
theorem refused_sound (sound : Sound value s) (roomy : Roomy s (.serve (.refused side.client call reply)))
    (step : Interleaving.Step s.plasma (.refused side.client call reply) plasma) :
    Sound value (s.record (.refused side.client call reply) plasma) ∧
      Present value (s.record (.refused side.client call reply) plasma) ∧
      ∃ message, reply = .error .alreadyExists message := by
  cases step with
  | checkRefused found answer =>
    have target : call = value.call := sound.calls side call (congrArg Interleaving.Phase.call? found)
    obtain ⟨sound, present⟩ := sound.goes (.checkRefused found answer) found
      (fun _ called => by cases called) rfl rfl
    simp only [Server.createCheck] at answer
    split at answer
    · rename_i there
      cases answer
      subst target
      refine ⟨sound, present fun gone => ?_, _, rfl⟩
      have gone : s.plasma.server.objects.lookup value.call.id = none := gone
      rw [gone] at there
      cases there
    · cases answer
  | allocMetadataRefused found answer =>
    have room := roomy side
    rw [found] at room
    obtain ⟨slot, fits⟩ := room
    cases answer.symm.trans fits
  | allocDataRefused found answer =>
    have room := roomy side
    rw [found] at room
    obtain ⟨slot, fits⟩ := room
    cases answer.symm.trans fits

theorem sealed_sound (sound : Sound value s)
    (step : Interleaving.Step s.plasma (.sealed side.client call info reply) plasma) :
    Sound value (s.record (.sealed side.client call info reply) plasma) ∧
      Present value (s.record (.sealed side.client call info reply) plasma) ∧ reply = .ok := by
  cases step with
  | @sealRequest _ _ _ _ server found answer =>
    have target : call = value.call := sound.calls side call (congrArg Interleaving.Phase.call? found)
    subst target
    have slot : (s.plasma.clients side.client).slot? = some info := congrArg Interleaving.Phase.slot? found
    have wrote := sound.written.owned side.client
    rw [found] at wrote
    have step := Interleaving.Step.sealRequest found answer
    cases sound.stands with
    | absent _ closed => cases (closed side).symm.trans slot
    | sealed _ _ _ closed => cases (closed side).symm.trans slot
    | @unsealed entry writing owner here notSealed writes metadata data others =>
      have mine : side = owner := by
        by_contra different
        cases (others side different).symm.trans slot
      subst mine
      cases writes.symm.trans slot
      have here : s.plasma.server.objects.lookup value.call.id = some entry := here
      simp only [Server.handleSeal, here, notSealed, Bool.false_eq_true, if_false] at answer
      cases answer
      have entry' : (s.plasma.server.objects.insert value.call.id { entry with isSealed := true }).lookup
          value.id = some { entry with isSealed := true } :=
        (FiniteMap.lookup_insert _ _ _ _).trans (if_pos rfl)
      refine ⟨sound.record step (calls_move sound.calls fun _ called => by cases called)
        (.sealed entry' rfl ?_ ?_), fun gone => ?_, rfl⟩
      · exact ⟨_, _, List.mem_append_left _ wrote, metadata, data⟩
      · intro other
        by_cases same : other = side
        · subst same
          rw [Interleaving.System.move_self]
          rfl
        · rw [Interleaving.System.move_other _ _ fun clash => same (Side.client_injective clash)]
          exact others other same
      · cases entry'.symm.trans gone

theorem delete_sound (sound : Sound value s) (orderly : Orderly s .delete) (kept : Kept value s.worker)
    (idle : s.plasma.clients client = .idle) :
    Sound value (s.record (.deleted client value.id)
      (s.plasma.move (s.plasma.server.handleDelete value.id).2 client .idle)) := by
  refine sound.record (.delete idle) (calls_move sound.calls fun _ called => by cases called)
    (.absent ?_ (orderly.same (slots_move ?_)) kept)
  · exact (FiniteMap.lookup_erase _ _ _).trans (if_pos rfl)
  · rw [idle]

theorem get_sound (sound : Sound value s) (idle : s.plasma.clients client = .idle)
    (answer : s.plasma.server.handleGet object = reply) :
    Sound value (s.record (.got client object reply) s.plasma) := by
  subst answer
  exact sound.record (.get idle) sound.calls (sound.stands.same _ rfl fun _ => rfl)

theorem create_sound (sound : Sound value s) (idle : s.plasma.clients client = .idle) :
    Sound value (s.record (.started client value.call)
      (s.plasma.move s.plasma.server client (.check value.call))) := by
  refine sound.record (.start idle) (calls_move sound.calls ?_) (sound.stands.same _ rfl (slots_move ?_))
  · rintro _ ⟨⟩
    rfl
  · rw [idle]
    rfl

end Serving

section Assertions
variable {value : Sealing} {s t : Node} {p q : Phase}

def Reader.Fits (value : Sealing) : Reader → Prop
  | .resolve index => index = value.index
  | _ => True

def Restorer.Fits (value : Sealing) : Restorer → Prop
  | .resolve index => index = value.index
  | .pull => True

/-- What a thread knows in each phase. -/
def Knows (value : Sealing) (s : Node) : Phase → Prop
  | .idle | .lookUp | .spilled _ => True
  | .get reader => reader.Fits value ∧ (reader = .reopen → Present value s)
  | .copy reader info => reader.Fits value ∧ Filled value s.history info.metadata info.data
  | .writeFile object => object = value.stored
  | .recordUrl url => OnDisk value s.worker url
  | .deleteCopy => Kept value s.worker
  | .findUrl restorer => restorer.Fits value ∧ Kept value s.worker
  | .restore restorer url => restorer.Fits value ∧ OnDisk value s.worker url
  | .purge .. => False
  | .create restorer object | .resealing restorer object => restorer.Fits value ∧ object = value.stored
  | .streaming info metadata start frames => Filled value s.history info.metadata info.data ∧
      metadata = value.metadata.encode ∧ frames.flatten = value.data.take start
  | .resolved result => result = .ok (some ⟨value.metadata, value.data⟩)
  | .pulled result => ∃ frames, result = .ok ⟨value.metadata.encode, value.data.length, frames⟩ ∧
      frames.flatten = value.data

/-- What no step takes away. -/
structure Rely (value : Sealing) (s t : Node) : Prop where
  filled : ∀ {metadata data}, Filled value s.history metadata data → Filled value t.history metadata data
  onDisk : ∀ {url}, OnDisk value s.worker url → OnDisk value t.worker url
  kept : Kept value s.worker → Kept value t.worker

theorem Rely.refl (s : Node) : Rely value s s := ⟨id, id, id⟩

theorem Rely.record (event : Interleaving.Event) (history : t.history = s.history ++ [event])
    (worker : t.worker = s.worker) : Rely value s t := by
  refine ⟨fun filled => ?_, fun there => ?_, fun there => ?_⟩
  · rw [history]
    exact filled.append event
  · rwa [worker]
  · rwa [worker]

theorem Sound.lock (sound : Sound value s) (side : Side) (taken : Bool) :
    Sound value (s.setLock side taken) :=
  ⟨sound.separate, sound.written, sound.calls, sound.small, sound.listed, sound.managed, sound.stands⟩

theorem Knows.stable (rely : Rely value s t) (knows : Knows value s p)
    (present : p = .get .reopen → Present value s → Present value t) : Knows value t p := by
  cases p with
  | get reader =>
    refine ⟨knows.1, fun again => ?_⟩
    subst again
    exact present rfl (knows.2 rfl)
  | copy => exact ⟨knows.1, rely.filled knows.2⟩
  | recordUrl => exact rely.onDisk knows
  | deleteCopy => exact rely.kept knows
  | findUrl => exact ⟨knows.1, rely.kept knows.2⟩
  | restore => exact ⟨knows.1, rely.onDisk knows.2⟩
  | streaming => exact ⟨rely.filled knows.1, knows.2⟩
  | _ => exact knows

theorem spill_stored (backend : LocalFsBackend) (small : value.data.length < 2 ^ 64) :
    ∃ after, backend.spill value.id value.stored.metadata value.stored.data =
        (.ok (LocalFsBackend.urlFor (backend.pathFor value.id)), after) ∧
      after.Holds value.id value.stored ∧ after.pathFor value.id = backend.pathFor value.id :=
  ⟨_, Prod.ext (backend.spill_ok _ _ _ (Shared.encode_small _)) rfl,
    backend.spill_holds _ _ (Shared.encode_small _) small, backend.spill_pathFor _ _ _ _⟩

theorem Stands.kept (stands : Stands value plasma history worker)
    (kept : Kept value worker → Kept value after) : Stands value plasma history after := by
  cases stands with
  | absent gone closed there => exact .absent gone closed (kept there)
  | unsealed side here notSealed slot metadata data others =>
    exact .unsealed side here notSealed slot metadata data others
  | sealed here isSealed filled closed => exact .sealed here isSealed filled closed

theorem work_sound (sound : Sound value s) (knows : Knows value s p)
    (moved : advance value.id s.worker p = some (worker, q)) :
    Sound value { s with worker } ∧ Knows value { s with worker } q ∧ Rely value s { s with worker } := by
  obtain ⟨manager, managed⟩ := sound.managed
  have same : worker = s.worker → Knows value s q →
      Sound value { s with worker } ∧ Knows value { s with worker } q ∧ Rely value s { s with worker } := by
    intro same knows
    subst same
    exact ⟨sound, knows, .refl s⟩
  have replaced : ∀ {after : LocalObjectManager}, worker = { s.worker with recoverer := some after } →
      Rely value s { s with worker } → Knows value { s with worker } q →
      Sound value { s with worker } ∧ Knows value { s with worker } q ∧ Rely value s { s with worker } := by
    intro after same rely knows
    subst same
    exact ⟨⟨sound.separate, sound.written, sound.calls, sound.small, sound.listed, ⟨after, rfl⟩,
      sound.stands.kept rely.kept⟩, knows, rely⟩
  cases p with
  | lookUp =>
    simp only [advance, sound.listed, Option.some.injEq, Prod.mk.injEq] at moved
    obtain ⟨rfl, rfl⟩ := moved
    exact same rfl ⟨rfl, fun again => by cases again⟩
  | writeFile object =>
    cases knows
    obtain ⟨backend, spilled, holds, path⟩ := spill_stored manager.backend sound.small
    simp only [advance, managed, spilled, Option.some.injEq, Prod.mk.injEq] at moved
    obtain ⟨rfl, rfl⟩ := moved
    refine replaced rfl ⟨id, ?_, ?_⟩ ⟨_, rfl, holds, by rw [path]⟩
    · rintro url ⟨old, before, _, leads⟩
      cases managed.symm.trans before
      exact ⟨_, rfl, holds, leads.trans (by rw [path])⟩
    · rintro ⟨old, before, listed, _⟩
      cases managed.symm.trans before
      exact ⟨_, rfl, listed.trans (by rw [path]), holds⟩
  | recordUrl url =>
    obtain ⟨old, before, holds, leads⟩ := knows
    cases managed.symm.trans before
    simp only [advance, managed, Option.some.injEq, Prod.mk.injEq] at moved
    obtain ⟨rfl, rfl⟩ := moved
    have directory : (manager.record value.id url).directory.lookup value.id = some url :=
      (FiniteMap.lookup_insert _ _ _ _).trans (if_pos rfl)
    have kept : Kept value { s.worker with recoverer := some (manager.record value.id url) } :=
      ⟨_, rfl, directory.trans (congrArg some leads), holds⟩
    refine replaced rfl ⟨id, ?_, fun _ => kept⟩ kept
    rintro link ⟨old, found, holds, leads⟩
    cases managed.symm.trans found
    exact ⟨_, rfl, holds, leads⟩
  | findUrl restorer =>
    obtain ⟨fits, old, before, listed, holds⟩ := knows
    cases managed.symm.trans before
    simp only [advance, managed, LocalObjectManager.spillUrl, listed, Option.some.injEq,
      Prod.mk.injEq] at moved
    obtain ⟨rfl, rfl⟩ := moved
    exact same rfl ⟨fits, _, managed, holds, rfl⟩
  | restore restorer url =>
    obtain ⟨fits, old, before, holds, rfl⟩ := knows
    cases managed.symm.trans before
    simp only [advance, managed, LocalFsBackend.restore_holds holds, Option.some.injEq, Prod.mk.injEq] at moved
    obtain ⟨rfl, rfl⟩ := moved
    exact same rfl ⟨fits, rfl⟩
  | purge => exact knows.elim
  | _ => cases moved

theorem got_filled (sound : Sound value s) (answer : s.plasma.server.handleGet value.id = .got info) :
    Filled value s.history info.metadata info.data := by
  obtain ⟨entry, here, isSealed, rfl⟩ := Server.handleGet_got answer
  cases sound.stands with
  | absent gone => cases gone.symm.trans here
  | unsealed _ there notSealed =>
    cases there.symm.trans here
    cases notSealed.symm.trans isSealed
  | sealed there _ filled =>
    cases there.symm.trans here
    exact filled

/-- While no entry waits for its seal, a handle is refused only for an object on disk. -/
theorem error_absent (sound : Sound value s) (closed : Closed s.plasma)
    (answer : s.plasma.server.handleGet value.id = .error kind message) :
    kind = .notFound ∧ ¬ Present value s ∧ Kept value s.worker := by
  cases sound.stands with
  | absent gone _ kept =>
    simp only [Server.handleGet, gone, Response.error.injEq] at answer
    exact ⟨answer.1.symm, fun present => present gone, kept⟩
  | unsealed side _ _ slot => cases (closed side).symm.trans slot
  | sealed here isSealed =>
    simp only [Server.handleGet, here, isSealed, if_true] at answer
    cases answer

theorem failed_knows (sound : Sound value s) (knows : Knows value s (.get reader))
    (orderly : Orderly s (.get reader)) (answer : s.plasma.server.handleGet value.id = .error kind message) :
    Knows value s (reader.failed (.server kind message)) := by
  cases reader with
  | spill =>
    simp only [Reader.failed]
    split <;> trivial
  | resolve index =>
    obtain ⟨rfl, _, kept⟩ := error_absent sound orderly answer
    exact ⟨knows.1, kept⟩
  | pull =>
    obtain ⟨rfl, _, kept⟩ := error_absent sound orderly answer
    exact ⟨trivial, kept⟩
  | reopen => exact absurd (knows.2 rfl) (error_absent sound orderly answer).2.1

theorem opened_knows (sound : Sound value s) (knows : Knows value s (.copy reader info)) :
    Knows value s (reader.opened info (s.plasma.server.view info)) := by
  obtain ⟨fits, filled⟩ := knows
  rw [filled.view sound.written]
  cases reader with
  | spill => rfl
  | resolve index =>
    cases fits
    rfl
  | pull | reopen => exact ⟨filled, rfl, rfl⟩

theorem resealed_knows {restorer : Restorer} {result : Except PlasmaError Unit} (fits : restorer.Fits value)
    (present : Present value s)
    (accepted : result = .ok () ∨ ∃ message, result = .error (.server .alreadyExists message)) :
    Knows value s (restorer.resealed value.stored result) := by
  rcases accepted with rfl | ⟨message, rfl⟩ <;> cases restorer with
  | resolve index =>
    cases fits
    rfl
  | pull => exact ⟨trivial, fun _ => present⟩

theorem take_next (data : Bytes) {start stop : Nat} (later : start ≤ stop) :
    data.take start ++ (data.take stop).drop start = data.take stop := by
  have front : (data.take stop).take start = data.take start := by
    rw [List.take_take, Nat.min_eq_left later]
  rw [← front, List.take_append_drop]

theorem own_sound (own : Own value.id s p act t q) (roomy : Roomy s act) (orderly : Orderly s act)
    (sound : Sound value s) (knows : Knows value s p) :
    Sound value t ∧ Knows value t q ∧ Rely value s t ∧
      (act ≠ .delete → Present value s → Present value t) := by
  cases own with
  | spillUnregistered | resolveNow => exact ⟨sound, trivial, .refl s, fun _ => id⟩
  | spillToRecoverer | pull => exact ⟨sound, ⟨trivial, fun again => (by cases again)⟩, .refl s, fun _ => id⟩
  | work moved =>
    obtain ⟨sound, knows, rely⟩ := work_sound sound knows moved
    exact ⟨sound, knows, rely, fun _ => id⟩
  | get here _ idle answer =>
    subst here
    exact ⟨(get_sound sound idle answer).lock _ _, ⟨knows.1, (got_filled sound answer).append _⟩,
      .record _ rfl rfl, fun _ => id⟩
  | getFailed here _ idle answer =>
    subst here
    exact ⟨get_sound sound idle answer,
      (failed_knows sound knows orderly answer).stable (.record _ rfl rfl) fun _ => id,
      .record _ rfl rfl, fun _ => id⟩
  | copy here =>
    subst here
    exact ⟨sound.lock _ _, (opened_knows sound knows).stable ⟨id, id, id⟩ fun _ => id,
      ⟨id, id, id⟩, fun _ => id⟩
  | create here _ idle =>
    subst here
    obtain ⟨fits, rfl⟩ := knows
    exact ⟨(create_sound sound idle).lock _ _, ⟨fits, rfl⟩, .record _ rfl rfl, fun _ => id⟩
  | serve here serves step =>
    subst here
    obtain ⟨sound, present⟩ := serve_sound sound orderly serves step
    exact ⟨sound, knows, .record _ rfl rfl, fun _ => present⟩
  | refused here step =>
    subst here
    obtain ⟨fits, rfl⟩ := knows
    obtain ⟨sound, present, message, rfl⟩ := refused_sound sound roomy step
    exact ⟨sound.lock _ _, resealed_knows fits present (.inr ⟨message, rfl⟩), .record _ rfl rfl,
      fun _ _ => present⟩
  | sealed here step =>
    subst here
    obtain ⟨fits, rfl⟩ := knows
    obtain ⟨sound, present, rfl⟩ := sealed_sound sound step
    exact ⟨sound.lock _ _, resealed_knows fits present (.inl rfl), .record _ rfl rfl, fun _ _ => present⟩
  | delete here _ idle =>
    subst here
    exact ⟨delete_sound sound orderly knows idle, trivial, .record _ rfl rfl, fun other => absurd rfl other⟩
  | @frame info metadata start frames here more =>
    subst here
    obtain ⟨filled, named, sent⟩ := knows
    refine ⟨sound, ⟨filled, named, ?_⟩, .refl s, fun _ => id⟩
    rw [filled.view sound.written, List.flatten_append, sent, List.flatten_singleton]
    exact take_next _ (by omega)
  | streamed here done =>
    subst here
    obtain ⟨filled, rfl, sent⟩ := knows
    have size := filled.size sound.written
    refine ⟨sound, ⟨_, by rw [size], ?_⟩, .refl s, fun _ => id⟩
    rw [sent, List.take_of_length_le (size ▸ done)]

end Assertions

/-- The object has been sealed in plasma and is in the driver's index; nobody is
inside a call. -/
structure Ready (value : Sealing) (s : Node) : Prop where
  served : ∃ capacity server, Server.start capacity = .ok server ∧
    Run Interleaving.Step (.start server) s.history s.plasma
  stored : ∃ entry, s.plasma.server.objects.lookup value.id = some entry ∧ entry.isSealed = true ∧
    Filled value s.history entry.metadata entry.data
  listed : s.worker.store.getEntry value.id = some (.plasma value.index)
  managed : ∃ manager, s.worker.recoverer = some manager
  idle : ∀ side : Side, s.plasma.clients side.client = .idle
  free : ∀ side, s.locked side = false

theorem Filled.small (filled : Filled value history metadata data)
    (separate : Interleaving.Separate history system) (written : Interleaving.Written history system) :
    value.data.length < 2 ^ 64 := by
  obtain ⟨client, info, wrote, rfl, rfl⟩ := filled
  have below := separate.finished_below info.data ⟨client, value.call, info, wrote, .inr rfl⟩
  have size := Filled.size ⟨client, info, wrote, rfl, rfl⟩ written
  have capacity := system.server.arena.bump_le
  have limit := system.server.arena.capacity_lt
  simp only [Region.stop, SlotInfo.data] at below
  omega

theorem Ready.sound (ready : Ready value s) : Sound value s := by
  obtain ⟨capacity, server, started, run⟩ := ready.served
  obtain ⟨separate, written⟩ : Interleaving.Separate s.history s.plasma ∧
      Interleaving.Written s.history s.plasma := by
    refine run.traced (P := fun path system => Interleaving.Separate path system ∧
      Interleaving.Written path system) (fun before step => ?_) ?_
    · exact ⟨Interleaving.separate_step before.1 step, Interleaving.written_step before.1 before.2 step⟩
    · have intact := Interleaving.intact_start started
      exact ⟨intact.separate, intact.written⟩
  obtain ⟨entry, here, isSealed, filled⟩ := ready.stored
  refine ⟨separate, written, fun side call called => ?_, filled.small separate written, ready.listed,
    ready.managed, .sealed here isSealed filled fun side => ?_⟩
  · rw [ready.idle side] at called
    cases called
  · rw [ready.idle side]
    rfl

abbrev CarefulOwn (value : Sealing) (s : Node) (phase : Phase) (act : Act) (t : Node) (next : Phase) : Prop :=
  (Roomy s act ∧ Orderly s act) ∧ Own value.id s phase act t next

def assertions (value : Sealing) : Assertions (CarefulOwn value) Lets where
  shared := Sound value
  phase := Knows value
  preserved own sound knows := by
    obtain ⟨sound, knows, _⟩ := own_sound own.2 own.1.1 own.1.2 sound knows
    exact ⟨sound, knows⟩
  undisturbed {s p act t q r} own sound knows other lets := by
    obtain ⟨_, _, rely, present⟩ := own_sound own.2 own.1.1 own.1.2 sound knows
    refine other.stable rely fun reopening => present fun deleting => ?_
    subst deleting
    exact lets reopening

section Samples
open Interleaving (sampleServer)

def sampleSlot : SlotInfo := ⟨0, 256, 0, sampleValue.call.metadata.length, 16, 3, false⟩

/-- One `create_and_seal` of the driver. -/
def sampleHistory : List Interleaving.Event :=
  [.started 0 sampleValue.call, .checked 0 sampleValue.call, .allocated 0 sampleValue.call,
    .allocated 0 sampleValue.call, .inserted 0 sampleValue.call sampleSlot,
    .wroteMetadata 0 sampleValue.call sampleSlot, .wrote 0 sampleValue.call sampleSlot,
    .sealed 0 sampleValue.call sampleSlot .ok]

def sampleNode : Node where
  plasma := .start (sampleServer.createAndSeal sampleValue.call).2
  history := sampleHistory
  locked _ := false
  worker := { CoreWorker.start .newest (.nil 16) (some sampleManager) 0 with
    store := MemoryStore.empty.putPlasma sampleValue.id sampleValue.index }

theorem resting (s : Node) (own : Phase) (act : Act) : Lets s .idle own act := by
  cases act with
  | delete => exact fun same => by cases same
  | _ => trivial

end Samples

end Rayd.Raylet.Pull
